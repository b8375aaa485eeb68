import Analytics.Proofs.Zone.Names

/-!
Offsets of zones. Every offset of a zone is a standard time of its history, alone or with a saving, and
no zone that a request can name is a day or more from universal time.
-/

namespace Analytics.Zone

theorem mem_insertChange {c d : Change} {sorted : List Change} :
    c ∈ insertChange d sorted ↔ c = d ∨ c ∈ sorted := by
  induction sorted with
  | nil => simp [insertChange]
  | cons e rest ih =>
    unfold insertChange
    split
    · exact List.mem_cons
    · rw [List.mem_cons, ih, List.mem_cons]
      exact or_left_comm

theorem mem_insertAll {c : Change} {found sorted : List Change}
    (member : c ∈ found.foldl (fun sorted c => insertChange c sorted) sorted) :
    c ∈ found ∨ c ∈ sorted := by
  induction found generalizing sorted with
  | nil => exact .inr member
  | cons d rest ih =>
    obtain later | among := ih member
    · exact .inl (List.mem_cons_of_mem d later)
    · obtain rfl | before := mem_insertChange.mp among
      · exact .inl List.mem_cons_self
      · exact .inr before

theorem changes_saving {rules : List SeasonRule} {c : Change} (member : c ∈ changes rules) :
    c.saving ∈ rules.map (·.saving) := by
  obtain ⟨k, -, inYear⟩ := List.mem_flatMap.mp member
  obtain made | none := mem_insertAll inYear
  · obtain ⟨rule, among, rfl⟩ := List.mem_map.mp made
    exact List.mem_map.mpr ⟨rule, (List.mem_filter.mp among).1, rfl⟩
  · cases none

/-- The offsets of an era: its standard time, alone and with each saving. -/
def Era.offsets (era : Era) : List Int :=
  era.standard :: match era.saving with
    | .fixed s => [era.standard + s]
    | .rules rules => rules.map fun r => era.standard + r.saving

theorem follow_cons (standard saving : Int) (ends : Option Cutoff) (c : Change)
    (rest : List Change) : (follow standard ends saving (c :: rest)).2 = [] ∨
      (follow standard ends saving (c :: rest)).2
        = ⟨c.cutoff.seconds standard saving, standard + c.saving⟩ ::
          (follow standard ends c.saving rest).2 := by
  cases ends with
  | none => exact .inr rfl
  | some e =>
    by_cases past : e.seconds standard saving ≤ c.cutoff.seconds standard saving
    · exact .inl (by simp only [follow, decide_eq_true past, if_true])
    · exact .inr (by simp only [follow, decide_eq_false past, Bool.false_eq_true, if_false])

theorem follow_offset {standard saving : Int} {ends : Option Cutoff} {cs : List Change}
    {t : Transition} (made : t ∈ (follow standard ends saving cs).2) :
    ∃ c ∈ cs, t.offset = standard + c.saving := by
  induction cs generalizing saving with
  | nil => cases made
  | cons c rest ih =>
    obtain ended | goes := follow_cons standard saving ends c rest
    · rw [ended] at made
      cases made
    · rw [goes] at made
      obtain rfl | later := List.mem_cons.mp made
      · exact ⟨c, List.mem_cons_self, rfl⟩
      · obtain ⟨d, among, offset⟩ := ih later
        exact ⟨d, List.mem_cons_of_mem c among, offset⟩

theorem Era.transitions_offset {era : Era} {start : Option Int} {t : Transition}
    (made : t ∈ (era.transitions start).2) : t.offset ∈ era.offsets := by
  unfold Era.transitions at made
  unfold Era.offsets
  cases saving : era.saving with
  | fixed s =>
    simp only [saving, Option.mem_toList, Option.map_eq_some_iff] at made
    obtain ⟨_, -, rfl⟩ := made
    exact List.mem_cons_of_mem _ (List.mem_singleton_self _)
  | rules rules =>
    have followed {t : Transition} (made : t ∈ (follow era.standard
        (era.ends.map (·.cutoff)) 0 (changes rules)).2) :
        t.offset ∈ era.standard :: rules.map fun r => era.standard + r.saving := by
      obtain ⟨c, among, offset⟩ := follow_offset made
      obtain ⟨rule, member, same⟩ := List.mem_map.mp (changes_saving among)
      exact List.mem_cons_of_mem _ (List.mem_map.mpr ⟨rule, member, by rw [offset, same]⟩)
    simp only [saving] at made
    cases start with
    | none => exact followed made
    | some moment =>
      obtain rfl | later := List.mem_cons.mp made
      · dsimp only
        cases last : List.getLast? _ with
        | none => exact List.mem_cons_self
        | some before =>
          exact followed ((List.takeWhile_sublist _).mem (List.mem_of_getLast? last))
      · exact followed ((List.dropWhile_sublist _).mem later)

theorem eraTransitions_offset {eras : List Era} {start : Option Int} {t : Transition}
    (made : t ∈ eraTransitions start eras) : t.offset ∈ eras.flatMap Era.offsets := by
  induction eras generalizing start with
  | nil => cases made
  | cons era rest ih =>
    rw [List.flatMap_cons]
    obtain own | later := List.mem_append.mp made
    · exact List.mem_append_left _ (Era.transitions_offset own)
    · exact List.mem_append_right _ (ih later)

section

variable (among : Int → Prop) {settled ts : List Transition} {t : Transition}

theorem settleStep_offset (old : ∀ u ∈ settled, among u.offset) (new : among t.offset) :
    ∀ u ∈ settleStep settled t, among u.offset := by
  unfold settleStep
  split
  · rename_i last before older
    obtain ⟨_, others⟩ := List.forall_mem_cons.mp old
    split
    · exact List.forall_mem_cons.mpr ⟨new, others⟩
    split
    · exact old
    · exact List.forall_mem_cons.mpr ⟨new, old⟩
  · split
    · exact old
    · exact List.forall_mem_cons.mpr ⟨new, old⟩
  · exact List.forall_mem_cons.mpr ⟨new, old⟩

theorem settleAll_offset (old : ∀ u ∈ settled, among u.offset) (new : ∀ u ∈ ts, among u.offset) :
    ∀ u ∈ ts.foldl settleStep settled, among u.offset := by
  induction ts generalizing settled with
  | nil => exact old
  | cons t rest ih =>
    obtain ⟨first, others⟩ := List.forall_mem_cons.mp new
    exact ih (settleStep_offset among old first) others

theorem settle_offset {initial : Int} (new : ∀ u ∈ ts, among u.offset) :
    ∀ u ∈ settle initial ts, among u.offset := by
  have all : ∀ u ∈ ts.foldl settleStep [], among u.offset :=
    settleAll_offset among (fun _ member => nomatch member) new
  unfold settle
  split
  · rename_i first rest shape
    have kept : ∀ u ∈ first :: rest, among u.offset := by
      rw [← shape]
      exact fun u member => all u (List.mem_reverse.mp member)
    split
    · exact (List.forall_mem_cons.mp kept).2
    · exact kept
  · exact fun _ member => nomatch member

theorem offsetFrom_mem {current seconds : Int} (first : among current)
    (others : ∀ u ∈ ts, among u.offset) : among (offsetFrom current seconds ts) := by
  induction ts generalizing current with
  | nil => exact first
  | cons t rest ih =>
    obtain ⟨own, later⟩ := List.forall_mem_cons.mp others
    unfold offsetFrom
    split
    · exact ih own later
    · exact first

end

theorem offsetAt_ofEras (name : String) (eras : List Era) (seconds : Int) :
    (ofEras name eras).offsetAt seconds ∈ 0 :: eras.flatMap Era.offsets := by
  have made : ∀ t ∈ eraTransitions none eras, t.offset ∈ 0 :: eras.flatMap Era.offsets :=
    fun t member => List.mem_cons_of_mem 0 (eraTransitions_offset member)
  refine offsetFrom_mem (· ∈ 0 :: eras.flatMap Era.offsets) ?_ (settle_offset _ made)
  cases eras with
  | nil => exact List.mem_cons_self
  | cons era rest =>
    obtain ⟨standard, saving, ends⟩ := era
    refine List.mem_cons_of_mem 0 (List.mem_append_left _ ?_)
    cases saving with
    | fixed s => exact List.mem_cons_of_mem _ (List.mem_singleton_self _)
    | rules rules => exact List.mem_cons_self

theorem offsetAt_eq {z : Zone} {low high s : Int}
    (calm : ∀ c ∈ z.transitions, c.at_ ≤ low ∨ high < c.at_) (from_ : low ≤ s) (upTo : s ≤ high) :
    z.offsetAt s = z.offsetAt low := by
  unfold offsetAt
  generalize z.initial = current
  generalize z.transitions = changes at calm ⊢
  induction changes generalizing current with
  | nil => rfl
  | cons c rest ih =>
    obtain ⟨own, others⟩ := List.forall_mem_cons.mp calm
    have alike : c.at_ ≤ s ↔ c.at_ ≤ low := by omega
    simp only [offsetFrom, alike, fun offset => ih offset others]

/-- Whether a zone's clocks are never a day or more from universal time. -/
def StaysWithinDay (z : Zone) : Prop :=
  ∀ seconds, -86400 < z.offsetAt seconds ∧ z.offsetAt seconds < 86400

theorem histories_withinDay : (histories.all fun h => h.2.all fun era =>
    era.offsets.all fun offset => -86400 < offset && offset < 86400) = true := by decide +kernel

theorem staysWithinDay_utc : utc.StaysWithinDay := fun _ =>
  (by decide : (-86400 : Int) < 0 ∧ (0 : Int) < 86400)

theorem named_staysWithinDay {name : String} {zone : Zone} (found : named? name = some zone) :
    zone.StaysWithinDay := by
  obtain ⟨eras, history, rfl⟩ := Option.map_eq_some_iff.mp found
  intro seconds
  obtain none | some := List.mem_cons.mp (offsetAt_ofEras name eras seconds)
  · rw [none]
    decide
  · obtain ⟨era, among, offset⟩ := List.mem_flatMap.mp some
    have checked := List.all_eq_true.mp histories_withinDay _ (lookup_member history)
    have within := List.all_eq_true.mp (List.all_eq_true.mp checked era among) _ offset
    simpa only [Bool.and_eq_true, decide_eq_true_eq] using within

theorem parse_staysWithinDay {raw : String} {zone : Zone} (parsed : parse raw = .ok zone) :
    zone.StaysWithinDay := by
  simp only [parse] at parsed
  split at parsed
  · cases parsed
    exact staysWithinDay_utc
  · split at parsed
    · rename_i found
      cases parsed
      exact named_staysWithinDay found
    · cases parsed

end Analytics.Zone
