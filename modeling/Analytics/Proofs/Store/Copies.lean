import Analytics.Proofs.Store.Echoes
import Analytics.Proofs.Store.Joined
import Mathlib.Data.List.Forall2

/-!
Answers of two stores whose rows follow each other. Where the rows that a branch counts in one store
echo those that it counts in the other, and it counts distinct values only, it answers the same. So
it does where the rows mirror each other, if rows of one group have equal keys.
-/

namespace Analytics

section

variable {α : Type} {R : α → α → Prop} {as bs : List α} {a b : α} {key : α → List Cell}
  {k : List Cell} {groups groups' : List (List Cell × List α)}

/-- Whether two groups have one key, and the rows of the second one echo those of the first. -/
def EchoedGroup (R : α → α → Prop) (g h : List Cell × List α) : Prop :=
  g.1 = h.1 ∧ Echoes R g.2 h.2

/-- Whether a row is in the group that rows with its key go to. -/
def IsGathered (k : List Cell) (a : α) (groups : List (List Cell × List α)) : Prop :=
  ∃ g, groups.find? (fun g => sameKey g.1 k) = some g ∧ a ∈ g.2

theorem isGathered_cons {k k' : List Cell} {members : List α} :
    IsGathered k a ((k', members) :: groups) ↔
      if sameKey k' k then a ∈ members else IsGathered k a groups := by
  unfold IsGathered
  rw [List.find?_cons]
  cases sameKey k' k <;> simp

theorem isGathered_own (k : List Cell) (a : α) (groups : List (List Cell × List α)) :
    IsGathered k a (gather k a groups) := by
  induction groups with
  | nil => exact isGathered_cons.mpr (by simp [sameKey_self])
  | cons g rest ih =>
    rw [gather_cons]
    split
    · rename_i same
      exact isGathered_cons.mpr (by simp [same])
    · rename_i other
      exact isGathered_cons.mpr (by simpa [other] using ih)

theorem IsGathered.gather (gathered : IsGathered k a groups) (k' : List Cell) (a' : α) :
    IsGathered k a (gather k' a' groups) := by
  induction groups with
  | nil =>
    obtain ⟨_, none, _⟩ := gathered
    cases none
  | cons g rest ih =>
    obtain ⟨own, members⟩ := g
    rw [isGathered_cons] at gathered
    rw [gather_cons]
    by_cases same : sameKey own k = true
    · rw [if_pos same] at gathered
      split
      · exact isGathered_cons.mpr (by simp [same, gathered])
      · exact isGathered_cons.mpr (by simp [same, gathered])
    · rw [if_neg same] at gathered
      split
      · exact isGathered_cons.mpr (by simpa [same] using gathered)
      · exact isGathered_cons.mpr (by simpa [same] using ih gathered)

theorem gatherAll_concat (key : α → List Cell) (as : List α) (a : α) :
    gatherAll ((as ++ [a]).map fun a => (key a, a))
      = gather (key a) a (gatherAll (as.map fun a => (key a, a))) := by
  unfold gatherAll
  rw [List.map_append, List.foldl_append]
  rfl

theorem isGathered (key : α → List Cell) (member : a ∈ as) :
    IsGathered (key a) a (gatherAll (as.map fun a => (key a, a))) := by
  induction as using List.reverseRecOn with
  | nil => cases member
  | append_singleton as last ih =>
    rw [gatherAll_concat]
    rcases List.mem_append.mp member with early | late
    · exact (ih early).gather _ _
    · rw [List.mem_singleton.mp late]
      exact isGathered_own _ _ _

theorem gather_next (matched : List.Forall₂ (EchoedGroup R) groups groups') (own : R a b)
    (k : List Cell) : List.Forall₂ (EchoedGroup R) (gather k a groups) (gather k b groups') := by
  induction matched with
  | nil => exact .cons ⟨rfl, .next .nil own⟩ .nil
  | @cons g g' _ _ first later ih =>
    obtain ⟨_, members⟩ := g
    obtain ⟨_, members'⟩ := g'
    obtain ⟨rfl, echoes⟩ := first
    rw [gather_cons, gather_cons]
    split
    · exact .cons ⟨rfl, .next echoes own⟩ later
    · exact .cons ⟨rfl, echoes⟩ ih

theorem gather_again (matched : List.Forall₂ (EchoedGroup R) groups groups') (own : R a b)
    (known : IsGathered k a groups) : List.Forall₂ (EchoedGroup R) groups (gather k b groups') := by
  induction matched with
  | nil =>
    obtain ⟨_, none, _⟩ := known
    cases none
  | @cons g g' _ _ first later ih =>
    obtain ⟨_, members⟩ := g
    obtain ⟨_, members'⟩ := g'
    obtain ⟨rfl, echoes⟩ := first
    rw [isGathered_cons] at known
    rw [gather_cons]
    split
    · rename_i same
      rw [if_pos same] at known
      exact .cons ⟨rfl, .again echoes known own⟩ later
    · rename_i other
      rw [if_neg other] at known
      exact .cons ⟨rfl, echoes⟩ (ih known)

theorem gathered_echoes (echoes : Echoes R as bs) (same : ∀ a b, R a b → key a = key b) :
    List.Forall₂ (EchoedGroup R) (gatherAll (as.map fun a => (key a, a)))
      (gatherAll (bs.map fun b => (key b, b))) := by
  induction echoes with
  | nil => exact .nil
  | next _ own ih =>
    rw [gatherAll_concat, gatherAll_concat, ← same _ _ own]
    exact gather_next ih own _
  | again _ known own ih =>
    -- The row goes to the group that holds the one it matches, so no group is new.
    rw [gatherAll_concat, ← same _ _ own]
    exact gather_again ih own (isGathered key known)

theorem sorted_matched {P : List Cell × List α → List Cell × List α → Prop}
    (matched : List.Forall₂ P groups groups') (keys : ∀ g h, P g h → g.1 = h.1) :
    List.Forall₂ P (groups.mergeSort keyFirst) (groups'.mergeSort keyFirst) := by
  obtain ⟨lengths, pairs⟩ := List.forall₂_iff_zip.mp matched
  -- Both lists are sorted as one, of pairs.
  have left : (groups.zip groups').map Prod.fst = groups := List.map_fst_zip lengths.le
  have right : (groups.zip groups').map Prod.snd = groups' := List.map_snd_zip lengths.ge
  have first : (((groups.zip groups').mergeSort fun z y => keyFirst z.1 y.1).map Prod.fst)
      = groups.mergeSort keyFirst := by
    have along : ∀ z ∈ groups.zip groups', ∀ y ∈ groups.zip groups',
        keyFirst z.1 y.1 = keyFirst z.1 y.1 := fun _ _ _ _ => rfl
    rw [List.map_mergeSort along, left]
  have second : (((groups.zip groups').mergeSort fun z y => keyFirst z.1 y.1).map Prod.snd)
      = groups'.mergeSort keyFirst := by
    have along : ∀ z ∈ groups.zip groups', ∀ y ∈ groups.zip groups',
        keyFirst z.1 y.1 = keyFirst z.2 y.2 := by
      intro z inside y among
      unfold keyFirst
      rw [keys z.1 z.2 (pairs inside), keys y.1 y.2 (pairs among)]
    rw [List.map_mergeSort along, right]
  rw [← first, ← second, List.forall₂_map_left_iff, List.forall₂_map_right_iff, List.forall₂_same]
  exact fun z member => pairs (List.mem_mergeSort.mp member)

theorem matched_filterMap {β : Type} {f : α → Option β}
    (matched : List.Forall₂ (fun a b => f a = f b) as bs) : as.filterMap f = bs.filterMap f := by
  induction matched with
  | nil => rfl
  | cons head _ ih => rw [List.filterMap_cons, List.filterMap_cons, head, ih]

/-- Whether two groups mirror each other, and their first rows have one key. -/
structure AlikeGroup (R : α → α → Prop) (key : α → List Cell) (g h : List Cell × List α) :
    Prop where
  mirrors : Mirrors R g.2 h.2
  first : ∀ a ∈ g.2.head?, ∀ b ∈ h.2.head?, key a = key b

theorem alike_echoes (echoes : Echoes R as bs) (same : ∀ a b, R a b → key a = key b) :
    List.Forall₂ (AlikeGroup R key)
      ((gatherAll (as.map fun a => (key a, a))).mergeSort keyFirst)
      ((gatherAll (bs.map fun b => (key b, b))).mergeSort keyFirst) := by
  refine (sorted_matched (gathered_echoes echoes same) fun _ _ both => both.1).imp ?_
  intro g h both
  exact ⟨both.2.mirrors, fun a first b other => same a b (both.2.head a first b other)⟩

theorem KeysTold.mirrored (told : KeysTold (as.map fun a => (key a, a))) (mirrors : Mirrors R as bs)
    (same : ∀ a b, R a b → key a = key b) : KeysTold (bs.map fun b => (key b, b)) := by
  apply keysTold_iff.mpr
  intro b member b' among
  obtain ⟨a, known, own⟩ := mirrors.back b member
  obtain ⟨a', known', own'⟩ := mirrors.back b' among
  rw [← same a b own, ← same a' b' own']
  exact keysTold_iff.mp told a known a' known'

theorem mirrored_keys (mirrors : Mirrors R as bs) (same : ∀ a b, R a b → key a = key b)
    (k : List Cell) : k ∈ (as.map fun a => (key a, a)).map (·.1) ↔
      k ∈ (bs.map fun b => (key b, b)).map (·.1) := by
  rw [List.map_map, List.map_map, List.mem_map, List.mem_map]
  constructor
  · rintro ⟨a, member, rfl⟩
    obtain ⟨b, among, own⟩ := mirrors.there a member
    exact ⟨b, among, (same a b own).symm⟩
  · rintro ⟨b, member, rfl⟩
    obtain ⟨a, among, own⟩ := mirrors.back b member
    exact ⟨a, among, same a b own⟩

theorem alike_mirrors (mirrors : Mirrors R as bs) (same : ∀ a b, R a b → key a = key b)
    (told : KeysTold (as.map fun a => (key a, a))) :
    List.Forall₂ (AlikeGroup R key)
      ((gatherAll (as.map fun a => (key a, a))).mergeSort keyFirst)
      ((gatherAll (bs.map fun b => (key b, b))).mergeSort keyFirst) := by
  obtain ⟨ks, sorted, once, keys, grouped⟩ := gathered_sorted _ told
  obtain ⟨ks', sorted', once', keys', grouped'⟩ := gathered_sorted _ (told.mirrored mirrors same)
  have order : ks = ks' := by
    apply sorted_unique _ sorted once sorted' once'
    · intro k
      rw [keys, keys', mirrored_keys mirrors same]
    · intro k first l second
      obtain ⟨row, inside, rfl⟩ := List.mem_map.mp ((keys k).mp first)
      obtain ⟨other, among, rfl⟩ := List.mem_map.mp ((keys l).mp second)
      exact told row inside other among
  rw [grouped, grouped', order, List.forall₂_map_left_iff, List.forall₂_map_right_iff,
    List.forall₂_same]
  intro k _
  constructor
  · rw [keyed_rows, keyed_rows]
    refine (Following.of_mirrors R).filter mirrors fun a b own => ?_
    rw [same a b own]
  · intro a first b other
    rw [keyed_rows] at first other
    have own := (List.mem_filter.mp (List.mem_of_mem_head? first)).2
    have own' := (List.mem_filter.mp (List.mem_of_mem_head? other)).2
    exact (of_decide_eq_true own).trans (of_decide_eq_true own').symm

end

/-- Whether the rows of two scopes, side by side, hold the same in all columns that are read. -/
def RowScope.SameOn (reads : Column → Prop) (s t : RowScope) : Prop := s.view.SameOn reads t.view

section

variable {reads : Column → Prop} {v u : RowView Column} {vs us : List (RowView Column)}
  {s t : RowScope} {db db' : Database} {Φ : List RowScope → List RowScope → Prop}

theorem RowScope.sameOn_refl (reads : Column → Prop) (s : RowScope) : s.SameOn reads s :=
  fun _ _ => ⟨rfl, rfl⟩

namespace Count

variable {c : Count Column}

theorem eval_mirrors {column : Column} (mirrors : Mirrors (RowView.SameOn reads) vs us)
    (counted : c.distinct = some column) (read : ∀ column ∈ c.columns, reads column) :
    c.eval vs = c.eval us := by
  have own : reads column := by
    refine read column (List.mem_append_left _ ?_)
    rw [counted]
    exact List.mem_singleton.mpr rfl
  have event : ∀ named ∈ c.event, reads named.1 := by
    intro named inside
    refine read named.1 (List.mem_append_right _ ?_)
    exact Option.mem_toList.mpr (Option.mem_map_of_mem Prod.fst inside)
  have included := (Following.of_mirrors (RowView.SameOn reads)).filter mirrors
    fun v u same => includes_read same event
  have values : Mirrors Eq ((vs.filter c.includes).map fun v => v.cell column)
      ((us.filter c.includes).map fun u => u.cell column) :=
    included.map fun v u same => (same column own).1.symm
  unfold eval
  rw [counted]
  refine length_distinctCells ((Following.of_mirrors Eq).filter values fun x y same => ?_)
  rw [same]

end Count

namespace Branch

variable {b : Branch}

theorem groupKey_same (same : v.SameOn reads u) (read : ∀ c ∈ b.columns, reads c) :
    b.groupKey v = b.groupKey u := by
  have label : b.label.eval v = b.label.eval u := by
    have own := read b.label.column (mem_columns.mpr (Or.inl List.mem_cons_self))
    unfold BucketLabel.eval
    rw [(same _ own).1]
  have groups : ∀ g ∈ b.groups, g.expr.eval v = g.expr.eval u := fun g member =>
    GroupExpr.eval_same same fun c inside =>
      read c (mem_columns.mpr (Or.inr (Or.inl ⟨g, member, inside⟩)))
  unfold groupKey
  rw [label]
  congr 1
  exact List.map_congr_left fun g member => groups g (List.mem_filter.mp member).1

theorem resultRow_same (key : b.groupKey v = b.groupKey u)
    (counts : ∀ m ∈ b.metrics, m.count.eval vs = m.count.eval us) :
    b.label.eval v = b.label.eval u ∧ b.resultRow v vs = b.resultRow u us := by
  have label := (List.cons.inj key).1
  have groups := groups_of_key key
  have metrics : b.metrics.map (fun m => (m.title.text, Cell.int (m.count.eval vs)))
      = b.metrics.map fun m => (m.title.text, Cell.int (m.count.eval us)) :=
    List.map_congr_left fun m member => by rw [counts m member]
  have columns : b.groups.map (fun g => (g.title.text, g.expr.eval v))
      = b.groups.map fun g => (g.title.text, g.expr.eval u) :=
    List.map_congr_left fun g member => by rw [groups g member]
  refine ⟨label, ?_⟩
  unfold resultRow
  rw [label, metrics, columns]

theorem shown_alike {g h : List Cell × List (RowView Column)} (read : ∀ c ∈ b.columns, reads c)
    (distinct : ∀ m ∈ b.metrics, m.count.distinct.isSome = true)
    (alike : AlikeGroup (RowView.SameOn reads) b.groupKey g h) :
    (g.2.head?.map fun first => (b.label.eval first, b.resultRow first g.2))
      = h.2.head?.map fun first => (b.label.eval first, b.resultRow first h.2) := by
  have counts : ∀ m ∈ b.metrics, m.count.eval g.2 = m.count.eval h.2 := by
    intro m member
    obtain ⟨column, counted⟩ := Option.isSome_iff_exists.mp (distinct m member)
    refine Count.eval_mirrors alike.mirrors counted fun c inside => ?_
    exact read c (mem_columns.mpr (Or.inl (List.mem_cons_of_mem _
      (List.mem_flatMap.mpr ⟨m, member, inside⟩))))
  have none := alike.mirrors.nil_iff
  cases here : g.2.head? with
  | none =>
    rw [none.mp (List.head?_eq_none_iff.mp here)]
    rfl
  | some v =>
    cases there : h.2.head? with
    | none =>
      rw [none.mpr (List.head?_eq_none_iff.mp there)] at here
      cases here
    | some u =>
      obtain ⟨label, row⟩ := resultRow_same (alike.first v here u there) counts
      rw [Option.map_some, Option.map_some, label, row]

theorem answerOf_alike (read : ∀ c ∈ b.columns, reads c)
    (distinct : ∀ m ∈ b.metrics, m.count.distinct.isSome = true)
    (alike : List.Forall₂ (AlikeGroup (RowView.SameOn reads) b.groupKey)
      ((gatherAll (vs.map fun v => (b.groupKey v, v))).mergeSort keyFirst)
      ((gatherAll (us.map fun u => (b.groupKey u, u))).mergeSort keyFirst)) :
    b.answerOf vs = b.answerOf us :=
  matched_filterMap (alike.imp fun _ _ own => shown_alike read distinct own)

end Branch

theorem RowScope.SameOn.beside (same : s.SameOn reads t) {name : Ident} {table table' : Table}
    {row row' : Option TableRow} (columns : table'.columns = table.columns)
    (cells : ∀ c, reads c → c.relation = name →
      row'.map (TableRow.cell · c.name.text) = row.map (TableRow.cell · c.name.text)) :
    RowScope.SameOn reads (⟨name, table, row⟩ :: s) (⟨name, table', row'⟩ :: t) := by
  intro c read
  by_cases own : c.relation = name
  · have here := RowScope.find_own ⟨name, table, row⟩ s
    have there := RowScope.find_own ⟨name, table', row'⟩ t
    dsimp only at here there
    have held := cells c read own
    constructor
    · simp only [RowScope.view, own, here, there, Option.bind_some]
      cases row <;> cases row' <;> simp_all
    · simp only [RowScope.view, own, here, there, Table.affinity_congr columns]
  · have here : RowScope.find? (⟨name, table, row⟩ :: s) c.relation = s.find? c.relation :=
      RowScope.find_beside own
    have there : RowScope.find? (⟨name, table', row'⟩ :: t) c.relation = t.find? c.relation :=
      RowScope.find_beside own
    have held := same c read
    simp only [RowView.SameIn, RowScope.view] at held ⊢
    rw [here, there]
    exact held

/-- Whether a relation has the same columns in two stores, and rows that follow each other. -/
structure Relation.Followed (Φ : List RowScope → List RowScope → Prop) (reads : Column → Prop)
    (db db' : Database) (r : Relation) : Prop where
  columns : (db'.table? r.table.text).map (·.columns) = (db.table? r.table.text).map (·.columns)
  rows : ∀ {s t : RowScope}, s.SameOn reads t → Φ (r.extend db s) (r.extend db' t)

namespace Relation.Followed

variable {r : Relation}

theorem null (followed : r.Followed Φ reads db db') (same : s.SameOn reads t) :
    (r.extendNull db s).SameOn reads (r.extendNull db' t) := by
  have columns := followed.columns
  unfold extendNull
  cases found : db.table? r.table.text with
  | none =>
    rw [found, Option.map_none, Option.map_eq_none_iff] at columns
    rw [columns]
    exact same
  | some table =>
    rw [found, Option.map_some, Option.map_eq_some_iff] at columns
    obtain ⟨table', found', columns⟩ := columns
    rw [found']
    exact same.beside columns fun _ _ _ => rfl

theorem mirrors (following : Following (RowScope.SameOn reads) Φ)
    (followed : r.Followed Φ reads db db') :
    r.Followed (Mirrors (RowScope.SameOn reads)) reads db db' :=
  ⟨followed.columns, fun same => following.mirrors (followed.rows same)⟩

end Relation.Followed

theorem Join.apply_follows {j : Join} (following : Following (RowScope.SameOn reads) Φ)
    (followed : j.relation.Followed Φ reads db db') (read : ∀ c ∈ j.link.columns, reads c)
    (same : s.SameOn reads t) : Φ (j.apply db s) (j.apply db' t) := by
  have linked := following.filter (followed.rows same)
    (p := fun s => (j.link.eval s.view).holds) (q := fun s => (j.link.eval s.view).holds)
    fun s t own => by rw [Predicate.eval_same own read]
  have none := (following.mirrors linked).nil_iff
  unfold apply
  split
  · rename_i missing
    rw [none.mp missing]
    exact following.single (followed.null same)
  · rename_i some
    split
    · rename_i missing
      exact absurd (none.mpr missing) some
    · exact linked

theorem Condition.holds_same {c : Condition}
    (followed : ∀ r link p, c = .linked r link p →
      r.Followed (Mirrors (RowScope.SameOn reads)) reads db db')
    (read : ∀ column ∈ c.columns, reads column) (same : s.SameOn reads t) :
    c.holds db s = c.holds db' t := by
  cases c with
  | plain p => exact congrArg Truth.holds (Predicate.eval_same same read)
  | linked r link p =>
    refine ((followed r link p rfl).rows same).any_eq fun s t own => ?_
    rw [Predicate.eval_same own fun c member => read c (List.mem_append_left _ member),
      Predicate.eval_same own fun c member => read c (List.mem_append_right _ member)]

namespace Branch

variable {b : Branch}

theorem conditions_same
    (followed : ∀ r ∈ b.relations, r.Followed (Mirrors (RowScope.SameOn reads)) reads db db')
    (read : ∀ c ∈ b.columns, reads c) (same : s.SameOn reads t) :
    (b.conditions.all fun c => c.holds db s) = b.conditions.all fun c => c.holds db' t := by
  refine all_same fun c member => Condition.holds_same ?_ ?_ same
  · rintro r link p rfl
    exact followed r (mem_relations.mpr (Or.inr (Or.inr ⟨link, p, member⟩)))
  · exact fun column inside => read column
      (mem_columns.mpr (Or.inr (Or.inr (Or.inr ⟨c, member, inside⟩))))

theorem joined_follow (following : Following (RowScope.SameOn reads) Φ) {joins : List Join}
    (followed : ∀ j ∈ joins, j.relation.Followed Φ reads db db')
    (read : ∀ j ∈ joins, ∀ c ∈ j.link.columns, reads c) {scopes scopes' : List RowScope}
    (start : Φ scopes scopes') :
    Φ (joins.foldl (fun scopes j => scopes.flatMap (j.apply db)) scopes)
      (joins.foldl (fun scopes j => scopes.flatMap (j.apply db')) scopes') := by
  induction joins generalizing scopes scopes' with
  | nil => exact start
  | cons j rest ih =>
    obtain ⟨own, later⟩ := List.forall_mem_cons.mp followed
    obtain ⟨linked, others⟩ := List.forall_mem_cons.mp read
    apply ih later others
    apply following.flatMap start
    intro s t same
    exact Join.apply_follows following own linked same

theorem scopes_follow (following : Following (RowScope.SameOn reads) Φ)
    (followed : ∀ r ∈ b.relations, r.Followed Φ reads db db') (read : ∀ c ∈ b.columns, reads c) :
    Φ (b.scopes db) (b.scopes db') := by
  have events := (followed b.relation (mem_relations.mpr (Or.inl rfl))).rows
    (RowScope.sameOn_refl reads [])
  have tables : ∀ j ∈ b.joins, j.relation.Followed Φ reads db db' := by
    intro j member
    exact followed j.relation (mem_relations.mpr (Or.inr (Or.inl ⟨j, member, rfl⟩)))
  have links : ∀ j ∈ b.joins, ∀ c ∈ j.link.columns, reads c := by
    intro j member c inside
    exact read c (mem_columns.mpr (Or.inr (Or.inr (Or.inl ⟨j, member, inside⟩))))
  unfold scopes
  apply following.filter (joined_follow following tables links events)
  intro s t same
  exact conditions_same (fun r member => (followed r member).mirrors following) read same

theorem knows_followed {rs : List Relation} (followed : ∀ r ∈ rs, r.Followed Φ reads db db')
    (columns : List Column) : db.knows rs columns = db'.knows rs columns :=
  Database.knows_congr fun r member => (followed r member).columns

theorem answer_echoed
    (followed : ∀ r ∈ b.relations, r.Followed (Echoes (RowScope.SameOn reads)) reads db db')
    (read : ∀ c ∈ b.columns, reads c) (distinct : ∀ m ∈ b.metrics, m.count.distinct.isSome = true) :
    b.answer db = b.answer db' := by
  have scopes := scopes_follow (Following.of_echoes _) followed read
  have views : Echoes (RowView.SameOn reads) (b.views db) (b.views db') :=
    scopes.map fun s t same => same
  rw [answer_views, answer_views]
  exact answerOf_alike read distinct (alike_echoes views fun v u same => groupKey_same same read)

theorem answer_mirrored
    (followed : ∀ r ∈ b.relations, r.Followed (Mirrors (RowScope.SameOn reads)) reads db db')
    (read : ∀ c ∈ b.columns, reads c) (distinct : ∀ m ∈ b.metrics, m.count.distinct.isSome = true)
    (told : KeysTold ((b.views db).map fun v => (b.groupKey v, v))) :
    b.answer db = b.answer db' := by
  have scopes := scopes_follow (Following.of_mirrors _) followed read
  have views : Mirrors (RowView.SameOn reads) (b.views db) (b.views db') :=
    scopes.map fun s t same => same
  rw [answer_views, answer_views]
  exact answerOf_alike read distinct
    (alike_mirrors views (fun v u same => groupKey_same same read) told)

theorem answer_unjoined (none : b.joins = [])
    (events : b.relation.extend db [] = b.relation.extend db' [])
    (followed : ∀ r ∈ b.relations, r.Followed (Mirrors (RowScope.SameOn reads)) reads db db')
    (read : ∀ c ∈ b.columns, reads c) : b.answer db = b.answer db' := by
  have scopes : b.scopes db = b.scopes db' := by
    rw [scopes_events none, scopes_events none]
    unfold Branch.events
    rw [events]
    exact List.filter_congr fun s _ => conditions_same followed read (RowScope.sameOn_refl reads s)
  rw [answer_views, answer_views]
  unfold views
  rw [scopes]

end Branch

end

end Analytics
