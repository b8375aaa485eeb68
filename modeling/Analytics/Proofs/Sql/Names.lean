import Analytics.Proofs.Source.Renaming
import Analytics.Proofs.Sql.Placeholders
import Mathlib.Logic.Equiv.Basic

/-!
Names in statements. No name of a request or an application ends its quotes: a statement is closed,
and what it says outside quotes is the same under any other names.
-/

namespace Analytics

namespace Quoting

/-- Whether a reader ends outside quotes and finds neither the end of a statement nor the start of a
comment there. -/
structure IsClosed (cs : List Char) : Prop where
  ends : after .outside cs = .outside
  noEnd : ';' ∉ erase .outside cs
  noLineComment : ¬ ['-', '-'] <:+: erase .outside cs
  noBlockComment : ¬ ['/', '*'] <:+: erase .outside cs

theorem closed_of_free {cs : List Char} (ends : after .outside cs = .outside)
    (free : ∀ c ∈ [';', '-', '*'], c ∉ erase .outside cs) : IsClosed cs := by
  constructor
  · exact ends
  · exact free ';' (by decide)
  · intro comment
    exact free '-' (by decide) (comment.subset List.mem_cons_self)
  · intro comment
    exact free '*' (by decide) (comment.subset (List.mem_cons_of_mem '/' List.mem_cons_self))

end Quoting

namespace Template

theorem outline_free {t : Template} {mark : Char} (tidy : t.IsTidy)
    (noWord : Quoting.isWord mark = false) (other : mark ∉ ['"', '\x27', '?']) :
    mark ∉ t.outline := by
  simp only [List.mem_cons, List.not_mem_nil, or_false, not_or] at other
  obtain ⟨noDouble, noSingle, noSlot⟩ := other
  intro member
  obtain ⟨p, among, inside⟩ := List.mem_flatMap.mp member
  have kept := tidy p among
  cases p with
  | text s => exact Quoting.words_free kept noWord inside
  | name i => simp [Piece.outline, noDouble] at inside
  | literal s => simp [Piece.outline, noSingle] at inside
  | slot value => simp [Piece.outline, noSlot] at inside

theorem numbered_free {t : Template} {mark : Char} (next : Nat) (free : mark ∉ t.outline)
    (noDollar : mark ≠ '$') (noDigit : Digits.isDigit mark = false) :
    mark ∉ t.numbered Piece.outline next := by
  induction t generalizing next with
  | nil => exact List.not_mem_nil
  | cons p t ih =>
    rw [outline_cons, List.mem_append, not_or] at free
    cases fixed : p.value? with
    | none =>
      rw [numbered_fixed _ next t fixed, List.mem_append, not_or]
      exact ⟨free.1, ih next free.2⟩
    | some value =>
      cases p with
      | slot value =>
        rw [numbered, List.mem_cons, List.mem_append, not_or, not_or]
        exact ⟨noDollar, toDigits_free next noDigit, ih (next + 1) free.2⟩
      | _ => cases fixed

theorem closed {t : Template} (tidy : t.IsTidy) : Quoting.IsClosed t.chars := by
  have read := scanned tidy
  apply Quoting.closed_of_free read.1
  rw [read.2]
  simp only [List.forall_mem_cons]
  exact ⟨outline_free tidy rfl (by decide), outline_free tidy rfl (by decide),
    outline_free tidy rfl (by decide), fun c member => absurd member List.not_mem_nil⟩

theorem numbered_closed {t : Template} (next : Nat) (tidy : t.IsTidy) :
    Quoting.IsClosed (t.numbered Piece.chars next) := by
  have read := erase_numbered next tidy
  apply Quoting.closed_of_free read.1
  rw [read.2]
  simp only [List.forall_mem_cons]
  exact ⟨numbered_free next (outline_free tidy rfl (by decide)) (by decide) rfl,
    numbered_free next (outline_free tidy rfl (by decide)) (by decide) rfl,
    numbered_free next (outline_free tidy rfl (by decide)) (by decide) rfl,
    fun c member => absurd member List.not_mem_nil⟩

end Template

/-- Every statement that is built for a request is closed, as it is and as its store reads it; and a
renamed request over a renamed application says the same outside quotes. -/
theorem names_stay_quoted :
    (∀ {q : InsightQuery} {limit : Nat} {p : QueryPlan} {r : Resolved} {s : SeriesStatement},
      q.plan limit = .ok p → (r.source p).build p = .ok s → ∀ d : Dialect,
        Quoting.IsClosed (s.render d).sql.toList ∧
          Quoting.IsClosed (d.numberPlaceholders (s.render d).sql).toList) ∧
    (∀ {ρ : Renaming} {q : InsightQuery} {limit : Nat} {p p' : QueryPlan} {r r' : Resolved}
      {s s' : SeriesStatement}, r.Renamed ρ r' →
        q.plan limit = .ok p → (r.source p).build p = .ok s →
        (q.renamed ρ).plan limit = .ok p' → (r'.source p').build p' = .ok s' → ∀ d : Dialect,
          Quoting.erase .outside (s.render d).sql.toList
            = Quoting.erase .outside (s'.render d).sql.toList) := by
  constructor
  · intro q limit p r s planned built d
    have sound := Source.built_sound planned built d
    have aligned := Template.aligned sound
    rw [SeriesStatement.fragment_template] at aligned
    have own : Quoting.IsClosed (s.render d).sql.toList := by
      rw [aligned.written]
      exact Template.closed sound.tidy
    refine ⟨own, ?_⟩
    cases d with
    | sqlite => exact own
    | postgres =>
      rw [aligned.numbered]
      exact Template.numbered_closed 1 sound.tidy
  · intro ρ q limit p p' r r' s s' resolved planned built planned' built' d
    have own := Template.aligned (Source.built_sound planned built d)
    have other := Template.aligned (Source.built_sound planned' built' d)
    rw [SeriesStatement.fragment_template] at own other
    rw [own.written, other.written, (Template.scanned (Source.built_sound planned built d).tidy).2,
      (Template.scanned (Source.built_sound planned' built' d).tidy).2]
    have renamed := QueryPlan.renamed planned planned'
    exact Source.build_alike (Resolved.source_alike resolved renamed) renamed built built'

theorem prefixed_apart : Function.Injective fun s : String => "new " ++ s :=
  fun _ _ same => (String.append_right_inj "new ").mp same

theorem swapped_apart : Function.Injective (Equiv.swap "visit" "order") :=
  (Equiv.swap "visit" "order").injective

theorem swapped_every : Equiv.swap "visit" "order" allEvent = allEvent := by decide +kernel

def swappedCities : Json → Json
  | .text s => .text (Equiv.swap "Graz" "Linz" s)
  | v => v

theorem swappedCities_long (v : Json) : v.Alike (swappedCities v) := by
  intro items others same same'
  subst same
  exact congrArg List.length (Json.array.inj same')

def sampleRenaming : Renaming where
  table s := "new " ++ s
  column s := "new " ++ s
  event := Equiv.swap "visit" "order"
  literal := swappedCities
  columns_apart := prefixed_apart
  events_apart := swapped_apart
  every_event := swapped_every
  lists_long := swappedCities_long

def sampleTable (table created session event place system : Ident) : WideTable :=
  ⟨"shop", none, table, created, .datetime, none, Zone.utc, session, some event,
    [⟨place, .string, none⟩, ⟨system, .string, none⟩]⟩

def sampleShop : WideTable :=
  sampleTable ⟨"orders", rfl⟩ ⟨"created", rfl⟩ ⟨"session", rfl⟩ ⟨"event", rfl⟩ ⟨"place", rfl⟩
    ⟨"system", rfl⟩

def sampleRenamedShop : WideTable :=
  sampleTable ⟨"new orders", rfl⟩ ⟨"new created", rfl⟩ ⟨"new session", rfl⟩ ⟨"new event", rfl⟩
    ⟨"new place", rfl⟩ ⟨"new system", rfl⟩

def sampleWideRequest : InsightQuery :=
  { sampleRequest with
    insightType := .wideTable
    filters := [⟨"system", .string, "eq", .text "it's ?"⟩]
    groups := [⟨"system", .string, []⟩,
      ⟨"place", .string, [⟨"eq", .text "Graz"⟩, ⟨"contains", .text "r"⟩]⟩] }

theorem names_stay_quoted_shop : ∃ p p' s s',
    sampleWideRequest.plan 10 = .ok p ∧
    ((Resolved.wide sampleShop .memory).source p).build p = .ok s ∧
    (sampleWideRequest.renamed sampleRenaming).plan 10 = .ok p' ∧
    ((Resolved.wide sampleRenamedShop .memory).source p').build p' = .ok s' ∧
    Quoting.IsClosed (s.render .postgres).sql.toList ∧
    Quoting.erase .outside (s.render .postgres).sql.toList
      = Quoting.erase .outside (s'.render .postgres).sql.toList := by
  obtain ⟨p, s, planned, built⟩ := exists_built (q := sampleWideRequest)
    (r := .wide sampleShop .memory) (by decide +kernel)
  obtain ⟨p', s', planned', built'⟩ := exists_built (q := sampleWideRequest.renamed sampleRenaming)
    (r := .wide sampleRenamedShop .memory) (by decide +kernel)
  have renamed : (Resolved.wide sampleShop .memory).Renamed sampleRenaming
      (.wide sampleRenamedShop .memory) := by
    refine .wide ⟨rfl, rfl, rfl, rfl, rfl, rfl, rfl, ?_⟩
    exact .cons ⟨rfl, rfl, rfl⟩ (.cons ⟨rfl, rfl, rfl⟩ .nil)
  exact ⟨p, p', s, s', planned, built, planned', built',
    (names_stay_quoted.1 planned built .postgres).1,
    names_stay_quoted.2 renamed planned built planned' built' .postgres⟩

end Analytics
