import Analytics.Proofs.Query.Checks
import Analytics.Proofs.Sql.Statements
import Analytics.Proofs.Zone.Names

/-!
Placeholders and parameters. In every statement of the engine the marks of placeholders are as many
as the parameters and stand outside quotes, each where its own parameter belongs; numbering the
placeholders gives each one the place of its parameter and leaves the rest as it is.
-/

namespace Analytics

namespace Template

theorem numbered_markless {t : Template} (next : Nat) (tidy : t.IsTidy) :
    '?' ∉ t.numbered Piece.chars next := by
  induction t generalizing next with
  | nil => exact List.not_mem_nil
  | cons p t ih =>
    obtain ⟨first, rest⟩ := tidy_cons.mp tidy
    cases fixed : p.value? with
    | none =>
      have head : '?' ∉ p.chars := by
        have none := (Piece.count_mark first).1
        rw [fixed] at none
        exact List.count_eq_zero.mp none
      rw [numbered_fixed _ next t fixed, List.mem_append, not_or]
      exact ⟨head, ih next rest⟩
    | some value =>
      cases p with
      | slot value =>
        rw [numbered, List.mem_cons, List.mem_append, not_or, not_or]
        exact ⟨by decide, toDigits_free next rfl, ih (next + 1) rest⟩
      | _ => cases fixed

end Template

structure Aligned (t : Template) (s : Statement) : Prop where
  written : s.sql.toList = t.chars
  /-- The parameters are those of the placeholders, in the order of the text. -/
  params : s.params = t.slots
  marks : s.sql.toList.count '?' = s.params.length
  marksOutside : (Quoting.erase .outside s.sql.toList).count '?' = s.params.length
  /-- Numbering writes numbers for placeholders and every other piece as it was. -/
  numbered : (Dialect.postgres.numberPlaceholders s.sql).toList = t.numbered Piece.chars 1
  markless : '?' ∉ (Dialect.postgres.numberPlaceholders s.sql).toList
  numbers : dollarDigits (Quoting.erase .outside (Dialect.postgres.numberPlaceholders s.sql).toList)
    = (List.range' 1 s.params.length).map (Nat.toDigits 10)

namespace Template

theorem aligned {t : Template} (sound : t.IsSound) : Aligned t t.fragment.toStatement := by
  have written : t.fragment.toStatement.sql.toList = t.chars := String.toList_ofList
  have numbered : (Dialect.postgres.numberPlaceholders t.fragment.toStatement.sql).toList
      = t.numbered Piece.chars 1 := by
    rw [Dialect.numberPlaceholders, String.toList_ofList, written, numberFrom_chars 1 sound.tidy]
  have counts := count_mark sound.tidy
  constructor
  · exact written
  · rfl
  · rw [written]
    exact counts.1
  · rw [written, (scanned sound.tidy).2]
    exact counts.2
  · exact numbered
  · rw [numbered]
    exact numbered_markless 1 sound.tidy
  · rw [numbered, (erase_numbered 1 sound.tidy).2]
    exact dollarDigits_numbered 1 sound.tidy sound.spaced

end Template

theorem RequestedSpan.zone_quiet {t : RequestedSpan} {w : Window} (spanned : t.window = .ok w) :
    IsQuiet w.zone.name :=
  Zone.parse_quiet (RequestedSpan.window_ok spanned).2.2.2

theorem Source.built_sound {q : InsightQuery} {limit : Nat} {p : QueryPlan} {source : Source}
    {s : SeriesStatement} (planned : q.plan limit = .ok p) (built : source.build p = .ok s)
    (d : Dialect) : (s.template d).IsSound := by
  apply SeriesStatement.template_sound
  intro b member
  obtain ⟨selection, _, made⟩ := matched_right (Source.built built) member
  rw [made.label]
  exact RequestedSpan.zone_quiet (InsightQuery.passes planned).window

/-- Every statement that is built for a request, over any application, and every statement of a
listing is aligned with its template. -/
theorem statements_aligned :
    (∀ {q : InsightQuery} {limit : Nat} {p : QueryPlan} {r : Resolved} {s : SeriesStatement},
      q.plan limit = .ok p → (r.source p).build p = .ok s →
        ∀ d, Aligned (s.template d) (s.render d)) ∧
    (∀ (l : Listing) (after : Option Int) (d : Dialect),
      Aligned (l.template d after) (l.statement d after)) := by
  constructor
  · intro q limit p r s planned built d
    rw [← SeriesStatement.fragment_template]
    exact Template.aligned (Source.built_sound planned built d)
  · intro l after d
    rw [← Listing.fragment_template]
    exact Template.aligned (l.template_sound d after)

theorem statements_aligned_sample : ∃ p s, sampleRequest.plan 10 = .ok p ∧
    (Resolved.internal.source p).build p = .ok s ∧
      Aligned (s.template .postgres) (s.render .postgres) := by
  obtain ⟨p, s, planned, built⟩ := sampleRequest_builds
  exact ⟨p, s, planned, built, statements_aligned.1 planned built .postgres⟩

end Analytics
