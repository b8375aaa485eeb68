import Analytics.Proofs.Sql.Sound
import Analytics.Sql.Predicate
import Analytics.Query.Branch

/-!
The templates of columns, predicates and group columns. Each one spells what is rendered, with every
bound value at its placeholder, and is sound.
-/

namespace Analytics

open Template

namespace Column

def template (c : Column) : Template := [.name c.relation, .text ".", .name c.name]

theorem fragment_template (c : Column) : c.template.fragment = Fragment.raw c.render := by
  rw [template, fragment_cons, fragment_cons (.text "."), fragment_name, fragment_text,
    fragment_name, ← Fragment.raw_append, ← Fragment.raw_append, ← String.append_assoc, render]

theorem template_sound (c : Column) : c.template.IsSound :=
  sound_named c.relation (sound_words rfl (sound_name c.name))

end Column

namespace Dialect

/-- What a cast to a type is written with, before and behind the value. -/
def numberWords : Dialect → String × String
  | .postgres => ("CAST(", " AS double precision)")
  | .sqlite => ("CAST(", " AS REAL)")

def timestampWords : Dialect → String × String
  | .postgres => ("CAST(", " AS timestamp)")
  | .sqlite => ("datetime(", ")")

def dateWords : Dialect → String × String
  | .postgres => ("CAST(", " AS date)")
  | .sqlite => ("date(", ")")

end Dialect

namespace Scalar

def template (d : Dialect) : Scalar Column → Template
  | column c => c.template
  | bound value => [.slot value]
  | number e => (e.template d).enclose d.numberWords.1 d.numberWords.2
  | timestamp e => (e.template d).enclose d.timestampWords.1 d.timestampWords.2
  | date e => (e.template d).enclose d.dateWords.1 d.dateWords.2

theorem fragment_template (d : Dialect) (e : Scalar Column) :
    (e.template d).fragment = e.render Column.render d := by
  induction e with
  | column c => exact c.fragment_template
  | bound value => exact fragment_slot value
  | number e ih =>
    rw [template, fragment_enclose, ih]
    cases d <;> rfl
  | timestamp e ih =>
    rw [template, fragment_enclose, ih]
    cases d <;> rfl
  | date e ih =>
    rw [template, fragment_enclose, ih]
    cases d <;> rfl

theorem template_sound (d : Dialect) (e : Scalar Column) : (e.template d).IsSound := by
  induction e with
  | column c => exact c.template_sound
  | bound value => exact sound_slot value
  | number e ih => cases d <;> exact sound_enclose rfl rfl rfl ih
  | timestamp e ih => cases d <;> exact sound_enclose rfl rfl rfl ih
  | date e ih => cases d <;> exact sound_enclose rfl rfl rfl ih

end Scalar

namespace Comparison

theorem symbol_words (c : Comparison) :
    (" " ++ c.symbol ++ " ").toList.all Quoting.isWord = true ∧
      isOpening (" " ++ c.symbol ++ " ") = true := by
  cases c <;> exact ⟨rfl, rfl⟩

end Comparison

namespace Dialect

theorem like_words (d : Dialect) :
    (" " ++ d.likeOperator ++ " ").toList.all Quoting.isWord = true ∧
      isOpening (" " ++ d.likeOperator ++ " ") = true := by
  cases d <;> exact ⟨rfl, rfl⟩

end Dialect

namespace Predicate

def likeTemplate (d : Dialect) (c : Column) (pattern : String) : Template :=
  c.template ++ .text (" " ++ d.likeOperator ++ " ") ::
    ([.slot (.text pattern)] ++ .text " ESCAPE " :: [.literal "\\"])

def listTemplate (d : Dialect) (word : String) (item : Scalar Column)
    (items : List (Scalar Column)) : Template :=
  item.template d ++ .text (" " ++ word ++ " ") ::
    (join ", " (items.map (Scalar.template d))).enclose "(" ")"

def template (d : Dialect) : Predicate Column → Template
  | always => [.text "1=1"]
  | never => [.text "1=0"]
  | isNull c => c.template ++ [.text " IS NULL"]
  | isNotNull c => c.template ++ [.text " IS NOT NULL"]
  | compare comparison left right =>
    left.template d ++ .text (" " ++ comparison.symbol ++ " ") :: right.template d
  | both first second => first.template d ++ .text " AND " :: second.template d
  | within item items => listTemplate d "IN" item items
  | notWithin item items => listTemplate d "NOT IN" item items
  | like c pattern => likeTemplate d c pattern
  | notLike c pattern => (likeTemplate d c pattern).enclose "NOT (" ")"

theorem fragment_likeTemplate (d : Dialect) (c : Column) (pattern : String) :
    (likeTemplate d c pattern).fragment = renderLike Column.render d c pattern := by
  have marks : " ESCAPE '\\'" = " ESCAPE " ++ ("'" ++ "\\" ++ "'") := rfl
  rw [likeTemplate, fragment_behind, fragment_behind, c.fragment_template, fragment_slot,
    fragment_literal, renderLike, marks]
  simp only [Fragment.andThen_eq, Fragment.raw_append, Fragment.append_assoc]

theorem fragment_listTemplate (d : Dialect) (word : String) (item : Scalar Column)
    (items : List (Scalar Column)) :
    (listTemplate d word item items).fragment = renderList Column.render d word item items := by
  have each : items.map (fragment ∘ Scalar.template d) = items.map (·.render Column.render d) :=
    List.map_congr_left fun e _ => e.fragment_template d
  rw [listTemplate, fragment_behind, fragment_enclose, fragment_join, List.map_map, each,
    item.fragment_template, renderList]

theorem fragment_template (d : Dialect) (p : Predicate Column) :
    (p.template d).fragment = p.render Column.render d := by
  induction p with
  | always => exact fragment_text "1=1"
  | never => exact fragment_text "1=0"
  | isNull c =>
    rw [template, fragment_append, c.fragment_template, fragment_text, ← Fragment.raw_append]
    rfl
  | isNotNull c =>
    rw [template, fragment_append, c.fragment_template, fragment_text, ← Fragment.raw_append]
    rfl
  | compare comparison left right =>
    rw [template, fragment_behind, left.fragment_template, right.fragment_template]
    rfl
  | both first second ih₁ ih₂ =>
    rw [template, fragment_behind, ih₁, ih₂]
    rfl
  | within item items => exact fragment_listTemplate d "IN" item items
  | notWithin item items => exact fragment_listTemplate d "NOT IN" item items
  | like c pattern => exact fragment_likeTemplate d c pattern
  | notLike c pattern =>
    rw [template, fragment_enclose, fragment_likeTemplate]
    rfl

theorem likeTemplate_sound (d : Dialect) (c : Column) (pattern : String) :
    (likeTemplate d c pattern).IsSound := by
  have escape : IsSound [.literal "\\"] := sound_literal ⟨by decide, by decide⟩
  have matched : IsSound ([.slot (.text pattern)] ++ .text " ESCAPE " :: [.literal "\\"]) :=
    sound_behind (sound_slot (.text pattern)) rfl rfl escape
  exact sound_behind c.template_sound d.like_words.1 d.like_words.2 matched

theorem listTemplate_sound {word : String} (d : Dialect) (item : Scalar Column)
    (items : List (Scalar Column)) (words : (" " ++ word ++ " ").toList.all Quoting.isWord = true)
    (opening : isOpening (" " ++ word ++ " ") = true) :
    (listTemplate d word item items).IsSound := by
  have listed : IsSound (join ", " (items.map (Scalar.template d))) := by
    apply sound_join rfl rfl
    intro t member
    obtain ⟨e, _, rfl⟩ := List.mem_map.mp member
    exact e.template_sound d
  exact sound_behind (item.template_sound d) words opening (sound_enclose rfl rfl rfl listed)

theorem template_sound (d : Dialect) (p : Predicate Column) : (p.template d).IsSound := by
  induction p with
  | always => exact sound_text rfl
  | never => exact sound_text rfl
  | isNull c => exact sound_behind c.template_sound rfl rfl sound_nil
  | isNotNull c => exact sound_behind c.template_sound rfl rfl sound_nil
  | compare comparison left right =>
    exact sound_behind (left.template_sound d) comparison.symbol_words.1 comparison.symbol_words.2
      (right.template_sound d)
  | both first second ih₁ ih₂ => exact sound_behind ih₁ rfl rfl ih₂
  | within item items => exact listTemplate_sound d item items rfl rfl
  | notWithin item items => exact listTemplate_sound d item items rfl rfl
  | like c pattern => exact likeTemplate_sound d c pattern
  | notLike c pattern => exact sound_enclose rfl rfl rfl (likeTemplate_sound d c pattern)

end Predicate

end Analytics
