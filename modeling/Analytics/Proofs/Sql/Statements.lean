import Analytics.Paging.Listing
import Analytics.Proofs.Sql.Labels

/-!
The templates of whole statements: of the branches of a request for series, and of listings. A
template spells its statement, and is sound where the names of zones are quiet.
-/

namespace Analytics

open Template

namespace Relation

def template (r : Relation) : Template := [.name r.table, .text " AS ", .name r.name]

theorem fragment_template (r : Relation) : r.template.fragment = Fragment.raw r.render := by
  simp only [template, render, fragment_name_cons, fragment_text_cons, fragment_nil,
    Fragment.raw_append, Fragment.append_assoc, Fragment.append_empty]

theorem template_sound (r : Relation) : r.template.IsSound :=
  sound_named r.table (sound_words rfl (sound_name r.name))

end Relation

namespace Count

/-- What is counted: the values of a column, or rows. -/
def countedTemplate (c : Count Column) : Template :=
  match c.distinct with
  | some column => column.template
  | none => [.text "1"]

def word (c : Count Column) : String :=
  if c.distinct.isSome then "COUNT(DISTINCT " else "COUNT("

def countedText (c : Count Column) : String :=
  match c.distinct with
  | some column => column.render
  | none => "1"

theorem render_eq (c : Count Column) : c.render Column.render =
    match c.event with
    | none => Fragment.raw (c.word ++ c.countedText ++ ")")
    | some (column, event) =>
      Fragment.bound (c.word ++ "CASE WHEN " ++ column.render ++ " = ? THEN " ++ c.countedText
        ++ " END)") [.text event] := by
  obtain ⟨distinct, event⟩ := c
  cases distinct <;> cases event <;> rfl

def template (c : Count Column) : Template :=
  match c.event with
  | none => c.countedTemplate.enclose c.word ")"
  | some (column, event) =>
    .text c.word :: .text "CASE WHEN " :: (column.template ++ .text " = " ::
      ([.slot (.text event)] ++ .text " THEN " :: (c.countedTemplate ++ .text " END)" :: [])))

theorem fragment_template (c : Count Column) : c.template.fragment = c.render Column.render := by
  have marked : " = ? THEN " = " = " ++ ("?" ++ " THEN ") := rfl
  have counted : c.countedTemplate.fragment = Fragment.raw c.countedText := by
    unfold countedTemplate countedText
    split
    · exact Column.fragment_template _
    · exact fragment_text "1"
  rw [render_eq]
  unfold template
  split
  · rw [fragment_enclose, counted, Fragment.enclose_eq, Fragment.raw_append, Fragment.raw_append,
      Fragment.append_assoc]
  · rename_i column event _
    have shape : c.word ++ "CASE WHEN " ++ column.render ++ " = ? THEN " ++ c.countedText ++ " END)"
        = c.word ++ "CASE WHEN " ++ column.render ++ " = " ++ ("?" ++ (" THEN " ++ c.countedText
          ++ " END)")) := by
      simp only [marked, String.append_assoc]
    simp only [shape, Fragment.bound_one, fragment_text_cons, fragment_slot_cons, fragment_append,
      fragment_nil, counted, column.fragment_template, Fragment.raw_append, Fragment.append_assoc,
      Fragment.append_empty]

theorem word_words (c : Count Column) : c.word.toList.all Quoting.isWord = true := by
  unfold word
  split <;> rfl

theorem countedTemplate_sound (c : Count Column) : c.countedTemplate.IsSound := by
  unfold countedTemplate
  split
  · exact Column.template_sound _
  · exact sound_text rfl

theorem template_sound (c : Count Column) : c.template.IsSound := by
  unfold template
  split
  · exact sound_enclose c.word_words rfl rfl c.countedTemplate_sound
  · rename_i column event _
    have counted := sound_behind (s := " END)") c.countedTemplate_sound rfl rfl sound_nil
    have own := sound_behind (s := " THEN ") (sound_slot (.text event)) rfl rfl counted
    have read := sound_behind (s := " = ") column.template_sound rfl rfl own
    exact sound_words c.word_words (sound_words rfl read)

end Count

/-- What stands behind the value of a result column. -/
def titleTemplate (title : Ident) : Template := [.text " AS ", .name title]

theorem fragment_titled (t : Template) (title : Ident) :
    (t ++ titleTemplate title).fragment = t.fragment.andThen (" AS " ++ title.quoted) := by
  rw [titleTemplate, fragment_behind, fragment_name, Fragment.andThen_eq, Fragment.andThen_eq,
    Fragment.raw_append, Fragment.append_assoc]

theorem titled_sound {t : Template} (title : Ident) (sound : t.IsSound) :
    IsSound (t ++ titleTemplate title) := sound_behind sound rfl rfl (sound_name title)

namespace MetricColumn

def template (m : MetricColumn) : Template := m.count.template ++ titleTemplate m.title

theorem fragment_template (m : MetricColumn) : m.template.fragment = m.render := by
  rw [template, fragment_titled, m.count.fragment_template, render]

theorem template_sound (m : MetricColumn) : m.template.IsSound :=
  titled_sound m.title m.count.template_sound

end MetricColumn

namespace GroupColumn

def exprTemplate (d : Dialect) : GroupExpr Column → Template
  | .value column => column.template
  | .flag p => (p.template d).enclose "CASE WHEN " " THEN 1 ELSE 0 END"
  | .zero => [.text "0"]

def template (d : Dialect) (c : GroupColumn Column) : Template :=
  exprTemplate d c.expr ++ titleTemplate c.title

theorem fragment_template (d : Dialect) (c : GroupColumn Column) :
    (c.template d).fragment = c.render Column.render d := by
  obtain ⟨expr, title⟩ := c
  rw [template, fragment_titled, render]
  cases expr with
  | value column => rw [exprTemplate, column.fragment_template]
  | flag p => rw [exprTemplate, fragment_enclose, p.fragment_template]
  | zero => rw [exprTemplate, fragment_text]

theorem template_sound (d : Dialect) (c : GroupColumn Column) : (c.template d).IsSound := by
  obtain ⟨expr, title⟩ := c
  cases expr with
  | value column => exact titled_sound title column.template_sound
  | flag p => exact titled_sound title (sound_enclose rfl rfl rfl (p.template_sound d))
  | zero => exact titled_sound title (sound_text rfl)

end GroupColumn

namespace Join

def template (d : Dialect) (j : Join) : Template :=
  .text " LEFT JOIN " :: (j.relation.template ++ .text " ON " :: j.link.template d)

theorem fragment_template (d : Dialect) (j : Join) : (j.template d).fragment = j.render d := by
  rw [template, fragment_cons, fragment_behind, fragment_text, j.relation.fragment_template,
    j.link.fragment_template, render]
  simp only [Fragment.andThen_eq, Fragment.raw_append, Fragment.append_assoc]

/-- A template with joins behind it. -/
theorem joined_sound {t : Template} (d : Dialect) (joins : List Join) (sound : t.IsSound) :
    IsSound (t ++ joins.flatMap (template d)) := by
  induction joins generalizing t with
  | nil =>
    rw [List.flatMap_nil, List.append_nil]
    exact sound
  | cons j rest ih =>
    have linked := sound_behind (s := " ON ") j.relation.template_sound rfl rfl
      (j.link.template_sound d)
    have joined := ih (sound_behind (s := " LEFT JOIN ") sound rfl rfl linked)
    rw [List.flatMap_cons, ← List.append_assoc]
    exact joined

end Join

namespace Condition

def template (d : Dialect) : Condition → Template
  | plain p => p.template d
  | linked relation link p =>
    .text "EXISTS (SELECT 1 FROM " :: (relation.template ++ .text " WHERE " ::
      (link.template d ++ .text " AND " :: ((p.template d).enclose "(" ")" ++ .text ")" :: [])))

theorem fragment_template (d : Dialect) (c : Condition) : (c.template d).fragment = c.render d := by
  cases c with
  | plain p => exact p.fragment_template d
  | linked relation link p =>
    rw [template, fragment_cons, fragment_behind, fragment_behind, fragment_behind, fragment_text,
      relation.fragment_template, link.fragment_template, fragment_enclose, p.fragment_template,
      render, fragment_nil]
    simp only [Fragment.enclose_eq, Fragment.andThen_eq, Fragment.raw_append, Fragment.append_assoc,
      Fragment.append_empty]

theorem template_sound (d : Dialect) (c : Condition) : (c.template d).IsSound := by
  cases c with
  | plain p => exact p.template_sound d
  | linked relation link p =>
    have inner : IsSound ((p.template d).enclose "(" ")") :=
      sound_enclose rfl rfl rfl (p.template_sound d)
    have closed := sound_behind (s := ")") inner rfl rfl sound_nil
    have both := sound_behind (s := " AND ") (link.template_sound d) rfl rfl closed
    exact sound_words rfl (sound_behind relation.template_sound rfl rfl both)

end Condition

/-- The name of the label's column, as a name. -/
def dateTitle : Ident := ⟨"date", rfl⟩

namespace Branch

def selectedTemplate (d : Dialect) (b : Branch) : Template :=
  join ", " ((b.label.template d ++ titleTemplate dateTitle) ::
    (b.metrics.map MetricColumn.template ++ b.groups.map (GroupColumn.template d)))

def sourceTemplate (d : Dialect) (b : Branch) : Template :=
  b.relation.template ++ b.joins.flatMap (Join.template d)

/-- The places that rows are grouped by. -/
def positionsTemplate (b : Branch) : Template :=
  join ", " (b.groupPositions.map fun n => [.text (toString n)])

def template (d : Dialect) (b : Branch) : Template :=
  .text "SELECT " :: (b.selectedTemplate d ++ .text " FROM " ::
    (b.sourceTemplate d ++ .text " WHERE " ::
      (conjunction (b.conditions.map (Condition.template d)) ++ .text " GROUP BY " ::
        b.positionsTemplate)))

theorem fragment_selectedTemplate (d : Dialect) (b : Branch) :
    (b.selectedTemplate d).fragment = b.selected d := by
  have title : " AS " ++ dateTitle.quoted = " AS \"" ++ (dateColumnName ++ "\"") := rfl
  have label : (b.label.template d ++ titleTemplate dateTitle).fragment
      = Fragment.raw (b.label.render Column.render d ++ " AS \"" ++ dateColumnName ++ "\"") := by
    rw [fragment_titled, b.label.fragment_template, Fragment.andThen_eq, title, ← Fragment.raw_append,
      String.append_assoc, String.append_assoc]
  have metrics : (fragment ∘ MetricColumn.template) = MetricColumn.render :=
    funext MetricColumn.fragment_template
  have groups : (fragment ∘ GroupColumn.template d) = (·.render Column.render d) :=
    funext (GroupColumn.fragment_template d)
  rw [selectedTemplate, fragment_join, List.map_cons, List.map_append, List.map_map, List.map_map,
    label, metrics, groups]
  rfl

theorem fragment_joins (d : Dialect) (joins : List Join) (t : Template) :
    (t ++ joins.flatMap (Join.template d)).fragment
      = (joins.map (Join.render d)).foldl (· ++ ·) t.fragment := by
  induction joins generalizing t with
  | nil => rw [List.flatMap_nil, List.append_nil, List.map_nil, List.foldl_nil]
  | cons j rest ih =>
    rw [List.flatMap_cons, ← List.append_assoc, ih, fragment_append, j.fragment_template,
      List.map_cons, List.foldl_cons]

theorem fragment_positionsTemplate (b : Branch) : b.positionsTemplate.fragment
    = Fragment.raw (String.intercalate ", " (b.groupPositions.map toString)) := by
  have each : (fragment ∘ fun n : Nat => [.text (toString n)]) = Fragment.raw ∘ toString :=
    funext fun n => fragment_text (toString n)
  rw [positionsTemplate, fragment_join, List.map_map, each, ← List.map_map, Fragment.join_raw]

theorem fragment_template (d : Dialect) (b : Branch) : (b.template d).fragment = b.render d := by
  have conditions : (fragment ∘ Condition.template d) = Condition.render d :=
    funext (Condition.fragment_template d)
  have source : (b.sourceTemplate d).fragment = b.source d := by
    rw [sourceTemplate, fragment_joins, b.relation.fragment_template, Branch.source]
  rw [template, fragment_text_cons, fragment_behind, fragment_behind, fragment_behind,
    b.fragment_selectedTemplate, source, fragment_conjunction, List.map_map, conditions,
    b.fragment_positionsTemplate, render]
  simp only [Fragment.andThen_eq, Fragment.raw_append, Fragment.append_assoc]

theorem template_sound {b : Branch} (d : Dialect) (quiet : IsQuiet b.label.zone) :
    (b.template d).IsSound := by
  have selected : IsSound (b.selectedTemplate d) := by
    apply sound_join rfl rfl
    simp only [List.forall_mem_cons, List.forall_mem_append, List.forall_mem_map]
    exact ⟨titled_sound dateTitle (BucketLabel.template_sound d quiet),
      fun m _ => m.template_sound, fun c _ => c.template_sound d⟩
  have source : IsSound (b.sourceTemplate d) := Join.joined_sound d b.joins b.relation.template_sound
  have conditions : IsSound (conjunction (b.conditions.map (Condition.template d))) :=
    sound_conjunction (List.forall_mem_map.mpr fun c _ => c.template_sound d)
  have positions : IsSound b.positionsTemplate :=
    sound_join rfl rfl (List.forall_mem_map.mpr fun n _ => sound_text (toString_words n))
  have confined := sound_behind (s := " GROUP BY ") conditions rfl rfl positions
  have found := sound_behind (s := " WHERE ") source rfl rfl confined
  exact sound_words rfl (sound_behind selected rfl rfl found)

end Branch

namespace SeriesStatement

def template (d : Dialect) (s : SeriesStatement) : Template :=
  join " UNION ALL " (s.branches.map (Branch.template d)) ++ .text " ORDER BY 1 ASC" :: []

theorem fragment_template (d : Dialect) (s : SeriesStatement) :
    (s.template d).fragment.toStatement = s.render d := by
  have branches : (fragment ∘ Branch.template d) = Branch.render d :=
    funext (Branch.fragment_template d)
  rw [template, fragment_behind, fragment_nil, Fragment.append_empty, fragment_join, List.map_map,
    branches, render]

theorem template_sound {s : SeriesStatement} (d : Dialect)
    (quiet : ∀ b ∈ s.branches, IsQuiet b.label.zone) : (s.template d).IsSound := by
  have branches : IsSound (join " UNION ALL " (s.branches.map (Branch.template d))) :=
    sound_join rfl rfl
      (List.forall_mem_map.mpr fun b member => Branch.template_sound d (quiet b member))
  exact sound_behind branches rfl rfl sound_nil

end SeriesStatement

namespace Listing

/-- The conditions of a page, the place behind a key last. -/
def conditionTemplates (d : Dialect) (l : Listing) (after : Option Int) : List Template :=
  conjunction (l.conditions.map (Condition.template d)) ::
    (after.map fun key => (l.behind key).template d).toList

def template (d : Dialect) (l : Listing) (after : Option Int) : Template :=
  .text "SELECT " :: (join ", " (l.columns.map Column.template) ++ .text " FROM " ::
    (l.relation.template ++ .text " WHERE " ::
      (conjunction (l.conditionTemplates d after) ++ .text " ORDER BY " ::
        (l.key.template ++ .text (" " ++ l.order.word ++ " LIMIT ") :: [.slot (.int l.limit)]))))

theorem fragment_template (d : Dialect) (l : Listing) (after : Option Int) :
    (l.template d after).fragment.toStatement = l.statement d after := by
  have columns : (fragment ∘ Column.template) = Fragment.raw ∘ Column.render :=
    funext Column.fragment_template
  have conditions : (fragment ∘ Condition.template d) = Condition.render d :=
    funext (Condition.fragment_template d)
  have confined : (l.conditionTemplates d after).map fragment
      = l.filter d :: (after.map fun key => (l.behind key).render Column.render d).toList := by
    have filter : fragment (conjunction (l.conditions.map (Condition.template d))) = l.filter d := by
      rw [fragment_conjunction, List.map_map, conditions, Listing.filter]
    rw [conditionTemplates, List.map_cons, filter]
    cases after with
    | none => rfl
    | some key => exact congrArg (fun f => [l.filter d, f]) ((l.behind key).fragment_template d)
  have marked : " LIMIT ?" = " LIMIT " ++ ("?" ++ "") := rfl
  have shape : " ORDER BY " ++ l.key.render ++ " " ++ l.order.word ++ " LIMIT ?"
      = " ORDER BY " ++ l.key.render ++ (" " ++ l.order.word ++ " LIMIT ") ++ ("?" ++ "") := by
    simp only [marked, String.append_assoc]
  have empty : Fragment.raw "" = Fragment.empty := rfl
  congr 1
  rw [template, fragment_text_cons, fragment_behind, fragment_behind, fragment_behind,
    fragment_behind, fragment_join, List.map_map, columns, ← List.map_map, Fragment.join_raw,
    l.relation.fragment_template, fragment_conjunction, confined, l.key.fragment_template,
    fragment_slot, shape, Fragment.bound_one, empty]
  cases after <;>
    simp only [Fragment.andThen_eq, Fragment.raw_append, Fragment.append_assoc,
      Fragment.append_empty, Option.map_none, Option.map_some, Option.toList_none,
      Option.toList_some]

theorem template_sound (d : Dialect) (l : Listing) (after : Option Int) :
    (l.template d after).IsSound := by
  have columns : IsSound (join ", " (l.columns.map Column.template)) :=
    sound_join rfl rfl (List.forall_mem_map.mpr fun c _ => c.template_sound)
  have conditions : IsSound (conjunction (l.conditionTemplates d after)) := by
    apply sound_conjunction
    have filter : IsSound (conjunction (l.conditions.map (Condition.template d))) :=
      sound_conjunction (List.forall_mem_map.mpr fun c _ => c.template_sound d)
    cases after with
    | none => exact List.forall_mem_singleton.mpr filter
    | some key =>
      have behind := (l.behind key).template_sound d
      exact List.forall_mem_cons.mpr ⟨filter, List.forall_mem_singleton.mpr behind⟩
  have words : (" " ++ l.order.word ++ " LIMIT ").toList.all Quoting.isWord = true ∧
      isOpening (" " ++ l.order.word ++ " LIMIT ") = true := by
    cases l.order <;> exact ⟨rfl, rfl⟩
  have cut := sound_behind l.key.template_sound words.1 words.2 (sound_slot (.int l.limit))
  have ordered := sound_behind (s := " ORDER BY ") conditions rfl rfl cut
  have found := sound_behind (s := " WHERE ") l.relation.template_sound rfl rfl ordered
  exact sound_words rfl (sound_behind columns rfl rfl found)

end Listing

end Analytics
