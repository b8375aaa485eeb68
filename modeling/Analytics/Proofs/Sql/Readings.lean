import Analytics.Proofs.Number.Digits
import Analytics.Proofs.Sql.Clauses

/-!
Readings of statements. From the words of a statement a reader takes its branches, the names of the
result columns of each branch, and the places that the rows of each branch are grouped by. Main
statements: of the text of a statement for series the reader takes the names and places that the
branches were made with, and of the text of a listing the names of its columns.
-/

namespace Analytics

open Sign (IsBalanced)
open Template
open Word (ofText)

/-- The words behind the first one of a kind, up to one of another kind. -/
def Word.between (first last : Word) (ws : List Word) : List Word :=
  (ws.dropWhile (· ≠ first)).tail.takeWhile (· ≠ last)

namespace Reading

/-- The words of each branch of a statement. -/
def branches (sql : String) : List (List Word) :=
  (Word.ofSigns (Sign.read .outside [] sql.toList)).splitOn (ofText "UNION")

def items (ws : List Word) : List (List Word) := ws.splitOn Word.comma

def columnName (item : List Word) : String := (item.flatten.filterMap Sign.name?).getLast?.getD ""

def columnNames (branch : List Word) : List String :=
  (items (Word.between (ofText "SELECT") (ofText "FROM") branch)).map columnName

def number (item : List Word) : Nat := Digits.toNat (item.flatten.filterMap Sign.letter?)

/-- The places of the result columns that the rows of a branch are grouped by. -/
def places (branch : List Word) : List Nat :=
  (items (Word.between (ofText "BY") (ofText "ORDER") branch)).map number

/-- The names of the result columns, branch by branch. -/
def columns (sql : String) : List (List String) := (branches sql).map columnNames

def grouped (sql : String) : List (List Nat) := (branches sql).map places

end Reading

namespace Word

theorem between_eq {first last : Word} {before inside behind : List Word} (fresh : first ∉ before)
    (within : last ∉ inside) (ends : behind.takeWhile (· ≠ last) = []) :
    between first last (before ++ first :: (inside ++ behind)) = inside := by
  have passed : ∀ w ∈ before, decide (w ≠ first) = true := by
    intro w member
    exact decide_eq_true fun same => fresh (same ▸ member)
  have kept : ∀ w ∈ inside, decide (w ≠ last) = true := by
    intro w member
    exact decide_eq_true fun same => within (same ▸ member)
  have found : (first :: (inside ++ behind)).dropWhile (· ≠ first) = first :: (inside ++ behind) := by
    simp
  rw [between, List.dropWhile_append_of_pos passed, found, List.tail_cons,
    List.takeWhile_append_of_pos kept, ends, List.append_nil]

theorem plain_iff {w : Word} : w.isPlain = true ↔
    w ≠ comma ∧ w ≠ ofText "FROM" ∧ w ≠ ofText "BY" ∧ w ≠ ofText "ORDER" ∧ w ≠ ofText "UNION" := by
  simp [isPlain, breaks]

def ofNumber (n : Nat) : Word := (Nat.toDigits 10 n).map Sign.letter

theorem ofNumber_plain (n : Nat) : isPlain (ofNumber n) = true := by
  have digits : (ofNumber n).all (·.letter?.any Digits.isDigit) = true := by
    rw [ofNumber, List.all_map]
    exact List.all_eq_true.mpr (Digits.run_toDigits n)
  have other {w : Word} (noNumber : w.all (·.letter?.any Digits.isDigit) = false) :
      ofNumber n ≠ w := by
    rintro rfl
    exact Bool.false_ne_true (noNumber.symm.trans digits)
  exact plain_iff.mpr ⟨other rfl, other rfl, other rfl, other rfl, other rfl⟩

theorem ofSigns_letters {cs : List Char} (filled : cs ≠ []) :
    ofSigns (cs.map Sign.letter) = [cs.map Sign.letter] := by
  have shown : Sign.surface 0 (cs.map Sign.letter) = cs.map Sign.letter := by
    clear filled
    induction cs with
    | nil => rfl
    | cons c rest ih => exact congrArg (Sign.letter c :: ·) ih
  have alone : (cs.map Sign.letter).flatMap Sign.spaced = cs.map Sign.letter := by
    rw [List.flatMap_map]
    exact List.map_eq_flatMap.symm
  have unbroken : ∀ s ∈ cs.map Sign.letter, Sign.isBlank s = false :=
    List.forall_mem_map.mpr fun _ _ => rfl
  rw [ofSigns, shown, alone, List.splitOnP_eq_singleton unbroken]
  cases cs with
  | nil => exact absurd rfl filled
  | cons c rest => rfl

theorem ofText_number (n : Nat) : ofText (toString n) = ofNumber n := by
  have text : toString n = String.ofList (Nat.toDigits 10 n) := rfl
  rw [ofText, text, String.toList_ofList, ofNumber]
  apply List.map_congr_left
  intro c member
  have free (mark : Char) (noDigit : Digits.isDigit mark = false) : c ≠ mark := fun same =>
    toDigits_free n noDigit (same ▸ member)
  rw [Sign.ofChar, if_neg (free ' ' rfl), if_neg (free ',' rfl), if_neg (free '(' rfl),
    if_neg (free ')' rfl)]

end Word

namespace Template

variable {ts : List Template}

theorem words_number (n : Nat) : words [.text (toString n)] = [Word.ofNumber n] := by
  rw [words, signs_text, Word.ofText_number]
  exact Word.ofSigns_letters Nat.toDigits_ne_nil

theorem plain_number (n : Nat) : IsPlain [.text (toString n)] := by
  constructor
  · rw [signs_text, Word.ofText_number]
    exact Sign.balanced_flat (List.forall_mem_map.mpr fun _ _ => rfl)
  · rw [words_number]
    exact List.forall_mem_singleton.mpr (Word.ofNumber_plain n)

theorem items_list (filled : ts ≠ []) (each : ∀ t ∈ ts, t.IsPlain) :
    Reading.items (words (join ", " ts)) = ts.map words := by
  rw [words_list fun t member => (each t member).balanced]
  apply List.splitOn_intercalate
  · simp only [List.forall_mem_map]
    intro t among member
    exact (Word.plain_iff.mp ((each t among).words _ member)).1 rfl
  · exact mt List.map_eq_nil_iff.mp filled

theorem words_unbroken (each : ∀ t ∈ ts, t.IsPlain) {w : Word} (member : w ∈ words (join ", " ts)) :
    w ≠ ofText "FROM" ∧ w ≠ ofText "BY" ∧ w ≠ ofText "ORDER" ∧ w ≠ ofText "UNION" := by
  induction ts with
  | nil => exact absurd member List.not_mem_nil
  | cons t rest ih =>
    obtain ⟨first, later⟩ := List.forall_mem_cons.mp each
    have own (among : w ∈ t.words) := (Word.plain_iff.mp (first.words w among)).2
    cases rest with
    | nil => exact own member
    | cons u rest =>
      rw [words_list_cons first.balanced (List.cons_ne_nil u rest), List.mem_append, List.mem_cons]
        at member
      rcases member with among | rfl | behind
      · exact own among
      · decide
      · exact ih later behind

end Template

theorem columnName_titled {t : Template} (title : Ident) (balanced : IsBalanced t.signs) :
    Reading.columnName (t ++ titleTemplate title).words = title.text := by
  rw [words_titled title balanced]
  simp [Reading.columnName, ofText, Sign.name?]

namespace Branch

variable {b : Branch} {d : Dialect} {lead tail : List Word}

def columnTemplates (d : Dialect) (b : Branch) : List Template :=
  (b.label.template d ++ titleTemplate dateTitle) ::
    (b.metrics.map MetricColumn.template ++ b.groups.map (GroupColumn.template d))

theorem columns_plain (d : Dialect) (b : Branch) : ∀ t ∈ b.columnTemplates d, t.IsPlain := by
  simp only [columnTemplates, List.forall_mem_cons, List.forall_mem_append, List.forall_mem_map]
  refine ⟨titled_plain dateTitle (b.label.template_plain d), ?_, ?_⟩
  · intro m _
    exact titled_plain m.title m.count.template_plain
  · intro c _
    exact titled_plain c.title (GroupColumn.exprTemplate_plain d c.expr)

theorem names_listed (d : Dialect) (b : Branch) :
    (Reading.items (b.selectedTemplate d).words).map Reading.columnName = b.columnNames := by
  have label := columnName_titled dateTitle (b.label.template_plain d).balanced
  have metrics : b.metrics.map (fun m => Reading.columnName m.template.words)
      = b.metrics.map (·.title.text) :=
    List.map_congr_left fun m _ => columnName_titled m.title m.count.template_plain.balanced
  have groups : b.groups.map (fun c => Reading.columnName (c.template d).words)
      = b.groups.map (·.title.text) :=
    List.map_congr_left fun c _ =>
      columnName_titled c.title (GroupColumn.exprTemplate_plain d c.expr).balanced
  calc
    _ = ((b.columnTemplates d).map words).map Reading.columnName := by
      rw [selectedTemplate, ← columnTemplates]
      exact congrArg _ (items_list (List.cons_ne_nil _ _) (b.columns_plain d))
    _ = _ := by
      simp only [columnTemplates, List.map_cons, List.map_append, List.map_map, Function.comp_def,
        label, metrics, groups]
      rfl

theorem positions_plain (b : Branch) :
    ∀ t ∈ b.groupPositions.map fun n : Nat => [Piece.text (toString n)], IsPlain t :=
  List.forall_mem_map.mpr fun n _ => plain_number n

theorem positions_listed (b : Branch) :
    (Reading.items b.positionsTemplate.words).map Reading.number = b.groupPositions := by
  have each (n : Nat) : Reading.number (words [.text (toString n)]) = n := by
    have digits (cs : List Char) : (cs.map Sign.letter).filterMap Sign.letter? = cs := by
      rw [List.filterMap_map]
      exact List.filterMap_some
    rw [words_number, Reading.number, List.flatten_singleton, Word.ofNumber, digits,
      Digits.toNat_toDigits]
  have filled : (b.groupPositions.map fun n : Nat => [Piece.text (toString n)]) ≠ [] := by
    simp only [groupPositions, List.map_cons, ne_eq, reduceCtorEq, not_false_eq_true]
  rw [positionsTemplate, items_list filled b.positions_plain, List.map_map, List.map_map]
  simp only [Function.comp_def, each, List.map_id']

theorem source_plain (d : Dialect) (b : Branch) : (b.sourceTemplate d).IsPlain :=
  Join.joined_plain d b.joins b.relation.template_plain

theorem conditions_plain (d : Dialect) (cs : List Condition) :
    IsPlain (conjunction (cs.map (Condition.template d))) :=
  plain_conjunction (List.forall_mem_map.mpr fun c _ => (c.template_plain d).balanced)

theorem selected_balanced (d : Dialect) (b : Branch) : IsBalanced (b.selectedTemplate d).signs :=
  balanced_list fun t member => (b.columns_plain d t member).balanced

theorem template_balanced (d : Dialect) (b : Branch) : IsBalanced (b.template d).signs := by
  have positions : IsBalanced b.positionsTemplate.signs :=
    balanced_list fun t member => (b.positions_plain t member).balanced
  rw [template, signs_cons, signs_behind, signs_behind, signs_behind]
  exact (balanced_text rfl).append ((b.selected_balanced d).append ((balanced_text rfl).append
    ((b.source_plain d).balanced.append ((balanced_text rfl).append
      ((conditions_plain d b.conditions).balanced.append ((balanced_text rfl).append positions))))))

theorem words_template (d : Dialect) (b : Branch) : (b.template d).words
    = ofText "SELECT" :: ((b.selectedTemplate d).words ++
      ofText "FROM" :: ((b.sourceTemplate d).words ++
      ofText "WHERE" :: (words (conjunction (b.conditions.map (Condition.template d))) ++
      ofText "GROUP" :: ofText "BY" :: b.positionsTemplate.words))) := by
  rw [template, words_before "SELECT" rfl (balanced_text rfl),
    words_between "FROM" rfl (b.selected_balanced d) (balanced_text rfl),
    words_between "WHERE" rfl (b.source_plain d).balanced (balanced_text rfl),
    words_between "GROUP BY" rfl (conditions_plain d b.conditions).balanced (balanced_text rfl)]
  rfl

theorem words_fresh {w : Word} (d : Dialect) (b : Branch)
    (ends : w = ofText "BY" ∨ w = ofText "UNION") :
    w ∉ (b.selectedTemplate d).words ∧ w ∉ (b.sourceTemplate d).words ∧
      w ∉ words (conjunction (b.conditions.map (Condition.template d))) ∧
        w ∉ b.positionsTemplate.words := by
  have plain {t : Template} (own : t.IsPlain) : w ∉ t.words := by
    intro member
    have apart := Word.plain_iff.mp (own.words w member)
    rcases ends with rfl | rfl
    · exact apart.2.2.1 rfl
    · exact apart.2.2.2.2 rfl
  have listed {ts : List Template} (own : ∀ t ∈ ts, t.IsPlain) : w ∉ words (join ", " ts) := by
    intro member
    have apart := words_unbroken own member
    rcases ends with rfl | rfl
    · exact apart.2.1 rfl
    · exact apart.2.2.2 rfl
  exact ⟨listed (b.columns_plain d), plain (b.source_plain d),
    plain (conditions_plain d b.conditions), listed b.positions_plain⟩

end Branch

/-- What may stand around the words of a branch in a statement. -/
structure IsFrame (lead tail : List Word) : Prop where
  selects : ofText "SELECT" ∉ lead
  groups : ofText "BY" ∉ lead
  ends : tail.takeWhile (· ≠ ofText "ORDER") = []
  leadAlone : ofText "UNION" ∉ lead
  tailAlone : ofText "UNION" ∉ tail

namespace Branch

variable {d : Dialect} {lead tail : List Word}

theorem names_read (b : Branch) (framed : IsFrame lead tail) :
    Reading.columnNames (lead ++ ((b.template d).words ++ tail)) = b.columnNames := by
  have unbroken : ofText "FROM" ∉ (b.selectedTemplate d).words := by
    intro member
    exact (words_unbroken (b.columns_plain d) member).1 rfl
  have shape (rest : List Word) : Word.between (ofText "SELECT") (ofText "FROM")
      (lead ++ ofText "SELECT" :: ((b.selectedTemplate d).words ++ ofText "FROM" :: rest))
        = (b.selectedTemplate d).words :=
    Word.between_eq framed.selects unbroken (by simp)
  rw [Reading.columnNames, words_template]
  simp only [List.cons_append, List.append_assoc]
  rw [shape]
  exact b.names_listed d

def wordsAhead (d : Dialect) (b : Branch) : List Word :=
  ofText "SELECT" :: ((b.selectedTemplate d).words ++
    ofText "FROM" :: ((b.sourceTemplate d).words ++
    ofText "WHERE" :: (words (conjunction (b.conditions.map (Condition.template d))) ++
    [ofText "GROUP"])))

theorem places_read (b : Branch) (framed : IsFrame lead tail) :
    Reading.places (lead ++ ((b.template d).words ++ tail)) = b.groupPositions := by
  obtain ⟨selected, source, conditions, _⟩ := b.words_fresh d (Or.inl rfl)
  have fresh : ofText "BY" ∉ lead ++ b.wordsAhead d := by
    simp only [wordsAhead, List.mem_append, List.mem_cons, List.not_mem_nil, or_false, not_or]
    exact ⟨framed.groups, by decide, selected, by decide, source, by decide, conditions, by decide⟩
  have unbroken : ofText "ORDER" ∉ b.positionsTemplate.words := by
    intro member
    exact (words_unbroken b.positions_plain member).2.2.1 rfl
  have shape : lead ++ ((b.template d).words ++ tail)
      = (lead ++ b.wordsAhead d) ++ ofText "BY" :: (b.positionsTemplate.words ++ tail) := by
    rw [words_template]
    simp [wordsAhead]
  rw [Reading.places, shape, Word.between_eq fresh unbroken framed.ends]
  exact b.positions_listed

theorem union_fresh (d : Dialect) (b : Branch) : ofText "UNION" ∉ (b.template d).words := by
  obtain ⟨selected, source, conditions, positions⟩ := b.words_fresh d (Or.inr rfl)
  rw [words_template]
  simp only [List.mem_append, List.mem_cons, not_or]
  exact ⟨by decide, selected, by decide, source, by decide, conditions, by decide, by decide,
    positions⟩

end Branch

namespace SeriesStatement

variable {d : Dialect} {bs : List Branch} {lead tail : List Word}

theorem frame_first (framed : IsFrame lead tail) : IsFrame lead [] :=
  ⟨framed.selects, framed.groups, rfl, framed.leadAlone, List.not_mem_nil⟩

theorem frame_later (framed : IsFrame lead tail) : IsFrame [ofText "ALL"] tail :=
  ⟨by decide, by decide, framed.ends, by decide, framed.tailAlone⟩

theorem branches_read {β : Type} {f : List Word → β} {g : Branch → β}
    (reads : ∀ (b : Branch) {lead tail : List Word}, IsFrame lead tail →
      f (lead ++ ((b.template d).words ++ tail)) = g b)
    (filled : bs ≠ []) (framed : IsFrame lead tail) :
    ((lead ++ (words (join " UNION ALL " (bs.map (Branch.template d))) ++ tail)).splitOn
      (ofText "UNION")).map f = bs.map g := by
  induction bs generalizing lead with
  | nil => exact absurd rfl filled
  | cons b rest ih =>
    cases rest with
    | nil =>
      have whole : ofText "UNION" ∉ lead ++ ((b.template d).words ++ tail) := by
        simp only [List.mem_append, not_or]
        exact ⟨framed.leadAlone, b.union_fresh d, framed.tailAlone⟩
      have alone := List.splitOn_eq_singleton whole
      exact (congrArg (List.map f) alone).trans (congrArg ([·]) (reads b framed))
    | cons c rest =>
      -- The word stands between branches only: inside of one it could only be quoted.
      have first : ofText "UNION" ∉ lead ++ (b.template d).words := by
        simp only [List.mem_append, not_or]
        exact ⟨framed.leadAlone, b.union_fresh d⟩
      have parted : words (join " UNION ALL " ((b :: c :: rest).map (Branch.template d)))
          = (b.template d).words ++ (ofText "UNION" :: ofText "ALL" ::
            words (join " UNION ALL " ((c :: rest).map (Branch.template d)))) :=
        words_between "UNION ALL" rfl (b.template_balanced d) (balanced_text rfl)
      have shape : lead ++ (words (join " UNION ALL " ((b :: c :: rest).map (Branch.template d)))
            ++ tail)
          = (lead ++ (b.template d).words) ++ ofText "UNION" :: ([ofText "ALL"] ++
            (words (join " UNION ALL " ((c :: rest).map (Branch.template d))) ++ tail)) := by
        rw [parted]
        simp only [List.append_assoc, List.cons_append, List.nil_append]
      have own := reads b (frame_first framed)
      rw [List.append_nil] at own
      rw [shape, List.splitOn_append_cons_self_of_not_mem first, List.map_cons, own,
        ih (List.cons_ne_nil c rest) (frame_later framed)]
      rfl

theorem text_read {β : Type} {f : List Word → β} {g : Branch → β} {s : SeriesStatement}
    (reads : ∀ (b : Branch) {lead tail : List Word}, IsFrame lead tail →
      f (lead ++ ((b.template d).words ++ tail)) = g b)
    (filled : s.branches ≠ []) (sound : (s.template d).IsSound) :
    (Reading.branches (s.render d).sql).map f = s.branches.map g := by
  have framed : IsFrame [] (["ORDER", "BY", "1", "ASC"].map ofText) :=
    ⟨List.not_mem_nil, List.not_mem_nil, by decide, List.not_mem_nil, by decide⟩
  have inner : IsBalanced (join " UNION ALL " (s.branches.map (Branch.template d))).signs :=
    balanced_join (balanced_text rfl)
      (List.forall_mem_map.mpr fun b _ => b.template_balanced d)
  have written : (s.render d).sql.toList = (s.template d).chars := by
    rw [← fragment_template]
    exact String.toList_ofList
  have read : Word.ofSigns (Sign.read .outside [] (s.render d).sql.toList)
      = words (join " UNION ALL " (s.branches.map (Branch.template d)))
        ++ ["ORDER", "BY", "1", "ASC"].map ofText := by
    have ordered : words [.text "ORDER BY 1 ASC"] = ["ORDER", "BY", "1", "ASC"].map ofText := rfl
    rw [written, Template.read_chars sound.tidy, ← ordered]
    exact words_behind _ rfl inner
  rw [Reading.branches, read]
  exact branches_read reads filled framed

theorem columns_read {s : SeriesStatement} (filled : s.branches ≠ [])
    (sound : (s.template d).IsSound) :
    Reading.columns (s.render d).sql = s.branches.map (·.columnNames) :=
  text_read (fun b _ _ framed => b.names_read framed) filled sound

theorem grouped_read {s : SeriesStatement} (filled : s.branches ≠ [])
    (sound : (s.template d).IsSound) :
    Reading.grouped (s.render d).sql = s.branches.map (·.groupPositions) :=
  text_read (fun b _ _ framed => b.places_read framed) filled sound

end SeriesStatement

namespace Listing

/-- The names of the result columns. -/
def columnNames (l : Listing) : List String := l.columns.map (·.name.text)

theorem conditions_plain (d : Dialect) (l : Listing) (after : Option Int) :
    IsPlain (conjunction (l.conditionTemplates d after)) := by
  have filter := (Branch.conditions_plain d l.conditions).balanced
  apply plain_conjunction
  unfold conditionTemplates
  cases after with
  | none => exact List.forall_mem_singleton.mpr filter
  | some key =>
    have behind := ((l.behind key).template_plain d).balanced
    exact List.forall_mem_cons.mpr ⟨filter, List.forall_mem_singleton.mpr behind⟩

theorem columns_plain (l : Listing) : ∀ t ∈ l.columns.map Column.template, t.IsPlain :=
  List.forall_mem_map.mpr fun c _ => c.template_plain

theorem words_template (d : Dialect) (l : Listing) (after : Option Int) : (l.template d after).words
    = ofText "SELECT" :: (words (join ", " (l.columns.map Column.template)) ++
      ofText "FROM" :: (l.relation.template.words ++
      ofText "WHERE" :: (words (conjunction (l.conditionTemplates d after)) ++
      ofText "ORDER" :: ofText "BY" :: (l.key.template.words ++
      [ofText l.order.word, ofText "LIMIT", [.letter '?']])))) := by
  have columns : IsBalanced (join ", " (l.columns.map Column.template)).signs :=
    balanced_list fun t member => (l.columns_plain t member).balanced
  have limit : words (l.key.template ++ .text (" " ++ l.order.word ++ " LIMIT ") ::
      [.slot (.int l.limit)])
        = l.key.template.words ++ [ofText l.order.word, ofText "LIMIT", [.letter '?']] := by
    cases l.order with
    | ascending =>
      exact words_between "ASC LIMIT" rfl l.key.template_plain.balanced (balanced_text rfl)
    | descending =>
      exact words_between "DESC LIMIT" rfl l.key.template_plain.balanced (balanced_text rfl)
  rw [template, words_before "SELECT" rfl (balanced_text rfl),
    words_between "FROM" rfl columns (balanced_text rfl),
    words_between "WHERE" rfl l.relation.template_plain.balanced (balanced_text rfl),
    words_between "ORDER BY" rfl (l.conditions_plain d after).balanced (balanced_text rfl), limit]
  rfl

theorem names_listed {l : Listing} (filled : l.columns ≠ []) :
    (Reading.items (words (join ", " (l.columns.map Column.template)))).map Reading.columnName
      = l.columnNames := by
  have each (c : Column) : Reading.columnName c.template.words = c.name.text :=
    String.ofList_toList
  rw [items_list (mt List.map_eq_nil_iff.mp filled) l.columns_plain, List.map_map, List.map_map]
  exact List.map_congr_left fun c _ => each c

theorem columns_read {l : Listing} (d : Dialect) (after : Option Int) (filled : l.columns ≠ []) :
    Reading.columns (l.statement d after).sql = [l.columnNames] := by
  have written : (l.statement d after).sql.toList = (l.template d after).chars := by
    rw [← fragment_template]
    exact String.toList_ofList
  have unbroken {w : Word} (member : w ∈ words (join ", " (l.columns.map Column.template))) :=
    words_unbroken l.columns_plain member
  have alone : ofText "UNION" ∉ (l.template d after).words := by
    have apart {t : Template} (plain : t.IsPlain) : ofText "UNION" ∉ t.words := fun member =>
      (Word.plain_iff.mp (plain.words _ member)).2.2.2.2 rfl
    have columns : ofText "UNION" ∉ words (join ", " (l.columns.map Column.template)) :=
      fun member => (unbroken member).2.2.2 rfl
    have order : ofText "UNION" ≠ ofText l.order.word := by cases l.order <;> decide
    rw [words_template]
    simp only [List.mem_append, List.mem_cons, List.not_mem_nil, or_false, not_or]
    exact ⟨by decide, columns, by decide, apart l.relation.template_plain, by decide,
      apart (l.conditions_plain d after), by decide, by decide, apart l.key.template_plain, order,
      by decide, by decide⟩
  have selected (rest : List Word) : Word.between (ofText "SELECT") (ofText "FROM")
      (ofText "SELECT" :: (words (join ", " (l.columns.map Column.template)) ++
        ofText "FROM" :: rest)) = words (join ", " (l.columns.map Column.template)) :=
    Word.between_eq List.not_mem_nil (fun member => (unbroken member).1 rfl) (by simp)
  have whole : Reading.branches (l.statement d after).sql = [(l.template d after).words] := by
    rw [Reading.branches, written, Template.read_chars (l.template_sound d after).tidy]
    exact List.splitOn_eq_singleton alone
  rw [Reading.columns, whole, List.map_singleton, Reading.columnNames, words_template, selected,
    names_listed filled]

end Listing

end Analytics
