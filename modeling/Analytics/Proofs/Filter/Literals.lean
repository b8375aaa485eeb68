import Analytics.Group.Plan
import Analytics.Proofs.Number.Texts
import Analytics.Proofs.Query.Checks
import Analytics.Proofs.Text.Joined
import Analytics.Proofs.Time.Marks

/-!
Operands and their literals. The literal of an operand is its text, for a list the texts of its
items joined by commas. Main statement: operands of one literal compile to one predicate wherever
both compile, unless they are lists of texts and a comma stands in one of these.
-/

namespace Analytics

namespace Text

theorem commas_inj {ps qs : List String} (some : ps ≠ []) (some' : qs ≠ [])
    (free : ∀ p ∈ ps, ',' ∉ p.toList) (free' : ∀ q ∈ qs, ',' ∉ q.toList)
    (same : String.intercalate "," ps = String.intercalate "," qs) : ps = qs := by
  have joined (p u : String) : (p ++ "," ++ u).toList = p.toList ++ ',' :: u.toList := by
    simp [String.toList_append]
  induction ps generalizing qs with
  | nil => exact absurd rfl some
  | cons p ps ih =>
    obtain ⟨plain, plains⟩ := List.forall_mem_cons.mp free
    cases qs with
    | nil => exact absurd rfl some'
    | cons q qs =>
      obtain ⟨plain', plains'⟩ := List.forall_mem_cons.mp free'
      cases ps with
      | nil =>
        cases qs with
        | nil =>
          rw [String.intercalate_singleton, String.intercalate_singleton] at same
          rw [same]
        | cons next qs =>
          rw [String.intercalate_singleton, String.intercalate_cons_cons] at same
          apply absurd _ plain
          rw [same, joined]
          exact List.mem_append_right _ List.mem_cons_self
      | cons next ps =>
        cases qs with
        | nil =>
          rw [String.intercalate_singleton, String.intercalate_cons_cons] at same
          apply absurd _ plain'
          rw [← same, joined]
          exact List.mem_append_right _ List.mem_cons_self
        | cons next' qs =>
          rw [String.intercalate_cons_cons, String.intercalate_cons_cons] at same
          have chars := congrArg String.toList same
          rw [joined, joined] at chars
          -- If one were longer, it would hold the comma that stands behind the other.
          have first : p = q := by
            rcases parted chars with equal | ⟨w, longer⟩ | ⟨w, longer⟩
            · exact String.toList_injective equal
            · exact absurd (longer ▸ List.mem_append_right _ List.mem_cons_self) plain'
            · exact absurd (longer ▸ List.mem_append_right _ List.mem_cons_self) plain
          rw [first] at same
          have later := (String.append_right_inj _).mp same
          rw [first, ih (List.cons_ne_nil _ _) (List.cons_ne_nil _ _) plains plains' later]

end Text

namespace Filter

open GroupPlan (operandText)

/-- Whether a scalar is none but a finite number of the format, if it is a floating number, as it
is in every document. -/
def IsExact : Json → Prop
  | .float x => x.isFinite = true ∧ x.IsProper
  | _ => True

variable {j j' : Json}

theorem numberOf_read {x : Binary64} (exact_ : IsExact j) (found : numberOf j = .ok x) :
    Binary64.ofText? (Text.trim (operandText j)) = some x := by
  cases j with
  | int i =>
    cases found
    have read := Binary64.ofText_toString i
    have text : operandText (.int i) = toString i := rfl
    rw [text, Binary64.trim_of_read read, read]
  | float x =>
    cases found
    have read := Binary64.ofText_floatText exact_.1 exact_.2
    have text : operandText (.float x) = Json.floatText x := rfl
    rw [text, Binary64.trim_of_read read, read]
  | text s =>
    unfold numberOf at found
    dsimp only at found
    split at found
    · rename_i read
      cases found
      exact read
    · cases found
  | _ => cases found

theorem textOf_read {s : String} (found : textOf j = .ok s) : operandText j = s := by
  cases j with
  | bool b => cases b <;> cases found <;> rfl
  | null => cases found
  | array items => cases found
  | object members => cases found
  | _ =>
    cases found
    rfl

theorem ofText_whole (i : Int) : ∃ e, Instant.ofText (toString i) = .error e := by
  have tight : Text.trimChars (toString i).toList = (toString i).toList := by
    have trimmed := Binary64.trim_of_read (Binary64.ofText_toString i)
    rw [Text.trim] at trimmed
    rw [← String.toList_ofList (l := Text.trimChars (toString i).toList), trimmed]
  unfold Instant.ofText
  simp only [tight, TimeReading.instantText_whole]
  exact ⟨_, rfl⟩

theorem ofJson_same {t t' : Instant} (same : operandText j = operandText j')
    (read : Instant.ofJson j = .ok t) (read' : Instant.ofJson j' = .ok t') : t = t' := by
  have never {i : Int} {u : Instant} (read : Instant.ofJson (.text (toString i)) = .ok u) :
      False := by
    obtain ⟨e, refused⟩ := ofText_whole i
    have fails : Instant.ofJson (.text (toString i)) = .error e := refused
    rw [fails] at read
    cases read
  have equal (own : j = j') : t = t' := by
    rw [own] at read
    exact Except.ok.inj (read.symm.trans read')
  cases j with
  | int i =>
    cases j' with
    | int i' =>
      have text : toString i = toString i' := same
      have read := Digits.toInt_toString i
      rw [text, Digits.toInt_toString] at read
      exact equal (congrArg Json.int (Option.some.inj read).symm)
    | text s =>
      have text : toString i = s := same
      rw [← text] at read'
      exact (never read').elim
    | _ => cases read'
  | text s =>
    cases j' with
    | int i' =>
      have text : s = toString i' := same
      rw [text] at read
      exact (never read).elim
    | text s' => exact equal (congrArg Json.text same)
    | _ => cases read'
  | _ => cases read

section

variable {κ : Type} {binding : Binding} {e e' : Scalar κ}

theorem operand_same (exact_ : IsExact j) (exact' : IsExact j')
    (same : operandText j = operandText j') (bound : operand binding j = .ok e)
    (bound' : operand binding j' = .ok e') : e = e' := by
  cases binding with
  | text =>
    obtain ⟨s, found, rfl⟩ := map_ok bound
    obtain ⟨s', found', rfl⟩ := map_ok bound'
    rw [← textOf_read found, ← textOf_read found', same]
  | number =>
    obtain ⟨x, found, rfl⟩ := map_ok bound
    obtain ⟨x', found', rfl⟩ := map_ok bound'
    have read := numberOf_read exact_ found
    rw [same, numberOf_read exact' found'] at read
    rw [Option.some.inj read]
  | temporal encoding =>
    obtain ⟨t, found, rfl⟩ := map_ok bound
    obtain ⟨t', found', rfl⟩ := map_ok bound'
    rw [ofJson_same same found found']

theorem whole_commaless (i : Int) : ',' ∉ (operandText (.int i)).toList :=
  Binary64.commaless_of_read (Binary64.ofText_toString i)

theorem operand_commaless (exact_ : IsExact j) (bound : operand binding j = .ok e)
    (plain : binding = .text → ∀ s, j = .text s → ',' ∉ s.toList) :
    ',' ∉ (operandText j).toList := by
  cases binding with
  | text =>
    obtain ⟨s, found, -⟩ := map_ok bound
    cases j with
    | int i => exact whole_commaless i
    | float x => exact Binary64.commaless_of_read (Binary64.ofText_floatText exact_.1 exact_.2)
    | bool b => cases b <;> decide
    | text s => exact plain rfl s rfl
    | _ => cases found
  | number =>
    obtain ⟨x, found, -⟩ := map_ok bound
    exact Binary64.commaless_of_trim (numberOf_read exact_ found)
  | temporal encoding =>
    obtain ⟨t, found, -⟩ := map_ok bound
    cases j with
    | int i => exact whole_commaless i
    | text s =>
      have text : Instant.ofJson (.text s) = Instant.ofText s := rfl
      rw [text] at found
      unfold Instant.ofText at found
      dsimp only at found
      split at found
      · rename_i read
        intro member
        exact TimeReading.instantText_commaless read (Text.mem_trimChars (by decide) member)
      · cases found
    | _ => cases found

theorem operandTexts_eq (items : List Json) :
    operandText.operandTexts items = items.map operandText := by
  induction items with
  | nil => rfl
  | cons item rest ih => rw [operandText.operandTexts, ih, List.map_cons]

theorem operandText_array (items : List Json) :
    operandText (.array items) = String.intercalate "," (items.map operandText) := by
  rw [operandText, operandTexts_eq]

theorem operand_of_mem {items : List Json} {es : List (Scalar κ)}
    (bound : operands binding items = .ok es) {item : Json} (member : item ∈ items) :
    ∃ e : Scalar κ, operand binding item = .ok e := by
  obtain ⟨e, -, own⟩ := matched_right (operands_ok bound).flip member
  exact ⟨e, own⟩

theorem operands_same {items items' : List Json} {es es' : List (Scalar κ)}
    (exact_ : ∀ item ∈ items, IsExact item) (exact' : ∀ item ∈ items', IsExact item)
    (same : items.map operandText = items'.map operandText)
    (bound : operands binding items = .ok es) (bound' : operands binding items' = .ok es') :
    es = es' := by
  have paired := operands_ok bound
  have paired' := operands_ok bound'
  clear bound bound'
  induction paired generalizing items' es' with
  | nil =>
    rw [List.map_nil, eq_comm, List.map_eq_nil_iff] at same
    subst same
    cases paired'
    rfl
  | cons first _ ih =>
    cases paired' with
    | nil => cases same
    | cons second rest =>
      obtain ⟨own, owns⟩ := List.forall_mem_cons.mp exact_
      obtain ⟨own', owns'⟩ := List.forall_mem_cons.mp exact'
      obtain ⟨texts, later⟩ := List.cons.inj same
      rw [operand_same own own' texts first second, ih owns owns' later rest]

theorem operands_joined {items items' : List Json} {es es' : List (Scalar κ)} (some : items ≠ [])
    (some' : items' ≠ []) (exact_ : ∀ item ∈ items, IsExact item)
    (exact' : ∀ item ∈ items', IsExact item)
    (plain : binding = .text → ∀ s, .text s ∈ items ++ items' → ',' ∉ s.toList)
    (same : operandText (.array items) = operandText (.array items'))
    (bound : operands binding items = .ok es) (bound' : operands binding items' = .ok es') :
    es = es' := by
  have free : ∀ p ∈ items.map operandText, ',' ∉ p.toList := by
    intro p member
    obtain ⟨item, among, rfl⟩ := List.mem_map.mp member
    obtain ⟨e, own⟩ := operand_of_mem bound among
    refine operand_commaless (exact_ item among) own fun text s shape => ?_
    exact plain text s (List.mem_append_left _ (shape ▸ among))
  have free' : ∀ p ∈ items'.map operandText, ',' ∉ p.toList := by
    intro p member
    obtain ⟨item, among, rfl⟩ := List.mem_map.mp member
    obtain ⟨e, own⟩ := operand_of_mem bound' among
    refine operand_commaless (exact' item among) own fun text s shape => ?_
    exact plain text s (List.mem_append_right _ (shape ▸ among))
  rw [operandText_array, operandText_array] at same
  have texts := Text.commas_inj (mt List.map_eq_nil_iff.mp some) (mt List.map_eq_nil_iff.mp some')
    free free' same
  exact operands_same exact_ exact' texts bound bound'

end

def HoldsComma (value : Json) : Prop :=
  ∃ items s, value = .array items ∧ .text s ∈ items ∧ ',' ∈ s.toList

/-- Whether an operand and the items of a list are exact. -/
structure IsExactOperand (value : Json) : Prop where
  own : IsExact value
  items : ∀ items, value = .array items → ∀ item ∈ items, IsExact item

section

variable {κ : Type} {type : ValueType} {column : StoredColumn κ} {v v' : Json} {p p' : Predicate κ}

theorem bindingFor_text {storage : Storage} (text : bindingFor type storage = .text) :
    type = .string ∨ type = .other := by
  cases type with
  | string => exact .inl rfl
  | number => cases text
  | date => cases text
  | other => exact .inr rfl

theorem textOf_same {s s' : String} (same : operandText v = operandText v')
    (found : textOf v = .ok s) (found' : textOf v' = .ok s') : s = s' := by
  rw [← textOf_read found, ← textOf_read found', same]

theorem comparison_same {op : Comparison} (exact_ : IsExact v) (exact' : IsExact v')
    (same : operandText v = operandText v') (made : comparison type column v op = .ok p)
    (made' : comparison type column v' op = .ok p') : p = p' := by
  obtain ⟨e, bound, rfl⟩ := map_ok made
  obtain ⟨e', bound', rfl⟩ := map_ok made'
  rw [operand_same exact_ exact' same bound bound']

theorem pattern_same {shape : PatternAnchor} (same : operandText v = operandText v')
    (made : pattern column v shape = .ok p) (made' : pattern column v' shape = .ok p') :
    p = p' := by
  obtain ⟨s, found, rfl⟩ := map_ok made
  obtain ⟨s', found', rfl⟩ := map_ok made'
  rw [textOf_same same found found']

theorem range_same (numeric : type = .number ∨ type = .date) (exact_ : IsExactOperand v)
    (exact' : IsExactOperand v') (same : operandText v = operandText v')
    (made : range type column v = .ok p) (made' : range type column v' = .ok p') : p = p' := by
  obtain ⟨low, high, lower, upper, rfl, least, most, rfl⟩ := range_ok made
  obtain ⟨low', high', lower', upper', rfl, least', most', rfl⟩ := range_ok made'
  obtain ⟨e, bound, rfl⟩ := map_ok least
  obtain ⟨f, above, rfl⟩ := map_ok most
  obtain ⟨e', bound', rfl⟩ := map_ok least'
  obtain ⟨f', above', rfl⟩ := map_ok most'
  -- The two bounds are a list of operands like any other.
  have listed : operands (bindingFor type column.storage) [low, high] = .ok [e, f] := by
    simp only [operands, bound, above]
  have listed' : operands (bindingFor type column.storage) [low', high'] = .ok [e', f'] := by
    simp only [operands, bound', above']
  have plain (text : bindingFor type column.storage = .text) (s : String) :
      .text s ∈ [low, high] ++ [low', high'] → ',' ∉ s.toList := by
    rcases numeric with rfl | rfl <;> cases text
  have equal := operands_joined (List.cons_ne_nil _ _) (List.cons_ne_nil _ _) (exact_.items _ rfl)
    (exact'.items _ rfl) plain same listed listed'
  obtain ⟨rfl, rest⟩ := List.cons.inj equal
  obtain ⟨rfl, -⟩ := List.cons.inj rest
  rfl

theorem membership_items (some : itemsOf v ≠ .ok []) (made : membership type column v = .ok p) :
    ∃ items es, v = .array items ∧ items ≠ [] ∧
      operands (bindingFor type column.storage) items = .ok es ∧
      p = .within (leftSide type column) es := by
  unfold membership at made
  split at made
  · cases made
  · rename_i none
    exact absurd none some
  · rename_i items filled listed
    obtain ⟨es, bound, rfl⟩ := map_ok made
    exact ⟨items, es, itemsOf_ok listed, filled, bound, rfl⟩

theorem nonMembership_items (some : itemsOf v ≠ .ok [])
    (made : nonMembership type column v = .ok p) :
    ∃ items es, v = .array items ∧ items ≠ [] ∧
      operands (bindingFor type column.storage) items = .ok es ∧
      p = .notWithin (leftSide type column) es := by
  unfold nonMembership at made
  split at made
  · cases made
  · rename_i none
    exact absurd none some
  · rename_i items filled listed
    obtain ⟨es, bound, rfl⟩ := map_ok made
    exact ⟨items, es, itemsOf_ok listed, filled, bound, rfl⟩

/-- What lets two lists of one literal differ: both are lists of texts, with a comma in one of
them. -/
structure Flattens (op : FilterOperator) (type : ValueType) (v v' : Json) : Prop where
  listed : op = .inList ∨ op = .notInList
  textual : type = .string ∨ type = .other
  comma : HoldsComma v ∨ HoldsComma v'

theorem items_same {items items' : List Json} {es es' : List (Scalar κ)} {op : FilterOperator}
    (listed : op = .inList ∨ op = .notInList)
    (told : ¬Flattens op type (.array items) (.array items')) (some : items ≠ [])
    (some' : items' ≠ []) (exact_ : IsExactOperand (.array items))
    (exact' : IsExactOperand (.array items'))
    (same : operandText (.array items) = operandText (.array items'))
    (bound : operands (bindingFor type column.storage) items = .ok es)
    (bound' : operands (bindingFor type column.storage) items' = .ok es') : es = es' := by
  refine operands_joined some some' (exact_.items _ rfl) (exact'.items _ rfl) ?_ same bound bound'
  intro text s member comma
  apply told
  refine ⟨listed, bindingFor_text text, ?_⟩
  rcases List.mem_append.mp member with first | second
  · exact .inl ⟨items, s, rfl, first, comma⟩
  · exact .inr ⟨items', s, rfl, second, comma⟩

theorem compile_same {op : FilterOperator} (supported : op.supports type = true)
    (exact_ : IsExactOperand v) (exact' : IsExactOperand v') (some : itemsOf v ≠ .ok [])
    (some' : itemsOf v' ≠ .ok []) (same : operandText v = operandText v')
    (told : ¬Flattens op type v v') (made : compile type op v column = .ok p)
    (made' : compile type op v' column = .ok p') : p = p' := by
  cases op with
  | equals => exact comparison_same exact_.own exact'.own same made made'
  | notEquals => exact comparison_same exact_.own exact'.own same made made'
  | greaterThan => exact comparison_same exact_.own exact'.own same made made'
  | greaterThanOrEqual => exact comparison_same exact_.own exact'.own same made made'
  | lessThan => exact comparison_same exact_.own exact'.own same made made'
  | lessThanOrEqual => exact comparison_same exact_.own exact'.own same made made'
  | contains => exact pattern_same same made made'
  | startsWith => exact pattern_same same made made'
  | endsWith => exact pattern_same same made made'
  | notContains =>
    obtain ⟨s, found, rfl⟩ := map_ok made
    obtain ⟨s', found', rfl⟩ := map_ok made'
    rw [textOf_same same found found']
  | between =>
    -- Ranges are for numbers and dates, whose texts hold no comma.
    have numeric : type = .number ∨ type = .date := by
      cases type with
      | number => exact .inl rfl
      | date => exact .inr rfl
      | _ => cases supported
    exact range_same numeric exact_ exact' same made made'
  | isNull => exact Except.ok.inj (made.symm.trans made')
  | isNotNull => exact Except.ok.inj (made.symm.trans made')
  | inList =>
    obtain ⟨items, es, rfl, filled, bound, rfl⟩ := membership_items some made
    obtain ⟨items', es', rfl, filled', bound', rfl⟩ := membership_items some' made'
    rw [items_same (.inl rfl) told filled filled' exact_ exact' same bound bound']
  | notInList =>
    obtain ⟨items, es, rfl, filled, bound, rfl⟩ := nonMembership_items some made
    obtain ⟨items', es', rfl, filled', bound', rfl⟩ := nonMembership_items some' made'
    rw [items_same (.inr rfl) told filled filled' exact_ exact' same bound bound']

end

end Filter

end Analytics
