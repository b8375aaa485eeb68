import Analytics.Proofs.Filter.Literals
import Analytics.Proofs.Group.Keys

/-!
Groups that share a result column. Columns are told apart by their keys alone: the field, and for a
bucket its operator and the literal of its operand. Main statement: two buckets of one field and
type with one title select the same rows wherever both compile, unless they are lists of texts that
the literal flattens, and groups are refused exactly if two of their columns have one key.
-/

namespace Analytics

open GroupPlan (planBucket planBucket_ok ofSpec ofSpec_ok BucketPasses FormPasses)

theorem firstRepeated_of_nodup {seen names : List String} (once : names.Nodup)
    (fresh : ∀ name ∈ names, name ∉ seen) : firstRepeated? seen names = none := by
  induction names generalizing seen with
  | nil => rfl
  | cons first rest ih =>
    obtain ⟨apart, once⟩ := List.nodup_cons.mp once
    obtain ⟨own, others⟩ := List.forall_mem_cons.mp fresh
    have unseen : seen.contains first = false := by
      rw [Bool.eq_false_iff, Ne, List.contains_iff_mem]
      exact own
    rw [firstRepeated?, if_neg (Bool.eq_false_iff.mp unseen)]
    apply ih once
    intro name member before
    rcases List.mem_cons.mp before with rfl | before
    · exact apart member
    · exact others name member before

theorem checkDistinct_ok_iff {groups : List GroupPlan} : checkDistinct groups = .ok ()
    ↔ ((groups.flatMap (·.titles)).map (·.text)).Nodup := by
  unfold checkDistinct
  constructor
  · intro passed
    split at passed
    · cases passed
    · rename_i none
      exact (firstRepeated_none none).1
  · intro once
    rw [firstRepeated_of_nodup once fun _ _ => List.not_mem_nil]

namespace GroupPlan

def keys (g : GroupPlan) : List GroupKey :=
  match g.form with
  | .raw _ => [.raw g.field]
  | .custom buckets => buckets.map (·.key g.field)

/-- The result columns of a group are named after its keys, and the parts of these are apart. -/
structure IsKeyed (g : GroupPlan) : Prop where
  names : g.titles.map (·.text) = g.keys.map GroupKey.encode
  apart : ∀ k ∈ g.keys, k.IsApart

theorem isKeyed_of_ofSpec {spec : RequestedGroup} {g : GroupPlan} (passed : ofSpec spec = .ok g) :
    g.IsKeyed := by
  obtain ⟨field, _, form⟩ := ofSpec_ok passed
  cases planned : g.form with
  | raw title =>
    rw [planned] at form
    cases form with
    | raw none named =>
      have titles : g.titles = [title] := by rw [GroupPlan.titles, planned]
      have keys : g.keys = [.raw spec.field] := by rw [GroupPlan.keys, planned, field]
      constructor
      · rw [titles, keys, List.map_singleton, List.map_singleton, GroupKey.title_text named]
      · rw [keys]
        exact List.forall_mem_singleton.mpr (GroupKey.title_apart named)
  | custom buckets =>
    rw [planned] at form
    cases form with
    | custom some paired =>
      have titles : g.titles = buckets.map (·.title) := by rw [GroupPlan.titles, planned]
      have keys : g.keys = buckets.map (·.key spec.field) := by rw [GroupPlan.keys, planned, field]
      have named : ∀ b ∈ buckets, (b.key spec.field).title = .ok b.title := by
        intro b member
        obtain ⟨r, -, passes⟩ := matched_right paired member
        exact passes.title
      constructor
      · rw [titles, keys, List.map_map, List.map_map]
        apply List.map_congr_left
        intro b member
        exact GroupKey.title_text (named b member)
      · rw [keys]
        intro k member
        obtain ⟨b, among, rfl⟩ := List.mem_map.mp member
        exact GroupKey.title_apart (named b among)

end GroupPlan

theorem checkDistinct_ok_iff_keys {specs : List RequestedGroup} {groups : List GroupPlan}
    (planned : checkAll ofSpec specs = .ok groups) :
    checkDistinct groups = .ok () ↔ (groups.flatMap (·.keys)).Nodup := by
  have keyed : ∀ g ∈ groups, g.IsKeyed := by
    intro g member
    obtain ⟨spec, -, passed⟩ := matched_right (checkAll_ok planned) member
    exact GroupPlan.isKeyed_of_ofSpec passed
  have written : (groups.flatMap (·.titles)).map (·.text)
      = (groups.flatMap (·.keys)).map GroupKey.encode := by
    rw [List.map_flatMap, List.map_flatMap]
    exact List.flatMap_congr fun g member => (keyed g member).names
  rw [checkDistinct_ok_iff, written]
  constructor
  · exact List.Nodup.of_map _
  · intro once
    apply once.map_on
    intro k first k' second same
    obtain ⟨g, among, inside⟩ := List.mem_flatMap.mp first
    obtain ⟨g', among', inside'⟩ := List.mem_flatMap.mp second
    have read := GroupKey.decode_encode ((keyed g among).apart k inside)
    rw [same, GroupKey.decode_encode ((keyed g' among').apart k' inside')] at read
    exact (Option.some.inj read).symm

theorem FilterOperator.name_inj {op op' : FilterOperator} (same : op.name = op'.name) :
    op = op' := by
  have spelled (op : FilterOperator) : spellings.lookup op.name = some op := by
    cases op <;> decide
  have read := spelled op
  rw [same, spelled op'] at read
  exact (Option.some.inj read).symm

theorem FilterOperator.parse_supports {raw : String} {type : ValueType} {op : FilterOperator}
    (parsed : parse raw type = .ok op) : op.supports type = true := by
  unfold parse at parsed
  split at parsed
  · split_ifs at parsed with supported
    cases parsed
    exact supported
  · cases parsed

structure Bucket.Twins (b b' : Bucket) : Prop where
  operator : b.operator = b'.operator
  literal : b.literal = b'.literal

theorem Bucket.twins_of_title {field : String} {type : ValueType} {r r' : RequestedBucket}
    {b b' : Bucket} (planned : planBucket field type r = .ok b)
    (planned' : planBucket field type r' = .ok b') (same : b.title = b'.title) :
    b.Twins b' := by
  have read := GroupKey.decode_title (planBucket_ok planned).title
  rw [same, GroupKey.decode_title (planBucket_ok planned').title] at read
  obtain ⟨-, operator, literal⟩ := GroupKey.bucket.inj (Option.some.inj read)
  exact ⟨(FilterOperator.name_inj operator).symm, literal.symm⟩

/-- Two buckets of one field and type that share a title are duplicates: they have one operator and
one literal, and wherever both compile, the predicate and all it binds are the same, unless they
are lists of texts with a comma in one. Planned groups are refused exactly if two of their columns
have one key. -/
theorem duplicate_buckets :
    (∀ {field : String} {type : ValueType} {r r' : RequestedBucket} {b b' : Bucket},
      planBucket field type r = .ok b → planBucket field type r' = .ok b' → b.title = b'.title →
      b.Twins b' ∧
        (Filter.IsExactOperand r.value → Filter.IsExactOperand r'.value →
          ¬Filter.Flattens b.operator type r.value r'.value →
          ∀ {κ : Type} (column : StoredColumn κ) {p p' : Predicate κ},
            Filter.compile type b.operator b.value column = .ok p →
            Filter.compile type b'.operator b'.value column = .ok p' → p = p')) ∧
      ∀ {specs : List RequestedGroup} {groups : List GroupPlan},
        checkAll ofSpec specs = .ok groups →
        (checkDistinct groups = .ok () ↔ (groups.flatMap (·.keys)).Nodup) := by
  refine ⟨fun planned planned' same => ?_, checkDistinct_ok_iff_keys⟩
  have twins := Bucket.twins_of_title planned planned' same
  refine ⟨twins, fun exact_ exact' told κ column p p' made made' => ?_⟩
  have passes := planBucket_ok planned
  have passes' := planBucket_ok planned'
  have text : GroupPlan.operandText _ = GroupPlan.operandText _ :=
    (passes.literal.symm.trans twins.literal).trans passes'.literal
  have listed := passes.listed
  have listed' := passes'.listed
  rw [passes.value] at made listed
  rw [← twins.operator, passes'.value] at made'
  rw [passes'.value] at listed'
  exact Filter.compile_same (FilterOperator.parse_supports passes.operator) exact_ exact' listed
    listed' text told made made'

theorem Checked.exists_ok {α : Type} {x : Checked α} (passes : x.toOption.isSome = true) :
    ∃ a, x = .ok a := by
  obtain ⟨a, passed⟩ := Option.isSome_iff_exists.mp passes
  exact ⟨a, ok_of_toOption passed⟩

theorem Bucket.title_eq {b b' : Bucket} (same : b.title.text = b'.title.text) :
    b.title = b'.title := by
  cases own : b.title
  cases own' : b'.title
  rw [own, own'] at same
  cases same
  rfl

structure SameTitled (field : String) (type type' : ValueType) (r r' : RequestedBucket)
    (op : FilterOperator) (b b' : Bucket) : Prop where
  first : planBucket field type r = .ok b
  second : planBucket field type' r' = .ok b'
  title : b.title = b'.title
  operator : b.operator = op
  operator' : b'.operator = op
  value : b.value = r.value
  value' : b'.value = r'.value

theorem exists_sameTitled {field : String} (title : String) {type type' : ValueType}
    {r r' : RequestedBucket} {op : FilterOperator}
    (shown : (planBucket field type r).toOption.map (fun b => (b.title.text, b.operator))
      = some (title, op))
    (shown' : (planBucket field type' r').toOption.map (fun b => (b.title.text, b.operator))
      = some (title, op)) :
    ∃ b b', SameTitled field type type' r r' op b b' := by
  obtain ⟨b, passed, same⟩ := Option.map_eq_some_iff.mp shown
  obtain ⟨b', passed', same'⟩ := Option.map_eq_some_iff.mp shown'
  have planned : planBucket field type r = .ok b := Checked.ok_of_toOption passed
  have planned' : planBucket field type' r' = .ok b' := Checked.ok_of_toOption passed'
  obtain ⟨named, operator⟩ := Prod.mk.inj same
  obtain ⟨named', operator'⟩ := Prod.mk.inj same'
  exact ⟨b, b', planned, planned', Bucket.title_eq (named.trans named'.symm), operator, operator',
    (planBucket_ok planned).value, (planBucket_ok planned').value⟩

def sampleHalf : Binary64 := .finite false 5629499534213120 (-51)

theorem sampleHalf_exact : Filter.IsExact (.float sampleHalf) :=
  ⟨rfl, .inl ⟨by decide, by decide, by decide, by decide⟩⟩

def sampleNumbers : RequestedBucket := ⟨"between", .array [.int 10, .float sampleHalf]⟩

def sampleTexts : RequestedBucket := ⟨"In Range", .array [.text "10", .text "2.5"]⟩

def sampleColumn : StoredColumn Unit := ⟨(), .native⟩

theorem duplicate_buckets_sample : ∃ b b' p groups,
    planBucket "amount" .number sampleNumbers = .ok b ∧
      planBucket "amount" .number sampleTexts = .ok b' ∧
      Filter.compile .number b.operator b.value sampleColumn = .ok p ∧
      Filter.compile .number b'.operator b'.value sampleColumn = .ok p ∧
      checkAll ofSpec [⟨"amount", .number, [sampleNumbers, sampleTexts]⟩] = .ok groups ∧
      (checkDistinct groups = .ok () ↔ (groups.flatMap (·.keys)).Nodup) := by
  obtain ⟨b, b', titled⟩ : ∃ b b',
      SameTitled "amount" .number .number sampleNumbers sampleTexts .between b b' := by
    apply exists_sameTitled "%amount|between|10,2.5" <;> decide +kernel
  obtain ⟨groups, grouped⟩ : ∃ groups, checkAll ofSpec
      [⟨"amount", .number, [sampleNumbers, sampleTexts]⟩] = .ok groups :=
    Checked.exists_ok (by decide +kernel)
  obtain ⟨p, made⟩ : ∃ p, Filter.compile .number .between sampleNumbers.value sampleColumn
      = .ok p := Checked.exists_ok (by decide +kernel)
  obtain ⟨p', made'⟩ : ∃ p', Filter.compile .number .between sampleTexts.value sampleColumn
      = .ok p' := Checked.exists_ok (by decide +kernel)
  have exact_ : Filter.IsExactOperand sampleNumbers.value := by
    refine ⟨trivial, ?_⟩
    rintro items ⟨⟩ item member
    rcases List.mem_pair.mp member with rfl | rfl
    · trivial
    · exact sampleHalf_exact
  have exact' : Filter.IsExactOperand sampleTexts.value := by
    refine ⟨trivial, ?_⟩
    rintro items ⟨⟩ item member
    rcases List.mem_pair.mp member with rfl | rfl <;> trivial
  have plain : ¬Filter.Flattens b.operator .number sampleNumbers.value sampleTexts.value :=
    fun flat => flat.textual.elim nofun nofun
  rw [← titled.operator, ← titled.value] at made
  rw [← titled.operator', ← titled.value'] at made'
  have equal : p = p' :=
    (duplicate_buckets.1 titled.first titled.second titled.title).2 exact_ exact' plain _ made made'
  rw [← equal] at made'
  exact ⟨b, b', p, groups, titled.first, titled.second, made, made', grouped,
    duplicate_buckets.2 grouped⟩

/-- Titles tell less than operands in three ways. The literals of a list with one text and of a
list with two are the same where the one text holds a comma, and the rows are not; null and the
text of it have one literal, and only the text can be compared; a number and a text of the same
characters differ in the type of their group, which is no part of a title. -/
theorem buckets_flattened :
    (∃ b b', planBucket "os" .string ⟨"in", .array [.text "a,b"]⟩ = .ok b ∧
      planBucket "os" .string ⟨"in", .array [.text "a", .text "b"]⟩ = .ok b' ∧ b.title = b'.title ∧
      Filter.compile .string b.operator b.value sampleColumn
        ≠ Filter.compile .string b'.operator b'.value sampleColumn ∧
      checkDistinct [⟨"os", .string, .custom [b, b']⟩] ≠ .ok ()) ∧
    (∃ b b', planBucket "os" .string ⟨"equals", .null⟩ = .ok b ∧
      planBucket "os" .string ⟨"equals", .text "null"⟩ = .ok b' ∧ b.title = b'.title ∧
      (Filter.compile .string b.operator b.value sampleColumn).toOption = none ∧
      (Filter.compile .string b'.operator b'.value sampleColumn).toOption.isSome = true) ∧
    ∃ b b', planBucket "amount" .number ⟨"equals", .text "10"⟩ = .ok b ∧
      planBucket "amount" .string ⟨"equals", .text "10"⟩ = .ok b' ∧ b.title = b'.title ∧
      Filter.compile .number b.operator b.value sampleColumn
        ≠ Filter.compile .string b'.operator b'.value sampleColumn := by
  refine ⟨?_, ?_, ?_⟩
  · obtain ⟨b, b', titled⟩ : ∃ b b', SameTitled "os" .string .string ⟨"in", .array [.text "a,b"]⟩
        ⟨"in", .array [.text "a", .text "b"]⟩ .inList b b' := by
      apply exists_sameTitled "%os|in|a,b" <;> decide +kernel
    refine ⟨b, b', titled.first, titled.second, titled.title, ?_, ?_⟩
    · rw [titled.operator, titled.operator', titled.value, titled.value']
      decide +kernel
    · rw [Ne, checkDistinct_ok_iff]
      simp [GroupPlan.titles, titled.title]
  · obtain ⟨b, b', titled⟩ : ∃ b b', SameTitled "os" .string .string ⟨"equals", .null⟩
        ⟨"equals", .text "null"⟩ .equals b b' := by
      apply exists_sameTitled "%os|equals|null" <;> decide +kernel
    refine ⟨b, b', titled.first, titled.second, titled.title, ?_, ?_⟩
    · rw [titled.operator, titled.value]
      decide +kernel
    · rw [titled.operator', titled.value']
      decide +kernel
  · obtain ⟨b, b', titled⟩ : ∃ b b', SameTitled "amount" .number .string ⟨"equals", .text "10"⟩
        ⟨"equals", .text "10"⟩ .equals b b' := by
      apply exists_sameTitled "%amount|equals|10" <;> decide +kernel
    refine ⟨b, b', titled.first, titled.second, titled.title, ?_⟩
    rw [titled.operator, titled.operator', titled.value, titled.value']
    decide +kernel

end Analytics
