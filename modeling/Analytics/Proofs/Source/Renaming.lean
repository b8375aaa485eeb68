import Analytics.Proofs.Source.Alike

/-!
Renamed applications. The source of a request over an application and that of the renamed request
over the renamed application are alike.
-/

namespace Analytics

open Template

variable {ρ : Renaming} {d : Dialect}

/-- Whether an optional column has the other name of an optional column. -/
def OptionRenamed (ρ : Renaming) (i i' : Option Ident) : Prop :=
  i'.map (·.text) = i.map fun i => ρ.column i.text

structure EventTable.Renamed (ρ : Renaming) (t t' : EventTable) : Prop where
  name : t'.name.text = ρ.table t.name.text
  id : t'.id.text = ρ.column t.id.text
  eventName : t'.eventName.text = ρ.column t.eventName.text
  session : OptionRenamed ρ t.session t'.session
  createdAt : t'.createdAt.text = ρ.column t.createdAt.text
  encoding : t'.encoding = t.encoding
  date : OptionRenamed ρ t.date t'.date
  dateZone : t'.dateZone = t.dateZone

structure ParameterTable.Renamed (ρ : Renaming) (t t' : ParameterTable) : Prop where
  name : t'.name.text = ρ.table t.name.text
  eventId : t'.eventId.text = ρ.column t.eventId.text
  parameterName : t'.parameterName.text = ρ.column t.parameterName.text
  value : t'.value.text = ρ.column t.value.text
  number : OptionRenamed ρ t.number t'.number
  text : OptionRenamed ρ t.text t'.text
  date : OptionRenamed ρ t.date t'.date

structure LongTable.Renamed (ρ : Renaming) (t t' : LongTable) : Prop where
  events : t.events.Renamed ρ t'.events
  parameters : t.parameters.Renamed ρ t'.parameters

structure WideField.Renamed (ρ : Renaming) (f f' : WideField) : Prop where
  name : f'.name.text = ρ.column f.name.text
  type : f'.type = f.type
  encoding : f'.encoding = f.encoding

structure WideTable.Renamed (ρ : Renaming) (t t' : WideTable) : Prop where
  table : t'.table.text = ρ.table t.table.text
  createdAt : t'.createdAt.text = ρ.column t.createdAt.text
  encoding : t'.encoding = t.encoding
  date : OptionRenamed ρ t.date t'.date
  dateZone : t'.dateZone = t.dateZone
  distinct : t'.distinct.text = ρ.column t.distinct.text
  eventName : OptionRenamed ρ t.eventName t'.eventName
  fields : List.Forall₂ (WideField.Renamed ρ) t.fields t'.fields

/-- What serves a request and what serves its renamed form. -/
inductive Resolved.Renamed (ρ : Renaming) : Resolved → Resolved → Prop
  | internal : Renamed ρ .internal .internal
  | long {t t' : LongTable} {store store' : StoreLocation} (tables : t.Renamed ρ t') :
    Renamed ρ (.long t store) (.long t' store')
  | wide {t t' : WideTable} {store store' : StoreLocation} (tables : t.Renamed ρ t') :
    Renamed ρ (.wide t store) (.wide t' store')

theorem OptionRenamed.isSome {i i' : Option Ident} (renamed : OptionRenamed ρ i i') :
    i'.isSome = i.isSome := by
  have same := congrArg Option.isSome renamed
  simpa only [Option.isSome_map] using same

theorem Filter.compile_renamed {f f' : PlannedFilter} {column column' : StoredColumn Column}
    {p p' : Predicate Column} (storage : column.storage = column'.storage) (renamed : f.Renamed ρ f')
    (first : compile f.type f.operator f.value column = .ok p)
    (second : compile f'.type f'.operator f'.value column' = .ok p') :
    outline (p.template d) = outline (p'.template d) := by
  rw [renamed.type, renamed.operator, renamed.value] at second
  have alike : f.value.Alike f.value := by
    intro items others same same'
    rw [Json.array.inj (same.symm.trans same')]
  exact outline_compile d storage alike first second

theorem Filter.plain_renamed {f f' : PlannedFilter} {column column' : StoredColumn Column}
    {c c' : Condition} (storage : column.storage = column'.storage) (renamed : f.Renamed ρ f')
    (first : (compile f.type f.operator f.value column).map Condition.plain = .ok c)
    (second : (compile f'.type f'.operator f'.value column').map Condition.plain = .ok c') :
    outline (c.template d) = outline (c'.template d) := by
  obtain ⟨p, own, rfl⟩ := map_ok first
  obtain ⟨p', other, rfl⟩ := map_ok second
  exact compile_renamed storage renamed own other

namespace Internal

theorem dimension_native {field : String} {column : StoredColumn Column}
    (known : dimension field = .ok column) : column.storage = .native := by
  unfold dimension at known
  split at known
  · cases known
    rfl
  · cases known

theorem source_alike (website website' : String) :
    (source website).Alike ρ d (source website') := by
  constructor
  · rfl
  · rfl
  · rfl
  · rfl
  · rfl
  · rfl
  · intro index g g' c c' renamed first second
    rw [dimension_native first, dimension_native second]
  · intro f f' c c' renamed first second
    change Internal.filter f = .ok c at first
    change Internal.filter f' = .ok c' at second
    unfold Internal.filter at first second
    split at first
    · cases first
    rename_i column known
    split at second
    · cases second
    rename_i column' known'
    have storage : column.storage = column'.storage := by
      rw [dimension_native known, dimension_native known']
    exact Filter.plain_renamed storage renamed first second

end Internal

namespace WideTable

variable {t t' : WideTable}

theorem field_renamed {name : String} {field field' : WideField} (renamed : t.Renamed ρ t')
    (first : t.field? name = some field) (second : t'.field? (ρ.column name) = some field') :
    field.Renamed ρ field' := by
  have fields := renamed.fields
  unfold field? at first second
  generalize t.fields = own at first fields
  generalize t'.fields = other at second fields
  induction fields with
  | nil => cases first
  | cons head _ ih =>
    rw [List.find?_cons] at first second
    have same (other : String) : ρ.column other = ρ.column name ↔ other = name :=
      ρ.columns_apart.eq_iff
    simp only [head.name, same] at second
    split at first
    · rename_i here
      rw [here] at second
      cases first
      cases second
      exact head
    · rename_i elsewhere
      rw [elsewhere] at second
      exact ih first second

theorem fieldColumn_alike {name : String} {column column' : StoredColumn Column}
    (renamed : t.Renamed ρ t') (first : t.fieldColumn name = .ok column)
    (second : t'.fieldColumn (ρ.column name) = .ok column') : column.storage = column'.storage := by
  unfold fieldColumn at first second
  split at first
  · rename_i field found
    cases first
    split at second
    · rename_i field' found'
      cases second
      have pair := field_renamed renamed found found'
      unfold stored
      rw [pair.type, pair.encoding]
      cases field.type <;> rfl
    · cases second
  · cases first

theorem source_alike (renamed : t.Renamed ρ t') : t.source.Alike ρ d t'.source := by
  constructor
  · exact renamed.encoding
  · have date := renamed.date.isSome
    simpa only [WideTable.source, Option.isSome_map] using date
  · exact renamed.dateZone
  · rfl
  · rfl
  · rfl
  · intro index g g' c c' group first second
    change t.fieldColumn g.field = .ok c at first
    change t'.fieldColumn g'.field = .ok c' at second
    rw [group.field] at second
    exact fieldColumn_alike renamed first second
  · intro f f' c c' filter first second
    change t.filter f = .ok c at first
    change t'.filter f' = .ok c' at second
    unfold WideTable.filter at first second
    rw [filter.field] at second
    split at first
    · cases first
    rename_i column known
    split at second
    · cases second
    rename_i column' known'
    exact Filter.plain_renamed (fieldColumn_alike renamed known known') filter first second

end WideTable

namespace LongTable

variable {t t' : LongTable}

theorem namesEvents_renamed (renamed : t.Renamed ρ t') (field : String) :
    t'.namesEvents (ρ.column field) = t.namesEvents field := by
  have same : ρ.column t.events.eventName.text = ρ.column field ↔ t.events.eventName.text = field :=
    ρ.columns_apart.eq_iff
  simp only [namesEvents, renamed.events.eventName, same]

theorem stored_alike {i i' : Option Ident} (same : i'.isSome = i.isSome) (storage : Storage)
    (column column' : Ident → Column) (generic generic' : Column) :
    (match i with
      | some name => (⟨column name, storage⟩ : StoredColumn Column)
      | none => ⟨generic, .text⟩).storage
    = (match i' with
      | some name => (⟨column' name, storage⟩ : StoredColumn Column)
      | none => ⟨generic', .text⟩).storage := by
  cases i <;> cases i' <;> first | rfl | cases same

theorem storedValue_alike (renamed : t.Renamed ρ t') (r r' : Relation) (type : ValueType) :
    (t.storedValue r type).storage = (t'.storedValue r' type).storage := by
  have parameters := renamed.parameters
  unfold storedValue
  cases type with
  | number => exact stored_alike parameters.number.isSome .native r.column r'.column _ _
  | date => exact stored_alike parameters.date.isSome (.temporal .datetime) r.column r'.column _ _
  | string => exact stored_alike parameters.text.isSome .native r.column r'.column _ _
  | other => exact stored_alike parameters.text.isSome .native r.column r'.column _ _

theorem joins_alike (renamed : t.Renamed ρ t') {gs gs' : List GroupPlan} (index : Nat)
    (groups : List.Forall₂ (GroupPlan.Renamed ρ) gs gs') :
    (t.joinsFrom index gs).map (fun j => outline (j.template d))
      = (t'.joinsFrom index gs').map fun j => outline (j.template d) := by
  induction groups generalizing index with
  | nil => rfl
  | cons head _ ih =>
    rw [joinsFrom, joinsFrom, head.field, namesEvents_renamed renamed]
    split
    · exact ih (index + 1)
    · rw [List.map_cons, List.map_cons, ih (index + 1)]
      rfl

theorem eventId_alike (renamed : t.Renamed ρ t') {gs gs' : List GroupPlan}
    (groups : List.Forall₂ (GroupPlan.Renamed ρ) gs gs') :
    (gs'.any fun g => !t'.namesEvents g.field) = gs.any fun g => !t.namesEvents g.field := by
  induction groups with
  | nil => rfl
  | cons head _ ih => rw [List.any_cons, List.any_cons, head.field, namesEvents_renamed renamed, ih]

theorem source_alike (renamed : t.Renamed ρ t') {gs gs' : List GroupPlan}
    (groups : List.Forall₂ (GroupPlan.Renamed ρ) gs gs') :
    (t.source gs).Alike ρ d (t'.source gs') := by
  constructor
  · exact renamed.events.encoding
  · have date := renamed.events.date.isSome
    simpa only [LongTable.source, Option.isSome_map] using date
  · exact renamed.events.dateZone
  · simp only [LongTable.source, eventId_alike renamed groups]
    split <;> rfl
  · exact joins_alike renamed 0 groups
  · rfl
  · intro index g g' c c' group first second
    cases first
    cases second
    unfold groupColumn
    rw [group.field, namesEvents_renamed renamed, group.type]
    split
    · rfl
    · exact storedValue_alike renamed _ _ g.type
  · intro f f' c c' filter first second
    change t.filter f = .ok c at first
    change t'.filter f' = .ok c' at second
    unfold LongTable.filter at first second
    rw [filter.field, namesEvents_renamed renamed] at second
    split at first
    · rw [if_pos (by assumption)] at second
      have storage : (⟨t.eventName, .native⟩ : StoredColumn Column).storage
          = (⟨t'.eventName, .native⟩ : StoredColumn Column).storage := rfl
      exact Filter.plain_renamed storage filter first second
    · rw [if_neg (by assumption)] at second
      obtain ⟨p, own, rfl⟩ := map_ok first
      obtain ⟨p', other, rfl⟩ := map_ok second
      have storage : (t.storedValue t.filterRelation f.type).storage
          = (t'.storedValue t'.filterRelation f'.type).storage := by
        rw [filter.type]
        exact storedValue_alike renamed _ _ f.type
      have found : outline (p.template d) = outline (p'.template d) :=
        Filter.compile_renamed storage filter own other
      simp only [Condition.template, outline_cons, outline_append, outline_enclose, outline_nil, found]
      rfl

end LongTable

/-- What serves a request and what serves its renamed form read them in the same ways. -/
theorem Resolved.source_alike {r r' : Resolved} {p p' : QueryPlan} (resolved : r.Renamed ρ r')
    (renamed : p.Renamed ρ p') : (r.source p).Alike ρ d (r'.source p') := by
  cases resolved with
  | internal => exact Internal.source_alike p.insightId p'.insightId
  | long tables => exact LongTable.source_alike tables renamed.groups
  | wide tables => exact WideTable.source_alike tables

end Analytics
