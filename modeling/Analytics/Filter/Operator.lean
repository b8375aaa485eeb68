import Analytics.Error
import Analytics.Text.Blank

/-!
Filter operators: their names and accepted spellings, and the value types each one applies to.
-/

namespace Analytics

inductive FilterOperator where
  | equals
  | notEquals
  | contains
  | notContains
  | startsWith
  | endsWith
  | greaterThan
  | greaterThanOrEqual
  | lessThan
  | lessThanOrEqual
  | between
  | isNull
  | isNotNull
  | inList
  | notInList
  deriving DecidableEq, Repr

namespace FilterOperator

def name : FilterOperator → String
  | .equals => "equals"
  | .notEquals => "not-equals"
  | .contains => "contains"
  | .notContains => "not-contains"
  | .startsWith => "starts-with"
  | .endsWith => "ends-with"
  | .greaterThan => "greater-than"
  | .greaterThanOrEqual => "greater-than-or-equal"
  | .lessThan => "less-than"
  | .lessThanOrEqual => "less-than-or-equal"
  | .between => "between"
  | .isNull => "is-null"
  | .isNotNull => "is-not-null"
  | .inList => "in"
  | .notInList => "not-in"

/-- Every accepted spelling, in lower case and with hyphens between words. -/
def spellings : List (String × FilterOperator) :=
  [ ("equals", .equals), ("eq", .equals), ("=", .equals),
    ("not-equals", .notEquals), ("ne", .notEquals), ("!=", .notEquals),
    ("contains", .contains), ("not-contains", .notContains),
    ("starts-with", .startsWith), ("ends-with", .endsWith),
    ("greater-than", .greaterThan), ("gt", .greaterThan), (">", .greaterThan),
    ("greater-than-or-equal", .greaterThanOrEqual), ("gte", .greaterThanOrEqual),
    (">=", .greaterThanOrEqual),
    ("less-than", .lessThan), ("lt", .lessThan), ("<", .lessThan),
    ("less-than-or-equal", .lessThanOrEqual), ("lte", .lessThanOrEqual),
    ("<=", .lessThanOrEqual),
    ("between", .between), ("in-range", .between),
    ("is-null", .isNull), ("is-not-null", .isNotNull),
    ("in", .inList), ("in-list", .inList), ("not-in", .notInList), ("not-in-list", .notInList) ]

def supports (op : FilterOperator) (type : ValueType) : Bool :=
  match op with
  | .isNull | .isNotNull | .inList | .notInList => true
  | .equals | .notEquals => type ≠ .other
  | .contains | .notContains | .startsWith | .endsWith => type = .string
  | .greaterThan | .greaterThanOrEqual | .lessThan | .lessThanOrEqual | .between =>
    type = .number || type = .date

def normalize (raw : String) : String :=
  String.ofList ((Text.lower (Text.trim raw)).toList.map fun c =>
    if c = ' ' || c = '_' then '-' else c)

def parse (raw : String) (type : ValueType) : Checked FilterOperator :=
  match spellings.lookup (normalize raw) with
  | some op => if op.supports type then .ok op else .error (.unsupportedOperator raw type)
  | none => .error (.unsupportedOperator raw type)

end FilterOperator

end Analytics
