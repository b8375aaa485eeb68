import Analytics.Filter.Operator
import Analytics.Sql.Predicate
import Analytics.Time.Operand
import Analytics.Time.Writing

/-!
Filters as predicates. What an operand is bound as follows from the value type and from how the
column stores its values; a filter and a custom bucket compile alike.
-/

namespace Analytics

inductive Storage where
  /-- In the natural type of the values. -/
  | native
  /-- As text, whatever the values are. -/
  | text
  /-- As times in an encoding. -/
  | temporal (encoding : TimestampEncoding)
  deriving DecidableEq, Repr

/-- A column with its storage. -/
structure StoredColumn (κ : Type) where
  ref : κ
  storage : Storage
  deriving DecidableEq, Repr

namespace Filter

inductive Binding where
  | text
  | number
  | temporal (encoding : TimestampEncoding)
  deriving DecidableEq, Repr

/-- The encoding that dates are compared in: that of a temporal column, else date and clock. -/
def dateEncoding : Storage → TimestampEncoding
  | .temporal encoding => encoding
  | _ => .datetime

def bindingFor (type : ValueType) (storage : Storage) : Binding :=
  match type with
  | .number => .number
  | .date => .temporal (dateEncoding storage)
  | .string | .other => .text

def castTo {κ : Type} (encoding : TimestampEncoding) (e : Scalar κ) : Scalar κ :=
  match encoding with
  | .timestamp | .timestampMs => e
  | .datetime => .timestamp e
  | .date => .date e

def leftSide {κ : Type} (type : ValueType) (column : StoredColumn κ) : Scalar κ :=
  match type with
  | .number => if column.storage = .text then .number (.column column.ref) else .column column.ref
  | .date => castTo (dateEncoding column.storage) (.column column.ref)
  | .string | .other => .column column.ref

def textOf (value : Json) : Checked String :=
  match value with
  | .text s => .ok s
  | .int i => .ok (toString i)
  | .float x => .ok (Json.floatText x)
  | .bool b => .ok (if b then "true" else "false")
  | other => .error (.request (.notAScalar other.render))

def numberOf (value : Json) : Checked Binary64 :=
  match value with
  | .int i => .ok (Binary64.ofInt i)
  | .float x => .ok x
  | .text s =>
    match Binary64.ofText? (Text.trim s) with
    | some x => .ok x
    | none => .error (.request (.badNumber s))
  | other => .error (.request (.notANumber other.render))

def encodeInstant (encoding : TimestampEncoding) (t : Instant) : Bind :=
  match encoding with
  | .timestamp => .int t.seconds
  | .timestampMs => .int t.toMillis
  | .datetime => .text t.dateTimeText
  | .date => .text t.dateText

/-- An operand as the right side of a comparison. -/
def operand {κ : Type} (binding : Binding) (value : Json) : Checked (Scalar κ) :=
  match binding with
  | .text => (textOf value).map fun s => .bound (.text s)
  | .number => (numberOf value).map fun x => .bound (.float x)
  | .temporal encoding =>
    (Instant.ofJson value).map fun t => castTo encoding (.bound (encodeInstant encoding t))

def operands {κ : Type} (binding : Binding) : List Json → Checked (List (Scalar κ))
  | [] => .ok []
  | value :: rest =>
    match operand binding value with
    | .error e => .error e
    | .ok first =>
      match operands binding rest with
      | .error e => .error e
      | .ok others => .ok (first :: others)

def escapePatternChar (c : Char) : List Char :=
  if c = '%' || c = '_' || c = '\\' then ['\\', c] else [c]

def escapePattern (s : String) : String := String.ofList (s.toList.flatMap escapePatternChar)

inductive PatternAnchor where
  | inside
  | atStart
  | atEnd
  deriving DecidableEq, Repr

def patternFor (shape : PatternAnchor) (s : String) : String :=
  match shape with
  | .inside => "%" ++ escapePattern s ++ "%"
  | .atStart => escapePattern s ++ "%"
  | .atEnd => "%" ++ escapePattern s

def boundsOf (value : Json) : Checked (Json × Json) :=
  match value with
  | .array [low, high] => .ok (low, high)
  | _ => .error (.request .notARange)

def itemsOf (value : Json) : Checked (List Json) :=
  match value with
  | .array items => .ok items
  | _ => .error (.request .notAList)

section

variable {κ : Type} (type : ValueType) (column : StoredColumn κ) (value : Json)

def comparison (op : Comparison) : Checked (Predicate κ) :=
  (operand (bindingFor type column.storage) value).map fun right =>
    .compare op (leftSide type column) right

def pattern (shape : PatternAnchor) : Checked (Predicate κ) :=
  (textOf value).map fun s => .like column.ref (patternFor shape s)

def membership : Checked (Predicate κ) :=
  match itemsOf value with
  | .error e => .error e
  | .ok [] => .ok .never
  | .ok items => (operands (bindingFor type column.storage) items).map fun rights =>
    .within (leftSide type column) rights

def nonMembership : Checked (Predicate κ) :=
  match itemsOf value with
  | .error e => .error e
  | .ok [] => .ok .always
  | .ok items => (operands (bindingFor type column.storage) items).map fun rights =>
    .notWithin (leftSide type column) rights

/-- Both bounds belong to the range. -/
def range : Checked (Predicate κ) :=
  match boundsOf value with
  | .error e => .error e
  | .ok (low, high) =>
    match comparison type column low .atLeast with
    | .error e => .error e
    | .ok lower => (comparison type column high .atMost).map fun upper => .both lower upper

end

/-- The predicate of an operator on a column, for an operand. -/
def compile {κ : Type} (type : ValueType) (op : FilterOperator) (value : Json)
    (column : StoredColumn κ) : Checked (Predicate κ) :=
  match op with
  | .isNull => .ok (.isNull column.ref)
  | .isNotNull => .ok (.isNotNull column.ref)
  | .equals => comparison type column value .equal
  | .notEquals => comparison type column value .notEqual
  | .greaterThan => comparison type column value .greater
  | .greaterThanOrEqual => comparison type column value .atLeast
  | .lessThan => comparison type column value .less
  | .lessThanOrEqual => comparison type column value .atMost
  | .between => range type column value
  | .contains => pattern column value .inside
  | .notContains => (textOf value).map fun s => .notLike column.ref (patternFor .inside s)
  | .startsWith => pattern column value .atStart
  | .endsWith => pattern column value .atEnd
  | .inList => membership type column value
  | .notInList => nonMembership type column value

end Filter

end Analytics
