import Analytics.Sql.Dialect
import Analytics.Sql.Fragment

/-!
Predicates of statements as data, over columns `κ` of any kind, and how they are written. A value is
written as a placeholder and bound, never as text.
-/

namespace Analytics

inductive Comparison where
  | equal
  | notEqual
  | greater
  | atLeast
  | less
  | atMost
  deriving DecidableEq, Repr

namespace Comparison

def symbol : Comparison → String
  | .equal => "="
  | .notEqual => "<>"
  | .greater => ">"
  | .atLeast => ">="
  | .less => "<"
  | .atMost => "<="

/-- Whether the comparison holds of two values in an order. -/
def holds : Comparison → Ordering → Bool
  | .equal, o => o = .eq
  | .notEqual, o => o ≠ .eq
  | .greater, o => o = .gt
  | .atLeast, o => o ≠ .lt
  | .less, o => o = .lt
  | .atMost, o => o ≠ .gt

end Comparison

/-- A value in a comparison: a column or a bound value, perhaps behind a cast. -/
inductive Scalar (κ : Type) where
  | column (c : κ)
  | bound (value : Bind)
  | number (e : Scalar κ)
  | timestamp (e : Scalar κ)
  | date (e : Scalar κ)
  deriving DecidableEq, Repr

namespace Scalar

def render {κ : Type} (name : κ → String) (d : Dialect) : Scalar κ → Fragment
  | column c => Fragment.raw (name c)
  | bound value => Fragment.placeholder value
  | number e => let inner := e.render name d; ⟨d.castNumber inner.sql, inner.binds⟩
  | timestamp e => let inner := e.render name d; ⟨d.castTimestamp inner.sql, inner.binds⟩
  | date e => let inner := e.render name d; ⟨d.castDate inner.sql, inner.binds⟩

end Scalar

inductive Predicate (κ : Type) where
  | always
  | never
  | isNull (c : κ)
  | isNotNull (c : κ)
  | compare (comparison : Comparison) (left right : Scalar κ)
  | both (first second : Predicate κ)
  | within (item : Scalar κ) (items : List (Scalar κ))
  | notWithin (item : Scalar κ) (items : List (Scalar κ))
  | like (c : κ) (pattern : String)
  | notLike (c : κ) (pattern : String)
  deriving DecidableEq, Repr

namespace Predicate

variable {κ : Type}

def renderLike (name : κ → String) (d : Dialect) (c : κ) (pattern : String) : Fragment :=
  Fragment.raw (name c ++ " " ++ d.likeOperator ++ " ") ++
    (Fragment.placeholder (.text pattern)).andThen " ESCAPE '\\'"

def renderList (name : κ → String) (d : Dialect) (word : String) (item : Scalar κ)
    (items : List (Scalar κ)) : Fragment :=
  (item.render name d).andThen (" " ++ word ++ " ") ++
    (Fragment.join ", " (items.map (·.render name d))).enclose "(" ")"

def render (name : κ → String) (d : Dialect) : Predicate κ → Fragment
  | always => Fragment.always
  | never => Fragment.never
  | isNull c => Fragment.raw (name c ++ " IS NULL")
  | isNotNull c => Fragment.raw (name c ++ " IS NOT NULL")
  | compare comparison left right =>
    (left.render name d).andThen (" " ++ comparison.symbol ++ " ") ++ right.render name d
  | both first second => (first.render name d).andThen " AND " ++ second.render name d
  | within item items => renderList name d "IN" item items
  | notWithin item items => renderList name d "NOT IN" item items
  | like c pattern => renderLike name d c pattern
  | notLike c pattern => (renderLike name d c pattern).enclose "NOT (" ")"

end Predicate

end Analytics
