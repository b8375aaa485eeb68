/-!
What the two kinds of store write differently.
-/

namespace Analytics

inductive Dialect where
  | postgres
  | sqlite
  deriving DecidableEq, Repr, Inhabited

namespace Dialect

def name : Dialect → String
  | .postgres => "postgres"
  | .sqlite => "sqlite"

/-- The operator that matches a pattern without regard to case. -/
def likeOperator : Dialect → String
  | .postgres => "ILIKE"
  | .sqlite => "LIKE"

def castNumber (d : Dialect) (expr : String) : String :=
  match d with
  | .postgres => "CAST(" ++ expr ++ " AS double precision)"
  | .sqlite => "CAST(" ++ expr ++ " AS REAL)"

def castTimestamp (d : Dialect) (expr : String) : String :=
  match d with
  | .postgres => "CAST(" ++ expr ++ " AS timestamp)"
  | .sqlite => "datetime(" ++ expr ++ ")"

def castDate (d : Dialect) (expr : String) : String :=
  match d with
  | .postgres => "CAST(" ++ expr ++ " AS date)"
  | .sqlite => "date(" ++ expr ++ ")"

def numberFrom (inQuotes : Bool) (next : Nat) : List Char → List Char
  | [] => []
  | c :: rest =>
    if c = '\x27' then c :: numberFrom (!inQuotes) next rest
    else if c = '?' && !inQuotes then
      '$' :: (Nat.toDigits 10 next ++ numberFrom inQuotes (next + 1) rest)
    else c :: numberFrom inQuotes next rest

/-- Placeholders in the form that the store reads. -/
def numberPlaceholders (d : Dialect) (sql : String) : String :=
  match d with
  | .postgres => String.ofList (numberFrom false 1 sql.toList)
  | .sqlite => sql

end Dialect

end Analytics
