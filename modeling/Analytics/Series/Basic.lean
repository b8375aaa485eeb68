import Analytics.Json.Record
import Analytics.Number.Binary64

/-!
Series: a name, and a value for each date.
-/

namespace Analytics

open Json (Read readRecord required readText readFloat readList)

structure DataPoint where
  date : String
  value : Binary64
  deriving DecidableEq, Repr

structure Series where
  name : String
  data : List DataPoint
  deriving DecidableEq, Repr

namespace DataPoint

def read : Json → Read DataPoint := readRecord ["date", "value"] fun members => do
  let date ← required members "date" readText
  let number ← required members "value" readFloat
  pure ⟨date, number⟩

def toJson (p : DataPoint) : Json := .object [("date", .text p.date), ("value", .ofFloat p.value)]

end DataPoint

namespace Series

def read : Json → Read Series := readRecord ["name", "data"] fun members => do
  let name ← required members "name" readText
  let data ← required members "data" (readList DataPoint.read)
  pure ⟨name, data⟩

def toJson (s : Series) : Json :=
  .object [("data", .array (s.data.map DataPoint.toJson)), ("name", .text s.name)]

end Series

end Analytics
