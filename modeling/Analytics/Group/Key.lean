import Analytics.Sql.Ident

/-!
Keys of group columns. A key is written into the name of its result column, as `%field` or as
`%field|operator|literal`, and read back from there.
-/

namespace Analytics

inductive GroupKey where
  | raw (value : String)
  | bucket (value operator literal : String)
  deriving DecidableEq, Repr

namespace GroupKey

def splitBar : List Char → List Char × Option (List Char)
  | [] => ([], none)
  | c :: rest =>
    if c = '|' then ([], some rest)
    else ((c :: (splitBar rest).1), (splitBar rest).2)

def encode : GroupKey → String
  | raw value => "%" ++ value
  | bucket value operator literal => "%" ++ value ++ "|" ++ operator ++ "|" ++ literal

def decodeBody (body : List Char) : Option GroupKey :=
  match splitBar body with
  | (value, none) => some (raw (String.ofList value))
  | (value, some rest) =>
    match splitBar rest with
    | (_, none) => none
    | (operator, some literal) =>
      some (bucket (String.ofList value) (String.ofList operator) (String.ofList literal))

/-- The key in a column name; none for columns of other kinds. Bars after the second one belong to
the literal. -/
def decode (name : String) : Option GroupKey :=
  match name.toList with
  | '%' :: body => decodeBody body
  | _ => none

def parts : GroupKey → List String
  | raw value => [value]
  | bucket value operator literal => [value, operator, literal]

def checkParts : List String → Except IdentFault Unit
  | [] => .ok ()
  | part :: rest =>
    match Ident.checkComponent part with
    | .error fault => .error fault
    | .ok () => checkParts rest

theorem plain_of_checkParts {ps : List String} (h : checkParts ps = .ok ()) :
    ∀ p ∈ ps, p.toList.all IdentChar.isPlain = true := by
  induction ps with
  | nil => simp
  | cons part rest ih =>
    unfold checkParts at h
    split at h
    · simp at h
    · rename_i checked
      intro p member
      rcases List.mem_cons.mp member with rfl | later
      · exact Ident.plain_of_checkComponent checked
      · exact ih h p later

theorem safe_encode {k : GroupKey} (h : ∀ p ∈ k.parts, p.toList.all IdentChar.isPlain = true) :
    k.encode.toList.all IdentChar.isSafe = true := by
  have safe : ∀ p ∈ k.parts, p.toList.all IdentChar.isSafe = true :=
    fun p member => Ident.safe_of_plain (h p member)
  have percent : "%".toList.all IdentChar.isSafe = true := rfl
  have bar : "|".toList.all IdentChar.isSafe = true := rfl
  cases k with
  | raw value =>
    have first := safe value (by simp [parts])
    simp only [encode, String.toList_append, List.all_append, percent, first, Bool.and_self]
  | bucket value operator literal =>
    have first := safe value (by simp [parts])
    have second := safe operator (by simp [parts])
    have third := safe literal (by simp [parts])
    simp only [encode, String.toList_append, List.all_append, percent, bar, first, second, third,
      Bool.and_self]

/-- The name of a key's column: every part is a plain component, and the whole is short enough. -/
def title (k : GroupKey) : Except IdentFault Ident :=
  match h : checkParts k.parts with
  | .error fault => .error fault
  | .ok () =>
    match Ident.checkLength k.encode with
    | .error fault => .error fault
    | .ok () => .ok ⟨k.encode, safe_encode (plain_of_checkParts h)⟩

end GroupKey

end Analytics
