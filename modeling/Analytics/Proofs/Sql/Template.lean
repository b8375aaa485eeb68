import Analytics.Proofs.Sql.Quoting
import Analytics.Sql.Fragment
import Analytics.Sql.Ident

/-!
Templates: statements in pieces, each placeholder with the value that it stands for. A template is
written as a statement with `?` for the placeholders, and with their numbers for stores that count
them; the two differ in nothing else.
-/

namespace Analytics

inductive Piece where
  /-- Words outside quotes. -/
  | text (s : String)
  /-- A name between double quotes. -/
  | name (i : Ident)
  /-- A text between single quotes. -/
  | literal (s : String)
  /-- A placeholder. -/
  | slot (value : Bind)

/-- Whether a text may stand between single quotes where placeholders are counted. -/
def IsQuiet (s : String) : Prop := '\x27' ∉ s.toList ∧ '?' ∉ s.toList

namespace Piece

def chars : Piece → List Char
  | text s => s.toList
  | name i => '"' :: (i.text.toList ++ ['"'])
  | literal s => '\x27' :: (s.toList ++ ['\x27'])
  | slot _ => ['?']

/-- What is left of a piece where nothing stands between quotes. -/
def outline : Piece → List Char
  | text s => s.toList
  | name _ => ['"', '"']
  | literal _ => ['\x27', '\x27']
  | slot _ => ['?']

def value? : Piece → Option Bind
  | slot value => some value
  | _ => none

/-- Whether a piece keeps to its kind: words are words, and no literal ends its quotes or holds the
mark of a placeholder. Names do so by themselves. -/
def IsTidy : Piece → Prop
  | text s => ∀ c ∈ s.toList, Quoting.isWord c = true
  | literal s => IsQuiet s
  | _ => True

end Piece

abbrev Template := List Piece

namespace Template

def chars (t : Template) : List Char := t.flatMap Piece.chars

def outline (t : Template) : List Char := t.flatMap Piece.outline

def slots (t : Template) : List Bind := t.filterMap Piece.value?

/-- The template with its placeholders numbered from `next` on and other pieces written by `write`. -/
def numbered (write : Piece → List Char) (next : Nat) : Template → List Char
  | [] => []
  | .slot _ :: rest => '$' :: (Nat.toDigits 10 next ++ numbered write (next + 1) rest)
  | p :: rest => write p ++ numbered write next rest

def fragment (t : Template) : Fragment := ⟨String.ofList t.chars, t.slots⟩

/-- The templates in order with words between each two. -/
def join (separator : String) : List Template → Template
  | [] => []
  | [t] => t
  | t :: rest => t ++ .text separator :: join separator rest

def enclose (before behind : String) (t : Template) : Template :=
  .text before :: (t ++ [.text behind])

/-- The templates as one condition, each in parentheses. -/
def conjunction : List Template → Template
  | [] => [.text "1=1"]
  | ts => join " AND " (ts.map (enclose "(" ")"))

def IsTidy (t : Template) : Prop := ∀ p ∈ t, p.IsTidy

end Template

namespace Fragment

theorem append_eq (f g : Fragment) : f ++ g = ⟨f.sql ++ g.sql, f.binds ++ g.binds⟩ := rfl

theorem append_assoc (f g h : Fragment) : f ++ g ++ h = f ++ (g ++ h) := by
  simp only [append_eq, String.append_assoc, List.append_assoc]

theorem andThen_eq (f : Fragment) (s : String) : f.andThen s = f ++ raw s := by
  simp only [andThen, raw, append_eq, List.append_nil]

theorem enclose_eq (before behind : String) (f : Fragment) :
    f.enclose before behind = raw before ++ (f ++ raw behind) := by
  rw [enclose, andThen_eq, append_assoc]

theorem raw_append (s t : String) : raw (s ++ t) = raw s ++ raw t := by
  simp only [raw, append_eq, List.append_nil]

theorem bound_one (before behind : String) (value : Bind) :
    bound (before ++ ("?" ++ behind)) [value] = raw before ++ (placeholder value ++ raw behind) := by
  simp only [bound, raw, placeholder, append_eq, List.nil_append, List.append_nil]

theorem append_empty (f : Fragment) : f ++ empty = f := by
  simp only [append_eq, empty, raw, String.append_empty, List.append_nil]

theorem join_raw (separator : String) (ss : List String) :
    join separator (ss.map raw) = raw (String.intercalate separator ss) := by
  induction ss with
  | nil => rfl
  | cons s rest ih =>
    cases rest with
    | nil => rfl
    | cons t rest =>
      simp only [List.map_cons, join] at ih ⊢
      rw [ih, String.intercalate_cons_cons, andThen_eq, raw_append, raw_append, append_assoc]

end Fragment

namespace Template

@[simp] theorem chars_cons (p : Piece) (t : Template) : chars (p :: t) = p.chars ++ chars t := by
  simp only [chars, List.flatMap_cons]

@[simp] theorem slots_cons (p : Piece) (t : Template) :
    slots (p :: t) = p.value?.toList ++ slots t := by
  simp only [slots, List.filterMap_cons]
  cases p.value? <;> rfl

@[simp] theorem outline_nil : outline [] = [] := rfl

@[simp] theorem outline_cons (p : Piece) (t : Template) :
    outline (p :: t) = p.outline ++ outline t := by
  simp only [outline, List.flatMap_cons]

@[simp] theorem outline_append (t u : Template) : outline (t ++ u) = outline t ++ outline u := by
  simp only [outline, List.flatMap_append]

theorem fragment_nil : fragment [] = Fragment.empty := rfl

theorem fragment_append (t u : Template) : fragment (t ++ u) = t.fragment ++ u.fragment := by
  simp only [fragment, chars, slots, List.flatMap_append, List.filterMap_append,
    String.ofList_append, Fragment.append_eq]

theorem fragment_cons (p : Piece) (t : Template) :
    fragment (p :: t) = fragment [p] ++ fragment t := fragment_append [p] t

theorem fragment_text (s : String) : fragment [.text s] = Fragment.raw s := by
  simp only [fragment, chars, slots, List.flatMap_singleton, Piece.chars, Piece.value?,
    List.filterMap_cons, List.filterMap_nil, String.ofList_toList, Fragment.raw]

theorem fragment_name (i : Ident) : fragment [.name i] = Fragment.raw i.quoted := by
  have written : String.ofList ('"' :: (i.text.toList ++ ['"'])) = i.quoted := by
    apply String.toList_injective
    simp only [String.toList_ofList, Ident.quoted, String.toList_append]
    rfl
  simp only [fragment, chars, slots, List.flatMap_singleton, Piece.chars, Piece.value?,
    List.filterMap_cons, List.filterMap_nil, written, Fragment.raw]

theorem fragment_literal (s : String) :
    fragment [.literal s] = Fragment.raw ("'" ++ s ++ "'") := by
  have written : String.ofList ('\x27' :: (s.toList ++ ['\x27'])) = "'" ++ s ++ "'" := by
    apply String.toList_injective
    simp only [String.toList_ofList, String.toList_append]
    rfl
  simp only [fragment, chars, slots, List.flatMap_singleton, Piece.chars, Piece.value?,
    List.filterMap_cons, List.filterMap_nil, written, Fragment.raw]

theorem fragment_slot (value : Bind) : fragment [.slot value] = Fragment.placeholder value := rfl

theorem fragment_text_cons (s : String) (t : Template) :
    fragment (.text s :: t) = Fragment.raw s ++ t.fragment := by
  rw [fragment_cons, fragment_text]

theorem fragment_name_cons (i : Ident) (t : Template) :
    fragment (.name i :: t) = Fragment.raw i.quoted ++ t.fragment := by
  rw [fragment_cons, fragment_name]

theorem fragment_literal_cons (s : String) (t : Template) :
    fragment (.literal s :: t) = Fragment.raw ("'" ++ s ++ "'") ++ t.fragment := by
  rw [fragment_cons, fragment_literal]

theorem fragment_slot_cons (value : Bind) (t : Template) :
    fragment (.slot value :: t) = Fragment.placeholder value ++ t.fragment := by
  rw [fragment_cons, fragment_slot]

theorem fragment_join (separator : String) (ts : List Template) :
    fragment (join separator ts) = Fragment.join separator (ts.map fragment) := by
  induction ts with
  | nil => rfl
  | cons t rest ih =>
    cases rest with
    | nil => rfl
    | cons u rest =>
      simp only [join, List.map_cons, Fragment.join] at ih ⊢
      rw [fragment_append, fragment_cons, fragment_text, ih, Fragment.andThen_eq,
        Fragment.append_assoc]

theorem fragment_enclose (before behind : String) (t : Template) :
    (t.enclose before behind).fragment = t.fragment.enclose before behind := by
  rw [enclose, fragment_cons, fragment_append, fragment_text, fragment_text, Fragment.enclose_eq]

theorem fragment_behind (t u : Template) (s : String) :
    (t ++ .text s :: u).fragment = t.fragment.andThen s ++ u.fragment := by
  rw [fragment_append, fragment_cons, fragment_text, Fragment.andThen_eq, Fragment.append_assoc]

theorem fragment_conjunction (ts : List Template) :
    (conjunction ts).fragment = Fragment.conjunction (ts.map fragment) := by
  cases ts with
  | nil => exact fragment_text "1=1"
  | cons t rest =>
    have each : (fragment ∘ enclose "(" ")") = Fragment.enclose "(" ")" ∘ fragment :=
      funext (fragment_enclose "(" ")")
    rw [conjunction, fragment_join, List.map_map, each, ← List.map_map]
    · rfl
    · exact List.cons_ne_nil t rest

end Template

end Analytics
