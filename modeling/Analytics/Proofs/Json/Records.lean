import Analytics.Json.Record
import Analytics.Proofs.Json.Canonical

/-!
Reading back what was written. A reader and a writer keep what they pass on if everything that is
read from some value is read again from what is written for it; lists and optional values of what
is kept are kept, and so are records, field by field.
-/

namespace Analytics.Json

section

variable {α β : Type} {read : Json → Read α} {a : α}

theorem bind_read {first : Read α} {next : α → Read β} {b : β} (done : first >>= next = .ok b) :
    ∃ a, first = .ok a ∧ next a = .ok b := by
  cases first with
  | error fault => cases done
  | ok a => exact ⟨a, rfl, done⟩

theorem exists_members {names : List String} {build : List (String × Json) → Read α} {value : Json}
    (done : readRecord names build value = .ok a) : ∃ members, build members = .ok a := by
  unfold readRecord at done
  split at done
  · rename_i members
    split_ifs at done
    exact ⟨members, done⟩
  · rename_i items
    cases built : build (names.zip items) with
    | error fault =>
      rw [built] at done
      cases done
    | ok b =>
      rw [built] at done
      split_ifs at done
      exact ⟨_, built.trans done⟩
  · cases done

theorem exists_required {members : List (String × Json)} {name : String}
    (found : required members name read = .ok a) : ∃ value, read value = .ok a := by
  unfold required at found
  split at found
  · exact ⟨_, found⟩
  · cases found

theorem exists_withDefault {members : List (String × Json)} {name : String} {absent : α}
    (found : withDefault members name absent read = .ok a) :
    a = absent ∨ ∃ value, read value = .ok a := by
  unfold withDefault at found
  split at found
  · exact .inr ⟨_, found⟩
  · cases found
    exact .inl rfl

theorem readRecord_object {names : List String} {members : List (String × Json)}
    {build : List (String × Json) → Read α} (once : repeats names members = false) :
    readRecord names build (.object members) = build members := by
  rw [readRecord, once]
  rfl

@[simp] theorem ok_bind (a : α) (next : α → Read β) : (Except.ok a : Read α) >>= next = next a :=
  rfl

@[simp] theorem required_cons (key name : String) (value : Json) (rest : List (String × Json)) :
    required ((key, value) :: rest) name read
      = if name = key then read value else required rest name read := by
  unfold required
  rw [lookup_cons]
  split_ifs <;> rfl

@[simp] theorem withDefault_cons (key name : String) (value : Json) (rest : List (String × Json))
    (absent : α) : withDefault ((key, value) :: rest) name absent read
      = if name = key then read value else withDefault rest name absent read := by
  unfold withDefault
  rw [lookup_cons]
  split_ifs <;> rfl

@[simp] theorem withDefault_nil (name : String) (absent : α) :
    withDefault [] name absent read = .ok absent := rfl

/-- Whether what is read from any value is read again from what is written for it. -/
def Keeps (read : Json → Read α) (write : α → Json) : Prop :=
  ∀ value a, read value = .ok a → read (write a) = .ok a

variable {write : α → Json}

theorem Keeps.required (keeps : Keeps read write) {members : List (String × Json)} {name : String}
    (found : required members name read = .ok a) : read (write a) = .ok a := by
  obtain ⟨value, own⟩ := exists_required found
  exact keeps value a own

theorem Keeps.withDefault (keeps : Keeps read write) {members : List (String × Json)}
    {name : String} {absent : α} (default_ : read (write absent) = .ok absent)
    (found : withDefault members name absent read = .ok a) : read (write a) = .ok a := by
  rcases exists_withDefault found with rfl | ⟨value, own⟩
  · exact default_
  · exact keeps value a own

theorem readEach_mem {items : List Json} {all : List α} (done : readEach read items = .ok all) :
    ∀ a ∈ all, ∃ item, read item = .ok a := by
  induction items generalizing all with
  | nil =>
    cases done
    exact fun a member => absurd member List.not_mem_nil
  | cons item rest ih =>
    unfold readEach at done
    split at done
    · cases done
    · rename_i first own
      cases later : readEach read rest with
      | error fault =>
        rw [later] at done
        cases done
      | ok others =>
        rw [later] at done
        cases done
        exact List.forall_mem_cons.mpr ⟨⟨item, own⟩, ih later⟩

theorem readEach_write {all : List α} (back : ∀ a ∈ all, read (write a) = .ok a) :
    readEach read (all.map write) = .ok all := by
  induction all with
  | nil => rfl
  | cons a rest ih =>
    obtain ⟨own, later⟩ := List.forall_mem_cons.mp back
    rw [List.map_cons, readEach]
    simp only [own, ih later, Except.map]

theorem Keeps.list (keeps : Keeps read write) :
    Keeps (readList read) fun all => .array (all.map write) := by
  intro value all done
  unfold readList at done
  split at done
  · refine readEach_write fun a member => ?_
    obtain ⟨item, own⟩ := readEach_mem done a member
    exact keeps item a own
  · cases done

/-- A value that may be missing is kept, if it is never written as null. -/
theorem Keeps.option (keeps : Keeps read write) (some_ : ∀ a, (write a).isNull = false) :
    Keeps (readOption read) (ofOption write) := by
  have present (value : Json) (there : value.isNull = false) :
      readOption read value = (read value).map some := by
    cases value with
    | null => cases there
    | _ => rfl
  intro value a? done
  cases a? with
  | none => rfl
  | some a =>
    have own : read value = .ok a := by
      cases there : value.isNull with
      | true =>
        cases value with
        | null => cases done
        | _ => cases there
      | false =>
        rw [present value there] at done
        cases own : read value with
        | error fault =>
          rw [own] at done
          cases done
        | ok b =>
          rw [own] at done
          cases done
          rfl
    rw [ofOption, present _ (some_ a), keeps value a own]
    rfl

end

theorem keeps_text : Keeps readText .text := fun _ _ _ => rfl

theorem keeps_word : Keeps readWord .int := by
  intro value i done
  unfold readWord at done
  split at done
  · rename_i word
    cases done
    cases value with
    | int j =>
      rw [toWord?, Option.ite_none_right_eq_some] at word
      obtain ⟨fits, same⟩ := word
      cases same
      rw [readWord, toWord?, if_pos fits]
    | _ => cases word
  · cases done

theorem keeps_any : Keeps readAny fun value => value := by
  rintro value j ⟨⟩
  exact congrArg Except.ok value.canonical_canonical

end Analytics.Json
