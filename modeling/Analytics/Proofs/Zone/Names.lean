import Analytics.Proofs.Sql.Template
import Analytics.Time.Window

/-!
Names of zones. Every zone that a request can name is known by its own name, in which there are no
quotes and no marks of placeholders.
-/

namespace Analytics

/-- Whether no byte of a text is a single quote or a question mark. -/
def hasQuietBytes (s : String) : Bool :=
  s.toByteArray.data.toList.all fun b => b.toNat != 39 && b.toNat != 63

theorem quiet_of_bytes {s : String} (bytes : hasQuietBytes s = true) : IsQuiet s := by
  have encoded : s.toByteArray.data.toList = s.toList.flatMap String.utf8EncodeChar := by
    rw [← String.utf8Encode_toList, List.utf8Encode, List.data_toByteArray]
  have free (mark : Char) (byte : UInt8) (single : String.utf8EncodeChar mark = [byte])
      (refused : (byte.toNat != 39 && byte.toNat != 63) = false) : mark ∉ s.toList := by
    intro member
    have among : byte ∈ s.toByteArray.data.toList := by
      rw [encoded]
      exact List.mem_flatMap.mpr ⟨mark, member, single ▸ List.mem_singleton_self byte⟩
    have held := List.all_eq_true.mp bytes byte among
    exact Bool.false_ne_true (refused.symm.trans held)
  exact ⟨free '\x27' 39 rfl rfl, free '?' 63 rfl rfl⟩

namespace Zone

theorem histories_quiet : (histories.all fun h => hasQuietBytes h.1) = true := by decide +kernel

theorem aliases_quiet : (aliases.all fun a => hasQuietBytes a.1) = true := by decide +kernel

theorem lookup_member {β : Type} {name : String} {value : β} {entries : List (String × β)}
    (found : entries.lookup name = some value) : (name, value) ∈ entries := by
  obtain ⟨before, behind, rfl, _⟩ := List.lookup_eq_some_iff.mp found
  exact List.mem_append_right before List.mem_cons_self

theorem named_quiet {name : String} {zone : Zone} (found : named? name = some zone) :
    IsQuiet zone.name := by
  obtain ⟨eras, history, rfl⟩ := Option.map_eq_some_iff.mp found
  have known : hasQuietBytes name = true := by
    cases home : aliases.lookup name with
    | some target => exact List.all_eq_true.mp aliases_quiet _ (lookup_member home)
    | none =>
      rw [home] at history
      exact List.all_eq_true.mp histories_quiet _ (lookup_member history)
  exact quiet_of_bytes known

theorem parse_quiet {raw : String} {zone : Zone} (parsed : parse raw = .ok zone) :
    IsQuiet zone.name := by
  simp only [parse] at parsed
  split at parsed
  · cases parsed
    exact ⟨by decide, by decide⟩
  · split at parsed
    · rename_i found
      cases parsed
      exact named_quiet found
    · cases parsed

theorem utc_named : named? utc.name = some utc := by decide +kernel

theorem parse_named {raw : String} {zone : Zone} (parsed : parse raw = .ok zone) :
    named? zone.name = some zone := by
  simp only [parse] at parsed
  split at parsed
  · cases parsed
    exact utc_named
  · split at parsed
    · rename_i found
      cases parsed
      obtain ⟨eras, -, rfl⟩ := Option.map_eq_some_iff.mp found
      exact found
    · cases parsed

end Zone

end Analytics
