import Analytics.Paging.Cursor
import Analytics.Proofs.Json.Numbers
import Analytics.Proofs.Json.Texts
import Analytics.Proofs.Text.Base64

/-!
Cursors are read back. A client that hands back the cursor of a page names the row behind which the
next page begins.
-/

namespace Analytics.Cursor

open Json

theorem bytes_loop (bytes : ByteArray) (i : Nat) (done : List UInt8) :
    ByteArray.toList.loop bytes i done = done.reverse ++ bytes.data.toList.drop i := by
  fun_induction ByteArray.toList.loop bytes i done with
  | case1 i done within ih =>
    have length : i < bytes.data.toList.length := by simpa using within
    have byte : bytes.get! i = bytes.data.toList[i] := by
      have here : bytes.get! i = bytes.data[i]! := by cases bytes; rfl
      rw [here, getElem!_pos bytes.data i within]
      rfl
    rw [ih, List.drop_eq_getElem_cons length, byte, List.reverse_cons, List.append_assoc]
    rfl
  | case2 i done past =>
    have ended : bytes.data.toList.drop i = [] :=
      List.drop_eq_nil_of_le (by simpa using Nat.le_of_not_lt past)
    rw [ended, List.append_nil]

theorem textOf?_toUTF8 (s : String) : textOf? s.toUTF8.toList = some s := by
  have bytes : ByteArray.mk s.toUTF8.toList.toArray = s.toUTF8 := by
    rw [ByteArray.toList, bytes_loop]
    rfl
  rw [textOf?, bytes, String.fromUTF8?, String.toUTF8_eq_toByteArray, dif_pos s.isValidUTF8]
  rfl

theorem toList_render (after : Int) : (document after).render.toList
    = "\x7b\"after\":".toList ++ ((toString after).toList ++ ['\x7d']) := by
  have canonical : (document after).canonical = document after := rfl
  have member : String.intercalate "," [quote "after" ++ ":" ++ toString after]
      = quote "after" ++ ":" ++ toString after := rfl
  have key : (quote "after").toList = "\"after\"".toList := by
    rw [quote, String.toList_ofList]
    rfl
  rw [render, canonical, document]
  simp only [write, writeMembers, member, String.toList_append, key, List.append_assoc]
  rfl

theorem readMembers_after {after : Int} {steps depth : Nat} {rest : List Char}
    (read : readValue steps depth rest = some (.int after, ['\x7d'])) :
    readMembers (steps + 1) depth ("\"after\":".toList ++ rest)
      = some ([("after", .int after)], []) := by
  have quoted : skipGaps ("\"after\":".toList ++ rest) = '"' :: ("after\":".toList ++ rest) := rfl
  have key : readString [] ("after\":".toList ++ rest) = some ("after".toList, ':' :: rest) := rfl
  have colon : skipGaps (':' :: rest) = ':' :: rest := rfl
  have last : skipGaps ['\x7d'] = ['\x7d'] := rfl
  simp only [readMembers, quoted, key, colon, read, last]
  rfl

theorem parse?_render {after : Int} (fits : fitsWord after = true) :
    Json.parse? (document after).render = some (document after) := by
  have ends : EndsNumber ['\x7d'] := by
    rintro c ⟨⟩
    decide
  have object (steps : Nat) (rest : List Char) :
      readValue (steps + 1) nestingLimit ('\x7b' :: ("\"after\":".toList ++ rest))
        = (readMembers steps (nestingLimit - 1) ("\"after\":".toList ++ rest)).map
            fun read => (.object read.1, read.2) := rfl
  -- The text is longer than the three steps into the number.
  obtain ⟨steps, enough⟩ : ∃ steps,
      2 * (document after).render.toList.length + 2 = steps + 3 := by
    refine ⟨2 * (document after).render.toList.length - 1, ?_⟩
    have long : 0 < (document after).render.toList.length := by
      rw [toList_render, List.length_append]
      exact Nat.add_pos_left (by decide) _
    omega
  have first : readFirst (document after).render.toList = some (document after, []) := by
    rw [readFirst, enough, toList_render]
    refine (object _ _).trans ?_
    rw [readMembers_after (readValue_int fits _ _ ends)]
    rfl
  rw [parse?, first]
  rfl

theorem readDocument_document {after : Int} (fits : fitsWord after = true) :
    readDocument (document after) = .ok after := by
  have word : readWord (.int after) = .ok after := by
    rw [readWord, toWord?, if_pos fits]
  exact word

theorem letter_of_mem {after : Int} {c : Char} (member : c ∈ (encode after).toList) :
    ∃ n < 64, c = Base64.urlSafe.letter n := by
  rw [encode, String.toList_ofList] at member
  exact Base64.mem_encode member

/-- A cursor is read back as the number that it was made of, whatever blanks are put around it. -/
theorem decode_padded {after : Int} (fits : fitsWord after = true) (before behind : String)
    (front : before.toList.all Text.isBlank = true) (back : behind.toList.all Text.isBlank = true) :
    decode (before ++ encode after ++ behind) = .ok after := by
  have seen : ∀ c ∈ (encode after).toList, Text.isBlank c = false := by
    intro c member
    obtain ⟨n, small, rfl⟩ := letter_of_mem member
    exact Base64.urlSafe_letter_seen small
  rw [decode, String.toList_append, String.toList_append,
    Text.trimChars_padded (List.all_eq_true.mp front) seen (List.all_eq_true.mp back), encode,
    String.toList_ofList, Base64.decode_encode]
  simp only [textOf?_toUTF8, Option.bind_some, parse?_render fits, readDocument_document fits]

theorem decode_encode {after : Int} (fits : fitsWord after = true) :
    decode (encode after) = .ok after := by
  have padded := decode_padded fits "" "" rfl rfl
  rwa [String.empty_append, String.append_empty] at padded

theorem encode_injective {after other : Int} (fits : fitsWord after = true)
    (fits' : fitsWord other = true) (same : encode after = encode other) : after = other := by
  have read := decode_encode fits
  rw [same, decode_encode fits'] at read
  exact (Except.ok.inj read).symm

theorem letter_plain {n : Nat} (small : n < 64) : IsPlain (Base64.urlSafe.letter n) := by
  unfold IsPlain
  interval_cases n <;> decide

/-- A cursor stands for one word and is read back as it, with or without blanks around it. It is made
of letters that need no escape in an address or in a document, so it is printed there as it is and
read back from there. -/
theorem cursor_round_trip {after : Int} (fits : fitsWord after = true) :
    decode (encode after) = .ok after ∧
    (∀ before behind : String, before.toList.all Text.isBlank = true →
      behind.toList.all Text.isBlank = true →
        decode (before ++ encode after ++ behind) = .ok after) ∧
    (∀ other, fitsWord other = true → encode other = encode after → other = after) ∧
    (∀ c ∈ (encode after).toList, c ∈ Base64.addressLetters.toList) ∧
    (Json.text (encode after)).render = "\"" ++ encode after ++ "\"" ∧
    Json.parse? ("\"" ++ encode after ++ "\"") = some (.text (encode after)) := by
  have plain : ∀ c ∈ (encode after).toList, IsPlain c := by
    intro c member
    obtain ⟨n, small, rfl⟩ := letter_of_mem member
    exact letter_plain small
  refine ⟨decode_encode fits, decode_padded fits,
    fun other fits' same => encode_injective fits' fits same, fun c member => ?_,
    quote_plain plain, parse?_plain plain⟩
  obtain ⟨n, small, rfl⟩ := letter_of_mem member
  exact Base64.urlSafe_letter_mem small

theorem cursor_round_trip_least : fitsWord leastWord = true ∧
    decode ("\n" ++ encode leastWord ++ "\u3000") = .ok leastWord ∧
    encode leastWord = "eyJhZnRlciI6LTkyMjMzNzIwMzY4NTQ3NzU4MDh9" := by
  have fits : fitsWord leastWord = true := by decide
  refine ⟨fits, (cursor_round_trip fits).2.1 "\n" "\u3000" (by decide) (by decide), ?_⟩
  decide +kernel

end Analytics.Cursor
