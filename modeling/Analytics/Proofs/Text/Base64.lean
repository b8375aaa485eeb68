import Analytics.Text.Base64
import Analytics.Text.Blank
import Mathlib.Tactic.IntervalCases

/-!
Bytes as letters. The letters that stand in addresses write every row of bytes so that it is read
back.
-/

namespace Analytics.Base64

theorem urlSafe_value {n : Nat} (small : n < 64) : urlSafe.value? (urlSafe.letter n) = some n := by
  interval_cases n <;> rfl

theorem urlSafe_letter_seen {n : Nat} (small : n < 64) :
    Text.isBlank (urlSafe.letter n) = false := by
  interval_cases n <;> rfl

theorem mem_encode {bytes : List UInt8} {c : Char} (member : c ∈ urlSafe.encode bytes) :
    ∃ n < 64, c = urlSafe.letter n := by
  have last {c : Char} (count : Nat) : c ∉ urlSafe.fill count := List.not_mem_nil
  induction bytes using encode.induct with
  | case1 x y z rest ih =>
    have := x.toNat_lt
    have := y.toNat_lt
    have := z.toNat_lt
    simp only [encode, List.mem_cons] at member
    rcases member with rfl | rfl | rfl | rfl | later
    · exact ⟨_, by omega, rfl⟩
    · exact ⟨_, by omega, rfl⟩
    · exact ⟨_, by omega, rfl⟩
    · exact ⟨_, by omega, rfl⟩
    · exact ih later
  | case2 x y =>
    have := x.toNat_lt
    have := y.toNat_lt
    simp only [encode, List.mem_cons, last, or_false] at member
    rcases member with rfl | rfl | rfl
    · exact ⟨_, by omega, rfl⟩
    · exact ⟨_, by omega, rfl⟩
    · exact ⟨_, by omega, rfl⟩
  | case3 x =>
    have := x.toNat_lt
    simp only [encode, List.mem_cons, last, or_false] at member
    rcases member with rfl | rfl
    · exact ⟨_, by omega, rfl⟩
    · exact ⟨_, by omega, rfl⟩
  | case4 => cases member

/-- The letters that stand in addresses unescaped. -/
def addressLetters : String := "ABCDEFGHIJKLMNOPQRSTUVWXYZabcdefghijklmnopqrstuvwxyz0123456789-_"

theorem urlSafe_letter_mem {n : Nat} (small : n < 64) :
    urlSafe.letter n ∈ addressLetters.toList := by
  interval_cases n <;> decide

theorem decode_encode (bytes : List UInt8) :
    urlSafe.decode? (urlSafe.encode bytes) = some bytes := by
  have none_ (count : Nat) : urlSafe.fill count = [] := rfl
  induction bytes using encode.induct with
  | case1 x y z rest ih =>
    have := x.toNat_lt
    have := y.toNat_lt
    have := z.toNat_lt
    simp only [encode, decode?]
    generalize sum : (x.toNat * 256 + y.toNat) * 256 + z.toNat = n
    have whole : ((n / 262144 * 64 + n / 4096 % 64) * 64 + n / 64 % 64) * 64 + n % 64 = n := by
      omega
    have first : n / 65536 = x.toNat := by omega
    have second : n / 256 % 256 = y.toNat := by omega
    have third : n % 256 = z.toNat := by omega
    rw [urlSafe_value (by omega), urlSafe_value (by omega), urlSafe_value (by omega),
      urlSafe_value (by omega)]
    simp only [ih, Option.map_some]
    rw [whole, first, second, third, UInt8.ofNat_toNat, UInt8.ofNat_toNat, UInt8.ofNat_toNat]
  | case2 x y =>
    have := x.toNat_lt
    have := y.toNat_lt
    simp only [encode, none_, decode?]
    generalize sum : (x.toNat * 256 + y.toNat) * 4 = n
    have whole : (n / 4096 * 64 + n / 64 % 64) * 64 + n % 64 = n := by omega
    have first : n / 1024 = x.toNat := by omega
    have second : n / 4 % 256 = y.toNat := by omega
    rw [urlSafe_value (by omega), urlSafe_value (by omega), urlSafe_value (by omega)]
    simp only
    rw [whole, if_pos (by omega), first, second, UInt8.ofNat_toNat, UInt8.ofNat_toNat]
  | case3 x =>
    have := x.toNat_lt
    simp only [encode, none_, decode?]
    generalize sum : x.toNat * 16 = n
    have whole : n / 64 * 64 + n % 64 = n := by omega
    have first : n / 16 = x.toNat := by omega
    rw [urlSafe_value (by omega), urlSafe_value (by omega)]
    simp only
    rw [whole, if_pos (by omega), first, UInt8.ofNat_toNat]
  | case4 => rfl

end Analytics.Base64

namespace Analytics.Text

theorem dropWhile_blanks {blanks cs : List Char} (blank : ∀ c ∈ blanks, isBlank c = true)
    (seen : ∀ c ∈ cs.head?, isBlank c = false) : (blanks ++ cs).dropWhile isBlank = cs := by
  rw [List.dropWhile_append_of_pos blank]
  cases cs with
  | nil => rfl
  | cons c rest => rw [List.dropWhile_cons_of_neg (by simp [seen c rfl])]

theorem trimChars_padded {before cs behind : List Char} (front : ∀ c ∈ before, isBlank c = true)
    (seen : ∀ c ∈ cs, isBlank c = false) (back : ∀ c ∈ behind, isBlank c = true) :
    trimChars (before ++ cs ++ behind) = cs := by
  have right : trimRight (cs ++ behind) = cs := by
    rw [trimRight, List.reverse_append, dropWhile_blanks, List.reverse_reverse]
    · exact fun c member => back c (List.mem_reverse.mp member)
    · exact fun c member => seen c (List.mem_reverse.mp (List.mem_of_mem_head? member))
  rw [trimChars, trimLeft]
  cases cs with
  | nil =>
    have all : ∀ c ∈ before ++ [] ++ behind, isBlank c = true := by
      rw [List.append_nil]
      exact fun c member => (List.mem_append.mp member).elim (front c) (back c)
    rw [← List.append_nil (before ++ [] ++ behind), dropWhile_blanks all (by simp)]
    rfl
  | cons c rest =>
    have head : ∀ d ∈ (c :: rest ++ behind).head?, isBlank d = false := by
      rintro d ⟨⟩
      exact seen c List.mem_cons_self
    rw [List.append_assoc, dropWhile_blanks front head, right]

end Analytics.Text
