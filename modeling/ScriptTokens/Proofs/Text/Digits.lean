import Mathlib.Data.List.Basic
import ScriptTokens.Config
import ScriptTokens.Toml.Literal

namespace ScriptTokens
open Text

theorem exists_digit_of_mem_toDigits {base n : Nat} (low : 1 < base) {c : Char}
    (h : c ∈ Nat.toDigits base n) : ∃ digit < base, c = Nat.digitChar digit := by
  induction n using Nat.strongRecOn with
  | ind n ih =>
    rw [Nat.toDigits_eq_if low] at h
    split at h
    · rename_i digit
      exact ⟨n, digit, List.mem_singleton.mp h⟩
    · have smaller : n / base < n := Nat.div_lt_self (by omega) low
      rcases List.mem_append.mp h with front | last
      · exact ih _ smaller front
      · exact ⟨n % base, Nat.mod_lt n (by omega), List.mem_singleton.mp last⟩

theorem hexValue?_digitChar : ∀ digit < 16, hexValue? (Nat.digitChar digit) = some digit := by
  decide

theorem exists_hexValue?_of_mem_toDigits {n : Nat} {c : Char} (h : c ∈ Nat.toDigits 16 n) :
    ∃ digit, hexValue? c = some digit := by
  obtain ⟨digit, bound, rfl⟩ := exists_digit_of_mem_toDigits (by decide) h
  exact ⟨digit, hexValue?_digitChar digit bound⟩

theorem digitsValue_toDigits {base : Nat} (low : 1 < base) (high : base ≤ 16) (n : Nat) :
    Toml.digitsValue base (Nat.toDigits base n) = n := by
  induction n using Nat.strongRecOn with
  | ind n ih =>
    rw [Nat.toDigits_eq_if low]
    split
    · simp [Toml.digitsValue, hexValue?_digitChar n (by omega)]
    · have smaller : n / base < n := Nat.div_lt_self (by omega) low
      have last : n % base < base := Nat.mod_lt n (by omega)
      have front := ih _ smaller
      rw [Toml.digitsValue] at front
      rw [Toml.digitsValue, List.foldl_append, front]
      simp [hexValue?_digitChar (n % base) (by omega), Nat.div_add_mod']

theorem eq_zero_of_head?_toDigits {base n : Nat} (low : 1 < base) (high : base ≤ 16)
    (h : (Nat.toDigits base n).head? = some '0') : n = 0 := by
  induction n using Nat.strongRecOn with
  | ind n ih =>
    rw [Nat.toDigits_eq_if low] at h
    split at h
    · rename_i digit
      have written : Nat.digitChar n = '0' := Option.some.inj h
      have read := hexValue?_digitChar n (by omega)
      rw [written] at read
      exact (Option.some.inj read).symm
    · have smaller : n / base < n := Nat.div_lt_self (by omega) low
      rw [List.head?_append_of_ne_nil _ Nat.toDigits_ne_nil] at h
      have front := ih _ smaller h
      have := Nat.lt_of_div_eq_zero (by omega) front
      omega

theorem toList_toString (n : Nat) : (toString n).toList = Nat.toDigits 10 n := by
  rw [Nat.toString_eq_ofList_toDigits, String.toList_ofList]

theorem isDigit_of_mem_toString {n : Nat} {c : Char} (h : c ∈ (toString n).toList) :
    c.isDigit = true := by
  rw [toList_toString] at h
  exact Nat.isDigit_of_mem_toDigits (by decide) (by decide) h

theorem toString_ne_nil (n : Nat) : (toString n).toList ≠ [] := by
  rw [toList_toString]
  exact Nat.toDigits_ne_nil

theorem length_of_head?_toString {n : Nat} (h : (toString n).toList.head? = some '0') :
    (toString n).toList.length = 1 := by
  rw [toList_toString] at h ⊢
  rw [eq_zero_of_head?_toDigits (by decide) (by decide) h]
  rfl

theorem decimalValue_eq (digits : List Char) :
    decimalValue digits = Nat.ofDigitChars 10 digits 0 := by
  simp only [decimalValue, Nat.ofDigitChars_eq_foldl, Nat.mul_comm]

theorem decimalValue_toString (n : Nat) : decimalValue (toString n).toList = n := by
  rw [decimalValue_eq, toList_toString]
  exact Nat.ofDigitChars_toDigits (by decide) (by decide)

end ScriptTokens
