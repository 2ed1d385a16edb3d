import Mathlib.Data.List.DropRight
import ScriptTokens.Text.Bytes

namespace ScriptTokens.Text

def lastLine (text : List Char) : List Char := text.rtakeWhile (· != '\n')

theorem lastLine_eq_self {text : List Char} (h : '\n' ∉ text) : lastLine text = text := by
  rw [lastLine, List.rtakeWhile_eq_self_iff]
  intro c member
  have other : c ≠ '\n' := by
    rintro rfl
    exact h member
  simpa using other

theorem lastLine_behind (front line : List Char) :
    lastLine (front ++ '\n' :: line) = lastLine line := by
  induction line using List.reverseRecOn with
  | nil => simp [lastLine]
  | append_singleton line c ih =>
    rw [← List.cons_append, ← List.append_assoc]
    rw [lastLine] at ih
    simp only [lastLine, List.rtakeWhile_concat, ih]

theorem lastLine_append (text : List Char) {more : List Char} (h : '\n' ∉ more) :
    lastLine (text ++ more) = lastLine text ++ more := by
  have other : ∀ c ∈ more.reverse, (c != '\n') = true := by
    intro c member
    rw [List.mem_reverse] at member
    exact bne_iff_ne.mpr fun newline => h (newline ▸ member)
  rw [lastLine, List.rtakeWhile, List.reverse_append, List.takeWhile_append_of_pos other,
    List.reverse_append, List.reverse_reverse]
  rfl

def newlinesBefore (text : String) (n : Nat) : Nat :=
  (text.toUTF8.data.toList.take n).count 0x0a

theorem or_ne_newline {byte mark : UInt8} (h : 0x0a < mark) : byte ||| mark ≠ 0x0a := by
  intro eq
  have bound : mark.toNat ≤ byte.toNat ||| mark.toNat := Nat.right_le_or
  have value : byte.toNat ||| mark.toNat = 0x0a := by
    rw [← UInt8.toNat_or, eq]
    rfl
  have large : 0x0a < mark.toNat := UInt8.lt_iff_toNat_lt.mp h
  omega

theorem newline_of_toUInt8 {c : Char} (small : c.val ≤ 0x7f) (h : c.val.toUInt8 = 0x0a) :
    c = '\n' := by
  apply Char.ext
  apply UInt32.toNat_inj.mp
  have bound : c.val.toNat ≤ 0x7f := UInt32.le_iff_toNat_le.mp small
  have value : c.val.toNat % 256 = 0x0a := congrArg UInt8.toNat h
  have newline : '\n'.val.toNat = 0x0a := rfl
  omega

theorem count_newline_char (c : Char) :
    (String.utf8EncodeChar c).count 0x0a = if c = '\n' then 1 else 0 := by
  -- every byte of a character that takes more than one is marked in its upper half
  have single : ∀ n, 1 < n → c.utf8Size = n → c ≠ '\n' := by
    rintro n long size rfl
    have : '\n'.utf8Size = 1 := rfl
    omega
  rcases c.utf8Size_eq with size | size | size | size
  · rw [String.utf8EncodeChar_eq_singleton size]
    by_cases h : c = '\n'
    · subst h
      rfl
    · rw [if_neg h]
      apply List.count_eq_zero_of_not_mem
      intro member
      exact h (newline_of_toUInt8 (Char.utf8Size_eq_one_iff.mp size)
        (List.mem_singleton.mp member).symm)
  · rw [String.utf8EncodeChar_eq_cons_cons size, if_neg (single 2 (by omega) size)]
    simp [or_ne_newline]
  · rw [String.utf8EncodeChar_eq_cons_cons_cons size, if_neg (single 3 (by omega) size)]
    simp [or_ne_newline]
  · rw [String.utf8EncodeChar_eq_cons_cons_cons_cons size, if_neg (single 4 (by omega) size)]
    simp [or_ne_newline]

theorem count_newline_encoding (text : List Char) :
    (text.flatMap String.utf8EncodeChar).count 0x0a = text.count '\n' := by
  induction text with
  | nil => rfl
  | cons c text ih =>
    rw [List.flatMap_cons, List.count_append, count_newline_char, ih, List.count_cons]
    by_cases h : c = '\n' <;> simp [h, Nat.add_comm]

theorem length_encoding (text : List Char) :
    (text.flatMap String.utf8EncodeChar).length = byteSize text := by
  induction text with
  | nil => rfl
  | cons c text ih =>
    rw [List.flatMap_cons, List.length_append, String.length_utf8EncodeChar, ih, byteSize_cons]

theorem toUTF8_eq_encoding (text : String) :
    text.toUTF8.data.toList = text.toList.flatMap String.utf8EncodeChar := by
  rw [String.toUTF8_eq_toByteArray, ← String.utf8Encode_toList]
  exact List.toList_data_toByteArray

theorem utf8ByteSize_eq (text : String) : text.utf8ByteSize = byteSize text.toList := by
  rw [← length_encoding, ← toUTF8_eq_encoding]
  rfl

theorem newlinesBefore_byteSize {text : String} {before after : List Char}
    (whole : text.toList = before ++ after) :
    newlinesBefore text (byteSize before) = before.count '\n' := by
  rw [newlinesBefore, toUTF8_eq_encoding, whole, List.flatMap_append, ← length_encoding,
    List.take_left, count_newline_encoding]

end ScriptTokens.Text
