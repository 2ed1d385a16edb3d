import ScriptTokens.Proofs.Text.Digits
import ScriptTokens.Text.Blank
import ScriptTokens.Text.Escaped

namespace ScriptTokens.Text

def Prints (text : List Char) : Prop := ∀ c ∈ text, isPrintable c = true

instance (text : List Char) : Decidable (Prints text) :=
  decidable_of_iff (text.all isPrintable = true) List.all_eq_true

theorem Prints.not_mem {text : List Char} (h : Prints text) {c : Char}
    (control : isControl c = true) : c ∉ text := by
  intro member
  rw [not_isControl_of_isPrintable (h c member)] at control
  cases control

theorem prints_nil : Prints [] := fun _ member => absurd member List.not_mem_nil

theorem prints_cons_iff {c : Char} {text : List Char} :
    Prints (c :: text) ↔ isPrintable c = true ∧ Prints text := List.forall_mem_cons

theorem prints_append_iff {text more : List Char} :
    Prints (text ++ more) ↔ Prints text ∧ Prints more := List.forall_mem_append

theorem prints_flatMap {write : Char → List Char} (h : ∀ c, Prints (write c)) (text : List Char) :
    Prints (text.flatMap write) := by
  intro c member
  obtain ⟨d, -, member⟩ := List.mem_flatMap.mp member
  exact h d c member

theorem prints_spaces (n : Nat) : Prints (List.replicate n ' ') := by
  intro c member
  rw [(List.mem_replicate.mp member).2]
  decide

theorem prints_padLeft {text : String} (h : Prints text.toList) (width : Nat) :
    Prints (padLeft width text).toList := by
  rw [padLeft, String.toList_append, String.toList_ofList, prints_append_iff]
  exact ⟨prints_spaces _, h⟩

theorem prints_padRight {text : String} (h : Prints text.toList) (width : Nat) :
    Prints (padRight width text).toList := by
  rw [padRight, String.toList_append, String.toList_ofList, prints_append_iff]
  exact ⟨h, prints_spaces _⟩

theorem isPrintable_digitChar : ∀ digit < 16, isPrintable (Nat.digitChar digit) = true := by
  decide

theorem prints_toDigits {base : Nat} (low : 1 < base) (high : base ≤ 16) (n : Nat) :
    Prints (Nat.toDigits base n) := by
  intro c member
  obtain ⟨digit, bound, rfl⟩ := exists_digit_of_mem_toDigits low member
  exact isPrintable_digitChar digit (by omega)

theorem prints_toString (n : Nat) : Prints (toString n).toList := by
  rw [toList_toString]
  exact prints_toDigits (by decide) (by decide) n

theorem prints_pair {c : Char} (h : isPrintable c = true) : Prints ['\\', c] :=
  prints_cons_iff.mpr ⟨by decide, prints_cons_iff.mpr ⟨h, prints_nil⟩⟩

theorem prints_byNumber (c : Char) : Prints (byNumber c) := by
  simp only [byNumber, List.cons_append, prints_cons_iff, prints_append_iff]
  refine ⟨by decide, by decide, by decide, ?_, by decide, prints_nil⟩
  exact prints_toDigits (by decide) (by decide) _

theorem prints_escapeChar (rule : EscapeRule) (c : Char) : Prints (escapeChar rule c) := by
  unfold escapeChar
  -- the characters with an escape of their own
  iterate 7 refine iteInduction (fun _ => prints_pair (by decide)) fun _ => ?_
  refine iteInduction (fun _ => prints_byNumber c) fun _ => ?_
  split
  · rename_i printable
    exact prints_cons_iff.mpr ⟨printable, prints_nil⟩
  · exact prints_byNumber c

theorem prints_escapeValue (value : List Char) : Prints (escapeValue value) := by
  cases value with
  | nil => exact prints_nil
  | cons c cs =>
    rw [escapeValue, prints_append_iff]
    exact ⟨prints_escapeChar _ c, prints_flatMap (prints_escapeChar _) cs⟩

end ScriptTokens.Text
