import ScriptTokens.Text.Bytes

namespace ScriptTokens.Text

theorem bind_eq_ok_iff {ε α β : Type} {result : Except ε α} {next : α → Except ε β} {b : β} :
    result >>= next = .ok b ↔ ∃ a, result = .ok a ∧ next a = .ok b := by
  cases result with
  | error e => simp [bind, Except.bind]
  | ok a => simp [bind, Except.bind]

theorem splitBetween_eq_ok_iff {start stop : Nat} {rest piece after : List Char} :
    splitBetween start stop rest = .ok (piece, after) ↔
      piece ++ after = rest ∧ start + byteSize piece = stop := by
  unfold splitBetween
  split
  · simp only [reduceCtorEq, false_iff]
    rintro ⟨-, size⟩
    omega
  · rw [splitAtByte_eq_ok_iff]
    exact and_congr_right fun _ => by omega

theorem append_inj_of_byteSize {front back other rest : List Char}
    (whole : front ++ back = other ++ rest) (size : byteSize front = byteSize other) :
    front = other ∧ back = rest := by
  have first := splitAtByte_eq_ok_iff.mpr ⟨whole, size⟩
  rw [splitAtByte_eq_ok_iff.mpr ⟨rfl, rfl⟩] at first
  obtain ⟨rfl, rfl⟩ := Prod.mk.inj (Except.ok.inj first)
  exact ⟨rfl, rfl⟩

theorem slice_eq_ok_iff {text piece : List Char} {start stop : Nat} :
    slice text start stop = .ok piece ↔
      ∃ before after, text = before ++ piece ++ after ∧ byteSize before = start ∧
        start + byteSize piece = stop := by
  simp only [slice, bind_eq_ok_iff]
  constructor
  · rintro ⟨⟨before, rest⟩, first, ⟨piece', after⟩, second, result⟩
    obtain ⟨rfl, size⟩ := splitAtByte_eq_ok_iff.mp first
    obtain ⟨rfl, total⟩ := splitBetween_eq_ok_iff.mp second
    obtain rfl := Except.ok.inj result
    exact ⟨before, after, (List.append_assoc ..).symm, size, total⟩
  · rintro ⟨before, after, rfl, size, total⟩
    refine ⟨(before, piece ++ after), ?_, (piece, after), ?_, rfl⟩
    · exact splitAtByte_eq_ok_iff.mpr ⟨(List.append_assoc ..).symm, size⟩
    · exact splitBetween_eq_ok_iff.mpr ⟨rfl, total⟩

end ScriptTokens.Text
