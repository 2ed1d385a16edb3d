import Mathlib.Order.Bounds.Defs
import ScriptTokens.Text.Bytes

namespace ScriptTokens.Text

def IsBoundary (text : List Char) (n : Nat) : Prop :=
  ∃ before after, text = before ++ after ∧ byteSize before = n

def boundariesFrom (text : List Char) (offset : Nat) : Set Nat :=
  {n | IsBoundary text n ∧ min offset (byteSize text) ≤ n}

theorem isBoundary_zero (text : List Char) : IsBoundary text 0 := ⟨[], text, rfl, rfl⟩

theorem isBoundary_cons_iff {c : Char} {text : List Char} {n : Nat} :
    IsBoundary (c :: text) n ↔ n = 0 ∨ ∃ m, IsBoundary text m ∧ n = c.utf8Size + m := by
  constructor
  · rintro ⟨before, after, whole, size⟩
    cases before with
    | nil => exact .inl size.symm
    | cons d before =>
      obtain ⟨rfl, rfl⟩ := List.cons.inj whole
      exact .inr ⟨byteSize before, ⟨before, after, rfl, rfl⟩, size.symm⟩
  · rintro (rfl | ⟨m, ⟨before, after, rfl, rfl⟩, rfl⟩)
    · exact isBoundary_zero _
    · exact ⟨c :: before, after, rfl, rfl⟩

theorem isLeast_boundariesFrom_zero {text : List Char} {offset : Nat}
    (h : min offset (byteSize text) = 0) : IsLeast (boundariesFrom text offset) 0 :=
  ⟨⟨isBoundary_zero text, Nat.le_of_eq h⟩, fun _ _ => Nat.zero_le _⟩

theorem isLeast_charsBefore (text : List Char) (offset : Nat) :
    IsLeast (boundariesFrom text offset) (byteSize (text.take (charsBefore offset text))) := by
  fun_induction charsBefore offset text with
  | case1 text => exact isLeast_boundariesFrom_zero (Nat.zero_min _)
  | case2 n => exact isLeast_boundariesFrom_zero (Nat.min_zero _)
  | case3 n c text ih =>
    obtain ⟨⟨boundary, reached⟩, least⟩ := ih
    have := c.utf8Size_pos
    rw [List.take_succ_cons, byteSize_cons]
    refine ⟨⟨isBoundary_cons_iff.mpr (.inr ⟨_, boundary, rfl⟩), ?_⟩, ?_⟩
    · rw [byteSize_cons]
      omega
    · rintro m ⟨other, beyond⟩
      rw [byteSize_cons] at beyond
      rcases isBoundary_cons_iff.mp other with rfl | ⟨k, inner, rfl⟩
      · omega
      · exact Nat.add_le_add_left (least ⟨inner, by omega⟩) c.utf8Size

theorem charsBefore_byteSize (before after : List Char) :
    charsBefore (byteSize before) (before ++ after) = before.length := by
  induction before with
  | nil => rw [byteSize_nil, charsBefore, List.length_nil]
  | cons c before ih =>
    obtain ⟨n, size⟩ := Nat.exists_eq_add_of_le' (Nat.add_pos_left c.utf8Size_pos (byteSize before))
    have left : n + 1 - c.utf8Size = byteSize before := by omega
    rw [byteSize_cons, size, List.cons_append, charsBefore, left, ih, List.length_cons]

def IsInside (text : List Char) (n : Nat) : Prop :=
  ∃ before c after, text = before ++ c :: after ∧ byteSize before < n ∧
    n < byteSize before + c.utf8Size

theorem isInside_cons_iff {c : Char} {text : List Char} {n : Nat} :
    IsInside (c :: text) n ↔
      (0 < n ∧ n < c.utf8Size) ∨ ∃ m, IsInside text m ∧ n = c.utf8Size + m := by
  constructor
  · rintro ⟨before, d, after, whole, beyond, within⟩
    cases before with
    | nil =>
      obtain ⟨rfl, rfl⟩ := List.cons.inj whole
      rw [byteSize_nil] at beyond within
      exact .inl ⟨beyond, by omega⟩
    | cons e before =>
      obtain ⟨rfl, rfl⟩ := List.cons.inj whole
      rw [byteSize_cons] at beyond within
      refine .inr ⟨n - c.utf8Size, ⟨before, d, after, rfl, ?_, ?_⟩, ?_⟩ <;> omega
  · rintro (⟨beyond, within⟩ | ⟨m, ⟨before, d, after, rfl, beyond, within⟩, rfl⟩)
    · exact ⟨[], c, text, rfl, beyond, by rwa [byteSize_nil, Nat.zero_add]⟩
    · refine ⟨c :: before, d, after, rfl, ?_, ?_⟩ <;> rw [byteSize_cons] <;> omega

theorem not_isBoundary_iff {text : List Char} {n : Nat} :
    ¬ IsBoundary text n ↔ byteSize text < n ∨ IsInside text n := by
  induction text generalizing n with
  | nil =>
    have boundary : IsBoundary [] n ↔ n = 0 := by
      constructor
      · rintro ⟨before, after, whole, rfl⟩
        rw [(List.append_eq_nil_iff.mp whole.symm).1, byteSize_nil]
      · rintro rfl
        exact isBoundary_zero []
    have inside : ¬ IsInside [] n := by
      rintro ⟨before, c, after, whole, -⟩
      simp at whole
    simp [boundary, inside, Nat.pos_iff_ne_zero]
  | cons c text ih =>
    have := c.utf8Size_pos
    rw [isBoundary_cons_iff, isInside_cons_iff, byteSize_cons]
    constructor
    · intro other
      rw [not_or] at other
      rcases Nat.lt_or_ge n c.utf8Size with within | beyond
      · exact .inr (.inl ⟨Nat.pos_of_ne_zero other.1, within⟩)
      · obtain ⟨m, rfl⟩ := Nat.exists_eq_add_of_le beyond
        have inner : ¬ IsBoundary text m := fun boundary => other.2 ⟨m, boundary, rfl⟩
        exact (ih.mp inner).imp (Nat.add_lt_add_left · _) fun inside => .inr ⟨m, inside, rfl⟩
    · rintro outside (zero | ⟨k, boundary, eq⟩)
      · rcases outside with beyond | ⟨positive, within⟩ | ⟨m, inside, eq⟩ <;> omega
      · apply ih.mpr ?_ boundary
        rcases outside with beyond | ⟨positive, within⟩ | ⟨m, inside, other⟩
        · exact .inl (by omega)
        · omega
        · exact .inr (Nat.add_left_cancel (eq.symm.trans other) ▸ inside)

theorem exists_fault_iff {text : List Char} {n : Nat} :
    (∃ fault, splitAtByte n text = .error fault) ↔ byteSize text < n ∨ IsInside text n := by
  rw [← not_isBoundary_iff]
  constructor
  · rintro ⟨fault, fails⟩ ⟨before, after, whole, size⟩
    rw [splitAtByte_eq_ok_iff.mpr ⟨whole.symm, size⟩] at fails
    cases fails
  · intro boundary
    cases cut : splitAtByte n text with
    | error fault => exact ⟨fault, rfl⟩
    | ok parts =>
      obtain ⟨whole, size⟩ := splitAtByte_eq_ok_iff.mp cut
      exact absurd ⟨_, _, whole.symm, size⟩ boundary

end ScriptTokens.Text
