namespace ScriptTokens.Text

inductive OffsetFault
  | beyondEnd
  | insideCharacter
  | reversed
  deriving DecidableEq, Repr

def byteSize : List Char → Nat
  | [] => 0
  | c :: cs => c.utf8Size + byteSize cs

def splitAtByte : Nat → List Char → Except OffsetFault (List Char × List Char)
  | 0, cs => .ok ([], cs)
  | _ + 1, [] => .error .beyondEnd
  | n + 1, c :: cs =>
    if c.utf8Size ≤ n + 1 then
      match splitAtByte (n + 1 - c.utf8Size) cs with
      | .ok (before, after) => .ok (c :: before, after)
      | .error fault => .error fault
    else .error .insideCharacter

def countAtByte (count : Nat) : Nat → List Char → Except OffsetFault Nat
  | 0, _ => .ok count
  | _ + 1, [] => .error .beyondEnd
  | n + 1, c :: cs =>
    if c.utf8Size ≤ n + 1 then countAtByte (count + 1) (n + 1 - c.utf8Size) cs
    else .error .insideCharacter

def splitBetween (start stop : Nat) (rest : List Char) :
    Except OffsetFault (List Char × List Char) :=
  if stop < start then .error .reversed else splitAtByte (stop - start) rest

def slice (text : List Char) (start stop : Nat) : Except OffsetFault (List Char) := do
  let (_, rest) ← splitAtByte start text
  let (piece, _) ← splitBetween start stop rest
  return piece

/-- How many characters start before a byte offset: the offset moved forward to a boundary, or to
the end of the text, and counted in characters. -/
def charsBefore : Nat → List Char → Nat
  | 0, _ => 0
  | _ + 1, [] => 0
  | n + 1, c :: cs => charsBefore (n + 1 - c.utf8Size) cs + 1

@[simp] theorem byteSize_nil : byteSize [] = 0 := rfl

@[simp] theorem byteSize_cons (c : Char) (cs : List Char) :
    byteSize (c :: cs) = c.utf8Size + byteSize cs := rfl

@[simp] theorem byteSize_append (xs ys : List Char) :
    byteSize (xs ++ ys) = byteSize xs + byteSize ys := by
  induction xs with
  | nil => simp
  | cons c cs ih => simp [ih, Nat.add_assoc]

@[simp] theorem byteSize_reverse (xs : List Char) : byteSize xs.reverse = byteSize xs := by
  induction xs with
  | nil => rfl
  | cons c cs ih => simp [ih, Nat.add_comm]

theorem splitAtByte_eq_ok_iff {n : Nat} {text before after : List Char} :
    splitAtByte n text = .ok (before, after) ↔ before ++ after = text ∧ byteSize before = n := by
  fun_induction splitAtByte n text generalizing before after with
  | case1 text =>
    rcases before with _ | ⟨c, cs⟩
    · simp [eq_comm]
    · have := c.utf8Size_pos
      simp only [Except.ok.injEq, Prod.mk.injEq, byteSize_cons]
      constructor
      · simp
      · omega
  | case2 n =>
    constructor
    · simp
    · rintro ⟨whole, size⟩
      simp_all
  | case3 n c text fits first rest split ih =>
    have := c.utf8Size_pos
    rcases before with _ | ⟨d, cs⟩
    · simp
    · have := @ih cs after
      simp only [split, Except.ok.injEq, Prod.mk.injEq, List.cons.injEq, List.cons_append,
        byteSize_cons] at this ⊢
      constructor
      · rintro ⟨⟨rfl, rfl⟩, rfl⟩
        have := this.mp ⟨rfl, rfl⟩
        exact ⟨⟨rfl, this.1⟩, by omega⟩
      · rintro ⟨⟨rfl, whole⟩, size⟩
        have := this.mpr ⟨whole, by omega⟩
        exact ⟨⟨rfl, this.1⟩, this.2⟩
  | case4 n c text fits fault split ih =>
    constructor
    · simp
    · rintro ⟨whole, size⟩
      rcases before with _ | ⟨d, cs⟩
      · simp at size
      · simp only [List.cons_append, List.cons.injEq, byteSize_cons] at whole size
        obtain ⟨rfl, whole⟩ := whole
        have := (@ih cs after).mpr ⟨whole, by omega⟩
        simp [split] at this
  | case5 n c text fits =>
    constructor
    · simp
    · rintro ⟨whole, size⟩
      rcases before with _ | ⟨d, cs⟩
      · simp at size
      · simp only [List.cons_append, List.cons.injEq, byteSize_cons] at whole size
        obtain ⟨rfl, _⟩ := whole
        omega

theorem countAtByte_eq (count n : Nat) (text : List Char) :
    countAtByte count n text =
      (splitAtByte n text).map fun (before, _) => count + before.length := by
  fun_induction countAtByte count n text with
  | case1 => simp [splitAtByte, Except.map]
  | case2 => simp [splitAtByte, Except.map]
  | case3 count n c text fits ih =>
    rw [ih, splitAtByte, if_pos fits]
    cases splitAtByte (n + 1 - c.utf8Size) text <;> simp [Except.map]
    omega
  | case4 count n c text fits => simp [splitAtByte, fits, Except.map]

end ScriptTokens.Text
