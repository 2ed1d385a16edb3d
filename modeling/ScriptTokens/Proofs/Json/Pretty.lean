import ScriptTokens.Json
import ScriptTokens.Proofs.Json.Reading
import ScriptTokens.Proofs.Lexeme.Standing
import ScriptTokens.Proofs.Text.Digits

/-!
# Reading the indented form of a document

The indented form of a document reads back as its value, with whatever follows left over
(`readsBack`). Strings are read back escape by escape, numbers up to the first character
that is no part of one; the induction is along the document, and each reader has fuel for two
readers to a character of what it reads.
-/

namespace ScriptTokens.Json
open Lexeme (Stops stops_cons takeWhile_of_stops)

mutual

def value : Json → Value
  | number n => .number n 0
  | string text => .string text
  | array elements => .array (values elements)
  | object members => .object (memberValues members)

def values : List Json → List Value
  | [] => []
  | element :: more => element.value :: values more

def memberValues : List (String × Json) → List (String × Value)
  | [] => []
  | (name, member) :: more => (name, member.value) :: memberValues more

end

theorem values_eq_map (elements : List Json) : values elements = elements.map value := by
  induction elements with
  | nil => rfl
  | cons element more ih => rw [values, ih, List.map_cons]

/-! ## Strings -/

theorem readText_step {state next : TextState} {c : Char} {added : List Char}
    (inside : ¬ (state = .plain ∧ c = '"')) (h : state.step c = some (added, next))
    (cs : List Char) :
    readText state (c :: cs) =
      (readText next cs).map fun (text, rest) => (added ++ text, rest) := by
  rw [readText, if_neg inside, h]
  simp only [Option.bind_eq_bind, Option.bind_some]
  cases readText next cs <;> rfl

inductive Escape (c : Char) : List Char → Prop
  | letter {letter : Char} : TextState.escapeLetter? letter = some c → Escape c ['\\', letter]
  | number : c.toNat < 0x20 →
      Escape c ['\\', 'u', '0', '0', hexDigit (c.toNat / 16), hexDigit (c.toNat % 16)]
  | plain : c ≠ '"' → c ≠ '\\' → ¬ c.toNat < 0x20 → Escape c [c]

theorem escape_escapeChar (c : Char) : Escape c (escapeChar c) := by
  unfold escapeChar
  refine iteInduction (by rintro rfl; exact .letter rfl) fun notQuote => ?_
  refine iteInduction (by rintro rfl; exact .letter rfl) fun notEscape => ?_
  -- the control characters with a letter of their own
  iterate 5 refine iteInduction (by rintro rfl; exact .letter rfl) fun _ => ?_
  split
  · rename_i control
    exact .number control
  · rename_i printed
    exact .plain notQuote notEscape printed

theorem TextState.step_escape : TextState.step '\\' .plain = some ([], .escape) := rfl

theorem readText_number {c : Char} (h : c.toNat < 0x20) (rest : List Char) :
    readText .plain (['\\', 'u', '0', '0', hexDigit (c.toNat / 16), hexDigit (c.toNat % 16)] ++
      rest) = (readText .plain rest).map fun (text, after) => (c :: text, after) := by
  have high : Text.hexValue? (hexDigit (c.toNat / 16)) = some (c.toNat / 16) :=
    hexValue?_digitChar _ (by omega)
  have digit : Text.hexValue? (hexDigit (c.toNat % 16)) = some (c.toNat % 16) :=
    hexValue?_digitChar _ (by omega)
  have unit : TextState.step 'u' .escape = some ([], .unit none 4 0) := rfl
  have zeros : ∀ left, 1 < left → TextState.step '0' (.unit none left 0) =
      some ([], .unit none (left - 1) 0) := by
    intro left more
    simp [TextState.step, more, show Text.hexValue? '0' = some 0 from rfl]
  have first : TextState.step (hexDigit (c.toNat / 16)) (.unit none 2 0) =
      some ([], .unit none 1 (c.toNat / 16)) := by
    simp [TextState.step, high]
  have second : TextState.step (hexDigit (c.toNat % 16)) (.unit none 1 (c.toNat / 16)) =
      some ([c], .plain) := by
    have whole : c.toNat / 16 * 16 + c.toNat % 16 = c.toNat := Nat.div_add_mod' _ _
    have low : ¬ (0xD800 ≤ c.toNat ∧ c.toNat < 0xDC00) := by omega
    have valid : c.toNat.isValidChar := c.valid
    simp [TextState.step, TextState.endUnit, low, digit, whole, valid]
  simp only [List.cons_append, List.nil_append]
  rw [readText_step (by decide) TextState.step_escape, readText_step (by decide) unit,
    readText_step (by decide) (zeros 4 (by decide)),
    readText_step (by decide) (zeros 3 (by decide)), readText_step (by simp) first,
    readText_step (by simp) second]
  cases readText .plain rest <;> rfl

theorem Escape.readText {c : Char} {text : List Char} (h : Escape c text) (rest : List Char) :
    readText .plain (text ++ rest) =
      (readText .plain rest).map fun (more, after) => (c :: more, after) := by
  cases h with
  | @letter letter read =>
    have notNumber : letter ≠ 'u' := by
      rintro rfl
      cases read
    have done : TextState.step letter .escape = some ([c], .plain) := by
      simp [TextState.step, notNumber, read]
    rw [List.cons_append, readText_step (by decide) TextState.step_escape, List.singleton_append,
      readText_step (by simp) done]
    cases Json.readText .plain rest <;> rfl
  | number control => exact readText_number control rest
  | plain notQuote notEscape printed =>
    have kept : TextState.step c .plain = some ([c], .plain) := by
      simp [TextState.step, notEscape, printed]
    exact readText_step (by simp [notQuote]) kept rest

theorem readText_escaped (text rest : List Char) :
    readText .plain (text.flatMap escapeChar ++ '"' :: rest) = some (text, rest) := by
  induction text with
  | nil => rfl
  | cons c text ih =>
    rw [List.flatMap_cons, List.append_assoc, (escape_escapeChar c).readText, ih]
    rfl

/-! ## Numbers -/

def isNumberPart (c : Char) : Bool := c.isDigit || c == '.' || c == 'e' || c == 'E'

theorem readDigits?_toString (n : Nat) {rest : List Char} (behind : Stops isNumberPart rest) :
    readDigits? ((toString n).toList ++ rest) = some ((toString n).toList, rest) := by
  have stops : Stops Char.isDigit rest := by
    intro c first
    have := behind c first
    simp_all [isNumberPart]
  have inside : ∀ c ∈ (toString n).toList, c.isDigit = true :=
    fun _ member => isDigit_of_mem_toString member
  have cut := takeWhile_of_stops inside stops
  have some : (toString n).toList.isEmpty = false :=
    List.isEmpty_eq_false_iff.mpr (toString_ne_nil n)
  simp only [readDigits?, cut.1, cut.2, some, Bool.false_eq_true, if_false]

theorem readDecimals?_none {rest : List Char} (behind : Stops isNumberPart rest) :
    readDecimals? rest = some ([], rest) := by
  unfold readDecimals?
  split
  · exact absurd (behind '.' rfl) (by decide)
  · rfl

theorem readExponent?_none {rest : List Char} (behind : Stops isNumberPart rest) :
    readExponent? rest = some (0, rest) := by
  cases rest with
  | nil => rfl
  | cons c rest =>
    have other : ¬ (c = 'e' ∨ c = 'E') := by
      rintro (rfl | rfl) <;> exact absurd (behind _ rfl) (by decide)
    rw [readExponent?, if_neg other]

theorem readMinus_toString (n : Nat) (rest : List Char) :
    readMinus ((toString n).toList ++ rest) = (false, (toString n).toList ++ rest) := by
  unfold readMinus
  split
  · rename_i cs minus
    have member : '-' ∈ (toString n).toList := by
      apply List.mem_of_mem_head?
      rw [← List.head?_append_of_ne_nil _ (toString_ne_nil n), minus]
      rfl
    exact absurd (isDigit_of_mem_toString member) (by decide)
  · rfl

theorem readNumber?_toString (n : Nat) {rest : List Char} (behind : Stops isNumberPart rest) :
    readNumber? ((toString n).toList ++ rest) = some (.number n 0, rest) := by
  have leading : ¬ ((toString n).toList.head? = some '0' ∧ (toString n).toList.length ≠ 1) :=
    fun h => h.2 (length_of_head?_toString h.1)
  simp only [readNumber?, readMinus_toString, readDigits?_toString n behind, if_neg leading,
    readDecimals?_none behind, readExponent?_none behind, Option.bind_eq_bind, Option.bind_some,
    List.append_nil, decimalValue_toString]
  rfl

theorem readScalar?_toString (n : Nat) {rest : List Char} (behind : Stops isNumberPart rest) :
    readScalar? ((toString n).toList ++ rest) = some (.number n 0, rest) := by
  obtain ⟨c, cs, written⟩ := List.exists_cons_of_ne_nil (toString_ne_nil n)
  have digit : c.isDigit = true := isDigit_of_mem_toString (written ▸ List.mem_cons_self)
  have other : ∀ letter, letter.isDigit = false → (letter == c) = false := by
    intro letter noDigit
    refine beq_false_of_ne ?_
    rintro rfl
    simp [digit] at noDigit
  rw [readScalar?, readNumber?_toString n behind, written]
  simp [words, Text.stripStart?, List.isPrefixOf?, other 'n' rfl, other 't' rfl, other 'f' rfl]

/-! ## Blanks -/

theorem skipBlanks_newline (depth : Nat) (rest : List Char) :
    skipBlanks ((newline depth).toList ++ rest) = skipBlanks rest := by
  rw [skipBlanks, skipBlanks, List.dropWhile_append_of_pos]
  intro c member
  simp only [newline, String.toList_append, String.toList_ofList, List.mem_append,
    List.mem_replicate] at member
  rcases member with first | ⟨-, rfl⟩
  · obtain rfl : c = '\n' := List.mem_singleton.mp first
    rfl
  · rfl

theorem readValue?_newline (fuel depth : Nat) (rest : List Char) :
    readValue? fuel ((newline depth).toList ++ rest) = readValue? fuel rest := by
  cases fuel with
  | zero => rfl
  | succ fuel => rw [readValue?, readValue?, skipBlanks_newline]

theorem readElements?_newline (fuel depth : Nat) (rest : List Char) :
    readElements? fuel ((newline depth).toList ++ rest) = readElements? fuel rest := by
  cases fuel with
  | zero => rfl
  | succ fuel => rw [readElements?, readElements?, readValue?_newline]

theorem readMembers?_newline (fuel depth : Nat) (rest : List Char) :
    readMembers? fuel ((newline depth).toList ++ rest) = readMembers? fuel rest := by
  cases fuel with
  | zero => rfl
  | succ fuel => rw [readMembers?, readMembers?, skipBlanks_newline]

/-! ## Values -/

theorem toList_quote (text : String) :
    (quote text).toList = '"' :: (text.toList.flatMap escapeChar ++ ['"']) := by
  simp [quote]

theorem toList_render_array (depth : Nat) (first : Json) (more : List Json) :
    (render depth (.array (first :: more))).toList =
      '[' :: ((newline (depth + 1)).toList ++ ((render (depth + 1) first).toList ++
        ((renderElements (depth + 1) more).toList ++ ((newline depth).toList ++ [']'])))) := by
  simp [render]

theorem toList_render_object (depth : Nat) (first : String × Json) (more : List (String × Json)) :
    (render depth (.object (first :: more))).toList =
      '\x7b' :: ((newline (depth + 1)).toList ++ ((renderMember (depth + 1) first).toList ++
        ((renderMembers (depth + 1) more).toList ++ ((newline depth).toList ++ ['\x7d'])))) := by
  simp [render]

def isOpening (c : Char) : Bool := c.isDigit || c == '"' || c == '[' || c == '\x7b'

theorem exists_head_render (depth : Nat) (json : Json) :
    ∃ c cs, (render depth json).toList = c :: cs ∧ isOpening c = true := by
  cases json with
  | number n =>
    obtain ⟨c, cs, written⟩ := List.exists_cons_of_ne_nil (toString_ne_nil n)
    have digit : c.isDigit = true := isDigit_of_mem_toString (written ▸ List.mem_cons_self)
    exact ⟨c, cs, written, by simp [isOpening, digit]⟩
  | string text => exact ⟨_, _, toList_quote text, rfl⟩
  | array elements =>
    cases elements with
    | nil => exact ⟨'[', [']'], by simp [render], rfl⟩
    | cons first more => exact ⟨_, _, toList_render_array depth first more, rfl⟩
  | object members =>
    cases members with
    | nil => exact ⟨'\x7b', ['\x7d'], by simp [render], rfl⟩
    | cons first more => exact ⟨_, _, toList_render_object depth first more, rfl⟩

theorem skipBlanks_opening {c : Char} (h : isOpening c = true) (cs : List Char) :
    skipBlanks (c :: cs) = c :: cs := by
  rw [skipBlanks, List.dropWhile_cons_of_neg]
  intro blank
  simp only [Bool.or_eq_true, beq_iff_eq] at blank
  rcases blank with ((rfl | rfl) | rfl) | rfl <;> exact absurd h (by decide)

theorem stops_newline (depth : Nat) (rest : List Char) :
    Stops isNumberPart ((newline depth).toList ++ rest) := by
  have written : (newline depth).toList ++ rest =
      '\n' :: (List.replicate (2 * depth) ' ' ++ rest) := by
    simp [newline]
  rw [written]
  exact stops_cons rfl _

/-- Whatever stands behind it, the form of a document is read as its value. -/
def ReadsBack (depth : Nat) (json : Json) : Prop :=
  ∀ (fuel : Nat) (rest : List Char), Stops isNumberPart rest →
    2 * (render depth json).toList.length ≤ fuel →
    readValue? (fuel + 1) ((render depth json).toList ++ rest) = some (json.value, rest)

theorem readValue?_digit {c : Char} (digit : c.isDigit = true) (fuel : Nat) (cs : List Char) :
    readValue? (fuel + 1) (c :: cs) = readScalar? (c :: cs) := by
  rw [readValue?, skipBlanks_opening (by simp [isOpening, digit])]
  split
  iterate 3
    rename_i mark
    rw [(List.cons.inj mark).1] at digit
    exact absurd digit (by decide)
  rfl

theorem readsBack_number (depth n : Nat) : ReadsBack depth (.number n) := by
  intro fuel rest behind _
  obtain ⟨c, cs, written⟩ := List.exists_cons_of_ne_nil (toString_ne_nil n)
  have digit : c.isDigit = true := isDigit_of_mem_toString (written ▸ List.mem_cons_self)
  have read := readScalar?_toString n behind
  rw [written] at read
  rw [render, written, List.cons_append, readValue?_digit digit, ← List.cons_append, read, value]

theorem readsBack_string (depth : Nat) (text : String) : ReadsBack depth (.string text) := by
  intro fuel rest _ _
  have opening (cs : List Char) : skipBlanks ('"' :: cs) = '"' :: cs := skipBlanks_opening rfl cs
  rw [render, toList_quote, readValue?, List.cons_append, opening]
  simp only [List.append_assoc, List.singleton_append, readText_escaped, Option.map_some,
    String.ofList_toList, value]

/-! ## Elements and members -/

theorem toList_renderElements_cons (depth : Nat) (next : Json) (more : List Json) :
    (renderElements depth (next :: more)).toList = ',' :: ((newline depth).toList ++
      ((render depth next).toList ++ (renderElements depth more).toList)) := by
  simp [renderElements]

theorem readElements?_render {depth : Nat} (close : Nat) (rest : List Char) {first : Json}
    {more : List Json} (h : ∀ element ∈ first :: more, ReadsBack depth element) (fuel : Nat)
    (enough : 2 * ((render depth first).toList.length +
      (renderElements depth more).toList.length) < fuel) :
    readElements? (fuel + 1) ((render depth first).toList ++
      ((renderElements depth more).toList ++ ((newline close).toList ++ ']' :: rest))) =
      some (values (first :: more), rest) := by
  induction more generalizing first fuel with
  | nil =>
    obtain ⟨left, rfl⟩ : ∃ left, fuel = left + 1 := ⟨fuel - 1, by omega⟩
    have read := h first List.mem_cons_self left _ (stops_newline close (']' :: rest)) (by omega)
    have closed : skipBlanks (']' :: rest) = ']' :: rest := rfl
    simp only [readElements?, renderElements, String.toList_empty, List.nil_append, read,
      Option.bind_eq_bind, Option.bind_some, skipBlanks_newline, closed]
    rfl
  | cons next more ih =>
    rw [toList_renderElements_cons] at enough ⊢
    simp only [List.length_cons, List.length_append] at enough
    obtain ⟨left, rfl⟩ : ∃ left, fuel = left + 2 := ⟨fuel - 2, by omega⟩
    simp only [List.cons_append, List.append_assoc]
    generalize behind : (render depth next).toList ++ ((renderElements depth more).toList ++
      ((newline close).toList ++ ']' :: rest)) = others
    have comma : Stops isNumberPart (',' :: ((newline depth).toList ++ others)) := stops_cons rfl _
    have read := h first List.mem_cons_self (left + 1) _ comma (by omega)
    have parted : skipBlanks (',' :: ((newline depth).toList ++ others)) =
        ',' :: ((newline depth).toList ++ others) := rfl
    have following := ih (List.forall_mem_cons.mp h).2 (left + 1) (by omega)
    rw [behind] at following
    rw [readElements?, read]
    simp only [Option.bind_eq_bind, Option.bind_some, parted, readElements?_newline, following]
    rfl

theorem head?_skipBlanks {c mark : Char} (other : isOpening mark = false)
    (opens : isOpening c = true) (depth : Nat) (cs : List Char) :
    (skipBlanks ((newline depth).toList ++ c :: cs)).head? ≠ some mark := by
  rw [skipBlanks_newline, skipBlanks_opening opens, List.head?_cons]
  intro same
  rw [Option.some.inj same, other] at opens
  cases opens

theorem ReadsBack.array {depth : Nat} {elements : List Json}
    (h : ∀ element ∈ elements, ReadsBack (depth + 1) element) :
    ReadsBack depth (.array elements) := by
  intro fuel rest _ enough
  have opening (cs : List Char) : skipBlanks ('[' :: cs) = '[' :: cs := skipBlanks_opening rfl cs
  cases elements with
  | nil =>
    have written : (render depth (.array [])).toList ++ rest = '[' :: ']' :: rest := by
      simp [render]
    have closed : skipBlanks (']' :: rest) = ']' :: rest := rfl
    rw [written, readValue?, opening]
    simp only [closed]
    rfl
  | cons first more =>
    rw [toList_render_array] at enough ⊢
    simp only [List.length_cons, List.length_append] at enough
    obtain ⟨left, rfl⟩ : ∃ left, fuel = left + 1 := ⟨fuel - 1, by omega⟩
    simp only [List.cons_append, List.append_assoc, List.nil_append]
    have read := readElements?_render depth rest h left (by omega)
    obtain ⟨c, cs, written, opens⟩ := exists_head_render (depth + 1) first
    rw [written] at read ⊢
    have inside (cs : List Char) :
        (skipBlanks ((newline (depth + 1)).toList ++ c :: cs)).head? ≠ some ']' :=
      head?_skipBlanks rfl opens _ cs
    rw [readValue?, opening]
    simp only [List.cons_append, if_neg (inside _), readElements?_newline]
    rw [← List.cons_append, read]
    rfl

theorem toList_renderMember (depth : Nat) (name : String) (member : Json) :
    (renderMember depth (name, member)).toList =
      '"' :: (name.toList.flatMap escapeChar ++
        '"' :: ':' :: ' ' :: (render depth member).toList) := by
  simp [renderMember, toList_quote]

theorem toList_renderMembers_cons (depth : Nat) (next : String × Json)
    (more : List (String × Json)) :
    (renderMembers depth (next :: more)).toList = ',' :: ((newline depth).toList ++
      ((renderMember depth next).toList ++ (renderMembers depth more).toList)) := by
  simp [renderMembers]

theorem readValue?_blank (fuel : Nat) (cs : List Char) :
    readValue? fuel (' ' :: cs) = readValue? fuel cs := by
  cases fuel with
  | zero => rfl
  | succ fuel =>
    rw [readValue?, readValue?]
    rfl

theorem readMembers?_last {depth : Nat} {name : String} {member : Json}
    (h : ReadsBack depth member) {fuel : Nat} {cs rest : List Char} (behind : Stops isNumberPart cs)
    (enough : 2 * (render depth member).toList.length ≤ fuel)
    (closed : skipBlanks cs = '\x7d' :: rest) :
    readMembers? (fuel + 2) ((renderMember depth (name, member)).toList ++ cs) =
      some ([(name, member.value)], rest) := by
  have opening (cs : List Char) : skipBlanks ('"' :: cs) = '"' :: cs := rfl
  have colon (cs : List Char) : skipBlanks (':' :: cs) = ':' :: cs := rfl
  rw [toList_renderMember, readMembers?]
  simp only [List.cons_append, List.append_assoc, opening, readText_escaped, colon,
    Option.bind_eq_bind, Option.bind_some, readValue?_blank, h fuel cs behind enough, closed,
    String.ofList_toList]

theorem readMembers?_further {depth : Nat} {name : String} {member : Json}
    (h : ReadsBack depth member) {fuel : Nat} {cs rest : List Char} (behind : Stops isNumberPart cs)
    (enough : 2 * (render depth member).toList.length ≤ fuel)
    (parted : skipBlanks cs = ',' :: rest) :
    readMembers? (fuel + 2) ((renderMember depth (name, member)).toList ++ cs) =
      (readMembers? (fuel + 1) rest).map fun (more, rest) =>
        ((name, member.value) :: more, rest) := by
  have opening (cs : List Char) : skipBlanks ('"' :: cs) = '"' :: cs := rfl
  have colon (cs : List Char) : skipBlanks (':' :: cs) = ':' :: cs := rfl
  rw [toList_renderMember, readMembers?]
  simp only [List.cons_append, List.append_assoc, opening, readText_escaped, colon,
    Option.bind_eq_bind, Option.bind_some, readValue?_blank, h fuel cs behind enough, parted,
    String.ofList_toList]

theorem readMembers?_render {depth : Nat} (close : Nat) (rest : List Char) {first : String × Json}
    {more : List (String × Json)} (h : ∀ member ∈ first :: more, ReadsBack depth member.2)
    (fuel : Nat) (enough : 2 * ((renderMember depth first).toList.length +
      (renderMembers depth more).toList.length) < fuel) :
    readMembers? (fuel + 1) ((renderMember depth first).toList ++
      ((renderMembers depth more).toList ++ ((newline close).toList ++ '\x7d' :: rest))) =
      some (memberValues (first :: more), rest) := by
  induction more generalizing first fuel with
  | nil =>
    obtain ⟨name, member⟩ := first
    have own : ReadsBack depth member := h (name, member) List.mem_cons_self
    rw [toList_renderMember] at enough
    simp only [List.length_cons, List.length_append] at enough
    obtain ⟨left, rfl⟩ : ∃ left, fuel = left + 1 := ⟨fuel - 1, by omega⟩
    have closed : skipBlanks ((newline close).toList ++ '\x7d' :: rest) = '\x7d' :: rest := by
      rw [skipBlanks_newline]
      rfl
    rw [renderMembers, String.toList_empty, List.nil_append,
      readMembers?_last own (stops_newline _ _) (by omega) closed]
    rfl
  | cons next more ih =>
    obtain ⟨name, member⟩ := first
    have own : ReadsBack depth member := h (name, member) List.mem_cons_self
    rw [toList_renderMembers_cons] at enough ⊢
    rw [toList_renderMember] at enough
    simp only [List.length_cons, List.length_append] at enough
    obtain ⟨left, rfl⟩ : ∃ left, fuel = left + 1 := ⟨fuel - 1, by omega⟩
    simp only [List.cons_append, List.append_assoc]
    generalize behind : (renderMember depth next).toList ++ ((renderMembers depth more).toList ++
      ((newline close).toList ++ '\x7d' :: rest)) = others
    have parted : skipBlanks (',' :: ((newline depth).toList ++ others)) =
        ',' :: ((newline depth).toList ++ others) := rfl
    have following := ih (List.forall_mem_cons.mp h).2 left (by omega)
    rw [behind] at following
    rw [readMembers?_further own (stops_cons rfl _) (by omega) parted, readMembers?_newline,
      following]
    rfl

theorem ReadsBack.object {depth : Nat} {members : List (String × Json)}
    (h : ∀ member ∈ members, ReadsBack (depth + 1) member.2) :
    ReadsBack depth (.object members) := by
  intro fuel rest _ enough
  have opening (cs : List Char) : skipBlanks ('\x7b' :: cs) = '\x7b' :: cs :=
    skipBlanks_opening rfl cs
  cases members with
  | nil =>
    have written : (render depth (.object [])).toList ++ rest = '\x7b' :: '\x7d' :: rest := by
      simp [render]
    have closed : skipBlanks ('\x7d' :: rest) = '\x7d' :: rest := rfl
    rw [written, readValue?, opening]
    simp only [closed]
    rfl
  | cons first more =>
    rw [toList_render_object] at enough ⊢
    simp only [List.length_cons, List.length_append] at enough
    obtain ⟨left, rfl⟩ : ∃ left, fuel = left + 1 := ⟨fuel - 1, by omega⟩
    simp only [List.cons_append, List.append_assoc, List.nil_append]
    have read := readMembers?_render depth rest h left (by omega)
    obtain ⟨name, member⟩ := first
    rw [toList_renderMember] at read ⊢
    have inside (cs : List Char) :
        (skipBlanks ((newline (depth + 1)).toList ++ '"' :: cs)).head? ≠ some '\x7d' :=
      head?_skipBlanks rfl rfl _ cs
    rw [readValue?, opening]
    simp only [List.cons_append, if_neg (inside _), readMembers?_newline]
    rw [← List.cons_append, read]
    rfl

/-! ## Documents -/

theorem readsBack (depth : Nat) : (json : Json) → ReadsBack depth json
  | .number n => readsBack_number depth n
  | .string text => readsBack_string depth text
  | .array elements => .array fun element _inside => readsBack (depth + 1) element
  | .object members => .object fun member _inside => readsBack (depth + 1) member.2
termination_by json => sizeOf json
decreasing_by
  · have := List.sizeOf_lt_of_mem _inside
    simp only [array.sizeOf_spec]
    omega
  · have := List.sizeOf_lt_of_mem _inside
    obtain ⟨name, member⟩ := member
    simp only [object.sizeOf_spec, Prod.mk.sizeOf_spec] at this ⊢
    omega

theorem read?_pretty (document : Json) : read? (document.pretty ++ "\n") = some document.value := by
  have behind : Stops isNumberPart ['\n'] := stops_cons rfl []
  have shorter : document.pretty.toList.length ≤ (document.pretty ++ "\n").length := by
    rw [String.length_append, String.length_toList]
    omega
  have read := readsBack 0 document (2 * (document.pretty ++ "\n").length + 1) ['\n'] behind
    (by rw [← pretty]; omega)
  have whole : (document.pretty ++ "\n").toList = (render 0 document).toList ++ ['\n'] := by
    rw [String.toList_append]
    rfl
  rw [read?, whole, read]
  rfl

end ScriptTokens.Json
