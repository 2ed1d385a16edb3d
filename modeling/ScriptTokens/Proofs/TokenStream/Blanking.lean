import ScriptTokens.Proofs.Lexeme.Series
import ScriptTokens.Proofs.Text.Newline
import ScriptTokens.Proofs.TokenStream.Reading

namespace ScriptTokens
open Text

def covered (tokens : List Token) (i : Nat) : Bool :=
  tokens.any fun token => token.span.start ≤ i && i < token.span.stop

def blankedByte (isCovered : Bool) (byte : UInt8) : UInt8 :=
  if byte = 0x0a ∨ isCovered = true then byte else 0x20

/-- The bytes that start at an offset, with a space for each that is neither a newline nor in a
token. -/
def blankedBytes (tokens : List Token) (start : Nat) : List UInt8 → List UInt8
  | [] => []
  | byte :: bytes =>
    blankedByte (covered tokens start) byte :: blankedBytes tokens (start + 1) bytes

section
variable {tokens others : List Token} {start : Nat}

theorem blankedBytes_append (first second : List UInt8) :
    blankedBytes tokens start (first ++ second) =
      blankedBytes tokens start first ++ blankedBytes tokens (start + first.length) second := by
  induction first generalizing start with
  | nil => rfl
  | cons byte bytes ih =>
    rw [List.cons_append, blankedBytes, ih, blankedBytes, List.length_cons, Nat.add_right_comm,
      Nat.add_assoc]
    rfl

theorem blankedBytes_eq_map (isCovered : Bool) {bytes : List UInt8}
    (h : ∀ i, start ≤ i → i < start + bytes.length → covered tokens i = isCovered) :
    blankedBytes tokens start bytes = bytes.map (blankedByte isCovered) := by
  induction bytes generalizing start with
  | nil => rfl
  | cons byte bytes ih =>
    rw [List.length_cons] at h
    rw [blankedBytes, List.map_cons, h start (Nat.le_refl _) (by omega), ih]
    intro i reached inside
    exact h i (by omega) (by omega)

theorem blankedBytes_congr (h : ∀ i, start ≤ i → covered tokens i = covered others i)
    (bytes : List UInt8) : blankedBytes tokens start bytes = blankedBytes others start bytes := by
  induction bytes generalizing start with
  | nil => rfl
  | cons byte bytes ih =>
    rw [blankedBytes, blankedBytes, h start (Nat.le_refl _), ih]
    intro i reached
    exact h i (by omega)

theorem map_blankedByte_true (bytes : List UInt8) : bytes.map (blankedByte true) = bytes := by
  have kept : ∀ byte, blankedByte true byte = byte := by
    intro byte
    simp [blankedByte]
  exact List.map_id'' kept bytes

end

def blankedChar (c : Char) : List Char :=
  if c = '\n' then ['\n'] else List.replicate c.utf8Size ' '

def blanked (gap : List Char) : List Char := gap.flatMap blankedChar

theorem byteSize_replicate_space (n : Nat) : byteSize (List.replicate n ' ') = n := by
  induction n with
  | zero => rfl
  | succ n ih =>
    rw [List.replicate_succ, byteSize_cons, ih, Nat.add_comm]
    rfl

theorem byteSize_blanked (gap : List Char) : byteSize (blanked gap) = byteSize gap := by
  induction gap with
  | nil => rfl
  | cons c gap ih =>
    rw [blanked, List.flatMap_cons, byteSize_append, ← blanked, ih, byteSize_cons, blankedChar]
    split
    · rename_i newline
      subst newline
      rfl
    · rw [byteSize_replicate_space]

theorem count_blanked (gap : List Char) : (blanked gap).count '\n' = gap.count '\n' := by
  induction gap with
  | nil => rfl
  | cons c gap ih =>
    rw [blanked, List.flatMap_cons, List.count_append, ← blanked, ih, blankedChar]
    split
    · rename_i newline
      subst newline
      simp [Nat.add_comm]
    · rename_i other
      simp [other, List.count_replicate]

theorem isBlank_of_blanked {gap : List Char} : ∀ c ∈ blanked gap, isBlank c = true := by
  intro c member
  obtain ⟨d, -, member⟩ := List.mem_flatMap.mp member
  rw [blankedChar] at member
  split at member
  · rw [List.mem_singleton.mp member]
    decide
  · rw [(List.mem_replicate.mp member).2]
    decide

theorem eq_nil_of_blanked {gap : List Char} (h : blanked gap = []) : gap = [] := by
  have size := byteSize_blanked gap
  rw [h] at size
  cases gap with
  | nil => rfl
  | cons c gap =>
    have := c.utf8Size_pos
    rw [byteSize_cons, byteSize_nil] at size
    omega

theorem spaces_encoding (n : Nat) :
    (List.replicate n ' ').flatMap String.utf8EncodeChar = List.replicate n 0x20 := by
  rw [List.eq_replicate_iff]
  constructor
  · rw [length_encoding, byteSize_replicate_space]
  · intro byte member
    obtain ⟨c, space, member⟩ := List.mem_flatMap.mp member
    rw [(List.mem_replicate.mp space).2] at member
    exact List.mem_singleton.mp member

theorem blankedChar_encoding (c : Char) :
    (blankedChar c).flatMap String.utf8EncodeChar =
      (String.utf8EncodeChar c).map (blankedByte false) := by
  rw [blankedChar]
  split
  · rename_i newline
    subst newline
    rfl
  · rename_i other
    have noNewline : (0x0a : UInt8) ∉ String.utf8EncodeChar c := by
      rw [← List.count_eq_zero, count_newline_char, if_neg other]
    rw [spaces_encoding, ← String.length_utf8EncodeChar, eq_comm, List.map_eq_replicate_iff]
    intro byte member
    rw [blankedByte, if_neg]
    rintro (rfl | covered)
    · exact noNewline member
    · cases covered

theorem blanked_encoding (gap : List Char) :
    (blanked gap).flatMap String.utf8EncodeChar =
      (gap.flatMap String.utf8EncodeChar).map (blankedByte false) := by
  induction gap with
  | nil => rfl
  | cons c gap ih =>
    rw [blanked, List.flatMap_cons, List.flatMap_append, ← blanked, ih, blankedChar_encoding,
      List.flatMap_cons, List.map_append]

def Segment.blanked (segment : Segment) : Segment :=
  ⟨ScriptTokens.blanked segment.gap, segment.lexeme⟩

theorem respaced_blanked (pieces : List Segment) :
    List.Forall₂ Segment.Respaced pieces (pieces.map Segment.blanked) := by
  induction pieces with
  | nil => exact .nil
  | cons segment more ih => exact .cons ⟨rfl, isBlank_of_blanked, eq_nil_of_blanked⟩ ih

theorem replaces_blanked (tail : List Char) : Replaces (blanked tail) tail := by
  by_cases atEnd : tail = []
  · subst atEnd
    exact .inl rfl
  · refine .inr (.inr ⟨atEnd, ?_⟩)
    intro c first
    exact isBlank_of_blanked c (List.mem_of_mem_head? first)

theorem Segment.byteSize_blanked (segment : Segment) :
    byteSize segment.blanked.text = byteSize segment.text := by
  simp [blanked, text, ScriptTokens.byteSize_blanked]

theorem Segment.count_blanked (segment : Segment) :
    segment.blanked.text.count '\n' = segment.text.count '\n' := by
  simp [blanked, text, ScriptTokens.count_blanked]

theorem listing_blanked {before other : List Char} (size : byteSize other = byteSize before)
    (newlines : other.count '\n' = before.count '\n') (pieces : List Segment) :
    listing other (pieces.map Segment.blanked) = listing before pieces := by
  induction pieces generalizing before other with
  | nil => rfl
  | cons segment more ih =>
    have behind : byteSize (other ++ segment.blanked.text) = byteSize (before ++ segment.text) := by
      rw [byteSize_append, byteSize_append, size, segment.byteSize_blanked]
    have behind_newlines : (other ++ segment.blanked.text).count '\n' =
        (before ++ segment.text).count '\n' := by
      rw [List.count_append, List.count_append, newlines, segment.count_blanked]
    have first : segment.blanked.token other = segment.token before := by
      rw [Segment.token, behind]
      simp [Segment.token, Segment.blanked, size, newlines, byteSize_blanked, count_blanked]
    rw [List.map_cons, listing, listing, first, ih behind behind_newlines]

section
variable {before : List Char} {segment : Segment} {more : List Segment} {i : Nat}

theorem covered_gap (h : i < byteSize (before ++ segment.gap)) :
    covered (listing before (segment :: more)) i = false := by
  rw [covered, List.any_eq_false]
  intro token member
  have first : byteSize (before ++ segment.gap) ≤ token.span.start := by
    rcases List.mem_cons.mp member with rfl | member
    · exact Nat.le_refl _
    · have := le_start_of_mem_listing member
      rw [Segment.text, ← List.append_assoc, byteSize_append] at this
      omega
  simp only [Bool.and_eq_true, decide_eq_true_eq]
  omega

theorem covered_lexeme (reached : byteSize (before ++ segment.gap) ≤ i)
    (inside : i < byteSize (before ++ segment.text)) :
    covered (listing before (segment :: more)) i = true := by
  rw [covered, listing, List.any_cons, Bool.or_eq_true, Bool.and_eq_true]
  exact .inl ⟨decide_eq_true reached, decide_eq_true inside⟩

theorem covered_behind (h : byteSize (before ++ segment.text) ≤ i) :
    covered (listing before (segment :: more)) i =
      covered (listing (before ++ segment.text) more) i := by
  have passed : ¬ i < (segment.token before).span.stop := Nat.not_lt.mpr h
  rw [covered, listing, List.any_cons, covered]
  simp [passed]

end

theorem blankedBytes_spell (before : List Char) (pieces : List Segment) (tail : List Char) :
    blankedBytes (listing before pieces) (byteSize before)
        ((spell pieces ++ tail).flatMap String.utf8EncodeChar) =
      (spell (pieces.map Segment.blanked) ++ blanked tail).flatMap String.utf8EncodeChar := by
  induction pieces generalizing before with
  | nil =>
    rw [List.map_nil, spell_nil, List.nil_append, List.nil_append, blanked_encoding]
    exact blankedBytes_eq_map false fun _ _ _ => rfl
  | cons segment more ih =>
    have gap : blankedBytes (listing before (segment :: more)) (byteSize before)
        (segment.gap.flatMap String.utf8EncodeChar) =
          (blanked segment.gap).flatMap String.utf8EncodeChar := by
      rw [blanked_encoding]
      apply blankedBytes_eq_map false
      intro i _ inside
      rw [length_encoding, ← byteSize_append] at inside
      exact covered_gap inside
    have lexeme : blankedBytes (listing before (segment :: more)) (byteSize (before ++ segment.gap))
        (segment.lexeme.source.flatMap String.utf8EncodeChar) =
          segment.lexeme.source.flatMap String.utf8EncodeChar := by
      rw [blankedBytes_eq_map true, map_blankedByte_true]
      intro i reached inside
      rw [length_encoding, ← byteSize_append, List.append_assoc] at inside
      exact covered_lexeme reached inside
    have behind : blankedBytes (listing before (segment :: more)) (byteSize (before ++ segment.text))
        ((spell more ++ tail).flatMap String.utf8EncodeChar) =
          (spell (more.map Segment.blanked) ++ blanked tail).flatMap String.utf8EncodeChar := by
      rw [blankedBytes_congr fun _ => covered_behind, ih]
    have text : byteSize (before ++ segment.gap) + byteSize segment.lexeme.source =
        byteSize (before ++ segment.text) := by
      rw [← byteSize_append, List.append_assoc, Segment.text]
    simp only [spell_cons, List.map_cons, Segment.text, List.append_assoc]
    rw [List.flatMap_append, blankedBytes_append, length_encoding, ← byteSize_append, gap]
    rw [List.flatMap_append, blankedBytes_append, length_encoding, text, lexeme, behind]
    simp [Segment.blanked]

/-- Blanking out what is no token leaves a text with the same tokens. -/
theorem tokenize_blanked (text : String) :
    ∃ other : String, other.toUTF8.data.toList =
        blankedBytes (tokenize text) 0 text.toUTF8.data.toList ∧
      tokenize other = tokenize text := by
  obtain ⟨tail, whole, -, series⟩ := exists_series false text.toList
  generalize pieces_eq : segments false text.toList = pieces at whole series
  have tokens : tokenize text = listing [] pieces := by
    rw [tokenize_eq_listing, pieces_eq]
  have read := segments_of_series (series.respaced (respaced_blanked pieces)
    (replaces_blanked tail)) (gap_of_blank isBlank_of_blanked).finalGap
  refine ⟨String.ofList (spell (pieces.map Segment.blanked) ++ blanked tail), ?_, ?_⟩
  · rw [toUTF8_eq_encoding, toUTF8_eq_encoding, String.toList_ofList, whole, tokens]
    exact (blankedBytes_spell [] pieces tail).symm
  · rw [tokenize_eq_listing, String.toList_ofList, read, tokens]
    exact listing_blanked rfl rfl pieces

end ScriptTokens
