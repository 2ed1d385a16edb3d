import ScriptTokens.Proofs.Cursor.Tally
import ScriptTokens.Proofs.Lexeme.Segment
import ScriptTokens.TokenStream

/-!
# Reading by segments

A cursor with an exact tally reads the segments of the text that is left, one token each
(`readToken_of_cut`). All that a stream gives out is therefore a listing of segments
(`tokens_eq_listing`), in which only the text before the cursor and the answer to "was that an
operand?" are left of the stream.
-/

namespace ScriptTokens

theorem Place.ext_text {place other : Place} (passed : place.passed = other.passed)
    (rest : place.rest = other.rest) : place = other := by
  have offset : place.offset = other.offset := by
    rw [place.offset_eq, other.offset_eq, passed]
  cases place
  cases other
  simp_all

theorem Place.rest_skip_append {place : Place} {front rest : List Char}
    (h : place.rest = front ++ rest) : (place.skip front.length).rest = rest := by
  rw [Place.rest_skip, h, List.drop_left]

theorem Place.passed_skip_append {place : Place} {front rest : List Char}
    (h : place.rest = front ++ rest) :
    (place.skip front.length).passed.reverse = place.passed.reverse ++ front := by
  simp [Place.skip, h]

theorem Place.offset_eq_byteSize (place : Place) :
    place.offset = Text.byteSize place.passed.reverse := by
  rw [place.offset_eq, Text.byteSize_reverse]

theorem Place.offset_skip_append {place : Place} {front rest : List Char}
    (h : place.rest = front ++ rest) :
    (place.skip front.length).offset = Text.byteSize (place.passed.reverse ++ front) := by
  rw [Place.offset_eq_byteSize, Place.passed_skip_append h]

theorem Place.skip_skip (place : Place) (m n : Nat) :
    (place.skip m).skip n = place.skip (m + n) := by
  apply Place.ext_text
  · simp only [Place.skip]
    rw [List.take_add, List.reverse_append, List.append_assoc]
  · simp only [Place.skip, List.drop_drop]

theorem readToken_of_final {last : Option Token} {cursor : Cursor}
    (h : Lexeme.FinalGap cursor.rest) :
    readToken last cursor = (none, cursor.skip cursor.rest.length) := by
  have atEnd : (cursor.skip cursor.rest.length).rest = [] := by
    simp [Cursor.skip]
  simp only [readToken, Lexeme.splitGap_final h, atEnd]

theorem readToken_of_cut {last : Option Token} {cursor : Cursor} (exact : cursor.Exact)
    {segment : Segment} {rest : List Char}
    (h : Segment.cut (last.any Token.isOperand) cursor.rest = some (segment, rest)) :
    ∃ next, readToken last cursor = (some (segment.token cursor.passed.reverse), next) ∧
      next.toPlace = cursor.toPlace.skip segment.text.length ∧ next.Exact := by
  have whole := (Segment.cut_eq_some h).2
  rw [Segment.cut] at h
  split at h
  · cases h
  · rename_i gap c cs split
    obtain ⟨rfl, rfl⟩ := Prod.mk.inj (Option.some.inj h)
    generalize hlexeme : (Lexeme.read (last.any Token.isOperand) c cs).1 = lexeme at whole
    rw [Segment.text, List.append_assoc] at whole
    -- The lexeme starts behind the gap, where the line of a documentation comment is counted.
    let start := cursor.skip gap.length
    have start_rest : start.rest = c :: cs := by
      have := Lexeme.gap_append_rest .blank cursor.rest
      rw [split] at this
      exact Place.rest_skip_append this.symm
    have start_offset : start.offset = Text.byteSize (cursor.passed.reverse ++ gap) :=
      Place.offset_skip_append whole
    have start_lines : start.passed.count '\n' = (cursor.passed.reverse ++ gap).count '\n' := by
      rw [← Place.passed_skip_append whole, List.count_reverse]
      rfl
    have stop_place : start.toPlace.skip lexeme.source.length =
        cursor.toPlace.skip (gap ++ lexeme.source).length := by
      rw [List.length_append, ← Place.skip_skip]
      rfl
    have stop_offset : (start.toPlace.skip lexeme.source.length).offset =
        Text.byteSize (cursor.passed.reverse ++ (gap ++ lexeme.source)) := by
      rw [stop_place]
      exact Place.offset_skip_append (by rw [whole, List.append_assoc])
    have counted := Cursor.countNewlines_eq (exact.skip gap.length)
    by_cases documentation : lexeme.kind = .docComment
    · refine ⟨start.countNewlines.2.skip lexeme.source.length, ?_, stop_place,
        (exact.skip _).countNewlines.skip _⟩
      simp only [readToken, split, start_rest, start, hlexeme, if_pos documentation, counted,
        Segment.token, Segment.text]
      rw [← start_offset, ← stop_offset, ← start_lines]
      rfl
    · refine ⟨start.skip lexeme.source.length, ?_, stop_place, (exact.skip _).skip _⟩
      simp only [readToken, split, start_rest, start, hlexeme, if_neg documentation,
        Segment.token, Segment.text]
      rw [← start_offset, ← stop_offset]
      rfl

/-- The tokens of segments that `before` precedes. -/
def listing (before : List Char) : List Segment → List Token
  | [] => []
  | segment :: more => segment.token before :: listing (before ++ segment.text) more

theorem mem_listing {before text : List Char} {afterOperand : Bool} {token : Token}
    (h : token ∈ listing before (segments afterOperand text)) :
    ∃ (front rest : List Char) (segment : Segment),
      text = front ++ (segment.text ++ rest) ∧ segment.IsSegment ∧
      token = segment.token (before ++ front) := by
  fun_induction segments afterOperand text generalizing before with
  | case1 => exact absurd h List.not_mem_nil
  | case2 afterOperand text segment rest cut ih =>
    obtain ⟨isSegment, whole⟩ := Segment.cut_eq_some cut
    rw [listing] at h
    rcases List.mem_cons.mp h with rfl | h
    · exact ⟨[], rest, segment, whole, isSegment, by rw [List.append_nil]⟩
    · obtain ⟨front, behind, other, rfl, isOther, rfl⟩ := ih h
      refine ⟨segment.text ++ front, behind, other, ?_, isOther, ?_⟩
      · rw [whole, List.append_assoc]
      · rw [List.append_assoc]

theorem listing_append (before : List Char) (pieces more : List Segment) :
    listing before (pieces ++ more) =
      listing before pieces ++ listing (before ++ spell pieces) more := by
  induction pieces generalizing before with
  | nil => simp [listing]
  | cons segment pieces ih => simp [listing, ih]

theorem getLast?_listing (before : List Char) (front : List Segment) (last : Segment) :
    (listing before (front ++ [last])).getLast? =
      some (last.token (before ++ spell front)) := by
  rw [listing_append]
  exact List.getLast?_concat

theorem length_listing (before : List Char) (pieces : List Segment) :
    (listing before pieces).length = pieces.length := by
  induction pieces generalizing before with
  | nil => rfl
  | cons segment pieces ih => rw [listing, List.length_cons, ih, List.length_cons]

theorem le_start_of_mem_listing {before : List Char} {pieces : List Segment} {token : Token}
    (h : token ∈ listing before pieces) : Text.byteSize before ≤ token.span.start := by
  induction pieces generalizing before with
  | nil => exact absurd h List.not_mem_nil
  | cons segment pieces ih =>
    rcases List.mem_cons.mp h with rfl | h
    · simp [Segment.token]
    · have := ih h
      rw [Text.byteSize_append] at this
      omega

namespace TokenStream

theorem advance_of_cut {stream : TokenStream} (exact : stream.cursor.Exact) {segment : Segment}
    {rest : List Char}
    (h : Segment.cut (stream.last.any Token.isOperand) stream.cursor.rest = some (segment, rest)) :
    ∃ next, stream.advance = (some (segment.token stream.cursor.passed.reverse), next) ∧
      next.cursor.Exact ∧ next.cursor.rest = rest ∧
      next.cursor.passed.reverse = stream.cursor.passed.reverse ++ segment.text ∧
      next.last.any Token.isOperand = segment.lexeme.isOperand := by
  obtain ⟨next, read, place, nextExact⟩ := readToken_of_cut exact h
  have whole := (Segment.cut_eq_some h).2
  refine ⟨⟨next, some (segment.token stream.cursor.passed.reverse)⟩, ?_, nextExact, ?_, ?_, ?_⟩
  · rw [advance_eq, read]
    rfl
  · rw [place]
    exact Place.rest_skip_append whole
  · rw [place]
    exact Place.passed_skip_append whole
  · rw [Option.any_some, Segment.isOperand_token]

theorem tokens_eq_listing (stream : TokenStream) (exact : stream.cursor.Exact) :
    stream.tokens = listing stream.cursor.passed.reverse
      (segments (stream.last.any Token.isOperand) stream.cursor.rest) := by
  cases hcut : Segment.cut (stream.last.any Token.isOperand) stream.cursor.rest with
  | none =>
    have advanced : stream.advance = (none, ⟨stream.cursor.skip stream.cursor.rest.length,
        stream.last⟩) := by
      rw [advance_eq, readToken_of_final (Segment.cut_eq_none_iff.mp hcut)]
      rfl
    rw [segments_of_cut_none hcut, listing, tokens_of_advance_none advanced]
  | some cut =>
    obtain ⟨segment, rest⟩ := cut
    obtain ⟨next, advanced, nextExact, next_rest, next_passed, operand⟩ :=
      advance_of_cut exact hcut
    have shorter := Segment.length_of_cut hcut
    rw [segments_of_cut_some hcut, listing, tokens_of_advance_some advanced,
      tokens_eq_listing _ nextExact, next_rest, next_passed, operand]
termination_by stream.cursor.rest.length
decreasing_by
  rw [next_rest]
  exact shorter

end TokenStream

theorem tokenize_eq_listing (text : String) :
    tokenize text = listing [] (segments false text.toList) :=
  TokenStream.tokens_eq_listing _ (Cursor.exact_ofText text.toList)

end ScriptTokens
