import ScriptTokens.Proofs.Text.Boundary
import ScriptTokens.Proofs.Text.Newline
import ScriptTokens.Proofs.Text.Slice
import ScriptTokens.Proofs.TokenStream.Reading

namespace ScriptTokens
open Text

/-- The token with so many bytes, and as many newlines, put in front of its text. -/
def Token.moved (bytes newlines : Nat) (token : Token) : Token :=
  { token with
    line := token.line.map (· + newlines)
    span := ⟨token.span.start + bytes, token.span.stop + bytes⟩ }

theorem Segment.token_moved (before front : List Char) (segment : Segment) :
    segment.token (before ++ front) =
      (segment.token front).moved (byteSize before) (before.count '\n') := by
  have lines : (before ++ front ++ segment.gap).count '\n' + 1 =
      (front ++ segment.gap).count '\n' + 1 + before.count '\n' := by
    simp only [List.count_append]
    omega
  have start : byteSize (before ++ front ++ segment.gap) =
      byteSize (front ++ segment.gap) + byteSize before := by
    simp only [byteSize_append]
    omega
  have stop : byteSize (before ++ front ++ segment.text) =
      byteSize (front ++ segment.text) + byteSize before := by
    simp only [byteSize_append]
    omega
  rw [Segment.token, lines, start, stop]
  simp only [Token.moved, Segment.token]
  split <;> rfl

theorem listing_moved (before front : List Char) (pieces : List Segment) :
    listing (before ++ front) pieces =
      (listing front pieces).map (Token.moved (byteSize before) (before.count '\n')) := by
  induction pieces generalizing front with
  | nil => rfl
  | cons segment more ih =>
    rw [listing, listing, List.map_cons, List.append_assoc, ih, segment.token_moved]

namespace TokenStream

theorem tokens_ofOffset (text : List Char) (offset : Nat) :
    (ofCursor (.ofOffset text offset)).tokens =
      listing (text.take (charsBefore offset text))
        (segments false (text.drop (charsBefore offset text))) := by
  rw [tokens_eq_listing _ (Cursor.exact_ofOffset text offset)]
  simp [ofCursor, Cursor.ofOffset, Place.start, Place.skip]

theorem tokens_ofOffset_byteSize (before after : List Char) :
    (ofCursor (.ofOffset (before ++ after) (byteSize before))).tokens =
      listing before (segments false after) := by
  rw [tokens_ofOffset, charsBefore_byteSize, List.take_left, List.drop_left]

/-- From any offset a stream starts at the next place where a character does, and gives the tokens
of the text from there, moved to where they stand. -/
theorem tokens_suffix (text : String) (offset : Nat) :
    ∃ start suffix, IsLeast (boundariesFrom text.toList offset) start ∧
      (Cursor.ofOffset text.toList offset).offset = start ∧
      slice text.toList start text.utf8ByteSize = .ok suffix ∧
      (ofCursor (.ofOffset text.toList offset)).tokens =
        (tokenize (.ofList suffix)).map (Token.moved start (newlinesBefore text start)) := by
  generalize split : charsBefore offset text.toList = n
  have whole : text.toList = text.toList.take n ++ text.toList.drop n :=
    (List.take_append_drop n text.toList).symm
  refine ⟨byteSize (text.toList.take n), text.toList.drop n, ?_, ?_, ?_, ?_⟩
  · rw [← split]
    exact isLeast_charsBefore text.toList offset
  · simp [Cursor.ofOffset, Place.start, Place.skip, split]
  · rw [slice_eq_ok_iff, utf8ByteSize_eq]
    refine ⟨text.toList.take n, [], by simp, rfl, ?_⟩
    rw [← byteSize_append, ← whole]
  · have moved := listing_moved (text.toList.take n) [] (segments false (text.toList.drop n))
    rw [List.append_nil] at moved
    rw [tokens_ofOffset, split, moved, newlinesBefore_byteSize whole, tokenize_eq_listing,
      String.toList_ofList]

example : (ofCursor (.ofOffset "é\n/** b */ c".toList 1)).tokens =
    [⟨.docComment, "/** b */", some 2, ⟨3, 11⟩⟩, ⟨.ident, "c", none, ⟨12, 13⟩⟩] := by
  decide +kernel

end TokenStream

end ScriptTokens
