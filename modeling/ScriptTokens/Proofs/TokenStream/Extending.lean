import ScriptTokens.Proofs.Lexeme.Series
import ScriptTokens.Proofs.TokenStream.Reading

namespace ScriptTokens
open Text Lexeme

def IsPlain (more : List Char) : Prop := ∀ c ∈ more, c ∉ ['\'', '"', '\\', '/', '*']

theorem IsPlain.head?_ne {more : List Char} (h : IsPlain more) {c : Char}
    (mark : c ∈ ['\'', '"', '\\', '/', '*']) : more.head? ≠ some c := by
  intro first
  exact h c (List.mem_of_mem_head? first) mark

theorem TokenStream.rest_take {stream : TokenStream} (exact : stream.cursor.Exact)
    {afterOperand : Bool} {pieces : List Segment} {rest : List Char}
    (h : Series afterOperand pieces rest) (operand : stream.last.any Token.isOperand = afterOperand)
    (whole : stream.cursor.rest = spell pieces ++ rest) :
    (stream.take pieces.length).2.cursor.rest = rest := by
  induction h generalizing stream with
  | nil => exact whole
  | @cons afterOperand segment more rest gap stands _ ih =>
    have cut := Segment.cut_of_stands gap stands
    rw [← List.append_assoc, ← spell_cons, ← whole, ← operand] at cut
    obtain ⟨next, advanced, nextExact, next_rest, -, next_operand⟩ := advance_of_cut exact cut
    rw [List.length_cons, take, advanced]
    exact ih nextExact next_operand next_rest

theorem remainder_ofText {text : String} {tail : List Char}
    (h : Series false (segments false text.toList) tail)
    (whole : text.toList = spell (segments false text.toList) ++ tail) :
    (TokenStream.ofText text).remainder = tail := by
  have count : (TokenStream.ofText text).tokens.length = (segments false text.toList).length := by
    rw [← tokenize, tokenize_eq_listing, length_listing]
  rw [TokenStream.remainder, count]
  exact TokenStream.rest_take (Cursor.exact_ofText text.toList) h rfl whole

end ScriptTokens
