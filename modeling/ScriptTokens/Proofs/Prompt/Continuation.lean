import ScriptTokens.Prompt.Continuation
import ScriptTokens.Proofs.Text.Newline
import ScriptTokens.Proofs.TokenStream.Extending

namespace ScriptTokens
open Text Lexeme

def Token.opensBracket (token : Token) : Bool :=
  token.kind == .operator && ["(", "[", "\x7b"].contains token.value

def Token.closesBracket (token : Token) : Bool :=
  token.kind == .operator && [")", "]", "\x7d"].contains token.value

namespace Prompt

/-! ## Brackets -/

theorem bracketChange_eq (token : Token) :
    bracketChange token = token.opensBracket.toInt - token.closesBracket.toInt := by
  rw [bracketChange]
  split
  · rename_i other
    have notOperator : (token.kind == .operator) = false := by simpa using other
    rw [Token.opensBracket, Token.closesBracket, notOperator]
    rfl
  · split <;> simp_all [Token.opensBracket, Token.closesBracket]

theorem bracketDepth_eq (tokens : List Token) :
    bracketDepth tokens =
      tokens.countP Token.opensBracket - (tokens.countP Token.closesBracket : Int) := by
  induction tokens with
  | nil => rfl
  | cons token tokens ih =>
    rw [bracketDepth, ih, bracketChange_eq, List.countP_cons, List.countP_cons]
    cases token.opensBracket <;> cases token.closesBracket <;> simp <;> omega

/-! ## Open comments -/

theorem endsInOpenComment_blank_cons {c : Char} (h : isBlank c = true) (cs : List Char) :
    endsInOpenComment .blank (c :: cs) = endsInOpenComment .blank cs := by
  have notSlash : c ≠ '/' := by
    rintro rfl
    exact absurd h (by decide)
  rw [endsInOpenComment.eq_def]
  split <;> simp_all

theorem endsInOpenComment_lineOpener (cs : List Char) :
    endsInOpenComment .blank ('/' :: '/' :: cs) = endsInOpenComment .lineComment cs := rfl

theorem endsInOpenComment_blockOpener (cs : List Char) :
    endsInOpenComment .blank ('/' :: '*' :: cs) = endsInOpenComment .blockComment cs := rfl

theorem endsInOpenComment_line_cons {c : Char} (inLine : c ≠ '\n') (cs : List Char) :
    endsInOpenComment .lineComment (c :: cs) = endsInOpenComment .lineComment cs := by
  rw [endsInOpenComment.eq_def]
  simp only [if_neg inLine]

theorem endsInOpenComment_line {body : List Char} (h : '\n' ∉ body) (cs : List Char) :
    endsInOpenComment .lineComment (body ++ '\n' :: cs) = endsInOpenComment .blank cs := by
  induction body with
  | nil => rfl
  | cons c body ih =>
    rw [List.mem_cons, not_or] at h
    rw [List.cons_append, endsInOpenComment_line_cons (Ne.symm h.1), ih h.2]

theorem endsInOpenComment_openLine {body : List Char} (h : '\n' ∉ body) :
    endsInOpenComment .lineComment body = false := by
  induction body with
  | nil => rfl
  | cons c body ih =>
    rw [List.mem_cons, not_or] at h
    rw [endsInOpenComment_line_cons (Ne.symm h.1), ih h.2]

theorem endsInOpenComment_block_cons {c : Char} {cs : List Char}
    (h : ¬ (c = '*' ∧ cs.head? = some '/')) :
    endsInOpenComment .blockComment (c :: cs) = endsInOpenComment .blockComment cs := by
  rw [endsInOpenComment.eq_def]
  split <;> simp_all

theorem endsInOpenComment_block {body : List Char} (h : ¬ ['*', '/'] <:+: body ++ ['*'])
    (cs : List Char) :
    endsInOpenComment .blockComment (body ++ '*' :: '/' :: cs) =
      endsInOpenComment .blank cs := by
  induction body with
  | nil => rfl
  | cons c body ih =>
    obtain ⟨inBlock, later⟩ := (closer_not_infix_cons ('/' :: cs)).mp h
    rw [List.cons_append, endsInOpenComment_block_cons inBlock, ih later]

theorem endsInOpenComment_openBlock {body : List Char} (h : ¬ ['*', '/'] <:+: body) :
    endsInOpenComment .blockComment body = true := by
  induction body with
  | nil => rfl
  | cons c body ih =>
    rw [closer_infix_cons, not_or] at h
    rw [endsInOpenComment_block_cons h.1, ih h.2]

theorem endsInOpenComment_gap {gap : List Char} (h : Gap gap) (text : List Char) :
    endsInOpenComment .blank (gap ++ text) = endsInOpenComment .blank text := by
  induction h with
  | nil => rfl
  | blank hc _ ih => rw [List.cons_append, endsInOpenComment_blank_cons hc, ih]
  | @lineComment body gap hbody _ ih =>
    have shape : '/' :: '/' :: (body ++ '\n' :: gap) ++ text =
        '/' :: '/' :: (body ++ '\n' :: (gap ++ text)) := by simp
    rw [shape, endsInOpenComment_lineOpener, endsInOpenComment_line hbody, ih]
  | @blockComment body gap hbody _ ih =>
    have shape : '/' :: '*' :: (body ++ '*' :: '/' :: gap) ++ text =
        '/' :: '*' :: (body ++ '*' :: '/' :: (gap ++ text)) := by simp
    rw [shape, endsInOpenComment_blockOpener, endsInOpenComment_block hbody.2, ih]

theorem size?_token (before : List Char) (segment : Segment) :
    (segment.token before).span.size? = some (byteSize segment.lexeme.source) := by
  simp [Span.size?, Segment.token, Segment.text]
  omega

theorem isUnterminated_string {segment : Segment} (h : segment.lexeme.kind = .string)
    (before : List Char) : isUnterminated (segment.token before) = true ↔
      byteSize segment.lexeme.source ≠ byteSize segment.lexeme.value + 2 := by
  have kind : (segment.token before).kind = .string := h
  have value : (segment.token before).value.utf8ByteSize = byteSize segment.lexeme.value := by
    rw [utf8ByteSize_eq, Segment.token, String.toList_ofList]
  rw [isUnterminated, kind, value, size?_token]
  simp

theorem isUnterminated_docComment {segment : Segment} (h : segment.lexeme.kind = .docComment)
    (before : List Char) : isUnterminated (segment.token before) = true ↔
      ¬ ['*', '/'] <:+ segment.lexeme.value := by
  have kind : (segment.token before).kind = .docComment := h
  rw [isUnterminated, kind, Segment.token, String.toList_ofList, ← List.isSuffixOf_iff_suffix,
    Bool.not_eq_true]
  simp

theorem isUnterminated_other {segment : Segment} (notString : segment.lexeme.kind ≠ .string)
    (notComment : segment.lexeme.kind ≠ .docComment) (before : List Char) :
    isUnterminated (segment.token before) = false := by
  rw [isUnterminated, Segment.token]
  split
  · contradiction
  · contradiction
  · rfl

theorem isUnterminated_iff {operand : Bool} {growth : Growth} {segment : Segment}
    (h : Spelled operand growth segment.lexeme) (before : List Char) :
    isUnterminated (segment.token before) = true ↔
      growth = .anything ∧ segment.lexeme.kind ≠ .regex := by
  obtain ⟨gap, lexeme⟩ := segment
  cases h with
  | @string quote body isQuote inside =>
    rw [isUnterminated_string rfl]
    simp [utf8Size_quote isQuote]
    omega
  | @openString quote body isQuote inside =>
    rw [isUnterminated_string rfl]
    simp [utf8Size_quote isQuote]
    omega
  | @documentation body inside =>
    have closed : ['*', '/'] <:+ '/' :: '*' :: (body ++ ['*', '/']) :=
      ⟨'/' :: '*' :: body, by simp⟩
    rw [isUnterminated_docComment rfl]
    simp [closed]
  | @openDocumentation body star inside =>
    have isOpen : ¬ ['*', '/'] <:+: '/' :: '*' :: body := by
      simp [closer_infix_cons, star, inside]
    rw [isUnterminated_docComment rfl]
    simpa [verbatim] using fun closer : ['*', '/'] <:+ _ => isOpen closer.isInfix
  | _ =>
    rw [isUnterminated_other (by simp) (by simp)]
    simp

/-! ## Inputs -/

end Prompt

end ScriptTokens
