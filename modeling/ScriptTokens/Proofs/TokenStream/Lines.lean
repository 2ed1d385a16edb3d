import ScriptTokens.Proofs.LineIndex
import ScriptTokens.Proofs.TokenStream.Fork

namespace ScriptTokens
open Text

/-- A documentation comment, and nothing else, knows the line on which an index finds it. -/
structure Token.Lined (text : String) (token : Token) : Prop where
  documentation : token.kind = .docComment →
    token.line = some (newlinesBefore text token.span.start + 1)
  other : token.kind ≠ .docComment → token.line = none
  indexed : ∃ column, (LineIndex.ofText text.toList).position token.span.start =
    .ok ⟨newlinesBefore text token.span.start + 1, column⟩

theorem Segment.lined_token {text : String} {before rest : List Char} {segment : Segment}
    (whole : text.toList = before ++ (segment.text ++ rest)) :
    (segment.token before).Lined text := by
  have split : text.toList = (before ++ segment.gap) ++ (segment.lexeme.source ++ rest) := by
    rw [whole, Segment.text]
    simp only [List.append_assoc]
  have newlines : newlinesBefore text (segment.token before).span.start =
      (before ++ segment.gap).count '\n' := newlinesBefore_byteSize split
  constructor
  · intro documentation
    rw [newlines]
    exact if_pos documentation
  · intro other
    exact if_neg other
  · rw [newlines, split]
    exact ⟨_, LineIndex.position_byteSize _ _⟩

theorem TokenStream.lined_tokens {stream : TokenStream} (exact : stream.cursor.Exact)
    {text : String} (whole : stream.cursor.text = text.toList) :
    ∀ token ∈ stream.tokens, token.Lined text := by
  intro token member
  rw [stream.tokens_eq_listing exact] at member
  obtain ⟨front, rest, segment, rest_eq, -, rfl⟩ := mem_listing member
  apply segment.lined_token
  rw [← whole, Place.text, rest_eq, List.append_assoc]

theorem Reader.Follows.answer {reader : Reader} {stream : TokenStream}
    (h : reader.Follows stream) (fresh : stream.last = none) {call : Reader.Call} {token : Token}
    (answered : (reader.call call).1 = .token (some token)) : token ∈ stream.tokens := by
  have asked (given : reader.stream.advance.1 = some token) : token ∈ stream.tokens := by
    rw [h.advance_eq] at given
    exact List.mem_of_getElem? given
  cases call with
  | advance | next =>
    simp only [Reader.call, Reader.Answer.token.injEq] at answered
    exact asked answered
  | peek =>
    simp only [Reader.call, Reader.Answer.token.injEq, TokenStream.peek_eq_advance] at answered
    exact asked answered
  | last =>
    simp only [Reader.call, Reader.Answer.token.injEq, h.last_eq fresh, h.consumed_eq] at answered
    exact List.mem_of_mem_take (List.mem_of_getLast? answered)
  | advanceValue | look | isEmpty | newlines => cases answered

theorem run_answers {readers : List Reader} {stream : TokenStream}
    (h : ∀ reader ∈ readers, reader.Follows stream) (fresh : stream.last = none)
    {moves : List Move} {token : Token}
    (answered : .token (some token) ∈ (run readers moves).1) : token ∈ stream.tokens := by
  induction moves generalizing readers with
  | nil => exact absurd answered List.not_mem_nil
  | cons move moves ih =>
    rw [run] at answered
    rcases List.mem_append.mp answered with now | later
    · cases move with
      | call index asked =>
        rw [Move.apply] at now
        split at now
        · rename_i reader found
          exact (h reader (List.mem_of_getElem? found)).answer fresh
            (Option.some.inj (Option.mem_toList.mp now))
        · exact absurd now List.not_mem_nil
      | fork index => exact absurd now List.not_mem_nil
    · exact ih (follows_apply h move) later

/-- Whatever the moves have been, every token that a reader answers with is on its line. -/
theorem run_lines {text : String} {offset : Nat} {moves : List Move} {token : Token}
    (answered : .token (some token) ∈ (run [.opened text offset] moves).1) :
    token.Lined text := by
  let start := (Reader.opened text offset).stream
  have member : token ∈ start.tokens := run_answers Reader.follows_opened rfl answered
  exact start.lined_tokens (Cursor.exact_ofOffset _ _) (Place.text_skip _ _) token member

theorem run_lines_behind_look :
    let text := "ä\n/** b */\n/ c /** d */"
    let moves : List Move := [.call 0 (.look [.value "ä", .kind .docComment, .kind .regex]),
      .fork 0, .call 1 .next, .call 0 .newlines, .call 1 .peek]
    let comment : Token := ⟨.docComment, "/** b */", some 2, ⟨3, 11⟩⟩
    .token (some comment) ∈ (run [.opened text 0] moves).1 ∧ comment.Lined text := by
  intro text moves comment
  have answered : .token (some comment) ∈ (run [.opened text 0] moves).1 := by
    decide +kernel
  exact ⟨answered, run_lines answered⟩

end ScriptTokens
