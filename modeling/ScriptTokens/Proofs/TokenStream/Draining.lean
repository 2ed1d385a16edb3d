import ScriptTokens.Proofs.TokenStream.Reading

namespace ScriptTokens

theorem text_readToken (last : Option Token) (cursor : Cursor) :
    (readToken last cursor).2.text = cursor.text := by
  unfold readToken
  dsimp only
  split
  · exact Place.text_skip _ _
  · split
    · exact (Place.text_skip _ _).trans (Place.text_skip _ _)
    · exact (Place.text_skip _ _).trans (Place.text_skip _ _)

theorem rest_of_readToken_none {last : Option Token} {cursor : Cursor}
    (h : (readToken last cursor).1 = none) : (readToken last cursor).2.rest = [] := by
  unfold readToken at h ⊢
  dsimp only at h ⊢
  split
  · assumption
  · rename_i rest
    simp [rest] at h

theorem stop_of_readToken {last : Option Token} {cursor : Cursor} {token : Token}
    (h : (readToken last cursor).1 = some token) :
    (readToken last cursor).2.offset = token.span.stop := by
  unfold readToken at h ⊢
  dsimp only at h ⊢
  split
  · rename_i rest
    simp [rest] at h
  · rename_i rest
    simp only [rest, Option.some.injEq] at h
    rw [← h]

namespace TokenStream

theorem last_of_advance {stream next : TokenStream} {token : Token}
    (h : stream.advance = (some token, next)) : next.last = some token := by
  rw [advance_eq, Prod.mk.injEq] at h
  rw [← h.2, h.1]
  rfl

theorem last_of_advance_none {stream next : TokenStream} (h : stream.advance = (none, next)) :
    next.last = stream.last := by
  rw [advance_eq, Prod.mk.injEq] at h
  rw [← h.2, h.1]
  rfl

theorem rest_of_advance_none {stream next : TokenStream} (h : stream.advance = (none, next)) :
    next.cursor.rest = [] := by
  rw [advance_eq, Prod.mk.injEq] at h
  rw [← h.2]
  exact rest_of_readToken_none h.1

theorem offset_advance (stream : TokenStream) {text : List Char}
    (h : stream.cursor.text = text) :
    stream.advance.2.cursor.offset =
      match stream.advance.1 with
      | some token => token.span.stop
      | none => Text.byteSize text := by
  rw [advance_eq]
  cases read : (readToken stream.last stream.cursor).1 with
  | some token => exact stop_of_readToken read
  | none =>
    have ended := rest_of_readToken_none read
    have text_eq := text_readToken stream.last stream.cursor
    rw [Place.text, ended, List.append_nil, h] at text_eq
    rw [← text_eq]
    exact Place.offset_eq_byteSize _

theorem tokens_of_rest_nil {stream : TokenStream} (h : stream.cursor.rest = []) :
    stream.tokens = [] := by
  rw [tokens, h]
  rfl

def after : Nat → TokenStream → TokenStream
  | 0, stream => stream
  | n + 1, stream => after n stream.advance.2

theorem after_succ (n : Nat) (stream : TokenStream) :
    stream.after (n + 1) = (stream.after n).advance.2 := by
  induction n generalizing stream with
  | zero => rfl
  | succ n ih =>
    rw [after, ih]
    rfl

theorem text_after (n : Nat) (stream : TokenStream) :
    (stream.after n).cursor.text = stream.cursor.text := by
  induction n generalizing stream with
  | zero => rfl
  | succ n ih =>
    rw [after, ih, advance_eq]
    exact text_readToken stream.last stream.cursor

theorem advance_of_rest_nil {stream : TokenStream} (h : stream.cursor.rest = []) :
    stream.advance.1 = none ∧ stream.advance.2.cursor.rest = [] := by
  have final : Lexeme.FinalGap stream.cursor.rest := by
    rw [h]
    exact Lexeme.Gap.nil.finalGap
  rw [advance_eq, readToken_of_final final]
  exact ⟨rfl, by simp [Cursor.skip]⟩

theorem advance_after_of_rest_nil {stream : TokenStream} (h : stream.cursor.rest = []) (n : Nat) :
    (stream.after n).advance.1 = none := by
  induction n generalizing stream with
  | zero => exact (advance_of_rest_nil h).1
  | succ n ih => exact ih (advance_of_rest_nil h).2

theorem advance_after (n : Nat) (stream : TokenStream) :
    (stream.after n).advance.1 = stream.tokens[n]? := by
  induction n generalizing stream with
  | zero =>
    rcases advanced : stream.advance with ⟨_ | token, next⟩
    · simp [after, advanced, tokens_of_advance_none advanced]
    · simp [after, advanced, tokens_of_advance_some advanced]
  | succ n ih =>
    rw [after]
    rcases advanced : stream.advance with ⟨_ | token, next⟩
    · rw [tokens_of_advance_none advanced]
      exact advance_after_of_rest_nil (rest_of_advance_none advanced) n
    · rw [ih, tokens_of_advance_some advanced]
      rfl

theorem last_after (n : Nat) (stream : TokenStream) :
    (stream.after n).last = (stream.tokens.take n).getLast?.or stream.last := by
  induction n generalizing stream with
  | zero => simp [after]
  | succ n ih =>
    rw [after, ih]
    rcases advanced : stream.advance with ⟨_ | token, next⟩
    · have kept : next.last = stream.last := last_of_advance_none advanced
      rw [tokens_of_advance_none advanced, tokens_of_rest_nil (rest_of_advance_none advanced),
        kept, List.take_nil, List.take_nil]
    · rw [tokens_of_advance_some advanced, last_of_advance advanced, List.take_succ_cons,
        List.getLast?_cons]
      cases (next.tokens.take n).getLast? <;> rfl

end TokenStream

end ScriptTokens
