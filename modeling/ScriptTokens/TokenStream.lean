import ScriptTokens.Cursor
import ScriptTokens.Lexeme
import ScriptTokens.Token.Expectation

/-!
# Token streams

Tokens are read one at a time from a cursor. A stream remembers the token it gave out last, since
that decides what a slash means. Every request to a stream is a pull, which reads tokens for as
long as they are wanted, each under the one before it, and then either consumes them or takes the
cursor back.

Every token takes a character of the text (`rest_length_readToken`), so a pull comes to an end, and
a text has no more tokens than characters: `tokens` need not look further than that.
-/

namespace ScriptTokens

/-- Reads the next token at a cursor, after the token `last`. Without one the cursor ends behind
the last gap, that is at the end of the text. -/
def readToken (last : Option Token) (cursor : Cursor) : Option Token × Cursor :=
  let start := cursor.skip (Lexeme.splitGap .blank cursor.rest).1.length
  match start.rest with
  | [] => (none, start)
  | c :: cs =>
    let lexeme := (Lexeme.read (last.any Token.isOperand) c cs).1
    let (line, counted) :=
      if lexeme.kind = .docComment then
        (some (start.countNewlines.1 + 1), start.countNewlines.2)
      else (none, start)
    let stop := counted.skip lexeme.source.length
    (some ⟨lexeme.kind, String.ofList lexeme.value, line, ⟨start.offset, stop.offset⟩⟩, stop)

theorem rest_length_readToken {last : Option Token} {cursor : Cursor} {token : Token}
    (h : (readToken last cursor).1 = some token) :
    (readToken last cursor).2.rest.length < cursor.rest.length := by
  unfold readToken at h ⊢
  generalize hstart : cursor.skip (Lexeme.splitGap .blank cursor.rest).1.length = start at h ⊢
  have left : start.rest.length ≤ cursor.rest.length := by
    subst hstart
    simp [Cursor.skip, Place.skip]
  rcases hrest : start.rest with _ | ⟨c, cs⟩
  · simp [hrest] at h
  · have taken := List.length_pos_iff.mpr (Lexeme.source_ne_nil (last.any Token.isOperand) c cs)
    have counted : start.countNewlines.2.rest = start.rest := rfl
    simp only [hrest, List.length_cons] at left ⊢
    split <;> simp [Cursor.skip, Place.skip, counted, hrest] <;> omega

inductive Checkpoint
  | commit
  | rollback
  deriving DecidableEq, Repr

structure Pulled (σ : Type) where
  tokens : List Token
  cursor : Cursor
  state : σ

/-- Reads tokens until none is left or none is wanted, each after the one read before it and the
first after `last`. `wants` is shown each token, with the number of those before it, and says
whether it wants another. -/
def pullFrom {σ : Type} (wants : σ → Nat → Token → Bool × σ) (last : Option Token)
    (pulled : Pulled σ) : Pulled σ :=
  match _read : readToken (pulled.tokens.head?.or last) pulled.cursor with
  | (none, cursor) => { pulled with cursor }
  | (some token, cursor) =>
    let (more, state) := wants pulled.state pulled.tokens.length token
    let read : Pulled σ := ⟨token :: pulled.tokens, cursor, state⟩
    if more then pullFrom wants last read else read
termination_by pulled.cursor.rest.length
decreasing_by
  have shorter := rest_length_readToken (congrArg Prod.fst _read)
  rwa [_read] at shorter

structure TokenStream where
  cursor : Cursor
  last : Option Token
  deriving DecidableEq, Repr

namespace TokenStream

def ofCursor (cursor : Cursor) : TokenStream := ⟨cursor, none⟩

def ofText (text : String) : TokenStream := ofCursor (.ofText text.toList)

def rewind (stream : TokenStream) (cursor : Cursor) : TokenStream :=
  { stream with cursor := cursor.restore stream.cursor.toPlace }

def pull {σ : Type} (stream : TokenStream) (checkpoint : Checkpoint)
    (wants : σ → Nat → Token → Bool × σ) (state : σ) : Pulled σ × TokenStream :=
  let pulled := pullFrom wants stream.last ⟨[], stream.cursor, state⟩
  match checkpoint with
  | .commit => (pulled, ⟨pulled.cursor, pulled.tokens.head?.or stream.last⟩)
  | .rollback => (pulled, stream.rewind pulled.cursor)

def wantsOne (_ : Unit) (_ : Nat) (_ : Token) : Bool × Unit := (false, ())

def wantsMatch (pattern : List Expectation) (met index : Nat) (token : Token) : Bool × Nat :=
  if pattern[index]?.any (·.accepts token) then (met + 1 < pattern.length, met + 1)
  else (false, met)

def advance (stream : TokenStream) : Option Token × TokenStream :=
  let (pulled, stream) := stream.pull .commit wantsOne ()
  (pulled.tokens.head?, stream)

def peek (stream : TokenStream) : Option Token × TokenStream :=
  let (pulled, stream) := stream.pull .rollback wantsOne ()
  (pulled.tokens.head?, stream)

def isEmpty (stream : TokenStream) : Bool × TokenStream :=
  let (pulled, stream) := stream.pull .rollback wantsOne ()
  (pulled.tokens.isEmpty, stream)

def probe (stream : TokenStream) (pattern : List Expectation) : Pulled Nat × TokenStream :=
  stream.pull .rollback (wantsMatch pattern) 0

def look (stream : TokenStream) (pattern : List Expectation) : Bool × TokenStream :=
  if pattern.isEmpty then (true, stream)
  else
    let (pulled, stream) := stream.probe pattern
    (pulled.state == pattern.length, stream)

theorem pullFrom_wantsOne (last : Option Token) (cursor : Cursor) :
    pullFrom wantsOne last ⟨[], cursor, ()⟩ =
      ⟨(readToken last cursor).1.toList, (readToken last cursor).2, ()⟩ := by
  rw [pullFrom]
  simp only [List.head?_nil, Option.none_or]
  split <;> rename_i read <;> simp [read, wantsOne]

theorem advance_eq (stream : TokenStream) :
    stream.advance = ((readToken stream.last stream.cursor).1,
      ⟨(readToken stream.last stream.cursor).2,
        (readToken stream.last stream.cursor).1.or stream.last⟩) := by
  simp only [advance, pull, pullFrom_wantsOne]
  cases (readToken stream.last stream.cursor).1 <;> rfl

theorem peek_eq (stream : TokenStream) :
    stream.peek = ((readToken stream.last stream.cursor).1,
      stream.rewind (readToken stream.last stream.cursor).2) := by
  simp only [peek, pull, pullFrom_wantsOne]
  cases (readToken stream.last stream.cursor).1 <;> rfl

theorem peek_eq_advance (stream : TokenStream) : stream.peek.1 = stream.advance.1 := by
  rw [peek_eq, advance_eq]

theorem isEmpty_eq (stream : TokenStream) :
    stream.isEmpty = ((readToken stream.last stream.cursor).1.isNone,
      stream.rewind (readToken stream.last stream.cursor).2) := by
  simp only [isEmpty, pull, pullFrom_wantsOne]
  cases (readToken stream.last stream.cursor).1 <;> rfl

def take : Nat → TokenStream → List Token × TokenStream
  | 0, stream => ([], stream)
  | n + 1, stream =>
    match stream.advance with
    | (none, stream) => ([], stream)
    | (some token, stream) =>
      let (tokens, stream) := take n stream
      (token :: tokens, stream)

def tokens (stream : TokenStream) : List Token := (stream.take stream.cursor.rest.length).1

def remainder (stream : TokenStream) : List Char :=
  (stream.take stream.tokens.length).2.cursor.rest

end TokenStream

def tokenize (text : String) : List Token := (TokenStream.ofText text).tokens

namespace TokenStream

theorem rest_length_advance {stream next : TokenStream} {token : Token}
    (h : stream.advance = (some token, next)) :
    next.cursor.rest.length < stream.cursor.rest.length := by
  rw [advance_eq, Prod.mk.injEq] at h
  rw [← h.2]
  exact rest_length_readToken h.1

theorem take_eq_tokens {n : Nat} {stream : TokenStream} (h : stream.cursor.rest.length ≤ n) :
    (stream.take n).1 = stream.tokens := by
  suffices ∀ m k (stream : TokenStream), stream.cursor.rest.length ≤ m →
      stream.cursor.rest.length ≤ k → (stream.take m).1 = (stream.take k).1 from
    this n _ stream h (Nat.le_refl _)
  intro m
  induction m with
  | zero =>
    intro k stream hm _
    rcases k with _ | k
    · rfl
    · rcases hnext : stream.advance with ⟨_ | token, next⟩
      · simp [take, hnext]
      · exact absurd (rest_length_advance hnext) (by omega)
  | succ m ih =>
    intro k stream hm hk
    rcases hnext : stream.advance with ⟨_ | token, next⟩
    · rcases k with _ | k <;> simp [take, hnext]
    · have shorter := rest_length_advance hnext
      rcases k with _ | k
      · omega
      · simp [take, hnext, ih k next (by omega) (by omega)]

theorem tokens_of_advance_none {stream next : TokenStream}
    (h : stream.advance = (none, next)) : stream.tokens = [] := by
  rw [← take_eq_tokens (Nat.le_succ _)]
  simp [take, h]

theorem tokens_of_advance_some {stream next : TokenStream} {token : Token}
    (h : stream.advance = (some token, next)) : stream.tokens = token :: next.tokens := by
  rw [← take_eq_tokens (Nat.le_succ _)]
  simp only [take, h]
  rw [take_eq_tokens (Nat.le_of_lt (rest_length_advance h))]

end TokenStream

end ScriptTokens
