import ScriptTokens.TokenStream

namespace ScriptTokens

/-- The current stream and the forked ones, the latest first. -/
structure Session where
  current : TokenStream
  shelf : List TokenStream
  deriving DecidableEq, Repr

namespace Session

inductive Request
  | advance
  | advanceValue
  | peek
  | isEmpty
  | look (pattern : List Expectation)
  | take (n : Nat)
  | find (kind : Kind)
  | rest
  | newlines
  | fork
  | swap
  deriving DecidableEq, Repr

inductive Answer
  | token (token : Option Token)
  | value (value : Option String)
  | truth (holds : Bool)
  | tokens (tokens : List Token)
  | text (text : String)
  | count (n : Nat)
  | done
  deriving DecidableEq, Repr

inductive Event
  | consumed (token : Token)
  | looked (pattern : List Expectation) (found : Bool) (offset : Nat)
  deriving DecidableEq, Repr

def start (stream : TokenStream) : Session := ⟨stream, []⟩

def consumption (token : Option Token) : List Event := token.toList.map .consumed

def findKind (kind : Kind) : Nat → TokenStream → List Token × Option Token × TokenStream
  | 0, stream => ([], none, stream)
  | n + 1, stream =>
    match stream.advance with
    | (none, stream) => ([], none, stream)
    | (some token, stream) =>
      if token.kind = kind then ([token], some token, stream)
      else
        let (consumed, found, stream) := findKind kind n stream
        (token :: consumed, found, stream)

def step (session : Session) : Request → Answer × List Event × Session
  | .advance =>
    let (token, current) := session.current.advance
    (.token token, consumption token, { session with current })
  | .advanceValue =>
    let (token, current) := session.current.advance
    (.value (token.map (·.value)), consumption token, { session with current })
  | .peek =>
    let (token, current) := session.current.peek
    (.token token, [], { session with current })
  | .isEmpty =>
    let (holds, current) := session.current.isEmpty
    (.truth holds, [], { session with current })
  | .look [] => (.truth true, [], session)
  | .look (expectation :: pattern) =>
    let (found, current) := session.current.look (expectation :: pattern)
    (.truth found, [.looked (expectation :: pattern) found current.cursor.offset],
      { session with current })
  | .take n =>
    let (tokens, current) := session.current.take n
    (.tokens tokens, tokens.map .consumed, { session with current })
  | .find kind =>
    let (consumed, found, current) :=
      findKind kind (session.current.cursor.rest.length + 1) session.current
    (.token found, consumed.map .consumed, { session with current })
  | .rest => (.text (String.ofList session.current.cursor.rest), [], session)
  | .newlines =>
    let (newlines, cursor) := session.current.cursor.countNewlines
    (.count newlines, [], { session with current := { session.current with cursor } })
  | .fork => (.done, [], { session with shelf := session.current :: session.shelf })
  | .swap =>
    match session.shelf with
    | [] => (.done, [], session)
    | forked :: shelf => (.done, [], ⟨forked, session.current :: shelf⟩)

end Session

end ScriptTokens
