import ScriptTokens.Proofs.TokenStream.Alike

/-!
# Forked streams

A family of readers starts as one stream; each move is a call to one of them, or forks one. A
reader keeps, beside its stream, what its requests for a token have given along its own history,
that of the reader it was forked from included.

Whatever the moves, every reader follows the stream that was opened first (`follows_run`): its
requests have given what as many requests in a row would have given, and its stream is like the one
they would have left. So it has consumed the first of the tokens that draining gives, and looks
ahead, counted lines and other readers have left nothing behind (`run_history`).
-/

namespace ScriptTokens

/-- A stream, and what each request for a token has given, the first one first. -/
structure Reader where
  stream : TokenStream
  given : List (Option Token)
  deriving DecidableEq, Repr

namespace Reader

inductive Call
  | advance
  | next
  | advanceValue
  | peek
  | look (pattern : List Expectation)
  | isEmpty
  | last
  | newlines
  deriving DecidableEq, Repr

inductive Answer
  | token (token : Option Token)
  | value (value : Option String)
  | truth (holds : Bool)
  | count (n : Nat)
  deriving DecidableEq, Repr

def opened (text : String) (offset : Nat) : Reader :=
  ⟨.ofCursor (.ofOffset text.toList offset), []⟩

def request (reader : Reader) : Option Token × Reader :=
  (reader.stream.advance.1, ⟨reader.stream.advance.2, reader.given ++ [reader.stream.advance.1]⟩)

def call (reader : Reader) : Call → Answer × Reader
  | .advance | .next => (.token reader.request.1, reader.request.2)
  | .advanceValue => (.value (reader.request.1.map (·.value)), reader.request.2)
  | .peek => (.token reader.stream.peek.1, { reader with stream := reader.stream.peek.2 })
  | .look pattern =>
    (.truth (reader.stream.look pattern).1,
      { reader with stream := (reader.stream.look pattern).2 })
  | .isEmpty => (.truth reader.stream.isEmpty.1, { reader with stream := reader.stream.isEmpty.2 })
  | .last => (.token reader.stream.last, reader)
  | .newlines =>
    (.count reader.stream.cursor.countNewlines.1,
      { reader with stream.cursor := reader.stream.cursor.countNewlines.2 })

def consumed (reader : Reader) : List Token := reader.given.filterMap id

end Reader

inductive Move
  | call (index : Nat) (call : Reader.Call)
  | fork (index : Nat)
  deriving DecidableEq, Repr

def Move.apply (readers : List Reader) : Move → Option Reader.Answer × List Reader
  | .call index asked =>
    match readers[index]? with
    | some reader => (some (reader.call asked).1, readers.set index (reader.call asked).2)
    | none => (none, readers)
  | .fork index => (none, readers ++ readers[index]?.toList)

def run (readers : List Reader) : List Move → List Reader.Answer × List Reader
  | [] => ([], readers)
  | move :: moves =>
    ((move.apply readers).1.toList ++ (run (move.apply readers).2 moves).1,
      (run (move.apply readers).2 moves).2)

/-- The reader has been given what so many requests to a stream give, and has left it like they
would. -/
structure Reader.Follows (reader : Reader) (stream : TokenStream) : Prop where
  alike : reader.stream.Alike (stream.after reader.given.length)
  given : reader.given = (List.range reader.given.length).map (stream.tokens[·]?)

namespace Reader
variable {reader : Reader} {stream : TokenStream}

theorem follows_opened {text : String} {offset : Nat} :
    ∀ reader ∈ [opened text offset], reader.Follows (opened text offset).stream := by
  intro reader first
  rw [List.mem_singleton.mp first]
  exact ⟨.refl (Cursor.exact_ofOffset text.toList offset), rfl⟩

theorem Follows.request (h : reader.Follows stream) : reader.request.2.Follows stream := by
  obtain ⟨token, alike⟩ := h.alike.advance
  have length : reader.request.2.given.length = reader.given.length + 1 := by
    simp [Reader.request]
  constructor
  · rw [length, TokenStream.after_succ]
    exact alike
  · rw [length, List.range_succ, List.map_append, ← h.given]
    simp [Reader.request, token, TokenStream.advance_after]

theorem Follows.of_alike (h : reader.Follows stream) {other : TokenStream}
    (alike : other.Alike reader.stream) : Follows { reader with stream := other } stream :=
  ⟨alike.trans h.alike, h.given⟩

theorem alike_look {stream : TokenStream} (exact : stream.cursor.Exact)
    (pattern : List Expectation) : (stream.look pattern).2.Alike stream := by
  rw [TokenStream.look]
  split
  · exact .refl exact
  · exact TokenStream.alike_pull exact _ _

theorem Follows.call (h : reader.Follows stream) (call : Call) :
    (reader.call call).2.Follows stream := by
  have exact := h.alike.exact
  cases call with
  | advance | next | advanceValue => exact h.request
  | peek => exact h.of_alike (TokenStream.alike_pull exact _ _)
  | look pattern => exact h.of_alike (alike_look exact pattern)
  | isEmpty => exact h.of_alike (TokenStream.alike_pull exact _ _)
  | last => exact h
  | newlines => exact h.of_alike ⟨rfl, rfl, exact.countNewlines, exact⟩

end Reader

theorem follows_apply {readers : List Reader} {stream : TokenStream}
    (h : ∀ reader ∈ readers, reader.Follows stream) (move : Move) :
    ∀ reader ∈ (move.apply readers).2, reader.Follows stream := by
  intro reader member
  cases move with
  | call index asked =>
    rw [Move.apply] at member
    split at member
    · rename_i caller found
      rcases List.mem_or_eq_of_mem_set member with member | rfl
      · exact h reader member
      · exact (h caller (List.mem_of_getElem? found)).call asked
    · exact h reader member
  | fork index =>
    rw [Move.apply] at member
    rcases List.mem_append.mp member with member | member
    · exact h reader member
    · exact h reader (List.mem_of_getElem? (Option.mem_toList.mp member))

theorem follows_run {readers : List Reader} {stream : TokenStream}
    (h : ∀ reader ∈ readers, reader.Follows stream) (moves : List Move) :
    ∀ reader ∈ (run readers moves).2, reader.Follows stream := by
  induction moves generalizing readers with
  | nil => exact h
  | cons move moves ih => exact ih (follows_apply h move)

theorem filterMap_getElem? {α : Type} (list : List α) (n : Nat) :
    ((List.range n).map (list[·]?)).filterMap id = list.take n := by
  induction n with
  | zero => rfl
  | succ n ih =>
    rw [List.range_succ, List.map_append, List.filterMap_append, ih, List.take_add_one]
    cases found : list[n]? <;> simp [found]

namespace Reader
variable {reader : Reader} {stream : TokenStream}

theorem Follows.consumed_eq (h : reader.Follows stream) :
    reader.consumed = stream.tokens.take reader.given.length := by
  rw [consumed, h.given, filterMap_getElem?, List.length_map, List.length_range]

theorem Follows.last_eq (h : reader.Follows stream) (fresh : stream.last = none) :
    reader.stream.last = reader.consumed.getLast? := by
  rw [h.alike.last, TokenStream.last_after, fresh, Option.or_none, h.consumed_eq]

theorem Follows.advance_eq (h : reader.Follows stream) :
    reader.stream.advance.1 = stream.tokens[reader.given.length]? := by
  rw [h.alike.advance.1, TokenStream.advance_after]

def restingPlace (reader : Reader) (start stop : Nat) : Nat :=
  match reader.given.getLast? with
  | none => start
  | some (some token) => token.span.stop
  | some none => stop

theorem Follows.offset_eq (h : reader.Follows stream) :
    reader.stream.cursor.offset =
      reader.restingPlace stream.cursor.offset (Text.byteSize stream.cursor.text) := by
  have place := congrArg Place.offset h.alike.place
  have given := h.given
  rw [place, restingPlace]
  cases asked : reader.given.length with
  | zero =>
    rw [List.length_eq_zero_iff.mp asked]
    rfl
  | succ k =>
    -- The last answer is the one that the stream gives after the others.
    rw [asked, List.range_succ, List.map_append, List.map_singleton] at given
    rw [given, List.getLast?_concat, TokenStream.after_succ, ← TokenStream.advance_after]
    rw [TokenStream.offset_advance _ (TokenStream.text_after k stream)]
    cases (stream.after k).advance.1 <;> rfl

theorem Follows.exhausted (h : reader.Follows stream) (ended : none ∈ reader.given) :
    reader.stream.advance.1 = none := by
  rw [h.given, List.mem_map] at ended
  obtain ⟨n, inRange, beyond⟩ := ended
  rw [List.mem_range] at inRange
  rw [List.getElem?_eq_none_iff] at beyond
  rw [h.advance_eq, List.getElem?_eq_none_iff]
  omega

end Reader

/-- Whatever the moves have been, a reader has consumed the first of the tokens that the text has
from the offset on, and stands where its last request for a token has left it. -/
theorem run_history {text : String} {offset : Nat} {moves : List Move} {reader : Reader}
    (member : reader ∈ (run [.opened text offset] moves).2) :
    let start := (Reader.opened text offset).stream
    reader.consumed <+: start.tokens ∧
      reader.stream.last = reader.consumed.getLast? ∧
      reader.stream.cursor.offset =
        reader.restingPlace start.cursor.offset (Text.byteSize text.toList) ∧
      (∀ pattern, ∀ left ∈ [reader.stream.peek.2, (reader.stream.look pattern).2,
          reader.stream.isEmpty.2],
        left.cursor.offset = reader.stream.cursor.offset ∧ left.last = reader.stream.last) ∧
      (none ∈ reader.given → reader.stream.advance.1 = none ∧ reader.stream.peek.1 = none) := by
  intro start
  have follows : reader.Follows start := follows_run Reader.follows_opened moves reader member
  have exact := follows.alike.exact
  have text_eq : start.cursor.text = text.toList := Place.text_skip _ _
  refine ⟨?_, follows.last_eq rfl, ?_, ?_, ?_⟩
  · rw [follows.consumed_eq]
    exact List.take_prefix _ _
  · rw [follows.offset_eq, text_eq]
  · intro pattern left looked
    have alike : left.Alike reader.stream := by
      simp only [List.mem_cons, List.not_mem_nil, or_false] at looked
      rcases looked with rfl | rfl | rfl
      · exact TokenStream.alike_pull exact _ _
      · exact Reader.alike_look exact pattern
      · exact TokenStream.alike_pull exact _ _
    exact ⟨congrArg Place.offset alike.place, alike.last⟩
  · intro ended
    have exhausted := follows.exhausted ended
    exact ⟨exhausted, by rw [TokenStream.peek_eq_advance, exhausted]⟩

theorem run_history_to_end :
    let moves : List Move := [.call 0 .advance, .call 0 (.look [.kind .regex, .value "+"]),
      .fork 0, .call 1 .next, .call 1 .next, .call 0 .peek, .call 1 .advance]
    let reader := ((run [.opened "= /x/ +" 0] moves).2[1]?).getD (.opened "" 0)
    reader.given.map (·.map (·.value)) = [some "=", some "/x/", some "+", none] ∧
      reader.consumed <+: (Reader.opened "= /x/ +" 0).stream.tokens ∧
      reader.stream.peek.1 = none := by
  intro moves reader
  have member : reader ∈ (run [.opened "= /x/ +" 0] moves).2 := by
    decide +kernel
  have ended : none ∈ reader.given := by
    decide +kernel
  obtain ⟨consumed, -, -, -, exhausted⟩ := run_history member
  exact ⟨by decide +kernel, consumed, (exhausted ended).2⟩

end ScriptTokens
