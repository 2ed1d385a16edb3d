import Mathlib.Data.List.Perm.Basic
import ScriptTokens.Proofs.TokenStream.Lines
import ScriptTokens.TokenStream.Session

/-!
# Sessions are families of readers

The streams of a session are those of a family of readers, in another order (`Mirrors`): a request
to the current stream is a number of calls to its reader, and a swap is no move at all
(`step_mirrors`). So what holds along every family of readers holds along every session
(`session_history`).
-/

namespace ScriptTokens

/-! ## Requests for tokens -/

namespace TokenStream

/-- Some requests lead from one stream to another, and each of the tokens is given by one. -/
def Advances (stream next : TokenStream) (tokens : List Token) : Prop :=
  ∃ count, next = stream.after count ∧
    ∀ token ∈ tokens, ∃ i < count, (stream.after i).advance.1 = some token

variable {stream next last : TokenStream} {token : Token} {tokens : List Token}

theorem advances_refl (stream : TokenStream) : stream.Advances stream [] :=
  ⟨0, rfl, fun _ member => absurd member List.not_mem_nil⟩

theorem advances_none (h : stream.advance = (none, next)) : stream.Advances next [] :=
  ⟨1, by rw [after, h]; rfl, fun _ member => absurd member List.not_mem_nil⟩

theorem advances_request (stream : TokenStream) :
    stream.Advances stream.advance.2 stream.advance.1.toList := by
  refine ⟨1, rfl, fun token member => ⟨0, Nat.zero_lt_one, ?_⟩⟩
  exact Option.mem_toList.mp member

theorem Advances.cons (h : next.Advances last tokens)
    (first : stream.advance = (some token, next)) : stream.Advances last (token :: tokens) := by
  obtain ⟨count, rfl, given⟩ := h
  have next_eq : stream.advance.2 = next := by rw [first]
  refine ⟨count + 1, by rw [after, next_eq], List.forall_mem_cons.mpr ⟨?_, fun other member => ?_⟩⟩
  · exact ⟨0, Nat.zero_lt_succ _, by rw [after, first]⟩
  · obtain ⟨i, early, gives⟩ := given other member
    exact ⟨i + 1, Nat.succ_lt_succ early, by rw [after, next_eq, gives]⟩

theorem advances_take (n : Nat) (stream : TokenStream) :
    stream.Advances (stream.take n).2 (stream.take n).1 := by
  induction n generalizing stream with
  | zero => exact stream.advances_refl
  | succ n ih =>
    rw [take]
    rcases first : stream.advance with ⟨_ | token, next⟩
    · exact advances_none first
    · exact (ih next).cons first

end TokenStream

namespace Session

theorem advances_findKind (kind : Kind) (n : Nat) (stream : TokenStream) :
    stream.Advances (findKind kind n stream).2.2 (findKind kind n stream).1 := by
  induction n generalizing stream with
  | zero => exact stream.advances_refl
  | succ n ih =>
    rw [findKind]
    rcases first : stream.advance with ⟨_ | token, next⟩
    · exact TokenStream.advances_none first
    · by_cases found : token.kind = kind
      · simp only [found, if_true]
        exact next.advances_refl.cons first
      · simp only [found, if_false]
        exact (ih next).cons first

theorem mem_of_findKind {kind : Kind} {n : Nat} {stream : TokenStream} {token : Token}
    (h : (findKind kind n stream).2.1 = some token) : token ∈ (findKind kind n stream).1 := by
  induction n generalizing stream with
  | zero => cases h
  | succ n ih =>
    rw [findKind] at h ⊢
    rcases first : stream.advance with ⟨_ | other, next⟩
    · rw [first] at h
      cases h
    · rw [first] at h
      by_cases found : other.kind = kind
      · simp only [found, if_true] at h ⊢
        rw [Option.some.inj h]
        exact List.mem_cons_self
      · simp only [found, if_false] at h ⊢
        exact List.mem_cons_of_mem _ (ih h)

/-! ## Readers that are called -/

/-- The streams of a session are those of some readers. -/
def Mirrors (session : Session) (readers : List Reader) : Prop :=
  (session.current :: session.shelf).Perm (readers.map (·.stream))

variable {session : Session} {readers : List Reader}

theorem Mirrors.exists_reader (h : session.Mirrors readers) :
    ∃ (index : Nat) (reader : Reader), readers[index]? = some reader ∧
      reader.stream = session.current ∧ ∀ other : Reader,
        Mirrors { session with current := other.stream } (readers.set index other) := by
  obtain ⟨index, inside, found⟩ := List.mem_iff_getElem.mp (h.mem_iff.mp List.mem_cons_self)
  have bound : index < readers.length := by simpa using inside
  rw [List.getElem_map] at found
  refine ⟨index, readers[index], List.getElem?_eq_getElem bound, found, fun other => ?_⟩
  have others : session.shelf.Perm ((readers.map (·.stream)).eraseIdx index) := by
    have split := List.getElem_cons_eraseIdx_perm inside
    rw [List.getElem_map, found] at split
    exact (h.trans split.symm).cons_inv
  rw [Mirrors, List.map_set]
  exact (others.cons _).trans (List.set_perm_cons_eraseIdx inside _).symm

theorem run_call {index : Nat} {reader : Reader} (found : readers[index]? = some reader)
    (asked : Reader.Call) (moves : List Move) :
    run readers (.call index asked :: moves) =
      ((reader.call asked).1 :: (ScriptTokens.run
        (readers.set index (reader.call asked).2) moves).1,
        (run (readers.set index (reader.call asked).2) moves).2) := by
  simp only [ScriptTokens.run, Move.apply, found]
  rfl

theorem exists_moves_of_after (count : Nat) {index : Nat} {reader : Reader}
    (found : readers[index]? = some reader) :
    ∃ (moves : List Move) (other : Reader),
      (run readers moves).2 = readers.set index other ∧
      other.stream = reader.stream.after count ∧ ∀ i < count,
        .token (reader.stream.after i).advance.1 ∈ (run readers moves).1 := by
  induction count generalizing readers reader with
  | zero =>
    refine ⟨[], reader, ?_, rfl, fun i early => absurd early (Nat.not_lt_zero i)⟩
    obtain ⟨inside, same⟩ := List.getElem?_eq_some_iff.mp found
    rw [← same, List.set_getElem_self]
    rfl
  | succ count ih =>
    obtain ⟨inside, -⟩ := List.getElem?_eq_some_iff.mp found
    have asked : (readers.set index reader.request.2)[index]? = some reader.request.2 :=
      List.getElem?_set_self inside
    obtain ⟨moves, other, reached, stream, given⟩ := ih asked
    refine ⟨.call index .advance :: moves, other, ?_, stream, fun i early => ?_⟩
    · rw [run_call found]
      exact reached.trans (List.set_set _)
    · rw [run_call found]
      cases i with
      | zero => exact List.mem_cons_self
      | succ i => exact List.mem_cons_of_mem _ (given i (Nat.lt_of_succ_lt_succ early))

theorem Mirrors.exists_advances (h : session.Mirrors readers) {next : TokenStream}
    {tokens : List Token} (advances : session.current.Advances next tokens) :
    ∃ moves, Mirrors { session with current := next } (run readers moves).2 ∧
      ∀ token ∈ tokens, .token (some token) ∈ (run readers moves).1 := by
  obtain ⟨index, reader, found, current, mirrors⟩ := h.exists_reader
  obtain ⟨count, rfl, given⟩ := advances
  obtain ⟨moves, other, reached, stream, answers⟩ := exists_moves_of_after count found
  rw [current] at stream answers
  refine ⟨moves, ?_, fun token member => ?_⟩
  · rw [reached, ← stream]
    exact mirrors other
  · obtain ⟨i, early, gives⟩ := given token member
    rw [← gives]
    exact answers i early

theorem Mirrors.exists_call (h : session.Mirrors readers) (asked : Reader.Call) :
    let called := Reader.call ⟨session.current, []⟩ asked
    ∃ moves, Mirrors { session with current := called.2.stream }
      (run readers moves).2 ∧ called.1 ∈ (run readers moves).1 := by
  intro called
  obtain ⟨index, reader, found, current, mirrors⟩ := h.exists_reader
  have same : (reader.call asked).1 = called.1 ∧
      (reader.call asked).2.stream = called.2.stream := by
    obtain ⟨stream, given⟩ := reader
    obtain rfl : stream = session.current := current
    cases asked <;> exact ⟨rfl, rfl⟩
  refine ⟨[.call index asked], ?_, ?_⟩
  · rw [run_call found, ← same.2]
    exact mirrors (reader.call asked).2
  · rw [run_call found, same.1]
    exact List.mem_cons_self

/-! ## Sessions -/

def Answer.given : Answer → List Token
  | .token one => one.toList
  | .tokens many => many
  | _ => []

def Event.given : Event → List Token
  | .consumed token => [token]
  | .looked .. => []

def told (said : Answer × List Event) : List Token :=
  said.1.given ++ said.2.flatMap Event.given

theorem mem_told_consumed {answer : Answer} {tokens : List Token} {token : Token} :
    token ∈ told (answer, tokens.map Event.consumed) ↔ token ∈ answer.given ∨ token ∈ tokens := by
  have events : (tokens.map Event.consumed).flatMap Event.given = tokens := by
    rw [List.flatMap_map]
    exact List.flatMap_singleton' tokens
  rw [told, events, List.mem_append]

theorem step_mirrors (h : session.Mirrors readers) (request : Request) :
    ∃ moves, (session.step request).2.2.Mirrors (run readers moves).2 ∧
      ∀ token ∈ told ((session.step request).1, (session.step request).2.1),
        .token (some token) ∈ (run readers moves).1 := by
  cases request with
  | advance =>
    obtain ⟨moves, mirrors, given⟩ := h.exists_advances session.current.advances_request
    refine ⟨moves, mirrors, fun token member => given token ?_⟩
    exact (mem_told_consumed.mp member).elim id id
  | advanceValue =>
    obtain ⟨moves, mirrors, given⟩ := h.exists_advances session.current.advances_request
    refine ⟨moves, mirrors, fun token member => given token ?_⟩
    exact (mem_told_consumed.mp member).resolve_left List.not_mem_nil
  | take n =>
    obtain ⟨moves, mirrors, given⟩ := h.exists_advances (session.current.advances_take n)
    refine ⟨moves, mirrors, fun token member => given token ?_⟩
    exact (mem_told_consumed.mp member).elim id id
  | find kind =>
    obtain ⟨moves, mirrors, given⟩ := h.exists_advances
      (advances_findKind kind (session.current.cursor.rest.length + 1) session.current)
    refine ⟨moves, mirrors, fun token member => given token ?_⟩
    rcases mem_told_consumed.mp member with found | consumed
    · exact mem_of_findKind (Option.mem_toList.mp found)
    · exact consumed
  | peek =>
    obtain ⟨moves, mirrors, given⟩ := h.exists_call .peek
    refine ⟨moves, mirrors, fun token member => ?_⟩
    have peeked : token ∈ session.current.peek.1.toList :=
      (List.mem_append.mp member).resolve_right List.not_mem_nil
    rw [← Option.mem_toList.mp peeked]
    exact given
  | isEmpty =>
    obtain ⟨moves, mirrors, -⟩ := h.exists_call .isEmpty
    exact ⟨moves, mirrors, fun token member => absurd member List.not_mem_nil⟩
  | look pattern =>
    cases pattern with
    | nil =>
      exact ⟨[], h, fun token member => absurd member List.not_mem_nil⟩
    | cons element more =>
      obtain ⟨moves, mirrors, -⟩ := h.exists_call (.look (element :: more))
      exact ⟨moves, mirrors, fun token member => absurd member List.not_mem_nil⟩
  | newlines =>
    obtain ⟨moves, mirrors, -⟩ := h.exists_call .newlines
    exact ⟨moves, mirrors, fun token member => absurd member List.not_mem_nil⟩
  | rest =>
    exact ⟨[], h, fun token member => absurd member List.not_mem_nil⟩
  | fork =>
    obtain ⟨index, reader, found, current, -⟩ := h.exists_reader
    have forked : (run readers [.fork index]).2 = readers ++ [reader] := by
      simp only [ScriptTokens.run, Move.apply, found]
      rfl
    refine ⟨[.fork index], ?_, fun token member => absurd member List.not_mem_nil⟩
    rw [forked, Mirrors, List.map_append, List.map_singleton, current]
    exact (h.cons _).trans (List.perm_append_singleton _ _).symm
  | swap =>
    obtain ⟨current, shelf⟩ := session
    cases shelf with
    | nil =>
      exact ⟨[], h, fun token member => absurd member List.not_mem_nil⟩
    | cons forked shelf =>
      refine ⟨[], (List.Perm.swap _ _ _).trans h, fun token member => ?_⟩
      exact absurd member List.not_mem_nil

/-! ## Series of requests -/

def serve (session : Session) : List Request → List (Answer × List Event) × Session
  | [] => ([], session)
  | request :: requests =>
    let served := (session.step request).2.2.serve requests
    (((session.step request).1, (session.step request).2.1) :: served.1, served.2)

theorem run_append (readers : List Reader) (moves more : List Move) :
    run readers (moves ++ more) =
      ((run readers moves).1 ++ (run (run readers moves).2 more).1,
        (run (run readers moves).2 more).2) := by
  induction moves generalizing readers with
  | nil => rfl
  | cons move moves ih => simp only [List.cons_append, run, ih, List.append_assoc]

theorem serve_mirrors (h : session.Mirrors readers) (requests : List Request) :
    ∃ moves, (session.serve requests).2.Mirrors (run readers moves).2 ∧
      ∀ said ∈ (session.serve requests).1, ∀ token ∈ told said,
        .token (some token) ∈ (run readers moves).1 := by
  induction requests generalizing session readers with
  | nil => exact ⟨[], h, fun said member => absurd member List.not_mem_nil⟩
  | cons request requests ih =>
    obtain ⟨moves, mirrors, given⟩ := step_mirrors h request
    obtain ⟨more, reached, later⟩ := ih mirrors
    refine ⟨moves ++ more, ?_, List.forall_mem_cons.mpr ⟨fun token known => ?_,
      fun said member token known => ?_⟩⟩
    · rw [run_append]
      exact reached
    · rw [run_append]
      exact List.mem_append_left _ (given token known)
    · rw [run_append]
      exact List.mem_append_right _ (later said member token known)

/-- Whatever a session has been asked, each of its streams stands where so many requests for a token
would have left the one it started from, and each token that it has given out is one of the text,
told on its line. -/
theorem session_history (text : String) (offset : Nat) (requests : List Request) :
    let start := (Reader.opened text offset).stream
    let served := (Session.start start).serve requests
    (∀ stream ∈ served.2.current :: served.2.shelf, ∃ count,
      stream.cursor.toPlace = (start.after count).cursor.toPlace ∧
      stream.last = (start.tokens.take count).getLast? ∧
      stream.advance.1 = start.tokens[count]?) ∧
    ∀ said ∈ served.1, ∀ token ∈ told said, token ∈ start.tokens ∧ token.Lined text := by
  intro start served
  have opened : (Session.start start).Mirrors [.opened text offset] := List.Perm.refl _
  obtain ⟨moves, mirrors, given⟩ := serve_mirrors opened requests
  have first : ∀ reader ∈ [Reader.opened text offset], reader.Follows start :=
    Reader.follows_opened
  constructor
  · intro stream member
    obtain ⟨reader, known, rfl⟩ := List.mem_map.mp (mirrors.mem_iff.mp member)
    have history := follows_run first moves reader known
    refine ⟨reader.given.length, history.alike.place, ?_, history.advance_eq⟩
    rw [history.last_eq rfl, history.consumed_eq]
  · intro said member token known
    have one : token ∈ start.tokens :=
      run_answers first rfl (given said member token known)
    exact ⟨one, start.lined_tokens (Cursor.exact_ofOffset _ _) (Place.text_skip _ _) token one⟩

end Session

end ScriptTokens
