import ScriptTokens.Proofs.TokenStream.Draining

namespace ScriptTokens.TokenStream

/-- What the next requests for a token give, one after the other, meets a pattern. -/
def Meets (stream : TokenStream) (pattern : List Expectation) : Prop :=
  ∀ i (h : i < pattern.length), ∃ token,
    (stream.after i).advance.1 = some token ∧ pattern[i].accepts token = true

theorem meets_nil (stream : TokenStream) : stream.Meets [] := by
  intro i h
  exact absurd h (Nat.not_lt_zero i)

theorem meets_cons {stream : TokenStream} {element : Expectation} {more : List Expectation} :
    stream.Meets (element :: more) ↔ ∃ token,
      stream.advance.1 = some token ∧ element.accepts token = true ∧
        stream.advance.2.Meets more := by
  constructor
  · intro met
    obtain ⟨token, given, accepted⟩ := met 0 (Nat.zero_lt_succ _)
    refine ⟨token, given, accepted, ?_⟩
    intro i h
    exact met (i + 1) (Nat.succ_lt_succ h)
  · rintro ⟨token, given, accepted, met⟩ i h
    cases i with
    | zero => exact ⟨token, given, accepted⟩
    | succ i => exact met i (Nat.lt_of_succ_lt_succ h)

theorem length_of_drop {pattern more : List Expectation} {element : Expectation} {n : Nat}
    (left : pattern.drop n = element :: more) : pattern.length = n + more.length + 1 := by
  have := congrArg List.length left
  simp only [List.length_drop, List.length_cons] at this
  omega

theorem probe_step {pattern more : List Expectation} {element : Expectation} {last : Option Token}
    {read : List Token} {cursor : Cursor} (left : pattern.drop read.length = element :: more) :
    pullFrom (wantsMatch pattern) last ⟨read, cursor, read.length⟩ =
      match (⟨cursor, read.head?.or last⟩ : TokenStream).advance with
      | (none, next) => ⟨read, next.cursor, read.length⟩
      | (some token, next) =>
        if element.accepts token then
          if more = [] then ⟨token :: read, next.cursor, read.length + 1⟩
          else pullFrom (wantsMatch pattern) last ⟨token :: read, next.cursor, read.length + 1⟩
        else ⟨token :: read, next.cursor, read.length⟩ := by
  have asked : pattern[read.length]? = some element := by
    rw [← List.head?_drop, left, List.head?_cons]
  have length_eq := length_of_drop left
  have wanted : read.length + 1 < pattern.length ↔ more ≠ [] := by
    rw [length_eq, ← List.length_pos_iff]
    omega
  rw [pullFrom, advance_eq]
  split
  · rename_i next reading
    simp [reading]
  · rename_i token next reading
    simp only [reading, wantsMatch, asked, Option.any_some]
    by_cases accepted : element.accepts token = true
    · by_cases ended : more = [] <;> simp [accepted, wanted, ended]
    · simp [accepted]

structure ProbeEnds (pattern rest : List Expectation) (stream : TokenStream) (read : List Token)
    (pulled : Pulled Nat) : Prop where
  met : pulled.state = pattern.length ↔ stream.Meets rest
  ahead : ∃ ahead : List Token, pulled.tokens = ahead.reverse ++ read ∧
    ahead.length ≤ rest.length ∧ ∀ i < ahead.length, ahead[i]? = (stream.after i).advance.1

namespace ProbeEnds
variable {pattern more : List Expectation} {element : Expectation} {stream next : TokenStream}
  {read : List Token} {token : Token} {cursor : Cursor} {met : Nat}

theorem exhausted (advanced : stream.advance = (none, next)) (unmet : met ≠ pattern.length) :
    ProbeEnds pattern (element :: more) stream read ⟨read, cursor, met⟩ := by
  constructor
  · simp [meets_cons, advanced, unmet]
  · exact ⟨[], rfl, Nat.zero_le _, fun i h => absurd h (Nat.not_lt_zero i)⟩

theorem first_of_advance (advanced : stream.advance = (some token, next)) :
    ∀ i < [token].length, [token][i]? = (stream.after i).advance.1 := by
  intro i h
  obtain rfl : i = 0 := by simpa using h
  rw [after, advanced]
  rfl

theorem refused (advanced : stream.advance = (some token, next)) (unmet : met ≠ pattern.length)
    (refuses : ¬ element.accepts token = true) :
    ProbeEnds pattern (element :: more) stream read ⟨token :: read, cursor, met⟩ := by
  constructor
  · simp [meets_cons, advanced, refuses, unmet]
  · exact ⟨[token], rfl, Nat.succ_le_succ (Nat.zero_le _), first_of_advance advanced⟩

theorem completed (advanced : stream.advance = (some token, next)) (all : met = pattern.length)
    (accepts : element.accepts token = true) :
    ProbeEnds pattern [element] stream read ⟨token :: read, cursor, met⟩ := by
  constructor
  · simp [meets_cons, advanced, all, accepts, meets_nil]
  · exact ⟨[token], rfl, Nat.le_refl _, first_of_advance advanced⟩

theorem further (advanced : stream.advance = (some token, next))
    (accepts : element.accepts token = true) {pulled : Pulled Nat}
    (ends : ProbeEnds pattern more next (token :: read) pulled) :
    ProbeEnds pattern (element :: more) stream read pulled := by
  obtain ⟨met, ahead, tokens, short, follows⟩ := ends
  constructor
  · simp only [meets_cons, advanced]
    simpa [accepts] using met
  · refine ⟨token :: ahead, ?_, Nat.succ_le_succ short, ?_⟩
    · simpa using tokens
    · intro i h
      cases i with
      | zero =>
        rw [after, advanced]
        rfl
      | succ i =>
        rw [after, advanced]
        exact follows i (Nat.lt_of_succ_lt_succ h)

end ProbeEnds

theorem probe_ends {pattern : List Expectation} (last : Option Token) (rest : List Expectation)
    (nonempty : rest ≠ []) (read : List Token) (cursor : Cursor)
    (left : pattern.drop read.length = rest) :
    ProbeEnds pattern rest ⟨cursor, read.head?.or last⟩ read
      (pullFrom (wantsMatch pattern) last ⟨read, cursor, read.length⟩) := by
  induction rest generalizing read cursor with
  | nil => exact absurd rfl nonempty
  | cons element more ih =>
    have length_eq := length_of_drop left
    have unmet : read.length ≠ pattern.length := by omega
    rw [probe_step left]
    generalize (⟨cursor, read.head?.or last⟩ : TokenStream) = stream
    rcases advanced : stream.advance with ⟨_ | token, next⟩
    · exact .exhausted advanced unmet
    · by_cases accepts : element.accepts token = true
      · simp only [accepts, if_true]
        by_cases ended : more = []
        · subst ended
          exact .completed advanced length_eq.symm accepts
        · have left' : pattern.drop (token :: read).length = more := by
            rw [List.length_cons, ← List.drop_drop, left]
            rfl
          have rests := ih ended (token :: read) next.cursor left'
          have same : (⟨next.cursor, (token :: read).head?.or last⟩ : TokenStream) = next := by
            rw [List.head?_cons, Option.some_or, ← last_of_advance advanced]
          rw [same] at rests
          rw [if_neg ended]
          exact .further advanced accepts rests
      · simp only [accepts]
        exact .refused advanced unmet accepts

theorem look_eq_true_iff (stream : TokenStream) (pattern : List Expectation) :
    (stream.look pattern).1 = true ↔ stream.Meets pattern := by
  cases pattern with
  | nil => simp [look, meets_nil]
  | cons element more =>
    have ends := probe_ends stream.last (element :: more) (List.cons_ne_nil _ _) []
      stream.cursor rfl
    simpa [look, probe, pull] using ends.met

/-- A look ahead says what as many requests for a token would say, of the tokens that they would
give, and asks for no element that the pattern does not have. -/
theorem look_meets (stream : TokenStream) (pattern : List Expectation) :
    ((stream.look pattern).1 = true ↔ stream.Meets pattern) ∧
      (pattern ≠ [] →
        let read := (stream.probe pattern).1.tokens.reverse
        read.length ≤ pattern.length ∧
          ∀ i < read.length, read[i]? = (stream.after i).advance.1) ∧
      stream.peek.1 = stream.advance.1 ∧
      (stream.isEmpty.1 = true ↔ stream.advance.1 = none) := by
  refine ⟨stream.look_eq_true_iff pattern, ?_, ?_, ?_⟩
  · intro nonempty
    obtain ⟨ahead, tokens, short, follows⟩ :=
      (probe_ends stream.last pattern nonempty [] stream.cursor rfl).ahead
    have read_eq : (stream.probe pattern).1.tokens.reverse = ahead :=
      (congrArg List.reverse tokens).trans (by rw [List.append_nil, List.reverse_reverse])
    rw [read_eq]
    exact ⟨short, follows⟩
  · exact stream.peek_eq_advance
  · simp [isEmpty_eq, advance_eq]

end ScriptTokens.TokenStream
