import Mathlib.Data.List.Infix
import ScriptTokens.Proofs.Prompt.Continuation
import ScriptTokens.Proofs.TokenStream.Slashes

namespace ScriptTokens.Prompt
open Text Lexeme

/-! ## Brackets without a partner -/

structure Unmatched where
  closers : Nat
  openers : Nat
  deriving DecidableEq, Repr

def Unmatched.meet (unmatched : Unmatched) (token : Token) : Unmatched :=
  if token.opensBracket then { unmatched with openers := unmatched.openers + 1 }
  else if token.closesBracket then
    match unmatched.openers with
    | 0 => { unmatched with closers := unmatched.closers + 1 }
    | openers + 1 => { unmatched with openers }
  else unmatched

def unmatched (tokens : List Token) : Unmatched := tokens.foldl Unmatched.meet ⟨0, 0⟩

/-- Some of the last tokens hold more openers than closers. -/
def StopsInBrackets (tokens : List Token) : Prop :=
  ∃ last, last <:+ tokens ∧ last.countP Token.closesBracket < last.countP Token.opensBracket

theorem not_closesBracket {token : Token} (h : token.opensBracket = true) :
    token.closesBracket = false := by
  simp only [Token.opensBracket, Token.closesBracket, Bool.and_eq_true] at h ⊢
  obtain ⟨-, value⟩ := h
  rw [List.contains_iff_mem] at value
  simp only [List.mem_cons, List.not_mem_nil, or_false] at value
  rcases value with value | value | value <;> simp [value]

theorem unmatched_concat (tokens : List Token) (token : Token) :
    unmatched (tokens ++ [token]) = (unmatched tokens).meet token := by
  rw [unmatched, List.foldl_append]
  rfl

theorem Unmatched.meet_cases (unmatched : Unmatched) (token : Token) :
    (token.opensBracket = true ∧ token.closesBracket = false ∧
      unmatched.meet token = ⟨unmatched.closers, unmatched.openers + 1⟩) ∨
    (token.opensBracket = false ∧ token.closesBracket = true ∧
      (unmatched.openers = 0 ∧ unmatched.meet token = ⟨unmatched.closers + 1, 0⟩ ∨
        ∃ openers, unmatched.openers = openers + 1 ∧
          unmatched.meet token = ⟨unmatched.closers, openers⟩)) ∨
    (token.opensBracket = false ∧ token.closesBracket = false ∧
      unmatched.meet token = unmatched) := by
  obtain ⟨closers, openers⟩ := unmatched
  by_cases opens : token.opensBracket = true
  · exact .inl ⟨opens, not_closesBracket opens, by simp [meet, opens]⟩
  rw [Bool.not_eq_true] at opens
  by_cases closes : token.closesBracket = true
  · refine .inr (.inl ⟨opens, closes, ?_⟩)
    cases openers with
    | zero => exact .inl ⟨rfl, by simp [meet, opens, closes]⟩
    | succ openers => exact .inr ⟨openers, rfl, by simp [meet, opens, closes]⟩
  · rw [Bool.not_eq_true] at closes
    exact .inr (.inr ⟨opens, closes, by simp [meet, opens, closes]⟩)

theorem countP_unmatched (tokens : List Token) :
    tokens.countP Token.opensBracket + (unmatched tokens).closers =
      tokens.countP Token.closesBracket + (unmatched tokens).openers := by
  induction tokens using List.reverseRecOn with
  | nil => rfl
  | append_singleton tokens token ih =>
    rw [unmatched_concat, List.countP_append, List.countP_append, List.countP_singleton,
      List.countP_singleton]
    obtain ⟨opens, closes, met⟩ | ⟨opens, closes, ⟨none, met⟩ | ⟨openers, some, met⟩⟩ |
      ⟨opens, closes, met⟩ := (unmatched tokens).meet_cases token
    all_goals
      simp only [opens, closes, met]
      simp
      omega

theorem openers_unmatched (tokens : List Token) :
    (∀ last, last <:+ tokens → last.countP Token.opensBracket ≤
      last.countP Token.closesBracket + (unmatched tokens).openers) ∧
    ∃ last, last <:+ tokens ∧ last.countP Token.opensBracket =
      last.countP Token.closesBracket + (unmatched tokens).openers := by
  -- the last tokens are none, or one more token behind some of those before it
  induction tokens using List.reverseRecOn with
  | nil => exact ⟨by simp [unmatched], [], by simp [unmatched]⟩
  | append_singleton tokens token ih =>
    obtain ⟨most, last, isLast, reached⟩ := ih
    have longer : last ++ [token] <:+ tokens ++ [token] :=
      List.suffix_concat_iff.mpr (.inr ⟨last, rfl, isLast⟩)
    have cases_last {other : List Token} (h : other <:+ tokens ++ [token]) :
        other = [] ∨ ∃ front, other = front ++ [token] ∧ front.countP Token.opensBracket ≤
          front.countP Token.closesBracket + (unmatched tokens).openers := by
      refine (List.suffix_concat_iff.mp h).imp_right ?_
      rintro ⟨front, rfl, isFront⟩
      exact ⟨front, rfl, most front isFront⟩
    rw [unmatched_concat]
    obtain ⟨opens, closes, met⟩ | ⟨opens, closes, ⟨none, met⟩ | ⟨openers, some, met⟩⟩ |
      ⟨opens, closes, met⟩ := (unmatched tokens).meet_cases token
    all_goals
      rw [met]
      constructor
      · intro other suffix
        rcases cases_last suffix with rfl | ⟨front, rfl, bound⟩
        · simp
        · simp [List.countP_append, opens, closes]
          omega
    · exact ⟨last ++ [token], longer, by simp [List.countP_append, opens, closes]; omega⟩
    · exact ⟨[], List.nil_suffix, by simp⟩
    · exact ⟨last ++ [token], longer, by simp [List.countP_append, opens, closes]; omega⟩
    · exact ⟨last ++ [token], longer, by simp [List.countP_append, opens, closes]; omega⟩

theorem stopsInBrackets_iff (tokens : List Token) :
    StopsInBrackets tokens ↔ 0 < (unmatched tokens).openers := by
  obtain ⟨most, last, isLast, reached⟩ := openers_unmatched tokens
  constructor
  · rintro ⟨other, isOther, more⟩
    have := most other isOther
    omega
  · intro left
    exact ⟨last, isLast, by omega⟩

/-! ## Open strings and comments -/

def StopsInToken (input : String) (token : Token) : Prop :=
  ∃ before, token.span.start = byteSize before ∧
    ((token.kind = .string ∧
        ∃ quote body, input.toList = before ++ quote :: body ∧ OpenBody quote body) ∨
      (token.kind = .docComment ∧
        ∃ body, input.toList = before ++ '/' :: '*' :: body ∧ ¬ ['*', '/'] <:+: body))

def StopsInComment (input : String) : Prop :=
  ∃ before gap body, input.toList = before ++ (gap ++ '/' :: '*' :: body) ∧
    (tokenize input).getLast?.elim 0 (·.span.stop) = byteSize before ∧
    Gap gap ∧ body.head? ≠ some '*' ∧ ¬ ['*', '/'] <:+: body

def StopsInside (input : String) : Prop :=
  (∃ token ∈ (tokenize input).getLast?, StopsInToken input token) ∨ StopsInComment input

theorem not_openBody_of_closed {mark : Char} (notEscape : mark ≠ '\\') {body rest : List Char}
    (h : LiteralBody mark body) : ¬ OpenBody mark (body ++ mark :: rest) := by
  intro isOpen
  have cut := splitLiteral_append notEscape h rest
  rw [splitLiteral_openBody isOpen] at cut
  cases (Prod.mk.inj cut).2

theorem growth_of_openString {operand : Bool} {growth : Growth} {lexeme : Lexeme}
    (spelled : Spelled operand growth lexeme) (string : lexeme.kind = .string) {quote : Char}
    {body rest : List Char} (source : lexeme.source ++ rest = quote :: body)
    (isOpen : OpenBody quote body) : growth = .anything := by
  cases spelled with
  | @string mark inside isQuote closed =>
    simp only [List.cons_append, List.append_assoc, List.nil_append, List.cons.injEq] at source
    obtain ⟨rfl, rfl⟩ := source
    exact absurd isOpen (not_openBody_of_closed (quote_ne_escape isQuote) closed)
  | openString => rfl
  | _ => cases string

theorem growth_of_openComment {operand : Bool} {growth : Growth} {lexeme : Lexeme}
    (spelled : Spelled operand growth lexeme) (comment : lexeme.kind = .docComment)
    {body rest : List Char} (source : lexeme.source ++ rest = '/' :: '*' :: body)
    (isOpen : ¬ ['*', '/'] <:+: body) : growth = .anything := by
  cases spelled with
  | @documentation inside =>
    simp only [verbatim, List.cons_append, List.append_assoc, List.nil_append,
      List.cons.injEq, true_and] at source
    exact absurd ⟨inside, rest, by simpa using source⟩ isOpen
  | openDocumentation => rfl
  | _ => cases comment

theorem stopsInToken_iff {input : String} {token : Token}
    (last : (tokenize input).getLast? = some token) :
    StopsInToken input token ↔ isUnterminated token = true := by
  obtain ⟨earlier, split⟩ := List.getLast?_eq_some_iff.mp last
  obtain ⟨front, ⟨gap, lexeme⟩, rest, whole, rfl, growth, spelled, stops⟩ := exists_stands split
  have start : (Segment.token front ⟨gap, lexeme⟩).span.start = byteSize (front ++ gap) := rfl
  have text : input.toList = (front ++ gap) ++ (lexeme.source ++ rest) := by
    simp [whole, Segment.text]
  rw [isUnterminated_iff spelled]
  constructor
  · rintro ⟨before, size, ⟨string, quote, body, again, isOpen⟩ | ⟨comment, body, again, isOpen⟩⟩
    · have source := (append_inj_of_byteSize (text.symm.trans again) (start.symm.trans size)).2
      have string : lexeme.kind = .string := string
      exact ⟨growth_of_openString spelled string source isOpen, by simp [string]⟩
    · have source := (append_inj_of_byteSize (text.symm.trans again) (start.symm.trans size)).2
      have comment : lexeme.kind = .docComment := comment
      exact ⟨growth_of_openComment spelled comment source isOpen, by simp [comment]⟩
  · rintro ⟨rfl, notRegex⟩
    obtain rfl := stops_anything_iff.mp stops
    rw [List.append_nil] at text
    refine ⟨front ++ gap, start, ?_⟩
    cases spelled with
    | openString _ inside => exact .inl ⟨rfl, _, _, text, inside⟩
    | openDocumentation _ inside => exact .inr ⟨rfl, _, text, inside⟩
    | openRegex => exact absurd rfl notRegex

theorem stop_getLast?_listing (before : List Char) (pieces : List Segment) :
    (listing before pieces).getLast?.elim (byteSize before) (·.span.stop) =
      byteSize (before ++ spell pieces) := by
  rcases pieces.eq_nil_or_concat with rfl | ⟨front, last, rfl⟩
  · simp [listing]
  · rw [List.concat_eq_append, getLast?_listing]
    simp [Segment.token]

theorem stopsInComment_iff {input : String} :
    StopsInComment input ↔
      endsInOpenComment .blank (TokenStream.ofText input).remainder = true := by
  obtain ⟨tail, whole, final, series⟩ := exists_series false input.toList
  have stop := stop_getLast?_listing [] (segments false input.toList)
  rw [← tokenize_eq_listing, List.nil_append] at stop
  rw [remainder_ofText series whole]
  constructor
  · rintro ⟨before, gap, body, again, size, isGap, ordinary, isOpen⟩
    have tail_eq := (append_inj_of_byteSize (whole.symm.trans again) (stop.symm.trans size)).2
    rw [tail_eq, endsInOpenComment_gap isGap, endsInOpenComment_blockOpener,
      endsInOpenComment_openBlock isOpen]
  · intro openComment
    obtain ⟨gap, comment, isGap, isComment, rfl⟩ := final
    rw [endsInOpenComment_gap isGap] at openComment
    rcases isComment with rfl | isComment
    · cases openComment
    cases isComment with
    | line inLine =>
      rw [endsInOpenComment_lineOpener, endsInOpenComment_openLine inLine] at openComment
      cases openComment
    | block ordinary isOpen => exact ⟨_, gap, _, whole, stop, isGap, ordinary, isOpen⟩

/-! ## Inputs -/

theorem stopsInside_iff (input : String) :
    StopsInside input ↔ ((tokenize input).getLast?.any isUnterminated ||
      endsInOpenComment .blank (TokenStream.ofText input).remainder) = true := by
  rw [Bool.or_eq_true, Option.any_eq_true, ← stopsInComment_iff]
  apply or_congr_left
  exact exists_congr fun token => and_congr_right fun last => stopsInToken_iff last

/-- An input needs more if it stops inside a string or a comment, or if its openers outnumber its
closers. -/
theorem needsMore_iff (input : String) :
    needsMore input = true ↔ StopsInside input ∨
      (tokenize input).countP Token.closesBracket < (tokenize input).countP Token.opensBracket := by
  have depth : 0 < bracketDepth (tokenize input) ↔
      (tokenize input).countP Token.closesBracket < (tokenize input).countP Token.opensBracket := by
    rw [bracketDepth_eq]
    omega
  rw [needsMore, Bool.or_assoc, Bool.or_eq_true, ← stopsInside_iff, decide_eq_true_iff, depth,
    or_comm]

/-- Away from open strings and comments an input needs more exactly when fewer closers are stray
than openers are left over. So it stops inside brackets when it needs more, and it needs more when
it stops inside brackets unless a closer is stray. -/
theorem needsMore_iff_of_not_stopsInside {input : String} (outside : ¬ StopsInside input) :
    (needsMore input = true ↔
      (unmatched (tokenize input)).closers < (unmatched (tokenize input)).openers) ∧
    (StopsInBrackets (tokenize input) ↔ 0 < (unmatched (tokenize input)).openers) ∧
    (needsMore input = true → StopsInBrackets (tokenize input)) ∧
    ((∀ first, first <+: tokenize input →
        first.countP Token.closesBracket ≤ first.countP Token.opensBracket) →
      (needsMore input = true ↔ StopsInBrackets (tokenize input))) := by
  have more := needsMore_iff input
  rw [or_iff_right outside] at more
  have balance := countP_unmatched (tokenize input)
  have inside := stopsInBrackets_iff (tokenize input)
  refine ⟨?_, inside, ?_, ?_⟩
  · rw [more]
    omega
  · rw [more, inside]
    omega
  · intro noStray
    rw [more]
    constructor
    · exact fun excess => ⟨_, List.suffix_rfl, excess⟩
    · rintro ⟨last, ⟨first, split⟩, excess⟩
      have before := noStray first ⟨last, split⟩
      rw [← split, List.countP_append, List.countP_append]
      omega

theorem needsMore_iff_of_not_stopsInside_at_hidden_brackets :
    let input := "f(']', [1] // )"
    ¬ StopsInside input ∧
      (∀ first, first <+: tokenize input →
        first.countP Token.closesBracket ≤ first.countP Token.opensBracket) ∧
      needsMore input = true ∧ StopsInBrackets (tokenize input) := by
  intro input
  have outside : ¬ StopsInside input := by
    rw [stopsInside_iff]
    decide +kernel
  have noStray : ∀ first, first <+: tokenize input →
      first.countP Token.closesBracket ≤ first.countP Token.opensBracket := by
    simp only [← List.mem_inits]
    decide +kernel
  have more : needsMore input = true := by decide +kernel
  have inside := (needsMore_iff_of_not_stopsInside outside).2.2.2 noStray
  exact ⟨outside, noStray, more, inside.mp more⟩

/-- A stray closer hides the bracket that is opened behind it. -/
theorem needsMore_behind_stray_closer :
    let input := ")("
    ¬ StopsInside input ∧ StopsInBrackets (tokenize input) ∧ needsMore input = false := by
  intro input
  have outside : ¬ StopsInside input := by
    rw [stopsInside_iff]
    decide +kernel
  have inside : StopsInBrackets (tokenize input) := by
    rw [stopsInBrackets_iff]
    decide +kernel
  exact ⟨outside, inside, by decide +kernel⟩

end ScriptTokens.Prompt
