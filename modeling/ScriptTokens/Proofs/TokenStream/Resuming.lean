import ScriptTokens.Proofs.Lexeme.Series
import ScriptTokens.Proofs.TokenStream.Suffix

namespace ScriptTokens
open Text Lexeme

namespace Lexeme

def IsDivision (lexeme : Lexeme) : Prop := lexeme.kind = .operator ∧ lexeme.value = ['/']

theorem Spelled.not_division {growth : Growth} {lexeme : Lexeme}
    (h : Spelled false growth lexeme) : ¬ lexeme.IsDivision := by
  rintro ⟨kind, value⟩
  cases h with
  | division after => cases after
  | @symbol c symbol =>
    obtain rfl := (List.cons.inj value).1
    exact absurd symbol (by decide)
  | _ => cases kind

theorem Spelled.forget {afterOperand : Bool} {growth : Growth} {lexeme : Lexeme}
    (h : Spelled afterOperand growth lexeme) (other : ¬ lexeme.IsDivision) :
    Spelled false growth lexeme := by
  cases h with
  | keyword reserved => exact .keyword reserved
  | ident first parts notReserved => exact .ident first parts notReserved
  | dollar parts => exact .dollar parts
  | whole first digits => exact .whole first digits
  | decimal first digits decimals => exact .decimal first digits decimals
  | string isQuote inside => exact .string isQuote inside
  | openString isQuote inside => exact .openString isQuote inside
  | documentation inside => exact .documentation inside
  | openDocumentation star inside => exact .openDocumentation star inside
  | regex _ inside first flags => exact .regex rfl inside first flags
  | openRegex _ inside first => exact .openRegex rfl inside first
  | division _ => exact absurd ⟨rfl, rfl⟩ other
  | symbol symbol => exact .symbol symbol

end Lexeme

theorem Segment.has_division (segment : Segment) (before : List Char) :
    (segment.token before).has .operator "/" = true ↔ segment.lexeme.IsDivision := by
  rw [Token.has, Segment.token, ofList_beq, Bool.and_eq_true, beq_iff_eq, beq_iff_eq]
  rfl

theorem Segment.cut_forget {afterOperand : Bool} {text rest : List Char} {segment : Segment}
    (h : cut afterOperand text = some (segment, rest)) (other : ¬ segment.lexeme.IsDivision) :
    cut false text = some (segment, rest) := by
  obtain ⟨isSegment, whole⟩ := cut_eq_some h
  obtain ⟨growth, spelled, behind⟩ := stands_of_cut h
  rw [whole]
  exact cut_of_stands isSegment.gap ⟨growth, spelled.forget other, behind⟩

theorem not_division_of_head?_segments {text : List Char} :
    ∀ segment ∈ (segments false text).head?, ¬ segment.lexeme.IsDivision := by
  cases hcut : Segment.cut false text with
  | none => simp [segments_of_cut_none hcut]
  | some cut =>
    obtain ⟨growth, spelled, -⟩ := Segment.stands_of_cut hcut
    rw [segments_of_cut_some hcut]
    rintro segment ⟨rfl⟩
    exact spelled.not_division

theorem segments_forget {afterOperand : Bool} {text : List Char}
    (other : ∀ segment ∈ (segments afterOperand text).head?, ¬ segment.lexeme.IsDivision) :
    segments false text = segments afterOperand text := by
  cases hcut : Segment.cut afterOperand text with
  | none =>
    have final := Segment.cut_eq_none_iff.mp hcut
    rw [segments_of_cut_none hcut, segments_of_cut_none (Segment.cut_eq_none_iff.mpr final)]
  | some cut =>
    rw [segments_of_cut_some hcut] at other ⊢
    rw [segments_of_cut_some (Segment.cut_forget hcut (other _ rfl))]

theorem head?_listing (before : List Char) (pieces : List Segment) :
    (listing before pieces).head? = pieces.head?.map (Segment.token before) := by
  cases pieces with
  | nil => rfl
  | cons segment more => rfl

theorem listing_forget_iff {afterOperand : Bool} {before text : List Char} :
    listing before (segments false text) = listing before (segments afterOperand text) ↔
      ∀ token ∈ (listing before (segments afterOperand text)).head?,
        token.has .operator "/" = false := by
  -- without an operand before it no first token divides
  constructor
  · intro same token first
    rw [← same, head?_listing, Option.mem_def, Option.map_eq_some_iff] at first
    obtain ⟨segment, first, rfl⟩ := first
    rw [← Bool.not_eq_true, segment.has_division]
    exact not_division_of_head?_segments segment first
  · intro other
    rw [segments_forget]
    intro segment first
    rw [← segment.has_division before, Bool.not_eq_true]
    apply other
    rw [head?_listing, first]
    rfl

theorem listing_eq_append {before : List Char} {pieces : List Segment} {token : Token}
    {earlier later : List Token} (h : listing before pieces = earlier ++ token :: later) :
    ∃ front segment more, pieces = front ++ segment :: more ∧
      token = segment.token (before ++ spell front) ∧
      later = listing (before ++ spell (front ++ [segment])) more := by
  induction earlier generalizing before pieces with
  | nil =>
    cases pieces with
    | nil => cases h
    | cons segment more =>
      obtain ⟨rfl, rfl⟩ := List.cons.inj h
      exact ⟨[], segment, more, rfl, by simp, by simp⟩
  | cons first earlier ih =>
    cases pieces with
    | nil => cases h
    | cons segment more =>
      obtain ⟨-, h⟩ := List.cons.inj h
      obtain ⟨front, other, behind, rfl, rfl, rfl⟩ := ih h
      exact ⟨segment :: front, other, behind, rfl, by simp, by simp⟩

/-- A stream that starts where a token of a text ends gives the tokens behind it, if there are any,
exactly when the first of these is not a slash that divides. -/
theorem tokens_resumed {text : String} {token : Token} {earlier later : List Token}
    (h : tokenize text = earlier ++ token :: later) :
    (TokenStream.ofCursor (.ofOffset text.toList token.span.stop)).tokens = later ↔
      later = [] ∨ ∃ next ∈ later.head?, next.has .operator "/" = false := by
  obtain ⟨tail, whole, final, series⟩ := exists_series false text.toList
  rw [tokenize_eq_listing] at h
  obtain ⟨front, segment, more, pieces, rfl, rfl⟩ := listing_eq_append h
  rw [pieces] at whole series
  obtain ⟨-, behind⟩ := Series.append_iff.mp series
  cases behind with
  | cons _ _ behind =>
    let before := spell (front ++ [segment])
    have text_eq : text.toList = before ++ (spell more ++ tail) := by
      simp [whole, before]
    have stop : (segment.token ([] ++ spell front)).span.stop = byteSize before := by
      simp [Segment.token, before]
    have forget := @listing_forget_iff segment.lexeme.isOperand before (spell more ++ tail)
    rw [segments_of_series behind final] at forget
    rw [text_eq, stop, TokenStream.tokens_ofOffset_byteSize, List.nil_append, forget]
    cases listing before more with
    | nil => simp
    | cons next later => simp

theorem tokens_resumed_at_slashes :
    let text := "x /* a */ / /b/g"
    let word : Token := ⟨.ident, "x", none, ⟨0, 1⟩⟩
    let division : Token := ⟨.operator, "/", none, ⟨10, 11⟩⟩
    let regex : Token := ⟨.regex, "/b/g", none, ⟨12, 16⟩⟩
    let tokensFrom (offset : Nat) := (TokenStream.ofCursor (.ofOffset text.toList offset)).tokens
    tokenize text = [word, division, regex] ∧ tokensFrom word.span.stop ≠ [division, regex] ∧
      tokensFrom division.span.stop = [regex] := by
  intro text word division regex tokensFrom
  have tokens : tokenize text = [word, division, regex] := by
    decide +kernel
  have behindWord := @tokens_resumed text word [] [division, regex] tokens
  have behindDivision := @tokens_resumed text division [word] [regex] tokens
  refine ⟨tokens, ?_, behindDivision.mpr (.inr ⟨regex, rfl, by decide⟩)⟩
  rw [Ne, behindWord]
  decide

end ScriptTokens
