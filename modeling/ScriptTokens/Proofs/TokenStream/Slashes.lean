import ScriptTokens.Proofs.Text.Slice
import ScriptTokens.Proofs.TokenStream.Resuming

namespace ScriptTokens
open Text Lexeme

def Token.IsDividend (token : Token) : Prop :=
  token.kind = .ident ∨ token.kind = .number ∨ (token.kind = .keyword ∧ token.value = "this") ∨
    (token.kind = .operator ∧ (token.value = ")" ∨ token.value = "]"))

theorem Token.isOperand_iff (token : Token) : token.isOperand = true ↔ token.IsDividend := by
  obtain ⟨kind, value, line, span⟩ := token
  cases kind <;> simp [Token.isOperand, Token.IsDividend]

theorem any_isOperand_iff {last : Option Token} :
    last.any Token.isOperand = true ↔ ∃ operand ∈ last, operand.IsDividend := by
  simp [Option.any_eq_true, Token.isOperand_iff]

theorem operandBehind_concat (afterOperand : Bool) (front : List Segment) (last : Segment) :
    operandBehind afterOperand (front ++ [last]) = last.lexeme.isOperand := by
  induction front generalizing afterOperand with
  | nil => rfl
  | cons segment front ih => exact ih segment.lexeme.isOperand

theorem any_getLast?_listing (before : List Char) (pieces : List Segment) :
    (listing before pieces).getLast?.any Token.isOperand = operandBehind false pieces := by
  rcases pieces.eq_nil_or_concat with rfl | ⟨front, last, rfl⟩
  · rfl
  · rw [List.concat_eq_append, getLast?_listing, Option.any_some, Segment.isOperand_token,
      operandBehind_concat]

namespace Lexeme

theorem kind_readRegex (cs : List Char) : (readRegex cs).1.kind = .regex := by
  rw [readRegex]
  split <;> rfl

theorem Spelled.not_regex {growth : Growth} {lexeme : Lexeme}
    (h : Spelled true growth lexeme) : lexeme.kind ≠ .regex := by
  intro kind
  cases h with
  | regex after => cases after
  | openRegex after => cases after
  | _ => cases kind

theorem Stands.slash_cases {afterOperand : Bool} {lexeme : Lexeme} {rest behind : List Char}
    (h : Stands afterOperand lexeme rest) (start : lexeme.source ++ rest = '/' :: behind) :
    (['*', '*'] <+: behind ∧ lexeme.kind = .docComment) ∨
      (¬ ['*', '*'] <+: behind ∧
        ((afterOperand = true ∧ lexeme = verbatim .operator ['/']) ∨
          (afterOperand = false ∧ lexeme.kind = .regex))) := by
  obtain ⟨c, cs, whole, starts, read⟩ := read_of_stands h
  rw [start] at whole
  obtain ⟨rfl, rfl⟩ := List.cons.inj whole
  rw [read_slash] at read
  rcases stops_of_startsLexeme starts with stops | ⟨body, rfl⟩
  · have noStar : ¬ ['*', '*'] <+: behind := by
      rintro ⟨body, rfl⟩
      exact absurd (stops '*' rfl) (by decide)
    rw [readSlash_of_stops stops] at read
    refine .inr ⟨noStar, ?_⟩
    cases afterOperand with
    | true => exact .inl ⟨rfl, (Prod.mk.inj read).1.symm⟩
    | false =>
      have kind := kind_readRegex behind
      rw [show readRegex behind = (lexeme, rest) from read] at kind
      exact .inr ⟨rfl, kind⟩
  · obtain ⟨rfl, -⟩ := Prod.mk.inj read
    exact .inl ⟨⟨body, rfl⟩, rfl⟩

end Lexeme

def Token.IsDivision (token : Token) : Prop :=
  token.kind = .operator ∧ token.value = "/" ∧ token.span.stop = token.span.start + 1

/-- What a token is that starts with a slash, by the text behind the slash and the token before. -/
structure Token.SlashRead (last : Option Token) (behind : List Char) (token : Token) : Prop where
  documentation : token.kind = .docComment ↔ ['*', '*'] <+: behind
  division : ¬ ['*', '*'] <+: behind →
    (token.IsDivision ↔ ∃ operand ∈ last, operand.IsDividend)
  regex : ¬ ['*', '*'] <+: behind →
    (token.kind = .regex ↔ ∀ operand ∈ last, ¬ operand.IsDividend)

theorem earlier_eq_listing {before : List Char} {front more : List Segment} {segment : Segment}
    {earlier : List Token}
    (h : listing before (front ++ segment :: more) =
      earlier ++ segment.token (before ++ spell front) ::
        listing (before ++ spell (front ++ [segment])) more) :
    earlier = listing before front := by
  have behind : listing (before ++ spell front) (segment :: more) =
      segment.token (before ++ spell front) ::
        listing (before ++ spell (front ++ [segment])) more := by
    simp [listing]
  rw [listing_append, behind] at h
  exact (List.append_cancel_right h).symm

theorem exists_stands {text : String} {earlier later : List Token} {token : Token}
    (h : tokenize text = earlier ++ token :: later) :
    ∃ (before : List Char) (segment : Segment) (rest : List Char),
      text.toList = before ++ (segment.text ++ rest) ∧ token = segment.token before ∧
      Stands (earlier.getLast?.any Token.isOperand) segment.lexeme rest := by
  obtain ⟨tail, whole, -, series⟩ := exists_series false text.toList
  rw [tokenize_eq_listing] at h
  obtain ⟨front, segment, more, pieces, rfl, rfl⟩ := listing_eq_append h
  rw [pieces] at h whole series
  obtain ⟨-, behind⟩ := Series.append_iff.mp series
  cases behind with
  | cons _ stands _ =>
    refine ⟨spell front, segment, spell more ++ tail, by simp [whole], rfl, ?_⟩
    rwa [earlier_eq_listing h, any_getLast?_listing]

theorem isDivision_token {segment : Segment} (before : List Char)
    (h : segment.lexeme = verbatim .operator ['/']) : (segment.token before).IsDivision := by
  have slash : '/'.utf8Size = 1 := rfl
  simp [Token.IsDivision, Segment.token, Segment.text, h, verbatim, byteSize_append, slash,
    Nat.add_assoc]

theorem slashRead_of_stands {last : Option Token} {segment : Segment} {rest behind : List Char}
    (h : Stands (last.any Token.isOperand) segment.lexeme rest)
    (start : segment.lexeme.source ++ rest = '/' :: behind) (before : List Char) :
    (segment.token before).SlashRead last behind := by
  have kind_eq : (segment.token before).kind = segment.lexeme.kind := rfl
  obtain ⟨stars, documentation⟩ | ⟨noStars, ⟨after, lexeme⟩ | ⟨after, regex⟩⟩ := h.slash_cases start
  · exact ⟨iff_of_true documentation stars, absurd stars, absurd stars⟩
  · obtain ⟨operand, member, dividend⟩ := any_isOperand_iff.mp after
    have division := isDivision_token before lexeme
    refine ⟨iff_of_false ?_ noStars, fun _ => iff_of_true division ⟨operand, member, dividend⟩,
      fun _ => iff_of_false ?_ fun none => none operand member dividend⟩
    · rw [division.1]
      decide
    · rw [division.1]
      decide
  · have none : ¬ ∃ operand ∈ last, operand.IsDividend := by
      rw [← any_isOperand_iff, after]
      decide
    refine ⟨iff_of_false ?_ noStars, fun _ => iff_of_false ?_ none, fun _ => iff_of_true regex ?_⟩
    · rw [kind_eq, regex]
      decide
    · rintro ⟨operator, -⟩
      rw [kind_eq, regex] at operator
      cases operator
    · intro operand member dividend
      exact none ⟨operand, member, dividend⟩

/-- A token that starts with a slash is a documentation comment if two stars follow the slash, and
otherwise it divides if the token before it is an operand, and is a regular expression if not. So
no regular expression stands directly behind an operand, and every dividing slash does. -/
theorem slashes_by_operand {text : String} {earlier later : List Token} {token : Token}
    (h : tokenize text = earlier ++ token :: later) :
    (∀ before behind, text.toList = before ++ '/' :: behind → token.span.start = byteSize before →
      token.SlashRead earlier.getLast? behind) ∧
    (token.kind = .regex → ∀ operand ∈ earlier.getLast?, ¬ operand.IsDividend) ∧
    (token.kind = .operator → token.value = "/" →
      ∃ operand ∈ earlier.getLast?, operand.IsDividend) := by
  obtain ⟨front, segment, rest, whole, rfl, stands⟩ := exists_stands h
  refine ⟨?_, ?_, ?_⟩
  · intro before behind split start
    have parts : (front ++ segment.gap) ++ (segment.lexeme.source ++ rest) =
        before ++ '/' :: behind := by
      rw [← split, whole, Segment.text]
      simp
    exact slashRead_of_stands stands (append_inj_of_byteSize parts start).2 front
  · intro regex operand member dividend
    rw [any_isOperand_iff.mpr ⟨operand, member, dividend⟩] at stands
    obtain ⟨growth, spelled, -⟩ := stands
    exact spelled.not_regex regex
  · intro operator slash
    apply any_isOperand_iff.mp
    by_contra other
    rw [Bool.not_eq_true] at other
    rw [other] at stands
    obtain ⟨growth, spelled, -⟩ := stands
    apply spelled.not_division
    rw [← segment.has_division front, Token.has, operator, slash]
    rfl

theorem slashes_by_operand_across_comments :
    let text := "a /* 1 */ / /b/ /**/"
    let word : Token := ⟨.ident, "a", none, ⟨0, 1⟩⟩
    let division : Token := ⟨.operator, "/", none, ⟨10, 11⟩⟩
    let regex : Token := ⟨.regex, "/b/", none, ⟨12, 15⟩⟩
    let comment : Token := ⟨.docComment, "/**/", some 1, ⟨16, 20⟩⟩
    tokenize text = [word, division, regex, comment] ∧
      division.SlashRead (some word) " /b/ /**/".toList ∧
      regex.SlashRead (some division) "b/ /**/".toList ∧ ¬ division.IsDividend ∧
      comment.SlashRead (some regex) "**/".toList := by
  intro text word division regex comment
  have tokens : tokenize text = [word, division, regex, comment] := by decide +kernel
  have atDivision := @slashes_by_operand text [word] [regex, comment] division tokens
  have atRegex := @slashes_by_operand text [word, division] [comment] regex tokens
  have atComment := @slashes_by_operand text [word, division, regex] [] comment tokens
  exact ⟨tokens, atDivision.1 "a /* 1 */ ".toList _ (by decide) rfl,
    atRegex.1 "a /* 1 */ / ".toList _ (by decide) rfl, atRegex.2.1 rfl division rfl,
    atComment.1 "a /* 1 */ / /b/ ".toList _ (by decide) rfl⟩

end ScriptTokens
