import ScriptTokens.Proofs.Lexeme.Series
import ScriptTokens.Proofs.TokenStream.Reading

namespace ScriptTokens
open Text

namespace Lexeme

def IsName (source : List Char) : Prop :=
  ∃ c cs, source = c :: cs ∧ (isWordStart c = true ∨ c = '$') ∧ ∀ d ∈ cs, isWordPart d = true

def IsDigits (digits : List Char) : Prop := ∀ d ∈ digits, d.isDigit = true

def RunsOut (mark : Char) (source rest : List Char) : Prop :=
  rest = [] ∧ ∃ body, OpenBody mark body ∧ source = mark :: body

/-- The sources of a kind, as long as they can be before the text that follows. -/
def Longest (source rest : List Char) : Kind → Prop
  | .keyword => String.ofList source ∈ reservedWords ∧ Stops isWordPart rest
  | .ident => IsName source ∧ String.ofList source ∉ reservedWords ∧ Stops isWordPart rest
  | .number => ∃ digits, digits ≠ [] ∧ IsDigits digits ∧
      ((source = digits ∧ Stops isPointOrDigit rest) ∨
        ∃ decimals, IsDigits decimals ∧ source = digits ++ '.' :: decimals ∧
          Stops Char.isDigit rest)
  | .string => ∃ quote, (quote = '\'' ∨ quote = '"') ∧
      (IsClosed quote source ∨ RunsOut quote source rest)
  | .regex =>
      (∃ body flags, LiteralBody '/' body ∧ (∀ d ∈ flags, isFlag d = true) ∧
        source = '/' :: body ++ '/' :: flags ∧ Stops isFlag rest) ∨
      RunsOut '/' source rest
  | .docComment => ['/', '*', '*'] <+: source ∧
      ((∃ body, ¬ ['*', '/'] <:+: body ++ ['*'] ∧ source = '/' :: '*' :: (body ++ ['*', '/'])) ∨
        (rest = [] ∧ ¬ ['*', '/'] <:+: source.drop 2))
  | .operator => ∃ c, source = [c] ∧ isBlank c = false ∧ isWordPart c = false ∧
      c ∉ ['$', '\'', '"']

/-- The kinds that a first character allows. -/
def Opens (source : List Char) (c : Char) (kind : Kind) : Prop :=
  if isWordStart c then kind = .ident ∨ kind = .keyword
  else if c = '$' then kind = .ident
  else if c.isDigit then kind = .number
  else if c = '\'' ∨ c = '"' then kind = .string
  else if c = '/' then kind = .docComment ∨ kind = .regex ∨ (kind = .operator ∧ source = ['/'])
  else kind = .operator

theorem longest_of_stands {afterOperand : Bool} {lexeme : Lexeme} {rest : List Char}
    (h : Stands afterOperand lexeme rest) : Longest lexeme.source rest lexeme.kind := by
  obtain ⟨growth, spelled, behind⟩ := h
  cases spelled with
  | keyword reserved => exact ⟨reserved, behind⟩
  | ident first parts other => exact ⟨⟨_, _, rfl, .inl first, parts⟩, other, behind⟩
  | @dollar cs parts =>
    have other : String.ofList ('$' :: cs) ∉ reservedWords := by
      intro reserved
      have first := (reservedWords_spelled _ reserved).1
      rw [String.toList_ofList, List.head?_cons] at first
      exact absurd first (by decide)
    exact ⟨⟨_, _, rfl, .inr rfl, parts⟩, other, behind⟩
  | whole first digits =>
    exact ⟨_, List.cons_ne_nil _ _, List.forall_mem_cons.mpr ⟨first, digits⟩,
      .inl ⟨rfl, behind⟩⟩
  | decimal first digits decimals =>
    exact ⟨_, List.cons_ne_nil _ _, List.forall_mem_cons.mpr ⟨first, digits⟩,
      .inr ⟨_, decimals, rfl, behind⟩⟩
  | string isQuote inside => exact ⟨_, isQuote, .inl ⟨_, inside, rfl⟩⟩
  | openString isQuote inside =>
    exact ⟨_, isQuote, .inr ⟨stops_anything_iff.mp behind, _, inside, rfl⟩⟩
  | @documentation body inside =>
    refine ⟨?_, .inl ⟨body, inside.2, rfl⟩⟩
    cases body with
    | nil => exact ⟨['/'], rfl⟩
    | cons c body =>
      obtain rfl : c = '*' := by simpa using inside.1
      exact ⟨body ++ ['*', '/'], rfl⟩
  | openDocumentation star inside =>
    obtain ⟨more, rfl⟩ := List.head?_eq_some_iff.mp star
    exact ⟨⟨more, rfl⟩, .inr ⟨stops_anything_iff.mp behind, inside⟩⟩
  | regex after inside first flags => exact .inl ⟨_, _, inside, flags, rfl, behind⟩
  | openRegex after inside first =>
    exact .inr ⟨stops_anything_iff.mp behind, _, inside, rfl⟩
  | division after => exact ⟨'/', rfl, by decide⟩
  | @symbol c symbol =>
    simp [isSymbol] at symbol
    exact ⟨c, rfl, by simp [symbol]⟩

theorem opens_number {c : Char} (first : c.isDigit = true) (source : List Char) :
    Opens source c .number := by
  have notDollar : c ≠ '$' := by
    rintro rfl
    exact absurd first (by decide)
  rw [Opens, if_neg (by simp [not_isWordStart_of_isDigit first]), if_neg notDollar, if_pos first]

theorem opens_of_spelled {afterOperand : Bool} {growth : Growth} {lexeme : Lexeme}
    (h : Spelled afterOperand growth lexeme) :
    ∃ c cs, lexeme.source = c :: cs ∧ Opens lexeme.source c lexeme.kind := by
  cases h with
  | @keyword word reserved =>
    have first := (reservedWords_spelled _ reserved).1
    rw [String.toList_ofList] at first
    cases word with
    | nil => cases first
    | cons c cs =>
      refine ⟨c, cs, rfl, ?_⟩
      rw [List.head?_cons, Option.any_some] at first
      rw [Opens, if_pos first]
      exact .inr rfl
  | ident first =>
    refine ⟨_, _, rfl, ?_⟩
    rw [Opens, if_pos first]
    exact .inl rfl
  | dollar => exact ⟨_, _, rfl, rfl⟩
  | @whole c _ first => exact ⟨_, _, rfl, opens_number first _⟩
  | decimal first => exact ⟨_, _, rfl, opens_number first _⟩
  | string isQuote | openString isQuote =>
    refine ⟨_, _, rfl, ?_⟩
    rcases isQuote with rfl | rfl <;> rfl
  | documentation | openDocumentation => exact ⟨_, _, rfl, .inl rfl⟩
  | regex | openRegex => exact ⟨_, _, rfl, .inr (.inl rfl)⟩
  | division => exact ⟨_, _, rfl, .inr (.inr ⟨rfl, rfl⟩)⟩
  | symbol symbol =>
    refine ⟨_, _, rfl, ?_⟩
    simp [isSymbol, isWordPart, Char.isAlphanum] at symbol
    simp [Opens, isWordStart, symbol]
    rfl

end Lexeme

theorem Series.mem_listing {afterOperand : Bool} {pieces : List Segment} {before rest : List Char}
    {token : Token} (h : Series afterOperand pieces rest) (member : token ∈ listing before pieces) :
    ∃ (front : List Char) (segment : Segment) (behind : List Char) (operand : Bool),
      token = segment.token (before ++ front) ∧
      spell pieces ++ rest = front ++ segment.text ++ behind ∧
      Lexeme.Stands operand segment.lexeme behind := by
  induction h generalizing before with
  | nil => exact absurd member List.not_mem_nil
  | @cons afterOperand segment more rest _ stands _ ih =>
    rw [listing] at member
    rcases List.mem_cons.mp member with rfl | member
    · exact ⟨[], segment, _, _, by rw [List.append_nil], by simp, stands⟩
    · obtain ⟨front, other, behind, operand, rfl, whole, stands⟩ := ih member
      refine ⟨segment.text ++ front, other, behind, operand, by rw [List.append_assoc], ?_, stands⟩
      rw [spell_cons, List.append_assoc, whole]
      simp

/-- The token takes a piece of the text that is the longest of its kind, and its first character
allows the kind. -/
def Token.IsLongest (text : String) (token : Token) : Prop :=
  ∃ before c cs rest, text.toList = before ++ (c :: cs) ++ rest ∧
    token.span = ⟨byteSize before, byteSize (before ++ (c :: cs))⟩ ∧
    Lexeme.Longest (c :: cs) rest token.kind ∧ Lexeme.Opens (c :: cs) c token.kind

theorem tokenize_longest {text : String} {token : Token} (member : token ∈ tokenize text) :
    token.IsLongest text := by
  rw [tokenize_eq_listing] at member
  obtain ⟨tail, whole, -, series⟩ := exists_series false text.toList
  obtain ⟨front, segment, rest, operand, rfl, split, stands⟩ := series.mem_listing member
  obtain ⟨c, cs, source, opens⟩ := Lexeme.opens_of_spelled stands.choose_spec.1
  have longest := Lexeme.longest_of_stands stands
  rw [source] at opens longest
  refine ⟨front ++ segment.gap, c, cs, rest, ?_, ?_, longest, opens⟩
  · rw [whole, split, Segment.text, source]
    simp
  · simp [Segment.token, Segment.text, source]

theorem tokenize_longest_behind_comment :
    let text := "ä /* 1 */ 2.5.x /**/"
    let number : Token := ⟨.number, "2.5", none, ⟨11, 14⟩⟩
    number ∈ tokenize text ∧ number.IsLongest text := by
  intro text number
  have member : number ∈ tokenize text := by
    decide +kernel
  exact ⟨member, tokenize_longest member⟩

end ScriptTokens
