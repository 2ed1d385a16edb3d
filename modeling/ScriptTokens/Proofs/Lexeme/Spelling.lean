import ScriptTokens.Proofs.Lexeme.Gap
import ScriptTokens.Proofs.Lexeme.Literal
import ScriptTokens.Proofs.Text.Blank

/-!
# The spelling of lexemes

`Spelled` says how the lexemes of each kind are spelled, and which characters each would take in if
they came next. A lexeme stands before a text that starts with none of these (`Stands`), and what
`read` cuts off behind a gap stands before what it leaves (`stands_read`).
-/

namespace ScriptTokens.Lexeme

/-! ## Spelling -/

def isPointOrDigit (c : Char) : Bool := c == '.' || c.isDigit

def isCommentMark (c : Char) : Bool := c == '/' || c == '*'

def isSymbol (c : Char) : Bool :=
  !(Text.isBlank c || isWordPart c || c == '$' || c == '\'' || c == '"' || c == '/')

/-- The characters that a lexeme would take in if they came next. -/
inductive Growth
  | nothing
  | wordPart
  | digit
  | pointOrDigit
  | flag
  | commentMark
  | anything

def Growth.takes : Growth → Char → Bool
  | nothing, _ => false
  | wordPart, c => isWordPart c
  | digit, c => c.isDigit
  | pointOrDigit, c => isPointOrDigit c
  | flag, c => isFlag c
  | commentMark, c => isCommentMark c
  | anything, _ => true

def Stops (takes : Char → Bool) (rest : List Char) : Prop := ∀ c ∈ rest.head?, takes c = false

def IsDocBody (body : List Char) : Prop :=
  (body ++ ['*']).head? = some '*' ∧ ¬ ['*', '/'] <:+: body ++ ['*']

/-- The spelling of a lexeme, after an operand or not, and the characters that would go on with
it. Before a literal or comment that its text does not close nothing can stop. -/
inductive Spelled (afterOperand : Bool) : Growth → Lexeme → Prop
  | keyword {word : List Char} :
      String.ofList word ∈ reservedWords → Spelled afterOperand .wordPart (verbatim .keyword word)
  | ident {c : Char} {cs : List Char} :
      isWordStart c = true → (∀ d ∈ cs, isWordPart d = true) →
      String.ofList (c :: cs) ∉ reservedWords →
      Spelled afterOperand .wordPart (verbatim .ident (c :: cs))
  | dollar {cs : List Char} :
      (∀ d ∈ cs, isWordPart d = true) →
      Spelled afterOperand .wordPart (verbatim .ident ('$' :: cs))
  | whole {c : Char} {digits : List Char} :
      c.isDigit = true → (∀ d ∈ digits, d.isDigit = true) →
      Spelled afterOperand .pointOrDigit (verbatim .number (c :: digits))
  | decimal {c : Char} {digits decimals : List Char} :
      c.isDigit = true → (∀ d ∈ digits, d.isDigit = true) → (∀ d ∈ decimals, d.isDigit = true) →
      Spelled afterOperand .digit (verbatim .number (c :: digits ++ '.' :: decimals))
  | string {quote : Char} {body : List Char} :
      quote = '\'' ∨ quote = '"' → LiteralBody quote body →
      Spelled afterOperand .nothing ⟨.string, quote :: body ++ [quote], body⟩
  | openString {quote : Char} {body : List Char} :
      quote = '\'' ∨ quote = '"' → OpenBody quote body →
      Spelled afterOperand .anything ⟨.string, quote :: body, body⟩
  | documentation {body : List Char} :
      IsDocBody body →
      Spelled afterOperand .nothing (verbatim .docComment ('/' :: '*' :: (body ++ ['*', '/'])))
  | openDocumentation {body : List Char} :
      body.head? = some '*' → ¬ ['*', '/'] <:+: body →
      Spelled afterOperand .anything (verbatim .docComment ('/' :: '*' :: body))
  | regex {body flags : List Char} :
      afterOperand = false → LiteralBody '/' body → Stops isCommentMark (body ++ ['/']) →
      (∀ d ∈ flags, isFlag d = true) →
      Spelled afterOperand .flag (verbatim .regex ('/' :: body ++ '/' :: flags))
  | openRegex {body : List Char} :
      afterOperand = false → OpenBody '/' body → Stops isCommentMark body →
      Spelled afterOperand .anything (verbatim .regex ('/' :: body))
  | division :
      afterOperand = true → Spelled afterOperand .commentMark (verbatim .operator ['/'])
  | symbol {c : Char} :
      isSymbol c = true → Spelled afterOperand .nothing (verbatim .operator [c])

def Stands (afterOperand : Bool) (lexeme : Lexeme) (rest : List Char) : Prop :=
  ∃ growth, Spelled afterOperand growth lexeme ∧ Stops growth.takes rest

/-! ## Where lexemes start -/

def StartsLexeme (text : List Char) : Prop := splitGap .blank text = ([], text)

theorem startsLexeme_splitGap (state : GapState) (text : List Char) :
    StartsLexeme (splitGap state text).2 := by
  fun_induction splitGap state text with
  | case1 => rfl
  | case2 | case3 | case4 | case5 | case7 | case8 => simp_all
  | case6 cs documentation => exact splitGap_documentation documentation
  | case9 c cs notLine notBlock notBlank => exact splitGap_lexeme notBlank notLine notBlock

theorem not_isBlank_of_startsLexeme {c : Char} {cs : List Char} (h : StartsLexeme (c :: cs)) :
    Text.isBlank c = false := by
  apply Bool.eq_false_iff.mpr
  intro blank
  rw [StartsLexeme, splitGap_blank_cons blank] at h
  cases h

theorem stops_of_startsLexeme {cs : List Char} (h : StartsLexeme ('/' :: cs)) :
    Stops isCommentMark cs ∨ ∃ body, cs = '*' :: '*' :: body := by
  rcases cs with _ | ⟨d, ds⟩
  · exact .inl (by simp [Stops])
  · by_cases slash : d = '/'
    · subst slash
      rw [StartsLexeme, splitGap_lineOpener] at h
      cases h
    by_cases star : d = '*'
    · subst star
      by_cases second : ds.head? = some '*'
      · obtain ⟨body, rfl⟩ := List.head?_eq_some_iff.mp second
        exact .inr ⟨body, rfl⟩
      · rw [StartsLexeme, splitGap_blockOpener second] at h
        cases h
    · exact .inl (by simp [Stops, isCommentMark, slash, star])

theorem startsLexeme_of_ne {c : Char} {cs : List Char} (notBlank : Text.isBlank c = false)
    (notSlash : c ≠ '/') : StartsLexeme (c :: cs) := by
  apply splitGap_lexeme (by simp [notBlank])
  · rintro ds rfl
    exact absurd rfl notSlash
  · rintro ds rfl
    exact absurd rfl notSlash

theorem startsLexeme_slash {cs : List Char} (h : Stops isCommentMark cs) :
    StartsLexeme ('/' :: cs) := by
  apply splitGap_lexeme (by decide)
  · rintro ds - rfl
    exact absurd (h '/' rfl) (by decide)
  · rintro ds - rfl
    exact absurd (h '*' rfl) (by decide)

theorem startsLexeme_documentation (body : List Char) :
    StartsLexeme ('/' :: '*' :: '*' :: body) := splitGap_documentation List.head?_cons

/-! ## What is read stands -/

theorem stops_nil (takes : Char → Bool) : Stops takes [] := by
  simp [Stops]

theorem stops_cons {takes : Char → Bool} {c : Char} (h : takes c = false) (rest : List Char) :
    Stops takes (c :: rest) := by
  rintro d ⟨⟩
  exact h

theorem stops_nothing (rest : List Char) : Stops Growth.nothing.takes rest := by
  simp [Stops, Growth.takes]

theorem stops_anything_iff {rest : List Char} : Stops Growth.anything.takes rest ↔ rest = [] := by
  cases rest <;> simp [Stops, Growth.takes]

theorem stops_dropWhile (takes : Char → Bool) (text : List Char) :
    Stops takes (text.dropWhile takes) := (Text.sheds_dropWhile takes text).first

theorem all_takeWhile (takes : Char → Bool) (text : List Char) :
    ∀ c ∈ text.takeWhile takes, takes c = true := by
  intro c member
  exact List.all_eq_true.mp (List.all_takeWhile) c member

theorem isWordPart_of_isWordStart {c : Char} (h : isWordStart c = true) : isWordPart c = true := by
  simp only [isWordStart, isWordPart, Char.isAlphanum, Bool.or_eq_true] at h ⊢
  rcases h with h | h
  · exact .inl (.inl h)
  · exact .inr h

theorem stands_word {c : Char} (afterOperand : Bool) (h : isWordStart c = true) (cs : List Char) :
    Stands afterOperand (ofWord (c :: cs.takeWhile isWordPart)) (cs.dropWhile isWordPart) := by
  refine ⟨.wordPart, ?_, stops_dropWhile _ _⟩
  rw [ofWord]
  split
  · rename_i reserved
    exact .keyword (by simpa [isReserved] using reserved)
  · rename_i other
    exact .ident h (all_takeWhile _ _) (by simpa [isReserved] using other)

theorem stands_readString {quote : Char} (afterOperand : Bool) (h : quote = '\'' ∨ quote = '"')
    (cs : List Char) : Stands afterOperand (readString quote cs).1 (readString quote cs).2 := by
  rcases splitLiteral_cases quote cs with split | ⟨body, rest, hbody, rfl, split⟩
  · simp only [readString, split]
    exact ⟨.anything, .openString h (openBody_of_splitLiteral (congrArg Prod.snd split)),
      stops_nil _⟩
  · simp only [readString, split]
    exact ⟨.nothing, .string h hbody, stops_nothing _⟩

theorem readDecimals_of_stops {cs : List Char} (h : Stops isPointOrDigit cs) :
    readDecimals cs = ([], cs) := by
  rw [readDecimals]
  rintro ds rfl
  exact absurd (h '.' rfl) (by decide)

theorem stands_readNumber {c : Char} (afterOperand : Bool) (h : c.isDigit = true)
    (cs : List Char) : Stands afterOperand (readNumber c cs).1 (readNumber c cs).2 := by
  have digits := all_takeWhile Char.isDigit cs
  have behind := stops_dropWhile Char.isDigit cs
  rw [readNumber]
  generalize cs.dropWhile Char.isDigit = rest at behind ⊢
  by_cases point : rest.head? = some '.'
  · obtain ⟨more, rfl⟩ := List.head?_eq_some_iff.mp point
    exact ⟨.digit, .decimal h digits (all_takeWhile _ _), stops_dropWhile _ _⟩
  · have stops : Stops isPointOrDigit rest := by
      intro d first
      have other : d ≠ '.' := by
        rintro rfl
        exact point first
      simp [isPointOrDigit, other, behind d first]
    simp only [readDecimals_of_stops stops, List.append_nil]
    exact ⟨.pointOrDigit, .whole h digits, stops⟩

theorem stands_readRegex {cs : List Char} (h : Stops isCommentMark cs) :
    Stands false (readRegex cs).1 (readRegex cs).2 := by
  rcases splitLiteral_cases '/' cs with split | ⟨body, rest, hbody, rfl, split⟩
  · simp only [readRegex, split]
    exact ⟨.anything, .openRegex rfl (openBody_of_splitLiteral (congrArg Prod.snd split)) h,
      stops_nil _⟩
  · simp only [readRegex, split]
    have first : Stops isCommentMark (body ++ ['/']) := by
      cases body with
      | nil => exact absurd (h '/' rfl) (by decide)
      | cons d body => exact h
    exact ⟨.flag, .regex rfl hbody first (all_takeWhile _ _), stops_dropWhile _ _⟩

theorem splitComment_cons {c : Char} {cs : List Char} (h : ¬ (c = '*' ∧ cs.head? = some '/')) :
    splitComment (c :: cs) = (c :: (splitComment cs).1, (splitComment cs).2) := by
  rw [splitComment]
  rintro tail rfl rfl
  exact h ⟨rfl, rfl⟩

theorem splitComment_append {body : List Char} (h : ¬ ['*', '/'] <:+: body ++ ['*'])
    (rest : List Char) :
    splitComment (body ++ '*' :: '/' :: rest) = (body ++ ['*', '/'], rest) := by
  induction body with
  | nil => rfl
  | cons c body ih =>
    obtain ⟨inside, later⟩ := (closer_not_infix_cons ('/' :: rest)).mp h
    rw [List.cons_append, splitComment_cons inside, ih later]
    rfl

theorem splitComment_open {body : List Char} (h : ¬ ['*', '/'] <:+: body) :
    splitComment body = (body, []) := by
  induction body with
  | nil => rfl
  | cons c body ih =>
    rw [closer_infix_cons, not_or] at h
    rw [splitComment_cons h.1, ih h.2]

theorem exists_first_closer {text : List Char} (h : ['*', '/'] <:+: text) :
    ∃ body rest, ¬ ['*', '/'] <:+: body ++ ['*'] ∧ text = body ++ '*' :: '/' :: rest := by
  induction text with
  | nil => simp at h
  | cons c text ih =>
    by_cases now : c = '*' ∧ text.head? = some '/'
    · obtain ⟨rfl, slash⟩ := now
      obtain ⟨rest, rfl⟩ := List.head?_eq_some_iff.mp slash
      exact ⟨[], rest, by simp [closer_infix_cons], rfl⟩
    · obtain ⟨body, rest, first, rfl⟩ := ih ((closer_infix_cons.mp h).resolve_left now)
      exact ⟨c :: body, rest, (closer_not_infix_cons _).mpr ⟨now, first⟩, rfl⟩

theorem stands_documentation (afterOperand : Bool) (cs : List Char) :
    Stands afterOperand (verbatim .docComment ('/' :: '*' :: (splitComment ('*' :: cs)).1))
      (splitComment ('*' :: cs)).2 := by
  by_cases closed : ['*', '/'] <:+: '*' :: cs
  · obtain ⟨body, rest, first, whole⟩ := exists_first_closer closed
    have star : (body ++ ['*']).head? = some '*' := by
      cases body with
      | nil => rfl
      | cons d body => exact congrArg some (List.cons.inj whole).1.symm
    rw [whole, splitComment_append first]
    exact ⟨.nothing, .documentation ⟨star, first⟩, stops_nothing _⟩
  · rw [splitComment_open closed]
    exact ⟨.anything, .openDocumentation rfl closed, stops_nil _⟩

theorem stands_readSlash {afterOperand : Bool} {cs : List Char} (h : StartsLexeme ('/' :: cs)) :
    Stands afterOperand (readSlash afterOperand cs).1 (readSlash afterOperand cs).2 := by
  rcases stops_of_startsLexeme h with stops | ⟨body, rfl⟩
  · rw [readSlash]
    · cases afterOperand with
      | true => exact ⟨.commentMark, .division rfl, stops⟩
      | false => exact stands_readRegex stops
    · rintro body rfl
      exact absurd (stops '*' rfl) (by decide)
  · exact stands_documentation afterOperand body

theorem stands_read {c : Char} {cs : List Char} (afterOperand : Bool)
    (h : StartsLexeme (c :: cs)) :
    Stands afterOperand (read afterOperand c cs).1 (read afterOperand c cs).2 := by
  have notBlank := not_isBlank_of_startsLexeme h
  rw [read]
  split
  · rename_i word
    exact stands_word afterOperand word cs
  rename_i notWord
  split
  · rename_i isQuote
    exact stands_readString afterOperand isQuote cs
  rename_i notQuote
  split
  · rename_i slash
    subst slash
    exact stands_readSlash h
  rename_i notSlash
  split
  · rename_i digit
    exact stands_readNumber afterOperand digit cs
  rename_i notDigit
  split
  · rename_i dollar
    subst dollar
    exact ⟨.wordPart, .dollar (all_takeWhile _ _), stops_dropWhile _ _⟩
  · rename_i notDollar
    refine ⟨.nothing, .symbol ?_, stops_nothing _⟩
    simp_all [isSymbol, isWordPart, isWordStart, Char.isAlphanum]

end ScriptTokens.Lexeme
