import ScriptTokens.Text.Blank
import ScriptTokens.Token

/-!
# Gaps and lexemes

A source is cut, from the front, into gaps and lexemes. A gap is a longest run of white space and
ordinary comments. After it stands a lexeme, whose first character decides what it is; a slash is
decided by what follows it and by the token before it, since a slash after an operand divides.
Literals that are not closed run to the end of the source.

`gap_append_rest` and `source_append_rest` say that cutting loses nothing.
-/

namespace ScriptTokens.Lexeme

inductive GapState
  | blank
  | lineComment
  | blockComment
  deriving DecidableEq, Repr

/-- The longest gap at the front of a text, and the text behind it. A documentation comment is
not part of a gap. -/
def splitGap : GapState → List Char → List Char × List Char
  | _, [] => ([], [])
  | .lineComment, c :: cs =>
    let (gap, rest) := splitGap (if c = '\n' then .blank else .lineComment) cs
    (c :: gap, rest)
  | .blockComment, '*' :: '/' :: cs =>
    let (gap, rest) := splitGap .blank cs
    ('*' :: '/' :: gap, rest)
  | .blockComment, c :: cs =>
    let (gap, rest) := splitGap .blockComment cs
    (c :: gap, rest)
  | .blank, '/' :: '/' :: cs =>
    let (gap, rest) := splitGap .lineComment cs
    ('/' :: '/' :: gap, rest)
  | .blank, '/' :: '*' :: cs =>
    if cs.head? = some '*' then ([], '/' :: '*' :: cs)
    else
      let (gap, rest) := splitGap .blockComment cs
      ('/' :: '*' :: gap, rest)
  | .blank, c :: cs =>
    if Text.isBlank c then
      let (gap, rest) := splitGap .blank cs
      (c :: gap, rest)
    else ([], c :: cs)

theorem gap_append_rest (state : GapState) (text : List Char) :
    (splitGap state text).1 ++ (splitGap state text).2 = text := by
  fun_induction splitGap state text <;> simp_all

def isWordStart (c : Char) : Bool := c.isAlpha || c == '_'

def isWordPart (c : Char) : Bool := c.isAlphanum || c == '_'

def isFlag (c : Char) : Bool := c == 'g' || c == 'i' || c == 'm'

/-- The text before the first `close` that no backslash escapes, and the text from there. -/
def splitLiteral (close : Char) : List Char → List Char × List Char
  | [] => ([], [])
  | ['\\'] => (['\\'], [])
  | '\\' :: c :: cs =>
    let (body, rest) := splitLiteral close cs
    ('\\' :: c :: body, rest)
  | c :: cs =>
    if c = close then ([], c :: cs)
    else
      let (body, rest) := splitLiteral close cs
      (c :: body, rest)

def splitComment : List Char → List Char × List Char
  | [] => ([], [])
  | '*' :: '/' :: cs => (['*', '/'], cs)
  | c :: cs =>
    let (comment, rest) := splitComment cs
    (c :: comment, rest)

theorem literal_append_rest (close : Char) (text : List Char) :
    (splitLiteral close text).1 ++ (splitLiteral close text).2 = text := by
  fun_induction splitLiteral close text <;> simp_all

theorem comment_append_rest (text : List Char) :
    (splitComment text).1 ++ (splitComment text).2 = text := by
  fun_induction splitComment text <;> simp_all

end ScriptTokens.Lexeme

namespace ScriptTokens

structure Lexeme where
  kind : Kind
  source : List Char
  value : List Char
  deriving DecidableEq, Repr

namespace Lexeme

def verbatim (kind : Kind) (source : List Char) : Lexeme := ⟨kind, source, source⟩

def ofWord (word : List Char) : Lexeme :=
  verbatim (if isReserved (String.ofList word) then .keyword else .ident) word

def readString (quote : Char) (cs : List Char) : Lexeme × List Char :=
  match splitLiteral quote cs with
  | (body, []) => (⟨.string, quote :: body, body⟩, [])
  | (body, close :: rest) => (⟨.string, quote :: body ++ [close], body⟩, rest)

def readRegex (cs : List Char) : Lexeme × List Char :=
  match splitLiteral '/' cs with
  | (body, []) => (verbatim .regex ('/' :: body), [])
  | (body, close :: rest) =>
    (verbatim .regex ('/' :: body ++ close :: rest.takeWhile isFlag), rest.dropWhile isFlag)

def readDecimals : List Char → List Char × List Char
  | '.' :: cs => ('.' :: cs.takeWhile Char.isDigit, cs.dropWhile Char.isDigit)
  | cs => ([], cs)

def readNumber (c : Char) (cs : List Char) : Lexeme × List Char :=
  let (decimals, rest) := readDecimals (cs.dropWhile Char.isDigit)
  (verbatim .number (c :: cs.takeWhile Char.isDigit ++ decimals), rest)

def readSlash (afterOperand : Bool) (cs : List Char) : Lexeme × List Char :=
  match cs with
  | '*' :: '*' :: body =>
    let (comment, rest) := splitComment ('*' :: body)
    (verbatim .docComment ('/' :: '*' :: comment), rest)
  | cs => if afterOperand then (verbatim .operator ['/'], cs) else readRegex cs

def read (afterOperand : Bool) (c : Char) (cs : List Char) : Lexeme × List Char :=
  if isWordStart c then (ofWord (c :: cs.takeWhile isWordPart), cs.dropWhile isWordPart)
  else if c = '\'' ∨ c = '"' then readString c cs
  else if c = '/' then readSlash afterOperand cs
  else if c.isDigit then readNumber c cs
  else if c = '$' then
    (verbatim .ident (c :: cs.takeWhile isWordPart), cs.dropWhile isWordPart)
  else (verbatim .operator [c], cs)

theorem readString_append (quote : Char) (cs : List Char) :
    (readString quote cs).1.source ++ (readString quote cs).2 = quote :: cs := by
  have whole := literal_append_rest quote cs
  rw [readString]
  split <;> simp_all

theorem readRegex_append (cs : List Char) :
    (readRegex cs).1.source ++ (readRegex cs).2 = '/' :: cs := by
  have whole := literal_append_rest '/' cs
  rw [readRegex]
  split <;> simp_all [verbatim, List.takeWhile_append_dropWhile]

theorem readDecimals_append (cs : List Char) :
    (readDecimals cs).1 ++ (readDecimals cs).2 = cs := by
  rw [readDecimals.eq_def]
  split <;> simp [List.takeWhile_append_dropWhile]

theorem readNumber_append (c : Char) (cs : List Char) :
    (readNumber c cs).1.source ++ (readNumber c cs).2 = c :: cs := by
  simp [readNumber, verbatim, readDecimals_append, List.takeWhile_append_dropWhile]

theorem readSlash_append (afterOperand : Bool) (cs : List Char) :
    (readSlash afterOperand cs).1.source ++ (readSlash afterOperand cs).2 = '/' :: cs := by
  rw [readSlash.eq_def]
  split
  · simp [verbatim, comment_append_rest]
  · split
    · simp [verbatim]
    · exact readRegex_append _

theorem source_append_rest (afterOperand : Bool) (c : Char) (cs : List Char) :
    (read afterOperand c cs).1.source ++ (read afterOperand c cs).2 = c :: cs := by
  rw [read]
  repeat' split
  · simp [ofWord, verbatim, List.takeWhile_append_dropWhile]
  · exact readString_append c cs
  · simp_all [readSlash_append]
  · exact readNumber_append c cs
  · simp_all [verbatim, List.takeWhile_append_dropWhile]
  · simp [verbatim]

theorem source_ne_nil (afterOperand : Bool) (c : Char) (cs : List Char) :
    (read afterOperand c cs).1.source ≠ [] := by
  simp only [read, readString, readSlash.eq_def, readRegex]
  repeat' split
  all_goals simp [ofWord, verbatim, readNumber]

end Lexeme

end ScriptTokens
