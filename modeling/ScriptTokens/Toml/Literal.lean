import ScriptTokens.Lexeme
import ScriptTokens.Text.CodeSet
import ScriptTokens.Toml.Item

namespace ScriptTokens.Toml

def isTextChar (c : Char) : Bool := c == '\t' || (0x20 ≤ c.toNat && c.toNat != 0x7F)

structure StringRule where
  escapes : Bool
  multiline : Bool
  deriving DecidableEq, Repr

inductive StringState
  | plain
  | carriage
  | escape
  | number (left value : Nat)
  | joining (seen half : Bool)
  deriving DecidableEq, Repr

namespace StringState

def escapeLetter? : Char → Option Char
  | 'b' => some '\x08'
  | 't' => some '\t'
  | 'n' => some '\n'
  | 'f' => some '\x0c'
  | 'r' => some '\r'
  | '"' => some '"'
  | '\\' => some '\\'
  | _ => none

def stepPlain (rule : StringRule) (c : Char) : Option (List Char × StringState) :=
  if c = '\\' ∧ rule.escapes then some ([], .escape)
  else if c = '\n' ∧ rule.multiline then some (['\n'], .plain)
  else if c = '\r' ∧ rule.multiline then some ([], .carriage)
  else if isTextChar c then some ([c], .plain)
  else none

def stepEscape (rule : StringRule) (c : Char) : Option (List Char × StringState) :=
  if c = 'u' then some ([], .number 4 0)
  else if c = 'U' then some ([], .number 8 0)
  else if rule.multiline ∧ (c = ' ' ∨ c = '\t') then some ([], .joining false false)
  else if rule.multiline ∧ c = '\n' then some ([], .joining true false)
  else if rule.multiline ∧ c = '\r' then some ([], .joining false true)
  else (escapeLetter? c).map fun c => ([c], .plain)

def stepJoining (rule : StringRule) (seen half : Bool) (c : Char) :
    Option (List Char × StringState) :=
  if c = '\n' then some ([], .joining true false)
  else if half then none
  else if c = ' ' ∨ c = '\t' then some ([], .joining seen false)
  else if c = '\r' then some ([], .joining seen true)
  else if seen then stepPlain rule c
  else none

def step (rule : StringRule) (c : Char) : StringState → Option (List Char × StringState)
  | plain => stepPlain rule c
  | carriage => if c = '\n' then some (['\n'], .plain) else none
  | escape => stepEscape rule c
  | number left value => do
    let value := value * 16 + (← Text.hexValue? c)
    if left ≤ 1 then
      if value.isValidChar then some ([Char.ofNat value], .plain) else none
    else some ([], .number (left - 1) value)
  | joining seen half => stepJoining rule seen half c

def isFinal : StringState → Bool
  | plain | joining true false => true
  | _ => false

end StringState

def decodeString (rule : StringRule) : StringState → List Char → Option (List Char)
  | state, [] => if state.isFinal then some [] else none
  | state, c :: cs => do
    let (added, state) ← state.step rule c
    return added ++ (← decodeString rule state cs)

/-- The extent of a string in triple quotes, and the text behind it. The closing quotes may follow
up to two that belong to the string. -/
def splitTriple (quote : Char) (escapes : Bool) : List Char → Option (List Char × List Char)
  | [] => none
  | c :: cs =>
    if [quote, quote, quote].isPrefixOf (c :: cs) then
      let behind := cs.drop 2
      let extra := ((behind.take 2).takeWhile (· == quote)).length
      some (List.replicate extra quote, behind.drop extra)
    else if c = '\\' ∧ escapes then
      match cs with
      | [] => none
      | d :: cs => (splitTriple quote escapes cs).map fun (body, rest) => (c :: d :: body, rest)
    else (splitTriple quote escapes cs).map fun (body, rest) => (c :: body, rest)

def dropNewline : List Char → List Char
  | '\n' :: cs => cs
  | '\r' :: '\n' :: cs => cs
  | cs => cs

def readLine? (quote : Char) (cs : List Char) : Option (String × List Char) :=
  let escapes := quote == '"'
  let (body, rest) :=
    if escapes then Lexeme.splitLiteral quote cs
    else (cs.takeWhile (· != quote), cs.dropWhile (· != quote))
  match rest with
  | [] => none
  | _ :: rest =>
    (decodeString ⟨escapes, false⟩ .plain body).map fun text => (String.ofList text, rest)

def readString? (quote : Char) (cs : List Char) : Option (String × List Char) :=
  if [quote, quote].isPrefixOf cs then do
    let escapes := quote == '"'
    let (body, rest) ← splitTriple quote escapes (dropNewline (cs.drop 2))
    let text ← decodeString ⟨escapes, true⟩ .plain body
    return (String.ofList text, rest)
  else readLine? quote cs

def readDigits (isDigit : Char → Bool) : List Char → Option (List Char × List Char)
  | [] => none
  | c :: '_' :: cs =>
    if isDigit c then (readDigits isDigit cs).map fun (digits, rest) => (c :: digits, rest)
    else none
  | c :: cs =>
    if isDigit c then
      match readDigits isDigit cs with
      | some (digits, rest) => some (c :: digits, rest)
      | none => some ([c], cs)
    else none

def digitsValue (base : Nat) (digits : List Char) : Nat :=
  digits.foldl (fun value c => value * base + (Text.hexValue? c).getD 0) 0

def readSign : List Char → Bool × List Char
  | '-' :: cs => (true, cs)
  | '+' :: cs => (false, cs)
  | cs => (false, cs)

def readWhole (cs : List Char) : Option (List Char × List Char) := do
  let (digits, rest) ← readDigits Char.isDigit cs
  if digits.head? = some '0' ∧ digits.length ≠ 1 then none
  return (digits, rest)

def integerLimit : Nat := 9223372036854775808

def readBase? (base : Nat) (isDigit : Char → Bool) (cs : List Char) : Option Item := do
  let (digits, rest) ← readDigits isDigit cs
  let value := digitsValue base digits
  if rest.isEmpty ∧ value < integerLimit then some (.integer value) else none

def readInteger? : List Char → Option Item
  | '0' :: 'x' :: cs => readBase? 16 (fun c => (Text.hexValue? c).isSome) cs
  | '0' :: 'o' :: cs => readBase? 8 (fun c => '0' ≤ c ∧ c ≤ '7') cs
  | '0' :: 'b' :: cs => readBase? 2 (fun c => c == '0' || c == '1') cs
  | cs => do
    let (negative, cs) := readSign cs
    let (digits, rest) ← readWhole cs
    let value := digitsValue 10 digits
    if !rest.isEmpty then none
    else if negative then
      if value ≤ integerLimit then some (.integer (-(value : Int))) else none
    else if value < integerLimit then some (.integer value) else none

/-- The least number that no float of 64 bits comes near to: half a unit above the greatest. -/
def floatLimit : Nat := Nat.pow 2 1024 - Nat.pow 2 970

def isBeyondFloats (digits : List Char) (exponent : Int) : Bool :=
  let value := digitsValue 10 digits
  let magnitude : Int := (toString value).length + exponent
  if value = 0 ∨ magnitude < 300 then false
  else if 310 < magnitude then true
  else if 0 ≤ exponent then floatLimit ≤ value * Nat.pow 10 exponent.toNat
  else floatLimit * Nat.pow 10 (-exponent).toNat ≤ value

def readExponent? : List Char → Option Int
  | c :: cs => do
    if c ≠ 'e' ∧ c ≠ 'E' then none
    let (negative, cs) := readSign cs
    let (digits, rest) ← readDigits Char.isDigit cs
    let value : Int := digitsValue 10 digits
    if rest.isEmpty then some (if negative then -value else value) else none
  | [] => none

def readFloat? (cs : List Char) : Option Item := do
  let (negative, cs) := readSign cs
  if cs = "inf".toList ∨ cs = "nan".toList then return .float
  let (whole, rest) ← readWhole cs
  let (decimals, exponent) ← match rest with
    | '.' :: cs => do
      let (decimals, rest) ← readDigits Char.isDigit cs
      if rest.isEmpty then some (decimals, 0) else (readExponent? rest).map (decimals, ·)
    | rest => (readExponent? rest).map ([], ·)
  if !negative && isBeyondFloats (whole ++ decimals) (exponent - decimals.length) then none
  return .float

def twoDigits? (a b : Char) : Option Nat :=
  if a.isDigit && b.isDigit then some (digitsValue 10 [a, b]) else none

def isLeapYear (year : Nat) : Bool := year % 4 == 0 && (year % 100 != 0 || year % 400 == 0)

def daysIn (year month : Nat) : Nat :=
  if month = 2 then (if isLeapYear year then 29 else 28)
  else if month = 4 ∨ month = 6 ∨ month = 9 ∨ month = 11 then 30
  else 31

def readDate? : List Char → Option (List Char)
  | y₁ :: y₂ :: y₃ :: y₄ :: '-' :: m₁ :: m₂ :: '-' :: d₁ :: d₂ :: rest => do
    let year := (← twoDigits? y₁ y₂) * 100 + (← twoDigits? y₃ y₄)
    let month ← twoDigits? m₁ m₂
    let day ← twoDigits? d₁ d₂
    if 1 ≤ month ∧ month ≤ 12 ∧ 1 ≤ day ∧ day ≤ daysIn year month then some rest else none
  | _ => none

def readTime? : List Char → Option (List Char)
  | h₁ :: h₂ :: ':' :: m₁ :: m₂ :: ':' :: s₁ :: s₂ :: rest => do
    let hour ← twoDigits? h₁ h₂
    let minute ← twoDigits? m₁ m₂
    let second ← twoDigits? s₁ s₂
    if 23 < hour ∨ 59 < minute ∨ 60 < second then none
    match rest with
    | '.' :: rest =>
      if rest.head?.any Char.isDigit then some (rest.dropWhile Char.isDigit) else none
    | rest => some rest
  | _ => none

def isOffset : List Char → Bool
  | [] | ['Z'] | ['z'] => true
  | [sign, h₁, h₂, ':', m₁, m₂] =>
    (sign == '+' || sign == '-') && (twoDigits? h₁ h₂).any (· ≤ 23) &&
      (twoDigits? m₁ m₂).any (· ≤ 59)
  | _ => false

def isTimeWithOffset (cs : List Char) : Bool := (readTime? cs).any isOffset

def readMoment? (cs : List Char) : Option Item :=
  match readDate? cs with
  | some [] => some .moment
  | some (mark :: time) =>
    if (mark = 'T' ∨ mark = 't') ∧ isTimeWithOffset time then some .moment else none
  | none => if readTime? cs = some [] then some .moment else none

def isScalarChar (c : Char) : Bool :=
  c.isAlphanum || c == '+' || c == '-' || c == '_' || c == '.' || c == ':'

def scalar? (run : List Char) : Option Item :=
  if run = "true".toList then some (.boolean true)
  else if run = "false".toList then some (.boolean false)
  else ((readInteger? run).or (readFloat? run)).or (readMoment? run)

def readScalar? (cs : List Char) : Option (Item × List Char) := do
  let run := cs.takeWhile isScalarChar
  let rest := cs.dropWhile isScalarChar
  let item ← scalar? run
  match rest with
  | ' ' :: after =>
    if readDate? run = some [] ∧ isTimeWithOffset (after.takeWhile isScalarChar) then
      some (item, after.dropWhile isScalarChar)
    else some (item, rest)
  | rest => some (item, rest)

end ScriptTokens.Toml
