import ScriptTokens.Config
import ScriptTokens.Toml.Literal

namespace ScriptTokens.Json

inductive Value
  | null
  | boolean (value : Bool)
  | number (digits exponent : Int)
  | string (text : String)
  | array (elements : List Value)
  | object (members : List (String × Value))

def skipBlanks (cs : List Char) : List Char :=
  cs.dropWhile fun c => c == ' ' || c == '\t' || c == '\n' || c == '\r'

inductive TextState
  | plain
  | escape
  | unit (high : Option Nat) (left value : Nat)
  | pair (high : Nat) (seen : Bool)
  deriving DecidableEq, Repr

namespace TextState

def escapeLetter? : Char → Option Char
  | '"' => some '"'
  | '\\' => some '\\'
  | '/' => some '/'
  | 'b' => some '\x08'
  | 'f' => some '\x0c'
  | 'n' => some '\n'
  | 'r' => some '\r'
  | 't' => some '\t'
  | _ => none

def endUnit : Option Nat → Nat → Option (List Char × TextState)
  | none, half =>
    if 0xD800 ≤ half ∧ half < 0xDC00 then some ([], .pair half false)
    else if half.isValidChar then some ([Char.ofNat half], .plain)
    else none
  | some high, half =>
    if 0xDC00 ≤ half ∧ half < 0xE000 then
      some ([Char.ofNat (0x10000 + (high - 0xD800) * 0x400 + (half - 0xDC00))], .plain)
    else none

def step (c : Char) : TextState → Option (List Char × TextState)
  | plain =>
    if c = '\\' then some ([], .escape) else if c.toNat < 0x20 then none else some ([c], .plain)
  | escape =>
    if c = 'u' then some ([], .unit none 4 0) else (escapeLetter? c).map fun d => ([d], .plain)
  | unit high left value => do
    let value := value * 16 + (← Text.hexValue? c)
    if 1 < left then some ([], .unit high (left - 1) value) else endUnit high value
  | pair high false => if c = '\\' then some ([], .pair high true) else none
  | pair high true => if c = 'u' then some ([], .unit (some high) 4 0) else none

end TextState

def readText : TextState → List Char → Option (List Char × List Char)
  | _, [] => none
  | state, c :: cs =>
    if state = .plain ∧ c = '"' then some ([], cs)
    else do
      let (added, next) ← state.step c
      let (text, rest) ← readText next cs
      return (added ++ text, rest)

def readDigits? (cs : List Char) : Option (List Char × List Char) :=
  let digits := cs.takeWhile Char.isDigit
  if digits.isEmpty then none else some (digits, cs.dropWhile Char.isDigit)

def readDecimals? : List Char → Option (List Char × List Char)
  | '.' :: cs => readDigits? cs
  | cs => some ([], cs)

def readExponent? : List Char → Option (Int × List Char)
  | [] => some (0, [])
  | c :: cs =>
    if c = 'e' ∨ c = 'E' then do
      let (negative, cs) := Toml.readSign cs
      let (digits, rest) ← readDigits? cs
      let size : Int := decimalValue digits
      return (if negative then -size else size, rest)
    else some (0, c :: cs)

def readMinus : List Char → Bool × List Char
  | '-' :: cs => (true, cs)
  | cs => (false, cs)

def readNumber? (cs : List Char) : Option (Value × List Char) := do
  let (negative, cs) := readMinus cs
  let (whole, cs) ← readDigits? cs
  if whole.head? = some '0' ∧ whole.length ≠ 1 then none
  let (decimals, cs) ← readDecimals? cs
  let (exponent, cs) ← readExponent? cs
  let size : Int := decimalValue (whole ++ decimals)
  return (.number (if negative then -size else size) (exponent - decimals.length), cs)

def words : List (String × Value) :=
  [("null", .null), ("true", .boolean true), ("false", .boolean false)]

def readScalar? (cs : List Char) : Option (Value × List Char) :=
  (words.findSome? fun (word, value) => (Text.stripStart? word.toList cs).map (value, ·)).or
    (readNumber? cs)

mutual

/-- Reads a value. No more than `fuel` readers stand inside each other. -/
def readValue? : Nat → List Char → Option (Value × List Char)
  | 0, _ => none
  | fuel + 1, cs =>
    match skipBlanks cs with
    | '"' :: cs => (readText .plain cs).map fun (text, rest) => (.string (String.ofList text), rest)
    | '[' :: cs =>
      if (skipBlanks cs).head? = some ']' then some (.array [], (skipBlanks cs).tail)
      else (readElements? fuel cs).map fun (elements, rest) => (.array elements, rest)
    | '\x7b' :: cs =>
      if (skipBlanks cs).head? = some '\x7d' then some (.object [], (skipBlanks cs).tail)
      else (readMembers? fuel cs).map fun (members, rest) => (.object members, rest)
    | cs => readScalar? cs

def readElements? : Nat → List Char → Option (List Value × List Char)
  | 0, _ => none
  | fuel + 1, cs => do
    let (element, rest) ← readValue? fuel cs
    match skipBlanks rest with
    | ',' :: rest => (readElements? fuel rest).map fun (more, rest) => (element :: more, rest)
    | ']' :: rest => some ([element], rest)
    | _ => none

def readMembers? : Nat → List Char → Option (List (String × Value) × List Char)
  | 0, _ => none
  | fuel + 1, cs =>
    match skipBlanks cs with
    | '"' :: cs => do
      let (name, rest) ← readText .plain cs
      match skipBlanks rest with
      | ':' :: rest => do
        let (value, rest) ← readValue? fuel rest
        match skipBlanks rest with
        | ',' :: rest => (readMembers? fuel rest).map fun (more, rest) =>
          ((String.ofList name, value) :: more, rest)
        | '\x7d' :: rest => some ([(String.ofList name, value)], rest)
        | _ => none
      | _ => none
    | _ => none

end

/-- The value of a document, with nothing but blanks behind it. Of two readers inside each other
one has taken a character, so the fuel lasts. -/
def read? (text : String) : Option Value := do
  let (value, rest) ← readValue? (2 * text.length + 2) text.toList
  if (skipBlanks rest).isEmpty then some value else none

end ScriptTokens.Json
