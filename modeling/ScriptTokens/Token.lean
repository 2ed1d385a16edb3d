import ScriptTokens.Text.Bytes

namespace ScriptTokens

structure Span where
  start : Nat
  stop : Nat
  deriving DecidableEq, Repr

namespace Span

def size? (span : Span) : Option Nat :=
  if span.start ≤ span.stop then some (span.stop - span.start) else none

def isEmpty (span : Span) : Bool := span.start == span.stop

end Span

inductive Kind
  | number
  | string
  | keyword
  | ident
  | regex
  | operator
  | docComment
  deriving DecidableEq, Repr

namespace Kind

def all : List Kind := [.number, .string, .keyword, .ident, .regex, .operator, .docComment]

def name : Kind → String
  | number => "number"
  | string => "string"
  | keyword => "keyword"
  | ident => "ident"
  | regex => "regex"
  | operator => "operator"
  | docComment => "doc_comment"

def ofName? (name : String) : Option Kind := all.find? (·.name == name)

theorem mem_all (kind : Kind) : kind ∈ all := by cases kind <;> decide

theorem ofName?_name (kind : Kind) : ofName? kind.name = some kind := by cases kind <;> decide

theorem name_injective {a b : Kind} (h : a.name = b.name) : a = b := by
  simpa [ofName?_name] using congrArg ofName? h

end Kind

structure UnknownKind where
  name : String
  deriving DecidableEq, Repr

def UnknownKind.message (fault : UnknownKind) : String :=
  "unknown token kind `" ++ fault.name ++ "`"

def reservedWords : List String :=
  ["break", "case", "catch", "class", "const", "continue", "default", "delete", "do", "else",
    "enum", "export", "extends", "false", "finally", "for", "function", "if", "import", "in",
    "instanceof", "let", "new", "null", "return", "super", "switch", "this", "throw", "true",
    "try", "typeof", "var", "void", "while", "with", "yield"]

def isReserved (word : String) : Bool := reservedWords.contains word

structure Token where
  kind : Kind
  /-- The source of the token, for a string without its quotes. -/
  value : String
  /-- The line on which a documentation comment starts, counted from one. -/
  line : Option Nat
  span : Span
  deriving DecidableEq, Repr

namespace Token

/-- Whether a slash after this token divides, rather than opens a regular expression. -/
def isOperand (token : Token) : Bool :=
  match token.kind with
  | .ident | .number => true
  | .keyword => token.value == "this"
  | .operator => token.value == ")" || token.value == "]"
  | _ => false

def display (token : Token) : String :=
  match token.line with
  | some line => token.kind.name ++ "@" ++ toString line ++ " " ++ token.value
  | none => token.kind.name ++ " " ++ token.value

def has (token : Token) (kind : Kind) (value : String) : Bool :=
  token.kind == kind && token.value == value

end Token

end ScriptTokens
