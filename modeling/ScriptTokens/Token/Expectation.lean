import ScriptTokens.Text.Escaped
import ScriptTokens.Token

namespace ScriptTokens

inductive Expectation
  | kind (kind : Kind)
  | value (value : String)
  deriving DecidableEq, Repr

namespace Expectation

def accepts (expectation : Expectation) (token : Token) : Bool :=
  match expectation with
  | .kind expected => token.kind == expected
  | .value expected => token.value == expected

def parse (text : String) : Except UnknownKind Expectation :=
  match text.toList with
  | ':' :: c :: cs =>
    let name := String.ofList (c :: cs)
    match Kind.ofName? name with
    | some expected => .ok (.kind expected)
    | none => .error ⟨name⟩
  | _ => .ok (.value text)

def display : Expectation → String
  | .kind expected => ":" ++ expected.name
  | .value expected => expected

def label : Expectation → String
  | .kind .number => "Kind(Number)"
  | .kind .string => "Kind(String)"
  | .kind .keyword => "Kind(Keyword)"
  | .kind .ident => "Kind(Ident)"
  | .kind .regex => "Kind(Regex)"
  | .kind .operator => "Kind(Operator)"
  | .kind .docComment => "Kind(DocComment)"
  | .value expected => "Value(" ++ String.ofList (Text.quote expected.toList) ++ ")"

def patternLabel (pattern : List Expectation) : String :=
  "[" ++ ", ".intercalate (pattern.map label) ++ "]"

end Expectation

end ScriptTokens
