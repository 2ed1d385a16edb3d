import ScriptTokens.TokenStream

namespace ScriptTokens.Prompt

def bracketChange (token : Token) : Int :=
  if token.kind != .operator then 0
  else match token.value with
    | "(" | "[" | "\x7b" => 1
    | ")" | "]" | "\x7d" => -1
    | _ => 0

def bracketDepth : List Token → Int
  | [] => 0
  | token :: tokens => bracketChange token + bracketDepth tokens

/-- Whether a string or a documentation comment lacks its end. A string that has lost only its
opening quote does. -/
def isUnterminated (token : Token) : Bool :=
  match token.kind with
  | .string => token.span.size? != some (token.value.utf8ByteSize + 2)
  | .docComment => !(['*', '/'].isSuffixOf token.value.toList)
  | _ => false

def endsInOpenComment : Lexeme.GapState → List Char → Bool
  | .blockComment, [] => true
  | _, [] => false
  | .lineComment, c :: cs => endsInOpenComment (if c = '\n' then .blank else .lineComment) cs
  | .blockComment, '*' :: '/' :: cs => endsInOpenComment .blank cs
  | .blockComment, _ :: cs => endsInOpenComment .blockComment cs
  | .blank, '/' :: '/' :: cs => endsInOpenComment .lineComment cs
  | .blank, '/' :: '*' :: cs => endsInOpenComment .blockComment cs
  | .blank, c :: cs => if Text.isBlank c then endsInOpenComment .blank cs else false

def needsMore (input : String) : Bool :=
  let tokens := tokenize input
  0 < bracketDepth tokens || tokens.getLast?.any isUnterminated ||
    endsInOpenComment .blank (TokenStream.ofText input).remainder

end ScriptTokens.Prompt
