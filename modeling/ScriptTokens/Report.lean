import ScriptTokens.Config
import ScriptTokens.Json
import ScriptTokens.LineIndex
import ScriptTokens.Style
import ScriptTokens.Text.Escaped
import ScriptTokens.TokenStream

namespace ScriptTokens

structure Report where
  path : Option String
  source : String
  tokens : List Token
  deriving DecidableEq, Repr

namespace Report

def ofSource (path : Option String) (source : String) (docsOnly : Bool) : Report :=
  { path, source
    tokens := (tokenize source).filter fun token => !docsOnly || token.kind == .docComment }

end Report

def Kind.paint (kind : Kind) (text : String) : String :=
  match kind with
  | .keyword => Effect.bold.layer (Color.magenta.layer text)
  | .ident => text
  | .string => Color.green.layer text
  | .number => Color.yellow.layer text
  | .regex => Color.red.layer text
  | .operator => Color.cyan.layer text
  | .docComment => Color.blue.layer text

namespace Report

def listingLine (color : Bool) (position : Position) (token : Token) : String :=
  let location :=
    Text.padLeft 8 (toString position.line ++ ":" ++ toString position.column)
  let kind := Text.padRight 11 token.kind.name
  let value := String.ofList (Text.escapeValue token.value.toList)
  if color then
    Effect.dimmed.layer location ++ " " ++ Effect.dimmed.layer kind ++ " " ++
      token.kind.paint value ++ "\n"
  else location ++ " " ++ kind ++ " " ++ value ++ "\n"

def heading (color : Bool) (path : String) : String :=
  let text := "==> " ++ path
  (if color then Effect.bold.layer (Color.white.layer text) else text) ++ "\n"

def listing (report : Report) (color : Bool) : Except Text.OffsetFault String := do
  let index := LineIndex.ofText report.source.toList
  let lines ← report.tokens.mapM fun token => do
    return listingLine color (← index.position token.span.start) token
  return (report.path.map (heading color)).getD "" ++ String.join lines

end Report

def Token.toJson (token : Token) : Json :=
  .object <|
    [("kind", .string token.kind.name), ("value", .string token.value)] ++
    (token.line.map fun line => ("line", .number line)).toList ++
    [("span", .object [("start", .number token.span.start), ("end", .number token.span.stop)])]

namespace Report

def toJson (report : Report) : Json :=
  .object <|
    (report.path.map fun path => ("path", .string path)).toList ++
    [("tokens", .array (report.tokens.map Token.toJson))]

/-- The document for a list of reports: a single report without a path stands alone, any other
list in an array. -/
def document : List Report → Json
  | [report] => if report.path.isNone then report.toJson else .array [report.toJson]
  | reports => .array (reports.map toJson)

def render (reports : List Report) (config : Config) : Except Text.OffsetFault String :=
  match config.format with
  | .text => do
    let listings ← reports.mapM (·.listing config.color)
    return "\n".intercalate listings
  | .json => .ok ((document reports).pretty ++ "\n")

end Report

end ScriptTokens
