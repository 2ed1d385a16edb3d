import ScriptTokens.Report

namespace ScriptTokens.Prompt

def paintGap (gap : List Char) : String :=
  if Text.allBlank gap then String.ofList gap else Effect.dimmed.layer (String.ofList gap)

def paintFrom (place : Nat) (rest : List Char) : List Token → Except Text.OffsetFault String
  | [] => .ok (paintGap rest)
  | token :: tokens => do
    let (gap, rest) ← Text.splitBetween place token.span.start rest
    let (text, rest) ← Text.splitBetween token.span.start token.span.stop rest
    let painted ← paintFrom token.span.stop rest tokens
    return paintGap gap ++ token.kind.paint (String.ofList text) ++ painted

def highlightSource (source : String) : Except Text.OffsetFault String :=
  paintFrom 0 source.toList (tokenize source)

def startsWithPoint (line : String) : Bool := (Text.trimStart line.toList).head? == some '.'

def highlightLine (color : Bool) (line : String) : Except Text.OffsetFault String :=
  if !color || startsWithPoint line then .ok line else highlightSource line

end ScriptTokens.Prompt
