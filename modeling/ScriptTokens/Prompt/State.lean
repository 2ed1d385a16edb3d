import ScriptTokens.DocSummary
import ScriptTokens.Failure
import ScriptTokens.Report

namespace ScriptTokens.Prompt

structure State where
  color : Bool
  docsOnly : Bool
  lastSource : Option String
  deriving DecidableEq, Repr

namespace State

def ofConfig (config : Config) : State := ⟨config.color, config.docsOnly, none⟩

def paint (state : State) (text : String) (style : Style) : String :=
  if state.color then style.apply text else text

def render (state : State) (path : Option String) (source : String) :
    Except Text.OffsetFault (String × State) := do
  let listing ← (Report.ofSource path source state.docsOnly).listing state.color
  return (listing, { state with lastSource := some source })

end State

def runLook (source pattern : String) : Except UnknownKind Bool := do
  let expectations ← (Text.words pattern.toList).mapM (Expectation.parse <| String.ofList ·)
  return ((TokenStream.ofText source).look expectations).1

end ScriptTokens.Prompt
