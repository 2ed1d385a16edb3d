import ScriptTokens.CommandLine.Help
import ScriptTokens.Prompt.Command
import ScriptTokens.Prompt.LineInput
import ScriptTokens.Prompt.State

/-!
# Dialogues

What the prompt says to each input: to source text its tokens, to a command what it asks for. A
dialogue goes through the inputs in order until one leaves or none is left.
-/

namespace ScriptTokens.Prompt

structure Reply where
  output : String
  errors : String
  state : State
  goesOn : Bool
  deriving DecidableEq, Repr

namespace State

def tells (state : State) (output : String) : Reply := ⟨output, "", state, true⟩

def complains (state : State) (errors : String) : Reply := ⟨"", errors, state, true⟩

def errorLabel (state : State) : String := state.paint "Error" (Style.ofColor .red).bold

def usage (state : State) (command message : String) : Reply :=
  state.complains (state.errorLabel ++ ": " ++ state.paint command (.ofColor .cyan) ++ " " ++
    state.paint message .dimmed ++ "\n")

def fails (state : State) (failure : Failure) : Reply :=
  state.complains (state.errorLabel ++ ": " ++ failure.message ++ "\n")

def banner (state : State) : String :=
  "\n  " ++ state.paint "doclex" (Style.brightColor .cyan).bold ++ " " ++
    state.paint "v" .dimmed ++ " " ++
    state.paint CommandLine.programVersion (.brightColor .yellow) ++ "\n  " ++
    state.paint "Type source to see its tokens" .dimmed ++ "\n  " ++
    state.paint "Type" .dimmed ++ " " ++ state.paint ".help" (.ofColor .cyan) ++ " " ++
    state.paint "for available commands" .dimmed ++ "\n\n"

def promptText (state : State) : String :=
  state.paint "doclex>" (Style.brightColor .green).bold ++ " "

def farewell (state : State) : String := state.paint "^D" .dimmed ++ "\n"

def helpLine (state : State) (termStyle : Style) (term meaning : String) : String :=
  "  " ++ state.paint (Text.padRight 18 term) termStyle ++ " " ++
    state.paint meaning .dimmed ++ "\n"

def helpText (state : State) : String :=
  let heading := (Style.ofColor .white).bold
  let kinds := ", ".intercalate (Kind.all.map Kind.name)
  "\n" ++ state.paint "REPL Commands:" heading ++ "\n\n" ++
    String.join (Command.overview.map fun (usage, meaning) =>
      state.helpLine (.ofColor .cyan) usage meaning) ++
    "\n" ++ state.paint "Patterns:" heading ++ "\n\n" ++
    state.helpLine (.ofColor .yellow) ":kind" ("matches a token kind (" ++ kinds ++ ")") ++
    state.helpLine (.ofColor .yellow) "text" "matches a token value" ++ "\n"

def clearSequence : String := "\x1b[2J\x1b[H"

def summaryLine (state : State) (entry : Nat × String) : String :=
  state.paint (Text.padLeft 6 (toString entry.1 ++ ":")) .dimmed ++ " " ++
    state.paint entry.2 (.ofColor .blue) ++ "\n"

def summaries (state : State) (source : String) : String :=
  match docSummaries source with
  | [] => state.paint "no doc comments" .dimmed ++ "\n"
  | entries => String.join (entries.map state.summaryLine)

def showSource (state : State) (path : Option String) (source : String) :
    Except Text.OffsetFault Reply := do
  let (listing, state) ← state.render path source
  return state.tells listing

def lookAt (state : State) (pattern : Option String) : Reply :=
  match pattern, state.lastSource with
  | none, _ => state.usage ".look" "requires a pattern, e.g. :ident = :number"
  | some _, none => state.usage ".look" "needs some source entered first"
  | some pattern, some source =>
    match runLook source pattern with
    | .ok found =>
      state.tells (state.paint (if found then "true" else "false") (.ofColor .yellow) ++ "\n")
    | .error fault => state.fails (.badPattern fault)

def execute (state : State) (files : FileTree) (command : Command) (argument : Option String) :
    Except Text.OffsetFault Reply :=
  match command with
  | .help => .ok (state.tells state.helpText)
  | .exit => .ok { state.tells "" with goesOn := false }
  | .clear => .ok (state.tells clearSequence)
  | .version =>
    .ok (state.tells (state.paint "doclex" (Style.brightColor .cyan).bold ++ " " ++
      state.paint CommandLine.programVersion (.ofColor .yellow) ++ "\n"))
  | .load =>
    match argument with
    | none => .ok (state.usage ".load" "requires a file path")
    | some path =>
      match files.read path with
      | .ok source => state.showSource (some path) source
      | .error fault => .ok (state.fails (.unreadable path fault))
  | .look => .ok (state.lookAt argument)
  | .docs =>
    match state.lastSource with
    | none => .ok (state.usage ".docs" "needs some source entered first")
    | some source => .ok (state.tells (state.summaries source))

def answer (state : State) (files : FileTree) (input : String) : Except Text.OffsetFault Reply :=
  if Text.allBlank input.toList then .ok (state.tells "")
  else match Command.parse input with
    | some (command, argument) => state.execute files command argument
    | none => state.showSource none input

end State

structure Transcript where
  output : String
  errors : String
  state : State
  left : Bool
  deriving DecidableEq, Repr

def converse (files : FileTree) (invitation : State → String) (state : State) :
    List String → Except Text.OffsetFault Transcript
  | [] => .ok ⟨invitation state, "", state, false⟩
  | input :: inputs => do
    let reply ← state.answer files input
    let output := invitation state ++ reply.output
    if reply.goesOn then do
      let rest ← converse files invitation reply.state inputs
      return { rest with output := output ++ rest.output, errors := reply.errors ++ rest.errors }
    else return ⟨output, reply.errors, reply.state, true⟩

end ScriptTokens.Prompt
