import ScriptTokens.Config.File
import ScriptTokens.Prompt.Dialogue

/-!
# The program

A run takes a command line, the environment, the files and what stands on the input, and ends with
an exit code and two texts. It shows its configuration, the tokens of a source given as text, or
the tokens of files, all of them or none; without any of these it starts the prompt.
-/

namespace ScriptTokens

structure Invocation where
  arguments : List String
  environment : List (String × String)
  files : FileTree
  input : ByteArray

structure Outcome where
  code : Nat
  output : String
  errors : String
  deriving DecidableEq, Repr

namespace Program

def configVariable (environment : List (String × String)) : Option String :=
  (environment.find? (·.1 == "DOCLEX_CONFIG")).map (·.2)

def plainErrors (arguments : Arguments) (environment : List (String × String)) : Bool :=
  arguments.noColor || (Config.environmentValue? environment "NO_COLOR").isSome

def errorLine (plain : Bool) (failure : Failure) : String :=
  (if plain then "Error" else Effect.bold.layer (Color.red.layer "Error")) ++ ": " ++
    failure.message ++ "\n"

def reports (files : FileTree) (docsOnly : Bool) (paths : List String) :
    Except Failure (List Report) :=
  paths.mapM fun path =>
    match files.read path with
    | .ok source => .ok (Report.ofSource (some path) source docsOnly)
    | .error fault => .error (.unreadable path fault)

def write (config : Config) (reports : List Report) : Except Failure String :=
  (Report.render reports config).mapError .offset

def isPlainTerminal (environment : List (String × String)) : Bool :=
  match Config.environmentValue? environment "TERM" with
  | some name => ["dumb", "cons25", "emacs"].contains (asciiLowercase name)
  | none => false

def startsPrompt (arguments : Arguments) : Bool :=
  !arguments.showConfig && arguments.eval.isNone && arguments.files.isEmpty

def loadedPath? (input : String) : Option String :=
  match Prompt.Command.parse input with
  | some (.load, path) => path
  | _ => none

def paths (arguments : Arguments) (environment : List (String × String)) (input : ByteArray) :
    List String :=
  (Config.userFile? environment).toList ++ Config.projectFile :: arguments.config.toList ++
    arguments.files ++ (Prompt.inputs input).1.filterMap loadedPath?

def variableNames : List String :=
  ["DOCLEX_COLOR", "DOCLEX_CONFIG", "DOCLEX_DOCS_ONLY", "DOCLEX_FORMAT", "DOCLEX_HISTORY_SIZE",
    "HOME", "NO_COLOR", "TERM", "XDG_CONFIG_HOME", "XDG_DATA_HOME"]

def runPrompt (invocation : Invocation) (config : Config) :
    Except Failure (Prompt.Transcript × Option Failure) := do
  let state := Prompt.State.ofConfig config
  let files := invocation.files.makeFolder (Config.historyFolder invocation.environment)
  let invitation := if isPlainTerminal invocation.environment then
    Prompt.State.promptText else fun _ => ""
  let (inputs, ending) := Prompt.inputs invocation.input
  let said ← (Prompt.converse files invitation state inputs).mapError .offset
  let said := { said with output := state.banner ++ said.output }
  if said.left then return (said, none)
  match ending with
  | .endOfInput => return ({ said with output := said.output ++ said.state.farewell }, none)
  | .notText => return (said, some (.input .notText))

def perform (invocation : Invocation) (arguments : Arguments) :
    Except Failure (String × String × Option Failure) := do
  let loaded ← Config.load invocation.files invocation.environment arguments.config
  let config := loaded.override arguments.overrides
  if arguments.showConfig then
    return (← config.toToml, "", none)
  if let some source := arguments.eval then
    return (← write config [Report.ofSource none source config.docsOnly], "", none)
  if arguments.files.isEmpty then
    let (said, failure) ← runPrompt invocation config
    return (said.output, said.errors, failure)
  let reports ← reports invocation.files config.docsOnly arguments.files
  return (← write config reports, "", none)

def runWith (invocation : Invocation) (arguments : Arguments) : Outcome :=
  let plain := plainErrors arguments invocation.environment
  match perform invocation arguments with
  | .ok (output, errors, none) => ⟨0, output, errors⟩
  | .ok (output, errors, some failure) => ⟨1, output, errors ++ errorLine plain failure⟩
  | .error failure => ⟨1, "", errorLine plain failure⟩

def run (invocation : Invocation) : Outcome :=
  let fromEnvironment := configVariable invocation.environment
  match CommandLine.parse invocation.arguments fromEnvironment with
  | .ok arguments => runWith invocation arguments
  | .error (.help long) => ⟨0, CommandLine.help long fromEnvironment, ""⟩
  | .error .version => ⟨0, CommandLine.versionText, ""⟩
  | .error (.fault fault) => ⟨2, "", fault.message⟩

end Program

end ScriptTokens
