import ScriptTokens.Config

namespace ScriptTokens

structure Arguments where
  files : List String
  eval : Option String
  format : Option Format
  docs : Bool
  noColor : Bool
  config : Option String
  showConfig : Bool
  verbose : Bool
  deriving DecidableEq, Repr

namespace Arguments

def none : Arguments := ⟨[], .none, .none, false, false, .none, false, false⟩

def overrides (arguments : Arguments) : Overrides :=
  { format := arguments.format
    color := if arguments.noColor then some false else .none
    docsOnly := if arguments.docs then some true else .none
    historySize := .none }

end Arguments

inductive UsageFault
  | conflict
  | badValue
  | unwantedValue
  | unknownOption
  deriving DecidableEq, Repr

inductive Stop
  | help (long : Bool)
  | version
  | fault (fault : UsageFault)
  deriving DecidableEq, Repr

namespace CommandLine

inductive Flag
  | docs
  | noColor
  | showConfig
  | verbose
  deriving DecidableEq, Repr

inductive Setting
  | eval
  | format
  | config
  deriving DecidableEq, Repr

inductive Switch
  | flag (flag : Flag)
  | setting (setting : Setting)
  | help
  | version
  deriving DecidableEq, Repr

def longSwitch? : String → Option Switch
  | "eval" => some (.setting .eval)
  | "format" => some (.setting .format)
  | "docs" => some (.flag .docs)
  | "no-color" => some (.flag .noColor)
  | "config" => some (.setting .config)
  | "show-config" => some (.flag .showConfig)
  | "verbose" => some (.flag .verbose)
  | "help" => some .help
  | "version" => some .version
  | _ => none

def shortSwitch? : Char → Option Switch
  | 'e' => some (.setting .eval)
  | 'v' => some (.flag .verbose)
  | 'h' => some .help
  | 'V' => some .version
  | _ => none

inductive Pending
  | nothing
  | setting (setting : Setting) (value : Option String)
  | files (files : List String)
  deriving DecidableEq, Repr

structure Reading where
  arguments : Arguments
  pending : Pending
  deriving DecidableEq, Repr

def assign (arguments : Arguments) (setting : Setting) (value : String) :
    Except Stop Arguments :=
  match setting with
  | .eval =>
    if arguments.eval.isSome then .error (.fault .conflict)
    else .ok { arguments with eval := some value }
  | .format =>
    if arguments.format.isSome then .error (.fault .conflict)
    else match Format.ofName? value with
      | some format => .ok { arguments with format := some format }
      | none => .error (.fault .badValue)
  | .config =>
    if arguments.config.isSome then .error (.fault .conflict)
    else if value = "" then .error (.fault .badValue)
    else .ok { arguments with config := some value }

def Reading.settle (reading : Reading) : Except Stop Arguments :=
  match reading.pending with
  | .nothing => .ok reading.arguments
  | .setting _ none => .error (.fault .badValue)
  | .setting setting (some value) => assign reading.arguments setting value
  | .files files =>
    if files.contains "" then .error (.fault .badValue)
    else .ok { reading.arguments with files := reading.arguments.files ++ files }

def raise (arguments : Arguments) (flag : Flag) : Except Stop Arguments :=
  let isSet := match flag with
    | .docs => arguments.docs
    | .noColor => arguments.noColor
    | .showConfig => arguments.showConfig
    | .verbose => arguments.verbose
  if isSet then .error (.fault .conflict)
  else .ok <| match flag with
    | .docs => { arguments with docs := true }
    | .noColor => { arguments with noColor := true }
    | .showConfig => { arguments with showConfig := true }
    | .verbose => { arguments with verbose := true }

def Reading.takeFlag (reading : Reading) (flag : Flag) : Except Stop Reading := do
  return ⟨← raise (← reading.settle) flag, .nothing⟩

def Reading.takeAttached (reading : Reading) (setting : Setting) (value : String) :
    Except Stop Reading := do
  return ⟨← assign (← reading.settle) setting value, .nothing⟩

def Reading.takeSetting (reading : Reading) (setting : Setting) : Except Stop Reading := do
  return ⟨← reading.settle, .setting setting none⟩

def Reading.stop (reading : Reading) (stop : Stop) : Except Stop Reading := do
  let _ ← reading.settle
  throw stop

def Reading.takeFile (reading : Reading) (file : String) : Except Stop Reading :=
  match reading.pending with
  | .files files => .ok { reading with pending := .files (files ++ [file]) }
  | _ => do return ⟨← reading.settle, .files [file]⟩

def splitEquals (cs : List Char) : String × Option String :=
  (String.ofList (cs.takeWhile (· != '=')),
    match cs.dropWhile (· != '=') with
    | [] => none
    | _ :: value => some (String.ofList value))

def Reading.takeLong (reading : Reading) (cs : List Char) : Except Stop Reading :=
  match splitEquals cs with
  | (name, value) =>
    match longSwitch? name, value with
    | none, _ => .error (.fault .unknownOption)
    | some (.setting setting), some value => reading.takeAttached setting value
    | some (.setting setting), none => reading.takeSetting setting
    | some _, some _ => .error (.fault .unwantedValue)
    | some (.flag flag), none => reading.takeFlag flag
    | some .help, none => reading.stop (.help true)
    | some .version, none => reading.stop .version

def Reading.takeLetters (reading : Reading) : List Char → Except Stop Reading
  | [] => .ok reading
  | c :: cs =>
    match shortSwitch? c with
    | none => .error (.fault .unknownOption)
    | some .help => reading.stop (.help false)
    | some .version => reading.stop .version
    | some (.flag flag) => do (← reading.takeFlag flag).takeLetters cs
    | some (.setting setting) =>
      match cs with
      | [] => reading.takeSetting setting
      | '=' :: value => reading.takeAttached setting (String.ofList value)
      | value => reading.takeAttached setting (String.ofList value)

def Reading.take (reading : Reading) (argument : String) : Except Stop Reading :=
  match argument.toList with
  | '-' :: '-' :: name => reading.takeLong name
  | '-' :: c :: cs => reading.takeLetters (c :: cs)
  | _ =>
    match reading.pending with
    | .setting setting none => .ok { reading with pending := .setting setting (some argument) }
    | _ => reading.takeFile argument

def readAll (filesOnly : Bool) (reading : Reading) : List String → Except Stop Arguments
  | [] => reading.settle
  | argument :: more =>
    if filesOnly then do readAll true (← reading.takeFile argument) more
    else if argument = "--" then readAll true reading more
    else do readAll false (← reading.take argument) more

def configFrom (arguments : Arguments) (fromEnvironment : Option String) : Except Stop Arguments :=
  match arguments.config, fromEnvironment with
  | none, some path => assign arguments .config path
  | _, _ => .ok arguments

def parse (line : List String) (fromEnvironment : Option String) : Except Stop Arguments := do
  let arguments ← readAll false ⟨.none, .nothing⟩ line
  let arguments ← configFrom arguments fromEnvironment
  if arguments.eval.isSome ∧ arguments.files ≠ [] then throw (.fault .conflict)
  return arguments

end CommandLine

end ScriptTokens
