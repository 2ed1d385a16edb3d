import ScriptTokens.Text.Blank
import ScriptTokens.Text.Lowercase

namespace ScriptTokens

inductive Format
  | text
  | json
  deriving DecidableEq, Repr

namespace Format

def name : Format → String
  | text => "text"
  | json => "json"

def ofName? : String → Option Format
  | "text" => some .text
  | "json" => some .json
  | _ => none

end Format

def asciiLowercase (text : String) : String := String.ofList (text.toList.map Char.toLower)

structure UnknownFormat where
  name : String
  deriving DecidableEq, Repr

def UnknownFormat.message (fault : UnknownFormat) : String :=
  "unknown format `" ++ fault.name ++ "`"

def Format.parse (text : String) : Except UnknownFormat Format :=
  match ofName? (asciiLowercase text) with
  | some format => .ok format
  | none => .error ⟨asciiLowercase text⟩

def parseSwitch? (text : String) : Option Bool :=
  match asciiLowercase text with
  | "1" | "true" | "yes" | "on" => some true
  | "0" | "false" | "no" | "off" => some false
  | _ => none

def decimalValue (digits : List Char) : Nat :=
  digits.foldl (fun value digit => value * 10 + (digit.toNat - '0'.toNat)) 0

def sizeLimit : Nat := 18446744073709551616

def parseSize? (text : String) : Option Nat :=
  let digits := match text.toList with
    | '+' :: digits => digits
    | digits => digits
  if digits.isEmpty || !digits.all Char.isDigit then none
  else if decimalValue digits < sizeLimit then some (decimalValue digits)
  else none

structure Config where
  format : Format
  color : Bool
  docsOnly : Bool
  historySize : Nat
  deriving DecidableEq, Repr

inductive Notice
  | unknownKey (key : String)
  | unknownFormat (key : String) (fault : UnknownFormat)
  | noSwitch (key value : String)
  | noSize (key value : String)
  | merged (path : String)
  deriving DecidableEq, Repr

namespace Notice

inductive Level
  | debug
  | warn
  deriving DecidableEq, Repr

def level : Notice → Level
  | unknownKey _ | merged _ => .debug
  | unknownFormat .. | noSwitch .. | noSize .. => .warn

def message : Notice → String
  | unknownKey key => "Unknown config key " ++ key
  | unknownFormat key fault => "Ignoring " ++ key ++ ": " ++ fault.message
  | noSwitch key value => "Ignoring " ++ key ++ ": expected a boolean, got `" ++ value ++ "`"
  | noSize key value => "Ignoring " ++ key ++ ": expected a number, got `" ++ value ++ "`"
  | merged path => "Merging config from " ++ path

end Notice

inductive Assignment
  | format (format : Format)
  | color (color : Bool)
  | docsOnly (docsOnly : Bool)
  | historySize (size : Nat)
  deriving DecidableEq, Repr

def Assignment.parse (key value : String) : Except Notice Assignment :=
  match key with
  | "format" =>
    match Format.parse value with
    | .ok parsed => .ok (.format parsed)
    | .error fault => .error (.unknownFormat key fault)
  | "color" => ((parseSwitch? value).map Assignment.color).elim (.error (.noSwitch key value)) .ok
  | "docs-only" =>
    ((parseSwitch? value).map Assignment.docsOnly).elim (.error (.noSwitch key value)) .ok
  | "history-size" =>
    ((parseSize? value).map Assignment.historySize).elim (.error (.noSize key value)) .ok
  | _ => .error (.unknownKey key)

structure Overrides where
  format : Option Format
  color : Option Bool
  docsOnly : Option Bool
  historySize : Option Nat
  deriving DecidableEq, Repr

namespace Config

def default : Config := ⟨.text, true, false, 1000⟩

def assign (config : Config) : Assignment → Config
  | .format format => { config with format }
  | .color color => { config with color }
  | .docsOnly docsOnly => { config with docsOnly }
  | .historySize historySize => { config with historySize }

def set (config : Config) (key value : String) : Config × List Notice :=
  match Assignment.parse key value with
  | .ok assignment => (config.assign assignment, [])
  | .error notice => (config, [notice])

def variableKey? (name : String) : Option String :=
  (Text.stripStart? "DOCLEX_".toList name.toList).map fun key =>
    String.ofList ((Text.lowercase key).map fun c => if c = '_' then '-' else c)

def setVariable (config : Config) (name value : String) : Config × List Notice :=
  if name = "NO_COLOR" ∧ value ≠ "" then (config.assign (.color false), [])
  else if name = "DOCLEX_LOG" then (config, [])
  else match variableKey? name with
    | some key => config.set key value
    | none => (config, [])

def setVariables (config : Config) : List (String × String) → Config × List Notice
  | [] => (config, [])
  | (name, value) :: environment =>
    let (config, notices) := config.setVariable name value
    let (config, more) := config.setVariables environment
    (config, notices ++ more)

def override (config : Config) (overrides : Overrides) : Config :=
  { format := overrides.format.getD config.format
    color := overrides.color.getD config.color
    docsOnly := overrides.docsOnly.getD config.docsOnly
    historySize := overrides.historySize.getD config.historySize }

end Config

end ScriptTokens
