import ScriptTokens.Config
import ScriptTokens.Failure
import ScriptTokens.Toml.Document

/-!
# Configuration files

A configuration file is a TOML document whose keys name settings, with underscores; other keys are
left alone. A file is merged as a whole or not at all. `toToml` writes a configuration in the form
of such a file.
-/

namespace ScriptTokens

open Toml

def Toml.Item.isHollow : Item → Bool
  | .array [] | .table _ [] => true
  | _ => false

/-- The format an item stands for: its name, or a table with that name over something hollow. -/
def Format.ofItem? : Item → Option Format
  | .string name => ofName? name
  | .table _ [(name, item)] => if item.isHollow then ofName? name else none
  | _ => none

def Toml.Item.toBool? : Item → Option Bool
  | .boolean value => some value
  | _ => none

def Toml.Item.toNat? : Item → Option Nat
  | .integer value => if 0 ≤ value then some value.toNat else none
  | _ => none

def Toml.Entries.setting? {α : Type} (entries : Entries) (key : String)
    (read? : Item → Option α) : Option (Option α) :=
  match entries.find? key with
  | none => some none
  | some item => (read? item).map some

namespace Overrides

def ofEntries? (entries : Entries) : Option Overrides := do
  return {
    format := ← entries.setting? "format" Format.ofItem?
    color := ← entries.setting? "color" Item.toBool?
    docsOnly := ← entries.setting? "docs_only" Item.toBool?
    historySize := ← entries.setting? "history_size" Item.toNat? }

def parse? (text : String) : Option Overrides := (Toml.parse? text).bind ofEntries?

end Overrides

namespace Config

def mergeFile (config : Config) (files : FileTree) (path : String) : Except Failure Config :=
  match files.read path with
  | .error fault => .error (.unreadable path fault)
  | .ok text =>
    match Overrides.parse? text with
    | some overrides => .ok (config.override overrides)
    | none => .error (.invalidConfig path)

def switchText (value : Bool) : String := if value then "true" else "false"

def toToml (config : Config) : Except Failure String :=
  if config.historySize < integerLimit then
    .ok ("format = \"" ++ config.format.name ++ "\"\n" ++
      "color = " ++ switchText config.color ++ "\n" ++
      "docs_only = " ++ switchText config.docsOnly ++ "\n" ++
      "history_size = " ++ toString config.historySize ++ "\n")
  else .error .oversizedHistory

def projectFile : String := ".doclex.toml"

def joinPath (path name : String) : String :=
  if path.toList.getLast? = some '/' then path ++ name else path ++ "/" ++ name

def environmentValue? (environment : List (String × String)) (name : String) : Option String :=
  ((environment.find? (·.1 == name)).map (·.2)).filter (· != "")

def userFolder? (environment : List (String × String)) (name below : String) : Option String :=
  match (environmentValue? environment name).filter (·.toList.head? == some '/') with
  | some folder => some folder
  | none => (environmentValue? environment "HOME").map (joinPath · below)

def userFile? (environment : List (String × String)) : Option String :=
  (userFolder? environment "XDG_CONFIG_HOME" ".config").map fun folder =>
    joinPath (joinPath folder "doclex") "config.toml"

def historyFolder (environment : List (String × String)) : String :=
  joinPath ((userFolder? environment "XDG_DATA_HOME" ".local/share").getD ".") "doclex"

def mergeExisting (config : Config) (files : FileTree) (path : String) : Except Failure Config :=
  if files.contains path then config.mergeFile files path else .ok config

/-- The configuration of all layers, the lowest first: the defaults, the user's file, the
project's file, the file asked for, and the environment. -/
def load (files : FileTree) (environment : List (String × String)) (asked : Option String) :
    Except Failure Config := do
  let config ← (userFile? environment).elim (.ok default) (default.mergeExisting files)
  let config ← config.mergeExisting files projectFile
  let config ← asked.elim (.ok config) (config.mergeFile files)
  return (config.setVariables environment).1

end Config

end ScriptTokens
