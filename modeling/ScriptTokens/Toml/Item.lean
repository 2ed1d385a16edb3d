namespace ScriptTokens.Toml

inductive Origin
  | header
  | passage
  | dotted
  | braces
  deriving DecidableEq, Repr

inductive Item
  | string (text : String)
  | integer (value : Int)
  | float
  | boolean (value : Bool)
  | moment
  | array (items : List Item)
  | table (origin : Origin) (entries : List (String × Item))
  | tables (elements : List (List (String × Item)))

abbrev Entries := List (String × Item)

namespace Entries

def find? (entries : Entries) (key : String) : Option Item :=
  (List.find? (·.1 == key) entries).map (·.2)

def replace (entries : Entries) (key : String) (item : Item) : Entries :=
  entries.map fun entry => if entry.1 == key then (key, item) else entry

def insert? (entries : Entries) (key : String) (item : Item) : Option Entries :=
  if (entries.find? key).isSome then none else some (entries ++ [(key, item)])

end Entries

/-- Changes the table at the end of a path, given with its origin. Tables missing on the way are
passages of a header or of a dotted key. The way leads through the last of several tables under
one key, and neither through tables in braces nor, for a dotted key, through tables of headers. -/
def changeAt (dotted : Bool) (change : Origin → Entries → Option Entries) :
    List String → Origin → Entries → Option Entries
  | [], origin, entries => change origin entries
  | key :: path, _, entries =>
    match entries.find? key with
    | none => do
      let origin := if dotted then .dotted else .passage
      let inner ← changeAt dotted change path origin []
      return entries ++ [(key, .table origin inner)]
    | some (.table origin inner) =>
      if origin = .braces ∨ (dotted ∧ origin = .header) then none
      else do
        let inner ← changeAt dotted change path origin inner
        return entries.replace key (.table origin inner)
    | some (.tables elements) => do
      let inner ← changeAt dotted change path .header (elements.getLast?.getD [])
      return entries.replace key (.tables (elements.dropLast ++ [inner]))
    | some _ => none

def addEntry (path : List String) (key : String) (item : Item) (origin : Origin)
    (entries : Entries) : Option Entries :=
  changeAt true
    (fun reached entries =>
      if (reached == .dotted) == path.isEmpty then none else entries.insert? key item)
    path origin entries

def openTable (path : List String) (key : String) (entries : Entries) : Option Entries :=
  changeAt false
    (fun _ entries =>
      match entries.find? key with
      | none => entries.insert? key (.table .header [])
      | some (.table .passage inner) => some (entries.replace key (.table .header inner))
      | some _ => none)
    path .header entries

def openElement (path : List String) (key : String) (entries : Entries) : Option Entries :=
  changeAt false
    (fun _ entries =>
      match entries.find? key with
      | none => entries.insert? key (.tables [[]])
      | some (.tables elements) => some (entries.replace key (.tables (elements ++ [[]])))
      | some _ => none)
    path .header entries

end ScriptTokens.Toml
