namespace ScriptTokens

inductive ReadFault
  | notFound
  | notAFolder
  | isAFolder
  | notText
  deriving DecidableEq, Repr

def ReadFault.message : ReadFault → String
  | notFound => "No such file or directory (os error 2)"
  | notAFolder => "Not a directory (os error 20)"
  | isAFolder => "Is a directory (os error 21)"
  | notText => "stream did not contain valid UTF-8"

inductive FileEntry
  | file (content : ByteArray)
  | folder

structure FileTree where
  entries : List (List String × FileEntry)

namespace FileTree

def empty : FileTree := ⟨[]⟩

def names (path : String) : List String := (path.toList.splitOn '/').map String.ofList

def origin (path : String) : List String := if path.toList.head? = some '/' then ["/"] else []

def above (place : List String) : List String :=
  match place.getLast? with
  | none | some ".." => place ++ [".."]
  | some "/" => place
  | some _ => place.dropLast

def isTurn (name : String) : Bool := name == "" || name == "." || name == ".."

def enter (place : List String) (name : String) : List String :=
  if name = "" ∨ name = "." then place
  else if name = ".." then above place
  else place ++ [name]

def placeOf (path : String) : List String := (names path).foldl enter (origin path)

def entryAt? (tree : FileTree) (place : List String) : Option FileEntry :=
  match tree.entries.find? (·.1 == place) with
  | some (_, entry) => some entry
  | none => if tree.entries.any (place.isPrefixOf ·.1) then some .folder else none

def follow (tree : FileTree) (place : List String) : List String → Except ReadFault FileEntry
  | [] => .ok .folder
  | name :: more =>
    let next := enter place name
    if isTurn name then tree.follow next more
    else match tree.entryAt? next with
      | none => .error .notFound
      | some .folder => tree.follow next more
      | some (.file content) => if more.isEmpty then .ok (.file content) else .error .notAFolder

def lookup (tree : FileTree) (path : String) : Except ReadFault FileEntry :=
  if path = "" then .error .notFound else tree.follow (origin path) (names path)

def contains (tree : FileTree) (path : String) : Bool := (tree.lookup path).isOk

def read (tree : FileTree) (path : String) : Except ReadFault String :=
  match tree.lookup path with
  | .error fault => .error fault
  | .ok .folder => .error .isAFolder
  | .ok (.file content) =>
    match String.fromUTF8? content with
    | some text => .ok text
    | none => .error .notText

def insert (tree : FileTree) (path : String) (entry : FileEntry) : FileTree :=
  ⟨(placeOf path, entry) :: tree.entries.filter (·.1 != placeOf path)⟩

def makeFolder (tree : FileTree) (path : String) : FileTree :=
  match tree.lookup path with
  | .error .notFound => tree.insert path .folder
  | _ => tree

end FileTree

end ScriptTokens
