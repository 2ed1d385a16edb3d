import ScriptTokens.Toml.Literal

namespace ScriptTokens.Toml

/-- How deep arrays and tables in braces may nest, and how many parts a key may have. -/
def nestingLimit : Nat := 79

def skipSpace (cs : List Char) : List Char := cs.dropWhile fun c => c == ' ' || c == '\t'

def skipComment : List Char → List Char
  | '#' :: cs => cs.dropWhile isTextChar
  | cs => cs

def lineEnd? (cs : List Char) : Option (List Char) :=
  match skipComment (skipSpace cs) with
  | [] => some []
  | '\n' :: cs => some cs
  | '\r' :: '\n' :: cs => some cs
  | _ => none

def skipLines (comment : Bool) : List Char → List Char
  | [] => []
  | '\n' :: cs => skipLines false cs
  | '\r' :: '\n' :: cs => skipLines false cs
  | c :: cs =>
    if comment then (if isTextChar c then skipLines true cs else c :: cs)
    else if c = '#' then skipLines true cs
    else if c = ' ' ∨ c = '\t' then skipLines false cs
    else c :: cs

def isKeyChar (c : Char) : Bool := c.isAlphanum || c == '-' || c == '_'

def readKey? : List Char → Option (String × List Char)
  | '"' :: cs => readLine? '"' cs
  | '\'' :: cs => readLine? '\'' cs
  | cs =>
    if cs.head?.any isKeyChar then
      some (String.ofList (cs.takeWhile isKeyChar), cs.dropWhile isKeyChar)
    else none

def readPath? : Nat → List Char → Option (List String × String × List Char)
  | 0, _ => none
  | parts + 1, cs => do
    let (key, rest) ← readKey? (skipSpace cs)
    match skipSpace rest with
    | '.' :: rest => do
      let (path, last, rest) ← readPath? parts rest
      return (key :: path, last, rest)
    | rest => return ([], key, rest)

def readElements? (readItem? : List Char → Option (Item × List Char)) :
    Nat → List Char → Option (List Item × List Char)
  | 0, _ => none
  | fuel + 1, cs =>
    match skipLines false cs with
    | ']' :: rest => some ([], rest)
    | cs => do
      let (item, rest) ← readItem? cs
      match skipLines false rest with
      | ',' :: rest => do
        let (items, rest) ← readElements? readItem? fuel rest
        return (item :: items, rest)
      | ']' :: rest => return ([item], rest)
      | _ => none

def readEntries? (readItem? : List Char → Option (Item × List Char)) :
    Nat → Entries → List Char → Option (Entries × List Char)
  | 0, _, _ => none
  | fuel + 1, entries, cs => do
    let (path, key, rest) ← readPath? nestingLimit cs
    match rest with
    | '=' :: rest => do
      let (item, rest) ← readItem? (skipSpace rest)
      let entries ← addEntry path key item .braces entries
      match skipSpace rest with
      | ',' :: rest => readEntries? readItem? fuel entries rest
      | '\x7d' :: rest => return (entries, rest)
      | _ => none
    | _ => none

def readValue? : Nat → List Char → Option (Item × List Char)
  | _, '"' :: cs => (readString? '"' cs).map fun (text, rest) => (.string text, rest)
  | _, '\'' :: cs => (readString? '\'' cs).map fun (text, rest) => (.string text, rest)
  | depth + 1, '[' :: cs => do
    let (items, rest) ← readElements? (readValue? depth) (cs.length + 1) cs
    return (.array items, rest)
  | depth + 1, '\x7b' :: cs =>
    match skipSpace cs with
    | '\x7d' :: rest => some (.table .braces [], rest)
    | cs => do
      let (entries, rest) ← readEntries? (readValue? depth) (cs.length + 1) [] cs
      return (.table .braces entries, rest)
  | _, cs => readScalar? cs

structure Draft where
  entries : Entries
  table : List String

def Draft.add (draft : Draft) (path : List String) (key : String) (item : Item) :
    Option Draft := do
  let entries ← changeAt false (addEntry path key item) draft.table .header draft.entries
  return { draft with entries }

def readLines? : Nat → Draft → List Char → Option Draft
  | 0, _, _ => none
  | fuel + 1, draft, cs =>
    match skipSpace cs with
    | [] => some draft
    | '#' :: cs => do readLines? fuel draft (← lineEnd? ('#' :: cs))
    | '\n' :: cs => readLines? fuel draft cs
    | '\r' :: '\n' :: cs => readLines? fuel draft cs
    | '[' :: '[' :: cs => do
      let (path, key, rest) ← readPath? nestingLimit cs
      match rest with
      | ']' :: ']' :: rest => do
        let entries ← openElement path key draft.entries
        readLines? fuel ⟨entries, path ++ [key]⟩ (← lineEnd? rest)
      | _ => none
    | '[' :: cs => do
      let (path, key, rest) ← readPath? nestingLimit cs
      match rest with
      | ']' :: rest => do
        let entries ← openTable path key draft.entries
        readLines? fuel ⟨entries, path ++ [key]⟩ (← lineEnd? rest)
      | _ => none
    | cs => do
      let (path, key, rest) ← readPath? nestingLimit cs
      match rest with
      | '=' :: rest => do
        let (item, rest) ← readValue? nestingLimit (skipSpace rest)
        readLines? fuel (← draft.add path key item) (← lineEnd? rest)
      | _ => none

def dropMark : List Char → List Char
  | '\ufeff' :: cs => cs
  | cs => cs

def parse? (text : String) : Option Entries :=
  let cs := dropMark text.toList
  (readLines? (cs.length + 1) ⟨[], []⟩ cs).map (·.entries)

end ScriptTokens.Toml
