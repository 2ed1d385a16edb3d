namespace ScriptTokens

inductive Json
  | number (value : Nat)
  | string (value : String)
  | array (elements : List Json)
  | object (members : List (String × Json))

namespace Json

def hexDigit (n : Nat) : Char := Nat.digitChar n

def escapeChar (c : Char) : List Char :=
  if c = '"' then ['\\', '"']
  else if c = '\\' then ['\\', '\\']
  else if c = '\n' then ['\\', 'n']
  else if c = '\r' then ['\\', 'r']
  else if c = '\t' then ['\\', 't']
  else if c = '\x08' then ['\\', 'b']
  else if c = '\x0c' then ['\\', 'f']
  else if c.toNat < 0x20 then
    ['\\', 'u', '0', '0', hexDigit (c.toNat / 16), hexDigit (c.toNat % 16)]
  else [c]

def quote (text : String) : String :=
  "\"" ++ String.ofList (text.toList.flatMap escapeChar) ++ "\""

def newline (depth : Nat) : String := "\n" ++ String.ofList (List.replicate (2 * depth) ' ')

mutual

def render (depth : Nat) : Json → String
  | number value => toString value
  | string value => quote value
  | array [] => "[]"
  | array (first :: more) =>
    "[" ++ newline (depth + 1) ++ render (depth + 1) first ++ renderElements (depth + 1) more ++
      newline depth ++ "]"
  | object [] => "\x7b\x7d"
  | object (first :: more) =>
    "\x7b" ++ newline (depth + 1) ++ renderMember (depth + 1) first ++
      renderMembers (depth + 1) more ++ newline depth ++ "\x7d"

def renderElements (depth : Nat) : List Json → String
  | [] => ""
  | element :: more =>
    "," ++ newline depth ++ render depth element ++ renderElements depth more

def renderMember (depth : Nat) : String × Json → String
  | (name, value) => quote name ++ ": " ++ render depth value

def renderMembers (depth : Nat) : List (String × Json) → String
  | [] => ""
  | member :: more =>
    "," ++ newline depth ++ renderMember depth member ++ renderMembers depth more

end

def pretty (document : Json) : String := render 0 document

end Json

end ScriptTokens
