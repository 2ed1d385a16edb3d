import ScriptTokens.Prompt.Command
import ScriptTokens.Style
import ScriptTokens.Text.Bytes
import ScriptTokens.Text.Letter
import ScriptTokens.Token

namespace ScriptTokens.Prompt

def words : List String :=
  reservedWords ++ Kind.all.map (":" ++ ·.name) ++ Command.words

def isCompletable (c : Char) : Bool :=
  Text.isAlphanumeric c || c == '_' || c == '.' || c == ':'

def placed (start : Nat) : List Char → List (Nat × Char)
  | [] => []
  | c :: cs => (start, c) :: placed (start + c.utf8Size) cs

def behindLastBreak (text : List Char) : Nat :=
  match (placed 0 text).reverse.find? (!isCompletable ·.2) with
  | some (start, c) => start + c.utf8Size
  | none => 0

def wordStart (line : String) (pos : Nat) : Except Text.OffsetFault Nat := do
  let (before, _) ← Text.splitAtByte pos line.toList
  return behindLastBreak before

def startsWith (word : List Char) (candidate : String) : Bool :=
  word.isPrefixOf candidate.toList

def missing (size : Nat) (candidate : String) : Except Text.OffsetFault String := do
  let (_, rest) ← Text.splitAtByte size candidate.toList
  return String.ofList rest

structure Completion where
  word : String
  missing : String
  deriving DecidableEq, Repr

def complete (line : String) (pos : Nat) : Except Text.OffsetFault (List Completion) := do
  let word ← Text.slice line.toList (← wordStart line pos) pos
  if word.isEmpty then return []
  (words.filter (startsWith word)).mapM fun candidate => do
    return ⟨candidate, ← missing (Text.byteSize word) candidate⟩

structure Offer where
  start : Nat
  completions : List Completion
  deriving DecidableEq, Repr

def offer (line : String) (pos : Nat) : Except Text.OffsetFault Offer := do
  return ⟨pos, ← complete line pos⟩

def hint (color : Bool) (line : String) (pos : Nat) : Except Text.OffsetFault (Option String) := do
  if pos < line.utf8ByteSize then return none
  let (_, word) ← Text.splitAtByte (← wordStart line pos) line.toList
  let size := Text.byteSize word
  if size < 2 then return none
  match words.find? fun candidate => startsWith word candidate && size < candidate.utf8ByteSize with
  | none => return none
  | some candidate =>
    let rest ← missing size candidate
    return some (if color then Effect.dimmed.layer rest else rest)

end ScriptTokens.Prompt
