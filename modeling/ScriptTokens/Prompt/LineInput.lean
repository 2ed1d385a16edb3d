import ScriptTokens.Prompt.Continuation
import ScriptTokens.Prompt.Highlight
import ScriptTokens.Text.Cluster

namespace ScriptTokens.Prompt

def byteLines : List UInt8 → List (List UInt8)
  | [] => []
  | byte :: bytes =>
    if byte = 10 then [byte] :: byteLines bytes
    else match byteLines bytes with
      | [] => [[byte]]
      | line :: lines => (byte :: line) :: lines

def decode? (bytes : List UInt8) : Option (List Char) :=
  (String.fromUTF8? ⟨bytes.toArray⟩).map (·.toList)

/-- Clusters after every backspace among them took the one before it, given those that are left of
the clusters before them, the latest first. -/
def applyBackspaces (kept : List (List Char)) : List (List Char) → List (List Char)
  | [] => kept.reverse
  | cluster :: clusters =>
    if cluster = ['\x08'] then applyBackspaces kept.tail clusters
    else applyBackspaces (cluster :: kept) clusters

def withBackspaces (text : List Char) : List Char :=
  (applyBackspaces [] (Text.clusters text)).flatten

def splitLineEnd (text : List Char) : List Char × List Char :=
  match text.reverse with
  | '\n' :: '\r' :: before => (before.reverse, ['\r', '\n'])
  | '\n' :: before => (before.reverse, ['\n'])
  | before => (before.reverse, [])

def isIncomplete (input : String) : Bool := !startsWithPoint input && needsMore input

inductive Ending
  | endOfInput
  | notText
  deriving DecidableEq, Repr

def inputsOf (pending : List Char) : List (List UInt8) → List String × Ending
  | [] => ([], .endOfInput)
  | line :: lines =>
    match decode? line with
    | none => ([], .notText)
    | some text =>
      let (body, lineEnd) := splitLineEnd (pending ++ text)
      let input := withBackspaces body
      if isIncomplete (String.ofList input) then inputsOf (input ++ lineEnd) lines
      else
        let (inputs, ending) := inputsOf [] lines
        (String.ofList input :: inputs, ending)

def inputs (bytes : ByteArray) : List String × Ending := inputsOf [] (byteLines bytes.toList)

end ScriptTokens.Prompt
