import ScriptTokens.Text.Bytes

namespace ScriptTokens

structure Position where
  line : Nat
  column : Nat
  deriving DecidableEq, Repr

structure Line where
  start : Nat
  text : List Char
  deriving DecidableEq, Repr

def linesBehind (start : Nat) : List Char → List Line
  | [] => []
  | c :: cs =>
    let next := start + c.utf8Size
    if c = '\n' then ⟨next, cs⟩ :: linesBehind next cs else linesBehind next cs

structure LineIndex where
  first : Line
  more : List Line
  deriving DecidableEq, Repr

namespace LineIndex

def ofText (source : List Char) : LineIndex := ⟨⟨0, source⟩, linesBehind 0 source⟩

/-- The number of lines before the one an offset lies in, and that line: `line`, which has `before`
lines before it, or one of those that follow. -/
def lineAt (offset before : Nat) (line : Line) : List Line → Nat × Line
  | [] => (before, line)
  | next :: more =>
    if next.start ≤ offset then lineAt offset (before + 1) next more else (before, line)

def position (index : LineIndex) (offset : Nat) : Except Text.OffsetFault Position := do
  let (before, line) := lineAt offset 0 index.first index.more
  let count ← Text.countAtByte 0 (offset - line.start) line.text
  return ⟨before + 1, count + 1⟩

end LineIndex

end ScriptTokens
