import ScriptTokens.Cursor

namespace ScriptTokens

structure Walk where
  cursor : Cursor
  marks : List Place
  deriving DecidableEq, Repr

namespace Walk

inductive Request
  | check (pattern : Pattern)
  | scan (pattern : Pattern)
  | scanGroups (pattern : Pattern)
  | scanUntil (pattern : Pattern)
  | save
  | restore (mark : Nat)
  | newlines
  | slice (start stop : Nat)
  | rest
  | text

inductive Answer
  | truth (holds : Bool)
  | piece (text : List Char)
  | piece? (text : Option (List Char))
  | groups? (texts : Option (List (Option (List Char))))
  | count (n : Nat)
  | done
  | fault (fault : Text.OffsetFault)
  deriving DecidableEq, Repr

def start (cursor : Cursor) : Walk := ⟨cursor, []⟩

/-- Answers one request. A mark that was never saved leaves the cursor where it is. -/
def step (walk : Walk) : Request → Answer × Walk
  | .check pattern => (.truth (walk.cursor.check pattern), walk)
  | .scan pattern =>
    let (text, cursor) := walk.cursor.scan pattern
    (.piece? text, { walk with cursor })
  | .scanGroups pattern =>
    let (texts, cursor) := walk.cursor.scanGroups pattern
    (.groups? texts, { walk with cursor })
  | .scanUntil pattern =>
    let (text, cursor) := walk.cursor.scanUntil pattern
    (.piece text, { walk with cursor })
  | .save => (.count walk.cursor.offset, { walk with marks := walk.marks ++ [walk.cursor.toPlace] })
  | .restore mark =>
    match walk.marks[mark]? with
    | some place => (.done, { walk with cursor := walk.cursor.restore place })
    | none => (.done, walk)
  | .newlines =>
    let (newlines, cursor) := walk.cursor.countNewlines
    (.count newlines, { walk with cursor })
  | .slice start stop =>
    match walk.cursor.slice start stop with
    | .ok text => (.piece text, walk)
    | .error fault => (.fault fault, walk)
  | .rest => (.piece walk.cursor.rest, walk)
  | .text => (.piece walk.cursor.text, walk)

end Walk

end ScriptTokens
