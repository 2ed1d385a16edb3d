import ScriptTokens.Pattern
import ScriptTokens.Text.Bytes

/-!
# Cursors

A cursor is a place in a text, moved forward over characters and back to places saved before.
Patterns never fail it: without a match the place stays as it was. Lines are counted by tally:
only the text between this and the last counted place is looked at, whichever lies first.
-/

namespace ScriptTokens

structure Place where
  passed : List Char
  rest : List Char
  offset : Nat
  offset_eq : offset = Text.byteSize passed
  deriving DecidableEq, Repr

namespace Place

def start (text : List Char) : Place := ⟨[], text, 0, rfl⟩

def text (place : Place) : List Char := place.passed.reverse ++ place.rest

def atEnd (place : Place) : Bool := place.rest.isEmpty

def skip (place : Place) (n : Nat) : Place :=
  { passed := (place.rest.take n).reverse ++ place.passed
    rest := place.rest.drop n
    offset := place.offset + Text.byteSize (place.rest.take n)
    offset_eq := by simp [place.offset_eq, Nat.add_comm] }

@[simp] theorem rest_skip (place : Place) (n : Nat) : (place.skip n).rest = place.rest.drop n := rfl

@[simp] theorem text_skip (place : Place) (n : Nat) : (place.skip n).text = place.text := by
  simp [text, skip]

end Place

/-- The last place where newlines were counted, in characters, and their count before it. -/
structure Tally where
  reached : Nat
  newlines : Nat
  deriving DecidableEq, Repr

structure Cursor extends Place where
  tally : Tally
  deriving DecidableEq, Repr

namespace Cursor

def ofText (text : List Char) : Cursor := ⟨.start text, ⟨0, 0⟩⟩

/-- A cursor at a byte offset, which moves forward to the start of a character and stops at the
end of the text. -/
def ofOffset (text : List Char) (offset : Nat) : Cursor :=
  ⟨(Place.start text).skip (Text.charsBefore offset text), ⟨0, 0⟩⟩

def skip (cursor : Cursor) (n : Nat) : Cursor := { cursor with toPlace := cursor.toPlace.skip n }

def restore (cursor : Cursor) (mark : Place) : Cursor := { cursor with toPlace := mark }

def countNewlines (cursor : Cursor) : Nat × Cursor :=
  let here := cursor.passed.length
  let counted := cursor.tally
  let newlines :=
    if counted.reached ≤ here then
      counted.newlines + (cursor.passed.take (here - counted.reached)).count '\n'
    else counted.newlines - (cursor.rest.take (counted.reached - here)).count '\n'
  (newlines, { cursor with tally := ⟨here, newlines⟩ })

def matchHere (cursor : Cursor) (pattern : Pattern) : Option Pattern.Match :=
  (pattern.find cursor.rest).filter (·.start == 0)

def check (cursor : Cursor) (pattern : Pattern) : Bool := (cursor.matchHere pattern).isSome

def scan (cursor : Cursor) (pattern : Pattern) : Option (List Char) × Cursor :=
  match cursor.matchHere pattern with
  | some found => (some (cursor.rest.take found.stop), cursor.skip found.stop)
  | none => (none, cursor)

def scanGroups (cursor : Cursor) (pattern : Pattern) :
    Option (List (Option (List Char))) × Cursor :=
  match cursor.matchHere pattern with
  | some found => (some (found.texts pattern cursor.rest), cursor.skip found.stop)
  | none => (none, cursor)

def scanUntil (cursor : Cursor) (pattern : Pattern) : List Char × Cursor :=
  let stop := match pattern.find cursor.rest with
    | some found => found.stop
    | none => cursor.rest.length
  (cursor.rest.take stop, cursor.skip stop)

def slice (cursor : Cursor) (start stop : Nat) : Except Text.OffsetFault (List Char) :=
  Text.slice cursor.text start stop

end Cursor

end ScriptTokens
