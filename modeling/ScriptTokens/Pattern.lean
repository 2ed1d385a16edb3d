import ScriptTokens.Text.Blank
import ScriptTokens.Text.Letter

/-!
# Search patterns

Regular expressions and their leftmost-first matches: the match starts as early as one can start,
and among those that start there the first counts that is found by trying the first alternative
before the second and, in a repetition, another round before the end (or after it, for a reluctant
one).

A match is found by handing on what is left: `run` tries a pattern at a spot and gives each place
where it can end to the rest of the search, until that succeeds.
-/

namespace ScriptTokens

inductive Pattern
  | nothing
  | one (accepts : Char → Bool)
  | seq (first second : Pattern)
  | either (first second : Pattern)
  /-- Any number of rounds, as many as possible or, if reluctant, as few as possible. -/
  | many (reluctant : Bool) (body : Pattern)
  | group (index : Nat) (body : Pattern)
  | textStart
  | textEnd
  | wordEdge

namespace Pattern

def literal (text : String) : Pattern :=
  text.toList.foldr (fun c rest => seq (one (· == c)) rest) nothing

def optional (body : Pattern) : Pattern := either body nothing

def oneOrMore (body : Pattern) : Pattern := seq body (many false body)

def groups : Pattern → Nat
  | seq first second | either first second => max first.groups second.groups
  | many _ body => body.groups
  | group index body => max index body.groups
  | _ => 0

structure Spot where
  before : Option Char
  index : Nat
  rest : List Char
  recorded : List (Nat × Nat × Nat)

namespace Spot

def start (text : List Char) : Spot := ⟨none, 0, text, []⟩

def step (spot : Spot) (c : Char) (rest : List Char) : Spot :=
  { spot with before := some c, index := spot.index + 1, rest := rest }

def record (spot : Spot) (number start : Nat) : Spot :=
  { spot with recorded := (number, start, spot.index) :: spot.recorded }

def inWord (c : Option Char) : Bool := c.any Text.isWordCharacter

def atWordEdge (spot : Spot) : Bool := inWord spot.before != inWord spot.rest.head?

end Spot

/-- Runs a search up to `rounds` times over, then hands on. A round must consume something. -/
def repeated {α : Type} (reluctant : Bool) (body : Spot → (Spot → Option α) → Option α) :
    Nat → Spot → (Spot → Option α) → Option α
  | 0, spot, next => next spot
  | rounds + 1, spot, next =>
    let another (_ : Unit) := body spot fun reached =>
      if spot.index < reached.index then repeated reluctant body rounds reached next else none
    if reluctant then (next spot).or (another ()) else (another ()).or (next spot)

/-- Tries a pattern at a spot, handing each of its ends to `next` until that succeeds. -/
def run {α : Type} : Pattern → Spot → (Spot → Option α) → Option α
  | nothing, spot, next => next spot
  | one accepts, spot, next =>
    match spot.rest with
    | [] => none
    | c :: cs => if accepts c then next (spot.step c cs) else none
  | seq first second, spot, next => run first spot fun reached => run second reached next
  | either first second, spot, next => (run first spot next).or (run second spot next)
  | many reluctant body, spot, next =>
    repeated reluctant (run body) spot.rest.length spot next
  | group number body, spot, next =>
    run body spot fun reached => next (reached.record number spot.index)
  | textStart, spot, next => if spot.index = 0 then next spot else none
  | textEnd, spot, next => if spot.rest.isEmpty then next spot else none
  | wordEdge, spot, next => if spot.atWordEdge then next spot else none

structure Match where
  start : Nat
  stop : Nat
  recorded : List (Nat × Nat × Nat)

def matchAt (pattern : Pattern) (before : Option Char) (index : Nat) (rest : List Char) :
    Option Match :=
  (pattern.run ⟨before, index, rest, []⟩ some).map fun reached =>
    ⟨index, reached.index, reached.recorded⟩

def findFrom (pattern : Pattern) (before : Option Char) (index : Nat) :
    List Char → Option Match
  | [] => pattern.matchAt before index []
  | c :: cs =>
    (pattern.matchAt before index (c :: cs)).or (pattern.findFrom (some c) (index + 1) cs)

def find (pattern : Pattern) (text : List Char) : Option Match := pattern.findFrom none 0 text

def piece (text : List Char) (start stop : Nat) : List Char := (text.drop start).take (stop - start)

def Match.texts (found : Match) (pattern : Pattern) (text : List Char) :
    List (Option (List Char)) :=
  some (piece text found.start found.stop) ::
    (List.range pattern.groups).map fun k =>
      (found.recorded.find? (·.1 == k + 1)).map fun (_, start, stop) => piece text start stop

end Pattern

end ScriptTokens
