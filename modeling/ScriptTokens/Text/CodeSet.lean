namespace ScriptTokens.Text

def hexValue? (c : Char) : Option Nat :=
  if '0' ≤ c ∧ c ≤ '9' then some (c.toNat - '0'.toNat)
  else if 'a' ≤ c ∧ c ≤ 'f' then some (c.toNat - 'a'.toNat + 10)
  else if 'A' ≤ c ∧ c ≤ 'F' then some (c.toNat - 'A'.toNat + 10)
  else none

def readTable : Option Nat → List Char → List Nat
  | number, [] => number.toList
  | number, c :: cs =>
    match hexValue? c with
    | some digit => readTable (some (number.getD 0 * 16 + digit)) cs
    | none => number.toList ++ readTable none cs

/-- A set of code points, as the points where membership changes. -/
structure CodeSet where
  changes : List Nat

namespace CodeSet

def ofTable (table : String) : CodeSet := ⟨readTable none table.toList⟩

def holdsAt (n : Nat) : List Nat → Bool
  | [] => false
  | change :: changes => if n < change then false else !(holdsAt n changes)

def contains (set : CodeSet) (c : Char) : Bool := holdsAt c.toNat set.changes

end CodeSet

end ScriptTokens.Text
