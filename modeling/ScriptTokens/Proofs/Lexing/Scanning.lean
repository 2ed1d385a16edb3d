import ScriptTokens.Proofs.Lexing.Patterns
import ScriptTokens.Proofs.TokenStream.Reading

namespace ScriptTokens
open Lexeme

namespace Cursor

theorem skip_skip (cursor : Cursor) (m n : Nat) :
    (cursor.skip m).skip n = cursor.skip (m + n) := by
  simp only [skip, Place.skip_skip]

theorem skip_zero (cursor : Cursor) : cursor.skip 0 = cursor := by
  simp [skip, Place.skip]

theorem rest_skip_append {cursor : Cursor} {front behind : List Char}
    (rest : cursor.rest = front ++ behind) : (cursor.skip front.length).rest = behind :=
  Place.rest_skip_append rest

theorem scanUntil_eq {cursor : Cursor} {pattern : Pattern} {stop : Nat}
    (h : ((pattern.find cursor.rest).map Pattern.Match.stop).getD cursor.rest.length = stop) :
    cursor.scanUntil pattern = (cursor.rest.take stop, cursor.skip stop) := by
  subst h
  rw [scanUntil]
  cases pattern.find cursor.rest <;> rfl

end Cursor

namespace Lexing
open Pattern Text

variable {cursor : Cursor} {c : Char} {cs : List Char}

theorem scanToken_of_first {pattern : Pattern} (piece behind : List Char)
    (rest : cursor.rest = piece ++ behind)
    (first : First pattern (.start cursor.rest) ((Spot.start cursor.rest).pass piece behind))
    (kindOf : List Char → Kind) :
    scanToken cursor kindOf pattern =
      some (tokenTo (cursor.skip piece.length) (kindOf piece) piece cursor.offset,
        cursor.skip piece.length) := by
  rw [scanToken, Cursor.scan_of_first rest first]

theorem scanToken_of_refuses {pattern : Pattern} (refused : Refuses pattern (.start cursor.rest))
    (kindOf : List Char → Kind) : scanToken cursor kindOf pattern = none := by
  rw [scanToken, Cursor.scan_of_refuses refused]

theorem scanString_of_quote {quote : Char} (rest : cursor.rest = quote :: cs)
    (notEscape : quote ≠ '\\') :
    scanString cursor quote =
      some (tokenTo (cursor.skip (readString quote cs).1.source.length) .string
        (readString quote cs).1.value cursor.offset,
        cursor.skip (readString quote cs).1.source.length) := by
  cases cut : splitLiteral quote cs with
  | mk body behind =>
    obtain ⟨reached, first, index, recorded⟩ := first_quoted notEscape cut
    have value : (readString quote cs).1.value = body := by
      rw [readString, cut]
      split <;> simp_all
    have whole := literal_append_rest quote cs
    rw [cut] at whole
    have found := cursor.matchHere_eq (quoted quote)
    rw [rest, first, Option.map_some, index, recorded] at found
    have inside : piece (quote :: cs) 1 (body.length + 1) = body := by
      simp [piece, ← whole]
    have numbered : (quoted quote).groups = 1 := rfl
    simp only [scanString, Cursor.scanGroups, found, Match.texts, numbered, rest, value]
    simp [inside]

theorem scanString_of_ne {quote : Char} (rest : cursor.rest = c :: cs) (other : c ≠ quote) :
    scanString cursor quote = none := by
  have refused : Refuses (quoted quote) (.start cursor.rest) := by
    rw [rest]
    exact refuses_opening_one (· == quote) (beq_false_of_ne other) _
  have found := cursor.matchHere_eq (quoted quote)
  rw [show (quoted quote).ends _ = [] from refused] at found
  simp only [scanString, Cursor.scanGroups, found, List.head?_nil, Option.map_none]

theorem check_opening_literal (cursor : Cursor) (text : String) :
    cursor.check (opening (literal text)) = decide (text.toList <+: cursor.rest) := by
  rw [Cursor.check, Cursor.matchHere_eq, ends_opening, ends_literal]
  by_cases here : text.toList <+: cursor.rest
  · simp [Spot.start, here]
  · simp [Spot.start, here]

theorem scan_opening_literal (text : String) {behind : List Char}
    (rest : cursor.rest = text.toList ++ behind) :
    cursor.scan (opening (literal text)) = (some text.toList, cursor.skip text.toList.length) :=
  Cursor.scan_of_first rest (first_opening (first_literal rest))

theorem scan_opening_literal_of_not {text : String} (h : ¬ text.toList <+: cursor.rest) :
    cursor.scan (opening (literal text)) = (none, cursor) :=
  Cursor.scan_of_refuses (refuses_opening (refuses_literal h))

theorem scan_whiteSpace (cursor : Cursor) :
    (cursor.scan whiteSpace).2 = cursor.skip (cursor.rest.takeWhile isBlank).length := by
  cases rest : cursor.rest with
  | nil =>
    have refused : Refuses whiteSpace (.start cursor.rest) := by
      rw [rest]
      exact refuses_opening ((refuses_one (by simp [Spot.start])).seq _)
    rw [Cursor.scan_of_refuses refused]
    exact cursor.skip_zero.symm
  | cons c cs =>
    cases blank : isBlank c with
    | true =>
      have whole : cursor.rest = c :: cs.takeWhile isBlank ++ cs.dropWhile isBlank := by
        rw [rest, List.cons_append, List.takeWhile_append_dropWhile]
      have first : First whiteSpace (.start cursor.rest) ((Spot.start cursor.rest).pass
          (c :: cs.takeWhile isBlank) (cs.dropWhile isBlank)) := by
        rw [rest]
        exact first_oneThenMany_opening isBlank isBlank blank
      rw [Cursor.scan_of_first whole first, List.takeWhile_cons_of_pos blank]
    | false =>
      have refused : Refuses whiteSpace (.start cursor.rest) := by
        rw [rest]
        exact refuses_opening_one isBlank blank _
      rw [Cursor.scan_of_refuses refused, List.takeWhile_cons_of_neg (by simp [blank])]
      exact cursor.skip_zero.symm

theorem scanUntil_blockCommentClose (cursor : Cursor) :
    (cursor.scanUntil blockCommentClose).2 =
      cursor.skip (splitComment cursor.rest).1.length := by
  have stop := findFrom_blockCommentClose none 0 cursor.rest
  rw [Nat.zero_add, Nat.zero_add] at stop
  rw [Cursor.scanUntil_eq stop]

theorem scanUntil_lineEnd (cursor : Cursor) :
    (cursor.scanUntil lineEnd).2 = cursor.skip (splitLine cursor.rest).1.length := by
  have stop := findFrom_lineEnd none 0 cursor.rest
  rw [Nat.zero_add, Nat.zero_add] at stop
  rw [Cursor.scanUntil_eq stop]

theorem scanToken_of_not_one (accepts : Char → Bool) (rest : cursor.rest = c :: cs)
    (h : accepts c = false) (kindOf : List Char → Kind) :
    scanToken cursor kindOf (opening (one accepts)) = none := by
  apply scanToken_of_refuses
  rw [rest]
  exact refuses_opening (refuses_one (by simp [Spot.start, h]))

theorem scanToken_of_refuses_one (accepts : Char → Bool) (rest : cursor.rest = c :: cs)
    (h : accepts c = false) (kindOf : List Char → Kind) (second : Pattern) :
    scanToken cursor kindOf (opening (seq (one accepts) second)) = none := by
  apply scanToken_of_refuses
  rw [rest]
  exact refuses_opening_one accepts h second

theorem scanToken_of_many (starts goesOn : Char → Bool) (rest : cursor.rest = c :: cs)
    (h : starts c = true) (kindOf : List Char → Kind) :
    scanToken cursor kindOf (opening (seq (one starts) (many false (one goesOn)))) =
      some (tokenTo (cursor.skip (c :: cs.takeWhile goesOn).length)
        (kindOf (c :: cs.takeWhile goesOn)) (c :: cs.takeWhile goesOn) cursor.offset,
        cursor.skip (c :: cs.takeWhile goesOn).length) := by
  refine scanToken_of_first _ (cs.dropWhile goesOn) ?_ ?_ kindOf
  · rw [rest, List.cons_append, List.takeWhile_append_dropWhile]
  · rw [rest]
    exact first_oneThenMany_opening starts goesOn h

theorem scanToken_of_one (accepts : Char → Bool) (rest : cursor.rest = c :: cs)
    (h : accepts c = true) (kindOf : List Char → Kind) :
    scanToken cursor kindOf (opening (one accepts)) =
      some (tokenTo (cursor.skip 1) (kindOf [c]) [c] cursor.offset, cursor.skip 1) := by
  refine scanToken_of_first [c] cs rest ?_ kindOf
  rw [rest]
  exact first_opening (first_one rfl h)

theorem check_slash (rest : cursor.rest = c :: cs) : cursor.check slash = (c == '/') := by
  rw [slash, Cursor.check, Cursor.matchHere_eq, ends_opening, rest]
  cases h : c == '/' <;> simp [ends, Spot.start, h]

end Lexing

end ScriptTokens
