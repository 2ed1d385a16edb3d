import ScriptTokens.Cursor

namespace ScriptTokens.Cursor

structure Exact (cursor : Cursor) : Prop where
  reached_le : cursor.tally.reached ≤ cursor.text.length
  newlines_eq : cursor.tally.newlines = (cursor.text.take cursor.tally.reached).count '\n'

theorem exact_ofOffset (text : List Char) (offset : Nat) : (ofOffset text offset).Exact :=
  ⟨Nat.zero_le _, by simp [ofOffset]⟩

theorem exact_ofText (text : List Char) : (ofText text).Exact :=
  ⟨Nat.zero_le _, by simp [ofText]⟩

theorem Exact.restore {cursor : Cursor} (h : cursor.Exact) {mark : Place}
    (same : mark.text = cursor.text) : (cursor.restore mark).Exact := by
  have text_eq : (cursor.restore mark).text = cursor.text := same
  constructor
  · rw [text_eq]
    exact h.reached_le
  · rw [text_eq]
    exact h.newlines_eq

theorem Exact.skip {cursor : Cursor} (h : cursor.Exact) (n : Nat) : (cursor.skip n).Exact :=
  h.restore (Place.text_skip cursor.toPlace n)

theorem count_passed_of_le {cursor : Cursor} {reached : Nat} (h : reached ≤ cursor.passed.length) :
    (cursor.text.take reached).count '\n' +
      (cursor.passed.take (cursor.passed.length - reached)).count '\n' =
      cursor.passed.count '\n' := by
  -- what lies between the counted place and the cursor is the end of what was passed
  have front : cursor.text.take reached =
      (cursor.passed.drop (cursor.passed.length - reached)).reverse := by
    rw [Place.text, List.take_append_of_le_length (by simpa using h), List.take_reverse]
  rw [front, List.count_reverse, Nat.add_comm, ← List.count_append, List.take_append_drop]

theorem count_passed_of_ge {cursor : Cursor} {reached : Nat} (h : cursor.passed.length ≤ reached) :
    (cursor.text.take reached).count '\n' =
      cursor.passed.count '\n' +
        (cursor.rest.take (reached - cursor.passed.length)).count '\n' := by
  -- what lies between the cursor and the counted place is the start of the rest
  rw [Place.text, List.take_append, List.count_append, List.take_of_length_le (by simpa using h),
    List.count_reverse, List.length_reverse]

theorem countNewlines_eq {cursor : Cursor} (h : cursor.Exact) :
    cursor.countNewlines = (cursor.passed.count '\n',
      { cursor with tally := ⟨cursor.passed.length, cursor.passed.count '\n'⟩ }) := by
  have counted : (if cursor.tally.reached ≤ cursor.passed.length then
      cursor.tally.newlines +
        (cursor.passed.take (cursor.passed.length - cursor.tally.reached)).count '\n'
      else cursor.tally.newlines -
        (cursor.rest.take (cursor.tally.reached - cursor.passed.length)).count '\n') =
      cursor.passed.count '\n' := by
    rw [h.newlines_eq]
    split
    · rename_i behind
      exact count_passed_of_le behind
    · rename_i ahead
      rw [count_passed_of_ge (by omega), Nat.add_sub_cancel]
  simp only [countNewlines, counted]

theorem Exact.countNewlines {cursor : Cursor} (h : cursor.Exact) :
    cursor.countNewlines.2.Exact := by
  rw [countNewlines_eq h]
  constructor
  · simp [Place.text]
  · simp [Place.text]

end ScriptTokens.Cursor
