import ScriptTokens.Cursor.Walk
import ScriptTokens.Proofs.Cursor.Tally
import ScriptTokens.Proofs.Pattern
import ScriptTokens.Proofs.Text.Boundary
import ScriptTokens.Proofs.Text.Newline
import ScriptTokens.Proofs.Text.Slice

/-!
# What a walk keeps

However a cursor is moved, it stays at a place of its text with an exact tally, and the marks that
were saved on the way are places of the same text (`Over`). A request makes one of five moves
(`step_moves`), each of which keeps that, so all requests do (`over_after`). What the requests
answer at such a place is told by the text (`walk_sound`).
-/

namespace ScriptTokens.Walk
open Text

def after (walk : Walk) (requests : List Request) : Walk :=
  requests.foldl (fun walk request => (walk.step request).2) walk

inductive Moves (walk : Walk) : Walk → Prop
  | stays : Moves walk walk
  | skips (n : Nat) : Moves walk { walk with cursor := walk.cursor.skip n }
  | counts : Moves walk { walk with cursor := walk.cursor.countNewlines.2 }
  | saves : Moves walk { walk with marks := walk.marks ++ [walk.cursor.toPlace] }
  | restores {mark : Place} (saved : mark ∈ walk.marks) :
      Moves walk { walk with cursor := walk.cursor.restore mark }

theorem step_moves (walk : Walk) (request : Request) : walk.Moves (walk.step request).2 := by
  cases request with
  | scan pattern =>
    simp only [step, Cursor.scan]
    split
    · exact .skips _
    · exact .stays
  | scanGroups pattern =>
    simp only [step, Cursor.scanGroups]
    split
    · exact .skips _
    · exact .stays
  | scanUntil pattern => exact .skips _
  | save => exact .saves
  | restore mark =>
    simp only [step]
    split
    · rename_i saved
      exact .restores (List.mem_of_getElem? saved)
    · exact .stays
  | newlines => exact .counts
  | slice start stop =>
    simp only [step]
    split <;> exact .stays
  | check | rest | text => exact .stays

structure Over (text : List Char) (walk : Walk) : Prop where
  text_eq : walk.cursor.text = text
  exact : walk.cursor.Exact
  marked : ∀ mark ∈ walk.marks, mark.text = text

theorem over_start (text : List Char) (offset : Nat) :
    (start (.ofOffset text offset)).Over text :=
  ⟨Place.text_skip _ _, Cursor.exact_ofOffset _ _, fun _ member => absurd member List.not_mem_nil⟩

theorem Over.moves {text : List Char} {walk next : Walk} (h : walk.Over text)
    (moves : walk.Moves next) : next.Over text := by
  cases moves with
  | stays => exact h
  | skips n => exact ⟨(Place.text_skip _ _).trans h.text_eq, h.exact.skip n, h.marked⟩
  | counts => exact ⟨h.text_eq, h.exact.countNewlines, h.marked⟩
  | saves =>
    refine ⟨h.text_eq, h.exact, ?_⟩
    intro mark member
    rcases List.mem_append.mp member with earlier | here
    · exact h.marked mark earlier
    · rw [List.mem_singleton.mp here]
      exact h.text_eq
  | restores saved =>
    have same := h.marked _ saved
    exact ⟨same, h.exact.restore (same.trans h.text_eq.symm), h.marked⟩

theorem Moves.marks_kept {walk next : Walk} (moves : walk.Moves next) :
    walk.marks <+: next.marks := by
  cases moves with
  | saves => exact List.prefix_append _ _
  | stays | skips | counts | restores => exact List.prefix_rfl

theorem over_after {text : List Char} {walk : Walk} (h : walk.Over text)
    (requests : List Request) : (walk.after requests).Over text := by
  induction requests generalizing walk with
  | nil => exact h
  | cons request requests ih => exact ih (h.moves (walk.step_moves request))

theorem marks_kept_after (walk : Walk) (requests : List Request) :
    walk.marks <+: (walk.after requests).marks := by
  induction requests generalizing walk with
  | nil => exact List.prefix_rfl
  | cons request requests ih => exact (walk.step_moves request).marks_kept.trans (ih _)

/-- Where a walk stands in a text, and what it counts there. -/
structure Placed (text : String) (walk : Walk) : Prop where
  boundary : IsBoundary text.toList walk.cursor.offset
  within : walk.cursor.offset ≤ text.utf8ByteSize
  rest : Text.slice text.toList walk.cursor.offset text.utf8ByteSize = .ok walk.cursor.rest
  counts : ∃ next, walk.step .newlines = (.count (newlinesBefore text walk.cursor.offset), next) ∧
    next.cursor.toPlace = walk.cursor.toPlace ∧ next.marks = walk.marks
  covers : walk.cursor.passed.length < walk.cursor.tally.reached →
    (walk.cursor.rest.take (walk.cursor.tally.reached - walk.cursor.passed.length)).count '\n' ≤
      walk.cursor.tally.newlines

theorem Over.placed {text : String} {walk : Walk} (h : walk.Over text.toList) :
    walk.Placed text := by
  have whole : text.toList = walk.cursor.passed.reverse ++ walk.cursor.rest := h.text_eq.symm
  have offset : byteSize walk.cursor.passed.reverse = walk.cursor.offset := by
    rw [byteSize_reverse, walk.cursor.offset_eq]
  have size : walk.cursor.offset + byteSize walk.cursor.rest = text.utf8ByteSize := by
    rw [utf8ByteSize_eq, whole, byteSize_append, offset]
  refine ⟨⟨_, _, whole, offset⟩, by omega, ?_, ?_, ?_⟩
  · exact slice_eq_ok_iff.mpr ⟨_, [], by rw [List.append_nil, whole], offset, size⟩
  · have newlines := newlinesBefore_byteSize whole
    rw [offset, List.count_reverse] at newlines
    rw [newlines, step, Cursor.countNewlines_eq h.exact]
    exact ⟨_, rfl, rfl, rfl⟩
  · intro ahead
    rw [h.exact.newlines_eq, Cursor.count_passed_of_ge (Nat.le_of_lt ahead)]
    exact Nat.le_add_left _ _

/-- What the requests with a pattern do where a walk stands in a text. -/
structure Scans (text : String) (walk : Walk) (pattern : Pattern) : Prop where
  checks : ∃ holds, walk.step (.check pattern) = (.truth holds, walk) ∧
    (holds = true ↔
      ∃ piece behind, walk.cursor.rest = piece ++ behind ∧ pattern.Occurs [] piece behind)
  takes : (walk.step (.check pattern)).1 = .truth true → ∃ piece groups next,
    walk.step (.scan pattern) = (.piece? (some piece), next) ∧
    walk.step (.scanGroups pattern) = (.groups? (some (some piece :: groups)), next) ∧
    Text.slice text.toList walk.cursor.offset next.cursor.offset = .ok piece ∧
    pattern.IsMatch walk.cursor.rest [] piece
  leaves : (walk.step (.check pattern)).1 = .truth false →
    walk.step (.scan pattern) = (.piece? none, walk) ∧
    walk.step (.scanGroups pattern) = (.groups? none, walk)
  through : ∃ piece next, walk.step (.scanUntil pattern) = (.piece piece, next) ∧
    Text.slice text.toList walk.cursor.offset next.cursor.offset = .ok piece ∧
    ((∃ front found, piece = front ++ found ∧
        pattern.IsMatch walk.cursor.rest front found) ∨
      (¬ pattern.OccursIn walk.cursor.rest ∧ piece = walk.cursor.rest))

theorem slice_skip {text : List Char} {cursor : Cursor} (h : cursor.text = text) (n : Nat) :
    Text.slice text cursor.offset (cursor.skip n).offset = .ok (cursor.rest.take n) := by
  refine slice_eq_ok_iff.mpr ⟨cursor.passed.reverse, cursor.rest.drop n, ?_, ?_, rfl⟩
  · rw [List.append_assoc, List.take_append_drop, ← h, Place.text]
  · rw [byteSize_reverse, cursor.offset_eq]

theorem exists_matchHere {cursor : Cursor} {pattern : Pattern} {found : Pattern.Match}
    (h : cursor.matchHere pattern = some found) :
    found.start = 0 ∧ pattern.IsMatch cursor.rest [] (cursor.rest.take found.stop) := by
  obtain ⟨searched, here⟩ := Option.filter_eq_some_iff.mp h
  have here : found.start = 0 := by simpa using here
  obtain ⟨front, piece, isMatch, start, stop⟩ := Pattern.find_eq_some searched
  obtain rfl : front = [] := List.length_eq_zero_iff.mp (start ▸ here)
  obtain ⟨behind, rest, -⟩ := isMatch.occurs
  have taken : cursor.rest.take found.stop = piece := by
    rw [stop, rest, List.length_nil, Nat.zero_add, List.nil_append, List.take_left]
  rw [taken]
  exact ⟨here, isMatch⟩

theorem matchHere_ne_none {cursor : Cursor} {pattern : Pattern} {piece behind : List Char}
    (rest : cursor.rest = piece ++ behind) (occurs : pattern.Occurs [] piece behind) :
    cursor.matchHere pattern ≠ none := by
  have some : pattern.find cursor.rest ≠ none := by
    rw [ne_eq, Pattern.find_eq_none_iff, not_not]
    exact ⟨[], piece, behind, rest, occurs⟩
  obtain ⟨found, searched⟩ := Option.ne_none_iff_exists'.mp some
  obtain ⟨front, other, ⟨-, earliest⟩, start, -⟩ := Pattern.find_eq_some searched
  have here : found.start = 0 := by
    rw [start]
    exact Nat.le_zero.mp (earliest [] piece behind rest occurs)
  rw [Cursor.matchHere, searched, Option.filter_some, here]
  simp

theorem check_iff {cursor : Cursor} {pattern : Pattern} :
    cursor.check pattern = true ↔
      ∃ piece behind, cursor.rest = piece ++ behind ∧ pattern.Occurs [] piece behind := by
  rw [Cursor.check, Option.isSome_iff_ne_none]
  constructor
  · intro some
    obtain ⟨found, searched⟩ := Option.ne_none_iff_exists'.mp some
    obtain ⟨behind, rest, occurs⟩ := (exists_matchHere searched).2.occurs
    exact ⟨_, behind, rest, occurs⟩
  · rintro ⟨piece, behind, rest, occurs⟩
    exact matchHere_ne_none rest occurs

theorem texts_eq_cons {found : Pattern.Match} (here : found.start = 0) (pattern : Pattern)
    (rest : List Char) :
    ∃ groups, found.texts pattern rest = some (rest.take found.stop) :: groups := by
  rw [Pattern.Match.texts, Pattern.piece, here, List.drop_zero, Nat.sub_zero]
  exact ⟨_, rfl⟩

theorem scanUntil_cases (cursor : Cursor) (pattern : Pattern) : ∃ n piece,
    cursor.scanUntil pattern = (piece, cursor.skip n) ∧ piece = cursor.rest.take n ∧
      ((∃ front found, piece = front ++ found ∧ pattern.IsMatch cursor.rest front found) ∨
        (¬ pattern.OccursIn cursor.rest ∧ piece = cursor.rest)) := by
  unfold Cursor.scanUntil
  cases searched : pattern.find cursor.rest with
  | none =>
    refine ⟨_, _, rfl, rfl, .inr ⟨Pattern.find_eq_none_iff.mp searched, ?_⟩⟩
    exact List.take_length
  | some found =>
    obtain ⟨front, piece, isMatch, -, stop⟩ := Pattern.find_eq_some searched
    refine ⟨found.stop, _, rfl, rfl, .inl ⟨front, piece, ?_, isMatch⟩⟩
    obtain ⟨behind, rest, -⟩ := isMatch.occurs
    show cursor.rest.take found.stop = front ++ piece
    rw [stop, rest, ← List.append_assoc, ← List.length_append, List.take_left]

theorem Over.scans {text : String} {walk : Walk} (h : walk.Over text.toList)
    (pattern : Pattern) : walk.Scans text pattern := by
  refine ⟨⟨_, rfl, check_iff⟩, ?_, ?_, ?_⟩
  · intro holds
    have holds : walk.cursor.check pattern = true := Answer.truth.inj holds
    obtain ⟨found, searched⟩ := Option.isSome_iff_exists.mp holds
    obtain ⟨here, isMatch⟩ := exists_matchHere searched
    obtain ⟨groups, texts⟩ := texts_eq_cons here pattern walk.cursor.rest
    refine ⟨walk.cursor.rest.take found.stop, groups,
      { walk with cursor := walk.cursor.skip found.stop }, ?_, ?_, slice_skip h.text_eq _, isMatch⟩
    · simp only [step, Cursor.scan, searched]
    · simp only [step, Cursor.scanGroups, searched, texts]
  · intro fails
    have fails : walk.cursor.check pattern = false := Answer.truth.inj fails
    have searched : walk.cursor.matchHere pattern = none :=
      Option.isNone_iff_eq_none.mp (Option.isSome_eq_false_iff.mp fails)
    constructor
    · simp only [step, Cursor.scan, searched]
    · simp only [step, Cursor.scanGroups, searched]
  · obtain ⟨n, piece, scanned, taken, ends⟩ := scanUntil_cases walk.cursor pattern
    refine ⟨piece, { walk with cursor := walk.cursor.skip n }, ?_, ?_, ends⟩
    · rw [step, scanned]
    · rw [taken]
      exact slice_skip h.text_eq n

theorem after_append (walk : Walk) (earlier later : List Request) :
    walk.after (earlier ++ later) = (walk.after earlier).after later := List.foldl_append

theorem mark_after_save (walk : Walk) (later : List Request) :
    (walk.after (.save :: later)).marks[walk.marks.length]? = some walk.cursor.toPlace := by
  obtain ⟨more, marks⟩ := marks_kept_after (walk.step .save).2 later
  have saved : (walk.after (.save :: later)).marks =
      (walk.marks ++ [walk.cursor.toPlace]) ++ more := marks.symm
  rw [saved, List.append_assoc, List.getElem?_append_right (Nat.le_refl _), Nat.sub_self]
  rfl

/-- Wherever some requests have led a cursor, it stands at a place of its text and counts the
newlines before it, it scans what is there, and it finds back to every place that it saved. -/
theorem walk_sound (text : String) (offset : Nat) (requests : List Request) :
    let opened := start (.ofOffset text.toList offset)
    let walk := opened.after requests
    walk.Placed text ∧ (∀ pattern, walk.Scans text pattern) ∧
      ∀ earlier later, requests = earlier ++ .save :: later →
        let saved := opened.after earlier
        (saved.step .save).1 = .count saved.cursor.offset ∧
        ∃ back, walk.step (.restore saved.marks.length) = (.done, back) ∧
          back.cursor.toPlace = saved.cursor.toPlace := by
  intro opened walk
  have stands : walk.Over text.toList := over_after (over_start _ _) requests
  refine ⟨stands.placed, stands.scans, ?_⟩
  rintro earlier later split saved
  have mark : walk.marks[saved.marks.length]? = some saved.cursor.toPlace := by
    have led : walk = saved.after (.save :: later) := by
      rw [← after_append, ← split]
    rw [led]
    exact mark_after_save saved later
  refine ⟨rfl, { walk with cursor := walk.cursor.restore saved.cursor.toPlace }, ?_, rfl⟩
  rw [step, mark]

end ScriptTokens.Walk
