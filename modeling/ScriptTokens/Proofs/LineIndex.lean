import ScriptTokens.LineIndex
import ScriptTokens.Proofs.Text.Boundary
import ScriptTokens.Proofs.Text.Newline
import ScriptTokens.Proofs.Text.Slice

namespace ScriptTokens
open Text

theorem lt_start_of_linesBehind {start : Nat} {text : List Char} {line : Line}
    (h : line ∈ linesBehind start text) : start < line.start := by
  induction text generalizing start with
  | nil => simp [linesBehind] at h
  | cons c cs ih =>
    have step : start < start + c.utf8Size := Nat.lt_add_of_pos_right c.utf8Size_pos
    rw [linesBehind] at h
    split at h
    · rcases List.mem_cons.mp h with rfl | h
      · exact step
      · exact step.trans (ih h)
    · exact step.trans (ih h)

theorem exists_front_of_linesBehind {start : Nat} {text : List Char} {line : Line}
    (h : line ∈ linesBehind start text) :
    ∃ front, text = front ++ line.text ∧ line.start = start + byteSize front := by
  induction text generalizing start with
  | nil => simp [linesBehind] at h
  | cons c cs ih =>
    have further (h : line ∈ linesBehind (start + c.utf8Size) cs) :
        ∃ front, c :: cs = front ++ line.text ∧ line.start = start + byteSize front := by
      obtain ⟨front, rfl, reached⟩ := ih h
      exact ⟨c :: front, rfl, by rw [reached, byteSize_cons, Nat.add_assoc]⟩
    rw [linesBehind] at h
    split at h
    · rcases List.mem_cons.mp h with rfl | h
      · exact ⟨[c], rfl, rfl⟩
      · exact further h
    · exact further h

namespace LineIndex

theorem lineAt_of_lt {offset before : Nat} {line : Line} {more : List Line}
    (h : ∀ next ∈ more, offset < next.start) : lineAt offset before line more = (before, line) := by
  cases more with
  | nil => rfl
  | cons next more =>
    have beyond := h next List.mem_cons_self
    rw [lineAt, if_neg (by omega)]

theorem lineAt_mem (offset before : Nat) (line : Line) (more : List Line)
    (reached : line.start ≤ offset) :
    (lineAt offset before line more).2 ∈ line :: more ∧
      (lineAt offset before line more).2.start ≤ offset := by
  induction more generalizing before line with
  | nil => exact ⟨List.mem_singleton_self _, reached⟩
  | cons next more ih =>
    rw [lineAt]
    split
    · rename_i further
      exact ⟨List.mem_cons_of_mem _ (ih _ _ further).1, (ih _ _ further).2⟩
    · exact ⟨List.mem_cons_self, reached⟩

theorem lineAt_linesBehind (seen more after : List Char) (start before : Nat) (line : Line)
    (unbroken : '\n' ∉ seen) (reached : line.start + byteSize seen = start)
    (shown : line.text = seen ++ (more ++ after)) :
    ∃ found, lineAt (start + byteSize more) before line (linesBehind start (more ++ after)) =
        (before + more.count '\n', found) ∧
      found.start + byteSize (lastLine (seen ++ more)) = start + byteSize more ∧
      found.text = lastLine (seen ++ more) ++ after := by
  -- the induction walks over `more`; `seen` is what it has passed of the line it is in
  induction more generalizing seen start before line with
  | nil =>
    refine ⟨line, lineAt_of_lt fun next member => lt_start_of_linesBehind member, ?_, ?_⟩
    · rw [List.append_nil, lastLine_eq_self unbroken, reached]
      rfl
    · rw [List.append_nil, lastLine_eq_self unbroken, shown]
      rfl
  | cons c more ih =>
    rw [List.cons_append, linesBehind, byteSize_cons, ← Nat.add_assoc]
    by_cases newline : c = '\n'
    · subst newline
      have found := ih [] (start + '\n'.utf8Size) (before + 1)
        ⟨start + '\n'.utf8Size, more ++ after⟩ List.not_mem_nil rfl rfl
      rw [if_pos rfl, lineAt, if_pos (Nat.le_add_right _ _), lastLine_behind,
        List.count_cons_self, Nat.add_comm (more.count '\n'), ← Nat.add_assoc]
      exact found
    · have unbroken' : '\n' ∉ seen ++ [c] := by
        simp [unbroken, Ne.symm newline]
      have reached' : line.start + byteSize (seen ++ [c]) = start + c.utf8Size := by
        rw [byteSize_append, ← Nat.add_assoc, reached]
        rfl
      have found := ih (seen ++ [c]) (start + c.utf8Size) before line unbroken' reached'
        (by simp [shown])
      rw [if_neg newline, List.count_cons_of_ne newline]
      simpa using found

theorem position_byteSize (before after : List Char) :
    (ofText (before ++ after)).position (byteSize before) =
      .ok ⟨before.count '\n' + 1, (lastLine before).length + 1⟩ := by
  obtain ⟨found, looked, reached, shown⟩ :=
    lineAt_linesBehind [] before after 0 0 ⟨0, before ++ after⟩ List.not_mem_nil rfl rfl
  rw [Nat.zero_add, Nat.zero_add] at looked
  rw [Nat.zero_add, List.nil_append] at reached
  have cut : splitAtByte (byteSize before - found.start) found.text =
      .ok (lastLine before, after) := by
    rw [splitAtByte_eq_ok_iff]
    exact ⟨shown.symm, by omega⟩
  simp only [position, ofText, looked, countAtByte_eq, cut, Nat.zero_add]
  rfl

theorem isBoundary_of_position {source : List Char} {offset : Nat} {position : Position}
    (h : (ofText source).position offset = .ok position) : IsBoundary source offset := by
  obtain ⟨member, reached⟩ :=
    lineAt_mem offset 0 ⟨0, source⟩ (linesBehind 0 source) (Nat.zero_le _)
  simp only [LineIndex.position, ofText] at h
  generalize lineAt offset 0 ⟨0, source⟩ (linesBehind 0 source) = found at member reached h
  obtain ⟨front, whole, start⟩ : ∃ front, source = front ++ found.2.text ∧
      found.2.start = byteSize front := by
    rcases List.mem_cons.mp member with first | later
    · exact ⟨[], by rw [first]; rfl, by rw [first]; rfl⟩
    · simpa using exists_front_of_linesBehind later
  obtain ⟨count, counted, -⟩ := bind_eq_ok_iff.mp h
  rw [countAtByte_eq] at counted
  cases cut : splitAtByte (offset - found.2.start) found.2.text with
  | error fault =>
    rw [cut] at counted
    cases counted
  | ok parts =>
    obtain ⟨line, size⟩ := splitAtByte_eq_ok_iff.mp cut
    refine ⟨front ++ parts.1, parts.2, ?_, ?_⟩
    · rw [List.append_assoc, line, whole]
    · rw [byteSize_append, size]
      omega

theorem exists_position_iff {source : List Char} {offset : Nat} :
    (∃ position, (ofText source).position offset = .ok position) ↔ IsBoundary source offset := by
  constructor
  · rintro ⟨position, indexed⟩
    exact isBoundary_of_position indexed
  · rintro ⟨before, after, rfl, rfl⟩
    exact ⟨_, position_byteSize before after⟩

end LineIndex

def Position.Before (position later : Position) : Prop :=
  position.line < later.line ∨
    (position.line = later.line ∧ position.column < later.column)

theorem not_before_self (position : Position) : ¬ position.Before position := by
  rintro (line | ⟨-, column⟩)
  · exact Nat.lt_irrefl _ line
  · exact Nat.lt_irrefl _ column

namespace LineIndex

theorem before_append (before : List Char) {more : List Char} (h : more ≠ []) :
    (⟨before.count '\n' + 1, (lastLine before).length + 1⟩ : Position).Before
      ⟨(before ++ more).count '\n' + 1, (lastLine (before ++ more)).length + 1⟩ := by
  by_cases newline : '\n' ∈ more
  · have further := List.count_pos_iff.mpr newline
    refine .inl ?_
    simp only [List.count_append]
    omega
  · have longer := List.length_pos_iff.mpr h
    refine .inr ⟨?_, ?_⟩
    · simp [List.count_eq_zero_of_not_mem newline]
    · simp only [lastLine_append before newline, List.length_append]
      omega

theorem before_of_lt {text : List Char} {offset next : Nat} {position later : Position}
    (boundary : IsBoundary text offset) (nextBoundary : IsBoundary text next) (lt : offset < next)
    (indexed : (ofText text).position offset = .ok position)
    (nextIndexed : (ofText text).position next = .ok later) : position.Before later := by
  obtain ⟨before, after, rfl, rfl⟩ := boundary
  obtain ⟨further, rest, whole, rfl⟩ := nextBoundary
  rcases List.append_eq_append_iff.mp whole with ⟨more, rfl, rfl⟩ | ⟨more, rfl, rfl⟩
  · have some : more ≠ [] := by
      rintro rfl
      simp at lt
    rw [position_byteSize] at indexed
    rw [whole, position_byteSize] at nextIndexed
    cases indexed
    cases nextIndexed
    exact before_append before some
  · rw [byteSize_append] at lt
    omega

/-- Every place of a text has a position, which counts the newlines before it and the characters
behind the last of them; no other offset has one. Positions follow each other as offsets do, so
different offsets have different ones. -/
theorem positions_tell_offsets (source : List Char) :
    (∀ before after, source = before ++ after →
      (ofText source).position (byteSize before) =
        .ok ⟨before.count '\n' + 1, (lastLine before).length + 1⟩) ∧
    (∀ offset next position later, (ofText source).position offset = .ok position →
      (ofText source).position next = .ok later →
      (offset < next → position.Before later) ∧ (position = later → offset = next)) ∧
    ∀ offset, (∃ fault, (ofText source).position offset = .error fault) ↔
      byteSize source < offset ∨ IsInside source offset := by
  refine ⟨?_, ?_, ?_⟩
  · rintro before after rfl
    exact position_byteSize before after
  · intro offset next position later indexed nextIndexed
    have boundary := isBoundary_of_position indexed
    have nextBoundary := isBoundary_of_position nextIndexed
    refine ⟨fun lt => before_of_lt boundary nextBoundary lt indexed nextIndexed, ?_⟩
    rintro rfl
    rcases Nat.lt_trichotomy offset next with lt | same | gt
    · exact absurd (before_of_lt boundary nextBoundary lt indexed nextIndexed) (not_before_self _)
    · exact same
    · exact absurd (before_of_lt nextBoundary boundary gt nextIndexed indexed) (not_before_self _)
  · intro offset
    rw [← not_isBoundary_iff, ← exists_position_iff]
    cases (ofText source).position offset <;> simp

end LineIndex

end ScriptTokens
