import ScriptTokens.Prompt.Completion
import ScriptTokens.Proofs.Report
import ScriptTokens.Proofs.Text.Blank
import ScriptTokens.Proofs.Text.Boundary
import ScriptTokens.Proofs.Text.Newline
import ScriptTokens.Proofs.Text.Slice

namespace ScriptTokens.Prompt
open Text

/-- A longest run of letters, digits, underscores, points and colons, which ends at a byte offset of
a line and has `front` before it. -/
structure WordBefore (line : List Char) (pos : Nat) (front word : List Char) : Prop where
  split : ∃ after, line = front ++ (word ++ after)
  stop : byteSize front + byteSize word = pos
  inside : ∀ c ∈ word, isCompletable c = true
  longest : ∀ c ∈ front.getLast?, isCompletable c = false

theorem exists_wordBefore {line : List Char} {pos : Nat} (h : IsBoundary line pos) :
    ∃ front word, WordBefore line pos front word := by
  obtain ⟨before, after, rfl, rfl⟩ := h
  obtain ⟨⟨word, split, inside⟩, longest⟩ :=
    dropEndWhile_eq_iff.mp (rfl : dropEndWhile isCompletable before = _)
  have before_eq : before = dropEndWhile isCompletable before ++ word.reverse := by
    rw [← List.reverse_inj, split, List.reverse_append, List.reverse_reverse]
  refine ⟨dropEndWhile isCompletable before, word.reverse, ⟨after, ?_⟩, ?_, ?_, ?_⟩
  · rw [← List.append_assoc, ← before_eq]
  · rw [← byteSize_append, ← before_eq]
  · simpa using inside
  · simpa using longest

theorem placed_append (start : Nat) (front more : List Char) :
    placed start (front ++ more) = placed start front ++ placed (start + byteSize front) more := by
  induction front generalizing start with
  | nil => rfl
  | cons c front ih =>
    rw [List.cons_append, placed, placed, ih, byteSize_cons, Nat.add_assoc, List.cons_append]

theorem mem_of_placed {start : Nat} {text : List Char} {place : Nat × Char}
    (h : place ∈ placed start text) : place.2 ∈ text := by
  induction text generalizing start with
  | nil => cases h
  | cons c text ih =>
    rcases List.mem_cons.mp h with rfl | h
    · exact List.mem_cons_self
    · exact List.mem_cons_of_mem c (ih h)

theorem behindLastBreak_append {front word : List Char}
    (inside : ∀ c ∈ word, isCompletable c = true)
    (longest : ∀ c ∈ front.getLast?, isCompletable c = false) :
    behindLastBreak (front ++ word) = byteSize front := by
  have skipped : (placed (0 + byteSize front) word).reverse.find?
      (!isCompletable ·.2) = none := by
    rw [List.find?_eq_none]
    intro place member
    rw [List.mem_reverse] at member
    simp [inside _ (mem_of_placed member)]
  rw [behindLastBreak, placed_append, List.reverse_append, List.find?_append, skipped,
    Option.none_or]
  rcases List.eq_nil_or_concat front with rfl | ⟨init, c, rfl⟩
  · rfl
  · have edge : isCompletable c = false := longest c (by simp)
    rw [List.concat_eq_append, placed_append, placed, placed, List.reverse_append,
      List.reverse_singleton, List.singleton_append,
      List.find?_cons_of_pos (by simpa using edge), byteSize_append]
    simp

namespace WordBefore
variable {line : String} {pos : Nat} {front word : List Char}

theorem wordStart_eq (h : WordBefore line.toList pos front word) :
    wordStart line pos = .ok (byteSize front) := by
  obtain ⟨⟨after, split⟩, stop, inside, longest⟩ := h
  have cut : splitAtByte pos line.toList = .ok (front ++ word, after) := by
    rw [splitAtByte_eq_ok_iff, byteSize_append]
    exact ⟨by rw [split, List.append_assoc], stop⟩
  rw [wordStart, cut, ← behindLastBreak_append inside longest]
  rfl

theorem slice_eq (h : WordBefore line.toList pos front word) :
    Text.slice line.toList (byteSize front) pos = .ok word := by
  obtain ⟨after, split⟩ := h.split
  exact slice_eq_ok_iff.mpr ⟨front, after, by rw [split, List.append_assoc], rfl, h.stop⟩

end WordBefore

/-- All words that start with a given one, in their order and each with what it adds; none for the
empty word. -/
structure Completes (word : List Char) (completions : List Completion) : Prop where
  words_eq : completions.map (·.word) =
    if word = [] then [] else words.filter (word <+: ·.toList)
  adds : ∀ completion ∈ completions,
    completion.word.toList = word ++ completion.missing.toList

theorem exists_of_startsWith {word : List Char} {candidate : String}
    (h : startsWith word candidate = true) : ∃ rest, candidate.toList = word ++ rest := by
  obtain ⟨rest, whole⟩ := List.isPrefixOf_iff_prefix.mp h
  exact ⟨rest, whole.symm⟩

def completionOf (word : List Char) (candidate : String) : Completion :=
  ⟨candidate, String.ofList (candidate.toList.drop word.length)⟩

def completionsOf (word : List Char) : List Completion :=
  if word = [] then [] else (words.filter (startsWith word)).map (completionOf word)

theorem missing_of_startsWith {word : List Char} {candidate : String}
    (h : startsWith word candidate = true) :
    missing (byteSize word) candidate = .ok (completionOf word candidate).missing := by
  obtain ⟨rest, whole⟩ := exists_of_startsWith h
  have cut : splitAtByte (byteSize word) candidate.toList = .ok (word, rest) :=
    splitAtByte_eq_ok_iff.mpr ⟨whole.symm, rfl⟩
  rw [missing, cut, completionOf, whole, List.drop_left]
  rfl

theorem size_lt_iff {word : List Char} {candidate : String}
    (h : startsWith word candidate = true) :
    byteSize word < candidate.utf8ByteSize ↔ (completionOf word candidate).missing ≠ "" := by
  obtain ⟨rest, whole⟩ := exists_of_startsWith h
  rw [utf8ByteSize_eq, completionOf, whole, List.drop_left, byteSize_append, ne_eq,
    ← String.toList_eq_nil_iff, String.toList_ofList]
  cases rest with
  | nil => simp
  | cons c rest =>
    have := c.utf8Size_pos
    rw [byteSize_cons]
    simp only [reduceCtorEq, not_false_eq_true, iff_true]
    omega

theorem completes_completionsOf (word : List Char) : Completes word (completionsOf word) := by
  unfold completionsOf
  by_cases empty : word = []
  · rw [if_pos empty]
    exact ⟨by rw [if_pos empty]; rfl, fun _ member => absurd member List.not_mem_nil⟩
  · have same : ∀ candidate ∈ words,
        startsWith word candidate = decide (word <+: candidate.toList) := by
      intro candidate _
      rw [startsWith, Bool.eq_iff_iff, List.isPrefixOf_iff_prefix, decide_eq_true_iff]
    rw [if_neg empty]
    constructor
    · rw [if_neg empty, List.map_map, List.filter_congr same]
      exact List.map_id _
    · intro completion member
      obtain ⟨candidate, listed, rfl⟩ := List.mem_map.mp member
      obtain ⟨rest, whole⟩ := exists_of_startsWith (List.mem_filter.mp listed).2
      simp [completionOf, whole]

theorem find_missing_eq {word : List Char} (h : word ≠ []) :
    ((completionsOf word).map (·.missing)).find? (· ≠ "") =
      (words.find? fun candidate =>
        startsWith word candidate && byteSize word < candidate.utf8ByteSize).map
          fun candidate => (completionOf word candidate).missing := by
  rw [completionsOf, if_neg h, List.map_map, List.find?_map, List.find?_filter]
  congr 2
  funext candidate
  rw [Bool.eq_iff_iff, Bool.and_eq_true, decide_eq_true_iff, decide_eq_true_iff]
  exact and_congr_right fun starts => by rw [size_lt_iff starts]; simp

namespace WordBefore
variable {line : String} {pos : Nat} {front word : List Char}

theorem complete_eq (h : WordBefore line.toList pos front word) :
    complete line pos = .ok (completionsOf word) := by
  have each : ∀ candidate ∈ words.filter (startsWith word),
      (missing (byteSize word) candidate >>= fun rest => pure (Completion.mk candidate rest)) =
        (pure (completionOf word candidate) : Except OffsetFault Completion) := by
    intro candidate member
    rw [missing_of_startsWith (List.mem_filter.mp member).2]
    rfl
  have unfolded : complete line pos =
      if word.isEmpty then .ok [] else (words.filter (startsWith word)).mapM fun candidate =>
        missing (byteSize word) candidate >>= fun rest => pure ⟨candidate, rest⟩ := by
    rw [complete, h.wordStart_eq]
    change (Text.slice line.toList (byteSize front) pos >>= _) = _
    rw [h.slice_eq]
    rfl
  rw [unfolded, mapM_eq_pure each]
  cases word with
  | nil => rfl
  | cons c cs => rfl

theorem offer_eq (h : WordBefore line.toList pos front word) :
    offer line pos = .ok ⟨pos, completionsOf word⟩ := by
  rw [offer, h.complete_eq]
  rfl

theorem hint_eq (h : WordBefore line.toList pos front word) (ended : pos = line.utf8ByteSize) :
    hint false line pos = .ok (if 2 ≤ byteSize word then
      ((completionsOf word).map (·.missing)).find? (· ≠ "") else none) := by
  have cut : splitAtByte (byteSize front) line.toList = .ok (front, word) := by
    obtain ⟨⟨after, split⟩, stop, -, -⟩ := h
    cases after with
    | nil =>
      rw [split, List.append_nil]
      exact splitAtByte_eq_ok_iff.mpr ⟨rfl, rfl⟩
    | cons c after =>
      -- A character behind the word would keep the place from being the end of the line.
      have := c.utf8Size_pos
      rw [utf8ByteSize_eq, split] at ended
      simp only [byteSize_append, byteSize_cons] at ended
      omega
  rw [hint, if_neg (by omega), h.wordStart_eq]
  change (splitAtByte (byteSize front) line.toList >>= _) = _
  rw [cut]
  change (if byteSize word < 2 then _ else _) = _
  rcases Nat.lt_or_ge (byteSize word) 2 with short | long
  · rw [if_pos short, if_neg (by omega)]
    rfl
  · have nonempty : word ≠ [] := by
      rintro rfl
      simp at long
    rw [if_neg (by omega), if_pos long, find_missing_eq nonempty]
    cases found : words.find? fun candidate =>
        startsWith word candidate && byteSize word < candidate.utf8ByteSize with
    | none => rfl
    | some candidate =>
      have chosen := List.find?_some found
      rw [Bool.and_eq_true] at chosen
      change (missing (byteSize word) candidate >>= _) = _
      rw [missing_of_startsWith chosen.1]
      rfl

end WordBefore

theorem offer_of_fault {line : String} {pos : Nat} {fault : OffsetFault}
    (h : splitAtByte pos line.toList = .error fault) : offer line pos = .error fault := by
  rw [offer, complete, wordStart, h]
  rfl

theorem exists_offer_fault_iff {line : String} {pos : Nat} :
    (∃ fault, offer line pos = .error fault) ↔
      line.utf8ByteSize < pos ∨ IsInside line.toList pos := by
  rw [utf8ByteSize_eq]
  constructor
  · rintro ⟨fault, fails⟩
    rw [← not_isBoundary_iff]
    intro boundary
    obtain ⟨front, word, before⟩ := exists_wordBefore boundary
    rw [before.offer_eq] at fails
    cases fails
  · intro outside
    obtain ⟨fault, fails⟩ := exists_fault_iff.mpr outside
    exact ⟨fault, offer_of_fault fails⟩

/-- At each place of a line the words are offered that start with the word before it, and the hint
at the end of a line is the first that one of them adds; at an offset that is no place of the line
completing fails. -/
theorem completion_at_places (line : String) (pos : Nat) :
    (IsBoundary line.toList pos → ∃ front word completions,
      WordBefore line.toList pos front word ∧ wordStart line pos = .ok (byteSize front) ∧
      offer line pos = .ok ⟨pos, completions⟩ ∧ Completes word completions ∧
      hint false line pos = .ok (if pos = line.utf8ByteSize ∧ 2 ≤ byteSize word then
        (completions.map (·.missing)).find? (· ≠ "") else none)) ∧
    (pos < line.utf8ByteSize → hint false line pos = .ok none) ∧
    ((∃ fault, offer line pos = .error fault) ↔
      line.utf8ByteSize < pos ∨ IsInside line.toList pos) := by
  have earlier (within : pos < line.utf8ByteSize) : hint false line pos = .ok none := by
    rw [hint, if_pos within]
    rfl
  refine ⟨?_, earlier, exists_offer_fault_iff⟩
  intro boundary
  obtain ⟨front, word, before⟩ := exists_wordBefore boundary
  refine ⟨front, word, completionsOf word, before, before.wordStart_eq, before.offer_eq,
    completes_completionsOf word, ?_⟩
  by_cases ended : pos = line.utf8ByteSize
  · rw [before.hint_eq ended]
    simp only [ended, true_and]
  · have within : pos < line.utf8ByteSize := by
      obtain ⟨front, after, split, stop⟩ := boundary
      rw [utf8ByteSize_eq, split, byteSize_append] at ended ⊢
      omega
    rw [earlier within, if_neg fun both => ended both.1]

end ScriptTokens.Prompt
