import ScriptTokens.Text.Blank

namespace ScriptTokens.Text

/-- A text and the words in it, which white space and the ends of the text bound. -/
inductive Splits : List Char → List (List Char) → Prop
  | ended : Splits [] []
  | blank {c : Char} {text : List Char} {parts : List (List Char)} :
      isBlank c = true → Splits text parts → Splits (c :: text) parts
  | word {word text : List Char} {parts : List (List Char)} :
      word ≠ [] → (∀ c ∈ word, isBlank c = false) → (∀ c ∈ text.head?, isBlank c = true) →
      Splits text parts → Splits (word ++ text) (word :: parts)

theorem words_go_append {word : List Char} (plain : ∀ c ∈ word, isBlank c = false)
    (front text : List Char) :
    words.go front (word ++ text) = words.go (word.reverse ++ front) text := by
  induction word generalizing front with
  | nil => rfl
  | cons c word ih =>
    obtain ⟨first, plain⟩ := List.forall_mem_cons.mp plain
    rw [List.cons_append, words.go, first, if_neg Bool.false_ne_true, ih plain, List.reverse_cons,
      List.append_assoc, List.singleton_append]

theorem words_cons_blank {c : Char} (blank : isBlank c = true) (text : List Char) :
    words (c :: text) = words text := by
  rw [words, words.go, if_pos blank]
  rfl

theorem words_go_of_boundary {front text : List Char} (read : front ≠ [])
    (boundary : ∀ c ∈ text.head?, isBlank c = true) :
    words.go front text = front.reverse :: words text := by
  have started : ¬ front.isEmpty = true := by rwa [List.isEmpty_iff]
  cases text with
  | nil =>
    rw [words.go, if_neg started]
    rfl
  | cons c text =>
    have blank := boundary c rfl
    rw [words.go, if_pos blank, if_neg started, words_cons_blank blank]
    rfl

theorem words_eq_of_splits {text : List Char} {parts : List (List Char)}
    (h : Splits text parts) : words text = parts := by
  induction h with
  | ended => rfl
  | blank blank _ ih => rw [words_cons_blank blank, ih]
  | word nonempty plain boundary _ ih =>
    have read := mt List.reverse_eq_nil_iff.mp nonempty
    rw [words, words_go_append plain, List.append_nil, words_go_of_boundary read boundary,
      List.reverse_reverse, ih]

theorem exists_splits_cons {c : Char} (plain : isBlank c = false) {text : List Char}
    {parts : List (List Char)} (h : Splits text parts) : ∃ parts, Splits (c :: text) parts := by
  have alone : ∀ d ∈ [c], isBlank d = false := by simpa using plain
  cases h with
  | ended => exact ⟨_, .word (List.cons_ne_nil c []) alone (by simp) .ended⟩
  | blank blank rest =>
    refine ⟨_, .word (List.cons_ne_nil c []) alone ?_ (.blank blank rest)⟩
    simpa using blank
  | word _ others boundary rest =>
    exact ⟨_, .word (List.cons_ne_nil c _) (List.forall_mem_cons.mpr ⟨plain, others⟩) boundary
      rest⟩

theorem exists_splits (text : List Char) : ∃ parts, Splits text parts := by
  induction text with
  | nil => exact ⟨[], .ended⟩
  | cons c text ih =>
    obtain ⟨parts, rest⟩ := ih
    cases first : isBlank c with
    | true => exact ⟨parts, .blank first rest⟩
    | false => exact exists_splits_cons first rest

theorem words_eq_iff {text : List Char} {parts : List (List Char)} :
    words text = parts ↔ Splits text parts := by
  constructor
  · rintro rfl
    obtain ⟨parts, split⟩ := exists_splits text
    rwa [words_eq_of_splits split]
  · exact words_eq_of_splits

end ScriptTokens.Text
