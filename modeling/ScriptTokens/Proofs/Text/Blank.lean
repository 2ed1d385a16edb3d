import Mathlib.Data.List.Basic
import ScriptTokens.Text.Blank

namespace ScriptTokens.Text

structure Sheds (drop : Char → Bool) (text rest : List Char) : Prop where
  split : ∃ dropped, text = dropped ++ rest ∧ ∀ c ∈ dropped, drop c = true
  first : ∀ c ∈ rest.head?, drop c = false

structure Trims (text inner : List Char) : Prop where
  split : ∃ left right, text = left ++ (inner ++ right) ∧
    (∀ c ∈ left, isBlank c = true) ∧ ∀ c ∈ right, isBlank c = true
  first : ∀ c ∈ inner.head?, isBlank c = false
  last : ∀ c ∈ inner.getLast?, isBlank c = false

theorem sheds_dropWhile (drop : Char → Bool) (text : List Char) :
    Sheds drop text (text.dropWhile drop) := by
  constructor
  · exact ⟨text.takeWhile drop, List.takeWhile_append_dropWhile.symm,
      fun c member => List.all_eq_true.mp List.all_takeWhile c member⟩
  · intro c first
    have := List.head?_dropWhile_not drop text
    rw [Option.mem_def.mp first] at this
    simpa using this

theorem dropWhile_eq_iff {drop : Char → Bool} {text rest : List Char} :
    text.dropWhile drop = rest ↔ Sheds drop text rest := by
  constructor
  · rintro rfl
    exact sheds_dropWhile drop text
  · rintro ⟨⟨dropped, rfl, all⟩, first⟩
    rw [List.dropWhile_append_of_pos all]
    cases rest with
    | nil => rfl
    | cons c cs => exact List.dropWhile_cons_of_neg (by simp [first c rfl])

theorem dropEndWhile_eq_iff {drop : Char → Bool} {text rest : List Char} :
    dropEndWhile drop text = rest ↔ Sheds drop text.reverse rest.reverse := by
  rw [dropEndWhile, List.reverse_eq_iff, dropWhile_eq_iff]

theorem trims_trim (text : List Char) : Trims text (trim text) := by
  obtain ⟨⟨left, whole, blankLeft⟩, first⟩ := sheds_dropWhile isBlank text
  have back : trimEnd (trimStart text) = trim text := rfl
  obtain ⟨⟨right, front, blankRight⟩, last⟩ := dropEndWhile_eq_iff.mp back
  have front : trimStart text = trim text ++ right.reverse := by
    rw [← List.reverse_inj, front, List.reverse_append, List.reverse_reverse]
  constructor
  · refine ⟨left, right.reverse, ?_, blankLeft, by simpa using blankRight⟩
    rw [← front]
    exact whole
  · intro c atFront
    apply first c
    rw [← trimStart, front]
    exact List.mem_head?_append_of_mem_head? atFront
  · intro c atBack
    apply last c
    rwa [List.head?_reverse]

theorem trim_eq_iff {text inner : List Char} : trim text = inner ↔ Trims text inner := by
  constructor
  · rintro rfl
    exact trims_trim text
  · rintro ⟨⟨left, right, rfl, blankLeft, blankRight⟩, first, last⟩
    cases inner with
    | nil =>
      have front : trimStart (left ++ ([] ++ right)) = [] := by
        apply dropWhile_eq_iff.mpr
        refine ⟨⟨left ++ right, by simp, ?_⟩, by simp⟩
        simpa [or_imp, forall_and] using ⟨blankLeft, blankRight⟩
      rw [trim, front]
      rfl
    | cons c cs =>
      have front : trimStart (left ++ (c :: cs ++ right)) = c :: cs ++ right :=
        dropWhile_eq_iff.mpr ⟨⟨left, rfl, blankLeft⟩, first⟩
      rw [trim, front]
      apply dropEndWhile_eq_iff.mpr
      refine ⟨⟨right.reverse, by simp, by simpa using blankRight⟩, ?_⟩
      rwa [List.head?_reverse]

theorem trim_append_blank {c : Char} (blank : isBlank c = true) (text : List Char) :
    trim (text ++ [c]) = trim text := by
  obtain ⟨⟨left, right, whole, blankLeft, blankRight⟩, first, last⟩ := trims_trim text
  refine trim_eq_iff.mpr ⟨⟨left, right ++ [c], ?_, blankLeft, ?_⟩, first, last⟩
  · nth_rewrite 1 [whole]
    simp
  · simpa [or_imp, forall_and, blank] using blankRight

theorem stripStarts_go_of_not_prefix {head text : List Char} (h : ¬ head <+: text)
    (copies : Nat) : stripStarts.go head copies text = text := by
  cases copies with
  | zero => rfl
  | succ copies =>
    have none : stripStart? head text = none := by
      by_contra some
      obtain ⟨rest, found⟩ := Option.ne_none_iff_exists'.mp some
      exact h ⟨rest, List.isPrefixOf?_eq_some_iff_append_eq.mp found⟩
    rw [stripStarts.go, none]

theorem stripStarts_of_not_prefix {head text : List Char} (h : ¬ head <+: text) :
    stripStarts head text = text := stripStarts_go_of_not_prefix h text.length

theorem stripStarts_append {head rest : List Char} (nonempty : head ≠ [])
    (h : ¬ head <+: rest) : stripStarts head (head ++ rest) = rest := by
  obtain ⟨copies, length⟩ : ∃ copies, (head ++ rest).length = copies + 1 := by
    apply Nat.exists_eq_succ_of_ne_zero
    simp [nonempty]
  have some : stripStart? head (head ++ rest) = some rest :=
    List.isPrefixOf?_eq_some_iff_append_eq.mpr rfl
  rw [stripStarts, length, stripStarts.go, some]
  exact stripStarts_go_of_not_prefix h copies

theorem stripEnds_of_not_suffix {tail text : List Char} (h : ¬ tail <:+ text) :
    stripEnds tail text = text := by
  rw [stripEnds, stripStarts_of_not_prefix (mt List.reverse_prefix.mp h), List.reverse_reverse]

theorem stripEnds_append {tail text : List Char} (nonempty : tail ≠ []) (h : ¬ tail <:+ text) :
    stripEnds tail (text ++ tail) = text := by
  rw [stripEnds, List.reverse_append, stripStarts_append (by simpa using nonempty)
    (mt List.reverse_prefix.mp h), List.reverse_reverse]

theorem lines_cons {c : Char} {cs : List Char} {line : List Char} {more : List (List Char)}
    (notNewline : c ≠ '\n') (notEnd : ¬ (c = '\r' ∧ cs.head? = some '\n'))
    (h : lines cs = line :: more) : lines (c :: cs) = (c :: line) :: more := by
  rw [lines, h]
  · exact notNewline
  · rintro rest rfl rfl
    exact notEnd ⟨rfl, rfl⟩

theorem lines_of_not_mem {c : Char} {cs : List Char} (h : '\n' ∉ c :: cs) :
    lines (c :: cs) = [c :: cs] := by
  induction cs generalizing c with
  | nil =>
    rw [lines, lines]
    · exact fun newline => h (by simp [newline])
    · rintro rest - ⟨⟩
  | cons d ds ih =>
    rw [List.mem_cons, not_or] at h
    obtain ⟨notNewline, later⟩ := h
    apply lines_cons (Ne.symm notNewline) ?_ (ih later)
    rintro ⟨-, newline⟩
    exact later (List.mem_of_mem_head? newline)

theorem exists_lines_append {line : List Char} (h : '\n' ∉ line) (rest : List Char) :
    ∃ first, lines (line ++ '\n' :: rest) = first :: lines rest ∧
      (line = first ∨ line = first ++ ['\r']) := by
  induction line with
  | nil => exact ⟨[], by rw [List.nil_append, lines], .inl rfl⟩
  | cons c cs ih =>
    rw [List.mem_cons, not_or] at h
    obtain ⟨notNewline, later⟩ := h
    by_cases lineEnd : c = '\r' ∧ cs = []
    · obtain ⟨rfl, rfl⟩ := lineEnd
      exact ⟨[], by simp only [List.cons_append, List.nil_append]; rw [lines], .inr rfl⟩
    obtain ⟨first, cut, ends⟩ := ih later
    refine ⟨c :: first, lines_cons (Ne.symm notNewline) ?_ cut, ends.imp (congrArg _) (congrArg _)⟩
    rintro ⟨carriageReturn, newline⟩
    cases cs with
    | nil => exact lineEnd ⟨carriageReturn, rfl⟩
    | cons d ds => exact later (List.mem_cons.mpr (.inl (Option.some.inj newline).symm))

end ScriptTokens.Text
