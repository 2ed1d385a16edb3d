import ScriptTokens.Lexeme

/-!
# The grammar of gaps

`Gap` is the grammar of white space and ordinary comments, and `FinalGap` allows a comment that is
still open at the end of the text. What `splitGap` takes from the front of a text is such a gap
(`splitGap_blank`), it takes every gap that stands there (`splitGap_append`), and so nothing is
left behind it exactly when the whole text is a final gap (`splitGap_rest_eq_nil_iff`).
-/

namespace ScriptTokens.Lexeme

/-! ## The grammar -/

/-- The inside of a closed block comment: its closer is the first, and its opener is not that of a
documentation comment. -/
def IsBlockBody (body : List Char) : Prop :=
  (body ++ ['*']).head? ≠ some '*' ∧ ¬ ['*', '/'] <:+: body ++ ['*']

inductive Gap : List Char → Prop
  | nil : Gap []
  | blank {c : Char} {gap : List Char} : Text.isBlank c = true → Gap gap → Gap (c :: gap)
  | lineComment {body gap : List Char} :
      '\n' ∉ body → Gap gap → Gap ('/' :: '/' :: (body ++ '\n' :: gap))
  | blockComment {body gap : List Char} :
      IsBlockBody body → Gap gap → Gap ('/' :: '*' :: (body ++ '*' :: '/' :: gap))

inductive OpenComment : List Char → Prop
  | line {body : List Char} : '\n' ∉ body → OpenComment ('/' :: '/' :: body)
  | block {body : List Char} :
      body.head? ≠ some '*' → ¬ ['*', '/'] <:+: body → OpenComment ('/' :: '*' :: body)

/-- A gap that ends the text, of which the last comment may be open. -/
def FinalGap (text : List Char) : Prop :=
  ∃ gap comment, Gap gap ∧ (comment = [] ∨ OpenComment comment) ∧ text = gap ++ comment

def GapBefore (rest gap : List Char) : Prop := if rest = [] then FinalGap gap else Gap gap

theorem Gap.finalGap {gap : List Char} (h : Gap gap) : FinalGap gap :=
  ⟨gap, [], h, .inl rfl, (List.append_nil gap).symm⟩

theorem Gap.gapBefore {rest gap : List Char} (h : Gap gap) : GapBefore rest gap := by
  unfold GapBefore
  split
  · exact h.finalGap
  · exact h

theorem OpenComment.finalGap {comment : List Char} (h : OpenComment comment) :
    FinalGap comment := ⟨[], comment, .nil, .inr h, rfl⟩

theorem Gap.append {gap more : List Char} (h : Gap gap) (hmore : Gap more) : Gap (gap ++ more) := by
  induction h with
  | nil => exact hmore
  | blank hc _ ih => exact .blank hc ih
  | lineComment hbody _ ih => simpa using Gap.lineComment hbody ih
  | blockComment hbody _ ih => simpa using Gap.blockComment hbody ih

theorem FinalGap.append {gap rest : List Char} (h : Gap gap) (final : FinalGap rest) :
    FinalGap (gap ++ rest) := by
  obtain ⟨more, comment, hmore, hcomment, rfl⟩ := final
  exact ⟨gap ++ more, comment, h.append hmore, hcomment, (List.append_assoc ..).symm⟩

/-! ## What is read of a gap -/

theorem closer_infix_cons {c : Char} {text : List Char} :
    ['*', '/'] <:+: c :: text ↔ (c = '*' ∧ text.head? = some '/') ∨ ['*', '/'] <:+: text := by
  rw [List.infix_cons_iff, List.cons_prefix_cons, eq_comm (a := '*')]
  cases text with
  | nil => simp
  | cons d text => rw [List.cons_prefix_cons, eq_comm (a := '/')]; simp

theorem closer_not_infix_cons {c : Char} {body : List Char} (cs : List Char) :
    ¬ ['*', '/'] <:+: c :: body ++ ['*'] ↔
      ¬ (c = '*' ∧ (body ++ '*' :: cs).head? = some '/') ∧ ¬ ['*', '/'] <:+: body ++ ['*'] := by
  -- what follows the star of the first closer is free, so `cs` does not count
  rw [List.cons_append, closer_infix_cons, not_or]
  cases body <;> rfl

def GapState.Finishes (rest : List Char) : GapState → List Char → Prop
  | .blank, gap => GapBefore rest gap
  | .lineComment, gap =>
    (∃ body more, '\n' ∉ body ∧ GapBefore rest more ∧ gap = body ++ '\n' :: more) ∨
      (rest = [] ∧ '\n' ∉ gap)
  | .blockComment, gap =>
    (∃ body more, ¬ ['*', '/'] <:+: body ++ ['*'] ∧ GapBefore rest more ∧
      gap = body ++ '*' :: '/' :: more) ∨
      (rest = [] ∧ ¬ ['*', '/'] <:+: gap)

theorem GapBefore.append {rest gap more : List Char} (h : Gap gap) (before : GapBefore rest more) :
    GapBefore rest (gap ++ more) := by
  unfold GapBefore at before ⊢
  split at before
  · rename_i atEnd
    rw [if_pos atEnd]
    exact before.append h
  · rename_i inside
    rw [if_neg inside]
    exact h.append before

theorem finishes_newline {rest gap : List Char} (h : GapBefore rest gap) :
    GapState.lineComment.Finishes rest ('\n' :: gap) :=
  .inl ⟨[], gap, List.not_mem_nil, h, rfl⟩

theorem finishes_lineComment_cons {rest gap : List Char} {c : Char} (inLine : c ≠ '\n')
    (h : GapState.lineComment.Finishes rest gap) :
    GapState.lineComment.Finishes rest (c :: gap) := by
  rcases h with ⟨body, more, hbody, hmore, rfl⟩ | ⟨atEnd, hgap⟩
  · exact .inl ⟨c :: body, more, by simp [hbody, inLine.symm], hmore, rfl⟩
  · exact .inr ⟨atEnd, by simp [hgap, inLine.symm]⟩

theorem finishes_closer {rest gap : List Char} (h : GapBefore rest gap) :
    GapState.blockComment.Finishes rest ('*' :: '/' :: gap) :=
  .inl ⟨[], gap, by simp [closer_infix_cons], h, rfl⟩

theorem finishes_blockComment_cons {rest gap : List Char} {c : Char}
    (inBlock : ¬ (c = '*' ∧ gap.head? = some '/'))
    (h : GapState.blockComment.Finishes rest gap) :
    GapState.blockComment.Finishes rest (c :: gap) := by
  rcases h with ⟨body, more, hbody, hmore, rfl⟩ | ⟨atEnd, hgap⟩
  · exact .inl ⟨c :: body, more, (closer_not_infix_cons _).mpr ⟨inBlock, hbody⟩, hmore, rfl⟩
  · exact .inr ⟨atEnd, by rw [closer_infix_cons, not_or]; exact ⟨inBlock, hgap⟩⟩

theorem gapBefore_lineComment {rest gap : List Char}
    (h : GapState.lineComment.Finishes rest gap) : GapBefore rest ('/' :: '/' :: gap) := by
  rcases h with ⟨body, more, hbody, hmore, rfl⟩ | ⟨atEnd, hgap⟩
  · simpa using GapBefore.append (.lineComment hbody .nil) hmore
  · rw [GapBefore, if_pos atEnd]
    exact (OpenComment.line hgap).finalGap

theorem gapBefore_blockComment {rest gap : List Char} (ordinary : gap.head? ≠ some '*')
    (h : GapState.blockComment.Finishes rest gap) : GapBefore rest ('/' :: '*' :: gap) := by
  rcases h with ⟨body, more, hbody, hmore, rfl⟩ | ⟨atEnd, hgap⟩
  · have inside : IsBlockBody body := by
      refine ⟨?_, hbody⟩
      cases body with
      | nil => exact absurd rfl ordinary
      | cons c body => exact ordinary
    simpa using GapBefore.append (.blockComment inside .nil) hmore
  · rw [GapBefore, if_pos atEnd]
    exact (OpenComment.block ordinary hgap).finalGap

theorem head?_of_gap {state : GapState} {text gap rest : List Char} {c : Char}
    (split : splitGap state text = (gap, rest)) (h : gap.head? = some c) :
    text.head? = some c := by
  have whole := gap_append_rest state text
  rw [split] at whole
  rw [← whole, List.head?_append, h]
  rfl

theorem splitGap_finishes (state : GapState) (text : List Char) :
    state.Finishes (splitGap state text).2 (splitGap state text).1 := by
  fun_induction splitGap state text with
  | case1 state => cases state <;> simp [GapState.Finishes, Gap.nil.gapBefore]
  | case2 c cs gap rest split ih =>
    rw [split] at ih
    by_cases newline : c = '\n'
    · subst newline
      exact finishes_newline ih
    · rw [if_neg newline] at ih
      exact finishes_lineComment_cons newline ih
  | case3 cs gap rest split ih =>
    rw [split] at ih
    exact finishes_closer ih
  | case4 c cs notCloser gap rest split ih =>
    rw [split] at ih
    refine finishes_blockComment_cons ?_ ih
    rintro ⟨star, slash⟩
    obtain ⟨tail, htail⟩ := List.head?_eq_some_iff.mp (head?_of_gap split slash)
    exact notCloser tail star htail
  | case5 cs gap rest split ih =>
    rw [split] at ih
    exact gapBefore_lineComment ih
  | case6 cs documentation => exact Gap.nil.gapBefore
  | case7 cs ordinary gap rest split ih =>
    rw [split] at ih
    exact gapBefore_blockComment (fun star => ordinary (head?_of_gap split star)) ih
  | case8 c cs notLine notBlock isBlank gap rest split ih =>
    rw [split] at ih
    exact GapBefore.append (.blank isBlank .nil) ih
  | case9 c cs notLine notBlock notBlank => exact Gap.nil.gapBefore

theorem splitGap_blank (text : List Char) :
    GapBefore (splitGap .blank text).2 (splitGap .blank text).1 :=
  splitGap_finishes .blank text

/-! ## Every gap is read -/

theorem splitGap_lineOpener (cs : List Char) :
    splitGap .blank ('/' :: '/' :: cs) =
      ('/' :: '/' :: (splitGap .lineComment cs).1, (splitGap .lineComment cs).2) := rfl

theorem splitGap_blockOpener {cs : List Char} (ordinary : cs.head? ≠ some '*') :
    splitGap .blank ('/' :: '*' :: cs) =
      ('/' :: '*' :: (splitGap .blockComment cs).1, (splitGap .blockComment cs).2) :=
  if_neg ordinary

theorem splitGap_documentation {cs : List Char} (h : cs.head? = some '*') :
    splitGap .blank ('/' :: '*' :: cs) = ([], '/' :: '*' :: cs) := if_pos h

theorem splitGap_blank_cons {c : Char} (h : Text.isBlank c = true) (cs : List Char) :
    splitGap .blank (c :: cs) = (c :: (splitGap .blank cs).1, (splitGap .blank cs).2) := by
  have notSlash : c ≠ '/' := by
    rintro rfl
    exact absurd h (by decide)
  rw [splitGap.eq_def]
  split <;> simp_all

theorem splitGap_lexeme {c : Char} {cs : List Char} (notBlank : ¬ Text.isBlank c = true)
    (notLine : ∀ more, c = '/' → cs = '/' :: more → False)
    (notBlock : ∀ more, c = '/' → cs = '*' :: more → False) :
    splitGap .blank (c :: cs) = ([], c :: cs) := by
  rw [splitGap.eq_def]
  split <;> simp_all

theorem splitGap_newline (cs : List Char) :
    splitGap .lineComment ('\n' :: cs) =
      ('\n' :: (splitGap .blank cs).1, (splitGap .blank cs).2) := rfl

theorem splitGap_line_cons {c : Char} (inLine : c ≠ '\n') (cs : List Char) :
    splitGap .lineComment (c :: cs) =
      (c :: (splitGap .lineComment cs).1, (splitGap .lineComment cs).2) := by
  rw [splitGap.eq_def]
  simp only [if_neg inLine]

theorem splitGap_line {body : List Char} (h : '\n' ∉ body) (cs : List Char) :
    splitGap .lineComment (body ++ '\n' :: cs) =
      (body ++ '\n' :: (splitGap .blank cs).1, (splitGap .blank cs).2) := by
  induction body with
  | nil => exact splitGap_newline cs
  | cons c body ih =>
    rw [List.mem_cons, not_or] at h
    rw [List.cons_append, splitGap_line_cons (Ne.symm h.1), ih h.2]
    rfl

theorem splitGap_openLine {body : List Char} (h : '\n' ∉ body) :
    splitGap .lineComment body = (body, []) := by
  induction body with
  | nil => rfl
  | cons c body ih =>
    rw [List.mem_cons, not_or] at h
    rw [splitGap_line_cons (Ne.symm h.1), ih h.2]

theorem splitGap_closer (cs : List Char) :
    splitGap .blockComment ('*' :: '/' :: cs) =
      ('*' :: '/' :: (splitGap .blank cs).1, (splitGap .blank cs).2) := rfl

theorem splitGap_block_cons {c : Char} {cs : List Char} (h : ¬ (c = '*' ∧ cs.head? = some '/')) :
    splitGap .blockComment (c :: cs) =
      (c :: (splitGap .blockComment cs).1, (splitGap .blockComment cs).2) := by
  rw [splitGap.eq_def]
  split <;> simp_all

theorem splitGap_block {body : List Char} (h : ¬ ['*', '/'] <:+: body ++ ['*']) (cs : List Char) :
    splitGap .blockComment (body ++ '*' :: '/' :: cs) =
      (body ++ '*' :: '/' :: (splitGap .blank cs).1, (splitGap .blank cs).2) := by
  induction body with
  | nil => exact splitGap_closer cs
  | cons c body ih =>
    obtain ⟨inBlock, later⟩ := (closer_not_infix_cons ('/' :: cs)).mp h
    rw [List.cons_append, splitGap_block_cons inBlock, ih later]
    rfl

theorem splitGap_openBlock {body : List Char} (h : ¬ ['*', '/'] <:+: body) :
    splitGap .blockComment body = (body, []) := by
  induction body with
  | nil => rfl
  | cons c body ih =>
    rw [closer_infix_cons, not_or] at h
    rw [splitGap_block_cons h.1, ih h.2]

theorem splitGap_append {gap : List Char} (h : Gap gap) (text : List Char) :
    splitGap .blank (gap ++ text) =
      (gap ++ (splitGap .blank text).1, (splitGap .blank text).2) := by
  induction h with
  | nil => rfl
  | @blank c gap hc _ ih =>
    rw [List.cons_append, splitGap_blank_cons hc, ih]
    rfl
  | @lineComment body gap hbody _ ih =>
    have shape : '/' :: '/' :: (body ++ '\n' :: gap) ++ text =
        '/' :: '/' :: (body ++ '\n' :: (gap ++ text)) := by simp
    rw [shape, splitGap_lineOpener, splitGap_line hbody, ih]
    simp
  | @blockComment body gap hbody _ ih =>
    have shape : '/' :: '*' :: (body ++ '*' :: '/' :: gap) ++ text =
        '/' :: '*' :: (body ++ '*' :: '/' :: (gap ++ text)) := by simp
    have ordinary : (body ++ '*' :: '/' :: (gap ++ text)).head? ≠ some '*' := by
      cases body with
      | nil => exact absurd rfl hbody.1
      | cons c body => exact hbody.1
    rw [shape, splitGap_blockOpener ordinary, splitGap_block hbody.2, ih]
    simp

theorem splitGap_openComment {comment : List Char} (h : OpenComment comment) :
    splitGap .blank comment = (comment, []) := by
  cases h with
  | line hbody => rw [splitGap_lineOpener, splitGap_openLine hbody]
  | block ordinary hbody => rw [splitGap_blockOpener ordinary, splitGap_openBlock hbody]

theorem splitGap_final {text : List Char} (h : FinalGap text) :
    splitGap .blank text = (text, []) := by
  obtain ⟨gap, comment, hgap, hcomment, rfl⟩ := h
  rw [splitGap_append hgap]
  rcases hcomment with rfl | hcomment
  · rfl
  · rw [splitGap_openComment hcomment]

theorem splitGap_rest_eq_nil_iff (text : List Char) :
    (splitGap .blank text).2 = [] ↔ FinalGap text := by
  constructor
  · intro atEnd
    have read := splitGap_blank text
    have whole := gap_append_rest .blank text
    rw [GapBefore, if_pos atEnd] at read
    rw [atEnd, List.append_nil] at whole
    rwa [whole] at read
  · intro h
    rw [splitGap_final h]

end ScriptTokens.Lexeme
