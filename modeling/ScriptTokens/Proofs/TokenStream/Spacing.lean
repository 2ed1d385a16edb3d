import ScriptTokens.Proofs.Lexeme.Series
import ScriptTokens.Proofs.Text.Slice
import ScriptTokens.Proofs.TokenStream.Reading

namespace ScriptTokens
open Text

structure Separator where
  text : List Char
  ne_nil : text ≠ []
  blank : ∀ c ∈ text, isBlank c = true

def spaced (gap : List Char) (separators : Nat → Separator) : List (List Char) → List Char
  | [] => []
  | piece :: more => gap ++ piece ++ spaced (separators 0).text (separators ∘ Nat.succ) more

def spacedSpans (start : Nat) (gap : List Char) (separators : Nat → Separator) :
    List (List Char) → List Span
  | [] => []
  | piece :: more =>
    let first := start + byteSize gap
    let behind := first + byteSize piece
    ⟨first, behind⟩ :: spacedSpans behind (separators 0).text (separators ∘ Nat.succ) more

def sources (text : String) : Except OffsetFault (List (List Char)) :=
  (tokenize text).mapM fun token => slice text.toList token.span.start token.span.stop

def regap (gap : List Char) (separators : Nat → Separator) : List Segment → List Segment
  | [] => []
  | segment :: more =>
    ⟨gap, segment.lexeme⟩ :: regap (separators 0).text (separators ∘ Nat.succ) more

theorem spell_regap (gap : List Char) (separators : Nat → Separator) (pieces : List Segment) :
    spell (regap gap separators pieces) =
      spaced gap separators (pieces.map (·.lexeme.source)) := by
  induction pieces generalizing gap separators with
  | nil => rfl
  | cons segment more ih =>
    rw [regap, spell_cons, ih]
    rfl

theorem lexemes_regap (gap : List Char) (separators : Nat → Separator) (pieces : List Segment) :
    (regap gap separators pieces).map (·.lexeme) = pieces.map (·.lexeme) := by
  induction pieces generalizing gap separators with
  | nil => rfl
  | cons segment more ih => rw [regap, List.map_cons, List.map_cons, ih]

theorem spans_regap (before gap : List Char) (separators : Nat → Separator)
    (pieces : List Segment) :
    (listing before (regap gap separators pieces)).map (·.span) =
      spacedSpans (byteSize before) gap separators (pieces.map (·.lexeme.source)) := by
  induction pieces generalizing before gap separators with
  | nil => rfl
  | cons segment more ih =>
    rw [regap, listing, List.map_cons, ih]
    simp [spacedSpans, Segment.token, Segment.text, Nat.add_assoc]

theorem respaced_regap (separator : Separator) (separators : Nat → Separator)
    (pieces : List Segment) :
    List.Forall₂ Segment.Respaced pieces (regap separator.text separators pieces) := by
  induction pieces generalizing separator separators with
  | nil => exact .nil
  | cons segment more ih =>
    refine .cons ⟨rfl, separator.blank, ?_⟩ (ih (separators 0) _)
    intro closed
    exact absurd closed separator.ne_nil

theorem Series.regap {pieces : List Segment} {afterOperand : Bool} {rest : List Char}
    (h : Series afterOperand pieces rest) (separators : Nat → Separator) :
    Series afterOperand (regap [] separators pieces) [] := by
  have behind : Replaces [] rest := .inr (.inl rfl)
  cases h with
  | nil => exact .nil
  | @cons _ segment more _ gap stands series =>
    have following := respaced_regap (separators 0) (separators ∘ Nat.succ) more
    exact .cons .nil (stands.replaces (series.replaces following behind))
      (series.respaced following behind)

theorem map_listing {α : Type} {read : Token → α} {ofLexeme : Lexeme → α}
    (placeless : ∀ before (segment : Segment),
      read (segment.token before) = ofLexeme segment.lexeme)
    (before : List Char) (pieces : List Segment) :
    (listing before pieces).map read = (pieces.map (·.lexeme)).map ofLexeme := by
  induction pieces generalizing before with
  | nil => rfl
  | cons segment more ih =>
    rw [listing, List.map_cons, ih, placeless]
    rfl

theorem sources_listing (before : List Char) (pieces : List Segment) (rest : List Char) :
    (listing before pieces).mapM (fun token => slice (before ++ (spell pieces ++ rest))
      token.span.start token.span.stop) = .ok (pieces.map (·.lexeme.source)) := by
  induction pieces generalizing before with
  | nil => rfl
  | cons segment more ih =>
    have whole : before ++ (spell (segment :: more) ++ rest) =
        before ++ segment.text ++ (spell more ++ rest) := by
      simp
    have first : slice (before ++ segment.text ++ (spell more ++ rest))
        (segment.token before).span.start (segment.token before).span.stop =
          .ok segment.lexeme.source := by
      refine slice_eq_ok_iff.mpr ⟨before ++ segment.gap, spell more ++ rest, ?_, rfl, ?_⟩
      · simp [Segment.text]
      · simp [Segment.token, Segment.text, Nat.add_assoc]
    rw [whole, listing, List.mapM_cons, first, ih]
    rfl

/-- Whatever white space sets the tokens of a text apart, the same tokens are read, each where its
source has been put. -/
theorem tokenize_spaced (text : String) (separators : Nat → Separator) :
    ∃ pieces, sources text = .ok pieces ∧
      let respaced := tokenize (String.ofList (spaced [] separators pieces))
      respaced.map (·.kind) = (tokenize text).map (·.kind) ∧
        respaced.map (·.value) = (tokenize text).map (·.value) ∧
        respaced.map (·.span) = spacedSpans 0 [] separators pieces := by
  have kinds := @map_listing Kind (·.kind) (·.kind) fun _ _ => rfl
  have values := @map_listing String (·.value) (fun lexeme => .ofList lexeme.value) fun _ _ => rfl
  obtain ⟨tail, whole, -, series⟩ := exists_series false text.toList
  have read := segments_of_series (series.regap separators) Lexeme.Gap.nil.finalGap
  rw [List.append_nil, spell_regap] at read
  refine ⟨(segments false text.toList).map (·.lexeme.source), ?_, ?_, ?_, ?_⟩
  · have given := sources_listing [] (segments false text.toList) tail
    rwa [List.nil_append, ← whole, ← tokenize_eq_listing] at given
  all_goals rw [tokenize_eq_listing, String.toList_ofList, read]
  · rw [tokenize_eq_listing, kinds, kinds, lexemes_regap]
  · rw [tokenize_eq_listing, values, values, lexemes_regap]
  · exact spans_regap [] [] separators _

end ScriptTokens
