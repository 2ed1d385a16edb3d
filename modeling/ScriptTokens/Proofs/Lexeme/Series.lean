import Mathlib.Data.List.Forall2
import ScriptTokens.Proofs.Lexeme.Segment
import ScriptTokens.Proofs.Lexeme.Standing

namespace ScriptTokens
open Lexeme

inductive Series : (afterOperand : Bool) → List Segment → List Char → Prop
  | nil {afterOperand : Bool} {rest : List Char} : Series afterOperand [] rest
  | cons {afterOperand : Bool} {segment : Segment} {more : List Segment} {rest : List Char} :
      Gap segment.gap → Stands afterOperand segment.lexeme (spell more ++ rest) →
      Series segment.lexeme.isOperand more rest → Series afterOperand (segment :: more) rest

def operandBehind (afterOperand : Bool) : List Segment → Bool
  | [] => afterOperand
  | segment :: more => operandBehind segment.lexeme.isOperand more

namespace Segment
variable {afterOperand : Bool} {segment : Segment} {text rest : List Char}

theorem stands_of_cut (h : cut afterOperand text = some (segment, rest)) :
    Stands afterOperand segment.lexeme rest := by
  have starts := startsLexeme_splitGap .blank text
  rw [cut] at h
  split at h
  · cases h
  · rename_i gap c cs split
    rw [split] at starts
    obtain ⟨rfl, rfl⟩ := Prod.mk.inj (Option.some.inj h)
    exact stands_read afterOperand starts

theorem cut_of_stands (gap : Gap segment.gap) (stands : Stands afterOperand segment.lexeme rest) :
    cut afterOperand (segment.text ++ rest) = some (segment, rest) := by
  obtain ⟨c, cs, whole, starts, read⟩ := read_of_stands stands
  have split : splitGap .blank (segment.text ++ rest) = (segment.gap, c :: cs) := by
    rw [text, List.append_assoc, splitGap_append gap, whole, starts, List.append_nil]
  simp only [cut, split, read]

end Segment

namespace Series
variable {afterOperand : Bool} {pieces more : List Segment} {rest other : List Char}

theorem append_iff :
    Series afterOperand (pieces ++ more) rest ↔
      Series afterOperand pieces (spell more ++ rest) ∧
        Series (operandBehind afterOperand pieces) more rest := by
  induction pieces generalizing afterOperand with
  | nil => exact ⟨fun h => ⟨.nil, h⟩, fun h => h.2⟩
  | cons segment pieces ih =>
    constructor
    · rintro (_ | ⟨gap, stands, later⟩)
      have stands : Stands afterOperand segment.lexeme (spell (pieces ++ more) ++ rest) := stands
      rw [spell_append, List.append_assoc] at stands
      exact ⟨.cons gap stands (ih.mp later).1, (ih.mp later).2⟩
    · rintro ⟨_ | ⟨gap, stands, later⟩, last⟩
      rw [← List.append_assoc, ← spell_append] at stands
      exact .cons gap stands (ih.mpr ⟨later, last⟩)

theorem of_last (h : Series afterOperand pieces rest)
    (last : ∀ segment ∈ pieces.getLast?, ∀ operand,
      Stands operand segment.lexeme rest → Stands operand segment.lexeme other) :
    Series afterOperand pieces other := by
  -- what follows any lexeme but the last starts with the lexeme behind it
  induction h with
  | nil => exact .nil
  | @cons afterOperand segment more rest gap stands series ih =>
    cases series with
    | nil => exact .cons gap (last segment rfl _ stands) .nil
    | @cons _ second later _ _ following _ =>
      have same : (spell (second :: later) ++ other).head? =
          (spell (second :: later) ++ rest).head? := by
        obtain ⟨c, cs, inside⟩ := List.exists_cons_of_ne_nil
          (spell_ne_nil second later following.source_ne_nil)
        rw [inside]
        rfl
      refine .cons gap (stands.of_head? same) (ih ?_)
      rwa [List.getLast?_cons_cons] at last

theorem of_head? (h : Series afterOperand pieces rest) (same : other.head? = rest.head?) :
    Series afterOperand pieces other :=
  h.of_last fun _ _ _ stands => stands.of_head? same

end Series

theorem exists_series (afterOperand : Bool) (text : List Char) :
    ∃ tail, text = spell (segments afterOperand text) ++ tail ∧ FinalGap tail ∧
      Series afterOperand (segments afterOperand text) tail := by
  fun_induction segments afterOperand text with
  | case1 afterOperand text cut => exact ⟨text, rfl, Segment.cut_eq_none_iff.mp cut, .nil⟩
  | case2 afterOperand text segment rest cut ih =>
    obtain ⟨isSegment, whole⟩ := Segment.cut_eq_some cut
    have stands := Segment.stands_of_cut cut
    obtain ⟨tail, rest_eq, final, series⟩ := ih
    refine ⟨tail, ?_, final, .cons isSegment.gap ?_ series⟩
    · rw [spell_cons, List.append_assoc, ← rest_eq]
      exact whole
    · rwa [← rest_eq]

theorem segments_append {afterOperand : Bool} {pieces : List Segment} {rest : List Char}
    (h : Series afterOperand pieces rest) :
    segments afterOperand (spell pieces ++ rest) =
      pieces ++ segments (operandBehind afterOperand pieces) rest := by
  induction h with
  | nil => rfl
  | @cons afterOperand segment more rest gap stands _ ih =>
    rw [spell_cons, List.append_assoc, segments_of_cut_some (Segment.cut_of_stands gap stands), ih]
    rfl

theorem segments_of_series {afterOperand : Bool} {pieces : List Segment} {tail : List Char}
    (h : Series afterOperand pieces tail) (final : FinalGap tail) :
    segments afterOperand (spell pieces ++ tail) = pieces := by
  rw [segments_append h, segments_of_cut_none (Segment.cut_eq_none_iff.mpr final), List.append_nil]

theorem gap_of_blank {gap : List Char} (h : ∀ c ∈ gap, Text.isBlank c = true) : Gap gap := by
  induction gap with
  | nil => exact .nil
  | cons c gap ih =>
    rw [List.forall_mem_cons] at h
    exact .blank h.1 (ih h.2)

structure Segment.Respaced (segment other : Segment) : Prop where
  lexeme : other.lexeme = segment.lexeme
  blank : ∀ c ∈ other.gap, Text.isBlank c = true
  apart : other.gap = [] → segment.gap = []

def Replaces (other rest : List Char) : Prop :=
  other.head? = rest.head? ∨ other = [] ∨
    (rest ≠ [] ∧ ∀ c ∈ other.head?, Text.isBlank c = true)

theorem Lexeme.Stands.replaces {afterOperand : Bool} {lexeme : Lexeme} {rest other : List Char}
    (h : Stands afterOperand lexeme rest) (replaces : Replaces other rest) :
    Stands afterOperand lexeme other := by
  rcases replaces with same | rfl | ⟨inside, blank⟩
  · exact h.of_head? same
  · exact h.atEnd
  · exact h.blank (fun atEnd => absurd atEnd inside) blank

theorem Segment.Respaced.replaces {segment other : Segment} (h : segment.Respaced other)
    (source : segment.lexeme.source ≠ []) (behind rest : List Char) :
    Replaces (other.text ++ behind) (segment.text ++ rest) := by
  have inside : segment.text ++ rest ≠ [] := by
    simp [Segment.text, source]
  by_cases closed : other.gap = []
  · obtain ⟨c, cs, first⟩ := List.exists_cons_of_ne_nil source
    left
    simp [Segment.text, closed, h.apart closed, h.lexeme, first]
  · obtain ⟨c, cs, first⟩ := List.exists_cons_of_ne_nil closed
    refine .inr (.inr ⟨inside, ?_⟩)
    have blank := h.blank
    simp_all [Segment.text]

namespace Series
variable {afterOperand : Bool} {pieces others : List Segment} {rest other : List Char}

theorem replaces (h : Series afterOperand pieces rest)
    (spaced : List.Forall₂ Segment.Respaced pieces others) (behind : Replaces other rest) :
    Replaces (spell others ++ other) (spell pieces ++ rest) := by
  cases spaced with
  | nil => exact behind
  | cons first _ =>
    cases h with
    | cons _ stands _ =>
      rw [spell_cons, spell_cons, List.append_assoc, List.append_assoc]
      exact first.replaces stands.source_ne_nil _ _

theorem respaced (h : Series afterOperand pieces rest)
    (spaced : List.Forall₂ Segment.Respaced pieces others) (behind : Replaces other rest) :
    Series afterOperand others other := by
  induction h generalizing others with
  | nil =>
    cases spaced
    exact .nil
  | cons _ stands series ih =>
    cases spaced with
    | cons first following =>
      have later := ih following behind
      have stands := stands.replaces (series.replaces following behind)
      rw [← first.lexeme] at stands later
      exact .cons (gap_of_blank first.blank) stands later

end Series

end ScriptTokens
