import ScriptTokens.Proofs.Lexeme.Gap
import ScriptTokens.Proofs.Lexeme.Literal

namespace ScriptTokens.Lexeme

def isOperand (lexeme : Lexeme) : Bool :=
  match lexeme.kind with
  | .ident | .number => true
  | .keyword => lexeme.value == ['t', 'h', 'i', 's']
  | .operator => lexeme.value == [')'] || lexeme.value == [']']
  | _ => false

end ScriptTokens.Lexeme

namespace ScriptTokens

structure Segment where
  gap : List Char
  lexeme : Lexeme
  deriving DecidableEq, Repr

namespace Segment
open Lexeme

def text (segment : Segment) : List Char := segment.gap ++ segment.lexeme.source

def token (before : List Char) (segment : Segment) : Token :=
  { kind := segment.lexeme.kind
    value := String.ofList segment.lexeme.value
    line :=
      if segment.lexeme.kind = .docComment then
        some ((before ++ segment.gap).count '\n' + 1)
      else none
    span :=
      ⟨Text.byteSize (before ++ segment.gap), Text.byteSize (before ++ segment.text)⟩ }

theorem ofList_beq (value : List Char) (text : String) :
    (String.ofList value == text) = (value == text.toList) := by
  rw [Bool.eq_iff_iff, beq_iff_eq, beq_iff_eq, ← String.toList_inj, String.toList_ofList]

theorem isOperand_token (before : List Char) (segment : Segment) :
    (segment.token before).isOperand = segment.lexeme.isOperand := by
  simp only [Token.isOperand, token, Lexeme.isOperand, ofList_beq]
  rfl

/-- The first segment of a text, and the text behind it; nothing, if no lexeme is left. -/
def cut (afterOperand : Bool) (text : List Char) : Option (Segment × List Char) :=
  match splitGap .blank text with
  | (_, []) => none
  | (gap, c :: cs) => some (⟨gap, (read afterOperand c cs).1⟩, (read afterOperand c cs).2)

theorem cut_eq_none_iff {afterOperand : Bool} {text : List Char} :
    cut afterOperand text = none ↔ FinalGap text := by
  rw [← splitGap_rest_eq_nil_iff, cut]
  split <;> rename_i split <;> simp [split]

structure IsSegment (segment : Segment) : Prop where
  gap : Gap segment.gap
  source_ne_nil : segment.lexeme.source ≠ []
  shows : Shows segment.lexeme.kind segment.lexeme.source segment.lexeme.value

theorem cut_eq_some {afterOperand : Bool} {text rest : List Char} {segment : Segment}
    (h : cut afterOperand text = some (segment, rest)) :
    IsSegment segment ∧ text = segment.text ++ rest := by
  have gap := splitGap_blank text
  have whole := gap_append_rest .blank text
  rw [cut] at h
  split at h
  · cases h
  · rename_i front c cs split
    rw [split] at gap whole
    obtain ⟨rfl, rfl⟩ := Prod.mk.inj (Option.some.inj h)
    constructor
    · exact ⟨by simpa [GapBefore] using gap, source_ne_nil afterOperand c cs,
        read_shows afterOperand c cs⟩
    · rw [← whole, Segment.text, List.append_assoc, source_append_rest]

theorem length_of_cut {afterOperand : Bool} {text rest : List Char} {segment : Segment}
    (h : cut afterOperand text = some (segment, rest)) : rest.length < text.length := by
  obtain ⟨isSegment, rfl⟩ := cut_eq_some h
  have taken := List.length_pos_iff.mpr isSegment.source_ne_nil
  simp only [Segment.text, List.length_append]
  omega

end Segment

def segments (afterOperand : Bool) (text : List Char) : List Segment :=
  match _cut : Segment.cut afterOperand text with
  | none => []
  | some (segment, rest) => segment :: segments segment.lexeme.isOperand rest
termination_by text.length
decreasing_by exact Segment.length_of_cut _cut

theorem segments_of_cut_none {afterOperand : Bool} {text : List Char}
    (h : Segment.cut afterOperand text = none) : segments afterOperand text = [] := by
  rw [segments]
  split <;> simp_all

theorem segments_of_cut_some {afterOperand : Bool} {text rest : List Char} {segment : Segment}
    (h : Segment.cut afterOperand text = some (segment, rest)) :
    segments afterOperand text = segment :: segments segment.lexeme.isOperand rest := by
  rw [segments]
  split <;> simp_all

def spell (pieces : List Segment) : List Char := pieces.flatMap Segment.text

@[simp] theorem spell_nil : spell [] = [] := rfl

@[simp] theorem spell_cons (segment : Segment) (more : List Segment) :
    spell (segment :: more) = segment.text ++ spell more := rfl

@[simp] theorem spell_append (pieces more : List Segment) :
    spell (pieces ++ more) = spell pieces ++ spell more := List.flatMap_append

theorem spell_ne_nil (segment : Segment) (more : List Segment)
    (h : segment.lexeme.source ≠ []) : spell (segment :: more) ≠ [] := by
  simp [Segment.text, h]

end ScriptTokens
