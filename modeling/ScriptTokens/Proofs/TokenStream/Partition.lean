import ScriptTokens.Proofs.Text.Slice
import ScriptTokens.Proofs.TokenStream.Reading

namespace ScriptTokens
open Lexeme

/-- The tokens cut the text from the byte offset `start` on: each piece lies on character
boundaries, a gap ends where a token starts, and every token shows a source that is not empty. -/
inductive Partition (text : List Char) : (start : Nat) → List Token → Prop
  | ending {start : Nat} {gap : List Char} :
      Text.slice text start (Text.byteSize text) = .ok gap → FinalGap gap →
      Partition text start []
  | token {start : Nat} {token : Token} {more : List Token} {gap source : List Char} :
      Text.slice text start token.span.start = .ok gap → Gap gap →
      token.span.start < token.span.stop →
      Text.slice text token.span.start token.span.stop = .ok source →
      Shows token.kind source token.value.toList →
      Partition text token.span.stop more →
      Partition text start (token :: more)

namespace Partition
variable {text : List Char} {start : Nat} {tokens : List Token}

theorem le_start (h : Partition text start tokens) :
    ∀ token ∈ tokens, start ≤ token.span.start := by
  induction h with
  | ending => simp
  | token gap _ nonempty _ _ _ ih =>
    obtain ⟨_, _, _, _, reached⟩ := Text.slice_eq_ok_iff.mp gap
    intro other member
    rcases List.mem_cons.mp member with rfl | member
    · omega
    · have := ih other member
      omega

theorem ordered (h : Partition text start tokens) :
    tokens.Pairwise fun earlier later => earlier.span.stop ≤ later.span.start := by
  induction h with
  | ending => exact .nil
  | token _ _ _ _ _ more ih => exact .cons more.le_start ih

theorem starts_increase (h : Partition text start tokens) :
    tokens.Pairwise fun earlier later => earlier.span.start < later.span.start := by
  induction h with
  | ending => exact .nil
  | token _ _ nonempty _ _ more ih =>
    exact .cons (fun later member => Nat.lt_of_lt_of_le nonempty (more.le_start later member)) ih

end Partition

theorem byteSize_pos {text : List Char} (h : text ≠ []) : 0 < Text.byteSize text := by
  cases text with
  | nil => exact absurd rfl h
  | cons c cs =>
    have := c.utf8Size_pos
    rw [Text.byteSize_cons]
    omega

theorem listing_partition (before text : List Char) (afterOperand : Bool) :
    Partition (before ++ text) (Text.byteSize before)
      (listing before (segments afterOperand text)) := by
  cases hcut : Segment.cut afterOperand text with
  | none =>
    rw [segments_of_cut_none hcut, listing]
    refine .ending (Text.slice_eq_ok_iff.mpr ?_) (Segment.cut_eq_none_iff.mp hcut)
    exact ⟨before, [], by simp, rfl, by simp⟩
  | some cut =>
    obtain ⟨segment, rest⟩ := cut
    obtain ⟨isSegment, whole⟩ := Segment.cut_eq_some hcut
    have shorter := Segment.length_of_cut hcut
    have taken := byteSize_pos isSegment.source_ne_nil
    rw [segments_of_cut_some hcut, listing, whole]
    have gap : Text.slice (before ++ (segment.text ++ rest)) (Text.byteSize before)
        (segment.token before).span.start = .ok segment.gap := by
      refine Text.slice_eq_ok_iff.mpr ⟨before, segment.lexeme.source ++ rest, ?_, rfl, ?_⟩
      · simp [Segment.text]
      · simp [Segment.token]
    have nonempty : (segment.token before).span.start < (segment.token before).span.stop := by
      simp only [Segment.token, Segment.text, Text.byteSize_append]
      omega
    have source : Text.slice (before ++ (segment.text ++ rest)) (segment.token before).span.start
        (segment.token before).span.stop = .ok segment.lexeme.source := by
      refine Text.slice_eq_ok_iff.mpr ⟨before ++ segment.gap, rest, ?_, rfl, ?_⟩
      · simp [Segment.text]
      · simp only [Segment.token, Segment.text, Text.byteSize_append]
        omega
    have shows : Shows (segment.token before).kind segment.lexeme.source
        (segment.token before).value.toList := by
      simpa [Segment.token] using isSegment.shows
    have more := listing_partition (before ++ segment.text) rest segment.lexeme.isOperand
    rw [List.append_assoc] at more
    exact .token gap isSegment.gap nonempty source shows more
termination_by text.length

theorem listing_eq_nil_iff (before text : List Char) (afterOperand : Bool) :
    listing before (segments afterOperand text) = [] ↔ FinalGap text := by
  rw [← @Segment.cut_eq_none_iff afterOperand]
  cases hcut : Segment.cut afterOperand text with
  | none => simp [segments_of_cut_none hcut, listing]
  | some cut => simp [segments_of_cut_some hcut, listing]

/-- The tokens of a text and the gaps around them make it up, in order, and a text without tokens
is a gap. -/
theorem tokenize_partition (text : String) :
    Partition text.toList 0 (tokenize text) ∧
      (tokenize text).Pairwise (fun earlier later => earlier.span.stop ≤ later.span.start) ∧
      (tokenize text = [] ↔ FinalGap text.toList) := by
  have partition : Partition text.toList 0 (tokenize text) := by
    rw [tokenize_eq_listing]
    exact listing_partition [] text.toList false
  refine ⟨partition, partition.ordered, ?_⟩
  rw [tokenize_eq_listing]
  exact listing_eq_nil_iff [] text.toList false

end ScriptTokens
