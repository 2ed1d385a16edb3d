import ScriptTokens.Prompt.Highlight
import ScriptTokens.Proofs.Lexeme.Series
import ScriptTokens.Proofs.Report
import ScriptTokens.Proofs.Text.Slice

namespace ScriptTokens.Prompt
open Text

theorem erases_paintGap {gap : List Char} (h : '\x1b' ∉ gap) :
    Erases (paintGap gap) (String.ofList gap) := by
  have bare : Erases (String.ofList gap) (String.ofList gap) := erases_self (by simpa using h)
  unfold paintGap
  split
  · exact bare
  · exact bare.effect .dimmed

theorem paintFrom_token {before rest : List Char} {segment : Segment} {tokens : List Token}
    {painted : String}
    (h : paintFrom (byteSize (before ++ segment.text)) rest tokens = .ok painted) :
    paintFrom (byteSize before) (segment.text ++ rest) (segment.token before :: tokens) =
      .ok (paintGap segment.gap ++
        segment.lexeme.kind.paint (String.ofList segment.lexeme.source) ++ painted) := by
  have gap : splitBetween (byteSize before) (segment.token before).span.start
      (segment.text ++ rest) = .ok (segment.gap, segment.lexeme.source ++ rest) := by
    rw [splitBetween_eq_ok_iff, ← byteSize_append, Segment.text, List.append_assoc]
    exact ⟨rfl, rfl⟩
  have source : splitBetween (segment.token before).span.start (segment.token before).span.stop
      (segment.lexeme.source ++ rest) = .ok (segment.lexeme.source, rest) := by
    rw [splitBetween_eq_ok_iff, Segment.token, ← byteSize_append, Segment.text, List.append_assoc]
    exact ⟨rfl, rfl⟩
  rw [paintFrom]
  simp only [bind_eq_ok_iff]
  exact ⟨_, gap, _, source, painted, h, rfl⟩

theorem paintFrom_listing (before : List Char) (pieces : List Segment) {tail : List Char}
    (h : '\x1b' ∉ spell pieces ++ tail) :
    ∃ painted, paintFrom (byteSize before) (spell pieces ++ tail) (listing before pieces) =
      .ok painted ∧ Erases painted (String.ofList (spell pieces ++ tail)) := by
  induction pieces generalizing before with
  | nil => exact ⟨paintGap tail, rfl, erases_paintGap h⟩
  | cons segment more ih =>
    rw [spell_cons, List.append_assoc] at h ⊢
    have parts := h
    simp only [Segment.text, List.mem_append, not_or] at parts
    obtain ⟨⟨gap, source⟩, behind⟩ := parts
    obtain ⟨painted, done, erases⟩ := ih (before ++ segment.text) (by simpa using behind)
    have first := erases_paintGap gap
    have lexeme : Erases (String.ofList segment.lexeme.source) _ :=
      erases_self (by simpa using source)
    refine ⟨_, paintFrom_token done, ?_⟩
    have whole := (first.append (lexeme.paint segment.lexeme.kind)).append erases
    rwa [← String.ofList_append, ← String.ofList_append] at whole

/-- Painting never fails, and adds nothing but control sequences to a text that has none. -/
theorem highlight_erased {source : String} (h : '\x1b' ∉ source.toList) :
    (∃ painted, highlightSource source = .ok painted ∧ erase painted = source) ∧
      ∀ color, ∃ shown, highlightLine color source = .ok shown ∧ erase shown = source := by
  have inColor : ∃ painted, highlightSource source = .ok painted ∧ erase painted = source := by
    obtain ⟨tail, whole, -, -⟩ := exists_series false source.toList
    have bare := h
    rw [whole] at bare
    obtain ⟨painted, done, erases⟩ := paintFrom_listing [] (segments false source.toList) bare
    rw [← whole] at done erases
    rw [String.ofList_toList] at erases
    rw [highlightSource, tokenize_eq_listing]
    exact ⟨painted, done, erases.erase_eq⟩
  refine ⟨inColor, ?_⟩
  intro color
  unfold highlightLine
  split
  · exact ⟨source, rfl, (erases_self h).erase_eq⟩
  · exact inColor

theorem highlight_erased_at_open_string :
    let source := "x // ä\n'b"
    let painted := "x\x1b[2m // ä\n\x1b[0m\x1b[32m'b\x1b[39m"
    '\x1b' ∉ source.toList ∧ highlightLine true source = .ok painted ∧ erase painted = source := by
  intro source painted
  have bare : '\x1b' ∉ source.toList := by
    decide
  have given : highlightLine true source = .ok painted := by
    decide +kernel
  obtain ⟨shown, done, erased⟩ := (highlight_erased bare).2 true
  rw [given] at done
  cases done
  exact ⟨bare, given, erased⟩

end ScriptTokens.Prompt
