import Mathlib.Algebra.Group.Nat.Even
import ScriptTokens.Proofs.Text.Newline
import ScriptTokens.Proofs.TokenStream.Resuming

namespace ScriptTokens
open Text

namespace Lexeme

def backslashes (text : List Char) : Nat := (text.reverse.takeWhile (· == '\\')).length

/-- A mark of the text, behind `inside`, that no backslash takes along. -/
def IsCloser (mark : Char) (text inside rest : List Char) : Prop :=
  text = inside ++ mark :: rest ∧ Even (backslashes inside)

def IsFirstCloser (mark : Char) (text inside rest : List Char) : Prop :=
  IsCloser mark text inside rest ∧
    ∀ earlier later, IsCloser mark text earlier later → inside.length ≤ earlier.length

theorem backslashes_append (front text : List Char) :
    backslashes (front ++ text) =
      if backslashes text = text.length then text.length + backslashes front
      else backslashes text := by
  rw [backslashes, List.reverse_append, List.takeWhile_append, List.length_reverse]
  change (ite (backslashes text = text.length) _ _ : List Char).length = _
  split
  · rw [List.length_append, List.length_reverse]
    rfl
  · rfl

theorem even_backslashes_append {front : List Char} (h : Even (backslashes front))
    (text : List Char) : Even (backslashes (front ++ text)) ↔ Even (backslashes text) := by
  rw [backslashes_append]
  split
  · rename_i all
    rw [all, Nat.even_add, iff_true_right h]
  · rfl

theorem even_backslashes_plain {c : Char} (h : c ≠ '\\') : Even (backslashes [c]) := by
  simp [backslashes, h]

theorem even_backslashes_escape (c : Char) : Even (backslashes ['\\', c]) := by
  by_cases h : c = '\\'
  · subst h
    decide
  · simp [backslashes, h]

theorem LiteralBody.even {mark : Char} {body : List Char} (h : LiteralBody mark body) :
    Even (backslashes body) := by
  induction h with
  | nil => decide
  | plain _ notEscape _ ih =>
    exact (even_backslashes_append (even_backslashes_plain notEscape) _).mpr ih
  | escaped _ ih => exact (even_backslashes_append (even_backslashes_escape _) _).mpr ih

theorem LiteralBody.openBody {mark : Char} {body : List Char} (h : LiteralBody mark body) :
    OpenBody mark body := by
  induction h with
  | nil => exact .nil
  | plain notMark notEscape _ ih => exact .plain notMark notEscape ih
  | escaped _ ih => exact .escaped ih

theorem not_even_of_openBody {mark : Char} (notEscape : mark ≠ '\\') {earlier later : List Char}
    (h : OpenBody mark (earlier ++ mark :: later)) : ¬ Even (backslashes earlier) := by
  -- an escape takes the mark along, so the run of backslashes before it is odd
  generalize whole : earlier ++ mark :: later = body at h
  induction h generalizing earlier with
  | nil => simp at whole
  | escape =>
    rcases earlier with _ | ⟨d, earlier⟩
    · exact absurd (List.cons.inj whole).1 notEscape
    · simp at whole
  | plain notMark plain _ ih =>
    rcases earlier with _ | ⟨d, earlier⟩
    · exact absurd (List.cons.inj whole).1.symm notMark
    obtain ⟨rfl, rest⟩ := List.cons.inj whole
    exact (even_backslashes_append (even_backslashes_plain plain) earlier).not.mpr (ih rest)
  | @escaped c _ _ ih =>
    rcases earlier with _ | ⟨d, _ | ⟨e, earlier⟩⟩
    · exact absurd (List.cons.inj whole).1 notEscape
    · obtain ⟨rfl, -⟩ := List.cons.inj whole
      decide
    · simp only [List.cons_append, List.cons.injEq] at whole
      obtain ⟨rfl, rfl, rest⟩ := whole
      exact (even_backslashes_append (even_backslashes_escape _) earlier).not.mpr (ih rest)

theorem no_closer_of_openBody {mark : Char} (notEscape : mark ≠ '\\') {text : List Char}
    (h : OpenBody mark text) (inside rest : List Char) : ¬ IsCloser mark text inside rest := by
  rintro ⟨rfl, even⟩
  exact not_even_of_openBody notEscape h even

theorem LiteralBody.isFirstCloser {mark : Char} (notEscape : mark ≠ '\\') {body : List Char}
    (h : LiteralBody mark body) (rest : List Char) :
    IsFirstCloser mark (body ++ mark :: rest) body rest := by
  refine ⟨⟨rfl, h.even⟩, ?_⟩
  rintro earlier later ⟨whole, even⟩
  by_contra shorter
  -- an earlier mark would stand inside the body
  obtain ⟨between, rfl, split⟩ | ⟨between, rfl, -⟩ := List.append_eq_append_iff.mp whole.symm
  · rcases between with _ | ⟨d, between⟩
    · simp at shorter
    · obtain ⟨rfl, -⟩ := List.cons.inj split
      exact not_even_of_openBody notEscape h.openBody even
  · simp at shorter

end Lexeme

structure Token.ReadAs (text : String) (token : Token) (before : List Char) (lexeme : Lexeme)
    (rest : List Char) : Prop where
  whole : text.toList = before ++ (lexeme.source ++ rest)
  kind : token.kind = lexeme.kind
  value : token.value = String.ofList lexeme.value
  span : token.span = ⟨byteSize before, byteSize (before ++ lexeme.source)⟩
  stands : ∃ operand, Lexeme.Stands operand lexeme rest
  last : rest = [] → (tokenize text).getLast? = some token

theorem exists_readAs {text : String} {token : Token} (member : token ∈ tokenize text) :
    ∃ before lexeme rest, token.ReadAs text before lexeme rest := by
  obtain ⟨tail, whole, final, series⟩ := exists_series false text.toList
  obtain ⟨earlier, later, split⟩ := List.append_of_mem member
  have listed := split
  rw [tokenize_eq_listing] at listed
  obtain ⟨front, segment, more, pieces, rfl, rfl⟩ := listing_eq_append listed
  rw [pieces] at whole series
  obtain ⟨-, behind⟩ := Series.append_iff.mp series
  cases behind with
  | cons _ stands behind =>
    refine ⟨spell front ++ segment.gap, segment.lexeme, spell more ++ tail, ?_, rfl, rfl, ?_,
      ⟨_, stands⟩, ?_⟩
    · simp [whole, Segment.text]
    · simp [Segment.token, Segment.text]
    · intro atEnd
      cases more with
      | nil =>
        rw [split]
        exact List.getLast?_concat
      | cons next more =>
        cases behind with
        | cons _ stands _ =>
          exact absurd (List.append_eq_nil_iff.mp atEnd).1 (spell_ne_nil _ _ stands.source_ne_nil)

/-- A string ends behind its first closer and shows what stands between the quotes. Without one it
is the last token of the text, and shows all that stands behind its quote. -/
def Token.StringEnds (text : String) (token : Token) : Prop :=
  ∃ before quote behind, (quote = '\'' ∨ quote = '"') ∧ text.toList = before ++ quote :: behind ∧
    token.span.start = byteSize before ∧
    ((∃ inside rest, Lexeme.IsFirstCloser quote behind inside rest ∧
        token.value.toList = inside ∧
        token.span.stop = byteSize (before ++ quote :: (inside ++ [quote])) ∧
        token.span.size? = some (token.value.utf8ByteSize + 2)) ∨
      (∀ inside rest, ¬ Lexeme.IsCloser quote behind inside rest) ∧
        token.value.toList = behind ∧ token.span.stop = byteSize text.toList ∧
        (tokenize text).getLast? = some token ∧
        token.span.size? = some (token.value.utf8ByteSize + 1))

def Token.RegexEnds (text : String) (token : Token) : Prop :=
  ∃ before behind, text.toList = before ++ '/' :: behind ∧ token.span.start = byteSize before ∧
    ((∃ inside flags rest, Lexeme.IsFirstCloser '/' behind inside (flags ++ rest) ∧
        (∀ c ∈ flags, c ∈ ['g', 'i', 'm']) ∧ (∀ c ∈ rest.head?, c ∉ ['g', 'i', 'm']) ∧
        token.span.stop = byteSize (before ++ '/' :: (inside ++ '/' :: flags))) ∨
      (∀ inside rest, ¬ Lexeme.IsCloser '/' behind inside rest) ∧
        token.span.stop = byteSize text.toList ∧ (tokenize text).getLast? = some token)

theorem Lexeme.isFlag_iff {c : Char} : Lexeme.isFlag c = true ↔ c ∈ ['g', 'i', 'm'] := by
  simp [Lexeme.isFlag, or_assoc]

namespace Token.ReadAs
variable {text : String} {token : Token} {before rest : List Char} {lexeme : Lexeme}

theorem size?_span (h : token.ReadAs text before lexeme rest) :
    token.span.size? = some (byteSize lexeme.source) := by
  rw [h.span]
  simp [Span.size?]

theorem stringEnds (h : token.ReadAs text before lexeme rest) (string : token.kind = .string) :
    token.StringEnds text := by
  obtain ⟨operand, growth, spelled, stops⟩ := h.stands
  have size := h.size?_span
  have value := h.value
  have span := h.span
  have whole := h.whole
  rw [h.kind] at string
  cases spelled with
  | @string quote body isQuote inside =>
    refine ⟨before, quote, body ++ quote :: rest, isQuote, by simp [whole], by rw [span], .inl ?_⟩
    refine ⟨body, rest, inside.isFirstCloser (Lexeme.quote_ne_escape isQuote) rest, ?_, ?_, ?_⟩
    · simp [value]
    · simp [span]
    · rw [size, value, utf8ByteSize_eq]
      simp [Lexeme.utf8Size_quote isQuote]
      omega
  | @openString quote body isQuote inside =>
    obtain rfl := Lexeme.stops_anything_iff.mp stops
    refine ⟨before, quote, body, isQuote, by simp [whole], by rw [span], .inr ?_⟩
    refine ⟨Lexeme.no_closer_of_openBody (Lexeme.quote_ne_escape isQuote) inside, ?_, ?_,
      h.last rfl, ?_⟩
    · simp [value]
    · simp [span, whole]
    · rw [size, value, utf8ByteSize_eq]
      simp [Lexeme.utf8Size_quote isQuote]
      omega
  | _ => cases string

theorem regexEnds (h : token.ReadAs text before lexeme rest) (regex : token.kind = .regex) :
    token.RegexEnds text := by
  obtain ⟨operand, growth, spelled, stops⟩ := h.stands
  have span := h.span
  have whole := h.whole
  rw [h.kind] at regex
  cases spelled with
  | @regex body flags after inside first parts =>
    refine ⟨before, body ++ '/' :: (flags ++ rest), by simp [whole, Lexeme.verbatim], by rw [span],
      .inl ⟨body, flags, rest, inside.isFirstCloser (by decide) _, ?_, ?_, ?_⟩⟩
    · exact fun c member => Lexeme.isFlag_iff.mp (parts c member)
    · intro c member flag
      have stopped := stops c member
      rw [Lexeme.Growth.takes, Lexeme.isFlag_iff.mpr flag] at stopped
      cases stopped
    · simp [span, Lexeme.verbatim]
  | @openRegex body after inside first =>
    obtain rfl := Lexeme.stops_anything_iff.mp stops
    refine ⟨before, body, by simp [whole, Lexeme.verbatim], by rw [span], .inr
      ⟨Lexeme.no_closer_of_openBody (by decide) inside, ?_, h.last rfl⟩⟩
    simp [span, whole]
  | _ => cases regex

end Token.ReadAs

/-- Strings and regular expressions end at the first mark that an even number of backslashes
precedes. -/
theorem literals_end_at_first_closer {text : String} {token : Token}
    (member : token ∈ tokenize text) :
    (token.kind = .string → token.StringEnds text) ∧
      (token.kind = .regex → token.RegexEnds text) := by
  obtain ⟨before, lexeme, rest, read⟩ := exists_readAs member
  exact ⟨read.stringEnds, read.regexEnds⟩

theorem literals_end_at_backslashes :
    let text := "'\\\\' /\\//gix \"\\\"'"
    let closed : Token := ⟨.string, "\\\\", none, ⟨0, 4⟩⟩
    let regex : Token := ⟨.regex, "/\\//gi", none, ⟨5, 11⟩⟩
    let unclosed : Token := ⟨.string, "\\\"'", none, ⟨13, 17⟩⟩
    (closed ∈ tokenize text ∧ closed.StringEnds text) ∧
      (regex ∈ tokenize text ∧ regex.RegexEnds text) ∧
      unclosed ∈ tokenize text ∧ unclosed.StringEnds text := by
  intro text closed regex unclosed
  have tokens : tokenize text = [closed, regex, ⟨.ident, "x", none, ⟨11, 12⟩⟩, unclosed] := by
    decide +kernel
  have hclosed : closed ∈ tokenize text := by simp [tokens]
  have hregex : regex ∈ tokenize text := by simp [tokens]
  have hunclosed : unclosed ∈ tokenize text := by simp [tokens]
  exact ⟨⟨hclosed, (literals_end_at_first_closer hclosed).1 rfl⟩,
    ⟨hregex, (literals_end_at_first_closer hregex).2 rfl⟩,
    hunclosed, (literals_end_at_first_closer hunclosed).1 rfl⟩

end ScriptTokens
