import ScriptTokens.DocSummary
import ScriptTokens.Proofs.Text.Blank
import ScriptTokens.Proofs.TokenStream.Slashes

namespace ScriptTokens
open Text Lexeme

/-! ## Lines of a comment -/

/-- What a line leaves when it is trimmed, loses the stars in front and is trimmed again. -/
def LineText (line text : List Char) : Prop :=
  ∃ inner bare, Trims line inner ∧ Sheds (· == '*') inner bare ∧ Trims bare text

/-- The text of the first line that has one, and no text if none has. -/
inductive IsSummary : List Char → List Char → Prop
  | last {line text : List Char} :
      '\n' ∉ line → LineText line text → IsSummary line text
  | here {line rest text : List Char} :
      '\n' ∉ line → LineText line text → text ≠ [] → IsSummary (line ++ '\n' :: rest) text
  | later {line rest text : List Char} :
      '\n' ∉ line → LineText line [] → IsSummary rest text → IsSummary (line ++ '\n' :: rest) text

def firstText (lines : List (List Char)) : List Char :=
  ((lines.map commentLine).find? (!·.isEmpty)).getD []

theorem commentLine_eq_iff {line text : List Char} :
    commentLine line = text ↔ LineText line text := by
  constructor
  · rintro rfl
    exact ⟨trim line, _, trims_trim line, sheds_dropWhile _ _, trims_trim _⟩
  · rintro ⟨inner, bare, trims, sheds, text⟩
    rw [commentLine, trim_eq_iff.mpr trims, dropWhile_eq_iff.mpr sheds, trim_eq_iff.mpr text]

theorem commentLine_carriageReturn (line : List Char) :
    commentLine (line ++ ['\r']) = commentLine line := by
  rw [commentLine, trim_append_blank (by decide), commentLine]

theorem firstText_cons_of_ne {line text : List Char} (h : commentLine line = text)
    (nonempty : text ≠ []) (more : List (List Char)) : firstText (line :: more) = text := by
  simp [firstText, h, nonempty]

theorem firstText_cons_of_eq {line : List Char} (h : commentLine line = [])
    (more : List (List Char)) : firstText (line :: more) = firstText more := by
  simp [firstText, h]

theorem exists_lines_commentLine {line : List Char} (h : '\n' ∉ line) (rest : List Char) :
    ∃ first, lines (line ++ '\n' :: rest) = first :: lines rest ∧
      commentLine first = commentLine line := by
  obtain ⟨first, cut, rfl | rfl⟩ := exists_lines_append h rest
  · exact ⟨_, cut, rfl⟩
  · exact ⟨first, cut, (commentLine_carriageReturn first).symm⟩

theorem IsSummary.firstText_lines {body summary : List Char} (h : IsSummary body summary) :
    firstText (lines body) = summary := by
  induction h with
  | @last line text noNewline lineText =>
    have text_eq := commentLine_eq_iff.mpr lineText
    cases line with
    | nil => exact text_eq
    | cons c cs =>
      rw [lines_of_not_mem noNewline]
      by_cases empty : text = []
      · rw [firstText_cons_of_eq (text_eq.trans empty), empty]
        rfl
      · exact firstText_cons_of_ne text_eq empty []
  | @here line rest text noNewline lineText nonempty =>
    obtain ⟨first, cut, same⟩ := exists_lines_commentLine noNewline rest
    rw [cut]
    exact firstText_cons_of_ne (same.trans (commentLine_eq_iff.mpr lineText)) nonempty _
  | @later line rest text noNewline lineText later ih =>
    obtain ⟨first, cut, same⟩ := exists_lines_commentLine noNewline rest
    rw [cut, firstText_cons_of_eq (same.trans (commentLine_eq_iff.mpr lineText)), ih]

theorem exists_isSummary (body : List Char) : ∃ summary, IsSummary body summary := by
  induction size : body.length using Nat.strong_induction_on generalizing body with
  | _ bound ih =>
    by_cases newline : '\n' ∈ body
    · obtain ⟨line, rest, rfl, noNewline⟩ := List.eq_append_cons_of_mem newline
      by_cases empty : commentLine line = []
      · have shorter : rest.length < bound := by
          rw [← size, List.length_append, List.length_cons]
          omega
        obtain ⟨summary, later⟩ := ih _ shorter rest rfl
        exact ⟨summary, .later noNewline (commentLine_eq_iff.mp empty) later⟩
      · exact ⟨_, .here noNewline (commentLine_eq_iff.mp rfl) empty⟩
    · exact ⟨_, .last newline (commentLine_eq_iff.mp rfl)⟩

theorem isSummary_iff {body summary : List Char} :
    IsSummary body summary ↔ firstText (lines body) = summary := by
  constructor
  · exact IsSummary.firstText_lines
  · rintro rfl
    obtain ⟨summary, isSummary⟩ := exists_isSummary body
    rwa [isSummary.firstText_lines]

/-! ## The body of a comment -/

def AtCloser (behind : List Char) : Prop := behind = [] ∨ ['*', '/'] <+: behind

/-- The body of the comment that opens at an offset of a text. -/
inductive DocBody (text : List Char) (start : Nat) : List Char → Prop
  | apart {before body behind : List Char} :
      text = before ++ (['/', '*', '*'] ++ (body ++ behind)) → byteSize before = start →
      ¬ ['*', '/'] <:+: '*' :: body → AtCloser behind → DocBody text start body
  | shared {before behind : List Char} :
      text = before ++ (['/', '*', '*'] ++ ('/' :: behind)) → byteSize before = start →
      DocBody text start []

theorem AtCloser.head?_ne {behind : List Char} (h : AtCloser behind) : behind.head? ≠ some '/' := by
  rcases h with rfl | ⟨rest, rfl⟩
  · decide
  · exact fun slash => absurd (Option.some.inj slash) (by decide)

theorem head?_apart {body behind : List Char} (h : ¬ ['*', '/'] <:+: '*' :: body)
    (ends : AtCloser behind) : (body ++ behind).head? ≠ some '/' := by
  rw [closer_infix_cons, not_or] at h
  cases body with
  | nil => exact ends.head?_ne
  | cons c cs => exact fun slash => h.1 ⟨rfl, slash⟩

theorem eq_nil_of_apart {body more behind : List Char}
    (h : ¬ ['*', '/'] <:+: '*' :: (body ++ more)) (ends : AtCloser behind)
    (earlier : AtCloser (more ++ behind)) : more = [] := by
  rcases earlier with empty | ⟨rest, closer⟩
  · exact (List.append_eq_nil_iff.mp empty).1
  rcases more with _ | ⟨c, _ | ⟨d, more⟩⟩
  · rfl
  · obtain ⟨-, slash⟩ := List.cons.inj closer
    exact absurd (congrArg List.head? slash).symm ends.head?_ne
  · obtain ⟨rfl, slash⟩ := List.cons.inj closer
    obtain ⟨rfl, -⟩ := List.cons.inj slash
    exact absurd ⟨'*' :: body, more, by simp⟩ h

theorem body_unique {body other behind rest : List Char}
    (h : ¬ ['*', '/'] <:+: '*' :: body) (ends : AtCloser behind)
    (h' : ¬ ['*', '/'] <:+: '*' :: other) (ends' : AtCloser rest)
    (same : body ++ behind = other ++ rest) : body = other := by
  obtain ⟨more, rfl, rfl⟩ | ⟨more, rfl, rfl⟩ := List.append_eq_append_iff.mp same
  · rw [eq_nil_of_apart h' ends' ends, List.append_nil]
  · rw [eq_nil_of_apart h ends ends', List.append_nil]

theorem behind_opener_unique {text before other rest more : List Char}
    (whole : text = before ++ (['/', '*', '*'] ++ rest))
    (whole' : text = other ++ (['/', '*', '*'] ++ more))
    (size : byteSize before = byteSize other) : rest = more :=
  List.append_cancel_left (append_inj_of_byteSize (whole.symm.trans whole') size).2

theorem DocBody.unique {text body other : List Char} {start : Nat} (h : DocBody text start body)
    (h' : DocBody text start other) : body = other := by
  cases h with
  | apart whole size noCloser ends =>
    cases h' with
    | apart whole' size' noCloser' ends' =>
      have same := behind_opener_unique whole whole' (size.trans size'.symm)
      exact body_unique noCloser ends noCloser' ends' same
    | shared whole' size' =>
      have same := behind_opener_unique whole whole' (size.trans size'.symm)
      exact absurd (congrArg List.head? same) (head?_apart noCloser ends)
  | shared whole size =>
    cases h' with
    | apart whole' size' noCloser' ends' =>
      have same := behind_opener_unique whole' whole (size'.trans size.symm)
      exact absurd (congrArg List.head? same) (head?_apart noCloser' ends')
    | shared => rfl

section
variable {body closer : List Char} (noCloser : ¬ ['*', '/'] <:+: '*' :: body)
  (ends : closer = [] ∨ closer = ['*', '/'])

include noCloser ends

theorem head?_enclosed : (body ++ closer).head? ≠ some '/' := by
  apply head?_apart noCloser
  exact ends.imp_right fun closes => ⟨[], by rw [List.append_nil, closes]⟩

theorem commentBody_enclosed : commentBody (['/', '*', '*'] ++ (body ++ closer)) = body := by
  have noOpener : ¬ ['/', '*', '*'] <+: body ++ closer := by
    rintro ⟨rest, opener⟩
    apply head?_enclosed noCloser ends
    rw [← opener]
    rfl
  have noEnd : ¬ ['*', '/'] <:+ body :=
    fun closes => noCloser (closes.trans (List.suffix_cons '*' body)).isInfix
  rw [commentBody, stripStarts_append (by simp) noOpener]
  rcases ends with rfl | rfl
  · rw [List.append_nil, stripEnds_of_not_suffix noEnd]
  · exact stripEnds_append (by simp) noEnd

theorem isSummary_enclosed :
    IsSummary body (commentSummary (['/', '*', '*'] ++ (body ++ closer))) := by
  rw [isSummary_iff, commentSummary, commentBody_enclosed noCloser ends]
  rfl

theorem enclosed_ne_shared : ['/', '*', '*'] ++ (body ++ closer) ≠ ['/', '*', '*', '/'] := by
  intro shared
  apply head?_enclosed noCloser ends
  rw [List.append_cancel_left (shared.trans (show _ = ['/', '*', '*'] ++ ['/'] from rfl))]
  rfl

end

theorem Lexeme.Stands.documentation_cases {afterOperand : Bool} {lexeme : Lexeme}
    {rest : List Char} (h : Stands afterOperand lexeme rest) (kind : lexeme.kind = .docComment) :
    lexeme = verbatim .docComment ['/', '*', '*', '/'] ∨
      ∃ body closer, lexeme = verbatim .docComment (['/', '*', '*'] ++ (body ++ closer)) ∧
        ¬ ['*', '/'] <:+: '*' :: body ∧ (closer = [] ∧ rest = [] ∨ closer = ['*', '/']) := by
  obtain ⟨growth, spelled, stops⟩ := h
  cases spelled with
  | @documentation inside isBody =>
    obtain ⟨star, first⟩ := isBody
    cases inside with
    | nil => exact .inl rfl
    | cons c body =>
      obtain rfl : c = '*' := Option.some.inj star
      have noCloser : ¬ ['*', '/'] <:+: '*' :: body :=
        fun closes => first (closes.trans (List.prefix_append _ _).isInfix)
      exact .inr ⟨body, ['*', '/'], rfl, noCloser, .inr rfl⟩
  | openDocumentation star noCloser =>
    obtain ⟨body, rfl⟩ := List.head?_eq_some_iff.mp star
    have atEnd := stops_anything_iff.mp stops
    exact .inr ⟨body, [], by rw [List.append_nil]; rfl, noCloser, .inl ⟨rfl, atEnd⟩⟩
  | _ => cases kind

/-! ## Listed summaries -/

def Token.SummarizedBy (source : String) (token : Token) (entry : Nat × String) : Prop :=
  token.line = some entry.1 ∧
    ∃ body, DocBody source.toList token.span.start body ∧ IsSummary body entry.2.toList

def Token.ListedAs (source : String) (token : Token) (entry : Nat × String) : Prop :=
  (token.value ≠ "/**/" ∧ token.SummarizedBy source entry) ∨
    (token.value = "/**/" ∧ token.line = some entry.1 ∧ entry.2 = "/")

theorem line_token {segment : Segment} (h : segment.lexeme.kind = .docComment)
    (before : List Char) :
    (segment.token before).line = some ((segment.token before).line.getD 0) := by
  simp [Segment.token, h]

theorem listedAs_token {source : String} {front rest : List Char} {segment : Segment}
    {afterOperand : Bool} (whole : source.toList = front ++ (segment.text ++ rest))
    (stands : Stands afterOperand segment.lexeme rest) (kind : segment.lexeme.kind = .docComment) :
    (segment.token front).ListedAs source
      ((segment.token front).line.getD 0,
        String.ofList (commentSummary (segment.token front).value.toList)) := by
  have line := line_token kind front
  have value : (segment.token front).value = String.ofList segment.lexeme.value := rfl
  rw [value, String.toList_ofList]
  obtain shared | ⟨body, closer, apart, noCloser, ends⟩ := stands.documentation_cases kind
  · rw [shared] at value ⊢
    refine .inr ⟨value.trans (by decide), line, ?_⟩
    show String.ofList (commentSummary ['/', '*', '*', '/']) = "/"
    decide
  · have closes : closer = [] ∨ closer = ['*', '/'] := ends.imp_left And.left
    rw [apart] at value ⊢
    refine .inl ⟨?_, line, body, ?_, ?_⟩
    · rw [value]
      intro shared
      apply enclosed_ne_shared noCloser closes
      simpa [verbatim] using congrArg String.toList shared
    · refine @DocBody.apart _ _ (front ++ segment.gap) body (closer ++ rest) ?_ rfl noCloser ?_
      · rw [whole, Segment.text, apart]
        simp [verbatim]
      · rcases ends with ⟨rfl, rfl⟩ | rfl
        · exact .inl rfl
        · exact .inr (List.prefix_append _ _)
    · rw [String.toList_ofList]
      exact isSummary_enclosed noCloser closes

theorem Token.listedAs_of_mem {source : String} {token : Token} (member : token ∈ tokenize source)
    (kind : token.kind = .docComment) :
    token.ListedAs source
      (token.line.getD 0, String.ofList (commentSummary token.value.toList)) := by
  obtain ⟨earlier, later, split⟩ := List.append_of_mem member
  obtain ⟨front, segment, rest, whole, rfl, stands⟩ := exists_stands split
  exact listedAs_token whole stands kind

theorem forall₂_docSummaries {source : String} {relation : Token → Nat × String → Prop}
    (h : ∀ token ∈ tokenize source, token.kind = .docComment → relation token
      (token.line.getD 0, String.ofList (commentSummary token.value.toList))) :
    List.Forall₂ relation ((tokenize source).filter (·.kind == .docComment))
      (docSummaries source) := by
  rw [docSummaries, List.forall₂_map_right_iff, List.forall₂_same]
  intro token member
  obtain ⟨member, kind⟩ := List.mem_filter.mp member
  exact h token member (beq_iff_eq.mp kind)

/-- Every documentation comment is listed in turn, the shortest one with a slash and any other
with the summary of its body. -/
theorem docSummaries_listedAs (source : String) :
    List.Forall₂ (Token.ListedAs source)
      ((tokenize source).filter (·.kind == .docComment)) (docSummaries source) :=
  forall₂_docSummaries fun _ member kind => Token.listedAs_of_mem member kind

/-- The shortest comment has no text in its body, and is listed with one. -/
theorem docSummaries_of_shared_star :
    let source := "/**/"
    let comment : Token := ⟨.docComment, "/**/", some 1, ⟨0, 4⟩⟩
    tokenize source = [comment] ∧ docSummaries source = [(1, "/")] ∧
      comment.SummarizedBy source (1, "") ∧ ¬ comment.SummarizedBy source (1, "/") ∧
      ¬ List.Forall₂ (Token.SummarizedBy source)
        ((tokenize source).filter (·.kind == .docComment)) (docSummaries source) := by
  intro source comment
  have tokens : tokenize source = [comment] := by decide +kernel
  have listed : docSummaries source = [(1, "/")] := by decide +kernel
  have body : DocBody source.toList comment.span.start [] := by
    apply @DocBody.shared _ _ [] []
    · decide
    · rfl
  have summarized : comment.SummarizedBy source (1, "") :=
    ⟨rfl, [], body, isSummary_iff.mpr (by decide)⟩
  have other : ¬ comment.SummarizedBy source (1, "/") := by
    rintro ⟨-, inside, isBody, isSummary⟩
    obtain rfl := isBody.unique body
    exact absurd (isSummary_iff.mp isSummary) (by decide)
  refine ⟨tokens, listed, summarized, other, ?_⟩
  rw [tokens, listed]
  intro all
  cases all with
  | cons first => exact other first

end ScriptTokens
