import ScriptTokens.Proofs.Cursor.Walk
import ScriptTokens.Proofs.Lexeme.Series
import ScriptTokens.Proofs.Lexing.Scanning

/-!
# Lexing is reading

Scanning with patterns finds the tokens that are read by gaps and lexemes (`lex_eq_readToken`). A
round takes white space and then either an ordinary comment, behind which the next token is still
the same (`readToken_skip`), or the lexeme that stands there, which the first pattern that matches
takes as a whole. The induction is on the rounds, and each leaves less of the text.
-/

namespace ScriptTokens
open Lexeme

theorem readToken_skip {last : Option Token} {cursor : Cursor} {front behind : List Char}
    (rest : cursor.rest = front ++ behind)
    (cut : splitGap .blank cursor.rest =
      (front ++ (splitGap .blank behind).1, (splitGap .blank behind).2)) :
    readToken last (cursor.skip front.length) = readToken last cursor := by
  have start : (cursor.skip front.length).skip
      (splitGap .blank (cursor.skip front.length).rest).1.length =
      cursor.skip (splitGap .blank cursor.rest).1.length := by
    rw [Cursor.rest_skip_append rest, cut, Cursor.skip_skip, List.length_append]
  unfold readToken
  rw [start]

theorem readToken_of_starts {last : Option Token} {cursor : Cursor} {c : Char} {cs : List Char}
    (rest : cursor.rest = c :: cs) (starts : StartsLexeme (c :: cs)) {cut : Lexeme × List Char}
    (read : Lexeme.read (last.any Token.isOperand) c cs = cut) (kind : Kind)
    (ofKind : cut.1.kind = kind) (bare : kind ≠ .docComment) :
    readToken last cursor = (some (Lexing.tokenTo (cursor.skip cut.1.source.length) kind
      cut.1.value cursor.offset), cursor.skip cut.1.source.length) := by
  have noGap : splitGap .blank (c :: cs) = ([], c :: cs) := starts
  simp only [readToken, rest, noGap, List.length_nil, Cursor.skip_zero, read, ofKind, bare,
    if_false]
  rfl

namespace Lexing
open Pattern Text

variable {cursor : Cursor} {c : Char} {cs : List Char}

/-! ## Slashes -/

theorem readToken_of_documentation {last : Option Token} {body : List Char}
    (rest : cursor.rest = '/' :: '*' :: '*' :: body) :
    let comment := '/' :: '*' :: (splitComment ('*' :: body)).1
    let behind := cursor.countNewlines.2.skip comment.length
    readToken last cursor = (some ⟨.docComment, String.ofList comment,
      some (cursor.countNewlines.1 + 1), ⟨cursor.offset, behind.offset⟩⟩, behind) := by
  have noGap : splitGap .blank ('/' :: '*' :: '*' :: body) = ([], '/' :: '*' :: '*' :: body) :=
    startsLexeme_documentation body
  have read : (Lexeme.read (last.any Token.isOperand) '/' ('*' :: '*' :: body)).1 =
      verbatim .docComment ('/' :: '*' :: (splitComment ('*' :: body)).1) := rfl
  simp only [readToken, rest, noGap, List.length_nil, Cursor.skip_zero, read]
  rfl

theorem scanDocComment_eq {last : Option Token} {body : List Char}
    (rest : cursor.rest = '/' :: '*' :: '*' :: body) :
    scanDocComment cursor = .ok (readToken last cursor) := by
  have opened : cursor.countNewlines.2.scan blockCommentOpen =
      (some ['/', '*'], cursor.countNewlines.2.skip 2) :=
    scan_opening_literal "/*" rest
  have inside : (cursor.countNewlines.2.skip 2).rest = '*' :: body :=
    Cursor.rest_skip_append (show cursor.rest = ['/', '*'] ++ '*' :: body from rest)
  have closed := scanUntil_blockCommentClose (cursor.countNewlines.2.skip 2)
  rw [inside, Cursor.skip_skip] at closed
  rw [readToken_of_documentation rest]
  have whole := comment_append_rest ('*' :: body)
  generalize (splitComment ('*' :: body)).1 = comment at closed whole
  have length : 2 + comment.length = ('/' :: '*' :: comment).length := by
    simp only [List.length_cons]
    omega
  have source : cursor.rest.take ('/' :: '*' :: comment).length = '/' :: '*' :: comment := by
    rw [rest, ← whole, ← List.cons_append, ← List.cons_append, List.take_left]
  have sliced : Text.slice cursor.text cursor.offset
      (cursor.countNewlines.2.skip ('/' :: '*' :: comment).length).offset =
      .ok (cursor.rest.take ('/' :: '*' :: comment).length) :=
    Walk.slice_skip (show cursor.countNewlines.2.text = cursor.text from rfl) _
  have text : (cursor.countNewlines.2.skip ('/' :: '*' :: comment).length).text = cursor.text :=
    Place.text_skip _ _
  rw [length] at closed
  simp only [scanDocComment, opened, closed, Cursor.slice, text, sliced, source]
  rfl

theorem scanSlash_of_stops {last : Option Token} (rest : cursor.rest = '/' :: cs)
    (stops : Stops isCommentMark cs) : scanSlash last cursor = .ok (readToken last cursor) := by
  have noMark {mark : Char} (more : List Char) (h : isCommentMark mark = true) :
      ¬ '/' :: mark :: more <+: cursor.rest := by
    rw [rest, List.cons_prefix_cons]
    rintro ⟨-, behind, rfl⟩
    rw [stops mark rfl] at h
    cases h
  have noDoc : cursor.check docCommentOpen = false := by
    rw [docCommentOpen, check_opening_literal]
    exact decide_eq_false (noMark ['*'] rfl)
  have noBlock : cursor.scan blockCommentOpen = (none, cursor) :=
    scan_opening_literal_of_not (noMark [] rfl)
  have noLine : cursor.scan lineCommentOpen = (none, cursor) :=
    scan_opening_literal_of_not (noMark [] rfl)
  have starts := startsLexeme_slash stops
  have read (afterOperand : Bool) : Lexeme.read afterOperand '/' cs =
      if afterOperand then (verbatim .operator ['/'], cs) else readRegex cs := by
    show readSlash afterOperand cs = _
    rw [readSlash.eq_def]
    split
    · exact absurd (stops '*' rfl) (by decide)
    · rfl
  rw [scanSlash, noDoc, noBlock, noLine]
  cases operand : last.any Token.isOperand with
  | true =>
    have one : cursor.scan slash = (some ['/'], cursor.skip 1) := by
      refine Cursor.scan_of_first (show cursor.rest = ['/'] ++ cs from rest) ?_
      rw [rest]
      exact first_opening (first_one rfl rfl)
    have cut : Lexeme.read (last.any Token.isOperand) '/' cs = (verbatim .operator ['/'], cs) := by
      rw [operand, read, if_pos rfl]
    rw [readToken_of_starts rest starts cut .operator rfl (by decide)]
    simp only [one]
    rfl
  | false =>
    have whole := readRegex_append cs
    have shown : (readRegex cs).1.kind = .regex ∧
        (readRegex cs).1.value = (readRegex cs).1.source := by
      rw [readRegex]
      split <;> exact ⟨rfl, rfl⟩
    have found : scanToken cursor (fun _ => .regex) regexLiteral =
        some (tokenTo (cursor.skip (readRegex cs).1.source.length) .regex
          (readRegex cs).1.source cursor.offset, cursor.skip (readRegex cs).1.source.length) := by
      refine scanToken_of_first _ (readRegex cs).2 (by rw [rest, whole]) ?_ _
      rw [rest]
      exact first_regexLiteral cs
    have cut : Lexeme.read (last.any Token.isOperand) '/' cs = readRegex cs := by
      rw [operand, read]
      rfl
    rw [readToken_of_starts rest starts cut .regex shown.1 (by decide), shown.2]
    simp only [found]
    rfl

/-! ## One pattern after the other -/

def Finds (last : Option Token) (cursor : Cursor) (found : Option (Token × Cursor)) : Prop :=
  ∃ token behind, found = some (token, behind) ∧ readToken last cursor = (some token, behind)

theorem read_of_isPunctuation (afterOperand : Bool) (h : isPunctuation c = true) :
    Lexeme.read afterOperand c cs = (verbatim .operator [c], cs) := by
  simp only [isPunctuation, List.contains_iff_mem, List.mem_cons, List.not_mem_nil, or_false] at h
  rcases h with rfl | rfl | rfl | rfl | rfl | rfl | rfl | rfl | rfl <;> rfl

theorem finds_string {last : Option Token} {quote : Char} (rest : cursor.rest = quote :: cs)
    (starts : StartsLexeme (quote :: cs)) (h : quote = '\'' ∨ quote = '"') :
    Finds last cursor ((scanString cursor '\'').or (scanString cursor '"')) := by
  have scanned : (scanString cursor '\'').or (scanString cursor '"') =
      scanString cursor quote := by
    rcases h with rfl | rfl
    · rw [scanString_of_quote rest (by decide), Option.some_or]
    · rw [scanString_of_ne rest (by decide), Option.none_or]
  have notStart : ¬ isWordStart quote = true := by
    rcases h with rfl | rfl <;> decide
  have cut : Lexeme.read (last.any Token.isOperand) quote cs = readString quote cs := by
    rw [Lexeme.read, if_neg notStart, if_pos h]
  have string : (readString quote cs).1.kind = .string := by
    rw [readString]
    split <;> rfl
  rw [scanned, scanString_of_quote rest (quote_ne_escape h)]
  exact ⟨_, _, rfl, readToken_of_starts rest starts cut .string string (by decide)⟩

theorem scanPlain_eq_none (rest : cursor.rest = c :: cs) (punct : isPunctuation c = false)
    (wordStart : isWordStart c = false) (notQuote : ¬ (c = '\'' ∨ c = '"')) :
    scanPlain cursor = none := by
  have noPunct : scanToken cursor (fun _ => .operator) punctuation = none :=
    scanToken_of_not_one isPunctuation rest punct _
  have noWord : scanToken cursor wordKind word = none :=
    scanToken_of_refuses_one isWordStart rest wordStart _ _
  obtain ⟨notSingle, notDouble⟩ := not_or.mp notQuote
  rw [scanPlain, noPunct, noWord, scanString_of_ne rest notSingle, scanString_of_ne rest notDouble]
  rfl

theorem scanPlain_cases (last : Option Token) (rest : cursor.rest = c :: cs)
    (starts : StartsLexeme (c :: cs)) :
    Finds last cursor (scanPlain cursor) ∨
      (scanPlain cursor = none ∧ ¬ isWordStart c = true ∧ ¬ (c = '\'' ∨ c = '"')) := by
  cases punct : isPunctuation c with
  | true =>
    rw [scanPlain, punctuation, scanToken_of_one isPunctuation rest punct]
    exact .inl ⟨_, _, rfl, readToken_of_starts rest starts (read_of_isPunctuation _ punct)
      .operator rfl (by decide)⟩
  | false =>
    have noPunct : scanToken cursor (fun _ => .operator) punctuation = none :=
      scanToken_of_not_one isPunctuation rest punct _
    cases wordStart : isWordStart c with
    | true =>
      have cut (afterOperand : Bool) : Lexeme.read afterOperand c cs =
          (ofWord (c :: cs.takeWhile isWordPart), cs.dropWhile isWordPart) := by
        rw [Lexeme.read, if_pos wordStart]
      have bare : wordKind (c :: cs.takeWhile isWordPart) ≠ .docComment := by
        rw [wordKind]
        split <;> decide
      rw [scanPlain, noPunct, word, scanToken_of_many isWordStart isWordPart rest wordStart]
      exact .inl ⟨_, _, rfl, readToken_of_starts rest starts (cut _) _ rfl bare⟩
    | false =>
      by_cases quote : c = '\'' ∨ c = '"'
      · have noWord : scanToken cursor wordKind word = none :=
          scanToken_of_refuses_one isWordStart rest wordStart _ _
        rw [scanPlain, noPunct, noWord, Option.none_or, Option.none_or]
        exact .inl (finds_string rest starts quote)
      · exact .inr ⟨scanPlain_eq_none rest punct wordStart quote, Bool.false_ne_true, quote⟩

theorem finds_other {last : Option Token} (rest : cursor.rest = c :: cs)
    (starts : StartsLexeme (c :: cs)) (notStart : ¬ isWordStart c = true)
    (notQuote : ¬ (c = '\'' ∨ c = '"')) (notSlash : c ≠ '/') :
    Finds last cursor (scanOther cursor) := by
  have read (afterOperand : Bool) : Lexeme.read afterOperand c cs =
      if c.isDigit then readNumber c cs
      else if c = '$' then
        (verbatim .ident (c :: cs.takeWhile isWordPart), cs.dropWhile isWordPart)
      else (verbatim .operator [c], cs) := by
    rw [Lexeme.read, if_neg notStart, if_neg notQuote, if_neg notSlash]
  rw [scanOther]
  cases digit : c.isDigit with
  | true =>
    have whole := readNumber_append c cs
    have found : scanToken cursor (fun _ => .number) number =
        some (tokenTo (cursor.skip (readNumber c cs).1.source.length) .number
          (readNumber c cs).1.source cursor.offset,
          cursor.skip (readNumber c cs).1.source.length) := by
      refine scanToken_of_first _ (readNumber c cs).2 (by rw [rest, whole]) ?_ _
      rw [rest]
      exact first_number digit
    have cut (afterOperand : Bool) : Lexeme.read afterOperand c cs = readNumber c cs := by
      rw [read, if_pos digit]
    rw [found]
    exact ⟨_, _, rfl, readToken_of_starts rest starts (cut _) .number rfl (by decide)⟩
  | false =>
    have notDigit : ¬ c.isDigit = true := by simp [digit]
    have noNumber : scanToken cursor (fun _ => .number) number = none := by
      apply scanToken_of_refuses
      rw [rest]
      exact refuses_opening (((refuses_one (by simp [Spot.start, digit])).seq _).seq _)
    rw [noNumber, Option.none_or]
    by_cases sigil : c = '$'
    · have cut (afterOperand : Bool) : Lexeme.read afterOperand c cs =
          (verbatim .ident (c :: cs.takeWhile isWordPart), cs.dropWhile isWordPart) := by
        rw [read, if_neg notDigit, if_pos sigil]
      rw [sigilIdent, scanToken_of_many (· == '$') isWordPart rest (by simp [sigil])]
      exact ⟨_, _, rfl, readToken_of_starts rest starts (cut _) .ident rfl (by decide)⟩
    · have cut (afterOperand : Bool) : Lexeme.read afterOperand c cs =
          (verbatim .operator [c], cs) := by
        rw [read, if_neg notDigit, if_neg sigil]
      have noSigil : scanToken cursor (fun _ => .ident) sigilIdent = none :=
        scanToken_of_refuses_one (· == '$') rest (beq_false_of_ne sigil) _ _
      rw [noSigil, Option.none_or, anyChar, scanToken_of_one (fun _ => true) rest rfl]
      exact ⟨_, _, rfl, readToken_of_starts rest starts (cut _) .operator rfl (by decide)⟩

/-! ## Rounds -/

theorem lexHere_of_starts {last : Option Token} (rest : cursor.rest = c :: cs)
    (starts : StartsLexeme (c :: cs)) : lexHere last cursor = .ok (readToken last cursor) := by
  rw [lexHere]
  obtain ⟨token, behind, found, read⟩ | ⟨noPlain, notStart, notQuote⟩ :=
    scanPlain_cases last rest starts
  · rw [found, read]
  · rw [noPlain, check_slash rest]
    by_cases slash : c = '/'
    · subst slash
      rcases stops_of_startsLexeme starts with stops | ⟨body, rfl⟩
      · exact scanSlash_of_stops rest stops
      · have doc : cursor.check docCommentOpen = true := by
          rw [docCommentOpen, check_opening_literal, rest]
          exact decide_eq_true (List.prefix_append ['/', '*', '*'] body)
        show scanSlash last cursor = _
        rw [scanSlash, if_pos doc, scanDocComment_eq rest]
    · have other : (c == '/') = false := beq_false_of_ne slash
      obtain ⟨token, behind, found, read⟩ := finds_other rest starts notStart notQuote slash
      rw [other, found, read]
      rfl

structure LeavesOut (last : Option Token) (cursor : Cursor) (front behind : List Char) : Prop where
  nonempty : front ≠ []
  rest : cursor.rest = front ++ behind
  cut : splitGap .blank cursor.rest =
    (front ++ (splitGap .blank behind).1, (splitGap .blank behind).2)
  lexed : lexHere last cursor = .ok (none, cursor.skip front.length)

theorem lexHere_slash {last : Option Token} (rest : cursor.rest = '/' :: cs) :
    lexHere last cursor = scanSlash last cursor := by
  rw [lexHere, scanPlain_eq_none rest rfl rfl (by decide), check_slash rest]
  rfl

theorem leavesOut_blockComment {last : Option Token} {body : List Char}
    (rest : cursor.rest = '/' :: '*' :: body) (ordinary : body.head? ≠ some '*') :
    LeavesOut last cursor ('/' :: '*' :: (splitComment body).1) (splitComment body).2 := by
  have opened : cursor.scan blockCommentOpen = (some ['/', '*'], cursor.skip 2) :=
    scan_opening_literal "/*" rest
  have inside : (cursor.skip 2).rest = body :=
    Cursor.rest_skip_append (show cursor.rest = ['/', '*'] ++ body from rest)
  have closed := scanUntil_blockCommentClose (cursor.skip 2)
  rw [inside, Cursor.skip_skip, Nat.add_comm] at closed
  have noDoc : cursor.check docCommentOpen = false := by
    rw [docCommentOpen, check_opening_literal, rest]
    refine decide_eq_false ?_
    rintro ⟨more, whole⟩
    rw [← (List.cons.inj (List.cons.inj whole).2).2] at ordinary
    exact ordinary rfl
  refine ⟨List.cons_ne_nil _ _, ?_, ?_, ?_⟩
  · rw [rest, List.cons_append, List.cons_append, comment_append_rest]
  · rw [rest, splitGap_blockOpener ordinary, splitGap_blockComment_eq]
    rfl
  · rw [lexHere_slash rest, scanSlash, noDoc, opened]
    simp only [closed]
    rfl

theorem leavesOut_lineComment {last : Option Token} {body : List Char}
    (rest : cursor.rest = '/' :: '/' :: body) :
    LeavesOut last cursor ('/' :: '/' :: (splitLine body).1) (splitLine body).2 := by
  have opened : cursor.scan lineCommentOpen = (some ['/', '/'], cursor.skip 2) :=
    scan_opening_literal "//" rest
  have inside : (cursor.skip 2).rest = body :=
    Cursor.rest_skip_append (show cursor.rest = ['/', '/'] ++ body from rest)
  have closed := scanUntil_lineEnd (cursor.skip 2)
  rw [inside, Cursor.skip_skip, Nat.add_comm] at closed
  have noStar {more : List Char} : ¬ '/' :: '*' :: more <+: cursor.rest := by
    rw [rest]
    rintro ⟨behind, whole⟩
    exact absurd (List.cons.inj (List.cons.inj whole).2).1 (by decide)
  have noDoc : cursor.check docCommentOpen = false := by
    rw [docCommentOpen, check_opening_literal]
    exact decide_eq_false noStar
  have noBlock : cursor.scan blockCommentOpen = (none, cursor) :=
    scan_opening_literal_of_not noStar
  refine ⟨List.cons_ne_nil _ _, ?_, ?_, ?_⟩
  · rw [rest, List.cons_append, List.cons_append, line_append_rest]
  · rw [rest, splitGap_lineOpener, splitGap_lineComment_eq]
    rfl
  · rw [lexHere_slash rest, scanSlash, noDoc, noBlock, opened]
    simp only [closed]
    rfl

theorem leavesOut_or_starts (last : Option Token) (rest : cursor.rest = c :: cs)
    (notBlank : ¬ isBlank c = true) :
    (∃ front behind, LeavesOut last cursor front behind) ∨ StartsLexeme (c :: cs) := by
  by_cases block : c = '/' ∧ ∃ body, cs = '*' :: body
  · obtain ⟨rfl, body, rfl⟩ := block
    by_cases ordinary : body.head? = some '*'
    · exact .inr (splitGap_documentation ordinary)
    · exact .inl ⟨_, _, leavesOut_blockComment rest ordinary⟩
  by_cases line : c = '/' ∧ ∃ body, cs = '/' :: body
  · obtain ⟨rfl, body, rfl⟩ := line
    exact .inl ⟨_, _, leavesOut_lineComment rest⟩
  exact .inr (splitGap_lexeme notBlank (fun more slash mark => line ⟨slash, more, mark⟩)
    fun more slash mark => block ⟨slash, more, mark⟩)

theorem readToken_of_nil {last : Option Token} (rest : cursor.rest = []) :
    readToken last cursor = (none, cursor) := by
  have noGap : splitGap .blank [] = ([], []) := rfl
  simp only [readToken, rest, noGap, List.length_nil, Cursor.skip_zero]

theorem isSome_readToken (last : Option Token) (rest : cursor.rest = c :: cs)
    (starts : StartsLexeme (c :: cs)) : (readToken last cursor).1.isSome = true := by
  have noGap : splitGap .blank (c :: cs) = ([], c :: cs) := starts
  simp only [readToken, rest, noGap, List.length_nil, Cursor.skip_zero]
  rfl

theorem lexWithin_eq (last : Option Token) {rounds : Nat} {cursor : Cursor}
    (enough : cursor.rest.length < rounds) :
    lexWithin last rounds cursor = .ok (readToken last cursor) := by
  induction rounds generalizing cursor with
  | zero => omega
  | succ rounds ih =>
    have blanks : ∀ c ∈ cursor.rest.takeWhile isBlank, isBlank c = true :=
      fun c member => (List.mem_takeWhile_imp member)
    have whole : cursor.rest = cursor.rest.takeWhile isBlank ++ cursor.rest.dropWhile isBlank :=
      List.takeWhile_append_dropWhile.symm
    have cut := splitGap_append (gap_of_blank blanks) (cursor.rest.dropWhile isBlank)
    rw [← whole] at cut
    rw [lexWithin, scan_whiteSpace, ← readToken_skip whole cut]
    have start_rest := Cursor.rest_skip_append whole
    generalize cursor.skip (cursor.rest.takeWhile isBlank).length = start at start_rest
    cases rest : start.rest with
    | nil =>
      rw [readToken_of_nil rest]
      simp [Place.atEnd, rest]
    | cons c cs =>
      have notBlank : ¬ isBlank c = true := by
        have head := List.head?_dropWhile_not isBlank cursor.rest
        rw [← start_rest, rest] at head
        simpa using head
      have inside : start.atEnd = false := by
        rw [Place.atEnd, rest]
        rfl
      obtain ⟨front, behind, out⟩ | starts := leavesOut_or_starts last rest notBlank
      · have left := Cursor.rest_skip_append out.rest
        have less : (start.skip front.length).rest.length < rounds := by
          have taken := List.length_pos_iff.mpr out.nonempty
          have before := congrArg List.length whole
          have here := congrArg List.length out.rest
          rw [List.length_append] at before here
          rw [left]
          rw [← start_rest] at before
          omega
        rw [← readToken_skip out.rest out.cut, ← ih less]
        simp only [inside, out.lexed]
        rfl
      · have given := isSome_readToken last rest starts
        simp only [inside, lexHere_of_starts rest starts, bind, Except.bind, given]
        rfl

/-- Scanning with patterns never fails, and finds the token that is read. -/
theorem lex_eq_readToken (last : Option Token) (cursor : Cursor) :
    lex last cursor = .ok (readToken last cursor) := lexWithin_eq last (Nat.lt_succ_self _)

end Lexing

theorem TokenStream.advance_lexes (stream : TokenStream) :
    (Lexing.lex stream.last stream.cursor).map (fun found =>
      (found.1, (⟨found.2, found.1.or stream.last⟩ : TokenStream))) = .ok stream.advance := by
  rw [Lexing.lex_eq_readToken, advance_eq]
  rfl

end ScriptTokens
