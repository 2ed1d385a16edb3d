import ScriptTokens.Lexing
import ScriptTokens.Proofs.Lexeme.Gap
import ScriptTokens.Proofs.Lexeme.Literal
import ScriptTokens.Proofs.Pattern.First

namespace ScriptTokens.Lexing
open Pattern Lexeme

variable {c : Char} {cs : List Char}

theorem ends_opening (body : Pattern) (text : List Char) :
    (opening body).ends (.start text) = body.ends (.start text) := by
  simp [opening, ends, Spot.start]

theorem first_opening {body : Pattern} {text : List Char} {reached : Spot}
    (h : First body (.start text) reached) : First (opening body) (.start text) reached := by
  rw [First, ends_opening, h]

theorem refuses_opening {body : Pattern} {text : List Char} (h : Refuses body (.start text)) :
    Refuses (opening body) (.start text) := by
  rw [Refuses, ends_opening, h]

theorem refuses_opening_one (accepts : Char → Bool) (h : accepts c = false) (second : Pattern) :
    Refuses (opening (seq (one accepts) second)) (.start (c :: cs)) :=
  refuses_opening ((refuses_one (by simp [Spot.start, h])).seq second)

theorem first_oneThenMany_opening (starts goesOn : Char → Bool) (h : starts c = true) :
    First (opening (seq (one starts) (many false (one goesOn)))) (.start (c :: cs))
      ((Spot.start (c :: cs)).pass (c :: cs.takeWhile goesOn) (cs.dropWhile goesOn)) :=
  first_opening (first_oneThenMany starts goesOn rfl h)

theorem first_literalPart_escape {close d : Char} (spot : Spot) {behind : List Char}
    (rest : spot.rest = '\\' :: d :: behind) :
    First (literalPart close) spot (spot.pass ['\\', d] behind) := by
  have pair : First (seq (one (· == '\\')) (optional (one fun _ => true))) spot
      ((spot.pass ['\\'] (d :: behind)).pass [d] behind) :=
    (first_one rest rfl).seq ((first_one rfl rfl).left _)
  rw [Spot.pass_pass] at pair
  exact .right (refuses_one (by simp [rest])) pair

theorem first_literalPart_lone {close : Char} (spot : Spot) (rest : spot.rest = ['\\']) :
    First (literalPart close) spot (spot.pass ['\\'] []) := by
  have lone : First (seq (one (· == '\\')) (optional (one fun _ => true))) spot
      (spot.pass ['\\'] []) :=
    (first_one rest rfl).seq (.right (refuses_one (by simp)) (first_nothing _))
  exact .right (refuses_one (by simp [rest])) lone

theorem refuses_literalPart {close : Char} (notEscape : close ≠ '\\') {spot : Spot}
    (h : ∀ c ∈ spot.rest.head?, c = close) : Refuses (literalPart close) spot := by
  refine (refuses_one ?_).either ((refuses_one ?_).seq _)
  · intro c head
    simp [h c head]
  · intro c head
    simpa [h c head] using notEscape

theorem greedy_literalPart {close : Char} (notEscape : close ≠ '\\') (spot : Spot) :
    Greedy (literalPart close) spot
      (spot.pass (splitLiteral close spot.rest).1 (splitLiteral close spot.rest).2) := by
  generalize rest : spot.rest = text
  fun_induction splitLiteral close text generalizing spot with
  | case1 =>
    rw [Spot.pass_nil rest]
    exact .stop (refuses_literalPart notEscape (by simp [rest]))
  | case2 =>
    have stopped : Refuses (literalPart close) (spot.pass ['\\'] []) :=
      refuses_literalPart notEscape (by simp)
    exact .go (first_literalPart_lone spot rest) (by simp) (.stop stopped)
  | case3 d ds body behind split ih =>
    have further := ih (spot.pass ['\\', d] ds) rfl
    rw [Spot.pass_pass, split] at further
    exact .go (first_literalPart_escape spot rest) (by simp) further
  | case4 ds =>
    rw [Spot.pass_nil rest]
    exact .stop (refuses_literalPart notEscape (by simp [rest]))
  | case5 d ds notLone notPair notClose body behind split ih =>
    have plain := ne_escape notLone notPair
    have further := ih (spot.pass [d] ds) rfl
    rw [Spot.pass_pass, split] at further
    exact .go (.left (first_one rest (by simp [notClose, plain])) _) (by simp) further

theorem first_quoted {quote : Char} (notEscape : quote ≠ '\\') {body rest : List Char}
    (cut : splitLiteral quote cs = (body, rest)) :
    ∃ reached, First (quoted quote) (.start (quote :: cs)) reached ∧
      reached.index = (readString quote cs).1.source.length ∧
      reached.recorded = [(1, 1, body.length + 1)] := by
  have opened : First (one (· == quote)) (.start (quote :: cs))
      ((Spot.start (quote :: cs)).pass [quote] cs) :=
    first_one rfl (by simp)
  have inside := ((greedy_literalPart notEscape
    ((Spot.start (quote :: cs)).pass [quote] cs)).first).group 1
  rw [Spot.rest_pass, cut, Spot.pass_pass] at inside
  rcases splitLiteral_cases quote cs with atEnd | ⟨front, behind, -, -, closed⟩
  · rw [cut] at atEnd
    obtain ⟨rfl, rfl⟩ := Prod.mk.inj atEnd
    refine ⟨_, first_opening (opened.seq (inside.seq (.right (refuses_one ?_) (first_textEnd ?_)))),
      ?_, ?_⟩
    · simp [Spot.record]
    · rfl
    · simp [readString, cut, Spot.record, Spot.start]
    · simp [Spot.record, Spot.pass, Spot.start]
  · rw [cut] at closed
    obtain ⟨rfl, rfl⟩ := Prod.mk.inj closed
    refine ⟨_, first_opening (opened.seq (inside.seq (.left (first_one rfl (by simp)) _))), ?_, ?_⟩
    · simp [readString, cut, Spot.record, Spot.start, Nat.add_comm]
    · simp [Spot.record, Spot.pass, Spot.start, Nat.add_comm]

theorem first_regexLiteral (cs : List Char) :
    First regexLiteral (.start ('/' :: cs))
      ((Spot.start ('/' :: cs)).pass (readRegex cs).1.source (readRegex cs).2) := by
  have opened : First (one (· == '/')) (.start ('/' :: cs))
      ((Spot.start ('/' :: cs)).pass ['/'] cs) :=
    first_one rfl (by simp)
  have inside := (greedy_literalPart (show '/' ≠ '\\' by decide)
    ((Spot.start ('/' :: cs)).pass ['/'] cs)).first
  rw [Spot.rest_pass, Spot.pass_pass] at inside
  rcases splitLiteral_cases '/' cs with atEnd | ⟨body, behind, -, -, closed⟩
  · rw [atEnd] at inside
    have noCloser : Refuses (one (· == '/')) ((Spot.start ('/' :: cs)).pass ('/' :: cs) []) :=
      refuses_one (by simp)
    have found := opened.seq (inside.seq
      (.right (noCloser.seq (many false (one isFlag))) (first_textEnd rfl)))
    simp only [readRegex, atEnd]
    exact first_opening found
  · rw [closed] at inside
    have found := opened.seq (inside.seq (.left
      (first_oneThenMany (· == '/') isFlag rfl (by simp)) textEnd))
    rw [Spot.pass_pass] at found
    simp only [readRegex, closed]
    exact first_opening found

theorem first_number (digit : c.isDigit = true) :
    First number (.start (c :: cs))
      ((Spot.start (c :: cs)).pass (readNumber c cs).1.source (readNumber c cs).2) := by
  have whole : First (oneOrMore (one Char.isDigit)) (.start (c :: cs))
      ((Spot.start (c :: cs)).pass (c :: cs.takeWhile Char.isDigit)
        (cs.dropWhile Char.isDigit)) :=
    first_oneThenMany Char.isDigit Char.isDigit rfl digit
  by_cases point : ∃ more, cs.dropWhile Char.isDigit = '.' :: more
  · obtain ⟨more, behind⟩ := point
    have found := whole.seq
      (.left (first_oneThenMany (· == '.') Char.isDigit behind (by simp)) nothing)
    rw [Spot.pass_pass] at found
    simp only [readNumber, behind, readDecimals]
    exact first_opening found
  · have none : ∀ d ∈ (cs.dropWhile Char.isDigit).head?, (d == '.') = false := by
      intro d head
      obtain ⟨more, behind⟩ := List.head?_eq_some_iff.mp head
      refine beq_false_of_ne ?_
      rintro rfl
      exact point ⟨more, behind⟩
    have cut : readDecimals (cs.dropWhile Char.isDigit) = ([], cs.dropWhile Char.isDigit) := by
      rw [readDecimals.eq_def]
      split
      · rename_i more behind
        exact absurd ⟨more, behind⟩ point
      · rfl
    have found := whole.seq (.right ((refuses_one none).seq (many false (one Char.isDigit)))
      (first_nothing _))
    simp only [readNumber, cut, List.append_nil]
    exact first_opening found

theorem matchAt_literal (text : String) (before : Option Char) (index : Nat) (rest : List Char) :
    (literal text).matchAt before index rest =
      if text.toList <+: rest then some ⟨index, index + text.toList.length, []⟩ else none := by
  rw [matchAt_eq_head, ends_literal]
  split <;> rfl

theorem stop_findFrom_cons {text : String} (nowhere : ¬ text.toList <+: c :: cs)
    (before : Option Char) {index n : Nat}
    (later : (((literal text).findFrom (some c) (index + 1) cs).map Match.stop).getD
      (index + 1 + cs.length) = index + 1 + n) :
    (((literal text).findFrom before index (c :: cs)).map Match.stop).getD
      (index + (c :: cs).length) = index + (n + 1) := by
  rw [findFrom, matchAt_literal, if_neg nowhere, Option.none_or, List.length_cons,
    Nat.add_comm cs.length, Nat.add_comm n, ← Nat.add_assoc, ← Nat.add_assoc]
  exact later

theorem findFrom_blockCommentClose (before : Option Char) (index : Nat) (text : List Char) :
    ((blockCommentClose.findFrom before index text).map Match.stop).getD (index + text.length) =
      index + (splitComment text).1.length := by
  fun_induction splitComment text generalizing before index with
  | case1 => simp [findFrom, blockCommentClose, matchAt_literal]
  | case2 cs => simp [findFrom, blockCommentClose, matchAt_literal]
  | case3 c cs notCloser comment rest split ih =>
    refine stop_findFrom_cons ?_ before ?_
    · rintro ⟨more, whole⟩
      obtain ⟨rfl, rfl⟩ := List.cons.inj whole
      exact notCloser more rfl rfl
    · have later := ih (some c) (index + 1)
      rwa [split] at later

theorem splitGap_blockComment_eq (text : List Char) :
    splitGap .blockComment text =
      ((splitComment text).1 ++ (splitGap .blank (splitComment text).2).1,
        (splitGap .blank (splitComment text).2).2) := by
  fun_induction splitComment text with
  | case1 => rfl
  | case2 cs => exact splitGap_closer cs
  | case3 c cs notCloser comment rest split ih =>
    have inBlock : ¬ (c = '*' ∧ cs.head? = some '/') := by
      rintro ⟨star, slash⟩
      obtain ⟨more, whole⟩ := List.head?_eq_some_iff.mp slash
      exact notCloser more star whole
    rw [split] at ih
    rw [splitGap_block_cons inBlock, ih]
    rfl

def splitLine : List Char → List Char × List Char
  | [] => ([], [])
  | c :: cs =>
    if c = '\n' then (['\n'], cs) else (c :: (splitLine cs).1, (splitLine cs).2)

theorem line_append_rest (text : List Char) :
    (splitLine text).1 ++ (splitLine text).2 = text := by
  fun_induction splitLine text <;> simp_all

theorem findFrom_lineEnd (before : Option Char) (index : Nat) (text : List Char) :
    ((lineEnd.findFrom before index text).map Match.stop).getD (index + text.length) =
      index + (splitLine text).1.length := by
  fun_induction splitLine text generalizing before index with
  | case1 => simp [findFrom, lineEnd, matchAt_literal]
  | case2 cs => simp [findFrom, lineEnd, matchAt_literal]
  | case3 c cs inLine ih =>
    refine stop_findFrom_cons ?_ before (ih (some c) (index + 1))
    rintro ⟨more, whole⟩
    exact inLine (List.cons.inj whole).1.symm

theorem splitGap_lineComment_eq (text : List Char) :
    splitGap .lineComment text =
      ((splitLine text).1 ++ (splitGap .blank (splitLine text).2).1,
        (splitGap .blank (splitLine text).2).2) := by
  fun_induction splitLine text with
  | case1 => rfl
  | case2 cs => exact splitGap_newline cs
  | case3 c cs inLine ih =>
    rw [splitGap_line_cons inLine, ih]
    rfl

end ScriptTokens.Lexing
