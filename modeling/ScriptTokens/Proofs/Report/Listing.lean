import ScriptTokens.Proofs.Lexeme.Standing
import ScriptTokens.Proofs.Report
import ScriptTokens.Proofs.Text.Unescaping
import ScriptTokens.Proofs.TokenStream.Partition

namespace ScriptTokens
open Lexeme (Stops stops_cons takeWhile_of_stops)
open Text

structure Row where
  position : Position
  kind : Kind
  value : String
  deriving DecidableEq, Repr

namespace Row

def location (position : Position) : List Char :=
  (toString position.line).toList ++ ':' :: (toString position.column).toList

def line (row : Row) : List Char :=
  List.replicate (8 - (location row.position).length) ' ' ++
    (location row.position ++ ' ' :: ((padRight 11 row.kind.name).toList ++
      ' ' :: escapeValue row.value.toList))

/-- The row that a line shows: line and column with a colon between them, behind any blanks; then,
behind a blank each, a kind in eleven columns and an escaped value. -/
def read? (line : List Char) : Option Row := do
  let line := line.dropWhile (· == ' ')
  let location := line.takeWhile (· != ' ')
  let rest := (line.dropWhile (· != ' ')).drop 1
  let kind ← Kind.ofName? (String.ofList ((rest.take 11).takeWhile (· != ' ')))
  let value ← unescape (rest.drop 12)
  return {
    position.line := decimalValue (location.takeWhile (· != ':'))
    position.column := decimalValue ((location.dropWhile (· != ':')).drop 1)
    kind
    value := String.ofList value }

theorem isDigit_of_mem_location {position : Position} {c : Char}
    (h : c ∈ location position) : c.isDigit = true ∨ c = ':' := by
  rw [location, List.mem_append, List.mem_cons] at h
  rcases h with line | rfl | column
  · exact .inl (isDigit_of_mem_toString line)
  · exact .inr rfl
  · exact .inl (isDigit_of_mem_toString column)

theorem location_ne_blank {position : Position} {c : Char} (h : c ∈ location position) :
    c ≠ ' ' := by
  rintro rfl
  rcases isDigit_of_mem_location h with digit | colon
  · exact absurd digit (by decide)
  · exact absurd colon (by decide)

theorem stops_location (position : Position) (rest : List Char) :
    Stops (· == ' ') (location position ++ rest) := by
  intro c first
  have some : location position ≠ [] := by
    simp [location]
  rw [List.head?_append_of_ne_nil _ some] at first
  exact beq_false_of_ne (location_ne_blank (List.mem_of_mem_head? first))

theorem split_location (position : Position) :
    (location position).takeWhile (· != ':') = (toString position.line).toList ∧
      (location position).dropWhile (· != ':') = ':' :: (toString position.column).toList := by
  apply takeWhile_of_stops
  · intro c member
    have digit := isDigit_of_mem_toString member
    refine bne_iff_ne.mpr ?_
    rintro rfl
    exact absurd digit (by decide)
  · exact stops_cons rfl _

theorem kind_column (kind : Kind) :
    (padRight 11 kind.name).toList.length = 11 ∧
      String.ofList ((padRight 11 kind.name).toList.takeWhile (· != ' ')) = kind.name := by
  cases kind <;> decide

theorem read?_line (row : Row) : read? row.line = some row := by
  obtain ⟨position, kind, value⟩ := row
  let columns := (padRight 11 kind.name).toList ++ ' ' :: escapeValue value.toList
  have blanks : ∀ c ∈ List.replicate (8 - (location position).length) ' ', (c == ' ') = true :=
    fun c member => beq_iff_eq.mpr (List.eq_of_mem_replicate member)
  have shown := takeWhile_of_stops blanks (stops_location position (' ' :: columns))
  have filled : ∀ c ∈ location position, (c != ' ') = true :=
    fun c member => bne_iff_ne.mpr (location_ne_blank member)
  have behind : Stops (· != ' ') (' ' :: columns) := stops_cons rfl columns
  have place := takeWhile_of_stops filled behind
  obtain ⟨width, name⟩ := kind_column kind
  have kinds : columns.take 11 = (padRight 11 kind.name).toList := List.take_left' width
  have values : columns.drop 12 = escapeValue value.toList := by
    rw [show 12 = 11 + 1 from rfl, ← List.drop_drop, List.drop_left' width]
    rfl
  obtain ⟨first, second⟩ := split_location position
  simp only [read?, line, columns, shown.2, place.1, place.2, List.drop_succ_cons, List.drop_zero,
    kinds, values, name, Kind.ofName?_name, unescape_escapeValue, first, second,
    decimalValue_toString, Option.bind_eq_bind, Option.bind_some, String.ofList_toList]
  rfl

theorem prints_line (row : Row) : Prints row.line := by
  have colon : isPrintable ':' = true := by decide
  have blank : isPrintable ' ' = true := by decide
  rw [line, location, prints_append_iff, prints_append_iff, prints_append_iff, prints_cons_iff,
    prints_cons_iff, prints_append_iff, prints_cons_iff]
  exact ⟨prints_spaces _, ⟨prints_toString _, colon, prints_toString _⟩, blank,
    prints_padRight (Report.prints_kind row.kind) 11, blank, prints_escapeValue _⟩

theorem toList_listingLine (position : Position) (token : Token) :
    (Report.listingLine false position token).toList =
      Row.line ⟨position, token.kind, token.value⟩ ++ ['\n'] := by
  have shown : (toString position.line ++ ":" ++ toString position.column).toList =
      location position := by
    rw [String.toList_append, String.toList_append, List.append_assoc]
    rfl
  have place : (padLeft 8 (toString position.line ++ ":" ++ toString position.column)).toList =
      List.replicate (8 - (location position).length) ' ' ++ location position := by
    rw [padLeft, String.toList_append, String.toList_ofList, ← String.length_toList, shown]
  simp only [Report.listingLine, Bool.false_eq_true, if_false, String.toList_append, place, line]
  simp

end Row

theorem terminated_injective {lines others : List (List Char)} (h : ∀ line ∈ lines, '\n' ∉ line)
    (hothers : ∀ line ∈ others, '\n' ∉ line)
    (same : lines.flatMap (· ++ ['\n']) = others.flatMap (· ++ ['\n'])) : lines = others := by
  have first {line : List Char} (unbroken : '\n' ∉ line) (rest : List Char) :
      (line ++ '\n' :: rest).takeWhile (· != '\n') = line ∧
        (line ++ '\n' :: rest).dropWhile (· != '\n') = '\n' :: rest := by
    apply takeWhile_of_stops
    · exact fun c member => bne_iff_ne.mpr fun newline => unbroken (newline ▸ member)
    · exact stops_cons rfl rest
  induction lines generalizing others with
  | nil => cases others <;> simp_all
  | cons line lines ih =>
    cases others with
    | nil => simp at same
    | cons other others =>
      rw [List.forall_mem_cons] at h hothers
      simp only [List.flatMap_cons, List.append_assoc, List.singleton_append] at same
      have lineSame := first h.1 (lines.flatMap (· ++ ['\n']))
      rw [same] at lineSame
      obtain rfl : other = line := (first hothers.1 _).1.symm.trans lineSame.1
      have rest := (first hothers.1 _).2.symm.trans lineSame.2
      rw [ih h.2 hothers.2 (List.cons.inj rest).2.symm]

theorem unbroken_lines {rows : List Row} : ∀ line ∈ rows.map Row.line, '\n' ∉ line := by
  intro line member
  obtain ⟨row, -, rfl⟩ := List.mem_map.mp member
  exact row.prints_line.not_mem (by decide)

theorem mapM_read?_line (rows : List Row) : (rows.map Row.line).mapM Row.read? = some rows := by
  rw [List.mapM_map, mapM_eq_pure fun row _ => row.read?_line, List.map_id']
  rfl

namespace Report

def rows (report : Report) : Except OffsetFault (List Row) :=
  report.tokens.mapM fun token => do
    return ⟨← (LineIndex.ofText report.source.toList).position token.span.start, token.kind,
      token.value⟩

theorem isBoundary_start {source : String} {token : Token} (member : token ∈ tokenize source) :
    IsBoundary source.toList token.span.start := by
  rw [tokenize_eq_listing] at member
  obtain ⟨front, rest, segment, whole, -, rfl⟩ := mem_listing member
  refine ⟨front ++ segment.gap, segment.lexeme.source ++ rest, ?_, rfl⟩
  rw [whole, Segment.text, List.append_assoc, List.append_assoc]

theorem positions_increase {source : String} {positionOf : Token → Position}
    (h : ∀ token ∈ tokenize source,
      (LineIndex.ofText source.toList).position token.span.start = .ok (positionOf token)) :
    (tokenize source).Pairwise fun token later => (positionOf token).Before (positionOf later) := by
  have partition := listing_partition [] source.toList false
  rw [← tokenize_eq_listing] at partition
  exact partition.starts_increase.imp_of_mem fun member laterMember lt =>
    LineIndex.before_of_lt (isBoundary_start member) (isBoundary_start laterMember) lt
      (h _ member) (h _ laterMember)

theorem exists_rows (source : String) (docsOnly : Bool) :
    let report := ofSource none source docsOnly
    ∃ (rows : List Row) (text : String), report.rows = .ok rows ∧ report.listing false = .ok text ∧
      text.toList = (rows.map Row.line).flatMap (· ++ ['\n']) ∧
      rows.length = report.tokens.length ∧
      rows.Pairwise fun row later => row.position.Before later.position := by
  intro report
  obtain ⟨positionOf, positioned⟩ := exists_positionOf source
  have placed : ∀ token ∈ report.tokens,
      (LineIndex.ofText source.toList).position token.span.start = .ok (positionOf token) :=
    fun token member => positioned token (List.mem_of_mem_filter member)
  let row (token : Token) : Row := ⟨positionOf token, token.kind, token.value⟩
  refine ⟨report.tokens.map row, _, ?_, listing_eq placed false, ?_, List.length_map _, ?_⟩
  · refine mapM_eq_pure fun token member => ?_
    change (LineIndex.ofText source.toList).position token.span.start >>= _ = _
    rw [placed token member]
    rfl
  · have untitled : (report.path.map (heading false)).getD "" = "" := rfl
    rw [untitled, String.empty_append, String.toList_join, List.flatMap_map, List.map_map,
      List.flatMap_map]
    simp only [Row.toList_listingLine]
    rfl
  · rw [List.pairwise_map]
    exact (positions_increase positioned).filter _

/-- A plain listing has a line for each token, its positions increase, and it tells the rows. -/
theorem listing_lossless :
    (∀ (source : String) (docsOnly : Bool),
      let report := ofSource none source docsOnly
      ∃ (text : String) (lines : List (List Char)) (rows : List Row),
        report.listing false = .ok text ∧ text.toList = lines.flatMap (· ++ ['\n']) ∧
        lines.length = report.tokens.length ∧
        (∀ line ∈ lines, ∀ c ∈ line, isControl c = false) ∧
        report.rows = .ok rows ∧ lines.mapM Row.read? = some rows ∧
        rows.Pairwise fun row later => row.position.Before later.position) ∧
    ∀ (source other : String) (docsOnly otherDocsOnly : Bool),
      (ofSource none source docsOnly).listing false =
        (ofSource none other otherDocsOnly).listing false →
      (ofSource none source docsOnly).rows = (ofSource none other otherDocsOnly).rows := by
  constructor
  · intro source docsOnly report
    obtain ⟨rows, text, listed, written, whole, length, ordered⟩ := exists_rows source docsOnly
    refine ⟨text, rows.map Row.line, rows, written, whole, ?_, ?_, listed, ?_, ordered⟩
    · rw [List.length_map, length]
    · intro line member c inLine
      obtain ⟨row, -, rfl⟩ := List.mem_map.mp member
      exact not_isControl_of_isPrintable (row.prints_line c inLine)
    · exact mapM_read?_line rows
  · intro source other docsOnly otherDocsOnly same
    obtain ⟨rows, text, listed, written, whole, -, -⟩ := exists_rows source docsOnly
    obtain ⟨others, otherText, otherListed, otherWritten, otherWhole, -, -⟩ :=
      exists_rows other otherDocsOnly
    rw [written, otherWritten] at same
    obtain rfl := Except.ok.inj same
    have lines : rows.map Row.line = others.map Row.line := by
      apply terminated_injective unbroken_lines unbroken_lines
      rw [← whole, ← otherWhole]
    have read := mapM_read?_line rows
    rw [lines, mapM_read?_line] at read
    rw [listed, otherListed, Option.some.inj read]

theorem listing_lossless_with_line_end :
    let all := ofSource none "/**\n\\n' */ // x" false
    let docs := ofSource none "/**\n\\n' */ x" true
    all.listing false = docs.listing false ∧ all.rows = docs.rows ∧
      docs.rows = .ok [⟨⟨1, 1⟩, .docComment, "/**\n\\n' */"⟩] := by
  intro all docs
  have same : all.listing false = docs.listing false := by
    decide +kernel
  have rows : docs.rows = .ok [⟨⟨1, 1⟩, .docComment, "/**\n\\n' */"⟩] := by
    decide +kernel
  exact ⟨same, listing_lossless.2 _ _ _ _ same, rows⟩

end Report

end ScriptTokens
