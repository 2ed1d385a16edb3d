import Mathlib.Tactic.Choose
import ScriptTokens.Proofs.Style
import ScriptTokens.Proofs.Text.Escaped
import ScriptTokens.Proofs.TokenStream.Lines
import ScriptTokens.Report

namespace ScriptTokens
open Text

theorem Erases.paint {text plain : String} (h : Erases text plain) (kind : Kind) :
    Erases (kind.paint text) plain := by
  cases kind with
  | keyword => exact (h.color .magenta).effect .bold
  | ident => exact h
  | string => exact h.color .green
  | number => exact h.color .yellow
  | regex => exact h.color .red
  | operator => exact h.color .cyan
  | docComment => exact h.color .blue

theorem exists_position {source : String} {token : Token} (member : token ∈ tokenize source) :
    ∃ position, (LineIndex.ofText source.toList).position token.span.start = .ok position := by
  have exact := Cursor.exact_ofText source.toList
  have lined : token.Lined source :=
    (TokenStream.ofText source).lined_tokens exact rfl token member
  obtain ⟨column, position⟩ := lined.indexed
  exact ⟨_, position⟩

theorem exists_positionOf (source : String) :
    ∃ positionOf : Token → Position, ∀ token ∈ tokenize source,
      (LineIndex.ofText source.toList).position token.span.start = .ok (positionOf token) := by
  have : Nonempty Position := ⟨⟨0, 0⟩⟩
  have placed : ∀ token ∈ tokenize source, ∃ position,
      (LineIndex.ofText source.toList).position token.span.start = .ok position :=
    fun _ member => exists_position member
  choose! positionOf positioned using placed
  exact ⟨positionOf, positioned⟩

theorem mapM_eq_pure {m : Type → Type} [Monad m] [LawfulMonad m] {α β : Type} {read : α → m β}
    {value : α → β} {items : List α} (h : ∀ item ∈ items, read item = pure (value item)) :
    items.mapM read = pure (items.map value) := by
  induction items with
  | nil => rfl
  | cons item items ih =>
    rw [List.forall_mem_cons] at h
    simp [List.mapM_cons, h.1, ih h.2]

namespace Report

theorem prints_kind (kind : Kind) : Prints kind.name.toList := by
  cases kind <;> decide

theorem erases_printed {text : String} (h : Prints text.toList) : Erases text text :=
  erases_self (h.not_mem (by decide))

theorem erases_listingLine (position : Position) (token : Token) :
    Erases (listingLine true position token) (listingLine false position token) := by
  have place : Prints (toString position.line ++ ":" ++ toString position.column).toList := by
    simp only [String.toList_append, prints_append_iff]
    exact ⟨⟨prints_toString _, by decide⟩, prints_toString _⟩
  have location := erases_printed (prints_padLeft place 8)
  have kind := erases_printed (prints_padRight (prints_kind token.kind) 11)
  have value : Erases (String.ofList (escapeValue token.value.toList)) _ :=
    erases_printed (by simpa using prints_escapeValue token.value.toList)
  have blank : Erases " " " " := erases_self (by decide)
  have newline : Erases "\n" "\n" := erases_self (by decide)
  simp only [listingLine, if_true, Bool.false_eq_true, if_false]
  refine .append (.append (.append (.append (.append ?_ blank) ?_) blank) ?_) newline
  · exact location.effect .dimmed
  · exact kind.effect .dimmed
  · exact value.paint token.kind

theorem erases_heading {path : String} (h : '\x1b' ∉ path.toList) :
    Erases (heading true path) (heading false path) := by
  have title : Erases ("==> " ++ path) ("==> " ++ path) :=
    (erases_self (by decide)).append (erases_self h)
  have newline : Erases "\n" "\n" := erases_self (by decide)
  exact ((title.color .white).effect .bold).append newline

theorem listing_eq {report : Report} {positionOf : Token → Position}
    (h : ∀ token ∈ report.tokens,
      (LineIndex.ofText report.source.toList).position token.span.start = .ok (positionOf token))
    (color : Bool) :
    report.listing color = .ok ((report.path.map (heading color)).getD "" ++
      String.join (report.tokens.map fun token => listingLine color (positionOf token) token)) := by
  have lines : ∀ token ∈ report.tokens,
      ((LineIndex.ofText report.source.toList).position token.span.start >>= fun position =>
        pure (listingLine color position token)) =
      .ok (listingLine color (positionOf token) token) := by
    intro token member
    rw [h token member]
    rfl
  rw [listing, mapM_eq_pure lines]
  rfl

theorem exists_listing (path : Option String) (source : String) (docsOnly : Bool) :
    let report := ofSource path source docsOnly
    ∃ positionOf : Token → Position, ∀ color, report.listing color =
      .ok ((path.map (heading color)).getD "" ++
        String.join (report.tokens.map fun token =>
          listingLine color (positionOf token) token)) := by
  intro report
  obtain ⟨positionOf, positioned⟩ := exists_positionOf source
  exact ⟨positionOf,
    listing_eq fun token member => positioned token (List.mem_of_mem_filter member)⟩

/-- Without its control sequences the coloured listing of a report is the plain one. -/
theorem listing_erased {path : Option String} (h : ∀ name ∈ path, '\x1b' ∉ name.toList)
    (source : String) (docsOnly : Bool) :
    let report := ofSource path source docsOnly
    ∃ painted plain, report.listing true = .ok painted ∧ report.listing false = .ok plain ∧
      erase painted = plain := by
  intro report
  obtain ⟨positionOf, listed⟩ := exists_listing path source docsOnly
  refine ⟨_, _, listed true, listed false, Erases.erase_eq (.append ?_ (.join ?_))⟩
  · cases path with
    | none => exact erases_empty
    | some name => exact erases_heading (h name rfl)
  · intro token _
    exact erases_listingLine (positionOf token) token

theorem listing_erased_with_escapes :
    let report := ofSource (some "a.js") "\x1b 'm\x1b[1m'" false
    let lines := "==> a.js\n     1:1 operator    \\u\x7b1b\x7d\n" ++
      "     1:3 string      m\\u\x7b1b\x7d[1m\n"
    (∀ name ∈ some "a.js", '\x1b' ∉ name.toList) ∧ report.listing false = .ok lines ∧
      ∃ painted, report.listing true = .ok painted ∧ erase painted = lines := by
  intro report lines
  have path : ∀ name ∈ some "a.js", '\x1b' ∉ name.toList := by
    rintro name ⟨rfl⟩
    decide
  have listed : report.listing false = .ok lines := by
    decide +kernel
  obtain ⟨painted, plain, inColor, bare, erased⟩ := listing_erased path "\x1b 'm\x1b[1m'" false
  rw [listed] at bare
  cases bare
  exact ⟨path, listed, painted, inColor, erased⟩

end Report

end ScriptTokens
