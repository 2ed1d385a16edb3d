import ScriptTokens.Proofs.Lexeme.Spelling

namespace ScriptTokens.Lexeme

theorem takeWhile_of_stops {takes : Char → Bool} {part rest : List Char}
    (inside : ∀ c ∈ part, takes c = true) (behind : Stops takes rest) :
    (part ++ rest).takeWhile takes = part ∧ (part ++ rest).dropWhile takes = rest := by
  rw [List.takeWhile_append_of_pos inside, List.dropWhile_append_of_pos inside]
  cases rest with
  | nil => simp
  | cons c rest => simp [behind c rfl]

theorem not_isBlank_of_range {c : Char} (above : 0x20 < c.toNat) (below : c.toNat < 0x7f) :
    Text.isBlank c = false := by
  simp only [Text.isBlank, Bool.or_eq_false_iff, Bool.and_eq_false_iff, decide_eq_false_iff_not,
    beq_eq_false_iff_ne]
  omega

theorem isAlpha_iff {c : Char} : c.isAlpha = true ↔
    (0x41 ≤ c.toNat ∧ c.toNat ≤ 0x5a) ∨ (0x61 ≤ c.toNat ∧ c.toNat ≤ 0x7a) := by
  change (decide ('A'.val ≤ c.val ∧ c.val ≤ 'Z'.val) ||
    (decide ('a'.val ≤ c.val) && decide (c.val ≤ 'z'.val))) = true ↔ _
  simp [UInt32.le_iff_toNat_le]

theorem range_of_isWordPart {c : Char} (h : isWordPart c = true) :
    0x20 < c.toNat ∧ c.toNat < 0x7f := by
  simp [isWordPart, Char.isAlphanum, isAlpha_iff, Char.isDigit, UInt32.le_iff_toNat_le] at h
  rcases h with h | rfl
  · omega
  · decide

theorem startsLexeme_of_isWordPart {c : Char} (h : isWordPart c = true) (cs : List Char) :
    StartsLexeme (c :: cs) := by
  have range := range_of_isWordPart h
  apply startsLexeme_of_ne (not_isBlank_of_range range.1 range.2)
  rintro rfl
  exact absurd h (by decide)

theorem not_isWordStart_of_isDigit {c : Char} (h : c.isDigit = true) : isWordStart c = false := by
  have notLine : c ≠ '_' := by
    rintro rfl
    exact absurd h (by decide)
  have notAlpha : ¬ c.isAlpha = true := by
    rw [isAlpha_iff]
    simp [Char.isDigit, UInt32.le_iff_toNat_le] at h
    omega
  simp [isWordStart, notLine, notAlpha]

theorem reservedWords_spelled :
    ∀ word ∈ reservedWords, word.toList.head?.any isWordStart = true ∧
      word.toList.all isWordPart = true := by
  decide

def IsRead (afterOperand : Bool) (lexeme : Lexeme) (rest : List Char) : Prop :=
  ∃ c cs, lexeme.source ++ rest = c :: cs ∧ StartsLexeme (c :: cs) ∧
    read afterOperand c cs = (lexeme, rest)

theorem read_of_isWordStart {c : Char} {cs rest : List Char} (afterOperand : Bool)
    (first : isWordStart c = true) (more : ∀ d ∈ cs, isWordPart d = true)
    (behind : Stops isWordPart rest) :
    IsRead afterOperand (ofWord (c :: cs)) rest := by
  have cut := takeWhile_of_stops more behind
  refine ⟨c, cs ++ rest, rfl, ?_, ?_⟩
  · exact startsLexeme_of_isWordPart (isWordPart_of_isWordStart first) _
  · rw [read, if_pos first, cut.1, cut.2]

theorem read_of_isDigit {c : Char} {digits rest : List Char} (afterOperand : Bool)
    (first : c.isDigit = true) (more : ∀ d ∈ digits, d.isDigit = true)
    (behind : Stops Char.isDigit rest) :
    StartsLexeme (c :: (digits ++ rest)) ∧ read afterOperand c (digits ++ rest) =
      (verbatim .number (c :: digits ++ (readDecimals rest).1), (readDecimals rest).2) := by
  have cut := takeWhile_of_stops more behind
  have part : isWordPart c = true := by simp [isWordPart, Char.isAlphanum, first]
  have notQuote : ¬ (c = '\'' ∨ c = '"') := by
    rintro (rfl | rfl) <;> exact absurd first (by decide)
  have notSlash : c ≠ '/' := by
    rintro rfl
    exact absurd first (by decide)
  refine ⟨startsLexeme_of_isWordPart part _, ?_⟩
  rw [read, if_neg (by simp [not_isWordStart_of_isDigit first]), if_neg notQuote, if_neg notSlash,
    if_pos first, readNumber, cut.1, cut.2]

theorem read_quote {quote : Char} (afterOperand : Bool) (h : quote = '\'' ∨ quote = '"')
    (cs : List Char) :
    StartsLexeme (quote :: cs) ∧ read afterOperand quote cs = readString quote cs := by
  rcases h with rfl | rfl
  · exact ⟨startsLexeme_of_ne (by decide) (by decide), rfl⟩
  · exact ⟨startsLexeme_of_ne (by decide) (by decide), rfl⟩

theorem read_slash (afterOperand : Bool) (cs : List Char) :
    read afterOperand '/' cs = readSlash afterOperand cs := rfl

theorem readSlash_of_stops {afterOperand : Bool} {cs : List Char} (h : Stops isCommentMark cs) :
    readSlash afterOperand cs =
      if afterOperand then (verbatim .operator ['/'], cs) else readRegex cs := by
  rw [readSlash]
  rintro body rfl
  exact absurd (h '*' rfl) (by decide)

theorem read_of_stands {afterOperand : Bool} {lexeme : Lexeme} {rest : List Char}
    (h : Stands afterOperand lexeme rest) : IsRead afterOperand lexeme rest := by
  obtain ⟨growth, spelled, behind⟩ := h
  cases spelled with
  | @keyword word reserved =>
    obtain ⟨first, parts⟩ := reservedWords_spelled _ reserved
    rw [String.toList_ofList] at first parts
    cases word with
    | nil => cases first
    | cons c cs =>
      rw [List.all_eq_true, List.forall_mem_cons] at parts
      have read := read_of_isWordStart afterOperand first parts.2 behind
      rwa [ofWord, if_pos (by simpa [isReserved] using reserved)] at read
  | ident first parts other =>
    have read := read_of_isWordStart afterOperand first parts behind
    rwa [ofWord, if_neg (by simpa [isReserved] using other)] at read
  | @dollar cs parts =>
    have cut := takeWhile_of_stops parts behind
    refine ⟨'$', cs ++ rest, rfl, startsLexeme_of_ne (by decide) (by decide), ?_⟩
    simp [read, isWordStart, cut.1, cut.2]
  | @whole c digits first more =>
    have behind : Stops isPointOrDigit rest := behind
    have digit : Stops Char.isDigit rest := by
      intro d member
      have := behind d member
      simp_all [isPointOrDigit]
    obtain ⟨starts, read⟩ := read_of_isDigit afterOperand first more digit
    rw [readDecimals_of_stops behind, List.append_nil] at read
    exact ⟨c, digits ++ rest, rfl, starts, read⟩
  | @decimal c digits decimals first more parts =>
    have cut := takeWhile_of_stops parts behind
    have point : Stops Char.isDigit ('.' :: (decimals ++ rest)) := stops_cons rfl _
    obtain ⟨starts, read⟩ := read_of_isDigit afterOperand first more point
    rw [readDecimals, cut.1, cut.2] at read
    exact ⟨c, digits ++ '.' :: (decimals ++ rest), by simp [verbatim], starts, read⟩
  | @string quote body isQuote inside =>
    obtain ⟨starts, read⟩ := read_quote afterOperand isQuote (body ++ quote :: rest)
    refine ⟨quote, body ++ quote :: rest, by simp, starts, ?_⟩
    rw [read, readString, splitLiteral_append (quote_ne_escape isQuote) inside]
  | @openString quote body isQuote inside =>
    obtain rfl := stops_anything_iff.mp behind
    obtain ⟨starts, read⟩ := read_quote afterOperand isQuote body
    refine ⟨quote, body, by simp, starts, ?_⟩
    rw [read, readString, splitLiteral_openBody inside]
  | @documentation body inside =>
    have star : (body ++ '*' :: '/' :: rest).head? = some '*' := by
      cases body with
      | nil => rfl
      | cons c body => exact inside.1
    obtain ⟨more, whole⟩ := List.head?_eq_some_iff.mp star
    refine ⟨'/', '*' :: '*' :: more, ?_, startsLexeme_documentation more, ?_⟩
    · simp [verbatim, whole]
    · rw [read_slash, readSlash, ← whole, splitComment_append inside.2]
  | @openDocumentation body star inside =>
    obtain rfl := stops_anything_iff.mp behind
    obtain ⟨more, rfl⟩ := List.head?_eq_some_iff.mp star
    refine ⟨'/', '*' :: '*' :: more, by simp [verbatim], startsLexeme_documentation more, ?_⟩
    rw [read_slash, readSlash, splitComment_open inside]
  | @regex body flags after inside first parts =>
    have cut := takeWhile_of_stops parts behind
    have stops : Stops isCommentMark (body ++ '/' :: (flags ++ rest)) := by
      cases body with
      | nil => exact first
      | cons d body => exact first
    refine ⟨'/', body ++ '/' :: (flags ++ rest), by simp [verbatim], startsLexeme_slash stops, ?_⟩
    rw [read_slash, readSlash_of_stops stops, if_neg (by simp [after]), readRegex,
      splitLiteral_append (by decide) inside]
    simp only [cut.1, cut.2]
  | @openRegex body after inside first =>
    obtain rfl := stops_anything_iff.mp behind
    refine ⟨'/', body, by simp [verbatim], startsLexeme_slash first, ?_⟩
    rw [read_slash, readSlash_of_stops first, if_neg (by simp [after]), readRegex,
      splitLiteral_openBody inside]
  | division after =>
    refine ⟨'/', rest, rfl, startsLexeme_slash behind, ?_⟩
    rw [read_slash, readSlash_of_stops behind, if_pos after]
  | @symbol c symbol =>
    simp only [isSymbol, Bool.not_eq_true', Bool.or_eq_false_iff, beq_eq_false_iff_ne] at symbol
    refine ⟨c, rest, rfl, startsLexeme_of_ne (by simp [symbol]) (by simp [symbol]), ?_⟩
    simp_all [read, isWordStart, isWordPart, Char.isAlphanum]

theorem Growth.not_takes_blank {growth : Growth} (h : growth ≠ .anything) {c : Char}
    (blank : Text.isBlank c = true) : growth.takes c = false := by
  have notPart : isWordPart c = false := by
    apply Bool.eq_false_iff.mpr
    intro part
    have range := range_of_isWordPart part
    rw [not_isBlank_of_range range.1 range.2] at blank
    cases blank
  have other : ∀ d, Text.isBlank d = false → c ≠ d := by
    rintro d notBlank rfl
    rw [notBlank] at blank
    cases blank
  have notDigit : c.isDigit = false := by
    simp_all [isWordPart, Char.isAlphanum]
  cases growth with
  | nothing => rfl
  | wordPart => exact notPart
  | digit => exact notDigit
  | pointOrDigit => simp [takes, isPointOrDigit, notDigit, other '.' (by decide)]
  | flag =>
    simp [takes, isFlag, other 'g' (by decide), other 'i' (by decide), other 'm' (by decide)]
  | commentMark => simp [takes, isCommentMark, other '/' (by decide), other '*' (by decide)]
  | anything => exact absurd rfl h

namespace Stands
variable {afterOperand : Bool} {lexeme : Lexeme} {rest other : List Char}

theorem source_ne_nil (h : Stands afterOperand lexeme rest) : lexeme.source ≠ [] := by
  obtain ⟨growth, spelled, -⟩ := h
  cases spelled with
  | keyword reserved =>
    rintro rfl
    exact absurd reserved (by decide)
  | _ => simp [verbatim]

theorem of_head? (h : Stands afterOperand lexeme rest) (same : other.head? = rest.head?) :
    Stands afterOperand lexeme other := by
  obtain ⟨growth, spelled, behind⟩ := h
  refine ⟨growth, spelled, ?_⟩
  rwa [Stops, same]

theorem atEnd (h : Stands afterOperand lexeme rest) : Stands afterOperand lexeme [] := by
  obtain ⟨growth, spelled, -⟩ := h
  exact ⟨growth, spelled, stops_nil _⟩

theorem blank (h : Stands afterOperand lexeme rest)
    (closed : rest = [] → ¬ Spelled afterOperand .anything lexeme)
    (blank : ∀ c ∈ other.head?, Text.isBlank c = true) : Stands afterOperand lexeme other := by
  obtain ⟨growth, spelled, behind⟩ := h
  have stops : growth ≠ .anything := by
    rintro rfl
    exact closed (stops_anything_iff.mp behind) spelled
  exact ⟨growth, spelled, fun c member => growth.not_takes_blank stops (blank c member)⟩

end Stands

end ScriptTokens.Lexeme
