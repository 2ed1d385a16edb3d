import ScriptTokens.Lexeme

namespace ScriptTokens.Lexeme

inductive LiteralBody (close : Char) : List Char → Prop
  | nil : LiteralBody close []
  | plain {c : Char} {body : List Char} :
      c ≠ close → c ≠ '\\' → LiteralBody close body → LiteralBody close (c :: body)
  | escaped {c : Char} {body : List Char} :
      LiteralBody close body → LiteralBody close ('\\' :: c :: body)

/-- The inside of a literal that its text does not close. It may end in a lone backslash. -/
inductive OpenBody (close : Char) : List Char → Prop
  | nil : OpenBody close []
  | escape : OpenBody close ['\\']
  | plain {c : Char} {body : List Char} :
      c ≠ close → c ≠ '\\' → OpenBody close body → OpenBody close (c :: body)
  | escaped {c : Char} {body : List Char} :
      OpenBody close body → OpenBody close ('\\' :: c :: body)

def IsClosed (quote : Char) (source : List Char) : Prop :=
  ∃ body, LiteralBody quote body ∧ source = quote :: (body ++ [quote])

/-- What a token of a kind shows of its source. -/
def Shows (kind : Kind) (source value : List Char) : Prop :=
  if kind = .string then
    ∃ quote, (quote = '\'' ∨ quote = '"') ∧
      ((IsClosed quote source ∧ source = quote :: (value ++ [quote])) ∨
        (¬ IsClosed quote source ∧ source = quote :: value))
  else value = source

theorem splitLiteral_plain {close c : Char} (notEscape : c ≠ '\\') (notClose : c ≠ close)
    (cs : List Char) :
    splitLiteral close (c :: cs) = (c :: (splitLiteral close cs).1, (splitLiteral close cs).2) := by
  rw [splitLiteral, if_neg notClose]
  · rintro rfl
    exact absurd rfl notEscape
  · rintro d ds rfl
    exact absurd rfl notEscape

theorem splitLiteral_append {close : Char} (notEscape : close ≠ '\\') {body : List Char}
    (h : LiteralBody close body) (rest : List Char) :
    splitLiteral close (body ++ close :: rest) = (body, close :: rest) := by
  induction h with
  | nil =>
    rw [List.nil_append, splitLiteral, if_pos rfl]
    · rintro rfl
      exact absurd rfl notEscape
    · rintro d ds rfl
      exact absurd rfl notEscape
  | plain hclose hescape _ ih => rw [List.cons_append, splitLiteral_plain hescape hclose, ih]
  | escaped _ ih => rw [List.cons_append, List.cons_append, splitLiteral, ih]

theorem ne_escape {c : Char} {cs : List Char} (notLone : c = '\\' → cs = [] → False)
    (notEscape : ∀ d ds, c = '\\' → cs = d :: ds → False) : c ≠ '\\' := by
  rintro rfl
  cases cs with
  | nil => exact notLone rfl rfl
  | cons d ds => exact notEscape d ds rfl rfl

theorem quote_ne_escape {quote : Char} (h : quote = '\'' ∨ quote = '"') : quote ≠ '\\' := by
  rcases h with rfl | rfl <;> decide

theorem utf8Size_quote {quote : Char} (h : quote = '\'' ∨ quote = '"') : quote.utf8Size = 1 := by
  rcases h with rfl | rfl <;> rfl

theorem splitLiteral_cases (close : Char) (text : List Char) :
    (splitLiteral close text = (text, [])) ∨
      ∃ body rest, LiteralBody close body ∧ text = body ++ close :: rest ∧
        splitLiteral close text = (body, close :: rest) := by
  fun_induction splitLiteral close text with
  | case1 => exact .inl rfl
  | case2 => exact .inl rfl
  | case3 c cs body rest split ih =>
    rw [split] at ih
    rcases ih with ih | ⟨body', rest', hbody, rfl, ih⟩
    · obtain ⟨rfl, rfl⟩ := Prod.mk.inj ih
      exact .inl rfl
    · obtain ⟨rfl, rfl⟩ := Prod.mk.inj ih
      exact .inr ⟨_, rest', .escaped hbody, rfl, rfl⟩
  | case4 cs => exact .inr ⟨[], cs, .nil, rfl, rfl⟩
  | case5 c cs notLone notEscape notClose body rest split ih =>
    have plain := ne_escape notLone notEscape
    rw [split] at ih
    rcases ih with ih | ⟨body', rest', hbody, rfl, ih⟩
    · obtain ⟨rfl, rfl⟩ := Prod.mk.inj ih
      exact .inl rfl
    · obtain ⟨rfl, rfl⟩ := Prod.mk.inj ih
      exact .inr ⟨_, rest', .plain notClose plain hbody, rfl, rfl⟩

theorem splitLiteral_openBody {close : Char} {body : List Char} (h : OpenBody close body) :
    splitLiteral close body = (body, []) := by
  induction h with
  | nil => rfl
  | escape => rfl
  | plain hclose hescape _ ih => rw [splitLiteral_plain hescape hclose, ih]
  | escaped _ ih => rw [splitLiteral, ih]

theorem openBody_of_splitLiteral {close : Char} {text : List Char}
    (h : (splitLiteral close text).2 = []) : OpenBody close text := by
  fun_induction splitLiteral close text with
  | case1 => exact .nil
  | case2 => exact .escape
  | case3 c cs body rest split ih =>
    rw [split] at ih
    exact .escaped (ih h)
  | case4 cs => cases h
  | case5 c cs notLone notEscape notClose body rest split ih =>
    rw [split] at ih
    exact .plain notClose (ne_escape notLone notEscape) (ih h)

theorem splitLiteral_of_closed {quote : Char} (notEscape : quote ≠ '\\') {text : List Char}
    (h : IsClosed quote (quote :: text)) : ∃ body, splitLiteral quote text = (body, [quote]) := by
  obtain ⟨body, hbody, whole⟩ := h
  obtain rfl := (List.cons.inj whole).2
  exact ⟨body, splitLiteral_append notEscape hbody []⟩

theorem shows_verbatim {kind : Kind} (h : kind ≠ .string) (source : List Char) :
    Shows (verbatim kind source).kind (verbatim kind source).source
      (verbatim kind source).value := by
  rw [Shows, verbatim, if_neg h]

theorem readString_shows {quote : Char} (h : quote = '\'' ∨ quote = '"') (cs : List Char) :
    Shows (readString quote cs).1.kind (readString quote cs).1.source
      (readString quote cs).1.value := by
  have notEscape := quote_ne_escape h
  rcases splitLiteral_cases quote cs with split | ⟨body, rest, hbody, rfl, split⟩
  · have isOpen : ¬ IsClosed quote (quote :: cs) := by
      intro closed
      obtain ⟨body, again⟩ := splitLiteral_of_closed notEscape closed
      rw [split] at again
      exact absurd (Prod.mk.inj again).2 (List.cons_ne_nil _ _).symm
    simp only [readString, split, Shows, if_true]
    exact ⟨quote, h, .inr ⟨isOpen, rfl⟩⟩
  · simp only [readString, split, Shows, if_true]
    exact ⟨quote, h, .inl ⟨⟨body, hbody, rfl⟩, rfl⟩⟩

theorem readRegex_shows (cs : List Char) :
    Shows (readRegex cs).1.kind (readRegex cs).1.source (readRegex cs).1.value := by
  rw [readRegex]
  split <;> exact shows_verbatim (by decide) _

theorem readSlash_shows (afterOperand : Bool) (cs : List Char) :
    Shows (readSlash afterOperand cs).1.kind (readSlash afterOperand cs).1.source
      (readSlash afterOperand cs).1.value := by
  rw [readSlash.eq_def]
  split
  · exact shows_verbatim (by decide) _
  · split
    · exact shows_verbatim (by decide) _
    · exact readRegex_shows _

theorem read_shows (afterOperand : Bool) (c : Char) (cs : List Char) :
    Shows (read afterOperand c cs).1.kind (read afterOperand c cs).1.source
      (read afterOperand c cs).1.value := by
  rw [read]
  repeat' split
  · apply shows_verbatim
    split <;> decide
  · rename_i isQuote
    exact readString_shows isQuote cs
  · exact readSlash_shows afterOperand cs
  · exact shows_verbatim (by decide) _
  · exact shows_verbatim (by decide) _
  · exact shows_verbatim (by decide) _

end ScriptTokens.Lexeme
