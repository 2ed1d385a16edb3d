import ScriptTokens.Proofs.Text.Digits
import ScriptTokens.Text.Escaped

namespace ScriptTokens.Text

inductive EscapeState
  | plain
  | escape
  | opening
  | number (value : Nat)

def unescapeLetter? : Char → Option Char
  | '0' => some '\x00'
  | 't' => some '\t'
  | 'r' => some '\r'
  | 'n' => some '\n'
  | '\\' => some '\\'
  | '"' => some '"'
  | '\'' => some '\''
  | _ => none

def unescapeFrom : EscapeState → List Char → Option (List Char)
  | .plain, [] => some []
  | .escape, [] | .opening, [] | .number _, [] => none
  | .plain, c :: cs =>
    if c = '\\' then unescapeFrom .escape cs else (unescapeFrom .plain cs).map (c :: ·)
  | .escape, c :: cs =>
    if c = 'u' then unescapeFrom .opening cs
    else (unescapeLetter? c).bind fun d => (unescapeFrom .plain cs).map (d :: ·)
  | .opening, c :: cs => if c = '\x7b' then unescapeFrom (.number 0) cs else none
  | .number value, c :: cs =>
    if c = '\x7d' then (unescapeFrom .plain cs).map (Char.ofNat value :: ·)
    else (hexValue? c).bind fun digit => unescapeFrom (.number (value * 16 + digit)) cs

def unescape (text : List Char) : Option (List Char) := unescapeFrom .plain text

theorem unescapeFrom_digits {digits : List Char}
    (h : ∀ c ∈ digits, ∃ digit, hexValue? c = some digit) (value : Nat) (rest : List Char) :
    unescapeFrom (.number value) (digits ++ rest) =
      unescapeFrom (.number
        (digits.foldl (fun value c => value * 16 + (hexValue? c).getD 0) value)) rest := by
  induction digits generalizing value with
  | nil => rfl
  | cons c digits ih =>
    rw [List.forall_mem_cons] at h
    obtain ⟨⟨digit, read⟩, more⟩ := h
    have notClose : c ≠ '\x7d' := by
      rintro rfl
      cases read
    rw [List.cons_append, unescapeFrom, if_neg notClose, read, Option.bind_some, ih more,
      List.foldl_cons, read, Option.getD_some]

theorem unescapeFrom_byNumber (c : Char) (rest : List Char) :
    unescapeFrom .plain (byNumber c ++ rest) = (unescapeFrom .plain rest).map (c :: ·) := by
  have digits : ∀ d ∈ hexDigits c.toNat, ∃ digit, hexValue? d = some digit :=
    fun _ member => exists_hexValue?_of_mem_toDigits member
  have value : Toml.digitsValue 16 (hexDigits c.toNat) = c.toNat :=
    digitsValue_toDigits (by decide) (by decide) _
  rw [Toml.digitsValue] at value
  have shape : byNumber c ++ rest =
      '\\' :: 'u' :: '\x7b' :: (hexDigits c.toNat ++ '\x7d' :: rest) := by
    simp [byNumber]
  rw [shape, unescapeFrom, if_pos rfl, unescapeFrom, if_pos rfl, unescapeFrom, if_pos rfl,
    unescapeFrom_digits digits, value, unescapeFrom, if_pos rfl, Char.ofNat_toNat]

theorem unescapeFrom_letter {letter c : Char} (h : unescapeLetter? letter = some c)
    (rest : List Char) :
    unescapeFrom .plain ('\\' :: letter :: rest) = (unescapeFrom .plain rest).map (c :: ·) := by
  have notNumber : letter ≠ 'u' := by
    rintro rfl
    cases h
  rw [unescapeFrom, if_pos rfl, unescapeFrom, if_neg notNumber, h, Option.bind_some]

inductive Escape (c : Char) : List Char → Prop
  | letter {letter : Char} : unescapeLetter? letter = some c → Escape c ['\\', letter]
  | number : Escape c (byNumber c)
  | plain : c ≠ '\\' → Escape c [c]

theorem Escape.unescapeFrom {c : Char} {text : List Char} (h : Escape c text)
    (rest : List Char) :
    unescapeFrom .plain (text ++ rest) = (unescapeFrom .plain rest).map (c :: ·) := by
  cases h with
  | letter read => exact unescapeFrom_letter read rest
  | number => exact unescapeFrom_byNumber c rest
  | plain notEscape => rw [List.singleton_append, Text.unescapeFrom, if_neg notEscape]

theorem escape_escapeChar (rule : EscapeRule) (c : Char) : Escape c (escapeChar rule c) := by
  have quoted {quote : Char} {marks : Bool} (read : unescapeLetter? quote = some quote)
      (h : (c = quote && marks) = true) : Escape c ['\\', quote] := by
    rw [Bool.and_eq_true, decide_eq_true_eq] at h
    obtain ⟨rfl, -⟩ := h
    exact .letter read
  unfold escapeChar
  iterate 4 refine iteInduction (by rintro rfl; exact .letter rfl) fun _ => ?_
  refine iteInduction (by rintro rfl; exact .letter rfl) fun notEscape => ?_
  -- the quotes, which not every convention escapes
  iterate 2 refine iteInduction (quoted rfl) fun _ => ?_
  split
  · exact .number
  split
  · exact .plain notEscape
  · exact .number

theorem unescapeFrom_flatMap (rule : EscapeRule) (text : List Char) :
    unescapeFrom .plain (text.flatMap (escapeChar rule)) = some text := by
  induction text with
  | nil => rfl
  | cons c text ih =>
    rw [List.flatMap_cons, (escape_escapeChar rule c).unescapeFrom, ih, Option.map_some]

theorem unescape_escapeValue (value : List Char) : unescape (escapeValue value) = some value := by
  cases value with
  | nil => rfl
  | cons c cs =>
    rw [unescape, escapeValue, (escape_escapeChar _ c).unescapeFrom, unescapeFrom_flatMap,
      Option.map_some]

end ScriptTokens.Text
