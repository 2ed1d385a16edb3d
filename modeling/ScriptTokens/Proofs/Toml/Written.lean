import ScriptTokens.Proofs.Lexeme.Literal
import ScriptTokens.Proofs.Lexeme.Standing
import ScriptTokens.Proofs.Text.Digits
import ScriptTokens.Toml.Document

namespace ScriptTokens.Toml
open Lexeme (Stops stops_cons takeWhile_of_stops LiteralBody splitLiteral_append)

/-! ## Values -/

def isPlainChar (c : Char) : Bool := isTextChar c && c != '"' && c != '\\'

theorem isPlainChar_iff {c : Char} :
    isPlainChar c = true ↔ isTextChar c = true ∧ c ≠ '"' ∧ c ≠ '\\' := by
  simp only [isPlainChar, Bool.and_eq_true, bne_iff_ne, and_assoc]

inductive Item.WrittenAs : Item → List Char → Prop
  | string {text : String} (plain : ∀ c ∈ text.toList, isPlainChar c) :
    WrittenAs (.string text) ('"' :: (text.toList ++ ['"']))
  | boolean (value : Bool) : WrittenAs (.boolean value) (if value then "true" else "false").toList
  | integer {n : Nat} (small : n < integerLimit) : WrittenAs (.integer n) (toString n).toList

theorem decodeString_plain (rule : StringRule) {cs : List Char} (plain : ∀ c ∈ cs, isPlainChar c) :
    decodeString rule .plain cs = some cs := by
  induction cs with
  | nil => rfl
  | cons c cs ih =>
    obtain ⟨first, more⟩ := List.forall_mem_cons.1 plain
    obtain ⟨isText, -, notEscape⟩ := isPlainChar_iff.1 first
    have notBreak : c ≠ '\n' ∧ c ≠ '\r' := by
      constructor <;> rintro rfl <;> exact absurd isText (by decide)
    simp [decodeString, StringState.step, StringState.stepPlain, isText, notEscape, notBreak,
      ih more]

theorem literalBody_plain {cs : List Char} (plain : ∀ c ∈ cs, isPlainChar c) :
    LiteralBody '"' cs := by
  induction cs with
  | nil => exact .nil
  | cons c cs ih =>
    obtain ⟨first, more⟩ := List.forall_mem_cons.1 plain
    obtain ⟨-, notQuote, notEscape⟩ := isPlainChar_iff.1 first
    exact .plain notQuote notEscape (ih more)

theorem readString?_plain {text : String} (plain : ∀ c ∈ text.toList, isPlainChar c)
    {rest : List Char} (behind : Stops (· == '"') rest) :
    readString? '"' (text.toList ++ '"' :: rest) = some (text, rest) := by
  have single : ['"', '"'].isPrefixOf (text.toList ++ '"' :: rest) = false := by
    cases cs : text.toList with
    | nil =>
      cases rest with
      | nil => rfl
      | cons c rest =>
        have notQuote : ('"' == c) = false :=
          beq_eq_false_iff_ne.2 (beq_eq_false_iff_ne.1 (behind c rfl)).symm
        simp only [List.nil_append, List.isPrefixOf, notQuote, Bool.false_and, Bool.and_false]
    | cons c cs' =>
      have first := isPlainChar_iff.1 (plain c (by simp [cs]))
      have notQuote : ('"' == c) = false := beq_eq_false_iff_ne.2 first.2.1.symm
      simp only [List.cons_append, List.isPrefixOf, notQuote, Bool.false_and]
  rw [readString?, if_neg (by simp [single]), readLine?]
  simp [splitLiteral_append (by decide) (literalBody_plain plain), decodeString_plain _ plain]

theorem readDigits_of_forall {digits : List Char} (filled : digits ≠ [])
    (all : ∀ c ∈ digits, c.isDigit) : readDigits Char.isDigit digits = some (digits, []) := by
  induction digits with
  | nil => exact absurd rfl filled
  | cons c digits ih =>
    obtain ⟨first, more⟩ := List.forall_mem_cons.1 all
    cases digits with
    | nil => simp [readDigits, first]
    | cons d digits =>
      have notJoined : d ≠ '_' := by
        rintro rfl
        exact absurd (more '_' List.mem_cons_self) (by decide)
      rw [readDigits, if_pos first, ih (by simp) more]
      simp [notJoined]

theorem readWhole_toString (n : Nat) :
    readWhole (toString n).toList = some ((toString n).toList, []) := by
  rw [readWhole, readDigits_of_forall (toString_ne_nil n) fun _ => isDigit_of_mem_toString]
  have alone : ¬((toString n).toList.head? = some '0' ∧ (toString n).toList.length ≠ 1) :=
    fun h => h.2 (length_of_head?_toString h.1)
  simp only [Option.bind_eq_bind, Option.bind_some, if_neg alone]
  rfl

theorem readInteger?_toString {n : Nat} (small : n < integerLimit) :
    readInteger? (toString n).toList = some (.integer n) := by
  have value : digitsValue 10 (toString n).toList = n := by
    rw [toList_toString, digitsValue_toDigits (by decide) (by decide)]
  have whole := readWhole_toString n
  -- so there is no sign, and no letter of another base
  have noLetter {c : Char} (letter : c.isDigit = false) : c ∉ (toString n).toList :=
    fun mem => by simp [isDigit_of_mem_toString mem] at letter
  generalize (toString n).toList = digits at *
  have unsigned : readSign digits = (false, digits) := by
    unfold readSign
    split
    · exact absurd List.mem_cons_self (noLetter (c := '-') (by decide))
    · exact absurd List.mem_cons_self (noLetter (c := '+') (by decide))
    · rfl
  unfold readInteger?
  split
  · exact absurd (by simp) (noLetter (c := 'x') (by decide))
  · exact absurd (by simp) (noLetter (c := 'o') (by decide))
  · exact absurd (by simp) (noLetter (c := 'b') (by decide))
  · simp [unsigned, whole, value, small]

theorem scalar?_toString {n : Nat} (small : n < integerLimit) :
    scalar? (toString n).toList = some (.integer n) := by
  have noWord {word : String} (c : Char) (mem : c ∈ word.toList) (letter : c.isDigit = false) :
      (toString n).toList ≠ word.toList := by
    intro same
    rw [← same] at mem
    simp [isDigit_of_mem_toString mem] at letter
  rw [scalar?, if_neg (noWord 't' (by decide) (by decide)),
    if_neg (noWord 'f' (by decide) (by decide)), readInteger?_toString small]
  rfl

theorem readScalar?_line {run rest : List Char} {item : Item}
    (inside : ∀ c ∈ run, isScalarChar c = true) (read : scalar? run = some item) :
    readScalar? (run ++ '\n' :: rest) = some (item, '\n' :: rest) := by
  have behind : Stops isScalarChar ('\n' :: rest) := stops_cons rfl rest
  have cut := takeWhile_of_stops inside behind
  rw [readScalar?, cut.1, cut.2]
  simp [read]

theorem readValue?_of_isScalarChar {c : Char} (scalar : isScalarChar c) (depth : Nat)
    (cs : List Char) : readValue? depth (c :: cs) = readScalar? (c :: cs) := by
  rw [readValue?.eq_def]
  split
  case h_5 => rfl
  all_goals
    rename_i same
    cases same
    exact absurd scalar (by decide)

theorem readValue?_written {item : Item} {cs : List Char} (written : item.WrittenAs cs)
    (depth : Nat) (rest : List Char) :
    readValue? depth (cs ++ '\n' :: rest) = some (item, '\n' :: rest) := by
  have scalar {run : List Char} (filled : run ≠ []) (inside : ∀ c ∈ run, isScalarChar c = true)
      (read : scalar? run = some item) :
      readValue? depth (run ++ '\n' :: rest) = some (item, '\n' :: rest) := by
    obtain ⟨c, cs, rfl⟩ := List.exists_cons_of_ne_nil filled
    rw [← readScalar?_line inside read, List.cons_append,
      readValue?_of_isScalarChar (inside c List.mem_cons_self)]
  cases written with
  | @string text plain =>
    have behind : Stops (· == '"') ('\n' :: rest) := stops_cons rfl rest
    rw [readValue?.eq_def]
    simp [readString?_plain plain behind]
  | boolean value =>
    cases value <;> exact scalar (by decide) (List.all_eq_true.1 rfl) rfl
  | @integer n small =>
    refine scalar (toString_ne_nil n) (fun c mem => ?_) (scalar?_toString small)
    simp [isScalarChar, Char.isAlphanum, isDigit_of_mem_toString mem]

/-! ## Lines -/

theorem skipSpace_cons {takes : Char → Bool} (noSpace : takes ' ' = false)
    (noTab : takes '\t' = false) {c : Char} (first : takes c = true) (cs : List Char) :
    skipSpace (c :: cs) = c :: cs := by
  have solid : c ≠ ' ' ∧ c ≠ '\t' := by
    constructor <;> rintro rfl <;> simp_all
  simp [skipSpace, solid]

structure PlainLine where
  key : String
  item : Item
  value : List Char
  filled : key.toList ≠ []
  bare : ∀ c ∈ key.toList, isKeyChar c
  written : item.WrittenAs value

namespace PlainLine

def text (line : PlainLine) : List Char :=
  line.key.toList ++ ' ' :: '=' :: ' ' :: (line.value ++ ['\n'])

def entry (line : PlainLine) : String × Item := (line.key, line.item)

theorem exists_cons (line : PlainLine) : ∃ c cs, line.key.toList = c :: cs ∧ isKeyChar c := by
  obtain ⟨c, cs, same⟩ := List.exists_cons_of_ne_nil line.filled
  exact ⟨c, cs, same, line.bare c (same ▸ List.mem_cons_self)⟩

theorem skipSpace_key (line : PlainLine) (rest : List Char) :
    skipSpace (line.key.toList ++ rest) = line.key.toList ++ rest := by
  obtain ⟨c, cs, same, first⟩ := line.exists_cons
  rw [same]
  exact skipSpace_cons rfl rfl first _

theorem readKey?_key (line : PlainLine) {rest : List Char} (behind : Stops isKeyChar rest) :
    readKey? (line.key.toList ++ rest) = some (line.key, rest) := by
  have cut := takeWhile_of_stops line.bare behind
  obtain ⟨c, cs, same, first⟩ := line.exists_cons
  rw [readKey?.eq_def]
  split
  case h_3 =>
    have starts : (line.key.toList ++ rest).head?.any isKeyChar := by simp [same, first]
    rw [if_pos starts, cut.1, cut.2, String.ofList_toList]
  all_goals
    rename_i quoted
    rw [same] at quoted
    cases quoted
    exact absurd first (by decide)

theorem readPath?_key (line : PlainLine) (parts : Nat) (rest : List Char) :
    readPath? (parts + 1) (line.key.toList ++ ' ' :: '=' :: rest) =
      some ([], line.key, '=' :: rest) := by
  have behind : Stops isKeyChar (' ' :: '=' :: rest) := stops_cons rfl _
  rw [readPath?, line.skipSpace_key, line.readKey?_key behind]
  rfl

end PlainLine

theorem Item.WrittenAs.skipSpace {item : Item} {cs : List Char} (written : item.WrittenAs cs)
    (rest : List Char) : skipSpace (' ' :: (cs ++ rest)) = cs ++ rest := by
  have space : Toml.skipSpace (' ' :: (cs ++ rest)) = Toml.skipSpace (cs ++ rest) := rfl
  rw [space]
  cases written with
  | string plain => rfl
  | boolean value => cases value <;> rfl
  | @integer n small =>
    obtain ⟨c, digits, same⟩ := List.exists_cons_of_ne_nil (toString_ne_nil n)
    have digit : c.isDigit := isDigit_of_mem_toString (same ▸ List.mem_cons_self)
    rw [same]
    exact skipSpace_cons (by decide) (by decide) digit _

theorem Draft.add_fresh {entries : Entries} {key : String} (fresh : entries.find? key = none)
    (item : Item) :
    Draft.add ⟨entries, []⟩ [] key item = some ⟨entries ++ [(key, item)], []⟩ := by
  simp [Draft.add, changeAt, addEntry, Entries.insert?, fresh]

theorem readLines?_line (line : PlainLine) {entries : Entries}
    (fresh : entries.find? line.key = none) (fuel : Nat) (rest : List Char) :
    readLines? (fuel + 1) ⟨entries, []⟩ (line.text ++ rest) =
      readLines? fuel ⟨entries ++ [line.entry], []⟩ rest := by
  have spelled : line.text ++ rest =
      line.key.toList ++ ' ' :: '=' :: ' ' :: (line.value ++ '\n' :: rest) := by
    simp [PlainLine.text]
  obtain ⟨c, cs, same, first⟩ := line.exists_cons
  -- a bare key begins neither a comment nor a header nor an empty line
  rw [spelled, readLines?.eq_def]
  simp only [line.skipSpace_key]
  split
  case h_7 =>
    have path := line.readPath?_key 78 (' ' :: (line.value ++ '\n' :: rest))
    rw [show nestingLimit = 78 + 1 from rfl, path]
    simp only [Option.bind_eq_bind, Option.bind_some, line.written.skipSpace,
      readValue?_written line.written, Draft.add_fresh fresh]
    rfl
  case h_1 nothing =>
    rw [same] at nothing
    cases nothing
  all_goals
    rename_i other
    rw [same] at other
    injection other with head
    subst head
    exact absurd first (by decide)

theorem readLines?_lines {lines : List PlainLine} {entries : Entries}
    (distinct : ((entries ++ lines.map PlainLine.entry).map Prod.fst).Nodup) {fuel : Nat}
    (enough : lines.length < fuel) :
    readLines? fuel ⟨entries, []⟩ (lines.flatMap PlainLine.text) =
      some ⟨entries ++ lines.map PlainLine.entry, []⟩ := by
  obtain ⟨fuel, rfl⟩ := Nat.exists_eq_succ_of_ne_zero (Nat.ne_of_gt (Nat.zero_lt_of_lt enough))
  induction lines generalizing entries fuel with
  | nil => simp [readLines?, skipSpace]
  | cons line lines ih =>
    have fresh : entries.find? line.key = none := by
      rw [Entries.find?, Option.map_eq_none_iff, List.find?_eq_none]
      intro entry mem same
      rw [List.map_append, List.nodup_append] at distinct
      exact distinct.2.2 entry.1 (List.mem_map_of_mem mem) line.key (by simp [PlainLine.entry])
        (beq_iff_eq.1 same)
    have less : lines.length < fuel := by simpa using enough
    obtain ⟨fuel, rfl⟩ := Nat.exists_eq_succ_of_ne_zero (Nat.ne_of_gt (Nat.zero_lt_of_lt less))
    rw [List.flatMap_cons, readLines?_line line fresh, ih (by simpa using distinct) fuel less]
    simp

theorem parse?_lines {lines : List PlainLine} (distinct : (lines.map PlainLine.key).Nodup)
    {text : String} (spelled : text.toList = lines.flatMap PlainLine.text) :
    parse? text = some (lines.map PlainLine.entry) := by
  have unmarked : dropMark text.toList = lines.flatMap PlainLine.text := by
    rw [spelled]
    cases lines with
    | nil => rfl
    | cons line lines =>
      obtain ⟨c, cs, same, first⟩ := line.exists_cons
      rw [List.flatMap_cons, PlainLine.text, same, dropMark.eq_def]
      split
      next mark =>
        injection mark with head
        subst head
        exact absurd first (by decide)
      next => rfl
  have enough : lines.length ≤ (lines.flatMap PlainLine.text).length := by
    clear unmarked distinct spelled
    induction lines with
    | nil => exact Nat.le_refl 0
    | cons line lines ih =>
      simp only [List.flatMap_cons, PlainLine.text, List.length_append, List.length_cons]
      omega
  have keys : (([] ++ lines.map PlainLine.entry).map Prod.fst).Nodup := by
    simpa [PlainLine.entry, Function.comp_def] using distinct
  simp only [parse?, unmarked]
  rw [readLines?_lines keys (Nat.lt_succ_of_le enough)]
  rfl

end ScriptTokens.Toml
