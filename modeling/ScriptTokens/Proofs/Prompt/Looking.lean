import Mathlib.Data.List.Forall2
import ScriptTokens.Prompt.State
import ScriptTokens.Proofs.Text.Slice
import ScriptTokens.Proofs.Text.Words
import ScriptTokens.Proofs.TokenStream.Lookahead

namespace ScriptTokens

/-! ## One element -/

def AsksFor (element name : String) : Prop := name ≠ "" ∧ element = ":" ++ name

def AsksInVain (element name : String) : Prop :=
  AsksFor element name ∧ ∀ kind : Kind, kind.name ≠ name

/-- What an element asks of a token: the kind it names, or else itself as the value. -/
inductive Fits : String → Token → Prop
  | kind (token : Token) : Fits (":" ++ token.kind.name) token
  | value {token : Token} : (∀ name, ¬ AsksFor token.value name) → Fits token.value token

theorem asksFor_iff {element name : String} :
    AsksFor element name ↔ name ≠ "" ∧ element.toList = ':' :: name.toList := by
  rw [AsksFor, ← String.toList_inj, String.toList_append]
  rfl

theorem AsksFor.name_eq {element name other : String} (h : AsksFor element name)
    (also : AsksFor element other) : name = other := by
  have same := (asksFor_iff.mp h).2.symm.trans (asksFor_iff.mp also).2
  exact String.toList_inj.mp (List.cons.inj same).2

theorem Kind.asksFor_name (kind : Kind) : AsksFor (":" ++ kind.name) kind.name :=
  ⟨by cases kind <;> decide, rfl⟩

theorem Kind.ofName?_eq_none_iff {name : String} :
    Kind.ofName? name = none ↔ ∀ kind : Kind, kind.name ≠ name := by
  rw [Kind.ofName?, List.find?_eq_none]
  constructor
  · intro other kind
    simpa using other kind kind.mem_all
  · intro other kind _
    simpa using other kind

namespace Expectation

theorem parse_of_asksFor {element name : String} (h : AsksFor element name) :
    parse element = (Kind.ofName? name).elim (.error ⟨name⟩) fun kind => .ok (.kind kind) := by
  obtain ⟨nonempty, split⟩ := asksFor_iff.mp h
  obtain ⟨c, cs, chars⟩ := List.exists_cons_of_ne_nil (mt String.toList_eq_nil_iff.mp nonempty)
  have whole : String.ofList (c :: cs) = name := by rw [← chars, String.ofList_toList]
  simp only [parse, split, chars, whole]
  cases Kind.ofName? name <;> rfl

theorem parse_of_not_asksFor {element : String} (h : ∀ name, ¬ AsksFor element name) :
    parse element = .ok (.value element) := by
  unfold parse
  split
  · rename_i c cs split
    have asks : AsksFor element (String.ofList (c :: cs)) := by
      rw [asksFor_iff, String.toList_ofList]
      exact ⟨by simp, split⟩
    exact absurd asks (h _)
  · rfl

theorem parse_cases (element : String) :
    (∃ kind : Kind, AsksFor element kind.name ∧ parse element = .ok (.kind kind)) ∨
      (∃ name, AsksInVain element name ∧ parse element = .error ⟨name⟩) ∨
      ((∀ name, ¬ AsksFor element name) ∧ parse element = .ok (.value element)) := by
  by_cases asks : ∃ name, AsksFor element name
  · obtain ⟨name, asks⟩ := asks
    rw [parse_of_asksFor asks]
    cases named : Kind.ofName? name with
    | none => exact .inr (.inl ⟨name, ⟨asks, Kind.ofName?_eq_none_iff.mp named⟩, rfl⟩)
    | some kind =>
      obtain rfl : kind.name = name := by simpa using List.find?_some named
      exact .inl ⟨kind, asks, rfl⟩
  · rw [not_exists] at asks
    exact .inr (.inr ⟨asks, parse_of_not_asksFor asks⟩)

theorem parse_eq_error_iff {element : String} {fault : UnknownKind} :
    parse element = .error fault ↔ AsksInVain element fault.name := by
  rcases parse_cases element with ⟨kind, asks, reads⟩ | ⟨name, vain, reads⟩ | ⟨plain, reads⟩
  · rw [reads]
    exact iff_of_false nofun fun other => other.2 kind (asks.name_eq other.1)
  · rw [reads]
    constructor
    · rintro ⟨⟩
      exact vain
    · intro other
      rw [vain.1.name_eq other.1]
  · rw [reads]
    exact iff_of_false nofun fun vain => plain _ vain.1

theorem exists_parse_iff {element : String} :
    (∃ expectation, parse element = .ok expectation) ↔ ∀ name, ¬ AsksInVain element name := by
  constructor
  · rintro ⟨expectation, reads⟩ name vain
    have refused : parse element = .error ⟨name⟩ := parse_eq_error_iff.mpr vain
    rw [refused] at reads
    cases reads
  · intro useful
    cases reads : parse element with
    | error fault => exact absurd (parse_eq_error_iff.mp reads) (useful _)
    | ok expectation => exact ⟨expectation, rfl⟩

theorem accepts_iff {element : String} {expectation : Expectation}
    (h : parse element = .ok expectation) (token : Token) :
    expectation.accepts token = true ↔ Fits element token := by
  rcases parse_cases element with ⟨kind, asks, reads⟩ | ⟨name, vain, reads⟩ | ⟨plain, reads⟩
  · obtain rfl := Except.ok.inj (h.symm.trans reads)
    rw [accepts, beq_iff_eq]
    constructor
    · rintro rfl
      rw [asks.2]
      exact .kind token
    · intro fits
      cases fits with
      | kind => exact Kind.name_injective (token.kind.asksFor_name.name_eq asks)
      | value plain => exact absurd asks (plain _)
  · rw [reads] at h
    cases h
  · obtain rfl := Except.ok.inj (h.symm.trans reads)
    rw [accepts, beq_iff_eq]
    constructor
    · rintro rfl
      exact .value plain
    · intro fits
      cases fits with
      | kind => exact absurd token.kind.asksFor_name (plain _)
      | value => rfl

end Expectation

/-! ## All elements -/

section
variable {α β ε : Type} {read : α → Except ε β} {items : List α}

theorem map_eq_error_iff {f : α → β} {result : Except ε α} {fault : ε} :
    result.map f = .error fault ↔ result = .error fault := by
  cases result <;> simp [Except.map]

theorem mapM_cons_of_ok {first : α} {value : β} (h : read first = .ok value) (items : List α) :
    (first :: items).mapM read = (items.mapM read).map (value :: ·) := by
  rw [List.mapM_cons, h]
  cases items.mapM read <;> rfl

theorem mapM_cons_of_error {first : α} {fault : ε} (h : read first = .error fault)
    (items : List α) : (first :: items).mapM read = .error fault := by
  rw [List.mapM_cons, h]
  rfl

theorem exists_first_fault {fault : ε} (h : items.mapM read = .error fault) :
    ∃ front item rest, items = front ++ item :: rest ∧
      (∀ earlier ∈ front, ∃ value, read earlier = .ok value) ∧ read item = .error fault := by
  induction items with
  | nil => cases h
  | cons first items ih =>
    cases started : read first with
    | error other =>
      obtain rfl := Except.error.inj ((mapM_cons_of_error started items).symm.trans h)
      exact ⟨[], first, items, rfl, nofun, started⟩
    | ok value =>
      rw [mapM_cons_of_ok started, map_eq_error_iff] at h
      obtain ⟨front, item, rest, rfl, earlier, fails⟩ := ih h
      exact ⟨first :: front, item, rest, rfl, List.forall_mem_cons.mpr ⟨⟨value, started⟩, earlier⟩,
        fails⟩

theorem mapM_eq_error_of_first {front : List α} {item : α} {fault : ε}
    (earlier : ∀ a ∈ front, ∃ value, read a = .ok value) (fails : read item = .error fault)
    (rest : List α) : (front ++ item :: rest).mapM read = .error fault := by
  induction front with
  | nil => exact mapM_cons_of_error fails rest
  | cons first front ih =>
    obtain ⟨⟨value, started⟩, earlier⟩ := List.forall_mem_cons.mp earlier
    rw [List.cons_append, mapM_cons_of_ok started, ih earlier]
    rfl

theorem forall₂_of_mapM {values : List β} (h : items.mapM read = .ok values) :
    List.Forall₂ (read · = .ok ·) items values := by
  induction items generalizing values with
  | nil =>
    obtain rfl := Except.ok.inj h
    exact .nil
  | cons item items ih =>
    rw [List.mapM_cons, Text.bind_eq_ok_iff] at h
    obtain ⟨value, first, h⟩ := h
    obtain ⟨more, others, h⟩ := Text.bind_eq_ok_iff.mp h
    obtain rfl := Except.ok.inj h
    exact .cons first (ih others)

theorem exists_ok_of_mapM {values : List β} (h : items.mapM read = .ok values) :
    ∀ item ∈ items, ∃ value, read item = .ok value := by
  have both : List.Forall₂ (fun item value => (∃ value, read item = .ok value) ∧
      read item = .ok value) items values :=
    (forall₂_of_mapM h).imp fun _ value reads => ⟨⟨value, reads⟩, reads⟩
  exact ((List.forall₂_and_left items values).mp both).1

end

/-- No more elements than tokens, and each fits the token at its own place. -/
structure Precedes (elements : List String) (tokens : List Token) : Prop where
  length_le : elements.length ≤ tokens.length
  fits : ∀ i (h : i < elements.length) (h' : i < tokens.length), Fits elements[i] tokens[i]

theorem precedes_nil (tokens : List Token) : Precedes [] tokens :=
  ⟨Nat.zero_le _, fun _ h => absurd h (Nat.not_lt_zero _)⟩

theorem not_precedes_nil (element : String) (elements : List String) :
    ¬ Precedes (element :: elements) [] :=
  fun precedes => Nat.not_succ_le_zero _ precedes.length_le

theorem precedes_cons_iff {element : String} {elements : List String} {token : Token}
    {tokens : List Token} :
    Precedes (element :: elements) (token :: tokens) ↔
      Fits element token ∧ Precedes elements tokens := by
  constructor
  · rintro ⟨short, fits⟩
    refine ⟨fits 0 (Nat.zero_lt_succ _) (Nat.zero_lt_succ _), Nat.le_of_succ_le_succ short, ?_⟩
    intro i h h'
    exact fits (i + 1) (Nat.succ_lt_succ h) (Nat.succ_lt_succ h')
  · rintro ⟨first, short, fits⟩
    refine ⟨Nat.succ_le_succ short, ?_⟩
    intro i h h'
    cases i with
    | zero => exact first
    | succ i => exact fits i (Nat.lt_of_succ_lt_succ h) (Nat.lt_of_succ_lt_succ h')

namespace TokenStream

theorem meets_iff_precedes {stream : TokenStream} {elements : List String}
    {pattern : List Expectation}
    (h : List.Forall₂ (Expectation.parse · = .ok ·) elements pattern) :
    stream.Meets pattern ↔ Precedes elements stream.tokens := by
  induction h generalizing stream with
  | nil => exact iff_of_true (meets_nil stream) (precedes_nil stream.tokens)
  | cons first _ ih =>
    rw [meets_cons]
    rcases advanced : stream.advance with ⟨_ | token, next⟩
    · rw [tokens_of_advance_none advanced]
      exact iff_of_false nofun (not_precedes_nil _ _)
    · rw [tokens_of_advance_some advanced, precedes_cons_iff, ← ih,
        ← Expectation.accepts_iff first]
      simp

end TokenStream

namespace Prompt
open Text

def elements (pattern : String) : List String := (Text.words pattern.toList).map String.ofList

def FirstInVain (elements : List String) (name : String) : Prop :=
  ∃ front element rest, elements = front ++ element :: rest ∧
    (∀ earlier ∈ front, ∀ other, ¬ AsksInVain earlier other) ∧ AsksInVain element name

theorem runLook_eq (source pattern : String) :
    runLook source pattern = ((elements pattern).mapM Expectation.parse).map fun expectations =>
      ((TokenStream.ofText source).look expectations).1 := by
  rw [elements, List.mapM_map]
  rfl

theorem splits_iff {pattern : String} {parts : List (List Char)} :
    Splits pattern.toList parts ↔ parts = (elements pattern).map (·.toList) := by
  have same : (elements pattern).map (·.toList) = Text.words pattern.toList := by
    simp [elements, Function.comp_def]
  rw [same, ← Text.words_eq_iff, eq_comm]

theorem runLook_eq_error_iff {source pattern name : String} :
    runLook source pattern = .error ⟨name⟩ ↔ FirstInVain (elements pattern) name := by
  rw [runLook_eq, map_eq_error_iff]
  constructor
  · intro fails
    obtain ⟨front, element, rest, split, earlier, refused⟩ := exists_first_fault fails
    exact ⟨front, element, rest, split,
      fun e member => Expectation.exists_parse_iff.mp (earlier e member),
      Expectation.parse_eq_error_iff.mp refused⟩
  · rintro ⟨front, element, rest, split, earlier, vain⟩
    rw [split]
    exact mapM_eq_error_of_first
      (fun e member => Expectation.exists_parse_iff.mpr (earlier e member))
      (Expectation.parse_eq_error_iff.mpr vain) rest

theorem exists_runLook {source pattern : String}
    (useful : ∀ element ∈ elements pattern, ∀ name, ¬ AsksInVain element name) :
    ∃ found, runLook source pattern = .ok found ∧
      (found = true ↔ Precedes (elements pattern) (tokenize source)) := by
  rw [runLook_eq]
  cases read : (elements pattern).mapM Expectation.parse with
  | error fault =>
    obtain ⟨front, element, rest, split, -, refused⟩ := exists_first_fault read
    have member : element ∈ elements pattern := by simp [split]
    exact absurd (Expectation.parse_eq_error_iff.mp refused) (useful element member _)
  | ok expectations =>
    refine ⟨_, rfl, ?_⟩
    rw [TokenStream.look_eq_true_iff, TokenStream.meets_iff_precedes (forall₂_of_mapM read)]
    rfl

theorem exists_runLook_fault_iff {source pattern : String} :
    (∃ fault, runLook source pattern = .error fault) ↔
      ∃ element ∈ elements pattern, ∃ name, AsksInVain element name := by
  constructor
  · rintro ⟨fault, fails⟩
    obtain ⟨front, element, rest, split, -, vain⟩ := runLook_eq_error_iff.mp fails
    exact ⟨element, by simp [split], fault.name, vain⟩
  · rintro ⟨element, member, name, vain⟩
    rw [runLook_eq]
    cases read : (elements pattern).mapM Expectation.parse with
    | error fault => exact ⟨fault, rfl⟩
    | ok expectations =>
      have reads := exists_ok_of_mapM read element member
      exact absurd vain (Expectation.exists_parse_iff.mp reads name)

/-- A lookahead fails exactly when an element of the pattern asks for a kind that does not exist,
and names the first such; otherwise the elements are held against the first tokens of the
source. -/
theorem runLook_tells_elements (source pattern : String) :
    ∃ elements : List String,
      (∀ parts, Splits pattern.toList parts ↔ parts = elements.map (·.toList)) ∧
      ((∃ fault, runLook source pattern = .error fault) ↔
        ∃ element ∈ elements, ∃ name, AsksInVain element name) ∧
      (∀ name, runLook source pattern = .error ⟨name⟩ ↔ FirstInVain elements name) ∧
      ((∀ element ∈ elements, ∀ name, ¬ AsksInVain element name) →
        ∃ found, runLook source pattern = .ok found ∧
          (found = true ↔ Precedes elements (tokenize source))) :=
  ⟨elements pattern, fun _ => splits_iff, exists_runLook_fault_iff,
    fun _ => runLook_eq_error_iff, exists_runLook⟩

end Prompt

end ScriptTokens
