import Mathlib.Data.List.Basic
import ScriptTokens.Config.Layer
import ScriptTokens.Proofs.Text.Digits

namespace ScriptTokens

inductive Setting
  | format
  | color
  | docsOnly
  | historySize
  deriving DecidableEq, Repr

namespace Setting

def key : Setting → String
  | format => "format"
  | color => "color"
  | docsOnly => "docs-only"
  | historySize => "history-size"

theorem key_injective : key.Injective := by
  intro setting other same
  cases setting <;> cases other <;> simp [key] at same ⊢

def fileKey : Setting → String
  | format => "format"
  | color => "color"
  | docsOnly => "docs_only"
  | historySize => "history_size"

end Setting

def Assignment.setting : Assignment → Setting
  | .format _ => .format
  | .color _ => .color
  | .docsOnly _ => .docsOnly
  | .historySize _ => .historySize

namespace Config

def value (config : Config) : Setting → Assignment
  | .format => .format config.format
  | .color => .color config.color
  | .docsOnly => .docsOnly config.docsOnly
  | .historySize => .historySize config.historySize

theorem value_assign_self (config : Config) (assignment : Assignment) :
    (config.assign assignment).value assignment.setting = assignment := by
  cases assignment <;> rfl

theorem value_assign_of_ne (config : Config) {assignment : Assignment} {setting : Setting}
    (other : assignment.setting ≠ setting) :
    (config.assign assignment).value setting = config.value setting := by
  cases assignment <;> cases setting <;> simp [Assignment.setting, assign, value] at other ⊢

end Config

def switchWords : Bool → List String
  | true => ["1", "true", "yes", "on"]
  | false => ["0", "false", "no", "off"]

def IsSize (text : List Char) (size : Nat) : Prop :=
  ∃ digits, (text = digits ∨ text = '+' :: digits) ∧ digits ≠ [] ∧
    (∀ c ∈ digits, c.isDigit) ∧ Nat.ofDigitChars 10 digits 0 = size ∧ size < Nat.pow 2 64

def Assignment.Written (text : String) : Assignment → Prop
  | .format named => asciiLowercase text = named.name
  | .color value | .docsOnly value => asciiLowercase text ∈ switchWords value
  | .historySize size => IsSize text.toList size

namespace Format

theorem ofName?_eq_some_iff {name : String} {format : Format} :
    ofName? name = some format ↔ name = format.name := by
  constructor
  · intro h
    unfold ofName? at h
    split at h <;> cases h <;> rfl
  · rintro rfl
    cases format <;> rfl

theorem parse_eq_ok_iff {text : String} {format : Format} :
    Format.parse text = .ok format ↔ asciiLowercase text = format.name := by
  rw [← ofName?_eq_some_iff]
  unfold Format.parse
  split <;> simp [*]

end Format

theorem parseSwitch?_eq_some_iff {text : String} {value : Bool} :
    parseSwitch? text = some value ↔ asciiLowercase text ∈ switchWords value := by
  constructor
  · intro h
    unfold parseSwitch? at h
    split at h <;> simp only [Option.some.injEq, reduceCtorEq] at h <;> subst h <;>
      simp [switchWords, *]
  · intro h
    cases value <;>
      · simp only [switchWords, List.mem_cons, List.not_mem_nil, or_false] at h
        rcases h with h | h | h | h <;> simp [parseSwitch?, h]

theorem parseSize?_eq_some_iff {text : String} {size : Nat} :
    parseSize? text = some size ↔ IsSize text.toList size := by
  have read (digits : List Char) :
      (if digits.isEmpty || !digits.all Char.isDigit then none
        else if decimalValue digits < sizeLimit then some (decimalValue digits)
        else none) = some size ↔
      digits ≠ [] ∧ (∀ c ∈ digits, c.isDigit) ∧ Nat.ofDigitChars 10 digits 0 = size ∧
        size < Nat.pow 2 64 := by
    have limit : sizeLimit = Nat.pow 2 64 := rfl
    rw [← decimalValue_eq, limit]
    split <;> grind
  unfold parseSize? IsSize
  simp only [read]
  split
  next digits behind =>
    rw [behind]
    constructor
    · exact fun h => ⟨digits, .inr rfl, h⟩
    · rintro ⟨digits', rfl | same, h⟩
      · exact absurd (h.2.1 '+' List.mem_cons_self) (by decide)
      · cases same
        exact h
  next unsigned =>
    constructor
    · exact fun h => ⟨text.toList, .inl rfl, h⟩
    · rintro ⟨digits, rfl | signed, h⟩
      · exact h
      · exact absurd signed (unsigned digits)

theorem Assignment.parse_eq_ok_iff {key text : String} {assignment : Assignment} :
    Assignment.parse key text = .ok assignment ↔
      key = assignment.setting.key ∧ assignment.Written text := by
  constructor
  · intro h
    have read {value : Option Assignment} {notice : Notice}
        (h : value.elim (.error notice) .ok = Except.ok assignment) : value = some assignment := by
      cases value <;> cases h
      rfl
    unfold Assignment.parse at h
    split at h
    · split at h <;> cases h
      exact ⟨rfl, Format.parse_eq_ok_iff.1 ‹_›⟩
    · obtain ⟨value, parsed, rfl⟩ := Option.map_eq_some_iff.1 (read h)
      exact ⟨rfl, parseSwitch?_eq_some_iff.1 parsed⟩
    · obtain ⟨value, parsed, rfl⟩ := Option.map_eq_some_iff.1 (read h)
      exact ⟨rfl, parseSwitch?_eq_some_iff.1 parsed⟩
    · obtain ⟨size, parsed, rfl⟩ := Option.map_eq_some_iff.1 (read h)
      exact ⟨rfl, parseSize?_eq_some_iff.1 parsed⟩
    · cases h
  · rintro ⟨rfl, written⟩
    cases assignment with
    | format named =>
      simp [Assignment.parse, setting, Setting.key, Format.parse_eq_ok_iff.2 written]
    | color value =>
      simp [Assignment.parse, setting, Setting.key, parseSwitch?_eq_some_iff.2 written]
    | docsOnly value =>
      simp [Assignment.parse, setting, Setting.key, parseSwitch?_eq_some_iff.2 written]
    | historySize size =>
      simp [Assignment.parse, setting, Setting.key, parseSize?_eq_some_iff.2 written]

end ScriptTokens
