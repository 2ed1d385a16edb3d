import ScriptTokens.Proofs.Json.Pretty
import ScriptTokens.Proofs.Report

namespace ScriptTokens

namespace Json.Value

def isObject : Value → Bool
  | object _ => true
  | _ => false

def isArray : Value → Bool
  | array _ => true
  | _ => false

def text? : Value → Option String
  | string text => some text
  | _ => none

def size? : Value → Option Nat
  | number (.ofNat size) 0 => some size
  | _ => none

@[simp] theorem size?_number (size : Nat) : (number size 0).size? = some size := rfl

def elements? : Value → Option (List Value)
  | array elements => some elements
  | _ => none

def member? (name : String) : Value → Option Value
  | object members => (members.find? (·.1 == name)).map (·.2)
  | _ => none

@[simp] theorem member?_nil (name : String) : (object []).member? name = none := rfl

@[simp] theorem member?_cons (name key : String) (member : Value) (more : List (String × Value)) :
    (object ((key, member) :: more)).member? name =
      if key = name then some member else (object more).member? name := by
  by_cases same : key = name <;> simp [member?, same]

def optional? {α : Type} (name : String) (read? : Value → Option α) (value : Value) :
    Option (Option α) :=
  match value.member? name with
  | none => some none
  | some member => (read? member).map some

end Json.Value

open Json (Value)

def Span.ofJson? (value : Value) : Option Span := do
  let start ← (← value.member? "start").size?
  let stop ← (← value.member? "end").size?
  return ⟨start, stop⟩

def Token.ofJson? (value : Value) : Option Token := do
  let kind ← Kind.ofName? (← (← value.member? "kind").text?)
  let text ← (← value.member? "value").text?
  let line ← value.optional? "line" Value.size?
  let span ← Span.ofJson? (← value.member? "span")
  return ⟨kind, text, line, span⟩

namespace Report

def contents (report : Report) : Option String × List Token := (report.path, report.tokens)

def ofJson? (value : Value) : Option (Option String × List Token) := do
  let path ← value.optional? "path" Value.text?
  let tokens ← (← (← value.member? "tokens").elements?).mapM Token.ofJson?
  return (path, tokens)

/-- The reports that a document tells of: those of an array, or a single one. -/
def ofDocument? : Value → Option (List (Option String × List Token))
  | .array reports => reports.mapM ofJson?
  | report => (ofJson? report).map fun contents => [contents]

end Report

theorem Span.ofJson?_value (span : Span) :
    ofJson? (.object [("start", .number span.start 0), ("end", .number span.stop 0)]) =
      some span := by
  simp [ofJson?]

theorem Token.ofJson?_value (token : Token) : ofJson? token.toJson.value = some token := by
  obtain ⟨kind, value, line, span⟩ := token
  cases line <;>
    simp [toJson, ofJson?, Json.value, Json.memberValues, Value.text?, Value.optional?,
      Kind.ofName?_name, Span.ofJson?_value]

namespace Report

theorem ofJson?_value (report : Report) : ofJson? report.toJson.value = some report.contents := by
  obtain ⟨path, source, tokens⟩ := report
  have read : tokens.mapM (Token.ofJson? ∘ Json.value ∘ Token.toJson) = some tokens := by
    rw [mapM_eq_pure fun token _ => token.ofJson?_value, List.map_id']
    rfl
  cases path <;>
    simp [toJson, ofJson?, contents, Json.value, Json.memberValues, Value.text?, Value.optional?,
      Value.elements?, Json.values_eq_map, read]

def StandsAlone (reports : List Report) : Prop := ∃ report, reports = [report] ∧ report.path = none

theorem document_cases (reports : List Report) :
    (∃ report, reports = [report] ∧ report.path = none ∧ document reports = report.toJson) ∨
      (¬ StandsAlone reports ∧ document reports = .array (reports.map toJson)) := by
  unfold document
  split
  · rename_i report
    cases path : report.path with
    | none => exact .inl ⟨report, rfl, path, rfl⟩
    | some name =>
      refine .inr ⟨?_, rfl⟩
      rintro ⟨other, same, unnamed⟩
      rw [← List.singleton_inj.mp same, path] at unnamed
      cases unnamed
  · rename_i notSingle
    refine .inr ⟨?_, rfl⟩
    rintro ⟨report, single, -⟩
    exact notSingle report single

theorem document_decodes (reports : List Report) :
    ofDocument? (document reports).value = some (reports.map contents) ∧
      ((document reports).value.isObject = true ↔ StandsAlone reports) ∧
      ((document reports).value.isArray = true ↔ ¬ StandsAlone reports) := by
  rcases document_cases reports with ⟨report, rfl, unnamed, written⟩ | ⟨other, written⟩
  · have alone : StandsAlone [report] := ⟨report, rfl, unnamed⟩
    have read := report.ofJson?_value
    rw [written]
    rw [toJson, Json.value] at read ⊢
    rw [ofDocument?, read]
    · simp [alone, Value.isObject, Value.isArray]
    · simp
  · have read : reports.mapM (ofJson? ∘ Json.value ∘ toJson) = some (reports.map contents) :=
      mapM_eq_pure fun report _ => report.ofJson?_value
    rw [written, Json.value, Json.values_eq_map, List.map_map, ofDocument?, List.mapM_map, read]
    simp [other, Value.isObject, Value.isArray]

theorem render_json {config : Config} (h : config.format = .json) (reports : List Report) :
    render reports config = .ok ((document reports).pretty ++ "\n") := by
  rw [render, h]

/-- JSON output is a document that tells the reports, and which of the two forms it has. -/
theorem render_decodes :
    (∀ (reports : List Report) (config : Config), config.format = .json →
      ∃ (text : String) (value : Value), render reports config = .ok text ∧
        Json.read? text = some value ∧ ofDocument? value = some (reports.map contents) ∧
        (value.isObject = true ↔ StandsAlone reports) ∧
        (value.isArray = true ↔ ¬ StandsAlone reports)) ∧
    ∀ (reports others : List Report) (config otherConfig : Config), config.format = .json →
      otherConfig.format = .json → render reports config = render others otherConfig →
      reports.map contents = others.map contents := by
  constructor
  · intro reports config json
    exact ⟨_, _, render_json json reports, Json.read?_pretty _, document_decodes reports⟩
  · intro reports others config otherConfig json otherJson same
    rw [render_json json, render_json otherJson] at same
    have read := Json.read?_pretty (document reports)
    rw [Except.ok.inj same, Json.read?_pretty] at read
    have decoded := (document_decodes reports).1
    rw [← Option.some.inj read, (document_decodes others).1] at decoded
    exact (Option.some.inj decoded).symm

theorem render_decodes_behind_comment :
    let json : Config := { Config.default with format := .json }
    let reports := [ofSource none "'\x01\"' /** d */ // x" false]
    let others := [ofSource none "'\x01\"' /** d */ // y" false]
    json.format = .json ∧ render reports json = render others json ∧
      reports.map contents = others.map contents ∧
      ∃ text value, render reports json = .ok text ∧ Json.read? text = some value ∧
        value.isObject = true := by
  intro json reports others
  have same : render reports json = render others json := by
    decide +kernel
  obtain ⟨text, value, written, read, -, object, -⟩ := render_decodes.1 reports json rfl
  exact ⟨rfl, same, render_decodes.2 reports others json json rfl rfl same, text, value, written,
    read, object.mpr ⟨_, rfl, rfl⟩⟩

end Report

end ScriptTokens
