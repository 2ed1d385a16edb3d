import Mathlib.Data.List.Induction
import ScriptTokens.Proofs.Config.Entries

/-!
# The last writer wins

Layers are made of writers: a set value, one variable of an environment, a file, a command line.
`Writer.Gives` tells which assignments a writer makes validly, by what is written in it. Step by
step, a writer gives a setting the value it assigns and leaves the settings it does not assign
(`value_write_of_gives`, `value_write_of_silent`). So a setting has the value of the last writer
that assigns it, whatever layers the writers came in.
-/

namespace ScriptTokens

open Toml

/-! ## Writers -/

inductive Writer
  | setting (key text : String)
  | named (name text : String)
  | file (files : FileTree) (path : String)
  | arguments (arguments : Arguments)

def Layer.writers : Layer → List Writer
  | .setting key text => [.setting key text]
  | .environment entries => entries.map fun (name, text) => .named name text
  | .file files path => [.file files path]
  | .arguments line => [.arguments line]

def Setting.NamedBy (name : String) (setting : Setting) : Prop :=
  ∃ capitals, name.toList = "DOCLEX_".toList ++ capitals ∧
    setting.key.toList = (Text.lowercase capitals).map fun c => if c = '_' then '-' else c

/-- A file holds the entries of the document that it is, if what they give settings fits. -/
def FileTree.Holds (files : FileTree) (path : String) (entries : Entries) : Prop :=
  ∃ text, files.read path = .ok text ∧ Toml.parse? text = some entries ∧ entries.Fit

inductive Writer.Gives : Writer → Assignment → Prop
  | setting {text : String} {assignment : Assignment} (written : assignment.Written text) :
    Gives (.setting assignment.setting.key text) assignment
  | named {name text : String} {assignment : Assignment}
    (names : assignment.setting.NamedBy name) (written : assignment.Written text) :
    Gives (.named name text) assignment
  | noColor {text : String} (filled : text ≠ "") : Gives (.named "NO_COLOR" text) (.color false)
  | file {files : FileTree} {path : String} {entries : Entries} {item : Item}
    {assignment : Assignment} (holds : files.Holds path entries)
    (found : entries.find? assignment.setting.fileKey = some item)
    (shows : item.Shows assignment) : Gives (.file files path) assignment
  | formatFlag {arguments : Arguments} {format : Format}
    (given : arguments.format = some format) : Gives (.arguments arguments) (.format format)
  | noColorFlag {arguments : Arguments} (given : arguments.noColor) :
    Gives (.arguments arguments) (.color false)
  | docsFlag {arguments : Arguments} (given : arguments.docs) :
    Gives (.arguments arguments) (.docsOnly true)

/-- The value of a setting behind some writers: that of the last one that assigns it, or the value
it had at the start if none does. -/
def IsLast (setting : Setting) (writers : List Writer) (start value : Assignment) : Prop :=
  (∃ before writer after, writers = before ++ writer :: after ∧ writer.Gives value ∧
    value.setting = setting ∧
    ∀ later ∈ after, ∀ assignment, later.Gives assignment → assignment.setting ≠ setting) ∨
  value = start ∧
    ∀ writer ∈ writers, ∀ assignment, writer.Gives assignment → assignment.setting ≠ setting

namespace Config

def write (config : Config) : Writer → Config
  | .setting key text => (config.set key text).1
  | .named name text => (config.setVariable name text).1
  | .file files path => (config.add (.file files path)).config
  | .arguments arguments => config.override arguments.overrides

def addAll (config : Config) (layers : List Layer) : Config :=
  layers.foldl (fun config layer => (config.add layer).config) config

theorem config_add (config : Config) (layer : Layer) :
    (config.add layer).config = layer.writers.foldl write config := by
  cases layer with
  | setting key text => rfl
  | environment environment =>
    induction environment generalizing config with
    | nil => rfl
    | cons entry more ih => exact ih _
  | file files path => rfl
  | arguments arguments => rfl

theorem addAll_eq (config : Config) (layers : List Layer) :
    config.addAll layers = (layers.flatMap Layer.writers).foldl write config := by
  induction layers generalizing config with
  | nil => rfl
  | cons layer more ih =>
    rw [List.flatMap_cons, List.foldl_append, ← config_add]
    exact ih _

/-! ## One writer -/

theorem set_of_written (config : Config) {text : String} {assignment : Assignment}
    (written : assignment.Written text) :
    config.set assignment.setting.key text = (config.assign assignment, []) := by
  simp only [set, Assignment.parse_eq_ok_iff.2 ⟨rfl, written⟩]

theorem gives_setting_iff {key text : String} {assignment : Assignment} :
    Writer.Gives (.setting key text) assignment ↔
      key = assignment.setting.key ∧ assignment.Written text := by
  constructor
  · rintro ⟨written⟩
    exact ⟨rfl, written⟩
  · rintro ⟨rfl, written⟩
    exact .setting written

theorem set_eq_or (config : Config) (key text : String) :
    (∃ assignment, Writer.Gives (.setting key text) assignment ∧
      config.set key text = (config.assign assignment, [])) ∨
    (∀ assignment, ¬Writer.Gives (.setting key text) assignment) ∧
      ∃ notice, config.set key text = (config, [notice]) := by
  simp only [gives_setting_iff, ← Assignment.parse_eq_ok_iff]
  cases parsed : Assignment.parse key text with
  | ok assignment => exact .inl ⟨assignment, rfl, by simp only [set, parsed]⟩
  | error notice => exact .inr ⟨by simp, notice, by simp only [set, parsed]⟩

theorem set_historySize_iff (config : Config) (text : String) (size : Nat) :
    config.set "history-size" text = ({ config with historySize := size }, []) ↔
      IsSize text.toList size := by
  rw [← parseSize?_eq_some_iff]
  unfold set Assignment.parse
  cases parseSize? text <;> simp [assign]

theorem variableKey?_eq_some_iff {name : String} {setting : Setting} :
    variableKey? name = some setting.key ↔ setting.NamedBy name := by
  simp only [variableKey?, Text.stripStart?, Option.map_eq_some_iff,
    List.isPrefixOf?_eq_some_iff_append_eq, Setting.NamedBy]
  refine exists_congr fun capitals => and_congr eq_comm ?_
  rw [← String.toList_inj, String.toList_ofList, eq_comm]

theorem setVariable_of_namedBy (config : Config) {name : String} {setting : Setting}
    (names : setting.NamedBy name) (text : String) :
    config.setVariable name text = config.set setting.key text := by
  have key := variableKey?_eq_some_iff.2 names
  have notColor : name ≠ "NO_COLOR" := by
    rintro rfl
    cases setting <;> exact absurd key (by decide)
  have notLog : name ≠ "DOCLEX_LOG" := by
    rintro rfl
    cases setting <;> exact absurd key (by decide)
  simp [setVariable, notColor, notLog, key]

theorem setVariable_of_foreign (config : Config) {name text : String}
    (notColor : ¬(name = "NO_COLOR" ∧ text ≠ ""))
    (foreign : ∀ setting : Setting, ¬setting.NamedBy name) :
    (config.setVariable name text).1 = config := by
  unfold setVariable
  rw [if_neg notColor]
  split
  · rfl
  split
  next key named =>
    obtain ⟨assignment, gives, -⟩ | ⟨-, notice, kept⟩ := config.set_eq_or key text
    · obtain ⟨rfl, -⟩ := gives_setting_iff.1 gives
      exact absurd (variableKey?_eq_some_iff.1 named) (foreign _)
    · rw [kept]
  next => rfl

theorem setVariable_eq_or (config : Config) (name text : String) :
    (∃ assignment, Writer.Gives (.named name text) assignment ∧
      config.setVariable name text = (config.assign assignment, [])) ∨
    (∀ assignment, ¬Writer.Gives (.named name text) assignment) ∧
      (config.setVariable name text).1 = config := by
  by_cases noColor : name = "NO_COLOR" ∧ text ≠ ""
  · refine .inl ⟨.color false, ?_, by rw [setVariable, if_pos noColor]⟩
    obtain ⟨rfl, filled⟩ := noColor
    exact .noColor filled
  by_cases known : ∃ setting : Setting, setting.NamedBy name
  · obtain ⟨setting, names⟩ := known
    rw [setVariable_of_namedBy config names]
    obtain ⟨assignment, gives, written⟩ | ⟨none, notice, kept⟩ := config.set_eq_or setting.key text
    · obtain ⟨same, fits⟩ := gives_setting_iff.1 gives
      exact .inl ⟨assignment, .named (Setting.key_injective same ▸ names) fits, written⟩
    · refine .inr ⟨fun assignment gives => ?_, by rw [kept]⟩
      cases gives with
      | named names' fits =>
        refine none assignment (gives_setting_iff.2 ⟨?_, fits⟩)
        exact Option.some.inj ((variableKey?_eq_some_iff.2 names).symm.trans
          (variableKey?_eq_some_iff.2 names'))
      | noColor filled => exact noColor ⟨rfl, filled⟩
  · refine .inr ⟨fun assignment gives => ?_,
      config.setVariable_of_foreign noColor (not_exists.1 known)⟩
    cases gives with
    | named names fits => exact known ⟨_, names⟩
    | noColor filled => exact noColor ⟨rfl, filled⟩

theorem mergeFile_of_holds (config : Config) {files : FileTree} {path : String}
    {entries : Entries} (holds : files.Holds path entries) :
    ∃ overrides, Overrides.ofEntries? entries = some overrides ∧
      config.mergeFile files path = .ok (config.override overrides) := by
  obtain ⟨text, read, parsed, fit⟩ := holds
  obtain ⟨overrides, of⟩ := Overrides.exists_ofEntries?_iff.2 fit
  exact ⟨overrides, of, by simp [mergeFile, read, Overrides.parse?, parsed, of]⟩

theorem exists_holds_of_mergeFile {config merged : Config} {files : FileTree} {path : String}
    (h : config.mergeFile files path = .ok merged) :
    ∃ entries overrides, files.Holds path entries ∧
      Overrides.ofEntries? entries = some overrides ∧ merged = config.override overrides := by
  unfold mergeFile at h
  split at h
  · cases h
  next text read =>
    split at h
    next overrides parsed =>
      obtain ⟨entries, parsed, of⟩ := Option.bind_eq_some_iff.1 parsed
      cases h
      exact ⟨entries, overrides, ⟨text, read, parsed,
        Overrides.exists_ofEntries?_iff.1 ⟨overrides, of⟩⟩, of, rfl⟩
    · cases h

theorem add_file_eq_or (config : Config) (files : FileTree) (path : String) :
    (∃ entries, files.Holds path entries) ∧ (config.add (.file files path)).failure = none ∨
    (∀ entries, ¬files.Holds path entries) ∧
      ∃ failure, config.add (.file files path) = ⟨config, [], some failure⟩ := by
  cases h : config.mergeFile files path with
  | ok merged =>
    obtain ⟨entries, overrides, holds, -⟩ := exists_holds_of_mergeFile h
    exact .inl ⟨⟨entries, holds⟩, by simp only [add, h]⟩
  | error failure =>
    refine .inr ⟨fun entries holds => ?_, failure, by simp only [add, h]⟩
    obtain ⟨overrides, -, merged⟩ := config.mergeFile_of_holds holds
    rw [merged] at h
    cases h

theorem value?_overrides {arguments : Arguments} {setting : Setting} {assignment : Assignment} :
    arguments.overrides.value? setting = some assignment ↔
      Writer.Gives (.arguments arguments) assignment ∧ assignment.setting = setting := by
  constructor
  · intro h
    cases setting with
    | format =>
      obtain ⟨format, given, rfl⟩ := Option.map_eq_some_iff.1 h
      exact ⟨.formatFlag given, rfl⟩
    | color =>
      by_cases given : arguments.noColor <;>
        simp only [Arguments.overrides, Overrides.value?, given] at h <;> cases h
      exact ⟨.noColorFlag given, rfl⟩
    | docsOnly =>
      by_cases given : arguments.docs <;>
        simp only [Arguments.overrides, Overrides.value?, given] at h <;> cases h
      exact ⟨.docsFlag given, rfl⟩
    | historySize => cases h
  · rintro ⟨gives, rfl⟩
    cases gives <;> simp [Arguments.overrides, Overrides.value?, Assignment.setting, *]

theorem value_write_of_gives (config : Config) {writer : Writer} {assignment : Assignment}
    (gives : writer.Gives assignment) :
    (config.write writer).value assignment.setting = assignment := by
  cases writer with
  | setting key text =>
    cases gives with | setting written =>
    rw [write, set_of_written config written]
    exact config.value_assign_self assignment
  | named name text =>
    cases gives with
    | named names written =>
      rw [write, setVariable_of_namedBy config names, set_of_written config written]
      exact config.value_assign_self assignment
    | noColor filled =>
      rw [write, setVariable, if_pos ⟨rfl, filled⟩]
      rfl
  | file files path =>
    cases gives with | file holds found shows =>
    obtain ⟨overrides, of, merged⟩ := config.mergeFile_of_holds holds
    simp only [write, add, merged, value_override,
      (Overrides.value?_eq_some_iff of).2 ⟨_, found, shows⟩, Option.getD_some]
  | arguments line =>
    rw [write, value_override, value?_overrides.2 ⟨gives, rfl⟩, Option.getD_some]

theorem value_write_of_silent (config : Config) {writer : Writer} {setting : Setting}
    (silent : ∀ assignment, writer.Gives assignment → assignment.setting ≠ setting) :
    (config.write writer).value setting = config.value setting := by
  cases writer with
  | setting key text =>
    obtain ⟨assignment, gives, written⟩ | ⟨-, notice, kept⟩ := config.set_eq_or key text
    · rw [write, written]
      exact config.value_assign_of_ne (silent assignment gives)
    · rw [write, kept]
  | named name text =>
    obtain ⟨assignment, gives, written⟩ | ⟨-, kept⟩ := config.setVariable_eq_or name text
    · rw [write, written]
      exact config.value_assign_of_ne (silent assignment gives)
    · rw [write, kept]
  | file files path =>
    rw [write, add]
    split
    next merged h =>
      obtain ⟨entries, overrides, holds, of, rfl⟩ := exists_holds_of_mergeFile h
      rw [value_override]
      cases shown : overrides.value? setting with
      | none => rfl
      | some assignment =>
        obtain rfl := Overrides.setting_of_value? shown
        obtain ⟨item, found, shows⟩ := (Overrides.value?_eq_some_iff of).1 shown
        exact absurd rfl (silent assignment (.file holds found shows))
    next => rfl
  | arguments line =>
    rw [write, value_override]
    cases shown : line.overrides.value? setting with
    | none => rfl
    | some assignment =>
      obtain ⟨gives, same⟩ := value?_overrides.1 shown
      exact absurd same (silent assignment gives)

/-! ## Writers one after the other -/

theorem value_foldl_write_of_silent (config : Config) {writers : List Writer} {setting : Setting}
    (silent : ∀ writer ∈ writers, ∀ assignment, writer.Gives assignment →
      assignment.setting ≠ setting) :
    (writers.foldl write config).value setting = config.value setting := by
  induction writers generalizing config with
  | nil => rfl
  | cons writer more ih =>
    obtain ⟨first, silent⟩ := List.forall_mem_cons.1 silent
    rw [List.foldl_cons, ih _ silent, value_write_of_silent config first]

theorem value_foldl_write_of_isLast (config : Config) {writers : List Writer} {setting : Setting}
    {value : Assignment} (last : IsLast setting writers (config.value setting) value) :
    (writers.foldl write config).value setting = value := by
  obtain ⟨before, writer, after, rfl, gives, rfl, silent⟩ | ⟨rfl, silent⟩ := last
  -- what was written before the last writer does not matter
  · rw [List.foldl_append, List.foldl_cons, value_foldl_write_of_silent _ silent,
      value_write_of_gives _ gives]
  · exact value_foldl_write_of_silent config silent

end Config

theorem exists_isLast (setting : Setting) (writers : List Writer) (start : Assignment) :
    ∃ value, IsLast setting writers start value := by
  -- the induction takes the last writer away: it settles the value or leaves the setting alone
  induction writers using List.reverseRecOn with
  | nil => exact ⟨start, .inr ⟨rfl, by simp⟩⟩
  | append_singleton writers writer ih =>
    by_cases assigns : ∃ assignment, writer.Gives assignment ∧ assignment.setting = setting
    · obtain ⟨assignment, gives, same⟩ := assigns
      exact ⟨assignment, .inl ⟨writers, writer, [], rfl, gives, same, by simp⟩⟩
    have silent : ∀ assignment, writer.Gives assignment → assignment.setting ≠ setting :=
      fun assignment gives same => assigns ⟨assignment, gives, same⟩
    obtain ⟨value, ⟨before, last, after, rfl, gives, same, later⟩ | ⟨rfl, none⟩⟩ := ih
    · refine ⟨value, .inl ⟨before, last, after ++ [writer], by simp, gives, same, ?_⟩⟩
      exact List.forall_mem_append.2 ⟨later, List.forall_mem_singleton.2 silent⟩
    · exact ⟨value, .inr ⟨rfl, List.forall_mem_append.2 ⟨none, List.forall_mem_singleton.2 silent⟩⟩⟩

namespace Config

theorem value_addAll (config : Config) (layers : List Layer) (setting : Setting)
    (value : Assignment) :
    (config.addAll layers).value setting = value ↔
      IsLast setting (layers.flatMap Layer.writers) (config.value setting) value := by
  rw [addAll_eq]
  refine ⟨?_, value_foldl_write_of_isLast config⟩
  rintro rfl
  obtain ⟨value, last⟩ := exists_isLast setting (layers.flatMap Layer.writers)
    (config.value setting)
  rwa [value_foldl_write_of_isLast config last]

/-- Each setting ends up with the value that the last writer to assign it gave it, or with its
value at the start. A text that stands for no value of its key changes nothing, nor does a file
that is missing, no document, or has one entry that does not fit. -/
theorem last_valid_writer_wins (config : Config) :
    (∀ layers setting value, (config.addAll layers).value setting = value ↔
      IsLast setting (layers.flatMap Layer.writers) (config.value setting) value) ∧
    (∀ key text,
      (∃ assignment, Writer.Gives (.setting key text) assignment ∧
        config.set key text = (config.assign assignment, [])) ∨
      (∀ assignment, ¬Writer.Gives (.setting key text) assignment) ∧
        ∃ notice, config.set key text = (config, [notice])) ∧
    (∀ name text,
      (∃ assignment, Writer.Gives (.named name text) assignment ∧
        config.setVariable name text = (config.assign assignment, [])) ∨
      (∀ assignment, ¬Writer.Gives (.named name text) assignment) ∧
        (config.setVariable name text).1 = config) ∧
    (∀ files path,
      (∃ entries, files.Holds path entries) ∧ (config.add (.file files path)).failure = none ∨
      (∀ entries, ¬files.Holds path entries) ∧
        ∃ failure, config.add (.file files path) = ⟨config, [], some failure⟩) ∧
    ∀ text size, config.set "history-size" text = ({ config with historySize := size }, []) ↔
      IsSize text.toList size :=
  ⟨config.value_addAll, config.set_eq_or, config.setVariable_eq_or, config.add_file_eq_or,
    config.set_historySize_iff⟩

example :
    default.addAll [.setting "history-size" "+007",
      .environment [("DOCLEX_FORMAT", "JSON"), ("DOCLEX_HISTORY_SIZE", "12x"), ("NO_COLOR", "1")],
      .file .empty "missing.toml", .arguments { Arguments.none with docs := true }] =
      ⟨.json, false, true, 7⟩ := by
  decide

end Config

end ScriptTokens
