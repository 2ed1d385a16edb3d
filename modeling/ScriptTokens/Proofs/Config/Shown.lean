import ScriptTokens.Program
import ScriptTokens.Proofs.Config.Entries
import ScriptTokens.Proofs.Toml.Written

namespace ScriptTokens

open Toml (PlainLine)

theorem fromUTF8?_toUTF8 (text : String) : String.fromUTF8? text.toUTF8 = some text := by
  unfold String.fromUTF8?
  rw [String.toUTF8_eq_toByteArray, dif_pos text.isValidUTF8]
  rfl

theorem FileTree.read_of_lookup {files : FileTree} {path text : String}
    (holds : files.lookup path = .ok (.file text.toUTF8)) : files.read path = .ok text := by
  simp only [read, holds, fromUTF8?_toUTF8]

theorem Format.isPlainChar_of_mem_name (format : Format) :
    ∀ c ∈ format.name.toList, Toml.isPlainChar c := by
  cases format <;> exact List.all_eq_true.1 rfl

namespace Config

def lines (config : Config) (small : config.historySize < Toml.integerLimit) : List PlainLine :=
  [{ key := "format"
     item := .string config.format.name
     value := '"' :: (config.format.name.toList ++ ['"'])
     filled := by decide
     bare := List.all_eq_true.1 rfl
     written := .string config.format.isPlainChar_of_mem_name },
   { key := "color"
     item := .boolean config.color
     value := (switchText config.color).toList
     filled := by decide
     bare := List.all_eq_true.1 rfl
     written := .boolean config.color },
   { key := "docs_only"
     item := .boolean config.docsOnly
     value := (switchText config.docsOnly).toList
     filled := by decide
     bare := List.all_eq_true.1 rfl
     written := .boolean config.docsOnly },
   { key := "history_size"
     item := .integer config.historySize
     value := (toString config.historySize).toList
     filled := by decide
     bare := List.all_eq_true.1 rfl
     written := .integer small }]

theorem exists_failure_iff (config : Config) :
    (∃ failure, config.toToml = .error failure) ↔ Nat.pow 2 63 - 1 < config.historySize := by
  have limit : Toml.integerLimit = 9223372036854775808 := rfl
  have power : Nat.pow 2 63 = 9223372036854775808 := rfl
  unfold toToml
  split <;> simp <;> omega

theorem exists_lines {config : Config} {text : String} (shown : config.toToml = .ok text) :
    ∃ small, text.toList = (config.lines small).flatMap PlainLine.text := by
  unfold toToml at shown
  split at shown
  next small =>
    refine ⟨small, ?_⟩
    cases shown
    simp [lines, PlainLine.text]
  next => cases shown

theorem ofEntries?_lines (config : Config) (small : config.historySize < Toml.integerLimit) :
    Overrides.ofEntries? ((config.lines small).map PlainLine.entry) =
      some ⟨config.format, config.color, config.docsOnly, config.historySize⟩ := by
  have format : Format.ofItem? (.string config.format.name) = some config.format :=
    Format.ofItem?_eq_some_iff.2 (.format config.format)
  rw [Overrides.ofEntries?_eq_some_iff_fields]
  simp [lines, PlainLine.entry, Toml.Entries.setting?, Toml.Entries.find?, format,
    Toml.Item.toBool?, Toml.Item.toNat?]

theorem mergeFile_shown {config : Config} {text : String} (shown : config.toToml = .ok text)
    {files : FileTree} {path : String} (holds : files.lookup path = .ok (.file text.toUTF8))
    (other : Config) : other.mergeFile files path = .ok config := by
  obtain ⟨small, spelled⟩ := exists_lines shown
  have distinct : ((config.lines small).map PlainLine.key).Nodup := by
    simp [lines]
  simp only [mergeFile, FileTree.read_of_lookup holds, Overrides.parse?,
    Toml.parse?_lines distinct spelled, Option.bind_some, config.ofEntries?_lines small]
  rfl

theorem perform_showConfig {invocation : Invocation} {arguments : Arguments} {loaded : Config}
    (load : load invocation.files invocation.environment arguments.config = .ok loaded)
    (asked : arguments.showConfig) :
    Program.perform invocation arguments =
      (loaded.override arguments.overrides).toToml.map fun text => (text, "", none) := by
  unfold Program.perform
  rw [load]
  simp only [bind, Except.bind, asked, if_true]
  cases (loaded.override arguments.overrides).toToml <;> rfl

/-- A configuration can be shown unless its history is beyond the integers of a document, and
what is shown, put into a file, turns every other configuration into the one shown. -/
theorem shown_config_merges_back (config : Config) :
    ((∃ failure, config.toToml = .error failure) ↔ Nat.pow 2 63 - 1 < config.historySize) ∧
    (∀ text, config.toToml = .ok text → ∀ files path,
      FileTree.lookup files path = .ok (.file text.toUTF8) →
      ∀ other, mergeFile other files path = .ok config) ∧
    ∀ invocation arguments loaded,
      load invocation.files invocation.environment arguments.config = .ok loaded →
      loaded.override arguments.overrides = config → arguments.showConfig = true →
      Program.perform invocation arguments = config.toToml.map fun text => (text, "", none) := by
  refine ⟨config.exists_failure_iff, fun text shown files path holds => mergeFile_shown shown holds,
    fun invocation arguments loaded load same asked => ?_⟩
  rw [← same]
  exact perform_showConfig load asked

theorem shown_config_merges_back_at_limit :
    (∃ text : String,
      toToml ⟨.json, false, true, 9223372036854775807⟩ = .ok text ∧
      (FileTree.empty.insert "config.toml" (.file text.toUTF8)).lookup "config.toml" =
        .ok (.file text.toUTF8) ∧
      default.mergeFile (FileTree.empty.insert "config.toml" (.file text.toUTF8)) "config.toml" =
        .ok ⟨.json, false, true, 9223372036854775807⟩) ∧
    load .empty [] none = .ok default ∧
    Program.perform ⟨[], [], .empty, .empty⟩ { Arguments.none with showConfig := true } =
      default.toToml.map fun text => (text, "", none) := by
  have found (text : String) :
      (FileTree.empty.insert "config.toml" (.file text.toUTF8)).lookup "config.toml" =
        .ok (.file text.toUTF8) := rfl
  have load : load .empty [] none = .ok default := rfl
  refine ⟨⟨_, rfl, found _, ?_⟩, load, ?_⟩
  · exact (shown_config_merges_back ⟨.json, false, true, 9223372036854775807⟩).2.1 _ rfl _ _
      (found _) default
  · exact (shown_config_merges_back default).2.2 _ _ default load rfl rfl

end Config

end ScriptTokens
