import ScriptTokens.Proofs.Program.Outcome

namespace ScriptTokens

theorem Config.unstyled_toToml {config : Config} {text : String}
    (shown : config.toToml = .ok text) : Unstyled text := by
  unfold toToml at shown
  split at shown
  · obtain rfl := Except.ok.inj shown
    have name : Unstyled config.format.name := by
      cases config.format <;> decide
    have switch (value : Bool) : Unstyled (switchText value) := by
      cases value <;> decide
    simp +decide only [unstyled_append_iff, name, switch, unstyled_toString, and_self]
  · cases shown

theorem Failure.unstyled_unreadable {path : String} (h : Unstyled path) (fault : ReadFault) :
    Unstyled (message (.unreadable path fault)) := by
  have told : Unstyled fault.message := by
    cases fault <;> decide
  change Unstyled ("cannot read " ++ path ++ ": " ++ fault.message)
  simp +decide [h, told]

namespace Program

theorem unstyled_errorLine_iff {plain : Bool} {failure : Failure} (h : Unstyled failure.message) :
    Unstyled (errorLine plain failure) ↔ plain = true := by
  cases plain with
  | true => simp +decide [errorLine, h]
  | false => simp +decide [errorLine]

variable {invocation : Invocation} {arguments : Arguments}

theorem Asked.unstyled_path {inputs : List Report.Input} (asked : Asked invocation arguments inputs)
    (paths : ∀ path ∈ arguments.files, Unstyled path) :
    ∀ input ∈ inputs, ∀ name ∈ input.path, Unstyled name := by
  cases asked with
  | typed => exact List.forall_mem_singleton.mpr fun name named => by cases named
  | listed untyped inOrder =>
    generalize arguments.files = listed at inOrder paths
    induction inOrder with
    | nil => simp
    | cons first _ ih =>
      rw [List.forall_mem_cons] at paths
      refine List.forall_mem_cons.mpr ⟨fun name named => ?_, ih paths.2⟩
      rw [first.1, Option.mem_some_iff] at named
      exact named ▸ paths.1

theorem Rendered.unstyled {output : String} (rendered : Rendered invocation arguments output)
    (off : (effective invocation arguments).color = false)
    (paths : ∀ path ∈ arguments.files, Unstyled path) : Unstyled output := by
  cases rendered with
  | configuration asked shown => exact Config.unstyled_toToml shown
  | reports unasked asked rendered =>
    apply Report.unstyled_render ?_ ?_ off rendered
    · exact List.forall_mem_map.mpr fun input _ => ⟨_, _, _, rfl⟩
    · exact List.forall_mem_map.mpr (asked.unstyled_path paths)

theorem Obstacle.unstyled_message {loaded : Config} {failure : Failure}
    (obstacle : Obstacle invocation arguments failure)
    (load : Config.load invocation.files invocation.environment arguments.config = .ok loaded)
    (paths : ∀ path ∈ arguments.files, Unstyled path) : Unstyled failure.message := by
  obtain ⟨-, rfl, -⟩ | ⟨-, -, path, listed, fault, rfl, -⟩ := obstacle.of_load load
  · decide
  · exact Failure.unstyled_unreadable (paths path listed) fault

/-- With colour off the output is plain. What is said about a failure is plain only with the flag
or the variable against colour. -/
theorem uncolored_run {loaded : Config}
    (parsed : CommandLine.parse invocation.arguments (configVariable invocation.environment) =
      .ok arguments)
    (load : Config.load invocation.files invocation.environment arguments.config = .ok loaded)
    (off : (loaded.override arguments.overrides).color = false)
    (quiet : ¬EntersPrompt invocation arguments)
    (paths : ∀ path ∈ arguments.files, Unstyled path) :
    Unstyled (run invocation).output ∧
      (Unstyled (run invocation).errors ↔ (run invocation).code = 0 ∨ arguments.noColor = true ∨
        (Config.environmentValue? invocation.environment "NO_COLOR").isSome = true) := by
  rw [effective_of_load load] at off
  have silent : Unstyled "" := by decide
  rw [run_of_parse parsed, runWith]
  obtain ⟨output, performed, rendered, -⟩ | ⟨failure, failed, obstacle⟩ := perform_eq_or quiet
  · rw [performed]
    simpa [silent] using rendered.unstyled off paths
  · rw [failed]
    refine ⟨silent, (unstyled_errorLine_iff (obstacle.unstyled_message load paths)).trans ?_⟩
    simp [plainErrors]

theorem uncolored_run_with_escapes :
    let files := FileTree.empty.insert "a.js" (.file "\x1b '\x1b[1m'".toUTF8)
    let invocation : Invocation := ⟨["a.js"], [("DOCLEX_COLOR", "off")], files, .empty⟩
    let arguments := { Arguments.none with files := ["a.js"] }
    let loaded := { Config.default with color := false }
    CommandLine.parse invocation.arguments (configVariable invocation.environment) =
      .ok arguments ∧
    Config.load invocation.files invocation.environment arguments.config = .ok loaded ∧
    (loaded.override arguments.overrides).color = false ∧
    ¬EntersPrompt invocation arguments ∧
    (∀ path ∈ arguments.files, Unstyled path) ∧ Unstyled (run invocation).output ∧
    (run invocation).output =
      "==> a.js\n     1:1 operator    \\u\x7b1b\x7d\n     1:3 string      \\u\x7b1b\x7d[1m\n" := by
  intro files invocation arguments loaded
  have parsed : CommandLine.parse invocation.arguments (configVariable invocation.environment) =
      .ok arguments := by
    decide +kernel
  have load : Config.load invocation.files invocation.environment arguments.config =
      .ok loaded := by
    decide +kernel
  have quiet : ¬EntersPrompt invocation arguments := fun enters => absurd enters.1 (by decide)
  have paths : ∀ path ∈ arguments.files, Unstyled path := by
    decide
  exact ⟨parsed, load, rfl, quiet, paths, (uncolored_run parsed load rfl quiet paths).1,
    by decide +kernel⟩

/-- Colour is off and nothing given holds an escape character, but the words about a missing file
are painted. -/
theorem uncolored_run_painted_failure :
    let invocation : Invocation := ⟨["missing.js"], [("DOCLEX_COLOR", "0")], .empty, .empty⟩
    let arguments := { Arguments.none with files := ["missing.js"] }
    let loaded := { Config.default with color := false }
    CommandLine.parse invocation.arguments (configVariable invocation.environment) =
      .ok arguments ∧
    Config.load invocation.files invocation.environment arguments.config = .ok loaded ∧
    (loaded.override arguments.overrides).color = false ∧
    ¬EntersPrompt invocation arguments ∧
    (∀ argument ∈ invocation.arguments, Unstyled argument) ∧
    (∀ entry ∈ invocation.environment, Unstyled entry.1 ∧ Unstyled entry.2) ∧
    ¬Unstyled (run invocation).errors := by
  intro invocation arguments loaded
  refine ⟨?_, ?_, rfl, fun enters => absurd enters.1 (by decide), ?_⟩
  all_goals decide +kernel

end Program

end ScriptTokens
