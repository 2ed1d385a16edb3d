import ScriptTokens.Proofs.Config.Loading
import ScriptTokens.Proofs.Config.Shown
import ScriptTokens.Proofs.Report.Output

/-!
# Outcomes

A run that does not enter the prompt writes all that was asked for, or nothing but why it cannot.
`Obstacle` lists what can stand in its way, whichever mode it runs in: a configuration file, the
size of a history that is to be shown, or one of the listed files. Without an obstacle the run
comes to `FullOutput`: a text that merges back into the configuration in effect, or the tokens of
its inputs in the order of the arguments.
-/

namespace ScriptTokens.Program

/-! ## What a run is asked for -/

def effective (invocation : Invocation) (arguments : Arguments) : Config :=
  Config.default.addAll
    (Config.loadedLayers invocation.files invocation.environment arguments.config ++
      [.arguments arguments])

def EntersPrompt (invocation : Invocation) (arguments : Arguments) : Prop :=
  startsPrompt arguments = true ∧ ∃ config,
    Config.load invocation.files invocation.environment arguments.config = .ok config

/-- What can stand in the way of a run, with the failure that tells of it. -/
inductive Obstacle (invocation : Invocation) (arguments : Arguments) : Failure → Prop
  | config {path : String} {failure : Failure}
    (required : path ∈
      Config.requiredFiles invocation.files invocation.environment arguments.config)
    (unmergeable : Config.Unmergeable invocation.files path failure) :
    Obstacle invocation arguments failure
  | oversized (asked : arguments.showConfig = true)
    (large : Nat.pow 2 63 - 1 < (effective invocation arguments).historySize) :
    Obstacle invocation arguments .oversizedHistory
  | source {path : String} {fault : ReadFault} (unasked : arguments.showConfig = false)
    (untyped : arguments.eval = none) (listed : path ∈ arguments.files)
    (unread : invocation.files.read path = .error fault) :
    Obstacle invocation arguments (.unreadable path fault)

inductive Asked (invocation : Invocation) (arguments : Arguments) : List Report.Input → Prop
  | typed {source : String} (typed : arguments.eval = some source) :
    Asked invocation arguments [⟨none, source⟩]
  | listed {inputs : List Report.Input} (untyped : arguments.eval = none)
    (inOrder : List.Forall₂ (fun path input =>
      input.path = some path ∧ invocation.files.read path = .ok input.source)
      arguments.files inputs) :
    Asked invocation arguments inputs

inductive FullOutput (invocation : Invocation) (arguments : Arguments) : String → Prop
  | configuration {text : String} (asked : arguments.showConfig = true)
    (mergesBack : ∀ files path, FileTree.lookup files path = .ok (.file text.toUTF8) →
      ∀ other, Config.mergeFile other files path = .ok (effective invocation arguments)) :
    FullOutput invocation arguments text
  | reports {inputs : List Report.Input} {text : String} (unasked : arguments.showConfig = false)
    (asked : Asked invocation arguments inputs)
    (told : Report.Output (effective invocation arguments) inputs text) :
    FullOutput invocation arguments text

/-! ## What a run renders -/

inductive Rendered (invocation : Invocation) (arguments : Arguments) : String → Prop
  | configuration {text : String} (asked : arguments.showConfig = true)
    (shown : (effective invocation arguments).toToml = .ok text) :
    Rendered invocation arguments text
  | reports {inputs : List Report.Input} {text : String} (unasked : arguments.showConfig = false)
    (asked : Asked invocation arguments inputs)
    (rendered : Report.render
      (inputs.map (·.report (effective invocation arguments).docsOnly))
      (effective invocation arguments) = .ok text) :
    Rendered invocation arguments text

theorem Rendered.full {invocation : Invocation} {arguments : Arguments} {text : String}
    (h : Rendered invocation arguments text) : FullOutput invocation arguments text := by
  cases h with
  | configuration asked shown =>
    exact .configuration asked fun files path holds other =>
      Config.mergeFile_shown shown holds other
  | @reports inputs _ unasked asked rendered =>
    obtain ⟨other, again, told⟩ := Report.exists_output (effective invocation arguments) inputs
    rw [rendered] at again
    obtain rfl := Except.ok.inj again
    exact .reports unasked asked told

def AllOrNothing (invocation : Invocation) (arguments : Arguments) : Prop :=
  (∃ output, perform invocation arguments = .ok (output, "", none) ∧
    Rendered invocation arguments output ∧ ∀ failure, ¬Obstacle invocation arguments failure) ∨
  ∃ failure, perform invocation arguments = .error failure ∧
    Obstacle invocation arguments failure

/-! ## Files -/

theorem reports_eq_or (files : FileTree) (docsOnly : Bool) (paths : List String) :
    (∃ inputs : List Report.Input,
      reports files docsOnly paths = .ok (inputs.map (·.report docsOnly)) ∧
      List.Forall₂ (fun path input =>
        input.path = some path ∧ files.read path = .ok input.source) paths inputs ∧
      ∀ path ∈ paths, ∀ fault, files.read path ≠ .error fault) ∨
    ∃ path ∈ paths, ∃ fault, files.read path = .error fault ∧
      reports files docsOnly paths = .error (.unreadable path fault) := by
  induction paths with
  | nil => exact .inl ⟨[], rfl, .nil, by simp⟩
  | cons path paths ih =>
    rw [reports, List.mapM_cons]
    cases read : files.read path with
    | error fault => exact .inr ⟨path, List.mem_cons_self, fault, read, rfl⟩
    | ok source =>
      obtain ⟨more, reported, inOrder, clear⟩ | ⟨other, listed, fault, unread, failed⟩ := ih
      · rw [reports] at reported
        refine .inl ⟨⟨some path, source⟩ :: more, ?_, .cons ⟨rfl, read⟩ inOrder,
          List.forall_mem_cons.mpr ⟨by simp [read], clear⟩⟩
        rw [reported]
        rfl
      · rw [reports] at failed
        refine .inr ⟨other, List.mem_cons_of_mem _ listed, fault, unread, ?_⟩
        rw [failed]
        rfl

theorem write_of_render {config : Config} {reports : List Report} {text : String}
    (rendered : Report.render reports config = .ok text) : write config reports = .ok text := by
  rw [write, rendered]
  rfl

/-! ## Modes -/

section

variable {invocation : Invocation} {arguments : Arguments}

theorem effective_of_load {loaded : Config}
    (load : Config.load invocation.files invocation.environment arguments.config = .ok loaded) :
    loaded.override arguments.overrides = effective invocation arguments := by
  obtain ⟨rfl, -⟩ := Config.eq_of_load load
  rw [effective, Config.addAll, Config.addAll, List.foldl_append]
  rfl

theorem Obstacle.of_load {loaded : Config} {failure : Failure}
    (load : Config.load invocation.files invocation.environment arguments.config = .ok loaded)
    (obstacle : Obstacle invocation arguments failure) :
    (arguments.showConfig = true ∧ failure = .oversizedHistory ∧
      Nat.pow 2 63 - 1 < (effective invocation arguments).historySize) ∨
    arguments.showConfig = false ∧ arguments.eval = none ∧ ∃ path ∈ arguments.files, ∃ fault,
      failure = .unreadable path fault ∧ invocation.files.read path = .error fault := by
  cases obstacle with
  | config required unmergeable =>
    exact absurd unmergeable ((Config.eq_of_load load).2 _ required _)
  | oversized asked large => exact .inl ⟨asked, rfl, large⟩
  | source unasked untyped listed unread =>
    exact .inr ⟨unasked, untyped, _, listed, _, rfl, unread⟩

variable {loaded : Config}
  (load : Config.load invocation.files invocation.environment arguments.config = .ok loaded)

include load

theorem perform_showing (asked : arguments.showConfig = true) :
    AllOrNothing invocation arguments := by
  have performed := Config.perform_showConfig load asked
  rw [effective_of_load load] at performed
  cases shown : (effective invocation arguments).toToml with
  | ok text =>
    rw [shown] at performed
    refine .inl ⟨text, performed, .configuration asked shown, fun failure obstacle => ?_⟩
    obtain ⟨-, -, large⟩ | ⟨unasked, -⟩ := obstacle.of_load load
    · obtain ⟨failure, failed⟩ := (Config.exists_failure_iff _).mpr large
      rw [shown] at failed
      cases failed
    · rw [asked] at unasked
      cases unasked
  | error failure =>
    rw [shown] at performed
    have large := (Config.exists_failure_iff _).mp ⟨failure, shown⟩
    have oversized : failure = .oversizedHistory := by
      unfold Config.toToml at shown
      split at shown <;> cases shown
      rfl
    subst oversized
    exact .inr ⟨_, performed, .oversized asked large⟩

theorem perform_typed (unasked : arguments.showConfig = false) {source : String}
    (typed : arguments.eval = some source) : AllOrNothing invocation arguments := by
  obtain ⟨text, rendered, -⟩ :=
    Report.exists_output (effective invocation arguments) [⟨none, source⟩]
  have single : Report.render
      [.ofSource none source (effective invocation arguments).docsOnly]
      (effective invocation arguments) = .ok text := rendered
  refine .inl ⟨text, ?_, .reports unasked (.typed typed) rendered, fun failure obstacle => ?_⟩
  · unfold perform
    rw [load]
    simp [bind, Except.bind, unasked, typed, effective_of_load load, write_of_render single]
    rfl
  · obtain ⟨asked, -⟩ | ⟨-, untyped, -⟩ := obstacle.of_load load
    · rw [unasked] at asked
      cases asked
    · rw [typed] at untyped
      cases untyped

theorem perform_listed (unasked : arguments.showConfig = false) (untyped : arguments.eval = none)
    (filled : arguments.files ≠ []) : AllOrNothing invocation arguments := by
  have performed : perform invocation arguments = do
      let all ← reports invocation.files (effective invocation arguments).docsOnly arguments.files
      return (← write (effective invocation arguments) all, "", none) := by
    unfold perform
    rw [load]
    simp [bind, Except.bind, unasked, untyped, effective_of_load load, filled]
  rw [AllOrNothing, performed]
  obtain ⟨inputs, reported, inOrder, clear⟩ | ⟨path, listed, fault, unread, failed⟩ :=
    reports_eq_or invocation.files (effective invocation arguments).docsOnly arguments.files
  · obtain ⟨text, rendered, -⟩ := Report.exists_output (effective invocation arguments) inputs
    rw [reported]
    refine .inl ⟨text, ?_, .reports unasked (.listed untyped inOrder) rendered,
      fun failure obstacle => ?_⟩
    · simp only [bind, Except.bind, write_of_render rendered]
      rfl
    · obtain ⟨asked, -⟩ | ⟨-, -, path, listed, fault, -, unread⟩ := obstacle.of_load load
      · rw [unasked] at asked
        cases asked
      · exact clear path listed fault unread
  · rw [failed]
    exact .inr ⟨_, rfl, .source unasked untyped listed unread⟩

end

/-! ## Runs -/

theorem perform_eq_or {invocation : Invocation} {arguments : Arguments}
    (quiet : ¬EntersPrompt invocation arguments) : AllOrNothing invocation arguments := by
  cases load : Config.load invocation.files invocation.environment arguments.config with
  | error failure =>
    obtain ⟨path, required, unmergeable⟩ := Config.exists_unmergeable load
    refine .inr ⟨failure, ?_, .config required unmergeable⟩
    rw [perform, load]
    rfl
  | ok loaded =>
    cases asked : arguments.showConfig with
    | true => exact perform_showing load asked
    | false =>
      cases typed : arguments.eval with
      | some source => exact perform_typed load asked typed
      | none =>
        refine perform_listed load asked typed fun noFiles => quiet ⟨?_, loaded, load⟩
        simp [startsPrompt, asked, typed, noFiles]

theorem run_of_parse {invocation : Invocation} {arguments : Arguments}
    (parsed : CommandLine.parse invocation.arguments (configVariable invocation.environment) =
      .ok arguments) : run invocation = runWith invocation arguments := by
  rw [run, parsed]

/-- A run that does not enter the prompt fails with nothing written exactly when there is an
obstacle, and tells of one; without an obstacle it writes all that it was asked for. -/
theorem run_all_or_nothing {invocation : Invocation} {arguments : Arguments}
    (parsed : CommandLine.parse invocation.arguments (configVariable invocation.environment) =
      .ok arguments)
    (quiet : ¬EntersPrompt invocation arguments) :
    ((run invocation).code = 1 ∧ (run invocation).output = "" ↔
      ∃ failure, Obstacle invocation arguments failure) ∧
    ((run invocation).code = 1 → ∃ failure, Obstacle invocation arguments failure ∧
      (run invocation).errors = errorLine (plainErrors arguments invocation.environment) failure) ∧
    ((¬∃ failure, Obstacle invocation arguments failure) →
      (run invocation).code = 0 ∧ FullOutput invocation arguments (run invocation).output) := by
  rw [run_of_parse parsed, runWith]
  obtain ⟨output, performed, rendered, clear⟩ | ⟨failure, failed, obstacle⟩ := perform_eq_or quiet
  · rw [performed]
    simpa [clear] using rendered.full
  · rw [failed]
    exact ⟨⟨fun _ => ⟨failure, obstacle⟩, fun _ => ⟨rfl, rfl⟩⟩, fun _ => ⟨failure, obstacle, rfl⟩,
      fun clear => absurd ⟨failure, obstacle⟩ clear⟩

theorem run_all_or_nothing_at_missing_file :
    let files := (FileTree.empty.insert "a.js" (.file "a".toUTF8)).insert "c.js" (.file "c".toUTF8)
    let missing : Invocation := ⟨["a.js", "b.js", "c.js"], [], files, .empty⟩
    let present : Invocation := ⟨["c.js", "a.js"], [("NO_COLOR", "1")], files, .empty⟩
    let arguments (invocation : Invocation) :=
      { Arguments.none with files := invocation.arguments }
    (∀ invocation, invocation = missing ∨ invocation = present →
      CommandLine.parse invocation.arguments (configVariable invocation.environment) =
        .ok (arguments invocation) ∧ ¬EntersPrompt invocation (arguments invocation)) ∧
    Obstacle missing (arguments missing) (.unreadable "b.js" .notFound) ∧
    (run missing).code = 1 ∧ (run missing).output = "" ∧ (run present).code = 0 ∧
    FullOutput present (arguments present) (run present).output ∧
    (run present).output =
      "==> c.js\n     1:1 ident       c\n\n==> a.js\n     1:1 ident       a\n" := by
  intro files missing present arguments
  have settled : ∀ invocation, invocation = missing ∨ invocation = present →
      CommandLine.parse invocation.arguments (configVariable invocation.environment) =
        .ok (arguments invocation) ∧ ¬EntersPrompt invocation (arguments invocation) := by
    rintro invocation (rfl | rfl)
    · exact ⟨by decide +kernel, fun enters => absurd enters.1 (by decide)⟩
    · exact ⟨by decide +kernel, fun enters => absurd enters.1 (by decide)⟩
  obtain ⟨parsedMissing, quietMissing⟩ := settled missing (.inl rfl)
  obtain ⟨parsedPresent, quietPresent⟩ := settled present (.inr rfl)
  have obstacle : Obstacle missing (arguments missing) (.unreadable "b.js" .notFound) :=
    .source rfl rfl (by decide) rfl
  have failed := (run_all_or_nothing parsedMissing quietMissing).1.mpr ⟨_, obstacle⟩
  have all := run_all_or_nothing parsedPresent quietPresent
  have written : (run present).code = 0 := by
    decide +kernel
  have clear : ¬∃ failure, Obstacle present (arguments present) failure := by
    intro obstacle
    rw [written] at all
    exact absurd (all.1.mpr obstacle).1 (by decide)
  obtain ⟨code, full⟩ := all.2.2 clear
  exact ⟨settled, obstacle, failed.1, failed.2, code, full, by decide +kernel⟩

end ScriptTokens.Program
