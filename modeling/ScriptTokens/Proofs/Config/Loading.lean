import ScriptTokens.Proofs.Config.Layers

namespace ScriptTokens.Config

/-- The files that have to be read: those of the user and of the project if they exist, and the one
asked for. -/
def requiredFiles (files : FileTree) (environment : List (String × String))
    (asked : Option String) : List String :=
  ((userFile? environment).toList ++ [projectFile]).filter files.contains ++ asked.toList

def loadedLayers (files : FileTree) (environment : List (String × String))
    (asked : Option String) : List Layer :=
  (requiredFiles files environment asked).map (.file files) ++ [.environment environment]

/-- What keeps a file from being merged, with the failure that tells of it. -/
inductive Unmergeable (files : FileTree) (path : String) : Failure → Prop
  | unreadable {fault : ReadFault} (read : files.read path = .error fault) :
    Unmergeable files path (.unreadable path fault)
  | invalid {text : String} (read : files.read path = .ok text)
    (unfit : ∀ entries, Toml.parse? text = some entries → ¬entries.Fit) :
    Unmergeable files path (.invalidConfig path)

theorem mergeFile_eq_error_iff {config : Config} {files : FileTree} {path : String}
    {failure : Failure} :
    config.mergeFile files path = .error failure ↔ Unmergeable files path failure := by
  constructor
  · intro failed
    unfold mergeFile at failed
    split at failed
    next fault read =>
      cases failed
      exact .unreadable read
    next text read =>
      split at failed
      · cases failed
      next unparsed =>
        cases failed
        refine .invalid read fun entries parsed fit => ?_
        obtain ⟨overrides, of⟩ := Overrides.exists_ofEntries?_iff.mpr fit
        simp [Overrides.parse?, parsed, of] at unparsed
  · intro obstacle
    cases obstacle with
    | unreadable read => simp only [mergeFile, read]
    | @invalid text read unfit =>
      have unparsed : Overrides.parse? text = none := by
        refine Option.bind_eq_none_iff.mpr fun entries parsed => ?_
        refine Option.eq_none_iff_forall_not_mem.mpr fun overrides of => ?_
        exact unfit entries parsed (Overrides.exists_ofEntries?_iff.mp ⟨overrides, of⟩)
      simp only [mergeFile, read, unparsed]

theorem mergeFile_eq_or (config : Config) (files : FileTree) (path : String) :
    config.mergeFile files path = .ok (config.add (.file files path)).config ∧
      (∀ failure, ¬Unmergeable files path failure) ∨
    ∃ failure, config.mergeFile files path = .error failure ∧ Unmergeable files path failure := by
  cases merged : config.mergeFile files path with
  | ok next =>
    refine .inl ⟨by rw [add, merged], fun failure obstacle => ?_⟩
    rw [mergeFile_eq_error_iff.mpr obstacle] at merged
    cases merged
  | error failure => exact .inr ⟨failure, rfl, mergeFile_eq_error_iff.mp merged⟩

def mergeAll (config : Config) (files : FileTree) (paths : List String) : Except Failure Config :=
  paths.foldlM (fun config path => config.mergeFile files path) config

theorem mergeExisting_eq (config : Config) (files : FileTree) (path : String) :
    config.mergeExisting files path = config.mergeAll files ([path].filter files.contains) := by
  by_cases existing : files.contains path
  · simp [mergeExisting, mergeAll, existing]
  · simp [mergeExisting, mergeAll, existing]
    rfl

theorem mergeAll_append (config : Config) (files : FileTree) (paths more : List String) :
    config.mergeAll files (paths ++ more) =
      config.mergeAll files paths >>= fun merged => merged.mergeAll files more :=
  List.foldlM_append

theorem mergeAll_eq_or (config : Config) (files : FileTree) (paths : List String) :
    config.mergeAll files paths = .ok (config.addAll (paths.map (.file files))) ∧
      (∀ path ∈ paths, ∀ failure, ¬Unmergeable files path failure) ∨
    ∃ failure, config.mergeAll files paths = .error failure ∧
      ∃ path ∈ paths, Unmergeable files path failure := by
  induction paths generalizing config with
  | nil => exact .inl ⟨rfl, by simp⟩
  | cons path paths ih =>
    have step : config.mergeAll files (path :: paths) =
        config.mergeFile files path >>= fun next => next.mergeAll files paths :=
      List.foldlM_cons
    obtain ⟨merged, clear⟩ | ⟨failure, failed, obstacle⟩ := config.mergeFile_eq_or files path
    · rw [step, merged]
      obtain ⟨rest, clearRest⟩ | ⟨failure, failed, path', member, obstacle⟩ :=
        ih (config.add (.file files path)).config
      · exact .inl ⟨rest, List.forall_mem_cons.mpr ⟨clear, clearRest⟩⟩
      · exact .inr ⟨failure, failed, path', List.mem_cons_of_mem _ member, obstacle⟩
    · rw [step, failed]
      exact .inr ⟨failure, rfl, path, List.mem_cons_self, obstacle⟩

theorem load_eq (files : FileTree) (environment : List (String × String))
    (asked : Option String) :
    load files environment asked = do
      let merged ← default.mergeAll files (requiredFiles files environment asked)
      return (merged.setVariables environment).1 := by
  have user : (userFile? environment).elim (.ok default) (default.mergeExisting files) =
      default.mergeAll files ((userFile? environment).toList.filter files.contains) := by
    cases userFile? environment with
    | none => rfl
    | some path => exact mergeExisting_eq default files path
  have explicit (config : Config) : asked.elim (.ok config) (config.mergeFile files) =
      config.mergeAll files asked.toList := by
    cases asked with
    | none => rfl
    | some path => simp [mergeAll]
  rw [load, requiredFiles, List.filter_append, mergeAll_append, mergeAll_append, user]
  simp only [mergeExisting_eq, explicit, bind_assoc]

theorem load_eq_or (files : FileTree) (environment : List (String × String))
    (asked : Option String) :
    load files environment asked = .ok (default.addAll (loadedLayers files environment asked)) ∧
      (∀ path ∈ requiredFiles files environment asked, ∀ failure,
        ¬Unmergeable files path failure) ∨
    ∃ failure, load files environment asked = .error failure ∧
      ∃ path ∈ requiredFiles files environment asked, Unmergeable files path failure := by
  rw [load_eq]
  obtain ⟨merged, clear⟩ | ⟨failure, failed, obstacle⟩ :=
    default.mergeAll_eq_or files (requiredFiles files environment asked)
  · refine .inl ⟨?_, clear⟩
    rw [merged, loadedLayers, addAll, addAll, List.foldl_append]
    rfl
  · rw [failed]
    exact .inr ⟨failure, rfl, obstacle⟩

section

variable {files : FileTree} {environment : List (String × String)} {asked : Option String}

theorem eq_of_load {config : Config} (loaded : load files environment asked = .ok config) :
    config = default.addAll (loadedLayers files environment asked) ∧
      ∀ path ∈ requiredFiles files environment asked, ∀ failure,
        ¬Unmergeable files path failure := by
  obtain ⟨merged, clear⟩ | ⟨failure, failed, -⟩ := load_eq_or files environment asked
  · rw [merged] at loaded
    exact ⟨(Except.ok.inj loaded).symm, clear⟩
  · rw [failed] at loaded
    cases loaded

theorem exists_unmergeable {failure : Failure}
    (failed : load files environment asked = .error failure) :
    ∃ path ∈ requiredFiles files environment asked, Unmergeable files path failure := by
  obtain ⟨merged, -⟩ | ⟨other, failed', obstacle⟩ := load_eq_or files environment asked
  · rw [merged] at failed
    cases failed
  · rw [failed'] at failed
    cases failed
    exact obstacle

end

end ScriptTokens.Config
