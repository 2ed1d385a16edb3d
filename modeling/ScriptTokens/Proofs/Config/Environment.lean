import Mathlib.Data.List.Nodup
import ScriptTokens.Proofs.Config.Layers

/-!
# The order of environment variables

Writers that agree on a setting may come in any order (`value_foldl_write_perm`). Variables with
names of their own agree on every setting but colour, which two of them may write: `NO_COLOR`
switches it off, and the variable that is named for it may switch it on. If both do, the later of
them wins, so the order of the variables matters then, and only then.
-/

namespace ScriptTokens

/-! ## Names of variables -/

def foldedName (name : String) : List Char :=
  (Text.lowercase name.toList).map fun c => if c = '_' then '-' else c

def DistinctNames (environment : List (String × String)) : Prop :=
  (environment.map fun entry => foldedName entry.1).Nodup

instance (environment : List (String × String)) : Decidable (DistinctNames environment) :=
  inferInstanceAs (Decidable (List.Nodup _))

namespace Text

theorem lowercase_go_of_not_mem {text : List Char} (h : 'Σ' ∉ text) (before : List Char) :
    lowercase.go before text = text.flatMap lowercaseChar := by
  induction text generalizing before with
  | nil => rfl
  | cons c cs ih =>
    rw [List.mem_cons, not_or] at h
    rw [lowercase.go, if_neg (Ne.symm h.1), ih h.2, List.flatMap_cons]

theorem lowercase_of_not_mem {text : List Char} (h : 'Σ' ∉ text) :
    lowercase text = text.flatMap lowercaseChar := lowercase_go_of_not_mem h []

theorem sigma_mem_lowercase_go {text : List Char} (h : 'Σ' ∈ text) (before : List Char) :
    'ς' ∈ lowercase.go before text ∨ 'σ' ∈ lowercase.go before text := by
  induction text generalizing before with
  | nil => cases h
  | cons c cs ih =>
    rw [lowercase.go]
    by_cases sigma : c = 'Σ'
    · rw [if_pos sigma, lowercaseSigma]
      split <;> simp
    · have later := ih ((List.mem_cons.mp h).resolve_left (Ne.symm sigma)) (c :: before)
      exact later.imp (List.mem_append_right _) (List.mem_append_right _)

end Text

theorem foldedName_of_namedBy {name : String} {setting : Setting} (h : setting.NamedBy name) :
    foldedName name = "doclex-".toList ++ setting.key.toList := by
  obtain ⟨capitals, spelled, key⟩ := h
  have noSigma : 'Σ' ∉ capitals := by
    intro sigma
    have inKey : 'ς' ∈ setting.key.toList ∨ 'σ' ∈ setting.key.toList := by
      rw [key]
      exact (Text.sigma_mem_lowercase_go sigma []).imp
        (fun member => List.mem_map.mpr ⟨_, member, by decide⟩)
        (fun member => List.mem_map.mpr ⟨_, member, by decide⟩)
    cases setting <;> revert inKey <;> decide
  have noSigma' : 'Σ' ∉ "DOCLEX_".toList ++ capitals :=
    List.not_mem_append (by decide) noSigma
  rw [foldedName, spelled, Text.lowercase_of_not_mem noSigma', List.flatMap_append, List.map_append,
    key, Text.lowercase_of_not_mem noSigma]
  congr 1

theorem eq_of_namedBy {environment : List (String × String)}
    (distinct : DistinctNames environment) {entry other : String × String}
    (member : entry ∈ environment) (member' : other ∈ environment) {setting : Setting}
    (names : setting.NamedBy entry.1) (names' : setting.NamedBy other.1) : entry = other := by
  apply List.inj_on_of_nodup_map distinct member member'
  rw [foldedName_of_namedBy names, foldedName_of_namedBy names']

/-! ## Writers that agree -/

def Agree (setting : Setting) (writers : List Writer) : Prop :=
  ∀ writer ∈ writers, ∀ other ∈ writers, ∀ assignment assignment',
    writer.Gives assignment → other.Gives assignment' → assignment.setting = setting →
      assignment'.setting = setting → assignment = assignment'

theorem Agree.of_subset {setting : Setting} {writers more : List Writer}
    (h : Agree setting writers) (subset : more ⊆ writers) : Agree setting more :=
  fun writer member other member' => h writer (subset member) other (subset member')

theorem Writer.Gives.unique {writer : Writer} {assignment other : Assignment}
    (h : writer.Gives assignment) (h' : writer.Gives other)
    (same : assignment.setting = other.setting) : assignment = other := by
  rw [← Config.value_write_of_gives .default h, same, Config.value_write_of_gives .default h']

namespace Config

theorem ext_value {config other : Config}
    (h : ∀ setting, config.value setting = other.value setting) : config = other := by
  obtain ⟨format, color, docsOnly, historySize⟩ := config
  have formats := h .format
  have colors := h .color
  have docs := h .docsOnly
  have sizes := h .historySize
  simp only [value, Assignment.format.injEq, Assignment.color.injEq, Assignment.docsOnly.injEq,
    Assignment.historySize.injEq] at formats colors docs sizes
  subst formats colors docs sizes
  rfl

theorem value_foldl_write_of_agree (config : Config) {writers : List Writer} {writer : Writer}
    {assignment : Assignment} (agree : Agree assignment.setting writers)
    (member : writer ∈ writers) (gives : writer.Gives assignment) :
    (writers.foldl write config).value assignment.setting = assignment := by
  obtain ⟨value, last⟩ := exists_isLast assignment.setting writers
    (config.value assignment.setting)
  rw [value_foldl_write_of_isLast config last]
  obtain ⟨before, other, after, rfl, gives', same, -⟩ | ⟨-, silent⟩ := last
  · exact agree other (by simp) writer member value assignment gives' gives same rfl
  · exact absurd rfl (silent writer member assignment gives)

theorem value_foldl_write_perm (config : Config) {writers other : List Writer}
    {setting : Setting} (perm : other.Perm writers) (agree : Agree setting writers) :
    (other.foldl write config).value setting = (writers.foldl write config).value setting := by
  by_cases assigns : ∃ writer ∈ writers, ∃ assignment, writer.Gives assignment ∧
      assignment.setting = setting
  · obtain ⟨writer, member, assignment, gives, rfl⟩ := assigns
    rw [value_foldl_write_of_agree config agree member gives,
      value_foldl_write_of_agree config (agree.of_subset perm.subset) (perm.mem_iff.mpr member)
        gives]
  · have silent : ∀ writer ∈ writers, ∀ assignment, writer.Gives assignment →
        assignment.setting ≠ setting :=
      fun writer member assignment gives same =>
        assigns ⟨writer, member, assignment, gives, same⟩
    rw [value_foldl_write_of_silent config silent]
    apply value_foldl_write_of_silent
    exact fun writer member => silent writer (perm.mem_iff.mp member)

/-! ## Variables -/

theorem setVariables_eq (config : Config) (environment : List (String × String)) :
    (config.setVariables environment).1 =
      (environment.map fun entry => Writer.named entry.1 entry.2).foldl write config :=
  config.config_add (.environment environment)

end Config

def SwitchesOn (entry : String × String) : Prop :=
  Setting.color.NamedBy entry.1 ∧ (Assignment.color true).Written entry.2

/-- One variable switches colour off, and another switches it on. -/
def ColorContested (environment : List (String × String)) : Prop :=
  (∃ text, text ≠ "" ∧ ("NO_COLOR", text) ∈ environment) ∧
    ∃ entry ∈ environment, SwitchesOn entry

theorem not_switchesOn_noColor (text : String) : ¬ SwitchesOn ("NO_COLOR", text) := by
  rintro ⟨⟨capitals, spelled, -⟩, -⟩
  exact absurd (congrArg List.head? spelled) (by simp)

theorem color_cases {entry : String × String} {assignment : Assignment}
    (gives : Writer.Gives (.named entry.1 entry.2) assignment)
    (color : assignment.setting = .color) : assignment = .color false ∨ SwitchesOn entry := by
  obtain ⟨name, text⟩ := entry
  cases gives with
  | noColor => exact .inl rfl
  | named names written =>
    cases assignment with
    | color value =>
      cases value with
      | false => exact .inl rfl
      | true => exact .inr ⟨names, written⟩
    | _ => cases color

theorem named_cases {entry : String × String} {assignment : Assignment}
    (gives : Writer.Gives (.named entry.1 entry.2) assignment) :
    assignment.setting.NamedBy entry.1 ∨
      assignment.setting = .color ∧ entry.2 ≠ "" ∧ entry = ("NO_COLOR", entry.2) := by
  obtain ⟨name, text⟩ := entry
  cases gives with
  | named names => exact .inl names
  | noColor filled => exact .inr ⟨rfl, filled, rfl⟩

theorem agree_variables {environment : List (String × String)}
    (distinct : DistinctNames environment) {setting : Setting}
    (uncontested : setting = .color → ¬ ColorContested environment) :
    Agree setting (environment.map fun entry => Writer.named entry.1 entry.2) := by
  intro writer isWriter other isOther assignment assignment' gives gives' same same'
  obtain ⟨entry, member, rfl⟩ := List.mem_map.mp isWriter
  obtain ⟨entry', member', rfl⟩ := List.mem_map.mp isOther
  -- with `NO_COLOR` all that is said about colour is that it is off
  by_cases off : setting = .color ∧ ∃ text, text ≠ "" ∧ ("NO_COLOR", text) ∈ environment
  · obtain ⟨rfl, noColor⟩ := off
    have none : ∀ entry ∈ environment, ¬ SwitchesOn entry :=
      fun entry member on => uncontested rfl ⟨noColor, entry, member, on⟩
    rw [(color_cases gives same).resolve_right (none entry member),
      (color_cases gives' same').resolve_right (none entry' member')]
  · have named : ∀ entry ∈ environment, ∀ assignment,
        Writer.Gives (.named entry.1 entry.2) assignment → assignment.setting = setting →
          setting.NamedBy entry.1 := by
      rintro entry member assignment gives rfl
      refine (named_cases gives).resolve_right ?_
      rintro ⟨color, filled, noColor⟩
      exact off ⟨color, entry.2, filled, noColor ▸ member⟩
    obtain rfl := eq_of_namedBy distinct member member' (named entry member assignment gives same)
      (named entry' member' assignment' gives' same')
    exact gives.unique gives' (same.trans same'.symm)

namespace Config

theorem color_setVariables_concat (config : Config) (front : List (String × String))
    {entry : String × String} {value : Bool}
    (gives : Writer.Gives (.named entry.1 entry.2) (.color value)) :
    (config.setVariables (front ++ [entry])).1.color = value := by
  rw [setVariables_eq, List.map_append, List.foldl_append]
  have last := value_write_of_gives
    ((front.map fun entry => Writer.named entry.1 entry.2).foldl write config) gives
  exact Assignment.color.inj last

theorem exists_perm_of_colorContested (config : Config) {environment : List (String × String)}
    (contested : ColorContested environment) (value : Bool) :
    ∃ other, other.Perm environment ∧ (config.setVariables other).1.color = value := by
  obtain ⟨⟨text, filled, noColor⟩, entry, member, names, written⟩ := contested
  have last (entry : String × String) (member : entry ∈ environment) :
      (environment.erase entry ++ [entry]).Perm environment :=
    (List.perm_append_singleton _ _).trans (List.perm_cons_erase member).symm
  cases value with
  | false =>
    exact ⟨_, last _ noColor, config.color_setVariables_concat _ (.noColor filled)⟩
  | true =>
    exact ⟨_, last _ member, config.color_setVariables_concat _ (.named names written)⟩

theorem value_setVariables_perm (config : Config) {environment other : List (String × String)}
    (distinct : DistinctNames environment) (perm : other.Perm environment) {setting : Setting}
    (uncontested : setting = .color → ¬ ColorContested environment) :
    (config.setVariables other).1.value setting =
      (config.setVariables environment).1.value setting := by
  rw [setVariables_eq, setVariables_eq]
  exact config.value_foldl_write_perm (perm.map _) (agree_variables distinct uncontested)

theorem setVariables_append (config : Config) (front back : List (String × String)) :
    (config.setVariables (front ++ back)).1 =
      ((config.setVariables front).1.setVariables back).1 := by
  rw [setVariables_eq, setVariables_eq, setVariables_eq, List.map_append, List.foldl_append]

theorem color_setVariables_of_agree (config : Config) {environment : List (String × String)}
    (distinct : DistinctNames environment) (uncontested : ¬ ColorContested environment)
    {entry : String × String} (member : entry ∈ environment) {value : Bool}
    (gives : Writer.Gives (.named entry.1 entry.2) (.color value)) :
    (config.setVariables environment).1.color = value := by
  rw [setVariables_eq]
  have agree : Agree (Assignment.color value).setting
      (environment.map fun entry => Writer.named entry.1 entry.2) :=
    agree_variables distinct fun _ => uncontested
  exact Assignment.color.inj
    (config.value_foldl_write_of_agree agree (List.mem_map_of_mem member) gives)

theorem color_setVariables_behind (config : Config) {front back : List (String × String)}
    {text : String} (distinct : DistinctNames (front ++ ("NO_COLOR", text) :: back))
    (filled : text ≠ "") :
    (config.setVariables (front ++ ("NO_COLOR", text) :: back)).1.color = false ↔
      ∀ entry ∈ back, ¬ SwitchesOn entry := by
  rw [setVariables_append]
  generalize (config.setVariables front).1 = start
  have fromHere : DistinctNames (("NO_COLOR", text) :: back) :=
    distinct.sublist ((List.sublist_append_right _ _).map _)
  obtain ⟨alone, behind⟩ := List.nodup_cons.mp fromHere
  constructor
  · intro off entry member on
    have uncontested : ¬ ColorContested back := by
      rintro ⟨⟨other, -, again⟩, -⟩
      exact alone (List.mem_map.mpr ⟨_, again, rfl⟩)
    have color := (start.setVariable "NO_COLOR" text).1.color_setVariables_of_agree behind
      uncontested member (.named on.1 on.2)
    exact absurd (color.symm.trans off) (by decide)
  · intro none
    have uncontested : ¬ ColorContested (("NO_COLOR", text) :: back) := by
      rintro ⟨-, entry, member, on⟩
      rcases List.mem_cons.mp member with rfl | member
      · exact not_switchesOn_noColor text on
      · exact none entry member on
    exact start.color_setVariables_of_agree fromHere uncontested List.mem_cons_self
      (.noColor filled)

/-- The order of variables with names of their own matters for colour alone, and for colour
exactly when it is contested: then the last of the two that write it wins. -/
theorem setVariables_order (config : Config) {environment : List (String × String)}
    (distinct : DistinctNames environment) :
    (∀ other, other.Perm environment → ∀ setting, setting ≠ .color →
      (config.setVariables other).1.value setting =
        (config.setVariables environment).1.value setting) ∧
    ((∀ other, other.Perm environment →
        (config.setVariables other).1 = (config.setVariables environment).1) ↔
      ¬ ColorContested environment) ∧
    ∀ front text back, environment = front ++ ("NO_COLOR", text) :: back → text ≠ "" →
      ((config.setVariables environment).1.color = false ↔ ∀ entry ∈ back, ¬ SwitchesOn entry) := by
  refine ⟨?_, ⟨?_, ?_⟩, ?_⟩
  · intro other perm setting notColor
    exact config.value_setVariables_perm distinct perm fun color => absurd color notColor
  · intro same contested
    obtain ⟨other, perm, color⟩ :=
      config.exists_perm_of_colorContested contested !(config.setVariables environment).1.color
    rw [same other perm] at color
    exact (Bool.eq_not_self _).mp color
  · intro uncontested other perm
    apply ext_value
    intro setting
    exact config.value_setVariables_perm distinct perm fun _ => uncontested
  · rintro front text back rfl filled
    exact config.color_setVariables_behind distinct filled

theorem setVariables_order_uncontested :
    let environment := [("DOCLEX_COLOR", "off"), ("NO_COLOR", "1"), ("DOCLEX_FORMAT", "JSON")]
    DistinctNames environment ∧ ¬ ColorContested environment ∧
      (∀ other, other.Perm environment →
        (default.setVariables other).1 = ⟨.json, false, false, 1000⟩) ∧
      ∀ entry ∈ [("DOCLEX_FORMAT", "JSON")], ¬ SwitchesOn entry := by
  intro environment
  have distinct : DistinctNames environment := by decide
  have uncontested : ¬ ColorContested environment := by
    rintro ⟨-, entry, member, names, written⟩
    have none : ∀ entry ∈ environment, variableKey? entry.1 = some "color" →
        asciiLowercase entry.2 ∉ switchWords true := by decide
    exact none entry member (variableKey?_eq_some_iff.mpr names) written
  have order := default.setVariables_order distinct
  refine ⟨distinct, uncontested, ?_, ?_⟩
  · intro other perm
    rw [order.2.1.mpr uncontested other perm]
    decide
  · exact (order.2.2 [("DOCLEX_COLOR", "off")] "1" _ rfl (by decide)).mp (by decide)

theorem setVariables_contested :
    let environment := [("NO_COLOR", "1"), ("DOCLEX_COLOR", "1")]
    let swapped := [("DOCLEX_COLOR", "1"), ("NO_COLOR", "1")]
    DistinctNames environment ∧ swapped.Perm environment ∧
      (default.setVariables environment).1.color = true ∧
      (default.setVariables swapped).1.color = false := by
  decide

end Config

end ScriptTokens
