import ScriptTokens.Proofs.Config.Assignment

namespace ScriptTokens

open Toml

namespace Overrides

def value? (overrides : Overrides) : Setting → Option Assignment
  | .format => overrides.format.map .format
  | .color => overrides.color.map .color
  | .docsOnly => overrides.docsOnly.map .docsOnly
  | .historySize => overrides.historySize.map .historySize

theorem setting_of_value? {overrides : Overrides} {setting : Setting} {assignment : Assignment}
    (h : overrides.value? setting = some assignment) : assignment.setting = setting := by
  cases setting <;>
    · obtain ⟨_, -, rfl⟩ := Option.map_eq_some_iff.1 h
      rfl

end Overrides

theorem Config.value_override (config : Config) (overrides : Overrides) (setting : Setting) :
    (config.override overrides).value setting =
      (overrides.value? setting).getD (config.value setting) := by
  obtain ⟨format, color, docsOnly, historySize⟩ := overrides
  cases setting with
  | format => cases format <;> rfl
  | color => cases color <;> rfl
  | docsOnly => cases docsOnly <;> rfl
  | historySize => cases historySize <;> rfl

/-- A format is shown by its name, or by a table that has it as a key over something hollow. -/
inductive Toml.Item.Shows : Item → Assignment → Prop
  | format (format : Format) : Shows (.string format.name) (.format format)
  | variant (origin : Origin) (format : Format) {inner : Item} (hollow : inner.isHollow) :
    Shows (.table origin [(format.name, inner)]) (.format format)
  | color (value : Bool) : Shows (.boolean value) (.color value)
  | docsOnly (value : Bool) : Shows (.boolean value) (.docsOnly value)
  | historySize (size : Nat) : Shows (.integer size) (.historySize size)

def Setting.ofItem? : Setting → Item → Option Assignment
  | .format, item => (Format.ofItem? item).map .format
  | .color, item => item.toBool?.map .color
  | .docsOnly, item => item.toBool?.map .docsOnly
  | .historySize, item => item.toNat?.map .historySize

theorem Toml.Item.toBool?_eq_some_iff {item : Item} {value : Bool} :
    item.toBool? = some value ↔ item = .boolean value := by
  cases item <;> simp [toBool?]

theorem Toml.Item.toNat?_eq_some_iff {item : Item} {size : Nat} :
    item.toNat? = some size ↔ item = .integer size := by
  cases item with
  | integer value =>
    simp only [toNat?, integer.injEq]
    split <;> simp <;> omega
  | _ => simp [toNat?]

theorem Format.ofItem?_eq_some_iff {item : Item} {format : Format} :
    Format.ofItem? item = some format ↔ item.Shows (.format format) := by
  constructor
  · intro h
    unfold Format.ofItem? at h
    split at h
    · rw [Format.ofName?_eq_some_iff] at h
      exact h ▸ .format format
    · split at h
      · rw [Format.ofName?_eq_some_iff] at h
        exact h ▸ .variant _ format ‹_›
      · cases h
    · cases h
  · intro h
    cases h with
    | format => exact Format.ofName?_eq_some_iff.2 rfl
    | variant origin _ hollow => simp [Format.ofItem?, hollow, Format.ofName?_eq_some_iff]

theorem Setting.ofItem?_eq_some_iff {setting : Setting} {item : Item} {assignment : Assignment} :
    setting.ofItem? item = some assignment ↔
      item.Shows assignment ∧ assignment.setting = setting := by
  constructor
  · intro h
    cases setting with
    | format =>
      obtain ⟨format, read, rfl⟩ := Option.map_eq_some_iff.1 h
      exact ⟨Format.ofItem?_eq_some_iff.1 read, rfl⟩
    | color =>
      obtain ⟨value, read, rfl⟩ := Option.map_eq_some_iff.1 h
      exact ⟨Item.toBool?_eq_some_iff.1 read ▸ .color value, rfl⟩
    | docsOnly =>
      obtain ⟨value, read, rfl⟩ := Option.map_eq_some_iff.1 h
      exact ⟨Item.toBool?_eq_some_iff.1 read ▸ .docsOnly value, rfl⟩
    | historySize =>
      obtain ⟨size, read, rfl⟩ := Option.map_eq_some_iff.1 h
      exact ⟨Item.toNat?_eq_some_iff.1 read ▸ .historySize size, rfl⟩
  · rintro ⟨shows, rfl⟩
    cases assignment with
    | format format =>
      exact congrArg (Option.map Assignment.format) (Format.ofItem?_eq_some_iff.2 shows)
    | color value =>
      cases shows
      rfl
    | docsOnly value =>
      cases shows
      rfl
    | historySize size =>
      cases shows
      exact congrArg (Option.map Assignment.historySize) (Item.toNat?_eq_some_iff.2 rfl)

namespace Toml.Entries

theorem setting?_map {α β : Type} (entries : Entries) (key : String) (read? : Item → Option α)
    (f : α → β) :
    entries.setting? key (fun item => (read? item).map f) =
      (entries.setting? key read?).map (Option.map f) := by
  unfold setting?
  cases entries.find? key with
  | none => rfl
  | some item => simp [Function.comp_def]

def Fit (entries : Entries) : Prop :=
  ∀ setting item, entries.find? (Setting.fileKey setting) = some item →
    ∃ assignment, item.Shows assignment ∧ assignment.setting = setting

theorem fit_iff {entries : Entries} :
    entries.Fit ↔
      ∀ setting, (entries.setting? (Setting.fileKey setting) setting.ofItem?).isSome := by
  refine forall_congr' fun setting => ?_
  unfold setting?
  cases entries.find? (Setting.fileKey setting) with
  | none => simp
  | some item => simp [Option.isSome_iff_exists, Setting.ofItem?_eq_some_iff]

end Toml.Entries

namespace Overrides

theorem ofEntries?_eq_some_iff_fields {entries : Entries} {overrides : Overrides} :
    ofEntries? entries = some overrides ↔
      entries.setting? "format" Format.ofItem? = some overrides.format ∧
        entries.setting? "color" Item.toBool? = some overrides.color ∧
        entries.setting? "docs_only" Item.toBool? = some overrides.docsOnly ∧
        entries.setting? "history_size" Item.toNat? = some overrides.historySize := by
  obtain ⟨format, color, docsOnly, historySize⟩ := overrides
  simp only [ofEntries?, Option.bind_eq_bind, Option.bind_eq_some_iff, Option.pure_def,
    Option.some.injEq, mk.injEq]
  constructor
  · rintro ⟨_, h₁, _, h₂, _, h₃, _, h₄, rfl, rfl, rfl, rfl⟩
    exact ⟨h₁, h₂, h₃, h₄⟩
  · rintro ⟨h₁, h₂, h₃, h₄⟩
    exact ⟨_, h₁, _, h₂, _, h₃, _, h₄, rfl, rfl, rfl, rfl⟩

theorem ofEntries?_eq_some_iff {entries : Entries} {overrides : Overrides} :
    ofEntries? entries = some overrides ↔
      ∀ setting, entries.setting? (Setting.fileKey setting) setting.ofItem? =
        some (overrides.value? setting) := by
  have lift {α : Type} (key : String) (read? : Item → Option α) (f : α → Assignment)
      (inj : f.Injective) (shown : Option α) :
      entries.setting? key (fun item => (read? item).map f) = some (shown.map f) ↔
        entries.setting? key read? = some shown := by
    rw [Entries.setting?_map]
    exact (Option.map_injective (Option.map_injective inj)).eq_iff' rfl
  rw [ofEntries?_eq_some_iff_fields]
  constructor
  · rintro ⟨h₁, h₂, h₃, h₄⟩ setting
    cases setting with
    | format => exact (lift _ _ _ (fun _ _ => Assignment.format.inj) _).2 h₁
    | color => exact (lift _ _ _ (fun _ _ => Assignment.color.inj) _).2 h₂
    | docsOnly => exact (lift _ _ _ (fun _ _ => Assignment.docsOnly.inj) _).2 h₃
    | historySize => exact (lift _ _ _ (fun _ _ => Assignment.historySize.inj) _).2 h₄
  · intro h
    exact ⟨(lift _ _ _ (fun _ _ => Assignment.format.inj) _).1 (h .format),
      (lift _ _ _ (fun _ _ => Assignment.color.inj) _).1 (h .color),
      (lift _ _ _ (fun _ _ => Assignment.docsOnly.inj) _).1 (h .docsOnly),
      (lift _ _ _ (fun _ _ => Assignment.historySize.inj) _).1 (h .historySize)⟩

theorem exists_ofEntries?_iff {entries : Entries} :
    (∃ overrides, ofEntries? entries = some overrides) ↔ entries.Fit := by
  rw [Entries.fit_iff]
  constructor
  · rintro ⟨overrides, read⟩ setting
    rw [ofEntries?_eq_some_iff.1 read setting]
    rfl
  · intro fit
    have read {α : Type} {key : String} {read? : Item → Option α} {f : α → Assignment}
        (fit : (entries.setting? key (fun item => (read? item).map f)).isSome) :
        ∃ shown, entries.setting? key read? = some shown := by
      rw [Entries.setting?_map, Option.isSome_map] at fit
      exact Option.isSome_iff_exists.1 fit
    obtain ⟨format, h₁⟩ := read (fit .format)
    obtain ⟨color, h₂⟩ := read (fit .color)
    obtain ⟨docsOnly, h₃⟩ := read (fit .docsOnly)
    obtain ⟨historySize, h₄⟩ := read (fit .historySize)
    exact ⟨⟨format, color, docsOnly, historySize⟩,
      ofEntries?_eq_some_iff_fields.2 ⟨h₁, h₂, h₃, h₄⟩⟩

theorem value?_eq_some_iff {entries : Entries} {overrides : Overrides}
    (read : ofEntries? entries = some overrides) {assignment : Assignment} :
    overrides.value? assignment.setting = some assignment ↔
      ∃ item, entries.find? assignment.setting.fileKey = some item ∧ item.Shows assignment := by
  have shown := ofEntries?_eq_some_iff.1 read assignment.setting
  unfold Entries.setting? at shown
  cases found : entries.find? assignment.setting.fileKey with
  | none =>
    rw [found] at shown
    simp [← Option.some.inj shown]
  | some item =>
    rw [found] at shown
    obtain ⟨other, reads, same⟩ := Option.map_eq_some_iff.1 shown
    rw [← same, ← reads]
    simp [Setting.ofItem?_eq_some_iff]

end Overrides

end ScriptTokens
