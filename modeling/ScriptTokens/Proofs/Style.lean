import ScriptTokens.Style

namespace ScriptTokens

def Erases (text plain : String) : Prop :=
  ∀ rest, eraseSequences false (text.toList ++ rest) = plain.toList ++ eraseSequences false rest

theorem Erases.erase_eq {text plain : String} (h : Erases text plain) : erase text = plain := by
  have all := h []
  rw [List.append_nil, eraseSequences, List.append_nil] at all
  rw [erase, all, String.ofList_toList]

theorem Erases.append {text plain more plainMore : String} (h : Erases text plain)
    (hmore : Erases more plainMore) : Erases (text ++ more) (plain ++ plainMore) := by
  intro rest
  rw [String.toList_append, String.toList_append, List.append_assoc, h, hmore, List.append_assoc]

theorem erases_empty : Erases "" "" := fun _ => rfl

theorem Erases.join {α : Type} {painted plain : α → String} {items : List α}
    (h : ∀ item ∈ items, Erases (painted item) (plain item)) :
    Erases (String.join (items.map painted)) (String.join (items.map plain)) := by
  induction items with
  | nil => exact erases_empty
  | cons item items ih =>
    rw [List.forall_mem_cons] at h
    rw [List.map_cons, List.map_cons, String.join_cons, String.join_cons]
    exact h.1.append (ih h.2)

theorem eraseSequences_outside {text : List Char} (h : '\x1b' ∉ text) (rest : List Char) :
    eraseSequences false (text ++ rest) = text ++ eraseSequences false rest := by
  induction text with
  | nil => rfl
  | cons c text ih =>
    rw [List.mem_cons, not_or] at h
    simp [eraseSequences, Ne.symm h.1, ih h.2]

theorem erases_self {text : String} (h : '\x1b' ∉ text.toList) : Erases text text :=
  eraseSequences_outside h

theorem eraseSequences_inside {text : List Char} (h : 'm' ∉ text) (rest : List Char) :
    eraseSequences true (text ++ 'm' :: rest) = eraseSequences false rest := by
  induction text with
  | nil => rfl
  | cons c text ih =>
    rw [List.mem_cons, not_or] at h
    have goesOn : (c != 'm') = true := bne_iff_ne.mpr (Ne.symm h.1)
    rw [List.cons_append, eraseSequences, if_pos rfl, goesOn, ih h.2]

theorem erases_controlSequence {codes : String} (h : 'm' ∉ codes.toList) :
    Erases (controlSequence codes) "" := by
  intro rest
  have shape : (controlSequence codes).toList ++ rest =
      '\x1b' :: ('[' :: codes.toList ++ 'm' :: rest) := by
    simp [controlSequence]
  have inside : 'm' ∉ '[' :: codes.toList := by
    simp [h]
  rw [shape, eraseSequences, if_neg (by decide), if_pos rfl, eraseSequences_inside inside]
  rfl

theorem Erases.wrap {text plain first last : String} (h : Erases text plain)
    (hfirst : 'm' ∉ first.toList) (hlast : 'm' ∉ last.toList) :
    Erases (controlSequence first ++ text ++ controlSequence last) plain := by
  have wrapped := ((erases_controlSequence hfirst).append h).append (erases_controlSequence hlast)
  rwa [String.empty_append, String.append_empty] at wrapped

theorem Erases.color {text plain : String} (h : Erases text plain) (color : Color) :
    Erases (color.layer text) plain := by
  apply h.wrap
  · cases color <;> decide
  · decide

theorem Erases.effect {text plain : String} (h : Erases text plain) (effect : Effect) :
    Erases (effect.layer text) plain := by
  apply h.wrap
  · cases effect <;> decide
  · decide

/-- In colour a text is what erasing leaves of it, and otherwise it is written as it is. -/
def Painted (color : Bool) (text plain : String) : Prop :=
  if color then Erases text plain else text = plain

/-- A text is left as it is, and in colour stands between control sequences. -/
def Dressed (color : Bool) (text plain : String) : Prop :=
  ∃ first last, Painted color first "" ∧ Painted color last "" ∧ text = first ++ plain ++ last

theorem dressed_bare (plain : String) : Dressed false plain plain :=
  ⟨"", "", rfl, rfl, by simp⟩

theorem dressed_layers (effect : Effect) (color : Color) (text : String) :
    Dressed true (effect.layer (color.layer text)) text := by
  refine ⟨controlSequence effect.code ++ controlSequence ("3" ++ color.digit),
    controlSequence "39" ++ resetSequence, ?_, ?_, ?_⟩
  · apply (erases_controlSequence _).append (erases_controlSequence _)
    · cases effect <;> decide
    · cases color <;> decide
  · exact (erases_controlSequence (by decide)).append (erases_controlSequence (by decide))
  · simp [Effect.layer, Color.layer, String.append_assoc]

theorem Style.not_mem_codes (style : Style) : 'm' ∉ (";".intercalate style.codes).toList := by
  obtain ⟨color, bright, effect⟩ := style
  cases effect with
  | none => cases color with
    | none => cases bright <;> decide
    | some color => cases color <;> cases bright <;> decide
  | some effect => cases color with
    | none => cases bright <;> cases effect <;> decide
    | some color => cases color <;> cases bright <;> cases effect <;> decide

theorem Style.dressed_apply (style : Style) (text : String) :
    Dressed true (style.apply text) text := by
  rw [apply]
  split
  · exact ⟨"", "", erases_empty, erases_empty, by simp⟩
  · exact ⟨_, _, erases_controlSequence style.not_mem_codes,
      erases_controlSequence (by decide), rfl⟩

end ScriptTokens
