import ScriptTokens.Proofs.Json.Pretty
import ScriptTokens.Proofs.Report

namespace ScriptTokens

def Unstyled (text : String) : Prop := '\x1b' ∉ text.toList

instance (text : String) : Decidable (Unstyled text) :=
  inferInstanceAs (Decidable (¬ '\x1b' ∈ text.toList))

@[simp] theorem unstyled_append_iff {text more : String} :
    Unstyled (text ++ more) ↔ Unstyled text ∧ Unstyled more := by
  simp [Unstyled]

theorem unstyled_intercalate {separator : String} (h : Unstyled separator) {texts : List String}
    (all : ∀ text ∈ texts, Unstyled text) : Unstyled (separator.intercalate texts) := by
  induction texts with
  | nil => simp [Unstyled]
  | cons text texts ih =>
    rw [List.forall_mem_cons] at all
    cases texts with
    | nil => simpa using all.1
    | cons next texts =>
      rw [String.intercalate_cons_cons, unstyled_append_iff, unstyled_append_iff]
      exact ⟨⟨all.1, h⟩, ih all.2⟩

theorem not_mem_eraseSequences (inside : Bool) (text : List Char) :
    '\x1b' ∉ eraseSequences inside text := by
  induction text generalizing inside with
  | nil => exact List.not_mem_nil
  | cons c text ih =>
    unfold eraseSequences
    split
    · exact ih _
    split
    · exact ih true
    next other =>
      exact List.not_mem_cons_of_ne_of_not_mem (Ne.symm other) (ih false)

theorem Erases.unstyled {text plain : String} (h : Erases text plain) : Unstyled plain := by
  rw [← h.erase_eq, Unstyled, erase, String.toList_ofList]
  exact not_mem_eraseSequences false text.toList

theorem unstyled_toString (n : Nat) : Unstyled (toString n) :=
  (Text.prints_toString n).not_mem (by decide)

namespace Json

theorem escape_ne_hexDigit {n : Nat} (h : n < 16) : '\x1b' ≠ hexDigit n := by
  intro same
  have printable : Text.isPrintable (hexDigit n) = true := Text.isPrintable_digitChar n h
  rw [← same] at printable
  exact absurd printable (by decide)

theorem not_mem_escapeChar (c : Char) : '\x1b' ∉ escapeChar c := by
  have written := escape_escapeChar c
  generalize escapeChar c = form at written ⊢
  cases written with
  | letter read =>
    refine List.not_mem_cons_of_ne_of_not_mem (by decide) fun member => ?_
    rw [← List.mem_singleton.mp member] at read
    cases read
  | number control =>
    have high := escape_ne_hexDigit (n := c.toNat / 16) (by omega)
    have low := escape_ne_hexDigit (n := c.toNat % 16) (by omega)
    simp [high, low]
  | plain _ _ printed =>
    intro member
    rw [← List.mem_singleton.mp member] at printed
    exact printed (by decide)

theorem unstyled_quote (text : String) : Unstyled (quote text) := by
  have inside : '\x1b' ∉ text.toList.flatMap escapeChar := by
    intro member
    obtain ⟨c, -, member⟩ := List.mem_flatMap.mp member
    exact not_mem_escapeChar c member
  simp [Unstyled, quote, inside]

theorem unstyled_newline (depth : Nat) : Unstyled (newline depth) := by
  simp [Unstyled, newline]

mutual

theorem unstyled_render (depth : Nat) : (json : Json) → Unstyled (render depth json)
  | .number n => unstyled_toString n
  | .string text => unstyled_quote text
  | .array [] => by
    rw [render]
    decide
  | .array (first :: more) => by
    have one := unstyled_render (depth + 1) first
    have others := unstyled_renderElements (depth + 1) more
    simp +decide [render, unstyled_newline, one, others]
  | .object [] => by
    rw [render]
    decide
  | .object (first :: more) => by
    have one := unstyled_renderMember (depth + 1) first
    have others := unstyled_renderMembers (depth + 1) more
    simp +decide [render, unstyled_newline, one, others]

theorem unstyled_renderElements (depth : Nat) :
    (elements : List Json) → Unstyled (renderElements depth elements)
  | [] => by
    rw [renderElements]
    decide
  | element :: more => by
    have one := unstyled_render depth element
    have others := unstyled_renderElements depth more
    simp +decide [renderElements, unstyled_newline, one, others]

theorem unstyled_renderMember (depth : Nat) :
    (member : String × Json) → Unstyled (renderMember depth member)
  | (name, value) => by
    have one := unstyled_render depth value
    simp +decide [renderMember, unstyled_quote, one]

theorem unstyled_renderMembers (depth : Nat) :
    (members : List (String × Json)) → Unstyled (renderMembers depth members)
  | [] => by
    rw [renderMembers]
    decide
  | member :: more => by
    have one := unstyled_renderMember depth member
    have others := unstyled_renderMembers depth more
    simp +decide [renderMembers, unstyled_newline, one, others]

end

end Json

namespace Report

def IsOfSource (report : Report) : Prop :=
  ∃ path source docsOnly, report = ofSource path source docsOnly

theorem IsOfSource.exists_listing {report : Report} (h : report.IsOfSource) (color : Bool) :
    ∃ listing, report.listing color = .ok listing := by
  obtain ⟨path, source, docsOnly, rfl⟩ := h
  obtain ⟨positionOf, listed⟩ := Report.exists_listing path source docsOnly
  exact ⟨_, listed color⟩

theorem unstyled_listing {report : Report} (h : report.IsOfSource)
    (path : ∀ name ∈ report.path, Unstyled name) {listing : String}
    (listed : report.listing false = .ok listing) : Unstyled listing := by
  obtain ⟨name, source, docsOnly, rfl⟩ := h
  obtain ⟨positionOf, plain⟩ := Report.exists_listing name source docsOnly
  rw [plain] at listed
  obtain rfl := Except.ok.inj listed
  refine unstyled_append_iff.mpr ⟨?_, ?_⟩
  · cases name with
    | none => decide
    | some name => exact (erases_heading (path name rfl)).unstyled
  · refine (Erases.join fun token _ => erases_listingLine (positionOf token) token).unstyled

theorem render_text {config : Config} (text : config.format = .text) {reports : List Report}
    {listingOf : Report → String}
    (listed : ∀ report ∈ reports, report.listing config.color = .ok (listingOf report)) :
    render reports config = .ok ("\n".intercalate (reports.map listingOf)) := by
  rw [render, text]
  simp only [mapM_eq_pure listed]
  rfl

theorem exists_listingOf (reports : List Report) (color : Bool)
    (read : ∀ report ∈ reports, report.IsOfSource) :
    ∃ listingOf : Report → String, ∀ report ∈ reports,
      report.listing color = .ok (listingOf report) := by
  choose! listingOf listed using fun report member => (read report member).exists_listing color
  exact ⟨listingOf, listed⟩

theorem unstyled_render {reports : List Report} (read : ∀ report ∈ reports, report.IsOfSource)
    (paths : ∀ report ∈ reports, ∀ name ∈ report.path, Unstyled name) {config : Config}
    (plain : config.color = false) {text : String} (rendered : render reports config = .ok text) :
    Unstyled text := by
  cases format : config.format with
  | text =>
    obtain ⟨listingOf, listed⟩ := exists_listingOf reports config.color read
    rw [render_text format listed] at rendered
    obtain rfl := Except.ok.inj rendered
    refine unstyled_intercalate (by decide) (List.forall_mem_map.mpr fun report member => ?_)
    exact unstyled_listing (read report member) (paths report member)
      (plain ▸ listed report member)
  | json =>
    rw [render, format] at rendered
    obtain rfl := Except.ok.inj rendered
    exact unstyled_append_iff.mpr ⟨Json.unstyled_render 0 _, by decide⟩

end Report

end ScriptTokens
