import Mathlib.Data.List.Forall2
import ScriptTokens.Proofs.Report.Document
import ScriptTokens.Proofs.Report.Listing
import ScriptTokens.Proofs.Report.Rendering

/-!
# What rendered reports say

The output for some inputs tells their tokens in order. As text it has a listing for each input,
which shows a row for each token; the place of a row is told by the newlines before the token. As a
document it decodes to the paths and the tokens. `Output` says so without a word on how either form
is written, and what is rendered meets it (`exists_output`).
-/

namespace ScriptTokens
open Text

/-- The row of a token, placed by the newlines before it and the characters behind the last one. -/
structure Row.Tells (source : List Char) (token : Token) (row : Row) : Prop where
  kind : row.kind = token.kind
  value : row.value = token.value
  place : ∃ before after, source = before ++ after ∧ token.span.start = byteSize before ∧
    row.position = ⟨before.count '\n' + 1, (lastLine before).length + 1⟩

namespace Report

structure Input where
  path : Option String
  source : String

def Input.report (input : Input) (docsOnly : Bool) : Report :=
  .ofSource input.path input.source docsOnly

def Input.tokens (input : Input) (docsOnly : Bool) : List Token :=
  if docsOnly then (tokenize input.source).filter (·.kind == .docComment)
  else tokenize input.source

def ShowsRow (color : Bool) (line : String) (row : Row) : Prop :=
  ∃ plain, Painted color line (plain ++ "\n") ∧ (∀ c ∈ plain.toList, isControl c = false) ∧
    Row.read? plain.toList = some row

def ShowsPath (color : Bool) (title : String) : Option String → Prop
  | none => title = ""
  | some path => ∃ heading, Dressed color heading ("==> " ++ path) ∧ title = heading ++ "\n"

/-- A listing names the path of its input, if there is one, and has a line for each token. -/
def Shows (color docsOnly : Bool) (input : Input) (listing : String) : Prop :=
  ∃ (title : String) (lines : List String) (rows : List Row),
    listing = title ++ String.join lines ∧ ShowsPath color title input.path ∧
    List.Forall₂ (ShowsRow color) lines rows ∧
    List.Forall₂ (Row.Tells input.source.toList) (input.tokens docsOnly) rows

inductive Output (config : Config) (inputs : List Input) : String → Prop
  | listings {listings : List String} (text : config.format = .text)
    (inOrder : List.Forall₂ (Shows config.color config.docsOnly) inputs listings) :
    Output config inputs ("\n".intercalate listings)
  | document {text : String} {value : Json.Value} (json : config.format = .json)
    (read : Json.read? text = some value)
    (tells : ofDocument? value = some (inputs.map fun input =>
      (input.path, input.tokens config.docsOnly)))
    (alone : value.isObject = true ↔ ∃ source, inputs = [⟨none, source⟩])
    (together : value.isArray = true ↔ ¬ ∃ source, inputs = [⟨none, source⟩]) :
    Output config inputs text

@[simp] theorem Input.tokens_report (input : Input) (docsOnly : Bool) :
    (input.report docsOnly).tokens = input.tokens docsOnly := by
  cases docsOnly <;> simp [report, ofSource, tokens]

theorem tells_of_position {source : String} {token : Token} {position : Position}
    (member : token ∈ tokenize source)
    (placed : (LineIndex.ofText source.toList).position token.span.start = .ok position) :
    Row.Tells source.toList token ⟨position, token.kind, token.value⟩ := by
  obtain ⟨before, after, whole, start⟩ := isBoundary_start member
  rw [whole, ← start, LineIndex.position_byteSize] at placed
  exact ⟨rfl, rfl, before, after, whole, start.symm, (Except.ok.inj placed).symm⟩

theorem showsRow_listingLine (color : Bool) (position : Position) (token : Token) :
    ShowsRow color (listingLine color position token) ⟨position, token.kind, token.value⟩ := by
  let row : Row := ⟨position, token.kind, token.value⟩
  have bare : listingLine false position token = String.ofList row.line ++ "\n" := by
    rw [← String.toList_inj, Row.toList_listingLine, String.toList_append, String.toList_ofList]
    rfl
  refine ⟨String.ofList row.line, ?_, ?_, ?_⟩
  · rw [← bare]
    cases color with
    | true => exact erases_listingLine position token
    | false => rfl
  · rw [String.toList_ofList]
    exact fun c inLine => not_isControl_of_isPrintable (row.prints_line c inLine)
  · rw [String.toList_ofList]
    exact row.read?_line

theorem showsPath_heading (color : Bool) (path : Option String) :
    ShowsPath color ((path.map (heading color)).getD "") path := by
  cases path with
  | none => rfl
  | some path =>
    cases color with
    | true => exact ⟨_, dressed_layers .bold .white _, rfl⟩
    | false => exact ⟨_, dressed_bare _, rfl⟩

theorem exists_shows (input : Input) (color docsOnly : Bool) :
    ∃ listing, (input.report docsOnly).listing color = .ok listing ∧
      Shows color docsOnly input listing := by
  obtain ⟨positionOf, positioned⟩ := exists_positionOf input.source
  have placed : ∀ token ∈ (input.report docsOnly).tokens,
      (LineIndex.ofText input.source.toList).position token.span.start = .ok (positionOf token) :=
    fun token member => positioned token (List.mem_of_mem_filter member)
  refine ⟨_, listing_eq placed color, _, _, (input.report docsOnly).tokens.map fun token =>
    ⟨positionOf token, token.kind, token.value⟩, rfl, showsPath_heading color input.path, ?_, ?_⟩
  · rw [List.forall₂_map_left_iff, List.forall₂_map_right_iff, List.forall₂_same]
    exact fun token _ => showsRow_listingLine color (positionOf token) token
  · rw [← input.tokens_report docsOnly, List.forall₂_map_right_iff, List.forall₂_same]
    exact fun token member =>
      tells_of_position (List.mem_of_mem_filter member) (placed token member)

theorem standsAlone_iff {inputs : List Input} {docsOnly : Bool} :
    StandsAlone (inputs.map (·.report docsOnly)) ↔ ∃ source, inputs = [⟨none, source⟩] := by
  constructor
  · rintro ⟨report, single, unnamed⟩
    obtain ⟨⟨path, source⟩, rfl, rfl⟩ := List.map_eq_singleton_iff.mp single
    exact ⟨source, by rw [show path = none from unnamed]⟩
  · rintro ⟨source, rfl⟩
    exact ⟨_, rfl, rfl⟩

theorem exists_output (config : Config) (inputs : List Input) :
    ∃ text, render (inputs.map (·.report config.docsOnly)) config = .ok text ∧
      Output config inputs text := by
  cases format : config.format with
  | text =>
    choose listingOf listed shown using fun input => exists_shows input config.color config.docsOnly
    have all : ∀ report ∈ inputs.map (·.report config.docsOnly),
        report.listing config.color = .ok (listingOf ⟨report.path, report.source⟩) := by
      intro report member
      obtain ⟨input, -, rfl⟩ := List.mem_map.mp member
      exact listed input
    refine ⟨_, render_text format all, .listings format ?_⟩
    rw [List.map_map, List.forall₂_map_right_iff, List.forall₂_same]
    exact fun input _ => shown input
  | json =>
    have contents : (inputs.map (·.report config.docsOnly)).map contents =
        inputs.map fun input => (input.path, input.tokens config.docsOnly) := by
      rw [List.map_map]
      refine List.map_congr_left fun input _ => ?_
      rw [← input.tokens_report config.docsOnly]
      rfl
    obtain ⟨decoded, alone, together⟩ :=
      document_decodes (inputs.map (·.report config.docsOnly))
    rw [standsAlone_iff] at alone together
    exact ⟨_, render_json format _,
      .document format (Json.read?_pretty _) (contents ▸ decoded) alone together⟩

end Report

end ScriptTokens
