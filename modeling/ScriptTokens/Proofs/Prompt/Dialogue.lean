import ScriptTokens.Program
import ScriptTokens.Proofs.DocSummary
import ScriptTokens.Proofs.Report.Output

namespace ScriptTokens.Prompt

/-- The source that an input brings: its whole text, unless it is blank or a command, or the text of
the file that it loads. -/
inductive Brings (files : FileTree) : String → Report.Input → Prop
  | entered {input : String} : Text.allBlank input.toList = false → Command.parse input = none →
      Brings files input ⟨none, input⟩
  | loaded {input path source : String} : Command.parse input = some (.load, some path) →
      files.read path = .ok source → Brings files input ⟨some path, source⟩

def Leaves (input : String) : Prop := ∃ argument, Command.parse input = some (.exit, argument)

/-- The source that some inputs brought last, or `start` if they brought none. -/
def IsLatest (files : FileTree) (inputs : List String) (start value : Option String) : Prop :=
  (∃ before input after brought, inputs = before ++ input :: after ∧ Brings files input brought ∧
    value = some brought.source ∧ ∀ later ∈ after, ∀ other, ¬ Brings files later other) ∨
  value = start ∧ ∀ input ∈ inputs, ∀ brought, ¬ Brings files input brought

/-- A text is said in a style: nothing but control sequences is put around it. -/
def State.Says (state : State) (style : Style) (plain said : String) : Prop :=
  said = state.paint plain style ∧ Dressed state.color said plain

inductive State.TellsLook (state : State) : Except UnknownKind Bool → Reply → Prop
  | found {found : Bool} {said : String}
    (told : state.Says (.ofColor .yellow) (if found then "true" else "false") said) :
    TellsLook state (.ok found) ⟨said ++ "\n", "", state, true⟩
  | unknown {fault : UnknownKind} {label : String}
    (told : state.Says (Style.ofColor .red).bold "Error" label) :
    TellsLook state (.error fault)
      ⟨"", label ++ ": invalid pattern: " ++ fault.message ++ "\n", state, true⟩

def State.ShowsEntry (state : State) (entry : Nat × String) (line : String) : Prop :=
  ∃ number told, state.Says .dimmed (Text.padLeft 6 (toString entry.1 ++ ":")) number ∧
    state.Says (.ofColor .blue) entry.2 told ∧ line = number ++ " " ++ told ++ "\n"

/-- What is listed of a source: a line for each documentation comment in turn, with the number of
its line and its summary, or a notice that there are none. -/
inductive State.Lists (state : State) (source : String) : String → Prop
  | nothing {notice : String} (bare : ∀ token ∈ tokenize source, token.kind ≠ .docComment)
    (told : state.Says .dimmed "no doc comments" notice) :
    Lists state source (notice ++ "\n")
  | comments {entries : List (Nat × String)} {lines : List String} (some : entries ≠ [])
    (inOrder : List.Forall₂ (Token.ListedAs source)
      ((tokenize source).filter (·.kind == .docComment)) entries)
    (shown : List.Forall₂ state.ShowsEntry entries lines) :
    Lists state source (String.join lines)

/-- What an input does to a state, and what it is told of the source that the state keeps. -/
structure Reply.Answers (files : FileTree) (state : State) (input : String) (reply : Reply) :
    Prop where
  brings : ∀ brought, Brings files input brought →
    reply.state = { state with lastSource := some brought.source } ∧
    Report.Shows state.color state.docsOnly brought reply.output ∧ reply.errors = ""
  keeps : (∀ brought, ¬ Brings files input brought) → reply.state = state
  leaves : reply.goesOn = false ↔ Leaves input
  looks : ∀ source pattern, state.lastSource = some source →
    Command.parse input = some (.look, some pattern) →
    state.TellsLook (runLook source pattern) reply
  lists : ∀ source argument, state.lastSource = some source →
    Command.parse input = some (.docs, argument) →
    state.Lists source reply.output ∧ reply.errors = ""

/-! ## One input -/

theorem parse_of_allBlank {input : String} (h : Text.allBlank input.toList = true) :
    Command.parse input = none := by
  have trimmed : Text.trim input.toList = [] := by
    rw [Text.trim, Text.trimStart, List.dropWhile_eq_nil_iff.mpr (List.all_eq_true.mp h)]
    rfl
  rw [Command.parse, trimmed]

theorem brings_of_parse {files : FileTree} {input : String} {brought : Report.Input}
    {command : Command} {argument : Option String}
    (parsed : Command.parse input = some (command, argument)) :
    Brings files input brought ↔ command = .load ∧ ∃ path, argument = some path ∧
      brought.path = some path ∧ files.read path = .ok brought.source := by
  constructor
  · intro brings
    cases brings with
    | entered _ other =>
      rw [parsed] at other
      cases other
    | loaded load read =>
      rw [parsed] at load
      cases load
      exact ⟨rfl, _, rfl, rfl, read⟩
  · obtain ⟨_, source⟩ := brought
    rintro ⟨rfl, path, rfl, rfl, read⟩
    exact .loaded parsed read

theorem exists_showSource (state : State) (input : Report.Input) :
    ∃ listing, state.showSource input.path input.source =
        .ok (({ state with lastSource := some input.source } : State).tells listing) ∧
      Report.Shows state.color state.docsOnly input listing := by
  obtain ⟨listing, listed, shows⟩ := Report.exists_shows input state.color state.docsOnly
  rw [Report.Input.report] at listed
  exact ⟨listing, by rw [State.showSource, State.render, listed]; rfl, shows⟩

theorem exists_execute (files : FileTree) (state : State) {command : Command}
    (notLoad : command ≠ .load) (argument : Option String) :
    ∃ reply, state.execute files command argument = .ok reply ∧ reply.state = state ∧
      (reply.goesOn = false ↔ command = .exit) := by
  cases command with
  | load => exact absurd rfl notLoad
  | look =>
    refine ⟨state.lookAt argument, rfl, ?_⟩
    unfold State.lookAt
    repeat' split
    all_goals exact ⟨rfl, by simp [State.usage, State.tells, State.complains, State.fails]⟩
  | docs =>
    rw [State.execute]
    split
    all_goals exact ⟨_, rfl, rfl, by simp [State.usage, State.tells, State.complains]⟩
  | _ => exact ⟨_, rfl, rfl, by simp [State.tells]⟩

theorem exists_load (files : FileTree) (state : State) (argument : Option String) :
    ∃ reply, state.execute files .load argument = .ok reply ∧ reply.goesOn = true ∧
      (∀ path source, argument = some path → files.read path = .ok source →
        reply.state = { state with lastSource := some source } ∧
        Report.Shows state.color state.docsOnly ⟨some path, source⟩ reply.output ∧
        reply.errors = "") ∧
      ((∀ path source, argument = some path → files.read path ≠ .ok source) →
        reply.state = state) := by
  cases argument with
  | none =>
    exact ⟨state.usage ".load" "requires a file path", rfl, rfl, by simp, fun _ => rfl⟩
  | some path =>
    cases read : files.read path with
    | ok source =>
      obtain ⟨listing, shown, shows⟩ := exists_showSource state ⟨some path, source⟩
      refine ⟨State.tells { state with lastSource := some source } listing, ?_, rfl, ?_, ?_⟩
      · simp only [State.execute, read, shown]
      · rintro _ other ⟨⟩ again
        rw [read] at again
        cases again
        exact ⟨rfl, shows, rfl⟩
      · exact fun none => absurd read (none path source rfl)
    | error fault =>
      refine ⟨state.fails (.unreadable path fault), ?_, rfl, ?_, fun _ => rfl⟩
      · simp only [State.execute, read]
      · rintro _ other ⟨⟩ again
        rw [read] at again
        cases again

theorem State.says_paint (state : State) (plain : String) (style : Style) :
    state.Says style plain (state.paint plain style) := by
  refine ⟨rfl, ?_⟩
  rw [State.paint]
  cases state.color with
  | true => exact style.dressed_apply plain
  | false => exact dressed_bare plain

theorem tellsLook_lookAt {state : State} {source : String} (kept : state.lastSource = some source)
    (pattern : String) : state.TellsLook (runLook source pattern) (state.lookAt (some pattern)) := by
  simp only [State.lookAt, kept]
  cases runLook source pattern with
  | ok found => exact .found (state.says_paint _ _)
  | error fault =>
    have message : ": " ++ (Failure.badPattern fault).message =
        ": invalid pattern: " ++ fault.message := by
      change ": " ++ ("invalid pattern: " ++ fault.message) = _
      rw [← String.append_assoc]
      rfl
    have told : state.errorLabel ++ ": " ++ (Failure.badPattern fault).message =
        state.errorLabel ++ ": invalid pattern: " ++ fault.message := by
      rw [String.append_assoc, message, ← String.append_assoc]
    change state.TellsLook _ (state.fails (.badPattern fault))
    rw [State.fails, State.complains, told]
    exact .unknown (state.says_paint _ _)

theorem lists_summaries (state : State) (source : String) :
    state.Lists source (state.summaries source) := by
  have inOrder : List.Forall₂ (Token.ListedAs source)
      ((tokenize source).filter (·.kind == .docComment)) (docSummaries source) :=
    forall₂_docSummaries fun _ member kind => Token.listedAs_of_mem member kind
  rw [State.summaries]
  split
  · rename_i none
    rw [none, List.forall₂_nil_right_iff, List.filter_eq_nil_iff] at inOrder
    exact .nothing (fun token member kind => inOrder token member (beq_iff_eq.mpr kind))
      (state.says_paint _ _)
  · rename_i some
    refine .comments some inOrder ?_
    rw [List.forall₂_map_right_iff, List.forall₂_same]
    exact fun entry _ => ⟨_, _, state.says_paint _ _, state.says_paint _ _, rfl⟩

theorem execute_docs {state : State} {source : String} (kept : state.lastSource = some source)
    (files : FileTree) (argument : Option String) :
    state.execute files .docs argument = .ok (state.tells (state.summaries source)) := by
  rw [State.execute, kept]

theorem answer_of_parse {files : FileTree} {state : State} {input : String} {command : Command}
    {argument : Option String} (parsed : Command.parse input = some (command, argument)) :
    state.answer files input = state.execute files command argument := by
  have filled : ¬ Text.allBlank input.toList = true := by
    intro blank
    rw [parse_of_allBlank blank] at parsed
    cases parsed
  rw [State.answer, if_neg filled, parsed]

theorem answers_of_execute {files : FileTree} {state : State} {input : String} {command : Command}
    {argument : Option String} (parsed : Command.parse input = some (command, argument))
    {reply : Reply} (executed : state.execute files command argument = .ok reply)
    (brings : ∀ path source, command = .load → argument = some path →
      files.read path = .ok source →
      reply.state = { state with lastSource := some source } ∧
      Report.Shows state.color state.docsOnly ⟨some path, source⟩ reply.output ∧
      reply.errors = "")
    (keeps : (∀ path source, command = .load → argument = some path →
      files.read path ≠ .ok source) → reply.state = state)
    (leaves : reply.goesOn = false ↔ command = .exit) : reply.Answers files state input where
  brings brought isBrought := by
    obtain ⟨load, path, given, same, read⟩ := (brings_of_parse parsed).mp isBrought
    obtain ⟨_, source⟩ := brought
    obtain rfl : _ = some path := same
    exact brings path source load given read
  keeps silent :=
    keeps fun path source load given read =>
      silent ⟨some path, source⟩ ((brings_of_parse parsed).mpr ⟨load, path, given, rfl, read⟩)
  leaves := by
    rw [leaves, Leaves, parsed]
    constructor
    · rintro rfl
      exact ⟨argument, rfl⟩
    · rintro ⟨_, ⟨⟩⟩
      rfl
  looks source pattern kept look := by
    rw [parsed] at look
    cases look
    rw [State.execute] at executed
    obtain rfl := Except.ok.inj executed
    exact tellsLook_lookAt kept pattern
  lists source argument kept docs := by
    rw [parsed] at docs
    cases docs
    rw [execute_docs kept] at executed
    obtain rfl := Except.ok.inj executed
    exact ⟨lists_summaries state source, rfl⟩

theorem answers_of_text {files : FileTree} {state : State} {input : String}
    (text : Command.parse input = none) {reply : Reply} (goesOn : reply.goesOn = true)
    (blank : Text.allBlank input.toList = true → reply.state = state)
    (entered : Text.allBlank input.toList = false →
      reply.state = { state with lastSource := some input } ∧
      Report.Shows state.color state.docsOnly ⟨none, input⟩ reply.output ∧ reply.errors = "") :
    reply.Answers files state input where
  brings brought isBrought := by
    cases isBrought with
    | entered filled _ => exact entered filled
    | loaded load _ =>
      rw [text] at load
      cases load
  keeps silent := by
    cases filled : Text.allBlank input.toList with
    | true => exact blank filled
    | false => exact absurd (.entered filled text) (silent ⟨none, input⟩)
  leaves := by simp [goesOn, Leaves, text]
  looks := by simp [text]
  lists := by simp [text]

theorem exists_answer (files : FileTree) (state : State) (input : String) :
    ∃ reply, state.answer files input = .ok reply ∧ reply.Answers files state input := by
  cases parsed : Command.parse input with
  | none =>
    by_cases blank : Text.allBlank input.toList = true
    · refine ⟨state.tells "", by rw [State.answer, if_pos blank],
        answers_of_text parsed rfl (fun _ => rfl) ?_⟩
      simp [blank]
    · obtain ⟨listing, shown, shows⟩ := exists_showSource state ⟨none, input⟩
      refine ⟨_, by rw [State.answer, if_neg blank, parsed]; exact shown,
        answers_of_text parsed rfl ?_ (fun _ => ⟨rfl, shows, rfl⟩)⟩
      simp [blank]
  | some command =>
    obtain ⟨command, argument⟩ := command
    rw [answer_of_parse parsed]
    by_cases load : command = .load
    · subst load
      obtain ⟨reply, executed, goesOn, brings, keeps⟩ := exists_load files state argument
      refine ⟨reply, executed, answers_of_execute parsed executed ?_ ?_ ?_⟩
      · exact fun path source _ => brings path source
      · exact fun none => keeps fun path source => none path source rfl
      · simp [goesOn]
    · obtain ⟨reply, executed, kept, leaves⟩ := exists_execute files state load argument
      refine ⟨reply, executed, answers_of_execute parsed executed ?_ (fun _ => kept) leaves⟩
      exact fun _ _ isLoad => absurd isLoad load

theorem answers_of_answer {files : FileTree} {state : State} {input : String} {reply : Reply}
    (answered : state.answer files input = .ok reply) : reply.Answers files state input := by
  obtain ⟨other, again, answers⟩ := exists_answer files state input
  rw [answered] at again
  cases again
  exact answers

/-! ## One input after the other -/

/-- The state to which inputs lead when none of them leaves. -/
inductive Leads (files : FileTree) : State → List String → State → Prop
  | start {state : State} : Leads files state [] state
  | answered {state last : State} {input : String} {inputs : List String} {reply : Reply} :
      state.answer files input = .ok reply → reply.goesOn = true →
      Leads files reply.state inputs last → Leads files state (input :: inputs) last

namespace Leads
variable {files : FileTree} {state last : State} {inputs : List String}

theorem unchanged (h : Leads files state inputs last) :
    last.color = state.color ∧ last.docsOnly = state.docsOnly := by
  induction h with
  | start => exact ⟨rfl, rfl⟩
  | @answered state last input inputs reply answered _ _ ih =>
    have answers := answers_of_answer answered
    by_cases brings : ∃ brought, Brings files input brought
    · obtain ⟨brought, isBrought⟩ := brings
      rwa [(answers.brings brought isBrought).1] at ih
    · rwa [answers.keeps (not_exists.mp brings)] at ih

theorem isLatest (h : Leads files state inputs last) :
    IsLatest files inputs state.lastSource last.lastSource := by
  induction h with
  | start => exact .inr ⟨rfl, by simp⟩
  | @answered state last input inputs reply answered _ _ ih =>
    have answers := answers_of_answer answered
    by_cases brings : ∃ brought, Brings files input brought
    · obtain ⟨brought, isBrought⟩ := brings
      rw [(answers.brings brought isBrought).1] at ih
      obtain ⟨before, later, after, other, rfl, isOther, same, silent⟩ | ⟨same, silent⟩ := ih
      · exact .inl ⟨input :: before, later, after, other, rfl, isOther, same, silent⟩
      · exact .inl ⟨[], input, inputs, brought, rfl, isBrought, same, silent⟩
    · rw [answers.keeps (not_exists.mp brings)] at ih
      obtain ⟨before, later, after, other, rfl, isOther, same, silent⟩ | ⟨same, silent⟩ := ih
      · exact .inl ⟨input :: before, later, after, other, rfl, isOther, same, silent⟩
      · exact .inr ⟨same, List.forall_mem_cons.mpr ⟨not_exists.mp brings, silent⟩⟩

end Leads

theorem exists_leads (files : FileTree) (state : State) {inputs : List String}
    (stays : ∀ input ∈ inputs, ¬ Leaves input) : ∃ last, Leads files state inputs last := by
  induction inputs generalizing state with
  | nil => exact ⟨state, .start⟩
  | cons input inputs ih =>
    rw [List.forall_mem_cons] at stays
    obtain ⟨reply, answered, answers⟩ := exists_answer files state input
    have goesOn : reply.goesOn = true := by
      rw [← Bool.not_eq_false]
      exact fun left => stays.1 (answers.leaves.mp left)
    obtain ⟨last, leads⟩ := ih reply.state stays.2
    exact ⟨last, .answered answered goesOn leads⟩

def Transcript.behind (output errors : String) (transcript : Transcript) : Transcript :=
  { transcript with output := output ++ transcript.output, errors := errors ++ transcript.errors }

theorem map_behind_behind (output errors more moreErrors : String)
    (rest : Except Text.OffsetFault Transcript) :
    (rest.map (Transcript.behind more moreErrors)).map (Transcript.behind output errors) =
      rest.map (Transcript.behind (output ++ more) (errors ++ moreErrors)) := by
  cases rest <;> simp [Except.map, Transcript.behind, String.append_assoc]

def Reply.rest (reply : Reply) (files : FileTree) (invitation : State → String)
    (inputs : List String) : Except Text.OffsetFault Transcript :=
  if reply.goesOn then converse files invitation reply.state inputs
  else .ok ⟨"", "", reply.state, true⟩

theorem converse_cons {files : FileTree} {state : State} {input : String} {reply : Reply}
    (answered : state.answer files input = .ok reply) (invitation : State → String)
    (inputs : List String) :
    converse files invitation state (input :: inputs) =
      (reply.rest files invitation inputs).map
        (Transcript.behind (invitation state ++ reply.output) reply.errors) := by
  rw [converse, answered, Reply.rest]
  cases goesOn : reply.goesOn with
  | false => simp [bind, Except.bind, pure, Except.pure, Except.map, Transcript.behind, goesOn]
  | true =>
    simp only [bind, Except.bind, goesOn, if_true]
    cases converse files invitation reply.state inputs <;> rfl

theorem Leads.converse_append {files : FileTree} {state last : State} {inputs : List String}
    (h : Leads files state inputs last) (invitation : State → String) :
    ∃ output errors, ∀ more, converse files invitation state (inputs ++ more) =
      (converse files invitation last more).map (Transcript.behind output errors) := by
  induction h with
  | @start state =>
    refine ⟨"", "", fun more => ?_⟩
    rw [List.nil_append]
    cases converse files invitation state more <;> simp [Except.map, Transcript.behind]
  | @answered state last input inputs reply answered goesOn _ ih =>
    obtain ⟨output, errors, said⟩ := ih
    refine ⟨invitation state ++ reply.output ++ output, reply.errors ++ errors, fun more => ?_⟩
    rw [List.cons_append, converse_cons answered, Reply.rest, if_pos goesOn, said,
      map_behind_behind]

/-- Behind any inputs the prompt keeps the source that they brought last, and writes as it was
configured to. The next input is answered in this state, and the dialogue goes on with it. -/
theorem dialogue_keeps_latest_source (config : Config) (files : FileTree)
    (invitation : State → String) {inputs : List String}
    (stays : ∀ input ∈ inputs, ¬ Leaves input) :
    ∃ said, converse files invitation (.ofConfig config) inputs = .ok said ∧ said.left = false ∧
      IsLatest files inputs none said.state.lastSource ∧ said.state.color = config.color ∧
      said.state.docsOnly = config.docsOnly ∧
      ∀ input after, ∃ reply, said.state.answer files input = .ok reply ∧
        reply.Answers files said.state input ∧
        converse files invitation (.ofConfig config) (inputs ++ input :: after) =
          (reply.rest files invitation after).map
            (Transcript.behind (said.output ++ reply.output) (said.errors ++ reply.errors)) := by
  obtain ⟨last, leads⟩ := exists_leads files (.ofConfig config) stays
  obtain ⟨output, errors, said⟩ := leads.converse_append invitation
  refine ⟨⟨output ++ invitation last, errors, last, false⟩, ?_, rfl, leads.isLatest,
    leads.unchanged.1, leads.unchanged.2, fun input after => ?_⟩
  · have all := said []
    rw [List.append_nil, converse] at all
    rw [all]
    simp [Except.map, Transcript.behind]
  · obtain ⟨reply, answered, answers⟩ := exists_answer files last input
    refine ⟨reply, answered, answers, ?_⟩
    rw [said, converse_cons answered, map_behind_behind, String.append_assoc]

instance (input : String) : Decidable (Leaves input) :=
  decidable_of_iff ((Command.parse input).map (·.1) = some .exit) <| by
    simp [Leaves]

theorem dialogue_keeps_loaded_source :
    let files := FileTree.empty.insert "a.js" (.file "/** d */ x".toUTF8)
    let inputs := [" y ", ".LOAD a.js", ".load b.js", ".look :thing", ".docs", "\t"]
    (∀ input ∈ inputs, ¬ Leaves input) ∧
      ∃ said, converse files State.promptText (.ofConfig .default) inputs = .ok said ∧
        said.state.lastSource = some "/** d */ x" ∧
        (∃ reply, said.state.answer files ".look :doc_comment x" = .ok reply ∧
          said.state.TellsLook (.ok true) reply) ∧
        ∃ reply, said.state.answer files ".docs" = .ok reply ∧
          said.state.Lists "/** d */ x" reply.output := by
  intro files inputs
  have stays : ∀ input ∈ inputs, ¬ Leaves input := by
    decide +kernel
  obtain ⟨said, conversed, -, latest, -, -, next⟩ :=
    dialogue_keeps_latest_source .default files State.promptText stays
  have kept : said.state.lastSource = some "/** d */ x" := by
    have told : (converse files State.promptText (.ofConfig .default) inputs).map
        (·.state.lastSource) = .ok (some "/** d */ x") := by
      decide +kernel
    rw [conversed] at told
    exact Except.ok.inj told
  obtain ⟨looked, answered, answers, -⟩ := next ".look :doc_comment x" []
  obtain ⟨listed, answeredDocs, answersDocs, -⟩ := next ".docs" []
  refine ⟨stays, said, conversed, kept, ⟨looked, answered, ?_⟩, listed, answeredDocs, ?_⟩
  · have found : runLook "/** d */ x" ":doc_comment x" = .ok true := by
      decide +kernel
    rw [← found]
    exact answers.looks _ ":doc_comment x" kept (by decide +kernel)
  · exact (answersDocs.lists _ none kept (by decide +kernel)).1

end ScriptTokens.Prompt
