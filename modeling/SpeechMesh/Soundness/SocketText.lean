import SpeechMesh.Model.MinimaxMessages

/-! # The text of a MiniMax socket session

A socket session should say to the provider what was appended before the first commit, once, and
then that this was all. What it says is read off the payloads it writes. It does so unless a commit
comes too early or twice, text comes too late, the provider announces the start again, or an option
stands in the place of a field of the first message.
-/

namespace SpeechMesh.Soundness.SocketText

open Async Model

/-! ## What the provider hears -/

/-- What a payload tells the provider: a text to speak, or that nothing follows. -/
inductive Said where
  | text (text : String)
  | finish
deriving DecidableEq, Repr

/-- A text that is there and not empty. -/
def spokenText (value : Json) : Option String := value.asString?.filter (· ≠ "")

def event? (payload : Json) : Option String := (payload.get? "event").bind Json.asString?

def said (payload : Json) : Option Said :=
  if event? payload = some "task_start" ∨ event? payload = some "task_continue" then
    ((payload.get? "text").bind spokenText).map .text
  else if event? payload = some "task_finish" then some .finish
  else none

/-- The payloads of what was written, in order. -/
def payloads (settings : MiniMaxWsSettings) (written : List MiniMaxWsOutgoing) : List Json :=
  written.filterMap settings.payload?

/-! ## What the session is fed -/

def isCommit : MiniMaxWsInput → Bool
  | .command .commit => true
  | _ => false

def isTaskStarted : MiniMaxWsInput → Bool
  | .message (.text (.ok event)) => event.event = some "task_started"
  | _ => false

def delta? : MiniMaxWsInput → Option String
  | .command (.appendInput delta) => some delta
  | _ => none

def committed (inputs : List MiniMaxWsInput) : Bool := inputs.any isCommit

def started (inputs : List MiniMaxWsInput) : Bool := inputs.any isTaskStarted

/-- Some text comes before the task has started. -/
def announced : List MiniMaxWsInput → Bool
  | [] => false
  | input :: rest =>
      !isTaskStarted input && ((delta? input).any (· ≠ "") || announced rest)

/-- The texts appended before the first commit. -/
def appended : List MiniMaxWsInput → List String
  | [] => []
  | input :: rest => if isCommit input then [] else (delta? input).toList ++ appended rest

/-- The text to be spoken. -/
def wholeText (mode : StreamMode) (inputs : List MiniMaxWsInput) : String :=
  match mode with
  | .streaming => String.join (appended inputs)
  | .buffered => trim (String.join (appended inputs))

/-- The pieces in which it is to be sent. A buffered session has one, once it is committed. -/
def pieces (mode : StreamMode) (inputs : List MiniMaxWsInput) : List String :=
  match mode with
  | .streaming => (appended inputs).filter (· ≠ "")
  | .buffered => if committed inputs then [wholeText .buffered inputs] else []

/-- The payloads say the pieces, each once, and then that this was all. Until the task has started,
they may be behind. -/
structure TextFaithful (mode : StreamMode) (inputs : List MiniMaxWsInput) (payloads : List Json) :
    Prop where
  waiting : started inputs = false →
    payloads.filterMap said <+: (pieces mode inputs).map .text
  sent : started inputs = true → payloads.filterMap said =
    (pieces mode inputs).map .text ++ if committed inputs then [.finish] else []
  whole : committed inputs = true → String.join (pieces mode inputs) = wholeText mode inputs
  opened : mode = .streaming → committed inputs = true →
    ∃ payload ∈ payloads, event? payload = some "task_start"

/-- At the input that makes a session end well, it may have written what was pending. -/
def settled (session : MiniMaxWsSession) (state : MiniMaxWsState) :
    MiniMaxWsInput → MiniMaxWsState
  | .message (.text (.ok event)) =>
      match session.handleEvent state event with
      | .ok flushed => flushed
      | .error _ => state
  | _ => state

/-- What the session has written once it has taken the inputs, and neither stopped nor failed. -/
inductive Wrote (session : MiniMaxWsSession) (inputs : List MiniMaxWsInput)
    (outbox : Outbox BridgeTtsEvent) : List MiniMaxWsOutgoing → Prop where
  | waiting {state : MiniMaxWsState} {after : Outbox BridgeTtsEvent}
      (ran : session.run inputs outbox = (.ok state, after)) :
      Wrote session inputs outbox state.written
  | ended {earlier : List MiniMaxWsInput} {last : MiniMaxWsInput} {state : MiniMaxWsState}
      {before : Outbox BridgeTtsEvent} (whole : inputs = earlier ++ [last])
      (ran : session.run earlier outbox = (.ok state, before))
      (left : (session.handleInput state before last).1 = .error (.ok none)) :
      Wrote session inputs outbox (settled session state last).written

/-! ## When it is faithful -/

/-- No option replaces the event of the first message, or its text by another. -/
def LeavesText (options : Json) (text : Option String) : Prop :=
  ∀ fields, options = .object fields → ∀ field ∈ fields,
    (field.1 = "event" → field.2.asString? = some "task_start") ∧
    (field.1 = "text" → spokenText field.2 = text)

/-- The input comes at its time: the session commits once, a streaming session after its first text
and before the last, and the task starts once. -/
def Fits (mode : StreamMode) (options : Json) (earlier : List MiniMaxWsInput) :
    MiniMaxWsInput → Prop
  | .command (.appendInput delta) => mode = .streaming → delta ≠ "" →
      committed earlier = false ∧
      (started earlier = false → announced earlier = false → LeavesText options (some delta))
  | .command .commit =>
      match mode with
      | .buffered => committed earlier = false
      | .streaming => announced earlier = true ∧ (started earlier && committed earlier) = false
  | .message (.text (.ok event)) => event.event = some "task_started" →
      (started earlier && committed earlier) = false
  | _ => True

/-- All the inputs come at their time, after earlier ones. -/
def FitAfter (mode : StreamMode) (options : Json) (earlier inputs : List MiniMaxWsInput) : Prop :=
  ∀ before input later, inputs = before ++ input :: later →
    Fits mode options (earlier ++ before) input

structure Fitting (mode : StreamMode) (options : Json) (inputs : List MiniMaxWsInput) : Prop where
  start : mode = .buffered → LeavesText options none
  step : FitAfter mode options [] inputs

theorem fitAfter_nil {mode : StreamMode} {options : Json} {earlier : List MiniMaxWsInput} :
    FitAfter mode options earlier [] := by
  intro before input later same
  have lengths := congrArg List.length same
  rw [List.length_nil, List.length_append, List.length_cons] at lengths
  omega

theorem fitAfter_cons {mode : StreamMode} {options : Json} {earlier rest : List MiniMaxWsInput}
    {input : MiniMaxWsInput} : FitAfter mode options earlier (input :: rest) ↔
      Fits mode options earlier input ∧ FitAfter mode options (earlier ++ [input]) rest := by
  constructor
  · intro fits
    constructor
    · have first := fits [] input rest rfl
      rwa [List.append_nil] at first
    · intro before other later same
      rw [List.append_assoc]
      exact fits (input :: before) other later (congrArg (input :: ·) same)
  · rintro ⟨first, others⟩ before other later same
    cases before with
    | nil =>
      obtain ⟨rfl, _⟩ := List.cons.inj same
      rwa [List.append_nil]
    | cons head before =>
      obtain ⟨rfl, tail⟩ := List.cons.inj same
      have fits := others before other later tail
      rwa [List.append_assoc] at fits

/-! ## Fields of a payload -/

theorem get?_insertField (fields : List (String × Json)) (key name : String) (value : Json) :
    (Json.object (insertField fields key value)).get? name =
      if key = name then some value else (Json.object fields).get? name := by
  induction fields with
  | nil => by_cases same : key = name <;> simp [insertField, Json.get?, same]
  | cons field rest ih =>
    rw [insertField]
    by_cases same : key = name
    · subst same
      rw [if_pos rfl] at ih ⊢
      split_ifs with here
      · simp [Json.get?]
      · rw [← ih]
        simp [Json.get?, here]
    · rw [if_neg same] at ih ⊢
      split_ifs with here
      · simp [Json.get?, same, here]
      · by_cases there : field.1 = name
        · simp [Json.get?, there]
        · simpa [Json.get?, there] using ih

/-- A field of the result is one of those inserted, or none has its name. -/
theorem get?_insertFields (fields others : List (String × Json)) (name : String) :
    (∃ other ∈ others, other.1 = name ∧
      (Json.object (insertFields fields others)).get? name = some other.2) ∨
    (Json.object (insertFields fields others)).get? name = (Json.object fields).get? name := by
  induction others generalizing fields with
  | nil => exact .inr rfl
  | cons other rest ih =>
    rcases ih (insertField fields other.1 other.2) with ⟨later, member, named, found⟩ | found
    · exact .inl ⟨later, List.mem_cons_of_mem other member, named, found⟩
    · rw [get?_insertField] at found
      by_cases same : other.1 = name
      · rw [if_pos same] at found
        exact .inl ⟨other, List.mem_cons_self, same, found⟩
      · rw [if_neg same] at found
        exact .inr found

theorem mem_of_filterReserved {options : Json} {reserved : List String}
    {extra : List (String × Json)} {field : String × Json}
    (filtered : filterReservedProviderOptions options reserved = .object extra)
    (member : field ∈ extra) : ∃ fields, options = .object fields ∧ field ∈ fields := by
  unfold filterReservedProviderOptions at filtered
  split at filtered
  · rename_i fields
    dsimp only at filtered
    split_ifs at filtered with empty
    obtain rfl := Json.object.inj filtered
    exact ⟨fields, rfl, List.mem_of_mem_filter member⟩
  · cases filtered

/-! ## What each message says -/

section Messages

variable {config : MiniMaxVoiceDefaults} {options : MiniMaxVoiceOptions} {outputEncoding : String}

/-- A field of the first message is its own or one of the options. -/
theorem taskStart_field (text : Option String) (name : String) :
    (∃ fields, options.providerOptions = .object fields ∧ ∃ field ∈ fields, field.1 = name ∧
      ((buildMinimaxWsSettings config options outputEncoding).taskStart text).get? name =
        some field.2) ∨
    ((buildMinimaxWsSettings config options outputEncoding).taskStart text).get? name =
      (Json.object ((buildMinimaxWsSettings config options outputEncoding).taskStartFields
        text)).get? name := by
  set settings := buildMinimaxWsSettings config options outputEncoding with built
  rw [MiniMaxWsSettings.taskStart]
  split
  · rename_i extra filtered
    rcases get?_insertFields (settings.taskStartFields text) extra name with
      ⟨field, member, named, found⟩ | found
    · obtain ⟨fields, whole, among⟩ := mem_of_filterReserved filtered member
      exact .inl ⟨fields, whole, field, among, named, found⟩
    · exact .inr found
  · exact .inr rfl

theorem event?_taskStart {text : Option String}
    (leaves : LeavesText options.providerOptions text) :
    event? ((buildMinimaxWsSettings config options outputEncoding).taskStart text) =
      some "task_start" := by
  rw [event?]
  rcases @taskStart_field config options
    outputEncoding text "event" with
    ⟨fields, whole, field, member, named, found⟩ | found
  · rw [found]
    exact (leaves fields whole field member).1 named
  · rw [found]
    rfl

theorem said_taskStart {text : Option String}
    (leaves : LeavesText options.providerOptions text) (nonempty : text ≠ some "") :
    said ((buildMinimaxWsSettings config options outputEncoding).taskStart text) =
      text.map .text := by
  rw [said, if_pos (.inl (event?_taskStart leaves))]
  congr 1
  rcases @taskStart_field config options
    outputEncoding text "text" with
    ⟨fields, whole, field, member, named, found⟩ | found
  · rw [found]
    exact (leaves fields whole field member).2 named
  · rw [found]
    cases text with
    | none => rfl
    | some text =>
      have spoken : text ≠ "" := fun empty => nonempty (congrArg some empty)
      simp [MiniMaxWsSettings.taskStartFields, Json.get?, spokenText, Json.asString?, spoken]

end Messages

/-- What the messages tell the provider, in order. -/
def told (settings : MiniMaxWsSettings) (messages : List MiniMaxWsOutgoing) : List Said :=
  (payloads settings messages).filterMap said

variable {settings : MiniMaxWsSettings}

theorem told_append (first second : List MiniMaxWsOutgoing) :
    told settings (first ++ second) = told settings first ++ told settings second := by
  simp [told, payloads]

theorem told_taskContinue {text : String} (nonempty : text ≠ "") :
    told settings [.taskContinue text] = [.text text] := by
  simp [told, payloads, MiniMaxWsSettings.payload?, said, event?, Json.get?, Json.asString?,
    spokenText, nonempty]

theorem told_taskFinish : told settings [.taskFinish] = [.finish] := by
  simp [told, payloads, MiniMaxWsSettings.payload?, said, event?, Json.get?, Json.asString?]

theorem told_taskStart {config : MiniMaxVoiceDefaults} {options : MiniMaxVoiceOptions}
    {outputEncoding : String} {text : Option String}
    (leaves : LeavesText options.providerOptions text) (nonempty : text ≠ some "") :
    told (buildMinimaxWsSettings config options outputEncoding) [.taskStart text] =
      (text.map Said.text).toList := by
  have payload : payloads (buildMinimaxWsSettings config options outputEncoding)
      [.taskStart text] =
        [(buildMinimaxWsSettings config options outputEncoding).taskStart text] := rfl
  rw [told, payload, ← said_taskStart leaves nonempty, List.filterMap_cons]
  cases said ((buildMinimaxWsSettings config options outputEncoding).taskStart text) <;> rfl

theorem told_nil : told settings [] = [] := rfl

theorem told_pong : told settings [.pong] = [] := rfl

/-! ## One more input -/

variable {mode : StreamMode} {inputs : List MiniMaxWsInput} {input : MiniMaxWsInput}

theorem committed_cons : committed (input :: inputs) = (isCommit input || committed inputs) := rfl

theorem started_cons : started (input :: inputs) = (isTaskStarted input || started inputs) := rfl

theorem committed_snoc : committed (inputs ++ [input]) = (committed inputs || isCommit input) := by
  simp [committed]

theorem started_snoc : started (inputs ++ [input]) = (started inputs || isTaskStarted input) := by
  simp [started]

theorem delta?_of_isTaskStarted (starts : isTaskStarted input = true) : delta? input = none := by
  cases input with
  | command command => cases starts
  | message message => rfl
  | failed error => rfl
  | closed => rfl
  | handleDropped => rfl

theorem delta?_of_isCommit (commits : isCommit input = true) : delta? input = none := by
  cases input with
  | command command =>
    cases command with
    | appendInput delta => cases commits
    | commit => rfl
    | stop => rfl
  | message message => rfl
  | failed error => rfl
  | closed => rfl
  | handleDropped => rfl

theorem announced_snoc : announced (inputs ++ [input]) =
    (announced inputs || !started inputs && (delta? input).any (· ≠ "")) := by
  induction inputs with
  | nil =>
    cases starts : isTaskStarted input with
    | false => simp [announced, started, starts]
    | true => simp [announced, started, starts, delta?_of_isTaskStarted starts]
  | cons first rest ih =>
    rw [List.cons_append, announced, ih, announced, started_cons]
    cases isTaskStarted first <;> simp [Bool.or_assoc]

theorem appended_snoc : appended (inputs ++ [input]) =
    appended inputs ++ if committed inputs then [] else (delta? input).toList := by
  induction inputs with
  | nil =>
    cases commits : isCommit input with
    | false => simp [appended, committed, commits]
    | true => simp [appended, committed, commits, delta?_of_isCommit commits]
  | cons first rest ih =>
    rw [List.cons_append, appended, ih, appended, committed_cons]
    cases isCommit first with
    | false => simp
    | true => simp

theorem committed_snoc_of_open (open_ : isCommit input = false) :
    committed (inputs ++ [input]) = committed inputs := by
  rw [committed_snoc, open_, Bool.or_false]

theorem started_snoc_of_not (unstarted : isTaskStarted input = false) :
    started (inputs ++ [input]) = started inputs := by
  rw [started_snoc, unstarted, Bool.or_false]

theorem announced_snoc_of_silent (silent : delta? input = none) :
    announced (inputs ++ [input]) = announced inputs := by
  rw [announced_snoc, silent, Option.any_none, Bool.and_false, Bool.or_false]

theorem appended_snoc_of_silent (silent : delta? input = none) :
    appended (inputs ++ [input]) = appended inputs := by
  rw [appended_snoc, silent, Option.toList_none, ite_self, List.append_nil]

/-- Only a first commit and the text before it count. -/
theorem pieces_snoc_of_quiet (open_ : isCommit input = false) (silent : delta? input = none) :
    pieces mode (inputs ++ [input]) = pieces mode inputs := by
  cases mode with
  | streaming => rw [pieces, pieces, appended_snoc_of_silent silent]
  | buffered =>
    rw [pieces, pieces, wholeText, wholeText, appended_snoc_of_silent silent,
      committed_snoc_of_open open_]

theorem pieces_streaming_snoc : pieces .streaming (inputs ++ [input]) = pieces .streaming inputs ++
    if committed inputs then [] else (delta? input).toList.filter (· ≠ "") := by
  rw [pieces, pieces, appended_snoc, List.filter_append]
  cases committed inputs <;> simp

theorem appended_of_committed (done : committed inputs = true) :
    appended (inputs ++ [input]) = appended inputs := by
  rw [appended_snoc, done]
  simp

theorem join_filter_nonempty (texts : List String) :
    String.join (texts.filter (· ≠ "")) = String.join texts := by
  induction texts with
  | nil => rfl
  | cons text rest ih =>
    by_cases empty : text = ""
    · subst empty
      rw [List.filter_cons_of_neg (by simp), ih, String.join_cons, String.empty_append]
    · rw [List.filter_cons_of_pos (by simpa using empty), String.join_cons, String.join_cons, ih]

/-- Together the pieces are the text. -/
theorem join_pieces (done : committed inputs = true) :
    String.join (pieces mode inputs) = wholeText mode inputs := by
  cases mode with
  | streaming => exact join_filter_nonempty _
  | buffered =>
    rw [pieces, if_pos done, String.join_cons]
    simp [String.join]

/-! ## The session in step with its inputs -/

/-- The variables of the session say of the inputs what they are for. What has been said and what is
pending are the pieces, and the end is said once the task has started and the session is committed.
-/
structure InStep (settings : MiniMaxWsSettings) (mode : StreamMode) (inputs : List MiniMaxWsInput)
    (state : MiniMaxWsState) : Prop where
  hasStarted : state.started = started inputs
  hasCommitted : state.committed = committed inputs
  hasAnnounced : mode = .streaming → state.taskStartSent = announced inputs
  starting : mode = .buffered → state.taskStartSent = true
  buffered : mode = .buffered → committed inputs = false →
    state.buffered = String.join (appended inputs)
  spoken : told settings (state.written ++ state.pendingChunks.map .taskContinue) =
    (pieces mode inputs).map .text ++
      if started inputs && committed inputs then [.finish] else []
  idle : started inputs = true → state.pendingChunks = []
  unsent : state.taskStartSent = false → state.pendingChunks = []
  opened : mode = .streaming → state.taskStartSent = true →
    ∃ payload ∈ payloads settings state.written, event? payload = some "task_start"
  early : mode = .streaming → committed inputs = true →
    announced inputs = true

theorem opened_append {written : List MiniMaxWsOutgoing} (more : List MiniMaxWsOutgoing)
    (opened : ∃ payload ∈ payloads settings written, event? payload = some "task_start") :
    ∃ payload ∈ payloads settings (written ++ more), event? payload = some "task_start" := by
  obtain ⟨payload, member, starts⟩ := opened
  refine ⟨payload, ?_, starts⟩
  rw [payloads, List.filterMap_append]
  exact List.mem_append_left _ member

theorem InStep.faithful {state : MiniMaxWsState} (inStep : InStep settings mode inputs state) :
    TextFaithful mode inputs (payloads settings state.written) := by
  have told := inStep.spoken
  rw [told_append] at told
  constructor
  case waiting =>
    intro before
    rw [before, Bool.false_and, if_neg Bool.false_ne_true, List.append_nil] at told
    exact ⟨_, told⟩
  case sent =>
    intro after
    rw [inStep.idle after, after, Bool.true_and, List.map_nil, told_nil, List.append_nil] at told
    exact told
  case whole => exact join_pieces
  case opened =>
    intro streaming done
    exact inStep.opened streaming
      ((inStep.hasAnnounced streaming).trans (inStep.early streaming done))

/-- An input that is neither text, nor a commit, nor the start of the task changes nothing. -/
theorem InStep.quiet {state : MiniMaxWsState} (inStep : InStep settings mode inputs state)
    (open_ : isCommit input = false) (unstarted : isTaskStarted input = false)
    (silent : delta? input = none) : InStep settings mode (inputs ++ [input]) state := by
  constructor
  case hasStarted => rw [started_snoc_of_not unstarted, inStep.hasStarted]
  case hasCommitted => rw [committed_snoc_of_open open_, inStep.hasCommitted]
  case hasAnnounced => rw [announced_snoc_of_silent silent]; exact inStep.hasAnnounced
  case starting => exact inStep.starting
  case buffered =>
    rw [committed_snoc_of_open open_, appended_snoc_of_silent silent]
    exact inStep.buffered
  case spoken =>
    rw [started_snoc_of_not unstarted, committed_snoc_of_open open_,
      pieces_snoc_of_quiet open_ silent]
    exact inStep.spoken
  case idle => rw [started_snoc_of_not unstarted]; exact inStep.idle
  case unsent => exact inStep.unsent
  case opened => exact inStep.opened
  case early =>
    rw [committed_snoc_of_open open_, announced_snoc_of_silent silent]
    exact inStep.early

/-- A pong says nothing. -/
theorem InStep.pong {state : MiniMaxWsState} (inStep : InStep settings mode inputs state) :
    InStep settings mode inputs { state with written := state.written ++ [.pong] } := by
  have told := inStep.spoken
  constructor
  case hasStarted => exact inStep.hasStarted
  case hasCommitted => exact inStep.hasCommitted
  case hasAnnounced => exact inStep.hasAnnounced
  case starting => exact inStep.starting
  case buffered => exact inStep.buffered
  case spoken =>
    rw [← told]
    simp only [told_append, told_pong, List.append_nil]
  case idle => exact inStep.idle
  case unsent => exact inStep.unsent
  case opened => exact fun streaming sent => opened_append _ (inStep.opened streaming sent)
  case early => exact inStep.early

/-- The number of the last chunk does not matter. -/
theorem InStep.counted {state : MiniMaxWsState} (inStep : InStep settings mode inputs state)
    (n : ℕ) : InStep settings mode inputs { state with chunkSequence := n } :=
  ⟨inStep.hasStarted, inStep.hasCommitted, inStep.hasAnnounced, inStep.starting, inStep.buffered,
    inStep.spoken, inStep.idle, inStep.unsent, inStep.opened, inStep.early⟩

section Steps

variable {session : MiniMaxWsSession} {state next : MiniMaxWsState}

theorem write_ok {message : MiniMaxWsOutgoing} (wrote : session.write state message = .ok next) :
    next = { state with written := state.written ++ [message] } := by
  unfold MiniMaxWsSession.write at wrote
  split at wrote
  · exact (Except.ok.inj wrote).symm
  · cases wrote

theorem writeAll_ok {messages : List MiniMaxWsOutgoing}
    (wrote : session.writeAll state messages = .ok next) :
    next = { state with written := state.written ++ messages } := by
  induction messages generalizing state with
  | nil =>
    obtain rfl := Except.ok.inj wrote
    simp
  | cons message rest ih =>
    obtain ⟨middle, first, later⟩ := exists_of_bind_ok wrote
    obtain rfl := write_ok first
    rw [ih later]
    simp

theorem taskStarted_ok {event : MiniMaxWsEvent} (starts : event.event = some "task_started")
    (handled : session.handleEvent state event = .ok next) : next =
      { state with
        started := true
        pendingChunks := []
        written := state.written ++ state.pendingChunks.map .taskContinue ++
          if state.committed then [.taskFinish] else [] } := by
  unfold MiniMaxWsSession.handleEvent at handled
  split at handled
  · cases handled
  · rw [if_pos starts] at handled
    obtain ⟨flushed, wrote, finished⟩ := exists_of_bind_ok handled
    obtain rfl := writeAll_ok wrote
    dsimp only at finished
    split_ifs at finished with done
    · rw [write_ok finished, if_pos done]
    · obtain rfl := Except.ok.inj finished
      rw [if_neg done, List.append_nil]

theorem handleEvent_other {event : MiniMaxWsEvent} (other : event.event ≠ some "task_started")
    (handled : session.handleEvent state event = .ok next) : next = state := by
  unfold MiniMaxWsSession.handleEvent at handled
  split at handled
  · cases handled
  · rw [if_neg other] at handled
    split_ifs at handled
    exact (Except.ok.inj handled).symm

/-- The task starts: what was pending is said, and the end if the session is committed. -/
theorem InStep.taskStarted {event : MiniMaxWsEvent} (inStep : InStep settings mode inputs state)
    (starts : event.event = some "task_started")
    (once : (started inputs && committed inputs) = false)
    (handled : session.handleEvent state event = .ok next) :
    InStep settings mode (inputs ++ [.message (.text (.ok event))]) next := by
  have begins : started (inputs ++ [.message (.text (.ok event))]) = true := by
    rw [started_snoc, isTaskStarted, decide_eq_true starts, Bool.or_true]
  have flushed := taskStarted_ok starts handled
  rw [inStep.hasCommitted] at flushed
  have spoken := inStep.spoken
  rw [once, if_neg Bool.false_ne_true, List.append_nil] at spoken
  subst flushed
  constructor
  case hasStarted => exact begins.symm
  case hasCommitted => rw [committed_snoc_of_open rfl, ← inStep.hasCommitted]
  case hasAnnounced => rw [announced_snoc_of_silent rfl]; exact inStep.hasAnnounced
  case starting => exact inStep.starting
  case buffered =>
    rw [committed_snoc_of_open rfl, appended_snoc_of_silent rfl]
    exact inStep.buffered
  case spoken =>
    rw [begins, committed_snoc_of_open rfl, pieces_snoc_of_quiet rfl rfl, ← spoken, Bool.true_and,
      List.map_nil, List.append_nil, told_append]
    split_ifs
    · rw [told_taskFinish]
    · rw [told_nil]
  case idle => exact fun _ => rfl
  case unsent => exact fun _ => rfl
  case opened =>
    intro streaming sent
    rw [List.append_assoc]
    exact opened_append _ (inStep.opened streaming sent)
  case early =>
    rw [committed_snoc_of_open rfl, announced_snoc_of_silent rfl]
    exact inStep.early

/-- A text of a streaming session that is said or queued. -/
theorem InStep.text {delta : String} (inStep : InStep settings .streaming inputs state)
    (nonempty : delta ≠ "") (open_ : committed inputs = false)
    (hasStarted : next.started = state.started) (hasCommitted : next.committed = state.committed)
    (sent : next.taskStartSent = (announced inputs || !started inputs))
    (spoken : told settings (next.written ++ next.pendingChunks.map .taskContinue) =
      told settings (state.written ++ state.pendingChunks.map .taskContinue) ++ [.text delta])
    (idle : started inputs = true → next.pendingChunks = [])
    (unsent : next.taskStartSent = false → next.pendingChunks = [])
    (opened : next.taskStartSent = true →
      ∃ payload ∈ payloads settings next.written, event? payload = some "task_start") :
    InStep settings .streaming (inputs ++ [.command (.appendInput delta)]) next := by
  have whole := inStep.spoken
  rw [open_, Bool.and_false, if_neg Bool.false_ne_true, List.append_nil] at whole
  constructor
  case hasStarted => rw [started_snoc_of_not rfl, hasStarted, inStep.hasStarted]
  case hasCommitted => rw [committed_snoc_of_open rfl, hasCommitted, inStep.hasCommitted]
  case hasAnnounced =>
    intro _
    rw [announced_snoc, sent, delta?, Option.any_some, decide_eq_true nonempty, Bool.and_true]
  case starting => exact fun buffered => by cases buffered
  case buffered => exact fun buffered => by cases buffered
  case spoken =>
    rw [spoken, whole, committed_snoc_of_open rfl, open_, Bool.and_false,
      if_neg Bool.false_ne_true, List.append_nil, pieces_streaming_snoc, open_,
      if_neg Bool.false_ne_true, List.map_append]
    simp [delta?, nonempty]
  case idle => rw [started_snoc_of_not rfl]; exact idle
  case unsent => exact unsent
  case opened => exact fun _ => opened
  case early =>
    intro _ done
    rw [committed_snoc_of_open rfl, open_] at done
    cases done

/-- A text that comes once the task has started is said at once. -/
theorem InStep.text_after {delta : String} (inStep : InStep settings .streaming inputs state)
    (nonempty : delta ≠ "") (open_ : committed inputs = false) (after : started inputs = true) :
    InStep settings .streaming (inputs ++ [.command (.appendInput delta)])
      { state with written := state.written ++ [.taskContinue delta] } := by
  refine inStep.text nonempty open_ rfl rfl ?_ ?_ inStep.idle inStep.unsent ?_
  · rw [after, Bool.not_true, Bool.or_false]
    exact inStep.hasAnnounced rfl
  · simp only [inStep.idle after, List.map_nil, List.append_nil]
    rw [told_append, told_taskContinue nonempty]
  · exact fun sent => opened_append _ (inStep.opened rfl sent)

/-- The first text of a session that has not started is sent with the start of the task, and any
other waits. -/
theorem InStep.text_before {options : MiniMaxVoiceOptions} {config : MiniMaxVoiceDefaults}
    {outputEncoding delta : String}
    (inStep : InStep (buildMinimaxWsSettings config options outputEncoding) .streaming inputs state)
    (nonempty : delta ≠ "") (open_ : committed inputs = false) (before : started inputs = false)
    (leaves : announced inputs = false → LeavesText options.providerOptions (some delta))
    (handled : session.startOrQueue state delta = .ok next) :
    InStep (buildMinimaxWsSettings config options outputEncoding) .streaming
      (inputs ++ [.command (.appendInput delta)]) next := by
  have begun : (announced inputs || !started inputs) = true := by
    rw [before, Bool.not_false, Bool.or_true]
  have notStarted : ¬ started inputs = true := by
    rw [before]
    exact Bool.false_ne_true
  unfold MiniMaxWsSession.startOrQueue at handled
  split_ifs at handled with sent
  · obtain rfl := Except.ok.inj handled
    refine inStep.text nonempty open_ rfl rfl (sent.trans begun.symm) ?_
      (fun after => absurd after notStarted) (fun unsent => ?_) (inStep.opened rfl)
    · rw [List.map_append, ← List.append_assoc, told_append]
      congr 1
      exact told_taskContinue nonempty
    · rw [sent] at unsent
      cases unsent
  · have sent : state.taskStartSent = false := Bool.eq_false_iff.mpr sent
    have unannounced : announced inputs = false := (inStep.hasAnnounced rfl).symm.trans sent
    have fits := leaves unannounced
    obtain ⟨wrote, first, later⟩ := exists_of_bind_ok handled
    obtain rfl := write_ok first
    obtain rfl := Except.ok.inj later
    refine inStep.text nonempty open_ rfl rfl begun.symm ?_ (fun after => absurd after notStarted)
      (fun _ => inStep.unsent sent) (fun _ => ?_)
    · simp only [inStep.unsent sent, List.map_nil, List.append_nil]
      rw [told_append]
      congr 1
      exact told_taskStart fits fun empty => nonempty (Option.some.inj empty)
    · refine ⟨(buildMinimaxWsSettings config options outputEncoding).taskStart (some delta), ?_,
        event?_taskStart fits⟩
      simp [payloads, MiniMaxWsSettings.payload?]

/-- An empty text changes nothing, and a buffered session only keeps what comes before it commits. -/
theorem InStep.kept {delta : String} (inStep : InStep settings .buffered inputs state) :
    InStep settings .buffered (inputs ++ [.command (.appendInput delta)])
      { state with buffered := state.buffered ++ delta } := by
  constructor
  case hasStarted => rw [started_snoc_of_not rfl, ← inStep.hasStarted]
  case hasCommitted => rw [committed_snoc_of_open rfl, ← inStep.hasCommitted]
  case hasAnnounced => exact fun streaming => by cases streaming
  case starting => exact inStep.starting
  case buffered =>
    intro buffered open_
    rw [committed_snoc_of_open rfl] at open_
    rw [appended_snoc, open_, if_neg Bool.false_ne_true, inStep.buffered buffered open_,
      String.join_append]
    simp [delta?, String.join]
  case spoken =>
    have same : pieces .buffered (inputs ++ [.command (.appendInput delta)]) =
        pieces .buffered inputs := by
      rw [pieces, pieces, committed_snoc_of_open rfl]
      split_ifs with done
      · rw [wholeText, wholeText, appended_of_committed done]
      · rfl
    rw [started_snoc_of_not rfl, committed_snoc_of_open rfl, same]
    exact inStep.spoken
  case idle => rw [started_snoc_of_not rfl]; exact inStep.idle
  case unsent => exact inStep.unsent
  case opened => exact fun streaming => by cases streaming
  case early => exact fun streaming => by cases streaming

/-- An empty text says nothing. -/
theorem InStep.empty (inStep : InStep settings .streaming inputs state) :
    InStep settings .streaming (inputs ++ [.command (.appendInput "")]) state := by
  constructor
  case hasStarted => rw [started_snoc_of_not rfl, ← inStep.hasStarted]
  case hasCommitted => rw [committed_snoc_of_open rfl, ← inStep.hasCommitted]
  case hasAnnounced =>
    intro streaming
    rw [announced_snoc, inStep.hasAnnounced streaming]
    simp [delta?]
  case starting => exact inStep.starting
  case buffered => exact fun buffered => by cases buffered
  case spoken =>
    rw [started_snoc_of_not rfl, committed_snoc_of_open rfl, pieces_streaming_snoc]
    simpa [delta?] using inStep.spoken
  case idle => rw [started_snoc_of_not rfl]; exact inStep.idle
  case unsent => exact inStep.unsent
  case opened => exact inStep.opened
  case early =>
    intro streaming done
    rw [committed_snoc_of_open rfl] at done
    rw [announced_snoc, inStep.early streaming done, Bool.true_or]

theorem committed_snoc_commit : committed (inputs ++ [.command .commit]) = true := by
  rw [committed_snoc]
  exact Bool.or_true _

/-- The first commit of a buffered session: its text is said or queued, and the end is said if the
task has started. -/
theorem InStep.commit_buffered (inStep : InStep settings .buffered inputs state)
    (open_ : committed inputs = false) (mode_ : session.inputMode = .buffered)
    (handled : session.handleCommand state .commit = .ok next) :
    InStep settings .buffered (inputs ++ [.command .commit]) next := by
  have before : told settings (state.written ++ state.pendingChunks.map .taskContinue) = [] := by
    rw [inStep.spoken, open_, Bool.and_false, if_neg Bool.false_ne_true, pieces, open_]
    rfl
  have whole : pieces .buffered (inputs ++ [.command .commit]) = [trim state.buffered] := by
    rw [pieces, committed_snoc_commit, if_pos rfl, wholeText, appended_snoc_of_silent rfl,
      inStep.buffered rfl open_]
  have sent := inStep.starting rfl
  simp only [MiniMaxWsSession.handleCommand, mode_] at handled
  split_ifs at handled with empty hasStarted
  · have after : started inputs = true := inStep.hasStarted.symm.trans hasStarted
    obtain rfl := writeAll_ok handled
    constructor
    case hasStarted => rw [started_snoc_of_not rfl, ← inStep.hasStarted]
    case hasCommitted => exact committed_snoc_commit.symm
    case hasAnnounced => exact fun streaming => by cases streaming
    case starting => exact fun _ => sent
    case buffered => exact fun _ open_ => by rw [committed_snoc_commit] at open_; cases open_
    case spoken =>
      have nothing : told settings state.written = [] := by
        rwa [inStep.idle after, List.map_nil, List.append_nil] at before
      have both : told settings [.taskContinue (trim state.buffered), .taskFinish] =
          [.text (trim state.buffered), .finish] := by
        rw [← List.singleton_append, told_append, told_taskContinue empty, told_taskFinish]
        rfl
      rw [whole, started_snoc_of_not rfl, after, committed_snoc_commit, inStep.idle after,
        List.map_nil, List.append_nil, told_append, nothing, both]
      rfl
    case idle => exact fun _ => inStep.idle after
    case unsent => exact inStep.unsent
    case opened => exact fun streaming => by cases streaming
    case early => exact fun streaming => by cases streaming
  · have notStarted : started inputs = false :=
      inStep.hasStarted.symm.trans (Bool.eq_false_iff.mpr hasStarted)
    rw [MiniMaxWsSession.startOrQueue, if_pos sent] at handled
    obtain rfl := Except.ok.inj handled
    constructor
    case hasStarted => rw [started_snoc_of_not rfl, ← inStep.hasStarted]
    case hasCommitted => exact committed_snoc_commit.symm
    case hasAnnounced => exact fun streaming => by cases streaming
    case starting => exact fun _ => sent
    case buffered => exact fun _ open_ => by rw [committed_snoc_commit] at open_; cases open_
    case spoken =>
      have queued : told settings (state.written ++
          (state.pendingChunks ++ [trim state.buffered]).map .taskContinue) =
            [.text (trim state.buffered)] := by
        rw [List.map_append, ← List.append_assoc, told_append, before, List.nil_append,
          List.map_singleton, told_taskContinue empty]
      rw [queued, whole, started_snoc_of_not rfl, notStarted]
      rfl
    case idle =>
      rw [started_snoc_of_not rfl, notStarted]
      exact fun started => by cases started
    case unsent => exact fun unsent => by rw [sent] at unsent; cases unsent
    case opened => exact fun streaming => by cases streaming
    case early => exact fun streaming => by cases streaming

/-- A commit of a streaming session. The end is said if the task has started. -/
theorem InStep.commit_streaming (inStep : InStep settings .streaming inputs state)
    (early : announced inputs = true) (once : (started inputs && committed inputs) = false)
    (mode_ : session.inputMode = .streaming)
    (handled : session.handleCommand state .commit = .ok next) :
    InStep settings .streaming (inputs ++ [.command .commit]) next := by
  have before := inStep.spoken
  rw [once, if_neg Bool.false_ne_true, List.append_nil] at before
  have same : pieces .streaming (inputs ++ [.command .commit]) = pieces .streaming inputs := by
    rw [pieces, pieces, appended_snoc_of_silent rfl]
  have announced_ : announced (inputs ++ [.command .commit]) = true := by
    rw [announced_snoc_of_silent rfl, early]
  have sent : state.taskStartSent = true := (inStep.hasAnnounced rfl).trans early
  have committed_ : InStep settings .streaming (inputs ++ [.command .commit])
      { state with
        committed := true
        written := state.written ++ if started inputs then [.taskFinish] else [] } := by
    constructor
    case hasStarted => rw [started_snoc_of_not rfl, ← inStep.hasStarted]
    case hasCommitted => exact committed_snoc_commit.symm
    case hasAnnounced => exact fun _ => sent.trans announced_.symm
    case starting => exact fun buffered => by cases buffered
    case buffered => exact fun buffered => by cases buffered
    case spoken =>
      rw [started_snoc_of_not rfl, committed_snoc_commit, Bool.and_true, same, ← before]
      split_ifs with after
      · rw [inStep.idle after, List.map_nil, List.append_nil, List.append_nil, told_append,
          told_taskFinish]
      · rw [List.append_nil, List.append_nil]
    case idle => rw [started_snoc_of_not rfl]; exact inStep.idle
    case unsent => exact inStep.unsent
    case opened => exact fun _ sent => opened_append _ (inStep.opened rfl sent)
    case early => exact fun _ _ => announced_
  simp only [MiniMaxWsSession.handleCommand, mode_] at handled
  split_ifs at handled with hasStarted
  · obtain rfl := write_ok handled
    rwa [← inStep.hasStarted, if_pos hasStarted] at committed_
  · obtain rfl := Except.ok.inj handled
    rwa [← inStep.hasStarted, if_neg hasStarted, List.append_nil] at committed_

/-- A write never ends a session well. -/
theorem write_error {message : MiniMaxWsOutgoing} {exit : MiniMaxWsExit}
    (failed : session.write state message = .error exit) : ∃ error, exit = .error error := by
  unfold MiniMaxWsSession.write at failed
  split at failed
  · cases failed
  · exact ⟨_, (Except.error.inj failed).symm⟩

theorem writeAll_error {messages : List MiniMaxWsOutgoing} {exit : MiniMaxWsExit}
    (failed : session.writeAll state messages = .error exit) : ∃ error, exit = .error error := by
  induction messages generalizing state with
  | nil => cases failed
  | cons message rest ih =>
    cases first : session.write state message with
    | error other =>
      rw [MiniMaxWsSession.writeAll, List.foldlM_cons, first] at failed
      obtain rfl := Except.error.inj failed
      exact write_error first
    | ok middle =>
      rw [MiniMaxWsSession.writeAll, List.foldlM_cons, first] at failed
      exact ih failed

theorem startOrQueue_error {text : String} {exit : MiniMaxWsExit}
    (failed : session.startOrQueue state text = .error exit) : ∃ error, exit = .error error := by
  unfold MiniMaxWsSession.startOrQueue at failed
  split_ifs at failed
  cases first : session.write state (.taskStart (some text)) with
  | error other =>
    rw [first] at failed
    obtain rfl := Except.error.inj failed
    exact write_error first
  | ok middle =>
    rw [first] at failed
    cases failed

theorem taskStarted_error {event : MiniMaxWsEvent} {exit : MiniMaxWsExit}
    (starts : event.event = some "task_started")
    (failed : session.handleEvent state event = .error exit) : ∃ error, exit = .error error := by
  unfold MiniMaxWsSession.handleEvent at failed
  split at failed
  · exact ⟨_, (Except.error.inj failed).symm⟩
  · rw [if_pos starts] at failed
    dsimp only at failed
    cases flushed : session.writeAll { state with started := true, pendingChunks := [] }
        (state.pendingChunks.map .taskContinue) with
    | error other =>
      rw [flushed] at failed
      obtain rfl := Except.error.inj failed
      exact writeAll_error flushed
    | ok middle =>
      rw [flushed] at failed
      change (if middle.committed then session.write middle .taskFinish else .ok middle) =
        .error exit at failed
      split_ifs at failed
      exact write_error failed

/-- A command that ends a session without an error stops it. -/
theorem handleCommand_left {command : BridgeTtsCommand} {reason : Option String}
    (left : session.handleCommand state command = .error (.ok reason)) : command = .stop := by
  have never {result : Except MiniMaxWsExit MiniMaxWsState}
      (errors : ∀ exit, result = .error exit → ∃ error, exit = .error error)
      (same : result = .error (.ok reason)) : False := by
    obtain ⟨_, wrong⟩ := errors _ same
    cases wrong
  cases command with
  | stop => rfl
  | appendInput delta =>
    exfalso
    simp only [MiniMaxWsSession.handleCommand] at left
    cases mode_ : session.inputMode with
    | buffered =>
      rw [mode_] at left
      dsimp only at left
      split_ifs at left
    | streaming =>
      rw [mode_] at left
      dsimp only at left
      split_ifs at left
      · exact never (fun _ => write_error) left
      · exact never (fun _ => startOrQueue_error) left
  | commit =>
    exfalso
    simp only [MiniMaxWsSession.handleCommand] at left
    cases mode_ : session.inputMode with
    | buffered =>
      rw [mode_] at left
      dsimp only at left
      split_ifs at left
      · cases left
      · exact never (fun _ => writeAll_error) left
      · exact never (fun _ => startOrQueue_error) left
    | streaming =>
      rw [mode_] at left
      dsimp only at left
      split_ifs at left
      exact never (fun _ => write_error) left

/-- An event is taken, up to its audio. -/
theorem InStep.event {event : MiniMaxWsEvent} (inStep : InStep settings mode inputs state)
    (once : event.event = some "task_started" → (started inputs && committed inputs) = false)
    (handled : session.handleEvent state event = .ok next) :
    InStep settings mode (inputs ++ [.message (.text (.ok event))]) next := by
  by_cases starts : event.event = some "task_started"
  · exact inStep.taskStarted starts (once starts) handled
  · obtain rfl := handleEvent_other starts handled
    exact inStep.quiet rfl (decide_eq_false starts) rfl

theorem skipAudio_ok {event : MiniMaxWsEvent}
    (skipped : MiniMaxWsSession.skipAudio state event = .ok next) : next = state := by
  unfold MiniMaxWsSession.skipAudio at skipped
  split_ifs at skipped
  exact (Except.ok.inj skipped).symm

theorem sendChunk_ok {bytes : Bytes} {outbox : Outbox BridgeTtsEvent}
    (played : (session.sendChunk state bytes outbox).1 = .ok next) :
    next = { state with chunkSequence := state.chunkSequence + 1 } := by
  unfold MiniMaxWsSession.sendChunk at played
  dsimp only at played
  split at played
  · exact (Except.ok.inj played).symm
  · cases played

/-- Playing changes the number of the last chunk, at most. -/
theorem playEvent_ok {event : MiniMaxWsEvent} {outbox : Outbox BridgeTtsEvent}
    (played : (session.playEvent state event outbox).1 = .ok next) :
    ∃ n, next = { state with chunkSequence := n } := by
  unfold MiniMaxWsSession.playEvent at played
  split at played
  · exact ⟨state.chunkSequence, (Except.ok.inj played).symm⟩
  · split_ifs at played
    · exact ⟨state.chunkSequence, skipAudio_ok played⟩
    · split at played
      · cases played
      · exact ⟨state.chunkSequence + 1, skipAudio_ok played⟩
      · exact ⟨_, sendChunk_ok played⟩

/-- Every input that comes at its time is taken in step. -/
theorem InStep.taken {config : MiniMaxVoiceDefaults} {options : MiniMaxVoiceOptions}
    {outputEncoding : String} {outbox : Outbox BridgeTtsEvent}
    (inStep : InStep (buildMinimaxWsSettings config options outputEncoding) session.inputMode
      inputs state)
    (fits : Fits session.inputMode options.providerOptions inputs input)
    (handled : (session.handleInput state outbox input).1 = .ok next) :
    InStep (buildMinimaxWsSettings config options outputEncoding) session.inputMode
      (inputs ++ [input]) next := by
  match input with
  | .failed _ | .handleDropped => cases handled
  | .closed | .message .close =>
    simp only [MiniMaxWsSession.handleInput, MiniMaxWsSession.handleMessage] at handled
    split_ifs at handled
  | .message (.text (.error _)) => cases handled
  | .message .other =>
    obtain rfl := Except.ok.inj handled
    exact inStep.quiet rfl rfl rfl
  | .message .ping =>
    obtain rfl := write_ok handled
    exact (inStep.quiet rfl rfl rfl).pong
  | .message (.binary bytes) =>
    obtain rfl := sendChunk_ok handled
    exact (inStep.quiet rfl rfl rfl).counted _
  | .message (.text (.ok event)) =>
    simp only [MiniMaxWsSession.handleInput, MiniMaxWsSession.handleMessage] at handled
    split at handled
    · cases handled
    · rename_i flushed taken
      obtain ⟨n, rfl⟩ := playEvent_ok handled
      exact (inStep.event fits taken).counted n
  | .command .stop => cases handled
  | .command .commit =>
    cases mode_ : session.inputMode with
    | buffered =>
      rw [mode_] at inStep fits
      exact inStep.commit_buffered fits mode_ handled
    | streaming =>
      rw [mode_] at inStep fits
      exact inStep.commit_streaming fits.1 fits.2 mode_ handled
  | .command (.appendInput delta) =>
    simp only [MiniMaxWsSession.handleInput, MiniMaxWsSession.handleCommand] at handled
    cases mode_ : session.inputMode with
    | buffered =>
      rw [mode_] at inStep handled
      dsimp only at handled
      split_ifs at handled with empty
      · obtain rfl := Except.ok.inj handled
        subst empty
        simpa using @InStep.kept _ _ _ "" inStep
      · obtain rfl := Except.ok.inj handled
        exact inStep.kept
    | streaming =>
      rw [mode_] at inStep fits handled
      split_ifs at handled with empty hasStarted
      · obtain rfl := Except.ok.inj handled
        subst empty
        exact inStep.empty
      · obtain rfl := write_ok handled
        exact inStep.text_after empty (fits rfl empty).1 (inStep.hasStarted.symm.trans hasStarted)
      · have before : started inputs = false :=
          inStep.hasStarted.symm.trans (Bool.eq_false_iff.mpr hasStarted)
        exact inStep.text_before empty (fits rfl empty).1 before ((fits rfl empty).2 before) handled

end Steps

/-! ## Whole runs -/

section Runs

variable {session : MiniMaxWsSession} {config : MiniMaxVoiceDefaults}
  {options : MiniMaxVoiceOptions} {outputEncoding : String} {state last : MiniMaxWsState}
  {outbox after : Outbox BridgeTtsEvent}

theorem connect_inStep
    (leaves : session.inputMode = .buffered → LeavesText options.providerOptions none)
    (connected : session.connect = .ok state) :
    InStep (buildMinimaxWsSettings config options outputEncoding) session.inputMode [] state := by
  unfold MiniMaxWsSession.connect at connected
  split at connected
  · cases connected
  · cases mode_ : session.inputMode with
    | streaming =>
      rw [mode_] at connected
      obtain rfl := Except.ok.inj connected
      exact ⟨rfl, rfl, fun _ => rfl, (fun mode => by cases mode), fun _ _ => rfl, rfl, fun _ => rfl,
        fun _ => rfl, (fun _ sent => by cases sent), (fun _ done => by cases done)⟩
    | buffered =>
      rw [mode_] at connected
      obtain ⟨wrote, first, later⟩ := exists_of_bind_ok connected
      obtain rfl := write_ok first
      obtain rfl := Except.ok.inj later
      refine ⟨rfl, rfl, (fun mode => by cases mode), fun _ => rfl, fun _ _ => rfl, ?_, fun _ => rfl,
        fun _ => rfl, (fun mode => by cases mode), (fun mode => by cases mode)⟩
      exact told_taskStart (leaves mode_) nofun

theorem loop_inStep {earlier : List MiniMaxWsInput}
    (inStep : InStep (buildMinimaxWsSettings config options outputEncoding) session.inputMode
      earlier state)
    (fits : FitAfter session.inputMode options.providerOptions earlier inputs)
    (ran : session.loop inputs state outbox = (.ok last, after)) :
    InStep (buildMinimaxWsSettings config options outputEncoding) session.inputMode
      (earlier ++ inputs) last := by
  induction inputs generalizing earlier state outbox with
  | nil =>
    obtain rfl := Except.ok.inj (Prod.mk.inj ran).1
    rwa [List.append_nil]
  | cons input rest ih =>
    obtain ⟨first, later⟩ := fitAfter_cons.mp fits
    simp only [MiniMaxWsSession.loop] at ran
    split at ran
    · rename_i next middle stepped
      have whole := ih (inStep.taken first (congrArg Prod.fst stepped)) later ran
      rwa [List.append_assoc, List.singleton_append] at whole
    · rename_i waiting
      exact absurd ran (waiting last after)

theorem run_inStep (fits : Fitting session.inputMode options.providerOptions inputs)
    (ran : session.run inputs outbox = (.ok last, after)) :
    InStep (buildMinimaxWsSettings config options outputEncoding) session.inputMode inputs
      last := by
  unfold MiniMaxWsSession.run at ran
  split at ran
  · cases (Prod.mk.inj ran).1
  · rename_i start connected
    have started : InStep (buildMinimaxWsSettings config options outputEncoding) session.inputMode
        [] start := connect_inStep fits.start connected
    exact (loop_inStep started fits.step ran :)

/-- The input that makes a session end well is taken in step too. -/
theorem settled_inStep
    (inStep : InStep (buildMinimaxWsSettings config options outputEncoding) session.inputMode
      inputs state)
    (fits : Fits session.inputMode options.providerOptions inputs input)
    (left : (session.handleInput state outbox input).1 = .error (.ok none)) :
    InStep (buildMinimaxWsSettings config options outputEncoding) session.inputMode
      (inputs ++ [input]) (settled session state input) := by
  match input with
  | .failed _ | .handleDropped | .closed | .message .close | .message (.text (.error _))
  | .message .other | .message .ping | .message (.binary _) | .command .stop =>
    exact inStep.quiet rfl rfl rfl
  | .message (.text (.ok event)) =>
    cases taken : session.handleEvent state event with
    | ok flushed =>
      rw [settled, taken]
      exact inStep.event fits taken
    | error exit =>
      have unstarted : ¬ event.event = some "task_started" := by
        intro starts
        obtain ⟨error, rfl⟩ := taskStarted_error starts taken
        simp only [MiniMaxWsSession.handleInput, MiniMaxWsSession.handleMessage, taken] at left
        cases left
      rw [settled, taken]
      exact inStep.quiet rfl (decide_eq_false unstarted) rfl
  | .command .commit =>
    have ended : session.handleCommand state .commit = .error (.ok none) := left
    cases handleCommand_left ended
  | .command (.appendInput delta) =>
    have ended : session.handleCommand state (.appendInput delta) = .error (.ok none) := left
    cases handleCommand_left ended

/-- In a session that has neither stopped nor failed, and whose inputs all come at their time, the
provider is told the whole text and nothing else. -/
theorem text_faithful {written : List MiniMaxWsOutgoing}
    (fits : Fitting session.inputMode options.providerOptions inputs)
    (wrote : Wrote session inputs outbox written) :
    TextFaithful session.inputMode inputs
      (payloads (buildMinimaxWsSettings config options outputEncoding) written) := by
  cases wrote with
  | waiting ran => exact (run_inStep fits ran).faithful
  | @ended earlier last state before whole ran left =>
    subst whole
    have fitting : Fitting session.inputMode options.providerOptions earlier := by
      refine ⟨fits.start, fun first input later same => fits.step first input (later ++ [last]) ?_⟩
      rw [same, List.append_assoc, List.cons_append]
    exact (settled_inStep (run_inStep fitting ran) (fits.step earlier last [] rfl) left).faithful

end Runs

def voiceDefaults : MiniMaxVoiceDefaults := ⟨"speech-02-turbo", "male-qn-qingse", 32000⟩

/-- A session whose socket takes everything. -/
def openSession (mode : StreamMode) : MiniMaxWsSession where
  config :=
    { baseUrl := "https://api.minimaxi.com/v1", chunkSizeBytes := 4096, groupId := "group"
      base64 := base64Standard }
  inputMode := mode
  format := some ⟨.mp3, 32000, 1⟩
  connects := .ok ()
  writes := fun _ => .ok ()

def taskStarted : MiniMaxWsInput := .message (.text (.ok { event := some "task_started" }))

/-- A text in two parts, the second of which comes when the task has started. -/
def greeting : List MiniMaxWsInput :=
  [.command (.appendInput "Hello"), taskStarted, .command (.appendInput ", world"),
    .command .commit]

theorem greeting_faithful : TextFaithful .streaming greeting
    (payloads (buildMinimaxWsSettings voiceDefaults {} "mp3")
      [.taskStart (some "Hello"), .taskContinue ", world", .taskFinish]) := by
  have plain {text : Option String} : LeavesText ({} : MiniMaxVoiceOptions).providerOptions text :=
    fun fields none_ => by cases none_
  have wrote : Wrote (openSession .streaming) greeting {}
      [.taskStart (some "Hello"), .taskContinue ", world", .taskFinish] := by
    have ran : (openSession .streaming).run greeting {} =
        (.ok ⟨true, true, true, "", [], 0,
          [.taskStart (some "Hello"), .taskContinue ", world", .taskFinish]⟩, {}) := rfl
    exact .waiting ran
  have fits : FitAfter .streaming ({} : MiniMaxVoiceOptions).providerOptions [] greeting := by
    refine fitAfter_cons.mpr ⟨?_, fitAfter_cons.mpr ⟨?_, fitAfter_cons.mpr ⟨?_,
      fitAfter_cons.mpr ⟨?_, fitAfter_nil⟩⟩⟩⟩
    · exact fun _ _ => ⟨rfl, fun _ _ => plain⟩
    · exact fun _ => rfl
    · exact fun _ _ => ⟨rfl, fun _ _ => plain⟩
    · exact ⟨by decide, by decide⟩
  exact text_faithful ⟨fun _ => plain, fits⟩ wrote

/-- Two commits of a buffered session before the task starts: the text is said twice. -/
def twice : List MiniMaxWsInput :=
  [.command (.appendInput "Hello"), .command .commit, .command .commit, taskStarted]

theorem twice_not_faithful : ∃ written, Wrote (openSession .buffered) twice {} written ∧
    ¬ TextFaithful .buffered twice
      (payloads (buildMinimaxWsSettings voiceDefaults {} "mp3") written) := by
  refine ⟨[.taskStart none, .taskContinue "Hello", .taskContinue "Hello", .taskFinish], ?_, ?_⟩
  · have ran : (openSession .buffered).run twice {} =
        (.ok ⟨true, true, true, "Hello", [], 0,
          [.taskStart none, .taskContinue "Hello", .taskContinue "Hello", .taskFinish]⟩, {}) := by
      rfl
    exact .waiting ran
  · intro faithful
    have sent := faithful.sent (by decide)
    revert sent
    decide +kernel

end SpeechMesh.Soundness.SocketText
