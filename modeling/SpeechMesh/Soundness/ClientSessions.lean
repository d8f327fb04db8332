import SpeechMesh.Soundness.ForwarderTraces
import SpeechMesh.Soundness.Scenario
import SpeechMesh.Soundness.StartReplies

/-! # The sessions of a client connection

A client connection has one slot for a session. What its task enqueues on the commands of a session
is compared with the frames it has received while the session was in the slot: each frame asks for
at most one command, of the session in the slot and of no other.
-/

namespace SpeechMesh.Soundness

open Async SpeechMesh.Model

/-! ## The commands that frames ask for -/

/-- A command for the bridge of a session. -/
inductive SessionCommand where
  | asr (sessionId : SessionId) (command : BridgeCommand)
  | tts (sessionId : SessionId) (command : BridgeTtsCommand)

def SessionCommand.session : SessionCommand → ActiveSession
  | .asr sessionId _ => .asr sessionId
  | .tts sessionId _ => .tts sessionId

def SessionCommand.action : SessionCommand → Action
  | .asr sessionId command => .asr sessionId (.sendCommand command)
  | .tts sessionId command => .tts sessionId (.sendCommand command)

def stopOf : ActiveSession → SessionCommand
  | .asr sessionId => .asr sessionId .stop
  | .tts sessionId => .tts sessionId .stop

/-- The command that a message asks for, if it names the active session and is of its domain. -/
def askedByMessage : ActiveSession → ClientMessage → Option SessionCommand
  | .asr sessionId, .asrCommit named =>
      if named = sessionId then some (.asr sessionId .commit) else none
  | .tts sessionId, .ttsInputAppend named delta =>
      if named = sessionId then some (.tts sessionId (.appendInput delta)) else none
  | .tts sessionId, .ttsCommit named =>
      if named = sessionId then some (.tts sessionId .commit) else none
  | session, .sessionStop named | session, .sessionCancel named =>
      if named = session.sessionId then some (stopOf session) else none
  | _, _ => none

/-- The command that a frame asks for while a session is active. Binary frames are audio for an ASR
session, and the end of the frames stops the session. -/
def asked : Option ActiveSession × Incoming ClientMessage → Option SessionCommand
  | (some session, .text (.ok message)) => askedByMessage session message
  | (some (.asr sessionId), .binary bytes) => some (.asr sessionId (.pushAudio bytes))
  | (some session, .ended) | (some session, .close) => some (stopOf session)
  | _ => none

/-! ## What a trace tells -/

/-- A command that was sent, and whether the channel was open. -/
def commandBy : Entry gateway → Option (SessionCommand × Bool)
  | ⟨.asr sessionId (.sendCommand command), taken⟩ => some (.asr sessionId command, taken)
  | ⟨.tts sessionId (.sendCommand command), taken⟩ => some (.tts sessionId command, taken)
  | _ => none

def attempted (trace : Trace gateway) : List (SessionCommand × Bool) := trace.filterMap commandBy

def slotAfter (active : Option ActiveSession) : Entry gateway → Option ActiveSession
  | ⟨.client (.setActive next), _⟩ => next
  | _ => active

/-- The session in the slot after a trace. -/
def slotOf (trace : Trace gateway) : Option ActiveSession := trace.foldl slotAfter none

def frameBy (active : Option ActiveSession) :
    Entry gateway → Option (Option ActiveSession × Incoming ClientMessage)
  | ⟨.client .nextFrame, frame⟩ => some (active, frame)
  | _ => none

/-- The frames that were received, each with the session that was active then. -/
def framesFrom : Option ActiveSession → Trace gateway →
    List (Option ActiveSession × Incoming ClientMessage)
  | _, [] => []
  | active, entry :: rest =>
      (frameBy active entry).toList ++ framesFrom (slotAfter active entry) rest

def frames (trace : Trace gateway) : List (Option ActiveSession × Incoming ClientMessage) :=
  framesFrom none trace

/-- The commands that the received frames ask for. -/
def commandsAsked (trace : Trace gateway) : List SessionCommand := (frames trace).filterMap asked

/-- The commands that are on the channel of a session. -/
def enqueued (session : ActiveSession) (trace : Trace gateway) : List SessionCommand :=
  ((attempted trace).filter fun attempt => attempt.1.session = session ∧ attempt.2).map Prod.fst

/-- No command for the session was refused so far. -/
def CommandsOpen (session : ActiveSession) (trace : Trace gateway) : Prop :=
  ∀ attempt ∈ attempted trace, attempt.1.session = session → attempt.2 = true

variable {connection : ℕ} {trace : Trace gateway} {entry : Entry gateway}
  {active : Option ActiveSession} {pending : Option SessionCommand}

theorem attempted_snoc :
    attempted (trace ++ [entry]) = attempted trace ++ (commandBy entry).toList :=
  filterMap_snoc ..

theorem slotOf_snoc : slotOf (trace ++ [entry]) = slotAfter (slotOf trace) entry := by
  rw [slotOf, List.foldl_append, List.foldl_cons, List.foldl_nil, slotOf]

theorem framesFrom_snoc (start : Option ActiveSession) :
    framesFrom start (trace ++ [entry]) =
      framesFrom start trace ++ (frameBy (trace.foldl slotAfter start) entry).toList := by
  induction trace generalizing start with
  | nil =>
    rw [List.nil_append, framesFrom, framesFrom, framesFrom, List.append_nil]
    rfl
  | cons first rest ih =>
    rw [List.cons_append, framesFrom, ih, framesFrom, List.append_assoc, List.foldl_cons]

theorem frames_snoc :
    frames (trace ++ [entry]) = frames trace ++ (frameBy (slotOf trace) entry).toList :=
  framesFrom_snoc none

/-! ## When the slot changes -/

/-- The message starts the session. -/
inductive Starts (sessionId : SessionId) : ClientMessage → ActiveSession → RequestId → Prop where
  | asr (requestId : RequestId) (payload : AsrStreamRequest) :
      Starts sessionId (.asrStart requestId payload) (.asr sessionId) requestId
  | tts (requestId : RequestId) (payload : TtsStreamRequest) :
      Starts sessionId (.ttsStart requestId payload) (.tts sessionId) requestId

/-- Why the slot is set after a trace: to the session of a start, announced to the client, when no
session was active; or to nothing, when the active session was stopped by its name, or the frames
have ended. -/
inductive Justified (connection : ℕ) (earlier : Trace gateway) : Option ActiveSession → Prop where
  | started {sessionId : SessionId} {session : ActiveSession} {message : ClientMessage}
      {requestId : RequestId} {payload : SessionStartedPayload}
      (free : slotOf earlier = none)
      (frame : (frames earlier).getLast? = some (none, .text (.ok message)))
      (starts : Starts sessionId message session requestId)
      (announced : earlier.getLast? =
        some ⟨.sendClient connection (.sessionStarted (some requestId) sessionId payload), true⟩) :
      Justified connection earlier (some session)
  | stopped {session : ActiveSession} {message : ClientMessage}
      (taken : slotOf earlier = some session)
      (frame : (frames earlier).getLast? = some (some session, .text (.ok message)))
      (named : message = .sessionStop session.sessionId ∨
        message = .sessionCancel session.sessionId)
      (enqueued : (attempted earlier).getLast? = some (stopOf session, true)) :
      Justified connection earlier none
  | ended {session : ActiveSession} {frame : Incoming ClientMessage}
      (taken : slotOf earlier = some session)
      (last : (frames earlier).getLast? = some (some session, frame))
      (normal : frame = .ended ∨ frame = .close) : Justified connection earlier none

/-- Every change of the slot is justified. -/
def SlotJustified (connection : ℕ) (trace : Trace gateway) : Prop :=
  ∀ earlier next, earlier ++ [⟨.client (.setActive next), ()⟩] <+: trace →
    Justified connection earlier next

theorem SlotJustified.quiet (justified : SlotJustified connection trace)
    (other : ∀ next, entry ≠ ⟨.client (.setActive next), ()⟩) :
    SlotJustified connection (trace ++ [entry]) := by
  intro earlier next reached
  rcases List.prefix_concat_iff.mp reached with whole | before
  · have last := (List.append_inj' whole rfl).2
    exact absurd (List.singleton_inj.mp last).symm (other next)
  · exact justified earlier next before

theorem SlotJustified.sets (justified : SlotJustified connection trace)
    (next : Option ActiveSession) (why : Justified connection trace next) :
    SlotJustified connection (trace ++ [⟨.client (.setActive next), ()⟩]) := by
  intro earlier later reached
  rcases List.prefix_concat_iff.mp reached with whole | before
  · obtain ⟨rfl, last⟩ := List.append_inj' whole rfl
    have same := List.singleton_inj.mp last
    cases same
    exact why
  · exact justified earlier later before

/-! ## Every run of the connection -/

/-- The task reads and sets its own slot; about everything else nothing is said. -/
def SlotStep (before : Option ActiveSession) : Entry gateway → Option ActiveSession → Prop
  | ⟨.client .activeSession, answer⟩, after =>
      (answer : Option ActiveSession) = before ∧ after = before
  | ⟨.client (.setActive next), _⟩, after => after = next
  | _, after => after = before

/-- What is known of a trace: the slot, why it has changed, and that the commands that were sent are
those that were asked for, up to one that is still to be sent. -/
structure Accounted (connection : ℕ) (pending : Option SessionCommand) (trace : Trace gateway)
    (active : Option ActiveSession) : Prop where
  slot : slotOf trace = active
  justified : SlotJustified connection trace
  commands : (attempted trace).map Prod.fst ++ pending.toList = commandsAsked trace

/-- The last frame, and the session that was active when it was received. -/
def LastFrame (trace : Trace gateway) (active : Option ActiveSession)
    (frame : Incoming ClientMessage) : Prop :=
  (frames trace).getLast? = some (active, frame)

/-- Neither a frame nor a command, and the slot stays. -/
def Uneventful : Action → Prop
  | .asr _ (.sendCommand _) | .tts _ (.sendCommand _) => False
  | .client .nextFrame | .client (.setActive _) => False
  | _ => True

theorem Uneventful.of_backstage {action : Action} (backstage : Backstage action) : Uneventful action := by
  cases action with
  | asr sessionId action => cases action <;> exact backstage
  | client action => cases action <;> trivial
  | tts sessionId action => exact backstage.elim
  | _ => trivial

theorem commandBy_uneventful (uneventful : Uneventful entry.action) : commandBy entry = none := by
  obtain ⟨action, answer⟩ := entry
  cases action with
  | asr sessionId action => cases action <;> first | rfl | exact uneventful.elim
  | tts sessionId action => cases action <;> first | rfl | exact uneventful.elim
  | _ => rfl

theorem frameBy_uneventful (uneventful : Uneventful entry.action) : frameBy active entry = none := by
  obtain ⟨action, answer⟩ := entry
  cases action with
  | client action => cases action <;> first | rfl | exact uneventful.elim
  | _ => rfl

theorem slotAfter_uneventful (uneventful : Uneventful entry.action) : slotAfter active entry = active := by
  obtain ⟨action, answer⟩ := entry
  cases action with
  | client action => cases action <;> first | rfl | exact uneventful.elim
  | _ => rfl

theorem slotStep_uneventful {after : Option ActiveSession} (uneventful : Uneventful entry.action)
    (stepped : SlotStep active entry after) : after = active := by
  obtain ⟨action, answer⟩ := entry
  cases action with
  | client action =>
    cases action with
    | activeSession => exact stepped.2
    | setActive next => exact uneventful.elim
    | _ => exact stepped
  | _ => exact stepped

theorem unset_uneventful (uneventful : Uneventful entry.action) (next : Option ActiveSession) :
    entry ≠ ⟨.client (.setActive next), ()⟩ := by
  rintro rfl
  exact uneventful

theorem commandsAsked_uneventful (uneventful : Uneventful entry.action) :
    commandsAsked (trace ++ [entry]) = commandsAsked trace := by
  rw [commandsAsked, frames_snoc, frameBy_uneventful uneventful, Option.toList_none, List.append_nil,
    commandsAsked]

theorem Accounted.uneventful {after : Option ActiveSession}
    (accounted : Accounted connection pending trace active) (uneventful : Uneventful entry.action)
    (stepped : SlotStep active entry after) :
    Accounted connection pending (trace ++ [entry]) after := by
  obtain rfl := slotStep_uneventful uneventful stepped
  refine ⟨?_, accounted.justified.quiet (unset_uneventful uneventful), ?_⟩
  · rw [slotOf_snoc, slotAfter_uneventful uneventful, accounted.slot]
  · rw [attempted_snoc, commandBy_uneventful uneventful, Option.toList_none, List.append_nil,
      accounted.commands, commandsAsked_uneventful uneventful]

theorem LastFrame.uneventful {frame : Incoming ClientMessage} (last : LastFrame trace active frame)
    (uneventful : Uneventful entry.action) : LastFrame (trace ++ [entry]) active frame := by
  rw [LastFrame, frames_snoc, frameBy_uneventful uneventful, Option.toList_none, List.append_nil]
  exact last

/-- A frame is being handled, and the slot has not changed yet. -/
structure Handling (connection : ℕ) (pending : Option SessionCommand)
    (frame : Incoming ClientMessage) (trace : Trace gateway) (active : Option ActiveSession) :
    Prop where
  accounted : Accounted connection pending trace active
  last : LastFrame trace active frame

/-- What holds at every time. -/
def AlwaysAccounted (connection : ℕ) (trace : Trace gateway) (active : Option ActiveSession) :
    Prop :=
  ∃ pending, Accounted connection pending trace active

variable {frame : Incoming ClientMessage}

/-- A frame asks for what it asks for. -/
theorem Accounted.receives (accounted : Accounted connection none trace active)
    (frame : Incoming ClientMessage) :
    Handling connection (asked (active, frame)) frame (trace ++ [⟨.client .nextFrame, frame⟩])
      active := by
  have received : frames (trace ++ [⟨.client .nextFrame, frame⟩]) =
      frames trace ++ [(active, frame)] := by
    rw [frames_snoc, accounted.slot]
    rfl
  refine ⟨⟨?_, accounted.justified.quiet (fun _ same => by cases same), ?_⟩, ?_⟩
  · rw [slotOf_snoc, accounted.slot]
    rfl
  · have commands := accounted.commands
    rw [Option.toList_none, List.append_nil] at commands
    rw [commandsAsked, received, List.filterMap_append, ← commandsAsked, ← commands, attempted_snoc,
      List.map_append, List.append_assoc]
    refine congrArg (_ ++ ·) ?_
    cases command : asked (active, frame) with
    | none => rw [List.filterMap_cons_none command]; rfl
    | some command' => rw [List.filterMap_cons_some command]; rfl
  · rw [LastFrame, received, List.getLast?_concat]

theorem Handling.uneventful {after : Option ActiveSession}
    (handling : Handling connection pending frame trace active) (uneventful : Uneventful entry.action)
    (stepped : SlotStep active entry after) :
    Handling connection pending frame (trace ++ [entry]) after := by
  have accounted := handling.accounted.uneventful uneventful stepped
  obtain rfl := slotStep_uneventful uneventful stepped
  exact ⟨accounted, handling.last.uneventful uneventful⟩

/-- A program that sends no command, and leaves the slot as it is. -/
theorem Handling.ensures {α : Type} {code : Program α} {values : α → Prop}
    (handling : Handling connection pending frame trace active)
    (within : code.Within Uneventful values) :
    code.Ensures SlotStep (AlwaysAccounted connection)
      (fun value later after => values value ∧ after = active ∧
        Handling connection pending frame later after) trace active := by
  have keeps (trace : Trace gateway) (before : Option ActiveSession) (entry : Entry gateway)
      (after : Option ActiveSession) (uneventful : Uneventful entry.action)
      (stepped : SlotStep before entry after)
      (kept : before = active ∧ Handling connection pending frame trace before) :
      after = active ∧ Handling connection pending frame (trace ++ [entry]) after :=
    ⟨(slotStep_uneventful uneventful stepped).trans kept.1, kept.2.uneventful uneventful stepped⟩
  exact (Code.ensures_kept within keeps ⟨rfl, handling⟩).mono
    (fun _ _ kept => ⟨_, kept.2.accounted⟩) fun _ _ _ reached => reached

theorem Accounted.ensures {α : Type} {code : Program α} {values : α → Prop}
    (accounted : Accounted connection pending trace active) (within : code.Within Uneventful values) :
    code.Ensures SlotStep (AlwaysAccounted connection)
      (fun value later after => values value ∧ Accounted connection pending later after)
      trace active :=
  (Code.ensures_kept within (fun _ _ _ _ uneventful stepped kept => kept.uneventful uneventful stepped)
    accounted).mono (fun _ _ kept => ⟨_, kept⟩) fun _ _ _ reached => reached

/-- An entry that sends a command is no frame, and leaves the slot as it is. -/
theorem sends_command (trace : Trace gateway) {after : Option ActiveSession}
    {attempt : SessionCommand × Bool} (sent : commandBy entry = some attempt)
    (stepped : SlotStep active entry after) :
    after = active ∧ slotAfter active entry = active ∧ frames (trace ++ [entry]) = frames trace ∧
      ∀ next, entry ≠ ⟨.client (.setActive next), ()⟩ := by
  obtain ⟨action, answer⟩ := entry
  have received (framed : frameBy (slotOf trace) ⟨action, answer⟩ = none) :
      frames (trace ++ [⟨action, answer⟩]) = frames trace := by
    rw [frames_snoc, framed, Option.toList_none, List.append_nil]
  have unset (next : Option ActiveSession) :
      (⟨action, answer⟩ : Entry gateway) ≠ ⟨.client (.setActive next), ()⟩ := by
    intro sets
    rw [sets] at sent
    cases sent
  cases action with
  | client action => cases sent
  | _ => exact ⟨stepped, rfl, received rfl, unset⟩

/-- The command that was asked for is sent. -/
theorem Accounted.sends {after : Option ActiveSession} {command : SessionCommand} {taken : Bool}
    (accounted : Accounted connection (some command) trace active)
    (sent : commandBy entry = some (command, taken)) (stepped : SlotStep active entry after) :
    Accounted connection none (trace ++ [entry]) after := by
  obtain ⟨rfl, slot, received, unset⟩ := sends_command trace sent stepped
  refine ⟨?_, accounted.justified.quiet unset, ?_⟩
  · rw [slotOf_snoc, accounted.slot, slot]
  · have commands := accounted.commands
    rw [commandsAsked, received, ← commandsAsked, ← commands, attempted_snoc, sent,
      Option.toList_some, List.map_append]
    exact List.append_nil _

theorem Handling.sends {after : Option ActiveSession} {command : SessionCommand} {taken : Bool}
    (handling : Handling connection (some command) frame trace active)
    (sent : commandBy entry = some (command, taken)) (stepped : SlotStep active entry after) :
    after = active ∧ Handling connection none frame (trace ++ [entry]) after ∧
      (attempted (trace ++ [entry])).getLast? = some (command, taken) := by
  have accounted := handling.accounted.sends sent stepped
  obtain ⟨rfl, -, received, -⟩ := sends_command trace sent stepped
  refine ⟨rfl, ⟨accounted, ?_⟩, ?_⟩
  · rw [LastFrame, received]
    exact handling.last
  · rw [attempted_snoc, sent, Option.toList_some, List.getLast?_concat]

/-- What holds when a procedure is entered. -/
def Attending (connection : ℕ) :
    Procedure → Trace gateway → Option ActiveSession → Prop
  | .clientLoop, trace, active => Accounted connection none trace active
  | .clientMessage message, trace, active =>
      Handling connection (asked (active, .text (.ok message))) (.text (.ok message)) trace active
  | .asrStarted requestId payload _, trace, active =>
      Handling connection none (.text (.ok (.asrStart requestId payload))) trace active ∧
        active = none
  | .ttsStarted requestId payload _, trace, active =>
      Handling connection none (.text (.ok (.ttsStart requestId payload))) trace active ∧
        active = none
  | .clientReply _ _, trace, active => Accounted connection none trace active
  | .clientTeardown, trace, active => ∃ frame, (frame = .ended ∨ frame = .close) ∧
      Handling connection (active.map stopOf) frame trace active
  | .returned, trace, active => Accounted connection none trace active
  | _, _, _ => False

abbrev Attends (connection : ℕ) (code : Program (Option Procedure)) (trace : Trace gateway)
    (active : Option ActiveSession) : Prop :=
  code.Ensures SlotStep (AlwaysAccounted connection)
    (Code.Exits (Attending connection) (Accounted connection none)) trace active

/-- The message is answered, and nothing is left to send. -/
theorem Handling.replies {message : ClientMessage} {code : Program (Option Procedure)}
    (handling : Handling connection none frame trace active)
    (within : code.Within Uneventful fun next => ∃ result, next = some (.clientReply message result)) :
    Attends connection code trace active := by
  refine (handling.ensures within).mono (fun _ _ always => always) ?_
  rintro next later after ⟨⟨result, rfl⟩, -, handled⟩
  exact handled.accounted

/-- The slot is read. -/
theorem Handling.reads {answer : Option ActiveSession} {after : Option ActiveSession}
    (handling : Handling connection pending frame trace active)
    (stepped : SlotStep active ⟨.client .activeSession, answer⟩ after) :
    active = answer ∧ active = after ∧
      Handling connection pending frame (trace ++ [⟨.client .activeSession, answer⟩]) active := by
  have same : after = active := stepped.2
  subst same
  have uneventful : Uneventful (.client .activeSession) := trivial
  exact ⟨stepped.1.symm, rfl, handling.uneventful uneventful stepped⟩

theorem sendReply_uneventful (connection : ℕ) (reply : ServerMessage) :
    (sendReply connection reply).Within Uneventful fun _ => True := by
  refine ⟨trivial, fun sent => ?_⟩
  cases sent <;> trivial

theorem sendError_uneventful (connection : ℕ) (requestId : Option RequestId)
    (sessionId : Option SessionId) (error : ServerError) :
    (sendError connection requestId sessionId error).Within Uneventful fun _ => True :=
  ⟨trivial, fun _ => trivial⟩

theorem dropHandle_uneventful (session : ActiveSession) :
    session.dropHandle.Within Uneventful fun _ => True := by
  cases session <;> exact ⟨trivial, fun _ => trivial⟩

/-- Send a command. -/
def SessionCommand.send : SessionCommand → Program Bool
  | .asr sessionId command => perform (.asr sessionId (.sendCommand command))
  | .tts sessionId command => perform (.tts sessionId (.sendCommand command))

/-- The command is sent, and its result is known. -/
theorem Handling.bridges {command : SessionCommand}
    (handling : Handling connection (some command) frame trace active) :
    (commandBridge command.send).Ensures SlotStep (AlwaysAccounted connection)
      (fun result later after => after = active ∧ Handling connection none frame later active ∧
        (result = .ok () → (attempted later).getLast? = some (command, true))) trace active := by
  cases command with
  | asr sessionId command =>
    intro taken after stepped
    obtain ⟨rfl, sent, last⟩ := handling.sends rfl stepped
    refine ⟨⟨none, sent.accounted⟩, ?_⟩
    cases taken with
    | true => exact ⟨rfl, sent, fun _ => last⟩
    | false => exact ⟨rfl, sent, nofun⟩
  | tts sessionId command =>
    intro taken after stepped
    obtain ⟨rfl, sent, last⟩ := handling.sends rfl stepped
    refine ⟨⟨none, sent.accounted⟩, ?_⟩
    cases taken with
    | true => exact ⟨rfl, sent, fun _ => last⟩
    | false => exact ⟨rfl, sent, nofun⟩

/-- A command whose result is the result of the message. -/
theorem Handling.commands {message : ClientMessage} {command : SessionCommand}
    (handling : Handling connection (some command) frame trace active) :
    Attends connection (do
      let result ← commandBridge command.send
      return some (.clientReply message result)) trace active := by
  refine handling.bridges.bind ?_
  rintro result later after ⟨rfl, handled, -⟩
  exact handled.accounted

/-! ## Messages -/

section Messages

variable {config : GatewayConfig} {message : ClientMessage}

theorem asked_plain (plain : ∀ session, askedByMessage session message = none) :
    asked (active, .text (.ok message)) = none := by
  cases active with
  | none => rfl
  | some session => exact plain session

/-- A message that asks for no command, and only has a reply. -/
theorem Handling.plain {code : Program (Option Procedure)}
    (handling : Handling connection (asked (active, .text (.ok message))) frame trace active)
    (plain : ∀ session, askedByMessage session message = none)
    (within : code.Within Uneventful fun next => ∃ result, next = some (.clientReply message result)) :
    Attends connection code trace active := by
  rw [asked_plain plain] at handling
  exact handling.replies within

theorem expectActiveAsr_ok_iff {named : SessionId} :
    expectActiveAsr active named = .ok () ↔ active = some (.asr named) := by
  rcases active with _ | sessionId | sessionId
  · simp [expectActiveAsr]
  · by_cases same : sessionId = named <;> simp [expectActiveAsr, same]
  · simp [expectActiveAsr]

theorem expectActiveTts_ok_iff {named : SessionId} :
    expectActiveTts active named = .ok () ↔ active = some (.tts named) := by
  rcases active with _ | sessionId | sessionId
  · simp [expectActiveTts]
  · simp [expectActiveTts]
  · by_cases same : sessionId = named <;> simp [expectActiveTts, same]

/-- A message for one domain asks for a command of the session that it names. -/
theorem asked_asrCommit (named : SessionId) : asked (active, .text (.ok (.asrCommit named))) =
    if active = some (.asr named) then some (.asr named .commit) else none := by
  rcases active with _ | sessionId | sessionId
  · rfl
  · by_cases same : named = sessionId
    · subst same
      simp [asked, askedByMessage]
    · simp [asked, askedByMessage, same, Ne.symm same]
  · rfl

theorem asked_ttsCommit (named : SessionId) : asked (active, .text (.ok (.ttsCommit named))) =
    if active = some (.tts named) then some (.tts named .commit) else none := by
  rcases active with _ | sessionId | sessionId
  · rfl
  · rfl
  · by_cases same : named = sessionId
    · subst same
      simp [asked, askedByMessage]
    · simp [asked, askedByMessage, same, Ne.symm same]

theorem asked_ttsInputAppend (named : SessionId) (delta : String) :
    asked (active, .text (.ok (.ttsInputAppend named delta))) =
      if active = some (.tts named) then some (.tts named (.appendInput delta)) else none := by
  rcases active with _ | sessionId | sessionId
  · rfl
  · rfl
  · by_cases same : named = sessionId
    · subst same
      simp [asked, askedByMessage]
    · simp [asked, askedByMessage, same, Ne.symm same]

/-- It goes to the session in the slot if it names it. -/
theorem Handling.whenActive {expected : Option ActiveSession → Except ServerError Unit}
    {named : ActiveSession} {command : SessionCommand}
    (expects : ∀ active, expected active = .ok () ↔ active = some named)
    (handling : Handling connection (if active = some named then some command else none) frame
      trace active) :
    Attends connection (do
      let slot : Option ActiveSession ← perform (.client .activeSession)
      let result ← Model.whenActive (expected slot) command.send
      return some (.clientReply message result)) trace active := by
  intro slot after stepped
  obtain ⟨rfl, rfl, read⟩ := handling.reads stepped
  refine ⟨⟨_, read.accounted⟩, ?_⟩
  change Attends connection (do
    let result ← Model.whenActive (expected active) command.send
    return some (.clientReply message result)) _ active
  cases result : expected active with
  | ok _ =>
    rw [if_pos ((expects active).mp result)] at read
    exact read.commands
  | error error =>
    have other : active ≠ some named := fun same => by
      rw [(expects active).mpr same] at result
      cases result
    rw [if_neg other] at read
    exact read.accounted

/-- The slot is set for a reason. -/
theorem Accounted.sets {next after : Option ActiveSession}
    (accounted : Accounted connection pending trace active) (why : Justified connection trace next)
    (stepped : SlotStep active ⟨.client (.setActive next), ()⟩ after) :
    Accounted connection pending (trace ++ [⟨.client (.setActive next), ()⟩]) after := by
  refine ⟨?_, accounted.justified.sets next why, ?_⟩
  · rw [slotOf_snoc]
    exact stepped.symm
  · have commands := accounted.commands
    rw [attempted_snoc, commandsAsked, frames_snoc]
    exact (congrArg (List.map Prod.fst · ++ _) (List.append_nil _)).trans
      (commands.trans (congrArg (List.filterMap asked) (List.append_nil _).symm))

theorem Handling.stops {session : ActiveSession}
    (handling : Handling connection (some (stopOf session)) frame trace active) :
    session.stop.Ensures SlotStep (AlwaysAccounted connection)
      (fun result later after => after = active ∧ Handling connection none frame later active ∧
        (result = .ok () → (attempted later).getLast? = some (stopOf session, true)))
      trace active := by
  cases session <;> exact handling.bridges

theorem asked_stop (named : SessionId)
    (stops : message = .sessionStop named ∨ message = .sessionCancel named)
    (session : ActiveSession) : asked (some session, .text (.ok message)) =
      if named = session.sessionId then some (stopOf session) else none := by
  rcases stops with rfl | rfl <;> cases session <;> rfl

/-- The active session is stopped by its name. -/
theorem Handling.stopSession {named : SessionId}
    (stops : message = .sessionStop named ∨ message = .sessionCancel named)
    (handling : Handling connection (asked (active, .text (.ok message))) (.text (.ok message))
      trace active) :
    (Model.stopSession named).Ensures SlotStep (AlwaysAccounted connection)
      (fun _ later after => Accounted connection none later after) trace active := by
  intro slot after stepped
  obtain ⟨rfl, rfl, read⟩ := handling.reads stepped
  refine ⟨⟨_, read.accounted⟩, ?_⟩
  cases active with
  | none => exact read.accounted
  | some session =>
    rw [asked_stop named stops] at read
    change Code.Ensures _ _ _ (if _ then _ else _ : Program (Except ServerError Unit)) _ _
    split_ifs with same
    · subst same
      rw [if_pos rfl] at read
      refine read.stops.bind ?_
      rintro result later after ⟨rfl, stopped, last⟩
      cases result with
      | error error => exact stopped.accounted
      | ok _ =>
        intro _ after stepped
        have why : Justified connection later none :=
          .stopped stopped.accounted.slot stopped.last stops (last rfl)
        have freed := stopped.accounted.sets why stepped
        refine ⟨⟨_, freed⟩, ?_⟩
        exact (freed.ensures (dropHandle_uneventful session)).bind
          fun _ _ _ released => released.2
    · rw [if_neg (Ne.symm same)] at read
      exact read.accounted

theorem asrStart_attends (requestId : RequestId) (payload : AsrStreamRequest)
    (handling : Handling connection (asked (active, .text (.ok (.asrStart requestId payload))))
      (.text (.ok (.asrStart requestId payload))) trace active) :
    Attends connection (handleClientMessage config connection (.asrStart requestId payload)) trace
      active := by
  rw [asked_plain (fun session => by cases session <;> rfl)] at handling
  intro slot after stepped
  obtain ⟨rfl, rfl, read⟩ := handling.reads stepped
  refine ⟨⟨_, read.accounted⟩, ?_⟩
  cases active with
  | some session => exact read.accounted
  | none =>
    have uneventful : (startAsr config payload).Within Uneventful fun _ => True :=
      (startAsr_backstage config payload).mono (fun _ => Uneventful.of_backstage) fun _ _ => trivial
    refine (read.ensures uneventful).bind ?_
    rintro outcome later after ⟨-, free, started⟩
    exact ⟨started, free⟩

theorem ttsStart_attends (requestId : RequestId) (payload : TtsStreamRequest)
    (handling : Handling connection (asked (active, .text (.ok (.ttsStart requestId payload))))
      (.text (.ok (.ttsStart requestId payload))) trace active) :
    Attends connection (handleClientMessage config connection (.ttsStart requestId payload)) trace
      active := by
  rw [asked_plain (fun session => by cases session <;> rfl)] at handling
  rw [handleClientMessage]
  cases config.ttsBridge with
  | none =>
    intro slot after stepped
    obtain ⟨rfl, rfl, read⟩ := handling.reads stepped
    refine ⟨⟨_, read.accounted⟩, ?_⟩
    cases active <;> exact read.accounted
  | some bridge =>
    intro slot after stepped
    obtain ⟨rfl, rfl, read⟩ := handling.reads stepped
    refine ⟨⟨_, read.accounted⟩, ?_⟩
    cases active with
    | some session => exact read.accounted
    | none =>
      have uneventful : (perform (.client (.startTts payload))).Within Uneventful fun _ => True :=
        ⟨trivial, fun _ => trivial⟩
      refine (read.ensures uneventful).bind ?_
      rintro outcome later after ⟨-, free, started⟩
      exact ⟨started, free⟩

/-- The session of a start that was announced takes the free slot. -/
theorem Handling.announces {sessionId : SessionId} {session : ActiveSession}
    {requestId : RequestId} {payload : SessionStartedPayload} {procedure : Procedure}
    (handling : Handling connection none (.text (.ok message)) trace none)
    (starts : Starts sessionId message session requestId) :
    Attends connection (do
      perform (.spawn procedure)
      match ← sendReply connection (.sessionStarted (some requestId) sessionId payload) with
      | .error error => do
          session.dropHandle
          return some (.clientReply message (.error error))
      | .ok () => do
          perform (.client (.setActive (some session)))
          return some (.clientReply message (.ok ()))) trace none := by
  intro _ after stepped
  have spawned := handling.uneventful (show Uneventful (.spawn procedure) from trivial) stepped
  refine ⟨⟨_, spawned.accounted⟩, ?_⟩
  obtain rfl : after = none := stepped
  intro queued after stepped
  have tells : Uneventful (.sendClient connection
    (.sessionStarted (some requestId) sessionId payload)) := trivial
  have told := spawned.uneventful tells stepped
  refine ⟨⟨_, told.accounted⟩, ?_⟩
  obtain rfl : after = none := stepped
  cases queued with
  | false =>
    refine (told.ensures (dropHandle_uneventful session)).bind ?_
    rintro _ later after ⟨-, -, released⟩
    exact released.accounted
  | true =>
    intro _ after stepped
    have why : Justified connection _ (some session) :=
      .started told.accounted.slot told.last starts List.getLast?_concat
    have taken := told.accounted.sets why stepped
    exact ⟨⟨_, taken⟩, taken⟩

theorem asrStarted_attends {requestId : RequestId} {payload : AsrStreamRequest}
    {outcome : Except BridgeError AsrSession}
    (handling : Handling connection none (.text (.ok (.asrStart requestId payload))) trace none) :
    Attends connection (asrStarted connection requestId payload outcome) trace none := by
  cases outcome with
  | error error => exact handling.accounted
  | ok session => exact handling.announces (.asr requestId payload)

theorem ttsStarted_attends {requestId : RequestId} {payload : TtsStreamRequest}
    {outcome : Except BridgeError (TtsSession × SynthesisInputKind)}
    (handling : Handling connection none (.text (.ok (.ttsStart requestId payload))) trace none) :
    Attends connection (ttsStarted connection requestId payload outcome) trace none := by
  cases outcome with
  | error error => exact handling.accounted
  | ok started => exact handling.announces (.tts requestId payload)

theorem reply_uneventful {reply : ServerMessage} : (do
    let result ← sendReply connection reply
    return some (.clientReply message result) : Program (Option Procedure)).Within Uneventful
      fun next => ∃ result, next = some (.clientReply message result) :=
  (sendReply_uneventful connection reply).bind fun result _ => ⟨result, rfl⟩

/-- Every message. -/
theorem handleClientMessage_attends
    (handling : Handling connection (asked (active, .text (.ok message))) (.text (.ok message))
      trace active) :
    Attends connection (handleClientMessage config connection message) trace active := by
  cases message with
  | hello requestId payload =>
    exact handling.plain (fun session => by cases session <;> rfl) reply_uneventful
  | discover requestId domains =>
    exact handling.plain (fun session => by cases session <;> rfl) reply_uneventful
  | asrTranscribe requestId =>
    exact handling.plain (fun session => by cases session <;> rfl) ⟨_, rfl⟩
  | asrStart requestId payload => exact asrStart_attends requestId payload handling
  | asrCommit named =>
    rw [asked_asrCommit] at handling
    exact handling.whenActive (fun _ => expectActiveAsr_ok_iff)
  | ttsVoices requestId payload =>
    refine handling.plain (fun session => by cases session <;> rfl) ?_
    rw [handleClientMessage]
    cases config.ttsBridge with
    | none => exact ⟨_, rfl⟩
    | some bridge =>
      refine ⟨trivial, fun voices => ?_⟩
      cases voices with
      | error error => exact ⟨_, rfl⟩
      | ok voices => exact reply_uneventful
  | ttsStart requestId payload => exact ttsStart_attends requestId payload handling
  | ttsInputAppend named delta =>
    rw [asked_ttsInputAppend] at handling
    exact handling.whenActive (fun _ => expectActiveTts_ok_iff)
  | ttsCommit named =>
    rw [asked_ttsCommit] at handling
    exact handling.whenActive (fun _ => expectActiveTts_ok_iff)
  | sessionStop named =>
    exact (handling.stopSession (.inl rfl)).bind fun _ _ _ stopped => stopped
  | sessionCancel named =>
    exact (handling.stopSession (.inr rfl)).bind fun _ _ _ stopped => stopped
  | ping requestId =>
    exact handling.plain (fun session => by cases session <;> rfl) reply_uneventful

theorem clientReply_attends {result : Except ServerError Unit}
    (accounted : Accounted connection none trace active) :
    Attends connection (clientReply connection message result) trace active := by
  have uneventful : (clientReply connection message result).Within Uneventful
      fun next => next = some .clientLoop := by
    cases result with
    | ok _ => exact ⟨trivial, fun _ => rfl⟩
    | error error => exact ⟨trivial, fun _ => ⟨trivial, fun _ => ⟨trivial, fun _ => rfl⟩⟩⟩
  refine (accounted.ensures uneventful).mono (fun _ _ always => always) ?_
  rintro next later after ⟨rfl, replied⟩
  exact replied

end Messages

/-! ## Frames -/

theorem pushAudio_attends (bytes : Bytes)
    (handling : Handling connection (asked (active, .binary bytes)) frame trace active) :
    (pushAudio connection bytes).Ensures SlotStep (AlwaysAccounted connection)
      (fun _ later after => Accounted connection none later after) trace active := by
  intro slot after stepped
  obtain ⟨rfl, rfl, read⟩ := handling.reads stepped
  refine ⟨⟨_, read.accounted⟩, ?_⟩
  rcases active with _ | sessionId | sessionId
  · exact (read.ensures (sendError_uneventful connection none none _)).mono (fun _ _ always => always)
      fun _ _ _ told => told.2.2.accounted
  · refine read.bridges.bind ?_
    rintro result later after ⟨rfl, pushed, -⟩
    cases result with
    | ok _ => exact pushed.accounted
    | error error =>
      exact (pushed.ensures (sendError_uneventful connection none (some sessionId) error)).mono
        (fun _ _ always => always) fun _ _ _ told => told.2.2.accounted
  · exact (read.ensures (sendError_uneventful connection none (some sessionId) _)).mono
      (fun _ _ always => always) fun _ _ _ told => told.2.2.accounted

theorem clientFailed_attends (handling : Handling connection none frame trace active) :
    Attends connection clientFailed trace active := by
  intro slot after stepped
  obtain ⟨rfl, rfl, read⟩ := handling.reads stepped
  refine ⟨⟨_, read.accounted⟩, ?_⟩
  cases active with
  | none => exact read.accounted
  | some session =>
    exact (read.ensures (dropHandle_uneventful session)).bind
      fun _ _ _ released => released.2.2.accounted

theorem Accounted.stops {session : ActiveSession}
    (accounted : Accounted connection (some (stopOf session)) trace active) :
    session.stop.Ensures SlotStep (AlwaysAccounted connection)
      (fun _ later after => Accounted connection none later after) trace active := by
  cases session with
  | asr sessionId =>
    intro taken after stepped
    have sent := accounted.sends rfl stepped
    refine ⟨⟨none, sent⟩, ?_⟩
    cases taken <;> exact sent
  | tts sessionId =>
    intro taken after stepped
    have sent := accounted.sends rfl stepped
    refine ⟨⟨none, sent⟩, ?_⟩
    cases taken <;> exact sent

theorem clientTeardown_attends (normal : frame = .ended ∨ frame = .close)
    (handling : Handling connection (active.map stopOf) frame trace active) :
    Attends connection clientTeardown trace active := by
  intro slot after stepped
  obtain ⟨rfl, rfl, read⟩ := handling.reads stepped
  refine ⟨⟨_, read.accounted⟩, ?_⟩
  cases active with
  | none =>
    have joins : (do
        perform (.client .joinWriter)
        return some .returned : Program (Option Procedure)).Within Uneventful
          fun next => next = some .returned := ⟨trivial, fun _ => rfl⟩
    refine (read.ensures joins).mono (fun _ _ always => always) ?_
    rintro next later after ⟨rfl, -, joined⟩
    exact joined.accounted
  | some session =>
    intro _ after stepped
    have freed := read.accounted.sets (.ended read.accounted.slot read.last normal) stepped
    refine ⟨⟨_, freed⟩, ?_⟩
    obtain rfl : after = none := stepped
    refine freed.stops.bind ?_
    intro result later after stopped
    have leaves : (do
        session.dropHandle
        perform (.client .joinWriter)
        return some .returned : Program (Option Procedure)).Within Uneventful
          fun next => next = some .returned :=
      (dropHandle_uneventful session).bind fun _ _ => ⟨trivial, fun _ => rfl⟩
    refine (stopped.ensures leaves).mono (fun _ _ always => always) ?_
    rintro next later after ⟨rfl, returned⟩
    exact returned

theorem clientLoop_attends (accounted : Accounted connection none trace active) :
    Attends connection (clientLoop connection) trace active := by
  intro frame after stepped
  obtain rfl : after = active := stepped
  have received := accounted.receives frame
  refine ⟨⟨_, received.accounted⟩, ?_⟩
  cases frame with
  | ended =>
    refine ⟨.ended, .inl rfl, ?_⟩
    cases after <;> exact received
  | close =>
    refine ⟨.close, .inr rfl, ?_⟩
    cases after <;> exact received
  | failed error =>
    have unasked : asked (after, .failed error) = none := by cases after <;> rfl
    rw [unasked] at received
    exact clientFailed_attends received
  | text message =>
    cases message with
    | ok message => exact received
    | error error =>
      have unasked : asked (after, .text (.error error)) = none := by cases after <;> rfl
      rw [unasked] at received
      intro slot _ stepped
      obtain ⟨rfl, rfl, read⟩ := received.reads stepped
      refine ⟨⟨_, read.accounted⟩, ?_⟩
      exact (read.ensures (sendError_uneventful connection none (after.map ActiveSession.sessionId)
        (.invalidRequest ("invalid json frame: " ++ error)))).bind
          fun _ _ _ told => told.2.2.accounted
  | binary bytes => exact (pushAudio_attends bytes received).bind fun _ _ _ pushed => pushed
  | ping payload =>
    have unasked : asked (after, .ping payload) = none := by cases after <;> rfl
    rw [unasked] at received
    have pongs : (do
        let _ ← perform (.sendClient connection (.pong none))
        return some .clientLoop : Program (Option Procedure)).Within Uneventful
          fun next => next = some .clientLoop := ⟨trivial, fun _ => rfl⟩
    refine (received.ensures pongs).mono (fun _ _ always => always) ?_
    rintro next later _ ⟨rfl, -, ponged⟩
    exact ponged.accounted
  | pong =>
    have unasked : asked (after, .pong) = none := by cases after <;> rfl
    rw [unasked] at received
    exact received.accounted

theorem body_attends (config : GatewayConfig) (procedure : Procedure) (trace : Trace gateway)
    (active : Option ActiveSession) (attending : Attending connection procedure trace active) :
    Attends connection (body config connection procedure) trace active := by
  cases procedure with
  | clientLoop => exact clientLoop_attends attending
  | clientMessage message => exact handleClientMessage_attends attending
  | asrStarted requestId payload outcome =>
    obtain ⟨handling, rfl⟩ := attending
    exact asrStarted_attends handling
  | ttsStarted requestId payload outcome =>
    obtain ⟨handling, rfl⟩ := attending
    exact ttsStarted_attends handling
  | clientReply message result => exact clientReply_attends attending
  | clientTeardown =>
    obtain ⟨frame, normal, handling⟩ := attending
    exact clientTeardown_attends normal handling
  | returned => exact attending
  | _ => exact attending.elim

/-! ## The law of a connection -/

/-- What is on an open channel is what was asked for, apart from what is still to be sent. -/
theorem Accounted.enqueued (accounted : Accounted connection pending trace active)
    (session : ActiveSession) (channel : CommandsOpen session trace) :
    Soundness.enqueued session trace ++ pending.toList.filter (·.session = session) =
      (commandsAsked trace).filter (·.session = session) := by
  have taken : (attempted trace).filter (fun attempt => attempt.1.session = session ∧ attempt.2) =
      (attempted trace).filter fun attempt => attempt.1.session = session := by
    refine List.filter_congr fun attempt member => ?_
    by_cases same : attempt.1.session = session
    · simp [same, channel attempt member same]
    · simp [same]
  rw [← accounted.commands, List.filter_append, Soundness.enqueued, taken, List.filter_map]
  rfl

/-- A run of a client connection, looked at between any two actions. The slot only changes for a
reason; the commands that were sent are those that the frames have asked for, up to one while a
frame is being handled; and as long as no command for a session is refused, those on its channel
are those that were asked for it. -/
theorem sessions_isolated (config : GatewayConfig) (connection : ℕ) (trace : Trace gateway)
    (last : Program (Option Procedure)) (active : Option ActiveSession)
    (ran : Code.Serves (body config connection) SlotStep (.done (some .clientLoop)) none trace last
      active) :
    slotOf trace = active ∧ SlotJustified connection trace ∧
      ∃ pending : Option SessionCommand,
        (last = .done (some .clientLoop) ∨ last = .done (some .returned) → pending = none) ∧
        (attempted trace).map Prod.fst ++ pending.toList = commandsAsked trace ∧
        ∀ session, CommandsOpen session trace →
          enqueued session trace ++ pending.toList.filter (·.session = session) =
            (commandsAsked trace).filter (·.session = session) := by
  have nothing : Accounted connection none [] none := by
    refine ⟨rfl, fun earlier next reached => ?_, rfl⟩
    have empty := List.prefix_nil.mp reached
    exact absurd empty (List.append_ne_nil_of_right_ne_nil earlier (List.cons_ne_nil _ _))
  obtain ⟨⟨pending, accounted⟩, exits⟩ := ran.ensures (body_attends config) ⟨none, nothing⟩ nothing
  by_cases between : last = .done (some .clientLoop) ∨ last = .done (some .returned)
  · have settled : Accounted connection none trace active := by
      rcases between with rfl | rfl <;> exact exits
    exact ⟨settled.slot, settled.justified, none, fun _ => rfl, settled.commands,
      settled.enqueued⟩
  · exact ⟨accounted.slot, accounted.justified, pending, fun other => absurd other between,
      accounted.commands, accounted.enqueued⟩

/-- A session is started and gets audio; a commit that names another session, and the end. -/
def spokenTo : Trace gateway :=
  let request : ClientMessage := .asrStart ⟨"start"⟩ Scenario.recognition
  let session : AsrSession :=
    ⟨⟨0, 0⟩, "asr", Scenario.recognition.inputFormat, .streaming, .streaming⟩
  let started : SessionStartedPayload :=
    ⟨.asr, "asr", some session.acceptedInputFormat, none, some .streaming, some .streaming⟩
  let other : ServerError := .sessionNotFound "session id does not match active session"
  [⟨.client .nextFrame, .text (.ok request)⟩,
    ⟨.client .activeSession, none⟩,
    ⟨.client (.startAsr Scenario.recognition), .ok session⟩,
    ⟨.spawn (.asrForwarder 0 ⟨0, 0⟩ 0 0 ""), ()⟩,
    ⟨.sendClient 0 (.sessionStarted (some ⟨"start"⟩) ⟨0, 0⟩ started), true⟩,
    ⟨.client (.setActive (some (.asr ⟨0, 0⟩))), ()⟩,
    ⟨.mark (.clientMessageHandled request), ()⟩,
    ⟨.client .nextFrame, .binary [1]⟩,
    ⟨.client .activeSession, some (.asr ⟨0, 0⟩)⟩,
    ⟨.asr ⟨0, 0⟩ (.sendCommand (.pushAudio [1])), true⟩,
    ⟨.client .nextFrame, .text (.ok (.asrCommit ⟨1, 0⟩))⟩,
    ⟨.client .activeSession, some (.asr ⟨0, 0⟩)⟩,
    ⟨.client .activeSession, some (.asr ⟨0, 0⟩)⟩,
    ⟨.sendClient 0 (.error none (some ⟨0, 0⟩) other.toErrorInfo), true⟩,
    ⟨.mark (.clientMessageHandled (.asrCommit ⟨1, 0⟩)), ()⟩,
    ⟨.client .nextFrame, .close⟩,
    ⟨.client .activeSession, some (.asr ⟨0, 0⟩)⟩,
    ⟨.client (.setActive none), ()⟩,
    ⟨.asr ⟨0, 0⟩ (.sendCommand .stop), true⟩,
    ⟨.asr ⟨0, 0⟩ .releaseCommands, ()⟩,
    ⟨.client .joinWriter, ()⟩]

theorem spokenTo_runs : Code.Serves (body Scenario.config 0) SlotStep (.done (some .clientLoop))
    none spokenTo (.done (some .returned)) none :=
  .enter (.act rfl (.enter (.act ⟨rfl, rfl⟩ (.act rfl (.enter (.act rfl (.act rfl (.act rfl
    (.enter (.act rfl (.enter (.act rfl (.act ⟨rfl, rfl⟩ (.act rfl (.enter (.act rfl
      (.enter (.act ⟨rfl, rfl⟩ (.enter (.act ⟨rfl, rfl⟩ (.act rfl (.act rfl (.enter (.act rfl
        (.enter (.act ⟨rfl, rfl⟩ (.act rfl (.act rfl (.act rfl (.act rfl
          (.stop _ _)))))))))))))))))))))))))))))))

theorem sessions_isolated_spoken :
    enqueued (.asr ⟨0, 0⟩) spokenTo = [.asr ⟨0, 0⟩ (.pushAudio [1]), .asr ⟨0, 0⟩ .stop] := by
  obtain ⟨-, -, pending, settled, -, law⟩ := sessions_isolated Scenario.config 0 spokenTo
    (.done (some .returned)) none spokenTo_runs
  obtain rfl := settled (.inr rfl)
  have channel : CommandsOpen (.asr ⟨0, 0⟩) spokenTo := by
    unfold CommandsOpen
    decide
  exact (List.append_nil _).symm.trans (law (.asr ⟨0, 0⟩) channel)

end SpeechMesh.Soundness
