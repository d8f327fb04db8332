import SpeechMesh.Model.Events

/-! # What the procedures do

Every procedure plays a role, and every task stays in the family of roles it was started in. The
actions a role permits are a coarse bound on its programs: a proof about one role disposes of the
others by it, without their programs.
-/

namespace SpeechMesh.Model

open Async

inductive Role where
  | agentGreeting
  | agentIdle
  | agentHandling
  | agentLeaving
  | controlIdle
  | controlPlaying
  | clientIdle
  | clientHandling
  | clientStarting
  | forwarder (connection : ℕ) (sessionId : SessionId)
  | commands (sessionId : SessionId) (connection : ℕ)
  | device
  | finished

def Procedure.role : Procedure → Role
  | .agentHello => .agentGreeting
  | .agentLoop _ => .agentIdle
  | .agentMessage _ _ => .agentHandling
  | .agentTeardown _ => .agentLeaving
  | .controlLoop | .controlReply _ => .controlIdle
  | .playAudio _ => .controlPlaying
  | .clientLoop | .clientReply _ _ | .clientTeardown => .clientIdle
  | .clientMessage _ => .clientHandling
  | .asrStarted _ _ _ | .ttsStarted _ _ _ => .clientStarting
  | .asrForwarder connection sessionId _ _ _ => .forwarder connection sessionId
  | .ttsForwarder connection sessionId _ _ _ _ => .forwarder connection sessionId
  | .forwardCommandsToAgent sessionId connection => .commands sessionId connection
  | .deviceHello _ | .deviceWait | .deviceLoop | .deviceMessage _ => .device
  | .agentReturned _ | .returned => .finished

/-- What a forwarder relays: it answers no request. -/
def ServerMessage.Relayed (sessionId : SessionId) : ServerMessage → Prop
  | .asrResult other _ _ | .ttsAudioDelta other _ _ | .ttsAudioDone other _ _
  | .sessionEnded other _ => other = sessionId
  | .error requestId other _ => requestId = none ∧ other = some sessionId
  | _ => False

/-- What the task of a client connection sends itself. -/
def ServerMessage.Direct : ServerMessage → Prop
  | .asrResult _ _ _ | .ttsAudioDelta _ _ _ | .ttsAudioDone _ _ _ | .sessionEnded _ _ => False
  | .error requestId _ _ => requestId = none
  | _ => True

def ServerMessage.Starts : ServerMessage → Prop
  | .sessionStarted _ _ _ => True
  | _ => False

namespace Role

inductive Family where
  | agent
  | control
  | client
  | forwarder (connection : ℕ) (sessionId : SessionId)
  | commands (sessionId : SessionId) (connection : ℕ)
  | device
  | finished

def family : Role → Family
  | .agentGreeting | .agentIdle | .agentHandling | .agentLeaving => .agent
  | .controlIdle | .controlPlaying => .control
  | .clientIdle | .clientHandling | .clientStarting => .client
  | .forwarder connection sessionId => .forwarder connection sessionId
  | .commands sessionId connection => .commands sessionId connection
  | .device => .device
  | .finished => .finished

/-- The roles that remove what is routed to an agent. -/
def Removes : Role → Prop
  | .agentGreeting | .agentLeaving => True
  | _ => False

/-- The roles that tell the client side of a session about its route. -/
def Tells : Role → Prop
  | .agentGreeting | .agentHandling | .agentLeaving | .clientHandling => True
  | _ => False

/-- The roles that settle the waiter of a playback. -/
def Settles : Role → Prop
  | .agentGreeting | .agentHandling | .agentLeaving | .controlPlaying => True
  | _ => False

/-- The roles that command the bridge of the active session. -/
def Stops : Role → Prop
  | .clientHandling | .clientIdle => True
  | _ => False

/-- The locked sections of a role. -/
def Enters (index : ℕ) : Role → RegistryAction → Prop
  | .agentGreeting, .deviceRegisterAgent record => record.commandTx = index
  | .agentLeaving, .deviceUnregisterAgent _ => True
  | role, .removeOrphanedSessions _ => role.Removes
  | role, .takeTaskWaiter _ => role.Settles
  | .agentHandling, .removeSession _ | .agentHandling, .takeStarted _
  | .agentHandling, .sessionEventTx _ | .agentHandling, .hasPendingStart _
  | .agentHandling, .removeTask _ | .agentHandling, .taskAgentId _ => True
  | .controlPlaying, .subscribeTaskWaiter _ | .controlPlaying, .removeTaskWaiter _
  | .controlPlaying, .selectSpeakerAgent _ _ | .controlPlaying, .registerTask _ _
  | .controlPlaying, .removeTask _ | .controlPlaying, .taskAgentId _
  | .controlPlaying, .agentCommandTx _ => True
  | .controlIdle, .snapshot _ => True
  | .clientHandling, .selectAgent _ | .clientHandling, .registerSession _ _
  | .clientHandling, .removeSession _ => True
  | _, _ => False

/-- The operations of a role on the channels of ASR sessions. -/
def Streams : Role → SessionId → StreamAction BridgeCommand BridgeAsrEvent → Prop
  | .commands own _, sessionId, .sendEvent _ => sessionId = own
  | role, _, .sendEvent _ => role.Tells
  | role, _, .sendCommand _ => role.Stops
  | .clientHandling, _, .closeEvents => True
  | .clientHandling, _, .releaseCommands | .clientStarting, _, .releaseCommands
  | .clientIdle, _, .releaseCommands => True
  | .forwarder _ own, sessionId, .receiveEvent | .forwarder _ own, sessionId, .closeEvents =>
      sessionId = own
  | .commands own _, sessionId, .receiveCommand | .commands own _, sessionId, .closeCommands =>
      sessionId = own
  | _, _, _ => False

/-- The operations of a role on the channels of TTS sessions. -/
def Speaks : Role → SessionId → StreamAction BridgeTtsCommand BridgeTtsEvent → Prop
  | role, _, .sendCommand _ => role.Stops
  | .clientHandling, _, .releaseCommands | .clientStarting, _, .releaseCommands
  | .clientIdle, _, .releaseCommands => True
  | .forwarder _ own, sessionId, .receiveEvent | .forwarder _ own, sessionId, .closeEvents =>
      sessionId = own
  | _, _, _ => False

/-- The messages a role sends to agents. -/
def Commands (index connection : ℕ) (message : GatewayToAgentMessage) : Role → Prop
  | .agentGreeting | .agentIdle =>
      connection = index ∧ message.taskId? = none ∧ message.start? = none
  | .controlPlaying => message.taskId?.isSome
  | .clientHandling => message.taskId? = none
  | .commands _ own => connection = own ∧ message.taskId? = none ∧ message.start? = none
  | _ => False

/-- The messages a role queues for clients. -/
def Queues (index connection : ℕ) (message : ServerMessage) : Role → Prop
  | .clientIdle =>
      connection = index ∧ message.Direct ∧ message.requestId? = none ∧ ¬ message.Starts
  | .clientHandling => connection = index ∧ message.Direct ∧ message.sessionId? = none
  | .clientStarting => connection = index ∧ message.Direct
  | .forwarder own sessionId => connection = own ∧ message.Relayed sessionId
  | _ => False

/-- The actions of a client connection's own task. -/
def Serves : Role → ClientAction → Prop
  | .clientIdle, .nextFrame | .clientIdle, .joinWriter => True
  | role, .activeSession => role.Stops
  | role, .setActive none => role.Stops
  | .clientStarting, .setActive (some _) => True
  | .clientHandling, .startAsr _ | .clientHandling, .startTts _
  | .clientHandling, .listVoices _ => True
  | _, _ => False

/-- The procedures a role spawns. -/
def Spawns (index : ℕ) : Role → Procedure → Prop
  | .clientStarting, .asrForwarder connection _ _ _ _
  | .clientStarting, .ttsForwarder connection _ _ _ _ _ => connection = index
  | .clientHandling, .forwardCommandsToAgent _ _ => True
  | _, _ => False

/-- The marks a role sets. -/
def Marks : Role → Mark → Prop
  | .controlPlaying, .playAudioCalled _ | .controlPlaying, .playAudioReturned => True
  | .agentGreeting, .agentReturned | .agentIdle, .agentReturned | .agentLeaving, .agentReturned =>
      True
  | .clientIdle, .clientMessageHandled _ => True
  | _, _ => False

/-- The actions of a role. -/
def Permits (index : ℕ) (role : Role) : Action → Prop
  | .registry action => role.Enters index action
  | .sendTaskResult _ _ => role.Settles
  | .awaitTask _ => role = .controlPlaying
  | .agent .nextInput => role = .agentGreeting ∨ role = .agentIdle
  | .agent .joinWriter => role = .agentLeaving
  | .sendAgent connection message => role.Commands index connection message
  | .createSession | .awaitStarted _ => role = .clientHandling
  | .sendStarted _ _ => role.Tells
  | .asr sessionId action => role.Streams sessionId action
  | .tts sessionId action => role.Speaks sessionId action
  | .sendClient connection message => role.Queues index connection message
  | .client action => role.Serves action
  | .control _ => role = .controlIdle ∨ role = .controlPlaying
  | .device _ => role = .device
  | .spawn procedure => role.Spawns index procedure
  | .mark mark => role.Marks mark

/-- A task goes on in its family, or is finished. Only a hello leads to the hello, and only the
handling of a message to the start of a session. -/
def Leads : Role → Role → Prop
  | .agentGreeting, .agentGreeting | .clientHandling, .clientStarting => True
  | _, .agentGreeting | _, .clientStarting => False
  | role, next => next.family = role.family ∨ next.family = .finished

def Continues (role : Role) : Option Procedure → Prop
  | none => True
  | some procedure => role.Leads procedure.role

end Role

/-- A program that keeps to the actions of a role. -/
abbrev Footprint {α : Type} (index : ℕ) (role : Role) (code : Program α) : Prop :=
  code.Within (role.Permits index) fun _ => True

/-- The program of a procedure that goes on in its role. -/
abbrev Plays (index : ℕ) (role : Role) (code : Program (Option Procedure)) : Prop :=
  code.Within (role.Permits index) role.Continues

variable {index : ℕ} {role : Role}

theorem Footprint.plays {α : Type} {code : Program α} {rest : α → Program (Option Procedure)}
    (first : Footprint index role code) (second : ∀ value, Plays index role (rest value)) :
    Plays index role (code >>= rest) :=
  Code.Within.bind first fun value _ => second value

theorem Footprint.bind {α β : Type} {code : Program α} {rest : α → Program β}
    (first : Footprint index role code) (second : ∀ value, Footprint index role (rest value)) :
    Footprint index role (code >>= rest) :=
  Code.Within.bind first fun value _ => second value

theorem Footprint.perform {action : Action} (permitted : role.Permits index action) :
    Footprint index role (perform action) :=
  Code.Within.perform permitted fun _ => trivial

theorem Footprint.after {β : Type} {action : Action} {rest : action.Answer → Program β}
    (permitted : role.Permits index action)
    (second : ∀ answer, Footprint index role (rest answer)) :
    Footprint index role (Model.perform action >>= rest) :=
  ⟨permitted, second⟩

theorem Plays.after {action : Action} {rest : action.Answer → Program (Option Procedure)}
    (permitted : role.Permits index action) (second : ∀ answer, Plays index role (rest answer)) :
    Plays index role (perform action >>= rest) :=
  ⟨permitted, second⟩

/-! ## Agent connections -/

theorem Role.Tells.sendEvent (tells : role.Tells) (sessionId : SessionId) (event : BridgeAsrEvent) :
    role.Permits index (.asr sessionId (.sendEvent event)) := by
  cases role <;> first | exact tells | exact tells.elim

theorem Role.Settles.takes (settles : role.Settles) (taskId : String) :
    role.Permits index (.registry (.takeTaskWaiter taskId)) := by
  cases role <;> exact settles

theorem tellSession_footprint (tells : role.Tells) (route : SessionRoute)
    (startError : BridgeError) (events : List BridgeAsrEvent) :
    Footprint index role (tellSession route startError events) := by
  unfold tellSession
  split
  · exact Footprint.perform tells
  · exact Code.Within.each fun event _ => Footprint.after (tells.sendEvent ..) fun _ => trivial

theorem resolveTaskWaiter_footprint (settles : role.Settles) (taskId : String)
    (result : TaskWaitResult) : Footprint index role (resolveTaskWaiter taskId result) := by
  refine .after (settles.takes taskId) fun answer => ?_
  cases answer with
  | none => trivial
  | some waiter => exact Footprint.perform settles

theorem finishAgentRemoval_footprint (tells : role.Tells) (settles : role.Settles)
    (orphanedSessions : List (SessionId × SessionRoute)) (orphanedTasks : List String) :
    Footprint index role (finishAgentRemoval orphanedSessions orphanedTasks) := by
  refine Footprint.bind (Code.Within.each fun entry _ => tellSession_footprint tells ..) fun _ => ?_
  exact Code.Within.each fun taskId _ => resolveTaskWaiter_footprint settles ..

theorem removeSession_footprint {sessionId : SessionId} (tells : role.Tells)
    (removes : role.Permits index (.registry (.removeSession sessionId)))
    (startError : BridgeError) (events : List BridgeAsrEvent) :
    Footprint index role (do
      match ← locked (.removeSession sessionId) with
      | some route => tellSession route startError events
      | none => pure ()) := by
  refine .after removes fun answer => ?_
  cases answer with
  | none => trivial
  | some route => exact tellSession_footprint tells route startError events

theorem routeEvent_footprint (sessionId : SessionId) (event : BridgeAsrEvent) :
    Footprint index .agentHandling (routeEvent sessionId event) := by
  refine .after trivial fun answer => ?_
  cases answer with
  | none => trivial
  | some eventTx => exact ⟨trivial, fun _ => trivial⟩

theorem handleTaskStatus_footprint (taskId : String) (payload : AgentTaskStatusPayload) :
    Footprint index .agentHandling (handleTaskStatus taskId payload) := by
  refine .after trivial fun routed => ?_
  cases routed with
  | none => trivial
  | some _ =>
    dsimp only
    split
    · trivial
    · exact .after trivial fun _ => resolveTaskWaiter_footprint (by trivial) ..

theorem handleAgentMessage_footprint (message : AgentToGatewayMessage) :
    Footprint index .agentHandling (handleAgentMessage message) := by
  cases message with
  | hello payload | pong => trivial
  | sessionStarted sessionId providerId =>
    refine .after trivial fun answer => ?_
    cases answer with
    | none => trivial
    | some startedTx => exact Footprint.perform trivial
  | asrPartial sessionId text | asrFinal sessionId transcript => exact routeEvent_footprint ..
  | sessionEnded sessionId reason => exact removeSession_footprint (by trivial) (by trivial) ..
  | error session text =>
    cases session with
    | none => trivial
    | some sessionId =>
      refine .after trivial fun pending => ?_
      cases pending with
      | true => exact removeSession_footprint (by trivial) (by trivial) ..
      | false => exact routeEvent_footprint ..
  | taskStatus taskId payload => exact handleTaskStatus_footprint ..

theorem agentHello_plays (config : GatewayConfig) :
    Plays index .agentGreeting (agentHello config index) := by
  refine ⟨.inl rfl, fun input => ?_⟩
  have registers (payload : AgentHelloPayload) :
      Plays index .agentGreeting (agentRegistered config index payload) := by
    have registered : Footprint index .agentGreeting (registerAgent config payload index) := by
      unfold registerAgent
      split
      · exact .after trivial fun orphanedSessions => Footprint.bind (Footprint.perform rfl)
          fun orphanedTasks => Footprint.bind (finishAgentRemoval_footprint (by trivial)
            (by trivial) ..) fun _ => trivial
      · trivial
    refine registered.plays fun result => ?_
    cases result with
    | error error => exact .inr rfl
    | ok _ =>
      refine ⟨⟨rfl, rfl, rfl⟩, fun accepted => ?_⟩
      cases accepted with
      | true => exact .inl rfl
      | false => exact ⟨trivial, fun _ => .inr rfl⟩
  match input with
  | .frame (.text (.ok (.hello payload))) => exact registers payload
  | .frame .ended | .frame (.failed _) | .frame (.text (.error _)) | .frame (.binary _)
  | .frame (.ping _) | .frame .pong | .frame .close
  | .frame (.text (.ok (.sessionStarted _ _))) | .frame (.text (.ok (.asrPartial _ _)))
  | .frame (.text (.ok (.asrFinal _ _))) | .frame (.text (.ok (.sessionEnded _ _)))
  | .frame (.text (.ok (.error _ _))) | .frame (.text (.ok (.taskStatus _ _)))
  | .frame (.text (.ok .pong)) => exact .inr rfl
  | .heartbeat _ | .writerEnded => trivial

theorem agentLoop_plays (agentId : String) : Plays index .agentIdle (agentLoop index agentId) := by
  refine ⟨.inr rfl, fun input => ?_⟩
  match input with
  | .frame (.failed _) | .frame (.text (.error _)) => exact ⟨trivial, fun _ => .inr rfl⟩
  | .frame (.ping _) | .heartbeat false => exact ⟨⟨rfl, rfl, rfl⟩, fun _ => .inl rfl⟩
  | .frame .ended | .frame (.text (.ok _)) | .frame .close | .frame .pong | .frame (.binary _)
  | .heartbeat true | .writerEnded => exact .inl rfl

theorem agentTeardown_plays (agentId : String) :
    Plays index .agentLeaving (agentTeardown agentId) := by
  have unregistered : Footprint index .agentLeaving (unregisterAgent agentId) :=
    .after trivial fun _ => .after trivial fun _ =>
      finishAgentRemoval_footprint (by trivial) (by trivial) ..
  exact unregistered.plays fun _ => ⟨rfl, fun _ => ⟨trivial, fun _ => .inr rfl⟩⟩

theorem forwardCommandsToAgent_plays (config : GatewayConfig) (sessionId : SessionId)
    (connection : ℕ) : Plays index (.commands sessionId connection)
      (forwardCommandsToAgent config sessionId connection) := by
  refine ⟨rfl, fun received => ?_⟩
  cases received with
  | none => exact ⟨rfl, fun _ => trivial⟩
  | some command =>
    have noTask : (BridgeCommand.toAgent config.base64 sessionId command).taskId? = none ∧
        (BridgeCommand.toAgent config.base64 sessionId command).start? = none := by
      cases command <;> exact ⟨rfl, rfl⟩
    refine ⟨⟨rfl, noTask⟩, fun sent => ?_⟩
    cases sent with
    | true => exact .inl rfl
    | false => exact ⟨rfl, fun _ => ⟨rfl, fun _ => ⟨rfl, fun _ => trivial⟩⟩⟩

/-! ## Control connections -/

theorem sendControlMessage_footprint (writes : role = .controlIdle ∨ role = .controlPlaying)
    (response : ControlResponse) : Footprint index role (sendControlMessage response) := by
  refine .after writes fun sent => ?_
  cases sent <;> trivial

theorem routePlayAudio_footprint (taskId what : String) (message : GatewayToAgentMessage)
    (playback : message.taskId?.isSome) :
    Footprint index .controlPlaying (routePlayAudio taskId what message) := by
  have abandons (text : String) : Footprint index .controlPlaying (abandonTask taskId text) :=
    .after trivial fun _ =>
      Footprint.bind (resolveTaskWaiter_footprint (by trivial) ..) fun _ => trivial
  refine .after trivial fun routed => ?_
  cases routed with
  | none => trivial
  | some agentId =>
    refine .after trivial fun found => ?_
    cases found with
    | none => exact abandons _
    | some commandTx =>
      refine .after playback fun sent => ?_
      cases sent with
      | true => trivial
      | false => exact abandons _

theorem routePlayAudioStart_footprint (request : PlayAudioRouteRequest) :
    Footprint index .controlPlaying (routePlayAudioStart request) := by
  unfold routePlayAudioStart
  dsimp only
  split
  · trivial
  · refine .after trivial fun selected => ?_
    cases selected with
    | none => trivial
    | some agent =>
      refine .after trivial fun registered => ?_
      cases registered with
      | error message => trivial
      | ok _ =>
        refine .after rfl fun sent => ?_
        cases sent with
        | true => trivial
        | false => exact .after trivial fun _ => trivial

theorem sendChunks_footprint (base64 : Base64) (taskId : String) (audio : List Bytes) :
    Footprint index .controlPlaying (sendChunks base64 taskId audio) := by
  induction audio with
  | nil => trivial
  | cons chunk rest ih =>
    refine Footprint.bind (routePlayAudio_footprint _ _ _ rfl) fun result => ?_
    cases result with
    | error error => trivial
    | ok _ => exact ih

theorem awaitPlayback_footprint (taskId : String) (taskWaiter : ℕ) :
    Footprint index .controlPlaying (awaitPlayback taskId taskWaiter) := by
  refine .after rfl fun awaited => ?_
  match awaited with
  | .value (.ok _) | .value (.error _) | .dropped => trivial
  | .elapsed => exact .after trivial fun _ => trivial

theorem playAudioTask_footprint (config : GatewayConfig) (payload : ControlPlayAudioPayload)
    (taskId : String) (bytes : Bytes) :
    Footprint index .controlPlaying (playAudioTask config payload taskId bytes) := by
  refine .after trivial fun taskWaiter => ?_
  have starts := @routePlayAudioStart_footprint index
    ⟨taskId, payload.deviceId, payload.outputTarget, payload.agentId, payload.format⟩
  generalize routePlayAudioStart _ = start at starts ⊢
  refine starts.bind fun started => ?_
  cases started with
  | error error => exact .after trivial fun _ => trivial
  | ok routedAgentId =>
    have plays : Footprint index .controlPlaying
        (playChunks config.base64 taskId taskWaiter (chunks payload.chunkSize bytes)) := by
      refine Footprint.bind (sendChunks_footprint ..) fun sent => ?_
      cases sent with
      | error error => trivial
      | ok _ =>
        refine Footprint.bind (routePlayAudio_footprint _ _ _ rfl) fun finished => ?_
        cases finished with
        | error error => trivial
        | ok _ => exact awaitPlayback_footprint ..
    refine plays.bind fun played => ?_
    cases played with
    | error error => trivial
    | ok _ => exact sendControlMessage_footprint (.inr rfl) _

theorem playAudio_plays (config : GatewayConfig) (payload : ControlPlayAudioPayload) :
    Plays index .controlPlaying (playAudio config payload) := by
  have named : Footprint index .controlPlaying (controlTaskId payload) := by
    unfold controlTaskId
    split
    · trivial
    · exact Footprint.perform (.inr rfl)
  have handled : Footprint index .controlPlaying (handleControlPlayAudio config payload) := by
    refine named.bind fun taskId => .after trivial fun _ => ?_
    cases payload.audio config.base64 with
    | error error => trivial
    | ok bytes => exact playAudioTask_footprint ..
  exact handled.plays fun result => ⟨trivial, fun _ => .inl rfl⟩

theorem controlReply_plays (result : Except BridgeError Unit) :
    Plays index .controlIdle (controlReply result) := by
  cases result with
  | ok _ => exact .inl rfl
  | error error =>
    refine Footprint.plays (sendControlMessage_footprint (.inl rfl) _) fun sent => ?_
    cases sent with
    | ok _ => exact .inl rfl
    | error _ => exact .inr rfl

theorem controlLoop_plays : Plays index .controlIdle controlLoop := by
  have answered (response : ControlResponse) : Plays index .controlIdle (do
      let sent ← sendControlMessage response
      return afterReply sent) := by
    refine Footprint.plays (sendControlMessage_footprint (.inl rfl) _) fun sent => ?_
    cases sent with
    | ok _ => exact .inl rfl
    | error _ => exact .inr rfl
  refine ⟨.inl rfl, fun frame => ?_⟩
  match frame with
  | .ended | .failed _ | .close => exact .inr rfl
  | .pong | .text (.ok (.playAudio _)) => exact .inl rfl
  | .text (.error _) | .ping _ | .binary _ => exact answered _
  | .text (.ok .devicesList) =>
    have listed : Footprint index .controlIdle handleControlDevicesList :=
      .after trivial fun _ => sendControlMessage_footprint (.inl rfl) _
    exact listed.plays fun _ => .inl rfl
  | .text (.ok (.agentStatus payload)) =>
    have reported : Footprint index .controlIdle (handleControlAgentStatus payload) :=
      .after trivial fun _ => sendControlMessage_footprint (.inl rfl) _
    exact reported.plays fun _ => .inl rfl

/-! ## Client connections -/

theorem commandBridge_footprint {sent : Program Bool} (sends : Footprint index role sent) :
    Footprint index role (commandBridge sent) := by
  refine sends.bind fun accepted => ?_
  cases accepted <;> trivial

theorem whenActive_footprint {expected : Except ServerError Unit} {sent : Program Bool}
    (sends : Footprint index role sent) : Footprint index role (whenActive expected sent) := by
  cases expected with
  | error error => trivial
  | ok _ => exact commandBridge_footprint sends

theorem stop_footprint (stops : role.Stops) (session : ActiveSession) :
    Footprint index role (ActiveSession.stop session) := by
  cases session with
  | asr sessionId =>
    refine commandBridge_footprint (Footprint.perform ?_)
    cases role <;> exact stops
  | tts sessionId =>
    refine commandBridge_footprint (Footprint.perform ?_)
    cases role <;> exact stops

theorem dropHandle_footprint (client : role.family = .client) (session : ActiveSession) :
    Footprint index role (ActiveSession.dropHandle session) := by
  cases role <;> first | (cases session <;> exact Footprint.perform trivial) | cases client

theorem stopSession_footprint (sessionId : SessionId) :
    Footprint index .clientHandling (stopSession sessionId) := by
  refine .after trivial fun active => ?_
  cases active with
  | none => trivial
  | some session =>
    dsimp only
    split
    · refine (stop_footprint (by trivial) session).bind fun stopped => ?_
      cases stopped with
      | error error => trivial
      | ok _ =>
        exact .after trivial fun _ => (dropHandle_footprint rfl _).bind fun _ => trivial
    · trivial

theorem sendReply_footprint {reply : ServerMessage}
    (queues : role.Permits index (.sendClient index reply)) :
    Footprint index role (sendReply index reply) := by
  refine .after queues fun sent => ?_
  cases sent <;> trivial

theorem sendError_footprint (sessionId : Option SessionId) (error : ServerError) :
    Footprint index .clientIdle (sendError index none sessionId error) :=
  .after ⟨rfl, rfl, rfl, id⟩ fun _ => trivial

theorem startRemote_footprint (providerId : String) (request : AsrStreamRequest) :
    Footprint index .clientHandling (startRemote providerId request) := by
  have fails (sessionId : SessionId) (error : BridgeError) : Footprint index .clientHandling (do
      failSessionStart sessionId error
      abandonSession sessionId error) :=
    Footprint.bind (removeSession_footprint (by trivial) (by trivial) ..) fun _ =>
      .after trivial fun _ => .after trivial fun _ => trivial
  have awaits (session : AsrSession) :
      Footprint index .clientHandling (startRemote.await session) := by
    refine .after rfl fun awaited => ?_
    match awaited with
    | .value (.ok _) => trivial
    | .value (.error _) => exact .after trivial fun _ => .after trivial fun _ => trivial
    | .dropped | .elapsed => exact fails ..
  have starts : Footprint index .clientHandling (startRemote.start providerId request) := by
    refine .after trivial fun selected => ?_
    cases selected with
    | none => trivial
    | some agent =>
      refine .after rfl fun sessionId => .after trivial fun _ => ?_
      refine .after rfl fun sent => ?_
      cases sent with
      | false => exact fails ..
      | true => exact .after trivial fun _ => awaits _
  unfold startRemote
  split
  · split
    · exact starts
    · trivial
  · exact starts

theorem startAsr_footprint (config : GatewayConfig) (payload : AsrStreamRequest) :
    Footprint index .clientHandling (startAsr config payload) := by
  unfold startAsr
  split
  · trivial
  · exact startRemote_footprint ..
  · exact Footprint.perform trivial

theorem handleClientMessage_plays (config : GatewayConfig) (message : ClientMessage) :
    Plays index .clientHandling (handleClientMessage config index message) := by
  cases message with
  | hello requestId payload | discover requestId domains | ping requestId =>
    exact Footprint.plays (sendReply_footprint ⟨rfl, trivial, rfl⟩) fun _ => .inl rfl
  | asrTranscribe requestId => exact .inl rfl
  | asrStart requestId payload =>
    refine .after trivial fun active => ?_
    cases active with
    | some session => exact .inl rfl
    | none => exact (startAsr_footprint ..).plays fun _ => trivial
  | asrCommit sessionId | ttsInputAppend sessionId delta | ttsCommit sessionId =>
    refine .after trivial fun active => ?_
    exact Footprint.plays (whenActive_footprint (Footprint.perform trivial)) fun _ => .inl rfl
  | ttsVoices requestId payload =>
    simp only [handleClientMessage]
    split
    · exact .inl rfl
    · refine .after trivial fun listed => ?_
      match listed with
      | .error error => exact .inl rfl
      | .ok voices =>
        exact Footprint.plays (sendReply_footprint ⟨rfl, trivial, rfl⟩) fun _ => .inl rfl
  | ttsStart requestId payload =>
    refine .after trivial fun active => ?_
    cases active with
    | some session => exact .inl rfl
    | none =>
      dsimp only
      split
      · exact .inl rfl
      · exact ⟨trivial, fun _ => trivial⟩
  | sessionStop sessionId | sessionCancel sessionId =>
    exact (stopSession_footprint sessionId).plays fun _ => .inl rfl

theorem asrStarted_plays (requestId : RequestId) (payload : AsrStreamRequest)
    (outcome : Except BridgeError AsrSession) :
    Plays index .clientStarting (asrStarted index requestId payload outcome) := by
  cases outcome with
  | error error => exact .inl rfl
  | ok session =>
    refine .after rfl fun _ => ?_
    refine Footprint.plays (sendReply_footprint ⟨rfl, trivial⟩) fun result => ?_
    cases result with
    | error error => exact Footprint.plays (dropHandle_footprint rfl _) fun _ => .inl rfl
    | ok _ => exact ⟨trivial, fun _ => .inl rfl⟩

theorem ttsStarted_plays (requestId : RequestId) (payload : TtsStreamRequest)
    (outcome : Except BridgeError (TtsSession × SynthesisInputKind)) :
    Plays index .clientStarting (ttsStarted index requestId payload outcome) := by
  cases outcome with
  | error error => exact .inl rfl
  | ok started =>
    refine .after rfl fun _ => ?_
    refine Footprint.plays (sendReply_footprint ⟨rfl, trivial⟩) fun result => ?_
    cases result with
    | error error => exact Footprint.plays (dropHandle_footprint rfl _) fun _ => .inl rfl
    | ok _ => exact ⟨trivial, fun _ => .inl rfl⟩

theorem clientReply_plays (message : ClientMessage) (result : Except ServerError Unit) :
    Plays index .clientIdle (clientReply index message result) := by
  cases result with
  | ok _ => exact ⟨trivial, fun _ => .inl rfl⟩
  | error error =>
    refine .after trivial fun active => ?_
    exact Footprint.plays (sendError_footprint ..) fun _ => ⟨trivial, fun _ => .inl rfl⟩

theorem clientLoop_plays : Plays index .clientIdle (clientLoop index) := by
  refine .after trivial fun frame => ?_
  match frame with
  | .ended | .close | .pong | .text (.ok _) => exact .inl rfl
  | .failed _ =>
    refine .after trivial fun active => ?_
    cases active with
    | none => exact .inr rfl
    | some session => exact Footprint.plays (dropHandle_footprint rfl session) fun _ => .inr rfl
  | .text (.error error) =>
    refine .after trivial fun active => ?_
    exact Footprint.plays (sendError_footprint ..) fun _ => .inl rfl
  | .binary bytes =>
    have pushed : Footprint index .clientIdle (pushAudio index bytes) := by
      refine .after trivial fun active => ?_
      match active with
      | some (.asr sessionId) =>
        refine Footprint.bind (commandBridge_footprint (Footprint.perform trivial)) fun result => ?_
        cases result with
        | ok _ => trivial
        | error error => exact sendError_footprint ..
      | some (.tts sessionId) | none => exact sendError_footprint ..
    exact pushed.plays fun _ => .inl rfl
  | .ping _ => exact ⟨⟨rfl, trivial, rfl, id⟩, fun _ => .inl rfl⟩

theorem clientTeardown_plays : Plays index .clientIdle clientTeardown := by
  refine .after trivial fun active => ?_
  cases active with
  | none => exact ⟨trivial, fun _ => .inr rfl⟩
  | some session =>
    refine .after trivial fun _ => (stop_footprint (by trivial) session).plays fun _ => ?_
    exact Footprint.plays (dropHandle_footprint rfl session) fun _ =>
      ⟨trivial, fun _ => .inr rfl⟩

theorem asrOutgoing_relayed (sessionId : SessionId) (sequence revision : ℕ)
    (previousText : String) (event : BridgeAsrEvent) :
    (asrOutgoing sessionId sequence revision previousText event).1.Relayed sessionId := by
  cases event with
  | partial_ text | final transcript | ended reason => rfl
  | error message => exact ⟨rfl, rfl⟩

theorem asrForwarder_plays (connection : ℕ) (sessionId : SessionId) (sequence revision : ℕ)
    (previousText : String) : Plays index (.forwarder connection sessionId)
      (asrForwarder connection sessionId sequence revision previousText) := by
  refine ⟨rfl, fun received => ?_⟩
  cases received with
  | none => exact ⟨rfl, fun _ => trivial⟩
  | some event =>
    refine ⟨⟨rfl, asrOutgoing_relayed ..⟩, fun sent => ?_⟩
    cases sent with
    | true => exact .inl rfl
    | false => exact ⟨rfl, fun _ => trivial⟩

theorem ttsForwarder_plays (base64 : Base64) (connection : ℕ) (sessionId : SessionId)
    (inputKind : SynthesisInputKind) (sequence totalChunks totalBytes : ℕ) :
    Plays index (.forwarder connection sessionId)
      (ttsForwarder base64 connection sessionId inputKind sequence totalChunks totalBytes) := by
  have finishes : Plays index (.forwarder connection sessionId) (ttsForwarder.finish sessionId) :=
    ⟨rfl, fun _ => trivial⟩
  refine ⟨rfl, fun received => ?_⟩
  match received with
  | none => exact finishes
  | some (.audio chunk) =>
    refine ⟨⟨rfl, rfl⟩, fun sent => ?_⟩
    cases sent with
    | true => exact .inl rfl
    | false => exact finishes
  | some (.ended reason) =>
    refine ⟨⟨rfl, rfl⟩, fun sent => ?_⟩
    cases sent with
    | true => exact ⟨⟨rfl, rfl⟩, fun _ => finishes⟩
    | false => exact finishes
  | some (.error message) =>
    refine ⟨⟨rfl, rfl, rfl⟩, fun sent => ?_⟩
    cases sent with
    | true => exact .inl rfl
    | false => exact finishes

/-! ## Device agents -/

theorem deviceSend_footprint (message : AgentToGatewayMessage) :
    Footprint index .device (deviceSend message) := by
  refine .after rfl fun sent => ?_
  cases sent <;> trivial

theorem finishFailedTask_footprint (tracker : TaskTracker) (taskId reason : String) :
    Footprint index .device (finishFailedTask tracker taskId reason) :=
  .after rfl fun _ => deviceSend_footprint _

theorem deviceStart_footprint (taskId : String) (format : Option AudioFormat) :
    Footprint index .device (deviceStart taskId format) := by
  refine .after rfl fun tracker => ?_
  split
  · exact deviceSend_footprint _
  · refine .after rfl fun started => ?_
    match started with
    | .ok _ | .error _ => exact .after rfl fun _ => deviceSend_footprint _

theorem deviceChunk_footprint (base64 : Base64) (taskId dataBase64 : String) :
    Footprint index .device (deviceChunk base64 taskId dataBase64) := by
  refine .after rfl fun tracker => ?_
  split
  · split
    · exact finishFailedTask_footprint ..
    · refine .after rfl fun written => ?_
      match written with
      | .error _ => exact finishFailedTask_footprint ..
      | .ok _ => exact .after rfl fun _ => trivial
  · split
    · trivial
    · exact deviceSend_footprint _

theorem deviceFinish_footprint (taskId : String) :
    Footprint index .device (deviceFinish taskId) := by
  refine .after rfl fun tracker => .after rfl fun _ => ?_
  split
  · refine .after rfl fun exited => ?_
    cases (exited : PlayerExit) with
    | succeeded => exact deviceSend_footprint _
    | failed failure stderr =>
      dsimp only
      split
      · exact deviceSend_footprint _
      · trivial
  · split
    · trivial
    · exact deviceSend_footprint _

theorem handleGatewayMessage_footprint (base64 : Base64) (message : GatewayToAgentMessage) :
    Footprint index .device (handleGatewayMessage base64 message) := by
  cases message with
  | helloOk serverName => trivial
  | ping => exact deviceSend_footprint _
  | sessionStart sessionId request =>
    refine (deviceSend_footprint _).bind fun sent => ?_
    cases sent with
    | error _ => trivial
    | ok _ => exact deviceSend_footprint _
  | sessionAudio sessionId dataBase64 | sessionCommit sessionId | sessionStop sessionId =>
    exact deviceSend_footprint _
  | taskPlayAudioStart taskId format => exact deviceStart_footprint ..
  | taskPlayAudioChunk taskId dataBase64 => exact deviceChunk_footprint ..
  | taskPlayAudioFinish taskId => exact deviceFinish_footprint ..

theorem deviceGoesOn_continues (result : Except String Unit) :
    Role.device.Continues (deviceGoesOn result) := by
  cases result with
  | ok _ => exact .inl rfl
  | error _ => exact .inr rfl

theorem deviceWait_plays : Plays index .device deviceWait := by
  refine ⟨rfl, fun input => ?_⟩
  match input with
  | .frame (.text (.ok (.helloOk _))) | .frame (.ping _) | .frame .pong | .frame (.binary _)
  | .heartbeat _ | .frame (.text (.ok (.sessionStart _ _)))
  | .frame (.text (.ok (.sessionAudio _ _))) | .frame (.text (.ok (.sessionCommit _)))
  | .frame (.text (.ok (.sessionStop _))) | .frame (.text (.ok (.taskPlayAudioStart _ _)))
  | .frame (.text (.ok (.taskPlayAudioChunk _ _)))
  | .frame (.text (.ok (.taskPlayAudioFinish _))) | .frame (.text (.ok .ping)) => exact .inl rfl
  | .frame (.text (.error _)) | .frame (.failed _) | .frame .close | .frame .ended =>
    exact .inr rfl

theorem deviceLoop_plays : Plays index .device deviceLoop := by
  have tears : Plays index .device deviceTeardown :=
    ⟨rfl, fun _ => ⟨rfl, fun _ => .inr rfl⟩⟩
  refine .after rfl fun input => ?_
  match input with
  | .frame (.text (.ok _)) | .frame .pong | .frame (.binary _) => exact .inl rfl
  | .frame (.text (.error _)) | .frame (.failed _) => exact .inr rfl
  | .frame (.ping _) => exact (deviceSend_footprint _).plays deviceGoesOn_continues
  | .frame .close | .frame .ended | .heartbeat true => exact tears
  | .heartbeat false =>
    refine Footprint.plays (deviceSend_footprint _) fun sent => ?_
    cases sent with
    | ok _ => exact .inl rfl
    | error _ => exact tears

/-! ## All procedures -/

/-- Every procedure keeps to its role and goes on in it. -/
theorem body_plays (config : GatewayConfig) (index : ℕ) (procedure : Procedure) :
    Plays index procedure.role (body config index procedure) := by
  cases procedure with
  | agentHello => exact agentHello_plays config
  | agentLoop agentId => exact agentLoop_plays agentId
  | agentMessage agentId message =>
    exact (handleAgentMessage_footprint message).plays fun _ => .inl rfl
  | agentTeardown agentId => exact agentTeardown_plays agentId
  | agentReturned result | returned => trivial
  | controlLoop => exact controlLoop_plays
  | playAudio payload => exact playAudio_plays config payload
  | controlReply result => exact controlReply_plays result
  | clientLoop => exact clientLoop_plays
  | clientMessage message => exact handleClientMessage_plays config message
  | asrStarted requestId payload outcome => exact asrStarted_plays ..
  | ttsStarted requestId payload outcome => exact ttsStarted_plays ..
  | clientReply message result => exact clientReply_plays ..
  | clientTeardown => exact clientTeardown_plays
  | asrForwarder connection sessionId sequence revision previousText =>
    exact asrForwarder_plays ..
  | ttsForwarder connection sessionId inputKind sequence totalChunks totalBytes =>
    exact ttsForwarder_plays ..
  | forwardCommandsToAgent sessionId connection => exact forwardCommandsToAgent_plays ..
  | deviceHello hello =>
    refine Footprint.plays (deviceSend_footprint _) fun sent => ?_
    cases sent with
    | ok _ => exact .inl rfl
    | error _ => exact .inr rfl
  | deviceWait => exact deviceWait_plays
  | deviceLoop => exact deviceLoop_plays
  | deviceMessage message =>
    exact (handleGatewayMessage_footprint ..).plays deviceGoesOn_continues

end SpeechMesh.Model
