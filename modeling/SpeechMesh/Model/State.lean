import Mathlib.Logic.Function.Basic
import SpeechMesh.Model.Actions

/-! # The state, its history, and the effect of the actions

The history records what the program text leaves implicit: on which registration a route was
placed, which request a waiter belongs to, what a task has in hand. No action reads it, apart from
the origins that messages are stamped with.
-/

namespace SpeechMesh.Model

open Async

/-! ## The history -/

/-- A call of `handle_control_play_audio`, numbered in the order of the calls. -/
structure PlaybackRequest where
  taskId : String
  number : ℕ
deriving DecidableEq, Repr

structure History where
  /-- How many registrations there were, and for each connection the id it registered and when. -/
  registrations : ℕ := 0
  registration : ℕ → Option (String × ℕ) := fun _ => none
  /-- The connection of the agent a task selected last, and the one each session was placed on. -/
  selected : ℕ → Option ℕ := fun _ => none
  sessionPlacement : SessionId → Option ℕ := fun _ => none
  /-- The playback requests: which one a control task serves, and which one was called last for a
  task id. -/
  requests : ℕ := 0
  serving : ℕ → Option PlaybackRequest := fun _ => none
  latest : String → Option ℕ := fun _ => none
  /-- The request that the frame a control task has in hand has called, the requests that have not
  returned, and those that have not been answered. -/
  answering : ℕ → Option ℕ := fun _ => none
  unreturned : ℕ → Bool := fun _ => false
  unanswered : ℕ → Bool := fun _ => false
  /-- The task id a request has registered a route for, and the failed statuses on that task that
  were read before the request was answered. -/
  routedAs : ℕ → Option String := fun _ => none
  reported : ℕ → List AgentTaskStatusPayload := fun _ => []
  /-- The task id and the request a waiter was subscribed for, the request that registered the route
  of a task id, and the connection the route of a request was placed on. -/
  waiterTask : ℕ → Option String := fun _ => none
  waiterRequest : ℕ → Option ℕ := fun _ => none
  routeRequest : String → Option ℕ := fun _ => none
  requestPlacement : ℕ → Option ℕ := fun _ => none
  /-- The request behind the message a task has in hand, the task id of a terminal status in hand,
  and the playback message a device has in hand. -/
  cause : ℕ → Option ℕ := fun _ => none
  handling : ℕ → Option String := fun _ => none
  deviceHand : ℕ → Option String := fun _ => none
  /-- What a task has removed with an agent and not settled yet, and all the sessions it removed. -/
  orphans : ℕ → List String := fun _ => []
  orphanedSessions : ℕ → List SessionId := fun _ => []
  /-- The task that took the route of a session out of the map, and the session a task has looked
  up an event sender of. -/
  holder : SessionId → Option ℕ := fun _ => none
  sending : ℕ → Option SessionId := fun _ => none
  /-- The task that took the start sender of a session, and whether the task that took its route has
  put the end of the session on the event channel. -/
  startHolder : SessionId → Option ℕ := fun _ => none
  concluded : SessionId → Bool := fun _ => false
  /-- The agent connections that have left their loop: a registered one that removes sessions, or one
  that returns. And those that have removed their record. -/
  leaving : ℕ → Bool := fun _ => false
  unregistered : ℕ → Bool := fun _ => false
  /-- The forwarder of a session, the sessions that left the slot of a connection, and the messages
  a connection has handled. -/
  forwarder : SessionId → Option ℕ := fun _ => none
  vacated : ℕ → List SessionId := fun _ => []
  handled : ℕ → List ClientMessage := fun _ => []
  /-- The bridge sessions that were started for a connection, the starts at an agent that have
  failed, and the sessions whose failure or end the agent of a connection has reported. -/
  opened : ℕ → List ActiveSession := fun _ => []
  startFailed : SessionId → Bool := fun _ => false
  complained : ℕ → List SessionId := fun _ => []
  /-- What a device has written to the player that it started last for a task. -/
  played : ℕ → String → Option Bytes := fun _ _ => none

structure State where
  registry : AgentRegistry := default
  taskReplies : ℕ → OneShot TaskWaitResult := fun _ => .waiting
  nextWaiter : ℕ := 0
  controlTaskCounter : ℕ := 1
  agents : ℕ → AgentLink := fun _ => {}
  controls : ℕ → ControlLink := fun _ => {}
  clients : ℕ → ClientLink := fun _ => {}
  devices : ℕ → DeviceLink := fun _ => {}
  sessionSerial : ℕ := 0
  asrStreams : SessionId → Stream BridgeCommand BridgeAsrEvent := fun _ => {}
  ttsStreams : SessionId → Stream BridgeTtsCommand BridgeTtsEvent := fun _ => {}
  started : SessionId → OneShot (Except BridgeError Unit) := fun _ => .waiting
  elapsed : ℕ → Bool := fun _ => false
  history : History := {}

/-! ## Effects -/

/-- Event channels hold 64 messages, command channels of the ASR bridges 64, of the TTS bridges 32. -/
def Stream.run {κ ε : Type} (stream : Stream κ ε) (capacity : ℕ) :
    (action : StreamAction κ ε) → Option (Stream κ ε × action.Answer)
  | .sendCommand command =>
      (stream.commands.send? capacity command).map fun result =>
        ({ stream with commands := result.1 }, result.2)
  | .receiveCommand =>
      stream.commands.receive?.map fun result => ({ stream with commands := result.1 }, result.2)
  | .sendEvent event =>
      (stream.events.send? 64 event).map fun result =>
        ({ stream with events := result.1 }, result.2)
  | .receiveEvent =>
      stream.events.receive?.map fun result => ({ stream with events := result.1 }, result.2)
  | .closeCommands =>
      some ({ stream with commands := { stream.commands with closed := true } }, ())
  | .closeEvents => some ({ stream with events := { stream.events with closed := true } }, ())
  | .releaseCommands =>
      some ({ stream with commands := { stream.commands with released := true } }, ())

namespace State

def setAgent (state : State) (connection : ℕ) (link : AgentLink) : State :=
  { state with agents := Function.update state.agents connection link }

def setControl (state : State) (connection : ℕ) (link : ControlLink) : State :=
  { state with controls := Function.update state.controls connection link }

def setClient (state : State) (connection : ℕ) (link : ClientLink) : State :=
  { state with clients := Function.update state.clients connection link }

def setDevice (state : State) (task : ℕ) (link : DeviceLink) : State :=
  { state with devices := Function.update state.devices task link }

def setAsr (state : State) (sessionId : SessionId) (stream : Stream BridgeCommand BridgeAsrEvent) :
    State :=
  { state with asrStreams := Function.update state.asrStreams sessionId stream }

def setTts (state : State) (sessionId : SessionId)
    (stream : Stream BridgeTtsCommand BridgeTtsEvent) : State :=
  { state with ttsStreams := Function.update state.ttsStreams sessionId stream }

def setReply (state : State) (waiter : ℕ) (reply : OneShot TaskWaitResult) : State :=
  { state with taskReplies := Function.update state.taskReplies waiter reply }

def setStarted (state : State) (sessionId : SessionId) (reply : OneShot (Except BridgeError Unit)) :
    State :=
  { state with started := Function.update state.started sessionId reply }

/-- The request that what a task sends goes back to. -/
def origin (state : State) (task : ℕ) : Option ℕ :=
  ((state.history.serving task).map PlaybackRequest.number).or (state.history.cause task)

/-- The waiter whose sender a locked section drops: subscribing again replaces it. -/
def displaced (state : State) : RegistryAction → Option ℕ
  | .subscribeTaskWaiter taskId | .removeTaskWaiter taskId =>
      state.registry.taskWaiters.lookup taskId
  | _ => none

def dropReply (state : State) : Option ℕ → State
  | some waiter => state.setReply waiter (state.taskReplies waiter).drop
  | none => state

def performRegistry (state : State) (action : RegistryAction) : State × action.Answer :=
  let result := state.registry.run state.nextWaiter action
  let waiters := match action with
    | .subscribeTaskWaiter _ => state.nextWaiter + 1
    | _ => state.nextWaiter
  ({ state.dropReply (state.displaced action) with registry := result.1, nextWaiter := waiters },
    result.2)

/-- A timeout polls the receiver before its timer. -/
def await {α : Type} (state : State) (task : ℕ) : OneShot α → Option (State × Awaited α)
  | .sent value => some (state, .value value)
  | .dropped => some (state, .dropped)
  | .waiting =>
      if state.elapsed task then
        some ({ state with elapsed := Function.update state.elapsed task false }, .elapsed)
      else none

def performAgent (state : State) (task : ℕ) :
    (action : AgentAction) → Option (State × action.Answer)
  | .nextInput =>
      match (state.agents task).inbox with
      | [] => none
      | input :: rest =>
          some (state.setAgent task { state.agents task with inbox := rest }, input.message)
  | .joinWriter => if (state.agents task).commands.closed then some (state, ()) else none

/-- `SessionId::new`. -/
def newSession (state : State) (task : ℕ) : State × SessionId :=
  ({ state with sessionSerial := state.sessionSerial + 1 }, ⟨task, state.sessionSerial⟩)

/-- The environment answers a call of a bridge. -/
def popReply (state : State) (task : ℕ) (rest : List ProviderReply) : State :=
  state.setClient task { state.clients task with replies := rest }

/-- A session whose bridge is a provider's. -/
def newAsrSession (state : State) (task : ℕ) : State × SessionId :=
  let created := state.newSession task
  (created.1.setAsr created.2 { provider := true }, created.2)

def newTtsSession (state : State) (task : ℕ) : State × SessionId :=
  let created := state.newSession task
  (created.1.setTts created.2 { provider := true }, created.2)

def performClient (state : State) (task : ℕ) :
    (action : ClientAction) → Option (State × action.Answer)
  | .nextFrame =>
      match (state.clients task).inbox with
      | [] => none
      | frame :: rest =>
          some (state.setClient task { state.clients task with inbox := rest }, frame)
  | .activeSession => some (state, (state.clients task).active)
  | .setActive active => some (state.setClient task { state.clients task with active }, ())
  | .startAsr request =>
      match (state.clients task).replies with
      | .asr (.error error) :: rest => some (state.popReply task rest, .error error)
      | .asr (.ok (providerId, inputMode, outputMode)) :: rest =>
          let created := (state.popReply task rest).newAsrSession task
          some (created.1,
            .ok ⟨created.2, providerId, request.inputFormat, inputMode, outputMode⟩)
      | _ => none
  | .startTts _ =>
      match (state.clients task).replies with
      | .tts (.error error) :: rest => some (state.popReply task rest, .error error)
      | .tts (.ok (providerId, format, inputMode, outputMode, inputKind)) :: rest =>
          let created := (state.popReply task rest).newTtsSession task
          some (created.1,
            .ok (⟨created.2, providerId, format, inputMode, outputMode⟩, inputKind))
      | _ => none
  | .listVoices _ =>
      match (state.clients task).replies with
      | .voices result :: rest => some (state.popReply task rest, result)
      | _ => none
  | .joinWriter => if (state.clients task).out.closed then some (state, ()) else none

def performControl (state : State) (task : ℕ) :
    (action : ControlAction) → Option (State × action.Answer)
  | .nextFrame =>
      match (state.controls task).inbox with
      | [] => none
      | frame :: rest =>
          some (state.setControl task { state.controls task with inbox := rest }, frame)
  | .send response =>
      let link := state.controls task
      if link.broken then some (state, false)
      else some (state.setControl task { link with out := link.out ++ [response] }, true)
  | .nextControlTaskId =>
      some ({ state with controlTaskCounter := state.controlTaskCounter + 1 },
        "play-audio-" ++ toString state.controlTaskCounter)

/-- What a device reads next: a frame of its own inbox, or what the gateway's writer has written. -/
def nextDeviceInput (state : State) (task : ℕ) : Option (DeviceLink × Stamped DeviceInput) :=
  let link := state.devices task
  match link.inbox, link.connection with
  | input :: rest, _ => some ({ link with inbox := rest }, ⟨input, none⟩)
  | [], some connection =>
      let commands := (state.agents connection).commands
      if link.read < commands.received then
        commands.sent[link.read]?.map fun command =>
          ({ link with read := link.read + 1 },
            ⟨.frame (.text (.ok command.message)), command.origin⟩)
      else none
  | [], none => none

def performDevice (state : State) (task : ℕ) :
    (action : DeviceAction) → Option (State × action.Answer)
  | .nextInput =>
      (state.nextDeviceInput task).map fun result =>
        (state.setDevice task result.1, result.2.message)
  | .taskTracker => some (state, (state.devices task).tracker)
  | .setTaskTracker tracker => some (state.setDevice task { state.devices task with tracker }, ())
  | .send message =>
      ((state.devices task).out.send? 64 ⟨message, state.origin task⟩).map fun result =>
        (state.setDevice task { state.devices task with out := result.1 }, result.2)
  | .startPlayer _ =>
      match (state.devices task).player with
      | .spawn result :: rest =>
          some (state.setDevice task { state.devices task with player := rest }, result)
      | _ => none
  | .writePlayer _ =>
      match (state.devices task).player with
      | .write result :: rest =>
          some (state.setDevice task { state.devices task with player := rest }, result)
      | _ => none
  | .waitPlayer =>
      match (state.devices task).player with
      | .exit result :: rest =>
          some (state.setDevice task { state.devices task with player := rest }, result)
      | _ => none

/-- What an action does, without the history. -/
def perform (state : State) (task : ℕ) : (action : Action) → Option (State × action.Answer)
  | .registry action => some (state.performRegistry action)
  | .sendTaskResult waiter result =>
      some (state.setReply waiter ((state.taskReplies waiter).send result), ())
  | .awaitTask waiter => state.await task (state.taskReplies waiter)
  | .agent action => state.performAgent task action
  | .sendAgent connection message =>
      let link := state.agents connection
      (link.commands.send? 64 ⟨message, state.origin task⟩).map fun result =>
        (state.setAgent connection { link with commands := result.1 }, result.2)
  | .createSession => some (state.newSession task)
  | .sendStarted sessionId result =>
      some (state.setStarted sessionId ((state.started sessionId).send result), ())
  | .awaitStarted sessionId => state.await task (state.started sessionId)
  | .asr sessionId action =>
      ((state.asrStreams sessionId).run 64 action).map fun result =>
        (state.setAsr sessionId result.1, result.2)
  | .tts sessionId action =>
      ((state.ttsStreams sessionId).run 32 action).map fun result =>
        (state.setTts sessionId result.1, result.2)
  | .sendClient connection message =>
      let link := state.clients connection
      (link.out.send? 128 message).map fun result =>
        (state.setClient connection { link with out := result.1 }, result.2)
  | .client action => state.performClient task action
  | .control action => state.performControl task action
  | .device action => state.performDevice task action
  | .spawn _ => some (state, ())
  | .mark _ => some (state, ())

end State

/-! ## Keeping the history

One function for each part of the history, so that what changes it can be read off. -/

/-- The task id of a status that settles a task. -/
def AgentInput.settles? : AgentInput → Option String
  | .frame (.text (.ok (.taskStatus taskId payload))) =>
      if payload.state = .started then none else some taskId
  | _ => none

/-- A failed status, with the task it is about. -/
def AgentInput.failure? : AgentInput → Option (String × AgentTaskStatusPayload)
  | .frame (.text (.ok (.taskStatus taskId payload))) =>
      if payload.state = .failed then some (taskId, payload) else none
  | _ => none

/-- The session whose failure or end an agent reports. -/
def AgentInput.complaint? : AgentInput → Option SessionId
  | .frame (.text (.ok (.error sessionId _))) => sessionId
  | .frame (.text (.ok (.sessionEnded sessionId _))) => some sessionId
  | _ => none

def BridgeAsrEvent.isEnded : BridgeAsrEvent → Bool
  | .ended _ => true
  | _ => false

/-- The task id of a playback message. -/
def DeviceInput.taskId? : DeviceInput → Option String
  | .frame (.text (.ok message)) => message.taskId?
  | _ => none

namespace History

variable (history : History) (task : ℕ)

def registrationsAfter : Action → ℕ
  | .registry (.deviceRegisterAgent _) => history.registrations + 1
  | _ => history.registrations

def registrationAfter : Action → ℕ → Option (String × ℕ)
  | .registry (.deviceRegisterAgent agent) =>
      Function.update history.registration task
        ((history.registration task).or (some (agent.agentId, history.registrations)))
  | _ => history.registration

def selectedAfter : (action : Action) → action.Answer → ℕ → Option ℕ
  | .registry (.selectAgent _), some agent =>
      Function.update history.selected task (some agent.commandTx)
  | .registry (.selectSpeakerAgent _ _), some agent =>
      Function.update history.selected task (some agent.commandTx)
  | _, _ => history.selected

def sessionPlacementAfter : Action → SessionId → Option ℕ
  | .registry (.registerSession _ sessionId) =>
      Function.update history.sessionPlacement sessionId
        ((history.sessionPlacement sessionId).or (history.selected task))
  | _ => history.sessionPlacement

def requestsAfter : Action → ℕ
  | .mark (.playAudioCalled _) => history.requests + 1
  | _ => history.requests

def servingAfter : Action → ℕ → Option PlaybackRequest
  | .mark (.playAudioCalled taskId) =>
      Function.update history.serving task (some ⟨taskId, history.requests⟩)
  | .mark .playAudioReturned => Function.update history.serving task none
  | _ => history.serving

def latestAfter : Action → String → Option ℕ
  | .mark (.playAudioCalled taskId) =>
      Function.update history.latest taskId (some history.requests)
  | _ => history.latest

/-- The number of the request a task serves. -/
def servedNumber : Option ℕ := (history.serving task).map PlaybackRequest.number

def answeringAfter : Action → ℕ → Option ℕ
  | .control .nextFrame => Function.update history.answering task none
  | .mark (.playAudioCalled _) => Function.update history.answering task (some history.requests)
  | _ => history.answering

def unreturnedAfter : Action → ℕ → Bool
  | .mark (.playAudioCalled _) => Function.update history.unreturned history.requests true
  | .mark .playAudioReturned => fun number =>
      history.unreturned number && history.servedNumber task != some number
  | _ => history.unreturned

def unansweredAfter : Action → ℕ → Bool
  | .mark (.playAudioCalled _) => Function.update history.unanswered history.requests true
  | .control (.send _) => fun number =>
      history.unanswered number && history.answering task != some number
  | _ => history.unanswered

def routedAsAfter : (action : Action) → action.Answer → ℕ → Option String
  | .registry (.registerTask taskId _), .ok _ => fun number =>
      if history.servedNumber task = some number then some taskId else history.routedAs number
  | _, _ => history.routedAs

def reportedAfter : (action : Action) → action.Answer → ℕ → List AgentTaskStatusPayload
  | .agent .nextInput, input =>
      match AgentInput.failure? input with
      | some (taskId, payload) => fun number =>
          if history.unanswered number = true ∧ history.routedAs number = some taskId then
            (history.reported number).insert payload
          else history.reported number
      | none => history.reported
  | _, _ => history.reported

def waiterTaskAfter : (action : Action) → action.Answer → ℕ → Option String
  | .registry (.subscribeTaskWaiter taskId), waiter =>
      Function.update history.waiterTask waiter ((history.waiterTask waiter).or (some taskId))
  | _, _ => history.waiterTask

def waiterRequestAfter : (action : Action) → action.Answer → ℕ → Option ℕ
  | .registry (.subscribeTaskWaiter _), waiter =>
      Function.update history.waiterRequest waiter
        ((history.waiterRequest waiter).or (history.servedNumber task))
  | _, _ => history.waiterRequest

def routeRequestAfter : (action : Action) → action.Answer → String → Option ℕ
  | .registry (.registerTask taskId _), .ok _ =>
      Function.update history.routeRequest taskId (history.servedNumber task)
  | _, _ => history.routeRequest

def requestPlacementAfter : (action : Action) → action.Answer → ℕ → Option ℕ
  | .registry (.registerTask _ _), .ok _ => fun number =>
      if history.servedNumber task = some number then
        (history.requestPlacement number).or (history.selected task)
      else history.requestPlacement number
  | _, _ => history.requestPlacement

def causeAfter (before : State) : Action → ℕ → Option ℕ
  | .agent .nextInput =>
      Function.update history.cause task ((before.agents task).inbox.head?.bind Stamped.origin)
  | .device .nextInput =>
      Function.update history.cause task
        ((before.nextDeviceInput task).bind fun next => next.2.origin)
  | _ => history.cause

def handlingAfter : (action : Action) → action.Answer → ℕ → Option String
  | .agent .nextInput, input =>
      Function.update history.handling task (AgentInput.settles? input)
  | .registry (.takeTaskWaiter taskId), _ =>
      Function.update history.handling task ((history.handling task).filter (· ≠ taskId))
  | .registry (.taskAgentId taskId), none =>
      Function.update history.handling task ((history.handling task).filter (· ≠ taskId))
  | _, _ => history.handling

def deviceHandAfter : (action : Action) → action.Answer → ℕ → Option String
  | .device .nextInput, input =>
      Function.update history.deviceHand task (DeviceInput.taskId? input)
  | _, _ => history.deviceHand

def orphansAfter : (action : Action) → action.Answer → ℕ → List String
  | .registry (.deviceRegisterAgent _), orphaned => Function.update history.orphans task orphaned
  | .registry (.deviceUnregisterAgent _), orphaned => Function.update history.orphans task orphaned
  | .registry (.takeTaskWaiter taskId), _ =>
      Function.update history.orphans task ((history.orphans task).erase taskId)
  | _, _ => history.orphans

def orphanedSessionsAfter : (action : Action) → action.Answer → ℕ → List SessionId
  | .registry (.removeOrphanedSessions _), impacted =>
      Function.update history.orphanedSessions task
        (history.orphanedSessions task ++ impacted.map Prod.fst)
  | _, _ => history.orphanedSessions

def holderAfter : (action : Action) → action.Answer → SessionId → Option ℕ
  | .registry (.removeOrphanedSessions _), impacted => fun sessionId =>
      if sessionId ∈ impacted.map Prod.fst then some task else history.holder sessionId
  | .registry (.removeSession sessionId), some _ =>
      Function.update history.holder sessionId (some task)
  | _, _ => history.holder

def sendingAfter : (action : Action) → action.Answer → ℕ → Option SessionId
  | .registry (.sessionEventTx sessionId), some _ =>
      Function.update history.sending task (some sessionId)
  | .asr _ (.sendEvent _), _ => Function.update history.sending task none
  | _, _ => history.sending

def startHolderAfter : (action : Action) → action.Answer → SessionId → Option ℕ
  | .registry (.takeStarted _), some startedTx =>
      Function.update history.startHolder startedTx (some task)
  | .registry (.removeSession _), some route => fun sessionId =>
      if route.startedTx = some sessionId then some task else history.startHolder sessionId
  | .registry (.removeOrphanedSessions _), impacted => fun sessionId =>
      if some sessionId ∈ impacted.map (fun entry => entry.2.startedTx) then some task
      else history.startHolder sessionId
  | _, _ => history.startHolder

def concludedAfter : Action → SessionId → Bool
  | .asr sessionId (.sendEvent event) =>
      if event.isEnded ∧ history.holder sessionId = some task then
        Function.update history.concluded sessionId true
      else history.concluded
  | _ => history.concluded

def leavingAfter : Action → ℕ → Bool
  | .mark .agentReturned => Function.update history.leaving task true
  | .registry (.removeOrphanedSessions _) =>
      Function.update history.leaving task
        (history.leaving task || (history.registration task).isSome)
  | _ => history.leaving

def unregisteredAfter : Action → ℕ → Bool
  | .registry (.deviceUnregisterAgent _) => Function.update history.unregistered task true
  | _ => history.unregistered

def forwarderAfter (fresh : ℕ) : Action → SessionId → Option ℕ
  | .spawn (.asrForwarder _ sessionId _ _ _) =>
      Function.update history.forwarder sessionId (some fresh)
  | .spawn (.ttsForwarder _ sessionId _ _ _ _) =>
      Function.update history.forwarder sessionId (some fresh)
  | _ => history.forwarder

/-- What a new value of the slot makes the old session leave it. -/
def vacatedBy (current new : Option ActiveSession) : List SessionId :=
  match current with
  | some session => if new = some session then [] else [session.sessionId]
  | none => []

def vacatedAfter (before : State) : Action → ℕ → List SessionId
  | .client (.setActive active) =>
      Function.update history.vacated task
        (history.vacated task ++ vacatedBy (before.clients task).active active)
  | _ => history.vacated

def handledAfter : Action → ℕ → List ClientMessage
  | .mark (.clientMessageHandled message) =>
      Function.update history.handled task (history.handled task ++ [message])
  | _ => history.handled

def openedAfter : (action : Action) → action.Answer → ℕ → List ActiveSession
  | .client (.startAsr _), .ok session =>
      Function.update history.opened task (history.opened task ++ [.asr session.id])
  | .client (.startTts _), .ok started =>
      Function.update history.opened task (history.opened task ++ [.tts started.1.id])
  | .awaitStarted sessionId, .value (.ok _) =>
      Function.update history.opened task (history.opened task ++ [.asr sessionId])
  | _, _ => history.opened

def startFailedAfter : (action : Action) → action.Answer → SessionId → Bool
  | .awaitStarted _, .value (.ok _) => history.startFailed
  | .awaitStarted sessionId, _ => Function.update history.startFailed sessionId true
  | _, _ => history.startFailed

def complainedAfter : (action : Action) → action.Answer → ℕ → List SessionId
  | .agent .nextInput, input =>
      Function.update history.complained task
        (history.complained task ++ (AgentInput.complaint? input).toList)
  | _, _ => history.complained

def playedAfter : Action → ℕ → String → Option Bytes
  | .device (.setTaskTracker tracker) =>
      Function.update history.played task fun taskId =>
        ((tracker.playAudioTasks.lookup taskId).map PlaybackTask.written).or
          (history.played task taskId)
  | _ => history.played

end History

/-- The history after an action. `before` is the state it was performed in and `fresh` the index
of the next task. -/
def State.note (before : State) (task fresh : ℕ) (action : Action) (answer : action.Answer) :
    History :=
  let history := before.history
  { registrations := history.registrationsAfter action
    registration := history.registrationAfter task action
    selected := history.selectedAfter task action answer
    sessionPlacement := history.sessionPlacementAfter task action
    requests := history.requestsAfter action
    serving := history.servingAfter task action
    latest := history.latestAfter action
    answering := history.answeringAfter task action
    unreturned := history.unreturnedAfter task action
    unanswered := history.unansweredAfter task action
    routedAs := history.routedAsAfter task action answer
    reported := history.reportedAfter action answer
    waiterTask := history.waiterTaskAfter action answer
    waiterRequest := history.waiterRequestAfter task action answer
    routeRequest := history.routeRequestAfter task action answer
    requestPlacement := history.requestPlacementAfter task action answer
    cause := history.causeAfter task before action
    handling := history.handlingAfter task action answer
    deviceHand := history.deviceHandAfter task action answer
    orphans := history.orphansAfter task action answer
    orphanedSessions := history.orphanedSessionsAfter task action answer
    holder := history.holderAfter task action answer
    sending := history.sendingAfter task action answer
    startHolder := history.startHolderAfter task action answer
    concluded := history.concludedAfter task action
    leaving := history.leavingAfter task action
    unregistered := history.unregisteredAfter task action
    forwarder := history.forwarderAfter fresh action
    vacated := history.vacatedAfter task before action
    handled := history.handledAfter task action
    opened := history.openedAfter task action answer
    startFailed := history.startFailedAfter action answer
    complained := history.complainedAfter task action answer
    played := history.playedAfter task action }

/-- The effect of an action. -/
def State.exec (task fresh : ℕ) (state : State) (action : Action) :
    Option (State × action.Answer) :=
  (state.perform task action).map fun result =>
    ({ result.1 with history := state.note task fresh action result.2 }, result.2)

end SpeechMesh.Model
