import SpeechMesh.Model.State

/-! # The gateway's agent side

The methods of `AgentRegistry` and of the remote ASR bridge, and the task of one agent connection.
Logging is left out. A connection is named by its own task, so that its `command_tx` is its index.
-/

namespace SpeechMesh.Model

open Async

/-! ## The agent registry -/

/-- Tell the client side of a session that was taken out of the map. -/
def tellSession (route : SessionRoute) (startError : BridgeError) (events : List BridgeAsrEvent) :
    Program Unit :=
  match route.startedTx with
  | some startedTx => perform (.sendStarted startedTx (.error startError))
  | none => Code.each events fun event => do
      let _ ← perform (.asr route.eventTx (.sendEvent event))

def resolveTaskWaiter (taskId : String) (result : TaskWaitResult) : Program Unit := do
  match ← locked (.takeTaskWaiter taskId) with
  | some waiter => perform (.sendTaskResult waiter result)
  | none => pure ()

def tellOrphanedSession (entry : SessionId × SessionRoute) : Program Unit :=
  tellSession entry.2
    (.disconnected ("agent disconnected before session started: " ++ entry.1.toDebug))
    [.error ("agent disconnected for session " ++ entry.1.toDebug),
      .ended (some "agent_disconnected")]

def tellOrphanedTask (taskId : String) : Program Unit :=
  resolveTaskWaiter taskId
    (.error (.disconnected ("agent disconnected before task completion: " ++ taskId)))

def finishAgentRemoval (orphanedSessions : List (SessionId × SessionRoute))
    (orphanedTasks : List String) : Program Unit := do
  Code.each orphanedSessions tellOrphanedSession
  Code.each orphanedTasks tellOrphanedTask

/-- The record of an agent. Old agents send no `device_info`. -/
def AgentHelloPayload.toRegistered (hello : AgentHelloPayload) (commandTx : ℕ) :
    RegisteredAgent where
  agentId := hello.agentId
  agentName := hello.agentName
  providerId := hello.providerId
  capabilities := hello.capabilities
  capabilityDomains := hello.capabilityDomains
  agentKind := hello.agentKind
  clientVersion := hello.clientVersion
  updateStatus := hello.updateStatus
  device := hello.device
  deviceInfo := none
  commandTx := commandTx

/-- Whether `register_agent` accepts the shared secret of a hello. -/
def authenticates (config : GatewayConfig) (hello : AgentHelloPayload) : Bool :=
  match config.expectedSharedSecret with
  | some expected => hello.sharedSecret == some expected
  | none => true

def registerAgent (config : GatewayConfig) (hello : AgentHelloPayload) (commandTx : ℕ) :
    Program (Except BridgeError Unit) :=
  if authenticates config hello then do
    let orphanedSessions ← locked (.removeOrphanedSessions hello.agentId)
    let orphanedTasks ← locked (.deviceRegisterAgent (hello.toRegistered commandTx))
    finishAgentRemoval orphanedSessions orphanedTasks
    return .ok ()
  else return .error (.unavailable "agent authentication failed")

def unregisterAgent (agentId : String) : Program Unit := do
  let orphanedSessions ← locked (.removeOrphanedSessions agentId)
  let orphanedTasks ← locked (.deviceUnregisterAgent agentId)
  finishAgentRemoval orphanedSessions orphanedTasks

def markSessionStarted (sessionId : SessionId) : Program Unit := do
  match ← locked (.takeStarted sessionId) with
  | some startedTx => perform (.sendStarted startedTx (.ok ()))
  | none => pure ()

def failSessionStart (sessionId : SessionId) (error : BridgeError) : Program Unit := do
  match ← locked (.removeSession sessionId) with
  | some route =>
      tellSession route error
        [.error "session failed before start acknowledgement", .ended (some "start_failed")]
  | none => pure ()

def routeEvent (sessionId : SessionId) (event : BridgeAsrEvent) : Program Unit := do
  match ← locked (.sessionEventTx sessionId) with
  | some eventTx => do
      let _ ← perform (.asr eventTx (.sendEvent event))
  | none => pure ()

def routeSessionEnded (sessionId : SessionId) (reason : Option String) : Program Unit := do
  match ← locked (.removeSession sessionId) with
  | some route =>
      tellSession route (.disconnected (reason.getD "session ended before start ack"))
        [.ended reason]
  | none => pure ()

structure PlayAudioRouteRequest where
  taskId : String
  deviceId : Option String
  outputTarget : Option String
  agentId : Option String
  format : Option AudioFormat

def routePlayAudioStart (request : PlayAudioRouteRequest) :
    Program (Except BridgeError String) := do
  let taskId := trim request.taskId
  if taskId = "" then
    return .error (.unavailable "task_id is required for play_audio routing")
  else
    match ← locked (.selectSpeakerAgent request.deviceId request.agentId) with
    | none =>
        return .error (.unavailable "no registered speaker agent matches the play_audio route")
    | some agent =>
        match ← locked (.registerTask taskId (RegisteredAgent.agentId agent)) with
        | .error message => return .error (.unavailable message)
        | .ok () =>
            match ← perform (.sendAgent (RegisteredAgent.commandTx agent)
              (.taskPlayAudioStart taskId request.format)) with
            | true => return .ok (RegisteredAgent.agentId agent)
            | false => do
                locked (.removeTask taskId)
                return .error (.disconnected
                  ("failed to deliver play_audio start to agent " ++
                    RegisteredAgent.agentName agent))

/-- Give up a task and tell its waiter. -/
def abandonTask (taskId message : String) : Program (Except BridgeError Unit) := do
  locked (.removeTask taskId)
  resolveTaskWaiter taskId (.error (.disconnected message))
  return .error (.disconnected message)

/-- The common body of `route_play_audio_chunk` and `route_play_audio_finish`. -/
def routePlayAudio (taskId what : String) (message : GatewayToAgentMessage) :
    Program (Except BridgeError Unit) := do
  match ← locked (.taskAgentId taskId) with
  | none => return .error (.unavailable ("unknown play_audio task_id " ++ taskId))
  | some agentId =>
      match ← locked (.agentCommandTx agentId) with
      | none =>
          abandonTask taskId
            ("agent " ++ agentId ++ " is no longer available for task " ++ taskId)
      | some commandTx =>
          match ← perform (.sendAgent commandTx message) with
          | true => return .ok ()
          | false =>
              abandonTask taskId
                ("failed to deliver play_audio " ++ what ++ " for task " ++ taskId)

def routePlayAudioChunk (taskId dataBase64 : String) : Program (Except BridgeError Unit) :=
  routePlayAudio taskId "chunk" (.taskPlayAudioChunk taskId dataBase64)

def routePlayAudioFinish (taskId : String) : Program (Except BridgeError Unit) :=
  routePlayAudio taskId "finish" (.taskPlayAudioFinish taskId)

/-! ## Messages of an agent -/

/-- What a terminal status means for the request that waits. -/
def AgentTaskStatusPayload.waitResult (payload : AgentTaskStatusPayload) : TaskWaitResult :=
  if payload.state = .finished then .ok payload
  else .error (.unavailable (payload.message.getD "play_audio task failed"))

def handleTaskStatus (taskId : String) (payload : AgentTaskStatusPayload) : Program Unit := do
  match ← locked (.taskAgentId taskId) with
  | none => pure ()
  | some _ =>
      if payload.state = .started then pure ()
      else do
        locked (.removeTask taskId)
        resolveTaskWaiter taskId payload.waitResult

def handleAgentMessage : AgentToGatewayMessage → Program Unit
  | .hello _ => pure ()
  | .sessionStarted sessionId _ => markSessionStarted sessionId
  | .asrPartial sessionId text => routeEvent sessionId (.partial_ text)
  | .asrFinal sessionId transcript => routeEvent sessionId (.final transcript)
  | .sessionEnded sessionId reason => routeSessionEnded sessionId reason
  | .error (some sessionId) message => do
      match ← locked (.hasPendingStart sessionId) with
      | true => failSessionStart sessionId (.unavailable message)
      | false => routeEvent sessionId (.error message)
  | .error none _ => pure ()
  | .taskStatus taskId payload => handleTaskStatus taskId payload
  | .pong => pure ()

/-! ## The task of an agent connection

`handle_agent_connection`, cut where a run of its loop ends. Before the loop and inside it, errors
leave the function at once; only the breaks lead to the teardown. -/

/-- The function returns. -/
def agentReturn (result : Except BridgeError Unit) : Program (Option Procedure) := do
  perform (.mark .agentReturned)
  return some (.agentReturned result)

def agentRegistered (config : GatewayConfig) (connection : ℕ) (payload : AgentHelloPayload) :
    Program (Option Procedure) := do
  match ← registerAgent config payload connection with
  | .error error => return some (.agentReturned (.error error))
  | .ok () =>
      match ← perform (.sendAgent connection (.helloOk config.serverName)) with
      | true => return some (.agentLoop payload.agentId)
      | false => agentReturn (.error (.disconnected "agent writer closed"))

def agentHello (config : GatewayConfig) (connection : ℕ) : Program (Option Procedure) := do
  let refuse (error : BridgeError) : Program (Option Procedure) :=
    return some (.agentReturned (.error error))
  match ← perform (.agent .nextInput) with
  | .frame .ended => refuse (.protocol "agent closed before hello")
  | .frame (.failed error) => refuse (.io ("read agent hello failed: " ++ error))
  | .frame (.text (.error error)) => refuse (.protocol ("invalid agent hello: " ++ error))
  | .frame (.text (.ok (.hello payload))) => agentRegistered config connection payload
  | .frame (.text (.ok _)) => refuse (.protocol "expected agent.hello first")
  | .frame _ => refuse (.protocol "agent hello must be text frame")
  -- nothing but the first frame is awaited here
  | _ => return some .agentHello

/-- One round of the `select!` loop. -/
def agentLoop (connection : ℕ) (agentId : String) : Program (Option Procedure) := do
  match ← perform (.agent .nextInput) with
  | .frame .ended => return some (.agentTeardown agentId)
  | .frame (.failed error) => agentReturn (.error (.io ("read agent frame failed: " ++ error)))
  | .frame (.text (.ok message)) => return some (.agentMessage agentId message)
  | .frame (.text (.error error)) =>
      agentReturn (.error (.protocol ("invalid agent frame payload: " ++ error)))
  | .frame (.ping _) => do
      let _ ← perform (.sendAgent connection .ping)
      return some (.agentLoop agentId)
  | .frame .close => return some (.agentTeardown agentId)
  | .frame (.pong) | .frame (.binary _) => return some (.agentLoop agentId)
  | .heartbeat true => return some (.agentTeardown agentId)
  | .heartbeat false => do
      let _ ← perform (.sendAgent connection .ping)
      return some (.agentLoop agentId)
  | .writerEnded => return some (.agentTeardown agentId)

def agentMessage (agentId : String) (message : AgentToGatewayMessage) :
    Program (Option Procedure) := do
  handleAgentMessage message
  return some (.agentLoop agentId)

def agentTeardown (agentId : String) : Program (Option Procedure) := do
  unregisterAgent agentId
  perform (.agent .joinWriter)
  agentReturn (.ok ())

/-! ## The remote ASR bridge -/

/-- The input mode of a session: buffered only when the options ask for it. -/
def requestedInputMode (options : RecognitionOptions) : StreamMode :=
  match (options.providerOptions.get? "input_mode").bind Json.asString? with
  | some value => if toAsciiLowercase (trim value) = "buffered" then .buffered else .streaming
  | none => .streaming

def requestedOutputMode (options : RecognitionOptions) : StreamMode :=
  let mode := (options.providerOptions.get? "output_mode").bind Json.asString?
  if mode.map (fun value => toAsciiLowercase (trim value)) = some "streaming" ∨
      options.interimResults = true then .streaming
  else .buffered

/-- The session could not be started: its handle is never built, and its receivers are dropped. -/
def abandonSession (sessionId : SessionId) (error : BridgeError) :
    Program (Except BridgeError AsrSession) := do
  perform (.asr sessionId .closeEvents)
  perform (.asr sessionId .releaseCommands)
  return .error error

/-- `RemoteAgentAsrBridge::start_stream`. A handle is named by the session in it. -/
def startRemote (providerId : String) (request : AsrStreamRequest) :
    Program (Except BridgeError AsrSession) :=
  match request.provider.providerId with
  | some requested =>
      if requested = providerId then start
      else return .error (.unavailable
        ("requested provider " ++ requested ++ " is not available on this gateway"))
  | none => start
where
  start : Program (Except BridgeError AsrSession) := do
    match ← locked (.selectAgent providerId) with
    | none =>
        return .error (.unavailable ("no registered agent available for provider " ++ providerId))
    | some agent => do
        let sessionId : SessionId ← perform .createSession
        let session : AsrSession :=
          ⟨sessionId, providerId, request.inputFormat, requestedInputMode request.options,
            requestedOutputMode request.options⟩
        locked (.registerSession (RegisteredAgent.agentId agent) sessionId)
        match ← perform (.sendAgent (RegisteredAgent.commandTx agent)
          (.sessionStart sessionId request)) with
        | false => do
            let error := BridgeError.disconnected "agent command channel closed"
            failSessionStart sessionId error
            abandonSession sessionId error
        | true => do
            perform (.spawn
              (.forwardCommandsToAgent sessionId (RegisteredAgent.commandTx agent)))
            await session
  await (session : AsrSession) : Program (Except BridgeError AsrSession) := do
    match ← perform (.awaitStarted session.id) with
    | .value (.ok ()) => return .ok session
    | .value (.error error) => abandonSession session.id error
    | .dropped => do
        let error := BridgeError.disconnected "session start acknowledgement lost"
        failSessionStart session.id error
        abandonSession session.id error
    | .elapsed => do
        let error := BridgeError.unavailable "timed out waiting for agent session start"
        failSessionStart session.id error
        abandonSession session.id error

/-- The message that carries a bridge command to the agent. -/
def BridgeCommand.toAgent (base64 : Base64) (sessionId : SessionId) :
    BridgeCommand → GatewayToAgentMessage
  | .pushAudio chunk => .sessionAudio sessionId (base64.encode chunk)
  | .commit => .sessionCommit sessionId
  | .stop => .sessionStop sessionId

/-- One round of `forward_commands_to_agent`. -/
def forwardCommandsToAgent (config : GatewayConfig) (sessionId : SessionId) (connection : ℕ) :
    Program (Option Procedure) := do
  match ← perform (.asr sessionId .receiveCommand) with
  | none => do
      perform (.asr sessionId .closeCommands)
      return none
  | some command =>
      match ← perform (.sendAgent connection (BridgeCommand.toAgent config.base64 sessionId command)) with
      | true => return some (.forwardCommandsToAgent sessionId connection)
      | false => do
          let _ ← perform (.asr sessionId (.sendEvent (.error "agent command channel closed")))
          let _ ← perform (.asr sessionId (.sendEvent (.ended (some "agent_disconnected"))))
          perform (.asr sessionId .closeCommands)
          return none

end SpeechMesh.Model
