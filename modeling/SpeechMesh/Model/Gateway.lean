import Mathlib.Data.Finset.Basic
import SpeechMesh.Async.Code
import SpeechMesh.Model.AgentRegistry
import SpeechMesh.Model.PlaybackFailures

/-! # The state of a running gateway and its atomic actions

The gateway, its agent connections, control connections and client connections, the streams of the
speech sessions, and the device agents at the other end of some agent connections. A connection is
named by the task that serves it. What the environment decides (frames, timers, provider answers,
player outcomes) is put into the state by events and taken out by the actions that wait for it, so
that the actions themselves are functions.

The procedures are the functions of the source between whose runs a task can be observed: a loop
body, or the rest of a function after a call whose result decides how it goes on.
-/

namespace SpeechMesh.Model

open Async

/-! ## Configuration -/

/-- Where an ASR bridge starts a session: on an agent, or at a provider of its own. -/
inductive AsrBackend where
  | remoteAgent (providerId : String)
  | provider

/-- An ASR bridge: a composite picks one of its bindings by the request, a single one always the
same. -/
structure AsrBridge where
  descriptors : List ProviderDescriptor
  route : AsrStreamRequest → Except BridgeError AsrBackend

structure TtsBridge where
  descriptors : List ProviderDescriptor

structure GatewayConfig where
  serverName : String
  expectedSharedSecret : Option String
  asrBridge : AsrBridge
  ttsBridge : Option TtsBridge
  base64 : Base64

/-! ## Procedures -/

/-- The bridge handle of a session is named by its session id. -/
inductive ActiveSession where
  | asr (sessionId : SessionId)
  | tts (sessionId : SessionId)
deriving DecidableEq, Repr

def ActiveSession.sessionId : ActiveSession → SessionId
  | .asr sessionId | .tts sessionId => sessionId

/-- The errors of `handle_client_message`. -/
inductive ServerError where
  | invalidRequest (message : String)
  | unsupported (message : String)
  | sessionNotFound (message : String)
  | bridge (error : BridgeError)
  | disconnected
deriving DecidableEq, Repr

def ServerError.toErrorInfo : ServerError → ErrorInfo
  | .invalidRequest message => ⟨"invalid_request", message, false⟩
  | .unsupported message => ⟨"unsupported_request", message, false⟩
  | .sessionNotFound message => ⟨"session_not_found", message, false⟩
  | .bridge error => ⟨"provider_error", error.toText, false⟩
  | .disconnected => ⟨"connection_closed", "connection closed", false⟩

inductive Procedure where
  | agentHello
  | agentLoop (agentId : String)
  | agentMessage (agentId : String) (message : AgentToGatewayMessage)
  | agentTeardown (agentId : String)
  | agentReturned (result : Except BridgeError Unit)
  | controlLoop
  | playAudio (payload : ControlPlayAudioPayload)
  | controlReply (result : Except BridgeError Unit)
  | clientLoop
  | clientMessage (message : ClientMessage)
  | asrStarted (requestId : RequestId) (payload : AsrStreamRequest)
      (outcome : Except BridgeError AsrSession)
  | ttsStarted (requestId : RequestId) (payload : TtsStreamRequest)
      (outcome : Except BridgeError (TtsSession × SynthesisInputKind))
  | clientReply (message : ClientMessage) (result : Except ServerError Unit)
  | clientTeardown
  | asrForwarder (connection : ℕ) (sessionId : SessionId) (sequence revision : ℕ)
      (previousText : String)
  | ttsForwarder (connection : ℕ) (sessionId : SessionId) (inputKind : SynthesisInputKind)
      (sequence totalChunks totalBytes : ℕ)
  | forwardCommandsToAgent (sessionId : SessionId) (connection : ℕ)
  | deviceHello (hello : AgentHelloPayload)
  | deviceWait
  | deviceLoop
  | deviceMessage (message : GatewayToAgentMessage)
  | returned

/-! ## Connections -/

/-- A message with the playback request it goes back to. The origin is bookkeeping for statements
about causes; no message carries it and nothing reads it. -/
structure Stamped (μ : Type) where
  message : μ
  origin : Option ℕ := none

/-- What the `select!` of an agent connection picks. -/
inductive AgentInput where
  | frame (frame : Incoming AgentToGatewayMessage)
  | heartbeat (elapsed : Bool)
  | writerEnded

/-- The gateway's end of an agent connection. -/
structure AgentLink where
  inbox : List (Stamped AgentInput) := []
  commands : Channel (Stamped GatewayToAgentMessage) := {}

structure ControlLink where
  inbox : List (Incoming ControlRequest) := []
  out : List ControlResponse := []
  broken : Bool := false

/-- What a provider answers to a call of its bridge. -/
inductive ProviderReply where
  | asr (result : Except BridgeError (String × StreamMode × StreamMode))
  | tts (result : Except BridgeError
      (String × Option AudioFormat × StreamMode × StreamMode × SynthesisInputKind))
  | voices (result : Except BridgeError (List VoiceDescriptor))

structure ClientLink where
  inbox : List (Incoming ClientMessage) := []
  out : Channel ServerMessage := {}
  active : Option ActiveSession := none
  replies : List ProviderReply := []

/-- The two channels of a bridge session. A session of a provider is driven by the environment. -/
structure Stream (κ ε : Type) where
  commands : Channel κ := {}
  events : Channel ε := {}
  provider : Bool := false

/-! ## Device agents -/

structure PlaybackTask where
  chunkCount : ℕ := 0
  byteCount : ℕ := 0
  written : Bytes := []
deriving DecidableEq, Repr

structure TaskTracker where
  playAudioTasks : Table String PlaybackTask := ∅
  failedPlayAudioStarts : Finset String := ∅

/-- What the local player does next, as the environment decides it. -/
inductive PlayerOutcome where
  | spawn (result : Except String Unit)
  | write (result : Except String Unit)
  | exit (result : PlayerExit)

inductive DeviceInput where
  | frame (frame : Incoming GatewayToAgentMessage)
  | heartbeat (elapsed : Bool)

/-- One run of `run_once`. It reads what the writer of the connection has written; frames that do
not come from there are in `inbox`. -/
structure DeviceLink where
  connection : Option ℕ := none
  read : ℕ := 0
  inbox : List DeviceInput := []
  out : Channel (Stamped AgentToGatewayMessage) := {}
  tracker : TaskTracker := {}
  player : List PlayerOutcome := []

end SpeechMesh.Model
