import SpeechMesh.Model.Core

/-! # The messages of the three WebSocket endpoints

The `transport` crate: what agents and the gateway say to each other, the client protocol, and the
control protocol. A payload record with a single field is that field.
-/

namespace SpeechMesh.Model

/-! ## Frames -/

/-- What awaiting the next frame of a socket yields. A text frame is decoded here; the decoder's
error text stands for the one of `serde_json`. -/
inductive Incoming (μ : Type) where
  | ended
  | failed (error : String)
  | text (message : Except String μ)
  | binary (bytes : Bytes)
  | ping (payload : Bytes)
  | pong
  | close

/-! ## Agents and the gateway -/

inductive AgentKind where
  | asrProvider | device
deriving DecidableEq, Repr

structure AgentDeviceIdentity where
  deviceId : String
  hostname : Option String
  platform : Option String
deriving DecidableEq, Repr

structure AgentUpdateStatus where
  state : Option String
  currentVersion : Option String
  targetVersion : Option String
  checkedAtUnixSecs : Option UInt64
  applied : Option Bool
  restartPerformed : Option Bool
  error : Option String
deriving DecidableEq, Repr

structure AgentHelloPayload where
  agentId : String
  agentName : String
  providerId : Option String := none
  capabilities : List String := []
  capabilityDomains : List CapabilityDomain := []
  agentKind : AgentKind := .asrProvider
  device : Option AgentDeviceIdentity := none
  clientVersion : Option String := none
  updateStatus : Option AgentUpdateStatus := none
  sharedSecret : Option String := none

/-- What the control endpoint tells about a registered agent. -/
structure AgentSnapshot where
  agentId : String
  agentName : String
  providerId : Option String
  capabilities : List String
  capabilityDomains : List CapabilityDomain
  agentKind : AgentKind
  device : Option AgentDeviceIdentity
  clientVersion : Option String
  updateStatus : Option AgentUpdateStatus
deriving DecidableEq, Repr

inductive AgentTaskState where
  | started | finished | failed
deriving DecidableEq, Repr

structure AgentTaskStatusPayload where
  state : AgentTaskState
  message : Option String
deriving DecidableEq, Repr

inductive AgentToGatewayMessage where
  | hello (payload : AgentHelloPayload)
  | sessionStarted (sessionId : SessionId) (providerId : String)
  | asrPartial (sessionId : SessionId) (text : String)
  | asrFinal (sessionId : SessionId) (transcript : Transcript)
  | sessionEnded (sessionId : SessionId) (reason : Option String)
  | error (sessionId : Option SessionId) (message : String)
  | taskStatus (taskId : String) (payload : AgentTaskStatusPayload)
  | pong

inductive GatewayToAgentMessage where
  | helloOk (serverName : String)
  | sessionStart (sessionId : SessionId) (request : AsrStreamRequest)
  | sessionAudio (sessionId : SessionId) (dataBase64 : String)
  | sessionCommit (sessionId : SessionId)
  | sessionStop (sessionId : SessionId)
  | taskPlayAudioStart (taskId : String) (format : Option AudioFormat)
  | taskPlayAudioChunk (taskId : String) (dataBase64 : String)
  | taskPlayAudioFinish (taskId : String)
  | ping

/-- The task a playback message belongs to. -/
def GatewayToAgentMessage.taskId? : GatewayToAgentMessage → Option String
  | .taskPlayAudioStart taskId _ => some taskId
  | .taskPlayAudioChunk taskId _ => some taskId
  | .taskPlayAudioFinish taskId => some taskId
  | _ => none

/-- The session a message asks the agent to start. -/
def GatewayToAgentMessage.start? : GatewayToAgentMessage → Option SessionId
  | .sessionStart sessionId _ => some sessionId
  | _ => none

/-! ## Clients -/

structure HelloRequest where
  protocolVersion : String
  clientName : Option String

structure HelloResponse where
  protocolVersion : String
  serverName : String
  oneSessionPerConnection : Bool
deriving DecidableEq, Repr

structure SessionStartedPayload where
  domain : CapabilityDomain
  providerId : String
  acceptedInputFormat : Option AudioFormat
  acceptedOutputFormat : Option AudioFormat
  inputMode : Option StreamMode
  outputMode : Option StreamMode
deriving DecidableEq, Repr

structure AsrWordPayload where
  text : String
  startMs : Option UInt64
  endMs : Option UInt64
  isFinal : Bool
deriving DecidableEq, Repr

structure AsrResultPayload where
  segmentId : ℕ
  revision : ℕ
  text : String
  delta : Option String
  isFinal : Bool
  speechFinal : Bool
  beginTimeMs : Option UInt64
  endTimeMs : Option UInt64
  words : List AsrWordPayload
deriving DecidableEq, Repr

structure VoiceListRequest where
  provider : ProviderSelector
  language : Option String

structure TtsAudioDeltaPayload where
  chunkId : ℕ
  audioBase64 : String
  isFinal : Bool
  format : Option AudioFormat
deriving DecidableEq, Repr

structure TtsAudioDonePayload where
  inputKind : SynthesisInputKind
  totalChunks : ℕ
  totalBytes : ℕ
deriving DecidableEq, Repr

/-- The payload of `asr.transcribe` is not read by the gateway. -/
inductive ClientMessage where
  | hello (requestId : Option RequestId) (payload : HelloRequest)
  | discover (requestId : RequestId) (domains : List CapabilityDomain)
  | asrTranscribe (requestId : RequestId)
  | asrStart (requestId : RequestId) (payload : AsrStreamRequest)
  | asrCommit (sessionId : SessionId)
  | ttsVoices (requestId : RequestId) (payload : VoiceListRequest)
  | ttsStart (requestId : RequestId) (payload : TtsStreamRequest)
  | ttsInputAppend (sessionId : SessionId) (delta : String)
  | ttsCommit (sessionId : SessionId)
  | sessionStop (sessionId : SessionId)
  | sessionCancel (sessionId : SessionId)
  | ping (requestId : Option RequestId)

/-- The request id a client message carries. -/
def ClientMessage.requestId? : ClientMessage → Option RequestId
  | .hello requestId _ => requestId
  | .discover requestId _ => some requestId
  | .asrTranscribe requestId => some requestId
  | .asrStart requestId _ => some requestId
  | .ttsVoices requestId _ => some requestId
  | .ttsStart requestId _ => some requestId
  | .ping requestId => requestId
  | .asrCommit _ | .ttsInputAppend _ _ | .ttsCommit _ | .sessionStop _ | .sessionCancel _ => none

inductive ServerMessage where
  | helloOk (requestId : Option RequestId) (payload : HelloResponse)
  | discoverResult (requestId : RequestId) (providers : List ProviderDescriptor)
  | sessionStarted (requestId : Option RequestId) (sessionId : SessionId)
      (payload : SessionStartedPayload)
  | asrResult (sessionId : SessionId) (sequence : ℕ) (payload : AsrResultPayload)
  | ttsVoicesResult (requestId : RequestId) (voices : List VoiceDescriptor)
  | ttsAudioDelta (sessionId : SessionId) (sequence : ℕ) (payload : TtsAudioDeltaPayload)
  | ttsAudioDone (sessionId : SessionId) (sequence : ℕ) (payload : TtsAudioDonePayload)
  | sessionEnded (sessionId : SessionId) (reason : Option String)
  | error (requestId : Option RequestId) (sessionId : Option SessionId) (error : ErrorInfo)
  | pong (requestId : Option RequestId)
deriving DecidableEq, Repr

/-- The request id a server message carries. -/
def ServerMessage.requestId? : ServerMessage → Option RequestId
  | .helloOk requestId _ => requestId
  | .discoverResult requestId _ => some requestId
  | .sessionStarted requestId _ _ => requestId
  | .ttsVoicesResult requestId _ => some requestId
  | .error requestId _ _ => requestId
  | .pong requestId => requestId
  | .asrResult .. | .ttsAudioDelta .. | .ttsAudioDone .. | .sessionEnded .. => none

/-- The session a server message is about. -/
def ServerMessage.sessionId? : ServerMessage → Option SessionId
  | .sessionStarted _ sessionId _ => some sessionId
  | .asrResult sessionId _ _ => some sessionId
  | .ttsAudioDelta sessionId _ _ => some sessionId
  | .ttsAudioDone sessionId _ _ => some sessionId
  | .sessionEnded sessionId _ => some sessionId
  | .error _ sessionId _ => sessionId
  | .helloOk .. | .discoverResult .. | .ttsVoicesResult .. | .pong .. => none

/-! ## Control -/

structure ControlPlayAudioPayload where
  taskId : Option String := none
  deviceId : Option String := none
  outputTarget : Option String := none
  agentId : Option String := none
  format : Option AudioFormat := none
  audioBase64 : String
  chunkSizeBytes : Option ℕ := none

structure ControlAgentStatusPayload where
  agentId : Option String
  deviceId : Option String

inductive ControlRequest where
  | playAudio (payload : ControlPlayAudioPayload)
  | devicesList
  | agentStatus (payload : ControlAgentStatusPayload)

structure ControlPlayAudioAcceptedPayload where
  taskId : String
  routedAgentId : String
  chunkCount : ℕ
  totalBytes : ℕ
deriving DecidableEq, Repr

inductive ControlResponse where
  | playAudioAccepted (payload : ControlPlayAudioAcceptedPayload)
  | devicesList (agents : List AgentSnapshot)
  | agentStatus (agent : Option AgentSnapshot)
  | error (message : String)
  | pong
deriving DecidableEq, Repr

end SpeechMesh.Model
