import SpeechMesh.Model.Gateway

/-! # The atomic actions of the gateway's programs

An action is one operation that other tasks see as a whole: a locked section of the registry, one
send or receive on a channel, one frame of a socket, one call that the environment answers.
-/

namespace SpeechMesh.Model

open Async

/-! ## The signature -/

/-- A one-shot receiver awaited under a timeout. -/
inductive Awaited (α : Type) where
  | value (value : α)
  | dropped
  | elapsed

/-- Operations on the channels of one session: the handle's end and the bridge's end. -/
inductive StreamAction (κ ε : Type) where
  | sendCommand (command : κ)
  | receiveCommand
  | sendEvent (event : ε)
  | receiveEvent
  | closeCommands
  | closeEvents
  | releaseCommands

def StreamAction.Answer {κ ε : Type} : StreamAction κ ε → Type
  | .sendCommand _ => Bool
  | .receiveCommand => Option κ
  | .sendEvent _ => Bool
  | .receiveEvent => Option ε
  | .closeCommands => Unit
  | .closeEvents => Unit
  | .releaseCommands => Unit

/-- The actions of an agent connection's own task. -/
inductive AgentAction where
  | nextInput
  | joinWriter

def AgentAction.Answer : AgentAction → Type
  | .nextInput => AgentInput
  | .joinWriter => Unit

/-- The actions of a client connection's own task. -/
inductive ClientAction where
  | nextFrame
  | activeSession
  | setActive (active : Option ActiveSession)
  | startAsr (request : AsrStreamRequest)
  | startTts (request : TtsStreamRequest)
  | listVoices (request : VoiceListRequest)
  | joinWriter

def ClientAction.Answer : ClientAction → Type
  | .nextFrame => Incoming ClientMessage
  | .activeSession => Option ActiveSession
  | .setActive _ => Unit
  | .startAsr _ => Except BridgeError AsrSession
  | .startTts _ => Except BridgeError (TtsSession × SynthesisInputKind)
  | .listVoices _ => Except BridgeError (List VoiceDescriptor)
  | .joinWriter => Unit

inductive ControlAction where
  | nextFrame
  | send (response : ControlResponse)
  | nextControlTaskId

def ControlAction.Answer : ControlAction → Type
  | .nextFrame => Incoming ControlRequest
  | .send _ => Bool
  | .nextControlTaskId => String

/-- The actions of a device agent: its socket, its task tracker, and the local players. -/
inductive DeviceAction where
  | nextInput
  | taskTracker
  | setTaskTracker (tracker : TaskTracker)
  | send (message : AgentToGatewayMessage)
  | startPlayer (format : Option AudioFormat)
  | writePlayer (bytes : Bytes)
  | waitPlayer

def DeviceAction.Answer : DeviceAction → Type
  | .nextInput => DeviceInput
  | .taskTracker => TaskTracker
  | .setTaskTracker _ => Unit
  | .send _ => Bool
  | .startPlayer _ => Except String Unit
  | .writePlayer _ => Except String Unit
  | .waitPlayer => PlayerExit

/-- Points of a program that a statement refers to. They change nothing but the history. -/
inductive Mark where
  | playAudioCalled (taskId : String)
  | playAudioReturned
  | agentReturned
  | clientMessageHandled (message : ClientMessage)

inductive Action where
  | registry (action : RegistryAction)
  | sendTaskResult (waiter : ℕ) (result : TaskWaitResult)
  | awaitTask (waiter : ℕ)
  | agent (action : AgentAction)
  | sendAgent (connection : ℕ) (message : GatewayToAgentMessage)
  | createSession
  | sendStarted (sessionId : SessionId) (result : Except BridgeError Unit)
  | awaitStarted (sessionId : SessionId)
  | asr (sessionId : SessionId) (action : StreamAction BridgeCommand BridgeAsrEvent)
  | tts (sessionId : SessionId) (action : StreamAction BridgeTtsCommand BridgeTtsEvent)
  | sendClient (connection : ℕ) (message : ServerMessage)
  | client (action : ClientAction)
  | control (action : ControlAction)
  | device (action : DeviceAction)
  | spawn (procedure : Procedure)
  | mark (mark : Mark)

def Action.Answer : Action → Type
  | .registry action => action.Answer
  | .sendTaskResult _ _ => Unit
  | .awaitTask _ => Awaited TaskWaitResult
  | .agent action => action.Answer
  | .sendAgent _ _ => Bool
  | .createSession => SessionId
  | .sendStarted _ _ => Unit
  | .awaitStarted _ => Awaited (Except BridgeError Unit)
  | .asr _ action => action.Answer
  | .tts _ action => action.Answer
  | .sendClient _ _ => Bool
  | .client action => action.Answer
  | .control action => action.Answer
  | .device action => action.Answer
  | .spawn _ => Unit
  | .mark _ => Unit

/-- The signature of every program of the model. -/
def gateway : Signature := ⟨Action, Action.Answer⟩

abbrev Program := Code gateway

abbrev perform (action : Action) : Program action.Answer := @Code.perform gateway action

abbrev locked (action : RegistryAction) : Program action.Answer := perform (.registry action)

end SpeechMesh.Model
