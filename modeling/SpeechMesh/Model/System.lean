import SpeechMesh.Async.Contract
import SpeechMesh.Model.ClientPrograms
import SpeechMesh.Model.DeviceAgent
import SpeechMesh.Model.ServerPrograms

/-! # The interleaved system

All connections of a gateway, the forwarders they spawn, and the device agents, as one machine. Its
events are the environment's moves: connections, frames, writers and their failures, providers,
timers, local players, and other iteration orders of the hash maps.
-/

namespace SpeechMesh.Model

open Async

/-- What the provider behind a bridge session does with its ends of the channels. -/
inductive ProviderMove (ε : Type) where
  | emit (event : ε)
  | takeCommand
  | closeCommands
  | releaseEvents

def Stream.move? {κ ε : Type} (stream : Stream κ ε) : ProviderMove ε → Option (Stream κ ε)
  | .emit event => (stream.run 0 (.sendEvent event)).map Prod.fst
  | .takeCommand => (stream.run 0 .receiveCommand).map Prod.fst
  | .closeCommands => (stream.run 0 .closeCommands).map Prod.fst
  | .releaseEvents => some { stream with events := { stream.events with released := true } }

inductive Event where
  | connectAgent
  | connectControl
  | connectClient
  | connectDevice (hello : AgentHelloPayload)
  | agentInput (connection : ℕ) (input : AgentInput)
  | agentWrites (connection : ℕ)
  | agentWriterEnds (connection : ℕ)
  | controlInput (connection : ℕ) (frame : Incoming ControlRequest)
  | controlBreaks (connection : ℕ)
  | clientInput (connection : ℕ) (frame : Incoming ClientMessage)
  | clientWrites (connection : ℕ)
  | clientWriterEnds (connection : ℕ)
  | providerReplies (connection : ℕ) (reply : ProviderReply)
  | asrProvider (sessionId : SessionId) (move : ProviderMove BridgeAsrEvent)
  | ttsProvider (sessionId : SessionId) (move : ProviderMove BridgeTtsEvent)
  | deviceInput (device : ℕ) (input : DeviceInput)
  | deviceWrites (device : ℕ)
  | deviceWriterEnds (device : ℕ)
  | playerDoes (device : ℕ) (outcome : PlayerOutcome)
  | timeElapses (task : ℕ)
  | reorderAgents (order : Table String RegisteredAgent)
  | reorderTasks (order : Table String TaskRoute)
  | reorderSessions (order : Table SessionId SessionRoute)

namespace State

def setRegistry (state : State) (registry : AgentRegistry) : State := { state with registry }

def enqueueAgent (state : State) (connection : ℕ) (input : Stamped AgentInput) : State :=
  let link := state.agents connection
  state.setAgent connection { link with inbox := link.inbox ++ [input] }

/-- The writer of a device puts its next message on the wire to the gateway. -/
def relayDevice (state : State) (device : ℕ) : Option State := do
  let link := state.devices device
  let connection ← link.connection
  let (out, message) ← link.out.receive?
  let message ← message
  return (state.setDevice device { link with out }).enqueueAgent connection
    ⟨.frame (.text (.ok message.message)), message.origin⟩

/-- An environment's move, with the tasks it starts. -/
def occur (tasks : ℕ) (state : State) : Event → Option (State × List Procedure)
  | .connectAgent => some (state, [.agentHello])
  | .connectControl => some (state, [.controlLoop])
  | .connectClient => some (state, [.clientLoop])
  | .connectDevice hello =>
      some (state.setDevice (tasks + 1) { connection := some tasks },
        [.agentHello, .deviceHello hello])
  | .agentInput connection input =>
      match input with
      | .writerEnded =>
          if (state.agents connection).commands.closed then
            some (state.enqueueAgent connection { message := input }, [])
          else none
      | _ => some (state.enqueueAgent connection { message := input }, [])
  | .agentWrites connection =>
      let link := state.agents connection
      link.commands.receive?.map fun result =>
        (state.setAgent connection { link with commands := result.1 }, [])
  | .agentWriterEnds connection =>
      let link := state.agents connection
      some (state.setAgent connection
        { link with commands := { link.commands with closed := true } }, [])
  | .controlInput connection frame =>
      let link := state.controls connection
      some (state.setControl connection { link with inbox := link.inbox ++ [frame] }, [])
  | .controlBreaks connection =>
      some (state.setControl connection { state.controls connection with broken := true }, [])
  | .clientInput connection frame =>
      let link := state.clients connection
      some (state.setClient connection { link with inbox := link.inbox ++ [frame] }, [])
  | .clientWrites connection =>
      let link := state.clients connection
      link.out.receive?.map fun result =>
        (state.setClient connection { link with out := result.1 }, [])
  | .clientWriterEnds connection =>
      let link := state.clients connection
      some (state.setClient connection { link with out := { link.out with closed := true } }, [])
  | .providerReplies connection reply =>
      let link := state.clients connection
      some (state.setClient connection { link with replies := link.replies ++ [reply] }, [])
  | .asrProvider sessionId move =>
      let stream := state.asrStreams sessionId
      if stream.provider then
        (stream.move? move).map fun moved => (state.setAsr sessionId moved, [])
      else none
  | .ttsProvider sessionId move =>
      let stream := state.ttsStreams sessionId
      if stream.provider then
        (stream.move? move).map fun moved => (state.setTts sessionId moved, [])
      else none
  | .deviceInput device input =>
      match input with
      | .frame (.text (.ok _)) => none
      | _ =>
          let link := state.devices device
          some (state.setDevice device { link with inbox := link.inbox ++ [input] }, [])
  | .deviceWrites device => (state.relayDevice device).map fun relayed => (relayed, [])
  | .deviceWriterEnds device =>
      let link := state.devices device
      some (state.setDevice device { link with out := { link.out with closed := true } }, [])
  | .playerDoes device outcome =>
      let link := state.devices device
      some (state.setDevice device { link with player := link.player ++ [outcome] }, [])
  | .timeElapses task =>
      some ({ state with elapsed := Function.update state.elapsed task true }, [])
  | .reorderAgents order =>
      let devices := state.registry.deviceRegistry
      let agents := devices.agents.reorder order
      some (state.setRegistry { state.registry with deviceRegistry := { devices with agents } }, [])
  | .reorderTasks order =>
      let devices := state.registry.deviceRegistry
      let tasks := devices.tasks.reorder order
      some (state.setRegistry { state.registry with deviceRegistry := { devices with tasks } }, [])
  | .reorderSessions order =>
      let sessions := state.registry.sessions.reorder order
      some (state.setRegistry { state.registry with sessions }, [])

end State

/-- The program of a procedure. -/
def body (config : GatewayConfig) (task : ℕ) : Procedure → Program (Option Procedure)
  | .agentHello => agentHello config task
  | .agentLoop agentId => agentLoop task agentId
  | .agentMessage agentId message => agentMessage agentId message
  | .agentTeardown agentId => agentTeardown agentId
  | .controlLoop => controlLoop
  | .playAudio payload => playAudio config payload
  | .controlReply result => controlReply result
  | .clientLoop => clientLoop task
  | .clientMessage message => handleClientMessage config task message
  | .asrStarted requestId payload outcome => asrStarted task requestId payload outcome
  | .ttsStarted requestId payload outcome => ttsStarted task requestId payload outcome
  | .clientReply message result => clientReply task message result
  | .clientTeardown => clientTeardown
  | .asrForwarder connection sessionId sequence revision previousText =>
      asrForwarder connection sessionId sequence revision previousText
  | .ttsForwarder connection sessionId inputKind sequence totalChunks totalBytes =>
      ttsForwarder config.base64 connection sessionId inputKind sequence totalChunks totalBytes
  | .forwardCommandsToAgent sessionId connection =>
      forwardCommandsToAgent config sessionId connection
  | .deviceHello hello => deviceHello hello
  | .deviceWait => deviceWait
  | .deviceLoop => deviceLoop
  | .deviceMessage message => deviceMessage config.base64 message
  | .agentReturned _ | .returned => .done none

def spawned : Action → List Procedure
  | .spawn procedure => [procedure]
  | _ => []

/-- A gateway with everything that is connected to it. -/
def system (config : GatewayConfig) : Machine gateway where
  State := State
  Name := Procedure
  Event := Event
  exec := State.exec
  spawns := spawned
  occur := State.occur
  body := body config

/-- The state of the gateway in a world. -/
abbrev stateIn {config : GatewayConfig} (world : World (system config)) : State := world.state

/-- Nothing is connected yet. -/
def initial (config : GatewayConfig) : World (system config) := ⟨{}, []⟩

end SpeechMesh.Model
