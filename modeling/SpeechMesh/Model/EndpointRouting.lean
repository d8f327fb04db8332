import SpeechMesh.Async.Shared
import SpeechMesh.Model.DeviceRegistry

/-! # Routing by endpoint

The device crate's router chooses an agent on a snapshot of the registry and then asks the registry
for its record. Each of the two takes the lock for itself, so that the registry can change between
them.
-/

namespace SpeechMesh.Model

open Async

/-! ## Devices and their endpoints -/

/-- `Device::endpoint`. -/
def Device.endpoint (device : Device) (endpointId : String) : Option AudioEndpoint :=
  device.endpoints.find? fun endpoint => endpoint.id == endpointId

/-- The test on an endpoint in `find_agent_by_direction`. -/
def AudioEndpoint.hasDirection (endpoint : AudioEndpoint) (direction : EndpointDirection) : Bool :=
  endpoint.direction == direction ||
  (direction == .output && endpoint.direction == .duplex) ||
  (direction == .input && endpoint.direction == .duplex)

/-! ## The registry behind its lock -/

def DeviceRegistry.getRegisteredAgent (registry : DeviceRegistry) (agentId : String) :
    Option RegisteredAgent :=
  registry.agents.lookup agentId

/-- What a call asks the registry. Each action holds the lock once. -/
inductive RouterAction where
  | snapshot (filter : AgentSnapshotFilter)
  | getRegisteredAgent (agentId : String)

def RouterAction.Answer : RouterAction → Type
  | .snapshot _ => List RegisteredAgent
  | .getRegisteredAgent _ => Option RegisteredAgent

abbrev Routing : Signature := ⟨RouterAction, RouterAction.Answer⟩

def RouterAction.result : (action : RouterAction) → DeviceRegistry → action.Answer
  | .snapshot filter, registry => registry.snapshot filter
  | .getRegisteredAgent agentId, registry => registry.getRegisteredAgent agentId

/-- What others do to the registry meanwhile. -/
inductive RegistryChange where
  | registerAgent (agent : RegisteredAgent)
  | unregisterAgent (agentId : String)
  | registerTask (taskId agentId : String)
  | removeTask (taskId : String)

def RegistryChange.apply (registry : DeviceRegistry) : RegistryChange → DeviceRegistry
  | .registerAgent agent => (registry.registerAgent agent).1
  | .unregisterAgent agentId => (registry.unregisterAgent agentId).1
  | .registerTask taskId agentId => (registry.registerTask taskId agentId).1
  | .removeTask taskId => (registry.removeTask taskId).1

/-! ## The router -/

structure RouteMatch where
  agent : RegisteredAgent
  endpointId : Option String
deriving DecidableEq, Repr

def askSnapshot (filter : AgentSnapshotFilter) : Code Routing (List RegisteredAgent) :=
  Code.perform (S := Routing) (.snapshot filter)

def askAgent (agentId : String) : Code Routing (Option RegisteredAgent) :=
  Code.perform (S := Routing) (.getRegisteredAgent agentId)

/-- The loop of `find_agent_with_endpoint`: the first agent that fits decides. -/
def firstWithEndpoint (deviceId : String) (endpointId : Option String) :
    List RegisteredAgent → Code Routing (Option RegisteredAgent)
  | [] => return none
  | snapshot :: rest =>
      match snapshot.deviceInfo with
      | some deviceInfo =>
          match endpointId with
          | some endpointId =>
              if (deviceInfo.endpoint endpointId).isSome then askAgent snapshot.agentId
              else firstWithEndpoint deviceId (some endpointId) rest
          | none => askAgent snapshot.agentId
      | none =>
          if snapshot.device.map AgentDeviceIdentity.deviceId = some deviceId then
            askAgent snapshot.agentId
          else firstWithEndpoint deviceId endpointId rest

def findAgentWithEndpoint (deviceId : String) (endpointId : Option String) :
    Code Routing (Option RegisteredAgent) := do
  let agents ← askSnapshot { deviceId := some deviceId }
  firstWithEndpoint deviceId endpointId agents

def selectByEndpoint (deviceId endpointId : String) : Code Routing (Option RouteMatch) := do
  match ← findAgentWithEndpoint deviceId (some endpointId) with
  | none => return none
  | some agent => return some ⟨agent, some endpointId⟩

/-- The loop of `find_agent_by_direction`: an agent that is gone is passed over. -/
def firstByDirection (deviceId : String) (direction : EndpointDirection) :
    List RegisteredAgent → Code Routing (Option RouteMatch)
  | [] => return none
  | snapshot :: rest =>
      match snapshot.deviceInfo with
      | some deviceInfo =>
          match deviceInfo.endpoints.find? fun endpoint => endpoint.hasDirection direction with
          | some endpoint => do
              match ← askAgent snapshot.agentId with
              | some agent => return some ⟨agent, some endpoint.id⟩
              | none => firstByDirection deviceId direction rest
          | none => firstByDirection deviceId direction rest
      | none =>
          if snapshot.device.map AgentDeviceIdentity.deviceId = some deviceId then do
            match ← askAgent snapshot.agentId with
            | some agent => return some ⟨agent, none⟩
            | none => firstByDirection deviceId direction rest
          else firstByDirection deviceId direction rest

/-- `find_agent_by_direction`, which `select_by_direction` only calls. -/
def selectByDirection (deviceId : String) (direction : EndpointDirection) :
    Code Routing (Option RouteMatch) := do
  let agents ← askSnapshot { deviceId := some deviceId }
  firstByDirection deviceId direction agents

end SpeechMesh.Model
