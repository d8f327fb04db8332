import SpeechMesh.Async.Channel
import SpeechMesh.Model.Protocol

/-! # The device crate's registry

The records of the connected agents and the routes of the playback tasks, both behind one lock.
Each definition is what one call does while it holds the lock. The command type is abstract in the
source; here a `command_tx` is named by the connection whose writer receives from it.
-/

namespace SpeechMesh.Model

open Async

structure RegisteredAgent where
  agentId : String
  agentName : String
  providerId : Option String
  capabilities : List String
  capabilityDomains : List CapabilityDomain
  agentKind : AgentKind
  clientVersion : Option String
  updateStatus : Option AgentUpdateStatus
  device : Option AgentDeviceIdentity
  deviceInfo : Option Device
  commandTx : ℕ
deriving DecidableEq, Repr

namespace RegisteredAgent

/-- The device an agent runs on: the new record first, the old one as a fallback. -/
def actualDeviceId (agent : RegisteredAgent) : Option String :=
  (agent.deviceInfo.map Device.id).or (agent.device.map AgentDeviceIdentity.deviceId)

/-- `AgentSnapshot::from_agent` followed by `to_transport_snapshot`. -/
def toSnapshot (agent : RegisteredAgent) : AgentSnapshot where
  agentId := agent.agentId
  agentName := agent.agentName
  providerId := agent.providerId
  capabilities := agent.capabilities
  capabilityDomains := agent.capabilityDomains
  agentKind := agent.agentKind
  device := agent.device
  clientVersion := agent.clientVersion
  updateStatus := agent.updateStatus

/-- The predicate of `select_speaker_agent`. -/
def isSpeaker (agent : RegisteredAgent) (deviceId agentId : Option String) : Bool :=
  agent.agentKind == .device &&
  (agent.capabilities.contains "speaker" || agent.capabilityDomains.contains .tts) &&
  (match agentId with
    | some expected => agent.agentId == expected
    | none => true) &&
  (match deviceId with
    | some expected => agent.actualDeviceId == some expected
    | none => true)

end RegisteredAgent

structure AgentSnapshotFilter where
  agentId : Option String := none
  deviceId : Option String := none
deriving DecidableEq

def AgentSnapshotFilter.isMatch (filter : AgentSnapshotFilter) (agent : RegisteredAgent) : Bool :=
  (match filter.agentId with
    | some agentId => agent.agentId == agentId
    | none => true) &&
  (match filter.deviceId with
    | some deviceId => agent.actualDeviceId == some deviceId
    | none => true)

structure TaskRoute where
  agentId : String
deriving DecidableEq, Repr

structure DeviceRegistry where
  agents : Table String RegisteredAgent
  tasks : Table String TaskRoute

instance : Inhabited DeviceRegistry := ⟨⟨∅, ∅⟩⟩

namespace DeviceRegistry

/-- `remove_agent_tasks_locked`: the record, and every task routed to the agent id. -/
def removeAgentTasks (registry : DeviceRegistry) (agentId : String) :
    DeviceRegistry × List String :=
  let drained := registry.tasks.drainWhere fun route => route.agentId == agentId
  (⟨registry.agents.erase agentId, drained.1⟩, drained.2.map Prod.fst)

def registerAgent (registry : DeviceRegistry) (agent : RegisteredAgent) :
    DeviceRegistry × List String :=
  let removal :=
    match registry.agents.lookup agent.agentId with
    | some _ => registry.removeAgentTasks agent.agentId
    | none => (registry, [])
  ({ removal.1 with agents := removal.1.agents.insert agent.agentId agent }, removal.2)

def unregisterAgent (registry : DeviceRegistry) (agentId : String) :
    DeviceRegistry × List String :=
  registry.removeAgentTasks agentId

/-- The first record in iteration order, as `values().find`. -/
def findAgent (registry : DeviceRegistry) (select : RegisteredAgent → Bool) :
    Option RegisteredAgent :=
  (registry.agents.entries.map Sigma.snd).find? select

def selectAgent (registry : DeviceRegistry) (providerId : String) : Option RegisteredAgent :=
  registry.findAgent fun agent => agent.providerId == some providerId

def selectSpeakerAgent (registry : DeviceRegistry) (deviceId agentId : Option String) :
    Option RegisteredAgent :=
  registry.findAgent fun agent => agent.isSpeaker deviceId agentId

def registerTask (registry : DeviceRegistry) (taskId agentId : String) :
    DeviceRegistry × Except String Unit :=
  match registry.tasks.lookup taskId with
  | some _ => (registry, .error ("task_id " ++ taskId ++ " is already active"))
  | none => ({ registry with tasks := registry.tasks.insert taskId ⟨agentId⟩ }, .ok ())

def removeTask (registry : DeviceRegistry) (taskId : String) :
    DeviceRegistry × Option TaskRoute :=
  ({ registry with tasks := registry.tasks.erase taskId }, registry.tasks.lookup taskId)

def taskAgentId (registry : DeviceRegistry) (taskId : String) : Option String :=
  (registry.tasks.lookup taskId).map TaskRoute.agentId

def agentCommandTx (registry : DeviceRegistry) (agentId : String) : Option ℕ :=
  (registry.agents.lookup agentId).map RegisteredAgent.commandTx

def snapshot (registry : DeviceRegistry) (filter : AgentSnapshotFilter) : List RegisteredAgent :=
  (registry.agents.entries.map Sigma.snd).filter filter.isMatch

/-! ## What the calls do to the two maps -/

theorem removeAgentTasks_agents (registry : DeviceRegistry) (agentId : String) :
    (registry.removeAgentTasks agentId).1.agents = registry.agents.erase agentId := rfl

/-- Exactly the tasks routed to the agent id are removed. -/
theorem lookup_removeAgentTasks (registry : DeviceRegistry) (agentId taskId : String) :
    (registry.removeAgentTasks agentId).1.tasks.lookup taskId =
      (registry.tasks.lookup taskId).filter fun route => !(route.agentId == agentId) :=
  Table.lookup_drainWhere _ _ _

theorem registerAgent_agents (registry : DeviceRegistry) (agent : RegisteredAgent)
    (agentId : String) :
    (registry.registerAgent agent).1.agents.lookup agentId =
      if agentId = agent.agentId then some agent else registry.agents.lookup agentId := by
  unfold registerAgent
  by_cases same : agentId = agent.agentId
  · subst same
    simp
  · cases replaced : registry.agents.lookup agent.agentId <;>
      simp [same, removeAgentTasks_agents, AList.lookup_insert_ne, AList.lookup_erase_ne]

/-- A found record is in the map. -/
theorem findAgent_mem {registry : DeviceRegistry} {select : RegisteredAgent → Bool}
    {agent : RegisteredAgent} (found : registry.findAgent select = some agent) :
    ∃ agentId, registry.agents.lookup agentId = some agent := by
  obtain ⟨⟨agentId, other⟩, member, rfl⟩ := List.mem_map.mp (List.mem_of_find?_eq_some found)
  exact ⟨agentId, AList.mem_lookup_iff.mpr member⟩

end DeviceRegistry

end SpeechMesh.Model
