import SpeechMesh.Model.DeviceRegistry

/-! # The gateway's agent registry

The gateway wraps the device crate's registry and adds two maps with locks of their own: the routes
of the sessions that run on agents, and the waiters of the playback requests. A `RegistryAction` is
what happens between taking one of the three locks and releasing it, and `AgentRegistry.run` is its
effect. Senders are named by what they send to: an `event_tx` and a `started_tx` by the session they
were created for, a waiter by its number.
-/

namespace SpeechMesh.Model

open Async

structure SessionRoute where
  agentId : String
  eventTx : SessionId
  startedTx : Option SessionId
deriving DecidableEq, Repr

abbrev TaskWaitResult := Except BridgeError AgentTaskStatusPayload

structure AgentRegistry where
  deviceRegistry : DeviceRegistry
  sessions : Table SessionId SessionRoute
  taskWaiters : Table String ℕ

instance : Inhabited AgentRegistry := ⟨⟨default, ∅, ∅⟩⟩

/-- `remove_orphaned_sessions`. -/
def removeOrphanedSessions (sessions : Table SessionId SessionRoute) (agentId : String) :
    Table SessionId SessionRoute × List (SessionId × SessionRoute) :=
  sessions.drainWhere fun route => route.agentId == agentId

/-- The locked sections of the methods of `AgentRegistry`. -/
inductive RegistryAction where
  | removeOrphanedSessions (agentId : String)
  | deviceRegisterAgent (agent : RegisteredAgent)
  | deviceUnregisterAgent (agentId : String)
  | subscribeTaskWaiter (taskId : String)
  | removeTaskWaiter (taskId : String)
  | takeTaskWaiter (taskId : String)
  | selectAgent (providerId : String)
  | selectSpeakerAgent (deviceId agentId : Option String)
  | registerSession (agentId : String) (sessionId : SessionId)
  | removeSession (sessionId : SessionId)
  | takeStarted (sessionId : SessionId)
  | sessionEventTx (sessionId : SessionId)
  | hasPendingStart (sessionId : SessionId)
  | registerTask (taskId agentId : String)
  | removeTask (taskId : String)
  | taskAgentId (taskId : String)
  | agentCommandTx (agentId : String)
  | snapshot (filter : AgentSnapshotFilter)

def RegistryAction.Answer : RegistryAction → Type
  | .removeOrphanedSessions _ => List (SessionId × SessionRoute)
  | .deviceRegisterAgent _ => List String
  | .deviceUnregisterAgent _ => List String
  | .subscribeTaskWaiter _ => ℕ
  | .removeTaskWaiter _ => Unit
  | .takeTaskWaiter _ => Option ℕ
  | .selectAgent _ => Option RegisteredAgent
  | .selectSpeakerAgent _ _ => Option RegisteredAgent
  | .registerSession _ _ => Unit
  | .removeSession _ => Option SessionRoute
  | .takeStarted _ => Option SessionId
  | .sessionEventTx _ => Option SessionId
  | .hasPendingStart _ => Bool
  | .registerTask _ _ => Except String Unit
  | .removeTask _ => Unit
  | .taskAgentId _ => Option String
  | .agentCommandTx _ => Option ℕ
  | .snapshot _ => List RegisteredAgent

namespace AgentRegistry

/-- `mark_session_started` takes the sender out of the route and leaves the route. -/
def takeStarted (registry : AgentRegistry) (sessionId : SessionId) :
    AgentRegistry × Option SessionId :=
  match registry.sessions.lookup sessionId with
  | none => (registry, none)
  | some route =>
      ({ registry with
          sessions := registry.sessions.insert sessionId { route with startedTx := none } },
        route.startedTx)

/-- What happens under the lock. `waiter` is the number of the channel a subscription creates. -/
def run (registry : AgentRegistry) (waiter : ℕ) :
    (action : RegistryAction) → AgentRegistry × action.Answer
  | .removeOrphanedSessions agentId =>
      let removal := Model.removeOrphanedSessions registry.sessions agentId
      ({ registry with sessions := removal.1 }, removal.2)
  | .deviceRegisterAgent agent =>
      let removal := registry.deviceRegistry.registerAgent agent
      ({ registry with deviceRegistry := removal.1 }, removal.2)
  | .deviceUnregisterAgent agentId =>
      let removal := registry.deviceRegistry.unregisterAgent agentId
      ({ registry with deviceRegistry := removal.1 }, removal.2)
  | .subscribeTaskWaiter taskId =>
      ({ registry with taskWaiters := registry.taskWaiters.insert taskId waiter }, waiter)
  | .removeTaskWaiter taskId =>
      ({ registry with taskWaiters := registry.taskWaiters.erase taskId }, ())
  | .takeTaskWaiter taskId =>
      ({ registry with taskWaiters := registry.taskWaiters.erase taskId },
        registry.taskWaiters.lookup taskId)
  | .selectAgent providerId => (registry, registry.deviceRegistry.selectAgent providerId)
  | .selectSpeakerAgent deviceId agentId =>
      (registry, registry.deviceRegistry.selectSpeakerAgent deviceId agentId)
  | .registerSession agentId sessionId =>
      ({ registry with
          sessions := registry.sessions.insert sessionId ⟨agentId, sessionId, some sessionId⟩ }, ())
  | .removeSession sessionId =>
      ({ registry with sessions := registry.sessions.erase sessionId },
        registry.sessions.lookup sessionId)
  | .takeStarted sessionId => registry.takeStarted sessionId
  | .sessionEventTx sessionId =>
      (registry, (registry.sessions.lookup sessionId).map SessionRoute.eventTx)
  | .hasPendingStart sessionId =>
      (registry, ((registry.sessions.lookup sessionId).bind SessionRoute.startedTx).isSome)
  | .registerTask taskId agentId =>
      let registration := registry.deviceRegistry.registerTask taskId agentId
      ({ registry with deviceRegistry := registration.1 }, registration.2)
  | .removeTask taskId =>
      ({ registry with deviceRegistry := (registry.deviceRegistry.removeTask taskId).1 }, ())
  | .taskAgentId taskId => (registry, registry.deviceRegistry.taskAgentId taskId)
  | .agentCommandTx agentId => (registry, registry.deviceRegistry.agentCommandTx agentId)
  | .snapshot filter => (registry, registry.deviceRegistry.snapshot filter)

end AgentRegistry

end SpeechMesh.Model
