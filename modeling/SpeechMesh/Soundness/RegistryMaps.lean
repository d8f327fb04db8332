import SpeechMesh.Model.Events

/-! # What the maps of the registry hold

What one locked section can do to an entry of each map, and the invariants that follow for every
section and every iteration order: the routes of the session map send to the channels of their own
session, and the waiters were subscribed for the task id they are stored under.
-/

namespace SpeechMesh.Soundness

open Async Model

/-- A route sends to the channels that were created for its session. -/
def RouteOwns (sessionId : SessionId) (route : SessionRoute) : Prop :=
  route.eventTx = sessionId ∧ ∀ startedTx ∈ route.startedTx, startedTx = sessionId

def RoutesOwn (registry : AgentRegistry) : Prop :=
  ∀ sessionId route, registry.sessions.lookup sessionId = some route → RouteOwns sessionId route

variable {registry : AgentRegistry} {waiter : ℕ}

theorem lookup_removeOrphanedSessions (sessions : Table SessionId SessionRoute) (agentId : String)
    (sessionId : SessionId) :
    (removeOrphanedSessions sessions agentId).1.lookup sessionId =
      (sessions.lookup sessionId).filter fun route => !(route.agentId == agentId) :=
  Table.lookup_drainWhere ..

theorem mem_removeOrphanedSessions {sessions : Table SessionId SessionRoute} {agentId : String}
    {sessionId : SessionId} {route : SessionRoute} :
    (sessionId, route) ∈ (removeOrphanedSessions sessions agentId).2 ↔
      sessions.lookup sessionId = some route ∧ route.agentId = agentId := by
  simp only [removeOrphanedSessions, Table.mem_drainWhere, beq_iff_eq]

/-- What becomes of one route in a locked section: it stays, it leaves the map, it is new, or its
start sender is taken. -/
theorem sessions_run (action : RegistryAction) (sessionId : SessionId) {route : SessionRoute}
    (found : (registry.run waiter action).1.sessions.lookup sessionId = some route) :
    registry.sessions.lookup sessionId = some route ∨
    (∃ agentId, action = .registerSession agentId sessionId ∧
      route = ⟨agentId, sessionId, some sessionId⟩) ∨
    (∃ old, action = .takeStarted sessionId ∧ registry.sessions.lookup sessionId = some old ∧
      route = { old with startedTx := none }) := by
  cases action with
  | removeOrphanedSessions agentId =>
    simp only [AgentRegistry.run, lookup_removeOrphanedSessions, Option.filter_eq_some_iff] at found
    exact .inl found.1
  | registerSession agentId other =>
    by_cases same : sessionId = other
    · subst same
      simp only [AgentRegistry.run, AList.lookup_insert, Option.some.injEq] at found
      exact .inr (.inl ⟨agentId, rfl, found.symm⟩)
    · simp only [AgentRegistry.run, AList.lookup_insert_ne same] at found
      exact .inl found
  | removeSession other =>
    by_cases same : sessionId = other
    · subst same
      simp [AgentRegistry.run] at found
    · simp only [AgentRegistry.run, AList.lookup_erase_ne same] at found
      exact .inl found
  | takeStarted other =>
    simp only [AgentRegistry.run, AgentRegistry.takeStarted] at found
    split at found
    · exact .inl found
    · rename_i old present
      by_cases same : sessionId = other
      · subst same
        simp only [AList.lookup_insert, Option.some.injEq] at found
        exact .inr (.inr ⟨old, rfl, present, found.symm⟩)
      · simp only [AList.lookup_insert_ne same] at found
        exact .inl found
  | deviceRegisterAgent | deviceUnregisterAgent | subscribeTaskWaiter | removeTaskWaiter
  | takeTaskWaiter | selectAgent | selectSpeakerAgent | sessionEventTx | hasPendingStart
  | registerTask | removeTask | taskAgentId | agentCommandTx | snapshot => exact .inl found

theorem RoutesOwn.run (own : RoutesOwn registry) (action : RegistryAction) :
    RoutesOwn (registry.run waiter action).1 := by
  intro sessionId route found
  rcases sessions_run action sessionId found with kept | ⟨agentId, _, rfl⟩ | ⟨old, _, present, rfl⟩
  · exact own _ _ kept
  · exact ⟨rfl, fun startedTx member => (Option.some.inj member).symm⟩
  · exact ⟨(own _ _ present).1, fun startedTx member => absurd member (by simp)⟩

theorem RoutesOwn.agree {after : AgentRegistry} (own : RoutesOwn registry)
    (agree : registry.Agree after) : RoutesOwn after := by
  intro sessionId route found
  rw [agree.sessions] at found
  exact own _ _ found

theorem RoutesOwn.exec {state after : State} {task fresh : ℕ} {action : Action}
    {answer : action.Answer} (own : RoutesOwn state.registry)
    (ran : State.exec task fresh state action = some (after, answer)) :
    RoutesOwn after.registry := by
  rw [registry_exec ran]
  cases action with
  | registry action => exact own.run action
  | _ => exact own

theorem routesOwn_empty : RoutesOwn default := by
  intro sessionId route found
  simp [default] at found

/-! ## Agents, tasks and waiters -/

/-- A record is in the map because it was there, or because it was just registered. -/
theorem agents_run (action : RegistryAction) (agentId : String) {agent : RegisteredAgent}
    (found : (registry.run waiter action).1.deviceRegistry.agents.lookup agentId = some agent) :
    registry.deviceRegistry.agents.lookup agentId = some agent ∨
      (action = .deviceRegisterAgent agent ∧ agentId = agent.agentId) := by
  cases action with
  | deviceRegisterAgent other =>
    simp only [AgentRegistry.run, DeviceRegistry.registerAgent_agents] at found
    split_ifs at found with same
    · obtain rfl := Option.some.inj found
      exact .inr ⟨rfl, same⟩
    · exact .inl found
  | deviceUnregisterAgent other =>
    simp only [AgentRegistry.run, DeviceRegistry.unregisterAgent,
      DeviceRegistry.removeAgentTasks_agents] at found
    by_cases same : agentId = other
    · subst same
      simp at found
    · rw [AList.lookup_erase_ne same] at found
      exact .inl found
  | registerTask taskId other =>
    simp only [AgentRegistry.run, DeviceRegistry.registerTask] at found
    split at found <;> exact .inl found
  | takeStarted sessionId =>
    simp only [AgentRegistry.run, AgentRegistry.takeStarted] at found
    split at found <;> exact .inl found
  | removeOrphanedSessions | subscribeTaskWaiter | removeTaskWaiter | takeTaskWaiter | selectAgent
  | selectSpeakerAgent | registerSession | removeSession | sessionEventTx | hasPendingStart
  | removeTask | taskAgentId | agentCommandTx | snapshot => exact .inl found

/-- Only its removal takes an agent id out of the map. -/
theorem agents_kept (action : RegistryAction) {agentId : String}
    (stays : action ≠ .deviceUnregisterAgent agentId)
    (known : (registry.deviceRegistry.agents.lookup agentId).isSome) :
    ((registry.run waiter action).1.deviceRegistry.agents.lookup agentId).isSome := by
  cases action with
  | deviceRegisterAgent other =>
    simp only [AgentRegistry.run, DeviceRegistry.registerAgent_agents]
    split_ifs
    · rfl
    · exact known
  | deviceUnregisterAgent other =>
    have apart : agentId ≠ other := fun same => stays (same ▸ rfl)
    simpa only [AgentRegistry.run, DeviceRegistry.unregisterAgent,
      DeviceRegistry.removeAgentTasks_agents, AList.lookup_erase_ne apart] using known
  | registerTask taskId other =>
    simp only [AgentRegistry.run, DeviceRegistry.registerTask]
    split <;> exact known
  | takeStarted sessionId =>
    simp only [AgentRegistry.run, AgentRegistry.takeStarted]
    split <;> exact known
  | removeOrphanedSessions | subscribeTaskWaiter | removeTaskWaiter | takeTaskWaiter | selectAgent
  | selectSpeakerAgent | registerSession | removeSession | sessionEventTx | hasPendingStart
  | removeTask | taskAgentId | agentCommandTx | snapshot => exact known

/-- A route is in the task map because it was there, or because it was just registered. -/
theorem tasks_run (action : RegistryAction) (taskId : String) {route : TaskRoute}
    (found : (registry.run waiter action).1.deviceRegistry.tasks.lookup taskId = some route) :
    registry.deviceRegistry.tasks.lookup taskId = some route ∨
      (∃ agentId, action = .registerTask taskId agentId ∧ route = ⟨agentId⟩ ∧
        registry.deviceRegistry.tasks.lookup taskId = none) := by
  cases action with
  | deviceRegisterAgent agent =>
    simp only [AgentRegistry.run, DeviceRegistry.registerAgent] at found
    split at found
    · simp only [DeviceRegistry.lookup_removeAgentTasks, Option.filter_eq_some_iff] at found
      exact .inl found.1
    · exact .inl found
  | deviceUnregisterAgent agentId =>
    simp only [AgentRegistry.run, DeviceRegistry.unregisterAgent,
      DeviceRegistry.lookup_removeAgentTasks, Option.filter_eq_some_iff] at found
    exact .inl found.1
  | registerTask other agentId =>
    simp only [AgentRegistry.run, DeviceRegistry.registerTask] at found
    split at found
    · exact .inl found
    · rename_i free
      by_cases same : taskId = other
      · subst same
        simp only [AList.lookup_insert, Option.some.injEq] at found
        exact .inr ⟨agentId, rfl, found.symm, free⟩
      · simp only [AList.lookup_insert_ne same] at found
        exact .inl found
  | removeTask other =>
    simp only [AgentRegistry.run, DeviceRegistry.removeTask] at found
    by_cases same : taskId = other
    · subst same
      simp at found
    · rw [AList.lookup_erase_ne same] at found
      exact .inl found
  | takeStarted sessionId =>
    simp only [AgentRegistry.run, AgentRegistry.takeStarted] at found
    split at found <;> exact .inl found
  | removeOrphanedSessions | subscribeTaskWaiter | removeTaskWaiter | takeTaskWaiter | selectAgent
  | selectSpeakerAgent | registerSession | removeSession | sessionEventTx | hasPendingStart
  | taskAgentId | agentCommandTx | snapshot => exact .inl found

/-- A waiter is in the map because it was there, or because it was just subscribed. -/
theorem taskWaiters_run (action : RegistryAction) (taskId : String) {subscribed : ℕ}
    (found : (registry.run waiter action).1.taskWaiters.lookup taskId = some subscribed) :
    (registry.taskWaiters.lookup taskId = some subscribed ∧ action ≠ .subscribeTaskWaiter taskId) ∨
      (action = .subscribeTaskWaiter taskId ∧ subscribed = waiter) := by
  cases action with
  | subscribeTaskWaiter other =>
    by_cases same : taskId = other
    · subst same
      simp only [AgentRegistry.run, AList.lookup_insert, Option.some.injEq] at found
      exact .inr ⟨rfl, found.symm⟩
    · simp only [AgentRegistry.run, AList.lookup_insert_ne same] at found
      exact .inl ⟨found, fun same' => same (RegistryAction.subscribeTaskWaiter.inj same').symm⟩
  | removeTaskWaiter other | takeTaskWaiter other =>
    by_cases same : taskId = other
    · subst same
      simp [AgentRegistry.run] at found
    · simp only [AgentRegistry.run, AList.lookup_erase_ne same] at found
      exact .inl ⟨found, nofun⟩
  | takeStarted sessionId =>
    simp only [AgentRegistry.run, AgentRegistry.takeStarted] at found
    split at found <;> exact .inl ⟨found, nofun⟩
  | removeOrphanedSessions | deviceRegisterAgent | deviceUnregisterAgent | selectAgent
  | selectSpeakerAgent | registerSession | removeSession | sessionEventTx | hasPendingStart
  | registerTask | removeTask | taskAgentId | agentCommandTx | snapshot =>
    exact .inl ⟨found, nofun⟩

/-- Waiters are stored under the task id they were subscribed for. -/
structure WaitersNamed (state : State) : Prop where
  stored : ∀ {taskId subscribed}, state.registry.taskWaiters.lookup taskId = some subscribed →
    state.history.waiterTask subscribed = some taskId
  fresh : ∀ {subscribed}, state.nextWaiter ≤ subscribed → state.history.waiterTask subscribed = none

variable {state after : State} {task fresh : ℕ}

theorem WaitersNamed.exec {action : Action} {answer : action.Answer} (named : WaitersNamed state)
    (ran : State.exec task fresh state action = some (after, answer)) : WaitersNamed after := by
  have history := history_exec ran
  have registry := registry_exec ran
  have next := nextWaiter_exec ran
  by_cases subscribes : ∃ taskId, action = .registry (.subscribeTaskWaiter taskId)
  · obtain ⟨taskId, rfl⟩ := subscribes
    obtain rfl : answer = state.nextWaiter := registry_answer ran
    have noted : after.history.waiterTask =
        Function.update state.history.waiterTask state.nextWaiter (some taskId) := by
      rw [history]
      simp only [State.note, History.waiterTaskAfter, named.fresh le_rfl, Option.none_or]
    constructor
    · intro other subscribed found
      rw [registry] at found
      rcases taskWaiters_run _ _ found with ⟨kept, _⟩ | ⟨same, rfl⟩
      · have known := named.stored kept
        have old : subscribed ≠ state.nextWaiter := by
          rintro rfl
          simp [named.fresh le_rfl] at known
        rw [noted, Function.update_of_ne old, known]
      · obtain rfl := RegistryAction.subscribeTaskWaiter.inj same
        rw [noted, Function.update_self]
    · intro subscribed bound
      have grown : after.nextWaiter = state.nextWaiter + 1 := next
      rw [noted, Function.update_of_ne (by omega)]
      exact named.fresh (by omega)
  · have noted : after.history.waiterTask = state.history.waiterTask := by
      rw [history]
      simp only [State.note]
      unfold History.waiterTaskAfter
      split
      · exact absurd ⟨_, rfl⟩ subscribes
      · rfl
    have same : after.nextWaiter = state.nextWaiter := by
      rw [next]
      unfold State.nextWaiterAfter
      split
      · exact absurd ⟨_, rfl⟩ subscribes
      · rfl
    constructor
    · intro taskId subscribed found
      rw [noted]
      rw [registry] at found
      cases action with
      | registry action =>
        rcases taskWaiters_run action _ found with ⟨kept, _⟩ | ⟨rfl, _⟩
        · exact named.stored kept
        · exact absurd ⟨_, rfl⟩ subscribes
      | _ => exact named.stored found
    · intro subscribed bound
      rw [noted]
      exact named.fresh (same ▸ bound)

theorem WaitersNamed.undisturbed (named : WaitersNamed state)
    (undisturbed : state.Undisturbed after) : WaitersNamed after := by
  constructor
  · intro taskId subscribed found
    rw [undisturbed.registry.taskWaiters] at found
    rw [undisturbed.history]
    exact named.stored found
  · intro subscribed bound
    rw [undisturbed.history]
    exact named.fresh (undisturbed.nextWaiter ▸ bound)

theorem waitersNamed_initial : WaitersNamed {} := by
  constructor
  · intro taskId subscribed found
    simp [default] at found
  · exact fun _ => rfl

theorem waitersNamed_replay {config : GatewayConfig} {schedule : List (Choice (system config))}
    {last : World (system config)} (ran : (initial config).replay? schedule = some last) :
    WaitersNamed last.state :=
  World.replay?_state (fun named performed => WaitersNamed.exec named (ran_exec performed))
    (fun named occurred => WaitersNamed.undisturbed named (occur_undisturbed occurred))
    waitersNamed_initial ran

end SpeechMesh.Soundness
