import SpeechMesh.Soundness.RegistryMaps
import SpeechMesh.Soundness.Scenario

/-! # What the messages of one agent can touch

`handle_agent_message` dispatches by the session or task id in the message and never asks which
agent the id is routed to. Handling a message touches that one session or task, whoever owns it, and
nothing else; so the other agents are undisturbed as long as the id is not routed to one of them.
-/

namespace SpeechMesh.Soundness

open Async Model

/-- The session a message names. -/
def namedSession : AgentToGatewayMessage → Option SessionId
  | .sessionStarted sessionId _ => some sessionId
  | .asrPartial sessionId _ => some sessionId
  | .asrFinal sessionId _ => some sessionId
  | .sessionEnded sessionId _ => some sessionId
  | .error sessionId _ => sessionId
  | .hello _ | .taskStatus _ _ | .pong => none

/-- The task a message names. -/
def namedTask : AgentToGatewayMessage → Option String
  | .taskStatus taskId _ => some taskId
  | _ => none

/-- The registered agents are the same, and so is everything about other sessions and tasks: routes,
pending starts, event streams, and waiters with their results. -/
structure OnlyNamed (session : Option SessionId) (task : Option String) (before after : State) :
    Prop where
  agents : after.registry.deviceRegistry.agents = before.registry.deviceRegistry.agents
  sessions : ∀ other, session ≠ some other →
    after.registry.sessions.lookup other = before.registry.sessions.lookup other
  started : ∀ other, session ≠ some other → after.started other = before.started other
  asrStreams : ∀ other, session ≠ some other → after.asrStreams other = before.asrStreams other
  tasks : ∀ other, task ≠ some other →
    after.registry.deviceRegistry.tasks.lookup other =
      before.registry.deviceRegistry.tasks.lookup other
  taskWaiters : ∀ other, task ≠ some other →
    after.registry.taskWaiters.lookup other = before.registry.taskWaiters.lookup other
  taskReplies : ∀ waiter other, before.history.waiterTask waiter = some other →
    task ≠ some other → after.taskReplies waiter = before.taskReplies waiter

/-- The ids a message names are not routed to another agent. -/
def NamesOwn (agentId : String) (message : AgentToGatewayMessage) (state : State) : Prop :=
  (∀ sessionId ∈ namedSession message, ∀ route ∈ state.registry.sessions.lookup sessionId,
    route.agentId = agentId) ∧
  ∀ taskId ∈ namedTask message, ∀ route ∈ state.registry.deviceRegistry.tasks.lookup taskId,
    route.agentId = agentId

/-- The routes, waiters, pending starts and event streams of the other agents are unchanged. -/
structure OthersUndisturbed (agentId : String) (before after : State) : Prop where
  agents : after.registry.deviceRegistry.agents = before.registry.deviceRegistry.agents
  sessions : ∀ sessionId route, before.registry.sessions.lookup sessionId = some route →
    route.agentId ≠ agentId → after.registry.sessions.lookup sessionId = some route ∧
      after.started sessionId = before.started sessionId ∧
      after.asrStreams sessionId = before.asrStreams sessionId
  tasks : ∀ taskId route, before.registry.deviceRegistry.tasks.lookup taskId = some route →
    route.agentId ≠ agentId → after.registry.deviceRegistry.tasks.lookup taskId = some route ∧
      after.registry.taskWaiters.lookup taskId = before.registry.taskWaiters.lookup taskId ∧
      ∀ waiter, before.history.waiterTask waiter = some taskId →
        after.taskReplies waiter = before.taskReplies waiter

/-- Every action of a message handler keeps to what the message names, and disturbs no other agent
whose ids the message does not use. -/
def HandlesNamed (_ : ℕ) (name : Procedure) (_ : Action) (before after : State) : Prop :=
  match name with
  | .agentMessage agentId message =>
      OnlyNamed (namedSession message) (namedTask message) before after ∧
        (NamesOwn agentId message before → OthersUndisturbed agentId before after)
  | _ => True

/-- The stronger statement that would need an owner check. -/
def HandlesOwnOnly (_ : ℕ) (name : Procedure) (_ : Action) (before after : State) : Prop :=
  match name with
  | .agentMessage agentId _ => OthersUndisturbed agentId before after
  | _ => True

theorem OnlyNamed.others {agentId : String} {message : AgentToGatewayMessage}
    {before after : State}
    (only : OnlyNamed (namedSession message) (namedTask message) before after)
    (own : NamesOwn agentId message before) : OthersUndisturbed agentId before after where
  agents := only.agents
  sessions := by
    intro sessionId route found foreign
    have other : namedSession message ≠ some sessionId := fun named =>
      foreign (own.1 sessionId named route found)
    exact ⟨only.sessions sessionId other ▸ found, only.started sessionId other,
      only.asrStreams sessionId other⟩
  tasks := by
    intro taskId route found foreign
    have other : namedTask message ≠ some taskId := fun named =>
      foreign (own.2 taskId named route found)
    exact ⟨only.tasks taskId other ▸ found, only.taskWaiters taskId other, fun waiter subscribed =>
      only.taskReplies waiter taskId subscribed other⟩

/-! ## The effect of each action -/

variable {session : Option SessionId} {named : Option String} {task fresh : ℕ}
  {state after : State}

theorem OnlyNamed.of_registry
    (agents : after.registry.deviceRegistry.agents = state.registry.deviceRegistry.agents)
    (sessions : ∀ other, session ≠ some other →
      after.registry.sessions.lookup other = state.registry.sessions.lookup other)
    (tasks : ∀ other, named ≠ some other →
      after.registry.deviceRegistry.tasks.lookup other =
        state.registry.deviceRegistry.tasks.lookup other)
    (taskWaiters : ∀ other, named ≠ some other →
      after.registry.taskWaiters.lookup other = state.registry.taskWaiters.lookup other)
    (started : after.started = state.started) (asrStreams : after.asrStreams = state.asrStreams)
    (taskReplies : after.taskReplies = state.taskReplies) :
    OnlyNamed session named state after :=
  ⟨agents, sessions, fun _ _ => started ▸ rfl, fun _ _ => asrStreams ▸ rfl, tasks, taskWaiters,
    fun _ _ _ _ => taskReplies ▸ rfl⟩

/-- A locked section that a message handler enters. -/
def HandlerSection (session : Option SessionId) (named : Option String) : RegistryAction → Prop
  | .takeStarted sessionId => session = some sessionId
  | .removeSession sessionId => session = some sessionId
  | .sessionEventTx _ | .hasPendingStart _ | .taskAgentId _ => True
  | .removeTask taskId => named = some taskId
  | .takeTaskWaiter taskId => named = some taskId
  | _ => False

theorem onlyNamed_section {action : RegistryAction} {answer : action.Answer}
    (handler : HandlerSection session named action)
    (ran : State.exec task fresh state (.registry action) = some (after, answer)) :
    OnlyNamed session named state after := by
  obtain ⟨core, performed, rfl⟩ := exec_cases ran
  obtain ⟨rfl, -⟩ := Prod.mk.inj (Option.some.inj performed)
  cases action with
  | takeStarted sessionId =>
    have others : ∀ other, session ≠ some other →
        (state.registry.takeStarted sessionId).1.sessions.lookup other =
          state.registry.sessions.lookup other := by
      intro other different
      have kept : other ≠ sessionId := fun same => different (same ▸ handler)
      simp only [AgentRegistry.takeStarted]
      split
      · rfl
      · exact AList.lookup_insert_ne kept
    have device : (state.registry.takeStarted sessionId).1.deviceRegistry =
          state.registry.deviceRegistry ∧
        (state.registry.takeStarted sessionId).1.taskWaiters = state.registry.taskWaiters := by
      simp only [AgentRegistry.takeStarted]
      split <;> exact ⟨rfl, rfl⟩
    refine .of_registry ?_ others ?_ ?_ rfl rfl rfl
    · exact congrArg DeviceRegistry.agents device.1
    · exact fun other _ => congrArg (fun devices => devices.tasks.lookup other) device.1
    · exact fun other _ => congrArg (fun waiters => waiters.lookup other) device.2
  | removeSession sessionId =>
    refine .of_registry rfl ?_ (fun _ _ => rfl) (fun _ _ => rfl) rfl rfl rfl
    intro other different
    exact AList.lookup_erase_ne fun same => different (same ▸ handler)
  | removeTask taskId =>
    refine .of_registry rfl (fun _ _ => rfl) ?_ (fun _ _ => rfl) rfl rfl rfl
    intro other different
    exact AList.lookup_erase_ne fun same => different (same ▸ handler)
  | takeTaskWaiter taskId =>
    refine .of_registry rfl (fun _ _ => rfl) (fun _ _ => rfl) ?_ rfl rfl rfl
    intro other different
    exact AList.lookup_erase_ne fun same => different (same ▸ handler)
  | sessionEventTx | hasPendingStart | taskAgentId =>
    exact .of_registry rfl (fun _ _ => rfl) (fun _ _ => rfl) (fun _ _ => rfl) rfl rfl rfl
  | removeOrphanedSessions | deviceRegisterAgent | deviceUnregisterAgent | subscribeTaskWaiter
  | removeTaskWaiter | selectAgent | selectSpeakerAgent | registerSession | registerTask
  | agentCommandTx | snapshot => exact absurd handler id

theorem onlyNamed_sendStarted {sessionId : SessionId} {result : Except BridgeError Unit} {answer}
    (owned : session = some sessionId)
    (ran : State.exec task fresh state (.sendStarted sessionId result) = some (after, answer)) :
    OnlyNamed session named state after := by
  obtain ⟨core, performed, rfl⟩ := exec_cases ran
  obtain ⟨rfl, -⟩ := Prod.mk.inj (Option.some.inj performed)
  refine ⟨rfl, fun _ _ => rfl, ?_, fun _ _ => rfl, fun _ _ => rfl, fun _ _ => rfl,
    fun _ _ _ _ => rfl⟩
  intro other different
  have kept : other ≠ sessionId := fun same => different (same ▸ owned)
  exact Function.update_of_ne kept ..

theorem onlyNamed_sendEvent {sessionId : SessionId} {event : BridgeAsrEvent} {answer}
    (owned : session = some sessionId)
    (ran : State.exec task fresh state (.asr sessionId (.sendEvent event)) =
      some (after, answer)) : OnlyNamed session named state after := by
  obtain ⟨core, performed, rfl⟩ := exec_cases ran
  obtain ⟨_, _, same⟩ := Option.map_eq_some_iff.mp performed
  obtain ⟨rfl, -⟩ := Prod.mk.inj same
  refine ⟨rfl, fun _ _ => rfl, fun _ _ => rfl, ?_, fun _ _ => rfl, fun _ _ => rfl,
    fun _ _ _ _ => rfl⟩
  intro other different
  have kept : other ≠ sessionId := fun same => different (same ▸ owned)
  exact Function.update_of_ne kept ..

theorem onlyNamed_sendTaskResult {waiter : ℕ} {result : TaskWaitResult} {answer}
    (owned : ∃ taskId, state.history.waiterTask waiter = some taskId ∧ named = some taskId)
    (ran : State.exec task fresh state (.sendTaskResult waiter result) = some (after, answer)) :
    OnlyNamed session named state after := by
  obtain ⟨core, performed, rfl⟩ := exec_cases ran
  obtain ⟨rfl, -⟩ := Prod.mk.inj (Option.some.inj performed)
  obtain ⟨taskId, subscribed, rfl⟩ := owned
  refine ⟨rfl, fun _ _ => rfl, fun _ _ => rfl, fun _ _ => rfl, fun _ _ => rfl, fun _ _ => rfl, ?_⟩
  intro other otherTask known different
  have kept : other ≠ waiter := by
    rintro rfl
    exact different (congrArg some (Option.some.inj (subscribed.symm.trans known)))
  exact Function.update_of_ne kept ..

/-! ## The handlers -/

variable (config : GatewayConfig)

def isolation : Contract (system config) where
  allowed _ _ _ _ _ := True
  enters _ _ _ := True
  occurs _ _ := True
  inv _ (state : State) := RoutesOwn state.registry ∧ WaitersNamed state
  rely _ (before after : State) := before.history.Extends after.history
  pre _ _ _ := True
  guar := HandlesNamed
  rely_refl := extends_refl
  rely_trans := @extends_trans

/-- What a section finds belongs to the session or task it was asked about. -/
def Found (state : State) : (action : RegistryAction) → action.Answer → Prop
  | .takeStarted sessionId, (answer : Option SessionId) => ∀ startedTx ∈ answer, startedTx = sessionId
  | .sessionEventTx sessionId, (answer : Option SessionId) => ∀ eventTx ∈ answer, eventTx = sessionId
  | .removeSession sessionId, (answer : Option SessionRoute) =>
      ∀ route ∈ answer, RouteOwns sessionId route
  | .takeTaskWaiter taskId, (answer : Option ℕ) =>
      ∀ waiter ∈ answer, state.history.waiterTask waiter = some taskId
  | _, _ => True

theorem found_run {action : RegistryAction} (own : RoutesOwn state.registry)
    (waiters : WaitersNamed state) :
    Found state action (state.registry.run state.nextWaiter action).2 := by
  cases action with
  | takeStarted sessionId =>
    intro startedTx member
    simp only [AgentRegistry.run, AgentRegistry.takeStarted] at member
    split at member
    · cases member
    · rename_i route present
      exact (own _ _ present).2 startedTx member
  | sessionEventTx sessionId =>
    intro eventTx member
    obtain ⟨route, present, rfl⟩ := Option.map_eq_some_iff.mp member
    exact (own _ _ present).1
  | removeSession sessionId => exact fun route present => own _ _ present
  | takeTaskWaiter taskId => exact fun waiter present => waiters.stored present
  | _ => trivial

theorem Found.later {action : RegistryAction} {answer : action.Answer}
    (found : Found state action answer) (grown : state.history.Extends after.history) :
    Found after action answer := by
  cases action with
  | takeTaskWaiter taskId => exact fun waiter member => grown.waiterTask (found waiter member)
  | _ => exact found

variable {config} {connection : ℕ} {agentId : String} {message : AgentToGatewayMessage}

private theorem stable_pure (fact : Prop) :
    (isolation config).Stable connection fun _ => fact :=
  fun _ _ _ _ holds _ _ => holds

private theorem stable_found (action : RegistryAction) (answer : action.Answer) :
    (isolation config).Stable connection fun state : State => Found state action answer :=
  fun _ _ _ _ found grown _ => found.later grown

theorem OnlyNamed.handled
    (only : OnlyNamed (namedSession message) (namedTask message) state after) :
    OnlyNamed (namedSession message) (namedTask message) state after ∧
      (NamesOwn agentId message state → OthersUndisturbed agentId state after) :=
  ⟨only, only.others⟩

private theorem section_named (action : RegistryAction)
    (handler : HandlerSection (namedSession message) (namedTask message) action) :
    (isolation config).Triple connection (.agentMessage agentId message) (fun _ => True)
      (locked action) fun answer (state : State) => Found state action answer := by
  refine .perform (stable_pure True) (stable_found action) ?_
  intro size state after answer _ inv _ _ ran
  refine ⟨(onlyNamed_section handler (ran_exec ran)).handled, fun _ => ?_⟩
  obtain rfl := registry_answer (ran_exec ran)
  have found : Found state action _ := found_run inv.1 inv.2
  exact found.later (extends_exec (ran_exec ran))

private theorem sendEvent_named {sessionId : SessionId} {event : BridgeAsrEvent}
    (owned : namedSession message = some sessionId) :
    (isolation config).Triple connection (.agentMessage agentId message) (fun _ => True)
      (perform (.asr sessionId (.sendEvent event))) fun _ _ => True := by
  refine .perform (stable_pure True) (fun _ => stable_pure True) ?_
  intro size state after answer _ _ _ _ ran
  exact ⟨(onlyNamed_sendEvent owned (ran_exec ran)).handled, fun _ => trivial⟩

private theorem sendStarted_named {sessionId : SessionId} {result : Except BridgeError Unit}
    (owned : namedSession message = some sessionId) :
    (isolation config).Triple connection (.agentMessage agentId message) (fun _ => True)
      (perform (.sendStarted sessionId result)) fun _ _ => True := by
  refine .perform (stable_pure True) (fun _ => stable_pure True) ?_
  intro size state after answer _ _ _ _ ran
  exact ⟨(onlyNamed_sendStarted owned (ran_exec ran)).handled, fun _ => trivial⟩

private theorem return_named {α : Type} {value : α} {before : State → Prop}
    (stable : (isolation config).Stable connection before) :
    (isolation config).Triple connection (.agentMessage agentId message) before (.done value)
      fun _ _ => True :=
  .done stable fun _ _ _ _ _ => trivial

private theorem tellSession_named {sessionId : SessionId} {route : SessionRoute}
    (owned : namedSession message = some sessionId) (own : RouteOwns sessionId route)
    (startError : BridgeError) (events : List BridgeAsrEvent) :
    (isolation config).Triple connection (.agentMessage agentId message) (fun _ => True)
      (tellSession route startError events) fun _ _ => True := by
  unfold tellSession
  cases pending : route.startedTx with
  | some startedTx =>
    obtain rfl : startedTx = sessionId := own.2 startedTx pending
    exact sendStarted_named owned
  | none =>
    refine .forEach (stable_pure True) fun event _ => ?_
    refine .bind ?_ fun _ => return_named (stable_pure True)
    rw [own.1]
    exact sendEvent_named owned

private theorem markSessionStarted_named {sessionId : SessionId}
    (owned : namedSession message = some sessionId) :
    (isolation config).Triple connection (.agentMessage agentId message) (fun _ => True)
      (markSessionStarted sessionId) fun _ _ => True := by
  refine .bind (section_named _ owned) fun answer => ?_
  cases answer with
  | none => exact return_named (stable_found _ _)
  | some startedTx =>
    refine .assume (fun _ _ _ _ found => found startedTx rfl) fun same => ?_
    obtain rfl : startedTx = sessionId := same
    exact (sendStarted_named owned).consequence (fun _ _ _ _ _ => trivial) fun _ _ _ _ _ holds => holds

private theorem routeEvent_named {sessionId : SessionId} (event : BridgeAsrEvent)
    (owned : namedSession message = some sessionId) :
    (isolation config).Triple connection (.agentMessage agentId message) (fun _ => True)
      (routeEvent sessionId event) fun _ _ => True := by
  refine .bind (section_named (.sessionEventTx sessionId) trivial) fun answer => ?_
  cases answer with
  | none => exact return_named (stable_found _ _)
  | some eventTx =>
    refine .assume (fun _ _ _ _ found => found eventTx rfl) fun same => ?_
    obtain rfl : eventTx = sessionId := same
    refine .bind ((sendEvent_named owned).consequence (fun _ _ _ _ _ => trivial)
      fun _ _ _ _ _ holds => holds) fun _ => return_named (stable_pure True)

/-- Both ways to end a session take its route and tell the client side. -/
private theorem removeSession_named {sessionId : SessionId}
    (owned : namedSession message = some sessionId) (startError : BridgeError)
    (events : List BridgeAsrEvent) :
    (isolation config).Triple connection (.agentMessage agentId message) (fun _ => True)
      (do
        match ← locked (.removeSession sessionId) with
        | some route => tellSession route startError events
        | none => pure ()) fun _ _ => True := by
  refine .bind (section_named _ owned) fun answer => ?_
  cases answer with
  | none => exact return_named (stable_found _ _)
  | some route =>
    refine .assume (fun _ _ _ _ found => found route rfl) fun own => ?_
    exact (tellSession_named owned own startError events).consequence
      (fun _ _ _ _ _ => trivial) fun _ _ _ _ _ holds => holds

private theorem resolveTaskWaiter_named {taskId : String} (result : TaskWaitResult)
    (owned : namedTask message = some taskId) :
    (isolation config).Triple connection (.agentMessage agentId message) (fun _ => True)
      (resolveTaskWaiter taskId result) fun _ _ => True := by
  refine .bind (section_named _ owned) fun answer => ?_
  cases answer with
  | none => exact return_named (stable_found _ _)
  | some waiter =>
    refine .perform (stable_found _ _) (fun _ => stable_pure True) ?_
    intro size state after answer _ _ found _ ran
    exact ⟨(onlyNamed_sendTaskResult ⟨taskId, found waiter rfl, owned⟩ (ran_exec ran)).handled,
      fun _ => trivial⟩

private theorem handleTaskStatus_named {taskId : String} (payload : AgentTaskStatusPayload)
    (owned : namedTask message = some taskId) :
    (isolation config).Triple connection (.agentMessage agentId message) (fun _ => True)
      (handleTaskStatus taskId payload) fun _ _ => True := by
  refine .bind (section_named (.taskAgentId taskId) trivial) fun routed => ?_
  cases routed with
  | none => exact return_named (stable_found _ _)
  | some _ =>
    by_cases started : payload.state = .started
    · simp only [started, if_true]
      exact return_named (stable_found _ _)
    · simp only [started, if_false]
      have removed : (isolation config).Triple connection (.agentMessage agentId message)
          (fun _ => True) (locked (.removeTask taskId)) _ := section_named _ owned
      exact (Contract.Triple.bind removed fun _ =>
        (resolveTaskWaiter_named payload.waitResult owned).consequence
          (fun _ _ _ _ _ => trivial) fun _ _ _ _ _ holds => holds).consequence
        (fun _ _ _ _ _ => trivial) fun _ _ _ _ _ holds => holds

/-- Every action of a message handler keeps to what the message names. -/
private theorem handleAgentMessage_named :
    (isolation config).Triple connection (.agentMessage agentId message) (fun _ => True)
      (handleAgentMessage message) fun _ _ => True := by
  cases message with
  | hello payload => exact return_named (stable_pure True)
  | sessionStarted sessionId providerId => exact markSessionStarted_named rfl
  | asrPartial sessionId text => exact routeEvent_named _ rfl
  | asrFinal sessionId transcript => exact routeEvent_named _ rfl
  | sessionEnded sessionId reason => exact removeSession_named rfl _ _
  | error session text =>
    cases session with
    | none => exact return_named (stable_pure True)
    | some sessionId =>
      refine .bind (section_named (.hasPendingStart sessionId) trivial) fun pending => ?_
      cases pending with
      | true => exact removeSession_named rfl _ _
      | false => exact routeEvent_named _ rfl
  | taskStatus taskId payload => exact handleTaskStatus_named payload rfl
  | pong => exact return_named (stable_pure True)

variable (config) in
private theorem isolation_valid : (isolation config).Valid where
  pre_stable _ _ _ _ := trivial
  body {connection name size state} bound inv _ _ := by
    by_cases handler : ∃ agentId message, name = .agentMessage agentId message
    · obtain ⟨agentId, message, rfl⟩ := handler
      have handled : (isolation config).Triple connection (.agentMessage agentId message)
          (fun _ => True) (agentMessage agentId message) fun _ _ => True :=
        .bind handleAgentMessage_named fun _ => return_named (stable_pure True)
      refine (handled size state bound inv trivial).mono bound ?_
      intro exit _ _ _ _ _
      cases exit <;> trivial
    · refine .free ?_ ?_
      · intro action before after
        change HandlesNamed connection name action before after
        cases name with
        | agentMessage agentId message => exact absurd ⟨agentId, message, rfl⟩ handler
        | _ => trivial
      · intro exit _
        cases exit <;> trivial
  action _ inv _ _ ran :=
    ⟨⟨inv.1.exec (ran_exec ran), inv.2.exec (ran_exec ran)⟩,
      fun _ _ _ => extends_exec (ran_exec ran), fun _ _ _ => trivial⟩
  event inv _ occurred := by
    have undisturbed := occur_undisturbed occurred
    refine ⟨⟨inv.1.agree undisturbed.registry, inv.2.undisturbed undisturbed⟩, fun _ _ => ?_,
      fun _ _ _ => trivial⟩
    change History.Extends _ _
    rw [undisturbed.history]
    exact .refl _

/-- Along every schedule, handling an agent's message touches the session or task it names and
nothing else, and no other agent if these ids are not routed to one. -/
theorem messages_touch_named (config : GatewayConfig) (schedule : List (Choice (system config))) :
    World.Along (World.OnEffect HandlesNamed) (initial config) schedule := by
  have good : (isolation config).Good (initial config) :=
    ⟨⟨routesOwn_empty, waitersNamed_initial⟩, fun _ _ found => nomatch found⟩
  have unconditional : (isolation config).Unconditional :=
    ⟨fun _ _ _ _ _ => trivial, fun _ _ _ => trivial, fun _ _ => trivial⟩
  exact good.along (isolation_valid config) (.always unconditional.meets _ _)

open Scenario in
/-- An agent reports the end of a playback that is routed to another agent, and takes its route. -/
theorem status_takes_foreign_route :
    ¬ ∀ (config : GatewayConfig) (schedule : List (Choice (system config))),
      World.Along (World.OnEffect HandlesOwnOnly) (initial config) schedule := by
  intro always
  have along := always Scenario.config
    ((registers 0 speaker ++ registers 1 { speaker with agentId := "other", agentKind := .asrProvider } ++
      routesPlayback 2 ++ [agentSays 1 (.taskStatus "task" ⟨.finished, none⟩)] ++ turns 4 1) ++
        [.task 1])
  obtain ⟨middle, ran⟩ : ∃ middle, (initial Scenario.config).replay?
      (registers 0 speaker ++
        registers 1 { speaker with agentId := "other", agentKind := .asrProvider } ++
        routesPlayback 2 ++ [agentSays 1 (.taskStatus "task" ⟨.finished, none⟩)] ++ turns 4 1) =
      some middle := ⟨_, rfl⟩
  have effect := along.at ran
  cases ran
  have undisturbed := effect.performed rfl rfl
  have kept := undisturbed.tasks "task" ⟨"device"⟩ rfl (by decide)
  exact absurd kept.1 nofun

end SpeechMesh.Soundness
