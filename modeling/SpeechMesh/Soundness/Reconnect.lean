import SpeechMesh.Soundness.Placements

/-! # Reconnecting agents

A connection that registered an agent id may be torn down after a newer connection registered the
same id. `unregister_agent` only knows the id, so the teardown spares the newer registration as far
as its locked sections find nothing of it under the id. They find nothing when they come before the
newer registration. What the teardown does after them it knows by session and by task id; only a
task id can have come into use again by then.
-/

namespace SpeechMesh.Soundness

open Async Model

/-! ## Newer registrations -/

/-- Something was placed on a registration that another connection made later for the same id. -/
def Newer (history : History) (connection : ℕ) (placement : Option ℕ) : Prop :=
  ∃ other ∈ placement, ∃ agentId early late,
    history.registration connection = some (agentId, early) ∧
    history.registration other = some (agentId, late) ∧ early < late

/-- Something was placed on a registration, and not on a later one for the same id. -/
def NotNewer (history : History) (connection : ℕ) (placement : Option ℕ) : Prop :=
  ∃ other ∈ placement, ∃ own that, history.registration connection = some own ∧
    history.registration other = some that ∧ ¬ (own.1 = that.1 ∧ own.2 < that.2)

/-- The connection the request of a waiter was routed to. -/
def waiterPlacement (history : History) (waiter : ℕ) : Option ℕ :=
  (history.waiterRequest waiter).bind history.requestPlacement

theorem NotNewer.not_newer {history : History} {connection : ℕ} {placement : Option ℕ}
    (notNewer : NotNewer history connection placement) : ¬ Newer history connection placement := by
  rintro ⟨other, placed, agentId, early, late, registered, later, older⟩
  obtain ⟨_, placed', own, that, own', that', never⟩ := notNewer
  obtain rfl := Option.mem_unique placed placed'
  obtain rfl := Option.some.inj (registered.symm.trans own')
  obtain rfl := Option.some.inj (later.symm.trans that')
  exact never ⟨rfl, older⟩

theorem NotNewer.later {before after : History} {connection : ℕ} {placement placement' : Option ℕ}
    (notNewer : NotNewer before connection placement) (grown : before.Extends after)
    (kept : ∀ other ∈ placement, other ∈ placement') : NotNewer after connection placement' := by
  obtain ⟨other, placed, own, that, own', that', never⟩ := notNewer
  exact ⟨other, kept other placed, own, that, grown.registration own', grown.registration that',
    never⟩

theorem waiterPlacement_later {before after : History} (grown : before.Extends after)
    {waiter other : ℕ} (placed : other ∈ waiterPlacement before waiter) :
    other ∈ waiterPlacement after waiter := by
  obtain ⟨number, known, routed⟩ := Option.bind_eq_some_iff.mp placed
  exact Option.bind_eq_some_iff.mpr
    ⟨number, grown.waiterRequest known, grown.requestPlacement routed⟩

/-! ## What a teardown must leave alone, and when its sections do -/

/-- Everything of a newer registration is as it was: its record, the routes placed on it, and the
channels and waiters behind these routes. -/
structure Spares (connection : ℕ) (before after : State) : Prop where
  agents : ∀ agentId agent, before.registry.deviceRegistry.agents.lookup agentId = some agent →
    Newer before.history connection (some agent.commandTx) →
      after.registry.deviceRegistry.agents.lookup agentId = some agent
  sessions : ∀ sessionId route, before.registry.sessions.lookup sessionId = some route →
    Newer before.history connection (before.history.sessionPlacement sessionId) →
      after.registry.sessions.lookup sessionId = some route
  tasks : ∀ taskId route, before.registry.deviceRegistry.tasks.lookup taskId = some route →
    Newer before.history connection (taskPlacement before.history taskId) →
      after.registry.deviceRegistry.tasks.lookup taskId = some route
  taskWaiters : ∀ taskId waiter, before.registry.taskWaiters.lookup taskId = some waiter →
    Newer before.history connection (waiterPlacement before.history waiter) →
      after.registry.taskWaiters.lookup taskId = some waiter
  started : ∀ sessionId,
    Newer before.history connection (before.history.sessionPlacement sessionId) →
      after.started sessionId = before.started sessionId
  asrStreams : ∀ sessionId,
    Newer before.history connection (before.history.sessionPlacement sessionId) →
      after.asrStreams sessionId = before.asrStreams sessionId
  taskReplies : ∀ waiter,
    Newer before.history connection (waiterPlacement before.history waiter) →
      after.taskReplies waiter = before.taskReplies waiter

/-- The locked sections of a teardown find nothing of a newer registration: no record and no route
under the id, and no waiter of a request that reused an orphaned task id. -/
def TeardownFindsOwn (connection : ℕ) (name : Procedure) (state : State) (action : Action) : Prop :=
  match name, action with
  | .agentTeardown _, .registry (.removeOrphanedSessions agentId) =>
      ∀ {sessionId route}, state.registry.sessions.lookup sessionId = some route →
        route.agentId = agentId →
          NotNewer state.history connection (state.history.sessionPlacement sessionId)
  | .agentTeardown _, .registry (.deviceUnregisterAgent agentId) =>
      (∀ {agent}, state.registry.deviceRegistry.agents.lookup agentId = some agent →
        NotNewer state.history connection (some agent.commandTx)) ∧
      ∀ {taskId route}, state.registry.deviceRegistry.tasks.lookup taskId = some route →
        route.agentId = agentId →
          NotNewer state.history connection (taskPlacement state.history taskId)
  | .agentTeardown _, .registry (.takeTaskWaiter taskId) =>
      ∀ {waiter}, state.registry.taskWaiters.lookup taskId = some waiter →
        NotNewer state.history connection (waiterPlacement state.history waiter)
  | _, _ => True

/-- Each action of a teardown spares what is newer. -/
def TeardownSpares (connection : ℕ) (name : Procedure) (_ : Action) (before after : State) : Prop :=
  (∃ agentId, name = .agentTeardown agentId) → Spares connection before after

/-! ## The effect of each section -/

variable {connection fresh : ℕ} {state after : State}

/-- An action that changes nothing but, perhaps, what is not newer. -/
theorem Spares.of_unchanged (registry : after.registry = state.registry)
    (started : ∀ sessionId,
      Newer state.history connection (state.history.sessionPlacement sessionId) →
        after.started sessionId = state.started sessionId)
    (asrStreams : ∀ sessionId,
      Newer state.history connection (state.history.sessionPlacement sessionId) →
        after.asrStreams sessionId = state.asrStreams sessionId)
    (taskReplies : ∀ waiter,
      Newer state.history connection (waiterPlacement state.history waiter) →
        after.taskReplies waiter = state.taskReplies waiter) : Spares connection state after where
  agents _ _ found _ := registry ▸ found
  sessions _ _ found _ := registry ▸ found
  tasks _ _ found _ := registry ▸ found
  taskWaiters _ _ found _ := registry ▸ found
  started := started
  asrStreams := asrStreams
  taskReplies := taskReplies

theorem spares_removeOrphanedSessions {agentId : String} {answer}
    (own : ∀ {sessionId route}, state.registry.sessions.lookup sessionId = some route →
      route.agentId = agentId →
        NotNewer state.history connection (state.history.sessionPlacement sessionId))
    (ran : State.exec connection fresh state (.registry (.removeOrphanedSessions agentId)) =
      some (after, answer)) : Spares connection state after := by
  obtain ⟨core, performed, rfl⟩ := exec_cases ran
  obtain ⟨rfl, -⟩ := Prod.mk.inj (Option.some.inj performed)
  exact {
    agents := fun _ _ found _ => found
    sessions := by
      intro sessionId route found newer
      have kept : route.agentId ≠ agentId := fun same => (own found same).not_newer newer
      change (removeOrphanedSessions _ _).1.lookup sessionId = _
      simp [lookup_removeOrphanedSessions, found, Option.filter, kept]
    tasks := fun _ _ found _ => found
    taskWaiters := fun _ _ found _ => found
    started := fun _ _ => rfl
    asrStreams := fun _ _ => rfl
    taskReplies := fun _ _ => rfl }

theorem spares_deviceUnregisterAgent {agentId : String} {answer}
    (record : ∀ {agent}, state.registry.deviceRegistry.agents.lookup agentId = some agent →
      NotNewer state.history connection (some agent.commandTx))
    (own : ∀ {taskId route}, state.registry.deviceRegistry.tasks.lookup taskId = some route →
      route.agentId = agentId →
        NotNewer state.history connection (taskPlacement state.history taskId))
    (ran : State.exec connection fresh state (.registry (.deviceUnregisterAgent agentId)) =
      some (after, answer)) : Spares connection state after := by
  obtain ⟨core, performed, rfl⟩ := exec_cases ran
  obtain ⟨rfl, -⟩ := Prod.mk.inj (Option.some.inj performed)
  exact {
    agents := by
      intro other agent found newer
      have kept : other ≠ agentId := by
        rintro rfl
        exact (record found).not_newer newer
      change (state.registry.deviceRegistry.agents.erase agentId).lookup other = _
      rw [AList.lookup_erase_ne kept, found]
    sessions := fun _ _ found _ => found
    tasks := by
      intro taskId route found newer
      have kept : route.agentId ≠ agentId := fun same => (own found same).not_newer newer
      change (state.registry.deviceRegistry.removeAgentTasks agentId).1.tasks.lookup taskId = _
      simp [DeviceRegistry.lookup_removeAgentTasks, found, Option.filter, kept]
    taskWaiters := fun _ _ found _ => found
    started := fun _ _ => rfl
    asrStreams := fun _ _ => rfl
    taskReplies := fun _ _ => rfl }

theorem spares_takeTaskWaiter {taskId : String} {answer}
    (own : ∀ {waiter}, state.registry.taskWaiters.lookup taskId = some waiter →
      NotNewer state.history connection (waiterPlacement state.history waiter))
    (ran : State.exec connection fresh state (.registry (.takeTaskWaiter taskId)) =
      some (after, answer)) : Spares connection state after := by
  obtain ⟨core, performed, rfl⟩ := exec_cases ran
  obtain ⟨rfl, -⟩ := Prod.mk.inj (Option.some.inj performed)
  exact {
    agents := fun _ _ found _ => found
    sessions := fun _ _ found _ => found
    tasks := fun _ _ found _ => found
    taskWaiters := by
      intro other waiter found newer
      have kept : other ≠ taskId := by
        rintro rfl
        exact (own found).not_newer newer
      change (state.registry.taskWaiters.erase taskId).lookup other = _
      rw [AList.lookup_erase_ne kept, found]
    started := fun _ _ => rfl
    asrStreams := fun _ _ => rfl
    taskReplies := fun _ _ => rfl }

theorem spares_sendTaskResult {waiter : ℕ} {result : TaskWaitResult} {answer}
    (own : NotNewer state.history connection (waiterPlacement state.history waiter))
    (ran : State.exec connection fresh state (.sendTaskResult waiter result) =
      some (after, answer)) : Spares connection state after := by
  obtain ⟨core, performed, rfl⟩ := exec_cases ran
  obtain ⟨rfl, -⟩ := Prod.mk.inj (Option.some.inj performed)
  refine .of_unchanged rfl (fun _ _ => rfl) (fun _ _ => rfl) ?_
  intro other newer
  have kept : other ≠ waiter := by
    rintro rfl
    exact own.not_newer newer
  exact Function.update_of_ne kept ..

theorem spares_sendStarted {sessionId : SessionId} {result : Except BridgeError Unit} {answer}
    (own : NotNewer state.history connection (state.history.sessionPlacement sessionId))
    (ran : State.exec connection fresh state (.sendStarted sessionId result) =
      some (after, answer)) : Spares connection state after := by
  obtain ⟨core, performed, rfl⟩ := exec_cases ran
  obtain ⟨rfl, -⟩ := Prod.mk.inj (Option.some.inj performed)
  refine .of_unchanged rfl ?_ (fun _ _ => rfl) (fun _ _ => rfl)
  intro other newer
  have kept : other ≠ sessionId := by
    rintro rfl
    exact own.not_newer newer
  exact Function.update_of_ne kept ..

theorem spares_sendEvent {sessionId : SessionId} {event : BridgeAsrEvent} {answer}
    (own : NotNewer state.history connection (state.history.sessionPlacement sessionId))
    (ran : State.exec connection fresh state (.asr sessionId (.sendEvent event)) =
      some (after, answer)) : Spares connection state after := by
  obtain ⟨core, performed, rfl⟩ := exec_cases ran
  obtain ⟨_, _, same⟩ := Option.map_eq_some_iff.mp performed
  obtain ⟨rfl, -⟩ := Prod.mk.inj same
  refine .of_unchanged rfl (fun _ _ => rfl) ?_ (fun _ _ => rfl)
  intro other newer
  have kept : other ≠ sessionId := by
    rintro rfl
    exact own.not_newer newer
  exact Function.update_of_ne kept ..

/-! ## The teardown, step by step -/

variable (config : GatewayConfig)

def reconnect : Contract (system config) where
  allowed connection name action before _ := TeardownFindsOwn connection name before action
  enters _ _ _ := True
  occurs _ _ := True
  inv _ (state : State) := RoutesOwn state.registry
  rely _ (before after : State) := before.history.Extends after.history
  pre _ _ _ := True
  guar := TeardownSpares
  rely_refl := extends_refl
  rely_trans := @extends_trans

/-- A route the teardown took out of the map was not placed on a newer registration. -/
def OldRoute (connection : ℕ) (state : State) (entry : SessionId × SessionRoute) : Prop :=
  RouteOwns entry.1 entry.2 ∧
    NotNewer state.history connection (state.history.sessionPlacement entry.1)

def OldRoutes (connection : ℕ) (impacted : List (SessionId × SessionRoute)) (state : State) :
    Prop :=
  ∀ entry ∈ impacted, OldRoute connection state entry

variable {config} {agentId : String} {name : Procedure}

private theorem stable_trivial : (reconnect config).Stable connection fun _ => True :=
  fun _ _ _ _ _ _ _ => trivial

private theorem stable_oldRoutes (impacted : List (SessionId × SessionRoute)) :
    (reconnect config).Stable connection (OldRoutes connection impacted) := by
  intro size state later _ old grown _ entry member
  obtain ⟨owns, notNewer⟩ := old entry member
  exact ⟨owns, notNewer.later grown fun _ => grown.sessionPlacement⟩

private theorem stable_oldWaiter (waiter : ℕ) :
    (reconnect config).Stable connection fun state : State =>
      NotNewer state.history connection (waiterPlacement state.history waiter) :=
  fun _ _ _ _ notNewer grown _ => notNewer.later grown fun _ => waiterPlacement_later grown

private theorem oldRoutes_exec {impacted : List (SessionId × SessionRoute)} {action : Action}
    {answer : action.Answer} (old : OldRoutes connection impacted state)
    (ran : State.exec connection fresh state action = some (after, answer)) :
    OldRoutes connection impacted after := by
  intro entry member
  obtain ⟨owns, notNewer⟩ := old entry member
  exact ⟨owns, notNewer.later (extends_exec ran) fun _ => (extends_exec ran).sessionPlacement⟩

/-- Telling the client side of an old route spares what is newer. -/
private theorem tellSession_spares {impacted : List (SessionId × SessionRoute)}
    {entry : SessionId × SessionRoute} (member : entry ∈ impacted) (startError : BridgeError)
    (events : List BridgeAsrEvent) :
    (reconnect config).Triple connection name (OldRoutes connection impacted)
      (tellSession entry.2 startError events) fun _ => OldRoutes connection impacted := by
  have stable : (reconnect config).Stable connection (OldRoutes connection impacted) :=
    stable_oldRoutes impacted
  refine .assume (fun _ _ _ _ old => (old entry member).1) ?_
  rintro ⟨owned, own⟩
  unfold tellSession
  cases pending : entry.2.startedTx with
  | some startedTx =>
    obtain rfl : startedTx = entry.1 := own startedTx pending
    refine .perform stable (fun _ => stable) ?_
    intro size state after answer _ _ old _ ran
    exact ⟨fun _ => spares_sendStarted (old entry member).2 ran, fun _ =>
      oldRoutes_exec old (ran_exec ran)⟩
  | none =>
    have told (event : BridgeAsrEvent) : (reconnect config).Triple connection name
        (OldRoutes connection impacted) (perform (.asr entry.2.eventTx (.sendEvent event)))
        fun _ => OldRoutes connection impacted := by
      rw [owned]
      refine .perform stable (fun _ => stable) ?_
      intro size state after answer _ _ old _ ran
      exact ⟨fun _ => spares_sendEvent (old entry member).2 ran, fun _ =>
        oldRoutes_exec old (ran_exec ran)⟩
    exact .forEach stable fun event _ =>
      .bind (told event) fun _ => .done stable fun _ _ _ _ old => old

/-- Resolving the waiter of an orphaned task spares what is newer. -/
private theorem resolveTaskWaiter_spares (taskId : String)
    (result : TaskWaitResult) :
    (reconnect config).Triple connection (.agentTeardown agentId) (fun _ => True)
      (resolveTaskWaiter taskId result) fun _ _ => True := by
  let Old (answer : Option ℕ) (state : State) : Prop := ∀ waiter ∈ answer,
    NotNewer state.history connection (waiterPlacement state.history waiter)
  have stable (answer : Option ℕ) : (reconnect config).Stable connection (Old answer) :=
    fun size state later bound old grown inv waiter member =>
      stable_oldWaiter waiter size state later bound (old waiter member) grown inv
  have taken : (reconnect config).Triple connection (.agentTeardown agentId) (fun _ => True)
      (locked (.takeTaskWaiter taskId)) Old := by
    refine .perform stable_trivial stable ?_
    intro size state after answer _ _ _ allowed ran
    refine ⟨fun _ => spares_takeTaskWaiter allowed ran, fun _ waiter member => ?_⟩
    obtain rfl := registry_answer (ran_exec ran)
    have grown := extends_exec (ran_exec ran)
    exact (allowed (Option.mem_def.mp member)).later grown fun _ => waiterPlacement_later grown
  refine .bind taken fun answer => ?_
  cases answer with
  | none => exact .done (stable none) fun _ _ _ _ _ => trivial
  | some waiter =>
    refine .perform (stable (some waiter)) (fun _ => stable_trivial) ?_
    intro size state after answer _ _ old _ ran
    exact ⟨fun _ => spares_sendTaskResult (old waiter rfl) ran, fun _ => trivial⟩

private theorem finishAgentRemoval_spares (orphanedSessions : List (SessionId × SessionRoute))
    (orphanedTasks : List String) :
    (reconnect config).Triple connection (.agentTeardown agentId)
      (OldRoutes connection orphanedSessions)
      (finishAgentRemoval orphanedSessions orphanedTasks) fun _ _ => True := by
  have stable : (reconnect config).Stable connection (OldRoutes connection orphanedSessions) :=
    stable_oldRoutes orphanedSessions
  have sessions : (reconnect config).Triple connection (.agentTeardown agentId)
      (OldRoutes connection orphanedSessions) (Code.each orphanedSessions tellOrphanedSession)
      fun _ => OldRoutes connection orphanedSessions :=
    .forEach stable fun _ member => tellSession_spares member _ _
  have tasks : (reconnect config).Triple connection (.agentTeardown agentId) (fun _ => True)
      (Code.each orphanedTasks tellOrphanedTask) fun _ _ => True :=
    .forEach stable_trivial fun taskId _ => resolveTaskWaiter_spares taskId _
  exact .bind sessions fun _ =>
    tasks.consequence (fun _ _ _ _ _ => trivial) fun _ _ _ _ _ _ => trivial

/-- Every action of the teardown spares what is newer than the connection. -/
private theorem agentTeardown_spares :
    (reconnect config).Triple connection (.agentTeardown agentId) (fun _ => True)
      (agentTeardown agentId) fun _ _ => True := by
  have removed : (reconnect config).Triple connection (.agentTeardown agentId) (fun _ => True)
      (locked (.removeOrphanedSessions agentId)) (OldRoutes connection) := by
    refine .perform stable_trivial (fun impacted => stable_oldRoutes impacted) ?_
    intro size state after answer _ inv _ allowed ran
    refine ⟨fun _ => spares_removeOrphanedSessions allowed ran, fun _ => ?_⟩
    obtain rfl := registry_answer (ran_exec ran)
    refine oldRoutes_exec ?_ (ran_exec ran)
    rintro ⟨sessionId, route⟩ member
    obtain ⟨found, same⟩ := mem_removeOrphanedSessions.mp member
    exact ⟨inv _ _ found, allowed found same⟩
  have unregistered (impacted : List (SessionId × SessionRoute)) :
      (reconnect config).Triple connection (.agentTeardown agentId) (OldRoutes connection impacted)
        (locked (.deviceUnregisterAgent agentId)) fun _ => OldRoutes connection impacted := by
    refine .perform (stable_oldRoutes impacted) (fun _ => stable_oldRoutes impacted) ?_
    intro size state after answer _ _ old allowed ran
    exact ⟨fun _ => spares_deviceUnregisterAgent allowed.1 allowed.2 ran, fun _ =>
      oldRoutes_exec old (ran_exec ran)⟩
  refine .bind (.bind removed fun impacted => .bind (unregistered impacted)
    fun orphaned => finishAgentRemoval_spares impacted orphaned) fun _ => ?_
  refine .keep stable_trivial ?_ fun _ => .keep stable_trivial ?_ fun _ =>
    .done stable_trivial fun _ _ _ _ _ => trivial
  · intro size state after answer _ _ _ _ ran
    obtain ⟨core, performed, rfl⟩ := exec_cases (ran_exec ran)
    obtain ⟨inbox, rfl, _⟩ := performAgent_cases
      (show State.performAgent state connection .joinWriter = _ from performed)
    exact ⟨fun _ => .of_unchanged rfl (fun _ _ => rfl) (fun _ _ => rfl) fun _ _ => rfl, fun _ => trivial⟩
  · intro size state after answer _ _ _ _ ran
    obtain ⟨core, performed, rfl⟩ := exec_cases (ran_exec ran)
    obtain ⟨rfl, -⟩ := Prod.mk.inj (Option.some.inj performed)
    exact ⟨fun _ => .of_unchanged rfl (fun _ _ => rfl) (fun _ _ => rfl) fun _ _ => rfl, fun _ => trivial⟩

variable (config) in
private theorem reconnect_valid : (reconnect config).Valid where
  pre_stable _ _ _ _ := trivial
  body {connection name size state} bound inv _ _ := by
    by_cases teardown : ∃ agentId, name = .agentTeardown agentId
    · obtain ⟨agentId, rfl⟩ := teardown
      refine (agentTeardown_spares size state bound inv trivial).mono bound ?_
      intro exit _ _ _ _ _
      cases exit <;> trivial
    · refine .free (fun _ _ _ found => absurd found teardown) ?_
      intro exit _
      cases exit <;> trivial
  action _ inv _ _ ran :=
    ⟨RoutesOwn.exec inv (ran_exec ran), fun _ _ _ => extends_exec (ran_exec ran), fun _ _ _ => trivial⟩
  event inv _ occurred := by
    have undisturbed := occur_undisturbed occurred
    refine ⟨RoutesOwn.agree inv undisturbed.registry, fun _ _ => ?_, fun _ _ _ => trivial⟩
    change History.Extends _ _
    rw [undisturbed.history]
    exact .refl _

/-- Along every schedule in which the locked sections of the teardowns find nothing of a newer
registration, the teardowns spare the newer registrations with their sessions and tasks. -/
theorem spares_along {schedule : List (Choice (system config))}
    (own : World.Along (World.OnAction TeardownFindsOwn) (initial config) schedule) :
    World.Along (World.OnEffect TeardownSpares) (initial config) schedule := by
  have good : (reconnect config).Good (initial config) :=
    ⟨routesOwn_empty, fun _ _ found => nomatch found⟩
  refine good.along (reconnect_valid config) (own.imp fun world choice allowed =>
    ⟨allowed.effect, ?_, ?_⟩)
  · exact .always (fun _ _ _ => trivial) world choice
  · exact .always (fun _ _ => trivial) world choice

/-! ## Registrations in time -/

/-- The connection has registered the agent id, and no connection has registered it later. -/
def Newest (history : History) (connection : ℕ) (agentId : String) : Prop :=
  ∃ stamp, history.registration connection = some (agentId, stamp) ∧
    ∀ other later, history.registration other = some (agentId, later) → later ≤ stamp

/-- A teardown comes through the two sections that remove what is under the agent id while its
connection has the newest registration of the id. When it takes the waiter of a task id, the last
request that subscribed for this task id was not placed on a newer registration. -/
def TornDownFirst (connection : ℕ) (name : Procedure) (state : State) (action : Action) : Prop :=
  match name, action with
  | .agentTeardown _, .registry (.removeOrphanedSessions agentId) =>
      Newest state.history connection agentId
  | .agentTeardown _, .registry (.deviceUnregisterAgent agentId) =>
      Newest state.history connection agentId
  | .agentTeardown _, .registry (.takeTaskWaiter taskId) =>
      ∀ waiter, LastWaiter state.history taskId waiter →
        NotNewer state.history connection (waiterPlacement state.history waiter)
  | _, _ => True

/-- What was placed on a registration of the id is not newer than the newest one. -/
theorem Newest.notNewer {history : History} {placement : Option ℕ}
    (newest : Newest history connection agentId) (placed : PlacedOn history agentId placement) :
    NotNewer history connection placement := by
  obtain ⟨stamp, registered, newest⟩ := newest
  obtain ⟨other, member, later, known⟩ := placed
  refine ⟨other, member, _, _, registered, known, fun newer => ?_⟩
  exact absurd newer.2 (Nat.not_lt.mpr (newest other later known))

theorem TornDownFirst.findsOwn {size : ℕ} {action : Action} (known : PlacementsKnown state)
    (owned : SessionsOwned size state) (first : TornDownFirst connection name state action) :
    TeardownFindsOwn connection name state action := by
  cases name with
  | agentTeardown own =>
    cases action with
    | registry section_ =>
      cases section_ with
      | removeOrphanedSessions agentId =>
        intro sessionId route found same
        exact Newest.notNewer first (same ▸ known.sessions found)
      | deviceUnregisterAgent agentId =>
        refine ⟨fun {agent} found => ?_, fun {taskId route} found same => ?_⟩
        · obtain ⟨-, stamp, registered⟩ := owned.records agentId agent found
          exact Newest.notNewer first ⟨agent.commandTx, rfl, stamp, registered⟩
        · exact Newest.notNewer first (same ▸ known.tasks found)
      | takeTaskWaiter taskId =>
        intro waiter found
        exact first waiter (known.last found)
      | _ => trivial
    | _ => trivial
  | _ => trivial

/-- Along every schedule in which the teardowns remove what is under their agent id before it is
registered again, the teardowns spare the newer registrations with their sessions and tasks. -/
theorem teardown_spares_newer (config : GatewayConfig)
    (schedule : List (Choice (system config)))
    (inTime : World.Along (World.OnAction TornDownFirst) (initial config) schedule) :
    World.Along (World.OnEffect TeardownSpares) (initial config) schedule := by
  have known : World.Along (fun world _ => PlacementsKnown (stateIn world) ∧
      ∃ size, SessionsOwned size (stateIn world)) (initial config) schedule :=
    .of_reached (fun ran _ => ⟨placements_reached ran, _, (sessions_reached ran).inv⟩) schedule
  refine spares_along ((known.and inTime).imp ?_)
  rintro world choice ⟨⟨known, size, owned⟩, first⟩
  exact first.imp fun _ _ _ first => TornDownFirst.findsOwn known owned first

open Scenario in
/-- A connection with a playback closes and is removed, and another one registers the same agent id
and gets a playback of its own while the first one tells the request that waits for its task. -/
def reconnects : List (Choice (system Scenario.config)) :=
  registers 0 speaker ++ routesPlayback 1 ++ [occurs (.agentInput 0 (.frame .close))] ++
    turns 5 0 ++ registers 2 speaker ++ turns 1 0 ++
    ([occurs .connectControl, controlAsks 3 (.playAudio { playback with taskId := some "next" })] ++
      turns 7 3) ++ turns 1 0

open Scenario in
theorem teardown_spares_newer_reconnected :
    (∃ last : World (system Scenario.config),
      (initial Scenario.config).replay? reconnects = some last ∧
      (stateIn last).registry.deviceRegistry.agents.lookup "device" =
        some (speaker.toRegistered 2) ∧
      (stateIn last).registry.deviceRegistry.tasks.lookup "next" = some ⟨"device"⟩ ∧
      (stateIn last).history.registration 0 = some ("device", 0) ∧
      (stateIn last).history.registration 2 = some ("device", 1)) ∧
    World.Along (World.OnEffect TeardownSpares) (initial Scenario.config) reconnects := by
  refine ⟨⟨_, rfl, rfl, rfl, rfl, rfl⟩, teardown_spares_newer Scenario.config reconnects ?_⟩
  let registration : ℕ → Option (String × ℕ) :=
    Function.update (fun _ => none) 0 (some ("device", 0))
  let waiterTask : ℕ → Option String := Function.update (fun _ => none) 0 (some "task")
  have alone {other later : ℕ} (known : registration other = some ("device", later)) :
      later ≤ 0 := by
    by_cases same : other = 0
    · rw [same] at known
      cases known
      exact le_rfl
    · simp only [registration, Function.update_of_ne same] at known
      cases known
  have first {waiter : ℕ} (subscribed : waiterTask waiter = some "task") : waiter = 0 := by
    by_contra other
    simp only [waiterTask, Function.update_of_ne other] at subscribed
    cases subscribed
  -- everything but the locked sections of the teardown is unconditional
  repeat refine .step True.intro rfl ?_
  refine .step ⟨0, rfl, ?_⟩ rfl ?_
  · exact fun _ _ known => alone known
  refine .step ⟨0, rfl, ?_⟩ rfl ?_
  · exact fun _ _ known => alone known
  repeat refine .step True.intro rfl ?_
  refine .step ?_ rfl ?_
  · intro waiter last
    have subscribed : waiterTask waiter = some "task" := last.1
    rw [first subscribed]
    exact ⟨0, by decide +kernel, ("device", 0), ("device", 0), by decide +kernel,
      by decide +kernel, fun newer => Nat.lt_irrefl _ newer.2⟩
  repeat refine .step True.intro rfl ?_
  exact True.intro

open Scenario in
/-- The older of two connections with one agent id closes, and removes the newer registration. -/
theorem teardown_removes_newer :
    ¬ ∀ (config : GatewayConfig) (schedule : List (Choice (system config))),
      World.Along (World.OnEffect TeardownSpares) (initial config) schedule := by
  intro always
  have along := always Scenario.config
    ((registers 0 speaker ++ registers 1 speaker ++ [occurs (.agentInput 0 (.frame .close))] ++
      turns 4 0) ++ [.task 0])
  obtain ⟨middle, ran⟩ : ∃ middle, (initial Scenario.config).replay?
      (registers 0 speaker ++ registers 1 speaker ++ [occurs (.agentInput 0 (.frame .close))] ++
        turns 4 0) = some middle := ⟨_, rfl⟩
  have effect := along.at ran
  cases ran
  have spares := effect.performed rfl rfl ⟨"device", rfl⟩
  have kept := spares.agents "device" (speaker.toRegistered 1) rfl
    ⟨1, rfl, "device", 0, 1, rfl, rfl, by decide⟩
  exact absurd kept nofun

end SpeechMesh.Soundness
