import SpeechMesh.Soundness.RouteValidity
import SpeechMesh.Soundness.SessionPrograms

/-! # What the routes are placed on

A route only names an agent id. The history knows the connection it was placed on, and in every
schedule this connection has registered that id. The waiter under a task id is the one that was
subscribed for it last.
-/

namespace SpeechMesh.Soundness

open Async Model

/-- Something was placed on a connection that has registered the agent id. -/
def PlacedOn (history : History) (agentId : String) (placement : Option ℕ) : Prop :=
  ∃ connection ∈ placement, ∃ stamp, history.registration connection = some (agentId, stamp)

/-- The connection the route of a task id was placed on. -/
def taskPlacement (history : History) (taskId : String) : Option ℕ :=
  (history.routeRequest taskId).bind history.requestPlacement

/-- The waiter that was subscribed last for the task id. -/
def LastWaiter (history : History) (taskId : String) (waiter : ℕ) : Prop :=
  history.waiterTask waiter = some taskId ∧
    ∀ other, history.waiterTask other = some taskId → other ≤ waiter

structure PlacementsKnown (state : State) : Prop where
  numbered : RequestsNumbered state.history
  waiters : WaitersNamed state
  waiting : ∀ {taskId waiter}, state.registry.taskWaiters.lookup taskId = some waiter →
    ∀ other, state.history.waiterTask other = some taskId → other ≤ waiter
  sessions : ∀ {sessionId route}, state.registry.sessions.lookup sessionId = some route →
    PlacedOn state.history route.agentId (state.history.sessionPlacement sessionId)
  tasks : ∀ {taskId route}, state.registry.deviceRegistry.tasks.lookup taskId = some route →
    PlacedOn state.history route.agentId (taskPlacement state.history taskId)

/-- A task route is placed by a request that was not placed before, on the agent it has selected. -/
def TaskPlaced (index : ℕ) (state : State) : Action → Prop
  | .registry (.registerTask _ agentId) => ∃ number connection,
      state.history.servedNumber index = some number ∧
        state.history.requestPlacement number = none ∧
          state.history.selected index = some connection ∧ Registered state connection agentId
  | _ => True

variable {state after : State} {index fresh number connection : ℕ} {name : Procedure}
  {action : Action} {answer : action.Answer} {agentId : String}

theorem PlacementsKnown.last {taskId : String} {waiter : ℕ} (known : PlacementsKnown state)
    (found : state.registry.taskWaiters.lookup taskId = some waiter) :
    LastWaiter state.history taskId waiter :=
  ⟨known.waiters.stored found, known.waiting found⟩

/-! ## One step -/

theorem PlacedOn.later {before later : History} {placement placement' : Option ℕ}
    (placed : PlacedOn before agentId placement) (grown : before.Extends later)
    (kept : ∀ connection ∈ placement, connection ∈ placement') :
    PlacedOn later agentId placement' := by
  obtain ⟨connection, member, stamp, registered⟩ := placed
  exact ⟨connection, kept connection member, stamp, grown.registration registered⟩

theorem Registered.exec (registered : Registered state connection agentId)
    (ran : State.exec index fresh state action = some (after, answer)) :
    Registered after connection agentId := by
  obtain ⟨stamp, known⟩ := registered
  exact ⟨stamp, (extends_exec ran).registration known⟩

theorem sessions_placed (known : PlacementsKnown state)
    (step : SessionStep index name action state)
    (ran : State.exec index fresh state action = some (after, answer)) {sessionId : SessionId}
    {route : SessionRoute} (found : after.registry.sessions.lookup sessionId = some route) :
    PlacedOn after.history route.agentId (after.history.sessionPlacement sessionId) := by
  have kept {old : SessionRoute}
      (before : state.registry.sessions.lookup sessionId = some old) :
      PlacedOn after.history old.agentId (after.history.sessionPlacement sessionId) :=
    (known.sessions before).later (extends_exec ran) fun _ => (extends_exec ran).sessionPlacement
  rw [registry_exec ran] at found
  cases action with
  | registry section_ =>
    rcases sessions_run section_ sessionId found with
      before | ⟨agentId, rfl, rfl⟩ | ⟨old, _, before, rfl⟩
    · exact kept before
    · obtain ⟨_, _, unclaimed, connection, selected, registered⟩ :=
        step.registers agentId sessionId rfl
      obtain ⟨stamp, registered⟩ := registered.exec ran
      refine ⟨connection, ?_, stamp, registered⟩
      have noted : after.history.sessionPlacement sessionId =
          (state.history.sessionPlacement sessionId).or (state.history.selected index) := by
        rw [history_exec ran]
        exact Function.update_self ..
      rw [noted, unclaimed.placement, Option.none_or, selected]
      rfl
    · have placed := kept before
      exact placed
  | _ => exact kept found

/-- While a task id is routed, no other request is put down for its route. -/
theorem routeRequest_kept {taskId : String} {route : TaskRoute}
    (ran : State.exec index fresh state action = some (after, answer))
    (found : state.registry.deviceRegistry.tasks.lookup taskId = some route) :
    after.history.routeRequest taskId = state.history.routeRequest taskId := by
  rw [history_exec ran]
  by_cases registers : ∃ other agentId, action = .registry (.registerTask other agentId)
  · obtain ⟨other, agentId, rfl⟩ := registers
    have answered := registry_answer ran
    cases answer with
    | error message => rfl
    | ok _ =>
      have free : taskId ≠ other := by
        rintro rfl
        simp [AgentRegistry.run, DeviceRegistry.registerTask, found] at answered
      exact Function.update_of_ne free ..
  · rw [routeRequest_note fun other agentId same => registers ⟨other, agentId, same⟩]

theorem tasks_placed (known : PlacementsKnown state) (placed : TaskPlaced index state action)
    (ran : State.exec index fresh state action = some (after, answer)) {taskId : String}
    {route : TaskRoute}
    (found : after.registry.deviceRegistry.tasks.lookup taskId = some route) :
    PlacedOn after.history route.agentId (taskPlacement after.history taskId) := by
  have kept (before : state.registry.deviceRegistry.tasks.lookup taskId = some route) :
      PlacedOn after.history route.agentId (taskPlacement after.history taskId) := by
    refine (known.tasks before).later (extends_exec ran) fun connection member => ?_
    obtain ⟨number, request, routed⟩ := Option.bind_eq_some_iff.mp member
    exact Option.bind_eq_some_iff.mpr ⟨number, (routeRequest_kept ran before).trans request,
      (extends_exec ran).requestPlacement routed⟩
  rw [registry_exec ran] at found
  cases action with
  | registry section_ =>
    rcases tasks_run section_ taskId found with before | ⟨agentId, rfl, rfl, free⟩
    · exact kept before
    · obtain ⟨number, connection, serves, unplaced, selected, registered⟩ := placed
      obtain ⟨stamp, registered⟩ := registered.exec ran
      refine ⟨connection, ?_, stamp, registered⟩
      have answered := registry_answer ran
      simp only [AgentRegistry.run, DeviceRegistry.registerTask, free] at answered
      subst answered
      refine Option.bind_eq_some_iff.mpr ⟨number, ?_, ?_⟩
      · rw [history_exec ran]
        exact (Function.update_self ..).trans serves
      · rw [history_exec ran]
        simp only [State.note, History.requestPlacementAfter]
        rw [if_pos serves, unplaced, selected]
        rfl
  | _ => exact kept found

theorem waiters_last (known : PlacementsKnown state)
    (ran : State.exec index fresh state action = some (after, answer)) {taskId : String}
    {waiter other : ℕ} (found : after.registry.taskWaiters.lookup taskId = some waiter)
    (subscribed : after.history.waiterTask other = some taskId) : other ≤ waiter := by
  have named := known.waiters.exec ran
  by_cases subscribes : ∃ otherId, action = .registry (.subscribeTaskWaiter otherId)
  · obtain ⟨otherId, rfl⟩ := subscribes
    obtain rfl : answer = state.nextWaiter := registry_answer ran
    have grown : after.nextWaiter = state.nextWaiter + 1 := nextWaiter_exec ran
    have bound : other < after.nextWaiter := by
      by_contra outside
      rw [named.fresh (Nat.not_lt.mp outside)] at subscribed
      cases subscribed
    rw [registry_exec ran] at found
    rcases taskWaiters_run _ taskId found with ⟨before, elsewhere⟩ | ⟨_, rfl⟩
    · have apart : otherId ≠ taskId := by
        rintro rfl
        exact elsewhere rfl
      refine known.waiting before other ?_
      have noted : after.history.waiterTask = Function.update state.history.waiterTask
          state.nextWaiter ((state.history.waiterTask state.nextWaiter).or (some otherId)) := by
        rw [history_exec ran]
        rfl
      by_cases new : other = state.nextWaiter
      · rw [noted, new, Function.update_self, known.waiters.fresh le_rfl] at subscribed
        exact absurd (Option.some.inj subscribed) apart
      · rwa [noted, Function.update_of_ne new] at subscribed
    · omega
  · have noted : after.history.waiterTask = state.history.waiterTask := by
      rw [history_exec ran]
      simp only [State.note]
      unfold History.waiterTaskAfter
      split
      · exact absurd ⟨_, rfl⟩ subscribes
      · rfl
    rw [noted] at subscribed
    rw [registry_exec ran] at found
    cases action with
    | registry section_ =>
      rcases taskWaiters_run section_ taskId found with ⟨before, _⟩ | ⟨rfl, _⟩
      · exact known.waiting before other subscribed
      · exact absurd ⟨_, rfl⟩ subscribes
    | _ => exact known.waiting found other subscribed

theorem PlacementsKnown.exec (known : PlacementsKnown state)
    (step : SessionStep index name action state) (placed : TaskPlaced index state action)
    (ran : State.exec index fresh state action = some (after, answer)) :
    PlacementsKnown after where
  numbered := known.numbered.exec ran
  waiters := known.waiters.exec ran
  waiting := fun found _ subscribed => waiters_last known ran found subscribed
  sessions := sessions_placed known step ran
  tasks := tasks_placed known placed ran

theorem PlacementsKnown.undisturbed (known : PlacementsKnown state)
    (undisturbed : state.Undisturbed after) : PlacementsKnown after where
  numbered := by
    rw [undisturbed.history]
    exact known.numbered
  waiters := known.waiters.undisturbed undisturbed
  waiting := by
    intro taskId waiter found
    rw [undisturbed.registry.taskWaiters] at found
    rw [undisturbed.history]
    exact known.waiting found
  sessions := by
    intro sessionId route found
    rw [undisturbed.registry.sessions] at found
    rw [undisturbed.history]
    exact known.sessions found
  tasks := by
    intro taskId route found
    rw [undisturbed.registry.tasks] at found
    rw [undisturbed.history]
    exact known.tasks found

theorem placementsKnown_initial : PlacementsKnown {} where
  numbered := requestsNumbered_initial
  waiters := waitersNamed_initial
  waiting := fun found => nomatch found
  sessions := fun found => nomatch found
  tasks := fun found => nomatch found

/-! ## The contract -/

/-- What a task knows of its own request, and of all registrations. -/
def PlacementRely (index : ℕ) (before after : State) : Prop :=
  OwnRequest index before after ∧ before.history.Extends after.history

def placements (config : GatewayConfig) : Contract (system config) where
  allowed index name action before _ :=
    (∃ size, SessionsOwned size before) ∧ SessionStep index name action before
  enters _ _ _ := True
  occurs _ _ := True
  inv _ := PlacementsKnown
  rely := PlacementRely
  pre _ _ _ := True
  guar index _ action before _ := TaskPlaced index before action
  rely_refl index state := ⟨.refl index state, .refl state.history⟩
  rely_trans one two := ⟨one.1.trans two.1, one.2.trans two.2⟩

variable {config : GatewayConfig}

/-- The actions that place no task. -/
def PlacesNothing : Action → Prop
  | .registry (.registerTask _ _) => False
  | _ => True

theorem PlacesNothing.placed (nothing : PlacesNothing action) : TaskPlaced index state action := by
  cases action with
  | registry section_ =>
    cases section_ with
    | registerTask taskId agentId => exact nothing.elim
    | _ => trivial
  | _ => trivial

theorem stable_unplaced :
    (placements config).Stable index (ServesOn index number none) :=
  fun _ _ _ _ on rely _ => on.rely rely.1

theorem free_placements {α : Type} {code : Program α} {assertion : State → Prop}
    (nothing : code.Within PlacesNothing fun _ => True) :
    (placements config).Triple index name assertion code fun _ _ => True :=
  fun _ _ _ _ _ => .within nothing (fun _ nothing _ _ _ _ _ _ _ _ => nothing.placed)
    fun _ _ _ _ _ _ => trivial

/-! ## A playback -/

theorem abandonTask_placesNothing (taskId message : String) :
    (abandonTask taskId message).Within PlacesNothing fun _ => True := by
  refine ⟨trivial, fun _ => ⟨trivial, fun waiter => ?_⟩⟩
  cases waiter with
  | none => trivial
  | some waiter => exact ⟨trivial, fun _ => trivial⟩

theorem routePlayAudio_placesNothing (taskId what : String) (message : GatewayToAgentMessage) :
    (routePlayAudio taskId what message).Within PlacesNothing fun _ => True := by
  refine ⟨trivial, fun routed => ?_⟩
  cases routed with
  | none => trivial
  | some agentId =>
    refine ⟨trivial, fun commandTx => ?_⟩
    cases commandTx with
    | none => exact abandonTask_placesNothing ..
    | some commandTx =>
      refine ⟨trivial, fun sent => ?_⟩
      cases sent with
      | true => trivial
      | false => exact abandonTask_placesNothing ..

theorem playChunks_placesNothing (base64 : Base64) (taskId : String) (taskWaiter : ℕ)
    (audio : List Bytes) :
    (playChunks base64 taskId taskWaiter audio).Within PlacesNothing fun _ => True := by
  have sends : (sendChunks base64 taskId audio).Within PlacesNothing fun _ => True := by
    induction audio with
    | nil => trivial
    | cons chunk rest ih =>
      refine .bind (routePlayAudio_placesNothing ..) fun sent _ => ?_
      cases sent with
      | ok _ => exact ih
      | error _ => trivial
  refine .bind sends fun sent _ => ?_
  cases sent with
  | error _ => trivial
  | ok _ =>
    refine .bind (routePlayAudio_placesNothing ..) fun finished _ => ?_
    cases finished with
    | error _ => trivial
    | ok _ =>
      refine ⟨trivial, fun answer => ?_⟩
      cases answer with
      | value result => cases result <;> trivial
      | dropped => trivial
      | elapsed => exact ⟨trivial, fun _ => trivial⟩

/-- An agent is selected for a request that is not placed yet. -/
def HasChosen (index number : ℕ) (agent : RegisteredAgent) (state : State) : Prop :=
  Selected index number agent.commandTx state ∧ Registered state agent.commandTx agent.agentId

theorem stable_hasChosen (agent : RegisteredAgent) :
    (placements config).Stable index (HasChosen index number agent) := by
  rintro _ _ _ _ chosen rely _
  obtain ⟨⟨on, selected⟩, stamp, registered⟩ := chosen
  exact ⟨⟨on.rely rely.1, rely.1.selected.trans selected⟩, stamp, rely.2.registration registered⟩

theorem selectSpeakerAgent_placements (deviceId agentId : Option String) :
    (placements config).Triple index name (ServesOn index number none)
      (locked (.selectSpeakerAgent deviceId agentId)) fun (found : Option RegisteredAgent) state =>
        ∀ agent ∈ found, HasChosen index number agent state := by
  refine .perform stable_unplaced (fun _ size state later bound chosen rely inv agent member =>
    stable_hasChosen agent size state later bound (chosen agent member) rely inv) ?_
  intro size state after answer _ _ on allowed ran
  obtain ⟨⟨size, owned⟩, -⟩ := allowed
  refine ⟨trivial, fun _ agent member => ?_⟩
  obtain rfl : answer = some agent := member
  have same : after.history.serving = state.history.serving ∧
      after.history.requestPlacement = state.history.requestPlacement := by
    rw [history_exec (ran_exec ran)]
    exact ⟨rfl, rfl⟩
  refine ⟨⟨⟨?_, by rw [same.2, on.placed]⟩, ?_⟩, ?_⟩
  · simpa only [History.servedNumber, same.1] using on.serves
  · rw [history_exec (ran_exec ran)]
    exact Function.update_self ..
  · have found : state.registry.deviceRegistry.selectSpeakerAgent deviceId agentId = some agent :=
      (registry_answer (ran_exec ran)).symm
    obtain ⟨agentId, present⟩ := DeviceRegistry.findAgent_mem found
    obtain ⟨rfl, registered⟩ := owned.records agentId agent present
    exact registered.exec (ran_exec ran)

-- comparing the programs below must not unfold the blanks that are cut off
attribute [local irreducible] trim in
theorem routePlayAudioStart_placements (request : PlayAudioRouteRequest) :
    (placements config).Triple index name (ServesOn index number none)
      (routePlayAudioStart request) fun _ _ => True := by
  simp only [routePlayAudioStart]
  split_ifs
  · exact free_placements trivial
  · refine .bind (selectSpeakerAgent_placements _ _) fun found => ?_
    cases found with
    | none => exact free_placements trivial
    | some agent =>
      refine .consequence ?_ (fun _ _ _ _ chosen => chosen agent rfl) fun _ _ _ _ _ holds => holds
      have registered : (placements config).Triple index name (HasChosen index number agent)
          (locked (.registerTask (trim request.taskId) agent.agentId)) fun _ _ => True := by
        refine .perform (stable_hasChosen agent) (fun _ _ _ _ _ _ _ _ => trivial) ?_
        intro size state after answer _ _ chosen _ _
        obtain ⟨⟨on, selected⟩, registered⟩ := chosen
        exact ⟨⟨number, agent.commandTx, on.serves, on.placed, selected, registered⟩,
          fun _ => trivial⟩
      refine .bind registered fun registered => ?_
      cases registered with
      | error message => exact free_placements trivial
      | ok _ =>
        refine free_placements ⟨trivial, fun sent => ?_⟩
        cases sent with
        | true => trivial
        | false => exact ⟨trivial, fun _ => trivial⟩

attribute [local irreducible] trim in
theorem playAudioTask_placements (payload : ControlPlayAudioPayload) (taskId : String)
    (bytes : Bytes) :
    (placements config).Triple index name (ServesOn index number none)
      (playAudioTask config payload taskId bytes) fun _ _ => True := by
  have subscribed : (placements config).Triple index name (ServesOn index number none)
      (locked (.subscribeTaskWaiter taskId)) fun _ => ServesOn index number none := by
    refine .perform stable_unplaced (fun _ => stable_unplaced) ?_
    intro size state after answer _ _ on _ ran
    have minor : Minor (.registry (.subscribeTaskWaiter taskId)) := trivial
    exact ⟨trivial, fun _ => on.minor minor (ran_exec ran)⟩
  refine .bind subscribed fun taskWaiter => ?_
  refine .bind (routePlayAudioStart_placements _) fun started => ?_
  cases started with
  | error error => exact free_placements ⟨trivial, fun _ => trivial⟩
  | ok agentId =>
    refine free_placements (.bind (playChunks_placesNothing ..) fun played _ => ?_)
    cases played with
    | error error => trivial
    | ok _ => exact ⟨trivial, fun sent => by cases sent <;> trivial⟩

/-- A call has a number that was not placed yet. -/
theorem called_placements (taskId : String) :
    (placements config).Triple index name (fun _ => True)
      (perform (.mark (.playAudioCalled taskId)))
      fun _ state => ∃ number, ServesOn index number none state := by
  refine .perform (fun _ _ _ _ _ _ _ => trivial) (fun _ _ _ _ _ called rely _ => ?_) ?_
  · obtain ⟨number, on⟩ := called
    exact ⟨number, on.rely rely.1⟩
  · intro size state after answer _ inv _ _ ran
    refine ⟨trivial, fun _ => ⟨state.history.requests, ?_, ?_⟩⟩
    · rw [history_exec (ran_exec ran)]
      simp only [State.note, History.servedNumber, History.servingAfter, Function.update_self,
        Option.map_some]
    · rw [history_exec (ran_exec ran)]
      exact PlacementsKnown.numbered inv |>.unplaced le_rfl

theorem playAudio_placements (payload : ControlPlayAudioPayload) :
    (placements config).Triple index name (fun _ => True) (playAudio config payload)
      fun _ _ => True := by
  have named : (controlTaskId payload).Within PlacesNothing fun _ => True := by
    simp only [controlTaskId]
    cases payload.givenTaskId with
    | some taskId => trivial
    | none => exact ⟨trivial, fun _ => trivial⟩
  have handled : (placements config).Triple index name (fun _ => True)
      (handleControlPlayAudio config payload) fun _ _ => True := by
    refine .bind (free_placements named) fun taskId => .bind (called_placements taskId) fun _ => ?_
    refine .exists fun number => ?_
    cases payload.audio config.base64 with
    | error error => exact free_placements trivial
    | ok bytes => exact playAudioTask_placements payload taskId bytes
  exact .bind handled fun result => free_placements ⟨trivial, fun _ => trivial⟩

/-! ## All runs -/

/-- Nothing but a playback places a task. -/
theorem role_taskPlaced {role : Role} (other : role ≠ .controlPlaying)
    (permitted : role.Permits index action) : TaskPlaced index state action := by
  cases action with
  | registry section_ =>
    cases section_ with
    | registerTask taskId agentId =>
      cases role with
      | controlPlaying => exact absurd rfl other
      | _ => exact permitted.elim
    | _ => trivial
  | _ => trivial

theorem placements_valid : (placements config).Valid where
  pre_stable _ _ _ _ := trivial
  body {index name size state} bound inv _ _ := by
    by_cases playing : ∃ payload, name = .playAudio payload
    · obtain ⟨payload, rfl⟩ := playing
      refine (playAudio_placements payload size state bound inv trivial).mono bound ?_
      intro exit _ _ _ _ _
      cases exit <;> trivial
    · have other : name.role ≠ .controlPlaying := by
        cases name with
        | playAudio payload => exact absurd ⟨payload, rfl⟩ playing
        | _ => nofun
      refine .within (body_plays config index name) ?_ fun exit _ _ _ _ _ => ?_
      · exact fun _ permitted _ _ _ _ _ _ _ _ => role_taskPlaced other permitted
      · cases exit <;> trivial
  action _ inv allowed guar ran :=
    ⟨PlacementsKnown.exec inv allowed.2 guar (ran_exec ran), fun _ other _ =>
      ⟨ownRequest_exec (PlacementsKnown.numbered inv) other (ran_exec ran),
        extends_exec (ran_exec ran)⟩, fun _ _ _ => trivial⟩
  event inv _ occurred := by
    have undisturbed := occur_undisturbed occurred
    refine ⟨PlacementsKnown.undisturbed inv undisturbed, fun _ _ =>
      ⟨ownRequest_undisturbed undisturbed, ?_⟩, fun _ _ _ => trivial⟩
    rw [undisturbed.history]
    exact .refl _

theorem sessions_reached {schedule : List (Choice (system config))}
    {world : World (system config)} (ran : (initial config).replay? schedule = some world) :
    (sessions config).Good world :=
  sessions_initial.replay sessions_valid (sessions_meet config schedule) ran

/-- Every step from a reachable world is one that the contract is about. -/
theorem placements_meet (config : GatewayConfig) (schedule : List (Choice (system config))) :
    World.Along (placements config).Meets (initial config) schedule := by
  refine .of_reached (fun {_ world} ran choice => ⟨?_, ?_, ?_⟩) schedule
  · have good := sessions_reached ran
    have meets : World.Along (sessions config).Meets world [choice] :=
      .always (fun _ _ => sessions_unconditional.meets _ _) _ _
    exact (good.along sessions_valid meets).1.imp fun _ _ _ _ step => ⟨⟨_, good.inv⟩, step⟩
  · exact .always (fun _ _ _ => trivial) world choice
  · exact .always (fun _ _ => trivial) world choice

/-- In every reachable world the placements are known. -/
theorem placements_reached {schedule : List (Choice (system config))}
    {world : World (system config)} (ran : (initial config).replay? schedule = some world) :
    PlacementsKnown world.state :=
  have start : (placements config).Good (initial config) :=
    ⟨placementsKnown_initial, fun _ _ found => nomatch found⟩
  (start.replay placements_valid (placements_meet config schedule) ran).inv

end SpeechMesh.Soundness
