import SpeechMesh.Soundness.RegistryMaps
import SpeechMesh.Soundness.Requests
import SpeechMesh.Soundness.Scenario

/-! # The routes of the gateway

Selecting an agent, placing a route on it and sending to it are separate sections, so that the agent
may be gone, or another one may have its id, when the next section runs. The routes are valid as far
as this does not happen.
-/

namespace SpeechMesh.Soundness

open Async Model

/-- Every route names a registered agent. -/
structure RoutesNamed (registry : AgentRegistry) : Prop where
  tasks : ∀ {taskId route}, registry.deviceRegistry.tasks.lookup taskId = some route →
    (registry.deviceRegistry.agents.lookup route.agentId).isSome
  sessions : ∀ {sessionId route}, registry.sessions.lookup sessionId = some route →
    (registry.deviceRegistry.agents.lookup route.agentId).isSome

/-- Every route names a registered agent, and the playback messages of one request are on the
command channel of one connection. -/
structure RoutesValid (state : State) : Prop where
  named : RoutesNamed state.registry
  one : ∀ {connection other first second}, first ∈ state.commanded connection →
    second ∈ state.commanded other → first.message.taskId?.isSome → second.message.taskId?.isSome →
    first.origin = second.origin → connection = other

/-- A route is placed on an agent that is registered, an agent that is removed has no session, and
the channel a request looks up is the one it was placed on. -/
def RoutesPlaced (index : ℕ) (_ : Procedure) (state : State) : Action → Prop
  | .registry (.registerTask taskId agentId) =>
      state.registry.deviceRegistry.tasks.lookup taskId = none →
        (state.registry.deviceRegistry.agents.lookup agentId).isSome
  | .registry (.registerSession agentId _) =>
      (state.registry.deviceRegistry.agents.lookup agentId).isSome
  | .registry (.deviceUnregisterAgent agentId) =>
      ∀ {sessionId route}, state.registry.sessions.lookup sessionId = some route →
        route.agentId ≠ agentId
  | .registry (.agentCommandTx agentId) =>
      ∀ {connection number}, state.registry.deviceRegistry.agentCommandTx agentId = some connection →
        state.history.servedNumber index = some number →
          state.history.requestPlacement number = some connection
  | _ => True

/-! ## The maps -/

variable {registry : AgentRegistry} {waiter index fresh : ℕ} {state after : State} {name : Procedure}

theorem RoutesNamed.run (named : RoutesNamed state.registry) {action : RegistryAction}
    (placed : RoutesPlaced index name state (.registry action)) :
    RoutesNamed (state.registry.run waiter action).1 := by
  constructor
  · intro taskId route found
    by_cases removed : action = .deviceUnregisterAgent route.agentId
    · subst removed
      simp only [AgentRegistry.run, DeviceRegistry.unregisterAgent,
        DeviceRegistry.lookup_removeAgentTasks, Option.filter_eq_some_iff] at found
      simp at found
    · refine agents_kept action removed ?_
      rcases tasks_run action taskId found with before | ⟨agentId, rfl, rfl, free⟩
      · exact named.tasks before
      · exact placed free
  · intro sessionId route found
    by_cases removed : action = .deviceUnregisterAgent route.agentId
    · subst removed
      exact absurd rfl (placed found)
    · refine agents_kept action removed ?_
      rcases sessions_run action sessionId found with
        before | ⟨agentId, rfl, rfl⟩ | ⟨old, rfl, before, rfl⟩
      · exact named.sessions before
      · exact placed
      · have known := named.sessions before
        exact known

theorem RoutesNamed.exec (named : RoutesNamed state.registry) {action : Action}
    {answer : action.Answer} (placed : RoutesPlaced index name state action)
    (ran : State.exec index fresh state action = some (after, answer)) :
    RoutesNamed after.registry := by
  rw [registry_exec ran]
  cases action with
  | registry action => exact named.run placed
  | _ => exact named

theorem RoutesNamed.agree {later : AgentRegistry} (named : RoutesNamed registry)
    (agree : registry.Agree later) : RoutesNamed later := by
  constructor
  · intro taskId route found
    rw [agree.tasks] at found
    rw [agree.agents]
    exact named.tasks found
  · intro sessionId route found
    rw [agree.sessions] at found
    rw [agree.agents]
    exact named.sessions found

theorem routesNamed_initial : RoutesNamed default where
  tasks := by
    intro taskId route found
    simp [default] at found
  sessions := by
    intro sessionId route found
    simp [default] at found

/-! ## The command channels -/

/-- A playback message is on the channel that its request was placed on. -/
def PlaybackPlaced (state : State) : Prop :=
  ∀ {connection stamped}, stamped ∈ state.commanded connection → stamped.message.taskId?.isSome →
    ∃ number, stamped.origin = some number ∧ state.history.requestPlacement number = some connection

/-- What a task sends of a playback goes to the connection its request was placed on. -/
def SendsPlaced (index : ℕ) (state : State) : Action → Prop
  | .sendAgent connection message => message.taskId?.isSome → ∃ number,
      state.history.servedNumber index = some number ∧
        state.history.requestPlacement number = some connection
  | _ => True

theorem PlaybackPlaced.exec (playback : PlaybackPlaced state) {action : Action}
    {answer : action.Answer} (sends : SendsPlaced index state action)
    (ran : State.exec index fresh state action = some (after, answer)) : PlaybackPlaced after := by
  have kept {connection : ℕ} {stamped : Stamped GatewayToAgentMessage}
      (before : stamped ∈ state.commanded connection) (concerns : stamped.message.taskId?.isSome) :
      ∃ number, stamped.origin = some number ∧
        after.history.requestPlacement number = some connection := by
    obtain ⟨number, origin, placed⟩ := playback before concerns
    exact ⟨number, origin, (extends_exec ran).requestPlacement placed⟩
  intro connection stamped queued concerns
  rw [commanded_exec ran] at queued
  cases action with
  | sendAgent target message =>
    simp only [State.commandedAfter] at queued
    by_cases here : connection = target
    · subst here
      rw [Function.update_self] at queued
      rcases List.mem_append.mp queued with before | new
      · exact kept before concerns
      · split_ifs at new with accepted
        · obtain rfl := List.mem_singleton.mp new
          obtain ⟨number, serves, placed⟩ := sends concerns
          refine ⟨number, ?_, (extends_exec ran).requestPlacement placed⟩
          simp only [History.servedNumber] at serves
          simp only [State.origin, serves, Option.some_or]
        · cases new
    · rw [Function.update_of_ne here] at queued
      exact kept queued concerns
  | _ => exact kept queued concerns

theorem PlaybackPlaced.undisturbed (playback : PlaybackPlaced state)
    (commanded : after.commanded = state.commanded) (undisturbed : state.Undisturbed after) :
    PlaybackPlaced after := by
  intro connection stamped queued concerns
  rw [commanded] at queued
  rw [undisturbed.history]
  exact playback queued concerns

/-! ## The contract -/

structure RoutingInvariant (state : State) : Prop where
  numbered : RequestsNumbered state.history
  named : RoutesNamed state.registry
  playback : PlaybackPlaced state

def routing (config : GatewayConfig) : Contract (system config) where
  allowed index name action before _ := RoutesPlaced index name before action
  enters _ _ _ := True
  occurs _ _ := True
  inv _ := RoutingInvariant
  rely := OwnRequest
  pre _ _ _ := True
  guar index _ action before _ := SendsPlaced index before action
  rely_refl := .refl
  rely_trans := .trans

/-! ## A playback, step by step -/

variable {config : GatewayConfig} {number connection : ℕ}

/-- The task serves the request, which is on the given connection or not placed yet. -/
structure ServesOn (index number : ℕ) (placement : Option ℕ) (state : State) : Prop where
  serves : state.history.servedNumber index = some number
  placed : state.history.requestPlacement number = placement

theorem ServesOn.rely {placement : Option ℕ} (on : ServesOn index number placement state)
    (own : OwnRequest index state after) : ServesOn index number placement after :=
  ⟨own.servedNumber.trans on.serves, (own.placement on.serves).trans on.placed⟩

theorem stable_servesOn (placement : Option ℕ) :
    (routing config).Stable index (ServesOn index number placement) :=
  fun _ _ _ _ on own _ => on.rely own

/-- The actions of a request that neither place nor send anything. -/
def Minor : Action → Prop
  | .registry (.registerTask _ _) | .registry (.selectSpeakerAgent _ _) | .sendAgent _ _
  | .mark _ => False
  | _ => True

theorem ServesOn.minor {placement : Option ℕ} (on : ServesOn index number placement state)
    {action : Action} {answer : action.Answer} (minor : Minor action)
    (ran : State.exec index fresh state action = some (after, answer)) :
    ServesOn index number placement after := by
  have same : after.history.serving = state.history.serving ∧
      after.history.requestPlacement = state.history.requestPlacement := by
    rw [history_exec ran]
    simp only [State.note]
    unfold History.servingAfter History.requestPlacementAfter
    constructor
    · split
      · cases minor
      · cases minor
      · rfl
    · split
      · cases minor
      · rfl
  exact ⟨by simpa only [History.servedNumber, same.1] using on.serves, by rw [same.2, on.placed]⟩

theorem minor_sendsPlaced {action : Action} (minor : Minor action) :
    SendsPlaced index state action := by
  cases action with
  | sendAgent connection message => cases minor
  | _ => trivial

theorem minor_routed {α : Type} {code : Program α} {placement : Option ℕ}
    (minor : code.Within Minor fun _ => True) :
    (routing config).Triple index name (ServesOn index number placement) code
      fun _ => ServesOn index number placement :=
  (Contract.Triple.within minor (stable_servesOn placement) fun _ minor _ _ _ _ _ _ on _ ran =>
    ⟨minor_sendsPlaced minor, fun _ => on.minor minor (ran_exec ran)⟩).post
      fun _ _ _ _ _ holds => holds.2

theorem send_routed (connection : ℕ) (message : GatewayToAgentMessage) :
    (routing config).Triple index name (ServesOn index number (some connection))
      (perform (.sendAgent connection message))
      fun _ => ServesOn index number (some connection) := by
  refine .perform (stable_servesOn _) (fun _ => stable_servesOn _) ?_
  intro size state after answer _ _ on _ ran
  refine ⟨fun _ => ⟨number, on.serves, on.placed⟩, fun _ => ?_⟩
  have same : after.history.serving = state.history.serving ∧
      after.history.requestPlacement = state.history.requestPlacement := by
    rw [history_exec (ran_exec ran)]
    exact ⟨rfl, rfl⟩
  exact ⟨by simpa only [History.servedNumber, same.1] using on.serves, by rw [same.2, on.placed]⟩

theorem abandonTask_minor (taskId message : String) :
    (abandonTask taskId message).Within Minor fun _ => True := by
  refine ⟨trivial, fun _ => ⟨trivial, fun waiter => ?_⟩⟩
  cases waiter with
  | none => trivial
  | some waiter => exact ⟨trivial, fun _ => trivial⟩

theorem routePlayAudio_routed (taskId what : String) (message : GatewayToAgentMessage) :
    (routing config).Triple index name (ServesOn index number (some connection))
      (routePlayAudio taskId what message) fun _ => ServesOn index number (some connection) := by
  refine .bind (minor_routed ⟨trivial, fun _ => trivial⟩) fun routed => ?_
  cases routed with
  | none => exact minor_routed trivial
  | some agentId =>
    -- the channel found is the one of the placement, by the condition on the lookup
    have found : (routing config).Triple index name (ServesOn index number (some connection))
        (locked (.agentCommandTx agentId)) fun (commandTx : Option ℕ) state =>
          (∀ other ∈ commandTx, other = connection) ∧
            ServesOn index number (some connection) state := by
      refine .perform (stable_servesOn _)
        (fun _ _ _ _ _ on own _ => ⟨on.1, on.2.rely own⟩) ?_
      intro size state after answer _ _ on placed ran
      have minor : Minor (.registry (.agentCommandTx agentId)) := trivial
      refine ⟨trivial, fun _ => ⟨fun other member => ?_, on.minor minor (ran_exec ran)⟩⟩
      rw [registry_answer (ran_exec ran)] at member
      have there := placed member on.serves
      exact Option.some.inj (there.symm.trans on.placed)
    refine .bind found fun commandTx => .assume (fun _ _ _ _ holds => holds.1) fun same => ?_
    refine .consequence ?_ (fun _ _ _ _ holds => holds.2) fun _ _ _ _ _ holds => holds
    cases commandTx with
    | none => exact minor_routed (abandonTask_minor ..)
    | some commandTx =>
      obtain rfl := same commandTx rfl
      refine .bind (send_routed _ _) fun sent => ?_
      cases sent with
      | true => exact minor_routed trivial
      | false => exact minor_routed (abandonTask_minor ..)

theorem sendChunks_routed (taskId : String) (audio : List Bytes) :
    (routing config).Triple index name (ServesOn index number (some connection))
      (sendChunks config.base64 taskId audio) fun _ => ServesOn index number (some connection) := by
  induction audio with
  | nil => exact minor_routed trivial
  | cons chunk rest ih =>
    refine .bind (routePlayAudio_routed taskId _ _) fun sent => ?_
    cases sent with
    | ok _ => exact ih
    | error _ => exact minor_routed trivial

theorem playChunks_routed (taskId : String) (taskWaiter : ℕ) (audio : List Bytes) :
    (routing config).Triple index name (ServesOn index number (some connection))
      (playChunks config.base64 taskId taskWaiter audio)
      fun _ => ServesOn index number (some connection) := by
  refine .bind (sendChunks_routed taskId audio) fun sent => ?_
  cases sent with
  | error _ => exact minor_routed trivial
  | ok _ =>
    refine .bind (routePlayAudio_routed taskId _ _) fun finished => ?_
    cases finished with
    | error _ => exact minor_routed trivial
    | ok _ =>
      refine minor_routed ⟨trivial, fun answer => ?_⟩
      cases answer with
      | value result =>
        cases result <;> trivial
      | dropped => trivial
      | elapsed => exact ⟨trivial, fun _ => trivial⟩

/-- An agent was selected for a request that is not placed yet. -/
def Selected (index number connection : ℕ) (state : State) : Prop :=
  ServesOn index number none state ∧ state.history.selected index = some connection

theorem stable_selected : (routing config).Stable index (Selected index number connection) :=
  fun _ _ _ _ selected own _ => ⟨selected.1.rely own, own.selected.trans selected.2⟩

theorem selectSpeakerAgent_routed (deviceId agentId : Option String) :
    (routing config).Triple index name (ServesOn index number none)
      (locked (.selectSpeakerAgent deviceId agentId)) fun (found : Option RegisteredAgent) state =>
        ServesOn index number none state ∧ ∀ agent ∈ found,
          Selected index number agent.commandTx state := by
  refine .perform (stable_servesOn none) (fun _ size state later bound on own inv =>
    ⟨on.1.rely own, fun agent member => stable_selected size state later bound (on.2 agent member)
      own inv⟩) ?_
  intro size state after answer _ _ on _ ran
  have kept : ServesOn index number none after := by
    have same : after.history.serving = state.history.serving ∧
        after.history.requestPlacement = state.history.requestPlacement := by
      rw [history_exec (ran_exec ran)]
      exact ⟨rfl, rfl⟩
    exact ⟨by simpa only [History.servedNumber, same.1] using on.serves, by rw [same.2, on.placed]⟩
  refine ⟨trivial, fun _ => ⟨kept, fun agent member => ⟨kept, ?_⟩⟩⟩
  obtain rfl : answer = some agent := member
  rw [history_exec (ran_exec ran)]
  exact Function.update_self ..

theorem registerTask_routed (taskId agentId : String) :
    (routing config).Triple index name (Selected index number connection)
      (locked (.registerTask taskId agentId)) fun (registered : Except String Unit) =>
        ServesOn index number (if registered.isOk then some connection else none) := by
  refine .perform stable_selected (fun _ => stable_servesOn _) ?_
  intro size state after answer _ _ selected _ ran
  obtain ⟨on, chosen⟩ := selected
  refine ⟨trivial, fun _ => ?_⟩
  have serves : after.history.serving = state.history.serving := by
    rw [history_exec (ran_exec ran)]
    rfl
  refine ⟨by simpa only [History.servedNumber, serves] using on.serves, ?_⟩
  rw [history_exec (ran_exec ran)]
  cases answer with
  | ok registered =>
    change (if state.history.servedNumber index = some number then
      (state.history.requestPlacement number).or (state.history.selected index)
      else state.history.requestPlacement number) = _
    rw [if_pos on.serves, on.placed, Option.none_or, chosen]
    rfl
  | error message => exact on.placed

-- comparing the programs below must not unfold the blanks that are cut off
attribute [local irreducible] trim in
theorem routePlayAudioStart_routed (request : PlayAudioRouteRequest) :
    (routing config).Triple index name (ServesOn index number none) (routePlayAudioStart request)
      fun result state => ∃ placement, ServesOn index number placement state ∧
        (result.isOk → ∃ connection, placement = some connection) := by
  have failed {placement : Option ℕ} {error : BridgeError} :
      (routing config).Triple index name (ServesOn index number placement)
        (pure (.error error) : Program (Except BridgeError String)) fun result state =>
          ∃ placement, ServesOn index number placement state ∧
            (result.isOk → ∃ connection, placement = some connection) :=
    .done (stable_servesOn placement) fun _ _ _ _ on => ⟨placement, on, nofun⟩
  simp only [routePlayAudioStart]
  split_ifs
  · exact failed
  · refine .bind (selectSpeakerAgent_routed _ _) fun found => ?_
    cases found with
    | none => exact .consequence failed (fun _ _ _ _ on => on.1) fun _ _ _ _ _ holds => holds
    | some agent =>
      refine .consequence ?_ (fun _ _ _ _ on => on.2 agent rfl) fun _ _ _ _ _ holds => holds
      refine .bind (registerTask_routed _ _) fun registered => ?_
      cases registered with
      | error message => exact failed
      | ok _ =>
        refine .bind (send_routed agent.commandTx _) fun sent => ?_
        cases sent with
        | true => exact .done (stable_servesOn _) fun _ _ _ _ on => ⟨_, on, fun _ => ⟨_, rfl⟩⟩
        | false => exact .bind (minor_routed ⟨trivial, fun _ => trivial⟩) fun _ => failed

attribute [local irreducible] trim in
theorem playAudioTask_routed (payload : ControlPlayAudioPayload) (taskId : String) (bytes : Bytes) :
    (routing config).Triple index name (ServesOn index number none)
      (playAudioTask config payload taskId bytes) fun _ _ => True := by
  have ends {α : Type} {placement : Option ℕ} {code : Program α}
      (minor : code.Within Minor fun _ => True) :
      (routing config).Triple index name (ServesOn index number placement) code fun _ _ => True :=
    (minor_routed minor).post fun _ _ _ _ _ _ => trivial
  refine .bind (minor_routed ⟨trivial, fun _ => trivial⟩) fun taskWaiter => ?_
  refine .bind (routePlayAudioStart_routed _) fun started => .exists fun placement => ?_
  cases started with
  | error error =>
    exact .consequence (ends ⟨trivial, fun _ => trivial⟩) (fun _ _ _ _ on => on.1)
      fun _ _ _ _ _ holds => holds
  | ok agentId =>
    refine .assume (fun _ _ _ _ on => on.2 rfl) fun ⟨connection, placed⟩ => ?_
    subst placed
    refine .consequence ?_ (fun _ _ _ _ on => on.1) fun _ _ _ _ _ holds => holds
    refine .bind (playChunks_routed taskId taskWaiter _) fun played => ?_
    cases played with
    | error error => exact ends trivial
    | ok _ => exact ends ⟨trivial, fun sent => by cases sent <;> trivial⟩

theorem stable_always : (routing config).Stable index fun _ => True :=
  fun _ _ _ _ _ _ _ => trivial

theorem free_routed {α : Type} {code : Program α} (minor : code.Within Minor fun _ => True) :
    (routing config).Triple index name (fun _ => True) code fun _ _ => True :=
  (Contract.Triple.within minor stable_always fun _ minor _ _ _ _ _ _ _ _ _ =>
    ⟨minor_sendsPlaced minor, fun _ => trivial⟩).post fun _ _ _ _ _ _ => trivial

/-- A call has a number that was not placed yet. -/
theorem called_routed (taskId : String) :
    (routing config).Triple index name (fun _ => True) (perform (.mark (.playAudioCalled taskId)))
      fun _ state => ∃ number, ServesOn index number none state := by
  refine .perform stable_always (fun _ _ _ _ _ on own _ => ?_) ?_
  · obtain ⟨number, on⟩ := on
    exact ⟨number, on.rely own⟩
  · intro size state after answer _ inv _ _ ran
    refine ⟨trivial, fun _ => ⟨state.history.requests, ?_, ?_⟩⟩
    · rw [history_exec (ran_exec ran)]
      simp only [State.note, History.servedNumber, History.servingAfter, Function.update_self,
        Option.map_some]
    · rw [history_exec (ran_exec ran)]
      exact inv.numbered.unplaced le_rfl

theorem handleControlPlayAudio_routed (payload : ControlPlayAudioPayload) :
    (routing config).Triple index name (fun _ => True) (handleControlPlayAudio config payload)
      fun _ _ => True := by
  have named : (controlTaskId payload).Within Minor fun _ => True := by
    simp only [controlTaskId]
    cases payload.givenTaskId with
    | some taskId => trivial
    | none => exact ⟨trivial, fun _ => trivial⟩
  refine .bind (free_routed named) fun taskId => .bind (called_routed taskId) fun _ => .exists ?_
  intro number
  cases payload.audio config.base64 with
  | error error => exact .done (stable_servesOn none) fun _ _ _ _ _ => trivial
  | ok bytes => exact playAudioTask_routed payload taskId bytes

theorem playAudio_routed (payload : ControlPlayAudioPayload) :
    (routing config).Triple index name (fun _ => True) (playAudio config payload)
      fun _ _ => True := by
  refine .bind (handleControlPlayAudio_routed payload) fun result => ?_
  exact .act stable_always (fun _ _ _ _ _ _ _ _ _ => ⟨trivial, fun _ => trivial⟩) fun _ =>
    .done stable_always fun _ _ _ _ _ => trivial

/-! ## All runs -/

/-- Nothing but a playback sends playback messages. -/
theorem role_sendsPlaced {role : Role} (other : role ≠ .controlPlaying) {action : Action}
    (permitted : role.Permits index action) : SendsPlaced index state action := by
  cases action with
  | sendAgent connection message =>
    intro concerns
    exfalso
    have commands : role.Commands index connection message := permitted
    cases role with
    | controlPlaying => exact other rfl
    | agentGreeting | agentIdle | commands => simp [commands.2.1] at concerns
    | clientHandling =>
      have unrelated : message.taskId? = none := commands
      simp [unrelated] at concerns
    | _ => exact commands
  | _ => trivial

theorem routing_valid : (routing config).Valid where
  pre_stable _ _ _ _ := trivial
  body {index name size state} bound inv _ _ := by
    by_cases playing : ∃ payload, name = .playAudio payload
    · obtain ⟨payload, rfl⟩ := playing
      refine (playAudio_routed payload size state bound inv trivial).mono bound ?_
      intro exit _ _ _ _ _
      cases exit <;> trivial
    · have other : name.role ≠ .controlPlaying := by
        cases name with
        | playAudio payload => exact absurd ⟨payload, rfl⟩ playing
        | _ => nofun
      refine .within (body_plays config index name) ?_ fun exit _ _ _ _ _ => ?_
      · exact fun _ permitted _ _ _ _ _ _ _ _ => role_sendsPlaced other permitted
      · cases exit <;> trivial
  action {index name size state action after answer} _ inv allowed guar ran := by
    have placed : RoutesPlaced index name state action := allowed
    exact ⟨⟨inv.numbered.exec (ran_exec ran), inv.named.exec placed (ran_exec ran),
      PlaybackPlaced.exec inv.playback guar (ran_exec ran)⟩,
      fun _ other _ => ownRequest_exec inv.numbered other (ran_exec ran), fun _ _ _ => trivial⟩
  event inv _ occurred := by
    have undisturbed := occur_undisturbed occurred
    refine ⟨⟨?_, inv.named.agree undisturbed.registry,
      PlaybackPlaced.undisturbed inv.playback (occur_commanded occurred) undisturbed⟩,
      fun _ _ => ownRequest_undisturbed undisturbed, fun _ _ _ => trivial⟩
    rw [undisturbed.history]
    exact inv.numbered

theorem routing_initial : (routing config).Good (initial config) :=
  ⟨⟨requestsNumbered_initial, routesNamed_initial, fun queued => nomatch queued⟩,
    fun _ _ found => nomatch found⟩

/-- Along every schedule whose routes are placed on agents that are there, the routes name registered
agents, and all that is delivered of one playback is delivered on one command channel. -/
theorem routes_valid (config : GatewayConfig) (schedule : List (Choice (system config)))
    (last : World (system config)) (ran : (initial config).replay? schedule = some last)
    (placed : World.Along (World.OnAction RoutesPlaced) (initial config) schedule) :
    RoutesValid last.state := by
  have good := routing_initial.replay routing_valid (placed.imp fun world choice allowed =>
    ⟨allowed.effect, .always (fun _ _ _ => trivial) _ _, .always (fun _ _ => trivial) _ _⟩) ran
  refine ⟨good.inv.named, ?_⟩
  intro connection other first second queued queued' concerns concerns' same
  obtain ⟨number, origin, placement⟩ := good.inv.playback queued concerns
  obtain ⟨number', origin', placement'⟩ := good.inv.playback queued' concerns'
  obtain rfl := Option.some.inj ((origin.symm.trans same).trans origin')
  exact Option.some.inj (placement.symm.trans placement')

open Scenario in
/-- A playback is sent to an agent that stays: its start, a chunk and its finish. -/
def playsBack : List (Choice (system Scenario.config)) :=
  registers 0 speaker ++ routesPlayback 1 ++ turns 7 1

open Scenario in
theorem routes_valid_played : ∃ last : World (system Scenario.config),
    (initial Scenario.config).replay? playsBack = some last ∧ RoutesValid last.state := by
  obtain ⟨last, ran⟩ : ∃ last, (initial Scenario.config).replay? playsBack = some last := ⟨_, rfl⟩
  refine ⟨last, ran, routes_valid Scenario.config _ last ran ?_⟩
  refine .step True.intro rfl (.step True.intro rfl (.step True.intro rfl ?_))
  refine .step True.intro rfl (.step True.intro rfl (.step True.intro rfl ?_))
  refine .step True.intro rfl (.step True.intro rfl (.step True.intro rfl ?_))
  refine .step True.intro rfl (.step True.intro rfl (.step True.intro rfl ?_))
  refine .step True.intro rfl (.step True.intro rfl (.step True.intro rfl ?_))
  -- the agent is registered when its id is taken for the task
  refine .step (fun _ => rfl) rfl (.step True.intro rfl (.step True.intro rfl ?_))
  -- the channel that the chunk and the finish are sent on is that of the start
  have same {connection number : ℕ} (found : some 0 = some connection)
      (served : some 0 = some number) (state : State)
      (placed : state.history.requestPlacement 0 = some 0) :
      state.history.requestPlacement number = some connection := by
    cases found
    cases served
    exact placed
  refine .step (fun found served => same found served _ rfl) rfl (.step True.intro rfl ?_)
  refine .step True.intro rfl (.step (fun found served => same found served _ rfl) rfl ?_)
  exact .step True.intro rfl True.intro

open Scenario in
/-- A request selects an agent that closes its connection before the task id is taken. -/
def selectsLeaving : List (Choice (system Scenario.config)) :=
  registers 0 speaker ++ [occurs .connectControl, controlAsks 1 (.playAudio playback)] ++
    turns 6 1 ++ [occurs (.agentInput 0 (.frame .close))] ++ turns 5 0 ++ [.task 1]

open Scenario in
/-- A request selects an agent that connects again before the task id is taken, and sends its start
and its chunk. -/
def selectsReplaced : List (Choice (system Scenario.config)) :=
  registers 0 speaker ++ [occurs .connectControl, controlAsks 1 (.playAudio playback)] ++
    turns 6 1 ++ registers 2 speaker ++ turns 5 1

open Scenario in
/-- The route of the first request names no agent, and the messages of the second one are on two
channels. -/
theorem routes_not_valid :
    ¬ (∀ last : World (system Scenario.config),
      (initial Scenario.config).replay? selectsLeaving = some last → RoutesValid last.state) ∧
    ¬ ∀ last : World (system Scenario.config),
      (initial Scenario.config).replay? selectsReplaced = some last → RoutesValid last.state := by
  constructor
  · intro always
    obtain ⟨last, ran⟩ : ∃ last, (initial Scenario.config).replay? selectsLeaving = some last :=
      ⟨_, rfl⟩
    have valid := always last ran
    cases ran
    have known := @RoutesNamed.tasks _ valid.named "task" ⟨"device"⟩ rfl
    exact absurd known (by decide)
  · intro always
    obtain ⟨last, ran⟩ : ∃ last, (initial Scenario.config).replay? selectsReplaced = some last :=
      ⟨_, rfl⟩
    have valid := always last ran
    cases ran
    have one := @RoutesValid.one _ valid 0 2 ⟨.taskPlayAudioStart "task" none, some 0⟩
      ⟨.taskPlayAudioChunk "task" "AA==", some 0⟩ (.tail _ (.head _)) (.tail _ (.head _)) rfl rfl rfl
    exact absurd one (by decide)

end SpeechMesh.Soundness
