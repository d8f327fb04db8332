import SpeechMesh.Soundness.SessionTokens
import SpeechMesh.Soundness.Scenario

/-! # Failed starts at an agent

`RemoteAgentAsrBridge::start_stream` gives a session up without a word to the agent. That is fine when
the agent has reported the failure, or is no longer there; the start that times out, and the one that is
failed because another connection takes the agent's id, leave the agent with a session that the
gateway has forgotten.
-/

namespace SpeechMesh.Soundness

open Async Model

/-- The connection is still in its loop, and its writer is there. -/
def Up (state : State) (connection : ℕ) : Prop :=
  state.history.leaving connection = false ∧ state.silenced connection = false

/-- The start of the session was put on the command channel of the connection. -/
def StartSent (state : State) (connection : ℕ) (sessionId : SessionId) : Prop :=
  ∃ command ∈ state.commanded connection, command.message.start? = some sessionId

def StopSent (state : State) (connection : ℕ) (sessionId : SessionId) : Prop :=
  ∃ command ∈ state.commanded connection, command.message = .sessionStop sessionId

/-- A session whose start has failed after it was sent to an agent that stays connected has been
stopped, by the time its forwarder has ended, or its agent has reported its failure or its end. -/
def NoOrphans (state : State) : Prop :=
  ∀ {sessionId connection}, state.history.startFailed sessionId = true →
    StartSent state connection sessionId → Up state connection →
      (state.asrStreams sessionId).commands.closed = true →
        StopSent state connection sessionId ∨ sessionId ∈ state.history.complained connection

/-- The agent of the session has reported its failure or its end, or is not there any more. -/
def Excused (state : State) (sessionId : SessionId) : Prop :=
  ∃ connection, state.history.sessionPlacement sessionId = some connection ∧
    (sessionId ∈ state.history.complained connection ∨ ¬ Up state connection)

/-- A start that times out is excused. Pending starts are failed only by the teardown of the connection
they were placed on, and by messages from that connection. -/
def StartsHeard (index : ℕ) (name : Procedure) (state : State) : Action → Prop
  | .awaitStarted sessionId => state.started sessionId = .waiting → state.elapsed index = true →
      Excused state sessionId
  | .registry (.removeOrphanedSessions agentId) => ∀ {sessionId route},
      state.registry.sessions.lookup sessionId = some route → route.agentId = agentId →
        route.startedTx.isSome →
          (state.history.sessionPlacement sessionId = some index ∧
            (state.history.registration index).isSome) ∨ Excused state sessionId
  | .registry (.removeSession sessionId) => ∀ {agentId message route},
      name = .agentMessage agentId message →
        state.registry.sessions.lookup sessionId = some route → route.startedTx.isSome →
          state.history.sessionPlacement sessionId = some index ∨ Excused state sessionId
  | _ => True

variable {state after : State} {index task fresh size : ℕ} {name : Procedure} {action : Action}
  {answer : action.Answer} {sessionId : SessionId}

/-! ## What stays -/

/-- What no step takes back. -/
structure StartsKept (before after : State) : Prop where
  created : before.sessionSerial ≤ after.sessionSerial
  placement : ∀ {sessionId connection}, before.history.sessionPlacement sessionId = some connection →
    after.history.sessionPlacement sessionId = some connection
  complained : ∀ {connection sessionId}, sessionId ∈ before.history.complained connection →
    sessionId ∈ after.history.complained connection
  down : ∀ {connection}, ¬ Up before connection → ¬ Up after connection

theorem StartsKept.refl (state : State) : StartsKept state state :=
  ⟨le_rfl, id, id, id⟩

theorem StartsKept.trans {first middle last : State} (one : StartsKept first middle)
    (two : StartsKept middle last) : StartsKept first last :=
  ⟨one.created.trans two.created, two.placement ∘ one.placement, two.complained ∘ one.complained,
    two.down ∘ one.down⟩

theorem not_up_iff {connection : ℕ} : ¬ Up state connection ↔
    state.history.leaving connection = true ∨ state.silenced connection = true := by
  simp only [Up, not_and_or, Bool.not_eq_false]

theorem Excused.kept (excused : Excused state sessionId) (kept : StartsKept state after) :
    Excused after sessionId := by
  obtain ⟨connection, placed, told | down⟩ := excused
  · exact ⟨connection, kept.placement placed, .inl (kept.complained told)⟩
  · exact ⟨connection, kept.placement placed, .inr (kept.down down)⟩

theorem leaving_exec (ran : State.exec task fresh state action = some (after, answer))
    {connection : ℕ} (left : state.history.leaving connection = true) :
    after.history.leaving connection = true := by
  rw [history_exec ran]
  simp only [State.note]
  unfold History.leavingAfter
  split
  · by_cases same : connection = task
    · subst same
      exact Function.update_self ..
    · rwa [Function.update_of_ne same]
  · by_cases same : connection = task
    · subst same
      simp [left]
    · rwa [Function.update_of_ne same]
  · exact left

theorem complained_exec (ran : State.exec task fresh state action = some (after, answer))
    {connection : ℕ} (told : sessionId ∈ state.history.complained connection) :
    sessionId ∈ after.history.complained connection := by
  rw [history_exec ran]
  simp only [State.note]
  unfold History.complainedAfter
  split
  · by_cases same : connection = task
    · subst same
      simp [told]
    · rwa [Function.update_of_ne same]
  · exact told

theorem startsKept_exec (ran : State.exec task fresh state action = some (after, answer)) :
    StartsKept state after where
  created := sessionSerial_exec ran
  placement := (extends_exec ran).sessionPlacement
  complained := complained_exec ran
  down := by
    intro connection down
    rw [not_up_iff] at down ⊢
    rcases down with left | silenced
    · exact .inl (leaving_exec ran left)
    · exact .inr (by rwa [silenced_exec ran])

theorem startsKept_occur {event : Event} {spawned : List Procedure} {tasks : ℕ}
    (occurred : state.occur tasks event = some (after, spawned)) : StartsKept state after := by
  have undisturbed := occur_undisturbed occurred
  refine ⟨undisturbed.sessionSerial.ge, ?_, ?_, ?_⟩
  · rw [undisturbed.history]
    exact id
  · rw [undisturbed.history]
    exact id
  · intro connection down
    rw [not_up_iff] at down ⊢
    rw [undisturbed.history]
    exact down.imp_right (occur_silenced occurred)

/-! ## The invariant -/

structure StartInvariant (state : State) : Prop where
  own : RoutesOwn state.registry
  routed : ∀ {sessionId route}, state.registry.sessions.lookup sessionId = some route →
    sessionId.serial < state.sessionSerial
  fresh : ∀ {sessionId : SessionId}, state.sessionSerial ≤ sessionId.serial →
    state.started sessionId = .waiting ∧ state.history.sessionPlacement sessionId = none
  answered : ∀ {sessionId}, state.started sessionId ≠ .dropped
  excused : ∀ {sessionId}, state.history.startFailed sessionId = true → Excused state sessionId
  placed : ∀ {connection sessionId}, StartSent state connection sessionId →
    state.history.sessionPlacement sessionId = some connection

/-- A start is failed by its creator, or is excused; and it is sent where the session was placed. -/
def StartGuar (index : ℕ) (state : State) : Action → Prop
  | .sendStarted sessionId result => sessionId.serial < state.sessionSerial ∧
      (result.isOk = false → sessionId.creator = index ∨ Excused state sessionId)
  | .registry (.registerSession _ sessionId) => sessionId.creator = index ∧
      sessionId.serial < state.sessionSerial ∧ state.history.sessionPlacement sessionId = none
  | .sendAgent connection message => ∀ sessionId, message.start? = some sessionId →
      state.history.sessionPlacement sessionId = some connection
  | .awaitStarted sessionId => ∀ error, state.started sessionId = .sent (.error error) →
      Excused state sessionId
  | .spawn procedure => procedure.role.family ≠ .agent
  | _ => True

theorem startSent_exec {connection : ℕ}
    (ran : State.exec task fresh state action = some (after, answer))
    (sent : StartSent after connection sessionId) :
    StartSent state connection sessionId ∨
      ∃ message, action = .sendAgent connection message ∧ message.start? = some sessionId := by
  obtain ⟨command, queued, starts⟩ := sent
  rw [commanded_exec ran] at queued
  cases action with
  | sendAgent other message =>
    simp only [State.commandedAfter] at queued
    by_cases same : connection = other
    · subst same
      rw [Function.update_self] at queued
      rcases List.mem_append.mp queued with old | new
      · exact .inl ⟨command, old, starts⟩
      · cases (answer : Bool) with
        | false => cases new
        | true =>
          obtain rfl := List.mem_singleton.mp new
          exact .inr ⟨message, rfl, starts⟩
    · rw [Function.update_of_ne same] at queued
      exact .inl ⟨command, queued, starts⟩
  | _ => exact .inl ⟨command, queued, starts⟩

theorem startFailed_exec (ran : State.exec task fresh state action = some (after, answer))
    (failed : after.history.startFailed sessionId = true) :
    state.history.startFailed sessionId = true ∨
      (action = .awaitStarted sessionId ∧
        (state.started sessionId = .dropped ∨
          (∃ error, state.started sessionId = .sent (.error error)) ∨
          (state.started sessionId = .waiting ∧ state.elapsed task = true))) := by
  rw [history_exec ran] at failed
  simp only [State.note] at failed
  unfold History.startFailedAfter at failed
  split at failed
  · exact .inl failed
  · rename_i other answer different
    by_cases same : sessionId = other
    · subst same
      refine .inr ⟨rfl, ?_⟩
      obtain ⟨core, performed, _⟩ := exec_cases ran
      simp only [State.perform, State.await] at performed
      split at performed
      · rename_i value sent
        obtain ⟨_, rfl⟩ := Prod.mk.inj (Option.some.inj performed)
        cases value with
        | ok _ => exact absurd rfl (different ())
        | error error => exact .inr (.inl ⟨error, sent⟩)
      · rename_i dropped
        exact .inl dropped
      · rename_i waiting
        split_ifs at performed with elapsed
        exact .inr (.inr ⟨waiting, elapsed⟩)
    · rw [Function.update_of_ne same] at failed
      exact .inl failed
  · exact .inl failed

theorem StartInvariant.exec (inv : StartInvariant state) (heard : StartsHeard task name state action)
    (guar : StartGuar task state action)
    (ran : State.exec task fresh state action = some (after, answer)) : StartInvariant after where
  own := inv.own.exec ran
  routed := by
    intro sessionId route found
    have grown := sessionSerial_exec ran
    rw [registry_exec ran] at found
    cases action with
    | registry action =>
      rcases sessions_run action sessionId found with kept | ⟨agentId, rfl, _⟩ | ⟨old, _, kept, _⟩
      · exact lt_of_lt_of_le (inv.routed kept) grown
      · exact lt_of_lt_of_le guar.2.1 grown
      · exact lt_of_lt_of_le (inv.routed kept) grown
    | _ => exact lt_of_lt_of_le (inv.routed found) grown
  fresh := by
    intro sessionId new
    have old : state.sessionSerial ≤ sessionId.serial := (sessionSerial_exec ran).trans new
    obtain ⟨waiting, unplaced⟩ := inv.fresh old
    constructor
    · rw [started_exec ran]
      unfold State.startedAfter
      split
      · rename_i other result
        have different : sessionId ≠ other := by
          rintro rfl
          have exists_ := guar.1
          omega
        rw [Function.update_of_ne different, waiting]
      · exact waiting
    · rcases sessionPlacement_exec ran sessionId with same | ⟨agentId, rfl⟩
      · rw [same, unplaced]
      · have exists_ := guar.2.1
        omega
  answered := by
    intro sessionId
    rw [started_exec ran]
    unfold State.startedAfter
    split
    · rename_i other result
      by_cases same : sessionId = other
      · subst same
        rw [Function.update_self]
        have before := @inv.answered sessionId
        cases reply : state.started sessionId with
        | waiting => nofun
        | sent value => nofun
        | dropped => exact absurd reply before
      · rw [Function.update_of_ne same]
        exact inv.answered
    · exact inv.answered
  excused := by
    intro sessionId failed
    refine Excused.kept ?_ (startsKept_exec ran)
    rcases startFailed_exec ran failed with before | ⟨rfl, dropped | ⟨error, sent⟩ | ⟨waiting, elapsed⟩⟩
    · exact inv.excused before
    · exact absurd dropped inv.answered
    · exact guar error sent
    · exact heard waiting elapsed
  placed := by
    intro connection sessionId sent
    refine (extends_exec ran).sessionPlacement ?_
    rcases startSent_exec ran sent with before | ⟨message, rfl, starts⟩
    · exact inv.placed before
    · exact guar sessionId starts

/-! ## The contract -/

/-- What a task relies on the others not to do to the sessions it has created. -/
structure StartRely (index : ℕ) (before after : State) : Prop where
  kept : StartsKept before after
  selected : after.history.selected index = before.history.selected index
  placement : ∀ {sessionId : SessionId}, sessionId.creator = index →
    after.history.sessionPlacement sessionId = before.history.sessionPlacement sessionId
  failed : ∀ {sessionId : SessionId} {error}, sessionId.creator = index →
    after.started sessionId = .sent (.error error) →
      before.started sessionId = .sent (.error error) ∨ Excused after sessionId

theorem StartRely.refl (index : ℕ) (state : State) : StartRely index state state :=
  ⟨.refl state, rfl, fun _ => rfl, fun _ => .inl⟩

theorem StartRely.trans {first middle last : State} (one : StartRely index first middle)
    (two : StartRely index middle last) : StartRely index first last where
  kept := one.kept.trans two.kept
  selected := two.selected.trans one.selected
  placement own := (two.placement own).trans (one.placement own)
  failed own sent := by
    rcases two.failed own sent with before | excused
    · rcases one.failed own before with first | excused
      · exact .inl first
      · exact .inr (excused.kept two.kept)
    · exact .inr excused

theorem started_error {error : BridgeError}
    (ran : State.exec task fresh state action = some (after, answer))
    (sent : after.started sessionId = .sent (.error error)) :
    state.started sessionId = .sent (.error error) ∨
      action = .sendStarted sessionId (.error error) := by
  rw [started_exec ran] at sent
  unfold State.startedAfter at sent
  split at sent
  · rename_i other result
    by_cases same : sessionId = other
    · subst same
      rw [Function.update_self] at sent
      cases reply : state.started sessionId with
      | waiting =>
        rw [reply] at sent
        obtain rfl := OneShot.sent.inj sent
        exact .inr rfl
      | sent value =>
        rw [reply] at sent
        exact .inl sent
      | dropped =>
        rw [reply] at sent
        cases sent
    · rw [Function.update_of_ne same] at sent
      exact .inl sent
  · exact .inl sent

theorem startRely_exec (guar : StartGuar task state action) (other : index ≠ task)
    (ran : State.exec task fresh state action = some (after, answer)) :
    StartRely index state after where
  kept := startsKept_exec ran
  selected := selected_exec ran other
  placement {sessionId} own := by
    rcases sessionPlacement_exec ran sessionId with same | ⟨agentId, rfl⟩
    · exact same
    · exact absurd (own.symm.trans guar.1) other
  failed own sent := by
    rcases started_error ran sent with before | rfl
    · exact .inl before
    · rcases guar.2 rfl with creator | excused
      · exact absurd (own.symm.trans creator) other
      · exact .inr (excused.kept (startsKept_exec ran))

/-- The actions that neither create, place, send, await nor settle a start, and select no agent. -/
def Unstarting : Action → Prop
  | .sendStarted _ _ | .registry (.registerSession _ _) | .registry (.selectAgent _)
  | .registry (.selectSpeakerAgent _ _) | .awaitStarted _ => False
  | .sendAgent _ message => message.start? = none
  | .spawn procedure => procedure.role.family ≠ .agent
  | _ => True

theorem unstarting_guar (unstarting : Unstarting action) : StartGuar index state action := by
  cases action with
  | registry action =>
    cases action with
    | registerSession agentId sessionId => cases unstarting
    | _ => trivial
  | sendAgent connection message =>
    intro sessionId starts
    have none_ : message.start? = none := unstarting
    rw [none_] at starts
    cases starts
  | sendStarted sessionId result | awaitStarted sessionId => cases unstarting
  | spawn procedure => exact unstarting
  | _ => trivial

/-- The actions that settle and place no start, and select no agent. -/
def Steady : Action → Prop
  | .sendStarted _ _ | .registry (.registerSession _ _) | .registry (.selectAgent _)
  | .registry (.selectSpeakerAgent _ _) => False
  | _ => True

theorem Unstarting.steady (unstarting : Unstarting action) : Steady action := by
  cases action with
  | registry action => cases action <;> exact unstarting
  | sendStarted sessionId result => cases unstarting
  | _ => trivial

/-- A task leaves to itself what the others leave to it. -/
theorem steady_rely (steady : Steady action)
    (ran : State.exec index fresh state action = some (after, answer)) :
    StartRely index state after where
  kept := startsKept_exec ran
  selected := by
    rw [history_exec ran]
    simp only [State.note]
    unfold History.selectedAfter
    split <;> first | cases steady | rfl
  placement {sessionId} _ := by
    rcases sessionPlacement_exec ran sessionId with same | ⟨agentId, rfl⟩
    · exact same
    · cases steady
  failed _ sent := by
    rcases started_error ran sent with before | rfl
    · exact .inl before
    · cases steady

/-- The session a message of an agent fails or ends. -/
def AgentToGatewayMessage.complaint? (message : AgentToGatewayMessage) : Option SessionId :=
  AgentInput.complaint? (.frame (.text (.ok message)))

/-- What is in the hand of an agent connection was noted. -/
def Complained (index : ℕ) : Procedure → State → Prop
  | .agentMessage _ message, state => ∀ sessionId,
      AgentToGatewayMessage.complaint? message = some sessionId →
        sessionId ∈ state.history.complained index
  | _, _ => True

def starts (config : GatewayConfig) : Contract (system config) where
  allowed index name action before _ := StartsHeard index name before action
  enters _ _ _ := True
  occurs _ _ := True
  inv _ := StartInvariant
  rely := StartRely
  pre := Complained
  guar index _ action before _ := StartGuar index before action
  rely_refl := .refl
  rely_trans := .trans

theorem Complained.rely {procedure : Procedure} (complained : Complained index procedure state)
    (rely : StartRely index state after) : Complained index procedure after := by
  cases procedure with
  | agentMessage agentId message =>
    exact fun sessionId tells => rely.kept.complained (complained sessionId tells)
  | _ => trivial

/-- The procedure entered next has no message in hand. -/
def EmptyHanded : Option Procedure → Prop
  | some (.agentMessage _ _) => False
  | _ => True

theorem EmptyHanded.exits {procedure : Procedure} (empty : EmptyHanded (some procedure)) :
    Complained index procedure state := by
  cases procedure with
  | agentMessage agentId message => cases empty
  | _ => trivial

variable {config : GatewayConfig}

theorem keeps_starts {α : Type} {code : Program α} {values : α → Prop} {assertion : State → Prop}
    (stable : ∀ {before after}, assertion before → StartRely index before after → assertion after)
    (unstarting : code.Within Unstarting values) :
    (starts config).Triple index name assertion code
      fun value state => values value ∧ assertion state := by
  refine Contract.Triple.within unstarting (fun _ _ _ _ holds rely _ => stable holds rely) ?_
  intro action unstarting size state after answer _ _ holds _ ran
  exact ⟨unstarting_guar unstarting, fun _ => stable holds (steady_rely unstarting.steady (ran_exec ran))⟩

theorem plain_starts {α : Type} {code : Program α} {assertion : State → Prop}
    (stable : ∀ {before after}, assertion before → StartRely index before after → assertion after)
    (unstarting : code.Within Unstarting fun _ => True) :
    (starts config).Triple index name assertion code fun _ => assertion :=
  (keeps_starts stable unstarting).post fun _ _ _ _ _ holds => holds.2

theorem goes_starts {code : Program (Option Procedure)}
    (unstarting : code.Within Unstarting EmptyHanded) :
    (starts config).Triple index name (fun _ => True) code ((starts config).Exits index) := by
  refine (keeps_starts (fun _ _ => trivial) unstarting).post fun exit _ _ _ _ holds => ?_
  cases exit with
  | none => trivial
  | some procedure => exact holds.1.exits

/-! ## Settling a start -/

/-- The task may fail the start of the session. -/
def Settleable (index : ℕ) (sessionId : SessionId) (state : State) : Prop :=
  sessionId.serial < state.sessionSerial ∧ (sessionId.creator = index ∨ Excused state sessionId)

theorem Settleable.kept (settleable : Settleable index sessionId state) (kept : StartsKept state after) :
    Settleable index sessionId after :=
  ⟨lt_of_lt_of_le settleable.1 kept.created, settleable.2.imp_right fun excused => excused.kept kept⟩

/-- The sender of a start that the task may fail, if the route still holds it. -/
def RouteSettleable (index : ℕ) (route : SessionRoute) (state : State) : Prop :=
  ∀ sessionId ∈ route.startedTx, Settleable index sessionId state

theorem RouteSettleable.kept {route : SessionRoute} (settleable : RouteSettleable index route state)
    (kept : StartsKept state after) : RouteSettleable index route after :=
  fun sessionId member => (settleable sessionId member).kept kept

theorem sendStarted_starts {assertion : State → Prop} (result : Except BridgeError Unit)
    (stable : ∀ {before after}, assertion before → StartsKept before after → assertion after)
    (settles : ∀ state, assertion state → sessionId.serial < state.sessionSerial ∧
      (result.isOk = false → sessionId.creator = index ∨ Excused state sessionId)) :
    (starts config).Triple index name assertion (perform (.sendStarted sessionId result))
      fun _ => assertion :=
  .perform (fun _ _ _ _ holds rely _ => stable holds rely.kept)
    (fun _ _ _ _ _ holds rely _ => stable holds rely.kept) fun _ state _ _ _ _ holds _ ran =>
      ⟨settles state holds, fun _ => stable holds (startsKept_exec (ran_exec ran))⟩

theorem tellSession_starts {assertion : State → Prop} (route : SessionRoute) (error : BridgeError)
    (events : List BridgeAsrEvent)
    (stable : ∀ {before after}, assertion before → StartsKept before after → assertion after)
    (settles : ∀ state, assertion state → RouteSettleable index route state) :
    (starts config).Triple index name assertion (tellSession route error events)
      fun _ => assertion := by
  simp only [tellSession]
  cases pending : route.startedTx with
  | some sessionId =>
    refine sendStarted_starts _ stable fun state holds => ?_
    have settleable := settles state holds sessionId (by rw [pending]; rfl)
    exact ⟨settleable.1, fun _ => settleable.2⟩
  | none =>
    have told : (Code.each events fun event => do
        let _ ← perform (.asr route.eventTx (.sendEvent event)) : Program Unit).Within Unstarting
          fun _ => True := .each fun _ _ => ⟨trivial, fun _ => trivial⟩
    exact plain_starts (fun holds rely => stable holds rely.kept) told

/-- Taking a route out of the map, to fail its start. -/
theorem removeSession_starts {assertion : State → Prop}
    (stable : ∀ {before after}, assertion before → StartsKept before after → assertion after)
    (own : ∀ {state route}, assertion state →
      state.registry.sessions.lookup sessionId = some route → route.startedTx.isSome →
        StartsHeard index name state (.registry (.removeSession sessionId)) →
          sessionId.creator = index ∨ Excused state sessionId) :
    (starts config).Triple index name assertion (locked (.removeSession sessionId))
      fun (found : Option SessionRoute) state => assertion state ∧ ∀ route ∈ found,
        RouteSettleable index route state := by
  refine .perform (fun _ _ _ _ holds rely _ => stable holds rely.kept)
    (fun _ _ _ _ _ holds rely _ => ⟨stable holds.1 rely.kept, fun route member =>
      (holds.2 route member).kept rely.kept⟩) ?_
  intro size state after answer _ inv holds heard ran
  have kept := startsKept_exec (ran_exec ran)
  refine ⟨trivial, fun _ => ⟨stable holds kept, fun route member startedTx pending => ?_⟩⟩
  obtain rfl : answer = some route := member
  have found : state.registry.sessions.lookup sessionId = some route :=
    (registry_answer (ran_exec ran)).symm
  obtain rfl : startedTx = sessionId := (inv.own _ _ found).2 startedTx pending
  have heard : StartsHeard index name state (.registry (.removeSession startedTx)) := heard
  refine Settleable.kept ⟨inv.routed found, ?_⟩ kept
  exact own holds found (by rw [Option.mem_def.mp pending]; rfl) heard

/-- Failing a start: the session is the task's own, or its agent has reported it. -/
theorem failed_starts {assertion : State → Prop} (error : BridgeError)
    (events : List BridgeAsrEvent)
    (stable : ∀ {before after}, assertion before → StartsKept before after → assertion after)
    (own : ∀ {state route}, assertion state →
      state.registry.sessions.lookup sessionId = some route → route.startedTx.isSome →
        StartsHeard index name state (.registry (.removeSession sessionId)) →
          sessionId.creator = index ∨ Excused state sessionId) :
    (starts config).Triple index name assertion (do
        match ← locked (.removeSession sessionId) with
        | some route => tellSession route error events
        | none => pure () : Program Unit) fun _ => assertion := by
  refine .bind (removeSession_starts stable own) fun found => ?_
  cases found with
  | none =>
    exact .done (fun _ _ _ _ holds rely _ => ⟨stable holds.1 rely.kept, nofun⟩)
      fun _ _ _ _ holds => holds.1
  | some route =>
    have tells : (starts config).Triple index name
        (fun state => assertion state ∧ RouteSettleable index route state) _ _ :=
      tellSession_starts route error events
        (fun holds kept => ⟨stable holds.1 kept, holds.2.kept kept⟩) fun _ holds => holds.2
    exact .consequence tells (fun _ _ _ _ holds => ⟨holds.1, holds.2 route rfl⟩)
      fun _ _ _ _ _ holds => holds.1

/-! ## Agent connections -/

variable {agentId : String}

/-- The task may fail the starts of all the routes it has removed. -/
def AllSettleable (index : ℕ) (entries : List (SessionId × SessionRoute)) (state : State) : Prop :=
  ∀ entry ∈ entries, RouteSettleable index entry.2 state

theorem AllSettleable.kept {entries : List (SessionId × SessionRoute)}
    (settleable : AllSettleable index entries state) (kept : StartsKept state after) :
    AllSettleable index entries after :=
  fun entry member => (settleable entry member).kept kept

theorem removeOrphanedSessions_starts :
    (starts config).Triple index name (fun _ => True) (locked (.removeOrphanedSessions agentId))
      fun (entries : List (SessionId × SessionRoute)) => AllSettleable index entries := by
  refine .perform (fun _ _ _ _ _ _ _ => trivial)
    (fun _ _ _ _ _ settleable rely _ => settleable.kept rely.kept) ?_
  intro size state after answer _ inv _ heard ran
  have kept := startsKept_exec (ran_exec ran)
  refine ⟨trivial, fun _ entry member startedTx pending => ?_⟩
  obtain ⟨sessionId, route⟩ := entry
  obtain rfl := registry_answer (ran_exec ran)
  obtain ⟨found, same⟩ := mem_removeOrphanedSessions.mp member
  obtain rfl : startedTx = sessionId := (inv.own _ _ found).2 startedTx pending
  refine ⟨lt_of_lt_of_le (inv.routed found) kept.created, .inr ?_⟩
  have heard : StartsHeard index name state (.registry (.removeOrphanedSessions agentId)) := heard
  rcases heard found same (by rw [Option.mem_def.mp pending]; rfl) with ⟨placed, registered⟩ | excused
  · refine ⟨index, kept.placement placed, .inr (not_up_iff.mpr (.inl ?_))⟩
    rw [history_exec (ran_exec ran)]
    simp [State.note, History.leavingAfter, registered]
  · exact excused.kept kept

theorem resolveTaskWaiter_unstarting (taskId : String) (result : TaskWaitResult) :
    (resolveTaskWaiter taskId result).Within Unstarting fun _ => True :=
  ⟨trivial, fun found => by cases (found : Option ℕ) <;> first | trivial | exact ⟨trivial, fun _ => trivial⟩⟩

theorem finishAgentRemoval_starts (entries : List (SessionId × SessionRoute))
    (orphanedTasks : List String) :
    (starts config).Triple index name (AllSettleable index entries)
      (finishAgentRemoval entries orphanedTasks) fun _ _ => True := by
  have told : (starts config).Triple index name (AllSettleable index entries)
      (Code.each entries tellOrphanedSession) fun _ => AllSettleable index entries :=
    .forEach (fun _ _ _ _ holds rely _ => holds.kept rely.kept) fun entry member =>
      tellSession_starts entry.2 _ _ AllSettleable.kept fun _ holds => holds entry member
  refine .bind told fun _ => ?_
  have resolved : (Code.each orphanedTasks tellOrphanedTask).Within Unstarting fun _ => True :=
    .each fun taskId _ => resolveTaskWaiter_unstarting taskId _
  exact .consequence (plain_starts (fun _ _ => trivial) resolved) (fun _ _ _ _ _ => trivial)
    fun _ _ _ _ _ holds => holds

theorem registerAgent_starts (hello : AgentHelloPayload) :
    (starts config).Triple index name (fun _ => True) (registerAgent config hello index)
      fun _ _ => True := by
  simp only [registerAgent]
  split_ifs
  · refine .bind removeOrphanedSessions_starts fun entries => ?_
    refine .bind (plain_starts (fun holds rely => holds.kept rely.kept) ⟨trivial, fun _ => trivial⟩)
      fun orphanedTasks => ?_
    refine .bind (finishAgentRemoval_starts entries orphanedTasks) fun _ => ?_
    exact plain_starts (fun _ _ => trivial) trivial
  · exact plain_starts (fun _ _ => trivial) trivial

theorem agentReturn_unstarting (result : Except BridgeError Unit) :
    (agentReturn result).Within Unstarting EmptyHanded :=
  ⟨trivial, fun _ => trivial⟩

theorem agentHello_starts :
    (starts config).Triple index name (fun _ => True) (agentHello config index)
      ((starts config).Exits index) := by
  refine .bind (plain_starts (fun _ _ => trivial) ⟨trivial, fun _ => trivial⟩) fun input => ?_
  match input with
  | .frame (.text (.ok (.hello hello))) =>
    refine .bind (registerAgent_starts hello) fun registered => ?_
    cases registered with
    | error error => exact goes_starts trivial
    | ok _ =>
      refine .bind (plain_starts (fun _ _ => trivial) ⟨rfl, fun _ => trivial⟩) fun greeted => ?_
      cases (greeted : Bool) with
      | true => exact goes_starts trivial
      | false => exact goes_starts (agentReturn_unstarting _)
  | .frame (.text (.ok (.sessionStarted _ _))) | .frame (.text (.ok (.asrPartial _ _)))
  | .frame (.text (.ok (.asrFinal _ _))) | .frame (.text (.ok (.sessionEnded _ _)))
  | .frame (.text (.ok (.error _ _))) | .frame (.text (.ok (.taskStatus _ _)))
  | .frame (.text (.ok .pong)) | .frame .ended | .frame (.failed _) | .frame (.text (.error _))
  | .frame (.binary _) | .frame .close | .frame (.ping _) | .frame .pong | .heartbeat _
  | .writerEnded => exact goes_starts trivial

/-- What an agent says about a session is noted when it is read. -/
theorem nextInput_starts :
    (starts config).Triple index name (fun _ => True) (perform (.agent .nextInput))
      fun (input : AgentInput) state => ∀ sessionId, input.complaint? = some sessionId →
        sessionId ∈ state.history.complained index := by
  refine .perform (fun _ _ _ _ _ _ _ => trivial)
    (fun _ _ _ _ _ told rely _ sessionId tells => rely.kept.complained (told sessionId tells)) ?_
  intro size state after answer _ _ _ _ ran
  refine ⟨trivial, fun _ sessionId tells => ?_⟩
  rw [history_exec (ran_exec ran)]
  have noted : (state.note index size (.agent .nextInput) answer).complained index =
      state.history.complained index ++ (AgentInput.complaint? answer).toList :=
    Function.update_self ..
  rw [noted, tells]
  exact List.mem_append_right _ (List.mem_singleton_self _)

theorem agentLoop_starts (agentId : String) :
    (starts config).Triple index name (fun _ => True) (agentLoop index agentId)
      ((starts config).Exits index) := by
  refine .bind nextInput_starts fun input => ?_
  have goes {code : Program (Option Procedure)} {told : State → Prop}
      (unstarting : code.Within Unstarting EmptyHanded) :
      (starts config).Triple index name told code ((starts config).Exits index) :=
    .consequence (goes_starts unstarting) (fun _ _ _ _ _ => trivial) fun _ _ _ _ _ holds => holds
  match input with
  | .frame (.text (.ok message)) =>
    exact .done (fun _ _ _ _ told rely _ sessionId tells => rely.kept.complained (told sessionId tells))
      fun _ _ _ _ told => told
  | .frame (.failed error) => exact goes (agentReturn_unstarting _)
  | .frame (.text (.error error)) => exact goes (agentReturn_unstarting _)
  | .frame (.ping _) | .heartbeat false => exact goes ⟨rfl, fun _ => trivial⟩
  | .frame .ended | .frame .close | .frame .pong | .frame (.binary _) | .heartbeat true
  | .writerEnded => exact goes trivial

theorem agentTeardown_starts (agentId : String) :
    (starts config).Triple index name (fun _ => True) (agentTeardown agentId)
      ((starts config).Exits index) := by
  have unregistered : (starts config).Triple index name (fun _ => True) (unregisterAgent agentId)
      fun _ _ => True := by
    refine .bind removeOrphanedSessions_starts fun entries => ?_
    refine .bind (plain_starts (fun holds rely => holds.kept rely.kept) ⟨trivial, fun _ => trivial⟩)
      fun orphanedTasks => ?_
    exact finishAgentRemoval_starts entries orphanedTasks
  refine .bind unregistered fun _ => ?_
  refine .bind (plain_starts (fun _ _ => trivial) ⟨trivial, fun _ => trivial⟩) fun _ => ?_
  exact goes_starts (agentReturn_unstarting _)

/-- An agent that fails a start has said so. -/
theorem complaint_starts {message : AgentToGatewayMessage} (error : BridgeError)
    (events : List BridgeAsrEvent)
    (tells : AgentToGatewayMessage.complaint? message = some sessionId) :
    (starts config).Triple index (.agentMessage agentId message)
      (Complained index (.agentMessage agentId message)) (do
        match ← locked (.removeSession sessionId) with
        | some route => tellSession route error events
        | none => pure () : Program Unit) fun _ _ => True := by
  refine (failed_starts error events ?_ ?_).post fun _ _ _ _ _ _ => trivial
  · exact fun complained kept sessionId tells => kept.complained (complained sessionId tells)
  · intro state route complained found pending heard
    rcases heard rfl found pending with placed | excused
    · exact .inr ⟨index, placed, .inl (complained sessionId tells)⟩
    · exact .inr excused

theorem markSessionStarted_starts (sessionId : SessionId) :
    (starts config).Triple index name (fun _ => True) (markSessionStarted sessionId)
      fun _ _ => True := by
  have takes : (starts config).Triple index name (fun _ => True) (locked (.takeStarted sessionId))
      fun (found : Option SessionId) state => ∀ startedTx ∈ found,
        startedTx.serial < state.sessionSerial := by
    refine .perform (fun _ _ _ _ _ _ _ => trivial) (fun _ _ _ _ _ exists_ rely _ startedTx member =>
      lt_of_lt_of_le (exists_ startedTx member) rely.kept.created) ?_
    intro size state after answer _ inv _ _ ran
    refine ⟨trivial, fun _ startedTx member => ?_⟩
    have taken : (state.registry.takeStarted sessionId).2 = some startedTx :=
      (registry_answer (ran_exec ran)).symm.trans member
    cases found : state.registry.sessions.lookup sessionId with
    | none =>
      rw [AgentRegistry.takeStarted, found] at taken
      cases taken
    | some route =>
      rw [AgentRegistry.takeStarted, found] at taken
      obtain rfl := (inv.own _ _ found).2 startedTx taken
      exact lt_of_lt_of_le (inv.routed found) (sessionSerial_exec (ran_exec ran))
  refine .bind takes fun found => ?_
  cases found with
  | none =>
    exact .consequence (plain_starts (fun _ _ => trivial) trivial) (fun _ _ _ _ _ => trivial)
      fun _ _ _ _ _ holds => holds
  | some startedTx =>
    refine (sendStarted_starts (.ok ()) (fun exists_ kept => lt_of_lt_of_le exists_ kept.created)
      fun state exists_ => ⟨exists_, fun failed => by cases failed⟩).consequence (fun _ _ _ _ holds => holds startedTx rfl)
      fun _ _ _ _ _ _ => trivial

theorem handleAgentMessage_starts (message : AgentToGatewayMessage) :
    (starts config).Triple index (.agentMessage agentId message)
      (Complained index (.agentMessage agentId message)) (handleAgentMessage message)
      fun _ _ => True := by
  have plain {code : Program Unit} (unstarting : code.Within Unstarting fun _ => True) :
      (starts config).Triple index (.agentMessage agentId message)
        (Complained index (.agentMessage agentId message)) code fun _ _ => True :=
    (plain_starts Complained.rely unstarting).post fun _ _ _ _ _ _ => trivial
  have routes (sessionId : SessionId) (event : BridgeAsrEvent) :
      (routeEvent sessionId event).Within Unstarting fun _ => True := by
    refine ⟨trivial, fun found => ?_⟩
    cases (found : Option SessionId) with
    | none => trivial
    | some eventTx => exact ⟨trivial, fun _ => trivial⟩
  cases message with
  | hello _ | pong => exact plain trivial
  | sessionStarted sessionId providerId =>
    exact .consequence (markSessionStarted_starts sessionId) (fun _ _ _ _ _ => trivial)
      fun _ _ _ _ _ holds => holds
  | asrPartial sessionId text => exact plain (routes sessionId _)
  | asrFinal sessionId transcript => exact plain (routes sessionId _)
  | sessionEnded sessionId reason => exact complaint_starts _ _ rfl
  | taskStatus taskId payload =>
    refine plain ⟨trivial, fun found => ?_⟩
    cases (found : Option String) with
    | none => trivial
    | some routed =>
      dsimp only
      split_ifs
      · trivial
      · exact ⟨trivial, fun _ => resolveTaskWaiter_unstarting taskId _⟩
  | error sessionId message =>
    cases sessionId with
    | none => exact plain trivial
    | some sessionId =>
      refine .bind (plain_starts Complained.rely ⟨trivial, fun _ => trivial⟩) fun pending => ?_
      cases (pending : Bool) with
      | true => exact complaint_starts _ _ rfl
      | false => exact plain (routes sessionId _)

theorem agentMessage_starts (message : AgentToGatewayMessage) :
    (starts config).Triple index (.agentMessage agentId message)
      (Complained index (.agentMessage agentId message)) (agentMessage agentId message)
      ((starts config).Exits index) :=
  .bind (handleAgentMessage_starts message) fun _ => goes_starts trivial

/-! ## Client connections -/

/-- A session of the task, that was placed as far as is known, and whose start has not failed without
an excuse. -/
structure Starting (index : ℕ) (sessionId : SessionId) (placement : Option ℕ) (state : State) :
    Prop where
  creator : sessionId.creator = index
  created : sessionId.serial < state.sessionSerial
  placed : state.history.sessionPlacement sessionId = placement
  failed : ∀ error, state.started sessionId = .sent (.error error) → Excused state sessionId

theorem Starting.rely {placement : Option ℕ} (starting : Starting index sessionId placement state)
    (rely : StartRely index state after) : Starting index sessionId placement after where
  creator := starting.creator
  created := lt_of_lt_of_le starting.created rely.kept.created
  placed := (rely.placement starting.creator).trans starting.placed
  failed error sent := by
    rcases rely.failed starting.creator sent with before | excused
    · exact (starting.failed error before).kept rely.kept
    · exact excused

variable {connection : ℕ}

def SelectedAgent (index connection : ℕ) (state : State) : Prop :=
  state.history.selected index = some connection

theorem SelectedAgent.rely (chosen : SelectedAgent index connection state)
    (rely : StartRely index state after) : SelectedAgent index connection after :=
  rely.selected.trans chosen

theorem selectAgent_starts (providerId : String) :
    (starts config).Triple index name (fun _ => True) (locked (.selectAgent providerId))
      fun (found : Option RegisteredAgent) state => ∀ agent ∈ found,
        SelectedAgent index agent.commandTx state := by
  refine .perform (fun _ _ _ _ _ _ _ => trivial) (fun _ _ _ _ _ chosen rely _ agent member =>
    (chosen agent member).rely rely) ?_
  intro size state after answer _ _ _ _ ran
  refine ⟨trivial, fun _ agent member => ?_⟩
  obtain rfl : answer = some agent := member
  change after.history.selected index = some agent.commandTx
  rw [history_exec (ran_exec ran)]
  exact Function.update_self ..

theorem createSession_starts :
    (starts config).Triple index name (SelectedAgent index connection) (perform .createSession)
      fun (sessionId : SessionId) state =>
        SelectedAgent index connection state ∧ Starting index sessionId none state := by
  refine .perform (fun _ _ _ _ chosen rely _ => chosen.rely rely)
    (fun _ _ _ _ _ holds rely _ => ⟨holds.1.rely rely, holds.2.rely rely⟩) ?_
  intro size state after answer _ inv chosen _ ran
  have steady : Steady .createSession := trivial
  have rely : StartRely index state after := steady_rely steady (ran_exec ran)
  refine ⟨trivial, fun _ => ⟨chosen.rely rely, ?_⟩⟩
  rcases createdSession_exec (ran_exec ran) with ⟨none_, _⟩ | ⟨some_, next⟩
  · cases none_
  · obtain rfl : answer = ⟨index, state.sessionSerial⟩ := Option.some.inj some_
    obtain ⟨waiting, unplaced⟩ := inv.fresh (le_refl (⟨index, state.sessionSerial⟩ : SessionId).serial)
    refine ⟨rfl, by rw [next]; exact Nat.lt_succ_self _, (rely.placement rfl).trans unplaced, ?_⟩
    intro error sent
    rcases rely.failed rfl sent with before | excused
    · rw [waiting] at before
      cases before
    · exact excused

theorem registerSession_starts (agentId : String) :
    (starts config).Triple index name
      (fun state => SelectedAgent index connection state ∧ Starting index sessionId none state)
      (locked (.registerSession agentId sessionId))
      fun _ => Starting index sessionId (some connection) := by
  refine .perform (fun _ _ _ _ holds rely _ => ⟨holds.1.rely rely, holds.2.rely rely⟩)
    (fun _ _ _ _ _ starting rely _ => starting.rely rely) ?_
  rintro size state after answer _ _ ⟨chosen, starting⟩ _ ran
  have kept := startsKept_exec (ran_exec ran)
  refine ⟨⟨starting.creator, starting.created, starting.placed⟩, fun _ => ?_⟩
  refine ⟨starting.creator, lt_of_lt_of_le starting.created kept.created, ?_, fun error sent => ?_⟩
  · rw [history_exec (ran_exec ran)]
    have placed : (state.note index size (.registry (.registerSession agentId sessionId))
        answer).sessionPlacement sessionId =
          (state.history.sessionPlacement sessionId).or (state.history.selected index) :=
      Function.update_self ..
    rw [placed, starting.placed, Option.none_or]
    exact chosen
  · rcases started_error (ran_exec ran) sent with before | sends
    · exact (starting.failed error before).kept kept
    · cases sends

theorem sessionStart_starts (request : AsrStreamRequest) :
    (starts config).Triple index name (Starting index sessionId (some connection))
      (perform (.sendAgent connection (.sessionStart sessionId request)))
      fun _ => Starting index sessionId (some connection) := by
  refine .perform (fun _ _ _ _ starting rely _ => starting.rely rely)
    (fun _ _ _ _ _ starting rely _ => starting.rely rely) ?_
  intro size state after answer _ _ starting _ ran
  have steady : Steady (.sendAgent connection (.sessionStart sessionId request)) := trivial
  refine ⟨fun other starts => ?_, fun _ => starting.rely (steady_rely steady (ran_exec ran))⟩
  obtain rfl := Option.some.inj starts
  exact starting.placed

theorem abandonSession_unstarting (error : BridgeError) :
    (abandonSession sessionId error).Within Unstarting fun _ => True :=
  ⟨trivial, fun _ => ⟨trivial, fun _ => trivial⟩⟩

/-- The creator gives its session up. -/
theorem refused_starts (error : BridgeError) (own : sessionId.creator = index) :
    (starts config).Triple index name (fun _ => True)
      (do failSessionStart sessionId error
          abandonSession sessionId error) fun _ _ => True :=
  .bind (failed_starts error _ (fun _ _ => trivial) fun _ _ _ _ => .inl own) fun _ =>
    plain_starts (fun _ _ => trivial) (abandonSession_unstarting error)

theorem awaitStarted_starts (session : AsrSession) :
    (starts config).Triple index name (Starting index session.id (some connection))
      (startRemote.await session) fun _ _ => True := by
  refine .assume (fun _ _ _ _ starting => starting.creator) fun own => ?_
  have awaits : (starts config).Triple index name (Starting index session.id (some connection))
      (perform (.awaitStarted session.id)) fun _ _ => True :=
    .perform (fun _ _ _ _ starting rely _ => starting.rely rely) (fun _ _ _ _ _ _ _ _ => trivial)
      fun _ _ _ _ _ _ starting _ _ => ⟨starting.failed, fun _ => trivial⟩
  refine .bind awaits fun awaited => ?_
  match awaited with
  | .value (.ok _) => exact plain_starts (fun _ _ => trivial) trivial
  | .value (.error error) =>
    exact plain_starts (fun _ _ => trivial) (abandonSession_unstarting error)
  | .dropped | .elapsed => exact refused_starts _ own

theorem startRemote_starts (providerId : String) (request : AsrStreamRequest) :
    (starts config).Triple index name (fun _ => True) (startRemote providerId request)
      fun _ _ => True := by
  have begins : (starts config).Triple index name (fun _ => True)
      (startRemote.start providerId request) fun _ _ => True := by
    refine .bind (selectAgent_starts providerId) fun selected => ?_
    cases selected with
    | none =>
      exact .consequence (plain_starts (fun _ _ => trivial) trivial) (fun _ _ _ _ _ => trivial)
        fun _ _ _ _ _ holds => holds
    | some agent =>
      refine .consequence (.bind createSession_starts fun sessionId => ?_)
        (fun _ _ _ _ chosen => chosen agent rfl) fun _ _ _ _ _ holds => holds
      refine .bind (registerSession_starts agent.agentId) fun _ => ?_
      refine .bind (sessionStart_starts request) fun sent => ?_
      refine .assume (fun _ _ _ _ starting => starting.creator) fun own => ?_
      cases (sent : Bool) with
      | false =>
        exact .consequence (refused_starts _ own) (fun _ _ _ _ _ => trivial)
          fun _ _ _ _ _ holds => holds
      | true =>
        refine .bind (plain_starts Starting.rely ⟨nofun, fun _ => trivial⟩) fun _ => ?_
        exact awaitStarted_starts ⟨sessionId, providerId, request.inputFormat,
          requestedInputMode request.options, requestedOutputMode request.options⟩
  unfold startRemote
  split
  · split
    · exact begins
    · exact plain_starts (fun _ _ => trivial) trivial
  · exact begins

theorem startAsr_starts (payload : AsrStreamRequest) :
    (starts config).Triple index name (fun _ => True) (startAsr config payload)
      fun _ _ => True := by
  unfold startAsr
  split
  · exact plain_starts (fun _ _ => trivial) trivial
  · exact startRemote_starts _ _
  · exact plain_starts (fun _ _ => trivial) ⟨trivial, fun _ => trivial⟩

theorem commandBridge_unstarting {sent : Program Bool} (plain : sent.Within Unstarting fun _ => True) :
    (commandBridge sent).Within Unstarting fun _ => True :=
  plain.bind fun accepted _ => by cases accepted <;> trivial

theorem stopSession_unstarting (sessionId : SessionId) :
    (stopSession sessionId).Within Unstarting fun _ => True := by
  have asks : (perform (.client .activeSession)).Within Unstarting fun _ => True :=
    ⟨trivial, fun _ => trivial⟩
  refine asks.bind fun active _ => ?_
  cases (active : Option ActiveSession) with
  | none => trivial
  | some session =>
    have stops : (ActiveSession.stop session).Within Unstarting fun _ => True := by
      cases session <;> exact commandBridge_unstarting ⟨trivial, fun _ => trivial⟩
    dsimp only
    split
    · refine stops.bind fun stopped _ => ?_
      cases stopped with
      | error error => trivial
      | ok _ => exact ⟨trivial, fun _ => by cases session <;> exact ⟨trivial, fun _ => trivial⟩⟩
    · trivial

theorem handleClientMessage_starts (message : ClientMessage) :
    (starts config).Triple index name (fun _ => True) (handleClientMessage config index message)
      ((starts config).Exits index) := by
  have replies (reply : ServerMessage) : (sendReply index reply).Within Unstarting fun _ => True :=
    ⟨trivial, fun accepted => by cases (accepted : Bool) <;> trivial⟩
  have answered {code : Program (Except ServerError Unit)}
      (plain : code.Within Unstarting fun _ => True) : (do
        let result ← code
        return some (.clientReply message result) : Program (Option Procedure)).Within Unstarting
          EmptyHanded := by
    refine plain.bind fun _ _ => ?_
    trivial
  cases message with
  | hello requestId payload | discover requestId domains | ping requestId =>
    exact goes_starts (answered (replies _))
  | asrTranscribe requestId => exact goes_starts trivial
  | asrStart requestId payload =>
    refine .bind (plain_starts (fun _ _ => trivial) ⟨trivial, fun _ => trivial⟩) fun active => ?_
    cases (active : Option ActiveSession) with
    | some session => exact goes_starts trivial
    | none => exact .bind (startAsr_starts payload) fun outcome => goes_starts trivial
  | asrCommit sessionId | ttsInputAppend sessionId delta | ttsCommit sessionId =>
    refine .bind (plain_starts (fun _ _ => trivial) ⟨trivial, fun _ => trivial⟩) fun active => ?_
    refine goes_starts (answered ?_)
    unfold whenActive
    split
    · exact commandBridge_unstarting ⟨trivial, fun _ => trivial⟩
    · trivial
  | ttsVoices requestId payload =>
    simp only [handleClientMessage]
    split
    · exact goes_starts trivial
    · refine .bind (plain_starts (fun _ _ => trivial) ⟨trivial, fun _ => trivial⟩) fun listed => ?_
      cases listed with
      | error error => exact goes_starts trivial
      | ok voices => exact goes_starts (answered (replies _))
  | ttsStart requestId payload =>
    refine .bind (plain_starts (fun _ _ => trivial) ⟨trivial, fun _ => trivial⟩) fun active => ?_
    cases (active : Option ActiveSession) with
    | some session => exact goes_starts trivial
    | none =>
      dsimp only
      split
      · exact goes_starts trivial
      · exact goes_starts ⟨trivial, fun _ => trivial⟩
  | sessionStop sessionId | sessionCancel sessionId =>
    exact goes_starts (answered (stopSession_unstarting sessionId))

/-! ## All runs -/

/-- The roles that are disposed of by their actions alone. -/
theorem role_startGuar {role : Role} (tells : ¬ role.Tells) (permitted : role.Permits index action) :
    StartGuar index state action := by
  cases action with
  | registry action =>
    cases action with
    | registerSession agentId sessionId =>
      cases role with
      | clientHandling => exact absurd trivial tells
      | _ => exact permitted.elim
    | _ => trivial
  | sendStarted sessionId result => exact absurd permitted tells
  | awaitStarted sessionId =>
    obtain rfl : role = .clientHandling := permitted
    exact absurd trivial tells
  | sendAgent connection message =>
    intro sessionId starts
    exfalso
    have commands : role.Commands index connection message := permitted
    cases role with
    | agentGreeting | agentIdle | commands => simp [commands.2.2] at starts
    | controlPlaying =>
      have playback : message.taskId?.isSome := commands
      cases message with
      | sessionStart sessionId request => cases playback
      | _ => cases starts
    | clientHandling => exact tells trivial
    | _ => exact commands
  | spawn procedure =>
    cases role with
    | clientHandling => exact absurd trivial tells
    | clientStarting => cases procedure <;> first | exact permitted.elim | nofun
    | _ => exact permitted.elim
  | _ => trivial

theorem role_emptyHanded {role : Role} (other : role.family ≠ .agent) {exit : Option Procedure}
    (continues : role.Continues exit) : EmptyHanded exit := by
  cases exit with
  | none => trivial
  | some procedure =>
    cases procedure with
    | agentMessage agentId message =>
      cases role <;> first
        | exact absurd rfl other
        | (rcases continues with same | same <;> cases same)
    | _ => trivial

theorem other_starts (tells : ¬ name.role.Tells) (other : name.role.family ≠ .agent) :
    (starts config).Safe index name (body config index name) ((starts config).Exits index)
      state := by
  refine .within (body_plays config index name) ?_ fun exit continues _ _ _ _ => ?_
  · exact fun _ permitted _ _ _ _ _ _ _ _ => role_startGuar tells permitted
  · cases exit with
    | none => trivial
    | some procedure => exact (role_emptyHanded other continues).exits

theorem starts_valid : (starts config).Valid where
  pre_stable _ complained rely _ := complained.rely rely
  body {index name size state} bound inv _ complained := by
    cases name with
    | agentHello => exact agentHello_starts size state bound inv trivial
    | agentLoop agentId => exact agentLoop_starts agentId size state bound inv trivial
    | agentMessage agentId message => exact agentMessage_starts message size state bound inv complained
    | agentTeardown agentId => exact agentTeardown_starts agentId size state bound inv trivial
    | clientMessage message => exact handleClientMessage_starts message size state bound inv trivial
    | controlLoop | playAudio _ | controlReply _ | clientLoop | asrStarted _ _ _ | ttsStarted _ _ _
    | clientReply _ _ | clientTeardown | asrForwarder _ _ _ _ _ | ttsForwarder _ _ _ _ _ _
    | forwardCommandsToAgent _ _ | deviceHello _ | deviceWait | deviceLoop | deviceMessage _
    | agentReturned _ | returned =>
      exact other_starts id nofun
  action {index name size state action after answer} _ inv heard guar ran := by
    have heard : StartsHeard index name state action := heard
    refine ⟨inv.exec heard guar (ran_exec ran), fun _ other _ => startRely_exec guar other (ran_exec ran),
      fun offset procedure spawns => ?_⟩
    cases action with
    | spawn entered =>
      obtain rfl := List.mem_singleton.mp (List.mem_of_getElem? spawns)
      have family : procedure.role.family ≠ .agent := guar
      cases procedure with
      | agentMessage agentId message => exact absurd rfl family
      | _ => trivial
    | _ => exact nomatch List.mem_of_getElem? spawns
  event {size state event after spawned} inv _ occurred := by
    have undisturbed := occur_undisturbed occurred
    have kept := startsKept_occur occurred
    refine ⟨?_, fun index _ => ⟨kept, ?_, fun _ => ?_, fun _ sent => .inl ?_⟩,
      fun offset procedure enters => ?_⟩
    · refine ⟨inv.own.agree undisturbed.registry, fun found => ?_, fun new => ?_, ?_, fun failed => ?_,
        fun sent => ?_⟩
      · rw [undisturbed.registry.sessions] at found
        exact lt_of_lt_of_le (inv.routed found) kept.created
      · rw [undisturbed.sessionSerial] at new
        rw [undisturbed.started, undisturbed.history]
        exact inv.fresh new
      · rw [undisturbed.started]
        exact inv.answered
      · rw [undisturbed.history] at failed
        exact (inv.excused failed).kept kept
      · rw [undisturbed.history]
        obtain ⟨command, queued, starts⟩ := sent
        rw [occur_commanded occurred] at queued
        exact inv.placed ⟨command, queued, starts⟩
    · rw [undisturbed.history]
    · rw [undisturbed.history]
    · rwa [undisturbed.started] at sent
    · have opens := occur_opens occurred procedure (List.mem_of_getElem? enters)
      cases procedure with
      | agentMessage agentId message => exact opens.elim
      | _ => trivial

theorem starts_initial : (starts config).Good (initial config) := by
  refine ⟨⟨routesOwn_empty, fun found => ?_, fun _ => ⟨rfl, rfl⟩, nofun, nofun, fun sent => ?_⟩,
    fun _ _ found => nomatch found⟩
  · cases found
  · obtain ⟨_, queued, _⟩ := sent
    cases queued

/-- Along every schedule whose failed starts are heard, a failed start leaves no session behind at an
agent that stays connected. -/
theorem failed_starts_released (config : GatewayConfig) (schedule : List (Choice (system config)))
    (last : World (system config)) (ran : (initial config).replay? schedule = some last)
    (heard : World.Along (World.OnAction StartsHeard) (initial config) schedule) :
    NoOrphans last.state := by
  have good := starts_initial.replay starts_valid (heard.imp fun world choice allowed =>
    ⟨allowed.effect, .always (fun _ _ _ => trivial) _ _, .always (fun _ _ => trivial) _ _⟩) ran
  intro sessionId connection failed sent up _
  obtain ⟨placement, placed, told | down⟩ := good.inv.excused failed
  · obtain rfl := Option.some.inj (placed.symm.trans (good.inv.placed sent))
    exact .inr told
  · obtain rfl := Option.some.inj (placed.symm.trans (good.inv.placed sent))
    exact absurd up down

open Scenario in
/-- An agent is asked to start a session. -/
def startsRemotely : List (Choice (system Scenario.agentConfig)) :=
  registers 0 speaker ++ asksRecognition 1 ++ turns 9 1

open Scenario in
/-- The agent reports that the session has failed, and the start fails. -/
def reportsFailedStart : List (Choice (system Scenario.agentConfig)) :=
  startsRemotely ++ [agentSays 0 (.error (some ⟨1, 0⟩) "no model")] ++ turns 7 0 ++ turns 3 1 ++
    turns 3 2

open Scenario in
theorem failed_starts_released_reported : ∃ last : World (system Scenario.agentConfig),
    (initial Scenario.agentConfig).replay? reportsFailedStart = some last ∧
      NoOrphans last.state := by
  obtain ⟨last, ran⟩ : ∃ last,
      (initial Scenario.agentConfig).replay? reportsFailedStart = some last := ⟨_, rfl⟩
  refine ⟨last, ran, failed_starts_released Scenario.agentConfig _ last ran ?_⟩
  refine .step True.intro rfl (.step True.intro rfl (.step True.intro rfl ?_))
  refine .step True.intro rfl ?_
  refine .step (fun found => nomatch found) rfl ?_
  refine .step True.intro rfl (.step True.intro rfl (.step True.intro rfl ?_))
  refine .step True.intro rfl (.step True.intro rfl (.step True.intro rfl ?_))
  refine .step True.intro rfl (.step True.intro rfl (.step True.intro rfl ?_))
  refine .step True.intro rfl (.step True.intro rfl (.step True.intro rfl ?_))
  refine .step True.intro rfl (.step True.intro rfl ?_)
  -- the agent answers, and its message is about a session that was placed on its connection
  refine .step True.intro rfl (.step True.intro rfl (.step True.intro rfl ?_))
  refine .step True.intro rfl (.step (fun _ _ _ => .inl rfl) rfl ?_)
  refine .step True.intro rfl (.step True.intro rfl ?_)
  -- the start is answered, so that it does not time out
  refine .step (fun waiting => nomatch waiting) rfl ?_
  refine .step True.intro rfl (.step True.intro rfl ?_)
  exact .step True.intro rfl (.step True.intro rfl (.step True.intro rfl True.intro))

open Scenario in
/-- The start times out while the agent is at work. -/
def timesOut : List (Choice (system Scenario.agentConfig)) :=
  startsRemotely ++ [occurs (.timeElapses 1)] ++ turns 5 1 ++ turns 3 2

open Scenario in
/-- Another connection takes the agent's id while the start is pending. -/
def replacesStarting : List (Choice (system Scenario.agentConfig)) :=
  startsRemotely ++ registers 3 speaker ++ turns 3 1 ++ turns 3 2

open Scenario in
/-- The starts fail, the forwarders have ended, and no stop was sent to the agent. -/
theorem failed_starts_orphaned :
    ¬ (∀ last : World (system Scenario.agentConfig),
      (initial Scenario.agentConfig).replay? timesOut = some last → NoOrphans last.state) ∧
    ¬ ∀ last : World (system Scenario.agentConfig),
      (initial Scenario.agentConfig).replay? replacesStarting = some last →
        NoOrphans last.state := by
  constructor <;> intro always
  · obtain ⟨last, ran⟩ : ∃ last, (initial Scenario.agentConfig).replay? timesOut = some last :=
      ⟨_, rfl⟩
    have released : NoOrphans last.state := fun {_ _} => always last ran
    cases ran
    rcases @released ⟨1, 0⟩ 0 rfl ⟨_, .tail _ (.head _), rfl⟩ ⟨rfl, rfl⟩ rfl with ⟨command, queued, stops⟩ | told
    · rcases queued with _ | ⟨_, _ | ⟨_, queued⟩⟩
      · cases stops
      · cases stops
      · cases queued
    · cases told
  · obtain ⟨last, ran⟩ : ∃ last,
        (initial Scenario.agentConfig).replay? replacesStarting = some last := ⟨_, rfl⟩
    have released : NoOrphans last.state := fun {_ _} => always last ran
    cases ran
    rcases @released ⟨1, 0⟩ 0 rfl ⟨_, .tail _ (.head _), rfl⟩ ⟨rfl, rfl⟩ rfl with ⟨command, queued, stops⟩ | told
    · rcases queued with _ | ⟨_, _ | ⟨_, queued⟩⟩
      · cases stops
      · cases stops
      · cases queued
    · cases told

end SpeechMesh.Soundness
