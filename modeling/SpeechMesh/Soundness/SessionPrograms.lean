import SpeechMesh.Soundness.SessionContract

/-! # Every program keeps session ownership

The agent side tells the client side of the routes it has taken out of the map; the client side
makes one session at a time and hands it to a forwarder and to the slot. What the programs do beside
that changes nothing they rely on.
-/

namespace SpeechMesh.Soundness

open Async Model

variable {config : GatewayConfig} {index size fresh connection : ℕ} {name : Procedure}
  {state after : State} {action : Action} {answer : action.Answer} {sessionId : SessionId}
  {agentId : String}

/-! ## Actions beside the session -/

/-- The actions by which a task changes nothing that it relies on itself. -/
def OffSession : Action → Prop
  | .registry (.deviceRegisterAgent _) | .registry (.registerSession _ _)
  | .registry (.selectAgent _) | .registry (.selectSpeakerAgent _ _)
  | .registry (.sessionEventTx _) | .sendStarted _ _ | .asr _ (.sendEvent _)
  | .client (.setActive _) => False
  | .sendClient _ message => message.sessionId? = none
  | .spawn procedure => ∀ connection sessionId, procedure.role ≠ .forwarder connection sessionId
  | _ => True

theorem OffSession.quiet (aside : OffSession action) : Quiet action := by
  cases action with
  | registry section_ => cases section_ <;> trivial
  | asr sessionId operation => cases operation <;> trivial
  | client operation =>
    cases operation with
    | setActive active => exact aside.elim
    | _ => trivial
  | sendStarted sessionId result => exact aside
  | spawn procedure => exact aside
  | _ => trivial

/-- What a task does aside stays within what it relies on. -/
theorem OffSession.rely (aside : OffSession action) (owned : SessionsOwned size state)
    (step : SessionStep index name action state)
    (ran : State.exec index fresh state action = some (after, answer)) :
    SessionRely index state after where
  created := sessionSerial_exec ran
  registration := fun _ _ => (extends_exec ran).registration
  unregistered := by
    intro none_
    rcases registration_exec ran index with same | ⟨_, agent, rfl, _⟩
    · rw [same, none_]
    · exact aside.elim
  selected := by
    rw [history_exec ran]
    simp only [State.note]
    unfold History.selectedAfter
    split <;> first | exact aside.elim | rfl
  unclaimed := by
    intro sessionId _ unclaimed
    refine unclaimed.step owned.own step ran ?_
    rintro agentId rfl
    exact aside
  unforwarded := by
    intro sessionId _ unforwarded
    rcases forwarder_exec ran sessionId with same | ⟨procedure, connection, rfl, role, _⟩
    · rwa [same]
    · exact absurd role (aside connection sessionId)
  forwarder := by
    intro sessionId task found
    rcases forwarder_exec ran sessionId with same | ⟨procedure, connection, rfl, role, _⟩
    · rwa [same]
    · exact absurd role (aside connection sessionId)
  holds := by
    intro sessionId held
    constructor
    · rcases holder_exec ran sessionId with same | ⟨_, ⟨route, found⟩, _⟩
      · rwa [same]
      · rw [(owned.routed sessionId route found).1] at held
        cases held
    · rcases concluded_exec ran sessionId with same | ⟨_, event, rfl, _⟩
      · exact same
      · exact aside.elim
  starts := by
    intro sessionId held
    constructor
    · rcases startHolder_exec ran owned.own sessionId with same | ⟨_, ⟨route, found, pending⟩, _⟩
      · rwa [same]
      · rw [(owned.pending sessionId route found (by simp [pending])).1] at held
        cases held
    · intro waiting
      rw [started_exec ran]
      unfold State.startedAfter
      split
      · exact aside.elim
      · exact waiting
  sending := by
    rw [history_exec ran]
    simp only [State.note]
    unfold History.sendingAfter
    split <;> first | exact aside.elim | rfl
  active := by
    rcases active_exec ran index with same | ⟨_, active, rfl, _⟩
    · exact same
    · exact aside.elim
  vacated := by
    rcases vacated_exec ran index with same | ⟨_, active, rfl, _⟩
    · exact same
    · exact aside.elim
  announced := by
    rw [(connections_exec ran).queued]
    unfold State.queuedAfter
    split
    · rename_i other message accepted
      by_cases same : index = other
      · subst same
        rw [Function.update_self]
        cases accepted with
        | false => simp
        | true =>
          have silent : ServerMessage.startedSession? message = none := by
            have unnamed : message.sessionId? = none := aside
            cases message <;> first | rfl | cases unnamed
          simp only [if_true, lastStarted_append, silent, Option.none_or]
      · rw [Function.update_of_ne same]
    · rfl

/-- The role acts for more than the session it forwards. -/
def NoForwarder (role : Role) : Prop :=
  ∀ connection sessionId, role ≠ .forwarder connection sessionId

theorem keeps_sessions {α : Type} {code : Program α} {values : α → Prop}
    {assertion : State → Prop}
    (stable : ∀ {before after}, assertion before → SessionRely index before after → assertion after)
    (role : NoForwarder name.role)
    (within : code.Within (fun action => name.role.Permits index action ∧ OffSession action)
      values) :
    (sessions config).Triple index name assertion code
      fun value state => values value ∧ assertion state := by
  refine Contract.Triple.within within (fun _ _ _ _ holds rely _ => stable holds rely) ?_
  rintro action ⟨permitted, aside⟩ size state after answer _ owned holds _ ran
  have step : SessionStep index name action state := .quiet permitted aside.quiet role
  exact ⟨step, fun _ => stable holds (aside.rely owned step (ran_exec ran))⟩

theorem plain_sessions {α : Type} {code : Program α} {assertion : State → Prop}
    (stable : ∀ {before after}, assertion before → SessionRely index before after → assertion after)
    (role : NoForwarder name.role)
    (within : code.Within (fun action => name.role.Permits index action ∧ OffSession action)
      fun _ => True) :
    (sessions config).Triple index name assertion code fun _ => assertion :=
  (keeps_sessions stable role within).post fun _ _ _ _ _ holds => holds.2

/-- The procedure entered next needs nothing. -/
def Undemanding : Option Procedure → Prop
  | none => True
  | some next => ∀ index state, Ready index next state

theorem goes_sessions {code : Program (Option Procedure)} {assertion : State → Prop}
    (stable : ∀ {before after}, assertion before → SessionRely index before after → assertion after)
    (role : NoForwarder name.role)
    (within : code.Within (fun action => name.role.Permits index action ∧ OffSession action)
      Undemanding) :
    (sessions config).Triple index name assertion code ((sessions config).Exits index) := by
  refine (keeps_sessions stable role within).post fun exit _ state _ _ holds => ?_
  cases exit with
  | none => trivial
  | some next => exact holds.1 index state

/-! ## Taking routes -/

/-- The task has the start sender of the session in hand. -/
def HoldsStart (index : ℕ) (sessionId : SessionId) (state : State) : Prop :=
  state.history.startHolder sessionId = some index ∧ state.started sessionId = .waiting

theorem HoldsStart.rely (holds : HoldsStart index sessionId state)
    (rely : SessionRely index state after) : HoldsStart index sessionId after :=
  ⟨(rely.starts sessionId holds.1).1, (rely.starts sessionId holds.1).2 holds.2⟩

theorem HoldingAll.rely {entries : List (SessionId × SessionRoute)}
    (holding : HoldingAll index entries state) (rely : SessionRely index state after) :
    HoldingAll index entries after :=
  fun entry member => (holding entry member).rely rely

/-- A route that a task has just taken is held by it. -/
theorem holding_taken {route : SessionRoute} (owned : SessionsOwned size state)
    (found : state.registry.sessions.lookup sessionId = some route)
    (holder : after.history.holder sessionId = some index)
    (startHolder : route.startedTx = some sessionId →
      after.history.startHolder sessionId = some index)
    (quiet : after.started = state.started ∧ after.history.concluded = state.history.concluded) :
    Holding index (sessionId, route) after where
  own := owned.own sessionId route found
  holder := holder
  untold := by rw [quiet.2]; exact (owned.routed sessionId route found).2
  pending pending := by
    obtain ⟨startedTx, present⟩ := Option.isSome_iff_exists.mp pending
    obtain rfl := (owned.own sessionId route found).2 startedTx present
    rw [quiet.1]
    exact ⟨startHolder present, (owned.pending startedTx route found pending).2⟩

/-- Taking the route of one session out of the map. -/
theorem removeSession_sessions (role : NoForwarder name.role)
    (permitted : name.role.Permits index (.registry (.removeSession sessionId))) :
    (sessions config).Triple index name (fun _ => True) (locked (.removeSession sessionId))
      fun (found : Option SessionRoute) state => ∀ route ∈ found,
        HoldingAll index [(sessionId, route)] state := by
  refine .perform (fun _ _ _ _ _ _ _ => trivial)
    (fun _ _ _ _ _ holding rely _ route member => (holding route member).rely rely) ?_
  intro size state after answer _ owned _ _ ran
  refine ⟨.quiet permitted trivial role, fun _ route member entry single => ?_⟩
  obtain rfl : answer = some route := member
  obtain rfl := List.mem_singleton.mp single
  have history := history_exec (ran_exec ran)
  have found : state.registry.sessions.lookup sessionId = some route :=
    (registry_answer (ran_exec ran)).symm
  refine holding_taken owned found ?_ (fun pending => ?_) ⟨started_exec (ran_exec ran), ?_⟩
  · rw [history]
    exact Function.update_self ..
  · rw [history]
    exact if_pos pending
  · rw [history]
    rfl

/-- Taking the routes of an agent id out of the map. -/
theorem removeOrphanedSessions_sessions {assertion : State → Prop} (role : NoForwarder name.role)
    (stable : ∀ {before after}, assertion before → SessionRely index before after → assertion after)
    (permitted : name.role.Permits index (.registry (.removeOrphanedSessions agentId))) :
    (sessions config).Triple index name assertion (locked (.removeOrphanedSessions agentId))
      fun (entries : List (SessionId × SessionRoute)) state =>
        (entries.map Prod.fst).Nodup ∧ HoldingAll index entries state ∧ assertion state := by
  refine .perform (fun _ _ _ _ holds rely _ => stable holds rely)
    (fun _ _ _ _ _ holds rely _ => ⟨holds.1, holds.2.1.rely rely, stable holds.2.2 rely⟩) ?_
  intro size state after answer _ owned holds _ ran
  have step : SessionStep index name (.registry (.removeOrphanedSessions agentId)) state :=
    .quiet permitted trivial role
  have aside : OffSession (.registry (.removeOrphanedSessions agentId)) := trivial
  refine ⟨step, fun _ => ⟨?_, ?_, stable holds (aside.rely owned step (ran_exec ran))⟩⟩
  · obtain rfl := registry_answer (ran_exec ran)
    exact Table.nodup_drainWhere ..
  · rintro ⟨taken, route⟩ member
    have history := history_exec (ran_exec ran)
    obtain rfl := registry_answer (ran_exec ran)
    obtain ⟨found, _⟩ := mem_removeOrphanedSessions.mp member
    have present : taken ∈ ((removeOrphanedSessions state.registry.sessions agentId).2.map
        Prod.fst) := List.mem_map_of_mem member
    refine holding_taken owned found ?_ (fun pending => ?_)
      ⟨started_exec (ran_exec ran), ?_⟩
    · rw [history]
      exact if_pos present
    · rw [history]
      refine if_pos (List.mem_map.mpr ⟨(taken, route), member, ?_⟩)
      exact pending
    · rw [history]
      rfl

/-! ## Agent connections -/

theorem noForwarder_of_tells {role : Role} (tells : role.Tells) : NoForwarder role := by
  rintro connection sessionId rfl
  exact tells

theorem resolveTaskWaiter_aside (taskId : String) (result : TaskWaitResult) :
    (resolveTaskWaiter taskId result).Within OffSession fun _ => True := by
  refine ⟨trivial, fun found => ?_⟩
  cases (found : Option ℕ) with
  | none => trivial
  | some waiter => exact ⟨trivial, fun _ => trivial⟩

/-- The client sides of the held routes are told one after the other. -/
theorem finishAgentRemoval_sessions (tells : name.role.Tells) (settles : name.role.Settles)
    {entries : List (SessionId × SessionRoute)} (distinct : (entries.map Prod.fst).Nodup)
    (orphanedTasks : List String) :
    (sessions config).Triple index name (HoldingAll index entries)
      (finishAgentRemoval entries orphanedTasks) fun _ _ => True := by
  have told : (sessions config).Triple index name (HoldingAll index entries)
      (Code.each entries tellOrphanedSession) fun _ => HoldingAll index [] := by
    have settled : (sessions config).Stable index (HoldingAll index []) :=
      fun _ _ _ _ holding rely _ => holding.rely rely
    refine Contract.Triple.each (C := sessions config) (HoldingAll index) (fun entry rest suffix => ?_)
      settled
    have nodup := (List.Sublist.map Prod.fst suffix.sublist).nodup distinct
    refine tellSession_owned tells _ ⟨nofun, fun _ => rfl, trivial⟩ ?_
    exact (List.nodup_cons.mp nodup).1
  refine .bind told fun _ => ?_
  have resolved : (Code.each orphanedTasks tellOrphanedTask).Within
      (fun action => name.role.Permits index action ∧ OffSession action) fun _ => True :=
    .each fun taskId _ => ((resolveTaskWaiter_footprint settles taskId _).and
      (resolveTaskWaiter_aside taskId _)).mono (fun _ both => both) fun _ _ => trivial
  exact .consequence (plain_sessions (fun _ _ => trivial) (noForwarder_of_tells tells) resolved)
    (fun _ _ _ _ _ => trivial) fun _ _ _ _ _ holds => holds

/-- The connection has not registered an agent. -/
def Unregistered (index : ℕ) (state : State) : Prop := state.history.registration index = none

theorem Unregistered.rely (unregistered : Unregistered index state)
    (rely : SessionRely index state after) : Unregistered index after :=
  rely.unregistered unregistered

theorem SessionStep.enroll {agent : RegisteredAgent} (role : name.role = .agentGreeting)
    (own : agent.commandTx = index) (unregistered : Unregistered index state) :
    SessionStep index name (.registry (.deviceRegisterAgent agent)) state where
  permitted := by rw [role]; exact own
  enrolls _ _ := unregistered
  registers _ _ same := nomatch same
  acknowledges _ _ same := nomatch same
  tells _ _ same := nomatch same
  spawns _ _ _ same := nomatch same
  begins _ same := nomatch same
  forwards connection sessionId forwards := by rw [role] at forwards; cases forwards
  activates _ same := nomatch same
  names _ _ _ same := nomatch same

theorem deviceRegisterAgent_sessions (role : name.role = .agentGreeting)
    {entries : List (SessionId × SessionRoute)} {agent : RegisteredAgent}
    (own : agent.commandTx = index) :
    (sessions config).Triple index name
      (fun state => HoldingAll index entries state ∧ Unregistered index state)
      (locked (.deviceRegisterAgent agent)) fun _ => HoldingAll index entries := by
  refine .perform (fun _ _ _ _ holds rely _ => ⟨holds.1.rely rely, holds.2.rely rely⟩)
    (fun _ _ _ _ _ holding rely _ => holding.rely rely) ?_
  rintro size state after answer _ owned ⟨holding, unregistered⟩ _ ran
  refine ⟨.enroll role own unregistered, fun _ => ?_⟩
  exact holding.exec owned (ran_exec ran) (fun _ _ same => nomatch same)
    fun _ _ same => nomatch same

theorem registerAgent_sessions (role : name.role = .agentGreeting) (hello : AgentHelloPayload) :
    (sessions config).Triple index name (Unregistered index) (registerAgent config hello index)
      fun _ _ => True := by
  have tells : name.role.Tells := by rw [role]; trivial
  have settles : name.role.Settles := by rw [role]; trivial
  have away := noForwarder_of_tells tells
  have refused {assertion : State → Prop} (result : Except BridgeError Unit)
      (stable : ∀ {before after}, assertion before → SessionRely index before after →
        assertion after) :
      (sessions config).Triple index name assertion (.done result) fun _ _ => True :=
    .done (fun _ _ _ _ holds rely _ => stable holds rely) fun _ _ _ _ _ => trivial
  unfold registerAgent
  split_ifs
  · refine .bind (removeOrphanedSessions_sessions away Unregistered.rely
      (by rw [role]; trivial)) fun entries => ?_
    refine .assume (fun _ _ _ _ holds => holds.1) fun distinct => ?_
    refine .consequence (.bind (deviceRegisterAgent_sessions role rfl) fun orphanedTasks => ?_)
      (fun _ _ _ _ holds => holds.2) fun _ _ _ _ _ holds => holds
    refine .bind (finishAgentRemoval_sessions tells settles distinct orphanedTasks) fun _ => ?_
    exact refused _ fun _ _ => trivial
  · exact refused _ Unregistered.rely

theorem agentHello_sessions (role : name.role = .agentGreeting) :
    (sessions config).Triple index name (Unregistered index) (agentHello config index)
      ((sessions config).Exits index) := by
  have away : NoForwarder name.role := by rw [role]; nofun
  have permits (action : Action) (permitted : Role.agentGreeting.Permits index action) :
      name.role.Permits index action := by rwa [role]
  refine .bind (plain_sessions Unregistered.rely away
    ⟨⟨permits _ (.inl rfl), trivial⟩, fun _ => trivial⟩) fun input => ?_
  have refuses (error : BridgeError) : (sessions config).Triple index name (Unregistered index)
      (.done (some (.agentReturned (.error error)))) ((sessions config).Exits index) :=
    goes_sessions Unregistered.rely away fun _ _ => trivial
  have waits : (sessions config).Triple index name (Unregistered index) (.done (some .agentHello))
      ((sessions config).Exits index) :=
    .done (fun _ _ _ _ holds rely _ => holds.rely rely) fun _ _ _ _ holds => holds
  match input with
  | .frame (.text (.ok (.hello payload))) =>
    refine .bind (registerAgent_sessions role payload) fun registered => ?_
    cases registered with
    | error error => exact goes_sessions (fun _ _ => trivial) away fun _ _ => trivial
    | ok _ =>
      have greets : name.role.Permits index (.sendAgent index (.helloOk config.serverName)) :=
        permits _ ⟨rfl, rfl, rfl⟩
      refine .bind (plain_sessions (fun _ _ => trivial) away
        ⟨⟨greets, trivial⟩, fun _ => trivial⟩) fun greeted => ?_
      cases (greeted : Bool) with
      | true => exact goes_sessions (fun _ _ => trivial) away fun _ _ => trivial
      | false =>
        exact goes_sessions (fun _ _ => trivial) away
          ⟨⟨permits _ trivial, trivial⟩, fun _ _ _ => trivial⟩
  | .frame (.text (.ok (.sessionStarted _ _))) | .frame (.text (.ok (.asrPartial _ _)))
  | .frame (.text (.ok (.asrFinal _ _))) | .frame (.text (.ok (.sessionEnded _ _)))
  | .frame (.text (.ok (.error _ _))) | .frame (.text (.ok (.taskStatus _ _)))
  | .frame (.text (.ok .pong)) | .frame .ended | .frame (.failed _) | .frame (.text (.error _))
  | .frame (.binary _) | .frame .close | .frame (.ping _) | .frame .pong => exact refuses _
  | .heartbeat _ | .writerEnded => exact waits

theorem agentTeardown_sessions (role : name.role = .agentLeaving) (agentId : String) :
    (sessions config).Triple index name (fun _ => True) (agentTeardown agentId)
      ((sessions config).Exits index) := by
  have tells : name.role.Tells := by rw [role]; trivial
  have settles : name.role.Settles := by rw [role]; trivial
  have away := noForwarder_of_tells tells
  have permits (action : Action) (permitted : Role.agentLeaving.Permits index action) :
      name.role.Permits index action := by rwa [role]
  have leaves : (sessions config).Triple index name (fun _ => True) (unregisterAgent agentId)
      fun _ _ => True := by
    refine .bind (removeOrphanedSessions_sessions away (fun _ _ => trivial) (permits _ trivial))
      fun entries => ?_
    refine .assume (fun _ _ _ _ holds => holds.1) fun distinct => ?_
    refine .consequence (.bind (plain_sessions HoldingAll.rely away
      ⟨⟨permits _ trivial, trivial⟩, fun _ => trivial⟩) fun orphanedTasks =>
        finishAgentRemoval_sessions tells settles distinct orphanedTasks)
      (fun _ _ _ _ holds => holds.2.1) fun _ _ _ _ _ holds => holds
  refine .bind leaves fun _ => goes_sessions (fun _ _ => trivial) away ?_
  exact ⟨⟨permits _ rfl, trivial⟩, fun _ => ⟨⟨permits _ trivial, trivial⟩, fun _ _ _ => trivial⟩⟩

/-! ## Messages of an agent -/

/-- Taking the start sender out of a route. -/
theorem takeStarted_sessions (role : name.role = .agentHandling) :
    (sessions config).Triple index name (fun _ => True) (locked (.takeStarted sessionId))
      fun (found : Option SessionId) state => ∀ startedTx ∈ found,
        HoldsStart index startedTx state := by
  refine .perform (fun _ _ _ _ _ _ _ => trivial)
    (fun _ _ _ _ _ holds rely _ startedTx member => (holds startedTx member).rely rely) ?_
  intro size state after answer _ owned _ _ ran
  have away : NoForwarder name.role := by rw [role]; nofun
  refine ⟨.quiet (by rw [role]; trivial) trivial away, fun _ startedTx member => ?_⟩
  obtain rfl : answer = some startedTx := member
  have taken : (state.registry.takeStarted sessionId).2 = some startedTx :=
    (registry_answer (ran_exec ran)).symm
  simp only [AgentRegistry.takeStarted] at taken
  split at taken
  · cases taken
  · rename_i route found
    have pending : route.startedTx = some startedTx := taken
    obtain rfl := (owned.own sessionId route found).2 startedTx pending
    constructor
    · rw [history_exec (ran_exec ran)]
      exact Function.update_self ..
    · have same : after.started = state.started := started_exec (ran_exec ran)
      rw [same]
      exact (owned.pending startedTx route found (by rw [pending]; rfl)).2

/-- Acknowledging a start with the sender in hand. -/
theorem sendStarted_sessions (tells : name.role.Tells) (result : Except BridgeError Unit) :
    (sessions config).Triple index name (HoldsStart index sessionId)
      (perform (.sendStarted sessionId result)) fun _ _ => True :=
  .perform (fun _ _ _ _ holds rely _ => holds.rely rely) (fun _ _ _ _ _ _ _ _ => trivial)
    fun _ _ _ _ _ _ holds _ _ => ⟨.acknowledge tells holds.1 holds.2, fun _ => trivial⟩

/-- The task has looked up the event sender of the session. -/
def Sending (index : ℕ) (sessionId : SessionId) (state : State) : Prop :=
  state.history.sending index = some sessionId

theorem Sending.rely (sending : Sending index sessionId state)
    (rely : SessionRely index state after) : Sending index sessionId after :=
  rely.sending.trans sending

theorem routeEvent_sessions (role : name.role = .agentHandling) {event : BridgeAsrEvent}
    (goesOn : event.isEnded = false) :
    (sessions config).Triple index name (fun _ => True) (routeEvent sessionId event)
      fun _ _ => True := by
  have tells : name.role.Tells := by rw [role]; trivial
  have away := noForwarder_of_tells tells
  have looks : (sessions config).Triple index name (fun _ => True)
      (locked (.sessionEventTx sessionId)) fun (found : Option SessionId) state =>
        ∀ eventTx ∈ found, Sending index eventTx state := by
    refine .perform (fun _ _ _ _ _ _ _ => trivial)
      (fun _ _ _ _ _ sending rely _ eventTx member => (sending eventTx member).rely rely) ?_
    intro size state after answer _ owned _ _ ran
    refine ⟨.quiet (by rw [role]; trivial) trivial away, fun _ eventTx member => ?_⟩
    obtain rfl : answer = some eventTx := member
    obtain ⟨route, found, own⟩ := Option.map_eq_some_iff.mp (registry_answer (ran_exec ran)).symm
    have same := (owned.own sessionId route found).1
    change after.history.sending index = some eventTx
    rw [← own, same, history_exec (ran_exec ran)]
    exact Function.update_self ..
  refine .bind looks fun found => ?_
  cases found with
  | none => exact .done (fun _ _ _ _ _ _ _ => nofun) fun _ _ _ _ _ => trivial
  | some eventTx =>
    have sends : (sessions config).Triple index name (Sending index eventTx)
        (perform (.asr eventTx (.sendEvent event))) fun _ _ => True :=
      .perform (fun _ _ _ _ sending rely _ => sending.rely rely) (fun _ _ _ _ _ _ _ _ => trivial)
        fun _ _ _ _ _ _ sending _ _ => ⟨.tell tells (.inr ⟨sending, goesOn⟩), fun _ => trivial⟩
    refine .consequence (.bind sends fun _ => ?_) (fun _ _ _ _ sending => sending eventTx rfl)
      fun _ _ _ _ _ holds => holds
    exact .done (fun _ _ _ _ _ _ _ => trivial) fun _ _ _ _ _ => trivial

/-- Taking a route out of the map and telling its client side. -/
theorem concludes_sessions {assertion : State → Prop} (tells : name.role.Tells)
    (permitted : name.role.Permits index (.registry (.removeSession sessionId)))
    (error : BridgeError) {events : List BridgeAsrEvent} (endsLast : EndsLast events) :
    (sessions config).Triple index name assertion (do
        match ← locked (.removeSession sessionId) with
        | some route => tellSession route error events
        | none => pure () : Program Unit) fun _ _ => True := by
  refine .consequence (.bind (removeSession_sessions (noForwarder_of_tells tells) permitted)
    fun found => ?_) (fun _ _ _ _ _ => trivial) fun _ _ _ _ _ holds => holds
  cases found with
  | none => exact .done (fun _ _ _ _ _ _ _ => nofun) fun _ _ _ _ _ => trivial
  | some route =>
    exact .consequence (tellSession_owned tells error endsLast (by simp))
      (fun _ _ _ _ holding => holding route rfl) fun _ _ _ _ _ _ => trivial

theorem handleAgentMessage_sessions (role : name.role = .agentHandling)
    (message : AgentToGatewayMessage) :
    (sessions config).Triple index name (fun _ => True) (handleAgentMessage message)
      fun _ _ => True := by
  have tells : name.role.Tells := by rw [role]; trivial
  have away := noForwarder_of_tells tells
  have permits (action : Action) (permitted : Role.agentHandling.Permits index action) :
      name.role.Permits index action := by rwa [role]
  have returns : (sessions config).Triple index name (fun _ => True) (.done ()) fun _ _ => True :=
    .done (fun _ _ _ _ _ _ _ => trivial) fun _ _ _ _ _ => trivial
  cases message with
  | hello payload | pong => exact returns
  | sessionStarted sessionId providerId =>
    refine .bind (takeStarted_sessions role) fun found => ?_
    cases found with
    | none => exact .done (fun _ _ _ _ _ _ _ => nofun) fun _ _ _ _ _ => trivial
    | some startedTx =>
      exact .consequence (sendStarted_sessions tells _) (fun _ _ _ _ holds => holds startedTx rfl)
        fun _ _ _ _ _ holds => holds
  | asrPartial sessionId text => exact routeEvent_sessions role rfl
  | asrFinal sessionId transcript => exact routeEvent_sessions role rfl
  | sessionEnded sessionId reason =>
    exact concludes_sessions tells (permits _ trivial) _ ⟨fun _ => rfl, trivial⟩
  | error session text =>
    cases session with
    | none => exact returns
    | some sessionId =>
      refine .bind (plain_sessions (fun _ _ => trivial) away
        ⟨⟨permits _ trivial, trivial⟩, fun _ => trivial⟩) fun pending => ?_
      cases (pending : Bool) with
      | true =>
        exact concludes_sessions tells (permits _ trivial) _ ⟨nofun, fun _ => rfl, trivial⟩
      | false => exact routeEvent_sessions role rfl
  | taskStatus taskId payload =>
    have aside : (handleTaskStatus taskId payload).Within OffSession fun _ => True := by
      refine ⟨trivial, fun routed => ?_⟩
      cases (routed : Option String) with
      | none => trivial
      | some _ =>
        dsimp only
        split
        · trivial
        · exact ⟨trivial, fun _ => resolveTaskWaiter_aside taskId _⟩
    refine plain_sessions (fun _ _ => trivial) away ?_
    have both := Code.Within.and (@handleTaskStatus_footprint index taskId payload) aside
    exact both.mono (fun action both => ⟨permits action both.1, both.2⟩) fun _ _ => trivial

theorem agentMessage_sessions (role : name.role = .agentHandling) (agentId : String)
    (message : AgentToGatewayMessage) :
    (sessions config).Triple index name (fun _ => True) (agentMessage agentId message)
      ((sessions config).Exits index) :=
  .bind (handleAgentMessage_sessions role message) fun _ =>
    .done (fun _ _ _ _ _ _ _ => trivial) fun _ _ _ _ _ => trivial

/-! ## Starting sessions -/

/-- The task has made the session, and nobody acts for it yet. -/
structure Fresh (index : ℕ) (sessionId : SessionId) (state : State) : Prop where
  startable : Startable state index sessionId
  unclaimed : Unclaimed state sessionId

theorem Fresh.rely (fresh : Fresh index sessionId state) (rely : SessionRely index state after) :
    Fresh index sessionId after :=
  ⟨fresh.startable.rely rely, rely.unclaimed sessionId fresh.startable.creator fresh.unclaimed⟩

/-- The connection has no session. -/
def Idle (index : ℕ) (state : State) : Prop := state.active index = none

theorem Idle.rely (idle : Idle index state) (rely : SessionRely index state after) :
    Idle index after :=
  rely.active.trans idle

/-- The agent that the task has selected registered its connection. -/
def HasSelected (index : ℕ) (agent : RegisteredAgent) (state : State) : Prop :=
  state.history.selected index = some agent.commandTx ∧
    Registered state agent.commandTx agent.agentId

theorem Registered.rely (registered : Registered state connection agentId)
    (rely : SessionRely index state after) : Registered after connection agentId := by
  obtain ⟨stamp, known⟩ := registered
  exact ⟨stamp, rely.registration connection _ known⟩

theorem HasSelected.rely {agent : RegisteredAgent} (selects : HasSelected index agent state)
    (rely : SessionRely index state after) : HasSelected index agent after :=
  ⟨rely.selected.trans selects.1, selects.2.rely rely⟩

theorem selectAgent_sessions {assertion : State → Prop} (role : name.role = .clientHandling)
    (stable : ∀ {before after}, assertion before → SessionRely index before after → assertion after)
    (kept : ∀ {before after : State}, assertion before → after.active index = before.active index →
      assertion after) (providerId : String) :
    (sessions config).Triple index name assertion (locked (.selectAgent providerId))
      fun (found : Option RegisteredAgent) state => (∀ agent ∈ found, HasSelected index agent state) ∧
        assertion state := by
  refine .perform (fun _ _ _ _ holds rely _ => stable holds rely) (fun _ _ _ _ _ holds rely _ =>
    ⟨fun agent member => (holds.1 agent member).rely rely, stable holds.2 rely⟩) ?_
  intro size state after answer _ owned holds _ ran
  have away : NoForwarder name.role := by rw [role]; nofun
  refine ⟨.quiet (by rw [role]; trivial) trivial away, fun _ => ⟨fun agent member => ?_, ?_⟩⟩
  · obtain rfl : answer = some agent := member
    constructor
    · rw [history_exec (ran_exec ran)]
      exact Function.update_self ..
    · have found : state.registry.deviceRegistry.selectAgent providerId = some agent :=
        (registry_answer (ran_exec ran)).symm
      obtain ⟨agentId, present⟩ := DeviceRegistry.findAgent_mem found
      obtain ⟨rfl, stamp, known⟩ := owned.records agentId agent present
      exact ⟨stamp, (extends_exec (ran_exec ran)).registration known⟩
  · refine kept holds ?_
    rcases active_exec (ran_exec ran) index with same | ⟨_, active, same, _⟩
    · exact same
    · cases same

/-- What a new session is when its creator learns its id. -/
theorem SessionsOwned.created (owned : SessionsOwned size state)
    (step : SessionStep index name action state)
    (ran : State.exec index fresh state action = some (after, answer))
    (created : createdSession action answer = some sessionId)
    (places : ∀ agentId, action ≠ .registry (.registerSession agentId sessionId))
    (forwards : ∀ procedure, action ≠ .spawn procedure)
    (slot : ∀ active, action ≠ .client (.setActive active)) : Fresh index sessionId after := by
  rcases createdSession_exec ran with ⟨none_, _⟩ | ⟨some_, next⟩
  · rw [created] at none_
    cases none_
  · rw [created] at some_
    obtain rfl := Option.some.inj some_
    have new : state.sessionSerial ≤ (⟨index, state.sessionSerial⟩ : SessionId).serial := le_rfl
    refine ⟨⟨rfl, ?_, ?_, ?_⟩, ?_⟩
    · rw [next]
      exact Nat.lt_succ_self _
    · rcases forwarder_exec ran ⟨index, state.sessionSerial⟩ with same | ⟨procedure, _, spawns, _⟩
      · rw [same, owned.unforwarded _ new]
      · exact absurd spawns (forwards procedure)
    · rcases vacated_exec ran index with same | ⟨_, active, sets, _⟩
      · rw [same]
        intro member
        have old := owned.vacated index _ member
        exact absurd old (lt_irrefl _)
      · exact absurd sets (slot active)
    · exact (owned.unclaimed _ new).step owned.own step ran places

theorem createSession_sessions {assertion : State → Prop} (role : name.role = .clientHandling)
    (stable : ∀ {before after}, assertion before → SessionRely index before after →
      assertion after) :
    (sessions config).Triple index name assertion (perform .createSession)
      fun (sessionId : SessionId) state => Fresh index sessionId state ∧ assertion state := by
  refine .perform (fun _ _ _ _ holds rely _ => stable holds rely)
    (fun _ _ _ _ _ holds rely _ => ⟨holds.1.rely rely, stable holds.2 rely⟩) ?_
  intro size state after answer _ owned holds _ ran
  have away : NoForwarder name.role := by rw [role]; nofun
  have aside : OffSession .createSession := trivial
  have step : SessionStep index name .createSession state :=
    .quiet (by rw [role]; exact rfl) aside.quiet away
  refine ⟨step, fun _ => ⟨?_, stable holds (aside.rely owned step (ran_exec ran))⟩⟩
  refine owned.created step (ran_exec ran) rfl ?_ ?_ ?_
  · exact fun _ same => nomatch same
  · exact fun _ same => nomatch same
  · exact fun _ same => nomatch same

theorem SessionStep.register {agent : RegisteredAgent} (role : name.role = .clientHandling)
    (selects : HasSelected index agent state) (fresh : Fresh index sessionId state) :
    SessionStep index name (.registry (.registerSession agent.agentId sessionId)) state where
  permitted := by rw [role]; trivial
  enrolls _ same := nomatch same
  registers agentId other same := by
    obtain ⟨rfl, rfl⟩ := RegistryAction.registerSession.inj (Action.registry.inj same)
    exact ⟨fresh.startable.creator, fresh.startable.created, fresh.unclaimed, _, selects⟩
  acknowledges _ _ same := nomatch same
  tells _ _ same := nomatch same
  spawns _ _ _ same := nomatch same
  begins _ same := nomatch same
  forwards connection other forwards := by rw [role] at forwards; cases forwards
  activates _ same := nomatch same
  names _ _ _ same := nomatch same

theorem registerSession_sessions (role : name.role = .clientHandling) (agent : RegisteredAgent) :
    (sessions config).Triple index name
      (fun state => HasSelected index agent state ∧ Fresh index sessionId state ∧ Idle index state)
      (locked (.registerSession agent.agentId sessionId))
      fun _ state => Startable state index sessionId ∧ Idle index state := by
  refine .perform (fun _ _ _ _ holds rely _ =>
      ⟨holds.1.rely rely, holds.2.1.rely rely, holds.2.2.rely rely⟩)
    (fun _ _ _ _ _ holds rely _ => ⟨holds.1.rely rely, holds.2.rely rely⟩) ?_
  rintro size state after answer _ owned ⟨selects, fresh, idle⟩ _ ran
  refine ⟨.register role selects fresh, fun _ => ?_⟩
  have grown := sessionSerial_exec (ran_exec ran)
  obtain ⟨creator, created, unforwarded, unused⟩ := fresh.startable
  refine ⟨⟨creator, by omega, ?_, ?_⟩, ?_⟩
  · rcases forwarder_exec (ran_exec ran) sessionId with same | ⟨_, _, spawns, _⟩
    · rw [same, unforwarded]
    · cases spawns
  · rcases vacated_exec (ran_exec ran) index with same | ⟨_, _, sets, _⟩
    · rw [same]
      exact unused
    · cases sets
  · rcases active_exec (ran_exec ran) index with same | ⟨_, _, sets, _⟩
    · exact same.trans idle
    · cases sets

/-! ## The outcome of a start -/

/-- A started session is new to the slot and to the forwarders, and the slot is free for it. -/
def Outcome {α : Type} (id : α → SessionId) (index : ℕ) (outcome : Except BridgeError α)
    (state : State) : Prop :=
  ∀ session, outcome = .ok session → Startable state index (id session) ∧ Idle index state

theorem Outcome.rely {α : Type} {id : α → SessionId} {outcome : Except BridgeError α}
    (reached : Outcome id index outcome state) (rely : SessionRely index state after) :
    Outcome id index outcome after :=
  fun session found => ⟨(reached session found).1.rely rely, (reached session found).2.rely rely⟩

theorem refused_sessions {α : Type} {id : α → SessionId} {assertion : State → Prop}
    (stable : ∀ {before after}, assertion before → SessionRely index before after → assertion after)
    (error : BridgeError) :
    (sessions config).Triple index name assertion (.done (.error error)) (Outcome id index) :=
  .done (fun _ _ _ _ holds rely _ => stable holds rely) fun _ _ _ _ _ _ same => nomatch same

/-- The creator gives its session up; what it tells goes to nobody. -/
theorem withdraws_sessions {assertion : State → Prop} (role : name.role = .clientHandling)
    (error : BridgeError) :
    (sessions config).Triple index name assertion
      (do failSessionStart sessionId error
          abandonSession sessionId error) (Outcome AsrSession.id index) := by
  have away : NoForwarder name.role := by rw [role]; nofun
  refine .bind (concludes_sessions (by rw [role]; trivial) (by rw [role]; trivial) error
    ⟨nofun, fun _ => rfl, trivial⟩) fun _ => ?_
  refine .bind (plain_sessions (fun _ _ => trivial) away
    ⟨⟨by rw [role]; trivial, trivial⟩, fun _ => trivial⟩) fun _ => ?_
  refine .bind (plain_sessions (fun _ _ => trivial) away
    ⟨⟨by rw [role]; trivial, trivial⟩, fun _ => trivial⟩) fun _ => ?_
  exact refused_sessions (fun _ _ => trivial) error

theorem await_sessions (role : name.role = .clientHandling) (session : AsrSession) :
    (sessions config).Triple index name
      (fun state => Startable state index session.id ∧ Idle index state)
      (startRemote.await session) (Outcome AsrSession.id index) := by
  have away : NoForwarder name.role := by rw [role]; nofun
  have stable {before after : State}
      (holds : Startable before index session.id ∧ Idle index before)
      (rely : SessionRely index before after) :
      Startable after index session.id ∧ Idle index after :=
    ⟨holds.1.rely rely, holds.2.rely rely⟩
  refine .bind (plain_sessions stable away ⟨⟨by rw [role]; exact rfl, trivial⟩, fun _ => trivial⟩)
    fun awaited => ?_
  match awaited with
  | .value (.ok _) =>
    refine .done (fun _ _ _ _ holds rely _ => stable holds rely) fun _ _ _ _ holds _ same => ?_
    cases same
    exact holds
  | .value (.error error) =>
    refine .bind (plain_sessions stable away
      ⟨⟨by rw [role]; trivial, trivial⟩, fun _ => trivial⟩) fun _ => ?_
    refine .bind (plain_sessions stable away
      ⟨⟨by rw [role]; trivial, trivial⟩, fun _ => trivial⟩) fun _ => ?_
    exact refused_sessions stable error
  | .dropped => exact withdraws_sessions role _
  | .elapsed => exact withdraws_sessions role _

theorem startRemote_launches (role : name.role = .clientHandling) (providerId : String)
    (request : AsrStreamRequest) :
    (sessions config).Triple index name (Idle index) (startRemote providerId request)
      (Outcome AsrSession.id index) := by
  have away : NoForwarder name.role := by rw [role]; nofun
  have begins : (sessions config).Triple index name (Idle index)
      (startRemote.start providerId request) (Outcome AsrSession.id index) := by
    refine .bind (selectAgent_sessions role Idle.rely (fun idle same => same.trans idle) providerId)
      fun selected => ?_
    cases selected with
    | none =>
      exact .consequence (refused_sessions Idle.rely _) (fun _ _ _ _ holds => holds.2)
        fun _ _ _ _ _ holds => holds
    | some agent =>
      have both {before after : State} (holds : HasSelected index agent before ∧ Idle index before)
          (rely : SessionRely index before after) :
          HasSelected index agent after ∧ Idle index after :=
        ⟨holds.1.rely rely, holds.2.rely rely⟩
      refine .consequence (.bind (createSession_sessions role both) fun sessionId => ?_)
        (fun _ _ _ _ holds => ⟨holds.1 agent rfl, holds.2⟩) fun _ _ _ _ _ holds => holds
      refine .consequence (.bind (registerSession_sessions role agent) fun _ => ?_)
        (fun _ _ _ _ holds => ⟨holds.2.1, holds.1, holds.2.2⟩) fun _ _ _ _ _ holds => holds
      have stable {before after : State}
          (holds : Startable before index sessionId ∧ Idle index before)
          (rely : SessionRely index before after) :
          Startable after index sessionId ∧ Idle index after :=
        ⟨holds.1.rely rely, holds.2.rely rely⟩
      refine .bind (plain_sessions stable away
        ⟨⟨by rw [role]; exact rfl, trivial⟩, fun _ => trivial⟩) fun sent => ?_
      cases (sent : Bool) with
      | false => exact withdraws_sessions role _
      | true =>
        refine .bind (plain_sessions stable away
          ⟨⟨by rw [role]; trivial, nofun⟩, fun _ => trivial⟩) fun _ => ?_
        exact await_sessions role ⟨sessionId, providerId, request.inputFormat,
          requestedInputMode request.options, requestedOutputMode request.options⟩
  unfold startRemote
  split
  · split
    · exact begins
    · exact refused_sessions Idle.rely _
  · exact begins

/-- A call of a provider's bridge makes the session itself. -/
theorem provider_sessions {α : Type} {id : α → SessionId} (role : name.role = .clientHandling)
    (operation : ClientAction) (answers : operation.Answer = Except BridgeError α)
    (aside : OffSession (.client operation)) (permitted : Role.clientHandling.Serves operation)
    (created : ∀ (answer : operation.Answer) session, cast answers answer = .ok session →
      createdSession (.client operation) answer = some (id session)) :
    (sessions config).Triple index name (Idle index) (perform (.client operation))
      fun answer => Outcome id index (cast answers answer) := by
  refine .perform (fun _ _ _ _ idle rely _ => idle.rely rely)
    (fun _ _ _ _ _ holds rely _ => holds.rely rely) ?_
  intro size state after answer _ owned idle _ ran
  have away : NoForwarder name.role := by rw [role]; nofun
  have step : SessionStep index name (.client operation) state :=
    .quiet (by rw [role]; exact permitted) aside.quiet away
  refine ⟨step, fun _ session found => ⟨?_, idle.rely (aside.rely owned step (ran_exec ran))⟩⟩
  refine (owned.created step (ran_exec ran) (created answer session found) ?_ ?_ ?_).startable
  · exact fun _ same => nomatch same
  · exact fun _ same => nomatch same
  · rintro active same
    obtain rfl := Action.client.inj same
    exact aside

theorem startAsr_launches (role : name.role = .clientHandling) (payload : AsrStreamRequest) :
    (sessions config).Triple index name (Idle index) (startAsr config payload)
      (Outcome AsrSession.id index) := by
  unfold startAsr
  split
  · exact refused_sessions Idle.rely _
  · exact startRemote_launches role _ _
  · refine provider_sessions role (.startAsr payload) rfl trivial trivial ?_
    rintro answer session rfl
    rfl

/-- Whether the slot is free is what the answer says. -/
theorem activeSession_sessions (role : name.role = .clientHandling) :
    (sessions config).Triple index name (fun _ => True) (perform (.client .activeSession))
      fun (active : Option ActiveSession) state => active = none → Idle index state := by
  refine .perform (fun _ _ _ _ _ _ _ => trivial)
    (fun _ _ _ _ _ holds rely _ free => (holds free).rely rely) ?_
  intro size state after answer _ owned _ _ ran
  have away : NoForwarder name.role := by rw [role]; nofun
  refine ⟨.quiet (by rw [role]; trivial) trivial away, fun _ free => ?_⟩
  obtain ⟨core, performed, rfl⟩ := exec_cases (ran_exec ran)
  obtain ⟨rfl, read⟩ := Prod.mk.inj (Option.some.inj performed)
  exact read.trans free

/-! ## Client messages -/

/-- A program that acts for no session, and that needs nothing after it. -/
theorem quiet_sessions {code : Program (Option Procedure)} {assertion : State → Prop}
    (role : NoForwarder name.role)
    (within : code.Within (fun action => name.role.Permits index action ∧ Quiet action)
      Undemanding) :
    (sessions config).Triple index name assertion code ((sessions config).Exits index) := by
  have acts : (sessions config).Triple index name (fun _ => True) code fun exit _ =>
      Undemanding exit := by
    refine (Contract.Triple.within within (fun _ _ _ _ _ _ _ => trivial) ?_).post
      fun _ _ _ _ _ holds => holds.1
    exact fun _ both _ _ _ _ _ _ _ _ _ => ⟨.quiet both.1 both.2 role, fun _ => trivial⟩
  refine .consequence acts (fun _ _ _ _ _ => trivial) fun exit _ state _ _ undemanding => ?_
  cases exit with
  | none => trivial
  | some next => exact undemanding index state

theorem commandBridge_quiet {sent : Program Bool} (quiet : sent.Within Quiet fun _ => True) :
    (commandBridge sent).Within Quiet fun _ => True :=
  quiet.bind fun accepted _ => by cases accepted <;> trivial

theorem whenActive_quiet {expected : Except ServerError Unit} {sent : Program Bool}
    (quiet : sent.Within Quiet fun _ => True) :
    (whenActive expected sent).Within Quiet fun _ => True := by
  cases expected with
  | error error => trivial
  | ok _ => exact commandBridge_quiet quiet

theorem stopSession_quiet (sessionId : SessionId) :
    (stopSession sessionId).Within Quiet fun _ => True := by
  have asks : (perform (.client .activeSession)).Within Quiet fun _ => True :=
    ⟨trivial, fun _ => trivial⟩
  refine asks.bind fun active _ => ?_
  cases (active : Option ActiveSession) with
  | none => trivial
  | some session =>
    have stops : (ActiveSession.stop session).Within Quiet fun _ => True := by
      cases session <;> exact commandBridge_quiet ⟨trivial, fun _ => trivial⟩
    dsimp only
    split
    · refine stops.bind fun stopped _ => ?_
      cases stopped with
      | error error => trivial
      | ok _ => exact ⟨trivial, fun _ => by cases session <;> exact ⟨trivial, fun _ => trivial⟩⟩
    · trivial

/-- The message that a handler answers with a reply of its own. -/
theorem replied_sessions (role : name.role = .clientHandling) {message : ClientMessage}
    {code : Program (Except ServerError Unit)} (footprint : Footprint index .clientHandling code)
    (quiet : code.Within Quiet fun _ => True) {assertion : State → Prop} :
    (sessions config).Triple index name assertion (do
      let result ← code
      return some (.clientReply message result)) ((sessions config).Exits index) := by
  have both := Code.Within.and footprint quiet
  refine quiet_sessions (by rw [role]; nofun) (Code.Within.bind (both.mono ?_ fun _ _ => trivial)
    fun _ _ _ _ => trivial)
  rw [role]
  exact fun _ => id

theorem handleClientMessage_sessions (role : name.role = .clientHandling)
    (message : ClientMessage) :
    (sessions config).Triple index name (fun _ => True) (handleClientMessage config index message)
      ((sessions config).Exits index) := by
  have away : NoForwarder name.role := by rw [role]; nofun
  have replies (reply : ServerMessage) (unnamed : reply.sessionId? = none) :
      (sendReply index reply).Within Quiet fun _ => True :=
    ⟨unnamed, fun accepted => by cases (accepted : Bool) <;> trivial⟩
  have refuses {assertion : State → Prop} (error : ServerError) :
      (sessions config).Triple index name assertion
        (.done (some (.clientReply message (.error error)))) ((sessions config).Exits index) :=
    quiet_sessions away fun _ _ => trivial
  have reads : (sessions config).Triple index name (fun _ => True)
      (perform (.client .activeSession)) fun _ _ => True :=
    plain_sessions (fun _ _ => trivial) away ⟨⟨by rw [role]; trivial, trivial⟩, fun _ => trivial⟩
  cases message with
  | hello requestId payload | discover requestId domains | ping requestId =>
    exact replied_sessions role (by exact sendReply_footprint ⟨rfl, trivial, rfl⟩) (replies _ rfl)
  | asrTranscribe requestId => exact refuses _
  | asrStart requestId payload =>
    refine .bind (activeSession_sessions role) fun active => ?_
    cases active with
    | some session => exact refuses _
    | none =>
      refine .consequence (.bind (startAsr_launches role payload) fun outcome => ?_)
        (fun _ _ _ _ free => free rfl) fun _ _ _ _ _ holds => holds
      refine .done (fun _ _ _ _ holds rely _ => holds.rely rely) fun _ state _ _ reached => ?_
      cases outcome with
      | error error => trivial
      | ok session => exact reached session rfl
  | asrCommit sessionId | ttsInputAppend sessionId delta | ttsCommit sessionId =>
    refine .bind reads fun active => ?_
    exact replied_sessions role (by exact whenActive_footprint (Footprint.perform trivial))
      (by exact whenActive_quiet ⟨trivial, fun _ => trivial⟩)
  | ttsVoices requestId payload =>
    simp only [handleClientMessage]
    split
    · exact refuses _
    · refine .bind (plain_sessions (fun _ _ => trivial) away
        ⟨⟨by rw [role]; trivial, trivial⟩, fun _ => trivial⟩) fun listed => ?_
      cases listed with
      | error error => exact refuses _
      | ok voices =>
        exact replied_sessions role (by exact sendReply_footprint ⟨rfl, trivial, rfl⟩) (replies _ rfl)
  | ttsStart requestId payload =>
    refine .bind (activeSession_sessions role) fun active => ?_
    cases active with
    | some session => exact refuses _
    | none =>
      dsimp only
      split
      · exact refuses _
      · have provided : (sessions config).Triple index name (Idle index)
            (perform (.client (.startTts payload)))
            (Outcome (fun started : TtsSession × SynthesisInputKind => started.1.id) index) := by
          refine provider_sessions role (.startTts payload) rfl trivial trivial ?_
          rintro answer session rfl
          rfl
        refine .consequence (.bind provided fun outcome => ?_)
          (fun _ _ _ _ free => free rfl) fun _ _ _ _ _ holds => holds
        refine .done (fun _ _ _ _ holds rely _ => holds.rely rely) fun _ state _ _ reached => ?_
        cases (outcome : Except BridgeError (TtsSession × SynthesisInputKind)) with
        | error error => trivial
        | ok started => exact reached started rfl
  | sessionStop sessionId | sessionCancel sessionId =>
    exact replied_sessions role (stopSession_footprint sessionId) (stopSession_quiet sessionId)

/-! ## Started sessions -/

theorem SessionStep.spawn {procedure : Procedure} (role : name.role = .clientStarting)
    (permitted : name.role.Permits index (.spawn procedure))
    (forwards : ∀ connection other, procedure.role = .forwarder connection other →
      connection = index ∧ other = sessionId)
    (begins : Procedure.Begins procedure) (startable : Startable state index sessionId) :
    SessionStep index name (.spawn procedure) state where
  permitted := permitted
  enrolls _ same := nomatch same
  registers _ _ same := nomatch same
  acknowledges _ _ same := nomatch same
  tells _ _ same := nomatch same
  spawns spawned connection other same forwarder := by
    obtain rfl := Action.spawn.inj same
    obtain ⟨rfl, rfl⟩ := forwards connection other forwarder
    exact ⟨rfl, startable.creator, startable.created, startable.unforwarded⟩
  begins spawned same := by
    obtain rfl := Action.spawn.inj same
    exact begins
  forwards connection other forwarder := by rw [role] at forwarder; cases forwarder
  activates _ same := nomatch same
  names _ _ _ same := nomatch same

theorem SessionStep.activate {session : ActiveSession} (role : name.role = .clientStarting)
    (announced : Announced state index session.sessionId) :
    SessionStep index name (.client (.setActive (some session))) state where
  permitted := by rw [role]; trivial
  enrolls _ same := nomatch same
  registers _ _ same := nomatch same
  acknowledges _ _ same := nomatch same
  tells _ _ same := nomatch same
  spawns _ _ _ same := nomatch same
  begins _ same := nomatch same
  forwards connection other forwarder := by rw [role] at forwarder; cases forwarder
  activates other same := by
    obtain rfl := Option.some.inj (ClientAction.setActive.inj (Action.client.inj same))
    exact announced
  names _ _ _ same := nomatch same

theorem SessionStep.announce {requestId : Option RequestId} {payload : SessionStartedPayload}
    (role : name.role = .clientStarting) (own : sessionId.creator = index) :
    SessionStep index name (.sendClient index (.sessionStarted requestId sessionId payload))
      state where
  permitted := by rw [role]; exact ⟨rfl, trivial⟩
  enrolls _ same := nomatch same
  registers _ _ same := nomatch same
  acknowledges _ _ same := nomatch same
  tells _ _ same := nomatch same
  spawns _ _ _ same := nomatch same
  begins _ same := nomatch same
  forwards connection other forwarder := by rw [role] at forwarder; cases forwarder
  activates _ same := nomatch same
  names connection message other same named := by
    obtain ⟨rfl, rfl⟩ := Action.sendClient.inj same
    obtain rfl := Option.some.inj named
    exact own

/-- A session that was handed to its forwarder, and may go into the slot. -/
structure Launching (index : ℕ) (sessionId : SessionId) (state : State) : Prop where
  creator : sessionId.creator = index
  created : sessionId.serial < state.sessionSerial
  unused : sessionId ∉ state.history.vacated index
  free : Idle index state

theorem Launching.rely (launching : Launching index sessionId state)
    (rely : SessionRely index state after) : Launching index sessionId after :=
  ⟨launching.creator, lt_of_lt_of_le launching.created rely.created,
    by rw [rely.vacated]; exact launching.unused, launching.free.rely rely⟩

theorem Announced.rely (announced : Announced state index sessionId)
    (rely : SessionRely index state after) : Announced after index sessionId where
  creator := announced.creator
  created := lt_of_lt_of_le announced.created rely.created
  unused := by rw [rely.vacated]; exact announced.unused
  free := rely.active.trans announced.free
  last := rely.announced.trans announced.last

theorem spawn_sessions {procedure : Procedure} (role : name.role = .clientStarting)
    (permitted : name.role.Permits index (.spawn procedure))
    (forwards : ∀ connection other, procedure.role = .forwarder connection other →
      connection = index ∧ other = sessionId)
    (begins : Procedure.Begins procedure) :
    (sessions config).Triple index name
      (fun state => Startable state index sessionId ∧ Idle index state)
      (perform (.spawn procedure)) fun _ => Launching index sessionId := by
  refine .perform (fun _ _ _ _ holds rely _ => ⟨holds.1.rely rely, holds.2.rely rely⟩)
    (fun _ _ _ _ _ holds rely _ => holds.rely rely) ?_
  rintro size state after answer _ _ ⟨startable, idle⟩ _ ran
  refine ⟨.spawn role permitted forwards begins startable, fun _ => ?_⟩
  have grown := sessionSerial_exec (ran_exec ran)
  refine ⟨startable.creator, by have := startable.created; omega, ?_, ?_⟩
  · rcases vacated_exec (ran_exec ran) index with same | ⟨_, _, sets, _⟩
    · rw [same]
      exact startable.unused
    · cases sets
  · rcases active_exec (ran_exec ran) index with same | ⟨_, _, sets, _⟩
    · exact same.trans idle
    · cases sets

/-- A session that could be announced may go into the slot. -/
theorem announce_sessions (role : name.role = .clientStarting) (requestId : Option RequestId)
    (payload : SessionStartedPayload) :
    (sessions config).Triple index name (Launching index sessionId)
      (sendReply index (.sessionStarted requestId sessionId payload))
      fun result state => result = .ok () → Announced state index sessionId := by
  have sends : (sessions config).Triple index name (Launching index sessionId)
      (perform (.sendClient index (.sessionStarted requestId sessionId payload)))
      fun (accepted : Bool) state => accepted = true → Announced state index sessionId := by
    refine .perform (fun _ _ _ _ holds rely _ => holds.rely rely)
      (fun _ _ _ _ _ holds rely _ taken => (holds taken).rely rely) ?_
    intro size state after accepted _ _ launching _ ran
    refine ⟨.announce role launching.creator, fun _ taken => ?_⟩
    obtain rfl : accepted = true := taken
    have grown := sessionSerial_exec (ran_exec ran)
    refine ⟨launching.creator, by have := launching.created; omega, ?_, ?_, ?_⟩
    · rcases vacated_exec (ran_exec ran) index with same | ⟨_, _, sets, _⟩
      · rw [same]
        exact launching.unused
      · cases sets
    · rcases active_exec (ran_exec ran) index with same | ⟨_, _, sets, _⟩
      · exact same.trans launching.free
      · cases sets
    · have queued : after.queued index = state.queued index ++
          [.sessionStarted requestId sessionId payload] := by
        rw [(connections_exec (ran_exec ran)).queued]
        exact Function.update_self ..
      rw [queued, lastStarted_append]
      rfl
  refine .bind sends fun accepted => ?_
  cases accepted with
  | true =>
    exact .done (fun _ _ _ _ holds rely _ taken => (holds taken).rely rely)
      fun _ _ _ _ holds _ => holds rfl
  | false => exact .done (fun _ _ _ _ _ _ _ => nofun) fun _ _ _ _ _ same => nomatch same

/-- A started session is handed to its forwarder, announced, and put into the slot. -/
theorem started_sessions (session : ActiveSession) {forwarder : Procedure} {message : ClientMessage}
    {payload : SessionStartedPayload} (role : name.role = .clientStarting)
    (permitted : name.role.Permits index (.spawn forwarder)) (requestId : Option RequestId)
    (forwards : ∀ connection other, forwarder.role = .forwarder connection other →
      connection = index ∧ other = session.sessionId)
    (begins : Procedure.Begins forwarder) :
    (sessions config).Triple index name
      (fun state => Startable state index session.sessionId ∧ Idle index state) (do
        perform (.spawn forwarder)
        match ← sendReply index (.sessionStarted requestId session.sessionId payload) with
        | .error error => do
            ActiveSession.dropHandle session
            return some (.clientReply message (.error error))
        | .ok () => do
            perform (.client (.setActive (some session)))
            return some (.clientReply message (.ok ()))) ((sessions config).Exits index) := by
  have away : NoForwarder name.role := by rw [role]; nofun
  have permits (action : Action) (permitted : Role.clientStarting.Permits index action) :
      name.role.Permits index action := by rwa [role]
  refine .bind (spawn_sessions role permitted forwards begins) fun _ => ?_
  refine .bind (announce_sessions role requestId payload) fun result => ?_
  cases result with
  | error error =>
    refine quiet_sessions away ?_
    cases session <;> exact ⟨⟨permits _ trivial, trivial⟩, fun _ _ _ => trivial⟩
  | ok _ =>
    have sets : (sessions config).Triple index name
        (fun state => Announced state index session.sessionId)
        (perform (.client (.setActive (some session)))) fun _ _ => True :=
      .perform (fun _ _ _ _ holds rely _ => holds.rely rely) (fun _ _ _ _ _ _ _ _ => trivial)
        fun _ _ _ _ _ _ announced _ _ => ⟨.activate role announced, fun _ => trivial⟩
    refine .consequence (.bind sets fun _ => ?_) (fun _ _ _ _ holds => holds rfl)
      fun _ _ _ _ _ holds => holds
    exact .done (fun _ _ _ _ _ _ _ => trivial) fun _ _ _ _ _ => trivial

theorem asrStarted_sessions (role : name.role = .clientStarting) {requestId : RequestId}
    {payload : AsrStreamRequest} {outcome : Except BridgeError AsrSession} :
    (sessions config).Triple index name (Ready index (.asrStarted requestId payload outcome))
      (asrStarted index requestId payload outcome) ((sessions config).Exits index) := by
  cases outcome with
  | error error => exact quiet_sessions (by rw [role]; nofun) fun _ _ => trivial
  | ok session =>
    refine started_sessions (.asr session.id) role (by rw [role]; exact rfl) _ ?_ ⟨rfl, rfl, rfl⟩
    rintro connection other same
    cases same
    exact ⟨rfl, rfl⟩

theorem ttsStarted_sessions (role : name.role = .clientStarting) {requestId : RequestId}
    {payload : TtsStreamRequest} {outcome : Except BridgeError (TtsSession × SynthesisInputKind)} :
    (sessions config).Triple index name (Ready index (.ttsStarted requestId payload outcome))
      (ttsStarted index requestId payload outcome) ((sessions config).Exits index) := by
  match outcome with
  | .error error => exact quiet_sessions (by rw [role]; nofun) fun _ _ => trivial
  | .ok (session, inputKind) =>
    refine started_sessions (.tts session.id) role (by rw [role]; exact rfl) _ ?_ ⟨rfl, rfl, rfl⟩
    rintro connection other same
    cases same
    exact ⟨rfl, rfl⟩

/-! ## The read loop of a client connection -/

theorem SessionStep.fail {error : ErrorInfo} {named : Option SessionId}
    (role : name.role = .clientIdle) (own : ∀ sessionId ∈ named, sessionId.creator = index) :
    SessionStep index name (.sendClient index (.error none named error)) state where
  permitted := by rw [role]; exact ⟨rfl, rfl, rfl, id⟩
  enrolls _ same := nomatch same
  registers _ _ same := nomatch same
  acknowledges _ _ same := nomatch same
  tells _ _ same := nomatch same
  spawns _ _ _ same := nomatch same
  begins _ same := nomatch same
  forwards connection other forwarder := by rw [role] at forwarder; cases forwarder
  activates _ same := nomatch same
  names connection message other same about := by
    obtain ⟨rfl, rfl⟩ := Action.sendClient.inj same
    exact own other about

theorem sendError_sessions (role : name.role = .clientIdle) {named : Option SessionId}
    (own : ∀ sessionId ∈ named, sessionId.creator = index) (error : ServerError) :
    (sessions config).Triple index name (fun _ => True) (sendError index none named error)
      fun _ _ => True := by
  have sends : (sessions config).Triple index name (fun _ => True)
      (perform (.sendClient index (.error none named error.toErrorInfo))) fun _ _ => True :=
    .perform (fun _ _ _ _ _ _ _ => trivial) (fun _ _ _ _ _ _ _ _ => trivial)
      fun _ _ _ _ _ _ _ _ _ => ⟨.fail role own, fun _ => trivial⟩
  exact .bind sends fun _ => .done (fun _ _ _ _ _ _ _ => trivial) fun _ _ _ _ _ => trivial

/-- The session in the slot of a connection is its own. -/
theorem ownSession_sessions (role : name.role = .clientIdle) :
    (sessions config).Triple index name (fun _ => True) (perform (.client .activeSession))
      fun (active : Option ActiveSession) _ =>
        ∀ session ∈ active, session.sessionId.creator = index := by
  refine .perform (fun _ _ _ _ _ _ _ => trivial) (fun _ _ _ _ _ own _ _ => own) ?_
  intro size state after answer _ owned _ _ ran
  have away : NoForwarder name.role := by rw [role]; nofun
  refine ⟨.quiet (by rw [role]; trivial) trivial away, fun _ session held => ?_⟩
  obtain ⟨core, performed, rfl⟩ := exec_cases (ran_exec ran)
  obtain ⟨rfl, read⟩ := Prod.mk.inj (Option.some.inj performed)
  exact (owned.slots index session (read.trans held)).1

/-- An error about whatever is in the slot. -/
theorem complains_sessions (role : name.role = .clientIdle) (error : ServerError) :
    (sessions config).Triple index name (fun _ => True) (do
      let active : Option ActiveSession ← perform (.client .activeSession)
      sendError index none (active.map ActiveSession.sessionId) error) fun _ _ => True := by
  refine .bind (ownSession_sessions role) fun active => ?_
  refine .assume (fun _ _ _ _ own => own) fun own => ?_
  refine .consequence (sendError_sessions role ?_ error) (fun _ _ _ _ _ => trivial)
    fun _ _ _ _ _ holds => holds
  intro sessionId named
  obtain ⟨session, held, rfl⟩ := Option.map_eq_some_iff.mp named
  exact own session held

theorem clientReply_sessions (role : name.role = .clientIdle) (message : ClientMessage)
    (result : Except ServerError Unit) :
    (sessions config).Triple index name (fun _ => True) (clientReply index message result)
      ((sessions config).Exits index) := by
  have marks {assertion : State → Prop} : (sessions config).Triple index name assertion (do
      perform (.mark (.clientMessageHandled message))
      return some .clientLoop) ((sessions config).Exits index) :=
    quiet_sessions (by rw [role]; nofun) ⟨⟨by rw [role]; trivial, trivial⟩, fun _ _ _ => trivial⟩
  cases result with
  | ok _ => exact marks
  | error error =>
    have complained : (sessions config).Triple index name (fun _ => True) _ _ :=
      .bind (complains_sessions role error) fun _ => marks
    exact complained

theorem pushAudio_sessions (role : name.role = .clientIdle) (bytes : Bytes) :
    (sessions config).Triple index name (fun _ => True) (pushAudio index bytes)
      fun _ _ => True := by
  have away : NoForwarder name.role := by rw [role]; nofun
  refine .bind (ownSession_sessions role) fun active => ?_
  refine .assume (fun _ _ _ _ own => own) fun own => ?_
  refine .consequence ?_ (fun _ _ _ _ _ => trivial) fun _ _ _ _ _ holds => holds
  cases active with
  | none => exact sendError_sessions role (fun _ named => by cases named) _
  | some session =>
    have single : ∀ sessionId ∈ some session.sessionId, sessionId.creator = index := by
      rintro sessionId named
      obtain rfl := Option.some.inj named
      exact own session rfl
    cases session with
    | tts sessionId => exact sendError_sessions role single _
    | asr sessionId =>
      have pushes : (commandBridge (perform (.asr sessionId (.sendCommand (.pushAudio bytes))))).Within
          (fun action => name.role.Permits index action ∧ OffSession action) fun _ => True :=
        ⟨⟨by rw [role]; trivial, trivial⟩, fun accepted => by cases (accepted : Bool) <;> trivial⟩
      refine .bind (plain_sessions (fun _ _ => trivial) away pushes) fun result => ?_
      cases result with
      | ok _ => exact .done (fun _ _ _ _ _ _ _ => trivial) fun _ _ _ _ _ => trivial
      | error error => exact sendError_sessions role single _

theorem clientLoop_sessions (role : name.role = .clientIdle) :
    (sessions config).Triple index name (fun _ => True) (clientLoop index)
      ((sessions config).Exits index) := by
  have away : NoForwarder name.role := by rw [role]; nofun
  have permits (action : Action) (permitted : Role.clientIdle.Permits index action) :
      name.role.Permits index action := by rwa [role]
  have loops {assertion : State → Prop} : (sessions config).Triple index name assertion
      (.done (some .clientLoop)) ((sessions config).Exits index) :=
    quiet_sessions away fun _ _ => trivial
  refine .bind (plain_sessions (fun _ _ => trivial) away
    ⟨⟨permits _ trivial, trivial⟩, fun _ => trivial⟩) fun frame => ?_
  match frame with
  | .ended | .close | .pong => exact quiet_sessions away fun _ _ => trivial
  | .failed reason =>
    refine quiet_sessions away ⟨⟨permits _ trivial, trivial⟩, fun active => ?_⟩
    match active with
    | none => exact fun _ _ => trivial
    | some (.asr _) | some (.tts _) => exact ⟨⟨permits _ trivial, trivial⟩, fun _ _ _ => trivial⟩
  | .text (.ok message) => exact quiet_sessions away fun _ _ => trivial
  | .text (.error error) =>
    have complained : (sessions config).Triple index name (fun _ => True) _ _ :=
      .bind (complains_sessions role (.invalidRequest ("invalid json frame: " ++ error)))
        fun _ => loops
    exact complained
  | .binary bytes => exact .bind (pushAudio_sessions role bytes) fun _ => loops
  | .ping _ =>
    exact quiet_sessions away ⟨⟨permits _ ⟨rfl, trivial, rfl, id⟩, rfl⟩, fun _ _ _ => trivial⟩

theorem clientTeardown_sessions (role : name.role = .clientIdle) :
    (sessions config).Triple index name (fun _ => True) clientTeardown
      ((sessions config).Exits index) := by
  have quiet : clientTeardown.Within Quiet Undemanding := by
    have leaves : (do
        perform (.client .joinWriter)
        return some .returned : Program (Option Procedure)).Within Quiet Undemanding :=
      ⟨trivial, fun _ _ _ => trivial⟩
    refine ⟨trivial, fun active => ?_⟩
    cases (active : Option ActiveSession) with
    | none => exact leaves
    | some session =>
      have stops : (ActiveSession.stop session).Within Quiet fun _ => True := by
        cases session <;> exact commandBridge_quiet ⟨trivial, fun _ => trivial⟩
      have drops : (ActiveSession.dropHandle session).Within Quiet fun _ => True := by
        cases session <;> exact ⟨trivial, fun _ => trivial⟩
      exact ⟨trivial, fun _ => stops.bind fun _ _ => drops.bind fun _ _ => leaves⟩
  have both := Code.Within.and (@clientTeardown_plays index) quiet
  refine quiet_sessions (by rw [role]; nofun) (both.mono ?_ fun _ holds => holds.2)
  rw [role]
  exact fun _ => id

/-! ## All runs -/

/-- The procedure a task is spawned with finds what it needs. -/
theorem ready_spawned {procedure : Procedure}
    (step : SessionStep index name (.spawn procedure) state)
    (ran : State.exec index fresh state (.spawn procedure) = some (after, ())) :
    Ready fresh procedure after := by
  have forwards {connection : ℕ} {sessionId : SessionId}
      (role : procedure.role = .forwarder connection sessionId)
      (noted : after.history.forwarder sessionId = some fresh) :
      after.history.forwarder sessionId = some fresh ∧ sessionId.creator = connection := by
    obtain ⟨rfl, creator, _⟩ := step.spawns procedure connection sessionId rfl role
    exact ⟨noted, creator⟩
  have history := history_exec ran
  have permitted := step.permitted
  cases procedure with
  | asrForwarder connection sessionId sequence revision previousText =>
    exact forwards rfl (by rw [history]; exact Function.update_self ..)
  | ttsForwarder connection sessionId inputKind sequence totalChunks totalBytes =>
    exact forwards rfl (by rw [history]; exact Function.update_self ..)
  | agentHello | asrStarted requestId payload outcome | ttsStarted requestId payload outcome =>
    cases role : name.role <;> rw [role] at permitted <;> exact permitted.elim
  | _ => trivial

theorem sessions_valid : (sessions config).Valid where
  pre_stable _ ready rely _ := ready.rely rely
  body {index name size state} bound owned _ ready := by
    cases name with
    | agentHello => exact agentHello_sessions rfl size state bound owned ready
    | agentMessage agentId message =>
      exact agentMessage_sessions rfl agentId message size state bound owned trivial
    | agentTeardown agentId =>
      exact agentTeardown_sessions rfl agentId size state bound owned trivial
    | clientMessage message =>
      exact handleClientMessage_sessions rfl message size state bound owned trivial
    | asrStarted requestId payload outcome =>
      exact asrStarted_sessions rfl size state bound owned ready
    | ttsStarted requestId payload outcome =>
      exact ttsStarted_sessions rfl size state bound owned ready
    | asrForwarder connection sessionId sequence revision previousText =>
      exact forwarder_safe rfl bound owned ready
    | ttsForwarder connection sessionId inputKind sequence totalChunks totalBytes =>
      exact forwarder_safe rfl bound owned ready
    | clientLoop => exact clientLoop_sessions rfl size state bound owned trivial
    | clientReply message result =>
      exact clientReply_sessions rfl message result size state bound owned trivial
    | clientTeardown => exact clientTeardown_sessions rfl size state bound owned trivial
    | agentLoop _ | controlLoop | playAudio _ | controlReply _ | forwardCommandsToAgent _ _
    | deviceHello _ | deviceWait | deviceLoop | deviceMessage _ | agentReturned _ | returned =>
      exact idle_safe trivial
  action {index name size state action after answer} bound owned _ step ran := by
    have step : SessionStep index name action state := step
    have owned : SessionsOwned size state := owned
    refine ⟨owned.exec bound step (ran_exec ran) (Nat.le_add_right ..),
      fun other different _ => owned.rely_exec step (ran_exec ran) different,
      fun offset procedure spawns => ?_⟩
    cases action with
    | spawn entered =>
      have single : [entered][offset]? = some procedure := spawns
      obtain ⟨rfl, rfl⟩ : offset = 0 ∧ entered = procedure := by
        cases offset with
        | zero => exact ⟨rfl, Option.some.inj single⟩
        | succ offset => cases single
      exact ready_spawned step (ran_exec ran)
    | _ => exact nomatch List.mem_of_getElem? spawns
  event {size state event after spawned} owned _ occurred := by
    have owned : SessionsOwned size state := owned
    have undisturbed := occur_undisturbed occurred
    have kept := owned.undisturbed (Nat.le_add_right size spawned.length) undisturbed
    refine ⟨kept, fun _ _ => SessionRely.undisturbed undisturbed,
      fun offset procedure enters => ?_⟩
    have opens := occur_opens occurred procedure (List.mem_of_getElem? enters)
    cases procedure with
    | agentHello =>
      change after.history.registration (size + offset) = none
      rw [undisturbed.history]
      exact owned.unknown _ (Nat.le_add_right ..)
    | controlLoop | clientLoop | deviceHello hello => trivial
    | _ => exact opens.elim

theorem sessions_initial : (sessions config).Good (initial config) :=
  ⟨sessionsOwned_initial, fun _ _ found => nomatch found⟩

theorem sessions_unconditional : (sessions config).Unconditional :=
  ⟨fun _ _ _ _ _ => trivial, fun _ _ _ => trivial, fun _ _ => trivial⟩

theorem sessions_meet (config : GatewayConfig) (schedule : List (Choice (system config))) :
    World.Along (sessions config).Meets (initial config) schedule :=
  .always (fun world choice => sessions_unconditional.meets world choice) _ _

/-- Along every schedule, sessions are owned as stated. -/
theorem sessions_along (config : GatewayConfig) (schedule : List (Choice (system config))) :
    World.Along (World.OnEffect (sessions config).guar) (initial config) schedule :=
  sessions_initial.along sessions_valid (sessions_meet config schedule)

end SpeechMesh.Soundness
