import SpeechMesh.Soundness.SessionTokens

/-! # Session ownership

What holds of the sessions in every schedule, with no condition on it: a session is registered once,
by the connection that created it; its route, its start sender and its forwarder each pass to one
task, which alone acts on them; and a connection registers one agent.
-/

namespace SpeechMesh.Soundness

open Async Model

/-- Nobody acts for the session yet. -/
structure Unclaimed (state : State) (sessionId : SessionId) : Prop where
  route : state.registry.sessions.lookup sessionId = none
  holder : state.history.holder sessionId = none
  startHolder : state.history.startHolder sessionId = none
  started : state.started sessionId = .waiting
  concluded : state.history.concluded sessionId = false
  placement : state.history.sessionPlacement sessionId = none

def ServerMessage.startedSession? : ServerMessage → Option SessionId
  | .sessionStarted _ sessionId _ => some sessionId
  | _ => none

/-- The session that was announced last. -/
def lastStarted (queued : List ServerMessage) : Option SessionId :=
  (queued.filterMap ServerMessage.startedSession?).getLast?

/-- A session that its creator has not given to a forwarder yet, and that never was in the slot. -/
structure Startable (state : State) (connection : ℕ) (sessionId : SessionId) : Prop where
  creator : sessionId.creator = connection
  created : sessionId.serial < state.sessionSerial
  unforwarded : state.history.forwarder sessionId = none
  unused : sessionId ∉ state.history.vacated connection

/-- A session that its connection may put into the slot: a new one, and announced last. -/
structure Announced (state : State) (connection : ℕ) (sessionId : SessionId) : Prop where
  creator : sessionId.creator = connection
  created : sessionId.serial < state.sessionSerial
  unused : sessionId ∉ state.history.vacated connection
  free : state.active connection = none
  last : lastStarted (state.queued connection) = some sessionId

/-! ## The invariant -/

/-- The connection of a record has registered the agent id of the record. -/
def Registered (state : State) (connection : ℕ) (agentId : String) : Prop :=
  ∃ stamp, state.history.registration connection = some (agentId, stamp)

structure SessionsOwned (size : ℕ) (state : State) : Prop where
  own : RoutesOwn state.registry
  records : ∀ agentId agent, state.registry.deviceRegistry.agents.lookup agentId = some agent →
    agent.agentId = agentId ∧ Registered state agent.commandTx agentId
  unknown : ∀ connection, size ≤ connection → state.history.registration connection = none
  unclaimed : ∀ sessionId : SessionId, state.sessionSerial ≤ sessionId.serial →
    Unclaimed state sessionId
  unforwarded : ∀ sessionId : SessionId, state.sessionSerial ≤ sessionId.serial →
    state.history.forwarder sessionId = none
  unsent : ∀ (sessionId : SessionId) task, state.sessionSerial ≤ sessionId.serial →
    state.history.sending task ≠ some sessionId
  routed : ∀ sessionId route, state.registry.sessions.lookup sessionId = some route →
    state.history.holder sessionId = none ∧ state.history.concluded sessionId = false
  pending : ∀ sessionId route, state.registry.sessions.lookup sessionId = some route →
    route.startedTx.isSome → state.history.startHolder sessionId = none ∧
      state.started sessionId = .waiting
  slots : ∀ connection session, state.active connection = some session →
    session.sessionId.creator = connection ∧ session.sessionId.serial < state.sessionSerial ∧
      session.sessionId ∉ state.history.vacated connection
  vacated : ∀ connection sessionId, sessionId ∈ state.history.vacated connection →
    sessionId.serial < state.sessionSerial

/-! ## What a task may do, and what it may rely on -/

/-- A forwarder starts with nothing relayed. -/
def Procedure.Begins : Procedure → Prop
  | .asrForwarder _ _ sequence revision previousText =>
      sequence = 0 ∧ revision = 0 ∧ previousText = ""
  | .ttsForwarder _ _ _ sequence totalChunks totalBytes =>
      sequence = 0 ∧ totalChunks = 0 ∧ totalBytes = 0
  | _ => True

/-- What the session actions of a task require. -/
structure SessionStep (index : ℕ) (name : Procedure) (action : Action) (before : State) : Prop where
  permitted : name.role.Permits index action
  enrolls : ∀ agent, action = .registry (.deviceRegisterAgent agent) →
    before.history.registration index = none
  registers : ∀ agentId sessionId, action = .registry (.registerSession agentId sessionId) →
    sessionId.creator = index ∧ sessionId.serial < before.sessionSerial ∧
      Unclaimed before sessionId ∧ ∃ connection, before.history.selected index = some connection ∧
        Registered before connection agentId
  acknowledges : ∀ sessionId result, action = .sendStarted sessionId result →
    before.history.startHolder sessionId = some index ∧ before.started sessionId = .waiting
  tells : ∀ sessionId event, action = .asr sessionId (.sendEvent event) → name.role.Tells →
    (before.history.holder sessionId = some index ∧ before.history.concluded sessionId = false) ∨
    (before.history.sending index = some sessionId ∧ event.isEnded = false)
  spawns : ∀ procedure connection sessionId, action = .spawn procedure →
    procedure.role = .forwarder connection sessionId → connection = index ∧
      sessionId.creator = index ∧ sessionId.serial < before.sessionSerial ∧
      before.history.forwarder sessionId = none
  begins : ∀ procedure, action = .spawn procedure → Procedure.Begins procedure
  forwards : ∀ connection sessionId, name.role = .forwarder connection sessionId →
    before.history.forwarder sessionId = some index ∧ sessionId.creator = connection
  activates : ∀ session, action = .client (.setActive (some session)) →
    Announced before index session.sessionId
  names : ∀ connection message sessionId, action = .sendClient connection message →
    ServerMessage.sessionId? message = some sessionId → sessionId.creator = connection

/-- What a task may rely on when others act. -/
structure SessionRely (index : ℕ) (before after : State) : Prop where
  created : before.sessionSerial ≤ after.sessionSerial
  registration : ∀ connection known, before.history.registration connection = some known →
    after.history.registration connection = some known
  unregistered : before.history.registration index = none → after.history.registration index = none
  selected : after.history.selected index = before.history.selected index
  unclaimed : ∀ sessionId : SessionId, sessionId.creator = index → Unclaimed before sessionId →
    Unclaimed after sessionId
  unforwarded : ∀ sessionId : SessionId, sessionId.creator = index →
    before.history.forwarder sessionId = none → after.history.forwarder sessionId = none
  forwarder : ∀ sessionId task, before.history.forwarder sessionId = some task →
    after.history.forwarder sessionId = some task
  holds : ∀ sessionId, before.history.holder sessionId = some index →
    after.history.holder sessionId = some index ∧
      after.history.concluded sessionId = before.history.concluded sessionId
  starts : ∀ sessionId, before.history.startHolder sessionId = some index →
    after.history.startHolder sessionId = some index ∧
      (before.started sessionId = .waiting → after.started sessionId = .waiting)
  sending : after.history.sending index = before.history.sending index
  active : after.active index = before.active index
  vacated : after.history.vacated index = before.history.vacated index
  announced : lastStarted (after.queued index) = lastStarted (before.queued index)

/-! ## One step -/

variable {size index fresh : ℕ} {name : Procedure} {action : Action} {state after : State}
  {answer : action.Answer}

/-- A session stays unclaimed until it is registered. -/
theorem Unclaimed.step {sessionId : SessionId} (unclaimed : Unclaimed state sessionId)
    (own : RoutesOwn state.registry) (step : SessionStep index name action state)
    (ran : State.exec index fresh state action = some (after, answer))
    (other : ∀ agentId, action ≠ .registry (.registerSession agentId sessionId)) :
    Unclaimed after sessionId where
  route := by
    rw [registry_exec ran]
    by_contra found
    obtain ⟨route, found⟩ := Option.ne_none_iff_exists'.mp found
    cases action with
    | registry section_ =>
      rcases sessions_run section_ sessionId found with kept | ⟨agentId, rfl, _⟩ | ⟨old, _, kept, _⟩
      · rw [unclaimed.route] at kept
        cases kept
      · exact other agentId rfl
      · rw [unclaimed.route] at kept
        cases kept
    | _ =>
      have kept : state.registry.sessions.lookup sessionId = some route := found
      rw [unclaimed.route] at kept
      cases kept
  holder := by
    rcases holder_exec ran sessionId with same | ⟨_, ⟨route, found⟩, _⟩
    · rw [same, unclaimed.holder]
    · rw [unclaimed.route] at found
      cases found
  startHolder := by
    rcases startHolder_exec ran own sessionId with same | ⟨_, ⟨route, found, _⟩, _⟩
    · rw [same, unclaimed.startHolder]
    · rw [unclaimed.route] at found
      cases found
  started := by
    rw [started_exec ran]
    unfold State.startedAfter
    split
    · rename_i acknowledged result
      have different : sessionId ≠ acknowledged := by
        rintro rfl
        have held := (step.acknowledges sessionId result rfl).1
        rw [unclaimed.startHolder] at held
        cases held
      rw [Function.update_of_ne different, unclaimed.started]
    · exact unclaimed.started
  concluded := by
    rcases concluded_exec ran sessionId with same | ⟨held, _⟩
    · rw [same, unclaimed.concluded]
    · rw [unclaimed.holder] at held
      cases held
  placement := by
    rcases sessionPlacement_exec ran sessionId with same | ⟨agentId, registers⟩
    · rw [same, unclaimed.placement]
    · exact absurd registers (other agentId)

/-- What becomes of the route of a session in an action. -/
theorem route_exec (step : SessionStep index name action state)
    (ran : State.exec index fresh state action = some (after, answer)) {sessionId : SessionId}
    {route : SessionRoute} (found : after.registry.sessions.lookup sessionId = some route) :
    (∃ old, state.registry.sessions.lookup sessionId = some old ∧
      (route.startedTx.isSome → old.startedTx.isSome)) ∨ Unclaimed state sessionId := by
  rw [registry_exec ran] at found
  cases action with
  | registry section_ =>
    rcases sessions_run section_ sessionId found with kept | ⟨agentId, rfl, _⟩ | ⟨old, _, kept, rfl⟩
    · exact .inl ⟨route, kept, id⟩
    · exact .inr (step.registers agentId sessionId rfl).2.2.1
    · exact .inl ⟨old, kept, nofun⟩
  | _ => exact .inl ⟨route, found, id⟩

theorem SessionsOwned.records_exec (owned : SessionsOwned size state)
    (step : SessionStep index name action state)
    (ran : State.exec index fresh state action = some (after, answer)) (agentId : String)
    (agent : RegisteredAgent)
    (found : after.registry.deviceRegistry.agents.lookup agentId = some agent) :
    agent.agentId = agentId ∧ Registered after agent.commandTx agentId := by
  have old (kept : state.registry.deviceRegistry.agents.lookup agentId = some agent) :
      agent.agentId = agentId ∧ Registered after agent.commandTx agentId := by
    obtain ⟨same, stamp, known⟩ := owned.records agentId agent kept
    exact ⟨same, stamp, (extends_exec ran).registration known⟩
  rw [registry_exec ran] at found
  cases action with
  | registry section_ =>
    rcases agents_run section_ agentId found with kept | ⟨rfl, rfl⟩
    · exact old kept
    · have sends : agent.commandTx = index := by
        have permitted := step.permitted
        cases role : name.role <;> rw [role] at permitted <;>
          first | exact permitted | exact permitted.elim
      refine ⟨rfl, state.history.registrations, ?_⟩
      rw [sends, history_exec ran]
      simp [State.note, History.registrationAfter, step.enrolls agent rfl]
  | _ => exact old found

theorem SessionsOwned.pending_exec (owned : SessionsOwned size state)
    (step : SessionStep index name action state)
    (ran : State.exec index fresh state action = some (after, answer)) (sessionId : SessionId)
    (route : SessionRoute) (found : after.registry.sessions.lookup sessionId = some route)
    (pending : route.startedTx.isSome) : after.history.startHolder sessionId = none ∧
      after.started sessionId = .waiting := by
  have before : state.history.startHolder sessionId = none ∧
      state.started sessionId = .waiting := by
    rcases route_exec step ran found with ⟨old, kept, was⟩ | unclaimed
    · exact owned.pending sessionId old kept (was pending)
    · exact ⟨unclaimed.startHolder, unclaimed.started⟩
  constructor
  · rcases startHolder_exec ran owned.own sessionId with same | ⟨_, _, taken⟩
    · rw [same, before.1]
    · rw [taken route found] at pending
      cases pending
  · rw [started_exec ran]
    unfold State.startedAfter
    split
    · rename_i acknowledged result
      have different : sessionId ≠ acknowledged := by
        rintro rfl
        have held := (step.acknowledges sessionId result rfl).1
        rw [before.1] at held
        cases held
      rw [Function.update_of_ne different, before.2]
    · exact before.2

theorem SessionsOwned.routed_exec (owned : SessionsOwned size state)
    (step : SessionStep index name action state)
    (ran : State.exec index fresh state action = some (after, answer)) (sessionId : SessionId)
    (route : SessionRoute) (found : after.registry.sessions.lookup sessionId = some route) :
    after.history.holder sessionId = none ∧ after.history.concluded sessionId = false := by
  have before : state.history.holder sessionId = none ∧
      state.history.concluded sessionId = false := by
    rcases route_exec step ran found with ⟨old, kept, _⟩ | unclaimed
    · exact owned.routed sessionId old kept
    · exact ⟨unclaimed.holder, unclaimed.concluded⟩
  constructor
  · rcases holder_exec ran sessionId with same | ⟨_, _, gone⟩
    · rw [same, before.1]
    · rw [gone] at found
      cases found
  · rcases concluded_exec ran sessionId with same | ⟨held, _⟩
    · rw [same, before.2]
    · rw [before.1] at held
      cases held

theorem active_exec (ran : State.exec index fresh state action = some (after, answer))
    (connection : ℕ) : after.active connection = state.active connection ∨
      (connection = index ∧ ∃ active, action = .client (.setActive active) ∧
        after.active connection = active) := by
  rw [(connections_exec ran).active]
  unfold State.activeAfter
  split
  · rename_i active
    by_cases same : connection = index
    · subst same
      exact .inr ⟨rfl, active, rfl, Function.update_self ..⟩
    · exact .inl (Function.update_of_ne same ..)
  · exact .inl rfl

theorem SessionsOwned.slots_exec (owned : SessionsOwned size state)
    (step : SessionStep index name action state)
    (ran : State.exec index fresh state action = some (after, answer)) (connection : ℕ)
    (session : ActiveSession) (found : after.active connection = some session) :
    session.sessionId.creator = connection ∧ session.sessionId.serial < after.sessionSerial ∧
      session.sessionId ∉ after.history.vacated connection := by
  have grown := sessionSerial_exec ran
  rcases active_exec ran connection with same | ⟨rfl, active, rfl, new⟩
  · rw [same] at found
    obtain ⟨creator, created, unused⟩ := owned.slots connection session found
    refine ⟨creator, by omega, ?_⟩
    rcases vacated_exec ran connection with kept | ⟨rfl, active, rfl, left⟩
    · rwa [kept]
    · -- the slot was set to what it held
      have set : after.active connection = active := by
        rw [(connections_exec ran).active]
        exact Function.update_self ..
      rw [same, found] at set
      simpa [left, found, ← set, History.vacatedBy] using unused
  · rw [new] at found
    subst found
    obtain ⟨creator, created, unused, free, _⟩ := step.activates session rfl
    refine ⟨creator, by omega, ?_⟩
    rcases vacated_exec ran connection with kept | ⟨_, _, _, left⟩
    · rwa [kept]
    · simpa [left, free, History.vacatedBy] using unused

/-- An action keeps the invariant. -/
theorem SessionsOwned.exec (owned : SessionsOwned size state) (bound : index < size)
    (step : SessionStep index name action state)
    (ran : State.exec index fresh state action = some (after, answer)) {larger : ℕ}
    (grows : size ≤ larger) : SessionsOwned larger after where
  own := owned.own.exec ran
  records := owned.records_exec step ran
  unknown := by
    intro connection outside
    rcases registration_exec ran connection with same | ⟨rfl, _⟩
    · rw [same]
      exact owned.unknown connection (by omega)
    · omega
  unclaimed := by
    intro sessionId new
    have grown := sessionSerial_exec ran
    refine (owned.unclaimed sessionId (by omega)).step owned.own step ran ?_
    rintro agentId rfl
    have created := (step.registers agentId sessionId rfl).2.1
    omega
  unforwarded := by
    intro sessionId new
    have grown := sessionSerial_exec ran
    rcases forwarder_exec ran sessionId with same | ⟨procedure, connection, rfl, role, _⟩
    · rw [same]
      exact owned.unforwarded sessionId (by omega)
    · have created := (step.spawns procedure connection sessionId rfl role).2.2.1
      omega
  unsent := by
    intro sessionId task new sending
    have grown := sessionSerial_exec ran
    by_cases own : task = index
    · subst own
      rcases sending_own ran sending with before | ⟨_, route, found⟩
      · exact owned.unsent sessionId task (by omega) before
      · rw [(owned.unclaimed sessionId (by omega)).route] at found
        cases found
    · rw [sending_other ran own] at sending
      exact owned.unsent sessionId task (by omega) sending
  routed := owned.routed_exec step ran
  pending := owned.pending_exec step ran
  slots := owned.slots_exec step ran
  vacated := by
    intro connection sessionId member
    have grown := sessionSerial_exec ran
    rcases vacated_exec ran connection with same | ⟨rfl, active, _, left⟩
    · rw [same] at member
      have created := owned.vacated connection sessionId member
      omega
    · rw [left] at member
      rcases List.mem_append.mp member with old | new
      · have created := owned.vacated connection sessionId old
        omega
      · cases found : state.active connection with
        | none => simp [found, History.vacatedBy] at new
        | some session =>
          obtain ⟨_, created, _⟩ := owned.slots connection session found
          simp only [found, History.vacatedBy] at new
          split_ifs at new
          · simp at new
          · obtain rfl := List.mem_singleton.mp new
            omega

theorem lastStarted_append (queued : List ServerMessage) (message : ServerMessage) :
    lastStarted (queued ++ [message]) =
      (ServerMessage.startedSession? message).or (lastStarted queued) := by
  simp only [lastStarted, List.filterMap_append, List.getLast?_append]
  cases message <;> simp [ServerMessage.startedSession?]

/-- Others announce nothing on a client's connection. -/
theorem announced_exec (step : SessionStep index name action state)
    (ran : State.exec index fresh state action = some (after, answer)) {connection : ℕ}
    (different : connection ≠ index) :
    lastStarted (after.queued connection) = lastStarted (state.queued connection) := by
  rw [(connections_exec ran).queued]
  unfold State.queuedAfter
  split
  · rename_i other message accepted
    by_cases same : connection = other
    · subst same
      rw [Function.update_self]
      cases accepted with
      | false => simp
      | true =>
        have silent : ServerMessage.startedSession? message = none := by
          have permitted : name.role.Queues index connection message := step.permitted
          cases role : name.role <;> rw [role] at permitted
          case forwarder =>
            obtain ⟨_, relayed⟩ := permitted
            cases message <;> first | rfl | exact relayed.elim
          all_goals first | exact absurd permitted.1 different | exact permitted.elim
        simp only [if_true, lastStarted_append, silent, Option.none_or]
    · rw [Function.update_of_ne same]
  · rfl

/-- An action of another task is within what a task relies on. -/
theorem SessionsOwned.rely_exec (owned : SessionsOwned size state)
    (step : SessionStep index name action state)
    (ran : State.exec index fresh state action = some (after, answer)) {other : ℕ}
    (different : other ≠ index) : SessionRely other state after where
  created := sessionSerial_exec ran
  registration := fun _ _ => (extends_exec ran).registration
  unregistered := by
    rcases registration_exec ran other with same | ⟨own, _⟩
    · rw [same]
      exact id
    · exact absurd own different
  selected := selected_exec ran different
  unclaimed := by
    intro sessionId creator unclaimed
    refine unclaimed.step owned.own step ran ?_
    rintro agentId rfl
    exact different (creator ▸ (step.registers agentId sessionId rfl).1)
  unforwarded := by
    intro sessionId creator unforwarded
    rcases forwarder_exec ran sessionId with same | ⟨procedure, connection, rfl, role, _⟩
    · rwa [same]
    · exact absurd (creator ▸ (step.spawns procedure connection sessionId rfl role).2.1) different
  forwarder := by
    intro sessionId task found
    rcases forwarder_exec ran sessionId with same | ⟨procedure, connection, rfl, role, _⟩
    · rwa [same]
    · rw [(step.spawns procedure connection sessionId rfl role).2.2.2] at found
      cases found
  holds := by
    intro sessionId held
    constructor
    · rcases holder_exec ran sessionId with same | ⟨_, ⟨route, found⟩, _⟩
      · rwa [same]
      · rw [(owned.routed sessionId route found).1] at held
        cases held
    · rcases concluded_exec ran sessionId with same | ⟨own, _⟩
      · exact same
      · rw [held] at own
        exact absurd (Option.some.inj own) different
  starts := by
    intro sessionId held
    constructor
    · rcases startHolder_exec ran owned.own sessionId with same | ⟨_, ⟨route, found, pending⟩, _⟩
      · rwa [same]
      · rw [(owned.pending sessionId route found (by simp [pending])).1] at held
        cases held
    · intro waiting
      rw [started_exec ran]
      unfold State.startedAfter
      split
      · rename_i acknowledged result
        have kept : sessionId ≠ acknowledged := by
          rintro rfl
          have own := (step.acknowledges sessionId result rfl).1
          rw [held] at own
          exact different (Option.some.inj own)
        rwa [Function.update_of_ne kept]
      · exact waiting
  sending := sending_other ran different
  active := by
    rcases active_exec ran other with same | ⟨own, _⟩
    · exact same
    · exact absurd own different
  vacated := by
    rcases vacated_exec ran other with same | ⟨own, _⟩
    · exact same
    · exact absurd own different
  announced := announced_exec step ran different

/-! ## Events -/

theorem SessionRely.refl (index : ℕ) (state : State) : SessionRely index state state :=
  ⟨le_rfl, fun _ _ => id, id, rfl, fun _ _ => id, fun _ _ => id, fun _ _ => id,
    fun _ held => ⟨held, rfl⟩, fun _ held => ⟨held, id⟩, rfl, rfl, rfl, rfl⟩

theorem SessionRely.trans {first middle last : State} (one : SessionRely index first middle)
    (two : SessionRely index middle last) : SessionRely index first last where
  created := one.created.trans two.created
  registration connection known := two.registration connection known ∘ one.registration connection known
  unregistered := two.unregistered ∘ one.unregistered
  selected := two.selected.trans one.selected
  unclaimed sessionId creator := two.unclaimed sessionId creator ∘ one.unclaimed sessionId creator
  unforwarded sessionId creator :=
    two.unforwarded sessionId creator ∘ one.unforwarded sessionId creator
  forwarder sessionId task := two.forwarder sessionId task ∘ one.forwarder sessionId task
  holds sessionId held :=
    ⟨(two.holds sessionId (one.holds sessionId held).1).1,
      (two.holds sessionId (one.holds sessionId held).1).2.trans (one.holds sessionId held).2⟩
  starts sessionId held :=
    ⟨(two.starts sessionId (one.starts sessionId held).1).1,
      (two.starts sessionId (one.starts sessionId held).1).2 ∘ (one.starts sessionId held).2⟩
  sending := two.sending.trans one.sending
  active := two.active.trans one.active
  vacated := two.vacated.trans one.vacated
  announced := two.announced.trans one.announced

theorem Unclaimed.undisturbed {sessionId : SessionId} (unclaimed : Unclaimed state sessionId)
    (undisturbed : state.Undisturbed after) : Unclaimed after sessionId where
  route := by rw [undisturbed.registry.sessions, unclaimed.route]
  holder := by rw [undisturbed.history, unclaimed.holder]
  startHolder := by rw [undisturbed.history, unclaimed.startHolder]
  started := by rw [undisturbed.started, unclaimed.started]
  concluded := by rw [undisturbed.history, unclaimed.concluded]
  placement := by rw [undisturbed.history, unclaimed.placement]

theorem SessionsOwned.undisturbed (owned : SessionsOwned size state) {larger : ℕ}
    (grows : size ≤ larger) (undisturbed : state.Undisturbed after) :
    SessionsOwned larger after where
  own := owned.own.agree undisturbed.registry
  records := by
    intro agentId agent found
    rw [undisturbed.registry.agents] at found
    rw [Registered, undisturbed.history]
    exact owned.records agentId agent found
  unknown := by
    intro connection outside
    rw [undisturbed.history]
    exact owned.unknown connection (by omega)
  unclaimed := by
    intro sessionId new
    rw [undisturbed.sessionSerial] at new
    exact (owned.unclaimed sessionId new).undisturbed undisturbed
  unforwarded := by
    intro sessionId new
    rw [undisturbed.sessionSerial] at new
    rw [undisturbed.history]
    exact owned.unforwarded sessionId new
  unsent := by
    intro sessionId task new
    rw [undisturbed.sessionSerial] at new
    rw [undisturbed.history]
    exact owned.unsent sessionId task new
  routed := by
    intro sessionId route found
    rw [undisturbed.registry.sessions] at found
    rw [undisturbed.history]
    exact owned.routed sessionId route found
  pending := by
    intro sessionId route found
    rw [undisturbed.registry.sessions] at found
    rw [undisturbed.history, undisturbed.started]
    exact owned.pending sessionId route found
  slots := by
    intro connection session found
    rw [undisturbed.active] at found
    rw [undisturbed.history, undisturbed.sessionSerial]
    exact owned.slots connection session found
  vacated := by
    intro connection sessionId member
    rw [undisturbed.history] at member
    rw [undisturbed.sessionSerial]
    exact owned.vacated connection sessionId member

theorem SessionRely.undisturbed (undisturbed : state.Undisturbed after) :
    SessionRely index state after where
  created := undisturbed.sessionSerial.ge
  registration _ _ := undisturbed.history ▸ id
  unregistered := undisturbed.history ▸ id
  selected := undisturbed.history ▸ rfl
  unclaimed _ _ unclaimed := unclaimed.undisturbed undisturbed
  unforwarded _ _ := undisturbed.history ▸ id
  forwarder _ _ := undisturbed.history ▸ id
  holds _ held := by rw [undisturbed.history]; exact ⟨held, rfl⟩
  starts _ held := ⟨undisturbed.history ▸ held, fun waiting => undisturbed.started ▸ waiting⟩
  sending := undisturbed.history ▸ rfl
  active := congrFun undisturbed.active index
  vacated := undisturbed.history ▸ rfl
  announced := congrArg lastStarted (congrFun undisturbed.queued index)

theorem sessionsOwned_initial : SessionsOwned 0 {} where
  own := routesOwn_empty
  records := by simp [default]
  unknown := fun _ _ => rfl
  unclaimed := fun _ _ => ⟨by simp [default], rfl, rfl, rfl, rfl, rfl⟩
  unforwarded := fun _ _ => rfl
  unsent := fun _ _ _ => nofun
  routed := by simp [default]
  pending := by simp [default]
  slots := by simp [State.active]
  vacated := by simp

end SpeechMesh.Soundness
