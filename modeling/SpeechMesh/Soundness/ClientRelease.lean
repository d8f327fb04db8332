import SpeechMesh.Model.Footprints
import SpeechMesh.Soundness.Scenario

/-! # Releasing the sessions of a client connection

A connection owes a stop to the bridge session in its slot, and to a session that was started and is
not in the slot yet. Two ways out of `handle_client_websocket` drop a handle without paying: a read
error inside the loop, and a `session.started` that cannot be queued.
-/

namespace SpeechMesh.Soundness

open Async Model

/-- The bridge was told to stop the session, or the session has ended on its own: it takes no more
commands, or has put its end on the event channel. -/
def Released (state : State) : ActiveSession → Prop
  | .asr sessionId => .stop ∈ (state.asrStreams sessionId).commands.sent ∨
      (state.asrStreams sessionId).commands.closed = true ∨
      ∃ reason, .ended reason ∈ (state.asrStreams sessionId).events.sent
  | .tts sessionId => .stop ∈ (state.ttsStreams sessionId).commands.sent ∨
      (state.ttsStreams sessionId).commands.closed = true ∨
      ∃ reason, .ended reason ∈ (state.ttsStreams sessionId).events.sent

/-- A connection that has returned has released every session that was started on it. -/
def AllReleased (connection : ℕ) : Procedure → State → Prop
  | .returned, state => ∀ session ∈ state.history.opened connection, Released state session
  | _, _ => True

/-- A frame that cannot be read finds no active session that is not released, and a
`session.started` that cannot be queued announces none. -/
def LeavesReleased (index : ℕ) (_ : Procedure) (state : State) : Action → Prop
  | .client .nextFrame => ∀ {error rest session},
      (state.clients index).inbox = .failed error :: rest → state.active index = some session →
        Released state session
  | .sendClient connection (.sessionStarted _ sessionId _) => ∀ {session},
      (state.clients connection).out.closed = true → session ∈ state.history.opened index →
        session.sessionId = sessionId → Released state session
  | _ => True

variable {state after : State} {index task fresh size : ℕ} {name : Procedure} {action : Action}
  {answer : action.Answer} {owed : Option ActiveSession}

/-! ## What is owed -/

/-- All sessions of the connection are released, but for one. -/
def Owed (index : ℕ) (owed : Option ActiveSession) (state : State) : Prop :=
  ∀ session ∈ state.history.opened index, Released state session ∨ owed = some session

/-- What is owed is in the slot. -/
def SlotOwed (index : ℕ) (state : State) : Prop := Owed index (state.active index) state

/-- Nothing is owed, and the slot is free. -/
def Paid (index : ℕ) (state : State) : Prop :=
  Owed index none state ∧ state.active index = none

/-- A started session is in the hand of the task. -/
def InHand (index : ℕ) (session : ActiveSession) (state : State) : Prop :=
  Owed index (some session) state ∧ state.active index = none

theorem Paid.slot (paid : Paid index state) : SlotOwed index state := by
  rw [SlotOwed, paid.2]
  exact paid.1

theorem Owed.none_of_released (owes : Owed index owed state)
    (released : ∀ session ∈ state.history.opened index, owed = some session →
      Released state session) : Owed index none state := by
  intro session opened
  rcases owes session opened with done | same
  · exact .inl done
  · exact .inl (released session opened same)

theorem Released.grows {session : ActiveSession} (released : Released state session)
    (grow : state.StreamsGrow after) (old : session.sessionId.serial < state.sessionSerial) :
    Released after session := by
  cases session with
  | asr sessionId =>
    have grows := grow.asr sessionId old
    rcases released with stopped | closed | ⟨reason, ended⟩
    · exact .inl (grows.commands.subset stopped)
    · exact .inr (.inl (grows.closed closed))
    · exact .inr (.inr ⟨reason, grows.events.subset ended⟩)
  | tts sessionId =>
    have grows := grow.tts sessionId old
    rcases released with stopped | closed | ⟨reason, ended⟩
    · exact .inl (grows.commands.subset stopped)
    · exact .inr (.inl (grows.closed closed))
    · exact .inr (.inr ⟨reason, grows.events.subset ended⟩)

/-! ## One step -/

/-- The sessions that were started exist, and were started by tasks. -/
structure OpenedKnown (size : ℕ) (state : State) : Prop where
  created : ∀ {connection session}, session ∈ state.history.opened connection →
    session.sessionId.serial < state.sessionSerial
  unknown : ∀ {connection}, size ≤ connection → state.history.opened connection = []

/-- A start that is awaited is the start of a session that exists, and no task starts in the middle of
a client connection. -/
def AwaitsCreated (state : State) : Action → Prop
  | .awaitStarted sessionId => sessionId.serial < state.sessionSerial
  | .spawn procedure => procedure.role.family ≠ .client
  | _ => True

/-- The actions that start no session and leave the slot as it is. -/
def SlotKept : Action → Prop
  | .client (.startAsr _) | .client (.startTts _) | .client (.setActive _) | .awaitStarted _ => False
  | .spawn procedure => procedure.role.family ≠ .client
  | _ => True

theorem opened_other (other : index ≠ task)
    (ran : State.exec task fresh state action = some (after, answer)) :
    after.history.opened index = state.history.opened index := by
  rw [history_exec ran]
  simp only [State.note]
  unfold History.openedAfter
  split <;> simp [other]

theorem opened_kept (kept : SlotKept action)
    (ran : State.exec task fresh state action = some (after, answer)) :
    after.history.opened = state.history.opened := by
  rw [history_exec ran]
  simp only [State.note]
  unfold History.openedAfter
  split <;> first | cases kept | rfl

theorem active_other (other : index ≠ task)
    (ran : State.exec task fresh state action = some (after, answer)) :
    after.active index = state.active index := by
  rw [(connections_exec ran).active]
  unfold State.activeAfter
  split
  · exact Function.update_of_ne other ..
  · rfl

theorem active_kept (kept : SlotKept action)
    (ran : State.exec task fresh state action = some (after, answer)) :
    after.active = state.active := by
  rw [(connections_exec ran).active]
  unfold State.activeAfter
  split
  · cases kept
  · rfl

private theorem mem_update_append {α : Type} {lists : ℕ → List α} {key other : ℕ} {added item : α}
    (member : item ∈ Function.update lists key (lists key ++ [added]) other) :
    item ∈ lists other ∨ item = added := by
  by_cases same : other = key
  · subst same
    simpa using member
  · rw [Function.update_of_ne same] at member
    exact .inl member

/-- A session is started when its creation or its acknowledgement is answered. -/
theorem opened_exec {connection : ℕ} {session : ActiveSession}
    (ran : State.exec task fresh state action = some (after, answer))
    (opened : session ∈ after.history.opened connection) :
    session ∈ state.history.opened connection ∨
      createdSession action answer = some session.sessionId ∨
      action = .awaitStarted session.sessionId := by
  rw [history_exec ran] at opened
  simp only [State.note] at opened
  unfold History.openedAfter at opened
  split at opened
  · rcases mem_update_append opened with old | rfl
    · exact .inl old
    · exact .inr (.inl rfl)
  · rcases mem_update_append opened with old | rfl
    · exact .inl old
    · exact .inr (.inl rfl)
  · rcases mem_update_append opened with old | rfl
    · exact .inl old
    · exact .inr (.inr rfl)
  · exact .inl opened

theorem OpenedKnown.exec (known : OpenedKnown size state) (bound : task < size)
    (awaits : AwaitsCreated state action)
    (ran : State.exec task fresh state action = some (after, answer)) : OpenedKnown size after where
  created := by
    intro connection session opened
    have grown := sessionSerial_exec ran
    rcases opened_exec ran opened with old | created | rfl
    · exact lt_of_lt_of_le (known.created old) grown
    · rcases createdSession_exec ran with ⟨none_, _⟩ | ⟨created', next⟩
      · rw [none_] at created
        cases created
      · rw [created'] at created
        rw [← Option.some.inj created, next]
        exact Nat.lt_succ_self _
    · exact lt_of_lt_of_le awaits grown
  unknown := by
    intro connection new
    rw [opened_other (by omega) ran]
    exact known.unknown new

/-- What a connection relies on the other tasks not to do. -/
structure ReleaseRely (index : ℕ) (before after : State) : Prop where
  opened : after.history.opened index = before.history.opened index
  active : after.active index = before.active index
  serial : before.sessionSerial ≤ after.sessionSerial
  released : ∀ {session}, session ∈ before.history.opened index → Released before session →
    Released after session

theorem ReleaseRely.refl (index : ℕ) (state : State) : ReleaseRely index state state :=
  ⟨rfl, rfl, le_rfl, fun _ => id⟩

theorem ReleaseRely.trans {first middle last : State} (one : ReleaseRely index first middle)
    (two : ReleaseRely index middle last) : ReleaseRely index first last where
  opened := two.opened.trans one.opened
  active := two.active.trans one.active
  serial := one.serial.trans two.serial
  released opened released := two.released (one.opened ▸ opened) (one.released opened released)

theorem OpenedKnown.rely (known : OpenedKnown size state) (other : index ≠ task)
    (ran : State.exec task fresh state action = some (after, answer)) :
    ReleaseRely index state after where
  opened := opened_other other ran
  active := active_other other ran
  serial := sessionSerial_exec ran
  released opened released := released.grows (streams_exec ran) (known.created opened)

/-- A task leaves to itself what the others leave to it. -/
theorem OpenedKnown.kept (known : OpenedKnown size state) (kept : SlotKept action)
    (ran : State.exec task fresh state action = some (after, answer)) :
    ReleaseRely index state after where
  opened := by rw [opened_kept kept ran]
  active := by rw [active_kept kept ran]
  serial := sessionSerial_exec ran
  released opened released := released.grows (streams_exec ran) (known.created opened)

theorem Owed.rely (owes : Owed index owed state) (rely : ReleaseRely index state after) :
    Owed index owed after := by
  intro session opened
  rw [rely.opened] at opened
  rcases owes session opened with released | same
  · exact .inl (rely.released opened released)
  · exact .inr same

theorem SlotOwed.rely (owes : SlotOwed index state) (rely : ReleaseRely index state after) :
    SlotOwed index after := by
  rw [SlotOwed, rely.active]
  exact Owed.rely owes rely

theorem Paid.rely (paid : Paid index state) (rely : ReleaseRely index state after) :
    Paid index after :=
  ⟨paid.1.rely rely, rely.active.trans paid.2⟩

theorem InHand.rely {session : ActiveSession} (inHand : InHand index session state)
    (rely : ReleaseRely index state after) : InHand index session after :=
  ⟨inHand.1.rely rely, rely.active.trans inHand.2⟩

/-! ## The contract -/

/-- What a procedure needs when it is entered. Only client connections start sessions. -/
def Owes (index : ℕ) : Procedure → State → Prop
  | .clientLoop, state | .clientMessage _, state | .clientReply _ _, state
  | .clientTeardown, state => SlotOwed index state
  | .asrStarted _ _ (.ok session), state => InHand index (.asr session.id) state
  | .ttsStarted _ _ (.ok started), state => InHand index (.tts started.1.id) state
  | .asrStarted _ _ (.error _), state | .ttsStarted _ _ (.error _), state => SlotOwed index state
  | .returned, state => Owed index none state
  | _, state => state.history.opened index = []

def releases (config : GatewayConfig) : Contract (system config) where
  allowed index name action before _ := LeavesReleased index name before action
  enters _ _ _ := True
  occurs _ _ := True
  inv := OpenedKnown
  rely := ReleaseRely
  pre := Owes
  guar _ _ action before _ := AwaitsCreated before action
  rely_refl := .refl
  rely_trans := .trans

theorem Owes.rely {procedure : Procedure} (owes : Owes index procedure state)
    (rely : ReleaseRely index state after) : Owes index procedure after := by
  cases procedure with
  | clientLoop | clientMessage _ | clientReply _ _ | clientTeardown => exact SlotOwed.rely owes rely
  | asrStarted requestId payload outcome | ttsStarted requestId payload outcome =>
    cases outcome with
    | ok session => exact InHand.rely owes rely
    | error error => exact SlotOwed.rely owes rely
  | returned => exact Owed.rely owes rely
  | _ => exact rely.opened.trans owes

variable {config : GatewayConfig}

theorem awaits_slotKept (kept : SlotKept action) : AwaitsCreated state action := by
  cases action with
  | awaitStarted sessionId => cases kept
  | spawn procedure => exact kept
  | _ => trivial

/-- An assertion that survives the other tasks survives what keeps the slot. -/
theorem keeps_slot {α : Type} {code : Program α} {values : α → Prop} {assertion : State → Prop}
    (stable : ∀ {before after}, assertion before → ReleaseRely index before after → assertion after)
    (kept : code.Within SlotKept values) :
    (releases config).Triple index name assertion code
      fun value state => values value ∧ assertion state := by
  refine Contract.Triple.within kept (fun _ _ _ _ holds rely _ => stable holds rely) ?_
  intro action kept size state after answer _ known holds _ ran
  exact ⟨awaits_slotKept kept, fun _ => stable holds (known.kept kept (ran_exec ran))⟩

theorem keeps {α : Type} {code : Program α} {assertion : State → Prop}
    (stable : ∀ {before after}, assertion before → ReleaseRely index before after → assertion after)
    (kept : code.Within SlotKept fun _ => True) :
    (releases config).Triple index name assertion code fun _ => assertion :=
  (keeps_slot stable kept).post fun _ _ _ _ _ holds => holds.2

/-! ## The slot -/

/-- What the slot holds is known until the task sets it. -/
theorem activeSession_releases {assertion : State → Prop}
    (stable : ∀ {before after}, assertion before → ReleaseRely index before after → assertion after) :
    (releases config).Triple index name assertion (perform (.client .activeSession))
      fun (active : Option ActiveSession) state => assertion state ∧ state.active index = active := by
  refine .perform (fun _ _ _ _ holds rely _ => stable holds rely)
    (fun _ _ _ _ _ holds rely _ => ⟨stable holds.1 rely, rely.active.trans holds.2⟩) ?_
  intro size state after answer _ known holds _ ran
  have kept : SlotKept (.client .activeSession) := trivial
  refine ⟨trivial, fun _ => ⟨stable holds (known.kept kept (ran_exec ran)), ?_⟩⟩
  rw [active_kept kept (ran_exec ran)]
  obtain ⟨core, performed, _⟩ := exec_cases (ran_exec ran)
  exact (Prod.mk.inj (Option.some.inj performed)).2

/-- Clearing the slot leaves what was in it in the hand of the task. -/
theorem setActive_releases (owed active : Option ActiveSession) :
    (releases config).Triple index name (Owed index owed) (perform (.client (.setActive active)))
      fun _ state => Owed index owed state ∧ state.active index = active := by
  refine .perform (fun _ _ _ _ holds rely _ => holds.rely rely)
    (fun _ _ _ _ _ holds rely _ => ⟨holds.1.rely rely, rely.active.trans holds.2⟩) ?_
  intro size state after answer _ known holds _ ran
  refine ⟨trivial, fun _ => ⟨fun session opened => ?_, ?_⟩⟩
  · have same : after.history.opened = state.history.opened := by
      rw [history_exec (ran_exec ran)]
      rfl
    rw [same] at opened
    rcases holds session opened with released | owes
    · exact .inl (released.grows (streams_exec (ran_exec ran)) (known.created opened))
    · exact .inr owes
  · rw [(connections_exec (ran_exec ran)).active]
    exact Function.update_self ..

/-- The action that tells the bridge of a session to stop. -/
def sendsStop : ActiveSession → Action
  | .asr sessionId => .asr sessionId (.sendCommand .stop)
  | .tts sessionId => .tts sessionId (.sendCommand .stop)

/-- A bridge that is told to stop hears it, or is gone. -/
theorem sendsStop_released {session : ActiveSession} {answer : (sendsStop session).Answer}
    (ran : State.exec task fresh state (sendsStop session) = some (after, answer)) :
    Released after session := by
  obtain ⟨core, performed, rfl⟩ := exec_cases ran
  cases session with
  | asr sessionId =>
    obtain ⟨⟨stream, accepted⟩, operated, same⟩ := Option.map_eq_some_iff.mp performed
    obtain ⟨rfl, _⟩ := Prod.mk.inj same
    simp only [Released, State.setAsr, Function.update_self]
    rcases Stream.run_sendCommand operated with told | closed
    · exact .inl told
    · exact .inr (.inl closed)
  | tts sessionId =>
    obtain ⟨⟨stream, accepted⟩, operated, same⟩ := Option.map_eq_some_iff.mp performed
    obtain ⟨rfl, _⟩ := Prod.mk.inj same
    simp only [Released, State.setTts, Function.update_self]
    rcases Stream.run_sendCommand operated with told | closed
    · exact .inl told
    · exact .inr (.inl closed)

/-- After a stop was sent, or was refused, the session is released. -/
theorem stop_releases {assertion : State → Prop} (session : ActiveSession)
    (stable : ∀ {before after}, assertion before → ReleaseRely index before after → assertion after) :
    (releases config).Triple index name assertion (ActiveSession.stop session) fun _ state =>
      assertion state ∧ (session ∈ state.history.opened index → Released state session) := by
  have stable' {before after : State}
      (holds : assertion before ∧ (session ∈ before.history.opened index → Released before session))
      (rely : ReleaseRely index before after) :
      assertion after ∧ (session ∈ after.history.opened index → Released after session) := by
    refine ⟨stable holds.1 rely, fun opened => ?_⟩
    rw [rely.opened] at opened
    exact rely.released opened (holds.2 opened)
  have kept : SlotKept (sendsStop session) := by cases session <;> trivial
  have sends : (releases config).Triple index name assertion (perform (sendsStop session))
      fun _ state => assertion state ∧
        (session ∈ state.history.opened index → Released state session) := by
    refine .perform (fun _ _ _ _ holds rely _ => stable holds rely)
      (fun _ _ _ _ _ holds rely _ => stable' holds rely) ?_
    intro size state after answer _ known holds _ ran
    exact ⟨awaits_slotKept kept, fun _ => ⟨stable holds (known.kept kept (ran_exec ran)),
      fun _ => sendsStop_released (ran_exec ran)⟩⟩
  cases session with
  | asr sessionId | tts sessionId =>
    exact .bind sends fun accepted => keeps stable' (by cases (accepted : Bool) <;> trivial)

theorem dropHandle_slotKept (session : ActiveSession) :
    (ActiveSession.dropHandle session).Within SlotKept fun _ => True := by
  cases session <;> exact ⟨trivial, fun _ => trivial⟩

/-- The end of a client connection pays what is owed. -/
theorem clientTeardown_releases :
    (releases config).Triple index .clientTeardown (SlotOwed index) clientTeardown
      ((releases config).Exits index) := by
  have leaves : (releases config).Triple index .clientTeardown (Owed index none)
      (do perform (.client .joinWriter)
          return some .returned : Program (Option Procedure)) ((releases config).Exits index) :=
    .bind (keeps Owed.rely ⟨trivial, fun _ => trivial⟩) fun _ =>
      .done (fun _ _ _ _ holds rely _ => holds.rely rely) fun _ _ _ _ holds => holds
  refine .bind (activeSession_releases SlotOwed.rely) fun active => ?_
  cases active with
  | none => exact .consequence leaves (fun _ _ _ _ holds => holds.2 ▸ holds.1) fun _ _ _ _ _ => id
  | some session =>
    refine .bind (.consequence (setActive_releases (some session) none)
      (fun _ _ _ _ holds => holds.2 ▸ holds.1) fun _ _ _ _ _ holds => holds.1) fun _ => ?_
    refine .bind (.consequence (stop_releases session Owed.rely) (fun _ _ _ _ holds => holds)
      fun _ _ _ _ _ holds => holds.1.none_of_released ?_) fun _ => ?_
    · rintro other opened same
      obtain rfl := Option.some.inj same
      exact holds.2 opened
    · exact .bind (keeps Owed.rely (dropHandle_slotKept session)) fun _ => leaves

/-! ## Starting a session -/

/-- What is owed once the outcome of a start is known. -/
def Launched (index : ℕ) (session : α → ActiveSession) : Except BridgeError α → State → Prop
  | .ok value, state => InHand index (session value) state
  | .error _, state => Paid index state

theorem Launched.rely {α : Type} {session : α → ActiveSession} {outcome : Except BridgeError α}
    (launched : Launched index session outcome state) (rely : ReleaseRely index state after) :
    Launched index session outcome after := by
  cases outcome with
  | ok value => exact InHand.rely launched rely
  | error error => exact Paid.rely launched rely

/-- The answer that decides the outcome of a start. -/
theorem start_releases {α : Type} (action : Action) (session : α → ActiveSession)
    (outcome : action.Answer → Except BridgeError α) {created : State → Prop}
    (stable : ∀ {before after}, created before → ReleaseRely index before after → created after)
    (awaits : ∀ state, created state → AwaitsCreated state action)
    (active : ∀ state : State, state.activeAfter index action = state.active)
    (opens : ∀ (history : History) answer, history.openedAfter index action answer index =
      history.opened index ++ ((outcome answer).toOption.map session).toList) :
    (releases config).Triple index name (fun state => Paid index state ∧ created state)
      (perform action) fun answer => Launched index session (outcome answer) := by
  refine .perform (fun _ _ _ _ holds rely _ => ⟨holds.1.rely rely, stable holds.2 rely⟩)
    (fun _ _ _ _ _ launched rely _ => launched.rely rely) ?_
  rintro size state after answer _ known ⟨paid, exists_⟩ _ ran
  refine ⟨awaits state exists_, fun _ => ?_⟩
  have same : after.active = state.active :=
    (connections_exec (ran_exec ran)).active.trans (active state)
  have free : after.active index = none := by rw [same, paid.2]
  have opened : after.history.opened index =
      state.history.opened index ++ ((outcome answer).toOption.map session).toList := by
    rw [history_exec (ran_exec ran)]
    exact opens ..
  have old {other : ActiveSession} (before : other ∈ state.history.opened index) :
      Released after other := by
    rcases paid.1 other before with released | same
    · exact released.grows (streams_exec (ran_exec ran)) (known.created before)
    · cases same
  cases ended : outcome answer with
  | ok value =>
    refine ⟨fun other member => ?_, free⟩
    rw [opened, ended, List.mem_append] at member
    rcases member with before | new
    · exact .inl (old before)
    · obtain rfl := List.mem_singleton.mp new
      exact .inr rfl
  | error error =>
    refine ⟨fun other member => ?_, free⟩
    rw [opened, ended, List.mem_append] at member
    rcases member with before | new
    · exact .inl (old before)
    · cases new

theorem tellSession_slotKept (route : SessionRoute) (error : BridgeError)
    (events : List BridgeAsrEvent) :
    (tellSession route error events).Within SlotKept fun _ => True := by
  simp only [tellSession]
  cases route.startedTx with
  | some startedTx => exact ⟨trivial, fun _ => trivial⟩
  | none => exact .each fun _ _ => ⟨trivial, fun _ => trivial⟩

theorem failSessionStart_slotKept (sessionId : SessionId) (error : BridgeError) :
    (failSessionStart sessionId error).Within SlotKept fun _ => True := by
  refine ⟨trivial, fun found => ?_⟩
  cases found with
  | none => trivial
  | some route => exact tellSession_slotKept route error _

theorem failed_releases {code : Program (Except BridgeError AsrSession)}
    (kept : code.Within SlotKept fun outcome => outcome.isOk = false) :
    (releases config).Triple index name (Paid index) code
      (Launched index fun session => .asr session.id) := by
  refine (keeps_slot Paid.rely kept).post fun outcome _ _ _ _ holds => ?_
  cases outcome with
  | ok session => cases holds.1
  | error error => exact holds.2

theorem abandonSession_releases (sessionId : SessionId) (error : BridgeError) :
    (releases config).Triple index name (Paid index) (abandonSession sessionId error)
      (Launched index fun session => .asr session.id) :=
  failed_releases ⟨trivial, fun _ => ⟨trivial, fun _ => rfl⟩⟩

theorem refused_releases (sessionId : SessionId) (error : BridgeError) :
    (releases config).Triple index name (Paid index)
      (do failSessionStart sessionId error
          abandonSession sessionId error) (Launched index fun session => .asr session.id) :=
  .bind (keeps Paid.rely (failSessionStart_slotKept sessionId error)) fun _ =>
    abandonSession_releases sessionId error

/-- The connection has created a session, and owes nothing. -/
def Created (index : ℕ) (sessionId : SessionId) (state : State) : Prop :=
  Paid index state ∧ sessionId.serial < state.sessionSerial

theorem Created.rely {sessionId : SessionId} (created : Created index sessionId state)
    (rely : ReleaseRely index state after) : Created index sessionId after :=
  ⟨created.1.rely rely, lt_of_lt_of_le created.2 rely.serial⟩

/-- What the acknowledgement of a start means. -/
def acknowledged : Awaited (Except BridgeError Unit) → Except BridgeError Unit
  | .value result => result
  | .dropped => .error (.disconnected "session start acknowledgement lost")
  | .elapsed => .error (.unavailable "timed out waiting for agent session start")

theorem awaitStarted_releases (session : AsrSession) :
    (releases config).Triple index name (Created index session.id) (startRemote.await session)
      (Launched index fun session => .asr session.id) := by
  refine .bind (start_releases (.awaitStarted session.id) (fun _ => .asr session.id) acknowledged
    (fun exists_ rely => lt_of_lt_of_le exists_ rely.serial) (fun _ exists_ => exists_)
    (fun _ => rfl) ?_) fun awaited => ?_
  · intro history answer
    match answer with
    | .value (.ok _) => exact Function.update_self ..
    | .value (.error _) | .dropped | .elapsed => exact (List.append_nil _).symm
  · match awaited with
    | .value (.ok _) => exact .done (fun _ _ _ _ holds rely _ => holds.rely rely) fun _ _ _ _ => id
    | .value (.error error) => exact abandonSession_releases session.id error
    | .dropped | .elapsed => exact refused_releases session.id _

theorem createSession_releases :
    (releases config).Triple index name (Paid index) (perform .createSession)
      fun (sessionId : SessionId) => Created index sessionId := by
  refine .perform (fun _ _ _ _ paid rely _ => paid.rely rely)
    (fun _ _ _ _ _ created rely _ => created.rely rely) ?_
  intro size state after answer _ known paid _ ran
  have kept : SlotKept .createSession := trivial
  refine ⟨trivial, fun _ => ⟨paid.rely (known.kept kept (ran_exec ran)), ?_⟩⟩
  rcases createdSession_exec (ran_exec ran) with ⟨none_, _⟩ | ⟨some_, next⟩
  · cases none_
  · obtain rfl : answer = ⟨index, state.sessionSerial⟩ := Option.some.inj some_
    rw [next]
    exact Nat.lt_succ_self _

theorem startRemote_releases (providerId : String) (request : AsrStreamRequest) :
    (releases config).Triple index name (Paid index) (startRemote providerId request)
      (Launched index fun session => .asr session.id) := by
  have starts : (releases config).Triple index name (Paid index)
      (startRemote.start providerId request) (Launched index fun session => .asr session.id) := by
    refine .bind (keeps Paid.rely ⟨trivial, fun _ => trivial⟩) fun selected => ?_
    cases selected with
    | none => exact failed_releases rfl
    | some agent =>
      refine .bind createSession_releases fun sessionId => ?_
      refine .bind (keeps Created.rely ⟨trivial, fun _ => trivial⟩) fun _ => ?_
      refine .bind (keeps Created.rely ⟨trivial, fun _ => trivial⟩) fun sent => ?_
      cases sent with
      | false =>
        exact .consequence (refused_releases sessionId _) (fun _ _ _ _ created => created.1)
          fun _ _ _ _ _ => id
      | true =>
        refine .bind (keeps Created.rely ⟨nofun, fun _ => trivial⟩) fun _ => ?_
        exact awaitStarted_releases ⟨sessionId, providerId, request.inputFormat,
          requestedInputMode request.options, requestedOutputMode request.options⟩
  unfold startRemote
  split
  · split
    · exact starts
    · exact failed_releases rfl
  · exact starts

theorem startAsr_releases (payload : AsrStreamRequest) :
    (releases config).Triple index name (Paid index) (startAsr config payload)
      (Launched index fun session => .asr session.id) := by
  unfold startAsr
  split
  · exact failed_releases rfl
  · exact startRemote_releases _ _
  · refine .consequence (start_releases (.client (.startAsr payload)) (fun session => .asr session.id)
      id (fun _ _ => trivial) (fun _ _ => trivial) (fun _ => rfl) ?_)
      (fun _ _ _ _ paid => ⟨paid, trivial⟩) fun _ _ _ _ _ => id
    intro history answer
    match answer with
    | .ok session => exact Function.update_self ..
    | .error error => exact (List.append_nil _).symm

theorem startTts_releases (payload : TtsStreamRequest) :
    (releases config).Triple index name (Paid index) (perform (.client (.startTts payload)))
      (Launched index fun started => .tts started.1.id) := by
  refine .consequence (start_releases (.client (.startTts payload)) (fun started => .tts started.1.id)
    id (fun _ _ => trivial) (fun _ _ => trivial) (fun _ => rfl) ?_)
    (fun _ _ _ _ paid => ⟨paid, trivial⟩) fun _ _ _ _ _ => id
  intro history answer
  match answer with
  | .ok started => exact Function.update_self ..
  | .error error => exact (List.append_nil _).symm

/-! ## The messages of a client -/

theorem stopSession_releases (sessionId : SessionId) :
    (releases config).Triple index name (SlotOwed index) (stopSession sessionId)
      fun _ => SlotOwed index := by
  refine .bind (activeSession_releases SlotOwed.rely) fun active => ?_
  have unchanged (error : ServerError) : (releases config).Triple index name
      (fun state => SlotOwed index state ∧ state.active index = active)
      (pure (.error error) : Program (Except ServerError Unit)) fun _ => SlotOwed index :=
    .done (fun _ _ _ _ holds rely _ => ⟨holds.1.rely rely, rely.active.trans holds.2⟩)
      fun _ _ _ _ holds => holds.1
  cases active with
  | none => exact unchanged _
  | some session =>
    dsimp only
    split
    · refine .bind (stop_releases session fun holds rely =>
        ⟨holds.1.rely rely, rely.active.trans holds.2⟩) fun stopped => ?_
      have stable {before after : State}
          (holds : (SlotOwed index before ∧ before.active index = some session) ∧
            (session ∈ before.history.opened index → Released before session))
          (rely : ReleaseRely index before after) :
          (SlotOwed index after ∧ after.active index = some session) ∧
            (session ∈ after.history.opened index → Released after session) :=
        ⟨⟨holds.1.1.rely rely, rely.active.trans holds.1.2⟩, fun opened => by
          rw [rely.opened] at opened
          exact rely.released opened (holds.2 opened)⟩
      cases stopped with
      | error error =>
        exact .done (fun _ _ _ _ holds rely _ => stable holds rely) fun _ _ _ _ holds => holds.1.1
      | ok _ =>
        refine .bind (.consequence (setActive_releases none none) (fun _ state _ _ holds => ?_)
          fun _ _ _ _ _ (holds : Paid index _) => holds) fun _ => ?_
        · obtain ⟨⟨owes, slot⟩, released⟩ := holds
          have inSlot : Owed index (some session) state := slot ▸ owes
          refine inSlot.none_of_released ?_
          rintro other opened same
          obtain rfl := Option.some.inj same
          exact released opened
        · refine .bind (keeps Paid.rely (dropHandle_slotKept session)) fun _ => ?_
          exact .done (fun _ _ _ _ paid rely _ => paid.rely rely) fun _ _ _ _ paid => paid.slot
    · exact unchanged _

theorem sendReply_slotKept (reply : ServerMessage) :
    (sendReply index reply).Within SlotKept fun _ => True :=
  ⟨trivial, fun accepted => by cases (accepted : Bool) <;> trivial⟩

theorem commandBridge_slotKept {sent : Program Bool} (kept : sent.Within SlotKept fun _ => True) :
    (commandBridge sent).Within SlotKept fun _ => True :=
  kept.bind fun accepted _ => by cases accepted <;> trivial

theorem whenActive_slotKept {expected : Except ServerError Unit} {sent : Program Bool}
    (kept : sent.Within SlotKept fun _ => True) :
    (whenActive expected sent).Within SlotKept fun _ => True := by
  cases expected with
  | error error => trivial
  | ok _ => exact commandBridge_slotKept kept

/-- A handler that keeps the slot is followed by the reply. -/
theorem replied_releases {code : Program (Except ServerError Unit)} (message : ClientMessage)
    (kept : code.Within SlotKept fun _ => True) :
    (releases config).Triple index name (SlotOwed index)
      (do let result ← code
          return some (.clientReply message result)) ((releases config).Exits index) :=
  .bind (keeps SlotOwed.rely kept) fun _ =>
    .done (fun _ _ _ _ holds rely _ => holds.rely rely) fun _ _ _ _ holds => holds

theorem refusal_releases (message : ClientMessage) (error : ServerError) :
    (releases config).Triple index name (SlotOwed index)
      (return some (.clientReply message (.error error))) ((releases config).Exits index) :=
  .done (fun _ _ _ _ holds rely _ => holds.rely rely) fun _ _ _ _ holds => holds

/-- A start is refused while the slot is taken. -/
theorem free_releases {code : Option ActiveSession → Program (Option Procedure)}
    (taken : ∀ session, (releases config).Triple index name (SlotOwed index) (code (some session))
      ((releases config).Exits index))
    (free : (releases config).Triple index name (Paid index) (code none)
      ((releases config).Exits index)) :
    (releases config).Triple index name (SlotOwed index)
      (perform (.client .activeSession) >>= code) ((releases config).Exits index) := by
  refine .bind (activeSession_releases SlotOwed.rely) fun active => ?_
  cases active with
  | some session =>
    exact .consequence (taken session) (fun _ _ _ _ holds => holds.1) fun _ _ _ _ _ => id
  | none =>
    exact .consequence free (fun _ _ _ _ holds => ⟨holds.2 ▸ holds.1, holds.2⟩) fun _ _ _ _ _ => id

theorem handleClientMessage_releases (message : ClientMessage) :
    (releases config).Triple index name (SlotOwed index) (handleClientMessage config index message)
      ((releases config).Exits index) := by
  cases message with
  | hello requestId payload | discover requestId domains | ping requestId =>
    exact replied_releases _ (sendReply_slotKept _)
  | asrTranscribe requestId => exact refusal_releases _ _
  | asrStart requestId payload =>
    refine free_releases (fun session => refusal_releases _ _) ?_
    refine .bind (startAsr_releases payload) fun outcome => ?_
    refine .done (fun _ _ _ _ holds rely _ => holds.rely rely) fun _ _ _ _ launched => ?_
    cases outcome with
    | ok session => exact launched
    | error error => exact Paid.slot launched
  | ttsStart requestId payload =>
    refine free_releases (fun session => refusal_releases _ _) ?_
    cases config.ttsBridge with
    | none =>
      exact .consequence (refusal_releases _ _) (fun _ _ _ _ paid => paid.slot) fun _ _ _ _ _ => id
    | some bridge =>
      refine .bind (startTts_releases payload) fun outcome => ?_
      refine .done (fun _ _ _ _ holds rely _ => holds.rely rely) fun _ _ _ _ launched => ?_
      cases outcome with
      | ok started => exact launched
      | error error => exact Paid.slot launched
  | ttsVoices requestId payload =>
    simp only [handleClientMessage]
    split
    · exact refusal_releases _ _
    · refine .bind (keeps SlotOwed.rely ⟨trivial, fun _ => trivial⟩) fun listed => ?_
      cases listed with
      | error error => exact refusal_releases _ _
      | ok voices => exact replied_releases _ (sendReply_slotKept _)
  | asrCommit sessionId | ttsInputAppend sessionId delta | ttsCommit sessionId =>
    refine .bind (keeps SlotOwed.rely ⟨trivial, fun _ => trivial⟩) fun active => ?_
    exact replied_releases _ (whenActive_slotKept ⟨trivial, fun _ => trivial⟩)
  | sessionStop sessionId | sessionCancel sessionId =>
    exact .bind (stopSession_releases sessionId) fun _ =>
      .done (fun _ _ _ _ holds rely _ => holds.rely rely) fun _ _ _ _ holds => holds

theorem clientReply_releases (message : ClientMessage) (result : Except ServerError Unit) :
    (releases config).Triple index name (SlotOwed index) (clientReply index message result)
      ((releases config).Exits index) := by
  have marked : (releases config).Triple index name (SlotOwed index)
      (do perform (.mark (.clientMessageHandled message))
          return some .clientLoop : Program (Option Procedure)) ((releases config).Exits index) :=
    .bind (keeps SlotOwed.rely ⟨trivial, fun _ => trivial⟩) fun _ =>
      .done (fun _ _ _ _ holds rely _ => holds.rely rely) fun _ _ _ _ holds => holds
  cases result with
  | ok _ => exact marked
  | error error =>
    refine .bind (keeps SlotOwed.rely ⟨trivial, fun _ => trivial⟩) fun active => ?_
    exact .bind (keeps SlotOwed.rely ⟨trivial, fun _ => trivial⟩) fun _ => marked

/-! ## The session that was started -/

/-- A `session.started` that is refused announces a session that is released. -/
theorem announce_releases {session : ActiveSession} (requestId : Option RequestId)
    (payload : SessionStartedPayload) :
    (releases config).Triple index name (InHand index session)
      (sendReply index (.sessionStarted requestId session.sessionId payload))
      fun result state => InHand index session state ∧ (result.isOk = false → Paid index state) := by
  have sends : (releases config).Triple index name (InHand index session)
      (perform (.sendClient index (.sessionStarted requestId session.sessionId payload)))
      fun (accepted : Bool) state =>
        InHand index session state ∧ (accepted = false → Paid index state) := by
    refine .perform (fun _ _ _ _ holds rely _ => holds.rely rely)
      (fun _ _ _ _ _ holds rely _ => ⟨holds.1.rely rely, fun refused =>
        (holds.2 refused).rely rely⟩) ?_
    intro size state after answer _ known inHand allowed ran
    have kept : SlotKept
      (.sendClient index (.sessionStarted requestId session.sessionId payload)) := trivial
    have rely : ReleaseRely index state after := known.kept kept (ran_exec ran)
    refine ⟨trivial, fun _ => ⟨inHand.rely rely, fun refused => ?_⟩⟩
    obtain rfl : answer = false := refused
    obtain ⟨core, performed, _⟩ := exec_cases (ran_exec ran)
    obtain ⟨⟨channel, accepted⟩, sent, same⟩ := Option.map_eq_some_iff.mp performed
    obtain rfl : accepted = false := (Prod.mk.inj same).2
    have closed : (state.clients index).out.closed = true := by
      rcases Channel.send?_cases sent with ⟨_, closed, _⟩ | ⟨accepted, _⟩
      · exact closed
      · cases accepted
    have leaves : LeavesReleased index name state
      (.sendClient index (.sessionStarted requestId session.sessionId payload)) := allowed
    have paid : Paid index state := by
      refine ⟨inHand.1.none_of_released fun other opened same => ?_, inHand.2⟩
      obtain rfl := Option.some.inj same
      exact leaves closed opened rfl
    exact paid.rely rely
  refine .bind sends fun accepted => ?_
  cases accepted with
  | true =>
    exact .done (fun _ _ _ _ holds rely _ => ⟨holds.1.rely rely, nofun⟩)
      fun _ _ _ _ holds => ⟨holds.1, nofun⟩
  | false =>
    exact .done (fun _ _ _ _ holds rely _ => ⟨holds.1.rely rely, fun refused =>
      (holds.2 refused).rely rely⟩) fun _ _ _ _ holds => ⟨holds.1, fun _ => holds.2 rfl⟩

/-- The announcement of a started session, and what follows it. -/
theorem started_releases {session : ActiveSession} {message : ClientMessage}
    (requestId : Option RequestId) (payload : SessionStartedPayload) :
    (releases config).Triple index name (InHand index session) (do
        match ← sendReply index (.sessionStarted requestId session.sessionId payload) with
        | .error error => do
            ActiveSession.dropHandle session
            return some (.clientReply message (.error error))
        | .ok () => do
            perform (.client (.setActive (some session)))
            return some (.clientReply message (.ok ())) : Program (Option Procedure))
      ((releases config).Exits index) := by
  refine .bind (announce_releases requestId payload) fun result => ?_
  cases result with
  | error error =>
    refine .consequence (.bind (keeps Paid.rely (dropHandle_slotKept session)) fun _ => ?_)
      (fun _ _ _ _ holds => holds.2 rfl) fun _ _ _ _ _ => id
    exact .done (fun _ _ _ _ paid rely _ => paid.rely rely) fun _ _ _ _ paid => paid.slot
  | ok _ =>
    refine .consequence (.bind (setActive_releases (some session) (some session)) fun _ => ?_)
      (fun _ _ _ _ holds => holds.1.1) fun _ _ _ _ _ => id
    refine .done (fun _ _ _ _ holds rely _ => ⟨holds.1.rely rely, rely.active.trans holds.2⟩) ?_
    intro size state _ _ holds
    exact (holds.2.symm ▸ holds.1 : Owed index (state.active index) state)

theorem asrStarted_releases (requestId : RequestId) (payload : AsrStreamRequest)
    (outcome : Except BridgeError AsrSession) :
    (releases config).Triple index name (Owes index (.asrStarted requestId payload outcome))
      (asrStarted index requestId payload outcome) ((releases config).Exits index) := by
  cases outcome with
  | error error => exact refusal_releases _ _
  | ok session =>
    exact .bind (keeps InHand.rely ⟨nofun, fun _ => trivial⟩) fun _ => started_releases _ _

theorem ttsStarted_releases (requestId : RequestId) (payload : TtsStreamRequest)
    (outcome : Except BridgeError (TtsSession × SynthesisInputKind)) :
    (releases config).Triple index name (Owes index (.ttsStarted requestId payload outcome))
      (ttsStarted index requestId payload outcome) ((releases config).Exits index) := by
  cases outcome with
  | error error => exact refusal_releases _ _
  | ok started =>
    exact .bind (keeps InHand.rely ⟨nofun, fun _ => trivial⟩) fun _ => started_releases _ _

/-! ## The loop -/

/-- A frame that cannot be read finds nothing that is owed. -/
theorem nextFrame_releases :
    (releases config).Triple index name (SlotOwed index) (perform (.client .nextFrame))
      fun (frame : Incoming ClientMessage) state => SlotOwed index state ∧
        ∀ error, frame = .failed error → Owed index none state := by
  refine .perform (fun _ _ _ _ holds rely _ => holds.rely rely)
    (fun _ _ _ _ _ holds rely _ => ⟨holds.1.rely rely, fun error failed =>
      (holds.2 error failed).rely rely⟩) ?_
  intro size state after answer _ known owes allowed ran
  have kept : SlotKept (.client .nextFrame) := trivial
  have rely : ReleaseRely index state after := known.kept kept (ran_exec ran)
  refine ⟨trivial, fun _ => ⟨owes.rely rely, fun error failed => ?_⟩⟩
  obtain rfl : answer = .failed error := failed
  obtain ⟨core, performed, _⟩ := exec_cases (ran_exec ran)
  simp only [State.perform, State.performClient] at performed
  split at performed
  · cases performed
  · rename_i frame rest inbox
    obtain ⟨_, rfl⟩ := Prod.mk.inj (Option.some.inj performed)
    have leaves : LeavesReleased index name state (.client .nextFrame) := allowed
    refine Owed.rely (Owed.none_of_released owes fun session _ slot => ?_) rely
    exact leaves inbox slot

theorem clientFailed_releases :
    (releases config).Triple index name (Owed index none) clientFailed
      ((releases config).Exits index) := by
  have returns : (releases config).Triple index name (Owed index none)
      (return some .returned : Program (Option Procedure)) ((releases config).Exits index) :=
    .done (fun _ _ _ _ holds rely _ => holds.rely rely) fun _ _ _ _ holds => holds
  refine .bind (keeps Owed.rely ⟨trivial, fun _ => trivial⟩) fun active => ?_
  cases active with
  | none => exact returns
  | some session => exact .bind (keeps Owed.rely (dropHandle_slotKept session)) fun _ => returns

theorem clientLoop_releases :
    (releases config).Triple index name (SlotOwed index) (clientLoop index)
      ((releases config).Exits index) := by
  have loops {code : Program Unit} (kept : code.Within SlotKept fun _ => True) :
      (releases config).Triple index name (SlotOwed index)
        (do code
            return some .clientLoop : Program (Option Procedure)) ((releases config).Exits index) :=
    .bind (keeps SlotOwed.rely kept) fun _ =>
      .done (fun _ _ _ _ holds rely _ => holds.rely rely) fun _ _ _ _ holds => holds
  have goes {procedure : Procedure} (owes : ∀ state, SlotOwed index state → Owes index procedure state) :
      (releases config).Triple index name (SlotOwed index)
        (return some procedure : Program (Option Procedure)) ((releases config).Exits index) :=
    .done (fun _ _ _ _ holds rely _ => holds.rely rely) fun _ _ _ _ holds => owes _ holds
  have answered (sessionId : Option SessionId) (error : ServerError) :
      (sendError index none sessionId error).Within SlotKept fun _ => True :=
    ⟨trivial, fun _ => trivial⟩
  refine .bind nextFrame_releases fun frame => ?_
  by_cases failed : ∃ error, frame = .failed error
  · obtain ⟨error, rfl⟩ := failed
    exact .consequence clientFailed_releases (fun _ _ _ _ holds => holds.2 error rfl)
      fun _ _ _ _ _ => id
  refine .consequence ?_ (fun _ _ _ _ holds => holds.1) fun _ _ _ _ _ => id
  match frame with
  | .failed error => exact absurd ⟨error, rfl⟩ failed
  | .ended | .close => exact goes fun _ owes => owes
  | .text (.ok message) => exact goes fun _ owes => owes
  | .pong => exact goes fun _ owes => owes
  | .text (.error error) =>
    refine .bind (keeps SlotOwed.rely ⟨trivial, fun _ => trivial⟩) fun active => ?_
    exact loops (answered _ _)
  | .ping payload =>
    refine .bind (keeps SlotOwed.rely ⟨trivial, fun _ => trivial⟩) fun _ => ?_
    exact goes fun _ owes => owes
  | .binary bytes =>
    have pushes : (pushAudio index bytes).Within SlotKept fun _ => True := by
      refine ⟨trivial, fun active => ?_⟩
      match active with
      | some (.asr sessionId) =>
        have sends : (commandBridge (perform (.asr sessionId (.sendCommand (.pushAudio bytes))))).Within
            SlotKept fun _ => True := commandBridge_slotKept ⟨trivial, fun _ => trivial⟩
        refine sends.bind fun result _ => ?_
        cases result with
        | ok _ => trivial
        | error error => exact answered _ _
      | some (.tts sessionId) | none => exact answered _ _
    exact loops pushes

/-! ## All runs -/

/-- Nothing but a client connection starts sessions and sets slots. -/
theorem role_slotKept {role : Role} (other : role.family ≠ .client)
    (permitted : role.Permits index action) : SlotKept action := by
  cases action with
  | client action =>
    cases role with
    | clientIdle | clientHandling | clientStarting => exact absurd rfl other
    | _ => cases action <;> first | trivial | exact permitted | (rename_i active; cases active <;> exact permitted)
  | awaitStarted sessionId =>
    obtain rfl : role = .clientHandling := permitted
    exact other rfl
  | spawn procedure =>
    cases role with
    | clientHandling | clientStarting => exact absurd rfl other
    | _ => exact permitted.elim
  | _ => trivial

/-- Whoever has started no session owes nothing. -/
theorem Owes.of_unopened (unopened : state.history.opened index = []) {procedure : Procedure}
    (other : procedure.role.family ≠ .client) : Owes index procedure state := by
  cases procedure with
  | clientLoop | clientMessage _ | clientReply _ _ | clientTeardown | asrStarted _ _ _
  | ttsStarted _ _ _ => exact absurd rfl other
  | returned =>
    intro session opened
    rw [unopened] at opened
    cases opened
  | _ => exact unopened

theorem Role.Leads.stays_out {role next : Role} (leads : role.Leads next)
    (other : role.family ≠ .client) : next.family ≠ .client := by
  cases next with
  | clientIdle | clientHandling | clientStarting =>
    cases role <;> first
      | exact absurd rfl other
      | exact leads.elim
      | (rcases leads with same | same <;> cases same)
  | _ => nofun

theorem other_releases (other : name.role.family ≠ .client) (bound : index < size)
    (known : OpenedKnown size state) (unopened : state.history.opened index = []) :
    (releases config).Safe index name (body config index name) ((releases config).Exits index)
      state := by
  have kept : (body config index name).Within SlotKept name.role.Continues :=
    (body_plays config index name).mono (fun _ => role_slotKept other) fun _ => id
  refine (keeps_slot (fun unopened rely => rely.opened.trans unopened) kept size state bound known
    unopened).mono bound ?_
  rintro exit size state _ _ ⟨continues, unopened⟩
  cases exit with
  | none => trivial
  | some procedure => exact .of_unopened unopened (Role.Leads.stays_out continues other)

theorem releases_valid : (releases config).Valid where
  pre_stable _ owes rely _ := owes.rely rely
  body {index name size state} bound known _ owes := by
    cases name with
    | clientLoop => exact clientLoop_releases size state bound known owes
    | clientMessage message => exact handleClientMessage_releases message size state bound known owes
    | clientReply message result =>
      exact clientReply_releases message result size state bound known owes
    | clientTeardown => exact clientTeardown_releases size state bound known owes
    | asrStarted requestId payload outcome =>
      exact asrStarted_releases requestId payload outcome size state bound known owes
    | ttsStarted requestId payload outcome =>
      exact ttsStarted_releases requestId payload outcome size state bound known owes
    | returned => exact fun _ _ _ _ _ => trivial
    | agentHello | agentLoop _ | agentMessage _ _ | agentTeardown _ | controlLoop | playAudio _
    | controlReply _ | asrForwarder _ _ _ _ _ | ttsForwarder _ _ _ _ _ _
    | forwardCommandsToAgent _ _ | deviceHello _ | deviceWait | deviceLoop | deviceMessage _
    | agentReturned _ =>
      exact other_releases nofun bound known owes
  action {index name size state action after answer} bound known _ guar ran := by
    have acted := known.exec bound guar (ran_exec ran)
    refine ⟨⟨acted.created, fun new => acted.unknown (by omega)⟩,
      fun _ other _ => known.rely other (ran_exec ran), fun offset procedure spawns => ?_⟩
    have new : after.history.opened (size + offset) = [] := acted.unknown (by omega)
    cases action with
    | spawn entered =>
      obtain rfl := List.mem_singleton.mp (List.mem_of_getElem? spawns)
      exact .of_unopened new guar
    | _ => exact nomatch List.mem_of_getElem? spawns
  event {size state event after spawned} known _ occurred := by
    have undisturbed := occur_undisturbed occurred
    have rely (index : ℕ) : ReleaseRely index state after := by
      refine ⟨?_, congrFun undisturbed.active index, ?_, ?_⟩
      · rw [undisturbed.history]
      · rw [undisturbed.sessionSerial]
      · intro session opened released
        exact released.grows (occur_streams occurred) (known.created opened)
    have unknown {connection : ℕ} (new : size ≤ connection) : after.history.opened connection = [] := by
      rw [undisturbed.history]
      exact known.unknown new
    refine ⟨⟨fun opened => ?_, fun new => unknown (by omega)⟩, fun index _ => rely index,
      fun offset procedure enters => ?_⟩
    · rw [undisturbed.history] at opened
      rw [undisturbed.sessionSerial]
      exact known.created opened
    · have opens := occur_opens occurred procedure (List.mem_of_getElem? enters)
      have new : after.history.opened (size + offset) = [] := unknown (by omega)
      cases procedure with
      | clientLoop =>
        intro session opened
        rw [new] at opened
        cases opened
      | agentHello | controlLoop | deviceHello hello => exact new
      | _ => exact opens.elim

theorem releases_initial : (releases config).Good (initial config) :=
  ⟨⟨fun opened => (nomatch opened), fun _ => rfl⟩, fun _ _ found => nomatch found⟩

/-- Along every schedule whose read errors and refused announcements find nothing to release, a client
connection that has returned has released all its sessions. -/
theorem returned_released (config : GatewayConfig) (schedule : List (Choice (system config)))
    (leaves : World.Along (World.OnAction LeavesReleased) (initial config) schedule) :
    World.Along (World.OnEntry AllReleased) (initial config) schedule := by
  have entries := releases_initial.entries releases_valid (leaves.imp fun world choice allowed =>
    ⟨allowed.effect, .always (fun _ _ _ => trivial) _ _, .always (fun _ _ => trivial) _ _⟩)
  refine entries.imp fun world choice entered => ?_
  cases choice with
  | event event => trivial
  | task index =>
    simp only [World.OnEntry] at entered ⊢
    split
    · rename_i name procedure found
      simp only [found] at entered
      cases procedure with
      | returned =>
        intro session opened
        rcases entered session opened with released | owes
        · exact released
        · cases owes
      | _ => trivial
    · trivial

open Scenario in
/-- A client closes its connection while its session is active. -/
def closesActive : List (Choice (system Scenario.config)) :=
  asksRecognition 0 ++ [providerAccepts 0, occurs (.clientInput 0 .close)] ++ turns 18 0 ++
    [occurs (.clientWriterEnds 0)] ++ turns 2 0

open Scenario in
/-- The session is stopped before the connection returns. -/
theorem returned_released_closing :
    World.Along (World.OnEntry AllReleased) (initial Scenario.config) closesActive := by
  refine returned_released Scenario.config _ ?_
  refine .step True.intro rfl (.step True.intro rfl (.step True.intro rfl ?_))
  refine .step True.intro rfl (.step True.intro rfl ?_)
  refine .step (fun inbox => nomatch inbox) rfl ?_
  refine .step True.intro rfl (.step True.intro rfl (.step True.intro rfl ?_))
  refine .step True.intro rfl (.step True.intro rfl ?_)
  refine .step (fun closed => nomatch closed) rfl ?_
  refine .step True.intro rfl (.step True.intro rfl (.step True.intro rfl ?_))
  refine .step True.intro rfl ?_
  refine .step (fun inbox => nomatch inbox) rfl ?_
  refine .step True.intro rfl (.step True.intro rfl (.step True.intro rfl ?_))
  refine .step True.intro rfl (.step True.intro rfl (.step True.intro rfl ?_))
  exact .step True.intro rfl (.step True.intro rfl True.intro)

open Scenario in
/-- A frame cannot be read while a session is active. -/
def breaksActive : List (Choice (system Scenario.config)) :=
  asksRecognition 0 ++ [providerAccepts 0, occurs (.clientInput 0 (.failed "connection reset"))] ++
    turns 15 0

open Scenario in
/-- The writer of a client has died before its session is announced, and the client goes away. -/
def announcesLate : List (Choice (system Scenario.config)) :=
  asksRecognition 0 ++ [providerAccepts 0, occurs (.clientWriterEnds 0),
    occurs (.clientInput 0 .close)] ++ turns 18 0

open Scenario in
/-- The connections return, and their sessions have not been told to stop. -/
theorem returned_unreleased :
    ¬ World.Along (World.OnEntry AllReleased) (initial Scenario.config) (breaksActive ++ [.task 0]) ∧
    ¬ World.Along (World.OnEntry AllReleased) (initial Scenario.config)
      (announcesLate ++ [.task 0]) := by
  constructor
  · intro always
    obtain ⟨last, ran⟩ : ∃ last, (initial Scenario.config).replay? breaksActive = some last :=
      ⟨_, rfl⟩
    have released := always.at ran
    cases ran
    rcases released (.asr ⟨0, 0⟩) (.head _) with stopped | closed | ⟨reason, ended⟩
    · cases stopped
    · cases closed
    · cases ended
  · intro always
    obtain ⟨last, ran⟩ : ∃ last, (initial Scenario.config).replay? announcesLate = some last :=
      ⟨_, rfl⟩
    have released := always.at ran
    cases ran
    rcases released (.asr ⟨0, 0⟩) (.head _) with stopped | closed | ⟨reason, ended⟩
    · cases stopped
    · cases closed
    · cases ended
end SpeechMesh.Soundness
