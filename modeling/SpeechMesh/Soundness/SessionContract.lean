import SpeechMesh.Soundness.SessionOwnership

/-! # The programs keep session ownership

Each program is walked once. The tasks that remove a route hold it, with its start sender if that is
still there, until they have told the client side; the tasks that only look up a sender use it for
one event; the task of a client connection starts one new session at a time.
-/

namespace SpeechMesh.Soundness

open Async Model

/-- What a procedure needs when it is entered. -/
def Ready (index : ℕ) : Procedure → State → Prop
  | .agentHello, state => state.history.registration index = none
  | .asrForwarder connection sessionId _ _ _, state
  | .ttsForwarder connection sessionId _ _ _ _, state =>
      state.history.forwarder sessionId = some index ∧ sessionId.creator = connection
  | .asrStarted _ _ (.ok session), state =>
      Startable state index session.id ∧ state.active index = none
  | .ttsStarted _ _ (.ok started), state =>
      Startable state index started.1.id ∧ state.active index = none
  | _, _ => True

/-- The contract of session ownership, for all schedules. -/
def sessions (config : GatewayConfig) : Contract (system config) where
  allowed _ _ _ _ _ := True
  enters _ _ _ := True
  occurs _ _ := True
  inv := SessionsOwned
  rely := SessionRely
  pre := Ready
  guar index name action before _ := SessionStep index name action before
  rely_refl := .refl
  rely_trans := .trans

variable {config : GatewayConfig} {index size fresh : ℕ} {name : Procedure} {state after : State}

theorem Startable.rely {sessionId : SessionId} (startable : Startable state index sessionId)
    (rely : SessionRely index state after) : Startable after index sessionId where
  creator := startable.creator
  created := lt_of_lt_of_le startable.created rely.created
  unforwarded := rely.unforwarded sessionId startable.creator startable.unforwarded
  unused := by rw [rely.vacated]; exact startable.unused

theorem Ready.rely {procedure : Procedure} (ready : Ready index procedure state)
    (rely : SessionRely index state after) : Ready index procedure after := by
  cases procedure with
  | agentHello => exact rely.unregistered ready
  | asrForwarder connection sessionId sequence revision previousText =>
    exact ⟨rely.forwarder sessionId index ready.1, ready.2⟩
  | ttsForwarder connection sessionId inputKind sequence totalChunks totalBytes =>
    exact ⟨rely.forwarder sessionId index ready.1, ready.2⟩
  | asrStarted requestId payload outcome =>
    cases outcome with
    | error error => trivial
    | ok session => exact ⟨ready.1.rely rely, rely.active ▸ ready.2⟩
  | ttsStarted requestId payload outcome =>
    cases outcome with
    | error error => trivial
    | ok started => exact ⟨ready.1.rely rely, rely.active ▸ ready.2⟩
  | _ => trivial

/-! ## Actions that are not about who acts for a session -/

/-- The actions that `SessionStep` says nothing about, apart from their role. -/
def Quiet : Action → Prop
  | .registry (.deviceRegisterAgent _) | .registry (.registerSession _ _) | .sendStarted _ _
  | .asr _ (.sendEvent _) | .client (.setActive (some _)) => False
  | .sendClient _ message => message.sessionId? = none
  | .spawn procedure => ∀ connection sessionId, procedure.role ≠ .forwarder connection sessionId
  | _ => True

theorem SessionStep.quiet {action : Action} (permitted : name.role.Permits index action)
    (quiet : Quiet action)
    (role : ∀ connection sessionId, name.role ≠ .forwarder connection sessionId) :
    SessionStep index name action state where
  permitted := permitted
  enrolls := by rintro agent rfl; exact quiet.elim
  registers := by rintro agentId sessionId rfl; exact quiet.elim
  acknowledges := by rintro sessionId result rfl; exact quiet.elim
  tells := by rintro sessionId event rfl; exact quiet.elim
  spawns := by
    rintro procedure connection sessionId rfl forwards
    exact absurd forwards (quiet connection sessionId)
  begins := by
    rintro procedure rfl
    cases procedure with
    | asrForwarder connection sessionId => exact absurd rfl (quiet connection sessionId)
    | ttsForwarder connection sessionId => exact absurd rfl (quiet connection sessionId)
    | _ => trivial
  forwards connection sessionId forwards := absurd forwards (role connection sessionId)
  activates := by rintro session rfl; exact quiet.elim
  names := by
    rintro connection message sessionId rfl named
    have unnamed : message.sessionId? = none := quiet
    rw [unnamed] at named
    cases named

/-- The roles that act for no session and say nothing to clients. -/
def Role.Idle : Role → Prop
  | .agentIdle | .controlIdle | .controlPlaying | .commands _ _ | .device | .finished => True
  | _ => False

theorem SessionStep.idle {action : Action} (idle : Role.Idle name.role)
    (permitted : name.role.Permits index action) : SessionStep index name action state := by
  generalize same : name.role = role at idle permitted
  cases role with
  | commands sessionId connection =>
    refine ⟨same ▸ permitted, ?_, ?_, ?_, ?_, ?_, ?_, ?_, ?_, ?_⟩
    · rintro agent rfl; exact permitted.elim
    · rintro agentId sessionId rfl; exact permitted.elim
    · rintro sessionId result rfl; exact permitted.elim
    · rintro sessionId event rfl tells
      rw [same] at tells
      exact tells.elim
    · rintro procedure connection sessionId rfl; exact permitted.elim
    · rintro procedure rfl; exact permitted.elim
    · intro connection sessionId forwards
      rw [same] at forwards
      cases forwards
    · rintro session rfl; exact permitted.elim
    · rintro receiver message sessionId rfl; exact permitted.elim
  | agentIdle | controlIdle | controlPlaying | device | finished =>
    refine .quiet (same ▸ permitted) ?_ (by simp [same])
    cases action with
    | registry section_ => cases section_ <;> trivial
    | asr sessionId operation => cases operation <;> trivial
    | client operation =>
      cases operation with
      | setActive active => cases active <;> trivial
      | _ => trivial
    | sendStarted | spawn | sendClient => exact permitted.elim
    | _ => trivial
  | agentGreeting | agentHandling | agentLeaving | clientIdle | clientHandling | clientStarting
  | forwarder => exact idle.elim

/-- A procedure of an idle role acts for no session, and starts none. -/
theorem idle_safe (idle : Role.Idle name.role) :
    (sessions config).Safe index name (body config index name) ((sessions config).Exits index)
      state := by
  refine .within (body_plays config index name) ?_ ?_
  · intro action permitted size before after answer _ _ _ _
    exact .idle idle permitted
  · intro exit leads size state _ _
    cases exit with
    | none => trivial
    | some next =>
      change Ready index next state
      change name.role.Leads next.role at leads
      cases role : name.role <;> rw [role] at idle leads <;> first
        | exact idle.elim
        | (cases next <;> first | trivial | exact leads.elim | (rcases leads with same | same; all_goals cases same))

theorem session_of_relayed {sessionId : SessionId} {message : ServerMessage}
    (relayed : message.Relayed sessionId) : message.sessionId? = some sessionId := by
  cases message <;> first
    | exact congrArg some relayed
    | exact relayed.2
    | exact relayed.elim

/-- A forwarder acts for its session only. -/
theorem forwarder_safe {connection : ℕ} {sessionId : SessionId}
    (role : name.role = .forwarder connection sessionId) (bound : index < size)
    (owned : SessionsOwned size state)
    (ready : state.history.forwarder sessionId = some index ∧ sessionId.creator = connection) :
    (sessions config).Safe index name (body config index name) ((sessions config).Exits index)
      state := by
  let Mine (state : State) : Prop :=
    state.history.forwarder sessionId = some index ∧ sessionId.creator = connection
  have stable : (sessions config).Stable index Mine :=
    fun _ _ _ _ mine rely _ => ⟨rely.forwarder sessionId index mine.1, mine.2⟩
  have walked : (sessions config).Triple index name Mine (body config index name)
      fun exit state => name.role.Continues exit ∧ Mine state := by
    refine .within (body_plays config index name) stable ?_
    intro action permitted size before after answer _ owned mine _ ran
    have step : SessionStep index name action before := by
      rw [role] at permitted
      refine ⟨role ▸ permitted, ?_, ?_, ?_, ?_, ?_, ?_, ?_, ?_, ?_⟩
      · rintro agent rfl; exact permitted.elim
      · rintro agentId other rfl; exact permitted.elim
      · rintro other result rfl; exact permitted.elim
      · rintro other event rfl; exact permitted.elim
      · rintro procedure other third rfl; exact permitted.elim
      · rintro procedure rfl; exact permitted.elim
      · intro other third forwards
        obtain ⟨rfl, rfl⟩ := Role.forwarder.inj (role.symm.trans forwards)
        exact mine
      · rintro session rfl; exact permitted.elim
      · rintro other message third rfl named
        obtain ⟨rfl, relayed⟩ := permitted
        obtain rfl := Option.some.inj ((session_of_relayed relayed).symm.trans named)
        exact mine.2
    refine ⟨step, fun _ => ⟨?_, mine.2⟩⟩
    rcases forwarder_exec (ran_exec ran) sessionId with same | ⟨procedure, other, rfl, forwards, _⟩
    · exact same.trans mine.1
    · have free := (step.spawns procedure other sessionId rfl forwards).2.2.2
      have held := mine.1
      rw [free] at held
      cases held
  refine (walked size state bound owned ready).mono bound ?_
  rintro exit size state _ _ ⟨leads, mine⟩
  cases exit with
  | none => trivial
  | some next =>
    change Ready index next state
    change name.role.Leads next.role at leads
    rw [role] at leads
    cases next <;> first
      | trivial
      | exact leads.elim
      | (rcases leads with same | same <;> cases same; exact mine)

/-! ## Holding a route -/

/-- The task has taken a route out of the map, and has not told its client side yet. -/
structure Holding (index : ℕ) (entry : SessionId × SessionRoute) (state : State) : Prop where
  own : RouteOwns entry.1 entry.2
  holder : state.history.holder entry.1 = some index
  untold : state.history.concluded entry.1 = false
  pending : entry.2.startedTx.isSome → state.history.startHolder entry.1 = some index ∧
    state.started entry.1 = .waiting

def HoldingAll (index : ℕ) (entries : List (SessionId × SessionRoute)) (state : State) : Prop :=
  ∀ entry ∈ entries, Holding index entry state

theorem Holding.rely {entry : SessionId × SessionRoute} (holding : Holding index entry state)
    (rely : SessionRely index state after) : Holding index entry after where
  own := holding.own
  holder := (rely.holds _ holding.holder).1
  untold := (rely.holds _ holding.holder).2.trans holding.untold
  pending pending :=
    have before := holding.pending pending
    ⟨(rely.starts _ before.1).1, (rely.starts _ before.1).2 before.2⟩

/-- What the task does for other sessions, or without telling, leaves a held route as it is. -/
theorem Holding.exec {entry : SessionId × SessionRoute} {action : Action} {answer : action.Answer}
    (holding : Holding index entry state) (owned : SessionsOwned size state)
    (ran : State.exec index fresh state action = some (after, answer))
    (acknowledges : ∀ result, action ≠ .sendStarted entry.1 result)
    (ends : ∀ event, action = .asr entry.1 (.sendEvent event) → event.isEnded = false) :
    Holding index entry after where
  own := holding.own
  holder := by
    rcases holder_exec ran entry.1 with same | ⟨_, ⟨route, found⟩, _⟩
    · rw [same, holding.holder]
    · have free := (owned.routed _ route found).1
      rw [holding.holder] at free
      cases free
  untold := by
    rcases concluded_exec ran entry.1 with same | ⟨_, event, rfl, ended⟩
    · rw [same, holding.untold]
    · rw [ends event rfl] at ended
      cases ended
  pending pending := by
    obtain ⟨held, waiting⟩ := holding.pending pending
    constructor
    · rcases startHolder_exec ran owned.own entry.1 with same | ⟨_, ⟨route, found, _⟩, _⟩
      · rw [same, held]
      · have free := (owned.routed _ route found).1
        rw [holding.holder] at free
        cases free
    · rw [started_exec ran]
      unfold State.startedAfter
      split
      · rename_i acknowledged result
        have different : entry.1 ≠ acknowledged := by
          rintro rfl
          exact acknowledges result rfl
        rw [Function.update_of_ne different, waiting]
      · exact waiting

theorem HoldingAll.exec {entries : List (SessionId × SessionRoute)} {action : Action}
    {answer : action.Answer} (holding : HoldingAll index entries state)
    (owned : SessionsOwned size state)
    (ran : State.exec index fresh state action = some (after, answer))
    (acknowledges : ∀ sessionId result, action = .sendStarted sessionId result →
      sessionId ∉ entries.map Prod.fst)
    (ends : ∀ sessionId event, action = .asr sessionId (.sendEvent event) →
      event.isEnded = true → sessionId ∉ entries.map Prod.fst) :
    HoldingAll index entries after := by
  intro entry member
  have present : entry.1 ∈ entries.map Prod.fst := List.mem_map_of_mem member
  refine (holding entry member).exec owned ran ?_ ?_
  · rintro result same
    exact acknowledges entry.1 result same present
  · rintro event same
    by_contra ended
    exact ends entry.1 event same (by simpa using ended) present

/-- No event but the last ends the session. -/
def EndsLast : List BridgeAsrEvent → Prop
  | [] => True
  | event :: rest => (event.isEnded = true → rest = []) ∧ EndsLast rest

private theorem stable_holdingAll (entries : List (SessionId × SessionRoute)) :
    (sessions config).Stable index (HoldingAll index entries) :=
  fun _ _ _ _ holding rely _ entry member => (holding entry member).rely rely

theorem SessionStep.acknowledge {sessionId : SessionId} {result : Except BridgeError Unit}
    (tells : name.role.Tells) (held : state.history.startHolder sessionId = some index)
    (waiting : state.started sessionId = .waiting) :
    SessionStep index name (.sendStarted sessionId result) state where
  permitted := tells
  enrolls _ same := nomatch same
  registers _ _ same := nomatch same
  acknowledges other _ same := by
    obtain ⟨rfl, _⟩ := Action.sendStarted.inj same
    exact ⟨held, waiting⟩
  tells _ _ same := nomatch same
  spawns _ _ _ same := nomatch same
  begins _ same := nomatch same
  forwards connection other role := by rw [role] at tells; exact tells.elim
  activates _ same := nomatch same
  names _ _ _ same := nomatch same

theorem SessionStep.tell {sessionId : SessionId} {event : BridgeAsrEvent}
    (tells : name.role.Tells)
    (speaks : (state.history.holder sessionId = some index ∧
        state.history.concluded sessionId = false) ∨
      (state.history.sending index = some sessionId ∧ event.isEnded = false)) :
    SessionStep index name (.asr sessionId (.sendEvent event)) state where
  permitted := tells.sendEvent ..
  enrolls _ same := nomatch same
  registers _ _ same := nomatch same
  acknowledges _ _ same := nomatch same
  tells other told same _ := by
    obtain ⟨rfl, sent⟩ := Action.asr.inj same
    obtain rfl := StreamAction.sendEvent.inj sent
    exact speaks
  spawns _ _ _ same := nomatch same
  begins _ same := nomatch same
  forwards connection other role := by rw [role] at tells; exact tells.elim
  activates _ same := nomatch same
  names _ _ _ same := nomatch same

/-- Telling the client side of a held route, whatever else is held. -/
theorem tellSession_owned (tells : name.role.Tells) {entry : SessionId × SessionRoute}
    {rest : List (SessionId × SessionRoute)} (startError : BridgeError)
    {events : List BridgeAsrEvent} (endsLast : EndsLast events)
    (distinct : entry.1 ∉ rest.map Prod.fst) :
    (sessions config).Triple index name (HoldingAll index (entry :: rest))
      (tellSession entry.2 startError events) fun _ => HoldingAll index rest := by
  refine .assume (fun _ _ _ _ holding => (holding entry (List.mem_cons_self ..)).own) ?_
  rintro ⟨owned, own⟩
  unfold tellSession
  cases pending : entry.2.startedTx with
  | some startedTx =>
    obtain rfl : startedTx = entry.1 := own startedTx pending
    refine .perform (stable_holdingAll _) (fun _ => stable_holdingAll _) ?_
    intro size state after answer _ inv holding _ ran
    obtain ⟨held, waiting⟩ :=
      (holding entry (List.mem_cons_self ..)).pending (by rw [pending]; rfl)
    refine ⟨.acknowledge tells held waiting, fun _ => ?_⟩
    refine HoldingAll.exec (fun other member => holding other (List.mem_cons_of_mem _ member))
      inv (ran_exec ran) ?_ fun _ _ same => nomatch same
    rintro other result same
    obtain ⟨rfl, _⟩ := Action.sendStarted.inj same
    exact distinct
  | none =>
    rw [owned]
    -- the route is held up to the last event, the only one that may end the session
    have stable (events : List BridgeAsrEvent) : (sessions config).Stable index fun state =>
        HoldingAll index rest state ∧ (events ≠ [] → Holding index entry state) :=
      fun _ _ _ _ holding rely _ => ⟨fun other member => (holding.1 other member).rely rely,
        fun more => (holding.2 more).rely rely⟩
    refine Contract.Triple.consequence (Contract.Triple.each (fun events state =>
        HoldingAll index rest state ∧ (events ≠ [] → Holding index entry state)) ?_ (stable []))
      (fun _ _ _ _ holding => ⟨fun other member => holding other (List.mem_cons_of_mem _ member),
        fun _ => holding entry (List.mem_cons_self ..)⟩)
      (fun _ _ _ _ _ holding => holding.1)
    intro event later suffix
    have last : event.isEnded = true → later = [] := by
      clear stable
      induction events with
      | nil => exact absurd (List.suffix_nil.mp suffix) (by simp)
      | cons first others ih =>
        rcases List.suffix_cons_iff.mp suffix with same | inside
        · obtain ⟨rfl, rfl⟩ := List.cons.inj same
          exact endsLast.1
        · exact ih endsLast.2 inside
    refine .act (stable _) ?_ fun _ => .done (stable later) fun _ _ _ _ holding => holding
    intro size state after answer _ inv holding _ ran
    have held := holding.2 (by simp)
    refine ⟨.tell tells (.inl ⟨held.holder, held.untold⟩), fun _ => ⟨?_, fun more => ?_⟩⟩
    · refine holding.1.exec inv (ran_exec ran) (fun _ _ same => nomatch same) ?_
      rintro other told same _
      obtain ⟨rfl, _⟩ := Action.asr.inj same
      exact distinct
    · refine held.exec inv (ran_exec ran) (fun _ same => nomatch same) ?_
      intro told same
      obtain ⟨_, sent⟩ := Action.asr.inj same
      obtain rfl := StreamAction.sendEvent.inj sent
      by_contra ended
      exact more (last (by simpa using ended))

end SpeechMesh.Soundness
