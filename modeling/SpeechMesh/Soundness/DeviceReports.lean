import SpeechMesh.Soundness.Requests
import SpeechMesh.Soundness.Scenario

/-! # What the control client hears of a failed playback

The handler of a terminal status removes the route of the task and settles its waiter, while the
request may still be looking the route up for its chunks. The device's message reaches the control
client as far as the request gets through to its wait, and the waiter is left to the handler.
-/

namespace SpeechMesh.Soundness

open Async Model

/-- The text a control client is told a reported failure with. -/
def failureText (payload : AgentTaskStatusPayload) : String :=
  (BridgeError.unavailable (payload.message.getD "play_audio task failed")).toText

/-- The answer to a request tells of each failure that was reported before. -/
def HearsReport (control : ℕ) (_ : Procedure) : Action → State → State → Prop
  | .control (.send response), state, _ => ∀ number payload,
      state.history.answering control = some number →
        payload ∈ state.history.reported number → response = .error (failureText payload)
  | _, _, _ => True

/-- Once a failure of a request was read, the request finds its route when it looks it up and does
not give its route or its waiter up; and the waiter that is stored when the failure is read is its
own, is not displaced, and is taken by the handler of the failure. -/
def ReportsPassed (index : ℕ) (name : Procedure) (state : State) : Action → Prop
  | .registry (.taskAgentId taskId) => ∀ {number},
      state.history.servedNumber index = some number → state.history.reported number ≠ [] →
        (state.registry.deviceRegistry.tasks.lookup taskId).isSome
  | .registry (.removeTask _) => ∀ {number},
      state.history.servedNumber index = some number → state.history.reported number = []
  | .registry (.removeTaskWaiter taskId) =>
      (∀ {number}, state.history.servedNumber index = some number →
        state.history.reported number = []) ∧
      ∀ {waiter number}, state.registry.taskWaiters.lookup taskId = some waiter →
        state.history.waiterRequest waiter = some number → state.history.reported number = []
  | .registry (.subscribeTaskWaiter taskId) => ∀ {waiter number},
      state.registry.taskWaiters.lookup taskId = some waiter →
        state.history.waiterRequest waiter = some number → state.history.reported number = []
  | .registry (.takeTaskWaiter taskId) => ∀ {waiter number payload},
      state.registry.taskWaiters.lookup taskId = some waiter →
        state.history.waiterRequest waiter = some number →
          payload ∈ state.history.reported number →
            ∃ agentId, name = .agentMessage agentId (.taskStatus taskId payload)
  | .agent .nextInput => ∀ {input rest taskId payload number},
      (state.agents index).inbox = input :: rest →
        input.message.failure? = some (taskId, payload) →
          state.history.unanswered number = true → state.history.routedAs number = some taskId →
            payload ∉ state.history.reported number →
              routed state taskId = some number ∧
                ∃ waiter, state.registry.taskWaiters.lookup taskId = some waiter ∧
                  state.history.waiterRequest waiter = some number
  | _ => True

variable {state after : State} {index task fresh : ℕ} {name : Procedure} {action : Action}
  {answer : action.Answer}

/-! ## The invariant -/

/-- Every request has at most one waiter, which is waiting while it is stored, and which is told
nothing but the reported failure once there is one. What a task answers has been called, by no other
task. -/
structure ReportInvariant (state : State) : Prop where
  numbered : RequestsNumbered state.history
  asked : ∀ {control number}, state.history.answering control = some number →
    number < state.history.requests
  own : ∀ {task control number}, state.history.servedNumber task = some number →
    state.history.answering control = some number → control = task
  named : WaitersNamed state
  fresh : ∀ {waiter}, state.nextWaiter ≤ waiter →
    state.history.waiterRequest waiter = none ∧ state.taskReplies waiter = .waiting
  stored : ∀ {taskId waiter}, state.registry.taskWaiters.lookup taskId = some waiter →
    state.taskReplies waiter = .waiting
  one : ∀ {waiter other number}, state.history.waiterRequest waiter = some number →
    state.history.waiterRequest other = some number → waiter = other
  failed : ∀ {number payload}, payload ∈ state.history.reported number → payload.state = .failed
  told : ∀ {waiter number payload}, state.history.waiterRequest waiter = some number →
    payload ∈ state.history.reported number →
      state.taskReplies waiter = .waiting ∨ state.taskReplies waiter = .sent payload.waitResult
  uncalled : ∀ {number}, state.history.requests ≤ number →
    state.history.reported number = [] ∧ (∀ taskId, routed state taskId ≠ some number) ∧
      ∀ waiter, state.history.waiterRequest waiter ≠ some number

/-- What is sent to a waiter is the failure that was reported, and so is what a request is answered
with; a request subscribes once, and no task starts with an answer. -/
def ReportGuar (index : ℕ) (state : State) : Action → Prop
  | .sendTaskResult waiter result => Unstored waiter state ∧ ∀ {number payload},
      state.history.waiterRequest waiter = some number →
        payload ∈ state.history.reported number → result = payload.waitResult
  | .control (.send response) => ∀ number payload, state.history.answering index = some number →
      payload ∈ state.history.reported number → response = .error (failureText payload)
  | .registry (.subscribeTaskWaiter _) => ∀ {number},
      state.history.servedNumber index = some number →
        ∀ waiter, state.history.waiterRequest waiter ≠ some number
  | .spawn procedure => ∀ result, procedure ≠ .controlReply result
  | _ => True

/-- What a task answers after an action it answered before, or it was just called. -/
theorem answering_note_cases {number : ℕ}
    (asks : (state.note task fresh action answer).answering index = some number) :
    state.history.answering index = some number ∨
      (index = task ∧ number = state.history.requests ∧
        (state.note task fresh action answer).requests = state.history.requests + 1) := by
  simp only [State.note] at asks ⊢
  unfold History.answeringAfter at asks
  split at asks
  · by_cases same : index = task
    · subst same
      rw [Function.update_self] at asks
      cases asks
    · rw [Function.update_of_ne same] at asks
      exact .inl asks
  · by_cases same : index = task
    · subst same
      rw [Function.update_self] at asks
      exact .inr ⟨rfl, (Option.some.inj asks).symm, rfl⟩
    · rw [Function.update_of_ne same] at asks
      exact .inl asks
  · exact .inl asks

theorem ReportInvariant.waiting_fresh (inv : ReportInvariant state) (guar : ReportGuar task state action)
    (ran : State.exec task fresh state action = some (after, answer)) {waiter : ℕ}
    (new : state.nextWaiter ≤ waiter) : after.taskReplies waiter = .waiting := by
  rcases taskReplies_cases ran waiter with same | ⟨result, rfl, _⟩ | ⟨taskId, _, found, _⟩
  · rw [same, (inv.fresh new).2]
  · have old := guar.1.1
    omega
  · have known := inv.named.stored found
    rw [inv.named.fresh new] at known
    cases known

/-- A stored waiter is not displaced, or it is new. -/
theorem ReportInvariant.stored_exec (inv : ReportInvariant state) (guar : ReportGuar task state action)
    (ran : State.exec task fresh state action = some (after, answer))
    {taskId : String} {waiter : ℕ}
    (found : after.registry.taskWaiters.lookup taskId = some waiter) :
    after.taskReplies waiter = .waiting := by
  have stays : (state.registry.taskWaiters.lookup taskId = some waiter ∧
      action ≠ .registry (.subscribeTaskWaiter taskId)) ∨ state.nextWaiter ≤ waiter := by
    rw [registry_exec ran] at found
    cases action with
    | registry action =>
      rcases taskWaiters_run action taskId found with ⟨before, other⟩ | ⟨_, rfl⟩
      · exact .inl ⟨before, fun same => other (Action.registry.inj same)⟩
      · exact .inr le_rfl
    | _ => exact .inl ⟨found, nofun⟩
  rcases stays with ⟨before, other⟩ | new
  · rcases taskReplies_cases ran waiter with same | ⟨result, rfl, _⟩ | ⟨id, drops, displaced, _⟩
    · rw [same, inv.stored before]
    · exact absurd before (guar.1.2 taskId)
    · -- a displaced waiter is not in the map under its only id
      have same := (inv.named.stored before).symm.trans (inv.named.stored displaced)
      obtain rfl := Option.some.inj same
      rcases drops with rfl | rfl
      · exact absurd rfl other
      · rw [registry_exec ran] at found
        simp [State.registryAfter, AgentRegistry.run] at found
  · exact inv.waiting_fresh guar ran new

/-- A waiter hears what was reported before, or it was stored when the failure was read. -/
theorem ReportInvariant.told_exec (inv : ReportInvariant state)
    (allowed : ReportsPassed task name state action) (guar : ReportGuar task state action)
    (ran : State.exec task fresh state action = some (after, answer))
    {waiter number : ℕ} {payload : AgentTaskStatusPayload}
    (waits : after.history.waiterRequest waiter = some number)
    (known : payload ∈ after.history.reported number) :
    after.taskReplies waiter = .waiting ∨ after.taskReplies waiter = .sent payload.waitResult := by
  have before : state.history.waiterRequest waiter = some number ∨ state.nextWaiter ≤ waiter := by
    rcases waiterRequest_exec ran waits with before | ⟨rfl, _⟩
    · exact .inl before
    · exact .inr le_rfl
  rcases before with before | new
  · rcases reported_exec ran number with same | ⟨rfl, _, _, _, _, inbox, failure, unanswered,
      route, new, _⟩
    · rw [same] at known
      rcases taskReplies_cases ran waiter with kept | ⟨result, rfl, sent⟩ | ⟨id, drops, displaced, _⟩
      · rw [kept]
        exact inv.told before known
      · rw [sent, guar.2 before known]
        rcases inv.told before known with waiting | told
        · exact .inr (by rw [waiting]; rfl)
        · exact .inr (by rw [told]; rfl)
      · have unreported : state.history.reported number = [] := by
          rcases drops with rfl | rfl
          · exact allowed displaced before
          · exact allowed.2 displaced before
        rw [unreported] at known
        cases known
    · obtain ⟨_, other, found, waits'⟩ := allowed inbox failure unanswered route new
      obtain rfl := inv.one before waits'
      refine .inl ?_
      rw [taskReplies_exec ran]
      exact inv.stored found
  · exact .inl (inv.waiting_fresh guar ran new)

theorem ReportInvariant.uncalled_exec (inv : ReportInvariant state)
    (allowed : ReportsPassed task name state action)
    (ran : State.exec task fresh state action = some (after, answer))
    {number : ℕ} (bound : after.history.requests ≤ number) :
    after.history.reported number = [] ∧ (∀ taskId, routed after taskId ≠ some number) ∧
      ∀ waiter, after.history.waiterRequest waiter ≠ some number := by
  have old : state.history.requests ≤ number := by
    refine le_trans ?_ bound
    rw [history_exec ran]
    exact requests_note
  obtain ⟨unreported, unrouted, unwaited⟩ := inv.uncalled old
  have unserved : state.history.servedNumber task ≠ some number := by
    intro serves
    have called := inv.numbered.called serves
    omega
  refine ⟨?_, fun taskId found => ?_, fun waiter waits => ?_⟩
  · rcases reported_exec ran number with same | ⟨rfl, _, _, taskId, _, inbox, failure, unanswered,
      route, new, _⟩
    · rw [same, unreported]
    · exact absurd (allowed inbox failure unanswered route new).1 (unrouted taskId)
  · rcases routed_exec ran found with before | ⟨serves, _⟩
    · exact unrouted taskId before
    · exact unserved serves
  · rcases waiterRequest_exec ran waits with before | ⟨_, serves, _⟩
    · exact unwaited waiter before
    · exact unserved serves

theorem ReportInvariant.exec (inv : ReportInvariant state)
    (allowed : ReportsPassed task name state action) (guar : ReportGuar task state action)
    (ran : State.exec task fresh state action = some (after, answer)) : ReportInvariant after where
  numbered := inv.numbered.exec ran
  asked := by
    intro control number asks
    rw [history_exec ran] at asks ⊢
    rcases answering_note_cases asks with before | ⟨_, rfl, next⟩
    · exact lt_of_lt_of_le (inv.asked before) requests_note
    · omega
  own := by
    intro server control number serves asks
    rw [history_exec ran] at serves asks
    rcases servedNumber_note serves with before | ⟨rfl, rfl, _⟩ <;>
      rcases answering_note_cases asks with before' | ⟨rfl, new, _⟩
    · exact inv.own before before'
    · have old := inv.numbered.called before
      omega
    · have old := inv.asked before'
      omega
    · rfl
  named := inv.named.exec ran
  fresh := by
    intro waiter new
    have grown := nextWaiter_le ran
    refine ⟨?_, inv.waiting_fresh guar ran (by omega)⟩
    rw [Option.eq_none_iff_forall_ne_some]
    intro number waits
    rcases waiterRequest_exec ran waits with before | ⟨rfl, _, taskId, rfl⟩
    · rw [(inv.fresh (by omega)).1] at before
      cases before
    · have next : after.nextWaiter = state.nextWaiter + 1 := nextWaiter_exec ran
      omega
  stored := inv.stored_exec guar ran
  one := by
    intro waiter other number waits waits'
    rcases waiterRequest_exec ran waits with before | ⟨rfl, serves, taskId, rfl⟩ <;>
      rcases waiterRequest_exec ran waits' with before' | ⟨rfl, serves', id, same⟩
    · exact inv.one before before'
    · subst same
      exact absurd before (guar serves' waiter)
    · exact absurd before' (guar serves other)
    · rfl
  failed := by
    intro number payload known
    rcases reported_exec ran number with same | ⟨_, input, _, _, _, _, failure, _, _, _, grown⟩
    · rw [same] at known
      exact inv.failed known
    · rw [grown] at known
      rcases List.mem_cons.mp known with rfl | known
      · exact AgentInput.failure?_failed failure
      · exact inv.failed known
  told := inv.told_exec allowed guar ran
  uncalled := inv.uncalled_exec allowed ran

theorem ReportInvariant.undisturbed (inv : ReportInvariant state)
    (undisturbed : state.Undisturbed after) : ReportInvariant after where
  numbered := by
    rw [undisturbed.history]
    exact inv.numbered
  asked := by
    rw [undisturbed.history]
    exact inv.asked
  own := by
    rw [undisturbed.history]
    exact inv.own
  named := inv.named.undisturbed undisturbed
  fresh := by
    rw [undisturbed.history, undisturbed.nextWaiter, undisturbed.taskReplies]
    exact inv.fresh
  stored := by
    intro taskId waiter found
    rw [undisturbed.registry.taskWaiters] at found
    rw [undisturbed.taskReplies]
    exact inv.stored found
  one := by
    rw [undisturbed.history]
    exact inv.one
  failed := by
    rw [undisturbed.history]
    exact inv.failed
  told := by
    rw [undisturbed.history, undisturbed.taskReplies]
    exact inv.told
  uncalled := by
    intro number bound
    rw [undisturbed.history] at bound
    obtain ⟨unreported, unrouted, unwaited⟩ := inv.uncalled bound
    rw [undisturbed.history]
    refine ⟨unreported, fun taskId => ?_, unwaited⟩
    rw [routed_undisturbed undisturbed]
    exact unrouted taskId

theorem reportInvariant_initial : ReportInvariant {} where
  numbered := requestsNumbered_initial
  asked := by
    intro control number asks
    cases asks
  own := by
    intro task control number serves
    cases serves
  named := waitersNamed_initial
  fresh _ := ⟨rfl, rfl⟩
  stored _ := rfl
  one := by
    intro waiter other number waits
    cases waits
  failed := by
    intro number payload known
    cases known
  told := by
    intro waiter number payload waits
    cases waits
  uncalled _ := ⟨rfl, fun _ => nofun, fun _ => nofun⟩

/-! ## What the other tasks do -/

/-- What any step leaves as it is: the requests of old waiters, the waiters that left the map, and the
reports on requests that have left their waiter. -/
structure ReportsKept (before after : State) : Prop where
  subscribed : before.nextWaiter ≤ after.nextWaiter
  waiterRequest : ∀ {waiter}, waiter < before.nextWaiter →
    after.history.waiterRequest waiter = before.history.waiterRequest waiter
  waiterTask : ∀ {waiter taskId}, before.history.waiterTask waiter = some taskId →
    after.history.waiterTask waiter = some taskId
  unstored : ∀ {waiter}, Unstored waiter before → Unstored waiter after
  left : ∀ {waiter number}, Unstored waiter before →
    before.history.waiterRequest waiter = some number →
      after.history.reported number = before.history.reported number

/-- What the other tasks leave to a task that serves or answers a request. -/
structure ReportRely (index : ℕ) (before after : State) : Prop where
  kept : ReportsKept before after
  serving : after.history.serving index = before.history.serving index
  answering : after.history.answering index = before.history.answering index
  routed : ∀ {number taskId}, before.history.answering index = some number →
    routed after taskId = some number → routed before taskId = some number
  unrouted : ∀ {number}, before.history.answering index = some number →
    (∀ taskId, Soundness.routed before taskId ≠ some number) →
      after.history.reported number = before.history.reported number
  unwaited : ∀ {number}, before.history.answering index = some number →
    (∀ waiter, before.history.waiterRequest waiter ≠ some number) →
      ∀ waiter, after.history.waiterRequest waiter ≠ some number

theorem ReportsKept.refl (state : State) : ReportsKept state state :=
  ⟨le_rfl, fun _ => rfl, id, id, fun _ _ => rfl⟩

theorem ReportsKept.trans {first middle last : State} (one : ReportsKept first middle)
    (two : ReportsKept middle last) : ReportsKept first last where
  subscribed := one.subscribed.trans two.subscribed
  waiterRequest old := (two.waiterRequest (lt_of_lt_of_le old one.subscribed)).trans
    (one.waiterRequest old)
  waiterTask known := two.waiterTask (one.waiterTask known)
  unstored gone := two.unstored (one.unstored gone)
  left gone waits := (two.left (one.unstored gone) ((one.waiterRequest gone.1).trans waits)).trans
    (one.left gone waits)

theorem ReportRely.refl (index : ℕ) (state : State) : ReportRely index state state :=
  ⟨.refl state, rfl, rfl, fun _ => id, fun _ _ => rfl, fun _ => id⟩

theorem ReportRely.servedNumber {before after : State} (rely : ReportRely index before after) :
    after.history.servedNumber index = before.history.servedNumber index := by
  simp only [History.servedNumber, rely.serving]

theorem ReportRely.trans {first middle last : State} (one : ReportRely index first middle)
    (two : ReportRely index middle last) : ReportRely index first last where
  kept := one.kept.trans two.kept
  serving := two.serving.trans one.serving
  answering := two.answering.trans one.answering
  routed asks found := one.routed asks (two.routed (one.answering.trans asks) found)
  unrouted asks free := by
    have asks' := one.answering.trans asks
    exact (two.unrouted asks' fun taskId found => free taskId (one.routed asks found)).trans
      (one.unrouted asks free)
  unwaited asks free :=
    two.unwaited (one.answering.trans asks) (one.unwaited asks free)

theorem ReportInvariant.kept (inv : ReportInvariant state)
    (allowed : ReportsPassed task name state action)
    (ran : State.exec task fresh state action = some (after, answer)) : ReportsKept state after where
  subscribed := nextWaiter_le ran
  waiterRequest := by
    intro waiter old
    cases known : state.history.waiterRequest waiter with
    | some number => exact (extends_exec ran).waiterRequest known
    | none =>
      rw [Option.eq_none_iff_forall_ne_some]
      intro number waits
      rcases waiterRequest_exec ran waits with before | ⟨rfl, _⟩
      · rw [known] at before
        cases before
      · exact lt_irrefl _ old
  waiterTask known := (extends_exec ran).waiterTask known
  unstored gone := gone.exec ran
  left := by
    intro waiter number gone waits
    rcases reported_exec ran number with same | ⟨rfl, _, _, taskId, _, inbox, failure, unanswered,
      route, new, _⟩
    · exact same
    · obtain ⟨_, other, found, waits'⟩ := allowed inbox failure unanswered route new
      obtain rfl := inv.one waits waits'
      exact absurd found (gone.2 taskId)

theorem answering_note (other : index ≠ task) :
    (state.note task fresh action answer).answering index = state.history.answering index := by
  simp only [State.note]
  unfold History.answeringAfter
  split
  · exact Function.update_of_ne other ..
  · exact Function.update_of_ne other ..
  · rfl

theorem ReportInvariant.rely (inv : ReportInvariant state)
    (allowed : ReportsPassed task name state action) (other : index ≠ task)
    (ran : State.exec task fresh state action = some (after, answer)) :
    ReportRely index state after where
  kept := inv.kept allowed ran
  serving := by rw [history_exec ran, serving_note other]
  answering := by rw [history_exec ran, answering_note other]
  routed asks found := by
    rcases routed_exec ran found with before | ⟨serves, _⟩
    · exact before
    · exact absurd (inv.own serves asks) other
  unrouted {number} asks free := by
    rcases reported_exec ran number with same | ⟨rfl, _, _, taskId, _, inbox, failure, unanswered,
      route, new, _⟩
    · exact same
    · exact absurd (allowed inbox failure unanswered route new).1 (free taskId)
  unwaited asks free waiter waits := by
    rcases waiterRequest_exec ran waits with before | ⟨_, serves, _⟩
    · exact free waiter before
    · exact absurd (inv.own serves asks) other

theorem ReportRely.undisturbed (undisturbed : state.Undisturbed after) :
    ReportRely index state after where
  kept := by
    refine ⟨undisturbed.nextWaiter.ge, fun _ => ?_, fun known => ?_,
      fun gone => ⟨?_, fun taskId => ?_⟩, fun _ _ => ?_⟩
    · rw [undisturbed.history]
    · rw [undisturbed.history]
      exact known
    · rw [undisturbed.nextWaiter]
      exact gone.1
    · rw [undisturbed.registry.taskWaiters]
      exact gone.2 taskId
    · rw [undisturbed.history]
  serving := by rw [undisturbed.history]
  answering := by rw [undisturbed.history]
  routed _ found := by rwa [routed_undisturbed undisturbed] at found
  unrouted _ _ := by rw [undisturbed.history]
  unwaited _ free := by
    rw [undisturbed.history]
    exact free

/-- The actions that neither call, place nor subscribe a request, and read no input. -/
def Plain : Action → Prop
  | .mark _ | .control .nextFrame | .agent .nextInput | .registry (.registerTask _ _)
  | .registry (.subscribeTaskWaiter _) | .spawn _ => False
  | _ => True

/-- Those of them that settle and answer none either. -/
def Silent : Action → Prop
  | .sendTaskResult _ _ | .control (.send _) => False
  | action => Plain action

theorem Silent.plain (silent : Silent action) : Plain action := by
  cases action with
  | sendTaskResult waiter result => trivial
  | control action => cases action <;> trivial
  | _ => exact silent

/-- A task leaves to itself what the others leave to it. -/
theorem ReportInvariant.plain (inv : ReportInvariant state)
    (allowed : ReportsPassed index name state action) (plain : Plain action)
    (ran : State.exec index fresh state action = some (after, answer)) :
    ReportRely index state after where
  kept := inv.kept allowed ran
  serving := by
    rw [history_exec ran]
    simp only [State.note]
    unfold History.servingAfter
    split <;> first | cases plain | rfl
  answering := by
    rw [history_exec ran]
    simp only [State.note]
    unfold History.answeringAfter
    split <;> first | cases plain | rfl
  routed _ found := by
    rcases routed_exec ran found with before | ⟨_, agentId, rfl, _⟩
    · exact before
    · cases plain
  unrouted {number} _ _ := by
    rcases reported_exec ran number with same | ⟨rfl, _⟩
    · exact same
    · cases plain
  unwaited _ free waiter waits := by
    rcases waiterRequest_exec ran waits with before | ⟨_, _, taskId, rfl⟩
    · exact free waiter before
    · cases plain

theorem silent_guar (silent : Silent action) : ReportGuar index state action := by
  cases action with
  | registry action =>
    cases action with
    | subscribeTaskWaiter taskId => cases silent
    | _ => trivial
  | control action =>
    cases action with
    | send response => cases silent
    | _ => trivial
  | sendTaskResult waiter result | spawn procedure => cases silent
  | _ => trivial

/-! ## The contract -/

/-- Nothing more can be reported on the request that a task answers, and what was reported fits. -/
structure Over (index number : ℕ) (fits : AgentTaskStatusPayload → Prop) (state : State) : Prop where
  answering : state.history.answering index = some number
  closed : (∀ taskId, routed state taskId ≠ some number) ∨
    ∃ waiter, Unstored waiter state ∧ state.history.waiterRequest waiter = some number
  fits : ∀ payload ∈ state.history.reported number, fits payload

theorem Over.rely {number : ℕ} {fits : AgentTaskStatusPayload → Prop}
    (spent : Over index number fits state) (rely : ReportRely index state after) :
    Over index number fits after := by
  refine ⟨rely.answering.trans spent.answering, ?_, ?_⟩
  · rcases spent.closed with free | ⟨waiter, gone, waits⟩
    · exact .inl fun taskId found => free taskId (rely.routed spent.answering found)
    · exact .inr ⟨waiter, rely.kept.unstored gone, (rely.kept.waiterRequest gone.1).trans waits⟩
  · have same : after.history.reported number = state.history.reported number := by
      rcases spent.closed with free | ⟨waiter, gone, waits⟩
      · exact rely.unrouted spent.answering free
      · exact rely.kept.left gone waits
    rw [same]
    exact spent.fits

/-- A result tells of a reported failure. -/
def Fits (result : Except BridgeError Unit) (payload : AgentTaskStatusPayload) : Prop :=
  result = .error (.unavailable (payload.message.getD "play_audio task failed"))

/-- A request that has returned is answered as was reported, and no report comes any more. -/
def Answered (control : ℕ) : Procedure → State → Prop
  | .controlReply result, state => ∀ {number}, state.history.answering control = some number →
      Over control number (Fits result) state
  | _, _ => True

def reports (config : GatewayConfig) : Contract (system config) where
  allowed index name action before _ := ReportsPassed index name before action
  enters _ _ _ := True
  occurs _ _ := True
  inv _ := ReportInvariant
  rely := ReportRely
  pre := Answered
  guar index _ action before _ := ReportGuar index before action
  rely_refl := .refl
  rely_trans := .trans

/-- All but the answers may be entered in any state. -/
theorem Answered.other {procedure : Procedure}
    (other : ∀ result, procedure ≠ .controlReply result) : Answered index procedure state := by
  cases procedure with
  | controlReply result => exact absurd rfl (other result)
  | _ => trivial

theorem Answered.rely {procedure : Procedure} (answered : Answered index procedure state)
    (rely : ReportRely index state after) : Answered index procedure after := by
  cases procedure with
  | controlReply result =>
    intro number asks
    rw [rely.answering] at asks
    exact Over.rely (answered asks) rely
  | _ => trivial

variable {config : GatewayConfig}

/-- An assertion that survives the other tasks survives the plain actions of the task itself. -/
theorem plain_keeps {α : Type} {code : Program α} (actions : Action → Prop)
    {assertion : State → Prop}
    (stable : ∀ {before after}, assertion before → ReportRely index before after → assertion after)
    (plain : ∀ {action}, actions action → Plain action)
    (guar : ∀ {state action}, assertion state → actions action → ReportGuar index state action)
    (within : code.Within actions fun _ => True) :
    (reports config).Triple index name assertion code fun _ => assertion := by
  refine (Contract.Triple.within within (fun _ _ _ _ holds rely _ => stable holds rely) ?_).post
    fun _ _ _ _ _ holds => holds.2
  intro action acts size state after answer _ inv holds allowed ran
  have passed : ReportsPassed index name state action := allowed
  have rely := ReportInvariant.plain inv passed (plain acts) (ran_exec ran)
  exact ⟨guar holds acts, fun _ => stable holds rely⟩

theorem silent_keeps {α : Type} {code : Program α} {assertion : State → Prop}
    (stable : ∀ {before after}, assertion before → ReportRely index before after → assertion after)
    (silent : code.Within Silent fun _ => True) :
    (reports config).Triple index name assertion code fun _ => assertion :=
  plain_keeps Silent stable Silent.plain (fun _ quiet => silent_guar quiet) silent

/-- An answer is sent where it tells what was reported. -/
theorem send_keeps {response : ControlResponse} {assertion : State → Prop}
    (stable : ∀ {before after}, assertion before → ReportRely index before after → assertion after)
    (tells : ∀ {state}, assertion state → ReportGuar index state (.control (.send response))) :
    (reports config).Triple index name assertion (sendControlMessage response)
      fun _ => assertion := by
  refine plain_keeps (· = .control (.send response)) stable ?_ ?_ ?_
  · rintro _ rfl
    trivial
  · rintro state _ holds rfl
    exact tells holds
  · exact ⟨rfl, fun sent => by cases sent <;> trivial⟩

/-! ## Settling a waiter -/

/-- The task has taken a waiter, and will tell it what was reported. -/
def Settles (result : TaskWaitResult) (waiter : ℕ) (state : State) : Prop :=
  Unstored waiter state ∧ ∀ {number payload}, state.history.waiterRequest waiter = some number →
    payload ∈ state.history.reported number → result = payload.waitResult

theorem Settles.kept {result : TaskWaitResult} {waiter : ℕ} (settles : Settles result waiter state)
    (kept : ReportsKept state after) : Settles result waiter after := by
  refine ⟨kept.unstored settles.1, fun {number payload} waits known => ?_⟩
  rw [kept.waiterRequest settles.1.1] at waits
  rw [kept.left settles.1 waits] at known
  exact settles.2 waits known

theorem takeTaskWaiter_reports {taskId : String} {result : TaskWaitResult}
    {assertion : State → Prop}
    (stable : ∀ {before after}, assertion before → ReportRely index before after → assertion after)
    (own : ∀ agentId payload, name = .agentMessage agentId (.taskStatus taskId payload) →
      result = payload.waitResult) :
    (reports config).Triple index name assertion (locked (.takeTaskWaiter taskId))
      fun (found : Option ℕ) state => assertion state ∧ ∀ waiter ∈ found,
        Settles result waiter state := by
  refine .perform (fun _ _ _ _ holds rely _ => stable holds rely) (fun _ _ _ _ _ holds rely _ =>
    ⟨stable holds.1 rely, fun waiter member => (holds.2 waiter member).kept rely.kept⟩) ?_
  intro size state after answer _ inv holds allowed ran
  have taken : ReportsPassed index name state (.registry (.takeTaskWaiter taskId)) := allowed
  have rely := ReportInvariant.plain inv @taken trivial (ran_exec ran)
  refine ⟨trivial, fun _ => ⟨stable holds rely, fun waiter member => ?_⟩⟩
  obtain rfl : answer = some waiter := member
  have found : state.registry.taskWaiters.lookup taskId = some waiter :=
    (registry_answer (ran_exec ran)).symm
  have named := inv.named.stored found
  have gone : Unstored waiter after := by
    constructor
    · refine lt_of_lt_of_le (lt_of_not_ge fun new => ?_) (nextWaiter_le (ran_exec ran))
      rw [inv.named.fresh new] at named
      cases named
    · intro other stored
      rw [registry_exec (ran_exec ran)] at stored
      rcases taskWaiters_run _ _ stored with ⟨before, _⟩ | ⟨same, _⟩
      · obtain rfl := Option.some.inj (named.symm.trans (inv.named.stored before))
        simp [State.registryAfter, AgentRegistry.run] at stored
      · cases same
  refine ⟨gone, fun {number payload} waits known => ?_⟩
  have same : after.history.waiterRequest = state.history.waiterRequest ∧
      after.history.reported = state.history.reported := by
    rw [history_exec (ran_exec ran)]
    exact ⟨rfl, rfl⟩
  rw [same.1] at waits
  rw [same.2] at known
  obtain ⟨agentId, handled⟩ := taken found waits known
  exact own agentId payload handled

theorem resolveTaskWaiter_reports {taskId : String} {result : TaskWaitResult}
    {assertion : State → Prop}
    (stable : ∀ {before after}, assertion before → ReportRely index before after → assertion after)
    (own : ∀ agentId payload, name = .agentMessage agentId (.taskStatus taskId payload) →
      result = payload.waitResult) :
    (reports config).Triple index name assertion (resolveTaskWaiter taskId result)
      fun _ => assertion := by
  refine .bind (takeTaskWaiter_reports stable own) fun found => ?_
  cases found with
  | none =>
    exact .consequence (silent_keeps stable trivial) (fun _ _ _ _ holds => holds.1)
      fun _ _ _ _ _ holds => holds
  | some waiter =>
    refine .perform (fun _ _ _ _ holds rely _ => ⟨stable holds.1 rely, fun other member =>
      (holds.2 other member).kept rely.kept⟩) (fun _ _ _ _ _ holds rely _ => stable holds rely) ?_
    intro size state after answer _ inv holds allowed ran
    have settles := holds.2 waiter rfl
    have passed : ReportsPassed index name state (.sendTaskResult waiter result) := allowed
    have rely := ReportInvariant.plain inv passed trivial (ran_exec ran)
    exact ⟨settles, fun _ => stable holds.1 rely⟩

/-! ## The phases of a request -/

variable {number waiter : ℕ} {taskId : String}

/-- The task serves the request that the frame in its hand has called. -/
structure Serving (index number : ℕ) (state : State) : Prop where
  serves : state.history.servedNumber index = some number
  answering : state.history.answering index = some number

/-- The request has no route, and nothing was reported on it. -/
structure Unrouted (index number : ℕ) (state : State) : Prop extends Serving index number state where
  unrouted : ∀ taskId, routed state taskId ≠ some number
  unreported : state.history.reported number = []

/-- The request waits on a waiter of its own. -/
structure Waits (number waiter : ℕ) (taskId : String) (state : State) : Prop where
  old : waiter < state.nextWaiter
  request : state.history.waiterRequest waiter = some number
  task : state.history.waiterTask waiter = some taskId

/-- The request may be routed, under its own task id. -/
structure Placed (index number waiter : ℕ) (taskId : String) (state : State) : Prop
    extends Serving index number state, Waits number waiter taskId state where
  placed : ∀ other, routed state other = some number → other = taskId

theorem Serving.rely (serving : Serving index number state) (rely : ReportRely index state after) :
    Serving index number after :=
  ⟨rely.servedNumber.trans serving.serves, rely.answering.trans serving.answering⟩

theorem Unrouted.rely (unrouted : Unrouted index number state)
    (rely : ReportRely index state after) : Unrouted index number after :=
  ⟨unrouted.toServing.rely rely,
    fun taskId found => unrouted.unrouted taskId (rely.routed unrouted.answering found),
    (rely.unrouted unrouted.answering unrouted.unrouted).trans unrouted.unreported⟩

theorem Waits.kept (waits : Waits number waiter taskId state) (kept : ReportsKept state after) :
    Waits number waiter taskId after :=
  ⟨lt_of_lt_of_le waits.old kept.subscribed, (kept.waiterRequest waits.old).trans waits.request,
    kept.waiterTask waits.task⟩

theorem Placed.rely (placed : Placed index number waiter taskId state)
    (rely : ReportRely index state after) : Placed index number waiter taskId after :=
  { placed.toServing.rely rely, placed.toWaits.kept rely.kept with
    placed := fun other found => placed.placed other (rely.routed placed.answering found) }

theorem Unrouted.spent (unrouted : Unrouted index number state)
    (fits : AgentTaskStatusPayload → Prop) : Over index number fits state :=
  ⟨unrouted.answering, .inl unrouted.unrouted, fun payload known => by
    rw [unrouted.unreported] at known
    cases known⟩

/-! ## A playback, step by step -/

/-- A call is the first of its number: it has no route, no report and no waiter. -/
theorem called_reports (taskId : String) :
    (reports config).Triple index name (fun _ => True) (perform (.mark (.playAudioCalled taskId)))
      fun _ state => ∃ number, Unrouted index number state ∧
        ∀ waiter, state.history.waiterRequest waiter ≠ some number := by
  refine .perform (fun _ _ _ _ _ _ _ => trivial) (fun _ _ _ _ _ holds rely _ => ?_) ?_
  · obtain ⟨number, unrouted, unwaited⟩ := holds
    exact ⟨number, unrouted.rely rely, rely.unwaited unrouted.answering unwaited⟩
  · intro size state after answer _ inv _ _ ran
    refine ⟨trivial, fun _ => ⟨state.history.requests, ?_⟩⟩
    obtain ⟨unreported, unrouted, unwaited⟩ := inv.uncalled le_rfl
    refine ⟨⟨⟨?_, ?_⟩, fun other found => ?_, ?_⟩, fun waiter waits => ?_⟩
    · rw [history_exec (ran_exec ran)]
      simp only [State.note, History.servedNumber, History.servingAfter, Function.update_self,
        Option.map_some]
    · rw [history_exec (ran_exec ran)]
      simp only [State.note, History.answeringAfter, Function.update_self]
    · rcases routed_exec (ran_exec ran) found with before | ⟨_, agentId, same, _⟩
      · exact unrouted other before
      · cases same
    · rw [history_exec (ran_exec ran)]
      exact unreported
    · rcases waiterRequest_exec (ran_exec ran) waits with before | ⟨_, _, other, same⟩
      · exact unwaited waiter before
      · cases same

/-- A request before its route is registered, with its waiter. -/
structure Subscribed (index number waiter : ℕ) (taskId : String) (state : State) : Prop
    extends Unrouted index number state, Waits number waiter taskId state

theorem Subscribed.rely (subscribed : Subscribed index number waiter taskId state)
    (rely : ReportRely index state after) : Subscribed index number waiter taskId after :=
  { subscribed.toUnrouted.rely rely, subscribed.toWaits.kept rely.kept with }

theorem subscribeTaskWaiter_reports (taskId : String) :
    (reports config).Triple index name (fun state => Unrouted index number state ∧
        ∀ waiter, state.history.waiterRequest waiter ≠ some number)
      (locked (.subscribeTaskWaiter taskId)) fun (waiter : ℕ) =>
        Subscribed index number waiter taskId := by
  refine .perform (fun _ _ _ _ holds rely _ => ⟨holds.1.rely rely,
    rely.unwaited holds.1.answering holds.2⟩) (fun _ _ _ _ _ holds rely _ => holds.rely rely) ?_
  intro size state after answer _ inv holds _ ran
  obtain ⟨unrouted, unwaited⟩ := holds
  obtain rfl : answer = state.nextWaiter := registry_answer (ran_exec ran)
  have history := history_exec (ran_exec ran)
  refine ⟨fun {other} serves waiter => ?_, fun _ => ?_⟩
  · obtain rfl := Option.some.inj (unrouted.serves.symm.trans serves)
    exact unwaited waiter
  · have fresh := (inv.fresh le_rfl).1
    have unnamed := inv.named.fresh le_rfl
    refine ⟨⟨⟨?_, ?_⟩, fun other found => ?_, ?_⟩, ⟨?_, ?_, ?_⟩⟩
    · rw [history]
      exact unrouted.serves
    · rw [history]
      exact unrouted.answering
    · rcases routed_exec (ran_exec ran) found with before | ⟨_, agentId, same, _⟩
      · exact unrouted.unrouted other before
      · cases same
    · rw [history]
      exact unrouted.unreported
    · have next : after.nextWaiter = state.nextWaiter + 1 := nextWaiter_exec (ran_exec ran)
      omega
    · rw [history]
      simp only [State.note, History.waiterRequestAfter, Function.update_self, fresh, Option.none_or]
      exact unrouted.serves
    · rw [history]
      simp only [State.note, History.waiterTaskAfter, Function.update_self, unnamed, Option.none_or]

/-- The route of a request is in place when its registration succeeds, and only then. -/
theorem registerTask_reports (taskId agentId : String) :
    (reports config).Triple index name (Subscribed index number waiter taskId)
      (locked (.registerTask taskId agentId)) fun (registered : Except String Unit) =>
        match registered with
        | .ok _ => Placed index number waiter taskId
        | .error _ => Subscribed index number waiter taskId := by
  refine .perform (fun _ _ _ _ holds rely _ => holds.rely rely) (fun registered => ?_) ?_
  · cases registered with
    | ok _ => exact fun _ _ _ _ holds rely _ => Placed.rely holds rely
    | error _ => exact fun _ _ _ _ holds rely _ => Subscribed.rely holds rely
  · intro size state after answer _ inv subscribed allowed ran
    have passed : ReportsPassed index name state (.registry (.registerTask taskId agentId)) := allowed
    have history := history_exec (ran_exec ran)
    have waits := subscribed.toWaits.kept (ReportInvariant.kept inv passed (ran_exec ran))
    have serving : Serving index number after := by
      constructor
      · rw [history]
        exact subscribed.serves
      · rw [history]
        exact subscribed.answering
    refine ⟨trivial, fun _ => ?_⟩
    have answered := registry_answer (ran_exec ran)
    cases answer with
    | ok registered =>
      refine ⟨serving, waits, fun other found => ?_⟩
      rcases routed_exec (ran_exec ran) found with before | ⟨_, agentId, same, _⟩
      · exact absurd before (subscribed.unrouted other)
      · exact (RegistryAction.registerTask.inj (Action.registry.inj same)).1.symm
    | error message =>
      refine ⟨⟨serving, fun other found => ?_, ?_⟩, waits⟩
      · rcases routed_exec (ran_exec ran) found with before | ⟨_, agentId, same, free⟩
        · exact subscribed.unrouted other before
        · -- the registration of a free task id is not refused
          obtain ⟨rfl, rfl⟩ := RegistryAction.registerTask.inj (Action.registry.inj same)
          simp [AgentRegistry.run, DeviceRegistry.registerTask, free] at answered
      · rw [history]
        exact subscribed.unreported

variable {payload : ControlPlayAudioPayload}

/-- A request gives its route up while nothing was reported. -/
theorem removeTask_reports (taskId : String) :
    (reports config).Triple index name (Placed index number waiter taskId)
      (locked (.removeTask taskId)) fun _ => Unrouted index number := by
  refine .perform (fun _ _ _ _ holds rely _ => holds.rely rely)
    (fun _ _ _ _ _ holds rely _ => holds.rely rely) ?_
  intro size state after answer _ inv placed allowed ran
  have passed : ReportsPassed index name state (.registry (.removeTask taskId)) := allowed
  have rely := ReportInvariant.plain inv @passed trivial (ran_exec ran)
  refine ⟨trivial, fun _ => ⟨placed.toServing.rely rely, fun other found => ?_, ?_⟩⟩
  · obtain rfl := placed.placed other (rely.routed placed.answering found)
    have present := (routed_eq_some.mp found).2
    rw [registry_exec (ran_exec ran)] at present
    simp [State.registryAfter, AgentRegistry.run, DeviceRegistry.removeTask] at present
  · rw [history_exec (ran_exec ran)]
    exact passed placed.serves

/-- After a message of a playback the request is still placed, or it failed before any report. -/
def Sent (index number waiter : ℕ) (taskId : String) : Except BridgeError Unit → State → Prop
  | .ok _ => Placed index number waiter taskId
  | .error _ => Unrouted index number

theorem Sent.rely {result : Except BridgeError Unit}
    (sent : Sent index number waiter taskId result state) (rely : ReportRely index state after) :
    Sent index number waiter taskId result after := by
  cases result with
  | ok _ => exact Placed.rely sent rely
  | error _ => exact Unrouted.rely sent rely

theorem sent_reports (result : Except BridgeError Unit) :
    (reports config).Triple index name (Sent index number waiter taskId result)
      (pure result : Program (Except BridgeError Unit)) (Sent index number waiter taskId) :=
  .done (fun _ _ _ _ sent rely _ => sent.rely rely) fun _ _ _ _ sent => sent

theorem abandonTask_reports (taskId message : String) :
    (reports config).Triple index (.playAudio payload) (Placed index number waiter taskId)
      (abandonTask taskId message) (Sent index number waiter taskId) := by
  refine .bind (removeTask_reports taskId) fun _ => ?_
  refine .bind (resolveTaskWaiter_reports (fun holds rely => Unrouted.rely holds rely) ?_) fun _ => ?_
  · intro agentId payload same
    cases same
  · exact sent_reports (.error _)

/-- A lookup that finds no route comes before any report. -/
theorem taskAgentId_reports (taskId : String) :
    (reports config).Triple index name (Placed index number waiter taskId)
      (locked (.taskAgentId taskId)) fun (found : Option String) =>
        match found with
        | some _ => Placed index number waiter taskId
        | none => Unrouted index number := by
  refine .perform (fun _ _ _ _ holds rely _ => holds.rely rely) (fun found => ?_) ?_
  · cases found with
    | some agentId => exact fun _ _ _ _ holds rely _ => Placed.rely holds rely
    | none => exact fun _ _ _ _ holds rely _ => Unrouted.rely holds rely
  · intro size state after answer _ inv placed allowed ran
    have passed : ReportsPassed index name state (.registry (.taskAgentId taskId)) := allowed
    have rely := ReportInvariant.plain inv @passed trivial (ran_exec ran)
    have answered := registry_answer (ran_exec ran)
    refine ⟨trivial, fun _ => ?_⟩
    cases answer with
    | some agentId => exact placed.rely rely
    | none =>
      have missing : state.registry.deviceRegistry.tasks.lookup taskId = none :=
        Option.map_eq_none_iff.mp answered.symm
      refine ⟨placed.toServing.rely rely, fun other found => ?_, ?_⟩
      · have before := rely.routed placed.answering found
        obtain rfl := placed.placed other before
        simp [routed, missing] at before
      · rw [history_exec (ran_exec ran)]
        by_contra known
        have present := passed placed.serves known
        simp [missing] at present

theorem routePlayAudio_reports (taskId what : String) (message : GatewayToAgentMessage) :
    (reports config).Triple index (.playAudio payload) (Placed index number waiter taskId)
      (routePlayAudio taskId what message) (Sent index number waiter taskId) := by
  refine .bind (taskAgentId_reports taskId) fun found => ?_
  cases found with
  | none => exact sent_reports (.error _)
  | some agentId =>
    refine .bind (silent_keeps Placed.rely ⟨trivial, fun _ => trivial⟩) fun commandTx => ?_
    cases commandTx with
    | none => exact abandonTask_reports taskId _
    | some commandTx =>
      refine .bind (silent_keeps Placed.rely ⟨trivial, fun _ => trivial⟩) fun sent => ?_
      cases sent with
      | true => exact sent_reports (.ok ())
      | false => exact abandonTask_reports taskId _

theorem sendChunks_reports (taskId : String) (audio : List Bytes) :
    (reports config).Triple index (.playAudio payload) (Placed index number waiter taskId)
      (sendChunks config.base64 taskId audio) (Sent index number waiter taskId) := by
  induction audio with
  | nil => exact sent_reports (.ok ())
  | cons chunk rest ih =>
    refine .bind (routePlayAudio_reports taskId _ _) fun sent => ?_
    cases sent with
    | ok _ => exact ih
    | error error => exact sent_reports (.error error)

/-! ## Waiting for the device -/

theorem Over.mono {fits weaker : AgentTaskStatusPayload → Prop} (spent : Over index number fits state)
    (imp : ∀ payload, fits payload → weaker payload) : Over index number weaker state :=
  ⟨spent.answering, spent.closed, fun payload known => imp payload (spent.fits payload known)⟩

/-- What an awaited waiter was told is what was reported. -/
def ToldReport (index number waiter : ℕ) (taskId : String) : Awaited TaskWaitResult → State → Prop
  | .value result => Over index number fun payload =>
      payload.state = .failed ∧ result = payload.waitResult
  | .dropped => Over index number fun _ => False
  | .elapsed => Placed index number waiter taskId

theorem awaitTask_reports :
    (reports config).Triple index name (Placed index number waiter taskId)
      (perform (.awaitTask waiter)) (ToldReport index number waiter taskId) := by
  refine .perform (fun _ _ _ _ holds rely _ => holds.rely rely) (fun answer => ?_) ?_
  · cases answer with
    | value result => exact fun _ _ _ _ holds rely _ => Over.rely holds rely
    | dropped => exact fun _ _ _ _ holds rely _ => Over.rely holds rely
    | elapsed => exact fun _ _ _ _ holds rely _ => Placed.rely holds rely
  · intro size state after answer _ inv placed allowed ran
    have passed : ReportsPassed index name state (.awaitTask waiter) := allowed
    have rely := ReportInvariant.plain inv passed trivial (ran_exec ran)
    have same : after.history.reported = state.history.reported := by
      rw [history_exec (ran_exec ran)]
      rfl
    obtain ⟨core, performed, _⟩ := exec_cases (ran_exec ran)
    obtain ⟨_, replied⟩ := await_cases performed
    -- a reply that was sent or dropped has left the map, so that nothing is reported any more
    have closed (settled : state.taskReplies waiter ≠ .waiting) : Unstored waiter after :=
      rely.kept.unstored ⟨placed.old, fun taskId stored => settled (inv.stored stored)⟩
    have spent {fits : AgentTaskStatusPayload → Prop} (settled : state.taskReplies waiter ≠ .waiting)
        (told : ∀ payload : AgentTaskStatusPayload, payload.state = .failed →
          state.taskReplies waiter = .sent payload.waitResult → fits payload) :
        Over index number fits after := by
      refine ⟨rely.answering.trans placed.answering, .inr ⟨waiter, closed settled, ?_⟩,
        fun payload known => ?_⟩
      · exact (placed.toWaits.kept rely.kept).request
      · rw [same] at known
        rcases inv.told placed.request known with waiting | sent
        · exact absurd waiting settled
        · exact told payload (inv.failed known) sent
    refine ⟨trivial, fun _ => ?_⟩
    rcases replied with ⟨result, reply, rfl⟩ | ⟨reply, rfl⟩ | ⟨_, _, rfl⟩
    · refine spent (by rw [reply]; nofun) fun payload failed sent => ?_
      rw [reply] at sent
      exact ⟨failed, OneShot.sent.inj sent⟩
    · refine spent (by rw [reply]; nofun) fun payload _ sent => ?_
      rw [reply] at sent
      cases sent
    · exact placed.rely rely

/-- A request that gives its waiter up had no report. -/
theorem removeTaskWaiter_reports (taskId : String) :
    (reports config).Triple index name (Placed index number waiter taskId)
      (locked (.removeTaskWaiter taskId)) fun _ => Over index number fun _ => False := by
  refine .perform (fun _ _ _ _ holds rely _ => holds.rely rely)
    (fun _ _ _ _ _ holds rely _ => holds.rely rely) ?_
  intro size state after answer _ inv placed allowed ran
  have passed : ReportsPassed index name state (.registry (.removeTaskWaiter taskId)) := allowed
  have rely := ReportInvariant.plain inv passed trivial (ran_exec ran)
  have waits := placed.toWaits.kept rely.kept
  refine ⟨trivial, fun _ => ⟨rely.answering.trans placed.answering, .inr ⟨waiter, ⟨waits.old, ?_⟩,
    waits.request⟩, fun payload known => ?_⟩⟩
  · intro other stored
    rw [registry_exec (ran_exec ran)] at stored
    rcases taskWaiters_run _ _ stored with ⟨before, _⟩ | ⟨same, _⟩
    · obtain rfl := Option.some.inj (placed.task.symm.trans (inv.named.stored before))
      simp [State.registryAfter, AgentRegistry.run] at stored
    · cases same
  · rw [history_exec (ran_exec ran)] at known
    change payload ∈ state.history.reported number at known
    rw [passed.1 placed.serves] at known
    cases known

theorem over_reports {fits : AgentTaskStatusPayload → Prop} (result : Except BridgeError Unit)
    (imp : ∀ payload, fits payload → Fits result payload) :
    (reports config).Triple index name (Over index number fits)
      (pure result : Program (Except BridgeError Unit)) fun result => Over index number (Fits result) :=
  .done (fun _ _ _ _ spent rely _ => spent.rely rely) fun _ _ _ _ spent => spent.mono imp

theorem awaitPlayback_reports (taskId : String) :
    (reports config).Triple index name (Placed index number waiter taskId)
      (awaitPlayback taskId waiter) fun result => Over index number (Fits result) := by
  refine .bind awaitTask_reports fun answer => ?_
  match answer with
  | .value (.ok status) =>
    refine over_reports (.ok ()) fun payload told => ?_
    simp [AgentTaskStatusPayload.waitResult, told.1] at told
  | .value (.error error) =>
    refine over_reports (.error error) fun payload told => ?_
    obtain ⟨failed, told⟩ := told
    simp only [AgentTaskStatusPayload.waitResult, failed] at told
    rw [Fits, Except.error.inj told]
  | .dropped => exact over_reports _ fun _ never => never.elim
  | .elapsed =>
    exact .bind (removeTaskWaiter_reports taskId) fun _ => over_reports _ fun _ never => never.elim

theorem playChunks_reports (taskId : String) (audio : List Bytes) :
    (reports config).Triple index (.playAudio payload) (Placed index number waiter taskId)
      (playChunks config.base64 taskId waiter audio)
      fun result => Over index number (Fits result) := by
  have failed (error : BridgeError) : (reports config).Triple index (.playAudio payload)
      (Unrouted index number) (pure (.error error) : Program (Except BridgeError Unit))
      fun result => Over index number (Fits result) :=
    .done (fun _ _ _ _ holds rely _ => Unrouted.rely holds rely) fun _ _ _ _ holds => holds.spent _
  refine .bind (sendChunks_reports taskId audio) fun sent => ?_
  cases sent with
  | error error => exact failed error
  | ok _ =>
    refine .bind (routePlayAudio_reports taskId _ _) fun finished => ?_
    cases finished with
    | error error => exact failed error
    | ok _ => exact awaitPlayback_reports taskId

/-! ## From the call to the return -/

/-- After the start a request is placed, or has failed without a route. -/
def StartedOn (index number waiter : ℕ) (taskId : String) : Except BridgeError String → State → Prop
  | .ok _ => Placed index number waiter taskId
  | .error _ => Unrouted index number

theorem routePlayAudioStart_reports (request : PlayAudioRouteRequest)
    (trimmed : trim request.taskId = request.taskId) :
    (reports config).Triple index (.playAudio payload)
      (Subscribed index number waiter request.taskId) (routePlayAudioStart request)
      (StartedOn index number waiter request.taskId) := by
  have unrouted (error : BridgeError) {before : State → Prop}
      (rely : ∀ {first later}, before first → ReportRely index first later → before later)
      (free : ∀ {state}, before state → Unrouted index number state) :
      (reports config).Triple index (.playAudio payload) before
        (pure (.error error) : Program (Except BridgeError String))
        (StartedOn index number waiter request.taskId) :=
    .done (fun _ _ _ _ holds relied _ => rely holds relied) fun _ _ _ _ holds => free holds
  simp only [routePlayAudioStart]
  rw [trimmed]
  split_ifs
  · exact unrouted _ Subscribed.rely Subscribed.toUnrouted
  · refine .bind (silent_keeps Subscribed.rely ⟨trivial, fun _ => trivial⟩) fun found => ?_
    cases found with
    | none => exact unrouted _ Subscribed.rely Subscribed.toUnrouted
    | some agent =>
      refine .bind (registerTask_reports _ _) fun registered => ?_
      cases registered with
      | error message => exact unrouted _ Subscribed.rely Subscribed.toUnrouted
      | ok _ =>
        refine .bind (silent_keeps Placed.rely ⟨trivial, fun _ => trivial⟩) fun sent => ?_
        cases sent with
        | true =>
          exact .done (fun _ _ _ _ holds rely _ => Placed.rely holds rely) fun _ _ _ _ holds => holds
        | false =>
          exact .bind (removeTask_reports _) fun _ => unrouted _ Unrouted.rely id

-- comparing the programs below must not unfold the blanks that are cut off
attribute [local irreducible] trim in
theorem playAudioTask_reports (bytes : Bytes) (trimmed : trim taskId = taskId) :
    (reports config).Triple index (.playAudio payload) (fun state => Unrouted index number state ∧
        ∀ waiter, state.history.waiterRequest waiter ≠ some number)
      (playAudioTask config payload taskId bytes) fun result => Over index number (Fits result) := by
  refine .bind (subscribeTaskWaiter_reports taskId) fun waiter => ?_
  refine .bind (routePlayAudioStart_reports ⟨taskId, payload.deviceId, payload.outputTarget,
    payload.agentId, payload.format⟩ trimmed) fun started => ?_
  cases started with
  | error error =>
    refine .bind (silent_keeps Unrouted.rely ⟨trivial, fun _ => trivial⟩) fun _ => ?_
    exact .done (fun _ _ _ _ holds rely _ => Unrouted.rely holds rely)
      fun _ _ _ _ holds => holds.spent _
  | ok agentId =>
    refine .bind (playChunks_reports taskId _) fun played => ?_
    cases played with
    | error error => exact over_reports _ fun _ fits => fits
    | ok _ =>
      -- an accepted request has no failure to tell of, so that any answer fits
      have never {payload : AgentTaskStatusPayload} : ¬ Fits (.ok ()) payload := nofun
      refine (send_keeps Over.rely ?_).post fun _ _ _ _ _ spent =>
        spent.mono fun _ fits => absurd fits never
      intro state spent other payload asks known
      obtain rfl := Option.some.inj (spent.answering.symm.trans asks)
      exact absurd (spent.fits payload known) never

theorem controlTaskId_trimmed (payload : ControlPlayAudioPayload) :
    (reports config).Triple index name (fun _ => True) (controlTaskId payload)
      fun taskId _ => trim taskId = taskId := by
  have stable (fact : Prop) : (reports config).Stable index fun _ => fact := fun _ _ _ _ holds _ _ => holds
  simp only [controlTaskId]
  cases given : payload.givenTaskId with
  | some taskId => exact .done (stable True) fun _ _ _ _ _ => trim_givenTaskId given
  | none =>
    refine .perform (stable True) (fun taskId => stable (trim taskId = taskId)) ?_
    intro size state after answer _ _ _ _ ran
    obtain ⟨core, performed, _⟩ := exec_cases (ran_exec ran)
    obtain ⟨_, rfl⟩ := Prod.mk.inj (Option.some.inj performed)
    exact ⟨trivial, fun _ => trim_generatedTaskId state.controlTaskCounter⟩

theorem handleControlPlayAudio_reports :
    (reports config).Triple index (.playAudio payload) (fun _ => True)
      (handleControlPlayAudio config payload)
      fun result state => ∃ number, Over index number (Fits result) state := by
  refine .bind (controlTaskId_trimmed payload) fun taskId =>
    .assume (fun _ _ _ _ trimmed => trimmed) fun trimmed => ?_
  refine .bind (.consequence (called_reports taskId) (fun _ _ _ _ _ => trivial)
    fun _ _ _ _ _ holds => holds) fun _ => .exists fun number => ?_
  have ends {code : Program (Except BridgeError Unit)} {before : State → Prop}
      (triple : (reports config).Triple index (.playAudio payload) before code
        fun result => Over index number (Fits result)) :
      (reports config).Triple index (.playAudio payload) before code
        fun result state => ∃ number, Over index number (Fits result) state :=
    triple.post fun _ _ _ _ _ spent => ⟨number, spent⟩
  refine ends ?_
  cases payload.audio config.base64 with
  | error error =>
    exact .done (fun _ _ _ _ holds rely _ => ⟨holds.1.rely rely,
      rely.unwaited holds.1.answering holds.2⟩) fun _ _ _ _ holds => holds.1.spent _
  | ok bytes => exact playAudioTask_reports bytes trimmed

theorem playAudio_reports :
    (reports config).Triple index (.playAudio payload) (fun _ => True) (playAudio config payload)
      ((reports config).Exits index) := by
  refine .bind handleControlPlayAudio_reports fun result => .exists fun number => ?_
  have returns : (reports config).Triple index (.playAudio payload)
      (Over index number (Fits result)) (perform (.mark .playAudioReturned))
      fun _ => Answered index (.controlReply result) := by
    refine .perform (fun _ _ _ _ holds rely _ => holds.rely rely)
      (fun _ _ _ _ _ holds rely _ => holds.rely rely) ?_
    intro size state after answer _ inv spent allowed ran
    have passed : ReportsPassed index (.playAudio payload) state (.mark .playAudioReturned) := allowed
    have kept := inv.kept passed (ran_exec ran)
    have history := history_exec (ran_exec ran)
    refine ⟨trivial, fun _ {other} asks => ?_⟩
    rw [history] at asks
    obtain rfl := Option.some.inj (spent.answering.symm.trans asks)
    refine ⟨by rw [history]; exact asks, ?_, by rw [history]; exact spent.fits⟩
    rcases spent.closed with free | ⟨waiter, gone, waits⟩
    · refine .inl fun taskId found => ?_
      rcases routed_exec (ran_exec ran) found with before | ⟨_, agentId, same, _⟩
      · exact free taskId before
      · cases same
    · exact .inr ⟨waiter, kept.unstored gone, (kept.waiterRequest gone.1).trans waits⟩
  exact .bind returns fun _ => .done (fun _ _ _ _ holds rely _ => holds.rely rely)
    fun _ _ _ _ holds => holds

/-! ## The other tasks -/

/-- The actions that need no care without an assertion: all but subscribing, settling and
answering. -/
def Careless : Action → Prop
  | .sendTaskResult _ _ | .registry (.subscribeTaskWaiter _) | .control (.send _) => False
  | .spawn procedure => ∀ result, procedure ≠ .controlReply result
  | _ => True

theorem careless_guar (careless : Careless action) : ReportGuar index state action := by
  cases action with
  | registry action =>
    cases action with
    | subscribeTaskWaiter taskId => cases careless
    | _ => trivial
  | control action =>
    cases action with
    | send response => cases careless
    | _ => trivial
  | sendTaskResult waiter result => cases careless
  | spawn procedure => exact careless
  | _ => trivial

theorem careless_reports {α : Type} {code : Program α} {values : α → Prop}
    (careless : code.Within Careless values) :
    (reports config).Triple index name (fun _ => True) code fun value _ => values value :=
  (Contract.Triple.within careless (fun _ _ _ _ _ _ _ => trivial) fun _ careless _ _ _ _ _ _ _ _ _ =>
    ⟨careless_guar careless, fun _ => trivial⟩).post fun _ _ _ _ _ holds => holds.1

theorem careless_perform (action : Action) (careless : Careless action) :
    (reports config).Triple index name (fun _ => True) (perform action) fun _ _ => True :=
  careless_reports ⟨careless, fun _ => trivial⟩

theorem resolve_reports (taskId : String) {result : TaskWaitResult}
    (own : ∀ agentId payload, name = .agentMessage agentId (.taskStatus taskId payload) →
      result = payload.waitResult) :
    (reports config).Triple index name (fun _ => True) (resolveTaskWaiter taskId result)
      fun _ _ => True :=
  resolveTaskWaiter_reports (fun _ _ => trivial) own

theorem tellSession_careless (route : SessionRoute) (startError : BridgeError)
    (events : List BridgeAsrEvent) :
    (tellSession route startError events).Within Careless fun _ => True := by
  simp only [tellSession]
  cases route.startedTx with
  | some startedTx => exact ⟨trivial, fun _ => trivial⟩
  | none => exact .each fun _ _ => ⟨trivial, fun _ => trivial⟩

/-- Removing an agent reports on no task: the message is not a status. -/
theorem finishAgentRemoval_reports (orphanedSessions : List (SessionId × SessionRoute))
    (orphanedTasks : List String) (unrelated : ∀ agentId message, name ≠ .agentMessage agentId message) :
    (reports config).Triple index name (fun _ => True)
      (finishAgentRemoval orphanedSessions orphanedTasks) fun _ _ => True := by
  have told : (Code.each orphanedSessions tellOrphanedSession).Within Careless fun _ => True :=
    .each fun entry _ => tellSession_careless entry.2 _ _
  refine .bind (careless_reports told) fun _ => .consequence ?_ (fun _ _ _ _ holds => holds)
    fun _ _ _ _ _ holds => holds
  refine .forEach (fun _ _ _ _ _ _ _ => trivial) fun taskId _ => ?_
  exact resolve_reports taskId fun agentId payload same => (unrelated _ _ same).elim

/-- The procedure entered next is no answer of a control connection. -/
def Elsewhere (exit : Option Procedure) : Prop := ∀ result, exit ≠ some (.controlReply result)

theorem Elsewhere.exits {exit : Option Procedure} (elsewhere : Elsewhere exit) :
    (reports config).Exits index exit state := by
  cases exit with
  | none => trivial
  | some procedure => exact .other fun result same => elsewhere result (same ▸ rfl)

theorem elsewhere_reports {code : Program (Option Procedure)} (careless : code.Within Careless Elsewhere) :
    (reports config).Triple index name (fun _ => True) code ((reports config).Exits index) :=
  (careless_reports careless).post fun _ _ _ _ _ elsewhere => elsewhere.exits

theorem agentReturn_careless (result : Except BridgeError Unit) :
    (agentReturn result).Within Careless Elsewhere :=
  ⟨trivial, fun _ => nofun⟩

theorem registerAgent_reports (hello : AgentHelloPayload) :
    (reports config).Triple index .agentHello (fun _ => True) (registerAgent config hello index)
      fun _ _ => True := by
  simp only [registerAgent]
  split_ifs
  · refine .bind (careless_perform (.registry (.removeOrphanedSessions hello.agentId)) trivial)
      fun orphanedSessions => ?_
    refine .bind (careless_perform (.registry (.deviceRegisterAgent (hello.toRegistered index)))
      trivial) fun orphanedTasks => ?_
    refine .bind (finishAgentRemoval_reports orphanedSessions orphanedTasks
      fun _ _ same => nomatch same) fun _ => ?_
    exact careless_reports trivial
  · exact careless_reports trivial

theorem agentRegistered_reports (hello : AgentHelloPayload) :
    (reports config).Triple index .agentHello (fun _ => True) (agentRegistered config index hello)
      ((reports config).Exits index) := by
  refine .bind (registerAgent_reports hello) fun registered => ?_
  cases registered with
  | error error => exact elsewhere_reports nofun
  | ok _ =>
    refine .bind (careless_perform (.sendAgent index (.helloOk config.serverName)) trivial)
      fun greeted => ?_
    cases greeted with
    | true => exact elsewhere_reports nofun
    | false => exact elsewhere_reports (agentReturn_careless _)

theorem agentHello_reports :
    (reports config).Triple index .agentHello (fun _ => True) (agentHello config index)
      ((reports config).Exits index) := by
  refine .bind (careless_perform (.agent .nextInput) trivial) fun input => ?_
  match input with
  | .frame (.text (.ok (.hello hello))) => exact agentRegistered_reports hello
  | .frame (.text (.ok (.sessionStarted _ _))) | .frame (.text (.ok (.asrPartial _ _)))
  | .frame (.text (.ok (.asrFinal _ _))) | .frame (.text (.ok (.sessionEnded _ _)))
  | .frame (.text (.ok (.error _ _))) | .frame (.text (.ok (.taskStatus _ _)))
  | .frame (.text (.ok .pong)) | .frame .ended | .frame (.failed _) | .frame (.text (.error _))
  | .frame (.binary _) | .frame .close | .frame (.ping _) | .frame .pong | .heartbeat _
  | .writerEnded => exact elsewhere_reports nofun

theorem agentTeardown_reports (agentId : String) :
    (reports config).Triple index (.agentTeardown agentId) (fun _ => True) (agentTeardown agentId)
      ((reports config).Exits index) := by
  have unregistered : (reports config).Triple index (.agentTeardown agentId) (fun _ => True)
      (unregisterAgent agentId) fun _ _ => True := by
    refine .bind (careless_perform (.registry (.removeOrphanedSessions agentId)) trivial)
      fun orphanedSessions => ?_
    refine .bind (careless_perform (.registry (.deviceUnregisterAgent agentId)) trivial)
      fun orphanedTasks => ?_
    exact finishAgentRemoval_reports orphanedSessions orphanedTasks fun _ _ same => nomatch same
  refine .bind unregistered fun _ => .bind (careless_perform (.agent .joinWriter) trivial) fun _ => ?_
  exact elsewhere_reports (agentReturn_careless _)

/-- The handler of a terminal status settles the waiter with it. -/
theorem handleTaskStatus_reports (agentId taskId : String) (payload : AgentTaskStatusPayload) :
    (reports config).Triple index (.agentMessage agentId (.taskStatus taskId payload))
      (fun _ => True) (handleTaskStatus taskId payload) fun _ _ => True := by
  refine .bind (careless_perform (.registry (.taskAgentId taskId)) trivial) fun found => ?_
  cases found with
  | none => exact careless_reports trivial
  | some routed =>
    dsimp only
    split_ifs
    · exact careless_reports trivial
    · refine .bind (careless_perform (.registry (.removeTask taskId)) trivial) fun _ => ?_
      refine resolve_reports taskId fun _ other same => ?_
      obtain ⟨_, rfl⟩ := AgentToGatewayMessage.taskStatus.inj (Procedure.agentMessage.inj same).2
      rfl

theorem removeSession_careless (sessionId : SessionId) (error : BridgeError)
    (events : List BridgeAsrEvent) : (do
      match ← locked (.removeSession sessionId) with
      | some route => tellSession route error events
      | none => pure () : Program Unit).Within Careless fun _ => True := by
  refine ⟨trivial, fun found => ?_⟩
  cases found with
  | none => trivial
  | some route => exact tellSession_careless route error events

theorem routeEvent_careless (sessionId : SessionId) (event : BridgeAsrEvent) :
    (routeEvent sessionId event).Within Careless fun _ => True := by
  refine ⟨trivial, fun found => ?_⟩
  cases found with
  | none => trivial
  | some eventTx => exact ⟨trivial, fun _ => trivial⟩

theorem handleAgentMessage_reports (agentId : String) (message : AgentToGatewayMessage) :
    (reports config).Triple index (.agentMessage agentId message) (fun _ => True)
      (handleAgentMessage message) fun _ _ => True := by
  cases message with
  | hello _ | pong => exact careless_reports trivial
  | sessionStarted sessionId _ =>
    refine careless_reports ⟨trivial, fun found => ?_⟩
    cases found with
    | none => trivial
    | some startedTx => exact ⟨trivial, fun _ => trivial⟩
  | asrPartial sessionId text => exact careless_reports (routeEvent_careless sessionId _)
  | asrFinal sessionId transcript => exact careless_reports (routeEvent_careless sessionId _)
  | sessionEnded sessionId reason => exact careless_reports (removeSession_careless sessionId _ _)
  | taskStatus taskId payload => exact handleTaskStatus_reports agentId taskId payload
  | error sessionId message =>
    cases sessionId with
    | none => exact careless_reports trivial
    | some sessionId =>
      refine careless_reports ⟨trivial, fun pending => ?_⟩
      cases (pending : Bool) with
      | true => exact removeSession_careless sessionId _ _
      | false => exact routeEvent_careless sessionId _

theorem agentMessage_reports (agentId : String) (message : AgentToGatewayMessage) :
    (reports config).Triple index (.agentMessage agentId message) (fun _ => True)
      (agentMessage agentId message) ((reports config).Exits index) := by
  refine .bind (handleAgentMessage_reports agentId message) fun _ => ?_
  exact elsewhere_reports nofun

/-- The failure a request returned with is sent as the text of its answer. -/
theorem controlReply_reports (result : Except BridgeError Unit) :
    (reports config).Triple index (.controlReply result) (Answered index (.controlReply result))
      (controlReply result) ((reports config).Exits index) := by
  have stable {before after : State} (answered : Answered index (.controlReply result) before)
      (rely : ReportRely index before after) : Answered index (.controlReply result) after :=
    answered.rely rely
  cases result with
  | ok _ =>
    exact .done (fun _ _ _ _ holds rely _ => stable holds rely) fun _ _ _ _ _ => trivial
  | error error =>
    refine .bind (send_keeps stable ?_) fun sent => ?_
    · intro state answered number payload asks known
      have fits := (answered asks).fits payload known
      rw [failureText, ← Except.error.inj fits]
    · exact .done (fun _ _ _ _ holds rely _ => stable holds rely) fun _ _ _ _ _ => by
        cases sent <;> trivial

/-- The frame in the hand of a control connection has called no request. -/
def Uncalled (index : ℕ) (state : State) : Prop := state.history.answering index = none

theorem Uncalled.rely (uncalled : Uncalled index state) (rely : ReportRely index state after) :
    Uncalled index after :=
  rely.answering.trans uncalled

theorem Uncalled.exits (uncalled : Uncalled index state) (exit : Option Procedure) :
    (reports config).Exits index exit state := by
  cases exit with
  | none => trivial
  | some procedure =>
    cases procedure with
    | controlReply result =>
      intro number asks
      rw [uncalled] at asks
      cases asks
    | _ => trivial

theorem uncalled_reports {code : Program (Option Procedure)}
    (plain : code.Within
      (fun action : Action => Silent action ∨ ∃ response, action = .control (.send response))
      fun _ => True) :
    (reports config).Triple index name (Uncalled index) code ((reports config).Exits index) := by
  refine (plain_keeps _ Uncalled.rely ?_ ?_ plain).post fun exit _ _ _ _ uncalled => uncalled.exits exit
  · rintro action (silent | ⟨response, rfl⟩)
    · exact silent.plain
    · trivial
  · rintro state action uncalled (silent | ⟨response, rfl⟩)
    · exact silent_guar silent
    · intro number payload asks
      rw [uncalled] at asks
      cases asks

theorem controlLoop_reports :
    (reports config).Triple index .controlLoop (fun _ => True) controlLoop
      ((reports config).Exits index) := by
  have reads : (reports config).Triple index .controlLoop (fun _ => True)
      (perform (.control .nextFrame)) fun _ => Uncalled index := by
    refine .perform (fun _ _ _ _ _ _ _ => trivial)
      (fun _ _ _ _ _ uncalled rely _ => uncalled.rely rely) ?_
    intro size state after answer _ _ _ _ ran
    refine ⟨trivial, fun _ => ?_⟩
    change after.history.answering index = none
    rw [history_exec (ran_exec ran)]
    exact Function.update_self ..
  refine .bind reads fun frame => uncalled_reports ?_
  match frame with
  | .text (.ok .devicesList) | .text (.ok (.agentStatus _)) =>
    exact ⟨.inl trivial, fun _ => ⟨.inr ⟨_, rfl⟩, fun sent => by cases sent <;> trivial⟩⟩
  | .text (.error _) | .ping _ | .binary _ =>
    exact ⟨.inr ⟨_, rfl⟩, fun sent => by cases sent <;> trivial⟩
  | .ended | .failed _ | .text (.ok (.playAudio _)) | .close | .pong => trivial

/-! ## All runs -/

/-- The roles that are disposed of by their actions alone. -/
theorem role_careless {role : Role} (settles : ¬ role.Settles) (other : role.family ≠ .control)
    (permitted : role.Permits index action) : Careless action := by
  cases action with
  | registry action =>
    cases action with
    | subscribeTaskWaiter taskId =>
      cases role with
      | controlPlaying => exact settles trivial
      | _ => exact permitted
    | _ => trivial
  | sendTaskResult waiter result => exact settles permitted
  | control action =>
    cases action with
    | send response => rcases permitted with rfl | rfl <;> exact other rfl
    | _ => trivial
  | spawn procedure =>
    rintro result rfl
    cases role <;> exact permitted
  | _ => trivial

theorem role_elsewhere {role : Role} (other : role.family ≠ .control) {exit : Option Procedure}
    (continues : role.Continues exit) : Elsewhere exit := by
  rintro result rfl
  cases role with
  | controlIdle | controlPlaying => exact other rfl
  | _ => rcases continues with same | same <;> cases same

theorem other_reports (settles : ¬ name.role.Settles) (other : name.role.family ≠ .control) :
    (reports config).Safe index name (body config index name) ((reports config).Exits index)
      state := by
  refine .within (body_plays config index name) ?_ fun exit continues _ _ _ _ => ?_
  · exact fun _ permitted _ _ _ _ _ _ _ _ => careless_guar (role_careless settles other permitted)
  · exact (role_elsewhere other continues).exits

theorem reports_valid : (reports config).Valid where
  pre_stable _ pre rely _ := pre.rely rely
  body {index name size state} bound inv _ pre := by
    cases name with
    | agentHello => exact agentHello_reports size state bound inv trivial
    | agentMessage agentId message =>
      exact agentMessage_reports agentId message size state bound inv trivial
    | agentTeardown agentId => exact agentTeardown_reports agentId size state bound inv trivial
    | controlLoop => exact controlLoop_reports size state bound inv trivial
    | playAudio payload => exact playAudio_reports size state bound inv trivial
    | controlReply result => exact controlReply_reports result size state bound inv pre
    | agentLoop _ | clientLoop | clientMessage _ | asrStarted _ _ _ | ttsStarted _ _ _
    | clientReply _ _ | clientTeardown | asrForwarder _ _ _ _ _ | ttsForwarder _ _ _ _ _ _
    | forwardCommandsToAgent _ _ | deviceHello _ | deviceWait | deviceLoop | deviceMessage _
    | agentReturned _ | returned =>
      exact other_reports id nofun
  action {index name size state action after answer} _ inv allowed guar ran := by
    have passed : ReportsPassed index name state action := allowed
    refine ⟨inv.exec passed guar (ran_exec ran),
      fun _ other _ => inv.rely passed other (ran_exec ran), fun offset procedure spawns => ?_⟩
    cases action with
    | spawn entered =>
      obtain rfl := List.mem_singleton.mp (List.mem_of_getElem? spawns)
      exact .other guar
    | _ => exact nomatch List.mem_of_getElem? spawns
  event inv _ occurred := by
    have undisturbed := occur_undisturbed occurred
    refine ⟨inv.undisturbed undisturbed, fun _ _ => .undisturbed undisturbed,
      fun offset procedure entered => .other ?_⟩
    rintro result rfl
    exact occur_opens occurred _ (List.mem_of_getElem? entered)

theorem reports_initial : (reports config).Good (initial config) :=
  ⟨reportInvariant_initial, fun _ _ found => nomatch found⟩

/-- Along every schedule whose requests get through to their waits and whose waiters are left to the
handlers, every request is answered with the failure its device reported. -/
theorem failure_heard (config : GatewayConfig) (schedule : List (Choice (system config)))
    (passed : World.Along (World.OnAction ReportsPassed) (initial config) schedule) :
    World.Along (World.OnEffect HearsReport) (initial config) schedule := by
  have answered := reports_initial.along reports_valid (passed.imp fun world choice allowed =>
    ⟨allowed.effect, .always (fun _ _ _ => trivial) _ _, .always (fun _ _ => trivial) _ _⟩)
  refine answered.imp fun world choice guar => guar.imp fun index name action after kept => ?_
  cases action with
  | control action =>
    cases action with
    | send response => exact kept
    | _ => trivial
  | _ => trivial

open Scenario in
/-- The device reports a failure of the playback that `routesPlayback` asks for. -/
def reportsFailure : Choice (system Scenario.config) :=
  agentSays 0 (.taskStatus "task" ⟨.failed, some "player broke"⟩)

open Scenario in
/-- The device reports while the request waits, and the request is answered with the failure. -/
theorem failure_heard_waiting : World.Along (World.OnEffect HearsReport) (initial Scenario.config)
    (registers 0 speaker ++ routesPlayback 1 ++ turns 7 1 ++ [reportsFailure] ++ turns 7 0 ++
      turns 4 1) := by
  refine failure_heard Scenario.config _ ?_
  refine .step True.intro rfl (.step True.intro rfl (.step True.intro rfl ?_))
  refine .step ?_ rfl ?_
  · -- the hello is no status
    intro input rest taskId payload number inbox failure
    cases inbox
    cases failure
  refine .step True.intro rfl (.step True.intro rfl (.step True.intro rfl ?_))
  refine .step True.intro rfl (.step True.intro rfl (.step True.intro rfl ?_))
  refine .step True.intro rfl (.step True.intro rfl (.step True.intro rfl ?_))
  refine .step ?_ rfl ?_
  · -- no waiter is displaced
    intro waiter number found
    cases found
  refine .step True.intro rfl (.step True.intro rfl (.step True.intro rfl ?_))
  -- nothing is reported before the request waits
  refine .step (fun _ reported => absurd rfl reported) rfl ?_
  refine .step True.intro rfl (.step True.intro rfl ?_)
  refine .step (fun _ reported => absurd rfl reported) rfl ?_
  refine .step True.intro rfl (.step True.intro rfl ?_)
  refine .step True.intro rfl (.step True.intro rfl ?_)
  refine .step ?_ rfl (.step True.intro rfl ?_)
  · intro input rest taskId payload number inbox failure _ route _
    cases inbox
    cases failure
    change (if some 0 = some number then some "task" else none) = some "task" at route
    split_ifs at route with same
    cases same
    exact ⟨rfl, 0, rfl, rfl⟩
  -- the handler serves no request
  refine .step (fun serves => nomatch serves) rfl (.step (fun serves => nomatch serves) rfl ?_)
  refine .step ?_ rfl ?_
  · intro waiter number payload found waits known
    cases found
    cases waits
    rw [List.mem_singleton.mp known]
    exact ⟨"device", rfl⟩
  refine .step True.intro rfl (.step True.intro rfl ?_)
  refine .step True.intro rfl (.step True.intro rfl ?_)
  exact .step True.intro rfl True.intro

open Scenario in
/-- The status is handled between the start and the chunk of the playback. -/
def reportsEarly : List (Choice (system Scenario.config)) :=
  registers 0 speaker ++ routesPlayback 1 ++ [.task 1, reportsFailure] ++ turns 7 0 ++ turns 3 1

open Scenario in
/-- The request is answered with an error about its route. -/
theorem failure_unheard : ¬ World.Along (World.OnEffect HearsReport) (initial Scenario.config)
    (reportsEarly ++ [.task 1]) := by
  intro always
  obtain ⟨last, ran⟩ : ∃ last, (initial Scenario.config).replay? reportsEarly = some last := ⟨_, rfl⟩
  have heard := always.at ran
  cases ran
  have told := heard.performed rfl rfl 0 ⟨.failed, some "player broke"⟩ rfl (List.mem_singleton.mpr rfl)
  exact absurd (ControlResponse.error.inj told) (by decide)

end SpeechMesh.Soundness
