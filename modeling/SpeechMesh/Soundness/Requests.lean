import SpeechMesh.Model.Footprints
import SpeechMesh.Soundness.RegistryMaps

/-! # Playback requests

The calls of `handle_control_play_audio` are numbered in the order they are made. Each task serves
at most one of them at a time, and only the task that serves a request places it on an agent.
-/

namespace SpeechMesh.Soundness

open Async Model

/-- The requests being served have been called and are different ones, and no request was placed
before it was called. -/
structure RequestsNumbered (history : History) : Prop where
  called : ∀ {task number}, history.servedNumber task = some number → number < history.requests
  distinct : ∀ {task other number}, history.servedNumber task = some number →
    history.servedNumber other = some number → task = other
  unplaced : ∀ {number}, history.requests ≤ number → history.requestPlacement number = none

variable {state after : State} {task index fresh : ℕ} {action : Action} {answer : action.Answer}

theorem requests_note : state.history.requests ≤ (state.note task fresh action answer).requests := by
  simp only [State.note]
  unfold History.requestsAfter
  split <;> omega

/-- A task that serves a request after an action served it before, or was just called. -/
theorem servedNumber_note {number : ℕ}
    (serves : (state.note task fresh action answer).servedNumber index = some number) :
    state.history.servedNumber index = some number ∨
      (index = task ∧ number = state.history.requests ∧
        (state.note task fresh action answer).requests = state.history.requests + 1) := by
  simp only [State.note, History.servedNumber] at serves ⊢
  unfold History.servingAfter at serves
  split at serves
  · by_cases same : index = task
    · subst same
      rw [Function.update_self] at serves
      exact .inr ⟨rfl, (Option.some.inj serves).symm, rfl⟩
    · rw [Function.update_of_ne same] at serves
      exact .inl serves
  · by_cases same : index = task
    · subst same
      rw [Function.update_self] at serves
      cases serves
    · rw [Function.update_of_ne same] at serves
      exact .inl serves
  · exact .inl serves

/-- Only the task that serves a request places it. -/
theorem requestPlacement_note {number : ℕ} (other : state.history.servedNumber task ≠ some number) :
    (state.note task fresh action answer).requestPlacement number =
      state.history.requestPlacement number := by
  simp only [State.note]
  unfold History.requestPlacementAfter
  split
  · rw [if_neg other]
  · rfl

theorem RequestsNumbered.exec (numbered : RequestsNumbered state.history)
    (ran : State.exec task fresh state action = some (after, answer)) :
    RequestsNumbered after.history := by
  rw [history_exec ran]
  refine ⟨fun {index number} serves => ?_, fun {index other number} serves serves' => ?_,
    fun {number} bound => ?_⟩
  · rcases servedNumber_note serves with before | ⟨_, rfl, next⟩
    · exact lt_of_lt_of_le (numbered.called before) requests_note
    · omega
  · rcases servedNumber_note serves with before | ⟨rfl, rfl, _⟩ <;>
      rcases servedNumber_note serves' with before' | ⟨rfl, new, _⟩
    · exact numbered.distinct before before'
    · have old := numbered.called before
      omega
    · have old := numbered.called before'
      omega
    · rfl
  · have old : state.history.requests ≤ number := le_trans requests_note bound
    rw [requestPlacement_note, numbered.unplaced old]
    intro serves
    have called := numbered.called serves
    omega

theorem requestsNumbered_initial : RequestsNumbered ({} : State).history where
  called := by
    intro task number serves
    cases serves
  distinct := by
    intro task other number serves
    cases serves
  unplaced _ := rfl

/-! ## What a task knows of its own request -/

/-- What the other tasks leave to the task that serves a request. -/
structure OwnRequest (index : ℕ) (before after : State) : Prop where
  serving : after.history.serving index = before.history.serving index
  selected : after.history.selected index = before.history.selected index
  placement : ∀ {number}, before.history.servedNumber index = some number →
    after.history.requestPlacement number = before.history.requestPlacement number

theorem OwnRequest.refl (index : ℕ) (state : State) : OwnRequest index state state :=
  ⟨rfl, rfl, fun _ => rfl⟩

theorem OwnRequest.servedNumber {before after : State} (own : OwnRequest index before after) :
    after.history.servedNumber index = before.history.servedNumber index := by
  simp only [History.servedNumber, own.serving]

theorem OwnRequest.trans {first middle last : State} (one : OwnRequest index first middle)
    (two : OwnRequest index middle last) : OwnRequest index first last where
  serving := two.serving.trans one.serving
  selected := two.selected.trans one.selected
  placement serves := (two.placement (one.servedNumber.trans serves)).trans (one.placement serves)

theorem serving_note (other : index ≠ task) :
    (state.note task fresh action answer).serving index = state.history.serving index := by
  simp only [State.note]
  unfold History.servingAfter
  split
  · exact Function.update_of_ne other ..
  · exact Function.update_of_ne other ..
  · rfl

theorem selected_note (other : index ≠ task) :
    (state.note task fresh action answer).selected index = state.history.selected index := by
  simp only [State.note]
  unfold History.selectedAfter
  split
  · exact Function.update_of_ne other ..
  · exact Function.update_of_ne other ..
  · rfl

theorem ownRequest_exec (numbered : RequestsNumbered state.history) (other : index ≠ task)
    (ran : State.exec task fresh state action = some (after, answer)) :
    OwnRequest index state after := by
  constructor
  · rw [history_exec ran, serving_note other]
  · rw [history_exec ran, selected_note other]
  · intro number serves
    rw [history_exec ran, requestPlacement_note]
    exact fun serves' => other (numbered.distinct serves serves')

theorem ownRequest_undisturbed (undisturbed : state.Undisturbed after) :
    OwnRequest index state after := by
  constructor <;> simp only [undisturbed.history, implies_true]

/-! ## Waiters, routes and reports -/

/-- The request whose route is in place for a task id. -/
def routed (state : State) (taskId : String) : Option ℕ :=
  (state.registry.deviceRegistry.tasks.lookup taskId).bind fun _ =>
    state.history.routeRequest taskId

theorem routed_eq_some {taskId : String} {number : ℕ} : routed state taskId = some number ↔
    state.history.routeRequest taskId = some number ∧
      (state.registry.deviceRegistry.tasks.lookup taskId).isSome := by
  rw [routed, Option.bind_eq_some_iff, Option.isSome_iff_exists]
  constructor
  · rintro ⟨route, found, request⟩
    exact ⟨request, route, found⟩
  · rintro ⟨request, route, found⟩
    exact ⟨route, found, request⟩

theorem routeRequest_note (other : ∀ taskId agentId, action ≠ .registry (.registerTask taskId agentId)) :
    (state.note task fresh action answer).routeRequest = state.history.routeRequest := by
  simp only [State.note]
  unfold History.routeRequestAfter
  split
  · exact (other _ _ rfl).elim
  · rfl

/-- The route of a request is in place because it was, or because the task that serves the request
has just registered it. -/
theorem routed_exec {taskId : String} {number : ℕ}
    (ran : State.exec task fresh state action = some (after, answer))
    (found : routed after taskId = some number) :
    routed state taskId = some number ∨
      state.history.servedNumber task = some number ∧
        ∃ agentId, action = .registry (.registerTask taskId agentId) ∧
          state.registry.deviceRegistry.tasks.lookup taskId = none := by
  rw [routed_eq_some] at found ⊢
  obtain ⟨request, present⟩ := found
  obtain ⟨route, present⟩ := Option.isSome_iff_exists.mp present
  rw [registry_exec ran] at present
  by_cases registers : ∃ other agentId, action = .registry (.registerTask other agentId)
  · obtain ⟨other, agentId, rfl⟩ := registers
    have answered := registry_answer ran
    rw [history_exec ran] at request
    simp only [State.registryAfter, AgentRegistry.run, DeviceRegistry.registerTask]
      at answered present
    split at present
    · rename_i old active
      simp only [active] at answered
      subst answered
      exact .inl ⟨request, Option.isSome_iff_exists.mpr ⟨route, present⟩⟩
    · rename_i free
      simp only [free] at answered
      subst answered
      by_cases same : taskId = other
      · subst same
        simp only [State.note, History.routeRequestAfter, Function.update_self] at request
        exact .inr ⟨request, agentId, rfl, free⟩
      · simp only [State.note, History.routeRequestAfter, Function.update_of_ne same] at request
        rw [AList.lookup_insert_ne same] at present
        exact .inl ⟨request, Option.isSome_iff_exists.mpr ⟨route, present⟩⟩
  · rw [history_exec ran, routeRequest_note fun other agentId same => registers ⟨other, agentId, same⟩]
      at request
    refine .inl ⟨request, Option.isSome_iff_exists.mpr ⟨route, ?_⟩⟩
    cases action with
    | registry action =>
      rcases tasks_run action taskId present with before | ⟨agentId, rfl, _⟩
      · exact before
      · exact absurd ⟨taskId, agentId, rfl⟩ registers
    | _ => exact present

theorem routed_undisturbed (undisturbed : state.Undisturbed after) (taskId : String) :
    routed after taskId = routed state taskId := by
  simp only [routed, undisturbed.registry.tasks, undisturbed.history]

/-- A waiter belongs to a request because it did, or because the task that serves the request has
just subscribed it. -/
theorem waiterRequest_exec {waiter number : ℕ}
    (ran : State.exec task fresh state action = some (after, answer))
    (waits : after.history.waiterRequest waiter = some number) :
    state.history.waiterRequest waiter = some number ∨
      waiter = state.nextWaiter ∧ state.history.servedNumber task = some number ∧
        ∃ taskId, action = .registry (.subscribeTaskWaiter taskId) := by
  by_cases subscribes : ∃ taskId, action = .registry (.subscribeTaskWaiter taskId)
  · obtain ⟨taskId, rfl⟩ := subscribes
    obtain rfl : answer = state.nextWaiter := registry_answer ran
    rw [history_exec ran] at waits
    simp only [State.note, History.waiterRequestAfter] at waits
    by_cases same : waiter = state.nextWaiter
    · subst same
      rw [Function.update_self, Option.or_eq_some_iff] at waits
      rcases waits with before | ⟨_, serves⟩
      · exact .inl before
      · exact .inr ⟨rfl, serves, taskId, rfl⟩
    · rw [Function.update_of_ne same] at waits
      exact .inl waits
  · refine .inl ?_
    rw [history_exec ran] at waits
    simp only [State.note] at waits
    unfold History.waiterRequestAfter at waits
    split at waits
    · exact absurd ⟨_, rfl⟩ subscribes
    · exact waits

theorem AgentInput.failure?_failed {input : AgentInput} {taskId : String}
    {payload : AgentTaskStatusPayload} (failure : input.failure? = some (taskId, payload)) :
    payload.state = .failed := by
  unfold AgentInput.failure? at failure
  split at failure
  · split_ifs at failure with failed
    obtain ⟨_, rfl⟩ := Prod.mk.inj (Option.some.inj failure)
    exact failed
  · cases failure

/-- What is reported on a request grows by a failed status on its task that is read before the
request is answered. -/
theorem reported_exec (ran : State.exec task fresh state action = some (after, answer))
    (number : ℕ) : after.history.reported number = state.history.reported number ∨
      action = .agent .nextInput ∧
        ∃ input rest taskId payload, (state.agents task).inbox = input :: rest ∧
          input.message.failure? = some (taskId, payload) ∧
          state.history.unanswered number = true ∧ state.history.routedAs number = some taskId ∧
          payload ∉ state.history.reported number ∧
          after.history.reported number = payload :: state.history.reported number := by
  rw [history_exec ran]
  simp only [State.note]
  unfold History.reportedAfter
  split
  · rename_i input
    obtain ⟨core, performed, rfl⟩ := exec_cases ran
    simp only [State.perform, State.performAgent] at performed
    split at performed
    · cases performed
    · rename_i head rest found
      obtain ⟨rfl, rfl⟩ := Prod.mk.inj (Option.some.inj performed)
      cases failure : head.message.failure? with
      | none => exact .inl rfl
      | some verdict =>
        obtain ⟨taskId, payload⟩ := verdict
        dsimp only
        split_ifs with expects
        · by_cases known : payload ∈ state.history.reported number
          · exact .inl (List.insert_of_mem known)
          · exact .inr ⟨rfl, head, rest, taskId, payload, found, failure, expects.1, expects.2,
              known, List.insert_of_not_mem known⟩
        · exact .inl rfl
  · exact .inl rfl

/-! ## Waiters that left the map -/

/-- The waiter was subscribed and is in the map no more. -/
def Unstored (waiter : ℕ) (state : State) : Prop :=
  waiter < state.nextWaiter ∧ ∀ taskId, state.registry.taskWaiters.lookup taskId ≠ some waiter

theorem nextWaiter_le (ran : State.exec task fresh state action = some (after, answer)) :
    state.nextWaiter ≤ after.nextWaiter := by
  rw [nextWaiter_exec ran]
  unfold State.nextWaiterAfter
  split <;> omega

theorem Unstored.exec {waiter : ℕ} (unstored : Unstored waiter state)
    (ran : State.exec task fresh state action = some (after, answer)) : Unstored waiter after := by
  refine ⟨lt_of_lt_of_le unstored.1 (nextWaiter_le ran), fun taskId found => ?_⟩
  rw [registry_exec ran] at found
  cases action with
  | registry action =>
    rcases taskWaiters_run action taskId found with ⟨before, _⟩ | ⟨_, rfl⟩
    · exact unstored.2 taskId before
    · exact lt_irrefl _ unstored.1
  | _ => exact unstored.2 taskId found

/-- What an action can do to the reply of a waiter: nothing, send it, or drop its sender. -/
theorem taskReplies_cases (ran : State.exec task fresh state action = some (after, answer))
    (waiter : ℕ) : after.taskReplies waiter = state.taskReplies waiter ∨
      (∃ result, action = .sendTaskResult waiter result ∧
        after.taskReplies waiter = (state.taskReplies waiter).send result) ∨
      (∃ taskId, (action = .registry (.subscribeTaskWaiter taskId) ∨
          action = .registry (.removeTaskWaiter taskId)) ∧
        state.registry.taskWaiters.lookup taskId = some waiter ∧
        after.taskReplies waiter = (state.taskReplies waiter).drop) := by
  have dropped {taskId : String} :
      (state.dropReply (state.registry.taskWaiters.lookup taskId)).taskReplies waiter =
          state.taskReplies waiter ∨
        state.registry.taskWaiters.lookup taskId = some waiter ∧
          (state.dropReply (state.registry.taskWaiters.lookup taskId)).taskReplies waiter =
            (state.taskReplies waiter).drop := by
    cases found : state.registry.taskWaiters.lookup taskId with
    | none => exact .inl rfl
    | some stored =>
      by_cases same : waiter = stored
      · subst same
        exact .inr ⟨rfl, Function.update_self ..⟩
      · exact .inl (Function.update_of_ne same ..)
  rw [taskReplies_exec ran]
  cases action with
  | sendTaskResult other result =>
    by_cases same : waiter = other
    · subst same
      exact .inr (.inl ⟨result, rfl, Function.update_self ..⟩)
    · exact .inl (Function.update_of_ne same ..)
  | registry action =>
    cases action with
    | subscribeTaskWaiter taskId =>
      rcases dropped with same | ⟨found, drop⟩
      · exact .inl same
      · exact .inr (.inr ⟨taskId, .inl rfl, found, drop⟩)
    | removeTaskWaiter taskId =>
      rcases dropped with same | ⟨found, drop⟩
      · exact .inl same
      · exact .inr (.inr ⟨taskId, .inr rfl, found, drop⟩)
    | _ => exact .inl rfl
  | _ => exact .inl rfl

end SpeechMesh.Soundness
