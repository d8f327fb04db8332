import SpeechMesh.Async.Trace

/-! # Calls on a shared state

A call that reads a state several times finds it as others left it: between two of its actions, and
before it returns, others may change the state any number of times. An interleaving lists what the
call does and what others do, in the order in which it happens, and every state on the way can be
told from it.
-/

namespace Async

/-- A step of an interleaving: an action of the call with its answer, or a change by others. -/
inductive Happening (S : Signature) (κ : Type) where
  | own (entry : Entry S)
  | other (change : κ)

variable {S : Signature} {α σ κ : Type} (alter : σ → κ → σ)

def Happening.after (state : σ) : Happening S κ → σ
  | .own _ => state
  | .other change => alter state change

/-- The state that an interleaving leads to. -/
def stateAfter (start : σ) (steps : List (Happening S κ)) : σ :=
  steps.foldl (Happening.after alter) start

/-- The shared state is at some moment the given one. -/
def GoesThrough (start : σ) (steps : List (Happening S κ)) (state : σ) : Prop :=
  ∃ earlier, earlier <+: steps ∧ stateAfter alter start earlier = state

variable (result : (action : S.Action) → σ → S.Answer action)

/-- A call from its beginning to its end, and a while after it. -/
inductive Runs : Code S α → σ → List (Happening S κ) → α → Prop where
  | returned (value : α) (state : σ) : Runs (.done value) state [] value
  | changed {code : Code S α} {state : σ} {change : κ} {rest : List (Happening S κ)} {value : α}
      (runs : Runs code (alter state change) rest value) :
      Runs code state (.other change :: rest) value
  | acted {action : S.Action} {next : S.Answer action → Code S α} {answer : S.Answer action}
      {state : σ} {rest : List (Happening S κ)} {value : α} (answered : answer = result action state)
      (runs : Runs (next answer) state rest value) :
      Runs (.act action next) state (.own ⟨action, answer⟩ :: rest) value

def Happening.IsOther : Happening S κ → Prop
  | .own _ => False
  | .other _ => True

variable {alter result} {state start : σ} {steps earlier later : List (Happening S κ)}
  {value : α}

theorem stateAfter_append (start : σ) (earlier later : List (Happening S κ)) :
    stateAfter alter start (earlier ++ later) =
      stateAfter alter (stateAfter alter start earlier) later :=
  List.foldl_append

theorem GoesThrough.of_eq (whole : steps = earlier ++ later) :
    GoesThrough alter start steps (stateAfter alter start earlier) :=
  ⟨earlier, whole ▸ List.prefix_append earlier later, rfl⟩

/-- Once the call has returned, only others do something. -/
theorem Runs.done_cases {returned : α}
    (runs : Runs alter result (.done returned) state steps value) :
    value = returned ∧ ∀ step ∈ steps, step.IsOther := by
  induction steps generalizing state with
  | nil =>
    cases runs
    exact ⟨rfl, List.forall_mem_nil _⟩
  | cons step rest ih =>
    cases runs with
    | changed runs =>
      obtain ⟨same, others⟩ := ih runs
      exact ⟨same, List.forall_mem_cons.mpr ⟨trivial, others⟩⟩

theorem Runs.others {code : Code S α} (all : ∀ step ∈ earlier, step.IsOther)
    (runs : Runs alter result code (stateAfter alter state earlier) later value) :
    Runs alter result code state (earlier ++ later) value := by
  induction earlier generalizing state with
  | nil => exact runs
  | cons step rest ih =>
    obtain ⟨first, further⟩ := List.forall_mem_cons.mp all
    cases step with
    | own entry => exact first.elim
    | other change => exact .changed (ih further runs)

/-- Others change the state before the next action of the call. -/
theorem Runs.act_cases {action : S.Action} {next : S.Answer action → Code S α}
    (runs : Runs alter result (.act action next) state steps value) :
    ∃ others answer rest, steps = others ++ .own ⟨action, answer⟩ :: rest ∧
      (∀ step ∈ others, step.IsOther) ∧ answer = result action (stateAfter alter state others) ∧
        Runs alter result (next answer) (stateAfter alter state others) rest value := by
  induction steps generalizing state with
  | nil => cases runs
  | cons step rest ih =>
    cases runs with
    | changed runs =>
      obtain ⟨others, answer, later, rfl, all, answered, runs⟩ := ih runs
      exact ⟨_ :: others, answer, later, rfl, List.forall_mem_cons.mpr ⟨trivial, all⟩, answered,
        runs⟩
    | acted answered runs =>
      exact ⟨[], _, rest, rfl, List.forall_mem_nil _, answered, runs⟩

theorem Runs.bind_cases {β : Type} {code : Code S β} {next : β → Code S α}
    (runs : Runs alter result (code >>= next) state steps value) :
    ∃ first later middle, steps = first ++ later ∧ Runs alter result code state first middle ∧
      Runs alter result (next middle) (stateAfter alter state first) later value := by
  induction code generalizing state steps with
  | done middle => exact ⟨[], steps, middle, rfl, .returned middle state, runs⟩
  | act action rest ih =>
    obtain ⟨others, answer, later, rfl, all, answered, runs⟩ := runs.act_cases
    obtain ⟨first, last, middle, rfl, ran, runs⟩ := ih answer runs
    refine ⟨others ++ .own ⟨action, answer⟩ :: first, last, middle, by simp, ?_, ?_⟩
    · exact .others all (.acted answered ran)
    · rw [stateAfter_append]
      exact runs

/-- Every answer is right in the state in which it is given. -/
theorem Runs.answered {code : Code S α} {entry : Entry S}
    (runs : Runs alter result code state (earlier ++ .own entry :: later) value) :
    entry.answer = result entry.action (stateAfter alter state earlier) := by
  induction earlier generalizing code state with
  | nil =>
    cases runs with
    | acted answered _ => exact answered
  | cons step rest ih =>
    cases runs with
    | changed runs => exact ih runs
    | acted _ runs => exact ih runs

end Async
