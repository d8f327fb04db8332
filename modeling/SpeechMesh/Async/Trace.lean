import Mathlib.Data.List.Basic
import SpeechMesh.Async.Code

/-! # Traces of programs

A program seen from outside is the list of its actions with their answers. A step relation says how
the actions change a state and which answers they can get, so that the environment may decide both.
A run can be looked at, or cut off, between any two actions.
-/

namespace Async

/-- An action that was performed, with its answer. -/
structure Entry (S : Signature) where
  action : S.Action
  answer : S.Answer action

abbrev Trace (S : Signature) := List (Entry S)

/-- Nothing is said about the environment: every answer is possible. -/
def AnyStep {S : Signature} (_ : Unit) (_ : Entry S) (_ : Unit) : Prop := True

namespace Code

variable {S : Signature} {α β σ ν : Type} {step : σ → Entry S → σ → Prop}

/-! ## Runs -/

/-- The program performs a trace and has the last program still to run. -/
inductive Performs (step : σ → Entry S → σ → Prop) :
    Code S α → σ → Trace S → Code S α → σ → Prop where
  | stop (code : Code S α) (state : σ) : Performs step code state [] code state
  | act {action : S.Action} {next : S.Answer action → Code S α} {answer : S.Answer action}
      {before middle after : σ} {trace : Trace S} {last : Code S α}
      (stepped : step before ⟨action, answer⟩ middle)
      (rest : Performs step (next answer) middle trace last after) :
      Performs step (act action next) before (⟨action, answer⟩ :: trace) last after

/-- A task performs a trace: its program may end with the procedure to enter next. -/
inductive Serves (body : ν → Code S (Option ν)) (step : σ → Entry S → σ → Prop) :
    Code S (Option ν) → σ → Trace S → Code S (Option ν) → σ → Prop where
  | stop (code : Code S (Option ν)) (state : σ) : Serves body step code state [] code state
  | act {action : S.Action} {next : S.Answer action → Code S (Option ν)}
      {answer : S.Answer action} {before middle after : σ} {trace : Trace S}
      {last : Code S (Option ν)} (stepped : step before ⟨action, answer⟩ middle)
      (rest : Serves body step (next answer) middle trace last after) :
      Serves body step (act action next) before (⟨action, answer⟩ :: trace) last after
  | enter {name : ν} {before after : σ} {trace : Trace S} {last : Code S (Option ν)}
      (rest : Serves body step (body name) before trace last after) :
      Serves body step (done (some name)) before trace last after

/-! ## What a run ensures -/

/-- Whatever the answers are, `always` holds after each action, and `post` at the end. The trace is
the one performed before the program. -/
def Ensures (step : σ → Entry S → σ → Prop) (always : Trace S → σ → Prop)
    (post : α → Trace S → σ → Prop) : Code S α → Trace S → σ → Prop
  | done value, trace, state => post value trace state
  | act action next, trace, state => ∀ answer after, step state ⟨action, answer⟩ after →
      always (trace ++ [⟨action, answer⟩]) after ∧
        (next answer).Ensures step always post (trace ++ [⟨action, answer⟩]) after

variable {always : Trace S → σ → Prop}

@[simp] theorem ensures_done {post : α → Trace S → σ → Prop} {value : α} {trace : Trace S}
    {state : σ} : (done value : Code S α).Ensures step always post trace state ↔
      post value trace state := Iff.rfl

theorem ensures_act {post : α → Trace S → σ → Prop} {action : S.Action}
    {next : S.Answer action → Code S α} {trace : Trace S} {state : σ} :
    (act action next).Ensures step always post trace state ↔
      ∀ answer after, step state ⟨action, answer⟩ after →
        always (trace ++ [⟨action, answer⟩]) after ∧
          (next answer).Ensures step always post (trace ++ [⟨action, answer⟩]) after := Iff.rfl

theorem ensures_bind {post : β → Trace S → σ → Prop} {code : Code S α} {rest : α → Code S β}
    {trace : Trace S} {state : σ} :
    (code >>= rest).Ensures step always post trace state ↔
      code.Ensures step always
        (fun value trace state => (rest value).Ensures step always post trace state)
        trace state := by
  induction code generalizing trace state with
  | done value => rfl
  | act action next ih =>
    rw [act_bind, ensures_act, ensures_act]
    exact forall₃_congr fun answer after _ => and_congr_right fun _ => ih answer

theorem Ensures.mono {weaker : Trace S → σ → Prop} {post wider : α → Trace S → σ → Prop}
    {code : Code S α} {trace : Trace S} {state : σ}
    (ensures : code.Ensures step always post trace state)
    (alwaysMono : ∀ trace state, always trace state → weaker trace state)
    (postMono : ∀ value trace state, post value trace state → wider value trace state) :
    code.Ensures step weaker wider trace state := by
  induction code generalizing trace state with
  | done value => exact postMono value trace state ensures
  | act action next ih =>
    intro answer after stepped
    obtain ⟨kept, further⟩ := ensures answer after stepped
    exact ⟨alwaysMono _ _ kept, ih answer further⟩

theorem Ensures.bind {post : β → Trace S → σ → Prop} {middle : α → Trace S → σ → Prop}
    {code : Code S α} {rest : α → Code S β} {trace : Trace S} {state : σ}
    (first : code.Ensures step always middle trace state)
    (second : ∀ value trace state, middle value trace state →
      (rest value).Ensures step always post trace state) :
    (code >>= rest).Ensures step always post trace state :=
  ensures_bind.mpr (first.mono (fun _ _ kept => kept) second)

/-- A program only adds to the trace. -/
theorem Ensures.prefixed {post : α → Trace S → σ → Prop} {code : Code S α} {trace : Trace S}
    {state : σ} (ensures : code.Ensures step always post trace state) :
    code.Ensures step (fun later state => trace <+: later ∧ always later state)
      (fun value later state => trace <+: later ∧ post value later state) trace state := by
  induction code generalizing trace state with
  | done value => exact ⟨List.prefix_refl trace, ensures⟩
  | act action next ih =>
    intro answer after stepped
    obtain ⟨kept, further⟩ := ensures answer after stepped
    have grown : trace <+: trace ++ [(⟨action, answer⟩ : Entry S)] := List.prefix_append ..
    refine ⟨⟨grown, kept⟩, (ih answer further).mono ?_ ?_⟩
    · rintro later state ⟨rest, kept⟩
      exact ⟨grown.trans rest, kept⟩
    · rintro value later state ⟨rest, reached⟩
      exact ⟨grown.trans rest, reached⟩

theorem Ensures.and {other : Trace S → σ → Prop} {post further : α → Trace S → σ → Prop}
    {code : Code S α} {trace : Trace S} {state : σ}
    (first : code.Ensures step always post trace state)
    (second : code.Ensures step other further trace state) :
    code.Ensures step (fun trace state => always trace state ∧ other trace state)
      (fun value trace state => post value trace state ∧ further value trace state)
      trace state := by
  induction code generalizing trace state with
  | done value => exact ⟨first, second⟩
  | act action next ih =>
    intro answer after stepped
    obtain ⟨kept, rest⟩ := first answer after stepped
    obtain ⟨alsoKept, alsoRest⟩ := second answer after stepped
    exact ⟨⟨kept, alsoKept⟩, ih answer rest alsoRest⟩

/-- What holds whatever the answers are holds if some answers are excluded. -/
theorem Ensures.fewer {narrower : σ → Entry S → σ → Prop} {post : α → Trace S → σ → Prop}
    {code : Code S α} {trace : Trace S} {state : σ}
    (ensures : code.Ensures step always post trace state)
    (possible : ∀ before entry after, narrower before entry after → step before entry after) :
    code.Ensures narrower always post trace state := by
  induction code generalizing trace state with
  | done value => exact ensures
  | act action next ih =>
    intro answer after stepped
    obtain ⟨kept, further⟩ := ensures answer after (possible _ _ _ stepped)
    exact ⟨kept, ih answer further⟩

/-- The trace grows by entries of the actions that the program is made of. -/
theorem ensures_within (step : σ → Entry S → σ → Prop) {actions : S.Action → Prop} {code : Code S α}
    (within : code.Within actions fun _ => True) (trace : Trace S) (state : σ) :
    code.Ensures step (fun later _ => ∃ further, later = trace ++ further ∧
        ∀ entry ∈ further, actions entry.action)
      (fun _ later _ => ∃ further, later = trace ++ further ∧
        ∀ entry ∈ further, actions entry.action) trace state := by
  have extended {first : Trace S} (grown : ∃ further, first = trace ++ further ∧
      ∀ entry ∈ further, actions entry.action) :
      code.Ensures step (fun later _ => ∃ further, later = trace ++ further ∧
          ∀ entry ∈ further, actions entry.action)
        (fun _ later _ => ∃ further, later = trace ++ further ∧
          ∀ entry ∈ further, actions entry.action) first state := by
    induction code generalizing first state with
    | done value => exact grown
    | act action next ih =>
      intro answer after _
      obtain ⟨further, rfl, each⟩ := grown
      have longer : ∃ more, trace ++ further ++ [(⟨action, answer⟩ : Entry S)] = trace ++ more ∧
          ∀ entry ∈ more, actions entry.action := by
        refine ⟨further ++ [⟨action, answer⟩], List.append_assoc .., ?_⟩
        rintro entry member
        rcases List.mem_append.mp member with earlier | last
        · exact each entry earlier
        · rw [List.mem_singleton.mp last]
          exact within.1
      exact ⟨longer, ih answer (within.2 answer) after longer⟩
  exact extended ⟨[], (List.append_nil trace).symm, nofun⟩

/-- What every action of a program keeps holds throughout, and at the end. -/
theorem ensures_kept {actions : S.Action → Prop} {values : α → Prop} {kept : Trace S → σ → Prop}
    {code : Code S α} (within : code.Within actions values)
    (keeps : ∀ trace before entry after, actions entry.action → step before entry after →
      kept trace before → kept (trace ++ [entry]) after) {trace : Trace S} {state : σ}
    (holds : kept trace state) :
    code.Ensures step kept (fun value later after => values value ∧ kept later after)
      trace state := by
  induction code generalizing trace state with
  | done value => exact ⟨within, holds⟩
  | act action next ih =>
    intro answer after stepped
    have further := keeps trace state ⟨action, answer⟩ after within.1 stepped holds
    exact ⟨further, ih answer (within.2 answer) further⟩

/-- What a program returns. -/
theorem ensures_values (step : σ → Entry S → σ → Prop) {actions : S.Action → Prop}
    {values : α → Prop} {code : Code S α} (within : code.Within actions values) (trace : Trace S)
    (state : σ) :
    code.Ensures step (fun _ _ => True) (fun value _ _ => values value) trace state := by
  induction code generalizing trace state with
  | done value => exact within
  | act action next ih => exact fun answer after _ => ⟨trivial, ih answer (within.2 answer) _ after⟩

/-! ## Runs keep what is ensured -/

theorem Performs.ensures {post : α → Trace S → σ → Prop} {code last : Code S α}
    {before after : σ} {trace : Trace S} (ran : Performs step code before trace last after)
    {earlier : Trace S} (holds : always earlier before)
    (ensures : code.Ensures step always post earlier before) :
    always (earlier ++ trace) after ∧
      last.Ensures step always post (earlier ++ trace) after := by
  induction ran generalizing earlier with
  | stop code state =>
    rw [List.append_nil]
    exact ⟨holds, ensures⟩
  | act stepped rest ih =>
    obtain ⟨kept, further⟩ := ensures _ _ stepped
    have reached := ih kept further
    rwa [List.append_assoc] at reached

/-- A run that has ended is in a state with the postcondition. -/
theorem Performs.ended {post : α → Trace S → σ → Prop} {code : Code S α} {value : α}
    {before after : σ} {trace : Trace S} (ran : Performs step code before trace (done value) after)
    {earlier : Trace S} (holds : always earlier before)
    (ensures : code.Ensures step always post earlier before) :
    post value (earlier ++ trace) after :=
  (ran.ensures holds ensures).2

theorem Performs.append {code middle last : Code S α} {before between after : σ}
    {first second : Trace S} (ran : Performs step code before first middle between)
    (further : Performs step middle between second last after) :
    Performs step code before (first ++ second) last after := by
  induction ran with
  | stop => exact further
  | act stepped _ ih => exact .act stepped (ih further)

/-- A run can be cut anywhere. -/
theorem Performs.split {code last : Code S α} {before after : σ} {first second : Trace S}
    (ran : Performs step code before (first ++ second) last after) :
    ∃ middle between, Performs step code before first middle between ∧
      Performs step middle between second last after := by
  induction first generalizing code before with
  | nil => exact ⟨code, before, .stop code before, ran⟩
  | cons entry rest ih =>
    cases ran with
    | act stepped further =>
      obtain ⟨middle, between, ran, finished⟩ := ih further
      exact ⟨middle, between, .act stepped ran, finished⟩

theorem Performs.of_nil {code last : Code S α} {before after : σ}
    (ran : Performs step code before [] last after) : last = code ∧ after = before := by
  cases ran
  exact ⟨rfl, rfl⟩

theorem Performs.last_step {code last : Code S α} {before after : σ} {trace : Trace S}
    {entry : Entry S} (ran : Performs step code before (trace ++ [entry]) last after) :
    ∃ middle between, Performs step code before trace middle between ∧
      step between entry after := by
  obtain ⟨middle, between, earlier, finished⟩ := ran.split
  cases finished with
  | act stepped rest =>
    obtain ⟨_, rfl⟩ := rest.of_nil
    exact ⟨_, between, earlier, stepped⟩

/-- What follows a program is still to run after a part of it. -/
theorem Performs.before_rest {code last : Code S α} {before after : σ} {trace : Trace S}
    (ran : Performs step code before trace last after) (rest : α → Code S β) :
    Performs step (code >>= rest) before trace (last >>= rest) after := by
  induction ran with
  | stop code state => exact .stop _ state
  | act stepped _ ih => exact .act stepped ih

theorem Performs.bind {code : Code S α} {rest : α → Code S β} {value : α} {before after : σ}
    {trace : Trace S} (ran : Performs step code before trace (done value) after) :
    Performs step (code >>= rest) before trace (rest value) after :=
  ran.before_rest rest

/-- A run whose entries all have a property is a run of the steps that have it. -/
theorem Serves.restrict {body : ν → Code S (Option ν)} {holds : Entry S → Prop}
    {code last : Code S (Option ν)} {before after : σ} {trace : Trace S}
    (ran : Serves body step code before trace last after) (each : ∀ entry ∈ trace, holds entry) :
    Serves body (fun before entry after => step before entry after ∧ holds entry)
      code before trace last after := by
  induction ran with
  | stop code state => exact .stop code state
  | act stepped _ ih =>
    obtain ⟨first, rest⟩ := List.forall_mem_cons.mp each
    exact .act ⟨stepped, first⟩ (ih rest)
  | enter _ ih => exact .enter (ih each)

/-- A run of the steps with a property is a run, and its entries have the property. -/
theorem Serves.relax {body : ν → Code S (Option ν)} {holds : Entry S → Prop}
    {code last : Code S (Option ν)} {before after : σ} {trace : Trace S}
    (ran : Serves body (fun before entry after => step before entry after ∧ holds entry)
      code before trace last after) :
    Serves body step code before trace last after ∧ ∀ entry ∈ trace, holds entry := by
  induction ran with
  | stop code state => exact ⟨.stop code state, nofun⟩
  | act stepped _ ih => exact ⟨.act stepped.1 ih.1, List.forall_mem_cons.mpr ⟨stepped.2, ih.2⟩⟩
  | enter _ ih => exact ⟨.enter ih.1, ih.2⟩

section Tasks

variable {body : ν → Code S (Option ν)} {inv : ν → Trace S → σ → Prop}
  {final : Trace S → σ → Prop}

/-- What holds when a program of a task ends: the invariant of the procedure it enters, or what is
claimed of a finished task. -/
def Exits (inv : ν → Trace S → σ → Prop) (final : Trace S → σ → Prop) :
    Option ν → Trace S → σ → Prop
  | some name, trace, state => inv name trace state
  | none, trace, state => final trace state

/-- If each body keeps the invariants of the procedures, so does every run of a task. -/
theorem Serves.ensures
    (bodies : ∀ name trace state, inv name trace state →
      (body name).Ensures step always (Exits inv final) trace state)
    {code last : Code S (Option ν)} {before after : σ} {trace : Trace S}
    (ran : Serves body step code before trace last after) {earlier : Trace S}
    (holds : always earlier before)
    (ensures : code.Ensures step always (Exits inv final) earlier before) :
    always (earlier ++ trace) after ∧
      last.Ensures step always (Exits inv final) (earlier ++ trace) after := by
  induction ran generalizing earlier with
  | stop code state =>
    rw [List.append_nil]
    exact ⟨holds, ensures⟩
  | act stepped _ ih =>
    obtain ⟨kept, further⟩ := ensures _ _ stepped
    have reached := ih kept further
    rwa [List.append_assoc] at reached
  | enter _ ih => exact ih holds (bodies _ _ _ ensures)

/-- A task whose procedures all keep to some actions performs no others. -/
theorem Serves.within {stays : ν → Prop} {actions : S.Action → Prop}
    (bodies : ∀ name, stays name → (body name).Within actions fun exit => ∀ next ∈ exit, stays next)
    {name : ν} {last : Code S (Option ν)} {before after : σ} {trace : Trace S} (begins : stays name)
    (ran : Serves body step (done (some name)) before trace last after) :
    ∀ entry ∈ trace, actions entry.action := by
  have only {code last : Code S (Option ν)} {before after : σ} {trace : Trace S}
      (within : code.Within actions fun exit => ∀ next ∈ exit, stays next)
      (ran : Serves body step code before trace last after) :
      ∀ entry ∈ trace, actions entry.action := by
    induction ran with
    | stop => nofun
    | act _ _ ih => exact List.forall_mem_cons.mpr ⟨within.1, ih (within.2 _)⟩
    | enter _ ih => exact ih (bodies _ (within _ rfl))
  refine only ?_ ran
  rintro next same
  obtain rfl := Option.some.inj same
  exact begins

theorem Serves.append {code middle last : Code S (Option ν)} {before between after : σ}
    {first second : Trace S} (ran : Serves body step code before first middle between)
    (further : Serves body step middle between second last after) :
    Serves body step code before (first ++ second) last after := by
  induction ran with
  | stop => exact further
  | act stepped _ ih => exact .act stepped (ih further)
  | enter _ ih => exact .enter (ih further)

/-- Any answer may come next. -/
theorem Serves.answered {action : S.Action} {next : S.Answer action → Code S (Option ν)}
    {answer : S.Answer action} {trace : Trace S} {last : Code S (Option ν)}
    (rest : Serves body AnyStep (next answer) () trace last ()) :
    Serves body AnyStep (Code.act action next) () (⟨action, answer⟩ :: trace) last () :=
  .act trivial rest

end Tasks

/-! ## Runs against a fixed environment -/

section Simulation

variable (respond : Trace S → σ → (action : S.Action) → σ × S.Answer action)

/-- The run of a program whose environment answers as `respond` says, given what happened before. -/
def simulate : Code S α → Trace S → σ → Trace S × σ × α
  | done value, trace, state => (trace, state, value)
  | act action next, trace, state =>
      let response := respond trace state action
      (next response.2).simulate (trace ++ [⟨action, response.2⟩]) response.1

/-- The run of a task through the given number of procedures. -/
def simulateTask (body : ν → Code S (Option ν)) :
    ℕ → Option ν → Trace S → σ → Trace S × σ × Option ν
  | 0, name, trace, state => (trace, state, name)
  | _ + 1, none, trace, state => (trace, state, none)
  | rounds + 1, some name, trace, state =>
      let ran := (body name).simulate respond trace state
      simulateTask body rounds ran.2.2 ran.1 ran.2.1

variable {respond}

theorem simulate_performs
    (possible : ∀ trace state action,
      step state ⟨action, (respond trace state action).2⟩ (respond trace state action).1)
    (code : Code S α) (trace : Trace S) (state : σ) :
    ∃ further, (code.simulate respond trace state).1 = trace ++ further ∧
      Performs step code state further (done (code.simulate respond trace state).2.2)
        (code.simulate respond trace state).2.1 := by
  induction code generalizing trace state with
  | done value => exact ⟨[], (List.append_nil trace).symm, .stop _ state⟩
  | act action next ih =>
    obtain ⟨further, whole, ran⟩ := ih (respond trace state action).2
      (trace ++ [⟨action, (respond trace state action).2⟩]) (respond trace state action).1
    refine ⟨⟨action, (respond trace state action).2⟩ :: further, ?_,
      .act (possible trace state action) ran⟩
    rw [simulate, whole, List.append_assoc, List.singleton_append]

theorem Performs.serves {body : ν → Code S (Option ν)} {code last : Code S (Option ν)}
    {before after : σ} {trace : Trace S} (ran : Performs step code before trace last after) :
    Serves body step code before trace last after := by
  induction ran with
  | stop code state => exact .stop code state
  | act stepped _ ih => exact .act stepped ih

theorem simulateTask_serves (body : ν → Code S (Option ν))
    (possible : ∀ trace state action,
      step state ⟨action, (respond trace state action).2⟩ (respond trace state action).1)
    (rounds : ℕ) (name : Option ν) (trace : Trace S) (state : σ) :
    ∃ further, (simulateTask respond body rounds name trace state).1 = trace ++ further ∧
      Serves body step (done name) state further
        (done (simulateTask respond body rounds name trace state).2.2)
        (simulateTask respond body rounds name trace state).2.1 := by
  induction rounds generalizing name trace state with
  | zero => exact ⟨[], (List.append_nil trace).symm, .stop _ state⟩
  | succ rounds ih =>
    cases name with
    | none => exact ⟨[], (List.append_nil trace).symm, .stop _ state⟩
    | some name =>
      obtain ⟨first, whole, ran⟩ := simulate_performs possible (body name) trace state
      obtain ⟨second, rest, serves⟩ := ih ((body name).simulate respond trace state).2.2
        ((body name).simulate respond trace state).1 ((body name).simulate respond trace state).2.1
      refine ⟨first ++ second, ?_, .enter (ran.serves.append serves)⟩
      rw [simulateTask, rest, whole, List.append_assoc]

end Simulation

end Code

end Async
