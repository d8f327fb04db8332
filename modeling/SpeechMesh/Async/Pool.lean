import SpeechMesh.Async.Code

/-! # Interleaved tasks and the replay of schedules

A machine interprets the actions over a shared state and names the procedures its tasks enter. A
world is that state with the pool of tasks. One step performs the next action of one task, or lets
a finished task enter the procedure it asked for, or is an event of the environment. Every run is
the replay of a schedule, so that it can be evaluated, and a property of all runs is a property of
all schedules.
-/

namespace Async

/-- What the actions do to the state. `exec` also sees the index of the performing task and the
number of tasks there are, the index of the next one; an action without a result waits. A body sees
the index of the task that runs it, which names the ends of the channels made for that task. -/
structure Machine (S : Signature) where
  State : Type
  Name : Type
  Event : Type
  exec : ℕ → ℕ → State → (action : S.Action) → Option (State × S.Answer action)
  spawns : S.Action → List Name
  occur : ℕ → State → Event → Option (State × List Name)
  body : ℕ → Name → Code S (Option Name)

variable {S : Signature}

/-- A task inside a procedure. Its remaining program ends with the procedure it enters next. -/
structure Task (M : Machine S) where
  name : M.Name
  code : Code S (Option M.Name)

/-- A spawned task is about to enter its first procedure. -/
def Machine.launch (M : Machine S) (name : M.Name) : Task M := ⟨name, .done (some name)⟩

structure World (M : Machine S) where
  state : M.State
  tasks : List (Task M)

inductive Choice (M : Machine S) where
  | task (index : ℕ)
  | event (event : M.Event)

namespace World

variable {M : Machine S}

/-- The next step of one task; a finished task and an action that waits have none. -/
def advance? (world : World M) (index : ℕ) : Option (World M) :=
  match world.tasks[index]? with
  | none => none
  | some task =>
    match task.code with
    | .done none => none
    | .done (some name) =>
        some { world with tasks := world.tasks.set index ⟨name, M.body index name⟩ }
    | .act action next =>
        (M.exec index world.tasks.length world.state action).map fun result =>
          ⟨result.1, world.tasks.set index ⟨task.name, next result.2⟩ ++
            (M.spawns action).map M.launch⟩

def step? (world : World M) : Choice M → Option (World M)
  | .task index => world.advance? index
  | .event event => (M.occur world.tasks.length world.state event).map fun result =>
      ⟨result.1, world.tasks ++ result.2.map M.launch⟩

/-- The world a schedule leads to, if each of its choices is possible. -/
def replay? : World M → List (Choice M) → Option (World M)
  | world, [] => some world
  | world, choice :: rest => (world.step? choice).bind fun next => replay? next rest

/-- Every step of the replay is taken in a world where `holds` is true of it. -/
def Along (holds : World M → Choice M → Prop) : World M → List (Choice M) → Prop
  | _, [] => True
  | world, choice :: rest =>
      holds world choice ∧ ∀ next, world.step? choice = some next → Along holds next rest

theorem replay?_append (world : World M) (first second : List (Choice M)) :
    world.replay? (first ++ second) =
      (world.replay? first).bind fun middle => middle.replay? second := by
  induction first generalizing world with
  | nil => rfl
  | cons choice rest ih => simp only [List.cons_append, replay?, ih, Option.bind_assoc]

/-- What holds along a schedule holds at each of its steps. -/
theorem Along.at {holds : World M → Choice M → Prop} {world middle : World M}
    {first rest : List (Choice M)} {choice : Choice M}
    (along : Along holds world (first ++ choice :: rest))
    (ran : world.replay? first = some middle) : holds middle choice := by
  induction first generalizing world with
  | nil =>
    obtain rfl := Option.some.inj ran
    exact along.1
  | cons head tail ih =>
    obtain ⟨next, stepped, ran⟩ := Option.bind_eq_some_iff.mp ran
    exact ih (along.2 next stepped) ran

theorem Along.step {holds : World M → Choice M → Prop} {world next : World M}
    {choice : Choice M} {rest : List (Choice M)} (now : holds world choice)
    (stepped : world.step? choice = some next) (along : Along holds next rest) :
    Along holds world (choice :: rest) :=
  ⟨now, fun _ same => Option.some.inj (stepped.symm.trans same) ▸ along⟩

theorem Along.append {holds : World M → Choice M → Prop} {world : World M}
    {first rest : List (Choice M)} (along : Along holds world first)
    (further : ∀ middle, world.replay? first = some middle → Along holds middle rest) :
    Along holds world (first ++ rest) := by
  induction first generalizing world with
  | nil => exact further world rfl
  | cons head tail ih =>
    refine ⟨along.1, fun next stepped => ih (along.2 next stepped) fun middle ran => ?_⟩
    exact further middle (Option.bind_eq_some_iff.mpr ⟨next, stepped, ran⟩)

theorem Along.imp {weak strong : World M → Choice M → Prop} {world : World M}
    {schedule : List (Choice M)} (along : Along strong world schedule)
    (weaker : ∀ world choice, strong world choice → weak world choice) :
    Along weak world schedule := by
  induction schedule generalizing world with
  | nil => trivial
  | cons choice rest ih =>
    exact ⟨weaker _ _ along.1, fun next stepped => ih (along.2 next stepped)⟩

theorem Along.always {holds : World M → Choice M → Prop}
    (always : ∀ world choice, holds world choice) (world : World M) (schedule : List (Choice M)) :
    Along holds world schedule := by
  induction schedule generalizing world with
  | nil => trivial
  | cons choice rest ih => exact ⟨always world choice, fun next _ => ih next⟩

/-- What holds in every world that can be reached holds along every schedule. -/
theorem Along.of_reached {holds : World M → Choice M → Prop} {world : World M}
    (reached : ∀ {first middle}, world.replay? first = some middle → ∀ choice, holds middle choice)
    (schedule : List (Choice M)) : Along holds world schedule := by
  induction schedule generalizing world with
  | nil => trivial
  | cons choice rest ih =>
    refine ⟨@reached [] _ rfl choice, fun next stepped => ih fun {first middle} ran => ?_⟩
    refine @reached (choice :: first) _ (by rw [replay?, stepped]; exact ran)

theorem Along.and {left right : World M → Choice M → Prop} {world : World M}
    {schedule : List (Choice M)} (first : Along left world schedule)
    (second : Along right world schedule) :
    Along (fun world choice => left world choice ∧ right world choice) world schedule := by
  induction schedule generalizing world with
  | nil => trivial
  | cons choice rest ih =>
    exact ⟨⟨first.1, second.1⟩, fun next stepped =>
      ih (first.2 next stepped) (second.2 next stepped)⟩

/-- The procedure a task is executing and its next action, as a property of a step. -/
def OnAction (holds : ℕ → M.Name → M.State → S.Action → Prop) (world : World M) :
    Choice M → Prop
  | .event _ => True
  | .task index =>
    match world.tasks[index]? with
    | some ⟨name, .act action _⟩ => holds index name world.state action
    | _ => True

/-- What a task's next action does to the state, as a property of a step. -/
def OnEffect (holds : ℕ → M.Name → S.Action → M.State → M.State → Prop) (world : World M) :
    Choice M → Prop
  | .event _ => True
  | .task index =>
    match world.tasks[index]? with
    | some ⟨name, .act action _⟩ => ∀ after answer,
        M.exec index world.tasks.length world.state action = some (after, answer) →
          holds index name action world.state after
    | _ => True

/-- The procedure a task is about to enter, as a property of a step. -/
def OnEntry (holds : ℕ → M.Name → M.State → Prop) (world : World M) : Choice M → Prop
  | .event _ => True
  | .task index =>
    match world.tasks[index]? with
    | some ⟨_, .done (some name)⟩ => holds index name world.state
    | _ => True

/-- An event of the environment, as a property of a step. -/
def OnEvent (holds : M.State → M.Event → Prop) (world : World M) : Choice M → Prop
  | .event event => holds world.state event
  | .task _ => True

theorem OnEffect.imp {weak strong : ℕ → M.Name → S.Action → M.State → M.State → Prop}
    {world : World M} {choice : Choice M} (effect : OnEffect strong world choice)
    (weaker : ∀ index name action after, strong index name action world.state after →
      weak index name action world.state after) : OnEffect weak world choice := by
  cases choice with
  | event event => trivial
  | task index =>
    simp only [OnEffect] at effect ⊢
    split
    · rename_i name action next found
      simp only [found] at effect
      exact fun after answer ran => weaker _ _ _ _ (effect after answer ran)
    · trivial

theorem OnAction.imp {weak strong : ℕ → M.Name → M.State → S.Action → Prop}
    {world : World M} {choice : Choice M} (inAdvance : OnAction strong world choice)
    (weaker : ∀ index name action, strong index name world.state action →
      weak index name world.state action) : OnAction weak world choice := by
  cases choice with
  | event event => trivial
  | task index =>
    simp only [OnAction] at inAdvance ⊢
    split
    · rename_i name action next found
      simp only [found] at inAdvance
      exact weaker _ _ _ inAdvance
    · trivial

/-- What holds of an action in advance holds of it when it is performed. -/
theorem OnAction.effect {holds : ℕ → M.Name → M.State → S.Action → Prop} {world : World M}
    {choice : Choice M} (inAdvance : OnAction holds world choice) :
    OnEffect (fun index name action before _ => holds index name before action) world choice := by
  cases choice with
  | event event => trivial
  | task index =>
    simp only [OnEffect]
    split
    · rename_i name action next found
      simp only [OnAction, found] at inAdvance
      exact fun _ _ _ => inAdvance
    · trivial

theorem OnEffect.performed {holds : ℕ → M.Name → S.Action → M.State → M.State → Prop}
    {world : World M} {index : ℕ} {name : M.Name} {action : S.Action}
    {next : S.Answer action → Code S (Option M.Name)} {after : M.State} {answer : S.Answer action}
    (effect : OnEffect holds world (.task index))
    (found : world.tasks[index]? = some ⟨name, .act action next⟩)
    (ran : M.exec index world.tasks.length world.state action = some (after, answer)) :
    holds index name action world.state after := by
  simp only [OnEffect, found] at effect
  exact effect after answer ran

theorem OnEffect.always {holds : ℕ → M.Name → S.Action → M.State → M.State → Prop}
    (always : ∀ index name action before after, holds index name action before after)
    (world : World M) (choice : Choice M) : OnEffect holds world choice := by
  cases choice with
  | event event => trivial
  | task index =>
    simp only [OnEffect]
    split
    · exact fun _ _ _ => always ..
    · trivial

theorem OnEntry.always {holds : ℕ → M.Name → M.State → Prop}
    (always : ∀ index name state, holds index name state) (world : World M) (choice : Choice M) :
    OnEntry holds world choice := by
  cases choice with
  | event event => trivial
  | task index =>
    simp only [OnEntry]
    split
    · exact always ..
    · trivial

theorem OnEvent.always {holds : M.State → M.Event → Prop}
    (always : ∀ state event, holds state event) (world : World M) (choice : Choice M) :
    OnEvent holds world choice := by
  cases choice with
  | event event => exact always ..
  | task index => trivial

/-- Everything a step can do: a task entered a procedure, a task acted, or an event occurred. -/
theorem step?_cases {world next : World M} {choice : Choice M}
    (stepped : world.step? choice = some next) :
    (∃ index name entered, choice = .task index ∧
      world.tasks[index]? = some ⟨name, .done (some entered)⟩ ∧
      next = ⟨world.state, world.tasks.set index ⟨entered, M.body index entered⟩⟩) ∨
    (∃ index name action rest state answer, choice = .task index ∧
      world.tasks[index]? = some ⟨name, .act action rest⟩ ∧
      M.exec index world.tasks.length world.state action = some (state, answer) ∧
      next = ⟨state, world.tasks.set index ⟨name, rest answer⟩ ++
        (M.spawns action).map M.launch⟩) ∨
    (∃ event state spawned, choice = .event event ∧
      M.occur world.tasks.length world.state event = some (state, spawned) ∧
      next = ⟨state, world.tasks ++ spawned.map M.launch⟩) := by
  cases choice with
  | task index =>
    simp only [step?, advance?] at stepped
    split at stepped
    · cases stepped
    · rename_i task found
      obtain ⟨name, code⟩ := task
      cases code with
      | done exit =>
        cases exit with
        | none => cases stepped
        | some entered =>
          exact .inl ⟨index, name, entered, rfl, found, (Option.some.inj stepped).symm⟩
      | act action rest =>
        obtain ⟨⟨state, answer⟩, ran, rfl⟩ := Option.map_eq_some_iff.mp stepped
        exact .inr (.inl ⟨index, name, action, rest, state, answer, rfl, found, ran, rfl⟩)
  | event event =>
    obtain ⟨⟨state, spawned⟩, occurred, rfl⟩ := Option.map_eq_some_iff.mp stepped
    exact .inr (.inr ⟨event, state, spawned, rfl, occurred, rfl⟩)

theorem step?_entered {world : World M} {index : ℕ} {name entered : M.Name}
    (found : world.tasks[index]? = some ⟨name, .done (some entered)⟩) :
    ∃ next, world.step? (.task index) = some next ∧ next.state = world.state ∧
      next.tasks[index]? = some ⟨entered, M.body index entered⟩ := by
  have bound := (List.getElem?_eq_some_iff.mp found).1
  refine ⟨⟨world.state, world.tasks.set index ⟨entered, M.body index entered⟩⟩, ?_, rfl, ?_⟩
  · simp only [step?, advance?, found]
  · rw [List.getElem?_set_self bound]

theorem step?_acted {world : World M} {index : ℕ} {name : M.Name} {action : S.Action}
    {rest : S.Answer action → Code S (Option M.Name)} {after : M.State} {answer : S.Answer action}
    (found : world.tasks[index]? = some ⟨name, .act action rest⟩)
    (ran : M.exec index world.tasks.length world.state action = some (after, answer)) :
    ∃ next, world.step? (.task index) = some next ∧ next.state = after ∧
      next.tasks[index]? = some ⟨name, rest answer⟩ := by
  have bound := (List.getElem?_eq_some_iff.mp found).1
  refine ⟨⟨after, world.tasks.set index ⟨name, rest answer⟩ ++
    (M.spawns action).map M.launch⟩, ?_, rfl, ?_⟩
  · simp only [step?, advance?, found, ran, Option.map_some]
  · rw [List.getElem?_append_left (by rwa [List.length_set]), List.getElem?_set_self bound]

/-- A step of another task, or an event, leaves a task where it is. -/
theorem step?_keeps {world next : World M} {choice : Choice M} {index : ℕ} {task : Task M}
    (stepped : world.step? choice = some next) (found : world.tasks[index]? = some task)
    (other : ∀ acting, choice = .task acting → acting ≠ index) :
    next.tasks[index]? = some task := by
  have bound := (List.getElem?_eq_some_iff.mp found).1
  rcases step?_cases stepped with
    ⟨acting, name, entered, rfl, _, rfl⟩ | ⟨acting, name, action, rest, state, answer, rfl, _, _, rfl⟩ |
    ⟨event, state, spawned, rfl, _, rfl⟩
  · rw [List.getElem?_set_ne (other acting rfl), found]
  · rw [List.getElem?_append_left (by rwa [List.length_set]),
      List.getElem?_set_ne (other acting rfl), found]
  · rw [List.getElem?_append_left bound, found]

/-- What every action and every event keeps holds in every world a schedule leads to. -/
theorem replay?_state {holds : M.State → Prop} {world last : World M} {schedule : List (Choice M)}
    (action : ∀ {index size state action after answer}, holds state →
      M.exec index size state action = some (after, answer) → holds after)
    (event : ∀ {size state event after spawned}, holds state →
      M.occur size state event = some (after, spawned) → holds after)
    (start : holds world.state) (ran : world.replay? schedule = some last) :
    holds last.state := by
  induction schedule generalizing world with
  | nil =>
    obtain rfl := Option.some.inj ran
    exact start
  | cons choice rest ih =>
    obtain ⟨next, stepped, ran⟩ := Option.bind_eq_some_iff.mp ran
    refine ih ?_ ran
    rcases step?_cases stepped with
      ⟨_, _, _, _, _, rfl⟩ | ⟨_, _, _, _, _, _, _, _, performed, rfl⟩ |
      ⟨_, _, _, _, occurred, rfl⟩
    · exact start
    · exact action start performed
    · exact event start occurred

end World

end Async
