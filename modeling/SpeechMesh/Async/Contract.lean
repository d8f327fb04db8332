import SpeechMesh.Async.Pool

/-! # Rely–guarantee contracts

A contract describes a pool: an invariant of the state, what each task relies on the others not to
do, the precondition of each procedure, and what every action guarantees. Each procedure is proved
alone, by walking its program once with assertions that survive the steps of the other tasks, and
`Contract.Good.along` puts the procedures together for every schedule. The contract also names the steps
it is about: the conclusions are for the schedules whose steps all meet these conditions.
-/

namespace Async

variable {S : Signature} {M : Machine S}

/-- `allowed`, `enters` and `occurs` are conditions on the steps of a schedule; the rest is what
the proof of the pool establishes from them. The invariant also sees the number of tasks. What a
task relies on is closed under doing nothing and doing more. -/
structure Contract (M : Machine S) where
  allowed : ℕ → M.Name → S.Action → M.State → M.State → Prop
  enters : ℕ → M.Name → M.State → Prop
  occurs : M.State → M.Event → Prop
  inv : ℕ → M.State → Prop
  rely : ℕ → M.State → M.State → Prop
  pre : ℕ → M.Name → M.State → Prop
  guar : ℕ → M.Name → S.Action → M.State → M.State → Prop
  rely_refl : ∀ index state, rely index state state
  rely_trans : ∀ {index first middle last}, rely index first middle → rely index middle last →
    rely index first last

namespace Contract

variable (C : Contract M)

/-- The steps the contract is about. -/
def Meets (world : World M) (choice : Choice M) : Prop :=
  world.OnEffect C.allowed choice ∧ world.OnEntry C.enters choice ∧ world.OnEvent C.occurs choice

/-- A contract about all schedules. -/
structure Unconditional : Prop where
  allowed : ∀ index name action before after, C.allowed index name action before after
  enters : ∀ index name state, C.enters index name state
  occurs : ∀ state event, C.occurs state event

theorem Unconditional.meets {C : Contract M} (unconditional : C.Unconditional) (world : World M)
    (choice : Choice M) : C.Meets world choice :=
  ⟨.always unconditional.allowed world choice, .always unconditional.enters world choice,
    .always unconditional.occurs world choice⟩

variable {α β : Type} {index : ℕ} {name : M.Name}

/-- From this state on, whatever the other tasks do within the rely, the program keeps the
guarantee at each of its actions and ends in `post`. -/
def Safe (index : ℕ) (name : M.Name) :
    Code S α → (α → M.State → Prop) → M.State → Prop
  | .done value, post, state => ∀ size later, index < size → C.rely index state later →
      C.inv size later → post value later
  | .act action next, post, state => ∀ size later, index < size → C.rely index state later →
      C.inv size later → ∀ after answer, C.allowed index name action later after →
      M.exec index size later action = some (after, answer) →
        C.guar index name action later after ∧
        (C.inv (size + (M.spawns action).length) after → Safe index name (next answer) post after)

/-- The procedure entered next starts in its precondition. -/
def Exits (index : ℕ) : Option M.Name → M.State → Prop
  | none, _ => True
  | some entered, state => C.pre index entered state

/-- What has to be proved once: each procedure keeps its guarantee, and the guarantees keep the
invariant and stay within what the other tasks rely on. -/
structure Valid : Prop where
  pre_stable : ∀ {index name size state later}, index < size → C.pre index name state →
    C.rely index state later → C.inv size later → C.pre index name later
  body : ∀ {index name size state}, index < size → C.inv size state →
    C.enters index name state → C.pre index name state →
      C.Safe index name (M.body index name) (C.Exits index) state
  action : ∀ {index name size state action after answer}, index < size → C.inv size state →
    C.allowed index name action state after → C.guar index name action state after →
    M.exec index size state action = some (after, answer) →
      C.inv (size + (M.spawns action).length) after ∧
      (∀ other, other ≠ index → other < size → C.rely other state after) ∧
      (∀ offset spawned, (M.spawns action)[offset]? = some spawned →
        C.pre (size + offset) spawned after)
  event : ∀ {size state event after spawned}, C.inv size state → C.occurs state event →
    M.occur size state event = some (after, spawned) →
      C.inv (size + spawned.length) after ∧
      (∀ other, other < size → C.rely other state after) ∧
      (∀ offset entered, spawned[offset]? = some entered → C.pre (size + offset) entered after)

/-- The invariant holds and every task is safe. -/
structure Good (world : World M) : Prop where
  inv : C.inv world.tasks.length world.state
  safe : ∀ index task, world.tasks[index]? = some task →
    C.Safe index task.name task.code (C.Exits index) world.state

variable {C}

theorem Safe.later {code : Code S α} {post : α → M.State → Prop}
    {state later : M.State} (safe : C.Safe index name code post state)
    (rely : C.rely index state later) : C.Safe index name code post later := by
  cases code with
  | done value =>
    intro size last bound further
    exact safe size last bound (C.rely_trans rely further)
  | act action next =>
    intro size last bound further
    exact safe size last bound (C.rely_trans rely further)

theorem Safe.launch (valid : C.Valid) {entered current : M.Name} {state : M.State}
    (pre : C.pre index entered state) :
    C.Safe index current (.done (some entered)) (C.Exits index) state :=
  fun _ _ bound rely inv => valid.pre_stable bound pre rely inv

/-- A list of tasks extended by launched procedures: each element is an old one or a new one. -/
private theorem getElem?_append_launch {tasks : List (Task M)} {spawned : List M.Name}
    {position : ℕ} {task : Task M}
    (found : (tasks ++ spawned.map M.launch)[position]? = some task) :
    tasks[position]? = some task ∨ ∃ offset entered, position = tasks.length + offset ∧
      spawned[offset]? = some entered ∧ task = M.launch entered := by
  rw [List.getElem?_append] at found
  split at found
  · exact .inl found
  · rename_i outside
    rw [List.getElem?_map] at found
    obtain ⟨entered, present, rfl⟩ := Option.map_eq_some_iff.mp found
    exact .inr ⟨position - tasks.length, entered, by omega, present, rfl⟩

private theorem getElem?_set_cases {tasks : List (Task M)} {replaced task : Task M}
    {position : ℕ} (found : (tasks.set index replaced)[position]? = some task) :
    (position = index ∧ task = replaced) ∨ (position ≠ index ∧ tasks[position]? = some task) := by
  by_cases same : position = index
  · subst same
    have bound := (List.getElem?_eq_some_iff.mp found).1
    rw [List.length_set] at bound
    rw [List.getElem?_set_self bound] at found
    exact .inl ⟨rfl, (Option.some.inj found).symm⟩
  · rw [List.getElem?_set_ne (Ne.symm same)] at found
    exact .inr ⟨same, found⟩

/-- One step: good worlds stay good, and the action performed keeps its guarantee. -/
theorem Good.step (valid : C.Valid) {world next : World M} {choice : Choice M}
    (good : C.Good world) (meets : C.Meets world choice)
    (stepped : world.step? choice = some next) :
    C.Good next ∧ world.OnEffect C.guar choice := by
  obtain ⟨allowed, enters, occurs⟩ := meets
  rcases World.step?_cases stepped with
    ⟨index, name, entered, rfl, found, rfl⟩ |
    ⟨index, name, action, rest, state, answer, rfl, found, ran, rfl⟩ |
    ⟨event, state, spawned, rfl, occurred, rfl⟩
  · -- the task enters a procedure: the state is unchanged and its precondition holds
    have bound := (List.getElem?_eq_some_iff.mp found).1
    simp only [World.OnEntry, found] at enters
    have pre : C.pre index entered world.state :=
      good.safe index _ found _ _ bound (C.rely_refl _ _) good.inv
    refine ⟨⟨by simpa only [List.length_set] using good.inv, ?_⟩, by
      simp only [World.OnEffect, found]⟩
    intro position task present
    rcases getElem?_set_cases present with ⟨rfl, rfl⟩ | ⟨_, present⟩
    · exact valid.body bound good.inv enters pre
    · exact good.safe position task present
  · -- the task acts: its program goes on, the others rely on what it guarantees
    have bound := (List.getElem?_eq_some_iff.mp found).1
    simp only [World.OnEffect, found] at allowed
    have allowed := allowed _ _ ran
    obtain ⟨guar, continues⟩ := good.safe index _ found _ _ bound (C.rely_refl _ _) good.inv
      _ _ allowed ran
    obtain ⟨inv, relies, launched⟩ := valid.action bound good.inv allowed guar ran
    have acted : world.OnEffect C.guar (.task index) := by
      simp only [World.OnEffect, found]
      intro after reply performed
      rw [ran] at performed
      obtain ⟨rfl, rfl⟩ := Prod.mk.inj (Option.some.inj performed)
      exact guar
    refine ⟨⟨?_, ?_⟩, acted⟩
    · simpa only [List.length_append, List.length_set, List.length_map] using inv
    · intro position task present
      rcases getElem?_append_launch present with present | ⟨offset, entered, at_, spawned, rfl⟩
      · rcases getElem?_set_cases present with ⟨rfl, rfl⟩ | ⟨other, present⟩
        · exact continues inv
        · have inside := (List.getElem?_eq_some_iff.mp present).1
          exact (good.safe position task present).later (relies position other inside)
      · rw [List.length_set] at at_
        rw [at_]
        exact .launch valid (launched offset entered spawned)
  · -- an event: every task relies on it
    obtain ⟨inv, relies, launched⟩ := valid.event good.inv occurs occurred
    refine ⟨⟨?_, ?_⟩, trivial⟩
    · simpa only [List.length_append, List.length_map] using inv
    · intro position task present
      rcases getElem?_append_launch present with present | ⟨offset, entered, at_, appeared, rfl⟩
      · have inside := (List.getElem?_eq_some_iff.mp present).1
        exact (good.safe position task present).later (relies position inside)
      · rw [at_]
        exact .launch valid (launched offset entered appeared)

/-- Every world a schedule leads to is good. -/
theorem Good.replay (valid : C.Valid) {world last : World M} {schedule : List (Choice M)}
    (good : C.Good world) (meets : World.Along C.Meets world schedule)
    (ran : world.replay? schedule = some last) : C.Good last := by
  induction schedule generalizing world with
  | nil => cases ran; exact good
  | cons choice rest ih =>
    obtain ⟨next, stepped, ran⟩ := Option.bind_eq_some_iff.mp ran
    exact ih (good.step valid meets.1 stepped).1 (meets.2 next stepped) ran

/-- Every action along a schedule keeps its guarantee. -/
theorem Good.along (valid : C.Valid) {world : World M} {schedule : List (Choice M)}
    (good : C.Good world) (meets : World.Along C.Meets world schedule) :
    World.Along (World.OnEffect C.guar) world schedule := by
  induction schedule generalizing world with
  | nil => trivial
  | cons choice rest ih =>
    refine ⟨?_, fun next stepped => ih (good.step valid meets.1 stepped).1 (meets.2 next stepped)⟩
    cases stepped : world.step? choice with
    | some next => exact (good.step valid meets.1 stepped).2
    | none =>
      -- a choice that is not possible has no effect
      cases choice with
      | event event => trivial
      | task index =>
        simp only [World.OnEffect]
        split
        · rename_i name action rest found
          intro after answer performed
          simp [World.step?, World.advance?, found, performed] at stepped
        · trivial

/-- Every procedure entered along a schedule is entered in its precondition. -/
theorem Good.entries (valid : C.Valid) {world : World M} {schedule : List (Choice M)}
    (good : C.Good world) (meets : World.Along C.Meets world schedule) :
    World.Along (World.OnEntry C.pre) world schedule := by
  induction schedule generalizing world with
  | nil => trivial
  | cons choice rest ih =>
    refine ⟨?_, fun next stepped => ih (good.step valid meets.1 stepped).1 (meets.2 next stepped)⟩
    cases choice with
    | event event => trivial
    | task index =>
      simp only [World.OnEntry]
      split
      · rename_i name entered found
        have bound := (List.getElem?_eq_some_iff.mp found).1
        exact good.safe index _ found _ _ bound (C.rely_refl _ _) good.inv
      · trivial

/-! ## Rules for programs -/

variable (C) in
/-- The assertion survives what the other tasks do. -/
def Stable (index : ℕ) (assertion : M.State → Prop) : Prop :=
  ∀ size state later, index < size → assertion state → C.rely index state later →
    C.inv size later → assertion later

variable (C) in
/-- Started in `before`, the program keeps the guarantee and ends in `post`. -/
def Triple (index : ℕ) (name : M.Name) (before : M.State → Prop) (code : Code S α)
    (post : α → M.State → Prop) : Prop :=
  ∀ size state, index < size → C.inv size state → before state →
    C.Safe index name code post state

variable {before : M.State → Prop}

theorem Triple.done {value : α} {post : α → M.State → Prop} (stable : C.Stable index before)
    (holds : ∀ size state, index < size → C.inv size state → before state → post value state) :
    C.Triple index name before (.done value) post :=
  fun _ _ _ _ pre size later bound rely inv =>
    holds size later bound inv (stable size _ later bound pre rely inv)

theorem Triple.act {action : S.Action} {next : S.Answer action → Code S α}
    {middle : S.Answer action → M.State → Prop} {post : α → M.State → Prop}
    (stable : C.Stable index before)
    (effect : ∀ size state after answer, index < size → C.inv size state → before state →
      C.allowed index name action state after → M.exec index size state action = some (after, answer) →
        C.guar index name action state after ∧
        (C.inv (size + (M.spawns action).length) after → middle answer after))
    (rest : ∀ answer, C.Triple index name (middle answer) (next answer) post) :
    C.Triple index name before (.act action next) post := by
  intro _ _ _ _ pre size later bound rely inv after answer allowed ran
  obtain ⟨guar, holds⟩ :=
    effect size later after answer bound inv (stable size _ later bound pre rely inv) allowed ran
  exact ⟨guar, fun invAfter => rest answer _ after (by omega) invAfter (holds invAfter)⟩

/-- An action that keeps the assertion, whatever it answers. -/
theorem Triple.keep {action : S.Action} {next : S.Answer action → Code S α}
    {post : α → M.State → Prop} (stable : C.Stable index before)
    (effect : ∀ size state after answer, index < size → C.inv size state → before state →
      C.allowed index name action state after → M.exec index size state action = some (after, answer) →
        C.guar index name action state after ∧
        (C.inv (size + (M.spawns action).length) after → before after))
    (rest : ∀ answer, C.Triple index name before (next answer) post) :
    C.Triple index name before (.act action next) post :=
  .act stable effect rest

theorem Triple.perform {action : S.Action} {post : S.Answer action → M.State → Prop}
    (stable : C.Stable index before) (postStable : ∀ answer, C.Stable index (post answer))
    (effect : ∀ size state after answer, index < size → C.inv size state → before state →
      C.allowed index name action state after → M.exec index size state action = some (after, answer) →
        C.guar index name action state after ∧
        (C.inv (size + (M.spawns action).length) after → post answer after)) :
    C.Triple index name before (Code.perform action) post :=
  .act stable effect fun answer => .done (postStable answer) fun _ _ _ _ holds => holds

theorem Safe.bind {code : Code S α} {rest : α → Code S β} {middle : α → M.State → Prop}
    {post : β → M.State → Prop} {size : ℕ} {state : M.State}
    (bound : index < size) (inv : C.inv size state)
    (first : C.Safe index name code middle state)
    (second : ∀ value, C.Triple index name (middle value) (rest value) post) :
    C.Safe index name (code >>= rest) post state := by
  induction code generalizing state size with
  | done value =>
    exact second value size state bound inv (first size state bound (C.rely_refl _ _) inv)
  | act action next ih =>
    intro larger later inside rely invLater after answer allowed ran
    obtain ⟨guar, continues⟩ := first larger later inside rely invLater after answer allowed ran
    exact ⟨guar, fun invAfter => ih answer (by omega) invAfter (continues invAfter)⟩

theorem Triple.bind {code : Code S α} {rest : α → Code S β}
    {middle : α → M.State → Prop} {post : β → M.State → Prop}
    (first : C.Triple index name before code middle)
    (second : ∀ value, C.Triple index name (middle value) (rest value) post) :
    C.Triple index name before (code >>= rest) post :=
  fun size state bound inv pre => (first size state bound inv pre).bind bound inv second

theorem Safe.mono {code : Code S α} {strong weak : α → M.State → Prop} {size : ℕ}
    {state : M.State} (safe : C.Safe index name code strong state) (sized : index < size)
    (weaker : ∀ value size state, index < size → C.inv size state → strong value state →
      weak value state) : C.Safe index name code weak state := by
  induction code generalizing state size with
  | done value =>
    intro larger later bound rely inv
    exact weaker value larger later bound inv (safe larger later bound rely inv)
  | act action next ih =>
    intro larger later bound rely inv after answer allowed ran
    obtain ⟨guar, continues⟩ := safe larger later bound rely inv after answer allowed ran
    exact ⟨guar, fun invAfter => ih answer (continues invAfter) sized⟩

theorem Triple.consequence {code : Code S α} {stronger : M.State → Prop}
    {strong weak : α → M.State → Prop} (triple : C.Triple index name before code strong)
    (first : ∀ size state, index < size → C.inv size state → stronger state → before state)
    (last : ∀ value size state, index < size → C.inv size state → strong value state →
      weak value state) : C.Triple index name stronger code weak :=
  fun size state bound inv pre =>
    (triple size state bound inv (first size state bound inv pre)).mono bound last

theorem Triple.post {code : Code S α} {strong weak : α → M.State → Prop}
    (triple : C.Triple index name before code strong)
    (last : ∀ value size state, index < size → C.inv size state → strong value state →
      weak value state) : C.Triple index name before code weak :=
  triple.consequence (fun _ _ _ _ pre => pre) last

/-- A pure precondition may be assumed. -/
theorem Triple.assume {code : Code S α} {fact : Prop} {post : α → M.State → Prop}
    (holds : ∀ size state, index < size → C.inv size state → before state → fact)
    (triple : fact → C.Triple index name before code post) :
    C.Triple index name before code post :=
  fun size state bound inv pre => triple (holds size state bound inv pre) size state bound inv pre

theorem Triple.exists {ι : Type} {code : Code S α} {before : ι → M.State → Prop}
    {post : α → M.State → Prop} (triple : ∀ witness, C.Triple index name (before witness) code post) :
    C.Triple index name (fun state => ∃ witness, before witness state) code post :=
  fun size state bound inv ⟨witness, pre⟩ => triple witness size state bound inv pre

/-- Visiting a list keeps an assertion about what is left to visit. -/
theorem Triple.each {ι : Type} {visit : ι → Code S Unit}
    (remaining : List ι → M.State → Prop) {items : List ι}
    (visits : ∀ item rest, item :: rest <:+ items →
      C.Triple index name (remaining (item :: rest)) (visit item) fun _ => remaining rest)
    (stable : C.Stable index (remaining [])) :
    C.Triple index name (remaining items) (Code.each items visit) fun _ => remaining [] := by
  induction items with
  | nil => exact .done stable fun _ _ _ _ holds => holds
  | cons item rest ih =>
    refine .bind (visits item rest List.suffix_rfl) fun _ => ih fun other tail suffix => ?_
    exact visits other tail (suffix.trans (List.suffix_cons item rest))

theorem Triple.forEach {ι : Type} {items : List ι} {visit : ι → Code S Unit}
    (stable : C.Stable index before)
    (visits : ∀ item ∈ items, C.Triple index name before (visit item) fun _ => before) :
    C.Triple index name before (Code.each items visit) fun _ => before := by
  induction items with
  | nil => exact .done stable fun _ _ _ _ holds => holds
  | cons item rest ih =>
    refine .bind (visits item (List.mem_cons_self ..)) fun _ => ih fun other member => ?_
    exact visits other (List.mem_cons_of_mem _ member)

/-- A program that only performs actions which keep an assertion and the guarantee. -/
theorem Triple.within {code : Code S α} {actions : S.Action → Prop} {values : α → Prop}
    (within : code.Within actions values) (stable : C.Stable index before)
    (effect : ∀ action, actions action → ∀ size state after answer, index < size →
      C.inv size state → before state → C.allowed index name action state after →
      M.exec index size state action = some (after, answer) →
        C.guar index name action state after ∧
        (C.inv (size + (M.spawns action).length) after → before after)) :
    C.Triple index name before code fun value state => values value ∧ before state := by
  induction code with
  | done value => exact .done stable fun _ _ _ _ holds => ⟨within, holds⟩
  | act action next ih =>
    exact .act stable (effect action within.1) fun answer => ih answer (within.2 answer)

/-- A procedure that is disposed of by what its actions and values are. -/
theorem Safe.within {code : Code S α} {actions : S.Action → Prop} {values : α → Prop}
    {post : α → M.State → Prop} {state : M.State} (within : code.Within actions values)
    (guar : ∀ action, actions action → ∀ size before after answer, index < size →
      C.inv size before → C.allowed index name action before after →
      M.exec index size before action = some (after, answer) →
        C.guar index name action before after)
    (ends : ∀ value, values value → ∀ size state, index < size → C.inv size state →
      post value state) : C.Safe index name code post state := by
  induction code generalizing state with
  | done value => exact fun size later bound _ inv => ends value within size later bound inv
  | act action next ih =>
    intro size later bound _ inv after answer allowed ran
    exact ⟨guar action within.1 size later after answer bound inv allowed ran,
      fun _ => ih answer (within.2 answer)⟩

/-- A procedure whose actions guarantee nothing in particular. -/
theorem Safe.free {code : Code S α} {post : α → M.State → Prop} {state : M.State}
    (guar : ∀ action before after, C.guar index name action before after)
    (ends : ∀ value state, post value state) : C.Safe index name code post state := by
  induction code generalizing state with
  | done value => exact fun _ later _ _ _ => ends value later
  | act action next ih =>
    exact fun _ _ _ _ _ _ _ _ _ => ⟨guar action _ _, fun _ => ih _⟩

end Contract

end Async
