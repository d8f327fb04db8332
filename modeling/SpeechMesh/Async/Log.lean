import SpeechMesh.Async.Contract
import SpeechMesh.Async.Trace

/-! # The log of a schedule

A schedule leaves a log: the actions its tasks have performed, with their answers, and the events in
between. The part of one task is a run of its programs, so that what every run of a program ensures
holds of the task among all others; and what one action does to a state and to the log holds of the
state a schedule leads to and its log.
-/

namespace Async

variable {S : Signature} {M : Machine S}

inductive Record (M : Machine S) where
  | performed (task : ℕ) (entry : Entry S)
  | occurred (event : M.Event)

abbrev Log (M : Machine S) := List (Record M)

/-! ## Parts of a log -/

/-- The action of a record, if it is one. -/
def Record.entry? : Record M → Option (Entry S)
  | .performed _ entry => some entry
  | .occurred _ => none

/-- The action of a record, if the task has performed it. -/
def Record.entryOf? (index : ℕ) : Record M → Option (Entry S)
  | .performed task entry => if task = index then some entry else none
  | .occurred _ => none

def Record.event? : Record M → Option M.Event
  | .performed _ _ => none
  | .occurred event => some event

/-- All actions, in order. -/
def actions (log : Log M) : Trace S := log.filterMap Record.entry?

/-- The actions of one task. -/
def actionsOf (index : ℕ) (log : Log M) : Trace S := log.filterMap (Record.entryOf? index)

/-- The events. -/
def events (log : Log M) : List M.Event := log.filterMap Record.event?

section

variable {index task : ℕ} {log further : Log M} {entry : Entry S} {event : M.Event}

@[simp] theorem actions_append : actions (log ++ further) = actions log ++ actions further :=
  List.filterMap_append

@[simp] theorem actionsOf_append :
    actionsOf index (log ++ further) = actionsOf index log ++ actionsOf index further :=
  List.filterMap_append

@[simp] theorem events_append : events (log ++ further) = events log ++ events further :=
  List.filterMap_append

@[simp] theorem actions_nil : actions ([] : Log M) = [] := rfl

@[simp] theorem actionsOf_nil : actionsOf index ([] : Log M) = [] := rfl

@[simp] theorem events_nil : events ([] : Log M) = [] := rfl

@[simp] theorem actions_performed : actions [(.performed task entry : Record M)] = [entry] := rfl

@[simp] theorem actions_occurred : actions [(.occurred event : Record M)] = [] := rfl

@[simp] theorem events_performed : events [(.performed task entry : Record M)] = [] := rfl

@[simp] theorem events_occurred : events [(.occurred event : Record M)] = [event] := rfl

@[simp] theorem actionsOf_occurred : actionsOf index [(.occurred event : Record M)] = [] := rfl

theorem actionsOf_own : actionsOf index [(.performed index entry : Record M)] = [entry] := by
  simp [actionsOf, Record.entryOf?]

theorem actionsOf_other (other : task ≠ index) :
    actionsOf index [(.performed task entry : Record M)] = [] := by
  simp [actionsOf, Record.entryOf?, other]

/-- What one task alone can show is seen in the actions of that task. -/
theorem filterMap_actionsOf {α : Type} {observe : Entry S → Option α}
    (only : ∀ task entry, Record.performed task entry ∈ log → observe entry ≠ none → task = index) :
    (actionsOf index log).filterMap observe = (actions log).filterMap observe := by
  induction log with
  | nil => rfl
  | cons record rest ih =>
    have later := ih fun task entry member => only task entry (List.mem_cons_of_mem _ member)
    rw [← List.singleton_append, actionsOf_append, actions_append, List.filterMap_append,
      List.filterMap_append, later]
    congr 1
    cases record with
    | occurred event => rfl
    | performed task entry =>
      by_cases own : task = index
      · subst own
        rw [actionsOf_own, actions_performed]
      · have unseen : observe entry = none := by
          by_contra seen
          exact own (only task entry (List.mem_cons_self ..) seen)
        rw [actionsOf_other own, actions_performed, List.filterMap_cons_none unseen]

/-- Every action on the log was performed by some task. -/
theorem mem_actions : entry ∈ actions log ↔ ∃ task, Record.performed task entry ∈ log := by
  constructor
  · intro member
    obtain ⟨record, present, seen⟩ := List.mem_filterMap.mp member
    cases record with
    | occurred event => cases seen
    | performed task other =>
      obtain rfl := Option.some.inj seen
      exact ⟨task, present⟩
  · rintro ⟨task, present⟩
    exact List.mem_filterMap.mpr ⟨_, present, rfl⟩

end

/-! ## The log a schedule leaves -/

namespace World

/-- What a choice puts on the log. -/
def record? (world : World M) : Choice M → Option (Record M)
  | .event event => some (.occurred event)
  | .task index =>
    match world.tasks[index]? with
    | some ⟨_, .act action _⟩ =>
        (M.exec index world.tasks.length world.state action).map fun result =>
          .performed index ⟨action, result.2⟩
    | _ => none

/-- The log of a schedule, as far as its choices are possible. -/
def log : World M → List (Choice M) → Log M
  | _, [] => []
  | world, choice :: rest =>
    match world.step? choice with
    | none => []
    | some next => (world.record? choice).toList ++ next.log rest

theorem log_cons {world next : World M} {choice : Choice M} {rest : List (Choice M)}
    (stepped : world.step? choice = some next) :
    world.log (choice :: rest) = (world.record? choice).toList ++ next.log rest := by
  rw [log, stepped]

theorem log_concat {world middle next : World M} {first : List (Choice M)} {choice : Choice M}
    (ran : world.replay? first = some middle) (stepped : middle.step? choice = some next) :
    world.log (first ++ [choice]) = world.log first ++ (middle.record? choice).toList := by
  induction first generalizing world with
  | nil =>
    obtain rfl := Option.some.inj ran
    rw [List.nil_append, log_cons stepped, log, log, List.append_nil, List.nil_append]
  | cons head tail ih =>
    obtain ⟨second, headed, ran⟩ := Option.bind_eq_some_iff.mp ran
    rw [List.cons_append, log_cons headed, log_cons headed, ih ran, List.append_assoc]

/-- The procedure a task is started with in a schedule. -/
def start? : World M → List (Choice M) → ℕ → Option M.Name
  | _, [], _ => none
  | world, choice :: rest, index =>
    match world.step? choice with
    | none => none
    | some next =>
        if index < world.tasks.length then none
        else if index < next.tasks.length then (next.tasks[index]?).map Task.name
        else next.start? rest index

/-- Everything a step can do, with what it puts on the log. -/
theorem step?_recorded {world next : World M} {choice : Choice M}
    (stepped : world.step? choice = some next) :
    (∃ index name entered, choice = .task index ∧ world.record? choice = none ∧
      world.tasks[index]? = some ⟨name, .done (some entered)⟩ ∧
      next = ⟨world.state, world.tasks.set index ⟨entered, M.body index entered⟩⟩) ∨
    (∃ index name action rest state answer, choice = .task index ∧
      world.record? choice = some (.performed index ⟨action, answer⟩) ∧
      world.tasks[index]? = some ⟨name, .act action rest⟩ ∧
      M.exec index world.tasks.length world.state action = some (state, answer) ∧
      next = ⟨state, world.tasks.set index ⟨name, rest answer⟩ ++
        (M.spawns action).map M.launch⟩) ∨
    (∃ event state spawned, choice = .event event ∧
      world.record? choice = some (.occurred event) ∧
      M.occur world.tasks.length world.state event = some (state, spawned) ∧
      next = ⟨state, world.tasks ++ spawned.map M.launch⟩) := by
  rcases step?_cases stepped with
    ⟨index, name, entered, rfl, found, rfl⟩ |
    ⟨index, name, action, rest, state, answer, rfl, found, ran, rfl⟩ |
    ⟨event, state, spawned, rfl, occurred, rfl⟩
  · exact .inl ⟨index, name, entered, rfl, by simp only [record?, found], found, rfl⟩
  · refine .inr (.inl ⟨index, name, action, rest, state, answer, rfl, ?_, found, ran, rfl⟩)
    simp only [record?, found, ran, Option.map_some]
  · exact .inr (.inr ⟨event, state, spawned, rfl, rfl, occurred, rfl⟩)

/-- One step of a task that is there: it performs what the log says, or nothing. -/
theorem step?_serves {world next : World M} {choice : Choice M} {index : ℕ} {task : Task M}
    (stepped : world.step? choice = some next) (found : world.tasks[index]? = some task) :
    ∃ later, next.tasks[index]? = some later ∧
      Code.Serves (M.body index) AnyStep task.code ()
        (actionsOf index (world.record? choice).toList) later.code () := by
  have bound := (List.getElem?_eq_some_iff.mp found).1
  rcases step?_recorded stepped with
    ⟨acting, name, entered, rfl, silent, present, rfl⟩ |
    ⟨acting, name, action, rest, state, answer, rfl, recorded, present, _, rfl⟩ |
    ⟨event, state, spawned, rfl, recorded, _, rfl⟩
  · rw [silent]
    by_cases own : acting = index
    · subst own
      obtain rfl := Option.some.inj (found.symm.trans present)
      exact ⟨_, List.getElem?_set_self bound, .enter (.stop _ _)⟩
    · exact ⟨task, by rw [List.getElem?_set_ne own, found], .stop _ _⟩
  · rw [recorded, Option.toList_some]
    by_cases own : acting = index
    · subst own
      obtain rfl := Option.some.inj (found.symm.trans present)
      refine ⟨⟨name, rest answer⟩, ?_, ?_⟩
      · rw [List.getElem?_append_left (by rwa [List.length_set]), List.getElem?_set_self bound]
      · rw [actionsOf_own]
        exact .answered (.stop _ _)
    · refine ⟨task, ?_, ?_⟩
      · rw [List.getElem?_append_left (by rwa [List.length_set]), List.getElem?_set_ne own, found]
      · rw [actionsOf_other own]
        exact .stop _ _
  · rw [recorded]
    exact ⟨task, by rw [List.getElem?_append_left bound, found], .stop _ _⟩

/-- A task that is not there yet performs nothing. -/
theorem record?_absent {world : World M} {choice : Choice M} {index : ℕ}
    (absent : world.tasks.length ≤ index) :
    actionsOf index (world.record? choice).toList = [] := by
  cases choice with
  | event event => rfl
  | task acting =>
    simp only [record?]
    split
    · rename_i name action rest found
      have bound := (List.getElem?_eq_some_iff.mp found).1
      cases M.exec acting world.tasks.length world.state action with
      | none => rfl
      | some result => exact actionsOf_other (by omega)
    · rfl

/-- A task that appears in a step was launched in it. -/
theorem step?_launched {world next : World M} {choice : Choice M} {index : ℕ} {task : Task M}
    (stepped : world.step? choice = some next) (absent : world.tasks.length ≤ index)
    (found : next.tasks[index]? = some task) : ∃ name, task = M.launch name := by
  have launched {tasks : List (Task M)} {spawned : List M.Name} (same : tasks.length ≤ index)
      (present : (tasks ++ spawned.map M.launch)[index]? = some task) :
      ∃ name, task = M.launch name := by
    rw [List.getElem?_append_right same, List.getElem?_map] at present
    obtain ⟨name, _, rfl⟩ := Option.map_eq_some_iff.mp present
    exact ⟨name, rfl⟩
  rcases step?_cases stepped with
    ⟨acting, name, entered, rfl, _, rfl⟩ |
    ⟨acting, name, action, rest, state, answer, rfl, _, _, rfl⟩ |
    ⟨event, state, spawned, rfl, _, rfl⟩
  · have bound := (List.getElem?_eq_some_iff.mp found).1
    rw [List.length_set] at bound
    omega
  · exact launched (by rwa [List.length_set]) found
  · exact launched absent found

/-- A task that was there performs a run of its programs. -/
theorem replay?_serves {world last : World M} {schedule : List (Choice M)} {index : ℕ}
    {task : Task M} (ran : world.replay? schedule = some last)
    (found : world.tasks[index]? = some task) :
    ∃ later, last.tasks[index]? = some later ∧
      Code.Serves (M.body index) AnyStep task.code () (actionsOf index (world.log schedule))
        later.code () := by
  induction schedule generalizing world task with
  | nil =>
    obtain rfl := Option.some.inj ran
    exact ⟨task, found, .stop _ _⟩
  | cons choice rest ih =>
    obtain ⟨next, stepped, ran⟩ := Option.bind_eq_some_iff.mp ran
    obtain ⟨middle, present, first⟩ := step?_serves stepped found
    obtain ⟨later, reached, second⟩ := ih ran present
    refine ⟨later, reached, ?_⟩
    rw [log_cons stepped, actionsOf_append]
    exact first.append second

/-- A task that is started in a schedule performs a run from the procedure it is started with. -/
theorem replay?_starts {world last : World M} {schedule : List (Choice M)} {index : ℕ}
    {name : M.Name} (ran : world.replay? schedule = some last)
    (started : world.start? schedule index = some name) :
    ∃ task, last.tasks[index]? = some task ∧
      Code.Serves (M.body index) AnyStep (.done (some name)) ()
        (actionsOf index (world.log schedule)) task.code () := by
  induction schedule generalizing world with
  | nil => cases started
  | cons choice rest ih =>
    obtain ⟨next, stepped, ran⟩ := Option.bind_eq_some_iff.mp ran
    simp only [start?, stepped] at started
    have absent : world.tasks.length ≤ index := by
      by_contra present
      rw [if_pos (Nat.not_le.mp present)] at started
      cases started
    rw [if_neg (Nat.not_lt.mpr absent)] at started
    have silent : actionsOf index (world.record? choice).toList = [] := record?_absent absent
    rw [log_cons stepped, actionsOf_append, silent, List.nil_append]
    by_cases appears : index < next.tasks.length
    · rw [if_pos appears, List.getElem?_eq_getElem appears] at started
      obtain ⟨launched, same⟩ := step?_launched stepped absent (List.getElem?_eq_getElem appears)
      obtain ⟨later, reached, serves⟩ := replay?_serves ran (List.getElem?_eq_getElem appears)
      rw [same] at serves started
      obtain rfl := Option.some.inj started
      exact ⟨later, reached, serves⟩
    · rw [if_neg appears] at started
      exact ih ran started

/-- What a task was started with does not change. -/
theorem start?_append {world middle : World M} {first rest : List (Choice M)} {index : ℕ}
    {name : M.Name} (ran : world.replay? first = some middle)
    (started : world.start? first index = some name) :
    world.start? (first ++ rest) index = some name := by
  induction first generalizing world with
  | nil => cases started
  | cons choice tail ih =>
    obtain ⟨next, stepped, ran⟩ := Option.bind_eq_some_iff.mp ran
    simp only [List.cons_append, start?, stepped] at started ⊢
    split_ifs at started ⊢ with present appears
    · exact started
    · exact ih ran started

/-- A task that appears in a step is started in it. -/
theorem start?_launched {world middle next : World M} {first : List (Choice M)}
    {choice : Choice M} {index : ℕ} {name : M.Name} (ran : world.replay? first = some middle)
    (stepped : middle.step? choice = some next) (absent : middle.tasks.length ≤ index)
    (found : next.tasks[index]? = some (M.launch name)) :
    world.start? (first ++ [choice]) index = some name := by
  have bound := (List.getElem?_eq_some_iff.mp found).1
  induction first generalizing world with
  | nil =>
    obtain rfl := Option.some.inj ran
    simp only [List.nil_append, start?, stepped, if_neg (Nat.not_lt.mpr absent), if_pos bound,
      found, Option.map_some]
    rfl
  | cons head tail ih =>
    obtain ⟨second, headed, ran⟩ := Option.bind_eq_some_iff.mp ran
    have early {world last : World M} {schedule : List (Choice M)}
        (ran : world.replay? schedule = some last) (absent : last.tasks.length ≤ index) :
        ¬ index < world.tasks.length := by
      intro inside
      obtain ⟨later, reached, _⟩ := replay?_serves ran (List.getElem?_eq_getElem inside)
      have within := (List.getElem?_eq_some_iff.mp reached).1
      omega
    have before : world.replay? [head] = some second := by rw [replay?, headed]; rfl
    have later := early ran absent
    have first := early before (Nat.not_lt.mp later)
    simp only [List.cons_append, start?, headed, if_neg first, if_neg later]
    exact ih ran

end World

/-! ## Induction over a schedule and its log -/

namespace Contract

variable {C : Contract M}

/-- Induction over a schedule of a contract, step by step from its start. -/
theorem Good.induct (valid : C.Valid) {motive : List (Choice M) → World M → Prop}
    {world last : World M} {schedule : List (Choice M)} (good : C.Good world)
    (meets : World.Along C.Meets world schedule) (start : motive [] world)
    (step : ∀ {first middle choice next}, world.replay? first = some middle → C.Good middle →
      World.OnEvent C.occurs middle choice → World.OnEffect C.guar middle choice →
      middle.step? choice = some next → motive first middle → motive (first ++ [choice]) next)
    (ran : world.replay? schedule = some last) : motive schedule last := by
  have onward (first : List (Choice M)) {rest : List (Choice M)} {middle : World M}
      (reached : world.replay? first = some middle) (good : C.Good middle)
      (meets : World.Along C.Meets middle rest) (held : motive first middle)
      (ran : middle.replay? rest = some last) : motive (first ++ rest) last := by
    induction rest generalizing first middle with
    | nil =>
      obtain rfl := Option.some.inj ran
      rwa [List.append_nil]
    | cons choice rest ih =>
      obtain ⟨next, stepped, ran⟩ := Option.bind_eq_some_iff.mp ran
      obtain ⟨further, guar⟩ := good.step valid meets.1 stepped
      have longer : world.replay? (first ++ [choice]) = some next := by
        rw [World.replay?_append, reached, Option.bind_some, World.replay?, stepped,
          Option.bind_some]
        rfl
      have kept := step reached good meets.1.2.2 guar stepped held
      have whole := ih (first ++ [choice]) longer further (meets.2 next stepped) kept ran
      rwa [List.append_assoc, List.singleton_append] at whole
  exact onward [] rfl good meets start ran

/-- What every action of a contract and every event keeps of the state and the log holds of the
state a schedule leads to and of its log. -/
theorem Good.logged (valid : C.Valid) {motive : M.State → Log M → Prop} {world last : World M}
    {schedule : List (Choice M)} (good : C.Good world)
    (meets : World.Along C.Meets world schedule)
    (action : ∀ {index name size state action after answer log}, index < size → C.inv size state →
      C.guar index name action state after →
      M.exec index size state action = some (after, answer) → motive state log →
        motive after (log ++ [.performed index ⟨action, answer⟩]))
    (event : ∀ {size state event after spawned log}, C.inv size state → C.occurs state event →
      M.occur size state event = some (after, spawned) → motive state log →
        motive after (log ++ [.occurred event]))
    (start : motive world.state []) (ran : world.replay? schedule = some last) :
    motive last.state (world.log schedule) := by
  refine Good.induct (motive := fun first middle => motive middle.state (world.log first)) valid
    good meets start ?_ ran
  intro first middle choice next reached good occurs guar stepped held
  rw [World.log_concat reached stepped]
  rcases World.step?_recorded stepped with
    ⟨index, name, entered, rfl, silent, _, rfl⟩ |
    ⟨index, name, acted, rest, state, answer, rfl, recorded, found, performed, rfl⟩ |
    ⟨occurring, state, spawned, rfl, recorded, occurred, rfl⟩
  · rw [silent, Option.toList_none, List.append_nil]
    exact held
  · rw [recorded, Option.toList_some]
    have bound := (List.getElem?_eq_some_iff.mp found).1
    exact action bound good.inv (guar.performed found performed) performed held
  · rw [recorded, Option.toList_some]
    exact event good.inv occurs occurred held

/-- An action that needs a token and spends it is performed once at most. -/
theorem Good.at_most_once (valid : C.Valid) (spent : M.State → Prop) {acts : Entry S → Bool}
    {world last : World M} {schedule : List (Choice M)} (good : C.Good world)
    (meets : World.Along C.Meets world schedule)
    (spends : ∀ {index name size state action after answer}, C.inv size state →
      C.guar index name action state after →
      M.exec index size state action = some (after, answer) → acts ⟨action, answer⟩ = true →
        ¬ spent state ∧ spent after)
    (kept : ∀ {index name size state action after answer}, C.inv size state →
      C.guar index name action state after →
      M.exec index size state action = some (after, answer) → spent state → spent after)
    (undisturbed : ∀ {size state event after spawned}, C.inv size state → C.occurs state event →
      M.occur size state event = some (after, spawned) → spent state → spent after)
    (ran : world.replay? schedule = some last) :
    ((actions (world.log schedule)).filter acts).length ≤ 1 := by
  have counted : ((actions (world.log schedule)).filter acts).length ≤ 1 ∧
      (¬ spent last.state → (actions (world.log schedule)).filter acts = []) := by
    refine Good.logged (motive := fun state log => ((actions log).filter acts).length ≤ 1 ∧
      (¬ spent state → (actions log).filter acts = [])) valid good meets ?_ ?_
      ⟨Nat.zero_le _, fun _ => rfl⟩ ran
    · rintro index name size state action after answer log _ inv guar performed ⟨few, none_⟩
      rw [actions_append, actions_performed, List.filter_append]
      cases again : acts ⟨action, answer⟩ with
      | true =>
        obtain ⟨unspent, spent_⟩ := spends inv guar performed again
        rw [none_ unspent, List.nil_append, List.filter_cons_of_pos again, List.filter_nil]
        exact ⟨Nat.le_refl _, fun unspent => absurd spent_ unspent⟩
      | false =>
        rw [List.filter_cons_of_neg (by rw [again]; exact Bool.false_ne_true), List.filter_nil,
          List.append_nil]
        exact ⟨few, fun unspent => none_ fun was => unspent (kept inv guar performed was)⟩
    · rintro size state event after spawned log inv occurs occurred ⟨few, none_⟩
      rw [actions_append, actions_occurred, List.append_nil]
      exact ⟨few, fun unspent => none_ fun was => unspent (undisturbed inv occurs occurred was)⟩
  exact counted.1

end Contract

end Async
