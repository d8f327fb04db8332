import Mathlib.Tactic.IntervalCases
import SpeechMesh.Soundness.RegistryMaps
import SpeechMesh.Soundness.Scenario

/-! # A second request for an active playback

`handle_control_play_audio` subscribes before it asks whether the task id is taken, and removes the
waiter again when it is. So a duplicate request costs the first one its waiter, unless it is
refused before that, because its audio cannot be decoded or is empty.
-/

namespace SpeechMesh.Soundness

open Async Model

/-- The route and the waiter of a playback are as they were, and so is what the waiter was told. -/
structure SparesPlayback (taskId : String) (route : TaskRoute) (waiter : ℕ) (before after : State) :
    Prop where
  routed : before.registry.deviceRegistry.tasks.lookup taskId = some route →
    after.registry.deviceRegistry.tasks.lookup taskId = some route
  waits : before.registry.taskWaiters.lookup taskId = some waiter →
    after.registry.taskWaiters.lookup taskId = some waiter
  reply : after.taskReplies waiter = before.taskReplies waiter

/-- What a control connection was sent. -/
def answers {config : GatewayConfig} (control : ℕ) (world : World (system config)) :
    List ControlResponse :=
  ((stateIn world).controls control).out

def broken {config : GatewayConfig} (control : ℕ) (world : World (system config)) : Bool :=
  ((stateIn world).controls control).broken

/-- As long as the control connection has not been answered, its actions spare the playback. -/
def SparesUntilAnswer (control : ℕ) (sent : List ControlResponse) (taskId : String)
    (route : TaskRoute) (waiter index : ℕ) (_ : Procedure) (_ : Action) (before after : State) :
    Prop :=
  index = control → (before.controls control).out = sent → SparesPlayback taskId route waiter before after

/-- A request that is about to be handled spares the playback that is active under its task id,
whatever the other tasks do meanwhile. The first answer to it is an error, and it is on its way:
the request needs nothing but turns, and a connection that can still be written to. -/
structure Harmless {config : GatewayConfig} (control : ℕ) (taskId : String) (route : TaskRoute)
    (waiter : ℕ) (world : World (system config)) : Prop where
  spares : ∀ rest, World.Along
    (World.OnEffect (SparesUntilAnswer control (answers control world) taskId route waiter)) world rest
  answered : ∀ rest last, world.replay? rest = some last →
    (∃ message more, answers control last = answers control world ++ .error message :: more) ∨
    answers control last = answers control world ∧ (broken control last = false →
      ∃ count final message, last.replay? (List.replicate count (.task control)) = some final ∧
        answers control final = answers control world ++ [.error message])

/-! ## A refused request -/

variable {config : GatewayConfig} {control : ℕ} {payload : ControlPlayAudioPayload}
  {taskId : String} {error : BridgeError} {name : Procedure}

/-- The steps of a request whose audio is refused: it is entered, called, and returns its error,
which is then sent. -/
def refusal (config : GatewayConfig) (control : ℕ) (payload : ControlPlayAudioPayload)
    (error : BridgeError) (name : Procedure) : ℕ → Task (system config)
  | 0 => ⟨name, .done (some (.playAudio payload))⟩
  | 1 => ⟨.playAudio payload, body config control (.playAudio payload)⟩
  | 2 => ⟨.playAudio payload, do
      perform (.mark .playAudioReturned)
      return some (.controlReply (.error error))⟩
  | 3 => ⟨.playAudio payload, .done (some (.controlReply (.error error)))⟩
  | _ => ⟨.controlReply (.error error), body config control (.controlReply (.error error))⟩

theorem playAudio_refused (given : payload.givenTaskId = some taskId)
    (refused : payload.audio config.base64 = .error error) :
    body config control (.playAudio payload) = (do
      perform (.mark (.playAudioCalled taskId))
      perform (.mark .playAudioReturned)
      return some (.controlReply (.error error)) : Program (Option Procedure)) := by
  simp only [body, playAudio, handleControlPlayAudio, controlTaskId, given, refused]
  rfl

/-- The connection is still refusing the request, has answered it, or is gone unanswered. -/
inductive Refused (config : GatewayConfig) (control : ℕ) (payload : ControlPlayAudioPayload)
    (error : BridgeError) (sent : List ControlResponse) (world : World (system config)) : Prop where
  | refusing (name : Procedure) (phase : ℕ) (bound : phase ≤ 4)
      (here : world.tasks[control]? = some (refusal config control payload error name phase))
      (unanswered : answers control world = sent)
  | answered (message : String) (more : List ControlResponse)
      (answer : answers control world = sent ++ .error message :: more)
  | gone (name : Procedure) (exit : Option Procedure) (exits : exit = none ∨ exit = some .returned)
      (here : world.tasks[control]? = some ⟨name, .done exit⟩)
      (cut : broken control world = true) (unanswered : answers control world = sent)

variable (control) in
/-- What a control connection was sent is never taken back. -/
theorem answers_step {world next : World (system config)} {choice : Choice (system config)}
    (stepped : world.step? choice = some next) : answers control world <+: answers control next := by
  rcases World.step?_cases stepped with
    ⟨_, _, _, _, _, rfl⟩ | ⟨_, _, _, _, _, _, _, _, ran, rfl⟩ | ⟨_, _, _, _, occurred, rfl⟩
  · exact List.prefix_rfl
  · exact (connections_exec (ran_exec ran)).answered control
  · exact by rw [answers, answers, (occur_undisturbed occurred).answers control]

/-- Nothing but the task of a control connection writes to it, and once broken it stays so. -/
theorem control_step {world next : World (system config)} {choice : Choice (system config)}
    (stepped : world.step? choice = some next) (other : choice ≠ .task control) :
    answers control next = answers control world ∧
      (broken control world = true → broken control next = true) := by
  rcases World.step?_cases stepped with
    ⟨_, _, _, rfl, _, rfl⟩ | ⟨index, _, action, _, state, answer, rfl, _, ran, rfl⟩ |
    ⟨event, state, _, rfl, occurred, rfl⟩
  · exact ⟨rfl, id⟩
  · have same := (connections_exec (ran_exec ran)).controls control fun same => other (same ▸ rfl)
    exact ⟨congrArg ControlLink.out same, fun cut => (congrArg ControlLink.broken same).trans cut⟩
  · have undisturbed := occur_undisturbed occurred
    exact ⟨undisturbed.answers control, undisturbed.broken control⟩

variable {world next : World (system config)} {sent : List ControlResponse} {phase : ℕ}

/-- Up to the last, every step of a refusal is a turn away, and touches nothing. -/
theorem refusal_turn (given : payload.givenTaskId = some taskId)
    (refused : payload.audio config.base64 = .error error) (early : phase < 4)
    (here : world.tasks[control]? = some (refusal config control payload error name phase)) :
    ∃ next, world.step? (.task control) = some next ∧
      next.tasks[control]? = some (refusal config control payload error name (phase + 1)) ∧
      answers control next = answers control world ∧ broken control next = broken control world := by
  match phase, early with
  | 0, _ | 3, _ =>
    obtain ⟨next, stepped, state, there⟩ := World.step?_entered here
    exact ⟨next, stepped, there, by simp only [answers, stateIn, state], by
      simp only [broken, stateIn, state]⟩
  | 1, _ =>
    simp only [refusal, playAudio_refused given refused] at here
    obtain ⟨next, stepped, state, there⟩ := World.step?_acted here rfl
    exact ⟨next, stepped, there, by simp only [answers, stateIn, state], by
      simp only [broken, stateIn, state]⟩
  | 2, _ =>
    obtain ⟨next, stepped, state, there⟩ := World.step?_acted here rfl
    exact ⟨next, stepped, there, by simp only [answers, stateIn, state], by
      simp only [broken, stateIn, state]⟩

/-- The last step sends the error, if the connection can be written to. -/
theorem refusal_send
    (here : world.tasks[control]? = some (refusal config control payload error name 4)) :
    ∃ next, world.step? (.task control) = some next ∧
      ((broken control world = true ∧ broken control next = true ∧
          next.tasks[control]? = some ⟨.controlReply (.error error), .done (some .returned)⟩ ∧
          answers control next = answers control world) ∨
        (broken control world = false ∧
          answers control next = answers control world ++ [.error error.toText])) := by
  cases cut : broken control world with
  | true =>
    have performed : (stateIn world).perform control (.control (.send (.error error.toText))) =
        some (stateIn world, false) := if_pos cut
    obtain ⟨next, stepped, state, there⟩ := World.step?_acted here (exec_of_perform performed)
    refine ⟨next, stepped, .inl ⟨rfl, ?_, there, ?_⟩⟩
    · simpa only [broken, stateIn, state] using cut
    · simp only [answers, stateIn, state]
  | false =>
    let link := (stateIn world).controls control
    have performed : (stateIn world).perform control (.control (.send (.error error.toText))) =
        some ((stateIn world).setControl control
          { link with out := link.out ++ [.error error.toText] }, true) :=
      if_neg (Bool.eq_false_iff.mp cut)
    obtain ⟨next, stepped, state, _⟩ := World.step?_acted here (exec_of_perform performed)
    refine ⟨next, stepped, .inr ⟨rfl, ?_⟩⟩
    simp [answers, stateIn, state, State.setControl, link]

/-- What the task of the connection does keeps to the refusal. -/
theorem Refused.step (given : payload.givenTaskId = some taskId)
    (refused : payload.audio config.base64 = .error error)
    (state : Refused config control payload error sent world)
    (choice : Choice (system config)) (stepped : world.step? choice = some next) :
    Refused config control payload error sent next := by
  by_cases own : choice = .task control
  · subst own
    cases state with
    | refusing name phase bound here unanswered =>
      by_cases early : phase < 4
      · obtain ⟨next', stepped', there, same, _⟩ := refusal_turn given refused early here
        obtain rfl := Option.some.inj (stepped.symm.trans stepped')
        exact .refusing name (phase + 1) (by omega) there (same.trans unanswered)
      · obtain rfl : phase = 4 := by omega
        obtain ⟨next', stepped', sends⟩ := refusal_send here
        obtain rfl := Option.some.inj (stepped.symm.trans stepped')
        rcases sends with ⟨_, cut, there, same⟩ | ⟨_, answer⟩
        · exact .gone _ _ (.inr rfl) there cut (same.trans unanswered)
        · exact .answered _ [] (unanswered ▸ answer)
    | answered message more answer =>
      obtain ⟨extra, grown⟩ := answers_step control stepped
      refine .answered message (more ++ extra) ?_
      rw [← grown, answer]
      simp
    | gone name exit exits here cut unanswered =>
      rcases exits with rfl | rfl
      · simp [World.step?, World.advance?, here] at stepped
      · obtain ⟨next', stepped', same, there⟩ := World.step?_entered here
        obtain rfl := Option.some.inj (stepped.symm.trans stepped')
        refine .gone .returned none (.inl rfl) there ?_ ?_
        · simpa only [broken, stateIn, same] using cut
        · simpa only [answers, stateIn, same] using unanswered
  · obtain ⟨same, cut⟩ := control_step stepped own
    have others : ∀ acting, choice = .task acting → acting ≠ control := by
      rintro acting rfl rfl
      exact own rfl
    cases state with
    | refusing name phase bound here unanswered =>
      exact .refusing name phase bound (World.step?_keeps stepped here others)
        (same.trans unanswered)
    | answered message more answer => exact .answered message more (same.trans answer)
    | gone name exit exits here broke unanswered =>
      exact .gone name exit exits (World.step?_keeps stepped here others) (cut broke)
        (same.trans unanswered)

theorem Refused.replay (given : payload.givenTaskId = some taskId)
    (refused : payload.audio config.base64 = .error error) {schedule : List (Choice (system config))}
    (start : Refused config control payload error sent world)
    (ran : world.replay? schedule = some next) :
    Refused config control payload error sent next := by
  induction schedule generalizing world with
  | nil =>
    obtain rfl := Option.some.inj ran
    exact start
  | cons choice rest ih =>
    obtain ⟨middle, stepped, ran⟩ := Option.bind_eq_some_iff.mp ran
    exact ih (start.step given refused choice stepped) ran

/-- A refusal touches no map and no waiter. -/
theorem Refused.spares (given : payload.givenTaskId = some taskId)
    (refused : payload.audio config.base64 = .error error)
    (start : Refused config control payload error sent world) {route : TaskRoute} {waiter : ℕ}
    (choice : Choice (system config)) :
    World.OnEffect (SparesUntilAnswer control sent taskId route waiter) world choice := by
  have untouched : ∀ {task fresh} {before after : State} {action : Action} {answer},
      (∃ mark, action = .mark mark) ∨ (∃ response, action = .control (.send response)) →
      State.exec task fresh before action = some (after, answer) →
        SparesPlayback taskId route waiter before after := by
    intro task fresh before after action answer kind ran
    have registry := registry_exec ran
    have replies := taskReplies_exec ran
    rcases kind with ⟨_, rfl⟩ | ⟨_, rfl⟩ <;>
      exact ⟨fun found => registry ▸ found, fun found => registry ▸ found, congrFun replies waiter⟩
  cases choice with
  | event event => trivial
  | task index =>
    simp only [World.OnEffect]
    split
    · rename_i acting action next found
      intro after answer ran own unanswered
      subst own
      refine untouched ?_ (ran_exec ran)
      cases start with
      | refusing name phase bound here _ =>
        have same := Option.some.inj (found.symm.trans here)
        interval_cases phase
        · cases same
        · rw [refusal, playAudio_refused given refused] at same
          cases same
          exact .inl ⟨_, rfl⟩
        · cases same
          exact .inl ⟨_, rfl⟩
        · cases same
        · cases same
          exact .inr ⟨_, rfl⟩
      | answered message more answer =>
        change answers index world = sent at unanswered
        simp [unanswered] at answer
      | gone name exit _ here _ _ =>
        rw [here] at found
        cases found
    · trivial

/-- A refusal that is left alone sends its error. -/
theorem refusal_ends (given : payload.givenTaskId = some taskId)
    (refused : payload.audio config.base64 = .error error) (bound : phase ≤ 4)
    (here : world.tasks[control]? = some (refusal config control payload error name phase))
    (unbroken : broken control world = false) :
    ∃ count final, world.replay? (List.replicate count (.task control)) = some final ∧
      answers control final = answers control world ++ [.error error.toText] := by
  induction steps : 4 - phase generalizing phase world with
  | zero =>
    obtain rfl : phase = 4 := by omega
    obtain ⟨next, stepped, sends⟩ := refusal_send here
    rcases sends with ⟨cut, _⟩ | ⟨_, answer⟩
    · rw [unbroken] at cut
      cases cut
    · refine ⟨1, next, ?_, answer⟩
      simp [World.replay?, stepped]
  | succ more ih =>
    obtain ⟨next, stepped, there, same, kept⟩ := refusal_turn given refused (by omega) here
    obtain ⟨count, final, ran, answer⟩ :=
      @ih _ (phase + 1) (by omega) there (kept.trans unbroken) (by omega)
    refine ⟨count + 1, final, ?_, same ▸ answer⟩
    rw [List.replicate_succ, World.replay?, stepped]
    exact ran

theorem refused_harmless {route : TaskRoute} {waiter : ℕ}
    (called : world.tasks[control]? = some ⟨name, .done (some (.playAudio payload))⟩)
    (given : payload.givenTaskId = some taskId)
    (refused : payload.audio config.base64 = .error error) :
    Harmless control taskId route waiter world := by
  have start : Refused config control payload error (answers control world) world :=
    .refusing name 0 (by omega) called rfl
  constructor
  · exact World.Along.of_reached fun ran choice =>
      (start.replay given refused ran).spares given refused choice
  · intro rest last ran
    cases start.replay given refused ran with
    | answered message more answer => exact .inl ⟨message, more, answer⟩
    | refusing name phase bound here unanswered =>
      refine .inr ⟨unanswered, fun unbroken => ?_⟩
      obtain ⟨count, final, ends, answer⟩ := refusal_ends given refused bound here unbroken
      exact ⟨count, final, _, ends, unanswered ▸ answer⟩
    | gone name exit _ _ cut unanswered =>
      refine .inr ⟨unanswered, fun unbroken => ?_⟩
      rw [cut] at unbroken
      cases unbroken

/-! ## A request with audio -/

variable (control) in
theorem playAudio_accepted {bytes : Bytes} (given : payload.givenTaskId = some taskId)
    (decoded : payload.audio config.base64 = .ok bytes) :
    ∃ rest, body config control (.playAudio payload) =
      .act (.mark (.playAudioCalled taskId)) fun _ =>
        .act (.registry (.subscribeTaskWaiter taskId)) rest := by
  simp only [body, playAudio, handleControlPlayAudio, controlTaskId, given, decoded]
  exact ⟨_, rfl⟩

/-- A request whose audio decodes takes the place of the waiter that is there. -/
theorem accepted_not_harmless {route : TaskRoute} {waiter : ℕ} {bytes : Bytes}
    (named : WaitersNamed (stateIn world))
    (called : world.tasks[control]? = some ⟨name, .done (some (.playAudio payload))⟩)
    (given : payload.givenTaskId = some taskId)
    (decoded : payload.audio config.base64 = .ok bytes)
    (waiting : (stateIn world).registry.taskWaiters.lookup taskId = some waiter) :
    ¬ Harmless control taskId route waiter world := by
  intro harmless
  obtain ⟨rest, code⟩ := playAudio_accepted control given decoded
  obtain ⟨entered, enters, sameState, there⟩ := World.step?_entered called
  rw [show (system config).body control (.playAudio payload) = _ from code] at there
  obtain ⟨marked, marks, noted, there⟩ := World.step?_acted there rfl
  have along := harmless.spares ([.task control, .task control] ++ [.task control])
  have ran : world.replay? [.task control, .task control] = some marked := by
    rw [World.replay?, enters, Option.bind_some, World.replay?, marks]
    rfl
  have effect := along.at ran
  have sameRegistry : (stateIn marked).registry = (stateIn world).registry := by
    simp only [stateIn, noted, sameState]
  have sameWaiter : (stateIn marked).nextWaiter = (stateIn world).nextWaiter := by
    simp only [stateIn, noted, sameState]
  have unanswered : answers control marked = answers control world := by
    simp only [answers, stateIn, noted, sameState]
  have kept := (effect.performed there rfl rfl unanswered).waits (sameRegistry ▸ waiting)
  -- the waiter found afterwards is the new one, whose number was not in use
  have replaced : waiter = (stateIn world).nextWaiter := by
    change ((stateIn marked).registry.taskWaiters.insert taskId
      (stateIn marked).nextWaiter).lookup taskId = _ at kept
    rw [AList.lookup_insert, sameWaiter] at kept
    exact (Option.some.inj kept).symm
  have known := named.stored waiting
  rw [replaced, named.fresh le_rfl] at known
  cases known

/-- Exactly the requests whose audio cannot be decoded, or is empty, spare the playback that is
active under their task id. -/
theorem duplicate_harmless_iff {schedule : List (Choice (system config))} {route : TaskRoute}
    {waiter : ℕ} (ran : (initial config).replay? schedule = some world)
    (called : world.tasks[control]? = some ⟨name, .done (some (.playAudio payload))⟩)
    (given : payload.givenTaskId = some taskId)
    (waiting : (stateIn world).registry.taskWaiters.lookup taskId = some waiter) :
    Harmless control taskId route waiter world ↔
      ∃ error, payload.audio config.base64 = .error error := by
  constructor
  · intro harmless
    cases decoded : payload.audio config.base64 with
    | error error => exact ⟨error, rfl⟩
    | ok bytes =>
      exact absurd harmless
        (accepted_not_harmless (waitersNamed_replay ran) called given decoded waiting)
  · rintro ⟨error, refused⟩
    exact refused_harmless called given refused

open Scenario in
/-- A playback of connection 1 is active when connection 2 asks for the same task id. -/
def duplicated : List (Choice (system Scenario.config)) :=
  registers 0 speaker ++ routesPlayback 1 ++
    [occurs .connectControl, controlAsks 2 (.playAudio playback)] ++ turns 2 2

open Scenario in
theorem duplicate_harmless_iff_scenario : ∃ world : World (system Scenario.config),
    Harmless 2 "task" ⟨"device"⟩ 0 world ↔
      ∃ error, playback.audio Scenario.config.base64 = .error error := by
  obtain ⟨world, ran⟩ : ∃ world, (initial Scenario.config).replay? duplicated = some world :=
    ⟨_, rfl⟩
  refine ⟨world, ?_⟩
  have there := ran
  cases there
  exact duplicate_harmless_iff ran rfl (by decide) rfl

open Scenario in
/-- The duplicate request takes the waiter of the first one. -/
theorem duplicate_takes_waiter :
    ¬ ∀ (config : GatewayConfig) (schedule : List (Choice (system config)))
        (world : World (system config)) (control : ℕ) (name : Procedure)
        (payload : ControlPlayAudioPayload) (taskId : String) (route : TaskRoute) (waiter : ℕ),
      (initial config).replay? schedule = some world →
      world.tasks[control]? = some ⟨name, .done (some (.playAudio payload))⟩ →
      payload.givenTaskId = some taskId →
      (stateIn world).registry.deviceRegistry.tasks.lookup taskId = some route →
      (stateIn world).registry.taskWaiters.lookup taskId = some waiter →
      Harmless control taskId route waiter world := by
  intro always
  obtain ⟨world, ran⟩ : ∃ world, (initial Scenario.config).replay? duplicated = some world :=
    ⟨_, rfl⟩
  have harmless := always Scenario.config duplicated world 2 .controlLoop playback "task" ⟨"device"⟩ 0 ran
  have named := waitersNamed_replay ran
  cases ran
  exact accepted_not_harmless named rfl (by decide) rfl rfl
    (harmless rfl (by decide) rfl rfl)

end SpeechMesh.Soundness
