import SpeechMesh.Model.State

/-! # What an action can change

Each action changes one part of the state. The lemmas here say so part by part, and are what the
proofs about runs use instead of the definition of `exec`.
-/

namespace SpeechMesh.Model

open Async

variable {state core after : State} {task fresh : ℕ}

/-! ## Groups of actions -/

theorem exec_cases {action : Action} {answer : action.Answer}
    (ran : State.exec task fresh state action = some (after, answer)) :
    ∃ core, state.perform task action = some (core, answer) ∧
      after = { core with history := state.note task fresh action answer } := by
  obtain ⟨⟨core, reply⟩, performed, same⟩ := Option.map_eq_some_iff.mp ran
  obtain ⟨rfl, rfl⟩ := Prod.mk.inj same
  exact ⟨core, performed, rfl⟩

theorem exec_of_perform {action : Action} {answer : action.Answer}
    (performed : state.perform task action = some (core, answer)) :
    State.exec task fresh state action =
      some ({ core with history := state.note task fresh action answer }, answer) := by
  simp only [State.exec, performed, Option.map_some]

theorem history_exec {action : Action} {answer : action.Answer}
    (ran : State.exec task fresh state action = some (after, answer)) :
    after.history = state.note task fresh action answer := by
  obtain ⟨_, _, rfl⟩ := exec_cases ran
  rfl

theorem await_cases {α : Type} {reply : OneShot α} {answer : Awaited α}
    (ran : state.await task reply = some (core, answer)) :
    (∃ elapsed, core = { state with elapsed }) ∧
    ((∃ value, reply = .sent value ∧ answer = .value value) ∨
      (reply = .dropped ∧ answer = .dropped) ∨
      (reply = .waiting ∧ state.elapsed task = true ∧ answer = .elapsed)) := by
  unfold State.await at ran
  split at ran
  · rename_i value
    obtain ⟨rfl, rfl⟩ := Prod.mk.inj (Option.some.inj ran)
    exact ⟨⟨_, rfl⟩, .inl ⟨value, rfl, rfl⟩⟩
  · obtain ⟨rfl, rfl⟩ := Prod.mk.inj (Option.some.inj ran)
    exact ⟨⟨_, rfl⟩, .inr (.inl ⟨rfl, rfl⟩)⟩
  · split_ifs at ran with fired
    obtain ⟨rfl, rfl⟩ := Prod.mk.inj (Option.some.inj ran)
    exact ⟨⟨_, rfl⟩, .inr (.inr ⟨rfl, fired, rfl⟩)⟩

/-- The task of an agent connection reads its inbox, and nothing else of its link changes. -/
theorem performAgent_cases {action : AgentAction} {answer : action.Answer}
    (ran : state.performAgent task action = some (core, answer)) :
    ∃ inbox, core = state.setAgent task { state.agents task with inbox } ∧
      inbox <:+ (state.agents task).inbox := by
  cases action with
  | nextInput =>
    simp only [State.performAgent] at ran
    split at ran
    · cases ran
    · rename_i input rest found
      obtain ⟨rfl, _⟩ := Prod.mk.inj (Option.some.inj ran)
      exact ⟨rest, rfl, found ▸ List.suffix_cons input rest⟩
  | joinWriter =>
    simp only [State.performAgent] at ran
    split_ifs at ran
    obtain ⟨rfl, _⟩ := Prod.mk.inj (Option.some.inj ran)
    exact ⟨(state.agents task).inbox, by simp [State.setAgent], List.suffix_rfl⟩

theorem performControl_cases {action : ControlAction} {answer : action.Answer}
    (ran : state.performControl task action = some (core, answer)) :
    ∃ link counter, core = { state.setControl task link with controlTaskCounter := counter } ∧
      (state.controls task).out <+: link.out := by
  cases action with
  | nextFrame =>
    simp only [State.performControl] at ran
    split at ran
    · cases ran
    · obtain ⟨rfl, _⟩ := Prod.mk.inj (Option.some.inj ran)
      exact ⟨_, state.controlTaskCounter, rfl, List.prefix_rfl⟩
  | send response =>
    simp only [State.performControl] at ran
    split_ifs at ran
    · obtain ⟨rfl, _⟩ := Prod.mk.inj (Option.some.inj ran)
      exact ⟨state.controls task, state.controlTaskCounter, by simp [State.setControl],
        List.prefix_rfl⟩
    · obtain ⟨rfl, _⟩ := Prod.mk.inj (Option.some.inj ran)
      exact ⟨_, state.controlTaskCounter, rfl, List.prefix_append ..⟩
  | nextControlTaskId =>
    obtain ⟨rfl, _⟩ := Prod.mk.inj (Option.some.inj ran)
    exact ⟨state.controls task, state.controlTaskCounter + 1, by simp [State.setControl],
      List.prefix_rfl⟩

theorem performDevice_cases {action : DeviceAction} {answer : action.Answer}
    (ran : state.performDevice task action = some (core, answer)) :
    ∃ link, core = state.setDevice task link := by
  cases action with
  | nextInput =>
    obtain ⟨⟨link, input⟩, _, same⟩ := Option.map_eq_some_iff.mp ran
    exact ⟨link, (Prod.mk.inj same).1.symm⟩
  | taskTracker =>
    obtain ⟨rfl, _⟩ := Prod.mk.inj (Option.some.inj ran)
    exact ⟨state.devices task, by simp [State.setDevice]⟩
  | setTaskTracker tracker => exact ⟨_, (Prod.mk.inj (Option.some.inj ran)).1.symm⟩
  | send message =>
    obtain ⟨result, _, same⟩ := Option.map_eq_some_iff.mp ran
    exact ⟨_, (Prod.mk.inj same).1.symm⟩
  | startPlayer format | writePlayer bytes | waitPlayer =>
    simp only [State.performDevice] at ran
    split at ran
    · exact ⟨_, (Prod.mk.inj (Option.some.inj ran)).1.symm⟩
    · cases ran

/-- The task of a client connection changes its own link, and may create a session of a
provider. -/
theorem performClient_cases {action : ClientAction} {answer : action.Answer}
    (ran : state.performClient task action = some (core, answer)) :
    ∃ link, (core = state.setClient task link ∨
      core = ((state.setClient task link).newAsrSession task).1 ∨
      core = ((state.setClient task link).newTtsSession task).1) ∧
      link.out = (state.clients task).out := by
  have unchanged : state = state.setClient task (state.clients task) := by simp [State.setClient]
  cases action with
  | nextFrame =>
    simp only [State.performClient] at ran
    split at ran
    · cases ran
    · exact ⟨_, .inl (Prod.mk.inj (Option.some.inj ran)).1.symm, rfl⟩
  | activeSession =>
    obtain ⟨rfl, _⟩ := Prod.mk.inj (Option.some.inj ran)
    exact ⟨_, .inl unchanged, rfl⟩
  | setActive active => exact ⟨_, .inl (Prod.mk.inj (Option.some.inj ran)).1.symm, rfl⟩
  | startAsr request =>
    simp only [State.performClient] at ran
    split at ran
    · exact ⟨_, .inl (Prod.mk.inj (Option.some.inj ran)).1.symm, rfl⟩
    · exact ⟨_, .inr (.inl (Prod.mk.inj (Option.some.inj ran)).1.symm), rfl⟩
    · cases ran
  | startTts request =>
    simp only [State.performClient] at ran
    split at ran
    · exact ⟨_, .inl (Prod.mk.inj (Option.some.inj ran)).1.symm, rfl⟩
    · exact ⟨_, .inr (.inr (Prod.mk.inj (Option.some.inj ran)).1.symm), rfl⟩
    · cases ran
  | listVoices request =>
    simp only [State.performClient] at ran
    split at ran
    · exact ⟨_, .inl (Prod.mk.inj (Option.some.inj ran)).1.symm, rfl⟩
    · cases ran
  | joinWriter =>
    simp only [State.performClient] at ran
    split_ifs at ran
    obtain ⟨rfl, _⟩ := Prod.mk.inj (Option.some.inj ran)
    exact ⟨_, .inl unchanged, rfl⟩

/-! ## The registry and the waiters -/

def State.registryAfter (state : State) : Action → AgentRegistry
  | .registry action => (state.registry.run state.nextWaiter action).1
  | _ => state.registry

def State.repliesAfter (state : State) : Action → ℕ → OneShot TaskWaitResult
  | .registry action => (state.dropReply (state.displaced action)).taskReplies
  | .sendTaskResult waiter result =>
      Function.update state.taskReplies waiter ((state.taskReplies waiter).send result)
  | _ => state.taskReplies

def State.nextWaiterAfter (state : State) : Action → ℕ
  | .registry (.subscribeTaskWaiter _) => state.nextWaiter + 1
  | _ => state.nextWaiter

private theorem perform_registry {action : Action} {answer : action.Answer}
    (ran : state.perform task action = some (core, answer)) :
    core.registry = state.registryAfter action ∧ core.taskReplies = state.repliesAfter action ∧
      core.nextWaiter = state.nextWaiterAfter action := by
  cases action with
  | registry action =>
    obtain ⟨rfl, rfl⟩ := Prod.mk.inj (Option.some.inj ran)
    cases action <;> exact ⟨rfl, rfl, rfl⟩
  | sendTaskResult waiter result | createSession | sendStarted sessionId result | spawn procedure
  | mark mark =>
    obtain ⟨rfl, rfl⟩ := Prod.mk.inj (Option.some.inj ran)
    exact ⟨rfl, rfl, rfl⟩
  | awaitTask waiter | awaitStarted sessionId =>
    obtain ⟨⟨_, rfl⟩, _⟩ := await_cases ran
    exact ⟨rfl, rfl, rfl⟩
  | agent action =>
    obtain ⟨_, rfl, _⟩ := performAgent_cases ran
    exact ⟨rfl, rfl, rfl⟩
  | client action =>
    obtain ⟨_, rfl | rfl | rfl, _⟩ := performClient_cases ran <;> exact ⟨rfl, rfl, rfl⟩
  | control action =>
    obtain ⟨_, _, rfl, _⟩ := performControl_cases ran
    exact ⟨rfl, rfl, rfl⟩
  | device action =>
    obtain ⟨_, rfl⟩ := performDevice_cases ran
    exact ⟨rfl, rfl, rfl⟩
  | sendAgent connection message | asr sessionId action | tts sessionId action
  | sendClient connection message =>
    obtain ⟨_, _, same⟩ := Option.map_eq_some_iff.mp ran
    obtain ⟨rfl, rfl⟩ := Prod.mk.inj same
    exact ⟨rfl, rfl, rfl⟩

section

variable {action : Action} {answer : action.Answer}
  (ran : State.exec task fresh state action = some (after, answer))

include ran

theorem registry_exec : after.registry = state.registryAfter action := by
  obtain ⟨_, performed, rfl⟩ := exec_cases ran
  exact (perform_registry performed).1

theorem taskReplies_exec : after.taskReplies = state.repliesAfter action := by
  obtain ⟨_, performed, rfl⟩ := exec_cases ran
  exact (perform_registry performed).2.1

theorem nextWaiter_exec : after.nextWaiter = state.nextWaiterAfter action := by
  obtain ⟨_, performed, rfl⟩ := exec_cases ran
  exact (perform_registry performed).2.2

end

/-- What a locked section answers. -/
theorem registry_answer {action : RegistryAction} {answer : action.Answer}
    (ran : State.exec task fresh state (.registry action) = some (after, answer)) :
    answer = (state.registry.run state.nextWaiter action).2 := by
  obtain ⟨_, performed, rfl⟩ := exec_cases ran
  exact (Prod.mk.inj (Option.some.inj performed)).2.symm

/-! ## Connections -/

/-- What is queued for each client, in the order in which it was queued. -/
def State.queued (state : State) (connection : ℕ) : List ServerMessage :=
  (state.clients connection).out.sent

def State.queuedAfter (state : State) : (action : Action) → action.Answer → ℕ → List ServerMessage
  | .sendClient connection message, (accepted : Bool) =>
      Function.update state.queued connection
        (state.queued connection ++ if accepted then [message] else [])
  | _, _ => state.queued

/-- The active session of each client connection. -/
def State.active (state : State) (connection : ℕ) : Option ActiveSession :=
  (state.clients connection).active

def State.activeAfter (state : State) (task : ℕ) : Action → ℕ → Option ActiveSession
  | .client (.setActive active) => Function.update state.active task active
  | _ => state.active

/-- A task changes only its own connections, and queues messages for the clients. -/
structure State.Connections (state : State) (task : ℕ) (after : State) (action : Action)
    (answer : action.Answer) : Prop where
  controls : ∀ other, other ≠ task → after.controls other = state.controls other
  answered : ∀ other, (state.controls other).out <+: (after.controls other).out
  devices : ∀ other, other ≠ task → after.devices other = state.devices other
  queued : after.queued = state.queuedAfter action answer
  active : after.active = state.activeAfter task action
  clientClosed : ∀ connection, (after.clients connection).out.closed =
    (state.clients connection).out.closed

private theorem connections_elsewhere {action : Action} {answer : action.Answer}
    (controls : core.controls = state.controls) (devices : core.devices = state.devices)
    (clients : core.clients = state.clients)
    (queued : state.queuedAfter action answer = state.queued)
    (active : state.activeAfter task action = state.active) :
    state.Connections task core action answer where
  controls := fun _ _ => controls ▸ rfl
  answered := fun _ => controls ▸ List.prefix_rfl
  devices := fun _ _ => devices ▸ rfl
  queued := by rw [queued]; funext; simp only [State.queued, clients]
  active := by rw [active]; funext; simp only [State.active, clients]
  clientClosed := fun _ => clients ▸ rfl

/-- The links of the clients after the task of one of them has acted. -/
private theorem performClient_links {action : ClientAction} {answer : action.Answer}
    (ran : state.performClient task action = some (core, answer)) :
    ∃ link, core.clients = Function.update state.clients task link ∧
      core.controls = state.controls ∧ core.devices = state.devices ∧
      link.out = (state.clients task).out ∧
      link.active = state.activeAfter task (.client action) task := by
  have unchanged : state.clients = Function.update state.clients task (state.clients task) := by simp
  cases action with
  | activeSession =>
    obtain ⟨rfl, _⟩ := Prod.mk.inj (Option.some.inj ran)
    exact ⟨_, unchanged, rfl, rfl, rfl, rfl⟩
  | setActive active =>
    obtain ⟨rfl, _⟩ := Prod.mk.inj (Option.some.inj ran)
    exact ⟨_, rfl, rfl, rfl, rfl, by simp [State.activeAfter]⟩
  | joinWriter =>
    simp only [State.performClient] at ran
    split_ifs at ran
    obtain ⟨rfl, _⟩ := Prod.mk.inj (Option.some.inj ran)
    exact ⟨_, unchanged, rfl, rfl, rfl, rfl⟩
  | nextFrame | startAsr request | startTts request | listVoices request =>
    simp only [State.performClient] at ran
    split at ran <;> first
      | (obtain ⟨rfl, _⟩ := Prod.mk.inj (Option.some.inj ran)
         exact ⟨_, rfl, rfl, rfl, rfl, rfl⟩)
      | cases ran

private theorem perform_connections {action : Action} {answer : action.Answer}
    (ran : state.perform task action = some (core, answer)) :
    state.Connections task core action answer := by
  cases action with
  | registry action =>
    obtain ⟨rfl, rfl⟩ := Prod.mk.inj (Option.some.inj ran)
    refine connections_elsewhere ?_ ?_ ?_ rfl rfl <;> cases state.displaced action <;> rfl
  | sendTaskResult waiter result | createSession | sendStarted sessionId result | spawn procedure
  | mark mark =>
    obtain ⟨rfl, rfl⟩ := Prod.mk.inj (Option.some.inj ran)
    exact connections_elsewhere rfl rfl rfl rfl rfl
  | awaitTask waiter | awaitStarted sessionId =>
    obtain ⟨⟨_, rfl⟩, _⟩ := await_cases ran
    exact connections_elsewhere rfl rfl rfl rfl rfl
  | agent action =>
    obtain ⟨_, rfl, _⟩ := performAgent_cases ran
    exact connections_elsewhere rfl rfl rfl rfl rfl
  | client action =>
    obtain ⟨link, clients, controls, devices, out, active⟩ := performClient_links ran
    refine ⟨fun _ _ => controls ▸ rfl, fun _ => controls ▸ List.prefix_rfl,
      fun _ _ => devices ▸ rfl, ?_, ?_, ?_⟩
    · funext connection
      change (core.clients connection).out.sent = (state.clients connection).out.sent
      rw [clients]
      by_cases same : connection = task
      · subst same
        simp [out]
      · simp [same]
    · funext connection
      simp only [State.active, clients]
      by_cases same : connection = task
      · subst same
        simp [active]
      · cases action <;> simp [same, State.activeAfter, State.active]
    · intro connection
      rw [clients]
      by_cases same : connection = task
      · subst same
        simp [out]
      · simp [same]
  | control action =>
    obtain ⟨link, _, rfl, grown⟩ := performControl_cases ran
    refine ⟨fun other different => ?_, fun other => ?_, fun _ _ => rfl, rfl, rfl, fun _ => rfl⟩
    · exact Function.update_of_ne different ..
    · change _ <+: (Function.update state.controls task link other).out
      by_cases same : other = task
      · subst same
        simpa using grown
      · simp [same]
  | device action =>
    obtain ⟨link, rfl⟩ := performDevice_cases ran
    refine ⟨fun _ _ => rfl, fun _ => List.prefix_rfl, fun other different => ?_, rfl, rfl,
      fun _ => rfl⟩
    exact Function.update_of_ne different ..
  | sendAgent connection message | asr sessionId action | tts sessionId action =>
    obtain ⟨_, _, same⟩ := Option.map_eq_some_iff.mp ran
    obtain ⟨rfl, rfl⟩ := Prod.mk.inj same
    exact connections_elsewhere rfl rfl rfl rfl rfl
  | sendClient connection message =>
    obtain ⟨⟨channel, accepted⟩, sent, same⟩ := Option.map_eq_some_iff.mp ran
    obtain ⟨rfl, rfl⟩ := Prod.mk.inj same
    have clients : ∀ other, (state.setClient connection
        { state.clients connection with out := channel }).clients other =
          if other = connection then { state.clients connection with out := channel }
          else state.clients other := by
      intro other
      simp [State.setClient, Function.update_apply]
    refine ⟨fun _ _ => rfl, fun _ => List.prefix_rfl, fun _ _ => rfl, ?_, ?_, ?_⟩
    · funext other
      simp only [State.queued, State.queuedAfter, clients, Function.update_apply]
      by_cases same : other = connection
      · simp only [same, if_true]
        exact Channel.send?_sent sent
      · simp only [same, if_false]
    · funext other
      simp only [State.active, State.activeAfter, clients]
      split_ifs with same <;> simp [same]
    · intro other
      rw [clients]
      split_ifs with same
      · subst same
        rcases Channel.send?_cases sent with ⟨_, _, rfl⟩ | ⟨_, _, rfl⟩ <;> rfl
      · rfl

theorem connections_exec {action : Action} {answer : action.Answer}
    (ran : State.exec task fresh state action = some (after, answer)) :
    state.Connections task after action answer := by
  obtain ⟨_, performed, rfl⟩ := exec_cases ran
  exact { perform_connections performed with }

/-! ## Agent commands -/

/-- What was queued for each agent, in the order in which it was queued. -/
def State.commanded (state : State) (connection : ℕ) : List (Stamped GatewayToAgentMessage) :=
  (state.agents connection).commands.sent

def State.commandedAfter (state : State) (task : ℕ) :
    (action : Action) → action.Answer → ℕ → List (Stamped GatewayToAgentMessage)
  | .sendAgent connection message, (accepted : Bool) =>
      Function.update state.commanded connection
        (state.commanded connection ++ if accepted then [⟨message, state.origin task⟩] else [])
  | _, _ => state.commanded

theorem commanded_setAgent {connection : ℕ} {link : AgentLink}
    (same : link.commands.sent = state.commanded connection) :
    (state.setAgent connection link).commanded = state.commanded := by
  funext other
  by_cases here : other = connection
  · subst here
    simpa [State.commanded, State.setAgent] using same
  · simp [State.commanded, State.setAgent, here]

/-- Whether the writer of each agent is gone. -/
def State.silenced (state : State) (connection : ℕ) : Bool :=
  (state.agents connection).commands.closed

theorem silenced_setAgent {connection : ℕ} {link : AgentLink}
    (same : link.commands.closed = state.silenced connection) :
    (state.setAgent connection link).silenced = state.silenced := by
  funext other
  by_cases here : other = connection
  · subst here
    simpa [State.silenced, State.setAgent] using same
  · simp [State.silenced, State.setAgent, here]

private theorem perform_commanded {action : Action} {answer : action.Answer}
    (ran : state.perform task action = some (core, answer)) :
    core.commanded = state.commandedAfter task action answer ∧ core.silenced = state.silenced := by
  cases action with
  | registry action =>
    obtain ⟨rfl, rfl⟩ := Prod.mk.inj (Option.some.inj ran)
    simp only [State.commandedAfter]
    cases state.displaced action <;> exact ⟨rfl, rfl⟩
  | sendTaskResult waiter result | createSession | sendStarted sessionId result | spawn procedure
  | mark mark =>
    obtain ⟨rfl, rfl⟩ := Prod.mk.inj (Option.some.inj ran)
    exact ⟨rfl, rfl⟩
  | awaitTask waiter | awaitStarted sessionId =>
    obtain ⟨⟨_, rfl⟩, _⟩ := await_cases ran
    exact ⟨rfl, rfl⟩
  | agent action =>
    obtain ⟨inbox, rfl, _⟩ := performAgent_cases ran
    exact ⟨commanded_setAgent rfl, silenced_setAgent rfl⟩
  | client action =>
    obtain ⟨_, rfl | rfl | rfl, _⟩ := performClient_cases ran <;> exact ⟨rfl, rfl⟩
  | control action =>
    obtain ⟨_, _, rfl, _⟩ := performControl_cases ran
    exact ⟨rfl, rfl⟩
  | device action =>
    obtain ⟨_, rfl⟩ := performDevice_cases ran
    exact ⟨rfl, rfl⟩
  | asr sessionId action | tts sessionId action | sendClient connection message =>
    obtain ⟨_, _, same⟩ := Option.map_eq_some_iff.mp ran
    obtain ⟨rfl, rfl⟩ := Prod.mk.inj same
    exact ⟨rfl, rfl⟩
  | sendAgent connection message =>
    obtain ⟨⟨channel, accepted⟩, sent, same⟩ := Option.map_eq_some_iff.mp ran
    obtain ⟨rfl, rfl⟩ := Prod.mk.inj same
    constructor
    · funext other
      simp only [State.commanded, State.commandedAfter, State.setAgent, Function.update_apply]
      by_cases here : other = connection
      · simp only [here, if_true]
        exact Channel.send?_sent sent
      · simp only [here, if_false]
    · refine silenced_setAgent ?_
      rcases Channel.send?_cases sent with ⟨_, _, rfl⟩ | ⟨_, _, rfl⟩ <;> rfl

theorem commanded_exec {action : Action} {answer : action.Answer}
    (ran : State.exec task fresh state action = some (after, answer)) :
    after.commanded = state.commandedAfter task action answer := by
  obtain ⟨_, performed, rfl⟩ := exec_cases ran
  have commanded := (perform_commanded performed).1
  exact commanded

/-- No task of the gateway takes the writer of an agent away. -/
theorem silenced_exec {action : Action} {answer : action.Answer}
    (ran : State.exec task fresh state action = some (after, answer)) :
    after.silenced = state.silenced := by
  obtain ⟨_, performed, rfl⟩ := exec_cases ran
  have silenced := (perform_commanded performed).2
  exact silenced

/-! ## Session ids -/

/-- The session id an action creates, if it creates one. -/
def createdSession : (action : Action) → action.Answer → Option SessionId
  | .createSession, (sessionId : SessionId) => some sessionId
  | .client (.startAsr _), .ok session => some session.id
  | .client (.startTts _), .ok started => some started.1.id
  | _, _ => none

private theorem perform_serial {action : Action} {answer : action.Answer}
    (ran : state.perform task action = some (core, answer)) :
    (createdSession action answer = none ∧ core.sessionSerial = state.sessionSerial) ∨
    (createdSession action answer = some ⟨task, state.sessionSerial⟩ ∧
      core.sessionSerial = state.sessionSerial + 1) := by
  cases action with
  | registry action =>
    obtain ⟨rfl, rfl⟩ := Prod.mk.inj (Option.some.inj ran)
    refine .inl ⟨rfl, ?_⟩
    simp only
    cases state.displaced action <;> rfl
  | sendTaskResult waiter result | sendStarted sessionId result | spawn procedure | mark mark =>
    obtain ⟨rfl, rfl⟩ := Prod.mk.inj (Option.some.inj ran)
    exact .inl ⟨rfl, rfl⟩
  | createSession =>
    obtain ⟨rfl, rfl⟩ := Prod.mk.inj (Option.some.inj ran)
    exact .inr ⟨rfl, rfl⟩
  | awaitTask waiter | awaitStarted sessionId =>
    obtain ⟨⟨_, rfl⟩, _⟩ := await_cases ran
    exact .inl ⟨rfl, rfl⟩
  | agent action =>
    obtain ⟨_, rfl, _⟩ := performAgent_cases ran
    exact .inl ⟨rfl, rfl⟩
  | client action =>
    cases action with
    | activeSession | setActive active =>
      obtain ⟨rfl, rfl⟩ := Prod.mk.inj (Option.some.inj ran)
      exact .inl ⟨rfl, rfl⟩
    | joinWriter =>
      simp only [State.perform, State.performClient] at ran
      split_ifs at ran
      obtain ⟨rfl, rfl⟩ := Prod.mk.inj (Option.some.inj ran)
      exact .inl ⟨rfl, rfl⟩
    | nextFrame | startAsr request | startTts request | listVoices request =>
      simp only [State.perform, State.performClient] at ran
      split at ran <;> first
        | (obtain ⟨rfl, rfl⟩ := Prod.mk.inj (Option.some.inj ran)
           first | exact .inl ⟨rfl, rfl⟩ | exact .inr ⟨rfl, rfl⟩)
        | cases ran
  | control action =>
    obtain ⟨_, _, rfl, _⟩ := performControl_cases ran
    exact .inl ⟨rfl, rfl⟩
  | device action =>
    obtain ⟨_, rfl⟩ := performDevice_cases ran
    exact .inl ⟨rfl, rfl⟩
  | sendAgent connection message | asr sessionId action | tts sessionId action
  | sendClient connection message =>
    obtain ⟨_, _, same⟩ := Option.map_eq_some_iff.mp ran
    obtain ⟨rfl, rfl⟩ := Prod.mk.inj same
    exact .inl ⟨rfl, rfl⟩

theorem createdSession_exec {action : Action} {answer : action.Answer}
    (ran : State.exec task fresh state action = some (after, answer)) :
    (createdSession action answer = none ∧ after.sessionSerial = state.sessionSerial) ∨
    (createdSession action answer = some ⟨task, state.sessionSerial⟩ ∧
      after.sessionSerial = state.sessionSerial + 1) := by
  obtain ⟨_, performed, rfl⟩ := exec_cases ran
  have serial := perform_serial performed
  exact serial

theorem sessionSerial_exec {action : Action} {answer : action.Answer}
    (ran : State.exec task fresh state action = some (after, answer)) :
    state.sessionSerial ≤ after.sessionSerial := by
  rcases createdSession_exec ran with ⟨_, same⟩ | ⟨_, grown⟩ <;> omega

/-! ## Session streams -/

def State.startedAfter (state : State) : Action → SessionId → OneShot (Except BridgeError Unit)
  | .sendStarted sessionId result =>
      Function.update state.started sessionId ((state.started sessionId).send result)
  | _ => state.started

/-- What can happen to the streams of the ASR sessions in one action: an operation on one stream,
or a new session of a provider. -/
inductive State.AsrChange (state : State) (task : ℕ) (after : State) :
    (action : Action) → action.Answer → Prop where
  | unchanged {action : Action} {answer : action.Answer}
      (other : ∀ sessionId operation, action ≠ .asr sessionId operation)
      (same : after.asrStreams = state.asrStreams) : AsrChange state task after action answer
  | operated {sessionId : SessionId} {action : StreamAction BridgeCommand BridgeAsrEvent}
      {stream : Stream BridgeCommand BridgeAsrEvent} {answer : action.Answer}
      (ran : (state.asrStreams sessionId).run 64 action = some (stream, answer))
      (updated : after.asrStreams = Function.update state.asrStreams sessionId stream) :
      AsrChange state task after (.asr sessionId action) answer
  | created {request : AsrStreamRequest} {answer : (ClientAction.startAsr request).Answer}
      (updated : after.asrStreams = Function.update state.asrStreams
        ⟨task, state.sessionSerial⟩ { provider := true }) :
      AsrChange state task after (.client (.startAsr request)) answer

private theorem perform_session {action : Action} {answer : action.Answer}
    (ran : state.perform task action = some (core, answer)) :
    core.started = state.startedAfter action ∧ state.AsrChange task core action answer := by
  cases action with
  | registry action =>
    obtain ⟨rfl, rfl⟩ := Prod.mk.inj (Option.some.inj ran)
    refine ⟨?_, .unchanged nofun ?_⟩ <;>
      simp only [State.startedAfter] <;> cases state.displaced action <;> rfl
  | sendTaskResult waiter result | createSession | sendStarted sessionId result | spawn procedure
  | mark mark =>
    obtain ⟨rfl, rfl⟩ := Prod.mk.inj (Option.some.inj ran)
    exact ⟨rfl, .unchanged nofun rfl⟩
  | awaitTask waiter | awaitStarted sessionId =>
    obtain ⟨⟨_, rfl⟩, _⟩ := await_cases ran
    exact ⟨rfl, .unchanged nofun rfl⟩
  | agent action =>
    obtain ⟨_, rfl, _⟩ := performAgent_cases ran
    exact ⟨rfl, .unchanged nofun rfl⟩
  | client action =>
    refine ⟨?_, ?_⟩
    · obtain ⟨_, rfl | rfl | rfl, _⟩ := performClient_cases ran <;> rfl
    · cases action with
      | startAsr request =>
        simp only [State.perform, State.performClient] at ran
        split at ran
        · obtain ⟨rfl, _⟩ := Prod.mk.inj (Option.some.inj ran)
          exact .unchanged nofun rfl
        · obtain ⟨rfl, _⟩ := Prod.mk.inj (Option.some.inj ran)
          exact .created rfl
        · cases ran
      | startTts request =>
        simp only [State.perform, State.performClient] at ran
        split at ran
        · obtain ⟨rfl, _⟩ := Prod.mk.inj (Option.some.inj ran)
          exact .unchanged nofun rfl
        · obtain ⟨rfl, _⟩ := Prod.mk.inj (Option.some.inj ran)
          exact .unchanged nofun rfl
        · cases ran
      | nextFrame =>
        simp only [State.perform, State.performClient] at ran
        split at ran
        · cases ran
        · obtain ⟨rfl, _⟩ := Prod.mk.inj (Option.some.inj ran)
          exact .unchanged nofun rfl
      | listVoices request =>
        simp only [State.perform, State.performClient] at ran
        split at ran
        · obtain ⟨rfl, _⟩ := Prod.mk.inj (Option.some.inj ran)
          exact .unchanged nofun rfl
        · cases ran
      | activeSession | setActive active =>
        obtain ⟨rfl, _⟩ := Prod.mk.inj (Option.some.inj ran)
        exact .unchanged nofun rfl
      | joinWriter =>
        simp only [State.perform, State.performClient] at ran
        split_ifs at ran
        obtain ⟨rfl, _⟩ := Prod.mk.inj (Option.some.inj ran)
        exact .unchanged nofun rfl
  | control action =>
    obtain ⟨_, _, rfl, _⟩ := performControl_cases ran
    exact ⟨rfl, .unchanged nofun rfl⟩
  | device action =>
    obtain ⟨_, rfl⟩ := performDevice_cases ran
    exact ⟨rfl, .unchanged nofun rfl⟩
  | asr sessionId action =>
    obtain ⟨_, operated, same⟩ := Option.map_eq_some_iff.mp ran
    obtain ⟨rfl, rfl⟩ := Prod.mk.inj same
    exact ⟨rfl, .operated operated rfl⟩
  | sendAgent connection message | tts sessionId action | sendClient connection message =>
    obtain ⟨_, _, same⟩ := Option.map_eq_some_iff.mp ran
    obtain ⟨rfl, rfl⟩ := Prod.mk.inj same
    exact ⟨rfl, .unchanged nofun rfl⟩

theorem started_exec {action : Action} {answer : action.Answer}
    (ran : State.exec task fresh state action = some (after, answer)) :
    after.started = state.startedAfter action := by
  obtain ⟨_, performed, rfl⟩ := exec_cases ran
  exact (perform_session performed).1

theorem asrStreams_exec {action : Action} {answer : action.Answer}
    (ran : State.exec task fresh state action = some (after, answer)) :
    state.AsrChange task after action answer := by
  obtain ⟨core, performed, rfl⟩ := exec_cases ran
  cases (perform_session performed).2 with
  | unchanged other same => exact .unchanged other same
  | operated operated updated => exact .operated operated updated
  | created updated => exact .created updated

/-! ## Growing streams -/

/-- What was put on the channels of a session stays there, and a receiver that is gone stays gone. -/
structure Stream.Grows {κ ε : Type} (before after : Stream κ ε) : Prop where
  commands : before.commands.sent <+: after.commands.sent
  events : before.events.sent <+: after.events.sent
  closed : before.commands.closed = true → after.commands.closed = true

theorem Stream.Grows.refl {κ ε : Type} (stream : Stream κ ε) : stream.Grows stream :=
  ⟨List.prefix_rfl, List.prefix_rfl, id⟩

theorem Stream.run_grows {κ ε : Type} {stream after : Stream κ ε} {capacity : ℕ}
    {action : StreamAction κ ε} {answer : action.Answer}
    (ran : stream.run capacity action = some (after, answer)) : stream.Grows after := by
  cases action with
  | sendCommand command =>
    obtain ⟨⟨channel, accepted⟩, sent, same⟩ := Option.map_eq_some_iff.mp ran
    obtain ⟨rfl, _⟩ := Prod.mk.inj same
    rcases Channel.send?_cases sent with ⟨_, _, rfl⟩ | ⟨_, _, rfl⟩
    · exact .refl stream
    · exact ⟨List.prefix_append .., List.prefix_rfl, id⟩
  | sendEvent event =>
    obtain ⟨⟨channel, accepted⟩, sent, same⟩ := Option.map_eq_some_iff.mp ran
    obtain ⟨rfl, _⟩ := Prod.mk.inj same
    rcases Channel.send?_cases sent with ⟨_, _, rfl⟩ | ⟨_, _, rfl⟩
    · exact .refl stream
    · exact ⟨List.prefix_rfl, List.prefix_append .., id⟩
  | receiveCommand | receiveEvent =>
    obtain ⟨⟨channel, message⟩, received, same⟩ := Option.map_eq_some_iff.mp ran
    obtain ⟨rfl, _⟩ := Prod.mk.inj same
    rcases Channel.receive?_cases received with ⟨_, _, _, rfl⟩ | ⟨_, _, rfl⟩ <;>
      exact ⟨List.prefix_rfl, List.prefix_rfl, id⟩
  | closeCommands =>
    obtain ⟨rfl, _⟩ := Prod.mk.inj (Option.some.inj ran)
    exact ⟨List.prefix_rfl, List.prefix_rfl, fun _ => rfl⟩
  | closeEvents | releaseCommands =>
    obtain ⟨rfl, _⟩ := Prod.mk.inj (Option.some.inj ran)
    exact ⟨List.prefix_rfl, List.prefix_rfl, id⟩

/-- A command is put on the channel, unless its receiver is gone. -/
theorem Stream.run_sendCommand {κ ε : Type} {stream after : Stream κ ε} {capacity : ℕ} {command : κ}
    {accepted : Bool}
    (ran : stream.run capacity (.sendCommand command) = some (after, accepted)) :
    command ∈ after.commands.sent ∨ after.commands.closed = true := by
  obtain ⟨⟨channel, sent⟩, sends, same⟩ := Option.map_eq_some_iff.mp ran
  obtain ⟨rfl, _⟩ := Prod.mk.inj same
  rcases Channel.send?_cases sends with ⟨_, closed, rfl⟩ | ⟨_, _, rfl⟩
  · exact .inr closed
  · exact .inl (by simp)

/-- The streams of the sessions that exist grow. -/
structure State.StreamsGrow (before after : State) : Prop where
  asr : ∀ sessionId : SessionId, sessionId.serial < before.sessionSerial →
    (before.asrStreams sessionId).Grows (after.asrStreams sessionId)
  tts : ∀ sessionId : SessionId, sessionId.serial < before.sessionSerial →
    (before.ttsStreams sessionId).Grows (after.ttsStreams sessionId)

/-- A change of one stream, or a new session, in one of the two domains. -/
private theorem update_grows {κ ε : Type} {streams : SessionId → Stream κ ε} {bound : ℕ}
    {changed : SessionId} {stream : Stream κ ε}
    (grows : changed.serial < bound → (streams changed).Grows stream) (sessionId : SessionId)
    (exists_ : sessionId.serial < bound) :
    (streams sessionId).Grows (Function.update streams changed stream sessionId) := by
  by_cases same : sessionId = changed
  · subst same
    rw [Function.update_self]
    exact grows exists_
  · rw [Function.update_of_ne same]
    exact .refl _

/-- What can happen to the streams of the TTS sessions in one action. -/
inductive State.TtsChange (state : State) (task : ℕ) (after : State) :
    (action : Action) → action.Answer → Prop where
  | unchanged {action : Action} {answer : action.Answer}
      (other : ∀ sessionId operation, action ≠ .tts sessionId operation)
      (same : after.ttsStreams = state.ttsStreams) : TtsChange state task after action answer
  | operated {sessionId : SessionId} {action : StreamAction BridgeTtsCommand BridgeTtsEvent}
      {stream : Stream BridgeTtsCommand BridgeTtsEvent} {answer : action.Answer}
      (ran : (state.ttsStreams sessionId).run 32 action = some (stream, answer))
      (updated : after.ttsStreams = Function.update state.ttsStreams sessionId stream) :
      TtsChange state task after (.tts sessionId action) answer
  | created {action : ClientAction} {answer : action.Answer}
      (updated : after.ttsStreams = Function.update state.ttsStreams
        ⟨task, state.sessionSerial⟩ { provider := true }) :
      TtsChange state task after (.client action) answer

private theorem performClient_tts {action : ClientAction} {answer : action.Answer}
    (ran : state.performClient task action = some (core, answer)) :
    core.ttsStreams = state.ttsStreams ∨ core.ttsStreams =
      Function.update state.ttsStreams ⟨task, state.sessionSerial⟩ { provider := true } := by
  obtain ⟨_, rfl | rfl | rfl, _⟩ := performClient_cases ran
  · exact .inl rfl
  · exact .inl rfl
  · exact .inr rfl

private theorem perform_tts {action : Action} {answer : action.Answer}
    (ran : state.perform task action = some (core, answer)) : state.TtsChange task core action answer := by
  cases action with
  | registry action =>
    obtain ⟨rfl, rfl⟩ := Prod.mk.inj (Option.some.inj ran)
    refine .unchanged nofun ?_
    simp only
    cases state.displaced action <;> rfl
  | sendTaskResult waiter result | createSession | sendStarted other result | spawn procedure
  | mark mark =>
    obtain ⟨rfl, rfl⟩ := Prod.mk.inj (Option.some.inj ran)
    exact .unchanged nofun rfl
  | awaitTask waiter | awaitStarted other =>
    obtain ⟨⟨_, rfl⟩, _⟩ := await_cases ran
    exact .unchanged nofun rfl
  | agent action =>
    obtain ⟨_, rfl, _⟩ := performAgent_cases ran
    exact .unchanged nofun rfl
  | client action =>
    rcases performClient_tts ran with same | same
    · exact .unchanged nofun same
    · exact .created same
  | control action =>
    obtain ⟨_, _, rfl, _⟩ := performControl_cases ran
    exact .unchanged nofun rfl
  | device action =>
    obtain ⟨_, rfl⟩ := performDevice_cases ran
    exact .unchanged nofun rfl
  | tts other action =>
    obtain ⟨_, operated, same⟩ := Option.map_eq_some_iff.mp ran
    obtain ⟨rfl, rfl⟩ := Prod.mk.inj same
    exact .operated operated rfl
  | sendAgent connection message | asr other action | sendClient connection message =>
    obtain ⟨_, _, same⟩ := Option.map_eq_some_iff.mp ran
    obtain ⟨rfl, rfl⟩ := Prod.mk.inj same
    exact .unchanged nofun rfl

theorem ttsStreams_exec {action : Action} {answer : action.Answer}
    (ran : State.exec task fresh state action = some (after, answer)) :
    state.TtsChange task after action answer := by
  obtain ⟨core, performed, rfl⟩ := exec_cases ran
  cases perform_tts performed with
  | unchanged other same => exact .unchanged other same
  | operated operated updated => exact .operated operated updated
  | created updated => exact .created updated

theorem streams_exec {action : Action} {answer : action.Answer}
    (ran : State.exec task fresh state action = some (after, answer)) :
    state.StreamsGrow after where
  asr sessionId old := by
    cases asrStreams_exec ran with
    | unchanged _ same =>
      rw [same]
      exact .refl _
    | operated operated updated =>
      rw [updated]
      exact update_grows (fun _ => Stream.run_grows operated) sessionId old
    | created updated =>
      rw [updated]
      exact update_grows (fun new => absurd new (lt_irrefl _)) sessionId old
  tts sessionId old := by
    cases ttsStreams_exec ran with
    | unchanged _ same =>
      rw [same]
      exact .refl _
    | operated operated updated =>
      rw [updated]
      exact update_grows (fun _ => Stream.run_grows operated) sessionId old
    | created updated =>
      rw [updated]
      exact update_grows (fun new => absurd new (lt_irrefl _)) sessionId old

/-! ## Inboxes and devices -/

/-- The devices and the control connections are changed by their own actions alone. -/
private theorem perform_links {action : Action} {answer : action.Answer}
    (ran : state.perform task action = some (core, answer)) :
    ((∀ own, action ≠ .device own) → core.devices = state.devices) ∧
      ((∀ own, action ≠ .control own) → core.controls = state.controls) := by
  cases action with
  | registry action =>
    obtain ⟨rfl, rfl⟩ := Prod.mk.inj (Option.some.inj ran)
    simp only
    cases state.displaced action <;> exact ⟨fun _ => rfl, fun _ => rfl⟩
  | sendTaskResult waiter result | createSession | sendStarted sessionId result | spawn procedure
  | mark mark =>
    obtain ⟨rfl, rfl⟩ := Prod.mk.inj (Option.some.inj ran)
    exact ⟨fun _ => rfl, fun _ => rfl⟩
  | awaitTask waiter | awaitStarted sessionId =>
    obtain ⟨⟨_, rfl⟩, _⟩ := await_cases ran
    exact ⟨fun _ => rfl, fun _ => rfl⟩
  | agent action =>
    obtain ⟨_, rfl, _⟩ := performAgent_cases ran
    exact ⟨fun _ => rfl, fun _ => rfl⟩
  | client action =>
    obtain ⟨_, rfl | rfl | rfl, _⟩ := performClient_cases ran <;>
      exact ⟨fun _ => rfl, fun _ => rfl⟩
  | control action =>
    obtain ⟨_, _, rfl, _⟩ := performControl_cases ran
    exact ⟨fun _ => rfl, fun other => absurd rfl (other action)⟩
  | device action =>
    obtain ⟨_, rfl⟩ := performDevice_cases ran
    exact ⟨fun other => absurd rfl (other action), fun _ => rfl⟩
  | sendAgent connection message | asr sessionId action | tts sessionId action
  | sendClient connection message =>
    obtain ⟨_, _, same⟩ := Option.map_eq_some_iff.mp ran
    obtain ⟨rfl, rfl⟩ := Prod.mk.inj same
    exact ⟨fun _ => rfl, fun _ => rfl⟩

theorem devices_exec {action : Action} {answer : action.Answer}
    (ran : State.exec task fresh state action = some (after, answer))
    (other : ∀ own, action ≠ .device own) : after.devices = state.devices := by
  obtain ⟨core, performed, rfl⟩ := exec_cases ran
  exact (perform_links performed).1 other

/-- What a device does to its link. -/
def DeviceLink.Does (before : DeviceLink) :
    (action : DeviceAction) → action.Answer → DeviceLink → Prop
  | .nextInput, (input : DeviceInput), after => (∃ rest, before.inbox = input :: rest ∧
      after = { before with inbox := rest }) ∨ after = { before with read := before.read + 1 }
  | .taskTracker, tracker, after => tracker = before.tracker ∧ after = before
  | .setTaskTracker tracker, _, after => after = { before with tracker }
  | .send message, (accepted : Bool), after => ∃ out origin, after = { before with out } ∧
      out.sent = before.out.sent ++ if accepted then [⟨message, origin⟩] else []
  | .startPlayer _, result, after => ∃ rest, before.player = .spawn result :: rest ∧
      after = { before with player := rest }
  | .writePlayer _, result, after => ∃ rest, before.player = .write result :: rest ∧
      after = { before with player := rest }
  | .waitPlayer, result, after => ∃ rest, before.player = .exit result :: rest ∧
      after = { before with player := rest }

/-- A device reads a frame of its own, or the next message of its connection. -/
theorem nextDeviceInput_cases {link : DeviceLink} {input : Stamped DeviceInput}
    (next : state.nextDeviceInput task = some (link, input)) :
    (∃ rest, (state.devices task).inbox = input.message :: rest ∧
      link = { state.devices task with inbox := rest }) ∨
    ∃ connection command, (state.devices task).connection = some connection ∧
      (state.commanded connection)[(state.devices task).read]? = some command ∧
      link = { state.devices task with read := (state.devices task).read + 1 } ∧
      input.message = .frame (.text (.ok command.message)) := by
  simp only [State.nextDeviceInput] at next
  split at next
  · rename_i frame rest found
    obtain ⟨rfl, rfl⟩ := Prod.mk.inj (Option.some.inj next)
    exact .inl ⟨rest, found, rfl⟩
  · rename_i connection _ linked
    split_ifs at next
    obtain ⟨command, found, same⟩ := Option.map_eq_some_iff.mp next
    obtain ⟨rfl, rfl⟩ := Prod.mk.inj same
    exact .inr ⟨connection, command, linked, found, rfl, rfl⟩
  · cases next

theorem device_exec {action : DeviceAction} {answer : action.Answer}
    (ran : State.exec task fresh state (.device action) = some (after, answer)) :
    (state.devices task).Does action answer (after.devices task) := by
  obtain ⟨core, performed, rfl⟩ := exec_cases ran
  cases action with
  | nextInput =>
    obtain ⟨⟨link, input⟩, next, same⟩ := Option.map_eq_some_iff.mp performed
    obtain ⟨rfl, rfl⟩ := Prod.mk.inj same
    simp only [State.setDevice, Function.update_self]
    rcases nextDeviceInput_cases next with ⟨rest, found, rfl⟩ | ⟨_, _, _, _, rfl, _⟩
    · exact .inl ⟨rest, found, rfl⟩
    · exact .inr rfl
  | taskTracker =>
    obtain ⟨rfl, rfl⟩ := Prod.mk.inj (Option.some.inj performed)
    exact ⟨rfl, rfl⟩
  | setTaskTracker tracker =>
    obtain ⟨rfl, _⟩ := Prod.mk.inj (Option.some.inj performed)
    exact Function.update_self ..
  | send message =>
    obtain ⟨⟨out, accepted⟩, sent, same⟩ := Option.map_eq_some_iff.mp performed
    obtain ⟨rfl, rfl⟩ := Prod.mk.inj same
    exact ⟨out, state.origin task, Function.update_self .., Channel.send?_sent sent⟩
  | startPlayer format | writePlayer bytes | waitPlayer =>
    simp only [State.perform, State.performDevice] at performed
    split at performed
    · rename_i rest found
      obtain ⟨rfl, rfl⟩ := Prod.mk.inj (Option.some.inj performed)
      exact ⟨rest, found, Function.update_self ..⟩
    · cases performed

/-! ## Parts of the history that are written once -/

/-- What is known of registrations, placements and waiters stays as it is. -/
structure History.Extends (before after : History) : Prop where
  registration : ∀ {connection known}, before.registration connection = some known →
    after.registration connection = some known
  sessionPlacement : ∀ {sessionId connection}, before.sessionPlacement sessionId = some connection →
    after.sessionPlacement sessionId = some connection
  requestPlacement : ∀ {number connection}, before.requestPlacement number = some connection →
    after.requestPlacement number = some connection
  waiterTask : ∀ {waiter taskId}, before.waiterTask waiter = some taskId →
    after.waiterTask waiter = some taskId
  waiterRequest : ∀ {waiter number}, before.waiterRequest waiter = some number →
    after.waiterRequest waiter = some number

theorem History.Extends.refl (history : History) : history.Extends history :=
  ⟨id, id, id, id, id⟩

theorem History.Extends.trans {first middle last : History} (one : first.Extends middle)
    (two : middle.Extends last) : first.Extends last :=
  ⟨two.registration ∘ one.registration, two.sessionPlacement ∘ one.sessionPlacement,
    two.requestPlacement ∘ one.requestPlacement, two.waiterTask ∘ one.waiterTask,
    two.waiterRequest ∘ one.waiterRequest⟩

private theorem update_or {α β : Type} [DecidableEq α] {known : α → Option β} {key other : α}
    {added : Option β} {value : β} (found : known other = some value) :
    Function.update known key ((known key).or added) other = some value := by
  by_cases same : other = key
  · subst same
    simp [found]
  · simp [same, found]

theorem note_extends (before : State) (task fresh : ℕ) (action : Action) (answer : action.Answer) :
    before.history.Extends (before.note task fresh action answer) where
  registration := by
    intro connection known found
    simp only [State.note]
    unfold History.registrationAfter
    split
    · exact update_or found
    · exact found
  sessionPlacement := by
    intro sessionId connection found
    simp only [State.note]
    unfold History.sessionPlacementAfter
    split
    · exact update_or found
    · exact found
  requestPlacement := by
    intro number connection found
    simp only [State.note]
    unfold History.requestPlacementAfter
    split
    · simp [found]
    · exact found
  waiterTask := by
    intro waiter taskId found
    simp only [State.note]
    unfold History.waiterTaskAfter
    split
    · exact update_or found
    · exact found
  waiterRequest := by
    intro waiter number found
    simp only [State.note]
    unfold History.waiterRequestAfter
    split
    · exact update_or found
    · exact found

theorem extends_exec {action : Action} {answer : action.Answer}
    (ran : State.exec task fresh state action = some (after, answer)) :
    state.history.Extends after.history := by
  rw [history_exec ran]
  exact note_extends ..

theorem extends_refl (_ : ℕ) (state : State) : state.history.Extends state.history :=
  .refl state.history

theorem extends_trans {_ : ℕ} {first middle last : State}
    (one : first.history.Extends middle.history) (two : middle.history.Extends last.history) :
    first.history.Extends last.history :=
  one.trans two

end SpeechMesh.Model
