import SpeechMesh.Model.Effects
import SpeechMesh.Model.System

/-! # What an event can change

The environment moves frames, ends writers and answers for the providers. It leaves the registry,
the waiters and the history alone, up to the iteration order of the hash maps.
-/

namespace SpeechMesh.Model

open Async

/-- What the machine executes, as an effect on the state. -/
theorem ran_exec {config : GatewayConfig} {task fresh : ℕ} {state after : State} {action : Action}
    {answer : action.Answer}
    (ran : (system config).exec task fresh state action = some (after, answer)) :
    State.exec task fresh state action = some (after, answer) := ran

/-- The same maps, in whatever order they are iterated. -/
structure AgentRegistry.Agree (before after : AgentRegistry) : Prop where
  agents : ∀ agentId, after.deviceRegistry.agents.lookup agentId =
    before.deviceRegistry.agents.lookup agentId
  tasks : ∀ taskId, after.deviceRegistry.tasks.lookup taskId =
    before.deviceRegistry.tasks.lookup taskId
  sessions : ∀ sessionId, after.sessions.lookup sessionId = before.sessions.lookup sessionId
  taskWaiters : ∀ taskId, after.taskWaiters.lookup taskId = before.taskWaiters.lookup taskId

theorem AgentRegistry.Agree.refl (registry : AgentRegistry) : registry.Agree registry :=
  ⟨fun _ => rfl, fun _ => rfl, fun _ => rfl, fun _ => rfl⟩

/-- The parts of the state no event touches. -/
structure State.Undisturbed (before after : State) : Prop where
  registry : before.registry.Agree after.registry
  answers : ∀ connection, (after.controls connection).out = (before.controls connection).out
  broken : ∀ connection, (before.controls connection).broken = true →
    (after.controls connection).broken = true
  history : after.history = before.history
  taskReplies : after.taskReplies = before.taskReplies
  nextWaiter : after.nextWaiter = before.nextWaiter
  sessionSerial : after.sessionSerial = before.sessionSerial
  started : after.started = before.started
  active : after.active = before.active
  queued : after.queued = before.queued
  clientClosed : ∀ connection, (before.clients connection).out.closed = true →
    (after.clients connection).out.closed = true

variable {state after : State} {tasks : ℕ}

theorem State.Undisturbed.refl (state : State) : state.Undisturbed state :=
  ⟨.refl _, fun _ => rfl, fun _ => id, rfl, rfl, rfl, rfl, rfl, rfl, rfl, fun _ => id⟩

/-- A change of one client link that keeps its slot and what was queued. -/
theorem State.Undisturbed.client {connection : ℕ} {link : ClientLink}
    (active : link.active = (state.clients connection).active)
    (sent : link.out.sent = (state.clients connection).out.sent)
    (closed : (state.clients connection).out.closed = true → link.out.closed = true) :
    state.Undisturbed (state.setClient connection link) :=
  { State.Undisturbed.refl state with
    active := by
      funext other
      by_cases same : other = connection <;> simp [State.active, State.setClient, same, active]
    queued := by
      funext other
      by_cases same : other = connection <;> simp [State.queued, State.setClient, same, sent]
    clientClosed := by
      intro other
      by_cases same : other = connection
      · subst same
        simpa [State.setClient] using closed
      · simp [State.setClient, same] }

/-- A change of one control link that keeps what was sent. -/
theorem State.Undisturbed.control {connection : ℕ} {link : ControlLink}
    (out : link.out = (state.controls connection).out)
    (broken : (state.controls connection).broken = true → link.broken = true) :
    state.Undisturbed (state.setControl connection link) :=
  { State.Undisturbed.refl state with
    answers := by
      intro other
      by_cases same : other = connection <;> simp [State.setControl, same, out]
    broken := by
      intro other
      by_cases same : other = connection
      · subst same
        simpa [State.setControl] using broken
      · simp [State.setControl, same] }

/-- A change of anything but the registry, the waiters, the sessions, the clients, the controls and
the history. -/
theorem State.Undisturbed.elsewhere (registry : state.registry = after.registry)
    (controls : after.controls = state.controls) (history : after.history = state.history)
    (taskReplies : after.taskReplies = state.taskReplies)
    (nextWaiter : after.nextWaiter = state.nextWaiter)
    (sessionSerial : after.sessionSerial = state.sessionSerial)
    (started : after.started = state.started) (clients : after.clients = state.clients) :
    state.Undisturbed after where
  registry := registry ▸ .refl _
  answers := fun _ => controls ▸ rfl
  broken := fun _ => controls ▸ id
  history := history
  taskReplies := taskReplies
  nextWaiter := nextWaiter
  sessionSerial := sessionSerial
  started := started
  active := by funext; simp only [State.active, clients]
  queued := by funext; simp only [State.queued, clients]
  clientClosed := fun _ => clients ▸ id

private theorem relayDevice_undisturbed {device : ℕ}
    (relayed : state.relayDevice device = some after) : state.Undisturbed after := by
  simp only [State.relayDevice, Option.bind_eq_bind, Option.bind_eq_some_iff] at relayed
  obtain ⟨connection, _, ⟨out, message⟩, _, message', _, same⟩ := relayed
  obtain rfl := Option.some.inj same
  exact .elsewhere rfl rfl rfl rfl rfl rfl rfl rfl

theorem occur_undisturbed {event : Event} {spawned : List Procedure}
    (occurred : state.occur tasks event = some (after, spawned)) : state.Undisturbed after := by
  cases event with
  | connectAgent | connectControl | connectClient =>
    obtain ⟨rfl, _⟩ := Prod.mk.inj (Option.some.inj occurred)
    exact .refl _
  | connectDevice hello | agentWriterEnds connection | deviceWriterEnds device
  | playerDoes device outcome | timeElapses task =>
    obtain ⟨rfl, _⟩ := Prod.mk.inj (Option.some.inj occurred)
    exact .elsewhere rfl rfl rfl rfl rfl rfl rfl rfl
  | controlInput connection frame =>
    obtain ⟨rfl, _⟩ := Prod.mk.inj (Option.some.inj occurred)
    exact .control rfl id
  | controlBreaks connection =>
    obtain ⟨rfl, _⟩ := Prod.mk.inj (Option.some.inj occurred)
    exact .control rfl fun _ => rfl
  | agentInput connection input =>
    simp only [State.occur] at occurred
    split at occurred
    · split_ifs at occurred
      obtain ⟨rfl, _⟩ := Prod.mk.inj (Option.some.inj occurred)
      exact .elsewhere rfl rfl rfl rfl rfl rfl rfl rfl
    · obtain ⟨rfl, _⟩ := Prod.mk.inj (Option.some.inj occurred)
      exact .elsewhere rfl rfl rfl rfl rfl rfl rfl rfl
  | deviceInput device input =>
    simp only [State.occur] at occurred
    split at occurred
    · cases occurred
    · obtain ⟨rfl, _⟩ := Prod.mk.inj (Option.some.inj occurred)
      exact .elsewhere rfl rfl rfl rfl rfl rfl rfl rfl
  | agentWrites connection =>
    obtain ⟨_, _, same⟩ := Option.map_eq_some_iff.mp occurred
    obtain ⟨rfl, _⟩ := Prod.mk.inj same
    exact .elsewhere rfl rfl rfl rfl rfl rfl rfl rfl
  | deviceWrites device =>
    obtain ⟨_, relayed, same⟩ := Option.map_eq_some_iff.mp occurred
    obtain ⟨rfl, _⟩ := Prod.mk.inj same
    exact relayDevice_undisturbed relayed
  | asrProvider sessionId move | ttsProvider sessionId move =>
    simp only [State.occur] at occurred
    split_ifs at occurred
    obtain ⟨_, _, same⟩ := Option.map_eq_some_iff.mp occurred
    obtain ⟨rfl, _⟩ := Prod.mk.inj same
    exact .elsewhere rfl rfl rfl rfl rfl rfl rfl rfl
  | clientInput connection frame | providerReplies connection reply =>
    obtain ⟨rfl, _⟩ := Prod.mk.inj (Option.some.inj occurred)
    exact .client rfl rfl id
  | clientWriterEnds connection =>
    obtain ⟨rfl, _⟩ := Prod.mk.inj (Option.some.inj occurred)
    exact .client rfl rfl fun _ => rfl
  | clientWrites connection =>
    obtain ⟨⟨out, _⟩, written, same⟩ := Option.map_eq_some_iff.mp occurred
    obtain ⟨rfl, _⟩ := Prod.mk.inj same
    exact .client rfl (Channel.receive?_sent written) fun closed =>
      (Channel.receive?_closed written).trans closed
  | reorderAgents order =>
    obtain ⟨rfl, _⟩ := Prod.mk.inj (Option.some.inj occurred)
    exact { State.Undisturbed.refl state with
      registry := { AgentRegistry.Agree.refl state.registry with
        agents := fun _ => Table.lookup_reorder .. } }
  | reorderTasks order =>
    obtain ⟨rfl, _⟩ := Prod.mk.inj (Option.some.inj occurred)
    exact { State.Undisturbed.refl state with
      registry := { AgentRegistry.Agree.refl state.registry with
        tasks := fun _ => Table.lookup_reorder .. } }
  | reorderSessions order =>
    obtain ⟨rfl, _⟩ := Prod.mk.inj (Option.some.inj occurred)
    exact { State.Undisturbed.refl state with
      registry := { AgentRegistry.Agree.refl state.registry with
        sessions := fun _ => Table.lookup_reorder .. } }

/-- No event puts a message on a command channel. -/
theorem occur_commanded {event : Event} {spawned : List Procedure}
    (occurred : state.occur tasks event = some (after, spawned)) :
    after.commanded = state.commanded := by
  cases event with
  | connectAgent | connectControl | connectClient | connectDevice hello | deviceWriterEnds device
  | playerDoes device outcome | timeElapses task | controlInput connection frame
  | controlBreaks connection | clientInput connection frame | providerReplies connection reply
  | clientWriterEnds connection | reorderAgents order | reorderTasks order
  | reorderSessions order =>
    obtain ⟨rfl, _⟩ := Prod.mk.inj (Option.some.inj occurred)
    rfl
  | agentWriterEnds connection =>
    obtain ⟨rfl, _⟩ := Prod.mk.inj (Option.some.inj occurred)
    exact commanded_setAgent rfl
  | agentWrites connection =>
    obtain ⟨_, written, same⟩ := Option.map_eq_some_iff.mp occurred
    obtain ⟨rfl, _⟩ := Prod.mk.inj same
    exact commanded_setAgent (Channel.receive?_sent written)
  | agentInput connection input =>
    simp only [State.occur] at occurred
    split at occurred
    · split_ifs at occurred
      obtain ⟨rfl, _⟩ := Prod.mk.inj (Option.some.inj occurred)
      exact commanded_setAgent rfl
    · obtain ⟨rfl, _⟩ := Prod.mk.inj (Option.some.inj occurred)
      exact commanded_setAgent rfl
  | deviceInput device input =>
    simp only [State.occur] at occurred
    split at occurred
    · cases occurred
    · obtain ⟨rfl, _⟩ := Prod.mk.inj (Option.some.inj occurred)
      rfl
  | deviceWrites device =>
    obtain ⟨_, relayed, same⟩ := Option.map_eq_some_iff.mp occurred
    obtain ⟨rfl, _⟩ := Prod.mk.inj same
    simp only [State.relayDevice, Option.bind_eq_bind, Option.bind_eq_some_iff] at relayed
    obtain ⟨connection, _, ⟨out, message⟩, _, message', _, same⟩ := relayed
    obtain rfl := Option.some.inj same
    exact commanded_setAgent rfl
  | asrProvider sessionId move | ttsProvider sessionId move =>
    simp only [State.occur] at occurred
    split_ifs at occurred
    obtain ⟨_, _, same⟩ := Option.map_eq_some_iff.mp occurred
    obtain ⟨rfl, _⟩ := Prod.mk.inj same
    rfl
  | clientWrites connection =>
    obtain ⟨_, _, same⟩ := Option.map_eq_some_iff.mp occurred
    obtain ⟨rfl, _⟩ := Prod.mk.inj same
    rfl

private theorem silenced_enqueueAgent (connection : ℕ) (input : Stamped AgentInput) :
    (state.enqueueAgent connection input).silenced = state.silenced := silenced_setAgent rfl

/-- A writer that is gone stays gone. -/
theorem occur_silenced {event : Event} {spawned : List Procedure} {connection : ℕ}
    (occurred : state.occur tasks event = some (after, spawned))
    (silenced : state.silenced connection = true) : after.silenced connection = true := by
  cases event with
  | connectAgent | connectControl | connectClient | connectDevice hello | deviceWriterEnds device
  | playerDoes device outcome | timeElapses task | controlInput connection frame
  | controlBreaks connection | clientInput connection frame | providerReplies connection reply
  | clientWriterEnds connection | reorderAgents order | reorderTasks order
  | reorderSessions order =>
    obtain ⟨rfl, _⟩ := Prod.mk.inj (Option.some.inj occurred)
    exact silenced
  | agentWriterEnds other =>
    obtain ⟨rfl, _⟩ := Prod.mk.inj (Option.some.inj occurred)
    by_cases here : connection = other
    · subst here
      simp [State.silenced, State.setAgent]
    · simpa [State.silenced, State.setAgent, here] using silenced
  | agentWrites other =>
    obtain ⟨_, written, same⟩ := Option.map_eq_some_iff.mp occurred
    obtain ⟨rfl, _⟩ := Prod.mk.inj same
    rwa [silenced_setAgent (Channel.receive?_closed written)]
  | agentInput other input =>
    simp only [State.occur] at occurred
    split at occurred
    · split_ifs at occurred
      obtain ⟨rfl, _⟩ := Prod.mk.inj (Option.some.inj occurred)
      rwa [silenced_enqueueAgent]
    · obtain ⟨rfl, _⟩ := Prod.mk.inj (Option.some.inj occurred)
      rwa [silenced_enqueueAgent]
  | deviceInput device input =>
    simp only [State.occur] at occurred
    split at occurred
    · cases occurred
    · obtain ⟨rfl, _⟩ := Prod.mk.inj (Option.some.inj occurred)
      exact silenced
  | deviceWrites device =>
    obtain ⟨_, relayed, same⟩ := Option.map_eq_some_iff.mp occurred
    obtain ⟨rfl, _⟩ := Prod.mk.inj same
    simp only [State.relayDevice, Option.bind_eq_bind, Option.bind_eq_some_iff] at relayed
    obtain ⟨other, _, ⟨out, message⟩, _, message', _, same⟩ := relayed
    obtain rfl := Option.some.inj same
    rwa [silenced_enqueueAgent]
  | asrProvider sessionId move | ttsProvider sessionId move =>
    simp only [State.occur] at occurred
    split_ifs at occurred
    obtain ⟨_, _, same⟩ := Option.map_eq_some_iff.mp occurred
    obtain ⟨rfl, _⟩ := Prod.mk.inj same
    exact silenced
  | clientWrites other =>
    obtain ⟨_, _, same⟩ := Option.map_eq_some_iff.mp occurred
    obtain ⟨rfl, _⟩ := Prod.mk.inj same
    exact silenced

private theorem Stream.move?_grows {κ ε : Type} {stream after : Stream κ ε} {move : ProviderMove ε}
    (moved : stream.move? move = some after) : stream.Grows after := by
  cases move with
  | emit event | takeCommand =>
    obtain ⟨⟨_, answer⟩, ran, rfl⟩ := Option.map_eq_some_iff.mp moved
    exact Stream.run_grows ran
  | closeCommands =>
    obtain rfl := Option.some.inj moved
    exact ⟨List.prefix_rfl, List.prefix_rfl, fun _ => rfl⟩
  | releaseEvents =>
    obtain rfl := Option.some.inj moved
    exact ⟨List.prefix_rfl, List.prefix_rfl, id⟩

/-- What can happen to the streams of the sessions in one event: a provider uses the channels of its
session. -/
inductive State.ProviderChange (state after : State) : Event → Prop where
  | unchanged {event : Event} (asr : after.asrStreams = state.asrStreams)
      (tts : after.ttsStreams = state.ttsStreams) : ProviderChange state after event
  | asr {sessionId : SessionId} {move : ProviderMove BridgeAsrEvent}
      {stream : Stream BridgeCommand BridgeAsrEvent}
      (provider : (state.asrStreams sessionId).provider = true)
      (moved : (state.asrStreams sessionId).move? move = some stream)
      (updated : after.asrStreams = Function.update state.asrStreams sessionId stream)
      (tts : after.ttsStreams = state.ttsStreams) :
      ProviderChange state after (.asrProvider sessionId move)
  | tts {sessionId : SessionId} {move : ProviderMove BridgeTtsEvent}
      {stream : Stream BridgeTtsCommand BridgeTtsEvent}
      (provider : (state.ttsStreams sessionId).provider = true)
      (moved : (state.ttsStreams sessionId).move? move = some stream)
      (updated : after.ttsStreams = Function.update state.ttsStreams sessionId stream)
      (asr : after.asrStreams = state.asrStreams) :
      ProviderChange state after (.ttsProvider sessionId move)

theorem occur_providers {event : Event} {spawned : List Procedure}
    (occurred : state.occur tasks event = some (after, spawned)) :
    state.ProviderChange after event := by
  cases event with
  | connectAgent | connectControl | connectClient | connectDevice hello | deviceWriterEnds device
  | playerDoes device outcome | timeElapses task | controlInput connection frame
  | controlBreaks connection | clientInput connection frame | providerReplies connection reply
  | clientWriterEnds connection | reorderAgents order | reorderTasks order
  | reorderSessions order | agentWriterEnds connection =>
    obtain ⟨rfl, _⟩ := Prod.mk.inj (Option.some.inj occurred)
    exact .unchanged rfl rfl
  | agentWrites connection | clientWrites connection =>
    obtain ⟨_, _, same⟩ := Option.map_eq_some_iff.mp occurred
    obtain ⟨rfl, _⟩ := Prod.mk.inj same
    exact .unchanged rfl rfl
  | agentInput connection input =>
    simp only [State.occur] at occurred
    split at occurred
    · split_ifs at occurred
      obtain ⟨rfl, _⟩ := Prod.mk.inj (Option.some.inj occurred)
      exact .unchanged rfl rfl
    · obtain ⟨rfl, _⟩ := Prod.mk.inj (Option.some.inj occurred)
      exact .unchanged rfl rfl
  | deviceInput device input =>
    simp only [State.occur] at occurred
    split at occurred
    · cases occurred
    · obtain ⟨rfl, _⟩ := Prod.mk.inj (Option.some.inj occurred)
      exact .unchanged rfl rfl
  | deviceWrites device =>
    obtain ⟨_, relayed, same⟩ := Option.map_eq_some_iff.mp occurred
    obtain ⟨rfl, _⟩ := Prod.mk.inj same
    simp only [State.relayDevice, Option.bind_eq_bind, Option.bind_eq_some_iff] at relayed
    obtain ⟨connection, _, ⟨out, message⟩, _, message', _, same⟩ := relayed
    obtain rfl := Option.some.inj same
    exact .unchanged rfl rfl
  | asrProvider sessionId move =>
    simp only [State.occur] at occurred
    split_ifs at occurred with provider
    obtain ⟨stream, moved, same⟩ := Option.map_eq_some_iff.mp occurred
    obtain ⟨rfl, _⟩ := Prod.mk.inj same
    exact .asr provider moved rfl rfl
  | ttsProvider sessionId move =>
    simp only [State.occur] at occurred
    split_ifs at occurred with provider
    obtain ⟨stream, moved, same⟩ := Option.map_eq_some_iff.mp occurred
    obtain ⟨rfl, _⟩ := Prod.mk.inj same
    exact .tts provider moved rfl rfl

private theorem update_grows_all {κ ε : Type} {streams : SessionId → Stream κ ε}
    {changed : SessionId} {stream : Stream κ ε} (grows : (streams changed).Grows stream)
    (sessionId : SessionId) :
    (streams sessionId).Grows (Function.update streams changed stream sessionId) := by
  by_cases same : sessionId = changed
  · subst same
    rw [Function.update_self]
    exact grows
  · rw [Function.update_of_ne same]
    exact .refl _

/-- A provider does nothing but use the channels of its session. -/
theorem occur_streams {event : Event} {spawned : List Procedure}
    (occurred : state.occur tasks event = some (after, spawned)) : state.StreamsGrow after := by
  cases occur_providers occurred with
  | unchanged asr tts => exact ⟨fun _ _ => asr ▸ .refl _, fun _ _ => tts ▸ .refl _⟩
  | asr _ moved updated tts =>
    refine ⟨fun sessionId _ => ?_, fun _ _ => tts ▸ .refl _⟩
    rw [updated]
    exact update_grows_all (Stream.move?_grows moved) sessionId
  | tts _ moved updated asr =>
    refine ⟨fun _ _ => asr ▸ .refl _, fun sessionId _ => ?_⟩
    rw [updated]
    exact update_grows_all (Stream.move?_grows moved) sessionId

/-- The procedures a connection opens with. -/
def Procedure.Opens : Procedure → Prop
  | .agentHello | .controlLoop | .clientLoop | .deviceHello _ => True
  | _ => False

/-- Only a connection starts tasks: its own, and that of the device behind it. -/
theorem occur_spawned {event : Event} {spawned : List Procedure}
    (occurred : state.occur tasks event = some (after, spawned)) :
    spawned = [] ∨ spawned = [.agentHello] ∨ spawned = [.controlLoop] ∨ spawned = [.clientLoop] ∨
      ∃ hello, event = .connectDevice hello ∧ spawned = [.agentHello, .deviceHello hello] := by
  cases event with
  | connectAgent | connectControl | connectClient | connectDevice hello =>
    obtain ⟨_, rfl⟩ := Prod.mk.inj (Option.some.inj occurred)
    simp
  | deviceWriterEnds device | playerDoes device outcome | timeElapses task
  | controlInput connection frame | controlBreaks connection | clientInput connection frame
  | providerReplies connection reply | clientWriterEnds connection | reorderAgents order
  | reorderTasks order | reorderSessions order | agentWriterEnds connection =>
    obtain ⟨_, rfl⟩ := Prod.mk.inj (Option.some.inj occurred)
    exact .inl rfl
  | agentInput connection input =>
    simp only [State.occur] at occurred
    split at occurred
    · split_ifs at occurred
      exact .inl (Prod.mk.inj (Option.some.inj occurred)).2.symm
    · exact .inl (Prod.mk.inj (Option.some.inj occurred)).2.symm
  | deviceInput device input =>
    simp only [State.occur] at occurred
    split at occurred
    · cases occurred
    · exact .inl (Prod.mk.inj (Option.some.inj occurred)).2.symm
  | agentWrites connection | deviceWrites device | clientWrites connection =>
    obtain ⟨_, _, same⟩ := Option.map_eq_some_iff.mp occurred
    exact .inl (Prod.mk.inj same).2.symm
  | asrProvider sessionId move | ttsProvider sessionId move =>
    simp only [State.occur] at occurred
    split_ifs at occurred
    obtain ⟨_, _, same⟩ := Option.map_eq_some_iff.mp occurred
    exact .inl (Prod.mk.inj same).2.symm

theorem occur_opens {event : Event} {spawned : List Procedure}
    (occurred : state.occur tasks event = some (after, spawned)) :
    ∀ procedure ∈ spawned, procedure.Opens := by
  rcases occur_spawned occurred with rfl | rfl | rfl | rfl | ⟨hello, _, rfl⟩ <;>
    simp [Procedure.Opens]

/-- A device starts with a link of its own. -/
theorem occur_deviceHello {event : Event} {spawned : List Procedure} {offset : ℕ}
    {hello : AgentHelloPayload} (occurred : state.occur tasks event = some (after, spawned))
    (entered : spawned[offset]? = some (.deviceHello hello)) :
    after.devices (tasks + offset) = { connection := some tasks } := by
  rcases occur_spawned occurred with rfl | rfl | rfl | rfl | ⟨greeting, rfl, rfl⟩
  · cases entered
  · cases List.mem_singleton.mp (List.mem_of_getElem? entered)
  · cases List.mem_singleton.mp (List.mem_of_getElem? entered)
  · cases List.mem_singleton.mp (List.mem_of_getElem? entered)
  · obtain ⟨rfl, _⟩ := Prod.mk.inj (Option.some.inj occurred)
    match offset, entered with
    | 1, _ => exact Function.update_self ..

/-! ## Inboxes and devices -/

/-- What an event can do to a device that is there: give it a frame that is not a message of the
gateway, give its player an outcome, or do something to its writer. -/
structure DeviceLink.Kept (event : Event) (device : ℕ) (before after : DeviceLink) : Prop where
  connection : after.connection = before.connection
  read : after.read = before.read
  tracker : after.tracker = before.tracker
  said : after.out.sent = before.out.sent
  inbox : ∀ input ∈ after.inbox, input ∈ before.inbox ∨
    ∀ message, input ≠ .frame (.text (.ok message))
  player : ∀ outcome ∈ after.player, outcome ∈ before.player ∨ event = .playerDoes device outcome

theorem DeviceLink.Kept.refl (event : Event) (device : ℕ) (link : DeviceLink) :
    link.Kept event device link :=
  ⟨rfl, rfl, rfl, rfl, fun _ => .inl, fun _ => .inl⟩

/-- A change of one device. -/
private theorem kept_setDevice {event : Event} {changed : ℕ} {link : DeviceLink}
    (kept : (state.devices changed).Kept event changed link) (device : ℕ) :
    (state.devices device).Kept event device ((state.setDevice changed link).devices device) := by
  by_cases same : device = changed
  · subst same
    simpa [State.setDevice] using kept
  · simpa [State.setDevice, same] using DeviceLink.Kept.refl ..

/-- The devices that are there are kept, and one may connect. -/
theorem occur_devices {event : Event} {spawned : List Procedure}
    (occurred : state.occur tasks event = some (after, spawned)) (device : ℕ) :
    (state.devices device).Kept event device (after.devices device) ∨
      ∃ hello, event = .connectDevice hello ∧ device = tasks + 1 ∧
        after.devices device = { connection := some tasks } := by
  cases event with
  | connectAgent | connectControl | connectClient | timeElapses task | controlInput other frame
  | controlBreaks other | clientInput other frame | providerReplies other reply
  | clientWriterEnds other | reorderAgents order | reorderTasks order | reorderSessions order
  | agentWriterEnds other =>
    obtain ⟨rfl, _⟩ := Prod.mk.inj (Option.some.inj occurred)
    exact .inl (.refl ..)
  | connectDevice hello =>
    obtain ⟨rfl, _⟩ := Prod.mk.inj (Option.some.inj occurred)
    by_cases same : device = tasks + 1
    · subst same
      exact .inr ⟨hello, rfl, rfl, Function.update_self ..⟩
    · refine .inl ?_
      simpa [State.setDevice, same] using DeviceLink.Kept.refl ..
  | deviceWriterEnds changed =>
    obtain ⟨rfl, _⟩ := Prod.mk.inj (Option.some.inj occurred)
    refine .inl (kept_setDevice ?_ device)
    exact ⟨rfl, rfl, rfl, rfl, fun _ => .inl, fun _ => .inl⟩
  | playerDoes changed outcome =>
    obtain ⟨rfl, _⟩ := Prod.mk.inj (Option.some.inj occurred)
    refine .inl (kept_setDevice ?_ device)
    refine ⟨rfl, rfl, rfl, rfl, fun _ => .inl, fun other found => ?_⟩
    rcases List.mem_append.mp found with before | new
    · exact .inl before
    · exact .inr (by rw [List.mem_singleton.mp new])
  | agentInput other queued =>
    refine .inl ?_
    simp only [State.occur] at occurred
    split at occurred
    · split_ifs at occurred
      obtain ⟨rfl, _⟩ := Prod.mk.inj (Option.some.inj occurred)
      exact .refl ..
    · obtain ⟨rfl, _⟩ := Prod.mk.inj (Option.some.inj occurred)
      exact .refl ..
  | deviceInput changed input =>
    simp only [State.occur] at occurred
    split at occurred
    · cases occurred
    · rename_i foreign
      obtain ⟨rfl, _⟩ := Prod.mk.inj (Option.some.inj occurred)
      refine .inl (kept_setDevice ?_ device)
      refine ⟨rfl, rfl, rfl, rfl, fun other found => ?_, fun _ => .inl⟩
      rcases List.mem_append.mp found with before | new
      · exact .inl before
      · refine .inr fun message same => foreign message ?_
        rw [← List.mem_singleton.mp new, same]
  | deviceWrites changed =>
    obtain ⟨_, relayed, same⟩ := Option.map_eq_some_iff.mp occurred
    obtain ⟨rfl, _⟩ := Prod.mk.inj same
    simp only [State.relayDevice, Option.bind_eq_bind, Option.bind_eq_some_iff] at relayed
    obtain ⟨other, _, ⟨out, message⟩, received, report, _, same⟩ := relayed
    obtain rfl := Option.some.inj same
    left
    change (state.devices device).Kept _ device
      ((state.setDevice changed { state.devices changed with out }).devices device)
    refine kept_setDevice ?_ device
    exact ⟨rfl, rfl, rfl, Channel.receive?_sent received, fun _ => .inl, fun _ => .inl⟩
  | asrProvider sessionId move | ttsProvider sessionId move =>
    simp only [State.occur] at occurred
    split_ifs at occurred
    obtain ⟨_, _, same⟩ := Option.map_eq_some_iff.mp occurred
    obtain ⟨rfl, _⟩ := Prod.mk.inj same
    exact .inl (.refl ..)
  | agentWrites other | clientWrites other =>
    obtain ⟨_, _, same⟩ := Option.map_eq_some_iff.mp occurred
    obtain ⟨rfl, _⟩ := Prod.mk.inj same
    exact .inl (.refl ..)

end SpeechMesh.Model
