import SpeechMesh.Async.Log
import SpeechMesh.Soundness.AudioStream
import SpeechMesh.Soundness.RevisionStream
import SpeechMesh.Soundness.Scenario
import SpeechMesh.Soundness.SessionPrograms
import SpeechMesh.Soundness.SpokenAudio

/-! # What reaches the client of a session

In every schedule of the whole gateway, one task alone takes the events of a session and tells its
client about them. So what the runs of a forwarder ensure holds of the queues: the client that
created a session, and no other, is told the events of its bridge, in order and without a gap.
-/

namespace SpeechMesh.Model

/-! ## What was taken from a stream -/

section

variable {κ ε : Type} {stream after : Stream κ ε}

/-- The event that an operation takes from the stream. -/
def StreamAction.event? : (action : StreamAction κ ε) → action.Answer → Option ε
  | .receiveEvent, event => event
  | _, _ => none

/-- No more was received than was sent. -/
structure Stream.Counted (stream : Stream κ ε) : Prop where
  commands : stream.commands.Counted
  events : stream.events.Counted

theorem Stream.run_taken {capacity : ℕ} {action : StreamAction κ ε} {answer : action.Answer}
    (counted : stream.Counted) (ran : stream.run capacity action = some (after, answer)) :
    after.events.taken = stream.events.taken ++ (action.event? answer).toList ∧
      after.Counted := by
  cases action with
  | sendCommand command =>
    obtain ⟨⟨channel, accepted⟩, sent, same⟩ := Option.map_eq_some_iff.mp ran
    obtain ⟨rfl, _⟩ := Prod.mk.inj same
    have kept := Async.Channel.send?_taken counted.commands sent
    exact ⟨(List.append_nil _).symm, kept.2, counted.events⟩
  | receiveCommand =>
    obtain ⟨⟨channel, command⟩, received, same⟩ := Option.map_eq_some_iff.mp ran
    obtain ⟨rfl, _⟩ := Prod.mk.inj same
    have kept := Async.Channel.receive?_taken counted.commands received
    exact ⟨(List.append_nil _).symm, kept.2, counted.events⟩
  | sendEvent event =>
    obtain ⟨⟨channel, accepted⟩, sent, same⟩ := Option.map_eq_some_iff.mp ran
    obtain ⟨rfl, _⟩ := Prod.mk.inj same
    have kept := Async.Channel.send?_taken counted.events sent
    exact ⟨kept.1.trans (List.append_nil _).symm, counted.commands, kept.2⟩
  | receiveEvent =>
    obtain ⟨⟨channel, event⟩, received, same⟩ := Option.map_eq_some_iff.mp ran
    obtain ⟨rfl, rfl⟩ := Prod.mk.inj same
    have kept := Async.Channel.receive?_taken counted.events received
    exact ⟨kept.1, counted.commands, kept.2⟩
  | closeCommands | closeEvents | releaseCommands =>
    obtain ⟨rfl, _⟩ := Prod.mk.inj (Option.some.inj ran)
    exact ⟨(List.append_nil _).symm, counted.commands, counted.events⟩

/-- A provider takes no events. -/
theorem Stream.move?_taken {move : ProviderMove ε} (counted : stream.Counted)
    (moved : stream.move? move = some after) :
    after.events.taken = stream.events.taken ∧ after.Counted := by
  cases move with
  | emit event | takeCommand =>
    obtain ⟨⟨_, answer⟩, ran, rfl⟩ := Option.map_eq_some_iff.mp moved
    have kept := Stream.run_taken counted ran
    exact ⟨kept.1.trans (List.append_nil _), kept.2⟩
  | closeCommands =>
    obtain rfl := Option.some.inj moved
    exact ⟨rfl, counted.commands, counted.events⟩
  | releaseEvents =>
    obtain rfl := Option.some.inj moved
    exact ⟨rfl, counted.commands, counted.events⟩

end

end SpeechMesh.Model

namespace SpeechMesh.Soundness

open Async Model

variable {config : GatewayConfig} {index size fresh task : ℕ} {name : Procedure}
  {state after : State} {action : Action} {answer : action.Answer} {sessionId : SessionId}
  {log : Log (system config)}

/-! ## What one action takes -/

theorem asrHeardBy_operated {operation : StreamAction BridgeCommand BridgeAsrEvent}
    {answer : operation.Answer} :
    asrHeardBy sessionId ⟨.asr sessionId operation, answer⟩ = operation.event? answer := by
  cases operation with
  | receiveEvent => exact asrHeardBy_receive answer
  | _ => rfl

theorem asrHeardBy_elsewhere {other : SessionId}
    {operation : StreamAction BridgeCommand BridgeAsrEvent} {answer : operation.Answer}
    (different : sessionId ≠ other) :
    asrHeardBy sessionId ⟨.asr other operation, answer⟩ = none := by
  cases operation with
  | receiveEvent => exact if_neg (Ne.symm different)
  | _ => rfl

theorem ttsHeardBy_operated {operation : StreamAction BridgeTtsCommand BridgeTtsEvent}
    {answer : operation.Answer} :
    ttsHeardBy sessionId ⟨.tts sessionId operation, answer⟩ = operation.event? answer := by
  cases operation with
  | receiveEvent => exact ttsHeardBy_receive answer
  | _ => rfl

theorem ttsHeardBy_elsewhere {other : SessionId}
    {operation : StreamAction BridgeTtsCommand BridgeTtsEvent} {answer : operation.Answer}
    (different : sessionId ≠ other) :
    ttsHeardBy sessionId ⟨.tts other operation, answer⟩ = none := by
  cases operation with
  | receiveEvent => exact if_neg (Ne.symm different)
  | _ => rfl

/-- What an action does to the events that were taken from a stream: it takes what it hears, or it
creates the stream. -/
structure Takes {κ ε : Type} (created : Prop) (heard : Option ε) (before after : Model.Stream κ ε) :
    Prop where
  counted : after.Counted
  taken : after.events.taken = before.events.taken ++ heard.toList ∨
    (created ∧ heard = none ∧ after.events.taken = [])

theorem asr_takes (ran : State.exec task fresh state action = some (after, answer))
    (counted : (state.asrStreams sessionId).Counted) :
    Takes (state.sessionSerial ≤ sessionId.serial) (asrHeardBy sessionId ⟨action, answer⟩)
      (state.asrStreams sessionId) (after.asrStreams sessionId) := by
  cases asrStreams_exec ran with
  | unchanged other same =>
    have silent : asrHeardBy sessionId ⟨action, answer⟩ = none := by
      cases action with
      | asr owner operation => exact absurd rfl (other owner operation)
      | _ => rfl
    rw [same, silent]
    exact ⟨counted, .inl (List.append_nil _).symm⟩
  | @operated owner operation stream answer operated updated =>
    rw [updated]
    by_cases same : sessionId = owner
    · subst same
      have taken := Stream.run_taken counted operated
      rw [Function.update_self, asrHeardBy_operated]
      exact ⟨taken.2, .inl taken.1⟩
    · rw [Function.update_of_ne same, asrHeardBy_elsewhere same]
      exact ⟨counted, .inl (List.append_nil _).symm⟩
  | created updated =>
    rw [updated]
    by_cases same : sessionId = ⟨task, state.sessionSerial⟩
    · subst same
      rw [Function.update_self]
      exact ⟨⟨Nat.le_refl _, Nat.le_refl _⟩, .inr ⟨Nat.le_refl _, rfl, rfl⟩⟩
    · rw [Function.update_of_ne same]
      exact ⟨counted, .inl (List.append_nil _).symm⟩

theorem tts_takes (ran : State.exec task fresh state action = some (after, answer))
    (counted : (state.ttsStreams sessionId).Counted) :
    Takes (state.sessionSerial ≤ sessionId.serial) (ttsHeardBy sessionId ⟨action, answer⟩)
      (state.ttsStreams sessionId) (after.ttsStreams sessionId) := by
  cases ttsStreams_exec ran with
  | unchanged other same =>
    have silent : ttsHeardBy sessionId ⟨action, answer⟩ = none := by
      cases action with
      | tts owner operation => exact absurd rfl (other owner operation)
      | _ => rfl
    rw [same, silent]
    exact ⟨counted, .inl (List.append_nil _).symm⟩
  | @operated owner operation stream answer operated updated =>
    rw [updated]
    by_cases same : sessionId = owner
    · subst same
      have taken := Stream.run_taken counted operated
      rw [Function.update_self, ttsHeardBy_operated]
      exact ⟨taken.2, .inl taken.1⟩
    · rw [Function.update_of_ne same, ttsHeardBy_elsewhere same]
      exact ⟨counted, .inl (List.append_nil _).symm⟩
  | created updated =>
    rw [updated]
    by_cases same : sessionId = ⟨task, state.sessionSerial⟩
    · subst same
      rw [Function.update_self]
      exact ⟨⟨Nat.le_refl _, Nat.le_refl _⟩, .inr ⟨Nat.le_refl _, rfl, rfl⟩⟩
    · rw [Function.update_of_ne same]
      exact ⟨counted, .inl (List.append_nil _).symm⟩

/-- No event takes anything, but a provider may use the stream. -/
theorem occur_taken {event : Event} {spawned : List Procedure}
    (occurred : state.occur size event = some (after, spawned))
    (asr : (state.asrStreams sessionId).Counted) (tts : (state.ttsStreams sessionId).Counted) :
    Takes False none (state.asrStreams sessionId) (after.asrStreams sessionId) ∧
      Takes False none (state.ttsStreams sessionId) (after.ttsStreams sessionId) := by
  have kept {κ ε : Type} {stream : Model.Stream κ ε} (counted : stream.Counted) :
      Takes False none stream stream := ⟨counted, .inl (List.append_nil _).symm⟩
  have moves {κ ε : Type} {streams : SessionId → Model.Stream κ ε} {changed : SessionId}
      {stream : Model.Stream κ ε} {move : ProviderMove ε} (counted : (streams sessionId).Counted)
      (moved : (streams changed).move? move = some stream) :
      Takes False none (streams sessionId) (Function.update streams changed stream sessionId) := by
    by_cases same : sessionId = changed
    · subst same
      have taken := Stream.move?_taken counted moved
      rw [Function.update_self]
      exact ⟨taken.2, .inl (taken.1.trans (List.append_nil _).symm)⟩
    · rw [Function.update_of_ne same]
      exact kept counted
  cases occur_providers occurred with
  | unchanged asrSame ttsSame =>
    rw [asrSame, ttsSame]
    exact ⟨kept asr, kept tts⟩
  | asr _ moved updated same =>
    rw [updated, same]
    exact ⟨moves asr moved, kept tts⟩
  | tts _ moved updated same =>
    rw [updated, same]
    exact ⟨kept asr, moves tts moved⟩

/-! ## What only the forwarder of a session does -/

/-- What a client is told by the forwarder of a session only. -/
def ServerMessage.streams (sessionId : SessionId) : ServerMessage → Bool
  | .asrResult owner _ _ | .ttsAudioDelta owner _ _ | .ttsAudioDone owner _ _
  | .sessionEnded owner _ => owner = sessionId
  | _ => false

/-- The streamed message that the action queues for the client of the session. -/
def streamedBy (sessionId : SessionId) (entry : Entry gateway) : Option ServerMessage :=
  (queuedBy sessionId.creator entry).filter (ServerMessage.streams sessionId)

/-- The action shows what the forwarder of the session does. -/
def Shows (sessionId : SessionId) (entry : Entry gateway) : Prop :=
  asrHeardBy sessionId entry ≠ none ∨ ttsHeardBy sessionId entry ≠ none ∨
    streamedBy sessionId entry ≠ none

theorem receives_asr {role : Role} (streams : role.Streams sessionId .receiveEvent) :
    ∃ connection, role = .forwarder connection sessionId := by
  cases role with
  | forwarder connection own =>
    have same : sessionId = own := streams
    exact ⟨connection, same ▸ rfl⟩
  | _ => exact streams.elim

theorem receives_tts {role : Role} (speaks : role.Speaks sessionId .receiveEvent) :
    ∃ connection, role = .forwarder connection sessionId := by
  cases role with
  | forwarder connection own =>
    have same : sessionId = own := speaks
    exact ⟨connection, same ▸ rfl⟩
  | _ => exact speaks.elim

theorem queues_stream {role : Role} {connection : ℕ} {message : ServerMessage}
    (queues : role.Queues index connection message)
    (streams : ServerMessage.streams sessionId message = true) :
    ∃ connection, role = .forwarder connection sessionId := by
  have indirect : ¬ message.Direct := by
    intro direct
    cases message <;> first | exact direct.elim | cases streams
  cases role with
  | forwarder own other =>
    obtain ⟨_, relayed⟩ := queues
    refine ⟨own, ?_⟩
    have same : other = sessionId := by
      cases message <;> first
        | exact (relayed : _ = other).symm.trans (of_decide_eq_true streams)
        | cases streams
    rw [same]
  | clientIdle => exact absurd queues.2.1 indirect
  | clientHandling => exact absurd queues.2.1 indirect
  | clientStarting => exact absurd queues.2 indirect
  | _ => exact queues.elim

/-- Who does what the forwarder of a session does is its forwarder. -/
theorem SessionStep.shown (step : SessionStep index name action state)
    (shows_ : Shows sessionId ⟨action, answer⟩) :
    state.history.forwarder sessionId = some index := by
  have permitted := step.permitted
  have forwards : ∃ connection, name.role = .forwarder connection sessionId := by
    rcases shows_ with heard | heard | streamed
    · cases action with
      | asr owner operation =>
        by_cases same : sessionId = owner
        · subst same
          cases operation with
          | receiveEvent => exact receives_asr permitted
          | _ => exact absurd rfl heard
        · exact absurd (asrHeardBy_elsewhere same) heard
      | _ => exact absurd rfl heard
    · cases action with
      | tts owner operation =>
        by_cases same : sessionId = owner
        · subst same
          cases operation with
          | receiveEvent => exact receives_tts permitted
          | _ => exact absurd rfl heard
        · exact absurd (ttsHeardBy_elsewhere same) heard
      | _ => exact absurd rfl heard
    · cases action with
      | sendClient connection message =>
        obtain ⟨told, streamed⟩ := Option.ne_none_iff_exists'.mp streamed
        obtain ⟨queued, streams⟩ := Option.filter_eq_some_iff.mp streamed
        have same : message = told := by
          simp only [queuedBy] at queued
          split_ifs at queued
          exact Option.some.inj queued
        subst same
        exact queues_stream permitted streams
      | _ => exact absurd rfl streamed
  obtain ⟨connection, role⟩ := forwards
  exact (step.forwards connection sessionId role).1

/-- A forwarder stays the forwarder of its session. -/
theorem SessionStep.forwarder_kept (step : SessionStep index name action state)
    (ran : State.exec index fresh state action = some (after, answer))
    (known : state.history.forwarder sessionId = some task) :
    after.history.forwarder sessionId = some task := by
  rcases forwarder_exec ran sessionId with same | ⟨procedure, connection, rfl, role, _⟩
  · rw [same, known]
  · rw [(step.spawns procedure connection sessionId rfl role).2.2.2] at known
    cases known

/-! ## The log and the state -/

/-- What the log tells about a session is what the state holds, and the actions of a forwarder are
those of the forwarder of the session. -/
structure Delivered (sessionId : SessionId) (state : State) (log : Log (system config)) : Prop where
  clients : ∀ connection, state.queued connection = queued connection (actions log)
  asr : asrHeard sessionId (actions log) = (state.asrStreams sessionId).events.taken
  asrCounted : (state.asrStreams sessionId).Counted
  tts : ttsHeard sessionId (actions log) = (state.ttsStreams sessionId).events.taken
  ttsCounted : (state.ttsStreams sessionId).Counted
  shown : ∀ task entry, Record.performed task entry ∈ log → Shows sessionId entry →
    state.history.forwarder sessionId = some task

theorem queued_exec (ran : State.exec task fresh state action = some (after, answer))
    (connection : ℕ) : after.queued connection =
      state.queued connection ++ (queuedBy connection ⟨action, answer⟩).toList := by
  rw [(connections_exec ran).queued]
  cases action with
  | sendClient receiver message =>
    by_cases same : connection = receiver
    · subst same
      refine (Function.update_self ..).trans ?_
      let told (message : Option ServerMessage) := state.queued connection ++ message.toList
      cases (answer : Bool) with
      | false => exact congrArg told (queuedBy_refused message).symm
      | true => exact congrArg told (queuedBy_taken message).symm
    · have silent : queuedBy connection ⟨.sendClient receiver message, answer⟩ = none :=
        if_neg fun both => same both.1.symm
      rw [silent]
      exact (Function.update_of_ne same ..).trans (List.append_nil _).symm
  | _ => exact (List.append_nil _).symm

/-- Of a session that is not forwarded yet nothing was shown. -/
theorem Delivered.unheard (delivered : Delivered sessionId state log)
    (unforwarded : state.history.forwarder sessionId = none) :
    asrHeard sessionId (actions log) = [] ∧ ttsHeard sessionId (actions log) = [] ∧
      (actions log).filterMap (streamedBy sessionId) = [] := by
  have unseen {α : Type} {observe : Entry gateway → Option α}
      (shows_ : ∀ entry, observe entry ≠ none → Shows sessionId entry) :
      (actions log).filterMap observe = [] := by
    rw [List.filterMap_eq_nil_iff]
    intro entry member
    by_contra seen
    obtain ⟨task, present⟩ := mem_actions.mp member
    have known := delivered.shown task entry present (shows_ entry seen)
    rw [unforwarded] at known
    cases known
  exact ⟨unseen fun _ => .inl, unseen fun _ => .inr ∘ .inl, unseen fun _ => .inr ∘ .inr⟩

theorem Takes.heard {κ ε : Type} {created : Prop} {heard : Option ε}
    {before after : Model.Stream κ ε} {all : List ε} (takes : Takes created heard before after) (known : all = before.events.taken)
    (new : created → all = []) : all ++ heard.toList = after.events.taken := by
  rcases takes.taken with taken | ⟨created, silent, empty⟩
  · rw [taken, known]
  · rw [silent, empty, new created]
    rfl

theorem Delivered.exec (delivered : Delivered sessionId state log)
    (owned : SessionsOwned size state) (step : SessionStep index name action state)
    (ran : State.exec index fresh state action = some (after, answer)) :
    Delivered sessionId after (log ++ [.performed index ⟨action, answer⟩]) where
  clients connection := by
    rw [actions_append, actions_performed, queued_snoc, queued_exec ran, delivered.clients]
  asr := by
    rw [actions_append, actions_performed, asrHeard_snoc]
    exact (asr_takes ran delivered.asrCounted).heard delivered.asr fun new =>
      (delivered.unheard (owned.unforwarded sessionId new)).1
  asrCounted := (asr_takes ran delivered.asrCounted).counted
  tts := by
    rw [actions_append, actions_performed, ttsHeard_snoc]
    exact (tts_takes ran delivered.ttsCounted).heard delivered.tts fun new =>
      (delivered.unheard (owned.unforwarded sessionId new)).2.1
  ttsCounted := (tts_takes ran delivered.ttsCounted).counted
  shown task entry member shows_ := by
    rcases List.mem_append.mp member with earlier | last
    · exact step.forwarder_kept ran (delivered.shown task entry earlier shows_)
    · obtain ⟨rfl, rfl⟩ := Record.performed.inj (List.mem_singleton.mp last)
      exact step.forwarder_kept ran (step.shown shows_)

theorem Delivered.occur {event : Event} {spawned : List Procedure}
    (delivered : Delivered sessionId state log)
    (occurred : state.occur size event = some (after, spawned)) :
    Delivered sessionId after (log ++ [.occurred event]) := by
  have undisturbed := occur_undisturbed occurred
  obtain ⟨asr, tts⟩ := occur_taken occurred delivered.asrCounted delivered.ttsCounted
  have silent : actions (log ++ [.occurred event]) = actions log := by
    rw [actions_append]
    exact List.append_nil _
  refine ⟨?_, ?_, asr.counted, ?_, tts.counted, ?_⟩
  · rw [silent, undisturbed.queued]
    exact delivered.clients
  · rw [silent]
    exact (List.append_nil _).symm.trans (asr.heard delivered.asr False.elim)
  · rw [silent]
    exact (List.append_nil _).symm.trans (tts.heard delivered.tts False.elim)
  · intro task entry member shows_
    rcases List.mem_append.mp member with earlier | last
    · rw [undisturbed.history]
      exact delivered.shown task entry earlier shows_
    · cases List.mem_singleton.mp last

variable {schedule : List (Choice (system config))} {last : World (system config)}

theorem delivered_initial (config : GatewayConfig) (sessionId : SessionId) :
    Delivered sessionId (stateIn (initial config)) ([] : Log (system config)) where
  clients _ := rfl
  asr := rfl
  asrCounted := ⟨Nat.le_refl _, Nat.le_refl _⟩
  tts := rfl
  ttsCounted := ⟨Nat.le_refl _, Nat.le_refl _⟩
  shown _ _ member := absurd member List.not_mem_nil

theorem delivered_last (ran : (initial config).replay? schedule = some last)
    (sessionId : SessionId) :
    Delivered sessionId (stateIn last) ((initial config).log schedule) := by
  refine sessions_initial.logged (motive := fun state log => Delivered sessionId state log)
    sessions_valid (sessions_meet config schedule) ?_ ?_ (delivered_initial config sessionId) ran
  · intro index name size state action after answer log _ owned step performed delivered
    exact Delivered.exec delivered owned step (ran_exec performed)
  · intro size state event after spawned log _ _ occurred delivered
    exact Delivered.occur delivered occurred

/-- What was queued about a session and is for its forwarder alone is seen in the actions of its
forwarder. -/
theorem Delivered.told {α : Type} {observe : ServerMessage → Option α}
    (delivered : Delivered sessionId state log)
    (known : state.history.forwarder sessionId = some task)
    (streams : ∀ message, observe message ≠ none →
      ServerMessage.streams sessionId message = true) :
    (queued sessionId.creator (actionsOf task log)).filterMap observe =
      (state.queued sessionId.creator).filterMap observe := by
  rw [delivered.clients, queued, queued, List.filterMap_filterMap, List.filterMap_filterMap]
  refine filterMap_actionsOf fun other entry member seen => ?_
  obtain ⟨value, bound⟩ := Option.ne_none_iff_exists'.mp seen
  obtain ⟨message, told, observed⟩ := Option.bind_eq_some_iff.mp bound
  have streamed : streamedBy sessionId entry = some message := by
    have streaming := streams message (by rw [observed]; exact Option.some_ne_none _)
    rw [streamedBy, told, Option.filter_some, if_pos streaming]
  have shows_ : Shows sessionId entry := .inr (.inr (by rw [streamed]; exact Option.some_ne_none _))
  have forwards := delivered.shown other entry member shows_
  exact Option.some.inj (forwards.symm.trans known)

/-- Nothing of the kind is queued about a session that has no forwarder. -/
theorem Delivered.untold {α : Type} {observe : ServerMessage → Option α}
    (delivered : Delivered sessionId state log)
    (unforwarded : state.history.forwarder sessionId = none)
    (streams : ∀ message, observe message ≠ none →
      ServerMessage.streams sessionId message = true) :
    (state.queued sessionId.creator).filterMap observe = [] := by
  have silent := (delivered.unheard unforwarded).2.2
  rw [List.filterMap_eq_nil_iff] at silent
  rw [delivered.clients, queued, List.filterMap_filterMap, List.filterMap_eq_nil_iff]
  intro entry member
  by_contra seen
  obtain ⟨value, bound⟩ := Option.ne_none_iff_exists'.mp seen
  obtain ⟨message, told, observed⟩ := Option.bind_eq_some_iff.mp bound
  have streaming := streams message (by rw [observed]; exact Option.some_ne_none _)
  have streamed := silent entry member
  rw [streamedBy, told, Option.filter_some, if_pos streaming] at streamed
  cases streamed

/-- What was taken from the events of a session was taken by its forwarder. -/
theorem Delivered.asr_heard (delivered : Delivered sessionId state log)
    (known : state.history.forwarder sessionId = some task) :
    asrHeard sessionId (actionsOf task log) = (state.asrStreams sessionId).events.taken := by
  rw [← delivered.asr]
  refine filterMap_actionsOf fun other entry member seen => ?_
  have forwards := delivered.shown other entry member (.inl seen)
  exact Option.some.inj (forwards.symm.trans known)

theorem Delivered.tts_heard (delivered : Delivered sessionId state log)
    (known : state.history.forwarder sessionId = some task) :
    ttsHeard sessionId (actionsOf task log) = (state.ttsStreams sessionId).events.taken := by
  rw [← delivered.tts]
  refine filterMap_actionsOf fun other entry member seen => ?_
  have forwards := delivered.shown other entry member (.inr (.inl seen))
  exact Option.some.inj (forwards.symm.trans known)

/-! ## The forwarder of a session -/

/-- The forwarder of a session is started for its creator, with nothing relayed. -/
theorem forwarder_started (ran : (initial config).replay? schedule = some last)
    (known : (stateIn last).history.forwarder sessionId = some task) :
    ∃ procedure, (initial config).start? schedule task = some procedure ∧
      procedure.role = .forwarder sessionId.creator sessionId ∧ Procedure.Begins procedure := by
  revert known
  revert sessionId task
  refine sessions_initial.induct (motive := fun first middle => ∀ {task sessionId},
    (stateIn middle).history.forwarder sessionId = some task → ∃ procedure,
      (initial config).start? first task = some procedure ∧
        procedure.role = .forwarder sessionId.creator sessionId ∧ Procedure.Begins procedure)
    sessions_valid (sessions_meet config schedule) (fun known => nomatch known) ?_ ran
  intro first middle choice next reached _ _ guar stepped known task sessionId forwards
  have kept (before : (stateIn middle).history.forwarder sessionId = some task) :
      ∃ procedure, (initial config).start? (first ++ [choice]) task = some procedure ∧
        procedure.role = .forwarder sessionId.creator sessionId ∧
          Procedure.Begins procedure := by
    obtain ⟨procedure, started, about⟩ := known before
    exact ⟨procedure, World.start?_append reached started, about⟩
  rcases World.step?_cases stepped with
    ⟨index, name, entered, rfl, found, rfl⟩ |
    ⟨index, name, action, rest, state, answer, rfl, found, performed, rfl⟩ |
    ⟨event, state, spawned, rfl, occurred, rfl⟩
  · exact kept forwards
  · have step : SessionStep index name action middle.state := guar.performed found performed
    rcases forwarder_exec (ran_exec performed) sessionId with
      same | ⟨procedure, connection, rfl, role, fresh⟩
    · exact kept (same.symm.trans forwards)
    · obtain rfl : task = middle.tasks.length := Option.some.inj (forwards.symm.trans fresh)
      obtain ⟨rfl, creator, _⟩ := step.spawns procedure connection sessionId rfl role
      refine ⟨procedure, World.start?_launched reached stepped (Nat.le_refl _) ?_, ?_,
        step.begins procedure rfl⟩
      · rw [List.getElem?_append_right (by rw [List.length_set]), List.length_set, Nat.sub_self]
        rfl
      · rw [role, creator]
  · refine kept ?_
    rw [← (occur_undisturbed occurred).history]
    exact forwards

/-- The actions of a forwarder of speech: none for recognition. -/
def SilentAsr : Action → Prop
  | .asr _ _ => False
  | .sendClient _ message => ∀ sessionId, resultOf sessionId message = none
  | _ => True

theorem ttsForwarder_silent {base64 : Base64} {connection : ℕ} {inputKind : SynthesisInputKind}
    {sequence totalChunks totalBytes : ℕ} :
    (ttsForwarder base64 connection sessionId inputKind sequence totalChunks totalBytes).Within
      SilentAsr fun exit => ∀ next ∈ exit, ∃ sequence totalChunks totalBytes,
        next = .ttsForwarder connection sessionId inputKind sequence totalChunks totalBytes := by
  have finish : (ttsForwarder.finish sessionId).Within SilentAsr fun exit => ∀ next ∈ exit,
      ∃ sequence totalChunks totalBytes,
        next = .ttsForwarder connection sessionId inputKind sequence totalChunks totalBytes :=
    ⟨trivial, fun _ _ member => nomatch member⟩
  have goes (sequence totalChunks totalBytes : ℕ) (next : Procedure)
      (same : next ∈ some (Procedure.ttsForwarder connection sessionId inputKind sequence
        totalChunks totalBytes)) : ∃ sequence totalChunks totalBytes,
        next = .ttsForwarder connection sessionId inputKind sequence totalChunks totalBytes :=
    ⟨_, _, _, (Option.some.inj same).symm⟩
  refine ⟨trivial, fun event => ?_⟩
  cases (event : Option BridgeTtsEvent) with
  | none => exact finish
  | some event =>
    cases event with
    | audio chunk =>
      refine ⟨fun _ => rfl, fun taken => ?_⟩
      cases (taken : Bool) with
      | true => exact goes _ _ _
      | false => exact finish
    | ended reason =>
      refine ⟨fun _ => rfl, fun taken => ?_⟩
      cases (taken : Bool) with
      | true => exact ⟨fun _ => rfl, fun _ => finish⟩
      | false => exact finish
    | error message =>
      refine ⟨fun _ => rfl, fun taken => ?_⟩
      cases (taken : Bool) with
      | true => exact goes _ _ _
      | false => exact finish

/-- The payloads of the audio messages for the session. -/
def deltaFor (sessionId : SessionId) : ServerMessage → Option (ℕ × TtsAudioDeltaPayload)
  | .ttsAudioDelta owner sequence payload =>
      if owner = sessionId then some (sequence, payload) else none
  | _ => none

def deltasFor (sessionId : SessionId) (messages : List ServerMessage) :
    List (ℕ × TtsAudioDeltaPayload) := messages.filterMap (deltaFor sessionId)

/-- The totals of the messages that close the audio of the session. -/
def doneFor (sessionId : SessionId) : ServerMessage → Option TtsAudioDonePayload
  | .ttsAudioDone owner _ payload => if owner = sessionId then some payload else none
  | _ => none

/-- The actions of a forwarder of results: none for synthesis. -/
def SilentTts : Action → Prop
  | .tts _ _ => False
  | .sendClient _ message => ∀ sessionId, deltaFor sessionId message = none ∧
      doneFor sessionId message = none
  | _ => True

theorem asrForwarder_silent {connection sequence revision : ℕ} {previousText : String} :
    (asrForwarder connection sessionId sequence revision previousText).Within SilentTts
      fun exit => ∀ next ∈ exit, ∃ sequence revision previousText,
        next = .asrForwarder connection sessionId sequence revision previousText := by
  refine ⟨trivial, fun event => ?_⟩
  cases (event : Option BridgeAsrEvent) with
  | none => exact ⟨trivial, fun _ _ member => nomatch member⟩
  | some event =>
    refine ⟨fun _ => by cases event <;> exact ⟨rfl, rfl⟩, fun taken => ?_⟩
    cases (taken : Bool) with
    | true => exact fun next same => ⟨_, _, _, (Option.some.inj same).symm⟩
    | false => exact ⟨trivial, fun _ _ member => nomatch member⟩

/-! ## Recognition -/

theorem streams_of_result {message : ServerMessage} (result : resultOf sessionId message ≠ none) :
    ServerMessage.streams sessionId message = true := by
  cases message with
  | asrResult owner sequence payload =>
    by_cases same : owner = sessionId
    · exact decide_eq_true same
    · exact absurd (if_neg same) result
  | _ => exact absurd rfl result

/-- A stream of revisions is one of its results. -/
theorem RevisionStream.congr {sequence revision : ℕ} {previous : String}
    {events : List BridgeAsrEvent} {messages others : List ServerMessage}
    (stream : RevisionStream sessionId sequence revision previous events messages)
    (same : results sessionId messages = results sessionId others) :
    RevisionStream sessionId sequence revision previous events others := by
  refine ⟨?_, ?_, ?_, ?_⟩
  · rw [← same, stream.revisions]
  · rw [← same]
    exact stream.increasing
  · rw [← same, stream.texts]
  · rw [← same]
    exact stream.deltas

theorem RevisionStream.empty {messages : List ServerMessage}
    (none_ : results sessionId messages = []) : RevisionStream sessionId 0 0 "" [] messages :=
  (AsrRelay.stream sessionId {} []).congr none_.symm

theorem length_taken {α : Type} {channel : Channel α} (counted : channel.Counted) :
    channel.taken.length = channel.received := by
  rw [Channel.taken, List.length_take]
  exact Nat.min_eq_left counted

theorem asrForwarder_forwarded {connection : ℕ} {trace : Trace gateway}
    {code : Program (Option Procedure)} (ran : Code.Serves (body config task) AnyStep
      (.done (some (.asrForwarder connection sessionId 0 0 ""))) () trace code ()) :
    AsrForwarded connection sessionId trace := by
  have nothing : AsrRelayed connection sessionId {} [] := ⟨rfl, rfl⟩
  have bodies (procedure : Procedure) (trace : Trace gateway) (state : Unit)
      (forwarding : AsrForwarding connection sessionId procedure trace state) :
      (body config task procedure).Ensures AnyStep
        (fun trace _ => AsrForwarded connection sessionId trace)
        (Code.Exits (AsrForwarding connection sessionId)
          fun trace _ => AsrForwarded connection sessionId trace) trace state := by
    obtain ⟨relay, rfl, relayed⟩ := forwarding
    exact asrForwarder_forwards relayed
  exact (ran.ensures bodies nothing.forwarded ⟨{}, rfl, nothing⟩).1

/-- A forwarder of the other domain has heard nothing and sent no results. -/
theorem ttsForwarder_unheard {connection : ℕ} {inputKind : SynthesisInputKind}
    {trace : Trace gateway} {code : Program (Option Procedure)}
    (ran : Code.Serves (body config task) AnyStep
      (.done (some (.ttsForwarder connection sessionId inputKind 0 0 0))) () trace code ()) :
    asrHeard sessionId trace = [] ∧ results sessionId (queued connection trace) = [] := by
  have bodies (procedure : Procedure) (stays : ∃ sequence totalChunks totalBytes, procedure =
      .ttsForwarder connection sessionId inputKind sequence totalChunks totalBytes) :
      (body config task procedure).Within SilentAsr fun exit => ∀ next ∈ exit,
        ∃ sequence totalChunks totalBytes, next =
          .ttsForwarder connection sessionId inputKind sequence totalChunks totalBytes := by
    obtain ⟨sequence, totalChunks, totalBytes, rfl⟩ := stays
    exact ttsForwarder_silent
  have silent := ran.within bodies ⟨0, 0, 0, rfl⟩
  rw [asrHeard, results, queued, List.filterMap_filterMap, List.filterMap_eq_nil_iff,
    List.filterMap_eq_nil_iff]
  constructor
  · rintro ⟨action, answer⟩ member
    have quiet := silent _ member
    cases action with
    | asr owner operation => exact quiet.elim
    | _ => rfl
  · rintro ⟨action, answer⟩ member
    have quiet := silent _ member
    cases action with
    | sendClient receiver message =>
      rw [Option.bind_eq_none_iff]
      intro told queues
      simp only [queuedBy] at queues
      split_ifs at queues
      obtain rfl := Option.some.inj queues
      exact quiet sessionId
    | _ => rfl

/-- In every state that can be reached, the results that are queued about a session are the
revisions of the first events of its bridge, which are all that were taken but possibly the last. -/
theorem asr_events_delivered (config : GatewayConfig) (schedule : List (Choice (system config)))
    (last : World (system config)) (ran : (initial config).replay? schedule = some last)
    (sessionId : SessionId) :
    ∃ relayed, relayed <+: ((stateIn last).asrStreams sessionId).events.sent ∧
      ((stateIn last).asrStreams sessionId).events.received ≤ relayed.length + 1 ∧
        RevisionStream sessionId 0 0 "" relayed ((stateIn last).queued sessionId.creator) := by
  have delivered := delivered_last ran sessionId
  have length := length_taken delivered.asrCounted.events
  have taken := Channel.taken_prefix ((stateIn last).asrStreams sessionId).events
  have nothing (heard : ((stateIn last).asrStreams sessionId).events.taken = [])
      (told : results sessionId ((stateIn last).queued sessionId.creator) = []) :
      ∃ relayed, relayed <+: ((stateIn last).asrStreams sessionId).events.sent ∧
        ((stateIn last).asrStreams sessionId).events.received ≤ relayed.length + 1 ∧
          RevisionStream sessionId 0 0 "" relayed ((stateIn last).queued sessionId.creator) := by
    refine ⟨[], List.nil_prefix, ?_, .empty told⟩
    rw [← length, heard]
    exact Nat.zero_le _
  cases known : (stateIn last).history.forwarder sessionId with
  | none =>
    obtain ⟨heard, _, _⟩ := delivered.unheard known
    exact nothing (delivered.asr.symm.trans heard)
      (delivered.untold known fun _ => streams_of_result)
  | some task =>
    obtain ⟨procedure, started, role, begins⟩ := forwarder_started ran known
    obtain ⟨later, _, serves⟩ := World.replay?_starts ran started
    have heard := delivered.asr_heard known
    have told := delivered.told known fun _ => streams_of_result
    cases procedure with
    | asrForwarder connection owner sequence revision previousText =>
      obtain ⟨rfl, rfl⟩ := Role.forwarder.inj role
      obtain ⟨rfl, rfl, rfl⟩ := begins
      obtain ⟨relayed, first, count, stream⟩ := asrForwarder_forwarded serves
      rw [heard] at first count
      rw [length] at count
      exact ⟨relayed, first.trans taken, count, stream.congr told⟩
    | ttsForwarder connection owner inputKind sequence totalChunks totalBytes =>
      obtain ⟨rfl, rfl⟩ := Role.forwarder.inj role
      obtain ⟨rfl, rfl, rfl⟩ := begins
      obtain ⟨unheard, unsent⟩ := ttsForwarder_unheard serves
      exact nothing (heard.symm.trans unheard) (told.symm.trans unsent)
    | _ => cases role

open Scenario in
/-- A session is started, and its provider recognises a word. -/
def recognises : List (Choice (system Scenario.config)) :=
  asksRecognition 0 ++ [providerAccepts 0] ++ turns 9 0 ++
    [occurs (.asrProvider ⟨0, 0⟩ (.emit (.partial_ "hello")))] ++ turns 3 1

theorem asr_events_delivered_recognised : ∃ last : World (system Scenario.config),
    (initial Scenario.config).replay? recognises = some last ∧
      ∃ relayed, relayed <+: ((stateIn last).asrStreams ⟨0, 0⟩).events.sent ∧
        ((stateIn last).asrStreams ⟨0, 0⟩).events.received ≤ relayed.length + 1 ∧
          RevisionStream ⟨0, 0⟩ 0 0 "" relayed ((stateIn last).queued 0) := by
  obtain ⟨last, ran⟩ : ∃ last, (initial Scenario.config).replay? recognises = some last :=
    ⟨_, rfl⟩
  exact ⟨last, ran, asr_events_delivered Scenario.config recognises last ran ⟨0, 0⟩⟩

/-! ## Synthesis -/

theorem streams_of_delta {message : ServerMessage} (delta : deltaFor sessionId message ≠ none) :
    ServerMessage.streams sessionId message = true := by
  cases message with
  | ttsAudioDelta owner sequence payload =>
    by_cases same : owner = sessionId
    · exact decide_eq_true same
    · exact absurd (if_neg same) delta
  | _ => exact absurd rfl delta

theorem streams_of_done {message : ServerMessage} (done : doneFor sessionId message ≠ none) :
    ServerMessage.streams sessionId message = true := by
  cases message with
  | ttsAudioDone owner sequence payload =>
    by_cases same : owner = sessionId
    · exact decide_eq_true same
    · exact absurd (if_neg same) done
  | _ => exact absurd rfl done

/-- A forwarder of the other domain has heard nothing and sent no audio. -/
theorem asrForwarder_unheard {connection : ℕ} {trace : Trace gateway}
    {code : Program (Option Procedure)} (ran : Code.Serves (body config task) AnyStep
      (.done (some (.asrForwarder connection sessionId 0 0 ""))) () trace code ()) :
    ttsHeard sessionId trace = [] ∧ deltasFor sessionId (queued connection trace) = [] ∧
      (queued connection trace).filterMap (doneFor sessionId) = [] := by
  have bodies (procedure : Procedure) (stays : ∃ sequence revision previousText, procedure =
      .asrForwarder connection sessionId sequence revision previousText) :
      (body config task procedure).Within SilentTts fun exit => ∀ next ∈ exit,
        ∃ sequence revision previousText, next =
          .asrForwarder connection sessionId sequence revision previousText := by
    obtain ⟨sequence, revision, previousText, rfl⟩ := stays
    exact asrForwarder_silent
  have silent := ran.within bodies ⟨0, 0, "", rfl⟩
  have unsent {message : ServerMessage} (member : message ∈ queued connection trace) :
      deltaFor sessionId message = none ∧ doneFor sessionId message = none := by
    obtain ⟨⟨action, answer⟩, present, queues⟩ := List.mem_filterMap.mp member
    have quiet := silent _ present
    cases action with
    | sendClient receiver told =>
      simp only [queuedBy] at queues
      split_ifs at queues
      obtain rfl := Option.some.inj queues
      exact quiet sessionId
    | _ => cases queues
  refine ⟨?_, ?_, ?_⟩
  · rw [ttsHeard, List.filterMap_eq_nil_iff]
    rintro ⟨action, answer⟩ member
    have quiet := silent _ member
    cases action with
    | tts owner operation => exact quiet.elim
    | _ => rfl
  · exact List.filterMap_eq_nil_iff.mpr fun message member => (unsent member).1
  · exact List.filterMap_eq_nil_iff.mpr fun message member => (unsent member).2

/-- The audio for the session among the messages is that of the chunks, numbered from one, and the
totals that are told count them. -/
structure AudioTold (base64 : Base64) (sessionId : SessionId) (relayed : List AudioChunk)
    (messages : List ServerMessage) : Prop where
  chunkIds : (deltasFor sessionId messages).map (fun delta => delta.2.chunkId) =
    List.range' 1 relayed.length
  payloads : (deltasFor sessionId messages).map (fun delta => base64.decode delta.2.audioBase64) =
    relayed.map fun chunk => .ok chunk.bytes
  totals : ∀ payload ∈ messages.filterMap (doneFor sessionId),
    payload.totalChunks = relayed.length ∧
      payload.totalBytes = (relayed.map AudioChunk.bytes).flatten.length

theorem AudioTold.congr {base64 : Base64} {relayed : List AudioChunk}
    {messages others : List ServerMessage} (told : AudioTold base64 sessionId relayed messages)
    (deltas : deltasFor sessionId messages = deltasFor sessionId others)
    (dones : messages.filterMap (doneFor sessionId) = others.filterMap (doneFor sessionId)) :
    AudioTold base64 sessionId relayed others := by
  refine ⟨?_, ?_, ?_⟩
  · rw [← deltas, told.chunkIds]
  · rw [← deltas, told.payloads]
  · rw [← dones]
    exact told.totals

theorem deltasFor_owned {messages : List ServerMessage}
    (owned : ∀ message ∈ messages, message.sessionId? = some sessionId) :
    deltasFor sessionId messages = deltas messages := by
  refine List.filterMap_congr fun message member => ?_
  have own := owned message member
  cases message with
  | ttsAudioDelta owner sequence payload => exact if_pos (Option.some.inj own)
  | _ => rfl

/-- The first end of the events is their last event. -/
theorem EndHeardLast.split {events : List BridgeTtsEvent} (once : EndHeardLast events)
    {reason : Option String} (member : BridgeTtsEvent.ended reason ∈ events) :
    ∃ front, (∀ other, BridgeTtsEvent.ended other ∉ front) ∧
      events = front ++ [.ended reason] := by
  obtain ⟨front, rest, whole⟩ := List.append_of_mem member
  obtain rfl := once front reason rest whole
  refine ⟨front, fun other inside => ?_, whole⟩
  obtain ⟨earlier, later, rfl⟩ := List.append_of_mem inside
  rw [List.append_assoc, List.cons_append] at whole
  have nothing := once earlier other _ whole
  exact absurd nothing (List.append_ne_nil_of_right_ne_nil later (List.cons_ne_nil _ _))

/-- Whoever has sent the message that closes a stream has sent all before it. -/
theorem closed_prefix {before told rest : List ServerMessage} {done ended message : ServerMessage}
    (whole : told ++ rest = before ++ [done, ended]) (member : message ∈ told)
    (audioDone : isAudioDone message = true)
    (unclosed : ∀ earlier ∈ before, closes earlier = false) (ends : isAudioDone ended = false) :
    message = done ∧ ∃ later, told = before ++ done :: later ∧ later ++ rest = [ended] := by
  have early (inside : message ∈ before) : False := by
    have open_ := unclosed message inside
    rw [closes, audioDone] at open_
    cases open_
  rcases List.append_eq_append_iff.mp whole with ⟨further, rfl, _⟩ | ⟨further, rfl, tail⟩
  · exact (early (List.mem_append_left _ member)).elim
  · cases further with
    | nil =>
      rw [List.append_nil] at member
      exact (early member).elim
    | cons first later =>
      obtain ⟨rfl, last⟩ := List.cons.inj tail
      have last : [ended] = later ++ rest := last
      refine ⟨?_, later, rfl, last.symm⟩
      rcases List.mem_append.mp member with inside | inside
      · exact (early inside).elim
      · rcases List.mem_cons.mp inside with same | after
        · exact same
        · have only : message ∈ later ++ rest := List.mem_append_left _ after
          rw [← last] at only
          rw [List.mem_singleton.mp only, ends] at audioDone
          cases audioDone

/-- What a forwarder has queued, as audio. -/
theorem audio_forwarded {base64 : Base64} {connection : ℕ} {inputKind : SynthesisInputKind}
    {trace : Trace gateway} (lawful : ∀ bytes, base64.decode (base64.encode bytes) = .ok bytes)
    (forwarded : TtsForwarded base64 connection sessionId inputKind trace) :
    ∃ relayed, relayed <+: audioChunks (ttsHeard sessionId trace) ∧
      AudioTold base64 sessionId relayed (queued connection trace) := by
  have stream : AudioStream base64 sessionId inputKind 0 0 0 (ttsHeard sessionId trace)
      (TtsRelay.messages base64 sessionId inputKind {} (ttsHeard sessionId trace)) :=
    TtsRelay.stream lawful {} _
  obtain ⟨rest, whole⟩ := forwarded.queued
  rw [← whole] at stream
  have own : deltasFor sessionId (queued connection trace) = deltas (queued connection trace) :=
    deltasFor_owned fun message member => stream.owned message (List.mem_append_left _ member)
  have split : deltas (queued connection trace ++ rest) =
      deltas (queued connection trace) ++ deltas rest := List.filterMap_append
  have counts := congrArg List.length stream.chunkIds
  rw [split, List.length_map, List.length_append, List.length_range'] at counts
  have bound : (deltas (queued connection trace)).length ≤
      (audioChunks (ttsHeard sessionId trace)).length := by omega
  have length : ((audioChunks (ttsHeard sessionId trace)).take
      (deltas (queued connection trace)).length).length =
        (deltas (queued connection trace)).length := by
    rw [List.length_take]
    exact Nat.min_eq_left bound
  refine ⟨(audioChunks (ttsHeard sessionId trace)).take
    (deltas (queued connection trace)).length, List.take_prefix .., ?_, ?_, ?_⟩
  · have first := congrArg (List.take (deltas (queued connection trace)).length) stream.chunkIds
    rw [split, List.map_append, List.take_left' (List.length_map _)] at first
    rw [own, first, length, List.take_range'_of_length_ge bound]
  · have first := congrArg (List.take (deltas (queued connection trace)).length) stream.payloads
    rw [split, List.map_append, List.take_left' (List.length_map _)] at first
    rw [own, first, List.map_take]
  · intro payload member
    obtain ⟨message, present, done⟩ := List.mem_filterMap.mp member
    cases message with
    | ttsAudioDone owner sequence told =>
      simp only [doneFor] at done
      split_ifs at done
      obtain rfl := Option.some.inj done
      have ended : ∃ reason, BridgeTtsEvent.ended reason ∈ ttsHeard sessionId trace := by
        by_contra unended
        have unclosed := stream.unclosed (fun reason inside => unended ⟨reason, inside⟩) _
          (List.mem_append_left _ present)
        cases unclosed
      obtain ⟨reason, inside⟩ := ended
      obtain ⟨front, open_, events⟩ := forwarded.once.split inside
      obtain ⟨before, closing, unclosed⟩ := stream.closed front reason open_ events
      obtain ⟨same, later, queued_, last⟩ := closed_prefix closing present rfl unclosed rfl
      -- every chunk was queued before the totals
      have nothing : deltas rest = [] := by
        have both : deltas (later ++ rest) = [] := by rw [last]; rfl
        rw [deltas, List.filterMap_append] at both
        exact (List.append_eq_nil_iff.mp both).2
      rw [nothing, List.length_nil, Nat.add_zero] at counts
      have all : (audioChunks (ttsHeard sessionId trace)).take
          (deltas (queued connection trace)).length = audioChunks (ttsHeard sessionId trace) := by
        rw [counts, List.take_length]
      obtain ⟨_, _, totals⟩ := ServerMessage.ttsAudioDone.inj same
      rw [all, totals]
      exact ⟨Nat.zero_add _, Nat.zero_add _⟩
    | _ => cases done

/-- In every state that can be reached, the audio that is queued about a session is that of the
first chunks of its bridge, and the totals that are told are those of all chunks. -/
theorem tts_audio_delivered (config : GatewayConfig)
    (lawful : ∀ bytes, config.base64.decode (config.base64.encode bytes) = .ok bytes)
    (schedule : List (Choice (system config))) (last : World (system config))
    (ran : (initial config).replay? schedule = some last) (sessionId : SessionId) :
    ∃ relayed, relayed <+: audioChunks ((stateIn last).ttsStreams sessionId).events.sent ∧
      AudioTold config.base64 sessionId relayed
        ((stateIn last).queued sessionId.creator) := by
  have delivered := delivered_last ran sessionId
  have taken := Channel.taken_prefix ((stateIn last).ttsStreams sessionId).events
  have nothing (deltas : deltasFor sessionId ((stateIn last).queued sessionId.creator) = [])
      (dones : ((stateIn last).queued sessionId.creator).filterMap (doneFor sessionId) = []) :
      ∃ relayed, relayed <+: audioChunks ((stateIn last).ttsStreams sessionId).events.sent ∧
        AudioTold config.base64 sessionId relayed
          ((stateIn last).queued sessionId.creator) := by
    refine ⟨[], List.nil_prefix, ?_, ?_, ?_⟩
    · rw [deltas]
      rfl
    · rw [deltas]
      rfl
    · rw [dones]
      exact fun _ member => nomatch member
  cases known : (stateIn last).history.forwarder sessionId with
  | none =>
    exact nothing (delivered.untold known fun _ => streams_of_delta)
      (delivered.untold known fun _ => streams_of_done)
  | some task =>
    obtain ⟨procedure, started, role, begins⟩ := forwarder_started ran known
    obtain ⟨later, _, serves⟩ := World.replay?_starts ran started
    have heard := delivered.tts_heard known
    have deltas := delivered.told known fun _ => streams_of_delta
    have dones := delivered.told known fun _ => streams_of_done
    cases procedure with
    | asrForwarder connection owner sequence revision previousText =>
      obtain ⟨rfl, rfl⟩ := Role.forwarder.inj role
      obtain ⟨rfl, rfl, rfl⟩ := begins
      obtain ⟨_, undelivered, unclosed⟩ := asrForwarder_unheard serves
      exact nothing (deltas.symm.trans undelivered) (dones.symm.trans unclosed)
    | ttsForwarder connection owner inputKind sequence totalChunks totalBytes =>
      obtain ⟨rfl, rfl⟩ := Role.forwarder.inj role
      obtain ⟨rfl, rfl, rfl⟩ := begins
      have forwarded := (ttsForwarder_runs config task _ _ inputKind _ _ serves).1
      obtain ⟨relayed, first, told⟩ := audio_forwarded lawful forwarded
      rw [heard] at first
      obtain ⟨further, sent⟩ := taken
      refine ⟨relayed, first.trans ⟨audioChunks further, ?_⟩, told.congr deltas dones⟩
      rw [← sent, audioChunks, audioChunks, audioChunks, List.filterMap_append]
    | _ => cases role

open Scenario in
/-- A session is started, and its provider says "hi". -/
def synthesises : List (Choice (system { Scenario.config with base64 := greetingBase64 })) :=
  [occurs .connectClient, clientSays 0 (.ttsStart ⟨"start"⟩ ⟨{}, .text, none, {}⟩),
    occurs (.providerReplies 0 (.tts (.ok ("mock", none, .streaming, .streaming, .text))))] ++
  turns 9 0 ++
  [occurs (.ttsProvider ⟨0, 0⟩ (.emit (.audio ⟨[104, 105], 1, true, none⟩)))] ++ turns 3 1

theorem tts_audio_delivered_synthesised :
    ∃ last : World (system { Scenario.config with base64 := greetingBase64 }),
      (initial { Scenario.config with base64 := greetingBase64 }).replay? synthesises = some last ∧
        ∃ relayed, relayed <+: [⟨[104, 105], 1, true, none⟩] ∧
          AudioTold greetingBase64 ⟨0, 0⟩ relayed ((stateIn last).queued 0) := by
  obtain ⟨last, ran⟩ : ∃ last, (initial { Scenario.config with base64 := greetingBase64 }).replay?
      synthesises = some last := ⟨_, rfl⟩
  have sent : audioChunks ((stateIn last).ttsStreams ⟨0, 0⟩).events.sent =
      [⟨[104, 105], 1, true, none⟩] := by
    cases ran
    rfl
  have delivered := tts_audio_delivered { Scenario.config with base64 := greetingBase64 }
    greetingBase64_lawful synthesises last ran ⟨0, 0⟩
  rw [sent] at delivered
  exact ⟨last, ran, delivered⟩

/-! ## Nobody else is told -/

/-- Every message that names a session is for the creator of the session. -/
def Private (state : State) : Prop :=
  ∀ connection, ∀ message ∈ state.queued connection, ∀ sessionId,
    message.sessionId? = some sessionId → sessionId.creator = connection

theorem Private.exec (kept : Private state) (step : SessionStep index name action state)
    (ran : State.exec index fresh state action = some (after, answer)) : Private after := by
  intro connection message member sessionId named
  rw [queued_exec ran] at member
  rcases List.mem_append.mp member with earlier | new
  · exact kept connection message earlier sessionId named
  · rw [Option.mem_toList] at new
    cases action with
    | sendClient receiver told =>
      simp only [queuedBy] at new
      split_ifs at new with taken
      · obtain rfl := Option.some.inj new
        obtain ⟨rfl, _⟩ := taken
        exact step.names receiver told sessionId rfl named
    | _ => cases new

theorem private_last (ran : (initial config).replay? schedule = some last) :
    Private (stateIn last) :=
  sessions_initial.logged (motive := fun state _ => Private state) sessions_valid
    (sessions_meet config schedule)
    (fun _ _ step performed kept => kept.exec step (ran_exec performed))
    (fun _ _ occurred kept connection message member => kept connection message
      (by rw [← (occur_undisturbed occurred).queued]; exact member))
    (fun _ _ member => nomatch member) ran

/-- In no schedule are two clients told about the same session. -/
theorem sessions_private (config : GatewayConfig) (schedule : List (Choice (system config)))
    (last : World (system config)) (ran : (initial config).replay? schedule = some last)
    (sessionId : SessionId) (connection other : ℕ) (message reply : ServerMessage)
    (queued : message ∈ (stateIn last).queued connection)
    (queued' : reply ∈ (stateIn last).queued other)
    (names : message.sessionId? = some sessionId) (names' : reply.sessionId? = some sessionId) :
    connection = other := by
  have creator := private_last ran connection message queued sessionId names
  have creator' := private_last ran other reply queued' sessionId names'
  exact creator.symm.trans creator'

/-- The session that is announced to the first client is announced to nobody else. -/
theorem sessions_private_recognised : ∃ last : World (system Scenario.config),
    (initial Scenario.config).replay? recognises = some last ∧
      ∃ reply ∈ (stateIn last).queued 0, reply.sessionId? = some ⟨0, 0⟩ ∧
        ∀ connection, ∀ message ∈ (stateIn last).queued connection,
          message.sessionId? = some ⟨0, 0⟩ → connection = 0 := by
  obtain ⟨last, ran⟩ : ∃ last, (initial Scenario.config).replay? recognises = some last :=
    ⟨_, rfl⟩
  have announced : ∃ reply ∈ (stateIn last).queued 0, reply.sessionId? = some ⟨0, 0⟩ := by
    cases ran
    exact ⟨_, .head _, rfl⟩
  obtain ⟨reply, queued', names'⟩ := announced
  refine ⟨last, ran, reply, queued', names', fun connection message queued names => ?_⟩
  exact sessions_private Scenario.config recognises last ran ⟨0, 0⟩ connection 0 message reply
    queued queued' names names'

end SpeechMesh.Soundness
