import SpeechMesh.Model.Footprints
import SpeechMesh.Soundness.RegistryMaps

/-! # Who acts for a session

A session has one route, one start sender and one forwarder. The task that takes one of them out of
the registry holds it from then on; the lemmas here say how one action can move them.
-/

namespace SpeechMesh.Soundness

open Async Model

variable {state after : State} {task fresh : ℕ} {action : Action} {answer : action.Answer}

section

variable (ran : State.exec task fresh state action = some (after, answer))

include ran

/-- A task becomes the holder of a route by taking it out of the map. -/
theorem holder_exec (sessionId : SessionId) :
    after.history.holder sessionId = state.history.holder sessionId ∨
    (after.history.holder sessionId = some task ∧
      (∃ route, state.registry.sessions.lookup sessionId = some route) ∧
      after.registry.sessions.lookup sessionId = none) := by
  have noted : after.history.holder sessionId =
      state.history.holderAfter task action answer sessionId := by rw [history_exec ran]; rfl
  rw [noted, registry_exec ran]
  unfold History.holderAfter
  split
  · rename_i agentId impacted
    obtain rfl := registry_answer ran
    split_ifs with member
    · obtain ⟨⟨_, route⟩, taken, rfl⟩ := List.mem_map.mp member
      obtain ⟨found, same⟩ := mem_removeOrphanedSessions.mp taken
      refine .inr ⟨rfl, ⟨route, found⟩, ?_⟩
      simp only [State.registryAfter, AgentRegistry.run, lookup_removeOrphanedSessions, found]
      simp [Option.filter, same]
    · exact .inl rfl
  · rename_i other route
    by_cases same : sessionId = other
    · subst same
      have found : state.registry.sessions.lookup sessionId = some route :=
        (registry_answer ran).symm
      refine .inr ⟨Function.update_self .., ⟨route, found⟩, ?_⟩
      exact AList.lookup_erase ..
    · exact .inl (Function.update_of_ne same ..)
  · exact .inl rfl

/-- A task comes to hold the start sender of a session by taking it out of the route. -/
theorem startHolder_exec (own : RoutesOwn state.registry) (sessionId : SessionId) :
    after.history.startHolder sessionId = state.history.startHolder sessionId ∨
    (after.history.startHolder sessionId = some task ∧
      (∃ route, state.registry.sessions.lookup sessionId = some route ∧
        route.startedTx = some sessionId) ∧
      ∀ route, after.registry.sessions.lookup sessionId = some route → route.startedTx = none) := by
  have noted : after.history.startHolder sessionId =
      state.history.startHolderAfter task action answer sessionId := by rw [history_exec ran]; rfl
  rw [noted, registry_exec ran]
  unfold History.startHolderAfter
  split
  · rename_i other startedTx
    have taken : (state.registry.takeStarted other).2 = some startedTx := (registry_answer ran).symm
    by_cases same : sessionId = startedTx
    · subst same
      simp only [AgentRegistry.takeStarted] at taken
      split at taken
      · cases taken
      · rename_i route found
        obtain rfl := (own other route found).2 sessionId taken
        refine .inr ⟨Function.update_self .., ⟨route, found, taken⟩, ?_⟩
        intro later left
        simp only [State.registryAfter, AgentRegistry.run, AgentRegistry.takeStarted, found,
          AList.lookup_insert, Option.some.injEq] at left
        exact left ▸ rfl
    · exact .inl (Function.update_of_ne same ..)
  · rename_i other route
    have found : state.registry.sessions.lookup other = some route := (registry_answer ran).symm
    split_ifs with pending
    · obtain rfl := (own other route found).2 sessionId pending
      refine .inr ⟨rfl, ⟨route, found, pending⟩, fun later left => ?_⟩
      simp [State.registryAfter, AgentRegistry.run] at left
    · exact .inl rfl
  · rename_i agentId impacted
    obtain rfl := registry_answer ran
    split_ifs with member
    · obtain ⟨⟨other, route⟩, taken, pending⟩ := List.mem_map.mp member
      obtain ⟨found, same⟩ := mem_removeOrphanedSessions.mp taken
      obtain rfl := (own other route found).2 sessionId pending
      refine .inr ⟨rfl, ⟨route, found, pending⟩, fun later left => ?_⟩
      simp only [State.registryAfter, AgentRegistry.run, lookup_removeOrphanedSessions, found] at left
      simp [Option.filter, same] at left
    · exact .inl rfl
  · exact .inl rfl

/-- A session is concluded when the holder of its route puts the end on the event channel. -/
theorem concluded_exec (sessionId : SessionId) :
    after.history.concluded sessionId = state.history.concluded sessionId ∨
    (state.history.holder sessionId = some task ∧
      ∃ event, action = .asr sessionId (.sendEvent event) ∧ event.isEnded = true) := by
  have noted : after.history.concluded sessionId =
      state.history.concludedAfter task action sessionId := by rw [history_exec ran]; rfl
  rw [noted]
  unfold History.concludedAfter
  split
  · rename_i other event
    split_ifs with ends
    · by_cases same : sessionId = other
      · subst same
        exact .inr ⟨ends.2, event, rfl, ends.1⟩
      · exact .inl (Function.update_of_ne same ..)
    · exact .inl rfl
  · exact .inl rfl

/-- The session a task has looked up changes with its own actions only. -/
theorem sending_other {other : ℕ} (different : other ≠ task) :
    after.history.sending other = state.history.sending other := by
  have noted : after.history.sending other =
      state.history.sendingAfter task action answer other := by rw [history_exec ran]; rfl
  rw [noted]
  unfold History.sendingAfter
  split <;> simp [different]

theorem sending_own {sessionId : SessionId}
    (looked : after.history.sending task = some sessionId) :
    state.history.sending task = some sessionId ∨
      (action = .registry (.sessionEventTx sessionId) ∧
        ∃ route, state.registry.sessions.lookup sessionId = some route) := by
  have noted : after.history.sending task = state.history.sendingAfter task action answer task := by
    rw [history_exec ran]; rfl
  rw [noted] at looked
  unfold History.sendingAfter at looked
  split at looked
  · rename_i other eventTx
    have answered := registry_answer ran
    obtain ⟨route, found, _⟩ := Option.map_eq_some_iff.mp answered.symm
    simp only [Function.update_self, Option.some.injEq] at looked
    subst looked
    exact .inr ⟨rfl, route, found⟩
  · simp at looked
  · exact .inl looked

/-- A forwarder is spawned for its session. -/
theorem forwarder_exec (sessionId : SessionId) :
    after.history.forwarder sessionId = state.history.forwarder sessionId ∨
    ∃ procedure connection, action = .spawn procedure ∧
      procedure.role = .forwarder connection sessionId ∧
      after.history.forwarder sessionId = some fresh := by
  have noted : after.history.forwarder sessionId =
      state.history.forwarderAfter fresh action sessionId := by rw [history_exec ran]; rfl
  rw [noted]
  unfold History.forwarderAfter
  split
  · rename_i connection other sequence revision previousText
    by_cases same : sessionId = other
    · subst same
      exact .inr ⟨_, connection, rfl, rfl, Function.update_self ..⟩
    · exact .inl (Function.update_of_ne same ..)
  · rename_i connection other inputKind sequence totalChunks totalBytes
    by_cases same : sessionId = other
    · subst same
      exact .inr ⟨_, connection, rfl, rfl, Function.update_self ..⟩
    · exact .inl (Function.update_of_ne same ..)
  · exact .inl rfl

theorem sessionPlacement_exec (sessionId : SessionId) :
    after.history.sessionPlacement sessionId = state.history.sessionPlacement sessionId ∨
    ∃ agentId, action = .registry (.registerSession agentId sessionId) := by
  have noted : after.history.sessionPlacement sessionId =
      state.history.sessionPlacementAfter task action sessionId := by rw [history_exec ran]; rfl
  rw [noted]
  unfold History.sessionPlacementAfter
  split
  · rename_i agentId other
    by_cases same : sessionId = other
    · subst same
      exact .inr ⟨agentId, rfl⟩
    · exact .inl (Function.update_of_ne same ..)
  · exact .inl rfl

/-- What leaves the slot of a connection in an action. -/
theorem vacated_exec (connection : ℕ) :
    after.history.vacated connection = state.history.vacated connection ∨
    (connection = task ∧ ∃ active, action = .client (.setActive active) ∧
      after.history.vacated connection = state.history.vacated connection ++
        History.vacatedBy (state.active connection) active) := by
  have noted : after.history.vacated connection =
      state.history.vacatedAfter task state action connection := by rw [history_exec ran]; rfl
  rw [noted]
  unfold History.vacatedAfter
  split
  · rename_i active
    by_cases same : connection = task
    · subst same
      exact .inr ⟨rfl, active, rfl, Function.update_self ..⟩
    · exact .inl (Function.update_of_ne same ..)
  · exact .inl rfl

/-- A connection registers its own agent id. -/
theorem registration_exec (connection : ℕ) :
    after.history.registration connection = state.history.registration connection ∨
    (connection = task ∧ ∃ agent, action = .registry (.deviceRegisterAgent agent) ∧
      after.history.registration connection = (state.history.registration connection).or
        (some (agent.agentId, state.history.registrations))) := by
  have noted : after.history.registration connection =
      state.history.registrationAfter task action connection := by rw [history_exec ran]; rfl
  rw [noted]
  unfold History.registrationAfter
  split
  · rename_i agent
    by_cases same : connection = task
    · subst same
      exact .inr ⟨rfl, agent, rfl, Function.update_self ..⟩
    · exact .inl (Function.update_of_ne same ..)
  · exact .inl rfl

/-- A task selects an agent for itself. -/
theorem selected_exec {connection : ℕ} (different : connection ≠ task) :
    after.history.selected connection = state.history.selected connection := by
  have noted : after.history.selected connection =
      state.history.selectedAfter task action answer connection := by rw [history_exec ran]; rfl
  rw [noted]
  unfold History.selectedAfter
  split <;> simp [different]

end

end SpeechMesh.Soundness
