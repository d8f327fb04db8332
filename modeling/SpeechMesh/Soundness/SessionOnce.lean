import SpeechMesh.Soundness.SessionDelivery

/-! # What happens once for a session

In every schedule a session is placed on an agent, handed to a forwarder and put into the slot of
its connection once at most, and its start is answered once at most, whoever else acts for it.
-/

namespace SpeechMesh.Soundness

open Async Model

variable {config : GatewayConfig} {index size fresh : ℕ} {name : Procedure}
  {state after : State} {action : Action} {answer : action.Answer} {sessionId : SessionId}
  {schedule : List (Choice (system config))} {last : World (system config)}

/-! ## The actions -/

def placesSession (sessionId : SessionId) : Entry gateway → Bool
  | ⟨.registry (.registerSession _ other), _⟩ => other = sessionId
  | _ => false

def spawnsForwarder (sessionId : SessionId) : Entry gateway → Bool
  | ⟨.spawn (.asrForwarder _ other _ _ _), _⟩ => other = sessionId
  | ⟨.spawn (.ttsForwarder _ other _ _ _ _), _⟩ => other = sessionId
  | _ => false

def activatesSession (sessionId : SessionId) : Entry gateway → Bool
  | ⟨.client (.setActive (some session)), _⟩ => session.sessionId = sessionId
  | _ => false

/-- The answer to the start of the session. -/
def startAnswer (sessionId : SessionId) : Entry gateway → Option (Except BridgeError Unit)
  | ⟨.sendStarted other result, _⟩ => if other = sessionId then some result else none
  | _ => none

/-- What a one-shot reply holds. -/
def replied? {α : Type} : OneShot α → Option α
  | .sent value => some value
  | .waiting | .dropped => none

/-! ## The tokens -/

/-- The session was in the slot of its connection. -/
def WasActive (sessionId : SessionId) (state : State) : Prop :=
  sessionId ∈ state.history.vacated sessionId.creator ∨
    ∃ session, state.active sessionId.creator = some session ∧ session.sessionId = sessionId

theorem WasActive.exec (was : WasActive sessionId state)
    (ran : State.exec index fresh state action = some (after, answer)) :
    WasActive sessionId after := by
  have stays (left : sessionId ∈ state.history.vacated sessionId.creator) :
      WasActive sessionId after := by
    rcases vacated_exec ran sessionId.creator with same | ⟨_, _, _, more⟩
    · exact .inl (by rw [same]; exact left)
    · exact .inl (by rw [more]; exact List.mem_append_left _ left)
  rcases was with left | ⟨session, held, own⟩
  · exact stays left
  · rcases active_exec ran sessionId.creator with same | ⟨acts, active, rfl, new⟩
    · exact .inr ⟨session, same.trans held, own⟩
    · by_cases same : active = some session
      · exact .inr ⟨session, new.trans same, own⟩
      · left
        have noted : after.history.vacated sessionId.creator =
            state.history.vacatedAfter index state (.client (.setActive active))
              sessionId.creator := by
          rw [history_exec ran]
          rfl
        have current : (state.clients index).active = some session := acts ▸ held
        rw [noted, History.vacatedAfter, acts, Function.update_self, current, History.vacatedBy,
          if_neg same, own]
        exact List.mem_append_right _ (List.mem_singleton_self _)

theorem placed_once (ran : (initial config).replay? schedule = some last)
    (sessionId : SessionId) :
    ((actions ((initial config).log schedule)).filter (placesSession sessionId)).length ≤ 1 := by
  refine sessions_initial.at_most_once sessions_valid
    (fun state => (State.history state).sessionPlacement sessionId ≠ none)
    (sessions_meet config schedule) ?_ ?_ ?_ ran
  · intro index name size state action after answer _ step performed places
    have step : SessionStep index name action state := step
    cases action with
    | registry section_ =>
      cases section_ with
      | registerSession agentId other =>
        obtain rfl : other = sessionId := of_decide_eq_true places
        obtain ⟨_, _, unclaimed, connection, selected, _⟩ := step.registers agentId other rfl
        refine ⟨fun placed => placed unclaimed.placement, ?_⟩
        have noted : after.history.sessionPlacement other = some connection := by
          rw [history_exec (ran_exec performed)]
          simp only [State.note, History.sessionPlacementAfter, Function.update_self,
            unclaimed.placement, selected, Option.none_or]
        rw [noted]
        exact Option.some_ne_none _
      | _ => cases places
    | _ => cases places
  · intro index name size state action after answer _ _ performed placed
    obtain ⟨connection, known⟩ := Option.ne_none_iff_exists'.mp placed
    rw [(extends_exec (ran_exec performed)).sessionPlacement known]
    exact Option.some_ne_none _
  · intro size state event after spawned _ _ occurred placed
    rw [(occur_undisturbed occurred).history]
    exact placed

theorem forwarded_once (ran : (initial config).replay? schedule = some last)
    (sessionId : SessionId) :
    ((actions ((initial config).log schedule)).filter (spawnsForwarder sessionId)).length ≤ 1 := by
  refine sessions_initial.at_most_once sessions_valid
    (fun state => (State.history state).forwarder sessionId ≠ none)
    (sessions_meet config schedule) ?_ ?_ ?_ ran
  · intro index name size state action after answer _ step performed spawns
    have step : SessionStep index name action state := step
    have role : ∃ procedure connection, action = .spawn procedure ∧
        procedure.role = .forwarder connection sessionId ∧
          after.history.forwarder sessionId = some size := by
      have history := history_exec (ran_exec performed)
      cases action with
      | spawn procedure =>
        cases procedure with
        | asrForwarder connection other sequence revision previousText =>
          obtain rfl : other = sessionId := of_decide_eq_true spawns
          exact ⟨_, connection, rfl, rfl, by rw [history]; exact Function.update_self ..⟩
        | ttsForwarder connection other inputKind sequence totalChunks totalBytes =>
          obtain rfl : other = sessionId := of_decide_eq_true spawns
          exact ⟨_, connection, rfl, rfl, by rw [history]; exact Function.update_self ..⟩
        | _ => cases spawns
      | _ => cases spawns
    obtain ⟨procedure, connection, rfl, forwards, noted⟩ := role
    have free := (step.spawns procedure connection sessionId rfl forwards).2.2.2
    exact ⟨fun known => known free, by rw [noted]; exact Option.some_ne_none _⟩
  · intro index name size state action after answer _ step performed known
    have step : SessionStep index name action state := step
    obtain ⟨task, known⟩ := Option.ne_none_iff_exists'.mp known
    rw [step.forwarder_kept (ran_exec performed) known]
    exact Option.some_ne_none _
  · intro size state event after spawned _ _ occurred known
    rw [(occur_undisturbed occurred).history]
    exact known

theorem activated_once (ran : (initial config).replay? schedule = some last)
    (sessionId : SessionId) :
    ((actions ((initial config).log schedule)).filter (activatesSession sessionId)).length ≤ 1 := by
  refine sessions_initial.at_most_once sessions_valid (WasActive sessionId)
    (sessions_meet config schedule) ?_ ?_ ?_ ran
  · intro index name size state action after answer _ step performed activates
    have step : SessionStep index name action state := step
    cases action with
    | client operation =>
      cases operation with
      | setActive active =>
        cases active with
        | none => cases activates
        | some session =>
          obtain rfl : session.sessionId = sessionId := of_decide_eq_true activates
          have announced := step.activates session rfl
          have own := announced.creator
          refine ⟨?_, .inr ⟨session, ?_, rfl⟩⟩
          · rintro (left | ⟨held, present, _⟩)
            · rw [own] at left
              exact announced.unused left
            · rw [own, announced.free] at present
              cases present
          · rw [own, (connections_exec (ran_exec performed)).active]
            exact Function.update_self ..
      | _ => cases activates
    | _ => cases activates
  · intro index name size state action after answer _ _ performed was
    exact WasActive.exec was (ran_exec performed)
  · intro size state event after spawned _ _ occurred was
    have undisturbed := occur_undisturbed occurred
    rcases was with left | ⟨session, held, own⟩
    · refine .inl ?_
      rw [undisturbed.history]
      exact left
    · refine .inr ⟨session, ?_, own⟩
      rw [undisturbed.active]
      exact held

/-- The start of a session has the one answer that was given. -/
theorem start_answers (ran : (initial config).replay? schedule = some last)
    (sessionId : SessionId) :
    (actions ((initial config).log schedule)).filterMap (startAnswer sessionId) =
      (replied? ((stateIn last).started sessionId)).toList := by
  refine sessions_initial.logged (motive := fun state log =>
    (actions log).filterMap (startAnswer sessionId) =
      (replied? (State.started state sessionId)).toList) sessions_valid
    (sessions_meet config schedule) ?_ ?_ rfl ran
  · intro index name size state action after answer log _ _ step performed known
    have step : SessionStep index name action state := step
    rw [actions_append, actions_performed, List.filterMap_append, known,
      started_exec (ran_exec performed)]
    cases action with
    | sendStarted other result =>
      by_cases same : other = sessionId
      · subst same
        have waiting := (step.acknowledges other result rfl).2
        have given : startAnswer other ⟨.sendStarted other result, answer⟩ = some result :=
          if_pos rfl
        have sent : state.startedAfter (.sendStarted other result) other = .sent result := by
          refine (Function.update_self ..).trans ?_
          rw [waiting]
          rfl
        rw [sent, waiting, List.filterMap_cons_some given]
        rfl
      · have silent : startAnswer sessionId ⟨.sendStarted other result, answer⟩ = none :=
          if_neg same
        have kept : state.startedAfter (.sendStarted other result) sessionId =
            state.started sessionId := Function.update_of_ne (Ne.symm same) ..
        rw [kept, List.filterMap_cons_none silent]
        exact List.append_nil _
    | _ => exact List.append_nil _
  · intro size state event after spawned log _ _ occurred known
    rw [actions_append, actions_occurred, List.append_nil, known,
      (occur_undisturbed occurred).started]

/-- In every schedule, a session is placed, forwarded and activated once at most, and its start is
answered once at most. -/
theorem sessions_once (config : GatewayConfig) (schedule : List (Choice (system config)))
    (last : World (system config)) (ran : (initial config).replay? schedule = some last)
    (sessionId : SessionId) :
    ((actions ((initial config).log schedule)).filter (placesSession sessionId)).length ≤ 1 ∧
    ((actions ((initial config).log schedule)).filter (spawnsForwarder sessionId)).length ≤ 1 ∧
    ((actions ((initial config).log schedule)).filter (activatesSession sessionId)).length ≤ 1 ∧
    (actions ((initial config).log schedule)).filterMap (startAnswer sessionId) =
      (replied? ((stateIn last).started sessionId)).toList :=
  ⟨placed_once ran sessionId, forwarded_once ran sessionId, activated_once ran sessionId,
    start_answers ran sessionId⟩

theorem sessions_once_recognised : ∃ last : World (system Scenario.config),
    (initial Scenario.config).replay? recognises = some last ∧
      ((actions ((initial Scenario.config).log recognises)).filter
        (spawnsForwarder ⟨0, 0⟩)).length ≤ 1 := by
  obtain ⟨last, ran⟩ : ∃ last, (initial Scenario.config).replay? recognises = some last :=
    ⟨_, rfl⟩
  exact ⟨last, ran, (sessions_once Scenario.config recognises last ran ⟨0, 0⟩).2.1⟩

end SpeechMesh.Soundness
