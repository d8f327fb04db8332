import SpeechMesh.Soundness.SocketAudio

/-! # When an end without a reason is a success

An end without a reason says that the synthesis went well. Mock and Melo say so only after audio.
Qwen and the buffered MiniMax session also say so after they reported empty audio, and the socket
session when the provider finishes before it has sent any.
-/

namespace SpeechMesh.Soundness

open Async Model

/-- An end without a reason comes after audio, and nothing failed. -/
def TrueSuccess (events : List BridgeTtsEvent) : Prop :=
  ∀ earlier later, events = earlier ++ .ended none :: later →
    (∃ chunk, .audio chunk ∈ earlier) ∧ ∀ message, .error message ∉ events

theorem trueSuccess_of_not_mem {events : List BridgeTtsEvent} (absent : .ended none ∉ events) :
    TrueSuccess events := by
  rintro earlier later rfl
  simp at absent

theorem trueSuccess_spoken (sent : List AudioChunk) :
    TrueSuccess (sent.map .audio ++ [.ended none]) ↔ sent ≠ [] := by
  constructor
  · intro success
    obtain ⟨⟨chunk, member⟩, _⟩ := success _ [] rfl
    rintro rfl
    cases member
  · intro nonempty earlier later same
    have whole : earlier = sent.map .audio := by
      have last : later = [] := by
        rcases List.eq_nil_or_concat later with rfl | ⟨start, event, rfl⟩
        · rfl
        · -- the end would stand among the audio
          have split : sent.map BridgeTtsEvent.audio = earlier ++ .ended none :: start := by
            rw [← List.append_cancel_right_eq _ [event]]
            have final := congrArg List.getLast? same
            simp only [List.getLast?_append, List.getLast?_cons, List.getLast?_nil,
              List.concat_eq_append] at final
            obtain rfl : .ended none = event := by simpa using final
            simpa using same
          have member : BridgeTtsEvent.ended none ∈ sent.map BridgeTtsEvent.audio := by
            rw [split]
            simp
          simp at member
      subst last
      exact (List.append_inj_left' same rfl).symm
    subst whole
    obtain ⟨chunk, member⟩ := List.exists_mem_of_ne_nil sent nonempty
    exact ⟨⟨chunk, List.mem_map_of_mem member⟩, by simp⟩

theorem not_trueSuccess_muted (message : String) :
    ¬ TrueSuccess [.error message, .ended none] := by
  intro success
  exact (success [.error message] [] rfl).2 message (List.mem_cons_self ..)

theorem Told.trueSuccess {events : List BridgeTtsEvent} (told : Told events) :
    TrueSuccess events := by
  cases told with
  | spoken sent nonempty => exact (trueSuccess_spoken sent).mpr nonempty
  | failed message reason => exact trueSuccess_of_not_mem (by simp)

theorem ToldUnless.trueSuccess_iff {mute : Prop} {events : List BridgeTtsEvent}
    (told : ToldUnless mute events) : TrueSuccess events ↔ ¬ mute := by
  cases told with
  | told told audible => exact iff_of_true told.trueSuccess audible
  | muted message silent =>
    exact iff_of_false (not_trueSuccess_muted message) (not_not_intro silent)

/-- A buffered session succeeds truly unless what it commits is answered with silence. -/
theorem bufferedTask_trueSuccess_iff
    {synthesized : String → Outbox BridgeTtsEvent → Outbox BridgeTtsEvent} {mute : String → Prop}
    (commands : List BridgeTtsCommand)
    (speaks : ∀ text, ∃ events, synthesized text ⟨[], none⟩ = ⟨[] ++ events, none⟩ ∧
      ToldUnless (mute text) events) :
    TrueSuccess (bufferedTask synthesized commands "" {}).accepted ↔
      ∀ text, committedText commands = some text → ¬ mute text := by
  rcases bufferedTask_cases synthesized commands "" {} with
    ⟨text, committed, ran⟩ | ⟨none_, ran⟩ | ⟨none_, _, ran⟩
  · obtain ⟨events, said, told⟩ := speaks ("" ++ text)
    rw [ran, said, List.nil_append, told.trueSuccess_iff, committed, String.empty_append]
    simp
  · rw [ran, none_]
    refine iff_of_true (trueSuccess_of_not_mem ?_) nofun
    simp [Outbox.sendAll, Outbox.send, stopped]
  · rw [ran, none_]
    exact iff_of_true (trueSuccess_of_not_mem (by simp)) nofun

/-! ## How a socket session succeeds -/

variable {session : MiniMaxWsSession} {state next : MiniMaxWsState}

/-- The writes by which the session answers the start of its task come through. -/
def Flushes (session : MiniMaxWsSession) (state : MiniMaxWsState) : Prop :=
  ∀ n < state.pendingChunks.length + state.committed.toNat,
    session.writes (state.written.length + n) = .ok ()

/-- The provider reports no failure with the event. -/
def Unfailing (event : MiniMaxWsEvent) : Prop :=
  (event.baseResp.bind fun resp => resp.failure? "MiniMax websocket provider error") = none

/-- The event has an audio text that is blank or decodes to nothing. -/
def SilentAudio (base64 : Base64) (event : MiniMaxWsEvent) : Prop :=
  ∃ audio, (event.data.bind fun data => data.audio.or data.audioBase64) = some audio ∧
    (trim audio = "" ∨ decodeMinimaxAudio base64 (trim audio) = .ok [])

/-- The inputs that a session in the given state takes for its success: the end of the socket after a
Commit, the end of the task, and a final event with silent audio. -/
def SucceedsAt (session : MiniMaxWsSession) (state : MiniMaxWsState) : MiniMaxWsInput → Prop
  | .closed | .message .close => state.committed = true
  | .message (.text (.ok event)) => Unfailing event ∧
      (event.event = some "task_finished" ∨ event.event ≠ some "task_failed" ∧
        (event.event = some "task_started" → Flushes session state) ∧
        event.isFinal = some true ∧ SilentAudio session.config.base64 event)
  | _ => False

theorem write_iff {message : MiniMaxWsOutgoing} :
    (∃ next, session.write state message = .ok next) ↔
      session.writes state.written.length = .ok () := by
  unfold MiniMaxWsSession.write
  cases session.writes state.written.length with
  | ok _ => exact iff_of_true ⟨_, rfl⟩ rfl
  | error error => exact iff_of_false nofun nofun

theorem writeAll_iff {messages : List MiniMaxWsOutgoing} :
    (∃ next, session.writeAll state messages = .ok next) ↔
      ∀ n < messages.length, session.writes (state.written.length + n) = .ok () := by
  induction messages generalizing state with
  | nil => exact iff_of_true ⟨state, rfl⟩ nofun
  | cons message rest ih =>
    rw [MiniMaxWsSession.writeAll, List.foldlM_cons]
    constructor
    · rintro ⟨last, ran⟩
      obtain ⟨middle, wrote, others⟩ := exists_of_bind_ok ran
      have later := ih.mp ⟨last, others⟩
      rw [SocketText.write_ok wrote] at later
      intro n bound
      cases n with
      | zero => exact write_iff.mp ⟨middle, wrote⟩
      | succ n =>
        have one := later n (by simpa using bound)
        rw [List.length_append, List.length_singleton] at one
        rwa [Nat.add_right_comm, Nat.add_assoc] at one
    · intro all
      obtain ⟨middle, wrote⟩ : ∃ middle, session.write state message = .ok middle :=
        write_iff.mpr (all 0 (Nat.succ_pos _))
      rw [wrote]
      refine ih.mpr fun n bound => ?_
      rw [SocketText.write_ok wrote, List.length_append, List.length_singleton,
        Nat.add_assoc, Nat.add_comm 1]
      exact all (n + 1) (Nat.succ_lt_succ bound)

/-- The start of the task is answered with the pending texts, and with its end after a Commit. -/
theorem taskStarted_eq {event : MiniMaxWsEvent} (starts : event.event = some "task_started")
    (unfailing : Unfailing event) :
    session.handleEvent state event =
      session.writeAll { state with started := true, pendingChunks := [] }
        (state.pendingChunks.map .taskContinue ++
          if state.committed then [.taskFinish] else []) := by
  rw [MiniMaxWsSession.handleEvent, unfailing]
  dsimp only
  rw [if_pos starts]
  rw [MiniMaxWsSession.writeAll, MiniMaxWsSession.writeAll, List.foldlM_append]
  cases ran : (state.pendingChunks.map MiniMaxWsOutgoing.taskContinue).foldlM session.write
      { state with started := true, pendingChunks := [] } with
  | error exit => rfl
  | ok flushed =>
    have kept : flushed.committed = state.committed := by rw [SocketText.writeAll_ok ran]
    rw [← kept]
    change (if flushed.committed = true then session.write flushed .taskFinish else .ok flushed) =
      List.foldlM session.write flushed (if flushed.committed = true then [.taskFinish] else [])
    split_ifs
    · rw [List.foldlM_cons]
      exact (bind_pure _).symm
    · rfl

/-- A session goes on after an event that neither fails nor ends the task. -/
theorem handleEvent_ok_iff {event : MiniMaxWsEvent} :
    (∃ next, session.handleEvent state event = .ok next) ↔
      Unfailing event ∧ event.event ≠ some "task_finished" ∧ event.event ≠ some "task_failed" ∧
        (event.event = some "task_started" → Flushes session state) := by
  cases failure : event.baseResp.bind
      fun resp => resp.failure? "MiniMax websocket provider error" with
  | some message =>
    refine iff_of_false ?_ fun others => ?_
    · rintro ⟨next, ran⟩
      rw [MiniMaxWsSession.handleEvent, failure] at ran
      cases ran
    · cases failure.symm.trans others.1
  | none =>
    by_cases starts : event.event = some "task_started"
    · rw [taskStarted_eq starts failure, writeAll_iff, starts]
      have length : (state.pendingChunks.map MiniMaxWsOutgoing.taskContinue ++
          if state.committed then [MiniMaxWsOutgoing.taskFinish] else []).length =
            state.pendingChunks.length + state.committed.toNat := by
        rw [List.length_append, List.length_map]
        cases state.committed with
        | false => rfl
        | true => rfl
      rw [length]
      constructor
      · intro flushes
        exact ⟨failure, by decide, by decide, fun _ => flushes⟩
      · rintro ⟨_, _, _, flushes⟩
        exact flushes rfl
    · rw [MiniMaxWsSession.handleEvent, failure]
      dsimp only
      rw [if_neg starts]
      split_ifs with finished failed
      · exact iff_of_false nofun fun others => others.2.1 finished
      · exact iff_of_false nofun fun others => others.2.2.1 failed
      · exact iff_of_true ⟨_, rfl⟩ ⟨failure, finished, failed, fun first => absurd first starts⟩

theorem handleEvent_left_iff {event : MiniMaxWsEvent} :
    session.handleEvent state event = .error (.ok none) ↔
      Unfailing event ∧ event.event = some "task_finished" := by
  constructor
  · intro left
    refine ⟨?_, SocketAudio.finished_of_left left⟩
    unfold MiniMaxWsSession.handleEvent at left
    split at left
    · cases left
    · rename_i unfailing
      exact unfailing
  · rintro ⟨unfailing, finished⟩
    rw [MiniMaxWsSession.handleEvent, unfailing]
    dsimp only
    rw [if_neg (by rw [finished]; decide), if_pos finished]

theorem skipAudio_left_iff {event : MiniMaxWsEvent} :
    MiniMaxWsSession.skipAudio state event = .error (.ok none) ↔ event.isFinal = some true := by
  unfold MiniMaxWsSession.skipAudio
  cases event.isFinal with
  | none => exact iff_of_false nofun nofun
  | some final =>
    cases final with
    | false => exact iff_of_false nofun nofun
    | true => exact iff_of_true rfl rfl

theorem sendChunk_not_left {bytes : Bytes} {outbox : Outbox BridgeTtsEvent} :
    (session.sendChunk state bytes outbox).1 ≠ .error (.ok none) := by
  unfold MiniMaxWsSession.sendChunk
  dsimp only
  split <;> exact nofun

/-- An event ends a session well if it is final and its audio is silent. -/
theorem playEvent_left_iff {event : MiniMaxWsEvent} {outbox : Outbox BridgeTtsEvent} :
    (session.playEvent state event outbox).1 = .error (.ok none) ↔
      event.isFinal = some true ∧ SilentAudio session.config.base64 event := by
  rw [SilentAudio, MiniMaxWsSession.playEvent]
  cases event.data.bind fun data => data.audio.or data.audioBase64 with
  | none => exact iff_of_false nofun (by simp)
  | some audio =>
    simp only [Option.some.injEq, exists_eq_left']
    split_ifs with blank
    · exact skipAudio_left_iff.trans (and_iff_left (.inl blank)).symm
    · rw [or_iff_right blank]
      cases decodeMinimaxAudio session.config.base64 (trim audio) with
      | error error => exact iff_of_false nofun fun silent => nomatch silent.2
      | ok bytes =>
        cases bytes with
        | nil => exact skipAudio_left_iff.trans (and_iff_left rfl).symm
        | cons byte rest => exact iff_of_false sendChunk_not_left fun silent => nomatch silent.2

theorem handleCommand_not_left {command : BridgeTtsCommand} :
    session.handleCommand state command ≠ .error (.ok none) := by
  intro left
  obtain rfl := SocketText.handleCommand_left left
  cases Except.ok.inj (Except.error.inj left)

/-- An event ends the session well if the task is finished, or the event final and silent. -/
theorem handleText_left_iff {event : MiniMaxWsEvent} {outbox : Outbox BridgeTtsEvent} :
    (session.handleInput state outbox (.message (.text (.ok event)))).1 = .error (.ok none) ↔
      SucceedsAt session state (.message (.text (.ok event))) := by
  rw [SucceedsAt, MiniMaxWsSession.handleInput, MiniMaxWsSession.handleMessage]
  cases taken : session.handleEvent state event with
  | ok flushed =>
    obtain ⟨unfailing, going, running, flushes⟩ := handleEvent_ok_iff.mp ⟨flushed, taken⟩
    refine playEvent_left_iff.trans ?_
    simp only [unfailing, going, running, true_and, false_or, ne_eq, not_false_iff]
    exact (and_iff_right flushes).symm
  | error exit =>
    have left : (Except.error exit : Except MiniMaxWsExit MiniMaxWsState) = .error (.ok none) ↔
        Unfailing event ∧ event.event = some "task_finished" := taken ▸ handleEvent_left_iff
    refine left.trans ⟨fun ends => ⟨ends.1, .inl ends.2⟩, ?_⟩
    rintro ⟨unfailing, finished | ⟨running, flushes, _⟩⟩
    · exact ⟨unfailing, finished⟩
    · by_contra going
      obtain ⟨next, ran⟩ := handleEvent_ok_iff.mpr
        ⟨unfailing, fun ends => going ⟨unfailing, ends⟩, running, flushes⟩
      cases taken.symm.trans ran

/-- The session ends well at the inputs that it takes for its success. -/
theorem handleInput_left_iff {input : MiniMaxWsInput} {outbox : Outbox BridgeTtsEvent} :
    (session.handleInput state outbox input).1 = .error (.ok none) ↔
      SucceedsAt session state input := by
  cases input with
  | failed error => exact iff_of_false (fun left => by cases Except.error.inj left) id
  | handleDropped => exact iff_of_false (fun left => by cases Except.error.inj left) id
  | command command => exact iff_of_false handleCommand_not_left id
  | closed =>
    rw [SucceedsAt, MiniMaxWsSession.handleInput]
    split_ifs with committed
    · exact iff_of_true rfl committed
    · exact iff_of_false (fun left => by cases left) committed
  | message message =>
    cases message with
    | other => exact iff_of_false (fun left => by cases left) id
    | binary bytes => exact iff_of_false sendChunk_not_left id
    | ping =>
      refine iff_of_false (fun left => ?_) id
      obtain ⟨error, wrong⟩ := SocketText.write_error left
      cases wrong
    | close =>
      rw [SucceedsAt, MiniMaxWsSession.handleInput, MiniMaxWsSession.handleMessage]
      split_ifs with committed
      · exact iff_of_true rfl committed
      · exact iff_of_false (fun left => by cases left) committed
    | text decoded =>
      cases decoded with
      | error error => exact iff_of_false (fun left => by cases Except.error.inj left) id
      | ok event => exact handleText_left_iff

/-- What the provider has to do for a success to be one: it answers a text with some audio, and a
socket session gets audio before the input that it takes for its success. -/
def AudioBeforeSuccess : TtsTask → Prop
  | .mock _ _ | .melo _ _ _ _ => True
  | .qwen config _ reply commands => ∀ text, committedText commands = some text →
      trim text ≠ "" → synthesizeQwenHttp config reply ≠ .ok []
  | .minimax config _ reply commands => ∀ text, committedText commands = some text →
      trim text ≠ "" → synthesizeMinimax config.base64
        (trimEndSlashes config.baseUrl ++ "/v1/t2a_v2?GroupId=" ++ config.groupId) reply ≠ .ok []
  | .minimaxSocket session inputs => ∀ before signal after state outbox,
      inputs = before ++ signal :: after → session.run before {} = (.ok state, outbox) →
      SucceedsAt session state signal →
        ∃ input ∈ before, CarriesAudio session.config.base64 input

theorem minimaxSocket_trueSuccess_iff (session : MiniMaxWsSession) (inputs : List MiniMaxWsInput) :
    TrueSuccess (session.task inputs {}).accepted ↔
      AudioBeforeSuccess (.minimaxSocket session inputs) := by
  constructor
  · -- at the input that makes the session succeed, the audio sent is what carried audio before
    rintro success before signal after state outbox rfl ran succeeds
    have left : (session.handleInput state outbox signal).1 = .error (.ok none) :=
      handleInput_left_iff.mpr succeeds
    have connected : ∃ start, session.connect = .ok start := by
      cases connected : session.connect with
      | ok start => exact ⟨start, rfl⟩
      | error exit =>
        simp only [MiniMaxWsSession.run, connected] at ran
        cases (Prod.mk.inj ran).1
    obtain ⟨start, connected⟩ := connected
    simp only [MiniMaxWsSession.run, connected] at ran
    obtain ⟨sent, rfl, audible⟩ := loop_running session ran
    have nothing := (handleInput_live session state _ signal).left _ left
    have ended : session.handleInput state ⟨[] ++ sent.map .audio, none⟩ signal =
        (.error (.ok none), ⟨[] ++ sent.map .audio, none⟩) := Prod.ext left nothing
    have whole : session.task (before ++ signal :: after) {} =
        ⟨sent.map .audio ++ [.ended none], none⟩ := by
      simp only [MiniMaxWsSession.task, MiniMaxWsSession.run, connected,
        loop_append session before (signal :: after) _ _ ran, MiniMaxWsSession.loop, ended]
      exact Outbox.sendAll_live ..
    rw [whole] at success
    exact audible.mp ((trueSuccess_spoken sent).mp success)
  · intro audio
    obtain ⟨sent, ending, ran, outcome⟩ := task_live session inputs
    rw [ran]
    rcases outcome with ⟨rfl, _⟩ | ⟨error, rfl⟩ | ⟨reason, rfl, before, signal, after, last, middle,
      same, waited, left, audible⟩
    · exact trueSuccess_of_not_mem (by simp)
    · exact trueSuccess_of_not_mem (by simp)
    · cases reason with
      | none =>
        exact (trueSuccess_spoken sent).mpr
          (audible.mpr
            (audio before signal after last middle same waited (handleInput_left_iff.mp left)))
      | some reason => exact trueSuccess_of_not_mem (by simp)

/-- An end without a reason is a true success, for every session and whatever its provider does, if
and only if the provider sends audio before it succeeds. -/
theorem success_is_audible_iff (task : TtsTask) :
    TrueSuccess task.events ↔ AudioBeforeSuccess task := by
  cases task with
  | mock format commands =>
    refine (bufferedTask_trueSuccess_iff commands fun text => mockSpoken_live format text []).trans ?_
    exact iff_of_true (fun _ _ => id) trivial
  | melo config format reply commands =>
    refine (bufferedTask_trueSuccess_iff commands fun text =>
      commitText_live (meloSpoken_live config format) text []).trans ?_
    exact iff_of_true (by simp) trivial
  | qwen config format reply commands =>
    refine (bufferedTask_trueSuccess_iff commands fun text =>
      commitText_live (spokenOrReported_live config format) text []).trans ?_
    simp [AudioBeforeSuccess]
  | minimax config format reply commands =>
    refine (bufferedTask_trueSuccess_iff commands fun text =>
      commitText_live (spokenOrReported_live config.toTtsConfig format) text []).trans ?_
    simp [AudioBeforeSuccess]
  | minimaxSocket session inputs => exact minimaxSocket_trueSuccess_iff session inputs

/-- A Qwen session whose provider answers the text with an empty body. -/
def emptyAudio : TtsTask :=
  .qwen ⟨"http://qwen", 4096⟩ none (.body (.ok [])) [.appendInput "text", .commit]

/-- The session reports the error, and ends as if it had succeeded. -/
theorem emptyAudio_succeeds : ¬ TrueSuccess emptyAudio.events := by
  have events : emptyAudio.events =
      [.error (BridgeError.protocol "provider returned empty audio").toText, .ended none] := by
    decide
  rw [events]
  exact not_trueSuccess_muted _

end SpeechMesh.Soundness
