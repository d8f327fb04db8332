import SpeechMesh.Model.MinimaxSocket

/-! # How a TTS session ends

Every TTS bridge ends its session once, whatever its provider does. An end without a reason should
mean that audio was sent and nothing failed; where the provider's answer holds no audio, only Melo
makes a difference.
-/

namespace SpeechMesh.Soundness

open Async Model

/-! ## Sending audio -/

/-- While the receiver stays, one chunk is sent for each part. -/
theorem sendAudioParts_live (format : Option AudioFormat) (totalChunks index : ℕ)
    (parts : List Bytes) (accepted : List BridgeTtsEvent) :
    ∃ sent : List AudioChunk, sent.length = parts.length ∧
      sendAudioParts format totalChunks index parts ⟨accepted, none⟩ =
        (⟨accepted ++ sent.map .audio, none⟩, true) := by
  induction parts generalizing index accepted with
  | nil => exact ⟨[], rfl, by simp [sendAudioParts]⟩
  | cons part rest ih =>
    let chunk : AudioChunk :=
      ⟨part, index + 1, index + 1 == totalChunks, if index = 0 then format else none⟩
    obtain ⟨sent, length, ran⟩ := ih (index + 1) (accepted ++ [.audio chunk])
    refine ⟨chunk :: sent, by simp [length], ?_⟩
    simp only [sendAudioParts, Outbox.send_live]
    rw [ran]
    simp

theorem chunks_ne_nil {audio : Bytes} (size : ℕ) (nonempty : audio ≠ []) :
    chunks size audio ≠ [] := by
  cases audio with
  | nil => exact absurd rfl nonempty
  | cons byte rest => simp [chunks, chunks.go]

theorem sendAudio_live (format : Option AudioFormat) (size : ℕ) {audio : Bytes}
    (nonempty : audio ≠ []) (accepted : List BridgeTtsEvent) :
    ∃ sent : List AudioChunk, sent ≠ [] ∧
      sendAudio format size audio ⟨accepted, none⟩ =
        (⟨accepted ++ sent.map .audio, none⟩, true) := by
  obtain ⟨sent, length, ran⟩ := sendAudioParts_live format
    (max 1 ((audio.length + size - 1) / size)) 0 (chunks size audio) accepted
  refine ⟨sent, ?_, ran⟩
  rintro rfl
  exact chunks_ne_nil size nonempty (List.length_eq_zero_iff.mp length.symm)

/-- The count of Melo is the index of the next chunk. -/
theorem sendMeloParts_eq (format : Option AudioFormat) (totalChunks index : ℕ)
    (parts : List Bytes) (outbox : Outbox BridgeTtsEvent) :
    sendMeloParts format totalChunks index index parts outbox =
      sendAudioParts format totalChunks index parts outbox := by
  induction parts generalizing index outbox with
  | nil => rfl
  | cons part rest ih =>
    rw [sendMeloParts, sendAudioParts]
    split
    · exact ih ..
    · rfl

theorem meloSpoken_eq (config : TtsConfig) (format : Option AudioFormat) (audio : Bytes)
    (outbox : Outbox BridgeTtsEvent) : meloSpoken config format audio outbox =
      if audio.isEmpty then
        outbox.sendAll [.error "MeloTTS returned empty audio", .ended (some "empty_audio")]
      else
        match sendAudio format config.chunkSize audio outbox with
        | (outbox, true) => (outbox.send (.ended none)).1
        | (outbox, false) => outbox := by
  have parts : sendMeloParts format (max 1 ((audio.length + config.chunkSize - 1) / config.chunkSize))
      0 0 (chunks config.chunkSize audio) outbox = sendAudio format config.chunkSize audio outbox :=
    sendMeloParts_eq ..
  rw [← parts]
  rfl

/-! ## Buffered sessions -/

/-- The text that is committed, if the first command that concludes the session is a Commit. -/
def committedText : List BridgeTtsCommand → Option String
  | [] => none
  | .appendInput delta :: rest => (committedText rest).map (delta ++ ·)
  | .commit :: _ => some ""
  | .stop :: _ => none

/-- The commands that make a session end. -/
def TtsConcludes : BridgeTtsCommand → Prop
  | .appendInput _ => False
  | .commit | .stop => True

/-- What a buffered session does depends on what is committed. -/
theorem bufferedTask_cases (synthesized : String → Outbox BridgeTtsEvent → Outbox BridgeTtsEvent)
    (commands : List BridgeTtsCommand) (buffer : String) (outbox : Outbox BridgeTtsEvent) :
    (∃ text, committedText commands = some text ∧
      bufferedTask synthesized commands buffer outbox = synthesized (buffer ++ text) outbox) ∨
    (committedText commands = none ∧
      bufferedTask synthesized commands buffer outbox = outbox.sendAll [stopped]) ∨
    (committedText commands = none ∧ (∀ command ∈ commands, ¬ TtsConcludes command) ∧
      bufferedTask synthesized commands buffer outbox = outbox) := by
  induction commands generalizing buffer with
  | nil => exact .inr (.inr ⟨rfl, by simp, rfl⟩)
  | cons command rest ih =>
    cases command with
    | appendInput delta =>
      rcases ih (buffer ++ delta) with ⟨text, found, ran⟩ | ⟨found, ran⟩ | ⟨found, none_, ran⟩
      · exact .inl ⟨delta ++ text, by simp [committedText, found],
          by rw [bufferedTask, ran, String.append_assoc]⟩
      · exact .inr (.inl ⟨by simp [committedText, found], ran⟩)
      · exact .inr (.inr ⟨by simp [committedText, found], by simpa [TtsConcludes] using none_, ran⟩)
    | commit => exact .inl ⟨"", rfl, by simp [bufferedTask]⟩
    | stop => exact .inr (.inl ⟨rfl, rfl⟩)

/-- The ways a buffered session of a provider ends: with audio, or with an error and a reason. -/
inductive Told : List BridgeTtsEvent → Prop where
  | spoken (sent : List AudioChunk) (nonempty : sent ≠ []) : Told (sent.map .audio ++ [.ended none])
  | failed (message reason : String) : Told [.error message, .ended (some reason)]

/-- The same, or an error and an end without a reason. -/
inductive ToldUnless (mute : Prop) : List BridgeTtsEvent → Prop where
  | told {events : List BridgeTtsEvent} (told : Told events) (audible : ¬ mute) :
      ToldUnless mute events
  | muted (message : String) (silent : mute) : ToldUnless mute [.error message, .ended none]

theorem mockSpoken_live (format : Option AudioFormat) (buffer : String)
    (accepted : List BridgeTtsEvent) :
    ∃ events, mockSpoken format buffer ⟨accepted, none⟩ = ⟨accepted ++ events, none⟩ ∧
      ToldUnless False events := by
  let chunk : AudioChunk := ⟨("MOCK_TTS:" ++ buffer).toUTF8.toList, 1, true, format⟩
  refine ⟨[chunk].map .audio ++ [.ended none], ?_, .told (.spoken [chunk] (by simp)) id⟩
  simp only [mockSpoken, Outbox.send_live, List.append_assoc]
  rfl

theorem meloSpoken_live (config : TtsConfig) (format : Option AudioFormat) (audio : Bytes)
    (accepted : List BridgeTtsEvent) :
    ∃ events, meloSpoken config format audio ⟨accepted, none⟩ = ⟨accepted ++ events, none⟩ ∧
      ToldUnless False events := by
  rw [meloSpoken_eq]
  split_ifs with empty
  · exact ⟨_, Outbox.sendAll_live .., .told (.failed ..) id⟩
  · obtain ⟨sent, nonempty, ran⟩ := sendAudio_live format config.chunkSize
      (by simpa using empty) accepted
    refine ⟨sent.map .audio ++ [.ended none], ?_, .told (.spoken sent nonempty) id⟩
    simp only [ran, Outbox.send_live, List.append_assoc]

theorem spokenOrReported_live (config : TtsConfig) (format : Option AudioFormat) (audio : Bytes)
    (accepted : List BridgeTtsEvent) :
    ∃ events, spokenOrReported config format audio ⟨accepted, none⟩ = ⟨accepted ++ events, none⟩ ∧
      ToldUnless (audio = []) events := by
  unfold spokenOrReported emitAudioChunks
  by_cases empty : audio = []
  · subst empty
    exact ⟨_, Outbox.sendAll_live .., .muted _ rfl⟩
  · obtain ⟨sent, nonempty, ran⟩ := sendAudio_live format config.chunkSize empty accepted
    refine ⟨sent.map .audio ++ [.ended none], ?_, .told (.spoken sent nonempty) empty⟩
    simp only [List.isEmpty_iff, empty, if_false, ran, Outbox.send_live, List.append_assoc]

theorem commitText_live {synthesis : Except BridgeError Bytes}
    {spoken : Bytes → Outbox BridgeTtsEvent → Outbox BridgeTtsEvent} {mute : Bytes → Prop}
    (speaks : ∀ audio accepted, ∃ events, spoken audio ⟨accepted, none⟩ =
      ⟨accepted ++ events, none⟩ ∧ ToldUnless (mute audio) events)
    (buffer : String) (accepted : List BridgeTtsEvent) :
    ∃ events, commitText synthesis spoken buffer ⟨accepted, none⟩ = ⟨accepted ++ events, none⟩ ∧
      ToldUnless (trim buffer ≠ "" ∧ ∃ audio, synthesis = .ok audio ∧ mute audio) events := by
  unfold commitText
  split_ifs with blank
  · exact ⟨_, Outbox.sendAll_live .., .told (.failed ..) fun mute => mute.1 blank⟩
  · cases synthesis with
    | error error =>
      refine ⟨_, Outbox.sendAll_live .., .told (.failed ..) ?_⟩
      rintro ⟨_, _, same, _⟩
      cases same
    | ok audio =>
      obtain ⟨events, ran, ends⟩ := speaks audio accepted
      refine ⟨events, ran, ?_⟩
      cases ends with
      | told told audible =>
        refine .told told ?_
        rintro ⟨_, other, same, mute⟩
        obtain rfl := Except.ok.inj same
        exact audible mute
      | muted message silent => exact .muted message ⟨blank, audio, rfl, silent⟩

/-! ## The MiniMax socket session -/

/-- The event has audio that decodes to something. -/
def Audible (base64 : Base64) (event : MiniMaxWsEvent) : Prop :=
  ∃ data audio bytes, event.data = some data ∧ data.audio.or data.audioBase64 = some audio ∧
    trim audio ≠ "" ∧ decodeMinimaxAudio base64 (trim audio) = .ok bytes ∧ bytes ≠ []

/-- The inputs that carry audio. -/
def CarriesAudio (base64 : Base64) : MiniMaxWsInput → Prop
  | .message (.text (.ok event)) => Audible base64 event
  | .message (.binary _) => True
  | _ => False

variable (session : MiniMaxWsSession)

/-- What one input sends: nothing if it makes the session leave, and otherwise a chunk exactly if it
carries audio. -/
structure Handled (base64 : Base64) (input : MiniMaxWsInput) (accepted : List BridgeTtsEvent)
    (result : Except MiniMaxWsExit MiniMaxWsState × Outbox BridgeTtsEvent) : Prop where
  left : ∀ exit, result.1 = .error exit → result.2 = ⟨accepted, none⟩
  silent : ∀ state, result.1 = .ok state → ¬ CarriesAudio base64 input →
    result.2 = ⟨accepted, none⟩
  played : ∀ state, result.1 = .ok state → CarriesAudio base64 input →
    ∃ chunk, result.2 = ⟨accepted ++ [.audio chunk], none⟩

theorem Handled.quiet {base64 : Base64} {input : MiniMaxWsInput} {accepted : List BridgeTtsEvent}
    {result : Except MiniMaxWsExit MiniMaxWsState} (silent : ¬ CarriesAudio base64 input) :
    Handled base64 input accepted (result, ⟨accepted, none⟩) :=
  ⟨fun _ _ => rfl, fun _ _ _ => rfl, fun _ _ carries => absurd carries silent⟩

theorem Handled.leaves {base64 : Base64} {input : MiniMaxWsInput} {accepted : List BridgeTtsEvent}
    {exit : MiniMaxWsExit} : Handled base64 input accepted (.error exit, ⟨accepted, none⟩) :=
  ⟨fun _ _ => rfl, nofun, nofun⟩

theorem sendChunk_live {base64 : Base64} {input : MiniMaxWsInput} (state : MiniMaxWsState)
    (bytes : Bytes) (accepted : List BridgeTtsEvent) (carries : CarriesAudio base64 input) :
    Handled base64 input accepted (session.sendChunk state bytes ⟨accepted, none⟩) :=
  ⟨nofun, fun _ _ silent => absurd carries silent, fun _ _ _ => ⟨_, rfl⟩⟩

theorem playEvent_live (state : MiniMaxWsState) (event : MiniMaxWsEvent)
    (accepted : List BridgeTtsEvent) :
    Handled session.config.base64 (.message (.text (.ok event))) accepted
      (session.playEvent state event ⟨accepted, none⟩) := by
  unfold MiniMaxWsSession.playEvent
  split
  · rename_i absent
    refine .quiet ?_
    rintro ⟨data, audio, _, present, named, _⟩
    rw [present, Option.bind_some, named] at absent
    cases absent
  · rename_i audio found
    obtain ⟨data, present, named⟩ := Option.bind_eq_some_iff.mp found
    have same {other : MiniMaxAudioData} {text : String} (present' : event.data = some other)
        (named' : other.audio.or other.audioBase64 = some text) : text = audio := by
      obtain rfl := Option.some.inj (present.symm.trans present')
      exact Option.some.inj (named'.symm.trans named)
    split_ifs with blank
    · refine .quiet ?_
      rintro ⟨other, text, _, present', named', spoken, _⟩
      exact spoken (same present' named' ▸ blank)
    · split
      · exact .leaves
      · rename_i decoded
        refine .quiet ?_
        rintro ⟨other, text, bytes, present', named', _, decoded', nonempty⟩
        rw [same present' named', decoded] at decoded'
        exact nonempty (Except.ok.inj decoded').symm
      · rename_i bytes nonempty decoded
        exact sendChunk_live session state bytes accepted
          ⟨data, audio, bytes, present, named, blank, decoded, nonempty⟩

theorem handleInput_live (state : MiniMaxWsState) (accepted : List BridgeTtsEvent)
    (input : MiniMaxWsInput) :
    Handled session.config.base64 input accepted
      (session.handleInput state ⟨accepted, none⟩ input) := by
  match input with
  | .failed _ | .handleDropped | .command _ | .message .ping | .message .other
  | .message (.text (.error _)) => exact .quiet id
  | .closed =>
    simp only [MiniMaxWsSession.handleInput]
    split_ifs <;> exact .leaves
  | .message .close =>
    simp only [MiniMaxWsSession.handleInput, MiniMaxWsSession.handleMessage]
    split_ifs <;> exact .leaves
  | .message (.binary bytes) => exact sendChunk_live session state bytes accepted trivial
  | .message (.text (.ok event)) =>
    simp only [MiniMaxWsSession.handleInput, MiniMaxWsSession.handleMessage]
    split
    · exact .leaves
    · exact playEvent_live ..

/-- A session that is still waiting has sent a chunk for every input with audio. -/
theorem loop_running {inputs : List MiniMaxWsInput} {state last : MiniMaxWsState}
    {accepted : List BridgeTtsEvent} {outbox : Outbox BridgeTtsEvent}
    (ran : session.loop inputs state ⟨accepted, none⟩ = (.ok last, outbox)) :
    ∃ sent : List AudioChunk, outbox = ⟨accepted ++ sent.map .audio, none⟩ ∧
      (sent ≠ [] ↔ ∃ input ∈ inputs, CarriesAudio session.config.base64 input) := by
  induction inputs generalizing state accepted with
  | nil =>
    obtain ⟨_, rfl⟩ := Prod.mk.inj ran
    exact ⟨[], by simp, by simp⟩
  | cons input rest ih =>
    have handled := handleInput_live session state accepted input
    simp only [MiniMaxWsSession.loop] at ran
    split at ran
    · rename_i next middle stepped
      rw [stepped] at handled
      by_cases carries : CarriesAudio session.config.base64 input
      · obtain ⟨chunk, rfl⟩ := handled.played next rfl carries
        obtain ⟨sent, rfl, _⟩ := ih ran
        exact ⟨chunk :: sent, by simp, iff_of_true (List.cons_ne_nil _ _)
          ⟨input, List.mem_cons_self .., carries⟩⟩
      · obtain rfl := handled.silent next rfl carries
        obtain ⟨sent, rfl, audible⟩ := ih ran
        refine ⟨sent, rfl, audible.trans ?_⟩
        simp [carries]
    · rename_i waiting
      exact absurd ran (waiting last outbox)

theorem loop_append (before rest : List MiniMaxWsInput) (state : MiniMaxWsState)
    (outbox : Outbox BridgeTtsEvent) {last : MiniMaxWsState} {reached : Outbox BridgeTtsEvent}
    (ran : session.loop before state outbox = (.ok last, reached)) :
    session.loop (before ++ rest) state outbox = session.loop rest last reached := by
  induction before generalizing state outbox with
  | nil =>
    obtain ⟨same, rfl⟩ := Prod.mk.inj ran
    obtain rfl := Except.ok.inj same
    rfl
  | cons input others ih =>
    simp only [MiniMaxWsSession.loop, List.cons_append] at ran ⊢
    split at ran
    · exact ih _ _ ran
    · rename_i waiting
      exact absurd ran (waiting last reached)

/-- A session leaves at one of its inputs. -/
theorem loop_left {inputs : List MiniMaxWsInput} {state : MiniMaxWsState}
    {outbox reached : Outbox BridgeTtsEvent} {exit : MiniMaxWsExit}
    (ran : session.loop inputs state outbox = (.error exit, reached)) :
    ∃ before signal after last middle, inputs = before ++ signal :: after ∧
      session.loop before state outbox = (.ok last, middle) ∧
      session.handleInput last middle signal = (.error exit, reached) := by
  induction inputs generalizing state outbox with
  | nil => cases (Prod.mk.inj ran).1
  | cons input rest ih =>
    simp only [MiniMaxWsSession.loop] at ran
    split at ran
    · rename_i next middle stepped
      obtain ⟨before, signal, after, last, reached', rfl, ran', left⟩ := ih ran
      refine ⟨input :: before, signal, after, last, reached', rfl, ?_, left⟩
      simp only [MiniMaxWsSession.loop, stepped, ran']
    · exact ⟨[], input, rest, state, outbox, rfl, rfl, ran⟩

/-- Connecting never succeeds in ending the session. -/
theorem connect_exit {exit : MiniMaxWsExit} (ran : session.connect = .error exit) :
    ∃ error, exit = .error error := by
  unfold MiniMaxWsSession.connect at ran
  split at ran
  · rename_i error _
    exact ⟨error, (Except.error.inj ran).symm⟩
  · split at ran
    · simp only [MiniMaxWsSession.write, List.length_nil] at ran
      cases written : session.writes 0 with
      | ok _ => rw [written] at ran; cases ran
      | error error =>
        rw [written] at ran
        exact ⟨_, (Except.error.inj ran).symm⟩
    · cases ran

/-- A session on a live receiver: still waiting, or it has left with a reason or with an error. -/
theorem task_live (inputs : List MiniMaxWsInput) :
    ∃ sent : List AudioChunk, ∃ ending, session.task inputs {} = ⟨sent.map .audio ++ ending, none⟩ ∧
      ((ending = [] ∧ ∃ state, (session.run inputs {}).1 = .ok state) ∨
       (∃ error, ending = [.error error, .ended (some "provider_error")]) ∨
       (∃ reason, ending = [.ended reason] ∧ ∃ before signal after last middle,
          inputs = before ++ signal :: after ∧ session.run before {} = (.ok last, middle) ∧
          (session.handleInput last middle signal).1 = .error (.ok reason) ∧
          (sent ≠ [] ↔ ∃ input ∈ before, CarriesAudio session.config.base64 input))) := by
  unfold MiniMaxWsSession.task
  cases connected : session.connect with
  | error exit =>
    obtain ⟨error, rfl⟩ := connect_exit session connected
    have ran : session.run inputs {} = (.error (.error error), {}) := by
      simp only [MiniMaxWsSession.run, connected]
    rw [ran]
    exact ⟨[], _, Outbox.sendAll_live .., .inr (.inl ⟨_, rfl⟩)⟩
  | ok start =>
    have runs (inputs : List MiniMaxWsInput) :
        session.run inputs {} = session.loop inputs start ⟨[], none⟩ := by
      simp only [MiniMaxWsSession.run, connected]
    cases ran : session.run inputs {} with
    | mk result reached =>
      have looped := (runs inputs).symm.trans ran
      cases result with
      | ok last =>
        obtain ⟨sent, rfl, _⟩ := loop_running session looped
        exact ⟨sent, [], by simp, .inl ⟨rfl, last, rfl⟩⟩
      | error exit =>
        obtain ⟨before, signal, after, last, middle, rfl, waited, left⟩ := loop_left session looped
        obtain ⟨sent, rfl, audible⟩ := loop_running session waited
        have nothing := (handleInput_live session last _ signal).left exit (by rw [left])
        rw [left] at nothing
        obtain rfl : reached = _ := nothing
        cases exit with
        | error error => exact ⟨sent, _, Outbox.sendAll_live .., .inr (.inl ⟨_, rfl⟩)⟩
        | ok reason =>
          refine ⟨sent, _, Outbox.sendAll_live .., .inr (.inr ⟨reason, rfl, before, signal, after,
            last, _, rfl, (runs before).trans waited, by rw [left], audible⟩)⟩

/-! ## All bridges -/

/-- The session task has something to end it: a Commit or a Stop of a buffered session, or whatever
makes the socket session leave its loop. -/
def Terminates : TtsTask → Prop
  | .mock _ commands | .melo _ _ _ commands | .qwen _ _ _ commands | .minimax _ _ _ commands =>
      ∃ command ∈ commands, TtsConcludes command
  | .minimaxSocket session inputs => ∃ exit, (session.run inputs {}).1 = .error exit

theorem Told.endsOnce {events : List BridgeTtsEvent} (told : Told events) :
    EndsOnce BridgeTtsEvent.isEnded events := by
  cases told with
  | spoken sent nonempty => exact .of_last (by simp [BridgeTtsEvent.isEnded]) rfl
  | failed message reason => exact (endsOnce_cons rfl).mpr (endsOnce_singleton.mpr rfl)

theorem ToldUnless.endsOnce {mute : Prop} {events : List BridgeTtsEvent}
    (told : ToldUnless mute events) : EndsOnce BridgeTtsEvent.isEnded events := by
  cases told with
  | told told _ => exact told.endsOnce
  | muted message silent => exact (endsOnce_cons rfl).mpr (endsOnce_singleton.mpr rfl)

/-- A buffered session that is committed or stopped ends once. -/
theorem bufferedTask_endsOnce {synthesized : String → Outbox BridgeTtsEvent → Outbox BridgeTtsEvent}
    {mute : String → Prop} {commands : List BridgeTtsCommand}
    (speaks : ∀ text, ∃ events, synthesized text ⟨[], none⟩ = ⟨[] ++ events, none⟩ ∧
      ToldUnless (mute text) events)
    (concluded : ∃ command ∈ commands, TtsConcludes command) :
    EndsOnce BridgeTtsEvent.isEnded (bufferedTask synthesized commands "" {}).accepted := by
  rcases bufferedTask_cases synthesized commands "" {} with
    ⟨text, _, ran⟩ | ⟨_, ran⟩ | ⟨_, none_, _⟩
  · obtain ⟨events, said, told⟩ := speaks ("" ++ text)
    rw [ran, said]
    exact told.endsOnce
  · rw [ran]
    exact endsOnce_singleton.mpr rfl
  · obtain ⟨command, member, ends⟩ := concluded
    exact absurd ends (none_ command member)

/-- Every session whose task is committed, stopped or leaves its loop ends exactly once, with
nothing after it. -/
theorem tts_ends_once (task : TtsTask) (terminates : Terminates task) :
    EndsOnce BridgeTtsEvent.isEnded task.events := by
  cases task with
  | mock format commands =>
    exact bufferedTask_endsOnce (fun text => mockSpoken_live format text []) terminates
  | melo config format reply commands =>
    exact bufferedTask_endsOnce
      (fun text => commitText_live (meloSpoken_live config format) text []) terminates
  | qwen config format reply commands =>
    exact bufferedTask_endsOnce
      (fun text => commitText_live (spokenOrReported_live config format) text []) terminates
  | minimax config format reply commands =>
    exact bufferedTask_endsOnce
      (fun text => commitText_live (spokenOrReported_live config.toTtsConfig format) text [])
      terminates
  | minimaxSocket session inputs =>
    obtain ⟨exit, left⟩ := terminates
    obtain ⟨sent, ending, ran, outcome⟩ := task_live session inputs
    have quiet : ∀ event ∈ sent.map BridgeTtsEvent.audio, event.isEnded = false := by
      simp [BridgeTtsEvent.isEnded]
    have same : (TtsTask.minimaxSocket session inputs).events =
        sent.map .audio ++ ending := congrArg Outbox.accepted ran
    rw [same, endsOnce_append quiet]
    rcases outcome with ⟨_, state, waiting⟩ | ⟨error, rfl⟩ | ⟨reason, rfl, _⟩
    · rw [left] at waiting
      cases waiting
    · exact (endsOnce_cons rfl).mpr (endsOnce_singleton.mpr rfl)
    · exact endsOnce_singleton.mpr rfl

/-- A Melo session whose server answers the text with three bytes. -/
def spokenReply : TtsTask :=
  .melo ⟨"http://melo", 2⟩ none (.body (.ok [1, 2, 3])) [.appendInput "text", .commit]

theorem tts_ends_once_concluded :
    EndsOnce BridgeTtsEvent.isEnded (TtsTask.mock none [.appendInput "text", .stop]).events ∧
      EndsOnce BridgeTtsEvent.isEnded spokenReply.events := by
  constructor
  · exact tts_ends_once (.mock none [.appendInput "text", .stop]) ⟨.stop, by simp, trivial⟩
  · exact tts_ends_once spokenReply ⟨.commit, by simp, trivial⟩

end SpeechMesh.Soundness
