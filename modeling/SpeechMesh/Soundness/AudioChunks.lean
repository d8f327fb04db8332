import SpeechMesh.Soundness.SocketAudio

/-! # The chunks of an audio

All providers cut an audio the same way. The chunks are its parts in order, numbered from one; the
first has the format and the last is marked as such. The socket session numbers its chunks alike,
but marks none, since it does not know which is the last.
-/

namespace SpeechMesh.Soundness

open Async Model

/-! ## The law -/

/-- The chunks are numbered from one, and only the first has the format. -/
structure Numbered (format : Option AudioFormat) (sent : List AudioChunk) : Prop where
  sequences : sent.map AudioChunk.sequence = List.range' 1 sent.length
  formats : sent.map AudioChunk.format =
    (List.range sent.length).map fun index => if index = 0 then format else none

/-- The chunks are the parts of the audio, and only the last is final. -/
structure Chunking (format : Option AudioFormat) (size : ℕ) (audio : Bytes)
    (sent : List AudioChunk) : Prop extends Numbered format sent where
  whole : (sent.map AudioChunk.bytes).flatten = audio
  count : sent.length = audio.length ⌈/⌉ size
  finals : sent.map AudioChunk.isFinal =
    (List.range sent.length).map fun index => index + 1 == sent.length
  nonempty : ∀ chunk ∈ sent, chunk.bytes ≠ []

/-! ## The loops over the parts -/

/-- The chunk for the part at an index. -/
def chunkAt (format : Option AudioFormat) (totalChunks index : ℕ) (part : Bytes) : AudioChunk :=
  ⟨part, index + 1, index + 1 == totalChunks, if index = 0 then format else none⟩

def chunksAt (format : Option AudioFormat) (totalChunks : ℕ) : ℕ → List Bytes → List AudioChunk
  | _, [] => []
  | index, part :: rest =>
      chunkAt format totalChunks index part :: chunksAt format totalChunks (index + 1) rest

theorem sendAudioParts_chunksAt (format : Option AudioFormat) (totalChunks index : ℕ)
    (parts : List Bytes) (accepted : List BridgeTtsEvent) :
    sendAudioParts format totalChunks index parts ⟨accepted, none⟩ =
      (⟨accepted ++ (chunksAt format totalChunks index parts).map .audio, none⟩, true) := by
  induction parts generalizing index accepted with
  | nil => simp [sendAudioParts, chunksAt]
  | cons part rest ih =>
    simp only [sendAudioParts, Outbox.send_live]
    rw [ih, chunksAt, List.map_cons, List.append_assoc, List.singleton_append]
    rfl

section

variable {format : Option AudioFormat} {totalChunks index : ℕ} {parts : List Bytes}

theorem chunksAt_length : (chunksAt format totalChunks index parts).length = parts.length := by
  induction parts generalizing index with
  | nil => rfl
  | cons part rest ih => rw [chunksAt, List.length_cons, ih, List.length_cons]

theorem chunksAt_bytes : (chunksAt format totalChunks index parts).map AudioChunk.bytes = parts := by
  induction parts generalizing index with
  | nil => rfl
  | cons part rest ih => rw [chunksAt, List.map_cons, ih]; rfl

/-- What a chunk has that depends only on its index. -/
theorem chunksAt_map {α : Type} {field : AudioChunk → α} {value : ℕ → α}
    (same : ∀ index part, field (chunkAt format totalChunks index part) = value index) :
    (chunksAt format totalChunks index parts).map field =
      (List.range' index parts.length).map value := by
  induction parts generalizing index with
  | nil => rfl
  | cons part rest ih =>
    rw [chunksAt, List.map_cons, ih, same, List.length_cons, List.range'_succ, List.map_cons]

end

/-! ## Cutting an audio -/

theorem go_ne_nil {size : ℕ} (positive : 0 < size) {fuel : ℕ} {bytes part : Bytes}
    (member : part ∈ chunks.go size fuel bytes) : part ≠ [] := by
  induction fuel generalizing bytes with
  | zero => cases member
  | succ fuel ih =>
    cases bytes with
    | nil => cases member
    | cons first more =>
      rw [chunks.go] at member
      · rcases List.mem_cons.mp member with rfl | later
        · intro empty
          have length := congrArg List.length empty
          rw [List.length_take, List.length_cons, List.length_nil] at length
          omega
        · exact ih later
      · exact fun empty => by cases empty

theorem part_ne_nil {size : ℕ} (positive : 0 < size) {bytes part : Bytes}
    (member : part ∈ chunks size bytes) : part ≠ [] := go_ne_nil positive member

/-- The chunks that the loops send for an audio. -/
def chunksOf (format : Option AudioFormat) (size : ℕ) (audio : Bytes) : List AudioChunk :=
  chunksAt format (max 1 ((audio.length + size - 1) / size)) 0 (chunks size audio)

theorem sendAudio_chunksOf (format : Option AudioFormat) (size : ℕ) (audio : Bytes)
    (accepted : List BridgeTtsEvent) : sendAudio format size audio ⟨accepted, none⟩ =
      (⟨accepted ++ (chunksOf format size audio).map .audio, none⟩, true) :=
  sendAudioParts_chunksAt ..

/-- The number of chunks that is computed beforehand is the number of parts. -/
theorem total_eq {size : ℕ} (positive : 0 < size) {audio : Bytes} (nonempty : audio ≠ []) :
    max 1 ((audio.length + size - 1) / size) = (chunks size audio).length := by
  have parts : 0 < (chunks size audio).length :=
    List.length_pos_iff.mpr (chunks_ne_nil size nonempty)
  rw [chunks_length positive, Nat.ceilDiv_eq_add_pred_div] at parts ⊢
  omega

theorem numbered_chunksAt (format : Option AudioFormat) (totalChunks : ℕ) (parts : List Bytes) :
    Numbered format (chunksAt format totalChunks 0 parts) := by
  constructor
  · have numbers : (chunksAt format totalChunks 0 parts).map AudioChunk.sequence =
        (List.range' 0 parts.length).map (1 + ·) := chunksAt_map fun _ _ => Nat.add_comm ..
    rw [numbers, chunksAt_length, List.map_add_range']
  · rw [chunksAt_length, List.range_eq_range']
    exact chunksAt_map fun _ _ => rfl

theorem chunking_chunksOf (format : Option AudioFormat) {size : ℕ} (positive : 0 < size)
    {audio : Bytes} (nonempty : audio ≠ []) :
    Chunking format size audio (chunksOf format size audio) where
  toNumbered := numbered_chunksAt ..
  whole := by rw [chunksOf, chunksAt_bytes, chunks_flatten positive]
  count := by rw [chunksOf, chunksAt_length, chunks_length positive]
  finals := by
    rw [chunksOf, chunksAt_length, total_eq positive nonempty, List.range_eq_range']
    exact chunksAt_map fun _ _ => rfl
  nonempty := by
    intro chunk member
    have part := List.mem_map_of_mem (f := AudioChunk.bytes) member
    rw [chunksOf, chunksAt_bytes] at part
    exact part_ne_nil positive part

/-! ## The socket session -/

theorem chunksFrom_eq (format : Option AudioFormat) (earlier : ℕ) (audio : List Bytes) :
    SocketAudio.chunksFrom format earlier audio = chunksAt format 0 earlier audio := by
  induction audio generalizing earlier with
  | nil => rfl
  | cons bytes rest ih => rw [SocketAudio.chunksFrom, chunksAt, ih]; rfl

/-- Other events do not add to the chunks. -/
theorem audioChunks_sendAll (outbox : Outbox BridgeTtsEvent) {events : List BridgeTtsEvent}
    (silent : audioChunks events = []) :
    audioChunks (outbox.sendAll events).accepted = audioChunks outbox.accepted := by
  induction events generalizing outbox with
  | nil => rfl
  | cons event rest ih =>
    have first : chunkOf event = none := by
      cases event with
      | audio chunk => cases silent
      | ended reason => rfl
      | error message => rfl
    have later : audioChunks rest = [] := by
      rwa [audioChunks, List.filterMap_cons_none first] at silent
    change audioChunks ((outbox.send event).1.sendAll rest).accepted = _
    rw [ih _ later]
    rcases outbox.send_cases event with ⟨_, appended⟩ | ⟨_, refused⟩
    · rw [appended, audioChunks, List.filterMap_append, List.filterMap_cons_none first,
        List.filterMap_nil, List.append_nil, audioChunks]
    · rw [refused]

theorem task_audioChunks (session : MiniMaxWsSession) (inputs : List MiniMaxWsInput)
    (outbox : Outbox BridgeTtsEvent) : audioChunks (session.task inputs outbox).accepted =
      audioChunks (session.run inputs outbox).2.accepted := by
  unfold MiniMaxWsSession.task
  split
  · rename_i ran
    rw [ran]
  · rename_i ran
    rw [ran]
    exact audioChunks_sendAll _ rfl
  · rename_i ran
    rw [ran]
    exact audioChunks_sendAll _ rfl

theorem socket_numbered (session : MiniMaxWsSession) (solid : NeverSilent session.config.base64)
    (inputs : List MiniMaxWsInput) (room : Option ℕ) :
    Numbered session.format (audioChunks (session.task inputs ⟨[], room⟩).accepted) := by
  obtain ⟨earlier, later, _, emits⟩ := SocketAudio.run_emits solid inputs ⟨[], room⟩
  rw [task_audioChunks, emits, List.nil_append,
    ← List.append_nil (List.map BridgeTtsEvent.audio _), SocketAudio.audioChunks_map_audio,
    chunksFrom_eq]
  exact (List.append_nil (chunksAt session.format 0 0 _)).symm ▸ numbered_chunksAt ..

/-! ## All providers -/

/-- The emitter of Qwen and MiniMax and the loop of Melo send the same chunks, which follow the law,
and whatever a socket session receives, it numbers its chunks in the same way. -/
theorem providers_chunk_alike :
    (∀ (format : Option AudioFormat) (size : ℕ) (audio : Bytes), 0 < size → audio ≠ [] →
      (∀ outbox, (emitAudioChunks format size audio outbox).1 =
        (sendMeloParts format (max 1 ((audio.length + size - 1) / size)) 0 0
          (chunks size audio) outbox).1) ∧
      ∃ sent, Chunking format size audio sent ∧ ∀ accepted,
        emitAudioChunks format size audio ⟨accepted, none⟩ =
          (⟨accepted ++ sent.map .audio, none⟩, .ok ())) ∧
    ∀ (session : MiniMaxWsSession), NeverSilent session.config.base64 →
      ∀ (inputs : List MiniMaxWsInput) (room : Option ℕ),
        Numbered session.format (audioChunks (session.task inputs ⟨[], room⟩).accepted) := by
  constructor
  · intro format size audio positive nonempty
    constructor
    · intro outbox
      rw [sendMeloParts_eq, emitAudioChunks, if_neg (by simpa using nonempty), sendAudio]
      split <;> (rename_i sent; rw [sent])
    · refine ⟨chunksOf format size audio, chunking_chunksOf format positive nonempty, ?_⟩
      intro accepted
      rw [emitAudioChunks, if_neg (by simpa using nonempty), sendAudio_chunksOf]
  · exact socket_numbered

theorem five_bytes_chunked :
    (∃ sent, Chunking none 2 [1, 2, 3, 4, 5] sent ∧ ∀ accepted,
      emitAudioChunks none 2 [1, 2, 3, 4, 5] ⟨accepted, none⟩ =
        (⟨accepted ++ sent.map .audio, none⟩, .ok ())) ∧
    Numbered (some ⟨.mp3, 32000, 1⟩)
      (audioChunks ((SocketText.openSession .streaming).task
        (SocketAudio.utterance ⟨some "52494646", none⟩) {}).accepted) :=
  ⟨(providers_chunk_alike.1 none 2 [1, 2, 3, 4, 5] (by decide) (by decide)).2,
    providers_chunk_alike.2 (SocketText.openSession .streaming) base64Standard_neverSilent
      (SocketAudio.utterance ⟨some "52494646", none⟩) none⟩

/-! ## The final flag -/

/-- The last flag is set, and no other. -/
def LastOnly (flags : List Bool) : Prop := flags = List.replicate (flags.length - 1) false ++ [true]

/-- A session that succeeds after audio marks the last chunk, and no other. -/
def WellMarked (events : List BridgeTtsEvent) : Prop :=
  .ended none ∈ events → audioChunks events ≠ [] →
    LastOnly ((audioChunks events).map AudioChunk.isFinal)

theorem lastOnly_range (n : ℕ) :
    LastOnly ((List.range (n + 1)).map fun index => index + 1 == n + 1) := by
  have before : (List.range n).map (fun index => index + 1 == n + 1) =
      List.replicate n false := by
    rw [List.eq_replicate_iff]
    refine ⟨by rw [List.length_map, List.length_range], fun flag member => ?_⟩
    obtain ⟨index, small, rfl⟩ := List.mem_map.mp member
    have := List.mem_range.mp small
    simp only [beq_eq_false_iff_ne, ne_eq]
    omega
  rw [LastOnly, List.range_succ, List.map_append, before]
  simp

theorem Chunking.lastOnly {format : Option AudioFormat} {size : ℕ} {audio : Bytes}
    {sent : List AudioChunk} (chunking : Chunking format size audio sent) (audible : sent ≠ []) :
    LastOnly (sent.map AudioChunk.isFinal) := by
  obtain ⟨n, count⟩ := Nat.exists_eq_succ_of_ne_zero (List.length_pos_iff.mpr audible).ne'
  rw [chunking.finals, count]
  exact lastOnly_range n

theorem wellMarked_of_silent {events : List BridgeTtsEvent} (silent : audioChunks events = []) :
    WellMarked events := fun _ audible => absurd silent audible

theorem spoken_wellMarked (format : Option AudioFormat) {size : ℕ} (positive : 0 < size)
    {audio : Bytes} (nonempty : audio ≠ []) :
    WellMarked ((chunksOf format size audio).map .audio ++ [.ended none]) := by
  intro _ audible
  have chunks : audioChunks ((chunksOf format size audio).map .audio ++ [.ended none]) =
      chunksOf format size audio := by
    rw [SocketAudio.audioChunks_map_audio]
    exact List.append_nil _
  rw [chunks] at audible ⊢
  exact (chunking_chunksOf format positive nonempty).lastOnly audible

/-! ### Buffered sessions -/

theorem mockSpoken_wellMarked (format : Option AudioFormat) (buffer : String) :
    WellMarked (mockSpoken format buffer {}).accepted := by
  intro _ _
  rfl

theorem chunkSize_pos (config : TtsConfig) : 0 < config.chunkSize :=
  Nat.lt_of_lt_of_le Nat.zero_lt_one (Nat.le_max_right ..)

theorem meloSpoken_wellMarked (config : TtsConfig) (format : Option AudioFormat) (audio : Bytes) :
    WellMarked (meloSpoken config format audio {}).accepted := by
  rw [meloSpoken_eq]
  split_ifs with empty
  · exact wellMarked_of_silent rfl
  · simp only [sendAudio_chunksOf, Outbox.send_live, List.nil_append]
    exact spoken_wellMarked format (chunkSize_pos config) (by simpa using empty)

theorem spokenOrReported_wellMarked (config : TtsConfig) (format : Option AudioFormat)
    (audio : Bytes) : WellMarked (spokenOrReported config format audio {}).accepted := by
  unfold spokenOrReported emitAudioChunks
  by_cases empty : audio = []
  · subst empty
    exact wellMarked_of_silent rfl
  · simp only [List.isEmpty_iff, empty, if_false, sendAudio_chunksOf, Outbox.send_live,
      List.nil_append]
    exact spoken_wellMarked format (chunkSize_pos config) empty

theorem commitText_wellMarked {synthesis : Except BridgeError Bytes}
    {spoken : Bytes → Outbox BridgeTtsEvent → Outbox BridgeTtsEvent}
    (marks : ∀ audio, WellMarked (spoken audio {}).accepted) (buffer : String) :
    WellMarked (commitText synthesis spoken buffer {}).accepted := by
  unfold commitText
  split_ifs
  · exact wellMarked_of_silent rfl
  · cases synthesis with
    | ok audio => exact marks audio
    | error error => exact wellMarked_of_silent rfl

theorem bufferedTask_wellMarked
    {synthesized : String → Outbox BridgeTtsEvent → Outbox BridgeTtsEvent}
    (marks : ∀ text, WellMarked (synthesized text {}).accepted)
    (commands : List BridgeTtsCommand) :
    WellMarked (bufferedTask synthesized commands "" {}).accepted := by
  rcases bufferedTask_cases synthesized commands "" {} with ⟨text, _, ran⟩ | ⟨_, ran⟩ | ⟨_, _, ran⟩
  · rw [ran]
    exact marks _
  · rw [ran]
    exact wellMarked_of_silent rfl
  · rw [ran]
    exact wellMarked_of_silent rfl

/-! ### The socket session -/

/-- No chunk is marked. -/
def Unmarked (events : List BridgeTtsEvent) : Prop :=
  ∀ chunk ∈ audioChunks events, chunk.isFinal = false

section

variable {session : MiniMaxWsSession} {state : MiniMaxWsState} {outbox : Outbox BridgeTtsEvent}

theorem sendChunk_unmarked (bytes : Bytes) (unmarked : Unmarked outbox.accepted) :
    Unmarked (session.sendChunk state bytes outbox).2.accepted := by
  unfold MiniMaxWsSession.sendChunk
  dsimp only
  generalize marked : AudioChunk.mk bytes (state.chunkSequence + 1) false _ = next
  rcases outbox.send_cases (.audio next) with ⟨accepted, appended⟩ | ⟨_, refused⟩
  · cases sent : outbox.send (.audio next) with
    | mk after flag =>
      rw [sent] at accepted appended
      obtain rfl : flag = true := accepted
      change Unmarked after.accepted
      rw [appended]
      intro chunk member
      rw [audioChunks, List.filterMap_append, ← audioChunks, List.mem_append] at member
      rcases member with earlier | final
      · exact unmarked chunk earlier
      · obtain rfl : chunk = next := List.mem_singleton.mp final
        rw [← marked]
  · rw [refused]
    exact unmarked

theorem handleInput_unmarked (input : MiniMaxWsInput) (unmarked : Unmarked outbox.accepted) :
    Unmarked (session.handleInput state outbox input).2.accepted := by
  match input with
  | .failed _ | .handleDropped | .command _ | .message .ping | .message .other
  | .message (.text (.error _)) => exact unmarked
  | .closed | .message .close =>
    simp only [MiniMaxWsSession.handleInput, MiniMaxWsSession.handleMessage]
    split_ifs <;> exact unmarked
  | .message (.binary bytes) => exact sendChunk_unmarked bytes unmarked
  | .message (.text (.ok event)) =>
    simp only [MiniMaxWsSession.handleInput, MiniMaxWsSession.handleMessage]
    split
    · exact unmarked
    · unfold MiniMaxWsSession.playEvent
      split
      · exact unmarked
      · split_ifs
        · exact unmarked
        · split
          · exact unmarked
          · exact unmarked
          · exact sendChunk_unmarked _ unmarked

theorem loop_unmarked (inputs : List MiniMaxWsInput) (unmarked : Unmarked outbox.accepted) :
    Unmarked (session.loop inputs state outbox).2.accepted := by
  induction inputs generalizing state outbox with
  | nil => exact unmarked
  | cons input rest ih =>
    have handled : Unmarked (session.handleInput state outbox input).2.accepted :=
      handleInput_unmarked input unmarked
    simp only [MiniMaxWsSession.loop]
    split
    · rename_i next middle stepped
      rw [stepped] at handled
      exact ih handled
    · exact handled

theorem task_unmarked (inputs : List MiniMaxWsInput) :
    Unmarked (TtsTask.minimaxSocket session inputs).events := by
  change Unmarked (session.task inputs {}).accepted
  intro chunk member
  rw [task_audioChunks, MiniMaxWsSession.run] at member
  split at member
  · cases member
  · exact loop_unmarked inputs (fun _ member => by cases member) chunk member

end

theorem Unmarked.not_lastOnly {events : List BridgeTtsEvent} (unmarked : Unmarked events) :
    ¬ LastOnly ((audioChunks events).map AudioChunk.isFinal) := by
  intro last
  have member : true ∈ (audioChunks events).map AudioChunk.isFinal := by
    rw [last]
    simp
  obtain ⟨chunk, known, marked⟩ := List.mem_map.mp member
  rw [unmarked chunk known] at marked
  cases marked

/-! ### The client -/

/-- The gateway hands the flags on. -/
theorem deltas_flags (base64 : Base64) (sessionId : SessionId) (inputKind : SynthesisInputKind)
    (relay : TtsRelay) (events : List BridgeTtsEvent) :
    (deltas (relay.messages base64 sessionId inputKind events)).map (fun delta => delta.2.isFinal) =
      (audioChunks events).map AudioChunk.isFinal := by
  induction events generalizing relay with
  | nil => rfl
  | cons event rest ih =>
    rw [TtsRelay.messages, deltas, List.filterMap_append, List.map_append, ← deltas, ← deltas, ih]
    cases event with
    | audio chunk => rfl
    | ended reason => rfl
    | error message => rfl

def IsSocketTask : TtsTask → Prop
  | .minimaxSocket _ _ => True
  | _ => False

theorem marks_iff (task : TtsTask) (ended : .ended none ∈ task.events)
    (audible : audioChunks task.events ≠ []) :
    LastOnly ((audioChunks task.events).map AudioChunk.isFinal) ↔ ¬ IsSocketTask task := by
  cases task with
  | mock format commands =>
    exact iff_of_true (bufferedTask_wellMarked (mockSpoken_wellMarked format) commands ended
      audible) id
  | melo config format reply commands =>
    exact iff_of_true (bufferedTask_wellMarked
      (commitText_wellMarked (meloSpoken_wellMarked config format)) commands ended audible) id
  | qwen config format reply commands =>
    exact iff_of_true (bufferedTask_wellMarked
      (commitText_wellMarked (spokenOrReported_wellMarked config format)) commands ended audible) id
  | minimax config format reply commands =>
    exact iff_of_true (bufferedTask_wellMarked
      (commitText_wellMarked (spokenOrReported_wellMarked config.toTtsConfig format)) commands
      ended audible) id
  | minimaxSocket session inputs =>
    exact iff_of_false (task_unmarked inputs).not_lastOnly (not_not_intro trivial)

/-- In a session that succeeds after audio the last chunk, and no other, is marked exactly if it is
no socket session; and so is the last one that a client receives that receives them all. -/
theorem final_marks_end_iff (task : TtsTask) (ended : .ended none ∈ task.events)
    (audible : audioChunks task.events ≠ []) :
    (LastOnly ((audioChunks task.events).map AudioChunk.isFinal) ↔ ¬ IsSocketTask task) ∧
    ∀ (config : GatewayConfig) (number connection : ℕ) (sessionId : SessionId)
      (inputKind : SynthesisInputKind) (trace : Trace gateway) (next : Option Procedure),
      Code.Serves (body config number) AnyStep
        (.done (some (.ttsForwarder connection sessionId inputKind 0 0 0))) () trace
        (.done next) () →
      ¬ ClientRefused connection trace → ttsHeard sessionId trace = task.events →
        (LastOnly ((deltas (queued connection trace)).map fun delta => delta.2.isFinal) ↔
          ¬ IsSocketTask task) := by
  refine ⟨marks_iff task ended audible, ?_⟩
  intro config number connection sessionId inputKind trace next ran taken heard
  obtain ⟨_, settled⟩ := ttsForwarder_runs config number connection sessionId inputKind trace _ ran
  have queued_ := (settled next rfl).resolve_left taken
  rw [queued_, deltas_flags, heard]
  exact marks_iff task ended audible

theorem hello_marked :
    LastOnly ((audioChunks (TtsTask.mock none [.appendInput "Hello", .commit]).events).map
      AudioChunk.isFinal) ↔ ¬ IsSocketTask (.mock none [.appendInput "Hello", .commit]) :=
  (final_marks_end_iff (.mock none [.appendInput "Hello", .commit]) (by decide) (by decide)).1

/-- A socket session that succeeds after one chunk. -/
theorem socket_unmarked :
    .ended none ∈ (TtsTask.minimaxSocket (SocketText.openSession .streaming)
        (SocketAudio.utterance ⟨some "52494646", none⟩ ++ [SocketAudio.taskFinished])).events ∧
      audioChunks (TtsTask.minimaxSocket (SocketText.openSession .streaming)
        (SocketAudio.utterance ⟨some "52494646", none⟩ ++ [SocketAudio.taskFinished])).events ≠ [] ∧
      ¬ LastOnly ((audioChunks (TtsTask.minimaxSocket (SocketText.openSession .streaming)
        (SocketAudio.utterance ⟨some "52494646", none⟩ ++
          [SocketAudio.taskFinished])).events).map AudioChunk.isFinal) := by
  have events : (TtsTask.minimaxSocket (SocketText.openSession .streaming)
      (SocketAudio.utterance ⟨some "52494646", none⟩ ++ [SocketAudio.taskFinished])).events =
        [.audio ⟨[0x52, 0x49, 0x46, 0x46], 1, false, some ⟨.mp3, 32000, 1⟩⟩, .ended none] := rfl
  rw [events]
  refine ⟨by simp, by simp [audioChunks, chunkOf], ?_⟩
  unfold LastOnly
  decide

end SpeechMesh.Soundness
