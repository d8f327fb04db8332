import SpeechMesh.Soundness.AudioDecoding
import SpeechMesh.Soundness.AudioStream
import SpeechMesh.Soundness.SocketText
import SpeechMesh.Soundness.TtsSessions

/-! # The audio of a MiniMax socket session

What the session emits is a function of its inputs: one chunk for every message whose audio it looks
at. A message can name its audio in two fields, of which the session takes the first that is there;
the request that is answered at once takes the other first, and the last message of a session is not
looked at. So audio is lost exactly where both fields are there, or the last message has any.
-/

namespace SpeechMesh.Soundness.SocketAudio

open Async Model

/-! ## What an input makes the session emit -/

/-- The field of an event that the session takes. -/
def chosen (event : MiniMaxWsEvent) : Option String :=
  event.data.bind fun data => data.audio.or data.audioBase64

/-- The audio behind a text, if it says anything and can be decoded. -/
def read (base64 : Base64) (text : String) : Option Bytes :=
  (decodeMinimaxAudio base64 text).toOption

/-- What the session emits for an input at which it goes on. -/
def played (base64 : Base64) : MiniMaxWsInput → Option Bytes
  | .message (.binary bytes) => some bytes
  | .message (.text (.ok event)) => (chosen event).bind (read base64)
  | _ => none

/-- The chunk that is emitted after some others. -/
def chunkAfter (format : Option AudioFormat) (earlier : ℕ) (bytes : Bytes) : AudioChunk :=
  ⟨bytes, earlier + 1, false, if earlier = 0 then format else none⟩

theorem decodeMinimaxAudio_trim (base64 : Base64) (text : String) :
    decodeMinimaxAudio base64 (trim text) = decodeMinimaxAudio base64 text := by
  rw [decodeMinimaxAudio, decodeMinimaxAudio, trim_trim]

theorem read_blank {base64 : Base64} {text : String} (blank : trim text = "") :
    read base64 text = none := by
  rw [read, decodeMinimaxAudio, if_pos blank]
  rfl

variable {session : MiniMaxWsSession} {state next : MiniMaxWsState}
  {outbox : Outbox BridgeTtsEvent} {input : MiniMaxWsInput}

/-- The result of handling an input: it goes on with one more chunk if the input has audio, or it
leaves with nothing sent. -/
structure Plays (session : MiniMaxWsSession) (state : MiniMaxWsState)
    (outbox : Outbox BridgeTtsEvent) (emitted : Option Bytes)
    (result : Except MiniMaxWsExit MiniMaxWsState × Outbox BridgeTtsEvent) : Prop where
  sent : ∀ next, result.1 = .ok next → result.2.accepted = outbox.accepted ++
    (emitted.map fun bytes => .audio (chunkAfter session.format state.chunkSequence bytes)).toList
  counted : ∀ next, result.1 = .ok next →
    next.chunkSequence = state.chunkSequence + emitted.toList.length
  left : ∀ exit, result.1 = .error exit → result.2.accepted = outbox.accepted

theorem Plays.quiet {result : Except MiniMaxWsExit MiniMaxWsState}
    (kept : ∀ next, result = .ok next → next.chunkSequence = state.chunkSequence) :
    Plays session state outbox none (result, outbox) :=
  ⟨fun _ _ => (List.append_nil _).symm, kept, fun _ _ => rfl⟩

theorem Plays.leaves {emitted : Option Bytes} {exit : MiniMaxWsExit} :
    Plays session state outbox emitted (.error exit, outbox) :=
  ⟨(fun _ same => by cases same), (fun _ same => by cases same), fun _ _ => rfl⟩

theorem sendChunk_plays (bytes : Bytes) :
    Plays session state outbox (some bytes) (session.sendChunk state bytes outbox) := by
  have chunk : chunkAfter session.format state.chunkSequence bytes =
      ⟨bytes, state.chunkSequence + 1, false,
        if state.chunkSequence + 1 = 1 then session.format else none⟩ := by
    rw [chunkAfter]
    simp
  unfold MiniMaxWsSession.sendChunk
  dsimp only
  rw [← chunk]
  rcases outbox.send_cases (.audio (chunkAfter session.format state.chunkSequence bytes)) with
    ⟨accepted, appended⟩ | ⟨_, refused⟩
  · cases sent : outbox.send (.audio (chunkAfter session.format state.chunkSequence bytes)) with
    | mk after flag =>
      rw [sent] at accepted appended
      obtain rfl : flag = true := accepted
      refine ⟨fun _ _ => appended, fun next ok => ?_, fun _ failed => by cases failed⟩
      obtain rfl := Except.ok.inj ok
      rfl
  · rw [refused]
    exact .leaves

theorem playEvent_plays (solid : NeverSilent session.config.base64) (event : MiniMaxWsEvent) :
    Plays session state outbox ((chosen event).bind (read session.config.base64))
      (session.playEvent state event outbox) := by
  unfold MiniMaxWsSession.playEvent
  rw [← chosen]
  cases chosen event with
  | none =>
    refine .quiet fun next ok => ?_
    rw [← Except.ok.inj ok]
  | some audio =>
    dsimp only [Option.bind_some]
    split_ifs with blank
    · rw [read_blank blank]
      exact .quiet fun next ok => by rw [SocketText.skipAudio_ok ok]
    · rw [decodeMinimaxAudio_trim, read]
      cases decoded : decodeMinimaxAudio session.config.base64 audio with
      | error error => exact .leaves
      | ok bytes =>
        cases bytes with
        | nil => exact absurd decoded (decodeMinimaxAudio_ne_nil solid audio)
        | cons byte rest => exact sendChunk_plays (byte :: rest)

theorem handleEvent_counted {event : MiniMaxWsEvent}
    (handled : session.handleEvent state event = .ok next) :
    next.chunkSequence = state.chunkSequence := by
  by_cases starts : event.event = some "task_started"
  · rw [SocketText.taskStarted_ok starts handled]
  · rw [SocketText.handleEvent_other starts handled]

theorem startOrQueue_counted {text : String} (handled : session.startOrQueue state text = .ok next) :
    next.chunkSequence = state.chunkSequence := by
  unfold MiniMaxWsSession.startOrQueue at handled
  split_ifs at handled
  · rw [← Except.ok.inj handled]
  · obtain ⟨wrote, first, later⟩ := exists_of_bind_ok handled
    rw [← Except.ok.inj later, SocketText.write_ok first]

theorem handleCommand_counted {command : BridgeTtsCommand}
    (handled : session.handleCommand state command = .ok next) :
    next.chunkSequence = state.chunkSequence := by
  cases command with
  | stop => cases handled
  | appendInput delta =>
    simp only [MiniMaxWsSession.handleCommand] at handled
    cases mode : session.inputMode with
    | buffered =>
      rw [mode] at handled
      dsimp only at handled
      split_ifs at handled <;> rw [← Except.ok.inj handled]
    | streaming =>
      rw [mode] at handled
      dsimp only at handled
      split_ifs at handled
      · rw [← Except.ok.inj handled]
      · rw [SocketText.write_ok handled]
      · exact startOrQueue_counted handled
  | commit =>
    simp only [MiniMaxWsSession.handleCommand] at handled
    cases mode : session.inputMode with
    | buffered =>
      rw [mode] at handled
      dsimp only at handled
      split_ifs at handled
      · rw [SocketText.writeAll_ok handled]
      · have counted := startOrQueue_counted handled
        exact counted
    | streaming =>
      rw [mode] at handled
      dsimp only at handled
      split_ifs at handled
      · rw [SocketText.write_ok handled]
      · rw [← Except.ok.inj handled]

theorem handleInput_plays (solid : NeverSilent session.config.base64) (state : MiniMaxWsState)
    (outbox : Outbox BridgeTtsEvent) (input : MiniMaxWsInput) :
    Plays session state outbox (played session.config.base64 input)
      (session.handleInput state outbox input) := by
  match input with
  | .failed _ | .handleDropped | .message (.text (.error _)) => exact .leaves
  | .closed | .message .close =>
    simp only [MiniMaxWsSession.handleInput, MiniMaxWsSession.handleMessage]
    split_ifs <;> exact .leaves
  | .message .other => exact .quiet fun next ok => by rw [← Except.ok.inj ok]
  | .message .ping => exact .quiet fun next ok => by rw [SocketText.write_ok ok]
  | .command command => exact .quiet fun next ok => handleCommand_counted ok
  | .message (.binary bytes) => exact sendChunk_plays bytes
  | .message (.text (.ok event)) =>
    simp only [MiniMaxWsSession.handleInput, MiniMaxWsSession.handleMessage]
    split
    · exact .leaves
    · rename_i flushed taken
      have plays : Plays session flushed outbox _ (session.playEvent flushed event outbox) :=
        playEvent_plays solid event
      have same := handleEvent_counted taken
      refine ⟨fun next ok => ?_, fun next ok => ?_, plays.left⟩
      · rw [plays.sent next ok, same]
        rfl
      · rw [plays.counted next ok, same]
        rfl

/-! ## Whole runs -/

/-- The chunks for some audio after others. -/
def chunksFrom (format : Option AudioFormat) : ℕ → List Bytes → List AudioChunk
  | _, [] => []
  | earlier, bytes :: rest => chunkAfter format earlier bytes :: chunksFrom format (earlier + 1) rest

theorem chunksFrom_bytes (format : Option AudioFormat) (earlier : ℕ) (audio : List Bytes) :
    (chunksFrom format earlier audio).map AudioChunk.bytes = audio := by
  induction audio generalizing earlier with
  | nil => rfl
  | cons bytes rest ih => rw [chunksFrom, List.map_cons, ih]; rfl

/-- The audio of the inputs, in order. -/
def emitted (base64 : Base64) (inputs : List MiniMaxWsInput) : List Bytes :=
  inputs.filterMap (played base64)

theorem loop_plays (solid : NeverSilent session.config.base64) {inputs : List MiniMaxWsInput}
    {last : MiniMaxWsState} {after : Outbox BridgeTtsEvent}
    (ran : session.loop inputs state outbox = (.ok last, after)) :
    after.accepted = outbox.accepted ++
      (chunksFrom session.format state.chunkSequence
        (emitted session.config.base64 inputs)).map .audio := by
  induction inputs generalizing state outbox with
  | nil =>
    obtain ⟨_, rfl⟩ := Prod.mk.inj ran
    exact (List.append_nil _).symm
  | cons input rest ih =>
    have plays := handleInput_plays solid state outbox input
    simp only [MiniMaxWsSession.loop] at ran
    split at ran
    · rename_i next middle stepped
      rw [stepped] at plays
      rw [ih ran, plays.sent next rfl, plays.counted next rfl, emitted, emitted,
        List.filterMap_cons]
      cases played session.config.base64 input with
      | none => simp
      | some bytes => simp [chunksFrom]
    · rename_i waiting
      exact absurd ran (waiting last after)

theorem connect_counted (connected : session.connect = .ok state) : state.chunkSequence = 0 := by
  unfold MiniMaxWsSession.connect at connected
  split at connected
  · cases connected
  · split at connected
    · obtain ⟨wrote, first, later⟩ := exists_of_bind_ok connected
      rw [← Except.ok.inj later, SocketText.write_ok first]
    · rw [← Except.ok.inj connected]

/-- A session that is still waiting has emitted the audio of all its inputs. -/
theorem run_plays (solid : NeverSilent session.config.base64) {inputs : List MiniMaxWsInput}
    {last : MiniMaxWsState} {after : Outbox BridgeTtsEvent}
    (ran : session.run inputs outbox = (.ok last, after)) :
    after.accepted = outbox.accepted ++
      (chunksFrom session.format 0 (emitted session.config.base64 inputs)).map .audio := by
  unfold MiniMaxWsSession.run at ran
  split at ran
  · cases (Prod.mk.inj ran).1
  · rename_i start connected
    rw [loop_plays solid ran, connect_counted connected]

/-- Wherever a session is looked at, it has emitted the audio of some of its inputs. -/
theorem run_emits (solid : NeverSilent session.config.base64) (inputs : List MiniMaxWsInput)
    (outbox : Outbox BridgeTtsEvent) : ∃ earlier later, inputs = earlier ++ later ∧
      (session.run inputs outbox).2.accepted = outbox.accepted ++
        (chunksFrom session.format 0 (emitted session.config.base64 earlier)).map .audio := by
  cases ran : session.run inputs outbox with
  | mk result after =>
    cases result with
    | ok last => exact ⟨inputs, [], (List.append_nil _).symm, run_plays solid ran⟩
    | error exit =>
      cases connected : session.connect with
      | error failed =>
        rw [MiniMaxWsSession.run, connected] at ran
        obtain ⟨_, rfl⟩ := Prod.mk.inj ran
        exact ⟨[], inputs, rfl, (List.append_nil _).symm⟩
      | ok start =>
        rw [MiniMaxWsSession.run, connected] at ran
        obtain ⟨before, signal, rest, last, middle, rfl, waited, left⟩ := loop_left session ran
        have plays := (handleInput_plays solid last middle signal).left exit (by rw [left])
        rw [left] at plays
        refine ⟨before, signal :: rest, rfl, plays.trans ?_⟩
        rw [loop_plays solid waited, connect_counted connected]

/-! ## What the messages carry -/

/-- An audio payload of a message: a text to be decoded, or the bytes themselves. -/
inductive Payload where
  | text (text : String)
  | bytes (bytes : Bytes)

def Payload.Is (base64 : Base64) : Payload → Bytes → Prop
  | .text encoded, audio => decodeMinimaxAudio base64 encoded = .ok audio
  | .bytes raw, audio => raw = audio

/-- The fields that are there and not blank. -/
def carried (data : MiniMaxAudioData) : List String :=
  (data.audio.toList ++ data.audioBase64.toList).filter (trim · ≠ "")

/-- The payloads of an input that are not empty. -/
def payloads : MiniMaxWsInput → List Payload
  | .message (.text (.ok event)) => (event.data.toList.flatMap carried).map .text
  | .message (.binary bytes) => if bytes = [] then [] else [.bytes bytes]
  | _ => []

/-- Every payload of the inputs is emitted, once and in order. -/
def Delivered (session : MiniMaxWsSession) (inputs : List MiniMaxWsInput) : Prop :=
  List.Forall₂ (Payload.Is session.config.base64) (inputs.flatMap payloads)
    (((audioChunks (TtsTask.minimaxSocket session inputs).events).map AudioChunk.bytes).filter
      (· ≠ []))

/-- What the answer to a request makes of a data object. -/
def restAudio (base64 : Base64) (data : MiniMaxAudioData) : List Bytes :=
  (synthesizeMinimax base64 "" (.body (.ok ⟨none, some data⟩))).toOption.toList

/-- What a socket session makes of it. -/
def socketAudio (session : MiniMaxWsSession) (data : MiniMaxAudioData) : List Bytes :=
  (audioChunks (session.playEvent {} { data := some data } {}).2.accepted).map AudioChunk.bytes

/-- Both make the same of every data object that the session is sent. -/
def SameExtraction (session : MiniMaxWsSession) (inputs : List MiniMaxWsInput) : Prop :=
  ∀ event data, .message (.text (.ok event)) ∈ inputs → event.data = some data →
    restAudio session.config.base64 data = socketAudio session data

/-- The session has taken the inputs and ended without an error at the last one. -/
def EndsWell (session : MiniMaxWsSession) (earlier : List MiniMaxWsInput) (last : MiniMaxWsInput) :
    Prop :=
  ∃ state middle, session.run earlier {} = (.ok state, middle) ∧
    (session.handleInput state middle last).1 = .error (.ok none)

/-- No message has both fields, unless they are blank, and the message that ends the task has no
audio. -/
def OneField : MiniMaxWsInput → Prop
  | .message (.text (.ok event)) => ∀ data, event.data = some data →
      (∀ audio other, data.audio = some audio → data.audioBase64 = some other →
        trim audio = "" ∧ trim other = "") ∧
      (event.event = some "task_finished" → carried data = [])
  | _ => True

/-! ## One data object -/

theorem restAudio_eq (base64 : Base64) (data : MiniMaxAudioData) :
    restAudio base64 data = ((data.audioBase64.or data.audio).bind (read base64)).toList := by
  simp only [restAudio, synthesizeMinimax, Option.bind_none]
  cases data.audioBase64.or data.audio with
  | none => rfl
  | some encoded => rfl

theorem socketAudio_eq (solid : NeverSilent session.config.base64) (data : MiniMaxAudioData) :
    socketAudio session data =
      ((data.audio.or data.audioBase64).bind (read session.config.base64)).toList := by
  unfold socketAudio MiniMaxWsSession.playEvent
  simp only [Option.bind_some]
  cases data.audio.or data.audioBase64 with
  | none => rfl
  | some audio =>
    dsimp only [Option.bind_some]
    split_ifs with blank
    · rw [read_blank blank]
      rfl
    · rw [decodeMinimaxAudio_trim, read]
      cases decoded : decodeMinimaxAudio session.config.base64 audio with
      | error error => rfl
      | ok bytes =>
        cases bytes with
        | nil => exact absurd decoded (decodeMinimaxAudio_ne_nil solid audio)
        | cons byte rest => rfl

/-- If only one field matters, the session takes it. -/
theorem carried_of_one {data : MiniMaxAudioData}
    (one : ∀ audio other, data.audio = some audio → data.audioBase64 = some other →
      trim audio = "" ∧ trim other = "") :
    carried data = (data.audio.or data.audioBase64).toList.filter (trim · ≠ "") := by
  rw [carried]
  cases audio : data.audio with
  | none => rfl
  | some text =>
    cases other : data.audioBase64 with
    | none => rfl
    | some encoded =>
      obtain ⟨blank, otherBlank⟩ := one text encoded audio other
      simp [blank, otherBlank]

theorem sameExtraction_of_one {data : MiniMaxAudioData} {base64 : Base64}
    (one : ∀ audio other, data.audio = some audio → data.audioBase64 = some other →
      trim audio = "" ∧ trim other = "") :
    (data.audioBase64.or data.audio).bind (read base64) =
      (data.audio.or data.audioBase64).bind (read base64) := by
  cases audio : data.audio with
  | none => rw [Option.or_none, Option.none_or]
  | some text =>
    cases other : data.audioBase64 with
    | none => rfl
    | some encoded =>
      obtain ⟨blank, otherBlank⟩ := one text encoded audio other
      simp [read_blank blank, read_blank otherBlank]

/-! ## One input -/

/-- What an input at which the session goes on has it emit, if it is not empty. -/
def spoken (base64 : Base64) (input : MiniMaxWsInput) : List Bytes :=
  (played base64 input).toList.filter (· ≠ [])

theorem read_ne_nil {base64 : Base64} (solid : NeverSilent base64) {text : String} {audio : Bytes}
    (found : read base64 text = some audio) : audio ≠ [] := by
  rintro rfl
  rw [read] at found
  cases decoded : decodeMinimaxAudio base64 text with
  | error error =>
    rw [decoded] at found
    cases found
  | ok bytes =>
    rw [decoded] at found
    obtain rfl := Option.some.inj found
    exact decodeMinimaxAudio_ne_nil solid text decoded

theorem read_eq_some {base64 : Base64} {text : String} {audio : Bytes} :
    read base64 text = some audio ↔ decodeMinimaxAudio base64 text = .ok audio := by
  rw [read]
  cases decodeMinimaxAudio base64 text with
  | error error => exact ⟨(fun same => by cases same), (fun same => by cases same)⟩
  | ok bytes =>
    exact ⟨fun same => congrArg _ (Option.some.inj same), fun same => congrArg _ (Except.ok.inj same)⟩

/-- Where the session goes on, the text it takes can be decoded. -/
theorem read_of_ok {event : MiniMaxWsEvent} {audio : String}
    (taken : chosen event = some audio) (loud : trim audio ≠ "")
    (ok : (session.playEvent state event outbox).1 = .ok next) :
    ∃ bytes, read session.config.base64 audio = some bytes := by
  unfold MiniMaxWsSession.playEvent at ok
  rw [← chosen, taken] at ok
  dsimp only at ok
  rw [if_neg loud, decodeMinimaxAudio_trim] at ok
  cases decoded : decodeMinimaxAudio session.config.base64 audio with
  | error error =>
    rw [decoded] at ok
    cases ok
  | ok bytes => exact ⟨bytes, read_eq_some.mpr decoded⟩

theorem not_finished_of_ok {event : MiniMaxWsEvent} (ok : session.handleEvent state event = .ok next) :
    event.event ≠ some "task_finished" := by
  intro finished
  unfold MiniMaxWsSession.handleEvent at ok
  split at ok
  · cases ok
  · rw [if_neg (by rw [finished]; decide), if_pos finished] at ok
    cases ok

/-- The text the session takes from an event is what it emits. -/
theorem chosen_spoken (solid : NeverSilent session.config.base64) {event : MiniMaxWsEvent}
    (ok : (session.playEvent state event outbox).1 = .ok next) :
    List.Forall₂ (fun text audio => decodeMinimaxAudio session.config.base64 text = .ok audio)
      ((chosen event).toList.filter (trim · ≠ ""))
      (spoken session.config.base64 (.message (.text (.ok event)))) := by
  rw [spoken, played]
  cases taken : chosen event with
  | none => exact .nil
  | some audio =>
    rw [Option.bind_some, Option.toList_some]
    by_cases blank : trim audio = ""
    · rw [read_blank blank, List.filter_cons_of_neg (by simpa using blank)]
      exact .nil
    · obtain ⟨bytes, found⟩ := read_of_ok taken blank ok
      have nonempty := read_ne_nil solid found
      rw [found, Option.toList_some, List.filter_cons_of_pos (by simpa using blank),
        List.filter_cons_of_pos (by simpa using nonempty)]
      exact .cons (read_eq_some.mp found) .nil

theorem chosen_sublist (data : MiniMaxAudioData) :
    ((data.audio.or data.audioBase64).toList.filter (trim · ≠ "")).Sublist (carried data) := by
  apply List.Sublist.filter
  cases data.audio with
  | none => exact List.sublist_append_right ..
  | some audio => exact List.sublist_append_left ..

/-- Where the session goes on, it emits no more than the message carries. -/
theorem spoken_le (solid : NeverSilent session.config.base64)
    (ok : (session.handleInput state outbox input).1 = .ok next) :
    (spoken session.config.base64 input).length ≤ (payloads input).length := by
  match input with
  | .failed _ | .handleDropped | .closed | .message .close | .message (.text (.error _))
  | .message .other | .message .ping | .command _ => exact Nat.zero_le _
  | .message (.binary bytes) =>
    by_cases empty : bytes = []
    · subst empty
      exact Nat.zero_le _
    · simp [spoken, played, payloads, empty]
  | .message (.text (.ok event)) =>
    simp only [MiniMaxWsSession.handleInput, MiniMaxWsSession.handleMessage] at ok
    split at ok
    · cases ok
    · have same := (chosen_spoken solid ok).length_eq
      rw [← same, payloads, List.length_map, chosen]
      cases event.data with
      | none => exact Nat.zero_le _
      | some data =>
        rw [Option.toList_some, List.flatMap_singleton]
        exact (chosen_sublist data).length_le

/-- With audio in one field only, the session emits what the message carries. -/
theorem spoken_of_oneField (solid : NeverSilent session.config.base64)
    (ok : (session.handleInput state outbox input).1 = .ok next) (one : OneField input) :
    List.Forall₂ (Payload.Is session.config.base64) (payloads input)
      (spoken session.config.base64 input) := by
  match input with
  | .failed _ | .handleDropped | .closed | .message .close | .message (.text (.error _))
  | .message .other | .message .ping | .command _ => exact .nil
  | .message (.binary bytes) =>
    by_cases empty : bytes = []
    · subst empty
      exact .nil
    · simp [spoken, played, payloads, empty, Payload.Is]
  | .message (.text (.ok event)) =>
    simp only [MiniMaxWsSession.handleInput, MiniMaxWsSession.handleMessage] at ok
    split at ok
    · cases ok
    · have emits := chosen_spoken solid ok
      have fields : event.data.toList.flatMap carried =
          (chosen event).toList.filter (trim · ≠ "") := by
        rw [chosen]
        cases present : event.data with
        | none => rfl
        | some data =>
          rw [Option.toList_some, List.flatMap_singleton]
          exact carried_of_one (one data present).1
      rw [payloads, fields, List.forall₂_map_left_iff]
      exact emits

/-- If nothing the message carries is left out, and both ways of reading it agree, it has one field.
-/
theorem oneField_of_spoken (solid : NeverSilent session.config.base64)
    (ok : (session.handleInput state outbox input).1 = .ok next)
    (all : (spoken session.config.base64 input).length = (payloads input).length)
    (same : ∀ event data, input = .message (.text (.ok event)) → event.data = some data →
      restAudio session.config.base64 data = socketAudio session data) : OneField input := by
  match input with
  | .failed _ | .handleDropped | .closed | .message .close | .message (.text (.error _))
  | .message .other | .message .ping | .command _ | .message (.binary _) => trivial
  | .message (.text (.ok event)) =>
    simp only [MiniMaxWsSession.handleInput, MiniMaxWsSession.handleMessage] at ok
    split at ok
    · cases ok
    · rename_i taken
      intro data present
      constructor
      · intro audio other first second
        have extraction := same event data rfl present
        rw [restAudio_eq, socketAudio_eq solid, first, second] at extraction
        have lengths := (chosen_spoken solid ok).length_eq
        rw [all, payloads, List.length_map, present, Option.toList_some, List.flatMap_singleton,
          carried, chosen, present, Option.bind_some, first, second] at lengths
        have otherBlank : trim other = "" := by
          by_contra loud
          by_cases blank : trim audio = "" <;> simp [blank, loud] at lengths
        constructor
        · by_contra loud
          have chosen_ : chosen event = some audio := by
            rw [chosen, present, Option.bind_some, first]
            rfl
          obtain ⟨bytes, found⟩ := read_of_ok chosen_ loud ok
          simp [read_blank otherBlank, found] at extraction
        · exact otherBlank
      · exact fun finished => absurd finished (not_finished_of_ok taken)

/-! ## The last input -/

theorem finished_of_left {event : MiniMaxWsEvent}
    (left : session.handleEvent state event = .error (.ok none)) :
    event.event = some "task_finished" := by
  by_cases starts : event.event = some "task_started"
  · obtain ⟨error, wrong⟩ := SocketText.taskStarted_error starts left
    cases wrong
  · unfold MiniMaxWsSession.handleEvent at left
    split at left
    · cases left
    · rw [if_neg starts] at left
      split_ifs at left with finished failed
      · exact finished
      · cases left

/-- A session that ends well over an event that it looks at has taken a blank text. -/
theorem blank_of_left (solid : NeverSilent session.config.base64) {event : MiniMaxWsEvent}
    (left : (session.playEvent state event outbox).1 = .error (.ok none)) :
    ∃ audio, chosen event = some audio ∧ trim audio = "" := by
  unfold MiniMaxWsSession.playEvent at left
  rw [← chosen] at left
  cases taken : chosen event with
  | none =>
    rw [taken] at left
    cases left
  | some audio =>
    refine ⟨audio, rfl, ?_⟩
    by_contra loud
    rw [taken] at left
    dsimp only at left
    rw [if_neg loud, decodeMinimaxAudio_trim] at left
    cases decoded : decodeMinimaxAudio session.config.base64 audio with
    | error error =>
      rw [decoded] at left
      cases left
    | ok bytes =>
      cases bytes with
      | nil => exact decodeMinimaxAudio_ne_nil solid audio decoded
      | cons byte rest =>
        rw [decoded] at left
        unfold MiniMaxWsSession.sendChunk at left
        dsimp only at left
        split at left <;> cases left

/-- The message at which a session ends well carries nothing if it has one field. -/
theorem payloads_of_left (solid : NeverSilent session.config.base64)
    (left : (session.handleInput state outbox input).1 = .error (.ok none))
    (one : OneField input) : payloads input = [] := by
  match input with
  | .failed _ | .handleDropped | .closed | .message .close | .message (.text (.error _))
  | .message .other | .message .ping | .command _ => rfl
  | .message (.binary bytes) =>
    simp only [MiniMaxWsSession.handleInput, MiniMaxWsSession.handleMessage,
      MiniMaxWsSession.sendChunk] at left
    split at left <;> cases left
  | .message (.text (.ok event)) =>
    simp only [MiniMaxWsSession.handleInput, MiniMaxWsSession.handleMessage] at left
    cases present : event.data with
    | none => rw [payloads, present]; rfl
    | some data =>
      obtain ⟨single, silent⟩ := one data present
      rw [payloads, present, Option.toList_some, List.flatMap_singleton]
      split at left
      · rename_i exit taken
        obtain rfl : exit = .ok none := Except.error.inj left
        rw [silent (finished_of_left taken)]
        rfl
      · obtain ⟨audio, taken, blank⟩ := blank_of_left solid left
        rw [chosen, present, Option.bind_some] at taken
        rw [carried_of_one single, taken, Option.toList_some,
          List.filter_cons_of_neg (by simpa using blank)]
        rfl

theorem oneField_of_payloads (nothing : payloads input = []) : OneField input := by
  match input with
  | .failed _ | .handleDropped | .closed | .message .close | .message (.text (.error _))
  | .message .other | .message .ping | .command _ | .message (.binary _) => trivial
  | .message (.text (.ok event)) =>
    intro data present
    rw [payloads, List.map_eq_nil_iff, present, Option.toList_some,
      List.flatMap_singleton] at nothing
    refine ⟨fun audio other first second => ?_, fun _ => nothing⟩
    rw [carried, first, second, List.filter_eq_nil_iff] at nothing
    exact ⟨by simpa using nothing audio (by simp), by simpa using nothing other (by simp)⟩

/-! ## Sessions that end well -/

theorem emitted_nonempty (base64 : Base64) (inputs : List MiniMaxWsInput) :
    (emitted base64 inputs).filter (· ≠ []) = inputs.flatMap (spoken base64) := by
  induction inputs with
  | nil => rfl
  | cons input rest ih =>
    rw [List.flatMap_cons, ← ih, emitted, List.filterMap_cons, spoken]
    cases played base64 input with
    | none => rfl
    | some bytes => by_cases empty : bytes = [] <;> simp [empty, emitted]

theorem audioChunks_map_audio (chunks : List AudioChunk) (rest : List BridgeTtsEvent) :
    audioChunks (chunks.map .audio ++ rest) = chunks ++ audioChunks rest := by
  induction chunks with
  | nil => rfl
  | cons chunk others ih => rw [List.map_cons, List.cons_append, audioChunks_audio, ih]; rfl

/-- Every input before the last was one at which the session went on. -/
theorem loop_went_on {inputs : List MiniMaxWsInput} {last : MiniMaxWsState}
    {after : Outbox BridgeTtsEvent} (ran : session.loop inputs state outbox = (.ok last, after)) :
    ∀ input ∈ inputs, ∃ state outbox next,
      (session.handleInput state outbox input).1 = .ok next := by
  induction inputs generalizing state outbox with
  | nil => exact fun _ member => absurd member List.not_mem_nil
  | cons input rest ih =>
    simp only [MiniMaxWsSession.loop] at ran
    split at ran
    · rename_i next middle stepped
      intro other member
      rcases List.mem_cons.mp member with rfl | later
      · exact ⟨state, outbox, next, congrArg Prod.fst stepped⟩
      · exact ih ran other later
    · rename_i waiting
      exact absurd ran (waiting last after)

variable {earlier : List MiniMaxWsInput} {last : MiniMaxWsInput}

theorem EndsWell.connected (ended : EndsWell session earlier last) :
    ∃ start state middle, session.connect = .ok start ∧
      session.loop earlier start ⟨[], none⟩ = (.ok state, middle) ∧
      (session.handleInput state middle last).1 = .error (.ok none) := by
  obtain ⟨state, middle, ran, left⟩ := ended
  unfold MiniMaxWsSession.run at ran
  split at ran
  · cases (Prod.mk.inj ran).1
  · rename_i start connected
    exact ⟨start, state, middle, connected, ran, left⟩

/-- The session has emitted the audio of the inputs before the last, and then its end. -/
theorem EndsWell.events (solid : NeverSilent session.config.base64)
    (ended : EndsWell session earlier last) :
    (TtsTask.minimaxSocket session (earlier ++ [last])).events =
      (chunksFrom session.format 0 (emitted session.config.base64 earlier)).map .audio ++
        [.ended none] := by
  obtain ⟨start, state, middle, connected, ran, left⟩ := ended.connected
  obtain ⟨sent, rfl, _⟩ := loop_running session ran
  have plays := loop_plays solid ran
  rw [connect_counted connected] at plays
  have nothing := (handleInput_live session state _ last).left _ left
  have stopped : session.handleInput state ⟨[] ++ sent.map .audio, none⟩ last =
      (.error (.ok none), ⟨[] ++ sent.map .audio, none⟩) := Prod.ext left nothing
  have task : session.task (earlier ++ [last]) {} = ⟨sent.map .audio ++ [.ended none], none⟩ := by
    simp only [MiniMaxWsSession.task, MiniMaxWsSession.run, connected,
      loop_append session earlier [last] _ _ ran, MiniMaxWsSession.loop, stopped]
    exact Outbox.sendAll_live ..
  have whole : (TtsTask.minimaxSocket session (earlier ++ [last])).events =
      sent.map .audio ++ [.ended none] := congrArg Outbox.accepted task
  rw [whole]
  exact congrArg (· ++ [BridgeTtsEvent.ended none]) plays

theorem forall₂_flatMap {α β γ : Type} {related : β → γ → Prop} {first : α → List β}
    {second : α → List γ} {items : List α}
    (each : ∀ item ∈ items, List.Forall₂ related (first item) (second item)) :
    List.Forall₂ related (items.flatMap first) (items.flatMap second) := by
  induction items with
  | nil => exact .nil
  | cons item rest ih =>
    rw [List.flatMap_cons, List.flatMap_cons]
    exact List.rel_append (each item List.mem_cons_self)
      (ih fun other member => each other (List.mem_cons_of_mem item member))

theorem length_flatMap_le {α β γ : Type} {first : α → List β} {second : α → List γ}
    {items : List α} (each : ∀ item ∈ items, (first item).length ≤ (second item).length) :
    (items.flatMap first).length ≤ (items.flatMap second).length := by
  induction items with
  | nil => exact Nat.zero_le _
  | cons item rest ih =>
    have head := each item List.mem_cons_self
    have tail := ih fun other member => each other (List.mem_cons_of_mem item member)
    rw [List.flatMap_cons, List.flatMap_cons, List.length_append, List.length_append]
    omega

/-- Lists that are at most as long item by item, and as long together, are as long each. -/
theorem length_flatMap_eq {α β γ : Type} {first : α → List β} {second : α → List γ}
    {items : List α} (each : ∀ item ∈ items, (first item).length ≤ (second item).length)
    (together : (items.flatMap second).length ≤ (items.flatMap first).length) :
    ∀ item ∈ items, (first item).length = (second item).length := by
  induction items with
  | nil => exact fun _ member => absurd member List.not_mem_nil
  | cons item rest ih =>
    have tail : ∀ other ∈ rest, (first other).length ≤ (second other).length :=
      fun other member => each other (List.mem_cons_of_mem item member)
    have rests := length_flatMap_le tail
    have head := each item List.mem_cons_self
    rw [List.flatMap_cons, List.flatMap_cons, List.length_append, List.length_append] at together
    intro other member
    rcases List.mem_cons.mp member with rfl | later
    · omega
    · exact ih tail (by omega) other later

/-- In a session that ends well, everything that the messages carry is emitted, and both ways of
reading a data object agree on it, exactly if every message has its audio in one field and the
message that ends the task has none. -/
theorem audio_delivered_iff (solid : NeverSilent session.config.base64)
    (ended : EndsWell session earlier last) :
    Delivered session (earlier ++ [last]) ∧ SameExtraction session (earlier ++ [last]) ↔
      ∀ input ∈ earlier ++ [last], OneField input := by
  obtain ⟨start, state, middle, _, ran, left⟩ := ended.connected
  have went := loop_went_on ran
  have sounds : ((audioChunks (TtsTask.minimaxSocket session (earlier ++ [last])).events).map
      AudioChunk.bytes).filter (· ≠ []) = earlier.flatMap (spoken session.config.base64) := by
    rw [ended.events solid, audioChunks_map_audio, List.map_append, chunksFrom_bytes,
      ← emitted_nonempty]
    exact congrArg _ (List.append_nil _)
  rw [Delivered, sounds, List.flatMap_append, List.flatMap_singleton]
  constructor
  · rintro ⟨delivered, same⟩
    -- nothing is carried by the last message, and every other one is emitted in full
    have lengths := delivered.length_eq
    rw [List.length_append] at lengths
    have each : ∀ input ∈ earlier, (spoken session.config.base64 input).length ≤
        (payloads input).length := by
      intro input member
      obtain ⟨_, _, _, ok⟩ := went input member
      exact spoken_le solid ok
    have total := length_flatMap_le each
    intro input member
    rcases List.mem_append.mp member with before | final
    · obtain ⟨_, _, _, ok⟩ := went input before
      refine oneField_of_spoken solid ok (length_flatMap_eq each (by omega) input before) ?_
      rintro event data rfl present
      exact same event data member present
    · obtain rfl := List.mem_singleton.mp final
      exact oneField_of_payloads (List.length_eq_zero_iff.mp (by omega))
  · intro one
    constructor
    · have silent : payloads last = [] := payloads_of_left solid left (one last (by simp))
      rw [silent, List.append_nil]
      apply forall₂_flatMap
      intro input member
      obtain ⟨_, _, _, ok⟩ := went input member
      exact spoken_of_oneField solid ok (one input (List.mem_append_left _ member))
    · intro event data member present
      rw [restAudio_eq, socketAudio_eq solid,
        sameExtraction_of_one (one _ member data present).1]

/-- The start of an utterance, up to the audio of the provider. -/
def utterance (data : MiniMaxAudioData) : List MiniMaxWsInput :=
  [.command (.appendInput "Hello"), SocketText.taskStarted, .command .commit,
    .message (.text (.ok { data := some data }))]

def taskFinished : MiniMaxWsInput := .message (.text (.ok { event := some "task_finished" }))

/-- What the session has written after an utterance. -/
def afterUtterance (chunkSequence : ℕ) : MiniMaxWsState :=
  ⟨true, true, true, "", [], chunkSequence, [.taskStart (some "Hello"), .taskFinish]⟩

/-- Audio in one field is delivered. -/
theorem utterance_delivered :
    Delivered (SocketText.openSession .streaming)
        (utterance ⟨some "52494646", none⟩ ++ [taskFinished]) ∧
      SameExtraction (SocketText.openSession .streaming)
        (utterance ⟨some "52494646", none⟩ ++ [taskFinished]) := by
  have ran : (SocketText.openSession .streaming).run (utterance ⟨some "52494646", none⟩) {} =
      (.ok (afterUtterance 1), ⟨[.audio ⟨[0x52, 0x49, 0x46, 0x46], 1, false,
        some ⟨.mp3, 32000, 1⟩⟩], none⟩) := rfl
  refine (audio_delivered_iff base64Standard_neverSilent ⟨_, _, ran, rfl⟩).mpr ?_
  intro input member
  simp only [utterance, List.cons_append, List.nil_append, List.mem_cons, List.not_mem_nil,
    or_false] at member
  rcases member with rfl | rfl | rfl | rfl | rfl
  · trivial
  · exact fun data present => by cases present
  · trivial
  · intro data present
    obtain rfl := Option.some.inj present
    exact ⟨(fun audio other _ second => by cases second), (fun finished => by cases finished)⟩
  · exact fun data present => by cases present

/-- An empty first field hides the second. -/
theorem hidden_not_delivered :
    EndsWell (SocketText.openSession .streaming) (utterance ⟨some "", some "UklGRg=="⟩)
        taskFinished ∧
      ¬ Delivered (SocketText.openSession .streaming)
        (utterance ⟨some "", some "UklGRg=="⟩ ++ [taskFinished]) := by
  have ran : (SocketText.openSession .streaming).run (utterance ⟨some "", some "UklGRg=="⟩) {} =
      (.ok (afterUtterance 0), {}) := rfl
  have ended : EndsWell (SocketText.openSession .streaming)
      (utterance ⟨some "", some "UklGRg=="⟩) taskFinished := ⟨_, _, ran, rfl⟩
  refine ⟨ended, fun delivered => ?_⟩
  have carried_ : carried ⟨some "", some "UklGRg=="⟩ = ["UklGRg=="] := by decide +kernel
  have nothing : emitted (SocketText.openSession .streaming).config.base64
      (utterance ⟨some "", some "UklGRg=="⟩) = [] := by
    decide +kernel
  have lengths := delivered.length_eq
  rw [ended.events base64Standard_neverSilent, nothing] at lengths
  simp [utterance, payloads, taskFinished, SocketText.taskStarted, carried_, chunksFrom,
    audioChunks, chunkOf, List.filterMap_cons] at lengths

end SpeechMesh.Soundness.SocketAudio
