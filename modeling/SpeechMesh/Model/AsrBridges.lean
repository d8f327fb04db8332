import Mathlib.Algebra.Group.Nat.Defs
import SpeechMesh.Async.Emission
import SpeechMesh.Model.Core

/-! # The ASR bridges

The session tasks behind an ASR bridge handle. A task is run on the commands its handle sends it,
up to the point where the handle is dropped, and on what its upstream answers. The requests that
are sent upstream are left out: nothing of them comes back but the reply.
-/

namespace SpeechMesh.Model

open Async

/-! ## Requested modes -/

/-- `parse_stream_mode`. -/
def parseStreamMode (value : Option Json) (default : StreamMode) : StreamMode :=
  match (value.bind Json.asString?).map fun text => toAsciiLowercase (trim text) with
  | some mode =>
      if mode = "streaming" then .streaming else if mode = "buffered" then .buffered else default
  | none => default

def requestedAsrInputMode (request : AsrStreamRequest) : StreamMode :=
  parseStreamMode (request.options.providerOptions.get? "input_mode") .streaming

def requestedAsrOutputMode (request : AsrStreamRequest) : StreamMode :=
  match request.options.providerOptions.get? "output_mode" with
  | some explicit => parseStreamMode (some explicit) .buffered
  | none => if request.options.interimResults then .streaming else .buffered

/-! ## The mock bridge -/

def mockTranscript (bufferedBytes : ℕ) : Transcript where
  text := "mock transcript bytes=" ++ toString bufferedBytes
  language := some "en-US"
  segments := []

/-- The session task of `MockAsrBridge`. -/
def mockAsrTask (outputMode : StreamMode) :
    List BridgeCommand → ℕ → Outbox BridgeAsrEvent → Outbox BridgeAsrEvent
  | [], _, outbox => outbox
  | .pushAudio chunk :: rest, bufferedBytes, outbox =>
      let bufferedBytes := bufferedBytes + chunk.length
      match outputMode with
      | .streaming =>
          match outbox.send (.partial_ ("mock partial bytes=" ++ toString bufferedBytes)) with
          | (outbox, true) => mockAsrTask outputMode rest bufferedBytes outbox
          | (outbox, false) => outbox
      | .buffered => mockAsrTask outputMode rest bufferedBytes outbox
  | .commit :: _, bufferedBytes, outbox =>
      match outbox.send (.final (mockTranscript bufferedBytes)) with
      | (outbox, true) => (outbox.send (.ended none)).1
      | (outbox, false) => outbox
  | .stop :: _, _, outbox => (outbox.send (.ended (some "stopped"))).1

/-! ## The MiniMax bridge -/

/-- What an HTTP request of a provider comes to: it fails, it is refused with a status, or its body
is read and decoded. -/
inductive HttpReply (β : Type) where
  | failed (error : String)
  | status (status body : String)
  | body (payload : Except String β)

/-- `str::trim_end_matches('/')`. -/
def trimEndSlashes (text : String) : String :=
  String.ofList (text.toList.reverse.dropWhile (· == '/')).reverse

structure MiniMaxAsrConfig where
  baseUrl : String
  streamingPartialMinBytes : ℕ

/-- Times are in milliseconds here, as `seconds_to_ms` makes them. -/
structure MiniMaxAsrSegment where
  text : Option String
  startMs : Option UInt64
  endMs : Option UInt64

structure MiniMaxAsrWord where
  word : Option String
  text : Option String
  startMs : Option UInt64
  endMs : Option UInt64

/-- The error of a response is its message. -/
structure MiniMaxAsrResponse where
  text : Option String := none
  language : Option String := none
  segments : Option (List MiniMaxAsrSegment) := none
  words : Option (List MiniMaxAsrWord) := none
  error : Option (Option String) := none

def AudioEncoding.toName : AudioEncoding → String
  | .pcmS16Le => "pcm_s16le"
  | .pcmF32Le => "pcm_f32le"
  | .opus => "opus"
  | .mp3 => "mp3"
  | .aac => "aac"
  | .flac => "flac"
  | .wav => "wav"

def unsupportedAsrInput (encoding : AudioEncoding) : BridgeError :=
  .unavailable ("MiniMax ASR does not support " ++ encoding.toName ++ " input yet")

/-- `audio_mime_type`. -/
def audioMimeType (format : AudioFormat) : Except BridgeError String :=
  match format.encoding with
  | .pcmS16Le | .wav => .ok "audio/wav"
  | .mp3 => .ok "audio/mpeg"
  | .flac => .ok "audio/flac"
  | .opus | .aac | .pcmF32Le => .error (unsupportedAsrInput format.encoding)

/-- Whether `encode_pcm_s16le_wav` can write the header. -/
def checkPcmS16leWav (pcm : Bytes) (format : AudioFormat) : Except BridgeError Unit :=
  let rate := format.sampleRateHz.toNat
  let channels := format.channels.toNat
  if 2 ^ 32 - 1 - 44 < pcm.length then .error (.protocol "PCM payload too large to wrap in WAV")
  else if 2 ^ 32 ≤ rate * channels ∨ 2 ^ 32 ≤ rate * channels * 2 then
    .error (.protocol "invalid WAV byte rate")
  else if 2 ^ 16 ≤ channels * 2 then .error (.protocol "invalid WAV block align")
  else .ok ()

/-- Whether `encode_minimax_upload_audio` accepts the audio. -/
def checkMinimaxUploadAudio (format : AudioFormat) (audio : Bytes) : Except BridgeError Unit :=
  match format.encoding with
  | .pcmS16Le => checkPcmS16leWav audio format
  | .mp3 | .flac | .wav => .ok ()
  | .opus | .aac | .pcmF32Le => .error (unsupportedAsrInput format.encoding)

/-- The segments of a response: its words, or else its segments. -/
def MiniMaxAsrResponse.transcriptSegments (response : MiniMaxAsrResponse) :
    List TranscriptSegment :=
  let words := (response.words.getD []).filterMap fun word =>
    (word.word.or word.text).map fun text => ⟨text, true, word.startMs, word.endMs⟩
  if words.isEmpty then
    (response.segments.getD []).filterMap fun segment =>
      segment.text.map fun text => ⟨text, true, segment.startMs, segment.endMs⟩
  else words

/-- The text of a response: its own, or that of its segments, if it is not blank. -/
def MiniMaxAsrResponse.transcriptText (response : MiniMaxAsrResponse) : Option String :=
  (response.text.or (response.segments.map fun segments =>
    String.join (segments.filterMap MiniMaxAsrSegment.text))).filter fun text => trim text ≠ ""

/-- `transcribe_minimax`, on the reply to its request. -/
def transcribeMinimax (config : MiniMaxAsrConfig) (format : AudioFormat) (bufferedAudio : Bytes)
    (reply : HttpReply MiniMaxAsrResponse) : Except BridgeError Transcript := do
  if bufferedAudio.isEmpty then
    throw (.protocol "MiniMax ASR commit received without any buffered audio")
  let _ ← audioMimeType format
  checkMinimaxUploadAudio format bufferedAudio
  let url := trimEndSlashes config.baseUrl ++ "/audio/transcriptions"
  match reply with
  | .failed error =>
      throw (.unavailable ("failed to call MiniMax ASR endpoint " ++ url ++ ": " ++ error))
  | .status status body =>
      throw (.unavailable
        ("MiniMax ASR endpoint " ++ url ++ " returned status " ++ status ++ ": " ++ body))
  | .body (.error error) =>
      throw (.protocol ("failed to decode MiniMax ASR response: " ++ error))
  | .body (.ok payload) =>
      match payload.error.join with
      | some error => throw (.unavailable ("MiniMax ASR failed: " ++ error))
      | none =>
          match payload.transcriptText with
          | none => throw (.protocol "MiniMax ASR response missing text")
          | some text => return ⟨text, payload.language, payload.transcriptSegments⟩

/-- `streaming_partial_trigger_bytes`. -/
def streamingPartialTriggerBytes (format : AudioFormat) (configuredMinBytes : ℕ) : ℕ :=
  if 0 < configuredMinBytes then configuredMinBytes
  else
    match format.encoding with
    | .pcmS16Le => format.sampleRateHz.toNat * format.channels.toNat * 2
    | .pcmF32Le => format.sampleRateHz.toNat * format.channels.toNat * 4
    | _ => 32 * 1024

/-- The local variables of the session task. -/
structure MiniMaxAsrState where
  bufferedAudio : Bytes := []
  lastPartialBytes : ℕ := 0
  lastPartialText : Option String := none

namespace MiniMaxAsrState

def push (state : MiniMaxAsrState) (chunk : Bytes) : MiniMaxAsrState :=
  { state with bufferedAudio := state.bufferedAudio ++ chunk }

/-- The text of a partial result, if there is something new to tell. -/
def newPartial (state : MiniMaxAsrState) (transcript : Transcript) : Option String :=
  let text := trim transcript.text
  if text ≠ "" ∧ state.lastPartialText ≠ some text then some text else none

/-- A partial result is about to be told. -/
def told (state : MiniMaxAsrState) (text : String) : MiniMaxAsrState :=
  { state with
    lastPartialBytes := state.bufferedAudio.length
    lastPartialText := some text }

end MiniMaxAsrState

/-- What a session of `MiniMaxHttpAsrBridge` is started with. -/
structure MiniMaxAsrSession where
  config : MiniMaxAsrConfig
  request : AsrStreamRequest

namespace MiniMaxAsrSession

variable (session : MiniMaxAsrSession)

def transcribe (state : MiniMaxAsrState) (reply : HttpReply MiniMaxAsrResponse) :
    Except BridgeError Transcript :=
  transcribeMinimax session.config session.request.inputFormat state.bufferedAudio reply

/-- Whether a chunk that was just buffered triggers a partial transcription. -/
def wantsPartial (state : MiniMaxAsrState) : Bool :=
  requestedAsrOutputMode session.request == .streaming &&
    decide (streamingPartialTriggerBytes session.request.inputFormat
      session.config.streamingPartialMinBytes ≤ state.bufferedAudio.length - state.lastPartialBytes)

/-- The session task. Each command makes at most one request, and comes with the reply to it. -/
def task : List (BridgeCommand × HttpReply MiniMaxAsrResponse) → MiniMaxAsrState →
    Outbox BridgeAsrEvent → Outbox BridgeAsrEvent
  | [], _, outbox => outbox
  | (.pushAudio chunk, reply) :: rest, state, outbox =>
      let state := state.push chunk
      if session.wantsPartial state then
        match session.transcribe state reply with
        | .ok transcript =>
            match state.newPartial transcript with
            | some text =>
                match outbox.send (.partial_ text) with
                | (outbox, true) => task rest (state.told text) outbox
                | (outbox, false) => outbox
            | none => task rest state outbox
        | .error error => (outbox.send (.error error.toText)).1
      else task rest state outbox
  | (.commit, reply) :: _, state, outbox =>
      match session.transcribe state reply with
      | .ok transcript =>
          match outbox.send (.final transcript) with
          | (outbox, true) => (outbox.send (.ended none)).1
          | (outbox, false) => outbox
      | .error error => (outbox.send (.error error.toText)).1
  | (.stop, _) :: _, _, outbox => (outbox.send (.ended (some "stopped"))).1

/-- Whether a transcription of the audio is requested: its checks come first. -/
def uploads (audio : Bytes) : Bool :=
  !audio.isEmpty && (audioMimeType session.request.inputFormat).isOk &&
    (checkMinimaxUploadAudio session.request.inputFormat audio).isOk

/-- The session task with the audio of the transcriptions it requests for partial results. -/
def tracedTask : List (BridgeCommand × HttpReply MiniMaxAsrResponse) → MiniMaxAsrState →
    Outbox BridgeAsrEvent → Outbox BridgeAsrEvent × List Bytes
  | [], _, outbox => (outbox, [])
  | (.pushAudio chunk, reply) :: rest, state, outbox =>
      let state := state.push chunk
      if session.wantsPartial state then
        let upload := if session.uploads state.bufferedAudio then [state.bufferedAudio] else []
        let (outbox, later) :=
          match session.transcribe state reply with
          | .ok transcript =>
              match state.newPartial transcript with
              | some text =>
                  match outbox.send (.partial_ text) with
                  | (outbox, true) => tracedTask rest (state.told text) outbox
                  | (outbox, false) => (outbox, [])
              | none => tracedTask rest state outbox
          | .error error => ((outbox.send (.error error.toText)).1, [])
        (outbox, upload ++ later)
      else tracedTask rest state outbox
  | commands, state, outbox => (session.task commands state outbox, [])

end MiniMaxAsrSession

/-! ## The stdio and TCP bridges -/

def Json.asArray? : Json → Option (List Json)
  | .array items => some items
  | _ => none

/-- `Value::as_f64` followed by `seconds_to_ms`. -/
def Json.asMs? (secondsToMs : String → Option UInt64) : Json → Option UInt64
  | .number text => secondsToMs text
  | _ => none

/-- One segment of `extract_final_transcript`. -/
def extractSegment (secondsToMs : String → Option UInt64) (segment : Json) :
    Option TranscriptSegment := do
  let text ← (segment.get? "substring").bind Json.asString?
  let startMs := (segment.get? "timestamp_s").bind (Json.asMs? secondsToMs)
  let durationMs := (segment.get? "duration_s").bind (Json.asMs? secondsToMs)
  let endMs := do
    let start ← startMs
    let duration ← durationMs
    return start + duration
  return ⟨text, true, startMs, endMs⟩

def extractFinalTranscript (secondsToMs : String → Option UInt64) (payload : Json) :
    Option Transcript :=
  ((payload.get? "text").bind Json.asString?).map fun text =>
    { text := text
      language := none
      segments := (((payload.get? "segments").bind Json.asArray?).map
        (List.filterMap (extractSegment secondsToMs))).getD [] }

/-! A build with overflow checks panics where the sum of a start and a duration leaves the `u64`
range; without them the sum wraps around, as above. -/

/-- `u64` addition under overflow checks; `none` stands for the panic. -/
def addU64Checked (a b : UInt64) : Option UInt64 :=
  if a.toNat + b.toNat < 2 ^ 64 then some (a + b) else none

/-- `extractSegment` under overflow checks. -/
def extractSegmentChecked (secondsToMs : String → Option UInt64) (segment : Json) :
    Option (Option TranscriptSegment) :=
  match (segment.get? "substring").bind Json.asString? with
  | none => some none
  | some text =>
      let startMs := (segment.get? "timestamp_s").bind (Json.asMs? secondsToMs)
      let durationMs := (segment.get? "duration_s").bind (Json.asMs? secondsToMs)
      match startMs, durationMs with
      | some start, some duration => do
          let endMs ← addU64Checked start duration
          return some ⟨text, true, some start, some endMs⟩
      | startMs, _ => some (some ⟨text, true, startMs, none⟩)

def extractFinalTranscriptChecked (secondsToMs : String → Option UInt64) (payload : Json) :
    Option (Option Transcript) :=
  match (payload.get? "text").bind Json.asString? with
  | none => some none
  | some text =>
      match (payload.get? "segments").bind Json.asArray? with
      | none => some (some { text := text, language := none, segments := [] })
      | some items => do
          let segments ← items.filterMapM (extractSegmentChecked secondsToMs)
          return some { text := text, language := none, segments := segments }

def bridgeFrameType? (frame : Json) : Option String := (frame.get? "type").bind Json.asString?

/-- The event a frame of the bridge process becomes. Other frame types are ignored. -/
def mapBridgeFrame (secondsToMs : String → Option UInt64) (frame : Json) :
    Option BridgeAsrEvent :=
  match bridgeFrameType? frame with
  | none => none
  | some frameType =>
      let payload := (frame.get? "payload").getD .null
      if frameType = "asr.partial" then
        ((payload.get? "text").bind Json.asString?).map .partial_
      else if frameType = "asr.final" then
        (extractFinalTranscript secondsToMs payload).map .final
      else if frameType = "asr.ended" then
        some (.ended ((payload.get? "reason").bind Json.asString?))
      else if frameType = "error" then
        some (.error (((payload.get? "message").bind Json.asString?).getD "bridge error"))
      else none

/-- What reading the next line of the bridge yields; a line is decoded here. -/
inductive BridgeRead where
  | line (frame : Except String Json)
  | eof
  | failed (error : String)

/-- `run_bridge_reader`. -/
def runBridgeReader (secondsToMs : String → Option UInt64) :
    List BridgeRead → Outbox BridgeAsrEvent → Outbox BridgeAsrEvent
  | [], outbox => outbox
  | .line (.ok frame) :: rest, outbox =>
      match mapBridgeFrame secondsToMs frame with
      | some mapped =>
          match outbox.send mapped with
          | (outbox, true) => runBridgeReader secondsToMs rest outbox
          | (outbox, false) => outbox
      | none => runBridgeReader secondsToMs rest outbox
  | .line (.error _) :: rest, outbox => runBridgeReader secondsToMs rest outbox
  | .eof :: _, outbox => outbox
  | .failed _ :: _, outbox => outbox

/-- The frames of `run_bridge_writer`. -/
inductive BridgeFrame where
  | start (sessionId : SessionId) (locale : Option String) (shouldReportPartials : Bool)
      (requiresOnDevice : Bool) (inputFormat : AudioFormat)
  | audio (sessionId : SessionId) (dataBase64 : String)
  | commit (sessionId : SessionId)
  | stop (sessionId : SessionId)

def BridgeCommand.toFrame (base64 : Base64) (sessionId : SessionId) : BridgeCommand → BridgeFrame
  | .pushAudio chunk => .audio sessionId (base64.encode chunk)
  | .commit => .commit sessionId
  | .stop => .stop sessionId

/-- `run_bridge_writer`: what it writes, up to the first write that fails. The `n`-th write succeeds
if `writes n` holds. -/
def runBridgeWriter (base64 : Base64) (sessionId : SessionId) (request : AsrStreamRequest)
    (commands : List BridgeCommand) (writes : ℕ → Bool) : List BridgeFrame :=
  let start := BridgeFrame.start sessionId request.options.language
    (requestedAsrOutputMode request == .streaming) request.options.preferOnDevice
    request.inputFormat
  writeFrames (start :: commands.map (BridgeCommand.toFrame base64 sessionId)) 0
where
  writeFrames : List BridgeFrame → ℕ → List BridgeFrame
    | [], _ => []
    | frame :: rest, count =>
        if writes count then frame :: writeFrames rest (count + 1) else []

/-! ## Sessions of any bridge -/

/-- The task behind an ASR session with all it is fed: its commands, and what its upstream does. The
stdio and the TCP bridge share their reader and their writer. -/
inductive AsrTask where
  | mock (outputMode : StreamMode) (commands : List BridgeCommand)
  | minimax (session : MiniMaxAsrSession)
      (commands : List (BridgeCommand × HttpReply MiniMaxAsrResponse))
  | bridge (secondsToMs : String → Option UInt64) (commands : List BridgeCommand)
      (reads : List BridgeRead)

namespace AsrTask

def commands : AsrTask → List BridgeCommand
  | .mock _ commands => commands
  | .minimax _ commands => commands.map Prod.fst
  | .bridge _ commands _ => commands

def run : AsrTask → Outbox BridgeAsrEvent → Outbox BridgeAsrEvent
  | .mock outputMode commands, outbox => mockAsrTask outputMode commands 0 outbox
  | .minimax session commands, outbox => session.task commands {} outbox
  | .bridge secondsToMs _ reads, outbox => runBridgeReader secondsToMs reads outbox

/-- The events of a session whose receiver stays. -/
def events (task : AsrTask) : List BridgeAsrEvent := (task.run {}).accepted

end AsrTask

end SpeechMesh.Model
