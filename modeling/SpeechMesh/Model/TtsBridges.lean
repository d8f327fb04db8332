import SpeechMesh.Async.Emission
import SpeechMesh.Encoding.Base64
import SpeechMesh.Encoding.Bytes
import SpeechMesh.Model.AsrBridges
import SpeechMesh.Model.ServerPrograms

/-! # The TTS bridges

The session tasks behind a TTS bridge handle, on the commands of the handle and the answers of the
provider. As for the ASR bridges, the requests sent upstream are left out, apart from the messages
of the MiniMax socket, whose writes can fail in the middle of a session.
-/

namespace SpeechMesh.Model

open Async

def requestedTtsInputMode (options : SynthesisOptions) : StreamMode :=
  parseStreamMode (options.providerOptions.get? "input_mode") .buffered

def requestedTtsOutputMode (options : SynthesisOptions) : StreamMode :=
  match options.providerOptions.get? "output_mode" with
  | some explicit => parseStreamMode (some explicit) .buffered
  | none => if options.stream then .streaming else .buffered

/-! ## Sending audio -/

/-- The loop over the chunks of an audio, from the given index on. -/
def sendAudioParts (format : Option AudioFormat) (totalChunks : ℕ) :
    ℕ → List Bytes → Outbox BridgeTtsEvent → Outbox BridgeTtsEvent × Bool
  | _, [], outbox => (outbox, true)
  | index, part :: rest, outbox =>
      let chunk : AudioChunk :=
        ⟨part, index + 1, index + 1 == totalChunks, if index = 0 then format else none⟩
      match outbox.send (.audio chunk) with
      | (outbox, true) => sendAudioParts format totalChunks (index + 1) rest outbox
      | (outbox, false) => (outbox, false)

def sendAudio (format : Option AudioFormat) (chunkSizeBytes : ℕ) (audio : Bytes)
    (outbox : Outbox BridgeTtsEvent) : Outbox BridgeTtsEvent × Bool :=
  let totalChunks := max 1 ((audio.length + chunkSizeBytes - 1) / chunkSizeBytes)
  sendAudioParts format totalChunks 0 (chunks chunkSizeBytes audio) outbox

def emitAudioChunks (format : Option AudioFormat) (chunkSizeBytes : ℕ) (audio : Bytes)
    (outbox : Outbox BridgeTtsEvent) : Outbox BridgeTtsEvent × Except BridgeError Unit :=
  if audio.isEmpty then (outbox, .error (.protocol "provider returned empty audio"))
  else
    match sendAudio format chunkSizeBytes audio outbox with
    | (outbox, true) => (outbox, .ok ())
    | (outbox, false) => (outbox, .error (.disconnected "bridge event channel closed"))

/-! ## Buffered sessions

The tasks of Melo, Qwen and the buffered MiniMax session are the same loop around one synthesis. -/

def BridgeTtsEvent.isEnded : BridgeTtsEvent → Bool
  | .ended _ => true
  | _ => false

def stopped : BridgeTtsEvent := .ended (some "stopped")

/-- The loop that buffers text up to a Commit or a Stop. -/
def bufferedTask (synthesized : String → Outbox BridgeTtsEvent → Outbox BridgeTtsEvent) :
    List BridgeTtsCommand → String → Outbox BridgeTtsEvent → Outbox BridgeTtsEvent
  | [], _, outbox => outbox
  | .appendInput delta :: rest, buffer, outbox => bufferedTask synthesized rest (buffer ++ delta) outbox
  | .commit :: _, buffer, outbox => synthesized buffer outbox
  | .stop :: _, _, outbox => outbox.sendAll [stopped]

/-- The answer to a Commit of a provider's bridge: what is said is not blank, and `spoken` sends the
audio. -/
def commitText (synthesis : Except BridgeError Bytes)
    (spoken : Bytes → Outbox BridgeTtsEvent → Outbox BridgeTtsEvent) (buffer : String)
    (outbox : Outbox BridgeTtsEvent) : Outbox BridgeTtsEvent :=
  if trim buffer = "" then
    outbox.sendAll [.error "TTS input buffer is empty", .ended (some "empty_input")]
  else
    match synthesis with
    | .ok audio => spoken audio outbox
    | .error error => outbox.sendAll [.error error.toText, .ended (some "provider_error")]

/-- The mock says what it was given. -/
def mockSpoken (format : Option AudioFormat) (buffer : String) (outbox : Outbox BridgeTtsEvent) :
    Outbox BridgeTtsEvent :=
  let chunk : AudioChunk := ⟨("MOCK_TTS:" ++ buffer).toUTF8.toList, 1, true, format⟩
  match outbox.send (.audio chunk) with
  | (outbox, true) => (outbox.send (.ended none)).1
  | (outbox, false) => outbox

/-- The session task of `MockTtsBridge`. -/
def mockTtsTask (format : Option AudioFormat) (commands : List BridgeTtsCommand)
    (outbox : Outbox BridgeTtsEvent) : Outbox BridgeTtsEvent :=
  bufferedTask (mockSpoken format) commands "" outbox

/-- What a provider's bridge is configured with. -/
structure TtsConfig where
  baseUrl : String
  chunkSizeBytes : ℕ

/-- The effective chunk size. -/
def TtsConfig.chunkSize (config : TtsConfig) : ℕ := max config.chunkSizeBytes 1

/-- `synthesize_melo` and `synthesize_qwen_http`, on the reply to the request. -/
def synthesizeHttp (name : String) (config : TtsConfig) (reply : HttpReply Bytes) :
    Except BridgeError Bytes :=
  let url := trimEndSlashes config.baseUrl ++ "/v1/tts"
  match reply with
  | .failed error =>
      .error (.unavailable ("failed to call " ++ name ++ " synth endpoint " ++ url ++ ": " ++ error))
  | .status status body =>
      .error (.unavailable
        (name ++ " synth endpoint " ++ url ++ " returned status " ++ status ++ ": " ++ body))
  | .body (.error error) => .error (.io ("failed to read " ++ name ++ " audio body: " ++ error))
  | .body (.ok audio) => .ok audio

def synthesizeMelo : TtsConfig → HttpReply Bytes → Except BridgeError Bytes :=
  synthesizeHttp "MeloTTS"

def synthesizeQwenHttp : TtsConfig → HttpReply Bytes → Except BridgeError Bytes :=
  synthesizeHttp "Qwen3 TTS"

/-- The loop of Melo over the chunks of an audio, which counts them itself. -/
def sendMeloParts (format : Option AudioFormat) (totalChunks : ℕ) :
    ℕ → ℕ → List Bytes → Outbox BridgeTtsEvent → Outbox BridgeTtsEvent × Bool
  | _, _, [], outbox => (outbox, true)
  | sequence, index, part :: rest, outbox =>
      let sequence := sequence + 1
      let chunk : AudioChunk :=
        ⟨part, sequence, index + 1 == totalChunks, if index = 0 then format else none⟩
      match outbox.send (.audio chunk) with
      | (outbox, true) => sendMeloParts format totalChunks sequence (index + 1) rest outbox
      | (outbox, false) => (outbox, false)

/-- Melo has a reason of its own for empty audio. -/
def meloSpoken (config : TtsConfig) (format : Option AudioFormat) (audio : Bytes)
    (outbox : Outbox BridgeTtsEvent) : Outbox BridgeTtsEvent :=
  if audio.isEmpty then
    outbox.sendAll [.error "MeloTTS returned empty audio", .ended (some "empty_audio")]
  else
    let totalChunks := max 1 ((audio.length + config.chunkSize - 1) / config.chunkSize)
    match sendMeloParts format totalChunks 0 0 (chunks config.chunkSize audio) outbox with
    | (outbox, true) => (outbox.send (.ended none)).1
    | (outbox, false) => outbox

/-- The session task of `MeloHttpTtsBridge`. -/
def meloTask (config : TtsConfig) (format : Option AudioFormat) (reply : HttpReply Bytes)
    (commands : List BridgeTtsCommand) (outbox : Outbox BridgeTtsEvent) : Outbox BridgeTtsEvent :=
  bufferedTask (commitText (synthesizeMelo config reply) (meloSpoken config format))
    commands "" outbox

/-- Qwen and MiniMax report an error of the emitter, and end without a reason all the same. -/
def spokenOrReported (config : TtsConfig) (format : Option AudioFormat) (audio : Bytes)
    (outbox : Outbox BridgeTtsEvent) : Outbox BridgeTtsEvent :=
  match emitAudioChunks format config.chunkSize audio outbox with
  | (outbox, .ok ()) => (outbox.send (.ended none)).1
  | (outbox, .error error) => outbox.sendAll [.error error.toText, .ended none]

/-- The session task of `QwenHttpTtsBridge`. -/
def qwenTask (config : TtsConfig) (format : Option AudioFormat) (reply : HttpReply Bytes)
    (commands : List BridgeTtsCommand) (outbox : Outbox BridgeTtsEvent) : Outbox BridgeTtsEvent :=
  bufferedTask (commitText (synthesizeQwenHttp config reply) (spokenOrReported config format))
    commands "" outbox

/-! ## MiniMax payloads -/

structure MiniMaxBaseResp where
  statusCode : Option Int
  statusMsg : Option String

/-- The data of a response and of a socket event: the audio under one of two names. -/
structure MiniMaxAudioData where
  audio : Option String
  audioBase64 : Option String

structure MiniMaxResponse where
  baseResp : Option MiniMaxBaseResp
  data : Option MiniMaxAudioData

/-- The failure a response reports. -/
def MiniMaxBaseResp.failure? (resp : MiniMaxBaseResp) (unknown : String) : Option String :=
  if resp.statusCode.getD 0 = 0 then none else some (resp.statusMsg.getD unknown)

def isAsciiHexDigit (c : Char) : Bool :=
  ('0' ≤ c && c ≤ '9') || ('a' ≤ c && c ≤ 'f') || ('A' ≤ c && c ≤ 'F')

def hexValue (c : Char) : ℕ :=
  if '0' ≤ c ∧ c ≤ '9' then c.toNat - '0'.toNat
  else if 'a' ≤ c ∧ c ≤ 'f' then c.toNat - 'a'.toNat + 10
  else c.toNat - 'A'.toNat + 10

/-- `u8::from_str_radix` on two characters: a sign may stand before a digit. -/
def hexByte (high low : Char) : Except String UInt8 :=
  if isAsciiHexDigit high ∧ isAsciiHexDigit low then
    .ok (UInt8.ofNat (hexValue high * 16 + hexValue low))
  else if high = '+' ∧ isAsciiHexDigit low then .ok (UInt8.ofNat (hexValue low))
  else .error "invalid digit found in string"

def hexPairs : List Char → Except String Bytes
  | high :: low :: rest => do
      let byte ← hexByte high low
      let bytes ← hexPairs rest
      return byte :: bytes
  | _ => .ok []

/-- Digits beyond ASCII are refused by their pairs; the error text of a pair that cuts a character
in two is shortened. -/
def decodeHex (value : String) : Except String Bytes :=
  let compact := value.toList.filter fun c => !isWhitespace c
  if (String.ofList compact).utf8ByteSize % 2 ≠ 0 then
    .error "hex input has an odd number of digits"
  else if compact.all fun c => c.toNat < 128 then hexPairs compact
  else .error "invalid digit found in string"

/-- The digits of a number in `u8::from_str_radix`, after those that make up `value`. -/
def hexNumber (value : ℕ) : List Char → Except String UInt8
  | [] => .ok (UInt8.ofNat value)
  | c :: rest =>
      if isAsciiHexDigit c then
        if value * 16 + hexValue c < 2 ^ 8 then hexNumber (value * 16 + hexValue c) rest
        else .error "number too large to fit in target type"
      else .error "invalid digit found in string"

/-- `u8::from_str_radix` for hexadecimal numbers. -/
def u8FromHex (text : String) : Except String UInt8 :=
  match text.toList with
  | [] => .error "cannot parse integer from empty string"
  | ['+'] => .error "invalid digit found in string"
  | '+' :: digits => hexNumber 0 digits
  | digits => hexNumber 0 digits

/-- The loop of `decode_hex`, byte by byte. A byte left over would make its slice panic (`none`); the
error text of a pair that is not UTF-8 is shortened. -/
def decodeHexLoop : Bytes → Option (Except String Bytes)
  | [] => some (.ok [])
  | [_] => none
  | first :: second :: rest =>
      match String.fromUTF8? ⟨#[first, second]⟩ with
      | none => some (.error "invalid utf-8 sequence")
      | some pair =>
          match u8FromHex pair with
          | .error error => some (.error error)
          | .ok byte => (decodeHexLoop rest).map (Except.map (byte :: ·))

/-- `decode_hex` as it steps over the bytes; `decodeHex` is its reading on characters. -/
def decodeHexBytes (value : String) : Option (Except String Bytes) :=
  let compact := String.ofList (value.toList.filter fun c => !isWhitespace c)
  let bytes := Encoding.utf8 compact
  if bytes.length % 2 ≠ 0 then some (.error "hex input has an odd number of digits")
  else decodeHexLoop bytes

/-- `BASE64_STANDARD`. The text of its error is not read. -/
def base64Standard : Base64 where
  encode bytes := String.ofList (Encoding.Base64.encode bytes)
  decode text :=
    match Encoding.Base64.decode text.toList with
    | some bytes => .ok bytes
    | none => .error "invalid base64"

/-- `decode_minimax_audio`. -/
def decodeMinimaxAudio (base64 : Base64) (encoded : String) : Except BridgeError Bytes :=
  let trimmed := trim encoded
  let hex : Except BridgeError Bytes :=
    match decodeHex trimmed with
    | .ok bytes => .ok bytes
    | .error error => .error (.protocol ("failed to decode MiniMax audio payload: " ++ error))
  if trimmed = "" then .error (.protocol "MiniMax TTS returned an empty audio payload")
  else if trimmed.utf8ByteSize % 2 = 0 ∧ trimmed.toList.all isAsciiHexDigit then hex
  else
    match base64.decode trimmed with
    | .ok bytes => .ok bytes
    | .error _ => hex

/-- `synthesize_minimax`, on the reply to its request. The format it asks for is the configured one
or that of the options, and is not checked. -/
def synthesizeMinimax (base64 : Base64) (url : String) (reply : HttpReply MiniMaxResponse) :
    Except BridgeError Bytes :=
  match reply with
  | .failed error =>
      .error (.unavailable ("failed to call MiniMax TTS endpoint " ++ url ++ ": " ++ error))
  | .status status body =>
      .error (.unavailable
        ("MiniMax TTS endpoint " ++ url ++ " returned status " ++ status ++ ": " ++ body))
  | .body (.error error) => .error (.protocol ("failed to decode MiniMax TTS response: " ++ error))
  | .body (.ok payload) =>
      match payload.baseResp.bind fun resp => resp.failure? "unknown provider error" with
      | some message => .error (.unavailable ("MiniMax TTS failed: " ++ message))
      | none =>
          match payload.data with
          | none => .error (.protocol "MiniMax TTS response missing data")
          | some data =>
              match data.audioBase64.or data.audio with
              | some encoded => decodeMinimaxAudio base64 encoded
              | none => .error (.protocol "MiniMax TTS response missing audio payload")

structure MiniMaxTtsConfig extends TtsConfig where
  groupId : String
  base64 : Base64

/-- The buffered session task of `MiniMaxHttpTtsBridge`. -/
def minimaxTask (config : MiniMaxTtsConfig) (format : Option AudioFormat)
    (reply : HttpReply MiniMaxResponse) (commands : List BridgeTtsCommand)
    (outbox : Outbox BridgeTtsEvent) : Outbox BridgeTtsEvent :=
  let url := trimEndSlashes config.baseUrl ++ "/v1/t2a_v2?GroupId=" ++ config.groupId
  bufferedTask (commitText (synthesizeMinimax config.base64 url reply)
    (spokenOrReported config.toTtsConfig format)) commands "" outbox

end SpeechMesh.Model
