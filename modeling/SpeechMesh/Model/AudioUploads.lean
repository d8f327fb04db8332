import SpeechMesh.Encoding.Bytes
import SpeechMesh.Model.AsrBridges
import SpeechMesh.Model.MinimaxMessages

/-! # Uploading audio to MiniMax

The body of a transcription request: a form with one file, which is wrapped as a WAV file if it is
plain PCM.
-/

namespace SpeechMesh.Model

open Encoding

/-! ## WAV files -/

/-- `checked_mul` and `checked_add` of `u32` and `u16`. -/
def checkedMul32 (a b : UInt32) : Option UInt32 :=
  if a.toNat * b.toNat < 2 ^ 32 then some (a * b) else none

def checkedAdd32 (a b : UInt32) : Option UInt32 :=
  if a.toNat + b.toNat < 2 ^ 32 then some (a + b) else none

def checkedMul16 (a b : UInt16) : Option UInt16 :=
  if a.toNat * b.toNat < 2 ^ 16 then some (a * b) else none

/-- `ok_or_else` with an error of the protocol. -/
def orProtocol {α : Type} (value : Option α) (message : String) : Except BridgeError α :=
  match value with
  | some value => .ok value
  | none => .error (.protocol message)

/-- `to_le_bytes` of `u32` and `u16`. -/
def leBytes32 (n : UInt32) : Bytes := LittleEndian.write 4 n.toNat

def leBytes16 (n : UInt16) : Bytes := LittleEndian.write 2 n.toNat

def encodePcmS16leWav (pcm : Bytes) (sampleRateHz : UInt32) (channels : UInt16) :
    Except BridgeError Bytes := do
  if 2 ^ 32 - 1 - 44 < pcm.length then
    throw (.protocol "PCM payload too large to wrap in WAV")
  let byteRate ← orProtocol
    ((checkedMul32 sampleRateHz channels.toUInt32).bind fun value => checkedMul32 value 2)
    "invalid WAV byte rate"
  let blockAlign ← orProtocol (checkedMul16 channels 2) "invalid WAV block align"
  let dataSize := UInt32.ofNat pcm.length
  let riffSize ← orProtocol (checkedAdd32 36 dataSize) "invalid WAV size"
  return utf8 "RIFF" ++ leBytes32 riffSize ++ utf8 "WAVE" ++ utf8 "fmt " ++ leBytes32 16 ++
    leBytes16 1 ++ leBytes16 channels ++ leBytes32 sampleRateHz ++ leBytes32 byteRate ++
    leBytes16 blockAlign ++ leBytes16 16 ++ utf8 "data" ++ leBytes32 dataSize ++ pcm

def encodeMinimaxUploadAudio (format : AudioFormat) (audio : Bytes) : Except BridgeError Bytes :=
  match format.encoding with
  | .pcmS16Le => encodePcmS16leWav audio format.sampleRateHz format.channels
  | .mp3 | .flac | .wav => .ok audio
  | .opus | .aac | .pcmF32Le => .error (unsupportedAsrInput format.encoding)

/-! ## Forms -/

def defaultAudioFilename (format : AudioFormat) : String :=
  match format.encoding with
  | .pcmS16Le => "audio.wav"
  | .mp3 => "audio.mp3"
  | .flac => "audio.flac"
  | .wav => "audio.wav"
  | .pcmF32Le | .opus | .aac => "audio.bin"

/-- `render` is how a list or an object is printed. -/
def providerOptionToFormValue (render : Json → String) : Json → String
  | .null => "null"
  | .bool value => toString value
  | .number text => text
  | .string value => value
  | other => render other

def buildMultipartFormBody (boundary : String) (fields : List (String × String))
    (filename mimeType : String) (fileBytes : Bytes) : Bytes :=
  (fields.flatMap fun (name, value) =>
    utf8 ("--" ++ boundary ++ "\r\n") ++
      utf8 ("Content-Disposition: form-data; name=\"" ++ name ++ "\"\r\n\r\n") ++
      utf8 value ++ utf8 "\r\n") ++
  utf8 ("--" ++ boundary ++ "\r\n") ++
  utf8 ("Content-Disposition: form-data; name=\"file\"; filename=\"" ++ filename ++ "\"\r\n") ++
  utf8 ("Content-Type: " ++ mimeType ++ "\r\n\r\n") ++
  fileBytes ++ utf8 "\r\n" ++ utf8 ("--" ++ boundary ++ "--\r\n")

/-- The boundary of a request, from the time of the clock. -/
def minimaxBoundary (nanos : ℕ) : String := "speechmesh-minimax-" ++ toString nanos

section

variable (request : AsrStreamRequest)

def optionText (key : String) : Option String :=
  (request.options.providerOptions.get? key).bind Json.asString?

/-- `form_fields` of `transcribe_minimax`. -/
def minimaxFormFields (render : Json → String) (defaultModel : String) : List (String × String) :=
  [("model", (optionText request "model").getD defaultModel),
    ("response_format", (optionText request "response_format").getD "verbose_json")] ++
  (request.options.language.toList.map fun language => ("language", language)) ++
  (if request.options.timestamps then [("timestamp_granularities[]", "word")] else []) ++
  match filterReservedProviderOptions request.options.providerOptions
    ["model", "response_format", "filename"] with
  | .object entries => entries.map fun entry => (entry.1, providerOptionToFormValue render entry.2)
  | _ => []

def minimaxFilename : String :=
  (optionText request "filename").getD (defaultAudioFilename request.inputFormat)

/-- The body that `transcribe_minimax` posts. -/
def minimaxUploadBody (render : Json → String) (defaultModel : String) (nanos : ℕ)
    (bufferedAudio : Bytes) : Except BridgeError Bytes := do
  if bufferedAudio.isEmpty then
    throw (.protocol "MiniMax ASR commit received without any buffered audio")
  let mimeType ← audioMimeType request.inputFormat
  let fileBytes ← encodeMinimaxUploadAudio request.inputFormat bufferedAudio
  return buildMultipartFormBody (minimaxBoundary nanos)
    (minimaxFormFields request render defaultModel) (minimaxFilename request) mimeType fileBytes

end

end SpeechMesh.Model
