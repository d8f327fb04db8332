import SpeechMesh.Model.AsrBridges
import SpeechMesh.Model.JsonCodec
import SpeechMesh.Model.Protocol

/-! # Requests of the Go SDK

What the client in Go writes for a request, and what the gateway reads. Of the values of
`map[string]any` the model has what `encoding/json` writes for them.
-/

namespace SpeechMesh.Model.Go

open Serde

/-- What both JSON libraries do with 32-bit floats, and what `serde_json` holds of any value. -/
structure JsonLibraries where
  F32 : Type
  finite : F32 → Bool
  write : F32 → String
  read : String → Option F32
  value : Json → Option Json

/-- A finite number is read as it was written. -/
def JsonLibraries.Lawful (libraries : JsonLibraries) : Prop :=
  ∀ x, libraries.finite x = true → libraries.read (libraries.write x) = some x

/-! ## Types -/

/-- A string in Go is UTF-8, or other bytes, for which a text with replacement characters is
written. -/
inductive GoString where
  | utf8 (text : String)
  | other (bytes : Bytes) (replaced : String)
deriving DecidableEq

def GoString.written : GoString → String
  | .utf8 text => text
  | .other _ replaced => replaced

/-- A slice, which may be nil. -/
abbrev Slice (α : Type) : Type := Option (List α)

/-- A `map[string]any` in the order of its keys, which may be nil. Some values cannot be written. -/
abbrev AnyMap : Type := Option (List (String × Option Json))

structure ProviderSelector where
  mode : ProviderSelectionMode
  providerId : Option GoString
  requiredCapabilities : Slice GoString
  preferredCapabilities : Slice GoString

structure RecognitionOptions where
  language : Option GoString
  hints : Slice GoString
  interimResults : Bool
  timestamps : Bool
  punctuation : Bool
  preferOnDevice : Bool
  providerOptions : AnyMap

structure StreamRequest where
  provider : ProviderSelector
  inputFormat : AudioFormat
  options : RecognitionOptions

structure DiscoverRequest where
  domains : Slice CapabilityDomain

structure VoiceListRequest where
  provider : ProviderSelector
  language : Option GoString

structure TtsSynthesisOptions (F32 : Type) where
  language : Option GoString
  voice : Option GoString
  stream : Bool
  rate : Option F32
  pitch : Option F32
  volume : Option F32
  providerOptions : AnyMap

structure TtsStreamRequest (F32 : Type) where
  provider : ProviderSelector
  inputKind : SynthesisInputKind
  outputFormat : Option AudioFormat
  options : TtsSynthesisOptions F32

/-- The requests, each with the method that sends it. -/
inductive Request (F32 : Type) where
  | discover (request : DiscoverRequest)
  | startAsr (request : StreamRequest)
  | startTts (request : TtsStreamRequest F32)
  | ttsListVoices (request : VoiceListRequest)

/-! ## Writing -/

def domainName : CapabilityDomain → String
  | .asr => "asr"
  | .tts => "tts"
  | .transport => "transport"

def modeName : ProviderSelectionMode → String
  | .auto => "auto"
  | .provider => "provider"

def inputKindName : SynthesisInputKind → String
  | .text => "text"
  | .ssml => "ssml"

section Writing

variable {α : Type} (libraries : JsonLibraries)

def marshalString (text : GoString) : Json := .string text.written

def marshalPointer (encode : α → Json) : Option α → Json
  | none => .null
  | some value => encode value

def marshalSlice (encode : α → Json) : Slice α → Json
  | none => .null
  | some items => .array (items.map encode)

/-- A pointer with `omitempty`. -/
def omitNil (name : String) (encode : α → Json) (value : Option α) : Fields Json :=
  optional name (value.map encode)

/-- Infinities and NaN are refused. -/
def marshalFloat (x : libraries.F32) : Option Json :=
  if libraries.finite x then some (.number (libraries.write x)) else none

/-- A pointer to a float with `omitempty`. -/
def omitNilFloat (name : String) : Option libraries.F32 → Option (Fields Json)
  | none => some []
  | some x => (marshalFloat libraries x).map fun json => [(name, json)]

def marshalEntry (entry : String × Option Json) : Option (String × Json) :=
  entry.2.map fun json => (entry.1, json)

def marshalMap (entries : List (String × Option Json)) : Option Json :=
  (entries.mapM marshalEntry).map .object

/-- A map with `omitempty`. -/
def omitEmptyMap (name : String) : AnyMap → Option (Fields Json)
  | none | some [] => some []
  | some entries => (marshalMap entries).map fun json => [(name, json)]

def ProviderSelector.marshal (selector : ProviderSelector) : Json :=
  .object [
    ("mode", .string (modeName selector.mode)),
    ("provider_id", marshalPointer marshalString selector.providerId),
    ("required_capabilities", marshalSlice marshalString selector.requiredCapabilities),
    ("preferred_capabilities", marshalSlice marshalString selector.preferredCapabilities)]

def marshalFormat (format : AudioFormat) : Json :=
  .object [
    ("encoding", .string format.encoding.toName),
    ("sample_rate_hz", .ofNat format.sampleRateHz.toNat),
    ("channels", .ofNat format.channels.toNat)]

def RecognitionOptions.marshal (options : RecognitionOptions) : Option Json := do
  let providerOptions ← omitEmptyMap "provider_options" options.providerOptions
  return .object (omitNil "language" marshalString options.language ++ [
    ("hints", marshalSlice marshalString options.hints),
    ("interim_results", .bool options.interimResults),
    ("timestamps", .bool options.timestamps),
    ("punctuation", .bool options.punctuation),
    ("prefer_on_device", .bool options.preferOnDevice)] ++ providerOptions)

def StreamRequest.marshal (request : StreamRequest) : Option Json := do
  let options ← request.options.marshal
  return .object [
    ("provider", request.provider.marshal),
    ("input_format", marshalFormat request.inputFormat),
    ("options", options)]

def DiscoverRequest.marshal (request : DiscoverRequest) : Json :=
  .object [("domains", marshalSlice (fun domain => .string (domainName domain)) request.domains)]

def VoiceListRequest.marshal (request : VoiceListRequest) : Json :=
  .object (("provider", request.provider.marshal) ::
    omitNil "language" marshalString request.language)

def TtsSynthesisOptions.marshal (options : TtsSynthesisOptions libraries.F32) : Option Json := do
  let rate ← omitNilFloat libraries "rate" options.rate
  let pitch ← omitNilFloat libraries "pitch" options.pitch
  let volume ← omitNilFloat libraries "volume" options.volume
  let providerOptions ← omitEmptyMap "provider_options" options.providerOptions
  return .object (omitNil "language" marshalString options.language ++
    omitNil "voice" marshalString options.voice ++ [("stream", .bool options.stream)] ++
    rate ++ pitch ++ volume ++ providerOptions)

def TtsStreamRequest.marshal (request : TtsStreamRequest libraries.F32) : Option Json := do
  let options ← request.options.marshal libraries
  return .object ([
    ("provider", request.provider.marshal),
    ("input_kind", .string (inputKindName request.inputKind))] ++
    omitNil "output_format" marshalFormat request.outputFormat ++ [("options", options)])

/-- `nextID`, after so many requests. -/
def requestId (count : UInt64) : String := "req_" ++ toString (count + 1).toNat

/-- A message is a map, whose keys are written in their order. -/
def envelope (type requestId : String) (payload : Json) : Json :=
  .object [("payload", payload), ("request_id", .string requestId), ("type", .string type)]

/-- What `sendJSON` writes for the request, or nothing if it fails. -/
def Request.written (count : UInt64) : Request libraries.F32 → Option Json
  | .discover request => some (envelope "discover" (requestId count) request.marshal)
  | .startAsr request => request.marshal.map (envelope "asr.start" (requestId count))
  | .startTts request => (request.marshal libraries).map (envelope "tts.start" (requestId count))
  | .ttsListVoices request => some (envelope "tts.voices" (requestId count) request.marshal)

end Writing

/-! ## Reading -/

structure SynthesisOptions (F32 : Type) where
  language : Option String
  voice : Option String
  stream : Bool
  rate : Option F32
  pitch : Option F32
  volume : Option F32
  providerOptions : Json

structure SynthesisRequest (F32 : Type) where
  provider : Model.ProviderSelector
  inputKind : SynthesisInputKind
  outputFormat : Option AudioFormat
  options : SynthesisOptions F32

/-- The variants of `ClientMessage` with the payloads of the requests. -/
inductive ClientMessage (F32 : Type) where
  | discover (requestId : String) (domains : List CapabilityDomain)
  | asrStart (requestId : String) (payload : AsrStreamRequest)
  | ttsVoices (requestId : String) (payload : Model.VoiceListRequest)
  | ttsStart (requestId : String) (payload : SynthesisRequest F32)

/-- A variant without fields is its name, or an object with the name and null. -/
def variantName? : Json → Option String
  | .string name => some name
  | .object [(name, .null)] => some name
  | _ => none

def decodeDomain (json : Json) : Option CapabilityDomain :=
  match variantName? json with
  | some "asr" => some .asr
  | some "tts" => some .tts
  | some "transport" => some .transport
  | _ => none

def decodeMode (json : Json) : Option ProviderSelectionMode :=
  match variantName? json with
  | some "auto" => some .auto
  | some "provider" => some .provider
  | _ => none

def decodeInputKind (json : Json) : Option SynthesisInputKind :=
  match variantName? json with
  | some "text" => some .text
  | some "ssml" => some .ssml
  | _ => none

def decodeEncoding (json : Json) : Option AudioEncoding :=
  match variantName? json with
  | some "pcm_s16le" => some .pcmS16Le
  | some "pcm_f32le" => some .pcmF32Le
  | some "opus" => some .opus
  | some "mp3" => some .mp3
  | some "aac" => some .aac
  | some "flac" => some .flac
  | some "wav" => some .wav
  | _ => none

def decodeStrings : Json → Option (List String) := Json.toList? Json.asString?

def decodeFormat (json : Json) : Option AudioFormat := do
  let fields ← json.toFields? ["encoding", "sample_rate_hz", "channels"] 3
  let encoding ← required "encoding" decodeEncoding fields
  let sampleRateHz ← required "sample_rate_hz" Json.toU32? fields
  let channels ← required "channels" Json.toU16? fields
  return ⟨encoding, sampleRateHz, channels⟩

def decodeSelector (json : Json) : Option Model.ProviderSelector := do
  let fields ← json.toFields?
    ["mode", "provider_id", "required_capabilities", "preferred_capabilities"] 4
  let mode ← required "mode" decodeMode fields
  let providerId ← defaulted "provider_id" none (Json.toOption? Json.asString?) fields
  let requiredCapabilities ← required "required_capabilities" decodeStrings fields
  let preferredCapabilities ← required "preferred_capabilities" decodeStrings fields
  return ⟨mode, providerId, requiredCapabilities, preferredCapabilities⟩

def decodeDiscover (json : Json) : Option (List CapabilityDomain) := do
  let fields ← json.toFields? ["domains"] 1
  required "domains" (Json.toList? decodeDomain) fields

def decodeVoiceList (json : Json) : Option Model.VoiceListRequest := do
  let fields ← json.toFields? ["provider", "language"] 2
  let provider ← required "provider" decodeSelector fields
  let language ← defaulted "language" none (Json.toOption? Json.asString?) fields
  return ⟨provider, language⟩

section Reading

variable (libraries : JsonLibraries)

def toF32? : Json → Option libraries.F32
  | .number text => libraries.read text
  | _ => none

def decodeRecognitionOptions (json : Json) : Option Model.RecognitionOptions := do
  let fields ← json.toFields? ["language", "hints", "interim_results", "timestamps", "punctuation",
    "prefer_on_device", "provider_options"] 6
  let language ← defaulted "language" none (Json.toOption? Json.asString?) fields
  let hints ← required "hints" decodeStrings fields
  let interimResults ← required "interim_results" Json.toBool? fields
  let timestamps ← required "timestamps" Json.toBool? fields
  let punctuation ← required "punctuation" Json.toBool? fields
  let preferOnDevice ← required "prefer_on_device" Json.toBool? fields
  let providerOptions ← defaulted "provider_options" .null libraries.value fields
  return ⟨language, hints, interimResults, timestamps, punctuation, preferOnDevice,
    providerOptions⟩

def decodeAsrStart (json : Json) : Option AsrStreamRequest := do
  let fields ← json.toFields? ["provider", "input_format", "options"] 3
  let provider ← required "provider" decodeSelector fields
  let inputFormat ← required "input_format" decodeFormat fields
  let options ← required "options" (decodeRecognitionOptions libraries) fields
  return ⟨provider, inputFormat, options⟩

def decodeSynthesisOptions (json : Json) : Option (SynthesisOptions libraries.F32) := do
  let fields ← json.toFields? ["language", "voice", "stream", "rate", "pitch", "volume",
    "provider_options"] 6
  let language ← defaulted "language" none (Json.toOption? Json.asString?) fields
  let voice ← defaulted "voice" none (Json.toOption? Json.asString?) fields
  let stream ← required "stream" Json.toBool? fields
  let rate ← defaulted "rate" none (Json.toOption? (toF32? libraries)) fields
  let pitch ← defaulted "pitch" none (Json.toOption? (toF32? libraries)) fields
  let volume ← defaulted "volume" none (Json.toOption? (toF32? libraries)) fields
  let providerOptions ← defaulted "provider_options" .null libraries.value fields
  return ⟨language, voice, stream, rate, pitch, volume, providerOptions⟩

def decodeTtsStart (json : Json) : Option (SynthesisRequest libraries.F32) := do
  let fields ← json.toFields? ["provider", "input_kind", "output_format", "options"] 4
  let provider ← required "provider" decodeSelector fields
  let inputKind ← required "input_kind" decodeInputKind fields
  let outputFormat ← defaulted "output_format" none (Json.toOption? decodeFormat) fields
  let options ← required "options" (decodeSynthesisOptions libraries) fields
  return ⟨provider, inputKind, outputFormat, options⟩

/-- The tag of a message and the rest, which may stand in an array after the tag. -/
def taggedContent : Json → Option (String × Json)
  | .object fields => do
      let tag ← required "type" Json.asString? fields
      return (tag, .object (fields.filter fun field => field.1 ≠ "type"))
  | .array (.string tag :: items) => some (tag, .array items)
  | _ => none

/-- The fields of a variant with a request. -/
def decodeContent {α : Type} (decode : Json → Option α) (content : Json) :
    Option (String × α) := do
  let fields ← content.toFields? ["request_id", "payload"] 2
  let requestId ← required "request_id" Json.asString? fields
  let payload ← required "payload" decode fields
  return (requestId, payload)

def decodeClientMessage (json : Json) : Option (ClientMessage libraries.F32) := do
  let (tag, content) ← taggedContent json
  match tag with
  | "discover" => do
      let (requestId, domains) ← decodeContent decodeDiscover content
      return .discover requestId domains
  | "asr.start" => do
      let (requestId, payload) ← decodeContent (decodeAsrStart libraries) content
      return .asrStart requestId payload
  | "tts.voices" => do
      let (requestId, payload) ← decodeContent decodeVoiceList content
      return .ttsVoices requestId payload
  | "tts.start" => do
      let (requestId, payload) ← decodeContent (decodeTtsStart libraries) content
      return .ttsStart requestId payload
  | _ => none

end Reading

end SpeechMesh.Model.Go
