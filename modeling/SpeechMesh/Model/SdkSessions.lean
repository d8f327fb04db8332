import SpeechMesh.Model.CliStream
import SpeechMesh.Model.GoRequests

/-! # Sessions in the two SDKs

How the clients in Go and in Rust receive a text frame and keep the session. Both JSON parsers are
parameters; objects keep the order of their fields and repeated ones. Of the frames of other types
the model has whether they are accepted.
-/

namespace SpeechMesh.Model.Sdk

open Serde

/-! ## Decoding in Go -/

/-- What `json.Unmarshal` makes of a value. A value of another type than its target is remembered as
an error, and the rest is still decoded. -/
structure Unmarshalled (α : Type) where
  value : α
  failed : Bool

/-- The letter that stands for a character when names are compared. -/
def foldRune (c : Char) : Char :=
  if c = '\u017f' then 'S'
  else if c = '\u212a' then 'K'
  else if 'a' ≤ c ∧ c ≤ 'z' then c.toUpper
  else c

/-- The key of a field, whatever the case of its letters. -/
def matchesField (key name : String) : Bool :=
  key.toList.map foldRune == name.toList.map foldRune

def unmarshalString (target : String) : Json → Unmarshalled String
  | .string value => ⟨value, false⟩
  | .null => ⟨target, false⟩
  | _ => ⟨target, true⟩

def unmarshalStringPointer : Json → Unmarshalled (Option String)
  | .string value => ⟨some value, false⟩
  | .null => ⟨none, false⟩
  | _ => ⟨some "", true⟩

def unmarshalUint (bound : ℕ) (target : ℕ) : Json → Unmarshalled ℕ
  | .null => ⟨target, false⟩
  | json =>
      match json.toNat? bound with
      | some value => ⟨value, false⟩
      | none => ⟨target, true⟩

/-- A struct takes the fields that it knows in the order in which they stand. -/
def unmarshalStruct {σ : Type} (assign : σ → String → Json → Unmarshalled σ) (target : σ) :
    Json → Unmarshalled σ
  | .object fields =>
      fields.foldl
        (fun decoded field =>
          let assigned := assign decoded.value field.1 field.2
          ⟨assigned.value, decoded.failed || assigned.failed⟩)
        ⟨target, false⟩
  | .null => ⟨target, false⟩
  | _ => ⟨target, true⟩

def Unmarshalled.map {α β : Type} (decoded : Unmarshalled α) (f : α → β) : Unmarshalled β :=
  ⟨f decoded.value, decoded.failed⟩

structure GoAudioFormat where
  encoding : String := ""
  sampleRateHz : ℕ := 0
  channels : ℕ := 0

def assignFormat (format : GoAudioFormat) (key : String) (json : Json) :
    Unmarshalled GoAudioFormat :=
  if matchesField key "encoding" then
    (unmarshalString format.encoding json).map ({ format with encoding := · })
  else if matchesField key "sample_rate_hz" then
    (unmarshalUint (2 ^ 32) format.sampleRateHz json).map ({ format with sampleRateHz := · })
  else if matchesField key "channels" then
    (unmarshalUint (2 ^ 16) format.channels json).map ({ format with channels := · })
  else ⟨format, false⟩

def unmarshalFormatPointer (target : Option GoAudioFormat) :
    Json → Unmarshalled (Option GoAudioFormat)
  | .null => ⟨none, false⟩
  | json => (unmarshalStruct assignFormat (target.getD {}) json).map some

structure GoSessionStarted where
  domain : String := ""
  providerId : String := ""
  acceptedInputFormat : Option GoAudioFormat := none
  acceptedOutputFormat : Option GoAudioFormat := none

def assignStarted (payload : GoSessionStarted) (key : String) (json : Json) :
    Unmarshalled GoSessionStarted :=
  if matchesField key "domain" then
    (unmarshalString payload.domain json).map ({ payload with domain := · })
  else if matchesField key "provider_id" then
    (unmarshalString payload.providerId json).map ({ payload with providerId := · })
  else if matchesField key "accepted_input_format" then
    (unmarshalFormatPointer payload.acceptedInputFormat json).map
      ({ payload with acceptedInputFormat := · })
  else if matchesField key "accepted_output_format" then
    (unmarshalFormatPointer payload.acceptedOutputFormat json).map
      ({ payload with acceptedOutputFormat := · })
  else ⟨payload, false⟩

structure GoSessionEnded where
  reason : Option String := none

def assignEnded (payload : GoSessionEnded) (key : String) (json : Json) :
    Unmarshalled GoSessionEnded :=
  if matchesField key "reason" then
    (unmarshalStringPointer json).map ({ payload with reason := · })
  else ⟨payload, false⟩

structure Envelope where
  type : String := ""
  requestId : Option String := none
  sessionId : Option String := none
  sequence : ℕ := 0
  payload : Option Json := none

/-- The payload is kept as it is. -/
def assignEnvelope (envelope : Envelope) (key : String) (json : Json) : Unmarshalled Envelope :=
  if matchesField key "type" then
    (unmarshalString envelope.type json).map ({ envelope with type := · })
  else if matchesField key "request_id" then
    (unmarshalStringPointer json).map ({ envelope with requestId := · })
  else if matchesField key "session_id" then
    (unmarshalStringPointer json).map ({ envelope with sessionId := · })
  else if matchesField key "sequence" then
    (unmarshalUint (2 ^ 64) envelope.sequence json).map ({ envelope with sequence := · })
  else if matchesField key "payload" then ⟨{ envelope with payload := some json }, false⟩
  else ⟨envelope, false⟩

/-- `decode` in `Recv`: without a payload nothing is decoded. -/
def decodePayload {σ : Type} (assign : σ → String → Json → Unmarshalled σ) (target : σ)
    (payload : Option Json) : Unmarshalled σ :=
  match payload with
  | none => ⟨target, false⟩
  | some json => unmarshalStruct assign target json

/-! ## The parsers, and what is left out -/

/-- A message that is no event of a session. -/
abbrev OtherMessage : Type :=
  {message : ServerMessage // ∀ client : SdkClient, client.observeMessage message = client}

/-- The JSON parsers of both languages, the texts of UUIDs, and the payloads of the other types. -/
structure Libraries where
  goParse : String → Option Json
  rustParse : String → Option Json
  parseUuid : String → Option SessionId
  uuidText : SessionId → String
  goPayloadFails : String → Option Json → Bool
  otherMessage : String → Json → Option OtherMessage

/-- The text of a UUID is read as it, and is not empty. -/
structure Libraries.Lawful (libraries : Libraries) : Prop where
  parse_text : ∀ id, libraries.parseUuid (libraries.uuidText id) = some id
  text_ne_empty : ∀ id, libraries.uuidText id ≠ ""

variable (libraries : Libraries)

/-! ## Receiving in Go -/

/-- The session of the client; an empty text stands for none. -/
structure GoClient where
  activeSessionId : String := ""
  activeSessionDomain : String := ""
deriving DecidableEq

inductive RecvError where
  | envelope
  | payload (type : String)
  | unsupported (type : String)

inductive GoEvent where
  | sessionStarted (envelope : Envelope) (payload : GoSessionStarted)
  | sessionEnded (envelope : Envelope) (payload : GoSessionEnded)
  | other (envelope : Envelope)

def otherTypes : List String :=
  ["hello.ok", "discover.result", "asr.result", "error", "tts.voices.result", "tts.audio.delta",
    "tts.audio.done", "pong"]

/-- The event, unless its payload was decoded with an error. -/
def finish (type : String) (failed : Bool) (event : GoEvent) : Except RecvError GoEvent :=
  if failed then .error (.payload type) else .ok event

/-- `Recv` for a decoded envelope. -/
def GoClient.receive (client : GoClient) (envelope : Envelope) :
    GoClient × Except RecvError GoEvent :=
  match envelope.type with
  | "session.started" =>
      let payload := decodePayload assignStarted {} envelope.payload
      let client :=
        match envelope.sessionId with
        | some sessionId => ⟨sessionId, payload.value.domain⟩
        | none => client
      (client, finish envelope.type payload.failed (.sessionStarted envelope payload.value))
  | "session.ended" =>
      let payload := decodePayload assignEnded {} envelope.payload
      let client :=
        if envelope.sessionId = some client.activeSessionId then {} else client
      (client, finish envelope.type payload.failed (.sessionEnded envelope payload.value))
  | type =>
      if type ∈ otherTypes then
        (client, finish type (libraries.goPayloadFails type envelope.payload) (.other envelope))
      else (client, .error (.unsupported type))

/-- `Recv` for a text frame. -/
def GoClient.recv (client : GoClient) (text : String) : GoClient × Except RecvError GoEvent :=
  match libraries.goParse text with
  | none => (client, .error .envelope)
  | some json =>
      let envelope := unmarshalStruct assignEnvelope {} json
      if envelope.failed then (client, .error .envelope)
      else client.receive libraries envelope.value

/-! ## Receiving in Rust -/

def decodeStreamMode (json : Json) : Option StreamMode :=
  match Go.variantName? json with
  | some "buffered" => some .buffered
  | some "streaming" => some .streaming
  | _ => none

def decodeSessionStarted (json : Json) : Option SessionStartedPayload := do
  let fields ← json.toFields? ["domain", "provider_id", "accepted_input_format",
    "accepted_output_format", "input_mode", "output_mode"] 6
  let domain ← required "domain" Go.decodeDomain fields
  let providerId ← required "provider_id" Json.asString? fields
  let inputFormat ← defaulted "accepted_input_format" none (Json.toOption? Go.decodeFormat) fields
  let outputFormat ←
    defaulted "accepted_output_format" none (Json.toOption? Go.decodeFormat) fields
  let inputMode ← defaulted "input_mode" none (Json.toOption? decodeStreamMode) fields
  let outputMode ← defaulted "output_mode" none (Json.toOption? decodeStreamMode) fields
  return ⟨domain, providerId, inputFormat, outputFormat, inputMode, outputMode⟩

def decodeSessionEnded (json : Json) : Option (Option String) := do
  let fields ← json.toFields? ["reason"] 1
  defaulted "reason" none (Json.toOption? Json.asString?) fields

def decodeSessionId (json : Json) : Option SessionId := json.asString?.bind libraries.parseUuid

def decodeServerMessage (json : Json) : Option ServerMessage := do
  let (tag, content) ← Go.taggedContent json
  match tag with
  | "session.started" => do
      let fields ← content.toFields? ["request_id", "session_id", "payload"] 3
      let requestId ← defaulted "request_id" none (Json.toOption? Json.asString?) fields
      let sessionId ← required "session_id" (decodeSessionId libraries) fields
      let payload ← required "payload" decodeSessionStarted fields
      return .sessionStarted (requestId.map RequestId.mk) sessionId payload
  | "session.ended" => do
      let fields ← content.toFields? ["session_id", "payload"] 2
      let sessionId ← required "session_id" (decodeSessionId libraries) fields
      let reason ← required "payload" decodeSessionEnded fields
      return .sessionEnded sessionId reason
  | _ => (libraries.otherMessage tag content).map Subtype.val

/-- `recv` for a text frame. -/
def recv (client : SdkClient) (text : String) : SdkClient × Option ServerMessage :=
  match (libraries.rustParse text).bind (decodeServerMessage libraries) with
  | none => (client, none)
  | some message => (client.observeMessage message, some message)

/-! ## What the gateway writes -/

def encodeString (text : String) : Json := .string text

def streamModeName : StreamMode → String
  | .buffered => "buffered"
  | .streaming => "streaming"

def encodeStreamMode (mode : StreamMode) : Json := .string (streamModeName mode)

def encodeSessionStarted (payload : SessionStartedPayload) : Json :=
  .object [
    ("domain", .string (Go.domainName payload.domain)),
    ("provider_id", .string payload.providerId),
    ("accepted_input_format", Go.marshalPointer Go.marshalFormat payload.acceptedInputFormat),
    ("accepted_output_format", Go.marshalPointer Go.marshalFormat payload.acceptedOutputFormat),
    ("input_mode", Go.marshalPointer encodeStreamMode payload.inputMode),
    ("output_mode", Go.marshalPointer encodeStreamMode payload.outputMode)]

/-- The messages that are events of a session. -/
def encodeServerMessage : ServerMessage → Option Json
  | .sessionStarted requestId sessionId payload => some <| .object [
      ("type", .string "session.started"),
      ("request_id", Go.marshalPointer encodeString (requestId.map RequestId.value)),
      ("session_id", .string (libraries.uuidText sessionId)),
      ("payload", encodeSessionStarted payload)]
  | .sessionEnded sessionId reason => some <| .object [
      ("type", .string "session.ended"),
      ("session_id", .string (libraries.uuidText sessionId)),
      ("payload", .object [("reason", Go.marshalPointer encodeString reason)])]
  | _ => none

end SpeechMesh.Model.Sdk
