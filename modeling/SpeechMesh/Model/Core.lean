import Mathlib.Data.List.Basic

/-! # The shared domain types

The records of the `core`, `asr`, `tts`, `bridges` and `device` crates that travel through the
gateway, the errors of the bridges, and the few string functions the gateway applies to what it is
sent. Times, ports and floating-point voice parameters are not read by the modelled code.
-/

namespace SpeechMesh.Model

/-! ## Strings -/

/-- The characters with the Unicode property `White_Space`, as `char::is_whitespace` has them. -/
def isWhitespace (c : Char) : Bool :=
  let code := c.toNat
  (0x9 ≤ code && code ≤ 0xd) || code == 0x20 || code == 0x85 || code == 0xa0 || code == 0x1680 ||
    (0x2000 ≤ code && code ≤ 0x200a) || code == 0x2028 || code == 0x2029 || code == 0x202f ||
    code == 0x205f || code == 0x3000

/-- `str::trim`. -/
def trim (text : String) : String :=
  String.ofList
    (((text.toList.dropWhile isWhitespace).reverse.dropWhile isWhitespace).reverse)

/-- `str::to_ascii_lowercase`. -/
def toAsciiLowercase (text : String) : String := text.map Char.toLower

private theorem dropWhile_eq_self_of_head {α : Type} {p : α → Bool} {items : List α}
    (head : ∀ item ∈ items.head?, p item = false) : items.dropWhile p = items := by
  cases items with
  | nil => rfl
  | cons item rest => rw [List.dropWhile_cons_of_neg (by simp [head item rfl])]

private theorem head?_dropWhile {α : Type} {p : α → Bool} (items : List α) :
    ∀ item ∈ (items.dropWhile p).head?, p item = false := by
  intro item member
  have kept := List.head?_dropWhile_not p items
  rw [Option.mem_def.mp member] at kept
  simpa using kept

/-- A list whose ends are not dropped is left as it is. -/
private theorem trimList_eq_self {p : Char → Bool} {items : List Char}
    (first : ∀ item ∈ items.head?, p item = false)
    (last : ∀ item ∈ items.getLast?, p item = false) :
    ((items.dropWhile p).reverse.dropWhile p).reverse = items := by
  rw [dropWhile_eq_self_of_head first, dropWhile_eq_self_of_head, List.reverse_reverse]
  intro item member
  rw [List.head?_reverse] at member
  exact last item member

theorem trim_eq_self {text : String}
    (first : ∀ c ∈ text.toList.head?, isWhitespace c = false)
    (last : ∀ c ∈ text.toList.getLast?, isWhitespace c = false) : trim text = text := by
  rw [trim, trimList_eq_self first last, String.ofList_toList]

@[simp] theorem trim_trim (text : String) : trim (trim text) = trim text := by
  have left := head?_dropWhile (p := isWhitespace) text.toList
  have right := head?_dropWhile (p := isWhitespace)
    (text.toList.dropWhile isWhitespace).reverse
  apply trim_eq_self
  · intro c member
    -- the kept part is a prefix of the text without its leading blanks
    rw [trim, String.toList_ofList, List.head?_reverse] at member
    have nonempty : ((text.toList.dropWhile isWhitespace).reverse.dropWhile isWhitespace) ≠ [] := by
      intro empty
      simp [empty] at member
    have suffix := List.dropWhile_suffix (l := (text.toList.dropWhile isWhitespace).reverse)
      isWhitespace
    obtain ⟨dropped, whole⟩ := suffix
    rw [← List.getLast?_append_of_ne_nil dropped nonempty, whole, List.getLast?_reverse] at member
    exact left c member
  · intro c member
    rw [trim, String.toList_ofList, List.getLast?_reverse] at member
    exact right c member

theorem isWhitespace_of_isDigit {c : Char} (digit : c.isDigit = true) : isWhitespace c = false := by
  have range := Char.isDigit_iff_toNat.mp digit
  have low : 48 ≤ c.toNat := range.1
  have high : c.toNat ≤ 57 := range.2
  simp only [isWhitespace, Bool.or_eq_false_iff, Bool.and_eq_false_iff, decide_eq_false_iff_not,
    beq_eq_false_iff_ne]
  omega

/-! ## Identifiers and errors -/

/-- `SessionId::new` draws a random version 4 UUID. Here the ids are distinct by construction: the
task that asks for a session, and a serial number. -/
structure SessionId where
  creator : ℕ
  serial : ℕ
deriving DecidableEq, Repr

/-- The `Debug` text of a session id. -/
def SessionId.toDebug (sessionId : SessionId) : String :=
  "SessionId(" ++ toString sessionId.creator ++ "-" ++ toString sessionId.serial ++ ")"

structure RequestId where
  value : String
deriving DecidableEq, Repr

inductive BridgeError where
  | unavailable (message : String)
  | disconnected (message : String)
  | protocol (message : String)
  | io (message : String)
deriving DecidableEq, Repr

/-- The `Display` text of a bridge error. -/
def BridgeError.toText : BridgeError → String
  | .unavailable message => "bridge unavailable: " ++ message
  | .disconnected message => "bridge disconnected: " ++ message
  | .protocol message => "bridge protocol error: " ++ message
  | .io message => "bridge io error: " ++ message

theorem exists_of_bind_ok {ε α β : Type} {first : Except ε α} {next : α → Except ε β}
    {result : β} (ran : (first >>= next) = .ok result) :
    ∃ value, first = .ok value ∧ next value = .ok result := by
  cases first with
  | error error => cases ran
  | ok value => exact ⟨value, rfl, ran⟩

/-- `retryable` is always false and `details` always null. -/
structure ErrorInfo where
  code : String
  message : String
  retryable : Bool := false
deriving DecidableEq, Repr

/-! ## Capabilities, providers and audio formats -/

inductive CapabilityDomain where
  | asr | tts | transport
deriving DecidableEq, Repr

structure Capability where
  key : String
  enabled : Bool
deriving DecidableEq, Repr

inductive RuntimeMode where
  | inProcess | localDaemon | remoteGateway
deriving DecidableEq, Repr

inductive StreamMode where
  | buffered | streaming
deriving DecidableEq, Repr

inductive ProviderSelectionMode where
  | auto | provider
deriving DecidableEq, Repr

structure ProviderSelector where
  mode : ProviderSelectionMode := .auto
  providerId : Option String := none
  requiredCapabilities : List String := []
  preferredCapabilities : List String := []
deriving DecidableEq, Repr

structure ProviderDescriptor where
  id : String
  name : String
  domain : CapabilityDomain
  runtime : RuntimeMode
  capabilities : List Capability
deriving DecidableEq, Repr

inductive AudioEncoding where
  | pcmS16Le | pcmF32Le | opus | mp3 | aac | flac | wav
deriving DecidableEq, Repr

structure AudioFormat where
  encoding : AudioEncoding
  sampleRateHz : UInt32
  channels : UInt16
deriving DecidableEq, Repr

abbrev Bytes := List UInt8

/-- A JSON value, as provider options hold them. Numbers keep their text. -/
inductive Json where
  | null
  | bool (value : Bool)
  | number (text : String)
  | string (value : String)
  | array (items : List Json)
  | object (fields : List (String × Json))

/-- `Value::get` on a field name. -/
def Json.get? : Json → String → Option Json
  | .object fields, key => (fields.find? fun field => field.1 == key).map Prod.snd
  | _, _ => none

def Json.asString? : Json → Option String
  | .string value => some value
  | _ => none

/-! ## Speech requests, sessions and results -/

structure RecognitionOptions where
  language : Option String := none
  hints : List String := []
  interimResults : Bool := false
  timestamps : Bool := false
  punctuation : Bool := false
  preferOnDevice : Bool := false
  providerOptions : Json := .null

structure AsrStreamRequest where
  provider : ProviderSelector
  inputFormat : AudioFormat
  options : RecognitionOptions

structure TranscriptSegment where
  text : String
  isFinal : Bool
  startMs : Option UInt64
  endMs : Option UInt64
deriving DecidableEq, Repr

structure Transcript where
  text : String
  language : Option String
  segments : List TranscriptSegment
deriving DecidableEq, Repr

structure AsrSession where
  id : SessionId
  providerId : String
  acceptedInputFormat : AudioFormat
  inputMode : StreamMode
  outputMode : StreamMode
deriving DecidableEq, Repr

inductive BridgeAsrEvent where
  | partial_ (text : String)
  | final (transcript : Transcript)
  | ended (reason : Option String)
  | error (message : String)
deriving DecidableEq, Repr

inductive BridgeCommand where
  | pushAudio (chunk : Bytes)
  | commit
  | stop
deriving DecidableEq, Repr

inductive SynthesisInputKind where
  | text | ssml
deriving DecidableEq, Repr

structure SynthesisOptions where
  language : Option String := none
  voice : Option String := none
  stream : Bool := false
  providerOptions : Json := .null

structure TtsStreamRequest where
  provider : ProviderSelector
  inputKind : SynthesisInputKind
  outputFormat : Option AudioFormat
  options : SynthesisOptions

structure VoiceDescriptor where
  id : String
  language : String
  displayName : String
  gender : Option String
  capabilities : List String
deriving DecidableEq, Repr

structure AudioChunk where
  bytes : Bytes
  sequence : ℕ
  isFinal : Bool
  format : Option AudioFormat
deriving DecidableEq, Repr

structure TtsSession where
  id : SessionId
  providerId : String
  acceptedOutputFormat : Option AudioFormat
  inputMode : StreamMode
  outputMode : StreamMode
deriving DecidableEq, Repr

inductive BridgeTtsEvent where
  | audio (chunk : AudioChunk)
  | ended (reason : Option String)
  | error (message : String)
deriving DecidableEq, Repr

inductive BridgeTtsCommand where
  | appendInput (delta : String)
  | commit
  | stop
deriving DecidableEq, Repr

/-! ## Devices -/

inductive EndpointDirection where
  | input | output | duplex
deriving DecidableEq, Repr

structure AudioEndpoint where
  id : String
  displayName : Option String
  direction : EndpointDirection
  capabilities : List String
  supportedFormats : List AudioFormat
deriving DecidableEq, Repr

structure Device where
  id : String
  hostname : Option String
  platform : Option String
  endpoints : List AudioEndpoint
deriving DecidableEq, Repr

/-! ## Third-party encodings -/

/-- The `base64` crate's standard engine. -/
structure Base64 where
  encode : Bytes → String
  decode : String → Except String Bytes

end SpeechMesh.Model
