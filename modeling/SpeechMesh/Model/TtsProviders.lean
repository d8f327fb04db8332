import SpeechMesh.Model.AsrProviders
import SpeechMesh.Model.TtsBridges

/-! # The TTS providers of a gateway

What the TTS bridges report about themselves, and how they check a request before a session starts.
Model names, voices and chunk sizes are not read by these checks.
-/

namespace SpeechMesh.Model

/-! ## Stream modes -/

def ensureTtsModesSupported (inputMode outputMode : StreamMode)
    (supportsStreamingInput supportsStreamingOutput : Bool) (providerName : String) :
    Except BridgeError Unit :=
  if inputMode = .streaming ∧ supportsStreamingInput = false then
    .error (.unavailable (providerName ++ " does not support streaming TTS input"))
  else if outputMode = .streaming ∧ supportsStreamingOutput = false then
    .error (.unavailable (providerName ++ " does not support streaming TTS output"))
  else .ok ()

/-! ## Output formats -/

/-- The `Debug` text of an encoding. -/
def AudioEncoding.toDebug : AudioEncoding → String
  | .pcmS16Le => "PcmS16Le"
  | .pcmF32Le => "PcmF32Le"
  | .opus => "Opus"
  | .mp3 => "Mp3"
  | .aac => "Aac"
  | .flac => "Flac"
  | .wav => "Wav"

def normalizeOutputFormatName (encoding : Option AudioEncoding) (fallback : String) :
    Except BridgeError String :=
  match encoding with
  | some .wav => .ok (toAsciiLowercase (trim "wav"))
  | some .mp3 => .ok (toAsciiLowercase (trim "mp3"))
  | some .flac => .ok (toAsciiLowercase (trim "flac"))
  | some other => .error (.unavailable
      ("unsupported TTS output encoding for upstream provider: " ++ other.toDebug))
  | none => .ok (toAsciiLowercase (trim fallback))

def audioEncodingFromName (name : String) : Except BridgeError AudioEncoding :=
  let normalized := toAsciiLowercase (trim name)
  if normalized = "wav" then .ok .wav
  else if normalized = "mp3" then .ok .mp3
  else if normalized = "flac" then .ok .flac
  else .error (.unavailable
    ("unsupported audio format requested from upstream provider: " ++ normalized))

/-! ## Bridges -/

/-- What the health endpoint of MeloTTS reports. -/
structure MeloHealth where
  speaker : String
  language : String
  sampleRate : UInt32

/-- A bridge to one TTS provider. -/
inductive TtsProvider where
  | mock (providerId : String) (displayName : Option String)
  | melo (providerId : String) (displayName : Option String)
  | qwen (providerId : String) (displayName : Option String) (defaultSampleRateHz : UInt32)
  | minimax (providerId : String) (displayName : Option String) (defaultSampleRateHz : UInt32)
      (defaultFormat : String)

namespace TtsProvider

def providerId : TtsProvider → String
  | mock providerId _ | melo providerId _ | qwen providerId _ _ | minimax providerId _ _ _ =>
      providerId

/-- The keys of its enabled capabilities. -/
def capabilityKeys : TtsProvider → List String
  | mock .. =>
      ["voice-list", "buffered-input", "buffered-text-input", "buffered-output", "rate-control"]
  | melo .. =>
      ["voice-list", "streaming-input", "buffered-input", "buffered-text-input",
        "streaming-output", "buffered-output", "rate-control", "wav-output"]
  | qwen .. =>
      ["voice-list", "streaming-input", "buffered-input", "buffered-text-input",
        "streaming-output", "buffered-output", "rate-control", "pitch-control", "volume-control",
        "instruction-control", "wav-output", "quality-high", "local-inference"]
  | minimax .. =>
      ["voice-list", "buffered-input", "buffered-text-input", "buffered-output", "rate-control",
        "pitch-control", "volume-control", "emotion-control", "wav-output", "mp3-output",
        "cloud-managed", "realtime-low-latency"]

/-- The descriptor that `descriptors` of the bridge reports. -/
def descriptor (provider : TtsProvider) : ProviderDescriptor :=
  let capabilities := provider.capabilityKeys.map fun key => ⟨key, true⟩
  match provider with
  | mock providerId displayName =>
      ⟨providerId, displayName.getD "Mock TTS Bridge", .tts, .localDaemon, capabilities⟩
  | melo providerId displayName =>
      ⟨providerId, displayName.getD "MeloTTS", .tts, .localDaemon, capabilities⟩
  | qwen providerId displayName _ =>
      ⟨providerId, displayName.getD "Qwen3 TTS", .tts, .localDaemon, capabilities⟩
  | minimax providerId displayName _ _ =>
      ⟨providerId, displayName.getD "MiniMax Speech", .tts, .remoteGateway, capabilities⟩

/-- The check of the stream modes, as the bridge makes it. -/
def ensureModes (options : SynthesisOptions) : TtsProvider → Except BridgeError Unit :=
  let inputMode := requestedTtsInputMode options
  let outputMode := requestedTtsOutputMode options
  fun
  | mock .. => ensureTtsModesSupported inputMode outputMode false false "Mock TTS"
  | melo .. => ensureTtsModesSupported inputMode outputMode false false "MeloTTS"
  | qwen .. => ensureTtsModesSupported inputMode outputMode false false "Qwen3 TTS"
  | minimax .. => ensureTtsModesSupported inputMode outputMode true true "MiniMax TTS"

/-- The format a session of the bridge has, on what the health endpoint answers Melo. -/
def acceptFormat (health : Except BridgeError MeloHealth) (request : TtsStreamRequest) :
    TtsProvider → Except BridgeError (Option AudioFormat)
  | mock .. => return request.outputFormat.or (some ⟨.wav, 16000, 1⟩)
  | melo .. => do
      if request.inputKind ≠ .text then
        throw (.unavailable "MeloTTS bridge currently supports text input only")
      let health ← health
      if let some language := request.options.language then
        if language ≠ health.language then
          throw (.unavailable ("MeloTTS bridge is serving language " ++ health.language ++
            " but request asked for " ++ language))
      if let some voice := request.options.voice then
        if voice ≠ health.speaker then
          throw (.unavailable ("MeloTTS bridge exposes voice " ++ health.speaker ++
            " but request asked for " ++ voice))
      wavOnly "MeloTTS bridge currently outputs WAV only"
        (request.outputFormat.getD ⟨.wav, health.sampleRate, 1⟩)
  | qwen _ _ defaultSampleRateHz => do
      if request.inputKind ≠ .text then
        throw (.unavailable "Qwen3 TTS bridge currently supports text input only")
      wavOnly "Qwen3 TTS bridge currently outputs WAV only"
        (request.outputFormat.getD ⟨.wav, defaultSampleRateHz, 1⟩)
  | minimax _ _ defaultSampleRateHz defaultFormat => do
      if request.inputKind ≠ .text then
        throw (.unavailable "MiniMax TTS bridge currently supports text input only")
      let streaming := requestedTtsOutputMode request.options = .streaming
      let defaultEncoding := if streaming then AudioEncoding.mp3 else .wav
      let desired ← normalizeOutputFormatName
        ((request.outputFormat.map AudioFormat.encoding).or (some defaultEncoding)) defaultFormat
      if streaming ∧ desired = "wav" then
        throw (.unavailable
          "MiniMax streaming TTS does not support WAV output; use mp3 or flac")
      let encoding ← audioEncodingFromName desired
      return some ⟨encoding, defaultSampleRateHz, 1⟩
where
  wavOnly (refusal : String) (format : AudioFormat) : Except BridgeError (Option AudioFormat) :=
    if format.encoding = .wav then .ok (some format) else .error (.unavailable refusal)

/-- `start_stream`, up to the task of the session. -/
def startStream (health : Except BridgeError MeloHealth) (sessionId : SessionId)
    (provider : TtsProvider) (request : TtsStreamRequest) :
    Except BridgeError (TtsSession × SynthesisInputKind) := do
  provider.ensureModes request.options
  let format ← provider.acceptFormat health request
  return (⟨sessionId, provider.providerId, format, requestedTtsInputMode request.options,
    requestedTtsOutputMode request.options⟩, request.inputKind)

def toSharedBridge (provider : TtsProvider) : SharedBridge TtsProvider :=
  ⟨[provider.descriptor], provider⟩

end TtsProvider

/-- `start_stream` of a composite. -/
def CompositeTtsBridge.startStream (health : Except BridgeError MeloHealth)
    (sessionId : SessionId) (composite : CompositeTtsBridge TtsProvider)
    (request : TtsStreamRequest) : Except BridgeError (TtsSession × SynthesisInputKind) := do
  let routed ← composite.route request
  routed.1.bridge.startStream health sessionId routed.2

end SpeechMesh.Model
