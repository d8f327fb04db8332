import SpeechMesh.Model.AgentPrograms

/-! # Client connections

The task of a client connection, cut where the outcome of starting a session decides how it goes
on, and the forwarders that relay the events of a bridge session. Every answer goes through the
connection's outgoing queue.
-/

namespace SpeechMesh.Model

open Async

/-! ## Forwarders -/

/-- `str::strip_prefix`. -/
def stripPrefix (text start : String) : Option String :=
  if start.toList.isPrefixOf text.toList then
    some (String.ofList (text.toList.drop start.toList.length))
  else none

def computeDelta (previous current : String) : Option String :=
  if current = previous then none
  else if previous = "" then some current
  else (stripPrefix current previous).or (some current)

/-- The result message of a new text, and the text the next delta is computed from. -/
def asrResult (sessionId : SessionId) (sequence revision : ℕ) (previousText text : String)
    (final? : Option Transcript) : ServerMessage :=
  let segments := (final?.map Transcript.segments).getD []
  .asrResult sessionId sequence
    { segmentId := 0
      revision := revision
      text := text
      delta := computeDelta previousText text
      isFinal := final?.isSome
      speechFinal := final?.isSome
      beginTimeMs := segments.head?.bind TranscriptSegment.startMs
      endTimeMs := segments.getLast?.bind TranscriptSegment.endMs
      words := segments.map fun segment =>
        ⟨segment.text, segment.startMs, segment.endMs, segment.isFinal⟩ }

def providerError (sessionId : SessionId) (message : String) : ServerMessage :=
  .error none (some sessionId) ⟨"provider_error", message, false⟩

/-- What an ASR event becomes, with the revision and the previous text after it. -/
def asrOutgoing (sessionId : SessionId) (sequence revision : ℕ) (previousText : String) :
    BridgeAsrEvent → ServerMessage × ℕ × String
  | .partial_ text =>
      (asrResult sessionId sequence (revision + 1) previousText text none, revision + 1, text)
  | .final transcript =>
      (asrResult sessionId sequence (revision + 1) previousText transcript.text (some transcript),
        revision + 1, transcript.text)
  | .ended reason => (.sessionEnded sessionId reason, revision, previousText)
  | .error message => (providerError sessionId message, revision, previousText)

/-- A forwarder that returns drops the receiver of the session's events. -/
def asrForwarder (connection : ℕ) (sessionId : SessionId) (sequence revision : ℕ)
    (previousText : String) : Program (Option Procedure) := do
  match ← perform (.asr sessionId .receiveEvent) with
  | none => do
      perform (.asr sessionId .closeEvents)
      return none
  | some event => do
      let outgoing := asrOutgoing sessionId (sequence + 1) revision previousText event
      match ← perform (.sendClient connection outgoing.1) with
      | true =>
          return some (.asrForwarder connection sessionId (sequence + 1) outgoing.2.1 outgoing.2.2)
      | false => do
          perform (.asr sessionId .closeEvents)
          return none

def ttsForwarder (base64 : Base64) (connection : ℕ) (sessionId : SessionId)
    (inputKind : SynthesisInputKind) (sequence totalChunks totalBytes : ℕ) :
    Program (Option Procedure) := do
  match ← perform (.tts sessionId .receiveEvent) with
  | none => finish
  | some (.audio chunk) => do
      let outgoing := ServerMessage.ttsAudioDelta sessionId (sequence + 1)
        ⟨totalChunks + 1, base64.encode chunk.bytes, chunk.isFinal, chunk.format⟩
      match ← perform (.sendClient connection outgoing) with
      | true =>
          return some (.ttsForwarder connection sessionId inputKind (sequence + 1)
            (totalChunks + 1) (totalBytes + chunk.bytes.length))
      | false => finish
  | some (.ended reason) => do
      let done := ServerMessage.ttsAudioDone sessionId (sequence + 1)
        ⟨inputKind, totalChunks, totalBytes⟩
      match ← perform (.sendClient connection done) with
      | true => do
          let _ ← perform (.sendClient connection (.sessionEnded sessionId reason))
          finish
      | false => finish
  | some (.error message) => do
      match ← perform (.sendClient connection (providerError sessionId message)) with
      | true =>
          return some (.ttsForwarder connection sessionId inputKind sequence totalChunks totalBytes)
      | false => finish
where
  finish : Program (Option Procedure) := do
    perform (.tts sessionId .closeEvents)
    return none

/-! ## The active session -/

/-- Send a command to the bridge of the active session, as the methods of its handle do. -/
def commandBridge (sent : Program Bool) : Program (Except ServerError Unit) := do
  match ← sent with
  | true => return .ok ()
  | false => return .error (.bridge (.disconnected "bridge command channel closed"))

def ActiveSession.stop : ActiveSession → Program (Except ServerError Unit)
  | .asr sessionId => commandBridge (perform (.asr sessionId (.sendCommand .stop)))
  | .tts sessionId => commandBridge (perform (.tts sessionId (.sendCommand .stop)))

/-- Dropping a handle drops its command sender. -/
def ActiveSession.dropHandle : ActiveSession → Program Unit
  | .asr sessionId => perform (.asr sessionId .releaseCommands)
  | .tts sessionId => perform (.tts sessionId .releaseCommands)

def expectActiveAsr (active : Option ActiveSession) (sessionId : SessionId) :
    Except ServerError Unit :=
  match active with
  | some (.asr activeId) =>
      if activeId = sessionId then .ok ()
      else .error (.sessionNotFound "session id does not match active session")
  | some (.tts _) => .error (.unsupported "the active session is a TTS session, not ASR")
  | none => .error (.sessionNotFound "no active session")

def expectActiveTts (active : Option ActiveSession) (sessionId : SessionId) :
    Except ServerError Unit :=
  match active with
  | some (.tts activeId) =>
      if activeId = sessionId then .ok ()
      else .error (.sessionNotFound "session id does not match active session")
  | some (.asr _) => .error (.unsupported "the active session is an ASR session, not TTS")
  | none => .error (.sessionNotFound "no active session")

/-- Send a command if the message names the active session of its domain. -/
def whenActive (expected : Except ServerError Unit) (sent : Program Bool) :
    Program (Except ServerError Unit) :=
  match expected with
  | .ok () => commandBridge sent
  | .error error => return .error error

def stopSession (sessionId : SessionId) : Program (Except ServerError Unit) := do
  match ← perform (.client .activeSession) with
  | none => return .error (.sessionNotFound "no active session")
  | some session =>
      if ActiveSession.sessionId session = sessionId then do
        match ← ActiveSession.stop session with
        | .error error => return .error error
        | .ok () => do
            perform (.client (.setActive none))
            ActiveSession.dropHandle session
            return .ok ()
      else return .error (.sessionNotFound "session id does not match active session")

/-! ## Client messages -/

def sendError (connection : ℕ) (requestId : Option RequestId) (sessionId : Option SessionId)
    (error : ServerError) : Program Unit := do
  let _ ← perform (.sendClient connection (.error requestId sessionId error.toErrorInfo))

/-- Send a reply; a closed queue is an error of the handler. -/
def sendReply (connection : ℕ) (reply : ServerMessage) : Program (Except ServerError Unit) := do
  match ← perform (.sendClient connection reply) with
  | true => return .ok ()
  | false => return .error .disconnected

def handleDiscover (config : GatewayConfig) (domains : List CapabilityDomain) :
    List ProviderDescriptor :=
  (if domains.isEmpty || domains.contains .asr then config.asrBridge.descriptors else []) ++
    if domains.isEmpty || domains.contains .tts then
      (config.ttsBridge.map TtsBridge.descriptors).getD []
    else []

/-- `start_stream` of the configured ASR bridge. -/
def startAsr (config : GatewayConfig) (payload : AsrStreamRequest) :
    Program (Except BridgeError AsrSession) :=
  match config.asrBridge.route payload with
  | .error error => return .error error
  | .ok (.remoteAgent providerId) => startRemote providerId payload
  | .ok .provider => perform (.client (.startAsr payload))

def oneActiveSession : ServerError := .unsupported "one active session per connection"

def ttsNotEnabled : ServerError := .unsupported "tts is not enabled in speechmeshd"

/-- `handle_client_message`, up to the point where the outcome of a start is known. -/
def handleClientMessage (config : GatewayConfig) (connection : ℕ) (message : ClientMessage) :
    Program (Option Procedure) :=
  let reply (result : Except ServerError Unit) : Program (Option Procedure) :=
    return some (.clientReply message result)
  match message with
  | .hello requestId payload => do
      let result ← sendReply connection
        (.helloOk requestId ⟨payload.protocolVersion, config.serverName, true⟩)
      reply result
  | .discover requestId domains => do
      let result ← sendReply connection (.discoverResult requestId (handleDiscover config domains))
      reply result
  | .asrStart requestId payload => do
      match ← perform (.client .activeSession) with
      | some _ => reply (.error oneActiveSession)
      | none => do
          let outcome ← startAsr config payload
          return some (.asrStarted requestId payload outcome)
  | .asrCommit sessionId => do
      let active : Option ActiveSession ← perform (.client .activeSession)
      let result ← whenActive (expectActiveAsr active sessionId)
        (perform (.asr sessionId (.sendCommand .commit)))
      reply result
  | .ttsVoices requestId payload =>
      match config.ttsBridge with
      | none => reply (.error ttsNotEnabled)
      | some _ => do
          match ← perform (.client (.listVoices payload)) with
          | .error error => reply (.error (.bridge error))
          | .ok voices => do
              let result ← sendReply connection (.ttsVoicesResult requestId voices)
              reply result
  | .ttsStart requestId payload => do
      match ← perform (.client .activeSession) with
      | some _ => reply (.error oneActiveSession)
      | none =>
          match config.ttsBridge with
          | none => reply (.error ttsNotEnabled)
          | some _ => do
              let outcome ← perform (.client (.startTts payload))
              return some (.ttsStarted requestId payload outcome)
  | .ttsInputAppend sessionId delta => do
      let active : Option ActiveSession ← perform (.client .activeSession)
      let result ← whenActive (expectActiveTts active sessionId)
        (perform (.tts sessionId (.sendCommand (.appendInput delta))))
      reply result
  | .ttsCommit sessionId => do
      let active : Option ActiveSession ← perform (.client .activeSession)
      let result ← whenActive (expectActiveTts active sessionId)
        (perform (.tts sessionId (.sendCommand .commit)))
      reply result
  | .sessionStop sessionId | .sessionCancel sessionId => do
      let result ← stopSession sessionId
      reply result
  | .ping requestId => do
      let result ← sendReply connection (.pong requestId)
      reply result
  | .asrTranscribe _ =>
      reply (.error (.unsupported "asr.transcribe is not implemented in speechmeshd v0"))

/-- The rest of `asr.start`: the forwarder is spawned before the reply is queued, and the slot is
taken after. The event receiver of a new handle is always there. -/
def asrStarted (connection : ℕ) (requestId : RequestId) (payload : AsrStreamRequest)
    (outcome : Except BridgeError AsrSession) : Program (Option Procedure) :=
  let reply (result : Except ServerError Unit) : Program (Option Procedure) :=
    return some (.clientReply (.asrStart requestId payload) result)
  match outcome with
  | .error error => reply (.error (.bridge error))
  | .ok session => do
      perform (.spawn (.asrForwarder connection session.id 0 0 ""))
      let started := SessionStartedPayload.mk .asr session.providerId
        (some session.acceptedInputFormat) none (some session.inputMode) (some session.outputMode)
      match ← sendReply connection (.sessionStarted (some requestId) session.id started) with
      | .error error => do
          ActiveSession.dropHandle (.asr session.id)
          reply (.error error)
      | .ok () => do
          perform (.client (.setActive (some (.asr session.id))))
          reply (.ok ())

def ttsStarted (connection : ℕ) (requestId : RequestId) (payload : TtsStreamRequest)
    (outcome : Except BridgeError (TtsSession × SynthesisInputKind)) :
    Program (Option Procedure) :=
  let reply (result : Except ServerError Unit) : Program (Option Procedure) :=
    return some (.clientReply (.ttsStart requestId payload) result)
  match outcome with
  | .error error => reply (.error (.bridge error))
  | .ok (session, inputKind) => do
      perform (.spawn (.ttsForwarder connection session.id inputKind 0 0 0))
      let started := SessionStartedPayload.mk .tts session.providerId none
        session.acceptedOutputFormat (some session.inputMode) (some session.outputMode)
      match ← sendReply connection (.sessionStarted (some requestId) session.id started) with
      | .error error => do
          ActiveSession.dropHandle (.tts session.id)
          reply (.error error)
      | .ok () => do
          perform (.client (.setActive (some (.tts session.id))))
          reply (.ok ())

/-- The error reply of `handle_client_websocket`, and the end of a message. -/
def clientReply (connection : ℕ) (message : ClientMessage) (result : Except ServerError Unit) :
    Program (Option Procedure) := do
  match result with
  | .ok () => pure ()
  | .error error => do
      let active : Option ActiveSession ← perform (.client .activeSession)
      sendError connection none (active.map ActiveSession.sessionId) error
  perform (.mark (.clientMessageHandled message))
  return some .clientLoop

/-! ## The task of a client connection -/

def pushAudio (connection : ℕ) (bytes : Bytes) : Program Unit := do
  match ← perform (.client .activeSession) with
  | some (.asr sessionId) => do
      match ← commandBridge (perform (.asr sessionId (.sendCommand (.pushAudio bytes)))) with
      | .ok () => pure ()
      | .error error => sendError connection none (some sessionId) error
  | some (.tts sessionId) =>
      sendError connection none (some sessionId)
        (.unsupported "binary frames are reserved for ASR audio input")
  | none => sendError connection none none (.sessionNotFound "no active ASR session")

/-- A read error leaves the function at once and drops the handle of the active session. -/
def clientFailed : Program (Option Procedure) := do
  match ← perform (.client .activeSession) with
  | some session => ActiveSession.dropHandle session
  | none => pure ()
  return some .returned

def clientTeardown : Program (Option Procedure) := do
  match ← perform (.client .activeSession) with
  | some session => do
      perform (.client (.setActive none))
      let _ ← ActiveSession.stop session
      ActiveSession.dropHandle session
  | none => pure ()
  perform (.client .joinWriter)
  return some .returned

def clientLoop (connection : ℕ) : Program (Option Procedure) := do
  match ← perform (.client .nextFrame) with
  | .ended => return some .clientTeardown
  | .failed _ => clientFailed
  | .text (.ok message) => return some (.clientMessage message)
  | .text (.error error) => do
      let active : Option ActiveSession ← perform (.client .activeSession)
      sendError connection none (active.map ActiveSession.sessionId)
        (.invalidRequest ("invalid json frame: " ++ error))
      return some .clientLoop
  | .binary bytes => do
      pushAudio connection bytes
      return some .clientLoop
  | .close => return some .clientTeardown
  | .ping _ => do
      let _ ← perform (.sendClient connection (.pong none))
      return some .clientLoop
  | .pong => return some .clientLoop

end SpeechMesh.Model
