import SpeechMesh.Async.Code
import SpeechMesh.Model.Protocol

/-! # The speech stream of the command line client

`stream_tts_to_sink` and the parts of the Rust SDK it goes through. The client is a task of its own,
outside of the gateway: it sends frames to its socket, waits for frames from it, and writes to the
sink. Lines for the terminal are left out.
-/

namespace SpeechMesh.Model

open Async

inductive ClientError where
  | connect (error : String)
  | transport (error : String)
  | protocol (error : String)
  | server (requestId : Option RequestId) (sessionId : Option SessionId) (error : ErrorInfo)
  | noActiveSession
  | closed

/-- An `anyhow` error: of the SDK, with a context, of the sink, or the text of a `bail!`. -/
inductive CliError where
  | client (error : ClientError)
  | context (text : String) (cause : ClientError)
  | decoding (text : String) (cause : String)
  | io (error : String)
  | bailed (text : String)

/-- What is printed as a line of JSON. -/
inductive JsonLine where
  | delta (payload : TtsAudioDeltaPayload)
  | done (payload : TtsAudioDonePayload)
  | ended (reason : Option String)
  | message (message : ServerMessage)

/-! ## Actions -/

/-- `connect` is `connect_async`; the sink is stdout, a player, or a buffer. -/
inductive CliAction where
  | connect
  | send (message : ClientMessage)
  | nextFrame
  | sendPong (payload : Bytes)
  | writeAll (bytes : Bytes)
  | flush
  | printJsonl (line : JsonLine)

/-- A write that fails may have written some bytes of its argument. -/
def CliAction.Answer : CliAction → Type
  | .connect => Except String Unit
  | .send _ => Except String Unit
  | .nextFrame => Incoming ServerMessage
  | .sendPong _ => Except String Unit
  | .writeAll _ => Except (ℕ × String) Unit
  | .flush => Except String Unit
  | .printJsonl _ => Except String Unit

/-- The signature of the client. -/
def commandLine : Signature := ⟨CliAction, CliAction.Answer⟩

abbrev CliCode := Code commandLine

abbrev cli (action : CliAction) : CliCode action.Answer := @Code.perform commandLine action

/-! ## The client of the SDK -/

/-- The fields of `Client` that change. -/
structure SdkClient where
  lastRequestId : ℕ := 0
  activeSessionId : Option SessionId := none
  activeSessionDomain : Option CapabilityDomain := none

def CapabilityDomain.toDebug : CapabilityDomain → String
  | .asr => "Asr"
  | .tts => "Tts"
  | .transport => "Transport"

namespace SdkClient

def nextRequestId (client : SdkClient) : RequestId × SdkClient :=
  (⟨"req_" ++ toString (client.lastRequestId + 1)⟩,
    { client with lastRequestId := client.lastRequestId + 1 })

def observeMessage (client : SdkClient) : ServerMessage → SdkClient
  | .sessionStarted _ sessionId payload =>
      { client with activeSessionId := some sessionId, activeSessionDomain := some payload.domain }
  | .sessionEnded sessionId _ =>
      if client.activeSessionId = some sessionId then
        { client with activeSessionId := none, activeSessionDomain := none }
      else client
  | _ => client

def ensureActiveSessionDomain (client : SdkClient) (expected : CapabilityDomain) :
    Except ClientError Unit :=
  match client.activeSessionDomain with
  | some actual =>
      if actual = expected then .ok ()
      else .error (.protocol ("active session domain mismatch: expected " ++ expected.toDebug ++
        ", got " ++ actual.toDebug))
  | none => .error .noActiveSession

def sendJson (message : ClientMessage) : CliCode (Except ClientError Unit) := do
  match ← cli (.send message) with
  | .ok () => return .ok ()
  | .error error => return .error (.transport error)

def appendTtsInput (client : SdkClient) (delta : String) : CliCode (Except ClientError Unit) :=
  match client.ensureActiveSessionDomain .tts with
  | .error error => return .error error
  | .ok () =>
      match client.activeSessionId with
      | none => return .error .noActiveSession
      | some sessionId => sendJson (.ttsInputAppend sessionId delta)

def commit (client : SdkClient) : CliCode (Except ClientError Unit) :=
  match client.activeSessionId with
  | none => return .error .noActiveSession
  | some sessionId =>
      match client.activeSessionDomain with
      | some .asr => sendJson (.asrCommit sessionId)
      | some .tts => sendJson (.ttsCommit sessionId)
      | some domain => return .error (.protocol
          ("commit is unsupported for active session domain " ++ domain.toDebug))
      | none => return .error .noActiveSession

/-- One round of the loop in `recv`: none if the loop goes on. -/
def recv : CliCode (Option (Except ClientError ServerMessage)) := do
  match ← cli .nextFrame with
  | .ended => return some (.error .closed)
  | .failed error => return some (.error (.transport error))
  | .text (.ok message) => return some (.ok message)
  | .text (.error error) => return some (.error (.protocol error))
  | .close => return some (.error .closed)
  | .ping payload => do
      match ← cli (.sendPong payload) with
      | .ok () => return none
      | .error error => return some (.error (.transport error))
  | .pong => return none
  | .binary _ => return some (.error (.protocol "unexpected non-text frame from server"))

end SdkClient

/-! ## Streaming to the sink -/

/-- What `stream_tts_to_sink` reads of the command line and its request. -/
structure CliConfig where
  clientName : String
  jsonl : Bool
  request : TtsStreamRequest
  text : String
  base64 : Base64

/-- The loops of the function and of its callees, and its result. -/
inductive CliProcedure where
  | connecting
  | handshake (client : SdkClient)
  | starting (client : SdkClient) (requestId : RequestId)
  | streaming (client : SdkClient) (sawAudioDone sawSessionEnd : Bool)
  | finished (result : Except CliError Unit)

section

variable (config : CliConfig)

/-- An error leaves the function through `?`. -/
def cliFailed (error : CliError) : CliCode (Option CliProcedure) :=
  return some (.finished (.error error))

def connectFailed (error : ClientError) : CliCode (Option CliProcedure) :=
  cliFailed (.context "failed to connect to SpeechMesh" error)

def cliConnecting : CliCode (Option CliProcedure) := do
  match ← cli .connect with
  | .error error => connectFailed (.connect error)
  | .ok () => do
      match ← SdkClient.sendJson (.hello none ⟨"v1", some config.clientName⟩) with
      | .error error => connectFailed error
      | .ok () => return some (.handshake {})

/-- `start_tts`, up to its loop. -/
def startTts (client : SdkClient) : CliCode (Option CliProcedure) :=
  if client.activeSessionId.isSome then
    cliFailed (.client
      (.protocol "speechmesh server allows only one active session per connection"))
  else
    let (requestId, client) := client.nextRequestId
    do
      match ← SdkClient.sendJson (.ttsStart requestId config.request) with
      | .error error => cliFailed (.client error)
      | .ok () => return some (.starting client requestId)

def cliHandshake (client : SdkClient) : CliCode (Option CliProcedure) := do
  match ← SdkClient.recv with
  | none => return some (.handshake client)
  | some (.error error) => connectFailed error
  | some (.ok message) =>
      let client := client.observeMessage message
      match message with
      | .helloOk _ _ => startTts config client
      | .error requestId sessionId error => connectFailed (.server requestId sessionId error)
      | _ => return some (.handshake client)

/-- The text is sent at once, and committed. -/
def sendText (client : SdkClient) : CliCode (Option CliProcedure) := do
  match ← client.appendTtsInput config.text with
  | .error error => cliFailed (.client error)
  | .ok () => do
      match ← client.commit with
      | .error error => cliFailed (.client error)
      | .ok () => return some (.streaming client false false)

def cliStarting (client : SdkClient) (requestId : RequestId) : CliCode (Option CliProcedure) := do
  match ← SdkClient.recv with
  | none => return some (.starting client requestId)
  | some (.error error) => cliFailed (.client error)
  | some (.ok message) =>
      let client := client.observeMessage message
      match message with
      | .sessionStarted responseId sessionId payload =>
          if responseId = some requestId then
            sendText config { client with
              activeSessionId := some sessionId
              activeSessionDomain := some payload.domain }
          else return some (.starting client requestId)
      | .error responseId sessionId error =>
          if responseId = some requestId then
            cliFailed (.client (.server responseId sessionId error))
          else return some (.starting client requestId)
      | _ => return some (.starting client requestId)

/-- `print_jsonl`, if lines of JSON are asked for; then the loop goes on. -/
def printedThen (line : JsonLine) (next : CliProcedure) : CliCode (Option CliProcedure) :=
  if config.jsonl then do
    match ← cli (.printJsonl line) with
    | .ok () => return some next
    | .error error => cliFailed (.io error)
  else return some next

/-- The body of the streaming loop. -/
def streamMessage (client : SdkClient) (sawAudioDone sawSessionEnd : Bool) :
    ServerMessage → CliCode (Option CliProcedure)
  | .ttsAudioDelta _ _ payload =>
      match config.base64.decode payload.audioBase64 with
      | .error error => cliFailed (.decoding "failed to decode tts audio chunk" error)
      | .ok bytes => do
          match ← cli (.writeAll bytes) with
          | .error (_, error) => cliFailed (.io error)
          | .ok () =>
              printedThen config (.delta payload) (.streaming client sawAudioDone sawSessionEnd)
  | .ttsAudioDone _ _ payload => do
      match ← cli .flush with
      | .error error => cliFailed (.io error)
      | .ok () => printedThen config (.done payload) (.streaming client true sawSessionEnd)
  | .sessionEnded _ reason =>
      printedThen config (.ended reason) (.streaming client sawAudioDone true)
  | .error _ _ error =>
      cliFailed (.bailed ("server error: " ++ error.message ++ " (" ++ error.code ++ ")"))
  | other => printedThen config (.message other) (.streaming client sawAudioDone sawSessionEnd)

def cliStreaming (client : SdkClient) (sawAudioDone sawSessionEnd : Bool) :
    CliCode (Option CliProcedure) :=
  if sawAudioDone && sawSessionEnd then return some (.finished (.ok ()))
  else do
    match ← SdkClient.recv with
    | none => return some (.streaming client sawAudioDone sawSessionEnd)
    | some (.error error) => cliFailed (.client error)
    | some (.ok message) =>
        streamMessage config (client.observeMessage message) sawAudioDone sawSessionEnd message

/-- `stream_tts_to_sink`. -/
def streamTtsToSink : CliProcedure → CliCode (Option CliProcedure)
  | .connecting => cliConnecting config
  | .handshake client => cliHandshake config client
  | .starting client requestId => cliStarting config client requestId
  | .streaming client sawAudioDone sawSessionEnd =>
      cliStreaming config client sawAudioDone sawSessionEnd
  | .finished _ => return none

end

end SpeechMesh.Model
