import SpeechMesh.Async.Channel
import SpeechMesh.Model.JsonCodec
import SpeechMesh.Model.TtsBridges
import SpeechMesh.Text.Pieces

/-! # The MeloTTS WebSocket bridge

The Python server that speaks to a MeloTTS server for one client at a time. A frame is handled to its
end before the next one is read, so a connection is a fold over its frames. Conversions to floats are
a parameter; the constant fields of the answers and the measured times are left out.
-/

namespace SpeechMesh.Model.MeloBridge

open Async

/-- What `str.isspace` takes for whitespace: the four information separators besides the characters
with the Unicode property. -/
def isSpace (c : Char) : Bool := isWhitespace c || (0x1c ≤ c.toNat && c.toNat ≤ 0x1f)

/-- `str.strip`. -/
def strip (text : String) : String := String.ofList (Text.strip isSpace text.toList)

/-- `float(raw)`, limited to the range of speeds. An integer can be too large for a float. -/
structure Floats where
  Speed : Type
  limited : String → Except String Speed

variable (floats : Floats)

structure BridgeConfig where
  providerId : String
  defaultSpeed : floats.Speed
  defaultChunkBytes : ℤ

structure SessionState where
  sessionId : String
  speed : floats.Speed
  chunkBytes : ℤ
  textParts : List String := []

variable {floats}

def SessionState.appendText (session : SessionState floats) (value : String) :
    SessionState floats :=
  let text := strip value
  if text = "" then session else { session with textParts := session.textParts ++ [text] }

def SessionState.fullText (session : SessionState floats) : String :=
  strip (" ".intercalate session.textParts)

/-! ## Decoding -/

/-- A decoded frame. The payload is an object. -/
structure DecodedMessage where
  requestId : Option String
  messageType : String
  payload : Json

/-- `decode_client_message`, on what `json.loads` makes of the frame. -/
def decodeClientMessage (loaded : Except String Json) : Except String DecodedMessage :=
  match loaded with
  | .error error => .error ("invalid json frame: " ++ error)
  | .ok (.object fields) =>
      let parsed := Json.object fields
      match parsed.get? "type" with
      | some (.string messageType) =>
          if messageType = "" then .error "message type is required"
          else
            let payload : Except String Json :=
              match parsed.get? "payload" with
              | none | some .null => .ok (.object [])
              | some (.object fields) => .ok (.object fields)
              | some _ => .error "payload must be an object"
            match payload with
            | .error error => .error error
            | .ok payload =>
                match parsed.get? "request_id" with
                | none | some .null => .ok ⟨none, messageType, payload⟩
                | some (.string requestId) => .ok ⟨some requestId, messageType, payload⟩
                | some _ => .error "request_id must be a string"
      | _ => .error "message type is required"
  | .ok _ => .error "message must be an object"

def extractText (payload : Json) : String :=
  match payload.get? "text" with
  | some (.string text) => text
  | _ =>
      match payload.get? "input" with
      | some (.string text) => text
      | some (.object fields) =>
          match (Json.object fields).get? "text" with
          | some (.string text) => text
          | _ =>
              match (Json.object fields).get? "ssml" with
              | some (.string ssml) => ssml
              | _ => ""
      | _ => ""

/-- The `options` of a payload, if they are an object. -/
def optionsOf? (payload : Json) : Option Json :=
  match payload.get? "options" with
  | some (.object fields) => some (.object fields)
  | _ => none

/-- A value that is there and not null. -/
def present? (value : Option Json) : Option Json :=
  match value with
  | some .null => none
  | value => value

def extractSpeed (payload : Json) (defaultSpeed : floats.Speed) : Except String floats.Speed :=
  let rate := (optionsOf? payload).bind fun options =>
    match options.get? "rate" with
    | some rate => some rate
    | none => options.get? "speed"
  match (present? rate).or (payload.get? "speed") with
  | some (.number text) => floats.limited text
  | some (.bool value) => floats.limited (if value then "1" else "0")
  | _ => .ok defaultSpeed

/-- The integers of JSON, and the truth values, which Python counts among them. -/
def pythonInt? : Json → Option ℤ
  | .number text =>
      match text.toList with
      | '-' :: digits => (Json.naturalOf? (String.ofList digits)).map fun n => -(n : ℤ)
      | _ => (Json.naturalOf? text).map fun n => (n : ℤ)
  | .bool value => some (if value then 1 else 0)
  | _ => none

def extractChunkBytes (payload : Json) (defaultSize : ℤ) : ℤ :=
  match ((optionsOf? payload).bind fun options => options.get? "chunk_bytes").bind pythonInt? with
  | some raw => if 0 < raw then min raw (1024 * 1024) else defaultSize
  | none => defaultSize

/-- `create_session`, with the id that `uuid4` makes. -/
def createSession (config : BridgeConfig floats) (freshId : String) (payload : Json) :
    Except String (SessionState floats) := do
  let speed ← extractSpeed payload config.defaultSpeed
  let session : SessionState floats :=
    { sessionId := freshId
      speed := speed
      chunkBytes := extractChunkBytes payload config.defaultChunkBytes }
  return session.appendText (extractText payload)

def resolveSession (payload : Json) (sessions : Table String (SessionState floats)) :
    Except String (SessionState floats) :=
  match payload.get? "session_id" with
  | some (.string sessionId) =>
      if sessionId = "" then .error "session_id is required"
      else
        match sessions.lookup sessionId with
        | some session => .ok session
        | none => .error ("unknown session_id: " ++ sessionId)
  | _ => .error "session_id is required"

/-! ## Synthesis -/

structure MeloTtsResult where
  audioWav : Bytes
  renderMillis : Option ℤ
  sampleRateHz : Option ℤ
  speaker : Option String

def chunkAudio (value : Bytes) (chunkBytes : ℤ) : List Bytes :=
  if chunkBytes ≤ 0 then [value] else chunks chunkBytes.toNat value

/-- What the bridge sends to its client. -/
inductive BridgeMessage where
  | helloOk (requestId : Option String) (providerId : String)
  | voicesResult (requestId : Option String)
  | sessionStarted (requestId : Option String) (sessionId providerId : String)
  | inputAccepted (sessionId : String) (bufferedChars : ℕ)
  | audioChunk (sessionId : String) (sequence : ℕ) (chunk : Bytes) (isFinal : Bool)
      (result : MeloTtsResult)
  | completed (sessionId : String) (chars chunkCount : ℕ)
  | stopped (sessionId : String)
  | error (requestId : Option String) (sessionId : Option Json) (message : String)

/-- The audio messages of one commit. -/
def chunkMessages (session : SessionState floats) (result : MeloTtsResult) : List BridgeMessage :=
  (chunkAudio result.audioWav session.chunkBytes).mapIdx fun index chunk =>
    let count := index + 1
    .audioChunk session.sessionId count chunk
      (decide ((result.audioWav.length : ℤ) ≤ count * session.chunkBytes)) result

/-! ## Handling a frame -/

/-- A text frame, with what the rest of the world answers while it is handled. -/
structure Input (floats : Floats) where
  loaded : Except String Json
  freshId : String
  /-- `synthesize_with_melotts`. -/
  synthesize : String → floats.Speed → Except String MeloTtsResult

/-- What handling a message does, up to the exception that it may raise. -/
structure Turn (floats : Floats) where
  sessions : Table String (SessionState floats)
  sent : List BridgeMessage := []
  /-- The text that the MeloTTS server is asked to speak. -/
  requested : Option String := none
  raised : Option String := none

def handleStart (config : BridgeConfig floats) (sessions : Table String (SessionState floats))
    (input : Input floats) (message : DecodedMessage) : Turn floats :=
  match createSession config input.freshId message.payload with
  | .error error => { sessions := sessions, raised := some error }
  | .ok session =>
      { sessions := sessions.insert session.sessionId session
        sent := [.sessionStarted message.requestId session.sessionId config.providerId] }

def handleAppend (sessions : Table String (SessionState floats)) (message : DecodedMessage) :
    Turn floats :=
  match resolveSession message.payload sessions with
  | .error error => { sessions := sessions, raised := some error }
  | .ok session =>
      let session := session.appendText (extractText message.payload)
      { sessions := sessions.insert session.sessionId session
        sent := [.inputAccepted session.sessionId session.fullText.length] }

/-- The text of the commit stays in the buffer if the synthesis fails. -/
def handleCommit (sessions : Table String (SessionState floats)) (input : Input floats)
    (message : DecodedMessage) : Turn floats :=
  match resolveSession message.payload sessions with
  | .error error => { sessions := sessions, raised := some error }
  | .ok session =>
      let session := session.appendText (extractText message.payload)
      let extended := sessions.insert session.sessionId session
      let text := session.fullText
      if text = "" then { sessions := extended, raised := some "tts text buffer is empty" }
      else
        match input.synthesize text session.speed with
        | .error error => { sessions := extended, requested := some text, raised := some error }
        | .ok result =>
            let audio := chunkMessages session result
            { sessions := extended.erase session.sessionId
              sent := audio ++ [.completed session.sessionId text.length audio.length]
              requested := some text }

def handleStop (sessions : Table String (SessionState floats)) (message : DecodedMessage) :
    Turn floats :=
  match resolveSession message.payload sessions with
  | .error error => { sessions := sessions, raised := some error }
  | .ok session =>
      { sessions := sessions.erase session.sessionId
        sent := [.stopped session.sessionId] }

def isAppend (message : DecodedMessage) : Bool :=
  message.messageType == "tts.input_text" || message.messageType == "tts.append"

def isCommit (message : DecodedMessage) : Bool :=
  message.messageType == "tts.commit" || message.messageType == "tts.flush"

def isStop (message : DecodedMessage) : Bool :=
  message.messageType == "session.stop" || message.messageType == "tts.cancel"

/-- The body of the inner `try`. -/
def handleMessage (config : BridgeConfig floats) (sessions : Table String (SessionState floats))
    (input : Input floats) (message : DecodedMessage) : Turn floats :=
  if message.messageType = "hello" then
    { sessions := sessions, sent := [.helloOk message.requestId config.providerId] }
  else if message.messageType = "tts.voices" then
    { sessions := sessions, sent := [.voicesResult message.requestId] }
  else if message.messageType = "tts.start" then handleStart config sessions input message
  else if isAppend message then handleAppend sessions message
  else if isCommit message then handleCommit sessions input message
  else if isStop message then handleStop sessions message
  else
    { sessions := sessions
      raised := some ("unsupported message type: " ++ message.messageType) }

/-- What the exception of a turn is answered with. -/
def Turn.answered (turn : Turn floats) (message : DecodedMessage) : List BridgeMessage :=
  match turn.raised with
  | none => turn.sent
  | some error =>
      turn.sent ++ [.error message.requestId (message.payload.get? "session_id") error]

/-- The connection of one client. -/
inductive Connection (floats : Floats) where
  | usable (sessions : Table String (SessionState floats))
  | closed

/-- One round of the loop. A frame is decoded outside of the `try` that answers errors, so that one
that cannot be decoded ends the connection. -/
def Connection.step (config : BridgeConfig floats) (input : Input floats) :
    Connection floats → Connection floats × List BridgeMessage
  | .closed => (.closed, [])
  | .usable sessions =>
      match decodeClientMessage input.loaded with
      | .error _ => (.closed, [])
      | .ok message =>
          let turn := handleMessage config sessions input message
          (.usable turn.sessions, turn.answered message)

/-- The connection after some frames. -/
def Connection.run (config : BridgeConfig floats) (connection : Connection floats)
    (inputs : List (Input floats)) : Connection floats :=
  inputs.foldl (fun connection input => (connection.step config input).1) connection

/-- The connection when it is accepted. -/
def accepted : Connection floats := .usable ∅

/-! ## The provider of the gateway -/

/-- The text that the task of `MeloHttpTtsBridge` asks the MeloTTS server to speak. -/
def meloRequested : List BridgeTtsCommand → String → Option String
  | [], _ => none
  | .appendInput delta :: rest, buffer => meloRequested rest (buffer ++ delta)
  | .commit :: _, buffer => if trim buffer = "" then none else some (trim buffer)
  | .stop :: _, _ => none

end SpeechMesh.Model.MeloBridge
