import SpeechMesh.Model.TtsBridges

/-! # The MiniMax socket session

`run_minimax_ws_session`: one loop that takes whatever comes first, a message of the provider's
socket or a command of the handle. A run is fed the sequence of what the `select!` picks, and the
outcome of every write to the socket. Leaving the function, from wherever, is an error of the
`Except` here.
-/

namespace SpeechMesh.Model

open Async

structure MiniMaxWsEvent where
  event : Option String := none
  isFinal : Option Bool := none
  data : Option MiniMaxAudioData := none
  baseResp : Option MiniMaxBaseResp := none

/-- A message of the socket; the text of an event is decoded here. -/
inductive MiniMaxWsMessage where
  | text (event : Except String MiniMaxWsEvent)
  | binary (bytes : Bytes)
  | ping
  | close
  | other

/-- What the `select!` picks: the next message of the socket or the next command. -/
inductive MiniMaxWsInput where
  | message (message : MiniMaxWsMessage)
  | failed (error : String)
  | closed
  | command (command : BridgeTtsCommand)
  | handleDropped

/-- What is written to the socket. -/
inductive MiniMaxWsOutgoing where
  | taskStart (text : Option String)
  | taskContinue (text : String)
  | taskFinish
  | pong

/-- How the function returns: with the reason of the end, or with an error. -/
abbrev MiniMaxWsExit := Except BridgeError (Option String)

/-- The local variables of the session, and what it has written. -/
structure MiniMaxWsState where
  started : Bool := false
  taskStartSent : Bool := false
  committed : Bool := false
  buffered : String := ""
  pendingChunks : List String := []
  chunkSequence : ℕ := 0
  written : List MiniMaxWsOutgoing := []

/-- What a session is started with. The `n`-th write to the socket ends with `writes n`. -/
structure MiniMaxWsSession where
  config : MiniMaxTtsConfig
  inputMode : StreamMode
  format : Option AudioFormat
  connects : Except BridgeError Unit
  writes : ℕ → Except String Unit

namespace MiniMaxWsSession

variable (session : MiniMaxWsSession)

/-- Write one message; a failed write ends the session. -/
def write (state : MiniMaxWsState) (message : MiniMaxWsOutgoing) :
    Except MiniMaxWsExit MiniMaxWsState :=
  match session.writes state.written.length with
  | .ok () => .ok { state with written := state.written ++ [message] }
  | .error error =>
      let what := match message with
        | .pong => "pong"
        | _ => "write"
      .error (.error (.disconnected ("MiniMax websocket " ++ what ++ " failed: " ++ error)))

def writeAll (state : MiniMaxWsState) (messages : List MiniMaxWsOutgoing) :
    Except MiniMaxWsExit MiniMaxWsState :=
  messages.foldlM session.write state

/-- What an event says about the task, before its audio is looked at. -/
def handleEvent (state : MiniMaxWsState) (event : MiniMaxWsEvent) :
    Except MiniMaxWsExit MiniMaxWsState :=
  match event.baseResp.bind fun resp => resp.failure? "MiniMax websocket provider error" with
  | some message => .error (.error (.unavailable message))
  | none =>
      if event.event = some "task_started" then do
        let state := { state with started := true }
        let flushed ← session.writeAll { state with pendingChunks := [] }
          (state.pendingChunks.map .taskContinue)
        if flushed.committed then session.write flushed .taskFinish else .ok flushed
      else if event.event = some "task_finished" then .error (.ok none)
      else if event.event = some "task_failed" then
        .error (.error (.unavailable "MiniMax websocket task failed"))
      else .ok state

/-- Send the next audio chunk of the session. -/
def sendChunk (state : MiniMaxWsState) (bytes : Bytes) (outbox : Outbox BridgeTtsEvent) :
    Except MiniMaxWsExit MiniMaxWsState × Outbox BridgeTtsEvent :=
  let state := { state with chunkSequence := state.chunkSequence + 1 }
  let chunk : AudioChunk := ⟨bytes, state.chunkSequence, false,
    if state.chunkSequence = 1 then session.format else none⟩
  match outbox.send (.audio chunk) with
  | (outbox, true) => (.ok state, outbox)
  | (outbox, false) => (.error (.error (.disconnected "bridge event channel closed")), outbox)

/-- Nothing to play: a final event ends the session. -/
def skipAudio (state : MiniMaxWsState) (event : MiniMaxWsEvent) :
    Except MiniMaxWsExit MiniMaxWsState :=
  if event.isFinal.getD false then .error (.ok none) else .ok state

/-- The audio of an event. An empty chunk that decoded has taken a sequence number. -/
def playEvent (state : MiniMaxWsState) (event : MiniMaxWsEvent) (outbox : Outbox BridgeTtsEvent) :
    Except MiniMaxWsExit MiniMaxWsState × Outbox BridgeTtsEvent :=
  match event.data.bind fun data => data.audio.or data.audioBase64 with
  | none => (.ok state, outbox)
  | some audio =>
      if trim audio = "" then (skipAudio state event, outbox)
      else
        match decodeMinimaxAudio session.config.base64 (trim audio) with
        | .error error => (.error (.error error), outbox)
        | .ok [] =>
            (skipAudio { state with chunkSequence := state.chunkSequence + 1 } event, outbox)
        | .ok bytes => session.sendChunk state bytes outbox

def handleMessage (state : MiniMaxWsState) (outbox : Outbox BridgeTtsEvent) :
    MiniMaxWsMessage → Except MiniMaxWsExit MiniMaxWsState × Outbox BridgeTtsEvent
  | .text (.error error) =>
      (.error (.error (.protocol ("failed to decode MiniMax websocket event: " ++ error))), outbox)
  | .text (.ok event) =>
      match session.handleEvent state event with
      | .error exit => (.error exit, outbox)
      | .ok state => session.playEvent state event outbox
  | .binary bytes => session.sendChunk state bytes outbox
  | .ping => (session.write state .pong, outbox)
  | .close =>
      if state.committed then (.error (.ok none), outbox)
      else (.error (.error (.disconnected "MiniMax websocket closed early")), outbox)
  | .other => (.ok state, outbox)

/-- The first text of a session goes with its start. -/
def startOrQueue (state : MiniMaxWsState) (text : String) : Except MiniMaxWsExit MiniMaxWsState :=
  if state.taskStartSent then .ok { state with pendingChunks := state.pendingChunks ++ [text] }
  else do
    let state ← session.write state (.taskStart (some text))
    return { state with taskStartSent := true }

def handleCommand (state : MiniMaxWsState) :
    BridgeTtsCommand → Except MiniMaxWsExit MiniMaxWsState
  | .appendInput delta =>
      if delta = "" then .ok state
      else
        match session.inputMode with
        | .buffered => .ok { state with buffered := state.buffered ++ delta }
        | .streaming =>
            if state.started then session.write state (.taskContinue delta)
            else session.startOrQueue state delta
  | .commit =>
      let state := { state with committed := true }
      match session.inputMode with
      | .buffered =>
          let text := trim state.buffered
          if text = "" then .error (.error (.unavailable "TTS input buffer is empty"))
          else if state.started then session.writeAll state [.taskContinue text, .taskFinish]
          else session.startOrQueue state text
      | .streaming => if state.started then session.write state .taskFinish else .ok state
  -- whether the write of the last message succeeds is ignored
  | .stop => .error (.ok (some "stopped"))

def handleInput (state : MiniMaxWsState) (outbox : Outbox BridgeTtsEvent) :
    MiniMaxWsInput → Except MiniMaxWsExit MiniMaxWsState × Outbox BridgeTtsEvent
  | .message message => session.handleMessage state outbox message
  | .failed error =>
      (.error (.error (.disconnected ("MiniMax websocket read failed: " ++ error))), outbox)
  | .closed =>
      if state.committed then (.error (.ok none), outbox)
      else (.error (.error (.disconnected "MiniMax websocket closed before synthesis completed")),
        outbox)
  | .command command => (session.handleCommand state command, outbox)
  | .handleDropped => (.error (.ok (some "stopped")), outbox)

/-- The loop, on what it is fed. It is still waiting at the end of the inputs, or it has left. -/
def loop : List MiniMaxWsInput → MiniMaxWsState → Outbox BridgeTtsEvent →
    Except MiniMaxWsExit MiniMaxWsState × Outbox BridgeTtsEvent
  | [], state, outbox => (.ok state, outbox)
  | input :: rest, state, outbox =>
      match session.handleInput state outbox input with
      | (.ok state, outbox) => loop rest state outbox
      | left => left

/-- The socket is connected, and a buffered session announces its task at once. -/
def connect : Except MiniMaxWsExit MiniMaxWsState :=
  match session.connects with
  | .error error => .error (.error error)
  | .ok () =>
      match session.inputMode with
      | .buffered => do
          let state ← session.write {} (.taskStart none)
          return { state with taskStartSent := true }
      | .streaming => .ok {}

/-- `run_minimax_ws_session`, up to where it has come on these inputs. -/
def run (inputs : List MiniMaxWsInput) (outbox : Outbox BridgeTtsEvent) :
    Except MiniMaxWsExit MiniMaxWsState × Outbox BridgeTtsEvent :=
  match session.connect with
  | .error exit => (.error exit, outbox)
  | .ok state => session.loop inputs state outbox

/-- The streaming session task of `MiniMaxHttpTtsBridge`. -/
def task (inputs : List MiniMaxWsInput) (outbox : Outbox BridgeTtsEvent) : Outbox BridgeTtsEvent :=
  match session.run inputs outbox with
  | (.ok _, outbox) => outbox
  | (.error (.ok reason), outbox) => outbox.sendAll [.ended reason]
  | (.error (.error error), outbox) =>
      outbox.sendAll [.error error.toText, .ended (some "provider_error")]

end MiniMaxWsSession

/-! ## Sessions of any bridge -/

/-- The task behind a TTS session with all it is fed. -/
inductive TtsTask where
  | mock (format : Option AudioFormat) (commands : List BridgeTtsCommand)
  | melo (config : TtsConfig) (format : Option AudioFormat) (reply : HttpReply Bytes)
      (commands : List BridgeTtsCommand)
  | qwen (config : TtsConfig) (format : Option AudioFormat) (reply : HttpReply Bytes)
      (commands : List BridgeTtsCommand)
  | minimax (config : MiniMaxTtsConfig) (format : Option AudioFormat)
      (reply : HttpReply MiniMaxResponse) (commands : List BridgeTtsCommand)
  | minimaxSocket (session : MiniMaxWsSession) (inputs : List MiniMaxWsInput)

namespace TtsTask

def run : TtsTask → Outbox BridgeTtsEvent → Outbox BridgeTtsEvent
  | .mock format commands, outbox => mockTtsTask format commands outbox
  | .melo config format reply commands, outbox => meloTask config format reply commands outbox
  | .qwen config format reply commands, outbox => qwenTask config format reply commands outbox
  | .minimax config format reply commands, outbox =>
      minimaxTask config format reply commands outbox
  | .minimaxSocket session inputs, outbox => session.task inputs outbox

/-- The events of a session whose receiver stays. -/
def events (task : TtsTask) : List BridgeTtsEvent := (task.run {}).accepted

end TtsTask

end SpeechMesh.Model
