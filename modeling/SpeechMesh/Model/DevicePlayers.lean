import SpeechMesh.Async.Trace
import SpeechMesh.Model.Gateway

/-! # The players of a device agent

`run_forever` and what it calls, with every operation on the processes that play audio. The task
tracker is a local variable of `run_once` and is gone when it returns; a process is not stopped by
that, since nobody asked for it to be killed when its handle is dropped.
-/

namespace SpeechMesh.Model.DevicePlayers

open Async

/-! ## What the agent does to its host -/

inductive PlaybackLauncher where
  | shellCommand (command : String)
  | ffplay (path : String)
  | mpv (path : String)
deriving DecidableEq, Repr

/-- How waiting for a player under the timeout comes out. -/
inductive Waited where
  | exited (success : Bool) (status : String)
  | failed (error : String)
  | timedOut
deriving DecidableEq, Repr

/-- Operations of the agent on its connection and on its players. A player is named by its place
among the processes that were started. -/
inductive AgentAction where
  | connect
  | nextFrame
  | nextInput
  | send (message : AgentToGatewayMessage)
  | sendHeartbeat
  | reconnectDelay
  | resolvePlaybackLauncher
  | spawn (command : List String)
  | writeAll (player : ℕ) (bytes : Bytes)
  | shutdownStdin (player : ℕ)
  | wait (player : ℕ)
  | startKill (player : ℕ)
  | waitKilled (player : ℕ)
  | collectStderr (player : ℕ)

def AgentAction.Answer : AgentAction → Type
  | .connect => Except String Unit
  | .nextFrame => Incoming GatewayToAgentMessage
  | .nextInput => DeviceInput
  | .send _ => Bool
  | .sendHeartbeat => Bool
  | .reconnectDelay => Unit
  | .resolvePlaybackLauncher => PlaybackLauncher
  | .spawn _ => Except String ℕ
  | .writeAll _ _ => Except String Unit
  | .shutdownStdin _ => Unit
  | .wait _ => Waited
  | .startKill _ => Unit
  | .waitKilled _ => Unit
  | .collectStderr _ => String

abbrev AgentHost : Signature := ⟨AgentAction, AgentAction.Answer⟩

abbrev Program (α : Type) : Type := Code AgentHost α

def act (action : AgentAction) : Program action.Answer := Code.perform (S := AgentHost) action

structure PlaybackTask where
  player : ℕ
  chunkCount : ℕ := 0
  byteCount : ℕ := 0
deriving DecidableEq, Repr

structure TaskTracker where
  playAudioTasks : Table String PlaybackTask := ∅
  failedPlayAudioStarts : Finset String := ∅

/-- What handling a message comes to: the tracker goes on, or `?` leaves `run_once`. -/
abbrev Handled : Type := Except String TaskTracker

/-! ## Starting a player -/

/-- The name of an encoding as Rust's derived `Debug` prints it. -/
def debugEncoding : AudioEncoding → String
  | .pcmS16Le => "PcmS16Le"
  | .pcmF32Le => "PcmF32Le"
  | .opus => "Opus"
  | .mp3 => "Mp3"
  | .aac => "Aac"
  | .flac => "Flac"
  | .wav => "Wav"

def ffplayInputFormat : Option AudioFormat → Except String (Option String)
  | none => .ok none
  | some format =>
      match format.encoding with
      | .mp3 => .ok (some "mp3")
      | .wav => .ok (some "wav")
      | .flac => .ok (some "flac")
      | other =>
          .error ("unsupported play_audio encoding for local player: " ++ debugEncoding other)

/-- The command line of the player. -/
def playbackCommand (format : Option AudioFormat) :
    PlaybackLauncher → Except String (List String)
  | .shellCommand command => .ok ["sh", "-lc", command]
  | .ffplay path => do
      let expected ← ffplayInputFormat format
      let input := match expected with
        | some expected => ["-f", expected]
        | none => []
      .ok ([path, "-nodisp", "-autoexit", "-loglevel", "error"] ++ input ++ ["-i", "pipe:0"])
  | .mpv path =>
      .ok [path, "--no-config", "--no-terminal", "--really-quiet", "--no-video", "--", "-"]

/-- `start_playback_task`. A process started with its input piped has an input. -/
def startPlaybackTask (format : Option AudioFormat) : Program (Except String PlaybackTask) := do
  let launcher : PlaybackLauncher ← act .resolvePlaybackLauncher
  match playbackCommand format launcher with
  | .error error => return .error error
  | .ok command =>
      match ← act (.spawn command) with
      | .ok player => return .ok ⟨player, 0, 0⟩
      | .error _ => return .error ("failed to spawn local playback command; " ++
          "set SPEECHMESH_PLAYBACK_CMD or install ffplay/mpv")

/-! ## Messages -/

/-- Sending fails when the writer is gone, and leaves `run_once`. -/
def reply (tracker : TaskTracker) (message : AgentToGatewayMessage) (context : String) :
    Program Handled := do
  match ← act (.send message) with
  | true => return .ok tracker
  | false => return .error context

def report (tracker : TaskTracker) (taskId : String) (state : AgentTaskState) (message : String)
    (context : String) : Program Handled :=
  reply tracker (.taskStatus taskId ⟨state, some message⟩) context

/-- A task that is given up: its player is told to terminate. -/
def stopTask (task : PlaybackTask) : Program Unit := do
  act (.shutdownStdin task.player)
  act (.startKill task.player)

def finishFailedTask (tracker : TaskTracker) (taskId reason : String) : Program Handled := do
  (tracker.playAudioTasks.lookup taskId).elim (return ()) stopTask
  report { tracker with playAudioTasks := tracker.playAudioTasks.erase taskId } taskId .failed
    reason "agent writer channel closed while reporting play_audio failure"

def taskStart (tracker : TaskTracker) (taskId : String) (format : Option AudioFormat) :
    Program Handled :=
  match tracker.playAudioTasks.lookup taskId with
  | some _ =>
      report tracker taskId .failed "duplicate play_audio task.start"
        "agent writer channel closed while reporting duplicate task.start"
  | none => do
      match ← startPlaybackTask format with
      | .ok task =>
          report ⟨tracker.playAudioTasks.insert taskId task,
              tracker.failedPlayAudioStarts.erase taskId⟩
            taskId .started "play_audio started with local default output"
            "agent writer channel closed while sending task started"
      | .error error =>
          report ⟨tracker.playAudioTasks, insert taskId tracker.failedPlayAudioStarts⟩
            taskId .failed ("failed to start local playback: " ++ error)
            "agent writer channel closed while reporting task start failure"

def taskChunk (base64 : Base64) (tracker : TaskTracker) (taskId dataBase64 : String) :
    Program Handled :=
  match tracker.playAudioTasks.lookup taskId with
  | some task =>
      match base64.decode dataBase64 with
      | .error error =>
          finishFailedTask tracker taskId ("invalid play_audio chunk base64: " ++ error)
      | .ok bytes => do
          match ← act (.writeAll task.player bytes) with
          | .error error =>
              finishFailedTask tracker taskId
                ("failed writing audio chunk to player stdin: " ++ error)
          | .ok () =>
              let written : PlaybackTask :=
                ⟨task.player, task.chunkCount + 1, task.byteCount + bytes.length⟩
              return .ok
                { tracker with playAudioTasks := tracker.playAudioTasks.insert taskId written }
  | none =>
      if taskId ∈ tracker.failedPlayAudioStarts then return .ok tracker
      else
        report tracker taskId .failed "chunk received before task.start"
          "agent writer channel closed while reporting out-of-order chunk"

/-- The state and the message that a finished task is reported with. -/
def finishTask (task : PlaybackTask) : Program (AgentTaskState × String) := do
  act (.shutdownStdin task.player)
  match ← act (.wait task.player) with
  | .exited true _ =>
      return (.finished, "play_audio finished (chunks=" ++ toString task.chunkCount ++ ", bytes=" ++
        toString task.byteCount ++ ")")
  | .exited false status => do
      let stderr : String ← act (.collectStderr task.player)
      return (.failed, "local playback process exited with status " ++ status ++ "; stderr: " ++
        stderr)
  | .failed error => do
      let stderr : String ← act (.collectStderr task.player)
      return (.failed, "failed waiting for local playback process: " ++ error ++ "; stderr: " ++
        stderr)
  | .timedOut => do
      act (.startKill task.player)
      act (.waitKilled task.player)
      let stderr : String ← act (.collectStderr task.player)
      return (.failed, "local playback timed out after 20s; stderr: " ++ stderr)

def taskFinish (tracker : TaskTracker) (taskId : String) : Program Handled :=
  let removed : TaskTracker :=
    ⟨tracker.playAudioTasks.erase taskId, tracker.failedPlayAudioStarts.erase taskId⟩
  match tracker.playAudioTasks.lookup taskId with
  | some task => do
      let outcome ← finishTask task
      report removed taskId outcome.1 outcome.2
        "agent writer channel closed while sending task finish status"
  | none =>
      if taskId ∈ tracker.failedPlayAudioStarts then return .ok removed
      else
        report removed taskId .failed "finish received before task.start"
          "agent writer channel closed while sending task finish status"

def unsupportedSession (tracker : TaskTracker) (sessionId : SessionId) : Program Handled :=
  reply tracker (.error (some sessionId) "session command unsupported by runtime skeleton")
    "agent writer channel closed while sending unsupported-session error"

def handleGatewayMessage (base64 : Base64) (tracker : TaskTracker) :
    GatewayToAgentMessage → Program Handled
  | .helloOk _ => return .ok tracker
  | .ping => reply tracker .pong "agent writer channel closed while replying ping"
  | .sessionStart sessionId _ => do
      match ← reply tracker (.error (some sessionId) "device task handling is not implemented yet")
        "agent writer channel closed while sending stub error" with
      | .error error => return .error error
      | .ok tracker =>
          reply tracker (.sessionEnded sessionId (some "not_implemented"))
            "agent writer channel closed while sending session.ended"
  | .sessionAudio sessionId _ => unsupportedSession tracker sessionId
  | .sessionCommit sessionId => unsupportedSession tracker sessionId
  | .sessionStop sessionId => unsupportedSession tracker sessionId
  | .taskPlayAudioStart taskId format => taskStart tracker taskId format
  | .taskPlayAudioChunk taskId dataBase64 => taskChunk base64 tracker taskId dataBase64
  | .taskPlayAudioFinish taskId => taskFinish tracker taskId

/-! ## Runs -/

/-- The points at which a run of the agent goes on. -/
inductive Procedure where
  | runOnce
  | waitHelloOk
  | loop (tracker : TaskTracker)
  | returned (result : Except String Unit)

def abortTasks : List String → Table String PlaybackTask → Program Unit
  | [], _ => return ()
  | taskId :: rest, tasks =>
      match tasks.lookup taskId with
      | some task => do
          stopTask task
          abortTasks rest (tasks.erase taskId)
      | none => abortTasks rest tasks

/-- `abort_all_playback_tasks`, which only a run that breaks out of its loop comes to. -/
def abortAllPlaybackTasks (tracker : TaskTracker) : Program (Option Procedure) := do
  abortTasks tracker.playAudioTasks.keys tracker.playAudioTasks
  return some (.returned (.ok ()))

def afterHandling : Handled → Procedure
  | .ok tracker => .loop tracker
  | .error error => .returned (.error error)

def runOnce (hello : AgentHelloPayload) : Program (Option Procedure) := do
  match ← act .connect with
  | .error error => return some (.returned (.error error))
  | .ok () =>
      match ← act (.send (.hello hello)) with
      | true => return some .waitHelloOk
      | false =>
          return some (.returned (.error "agent writer channel closed before hello"))

def waitHelloOk : Program (Option Procedure) := do
  match ← act .nextFrame with
  | .text (.ok (.helloOk _)) => return some (.loop {})
  | .text (.ok _) => return some .waitHelloOk
  | .text (.error _) =>
      return some (.returned (.error "invalid handshake payload from gateway"))
  | .failed _ => return some (.returned (.error "failed reading handshake frame"))
  | .close => return some (.returned (.error "gateway closed during hello handshake"))
  | .ended => return some (.returned (.error "gateway closed before hello.ok"))
  | .ping _ | .pong | .binary _ => return some .waitHelloOk

/-- One turn of the loop of `run_once`. -/
def loop (base64 : Base64) (tracker : TaskTracker) : Program (Option Procedure) := do
  match ← act .nextInput with
  | .frame .ended | .frame .close => abortAllPlaybackTasks tracker
  | .frame (.failed _) => return some (.returned (.error "failed reading gateway frame"))
  | .frame (.text (.error _)) =>
      return some (.returned (.error "invalid gateway /agent payload"))
  | .frame (.text (.ok message)) => do
      let handled ← handleGatewayMessage base64 tracker message
      return some (afterHandling handled)
  | .frame (.ping _) => do
      let handled ← reply tracker .pong "agent writer channel closed while sending pong"
      return some (afterHandling handled)
  | .frame (.binary _) | .frame .pong => return some (.loop tracker)
  | .heartbeat true => abortAllPlaybackTasks tracker
  | .heartbeat false => do
      match ← act .sendHeartbeat with
      | true => return some (.loop tracker)
      | false => abortAllPlaybackTasks tracker

/-- `run_forever` connects again whenever `run_once` returns. -/
def body (base64 : Base64) (hello : AgentHelloPayload) : Procedure → Program (Option Procedure)
  | .runOnce => runOnce hello
  | .waitHelloOk => waitHelloOk
  | .loop tracker => loop base64 tracker
  | .returned _ => do
      act .reconnectDelay
      return some .runOnce

/-! ## The processes -/

/-- What was done about a process that was started for a playback task. -/
structure Player where
  stdinShut : Bool := false
  waited : Bool := false
  killed : Bool := false
deriving DecidableEq, Repr

/-- The processes in the order in which they were started. -/
abbrev Host : Type := List Player

def Host.after (host : Host) : Entry AgentHost → Host
  | ⟨.spawn _, .ok _⟩ => host ++ [{}]
  | ⟨.shutdownStdin player, _⟩ => host.modify player fun old => { old with stdinShut := true }
  | ⟨.wait player, .exited _ _⟩ => host.modify player fun old => { old with waited := true }
  | ⟨.wait player, .failed _⟩ => host.modify player fun old => { old with waited := true }
  | ⟨.startKill player, _⟩ => host.modify player fun old => { old with killed := true }
  | _ => host

/-- A process that is started is a new one. -/
def Host.Possible (host : Host) : Entry AgentHost → Prop
  | ⟨.spawn _, .ok player⟩ => player = host.length
  | _ => True

def HostStep (before : Host) (entry : Entry AgentHost) (after : Host) : Prop :=
  before.Possible entry ∧ after = before.after entry

end SpeechMesh.Model.DevicePlayers
