import SpeechMesh.Model.State

/-! # The device agent

One run of `run_once`: the handshake, the frame loop, and the playback tasks. The tracker is a local
variable of the run; it is read and written by actions so that statements can mention it.
-/

namespace SpeechMesh.Model

open Async

/-- Sending fails when the writer is gone, and ends the run. -/
def deviceSend (message : AgentToGatewayMessage) : Program (Except String Unit) := do
  match ← perform (.device (.send message)) with
  | true => return .ok ()
  | false => return .error "agent writer channel closed"

def sendTaskStatus (taskId : String) (state : AgentTaskState) (message : String) :
    Program (Except String Unit) :=
  deviceSend (.taskStatus taskId ⟨state, some message⟩)

/-- `finish_failed_task`: the player is stopped, and the failure reported. -/
def finishFailedTask (tracker : TaskTracker) (taskId reason : String) :
    Program (Except String Unit) := do
  perform (.device (.setTaskTracker
    { tracker with playAudioTasks := tracker.playAudioTasks.erase taskId }))
  sendTaskStatus taskId .failed reason

def deviceStart (taskId : String) (format : Option AudioFormat) :
    Program (Except String Unit) := do
  let tracker : TaskTracker ← perform (.device .taskTracker)
  match tracker.playAudioTasks.lookup taskId with
  | some _ => sendTaskStatus taskId .failed "duplicate play_audio task.start"
  | none =>
      match ← perform (.device (.startPlayer format)) with
      | .ok () => do
          perform (.device (.setTaskTracker
            { playAudioTasks := tracker.playAudioTasks.insert taskId {}
              failedPlayAudioStarts := tracker.failedPlayAudioStarts.erase taskId }))
          sendTaskStatus taskId .started "play_audio started with local default output"
      | .error error => do
          perform (.device (.setTaskTracker
            { tracker with
              failedPlayAudioStarts := insert taskId tracker.failedPlayAudioStarts }))
          sendTaskStatus taskId .failed ("failed to start local playback: " ++ error)

def deviceChunk (base64 : Base64) (taskId dataBase64 : String) :
    Program (Except String Unit) := do
  let tracker : TaskTracker ← perform (.device .taskTracker)
  match tracker.playAudioTasks.lookup taskId with
  | some task =>
      match base64.decode dataBase64 with
      | .error error =>
          finishFailedTask tracker taskId ("invalid play_audio chunk base64: " ++ error)
      | .ok bytes =>
          match ← perform (.device (.writePlayer bytes)) with
          | .error error =>
              finishFailedTask tracker taskId
                ("failed writing audio chunk to player stdin: " ++ error)
          | .ok () => do
              let written : PlaybackTask :=
                ⟨task.chunkCount + 1, task.byteCount + bytes.length, task.written ++ bytes⟩
              perform (.device (.setTaskTracker
                { tracker with playAudioTasks := tracker.playAudioTasks.insert taskId written }))
              return .ok ()
  | none =>
      -- only a start that failed silences what follows it
      if taskId ∈ tracker.failedPlayAudioStarts then return .ok ()
      else sendTaskStatus taskId .failed "chunk received before task.start"

/-- The panic of `summarize_stderr`, which ends the run as an error does. -/
def summaryPanic : String := "byte index 240 is not a char boundary"

def deviceFinish (taskId : String) : Program (Except String Unit) := do
  let tracker : TaskTracker ← perform (.device .taskTracker)
  perform (.device (.setTaskTracker
    { playAudioTasks := tracker.playAudioTasks.erase taskId
      failedPlayAudioStarts := tracker.failedPlayAudioStarts.erase taskId }))
  match tracker.playAudioTasks.lookup taskId with
  | some task =>
      match ← perform (.device .waitPlayer) with
      | .succeeded =>
          sendTaskStatus taskId .finished
            ("play_audio finished (chunks=" ++ toString task.chunkCount ++ ", bytes=" ++
              toString task.byteCount ++ ")")
      | .failed failure stderr =>
          match finishFailureMessage failure stderr with
          | some message => sendTaskStatus taskId .failed message
          | none => return .error summaryPanic
  | none =>
      if taskId ∈ tracker.failedPlayAudioStarts then return .ok ()
      else sendTaskStatus taskId .failed "finish received before task.start"

def unsupportedSession (sessionId : SessionId) : Program (Except String Unit) :=
  deviceSend (.error (some sessionId) "session command unsupported by runtime skeleton")

def handleGatewayMessage (base64 : Base64) : GatewayToAgentMessage → Program (Except String Unit)
  | .helloOk _ => return .ok ()
  | .ping => deviceSend .pong
  | .sessionStart sessionId _ => do
      match ← deviceSend (.error (some sessionId) "device task handling is not implemented yet") with
      | .error error => return .error error
      | .ok () => deviceSend (.sessionEnded sessionId (some "not_implemented"))
  | .sessionAudio sessionId _ => unsupportedSession sessionId
  | .sessionCommit sessionId => unsupportedSession sessionId
  | .sessionStop sessionId => unsupportedSession sessionId
  | .taskPlayAudioStart taskId format => deviceStart taskId format
  | .taskPlayAudioChunk taskId dataBase64 => deviceChunk base64 taskId dataBase64
  | .taskPlayAudioFinish taskId => deviceFinish taskId

/-- A closed writer ends the run, otherwise the loop goes on. -/
def deviceGoesOn : Except String Unit → Option Procedure
  | .ok () => some .deviceLoop
  | .error _ => some .returned

/-- `abort_all_playback_tasks`, after the loop. -/
def deviceTeardown : Program (Option Procedure) := do
  let tracker : TaskTracker ← perform (.device .taskTracker)
  perform (.device (.setTaskTracker { tracker with playAudioTasks := ∅ }))
  return some .returned

def deviceMessage (base64 : Base64) (message : GatewayToAgentMessage) :
    Program (Option Procedure) := do
  let result ← handleGatewayMessage base64 message
  return deviceGoesOn result

def deviceHello (hello : AgentHelloPayload) : Program (Option Procedure) := do
  match ← deviceSend (.hello hello) with
  | .ok () => return some .deviceWait
  | .error _ => return some .returned

/-- `wait_hello_ok` drops whatever comes before the `hello.ok`. -/
def deviceWait : Program (Option Procedure) := do
  match ← perform (.device .nextInput) with
  | .frame (.text (.ok (.helloOk _))) => return some .deviceLoop
  | .frame (.text (.ok _)) => return some .deviceWait
  | .frame (.text (.error _)) | .frame (.failed _) | .frame .close | .frame .ended =>
      return some .returned
  | .frame (.ping _) | .frame .pong | .frame (.binary _) | .heartbeat _ => return some .deviceWait

def deviceLoop : Program (Option Procedure) := do
  match ← perform (.device .nextInput) with
  | .frame (.text (.ok message)) => return some (.deviceMessage message)
  | .frame (.text (.error _)) | .frame (.failed _) => return some .returned
  | .frame (.ping _) => do
      let result ← deviceSend .pong
      return deviceGoesOn result
  | .frame .close | .frame .ended => deviceTeardown
  | .frame .pong | .frame (.binary _) => return some .deviceLoop
  | .heartbeat true => deviceTeardown
  | .heartbeat false => do
      match ← deviceSend .pong with
      | .ok () => return some .deviceLoop
      | .error _ => deviceTeardown

end SpeechMesh.Model
