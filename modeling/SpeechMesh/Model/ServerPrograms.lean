import Mathlib.Algebra.Order.Floor.Div
import SpeechMesh.Model.AgentPrograms

/-! # The gateway's server side

The tasks of a control connection and of a client connection, and the forwarders that relay the
events of a bridge session to a client.
-/

namespace SpeechMesh.Model

open Async

/-! ## Control connections -/

/-- `slice::chunks`. -/
def chunks (size : ℕ) (bytes : Bytes) : List Bytes := go bytes.length bytes
where
  go : ℕ → Bytes → List Bytes
    | 0, _ => []
    | _ + 1, [] => []
    | fuel + 1, rest => rest.take size :: go fuel (rest.drop size)

variable {size : ℕ}
private theorem flatten_go (positive : 0 < size) {fuel : ℕ} {rest : Bytes}
    (enough : rest.length ≤ fuel) : (chunks.go size fuel rest).flatten = rest := by
  induction fuel generalizing rest with
  | zero =>
    have empty : rest = [] := List.length_eq_zero_iff.mp (by omega)
    simp [chunks.go, empty]
  | succ fuel ih =>
    cases rest with
    | nil => rfl
    | cons first more =>
      have shorter : ((first :: more).drop size).length ≤ fuel := by
        simp only [List.length_drop, List.length_cons] at enough ⊢
        omega
      rw [chunks.go, List.flatten_cons, ih shorter, List.take_append_drop]
      nofun

/-- The chunks put together are the bytes. -/
theorem chunks_flatten (positive : 0 < size) (bytes : Bytes) : (chunks size bytes).flatten = bytes :=
  flatten_go positive le_rfl

private theorem length_go (positive : 0 < size) {fuel : ℕ} {rest : Bytes}
    (enough : rest.length ≤ fuel) : (chunks.go size fuel rest).length = rest.length ⌈/⌉ size := by
  induction fuel generalizing rest with
  | zero =>
    have empty : rest = [] := List.length_eq_zero_iff.mp (by omega)
    simp [chunks.go, empty]
  | succ fuel ih =>
    cases rest with
    | nil => simp [chunks.go]
    | cons first more =>
      have shorter : ((first :: more).drop size).length ≤ fuel := by
        simp only [List.length_drop, List.length_cons] at enough ⊢
        omega
      rw [chunks.go, List.length_cons, ih shorter, List.length_drop]
      · simp only [Nat.ceilDiv_eq_add_pred_div]
        rcases Nat.lt_or_ge size (first :: more).length with longer | last
        · have split : (first :: more).length + size - 1 =
              (first :: more).length - size + size - 1 + size := by omega
          rw [split, Nat.add_div_right _ positive]
        · have none_left : (first :: more).length - size = 0 := by omega
          have one : ((first :: more).length + size - 1) / size = 1 := by
            rw [Nat.div_eq_iff positive]
            simp only [List.length_cons] at last ⊢
            omega
          rw [none_left, one, Nat.zero_add, Nat.div_eq_of_lt (by omega)]
      · nofun

/-- There are as many chunks as it takes. -/
theorem chunks_length (positive : 0 < size) (bytes : Bytes) :
    (chunks size bytes).length = bytes.length ⌈/⌉ size :=
  length_go positive le_rfl

/-- The effective chunk size of a request. -/
def ControlPlayAudioPayload.chunkSize (payload : ControlPlayAudioPayload) : ℕ :=
  (payload.chunkSizeBytes.filter (0 < ·)).getD (16 * 1024)

theorem ControlPlayAudioPayload.chunkSize_pos (payload : ControlPlayAudioPayload) :
    0 < payload.chunkSize := by
  unfold chunkSize
  cases given : payload.chunkSizeBytes.filter (0 < ·) with
  | none => simp
  | some size =>
    have positive := (Option.filter_eq_some_iff.mp given).2
    simpa using positive

/-- The task id a request gives, if it gives one. -/
def ControlPlayAudioPayload.givenTaskId (payload : ControlPlayAudioPayload) : Option String :=
  (payload.taskId.map trim).filter (· ≠ "")

/-- The audio of a request, decoded and not empty. -/
def ControlPlayAudioPayload.audio (base64 : Base64) (payload : ControlPlayAudioPayload) :
    Except BridgeError Bytes :=
  match base64.decode payload.audioBase64 with
  | .error error => .error (.protocol ("invalid audio_base64 payload: " ++ error))
  | .ok [] => .error (.protocol "play_audio payload is empty")
  | .ok bytes => .ok bytes

def sendControlMessage (response : ControlResponse) : Program (Except BridgeError Unit) := do
  match ← perform (.control (.send response)) with
  | true => return .ok ()
  | false => return .error (.io "control write failed")

def sendControlError (message : String) : Program (Except BridgeError Unit) :=
  sendControlMessage (.error message)

/-- The task id a request is served under. -/
def controlTaskId (payload : ControlPlayAudioPayload) : Program String :=
  match payload.givenTaskId with
  | some taskId => return taskId
  | none => perform (.control .nextControlTaskId)

theorem trim_givenTaskId {payload : ControlPlayAudioPayload} {taskId : String}
    (given : payload.givenTaskId = some taskId) : trim taskId = taskId := by
  obtain ⟨trimmed, _⟩ := Option.filter_eq_some_iff.mp given
  obtain ⟨text, _, rfl⟩ := Option.map_eq_some_iff.mp trimmed
  exact trim_trim text

/-- A generated task id has no blanks around it. -/
theorem trim_generatedTaskId (number : ℕ) :
    trim ("play-audio-" ++ toString number) = "play-audio-" ++ toString number := by
  have letters : "play-audio-".toList =
      ['p', 'l', 'a', 'y', '-', 'a', 'u', 'd', 'i', 'o', '-'] := rfl
  have plain : ∀ c ∈ "play-audio-".toList, isWhitespace c = false := by
    rw [letters]
    simp only [List.forall_mem_cons]
    exact ⟨rfl, rfl, rfl, rfl, rfl, rfl, rfl, rfl, rfl, rfl, rfl, nofun⟩
  have visible : ∀ c ∈ ("play-audio-" ++ toString number).toList, isWhitespace c = false := by
    intro c member
    rw [String.toList_append, List.mem_append] at member
    rcases member with fixed | digit
    · exact plain c fixed
    · apply isWhitespace_of_isDigit
      rw [Nat.toString_eq_repr, Nat.repr, String.toList_ofList] at digit
      exact Nat.isDigit_of_mem_toDigits (by decide) (by decide) digit
  exact trim_eq_self (fun c first => visible c (List.mem_of_mem_head? first))
    fun c last => visible c (List.mem_of_getLast? last)

/-- Send the chunks one after the other, up to the first that cannot be delivered. -/
def sendChunks (base64 : Base64) (taskId : String) : List Bytes → Program (Except BridgeError Unit)
  | [] => return .ok ()
  | chunk :: rest => do
      match ← routePlayAudioChunk taskId (base64.encode chunk) with
      | .error error => return .error error
      | .ok () => sendChunks base64 taskId rest

/-- Await the device's verdict. -/
def awaitPlayback (taskId : String) (taskWaiter : ℕ) : Program (Except BridgeError Unit) := do
  match ← perform (.awaitTask taskWaiter) with
  | .value (.ok _) => return .ok ()
  | .value (.error error) => return .error error
  | .dropped =>
      return .error (.disconnected
        ("task waiter dropped before playback completed: " ++ taskId))
  | .elapsed => do
      locked (.removeTaskWaiter taskId)
      return .error (.unavailable
        ("timed out waiting for playback completion: " ++ taskId))

/-- The part of `handle_control_play_audio` after the device agent accepted the start. -/
def playChunks (base64 : Base64) (taskId : String) (taskWaiter : ℕ) (audio : List Bytes) :
    Program (Except BridgeError Unit) := do
  match ← sendChunks base64 taskId audio with
  | .error error => return .error error
  | .ok () =>
      match ← routePlayAudioFinish taskId with
      | .error error => return .error error
      | .ok () => awaitPlayback taskId taskWaiter

/-- The part of `handle_control_play_audio` after the audio was decoded. -/
def playAudioTask (config : GatewayConfig) (payload : ControlPlayAudioPayload) (taskId : String)
    (bytes : Bytes) : Program (Except BridgeError Unit) := do
  let taskWaiter : ℕ ← locked (.subscribeTaskWaiter taskId)
  match ← routePlayAudioStart
      ⟨taskId, payload.deviceId, payload.outputTarget, payload.agentId, payload.format⟩ with
  | .error error => do
      locked (.removeTaskWaiter taskId)
      return .error error
  | .ok routedAgentId => do
      let audio := chunks payload.chunkSize bytes
      match ← playChunks config.base64 taskId taskWaiter audio with
      | .error error => return .error error
      | .ok () =>
          sendControlMessage
            (.playAudioAccepted ⟨taskId, routedAgentId, audio.length, bytes.length⟩)

def handleControlPlayAudio (config : GatewayConfig) (payload : ControlPlayAudioPayload) :
    Program (Except BridgeError Unit) := do
  let taskId ← controlTaskId payload
  perform (.mark (.playAudioCalled taskId))
  match payload.audio config.base64 with
  | .error error => return .error error
  | .ok bytes => playAudioTask config payload taskId bytes

def playAudio (config : GatewayConfig) (payload : ControlPlayAudioPayload) :
    Program (Option Procedure) := do
  let result ← handleControlPlayAudio config payload
  perform (.mark .playAudioReturned)
  return some (.controlReply result)

def handleControlDevicesList : Program (Except BridgeError Unit) := do
  let agents : List RegisteredAgent ← locked (.snapshot {})
  sendControlMessage (.devicesList (agents.map RegisteredAgent.toSnapshot))

def handleControlAgentStatus (payload : ControlAgentStatusPayload) :
    Program (Except BridgeError Unit) := do
  let agents : List RegisteredAgent ← locked (.snapshot ⟨payload.agentId, payload.deviceId⟩)
  sendControlMessage (.agentStatus (agents.getLast?.map RegisteredAgent.toSnapshot))

/-- The connection ends when a reply cannot be written. -/
def afterReply : Except BridgeError Unit → Option Procedure
  | .ok () => some .controlLoop
  | .error _ => some .returned

def controlReply : Except BridgeError Unit → Program (Option Procedure)
  | .ok () => return some .controlLoop
  | .error error => do
      let sent ← sendControlError error.toText
      return afterReply sent

def controlLoop : Program (Option Procedure) := do
  match ← perform (.control .nextFrame) with
  | .ended => return some .returned
  | .failed _ => return some .returned
  | .text (.ok (.playAudio payload)) => return some (.playAudio payload)
  | .text (.ok .devicesList) => do
      let result ← handleControlDevicesList
      return some (.controlReply result)
  | .text (.ok (.agentStatus payload)) => do
      let result ← handleControlAgentStatus payload
      return some (.controlReply result)
  | .text (.error error) => do
      let sent ← sendControlError ("invalid control payload: " ++ error)
      return afterReply sent
  | .ping _ => do
      let sent ← sendControlMessage .pong
      return afterReply sent
  | .binary _ => do
      let sent ← sendControlError "binary frames are unsupported on /control"
      return afterReply sent
  | .close => return some .returned
  | .pong => return some .controlLoop

end SpeechMesh.Model
