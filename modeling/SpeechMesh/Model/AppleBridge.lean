import Mathlib.Data.Finset.Basic
import SpeechMesh.Async.Pool

/-! # One recognition session of the Apple bridge

The bridge's state belongs to the main actor, and its frames are written by an actor of their own. A
task of the main actor runs until it awaits the writer, and others run before it goes on. Each
callback of the recogniser is handled by a task of its own, the commands by one task in order.
The session is followed from `asr.start` on. What is said of other sessions is left out.
-/

namespace SpeechMesh.Model.AppleBridge

open Async

/-- The frames that the bridge writes. All but the last two carry the session's id. -/
inductive Frame where
  | started
  | committed
  | partialText (text : String) (sequence : ℕ)
  | finalText (text : String) (sequence : ℕ)
  | error (message : String)
  | ended (reason : String)
  | invalidRequest (message : String)
  | shutdownOk
deriving DecidableEq, Repr

/-- What the recogniser reports ends up in one of these. -/
def Frame.isOutcome : Frame → Bool
  | .partialText _ _ | .finalText _ _ | .error _ => true
  | .started | .committed | .ended _ | .invalidRequest _ | .shutdownOk => false

def Frame.isEnd : Frame → Bool
  | .ended _ => true
  | _ => false

structure Recognition where
  text : String
  isFinal : Bool
deriving DecidableEq, Repr

/-- The arguments of the recogniser's handler. -/
structure Callback where
  result : Option Recognition
  error : Option String
deriving DecidableEq, Repr

/-- Something is written for the callback. -/
def Callback.hasOutcome (callback : Callback) : Bool :=
  callback.error.isSome || callback.result.isSome

/-- The commands that matter to a session that runs. -/
inductive Command where
  | commit
  | stop
  | shutdown
deriving DecidableEq, Repr

/-! ## Programs -/

/-- The blocks of the main actor between two awaits, and the writes. -/
inductive BridgeAction where
  | nextLine
  | write (frame : Frame)
  | nextSequence
  | claimEnd
  | onEnd
  | commitSession
  | stopSession
  | removeSession
  | beginShutdown

def BridgeAction.Answer : BridgeAction → Type
  | .nextLine => Option Command
  | .write _ => Unit
  | .nextSequence => ℕ
  | .claimEnd => Bool
  | .onEnd => Unit
  | .commitSession => Bool
  | .stopSession => Option Bool
  | .removeSession => Unit
  | .beginShutdown => Bool

abbrev Bridge : Signature := ⟨BridgeAction, BridgeAction.Answer⟩

abbrev Program (α : Type) : Type := Code Bridge α

def act (action : BridgeAction) : Program action.Answer := Code.perform (S := Bridge) action

/-- The tasks of the bridge. -/
inductive Procedure where
  | started
  | commands
  | callback (callback : Callback)

/-- `end`, from its guard on: the first caller gets past it. -/
def endSession (reason : String) (claimed : Bool) : Program Unit :=
  if claimed then do
    act (.write (.ended reason))
    act .onEnd
  else return ()

def handleRecognition (callback : Callback) : Program Unit :=
  match callback.error, callback.result with
  | some error, _ => do
      act (.write (.error error))
      let claimed : Bool ← act .claimEnd
      endSession "error" claimed
  | none, none => return ()
  | none, some result => do
      let sequence : ℕ ← act .nextSequence
      if result.isFinal then do
        act (.write (.finalText result.text sequence))
        let claimed : Bool ← act .claimEnd
        endSession "final" claimed
      else act (.write (.partialText result.text sequence))

/-- The end of `asrStart`: the recogniser may already call back. -/
def asrStarted : Program (Option Procedure) := do
  act (.write .started)
  return some .commands

def asrCommit (sessionId : String) : Program Unit := do
  match ← act .commitSession with
  | true => act (.write .committed)
  | false => act (.write (.invalidRequest ("session not found: " ++ sessionId)))

def asrStop (sessionId : String) : Program Unit := do
  match ← act .stopSession with
  | none => act (.write (.invalidRequest ("session not found: " ++ sessionId)))
  | some claimed => do
      endSession "stopped" claimed
      act .removeSession

/-- `cancel`, for a session that runs when the shutdown begins. -/
def cancelRunning (running : Bool) : Program Unit :=
  if running then do
    let claimed : Bool ← act .claimEnd
    endSession "shutdown" claimed
  else return ()

def shutdown : Program Unit := do
  let running : Bool ← act .beginShutdown
  cancelRunning running
  act .removeSession
  act (.write .shutdownOk)

def handle (sessionId : String) : Command → Program Unit
  | .commit => asrCommit sessionId
  | .stop => asrStop sessionId
  | .shutdown => shutdown

/-- One turn of `run`. -/
def runCommands (sessionId : String) : Program (Option Procedure) := do
  match ← act .nextLine with
  | none => return none
  | some command => do
      handle sessionId command
      return some .commands

def body (sessionId : String) : Procedure → Program (Option Procedure)
  | .started => asrStarted
  | .commands => runCommands sessionId
  | .callback callback => do
      handleRecognition callback
      return none

/-! ## The state -/

/-- The session's fields, its entry in `sessions`, the lines that were read and the frames that were
written. The last three fields only keep account: who got past the guard of `end`, whether that call
has come to its end, and the callbacks that something is still to be written for. -/
structure SessionState where
  registered : Bool := true
  ended : Bool := false
  sequence : ℕ := 0
  shouldShutdown : Bool := false
  lines : List Command := []
  inputClosed : Bool := false
  frames : List Frame := []
  ender : Option ℕ := none
  closed : Bool := false
  pending : Finset ℕ := ∅

namespace SessionState

/-- A frame is written. -/
def written (state : SessionState) (task : ℕ) (frame : Frame) : SessionState :=
  { state with
    frames := state.frames ++ [frame]
    pending := if frame.isOutcome then state.pending.erase task else state.pending }

/-- The guard of `end`, and what follows it up to the write. Cancelling the recogniser leaves its
callbacks to the environment. -/
def claim (state : SessionState) (task : ℕ) : SessionState × Bool :=
  if state.ended then (state, false)
  else ({ state with ended := true, ender := some task }, true)

def exec (task : ℕ) (state : SessionState) :
    (action : BridgeAction) → Option (SessionState × action.Answer)
  | .nextLine =>
      match state.lines with
      | command :: rest =>
          -- after a shutdown the next line ends the loop
          if state.shouldShutdown then some ({ state with lines := rest }, none)
          else some ({ state with lines := rest }, some command)
      | [] => if state.inputClosed then some (state, none) else none
  | .write frame => some (state.written task frame, ())
  | .nextSequence => some ({ state with sequence := state.sequence + 1 }, state.sequence + 1)
  | .claimEnd => some (state.claim task)
  | .onEnd => some ({ state with registered := false, closed := true }, ())
  | .commitSession => some (state, state.registered)
  | .stopSession =>
      if state.registered then
        let claimed := state.claim task
        some (claimed.1, some claimed.2)
      else some (state, none)
  | .removeSession => some ({ state with registered := false }, ())
  | .beginShutdown => some ({ state with shouldShutdown := true }, state.registered)

/-- A callback counts when it still finds the session, which it only holds weakly. -/
inductive Event where
  | callback (callback : Callback)
  | line (command : Command)
  | closeInput

def occur (size : ℕ) (state : SessionState) : Event → Option (SessionState × List Procedure)
  | .callback callback =>
      some ({ state with
        pending := if callback.hasOutcome then insert size state.pending else state.pending },
        [.callback callback])
  | .line command => some ({ state with lines := state.lines ++ [command] }, [])
  | .closeInput => some ({ state with inputClosed := true }, [])

end SessionState

/-- The session of this id, from the registration in `asrStart` on. -/
def bridge (sessionId : String) : Machine Bridge where
  State := SessionState
  Name := Procedure
  Event := SessionState.Event
  exec task _ state action := state.exec task action
  spawns _ := []
  occur size state event := state.occur size event
  body _ name := body sessionId name

def started (sessionId : String) : World (bridge sessionId) :=
  ⟨{}, [(bridge sessionId).launch .started]⟩

end SpeechMesh.Model.AppleBridge
