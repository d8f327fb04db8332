import SpeechMesh.Async.Trace
import SpeechMesh.Model.System

/-! # What a forwarder hears and queues

The trace of a forwarder task, seen from its bridge session and from the queue of its client.
-/

namespace SpeechMesh.Soundness

open Async SpeechMesh.Model

/-- The message that the action queues for the client, if the queue takes it. -/
def queuedBy (connection : ℕ) : Entry gateway → Option ServerMessage
  | ⟨.sendClient receiver message, taken⟩ =>
      let taken : Bool := taken
      if receiver = connection ∧ taken = true then some message else none
  | _ => none

def queued (connection : ℕ) (trace : Trace gateway) : List ServerMessage :=
  trace.filterMap (queuedBy connection)

/-- The event of the ASR session that the action receives. -/
def asrHeardBy (sessionId : SessionId) : Entry gateway → Option BridgeAsrEvent
  | ⟨.asr owner .receiveEvent, event⟩ => if owner = sessionId then event else none
  | _ => none

def asrHeard (sessionId : SessionId) (trace : Trace gateway) : List BridgeAsrEvent :=
  trace.filterMap (asrHeardBy sessionId)

/-- The event of the TTS session that the action receives. -/
def ttsHeardBy (sessionId : SessionId) : Entry gateway → Option BridgeTtsEvent
  | ⟨.tts owner .receiveEvent, event⟩ => if owner = sessionId then event else none
  | _ => none

def ttsHeard (sessionId : SessionId) (trace : Trace gateway) : List BridgeTtsEvent :=
  trace.filterMap (ttsHeardBy sessionId)

variable {connection : ℕ} {sessionId : SessionId}

theorem filterMap_snoc {α β : Type} (observe : α → Option β) (trace : List α) (entry : α) :
    (trace ++ [entry]).filterMap observe = trace.filterMap observe ++ (observe entry).toList := by
  rw [List.filterMap_append, List.filterMap_cons]
  cases observe entry <;> rfl

theorem queued_snoc (trace : Trace gateway) (entry : Entry gateway) :
    queued connection (trace ++ [entry]) =
      queued connection trace ++ (queuedBy connection entry).toList := filterMap_snoc ..

theorem asrHeard_snoc (trace : Trace gateway) (entry : Entry gateway) :
    asrHeard sessionId (trace ++ [entry]) =
      asrHeard sessionId trace ++ (asrHeardBy sessionId entry).toList := filterMap_snoc ..

theorem ttsHeard_snoc (trace : Trace gateway) (entry : Entry gateway) :
    ttsHeard sessionId (trace ++ [entry]) =
      ttsHeard sessionId trace ++ (ttsHeardBy sessionId entry).toList := filterMap_snoc ..

@[simp] theorem queuedBy_taken (message : ServerMessage) :
    queuedBy connection ⟨.sendClient connection message, true⟩ = some message :=
  if_pos ⟨rfl, rfl⟩

@[simp] theorem queuedBy_refused (message : ServerMessage) :
    queuedBy connection ⟨.sendClient connection message, false⟩ = none :=
  if_neg fun both => Bool.noConfusion both.2

@[simp] theorem asrHeardBy_receive (event : Option BridgeAsrEvent) :
    asrHeardBy sessionId ⟨.asr sessionId .receiveEvent, event⟩ = event := if_pos rfl

@[simp] theorem ttsHeardBy_receive (event : Option BridgeTtsEvent) :
    ttsHeardBy sessionId ⟨.tts sessionId .receiveEvent, event⟩ = event := if_pos rfl

end SpeechMesh.Soundness
