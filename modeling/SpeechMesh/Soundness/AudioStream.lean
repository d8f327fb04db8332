import Mathlib.Data.List.Range
import SpeechMesh.Soundness.ForwarderTraces

/-! # The audio of a TTS session

The forwarder of a TTS session numbers the chunks of its bridge, reports its errors, and closes the
stream at the first end with the totals.
-/

namespace SpeechMesh.Soundness

open Async SpeechMesh.Model

/-! ## What a stream of audio looks like -/

def chunkOf : BridgeTtsEvent → Option AudioChunk
  | .audio chunk => some chunk
  | .ended _ | .error _ => none

/-- The chunks among the events of a bridge. -/
def audioChunks (events : List BridgeTtsEvent) : List AudioChunk := events.filterMap chunkOf

def spokenBytes (events : List BridgeTtsEvent) : Bytes :=
  ((audioChunks events).map AudioChunk.bytes).flatten

theorem audioChunks_audio (chunk : AudioChunk) (rest : List BridgeTtsEvent) :
    audioChunks (.audio chunk :: rest) = chunk :: audioChunks rest := rfl

theorem spokenBytes_audio (chunk : AudioChunk) (rest : List BridgeTtsEvent) :
    spokenBytes (.audio chunk :: rest) = chunk.bytes ++ spokenBytes rest := rfl

def deltaOf : ServerMessage → Option (ℕ × TtsAudioDeltaPayload)
  | .ttsAudioDelta _ sequence payload => some (sequence, payload)
  | _ => none

def deltas (messages : List ServerMessage) : List (ℕ × TtsAudioDeltaPayload) :=
  messages.filterMap deltaOf

def isAudioDone : ServerMessage → Bool
  | .ttsAudioDone .. => true
  | _ => false

def isSessionEnded : ServerMessage → Bool
  | .sessionEnded .. => true
  | _ => false

/-- The message closes a stream of audio. -/
def closes (message : ServerMessage) : Bool := isAudioDone message || isSessionEnded message

def isErrorMessage : ServerMessage → Bool
  | .error .. => true
  | _ => false

/-- The messages for a list of events, from the given sequence number and totals on. -/
structure AudioStream (base64 : Base64) (sessionId : SessionId) (inputKind : SynthesisInputKind)
    (sequence totalChunks totalBytes : ℕ) (events : List BridgeTtsEvent)
    (messages : List ServerMessage) : Prop where
  owned : ∀ message ∈ messages, message.sessionId? = some sessionId
  chunkIds : (deltas messages).map (fun delta => delta.2.chunkId) =
    List.range' (totalChunks + 1) (audioChunks events).length
  sequences : (deltas messages).map Prod.fst =
    List.range' (sequence + 1) (audioChunks events).length
  payloads : (deltas messages).map (fun delta => base64.decode delta.2.audioBase64) =
    (audioChunks events).map fun chunk => .ok chunk.bytes
  unclosed : (∀ reason, BridgeTtsEvent.ended reason ∉ events) →
    ∀ message ∈ messages, closes message = false
  closed : ∀ front reason, (∀ reason, BridgeTtsEvent.ended reason ∉ front) →
    events = front ++ [.ended reason] → ∃ before,
      messages = before ++ [.ttsAudioDone sessionId (sequence + (audioChunks events).length + 1)
          ⟨inputKind, totalChunks + (audioChunks events).length,
            totalBytes + (spokenBytes events).length⟩,
        .sessionEnded sessionId reason] ∧
      ∀ message ∈ before, closes message = false

/-! ## The messages for a list of events -/

/-- The counters of the forwarder. -/
structure TtsRelay where
  sequence : ℕ := 0
  totalChunks : ℕ := 0
  totalBytes : ℕ := 0

namespace TtsRelay

variable (base64 : Base64) (sessionId : SessionId) (inputKind : SynthesisInputKind)

def replies (relay : TtsRelay) : BridgeTtsEvent → List ServerMessage
  | .audio chunk => [.ttsAudioDelta sessionId (relay.sequence + 1)
      ⟨relay.totalChunks + 1, base64.encode chunk.bytes, chunk.isFinal, chunk.format⟩]
  | .ended reason => [.ttsAudioDone sessionId (relay.sequence + 1)
      ⟨inputKind, relay.totalChunks, relay.totalBytes⟩, .sessionEnded sessionId reason]
  | .error message => [providerError sessionId message]

def next (relay : TtsRelay) : BridgeTtsEvent → TtsRelay
  | .audio chunk =>
      ⟨relay.sequence + 1, relay.totalChunks + 1, relay.totalBytes + chunk.bytes.length⟩
  | .ended _ | .error _ => relay

def messages : TtsRelay → List BridgeTtsEvent → List ServerMessage
  | _, [] => []
  | relay, event :: rest =>
      relay.replies base64 sessionId inputKind event ++ messages (relay.next event) rest

theorem messages_concat (relay : TtsRelay) (events : List BridgeTtsEvent) (event : BridgeTtsEvent) :
    relay.messages base64 sessionId inputKind (events ++ [event]) =
      relay.messages base64 sessionId inputKind events ++
        (events.foldl next relay).replies base64 sessionId inputKind event := by
  induction events generalizing relay with
  | nil => exact List.append_nil _
  | cons first rest ih =>
    rw [List.cons_append, messages, ih, messages, List.append_assoc, List.foldl_cons]

/-- The counters count the chunks and their bytes. -/
theorem foldl_next (relay : TtsRelay) (events : List BridgeTtsEvent) :
    events.foldl next relay = ⟨relay.sequence + (audioChunks events).length,
      relay.totalChunks + (audioChunks events).length,
      relay.totalBytes + (spokenBytes events).length⟩ := by
  induction events generalizing relay with
  | nil => rfl
  | cons event rest ih =>
    rw [List.foldl_cons, ih]
    cases event with
    | audio chunk =>
      rw [next, audioChunks_audio, spokenBytes_audio, List.length_cons, List.length_append,
        mk.injEq]
      refine ⟨?_, ?_, ?_⟩ <;> dsimp only <;> omega
    | ended reason => rfl
    | error message => rfl

variable {base64 sessionId inputKind}

theorem mem_messages {relay : TtsRelay} {events : List BridgeTtsEvent} {message : ServerMessage}
    (member : message ∈ relay.messages base64 sessionId inputKind events) :
    ∃ event ∈ events, ∃ relay : TtsRelay,
      message ∈ relay.replies base64 sessionId inputKind event := by
  induction events generalizing relay with
  | nil => cases member
  | cons event rest ih =>
    rcases List.mem_append.mp member with first | later
    · exact ⟨event, List.mem_cons_self, relay, first⟩
    · obtain ⟨event, known, relay, replied⟩ := ih later
      exact ⟨event, List.mem_cons_of_mem _ known, relay, replied⟩

theorem owned_of_mem_replies {relay : TtsRelay} {event : BridgeTtsEvent} {message : ServerMessage}
    (member : message ∈ relay.replies base64 sessionId inputKind event) :
    message.sessionId? = some sessionId := by
  cases event with
  | audio chunk => rw [List.mem_singleton.mp member, ServerMessage.sessionId?]
  | ended reason =>
    rcases List.mem_pair.mp member with rfl | rfl
    · rw [ServerMessage.sessionId?]
    · rw [ServerMessage.sessionId?]
  | error text => rw [List.mem_singleton.mp member, providerError, ServerMessage.sessionId?]

/-- Only an end is answered by closing messages. -/
theorem ended_of_closes {relay : TtsRelay} {event : BridgeTtsEvent} {message : ServerMessage}
    (member : message ∈ relay.replies base64 sessionId inputKind event)
    (closing : closes message = true) : ∃ reason, event = .ended reason := by
  cases event with
  | audio chunk =>
    rw [List.mem_singleton.mp member] at closing
    cases closing
  | ended reason => exact ⟨reason, rfl⟩
  | error text =>
    rw [List.mem_singleton.mp member] at closing
    cases closing

theorem unclosed {relay : TtsRelay} {events : List BridgeTtsEvent}
    (open_ : ∀ reason, BridgeTtsEvent.ended reason ∉ events) (message : ServerMessage)
    (member : message ∈ relay.messages base64 sessionId inputKind events) :
    closes message = false := by
  obtain ⟨event, known, relay, replied⟩ := mem_messages member
  rw [Bool.eq_false_iff]
  intro closing
  obtain ⟨reason, rfl⟩ := ended_of_closes replied closing
  exact open_ reason known

theorem deltas_messages_cons (relay : TtsRelay) (event : BridgeTtsEvent)
    (rest : List BridgeTtsEvent) :
    deltas (relay.messages base64 sessionId inputKind (event :: rest)) =
      deltas (relay.replies base64 sessionId inputKind event) ++
        deltas ((relay.next event).messages base64 sessionId inputKind rest) :=
  List.filterMap_append

theorem stream (lawful : ∀ bytes, base64.decode (base64.encode bytes) = .ok bytes)
    (relay : TtsRelay) (events : List BridgeTtsEvent) :
    AudioStream base64 sessionId inputKind relay.sequence relay.totalChunks relay.totalBytes events
      (relay.messages base64 sessionId inputKind events) where
  owned := by
    intro message member
    obtain ⟨_, _, _, replied⟩ := mem_messages member
    exact owned_of_mem_replies replied
  chunkIds := by
    induction events generalizing relay with
    | nil => rfl
    | cons event rest ih =>
      rw [deltas_messages_cons, List.map_append, ih]
      cases event <;> rfl
  sequences := by
    induction events generalizing relay with
    | nil => rfl
    | cons event rest ih =>
      rw [deltas_messages_cons, List.map_append, ih]
      cases event <;> rfl
  payloads := by
    induction events generalizing relay with
    | nil => rfl
    | cons event rest ih =>
      rw [deltas_messages_cons, List.map_append, ih]
      cases event with
      | audio chunk =>
        have decoded := lawful chunk.bytes
        exact congrArg (· :: _) decoded
      | ended reason => rfl
      | error message => rfl
  unclosed := unclosed
  closed := by
    rintro front reason open_ rfl
    refine ⟨relay.messages base64 sessionId inputKind front, ?_, unclosed open_⟩
    have chunks : audioChunks (front ++ [.ended reason]) = audioChunks front := by
      rw [audioChunks, List.filterMap_append]
      exact List.append_nil _
    have bytes : spokenBytes (front ++ [.ended reason]) = spokenBytes front := by
      rw [spokenBytes, chunks, spokenBytes]
    rw [messages_concat, foldl_next, chunks, bytes]
    rfl

end TtsRelay

/-! ## Every run of the forwarder -/

section Runs

variable {base64 : Base64} {connection : ℕ} {sessionId : SessionId}
  {inputKind : SynthesisInputKind} {trace : Trace gateway} {events : List BridgeTtsEvent}
  {messages : List ServerMessage}

/-- What the forwarder has heard and what it has queued. -/
structure TtsSeen (connection : ℕ) (sessionId : SessionId) (trace : Trace gateway)
    (events : List BridgeTtsEvent) (messages : List ServerMessage) : Prop where
  heard : ttsHeard sessionId trace = events
  queued : queued connection trace = messages

theorem TtsSeen.hears (seen : TtsSeen connection sessionId trace events messages)
    (event : Option BridgeTtsEvent) :
    TtsSeen connection sessionId (trace ++ [⟨.tts sessionId .receiveEvent, event⟩])
      (events ++ event.toList) messages := by
  refine ⟨?_, ?_⟩
  · rw [ttsHeard_snoc, ttsHeardBy_receive, seen.heard]
  · rw [queued_snoc, seen.queued]
    exact List.append_nil messages

theorem TtsSeen.queues (seen : TtsSeen connection sessionId trace events messages)
    (message : ServerMessage) :
    TtsSeen connection sessionId (trace ++ [⟨.sendClient connection message, true⟩]) events
      (messages ++ [message]) := by
  refine ⟨?_, ?_⟩
  · rw [ttsHeard_snoc, seen.heard]
    exact List.append_nil events
  · rw [queued_snoc, queuedBy_taken, seen.queued]
    rfl

theorem TtsSeen.refused (seen : TtsSeen connection sessionId trace events messages)
    (message : ServerMessage) :
    TtsSeen connection sessionId (trace ++ [⟨.sendClient connection message, false⟩]) events
      messages := by
  refine ⟨?_, ?_⟩
  · rw [ttsHeard_snoc, seen.heard]
    exact List.append_nil events
  · rw [queued_snoc, queuedBy_refused, seen.queued]
    exact List.append_nil messages

theorem TtsSeen.closes (seen : TtsSeen connection sessionId trace events messages) :
    TtsSeen connection sessionId (trace ++ [⟨.tts sessionId .closeEvents, ()⟩]) events
      messages := by
  refine ⟨?_, ?_⟩
  · rw [ttsHeard_snoc, seen.heard]
    exact List.append_nil events
  · rw [queued_snoc, seen.queued]
    exact List.append_nil messages

/-- Nothing is heard after an end. -/
def EndHeardLast (events : List BridgeTtsEvent) : Prop :=
  ∀ front reason rest, events = front ++ .ended reason :: rest → rest = []

theorem EndHeardLast.concat (open_ : ∀ reason, BridgeTtsEvent.ended reason ∉ events)
    (event : BridgeTtsEvent) : EndHeardLast (events ++ [event]) := by
  intro front reason rest whole
  cases rest using List.reverseRecOn with
  | nil => rfl
  | append_singleton rest other =>
    rw [← List.cons_append, ← List.append_assoc] at whole
    obtain ⟨same, -⟩ := List.append_inj' whole rfl
    exact absurd (same ▸ List.mem_append_right front List.mem_cons_self) (open_ reason)

/-- Some message for the client was refused. -/
def ClientRefused (connection : ℕ) (trace : Trace gateway) : Prop :=
  ∃ message, (⟨.sendClient connection message, false⟩ : Entry gateway) ∈ trace

theorem ClientRefused.snoc (message : ServerMessage) :
    ClientRefused connection (trace ++ [⟨.sendClient connection message, false⟩]) :=
  ⟨message, List.mem_append_right _ List.mem_cons_self⟩

theorem ClientRefused.later (refused : ClientRefused connection trace) (entry : Entry gateway) :
    ClientRefused connection (trace ++ [entry]) := by
  obtain ⟨message, member⟩ := refused
  exact ⟨message, List.mem_append_left _ member⟩

/-- What is queued are the first of the messages for the events that were heard. -/
structure TtsForwarded (base64 : Base64) (connection : ℕ) (sessionId : SessionId)
    (inputKind : SynthesisInputKind) (trace : Trace gateway) : Prop where
  once : EndHeardLast (ttsHeard sessionId trace)
  queued : queued connection trace <+:
    TtsRelay.messages base64 sessionId inputKind {} (ttsHeard sessionId trace)

/-- Every message for the events is queued, and no end was heard. -/
structure TtsRelayed (base64 : Base64) (connection : ℕ) (sessionId : SessionId)
    (inputKind : SynthesisInputKind) (relay : TtsRelay) (trace : Trace gateway)
    (events : List BridgeTtsEvent) : Prop where
  seen : TtsSeen connection sessionId trace events
    (TtsRelay.messages base64 sessionId inputKind {} events)
  relay : relay = events.foldl TtsRelay.next {}
  open_ : ∀ reason, BridgeTtsEvent.ended reason ∉ events

theorem TtsSeen.forwarded (seen : TtsSeen connection sessionId trace events messages)
    (once : EndHeardLast events)
    (queued : messages <+: TtsRelay.messages base64 sessionId inputKind {} events) :
    TtsForwarded base64 connection sessionId inputKind trace := by
  refine ⟨?_, ?_⟩
  · rw [seen.heard]
    exact once
  · rw [seen.heard, seen.queued]
    exact queued

theorem EndHeardLast.open (open_ : ∀ reason, BridgeTtsEvent.ended reason ∉ events) :
    EndHeardLast events := by
  intro front reason rest whole
  exact absurd (whole ▸ List.mem_append_right front List.mem_cons_self) (open_ reason)

/-- How a forwarder ends: with a refused message, or with everything queued. -/
def TtsFinished (base64 : Base64) (connection : ℕ) (sessionId : SessionId)
    (inputKind : SynthesisInputKind) (trace : Trace gateway) (_ : Unit) : Prop :=
  TtsForwarded base64 connection sessionId inputKind trace ∧
    (ClientRefused connection trace ∨ queued connection trace =
      TtsRelay.messages base64 sessionId inputKind {} (ttsHeard sessionId trace))

/-- The forwarder is between two events. -/
def TtsForwarding (base64 : Base64) (connection : ℕ) (sessionId : SessionId)
    (inputKind : SynthesisInputKind) (procedure : Procedure) (trace : Trace gateway) (_ : Unit) :
    Prop :=
  ∃ relay events, procedure = .ttsForwarder connection sessionId inputKind relay.sequence
      relay.totalChunks relay.totalBytes ∧
    TtsRelayed base64 connection sessionId inputKind relay trace events

/-- Closing the events ends the task. -/
theorem TtsSeen.finish (seen : TtsSeen connection sessionId trace events messages)
    (once : EndHeardLast events)
    (queued : messages <+: TtsRelay.messages base64 sessionId inputKind {} events)
    (complete : ClientRefused connection trace ∨
      messages = TtsRelay.messages base64 sessionId inputKind {} events) :
    (ttsForwarder.finish sessionId).Ensures AnyStep
      (fun trace _ => TtsForwarded base64 connection sessionId inputKind trace)
      (Code.Exits (TtsForwarding base64 connection sessionId inputKind)
        (TtsFinished base64 connection sessionId inputKind)) trace () := by
  intro _ _ _
  have closed := seen.closes
  refine ⟨closed.forwarded once queued, closed.forwarded once queued, ?_⟩
  rcases complete with refused | rfl
  · exact .inl (refused.later _)
  · exact .inr (closed.queued.trans (congrArg _ closed.heard.symm))

theorem TtsRelayed.replied {relay : TtsRelay} {event : BridgeTtsEvent}
    (relayed : TtsRelayed base64 connection sessionId inputKind relay trace events) :
    TtsRelay.messages base64 sessionId inputKind {} (events ++ [event]) =
      TtsRelay.messages base64 sessionId inputKind {} events ++
        relay.replies base64 sessionId inputKind event := by
  rw [TtsRelay.messages_concat, ← relayed.relay]

/-- An event that was just heard, and none of the messages for it. -/
theorem TtsRelayed.unreplied {relay : TtsRelay}
    (relayed : TtsRelayed base64 connection sessionId inputKind relay trace events)
    (event : BridgeTtsEvent) : TtsRelay.messages base64 sessionId inputKind {} events <+:
      TtsRelay.messages base64 sessionId inputKind {} (events ++ [event]) := by
  rw [relayed.replied]
  exact List.prefix_append ..

/-- The one message for a chunk or an error is taken. -/
theorem TtsRelayed.relays {relay : TtsRelay} (event : BridgeTtsEvent) {message : ServerMessage}
    (relayed : TtsRelayed base64 connection sessionId inputKind relay trace events)
    (replies : relay.replies base64 sessionId inputKind event = [message])
    (unended : ∀ reason, event ≠ .ended reason) :
    TtsRelayed base64 connection sessionId inputKind (relay.next event)
      (trace ++ [⟨.tts sessionId .receiveEvent, some event⟩] ++
        [⟨.sendClient connection message, true⟩]) (events ++ [event]) := by
  have queued := (relayed.seen.hears (some event)).queues message
  rw [← replies, ← relayed.replied] at queued
  refine ⟨queued, ?_, ?_⟩
  · rw [List.foldl_append, ← relayed.relay]
    rfl
  · intro reason member
    rcases List.mem_append.mp member with earlier | last
    · exact relayed.open_ reason earlier
    · exact unended reason (List.mem_singleton.mp last).symm

theorem TtsRelayed.forwarded {relay : TtsRelay}
    (relayed : TtsRelayed base64 connection sessionId inputKind relay trace events) :
    TtsForwarded base64 connection sessionId inputKind trace :=
  relayed.seen.forwarded (EndHeardLast.open relayed.open_) (List.prefix_refl _)

/-- A message is refused, and the forwarder ends. -/
theorem TtsSeen.gives_up (seen : TtsSeen connection sessionId trace events messages)
    (once : EndHeardLast events)
    (queued : messages <+: TtsRelay.messages base64 sessionId inputKind {} events)
    (message : ServerMessage) :
    TtsForwarded base64 connection sessionId inputKind
        (trace ++ [⟨.sendClient connection message, false⟩]) ∧
      (ttsForwarder.finish sessionId).Ensures AnyStep
        (fun trace _ => TtsForwarded base64 connection sessionId inputKind trace)
        (Code.Exits (TtsForwarding base64 connection sessionId inputKind)
          (TtsFinished base64 connection sessionId inputKind))
        (trace ++ [⟨.sendClient connection message, false⟩]) () := by
  have refused := seen.refused message
  exact ⟨refused.forwarded once queued, refused.finish once queued (.inl (ClientRefused.snoc message))⟩

theorem ttsForwarder_forwards {relay : TtsRelay}
    (relayed : TtsRelayed base64 connection sessionId inputKind relay trace events) :
    (ttsForwarder base64 connection sessionId inputKind relay.sequence relay.totalChunks
        relay.totalBytes).Ensures AnyStep
      (fun trace _ => TtsForwarded base64 connection sessionId inputKind trace)
      (Code.Exits (TtsForwarding base64 connection sessionId inputKind)
        (TtsFinished base64 connection sessionId inputKind)) trace () := by
  intro event _ _
  have heard := relayed.seen.hears event
  cases event with
  | none =>
    rw [Option.toList_none, List.append_nil] at heard
    have once := EndHeardLast.open relayed.open_
    exact ⟨heard.forwarded once (List.prefix_refl _),
      heard.finish once (List.prefix_refl _) (.inr rfl)⟩
  | some event =>
    have once := EndHeardLast.concat relayed.open_ event
    have unreplied := relayed.unreplied event
    refine ⟨heard.forwarded once unreplied, ?_⟩
    cases event with
    | audio chunk =>
      intro taken _ _
      cases taken with
      | true =>
        have relays := relayed.relays (.audio chunk) rfl (fun _ other => by cases other)
        exact ⟨relays.forwarded, _, _, rfl, relays⟩
      | false => exact heard.gives_up once unreplied _
    | error message =>
      intro taken _ _
      cases taken with
      | true =>
        have relays := relayed.relays (.error message) rfl (fun _ other => by cases other)
        exact ⟨relays.forwarded, _, _, rfl, relays⟩
      | false => exact heard.gives_up once unreplied _
    | ended reason =>
      intro taken _ _
      cases taken with
      | false => exact heard.gives_up once unreplied _
      | true =>
        let done : ServerMessage := .ttsAudioDone sessionId (relay.sequence + 1)
          ⟨inputKind, relay.totalChunks, relay.totalBytes⟩
        have queued := heard.queues done
        have first : TtsRelay.messages base64 sessionId inputKind {} events ++ [done] <+:
            TtsRelay.messages base64 sessionId inputKind {} (events ++ [.ended reason]) := by
          rw [relayed.replied]
          exact ⟨[.sessionEnded sessionId reason], List.append_assoc ..⟩
        refine ⟨queued.forwarded once first, ?_⟩
        intro taken _ _
        cases taken with
        | false => exact queued.gives_up once first _
        | true =>
          have closed := queued.queues (.sessionEnded sessionId reason)
          have both : TtsRelay.messages base64 sessionId inputKind {} events ++ [done] ++
              [.sessionEnded sessionId reason] =
              TtsRelay.messages base64 sessionId inputKind {} (events ++ [.ended reason]) := by
            rw [relayed.replied, List.append_assoc]
            rfl
          rw [both] at closed
          exact ⟨closed.forwarded once (List.prefix_refl _),
            closed.finish once (List.prefix_refl _) (.inr rfl)⟩

/-- Wherever a run of the forwarder is looked at, it has heard at most one end, as the last event,
and has queued the first of the messages for what it heard; between two events it has queued all of
them, unless a message was refused. -/
theorem ttsForwarder_runs (config : GatewayConfig) (task connection : ℕ) (sessionId : SessionId)
    (inputKind : SynthesisInputKind) (trace : Trace gateway) (last : Program (Option Procedure))
    (ran : Code.Serves (body config task) AnyStep
      (.done (some (.ttsForwarder connection sessionId inputKind 0 0 0))) () trace last ()) :
    TtsForwarded config.base64 connection sessionId inputKind trace ∧
      ∀ next, last = .done next → ClientRefused connection trace ∨ queued connection trace =
        TtsRelay.messages config.base64 sessionId inputKind {} (ttsHeard sessionId trace) := by
  have nothing : TtsRelayed config.base64 connection sessionId inputKind {} [] [] :=
    ⟨⟨rfl, rfl⟩, rfl, fun _ member => absurd member List.not_mem_nil⟩
  have bodies (procedure : Procedure) (trace : Trace gateway) (state : Unit)
      (forwarding : TtsForwarding config.base64 connection sessionId inputKind procedure trace
        state) :
      (body config task procedure).Ensures AnyStep
        (fun trace _ => TtsForwarded config.base64 connection sessionId inputKind trace)
        (Code.Exits (TtsForwarding config.base64 connection sessionId inputKind)
          (TtsFinished config.base64 connection sessionId inputKind)) trace state := by
    obtain ⟨relay, events, rfl, relayed⟩ := forwarding
    exact ttsForwarder_forwards relayed
  have started := nothing.seen.forwarded (EndHeardLast.open nothing.open_) (List.prefix_refl _)
  obtain ⟨forwarded, exits⟩ := ran.ensures bodies started ⟨{}, [], rfl, nothing⟩
  refine ⟨forwarded, ?_⟩
  rintro next rfl
  cases next with
  | none => exact exits.2
  | some procedure =>
    obtain ⟨relay, events, -, relayed⟩ := exits
    exact .inr (relayed.seen.queued.trans (congrArg _ relayed.seen.heard.symm))

end Runs

end SpeechMesh.Soundness
