import Mathlib.Data.List.Range
import SpeechMesh.Soundness.ForwarderTraces

/-! # The revisions of an ASR session

The forwarder of an ASR session turns each event of its bridge into one message for the client,
until a message cannot be queued. Results are numbered without gap, and the delta of each is
computed against the text before it.
-/

namespace SpeechMesh.Soundness

open Async SpeechMesh.Model

/-! ## Deltas -/

theorem stripPrefix_eq_some {text start rest : String} :
    stripPrefix text start = some rest ↔ start ++ rest = text := by
  unfold stripPrefix
  constructor
  · intro stripped
    split_ifs at stripped with starts
    obtain ⟨remainder, whole⟩ := List.isPrefixOf_iff_prefix.mp starts
    obtain rfl := Option.some.inj stripped
    apply String.toList_injective
    rw [String.toList_append, String.toList_ofList, ← whole, List.drop_left]
  · rintro rfl
    have starts : start.toList.isPrefixOf (start ++ rest).toList = true := by
      rw [List.isPrefixOf_iff_prefix, String.toList_append]
      exact List.prefix_append ..
    rw [if_pos starts, String.toList_append, List.drop_left, String.ofList_toList]

/-- What a delta tells about a text that follows a previous one: nothing if the text is the same, a
text to append if the new text extends the previous one, and the whole text otherwise. -/
structure DeltaCorrect (previous text : String) (delta : Option String) : Prop where
  absent : delta = none ↔ text = previous
  present : ∀ told, delta = some told → told = text ∨ previous ++ told = text
  extending : previous ≠ "" → ∀ rest, rest ≠ "" → previous ++ rest = text →
    ∃ told, delta = some told ∧ previous ++ told = text

theorem computeDelta_correct (previous text : String) :
    DeltaCorrect previous text (computeDelta previous text) := by
  unfold computeDelta
  split_ifs with same empty
  · refine ⟨⟨fun _ => same, fun _ => rfl⟩, nofun, fun _ rest nonempty whole => ?_⟩
    have unchanged : previous ++ rest = previous ++ "" := by rw [whole, same, String.append_empty]
    exact absurd (String.append_right_inj previous |>.mp unchanged) nonempty
  · refine ⟨⟨nofun, fun other => absurd other same⟩, fun told delta => .inl ?_,
      fun nonempty => absurd empty nonempty⟩
    exact (Option.some.inj delta).symm
  · cases stripped : stripPrefix text previous with
    | some rest =>
      have whole := stripPrefix_eq_some.mp stripped
      refine ⟨⟨nofun, fun other => absurd other same⟩, fun told delta => .inr ?_,
        fun _ _ _ _ => ⟨rest, rfl, whole⟩⟩
      rw [← Option.some.inj delta, whole]
    | none =>
      refine ⟨⟨nofun, fun other => absurd other same⟩, fun told delta => .inl ?_,
        fun _ rest _ whole => ?_⟩
      · exact (Option.some.inj delta).symm
      · rw [stripPrefix_eq_some.mpr whole] at stripped
        cases stripped

/-! ## What a stream of results looks like -/

/-- The text an event brings, and whether it is final. -/
def spokenText : BridgeAsrEvent → Option (String × Bool)
  | .partial_ text => some (text, false)
  | .final transcript => some (transcript.text, true)
  | .ended _ | .error _ => none

def spokenTexts (events : List BridgeAsrEvent) : List (String × Bool) :=
  events.filterMap spokenText

/-- The sequence number and the payload of a result for the session. -/
def resultOf (sessionId : SessionId) : ServerMessage → Option (ℕ × AsrResultPayload)
  | .asrResult owner sequence payload =>
      if owner = sessionId then some (sequence, payload) else none
  | _ => none

def results (sessionId : SessionId) (messages : List ServerMessage) :
    List (ℕ × AsrResultPayload) :=
  messages.filterMap (resultOf sessionId)

/-- Each delta is correct against the text of the result before it. -/
def DeltasCorrect : String → List (ℕ × AsrResultPayload) → Prop
  | _, [] => True
  | previous, (_, payload) :: rest =>
      DeltaCorrect previous payload.text payload.delta ∧ DeltasCorrect payload.text rest

/-- The results among the messages follow the texts of the events, from the given sequence number,
revision and previous text on. -/
structure RevisionStream (sessionId : SessionId) (sequence revision : ℕ) (previous : String)
    (events : List BridgeAsrEvent) (messages : List ServerMessage) : Prop where
  revisions : (results sessionId messages).map (fun result => result.2.revision) =
    List.range' (revision + 1) (results sessionId messages).length
  increasing : (sequence :: (results sessionId messages).map Prod.fst).Pairwise (· < ·)
  texts : (results sessionId messages).map (fun result =>
      (result.2.text, result.2.isFinal, result.2.speechFinal)) =
    (spokenTexts events).map fun spoken => (spoken.1, spoken.2, spoken.2)
  deltas : DeltasCorrect previous (results sessionId messages)

namespace RevisionStream

variable {sessionId : SessionId} {sequence revision : ℕ} {previous : String}
  {events : List BridgeAsrEvent} {messages : List ServerMessage}

/-- A smaller number may come before increasing ones. -/
theorem pairwise_cons_of_lt {least first : ℕ} {rest : List ℕ} (less : least < first)
    (increasing : (first :: rest).Pairwise (· < ·)) :
    (least :: first :: rest).Pairwise (· < ·) := by
  refine List.pairwise_cons.mpr ⟨?_, increasing⟩
  intro other member
  rcases List.mem_cons.mp member with rfl | later
  · exact less
  · exact less.trans ((List.pairwise_cons.mp increasing).1 other later)

/-- A result in front of a stream that goes on after it. -/
theorem cons_result {event : BridgeAsrEvent} {message : ServerMessage} {payload : AsrResultPayload}
    (result : resultOf sessionId message = some (sequence + 1, payload))
    (spoken : spokenText event = some (payload.text, payload.isFinal))
    (numbered : payload.revision = revision + 1) (both : payload.speechFinal = payload.isFinal)
    (correct : DeltaCorrect previous payload.text payload.delta)
    (later : RevisionStream sessionId (sequence + 1) (revision + 1) payload.text events messages) :
    RevisionStream sessionId sequence revision previous (event :: events)
      (message :: messages) := by
  have split : results sessionId (message :: messages) =
      (sequence + 1, payload) :: results sessionId messages := by
    rw [results, List.filterMap_cons_some result, results]
  have texts : spokenTexts (event :: events) =
      (payload.text, payload.isFinal) :: spokenTexts events := by
    rw [spokenTexts, List.filterMap_cons_some spoken, spokenTexts]
  refine ⟨?_, ?_, ?_, ?_⟩
  · rw [split, List.map_cons, List.length_cons, List.range'_succ, later.revisions, numbered]
  · rw [split, List.map_cons]
    exact pairwise_cons_of_lt (Nat.lt_succ_self sequence) later.increasing
  · rw [split, texts, List.map_cons, List.map_cons, later.texts, both]
  · rw [split]
    exact ⟨correct, later.deltas⟩

/-- A message that is no result, for an event without a text. -/
theorem cons_other {event : BridgeAsrEvent} {message : ServerMessage}
    (result : resultOf sessionId message = none) (silent : spokenText event = none)
    (later : RevisionStream sessionId (sequence + 1) revision previous events messages) :
    RevisionStream sessionId sequence revision previous (event :: events)
      (message :: messages) := by
  have same : results sessionId (message :: messages) = results sessionId messages := by
    rw [results, List.filterMap_cons_none result, results]
  have texts : spokenTexts (event :: events) = spokenTexts events := by
    rw [spokenTexts, List.filterMap_cons_none silent, spokenTexts]
  refine ⟨?_, ?_, ?_, ?_⟩
  · rw [same, later.revisions]
  · rw [same]
    exact (pairwise_cons_of_lt (Nat.lt_succ_self sequence) later.increasing).sublist
      (List.sublist_cons_self _ _ |>.cons_cons sequence)
  · rw [same, texts, later.texts]
  · rw [same]
    exact later.deltas

end RevisionStream

/-! ## The messages for a list of events -/

/-- The local variables of the forwarder. -/
structure AsrRelay where
  sequence : ℕ := 0
  revision : ℕ := 0
  previousText : String := ""

namespace AsrRelay

variable (sessionId : SessionId)

def message (relay : AsrRelay) (event : BridgeAsrEvent) : ServerMessage :=
  (asrOutgoing sessionId (relay.sequence + 1) relay.revision relay.previousText event).1

def next (relay : AsrRelay) (event : BridgeAsrEvent) : AsrRelay :=
  let outgoing :=
    asrOutgoing sessionId (relay.sequence + 1) relay.revision relay.previousText event
  ⟨relay.sequence + 1, outgoing.2.1, outgoing.2.2⟩

def messages : AsrRelay → List BridgeAsrEvent → List ServerMessage
  | _, [] => []
  | relay, event :: rest =>
      relay.message sessionId event :: messages (relay.next sessionId event) rest

theorem messages_concat (relay : AsrRelay) (events : List BridgeAsrEvent) (event : BridgeAsrEvent) :
    relay.messages sessionId (events ++ [event]) =
      relay.messages sessionId events ++
        [(events.foldl (AsrRelay.next sessionId) relay).message sessionId event] := by
  induction events generalizing relay with
  | nil => rfl
  | cons first rest ih =>
    rw [List.cons_append, messages, ih, messages, List.cons_append, List.foldl_cons]

theorem stream (relay : AsrRelay) (events : List BridgeAsrEvent) :
    RevisionStream sessionId relay.sequence relay.revision relay.previousText events
      (relay.messages sessionId events) := by
  induction events generalizing relay with
  | nil => exact ⟨rfl, List.pairwise_singleton .., rfl, trivial⟩
  | cons event rest ih =>
    have later := ih (relay.next sessionId event)
    cases event with
    | partial_ text =>
      exact .cons_result (if_pos rfl) rfl rfl rfl (computeDelta_correct ..) later
    | final transcript =>
      exact .cons_result (if_pos rfl) rfl rfl rfl (computeDelta_correct ..) later
    | ended reason => exact .cons_other rfl rfl later
    | error message => exact .cons_other rfl rfl later

end AsrRelay

/-! ## Every run of the forwarder -/

variable {connection : ℕ} {sessionId : SessionId} {trace : Trace gateway}

/-- Every event but possibly the last one was relayed, and the results that are queued for the
client are the revisions of those events. -/
def AsrForwarded (connection : ℕ) (sessionId : SessionId) (trace : Trace gateway) : Prop :=
  ∃ relayed, relayed <+: asrHeard sessionId trace ∧
    (asrHeard sessionId trace).length ≤ relayed.length + 1 ∧
      RevisionStream sessionId 0 0 "" relayed (queued connection trace)

/-- Every event that was heard is relayed. -/
structure AsrRelayed (connection : ℕ) (sessionId : SessionId) (relay : AsrRelay)
    (trace : Trace gateway) : Prop where
  queued : queued connection trace = AsrRelay.messages sessionId {} (asrHeard sessionId trace)
  relay : relay = (asrHeard sessionId trace).foldl (AsrRelay.next sessionId) {}

theorem AsrRelayed.forwarded {relay : AsrRelay}
    (relayed : AsrRelayed connection sessionId relay trace) :
    AsrForwarded connection sessionId trace := by
  refine ⟨_, List.prefix_refl _, Nat.le_succ _, ?_⟩
  rw [relayed.queued]
  exact AsrRelay.stream sessionId {} _

theorem AsrForwarded.quiet (entry : Entry gateway)
    (forwarded : AsrForwarded connection sessionId trace)
    (silent : queuedBy connection entry = none) (deaf : asrHeardBy sessionId entry = none) :
    AsrForwarded connection sessionId (trace ++ [entry]) := by
  unfold AsrForwarded
  rw [asrHeard_snoc, queued_snoc, silent, deaf, Option.toList_none, Option.toList_none,
    List.append_nil, List.append_nil]
  exact forwarded

/-- An event that was just heard is the last one. -/
theorem AsrRelayed.hears {relay : AsrRelay} {event : BridgeAsrEvent} {entry : Entry gateway}
    (relayed : AsrRelayed connection sessionId relay trace)
    (silent : queuedBy connection entry = none) (heard : asrHeardBy sessionId entry = some event) :
    AsrForwarded connection sessionId (trace ++ [entry]) := by
  refine ⟨asrHeard sessionId trace, ?_, ?_, ?_⟩
  · rw [asrHeard_snoc]
    exact List.prefix_append ..
  · rw [asrHeard_snoc, heard, List.length_append]
    exact le_rfl
  · rw [queued_snoc, silent, relayed.queued]
    simpa only [Option.toList_none, List.append_nil] using AsrRelay.stream sessionId {} _

/-- The message for an event is queued. -/
theorem AsrRelayed.relays {relay : AsrRelay} {event : BridgeAsrEvent} {first second : Entry gateway}
    (relayed : AsrRelayed connection sessionId relay trace)
    (silent : queuedBy connection first = none) (heard : asrHeardBy sessionId first = some event)
    (taken : queuedBy connection second = some (relay.message sessionId event))
    (deaf : asrHeardBy sessionId second = none) :
    AsrRelayed connection sessionId (relay.next sessionId event)
      (trace ++ [first] ++ [second]) := by
  have events : asrHeard sessionId (trace ++ [first] ++ [second]) =
      asrHeard sessionId trace ++ [event] := by
    rw [asrHeard_snoc, asrHeard_snoc, heard, deaf]
    exact List.append_nil _
  refine ⟨?_, ?_⟩
  · rw [events, AsrRelay.messages_concat, ← relayed.relay, ← relayed.queued, queued_snoc,
      queued_snoc, silent, taken]
    exact congrArg (· ++ [relay.message sessionId event]) (List.append_nil _)
  · rw [events, List.foldl_append, ← relayed.relay]
    rfl

/-- The forwarder is between two events. -/
def AsrForwarding (connection : ℕ) (sessionId : SessionId) (procedure : Procedure)
    (trace : Trace gateway) (_ : Unit) : Prop :=
  ∃ relay : AsrRelay, procedure = .asrForwarder connection sessionId relay.sequence relay.revision
      relay.previousText ∧
    AsrRelayed connection sessionId relay trace

theorem asrForwarder_forwards {relay : AsrRelay}
    (relayed : AsrRelayed connection sessionId relay trace) :
    (asrForwarder connection sessionId relay.sequence relay.revision relay.previousText).Ensures
      AnyStep (fun trace _ => AsrForwarded connection sessionId trace)
      (Code.Exits (AsrForwarding connection sessionId)
        fun trace _ => AsrForwarded connection sessionId trace) trace () := by
  intro event _ _
  cases event with
  | none =>
    have kept := relayed.forwarded.quiet ⟨.asr sessionId .receiveEvent, none⟩ rfl
      (asrHeardBy_receive none)
    refine ⟨kept, fun _ _ _ => ?_⟩
    have closed := kept.quiet ⟨.asr sessionId .closeEvents, ()⟩ rfl rfl
    exact ⟨closed, closed⟩
  | some event =>
    have heard := relayed.hears rfl (asrHeardBy_receive (some event))
    refine ⟨heard, fun taken _ _ => ?_⟩
    cases taken with
    | true =>
      have relays := relayed.relays rfl (asrHeardBy_receive (some event))
        (queuedBy_taken (relay.message sessionId event)) rfl
      exact ⟨relays.forwarded, _, rfl, relays⟩
    | false =>
      have refused := heard.quiet _ (queuedBy_refused (relay.message sessionId event)) rfl
      refine ⟨refused, fun _ _ _ => ?_⟩
      have closed := refused.quiet ⟨.asr sessionId .closeEvents, ()⟩ rfl rfl
      exact ⟨closed, closed⟩

/-- Wherever a run of the forwarder is looked at, the results it has queued are the revisions of the
events it relayed, which are all it has heard but possibly the last. -/
theorem asr_revisions_correct (config : GatewayConfig) (task connection : ℕ)
    (sessionId : SessionId) (trace : Trace gateway) (last : Program (Option Procedure))
    (ran : Code.Serves (body config task) AnyStep
      (.done (some (.asrForwarder connection sessionId 0 0 ""))) () trace last ()) :
    ∃ relayed, relayed <+: asrHeard sessionId trace ∧
      (asrHeard sessionId trace).length ≤ relayed.length + 1 ∧
        RevisionStream sessionId 0 0 "" relayed (queued connection trace) := by
  have nothing : AsrRelayed connection sessionId {} [] := ⟨rfl, rfl⟩
  have bodies (procedure : Procedure) (trace : Trace gateway) (state : Unit)
      (forwarding : AsrForwarding connection sessionId procedure trace state) :
      (body config task procedure).Ensures AnyStep
        (fun trace _ => AsrForwarded connection sessionId trace)
        (Code.Exits (AsrForwarding connection sessionId)
          fun trace _ => AsrForwarded connection sessionId trace) trace state := by
    obtain ⟨relay, rfl, relayed⟩ := forwarding
    exact asrForwarder_forwards relayed
  exact (ran.ensures bodies nothing.forwarded ⟨{}, rfl, nothing⟩).1

/-- A partial text, an error, and a final text that extends the partial one. -/
def spokenSession : Trace gateway :=
  let sessionId : SessionId := ⟨0, 0⟩
  let transcript : Transcript := ⟨"hello there", none, []⟩
  [⟨.asr sessionId .receiveEvent, some (.partial_ "hello")⟩,
    ⟨.sendClient 0 ((AsrRelay.mk 0 0 "").message sessionId (.partial_ "hello")), true⟩,
    ⟨.asr sessionId .receiveEvent, some (.error "late")⟩,
    ⟨.sendClient 0 ((AsrRelay.mk 1 1 "hello").message sessionId (.error "late")), true⟩,
    ⟨.asr sessionId .receiveEvent, some (.final transcript)⟩,
    ⟨.sendClient 0 ((AsrRelay.mk 2 1 "hello").message sessionId (.final transcript)), true⟩]

theorem asr_revisions_correct_spoken :
    ∃ relayed, relayed <+: asrHeard ⟨0, 0⟩ spokenSession ∧
      (asrHeard ⟨0, 0⟩ spokenSession).length ≤ relayed.length + 1 ∧
        RevisionStream ⟨0, 0⟩ 0 0 "" relayed (queued 0 spokenSession) := by
  let config : GatewayConfig :=
    ⟨"speechmeshd", none, ⟨[], fun _ => .ok .provider⟩, none, ⟨fun _ => "", fun _ => .ok []⟩⟩
  exact asr_revisions_correct config 0 0 ⟨0, 0⟩ spokenSession
    (.done (some (.asrForwarder 0 ⟨0, 0⟩ 3 2 "hello there")))
    (.enter (.answered (.answered (.enter (.answered (.answered (.enter (.answered
      (.answered (.stop _ _))))))))))

end SpeechMesh.Soundness
