import SpeechMesh.Model.SdkSessions

/-! # The session of the two SDKs

Each client reads a frame as an event of a session, or as none. Where both read the same, and the
client in Go finds no error in the payload after it has kept the session, the clients stay in step.
-/

namespace SpeechMesh.Soundness

open Serde Model Model.Sdk

namespace SessionTracking

/-! ## Events -/

inductive SessionEvent where
  | started (id domain : String)
  | ended (id : String)
deriving DecidableEq

/-- The session after an event. -/
def apply (session : GoClient) : SessionEvent → GoClient
  | .started id domain => ⟨id, domain⟩
  | .ended id => if id = session.activeSessionId then {} else session

/-- The event changes the session. -/
def matters (session : GoClient) : SessionEvent → Bool
  | .started id domain => session ≠ ⟨id, domain⟩
  | .ended id => session ≠ {} ∧ id = session.activeSessionId

theorem apply_of_not_matters {session : GoClient} {event : SessionEvent}
    (unchanged : matters session event ≠ true) : apply session event = session := by
  cases event with
  | started id domain =>
    simp only [matters, ne_eq, decide_eq_true_eq, not_not] at unchanged
    exact unchanged.symm
  | ended id =>
    simp only [matters, ne_eq, decide_eq_true_eq, not_and_or, not_not] at unchanged
    rw [apply]
    split_ifs with active
    · exact (unchanged.resolve_right (not_not_intro active)).symm
    · rfl

/-- What is left of the event that is read from a frame, if it changes the session. -/
def change (session : GoClient) (event : Option SessionEvent) : Option SessionEvent :=
  event.filter (matters session)

/-- The session after a frame that is read as an event or as none. -/
def after (session : GoClient) (event : Option SessionEvent) : GoClient :=
  event.elim session (apply session)

theorem after_change (session : GoClient) (event : Option SessionEvent) :
    after session (change session event) = after session event := by
  cases event with
  | none => rfl
  | some event =>
    rw [change, Option.filter_some]
    split_ifs with changes
    · rfl
    · exact (apply_of_not_matters changes).symm

variable (libraries : Libraries)

/-- The payload of an envelope is decoded with an error. -/
def payloadFails (envelope : Envelope) : Bool :=
  if envelope.type = "session.started" then
    (decodePayload assignStarted {} envelope.payload).failed
  else (decodePayload assignEnded {} envelope.payload).failed

/-- The envelope that the client in Go decodes. -/
def goEnvelope (text : String) : Option Envelope :=
  match libraries.goParse text with
  | none => none
  | some json =>
      if (unmarshalStruct assignEnvelope {} json).failed then none
      else some (unmarshalStruct assignEnvelope {} json).value

def envelopeEvent (envelope : Envelope) : Option SessionEvent :=
  match envelope.type with
  | "session.started" => envelope.sessionId.map fun id =>
      .started id (decodePayload assignStarted {} envelope.payload).value.domain
  | "session.ended" => envelope.sessionId.map .ended
  | _ => none

/-- What the client in Go reads. -/
def goEvent (text : String) : Option SessionEvent := (goEnvelope libraries text).bind envelopeEvent

def messageEvent : ServerMessage → Option SessionEvent
  | .sessionStarted _ id payload =>
      some (.started (libraries.uuidText id) (Go.domainName payload.domain))
  | .sessionEnded id _ => some (.ended (libraries.uuidText id))
  | _ => none

/-- What the client in Rust reads. -/
def rustEvent (text : String) : Option SessionEvent :=
  ((libraries.rustParse text).bind (decodeServerMessage libraries)).bind (messageEvent libraries)

/-- Both clients read the same change of the session, if any, and no error is found in the payload
of a frame that is read as one. -/
structure InStep (session : GoClient) (text : String) : Prop where
  same : change session (goEvent libraries text) = change session (rustEvent libraries text)
  decoded : change session (goEvent libraries text) ≠ none →
    ∀ envelope, goEnvelope libraries text = some envelope → payloadFails envelope = false

/-! ## The clients agree -/

/-- The session of the client in Rust, in the texts of the one in Go. -/
def sessionOf (client : SdkClient) : GoClient where
  activeSessionId := (client.activeSessionId.map libraries.uuidText).getD ""
  activeSessionDomain := (client.activeSessionDomain.map Go.domainName).getD ""

/-- The clients agree on whether a session is active, on its id and on its domain. -/
structure Agree (go : GoClient) (rust : SdkClient) : Prop where
  active : go.activeSessionId ≠ "" ↔ rust.activeSessionId ≠ none
  id : go.activeSessionId = (rust.activeSessionId.map libraries.uuidText).getD ""
  domain : go.activeSessionDomain = (rust.activeSessionDomain.map Go.domainName).getD ""

/-- What the clients do with a frame: they agree afterwards, and one that finds an error keeps its
session. -/
structure Tracks (go : GoClient) (rust : SdkClient) (text : String) : Prop where
  agree : Agree libraries (go.recv libraries text).1 (recv libraries rust text).1
  goError : ∀ error, (go.recv libraries text).2 = .error error →
    (go.recv libraries text).1 = go
  rustError : (recv libraries rust text).2 = none → (recv libraries rust text).1 = rust

/-- The clients track the same session along the frames. -/
def Tracked : GoClient → SdkClient → List String → Prop
  | _, _, [] => True
  | go, rust, text :: texts =>
      Tracks libraries go rust text ∧
        Tracked (go.recv libraries text).1 (recv libraries rust text).1 texts

variable {libraries} {go : GoClient} {rust : SdkClient} {text : String}

theorem agree_iff (lawful : libraries.Lawful) :
    Agree libraries go rust ↔ go = sessionOf libraries rust := by
  constructor
  case mp =>
    rintro ⟨_, id, domain⟩
    obtain ⟨goId, goDomain⟩ := go
    exact congrArg₂ GoClient.mk id domain
  case mpr =>
    rintro rfl
    refine ⟨?_, rfl, rfl⟩
    cases active : rust.activeSessionId with
    | none => simp [sessionOf, active]
    | some id => simp [sessionOf, active, lawful.text_ne_empty id]

theorem uuidText_injective (lawful : libraries.Lawful) {id other : SessionId}
    (same : libraries.uuidText id = libraries.uuidText other) : id = other := by
  have read := lawful.parse_text id
  rw [same, lawful.parse_text other] at read
  exact (Option.some.inj read).symm

/-! ## What a frame does -/

/-- An envelope of another type changes nothing. -/
theorem receive_other {envelope : Envelope} (notStarted : envelope.type ≠ "session.started")
    (notEnded : envelope.type ≠ "session.ended") :
    (go.receive libraries envelope).1 = go ∧ envelopeEvent envelope = none := by
  constructor
  · rw [GoClient.receive]
    split
    · contradiction
    · contradiction
    · split_ifs <;> rfl
  · rw [envelopeEvent]
    split
    · contradiction
    · contradiction
    · rfl

theorem receive_session (envelope : Envelope) :
    (go.receive libraries envelope).1 = after go (envelopeEvent envelope) := by
  by_cases started : envelope.type = "session.started"
  · rw [GoClient.receive, envelopeEvent, started]
    cases envelope.sessionId with
    | none => rfl
    | some id => rfl
  by_cases ended : envelope.type = "session.ended"
  · rw [GoClient.receive, envelopeEvent, ended]
    cases envelope.sessionId with
    | none => rfl
    | some id =>
      change (if some id = some go.activeSessionId then {} else go) =
        if id = go.activeSessionId then {} else go
      by_cases active : id = go.activeSessionId
      · rw [if_pos active, if_pos (congrArg some active)]
      · rw [if_neg active, if_neg fun same => active (Option.some.inj same)]
  · obtain ⟨unchanged, none⟩ := @receive_other libraries go envelope started ended
    rw [unchanged, none]
    rfl

/-- A frame changes the session in Go by the event that is read from it. -/
theorem recv_session : (go.recv libraries text).1 = after go (goEvent libraries text) := by
  rw [GoClient.recv, goEvent, goEnvelope]
  cases libraries.goParse text with
  | none => rfl
  | some json =>
    dsimp only
    split_ifs with failed
    · rfl
    · exact receive_session _

/-- The client in Go finds an error in a frame that changes the session only in its payload. -/
theorem receive_error {envelope : Envelope} {error : RecvError}
    (found : (go.receive libraries envelope).2 = .error error)
    (decoded : payloadFails envelope = false) : (go.receive libraries envelope).1 = go := by
  by_cases started : envelope.type = "session.started"
  · rw [payloadFails, if_pos started] at decoded
    rw [GoClient.receive, started] at found
    dsimp only at found
    rw [decoded] at found
    contradiction
  by_cases ended : envelope.type = "session.ended"
  · rw [payloadFails, if_neg started] at decoded
    rw [GoClient.receive, ended] at found
    dsimp only at found
    rw [decoded] at found
    contradiction
  · exact (receive_other started ended).1

theorem recv_error (inStep : InStep libraries go text) {error : RecvError}
    (found : (go.recv libraries text).2 = .error error) : (go.recv libraries text).1 = go := by
  by_cases unchanged : change go (goEvent libraries text) = none
  · rw [recv_session, ← after_change, unchanged]
    rfl
  have decoded := inStep.decoded unchanged
  rw [goEnvelope] at decoded
  rw [GoClient.recv] at found ⊢
  cases parsed : libraries.goParse text with
  | none => rfl
  | some json =>
    rw [parsed] at found decoded
    dsimp only at found decoded ⊢
    split_ifs at found decoded ⊢ with failed
    · rfl
    · exact receive_error found (decoded _ rfl)

/-- A message changes the session in Rust by its event. -/
theorem observe_session (lawful : libraries.Lawful) (message : ServerMessage) :
    sessionOf libraries (rust.observeMessage message) =
      after (sessionOf libraries rust) (messageEvent libraries message) := by
  cases message with
  | sessionStarted requestId id payload => rfl
  | sessionEnded id reason =>
    rw [SdkClient.observeMessage, messageEvent]
    dsimp only [after, Option.elim, apply]
    cases active : rust.activeSessionId with
    | none =>
      have other : libraries.uuidText id ≠ (sessionOf libraries rust).activeSessionId := by
        rw [sessionOf, active]
        exact lawful.text_ne_empty id
      rw [if_neg other, if_neg fun same => by cases same]
    | some current =>
      have text : (sessionOf libraries rust).activeSessionId = libraries.uuidText current := by
        rw [sessionOf, active]
        rfl
      rw [text]
      by_cases same : current = id
      · rw [if_pos (by rw [same]), if_pos (by rw [same])]
        rfl
      · have different : libraries.uuidText id ≠ libraries.uuidText current :=
          fun equal => same (uuidText_injective lawful equal).symm
        rw [if_neg different, if_neg fun equal => same (Option.some.inj equal)]
  | helloOk => rfl
  | discoverResult => rfl
  | asrResult => rfl
  | ttsVoicesResult => rfl
  | ttsAudioDelta => rfl
  | ttsAudioDone => rfl
  | error => rfl
  | pong => rfl

theorem rust_recv_session (lawful : libraries.Lawful) :
    sessionOf libraries (recv libraries rust text).1 =
      after (sessionOf libraries rust) (rustEvent libraries text) := by
  rw [recv, rustEvent]
  cases (libraries.rustParse text).bind (decodeServerMessage libraries) with
  | none => rfl
  | some message => exact observe_session lawful message

/-! ## Runs -/

/-- Clients that agree track a frame that is in step. -/
theorem tracks_of_inStep (lawful : libraries.Lawful) (agree : Agree libraries go rust)
    (inStep : InStep libraries go text) : Tracks libraries go rust text := by
  have same := (agree_iff lawful).mp agree
  constructor
  case agree =>
    rw [agree_iff lawful, recv_session, rust_recv_session lawful, ← same, ← after_change,
      inStep.same, after_change]
  case goError => exact fun error found => recv_error inStep found
  case rustError =>
    intro found
    rw [recv] at found ⊢
    cases decoded : (libraries.rustParse text).bind (decodeServerMessage libraries) with
    | none => rfl
    | some message =>
      rw [decoded] at found
      contradiction

theorem messageEvent_other (message : OtherMessage) :
    messageEvent libraries message.val = none := by
  obtain ⟨message, unchanged⟩ := message
  cases message with
  | sessionStarted requestId id payload =>
    have absent := unchanged {}
    cases congrArg SdkClient.activeSessionId absent
  | sessionEnded id reason =>
    have absent := unchanged { activeSessionId := some id }
    rw [SdkClient.observeMessage, if_pos rfl] at absent
    cases congrArg SdkClient.activeSessionId absent
  | _ => rfl

end SessionTracking

end SpeechMesh.Soundness
