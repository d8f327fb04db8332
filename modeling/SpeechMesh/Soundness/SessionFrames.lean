import SpeechMesh.Soundness.FrameFields
import SpeechMesh.Soundness.SessionTracking

/-! # Frames on which the two SDKs agree

What a frame has to look like so that the clients do the same with it. Where its type, its session
id and its payload are each written once, in the letters that both clients expect, these are all.
-/

namespace SpeechMesh.Soundness

open Serde Model Model.Sdk

namespace SessionTracking

/-! ## Frames -/

/-- Neither client takes the frame for one of a session. -/
def NoSession : Json → Prop
  | .object fields => ∀ value ∈ goValues "type" fields,
      value ≠ .string "session.started" ∧ value ≠ .string "session.ended"
  | .array (.string type :: _) => type ≠ "session.started" ∧ type ≠ "session.ended"
  | _ => True

variable (libraries : Libraries)

/-- The client in Rust cannot read the frame: its id is no UUID, its request id no text, or its
payload none of that type. -/
inductive Unreadable (fields : Fields Json) (type : String) (id payload : Option Json) : Prop where
  | sessionId (none : ∀ text, id = some (.string text) → libraries.parseUuid text = none)
  | requestId (started : type = "session.started")
      (other : ¬ AtMostOne "request_id" fields IsText)
  | started (type_ : type = "session.started")
      (other : ∀ json, payload = some json → decodeSessionStarted json = none)
  | ended (type_ : type = "session.ended")
      (other : ∀ json, payload = some json → decodeSessionEnded json = none)

/-- A frame of a session with which the clients do the same: both read it, neither does, or it
changes nothing. -/
inductive FairSession (session : GoClient) : Json → Prop where
  | started {fields payload : Fields Json} (id : SessionId) (domain : CapabilityDomain)
      (header : Header fields "session.started" (some (.string (libraries.uuidText id)))
        (some (.object payload)))
      (typed : Typed fields) (requestId : AtMostOne "request_id" fields IsText)
      (sound : SoundStarted domain payload) : FairSession session (.object fields)
  | ended {fields payload : Fields Json} (id : SessionId)
      (header : Header fields "session.ended" (some (.string (libraries.uuidText id)))
        (some (.object payload)))
      (typed : Typed fields) (sound : SoundEnded payload) : FairSession session (.object fields)
  | refused {fields : Fields Json} {type : String} {id payload : Option Json}
      (known : type = "session.started" ∨ type = "session.ended")
      (header : Header fields type id payload)
      (go : ¬ Typed fields ∨ id = none ∨ id = some .null)
      (rust : Unreadable libraries fields type id payload) : FairSession session (.object fields)
  | repeated {fields payload : Fields Json} (active : session.activeSessionId ≠ "")
      (header : Header fields "session.started" (some (.string session.activeSessionId))
        (some (.object payload)))
      (domain : Agreed "domain" payload (some (.string session.activeSessionDomain))) :
      FairSession session (.object fields)
  | elsewhere {fields : Fields Json} {id payload : Option Json}
      (header : Header fields "session.ended" id payload)
      (inactive : session = {} ∨ ∀ text, id = some (.string text) →
        text ≠ session.activeSessionId ∧
        ∀ known, libraries.parseUuid text = some known →
          libraries.uuidText known ≠ session.activeSessionId) :
      FairSession session (.object fields)

/-- A frame that is of no session, or of one and fair. -/
inductive Fair (session : GoClient) (text : String) : Prop where
  | other (go : ∀ json, libraries.goParse text = some json → NoSession json)
      (rust : ∀ json, libraries.rustParse text = some json → NoSession json)
  | session {json : Json} (go : libraries.goParse text = some json)
      (rust : libraries.rustParse text = some json) (fair : FairSession libraries session json)

/-- Each frame is fair to the session before it. -/
def AllFair : GoClient → List String → Prop
  | _, [] => True
  | session, text :: texts =>
      Fair libraries session text ∧ AllFair (session.recv libraries text).1 texts

variable {libraries} {go session : GoClient} {rust : SdkClient} {text type : String}
  {fields : Fields Json} {json : Json} {id payload : Option Json}

/-! ## What is read of a frame -/

theorem rustEvent_started (parsed : libraries.rustParse text = some (.object fields))
    (header : Header fields "session.started" id payload) :
    rustEvent libraries text =
      (defaulted "request_id" none (Json.toOption? Json.asString?) fields).bind fun _ =>
        (id.bind (decodeSessionId libraries)).bind fun sessionId =>
          (payload.bind decodeSessionStarted).map fun payload =>
            .started (libraries.uuidText sessionId) (Go.domainName payload.domain) := by
  have sessionId := (values_content "session_id" (by decide) fields).trans header.sessionId.rust
  have content := (values_content "payload" (by decide) fields).trans header.payload.rust
  have read : decodeServerMessage libraries (.object fields) =
      (defaulted "request_id" none (Json.toOption? Json.asString?) fields).bind fun requestId =>
        (id.bind (decodeSessionId libraries)).bind fun sessionId =>
          (payload.bind decodeSessionStarted).bind fun payload =>
            some (.sessionStarted (requestId.map RequestId.mk) sessionId payload) := by
    rw [← defaulted_content "request_id" (by decide), ← required_of_option sessionId,
      ← required_of_option content, decodeServerMessage, Go.taggedContent,
      required_of_option header.type.rust]
    rfl
  rw [rustEvent, parsed, Option.bind_some, read]
  cases defaulted "request_id" none (Json.toOption? Json.asString?) fields with
  | none => rfl
  | some requestId =>
    cases id.bind (decodeSessionId libraries) with
    | none => rfl
    | some sessionId =>
      cases payload.bind decodeSessionStarted with
      | none => rfl
      | some payload => rfl

theorem rustEvent_ended (parsed : libraries.rustParse text = some (.object fields))
    (header : Header fields "session.ended" id payload) :
    rustEvent libraries text =
      (id.bind (decodeSessionId libraries)).bind fun sessionId =>
        (payload.bind decodeSessionEnded).map fun _ => .ended (libraries.uuidText sessionId) := by
  have sessionId := (values_content "session_id" (by decide) fields).trans header.sessionId.rust
  have content := (values_content "payload" (by decide) fields).trans header.payload.rust
  have read : decodeServerMessage libraries (.object fields) =
      (id.bind (decodeSessionId libraries)).bind fun sessionId =>
        (payload.bind decodeSessionEnded).bind fun reason =>
          some (.sessionEnded sessionId reason) := by
    rw [← required_of_option sessionId, ← required_of_option content, decodeServerMessage,
      Go.taggedContent, required_of_option header.type.rust]
    rfl
  rw [rustEvent, parsed, Option.bind_some, read]
  cases id.bind (decodeSessionId libraries) with
  | none => rfl
  | some sessionId =>
    cases payload.bind decodeSessionEnded with
    | none => rfl
    | some reason => rfl

theorem goEvent_noSession (quiet : ∀ json, libraries.goParse text = some json → NoSession json) :
    goEvent libraries text = none := by
  rw [goEvent, goEnvelope]
  cases parsed : libraries.goParse text with
  | none => rfl
  | some json =>
    have quiet := quiet json parsed
    dsimp only
    split_ifs with failed
    · rfl
    · rw [Option.bind_some]
      cases json with
      | object fields =>
        rcases envelope_type fields with untyped | written
        · apply (@receive_other libraries {} _ _ _).2 <;> rw [untyped] <;> decide
        · obtain ⟨notStarted, notEnded⟩ := quiet _ written
          apply (@receive_other libraries {} _ _ _).2
          · exact fun same => notStarted (congrArg Json.string same)
          · exact fun same => notEnded (congrArg Json.string same)
      | _ => rfl

theorem rustEvent_noSession
    (quiet : ∀ json, libraries.rustParse text = some json → NoSession json) :
    rustEvent libraries text = none := by
  rw [rustEvent]
  cases parsed : libraries.rustParse text with
  | none => rfl
  | some json =>
    have quiet := quiet json parsed
    rw [Option.bind_some, decodeServerMessage]
    have other (type : String) (content : Json)
        (tagged : Go.taggedContent json = some (type, content)) :
        type ≠ "session.started" ∧ type ≠ "session.ended" := by
      cases json with
      | object fields =>
        rw [Go.taggedContent, required, unique] at tagged
        split at tagged
        case h_2 value once =>
          cases value with
          | string tag =>
            obtain rfl : tag = type := congrArg Prod.fst (Option.some.inj tagged)
            have written : Json.string tag ∈ goValues "type" fields :=
              values_subset "type" fields (once ▸ List.mem_singleton_self _)
            obtain ⟨notStarted, notEnded⟩ := quiet _ written
            exact ⟨fun same => notStarted (congrArg Json.string same),
              fun same => notEnded (congrArg Json.string same)⟩
          | _ => cases tagged
        all_goals cases tagged
      | array items =>
        cases items with
        | nil => cases tagged
        | cons head items =>
          cases head with
          | string tag =>
            obtain rfl : tag = type := congrArg Prod.fst (Option.some.inj tagged)
            exact quiet
          | _ => cases tagged
      | _ => cases tagged
    cases tagged : Go.taggedContent json with
    | none => rfl
    | some found =>
      obtain ⟨type, content⟩ := found
      obtain ⟨notStarted, notEnded⟩ := other type content tagged
      simp only [Option.bind_eq_bind, Option.bind_some]
      cases libraries.otherMessage type content with
      | none => rfl
      | some message => exact messageEvent_other message

section Header

variable (parsed : libraries.goParse text = some (.object fields))

include parsed

/-- The client in Go decodes an envelope whose values are of their types. -/
theorem goEnvelope_typed (header : Header fields type id payload) (typed : Typed fields) :
    ∃ envelope, goEnvelope libraries text = some envelope ∧ envelope.type = type ∧
      envelope.sessionId = id.bind (fun value => (unmarshalStringPointer value).value) ∧
      envelope.payload = payload := by
  have fine : ¬ (unmarshalStruct assignEnvelope {} (.object fields)).failed = true := by
    rw [envelope_failed header.type]
    exact not_not_intro typed
  rw [goEnvelope, parsed]
  dsimp only
  rw [if_neg fine]
  exact ⟨_, rfl, envelope_of_header header⟩

theorem goEvent_untyped (type_ : Agreed "type" fields (some (.string type)))
    (untyped : ¬ Typed fields) : goEvent libraries text = none := by
  rw [goEvent, goEnvelope, parsed]
  dsimp only
  rw [if_pos ((envelope_failed type_).mpr untyped)]
  rfl

/-- What the client in Go reads of a frame of a session, if anything. -/
theorem goEvent_header (header : Header fields type id payload)
    {event : SessionEvent} (read : goEvent libraries text = some event) :
    ∃ sessionId, id = some (.string sessionId) ∧
      ((type = "session.started" ∧
          event = .started sessionId (decodePayload assignStarted {} payload).value.domain) ∨
        (type = "session.ended" ∧ event = .ended sessionId)) := by
  by_cases typed : Typed fields
  · obtain ⟨envelope, found, type_, sessionId, payload_⟩ := goEnvelope_typed parsed header typed
    rw [goEvent, found, Option.bind_some, envelopeEvent, type_, sessionId, payload_] at read
    have text_ {sessionId : String}
        (pointed : id.bind (fun value => (unmarshalStringPointer value).value) = some sessionId) :
        id = some (.string sessionId) := by
      obtain ⟨value, rfl, pointed⟩ := Option.bind_eq_some_iff.mp pointed
      have isText := typed.sessionId value (by rw [header.sessionId.go]; exact List.mem_cons_self)
      cases value with
      | string value => rw [Option.some.inj pointed]
      | null => cases pointed
      | _ => exact isText.elim
    split at read
    · obtain ⟨sessionId, pointed, rfl⟩ := Option.map_eq_some_iff.mp read
      exact ⟨sessionId, text_ pointed, .inl ⟨rfl, rfl⟩⟩
    · obtain ⟨sessionId, pointed, rfl⟩ := Option.map_eq_some_iff.mp read
      exact ⟨sessionId, text_ pointed, .inr ⟨rfl, rfl⟩⟩
    · cases read
  · rw [goEvent_untyped parsed header.type typed] at read
    cases read

end Header

/-- What the client in Rust reads of a frame of a session, if anything. -/
theorem rustEvent_header (parsed : libraries.rustParse text = some (.object fields))
    (known : type = "session.started" ∨ type = "session.ended")
    (header : Header fields type id payload) {event : SessionEvent}
    (read : rustEvent libraries text = some event) :
    ¬ Unreadable libraries fields type id payload ∧
    ∃ written sessionId json, id = some (.string written) ∧
      libraries.parseUuid written = some sessionId ∧ payload = some json ∧
      ((∃ started, type = "session.started" ∧ decodeSessionStarted json = some started ∧
          event = .started (libraries.uuidText sessionId) (Go.domainName started.domain)) ∨
        (type = "session.ended" ∧ event = .ended (libraries.uuidText sessionId))) := by
  have text_ {sessionId : SessionId}
      (found : id.bind (decodeSessionId libraries) = some sessionId) :
      ∃ written, id = some (.string written) ∧ libraries.parseUuid written = some sessionId := by
    obtain ⟨value, rfl, found⟩ := Option.bind_eq_some_iff.mp found
    cases value with
    | string written => exact ⟨written, rfl, found⟩
    | _ => cases found
  rcases known with rfl | rfl
  · rw [rustEvent_started parsed header] at read
    obtain ⟨requestId, request, read⟩ := Option.bind_eq_some_iff.mp read
    obtain ⟨sessionId, session, read⟩ := Option.bind_eq_some_iff.mp read
    obtain ⟨started, content, rfl⟩ := Option.map_eq_some_iff.mp read
    obtain ⟨written, rfl, uuid⟩ := text_ session
    obtain ⟨json, rfl, decoded⟩ := Option.bind_eq_some_iff.mp content
    refine ⟨?_, written, sessionId, json, rfl, uuid, rfl, .inl ⟨started, rfl, decoded, rfl⟩⟩
    rintro (none | ⟨-, other⟩ | ⟨-, other⟩ | ⟨ended, -⟩)
    · rw [none written rfl] at uuid
      cases uuid
    · exact other (atMostOne_of_isSome (fun _ => isText_iff.mpr)
        (Option.isSome_iff_exists.mpr ⟨requestId, request⟩))
    · rw [other json rfl] at decoded
      cases decoded
    · exact absurd ended (by decide)
  · rw [rustEvent_ended parsed header] at read
    obtain ⟨sessionId, session, read⟩ := Option.bind_eq_some_iff.mp read
    obtain ⟨reason, content, rfl⟩ := Option.map_eq_some_iff.mp read
    obtain ⟨written, rfl, uuid⟩ := text_ session
    obtain ⟨json, rfl, decoded⟩ := Option.bind_eq_some_iff.mp content
    refine ⟨?_, written, sessionId, json, rfl, uuid, rfl, .inr ⟨rfl, rfl⟩⟩
    rintro (none | ⟨started, -⟩ | ⟨started, -⟩ | ⟨-, other⟩)
    · rw [none written rfl] at uuid
      cases uuid
    · exact absurd started (by decide)
    · exact absurd started (by decide)
    · rw [other json rfl] at decoded
      cases decoded

/-! ## Fair frames are in step -/

theorem inStep_of_unchanged (go_ : change go (goEvent libraries text) = none)
    (rust_ : change go (rustEvent libraries text) = none) : InStep libraries go text where
  same := go_.trans rust_.symm
  decoded changes := absurd go_ changes

theorem change_eq_none {event : Option SessionEvent}
    (unmoved : ∀ read, event = some read → matters go read = false) : change go event = none := by
  cases event with
  | none => rfl
  | some read => simp [change, unmoved read rfl]

/-- Both clients read a sound start of a session, and neither finds an error. -/
theorem inStep_started (lawful : libraries.Lawful)
    (goParsed : libraries.goParse text = some (.object fields))
    (rustParsed : libraries.rustParse text = some (.object fields)) {payload : Fields Json}
    {id : SessionId} {domain : CapabilityDomain}
    (header : Header fields "session.started" (some (.string (libraries.uuidText id)))
      (some (.object payload)))
    (typed : Typed fields) (requestId : AtMostOne "request_id" fields IsText)
    (sound : SoundStarted domain payload) : InStep libraries go text := by
  obtain ⟨envelope, found, type_, sessionId, payload_⟩ := goEnvelope_typed goParsed header typed
  have goRead : goEvent libraries text =
      some (.started (libraries.uuidText id) (Go.domainName domain)) := by
    rw [goEvent, found, Option.bind_some, envelopeEvent, type_, sessionId, payload_, decodePayload,
      unmarshal_domain sound.domain]
    rfl
  have rustRead : rustEvent libraries text =
      some (.started (libraries.uuidText id) (Go.domainName domain)) := by
    obtain ⟨request, requested⟩ := Option.isSome_iff_exists.mp
      (requestId.isSome fun _ => isText_iff.mp)
    obtain ⟨read, decoded, rfl⟩ := sound.read
    rw [rustEvent_started rustParsed header, requested, Option.bind_some, Option.bind_some,
      Option.bind_some, decodeSessionId, Json.asString?, Option.bind_some, lawful.parse_text,
      Option.bind_some, decoded]
    rfl
  constructor
  case same => rw [goRead, rustRead]
  case decoded =>
    intro _ other same
    rw [found] at same
    rw [← Option.some.inj same, payloadFails, if_pos type_, payload_]
    exact sound.taken

theorem inStep_ended (lawful : libraries.Lawful)
    (goParsed : libraries.goParse text = some (.object fields))
    (rustParsed : libraries.rustParse text = some (.object fields)) {payload : Fields Json}
    {id : SessionId}
    (header : Header fields "session.ended" (some (.string (libraries.uuidText id)))
      (some (.object payload)))
    (typed : Typed fields) (sound : SoundEnded payload) : InStep libraries go text := by
  obtain ⟨envelope, found, type_, sessionId, payload_⟩ := goEnvelope_typed goParsed header typed
  have goRead : goEvent libraries text = some (.ended (libraries.uuidText id)) := by
    rw [goEvent, found, Option.bind_some, envelopeEvent, type_, sessionId]
    rfl
  have rustRead : rustEvent libraries text = some (.ended (libraries.uuidText id)) := by
    obtain ⟨reason, decoded⟩ := sound.read
    rw [rustEvent_ended rustParsed header, Option.bind_some, Option.bind_some, decodeSessionId,
      Json.asString?, Option.bind_some, lawful.parse_text, Option.bind_some, decoded]
    rfl
  constructor
  case same => rw [goRead, rustRead]
  case decoded =>
    intro _ other same
    rw [found] at same
    have notStarted : "session.ended" ≠ "session.started" := by decide
    rw [← Option.some.inj same, payloadFails, type_, if_neg notStarted, payload_]
    exact sound.taken

/-- A frame of a session that neither client reads changes nothing. -/
theorem inStep_refused {type : String} (goParsed : libraries.goParse text = some (.object fields))
    (rustParsed : libraries.rustParse text = some (.object fields))
    (known : type = "session.started" ∨ type = "session.ended")
    (header : Header fields type id payload) (notGo : ¬ Typed fields ∨ id = none ∨ id = some .null)
    (notRust : Unreadable libraries fields type id payload) : InStep libraries go text := by
  apply inStep_of_unchanged
  · apply change_eq_none
    intro event read
    obtain ⟨sessionId, same, -⟩ := goEvent_header goParsed header read
    rcases notGo with untyped | rfl | rfl
    · rw [goEvent_untyped goParsed header.type untyped] at read
      cases read
    · cases same
    · cases same
  · apply change_eq_none
    intro event read
    exact absurd notRust (rustEvent_header rustParsed known header read).1

/-- The client in Rust knows the active session by the id that the text stands for. -/
theorem uuidText_active (lawful : libraries.Lawful) (agree : go = sessionOf libraries rust)
    (active : go.activeSessionId ≠ "") {sessionId : SessionId}
    (uuid : libraries.parseUuid go.activeSessionId = some sessionId) :
    libraries.uuidText sessionId = go.activeSessionId := by
  rw [agree] at active uuid ⊢
  cases known : rust.activeSessionId with
  | none =>
    rw [sessionOf, known] at active
    exact absurd rfl active
  | some id =>
    have text_ : (sessionOf libraries rust).activeSessionId = libraries.uuidText id := by
      rw [sessionOf, known]
      rfl
    rw [text_, lawful.parse_text] at uuid
    rw [text_, Option.some.inj uuid]

/-- A start of the session that is active changes nothing. -/
theorem inStep_repeated (lawful : libraries.Lawful) (agree : go = sessionOf libraries rust)
    (goParsed : libraries.goParse text = some (.object fields))
    (rustParsed : libraries.rustParse text = some (.object fields)) {payload : Fields Json}
    (active : go.activeSessionId ≠ "")
    (header : Header fields "session.started" (some (.string go.activeSessionId))
      (some (.object payload)))
    (domain : Agreed "domain" payload (some (.string go.activeSessionDomain))) :
    InStep libraries go text := by
  apply inStep_of_unchanged
  · apply change_eq_none
    intro event read
    obtain ⟨sessionId, same, ⟨-, rfl⟩ | ⟨ended, -⟩⟩ := goEvent_header goParsed header read
    · rw [decodePayload, unmarshal_domain domain, ← Json.string.inj (Option.some.inj same)]
      simp [matters]
    · exact absurd ended (by decide)
  · apply change_eq_none
    intro event read
    obtain ⟨-, written, sessionId, json, same, uuid, content, started | ⟨ended, -⟩⟩ :=
      rustEvent_header rustParsed (.inl rfl) header read
    · obtain ⟨payload, -, decoded, rfl⟩ := started
      obtain rfl := Option.some.inj content
      rw [← Json.string.inj (Option.some.inj same)] at uuid
      rw [decodeSessionStarted_domain domain decoded, uuidText_active lawful agree active uuid]
      simp [matters]
    · exact absurd ended (by decide)

/-- An end of another session than the active one changes nothing. -/
theorem inStep_elsewhere (goParsed : libraries.goParse text = some (.object fields))
    (rustParsed : libraries.rustParse text = some (.object fields))
    (header : Header fields "session.ended" id payload)
    (inactive : go = {} ∨ ∀ text, id = some (.string text) → text ≠ go.activeSessionId ∧
      ∀ known, libraries.parseUuid text = some known →
        libraries.uuidText known ≠ go.activeSessionId) : InStep libraries go text := by
  apply inStep_of_unchanged
  · apply change_eq_none
    intro event read
    obtain ⟨sessionId, same, ⟨started, -⟩ | ⟨-, rfl⟩⟩ := goEvent_header goParsed header read
    · exact absurd started (by decide)
    · rcases inactive with none | other
      · simp [matters, none]
      · simp [matters, (other sessionId same).1]
  · apply change_eq_none
    intro event read
    obtain ⟨-, written, sessionId, json, same, uuid, -, ⟨_, started, -⟩ | ⟨-, rfl⟩⟩ :=
      rustEvent_header rustParsed (.inr rfl) header read
    · exact absurd started (by decide)
    · rcases inactive with none | other
      · simp [matters, none]
      · simp [matters, (other written same).2 sessionId uuid]

/-- With clients that agree, a fair frame is in step. -/
theorem inStep_of_fair (lawful : libraries.Lawful) (agree : go = sessionOf libraries rust)
    (fair : Fair libraries go text) : InStep libraries go text := by
  cases fair with
  | other quiet quiet' =>
    apply inStep_of_unchanged
    · rw [goEvent_noSession quiet]
      rfl
    · rw [rustEvent_noSession quiet']
      rfl
  | session goParsed rustParsed fair =>
    cases fair with
    | started id domain header typed requestId sound =>
      exact inStep_started lawful goParsed rustParsed header typed requestId sound
    | ended id header typed sound =>
      exact inStep_ended lawful goParsed rustParsed header typed sound
    | refused known header notGo notRust =>
      exact inStep_refused goParsed rustParsed known header notGo notRust
    | repeated active header domain =>
      exact inStep_repeated lawful agree goParsed rustParsed active header domain
    | elsewhere header inactive => exact inStep_elsewhere goParsed rustParsed header inactive

/-! ## Runs -/

/-- Clients that agree track the same session along fair frames. -/
theorem tracked_along (lawful : libraries.Lawful) {texts : List String}
    (agree : Agree libraries go rust) (fair : AllFair libraries go texts) :
    Tracked libraries go rust texts := by
  induction texts generalizing go rust with
  | nil => trivial
  | cons text texts ih =>
    obtain ⟨first, rest⟩ := fair
    have inStep := inStep_of_fair lawful ((agree_iff lawful).mp agree) first
    have tracks := tracks_of_inStep lawful agree inStep
    exact ⟨tracks, ih tracks.agree rest⟩

/-- The clients track the same session from the start of a connection, along fair frames. -/
theorem tracked (lawful : libraries.Lawful) (texts : List String)
    (fair : AllFair libraries {} texts) : Tracked libraries {} {} texts :=
  tracked_along lawful ((agree_iff lawful).mpr rfl) fair

/-! ## The frames of the gateway -/

/-- Of the names that the gateway writes, each stands for itself only. -/
theorem matchesField_envelope :
    ∀ key ∈ ["type", "request_id", "session_id", "payload"],
      ∀ name ∈ ["type", "request_id", "session_id", "sequence", "payload"],
        matchesField key name = decide (key = name) := by
  decide

theorem matchesField_started :
    ∀ key ∈ ["domain", "provider_id", "accepted_input_format", "accepted_output_format",
        "input_mode", "output_mode"],
      ∀ name ∈ ["domain", "provider_id", "accepted_input_format", "accepted_output_format"],
        matchesField key name = decide (key = name) := by
  decide

theorem matchesField_format :
    ∀ key ∈ ["encoding", "sample_rate_hz", "channels"],
      ∀ name ∈ ["encoding", "sample_rate_hz", "channels"],
        matchesField key name = decide (key = name) := by
  decide

/-- An object with another type, whose other fields are not taken for its type. -/
def OtherType (json : Json) : Prop :=
  ∃ (type : String) (fields : Fields Json), json = .object (("type", .string type) :: fields) ∧
    type ≠ "session.started" ∧ type ≠ "session.ended" ∧
    ∀ field ∈ fields, matchesField field.1 "type" = false

/-- A frame that the gateway writes: an event of a session, or a message of another type. -/
def FromGateway (libraries : Libraries) (json : Json) : Prop :=
  (∃ message, encodeServerMessage libraries message = some json) ∨ OtherType json

theorem noSession_of_otherType (other : OtherType json) : NoSession json := by
  obtain ⟨type, fields, rfl, notStarted, notEnded, others⟩ := other
  intro value listed
  obtain ⟨field, member, here, rfl⟩ := mem_goValues.mp listed
  rcases List.mem_cons.mp member with rfl | member
  · exact ⟨fun same => notStarted (Json.string.inj same),
      fun same => notEnded (Json.string.inj same)⟩
  · rw [others field member] at here
    cases here

theorem isText_pointer (pointer : Option String) :
    IsText (Go.marshalPointer encodeString pointer) := by
  cases pointer <;> trivial

theorem isFormat_marshalled (format : Option AudioFormat) :
    IsFormat (Go.marshalPointer Go.marshalFormat format) := by
  cases format with
  | none => exact .inl rfl
  | some format =>
    refine .inr ⟨_, rfl, ?_⟩
    constructor
    case encoding =>
      exact ⟨format.encoding, by constructor <;> simp [goValues, values, matchesField_format]⟩
    case sampleRateHz =>
      refine ⟨_, _, ?_, Json.toNat?_ofNat format.sampleRateHz.toNat_lt⟩
      constructor <;> simp [goValues, values, matchesField_format]
    case channels =>
      refine ⟨_, _, ?_, Json.toNat?_ofNat format.channels.toNat_lt⟩
      constructor <;> simp [goValues, values, matchesField_format]

theorem isMode_pointer (mode : Option StreamMode) :
    IsMode (Go.marshalPointer encodeStreamMode mode) := by
  cases mode with
  | none => exact .inl rfl
  | some mode => exact .inr ⟨mode, rfl⟩

/-- The payloads that the gateway writes are sound. -/
theorem soundStarted_encoded (payload : SessionStartedPayload) :
    ∃ fields, encodeSessionStarted payload = .object fields ∧
      SoundStarted payload.domain fields := by
  refine ⟨_, rfl, ?_⟩
  constructor
  case domain => constructor <;> simp [goValues, values, matchesField_started]
  case providerId =>
    exact ⟨payload.providerId, by constructor <;> simp [goValues, values, matchesField_started]⟩
  case inputFormat =>
    refine ⟨some (Go.marshalPointer Go.marshalFormat payload.acceptedInputFormat), ?_, ?_⟩
    · constructor <;> simp [goValues, values, matchesField_started]
    · rintro _ ⟨⟩
      exact isFormat_marshalled payload.acceptedInputFormat
  case outputFormat =>
    refine ⟨some (Go.marshalPointer Go.marshalFormat payload.acceptedOutputFormat), ?_, ?_⟩
    · constructor <;> simp [goValues, values, matchesField_started]
    · rintro _ ⟨⟩
      exact isFormat_marshalled payload.acceptedOutputFormat
  case inputMode => exact .inr ⟨_, by simp [values], isMode_pointer payload.inputMode⟩
  case outputMode => exact .inr ⟨_, by simp [values], isMode_pointer payload.outputMode⟩

theorem soundEnded_encoded (reason : Option String) :
    SoundEnded [("reason", Go.marshalPointer encodeString reason)] where
  go value listed := by
    obtain ⟨field, member, -, rfl⟩ := mem_goValues.mp listed
    rw [List.mem_singleton.mp member]
    exact isText_pointer reason
  rust := .inr ⟨_, by simp [values], isText_pointer reason⟩

/-- Every frame that the gateway writes is fair to any session. -/
theorem fair_of_fromGateway (written : FromGateway libraries json)
    (goParsed : libraries.goParse text = some json)
    (rustParsed : libraries.rustParse text = some json) : Fair libraries session text := by
  rcases written with ⟨message, encoded⟩ | other
  · refine .session goParsed rustParsed ?_
    cases message with
    | sessionStarted requestId id payload =>
      obtain ⟨fields, content, sound⟩ := soundStarted_encoded payload
      rw [encodeServerMessage, content] at encoded
      obtain rfl := Option.some.inj encoded
      refine .started id payload.domain ⟨?_, ?_, ?_⟩ ⟨?_, ?_, ?_⟩ ?_ sound
      · constructor <;> simp [goValues, values, matchesField_envelope]
      · constructor <;> simp [goValues, values, matchesField_envelope]
      · constructor <;> simp [goValues, values, matchesField_envelope]
      · simp [goValues, matchesField_envelope, isText_pointer]
      · simp [goValues, matchesField_envelope, IsText]
      · simp [goValues, matchesField_envelope]
      · exact .inr ⟨_, by simp [values], isText_pointer (requestId.map RequestId.value)⟩
    | sessionEnded id reason =>
      obtain rfl := Option.some.inj encoded
      refine .ended id ⟨?_, ?_, ?_⟩ ⟨?_, ?_, ?_⟩ (soundEnded_encoded reason)
      · constructor <;> simp [goValues, values, matchesField_envelope]
      · constructor <;> simp [goValues, values, matchesField_envelope]
      · constructor <;> simp [goValues, values, matchesField_envelope]
      · simp [goValues, matchesField_envelope]
      · simp [goValues, matchesField_envelope, IsText]
      · simp [goValues, matchesField_envelope]
    | _ => cases encoded
  · apply Fair.other
    · intro read parsed
      rw [goParsed] at parsed
      obtain rfl := Option.some.inj parsed
      exact noSession_of_otherType other
    · intro read parsed
      rw [rustParsed] at parsed
      obtain rfl := Option.some.inj parsed
      exact noSession_of_otherType other

theorem allFair_of_fromGateway {texts : List String}
    (written : ∀ text ∈ texts, ∃ json, FromGateway libraries json ∧
      libraries.goParse text = some json ∧ libraries.rustParse text = some json)
    (session : GoClient) : AllFair libraries session texts := by
  induction texts generalizing session with
  | nil => trivial
  | cons text texts ih =>
    rw [List.forall_mem_cons] at written
    obtain ⟨⟨json, fromGateway, goParsed, rustParsed⟩, rest⟩ := written
    exact ⟨fair_of_fromGateway fromGateway goParsed rustParsed, ih rest _⟩

/-- The clients track the same session along the frames of the gateway. -/
theorem tracked_fromGateway (lawful : libraries.Lawful) {texts : List String}
    (written : ∀ text ∈ texts, ∃ json, FromGateway libraries json ∧
      libraries.goParse text = some json ∧ libraries.rustParse text = some json) :
    Tracked libraries {} {} texts :=
  tracked_along lawful ((agree_iff lawful).mpr rfl) (allFair_of_fromGateway written {})

/-! ## Some frames -/

def sampleUuid : String := "67e55044-10b1-426f-9247-bb680e5fe0c8"

def sampleUuidText (id : SessionId) : String :=
  if id = ⟨0, 0⟩ then sampleUuid
  else String.ofList (List.replicate id.creator 'a' ++ List.replicate id.serial 'b')

def sampleParseUuid (text : String) : Option SessionId :=
  if text = sampleUuid then some ⟨0, 0⟩
  else some ⟨text.toList.count 'a', text.toList.count 'b'⟩

def startedText : String :=
  "\x7b\"type\":\"session.started\",\"request_id\":\"req_1\"," ++
    "\"session_id\":\"67e55044-10b1-426f-9247-bb680e5fe0c8\"," ++
    "\"payload\":\x7b\"domain\":\"asr\",\"provider_id\":\"mock.asr\"," ++
    "\"accepted_input_format\":null,\"accepted_output_format\":null," ++
    "\"input_mode\":null,\"output_mode\":null\x7d\x7d"

def startedJson : Json :=
  .object [
    ("type", .string "session.started"),
    ("request_id", .string "req_1"),
    ("session_id", .string sampleUuid),
    ("payload", .object [
      ("domain", .string "asr"),
      ("provider_id", .string "mock.asr"),
      ("accepted_input_format", .null),
      ("accepted_output_format", .null),
      ("input_mode", .null),
      ("output_mode", .null)])]

def endedText : String :=
  "\x7b\"type\":\"session.ended\",\"session_id\":\"67e55044-10b1-426f-9247-bb680e5fe0c8\"," ++
    "\"payload\":\x7b\"reason\":\"stopped\"\x7d\x7d"

def endedJson : Json :=
  .object [
    ("type", .string "session.ended"),
    ("session_id", .string sampleUuid),
    ("payload", .object [("reason", .string "stopped")])]

/-- The start of a session without its id, which neither client takes up. -/
def namelessText : String := "\x7b\"type\":\"session.started\",\"payload\":\x7b\x7d\x7d"

def namelessJson : Json := .object [("type", .string "session.started"), ("payload", .object [])]

/-- A session with a number for its provider. -/
def brokenText : String :=
  "\x7b\"type\":\"session.started\",\"session_id\":\"67e55044-10b1-426f-9247-bb680e5fe0c8\"," ++
    "\"payload\":\x7b\"domain\":\"asr\",\"provider_id\":7\x7d\x7d"

def brokenJson : Json :=
  .object [
    ("type", .string "session.started"),
    ("session_id", .string sampleUuid),
    ("payload", .object [("domain", .string "asr"), ("provider_id", .number "7")])]

def sampleParse (text : String) : Option Json :=
  if text = startedText then some startedJson
  else if text = endedText then some endedJson
  else if text = namelessText then some namelessJson
  else if text = brokenText then some brokenJson
  else none

def sampleLibraries : Libraries where
  goParse := sampleParse
  rustParse := sampleParse
  parseUuid := sampleParseUuid
  uuidText := sampleUuidText
  goPayloadFails _ _ := false
  otherMessage _ _ := none

theorem sampleUuidText_ne {id : SessionId} (other : id ≠ ⟨0, 0⟩) :
    sampleUuidText id ≠ sampleUuid := by
  intro same
  rw [sampleUuidText, if_neg other] at same
  have dash : '-' ∈ sampleUuid.toList := by decide
  rw [← same, String.toList_ofList, List.mem_append, List.mem_replicate, List.mem_replicate] at dash
  rcases dash with ⟨_, letter⟩ | ⟨_, letter⟩
  · exact absurd letter (by decide)
  · exact absurd letter (by decide)

theorem sampleLibraries_lawful : sampleLibraries.Lawful where
  parse_text id := by
    change sampleParseUuid (sampleUuidText id) = some id
    by_cases zero : id = ⟨0, 0⟩
    · rw [zero]
      rfl
    · rw [sampleParseUuid, if_neg (sampleUuidText_ne zero), sampleUuidText, if_neg zero,
        String.toList_ofList]
      simp [List.count_replicate]
  text_ne_empty id := by
    change sampleUuidText id ≠ ""
    rw [sampleUuidText]
    split_ifs with zero
    · decide
    · intro empty
      apply zero
      have letters := congrArg String.toList empty
      rw [String.toList_ofList] at letters
      simp at letters
      obtain ⟨creator, serial⟩ := id
      simp_all

theorem sampleParse_started : sampleParse startedText = some startedJson := by
  rw [sampleParse, if_pos rfl]

theorem sampleParse_ended : sampleParse endedText = some endedJson := by
  rw [sampleParse, if_neg (by decide), if_pos rfl]

theorem sampleParse_nameless : sampleParse namelessText = some namelessJson := by
  rw [sampleParse, if_neg (by decide), if_neg (by decide), if_pos rfl]

theorem sampleParse_broken : sampleParse brokenText = some brokenJson := by
  rw [sampleParse, if_neg (by decide), if_neg (by decide), if_neg (by decide), if_pos rfl]

theorem sample_parsed {json : Json} (read : sampleParse text = some json) :
    sampleLibraries.goParse text = some json ∧ sampleLibraries.rustParse text = some json :=
  ⟨read, read⟩

theorem sampleUuid_text : sampleLibraries.uuidText ⟨0, 0⟩ = sampleUuid := by
  change sampleUuidText ⟨0, 0⟩ = sampleUuid
  rw [sampleUuidText, if_pos rfl]

theorem startedJson_fromGateway : FromGateway sampleLibraries startedJson := by
  left
  use .sessionStarted (some ⟨"req_1"⟩) ⟨0, 0⟩ ⟨.asr, "mock.asr", none, none, none, none⟩
  rw [encodeServerMessage, sampleUuid_text]
  rfl

theorem endedJson_fromGateway : FromGateway sampleLibraries endedJson := by
  left
  use .sessionEnded ⟨0, 0⟩ (some "stopped")
  rw [encodeServerMessage, sampleUuid_text]
  rfl

theorem startedText_fair : Fair sampleLibraries session startedText := by
  obtain ⟨go, rust⟩ := sample_parsed sampleParse_started
  exact fair_of_fromGateway startedJson_fromGateway go rust

theorem endedText_fair : Fair sampleLibraries session endedText := by
  obtain ⟨go, rust⟩ := sample_parsed sampleParse_ended
  exact fair_of_fromGateway endedJson_fromGateway go rust

theorem namelessText_fair : Fair sampleLibraries session namelessText := by
  obtain ⟨go, rust⟩ := sample_parsed sampleParse_nameless
  refine .session go rust ?_
  have header : Header [("type", .string "session.started"), ("payload", .object [])]
      "session.started" none (some (.object [])) := by
    constructor
    case type => constructor <;> simp [goValues, values, matchesField_envelope]
    case sessionId => constructor <;> simp [goValues, values, matchesField_envelope]
    case payload => constructor <;> simp [goValues, values, matchesField_envelope]
  have nameless : ∀ text, (none : Option Json) = some (.string text) →
      sampleLibraries.parseUuid text = none := by
    intro text named
    cases named
  exact .refused (.inl rfl) header (.inr (.inl rfl)) (.sessionId nameless)

theorem gatewayFrames_tracked : Tracked sampleLibraries {} {} [startedText, endedText] := by
  apply tracked_fromGateway sampleLibraries_lawful
  intro text member
  rcases List.mem_cons.mp member with rfl | member
  · exact ⟨startedJson, startedJson_fromGateway, sample_parsed sampleParse_started⟩
  · rw [List.mem_singleton.mp member]
    exact ⟨endedJson, endedJson_fromGateway, sample_parsed sampleParse_ended⟩

theorem started_ended_tracked :
    Tracked sampleLibraries {} {} [startedText, namelessText, endedText] :=
  tracked sampleLibraries_lawful _ ⟨startedText_fair, namelessText_fair, endedText_fair, trivial⟩

/-- The client in Go reports an error and keeps the session of the frame. -/
theorem broken_not_tracked : ¬ Tracked sampleLibraries {} {} [brokenText] := by
  intro claimed
  have parsed : sampleLibraries.goParse brokenText = some brokenJson := sampleParse_broken
  have session : (({} : GoClient).recv sampleLibraries brokenText).1 = ⟨sampleUuid, "asr"⟩ := by
    rw [GoClient.recv, parsed]
    decide
  have failed : (({} : GoClient).recv sampleLibraries brokenText).2.isOk = false := by
    rw [GoClient.recv, parsed]
    decide
  cases result : (({} : GoClient).recv sampleLibraries brokenText).2 with
  | ok event =>
    rw [result] at failed
    contradiction
  | error error =>
    have kept := claimed.1.goError error result
    rw [session] at kept
    exact absurd kept (by decide)

end SessionTracking

end SpeechMesh.Soundness
