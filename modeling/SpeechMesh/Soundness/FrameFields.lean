import SpeechMesh.Model.SdkSessions
import SpeechMesh.Soundness.GoRequests

/-! # The fields that the two SDKs read

Go takes the fields of a struct in any case of their names, the last of those that are repeated, and
goes on after a value of another type. Rust asks for each name as it is, once. Where a field is
written once, in the letters that both expect, they find the same value.
-/

namespace SpeechMesh.Soundness

open Serde Model Model.Sdk

namespace SessionTracking

/-! ## Fields -/

/-- The values that the client in Go takes for a field, whatever the case of its name. -/
def goValues (name : String) (fields : Fields Json) : List Json :=
  fields.filterMap fun field => if matchesField field.1 name then some field.2 else none

/-- Both clients find the same value for a field, or none. -/
structure Agreed (name : String) (fields : Fields Json) (value : Option Json) : Prop where
  go : goValues name fields = value.toList
  rust : values name fields = value.toList

def IsText : Json → Prop
  | .null | .string _ => True
  | _ => False

def IsNumber (bound : ℕ) (json : Json) : Prop := json = .null ∨ ∃ n, json.toNat? bound = some n

/-- The fields by which a frame of a session is told, each written once or not at all. -/
structure Header (fields : Fields Json) (type : String) (id payload : Option Json) : Prop where
  type : Agreed "type" fields (some (.string type))
  sessionId : Agreed "session_id" fields id
  payload : Agreed "payload" fields payload

/-- The values are of the types that the envelope in Go has for them. -/
structure Typed (fields : Fields Json) : Prop where
  requestId : ∀ value ∈ goValues "request_id" fields, IsText value
  sessionId : ∀ value ∈ goValues "session_id" fields, IsText value
  sequence : ∀ value ∈ goValues "sequence" fields, IsNumber (2 ^ 64) value

/-- At most one value, of this kind, which the client in Rust looks for. -/
def AtMostOne (name : String) (fields : Fields Json) (kind : Json → Prop) : Prop :=
  values name fields = [] ∨ ∃ value, values name fields = [value] ∧ kind value

/-! ## Payloads -/

structure SoundFormat (fields : Fields Json) : Prop where
  encoding : ∃ encoding : AudioEncoding, Agreed "encoding" fields (some (.string encoding.toName))
  sampleRateHz : ∃ value n, Agreed "sample_rate_hz" fields (some value) ∧
    value.toNat? (2 ^ 32) = some n
  channels : ∃ value n, Agreed "channels" fields (some value) ∧ value.toNat? (2 ^ 16) = some n

def IsFormat (json : Json) : Prop :=
  json = .null ∨ ∃ fields, json = .object fields ∧ SoundFormat fields

def IsMode (json : Json) : Prop := json = .null ∨ ∃ mode, json = encodeStreamMode mode

structure SoundStarted (domain : CapabilityDomain) (fields : Fields Json) : Prop where
  domain : Agreed "domain" fields (some (.string (Go.domainName domain)))
  providerId : ∃ providerId, Agreed "provider_id" fields (some (.string providerId))
  inputFormat : ∃ format, Agreed "accepted_input_format" fields format ∧
    ∀ json ∈ format, IsFormat json
  outputFormat : ∃ format, Agreed "accepted_output_format" fields format ∧
    ∀ json ∈ format, IsFormat json
  inputMode : AtMostOne "input_mode" fields IsMode
  outputMode : AtMostOne "output_mode" fields IsMode

structure SoundEnded (fields : Fields Json) : Prop where
  go : ∀ value ∈ goValues "reason" fields, IsText value
  rust : AtMostOne "reason" fields IsText

variable {type name other key : String} {fields : Fields Json} {json value : Json}
  {id payload : Option Json}

/-! ## Structs in Go -/

section Structs

variable {σ β : Type} {assign : σ → String → Json → Unmarshalled σ} {target : σ}

/-- A key is taken for one field only. -/
theorem matchesField_of_matches (here : matchesField key name = true) :
    matchesField key other = matchesField name other := by
  rw [matchesField, beq_iff_eq] at here
  rw [matchesField, matchesField, here]

theorem matchesField_self : matchesField name name = true := by
  rw [matchesField, beq_iff_eq]

theorem goValues_cons_self (here : matchesField key name = true) :
    goValues name ((key, value) :: fields) = value :: goValues name fields := by
  simp [goValues, here]

theorem goValues_cons_of_ne (elsewhere : matchesField key name = false) :
    goValues name ((key, value) :: fields) = goValues name fields := by
  simp [goValues, elsewhere]

/-- The loop of `unmarshalStruct` over the fields. -/
def assignAll (assign : σ → String → Json → Unmarshalled σ) (start : Unmarshalled σ)
    (fields : Fields Json) : Unmarshalled σ :=
  fields.foldl
    (fun decoded field =>
      let assigned := assign decoded.value field.1 field.2
      ⟨assigned.value, decoded.failed || assigned.failed⟩)
    start

theorem unmarshalStruct_object :
    unmarshalStruct assign target (.object fields) = assignAll assign ⟨target, false⟩ fields := rfl

/-- A field that is not written stays as it was. -/
theorem assignAll_absent {start : Unmarshalled σ} (get : σ → β)
    (miss : ∀ target key json, matchesField key name = false →
      get (assign target key json).value = get target)
    (absent : goValues name fields = []) :
    get (assignAll assign start fields).value = get start.value := by
  induction fields generalizing start with
  | nil => rfl
  | cons field fields ih =>
    obtain ⟨key, json⟩ := field
    by_cases here : matchesField key name = true
    · rw [goValues_cons_self here] at absent
      cases absent
    · rw [Bool.not_eq_true] at here
      rw [goValues_cons_of_ne here] at absent
      exact (ih absent).trans (miss start.value key json here)

/-- A field that is written once is assigned once. -/
theorem assignAll_once {start : Unmarshalled σ} {result : β} (get : σ → β)
    (miss : ∀ target key json, matchesField key name = false →
      get (assign target key json).value = get target)
    (hit : ∀ target key, matchesField key name = true →
      get (assign target key value).value = result)
    (once : goValues name fields = [value]) :
    get (assignAll assign start fields).value = result := by
  induction fields generalizing start with
  | nil => cases once
  | cons field fields ih =>
    obtain ⟨key, json⟩ := field
    by_cases here : matchesField key name = true
    · rw [goValues_cons_self here] at once
      obtain ⟨rfl, absent⟩ := List.cons.inj once
      exact (assignAll_absent get miss absent).trans (hit start.value key here)
    · rw [Bool.not_eq_true] at here
      rw [goValues_cons_of_ne here] at once
      exact ih once

theorem mem_goValues :
    value ∈ goValues name fields ↔
      ∃ field ∈ fields, matchesField field.1 name = true ∧ field.2 = value := by
  simp only [goValues, List.mem_filterMap, Option.ite_none_right_eq_some, Option.some.injEq]

theorem values_subset (name : String) (fields : Fields Json) :
    values name fields ⊆ goValues name fields := by
  intro value listed
  obtain ⟨field, member, same⟩ := List.mem_filterMap.mp listed
  rw [Option.ite_none_right_eq_some, Option.some.injEq] at same
  exact mem_goValues.mpr ⟨field, member, same.1 ▸ matchesField_self, same.2⟩

/-- An error is found if and only if a field has a value that it does not take, whatever the fields
before it. -/
theorem unmarshalStruct_failed (refusals : List (String × (Json → Prop)))
    (fails : ∀ target key json, (assign target key json).failed = true ↔
      ∃ refusal ∈ refusals, matchesField key refusal.1 = true ∧ refusal.2 json) :
    (unmarshalStruct assign target (.object fields)).failed = true ↔
      ∃ refusal ∈ refusals, ∃ value ∈ goValues refusal.1 fields, refusal.2 value := by
  have found (start : Unmarshalled σ) : (assignAll assign start fields).failed = true ↔
      start.failed = true ∨ ∃ field ∈ fields, ∃ refusal ∈ refusals,
        matchesField field.1 refusal.1 = true ∧ refusal.2 field.2 := by
    induction fields generalizing start with
    | nil => simp [assignAll]
    | cons field fields ih =>
      have rest : (assignAll assign start (field :: fields)).failed = true ↔ _ :=
        ih ⟨(assign start.value field.1 field.2).value,
          start.failed || (assign start.value field.1 field.2).failed⟩
      rw [rest, Bool.or_eq_true, fails, List.exists_mem_cons_iff, or_assoc]
  rw [unmarshalStruct_object, found]
  constructor
  · rintro (failed | ⟨field, member, refusal, listed, here, refused⟩)
    · cases failed
    · exact ⟨refusal, listed, field.2, mem_goValues.mpr ⟨field, member, here, rfl⟩, refused⟩
  · rintro ⟨refusal, listed, value, found, refused⟩
    obtain ⟨field, member, here, rfl⟩ := mem_goValues.mp found
    exact .inr ⟨field, member, refusal, listed, here, refused⟩

end Structs

/-! ## What the client in Go reads -/

theorem unmarshalString_failed {target : String} :
    (unmarshalString target json).failed = true ↔ ¬ IsText json := by
  cases json <;> simp [unmarshalString, IsText]

theorem unmarshalStringPointer_failed :
    (unmarshalStringPointer json).failed = true ↔ ¬ IsText json := by
  cases json <;> simp [unmarshalStringPointer, IsText]

theorem unmarshalUint_failed {bound target : ℕ} :
    (unmarshalUint bound target json).failed = true ↔ ¬ IsNumber bound json := by
  rw [unmarshalUint.eq_def, IsNumber]
  cases json with
  | null => simp
  | _ =>
    dsimp only
    split
    · simp_all
    · simp_all

/-- The names of the fields of an envelope differ in more than case. -/
theorem envelope_names :
    (["type", "request_id", "session_id", "sequence", "payload"] : List String).Pairwise
      fun left right => matchesField left right = false ∧ matchesField right left = false := by
  decide

/-- What the fields of an envelope do not take. -/
def envelopeRefusals : List (String × (Json → Prop)) :=
  [("type", fun json => ¬ IsText json), ("request_id", fun json => ¬ IsText json),
    ("session_id", fun json => ¬ IsText json), ("sequence", fun json => ¬ IsNumber (2 ^ 64) json)]

theorem assignEnvelope_failed (envelope : Envelope) (key : String) (json : Json) :
    (assignEnvelope envelope key json).failed = true ↔
      ∃ refusal ∈ envelopeRefusals, matchesField key refusal.1 = true ∧ refusal.2 json := by
  have names := envelope_names
  simp only [List.pairwise_cons, List.forall_mem_cons] at names
  simp only [envelopeRefusals, List.exists_mem_cons_iff]
  rw [assignEnvelope]
  split_ifs with isType isRequest isSession isSequence isPayload
  · simp [Unmarshalled.map, unmarshalString_failed, matchesField_of_matches isType, names,
      matchesField_self]
  · simp [Unmarshalled.map, unmarshalStringPointer_failed, matchesField_of_matches isRequest, names,
      matchesField_self]
  · simp [Unmarshalled.map, unmarshalStringPointer_failed, matchesField_of_matches isSession, names,
      matchesField_self]
  · simp [Unmarshalled.map, unmarshalUint_failed, matchesField_of_matches isSequence, names,
      matchesField_self]
  · simp [matchesField_of_matches isPayload, names]
  · simp_all

/-- The envelope is decoded without an error exactly if its values are of their types. -/
theorem envelope_failed (type_ : Agreed "type" fields (some (.string type))) :
    (unmarshalStruct assignEnvelope {} (.object fields)).failed = true ↔ ¬ Typed fields := by
  rw [unmarshalStruct_failed envelopeRefusals assignEnvelope_failed]
  simp only [envelopeRefusals, List.exists_mem_cons_iff, type_.go, Option.toList_some]
  constructor
  · rintro ((other | ⟨_, none, _⟩) | ⟨value, other⟩ | ⟨value, other⟩ | ⟨value, other⟩ |
      ⟨_, none, _⟩) typed
    · exact other trivial
    · cases none
    · exact other.2 (typed.requestId value other.1)
    · exact other.2 (typed.sessionId value other.1)
    · exact other.2 (typed.sequence value other.1)
    · cases none
  · intro untyped
    by_contra fine
    simp only [not_or, not_exists, not_and, not_not] at fine
    exact untyped ⟨fine.2.1, fine.2.2.1, fine.2.2.2.1⟩

/-- What the envelope has of a frame whose fields are each written once. -/
theorem envelope_of_header (header : Header fields type id payload) :
    (unmarshalStruct assignEnvelope {} (.object fields)).value.type = type ∧
      (unmarshalStruct assignEnvelope {} (.object fields)).value.sessionId =
        id.bind (fun value => (unmarshalStringPointer value).value) ∧
      (unmarshalStruct assignEnvelope {} (.object fields)).value.payload = payload := by
  have names := envelope_names
  simp only [List.pairwise_cons, List.forall_mem_cons] at names
  rw [unmarshalStruct_object]
  refine ⟨?_, ?_, ?_⟩
  · refine assignAll_once Envelope.type ?_ ?_ header.type.go
    · intro target key json other
      rw [assignEnvelope, other, if_neg Bool.false_ne_true]
      split_ifs <;> rfl
    · intro target key here
      rw [assignEnvelope, if_pos here]
      rfl
  · have miss (target : Envelope) (key : String) (json : Json)
        (other : matchesField key "session_id" = false) :
        (assignEnvelope target key json).value.sessionId = target.sessionId := by
      rw [assignEnvelope]
      split_ifs <;> first | rfl | simp_all
    cases id with
    | none => exact assignAll_absent Envelope.sessionId miss header.sessionId.go
    | some value =>
      refine assignAll_once Envelope.sessionId miss ?_ header.sessionId.go
      intro target key here
      rw [assignEnvelope, matchesField_of_matches here, matchesField_of_matches here, if_neg,
        if_neg, if_pos here]
      · rfl
      · simp [names]
      · simp [names]
  · have miss (target : Envelope) (key : String) (json : Json)
        (other : matchesField key "payload" = false) :
        (assignEnvelope target key json).value.payload = target.payload := by
      rw [assignEnvelope]
      split_ifs <;> first | rfl | simp_all
    cases payload with
    | none => exact assignAll_absent Envelope.payload miss header.payload.go
    | some value =>
      refine assignAll_once Envelope.payload miss ?_ header.payload.go
      intro target key here
      rw [assignEnvelope, matchesField_of_matches here, matchesField_of_matches here,
        matchesField_of_matches here, matchesField_of_matches here, if_neg, if_neg, if_neg, if_neg,
        if_pos here]
      · simp [names]
      · simp [names]
      · simp [names]
      · simp [names]

theorem assignEnvelope_type {envelope : Envelope} {key : String} {json : Json}
    (other : matchesField key "type" = false) :
    (assignEnvelope envelope key json).value.type = envelope.type := by
  rw [assignEnvelope, other, if_neg Bool.false_ne_true]
  split_ifs <;> rfl

/-- The type of an envelope is one of those written, if any. -/
theorem envelope_type (fields : Fields Json) :
    (unmarshalStruct assignEnvelope {} (.object fields)).value.type = "" ∨
      .string (unmarshalStruct assignEnvelope {} (.object fields)).value.type ∈
        goValues "type" fields := by
  have found (start : Unmarshalled Envelope) :
      (assignAll assignEnvelope start fields).value.type = start.value.type ∨
        .string (assignAll assignEnvelope start fields).value.type ∈ goValues "type" fields := by
    induction fields generalizing start with
    | nil => exact .inl rfl
    | cons field fields ih =>
      obtain ⟨key, json⟩ := field
      by_cases here : matchesField key "type" = true
      · rw [goValues_cons_self here]
        rcases ih ⟨(assignEnvelope start.value key json).value,
          start.failed || (assignEnvelope start.value key json).failed⟩ with kept | later
        · have assigned : (assignEnvelope start.value key json).value.type =
              (unmarshalString start.value.type json).value := by
            rw [assignEnvelope, if_pos here]
            rfl
          cases json with
          | string type => exact .inr (List.mem_cons.mpr (.inl (congrArg Json.string
              (kept.trans assigned))))
          | _ => exact .inl (kept.trans assigned)
        · exact .inr (List.mem_cons_of_mem json later)
      · rw [Bool.not_eq_true] at here
        rw [goValues_cons_of_ne here]
        rcases ih ⟨(assignEnvelope start.value key json).value,
          start.failed || (assignEnvelope start.value key json).failed⟩ with kept | later
        · exact .inl (kept.trans (assignEnvelope_type here))
        · exact .inr later
  exact found ⟨{}, false⟩

section Payloads

theorem format_names :
    (["encoding", "sample_rate_hz", "channels"] : List String).Pairwise
      fun left right => matchesField left right = false ∧ matchesField right left = false := by
  decide

theorem assignFormat_failed (format : GoAudioFormat) (key : String) (json : Json) :
    (assignFormat format key json).failed = true ↔
      ∃ refusal ∈ ([("encoding", fun json => ¬ IsText json),
        ("sample_rate_hz", fun json => ¬ IsNumber (2 ^ 32) json),
        ("channels", fun json => ¬ IsNumber (2 ^ 16) json)] : List (String × (Json → Prop))),
        matchesField key refusal.1 = true ∧ refusal.2 json := by
  have names := format_names
  simp only [List.pairwise_cons, List.forall_mem_cons] at names
  simp only [List.exists_mem_cons_iff]
  rw [assignFormat]
  split_ifs with isEncoding isRate isChannels
  · simp [Unmarshalled.map, unmarshalString_failed, matchesField_of_matches isEncoding, names,
      matchesField_self]
  · simp [-Nat.reducePow, Unmarshalled.map, unmarshalUint_failed, matchesField_of_matches isRate,
      names, matchesField_self]
  · simp [-Nat.reducePow, Unmarshalled.map, unmarshalUint_failed,
      matchesField_of_matches isChannels, names, matchesField_self]
  · simp_all

/-- The client in Go takes a format that is sound, whatever it had. -/
theorem format_taken (format : Option GoAudioFormat) (isFormat : IsFormat json) :
    (unmarshalFormatPointer format json).failed = false := by
  rcases isFormat with rfl | ⟨fields, rfl, sound⟩
  · rfl
  · obtain ⟨encoding, isEncoding⟩ := sound.encoding
    obtain ⟨rate, n, isRate, number⟩ := sound.sampleRateHz
    obtain ⟨channels, m, isChannels, number'⟩ := sound.channels
    rw [← Bool.not_eq_true]
    intro failed
    obtain ⟨refusal, listed, value, found, refused⟩ :=
      (unmarshalStruct_failed _ assignFormat_failed).mp failed
    simp only [List.mem_cons, List.not_mem_nil, or_false] at listed
    rcases listed with rfl | rfl | rfl
    · rw [isEncoding.go] at found
      rw [List.mem_singleton.mp found] at refused
      exact refused trivial
    · rw [isRate.go] at found
      rw [List.mem_singleton.mp found] at refused
      exact refused (.inr ⟨n, number⟩)
    · rw [isChannels.go] at found
      rw [List.mem_singleton.mp found] at refused
      exact refused (.inr ⟨m, number'⟩)

theorem unmarshalFormatPointer_failed (format : Option GoAudioFormat) :
    (unmarshalFormatPointer format json).failed = true ↔
      (unmarshalFormatPointer none json).failed = true := by
  cases json with
  | object fields =>
    exact (unmarshalStruct_failed _ assignFormat_failed).trans
      (unmarshalStruct_failed _ assignFormat_failed).symm
  | _ => exact Iff.rfl

theorem started_names :
    (["domain", "provider_id", "accepted_input_format", "accepted_output_format"] :
      List String).Pairwise
      fun left right => matchesField left right = false ∧ matchesField right left = false := by
  decide

/-- What the fields of a payload of `session.started` do not take. -/
def startedRefusals : List (String × (Json → Prop)) :=
  [("domain", fun json => ¬ IsText json), ("provider_id", fun json => ¬ IsText json),
    ("accepted_input_format", fun json => (unmarshalFormatPointer none json).failed = true),
    ("accepted_output_format", fun json => (unmarshalFormatPointer none json).failed = true)]

theorem assignStarted_failed (payload : GoSessionStarted) (key : String) (json : Json) :
    (assignStarted payload key json).failed = true ↔
      ∃ refusal ∈ startedRefusals, matchesField key refusal.1 = true ∧ refusal.2 json := by
  have names := started_names
  simp only [List.pairwise_cons, List.forall_mem_cons] at names
  simp only [startedRefusals, List.exists_mem_cons_iff]
  rw [assignStarted]
  split_ifs with isDomain isProvider isInput isOutput
  · simp [Unmarshalled.map, unmarshalString_failed, matchesField_of_matches isDomain, names,
      matchesField_self]
  · simp [Unmarshalled.map, unmarshalString_failed, matchesField_of_matches isProvider, names,
      matchesField_self]
  · simp [Unmarshalled.map, unmarshalFormatPointer_failed payload.acceptedInputFormat,
      matchesField_of_matches isInput, names, matchesField_self]
  · simp [Unmarshalled.map, unmarshalFormatPointer_failed payload.acceptedOutputFormat,
      matchesField_of_matches isOutput, names, matchesField_self]
  · simp_all

/-- The domain of a payload in which it is written once, with or without an error elsewhere. -/
theorem unmarshal_domain {domain : String} {payload : Fields Json}
    (once : Agreed "domain" payload (some (.string domain))) :
    (unmarshalStruct assignStarted {} (.object payload)).value.domain = domain := by
  rw [unmarshalStruct_object]
  refine assignAll_once GoSessionStarted.domain ?_ ?_ once.go
  · intro target key json other
    rw [assignStarted, other, if_neg Bool.false_ne_true]
    split_ifs <;> rfl
  · intro target key here
    rw [assignStarted, if_pos here]
    rfl

theorem SoundStarted.taken {domain : CapabilityDomain} {payload : Fields Json}
    (sound : SoundStarted domain payload) :
    (unmarshalStruct assignStarted {} (.object payload)).failed = false := by
  obtain ⟨providerId, isProvider⟩ := sound.providerId
  obtain ⟨input, isInput, inputFormat⟩ := sound.inputFormat
  obtain ⟨output, isOutput, outputFormat⟩ := sound.outputFormat
  rw [← Bool.not_eq_true]
  intro failed
  obtain ⟨refusal, listed, value, found, refused⟩ :=
    (unmarshalStruct_failed _ assignStarted_failed).mp failed
  simp only [startedRefusals, List.mem_cons, List.not_mem_nil, or_false] at listed
  rcases listed with rfl | rfl | rfl | rfl
  · rw [sound.domain.go] at found
    rw [List.mem_singleton.mp found] at refused
    exact refused trivial
  · rw [isProvider.go] at found
    rw [List.mem_singleton.mp found] at refused
    exact refused trivial
  · rw [isInput.go, Option.mem_toList] at found
    have taken := format_taken none (inputFormat value found)
    rw [refused] at taken
    cases taken
  · rw [isOutput.go, Option.mem_toList] at found
    have taken := format_taken none (outputFormat value found)
    rw [refused] at taken
    cases taken

theorem assignEnded_failed (payload : GoSessionEnded) (key : String) (json : Json) :
    (assignEnded payload key json).failed = true ↔
      ∃ refusal ∈ ([("reason", fun json => ¬ IsText json)] : List (String × (Json → Prop))),
        matchesField key refusal.1 = true ∧ refusal.2 json := by
  simp only [List.exists_mem_cons_iff]
  rw [assignEnded]
  split_ifs with isReason
  · simp [Unmarshalled.map, unmarshalStringPointer_failed, isReason]
  · simp [isReason]

theorem SoundEnded.taken {payload : Fields Json} (sound : SoundEnded payload) :
    (unmarshalStruct assignEnded {} (.object payload)).failed = false := by
  rw [← Bool.not_eq_true]
  intro failed
  obtain ⟨refusal, listed, value, found, refused⟩ :=
    (unmarshalStruct_failed _ assignEnded_failed).mp failed
  rw [List.mem_singleton.mp listed] at found refused
  exact refused (sound.go value found)

end Payloads

/-! ## What the client in Rust reads -/

section Rust

theorem required_of_option {α : Type} {decode : Json → Option α} {value : Option Json}
    (found : values name fields = value.toList) :
    required name decode fields = value.bind decode := by
  cases value with
  | none => rw [required, unique, found]; rfl
  | some value => exact required_of_values value found

/-- A value that may be missing is read if there is at most one, of a kind that is read. -/
theorem AtMostOne.isSome {α : Type} {decode : Json → Option α} {kind : Json → Prop}
    (reads : ∀ json, kind json → (Json.toOption? decode json).isSome = true)
    (atMostOne : AtMostOne name fields kind) :
    (defaulted name none (Json.toOption? decode) fields).isSome = true := by
  rw [defaulted, unique]
  rcases atMostOne with absent | ⟨value, once, ofKind⟩
  · rw [absent]
    rfl
  · rw [once]
    exact reads value ofKind

theorem atMostOne_of_isSome {α : Type} {decode : Json → Option α} {kind : Json → Prop}
    (reads : ∀ json, (Json.toOption? decode json).isSome = true → kind json)
    (read : (defaulted name none (Json.toOption? decode) fields).isSome = true) :
    AtMostOne name fields kind := by
  rw [defaulted, unique] at read
  split at read
  case h_1 absent => exact .inl absent
  case h_2 value once => exact .inr ⟨value, once, reads value read⟩
  case h_3 => cases read

theorem isText_iff : IsText json ↔ (Json.toOption? Json.asString? json).isSome = true := by
  cases json <;> simp [IsText, Json.toOption?, Json.asString?]

theorem values_content (name : String) (other : name ≠ "type") (fields : Fields Json) :
    values name (fields.filter fun field => field.1 ≠ "type") = values name fields := by
  rw [values, values, List.filterMap_filter]
  apply List.filterMap_congr
  intro field _
  by_cases same : field.1 = name
  · simp [same, other]
  · simp [same]

theorem defaulted_content {α : Type} {default : α} {decode : Json → Option α} (name : String)
    (other : name ≠ "type") (fields : Fields Json) :
    defaulted name default decode (fields.filter fun field => field.1 ≠ "type") =
      defaulted name default decode fields := by
  rw [defaulted, unique, values_content name other, defaulted, unique]

theorem decodeDomain_string {domain : CapabilityDomain} {name : String}
    (read : Go.decodeDomain (.string name) = some domain) : Go.domainName domain = name := by
  rw [Go.decodeDomain, Go.variantName?] at read
  split at read
  · cases read; simp_all [Go.domainName]
  · cases read; simp_all [Go.domainName]
  · cases read; simp_all [Go.domainName]
  · cases read

theorem decodeFormat_isSome (isFormat : IsFormat json) :
    (Json.toOption? Go.decodeFormat json).isSome = true := by
  rcases isFormat with rfl | ⟨fields, rfl, sound⟩
  · rfl
  · obtain ⟨encoding, isEncoding⟩ := sound.encoding
    obtain ⟨rate, n, isRate, number⟩ := sound.sampleRateHz
    obtain ⟨channels, m, isChannels, number'⟩ := sound.channels
    have notNull : Json.object fields ≠ .null := fun null => by cases null
    rw [Json.toOption?_of_ne_null notNull, Go.decodeFormat]
    simp only [Json.toFields?, Option.bind_eq_bind, Option.bind_some]
    rw [required_of_option isEncoding.rust, required_of_option isRate.rust,
      required_of_option isChannels.rust, Option.bind_some, GoRequests.decodeEncoding_name,
      Option.bind_some, Option.bind_some, Option.bind_some, Json.toU32?, number, Json.toU16?,
      number']
    rfl

theorem decodeStreamMode_isSome (isMode : IsMode json) :
    (Json.toOption? decodeStreamMode json).isSome = true := by
  rcases isMode with rfl | ⟨mode, rfl⟩
  · rfl
  · cases mode <;> rfl

theorem atMostOne_of_agreed {kind : Json → Prop} {value : Option Json}
    (agreed : Agreed name fields value) (ofKind : ∀ json ∈ value, kind json) :
    AtMostOne name fields kind := by
  cases value with
  | none => exact .inl agreed.rust
  | some value => exact .inr ⟨value, agreed.rust, ofKind value rfl⟩

/-- The client in Rust reads a sound payload, with its domain. -/
theorem SoundStarted.read {domain : CapabilityDomain} {payload : Fields Json}
    (sound : SoundStarted domain payload) :
    ∃ read, decodeSessionStarted (.object payload) = some read ∧ read.domain = domain := by
  obtain ⟨providerId, isProvider⟩ := sound.providerId
  obtain ⟨input, isInput, inputFormat⟩ := sound.inputFormat
  obtain ⟨output, isOutput, outputFormat⟩ := sound.outputFormat
  obtain ⟨inputFormat, inputRead⟩ := Option.isSome_iff_exists.mp
    ((atMostOne_of_agreed isInput inputFormat).isSome fun _ => decodeFormat_isSome)
  obtain ⟨outputFormat, outputRead⟩ := Option.isSome_iff_exists.mp
    ((atMostOne_of_agreed isOutput outputFormat).isSome fun _ => decodeFormat_isSome)
  obtain ⟨inputMode, inputModeRead⟩ := Option.isSome_iff_exists.mp
    (sound.inputMode.isSome fun _ => decodeStreamMode_isSome)
  obtain ⟨outputMode, outputModeRead⟩ := Option.isSome_iff_exists.mp
    (sound.outputMode.isSome fun _ => decodeStreamMode_isSome)
  refine ⟨⟨domain, providerId, inputFormat, outputFormat, inputMode, outputMode⟩, ?_, rfl⟩
  rw [decodeSessionStarted]
  simp only [Json.toFields?, Option.bind_eq_bind, Option.bind_some]
  rw [required_of_option sound.domain.rust, required_of_option isProvider.rust, inputRead,
    outputRead, inputModeRead, outputModeRead, Option.bind_some, Option.bind_some,
    GoRequests.decodeDomain_name]
  rfl

theorem SoundEnded.read {payload : Fields Json} (sound : SoundEnded payload) :
    ∃ reason, decodeSessionEnded (.object payload) = some reason :=
  Option.isSome_iff_exists.mp (sound.rust.isSome fun _ => isText_iff.mp)

/-- The domain that is read of a payload in which it is written once. -/
theorem decodeSessionStarted_domain {domain : String} {payload : Fields Json}
    {read : SessionStartedPayload} (once : Agreed "domain" payload (some (.string domain)))
    (decoded : decodeSessionStarted (.object payload) = some read) :
    Go.domainName read.domain = domain := by
  rw [decodeSessionStarted] at decoded
  simp only [Json.toFields?, Option.bind_eq_bind, Option.bind_some] at decoded
  rw [required_of_option once.rust, Option.bind_some] at decoded
  obtain ⟨known, read_, decoded⟩ := Option.bind_eq_some_iff.mp decoded
  obtain ⟨providerId, -, decoded⟩ := Option.bind_eq_some_iff.mp decoded
  obtain ⟨inputFormat, -, decoded⟩ := Option.bind_eq_some_iff.mp decoded
  obtain ⟨outputFormat, -, decoded⟩ := Option.bind_eq_some_iff.mp decoded
  obtain ⟨inputMode, -, decoded⟩ := Option.bind_eq_some_iff.mp decoded
  obtain ⟨outputMode, -, decoded⟩ := Option.bind_eq_some_iff.mp decoded
  rw [← Option.some.inj decoded]
  exact decodeDomain_string read_

end Rust

end SessionTracking

end SpeechMesh.Soundness
