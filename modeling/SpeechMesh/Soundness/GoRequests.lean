import SpeechMesh.Model.GoRequests
import SpeechMesh.Serde.Reads

/-! # What the Go SDK sends and the gateway reads

A request is read as it was meant exactly if none of its slices is nil, its strings are UTF-8, and
its provider options are values that the gateway can hold. A nil slice is written as null, which no
list is read from.
-/

namespace SpeechMesh.Soundness

open Serde Model Model.Go

namespace GoRequests

/-! ## Values of Go -/

/-- A string that is written as it is. -/
def Valid (text : GoString) : Prop := ∃ value, text = .utf8 value

/-- A slice that is not nil, of valid strings. -/
def ValidSlice (slice : Slice GoString) : Prop :=
  ∃ items, slice = some items ∧ ∀ item ∈ items, Valid item

/-- The decoder gets the map, with null for one that is nil or empty. -/
def StandsMap (map : AnyMap) (json : Json) : Prop :=
  match map with
  | none | some [] => json = .null
  | some entries => ∃ fields : Fields Json, json = .object fields ∧
      entries = fields.map fun field => (field.1, some field.2)

/-- Every value of the map can be written. -/
def WrittenMap : AnyMap → Prop
  | none => True
  | some entries => ∀ entry ∈ entries, entry.2 ≠ none

/-- The gateway can hold what is written for the map. -/
def HeldMap (libraries : JsonLibraries) : AnyMap → Prop
  | none | some [] => True
  | some entries => ∀ json, marshalMap entries = some json → libraries.value json = some json

def WrittenFloat (libraries : JsonLibraries) (value : Option libraries.F32) : Prop :=
  ∀ x ∈ value, libraries.finite x = true

section Values

variable {α β : Type} {name : String} {fields : Fields Json}

theorem string_reads (text : GoString) :
    (Reads (Json.asString? (marshalString text)) fun value => text = .utf8 value) ↔ Valid text := by
  cases text with
  | utf8 value => simp [marshalString, Json.asString?, GoString.written, Valid]
  | other bytes replaced => simp [marshalString, Json.asString?, Valid]

theorem slice_reads (slice : Slice GoString) :
    (Reads (decodeStrings (marshalSlice marshalString slice)) fun values =>
      slice.getD [] = values.map .utf8) ↔ ValidSlice slice := by
  cases slice with
  | none => simp [decodeStrings, marshalSlice, Json.toList?, ValidSlice]
  | some items =>
    rw [decodeStrings, marshalSlice, Json.toList?, Option.getD_some, reads_mapM string_reads]
    simp [ValidSlice]

/-- A pointer that is written as null if it is nil. -/
theorem pointer_reads (pointer : Option GoString) :
    (Reads (Json.toOption? Json.asString? (marshalPointer marshalString pointer)) fun value =>
      pointer = value.map .utf8) ↔ ∀ text ∈ pointer, Valid text := by
  cases pointer with
  | none => simp [marshalPointer, Json.toOption?]
  | some text =>
    have notNull : marshalString text ≠ .null := by
      intro null
      cases null
    rw [marshalPointer, Json.toOption?_of_ne_null notNull, reads_map]
    simp [string_reads]

/-- A pointer that is left out if it is nil. -/
theorem omitNil_reads {encode : α → Json} {decode : Json → Option β} {image : β → α}
    {clean : α → Prop}
    (each : ∀ value, (Reads (decode (encode value)) fun result => value = image result) ↔
      clean value) (notNull : ∀ value, encode value ≠ .null) (pointer : Option α)
    (found : values name fields = (pointer.map encode).toList) :
    (Reads (defaulted name none (Json.toOption? decode) fields) fun value =>
      pointer = value.map image) ↔ ∀ value ∈ pointer, clean value := by
  cases pointer with
  | none => simp [defaulted_of_absent found]
  | some value =>
    rw [defaulted_of_values (encode value) found, Json.toOption?_of_ne_null (notNull value),
      reads_map]
    simp [each]

theorem omitNil_string_reads (pointer : Option GoString)
    (found : values name fields = (pointer.map marshalString).toList) :
    (Reads (defaulted name none (Json.toOption? Json.asString?) fields) fun value =>
      pointer = value.map .utf8) ↔ ∀ text ∈ pointer, Valid text :=
  omitNil_reads string_reads (fun _ null => by cases null) pointer found

end Values

/-! ## Constants and formats -/

theorem decodeDomain_name (domain : CapabilityDomain) :
    decodeDomain (.string (domainName domain)) = some domain := by
  cases domain <;> rfl

theorem decodeMode_name (mode : ProviderSelectionMode) :
    decodeMode (.string (modeName mode)) = some mode := by
  cases mode <;> rfl

theorem decodeInputKind_name (inputKind : SynthesisInputKind) :
    decodeInputKind (.string (inputKindName inputKind)) = some inputKind := by
  cases inputKind <;> rfl

theorem decodeEncoding_name (encoding : AudioEncoding) :
    decodeEncoding (.string encoding.toName) = some encoding := by
  cases encoding <;> rfl

theorem decodeFormat_marshalFormat (format : AudioFormat) :
    decodeFormat (marshalFormat format) = some format := by
  rw [decodeFormat, marshalFormat]
  simp only [Json.toFields?, Option.bind_eq_bind, Option.bind_some]
  rw [required_of_values (.string format.encoding.toName),
    required_of_values (.ofNat format.sampleRateHz.toNat),
    required_of_values (.ofNat format.channels.toNat), decodeEncoding_name]
  · simp
  · simp [values_cons_of_ne]
  · simp [values_cons_of_ne]
  · simp [values_cons_of_ne]

/-! ## Payloads -/

/-- The decoded selector holds what the one in Go does. -/
def StandsSelector (go : Go.ProviderSelector) (selector : Model.ProviderSelector) : Prop :=
  go.mode = selector.mode ∧ go.providerId = selector.providerId.map .utf8 ∧
    go.requiredCapabilities.getD [] = selector.requiredCapabilities.map .utf8 ∧
    go.preferredCapabilities.getD [] = selector.preferredCapabilities.map .utf8

def CleanSelector (go : Go.ProviderSelector) : Prop :=
  (∀ text ∈ go.providerId, Valid text) ∧ ValidSlice go.requiredCapabilities ∧
    ValidSlice go.preferredCapabilities

theorem selector_reads (go : Go.ProviderSelector) :
    Reads (decodeSelector go.marshal) (StandsSelector go) ↔ CleanSelector go := by
  rw [decodeSelector, Go.ProviderSelector.marshal]
  simp only [Json.toFields?, Option.bind_eq_bind, Option.bind_some]
  rw [required_of_values (.string (modeName go.mode)),
    defaulted_of_values (marshalPointer marshalString go.providerId),
    required_of_values (marshalSlice marshalString go.requiredCapabilities),
    required_of_values (marshalSlice marshalString go.preferredCapabilities), decodeMode_name]
  · simp only [reads_bind, Option.pure_def, reads_some, StandsSelector, reads_and_const,
      reads_const_and, pointer_reads, slice_reads, true_and, CleanSelector]
  · simp [values_cons_of_ne]
  · simp [values_cons_of_ne]
  · simp [values_cons_of_ne]
  · simp [values_cons_of_ne]

/-! ## Provider options and floats -/

section Options

variable {libraries : JsonLibraries} {name : String}

theorem mapM_marshalEntry {entries : List (String × Option Json)} {fields : Fields Json} :
    entries.mapM marshalEntry = some fields ↔
      entries = fields.map fun field => (field.1, some field.2) := by
  induction entries generalizing fields with
  | nil =>
    rw [List.mapM_nil, eq_comm, List.nil_eq, List.map_eq_nil_iff]
    simp [pure]
  | cons entry entries ih =>
    obtain ⟨key, value⟩ := entry
    rw [List.mapM_cons]
    cases value with
    | none =>
      cases fields with
      | nil => simp [marshalEntry]
      | cons field fields => simp [marshalEntry]
    | some json =>
      cases fields with
      | nil => simp [marshalEntry, Option.bind_eq_some_iff]
      | cons field fields =>
        simp only [marshalEntry, Option.map_some, Option.bind_eq_bind, Option.bind_some,
          Option.bind_eq_some_iff, ih, Option.pure_def, Option.some.injEq, List.map_cons,
          List.cons.injEq, Prod.mk.injEq]
        constructor
        · rintro ⟨_, rest, rfl, rfl⟩
          exact ⟨⟨rfl, rfl⟩, rest⟩
        · rintro ⟨⟨rfl, rfl⟩, rest⟩
          exact ⟨fields, rest, rfl, rfl⟩

theorem mapM_marshalEntry_eq_none {entries : List (String × Option Json)} :
    entries.mapM marshalEntry = none ↔ ¬ WrittenMap (some entries) := by
  induction entries with
  | nil => simp [WrittenMap, pure]
  | cons entry entries ih =>
    obtain ⟨key, value⟩ := entry
    rw [List.mapM_cons, WrittenMap, List.forall_mem_cons]
    rw [WrittenMap] at ih
    cases value with
    | none => simp [marshalEntry]
    | some json =>
      simp only [marshalEntry, Option.map_some, Option.bind_eq_bind, Option.bind_some,
        Option.bind_eq_none_iff, Option.pure_def, reduceCtorEq, ne_eq, not_false_eq_true, true_and]
      rw [← ih, Option.eq_none_iff_forall_ne_some]

theorem entries_injective {fields others : Fields Json}
    (same : fields.map (fun field => (field.1, some field.2)) =
      others.map fun field => (field.1, some field.2)) : fields = others := by
  apply List.map_injective_iff.mpr _ same
  intro field other equal
  obtain ⟨keys, values⟩ := Prod.mk.inj equal
  exact Prod.ext keys (Option.some.inj values)

/-- What is written for a map, and when the gateway gets it. -/
theorem omitEmptyMap_written {map : AnyMap} (written : WrittenMap map) :
    ∃ json : Option Json, omitEmptyMap name map = some (optional name json) ∧
      ∀ fields, values name fields = json.toList →
        ((Reads (defaulted name .null libraries.value fields) fun value => StandsMap map value) ↔
          HeldMap libraries map) := by
  cases map with
  | none =>
    refine ⟨none, rfl, fun fields found => ?_⟩
    simp [defaulted_of_absent found, StandsMap, HeldMap]
  | some entries =>
    cases entries with
    | nil =>
      refine ⟨none, rfl, fun fields found => ?_⟩
      simp [defaulted_of_absent found, StandsMap, HeldMap]
    | cons entry entries =>
      cases marshalled : (entry :: entries).mapM marshalEntry with
      | none => exact absurd written (mapM_marshalEntry_eq_none.mp marshalled)
      | some members =>
        have json : marshalMap (entry :: entries) = some (.object members) := by
          rw [marshalMap, marshalled]
          rfl
        refine ⟨some (.object members), ?_, fun fields found => ?_⟩
        · rw [omitEmptyMap, json]
          · rfl
          · exact List.cons_ne_nil entry entries
        rw [defaulted_of_values (.object members) found]
        constructor
        case mp =>
          rintro ⟨value, held, others, rfl, same⟩ other found
          rw [mapM_marshalEntry.mp marshalled] at same
          rw [json] at found
          rw [← Option.some.inj found, held, entries_injective same]
        case mpr =>
          intro held
          exact ⟨.object members, held _ json, members, rfl, mapM_marshalEntry.mp marshalled⟩

theorem omitEmptyMap_unwritten {map : AnyMap} (unwritten : ¬ WrittenMap map) :
    omitEmptyMap name map = none := by
  cases map with
  | none => exact absurd trivial unwritten
  | some entries =>
    cases entries with
    | nil => exact absurd (fun _ member => absurd member List.not_mem_nil) unwritten
    | cons entry entries =>
      rw [omitEmptyMap, marshalMap, mapM_marshalEntry_eq_none.mpr unwritten]
      · rfl
      · exact List.cons_ne_nil entry entries

theorem omitNilFloat_written {value : Option libraries.F32}
    (written : WrittenFloat libraries value) :
    omitNilFloat libraries name value =
      some (optional name (value.map fun x => .number (libraries.write x))) := by
  cases value with
  | none => rfl
  | some x =>
    rw [omitNilFloat, marshalFloat, if_pos (written x rfl)]
    rfl

theorem omitNilFloat_unwritten {value : Option libraries.F32}
    (unwritten : ¬ WrittenFloat libraries value) : omitNilFloat libraries name value = none := by
  cases value with
  | none => exact absurd (fun _ none => by cases none) unwritten
  | some x =>
    have infinite : ¬ libraries.finite x = true := by
      intro finite
      apply unwritten
      intro y same
      rwa [← Option.some.inj same]
    rw [omitNilFloat, marshalFloat, if_neg infinite]
    rfl

/-- A float that is written is read. -/
theorem float_reads (lawful : libraries.Lawful) {value : Option libraries.F32}
    (written : WrittenFloat libraries value) {fields : Fields Json}
    (found : values name fields =
      (value.map fun x => Json.number (libraries.write x)).toList) :
    defaulted name none (Json.toOption? (toF32? libraries)) fields = some value := by
  cases value with
  | none => exact defaulted_of_absent found
  | some x =>
    rw [defaulted_of_values (.number (libraries.write x)) found]
    change (libraries.read (libraries.write x)).map some = _
    rw [lawful x (written x rfl)]
    rfl

end Options

/-! ## Requests -/

section Requests

variable {libraries : JsonLibraries}

def StandsRecognition (go : Go.RecognitionOptions) (options : Model.RecognitionOptions) : Prop :=
  go.language = options.language.map .utf8 ∧ go.hints.getD [] = options.hints.map .utf8 ∧
    go.interimResults = options.interimResults ∧ go.timestamps = options.timestamps ∧
    go.punctuation = options.punctuation ∧ go.preferOnDevice = options.preferOnDevice ∧
    StandsMap go.providerOptions options.providerOptions

def CleanRecognition (libraries : JsonLibraries) (go : Go.RecognitionOptions) : Prop :=
  (∀ text ∈ go.language, Valid text) ∧ ValidSlice go.hints ∧ HeldMap libraries go.providerOptions

theorem recognition_reads {go : Go.RecognitionOptions} (written : WrittenMap go.providerOptions) :
    ∃ json, go.marshal = some json ∧
      (Reads (decodeRecognitionOptions libraries json) (StandsRecognition go) ↔
        CleanRecognition libraries go) := by
  obtain ⟨map, omitted, map_reads⟩ := @omitEmptyMap_written libraries "provider_options" _ written
  rw [Go.RecognitionOptions.marshal, omitted]
  refine ⟨_, rfl, ?_⟩
  rw [decodeRecognitionOptions]
  simp only [Json.toFields?, Option.bind_eq_bind, Option.bind_some]
  rw [required_of_values (marshalSlice marshalString go.hints),
    required_of_values (.bool go.interimResults), required_of_values (.bool go.timestamps),
    required_of_values (.bool go.punctuation), required_of_values (.bool go.preferOnDevice)]
  · simp only [reads_bind, Option.pure_def, reads_some, StandsRecognition, reads_and_const,
      reads_const_and, slice_reads, Json.toBool?, true_and, CleanRecognition]
    rw [omitNil_string_reads, map_reads]
    · simp [omitNil, values_cons_of_ne, values_optional_of_ne]
    · simp [omitNil, values_cons_of_ne, values_optional_of_ne]
  · simp [omitNil, values_cons_of_ne, values_optional_of_ne]
  · simp [omitNil, values_cons_of_ne, values_optional_of_ne]
  · simp [omitNil, values_cons_of_ne, values_optional_of_ne]
  · simp [omitNil, values_cons_of_ne, values_optional_of_ne]
  · simp [omitNil, values_cons_of_ne, values_optional_of_ne]

def StandsAsr (go : StreamRequest) (request : AsrStreamRequest) : Prop :=
  StandsSelector go.provider request.provider ∧ go.inputFormat = request.inputFormat ∧
    StandsRecognition go.options request.options

theorem asr_reads {go : StreamRequest} (written : WrittenMap go.options.providerOptions) :
    ∃ json, go.marshal = some json ∧
      (Reads (decodeAsrStart libraries json) (StandsAsr go) ↔
        CleanSelector go.provider ∧ CleanRecognition libraries go.options) := by
  obtain ⟨options, marshalled, options_read⟩ := @recognition_reads libraries _ written
  rw [StreamRequest.marshal, marshalled]
  refine ⟨_, rfl, ?_⟩
  rw [decodeAsrStart]
  simp only [Json.toFields?, Option.bind_eq_bind, Option.bind_some]
  rw [required_of_values go.provider.marshal, required_of_values (marshalFormat go.inputFormat),
    required_of_values options, decodeFormat_marshalFormat]
  · simp only [reads_bind, Option.pure_def, reads_some, StandsAsr, reads_and_const, reads_const_and,
      selector_reads, true_and, options_read]
  · simp [values_cons_of_ne]
  · simp [values_cons_of_ne]
  · simp [values_cons_of_ne]

def StandsSynthesis (go : TtsSynthesisOptions libraries.F32)
    (options : Go.SynthesisOptions libraries.F32) : Prop :=
  go.language = options.language.map .utf8 ∧ go.voice = options.voice.map .utf8 ∧
    go.stream = options.stream ∧ go.rate = options.rate ∧ go.pitch = options.pitch ∧
    go.volume = options.volume ∧ StandsMap go.providerOptions options.providerOptions

def CleanSynthesis (go : TtsSynthesisOptions libraries.F32) : Prop :=
  (∀ text ∈ go.language, Valid text) ∧ (∀ text ∈ go.voice, Valid text) ∧
    HeldMap libraries go.providerOptions

/-- Every float and every provider option can be written. -/
structure WrittenSynthesis (go : TtsSynthesisOptions libraries.F32) : Prop where
  rate : WrittenFloat libraries go.rate
  pitch : WrittenFloat libraries go.pitch
  volume : WrittenFloat libraries go.volume
  providerOptions : WrittenMap go.providerOptions

theorem synthesis_reads (lawful : libraries.Lawful) {go : TtsSynthesisOptions libraries.F32}
    (written : WrittenSynthesis go) :
    ∃ json, go.marshal libraries = some json ∧
      (Reads (decodeSynthesisOptions libraries json) (StandsSynthesis go) ↔
        CleanSynthesis go) := by
  obtain ⟨map, omitted, map_reads⟩ :=
    @omitEmptyMap_written libraries "provider_options" _ written.providerOptions
  rw [TtsSynthesisOptions.marshal, omitNilFloat_written written.rate,
    omitNilFloat_written written.pitch, omitNilFloat_written written.volume, omitted]
  refine ⟨_, rfl, ?_⟩
  rw [decodeSynthesisOptions]
  simp only [Json.toFields?, Option.bind_eq_bind, Option.bind_some]
  rw [required_of_values (.bool go.stream), float_reads lawful written.rate,
    float_reads lawful written.pitch, float_reads lawful written.volume]
  · simp only [reads_bind, Option.pure_def, reads_some, StandsSynthesis, reads_and_const,
      reads_const_and, Json.toBool?, true_and, CleanSynthesis]
    rw [omitNil_string_reads, omitNil_string_reads, map_reads]
    · simp [omitNil, values_cons_of_ne, values_optional_of_ne]
    · simp [omitNil, values_cons_of_ne, values_optional_of_ne]
    · simp [omitNil, values_cons_of_ne, values_optional_of_ne]
  · simp [omitNil, values_cons_of_ne, values_optional_of_ne]
  · simp [omitNil, values_cons_of_ne, values_optional_of_ne]
  · simp [omitNil, values_cons_of_ne, values_optional_of_ne]
  · simp [omitNil, values_optional_of_ne]

theorem synthesis_unwritten {go : TtsSynthesisOptions libraries.F32}
    (unwritten : ¬ WrittenSynthesis go) : go.marshal libraries = none := by
  rw [TtsSynthesisOptions.marshal]
  by_cases rate : WrittenFloat libraries go.rate
  · by_cases pitch : WrittenFloat libraries go.pitch
    · by_cases volume : WrittenFloat libraries go.volume
      · by_cases map : WrittenMap go.providerOptions
        · exact absurd ⟨rate, pitch, volume, map⟩ unwritten
        · simp [omitEmptyMap_unwritten map]
      · simp [omitNilFloat_unwritten volume]
    · simp [omitNilFloat_unwritten pitch]
  · simp [omitNilFloat_unwritten rate]

def StandsTts (go : TtsStreamRequest libraries.F32) (request : SynthesisRequest libraries.F32) :
    Prop :=
  StandsSelector go.provider request.provider ∧ go.inputKind = request.inputKind ∧
    go.outputFormat = request.outputFormat ∧ StandsSynthesis go.options request.options

theorem tts_reads (lawful : libraries.Lawful) {go : TtsStreamRequest libraries.F32}
    (written : WrittenSynthesis go.options) :
    ∃ json, go.marshal libraries = some json ∧
      (Reads (decodeTtsStart libraries json) (StandsTts go) ↔
        CleanSelector go.provider ∧ CleanSynthesis go.options) := by
  obtain ⟨options, marshalled, options_read⟩ := synthesis_reads lawful written
  rw [TtsStreamRequest.marshal, marshalled]
  refine ⟨_, rfl, ?_⟩
  rw [decodeTtsStart]
  simp only [Json.toFields?, Option.bind_eq_bind, Option.bind_some]
  have notNull : ∀ format, marshalFormat format ≠ .null := fun _ null => by cases null
  rw [required_of_values go.provider.marshal,
    required_of_values (.string (inputKindName go.inputKind)), required_of_values options,
    defaulted_option go.outputFormat _ decodeFormat_marshalFormat notNull, decodeInputKind_name]
  · simp only [reads_bind, Option.pure_def, reads_some, StandsTts, reads_and_const,
      reads_const_and, selector_reads, true_and, options_read]
  · simp [omitNil, values_cons_of_ne]
  · simp [omitNil, values_cons_of_ne, values_optional_of_ne]
  · simp [omitNil, values_cons_of_ne, values_optional_of_ne]
  · simp [omitNil, values_cons_of_ne, values_optional_of_ne]

def StandsVoiceList (go : Go.VoiceListRequest) (request : Model.VoiceListRequest) : Prop :=
  StandsSelector go.provider request.provider ∧ go.language = request.language.map .utf8

theorem voiceList_reads (go : Go.VoiceListRequest) :
    Reads (decodeVoiceList go.marshal) (StandsVoiceList go) ↔
      CleanSelector go.provider ∧ ∀ text ∈ go.language, Valid text := by
  rw [decodeVoiceList, Go.VoiceListRequest.marshal]
  simp only [Json.toFields?, Option.bind_eq_bind, Option.bind_some]
  rw [required_of_values go.provider.marshal]
  · simp only [reads_bind, Option.pure_def, reads_some, StandsVoiceList, reads_and_const,
      reads_const_and, selector_reads]
    rw [omitNil_string_reads]
    simp [omitNil, values_cons_of_ne]
  · simp [omitNil, values_optional_of_ne]

theorem discover_reads (go : DiscoverRequest) :
    (Reads (decodeDiscover go.marshal) fun domains => go.domains.getD [] = domains) ↔
      go.domains ≠ none := by
  rw [decodeDiscover, DiscoverRequest.marshal]
  simp only [Json.toFields?, Option.bind_eq_bind, Option.bind_some]
  rw [required_of_values (marshalSlice (fun domain => .string (domainName domain)) go.domains)]
  · cases domains : go.domains with
    | none => simp [marshalSlice, Json.toList?]
    | some items =>
      rw [marshalSlice, Json.toList?_map fun domain _ => decodeDomain_name domain]
      simp
  · simp

/-! ## Messages -/

section Messages

variable {payload : Json} {id : String}

theorem taggedContent_envelope (type : String) :
    taggedContent (envelope type id payload) =
      some (type, .object [("payload", payload), ("request_id", .string id)]) := by
  rw [envelope, taggedContent, required_of_values (.string type)]
  · simp [Json.asString?]
  · simp [values_cons_of_ne]

theorem decodeContent_fields {α : Type} (decode : Json → Option α) :
    decodeContent decode (.object [("payload", payload), ("request_id", .string id)]) =
      (decode payload).map fun value => (id, value) := by
  rw [decodeContent]
  simp only [Json.toFields?, Option.bind_eq_bind, Option.bind_some]
  rw [required_of_values (.string id), required_of_values payload]
  · simp [Json.asString?, Option.map_eq_bind]
  · simp [values_cons_of_ne]
  · simp [values_cons_of_ne]

end Messages

/-- The message holds what the request does. -/
def Stands (count : UInt64) : Request libraries.F32 → Go.ClientMessage libraries.F32 → Prop
  | .discover go, .discover id domains => id = requestId count ∧ go.domains.getD [] = domains
  | .startAsr go, .asrStart id payload => id = requestId count ∧ StandsAsr go payload
  | .startTts go, .ttsStart id payload => id = requestId count ∧ StandsTts go payload
  | .ttsListVoices go, .ttsVoices id payload => id = requestId count ∧ StandsVoiceList go payload
  | _, _ => False

/-- What is written for the request is read as a message that holds the same. -/
def Understood (libraries : JsonLibraries) (count : UInt64) (request : Request libraries.F32) :
    Prop :=
  ∀ json, request.written libraries count = some json →
    Reads (decodeClientMessage libraries json) (Stands count request)

/-- Nothing is written for the request, or its slices are there, its strings are UTF-8 and the
gateway can hold its provider options. -/
def Clean (libraries : JsonLibraries) : Request libraries.F32 → Prop
  | .discover go => go.domains ≠ none
  | .startAsr go => WrittenMap go.options.providerOptions →
      CleanSelector go.provider ∧ CleanRecognition libraries go.options
  | .startTts go => WrittenSynthesis go.options →
      CleanSelector go.provider ∧ CleanSynthesis go.options
  | .ttsListVoices go => CleanSelector go.provider ∧ ∀ text ∈ go.language, Valid text

section Understood

variable {count : UInt64} {request : Request libraries.F32} {json : Json}

theorem understood_of_written (written : request.written libraries count = some json) :
    Understood libraries count request ↔
      Reads (decodeClientMessage libraries json) (Stands count request) := by
  constructor
  case mp => exact fun understood => understood json written
  case mpr =>
    intro reads other same
    rw [← Option.some.inj (written.symm.trans same)]
    exact reads

theorem understood_of_unwritten (unwritten : request.written libraries count = none) :
    Understood libraries count request := by
  intro json written
  rw [unwritten] at written
  contradiction

end Understood

theorem discover_understood (count : UInt64) (go : DiscoverRequest) :
    Understood libraries count (.discover go) ↔ go.domains ≠ none := by
  rw [understood_of_written rfl, decodeClientMessage, taggedContent_envelope,
    ← discover_reads go]
  simp only [Option.bind_eq_bind, Option.bind_some, decodeContent_fields, reads_bind, reads_map,
    Option.pure_def, reads_some, Stands, true_and]

theorem voiceList_understood (count : UInt64) (go : Go.VoiceListRequest) :
    Understood libraries count (.ttsListVoices go) ↔
      CleanSelector go.provider ∧ ∀ text ∈ go.language, Valid text := by
  rw [understood_of_written rfl, decodeClientMessage, taggedContent_envelope,
    ← voiceList_reads go]
  simp only [Option.bind_eq_bind, Option.bind_some, decodeContent_fields, reads_bind, reads_map,
    Option.pure_def, reads_some, Stands, true_and]

theorem asr_understood (count : UInt64) (go : StreamRequest) :
    Understood libraries count (.startAsr go) ↔ Clean libraries (.startAsr go) := by
  by_cases written : WrittenMap go.options.providerOptions
  · obtain ⟨payload, marshalled, payload_reads⟩ := @asr_reads libraries go written
    have sent : (Request.startAsr go).written libraries count =
        some (envelope "asr.start" (requestId count) payload) := by
      rw [Request.written, marshalled]
      rfl
    rw [understood_of_written sent, decodeClientMessage, taggedContent_envelope, Clean,
      ← payload_reads]
    simp only [Option.bind_eq_bind, Option.bind_some, decodeContent_fields, reads_bind, reads_map,
      Option.pure_def, reads_some, Stands, true_and, written, true_implies]
  · have unsent : (Request.startAsr go).written libraries count = none := by
      rw [Request.written, StreamRequest.marshal, Go.RecognitionOptions.marshal,
        omitEmptyMap_unwritten written]
      rfl
    exact iff_of_true (understood_of_unwritten unsent) fun also => absurd also written

theorem tts_understood (lawful : libraries.Lawful) (count : UInt64)
    (go : TtsStreamRequest libraries.F32) :
    Understood libraries count (.startTts go) ↔ Clean libraries (.startTts go) := by
  by_cases written : WrittenSynthesis go.options
  · obtain ⟨payload, marshalled, payload_reads⟩ := tts_reads lawful written
    have sent : (Request.startTts go).written libraries count =
        some (envelope "tts.start" (requestId count) payload) := by
      rw [Request.written, marshalled]
      rfl
    rw [understood_of_written sent, decodeClientMessage, taggedContent_envelope, Clean,
      ← payload_reads]
    simp only [Option.bind_eq_bind, Option.bind_some, decodeContent_fields, reads_bind, reads_map,
      Option.pure_def, reads_some, Stands, true_and, written, true_implies]
  · have unsent : (Request.startTts go).written libraries count = none := by
      rw [Request.written, TtsStreamRequest.marshal, synthesis_unwritten written]
      rfl
    exact iff_of_true (understood_of_unwritten unsent) fun also => absurd also written

/-- The gateway reads a request as it was meant exactly if the request is clean. -/
theorem understood_iff (lawful : libraries.Lawful) (count : UInt64)
    (request : Request libraries.F32) :
    Understood libraries count request ↔ Clean libraries request := by
  cases request with
  | discover go => exact discover_understood count go
  | startAsr go => exact asr_understood count go
  | startTts go => exact tts_understood lawful count go
  | ttsListVoices go => exact voiceList_understood count go

end Requests

/-- Floats as their shortest decimals. -/
def decimals : JsonLibraries where
  F32 := String
  finite x := x ≠ "NaN" ∧ x ≠ "+Inf" ∧ x ≠ "-Inf"
  write x := x
  read text := some text
  value json := some json

/-- `DefaultProviderSelector`. -/
def defaultSelector : Go.ProviderSelector := ⟨.auto, none, some [], some []⟩

def fastSpeech : TtsStreamRequest String where
  provider := defaultSelector
  inputKind := .text
  outputFormat := none
  options := ⟨some (.utf8 "en"), none, true, some "1.5", none, none, none⟩

theorem fastSpeech_understood : Understood decimals 0 (.startTts fastSpeech) := by
  have lawful : decimals.Lawful := fun x _ => rfl
  apply (understood_iff lawful 0 (.startTts fastSpeech)).mpr
  have noItems : ∀ item ∈ ([] : List GoString), Valid item := by
    intro item member
    contradiction
  intro written
  constructor
  · exact ⟨nofun, ⟨[], rfl, noItems⟩, ⟨[], rfl, noItems⟩⟩
  · refine ⟨fun text language => ?_, nofun, trivial⟩
    exact ⟨"en", (Option.some.inj language).symm⟩

/-- A recognition with the zero value of its options, whose hints are nil. -/
def plainRecognition : StreamRequest where
  provider := defaultSelector
  inputFormat := ⟨.pcmS16Le, 16000, 1⟩
  options := ⟨none, none, false, false, false, false, none⟩

theorem plainRecognition_not_understood :
    ¬ Understood decimals 0 (.startAsr plainRecognition) := by
  intro understood
  have clean := (asr_understood 0 plainRecognition).mp understood trivial
  obtain ⟨_, hints, _⟩ := clean.2.2.1
  contradiction

end GoRequests

end SpeechMesh.Soundness
