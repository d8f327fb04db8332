import SpeechMesh.Model.TtsProviders
import SpeechMesh.Soundness.CompositeSelection

/-! # Advertised stream modes

A TTS request asks for stream modes by its options, and its selector may require the capabilities
that name them. The Melo and the Qwen bridge advertise streaming and refuse it; the MiniMax bridge
serves it and does not advertise it. Both defects are confined to the requests stated here.
-/

namespace SpeechMesh.Soundness

open Choice SpeechMesh.Model

/-! ## Requested modes and their capabilities -/

def inputCapability : StreamMode → String
  | .streaming => "streaming-input"
  | .buffered => "buffered-input"

def outputCapability : StreamMode → String
  | .streaming => "streaming-output"
  | .buffered => "buffered-output"

/-- The capability that names the input mode of a request. -/
def requestedInput (request : TtsStreamRequest) : String :=
  inputCapability (requestedTtsInputMode request.options)

/-- The capability that names the output mode of a request. -/
def requestedOutput (request : TtsStreamRequest) : String :=
  outputCapability (requestedTtsOutputMode request.options)

def RejectsInput (provider : TtsProvider) (options : SynthesisOptions) : Prop :=
  ∃ name, provider.ensureModes options =
    .error (.unavailable (name ++ " does not support streaming TTS input"))

def RejectsOutput (provider : TtsProvider) (options : SynthesisOptions) : Prop :=
  ∃ name, provider.ensureModes options =
    .error (.unavailable (name ++ " does not support streaming TTS output"))

/-- The selector leaves the choice open and requires nothing but the requested modes. -/
structure RequiresModes (request : TtsStreamRequest) : Prop where
  auto : request.provider.mode = .auto
  unpinned : request.provider.providerId = none
  only : ∀ capability ∈ request.provider.requiredCapabilities,
    capability = requestedInput request ∨ capability = requestedOutput request

/-- The selected provider does not reject a mode whose capability is required, and if an installed
bridge serves the requested modes, requiring their capabilities is not refused. -/
structure ModesServed (bridges : List TtsProvider) (composite : CompositeTtsBridge TtsProvider)
    (request : TtsStreamRequest) : Prop where
  input : ∀ binding routed, composite.route request = .ok (binding, routed) →
    requestedInput request ∈ request.provider.requiredCapabilities →
    ¬ RejectsInput binding.bridge routed.options
  output : ∀ binding routed, composite.route request = .ok (binding, routed) →
    requestedOutput request ∈ request.provider.requiredCapabilities →
    ¬ RejectsOutput binding.bridge routed.options
  available : RequiresModes request →
    (∃ provider ∈ bridges, provider.ensureModes request.options = .ok ()) →
    ∃ routed, composite.route request = .ok routed

/-! ## The bridges that misreport -/

/-- The bridge advertises streaming and refuses it. -/
def Overstates : TtsProvider → Prop
  | .melo .. | .qwen .. => True
  | .mock .. | .minimax .. => False

/-- The bridge serves streaming and does not advertise it. -/
def Understates : TtsProvider → Prop
  | .minimax .. => True
  | .mock .. | .melo .. | .qwen .. => False

theorem mem_capabilities {provider : TtsProvider} {capability : String} :
    (⟨capability, true⟩ : Capability) ∈ provider.descriptor.capabilities ↔
      capability ∈ provider.capabilityKeys := by
  have listed : provider.descriptor.capabilities =
      provider.capabilityKeys.map fun key => ⟨key, true⟩ := by cases provider <;> rfl
  rw [listed, List.mem_map]
  constructor
  · rintro ⟨key, member, same⟩
    rwa [← (Capability.mk.inj same).1]
  · exact fun member => ⟨capability, member, rfl⟩

theorem overstates_of_streaming {provider : TtsProvider} {capability : String}
    (streaming : capability = "streaming-input" ∨ capability = "streaming-output")
    (listed : capability ∈ provider.capabilityKeys) : Overstates provider := by
  cases provider with
  | melo => trivial
  | qwen => trivial
  | mock => rcases streaming with rfl | rfl <;> simp [TtsProvider.capabilityKeys] at listed
  | minimax => rcases streaming with rfl | rfl <;> simp [TtsProvider.capabilityKeys] at listed

theorem capable_of_overstates {provider : TtsProvider} (overstates : Overstates provider)
    (mode : StreamMode) : inputCapability mode ∈ provider.capabilityKeys ∧
      outputCapability mode ∈ provider.capabilityKeys := by
  cases provider with
  | mock => exact overstates.elim
  | minimax => exact overstates.elim
  | melo => cases mode <;> simp [TtsProvider.capabilityKeys, inputCapability, outputCapability]
  | qwen => cases mode <;> simp [TtsProvider.capabilityKeys, inputCapability, outputCapability]

/-- Every bridge advertises the buffered modes. -/
theorem buffered_capable (provider : TtsProvider) :
    inputCapability .buffered ∈ provider.capabilityKeys ∧
      outputCapability .buffered ∈ provider.capabilityKeys := by
  cases provider <;> simp [TtsProvider.capabilityKeys, inputCapability, outputCapability]

/-! ## Rejections -/

/-- The two refusals are told apart by their fourth character from the end. -/
theorem refusals_differ (first second : String) :
    first ++ " does not support streaming TTS input" ≠
      second ++ " does not support streaming TTS output" := by
  intro same
  have ends := congrArg (fun text : String => (text.toList.reverse.drop 3).head?) same
  simp only [String.toList_append, List.reverse_append] at ends
  exact absurd ends (by simp)

variable {provider : TtsProvider} {options : SynthesisOptions}

theorem ensureModes_of_understates (understates : Understates provider) :
    provider.ensureModes options = .ok () := by
  cases provider with
  | minimax =>
    change ensureTtsModesSupported _ _ true true "MiniMax TTS" = _
    rw [ensureTtsModesSupported, if_neg fun both => Bool.noConfusion both.2,
      if_neg fun both => Bool.noConfusion both.2]
  | _ => exact understates.elim

/-- All other bridges refuse streaming, input first. -/
theorem ensureModes_of_not_understates (options : SynthesisOptions)
    (plain : ¬ Understates provider) :
    ∃ name, provider.ensureModes options =
      ensureTtsModesSupported (requestedTtsInputMode options) (requestedTtsOutputMode options)
        false false name := by
  cases provider with
  | minimax => exact absurd trivial plain
  | _ => exact ⟨_, rfl⟩

theorem rejectsInput_iff : RejectsInput provider options ↔
    ¬ Understates provider ∧ requestedTtsInputMode options = .streaming := by
  by_cases understates : Understates provider
  · simp [RejectsInput, ensureModes_of_understates understates, understates]
  · obtain ⟨name, checked⟩ := ensureModes_of_not_understates options understates
    rw [RejectsInput, checked, ensureTtsModesSupported]
    constructor
    · rintro ⟨other, rejected⟩
      split_ifs at rejected with input output
      · exact ⟨understates, input.1⟩
      · cases refusals_differ other name (BridgeError.unavailable.inj (Except.error.inj rejected)).symm
    · rintro ⟨_, input⟩
      exact ⟨name, if_pos ⟨input, rfl⟩⟩

theorem rejectsOutput_iff : RejectsOutput provider options ↔
    ¬ Understates provider ∧ requestedTtsInputMode options = .buffered ∧
      requestedTtsOutputMode options = .streaming := by
  by_cases understates : Understates provider
  · simp [RejectsOutput, ensureModes_of_understates understates, understates]
  · obtain ⟨name, checked⟩ := ensureModes_of_not_understates options understates
    rw [RejectsOutput, checked, ensureTtsModesSupported]
    constructor
    · rintro ⟨other, rejected⟩
      split_ifs at rejected with input output
      · cases refusals_differ name other (BridgeError.unavailable.inj (Except.error.inj rejected))
      · refine ⟨understates, ?_, output.1⟩
        cases mode : requestedTtsInputMode options with
        | buffered => rfl
        | streaming => exact absurd ⟨mode, rfl⟩ input
    · rintro ⟨_, input, output⟩
      refine ⟨name, ?_⟩
      rw [if_neg (by simp [input]), if_pos ⟨output, rfl⟩]

/-! ## The selected bridge -/

variable {bridges : List TtsProvider} {composite : CompositeTtsBridge TtsProvider}
  {request : TtsStreamRequest}

/-- The selector of a request after its route has added its preferences. -/
def routedSelector (request : TtsStreamRequest) : ProviderSelector :=
  CompositeTtsBridge.applyRoutePreferences request.provider request.options.providerOptions

/-- The binding that the selector of a request picks. -/
def Picked (composite : CompositeTtsBridge TtsProvider) (request : TtsStreamRequest)
    (binding : ProviderBinding TtsProvider) : Prop :=
  ∃ index, LastGreatest (fun binding => Eligible request.provider binding.descriptor)
    (fun binding => CompositeTtsBridge.preferredScore (routedSelector request) binding.descriptor)
    composite.bindings index binding

theorem eligible_routed {descriptor : ProviderDescriptor} :
    Eligible (routedSelector request) descriptor ↔ Eligible request.provider descriptor := by
  obtain ⟨added, routed⟩ :=
    (routeApplied request.provider request.options.providerOptions).appends
  rw [routedSelector, routed]
  exact ⟨fun ⟨named, pinned, capable⟩ => ⟨named, pinned, capable⟩,
    fun ⟨named, pinned, capable⟩ => ⟨named, pinned, capable⟩⟩

theorem tts_selects (composite : CompositeTtsBridge TtsProvider) (selector : ProviderSelector) :
    Selects selector (CompositeTtsBridge.preferredScore selector) composite.bindings
      (CompositeTtsBridge.selectBinding composite selector) :=
  selectBinding_selects composite.distinct

theorem route_eq_ok {binding : ProviderBinding TtsProvider} {routed : TtsStreamRequest} :
    composite.route request = .ok (binding, routed) ↔
      CompositeTtsBridge.selectBinding composite (routedSelector request) = .ok binding ∧
        routed = { request with provider := routedSelector request } := by
  unfold CompositeTtsBridge.route
  dsimp only
  rw [← routedSelector]
  cases CompositeTtsBridge.selectBinding composite (routedSelector request) with
  | error error => exact ⟨nofun, fun ⟨other, _⟩ => by cases other⟩
  | ok found =>
    constructor
    · intro same
      obtain ⟨rfl, rfl⟩ := Prod.mk.inj (Except.ok.inj same)
      exact ⟨rfl, rfl⟩
    · rintro ⟨same, rfl⟩
      rw [Except.ok.inj same]
      rfl

theorem picked_of_route {binding : ProviderBinding TtsProvider} {routed : TtsStreamRequest}
    (found : composite.route request = .ok (binding, routed)) :
    Picked composite request binding ∧ routed.options = request.options := by
  obtain ⟨selected, rfl⟩ := route_eq_ok.mp found
  obtain ⟨index, chosen⟩ := (tts_selects composite _).chosen binding selected
  refine ⟨⟨index, chosen.stored, eligible_routed.mp chosen.holds, ?_⟩, rfl⟩
  exact fun other candidate stored eligible =>
    chosen.greatest other candidate stored (eligible_routed.mpr eligible)

/-- If a binding is eligible, some binding is routed to; and the picked one is. -/
theorem route_of_eligible {binding : ProviderBinding TtsProvider}
    (member : binding ∈ composite.bindings)
    (eligible : Eligible request.provider binding.descriptor) :
    ∃ found routed, composite.route request = .ok (found, routed) := by
  cases selected : CompositeTtsBridge.selectBinding composite (routedSelector request) with
  | error error =>
    have ineligible := (tts_selects composite _).fails.mp ⟨error, selected⟩
    exact absurd (eligible_routed.mpr eligible) (ineligible binding member)
  | ok found => exact ⟨found, _, route_eq_ok.mpr ⟨selected, rfl⟩⟩

theorem route_of_picked {binding : ProviderBinding TtsProvider}
    (picked : Picked composite request binding) :
    ∃ routed, composite.route request = .ok (binding, routed) := by
  obtain ⟨index, chosen⟩ := picked
  obtain ⟨found, routed, same⟩ := route_of_eligible chosen.mem chosen.holds
  obtain ⟨⟨other, again⟩, _⟩ := picked_of_route same
  obtain rfl := chosen.index_unique again
  obtain rfl := Option.some.inj (chosen.stored.symm.trans again.stored)
  exact ⟨routed, same⟩

/-- A composite of bridges binds each of them to its descriptor. -/
theorem ttsComposite_bindings
    (built : CompositeTtsBridge.new (bridges.map TtsProvider.toSharedBridge) = .ok composite) :
    composite.bindings = bridges.map fun provider => ⟨provider.descriptor, provider⟩ := by
  rw [(registerAll_registered built).complete, List.flatMap_map]
  exact List.flatMap_pure_eq_map _ _

/-! ## Exactly when advertised modes are served -/

/-- A bridge that overstates its modes is picked for a streaming mode it is required to have. When
the input is refused, the output is not looked at. -/
def PicksOverstated (composite : CompositeTtsBridge TtsProvider) (request : TtsStreamRequest) :
    Prop :=
  ∃ binding, Picked composite request binding ∧ Overstates binding.bridge ∧
    (requestedTtsInputMode request.options = .streaming ∧
        "streaming-input" ∈ request.provider.requiredCapabilities ∨
      requestedTtsInputMode request.options = .buffered ∧
        requestedTtsOutputMode request.options = .streaming ∧
        "streaming-output" ∈ request.provider.requiredCapabilities)

/-- A streaming mode is required that an installed bridge serves and none advertises. -/
structure Unadvertised (bridges : List TtsProvider) (request : TtsStreamRequest) : Prop where
  modes : RequiresModes request
  streaming : "streaming-input" ∈ request.provider.requiredCapabilities ∨
    "streaming-output" ∈ request.provider.requiredCapabilities
  served : ∃ provider ∈ bridges, Understates provider
  unadvertised : ∀ provider ∈ bridges, ¬ Overstates provider

theorem eligible_iff_of_requiresModes (modes : RequiresModes request) {provider : TtsProvider} :
    Eligible request.provider provider.descriptor ↔
      ∀ capability ∈ request.provider.requiredCapabilities,
        capability ∈ provider.capabilityKeys := by
  constructor
  · exact fun eligible capability required =>
      mem_capabilities.mp (eligible.capable capability required)
  · intro capable
    refine ⟨fun other => ?_, fun providerId pinned => ?_, fun capability required =>
      mem_capabilities.mpr (capable capability required)⟩
    · rw [modes.auto] at other
      cases other
    · rw [modes.unpinned] at pinned
      cases pinned

theorem requestedInput_eq {mode : StreamMode}
    (same : requestedTtsInputMode request.options = mode) :
    requestedInput request = inputCapability mode := congrArg inputCapability same

theorem requestedOutput_eq {mode : StreamMode}
    (same : requestedTtsOutputMode request.options = mode) :
    requestedOutput request = outputCapability mode := congrArg outputCapability same

theorem binding_bridge {binding : ProviderBinding TtsProvider}
    (built : CompositeTtsBridge.new (bridges.map TtsProvider.toSharedBridge) = .ok composite) :
    binding ∈ composite.bindings ↔ ∃ provider ∈ bridges,
      binding = ⟨provider.descriptor, provider⟩ := by
  rw [ttsComposite_bindings built, List.mem_map]
  exact exists_congr fun provider => and_congr_right fun _ => eq_comm

/-- A picked bridge that is required to stream and refuses it overstates its modes. -/
theorem overstates_of_picked {binding : ProviderBinding TtsProvider} {capability : String}
    (built : CompositeTtsBridge.new (bridges.map TtsProvider.toSharedBridge) = .ok composite)
    (picked : Picked composite request binding)
    (required : capability ∈ request.provider.requiredCapabilities)
    (streaming : capability = "streaming-input" ∨ capability = "streaming-output") :
    Overstates binding.bridge := by
  obtain ⟨index, chosen⟩ := picked
  obtain ⟨provider, _, rfl⟩ := (binding_bridge built).mp chosen.mem
  exact overstates_of_streaming streaming
    (mem_capabilities.mp (chosen.holds.capable capability required))

theorem not_understates_of_overstates (overstates : Overstates provider) :
    ¬ Understates provider := by
  cases provider with
  | melo => exact not_false
  | qwen => exact not_false
  | _ => exact overstates.elim

/-- A bridge that serves a streaming mode understates its modes. -/
theorem understates_of_served (served : provider.ensureModes options = .ok ())
    (streaming : requestedTtsInputMode options = .streaming ∨
      requestedTtsOutputMode options = .streaming) : Understates provider := by
  by_contra plain
  obtain ⟨name, checked⟩ := ensureModes_of_not_understates options plain
  rw [checked, ensureTtsModesSupported] at served
  split_ifs at served with input output
  rcases streaming with streaming | streaming
  · exact input ⟨streaming, rfl⟩
  · exact output ⟨streaming, rfl⟩

/-- A request that only requires buffered modes gets any bridge. -/
theorem eligible_of_buffered (modes : RequiresModes request)
    (input : "streaming-input" ∉ request.provider.requiredCapabilities)
    (output : "streaming-output" ∉ request.provider.requiredCapabilities) :
    Eligible request.provider provider.descriptor := by
  refine (eligible_iff_of_requiresModes modes).mpr fun capability required => ?_
  rcases modes.only capability required with rfl | rfl
  · cases mode : requestedTtsInputMode request.options with
    | streaming =>
      rw [requestedInput_eq mode] at required
      exact absurd required input
    | buffered =>
      rw [requestedInput_eq mode]
      exact (buffered_capable provider).1
  · cases mode : requestedTtsOutputMode request.options with
    | streaming =>
      rw [requestedOutput_eq mode] at required
      exact absurd required output
    | buffered =>
      rw [requestedOutput_eq mode]
      exact (buffered_capable provider).2

theorem eligible_of_overstates (modes : RequiresModes request)
    (overstates : Overstates provider) : Eligible request.provider provider.descriptor := by
  refine (eligible_iff_of_requiresModes modes).mpr fun capability required => ?_
  rcases modes.only capability required with rfl | rfl
  · exact (capable_of_overstates overstates _).1
  · exact (capable_of_overstates overstates _).2

/-- A required streaming mode is a requested one. -/
theorem streaming_requested (modes : RequiresModes request)
    (streaming : "streaming-input" ∈ request.provider.requiredCapabilities ∨
      "streaming-output" ∈ request.provider.requiredCapabilities) :
    requestedTtsInputMode request.options = .streaming ∨
      requestedTtsOutputMode request.options = .streaming := by
  by_contra neither
  rw [not_or] at neither
  have input : requestedTtsInputMode request.options = .buffered := by
    cases mode : requestedTtsInputMode request.options with
    | buffered => rfl
    | streaming => exact absurd mode neither.1
  have output : requestedTtsOutputMode request.options = .buffered := by
    cases mode : requestedTtsOutputMode request.options with
    | buffered => rfl
    | streaming => exact absurd mode neither.2
  have only := modes.only
  rw [requestedInput_eq input, requestedOutput_eq output] at only
  rcases streaming with required | required
  · have named := only _ required
    simp [inputCapability, outputCapability] at named
  · have named := only _ required
    simp [inputCapability, outputCapability] at named

/-- Advertised modes are served exactly when no bridge that overstates its modes is picked for one
of them, and no streaming mode is required that only an unadvertised bridge serves. -/
theorem modes_served_iff
    (built : CompositeTtsBridge.new (bridges.map TtsProvider.toSharedBridge) = .ok composite)
    (request : TtsStreamRequest) :
    ModesServed bridges composite request ↔
      ¬ PicksOverstated composite request ∧ ¬ Unadvertised bridges request := by
  constructor
  · intro served
    constructor
    · rintro ⟨binding, picked, overstates, input | output⟩
      · obtain ⟨routed, found⟩ := route_of_picked picked
        obtain ⟨streaming, required⟩ := input
        refine served.input binding routed found ?_ (rejectsInput_iff.mpr ?_)
        · rwa [requestedInput_eq streaming]
        · rw [(picked_of_route found).2]
          exact ⟨not_understates_of_overstates overstates, streaming⟩
      · obtain ⟨routed, found⟩ := route_of_picked picked
        obtain ⟨buffered, streaming, required⟩ := output
        refine served.output binding routed found ?_ (rejectsOutput_iff.mpr ?_)
        · rwa [requestedOutput_eq streaming]
        · rw [(picked_of_route found).2]
          exact ⟨not_understates_of_overstates overstates, buffered, streaming⟩
    · rintro ⟨modes, streaming, ⟨provider, installed, understates⟩, unadvertised⟩
      obtain ⟨⟨binding, routed⟩, found⟩ := served.available modes
        ⟨provider, installed, ensureModes_of_understates understates⟩
      obtain ⟨picked, _⟩ := picked_of_route found
      obtain ⟨other, present, rfl⟩ := (binding_bridge built).mp picked.choose_spec.mem
      rcases streaming with required | required
      · exact unadvertised other present (overstates_of_picked built picked required (.inl rfl))
      · exact unadvertised other present (overstates_of_picked built picked required (.inr rfl))
  · rintro ⟨sound, advertised⟩
    refine ⟨fun binding routed found required rejects => ?_,
      fun binding routed found required rejects => ?_, fun modes serving => ?_⟩
    · obtain ⟨picked, same⟩ := picked_of_route found
      obtain ⟨_, streaming⟩ := rejectsInput_iff.mp rejects
      rw [same] at streaming
      rw [requestedInput_eq streaming] at required
      exact sound ⟨binding, picked, overstates_of_picked built picked required (.inl rfl),
        .inl ⟨streaming, required⟩⟩
    · obtain ⟨picked, same⟩ := picked_of_route found
      obtain ⟨_, buffered, streaming⟩ := rejectsOutput_iff.mp rejects
      rw [same] at buffered streaming
      rw [requestedOutput_eq streaming] at required
      exact sound ⟨binding, picked, overstates_of_picked built picked required (.inr rfl),
        .inr ⟨buffered, streaming, required⟩⟩
    · obtain ⟨provider, installed, serves⟩ := serving
      have routes (other : TtsProvider) (present : other ∈ bridges)
          (eligible : Eligible request.provider other.descriptor) :
          ∃ routed, composite.route request = .ok routed := by
        obtain ⟨found, routed, same⟩ :=
          route_of_eligible ((binding_bridge built).mpr ⟨other, present, rfl⟩) eligible
        exact ⟨_, same⟩
      by_cases streaming : "streaming-input" ∈ request.provider.requiredCapabilities ∨
          "streaming-output" ∈ request.provider.requiredCapabilities
      · -- the serving bridge does not advertise what is required, so another one has to
        have understates := understates_of_served serves (streaming_requested modes streaming)
        by_contra refused
        refine advertised ⟨modes, streaming, ⟨provider, installed, understates⟩, ?_⟩
        exact fun other present overstates =>
          refused (routes other present (eligible_of_overstates modes overstates))
      · rw [not_or] at streaming
        exact routes provider installed (eligible_of_buffered modes streaming.1 streaming.2)

/-! ## Two gateways -/

/-- Streaming output is asked for by the `stream` flag, and required. -/
def streamedRequest : TtsStreamRequest where
  provider := { requiredCapabilities := ["streaming-output"] }
  inputKind := .text
  outputFormat := none
  options := { stream := true }

def melo : TtsProvider := .melo "melo.tts" none

def meloComposite : CompositeTtsBridge TtsProvider := ⟨[⟨melo.descriptor, melo⟩], by decide⟩

/-- Buffered input and output are asked for, and required. -/
def bufferedRequest : TtsStreamRequest where
  provider := { requiredCapabilities := ["buffered-input", "buffered-output"] }
  inputKind := .text
  outputFormat := none
  options := {}

def threeBridges : List TtsProvider :=
  [.mock "mock.tts" none, melo, .minimax "minimax.tts" none 32000 "mp3"]

def threeComposite : CompositeTtsBridge TtsProvider :=
  ⟨threeBridges.map fun provider => ⟨provider.descriptor, provider⟩, by decide⟩

/-- All three bridges can be picked, and each serves what is required. -/
theorem modes_served_iff_buffered : ModesServed threeBridges threeComposite bufferedRequest := by
  have built : CompositeTtsBridge.new (threeBridges.map TtsProvider.toSharedBridge) =
      .ok threeComposite := rfl
  have unrequired : "streaming-input" ∉ bufferedRequest.provider.requiredCapabilities ∧
      "streaming-output" ∉ bufferedRequest.provider.requiredCapabilities := by decide
  refine (modes_served_iff built _).mpr ⟨?_, fun unadvertised => ?_⟩
  · rintro ⟨_, _, _, ⟨_, required⟩ | ⟨_, _, required⟩⟩
    · exact unrequired.1 required
    · exact unrequired.2 required
  · exact unadvertised.streaming.elim unrequired.1 unrequired.2

/-- Melo is picked for the streaming output it advertises, and refuses it. -/
theorem melo_refuses_streaming :
    CompositeTtsBridge.new ([melo].map TtsProvider.toSharedBridge) = .ok meloComposite ∧
      ¬ ModesServed [melo] meloComposite streamedRequest := by
  refine ⟨rfl, fun served => ?_⟩
  have found : meloComposite.route streamedRequest =
      .ok (⟨melo.descriptor, melo⟩, streamedRequest) := rfl
  exact served.output _ _ found (List.mem_singleton_self _) ⟨"MeloTTS", rfl⟩

end SpeechMesh.Soundness
