import SpeechMesh.Model.ProviderSelection

/-! # What a composite selects

A composite registers every provider of its bridges once. Its selector fails exactly when no
provider is eligible, and otherwise picks the last of the best eligible ones. So the ASR and the TTS
selector agree wherever they rank alike, and the preferences of a route only move unpinned requests.
-/

namespace SpeechMesh.Soundness

open Choice SpeechMesh.Model

variable {β γ : Type}

/-! ## Registration -/

/-- The composite holds every descriptor of every bridge, in order, and no id twice. -/
structure BridgesRegistered (bridges : List (SharedBridge β)) (composite : CompositeBridge β) : Prop where
  complete : composite.bindings = bridges.flatMap fun shared =>
    shared.descriptors.map fun descriptor => ⟨descriptor, shared.bridge⟩
  distinct : (composite.bindings.map ProviderBinding.id).Nodup

theorem register_bindings {domain : String} {bridge : β} {composite after : CompositeBridge β}
    {descriptor : ProviderDescriptor}
    (registered : composite.register domain bridge descriptor = .ok after) :
    after.bindings = composite.bindings ++ [⟨descriptor, bridge⟩] := by
  unfold CompositeBridge.register at registered
  dsimp only at registered
  split_ifs at registered
  obtain rfl := Except.ok.inj registered
  rfl

theorem registerDescriptors_bindings {domain : String} {bridge : β}
    {descriptors : List ProviderDescriptor} {composite after : CompositeBridge β}
    (registered : descriptors.foldlM (CompositeBridge.register domain bridge) composite =
      .ok after) :
    after.bindings = composite.bindings ++ descriptors.map fun descriptor =>
      ⟨descriptor, bridge⟩ := by
  induction descriptors generalizing composite with
  | nil =>
    obtain rfl := Except.ok.inj registered
    rw [List.map_nil, List.append_nil]
  | cons descriptor rest ih =>
    rw [List.foldlM_cons] at registered
    cases first : composite.register domain bridge descriptor with
    | error error =>
      rw [first] at registered
      cases registered
    | ok middle =>
      rw [first] at registered
      rw [ih registered, register_bindings first, List.append_assoc, List.singleton_append,
        List.map_cons]

theorem registerBridge_bindings {domain : String} {shared : SharedBridge β}
    {composite after : CompositeBridge β}
    (registered : composite.registerBridge domain shared = .ok after) :
    after.bindings = composite.bindings ++ shared.descriptors.map fun descriptor =>
      ⟨descriptor, shared.bridge⟩ := by
  unfold CompositeBridge.registerBridge at registered
  split_ifs at registered
  exact registerDescriptors_bindings registered

theorem registerBridges_bindings {domain : String} {bridges : List (SharedBridge β)}
    {composite after : CompositeBridge β}
    (registered : bridges.foldlM (CompositeBridge.registerBridge domain) composite = .ok after) :
    after.bindings = composite.bindings ++ bridges.flatMap fun shared =>
      shared.descriptors.map fun descriptor => ⟨descriptor, shared.bridge⟩ := by
  induction bridges generalizing composite with
  | nil =>
    obtain rfl := Except.ok.inj registered
    rw [List.flatMap_nil, List.append_nil]
  | cons shared rest ih =>
    rw [List.foldlM_cons] at registered
    cases first : composite.registerBridge domain shared with
    | error error =>
      rw [first] at registered
      cases registered
    | ok middle =>
      rw [first] at registered
      rw [ih registered, registerBridge_bindings first, List.append_assoc, List.flatMap_cons]

theorem registerAll_registered {domain : String} {bridges : List (SharedBridge β)}
    {composite : CompositeBridge β}
    (built : CompositeBridge.registerAll domain bridges = .ok composite) :
    BridgesRegistered bridges composite :=
  ⟨registerBridges_bindings built, composite.distinct⟩

/-! ## Eligible providers -/

/-- A provider that a request may get: the pinned one, if one is pinned, with every capability that
is required. In provider mode one has to be pinned. -/
structure Eligible (selector : ProviderSelector) (descriptor : ProviderDescriptor) : Prop where
  named : selector.mode = .provider → selector.providerId.isSome
  pinned : ∀ providerId, selector.providerId = some providerId → descriptor.id = providerId
  capable : ∀ capability ∈ selector.requiredCapabilities,
    ⟨capability, true⟩ ∈ descriptor.capabilities

/-- A selection fails exactly when no binding is eligible; the binding it picks is eligible, no
eligible one has a greater score, and none after it has the same. -/
structure Selects (selector : ProviderSelector) (score : ProviderDescriptor → ℕ)
    (bindings : List (ProviderBinding β)) (result : Except BridgeError (ProviderBinding β)) :
    Prop where
  fails : (∃ error, result = .error error) ↔
    ∀ binding ∈ bindings, ¬ Eligible selector binding.descriptor
  chosen : ∀ binding, result = .ok binding → ∃ index,
    LastGreatest (fun binding => Eligible selector binding.descriptor)
      (fun binding => score binding.descriptor) bindings index binding

section Selection

variable {texts : SelectionTexts} {score : ProviderDescriptor → ℕ} {selector : ProviderSelector}
  {bindings : List (ProviderBinding β)} {binding : ProviderBinding β}

theorem eligible_iff_of_unpinned {descriptor : ProviderDescriptor}
    (unpinned : ¬ (selector.mode = .provider ∨ selector.providerId.isSome)) :
    Eligible selector descriptor ↔
      descriptorMatchesRequired descriptor selector.requiredCapabilities = true := by
  rw [not_or, Bool.not_eq_true, Option.isSome_eq_false_iff, Option.isNone_iff_eq_none] at unpinned
  rw [descriptorMatchesRequired_iff]
  constructor
  · exact Eligible.capable
  · intro capable
    refine ⟨fun provider => absurd provider unpinned.1, fun providerId pinned => ?_, capable⟩
    rw [unpinned.2] at pinned
    cases pinned

theorem eligible_iff_of_pinned {descriptor : ProviderDescriptor} {providerId : String}
    (pinned : selector.providerId = some providerId) :
    Eligible selector descriptor ↔ descriptor.id = providerId ∧
      descriptorMatchesRequired descriptor selector.requiredCapabilities = true := by
  rw [descriptorMatchesRequired_iff]
  constructor
  · intro eligible
    exact ⟨eligible.pinned providerId pinned, eligible.capable⟩
  · rintro ⟨rfl, capable⟩
    refine ⟨fun _ => by rw [pinned]; rfl, fun other also => ?_, capable⟩
    exact Option.some.inj (pinned.symm.trans also)

/-- In a list without a repeated id, an id has one index. -/
theorem index_eq_of_id (distinct : (bindings.map ProviderBinding.id).Nodup) {first second : ℕ}
    {other : ProviderBinding β} (stored : bindings[first]? = some binding)
    (found : bindings[second]? = some other) (same : other.id = binding.id) :
    second = first := by
  have storedId : (bindings.map ProviderBinding.id)[first]? = some binding.id := by
    rw [List.getElem?_map, stored, Option.map_some]
  have foundId : (bindings.map ProviderBinding.id)[second]? = some binding.id := by
    rw [List.getElem?_map, found, Option.map_some, same]
  have bound : second < (bindings.map ProviderBinding.id).length :=
    (List.getElem?_eq_some_iff.mp foundId).1
  exact (List.getElem?_inj bound distinct).mp (foundId.trans storedId.symm)

theorem selectBinding_chosen (distinct : (bindings.map ProviderBinding.id).Nodup)
    (selected : selectBinding texts score selector bindings = .ok binding) :
    ∃ index, LastGreatest (fun binding => Eligible selector binding.descriptor)
      (fun binding => score binding.descriptor) bindings index binding := by
  unfold selectBinding at selected
  split_ifs at selected with pinned
  · cases named : selector.providerId with
    | none =>
      rw [named] at selected
      cases selected
    | some providerId =>
      rw [named] at selected
      cases installed : bindings.find? fun binding => binding.id == providerId with
      | none =>
        simp only [installed] at selected
        cases selected
      | some found =>
        simp only [installed] at selected
        split_ifs at selected with capable
        obtain rfl := Except.ok.inj selected
        obtain ⟨index, stored⟩ := List.getElem?_of_mem (List.mem_of_find?_eq_some installed)
        have same : found.id = providerId := by simpa using List.find?_some installed
        -- only one binding has the pinned id
        refine ⟨index, .of_unique stored ((eligible_iff_of_pinned named).mpr ⟨same, capable⟩) ?_⟩
        intro other candidate present eligible
        exact index_eq_of_id distinct stored present
          ((eligible.pinned providerId named).trans same.symm)
  · cases greatest : maxByKey? (fun binding : ProviderBinding β => score binding.descriptor)
        (bindings.filter fun binding =>
          descriptorMatchesRequired binding.descriptor selector.requiredCapabilities) with
    | none =>
      rw [greatest] at selected
      cases selected
    | some best =>
      rw [greatest] at selected
      obtain rfl := Except.ok.inj selected
      have passing : (fun binding : ProviderBinding β => descriptorMatchesRequired
          binding.descriptor selector.requiredCapabilities) = fun binding => decide
            (descriptorMatchesRequired binding.descriptor selector.requiredCapabilities = true) := by
        funext binding
        rw [Bool.decide_eq_true]
      rw [passing] at greatest
      obtain ⟨index, chosen⟩ := maxByKey?_filter greatest
      refine ⟨index, chosen.stored, (eligible_iff_of_unpinned pinned).mpr chosen.holds, ?_⟩
      intro other candidate found eligible
      exact chosen.greatest other candidate found ((eligible_iff_of_unpinned pinned).mp eligible)

theorem selectBinding_refused {error : BridgeError}
    (distinct : (bindings.map ProviderBinding.id).Nodup)
    (refused : selectBinding texts score selector bindings = .error error) :
    ∀ binding ∈ bindings, ¬ Eligible selector binding.descriptor := by
  intro binding member eligible
  unfold selectBinding at refused
  split_ifs at refused with pinned
  · cases named : selector.providerId with
    | none =>
      have given : selector.providerId.isSome := pinned.elim eligible.named id
      rw [named] at given
      cases given
    | some providerId =>
      rw [named] at refused
      obtain ⟨same, capable⟩ := (eligible_iff_of_pinned named).mp eligible
      cases installed : bindings.find? fun binding => binding.id == providerId with
      | none =>
        have missing := List.find?_eq_none.mp installed binding member
        exact missing (beq_iff_eq.mpr same)
      | some found =>
        simp only [installed] at refused
        have foundId : found.id = providerId := by simpa using List.find?_some installed
        obtain ⟨first, stored⟩ := List.getElem?_of_mem (List.mem_of_find?_eq_some installed)
        obtain ⟨second, present⟩ := List.getElem?_of_mem member
        obtain rfl := index_eq_of_id distinct stored present (same.trans foundId.symm)
        obtain rfl := Option.some.inj (stored.symm.trans present)
        rw [if_pos capable] at refused
        cases refused
  · cases greatest : maxByKey? (fun binding : ProviderBinding β => score binding.descriptor)
        (bindings.filter fun binding =>
          descriptorMatchesRequired binding.descriptor selector.requiredCapabilities) with
    | none =>
      have noneLeft := maxByKey?_eq_none.mp greatest
      have capable := (eligible_iff_of_unpinned pinned).mp eligible
      have kept : binding ∈ bindings.filter fun binding =>
          descriptorMatchesRequired binding.descriptor selector.requiredCapabilities :=
        List.mem_filter.mpr ⟨member, capable⟩
      rw [noneLeft] at kept
      exact absurd kept List.not_mem_nil
    | some best =>
      rw [greatest] at refused
      cases refused

theorem selectBinding_selects (distinct : (bindings.map ProviderBinding.id).Nodup) :
    Selects selector score bindings (selectBinding texts score selector bindings) := by
  refine ⟨⟨?_, fun ineligible => ?_⟩, fun binding selected => selectBinding_chosen distinct selected⟩
  · rintro ⟨error, refused⟩
    exact selectBinding_refused distinct refused
  · cases result : selectBinding texts score selector bindings with
    | error error => exact ⟨error, rfl⟩
    | ok binding =>
      obtain ⟨_, chosen⟩ := selectBinding_chosen distinct result
      exact absurd chosen.holds (ineligible binding chosen.mem)

end Selection

/-! ## Selectors that rank alike -/

/-- Both selections fail, or both pick the binding at the same index. -/
def SameIndex (first : List (ProviderBinding β)) (second : List (ProviderBinding γ)) :
    Except BridgeError (ProviderBinding β) → Except BridgeError (ProviderBinding γ) → Prop
  | .ok binding, .ok other => ∃ index : ℕ, first[index]? = some binding ∧
      second[index]? = some other
  | .error _, .error _ => True
  | _, _ => False

theorem lastGreatest_descriptor {selector : ProviderSelector} {score : ProviderDescriptor → ℕ}
    {bindings : List (ProviderBinding β)} {index : ℕ} {binding : ProviderBinding β}
    (chosen : LastGreatest (fun binding => Eligible selector binding.descriptor)
      (fun binding => score binding.descriptor) bindings index binding) :
    LastGreatest (Eligible selector) score (bindings.map ProviderBinding.descriptor) index
      binding.descriptor :=
  chosen.map (fun _ => Iff.rfl) fun _ => rfl

theorem refused_iff_descriptors {selector : ProviderSelector} {bindings : List (ProviderBinding β)} :
    (∀ binding ∈ bindings, ¬ Eligible selector binding.descriptor) ↔
      ∀ descriptor ∈ bindings.map ProviderBinding.descriptor, ¬ Eligible selector descriptor := by
  rw [List.forall_mem_map]

theorem Selects.sameIndex {selector : ProviderSelector} {score : ProviderDescriptor → ℕ}
    {first : List (ProviderBinding β)} {second : List (ProviderBinding γ)}
    {result : Except BridgeError (ProviderBinding β)}
    {other : Except BridgeError (ProviderBinding γ)} (selects : Selects selector score first result)
    (also : Selects selector score second other)
    (same : first.map ProviderBinding.descriptor = second.map ProviderBinding.descriptor) :
    SameIndex first second result other := by
  have fails : (∃ error, result = .error error) ↔ ∃ error, other = .error error := by
    rw [selects.fails, also.fails, refused_iff_descriptors, refused_iff_descriptors, same]
  cases result with
  | error error =>
    obtain ⟨reason, rfl⟩ := fails.mp ⟨error, rfl⟩
    trivial
  | ok binding =>
    cases other with
    | error reason =>
      obtain ⟨error, wrong⟩ := fails.mpr ⟨reason, rfl⟩
      cases wrong
    | ok found =>
      obtain ⟨index, chosen⟩ := selects.chosen binding rfl
      obtain ⟨place, picked⟩ := also.chosen found rfl
      have here := lastGreatest_descriptor chosen
      have there := lastGreatest_descriptor picked
      rw [← same] at there
      obtain rfl := here.index_unique there
      exact ⟨index, chosen.stored, picked.stored⟩

theorem preferredScore_eq {request : AsrStreamRequest}
    (indifferent : request.options.preferOnDevice = false) :
    CompositeAsrBridge.preferredScore request =
      CompositeTtsBridge.preferredScore request.provider := by
  funext descriptor
  simp [CompositeAsrBridge.preferredScore, CompositeTtsBridge.preferredScore, indifferent]

/-! ## Route preferences -/

open CompositeTtsBridge

theorem foldl_prefer_of_subset {capabilities preferred : List String}
    (present : ∀ capability ∈ capabilities, capability ∈ preferred) :
    capabilities.foldl prefer preferred = preferred := by
  induction capabilities with
  | nil => rfl
  | cons capability rest ih =>
    obtain ⟨first, others⟩ := List.forall_mem_cons.mp present
    rw [List.foldl_cons, prefer, if_pos first, ih others]

theorem foldl_prefer_append (capabilities preferred : List String) :
    ∃ added, capabilities.foldl prefer preferred = preferred ++ added ∧
      ∀ capability ∈ capabilities, capability ∈ preferred ++ added := by
  induction capabilities generalizing preferred with
  | nil => exact ⟨[], (List.append_nil _).symm, nofun⟩
  | cons capability rest ih =>
    rw [List.foldl_cons, prefer]
    split_ifs with present
    · obtain ⟨added, whole, each⟩ := ih preferred
      exact ⟨added, whole, List.forall_mem_cons.mpr
        ⟨List.mem_append_left _ present, each⟩⟩
    · obtain ⟨added, whole, each⟩ := ih (preferred ++ [capability])
      rw [List.append_assoc, List.singleton_append] at whole each
      refine ⟨capability :: added, whole, List.forall_mem_cons.mpr ⟨?_, each⟩⟩
      exact List.mem_append_right _ List.mem_cons_self

/-- The preferences of a route are only appended, and appending them again changes nothing. -/
structure RouteApplied (selector : ProviderSelector) (options : Json) : Prop where
  idempotent : applyRoutePreferences (applyRoutePreferences selector options) options =
    applyRoutePreferences selector options
  appends : ∃ added, applyRoutePreferences selector options =
    { selector with preferredCapabilities := selector.preferredCapabilities ++ added }

theorem applyRoutePreferences_pinned {selector : ProviderSelector}
    (pinned : selector.mode = .provider ∨ selector.providerId.isSome) (options : Json) :
    applyRoutePreferences selector options = selector := by
  rw [applyRoutePreferences, if_pos]
  rcases pinned with provider | named
  · exact .inl (by rw [provider]; decide)
  · exact .inr named

theorem routeApplied (selector : ProviderSelector) (options : Json) :
    RouteApplied selector options := by
  have unchanged {changed : ProviderSelector} (same : changed = selector) :
      ∃ added, changed =
        { selector with preferredCapabilities := selector.preferredCapabilities ++ added } :=
    ⟨[], by rw [same, List.append_nil]⟩
  by_cases guarded : selector.mode ≠ .auto ∨ selector.providerId.isSome
  · have same : applyRoutePreferences selector options = selector := if_pos guarded
    exact ⟨by rw [same, same], unchanged same⟩
  · cases route : requestedRoute options with
    | none =>
      have same : applyRoutePreferences selector options = selector := by
        rw [applyRoutePreferences, if_neg guarded, route]
      exact ⟨by rw [same, same], unchanged same⟩
    | some route' =>
      obtain ⟨added, whole, each⟩ :=
        foldl_prefer_append (routeCapabilities route') selector.preferredCapabilities
      have applied : applyRoutePreferences selector options =
          { selector with preferredCapabilities := selector.preferredCapabilities ++ added } := by
        rw [applyRoutePreferences, if_neg guarded, route]
        dsimp only
        rw [whole]
      refine ⟨?_, added, applied⟩
      -- the capabilities of the route are there already
      rw [applied, applyRoutePreferences, if_neg guarded, route]
      dsimp only
      rw [foldl_prefer_of_subset each]

theorem route_pinned {tts : CompositeTtsBridge β} {request : TtsStreamRequest}
    (pinned : request.provider.mode = .provider ∨ request.provider.providerId.isSome) :
    tts.route request =
      (CompositeTtsBridge.selectBinding tts request.provider).map fun binding =>
        (binding, request) := by
  rw [CompositeTtsBridge.route, applyRoutePreferences_pinned pinned]
  rfl

/-! ## The two composites -/

/-- Provider ids are distinct; either selector fails exactly when no binding is eligible and
otherwise picks the last of the best; without the on-device preference both pick the same index; and
the preferences of a route are appended once and do not move a pinned request. -/
theorem composite_selection_correct {asrBridges : List (SharedBridge β)}
    {ttsBridges : List (SharedBridge γ)} {asr : CompositeAsrBridge β} {tts : CompositeTtsBridge γ}
    (asrBuilt : CompositeAsrBridge.new asrBridges = .ok asr)
    (ttsBuilt : CompositeTtsBridge.new ttsBridges = .ok tts) :
    (BridgesRegistered asrBridges asr ∧ BridgesRegistered ttsBridges tts) ∧
    (∀ request : AsrStreamRequest, Selects request.provider
      (CompositeAsrBridge.preferredScore request) asr.bindings
      (CompositeAsrBridge.selectBinding asr request)) ∧
    (∀ selector, Selects selector (CompositeTtsBridge.preferredScore selector) tts.bindings
      (CompositeTtsBridge.selectBinding tts selector)) ∧
    (∀ request : AsrStreamRequest, asr.descriptors = tts.descriptors →
      request.options.preferOnDevice = false →
      SameIndex asr.bindings tts.bindings (CompositeAsrBridge.selectBinding asr request)
        (CompositeTtsBridge.selectBinding tts request.provider)) ∧
    (∀ selector options, RouteApplied selector options) ∧
    ∀ request : TtsStreamRequest,
      request.provider.mode = .provider ∨ request.provider.providerId.isSome →
      tts.route request = (CompositeTtsBridge.selectBinding tts request.provider).map fun binding =>
        (binding, request) := by
  have asrSelects (request : AsrStreamRequest) : Selects request.provider
      (CompositeAsrBridge.preferredScore request) asr.bindings
      (CompositeAsrBridge.selectBinding asr request) := selectBinding_selects asr.distinct
  have ttsSelects (selector : ProviderSelector) : Selects selector
      (CompositeTtsBridge.preferredScore selector) tts.bindings
      (CompositeTtsBridge.selectBinding tts selector) := selectBinding_selects tts.distinct
  refine ⟨⟨registerAll_registered asrBuilt, registerAll_registered ttsBuilt⟩, asrSelects,
    ttsSelects, fun request same indifferent => ?_, routeApplied, fun _ => route_pinned⟩
  have selects := asrSelects request
  rw [preferredScore_eq indifferent] at selects
  exact selects.sameIndex (ttsSelects request.provider) same

/-- Two providers that rank alike. -/
def twoProviders : List (SharedBridge ℕ) :=
  [⟨[⟨"apple.asr", "Apple", .asr, .remoteGateway, [⟨"on-device", true⟩]⟩], 0⟩,
    ⟨[⟨"sensevoice.asr", "SenseVoice", .asr, .remoteGateway, [⟨"on-device", false⟩]⟩], 1⟩]

def compositeOfTwo : CompositeBridge ℕ :=
  ⟨[⟨⟨"apple.asr", "Apple", .asr, .remoteGateway, [⟨"on-device", true⟩]⟩, 0⟩,
    ⟨⟨"sensevoice.asr", "SenseVoice", .asr, .remoteGateway, [⟨"on-device", false⟩]⟩, 1⟩],
    by decide⟩

/-- The one that was registered last is picked. -/
theorem composite_selection_correct_two :
    (CompositeTtsBridge.selectBinding compositeOfTwo {}).toOption.map ProviderBinding.bridge =
        some 1 ∧
      SameIndex compositeOfTwo.bindings compositeOfTwo.bindings
        (CompositeAsrBridge.selectBinding compositeOfTwo ⟨{}, ⟨.pcmS16Le, 16000, 1⟩, {}⟩)
        (CompositeTtsBridge.selectBinding compositeOfTwo {}) := by
  have asrBuilt : CompositeAsrBridge.new twoProviders = .ok compositeOfTwo := rfl
  have ttsBuilt : CompositeTtsBridge.new twoProviders = .ok compositeOfTwo := rfl
  exact ⟨by decide, (composite_selection_correct asrBuilt ttsBuilt).2.2.2.1 _ rfl rfl⟩

end SpeechMesh.Soundness
