import Mathlib.Data.List.Nodup
import SpeechMesh.Choice.LastGreatest
import SpeechMesh.Model.Core

/-! # Provider selection

`CompositeAsrBridge` and `CompositeTtsBridge` put several bridges behind one and choose among their
providers by the selector of a request. The two are written alike; they differ in their texts, in
how they rank providers, and in the route preferences of the TTS side. What stands behind a
descriptor does not matter to the choice and is a type of its own.
-/

namespace SpeechMesh.Model

open Choice

variable {β : Type}

/-! ## Capabilities -/

def hasEnabledCapability (descriptor : ProviderDescriptor) (capabilityKey : String) : Bool :=
  descriptor.capabilities.any fun capability =>
    capability.enabled && capability.key == capabilityKey

def descriptorMatchesRequired (descriptor : ProviderDescriptor)
    (requiredCapabilities : List String) : Bool :=
  requiredCapabilities.all (hasEnabledCapability descriptor)

theorem hasEnabledCapability_iff {descriptor : ProviderDescriptor} {capabilityKey : String} :
    hasEnabledCapability descriptor capabilityKey = true ↔
      ⟨capabilityKey, true⟩ ∈ descriptor.capabilities := by
  rw [hasEnabledCapability, List.any_eq_true]
  constructor
  · rintro ⟨⟨key, enabled⟩, member, both⟩
    obtain ⟨rfl, same⟩ := Bool.and_eq_true_iff.mp both
    rwa [← eq_of_beq same]
  · intro member
    exact ⟨_, member, by simp⟩

theorem descriptorMatchesRequired_iff {descriptor : ProviderDescriptor}
    {requiredCapabilities : List String} :
    descriptorMatchesRequired descriptor requiredCapabilities = true ↔
      ∀ capability ∈ requiredCapabilities, ⟨capability, true⟩ ∈ descriptor.capabilities := by
  rw [descriptorMatchesRequired, List.all_eq_true]
  exact forall₂_congr fun _ _ => hasEnabledCapability_iff

/-! ## Composites -/

/-- A bridge as it is registered, with the descriptors it reports. -/
structure SharedBridge (β : Type) where
  descriptors : List ProviderDescriptor
  bridge : β

structure ProviderBinding (β : Type) where
  descriptor : ProviderDescriptor
  bridge : β

def ProviderBinding.id (binding : ProviderBinding β) : String := binding.descriptor.id

/-- The bindings of a composite. No two have the same provider id. -/
structure CompositeBridge (β : Type) where
  bindings : List (ProviderBinding β)
  distinct : (bindings.map ProviderBinding.id).Nodup

namespace CompositeBridge

def empty : CompositeBridge β := ⟨[], List.nodup_nil⟩

def descriptors (composite : CompositeBridge β) : List ProviderDescriptor :=
  composite.bindings.map ProviderBinding.descriptor

theorem distinct_concat {composite : CompositeBridge β} {binding : ProviderBinding β}
    (fresh : binding.id ∉ composite.bindings.map ProviderBinding.id) :
    ((composite.bindings ++ [binding]).map ProviderBinding.id).Nodup := by
  rw [List.map_append, List.map_singleton, ← List.concat_eq_append]
  exact composite.distinct.concat fresh

/-- Register one provider; the ids that were seen are those of the bindings. -/
def register (domain : String) (bridge : β) (composite : CompositeBridge β)
    (descriptor : ProviderDescriptor) : Except BridgeError (CompositeBridge β) :=
  let binding : ProviderBinding β := ⟨descriptor, bridge⟩
  if seen : binding.id ∈ composite.bindings.map ProviderBinding.id then
    .error (.unavailable ("duplicate " ++ domain ++ " provider id registered: " ++ descriptor.id))
  else .ok ⟨composite.bindings ++ [binding], distinct_concat seen⟩

def registerBridge (domain : String) (composite : CompositeBridge β) (shared : SharedBridge β) :
    Except BridgeError (CompositeBridge β) :=
  if shared.descriptors.isEmpty then
    .error (.unavailable "bridge registered without any provider descriptors")
  else shared.descriptors.foldlM (register domain shared.bridge) composite

def registerAll (domain : String) (bridges : List (SharedBridge β)) :
    Except BridgeError (CompositeBridge β) :=
  bridges.foldlM (registerBridge domain) empty

end CompositeBridge

/-! ## The choice of a binding -/

/-- The texts in which the two selectors differ. -/
structure SelectionTexts where
  notInstalled : String → String
  unsatisfying : String → String
  noneSatisfies : String

def selectBinding (texts : SelectionTexts) (preferredScore : ProviderDescriptor → ℕ)
    (selector : ProviderSelector) (bindings : List (ProviderBinding β)) :
    Except BridgeError (ProviderBinding β) :=
  if selector.mode = .provider ∨ selector.providerId.isSome then
    match selector.providerId with
    | none => .error (.unavailable "provider mode requires a concrete provider_id")
    | some providerId =>
        match bindings.find? fun binding => binding.id == providerId with
        | none => .error (.unavailable (texts.notInstalled providerId))
        | some binding =>
            if descriptorMatchesRequired binding.descriptor selector.requiredCapabilities then
              .ok binding
            else .error (.unavailable (texts.unsatisfying providerId))
  else
    match maxByKey? (fun binding : ProviderBinding β => preferredScore binding.descriptor)
        (bindings.filter fun binding =>
          descriptorMatchesRequired binding.descriptor selector.requiredCapabilities) with
    | some binding => .ok binding
    | none => .error (.unavailable texts.noneSatisfies)

/-- How many of the preferred capabilities a provider has; a capability that is listed twice counts
twice. -/
def preferredCount (descriptor : ProviderDescriptor) (preferredCapabilities : List String) : ℕ :=
  (preferredCapabilities.filter (hasEnabledCapability descriptor)).length

abbrev CompositeAsrBridge (β : Type) : Type := CompositeBridge β

namespace CompositeAsrBridge

/-- `CompositeAsrBridge::new`. -/
def new (bridges : List (SharedBridge β)) : Except BridgeError (CompositeAsrBridge β) :=
  CompositeBridge.registerAll "ASR" bridges

def preferredScore (request : AsrStreamRequest) (descriptor : ProviderDescriptor) : ℕ :=
  let preferred := preferredCount descriptor request.provider.preferredCapabilities
  let onDeviceBonus :=
    if request.options.preferOnDevice && hasEnabledCapability descriptor "on-device" then 1 else 0
  preferred + onDeviceBonus

def texts : SelectionTexts where
  notInstalled providerId :=
    "requested provider " ++ providerId ++ " is not installed on this gateway"
  unsatisfying providerId :=
    "requested provider " ++ providerId ++ " does not satisfy required capabilities"
  noneSatisfies := "no installed ASR provider satisfies the requested capabilities"

def selectBinding (composite : CompositeAsrBridge β) (request : AsrStreamRequest) :
    Except BridgeError (ProviderBinding β) :=
  Model.selectBinding texts (preferredScore request) request.provider composite.bindings

end CompositeAsrBridge

abbrev CompositeTtsBridge (β : Type) : Type := CompositeBridge β

namespace CompositeTtsBridge

/-- `CompositeTtsBridge::new`. -/
def new (bridges : List (SharedBridge β)) : Except BridgeError (CompositeTtsBridge β) :=
  CompositeBridge.registerAll "TTS" bridges

def preferredScore (selector : ProviderSelector) (descriptor : ProviderDescriptor) : ℕ :=
  preferredCount descriptor selector.preferredCapabilities

def texts : SelectionTexts where
  notInstalled providerId :=
    "requested provider " ++ providerId ++ " is not available for TTS on this gateway"
  unsatisfying providerId :=
    "requested provider " ++ providerId ++ " does not satisfy required TTS capabilities"
  noneSatisfies := "no configured TTS provider satisfies the requested capabilities"

def selectBinding (composite : CompositeTtsBridge β) (selector : ProviderSelector) :
    Except BridgeError (ProviderBinding β) :=
  Model.selectBinding texts (preferredScore selector) selector composite.bindings

/-! ## Route preferences -/

def routeCapabilities (route : String) : List String :=
  if route ∈ ["realtime", "real_time", "low_latency", "low-latency"] then
    ["realtime-low-latency", "cloud-managed"]
  else if route ∈ ["quality", "quality_first", "quality-first", "offline", "local"] then
    ["quality-high", "local-inference"]
  else []

/-- Append a capability unless it is there. -/
def prefer (preferredCapabilities : List String) (capability : String) : List String :=
  if capability ∈ preferredCapabilities then preferredCapabilities
  else preferredCapabilities ++ [capability]

def requestedRoute (options : Json) : Option String :=
  ((options.get? "route").bind Json.asString?).map fun value => toAsciiLowercase (trim value)

def applyRoutePreferences (selector : ProviderSelector) (options : Json) : ProviderSelector :=
  if selector.mode ≠ .auto ∨ selector.providerId.isSome then selector
  else
    match requestedRoute options with
    | none => selector
    | some route =>
        { selector with
          preferredCapabilities :=
            (routeCapabilities route).foldl prefer selector.preferredCapabilities }

/-- `start_stream` of the composite up to the start of the chosen bridge: the binding, and the
request that its bridge is given. -/
def route (composite : CompositeTtsBridge β) (request : TtsStreamRequest) :
    Except BridgeError (ProviderBinding β × TtsStreamRequest) := do
  let selector := applyRoutePreferences request.provider request.options.providerOptions
  let binding ← selectBinding composite selector
  return (binding, { request with provider := selector })

end CompositeTtsBridge

end SpeechMesh.Model
