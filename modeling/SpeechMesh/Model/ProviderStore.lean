import SpeechMesh.Async.Trace
import SpeechMesh.Model.JsonCodec
import SpeechMesh.Model.Updater

/-! # The store of installed ASR providers

The records of the providers that are installed, as a JSON file that every command reads as a whole,
changes in memory and writes as a whole.
-/

namespace SpeechMesh.Model.ProviderStore

open Async Serde

def asrProviderCatalogFormat : String := "speechmesh/asr-provider-catalog.v1"

def asrProviderStateFormat : String := "speechmesh/asr-provider-state.v1"

def defaultMinimaxBaseUrl : String := "https://api.minimaxi.com/v1"

/-! ## Records -/

structure AsrProviderInstallMetadata where
  downloadRequired : Bool := false
  artifactHint : Option String := none
  notes : List String := []
deriving DecidableEq, Repr

def AsrProviderInstallMetadata.isEmpty (metadata : AsrProviderInstallMetadata) : Bool :=
  !metadata.downloadRequired && metadata.artifactHint.isNone && metadata.notes.isEmpty

inductive InstalledAsrBridgeKind where
  | mock
  | stdio (command : String) (args : List String)
  | tcp (address : String)
  | agent (startTimeoutSecs : Option UInt64)
  | miniMaxHttp (baseUrl : String) (model : Option String) (apiKeyFile : Option String)
deriving DecidableEq, Repr

structure InstalledAsrProvider where
  providerId : String
  displayName : Option String
  description : Option String
  enabled : Bool
  installedAtUnixSecs : Option UInt64
  install : AsrProviderInstallMetadata
  bridge : InstalledAsrBridgeKind
deriving DecidableEq, Repr

structure InstalledAsrProvidersConfig where
  format : Option String
  providers : List InstalledAsrProvider
deriving DecidableEq, Repr

structure CatalogAsrProvider where
  providerId : String
  displayName : Option String
  description : Option String
  enabledByDefault : Bool
  install : AsrProviderInstallMetadata
  bridge : InstalledAsrBridgeKind
deriving DecidableEq, Repr

structure AsrProviderCatalog where
  format : Option String
  providers : List CatalogAsrProvider
deriving DecidableEq, Repr

/-- The record of a catalog provider that is installed at a time. -/
def CatalogAsrProvider.toInstalled (provider : CatalogAsrProvider) (enabledOverride : Option Bool)
    (now : UInt64) : InstalledAsrProvider where
  providerId := provider.providerId
  displayName := provider.displayName
  description := provider.description
  enabled := enabledOverride.getD provider.enabledByDefault
  installedAtUnixSecs := some now
  install := provider.install
  bridge := provider.bridge

/-! ## Encoding -/

def encodeStrings (items : List String) : Json := .array (items.map .string)

def encodeMetadata (metadata : AsrProviderInstallMetadata) : Json :=
  .object (
    [("download_required", .bool metadata.downloadRequired)] ++
    optional "artifact_hint" (metadata.artifactHint.map .string) ++
    optional "notes" (if metadata.notes = [] then none else some (encodeStrings metadata.notes)))

/-- The tag of the bridge and the fields of its variant. -/
def encodeBridge : InstalledAsrBridgeKind → Fields Json
  | .mock => [("bridge_mode", .string "mock")]
  | .stdio command args =>
      [("bridge_mode", .string "stdio"), ("command", .string command),
        ("args", encodeStrings args)]
  | .tcp address => [("bridge_mode", .string "tcp"), ("address", .string address)]
  | .agent startTimeoutSecs =>
      [("bridge_mode", .string "agent"),
        ("start_timeout_secs", startTimeoutSecs.elim .null fun secs => .ofNat secs.toNat)]
  | .miniMaxHttp baseUrl model apiKeyFile =>
      [("bridge_mode", .string "mini_max_http"), ("base_url", .string baseUrl)] ++
      optional "model" (model.map .string) ++
      optional "api_key_file" (apiKeyFile.map .string)

def encodeInstalled (provider : InstalledAsrProvider) : Json :=
  .object (
    [("provider_id", .string provider.providerId)] ++
    optional "display_name" (provider.displayName.map .string) ++
    optional "description" (provider.description.map .string) ++
    [("enabled", .bool provider.enabled)] ++
    optional "installed_at_unix_secs"
      (provider.installedAtUnixSecs.map fun secs => .ofNat secs.toNat) ++
    optional "install"
      (if provider.install.isEmpty then none else some (encodeMetadata provider.install)) ++
    encodeBridge provider.bridge)

def encodeConfig (config : InstalledAsrProvidersConfig) : Json :=
  .object (
    optional "format" (config.format.map .string) ++
    [("providers", .array (config.providers.map encodeInstalled))])

/-! ## Decoding -/

def decodeMetadata (json : Json) : Option AsrProviderInstallMetadata := do
  let fields ← json.toFields? ["download_required", "artifact_hint", "notes"] 0
  let downloadRequired ← defaulted "download_required" false Json.toBool? fields
  let artifactHint ← defaulted "artifact_hint" none (Json.toOption? Json.asString?) fields
  let notes ← defaulted "notes" [] (Json.toList? Json.asString?) fields
  return ⟨downloadRequired, artifactHint, notes⟩

def decodeBridge (fields : Fields Json) : Option InstalledAsrBridgeKind := do
  let bridgeMode ← required "bridge_mode" Json.asString? fields
  match bridgeMode with
  | "mock" => return .mock
  | "stdio" => do
      let command ← required "command" Json.asString? fields
      let args ← defaulted "args" [] (Json.toList? Json.asString?) fields
      return .stdio command args
  | "tcp" => do
      let address ← required "address" Json.asString? fields
      return .tcp address
  | "agent" => do
      let secs ← defaulted "start_timeout_secs" none (Json.toOption? Json.toU64?) fields
      return .agent secs
  | "mini_max_http" => do
      let baseUrl ← defaulted "base_url" defaultMinimaxBaseUrl Json.asString? fields
      let model ← defaulted "model" none (Json.toOption? Json.asString?) fields
      let apiKeyFile ← defaulted "api_key_file" none (Json.toOption? Json.asString?) fields
      return .miniMaxHttp baseUrl model apiKeyFile
  | _ => none

/-- The fields of an object. A record with flattened fields is read from nothing else. -/
def objectFields : Json → Option (Fields Json)
  | .object fields => some fields
  | _ => none

def decodeInstalled (json : Json) : Option InstalledAsrProvider := do
  let fields ← objectFields json
  let providerId ← required "provider_id" Json.asString? fields
  let displayName ← defaulted "display_name" none (Json.toOption? Json.asString?) fields
  let description ← defaulted "description" none (Json.toOption? Json.asString?) fields
  let enabled ← defaulted "enabled" true Json.toBool? fields
  let installedAt ← defaulted "installed_at_unix_secs" none (Json.toOption? Json.toU64?) fields
  let install ← defaulted "install" {} decodeMetadata fields
  let bridge ← decodeBridge fields
  return ⟨providerId, displayName, description, enabled, installedAt, install, bridge⟩

def decodeConfig (json : Json) : Option InstalledAsrProvidersConfig := do
  let fields ← json.toFields? ["format", "providers"] 2
  let format ← defaulted "format" none (Json.toOption? Json.asString?) fields
  let providers ← required "providers" (Json.toList? decodeInstalled) fields
  return ⟨format, providers⟩

def decodeCatalogProvider (json : Json) : Option CatalogAsrProvider := do
  let fields ← objectFields json
  let providerId ← required "provider_id" Json.asString? fields
  let displayName ← defaulted "display_name" none (Json.toOption? Json.asString?) fields
  let description ← defaulted "description" none (Json.toOption? Json.asString?) fields
  let enabledByDefault ← defaulted "enabled_by_default" true Json.toBool? fields
  let install ← defaulted "install" {} decodeMetadata fields
  let bridge ← decodeBridge fields
  return ⟨providerId, displayName, description, enabledByDefault, install, bridge⟩

def decodeCatalog (json : Json) : Option AsrProviderCatalog := do
  let fields ← json.toFields? ["format", "providers"] 2
  let format ← defaulted "format" none (Json.toOption? Json.asString?) fields
  let providers ← required "providers" (Json.toList? decodeCatalogProvider) fields
  return ⟨format, providers⟩

/-! ## Reading what was encoded -/

theorem decodeMetadata_encodeMetadata (metadata : AsrProviderInstallMetadata) :
    decodeMetadata (encodeMetadata metadata) = some metadata := by
  obtain ⟨downloadRequired, artifactHint, notes⟩ := metadata
  rw [decodeMetadata, encodeMetadata]
  simp only [Json.toFields?, Option.bind_eq_bind, Option.bind_some]
  rw [defaulted_of_values (.bool downloadRequired), defaulted_string artifactHint]
  · by_cases none : notes = []
    · rw [if_pos none, defaulted_of_absent, none]
      · rfl
      · simp [values_cons_of_ne, values_optional_of_ne]
    · rw [if_neg none, defaulted_of_values (encodeStrings notes)]
      · simp [encodeStrings, Json.toBool?]
      · simp [values_cons_of_ne, values_optional_of_ne]
  · simp [values_cons_of_ne, values_optional_of_ne]
  · simp [values_optional_of_ne]

/-- The names of the fields of the bridges. -/
def bridgeNames : List String :=
  ["bridge_mode", "command", "args", "address", "start_timeout_secs", "base_url", "model",
    "api_key_file"]

theorem values_encodeBridge {name : String} (other : name ∉ bridgeNames)
    (bridge : InstalledAsrBridgeKind) : values name (encodeBridge bridge) = [] := by
  simp only [bridgeNames, List.mem_cons, List.not_mem_nil, or_false, not_or] at other
  cases bridge <;>
    simp [encodeBridge, values_cons_of_ne, values_optional_of_ne, Ne.symm, other]

/-- A bridge reads as it was written, after other fields. -/
theorem decodeBridge_append (fields : Fields Json) (bridge : InstalledAsrBridgeKind)
    (others : ∀ name ∈ bridgeNames, values name fields = []) :
    decodeBridge (fields ++ encodeBridge bridge) = some bridge := by
  simp only [bridgeNames, List.forall_mem_cons] at others
  obtain ⟨mode, command, args, address, secs, baseUrl, model, apiKeyFile, -⟩ := others
  cases bridge with
  | mock =>
    rw [decodeBridge, required_of_values (.string "mock")]
    · rfl
    · simp [encodeBridge, mode]
  | stdio program arguments =>
    rw [decodeBridge, required_of_values (.string "stdio")]
    · change ((required _ _ _).bind fun _ => (defaulted _ _ _ _).bind _) = _
      rw [required_of_values (.string program),
        defaulted_of_values (encodeStrings arguments)]
      · simp [encodeStrings, Json.asString?]
      · simp [encodeBridge, args, values_cons_of_ne]
      · simp [encodeBridge, command, values_cons_of_ne]
    · simp [encodeBridge, mode, values_cons_of_ne]
  | tcp target =>
    rw [decodeBridge, required_of_values (.string "tcp")]
    · change ((required _ _ _).bind _) = _
      rw [required_of_values (.string target)]
      · rfl
      · simp [encodeBridge, address, values_cons_of_ne]
    · simp [encodeBridge, mode, values_cons_of_ne]
  | agent timeout =>
    rw [decodeBridge, required_of_values (.string "agent")]
    · change ((defaulted _ _ _ _).bind _) = _
      rw [defaulted_of_values (timeout.elim .null fun secs => .ofNat secs.toNat)]
      · cases timeout with
        | none => rfl
        | some secs =>
          rw [Option.elim_some, Json.toOption?_of_ne_null (fun null => by cases null),
            Json.toU64?_ofNat]
          rfl
      · simp [encodeBridge, secs, values_cons_of_ne]
    · simp [encodeBridge, mode, values_cons_of_ne]
  | miniMaxHttp url name keyFile =>
    rw [decodeBridge, required_of_values (.string "mini_max_http")]
    · change ((defaulted _ _ _ _).bind fun _ => (defaulted _ _ _ _).bind fun _ =>
        (defaulted _ _ _ _).bind _) = _
      rw [defaulted_of_values (.string url), defaulted_string name, defaulted_string keyFile]
      · rfl
      · simp [encodeBridge, apiKeyFile, values_cons_of_ne, values_optional_of_ne]
      · simp [encodeBridge, model, values_cons_of_ne, values_optional_of_ne]
      · simp [encodeBridge, baseUrl, values_cons_of_ne, values_optional_of_ne]
    · simp [encodeBridge, mode, values_cons_of_ne, values_optional_of_ne]

theorem AsrProviderInstallMetadata.eq_of_isEmpty {metadata : AsrProviderInstallMetadata}
    (empty : metadata.isEmpty = true) : metadata = {} := by
  obtain ⟨downloadRequired, artifactHint, notes⟩ := metadata
  simp only [isEmpty, Bool.and_eq_true, Bool.not_eq_true', Option.isNone_iff_eq_none,
    List.isEmpty_iff] at empty
  obtain ⟨⟨rfl, rfl⟩, rfl⟩ := empty
  rfl

theorem defaulted_metadata {name : String} {fields : Fields Json}
    (metadata : AsrProviderInstallMetadata)
    (found : values name fields =
      (if metadata.isEmpty then none else some (encodeMetadata metadata)).toList) :
    defaulted name {} decodeMetadata fields = some metadata := by
  by_cases empty : metadata.isEmpty = true
  · rw [if_pos empty] at found
    rw [defaulted_of_absent found, AsrProviderInstallMetadata.eq_of_isEmpty empty]
  · rw [if_neg empty] at found
    rw [defaulted_of_values (encodeMetadata metadata) found, decodeMetadata_encodeMetadata]

theorem decodeInstalled_encodeInstalled (provider : InstalledAsrProvider) :
    decodeInstalled (encodeInstalled provider) = some provider := by
  obtain ⟨providerId, displayName, description, enabled, installedAt, install, bridge⟩ := provider
  rw [decodeInstalled, encodeInstalled]
  simp only [objectFields, Option.bind_eq_bind, Option.bind_some]
  have noBridge : ∀ name, name ∉ bridgeNames → values name (encodeBridge bridge) = [] :=
    fun name other => values_encodeBridge other bridge
  rw [decodeBridge_append, required_of_values (.string providerId), defaulted_string displayName,
    defaulted_string description, defaulted_of_values (.bool enabled), defaulted_u64 installedAt,
    defaulted_metadata install]
  · rfl
  · simp [values_cons_of_ne, values_optional_of_ne, noBridge, bridgeNames]
  · simp [values_cons_of_ne, values_optional_of_ne, noBridge, bridgeNames]
  · simp [values_cons_of_ne, values_optional_of_ne, noBridge, bridgeNames]
  · simp [values_cons_of_ne, values_optional_of_ne, noBridge, bridgeNames]
  · simp [values_cons_of_ne, values_optional_of_ne, noBridge, bridgeNames]
  · simp [values_cons_of_ne, values_optional_of_ne, noBridge, bridgeNames]
  · simp [values_cons_of_ne, values_optional_of_ne, bridgeNames]

/-- A saved state reads as it was written. -/
theorem decodeConfig_encodeConfig (config : InstalledAsrProvidersConfig) :
    decodeConfig (encodeConfig config) = some config := by
  obtain ⟨format, providers⟩ := config
  rw [decodeConfig, encodeConfig]
  simp only [Json.toFields?, Option.bind_eq_bind, Option.bind_some]
  rw [defaulted_string format, required_of_values (.array (providers.map encodeInstalled)),
    Json.toList?_map fun provider _ => decodeInstalled_encodeInstalled provider]
  · rfl
  · simp [values_optional_of_ne]
  · simp [values_cons_of_ne]

end SpeechMesh.Model.ProviderStore
