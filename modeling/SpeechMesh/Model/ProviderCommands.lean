import Mathlib.Data.List.Sort
import SpeechMesh.Keyed.Lists
import SpeechMesh.Model.ProviderStore

/-! # The provider commands

Installing, removing, enabling and disabling a provider, as programs that read and write the state
file. An error is the text of its outermost context.
-/

namespace SpeechMesh.Model.ProviderStore

open Async

/-! ## The outside -/

/-- Why a file could not be read as text. -/
inductive ReadError where
  | notFound
  | other (text : String)

inductive StoreAction where
  | readCatalog (path : Path)
  | readState (path : Path)
  | createDirAll (path : Path)
  | writeState (path : Path) (bytes : Bytes)
  | nowUnixSecs

def StoreAction.Answer : StoreAction → Type
  | .readCatalog _ => Except ReadError Bytes
  | .readState _ => Except ReadError Bytes
  | .createDirAll _ => Except String Unit
  | .writeState _ _ => Except String Unit
  | .nowUnixSecs => UInt64

abbrev providerStore : Signature := ⟨StoreAction, StoreAction.Answer⟩

abbrev StoreCode := Code providerStore

abbrev askStore (action : StoreAction) : StoreCode action.Answer := @Code.perform providerStore action

/-- What an access does to the state file while no other process is in the middle of one: the file
changes only by being written. A write that fails may have been cut off anywhere, and a file that is
there can be read, or cannot. -/
def StoreStep (file : Option Bytes) (entry : Entry providerStore) (after : Option Bytes) : Prop :=
  match entry with
  | ⟨.readState _, .ok raw⟩ => after = file ∧ file = some raw
  | ⟨.readState _, .error .notFound⟩ => after = file ∧ file = none
  | ⟨.writeState _ bytes, .ok ()⟩ => after = some bytes
  | ⟨.writeState _ bytes, .error _⟩ => after = file ∨ ∃ part, part <+: bytes ∧ after = some part
  | _ => after = file

/-- The `serde_json` crate. The pretty text of a value has no newline at its end, and what is no
JSON text is not read. -/
structure JsonText where
  toStringPretty : Json → Bytes
  fromStr : Bytes → Option Json

/-! ## Files -/

section Programs

variable (json : JsonText) (statePath : Path)

/-- The bytes of a state file. -/
def stateText (config : InstalledAsrProvidersConfig) : Bytes :=
  json.toStringPretty (encodeConfig config) ++ [10]

def validateFormat (path : Path) (actual : Option String) (expected : String) :
    Except String Unit :=
  match actual with
  | some value =>
      if value ≠ expected then
        .error (path.display ++ " uses format " ++ value ++ ", expected " ++ expected)
      else .ok ()
  | none => .ok ()

def createParent : StoreCode (Except String Unit) :=
  match statePath.parent with
  | none => return .ok ()
  | some parent => do
      let created : Except String Unit ← askStore (.createDirAll parent)
      match created with
      | .error _ => return .error ("failed to create directory " ++ parent.display)
      | .ok () => return .ok ()

/-- `write_json` for the state file. -/
def writeJson (config : InstalledAsrProvidersConfig) : StoreCode (Except String Unit) := do
  match ← createParent statePath with
  | .error error => return .error error
  | .ok () => do
      let written : Except String Unit ← askStore (.writeState statePath (stateText json config))
      match written with
      | .error _ => return .error ("failed to write " ++ statePath.display)
      | .ok () => return .ok ()

/-- What a catalog file comes to once it was read. -/
def parseCatalog (path : Path) (read : Except ReadError Bytes) :
    Except String AsrProviderCatalog := do
  match read with
  | .error _ => throw ("failed to read ASR provider catalog " ++ path.display)
  | .ok raw =>
      match (json.fromStr raw).bind decodeCatalog with
      | none => throw ("failed to parse ASR provider catalog " ++ path.display)
      | some catalog => do
          validateFormat path catalog.format asrProviderCatalogFormat
          return catalog

def loadAsrProviderCatalog (path : Path) : StoreCode (Except String AsrProviderCatalog) := do
  let read : Except ReadError Bytes ← askStore (.readCatalog path)
  return parseCatalog json path read

/-- What the state file comes to once it was read. -/
def parseState (read : Except ReadError Bytes) : Except String InstalledAsrProvidersConfig := do
  match read with
  | .ok raw =>
      match (json.fromStr raw).bind decodeConfig with
      | none => throw ("failed to parse ASR provider state " ++ statePath.display)
      | some state => do
          validateFormat statePath state.format asrProviderStateFormat
          return state
  | .error .notFound => return ⟨some asrProviderStateFormat, []⟩
  | .error (.other _) => throw ("failed to read ASR provider state " ++ statePath.display)

def loadAsrProviderStateOrDefault : StoreCode (Except String InstalledAsrProvidersConfig) := do
  let read : Except ReadError Bytes ← askStore (.readState statePath)
  return parseState json statePath read

def compareProviders : InstalledAsrProvider → InstalledAsrProvider → Ordering :=
  compareLex (compareOn (·.providerId)) (compareOn (·.displayName))

/-- The state as it is saved. -/
def sortedState (state : InstalledAsrProvidersConfig) : InstalledAsrProvidersConfig where
  format := some asrProviderStateFormat
  providers :=
    state.providers.insertionSort fun left right => (compareProviders left right).isLE = true

def saveAsrProviderState (state : InstalledAsrProvidersConfig) : StoreCode (Except String Unit) :=
  writeJson json statePath (sortedState state)

/-! ## Commands -/

inductive InstallStateChange where
  | installed | updated
deriving DecidableEq, Repr

def find (state : InstalledAsrProvidersConfig) (providerId : String) :
    Option InstalledAsrProvider :=
  Keyed.lookup InstalledAsrProvider.providerId state.providers providerId

/-- The state with its first record under an id changed. -/
def changeFirst (state : InstalledAsrProvidersConfig) (providerId : String)
    (change : InstalledAsrProvider → InstalledAsrProvider) : InstalledAsrProvidersConfig where
  format := state.format
  providers :=
    Keyed.modifyFirst InstalledAsrProvider.providerId providerId change state.providers

/-- The state without its first record under an id. -/
def withoutFirst (state : InstalledAsrProvidersConfig) (providerId : String) :
    InstalledAsrProvidersConfig where
  format := state.format
  providers := Keyed.removeFirst InstalledAsrProvider.providerId providerId state.providers

/-- The state with a record at its end. -/
def withProvider (state : InstalledAsrProvidersConfig) (provider : InstalledAsrProvider) :
    InstalledAsrProvidersConfig where
  format := state.format
  providers := state.providers ++ [provider]

/-- Save a state and return a result. -/
def saveThen {α : Type} (state : InstalledAsrProvidersConfig) (result : α) :
    StoreCode (Except String α) := do
  match ← saveAsrProviderState json statePath state with
  | .error error => return .error error
  | .ok () => return .ok result

/-- The time of an installation: that of the record, or else the present. -/
def installedAt (existing : InstalledAsrProvider) : StoreCode (Option UInt64) :=
  match existing.installedAtUnixSecs with
  | some secs => return some secs
  | none => do
      let now : UInt64 ← askStore .nowUnixSecs
      return some now

/-- The record that takes the place of an existing one. -/
def CatalogAsrProvider.reinstalled (template : CatalogAsrProvider) (enabledOverride : Option Bool)
    (existing : InstalledAsrProvider) (installedAt : Option UInt64) (now : UInt64) :
    InstalledAsrProvider :=
  { template.toInstalled (enabledOverride.or (some existing.enabled)) now with
    installedAtUnixSecs := installedAt }

/-- `install_asr_provider` once the catalog and the state are loaded. -/
def installTemplate (template : CatalogAsrProvider) (providerId : String)
    (enabledOverride : Option Bool) (state : InstalledAsrProvidersConfig) :
    StoreCode (Except String (InstallStateChange × InstalledAsrProvider)) :=
  match find state providerId with
  | some existing => do
      let since ← installedAt existing
      let now : UInt64 ← askStore .nowUnixSecs
      let provider := template.reinstalled enabledOverride existing since now
      saveThen json statePath (changeFirst state providerId fun _ => provider) (.updated, provider)
  | none => do
      let now : UInt64 ← askStore .nowUnixSecs
      let provider := template.toInstalled enabledOverride now
      saveThen json statePath (withProvider state provider) (.installed, provider)

def installAsrProvider (catalogPath : Path) (providerId : String)
    (enabledOverride : Option Bool) :
    StoreCode (Except String (InstallStateChange × InstalledAsrProvider)) := do
  match ← loadAsrProviderCatalog json catalogPath with
  | .error error => return .error error
  | .ok catalog =>
      match Keyed.lookup CatalogAsrProvider.providerId catalog.providers providerId with
      | none =>
          return .error ("provider " ++ providerId ++ " is not present in " ++ catalogPath.display)
      | some template => do
          match ← loadAsrProviderStateOrDefault json statePath with
          | .error error => return .error error
          | .ok state => installTemplate json statePath template providerId enabledOverride state

/-- Load the state and change it by its first record under an id. -/
def withInstalled {α : Type} (providerId : String)
    (change : InstalledAsrProvidersConfig → InstalledAsrProvider → StoreCode (Except String α)) :
    StoreCode (Except String α) := do
  match ← loadAsrProviderStateOrDefault json statePath with
  | .error error => return .error error
  | .ok state =>
      match find state providerId with
      | none =>
          return .error ("provider " ++ providerId ++ " is not installed in " ++ statePath.display)
      | some provider => change state provider

def uninstallAsrProvider (providerId : String) : StoreCode (Except String InstalledAsrProvider) :=
  withInstalled json statePath providerId fun state removed =>
    saveThen json statePath (withoutFirst state providerId) removed

def setAsrProviderEnabled (providerId : String) (enabled : Bool) :
    StoreCode (Except String (Bool × InstalledAsrProvider)) :=
  withInstalled json statePath providerId fun state provider =>
    saveThen json statePath
      (changeFirst state providerId fun provider => { provider with enabled := enabled })
      (provider.enabled != enabled, { provider with enabled := enabled })

/-- The commands that change the store. -/
inductive ProviderCommand where
  | install (catalogPath : Path) (providerId : String) (enabledOverride : Option Bool)
  | uninstall (providerId : String)
  | enable (providerId : String)
  | disable (providerId : String)

/-- A command as a program, with the record it is about. -/
def ProviderCommand.run : ProviderCommand → StoreCode (Except String InstalledAsrProvider)
  | .install catalogPath providerId enabledOverride => do
      let result ← installAsrProvider json statePath catalogPath providerId enabledOverride
      return result.map Prod.snd
  | .uninstall providerId => uninstallAsrProvider json statePath providerId
  | .enable providerId => do
      let result ← setAsrProviderEnabled json statePath providerId true
      return result.map Prod.snd
  | .disable providerId => do
      let result ← setAsrProviderEnabled json statePath providerId false
      return result.map Prod.snd

end Programs

end SpeechMesh.Model.ProviderStore
