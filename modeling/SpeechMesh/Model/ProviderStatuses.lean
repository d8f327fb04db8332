import Mathlib.Data.List.Sort
import SpeechMesh.Model.ProviderStore

/-! # The listing of ASR providers

One row for each provider of the catalog, with what is recorded of it if it is installed, and one for
each installed provider that the catalog does not have.
-/

namespace SpeechMesh.Model.ProviderStore

def bridgeModeName : InstalledAsrBridgeKind → String
  | .mock => "mock"
  | .stdio _ _ => "stdio"
  | .tcp _ => "tcp"
  | .agent _ => "agent"
  | .miniMaxHttp _ _ _ => "minimax_http"

structure ProviderInstallStatus where
  providerId : String
  displayName : Option String
  description : Option String
  installed : Bool
  enabled : Bool
  bridgeMode : String
  downloadRequired : Bool
  artifactHint : Option String
deriving DecidableEq, Repr

/-- The row of a provider that is read from the state alone. -/
def installedRow (provider : InstalledAsrProvider) : ProviderInstallStatus where
  providerId := provider.providerId
  displayName := provider.displayName
  description := provider.description
  installed := true
  enabled := provider.enabled
  bridgeMode := bridgeModeName provider.bridge
  downloadRequired := provider.install.downloadRequired
  artifactHint := provider.install.artifactHint

def catalogRow (installed : Option InstalledAsrProvider) (provider : CatalogAsrProvider) :
    ProviderInstallStatus where
  providerId := provider.providerId
  displayName := (installed.bind fun record => record.displayName).or provider.displayName
  description := (installed.bind fun record => record.description).or provider.description
  installed := installed.isSome
  enabled := installed.any fun record => record.enabled
  bridgeMode := bridgeModeName provider.bridge
  downloadRequired :=
    (installed.map fun record => record.install.downloadRequired).getD
      provider.install.downloadRequired
  artifactHint :=
    (installed.bind fun record => record.install.artifactHint).or provider.install.artifactHint

/-- The records by their id, a later one in place of an earlier one. -/
def installedRecord (state : InstalledAsrProvidersConfig) (providerId : String) :
    Option InstalledAsrProvider :=
  state.providers.reverse.find? fun provider => provider.providerId == providerId

def addMissing (rows : List ProviderInstallStatus) (provider : InstalledAsrProvider) :
    List ProviderInstallStatus :=
  if rows.any fun row => row.providerId == provider.providerId then rows
  else rows ++ [installedRow provider]

/-- The rows of the catalog, or else of the state. -/
def firstRows (catalog : Option AsrProviderCatalog) (state : InstalledAsrProvidersConfig) :
    List ProviderInstallStatus :=
  match catalog with
  | some catalog =>
      catalog.providers.map fun provider =>
        catalogRow (installedRecord state provider.providerId) provider
  | none => state.providers.map installedRow

def listProviderStatuses (catalog : Option AsrProviderCatalog)
    (state : InstalledAsrProvidersConfig) : List ProviderInstallStatus :=
  let rows := state.providers.foldl addMissing (firstRows catalog state)
  rows.mergeSort fun left right => left.providerId ≤ right.providerId

end SpeechMesh.Model.ProviderStore
