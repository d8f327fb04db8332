import SpeechMesh.Model.AsrBridges
import SpeechMesh.Model.Gateway
import SpeechMesh.Model.ProviderSelection

/-! # The ASR providers of a gateway

What the ASR bridges report about themselves and how they start a session, and how `speechmeshd`
puts its ASR bridge together from its arguments and its provider file. What a bridge is started
with besides its id (a model, a base URL, a timeout) is left out.
-/

namespace SpeechMesh.Model

def ProviderDescriptor.withCapability (descriptor : ProviderDescriptor) (key : String) :
    ProviderDescriptor :=
  { descriptor with capabilities := descriptor.capabilities ++ [⟨key, true⟩] }

def asrDescriptorWithIoModes (descriptor : ProviderDescriptor) (supportsStreamingOutput : Bool) :
    ProviderDescriptor :=
  let descriptor := ((descriptor.withCapability "streaming-input").withCapability
    "buffered-input").withCapability "buffered-output"
  if supportsStreamingOutput then descriptor.withCapability "streaming-output" else descriptor

/-! ## Bridges -/

/-- A bridge to one ASR provider. -/
inductive AsrProvider where
  | mock (providerId : String) (displayName : Option String)
  | stdio (providerId : String) (displayName : Option String) (command : String)
      (args : List String)
  | tcp (providerId : String) (displayName : Option String) (address : String)
  | agent (providerId : String) (displayName : Option String)
  | minimaxHttp (providerId : String) (displayName : Option String)

namespace AsrProvider

def providerId : AsrProvider → String
  | mock providerId _ | stdio providerId _ _ _ | tcp providerId _ _ | agent providerId _
  | minimaxHttp providerId _ => providerId

/-- The descriptor that `descriptors` of the bridge reports. -/
def descriptor : AsrProvider → ProviderDescriptor
  | mock providerId displayName =>
      (asrDescriptorWithIoModes
        ⟨providerId, displayName.getD "Mock ASR Bridge", .asr, .localDaemon, []⟩
        true).withCapability "interim-results"
  | stdio providerId displayName _ _ =>
      (asrDescriptorWithIoModes
        ⟨providerId, displayName.getD "Stdio ASR Bridge", .asr, .localDaemon, []⟩
        true).withCapability "bridge-stdio"
  | tcp providerId displayName _ =>
      (asrDescriptorWithIoModes
        ⟨providerId, displayName.getD "TCP ASR Bridge", .asr, .remoteGateway, []⟩
        true).withCapability "bridge-tcp"
  | agent providerId displayName =>
      ⟨providerId, displayName.getD "Remote Agent ASR Bridge", .asr, .remoteGateway,
        [⟨"streaming-input", true⟩, ⟨"buffered-input", true⟩, ⟨"streaming-output", true⟩,
          ⟨"buffered-output", true⟩, ⟨"on-device", true⟩, ⟨"agent-backhaul", true⟩]⟩
  | minimaxHttp providerId displayName =>
      asrDescriptorWithIoModes (ProviderDescriptor.withCapability
        ⟨providerId, displayName.getD "MiniMax ASR", .asr, .remoteGateway, []⟩
        "cloud-provider") false

@[simp] theorem descriptor_id (provider : AsrProvider) : provider.descriptor.id =
    provider.providerId := by
  cases provider <;> rfl

/-- What spawning the bridge process, or connecting to it, comes to. -/
inductive Opening where
  | opened
  | failed (error : String)
  | stdinMissing
  | stdoutMissing

def openBridge (opening : Opening) : AsrProvider → Except BridgeError Unit
  | stdio _ _ command _ =>
      match opening with
      | .opened => .ok ()
      | .failed error =>
          .error (.unavailable ("failed to spawn bridge process " ++ command ++ ": " ++ error))
      | .stdinMissing => .error (.io "bridge stdin unavailable")
      | .stdoutMissing => .error (.io "bridge stdout unavailable")
  | tcp _ _ address =>
      match opening with
      | .failed error => .error (.unavailable
          ("failed to connect to remote bridge " ++ address ++ ": " ++ error))
      | _ => .ok ()
  | mock .. | agent .. | minimaxHttp .. => .ok ()

/-- `start_stream` of a bridge that serves its sessions itself; the agent bridge starts its sessions
by `startRemote`. -/
def startStream (provider : AsrProvider) (opening : Opening) (sessionId : SessionId)
    (request : AsrStreamRequest) : Except BridgeError AsrSession := do
  provider.openBridge opening
  return ⟨sessionId, provider.providerId, request.inputFormat, requestedAsrInputMode request,
    requestedAsrOutputMode request⟩

/-- Where the bridge starts a session. -/
def backend : AsrProvider → AsrBackend
  | agent providerId _ => .remoteAgent providerId
  | mock .. | stdio .. | tcp .. | minimaxHttp .. => .provider

def toSharedBridge (provider : AsrProvider) : SharedBridge AsrProvider :=
  ⟨[provider.descriptor], provider⟩

end AsrProvider

/-! ## The bridge of a gateway -/

inductive ConfiguredAsrBridge where
  | single (provider : AsrProvider)
  | composite (composite : CompositeAsrBridge AsrProvider)

namespace ConfiguredAsrBridge

def descriptors : ConfiguredAsrBridge → List ProviderDescriptor
  | single provider => [provider.descriptor]
  | composite bridge => bridge.descriptors

/-- The bridge that `start_stream` ends up at: a single one whatever the request says. -/
def target (configured : ConfiguredAsrBridge) (request : AsrStreamRequest) :
    Except BridgeError AsrProvider :=
  match configured with
  | single provider => .ok provider
  | composite bridge =>
      (CompositeAsrBridge.selectBinding bridge request).map ProviderBinding.bridge

def toAsrBridge (configured : ConfiguredAsrBridge) : AsrBridge where
  descriptors := configured.descriptors
  route request := (configured.target request).map AsrProvider.backend

end ConfiguredAsrBridge

/-! ## Configuration -/

inductive InstalledAsrBridgeKind where
  | mock
  | stdio (command : String) (args : List String)
  | tcp (address : String)
  | agent
  | minimaxHttp (apiKeyFile : Option String)

structure InstalledAsrProvider where
  providerId : String
  displayName : Option String
  enabled : Bool
  bridge : InstalledAsrBridgeKind

def InstalledAsrProvider.isAgent (provider : InstalledAsrProvider) : Bool :=
  match provider.bridge with
  | .agent => true
  | _ => false

inductive AsrBridgeMode where
  | mock | stdio | tcp | agent | minimaxHttp
deriving DecidableEq

structure RunArgs where
  asrProvidersConfig : Option String := none
  asrProvidersState : Option String := none
  asrBridgeMode : AsrBridgeMode := .mock
  asrProviderId : String := "bridge.asr"
  asrBridgeCommand : Option String := none
  asrBridgeArgs : List String := []
  asrBridgeAddress : Option String := none
  asrMinimaxProviderId : String := "minimax.asr"
  asrMinimaxProviderName : String := "MiniMax ASR"

/-- What the daemon finds when it starts: the provider files, the API keys and whether an HTTP
client can be built. -/
structure Startup where
  loadAsrProviderConfig : String → Except String (List InstalledAsrProvider)
  resolveAsrMinimaxApiKey : Except String Unit
  resolveProviderApiKey : Option String → Except String Unit
  buildMinimaxClient : Except BridgeError Unit

namespace Startup

variable (startup : Startup)

/-- `MiniMaxHttpAsrBridge::new`. -/
def newMinimaxAsr (providerId : String) (displayName : Option String) :
    Except String AsrProvider :=
  match startup.buildMinimaxClient with
  | .ok () => .ok (.minimaxHttp providerId displayName)
  | .error error => .error error.toText

def buildInstalledAsrBridge (agentRegistry : Bool) (provider : InstalledAsrProvider) :
    Except String AsrProvider :=
  match provider.bridge with
  | .mock => .ok (.mock provider.providerId provider.displayName)
  | .stdio command args => .ok (.stdio provider.providerId provider.displayName command args)
  | .tcp address => .ok (.tcp provider.providerId provider.displayName address)
  | .agent =>
      if agentRegistry then .ok (.agent provider.providerId provider.displayName)
      else .error ("provider " ++ provider.providerId ++
        " uses bridge_mode=agent but no agent registry is available")
  | .minimaxHttp apiKeyFile => do
      startup.resolveProviderApiKey apiKeyFile
      startup.newMinimaxAsr provider.providerId provider.displayName

def selectAsrBridgesFromConfig (path : String) (providers : List InstalledAsrProvider) :
    Except String ConfiguredAsrBridge := do
  let installed := providers.filter InstalledAsrProvider.enabled
  if installed.isEmpty then
    throw ("ASR provider file " ++ path ++ " does not contain any enabled providers")
  let agentRegistry := installed.any InstalledAsrProvider.isAgent
  let bridges ← installed.mapM (startup.buildInstalledAsrBridge agentRegistry)
  match CompositeAsrBridge.new (bridges.map AsrProvider.toSharedBridge) with
  | .ok bridge => return .composite bridge
  | .error error => throw ("failed to register ASR providers: " ++ error.toText)

/-- The bridge of the mode that is asked for when there is no provider file. -/
def selectSingleAsrBridge (args : RunArgs) : Except String AsrProvider :=
  match args.asrBridgeMode with
  | .mock => .ok (.mock args.asrProviderId none)
  | .stdio =>
      match args.asrBridgeCommand with
      | some command => .ok (.stdio args.asrProviderId none command args.asrBridgeArgs)
      | none => .error "--asr-bridge-command is required for stdio mode"
  | .tcp =>
      match args.asrBridgeAddress with
      | some address => .ok (.tcp args.asrProviderId none address)
      | none => .error "--asr-bridge-address is required for tcp mode"
  | .agent => .ok (.agent args.asrProviderId none)
  | .minimaxHttp => do
      startup.resolveAsrMinimaxApiKey
      startup.newMinimaxAsr args.asrMinimaxProviderId (some args.asrMinimaxProviderName)

def selectAsrBridge (args : RunArgs) : Except String ConfiguredAsrBridge := do
  if args.asrProvidersConfig.isSome && args.asrProvidersState.isSome then
    throw "--asr-providers-config and --asr-providers-state are mutually exclusive"
  match args.asrProvidersState.or args.asrProvidersConfig with
  | some path =>
      let providers ← startup.loadAsrProviderConfig path
      startup.selectAsrBridgesFromConfig path providers
  | none =>
      let provider ← startup.selectSingleAsrBridge args
      return .single provider

end Startup

end SpeechMesh.Model
