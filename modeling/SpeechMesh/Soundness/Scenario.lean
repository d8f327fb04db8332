import SpeechMesh.Model.Events

/-! # A small gateway to run schedules on

One provider for ASR and one for TTS, no shared secret, and a table of the encodings that the
schedules use.
-/

namespace SpeechMesh.Soundness.Scenario

open Async Model

/-- The standard encoding on the few values that occur in schedules. -/
def base64 : Base64 where
  encode bytes := if bytes = [0] then "AA==" else if bytes = [1] then "AQ==" else ""
  decode text :=
    if text = "AA==" then .ok [0]
    else if text = "AQ==" then .ok [1]
    else if text = "" then .ok []
    else .error "Invalid symbol"

/-- A gateway whose ASR sessions are started at a provider. -/
def config : GatewayConfig where
  serverName := "gateway"
  expectedSharedSecret := none
  asrBridge := ⟨[], fun _ => .ok .provider⟩
  ttsBridge := some ⟨[]⟩
  base64 := base64

/-- A gateway whose ASR sessions run on the agents of one provider id. -/
def agentConfig : GatewayConfig :=
  { config with asrBridge := ⟨[], fun _ => .ok (.remoteAgent "asr")⟩ }

/-- A device agent with a speaker, or an ASR agent. -/
def speaker : AgentHelloPayload where
  agentId := "device"
  agentName := "Device"
  providerId := some "asr"
  capabilities := ["speaker"]
  agentKind := .device

def playback : ControlPlayAudioPayload where
  taskId := some "task"
  audioBase64 := "AA=="

def recognition : AsrStreamRequest := ⟨{}, ⟨.pcmS16Le, 16000, 1⟩, {}⟩

variable {config : GatewayConfig}

def turns (count task : ℕ) : List (Choice (system config)) := List.replicate count (.task task)

def occurs (event : Event) : Choice (system config) := .event event

/-- A text frame arrives on an agent connection. -/
def agentSays (connection : ℕ) (message : AgentToGatewayMessage) : Choice (system config) :=
  occurs (.agentInput connection (.frame (.text (.ok message))))

def controlAsks (connection : ℕ) (request : ControlRequest) : Choice (system config) :=
  occurs (.controlInput connection (.text (.ok request)))

def clientSays (connection : ℕ) (message : ClientMessage) : Choice (system config) :=
  occurs (.clientInput connection (.text (.ok message)))

/-- A connection registers an agent and greets it. -/
def registers (connection : ℕ) (hello : AgentHelloPayload) : List (Choice (system config)) :=
  [occurs .connectAgent, agentSays connection (.hello hello)] ++ turns 5 connection

/-- A control connection asks for a playback and registers its task: it connects, reads the request,
subscribes, selects an agent and takes the task id. -/
def routesPlayback (control : ℕ) : List (Choice (system config)) :=
  [occurs .connectControl, controlAsks control (.playAudio playback)] ++ turns 7 control

/-- A client connects, and asks for an ASR session. -/
def asksRecognition (client : ℕ) : List (Choice (system config)) :=
  [occurs .connectClient, clientSays client (.asrStart ⟨"start"⟩ recognition)]

/-- The provider of a client's ASR sessions accepts the next one. -/
def providerAccepts (client : ℕ) : Choice (system config) :=
  occurs (.providerReplies client (.asr (.ok ("mock", .streaming, .streaming))))

end SpeechMesh.Soundness.Scenario
