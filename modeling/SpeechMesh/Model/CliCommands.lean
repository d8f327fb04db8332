import Mathlib.Algebra.Group.Nat.Defs
import Mathlib.Data.List.Infix
import SpeechMesh.Async.Code
import SpeechMesh.Model.ConfigFiles
import SpeechMesh.Model.Protocol

/-! # Commands that address an agent

Saying a text, the playback check of the doctor and the status of an agent. Each takes its target
from the flags and the configured defaults. Reading the text, synthesizing it and a request to the
gateway are single actions, and printing is left out.
-/

namespace SpeechMesh.Model.CliCommands

open Async CliConfig

inductive CliAction where
  | loadTextInput
  | synthesizeTts (text : String)
  | checkGateway
  | checkDiscover (domain : CapabilityDomain)
  | playAudio (controlUrl : String) (payload : ControlPlayAudioPayload)
  | agentStatus (controlUrl : String) (payload : ControlAgentStatusPayload)

def CliAction.Answer : CliAction → Type
  | .loadTextInput => Except String String
  | .synthesizeTts _ => Except String Bytes
  | .checkGateway => Except String Unit
  | .checkDiscover _ => Except String Unit
  | .playAudio _ _ => Except String ControlPlayAudioAcceptedPayload
  | .agentStatus _ _ => Except String (Option AgentSnapshot)

abbrev cliSignature : Signature := ⟨CliAction, CliAction.Answer⟩

abbrev CliCode := Code cliSignature

abbrev askCli (action : CliAction) : CliCode action.Answer := @Code.perform cliSignature action

/-! ## Targets -/

/-- What is read of the runtime configuration. -/
structure RuntimeConfig (F32 : Type) where
  url : String
  controlUrl : Option String
  defaults : DefaultsConfig F32

/-- `str::strip_suffix`. -/
def stripSuffix (text ending : String) : Option String :=
  if ending.toList <:+ text.toList then
    some (String.ofList (text.toList.take (text.toList.length - ending.toList.length)))
  else none

def deriveControlUrl (wsUrl : String) : String :=
  match stripSuffix wsUrl "/ws" with
  | some base => base ++ "/control"
  | none => trimEndMatches wsUrl '/' ++ "/control"

structure PlaybackTarget where
  deviceId : String
  outputTarget : Option String
deriving DecidableEq, Repr

section Commands

-- the `Debug` text of a string, which two messages quote
variable (debug : String → String)

def parsePlaybackTarget (raw : String) : Except String PlaybackTarget :=
  if trim raw = "" then .error "playback target cannot be empty"
  else match splitOnce (trim raw) ':' with
    | none => .ok ⟨trim raw, none⟩
    | some (deviceId, outputTarget) =>
        if trim deviceId = "" then
          .error ("playback target host is empty in " ++ debug (trim raw))
        else if trim outputTarget = "" then
          .error ("playback target output is empty in " ++ debug (trim raw))
        else .ok ⟨trim deviceId, some (trim outputTarget)⟩

/-- `map(parse_playback_target).transpose()`. -/
def parseTarget (device : Option String) : Except String (Option PlaybackTarget) :=
  match device with
  | none => .ok none
  | some raw => (parsePlaybackTarget debug raw).map some

/-- The request to play on a parsed target. -/
def requestPlay (device : Option String) (controlUrl : String)
    (payload : Option PlaybackTarget → ControlPlayAudioPayload) :
    CliCode (Except String ControlPlayAudioAcceptedPayload) :=
  match parseTarget debug device with
  | .error error => return .error error
  | .ok target => askCli (.playAudio controlUrl (payload target))

/-! ## Saying a text -/

structure SayArgs where
  device : Option String
  agentId : Option String
  controlUrl : Option String
  chunkSizeBytes : Option ℕ

variable (base64 : Base64) {F32 : Type} (cli : RuntimeConfig F32)

/-- The control address of the commands without a flag for it. -/
def configuredControlUrl : String :=
  (cli.defaults.controlUrl.or cli.controlUrl).getD (deriveControlUrl cli.url)

/-- `run_say` once the text is synthesized. -/
def sendSay (args : SayArgs) (targetDevice : Option String) (audio : Bytes) :
    CliCode (Except String ControlPlayAudioAcceptedPayload) :=
  requestPlay debug targetDevice (args.controlUrl.getD (configuredControlUrl cli)) fun target => {
    taskId := none
    deviceId := target.map PlaybackTarget.deviceId
    outputTarget := target.bind PlaybackTarget.outputTarget
    agentId := args.agentId
    format := none
    audioBase64 := base64.encode audio
    chunkSizeBytes :=
      some (max ((args.chunkSizeBytes.or cli.defaults.chunkSizeBytes).getD (16 * 1024)) 1) }

/-- `run_say` once the text is read. -/
def sayText (args : SayArgs) (targetDevice : Option String) (text : String) :
    CliCode (Except String ControlPlayAudioAcceptedPayload) :=
  if trim text = "" then return .error "TTS input is empty"
  else do
    let synthesized : Except String Bytes ← askCli (.synthesizeTts text)
    match synthesized with
    | .error error => return .error error
    | .ok audio => sendSay debug base64 cli args targetDevice audio

/-- `run_say` once there is a target. -/
def sayTo (args : SayArgs) (targetDevice : Option String) :
    CliCode (Except String ControlPlayAudioAcceptedPayload) := do
  let loaded : Except String String ← askCli .loadTextInput
  match loaded with
  | .error error => return .error error
  | .ok text => sayText debug base64 cli args targetDevice text

def runSay (args : SayArgs) : CliCode (Except String ControlPlayAudioAcceptedPayload) :=
  let targetDevice := args.device.or cli.defaults.device
  if targetDevice = none ∧ args.agentId = none then
    return .error "one of --device or --agent-id is required"
  else sayTo debug base64 cli args targetDevice

/-! ## The doctor -/

structure DoctorArgs where
  device : Option String
  agentId : Option String
  skipPlayback : Bool

structure DoctorPlaybackTarget where
  device : Option String
  agentId : Option String

structure DoctorCheckResult where
  ok : Bool
  skipped : Bool
  error : Option String

def DoctorCheckResult.skip (reason : String) : DoctorCheckResult := ⟨true, true, some reason⟩

def DoctorCheckResult.of {α : Type} : Except String α → DoctorCheckResult
  | .ok _ => ⟨true, false, none⟩
  | .error error => ⟨false, false, some error⟩

structure DoctorReport where
  gatewayUrl : String
  controlUrl : String
  playbackTarget : DoctorPlaybackTarget
  gateway : DoctorCheckResult
  tts : DoctorCheckResult
  asr : DoctorCheckResult
  playback : DoctorCheckResult

def leBytes (value count : ℕ) : Bytes :=
  (List.range count).map fun index => UInt8.ofNat (value / 256 ^ index)

/-- Fifty milliseconds of silence. -/
def silentWav16kMono : Bytes :=
  [82, 73, 70, 70] ++ leBytes 1636 4 ++ [87, 65, 86, 69] ++ [102, 109, 116, 32] ++ leBytes 16 4 ++
    leBytes 1 2 ++ leBytes 1 2 ++ leBytes 16000 4 ++ leBytes 32000 4 ++ leBytes 2 2 ++
    leBytes 16 2 ++ [100, 97, 116, 97] ++ leBytes 1600 4 ++ List.replicate 1600 0

def checkPlaybackRoute (target : DoctorPlaybackTarget) :
    CliCode (Except String ControlPlayAudioAcceptedPayload) :=
  requestPlay debug target.device (configuredControlUrl cli) fun parsed => {
    taskId := some "doctor-playback"
    deviceId := parsed.map PlaybackTarget.deviceId
    outputTarget := parsed.bind PlaybackTarget.outputTarget
    agentId := target.agentId
    format := some ⟨.wav, 16000, 1⟩
    audioBase64 := base64.encode silentWav16kMono
    chunkSizeBytes := some 512 }

def checkPlayback (args : DoctorArgs) (target : DoctorPlaybackTarget) :
    CliCode DoctorCheckResult :=
  if args.skipPlayback then return .skip "skipped by --skip-playback"
  else if target.device = none ∧ target.agentId = none then
    return .skip "no --device/--agent-id and no defaults.device configured"
  else do
    let accepted ← checkPlaybackRoute debug base64 cli target
    return .of accepted

def DoctorReport.verdict (report : DoctorReport) : Except String Unit :=
  if report.gateway.ok && report.tts.ok && report.asr.ok && report.playback.ok then .ok ()
  else .error "doctor found one or more failing checks"

/-- `run_doctor`, with the report that it prints. -/
def runDoctor (args : DoctorArgs) : CliCode (DoctorReport × Except String Unit) := do
  let gateway : Except String Unit ← askCli .checkGateway
  let tts : Except String Unit ← askCli (.checkDiscover .tts)
  let asr : Except String Unit ← askCli (.checkDiscover .asr)
  let target : DoctorPlaybackTarget := ⟨args.device.or cli.defaults.device, args.agentId⟩
  let playback ← checkPlayback debug base64 cli args target
  let report : DoctorReport := {
    gatewayUrl := cli.url
    controlUrl := configuredControlUrl cli
    playbackTarget := target
    gateway := .of gateway
    tts := .of tts
    asr := .of asr
    playback := playback }
  return (report, report.verdict)

/-! ## The status of an agent -/

structure AgentStatusArgs where
  device : Option String
  agentId : Option String

def annotateControlCapabilityError (error command : String) : String :=
  if "unknown variant".toList <:+: error.toList then
    "gateway control plane does not support \x60" ++ command ++
      "\x60 yet; deploy the updated \x60speechmeshd\x60 before retrying"
  else error

/-- What the answer of the gateway comes to. -/
def agentStatusResult : Except String (Option AgentSnapshot) → Except String AgentSnapshot
  | .error error => .error (annotateControlCapabilityError error "agent.status")
  | .ok none => .error "no agent matched the requested selector"
  | .ok (some agent) => .ok agent

def runAgentStatus (args : AgentStatusArgs) : CliCode (Except String AgentSnapshot) :=
  let deviceId := args.device.or cli.defaults.device
  if args.agentId = none ∧ deviceId = none then
    return .error "one of --agent-id or --device is required"
  else do
    let answer : Except String (Option AgentSnapshot) ←
      askCli (.agentStatus (configuredControlUrl cli) ⟨args.agentId, deviceId⟩)
    return agentStatusResult answer

end Commands

end SpeechMesh.Model.CliCommands
