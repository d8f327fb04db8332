import Mathlib.Algebra.Group.Nat.Defs
import Mathlib.Logic.Function.Basic
import SpeechMesh.Model.Core

/-! # The configuration file

The command line tool and the agent read the same file, each with its own parser: line by line, by
indentation, with flags for the section a line belongs to. Hash maps are functions to options.
-/

namespace SpeechMesh.Model

/-! ## Lines -/

/-- `str::split_inclusive('\n')`. -/
def splitInclusive : List Char → List (List Char)
  | [] => []
  | c :: rest =>
      if c = '\n' then [c] :: splitInclusive rest
      else match splitInclusive rest with
        | [] => [[c]]
        | piece :: pieces => (c :: piece) :: pieces

def stripSuffixChar (text : List Char) (c : Char) : Option (List Char) :=
  if text.getLast? = some c then some text.dropLast else none

/-- A line without its ending, which is `\n` or `\r\n`. -/
def stripLineEnd (line : List Char) : List Char :=
  match stripSuffixChar line '\n' with
  | none => line
  | some content => (stripSuffixChar content '\r').getD content

/-- `str::lines`. -/
def linesOf (raw : String) : List String :=
  (splitInclusive raw.toList).map fun line => String.ofList (stripLineEnd line)

/-- `str::trim_end`. -/
def trimEnd (text : String) : String :=
  String.ofList ((text.toList.reverse.dropWhile isWhitespace).reverse)

/-- `str::trim_end_matches`. -/
def trimEndMatches (text : String) (c : Char) : String :=
  String.ofList ((text.toList.reverse.dropWhile (· == c)).reverse)

/-- `str::split_once`. -/
def splitOnce (text : String) (c : Char) : Option (String × String) :=
  match text.toList.dropWhile (· != c) with
  | [] => none
  | _ :: rest => some (String.ofList (text.toList.takeWhile (· != c)), String.ofList rest)

/-- The text between two quotes. -/
def unquote (value : String) (quote : Char) : Option String :=
  match value.toList with
  | [] => none
  | first :: rest =>
      if first = quote then (stripSuffixChar rest quote).map String.ofList else none

def stripQuotes (value : String) : String :=
  ((unquote value '"').or (unquote value '\'')).getD value

/-- `split_key_value`, which is the same in both programs. -/
def splitKeyValue (line : String) : Option (String × String) :=
  match splitOnce line ':' with
  | none => none
  | some (key, value) =>
      if trim value = "" then none else some (trim key, stripQuotes (trim value))

/-- The number of spaces a line begins with. -/
def indentOf (line : String) : ℕ := (line.toList.takeWhile (· == ' ')).length

/-- A blank line, or a comment. -/
def isSkipped (trimmed : String) : Bool :=
  trimmed == "" || trimmed.toList.head? == some '#'

def endsWithColon (trimmed : String) : Bool := trimmed.toList.getLast? == some ':'

/-- The name of a section: `trim_end_matches(':').trim()`. -/
def sectionName (trimmed : String) : String := trim (trimEndMatches trimmed ':')

/-! ## Maps -/

/-- `entry(name).or_default()`. -/
def orDefault {α : Type} (map : String → Option α) (name : String) (default : α) :
    String → Option α :=
  Function.update map name (some ((map name).getD default))

/-- `get_mut(name)`, with the error if there is no such entry. -/
def changeEntry {α : Type} (map : String → Option α) (name : String) (missing : String)
    (change : α → Except String α) : Except String (String → Option α) :=
  match map name with
  | none => .error missing
  | some entry => (change entry).map fun changed => Function.update map name (some changed)

theorem changeEntry_ok {α : Type} {map changed : String → Option α} {name missing : String}
    {change : α → Except String α} (ran : changeEntry map name missing change = .ok changed) :
    ∃ entry after, map name = some entry ∧ change entry = .ok after ∧
      changed = Function.update map name (some after) := by
  rw [changeEntry] at ran
  cases found : map name with
  | none =>
    rw [found] at ran
    contradiction
  | some entry =>
    rw [found] at ran
    dsimp only at ran
    cases changes : change entry with
    | error error =>
      rw [changes] at ran
      contradiction
    | ok after =>
      rw [changes] at ran
      exact ⟨entry, after, rfl, changes, (Except.ok.inj ran).symm⟩

/-! ## The agent -/

namespace AgentConfig

structure GatewayConfig where
  wsUrl : Option String
  agentUrl : Option String
deriving DecidableEq, Repr

structure ProfileConfig where
  gateway : GatewayConfig
  sharedSecret : Option String
deriving DecidableEq, Repr

structure FileConfig where
  activeProfile : Option String
  profiles : String → Option ProfileConfig
  defaultProfile : ProfileConfig

def emptyProfile : ProfileConfig := ⟨⟨none, none⟩, none⟩

/-- What the parser holds between two lines. -/
structure Parser where
  config : FileConfig
  currentProfile : Option String
  inProfiles : Bool
  inGateway : Bool

def initial : Parser := ⟨⟨none, fun _ => none, emptyProfile⟩, none, false, false⟩

def Parser.inSection (parser : Parser) (inGateway : Bool) : Parser :=
  { parser with inGateway := inGateway }

def assignGatewayValue (gateway : GatewayConfig) (trimmed : String) : GatewayConfig :=
  match splitKeyValue trimmed with
  | none => gateway
  | some (key, value) =>
      if key = "ws_url" then { gateway with wsUrl := some value }
      else if key = "agent_url" then { gateway with agentUrl := some value }
      else gateway

def assignProfileValue (profile : ProfileConfig) (trimmed : String) : ProfileConfig :=
  if trimmed = "gateway:" then profile
  else match splitKeyValue trimmed with
    | none => profile
    | some (key, value) =>
        if key = "shared_secret" then { profile with sharedSecret := some value }
        else if key = "ws_url" then { profile with gateway.wsUrl := some value }
        else if key = "agent_url" then { profile with gateway.agentUrl := some value }
        else profile

/-- A line of the file itself, once no profile is current. -/
def assignTopLevel (config : FileConfig) (trimmed : String) : FileConfig where
  activeProfile :=
    match splitKeyValue trimmed with
    | some (key, value) => if key = "active_profile" then some value else config.activeProfile
    | none => config.activeProfile
  profiles := config.profiles
  defaultProfile := assignProfileValue config.defaultProfile trimmed

/-- A line without indentation. -/
def parseTopLevel (parser : Parser) (trimmed : String) : Parser :=
  if trimmed = "profiles:" then
    { parser with currentProfile := none, inProfiles := true, inGateway := false }
  else if trimmed = "gateway:" then
    { parser with currentProfile := none, inProfiles := false, inGateway := true }
  else
    { config := assignTopLevel parser.config trimmed
      currentProfile := none, inProfiles := false, inGateway := false }

/-- The current profile with one change. -/
def changeProfile (parser : Parser) (name : String) (change : ProfileConfig → ProfileConfig) :
    Except String Parser := do
  let profiles ← changeEntry parser.config.profiles name "unknown profile while parsing"
    fun profile => .ok (change profile)
  return { parser with config.profiles := profiles }

def parseIndented (parser : Parser) (indent : ℕ) (trimmed : String) : Except String Parser :=
  match indent with
  | 2 =>
      if parser.inProfiles && endsWithColon trimmed then
        .ok { parser with
          config.profiles :=
            orDefault parser.config.profiles (sectionName trimmed) emptyProfile
          currentProfile := some (sectionName trimmed)
          inGateway := false }
      else if !parser.inProfiles && parser.inGateway then
        .ok { parser with config.defaultProfile.gateway :=
          assignGatewayValue parser.config.defaultProfile.gateway trimmed }
      else .ok parser
  | 4 =>
      match parser.currentProfile with
      | none => .ok parser
      | some name =>
          if trimmed = "gateway:" then .ok (parser.inSection true)
          else changeProfile (parser.inSection false) name fun profile =>
            assignProfileValue profile trimmed
  | 6 =>
      match parser.currentProfile with
      | none => .ok parser
      | some name =>
          if parser.inGateway then
            changeProfile parser name fun profile =>
              { profile with gateway := assignGatewayValue profile.gateway trimmed }
          else .ok parser
  | _ => .ok parser

def parseLine (parser : Parser) (original : String) : Except String Parser :=
  let line := trimEnd original
  let trimmed := trim line
  if isSkipped trimmed then .ok parser
  else match indentOf line with
    | 0 => .ok (parseTopLevel parser trimmed)
    | indent => parseIndented parser indent trimmed

def parseFileConfig (raw : String) : Except String FileConfig := do
  let parser ← (linesOf raw).foldlM parseLine initial
  return parser.config

def resolveProfile (config : Option FileConfig) (selected : Option String) :
    Option ProfileConfig :=
  match config with
  | none => none
  | some config =>
      ((selected.bind config.profiles).or (config.activeProfile.bind config.profiles)).or <|
        (config.profiles "default").or <|
          if config.defaultProfile.gateway.wsUrl.isSome ||
              config.defaultProfile.gateway.agentUrl.isSome ||
              config.defaultProfile.sharedSecret.isSome then
            some config.defaultProfile
          else none

end AgentConfig

/-! ## The command line tool -/

namespace CliConfig

/-- `f32::from_str`, with the text of its error. -/
structure FloatText where
  F32 : Type
  fromStr : String → Except String F32

inductive OutputEncodingArg where
  | mp3 | wav | flac
deriving DecidableEq, Repr

inductive AudioEncodingArg where
  | pcmS16Le | pcmF32Le | opus | mp3 | aac | flac | wav
deriving DecidableEq, Repr

structure DefaultsConfig (F32 : Type) where
  device : Option String
  provider : Option String
  require : List String
  prefer : List String
  voice : Option String
  language : Option String
  rate : Option F32
  pitch : Option F32
  volume : Option F32
  format : Option OutputEncodingArg
  sampleRate : Option ℕ
  channels : Option ℕ
  controlUrl : Option String
  chunkSizeBytes : Option ℕ
  asrEncoding : Option AudioEncodingArg
  asrSampleRate : Option ℕ
  asrChannels : Option ℕ
  asrLanguage : Option String
  asrInterim : Option Bool
  asrPunctuation : Option Bool
  asrTimestamps : Option Bool
  asrHints : List String

structure GatewayConfig where
  wsUrl : Option String
  controlUrl : Option String
deriving DecidableEq, Repr

structure ProfileConfig (F32 : Type) where
  gateway : GatewayConfig
  clientName : Option String
  defaults : DefaultsConfig F32

structure VoiceProfileConfig (F32 : Type) where
  provider : Option String
  voice : Option String
  language : Option String
  rate : Option F32
  pitch : Option F32
  volume : Option F32

structure ProjectVoiceBinding where
  root : Option String
  voiceProfile : Option String

structure FileConfig (F32 : Type) where
  activeProfile : Option String
  profiles : String → Option (ProfileConfig F32)
  voiceProfiles : String → Option (VoiceProfileConfig F32)
  projectVoiceProfiles : String → Option ProjectVoiceBinding
  defaultProfile : ProfileConfig F32

def emptyDefaults (F32 : Type) : DefaultsConfig F32 where
  device := none
  provider := none
  require := []
  prefer := []
  voice := none
  language := none
  rate := none
  pitch := none
  volume := none
  format := none
  sampleRate := none
  channels := none
  controlUrl := none
  chunkSizeBytes := none
  asrEncoding := none
  asrSampleRate := none
  asrChannels := none
  asrLanguage := none
  asrInterim := none
  asrPunctuation := none
  asrTimestamps := none
  asrHints := []

def emptyProfile (F32 : Type) : ProfileConfig F32 := ⟨⟨none, none⟩, none, emptyDefaults F32⟩

def emptyVoiceProfile (F32 : Type) : VoiceProfileConfig F32 :=
  ⟨none, none, none, none, none, none⟩

/-! ### Values -/

def digitOf (c : Char) : Option ℕ := if c.isDigit then some (c.toNat - '0'.toNat) else none

/-- The digits of a number, up to the first one that is none or makes the number too large. -/
def parseDigits (limit : ℕ) : List Char → ℕ → Except String ℕ
  | [], value => .ok value
  | c :: rest, value =>
      match digitOf c with
      | none => .error "invalid digit found in string"
      | some digit =>
          if value * 10 + digit < limit then parseDigits limit rest (value * 10 + digit)
          else .error "number too large to fit in target type"

/-- `from_str` of an unsigned type with values below a limit. -/
def parseUnsigned (limit : ℕ) (value : String) : Except String ℕ :=
  match value.toList with
  | [] => .error "cannot parse integer from empty string"
  | [c] => parseDigits limit [c] 0
  | c :: rest => if c = '+' then parseDigits limit rest 0 else parseDigits limit (c :: rest) 0

/-- `parse_number`, with the `from_str` of its type. -/
def parseNumber {α : Type} (fromStr : String → Except String α) (value key : String) :
    Except String (Option α) :=
  match fromStr value with
  | .ok number => .ok (some number)
  | .error reason => .error ("invalid value for " ++ key ++ ": " ++ value ++ " (" ++ reason ++ ")")

def parseBool (value key : String) : Except String (Option Bool) :=
  if value ∈ ["true", "yes", "on", "1"] then .ok (some true)
  else if value ∈ ["false", "no", "off", "0"] then .ok (some false)
  else .error ("invalid value for " ++ key ++ ": " ++ value)

def parseCsvList (value : String) : List String :=
  ((value.toList.splitOn ',').map fun item => trim (String.ofList item)).filter (· ≠ "")

def parseOutputEncoding (value : String) : Except String (Option OutputEncodingArg) :=
  match value with
  | "mp3" => .ok (some .mp3)
  | "wav" => .ok (some .wav)
  | "flac" => .ok (some .flac)
  | _ => .error ("invalid value for format: " ++ value)

def parseAudioEncoding (value : String) : Except String (Option AudioEncodingArg) :=
  match value with
  | "pcm-s16le" => .ok (some .pcmS16Le)
  | "pcm-f32le" => .ok (some .pcmF32Le)
  | "opus" => .ok (some .opus)
  | "mp3" => .ok (some .mp3)
  | "aac" => .ok (some .aac)
  | "flac" => .ok (some .flac)
  | "wav" => .ok (some .wav)
  | _ => .error ("invalid value for asr_encoding: " ++ value)

/-! ### Assignments -/

section Assignments

variable (floats : FloatText)

def assignGatewayValue (gateway : GatewayConfig) (trimmed : String) : GatewayConfig :=
  match splitKeyValue trimmed with
  | none => gateway
  | some (key, value) =>
      if key = "ws_url" then { gateway with wsUrl := some value }
      else if key = "control_url" then { gateway with controlUrl := some value }
      else gateway

def assignProfileValue (profile : ProfileConfig floats.F32) (trimmed : String) :
    ProfileConfig floats.F32 :=
  if trimmed = "gateway:" then profile
  else match splitKeyValue trimmed with
    | none => profile
    | some (key, value) =>
        if key = "client_name" then { profile with clientName := some value }
        else if key = "ws_url" then { profile with gateway.wsUrl := some value }
        else if key = "control_url" then { profile with gateway.controlUrl := some value }
        else profile

/-- The field of the defaults that a key names. -/
def assignDefault (defaults : DefaultsConfig floats.F32) (key value : String) :
    Except String (DefaultsConfig floats.F32) :=
  match key with
  | "device" => .ok { defaults with device := some value }
  | "provider" => .ok { defaults with provider := some value }
  | "require" => .ok { defaults with require := parseCsvList value }
  | "prefer" => .ok { defaults with prefer := parseCsvList value }
  | "voice" => .ok { defaults with voice := some value }
  | "language" => .ok { defaults with language := some value }
  | "rate" => (parseNumber floats.fromStr value key).map ({ defaults with rate := · })
  | "pitch" => (parseNumber floats.fromStr value key).map ({ defaults with pitch := · })
  | "volume" => (parseNumber floats.fromStr value key).map ({ defaults with volume := · })
  | "format" => (parseOutputEncoding value).map ({ defaults with format := · })
  | "sample_rate" =>
      (parseNumber (parseUnsigned (2 ^ 32)) value key).map ({ defaults with sampleRate := · })
  | "channels" =>
      (parseNumber (parseUnsigned (2 ^ 16)) value key).map ({ defaults with channels := · })
  | "control_url" => .ok { defaults with controlUrl := some value }
  | "chunk_size_bytes" =>
      (parseNumber (parseUnsigned (2 ^ 64)) value key).map ({ defaults with chunkSizeBytes := · })
  | "asr_encoding" => (parseAudioEncoding value).map ({ defaults with asrEncoding := · })
  | "asr_sample_rate" =>
      (parseNumber (parseUnsigned (2 ^ 32)) value key).map ({ defaults with asrSampleRate := · })
  | "asr_channels" =>
      (parseNumber (parseUnsigned (2 ^ 16)) value key).map ({ defaults with asrChannels := · })
  | "asr_language" => .ok { defaults with asrLanguage := some value }
  | "asr_interim" => (parseBool value key).map ({ defaults with asrInterim := · })
  | "asr_punctuation" => (parseBool value key).map ({ defaults with asrPunctuation := · })
  | "asr_timestamps" => (parseBool value key).map ({ defaults with asrTimestamps := · })
  | "asr_hints" => .ok { defaults with asrHints := parseCsvList value }
  | _ => .ok defaults

def assignDefaultsValue (defaults : DefaultsConfig floats.F32) (trimmed : String) :
    Except String (DefaultsConfig floats.F32) :=
  match splitKeyValue trimmed with
  | none => .ok defaults
  | some (key, value) => assignDefault floats defaults key value

def assignVoiceProfileValue (profile : VoiceProfileConfig floats.F32) (trimmed : String) :
    Except String (VoiceProfileConfig floats.F32) :=
  match splitKeyValue trimmed with
  | none => .ok profile
  | some (key, value) =>
      match key with
      | "provider" => .ok { profile with provider := some value }
      | "voice" => .ok { profile with voice := some value }
      | "language" => .ok { profile with language := some value }
      | "rate" => (parseNumber floats.fromStr value key).map ({ profile with rate := · })
      | "pitch" => (parseNumber floats.fromStr value key).map ({ profile with pitch := · })
      | "volume" => (parseNumber floats.fromStr value key).map ({ profile with volume := · })
      | _ => .ok profile

def assignProjectVoiceBindingValue (binding : ProjectVoiceBinding) (trimmed : String) :
    ProjectVoiceBinding :=
  match splitKeyValue trimmed with
  | none => binding
  | some (key, value) =>
      if key = "root" then { binding with root := some value }
      else if key = "voice_profile" then { binding with voiceProfile := some value }
      else binding

/-! ### The parser -/

/-- What the parser holds between two lines. -/
structure Parser where
  config : FileConfig floats.F32
  currentProfile : Option String
  currentVoiceProfile : Option String
  currentProjectBinding : Option String
  inProfiles : Bool
  inVoiceProfiles : Bool
  inProjectVoiceProfiles : Bool
  inGateway : Bool
  inDefaults : Bool

/-- A parser in none of the sections. -/
def outside (config : FileConfig floats.F32) : Parser floats :=
  ⟨config, none, none, none, false, false, false, false, false⟩

def initial : Parser floats :=
  outside floats
    ⟨none, fun _ => none, fun _ => none, fun _ => none, emptyProfile floats.F32⟩

/-- A line of the file itself, once no profile is current. -/
def assignTopLevel (config : FileConfig floats.F32) (trimmed : String) :
    FileConfig floats.F32 :=
  { config with
    activeProfile :=
      match splitKeyValue trimmed with
      | some (key, value) => if key = "active_profile" then some value else config.activeProfile
      | none => config.activeProfile
    defaultProfile := assignProfileValue floats config.defaultProfile trimmed }

variable {floats}

def Parser.inSection (parser : Parser floats) (inGateway inDefaults : Bool) : Parser floats :=
  { parser with inGateway := inGateway, inDefaults := inDefaults }

/-- A line without indentation. -/
def parseTopLevel (parser : Parser floats) (trimmed : String) : Parser floats :=
  let closed := outside floats parser.config
  if trimmed = "profiles:" then { closed with inProfiles := true }
  else if trimmed = "voice_profiles:" then { closed with inVoiceProfiles := true }
  else if trimmed = "project_voice_profiles:" then { closed with inProjectVoiceProfiles := true }
  else if trimmed = "gateway:" then { closed with inGateway := true }
  else if trimmed = "defaults:" then { closed with inDefaults := true }
  else outside floats (assignTopLevel floats parser.config trimmed)

/-- The current profile with one change. -/
def changeProfile (parser : Parser floats) (name : String)
    (change : ProfileConfig floats.F32 → Except String (ProfileConfig floats.F32)) :
    Except String (Parser floats) := do
  let profiles ← changeEntry parser.config.profiles name "unknown profile while parsing" change
  return { parser with config.profiles := profiles }

/-- A line that begins a profile or belongs to a section of the file. -/
def parseSection (parser : Parser floats) (trimmed : String) : Except String (Parser floats) :=
  if parser.inProfiles && endsWithColon trimmed then
    .ok { parser with
      config.profiles :=
        orDefault parser.config.profiles (sectionName trimmed) (emptyProfile floats.F32)
      currentProfile := some (sectionName trimmed)
      inGateway := false
      inDefaults := false }
  else if parser.inVoiceProfiles && endsWithColon trimmed then
    .ok { parser with
      config.voiceProfiles :=
        orDefault parser.config.voiceProfiles (sectionName trimmed) (emptyVoiceProfile floats.F32)
      currentVoiceProfile := some (sectionName trimmed) }
  else if parser.inProjectVoiceProfiles && endsWithColon trimmed then
    .ok { parser with
      config.projectVoiceProfiles :=
        orDefault parser.config.projectVoiceProfiles (sectionName trimmed) ⟨none, none⟩
      currentProjectBinding := some (sectionName trimmed) }
  else if !parser.inProfiles && parser.inGateway then
    .ok { parser with config.defaultProfile.gateway :=
      assignGatewayValue parser.config.defaultProfile.gateway trimmed }
  else if !parser.inProfiles && parser.inDefaults then do
    let defaults ← assignDefaultsValue floats parser.config.defaultProfile.defaults trimmed
    return { parser with config.defaultProfile.defaults := defaults }
  else .ok parser

/-- A line of a voice profile or of a project's binding, when no profile is current. -/
def parseVoiceEntry (parser : Parser floats) (trimmed : String) :
    Except String (Parser floats) :=
  match parser.inVoiceProfiles, parser.currentVoiceProfile with
  | true, some name => do
      let voiceProfiles ← changeEntry parser.config.voiceProfiles name
        "unknown voice profile while parsing"
        fun profile => assignVoiceProfileValue floats profile trimmed
      return { parser with config.voiceProfiles := voiceProfiles }
  | _, _ =>
      match parser.inProjectVoiceProfiles, parser.currentProjectBinding with
      | true, some name => do
          let bindings ← changeEntry parser.config.projectVoiceProfiles name
            "unknown project voice binding while parsing"
            fun binding => .ok (assignProjectVoiceBindingValue binding trimmed)
          return { parser with config.projectVoiceProfiles := bindings }
      | _, _ => .ok parser

/-- A line of an entry. -/
def parseEntry (parser : Parser floats) (trimmed : String) : Except String (Parser floats) :=
  match parser.currentProfile with
  | none => parseVoiceEntry parser trimmed
  | some name =>
      if trimmed = "gateway:" then .ok (parser.inSection true false)
      else if trimmed = "defaults:" then .ok (parser.inSection false true)
      else changeProfile (parser.inSection false false) name fun profile =>
        .ok (assignProfileValue floats profile trimmed)

/-- A line of a section of a profile. -/
def parseProfileSection (parser : Parser floats) (trimmed : String) :
    Except String (Parser floats) :=
  match parser.currentProfile with
  | none => .ok parser
  | some name =>
      if parser.inGateway then
        changeProfile parser name fun profile =>
          .ok { profile with gateway := assignGatewayValue profile.gateway trimmed }
      else if parser.inDefaults then
        changeProfile parser name fun profile => do
          let defaults ← assignDefaultsValue floats profile.defaults trimmed
          return { profile with defaults := defaults }
      else .ok parser

def parseLine (parser : Parser floats) (original : String) : Except String (Parser floats) :=
  let line := trimEnd original
  let trimmed := trim line
  if isSkipped trimmed then .ok parser
  else match indentOf line with
    | 0 => .ok (parseTopLevel parser trimmed)
    | 2 => parseSection parser trimmed
    | 4 => parseEntry parser trimmed
    | 6 => parseProfileSection parser trimmed
    | _ => .ok parser

variable (floats)

def parseFileConfig (raw : String) : Except String (FileConfig floats.F32) := do
  let parser ← (linesOf raw).foldlM parseLine (initial floats)
  return parser.config

end Assignments

/-! ### Profiles -/

variable {F32 : Type}

def defaultsPresent (defaults : DefaultsConfig F32) : Bool :=
  defaults.device.isSome || defaults.provider.isSome || !defaults.require.isEmpty ||
    !defaults.prefer.isEmpty || defaults.voice.isSome || defaults.language.isSome ||
    defaults.rate.isSome || defaults.pitch.isSome || defaults.volume.isSome ||
    defaults.format.isSome || defaults.sampleRate.isSome || defaults.channels.isSome ||
    defaults.controlUrl.isSome || defaults.chunkSizeBytes.isSome || defaults.asrEncoding.isSome ||
    defaults.asrSampleRate.isSome || defaults.asrChannels.isSome ||
    defaults.asrLanguage.isSome || defaults.asrInterim.isSome || defaults.asrPunctuation.isSome ||
    defaults.asrTimestamps.isSome || !defaults.asrHints.isEmpty

def resolveProfile (config : Option (FileConfig F32)) (selected : Option String) :
    Option (ProfileConfig F32) :=
  match config with
  | none => none
  | some config =>
      ((selected.bind config.profiles).or (config.activeProfile.bind config.profiles)).or <|
        (config.profiles "default").or <|
          if config.defaultProfile.gateway.wsUrl.isSome ||
              config.defaultProfile.gateway.controlUrl.isSome ||
              config.defaultProfile.clientName.isSome ||
              defaultsPresent config.defaultProfile.defaults then
            some config.defaultProfile
          else none

end CliConfig

end SpeechMesh.Model
