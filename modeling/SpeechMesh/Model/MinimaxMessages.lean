import SpeechMesh.Model.MinimaxSocket

/-! # The messages of the MiniMax socket

What is written to the socket is JSON. The settings of the start of a task come from the
configuration of the bridge and the options of the request; options that the bridge has no use for
are handed on to the provider, as fields of the message.
-/

namespace SpeechMesh.Model

/-- `Map::insert`. The order of the fields does not matter. -/
def insertField : List (String × Json) → String → Json → List (String × Json)
  | [], key, value => [(key, value)]
  | field :: rest, key, value =>
      if field.1 = key then (key, value) :: rest else field :: insertField rest key value

def insertFields (fields : List (String × Json)) (others : List (String × Json)) :
    List (String × Json) :=
  others.foldl (fun fields other => insertField fields other.1 other.2) fields

/-- The options of a provider without those that the bridge reads itself. -/
def filterReservedProviderOptions (options : Json) (reservedKeys : List String) : Json :=
  match options with
  | .object fields =>
      let filtered := fields.filter fun field => field.1 ∉ reservedKeys
      if filtered.isEmpty then .null else .object filtered
  | _ => .null

/-- The voice a task is started with. The numbers are as `json!` writes them. -/
structure MiniMaxVoiceOptions where
  voice : Option String := none
  rate : Option Json := none
  pitch : Option Json := none
  volume : Option Json := none
  providerOptions : Json := .null

/-- The defaults of the bridge. -/
structure MiniMaxVoiceDefaults where
  defaultModel : String
  defaultVoiceId : String
  defaultSampleRateHz : UInt32

structure MiniMaxWsSettings where
  model : String
  voiceSetting : Json
  audioSetting : Json
  extra : Json

def minimaxWsReservedKeys : List String :=
  ["route", "voice_id", "model", "format", "emotion", "emotion_tag", "input_mode", "output_mode"]

/-- `build_minimax_ws_settings`. -/
def buildMinimaxWsSettings (config : MiniMaxVoiceDefaults) (options : MiniMaxVoiceOptions)
    (outputEncoding : String) : MiniMaxWsSettings :=
  let option (key : String) := (options.providerOptions.get? key).bind Json.asString?
  let voiceId := ((option "voice_id").or options.voice).getD config.defaultVoiceId
  let setting (key : String) (value : Option Json) := value.toList.map fun value => (key, value)
  { model := (option "model").getD config.defaultModel
    voiceSetting := .object
      ([("voice_id", .string voiceId)] ++ setting "speed" options.rate ++
        setting "pitch" options.pitch ++ setting "vol" options.volume ++
        setting "emotion" (((option "emotion").or (option "emotion_tag")).map .string))
    audioSetting := .object
      ([("sample_rate", .number (toString config.defaultSampleRateHz)),
        ("format", .string outputEncoding), ("channel", .number "1")] ++
        if outputEncoding = "mp3" then [("bitrate", .number "128000")] else [])
    extra := filterReservedProviderOptions options.providerOptions minimaxWsReservedKeys }

namespace MiniMaxWsSettings

variable (settings : MiniMaxWsSettings)

/-- The fields of the start of a task, before those of the options. -/
def taskStartFields (text : Option String) : List (String × Json) :=
  [("event", .string "task_start"), ("model", .string settings.model), ("stream", .bool true),
    ("voice_setting", settings.voiceSetting), ("audio_setting", settings.audioSetting)] ++
    text.toList.map fun text => ("text", .string text)

/-- `send_minimax_task_start`: a field of the options replaces one of the same name. -/
def taskStart (text : Option String) : Json :=
  match settings.extra with
  | .object extraFields => .object (insertFields (settings.taskStartFields text) extraFields)
  | _ => .object (settings.taskStartFields text)

/-- The payload of a message. A pong has none. -/
def payload? : MiniMaxWsOutgoing → Option Json
  | .taskStart text => some (settings.taskStart text)
  | .taskContinue text =>
      some (.object [("event", .string "task_continue"), ("text", .string text)])
  | .taskFinish => some (.object [("event", .string "task_finish")])
  | .pong => none

end MiniMaxWsSettings

end SpeechMesh.Model
