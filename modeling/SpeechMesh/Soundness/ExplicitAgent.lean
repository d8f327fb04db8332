import SpeechMesh.Async.Trace
import SpeechMesh.Model.CliCommands
import SpeechMesh.Model.DeviceRegistry

/-! # Commands with an explicit agent id

A command with `--agent-id` also sends the configured default device, and the gateway wants both to
match. So the named agent is addressed exactly when the default device is its own, or there is none.
-/

namespace SpeechMesh.Soundness

open Async Model.CliCommands
open Model (AgentSnapshot AgentSnapshotFilter Base64 BridgeError Bytes
  ControlPlayAudioAcceptedPayload ControlPlayAudioPayload DeviceRegistry RegisteredAgent trim)

/-! ## Registries -/

/-- A registry that the calls of the gateway have made. -/
inductive Built : DeviceRegistry → Prop where
  | empty : Built default
  | register {registry : DeviceRegistry} (built : Built registry) (agent : RegisteredAgent) :
      Built (registry.registerAgent agent).1
  | unregister {registry : DeviceRegistry} (built : Built registry) (agentId : String) :
      Built (registry.unregisterAgent agentId).1
  | registerTask {registry : DeviceRegistry} (built : Built registry) (taskId agentId : String) :
      Built (registry.registerTask taskId agentId).1
  | removeTask {registry : DeviceRegistry} (built : Built registry) (taskId : String) :
      Built (registry.removeTask taskId).1

variable {registry : DeviceRegistry} {agentId : String} {agent other : RegisteredAgent}

/-- An agent is stored under its own id. -/
theorem Built.agentId_eq (built : Built registry)
    (found : registry.agents.lookup agentId = some agent) : agent.agentId = agentId := by
  induction built generalizing agentId agent with
  | empty =>
    rw [show (default : DeviceRegistry).agents = ∅ from rfl, AList.lookup_empty] at found
    cases found
  | register built added ih =>
    rw [DeviceRegistry.registerAgent_agents] at found
    by_cases same : agentId = added.agentId
    · rw [if_pos same] at found
      rw [← Option.some.inj found, same]
    · rw [if_neg same] at found
      exact ih found
  | unregister built removed ih =>
    rw [DeviceRegistry.unregisterAgent, DeviceRegistry.removeAgentTasks_agents] at found
    by_cases same : agentId = removed
    · rw [same, AList.lookup_erase] at found
      cases found
    · rw [AList.lookup_erase_ne same] at found
      exact ih found
  | @registerTask registry built taskId owner ih =>
    rw [DeviceRegistry.registerTask] at found
    cases routed : registry.tasks.lookup taskId with
    | none =>
      rw [routed] at found
      exact ih found
    | some route =>
      rw [routed] at found
      exact ih found
  | removeTask built taskId ih => exact ih found

/-- What is found in the registry under an agent id is the agent with that id. -/
theorem findAgent_named (built : Built registry)
    (registered : registry.agents.lookup agentId = some agent) {select : RegisteredAgent → Bool}
    (named : ∀ candidate, select candidate = true → candidate.agentId = agentId) :
    registry.findAgent select = if select agent = true then some agent else none := by
  have member : agent ∈ registry.agents.entries.map Sigma.snd :=
    List.mem_map.mpr ⟨⟨agentId, agent⟩, AList.mem_lookup_iff.mp registered, rfl⟩
  cases found : registry.findAgent select with
  | none =>
    have refused : ¬ select agent = true := List.find?_eq_none.mp found agent member
    rw [if_neg refused]
  | some candidate =>
    have selected : select candidate = true := List.find?_some found
    obtain ⟨key, stored⟩ := DeviceRegistry.findAgent_mem found
    have here : key = agentId := (built.agentId_eq stored).symm.trans (named candidate selected)
    rw [here, registered] at stored
    obtain rfl := Option.some.inj stored
    rw [if_pos selected]

/-- The same for the last one of a snapshot. -/
theorem getLast?_snapshot (built : Built registry)
    (registered : registry.agents.lookup agentId = some agent) (deviceId : Option String) :
    (registry.snapshot ⟨some agentId, deviceId⟩).getLast? =
      if AgentSnapshotFilter.isMatch ⟨some agentId, deviceId⟩ agent = true then some agent
      else none := by
  have only : ∀ candidate ∈ registry.snapshot ⟨some agentId, deviceId⟩, candidate = agent ∧
      AgentSnapshotFilter.isMatch ⟨some agentId, deviceId⟩ candidate = true := by
    intro candidate member
    obtain ⟨listed, isMatch⟩ := List.mem_filter.mp member
    obtain ⟨⟨key, stored⟩, entry, rfl⟩ := List.mem_map.mp listed
    have found := AList.mem_lookup_iff.mpr entry
    have named : stored.agentId = agentId := beq_iff_eq.mp (Bool.and_eq_true_iff.mp isMatch).1
    have here : key = agentId := (built.agentId_eq found).symm.trans named
    rw [here, registered] at found
    exact ⟨(Option.some.inj found).symm, isMatch⟩
  have member : agent ∈ registry.agents.entries.map Sigma.snd :=
    List.mem_map.mpr ⟨⟨agentId, agent⟩, AList.mem_lookup_iff.mp registered, rfl⟩
  cases last : (registry.snapshot ⟨some agentId, deviceId⟩).getLast? with
  | none =>
    have empty := List.getLast?_eq_none_iff.mp last
    have refused : ¬ AgentSnapshotFilter.isMatch ⟨some agentId, deviceId⟩ agent = true := by
      intro isMatch
      have listed : agent ∈ registry.snapshot ⟨some agentId, deviceId⟩ :=
        List.mem_filter.mpr ⟨member, isMatch⟩
      rw [empty] at listed
      cases listed
    rw [if_neg refused]
  | some candidate =>
    obtain ⟨rfl, isMatch⟩ := only candidate (List.mem_of_getLast? last)
    rw [if_pos isMatch]

/-! ## What a command addresses -/

/-- The agent that the gateway selects for a request, by its id. -/
def selectedAgent (registry : DeviceRegistry) (entry : Entry cliSignature) : Option String :=
  match entry with
  | ⟨.playAudio _ payload, _⟩ =>
      (registry.selectSpeakerAgent payload.deviceId payload.agentId).map RegisteredAgent.agentId
  | ⟨.agentStatus _ payload, _⟩ =>
      (registry.snapshot ⟨payload.agentId, payload.deviceId⟩).getLast?.map RegisteredAgent.agentId
  | _ => none

def IsControl (entry : Entry cliSignature) : Prop :=
  match entry with
  | ⟨.playAudio _ _, _⟩ => True
  | ⟨.agentStatus _ _, _⟩ => True
  | _ => False

/-- What the tool says of a request to play that no agent matches. -/
def noSpeakerMatches : String :=
  "control request failed: " ++
    (BridgeError.unavailable "no registered speaker agent matches the play_audio route").toText

/-- What the tool says of a status without an agent. -/
def noAgentMatched : String := "no agent matched the requested selector"

/-- The gateway selects an agent, or answers that none matches. Every request can fail otherwise. -/
def ControlStep (registry : DeviceRegistry) (_ : Unit) (entry : Entry cliSignature) (_ : Unit) :
    Prop :=
  match entry with
  | ⟨.playAudio _ _, .ok accepted⟩ => selectedAgent registry entry = some accepted.routedAgentId
  | ⟨.playAudio _ _, .error error⟩ =>
      error = noSpeakerMatches → selectedAgent registry entry = none
  | ⟨.agentStatus _ payload, .ok found⟩ =>
      found = (registry.snapshot ⟨payload.agentId, payload.deviceId⟩).getLast?.map
        RegisteredAgent.toSnapshot
  | ⟨.agentStatus _ _, .error error⟩ => error ≠ noAgentMatched
  | _ => True

/-- The text was read, is not blank, and was synthesized. -/
def LocalStepsSucceed (trace : Trace cliSignature) : Prop :=
  ∀ entry ∈ trace, match entry with
    | ⟨.loadTextInput, loaded⟩ => ∃ text, loaded = .ok text ∧ trim text ≠ ""
    | ⟨.synthesizeTts _, synthesized⟩ => ∃ audio, synthesized = .ok audio
    | _ => True

/-- The gateway was asked for the agent, and for no other one. -/
structure Addressed (registry : DeviceRegistry) (agentId : String) (trace : Trace cliSignature) :
    Prop where
  asks : ∃ entry ∈ trace, IsControl entry
  selects : ∀ entry ∈ trace, IsControl entry → selectedAgent registry entry = some agentId

variable {α : Type}

/-- Every run of the command addresses the agent, and does not end with a complaint that none
matches. -/
def Addresses (registry : DeviceRegistry) (agentId : String) (complaint : α → Prop)
    (command : CliCode α) : Prop :=
  ∀ trace outcome, Code.Performs (ControlStep registry) command () trace (.done outcome) () →
    LocalStepsSucceed trace → Addressed registry agentId trace ∧ ¬ complaint outcome

section Conditions

variable (debug : String → String) (device : Option String) (agent : RegisteredAgent)

/-- The configured device is the agent's own, or there is none. It may also name an output. -/
def PlaybackDeviceFits : Prop :=
  ∀ raw, device = some raw → ∃ target, parsePlaybackTarget debug raw = .ok target ∧
    agent.actualDeviceId = some target.deviceId

def StatusDeviceFits : Prop := ∀ raw, device = some raw → agent.actualDeviceId = some raw

end Conditions

/-! ## Selections -/

variable {debug : String → String} {device : Option String}

theorem isSpeaker_iff (speaker : agent.isSpeaker none none = true) (deviceId : Option String) :
    agent.isSpeaker deviceId (some agent.agentId) = true ↔
      ∀ expected, deviceId = some expected → agent.actualDeviceId = some expected := by
  unfold RegisteredAgent.isSpeaker at speaker ⊢
  dsimp only at speaker ⊢
  rw [Bool.and_true, Bool.and_true] at speaker
  rw [speaker, Bool.true_and, beq_self_eq_true, Bool.true_and]
  cases deviceId with
  | none => simp
  | some expected => simp

/-- A request to play selects the agent exactly when its device fits. -/
theorem selected_play (built : Built registry)
    (registered : registry.agents.lookup agent.agentId = some agent)
    (speaker : agent.isSpeaker none none = true) {url : String}
    {payload : ControlPlayAudioPayload} (named : payload.agentId = some agent.agentId)
    (answer : Except String ControlPlayAudioAcceptedPayload) :
    selectedAgent registry ⟨.playAudio url payload, answer⟩ = some agent.agentId ↔
      ∀ expected, payload.deviceId = some expected → agent.actualDeviceId = some expected := by
  have one : ∀ candidate : RegisteredAgent,
      candidate.isSpeaker payload.deviceId payload.agentId = true →
        candidate.agentId = agent.agentId := by
    intro candidate selected
    rw [named] at selected
    simp only [RegisteredAgent.isSpeaker, Bool.and_eq_true, beq_iff_eq] at selected
    exact selected.1.2
  change (registry.findAgent fun candidate =>
    candidate.isSpeaker payload.deviceId payload.agentId).map _ = _ ↔ _
  rw [findAgent_named built registered one, named, ← isSpeaker_iff speaker]
  split <;> simp [*]

/-- A request for a status selects the agent exactly when its device fits. -/
theorem selected_status (built : Built registry)
    (registered : registry.agents.lookup agent.agentId = some agent) {url : String}
    (answer : Except String (Option AgentSnapshot)) :
    selectedAgent registry ⟨.agentStatus url ⟨some agent.agentId, device⟩, answer⟩ =
        some agent.agentId ↔ StatusDeviceFits device agent := by
  have fits : AgentSnapshotFilter.isMatch ⟨some agent.agentId, device⟩ agent = true ↔
      StatusDeviceFits device agent := by
    unfold AgentSnapshotFilter.isMatch
    dsimp only
    rw [beq_self_eq_true, Bool.true_and]
    cases device with
    | none => simp [StatusDeviceFits]
    | some expected => simp [StatusDeviceFits]
  change (registry.snapshot ⟨some agent.agentId, device⟩).getLast?.map _ = _ ↔ _
  rw [getLast?_snapshot built registered, ← fits]
  split <;> simp [*]

/-! ## Requests to play -/

theorem playbackDeviceFits_iff : PlaybackDeviceFits debug device agent ↔
    ∃ target, parseTarget debug device = .ok target ∧
      ∀ expected, target.map PlaybackTarget.deviceId = some expected →
        agent.actualDeviceId = some expected := by
  cases device with
  | none =>
    constructor
    · exact fun _ => ⟨none, rfl, fun _ absent => by cases absent⟩
    · exact fun _ _ absent => by cases absent
  | some raw =>
    constructor
    · intro fits
      obtain ⟨target, parsed, same⟩ := fits raw rfl
      refine ⟨some target, ?_, ?_⟩
      · rw [parseTarget, parsed]
        rfl
      · intro expected found
        rw [← Option.some.inj found]
        exact same
    · rintro ⟨target, parsed, same⟩ other here
      obtain rfl := Option.some.inj here
      rw [parseTarget] at parsed
      cases single : parsePlaybackTarget debug raw with
      | error error =>
        rw [single] at parsed
        cases parsed
      | ok only =>
        rw [single] at parsed
        obtain rfl := Except.ok.inj parsed
        exact ⟨only, rfl, same only.deviceId rfl⟩

/-- Actions before the request do not matter. -/
theorem addressed_append {earlier trace : Trace cliSignature}
    (quiet : ∀ entry ∈ earlier, ¬ IsControl entry) :
    Addressed registry agentId (earlier ++ trace) ↔ Addressed registry agentId trace := by
  constructor
  · intro addressed
    obtain ⟨entry, member, control⟩ := addressed.asks
    constructor
    · rcases List.mem_append.mp member with before | here
      · exact absurd control (quiet entry before)
      · exact ⟨entry, here, control⟩
    · intro entry member
      exact addressed.selects entry (List.mem_append_right earlier member)
  · intro addressed
    obtain ⟨entry, member, control⟩ := addressed.asks
    constructor
    · exact ⟨entry, List.mem_append_right earlier member, control⟩
    · intro entry member control
      rcases List.mem_append.mp member with before | here
      · exact absurd control (quiet entry before)
      · exact addressed.selects entry here control

theorem addressed_single {entry : Entry cliSignature} (control : IsControl entry) :
    Addressed registry agentId [entry] ↔ selectedAgent registry entry = some agentId := by
  constructor
  · exact fun addressed => addressed.selects entry List.mem_cons_self control
  · intro selected
    constructor
    · exact ⟨entry, List.mem_cons_self, control⟩
    · intro other member _
      rwa [List.mem_singleton.mp member]

theorem askCli_ensures (action : CliAction) (trace : Trace cliSignature) :
    (askCli action).Ensures (ControlStep registry) (fun _ _ => True)
      (fun answer later _ => later = trace ++ [(⟨action, answer⟩ : Entry cliSignature)])
      trace () :=
  fun _ _ _ => ⟨trivial, rfl⟩

theorem performs_ask {action : CliAction} {next : action.Answer → CliCode α}
    {answer : action.Answer} {trace : Trace cliSignature} {last : CliCode α}
    (stepped : ControlStep registry () ⟨action, answer⟩ ())
    (rest : Code.Performs (ControlStep registry) (next answer) () trace last ()) :
    Code.Performs (ControlStep registry) (.act action next) () (⟨action, answer⟩ :: trace) last
      () :=
  .act stepped rest

section Playing

variable {url : String} {payload : Option PlaybackTarget → ControlPlayAudioPayload}

/-- When the device fits, the request is for the agent. -/
theorem requestPlay_ensures (built : Built registry)
    (registered : registry.agents.lookup agent.agentId = some agent)
    (speaker : agent.isSpeaker none none = true)
    (named : ∀ target, (payload target).agentId = some agent.agentId)
    (placed : ∀ target, (payload target).deviceId = target.map PlaybackTarget.deviceId)
    (fits : PlaybackDeviceFits debug device agent) {earlier : Trace cliSignature}
    (quiet : ∀ entry ∈ earlier, ¬ IsControl entry) :
    (requestPlay debug device url payload).Ensures (ControlStep registry) (fun _ _ => True)
      (fun outcome later _ => Addressed registry agent.agentId later ∧
        outcome ≠ .error noSpeakerMatches) earlier () := by
  obtain ⟨target, parsed, same⟩ := playbackDeviceFits_iff.mp fits
  rw [requestPlay, parsed]
  intro (answer : Except String ControlPlayAudioAcceptedPayload) after stepped
  have selected : selectedAgent registry ⟨.playAudio url (payload target), answer⟩ =
      some agent.agentId := by
    rw [selected_play built registered speaker (named target), placed target]
    exact same
  have control : IsControl ⟨.playAudio url (payload target), answer⟩ := trivial
  refine ⟨trivial, ?_, ?_⟩
  · rw [addressed_append quiet, addressed_single control]
    exact selected
  · rintro rfl
    have none := stepped rfl
    rw [selected] at none
    cases none

/-- A run of the request that shows whether the device fits. -/
theorem requestPlay_reveals (built : Built registry)
    (registered : registry.agents.lookup agent.agentId = some agent)
    (speaker : agent.isSpeaker none none = true)
    (named : ∀ target, (payload target).agentId = some agent.agentId)
    (placed : ∀ target, (payload target).deviceId = target.map PlaybackTarget.deviceId) :
    ∃ trace outcome, Code.Performs (ControlStep registry) (requestPlay debug device url payload) ()
      trace (.done outcome) () ∧ (∀ entry ∈ trace, IsControl entry) ∧
      (Addressed registry agent.agentId trace → PlaybackDeviceFits debug device agent) := by
  cases parsed : parseTarget debug device with
  | error error =>
    refine ⟨[], .error error, ?_, fun _ member => absurd member List.not_mem_nil, ?_⟩
    · rw [requestPlay, parsed]
      exact .stop _ ()
    · intro addressed
      obtain ⟨entry, member, -⟩ := addressed.asks
      cases member
  | ok target =>
    refine ⟨[⟨.playAudio url (payload target), .error "closed"⟩], .error "closed", ?_, ?_, ?_⟩
    · rw [requestPlay, parsed]
      refine .act (fun same => ?_) (.stop _ ())
      exact absurd same (by decide)
    · intro entry member
      rw [List.mem_singleton.mp member]
      trivial
    · intro addressed
      have selected := addressed.selects _ List.mem_cons_self trivial
      rw [selected_play built registered speaker (named target), placed target] at selected
      exact playbackDeviceFits_iff.mpr ⟨target, parsed, selected⟩

end Playing

/-! ## The commands -/

variable {base64 : Base64} {F32 : Type} {cli : RuntimeConfig F32}

theorem addresses_of_ensures {complaint : α → Prop} {command : CliCode α}
    (ensures : command.Ensures (ControlStep registry) (fun _ _ => True)
      (fun outcome trace _ => LocalStepsSucceed trace →
        Addressed registry agentId trace ∧ ¬ complaint outcome) [] ()) :
    Addresses registry agentId complaint command := by
  intro trace outcome ran
  have ended := ran.ended trivial ensures
  rwa [List.nil_append] at ended

/-- The flags name the agent, and no device. -/
theorem runSay_named {args : SayArgs} (noDevice : args.device = none)
    (named : args.agentId = some agentId) :
    runSay debug base64 cli args = sayTo debug base64 cli args cli.defaults.device := by
  have target : ¬ (cli.defaults.device = none ∧ args.agentId = none) := by
    rw [named]
    exact fun both => by cases both.2
  rw [runSay, noDevice, Option.none_or]
  exact if_neg target

theorem local_quiet (text : String) (audio : Bytes) :
    ∀ entry ∈ ([⟨.loadTextInput, .ok text⟩, ⟨.synthesizeTts text, .ok audio⟩] :
      Trace cliSignature), ¬ IsControl entry := by
  intro entry member
  rcases List.mem_cons.mp member with rfl | member
  · exact id
  · rw [List.mem_singleton.mp member]
    exact id

/-- Requests to the gateway are no local steps. -/
theorem localStepsSucceed_append {earlier trace : Trace cliSignature}
    (succeed : LocalStepsSucceed earlier) (control : ∀ entry ∈ trace, IsControl entry) :
    LocalStepsSucceed (earlier ++ trace) := by
  intro entry member
  rcases List.mem_append.mp member with before | here
  · exact succeed entry before
  · have asked := control entry here
    obtain ⟨action, answer⟩ := entry
    cases action with
    | loadTextInput => exact asked.elim
    | synthesizeTts text => exact asked.elim
    | checkGateway => trivial
    | checkDiscover domain => trivial
    | playAudio url payload => trivial
    | agentStatus url payload => trivial

-- comparing the programs below must not unfold the blanks that are cut off
attribute [local irreducible] trim in
theorem say_addresses {args : SayArgs} (built : Built registry)
    (registered : registry.agents.lookup agent.agentId = some agent)
    (speaker : agent.isSpeaker none none = true) (noDevice : args.device = none)
    (named : args.agentId = some agent.agentId)
    (fits : PlaybackDeviceFits debug cli.defaults.device agent) :
    Addresses registry agent.agentId (· = .error noSpeakerMatches)
      (runSay debug base64 cli args) := by
  apply addresses_of_ensures
  rw [runSay_named noDevice named, sayTo]
  apply (askCli_ensures .loadTextInput []).bind
  rintro loaded _ _ rfl
  cases loaded with
  | error error =>
    intro succeed
    obtain ⟨text, same, -⟩ := succeed _ List.mem_cons_self
    cases same
  | ok text =>
    dsimp only
    rw [sayText]
    by_cases blank : trim text = ""
    · rw [if_pos blank]
      intro succeed
      obtain ⟨other, same, visible⟩ := succeed _ List.mem_cons_self
      cases same
      exact absurd blank visible
    · rw [if_neg blank]
      apply (askCli_ensures (.synthesizeTts text) _).bind
      rintro synthesized _ _ rfl
      cases synthesized with
      | error error =>
        intro succeed
        obtain ⟨audio, same⟩ := succeed _ (List.mem_cons_of_mem _ List.mem_cons_self)
        cases same
      | ok audio =>
        have asked : (sendSay debug base64 cli args cli.defaults.device audio).Ensures
            (ControlStep registry) (fun _ _ => True)
            (fun outcome later _ => Addressed registry agent.agentId later ∧
              outcome ≠ .error noSpeakerMatches)
            [⟨.loadTextInput, .ok text⟩, ⟨.synthesizeTts text, .ok audio⟩] () := by
          apply requestPlay_ensures built registered speaker _ _ fits (local_quiet text audio)
          · exact fun _ => named
          · exact fun _ => rfl
        exact asked.mono (fun _ _ kept => kept) fun _ _ _ reached _ => reached

attribute [local irreducible] trim in
/-- A run that reads and synthesizes a text before it asks the gateway. -/
theorem sayTo_performs {args : SayArgs} {text : String} {audio : Bytes} {trace : Trace cliSignature}
    {last : CliCode (Except String ControlPlayAudioAcceptedPayload)} (visible : trim text ≠ "")
    (ran : Code.Performs (ControlStep registry)
      (sendSay debug base64 cli args device audio) () trace last ()) :
    Code.Performs (ControlStep registry) (sayTo debug base64 cli args device) ()
      ([⟨.loadTextInput, .ok text⟩, ⟨.synthesizeTts text, .ok audio⟩] ++ trace) last () := by
  have saying : Code.Performs (ControlStep registry) (sayText debug base64 cli args device text) ()
      ([⟨.synthesizeTts text, .ok audio⟩] ++ trace) last () := by
    rw [sayText, if_neg visible]
    refine performs_ask ?_ ran
    trivial
  rw [sayTo]
  refine performs_ask ?_ saying
  trivial

theorem say_reveals {args : SayArgs} (built : Built registry)
    (registered : registry.agents.lookup agent.agentId = some agent)
    (speaker : agent.isSpeaker none none = true) (noDevice : args.device = none)
    (named : args.agentId = some agent.agentId)
    (addresses : Addresses registry agent.agentId (· = .error noSpeakerMatches)
      (runSay debug base64 cli args)) :
    PlaybackDeviceFits debug cli.defaults.device agent := by
  have revealing : ∃ trace outcome, Code.Performs (ControlStep registry)
      (sendSay debug base64 cli args cli.defaults.device [0]) () trace (.done outcome) () ∧
      (∀ entry ∈ trace, IsControl entry) ∧
      (Addressed registry agent.agentId trace →
        PlaybackDeviceFits debug cli.defaults.device agent) := by
    apply requestPlay_reveals built registered speaker
    · exact fun _ => named
    · exact fun _ => rfl
  obtain ⟨trace, outcome, ran, control, reveals⟩ := revealing
  have visible : trim "hello" ≠ "" := by decide
  have whole : Code.Performs (ControlStep registry) (runSay debug base64 cli args) ()
      ([⟨.loadTextInput, .ok "hello"⟩, ⟨.synthesizeTts "hello", .ok [0]⟩] ++ trace)
      (.done outcome) () := by
    rw [runSay_named noDevice named]
    exact sayTo_performs visible ran
  have succeed : LocalStepsSucceed
      [⟨.loadTextInput, .ok "hello"⟩, ⟨.synthesizeTts "hello", .ok [0]⟩] := by
    intro entry member
    rcases List.mem_cons.mp member with rfl | member
    · exact ⟨"hello", rfl, visible⟩
    · rw [List.mem_singleton.mp member]
      exact ⟨[0], rfl⟩
  have addressed := (addresses _ _ whole (localStepsSucceed_append succeed control)).1
  rw [addressed_append (local_quiet "hello" [0])] at addressed
  exact reveals addressed

/-! ### The doctor -/

/-- The three checks before the one of the playback. -/
def gatewayChecks (gateway tts asr : Except String Unit) : Trace cliSignature :=
  [⟨.checkGateway, gateway⟩, ⟨.checkDiscover .tts, tts⟩, ⟨.checkDiscover .asr, asr⟩]

theorem gatewayChecks_quiet (gateway tts asr : Except String Unit) :
    ∀ entry ∈ gatewayChecks gateway tts asr, ¬ IsControl entry := by
  intro entry member
  rcases List.mem_cons.mp member with rfl | member
  · exact id
  rcases List.mem_cons.mp member with rfl | member
  · exact id
  · rw [List.mem_singleton.mp member]
    exact id

/-- What the doctor says when no agent matches. -/
def DoctorComplains (outcome : DoctorReport × Except String Unit) : Prop :=
  outcome.1.playback.error = some noSpeakerMatches

theorem checkResult_error {answer : Except String α} {text : String}
    (said : (DoctorCheckResult.of answer).error = some text) : answer = .error text := by
  cases answer with
  | ok value => cases said
  | error error => rw [Option.some.inj said]

theorem checkPlayback_named {args : DoctorArgs} (wanted : args.skipPlayback = false)
    {target : DoctorPlaybackTarget} (named : target.agentId = some agentId) :
    checkPlayback debug base64 cli args target =
      (checkPlaybackRoute debug base64 cli target >>= fun accepted => return .of accepted) := by
  have some : ¬ (target.device = none ∧ target.agentId = none) := by
    rw [named]
    exact fun both => by cases both.2
  rw [checkPlayback, wanted, if_neg Bool.false_ne_true, if_neg some]

theorem doctor_addresses {args : DoctorArgs} (built : Built registry)
    (registered : registry.agents.lookup agent.agentId = some agent)
    (speaker : agent.isSpeaker none none = true) (noDevice : args.device = none)
    (named : args.agentId = some agent.agentId) (wanted : args.skipPlayback = false)
    (fits : PlaybackDeviceFits debug cli.defaults.device agent) :
    Addresses registry agent.agentId DoctorComplains (runDoctor debug base64 cli args) := by
  apply addresses_of_ensures
  rw [runDoctor]
  apply (askCli_ensures .checkGateway []).bind
  rintro gateway _ _ rfl
  apply (askCli_ensures (.checkDiscover .tts) _).bind
  rintro tts _ _ rfl
  apply (askCli_ensures (.checkDiscover .asr) _).bind
  rintro asr _ _ rfl
  change Code.Ensures _ _ _ (checkPlayback debug base64 cli args
    ⟨args.device.or cli.defaults.device, args.agentId⟩ >>= _) _ _
  rw [checkPlayback_named wanted named, noDevice, Option.none_or, bind_assoc]
  have asked : (checkPlaybackRoute debug base64 cli ⟨cli.defaults.device, args.agentId⟩).Ensures
      (ControlStep registry) (fun _ _ => True)
      (fun outcome later _ => Addressed registry agent.agentId later ∧
        outcome ≠ .error noSpeakerMatches) (gatewayChecks gateway tts asr) () := by
    apply requestPlay_ensures built registered speaker _ _ fits (gatewayChecks_quiet _ _ _)
    · exact fun _ => named
    · exact fun _ => rfl
  apply asked.bind
  rintro accepted later _ ⟨addressed, matched⟩
  exact fun _ => ⟨addressed, fun complains => matched (checkResult_error complains)⟩

theorem doctor_reveals {args : DoctorArgs} (built : Built registry)
    (registered : registry.agents.lookup agent.agentId = some agent)
    (speaker : agent.isSpeaker none none = true) (noDevice : args.device = none)
    (named : args.agentId = some agent.agentId) (wanted : args.skipPlayback = false)
    (addresses : Addresses registry agent.agentId DoctorComplains
      (runDoctor debug base64 cli args)) :
    PlaybackDeviceFits debug cli.defaults.device agent := by
  have revealing : ∃ trace outcome, Code.Performs (ControlStep registry)
      (checkPlaybackRoute debug base64 cli ⟨cli.defaults.device, args.agentId⟩) () trace
      (.done outcome) () ∧ (∀ entry ∈ trace, IsControl entry) ∧
      (Addressed registry agent.agentId trace →
        PlaybackDeviceFits debug cli.defaults.device agent) := by
    apply requestPlay_reveals built registered speaker
    · exact fun _ => named
    · exact fun _ => rfl
  obtain ⟨trace, outcome, ran, control, reveals⟩ := revealing
  have checked : Code.Performs (ControlStep registry)
      (checkPlayback debug base64 cli args ⟨args.device.or cli.defaults.device, args.agentId⟩) ()
      trace (.done (.of outcome)) () := by
    rw [checkPlayback_named wanted named, noDevice, Option.none_or]
    exact ran.bind
  have whole : ∃ result, Code.Performs (ControlStep registry) (runDoctor debug base64 cli args) ()
      (gatewayChecks (.ok ()) (.ok ()) (.ok ()) ++ trace) (.done result) () := by
    refine ⟨_, performs_ask ?_ (performs_ask ?_ (performs_ask ?_ checked.bind))⟩
    · trivial
    · trivial
    · trivial
  obtain ⟨result, whole⟩ := whole
  have succeed : LocalStepsSucceed (gatewayChecks (.ok ()) (.ok ()) (.ok ())) := by
    intro entry member
    rcases List.mem_cons.mp member with rfl | member
    · trivial
    rcases List.mem_cons.mp member with rfl | member
    · trivial
    · rw [List.mem_singleton.mp member]
      trivial
  have addressed := (addresses _ _ whole (localStepsSucceed_append succeed control)).1
  rw [addressed_append (gatewayChecks_quiet _ _ _)] at addressed
  exact reveals addressed

/-! ### The status -/

/-- What the tool asks when the flags name the agent, and no device. -/
def statusEntry (cli : RuntimeConfig F32) (agentId : String)
    (answer : Except String (Option AgentSnapshot)) : Entry cliSignature :=
  ⟨.agentStatus (configuredControlUrl cli) ⟨some agentId, cli.defaults.device⟩, answer⟩

theorem runAgentStatus_named {args : AgentStatusArgs} (noDevice : args.device = none)
    (named : args.agentId = some agentId) :
    runAgentStatus cli args = .act
      (.agentStatus (configuredControlUrl cli) ⟨some agentId, cli.defaults.device⟩)
      fun answer => .done (agentStatusResult answer) := by
  obtain ⟨device, wanted⟩ := args
  obtain rfl := noDevice
  obtain rfl := named
  have target : ¬ (some agentId = none ∧ cli.defaults.device = none) :=
    fun both => by cases both.1
  rw [runAgentStatus]
  exact if_neg target

theorem annotated_ne {error : String} (other : error ≠ noAgentMatched) :
    annotateControlCapabilityError error "agent.status" ≠ noAgentMatched := by
  by_cases unknown : "unknown variant".toList <:+: error.toList
  · have annotated : annotateControlCapabilityError error "agent.status" = _ := if_pos unknown
    intro same
    have sizes := congrArg String.utf8ByteSize (annotated.symm.trans same)
    rw [String.utf8ByteSize_append, String.utf8ByteSize_append] at sizes
    have longer : noAgentMatched.utf8ByteSize <
        "gateway control plane does not support \x60".utf8ByteSize := by decide
    omega
  · have plain : annotateControlCapabilityError error "agent.status" = error := if_neg unknown
    exact fun same => other (plain.symm.trans same)

theorem status_addresses_iff {args : AgentStatusArgs} (built : Built registry)
    (registered : registry.agents.lookup agent.agentId = some agent)
    (noDevice : args.device = none) (named : args.agentId = some agent.agentId) :
    Addresses registry agent.agentId (· = .error noAgentMatched) (runAgentStatus cli args) ↔
      StatusDeviceFits cli.defaults.device agent := by
  have selects (answer : Except String (Option AgentSnapshot)) :
      selectedAgent registry (statusEntry cli agent.agentId answer) = some agent.agentId ↔
        StatusDeviceFits cli.defaults.device agent := selected_status built registered answer
  have control (answer : Except String (Option AgentSnapshot)) :
      IsControl (statusEntry cli agent.agentId answer) := trivial
  rw [runAgentStatus_named noDevice named]
  constructor
  · intro addresses
    have possible : ControlStep registry ()
        (statusEntry cli agent.agentId (.error "closed")) () := by
      change "closed" ≠ noAgentMatched
      decide
    have succeed : LocalStepsSucceed [statusEntry cli agent.agentId (.error "closed")] := by
      intro entry member
      rw [List.mem_singleton.mp member]
      trivial
    have addressed := (addresses [statusEntry cli agent.agentId (.error "closed")] _
      (performs_ask possible (.stop _ ())) succeed).1
    exact (selects _).mp (addressed.selects _ List.mem_cons_self (control _))
  · intro fits
    apply addresses_of_ensures
    intro (answer : Except String (Option AgentSnapshot)) after stepped
    refine ⟨trivial, fun _ => ⟨?_, ?_⟩⟩
    · change Addressed registry agent.agentId [statusEntry cli agent.agentId answer]
      rw [addressed_single (control answer)]
      exact (selects answer).mpr fits
    · cases answer with
      | error error =>
        intro complains
        exact annotated_ne stepped (Except.error.inj complains)
      | ok found =>
        have selected := (selects (.ok found)).mpr fits
        cases found with
        | some snapshot => exact fun complains => by cases complains
        | none =>
          change ((registry.snapshot _).getLast?.map RegisteredAgent.agentId) = _ at selected
          rw [Option.map_eq_none_iff.mp stepped.symm] at selected
          cases selected

/-! ## Explicit agents -/

/-- Commands with the id of a registered agent address it exactly when the configured device is its
own, or there is none. For the playback the device is parsed first, and may name an output. -/
theorem explicit_agent_iff (built : Built registry)
    (registered : registry.agents.lookup agent.agentId = some agent) (debug : String → String)
    (base64 : Base64) (cli : RuntimeConfig F32) :
    (agent.isSpeaker none none = true →
      (∀ args : SayArgs, args.device = none → args.agentId = some agent.agentId →
        (Addresses registry agent.agentId (· = .error noSpeakerMatches)
            (runSay debug base64 cli args) ↔
          PlaybackDeviceFits debug cli.defaults.device agent)) ∧
      ∀ args : DoctorArgs, args.device = none → args.agentId = some agent.agentId →
        args.skipPlayback = false →
        (Addresses registry agent.agentId DoctorComplains (runDoctor debug base64 cli args) ↔
          PlaybackDeviceFits debug cli.defaults.device agent)) ∧
    ∀ args : AgentStatusArgs, args.device = none → args.agentId = some agent.agentId →
      (Addresses registry agent.agentId (· = .error noAgentMatched) (runAgentStatus cli args) ↔
        StatusDeviceFits cli.defaults.device agent) := by
  refine ⟨fun speaker => ⟨?_, ?_⟩, ?_⟩
  · intro args noDevice named
    constructor
    · exact say_reveals built registered speaker noDevice named
    · exact say_addresses built registered speaker noDevice named
  · intro args noDevice named wanted
    constructor
    · exact doctor_reveals built registered speaker noDevice named wanted
    · exact doctor_addresses built registered speaker noDevice named wanted
  · intro args noDevice named
    exact status_addresses_iff built registered noDevice named

/-! ### A speaker on another device -/

def mac01Speaker : RegisteredAgent where
  agentId := "mac01-speaker-agent"
  agentName := "mac01"
  providerId := none
  capabilities := ["speaker"]
  capabilityDomains := []
  agentKind := .device
  clientVersion := none
  updateStatus := none
  device := some ⟨"mac01", none, none⟩
  deviceInfo := none
  commandTx := 0

def mac01Registry : DeviceRegistry := ((default : DeviceRegistry).registerAgent mac01Speaker).1

/-- A tool whose profile has a default device. -/
def withDevice (device : String) : RuntimeConfig String where
  url := "ws://127.0.0.1:8765/ws"
  controlUrl := none
  defaults := { Model.CliConfig.emptyDefaults String with device := some device }

def hexless : Base64 := ⟨fun _ => "AAAA", fun _ => .ok []⟩

theorem mac01_built : Built mac01Registry := .register .empty mac01Speaker

theorem mac01_registered :
    mac01Registry.agents.lookup mac01Speaker.agentId = some mac01Speaker := by
  rw [mac01Registry, DeviceRegistry.registerAgent_agents, if_pos rfl]

theorem mac01_speaks : mac01Speaker.isSpeaker none none = true := by decide

theorem mac01_addressed_iff :
    (mac01Speaker.isSpeaker none none = true →
      (∀ args : SayArgs, args.device = none → args.agentId = some mac01Speaker.agentId →
        (Addresses mac01Registry mac01Speaker.agentId (· = .error noSpeakerMatches)
            (runSay id hexless (withDevice "mac01:airpod") args) ↔
          PlaybackDeviceFits id (some "mac01:airpod") mac01Speaker)) ∧
      ∀ args : DoctorArgs, args.device = none → args.agentId = some mac01Speaker.agentId →
        args.skipPlayback = false →
        (Addresses mac01Registry mac01Speaker.agentId DoctorComplains
            (runDoctor id hexless (withDevice "mac01:airpod") args) ↔
          PlaybackDeviceFits id (some "mac01:airpod") mac01Speaker)) ∧
    ∀ args : AgentStatusArgs, args.device = none → args.agentId = some mac01Speaker.agentId →
      (Addresses mac01Registry mac01Speaker.agentId (· = .error noAgentMatched)
          (runAgentStatus (withDevice "mac01:airpod") args) ↔
        StatusDeviceFits (some "mac01:airpod") mac01Speaker) :=
  explicit_agent_iff mac01_built mac01_registered id hexless (withDevice "mac01:airpod")

/-- With another default device, no command addresses the agent that its flag names. -/
theorem mac01_not_addressed :
    ¬ Addresses mac01Registry "mac01-speaker-agent" (· = .error noSpeakerMatches)
        (runSay id hexless (withDevice "mac02") ⟨none, some "mac01-speaker-agent", none, none⟩) ∧
    ¬ Addresses mac01Registry "mac01-speaker-agent" DoctorComplains
        (runDoctor id hexless (withDevice "mac02") ⟨none, some "mac01-speaker-agent", false⟩) ∧
    ¬ Addresses mac01Registry "mac01-speaker-agent" (· = .error noAgentMatched)
        (runAgentStatus (withDevice "mac02") ⟨none, some "mac01-speaker-agent"⟩) := by
  have unfit : ¬ PlaybackDeviceFits id (some "mac02") mac01Speaker := by
    intro fits
    obtain ⟨target, parsed, same⟩ := fits "mac02" rfl
    have other : parsePlaybackTarget id "mac02" = .ok ⟨"mac02", none⟩ := by decide
    obtain rfl := Except.ok.inj (other.symm.trans parsed)
    exact absurd same (by decide)
  have unlike : ¬ StatusDeviceFits (some "mac02") mac01Speaker := by
    intro fits
    exact absurd (fits "mac02" rfl) (by decide)
  refine ⟨?_, ?_, ?_⟩
  · intro addresses
    exact unfit (say_reveals mac01_built mac01_registered mac01_speaks rfl rfl addresses)
  · intro addresses
    exact unfit (doctor_reveals mac01_built mac01_registered mac01_speaks rfl rfl rfl addresses)
  · intro addresses
    exact unlike ((status_addresses_iff mac01_built mac01_registered rfl rfl).mp addresses)

end SpeechMesh.Soundness
