import SpeechMesh.Model.ConfigFiles

/-! # Both parsers read the same configuration

The parser of the command line tool knows sections that the agent's does not. On every line it
accepts the two stay in step, so they agree on the profiles and on the gateways' addresses.
-/

namespace SpeechMesh.Soundness

open Model

/-- A fold whose steps can all be followed is followed to its end. -/
theorem foldlM_follows {ι σ τ ε : Type} {follows : σ → τ → Prop} {step : σ → ι → Except ε σ}
    {other : τ → ι → Except ε τ}
    (steps : ∀ state item after shadow, follows state shadow → step state item = .ok after →
      ∃ reached, other shadow item = .ok reached ∧ follows after reached)
    {items : List ι} {state after : σ} {shadow : τ} (follow : follows state shadow)
    (ran : items.foldlM step state = .ok after) :
    ∃ reached, items.foldlM other shadow = .ok reached ∧ follows after reached := by
  induction items generalizing state shadow with
  | nil =>
    obtain rfl := Except.ok.inj ran
    exact ⟨shadow, rfl, follow⟩
  | cons item items ih =>
    rw [List.foldlM_cons] at ran
    obtain ⟨middle, first, rest⟩ := exists_of_bind_ok ran
    obtain ⟨reached, stepped, follow⟩ := steps state item middle shadow follow first
    obtain ⟨final, further, follow⟩ := ih follow rest
    refine ⟨final, ?_, follow⟩
    rw [List.foldlM_cons, stepped]
    exact further

/-! ## Maps -/

section Maps

variable {α β γ : Type} {left : α → γ} {right : β → γ} {first : String → Option α}
  {second : String → Option β}

/-- Two maps have the same keys and agree on what is read from the values. -/
def SameEntries (left : α → γ) (right : β → γ) (first : String → Option α)
    (second : String → Option β) : Prop :=
  ∀ name, (first name).map left = (second name).map right

theorem SameEntries.update (same : SameEntries left right first second) (name : String)
    {entry : α} {other : β} (equal : left entry = right other) :
    SameEntries left right (Function.update first name (some entry))
      (Function.update second name (some other)) := by
  intro key
  by_cases here : key = name
  · subst here
    rw [Function.update_self, Function.update_self, Option.map_some, Option.map_some, equal]
  · rw [Function.update_of_ne here, Function.update_of_ne here]
    exact same key

theorem SameEntries.orDefault (same : SameEntries left right first second) (name : String)
    {entry : α} {other : β} (equal : left entry = right other) :
    SameEntries left right (orDefault first name entry) (Model.orDefault second name other) := by
  apply same.update
  have here := same name
  cases found : first name with
  | none =>
    cases also : second name with
    | none => exact equal
    | some there => rw [found, also] at here; cases here
  | some there =>
    cases also : second name with
    | none => rw [found, also] at here; cases here
    | some elsewhere =>
      rw [found, also] at here
      exact Option.some.inj here

/-- A change that keeps what is read, and one that follows it. -/
theorem SameEntries.changeEntry (same : SameEntries left right first second) {name : String}
    {missing : String} {change : α → Except String α} {follow : β → β}
    (changes : ∀ entry other after, left entry = right other → change entry = .ok after →
      left after = right (follow other)) {changed : String → Option α}
    (ran : changeEntry first name missing change = .ok changed) :
    ∃ also, Model.changeEntry second name missing (fun entry => .ok (follow entry)) = .ok also ∧
      SameEntries left right changed also := by
  have here := same name
  cases found : first name with
  | none =>
    rw [Model.changeEntry, found] at ran
    cases ran
  | some entry =>
    cases also : second name with
    | none => rw [found, also] at here; cases here
    | some other =>
      rw [found, also] at here
      rw [Model.changeEntry, found] at ran
      dsimp only at ran
      cases changedTo : change entry with
      | error error => rw [changedTo] at ran; cases ran
      | ok after =>
        rw [changedTo] at ran
        obtain rfl := Except.ok.inj ran
        refine ⟨Function.update second name (some (follow other)), ?_, ?_⟩
        · rw [Model.changeEntry, also]
          rfl
        · exact same.update name (changes entry other after (Option.some.inj here) changedTo)

/-- A change that the other map does not follow keeps what is read. -/
theorem SameEntries.changeFirst (same : SameEntries left right first second) {name : String}
    {missing : String} {change : α → Except String α}
    (changes : ∀ entry after, change entry = .ok after → left after = left entry)
    {changed : String → Option α}
    (ran : Model.changeEntry first name missing change = .ok changed) :
    SameEntries left right changed second := by
  cases found : first name with
  | none =>
    rw [Model.changeEntry, found] at ran
    cases ran
  | some entry =>
    rw [Model.changeEntry, found] at ran
    dsimp only at ran
    cases changedTo : change entry with
    | error error => rw [changedTo] at ran; cases ran
    | ok after =>
      rw [changedTo] at ran
      obtain rfl := Except.ok.inj ran
      intro key
      change (Function.update first name (some after) key).map left = _
      by_cases here : key = name
      · subst here
        rw [Function.update_self, ← same key, found, Option.map_some, Option.map_some,
          changes entry after changedTo]
      · rw [Function.update_of_ne here]
        exact same key

theorem SameEntries.known (same : SameEntries left right first second) {name : String}
    (known : first name ≠ none) : second name ≠ none := by
  intro unknown
  have here := same name
  rw [unknown, Option.map_none] at here
  exact known (Option.map_eq_none_iff.mp here)

theorem changeEntry_known {name key missing : String} {change : α → Except String α}
    {changed : String → Option α} (ran : changeEntry first name missing change = .ok changed)
    (known : first key ≠ none) : changed key ≠ none := by
  rw [changeEntry] at ran
  cases found : first name with
  | none => rw [found] at ran; cases ran
  | some entry =>
    rw [found] at ran
    dsimp only at ran
    cases changedTo : change entry with
    | error error => rw [changedTo] at ran; cases ran
    | ok after =>
      rw [changedTo] at ran
      obtain rfl := Except.ok.inj ran
      change Function.update first name (some after) key ≠ none
      by_cases here : key = name
      · rw [here, Function.update_self]
        exact Option.some_ne_none after
      · rwa [Function.update_of_ne here]

/-- A change that changes nothing. -/
theorem changeEntry_same {name missing : String} {change : α → Except String α}
    (known : first name ≠ none) (same : ∀ entry, change entry = .ok entry) :
    changeEntry first name missing change = .ok first := by
  obtain ⟨entry, found⟩ := Option.ne_none_iff_exists'.mp known
  rw [changeEntry, found]
  dsimp only
  rw [same]
  change Except.ok (Function.update first name (some entry)) = Except.ok first
  rw [← found, Function.update_eq_self]

end Maps

/-! ## Assignments -/

variable {floats : CliConfig.FloatText}

def cliUrl {F32 : Type} (profile : CliConfig.ProfileConfig F32) : Option String :=
  profile.gateway.wsUrl

def agentUrl (profile : AgentConfig.ProfileConfig) : Option String := profile.gateway.wsUrl

theorem assignGatewayValue_agrees {cli : CliConfig.GatewayConfig}
    {agent : AgentConfig.GatewayConfig} (same : cli.wsUrl = agent.wsUrl) (trimmed : String) :
    (CliConfig.assignGatewayValue cli trimmed).wsUrl =
      (AgentConfig.assignGatewayValue agent trimmed).wsUrl := by
  rw [CliConfig.assignGatewayValue, AgentConfig.assignGatewayValue]
  cases splitKeyValue trimmed with
  | none => exact same
  | some pair =>
    dsimp only
    by_cases address : pair.1 = "ws_url"
    · rw [if_pos address, if_pos address]
    · rw [if_neg address, if_neg address]
      split <;> split <;> exact same

theorem assignProfileValue_agrees {cli : CliConfig.ProfileConfig floats.F32}
    {agent : AgentConfig.ProfileConfig} (same : cliUrl cli = agentUrl agent) (trimmed : String) :
    cliUrl (CliConfig.assignProfileValue floats cli trimmed) =
      agentUrl (AgentConfig.assignProfileValue agent trimmed) := by
  rw [CliConfig.assignProfileValue, AgentConfig.assignProfileValue]
  by_cases gateway : trimmed = "gateway:"
  · rw [if_pos gateway, if_pos gateway]
    exact same
  · rw [if_neg gateway, if_neg gateway]
    cases splitKeyValue trimmed with
    | none => exact same
    | some pair =>
      dsimp only
      by_cases address : pair.1 = "ws_url"
      · have others : pair.1 ≠ "client_name" ∧ pair.1 ≠ "shared_secret" := by
          rw [address]
          decide
        rw [if_neg others.1, if_neg others.2, if_pos address, if_pos address]
        rfl
      · rw [if_neg address, if_neg address]
        split <;> split <;> (try split) <;> (try split) <;> exact same

/-- A header line of a section assigns nothing. -/
theorem assignProfileValue_header {agent : AgentConfig.ProfileConfig} {trimmed : String}
    (header : splitKeyValue trimmed = none) :
    AgentConfig.assignProfileValue agent trimmed = agent := by
  rw [AgentConfig.assignProfileValue, header]
  exact ite_self agent

/-! ## Lines -/

/-- The two parsers between two lines. The sections that only one of them knows are left before a
profile or the gateway begins. -/
structure InStep (cli : CliConfig.Parser floats) (agent : AgentConfig.Parser) : Prop where
  activeProfile : cli.config.activeProfile = agent.config.activeProfile
  defaultUrl : cliUrl cli.config.defaultProfile = agentUrl agent.config.defaultProfile
  profiles : SameEntries cliUrl agentUrl cli.config.profiles agent.config.profiles
  currentProfile : cli.currentProfile = agent.currentProfile
  known : ∀ name, cli.currentProfile = some name → cli.config.profiles name ≠ none
  inProfiles : cli.inProfiles = agent.inProfiles
  inGateway : cli.inGateway = agent.inGateway
  voice : cli.inVoiceProfiles = true ∨ cli.inProjectVoiceProfiles = true →
    cli.inProfiles = false ∧ cli.inGateway = false ∧ cli.currentProfile = none
  defaults : cli.inDefaults = true → cli.inGateway = false

variable {cli after : CliConfig.Parser floats} {agent : AgentConfig.Parser} {trimmed : String}

theorem initial_inStep : InStep (CliConfig.initial floats) AgentConfig.initial where
  activeProfile := rfl
  defaultUrl := rfl
  profiles := fun _ => rfl
  currentProfile := rfl
  known := fun _ current => by cases current
  inProfiles := rfl
  inGateway := rfl
  voice := fun either => by rcases either with either | either <;> cases either
  defaults := fun _ => rfl

theorem header_voiceProfiles : splitKeyValue "voice_profiles:" = none := by decide

theorem header_projectVoiceProfiles : splitKeyValue "project_voice_profiles:" = none := by
  decide

theorem header_defaults : splitKeyValue "defaults:" = none := by decide

/-- What the agent makes of a header line that it does not know. -/
theorem assignTopLevel_header {config : AgentConfig.FileConfig}
    (header : splitKeyValue trimmed = none) :
    AgentConfig.assignTopLevel config trimmed = config := by
  rw [AgentConfig.assignTopLevel, header, assignProfileValue_header header]

/-- Both parsers have left every section. -/
theorem InStep.outside (inStep : InStep cli agent) :
    InStep (CliConfig.outside floats cli.config) ⟨agent.config, none, false, false⟩ where
  activeProfile := inStep.activeProfile
  defaultUrl := inStep.defaultUrl
  profiles := inStep.profiles
  currentProfile := rfl
  known := fun _ current => by cases current
  inProfiles := rfl
  inGateway := rfl
  voice := fun either => by rcases either with either | either <;> cases either
  defaults := fun _ => rfl

theorem parseTopLevel_inStep (inStep : InStep cli agent) :
    InStep (CliConfig.parseTopLevel cli trimmed) (AgentConfig.parseTopLevel agent trimmed) := by
  have closed := inStep.outside
  rw [CliConfig.parseTopLevel, AgentConfig.parseTopLevel]
  by_cases profiles : trimmed = "profiles:"
  · rw [if_pos profiles, if_pos profiles]
    exact { closed with
      inProfiles := rfl
      voice := fun either => by rcases either with either | either <;> cases either }
  rw [if_neg profiles, if_neg profiles]
  -- a header that only the command line tool knows is no value for the agent
  have unknown (header : splitKeyValue trimmed = none) (different : trimmed ≠ "gateway:") :
      (if trimmed = "gateway:" then
        { agent with currentProfile := none, inProfiles := false, inGateway := true }
      else (⟨AgentConfig.assignTopLevel agent.config trimmed, none, false, false⟩ :
        AgentConfig.Parser)) = ⟨agent.config, none, false, false⟩ := by
    rw [if_neg different, assignTopLevel_header header]
  by_cases voice : trimmed = "voice_profiles:"
  · rw [if_pos voice, unknown (voice ▸ header_voiceProfiles) (voice ▸ by decide)]
    exact { closed with voice := fun _ => ⟨rfl, rfl, rfl⟩ }
  rw [if_neg voice]
  by_cases bindings : trimmed = "project_voice_profiles:"
  · rw [if_pos bindings, unknown (bindings ▸ header_projectVoiceProfiles) (bindings ▸ by decide)]
    exact { closed with voice := fun _ => ⟨rfl, rfl, rfl⟩ }
  rw [if_neg bindings]
  by_cases gateway : trimmed = "gateway:"
  · rw [if_pos gateway, if_pos gateway]
    exact { closed with
      inGateway := rfl
      voice := fun either => by rcases either with either | either <;> cases either
      defaults := fun inside => by cases inside }
  rw [if_neg gateway]
  by_cases defaults : trimmed = "defaults:"
  · rw [if_pos defaults, if_neg gateway, assignTopLevel_header (defaults ▸ header_defaults)]
    exact { closed with defaults := fun _ => rfl }
  rw [if_neg defaults, if_neg gateway]
  refine { closed with activeProfile := ?_, defaultUrl := ?_, profiles := inStep.profiles }
  · change (CliConfig.assignTopLevel floats cli.config trimmed).activeProfile =
      (AgentConfig.assignTopLevel agent.config trimmed).activeProfile
    rw [CliConfig.assignTopLevel, AgentConfig.assignTopLevel, inStep.activeProfile]
  · exact assignProfileValue_agrees inStep.defaultUrl trimmed

/-- The agent does not look at the voice profiles and the bindings. -/
theorem InStep.voices (inStep : InStep cli agent)
    (voiceProfiles : String → Option (CliConfig.VoiceProfileConfig floats.F32))
    (bindings : String → Option CliConfig.ProjectVoiceBinding)
    (currentVoiceProfile currentProjectBinding : Option String) :
    InStep { cli with
      config.voiceProfiles := voiceProfiles
      config.projectVoiceProfiles := bindings
      currentVoiceProfile := currentVoiceProfile
      currentProjectBinding := currentProjectBinding } agent :=
  { inStep with }

/-- A line that begins a profile or belongs to a section of the file. -/
theorem parseSection_inStep (inStep : InStep cli agent)
    (accepted : CliConfig.parseSection cli trimmed = .ok after) :
    ∃ reached, AgentConfig.parseIndented agent 2 trimmed = .ok reached ∧
      InStep after reached := by
  rw [CliConfig.parseSection] at accepted
  rw [AgentConfig.parseIndented]
  by_cases profile : (cli.inProfiles && endsWithColon trimmed) = true
  · rw [if_pos profile] at accepted
    rw [if_pos (by rwa [← inStep.inProfiles])]
    obtain rfl := Except.ok.inj accepted
    have empty : cliUrl (CliConfig.emptyProfile floats.F32) = agentUrl AgentConfig.emptyProfile :=
      rfl
    have begun := inStep.profiles.orDefault (sectionName trimmed) empty
    refine ⟨_, rfl, ?_⟩
    constructor
    case activeProfile => exact inStep.activeProfile
    case defaultUrl => exact inStep.defaultUrl
    case profiles =>
      dsimp only
      exact begun
    case currentProfile => rfl
    case known =>
      intro name here
      obtain rfl := Option.some.inj here
      dsimp only
      rw [orDefault, Function.update_self]
      exact Option.some_ne_none _
    case inProfiles => exact inStep.inProfiles
    case inGateway => rfl
    case voice =>
      intro either
      have left : cli.inProfiles = false := (inStep.voice either).1
      rw [left] at profile
      cases profile
    case defaults => exact fun _ => rfl
  rw [if_neg profile] at accepted
  rw [if_neg (by rwa [← inStep.inProfiles])]
  -- the sections that only the command line tool knows: the agent is in no section
  have ignored (either : cli.inVoiceProfiles = true ∨ cli.inProjectVoiceProfiles = true) :
      ¬ (!agent.inProfiles && agent.inGateway) = true := by
    rw [← inStep.inGateway, (inStep.voice either).2.1, Bool.and_false]
    exact Bool.false_ne_true
  by_cases voice : (cli.inVoiceProfiles && endsWithColon trimmed) = true
  · rw [if_pos voice] at accepted
    rw [if_neg (ignored (.inl (Bool.and_eq_true_iff.mp voice).1))]
    obtain rfl := Except.ok.inj accepted
    exact ⟨agent, rfl, inStep.voices _ _ _ _⟩
  rw [if_neg voice] at accepted
  by_cases binding : (cli.inProjectVoiceProfiles && endsWithColon trimmed) = true
  · rw [if_pos binding] at accepted
    rw [if_neg (ignored (.inr (Bool.and_eq_true_iff.mp binding).1))]
    obtain rfl := Except.ok.inj accepted
    exact ⟨agent, rfl, inStep.voices _ _ _ _⟩
  rw [if_neg binding] at accepted
  by_cases gateway : (!cli.inProfiles && cli.inGateway) = true
  · rw [if_pos gateway] at accepted
    rw [if_pos (by rwa [← inStep.inProfiles, ← inStep.inGateway])]
    obtain rfl := Except.ok.inj accepted
    have assigned := assignGatewayValue_agrees inStep.defaultUrl trimmed
    exact ⟨_, rfl, { inStep with defaultUrl := assigned }⟩
  rw [if_neg gateway] at accepted
  rw [if_neg (by rwa [← inStep.inProfiles, ← inStep.inGateway])]
  refine ⟨agent, rfl, ?_⟩
  by_cases defaults : (!cli.inProfiles && cli.inDefaults) = true
  · rw [if_pos defaults] at accepted
    obtain ⟨assigned, -, returned⟩ := exists_of_bind_ok accepted
    obtain rfl := Except.ok.inj returned
    exact { inStep with }
  · rw [if_neg defaults] at accepted
    obtain rfl := Except.ok.inj accepted
    exact inStep

/-- A change of the current profile that the agent follows. -/
theorem changeProfile_inStep {name : String}
    {change : CliConfig.ProfileConfig floats.F32 →
      Except String (CliConfig.ProfileConfig floats.F32)}
    {follow : AgentConfig.ProfileConfig → AgentConfig.ProfileConfig} (inStep : InStep cli agent)
    (changes : ∀ entry other after, cliUrl entry = agentUrl other → change entry = .ok after →
      cliUrl after = agentUrl (follow other))
    (accepted : CliConfig.changeProfile cli name change = .ok after) :
    ∃ reached, AgentConfig.changeProfile agent name follow = .ok reached ∧
      InStep after reached := by
  obtain ⟨changed, ran, returned⟩ := exists_of_bind_ok accepted
  obtain rfl := Except.ok.inj returned
  obtain ⟨also, followed, same⟩ := inStep.profiles.changeEntry changes ran
  refine ⟨{ agent with config.profiles := also }, ?_, { inStep with
    profiles := same
    known := fun name current => changeEntry_known ran (inStep.known name current) }⟩
  rw [AgentConfig.changeProfile, followed]
  rfl

theorem parseVoiceEntry_inStep (inStep : InStep cli agent)
    (accepted : CliConfig.parseVoiceEntry cli trimmed = .ok after) : InStep after agent := by
  rw [CliConfig.parseVoiceEntry] at accepted
  split at accepted
  · obtain ⟨voiceProfiles, -, returned⟩ := exists_of_bind_ok accepted
    obtain rfl := Except.ok.inj returned
    exact { inStep with }
  · split at accepted
    · obtain ⟨bindings, -, returned⟩ := exists_of_bind_ok accepted
      obtain rfl := Except.ok.inj returned
      exact { inStep with }
    · obtain rfl := Except.ok.inj accepted
      exact inStep

/-- A line of a profile, of a voice profile or of a project's binding. -/
theorem parseEntry_inStep (inStep : InStep cli agent)
    (accepted : CliConfig.parseEntry cli trimmed = .ok after) :
    ∃ reached, AgentConfig.parseIndented agent 4 trimmed = .ok reached ∧
      InStep after reached := by
  rw [CliConfig.parseEntry] at accepted
  rw [AgentConfig.parseIndented, ← inStep.currentProfile]
  cases current : cli.currentProfile with
  | none =>
    rw [current] at accepted
    exact ⟨agent, rfl, parseVoiceEntry_inStep inStep accepted⟩
  | some name =>
    rw [current] at accepted
    dsimp only at accepted ⊢
    have notVoice : ¬ (cli.inVoiceProfiles = true ∨ cli.inProjectVoiceProfiles = true) := by
      intro either
      have none := (inStep.voice either).2.2
      rw [current] at none
      cases none
    -- a section of the profile begins, or ends
    have entered (inGateway inDefaults : Bool) (one : inDefaults = true → inGateway = false) :
        InStep (cli.inSection inGateway inDefaults) (agent.inSection inGateway) := { inStep with
      inGateway := rfl
      voice := fun either => absurd either notVoice
      defaults := one }
    by_cases gateway : trimmed = "gateway:"
    · rw [if_pos gateway] at accepted
      rw [if_pos gateway]
      obtain rfl := Except.ok.inj accepted
      exact ⟨_, rfl, entered true false fun inside => by cases inside⟩
    rw [if_neg gateway] at accepted
    rw [if_neg gateway]
    by_cases defaults : trimmed = "defaults:"
    · rw [if_pos defaults] at accepted
      obtain rfl := Except.ok.inj accepted
      have kept : changeEntry agent.config.profiles name "unknown profile while parsing"
          (fun profile => .ok (AgentConfig.assignProfileValue profile trimmed)) =
            .ok agent.config.profiles :=
        changeEntry_same (inStep.profiles.known (inStep.known name current)) fun profile =>
          congrArg Except.ok (assignProfileValue_header (defaults ▸ header_defaults))
      refine ⟨agent.inSection false, ?_, entered false true fun _ => rfl⟩
      change (changeEntry agent.config.profiles name _ _ >>= _) = _
      rw [kept]
      rfl
    · rw [if_neg defaults] at accepted
      apply changeProfile_inStep (entered false false fun _ => rfl) _ accepted
      intro entry other after same changed
      obtain rfl := Except.ok.inj changed
      exact assignProfileValue_agrees same trimmed

/-- A line of a section of a profile. -/
theorem parseProfileSection_inStep (inStep : InStep cli agent)
    (accepted : CliConfig.parseProfileSection cli trimmed = .ok after) :
    ∃ reached, AgentConfig.parseIndented agent 6 trimmed = .ok reached ∧
      InStep after reached := by
  rw [CliConfig.parseProfileSection] at accepted
  rw [AgentConfig.parseIndented, ← inStep.currentProfile, ← inStep.inGateway]
  cases current : cli.currentProfile with
  | none =>
    rw [current] at accepted
    obtain rfl := Except.ok.inj accepted
    exact ⟨agent, rfl, inStep⟩
  | some name =>
    rw [current] at accepted
    dsimp only at accepted ⊢
    by_cases gateway : cli.inGateway = true
    · rw [if_pos gateway] at accepted
      rw [if_pos gateway]
      apply changeProfile_inStep inStep _ accepted
      intro entry other after same changed
      obtain rfl := Except.ok.inj changed
      exact assignGatewayValue_agrees same trimmed
    rw [if_neg gateway] at accepted
    rw [if_neg gateway]
    refine ⟨agent, rfl, ?_⟩
    by_cases defaults : cli.inDefaults = true
    · rw [if_pos defaults] at accepted
      obtain ⟨changed, ran, returned⟩ := exists_of_bind_ok accepted
      obtain rfl := Except.ok.inj returned
      refine { inStep with
        profiles := inStep.profiles.changeFirst ?_ ran
        known := fun name current => changeEntry_known ran (inStep.known name current) }
      intro entry after assigned
      obtain ⟨values, -, returned⟩ := exists_of_bind_ok assigned
      obtain rfl := Except.ok.inj returned
      rfl
    · rw [if_neg defaults] at accepted
      obtain rfl := Except.ok.inj accepted
      exact inStep

theorem parseIndented_other {indent : ℕ} (notTwo : indent = 2 → False)
    (notFour : indent = 4 → False) (notSix : indent = 6 → False) :
    AgentConfig.parseIndented agent indent trimmed = .ok agent := by
  unfold AgentConfig.parseIndented
  split
  · exact (notTwo rfl).elim
  · exact (notFour rfl).elim
  · exact (notSix rfl).elim
  · rfl

theorem parseLine_inStep {line : String} (inStep : InStep cli agent)
    (accepted : CliConfig.parseLine cli line = .ok after) :
    ∃ reached, AgentConfig.parseLine agent line = .ok reached ∧ InStep after reached := by
  rw [CliConfig.parseLine] at accepted
  rw [AgentConfig.parseLine]
  by_cases skipped : isSkipped (trim (trimEnd line)) = true
  · rw [if_pos skipped] at accepted
    rw [if_pos skipped]
    obtain rfl := Except.ok.inj accepted
    exact ⟨agent, rfl, inStep⟩
  rw [if_neg skipped] at accepted
  rw [if_neg skipped]
  split at accepted
  case h_1 top =>
    obtain rfl := Except.ok.inj accepted
    rw [top]
    exact ⟨_, rfl, parseTopLevel_inStep inStep⟩
  case h_2 two =>
    rw [two]
    exact parseSection_inStep inStep accepted
  case h_3 four =>
    rw [four]
    exact parseEntry_inStep inStep accepted
  case h_4 six =>
    rw [six]
    exact parseProfileSection_inStep inStep accepted
  case h_5 notTop notTwo notFour notSix =>
    obtain rfl := Except.ok.inj accepted
    refine ⟨agent, ?_, inStep⟩
    cases indent : indentOf (trimEnd line) with
    | zero => exact absurd indent notTop
    | succ more =>
      rw [indent] at notTwo notFour notSix
      exact parseIndented_other notTwo notFour notSix

/-! ## Whole files -/

theorem parseFileConfig_inStep {raw : String} {config : CliConfig.FileConfig floats.F32}
    (accepted : CliConfig.parseFileConfig floats raw = .ok config) :
    ∃ (cli : CliConfig.Parser floats) (agent : AgentConfig.Parser), cli.config = config ∧
      AgentConfig.parseFileConfig raw = .ok agent.config ∧ InStep cli agent := by
  obtain ⟨cli, ran, returned⟩ := exists_of_bind_ok accepted
  obtain rfl := Except.ok.inj returned
  obtain ⟨agent, followed, inStep⟩ :=
    foldlM_follows (fun _ _ _ _ => parseLine_inStep) initial_inStep ran
  refine ⟨cli, agent, rfl, ?_, inStep⟩
  rw [AgentConfig.parseFileConfig, followed]
  rfl

section Resolving

variable {α β γ : Type} {left : α → Option γ} {right : β → Option γ}

/-- What is read from a choice, when the first options agree and the others do too. -/
theorem or_bind_agrees {first : Option α} {second : Option β} {others : Option α}
    {rest : Option β} (same : first.map left = second.map right)
    (also : others.bind left = rest.bind right) :
    (first.or others).bind left = (second.or rest).bind right := by
  cases first with
  | none =>
    cases second with
    | none => exact also
    | some there => cases same
  | some here =>
    cases second with
    | none => cases same
    | some there => exact Option.some.inj same

theorem or_map_agrees {first others : Option α} {second rest : Option β}
    (same : first.map left = second.map right) (also : others.map left = rest.map right) :
    (first.or others).map left = (second.or rest).map right := by
  rw [Option.map_or, Option.map_or, same, also]

theorem SameEntries.bind {first : String → Option α} {second : String → Option β}
    (same : SameEntries left right first second) (name : Option String) :
    (name.bind first).map left = (name.bind second).map right := by
  cases name with
  | none => rfl
  | some name => exact same name

/-- A profile that is taken only on a condition, which holds when it has what is read. -/
theorem guarded_bind {profile : α} {condition : Bool}
    (present : (left profile).isSome = true → condition = true) :
    (if condition = true then some profile else none).bind left = left profile := by
  cases condition with
  | true => rfl
  | false =>
    cases found : left profile with
    | none => rfl
    | some value =>
      rw [found] at present
      cases present rfl

end Resolving

variable {config : CliConfig.FileConfig floats.F32} {agentConfig : AgentConfig.FileConfig}

theorem resolveProfile_agrees
    (profiles : SameEntries cliUrl agentUrl config.profiles agentConfig.profiles)
    (activeProfile : config.activeProfile = agentConfig.activeProfile)
    (defaultUrl : cliUrl config.defaultProfile = agentUrl agentConfig.defaultProfile)
    (selected : Option String) :
    (CliConfig.resolveProfile (some config) selected).bind cliUrl =
      (AgentConfig.resolveProfile (some agentConfig) selected).bind agentUrl := by
  rw [CliConfig.resolveProfile, AgentConfig.resolveProfile]
  apply or_bind_agrees
  · apply or_map_agrees (profiles.bind selected)
    rw [activeProfile]
    exact profiles.bind _
  apply or_bind_agrees (profiles "default")
  rw [guarded_bind, guarded_bind, defaultUrl]
  · intro present
    rw [agentUrl] at present
    rw [present]
    rfl
  · intro present
    rw [cliUrl] at present
    rw [present]
    rfl

/-- Whatever file the command line tool accepts, the agent accepts too, with the same profiles, the
same active one and the same addresses, and both pick the same address. -/
theorem same_configuration {raw : String}
    (accepted : CliConfig.parseFileConfig floats raw = .ok config) :
    ∃ agentConfig, AgentConfig.parseFileConfig raw = .ok agentConfig ∧
      (∀ name, (config.profiles name).isSome = (agentConfig.profiles name).isSome) ∧
      config.activeProfile = agentConfig.activeProfile ∧
      cliUrl config.defaultProfile = agentUrl agentConfig.defaultProfile ∧
      (∀ name, (config.profiles name).map cliUrl = (agentConfig.profiles name).map agentUrl) ∧
      ∀ selected, (CliConfig.resolveProfile (some config) selected).bind cliUrl =
        (AgentConfig.resolveProfile (some agentConfig) selected).bind agentUrl := by
  obtain ⟨cli, agent, rfl, followed, inStep⟩ := parseFileConfig_inStep accepted
  refine ⟨agent.config, followed, ?_, inStep.activeProfile, inStep.defaultUrl, inStep.profiles, ?_⟩
  · intro name
    have same := congrArg Option.isSome (inStep.profiles name)
    rwa [Option.isSome_map, Option.isSome_map] at same
  · exact resolveProfile_agrees inStep.profiles inStep.activeProfile inStep.defaultUrl

/-- A file with a section that the agent does not know, and a profile after it. -/
def officeConfig : String :=
  "active_profile: office\ndefaults:\n  rate: 1.5\nprofiles:\n  office:\n" ++
    "    gateway:\n      ws_url: \"ws://office:8765/ws\"\n"

def plainFloats : CliConfig.FloatText := ⟨String, .ok⟩

theorem officeConfig_same :
    ∃ config, CliConfig.parseFileConfig plainFloats officeConfig = .ok config ∧
      ∃ agentConfig, AgentConfig.parseFileConfig officeConfig = .ok agentConfig ∧
      (∀ name, (config.profiles name).isSome = (agentConfig.profiles name).isSome) ∧
      config.activeProfile = agentConfig.activeProfile ∧
      cliUrl config.defaultProfile = agentUrl agentConfig.defaultProfile ∧
      (∀ name, (config.profiles name).map cliUrl = (agentConfig.profiles name).map agentUrl) ∧
      ∀ selected, (CliConfig.resolveProfile (some config) selected).bind cliUrl =
        (AgentConfig.resolveProfile (some agentConfig) selected).bind agentUrl := by
  have accepted : (CliConfig.parseFileConfig plainFloats officeConfig).isOk = true := by
    decide +kernel
  cases parsed : CliConfig.parseFileConfig plainFloats officeConfig with
  | error error =>
    rw [parsed] at accepted
    cases accepted
  | ok config => exact ⟨config, rfl, same_configuration parsed⟩

end SpeechMesh.Soundness
