import SpeechMesh.Model.ConfigFiles

/-! # The entries of a configuration file

A nested line belongs to the entry whose key line was the last that the parser recognised. A key
line with anything after its colon is not recognised, so that what is nested under it changes the
entry before.
-/

namespace SpeechMesh.Soundness

open Model

namespace ConfigPlaces

variable {floats : CliConfig.FloatText}

/-- What each step keeps, a run keeps. -/
theorem foldlM_invariant {ι σ τ ε : Type} {invariant : σ → τ → Prop} {step : σ → ι → Except ε σ}
    {follow : τ → ι → τ}
    (steps : ∀ state shadow item after, invariant state shadow → step state item = .ok after →
      invariant after (follow shadow item))
    {items : List ι} {state after : σ} {shadow : τ} (holds : invariant state shadow)
    (ran : items.foldlM step state = .ok after) : invariant after (items.foldl follow shadow) := by
  induction items generalizing state shadow with
  | nil =>
    obtain rfl := Except.ok.inj ran
    exact holds
  | cons item items ih =>
    rw [List.foldlM_cons] at ran
    obtain ⟨middle, first, rest⟩ := exists_of_bind_ok ran
    exact ih (steps state shadow item middle holds first) rest

theorem foldlM_keeps {ι σ ε : Type} {invariant : σ → Prop} {step : σ → ι → Except ε σ}
    (steps : ∀ state item after, invariant state → step state item = .ok after → invariant after)
    {items : List ι} {state after : σ} (holds : invariant state)
    (ran : items.foldlM step state = .ok after) : invariant after :=
  @foldlM_invariant ι σ Unit ε (fun state _ => invariant state) step (fun _ _ => ())
    (fun state _ => steps state) items state after () holds ran

/-! ## Entries and places -/

inductive EntryKind where
  | profile | voiceProfile | projectBinding
deriving DecidableEq

abbrev Entry : Type := EntryKind × String

/-- Where a line stands: the kind of entries in its section, and the key of the entry. -/
structure Place where
  kind : Option EntryKind
  key : Option String

def Place.entry (place : Place) : Option Entry :=
  place.kind.bind fun kind => place.key.map fun key => (kind, key)

def headerKind (trimmed : String) : Option EntryKind :=
  if trimmed = "profiles:" then some .profile
  else if trimmed = "voice_profiles:" then some .voiceProfile
  else if trimmed = "project_voice_profiles:" then some .projectBinding
  else none

/-- The place after a line with two spaces, which may have a key. -/
def Place.keyed (place : Place) (key : Option String) : Place :=
  if place.kind.isSome then ⟨place.kind, key.or place.key⟩ else place

/-- The place after a line. A line without indentation ends the section, and one with two spaces
begins an entry if it has a key. -/
def Place.after (keyOf : String → Option String) (place : Place) (original : String) : Place :=
  let line := trimEnd original
  let trimmed := trim line
  if isSkipped trimmed then place
  else match indentOf line with
    | 0 => ⟨headerKind trimmed, none⟩
    | 2 => place.keyed (keyOf trimmed)
    | _ => place

def placeAfter (keyOf : String → Option String) (lines : List String) : Place :=
  lines.foldl (Place.after keyOf) ⟨none, none⟩

/-- The key of a line with a colon, whatever follows it. -/
def lineKey (trimmed : String) : Option String :=
  if endsWithColon trimmed then some (sectionName trimmed)
  else (splitOnce trimmed ':').map fun split => trim split.1

/-- The key of a line that ends with its colon. -/
def bareKey (trimmed : String) : Option String :=
  if endsWithColon trimmed then some (sectionName trimmed) else none

/-- The entry of the nearest preceding key line of the section. -/
def ownerAfter (lines : List String) : Option Entry := (placeAfter lineKey lines).entry

/-- The entry of the nearest preceding key line that ends with its colon. -/
def currentAfter (lines : List String) : Option Entry := (placeAfter bareKey lines).entry

/-- A line that is indented by four or six spaces, or is skipped. -/
def Nested (original : String) : Prop :=
  isSkipped (trim (trimEnd original)) = true ∨ indentOf (trimEnd original) = 4 ∨
    indentOf (trimEnd original) = 6

/-! ## Configurations that differ in an entry -/

/-- The configurations are the same but for the entry. -/
structure SameExcept (entry : Option Entry) (config config' : CliConfig.FileConfig floats.F32) :
    Prop where
  activeProfile : config.activeProfile = config'.activeProfile
  defaultProfile : config.defaultProfile = config'.defaultProfile
  profiles : ∀ name, entry ≠ some (.profile, name) → config.profiles name = config'.profiles name
  voiceProfiles : ∀ name, entry ≠ some (.voiceProfile, name) →
    config.voiceProfiles name = config'.voiceProfiles name
  projectVoiceProfiles : ∀ name, entry ≠ some (.projectBinding, name) →
    config.projectVoiceProfiles name = config'.projectVoiceProfiles name

namespace SameExcept

variable {entry : Option Entry} {config config' config'' : CliConfig.FileConfig floats.F32}

theorem refl (config : CliConfig.FileConfig floats.F32) : SameExcept entry config config :=
  ⟨rfl, rfl, fun _ _ => rfl, fun _ _ => rfl, fun _ _ => rfl⟩

theorem symm (same : SameExcept entry config config') : SameExcept entry config' config where
  activeProfile := same.activeProfile.symm
  defaultProfile := same.defaultProfile.symm
  profiles name other := (same.profiles name other).symm
  voiceProfiles name other := (same.voiceProfiles name other).symm
  projectVoiceProfiles name other := (same.projectVoiceProfiles name other).symm

theorem trans (same : SameExcept entry config config') (also : SameExcept entry config' config'') :
    SameExcept entry config config'' where
  activeProfile := same.activeProfile.trans also.activeProfile
  defaultProfile := same.defaultProfile.trans also.defaultProfile
  profiles name other := (same.profiles name other).trans (also.profiles name other)
  voiceProfiles name other := (same.voiceProfiles name other).trans (also.voiceProfiles name other)
  projectVoiceProfiles name other :=
    (same.projectVoiceProfiles name other).trans (also.projectVoiceProfiles name other)

theorem of_none (same : SameExcept none config config') : SameExcept entry config config' where
  activeProfile := same.activeProfile
  defaultProfile := same.defaultProfile
  profiles name _ := same.profiles name nofun
  voiceProfiles name _ := same.voiceProfiles name nofun
  projectVoiceProfiles name _ := same.projectVoiceProfiles name nofun

end SameExcept

/-- A value of one name in two maps that agree on the others. -/
theorem update_same {α : Type} {map map' : String → Option α} {name key : String}
    {value value' : Option α} (same : key ≠ name → map key = map' key)
    (equal : key = name → value = value') :
    Function.update map name value key = Function.update map' name value' key := by
  by_cases here : key = name
  · subst here
    rw [Function.update_self, Function.update_self, equal rfl]
  · rw [Function.update_of_ne here, Function.update_of_ne here, same here]

theorem SameExcept.update_profile {entry : Option Entry}
    {config config' : CliConfig.FileConfig floats.F32} (same : SameExcept entry config config')
    {name : String} {value value' : CliConfig.ProfileConfig floats.F32}
    (equal : entry ≠ some (.profile, name) → value = value') :
    SameExcept entry
      { config with profiles := Function.update config.profiles name (some value) }
      { config' with profiles := Function.update config'.profiles name (some value') } where
  activeProfile := same.activeProfile
  defaultProfile := same.defaultProfile
  profiles key other := update_same (fun _ => same.profiles key other)
    fun here => congrArg some (equal (here ▸ other))
  voiceProfiles := same.voiceProfiles
  projectVoiceProfiles := same.projectVoiceProfiles

theorem SameExcept.update_voiceProfile {entry : Option Entry}
    {config config' : CliConfig.FileConfig floats.F32} (same : SameExcept entry config config')
    {name : String} {value value' : CliConfig.VoiceProfileConfig floats.F32}
    (equal : entry ≠ some (.voiceProfile, name) → value = value') :
    SameExcept entry
      { config with voiceProfiles := Function.update config.voiceProfiles name (some value) }
      { config' with
        voiceProfiles := Function.update config'.voiceProfiles name (some value') } where
  activeProfile := same.activeProfile
  defaultProfile := same.defaultProfile
  profiles := same.profiles
  voiceProfiles key other := update_same (fun _ => same.voiceProfiles key other)
    fun here => congrArg some (equal (here ▸ other))
  projectVoiceProfiles := same.projectVoiceProfiles

theorem SameExcept.update_projectBinding {entry : Option Entry}
    {config config' : CliConfig.FileConfig floats.F32} (same : SameExcept entry config config')
    {name : String} {value value' : CliConfig.ProjectVoiceBinding}
    (equal : entry ≠ some (.projectBinding, name) → value = value') :
    SameExcept entry
      { config with
        projectVoiceProfiles := Function.update config.projectVoiceProfiles name (some value) }
      { config' with
        projectVoiceProfiles :=
          Function.update config'.projectVoiceProfiles name (some value') } where
  activeProfile := same.activeProfile
  defaultProfile := same.defaultProfile
  profiles := same.profiles
  voiceProfiles := same.voiceProfiles
  projectVoiceProfiles key other := update_same (fun _ => same.projectVoiceProfiles key other)
    fun here => congrArg some (equal (here ▸ other))

/-! ## What a nested line does -/

variable {parser parser' after after' : CliConfig.Parser floats} {trimmed original : String}

/-- The parsers are in the same section and at the same entry. -/
structure SamePosition (parser parser' : CliConfig.Parser floats) : Prop where
  currentProfile : parser.currentProfile = parser'.currentProfile
  currentVoiceProfile : parser.currentVoiceProfile = parser'.currentVoiceProfile
  currentProjectBinding : parser.currentProjectBinding = parser'.currentProjectBinding
  inProfiles : parser.inProfiles = parser'.inProfiles
  inVoiceProfiles : parser.inVoiceProfiles = parser'.inVoiceProfiles
  inProjectVoiceProfiles : parser.inProjectVoiceProfiles = parser'.inProjectVoiceProfiles

theorem SamePosition.refl (parser : CliConfig.Parser floats) : SamePosition parser parser :=
  ⟨rfl, rfl, rfl, rfl, rfl, rfl⟩

theorem SamePosition.symm (same : SamePosition parser after) : SamePosition after parser where
  currentProfile := same.currentProfile.symm
  currentVoiceProfile := same.currentVoiceProfile.symm
  currentProjectBinding := same.currentProjectBinding.symm
  inProfiles := same.inProfiles.symm
  inVoiceProfiles := same.inVoiceProfiles.symm
  inProjectVoiceProfiles := same.inProjectVoiceProfiles.symm

theorem SamePosition.trans (same : SamePosition parser parser')
    (also : SamePosition parser' after) : SamePosition parser after where
  currentProfile := same.currentProfile.trans also.currentProfile
  currentVoiceProfile := same.currentVoiceProfile.trans also.currentVoiceProfile
  currentProjectBinding := same.currentProjectBinding.trans also.currentProjectBinding
  inProfiles := same.inProfiles.trans also.inProfiles
  inVoiceProfiles := same.inVoiceProfiles.trans also.inVoiceProfiles
  inProjectVoiceProfiles := same.inProjectVoiceProfiles.trans also.inProjectVoiceProfiles

/-- No entry is lost. -/
structure KeepsEntries (config config' : CliConfig.FileConfig floats.F32) : Prop where
  profiles : ∀ name, config.profiles name ≠ none → config'.profiles name ≠ none
  voiceProfiles : ∀ name, config.voiceProfiles name ≠ none → config'.voiceProfiles name ≠ none
  projectVoiceProfiles : ∀ name, config.projectVoiceProfiles name ≠ none →
    config'.projectVoiceProfiles name ≠ none

theorem KeepsEntries.refl (config : CliConfig.FileConfig floats.F32) :
    KeepsEntries config config :=
  ⟨fun _ => id, fun _ => id, fun _ => id⟩

theorem update_keeps {α : Type} {map : String → Option α} {name key : String} {value : α}
    (known : map key ≠ none) : Function.update map name (some value) key ≠ none := by
  by_cases here : key = name
  · rw [here, Function.update_self]
    exact Option.some_ne_none value
  · rwa [Function.update_of_ne here]

/-- The entry that a nested line changes. -/
def currentEntry (parser : CliConfig.Parser floats) : Option Entry :=
  match parser.currentProfile with
  | some name => some (.profile, name)
  | none =>
      match parser.inVoiceProfiles, parser.currentVoiceProfile with
      | true, some name => some (.voiceProfile, name)
      | _, _ =>
          match parser.inProjectVoiceProfiles, parser.currentProjectBinding with
          | true, some name => some (.projectBinding, name)
          | _, _ => none

/-- Nothing but the current entry changes, and the sections of a profile that are open. -/
structure ChangesCurrent (parser after : CliConfig.Parser floats) : Prop where
  position : SamePosition parser after
  kept : KeepsEntries parser.config after.config
  config : SameExcept (currentEntry parser) parser.config after.config
  sections : parser.currentProfile = none →
    parser.inGateway = after.inGateway ∧ parser.inDefaults = after.inDefaults

theorem ChangesCurrent.refl (parser : CliConfig.Parser floats) : ChangesCurrent parser parser :=
  ⟨.refl parser, .refl _, .refl _, fun _ => ⟨rfl, rfl⟩⟩

theorem changeProfile_ok {name : String}
    {change : CliConfig.ProfileConfig floats.F32 →
      Except String (CliConfig.ProfileConfig floats.F32)}
    (ran : CliConfig.changeProfile parser name change = .ok after) :
    ∃ profile changed, parser.config.profiles name = some profile ∧
      change profile = .ok changed ∧
      after = { parser with
        config.profiles := Function.update parser.config.profiles name (some changed) } := by
  obtain ⟨profiles, ran, result⟩ := exists_of_bind_ok ran
  obtain ⟨profile, changed, found, changes, rfl⟩ := changeEntry_ok ran
  exact ⟨profile, changed, found, changes, (Except.ok.inj result).symm⟩

theorem changeProfile_changesCurrent {name : String} (current : parser.currentProfile = some name)
    {inGateway inDefaults : Bool}
    {change : CliConfig.ProfileConfig floats.F32 →
      Except String (CliConfig.ProfileConfig floats.F32)}
    (ran : CliConfig.changeProfile (parser.inSection inGateway inDefaults) name change =
      .ok after) : ChangesCurrent parser after := by
  obtain ⟨profile, changed, found, _, rfl⟩ := changeProfile_ok ran
  have entry : currentEntry parser = some (.profile, name) := by
    rw [currentEntry, current]
  constructor
  case position => exact ⟨rfl, rfl, rfl, rfl, rfl, rfl⟩
  case kept => exact ⟨fun _ => update_keeps, fun _ => id, fun _ => id⟩
  case config =>
    rw [entry]
    refine ⟨rfl, rfl, fun key other => ?_, fun _ _ => rfl, fun _ _ => rfl⟩
    have different : key ≠ name := fun same => other (by rw [same])
    exact (Function.update_of_ne different ..).symm
  case sections =>
    intro none
    rw [current] at none
    contradiction

theorem parseVoiceEntry_changesCurrent (none : parser.currentProfile = none)
    (ran : CliConfig.parseVoiceEntry parser trimmed = .ok after) : ChangesCurrent parser after := by
  rw [CliConfig.parseVoiceEntry] at ran
  split at ran
  case h_1 name voice current =>
    obtain ⟨voiceProfiles, ran, result⟩ := exists_of_bind_ok ran
    obtain ⟨profile, changed, found, _, rfl⟩ := changeEntry_ok ran
    rw [← Except.ok.inj result]
    have entry : currentEntry parser = some (.voiceProfile, name) := by
      rw [currentEntry, none, voice, current]
    constructor
    case position => exact ⟨rfl, rfl, rfl, rfl, rfl, rfl⟩
    case kept => exact ⟨fun _ => id, fun _ => update_keeps, fun _ => id⟩
    case config =>
      rw [entry]
      refine ⟨rfl, rfl, fun _ _ => rfl, fun key other => ?_, fun _ _ => rfl⟩
      have different : key ≠ name := fun same => other (by rw [same])
      exact (Function.update_of_ne different ..).symm
    case sections => exact fun _ => ⟨rfl, rfl⟩
  case h_2 noVoice =>
    split at ran
    case h_1 name binding current =>
      obtain ⟨bindings, ran, result⟩ := exists_of_bind_ok ran
      obtain ⟨profile, changed, found, _, rfl⟩ := changeEntry_ok ran
      rw [← Except.ok.inj result]
      have entry : currentEntry parser = some (.projectBinding, name) := by
        rw [currentEntry, none]
        dsimp only
        split
        case h_1 other voice voiceCurrent => exact absurd voiceCurrent (noVoice other voice)
        case h_2 => rw [binding, current]
      constructor
      case position => exact ⟨rfl, rfl, rfl, rfl, rfl, rfl⟩
      case kept => exact ⟨fun _ => id, fun _ => id, fun _ => update_keeps⟩
      case config =>
        rw [entry]
        refine ⟨rfl, rfl, fun _ _ => rfl, fun _ _ => rfl, fun key other => ?_⟩
        have different : key ≠ name := fun same => other (by rw [same])
        exact (Function.update_of_ne different ..).symm
      case sections => exact fun _ => ⟨rfl, rfl⟩
    case h_2 =>
      rw [← Except.ok.inj ran]
      exact .refl parser

theorem inSection_changesCurrent {name : String} (current : parser.currentProfile = some name)
    (inGateway inDefaults : Bool) :
    ChangesCurrent parser (parser.inSection inGateway inDefaults) where
  position := ⟨rfl, rfl, rfl, rfl, rfl, rfl⟩
  kept := .refl parser.config
  config := .refl parser.config
  sections none := by
    rw [current] at none
    contradiction

theorem parseEntry_changesCurrent (ran : CliConfig.parseEntry parser trimmed = .ok after) :
    ChangesCurrent parser after := by
  rw [CliConfig.parseEntry] at ran
  cases current : parser.currentProfile with
  | none =>
    rw [current] at ran
    exact parseVoiceEntry_changesCurrent current ran
  | some name =>
    rw [current] at ran
    dsimp only at ran
    split_ifs at ran
    · rw [← Except.ok.inj ran]
      exact inSection_changesCurrent current true false
    · rw [← Except.ok.inj ran]
      exact inSection_changesCurrent current false true
    · exact changeProfile_changesCurrent current ran

theorem parseProfileSection_changesCurrent
    (ran : CliConfig.parseProfileSection parser trimmed = .ok after) :
    ChangesCurrent parser after := by
  rw [CliConfig.parseProfileSection] at ran
  cases current : parser.currentProfile with
  | none =>
    rw [current] at ran
    rw [← Except.ok.inj ran]
    exact .refl parser
  | some name =>
    rw [current] at ran
    dsimp only at ran
    have unmoved : parser.inSection parser.inGateway parser.inDefaults = parser := rfl
    rw [← unmoved] at ran
    split_ifs at ran
    · exact changeProfile_changesCurrent current ran
    · exact changeProfile_changesCurrent current ran
    · rw [← Except.ok.inj ran]
      exact .refl parser

/-! ## Where the parser is -/

/-- The parser is in the section and at the entry of the place. -/
structure Placed (parser : CliConfig.Parser floats) (place : Place) : Prop where
  inProfiles : parser.inProfiles = (place.kind == some .profile)
  inVoiceProfiles : parser.inVoiceProfiles = (place.kind == some .voiceProfile)
  inProjectVoiceProfiles : parser.inProjectVoiceProfiles = (place.kind == some .projectBinding)
  currentProfile : parser.currentProfile =
    if place.kind = some .profile then place.key else none
  currentVoiceProfile : parser.currentVoiceProfile =
    if place.kind = some .voiceProfile then place.key else none
  currentProjectBinding : parser.currentProjectBinding =
    if place.kind = some .projectBinding then place.key else none
  profiles : ∀ name, parser.currentProfile = some name → parser.config.profiles name ≠ none
  voiceProfiles : ∀ name, parser.currentVoiceProfile = some name →
    parser.config.voiceProfiles name ≠ none
  projectVoiceProfiles : ∀ name, parser.currentProjectBinding = some name →
    parser.config.projectVoiceProfiles name ≠ none

variable {place : Place}

theorem placed_outside (config : CliConfig.FileConfig floats.F32) :
    Placed (CliConfig.outside floats config) ⟨none, none⟩ where
  inProfiles := rfl
  inVoiceProfiles := rfl
  inProjectVoiceProfiles := rfl
  currentProfile := rfl
  currentVoiceProfile := rfl
  currentProjectBinding := rfl
  profiles _ current := by cases current
  voiceProfiles _ current := by cases current
  projectVoiceProfiles _ current := by cases current

theorem parseTopLevel_placed :
    Placed (CliConfig.parseTopLevel parser trimmed) ⟨headerKind trimmed, none⟩ := by
  have closed := placed_outside parser.config
  rw [CliConfig.parseTopLevel, headerKind]
  by_cases profiles : trimmed = "profiles:"
  · rw [if_pos profiles, if_pos profiles]
    exact { closed with inProfiles := rfl, inVoiceProfiles := rfl, inProjectVoiceProfiles := rfl }
  rw [if_neg profiles, if_neg profiles]
  by_cases voiceProfiles : trimmed = "voice_profiles:"
  · rw [if_pos voiceProfiles, if_pos voiceProfiles]
    exact { closed with inProfiles := rfl, inVoiceProfiles := rfl, inProjectVoiceProfiles := rfl }
  rw [if_neg voiceProfiles, if_neg voiceProfiles]
  by_cases bindings : trimmed = "project_voice_profiles:"
  · rw [if_pos bindings, if_pos bindings]
    exact { closed with inProfiles := rfl, inVoiceProfiles := rfl, inProjectVoiceProfiles := rfl }
  rw [if_neg bindings, if_neg bindings]
  split_ifs
  · exact { closed with }
  · exact { closed with }
  · exact placed_outside _

theorem Placed.of_changesCurrent (placed : Placed parser place)
    (changes : ChangesCurrent parser after) : Placed after place where
  inProfiles := changes.position.inProfiles.symm.trans placed.inProfiles
  inVoiceProfiles := changes.position.inVoiceProfiles.symm.trans placed.inVoiceProfiles
  inProjectVoiceProfiles :=
    changes.position.inProjectVoiceProfiles.symm.trans placed.inProjectVoiceProfiles
  currentProfile := changes.position.currentProfile.symm.trans placed.currentProfile
  currentVoiceProfile := changes.position.currentVoiceProfile.symm.trans placed.currentVoiceProfile
  currentProjectBinding :=
    changes.position.currentProjectBinding.symm.trans placed.currentProjectBinding
  profiles name current := changes.kept.profiles name
    (placed.profiles name (changes.position.currentProfile.trans current))
  voiceProfiles name current := changes.kept.voiceProfiles name
    (placed.voiceProfiles name (changes.position.currentVoiceProfile.trans current))
  projectVoiceProfiles name current := changes.kept.projectVoiceProfiles name
    (placed.projectVoiceProfiles name (changes.position.currentProjectBinding.trans current))

/-- The entry of the place is the one that a nested line changes. -/
theorem Placed.currentEntry_eq (placed : Placed parser place) :
    currentEntry parser = place.entry := by
  obtain ⟨kind, key⟩ := place
  have profile := placed.currentProfile
  have inVoice := placed.inVoiceProfiles
  have voice := placed.currentVoiceProfile
  have inBinding := placed.inProjectVoiceProfiles
  have binding := placed.currentProjectBinding
  cases kind with
  | none => simp_all [currentEntry, Place.entry]
  | some kind =>
    cases kind <;> cases key <;> simp_all [currentEntry, Place.entry]

/-- What a line with two spaces does: it begins an entry, or changes the profile of the file itself,
or nothing. -/
theorem parseSection_cases (ran : CliConfig.parseSection parser trimmed = .ok after) :
    (parser.inProfiles = true ∧ endsWithColon trimmed = true ∧
      after = { parser with
        config.profiles :=
          orDefault parser.config.profiles (sectionName trimmed) (CliConfig.emptyProfile floats.F32)
        currentProfile := some (sectionName trimmed)
        inGateway := false
        inDefaults := false }) ∨
    (parser.inVoiceProfiles = true ∧ endsWithColon trimmed = true ∧
      after = { parser with
        config.voiceProfiles := orDefault parser.config.voiceProfiles (sectionName trimmed)
          (CliConfig.emptyVoiceProfile floats.F32)
        currentVoiceProfile := some (sectionName trimmed) }) ∨
    (parser.inProjectVoiceProfiles = true ∧ endsWithColon trimmed = true ∧
      after = { parser with
        config.projectVoiceProfiles :=
          orDefault parser.config.projectVoiceProfiles (sectionName trimmed) ⟨none, none⟩
        currentProjectBinding := some (sectionName trimmed) }) ∨
    ((parser.inProfiles = true ∨ parser.inVoiceProfiles = true ∨
        parser.inProjectVoiceProfiles = true → endsWithColon trimmed = false) ∧
      ∃ profile, after = { parser with config.defaultProfile := profile }) := by
  have noColon (profiles : ¬(parser.inProfiles && endsWithColon trimmed) = true)
      (voiceProfiles : ¬(parser.inVoiceProfiles && endsWithColon trimmed) = true)
      (bindings : ¬(parser.inProjectVoiceProfiles && endsWithColon trimmed) = true) :
      parser.inProfiles = true ∨ parser.inVoiceProfiles = true ∨
        parser.inProjectVoiceProfiles = true → endsWithColon trimmed = false := by
    rw [Bool.and_eq_true, not_and, Bool.not_eq_true] at profiles voiceProfiles bindings
    rintro (inSection | inSection | inSection)
    · exact profiles inSection
    · exact voiceProfiles inSection
    · exact bindings inSection
  rw [CliConfig.parseSection] at ran
  split_ifs at ran with profiles voiceProfiles bindings gateway defaults
  · rw [Bool.and_eq_true] at profiles
    exact .inl ⟨profiles.1, profiles.2, (Except.ok.inj ran).symm⟩
  · rw [Bool.and_eq_true] at voiceProfiles
    exact .inr (.inl ⟨voiceProfiles.1, voiceProfiles.2, (Except.ok.inj ran).symm⟩)
  · rw [Bool.and_eq_true] at bindings
    exact .inr (.inr (.inl ⟨bindings.1, bindings.2, (Except.ok.inj ran).symm⟩))
  · right; right; right
    refine ⟨noColon profiles voiceProfiles bindings, _, (Except.ok.inj ran).symm⟩
  · right; right; right
    obtain ⟨values, _, result⟩ := exists_of_bind_ok ran
    refine ⟨noColon profiles voiceProfiles bindings, _, (Except.ok.inj result).symm⟩
  · right; right; right
    refine ⟨noColon profiles voiceProfiles bindings, parser.config.defaultProfile, ?_⟩
    exact (Except.ok.inj ran).symm

theorem orDefault_keeps {α : Type} {map : String → Option α} {name key : String} {default : α}
    (known : key ≠ name → map key ≠ none) : orDefault map name default key ≠ none := by
  rw [orDefault]
  by_cases here : key = name
  · rw [here, Function.update_self]
    exact Option.some_ne_none _
  · rw [Function.update_of_ne here]
    exact known here

section Begin

variable {key : Option String} (name : String)

theorem Placed.begin_profile (placed : Placed parser ⟨some .profile, key⟩) :
    Placed { parser with
      config.profiles :=
        orDefault parser.config.profiles name (CliConfig.emptyProfile floats.F32)
      currentProfile := some name
      inGateway := false
      inDefaults := false } ⟨some .profile, some name⟩ where
  inProfiles := placed.inProfiles
  inVoiceProfiles := placed.inVoiceProfiles
  inProjectVoiceProfiles := placed.inProjectVoiceProfiles
  currentProfile := rfl
  currentVoiceProfile := placed.currentVoiceProfile
  currentProjectBinding := placed.currentProjectBinding
  profiles other current := by
    rw [← Option.some.inj current]
    exact orDefault_keeps fun different => absurd rfl different
  voiceProfiles := placed.voiceProfiles
  projectVoiceProfiles := placed.projectVoiceProfiles

theorem Placed.begin_voiceProfile (placed : Placed parser ⟨some .voiceProfile, key⟩) :
    Placed { parser with
      config.voiceProfiles :=
        orDefault parser.config.voiceProfiles name (CliConfig.emptyVoiceProfile floats.F32)
      currentVoiceProfile := some name } ⟨some .voiceProfile, some name⟩ where
  inProfiles := placed.inProfiles
  inVoiceProfiles := placed.inVoiceProfiles
  inProjectVoiceProfiles := placed.inProjectVoiceProfiles
  currentProfile := placed.currentProfile
  currentVoiceProfile := rfl
  currentProjectBinding := placed.currentProjectBinding
  profiles := placed.profiles
  voiceProfiles other current := by
    rw [← Option.some.inj current]
    exact orDefault_keeps fun different => absurd rfl different
  projectVoiceProfiles := placed.projectVoiceProfiles

theorem Placed.begin_projectBinding (placed : Placed parser ⟨some .projectBinding, key⟩) :
    Placed { parser with
      config.projectVoiceProfiles :=
        orDefault parser.config.projectVoiceProfiles name ⟨none, none⟩
      currentProjectBinding := some name } ⟨some .projectBinding, some name⟩ where
  inProfiles := placed.inProfiles
  inVoiceProfiles := placed.inVoiceProfiles
  inProjectVoiceProfiles := placed.inProjectVoiceProfiles
  currentProfile := placed.currentProfile
  currentVoiceProfile := placed.currentVoiceProfile
  currentProjectBinding := rfl
  profiles := placed.profiles
  voiceProfiles := placed.voiceProfiles
  projectVoiceProfiles other current := by
    rw [← Option.some.inj current]
    exact orDefault_keeps fun different => absurd rfl different

theorem Placed.defaultProfile (placed : Placed parser place)
    (profile : CliConfig.ProfileConfig floats.F32) :
    Placed { parser with config.defaultProfile := profile } place where
  inProfiles := placed.inProfiles
  inVoiceProfiles := placed.inVoiceProfiles
  inProjectVoiceProfiles := placed.inProjectVoiceProfiles
  currentProfile := placed.currentProfile
  currentVoiceProfile := placed.currentVoiceProfile
  currentProjectBinding := placed.currentProjectBinding
  profiles := placed.profiles
  voiceProfiles := placed.voiceProfiles
  projectVoiceProfiles := placed.projectVoiceProfiles

end Begin

theorem parseSection_placed (placed : Placed parser place)
    (ran : CliConfig.parseSection parser trimmed = .ok after) :
    Placed after (place.keyed (bareKey trimmed)) := by
  obtain ⟨kind, key⟩ := place
  have begun (kind : EntryKind) (colon : endsWithColon trimmed = true) :
      (⟨some kind, key⟩ : Place).keyed (bareKey trimmed) =
        ⟨some kind, some (sectionName trimmed)⟩ := by
    rw [bareKey, if_pos colon]
    rfl
  rcases parseSection_cases ran with ⟨inSection, colon, rfl⟩ | ⟨inSection, colon, rfl⟩ |
    ⟨inSection, colon, rfl⟩ | ⟨noKey, profile, rfl⟩
  · obtain rfl : kind = some .profile := eq_of_beq (placed.inProfiles.symm.trans inSection)
    rw [begun _ colon]
    exact placed.begin_profile _
  · obtain rfl : kind = some .voiceProfile :=
      eq_of_beq (placed.inVoiceProfiles.symm.trans inSection)
    rw [begun _ colon]
    exact placed.begin_voiceProfile _
  · obtain rfl : kind = some .projectBinding :=
      eq_of_beq (placed.inProjectVoiceProfiles.symm.trans inSection)
    rw [begun _ colon]
    exact placed.begin_projectBinding _
  · have same : (⟨kind, key⟩ : Place).keyed (bareKey trimmed) = ⟨kind, key⟩ := by
      cases kind with
      | none => rfl
      | some kind =>
        have noColon : endsWithColon trimmed = false := by
          apply noKey
          rw [placed.inProfiles, placed.inVoiceProfiles, placed.inProjectVoiceProfiles]
          cases kind <;> simp
        rw [bareKey, noColon]
        rfl
    rw [same]
    exact placed.defaultProfile profile

/-! ## Lines -/

section Lines

theorem parseLine_skipped (skipped : isSkipped (trim (trimEnd original)) = true) :
    CliConfig.parseLine parser original = .ok parser := by
  rw [CliConfig.parseLine, if_pos skipped]

variable (kept : isSkipped (trim (trimEnd original)) ≠ true)

include kept

theorem parseLine_topLevel (indent : indentOf (trimEnd original) = 0) :
    CliConfig.parseLine parser original =
      .ok (CliConfig.parseTopLevel parser (trim (trimEnd original))) := by
  rw [CliConfig.parseLine, if_neg kept, indent]
  rfl

theorem parseLine_section (indent : indentOf (trimEnd original) = 2) :
    CliConfig.parseLine parser original =
      CliConfig.parseSection parser (trim (trimEnd original)) := by
  rw [CliConfig.parseLine, if_neg kept, indent]
  rfl

theorem parseLine_entry (indent : indentOf (trimEnd original) = 4) :
    CliConfig.parseLine parser original =
      CliConfig.parseEntry parser (trim (trimEnd original)) := by
  rw [CliConfig.parseLine, if_neg kept, indent]
  rfl

theorem parseLine_profileSection (indent : indentOf (trimEnd original) = 6) :
    CliConfig.parseLine parser original =
      CliConfig.parseProfileSection parser (trim (trimEnd original)) := by
  rw [CliConfig.parseLine, if_neg kept, indent]
  rfl

theorem parseLine_ignored (notTop : indentOf (trimEnd original) ≠ 0)
    (notSection : indentOf (trimEnd original) ≠ 2) (notEntry : indentOf (trimEnd original) ≠ 4)
    (notProfileSection : indentOf (trimEnd original) ≠ 6) :
    CliConfig.parseLine parser original = .ok parser := by
  rw [CliConfig.parseLine, if_neg kept]
  split
  · exact absurd ‹_› notTop
  · exact absurd ‹_› notSection
  · exact absurd ‹_› notEntry
  · exact absurd ‹_› notProfileSection
  · rfl

end Lines

/-- A line at any other indentation changes the current entry or nothing. -/
theorem parseLine_changesCurrent
    (inner : isSkipped (trim (trimEnd original)) = true ∨
      indentOf (trimEnd original) ≠ 0 ∧ indentOf (trimEnd original) ≠ 2)
    (ran : CliConfig.parseLine parser original = .ok after) : ChangesCurrent parser after := by
  by_cases skipped : isSkipped (trim (trimEnd original)) = true
  · rw [parseLine_skipped skipped] at ran
    obtain rfl := Except.ok.inj ran
    exact .refl parser
  obtain ⟨notTop, notSection⟩ := inner.resolve_left skipped
  by_cases entry : indentOf (trimEnd original) = 4
  · rw [parseLine_entry skipped entry] at ran
    exact parseEntry_changesCurrent ran
  by_cases profileSection : indentOf (trimEnd original) = 6
  · rw [parseLine_profileSection skipped profileSection] at ran
    exact parseProfileSection_changesCurrent ran
  rw [parseLine_ignored skipped notTop notSection entry profileSection] at ran
  obtain rfl := Except.ok.inj ran
  exact .refl parser

theorem Place.after_inner (keyOf : String → Option String)
    (inner : isSkipped (trim (trimEnd original)) = true ∨
      indentOf (trimEnd original) ≠ 0 ∧ indentOf (trimEnd original) ≠ 2) :
    place.after keyOf original = place := by
  rw [Place.after]
  split_ifs with skipped
  · rfl
  obtain ⟨notTop, notSection⟩ := inner.resolve_left skipped
  split
  · exact absurd ‹_› notTop
  · exact absurd ‹_› notSection
  · rfl

theorem parseLine_placed (placed : Placed parser place)
    (ran : CliConfig.parseLine parser original = .ok after) :
    Placed after (place.after bareKey original) := by
  by_cases skipped : isSkipped (trim (trimEnd original)) = true
  · rw [Place.after_inner bareKey (.inl skipped)]
    exact placed.of_changesCurrent (parseLine_changesCurrent (.inl skipped) ran)
  by_cases top : indentOf (trimEnd original) = 0
  · rw [parseLine_topLevel skipped top] at ran
    obtain rfl := Except.ok.inj ran
    rw [Place.after, if_neg skipped, top]
    exact parseTopLevel_placed
  by_cases section_ : indentOf (trimEnd original) = 2
  · rw [parseLine_section skipped section_] at ran
    rw [Place.after, if_neg skipped, section_]
    exact parseSection_placed placed ran
  rw [Place.after_inner bareKey (.inr ⟨top, section_⟩)]
  exact placed.of_changesCurrent (parseLine_changesCurrent (.inr ⟨top, section_⟩) ran)

/-- After the lines of a text the parser is where they lead to. -/
theorem parse_placed {lines : List String} (placed : Placed parser place)
    (ran : lines.foldlM CliConfig.parseLine parser = .ok after) :
    Placed after (lines.foldl (Place.after bareKey) place) :=
  foldlM_invariant (fun _ _ _ _ => parseLine_placed) placed ran

theorem parseFileConfig_ok {raw : String} {config : CliConfig.FileConfig floats.F32}
    (ran : CliConfig.parseFileConfig floats raw = .ok config) :
    ∃ parser : CliConfig.Parser floats,
      (linesOf raw).foldlM CliConfig.parseLine (CliConfig.initial floats) = .ok parser ∧
        parser.config = config := by
  obtain ⟨parser, parsed, result⟩ := exists_of_bind_ok ran
  exact ⟨parser, parsed, Except.ok.inj result⟩

end ConfigPlaces

end SpeechMesh.Soundness
