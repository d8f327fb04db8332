import SpeechMesh.Soundness.ConfigAgreement
import SpeechMesh.Soundness.ConfigPlaces

/-! # Blocks of a configuration file

Two texts that differ in the lines nested at one place are parsed side by side. The parsers agree on
everything but the entry that was current at that place, and stay in the same sections.
-/

namespace SpeechMesh.Soundness

open Model

namespace ConfigBlocks

open ConfigPlaces

variable {floats : CliConfig.FloatText}

/-- Whatever is nested after the lines of a text changes the value of no entry but that of the
nearest preceding key line, and nothing else of the configuration. -/
def Isolated (floats : CliConfig.FloatText) (before : List String) : Prop :=
  ∀ raw raw' nested nested' after (config config' : CliConfig.FileConfig floats.F32),
    linesOf raw = before ++ nested ++ after → linesOf raw' = before ++ nested' ++ after →
    (∀ line ∈ nested, Nested line) → (∀ line ∈ nested', Nested line) →
    CliConfig.parseFileConfig floats raw = .ok config →
    CliConfig.parseFileConfig floats raw' = .ok config' →
      SameExcept (ownerAfter before) config config'

/-! ## Nested lines -/

variable {parser parser' middle after after' : CliConfig.Parser floats} {trimmed original : String}
  {place : Place} {entry : Option Entry}

theorem currentEntry_congr (same : SamePosition parser after) :
    currentEntry after = currentEntry parser := by
  rw [currentEntry, currentEntry, same.currentProfile, same.inVoiceProfiles,
    same.currentVoiceProfile, same.inProjectVoiceProfiles, same.currentProjectBinding]

theorem changesCurrent_trans (first : ChangesCurrent parser middle)
    (rest : ChangesCurrent middle after) : ChangesCurrent parser after where
  position := first.position.trans rest.position
  kept := {
    profiles name known := rest.kept.profiles name (first.kept.profiles name known)
    voiceProfiles name known := rest.kept.voiceProfiles name (first.kept.voiceProfiles name known)
    projectVoiceProfiles name known :=
      rest.kept.projectVoiceProfiles name (first.kept.projectVoiceProfiles name known) }
  config := by
    have second := rest.config
    rw [currentEntry_congr first.position] at second
    exact first.config.trans second
  sections none := by
    obtain ⟨gateway, defaults⟩ := first.sections none
    obtain ⟨gateway', defaults'⟩ := rest.sections (first.position.currentProfile.symm.trans none)
    exact ⟨gateway.trans gateway', defaults.trans defaults'⟩

theorem nested_inner (nested : Nested original) :
    isSkipped (trim (trimEnd original)) = true ∨
      indentOf (trimEnd original) ≠ 0 ∧ indentOf (trimEnd original) ≠ 2 := by
  rcases nested with skipped | indent | indent
  · left
    exact skipped
  · right
    omega
  · right
    omega

/-- Nested lines change the current entry. -/
theorem nested_changesCurrent {nested : List String} (inner : ∀ line ∈ nested, Nested line)
    (ran : nested.foldlM CliConfig.parseLine parser = .ok after) : ChangesCurrent parser after := by
  induction nested generalizing parser with
  | nil =>
    obtain rfl := Except.ok.inj ran
    exact .refl parser
  | cons line nested ih =>
    rw [List.foldlM_cons] at ran
    obtain ⟨middle, first, rest⟩ := exists_of_bind_ok ran
    rw [List.forall_mem_cons] at inner
    have changes := parseLine_changesCurrent (nested_inner inner.1) first
    exact changesCurrent_trans changes (ih inner.2 rest)

/-! ## Two parsers -/

/-- The entry is the current profile. -/
def WithinProfile (entry : Option Entry) (currentProfile : Option String) (inProfiles : Bool) :
    Prop :=
  ∃ name, entry = some (.profile, name) ∧ currentProfile = some name ∧ inProfiles = true

/-- The parsers agree on everything but the entry, and on the open sections of a profile unless it
is the current one. -/
structure Agree (entry : Option Entry) (parser parser' : CliConfig.Parser floats) : Prop where
  position : SamePosition parser parser'
  config : SameExcept entry parser.config parser'.config
  sections : (parser.inGateway = parser'.inGateway ∧ parser.inDefaults = parser'.inDefaults) ∨
    WithinProfile entry parser.currentProfile parser.inProfiles

/-- After other nested lines the parsers agree on all but the entry that was current. -/
theorem agree_of_nested (placed : Placed parser place) (changes : ChangesCurrent parser after)
    (changes' : ChangesCurrent parser after') : Agree (currentEntry parser) after after' where
  position := changes.position.symm.trans changes'.position
  config := changes.config.symm.trans changes'.config
  sections := by
    cases current : parser.currentProfile with
    | none =>
      left
      obtain ⟨gateway, defaults⟩ := changes.sections current
      obtain ⟨gateway', defaults'⟩ := changes'.sections current
      exact ⟨gateway.symm.trans gateway', defaults.symm.trans defaults'⟩
    | some name =>
      right
      refine ⟨name, ?_, changes.position.currentProfile.symm.trans current, ?_⟩
      · rw [currentEntry, current]
      · have key := placed.currentProfile
        rw [current] at key
        split_ifs at key with kind
        rw [← changes.position.inProfiles, placed.inProfiles, kind]
        rfl

/-- A change of the entry itself leaves the agreement as it is. -/
theorem Agree.of_changesCurrent (agree : Agree entry parser parser')
    (within : WithinProfile entry parser.currentProfile parser.inProfiles)
    (changes : ChangesCurrent parser after) (changes' : ChangesCurrent parser' after') :
    Agree entry after after' := by
  obtain ⟨name, here, current, inProfiles⟩ := within
  have first : currentEntry parser = entry := by
    rw [currentEntry, current, here]
  have second : currentEntry parser' = entry := by
    rw [currentEntry, ← agree.position.currentProfile, current, here]
  have config := changes.config
  have config' := changes'.config
  rw [first] at config
  rw [second] at config'
  constructor
  case position =>
    exact changes.position.symm.trans (agree.position.trans changes'.position)
  case config => exact config.symm.trans (agree.config.trans config')
  case sections =>
    right
    exact ⟨name, here, changes.position.currentProfile.symm.trans current,
      changes.position.inProfiles.symm.trans inProfiles⟩

theorem SameExcept.assignTopLevel {config config' : CliConfig.FileConfig floats.F32}
    (same : SameExcept entry config config') :
    SameExcept entry (CliConfig.assignTopLevel floats config trimmed)
      (CliConfig.assignTopLevel floats config' trimmed) where
  activeProfile := by
    simp only [CliConfig.assignTopLevel, same.activeProfile]
  defaultProfile := by
    simp only [CliConfig.assignTopLevel, same.defaultProfile]
  profiles := same.profiles
  voiceProfiles := same.voiceProfiles
  projectVoiceProfiles := same.projectVoiceProfiles

theorem Agree.topLevel (agree : Agree entry parser parser') :
    Agree entry (CliConfig.parseTopLevel parser trimmed)
      (CliConfig.parseTopLevel parser' trimmed) := by
  rw [CliConfig.parseTopLevel, CliConfig.parseTopLevel]
  split_ifs
  · exact ⟨⟨rfl, rfl, rfl, rfl, rfl, rfl⟩, agree.config, .inl ⟨rfl, rfl⟩⟩
  · exact ⟨⟨rfl, rfl, rfl, rfl, rfl, rfl⟩, agree.config, .inl ⟨rfl, rfl⟩⟩
  · exact ⟨⟨rfl, rfl, rfl, rfl, rfl, rfl⟩, agree.config, .inl ⟨rfl, rfl⟩⟩
  · exact ⟨⟨rfl, rfl, rfl, rfl, rfl, rfl⟩, agree.config, .inl ⟨rfl, rfl⟩⟩
  · exact ⟨⟨rfl, rfl, rfl, rfl, rfl, rfl⟩, agree.config, .inl ⟨rfl, rfl⟩⟩
  · exact ⟨⟨rfl, rfl, rfl, rfl, rfl, rfl⟩, SameExcept.assignTopLevel agree.config,
      .inl ⟨rfl, rfl⟩⟩

theorem exists_reopened (same : SamePosition parser parser') :
    ∃ config inGateway inDefaults, parser' =
      { parser with config := config, inGateway := inGateway, inDefaults := inDefaults } := by
  use parser'.config, parser'.inGateway, parser'.inDefaults
  rw [same.currentProfile, same.currentVoiceProfile, same.currentProjectBinding, same.inProfiles,
    same.inVoiceProfiles, same.inProjectVoiceProfiles]

theorem getD_congr {α : Type} {value value' : Option α} (same : value = value') (default : α) :
    value.getD default = value'.getD default := by
  rw [same]

/-- A line with two spaces does the same for both, as the sections of a profile that they may
disagree on play no part inside the profiles. -/
theorem Agree.section_ (agree : Agree entry parser parser')
    (ran : CliConfig.parseSection parser trimmed = .ok after)
    (ran' : CliConfig.parseSection parser' trimmed = .ok after') : Agree entry after after' := by
  obtain ⟨position, config, sections⟩ := agree
  obtain ⟨config', inGateway, inDefaults, rfl⟩ := exists_reopened position
  rw [CliConfig.parseSection] at ran ran'
  dsimp only at config sections ran ran'
  by_cases profiles : (parser.inProfiles && endsWithColon trimmed) = true
  · rw [if_pos profiles] at ran ran'
    obtain rfl := Except.ok.inj ran
    obtain rfl := Except.ok.inj ran'
    refine ⟨⟨rfl, rfl, rfl, rfl, rfl, rfl⟩, config.update_profile fun other => ?_, .inl ⟨rfl, rfl⟩⟩
    exact getD_congr (config.profiles _ other) _
  rw [if_neg profiles] at ran ran'
  by_cases voiceProfiles : (parser.inVoiceProfiles && endsWithColon trimmed) = true
  · rw [if_pos voiceProfiles] at ran ran'
    obtain rfl := Except.ok.inj ran
    obtain rfl := Except.ok.inj ran'
    refine ⟨⟨rfl, rfl, rfl, rfl, rfl, rfl⟩, config.update_voiceProfile fun other => ?_, sections⟩
    exact getD_congr (config.voiceProfiles _ other) _
  rw [if_neg voiceProfiles] at ran ran'
  by_cases bindings : (parser.inProjectVoiceProfiles && endsWithColon trimmed) = true
  · rw [if_pos bindings] at ran ran'
    obtain rfl := Except.ok.inj ran
    obtain rfl := Except.ok.inj ran'
    refine ⟨⟨rfl, rfl, rfl, rfl, rfl, rfl⟩, config.update_projectBinding fun other => ?_, sections⟩
    exact getD_congr (config.projectVoiceProfiles _ other) _
  rw [if_neg bindings] at ran ran'
  by_cases inProfiles : parser.inProfiles = true
  · have gateway (open_ : Bool) : ¬(!parser.inProfiles && open_) = true := by
      rw [inProfiles]
      exact Bool.false_ne_true
    rw [if_neg (gateway _), if_neg (gateway _)] at ran ran'
    obtain rfl := Except.ok.inj ran
    obtain rfl := Except.ok.inj ran'
    exact ⟨⟨rfl, rfl, rfl, rfl, rfl, rfl⟩, config, sections⟩
  have outside : ¬ WithinProfile entry parser.currentProfile parser.inProfiles := by
    rintro ⟨_, _, _, inside⟩
    exact inProfiles inside
  obtain ⟨rfl, rfl⟩ := sections.resolve_right outside
  rw [← config.defaultProfile] at ran'
  by_cases gateway : (!parser.inProfiles && parser.inGateway) = true
  · rw [if_pos gateway] at ran ran'
    obtain rfl := Except.ok.inj ran
    obtain rfl := Except.ok.inj ran'
    exact ⟨⟨rfl, rfl, rfl, rfl, rfl, rfl⟩, { config with defaultProfile := rfl }, .inl ⟨rfl, rfl⟩⟩
  rw [if_neg gateway] at ran ran'
  by_cases defaults : (!parser.inProfiles && parser.inDefaults) = true
  · rw [if_pos defaults] at ran ran'
    obtain ⟨values, assigned, result⟩ := exists_of_bind_ok ran
    obtain ⟨values', assigned', result'⟩ := exists_of_bind_ok ran'
    obtain rfl := Except.ok.inj (assigned.symm.trans assigned')
    obtain rfl := Except.ok.inj result
    obtain rfl := Except.ok.inj result'
    exact ⟨⟨rfl, rfl, rfl, rfl, rfl, rfl⟩, { config with defaultProfile := rfl }, .inl ⟨rfl, rfl⟩⟩
  rw [if_neg defaults] at ran ran'
  obtain rfl := Except.ok.inj ran
  obtain rfl := Except.ok.inj ran'
  exact ⟨⟨rfl, rfl, rfl, rfl, rfl, rfl⟩, config, .inl ⟨rfl, rfl⟩⟩

/-- One change of a profile, made in both. -/
theorem Agree.changeProfile (agree : Agree entry parser parser') {name : String}
    {inGateway inDefaults : Bool}
    {change : CliConfig.ProfileConfig floats.F32 →
      Except String (CliConfig.ProfileConfig floats.F32)}
    (ran : CliConfig.changeProfile (parser.inSection inGateway inDefaults) name change = .ok after)
    (ran' : CliConfig.changeProfile (parser'.inSection inGateway inDefaults) name change =
      .ok after') : Agree entry after after' := by
  obtain ⟨position, config, -⟩ := agree
  obtain ⟨config', inGateway', inDefaults', rfl⟩ := exists_reopened position
  obtain ⟨profile, changed, found, changes, rfl⟩ := changeProfile_ok ran
  obtain ⟨profile', changed', found', changes', rfl⟩ := changeProfile_ok ran'
  dsimp only [CliConfig.Parser.inSection] at config found found'
  refine ⟨⟨rfl, rfl, rfl, rfl, rfl, rfl⟩, config.update_profile fun other => ?_, .inl ⟨rfl, rfl⟩⟩
  have same := found.symm.trans ((config.profiles name other).trans found')
  rw [Option.some.inj same] at changes
  exact Except.ok.inj (changes.symm.trans changes')

/-- The change within the sections that are open in both. -/
theorem Agree.changeSame (agree : Agree entry parser parser') {name : String}
    {change : CliConfig.ProfileConfig floats.F32 →
      Except String (CliConfig.ProfileConfig floats.F32)}
    (gateway : parser.inGateway = parser'.inGateway)
    (defaults : parser.inDefaults = parser'.inDefaults)
    (ran : CliConfig.changeProfile parser name change = .ok after)
    (ran' : CliConfig.changeProfile parser' name change = .ok after') :
    Agree entry after after' := by
  have unmoved : parser.inSection parser.inGateway parser.inDefaults = parser := rfl
  have unmoved' : parser'.inSection parser.inGateway parser.inDefaults = parser' := by
    rw [gateway, defaults]
    rfl
  rw [← unmoved] at ran
  rw [← unmoved'] at ran'
  exact agree.changeProfile ran ran'

theorem Agree.voiceEntry (agree : Agree entry parser parser')
    (ran : CliConfig.parseVoiceEntry parser trimmed = .ok after)
    (ran' : CliConfig.parseVoiceEntry parser' trimmed = .ok after') : Agree entry after after' := by
  obtain ⟨position, config, sections⟩ := agree
  obtain ⟨config', inGateway', inDefaults', rfl⟩ := exists_reopened position
  rw [CliConfig.parseVoiceEntry] at ran ran'
  dsimp only at config sections ran ran'
  split at ran
  case h_1 name inVoice current =>
    rw [inVoice, current] at ran'
    obtain ⟨profiles, ran, result⟩ := exists_of_bind_ok ran
    obtain ⟨profiles', ran', result'⟩ := exists_of_bind_ok ran'
    obtain ⟨profile, changed, found, changes, rfl⟩ := changeEntry_ok ran
    obtain ⟨profile', changed', found', changes', rfl⟩ := changeEntry_ok ran'
    obtain rfl := Except.ok.inj result
    obtain rfl := Except.ok.inj result'
    refine ⟨⟨rfl, current, rfl, rfl, inVoice, rfl⟩, config.update_voiceProfile fun other => ?_,
      sections⟩
    have same := found.symm.trans ((config.voiceProfiles name other).trans found')
    rw [Option.some.inj same] at changes
    exact Except.ok.inj (changes.symm.trans changes')
  case h_2 other =>
    split at ran'
    · rename_i name inVoice current
      exact absurd current (other name inVoice)
    split at ran
    case h_1 name inBinding current =>
      rw [inBinding, current] at ran'
      obtain ⟨bindings, ran, result⟩ := exists_of_bind_ok ran
      obtain ⟨bindings', ran', result'⟩ := exists_of_bind_ok ran'
      obtain ⟨binding, changed, found, changes, rfl⟩ := changeEntry_ok ran
      obtain ⟨binding', changed', found', changes', rfl⟩ := changeEntry_ok ran'
      obtain rfl := Except.ok.inj result
      obtain rfl := Except.ok.inj result'
      refine ⟨⟨rfl, rfl, current, rfl, rfl, inBinding⟩,
        config.update_projectBinding fun other => ?_, sections⟩
      have same := found.symm.trans ((config.projectVoiceProfiles name other).trans found')
      rw [Option.some.inj same] at changes
      exact Except.ok.inj (changes.symm.trans changes')
    case h_2 other' =>
      split at ran'
      · rename_i name inBinding current
        exact absurd current (other' name inBinding)
      obtain rfl := Except.ok.inj ran
      obtain rfl := Except.ok.inj ran'
      exact ⟨⟨rfl, rfl, rfl, rfl, rfl, rfl⟩, config, sections⟩

theorem Agree.entry_ (agree : Agree entry parser parser')
    (ran : CliConfig.parseEntry parser trimmed = .ok after)
    (ran' : CliConfig.parseEntry parser' trimmed = .ok after') : Agree entry after after' := by
  rw [CliConfig.parseEntry] at ran ran'
  rw [← agree.position.currentProfile] at ran'
  cases current : parser.currentProfile with
  | none =>
    rw [current] at ran ran'
    exact agree.voiceEntry ran ran'
  | some name =>
    rw [current] at ran ran'
    dsimp only at ran ran'
    split_ifs at ran ran' with gateway defaults
    · obtain rfl := Except.ok.inj ran
      obtain rfl := Except.ok.inj ran'
      exact ⟨{ agree.position with }, agree.config, .inl ⟨rfl, rfl⟩⟩
    · obtain rfl := Except.ok.inj ran
      obtain rfl := Except.ok.inj ran'
      exact ⟨{ agree.position with }, agree.config, .inl ⟨rfl, rfl⟩⟩
    · exact agree.changeProfile ran ran'

theorem Agree.profileSection (agree : Agree entry parser parser')
    (ran : CliConfig.parseProfileSection parser trimmed = .ok after)
    (ran' : CliConfig.parseProfileSection parser' trimmed = .ok after') :
    Agree entry after after' := by
  rcases agree.sections with ⟨gateway, defaults⟩ | within
  · rw [CliConfig.parseProfileSection] at ran ran'
    rw [← agree.position.currentProfile, ← gateway, ← defaults] at ran'
    cases current : parser.currentProfile with
    | none =>
      rw [current] at ran ran'
      obtain rfl := Except.ok.inj ran
      obtain rfl := Except.ok.inj ran'
      exact agree
    | some name =>
      rw [current] at ran ran'
      dsimp only at ran ran'
      split_ifs at ran ran'
      · exact agree.changeSame gateway defaults ran ran'
      · exact agree.changeSame gateway defaults ran ran'
      · obtain rfl := Except.ok.inj ran
        obtain rfl := Except.ok.inj ran'
        exact agree
  · exact agree.of_changesCurrent within (parseProfileSection_changesCurrent ran)
      (parseProfileSection_changesCurrent ran')

/-- Parsers that agree still do after a line. -/
theorem Agree.parseLine (agree : Agree entry parser parser')
    (ran : CliConfig.parseLine parser original = .ok after)
    (ran' : CliConfig.parseLine parser' original = .ok after') : Agree entry after after' := by
  by_cases skipped : isSkipped (trim (trimEnd original)) = true
  · rw [parseLine_skipped skipped] at ran ran'
    obtain rfl := Except.ok.inj ran
    obtain rfl := Except.ok.inj ran'
    exact agree
  by_cases top : indentOf (trimEnd original) = 0
  · rw [parseLine_topLevel skipped top] at ran ran'
    obtain rfl := Except.ok.inj ran
    obtain rfl := Except.ok.inj ran'
    exact agree.topLevel
  by_cases section_ : indentOf (trimEnd original) = 2
  · rw [parseLine_section skipped section_] at ran ran'
    exact agree.section_ ran ran'
  by_cases inEntry : indentOf (trimEnd original) = 4
  · rw [parseLine_entry skipped inEntry] at ran ran'
    exact agree.entry_ ran ran'
  by_cases inSection : indentOf (trimEnd original) = 6
  · rw [parseLine_profileSection skipped inSection] at ran ran'
    exact agree.profileSection ran ran'
  rw [parseLine_ignored skipped top section_ inEntry inSection] at ran ran'
  obtain rfl := Except.ok.inj ran
  obtain rfl := Except.ok.inj ran'
  exact agree

theorem Agree.run {lines : List String} (agree : Agree entry parser parser')
    (ran : lines.foldlM CliConfig.parseLine parser = .ok after)
    (ran' : lines.foldlM CliConfig.parseLine parser' = .ok after') : Agree entry after after' := by
  induction lines generalizing parser parser' with
  | nil =>
    obtain rfl := Except.ok.inj ran
    obtain rfl := Except.ok.inj ran'
    exact agree
  | cons line lines ih =>
    rw [List.foldlM_cons] at ran ran'
    obtain ⟨middle, first, rest⟩ := exists_of_bind_ok ran
    obtain ⟨middle', first', rest'⟩ := exists_of_bind_ok ran'
    exact ih (agree.parseLine first first') rest rest'

/-- The parser is at the current entry after the lines of a text. -/
theorem currentEntry_after {lines : List String}
    (ran : lines.foldlM CliConfig.parseLine (CliConfig.initial floats) = .ok parser) :
    Placed parser (placeAfter bareKey lines) ∧ currentEntry parser = currentAfter lines := by
  have placed := parse_placed (placed_outside _) ran
  exact ⟨placed, placed.currentEntry_eq⟩

theorem isolated_of {before : List String}
    (owned : currentAfter before = none ∨ currentAfter before = ownerAfter before) :
    Isolated floats before := by
  intro raw raw' nested nested' after config config' lines lines' inner inner' ran ran'
  obtain ⟨last, parsed, rfl⟩ := parseFileConfig_ok ran
  obtain ⟨last', parsed', rfl⟩ := parseFileConfig_ok ran'
  rw [lines, List.foldlM_append, List.foldlM_append] at parsed
  rw [lines', List.foldlM_append, List.foldlM_append] at parsed'
  obtain ⟨middle, parsed, rest⟩ := exists_of_bind_ok parsed
  obtain ⟨middle', parsed', rest'⟩ := exists_of_bind_ok parsed'
  obtain ⟨start, reached, changed⟩ := exists_of_bind_ok parsed
  obtain ⟨start', reached', changed'⟩ := exists_of_bind_ok parsed'
  obtain rfl : start = start' := Except.ok.inj (reached.symm.trans reached')
  obtain ⟨placed, current⟩ := currentEntry_after reached
  have agree := agree_of_nested placed (nested_changesCurrent inner changed)
    (nested_changesCurrent inner' changed')
  have same := (agree.run rest rest').config
  rw [current] at same
  rcases owned with none | owner
  · rw [none] at same
    exact same.of_none
  · rwa [owner] at same

/-! ## Texts with given lines -/

theorem splitInclusive_line {content rest : List Char} (free : '\n' ∉ content) :
    splitInclusive (content ++ '\n' :: rest) = (content ++ ['\n']) :: splitInclusive rest := by
  induction content with
  | nil => rfl
  | cons c content ih =>
    rw [List.mem_cons, not_or] at free
    rw [List.cons_append, splitInclusive, if_neg (Ne.symm free.1), ih free.2]
    rfl

theorem stripLineEnd_line (content : List Char) :
    stripLineEnd (content ++ ['\r'] ++ ['\n']) = content := by
  simp [stripLineEnd, stripSuffixChar]

/-- A text with the lines. -/
def unlines (lines : List String) : String :=
  String.ofList (lines.flatMap fun line => line.toList ++ ['\r'] ++ ['\n'])

theorem linesOf_unlines {lines : List String} (free : ∀ line ∈ lines, '\n' ∉ line.toList) :
    linesOf (unlines lines) = lines := by
  rw [linesOf, unlines, String.toList_ofList]
  induction lines with
  | nil => rfl
  | cons line lines ih =>
    rw [List.forall_mem_cons] at free
    have content : '\n' ∉ line.toList ++ ['\r'] := by
      simpa using free.1
    rw [List.flatMap_cons, List.append_assoc _ ['\n'], List.singleton_append,
      splitInclusive_line content, List.map_cons, stripLineEnd_line, String.ofList_toList,
      ih free.2]

/-- A newline is the last character of its piece. -/
theorem splitInclusive_dropLast {text piece : List Char} (member : piece ∈ splitInclusive text) :
    '\n' ∉ piece.dropLast := by
  induction text generalizing piece with
  | nil => contradiction
  | cons c text ih =>
    rw [splitInclusive] at member
    split_ifs at member with newline
    · rw [List.mem_cons] at member
      rcases member with rfl | member
      · exact List.not_mem_nil
      · exact ih member
    · cases pieces : splitInclusive text with
      | nil =>
        rw [pieces] at member
        obtain rfl := List.mem_singleton.mp member
        exact List.not_mem_nil
      | cons first others =>
        rw [pieces] at member ih
        rcases List.mem_cons.mp member with rfl | member
        · have rest := ih List.mem_cons_self
          cases first with
          | nil => exact List.not_mem_nil
          | cons d first =>
            rw [List.dropLast_cons_of_ne_nil (List.cons_ne_nil d first), List.mem_cons, not_or]
            exact ⟨Ne.symm newline, rest⟩
        · exact ih (List.mem_cons_of_mem first member)

theorem stripLineEnd_free {line : List Char} (free : '\n' ∉ line.dropLast) :
    '\n' ∉ stripLineEnd line := by
  rw [stripLineEnd, stripSuffixChar]
  split_ifs with newline
  · dsimp only
    rw [stripSuffixChar]
    split_ifs with carriage
    · exact fun member => free (List.dropLast_subset _ member)
    · exact free
  · intro member
    dsimp only at member
    exact free (List.mem_dropLast_of_mem_of_ne_getLast? member (Ne.symm newline))

theorem linesOf_free {raw line : String} (member : line ∈ linesOf raw) : '\n' ∉ line.toList := by
  obtain ⟨piece, split, rfl⟩ := List.mem_map.mp member
  rw [String.toList_ofList]
  exact stripLineEnd_free (splitInclusive_dropLast split)

/-! ## Lines under a key line that is not recognised -/

def fieldName : EntryKind → String
  | .profile => "ws_url"
  | .voiceProfile => "voice"
  | .projectBinding => "root"

def written (second : Bool) : String := if second then "b" else "a"

def assignment (kind : EntryKind) (second : Bool) : String :=
  fieldName kind ++ ": " ++ written second

/-- A nested line that sets a field of an entry of the kind. -/
def setLine (kind : EntryKind) (second : Bool) : String := "    " ++ assignment kind second

/-- The field of the entry that the line sets. -/
def fieldOf (config : CliConfig.FileConfig floats.F32) : Entry → Option String
  | (.profile, name) => (config.profiles name).bind (·.gateway.wsUrl)
  | (.voiceProfile, name) => (config.voiceProfiles name).bind (·.voice)
  | (.projectBinding, name) => (config.projectVoiceProfiles name).bind (·.root)

theorem fieldOf_profile {config : CliConfig.FileConfig floats.F32} {name : String}
    {value : CliConfig.ProfileConfig floats.F32} (known : config.profiles name = some value) :
    fieldOf config (.profile, name) = value.gateway.wsUrl := by
  rw [fieldOf, known]
  rfl

theorem fieldOf_voiceProfile {config : CliConfig.FileConfig floats.F32} {name : String}
    {value : CliConfig.VoiceProfileConfig floats.F32}
    (known : config.voiceProfiles name = some value) :
    fieldOf config (.voiceProfile, name) = value.voice := by
  rw [fieldOf, known]
  rfl

theorem fieldOf_projectBinding {config : CliConfig.FileConfig floats.F32} {name : String}
    {value : CliConfig.ProjectVoiceBinding}
    (known : config.projectVoiceProfiles name = some value) :
    fieldOf config (.projectBinding, name) = value.root := by
  rw [fieldOf, known]
  rfl

theorem fieldOf_same {owner : Option Entry} {entry : Entry}
    {config config' : CliConfig.FileConfig floats.F32} (same : SameExcept owner config config')
    (other : owner ≠ some entry) : fieldOf config entry = fieldOf config' entry := by
  obtain ⟨kind, name⟩ := entry
  cases kind with
  | profile => exact congrArg (Option.bind · _) (same.profiles name other)
  | voiceProfile => exact congrArg (Option.bind · _) (same.voiceProfiles name other)
  | projectBinding => exact congrArg (Option.bind · _) (same.projectVoiceProfiles name other)

section SetLine

variable (kind : EntryKind) (second : Bool)

theorem setLine_indent : indentOf (trimEnd (setLine kind second)) = 4 := by
  cases kind <;> cases second <;> decide

theorem setLine_trimmed : trim (trimEnd (setLine kind second)) = assignment kind second := by
  cases kind <;> cases second <;> decide

theorem assignment_kept : isSkipped (assignment kind second) ≠ true := by
  cases kind <;> cases second <;> decide

theorem assignment_pair :
    splitKeyValue (assignment kind second) = some (fieldName kind, written second) := by
  cases kind <;> cases second <;> decide

theorem assignment_ne (second : Bool) :
    assignment .profile second ≠ "gateway:" ∧ assignment .profile second ≠ "defaults:" := by
  cases second <;> decide

theorem setLine_free : '\n' ∉ (setLine kind second).toList := by
  cases kind <;> cases second <;> decide

end SetLine

theorem parseLine_setLine (kind : EntryKind) (second : Bool) :
    CliConfig.parseLine parser (setLine kind second) =
      CliConfig.parseEntry parser (assignment kind second) := by
  have kept : isSkipped (trim (trimEnd (setLine kind second))) ≠ true := by
    rw [setLine_trimmed]
    exact assignment_kept kind second
  rw [parseLine_entry kept (setLine_indent kind second), setLine_trimmed]

theorem foldlM_snoc_ok {ι σ ε : Type} {step : σ → ι → Except ε σ} {items : List ι} {item : ι}
    {start middle last : σ} (ran : items.foldlM step start = .ok middle)
    (next : step middle item = .ok last) : (items ++ [item]).foldlM step start = .ok last := by
  rw [List.foldlM_append, ran]
  change [item].foldlM step middle = _
  rw [List.foldlM_cons, next]
  rfl

theorem changeEntry_known {α : Type} {map : String → Option α} {name missing : String} {value : α}
    {change : α → Except String α} (known : map name = some value) :
    changeEntry map name missing change =
      (change value).map fun changed => Function.update map name (some changed) := by
  rw [changeEntry, known]

theorem place_of_entry {kind : EntryKind} {name : String}
    (entry : place.entry = some (kind, name)) : place = ⟨some kind, some name⟩ := by
  obtain ⟨inside, key⟩ := place
  obtain ⟨_, rfl, keyed⟩ := Option.bind_eq_some_iff.mp entry
  obtain ⟨_, rfl, same⟩ := Option.map_eq_some_iff.mp keyed
  obtain ⟨rfl, rfl⟩ := Prod.mk.inj same
  rfl

/-- The line sets the field of the current entry. -/
theorem setLine_sets {entry : Entry} (placed : Placed parser place)
    (current : currentEntry parser = some entry) (second : Bool) :
    ∃ after, CliConfig.parseLine parser (setLine entry.1 second) = .ok after ∧
      fieldOf after.config entry = some (written second) := by
  obtain ⟨kind, name⟩ := entry
  rw [placed.currentEntry_eq] at current
  obtain rfl := place_of_entry current
  rw [parseLine_setLine, CliConfig.parseEntry]
  cases kind with
  | profile =>
    have here : parser.currentProfile = some name := placed.currentProfile
    obtain ⟨value, known⟩ := Option.ne_none_iff_exists'.mp (placed.profiles name here)
    obtain ⟨notGateway, notDefaults⟩ := assignment_ne second
    have inSection : (parser.inSection false false).config.profiles name = some value := known
    rw [here]
    dsimp only
    rw [if_neg notGateway, if_neg notDefaults, CliConfig.changeProfile, changeEntry_known inSection]
    refine ⟨_, rfl, (fieldOf_profile (Function.update_self ..)).trans ?_⟩
    rw [CliConfig.assignProfileValue, if_neg notGateway, assignment_pair]
    rfl
  | voiceProfile =>
    have none : parser.currentProfile = none := placed.currentProfile
    have inside : parser.inVoiceProfiles = true := placed.inVoiceProfiles
    have here : parser.currentVoiceProfile = some name := placed.currentVoiceProfile
    obtain ⟨value, known⟩ := Option.ne_none_iff_exists'.mp (placed.voiceProfiles name here)
    have assigned : CliConfig.assignVoiceProfileValue floats value
        (assignment .voiceProfile second) = .ok { value with voice := some (written second) } := by
      rw [CliConfig.assignVoiceProfileValue, assignment_pair]
      rfl
    rw [none]
    dsimp only
    rw [CliConfig.parseVoiceEntry, inside, here]
    dsimp only
    rw [changeEntry_known known, assigned]
    refine ⟨_, rfl, (fieldOf_voiceProfile (Function.update_self ..)).trans ?_⟩
    rfl
  | projectBinding =>
    have none : parser.currentProfile = none := placed.currentProfile
    have outside : parser.inVoiceProfiles = false := placed.inVoiceProfiles
    have inside : parser.inProjectVoiceProfiles = true := placed.inProjectVoiceProfiles
    have here : parser.currentProjectBinding = some name := placed.currentProjectBinding
    obtain ⟨value, known⟩ := Option.ne_none_iff_exists'.mp (placed.projectVoiceProfiles name here)
    rw [none]
    dsimp only
    rw [CliConfig.parseVoiceEntry, outside, inside, here]
    dsimp only
    rw [changeEntry_known known]
    refine ⟨_, rfl, (fieldOf_projectBinding (Function.update_self ..)).trans ?_⟩
    rw [CliConfig.assignProjectVoiceBindingValue, assignment_pair]
    rfl

/-- A text with one more line that sets the field of the current entry. -/
theorem exists_set {raw : String} {config : CliConfig.FileConfig floats.F32} {entry : Entry}
    (ran : CliConfig.parseFileConfig floats raw = .ok config)
    (current : currentAfter (linesOf raw) = some entry) (second : Bool) :
    ∃ longer config', linesOf longer = linesOf raw ++ [setLine entry.1 second] ++ [] ∧
      CliConfig.parseFileConfig floats longer = .ok config' ∧
        fieldOf config' entry = some (written second) := by
  obtain ⟨parser, parsed, rfl⟩ := parseFileConfig_ok ran
  obtain ⟨placed, here⟩ := currentEntry_after parsed
  obtain ⟨after, set, field⟩ := setLine_sets placed (here.trans current) second
  have free : ∀ line ∈ linesOf raw ++ [setLine entry.1 second], '\n' ∉ line.toList := by
    intro line member
    rcases List.mem_append.mp member with old | new
    · exact linesOf_free old
    · rw [List.mem_singleton.mp new]
      exact setLine_free entry.1 second
  have lines := linesOf_unlines free
  use unlines (linesOf raw ++ [setLine entry.1 second]), after.config
  refine ⟨lines.trans (List.append_nil _).symm, ?_, field⟩
  rw [CliConfig.parseFileConfig, lines, foldlM_snoc_ok parsed set]
  rfl

theorem not_isolated_of {raw : String} {config : CliConfig.FileConfig floats.F32} {entry : Entry}
    (ran : CliConfig.parseFileConfig floats raw = .ok config)
    (current : currentAfter (linesOf raw) = some entry)
    (other : ownerAfter (linesOf raw) ≠ some entry) : ¬ Isolated floats (linesOf raw) := by
  intro isolated
  obtain ⟨first, config₁, lines₁, ran₁, field₁⟩ := exists_set ran current false
  obtain ⟨second, config₂, lines₂, ran₂, field₂⟩ := exists_set ran current true
  have nested (second : Bool) : ∀ line ∈ [setLine entry.1 second], Nested line := by
    intro line member
    rw [List.mem_singleton.mp member]
    exact .inr (.inl (setLine_indent entry.1 second))
  have same := isolated first second _ _ _ config₁ config₂ lines₁ lines₂ (nested false)
    (nested true) ran₁ ran₂
  have fields := fieldOf_same same other
  rw [field₁, field₂] at fields
  exact absurd fields (by decide)

/-- What is nested after the lines of a text belongs to the nearest preceding key line of its
section exactly if that key line ends with its colon, or no key line of the section does, or the
last one that does has the same key. -/
theorem isolated_iff {raw : String} {config : CliConfig.FileConfig floats.F32}
    (ran : CliConfig.parseFileConfig floats raw = .ok config) :
    Isolated floats (linesOf raw) ↔
      currentAfter (linesOf raw) = none ∨
        currentAfter (linesOf raw) = ownerAfter (linesOf raw) := by
  constructor
  case mp =>
    intro isolated
    cases current : currentAfter (linesOf raw) with
    | none => exact .inl rfl
    | some entry =>
      right
      by_contra other
      exact not_isolated_of ran current (Ne.symm other) isolated
  case mpr => exact isolated_of

theorem exists_of_isOk {ε α : Type} {result : Except ε α} (accepted : result.isOk = true) :
    ∃ value, result = .ok value := by
  cases result with
  | error error => contradiction
  | ok value => exact ⟨value, rfl⟩

theorem officeConfig_isolated : Isolated plainFloats (linesOf officeConfig) := by
  have accepted : (CliConfig.parseFileConfig plainFloats officeConfig).isOk = true := by
    decide +kernel
  have owned : currentAfter (linesOf officeConfig) = ownerAfter (linesOf officeConfig) := by
    decide +kernel
  obtain ⟨config, parsed⟩ := exists_of_isOk accepted
  exact (isolated_iff parsed).mpr (.inr owned)

/-- A profile whose key line ends with a comment, after another profile. -/
def commentedConfig : String :=
  "profiles:\n  staging:\n  production: # live\n"

/-- What is nested under the second profile changes the first. -/
theorem commentedConfig_not_isolated :
    ∃ config, CliConfig.parseFileConfig plainFloats commentedConfig = .ok config ∧
      ownerAfter (linesOf commentedConfig) = some (.profile, "production") ∧
      ¬ Isolated plainFloats (linesOf commentedConfig) := by
  have accepted : (CliConfig.parseFileConfig plainFloats commentedConfig).isOk = true := by
    decide
  have owner : ownerAfter (linesOf commentedConfig) = some (.profile, "production") := by
    decide
  have current : currentAfter (linesOf commentedConfig) = some (.profile, "staging") := by
    decide
  have other : ownerAfter (linesOf commentedConfig) ≠ some (.profile, "staging") := by
    intro same
    rw [owner] at same
    exact absurd same (by decide)
  obtain ⟨config, parsed⟩ := exists_of_isOk accepted
  exact ⟨config, parsed, owner, not_isolated_of parsed current other⟩

end ConfigBlocks

end SpeechMesh.Soundness
