import SpeechMesh.Model.VoiceProfiles
import SpeechMesh.Soundness.ConfigPlaces

/-! # The voice profile of a directory

The bindings whose root contains the directory are compared by depth. Roots of one depth are the
same root, so that the order of the map plays a part only where two bindings give the deepest root
different profiles.
-/

namespace SpeechMesh.Soundness

open Choice Encoding Model Model.VoiceProfiles
open Model.CliConfig (ProjectVoiceBinding VoiceProfileConfig)

namespace VoiceBindings

variable {F32 : Type} {canonicalize : Bytes → Option Bytes} {cli : RuntimeConfig F32} {cwd : Bytes}

/-- A binding gives the directory the profile: its root has so many components and contains the
directory. -/
structure Binds (canonicalize : Bytes → Option Bytes) (cli : RuntimeConfig F32) (cwd : Bytes)
    (binding : ProjectVoiceBinding) (depth : ℕ) (profile : VoiceProfileConfig F32) : Prop where
  known : ∃ name, cli.projectVoiceProfiles name = some binding
  contained : ∃ root, binding.root = some root ∧
    components (canonicalizeIfExists canonicalize (utf8 root)) <+:
      components (canonicalizeIfExists canonicalize cwd) ∧
    depth = (components (canonicalizeIfExists canonicalize (utf8 root))).length
  profile : ∃ name, binding.voiceProfile = some name ∧ cli.voiceProfiles name = some profile

/-- The profile of a binding than which none with a profile is deeper. -/
structure Deepest (canonicalize : Bytes → Option Bytes) (cli : RuntimeConfig F32) (cwd : Bytes)
    (depth : ℕ) (profile : VoiceProfileConfig F32) : Prop where
  binds : ∃ binding, Binds canonicalize cli cwd binding depth profile
  deepest : ∀ binding other profile, Binds canonicalize cli cwd binding other profile →
    other ≤ depth

/-- In whatever order the map is iterated, the selection is a deepest profile, there is none exactly
if no binding has one, and every other order selects the same. -/
def SelectsDeepest (canonicalize : Bytes → Option Bytes) (cli : RuntimeConfig F32) (cwd : Bytes) :
    Prop :=
  ∀ values, IterationOrder cli.projectVoiceProfiles values →
    (∀ profile, selectVoiceProfileForPath canonicalize cli values cwd = some profile →
      ∃ depth, Deepest canonicalize cli cwd depth profile) ∧
    (selectVoiceProfileForPath canonicalize cli values cwd = none ↔
      ¬∃ binding depth profile, Binds canonicalize cli cwd binding depth profile) ∧
    ∀ others, IterationOrder cli.projectVoiceProfiles others →
      selectVoiceProfileForPath canonicalize cli others cwd =
        selectVoiceProfileForPath canonicalize cli values cwd

/-! ## Orders of a map -/

section Orders

variable {α : Type} {map : String → Option α} {values others : List α} {value : α}

theorem mem_order (order : IterationOrder map values) :
    value ∈ values ↔ ∃ name, map name = some value := by
  obtain ⟨names, _, known, rfl⟩ := order
  rw [List.mem_filterMap]
  constructor
  case mp =>
    rintro ⟨name, _, found⟩
    exact ⟨name, found⟩
  case mpr =>
    rintro ⟨name, found⟩
    have member : map name ≠ none := by
      rw [found]
      exact Option.some_ne_none value
    exact ⟨name, (known name).mpr member, found⟩

/-- A map has an order in which a given value is the last. -/
theorem exists_order_concat (finite : {name | map name ≠ none}.Finite) {name : String}
    (found : map name = some value) :
    ∃ before, IterationOrder map (before ++ [value]) := by
  classical
  use (finite.toFinset.erase name).toList.filterMap map,
    (finite.toFinset.erase name).toList ++ [name]
  constructor
  · rw [List.nodup_append]
    refine ⟨Finset.nodup_toList _, List.nodup_singleton name, ?_⟩
    intro other member last here
    rw [List.mem_singleton] at here
    rw [Finset.mem_toList, Finset.mem_erase] at member
    rw [here]
    exact member.1
  constructor
  · intro other
    rw [List.mem_append, Finset.mem_toList, Finset.mem_erase, Set.Finite.mem_toFinset,
      List.mem_singleton]
    by_cases here : other = name
    · simp [here, found]
    · simp [here]
  · rw [List.filterMap_append, List.filterMap_cons, found]
    rfl

end Orders

/-! ## Bindings of a file -/

section Parsed

open ConfigPlaces

variable {floats : CliConfig.FloatText} {parser after : CliConfig.Parser floats}

def FiniteMap {α : Type} (map : String → Option α) : Prop := {name | map name ≠ none}.Finite

theorem changesCurrent_finite (changes : ChangesCurrent parser after)
    (finite : FiniteMap parser.config.projectVoiceProfiles) :
    FiniteMap after.config.projectVoiceProfiles := by
  have current : {name | currentEntry parser = some (.projectBinding, name)}.Finite := by
    apply Set.Subsingleton.finite
    intro name here name' here'
    have same := here.symm.trans here'
    exact congrArg Prod.snd (Option.some.inj same)
  apply (finite.union current).subset
  intro name known
  by_cases here : currentEntry parser = some (.projectBinding, name)
  · exact .inr here
  · left
    change parser.config.projectVoiceProfiles name ≠ none
    rwa [changes.config.projectVoiceProfiles name here]

theorem parseTopLevel_bindings (trimmed : String) :
    (CliConfig.parseTopLevel parser trimmed).config.projectVoiceProfiles =
      parser.config.projectVoiceProfiles := by
  rw [CliConfig.parseTopLevel]
  split_ifs <;> rfl

theorem finiteMap_orDefault {α : Type} {map : String → Option α} {name : String} {default : α}
    (finite : FiniteMap map) : FiniteMap (orDefault map name default) := by
  apply (finite.insert name).subset
  intro other known
  by_cases here : other = name
  · exact .inl here
  · right
    change orDefault map name default other ≠ none at known
    rwa [orDefault, Function.update_of_ne here] at known

theorem parseSection_finite {trimmed : String}
    (ran : CliConfig.parseSection parser trimmed = .ok after)
    (finite : FiniteMap parser.config.projectVoiceProfiles) :
    FiniteMap after.config.projectVoiceProfiles := by
  rcases parseSection_cases ran with ⟨_, _, rfl⟩ | ⟨_, _, rfl⟩ | ⟨_, _, rfl⟩ | ⟨_, _, rfl⟩
  · exact finite
  · exact finite
  · dsimp only
    exact finiteMap_orDefault finite
  · exact finite

/-- The parser adds a binding at most with each line. -/
theorem parseLine_finite {original : String}
    (ran : CliConfig.parseLine parser original = .ok after)
    (finite : FiniteMap parser.config.projectVoiceProfiles) :
    FiniteMap after.config.projectVoiceProfiles := by
  by_cases skipped : isSkipped (trim (trimEnd original)) = true
  · exact changesCurrent_finite (parseLine_changesCurrent (.inl skipped) ran) finite
  by_cases top : indentOf (trimEnd original) = 0
  · rw [parseLine_topLevel skipped top] at ran
    obtain rfl := Except.ok.inj ran
    rwa [parseTopLevel_bindings]
  by_cases section_ : indentOf (trimEnd original) = 2
  · rw [parseLine_section skipped section_] at ran
    exact parseSection_finite ran finite
  · exact changesCurrent_finite (parseLine_changesCurrent (.inr ⟨top, section_⟩) ran) finite

theorem parseFileConfig_finite {raw : String} {config : CliConfig.FileConfig floats.F32}
    (ran : CliConfig.parseFileConfig floats raw = .ok config) :
    FiniteMap config.projectVoiceProfiles := by
  obtain ⟨parser, parsed, rfl⟩ := parseFileConfig_ok ran
  have nothing : FiniteMap (CliConfig.initial floats).config.projectVoiceProfiles :=
    Set.finite_empty.subset fun _ known => known rfl
  exact foldlM_keeps (fun _ _ _ finite ran => parseLine_finite ran finite) nothing parsed

/-- A configuration file that is parsed has a runtime configuration with its profiles and bindings. -/
theorem exists_runtimeConfig {raw : String} {config : CliConfig.FileConfig floats.F32}
    (ran : CliConfig.parseFileConfig floats raw = .ok config) :
    ∃ cli : RuntimeConfig floats.F32, cli.voiceProfiles = config.voiceProfiles ∧
      cli.projectVoiceProfiles = config.projectVoiceProfiles :=
  ⟨⟨config.voiceProfiles, config.projectVoiceProfiles, parseFileConfig_finite ran⟩, rfl, rfl⟩

end Parsed

/-! ## What is selected -/

section Selection

variable {binding : ProjectVoiceBinding} {depth : ℕ} {profile : VoiceProfileConfig F32}
  {values : List ProjectVoiceBinding}

theorem pathHasPrefix_iff {path root : Bytes} :
    pathHasPrefix path root = true ↔ components root <+: components path := by
  rw [pathHasPrefix, List.isPrefixOf_iff_prefix]

/-- The candidates are the bindings that give the directory a profile. -/
theorem candidate_iff :
    candidate canonicalize cli (canonicalizeIfExists canonicalize cwd) binding =
        some (depth, profile) ↔
      (∃ root, binding.root = some root ∧
        components (canonicalizeIfExists canonicalize (utf8 root)) <+:
          components (canonicalizeIfExists canonicalize cwd) ∧
        depth = (components (canonicalizeIfExists canonicalize (utf8 root))).length) ∧
      ∃ name, binding.voiceProfile = some name ∧ cli.voiceProfiles name = some profile := by
  rw [candidate]
  cases rooted : binding.root with
  | none => simp
  | some root =>
    cases named : binding.voiceProfile with
    | none => simp
    | some name =>
      cases known : cli.voiceProfiles name with
      | none => simp [known]
      | some found =>
        simp only [Option.bind_eq_bind, Option.bind_some, known, Option.some.injEq, exists_eq_left',
          ← pathHasPrefix_iff]
        cases pathHasPrefix (canonicalizeIfExists canonicalize cwd)
          (canonicalizeIfExists canonicalize (utf8 root)) with
        | false => simp
        | true => simp [eq_comm]

theorem mem_candidates (order : IterationOrder cli.projectVoiceProfiles values) :
    (depth, profile) ∈ values.filterMap
        (candidate canonicalize cli (canonicalizeIfExists canonicalize cwd)) ↔
      ∃ binding, Binds canonicalize cli cwd binding depth profile := by
  rw [List.mem_filterMap]
  constructor
  case mp =>
    rintro ⟨binding, member, gives⟩
    obtain ⟨contained, named⟩ := candidate_iff.mp gives
    exact ⟨binding, (mem_order order).mp member, contained, named⟩
  case mpr =>
    rintro ⟨binding, known, contained, named⟩
    exact ⟨binding, (mem_order order).mpr known, candidate_iff.mpr ⟨contained, named⟩⟩

theorem selected_deepest (order : IterationOrder cli.projectVoiceProfiles values)
    (selected : selectVoiceProfileForPath canonicalize cli values cwd = some profile) :
    ∃ depth, Deepest canonicalize cli cwd depth profile := by
  obtain ⟨⟨depth, _⟩, found, rfl⟩ := Option.map_eq_some_iff.mp selected
  have greatest := maxByKey?_greatest found
  refine ⟨depth, (mem_candidates order).mp greatest.member, fun binding other profile binds => ?_⟩
  exact greatest.greatest (other, profile) ((mem_candidates order).mpr ⟨binding, binds⟩)

theorem selected_none (order : IterationOrder cli.projectVoiceProfiles values) :
    selectVoiceProfileForPath canonicalize cli values cwd = none ↔
      ¬∃ binding depth profile, Binds canonicalize cli cwd binding depth profile := by
  rw [selectVoiceProfileForPath, Option.map_eq_none_iff, maxByKey?_eq_none,
    List.eq_nil_iff_forall_not_mem]
  constructor
  case mp =>
    rintro absent ⟨binding, depth, profile, binds⟩
    exact absent (depth, profile) ((mem_candidates order).mpr ⟨binding, binds⟩)
  case mpr =>
    rintro absent ⟨depth, profile⟩ member
    obtain ⟨binding, binds⟩ := (mem_candidates order).mp member
    exact absent ⟨binding, depth, profile, binds⟩

/-- Every deepest profile is selected in some order. -/
theorem exists_order_selecting (deepest : Deepest canonicalize cli cwd depth profile) :
    ∃ values, IterationOrder cli.projectVoiceProfiles values ∧
      selectVoiceProfileForPath canonicalize cli values cwd = some profile := by
  obtain ⟨⟨binding, binds⟩, deepest⟩ := deepest
  obtain ⟨name, known⟩ := binds.known
  obtain ⟨before, order⟩ := exists_order_concat cli.finite known
  refine ⟨_, order, ?_⟩
  have last := candidate_iff.mpr ⟨binds.contained, binds.profile⟩
  have greatest : ∀ item ∈ before.filterMap
      (candidate canonicalize cli (canonicalizeIfExists canonicalize cwd)), item.1 ≤ depth := by
    intro item member
    obtain ⟨value, earlier, gives⟩ := List.mem_filterMap.mp member
    have whole := List.mem_filterMap.mpr ⟨value, List.mem_append_left [binding] earlier, gives⟩
    obtain ⟨other, also⟩ := (mem_candidates order).mp whole
    exact deepest other item.1 item.2 also
  rw [selectVoiceProfileForPath, List.filterMap_append, List.filterMap_cons, last]
  dsimp only [List.filterMap_nil]
  rw [maxByKey?_concat greatest]
  rfl

end Selection

/-- The selection is as promised exactly if the bindings of the deepest root give it one profile. -/
theorem selectsDeepest_iff :
    SelectsDeepest canonicalize cli cwd ↔
      ∀ depth profile depth' profile', Deepest canonicalize cli cwd depth profile →
        Deepest canonicalize cli cwd depth' profile' → profile = profile' := by
  constructor
  case mp =>
    intro promised depth profile depth' profile' deepest deepest'
    obtain ⟨values, order, selected⟩ := exists_order_selecting deepest
    obtain ⟨values', order', selected'⟩ := exists_order_selecting deepest'
    have same := (promised values order).2.2 values' order'
    rw [selected, selected'] at same
    exact (Option.some.inj same).symm
  case mpr =>
    intro unambiguous values order
    refine ⟨fun profile => selected_deepest order, selected_none order, fun others order' => ?_⟩
    cases selected : selectVoiceProfileForPath canonicalize cli values cwd with
    | none => exact (selected_none order').mpr ((selected_none order).mp selected)
    | some profile =>
      cases selected' : selectVoiceProfileForPath canonicalize cli others cwd with
      | none =>
        rw [(selected_none order).mpr ((selected_none order').mp selected')] at selected
        contradiction
      | some profile' =>
        obtain ⟨depth, deepest⟩ := selected_deepest order selected
        obtain ⟨depth', deepest'⟩ := selected_deepest order' selected'
        rw [unambiguous depth' profile' depth profile deepest' deepest]

/-! ## Two bindings of one root -/

def plainVoice (voice : String) : VoiceProfileConfig String :=
  ⟨none, some voice, none, none, none, none⟩

def officeBinding : ProjectVoiceBinding := ⟨some "/work", some "office"⟩

/-- The same root, written with a slash at its end. -/
def homeBinding : ProjectVoiceBinding := ⟨some "/work/", some "home"⟩

def workBindings (name : String) : Option ProjectVoiceBinding :=
  if name = "office" then some officeBinding
  else if name = "home" then some homeBinding
  else none

theorem workBindings_finite : {name | workBindings name ≠ none}.Finite := by
  apply Set.Finite.subset (Set.toFinite {"office", "home"})
  intro name known
  change workBindings name ≠ none at known
  rw [workBindings] at known
  split_ifs at known with office home
  · exact .inl office
  · exact .inr home
  · contradiction

def workVoices : RuntimeConfig String where
  voiceProfiles name :=
    if name = "office" then some (plainVoice "calm")
    else if name = "home" then some (plainVoice "bright")
    else none
  projectVoiceProfiles := workBindings
  finite := workBindings_finite

/-- Resolves the directory and its root with a slash at the end. -/
def workDirectory (path : Bytes) : Option Bytes :=
  if path = utf8 "/work" ∨ path = utf8 "/work/" then some (utf8 "/work") else none

theorem workOrder {names : List String} (nodup : names.Nodup)
    (known : ∀ name, name ∈ names ↔ name = "office" ∨ name = "home") :
    IterationOrder workVoices.projectVoiceProfiles (names.filterMap workBindings) := by
  refine ⟨names, nodup, fun name => (known name).trans ?_, rfl⟩
  change _ ↔ workBindings name ≠ none
  rw [workBindings]
  split_ifs with office home
  · simp [office]
  · simp [home]
  · simp [office, home]

theorem workVoices_ambiguous : ¬ SelectsDeepest workDirectory workVoices (utf8 "/work") := by
  intro promised
  have order := @workOrder ["office", "home"] (by decide) (by simp)
  have order' := @workOrder ["home", "office"] (by decide) (by simp [or_comm])
  have same := (promised _ order).2.2 _ order'
  have first : (selectVoiceProfileForPath workDirectory workVoices
      (["office", "home"].filterMap workBindings) (utf8 "/work")).bind (·.voice) =
        some "bright" := by
    decide +kernel
  have second : (selectVoiceProfileForPath workDirectory workVoices
      (["home", "office"].filterMap workBindings) (utf8 "/work")).bind (·.voice) =
        some "calm" := by
    decide +kernel
  rw [same, first] at second
  exact absurd second (by decide)

end VoiceBindings

end SpeechMesh.Soundness
