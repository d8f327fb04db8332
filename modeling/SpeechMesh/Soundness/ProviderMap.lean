import Mathlib.Data.String.Basic
import SpeechMesh.Soundness.ProviderTraces

/-! # The provider store is a finite map

The state file holds the records of a finite map from provider ids, sorted by id. Every command that
succeeds applies its operation to the map, and one that fails leaves the file as it was.
-/

namespace SpeechMesh.Soundness

open Async Model.ProviderStore
open Model (Bytes Json Path)

/-! ## Maps -/

/-- The installed providers by their ids. -/
abbrev ProviderMap := String → Option InstalledAsrProvider

namespace ProviderMap

def empty : ProviderMap := fun _ => none

/-- Put the catalog's record under an id. A record that was there keeps its time of installation,
and whether it is enabled if nothing else is asked for. -/
def install (map : ProviderMap) (template : CatalogAsrProvider) (providerId : String)
    (enabledOverride : Option Bool) (now : UInt64) : ProviderMap :=
  Function.update map providerId (some {
    providerId := providerId
    displayName := template.displayName
    description := template.description
    enabled := enabledOverride.getD
      ((map providerId).elim template.enabledByDefault InstalledAsrProvider.enabled)
    installedAtUnixSecs := some
      (((map providerId).bind InstalledAsrProvider.installedAtUnixSecs).getD now)
    install := template.install
    bridge := template.bridge })

def uninstall (map : ProviderMap) (providerId : String) : ProviderMap :=
  Function.update map providerId none

def setEnabled (map : ProviderMap) (providerId : String) (enabled : Bool) : ProviderMap :=
  Function.update map providerId ((map providerId).map fun record =>
    { record with enabled := enabled })

end ProviderMap

section Maps

variable (json : JsonText) (statePath : Path)

/-- The operation of a command that succeeded. The catalog and the time are those of its trace. -/
def MapStep (command : ProviderCommand) (trace : Trace providerStore) (map later : ProviderMap) :
    Prop :=
  match command with
  | .install catalogPath providerId enabledOverride => ∃ read catalog template now,
      (⟨.readCatalog catalogPath, read⟩ : Entry providerStore) ∈ trace ∧
      parseCatalog json catalogPath read = .ok catalog ∧
      Keyed.lookup CatalogAsrProvider.providerId catalog.providers providerId = some template ∧
      (⟨.nowUnixSecs, now⟩ : Entry providerStore) ∈ trace ∧
      later = map.install template providerId enabledOverride now
  | .uninstall providerId => map providerId ≠ none ∧ later = map.uninstall providerId
  | .enable providerId => map providerId ≠ none ∧ later = map.setEnabled providerId true
  | .disable providerId => map providerId ≠ none ∧ later = map.setEnabled providerId false

/-! ## Files -/

def SortedIds (state : InstalledAsrProvidersConfig) : Prop :=
  state.providers.Pairwise fun left right => left.providerId < right.providerId

/-- The file loads as a state with distinct ids in ascending order, which is the map. -/
def Represents (file : Option Bytes) (map : ProviderMap) : Prop :=
  ∃ state, parseState json statePath (contents file) = .ok state ∧ SortedIds state ∧
    find state = map

/-! ## Runs -/

/-- A command that was run to its end, with the file before and after. -/
structure CommandRun where
  command : ProviderCommand
  trace : Trace providerStore
  outcome : Except String InstalledAsrProvider
  before : Option Bytes
  after : Option Bytes

/-- Commands that are run one after the other. -/
inductive StoreRuns : Option Bytes → List CommandRun → Option Bytes → Prop where
  | none (file : Option Bytes) : StoreRuns file [] file
  | run {run : CommandRun} {rest : List CommandRun} {file : Option Bytes}
      (ran : Code.Performs StoreStep (run.command.run json statePath) run.before run.trace
        (.done run.outcome) run.after)
      (further : StoreRuns run.after rest file) : StoreRuns run.before (run :: rest) file

def WritesSucceed (trace : Trace providerStore) : Prop :=
  ∀ path bytes error, (⟨.writeState path bytes, .error error⟩ : Entry providerStore) ∉ trace

/-- The state texts that are written read as what they were written from. -/
def ReadsBack (trace : Trace providerStore) : Prop :=
  ∀ config answer, (⟨.writeState statePath (stateText json config), answer⟩ :
    Entry providerStore) ∈ trace → json.fromStr (stateText json config) = some (encodeConfig config)

/-- The operations of the commands that succeeded, one after the other. -/
inductive MapRuns : ProviderMap → List CommandRun → ProviderMap → Prop where
  | none (map : ProviderMap) : MapRuns map [] map
  | refused {run : CommandRun} {rest : List CommandRun} {map final : ProviderMap} {error : String}
      (failed : run.outcome = .error error) (further : MapRuns map rest final) :
      MapRuns map (run :: rest) final
  | applied {run : CommandRun} {rest : List CommandRun} {map later final : ProviderMap}
      {record : InstalledAsrProvider} (succeeded : run.outcome = .ok record)
      (stepped : MapStep json run.command run.trace map later)
      (further : MapRuns later rest final) : MapRuns map (run :: rest) final

end Maps

/-! ## Files during a run -/

variable {json : JsonText} {statePath : Path} {command : ProviderCommand}
  {trace : Trace providerStore} {before after : Option Bytes}

/-- A reading that agrees with the file. -/
def ReadsAs (file : Option Bytes) : Except ReadError Bytes → Prop
  | .ok raw => file = some raw
  | .error .notFound => file = none
  | .error (.other _) => True

theorem storeStep_unwritten {entry : Entry providerStore} (stepped : StoreStep before entry after)
    (unwritten : ∀ path bytes, entry.action ≠ .writeState path bytes) :
    after = before ∧ ∀ read ∈ readings [entry], ReadsAs before read := by
  obtain ⟨action, answer⟩ := entry
  cases action with
  | writeState path bytes => exact absurd rfl (unwritten path bytes)
  | readCatalog path => exact ⟨stepped, fun _ member => absurd member List.not_mem_nil⟩
  | createDirAll path => exact ⟨stepped, fun _ member => absurd member List.not_mem_nil⟩
  | nowUnixSecs => exact ⟨stepped, fun _ member => absurd member List.not_mem_nil⟩
  | readState path =>
    have single : ∀ read ∈ readings [(⟨.readState path, answer⟩ : Entry providerStore)],
        read = answer := fun _ member => List.mem_singleton.mp member
    cases answer with
    | ok raw =>
      refine ⟨stepped.1, fun read member => ?_⟩
      rw [single read member]
      exact stepped.2
    | error error =>
      cases error with
      | notFound =>
        refine ⟨stepped.1, fun read member => ?_⟩
        rw [single read member]
        exact stepped.2
      | other text =>
        refine ⟨stepped, fun read member => ?_⟩
        rw [single read member]
        trivial

/-- As long as the file is not written it stays what it was, and is read as that. -/
theorem performs_unwritten {α : Type} {code last : StoreCode α}
    (ran : Code.Performs StoreStep code before trace last after) (unwritten : Unwritten trace) :
    after = before ∧ ∀ read ∈ readings trace, ReadsAs before read := by
  induction ran with
  | stop code file => exact ⟨rfl, fun _ member => absurd member List.not_mem_nil⟩
  | @act action next answer first middle final trace last stepped rest ih =>
    obtain ⟨rfl, read⟩ := storeStep_unwritten stepped (unwritten _ List.mem_cons_self)
    obtain ⟨rfl, later⟩ := ih fun entry member => unwritten entry (List.mem_cons_of_mem _ member)
    refine ⟨rfl, fun reading member => ?_⟩
    have split : readings (⟨action, answer⟩ :: trace) =
        readings [(⟨action, answer⟩ : Entry providerStore)] ++ readings trace :=
      readings_append [(⟨action, answer⟩ : Entry providerStore)] trace
    rw [split] at member
    rcases List.mem_append.mp member with here | there
    · exact read reading here
    · exact later reading there

/-- A state that was loaded is what the file holds. -/
theorem parseState_contents {file : Option Bytes} {read : Except ReadError Bytes}
    {state : InstalledAsrProvidersConfig} (agrees : ReadsAs file read)
    (parsed : parseState json statePath read = .ok state) : read = contents file := by
  cases read with
  | ok raw =>
    rw [ReadsAs] at agrees
    rw [agrees, contents]
  | error error =>
    cases error with
    | notFound =>
      rw [ReadsAs] at agrees
      rw [agrees, contents]
    | other text => cases parsed

/-! ## States as maps -/

variable {state changed : InstalledAsrProvidersConfig} {map later : ProviderMap}
  {record : InstalledAsrProvider} {outcome : Except String InstalledAsrProvider}

theorem SortedIds.distinct (sorted : SortedIds state) :
    Keyed.Distinct InstalledAsrProvider.providerId state.providers := by
  rw [Keyed.Distinct, List.Nodup, List.pairwise_map]
  exact sorted.imp fun less => ne_of_lt less

theorem providerId_le {left right : InstalledAsrProvider}
    (ordered : (compareProviders left right).isLE = true) :
    left.providerId ≤ right.providerId := by
  rw [compareProviders, compareLex] at ordered
  cases compared : compareOn InstalledAsrProvider.providerId left right with
  | lt => exact (compare_lt_iff_lt.mp compared).le
  | eq => exact (compare_eq_iff_eq.mp compared).le
  | gt => rw [compared] at ordered; cases ordered

theorem sortedState_perm : (sortedState state).providers.Perm state.providers :=
  List.perm_insertionSort ..

instance : Std.TransCmp compareProviders := inferInstanceAs (Std.TransCmp (compareLex _ _))

/-- Distinct ids are in ascending order once the state is sorted. -/
theorem sortedState_sorted
    (distinct : Keyed.Distinct InstalledAsrProvider.providerId state.providers) :
    SortedIds (sortedState state) := by
  have total : Std.Total fun left right : InstalledAsrProvider =>
      (compareProviders left right).isLE = true := by
    constructor
    intro left right
    by_contra neither
    rw [not_or] at neither
    exact neither.2 (Ordering.isLE_of_eq_lt (Std.OrientedCmp.lt_of_not_isLE neither.1))
  have trans : IsTrans InstalledAsrProvider fun left right =>
      (compareProviders left right).isLE = true :=
    ⟨fun _ _ _ first second => Std.TransCmp.isLE_trans first second⟩
  have ordered := List.pairwise_insertionSort
    (fun left right : InstalledAsrProvider => (compareProviders left right).isLE = true)
    state.providers
  have apart : (sortedState state).providers.Pairwise fun left right =>
      left.providerId ≠ right.providerId := by
    have distinctToo :=
      (sortedState_perm.map InstalledAsrProvider.providerId).nodup_iff.mpr distinct
    exact List.pairwise_map.mp distinctToo
  exact (ordered.and apart).imp fun both => lt_of_le_of_ne (providerId_le both.1) both.2

theorem parseState_stateText {config : InstalledAsrProvidersConfig}
    (format : config.format = some asrProviderStateFormat)
    (reads : json.fromStr (stateText json config) = some (encodeConfig config)) :
    parseState json statePath (.ok (stateText json config)) = .ok config := by
  rw [parseState, reads, Option.bind_some, decodeConfig_encodeConfig]
  simp [format, validateFormat]

/-- What a saved state loads as. -/
theorem represents_saved
    (distinct : Keyed.Distinct InstalledAsrProvider.providerId changed.providers)
    (reads : json.fromStr (stateText json (sortedState changed)) =
      some (encodeConfig (sortedState changed))) :
    Represents json statePath (some (stateText json (sortedState changed))) (find changed) := by
  refine ⟨sortedState changed, parseState_stateText rfl reads, sortedState_sorted distinct, ?_⟩
  exact Keyed.lookup_perm distinct sortedState_perm

theorem setEnabled_step {providerId : String} {existing : InstalledAsrProvider} {enabled : Bool}
    (installed : find state providerId = some existing)
    (distinct : Keyed.Distinct InstalledAsrProvider.providerId state.providers) :
    (find state providerId ≠ none ∧
      find (changeFirst state providerId fun provider => { provider with enabled := enabled }) =
        ProviderMap.setEnabled (find state) providerId enabled) ∧
      Keyed.Distinct InstalledAsrProvider.providerId
        (changeFirst state providerId fun provider =>
          { provider with enabled := enabled }).providers := by
  have kept : ∀ item : InstalledAsrProvider, item.providerId = providerId →
      ({ item with enabled := enabled } : InstalledAsrProvider).providerId = providerId :=
    fun _ same => same
  refine ⟨⟨?_, ?_⟩, distinct.modifyFirst kept⟩
  · rw [installed]
    exact fun none => by cases none
  · rw [ProviderMap.setEnabled, installed]
    exact Keyed.lookup_modifyFirst kept installed

/-- A change of a state is an operation on its map. -/
theorem mapStep_of_changes (changes : Changes json command trace state changed record)
    (distinct : Keyed.Distinct InstalledAsrProvider.providerId state.providers) :
    MapStep json command trace (find state) (find changed) ∧
      Keyed.Distinct InstalledAsrProvider.providerId changed.providers := by
  cases command with
  | install catalogPath providerId enabledOverride =>
    obtain ⟨read, catalog, template, now, asked, parsed, listed, timed, rest⟩ := changes
    obtain rfl : template.providerId = providerId := (Keyed.lookup_mem listed).2
    cases installed : find state template.providerId with
    | none =>
      rw [installed] at rest
      obtain ⟨rfl, rfl⟩ := rest
      have absent : find state (template.toInstalled enabledOverride now).providerId = none :=
        installed
      refine ⟨⟨read, catalog, template, now, asked, parsed, listed, timed, ?_⟩,
        distinct.append absent⟩
      refine (Keyed.lookup_append absent).trans ?_
      unfold ProviderMap.install
      rw [installed]
      rfl
    | some existing =>
      rw [installed] at rest
      obtain ⟨since, known, rfl, rfl⟩ := rest
      have kept : ∀ item : InstalledAsrProvider, item.providerId = template.providerId →
          (template.reinstalled enabledOverride existing (some since) now).providerId =
            template.providerId := fun _ _ => rfl
      have updated := Keyed.lookup_modifyFirst kept installed
      refine ⟨?_, distinct.modifyFirst kept⟩
      rcases known with known | ⟨unknown, known⟩
      · refine ⟨read, catalog, template, now, asked, parsed, listed, timed, updated.trans ?_⟩
        unfold ProviderMap.install
        rw [installed, Option.bind_some, known]
        cases enabledOverride <;> rfl
      · refine ⟨read, catalog, template, since, asked, parsed, listed, known, updated.trans ?_⟩
        unfold ProviderMap.install
        rw [installed, Option.bind_some, unknown]
        cases enabledOverride <;> rfl
  | uninstall providerId =>
    obtain ⟨installed, rfl⟩ := changes
    refine ⟨⟨?_, Keyed.lookup_removeFirst distinct⟩, distinct.removeFirst⟩
    rw [installed]
    exact fun none => by cases none
  | enable providerId =>
    obtain ⟨existing, installed, rfl, rfl⟩ := changes
    exact setEnabled_step installed distinct
  | disable providerId =>
    obtain ⟨existing, installed, rfl, rfl⟩ := changes
    exact setEnabled_step installed distinct

/-! ## One command -/

/-- What a saved state is a change of. -/
theorem Prepared.represents (represents : Represents json statePath before map)
    (prepared : Prepared json statePath command trace changed record)
    (agrees : ∀ read ∈ readings trace, ReadsAs before read)
    (reads : json.fromStr (stateText json (sortedState changed)) =
      some (encodeConfig (sortedState changed))) :
    ∃ later, MapStep json command trace map later ∧
      Represents json statePath (some (stateText json (sortedState changed))) later := by
  obtain ⟨state, loaded, sorted, rfl⟩ := represents
  obtain ⟨read, found, once, parsed, changes⟩ := prepared.known
  have agreed : ReadsAs before read := agrees read (by rw [once]; exact List.mem_cons_self)
  obtain rfl := parseState_contents agreed parsed
  obtain rfl : state = found := Except.ok.inj (loaded.symm.trans parsed)
  obtain ⟨stepped, distinct⟩ := mapStep_of_changes changes sorted.distinct
  exact ⟨find changed, stepped, represents_saved distinct reads⟩

theorem MapStep.within {longer : Trace providerStore}
    (stepped : MapStep json command trace map later) (included : trace ⊆ longer) :
    MapStep json command longer map later := by
  cases command with
  | install catalogPath providerId enabledOverride =>
    obtain ⟨read, catalog, template, now, asked, parsed, listed, timed, rfl⟩ := stepped
    exact ⟨read, catalog, template, now, included asked, parsed, listed, included timed, rfl⟩
  | uninstall providerId => exact stepped
  | enable providerId => exact stepped
  | disable providerId => exact stepped

/-- A command applies its operation to the map, or leaves the file as it was. -/
theorem command_step (represents : Represents json statePath before map)
    (ran : Code.Performs StoreStep (command.run json statePath) before trace (.done outcome) after)
    (succeed : WritesSucceed trace) (reads : ReadsBack json statePath trace) :
    (∀ error, outcome = .error error → after = before) ∧
      ∀ record, outcome = .ok record → ∃ later, MapStep json command trace map later ∧
        Represents json statePath after later := by
  have ended := ran.ended (.unwritten (fun _ member => absurd member List.not_mem_nil)
    (Nat.zero_le 1)) (command_ensures json statePath command StoreStep before)
  rw [List.nil_append] at ended
  cases ended with
  | refused unwritten once error =>
    exact ⟨fun _ _ => (performs_unwritten ran unwritten).1, fun _ other => (by cases other)⟩
  | @failed earlier changed record prepared reason error =>
    exact absurd (List.mem_append_right earlier List.mem_cons_self) (succeed _ _ reason)
  | @saved earlier changed record prepared =>
    obtain ⟨middle, between, unwritten, written⟩ := ran.last_step
    obtain ⟨rfl, agrees⟩ := performs_unwritten unwritten prepared.unwritten
    obtain rfl : after = some (stateText json (sortedState changed)) := written
    obtain ⟨later, stepped, represents⟩ := prepared.represents represents agrees
      (reads _ _ (List.mem_append_right earlier List.mem_cons_self))
    refine ⟨fun _ other => (by cases other), fun _ _ => ?_⟩
    exact ⟨later, stepped.within (List.subset_append_left ..), represents⟩

/-! ## Whole runs -/

theorem represents_missing : Represents json statePath none ProviderMap.empty :=
  ⟨⟨some asrProviderStateFormat, []⟩, rfl, .nil, rfl⟩

theorem storeRuns_represent {runs : List CommandRun} {file final : Option Bytes}
    (ran : StoreRuns json statePath file runs final)
    (succeed : ∀ run ∈ runs, WritesSucceed run.trace)
    (reads : ∀ run ∈ runs, ReadsBack json statePath run.trace)
    (represents : Represents json statePath file map) :
    (∃ later, MapRuns json map runs later ∧ Represents json statePath final later) ∧
      ∀ run ∈ runs, ∀ error, run.outcome = .error error → run.after = run.before := by
  induction ran generalizing map with
  | none file =>
    exact ⟨⟨map, .none map, represents⟩, fun _ member => absurd member List.not_mem_nil⟩
  | @run run rest final ran further ih =>
    have stepped := command_step represents ran (succeed run List.mem_cons_self)
      (reads run List.mem_cons_self)
    have succeedRest := fun other member => succeed other (List.mem_cons_of_mem run member)
    have readsRest := fun other member => reads other (List.mem_cons_of_mem run member)
    cases ended : run.outcome with
    | error error =>
      have unchanged : run.after = run.before := stepped.1 error ended
      obtain ⟨⟨later, applied, reached⟩, kept⟩ :=
        ih succeedRest readsRest (unchanged ▸ represents)
      refine ⟨⟨later, .refused ended applied, reached⟩, ?_⟩
      intro other member failure failed
      rcases List.mem_cons.mp member with rfl | inRest
      · exact unchanged
      · exact kept other inRest failure failed
    | ok record =>
      obtain ⟨middle, step, represented⟩ := stepped.2 record ended
      obtain ⟨⟨later, applied, reached⟩, kept⟩ := ih succeedRest readsRest represented
      refine ⟨⟨later, .applied ended step applied, reached⟩, ?_⟩
      intro other member failure failed
      rcases List.mem_cons.mp member with rfl | inRest
      · rw [ended] at failed
        cases failed
      · exact kept other inRest failure failed

/-- From a missing file, commands whose writes succeed keep the state file equal to the finite map
of their operations, with distinct ids in order, and those that fail change nothing. -/
theorem store_refines_map {runs : List CommandRun} {file : Option Bytes}
    (ran : StoreRuns json statePath none runs file)
    (succeed : ∀ run ∈ runs, WritesSucceed run.trace)
    (reads : ∀ run ∈ runs, ReadsBack json statePath run.trace) :
    (∃ map, MapRuns json ProviderMap.empty runs map ∧ Represents json statePath file map) ∧
      ∀ run ∈ runs, ∀ error, run.outcome = .error error → run.after = run.before :=
  storeRuns_represent ran succeed reads represents_missing

/-! ## Known texts -/

/-- The bytes of a text. -/
def textBytes (text : String) : Bytes := text.toList.flatMap String.utf8EncodeChar

open Classical in
/-- A reader and writer that knows the texts of some values. -/
noncomputable def tabled (entries : List (Json × Bytes)) : JsonText where
  toStringPretty value := ((entries.find? fun entry => entry.1 = value).map Prod.snd).getD []
  fromStr raw := (entries.find? fun entry => raw = entry.2 ∨ raw = entry.2 ++ [10]).map Prod.fst

variable {entries : List (Json × Bytes)} {value : Json} {text : Bytes}

/-- The texts are distinct, not empty, and do not end with a newline. -/
structure Separate (entries : List (Json × Bytes)) : Prop where
  values : (entries.map Prod.fst).Nodup
  texts : (entries.map Prod.snd).Nodup
  nonempty : ∀ text ∈ entries.map Prod.snd, text ≠ []
  unfinished : ∀ text ∈ entries.map Prod.snd, text.getLast? ≠ some 10

theorem Separate.eq_of_text (separate : Separate entries) {entry other : Json × Bytes}
    (member : entry ∈ entries) (also : other ∈ entries) (same : entry.2 = other.2) :
    entry = other :=
  List.inj_on_of_nodup_map separate.texts member also same

theorem Separate.writes (separate : Separate entries) (known : (value, text) ∈ entries) :
    (tabled entries).toStringPretty value = text := by
  classical
  cases found : entries.find? fun entry => decide (entry.1 = value) with
  | none =>
    have absent := List.find?_eq_none.mp found (value, text) known
    simp at absent
  | some entry =>
    have same : entry.1 = value := by simpa using List.find?_some found
    have unique := List.inj_on_of_nodup_map separate.values (List.mem_of_find?_eq_some found) known
      same
    rw [tabled]
    simp only [found, unique, Option.map_some, Option.getD_some]

theorem Separate.reads (separate : Separate entries) {newline : Bytes}
    (ending : newline = [] ∨ newline = [10]) (known : (value, text) ∈ entries) :
    (tabled entries).fromStr (text ++ newline) = some value := by
  classical
  rw [tabled]
  dsimp only
  cases found : entries.find? fun entry =>
      decide (text ++ newline = entry.2 ∨ text ++ newline = entry.2 ++ [10]) with
  | none =>
    have absent := List.find?_eq_none.mp found (value, text) known
    rcases ending with rfl | rfl <;> simp at absent
  | some entry =>
    have member := List.mem_of_find?_eq_some found
    have matched : text ++ newline = entry.2 ∨ text ++ newline = entry.2 ++ [10] := by
      simpa using List.find?_some found
    have here : text ∈ entries.map Prod.snd := List.mem_map_of_mem (f := Prod.snd) known
    have there : entry.2 ∈ entries.map Prod.snd := List.mem_map_of_mem member
    have same : text = entry.2 := by
      rcases ending with rfl | rfl
      · rcases matched with same | longer
        · simpa using same
        · exfalso
          apply separate.unfinished text here
          rw [List.append_nil] at longer
          rw [longer, List.getLast?_append]
          rfl
      · rcases matched with longer | same
        · exfalso
          apply separate.unfinished entry.2 there
          rw [← longer, List.getLast?_append]
          rfl
        · exact List.append_cancel_right same
    obtain rfl := separate.eq_of_text known member same
    rfl

/-- Only one state has a known text. -/
theorem Separate.config_unique (separate : Separate entries)
    {config other : InstalledAsrProvidersConfig} (known : (encodeConfig config, text) ∈ entries)
    (same : stateText (tabled entries) other = text ++ [10]) : other = config := by
  classical
  have written : (tabled entries).toStringPretty (encodeConfig other) = text :=
    List.append_cancel_right same
  cases found : entries.find? fun entry => decide (entry.1 = encodeConfig other) with
  | none =>
    rw [tabled] at written
    simp only [found, Option.map_none, Option.getD_none] at written
    exact absurd written.symm
      (separate.nonempty text (List.mem_map_of_mem (f := Prod.snd) known))
  | some entry =>
    have value : entry.1 = encodeConfig other := by simpa using List.find?_some found
    have listed := List.mem_of_find?_eq_some found
    have also : (tabled entries).toStringPretty entry.1 = entry.2 := separate.writes listed
    rw [value, written] at also
    obtain rfl := separate.eq_of_text known listed also
    have decoded := congrArg decodeConfig value
    rw [decodeConfig_encodeConfig, decodeConfig_encodeConfig] at decoded
    exact (Option.some.inj decoded).symm

/-- A part of a known text is not read when no known text begins another one. -/
theorem tabled_cut {part : Bytes}
    (prefixFree : ∀ text ∈ entries.map Prod.snd, ∀ other ∈ entries.map Prod.snd,
      text <+: other → text = other)
    (known : (value, text) ∈ entries) (shorter : part <+: text) (proper : part ≠ text) :
    (tabled entries).fromStr part = none := by
  classical
  have here : text ∈ entries.map Prod.snd := List.mem_map_of_mem (f := Prod.snd) known
  have absent : (entries.find? fun entry =>
      decide (part = entry.2 ∨ part = entry.2 ++ [10])) = none := by
    rw [List.find?_eq_none]
    intro entry member matched
    have there : entry.2 ∈ entries.map Prod.snd := List.mem_map_of_mem member
    rcases of_decide_eq_true matched with rfl | rfl
    · exact proper (prefixFree _ there text here shorter)
    · have same := prefixFree _ there text here ((List.prefix_append ..).trans shorter)
      have longer := shorter.length_le
      rw [same, List.length_append] at longer
      exact absurd longer (Nat.not_succ_le_self _)
  rw [tabled]
  simp only [absent, Option.map_none]

/-- Whatever is written reads back, unless it is not known. -/
theorem Separate.readsBack (separate : Separate entries) {statePath : Path}
    {trace : Trace providerStore}
    (known : ∀ path bytes answer, (⟨.writeState path bytes, answer⟩ : Entry providerStore) ∈ trace →
      bytes ≠ [10]) : ReadsBack (tabled entries) statePath trace := by
  classical
  intro config answer member
  have some : (tabled entries).toStringPretty (encodeConfig config) ≠ [] := by
    intro empty
    apply known _ _ _ member
    rw [stateText, empty]
    rfl
  cases found : entries.find? fun entry => decide (entry.1 = encodeConfig config) with
  | none =>
    apply absurd _ some
    rw [tabled]
    simp only [found, Option.map_none, Option.getD_none]
  | some entry =>
    obtain ⟨value, text⟩ := entry
    obtain rfl : value = encodeConfig config := by simpa using List.find?_some found
    have listed := List.mem_of_find?_eq_some found
    rw [stateText, separate.writes listed]
    exact separate.reads (.inr rfl) listed

/-! ## Installing and removing a provider -/

def providersJson : Path := ⟨[.normal (.utf8 "providers.json")]⟩

def catalogJson : Path := ⟨[.normal (.utf8 "catalog.json")]⟩

def mockTemplate : CatalogAsrProvider := ⟨"mock.asr", none, none, true, {}, .mock⟩

/-- A state with the mock provider, installed at a time. -/
def mockState (since : UInt64) : InstalledAsrProvidersConfig :=
  ⟨some asrProviderStateFormat, [mockTemplate.toInstalled none since]⟩

def emptyState : InstalledAsrProvidersConfig := ⟨some asrProviderStateFormat, []⟩

def mockCatalog : Json :=
  .object [("providers", .array
    [.object [("provider_id", .string "mock.asr"), ("bridge_mode", .string "mock")]])]

def mockCatalogText : Bytes :=
  textBytes "\x7b" ++ (textBytes "\"" ++
    textBytes "providers\":[\x7b\"provider_id\":\"mock.asr\",\"bridge_mode\":\"mock\"\x7d]" ++
    textBytes "\x7d")

/-- The text of a state up to its first provider. -/
def stateHead : Bytes :=
  textBytes "\x7b" ++ (textBytes "\n" ++
    textBytes "  \"format\": \"speechmesh/asr-provider-state.v1\",\n  \"providers\": [")

def mockStateText : Bytes :=
  stateHead ++ (textBytes "\n" ++ textBytes ("    \x7b\n      \"provider_id\": \"mock.asr\",\n" ++
    "      \"enabled\": true,\n      \"installed_at_unix_secs\": 1700000000,\n" ++
    "      \"bridge_mode\": \"mock\"\n    \x7d\n  ]\n") ++ textBytes "\x7d")

def emptyStateText : Bytes := stateHead ++ (textBytes "]" ++ textBytes "\n" ++ textBytes "\x7d")

theorem utf8_quote : textBytes "\"" = [34] := by decide

theorem utf8_newline : textBytes "\n" = [10] := by decide

theorem utf8_bracket : textBytes "]" = [93] := by decide

theorem utf8_brace : textBytes "\x7d" = [125] := by decide

/-- The texts of the catalog and of the two states. -/
def mockEntries : List (Json × Bytes) :=
  [(mockCatalog, mockCatalogText), (encodeConfig (mockState 1700000000), mockStateText),
    (encodeConfig emptyState, emptyStateText)]

theorem mockEntries_separate : Separate mockEntries where
  values := by
    have first : mockCatalog ≠ encodeConfig (mockState 1700000000) := by
      simp [mockCatalog, mockState, encodeConfig, Serde.optional]
    have second : mockCatalog ≠ encodeConfig emptyState := by
      simp [mockCatalog, emptyState, encodeConfig, Serde.optional]
    have third : encodeConfig (mockState 1700000000) ≠ encodeConfig emptyState := by
      simp [mockState, emptyState, encodeConfig, Serde.optional]
    simp [mockEntries, first, second, third]
  texts := by
    simp [mockEntries, mockCatalogText, mockStateText, emptyStateText, stateHead, utf8_quote,
      utf8_newline, utf8_bracket]
  nonempty := by
    simp [mockEntries, mockCatalogText, mockStateText, emptyStateText, utf8_brace]
  unfinished := by
    simp [mockEntries, mockCatalogText, mockStateText, emptyStateText, utf8_brace,
      ← List.append_assoc]

theorem mockEntries_state :
    (encodeConfig (mockState 1700000000), mockStateText) ∈ mockEntries :=
  List.mem_cons_of_mem _ List.mem_cons_self

theorem mockEntries_empty : (encodeConfig emptyState, emptyStateText) ∈ mockEntries :=
  List.mem_cons_of_mem _ (List.mem_cons_of_mem _ List.mem_cons_self)

theorem mockState_text : stateText (tabled mockEntries) (mockState 1700000000) =
    mockStateText ++ [10] := by
  rw [stateText, mockEntries_separate.writes mockEntries_state]

theorem emptyState_text : stateText (tabled mockEntries) emptyState = emptyStateText ++ [10] := by
  rw [stateText, mockEntries_separate.writes mockEntries_empty]

theorem mockState_loads : parseState (tabled mockEntries) providersJson
    (contents (some (stateText (tabled mockEntries) (mockState 1700000000)))) =
      .ok (mockState 1700000000) := by
  apply parseState_stateText rfl
  rw [mockState_text]
  exact mockEntries_separate.reads (.inr rfl) mockEntries_state

theorem mockCatalog_loads : parseCatalog (tabled mockEntries) catalogJson (.ok mockCatalogText) =
    .ok ⟨none, [mockTemplate]⟩ := by
  have reads := mockEntries_separate.reads (.inl rfl)
    (show (mockCatalog, mockCatalogText) ∈ mockEntries from List.mem_cons_self)
  have decoded : decodeCatalog mockCatalog = some ⟨none, [mockTemplate]⟩ := by decide
  rw [List.append_nil] at reads
  rw [parseCatalog, reads, Option.bind_some, decoded]
  rfl

theorem mockState_removed : withoutFirst (mockState 1700000000) "mock.asr" = emptyState := by
  have removed : Keyed.removeFirst InstalledAsrProvider.providerId "mock.asr"
      [mockTemplate.toInstalled none 1700000000] = [] := if_pos rfl
  rw [withoutFirst, mockState, removed]
  rfl

/-- Installing the mock provider without a state file. -/
noncomputable def mockInstalling : CommandRun where
  command := .install catalogJson "mock.asr" none
  trace := [⟨.readCatalog catalogJson, .ok mockCatalogText⟩,
    ⟨.readState providersJson, .error .notFound⟩, ⟨.nowUnixSecs, (1700000000 : UInt64)⟩,
    ⟨.createDirAll ⟨[]⟩, .ok ()⟩,
    saving (tabled mockEntries) providersJson (mockState 1700000000) (.ok ())]
  outcome := .ok (mockTemplate.toInstalled none 1700000000)
  before := none
  after := some (stateText (tabled mockEntries) (mockState 1700000000))

/-- Removing the mock provider again. -/
noncomputable def mockRemoving : CommandRun where
  command := .uninstall "mock.asr"
  trace := [⟨.readState providersJson, contents mockInstalling.after⟩,
    ⟨.createDirAll ⟨[]⟩, .ok ()⟩, saving (tabled mockEntries) providersJson emptyState (.ok ())]
  outcome := .ok (mockTemplate.toInstalled none 1700000000)
  before := mockInstalling.after
  after := some (stateText (tabled mockEntries) emptyState)

theorem mock_runs : StoreRuns (tabled mockEntries) providersJson none
    [mockInstalling, mockRemoving] mockRemoving.after := by
  have listed : Keyed.lookup CatalogAsrProvider.providerId [mockTemplate] "mock.asr" =
      some mockTemplate := Keyed.lookup_cons_self rfl
  have installed : find (mockState 1700000000) "mock.asr" =
      some (mockTemplate.toInstalled none 1700000000) := Keyed.lookup_cons_self rfl
  have loaded : parseState (tabled mockEntries) providersJson (contents none) = .ok emptyState :=
    rfl
  have absent : find emptyState "mock.asr" = none := rfl
  have installing := install_succeeds none 1700000000 mockCatalog_loads listed loaded absent
  have removing := uninstall_performs "mock.asr" mockState_loads installed
    (saveThen_performs (tabled mockEntries) providersJson _ _ _)
  rw [mockState_removed] at removing
  change StoreRuns _ _ mockInstalling.before _ _
  apply StoreRuns.run
  · exact installing
  · change StoreRuns _ _ mockRemoving.before _ _
    apply StoreRuns.run
    · exact removing
    · exact .none _

theorem mock_written {path : Path} {bytes : Bytes} {answer : Except String Unit} {run : CommandRun}
    (member : run ∈ [mockInstalling, mockRemoving])
    (wrote : (⟨.writeState path bytes, answer⟩ : Entry providerStore) ∈ run.trace) :
    answer = .ok () ∧ bytes ≠ [10] := by
  have texts : mockStateText ≠ [] ∧ emptyStateText ≠ [] := by
    constructor
    · exact mockEntries_separate.nonempty _ (List.mem_map_of_mem (f := Prod.snd) mockEntries_state)
    · exact mockEntries_separate.nonempty _ (List.mem_map_of_mem (f := Prod.snd) mockEntries_empty)
  rcases List.mem_cons.mp member with rfl | member
  · simp only [mockInstalling, saving, List.mem_cons, List.not_mem_nil, or_false] at wrote
    rcases wrote with wrote | wrote | wrote | wrote | wrote <;> cases wrote
    refine ⟨rfl, fun same => texts.1 ?_⟩
    exact List.append_cancel_right (mockState_text.symm.trans same)
  · obtain rfl := List.mem_singleton.mp member
    simp only [mockRemoving, saving, List.mem_cons, List.not_mem_nil, or_false] at wrote
    rcases wrote with wrote | wrote | wrote <;> cases wrote
    refine ⟨rfl, fun same => texts.2 ?_⟩
    exact List.append_cancel_right (emptyState_text.symm.trans same)

theorem mock_installed_and_removed :
    (∃ map, MapRuns (tabled mockEntries) ProviderMap.empty [mockInstalling, mockRemoving] map ∧
      Represents (tabled mockEntries) providersJson mockRemoving.after map) ∧
    ∀ run ∈ [mockInstalling, mockRemoving], ∀ error, run.outcome = .error error →
      run.after = run.before := by
  apply store_refines_map mock_runs
  · intro run member path bytes error wrote
    have succeeded := (mock_written member wrote).1
    cases succeeded
  · intro run member
    apply mockEntries_separate.readsBack
    exact fun path bytes answer wrote => (mock_written member wrote).2

end SpeechMesh.Soundness
