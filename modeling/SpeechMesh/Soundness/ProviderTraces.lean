import SpeechMesh.Model.ProviderCommands

/-! # What a provider command does to the state file

A command reads the state file at most once, computes a new state from what it read, and writes the
file at most once, as its last action.
-/

namespace SpeechMesh.Soundness

open Async Model.ProviderStore
open Model (Bytes Path)

variable (json : JsonText) (statePath : Path)

/-! ## Changes -/

/-- The command turns a state into another one, with what it was told before. -/
def Changes (command : ProviderCommand) (trace : Trace providerStore)
    (state changed : InstalledAsrProvidersConfig) (record : InstalledAsrProvider) : Prop :=
  match command with
  | .install catalogPath providerId enabledOverride =>
      ∃ read catalog template now,
        (⟨.readCatalog catalogPath, read⟩ : Entry providerStore) ∈ trace ∧
        parseCatalog json catalogPath read = .ok catalog ∧
        Keyed.lookup CatalogAsrProvider.providerId catalog.providers providerId = some template ∧
        (⟨.nowUnixSecs, now⟩ : Entry providerStore) ∈ trace ∧
        match find state providerId with
        | some existing => ∃ since,
            (existing.installedAtUnixSecs = some since ∨ existing.installedAtUnixSecs = none ∧
              (⟨.nowUnixSecs, since⟩ : Entry providerStore) ∈ trace) ∧
            record = template.reinstalled enabledOverride existing (some since) now ∧
            changed = changeFirst state providerId fun _ => record
        | none =>
            record = template.toInstalled enabledOverride now ∧ changed = withProvider state record
  | .uninstall providerId =>
      find state providerId = some record ∧ changed = withoutFirst state providerId
  | .enable providerId => ∃ existing, find state providerId = some existing ∧
      record = { existing with enabled := true } ∧
      changed = changeFirst state providerId fun provider => { provider with enabled := true }
  | .disable providerId => ∃ existing, find state providerId = some existing ∧
      record = { existing with enabled := false } ∧
      changed = changeFirst state providerId fun provider => { provider with enabled := false }

/-! ## Traces -/

/-- The state file was not written. -/
def Unwritten (trace : Trace providerStore) : Prop :=
  ∀ entry ∈ trace, ∀ path bytes, entry.action ≠ .writeState path bytes

/-- What the state file was read as, each time. -/
def readings (trace : Trace providerStore) : List (Except ReadError Bytes) :=
  trace.filterMap fun entry =>
    match entry with
    | ⟨.readState _, read⟩ => some read
    | _ => none

/-- The command has read the state file once and knows what to write. -/
structure Prepared (command : ProviderCommand) (trace : Trace providerStore)
    (changed : InstalledAsrProvidersConfig) (record : InstalledAsrProvider) : Prop where
  unwritten : Unwritten trace
  known : ∃ read state, readings trace = [read] ∧ parseState json statePath read = .ok state ∧
    Changes json command trace state changed record

/-- The write of a changed state. -/
def saving (changed : InstalledAsrProvidersConfig) (answer : Except String Unit) :
    Entry providerStore :=
  ⟨.writeState statePath (stateText json (sortedState changed)), answer⟩

/-- What a command may have done at any moment. -/
inductive CommandTrace (command : ProviderCommand) : Trace providerStore → Prop where
  | unwritten {trace : Trace providerStore} (unwritten : Unwritten trace)
      (once : (readings trace).length ≤ 1) : CommandTrace command trace
  | wrote {trace : Trace providerStore} {changed : InstalledAsrProvidersConfig}
      {record : InstalledAsrProvider}
      (prepared : Prepared json statePath command trace changed record)
      (answer : Except String Unit) :
      CommandTrace command (trace ++ [saving json statePath changed answer])

/-- What a command has done at its end. -/
inductive CommandEnded (command : ProviderCommand) :
    Except String InstalledAsrProvider → Trace providerStore → Prop where
  | refused {trace : Trace providerStore} (unwritten : Unwritten trace)
      (once : (readings trace).length ≤ 1) (error : String) :
      CommandEnded command (.error error) trace
  | failed {trace : Trace providerStore} {changed : InstalledAsrProvidersConfig}
      {record : InstalledAsrProvider}
      (prepared : Prepared json statePath command trace changed record)
      (reason error : String) :
      CommandEnded command (.error error)
        (trace ++ [saving json statePath changed (.error reason)])
  | saved {trace : Trace providerStore} {changed : InstalledAsrProvidersConfig}
      {record : InstalledAsrProvider}
      (prepared : Prepared json statePath command trace changed record) :
      CommandEnded command (.ok record) (trace ++ [saving json statePath changed (.ok ())])

variable {json} {statePath} {command : ProviderCommand} {trace : Trace providerStore}
  {changed : InstalledAsrProvidersConfig} {record : InstalledAsrProvider}

/-- An action that is neither a read nor a write of the state file. -/
def SideAction (action : StoreAction) : Prop :=
  (∀ path, action ≠ .readState path) ∧ ∀ path bytes, action ≠ .writeState path bytes

theorem Unwritten.snoc (unwritten : Unwritten trace) (action : StoreAction)
    (apart : ∀ path bytes, action ≠ .writeState path bytes) (answer : action.Answer) :
    Unwritten (trace ++ [(⟨action, answer⟩ : Entry providerStore)]) := by
  intro entry member
  rcases List.mem_append.mp member with earlier | last
  · exact unwritten entry earlier
  · obtain rfl := List.mem_singleton.mp last
    exact apart

theorem readings_append (first second : Trace providerStore) :
    readings (first ++ second) = readings first ++ readings second :=
  List.filterMap_append ..

theorem readings_snoc_read (path : Path) (read : Except ReadError Bytes) :
    readings (trace ++ [(⟨.readState path, read⟩ : Entry providerStore)]) =
      readings trace ++ [read] :=
  readings_append ..

theorem readings_snoc_aside {action : StoreAction} (apart : ∀ path, action ≠ .readState path)
    (answer : action.Answer) :
    readings (trace ++ [(⟨action, answer⟩ : Entry providerStore)]) = readings trace := by
  have none : readings [(⟨action, answer⟩ : Entry providerStore)] = [] := by
    cases action with
    | readState path => exact absurd rfl (apart path)
    | readCatalog path => rfl
    | createDirAll path => rfl
    | writeState path bytes => rfl
    | nowUnixSecs => rfl
  rw [readings_append, none, List.append_nil]

theorem Changes.later {state : InstalledAsrProvidersConfig} {later : Trace providerStore}
    (changes : Changes json command trace state changed record) (included : trace ⊆ later) :
    Changes json command later state changed record := by
  cases command with
  | install catalogPath providerId enabledOverride =>
    obtain ⟨read, catalog, template, now, asked, parsed, found, timed, rest⟩ := changes
    refine ⟨read, catalog, template, now, included asked, parsed, found, included timed, ?_⟩
    cases installed : find state providerId with
    | none =>
      rw [installed] at rest
      exact rest
    | some existing =>
      rw [installed] at rest
      obtain ⟨since, known, rest⟩ := rest
      exact ⟨since, known.imp id fun unknown => ⟨unknown.1, included unknown.2⟩, rest⟩
  | uninstall providerId => exact changes
  | enable providerId => exact changes
  | disable providerId => exact changes

theorem Prepared.snoc (prepared : Prepared json statePath command trace changed record)
    {action : StoreAction} (apart : SideAction action) (answer : action.Answer) :
    Prepared json statePath command (trace ++ [(⟨action, answer⟩ : Entry providerStore)]) changed
      record := by
  obtain ⟨read, state, once, parsed, changes⟩ := prepared.known
  refine ⟨prepared.unwritten.snoc action apart.2 answer, read, state, ?_, parsed, ?_⟩
  · rw [readings_snoc_aside apart.1, once]
  · exact changes.later (List.subset_append_left ..)

theorem Prepared.once (prepared : Prepared json statePath command trace changed record) :
    (readings trace).length ≤ 1 := by
  obtain ⟨read, _, once, _⟩ := prepared.known
  rw [once]
  exact le_rfl

/-! ## Running a command -/

variable {σ α : Type} {step : σ → Entry providerStore → σ → Prop} {state : σ}

/-- An action that is no write keeps the trace without one. -/
theorem ask_unwritten {action : StoreAction} (unwritten : Unwritten trace)
    (apart : ∀ path bytes, action ≠ .writeState path bytes)
    (once : ∀ answer : action.Answer,
      (readings (trace ++ [(⟨action, answer⟩ : Entry providerStore)])).length ≤ 1) :
    (askStore action).Ensures step (fun trace _ => CommandTrace json statePath command trace)
      (fun answer later _ => later = trace ++ [(⟨action, answer⟩ : Entry providerStore)])
      trace state := by
  intro answer after _
  exact ⟨.unwritten (unwritten.snoc action apart answer) (once answer), rfl⟩

theorem ask_aside {action : StoreAction} (unwritten : Unwritten trace)
    (once : (readings trace).length ≤ 1) (apart : SideAction action) :
    (askStore action).Ensures step (fun trace _ => CommandTrace json statePath command trace)
      (fun answer later _ => later = trace ++ [(⟨action, answer⟩ : Entry providerStore)])
      trace state := by
  apply ask_unwritten unwritten apart.2
  intro answer
  rw [readings_snoc_aside apart.1]
  exact once

theorem createParent_ensures (prepared : Prepared json statePath command trace changed record) :
    (createParent statePath).Ensures step
      (fun trace _ => CommandTrace json statePath command trace)
      (fun _ later _ => Prepared json statePath command later changed record) trace state := by
  rw [createParent]
  cases statePath.parent with
  | none => exact prepared
  | some parent =>
    have apart : SideAction (.createDirAll parent) :=
      ⟨fun _ same => (by cases same), fun _ _ same => (by cases same)⟩
    apply (ask_aside prepared.unwritten prepared.once apart).bind
    rintro created later after rfl
    cases created with
    | error error => exact prepared.snoc apart _
    | ok _ => exact prepared.snoc apart _

/-- Saving a state is the last thing a command does. -/
theorem saveThen_ensures (prepared : Prepared json statePath command trace changed record)
    {result : α} {project : α → InstalledAsrProvider} (about : project result = record) :
    (saveThen json statePath changed result).Ensures step
      (fun trace _ => CommandTrace json statePath command trace)
      (fun outcome later _ => CommandEnded json statePath command (outcome.map project) later)
      trace state := by
  rw [saveThen, saveAsrProviderState, writeJson, Code.ensures_bind, Code.ensures_bind]
  apply (createParent_ensures prepared).mono (fun _ _ kept => kept)
  intro created later after prepared
  cases created with
  | error error => exact .refused prepared.unwritten prepared.once error
  | ok _ =>
    intro answer further _
    refine ⟨.wrote prepared answer, ?_⟩
    cases answer with
    | error reason => exact .failed prepared reason _
    | ok _ =>
      subst about
      exact .saved prepared

theorem loadCatalog_ensures {catalogPath : Path} :
    (loadAsrProviderCatalog json catalogPath).Ensures step
      (fun trace _ => CommandTrace json statePath command trace)
      (fun result later _ => ∃ read, Unwritten later ∧ readings later = [] ∧
        (⟨.readCatalog catalogPath, read⟩ : Entry providerStore) ∈ later ∧
        result = parseCatalog json catalogPath read) [] state := by
  intro (read : Except ReadError Bytes) after _
  have nothing : Unwritten [] := fun _ member => absurd member List.not_mem_nil
  have kept : Unwritten ([] ++ [(⟨.readCatalog catalogPath, read⟩ : Entry providerStore)]) :=
    nothing.snoc (.readCatalog catalogPath) (fun _ _ same => by cases same) read
  exact ⟨.unwritten kept (Nat.zero_le 1), read, kept, rfl, List.mem_cons_self, rfl⟩

theorem load_ensures (unwritten : Unwritten trace) (unread : readings trace = []) :
    (loadAsrProviderStateOrDefault json statePath).Ensures step
      (fun trace _ => CommandTrace json statePath command trace)
      (fun result later _ => ∃ read, Unwritten later ∧ trace ⊆ later ∧ readings later = [read] ∧
        result = parseState json statePath read) trace state := by
  intro (read : Except ReadError Bytes) after _
  have once : readings (trace ++ [(⟨.readState statePath, read⟩ : Entry providerStore)]) =
      [read] := by
    rw [readings_snoc_read, unread]
    rfl
  have kept : Unwritten (trace ++ [(⟨.readState statePath, read⟩ : Entry providerStore)]) :=
    unwritten.snoc (.readState statePath) (fun _ _ same => by cases same) read
  exact ⟨.unwritten kept (by rw [once]; exact le_rfl), read, kept, List.subset_append_left .., once,
    rfl⟩

theorem withInstalled_ensures {providerId : String}
    {change : InstalledAsrProvidersConfig → InstalledAsrProvider → InstalledAsrProvidersConfig}
    {result : InstalledAsrProvider → α} {project : α → InstalledAsrProvider}
    (changes : ∀ trace state record, find state providerId = some record →
      Changes json command trace state (change state record) (project (result record))) :
    (withInstalled json statePath providerId fun state provider =>
      saveThen json statePath (change state provider) (result provider)).Ensures step
      (fun trace _ => CommandTrace json statePath command trace)
      (fun outcome later _ => CommandEnded json statePath command (outcome.map project) later)
      [] state := by
  rw [withInstalled]
  apply (load_ensures (fun _ member => absurd member List.not_mem_nil) rfl).bind
  rintro loaded later after ⟨read, unwritten, -, once, rfl⟩
  have length : (readings later).length ≤ 1 := by rw [once]; exact le_rfl
  cases parsed : parseState json statePath read with
  | error error => exact .refused unwritten length error
  | ok state =>
    dsimp only
    cases installed : find state providerId with
    | none => exact .refused unwritten length _
    | some provider =>
      exact saveThen_ensures
        ⟨unwritten, read, state, once, parsed, changes later state provider installed⟩ rfl

theorem installedAt_ensures {existing : InstalledAsrProvider} (unwritten : Unwritten trace)
    (once : (readings trace).length ≤ 1) :
    (installedAt existing).Ensures step (fun trace _ => CommandTrace json statePath command trace)
      (fun since later _ => Unwritten later ∧ trace ⊆ later ∧ readings later = readings trace ∧
        ∃ secs, since = some secs ∧ (existing.installedAtUnixSecs = some secs ∨
          existing.installedAtUnixSecs = none ∧
            (⟨.nowUnixSecs, secs⟩ : Entry providerStore) ∈ later)) trace state := by
  rw [installedAt]
  cases known : existing.installedAtUnixSecs with
  | some secs => exact ⟨unwritten, List.Subset.refl trace, rfl, secs, rfl, .inl rfl⟩
  | none =>
    have apart : SideAction .nowUnixSecs :=
      ⟨fun _ same => (by cases same), fun _ _ same => (by cases same)⟩
    apply (ask_aside unwritten once apart).bind
    rintro now later after rfl
    refine ⟨unwritten.snoc .nowUnixSecs apart.2 now, List.subset_append_left ..,
      readings_snoc_aside apart.1 now, now, rfl, .inr ⟨rfl, ?_⟩⟩
    exact List.mem_append_right trace List.mem_cons_self

/-- Installing from a template that was found in a catalog. -/
theorem installTemplate_ensures {catalogPath : Path} {providerId : String}
    {enabledOverride : Option Bool} {read : Except ReadError Bytes} {catalog : AsrProviderCatalog}
    {template : CatalogAsrProvider} {loaded : Except ReadError Bytes}
    {installed : InstalledAsrProvidersConfig}
    (asked : (⟨.readCatalog catalogPath, read⟩ : Entry providerStore) ∈ trace)
    (decoded : parseCatalog json catalogPath read = .ok catalog)
    (listed : Keyed.lookup CatalogAsrProvider.providerId catalog.providers providerId =
      some template) (unwritten : Unwritten trace) (once : readings trace = [loaded])
    (parsed : parseState json statePath loaded = .ok installed) :
    (installTemplate json statePath template providerId enabledOverride installed).Ensures step
      (fun trace _ => CommandTrace json statePath
        (.install catalogPath providerId enabledOverride) trace)
      (fun outcome later _ => CommandEnded json statePath
        (.install catalogPath providerId enabledOverride) (outcome.map Prod.snd) later)
      trace state := by
  have apart : SideAction .nowUnixSecs :=
    ⟨fun _ same => (by cases same), fun _ _ same => (by cases same)⟩
  have length : (readings trace).length ≤ 1 := by rw [once]; exact le_rfl
  rw [installTemplate]
  cases present : find installed providerId with
  | some existing =>
    apply (installedAt_ensures unwritten length).bind
    rintro _ later after ⟨kept, included, same, since, rfl, known⟩
    apply (ask_aside kept (by rw [same]; exact length) apart).bind
    rintro now further after rfl
    have silent := kept.snoc .nowUnixSecs apart.2 now
    apply saveThen_ensures ⟨silent, loaded, installed, ?_, parsed, ?_⟩ rfl
    · rw [readings_snoc_aside apart.1, same, once]
    · refine ⟨read, catalog, template, now, ?_, decoded, listed, ?_, ?_⟩
      · exact List.mem_append_left _ (included asked)
      · exact List.mem_append_right later List.mem_cons_self
      · rw [present]
        refine ⟨since, known.imp id fun unknown => ⟨unknown.1, ?_⟩, rfl, rfl⟩
        exact List.mem_append_left _ unknown.2
  | none =>
    apply (ask_aside unwritten length apart).bind
    rintro now later after rfl
    have kept := unwritten.snoc .nowUnixSecs apart.2 now
    apply saveThen_ensures ⟨kept, loaded, installed, ?_, parsed, ?_⟩ rfl
    · rw [readings_snoc_aside apart.1, once]
    · refine ⟨read, catalog, template, now, ?_, decoded, listed, ?_, ?_⟩
      · exact List.mem_append_left _ asked
      · exact List.mem_append_right trace List.mem_cons_self
      · rw [present]
        exact ⟨rfl, rfl⟩

theorem installAsrProvider_ensures {catalogPath : Path} {providerId : String}
    {enabledOverride : Option Bool} :
    (installAsrProvider json statePath catalogPath providerId enabledOverride).Ensures step
      (fun trace _ => CommandTrace json statePath
        (.install catalogPath providerId enabledOverride) trace)
      (fun outcome later _ => CommandEnded json statePath
        (.install catalogPath providerId enabledOverride) (outcome.map Prod.snd) later)
      [] state := by
  rw [installAsrProvider]
  apply loadCatalog_ensures.bind
  rintro result later after ⟨read, kept, unread, asked, rfl⟩
  have never : (readings later).length ≤ 1 := by rw [unread]; exact Nat.zero_le 1
  cases decoded : parseCatalog json catalogPath read with
  | error error => exact .refused kept never error
  | ok catalog =>
    dsimp only
    cases listed : Keyed.lookup CatalogAsrProvider.providerId catalog.providers providerId with
    | none => exact .refused kept never _
    | some template =>
      apply (load_ensures kept unread).bind
      rintro loaded further after ⟨stored, unwritten, included, once, rfl⟩
      cases parsed : parseState json statePath stored with
      | error error => exact .refused unwritten (by rw [once]; exact le_rfl) error
      | ok installed =>
        exact installTemplate_ensures (included asked) decoded listed unwritten once parsed

/-- A command reads and writes the state file once at most, and what it writes is its change of what
it read. -/
theorem command_ensures (json : JsonText) (statePath : Path) (command : ProviderCommand)
    (step : σ → Entry providerStore → σ → Prop) (state : σ) :
    (command.run json statePath).Ensures step
      (fun trace _ => CommandTrace json statePath command trace)
      (fun outcome trace _ => CommandEnded json statePath command outcome trace) [] state := by
  cases command with
  | install catalogPath providerId enabledOverride =>
    exact installAsrProvider_ensures.bind fun _ _ _ ended => ended
  | uninstall providerId =>
    apply (withInstalled_ensures ?_).mono (fun _ _ kept => kept)
    · intro outcome trace _ ended
      cases outcome <;> exact ended
    · exact fun trace state record installed => ⟨installed, rfl⟩
  | enable providerId =>
    refine Code.Ensures.bind (withInstalled_ensures ?_) fun _ _ _ ended => ended
    exact fun trace state record installed => ⟨record, installed, rfl, rfl⟩
  | disable providerId =>
    refine Code.Ensures.bind (withInstalled_ensures ?_) fun _ _ _ ended => ended
    exact fun trace state record installed => ⟨record, installed, rfl, rfl⟩

/-! ## Commands whose operations succeed -/

/-- What reading a file comes to when nothing fails. -/
def contents : Option Bytes → Except ReadError Bytes
  | none => .error .notFound
  | some raw => .ok raw

/-- The directory of the state file is made. -/
def creating (statePath : Path) : Trace providerStore :=
  match statePath.parent with
  | none => []
  | some parent => [⟨.createDirAll parent, .ok ()⟩]

variable {file : Option Bytes} {loaded : InstalledAsrProvidersConfig}

theorem createParent_performs (statePath : Path) (file : Option Bytes) :
    Code.Performs StoreStep (createParent statePath) file (creating statePath)
      (.done (.ok ())) file := by
  rw [createParent, creating]
  cases statePath.parent with
  | none => exact .stop _ file
  | some parent => exact .act rfl (.stop _ file)

theorem load_performs (json : JsonText) (statePath : Path) (file : Option Bytes) :
    Code.Performs StoreStep (loadAsrProviderStateOrDefault json statePath) file
      [⟨.readState statePath, contents file⟩]
      (.done (parseState json statePath (contents file))) file := by
  cases file with
  | none => exact .act ⟨rfl, rfl⟩ (.stop _ none)
  | some raw => exact .act ⟨rfl, rfl⟩ (.stop _ (some raw))

theorem saveThen_performs (json : JsonText) (statePath : Path)
    (changed : InstalledAsrProvidersConfig) (result : α) (file : Option Bytes) :
    Code.Performs StoreStep (saveThen json statePath changed result) file
      (creating statePath ++ [saving json statePath changed (.ok ())]) (.done (.ok result))
      (some (stateText json (sortedState changed))) := by
  rw [saveThen, saveAsrProviderState, writeJson, bind_assoc]
  apply (createParent_performs statePath file).bind.append
  exact .act rfl (.stop _ _)

/-- A write that fails after a part of the text. -/
theorem saveThen_fails (json : JsonText) (statePath : Path) (changed : InstalledAsrProvidersConfig)
    (result : α) (file : Option Bytes) (reason : String) {part : Bytes}
    (cutOff : part <+: stateText json (sortedState changed)) :
    Code.Performs StoreStep (saveThen json statePath changed result) file
      (creating statePath ++ [saving json statePath changed (.error reason)])
      (.done (.error ("failed to write " ++ statePath.display))) (some part) := by
  rw [saveThen, saveAsrProviderState, writeJson, bind_assoc]
  apply (createParent_performs statePath file).bind.append
  exact .act (.inr ⟨part, cutOff, rfl⟩) (.stop _ _)

/-- A command for an installed provider reads the file, and then makes its change. -/
theorem withInstalled_reads {providerId : String}
    (parsed : parseState json statePath (contents file) = .ok loaded)
    (installed : find loaded providerId = some record)
    (change : InstalledAsrProvidersConfig → InstalledAsrProvider → StoreCode (Except String α)) :
    Code.Performs StoreStep (withInstalled json statePath providerId change) file
      [⟨.readState statePath, contents file⟩] (change loaded record) file := by
  have loading : Code.Performs StoreStep (withInstalled json statePath providerId change) file
      [⟨.readState statePath, contents file⟩] _ file := (load_performs json statePath file).bind
  rw [parsed] at loading
  dsimp only at loading
  rw [installed] at loading
  exact loading

/-- Removing a provider that the file holds, up to the save. -/
theorem uninstall_performs (providerId : String)
    (parsed : parseState json statePath (contents file) = .ok loaded)
    (installed : find loaded providerId = some record) {saved : Trace providerStore}
    {last : StoreCode (Except String InstalledAsrProvider)} {after : Option Bytes}
    (ran : Code.Performs StoreStep
      (saveThen json statePath (withoutFirst loaded providerId) record) file saved last after) :
    Code.Performs StoreStep ((ProviderCommand.uninstall providerId).run json statePath) file
      ([⟨.readState statePath, contents file⟩] ++ saved) last after :=
  (withInstalled_reads parsed installed _).append ran

/-- Installing a provider that the catalog offers and the file does not hold. -/
theorem install_succeeds {catalogPath : Path} {providerId : String} {raw : Bytes}
    {catalog : AsrProviderCatalog} {template : CatalogAsrProvider} (enabledOverride : Option Bool)
    (now : UInt64)
    (offered : parseCatalog json catalogPath (.ok raw) = .ok catalog)
    (listed : Keyed.lookup CatalogAsrProvider.providerId catalog.providers providerId =
      some template)
    (parsed : parseState json statePath (contents file) = .ok loaded)
    (absent : find loaded providerId = none) :
    Code.Performs StoreStep
      ((ProviderCommand.install catalogPath providerId enabledOverride).run json statePath) file
      ([⟨.readCatalog catalogPath, .ok raw⟩] ++ ([⟨.readState statePath, contents file⟩] ++
        ([⟨.nowUnixSecs, now⟩] ++ (creating statePath ++ [saving json statePath
          (withProvider loaded (template.toInstalled enabledOverride now)) (.ok ())]))))
      (.done (.ok (template.toInstalled enabledOverride now)))
      (some (stateText json
        (sortedState (withProvider loaded (template.toInstalled enabledOverride now))))) := by
  have catalogRead : Code.Performs StoreStep (loadAsrProviderCatalog json catalogPath) file
      [⟨.readCatalog catalogPath, .ok raw⟩] (.done (parseCatalog json catalogPath (.ok raw)))
      file := .act rfl (.stop _ file)
  rw [ProviderCommand.run, installAsrProvider, bind_assoc]
  apply catalogRead.bind.append
  rw [offered]
  dsimp only
  rw [listed]
  dsimp only
  rw [bind_assoc]
  apply (load_performs json statePath file).bind.append
  rw [parsed]
  dsimp only
  rw [installTemplate, absent]
  apply Code.Performs.append (Code.Performs.act rfl (.stop _ file))
  exact (saveThen_performs json statePath _ _ file).bind

end SpeechMesh.Soundness
