import SpeechMesh.Model.ProviderStatuses
import SpeechMesh.Soundness.ProviderPinning

/-! # What a listing of providers shows

The bridge mode of a row comes from the catalog even where the provider is installed with another
bridge, which is the one that the gateway starts; and a catalog that has a provider twice has two
rows for it.
-/

namespace SpeechMesh.Soundness

open Model.ProviderStore

variable {catalog : Option AsrProviderCatalog} {state : InstalledAsrProvidersConfig}
  {rows : List ProviderInstallStatus}

/-- The ids that the catalog and the state have. -/
def occurringIds (catalog : Option AsrProviderCatalog) (state : InstalledAsrProvidersConfig) :
    List String :=
  (catalog.toList.flatMap fun catalog => catalog.providers.map fun provider =>
    provider.providerId) ++ state.providers.map fun provider => provider.providerId

/-- The row is that of an installed provider, with its flags and its bridge mode. -/
structure ShowsRecord (row : ProviderInstallStatus) (record : InstalledAsrProvider) : Prop where
  installed : row.installed = true
  enabled : row.enabled = record.enabled
  bridgeMode : row.bridgeMode = bridgeModeName record.bridge
  downloadRequired : row.downloadRequired = record.install.downloadRequired

/-- What the gateway uses of a record. -/
def gatewayBridge : InstalledAsrBridgeKind → Model.InstalledAsrBridgeKind
  | .mock => .mock
  | .stdio command args => .stdio command args
  | .tcp address => .tcp address
  | .agent _ => .agent
  | .miniMaxHttp _ _ apiKeyFile => .minimaxHttp apiKeyFile

def gatewayRecord (record : InstalledAsrProvider) : Model.InstalledAsrProvider where
  providerId := record.providerId
  displayName := record.displayName
  enabled := record.enabled
  bridge := gatewayBridge record.bridge

/-- The bridges of a gateway. -/
def startedProviders : Model.ConfiguredAsrBridge → List Model.AsrProvider
  | .single provider => [provider]
  | .composite composite => composite.bindings.map Model.ProviderBinding.bridge

def startedMode : Model.AsrProvider → String
  | .mock .. => "mock"
  | .stdio .. => "stdio"
  | .tcp .. => "tcp"
  | .agent .. => "agent"
  | .minimaxHttp .. => "minimax_http"

/-- A gateway that starts from the state starts what the rows show as enabled, with the bridges that
they show. -/
def ShowsStarted (state : InstalledAsrProvidersConfig) (rows : List ProviderInstallStatus) : Prop :=
  ∀ (startup : Model.Startup) path configured,
    startup.selectAsrBridgesFromConfig path (state.providers.map gatewayRecord) = .ok configured →
      ∀ row ∈ rows,
        (row.enabled = true ↔
          ∃ provider ∈ startedProviders configured, provider.providerId = row.providerId) ∧
        ∀ provider ∈ startedProviders configured, provider.providerId = row.providerId →
          row.bridgeMode = startedMode provider

/-- One row for each id, in order, and each installed provider as it is recorded and started. -/
structure ListsExactly (catalog : Option AsrProviderCatalog) (state : InstalledAsrProvidersConfig)
    (rows : List ProviderInstallStatus) : Prop where
  sorted : rows.Pairwise fun left right => left.providerId ≤ right.providerId
  distinct : (rows.map fun row => row.providerId).Nodup
  complete : ∀ providerId, providerId ∈ rows.map (fun row => row.providerId) ↔
    providerId ∈ occurringIds catalog state
  shown : ∀ record ∈ state.providers, ∀ row ∈ rows, row.providerId = record.providerId →
    ShowsRecord row record
  started : ShowsStarted state rows

/-- The records of an id agree on what a row shows of them. -/
def SameShown (record other : InstalledAsrProvider) : Prop :=
  record.enabled = other.enabled ∧ bridgeModeName record.bridge = bridgeModeName other.bridge ∧
    record.install.downloadRequired = other.install.downloadRequired

/-- No id is listed twice with different content, and the catalog has the bridge modes that are
installed. -/
def Consistent (catalog : Option AsrProviderCatalog) (state : InstalledAsrProvidersConfig) : Prop :=
  match catalog with
  | none => (state.providers.map fun provider => provider.providerId).Nodup
  | some catalog =>
      (catalog.providers.map fun provider => provider.providerId).Nodup ∧
      (∀ record ∈ state.providers, ∀ other ∈ state.providers,
        record.providerId = other.providerId → SameShown record other) ∧
      ∀ provider ∈ catalog.providers, ∀ record ∈ state.providers,
        provider.providerId = record.providerId →
          bridgeModeName provider.bridge = bridgeModeName record.bridge

/-! ## Rows -/

theorem addMissing_cases (rows : List ProviderInstallStatus) (provider : InstalledAsrProvider) :
    (provider.providerId ∈ rows.map (fun row => row.providerId) ∧ addMissing rows provider = rows) ∨
    (provider.providerId ∉ rows.map (fun row => row.providerId) ∧
      addMissing rows provider = rows ++ [installedRow provider]) := by
  by_cases present : provider.providerId ∈ rows.map fun row => row.providerId
  · left
    refine ⟨present, if_pos ?_⟩
    obtain ⟨row, member, same⟩ := List.mem_map.mp present
    exact List.any_eq_true.mpr ⟨row, member, by simp [same]⟩
  · right
    refine ⟨present, if_neg ?_⟩
    intro found
    obtain ⟨row, member, same⟩ := List.any_eq_true.mp found
    exact present (List.mem_map.mpr ⟨row, member, by simpa using same⟩)

/-- What the pass over the state adds to the rows. -/
theorem foldl_addMissing (providers : List InstalledAsrProvider)
    (rows : List ProviderInstallStatus) :
    ∃ added : List InstalledAsrProvider, providers.foldl addMissing rows =
        rows ++ added.map installedRow ∧
      (∀ provider ∈ added, provider ∈ providers) ∧
      ((rows.map fun row => row.providerId).Nodup →
        ((rows ++ added.map installedRow).map fun row => row.providerId).Nodup) ∧
      ∀ provider ∈ providers,
        provider.providerId ∈ (rows ++ added.map installedRow).map fun row => row.providerId := by
  induction providers generalizing rows with
  | nil => exact ⟨[], by simp, by simp, by simp, by simp⟩
  | cons provider providers ih =>
    rw [List.foldl_cons]
    rcases addMissing_cases rows provider with ⟨present, same⟩ | ⟨missing, same⟩
    · obtain ⟨added, folded, known, distinct, covered⟩ := ih rows
      rw [same]
      refine ⟨added, folded, fun other member => List.mem_cons_of_mem _ (known other member),
        distinct, ?_⟩
      intro other member
      rcases List.mem_cons.mp member with rfl | later
      · rw [List.map_append]
        exact List.mem_append_left _ present
      · exact covered other later
    · obtain ⟨added, folded, known, distinct, covered⟩ := ih (rows ++ [installedRow provider])
      rw [same]
      rw [List.append_assoc, List.singleton_append] at folded distinct covered
      refine ⟨provider :: added, folded, ?_, ?_, ?_⟩
      · intro other member
        rcases List.mem_cons.mp member with rfl | later
        · exact List.mem_cons_self
        · exact List.mem_cons_of_mem _ (known other later)
      · intro unique
        apply distinct
        rw [List.map_append, List.nodup_append]
        refine ⟨unique, by simp, ?_⟩
        rintro providerId member _ isNew rfl
        rw [List.map_singleton, List.mem_singleton] at isNew
        rw [isNew] at member
        exact missing member
      · intro other member
        rcases List.mem_cons.mp member with rfl | later
        · simp [installedRow]
        · exact covered other later

/-- The rows before they are sorted. -/
structure Rows (catalog : Option AsrProviderCatalog) (state : InstalledAsrProvidersConfig)
    (rows : List ProviderInstallStatus) : Prop where
  first : ∃ added : List InstalledAsrProvider, rows = firstRows catalog state ++
    added.map installedRow ∧ ∀ record ∈ added, record ∈ state.providers
  distinct : ((firstRows catalog state).map fun row => row.providerId).Nodup →
    (rows.map fun row => row.providerId).Nodup
  covered : ∀ record ∈ state.providers, record.providerId ∈ rows.map fun row => row.providerId

theorem listed_rows (catalog : Option AsrProviderCatalog) (state : InstalledAsrProvidersConfig) :
    ∃ rows, Rows catalog state rows ∧ (listProviderStatuses catalog state).Perm rows := by
  obtain ⟨added, folded, known, distinct, covered⟩ :=
    foldl_addMissing state.providers (firstRows catalog state)
  refine ⟨firstRows catalog state ++ added.map installedRow,
    ⟨⟨added, rfl, known⟩, distinct, covered⟩, ?_⟩
  rw [listProviderStatuses, folded]
  exact List.mergeSort_perm _ _

theorem firstRows_ids : (firstRows catalog state).map (fun row => row.providerId) =
    match catalog with
    | some catalog => catalog.providers.map fun provider => provider.providerId
    | none => state.providers.map fun provider => provider.providerId := by
  cases catalog with
  | none => rw [firstRows, List.map_map]; rfl
  | some catalog => rw [firstRows, List.map_map]; rfl

theorem Rows.complete (built : Rows catalog state rows) (providerId : String) :
    providerId ∈ rows.map (fun row => row.providerId) ↔ providerId ∈ occurringIds catalog state := by
  obtain ⟨added, rows_eq, known⟩ := built.first
  constructor
  · intro member
    rw [rows_eq, List.map_append, List.mem_append, firstRows_ids] at member
    rw [occurringIds, List.mem_append]
    rcases member with early | late
    · cases catalog with
      | none => exact .inr early
      | some catalog =>
        left
        simpa using early
    · right
      rw [List.map_map] at late
      obtain ⟨record, inAdded, rfl⟩ := List.mem_map.mp late
      exact List.mem_map.mpr ⟨record, known record inAdded, rfl⟩
  · intro occurs
    rw [occurringIds, List.mem_append] at occurs
    rcases occurs with inCatalog | inState
    · cases catalog with
      | none => simp at inCatalog
      | some catalog =>
        rw [rows_eq, List.map_append, List.mem_append, firstRows_ids]
        left
        simpa using inCatalog
    · obtain ⟨record, member, rfl⟩ := List.mem_map.mp inState
      exact built.covered record member

/-- The last record of an id is one of those of the id. -/
theorem installedRecord_of_mem {record : InstalledAsrProvider}
    (member : record ∈ state.providers) :
    ∃ last ∈ state.providers, last.providerId = record.providerId ∧
      installedRecord state record.providerId = some last := by
  have found : (state.providers.reverse.find? fun provider =>
      provider.providerId == record.providerId).isSome := by
    rw [List.find?_isSome]
    exact ⟨record, List.mem_reverse.mpr member, by simp⟩
  obtain ⟨last, found⟩ := Option.isSome_iff_exists.mp found
  refine ⟨last, List.mem_reverse.mp (List.mem_of_find?_eq_some found), ?_, found⟩
  simpa using List.find?_some found

theorem showsRecord_installedRow {record other : InstalledAsrProvider}
    (same : SameShown record other) : ShowsRecord (installedRow other) record where
  installed := rfl
  enabled := same.1.symm
  bridgeMode := same.2.1.symm
  downloadRequired := same.2.2.symm

theorem Rows.installed_of_enabled (built : Rows catalog state rows) {row : ProviderInstallStatus}
    (listed : row ∈ rows) (enabled : row.enabled = true) :
    ∃ record ∈ state.providers, record.providerId = row.providerId := by
  obtain ⟨added, rows_eq, known⟩ := built.first
  rw [rows_eq, List.mem_append] at listed
  rcases listed with early | late
  · cases catalog with
    | none =>
      obtain ⟨record, member, rfl⟩ := List.mem_map.mp early
      exact ⟨record, member, rfl⟩
    | some catalog =>
      obtain ⟨provider, offered, rfl⟩ := List.mem_map.mp early
      obtain ⟨record, found, -⟩ := (Option.any_eq_true _ _).mp enabled
      refine ⟨record, List.mem_reverse.mp (List.mem_of_find?_eq_some found), ?_⟩
      have same := List.find?_some found
      exact eq_of_beq same
  · obtain ⟨record, inAdded, rfl⟩ := List.mem_map.mp late
    exact ⟨record, known record inAdded, rfl⟩

/-! ## Bridges that are started -/

theorem buildInstalledAsrBridge_shown {startup : Model.Startup} {agentRegistry : Bool}
    {record : InstalledAsrProvider} {provider : Model.AsrProvider}
    (built : startup.buildInstalledAsrBridge agentRegistry (gatewayRecord record) = .ok provider) :
    provider.providerId = record.providerId ∧
      startedMode provider = bridgeModeName record.bridge := by
  obtain ⟨providerId, displayName, description, enabled, installedAt, install, bridge⟩ := record
  rw [Model.Startup.buildInstalledAsrBridge] at built
  cases bridge with
  | mock =>
    rw [← Except.ok.inj built]
    exact ⟨rfl, rfl⟩
  | stdio command args =>
    rw [← Except.ok.inj built]
    exact ⟨rfl, rfl⟩
  | tcp address =>
    rw [← Except.ok.inj built]
    exact ⟨rfl, rfl⟩
  | agent startTimeoutSecs =>
    dsimp only [gatewayRecord, gatewayBridge] at built
    split_ifs at built
    rw [← Except.ok.inj built]
    exact ⟨rfl, rfl⟩
  | miniMaxHttp baseUrl model apiKeyFile =>
    obtain ⟨_, _, built⟩ := Model.exists_of_bind_ok built
    rw [Model.Startup.newMinimaxAsr] at built
    cases client : startup.buildMinimaxClient with
    | error error =>
      rw [client] at built
      contradiction
    | ok _ =>
      rw [client] at built
      rw [← Except.ok.inj built]
      exact ⟨rfl, rfl⟩

theorem mapM_ok {α β ε : Type} {f : α → Except ε β} {items : List α} {results : List β}
    (mapped : items.mapM f = .ok results) : List.Forall₂ (fun item result => f item = .ok result)
      items results := by
  induction items generalizing results with
  | nil =>
    rw [List.mapM_nil] at mapped
    rw [← Except.ok.inj mapped]
    exact .nil
  | cons item items ih =>
    rw [List.mapM_cons] at mapped
    obtain ⟨result, first, mapped⟩ := Model.exists_of_bind_ok mapped
    obtain ⟨others, rest, mapped⟩ := Model.exists_of_bind_ok mapped
    rw [← Except.ok.inj mapped]
    exact .cons first (ih rest)

/-- What a gateway starts are the enabled records of the state, in order. -/
theorem startedProviders_of_config {startup : Model.Startup} {path : String}
    {configured : Model.ConfiguredAsrBridge}
    (selected : startup.selectAsrBridgesFromConfig path (state.providers.map gatewayRecord) =
      .ok configured) :
    List.Forall₂ (fun (record : InstalledAsrProvider) provider =>
        Model.AsrProvider.providerId provider = record.providerId ∧
          startedMode provider = bridgeModeName record.bridge)
      (state.providers.filter fun record => record.enabled) (startedProviders configured) := by
  rw [Model.Startup.selectAsrBridgesFromConfig] at selected
  dsimp only at selected
  split_ifs at selected
  · contradiction
  · obtain ⟨bridges, mapped, selected⟩ := Model.exists_of_bind_ok selected
    cases built : Model.CompositeAsrBridge.new
        (bridges.map Model.AsrProvider.toSharedBridge) with
    | error error =>
      rw [built] at selected
      contradiction
    | ok composite =>
      rw [built] at selected
      have bindings : composite.bindings =
          bridges.map fun provider => ⟨provider.descriptor, provider⟩ := by
        rw [(registerAll_registered built).complete, List.flatMap_map]
        exact List.flatMap_pure_eq_map _ _
      have started : startedProviders (.composite composite) = bridges := by
        rw [startedProviders, bindings, List.map_map]
        exact List.map_id bridges
      rw [← Except.ok.inj selected, started]
      rw [List.filter_map] at mapped
      have each := List.forall₂_map_left_iff.mp (mapM_ok mapped)
      exact each.imp fun _ _ built => buildInstalledAsrBridge_shown built

theorem exists_of_forall₂ {α β : Type} {relation : α → β → Prop} {items : List α} {others : List β}
    (each : List.Forall₂ relation items others) {item : α} (member : item ∈ items) :
    ∃ other ∈ others, relation item other := by
  induction each with
  | nil => contradiction
  | cons related _ ih =>
    rcases List.mem_cons.mp member with rfl | later
    · exact ⟨_, List.mem_cons_self, related⟩
    · obtain ⟨other, inOthers, related⟩ := ih later
      exact ⟨other, List.mem_cons_of_mem _ inOthers, related⟩

/-- Rows that show the records show what is started. -/
theorem Rows.shows_started (built : Rows catalog state rows)
    (shown : ∀ record ∈ state.providers, ∀ row ∈ rows, row.providerId = record.providerId →
      ShowsRecord row record) : ShowsStarted state rows := by
  intro startup path configured selected row listed
  have each := startedProviders_of_config selected
  have recorded : ∀ provider ∈ startedProviders configured,
      provider.providerId = row.providerId → ∃ record ∈ state.providers,
        record.enabled = true ∧ row.providerId = record.providerId ∧
          startedMode provider = bridgeModeName record.bridge := by
    intro provider started same
    obtain ⟨record, member, sameId, mode⟩ := exists_of_forall₂ each.flip started
    obtain ⟨inState, enabled⟩ := List.mem_filter.mp member
    exact ⟨record, inState, enabled, same.symm.trans sameId, mode⟩
  refine ⟨⟨?_, ?_⟩, ?_⟩
  · intro enabled
    obtain ⟨record, member, same⟩ := built.installed_of_enabled listed enabled
    have recordEnabled := (shown record member row listed same.symm).enabled.symm.trans enabled
    obtain ⟨provider, started, sameId, _⟩ :=
      exists_of_forall₂ each (List.mem_filter.mpr ⟨member, recordEnabled⟩)
    exact ⟨provider, started, sameId.trans same⟩
  · rintro ⟨provider, started, same⟩
    obtain ⟨record, member, enabled, sameId, _⟩ := recorded provider started same
    exact (shown record member row listed sameId).enabled.trans enabled
  · intro provider started same
    obtain ⟨record, member, _, sameId, mode⟩ := recorded provider started same
    exact (shown record member row listed sameId).bridgeMode.trans mode.symm

/-! ## Exact listings -/

/-- With a catalog the rows show the installed providers where the two agree. -/
theorem Rows.shown_catalog {catalog : AsrProviderCatalog}
    (built : Rows (some catalog) state rows) (consistent : Consistent (some catalog) state)
    {record : InstalledAsrProvider} (member : record ∈ state.providers)
    {row : ProviderInstallStatus} (listed : row ∈ rows)
    (same : row.providerId = record.providerId) : ShowsRecord row record := by
  obtain ⟨-, agree, modes⟩ := consistent
  obtain ⟨added, rows_eq, known⟩ := built.first
  rw [rows_eq, List.mem_append] at listed
  rcases listed with early | late
  · obtain ⟨provider, offered, rfl⟩ := List.mem_map.mp early
    have same : provider.providerId = record.providerId := same
    obtain ⟨last, inState, sameId, found⟩ := installedRecord_of_mem member
    obtain ⟨enabled, -, downloadRequired⟩ := agree record member last inState sameId.symm
    rw [same, found]
    constructor
    case installed => rfl
    case enabled => exact enabled.symm
    case bridgeMode => exact modes provider offered record member same
    case downloadRequired => exact downloadRequired.symm
  · obtain ⟨other, inAdded, rfl⟩ := List.mem_map.mp late
    exact showsRecord_installedRow (agree record member other (known other inAdded) same.symm)

/-- Without one they do where the state has no id twice. -/
theorem Rows.shown_state (built : Rows none state rows) (consistent : Consistent none state)
    {record : InstalledAsrProvider} (member : record ∈ state.providers)
    {row : ProviderInstallStatus} (listed : row ∈ rows)
    (same : row.providerId = record.providerId) : ShowsRecord row record := by
  obtain ⟨added, rows_eq, known⟩ := built.first
  obtain ⟨other, inState, rfl⟩ : ∃ other ∈ state.providers, installedRow other = row := by
    rw [rows_eq, List.mem_append] at listed
    rcases listed with early | late
    · exact List.mem_map.mp early
    · obtain ⟨other, inAdded, row_eq⟩ := List.mem_map.mp late
      exact ⟨other, known other inAdded, row_eq⟩
  obtain rfl := List.inj_on_of_nodup_map consistent inState member same
  exact showsRecord_installedRow ⟨rfl, rfl, rfl⟩

/-- The listing is exact if and only if no id is listed twice with different content and the catalog
has the bridge modes that are installed. -/
theorem listing_exact_iff (catalog : Option AsrProviderCatalog)
    (state : InstalledAsrProvidersConfig) :
    ListsExactly catalog state (listProviderStatuses catalog state) ↔ Consistent catalog state := by
  obtain ⟨rows, built, order⟩ := listed_rows catalog state
  obtain ⟨added, rows_eq, known⟩ := built.first
  have ids := order.map fun row => row.providerId
  constructor
  · intro exact_
    have unique : ((firstRows catalog state).map fun row => row.providerId).Nodup := by
      have unique := ids.nodup_iff.mp exact_.distinct
      rw [rows_eq, List.map_append] at unique
      exact (List.nodup_append.mp unique).1
    rw [firstRows_ids] at unique
    have shown : ∀ record ∈ state.providers, ∀ row ∈ rows,
        row.providerId = record.providerId → ShowsRecord row record := fun record member row listed =>
      exact_.shown record member row (order.mem_iff.mpr listed)
    cases catalog with
    | none => exact unique
    | some catalog =>
      refine ⟨unique, ?_, ?_⟩
      · intro record member other otherMember same
        obtain ⟨row, listed, rowId⟩ := List.mem_map.mp (built.covered record member)
        have first := shown record member row listed rowId
        have second := shown other otherMember row listed (rowId.trans same)
        exact ⟨first.enabled.symm.trans second.enabled,
          first.bridgeMode.symm.trans second.bridgeMode,
          first.downloadRequired.symm.trans second.downloadRequired⟩
      · intro provider offered record member same
        have listed : catalogRow (installedRecord state provider.providerId) provider ∈ rows := by
          rw [rows_eq]
          exact List.mem_append_left _ (List.mem_map.mpr ⟨provider, offered, rfl⟩)
        exact (shown record member _ listed same).bridgeMode
  · intro consistent
    have shown : ∀ record ∈ state.providers, ∀ row ∈ rows, row.providerId = record.providerId →
        ShowsRecord row record := by
      intro record member row inRows same
      cases catalog with
      | none => exact built.shown_state consistent member inRows same
      | some catalog => exact built.shown_catalog consistent member inRows same
    constructor
    case sorted =>
      have pairwise := @List.pairwise_mergeSort _
        (fun left right : ProviderInstallStatus => left.providerId ≤ right.providerId)
        (fun _ _ _ below above => decide_eq_true
          (String.le_trans (of_decide_eq_true below) (of_decide_eq_true above)))
        (fun left right => by simpa using String.le_total left.providerId right.providerId)
        (state.providers.foldl addMissing (firstRows catalog state))
      exact pairwise.imp fun below => of_decide_eq_true below
    case distinct =>
      apply ids.nodup_iff.mpr
      apply built.distinct
      rw [firstRows_ids]
      cases catalog with
      | none => exact consistent
      | some catalog => exact consistent.1
    case complete =>
      intro providerId
      rw [ids.mem_iff]
      exact built.complete providerId
    case shown =>
      intro record member row listed same
      exact shown record member row (order.mem_iff.mp listed) same
    case started =>
      intro startup path configured selected row listed
      exact built.shows_started shown startup path configured selected row (order.mem_iff.mp listed)

/-- A catalog that has a provider with another bridge than the installed one. -/
def movedCatalog : AsrProviderCatalog :=
  ⟨none, [⟨"local.asr", none, none, true, {}, .tcp "127.0.0.1:9000"⟩]⟩

def stdioState : InstalledAsrProvidersConfig :=
  ⟨none, [⟨"local.asr", none, none, true, none, {}, .stdio "asr" []⟩]⟩

/-- The listing shows `tcp` for a provider that is installed, and started, as `stdio`; and a provider
that the catalog has twice it lists twice. -/
theorem moved_not_exact :
    ¬ ListsExactly (some movedCatalog) stdioState
        (listProviderStatuses (some movedCatalog) stdioState) ∧
    ¬ ListsExactly (some ⟨none, movedCatalog.providers ++ movedCatalog.providers⟩) ⟨none, []⟩
        (listProviderStatuses (some ⟨none, movedCatalog.providers ++ movedCatalog.providers⟩)
          ⟨none, []⟩) := by
  constructor
  · intro exact_
    have listed : listProviderStatuses (some movedCatalog) stdioState =
        [⟨"local.asr", none, none, true, true, "tcp", false, none⟩] := by decide +kernel
    have row := exact_.shown _ List.mem_cons_self _ (listed ▸ List.mem_cons_self) rfl
    exact absurd row.bridgeMode (by decide)
  · intro exact_
    obtain ⟨rows, built, order⟩ := listed_rows
      (some ⟨none, movedCatalog.providers ++ movedCatalog.providers⟩) ⟨none, []⟩
    obtain ⟨added, rows_eq, _⟩ := built.first
    have distinct := (order.map fun row => row.providerId).nodup_iff.mp exact_.distinct
    rw [rows_eq, List.map_append] at distinct
    exact absurd (List.nodup_append.mp distinct).1 (by decide +kernel)

end SpeechMesh.Soundness
