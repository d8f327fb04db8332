import Mathlib.Data.String.Basic
import SpeechMesh.Choice.MixedOrder
import SpeechMesh.Soundness.UpdateSafety

/-! # The release that a manifest selects

Releases are sorted by a comparison that reads versions as semantic ones where both are, and as
texts otherwise. A text between two semantic versions that text order puts the wrong way round makes
the comparison run in a circle, and a text after all others is taken for the newest release.
-/

namespace SpeechMesh.Soundness

open Async Choice Model

variable {Version : Type} [LinearOrder Version] (install : Installation Version)

theorem compareManifestVersions_eq (left right : String) :
    compareManifestVersions install left right = mixedCompare (parseSemver install) left right :=
  rfl

/-! ## Offers -/

/-- The channel a request is for. -/
def requestedName (manifest : UpdateManifest) (requestedChannel : String) : String :=
  if trim requestedChannel = "" then manifest.defaultChannel.getD defaultChannel
  else trim requestedChannel

/-- The release is on the requested channel and has an asset for the target, the first of which is
given. -/
structure OnOffer (manifest : UpdateManifest) (requestedChannel : String) (target : ClientTarget)
    (release : ManifestRelease) (asset : ManifestAsset) : Prop where
  listed : release ∈ manifest.releases
  channel : toAsciiLowercase (release.channel.getD (manifest.defaultChannel.getD defaultChannel)) =
    toAsciiLowercase (requestedName manifest requestedChannel)
  chosen : (release.assets.find? fun asset => assetMatchesTarget asset target) = some asset

/-- The candidates of a selection. -/
def candidates (manifest : UpdateManifest) (requestedChannel : String) (target : ClientTarget) :
    List (ManifestRelease × String × ManifestAsset) :=
  manifest.releases.filterMap
    (releaseCandidate manifest (toAsciiLowercase (requestedName manifest requestedChannel)) target)

variable {install} {manifest : UpdateManifest} {requestedChannel : String} {target : ClientTarget}
  {release : ManifestRelease} {asset : ManifestAsset} {update : ResolvedUpdate}

theorem OnOffer.candidate (offer : OnOffer manifest requestedChannel target release asset) :
    releaseCandidate manifest (toAsciiLowercase (requestedName manifest requestedChannel)) target
      release = some (release,
        release.channel.getD (manifest.defaultChannel.getD defaultChannel), asset) := by
  rw [releaseCandidate, if_pos offer.channel, offer.chosen]
  rfl

theorem OnOffer.mem_candidates (offer : OnOffer manifest requestedChannel target release asset) :
    (release, release.channel.getD (manifest.defaultChannel.getD defaultChannel), asset) ∈
      candidates manifest requestedChannel target :=
  List.mem_filterMap.mpr ⟨release, offer.listed, offer.candidate⟩

theorem onOffer_of_mem {candidate : ManifestRelease × String × ManifestAsset}
    (member : candidate ∈ candidates manifest requestedChannel target) :
    OnOffer manifest requestedChannel target candidate.1 candidate.2.2 := by
  obtain ⟨source, listed, found⟩ := List.mem_filterMap.mp member
  rw [releaseCandidate] at found
  split at found
  · rename_i channel
    obtain ⟨asset, chosen, rfl⟩ := Option.map_eq_some_iff.mp found
    exact ⟨listed, channel, chosen⟩
  · cases found

/-- The manifest with its releases in another order. -/
def reorder (manifest : UpdateManifest) (releases : List ManifestRelease) : UpdateManifest :=
  { manifest with releases := releases }

theorem OnOffer.reordered {releases : List ManifestRelease}
    (order : releases.Perm manifest.releases) :
    OnOffer (reorder manifest releases) requestedChannel target release asset ↔
      OnOffer manifest requestedChannel target release asset := by
  constructor
  · intro offer
    exact ⟨order.mem_iff.mp offer.listed, offer.channel, offer.chosen⟩
  · intro offer
    exact ⟨order.mem_iff.mpr offer.listed, offer.channel, offer.chosen⟩

/-! ## What a selection returns -/

/-- What is selected is the first of the sorted candidates. -/
theorem selected_head
    (selected : selectManifestRelease install manifest requestedChannel target = .ok update) :
    checkSchema manifest = .ok () ∧ ∃ first rest,
      install.sortBy (newestFirst install) (candidates manifest requestedChannel target) =
        first :: rest ∧ checkBinaryName first.2.2 = .ok () ∧ update.version = first.1.version := by
  obtain ⟨_, accepted, selected⟩ := exists_of_bind_ok selected
  obtain ⟨release, releaseChannel, asset, rest, sorted, named, rfl⟩ := resolveFirst_ok selected
  exact ⟨accepted, (release, releaseChannel, asset), rest, sorted, named, rfl⟩

/-- A first candidate for the right binary is selected. -/
theorem selects_head {first : ManifestRelease × String × ManifestAsset}
    {rest : List (ManifestRelease × String × ManifestAsset)}
    (accepted : checkSchema manifest = .ok ())
    (sorted : install.sortBy (newestFirst install) (candidates manifest requestedChannel target) =
      first :: rest) (named : checkBinaryName first.2.2 = .ok ()) :
    ∃ update, selectManifestRelease install manifest requestedChannel target = .ok update ∧
      update.version = first.1.version := by
  obtain ⟨release, releaseChannel, asset⟩ := first
  refine ⟨⟨release.version, releaseChannel, asset.url, asset.sha256,
    ⟨canonicalPlatform asset.platform, canonicalArch asset.arch⟩, release.notesUrl,
    release.publishedAt⟩, ?_, rfl⟩
  unfold candidates requestedName at sorted
  simp only [selectManifestRelease, resolveFirst, accepted, sorted, named, bind, Except.bind, pure,
    Except.pure]

/-! ## The newest release -/

variable (install manifest requestedChannel target) in
/-- Whatever the order of the releases, none on offer is newer than the selected one, the selected
version does not depend on that order, the versions on offer are ordered, and no semantic version
newer than the running one is passed over for a version that is not semantic. -/
structure NewestFound : Prop where
  newest : ∀ releases update, releases.Perm manifest.releases →
    selectManifestRelease install (reorder manifest releases) requestedChannel target = .ok update →
    ∀ release asset, OnOffer manifest requestedChannel target release asset →
      compareManifestVersions install update.version release.version ≠ .lt
  unordered : ∀ releases others update other, releases.Perm manifest.releases →
    others.Perm manifest.releases →
    selectManifestRelease install (reorder manifest releases) requestedChannel target = .ok update →
    selectManifestRelease install (reorder manifest others) requestedChannel target = .ok other →
      compareManifestVersions install update.version other.version = .eq
  ordered : TotalPreorderOn (compareManifestVersions install)
    {version | ∃ release asset, OnOffer manifest requestedChannel target release asset ∧
      release.version = version}
  unhidden : ∀ releases update, releases.Perm manifest.releases →
    selectManifestRelease install (reorder manifest releases) requestedChannel target = .ok update →
    parseSemver install update.version = none →
    ∀ release asset, OnOffer manifest requestedChannel target release asset →
      ¬ NewerVersion install release.version

variable (install manifest requestedChannel target) in
/-- No version on offer that is not semantic stands, as a text, between two semantic ones that are
the wrong way round as texts, and none that could be selected is the greatest text when there is a
semantic update. -/
structure SeparateVersions : Prop where
  uncrossed : ∀ lower upper between lowerAsset upperAsset betweenAsset,
    OnOffer manifest requestedChannel target lower lowerAsset →
    OnOffer manifest requestedChannel target upper upperAsset →
    OnOffer manifest requestedChannel target between betweenAsset →
      ¬ Crossed (parseSemver install) lower.version upper.version between.version
  unshadowed : checkSchema manifest = .ok () → ∀ release asset,
    OnOffer manifest requestedChannel target release asset → checkBinaryName asset = .ok () →
    parseSemver install release.version = none →
    (∀ other otherAsset, OnOffer manifest requestedChannel target other otherAsset →
      other.version ≤ release.version) →
    ∀ other otherAsset, OnOffer manifest requestedChannel target other otherAsset →
      ¬ NewerVersion install other.version

/-- Comparing versions on offer one way excludes the other. -/
theorem compareManifestVersions_swap (left right : String) :
    compareManifestVersions install right left =
      (compareManifestVersions install left right).swap :=
  mixedCompare_swap (parseSemver install) left right

theorem newestFirst_le {left right : ManifestRelease × String × ManifestAsset} :
    newestFirst install left right ≠ .gt ↔
      compareManifestVersions install left.1.version right.1.version ≠ .lt := by
  rw [newestFirst]
  cases compareManifestVersions install left.1.version right.1.version <;> decide

/-- A version that is not semantic is compared as a text. -/
theorem not_older_of_text {left right : String} (plain : parseSemver install left = none) :
    compareManifestVersions install left right ≠ .lt ↔ right ≤ left := by
  rw [compareManifestVersions_eq, mixedCompare_items (.inl plain)]
  exact compare_ge_iff_ge

/-- The candidates are sorted by a total preorder when their versions are compared by one. -/
theorem candidates_preorder
    (ordered : TotalPreorderOn (compareManifestVersions install)
      {version | ∃ release asset, OnOffer manifest requestedChannel target release asset ∧
        release.version = version}) :
    TotalPreorderOn (newestFirst install)
      {candidate | candidate ∈ candidates manifest requestedChannel target} := by
  have versions := (ordered.comap
    fun candidate : ManifestRelease × String × ManifestAsset => candidate.1.version).reversed
  apply versions.subset
  intro candidate member
  exact ⟨candidate.1, candidate.2.2, onOffer_of_mem member, rfl⟩

theorem ordered_reorder {releases : List ManifestRelease}
    (order : releases.Perm manifest.releases)
    (ordered : TotalPreorderOn (compareManifestVersions install)
      {version | ∃ release asset, OnOffer manifest requestedChannel target release asset ∧
        release.version = version}) :
    TotalPreorderOn (compareManifestVersions install)
      {version | ∃ release asset,
        OnOffer (reorder manifest releases) requestedChannel target release asset ∧
          release.version = version} := by
  apply ordered.subset
  rintro version ⟨release, asset, offer, same⟩
  exact ⟨release, asset, (OnOffer.reordered order).mp offer, same⟩

/-- With ordered versions the selected release is one on offer that no other is newer than. -/
theorem selected_newest (stable : SortsStably install.sortBy)
    (ordered : TotalPreorderOn (compareManifestVersions install)
      {version | ∃ release asset, OnOffer manifest requestedChannel target release asset ∧
        release.version = version})
    (selected : selectManifestRelease install manifest requestedChannel target = .ok update) :
    (∃ release asset, OnOffer manifest requestedChannel target release asset ∧
      checkBinaryName asset = .ok () ∧ update.version = release.version) ∧
    ∀ release asset, OnOffer manifest requestedChannel target release asset →
      compareManifestVersions install update.version release.version ≠ .lt := by
  obtain ⟨_, first, rest, sorted, named, version⟩ := selected_head selected
  have preorder := candidates_preorder ordered
  have member : first ∈ candidates manifest requestedChannel target := by
    apply (install.sortBy_perm (newestFirst install) _).mem_iff.mp
    rw [sorted]
    exact List.mem_cons_self
  constructor
  · exact ⟨first.1, first.2.2, onOffer_of_mem member, named, version⟩
  · intro release asset offer
    have sorted := (stable _ _ preorder).symm.trans sorted
    have notOlder := newestFirst_le.mp (head_le preorder sorted offer.mem_candidates)
    rw [version]
    exact notOlder

/-- A release on offer whose version is the greatest can be listed so that it is selected. -/
theorem selectable (stable : SortsStably install.sortBy)
    (ordered : TotalPreorderOn (compareManifestVersions install)
      {version | ∃ release asset, OnOffer manifest requestedChannel target release asset ∧
        release.version = version})
    (accepted : checkSchema manifest = .ok ())
    (offer : OnOffer manifest requestedChannel target release asset)
    (named : checkBinaryName asset = .ok ())
    (greatest : ∀ other otherAsset, OnOffer manifest requestedChannel target other otherAsset →
      compareManifestVersions install release.version other.version ≠ .lt) :
    ∃ releases update, releases.Perm manifest.releases ∧
      selectManifestRelease install (reorder manifest releases) requestedChannel target =
        .ok update ∧ update.version = release.version := by
  have order : (release :: manifest.releases.erase release).Perm manifest.releases :=
    (List.perm_cons_erase offer.listed).symm
  let moved := reorder manifest (release :: manifest.releases.erase release)
  let first := (release, release.channel.getD (manifest.defaultChannel.getD defaultChannel), asset)
  have listed : candidates moved requestedChannel target =
      first :: (manifest.releases.erase release).filterMap (releaseCandidate manifest
        (toAsciiLowercase (requestedName manifest requestedChannel)) target) :=
    List.filterMap_cons_some ((OnOffer.reordered order).mpr offer).candidate
  have preorder := candidates_preorder (ordered_reorder order ordered)
  have stays := head_stays (listed ▸ preorder) fun item member => newestFirst_le.mpr (by
    have moved := onOffer_of_mem (listed ▸ List.mem_cons_of_mem first member)
    exact greatest item.1 item.2.2 ((OnOffer.reordered order).mp moved))
  obtain ⟨rest, sorted⟩ := stays
  rw [← listed, ← stable _ _ preorder] at sorted
  have acceptedToo : checkSchema moved = .ok () := accepted
  obtain ⟨update, selected, version⟩ := selects_head acceptedToo sorted named
  exact ⟨_, update, order, selected, version⟩

/-- The newest release is found exactly when the versions that are not semantic keep apart from the
semantic ones. -/
theorem newest_found_iff (stable : SortsStably install.sortBy) :
    NewestFound install manifest requestedChannel target ↔
      SeparateVersions install manifest requestedChannel target := by
  constructor
  · intro found
    constructor
    · intro lower upper between lowerAsset upperAsset betweenAsset offer other third
      apply (totalPreorderOn_mixedCompare (parseSemver install)).mp found.ordered
      · exact ⟨lower, lowerAsset, offer, rfl⟩
      · exact ⟨upper, upperAsset, other, rfl⟩
      · exact ⟨between, betweenAsset, third, rfl⟩
    · intro accepted release asset offer named plain greatest
      obtain ⟨releases, update, order, selected, version⟩ :=
        selectable stable found.ordered accepted offer named fun other otherAsset offered =>
          (not_older_of_text plain).mpr (greatest other otherAsset offered)
      exact found.unhidden releases update order selected (version ▸ plain)
  · intro separate
    have ordered : TotalPreorderOn (compareManifestVersions install)
        {version | ∃ release asset, OnOffer manifest requestedChannel target release asset ∧
          release.version = version} := by
      apply (totalPreorderOn_mixedCompare (parseSemver install)).mpr
      rintro _ ⟨lower, lowerAsset, offer, rfl⟩ _ ⟨upper, upperAsset, other, rfl⟩
        _ ⟨between, betweenAsset, third, rfl⟩
      exact separate.uncrossed _ _ _ _ _ _ offer other third
    have newest : ∀ releases update, releases.Perm manifest.releases →
        selectManifestRelease install (reorder manifest releases) requestedChannel target =
          .ok update →
        (∃ release asset, OnOffer manifest requestedChannel target release asset ∧
          checkBinaryName asset = .ok () ∧ update.version = release.version) ∧
        ∀ release asset, OnOffer manifest requestedChannel target release asset →
          compareManifestVersions install update.version release.version ≠ .lt := by
      intro releases update order selected
      have moved := selected_newest stable (ordered_reorder order ordered) selected
      simpa only [OnOffer.reordered order] using moved
    constructor
    · intro releases update order selected
      exact (newest releases update order selected).2
    · intro releases others update other order otherOrder selected otherSelected
      obtain ⟨⟨release, asset, offer, _, version⟩, notOlder⟩ :=
        newest releases update order selected
      obtain ⟨⟨second, secondAsset, secondOffer, _, secondVersion⟩, secondNotOlder⟩ :=
        newest others other otherOrder otherSelected
      have below := notOlder second secondAsset secondOffer
      have above := secondNotOlder release asset offer
      rw [← secondVersion] at below
      rw [← version, compareManifestVersions_swap] at above
      cases compared : compareManifestVersions install update.version other.version with
      | eq => rfl
      | lt => exact absurd compared below
      | gt => rw [compared] at above; exact absurd rfl above
    · exact ordered
    · intro releases update order selected plain
      obtain ⟨accepted, -⟩ := selected_head selected
      obtain ⟨⟨release, asset, offer, named, version⟩, notOlder⟩ :=
        newest releases update order selected
      rw [version] at plain notOlder
      apply separate.unshadowed accepted release asset offer named plain
      intro other otherAsset offered
      exact (not_older_of_text plain).mp (notOlder other otherAsset offered)

/-! ## Manifests with mixed versions -/

/-- Put an item behind the last one that it does not precede. The list is in reverse. -/
def insertLast {α : Type} (order : α → α → Ordering) (item : α) : List α → List α
  | [] => [item]
  | last :: earlier =>
      if order item last = .lt then last :: insertLast order item earlier
      else item :: last :: earlier

theorem insertLast_perm {α : Type} (order : α → α → Ordering) (item : α) (items : List α) :
    (insertLast order item items).Perm (item :: items) := by
  induction items with
  | nil => exact .refl _
  | cons last earlier ih =>
    rw [insertLast]
    split_ifs
    · exact (ih.cons last).trans (.swap item last earlier)
    · exact .refl _

/-- What `slice::sort_by` does with at most twenty items. -/
def sortShort {α : Type} (order : α → α → Ordering) (items : List α) : List α :=
  (items.reverse.foldr (insertLast order) []).reverse

theorem sortShort_perm {α : Type} (order : α → α → Ordering) (items : List α) :
    (sortShort order items).Perm items := by
  have inserted : ∀ items : List α, (items.foldr (insertLast order) []).Perm items := by
    intro items
    induction items with
    | nil => exact .refl _
    | cons item items ih => exact (insertLast_perm order item _).trans (ih.cons item)
  exact (List.reverse_perm _).trans ((inserted items.reverse).trans (List.reverse_perm items))

/-- An installation that knows three semantic versions, the first of which is running. -/
def threeVersions : Installation ℕ where
  appVersion := "1.0.0"
  os := "linux"
  arch := "x86_64"
  currentExe := .ok speechmesh
  parseVersion version :=
    if version = "1.0.0" then some 1 else if version = "2.0.0" then some 2
    else if version = "10.0.0" then some 10 else none
  sha256Hex _ := ""
  encodeReport _ := []
  sortBy := sortShort
  sortBy_perm := sortShort_perm

def linux : ClientTarget := ⟨"linux", "x86_64"⟩

def released (version : String) : ManifestRelease where
  version := version
  assets := [⟨"linux", "x86_64", "https://example.com/" ++ version, "", none⟩]

/-- A manifest with a release for Linux under each version. -/
def releasedVersions (versions : List String) : UpdateManifest where
  releases := versions.map released

def linuxUpdate (version : String) : ResolvedUpdate where
  version := version
  channel := "stable"
  url := "https://example.com/" ++ version
  sha256 := ""
  target := linux
  notesUrl := none
  publishedAt := none

theorem released_onOffer {versions : List String} {version : String} (listed : version ∈ versions) :
    OnOffer (releasedVersions versions) "stable" linux (released version)
      ⟨"linux", "x86_64", "https://example.com/" ++ version, "", none⟩ := by
  constructor
  · exact List.mem_map_of_mem listed
  · have name : requestedName ⟨none, none, []⟩ "stable" = defaultChannel := by decide
    exact congrArg toAsciiLowercase name.symm
  · apply List.find?_cons_of_pos
    have platforms : canonicalPlatform "linux" = "linux" ∧ canonicalArch "x86_64" = "x86_64" := by
      decide +kernel
    rw [assetMatchesTarget, platforms.1, platforms.2]
    decide

theorem newest_found_semantic :
    NewestFound { threeVersions with
        sortBy := fun order items => items.mergeSort fun left right => order left right != .gt
        sortBy_perm := fun _ items => List.mergeSort_perm items _ }
      (releasedVersions ["1.0.0", "10.0.0", "2.0.0"]) "stable" linux := by
  apply (newest_found_iff fun order items _ => rfl).mpr
  have known : ∀ version ∈ ["1.0.0", "10.0.0", "2.0.0"],
      parseSemver threeVersions version ≠ none := by decide
  have semantic : ∀ release asset,
      OnOffer (releasedVersions ["1.0.0", "10.0.0", "2.0.0"]) "stable" linux release asset →
        parseSemver threeVersions release.version ≠ none := by
    intro release asset offer
    obtain ⟨version, listed, rfl⟩ := List.mem_map.mp offer.listed
    exact known version listed
  constructor
  · rintro _ _ between _ _ asset _ _ offer ⟨_, _, _, _, plain, _⟩
    exact semantic between asset offer plain
  · intro _ release asset offer _ plain
    exact absurd plain (semantic release asset offer)

/-- With `2` between `10.0.0` and `2.0.0` a release is selected that is not the newest, and a
nightly release hides an update. -/
theorem mixed_versions_not_newest :
    ¬ NewestFound threeVersions (releasedVersions ["2", "2.0.0", "10.0.0"]) "stable" linux ∧
    ¬ NewestFound threeVersions (releasedVersions ["2.0.0", "nightly"]) "stable" linux := by
  constructor
  · intro found
    have selected : selectManifestRelease threeVersions
        (releasedVersions ["2", "2.0.0", "10.0.0"]) "stable" linux = .ok (linuxUpdate "2.0.0") := by
      decide +kernel
    have older : compareManifestVersions threeVersions "2.0.0" "10.0.0" = .lt := by decide +kernel
    have offer := released_onOffer (show "10.0.0" ∈ ["2", "2.0.0", "10.0.0"] by decide)
    exact found.newest _ _ (.refl _) selected _ _ offer older
  · intro found
    have selected : selectManifestRelease threeVersions
        (releasedVersions ["2.0.0", "nightly"]) "stable" linux = .ok (linuxUpdate "nightly") := by
      decide +kernel
    have plain : parseSemver threeVersions "nightly" = none := by decide +kernel
    have newer : NewerVersion threeVersions "2.0.0" := ⟨1, 2, by decide +kernel⟩
    have offer := released_onOffer (show "2.0.0" ∈ ["2.0.0", "nightly"] by decide)
    exact found.unhidden _ _ (.refl _) selected plain _ _ offer newer

end SpeechMesh.Soundness
