import SpeechMesh.Soundness.NewestRelease

/-! # Completeness of a selection

Of each release the first asset for the target is taken, of those the newest, and only then is the
name of its binary checked. An asset of another binary that is listed first, or in a newer release,
makes the selection fail although there is an asset that it could have returned.
-/

namespace SpeechMesh.Soundness

open Async Choice Model

variable {Version : Type} [LinearOrder Version] {install : Installation Version}
  {manifest : UpdateManifest} {requestedChannel : String} {target : ClientTarget}
  {release : ManifestRelease} {asset : ManifestAsset} {update : ResolvedUpdate}

/-- The asset names no binary, or the client's. -/
def OfClient (asset : ManifestAsset) : Prop :=
  asset.binaryName = none ∨ asset.binaryName = some "speechmesh"

/-- A release on the requested channel has an asset of the client for the target. -/
structure Suitable (manifest : UpdateManifest) (requestedChannel : String) (target : ClientTarget)
    (release : ManifestRelease) (asset : ManifestAsset) : Prop where
  listed : release ∈ manifest.releases
  channel : toAsciiLowercase (release.channel.getD (manifest.defaultChannel.getD defaultChannel)) =
    toAsciiLowercase (requestedName manifest requestedChannel)
  offered : asset ∈ release.assets
  matching : assetMatchesTarget asset target = true
  named : OfClient asset

/-- The update that an asset of a release comes to. -/
def updateOf (manifest : UpdateManifest) (release : ManifestRelease) (asset : ManifestAsset) :
    ResolvedUpdate where
  version := release.version
  channel := release.channel.getD (manifest.defaultChannel.getD defaultChannel)
  url := asset.url
  sha256 := asset.sha256
  target := ⟨canonicalPlatform asset.platform, canonicalArch asset.arch⟩
  notesUrl := release.notesUrl
  publishedAt := release.publishedAt

variable (install manifest requestedChannel target) (sort : SliceSort)

/-- If there is a suitable asset, the selection returns one. -/
def FindsSuitable : Prop :=
  (∃ release asset, Suitable manifest requestedChannel target release asset) →
    ∃ update release asset,
      selectWithSort install sort manifest requestedChannel target = some (.ok update) ∧
        Suitable manifest requestedChannel target release asset ∧
        update = updateOf manifest release asset

/-- Among the candidates, each with its first asset for the target, that asset of the first of the
newest is of the client. Where the comparison of the versions is no total preorder, the sort has to
return and to put one with such an asset first. -/
structure NewestOfClient : Prop where
  ordered : TotalPreorderOn (newestFirst install)
      {offer | offer ∈ candidates manifest requestedChannel target} →
    ∀ first, FirstLeast (newestFirst install) (candidates manifest requestedChannel target) first →
      OfClient first.2.2
  unordered : ¬ TotalPreorderOn (newestFirst install)
      {offer | offer ∈ candidates manifest requestedChannel target} →
    ∃ first rest, sort.sortBy (newestFirst install)
        (candidates manifest requestedChannel target) = some (first :: rest) ∧ OfClient first.2.2

variable {install manifest requestedChannel target sort}

theorem checkBinaryName_ok :
    checkBinaryName asset = .ok () ↔ OfClient asset := by
  rw [checkBinaryName, OfClient]
  cases asset.binaryName with
  | none => simp
  | some binaryName =>
    by_cases named : binaryName = "speechmesh"
    · simp [named]
    · simp [named]

/-! ## Selections -/

/-- The first asset for the target in a release is suitable if it is of the client. -/
theorem OnOffer.suitable (offer : OnOffer manifest requestedChannel target release asset)
    (named : checkBinaryName asset = .ok ()) :
    Suitable manifest requestedChannel target release asset where
  listed := offer.listed
  channel := offer.channel
  offered := List.mem_of_find?_eq_some offer.chosen
  matching := List.find?_some (p := fun asset => assetMatchesTarget asset target) offer.chosen
  named := checkBinaryName_ok.mp named

/-- A release with a suitable asset is a candidate, though perhaps for another asset. -/
theorem Suitable.onOffer (suitable : Suitable manifest requestedChannel target release asset) :
    ∃ first, OnOffer manifest requestedChannel target release first := by
  have found : (release.assets.find? fun asset => assetMatchesTarget asset target).isSome := by
    rw [List.find?_isSome]
    exact ⟨asset, suitable.offered, suitable.matching⟩
  obtain ⟨first, chosen⟩ := Option.isSome_iff_exists.mp found
  exact ⟨first, suitable.listed, suitable.channel, chosen⟩

/-- With a sort that panics where the installation's does not, nothing else changes. -/
theorem selectWithSort_total
    (sorts : sort.sortBy (newestFirst install) (candidates manifest requestedChannel target) =
      some (install.sortBy (newestFirst install) (candidates manifest requestedChannel target))) :
    selectWithSort install sort manifest requestedChannel target =
      some (selectManifestRelease install manifest requestedChannel target) := by
  unfold candidates requestedName at sorts
  rw [selectWithSort, selectManifestRelease]
  cases checkSchema manifest with
  | error error => rfl
  | ok _ =>
    dsimp only
    rw [sorts]
    rfl

/-- What a sort that returns puts first is selected if it is of the client, and only then. -/
theorem selectWithSort_sorted {first : ManifestRelease × String × ManifestAsset}
    {rest : List (ManifestRelease × String × ManifestAsset)}
    (accepted : checkSchema manifest = .ok ())
    (sorted : sort.sortBy (newestFirst install) (candidates manifest requestedChannel target) =
      some (first :: rest)) :
    OnOffer manifest requestedChannel target first.1 first.2.2 ∧
      selectWithSort install sort manifest requestedChannel target =
        some ((checkBinaryName first.2.2).map fun _ => updateOf manifest first.1 first.2.2) := by
  have member := (sort.perm sorted).mem_iff.mp List.mem_cons_self
  refine ⟨onOffer_of_mem member, ?_⟩
  obtain ⟨source, -, candidate⟩ := List.mem_filterMap.mp member
  obtain ⟨release, releaseChannel, asset⟩ := first
  rw [releaseCandidate] at candidate
  split_ifs at candidate
  obtain ⟨_, _, same⟩ := Option.map_eq_some_iff.mp candidate
  cases same
  unfold candidates requestedName at sorted
  rw [selectWithSort, accepted]
  dsimp only
  rw [sorted, Option.map_some, resolveFirst]
  cases checkBinaryName asset with
  | error error => rfl
  | ok _ => rfl

/-- What comes first in a list that can be sorted. -/
theorem sorted_first
    (preorder : TotalPreorderOn (newestFirst install)
      {offer | offer ∈ candidates manifest requestedChannel target})
    {first : ManifestRelease × String × ManifestAsset}
    (least : FirstLeast (newestFirst install) (candidates manifest requestedChannel target) first) :
    ∃ rest, sort.sortBy (newestFirst install) (candidates manifest requestedChannel target) =
      some (first :: rest) := by
  obtain ⟨rest, sorted⟩ := least.head preorder
  exact ⟨rest, by rw [sort.stable preorder, sorted]⟩

/-- A selection returns a suitable asset exactly if it sorts one first. -/
theorem finds_iff_first (accepted : checkSchema manifest = .ok ())
    {first : ManifestRelease × String × ManifestAsset}
    {rest : List (ManifestRelease × String × ManifestAsset)}
    (sorted : sort.sortBy (newestFirst install) (candidates manifest requestedChannel target) =
      some (first :: rest)) :
    (∃ update release asset,
      selectWithSort install sort manifest requestedChannel target = some (.ok update) ∧
        Suitable manifest requestedChannel target release asset ∧
        update = updateOf manifest release asset) ↔ OfClient first.2.2 := by
  obtain ⟨offer, selected⟩ := selectWithSort_sorted accepted sorted
  rw [← checkBinaryName_ok, selected]
  constructor
  · rintro ⟨update, release, asset, same, -⟩
    cases checked : checkBinaryName first.2.2 with
    | error error =>
      rw [checked] at same
      cases same
    | ok _ => rfl
  · intro named
    rw [named]
    exact ⟨_, first.1, first.2.2, rfl, offer.suitable named, rfl⟩

/-- A selection is complete if and only if there is no suitable asset or the newest release that
comes first has one of the client first. -/
theorem findsSuitable_iff (accepted : checkSchema manifest = .ok ()) :
    FindsSuitable install manifest requestedChannel target sort ↔
      ((∃ release asset, Suitable manifest requestedChannel target release asset) →
        NewestOfClient install manifest requestedChannel target sort) := by
  apply forall_congr'
  rintro ⟨release, asset, suitable⟩
  obtain ⟨offered, offer⟩ := suitable.onOffer
  have nonempty := List.ne_nil_of_mem offer.mem_candidates
  by_cases preorder : TotalPreorderOn (newestFirst install)
      {offer | offer ∈ candidates manifest requestedChannel target}
  · constructor
    · intro found
      refine ⟨fun _ first least => ?_, fun unordered => absurd preorder unordered⟩
      obtain ⟨rest, sorted⟩ := sorted_first preorder least
      exact (finds_iff_first accepted sorted).mp found
    · intro newest
      obtain ⟨first, least⟩ := exists_firstLeast preorder nonempty
      obtain ⟨rest, sorted⟩ := sorted_first preorder least
      exact (finds_iff_first accepted sorted).mpr (newest.ordered preorder first least)
  · constructor
    · intro found
      refine ⟨fun ordered => absurd ordered preorder, fun _ => ?_⟩
      cases sorted : sort.sortBy (newestFirst install)
          (candidates manifest requestedChannel target) with
      | none =>
        obtain ⟨update, _, _, selected, -⟩ := found
        unfold candidates requestedName at sorted
        rw [selectWithSort, accepted] at selected
        dsimp only at selected
        rw [sorted] at selected
        cases selected
      | some items =>
        cases items with
        | nil =>
          have same := (sort.perm sorted).length_eq
          exact absurd (List.length_eq_zero_iff.mp same.symm) nonempty
        | cons first rest => exact ⟨first, rest, rfl, (finds_iff_first accepted sorted).mp found⟩
    · intro newest
      obtain ⟨first, rest, sorted, ofClient⟩ := newest.unordered preorder
      exact (finds_iff_first accepted sorted).mpr ofClient

/-! ## Assets of the server -/

/-- Semantic versions are compared by a total preorder. -/
theorem preorder_of_semantic
    (semantic : ∀ release asset, OnOffer manifest requestedChannel target release asset →
      parseSemver install release.version ≠ none) :
    TotalPreorderOn (newestFirst install)
      {offer | offer ∈ candidates manifest requestedChannel target} := by
  apply candidates_preorder
  apply (totalPreorderOn_mixedCompare (parseSemver install)).mpr
  rintro _ - _ - _ ⟨between, asset, offer, rfl⟩ ⟨_, _, _, _, plain, _⟩
  exact semantic between asset offer plain

/-- Nothing is found where a release with another binary first is the newest. -/
theorem not_findsSuitable (accepted : checkSchema manifest = .ok ())
    (suitable : Suitable manifest requestedChannel target release asset)
    (preorder : TotalPreorderOn (newestFirst install)
      {offer | offer ∈ candidates manifest requestedChannel target})
    {first : ManifestRelease × String × ManifestAsset}
    (least : FirstLeast (newestFirst install) (candidates manifest requestedChannel target) first)
    (other : ¬ OfClient first.2.2) :
    ¬ FindsSuitable install manifest requestedChannel target sort := by
  intro finds
  obtain ⟨rest, sorted⟩ := sorted_first preorder least
  exact other ((finds_iff_first accepted sorted).mp (finds ⟨release, asset, suitable⟩))

def mergeSorting : SliceSort where
  sortBy order items := some (items.mergeSort fun left right => order left right != .gt)
  perm sorted := Option.some.inj sorted ▸ List.mergeSort_perm _ _
  stable _ := rfl

/-- A release for Linux with the assets of these binaries. -/
def releasedBinaries (version : String) (binaries : List String) : ManifestRelease where
  version := version
  assets := binaries.map fun binary => ⟨"linux", "x86_64", "", "", some binary⟩

theorem releasedBinaries_suitable {releases : List ManifestRelease} {version : String}
    {binaries : List String} (listed : releasedBinaries version binaries ∈ releases)
    (own : "speechmesh" ∈ binaries) :
    Suitable ⟨none, none, releases⟩ "stable" linux (releasedBinaries version binaries)
      ⟨"linux", "x86_64", "", "", some "speechmesh"⟩ := by
  constructor
  case listed => exact listed
  case channel =>
    have name : requestedName ⟨none, none, []⟩ "stable" = defaultChannel := by decide
    exact congrArg toAsciiLowercase name.symm
  case offered => exact List.mem_map.mpr ⟨"speechmesh", own, rfl⟩
  case matching => decide +kernel
  case named => exact .inr rfl

/-- The candidate that such a release is, with its first asset. -/
def offered (version : String) (binaries : List String) (first : String) :
    ManifestRelease × String × ManifestAsset :=
  (releasedBinaries version binaries, "stable", ⟨"linux", "x86_64", "", "", some first⟩)

theorem releasedBinaries_preorder {versions : List (String × List String)}
    (known : ∀ version ∈ versions, parseSemver threeVersions version.1 ≠ none) :
    TotalPreorderOn (newestFirst threeVersions) {offer | offer ∈
      candidates ⟨none, none, versions.map fun version => releasedBinaries version.1 version.2⟩
        "stable" linux} := by
  apply preorder_of_semantic
  intro release asset offer
  obtain ⟨version, listed, rfl⟩ := List.mem_map.mp offer.listed
  exact known version listed

def ownFirst : UpdateManifest :=
  ⟨none, none, [releasedBinaries "1.0.0" ["speechmeshd", "speechmesh"],
    releasedBinaries "2.0.0" ["speechmesh", "speechmeshd"]]⟩

theorem ownFirst_found : FindsSuitable threeVersions ownFirst "stable" linux mergeSorting := by
  apply (findsSuitable_iff rfl).mpr
  intro _
  have preorder : TotalPreorderOn (newestFirst threeVersions)
      {offer | offer ∈ candidates ownFirst "stable" linux} := by
    apply @releasedBinaries_preorder
      [("1.0.0", ["speechmeshd", "speechmesh"]), ("2.0.0", ["speechmesh", "speechmeshd"])]
    decide
  have listed : candidates ownFirst "stable" linux =
      [offered "1.0.0" ["speechmeshd", "speechmesh"] "speechmeshd",
        offered "2.0.0" ["speechmesh", "speechmeshd"] "speechmesh"] := by decide +kernel
  refine ⟨fun _ first least => ?_, fun unordered => absurd preorder unordered⟩
  obtain ⟨before, after, split, -, notGreater⟩ := least
  rw [listed] at split
  rcases before with _ | ⟨older, before⟩
  · obtain ⟨rfl, rfl⟩ := List.cons.inj split
    have newer : newestFirst threeVersions
        (offered "1.0.0" ["speechmeshd", "speechmesh"] "speechmeshd")
        (offered "2.0.0" ["speechmesh", "speechmeshd"] "speechmesh") = .gt := by decide +kernel
    exact absurd newer (notGreater _ (List.mem_singleton_self _))
  · have member : first ∈ [offered "2.0.0" ["speechmesh", "speechmeshd"] "speechmesh"] := by
      rw [(List.cons.inj split).2]
      exact List.mem_append_right before List.mem_cons_self
    rw [List.mem_singleton.mp member]
    exact .inr rfl

/-- An asset of the server hides that of the client, in the same release and in a newer one. -/
theorem server_asset_hides :
    ¬ FindsSuitable threeVersions
      ⟨none, none, [releasedBinaries "2.0.0" ["speechmeshd", "speechmesh"]]⟩ "stable" linux
        mergeSorting ∧
    ¬ FindsSuitable threeVersions ⟨none, none, [releasedBinaries "2.0.0" ["speechmeshd"],
      releasedBinaries "1.0.0" ["speechmesh"]]⟩ "stable" linux mergeSorting := by
  constructor
  · apply @not_findsSuitable _ _ _ _ _ _ _ _ _ rfl
      (releasedBinaries_suitable List.mem_cons_self (by decide))
      (@releasedBinaries_preorder [("2.0.0", ["speechmeshd", "speechmesh"])] (by decide))
      (offered "2.0.0" ["speechmeshd", "speechmesh"] "speechmeshd")
    · exact ⟨[], [], by decide +kernel, by simp, by simp⟩
    · rintro (unnamed | own)
      · cases unnamed
      · exact absurd own (by decide)
  · apply @not_findsSuitable _ _ _ _ _ _ _ _ _ rfl
      (@releasedBinaries_suitable _ "1.0.0" ["speechmesh"] (by simp) (by decide))
      (@releasedBinaries_preorder [("2.0.0", ["speechmeshd"]), ("1.0.0", ["speechmesh"])]
        (by decide))
      (offered "2.0.0" ["speechmeshd"] "speechmeshd")
    · exact ⟨[], [offered "1.0.0" ["speechmesh"] "speechmesh"], by decide +kernel, by simp,
        by decide +kernel⟩
    · rintro (unnamed | own)
      · cases unnamed
      · exact absurd own (by decide)

end SpeechMesh.Soundness
