import Mathlib.Data.Nat.Basic
import SpeechMesh.Soundness.BinaryReplacement

/-! # Only verified releases are installed

An update that a manifest drives, and that is not forced, puts nothing at the target but bytes with
the checksum of a release that the manifest offers under a newer version.
-/

namespace SpeechMesh.Soundness

open Async Model

variable {Version : Type} [LinearOrder Version] {install : Installation Version}

/-! ## Releases -/

/-- Version, address and checksum are those of one release of the manifest. -/
def Offers (envelope : UpdateManifestEnvelope) (release : ResolvedUpdate) : Prop :=
  match envelope with
  | .legacy manifest => release.version = manifest.version ∧ release.url = manifest.url ∧
      release.sha256 = manifest.sha256
  | .rich manifest => ∃ offered ∈ manifest.releases, ∃ asset ∈ offered.assets,
      release.version = offered.version ∧ release.url = asset.url ∧ release.sha256 = asset.sha256

/-- The version is a valid semantic version greater than the one that is running. -/
def NewerVersion (install : Installation Version) (version : String) : Prop :=
  ∃ running newer, parseSemver install install.appVersion = some running ∧
    parseSemver install version = some newer ∧ running < newer

theorem releaseCandidate_eq_some {manifest : UpdateManifest} {channel : String}
    {target : ClientTarget} {offered : ManifestRelease}
    {candidate : ManifestRelease × String × ManifestAsset}
    (found : releaseCandidate manifest channel target offered = some candidate) :
    candidate.1 = offered ∧ candidate.2.2 ∈ offered.assets := by
  simp only [releaseCandidate] at found
  split at found
  · obtain ⟨asset, chosen, rfl⟩ := Option.map_eq_some_iff.mp found
    exact ⟨rfl, List.mem_of_find?_eq_some chosen⟩
  · cases found

/-- What is resolved is the candidate that was sorted first. -/
theorem resolveFirst_ok {channel : String} {target : ClientTarget} {update : ResolvedUpdate}
    {sorted : List (ManifestRelease × String × ManifestAsset)}
    (resolved : resolveFirst channel target sorted = .ok update) :
    ∃ release releaseChannel asset rest, sorted = (release, releaseChannel, asset) :: rest ∧
      checkBinaryName asset = .ok () ∧ update = {
        version := release.version
        channel := releaseChannel
        url := asset.url
        sha256 := asset.sha256
        target := ⟨canonicalPlatform asset.platform, canonicalArch asset.arch⟩
        notesUrl := release.notesUrl
        publishedAt := release.publishedAt } := by
  cases sorted with
  | nil => cases resolved
  | cons first rest =>
    obtain ⟨_, named, resolved⟩ := exists_of_bind_ok resolved
    exact ⟨_, _, _, rest, rfl, named, (Except.ok.inj resolved).symm⟩

theorem selectManifestRelease_offers {manifest : UpdateManifest} {channel : String}
    {target : ClientTarget} {release : ResolvedUpdate}
    (selected : selectManifestRelease install manifest channel target = .ok release) :
    Offers (.rich manifest) release := by
  obtain ⟨_, _, selected⟩ := exists_of_bind_ok selected
  obtain ⟨offered, releaseChannel, asset, rest, sorted, -, rfl⟩ := resolveFirst_ok selected
  -- sorting only moves the candidates
  have member := (install.sortBy_perm (newestFirst install) _).mem_iff.mp
    (sorted ▸ List.mem_cons_self ..)
  obtain ⟨source, listed, found⟩ := List.mem_filterMap.mp member
  obtain ⟨rfl, chosen⟩ := releaseCandidate_eq_some found
  exact ⟨offered, listed, asset, chosen, rfl, rfl, rfl⟩

theorem resolveEnvelope_offers {envelope : UpdateManifestEnvelope} {channel : String}
    {target : ClientTarget} {release : ResolvedUpdate}
    (resolved : resolveEnvelope install envelope channel target = .ok release) :
    Offers envelope release := by
  cases envelope with
  | legacy manifest =>
    obtain rfl := Except.ok.inj resolved
    exact ⟨rfl, rfl, rfl⟩
  | rich manifest => exact selectManifestRelease_offers resolved

theorem newer_of_updateAvailable {version : String}
    (available : compareVersions install install.appVersion version = .updateAvailable) :
    NewerVersion install version := by
  rw [compareVersions] at available
  split at available
  · rename_i running newer parsedRunning parsedNewer
    split_ifs at available with later
    exact ⟨running, newer, parsedRunning, parsedNewer, later⟩
  · split_ifs at available

/-- Only a newer version is not refused. -/
theorem newer_of_not_refused {version : String}
    (permitted : refuseUpdate install (compareVersions install install.appVersion version) version =
      none) : NewerVersion install version := by
  apply newer_of_updateAvailable
  cases status : compareVersions install install.appVersion version with
  | updateAvailable => rfl
  | _ => rw [status] at permitted; cases permitted

theorem decoded_eq_ok {β : Type} {reply : HttpReply β} {fetch request read : String} {payload : β}
    (decoded : reply.decoded fetch request read = .ok payload) : reply = .body (.ok payload) := by
  cases reply with
  | failed error => cases decoded
  | status code body => cases decoded
  | body result =>
    cases result with
    | error error => cases decoded
    | ok value => rw [← Except.ok.inj decoded]

/-! ## What may be installed -/

/-- The bytes are those of a release that was offered, is newer, and has their checksum. -/
structure Approved (install : Installation Version) (trace : Trace updater) (bytes : Bytes)
    (envelope : UpdateManifestEnvelope) (release : ResolvedUpdate) : Prop where
  fetched : ∃ url, (⟨.getManifest url, .body (.ok envelope)⟩ : Entry updater) ∈ trace
  offered : Offers envelope release
  newer : NewerVersion install release.version
  downloaded : (⟨.getBinary release.url, .body (.ok bytes)⟩ : Entry updater) ∈ trace
  checksum : eqIgnoreAsciiCase (install.sha256Hex bytes) (trim release.sha256) = true

def Verified (install : Installation Version) (trace : Trace updater) (bytes : Bytes) : Prop :=
  ∃ envelope release, Approved install trace bytes envelope release

/-- The target is as it was, or holds verified bytes. -/
def Sound (install : Installation Version) (target : Path) (old : Option Bytes)
    (trace : Trace updater) (files : Files Path UInt8) : Prop :=
  files target = old ∨ ∃ bytes, files target = some bytes ∧ Verified install trace bytes

/-- Between its two renames a replacement leaves no binary at the target. -/
def SoundOrMoved (install : Installation Version) (target : Path) (old : Option Bytes)
    (trace : Trace updater) (files : Files Path UInt8) : Prop :=
  Sound install target old trace files ∨ files target = none

/-- A file operation of the run failed. -/
def FileOperationFailed (trace : Trace updater) : Prop :=
  ∃ source destination error,
    (⟨.file (.rename source destination), Except.error error⟩ : Entry updater) ∈ trace

theorem Verified.mono {trace later : Trace updater} {bytes : Bytes}
    (verified : Verified install trace bytes) (grown : trace <+: later) :
    Verified install later bytes := by
  obtain ⟨envelope, release, ⟨url, fetched⟩, offered, newer, downloaded, checksum⟩ := verified
  exact ⟨envelope, release, ⟨url, grown.subset fetched⟩, offered, newer,
    grown.subset downloaded, checksum⟩

variable {target : Path} {old : Option Bytes} {trace : Trace updater} {files : Files Path UInt8}

theorem Sound.mono {later : Trace updater} (sound : Sound install target old trace files)
    (grown : trace <+: later) : Sound install target old later files := by
  rcases sound with same | ⟨bytes, stored, verified⟩
  · exact .inl same
  · exact .inr ⟨bytes, stored, verified.mono grown⟩

/-! ## Programs that leave the files alone -/

/-- Nothing but the trace changed, which grew. -/
structure Untouched (trace : Trace updater) (files : Files Path UInt8) (later : Trace updater)
    (after : Files Path UInt8) : Prop where
  files_eq : after = files
  grown : trace <+: later

variable {always : Trace updater → Files Path UInt8 → Prop}

theorem fetchManifest_ensures {url : String}
    (lasting : ∀ later, trace <+: later → always later files) :
    (fetchManifest url).Ensures UpdateStep always
      (fun result later after => Untouched trace files later after ∧
        ∀ envelope, result = .ok envelope →
          (⟨.getManifest url, .body (.ok envelope)⟩ : Entry updater) ∈ later) trace files := by
  intro reply after stepped
  obtain rfl : after = files := stepped
  have grown : trace <+: trace ++ [(⟨.getManifest url, reply⟩ : Entry updater)] :=
    List.prefix_append ..
  refine ⟨lasting _ grown, ⟨rfl, grown⟩, fun envelope decoded => ?_⟩
  obtain rfl := decoded_eq_ok decoded
  exact List.mem_append_right _ (List.mem_singleton_self _)

theorem downloadBinary_ensures {url : String}
    (lasting : ∀ later, trace <+: later → always later files) :
    (downloadBinary url).Ensures UpdateStep always
      (fun result later after => Untouched trace files later after ∧
        ∀ bytes, result = .ok bytes →
          (⟨.getBinary url, .body (.ok bytes)⟩ : Entry updater) ∈ later) trace files := by
  intro reply after stepped
  obtain rfl : after = files := stepped
  have grown : trace <+: trace ++ [(⟨.getBinary url, reply⟩ : Entry updater)] :=
    List.prefix_append ..
  refine ⟨lasting _ grown, ⟨rfl, grown⟩, fun bytes decoded => ?_⟩
  obtain rfl := decoded_eq_ok decoded
  exact List.mem_append_right _ (List.mem_singleton_self _)

/-- The network, the clock and other programs are asked, and no file is changed. -/
def IsRequest : UpdateAction → Prop
  | .getManifest _ | .getBinary _ | .command _ _ | .nowUnixTimeSecs => True
  | _ => False

theorem quiet_ensures {α : Type} {code : UpdateCode α}
    (quiet : code.Within IsRequest fun _ => True)
    (lasting : ∀ later, trace <+: later → always later files) :
    code.Ensures UpdateStep always
      (fun _ later after => Untouched trace files later after) trace files := by
  induction code generalizing trace with
  | done value => exact ⟨rfl, List.prefix_refl trace⟩
  | act action next ih =>
    intro answer after stepped
    have grown : trace <+: trace ++ [(⟨action, answer⟩ : Entry updater)] := List.prefix_append ..
    obtain rfl : after = files := by
      cases action with
      | file operation => exact quiet.1.elim
      | _ => exact stepped
    refine ⟨lasting _ grown, ((ih answer (quiet.2 answer) fun later further => ?_).mono
      (fun _ _ kept => kept) ?_)⟩
    · exact lasting later (grown.trans further)
    · rintro value later _ ⟨rfl, further⟩
      exact ⟨rfl, grown.trans further⟩

theorem restartWith_quiet {program failed unsuccessful : String} {args : List String} :
    (restartWith program args failed unsuccessful).Within IsRequest fun _ => True := by
  refine ⟨trivial, fun output => ?_⟩
  cases output with
  | error error => trivial
  | ok output =>
    change ((if output.success then _ else _ : UpdateCode _)).Within IsRequest _
    split_ifs <;> trivial

theorem restartManagedService_quiet {mode : RestartMode} {serviceName : Option String} :
    (restartManagedService mode serviceName).Within IsRequest fun _ => True := by
  cases mode with
  | none => trivial
  | systemdUser =>
    cases serviceName with
    | none => trivial
    | some service => exact restartWith_quiet
  | launchd =>
    cases serviceName with
    | none => trivial
    | some label =>
      refine ⟨trivial, fun output => ?_⟩
      cases output with
      | error error => trivial
      | ok output =>
        obtain ⟨success, status, stdout⟩ := output
        cases stdout with
        | error error => trivial
        | ok uid => exact restartWith_quiet

theorem restartIfManaged_quiet (mode : RestartMode) (serviceName : Option String) :
    (restartIfManaged mode serviceName).Within IsRequest fun _ => True := by
  rw [restartIfManaged]
  split_ifs
  · trivial
  · refine restartManagedService_quiet.bind fun result _ => ?_
    cases result with
    | error error => trivial
    | ok _ => trivial

/-! ## Every moment of an update -/

/-- An update that has ended. -/
def UpdateEnded (install : Installation Version) (target : Path) (old : Option Bytes)
    (trace : Trace updater) (files : Files Path UInt8) : Prop :=
  Sound install target old trace files ∨ FileOperationFailed trace

/-- As long as the target is as it was, nothing can be wrong. -/
theorem soundOrMoved_lasting (same : files target = old) (later : Trace updater) :
    SoundOrMoved install target old later files :=
  .inl (.inl same)

theorem replaceBinary_sound {bytes : Bytes} (same : files target = old)
    (verified : Verified install trace bytes) :
    (replaceBinary target bytes).Ensures UpdateStep (SoundOrMoved install target old)
      (fun result later after => UpdateEnded install target old later after ∧
        (result = .ok () → Sound install target old later after)) trace files := by
  cases stored : files target with
  | none =>
    refine (replaceBinary_absent ⟨stored, rfl⟩).mono ?_ ?_
    · exact fun later after still => .inr still.absent
    · rintro result later after ⟨still, failed⟩
      have unchanged : after target = old := by rw [still.absent, ← stored, same]
      exact ⟨.inl (.inl unchanged), fun _ => .inl unchanged⟩
  | some binary =>
    refine (replaceBinary_ensures stored rfl).prefixed.mono ?_ ?_
    · rintro later after ⟨grown, swapping⟩
      cases swapping with
      | before kept => exact .inl (.inl (by rw [kept, ← stored, same]))
      | between gone => exact .inr gone
      | after replaced => exact .inl (.inr ⟨bytes, replaced.1, verified.mono grown⟩)
    · rintro result later after ⟨grown, swapped⟩
      have ended := swapped.ended
      cases result with
      | ok _ =>
        have sound : Sound install target old later after :=
          .inr ⟨bytes, ended.1, verified.mono grown⟩
        exact ⟨.inl sound, fun _ => sound⟩
      | error error =>
        refine ⟨?_, nofun⟩
        rcases ended with kept | ⟨backup, reason, _, failed⟩
        · exact .inl (.inl (by rw [kept, ← stored, same]))
        · exact .inr ⟨backup, target, reason, failed⟩

theorem applyUpdate_sound {args : SelfUpdateArgs} {bytes : Bytes} (same : files target = old)
    (verified : Verified install trace bytes) :
    (applyUpdate args target bytes).Ensures UpdateStep (SoundOrMoved install target old)
      (fun _ => UpdateEnded install target old) trace files := by
  rw [applyUpdate]
  split_ifs with dry
  · exact .inl (.inl same)
  · refine (replaceBinary_sound same verified).bind ?_
    rintro result later after ⟨ended, sound⟩
    cases result with
    | error error => exact ended
    | ok _ =>
      refine (quiet_ensures (restartIfManaged_quiet ..)
        fun _ grown => .inl ((sound rfl).mono grown)).mono (fun _ _ kept => kept) ?_
      rintro result last _ ⟨rfl, grown⟩
      exact .inl ((sound rfl).mono grown)

theorem installRelease_sound {args : SelfUpdateArgs} {url : String}
    {envelope : UpdateManifestEnvelope} {release : ResolvedUpdate} (same : files target = old)
    (unforced : args.force = false)
    (fetched : (⟨.getManifest url, .body (.ok envelope)⟩ : Entry updater) ∈ trace)
    (offered : Offers envelope release) :
    (installRelease install args release target).Ensures UpdateStep
      (SoundOrMoved install target old) (fun _ => UpdateEnded install target old) trace files := by
  rw [installRelease, unforced, if_neg Bool.false_ne_true]
  cases refused : refuseUpdate install (compareVersions install install.appVersion release.version)
      release.version with
  | some reason => exact .inl (.inl same)
  | none =>
    have newer := newer_of_not_refused refused
    refine (downloadBinary_ensures fun later _ => soundOrMoved_lasting same later).bind ?_
    rintro result later _ ⟨⟨rfl, grown⟩, downloaded⟩
    cases result with
    | error error => exact .inl (.inl same)
    | ok bytes =>
      change (if _ then _ else _ : UpdateCode _).Ensures _ _ _ _ _
      split_ifs with checksum
      · have verified : Verified install later bytes :=
          ⟨envelope, release, ⟨url, grown.subset fetched⟩, offered, newer, downloaded bytes rfl,
            checksum⟩
        refine (applyUpdate_sound same verified).bind ?_
        intro result last after ended
        cases result with
        | error error => exact ended
        | ok performed => exact ended
      · exact .inl (.inl same)

/-- Resolving a release of a manifest leaves everything as it is. -/
theorem resolveManifestRelease_ensures {url channel : String} {client : ClientTarget}
    (lasting : ∀ later, trace <+: later → always later files) :
    (resolveManifestRelease install url channel client).Ensures UpdateStep always
      (fun result later after => Untouched trace files later after ∧
        ∀ release, result = .ok release → ∃ envelope, Offers envelope release ∧
          (⟨.getManifest url, .body (.ok envelope)⟩ : Entry updater) ∈ later) trace files := by
  refine (fetchManifest_ensures lasting).bind ?_
  rintro result later after ⟨untouched, fetched⟩
  cases result with
  | error error => exact ⟨untouched, nofun⟩
  | ok envelope =>
    refine ⟨untouched, fun release resolved => ⟨envelope, ?_, fetched envelope rfl⟩⟩
    exact resolveEnvelope_offers resolved

/-- The path that an update replaces. -/
def targetOf (install : Installation Version) (binaryPath : Option Path) : Option Path :=
  binaryPath.or install.currentExe.toOption

omit [LinearOrder Version] in
theorem getD_eq_of_targetOf {binaryPath : Option Path} {currentExe : Path}
    (running : install.currentExe = .ok currentExe)
    (named : targetOf install binaryPath = some target) :
    binaryPath.getD currentExe = target := by
  rw [targetOf, running] at named
  cases binaryPath with
  | none => exact Option.some.inj named
  | some path => exact Option.some.inj named

theorem executeSelfUpdate_sound {args : SelfUpdateArgs} (same : files target = old)
    (manifest : args.manifestUrl.isSome) (unforced : args.force = false)
    (named : targetOf install args.binaryPath = some target) :
    (executeSelfUpdate install args).Ensures UpdateStep (SoundOrMoved install target old)
      (fun _ => UpdateEnded install target old) trace files := by
  obtain ⟨url, given⟩ := Option.isSome_iff_exists.mp manifest
  rw [executeSelfUpdate, resolveUpdatePlan, given]
  cases args.assetUrl with
  | some assetUrl => exact .inl (.inl same)
  | none =>
    refine (resolveManifestRelease_ensures fun later _ => soundOrMoved_lasting same later).bind ?_
    rintro result later _ ⟨⟨rfl, _⟩, resolved⟩
    cases result with
    | error error => exact .inl (.inl same)
    | ok release =>
      obtain ⟨envelope, offered, fetched⟩ := resolved release rfl
      cases running : install.currentExe with
      | error error => exact .inl (.inl same)
      | ok currentExe =>
        change (installRelease install args release (args.binaryPath.getD currentExe)).Ensures
          _ _ _ _ _
        rw [getD_eq_of_targetOf running named]
        exact installRelease_sound same unforced fetched offered

theorem runAutoUpdateCycle_sound {args : AutoUpdateArgs} (same : files target = old)
    (named : targetOf install args.binaryPath = some target) :
    (runAutoUpdateCycle install args).Ensures UpdateStep (SoundOrMoved install target old)
      (fun _ => UpdateEnded install target old) trace files := by
  intro now after stepped
  obtain rfl : after = files := stepped
  refine ⟨soundOrMoved_lasting same _, ?_⟩
  refine (resolveManifestRelease_ensures fun later _ => soundOrMoved_lasting same later).bind ?_
  rintro result later _ ⟨⟨rfl, _⟩, _⟩
  cases result with
  | error error => exact .inl (.inl same)
  | ok release =>
    change (if _ then _ else _ : UpdateCode _).Ensures _ _ _ _ _
    split_ifs with available
    · refine (executeSelfUpdate_sound same rfl rfl named).bind ?_
      exact fun result last after ended => ended
    · exact .inl (.inl same)

/-! ## Updates that a manifest drives -/

/-- A cycle of the auto-update, or a self-update from a manifest that is not forced. -/
inductive ManifestUpdate where
  | autoUpdateCycle (args : AutoUpdateArgs)
  | selfUpdate (args : SelfUpdateArgs) (manifest : args.manifestUrl.isSome)
      (unforced : args.force = false)

namespace ManifestUpdate

def binaryPath : ManifestUpdate → Option Path
  | .autoUpdateCycle args => args.binaryPath
  | .selfUpdate args _ _ => args.binaryPath

def run (install : Installation Version) : ManifestUpdate → UpdateCode Unit
  | .autoUpdateCycle args => do
      let _ ← runAutoUpdateCycle install args
      return ()
  | .selfUpdate args _ _ => do
      let _ ← executeSelfUpdate install args
      return ()

end ManifestUpdate

/-- At every moment the target is as it was, or holds verified bytes, or is moved away; at the end
it is as it was or holds verified bytes, unless a file operation failed. -/
theorem manifest_update_verified (update : ManifestUpdate)
    (named : targetOf install update.binaryPath = some target) {after : Files Path UInt8}
    {last : UpdateCode Unit}
    (ran : (update.run install).Performs UpdateStep files trace last after) :
    SoundOrMoved install target (files target) trace after ∧
      (last = .done () → UpdateEnded install target (files target) trace after) := by
  have ensures : (update.run install).Ensures UpdateStep
      (SoundOrMoved install target (files target))
      (fun _ => UpdateEnded install target (files target)) [] files := by
    cases update with
    | autoUpdateCycle args =>
      refine (runAutoUpdateCycle_sound rfl named).bind ?_
      exact fun report later after ended => ended
    | selfUpdate args manifest unforced =>
      refine (executeSelfUpdate_sound rfl manifest unforced named).bind ?_
      exact fun report later after ended => ended
  obtain ⟨sound, further⟩ := ran.ensures (soundOrMoved_lasting rfl []) ensures
  refine ⟨sound, ?_⟩
  rintro rfl
  exact further

/-! ## An installation -/

/-- Version 0.1.0 on Linux. Only two versions and one digest are known to it. -/
def installed : Installation ℕ where
  appVersion := "0.1.0"
  os := "linux"
  arch := "x86_64"
  currentExe := .ok speechmesh
  parseVersion version :=
    if version = "0.1.0" then some 1 else if version = "0.2.0" then some 2 else none
  sha256Hex bytes :=
    if bytes = [2] then "dbc1b4c900ffe48d575b5da5c638040125f65db0fe3e24494b76ea986457d986" else ""
  encodeReport _ := []
  sortBy order items := items.mergeSort fun left right => order left right != .gt
  sortBy_perm _ items := List.mergeSort_perm items _

/-- A manifest that offers version 0.2.0. -/
def offering : UpdateManifestEnvelope :=
  .legacy ⟨"v0.2.0", "https://example.com/speechmesh",
    " dbc1b4c900ffe48d575b5da5c638040125f65db0fe3e24494b76ea986457d986\n"⟩

theorem manifest_update_verified_newer :
    let ran := ((ManifestUpdate.selfUpdate { manifestUrl := some "", channel := "stable" }
      rfl rfl).run installed).simulate (obliging offering [2]) [] leftover
    UpdateEnded installed speechmesh (some [1]) ran.1 ran.2.1 ∧ ran.2.1 speechmesh = some [2] := by
  intro ran
  obtain ⟨trace, whole, performed⟩ := Code.simulate_performs (obliging_step offering [2])
    ((ManifestUpdate.selfUpdate { manifestUrl := some "", channel := "stable" } rfl rfl).run
      installed) [] leftover
  have verified : UpdateEnded installed speechmesh (some [1]) trace ran.2.1 :=
    (manifest_update_verified _ rfl performed).2 rfl
  exact ⟨whole ▸ verified, by decide⟩

end SpeechMesh.Soundness
