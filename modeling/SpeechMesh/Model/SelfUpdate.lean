import Mathlib.Order.Lattice
import SpeechMesh.Choice.MixedOrder
import SpeechMesh.Model.Updater

/-! # Self-update and auto-update

The functions of the unified binary behind `self-update` and `auto-update`. An error is its text,
with its contexts.
-/

namespace SpeechMesh.Model

open Async Choice

def defaultChannel : String := "stable"

/-! ## Targets and versions -/

def canonicalPlatform (value : String) : String :=
  let text := toAsciiLowercase (trim value)
  if text = "darwin" ∨ text = "macos" ∨ text = "mac" ∨ text = "osx" then "macos"
  else if text = "linux" then "linux"
  else text

def canonicalArch (value : String) : String :=
  let text := toAsciiLowercase (trim value)
  if text = "x86_64" ∨ text = "amd64" then "x86_64"
  else if text = "aarch64" ∨ text = "arm64" then "aarch64"
  else text

/-- `str::trim_start_matches('v')`. -/
def trimStartV (value : String) : String := String.ofList (value.toList.dropWhile (· == 'v'))

/-- `str::eq_ignore_ascii_case`. -/
def eqIgnoreAsciiCase (left right : String) : Bool :=
  left.toList.map Char.toLower == right.toList.map Char.toLower

section Releases

variable {Version : Type} [LinearOrder Version] (install : Installation Version)

def currentTarget : ClientTarget := ⟨canonicalPlatform install.os, canonicalArch install.arch⟩

def parseSemver (value : String) : Option Version := install.parseVersion (trimStartV value)

def compareVersions (current target : String) : UpdateStatus :=
  match parseSemver install current, parseSemver install target with
  | some currentVersion, some targetVersion =>
      if currentVersion < targetVersion then .updateAvailable
      else if targetVersion = currentVersion then .upToDate
      else .downgradeAvailable
  | _, _ => if current = target then .upToDate else .versionUnknown

def compareManifestVersions (left right : String) : Ordering :=
  match parseSemver install left, parseSemver install right with
  | some leftVersion, some rightVersion => compare leftVersion rightVersion
  | _, _ => compare left right

/-! ## Selecting a release -/

def assetMatchesTarget (asset : ManifestAsset) (target : ClientTarget) : Bool :=
  canonicalPlatform asset.platform == target.platform && canonicalArch asset.arch == target.arch

/-- A release of the channel with its channel and its asset for the target. -/
def releaseCandidate (manifest : UpdateManifest) (normalizedChannel : String)
    (target : ClientTarget) (release : ManifestRelease) :
    Option (ManifestRelease × String × ManifestAsset) :=
  let releaseChannel := release.channel.getD (manifest.defaultChannel.getD defaultChannel)
  if toAsciiLowercase releaseChannel = normalizedChannel then
    (release.assets.find? fun asset => assetMatchesTarget asset target).map fun asset =>
      (release, releaseChannel, asset)
  else none

def checkSchema (manifest : UpdateManifest) : Except String Unit :=
  match manifest.schema with
  | some schema =>
      if schema ≠ "" ∧ schema ≠ "speechmesh/update-manifest.v1" then
        .error ("unsupported update manifest schema: " ++ schema)
      else .ok ()
  | none => .ok ()

def checkBinaryName (asset : ManifestAsset) : Except String Unit :=
  match asset.binaryName with
  | some binaryName =>
      if binaryName ≠ "speechmesh" then
        .error ("manifest asset binary_name " ++ binaryName ++ " does not match expected speechmesh")
      else .ok ()
  | none => .ok ()

def newestFirst (left right : ManifestRelease × String × ManifestAsset) : Ordering :=
  (compareManifestVersions install left.1.version right.1.version).swap

/-- `select_manifest_release` once the candidates are sorted. -/
def resolveFirst (channel : String) (target : ClientTarget) :
    List (ManifestRelease × String × ManifestAsset) → Except String ResolvedUpdate
  | [] =>
      throw ("no matching release found for channel " ++ channel ++ " and platform " ++
        target.platform ++ "/" ++ target.arch)
  | (release, releaseChannel, asset) :: _ => do
      checkBinaryName asset
      return {
        version := release.version
        channel := releaseChannel
        url := asset.url
        sha256 := asset.sha256
        target := ⟨canonicalPlatform asset.platform, canonicalArch asset.arch⟩
        notesUrl := release.notesUrl
        publishedAt := release.publishedAt }

def selectManifestRelease (manifest : UpdateManifest) (requestedChannel : String)
    (target : ClientTarget) : Except String ResolvedUpdate := do
  checkSchema manifest
  let channel :=
    if trim requestedChannel = "" then manifest.defaultChannel.getD defaultChannel
    else trim requestedChannel
  let candidates :=
    manifest.releases.filterMap (releaseCandidate manifest (toAsciiLowercase channel) target)
  resolveFirst channel target (install.sortBy (newestFirst install) candidates)

/-- `slice::sort_by`. A comparison that is no total preorder on the items leaves them in some order,
or makes it panic (`none`). -/
structure SliceSort where
  sortBy : {α : Type} → (α → α → Ordering) → List α → Option (List α)
  perm : ∀ {α : Type} {order : α → α → Ordering} {items sorted : List α},
    sortBy order items = some sorted → sorted.Perm items
  stable : ∀ {α : Type} {order : α → α → Ordering} {items : List α},
    TotalPreorderOn order {item | item ∈ items} →
      sortBy order items = some (items.mergeSort fun left right => order left right != .gt)

/-- `select_manifest_release` where the sort may panic (`none`). -/
def selectWithSort (sort : SliceSort) (manifest : UpdateManifest) (requestedChannel : String)
    (target : ClientTarget) : Option (Except String ResolvedUpdate) :=
  match checkSchema manifest with
  | .error error => some (.error error)
  | .ok _ =>
      let channel :=
        if trim requestedChannel = "" then manifest.defaultChannel.getD defaultChannel
        else trim requestedChannel
      let candidates :=
        manifest.releases.filterMap (releaseCandidate manifest (toAsciiLowercase channel) target)
      (sort.sortBy (newestFirst install) candidates).map (resolveFirst channel target)

/-- The decoded part of `resolve_manifest_release`. -/
def resolveEnvelope (envelope : UpdateManifestEnvelope) (requestedChannel : String)
    (target : ClientTarget) : Except String ResolvedUpdate :=
  match envelope with
  | .legacy manifest =>
      .ok ⟨manifest.version, requestedChannel, manifest.url, manifest.sha256, target, none, none⟩
  | .rich manifest => selectManifestRelease install manifest requestedChannel target

/-! ## Requests -/

/-- What `reqwest` makes of a reply, with the contexts for its three ways to fail. -/
def HttpReply.decoded {β : Type} (reply : HttpReply β) (fetch request read : String) :
    Except String β :=
  match reply with
  | .failed error => .error (fetch ++ ": " ++ error)
  | .status code _ => .error (request ++ ": " ++ code)
  | .body (.error error) => .error (read ++ ": " ++ error)
  | .body (.ok payload) => .ok payload

def fetchManifest (url : String) : UpdateCode (Except String UpdateManifestEnvelope) := do
  let reply : HttpReply UpdateManifestEnvelope ← ask (.getManifest url)
  return reply.decoded ("failed to fetch manifest " ++ url) ("manifest request failed for " ++ url)
    ("failed to decode manifest " ++ url)

def downloadBinary (url : String) : UpdateCode (Except String Bytes) := do
  let reply : HttpReply Bytes ← ask (.getBinary url)
  return reply.decoded ("failed to download asset " ++ url) ("asset request failed for " ++ url)
    ("failed to read asset body " ++ url)

def resolveManifestRelease (url requestedChannel : String) (target : ClientTarget) :
    UpdateCode (Except String ResolvedUpdate) := do
  match ← fetchManifest url with
  | .error error => return .error error
  | .ok envelope => return resolveEnvelope install envelope requestedChannel target

def resolveUpdatePlan (args : SelfUpdateArgs) : UpdateCode (Except String ResolvedUpdate) :=
  match args.manifestUrl, args.assetUrl with
  | some manifestUrl, none =>
      resolveManifestRelease install manifestUrl args.channel (currentTarget install)
  | none, some assetUrl =>
      match args.sha256 with
      | none => return .error "--sha256 is required with --asset-url"
      | some sha256 => return .ok {
          version := args.version.getD "unknown"
          channel := args.channel
          url := assetUrl
          sha256 := sha256
          target := currentTarget install
          notesUrl := none
          publishedAt := none }
  | some _, some _ => return .error "use either --manifest-url or --asset-url, not both"
  | none, none => return .error "either --manifest-url or --asset-url is required"

end Releases

/-! ## Replacing the binary -/

/-- Go on after an operation that must succeed; its error gets a context. -/
def orContext {α : Type} (context : String) (result : Except String Unit)
    (next : UpdateCode (Except String α)) : UpdateCode (Except String α) :=
  match result with
  | .ok () => next
  | .error error => return .error (context ++ ": " ++ error)

def copyPermissions (source destination : Path) : UpdateCode (Except String Unit) := do
  let read : Except String Unit ← onFile (.metadata source)
  orContext ("failed to read permissions for " ++ source.display) read do
    let applied : Except String Unit ← onFile (.setPermissions destination)
    orContext ("failed to apply permissions to " ++ destination.display) applied (return .ok ())

def updatePath (dir : Path) (fileName : FileName) : Path :=
  dir.join ("." ++ fileName.toStringLossy ++ ".update")

def prevPath (dir : Path) (fileName : FileName) : Path :=
  dir.join ("." ++ fileName.toStringLossy ++ ".prev")

/-- `replace_binary` once the new bytes are stored beside the target. -/
def swapBinary (target tempPath backupPath : Path) : UpdateCode (Except String Unit) := do
  let backedUp : Except String Unit ← onFile (.rename target backupPath)
  orContext ("failed to back up current binary " ++ target.display) backedUp do
    let replaced : Except String Unit ← onFile (.rename tempPath target)
    match replaced with
    | .error error => do
        let _ ← onFile (.rename backupPath target)
        return .error ("failed to replace binary " ++ target.display ++ ": " ++ error)
    | .ok () => return .ok ()

def replaceBinary (target : Path) (bytes : Bytes) : UpdateCode (Except String Unit) := do
  match target.parent, target.fileName with
  | none, _ => return .error ("target binary has no parent directory: " ++ target.display)
  | some _, none => return .error ("target binary has no file name: " ++ target.display)
  | some dir, some fileName => do
      let tempPath := updatePath dir fileName
      let backupPath := prevPath dir fileName
      let written : Except String Unit ← onFile (.write tempPath bytes)
      orContext ("failed to write temp update " ++ tempPath.display) written do
        match ← copyPermissions target tempPath with
        | .error error => return .error error
        | .ok () => do
            match ← onFile (.isThere backupPath) with
            | true => do
                let removed : Except String Unit ← onFile (.removeFile backupPath)
                orContext ("failed to remove old backup binary " ++ backupPath.display) removed
                  (swapBinary target tempPath backupPath)
            | false => swapBinary target tempPath backupPath

/-! ## Restarting the service -/

def updateStatusLabel : UpdateStatus → String
  | .updateAvailable => "update_available"
  | .upToDate => "up_to_date"
  | .downgradeAvailable => "downgrade_available"
  | .versionUnknown => "version_unknown"

def restartModeLabel : RestartMode → String
  | .none => "none"
  | .launchd => "launchd"
  | .systemdUser => "systemd-user"

def restartHint (os : String) (mode : RestartMode) (serviceName : Option String) : Option String :=
  match mode with
  | .none =>
      if os = "macos" then some ("If this binary is managed by launchd, run " ++
        "`launchctl kickstart -k gui/$(id -u)/<label>` after updating.")
      else if os = "linux" then some ("If this binary is managed by systemd --user, run " ++
        "`systemctl --user restart <service>` after updating.")
      else none
  | .launchd => some ("Service restart command: launchctl kickstart -k gui/$(id -u)/" ++
      serviceName.getD "<label>")
  | .systemdUser => some ("Service restart command: systemctl --user restart " ++
      serviceName.getD "<service>")

/-- Run the command that restarts the service. -/
def restartWith (program : String) (args : List String) (failed unsuccessful : String) :
    UpdateCode (Except String Unit) := do
  let output : Except String CommandOutput ← ask (.command program args)
  match output with
  | .error error => return .error (failed ++ ": " ++ error)
  | .ok output =>
      if output.success then return .ok ()
      else return .error (unsuccessful ++ " with status " ++ output.status)

def restartManagedService (mode : RestartMode) (serviceName : Option String) :
    UpdateCode (Except String Unit) := do
  match mode, serviceName with
  | .none, _ => return .ok ()
  | .launchd, none => return .error "--service-name is required with --restart-mode launchd"
  | .launchd, some label => do
      let output : Except String CommandOutput ← ask (.command "id" ["-u"])
      match output with
      | .error error => return .error ("failed to determine current uid: " ++ error)
      | .ok output =>
          match output.stdout with
          | .error error => return .error ("launchd uid output was not utf-8: " ++ error)
          | .ok uid =>
              restartWith "launchctl"
                ["kickstart", "-k", "gui/" ++ trim uid ++ "/" ++ label]
                ("failed to restart launchd service " ++ label)
                ("launchd restart failed for " ++ label)
  | .systemdUser, none =>
      return .error "--service-name is required with --restart-mode systemd-user"
  | .systemdUser, some service =>
      restartWith "systemctl" ["--user", "restart", service]
        ("failed to restart systemd --user service " ++ service)
        ("systemd --user restart failed for " ++ service)

/-! ## Updating -/

section Update

variable {Version : Type} [LinearOrder Version] (install : Installation Version)

/-- Why an update that is not forced is refused. -/
def refuseUpdate (status : UpdateStatus) (version : String) : Option String :=
  match status with
  | .updateAvailable => none
  | .upToDate => some ("target version " ++ version ++ " matches current version " ++
      install.appVersion ++ "; pass --force to replace anyway")
  | .downgradeAvailable => some ("target version " ++ version ++
      " is older than current version " ++ install.appVersion ++
      "; pass --force to replace anyway")
  | .versionUnknown => some ("unable to compare current version " ++ install.appVersion ++
      " with target " ++ version ++ "; pass --force to replace anyway")

/-- Restart the service if there is one; the flag tells whether it was restarted. -/
def restartIfManaged (mode : RestartMode) (serviceName : Option String) :
    UpdateCode (Except String Bool) := do
  if mode = .none then return .ok false
  else
    match ← restartManagedService mode serviceName with
    | .error error => return .error error
    | .ok () => return .ok true

/-- Replace the binary and restart the service. -/
def applyUpdate (args : SelfUpdateArgs) (binaryPath : Path) (bytes : Bytes) :
    UpdateCode (Except String Bool) := do
  if args.dryRun then return .ok false
  else
    match ← replaceBinary binaryPath bytes with
    | .error error => return .error error
    | .ok () => restartIfManaged args.restartMode args.serviceName

/-- `execute_self_update` once the release and the target binary are known. -/
def installRelease (args : SelfUpdateArgs) (release : ResolvedUpdate) (binaryPath : Path) :
    UpdateCode (Except String SelfUpdateReport) := do
  let status := compareVersions install install.appVersion release.version
  match if args.force then none else refuseUpdate install status release.version with
  | some error => return .error error
  | none =>
      match ← downloadBinary release.url with
      | .error error => return .error error
      | .ok bytes =>
          let actualSha := install.sha256Hex bytes
          if eqIgnoreAsciiCase actualSha (trim release.sha256) then
            match ← applyUpdate args binaryPath bytes with
            | .error error => return .error error
            | .ok performed => return .ok {
                currentVersion := install.appVersion
                targetVersion := release.version
                status := status
                executable := binaryPath.display
                channel := release.channel
                url := release.url
                sha256 := actualSha
                bytes := bytes.length
                dryRun := args.dryRun
                applied := !args.dryRun
                restart := {
                  requestedMode := restartModeLabel args.restartMode
                  serviceName := args.serviceName
                  performed := performed
                  hint := restartHint install.os args.restartMode args.serviceName } }
          else
            return .error ("sha256 mismatch: expected " ++ release.sha256 ++ ", got " ++ actualSha)

/-- The path of the running binary is asked for even when another one is given. -/
def executeSelfUpdate (args : SelfUpdateArgs) : UpdateCode (Except String SelfUpdateReport) := do
  match ← resolveUpdatePlan install args with
  | .error error => return .error error
  | .ok release =>
      match install.currentExe with
      | .error error => return .error ("failed to resolve current executable: " ++ error)
      | .ok currentExe => installRelease install args release (args.binaryPath.getD currentExe)

/-! ## Auto-update -/

def buildAutoUpdateSelfUpdateArgs (args : AutoUpdateArgs) : SelfUpdateArgs :=
  { manifestUrl := some args.manifestUrl
    channel := args.channel
    assetUrl := none
    sha256 := none
    version := none
    dryRun := false
    force := false
    restartMode := args.restartMode
    serviceName := args.serviceName
    binaryPath := args.binaryPath }

/-- The report a cycle starts from. -/
def initialReport (args : AutoUpdateArgs) (now : UInt64) : AutoUpdateCycleReport :=
  let executable := args.binaryPath.getD
    (install.currentExe.toOption.getD ⟨[.normal (.utf8 "speechmesh")]⟩)
  { unixTimeSecs := now
    event := "check_failed"
    status := "error"
    currentVersion := install.appVersion
    targetVersion := none
    executable := executable.display
    manifestUrl := args.manifestUrl
    channel := args.channel
    intervalSecs := args.intervalSecs
    releaseUrl := none
    releaseSha256 := none
    bytes := none
    applied := false
    restartPerformed := false
    error := none }

/-- The report of a cycle that found a release. -/
def foundReport (report : AutoUpdateCycleReport) (status : UpdateStatus)
    (release : ResolvedUpdate) : AutoUpdateCycleReport :=
  { report with
    status := updateStatusLabel status
    targetVersion := some release.version
    releaseUrl := some release.url
    releaseSha256 := some release.sha256 }

/-- The report of a cycle that tried to update. -/
def updatedReport (report : AutoUpdateCycleReport) (result : Except String SelfUpdateReport) :
    AutoUpdateCycleReport :=
  match result with
  | .ok updateReport =>
      { report with
        event := "updated"
        status := updateStatusLabel updateReport.status
        targetVersion := some updateReport.targetVersion
        releaseUrl := some updateReport.url
        releaseSha256 := some updateReport.sha256
        bytes := some updateReport.bytes
        applied := updateReport.applied
        restartPerformed := updateReport.restart.performed }
  | .error error => { report with event := "update_failed", error := some error }

def runAutoUpdateCycle (args : AutoUpdateArgs) : UpdateCode AutoUpdateCycleReport := do
  let now : UInt64 ← ask .nowUnixTimeSecs
  let report := initialReport install args now
  match ← resolveManifestRelease install args.manifestUrl args.channel (currentTarget install) with
  | .error error => return { report with error := some error }
  | .ok release =>
      let status := compareVersions install install.appVersion release.version
      let report := foundReport report status release
      if status = .updateAvailable then do
        let result ← executeSelfUpdate install (buildAutoUpdateSelfUpdateArgs args)
        return updatedReport report result
      else return { report with event := "checked" }

/-- The temporary file of the status file. -/
def statusTempPath (path : Path) : Path :=
  let fileName := ((path.fileName.bind FileName.toStr?).filter fun name => name ≠ "").getD
    "speechmesh-auto-update-status.json"
  path.withFileName ("." ++ fileName ++ ".tmp")

/-- The rest of `write_auto_update_state`, once the directory is there. -/
def storeAutoUpdateState (path : Path) (report : AutoUpdateCycleReport) :
    UpdateCode (Except String Unit) := do
  let tempPath := statusTempPath path
  let written : Except String Unit ← onFile (.write tempPath (install.encodeReport report))
  orContext ("failed to write " ++ tempPath.display) written do
    let moved : Except String Unit ← onFile (.rename tempPath path)
    orContext ("failed to move auto-update status " ++ path.display ++ " into place") moved
      (return .ok ())

def writeAutoUpdateState (path : Path) (report : AutoUpdateCycleReport) :
    UpdateCode (Except String Unit) := do
  match path.parent with
  | some parent =>
      if parent.components = [] then storeAutoUpdateState install path report
      else do
        let created : Except String Unit ← ask (.createDirAll parent)
        orContext ("failed to create auto-update status directory " ++ parent.display) created
          (storeAutoUpdateState install path report)
  | none => storeAutoUpdateState install path report

/-- Where the loop of `run_auto_update_loop` stands. -/
inductive UpdateLoop where
  | cycle
  | reported (report : AutoUpdateCycleReport)
  | returned (result : Except String Unit)

/-- The status file is written if there is one; only with `--once` a failure counts. -/
def saveStatus (args : AutoUpdateArgs) (report : AutoUpdateCycleReport) :
    UpdateCode (Except String Unit) := do
  match args.statusFile with
  | none => return .ok ()
  | some path =>
      match ← writeAutoUpdateState install path report with
      | .ok () => return .ok ()
      | .error error =>
          if args.once then return .error error
          else do
            ask (.warn ("warning: failed to write auto-update status file: " ++ error))
            return .ok ()

/-- The end of a round: an applied update ends the loop, so that the process can be restarted from
the new binary. -/
def endRound (args : AutoUpdateArgs) (report : AutoUpdateCycleReport) :
    UpdateCode (Option UpdateLoop) := do
  if args.once then
    match report.error with
    | some error => return some (.returned (.error ("auto-update --once failed: " ++ error)))
    | none => return some (.returned (.ok ()))
  else if report.applied then return some (.returned (.ok ()))
  else do
    ask (.sleep args.intervalSecs)
    return some .cycle

/-- `run_auto_update_loop`, from the start of a round, from its report on, and after its end. -/
def autoUpdateLoop (args : AutoUpdateArgs) : UpdateLoop → UpdateCode (Option UpdateLoop)
  | .cycle => do
      let report ← runAutoUpdateCycle install args
      return some (.reported report)
  | .reported report => do
      let printed : Except String Unit ← ask (.printReport report)
      match printed with
      | .error error => return some (.returned (.error
          ("failed to flush auto-update report to stdout: " ++ error)))
      | .ok () =>
          match ← saveStatus install args report with
          | .error error => return some (.returned (.error error))
          | .ok () => endRound args report
  | .returned _ => return none

end Update

end SpeechMesh.Model
