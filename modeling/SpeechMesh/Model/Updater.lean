import SpeechMesh.Async.Files
import SpeechMesh.Async.Trace
import SpeechMesh.Model.AsrBridges

/-! # What the self-updater works on

The unified binary can replace itself by a release that a manifest names. These are its paths, the
manifests in both formats, its arguments and reports, and the operations it asks the outside for.
-/

namespace SpeechMesh.Model

open Async

/-! ## Paths -/

/-- A file name is text, or is not valid UTF-8 and has a text for display. -/
inductive FileName where
  | utf8 (text : String)
  | other (bytes : Bytes) (lossy : String)
deriving DecidableEq

/-- `OsStr::to_string_lossy`. -/
def FileName.toStringLossy : FileName → String
  | .utf8 text => text
  | .other _ lossy => lossy

/-- `OsStr::to_str`. -/
def FileName.toStr? : FileName → Option String
  | .utf8 text => some text
  | .other _ _ => none

inductive PathComponent where
  | rootDir | curDir | parentDir
  | normal (name : FileName)
deriving DecidableEq

/-- A path as its components, which is how paths are compared. -/
structure Path where
  components : List PathComponent
deriving DecidableEq

namespace Path

def parent (path : Path) : Option Path :=
  match path.components.getLast? with
  | none | some .rootDir => none
  | some _ => some ⟨path.components.dropLast⟩

def fileName (path : Path) : Option FileName :=
  match path.components.getLast? with
  | some (.normal name) => some name
  | _ => none

/-- `Path::join` with the name of a file. -/
def join (path : Path) (name : String) : Path := ⟨path.components ++ [.normal (.utf8 name)]⟩

/-- `Path::with_file_name`. -/
def withFileName (path : Path) (name : String) : Path :=
  match path.fileName with
  | some _ => Path.join ⟨path.components.dropLast⟩ name
  | none => path.join name

def display (path : Path) : String :=
  match path.components with
  | [.rootDir] => "/"
  | components => "/".intercalate (components.map text)
where
  text : PathComponent → String
    | .rootDir => ""
    | .curDir => "."
    | .parentDir => ".."
    | .normal name => name.toStringLossy

end Path

/-! ## Manifests and releases -/

structure ClientTarget where
  platform : String
  arch : String
deriving DecidableEq, Repr

structure LegacyUpdateManifest where
  version : String
  url : String
  sha256 : String
deriving DecidableEq, Repr

structure ManifestAsset where
  platform : String
  arch : String
  url : String
  sha256 : String
  binaryName : Option String := none
deriving DecidableEq, Repr

structure ManifestRelease where
  version : String
  channel : Option String := none
  notesUrl : Option String := none
  publishedAt : Option String := none
  assets : List ManifestAsset
deriving DecidableEq, Repr

structure UpdateManifest where
  schema : Option String := none
  defaultChannel : Option String := none
  releases : List ManifestRelease
deriving DecidableEq, Repr

inductive UpdateManifestEnvelope where
  | rich (manifest : UpdateManifest)
  | legacy (manifest : LegacyUpdateManifest)
deriving DecidableEq, Repr

structure ResolvedUpdate where
  version : String
  channel : String
  url : String
  sha256 : String
  target : ClientTarget
  notesUrl : Option String
  publishedAt : Option String
deriving DecidableEq, Repr

inductive UpdateStatus where
  | updateAvailable | upToDate | downgradeAvailable | versionUnknown
deriving DecidableEq, Repr

/-! ## Arguments and reports -/

inductive RestartMode where
  | none | launchd | systemdUser
deriving DecidableEq, Repr

structure SelfUpdateArgs where
  manifestUrl : Option String := none
  channel : String
  assetUrl : Option String := none
  sha256 : Option String := none
  version : Option String := none
  dryRun : Bool := false
  force : Bool := false
  restartMode : RestartMode := .none
  serviceName : Option String := none
  binaryPath : Option Path := none

structure AutoUpdateArgs where
  manifestUrl : String
  channel : String
  intervalSecs : UInt64 := 300
  once : Bool := false
  restartMode : RestartMode := .none
  serviceName : Option String := none
  statusFile : Option Path := none
  binaryPath : Option Path := none

structure RestartPlan where
  requestedMode : String
  serviceName : Option String
  performed : Bool
  hint : Option String
deriving DecidableEq, Repr

structure SelfUpdateReport where
  currentVersion : String
  targetVersion : String
  status : UpdateStatus
  executable : String
  channel : String
  url : String
  sha256 : String
  bytes : ℕ
  dryRun : Bool
  applied : Bool
  restart : RestartPlan
deriving DecidableEq, Repr

structure AutoUpdateCycleReport where
  unixTimeSecs : UInt64
  event : String
  status : String
  currentVersion : String
  targetVersion : Option String
  executable : String
  manifestUrl : String
  channel : String
  intervalSecs : UInt64
  releaseUrl : Option String
  releaseSha256 : Option String
  bytes : Option ℕ
  applied : Bool
  restartPerformed : Bool
  error : Option String
deriving DecidableEq, Repr

/-! ## The outside -/

/-- The running binary and its platform, with the functions of the libraries it is linked with.
Sorting by an order that is not total puts the elements in some order. -/
structure Installation (Version : Type) where
  appVersion : String
  os : String
  arch : String
  currentExe : Except String Path
  parseVersion : String → Option Version
  sha256Hex : Bytes → String
  encodeReport : AutoUpdateCycleReport → Bytes
  sortBy : {α : Type} → (α → α → Ordering) → List α → List α
  sortBy_perm : ∀ {α : Type} (order : α → α → Ordering) (items : List α),
    (sortBy order items).Perm items

/-- What a command that could be started comes to. Its output may not be UTF-8. -/
structure CommandOutput where
  success : Bool
  status : String
  stdout : Except String String

inductive UpdateAction where
  | getManifest (url : String)
  | getBinary (url : String)
  | file (action : FileAction Path UInt8)
  | createDirAll (path : Path)
  | command (program : String) (args : List String)
  | nowUnixTimeSecs
  | printReport (report : AutoUpdateCycleReport)
  | warn (text : String)
  | sleep (seconds : UInt64)

def UpdateAction.Answer : UpdateAction → Type
  | .getManifest _ => HttpReply UpdateManifestEnvelope
  | .getBinary _ => HttpReply Bytes
  | .file action => action.Answer
  | .createDirAll _ => Except String Unit
  | .command _ _ => Except String CommandOutput
  | .nowUnixTimeSecs => UInt64
  | .printReport _ => Except String Unit
  | .warn _ => Unit
  | .sleep _ => Unit

abbrev updater : Signature := ⟨UpdateAction, UpdateAction.Answer⟩

abbrev UpdateCode := Code updater

abbrev ask (action : UpdateAction) : UpdateCode action.Answer := @Code.perform updater action

/-- A file operation as a program. -/
abbrev onFile (action : FileAction Path UInt8) : UpdateCode action.Answer := ask (.file action)

/-- The updater changes the files only by its file operations, and nothing else changes them. -/
def UpdateStep (files : Files Path UInt8) (entry : Entry updater) (after : Files Path UInt8) :
    Prop :=
  match entry with
  | ⟨.file action, answer⟩ => files.Step action answer after
  | _ => after = files

end SpeechMesh.Model
