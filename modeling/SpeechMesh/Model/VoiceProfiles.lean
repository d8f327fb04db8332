import Mathlib.Data.Set.Finite.Basic
import SpeechMesh.Choice.LastGreatest
import SpeechMesh.Encoding.Bytes
import SpeechMesh.Model.ConfigFiles

/-! # Voice profiles of projects

Without a flag, the voice profile is the one that a project's binding gives to the working
directory. Paths are bytes, and `std::fs::canonicalize` is a parameter.
-/

namespace SpeechMesh.Model.VoiceProfiles

open Choice CliConfig Encoding

/-! ## Paths -/

inductive Component where
  | rootDir | curDir | parentDir
  | normal (name : Bytes)
deriving DecidableEq, Repr

/-- A piece between two slashes that is not the first of a path. -/
def innerComponent (piece : Bytes) : Option Component :=
  if piece = [] ∨ piece = utf8 "." then none
  else if piece = utf8 ".." then some .parentDir
  else some (.normal piece)

/-- The first piece of a path without a root. -/
def firstComponent (piece : Bytes) : Option Component :=
  if piece = utf8 "." then some .curDir else innerComponent piece

def slash : UInt8 := 47

/-- `Path::components`. -/
def components (path : Bytes) : List Component :=
  match path.splitOn slash with
  | [] => []
  | first :: rest =>
      match first, rest with
      | [], _ :: _ => .rootDir :: rest.filterMap innerComponent
      | _, _ => (firstComponent first).toList ++ rest.filterMap innerComponent

/-! ## Selection -/

/-- What is read of the runtime configuration. A hash map has finitely many entries. -/
structure RuntimeConfig (F32 : Type) where
  voiceProfiles : String → Option (VoiceProfileConfig F32)
  projectVoiceProfiles : String → Option ProjectVoiceBinding
  finite : {name | projectVoiceProfiles name ≠ none}.Finite

variable {F32 : Type} (canonicalize : Bytes → Option (Bytes)) (cli : RuntimeConfig F32)

def canonicalizeIfExists (path : Bytes) : Bytes := (canonicalize path).getD path

/-- `Path::starts_with`, which compares components. -/
def pathHasPrefix (path root : Bytes) : Bool :=
  (components root).isPrefixOf (components path)

/-- The depth of a binding's root and its profile, if the root contains the directory. -/
def candidate (cwd : Bytes) (binding : ProjectVoiceBinding) :
    Option (ℕ × VoiceProfileConfig F32) := do
  let root ← binding.root
  let profileName ← binding.voiceProfile
  let root := canonicalizeIfExists canonicalize (utf8 root)
  if !pathHasPrefix cwd root then none
  else
    let profile ← cli.voiceProfiles profileName
    return ((components root).length, profile)

/-- The selection, given the values of the bindings in the order in which the map is iterated. -/
def selectVoiceProfileForPath (values : List ProjectVoiceBinding) (cwd : Bytes) :
    Option (VoiceProfileConfig F32) :=
  let cwd := canonicalizeIfExists canonicalize cwd
  (maxByKey? Prod.fst (values.filterMap (candidate canonicalize cli cwd))).map Prod.snd

/-- The values of a map in one order of its entries. -/
def IterationOrder {α : Type} (map : String → Option α) (values : List α) : Prop :=
  ∃ names : List String, names.Nodup ∧ (∀ name, name ∈ names ↔ map name ≠ none) ∧
    values = names.filterMap map

end SpeechMesh.Model.VoiceProfiles
