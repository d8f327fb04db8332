import Mathlib.Logic.Function.Basic
import Mathlib.Tactic.Common

/-! # Files

The operations of a file system on the contents of its files. Any operation may fail. A write that
fails, or is cut off, leaves any part of what it was to write; the others fail without a trace, and
a rename takes place as a whole.
-/

namespace Async

/-- The contents of the files that there are. -/
abbrev Files (π β : Type) := π → Option (List β)

inductive FileAction (π β : Type) where
  | write (path : π) (bytes : List β)
  | metadata (path : π)
  | setPermissions (path : π)
  | isThere (path : π)
  | removeFile (path : π)
  | rename (source target : π)
deriving DecidableEq

/-- A failed operation answers with its error text. -/
def FileAction.Answer {π β : Type} : FileAction π β → Type
  | .write _ _ => Except String Unit
  | .metadata _ => Except String Unit
  | .setPermissions _ => Except String Unit
  | .isThere _ => Bool
  | .removeFile _ => Except String Unit
  | .rename _ _ => Except String Unit

namespace Files

variable {π β : Type} [DecidableEq π]

def write (files : Files π β) (path : π) (bytes : List β) : Files π β :=
  Function.update files path (some bytes)

def remove (files : Files π β) (path : π) : Files π β := Function.update files path none

def rename (files : Files π β) (source target : π) : Files π β :=
  Function.update (Function.update files source none) target (files source)

/-- What an operation with the given answer does. A file that is looked for may be missed, but one
that is not there is not found, and cannot be read, removed or moved. -/
def Step (files : Files π β) : (action : FileAction π β) → action.Answer → Files π β → Prop
  | .write path bytes, .ok (), after => after = files.write path bytes
  | .write path bytes, .error _, after =>
      after = files ∨ ∃ part, part <+: bytes ∧ after = files.write path part
  | .metadata path, .ok (), after => after = files ∧ (files path).isSome
  | .metadata _, .error _, after => after = files
  | .setPermissions path, .ok (), after => after = files ∧ (files path).isSome
  | .setPermissions _, .error _, after => after = files
  | .isThere path, found, after => after = files ∧ (found = true → (files path).isSome)
  | .removeFile path, .ok (), after => after = files.remove path ∧ (files path).isSome
  | .removeFile _, .error _, after => after = files
  | .rename source target, .ok (), after =>
      after = files.rename source target ∧ (files source).isSome
  | .rename _ _, .error _, after => after = files

variable {files : Files π β} {path other source target : π} {bytes : List β}

@[simp] theorem write_self : files.write path bytes path = some bytes :=
  Function.update_self ..

theorem write_of_ne (apart : other ≠ path) : files.write path bytes other = files other :=
  Function.update_of_ne apart ..

@[simp] theorem remove_self : files.remove path path = none := Function.update_self ..

theorem remove_of_ne (apart : other ≠ path) : files.remove path other = files other :=
  Function.update_of_ne apart ..

@[simp] theorem rename_target : files.rename source target target = files source :=
  Function.update_self ..

theorem rename_source (apart : source ≠ target) : files.rename source target source = none := by
  rw [rename, Function.update_of_ne apart, Function.update_self]

theorem rename_of_ne (notSource : other ≠ source) (notTarget : other ≠ target) :
    files.rename source target other = files other := by
  rw [rename, Function.update_of_ne notTarget, Function.update_of_ne notSource]

/-- The files an operation may change. -/
def touched : FileAction π β → List π
  | .write path _ => [path]
  | .removeFile path => [path]
  | .rename source target => [source, target]
  | .metadata _ | .setPermissions _ | .isThere _ => []

/-- An operation leaves the other files as they are. -/
theorem Step.frame {action : FileAction π β} {answer : action.Answer} {after : Files π β}
    (stepped : files.Step action answer after) (apart : other ∉ touched action) :
    after other = files other := by
  cases action with
  | write path bytes =>
    have notPath : other ≠ path := fun same => apart (by simp [touched, same])
    cases answer with
    | ok _ => rw [stepped, write_of_ne notPath]
    | error _ =>
      rcases stepped with rfl | ⟨part, _, rfl⟩
      · rfl
      · exact write_of_ne notPath
  | metadata path =>
    cases answer with
    | ok _ => rw [stepped.1]
    | error _ => rw [stepped]
  | setPermissions path =>
    cases answer with
    | ok _ => rw [stepped.1]
    | error _ => rw [stepped]
  | isThere path => rw [stepped.1]
  | removeFile path =>
    have notPath : other ≠ path := fun same => apart (by simp [touched, same])
    cases answer with
    | ok _ => rw [stepped.1, remove_of_ne notPath]
    | error _ => rw [stepped]
  | rename source target =>
    have notSource : other ≠ source := fun same => apart (by simp [touched, same])
    have notTarget : other ≠ target := fun same => apart (by simp [touched, same])
    cases answer with
    | ok _ => rw [stepped.1, rename_of_ne notSource notTarget]
    | error _ => rw [stepped]

/-- The files and the answer when every operation succeeds that can. -/
def comply (files : Files π β) : (action : FileAction π β) → Files π β × action.Answer
  | .write path bytes => (files.write path bytes, .ok ())
  | .metadata path =>
      if (files path).isSome then (files, .ok ()) else (files, .error "not found")
  | .setPermissions path =>
      if (files path).isSome then (files, .ok ()) else (files, .error "not found")
  | .isThere path => (files, (files path).isSome)
  | .removeFile path =>
      if (files path).isSome then (files.remove path, .ok ()) else (files, .error "not found")
  | .rename source target =>
      if (files source).isSome then (files.rename source target, .ok ())
      else (files, .error "not found")

theorem comply_step (files : Files π β) (action : FileAction π β) :
    files.Step action (files.comply action).2 (files.comply action).1 := by
  cases action with
  | write path bytes => rfl
  | metadata path =>
    rw [comply]
    split_ifs with there
    · exact ⟨rfl, there⟩
    · rfl
  | setPermissions path =>
    rw [comply]
    split_ifs with there
    · exact ⟨rfl, there⟩
    · rfl
  | isThere path => exact ⟨rfl, id⟩
  | removeFile path =>
    rw [comply]
    split_ifs with there
    · exact ⟨rfl, there⟩
    · rfl
  | rename source target =>
    rw [comply]
    split_ifs with there
    · exact ⟨rfl, there⟩
    · rfl

end Files

end Async
