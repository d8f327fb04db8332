import Mathlib.Data.List.Basic
import Mathlib.Data.Option.Basic

/-! # Records as lists of named fields

A record is written as a list of named values, in which an absent value may be left out. Reading one
looks up each field by its name: the order of the fields and those with other names do not matter,
but a field must not occur twice.
-/

namespace Serde

variable {ν α β : Type}

/-- The named values of an object, in the order in which they stand. -/
abbrev Fields (ν : Type) := List (String × ν)

/-- The values under a name. -/
def values (name : String) (fields : Fields ν) : List ν :=
  fields.filterMap fun field => if field.1 = name then some field.2 else none

/-- The value under a name, if there is one. There must not be two. -/
def unique (name : String) (fields : Fields ν) : Option (Option ν) :=
  match values name fields with
  | [] => some none
  | [value] => some (some value)
  | _ => none

/-- A field that must be there. -/
def required (name : String) (decode : ν → Option α) (fields : Fields ν) : Option α :=
  (unique name fields).bind fun found => found.bind decode

/-- A field with a default. -/
def defaulted (name : String) (default : α) (decode : ν → Option α) (fields : Fields ν) :
    Option α :=
  (unique name fields).bind fun found => found.elim (some default) decode

/-- Write a field that may be left out. -/
def optional (name : String) (value : Option ν) : Fields ν := value.toList.map (name, ·)

/-! ## Looking up what was written -/

variable {name other : String} {fields : Fields ν} {value : ν}

@[simp] theorem values_nil : values name ([] : Fields ν) = [] := rfl

@[simp] theorem values_append (first second : Fields ν) :
    values name (first ++ second) = values name first ++ values name second :=
  List.filterMap_append ..

@[simp] theorem values_cons_self : values name ((name, value) :: fields) =
    value :: values name fields := by
  rw [values, List.filterMap_cons, if_pos rfl, values]

theorem values_cons_of_ne (different : other ≠ name) :
    values name ((other, value) :: fields) = values name fields := by
  rw [values, List.filterMap_cons, if_neg different, values]

@[simp] theorem values_optional_self (value : Option ν) :
    values name (optional name value) = value.toList := by
  cases value with
  | none => rfl
  | some value => exact values_cons_self

theorem values_optional_of_ne (different : other ≠ name) (value : Option ν) :
    values name (optional other value) = [] := by
  cases value with
  | none => rfl
  | some value => exact values_cons_of_ne different

theorem unique_of_values (found : values name fields = [value]) :
    unique name fields = some (some value) := by
  rw [unique, found]

theorem unique_none (absent : values name fields = []) : unique name fields = some none := by
  rw [unique, absent]

theorem required_of_values {decode : ν → Option α} (value : ν)
    (found : values name fields = [value]) : required name decode fields = decode value := by
  rw [required, unique_of_values found]
  rfl

theorem defaulted_of_values {default : α} {decode : ν → Option α} (value : ν)
    (found : values name fields = [value]) :
    defaulted name default decode fields = decode value := by
  rw [defaulted, unique_of_values found]
  rfl

theorem defaulted_of_absent {default : α} {decode : ν → Option α}
    (absent : values name fields = []) : defaulted name default decode fields = some default := by
  rw [defaulted, unique_none absent]
  rfl

end Serde
