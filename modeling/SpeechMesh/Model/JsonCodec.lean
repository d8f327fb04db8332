import Mathlib.Algebra.Group.Nat.Defs
import SpeechMesh.Model.Core
import SpeechMesh.Serde.Fields

/-! # Reading JSON values

How the derived decoders read the primitive types, lists, options and records. An error is not told
apart from another, so reading gives a value or nothing.
-/

namespace SpeechMesh.Model

open Serde

namespace Json

variable {α : Type}

def toBool? : Json → Option Bool
  | .bool value => some value
  | _ => none

/-- The number a literal without sign, fraction and exponent stands for. -/
def naturalOf? (text : String) : Option ℕ :=
  if text.toList ≠ [] ∧ text.toList.all Char.isDigit = true then
    some (Nat.ofDigitChars 10 text.toList 0)
  else none

/-- An unsigned number below a bound. -/
def toNat? (bound : ℕ) : Json → Option ℕ
  | .number text => (naturalOf? text).filter (· < bound)
  | _ => none

def toU64? (json : Json) : Option UInt64 := (json.toNat? (2 ^ 64)).map UInt64.ofNat

def toU32? (json : Json) : Option UInt32 := (json.toNat? (2 ^ 32)).map UInt32.ofNat

def toU16? (json : Json) : Option UInt16 := (json.toNat? (2 ^ 16)).map UInt16.ofNat

def toList? (decode : Json → Option α) : Json → Option (List α)
  | .array items => items.mapM decode
  | _ => none

/-- `Option<T>`: null stands for an absent value. -/
def toOption? (decode : Json → Option α) : Json → Option (Option α)
  | .null => some none
  | json => (decode json).map some

/-- The fields of a record, also from an array that lists them by position, in which fields with
defaults at the end may be missing. -/
def toFields? (names : List String) (needed : ℕ) : Json → Option (Fields Json)
  | .object fields => some fields
  | .array items =>
      if needed ≤ items.length ∧ items.length ≤ names.length then some (names.zip items) else none
  | _ => none

def ofNat (n : ℕ) : Json := .number (toString n)

/-! ## Reading what was written -/

theorem naturalOf?_toString (n : ℕ) : naturalOf? (toString n) = some n := by
  have digits : (toString n).toList = Nat.toDigits 10 n := by
    rw [Nat.toString_eq_repr, Nat.toList_repr]
  have nonempty : Nat.toDigits 10 n ≠ [] := by
    intro empty
    apply Nat.repr_ne_empty (n := n)
    rw [← String.toList_inj, Nat.toList_repr, empty]
    rfl
  rw [naturalOf?, digits, if_pos, Nat.ofDigitChars_ten_toDigits]
  refine ⟨nonempty, List.all_eq_true.mpr fun c member => ?_⟩
  exact Nat.isDigit_of_mem_toDigits (by decide) (by decide) member

theorem toNat?_ofNat {bound n : ℕ} (small : n < bound) : (ofNat n).toNat? bound = some n := by
  rw [ofNat, toNat?, naturalOf?_toString]
  simp [small]

@[simp] theorem toU64?_ofNat (n : UInt64) : (ofNat n.toNat).toU64? = some n := by
  rw [toU64?, toNat?_ofNat n.toNat_lt, Option.map_some, UInt64.ofNat_toNat]

@[simp] theorem toU32?_ofNat (n : UInt32) : (ofNat n.toNat).toU32? = some n := by
  rw [toU32?, toNat?_ofNat n.toNat_lt, Option.map_some, UInt32.ofNat_toNat]

@[simp] theorem toU16?_ofNat (n : UInt16) : (ofNat n.toNat).toU16? = some n := by
  rw [toU16?, toNat?_ofNat n.toNat_lt, Option.map_some, UInt16.ofNat_toNat]

theorem toList?_map {decode : Json → Option α} {encode : α → Json} {items : List α}
    (reads : ∀ item ∈ items, decode (encode item) = some item) :
    toList? decode (.array (items.map encode)) = some items := by
  rw [toList?]
  induction items with
  | nil => rfl
  | cons item items ih =>
    have rest := ih fun other member => reads other (List.mem_cons_of_mem item member)
    rw [List.map_cons, List.mapM_cons, reads item List.mem_cons_self, rest]
    rfl

@[simp] theorem toList?_strings (items : List String) :
    toList? asString? (.array (items.map .string)) = some items :=
  toList?_map fun _ _ => rfl

theorem toOption?_of_ne_null {decode : Json → Option α} {json : Json} (notNull : json ≠ .null) :
    toOption? decode json = (decode json).map some := by
  cases json with
  | null => exact absurd rfl notNull
  | bool value => rfl
  | number text => rfl
  | string value => rfl
  | array items => rfl
  | object fields => rfl

end Json

section Reading

variable {α : Type} {name : String} {fields : Fields Json} {decode : Json → Option α}
  {encode : α → Json}

/-- An optional field reads as it was written. -/
theorem defaulted_option (value : Option α)
    (found : values name fields = (value.map encode).toList)
    (reads : ∀ item, decode (encode item) = some item) (notNull : ∀ item, encode item ≠ .null) :
    defaulted name none (Json.toOption? decode) fields = some value := by
  cases value with
  | none => exact defaulted_of_absent found
  | some item =>
    rw [defaulted_of_values (encode item) found, Json.toOption?_of_ne_null (notNull item), reads item]
    rfl

theorem defaulted_string (value : Option String)
    (found : values name fields = (value.map Json.string).toList) :
    defaulted name none (Json.toOption? Json.asString?) fields = some value :=
  defaulted_option value found (fun _ => rfl) fun _ null => by cases null

theorem defaulted_u64 (value : Option UInt64)
    (found : values name fields = (value.map fun secs => Json.ofNat secs.toNat).toList) :
    defaulted name none (Json.toOption? Json.toU64?) fields = some value :=
  defaulted_option value found (fun _ => Json.toU64?_ofNat _) fun _ null => by cases null

end Reading

end SpeechMesh.Model
