import SpeechMesh.Serde.Fields

/-! # Reading what another program wrote

A value that one program wrote is read by another as a value that stands for it. Such facts compose
along the fields of a record and the items of a list.
-/

namespace Serde

variable {ν α β γ : Type}

/-- There is a result, and it stands for what was written. -/
def Reads (result : Option α) (stands : α → Prop) : Prop :=
  ∃ value, result = some value ∧ stands value

section Reads

variable {result : Option α} {stands other : α → Prop} {value : α} {fact : Prop}

@[simp] theorem reads_some : Reads (some value) stands ↔ stands value := by
  constructor
  case mp =>
    rintro ⟨_, same, holds⟩
    rwa [Option.some.inj same]
  case mpr => exact fun holds => ⟨value, rfl, holds⟩

@[simp] theorem reads_none : ¬ Reads none stands := by
  rintro ⟨_, found, _⟩
  contradiction

theorem reads_bind {next : α → Option β} {stands : β → Prop} :
    Reads (result.bind next) stands ↔ Reads result fun value => Reads (next value) stands := by
  cases result with
  | none => simp
  | some value => simp

theorem reads_map {image : α → β} {stands : β → Prop} :
    Reads (result.map image) stands ↔ Reads result fun value => stands (image value) := by
  cases result with
  | none => simp
  | some value => simp

theorem reads_and_const :
    (Reads result fun value => stands value ∧ fact) ↔ Reads result stands ∧ fact := by
  cases result with
  | none => simp
  | some value => simp

theorem reads_const_and :
    (Reads result fun value => fact ∧ stands value) ↔ fact ∧ Reads result stands := by
  cases result with
  | none => simp
  | some value => simp

end Reads

/-! ## Lists and options -/

section Containers

variable {encode : γ → ν} {decode : ν → Option α} {image : α → γ} {clean : γ → Prop}

/-- A list is read if each item is. -/
theorem reads_mapM (each : ∀ item, (Reads (decode (encode item)) fun value => item = image value) ↔
      clean item) (items : List γ) :
    (Reads ((items.map encode).mapM decode) fun values => items = values.map image) ↔
      ∀ item ∈ items, clean item := by
  induction items with
  | nil =>
    rw [List.map_nil, List.mapM_nil]
    simp [pure]
  | cons item items ih =>
    rw [List.map_cons, List.mapM_cons, List.forall_mem_cons, ← ih, ← each item]
    simp only [Option.bind_eq_bind, reads_bind, Option.pure_def, reads_some, List.map_cons,
      List.cons.injEq, reads_const_and, reads_and_const]

end Containers

end Serde
