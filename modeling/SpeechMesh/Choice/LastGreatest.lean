import Mathlib.Data.List.MinMax

/-! # The last of the greatest items of a list

Choosing from a list by a key: among the items with a property, one whose key no other exceeds, and
of several such the one that comes last. What is chosen depends only on the properties and the keys
along the list, not on the items.
-/

namespace Choice

variable {α β κ : Type} [LinearOrder κ]

/-- The item at the index has the property, no such item has a greater key, and none after it has
the same one. -/
structure LastGreatest (p : α → Prop) (key : α → κ) (items : List α) (index : ℕ) (item : α) :
    Prop where
  stored : items[index]? = some item
  holds : p item
  greatest : ∀ (other : ℕ) (candidate : α), items[other]? = some candidate → p candidate →
    key candidate < key item ∨ key candidate = key item ∧ other ≤ index

namespace LastGreatest

variable {p : α → Prop} {key : α → κ} {items : List α} {index other : ℕ} {item candidate : α}

theorem mem (chosen : LastGreatest p key items index item) : item ∈ items :=
  List.mem_of_getElem? chosen.stored

theorem index_unique (chosen : LastGreatest p key items index item)
    (again : LastGreatest p key items other candidate) : index = other := by
  have le : other ≤ index := by
    rcases chosen.greatest other candidate again.stored again.holds with smaller | ⟨_, le⟩
    · rcases again.greatest index item chosen.stored chosen.holds with greater | ⟨same, _⟩
      · exact absurd greater smaller.asymm
      · exact absurd same smaller.ne'
    · exact le
  rcases again.greatest index item chosen.stored chosen.holds with greater | ⟨same, ge⟩
  · rcases chosen.greatest other candidate again.stored again.holds with smaller | ⟨same, _⟩
    · exact absurd greater smaller.asymm
    · exact absurd same.symm greater.ne
  · omega

/-- An item that is alone in having the property is chosen. -/
theorem of_unique (stored : items[index]? = some item) (holds : p item)
    (alone : ∀ (other : ℕ) (candidate : α), items[other]? = some candidate → p candidate →
      other = index) : LastGreatest p key items index item := by
  refine ⟨stored, holds, fun other candidate found also => ?_⟩
  obtain rfl := alone other candidate found also
  obtain rfl : item = candidate := Option.some.inj (stored.symm.trans found)
  exact .inr ⟨rfl, le_rfl⟩

/-- A choice among the items is a choice among their images. -/
theorem map {q : β → Prop} {rank : β → κ} {image : α → β}
    (same : ∀ item, q (image item) ↔ p item) (ranked : ∀ item, rank (image item) = key item)
    (chosen : LastGreatest p key items index item) :
    LastGreatest q rank (items.map image) index (image item) := by
  refine ⟨?_, (same item).mpr chosen.holds, fun other candidate found holds => ?_⟩
  · rw [List.getElem?_map, chosen.stored, Option.map_some]
  · rw [List.getElem?_map, Option.map_eq_some_iff] at found
    obtain ⟨original, found, rfl⟩ := found
    rw [ranked, ranked]
    exact chosen.greatest other original found ((same original).mp holds)

/-- The choice after an item is put in front that does not beat it. -/
theorem cons {first : α} (chosen : LastGreatest p key items index item)
    (notBetter : p first → key first ≤ key item) :
    LastGreatest p key (first :: items) (index + 1) item := by
  refine ⟨chosen.stored, chosen.holds, fun other candidate found holds => ?_⟩
  cases other with
  | zero =>
    obtain rfl : first = candidate := Option.some.inj found
    rcases (notBetter holds).lt_or_eq with smaller | same
    · exact .inl smaller
    · exact .inr ⟨same, Nat.zero_le _⟩
  | succ other =>
    rcases chosen.greatest other candidate found holds with smaller | ⟨same, le⟩
    · exact .inl smaller
    · exact .inr ⟨same, Nat.succ_le_succ le⟩

/-- An item in front that beats all others is chosen. -/
theorem head {first : α} (holds : p first)
    (better : ∀ candidate ∈ items, p candidate → key candidate < key first) :
    LastGreatest p key (first :: items) 0 first := by
  refine ⟨rfl, holds, fun other candidate found also => ?_⟩
  cases other with
  | zero =>
    obtain rfl : first = candidate := Option.some.inj found
    exact .inr ⟨rfl, le_rfl⟩
  | succ other => exact .inl (better candidate (List.mem_of_getElem? found) also)

theorem le_of_mem (chosen : LastGreatest p key items index item) (member : candidate ∈ items)
    (holds : p candidate) : key candidate ≤ key item := by
  obtain ⟨other, found⟩ := List.getElem?_of_mem member
  rcases chosen.greatest other candidate found holds with smaller | ⟨same, _⟩
  · exact smaller.le
  · exact same.le

end LastGreatest

/-! ## Computing the choice -/

/-- `Iterator::max_by_key`: of several greatest items the last one. -/
def maxByKey? (key : α → κ) (items : List α) : Option α := items.reverse.argmax key

theorem maxByKey?_cons (key : α → κ) (first : α) (items : List α) :
    maxByKey? key (first :: items) =
      match maxByKey? key items with
      | none => some first
      | some best => if key best < key first then some first else some best := by
  unfold maxByKey?
  rw [List.reverse_cons, List.argmax_concat]
  cases items.reverse.argmax key <;> rfl

theorem maxByKey?_eq_none {key : α → κ} {items : List α} :
    maxByKey? key items = none ↔ items = [] := by
  rw [maxByKey?, List.argmax_eq_none, List.reverse_eq_nil_iff]

variable {p : α → Prop} [DecidablePred p] {key : α → κ} {items : List α}

/-- The greatest of the items that pass a filter is the last greatest with its property. -/
theorem maxByKey?_filter {item : α} (found : maxByKey? key (items.filter p) = some item) :
    ∃ index, LastGreatest p key items index item := by
  induction items generalizing item with
  | nil => simp [maxByKey?] at found
  | cons first rest ih =>
    by_cases holds : p first
    · rw [List.filter_cons_of_pos (by simpa using holds), maxByKey?_cons] at found
      cases best : maxByKey? key (rest.filter p) with
      | none =>
        rw [best] at found
        obtain rfl : first = item := Option.some.inj found
        have noneLeft := maxByKey?_eq_none.mp best
        refine ⟨0, .head holds fun candidate member also => ?_⟩
        have kept : candidate ∈ rest.filter p := List.mem_filter.mpr ⟨member, by simpa using also⟩
        rw [noneLeft] at kept
        exact absurd kept List.not_mem_nil
      | some greatest =>
        obtain ⟨index, chosen⟩ := ih best
        rw [best] at found
        change (if _ then _ else _) = _ at found
        split_ifs at found with beaten
        · obtain rfl : first = item := Option.some.inj found
          exact ⟨0, .head holds fun candidate member also =>
            (chosen.le_of_mem member also).trans_lt beaten⟩
        · obtain rfl : greatest = item := Option.some.inj found
          exact ⟨index + 1, chosen.cons fun _ => not_lt.mp beaten⟩
    · rw [List.filter_cons_of_neg (by simpa using holds)] at found
      obtain ⟨index, chosen⟩ := ih found
      exact ⟨index + 1, chosen.cons fun also => absurd also holds⟩

/-! ## Greatest items

The choice depends on the order of the items only if several of them are greatest.
-/

/-- No item has a greater key. -/
structure Greatest (key : α → κ) (items : List α) (item : α) : Prop where
  member : item ∈ items
  greatest : ∀ other ∈ items, key other ≤ key item

theorem maxByKey?_greatest {item : α} (found : maxByKey? key items = some item) :
    Greatest key items item where
  member := List.mem_reverse.mp (List.argmax_mem found)
  greatest other member := by
    have reversed : other ∈ items.reverse := List.mem_reverse.mpr member
    exact List.le_of_mem_argmax reversed found

/-- A greatest item is chosen if it comes last. -/
theorem maxByKey?_concat {item : α} (greatest : ∀ other ∈ items, key other ≤ key item) :
    maxByKey? key (items ++ [item]) = some item := by
  induction items with
  | nil => rfl
  | cons first items ih =>
    rw [List.forall_mem_cons] at greatest
    rw [List.cons_append, maxByKey?_cons, ih greatest.2]
    dsimp only
    rw [if_neg (not_lt.mpr greatest.1)]

end Choice
