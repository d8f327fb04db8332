import Mathlib.Data.List.Nodup
import Mathlib.Data.List.Perm.Basic
import Mathlib.Logic.Function.Basic

/-! # Lists as finite maps

A list whose items have distinct keys is a finite map from keys to items. Replacing, removing and
adding an item update the map at its key, and the order of the items does not matter to it.
-/

namespace Keyed

variable {α κ : Type} [DecidableEq κ] (key : α → κ)

/-- The first item under a key. -/
def lookup (items : List α) (k : κ) : Option α := items.find? fun item => key item = k

def Distinct (items : List α) : Prop := (items.map key).Nodup

/-- Change the first item under a key. -/
def modifyFirst (k : κ) (change : α → α) : List α → List α
  | [] => []
  | item :: rest =>
      if key item = k then change item :: rest else item :: modifyFirst k change rest

/-- Remove the first item under a key. -/
def removeFirst (k : κ) : List α → List α
  | [] => []
  | item :: rest => if key item = k then rest else item :: removeFirst k rest

variable {key} {items others : List α} {item other : α} {k : κ} {change : α → α}

theorem lookup_cons_self (same : key item = k) : lookup key (item :: items) k = some item :=
  List.find?_cons_of_pos (decide_eq_true same)

theorem lookup_cons_of_ne (different : key item ≠ k) :
    lookup key (item :: items) k = lookup key items k :=
  List.find?_cons_of_neg (by simpa using different)

theorem lookup_mem (found : lookup key items k = some item) : item ∈ items ∧ key item = k :=
  ⟨List.mem_of_find?_eq_some found, by simpa using List.find?_some found⟩

theorem lookup_eq_none : lookup key items k = none ↔ ∀ item ∈ items, key item ≠ k := by
  rw [lookup, List.find?_eq_none]
  simp only [decide_eq_true_eq, ne_eq]

omit [DecidableEq κ] in
theorem Distinct.tail (distinct : Distinct key (item :: items)) : Distinct key items :=
  (List.nodup_cons.mp distinct).2

omit [DecidableEq κ] in
theorem Distinct.head (distinct : Distinct key (item :: items)) (member : other ∈ items) :
    key other ≠ key item := by
  intro same
  apply (List.nodup_cons.mp distinct).1
  rw [← same]
  exact List.mem_map_of_mem member

theorem lookup_of_mem (distinct : Distinct key items) (member : item ∈ items) :
    lookup key items (key item) = some item := by
  induction items with
  | nil => cases member
  | cons first rest ih =>
    rcases List.mem_cons.mp member with rfl | later
    · exact lookup_cons_self rfl
    · rw [lookup_cons_of_ne (distinct.head later).symm]
      exact ih distinct.tail later

/-- The order of the items does not matter. -/
theorem lookup_perm (distinct : Distinct key items) (order : others.Perm items) :
    lookup key others = lookup key items := by
  funext k
  have distinctToo : Distinct key others := (order.map key).nodup_iff.mpr distinct
  cases found : lookup key items k with
  | none =>
    rw [lookup_eq_none] at found ⊢
    intro item member
    exact found item (order.mem_iff.mp member)
  | some item =>
    obtain ⟨member, rfl⟩ := lookup_mem found
    exact lookup_of_mem distinctToo (order.mem_iff.mpr member)

/-! ## Changing one item -/

theorem map_modifyFirst (kept : ∀ item, key item = k → key (change item) = k) :
    (modifyFirst key k change items).map key = items.map key := by
  induction items with
  | nil => rfl
  | cons item rest ih =>
    rw [modifyFirst]
    split_ifs with same
    · rw [List.map_cons, List.map_cons, kept item same, same]
    · rw [List.map_cons, List.map_cons, ih]

theorem Distinct.modifyFirst (distinct : Distinct key items)
    (kept : ∀ item, key item = k → key (change item) = k) :
    Distinct key (modifyFirst key k change items) := by
  rw [Distinct, map_modifyFirst kept]
  exact distinct

theorem lookup_modifyFirst (kept : ∀ item, key item = k → key (change item) = k)
    (found : lookup key items k = some item) :
    lookup key (modifyFirst key k change items) =
      Function.update (lookup key items) k (some (change item)) := by
  induction items with
  | nil => cases found
  | cons first rest ih =>
    funext asked
    rw [modifyFirst]
    by_cases same : key first = k
    · rw [lookup_cons_self same] at found
      obtain rfl := Option.some.inj found
      rw [if_pos same]
      by_cases here : asked = k
      · rw [here, Function.update_self, lookup_cons_self (kept first same)]
      · have apart : key first ≠ asked := fun equal => here (equal.symm.trans same)
        have apartToo : key (change first) ≠ asked := by
          rw [kept first same, ← same]
          exact apart
        rw [Function.update_of_ne here, lookup_cons_of_ne apart, lookup_cons_of_ne apartToo]
    · rw [lookup_cons_of_ne same] at found
      rw [if_neg same]
      by_cases there : key first = asked
      · have apart : asked ≠ k := fun equal => same (there.trans equal)
        rw [lookup_cons_self there, Function.update_of_ne apart, lookup_cons_self there]
      · rw [lookup_cons_of_ne there, ih found]
        by_cases here : asked = k
        · rw [here, Function.update_self, Function.update_self]
        · rw [Function.update_of_ne here, Function.update_of_ne here, lookup_cons_of_ne there]

/-! ## Removing one item -/

theorem removeFirst_sublist (items : List α) : (removeFirst key k items).Sublist items := by
  induction items with
  | nil => exact .slnil
  | cons item rest ih =>
    rw [removeFirst]
    split_ifs
    · exact List.sublist_cons_self item rest
    · exact ih.cons_cons item

theorem Distinct.removeFirst (distinct : Distinct key items) :
    Distinct key (removeFirst key k items) :=
  List.Nodup.sublist ((removeFirst_sublist items).map key) distinct

theorem lookup_removeFirst (distinct : Distinct key items) :
    lookup key (removeFirst key k items) = Function.update (lookup key items) k none := by
  induction items with
  | nil =>
    funext asked
    by_cases here : asked = k
    · rw [here, Function.update_self]
      rfl
    · rw [Function.update_of_ne here]
      rfl
  | cons first rest ih =>
    funext asked
    rw [removeFirst]
    by_cases same : key first = k
    · rw [if_pos same]
      by_cases here : asked = k
      · rw [here, Function.update_self, lookup_eq_none]
        intro item member equal
        exact distinct.head member (equal.trans same.symm)
      · have apart : key first ≠ asked := fun equal => here (equal.symm.trans same)
        rw [Function.update_of_ne here, lookup_cons_of_ne apart]
    · rw [if_neg same]
      by_cases there : key first = asked
      · have apart : asked ≠ k := fun equal => same (there.trans equal)
        rw [lookup_cons_self there, Function.update_of_ne apart, lookup_cons_self there]
      · rw [lookup_cons_of_ne there, ih distinct.tail]
        by_cases here : asked = k
        · rw [here, Function.update_self, Function.update_self]
        · rw [Function.update_of_ne here, Function.update_of_ne here, lookup_cons_of_ne there]

/-! ## Adding an item -/

theorem Distinct.append (distinct : Distinct key items)
    (absent : lookup key items (key item) = none) : Distinct key (items ++ [item]) := by
  rw [Distinct, List.map_append, List.nodup_append]
  refine ⟨distinct, List.nodup_singleton _, ?_⟩
  intro k listed other single
  obtain rfl := List.mem_singleton.mp single
  obtain ⟨held, member, rfl⟩ := List.mem_map.mp listed
  exact lookup_eq_none.mp absent held member

theorem lookup_append (absent : lookup key items (key item) = none) :
    lookup key (items ++ [item]) = Function.update (lookup key items) (key item) (some item) := by
  funext asked
  rw [lookup, List.find?_append]
  by_cases here : asked = key item
  · rw [here, Function.update_self]
    rw [lookup] at absent
    rw [absent, Option.none_or]
    exact lookup_cons_self rfl
  · rw [Function.update_of_ne here, List.find?_cons_of_neg (by simpa using fun same => here same.symm)]
    exact Option.or_none

end Keyed
