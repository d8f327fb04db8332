import Mathlib.Data.List.Sort
import Mathlib.Order.Compare

/-! # Comparisons that need not be orders

A comparison by keys falls back on the items where one of the two has no key. Each of the two orders
is linear, their mixture need not be transitive. A stable sort promises sorted items only for a
comparison that is a total preorder on them.
-/

namespace Choice

variable {α β κ : Type}

/-- The comparison is reflexive, total and transitive on a set. -/
structure TotalPreorderOn (order : α → α → Ordering) (items : Set α) : Prop where
  total : ∀ left ∈ items, ∀ right ∈ items, order right left = (order left right).swap
  trans : ∀ left ∈ items, ∀ middle ∈ items, ∀ right ∈ items,
    order left middle ≠ .gt → order middle right ≠ .gt → order left right ≠ .gt

namespace TotalPreorderOn

variable {order : α → α → Ordering} {items : Set α} {left right : α}

theorem refl (preorder : TotalPreorderOn order items) (member : left ∈ items) :
    order left left = .eq := by
  have same := preorder.total left member left member
  cases compared : order left left with
  | eq => rfl
  | lt => rw [compared] at same; cases same
  | gt => rw [compared] at same; cases same

theorem subset {smaller : Set α} (preorder : TotalPreorderOn order items)
    (included : smaller ⊆ items) : TotalPreorderOn order smaller := by
  constructor
  · intro left inLeft right inRight
    exact preorder.total left (included inLeft) right (included inRight)
  · intro left inLeft middle inMiddle right inRight
    exact preorder.trans left (included inLeft) middle (included inMiddle) right (included inRight)

/-- The opposite comparison. -/
theorem reversed (preorder : TotalPreorderOn order items) :
    TotalPreorderOn (fun left right => (order left right).swap) items := by
  have flip : ∀ left ∈ items, ∀ right ∈ items,
      ((order left right).swap ≠ .gt ↔ order right left ≠ .gt) := by
    intro left inLeft right inRight
    rw [preorder.total left inLeft right inRight]
  constructor
  · intro left inLeft right inRight
    rw [preorder.total left inLeft right inRight]
  · intro left inLeft middle inMiddle right inRight first second
    rw [flip left inLeft right inRight]
    rw [flip left inLeft middle inMiddle] at first
    rw [flip middle inMiddle right inRight] at second
    exact preorder.trans right inRight middle inMiddle left inLeft second first

/-- Items are compared by something they carry. -/
theorem comap (preorder : TotalPreorderOn order items) (image : β → α) :
    TotalPreorderOn (fun left right => order (image left) (image right))
      (Set.preimage image items) := by
  constructor
  · intro left inLeft right inRight
    exact preorder.total _ inLeft _ inRight
  · intro left inLeft middle inMiddle right inRight
    exact preorder.trans _ inLeft _ inMiddle _ inRight

end TotalPreorderOn

/-! ## Keys with a fallback -/

section Mixed

variable [LinearOrder α] [LinearOrder κ] {key : α → Option κ} {left middle right : α}

/-- Compare the keys where both items have one, and else the items. -/
def mixedCompare (key : α → Option κ) (left right : α) : Ordering :=
  match key left, key right with
  | some leftKey, some rightKey => compare leftKey rightKey
  | _, _ => compare left right

/-- An item without a key stands between two with keys that the items' own order puts the other way
round. -/
def Crossed (key : α → Option κ) (lower upper between : α) : Prop :=
  ∃ lowerKey upperKey, key lower = some lowerKey ∧ key upper = some upperKey ∧
    key between = none ∧ lowerKey ≤ upperKey ∧ upper < between ∧ between < lower

theorem mixedCompare_keys {leftKey rightKey : κ} (keyed : key left = some leftKey)
    (other : key right = some rightKey) :
    mixedCompare key left right ≠ .gt ↔ leftKey ≤ rightKey := by
  rw [mixedCompare, keyed, other]
  exact compare_le_iff_le

theorem mixedCompare_items (plain : key left = none ∨ key right = none) :
    mixedCompare key left right = compare left right := by
  rcases plain with plain | plain
  · rw [mixedCompare, plain]
  · rw [mixedCompare, plain]
    cases key left <;> rfl

theorem mixedCompare_le (plain : key left = none ∨ key right = none) :
    mixedCompare key left right ≠ .gt ↔ left ≤ right := by
  rw [mixedCompare_items plain]
  exact compare_le_iff_le

theorem mixedCompare_swap (key : α → Option κ) (left right : α) :
    mixedCompare key right left = (mixedCompare key left right).swap := by
  cases leftKey : key left with
  | none =>
    rw [mixedCompare_items (.inr leftKey), mixedCompare_items (.inl leftKey)]
    exact Std.OrientedCmp.eq_swap
  | some keyed =>
    cases rightKey : key right with
    | none =>
      rw [mixedCompare_items (.inl rightKey), mixedCompare_items (.inr rightKey)]
      exact Std.OrientedCmp.eq_swap
    | some other =>
      rw [mixedCompare, mixedCompare, leftKey, rightKey]
      change compare other keyed = (compare keyed other).swap
      exact Std.OrientedCmp.eq_swap

/-- Items of which one has a key and one has none are different, so what is not greater is less. -/
theorem lt_of_mixedCompare {keyed : κ} (leftKey : key left = some keyed)
    (rightKey : key right = none) (notGreater : mixedCompare key left right ≠ .gt) : left < right := by
  rw [mixedCompare_le (.inr rightKey)] at notGreater
  apply lt_of_le_of_ne notGreater
  rintro rfl
  rw [leftKey] at rightKey
  cases rightKey

theorem lt_of_mixedCompare' {keyed : κ} (leftKey : key left = none)
    (rightKey : key right = some keyed) (notGreater : mixedCompare key left right ≠ .gt) :
    left < right := by
  rw [mixedCompare_le (.inl leftKey)] at notGreater
  apply lt_of_le_of_ne notGreater
  rintro rfl
  rw [leftKey] at rightKey
  cases rightKey

/-- The only way for three items to be compared in a circle. -/
theorem mixedCompare_trans (below : mixedCompare key left middle ≠ .gt)
    (above : mixedCompare key middle right ≠ .gt)
    (first : ¬ Crossed key left middle right) (second : ¬ Crossed key right left middle)
    (third : ¬ Crossed key middle right left) : mixedCompare key left right ≠ .gt := by
  cases leftKey : key left with
  | none =>
    rw [mixedCompare_le (.inl leftKey)]
    by_contra greater
    cases middleKey : key middle with
    | none =>
      rw [mixedCompare_le (.inl leftKey)] at below
      rw [mixedCompare_le (.inl middleKey)] at above
      exact greater (below.trans above)
    | some middleKeyed =>
      cases rightKey : key right with
      | none =>
        rw [mixedCompare_le (.inl leftKey)] at below
        rw [mixedCompare_le (.inr rightKey)] at above
        exact greater (below.trans above)
      | some rightKeyed =>
        rw [mixedCompare_keys middleKey rightKey] at above
        exact third ⟨middleKeyed, rightKeyed, middleKey, rightKey, leftKey, above,
          not_le.mp greater, lt_of_mixedCompare' leftKey middleKey below⟩
  | some leftKeyed =>
    cases middleKey : key middle with
    | none =>
      have smaller := lt_of_mixedCompare leftKey middleKey below
      cases rightKey : key right with
      | none =>
        rw [mixedCompare_le (.inl middleKey)] at above
        rw [mixedCompare_le (.inr rightKey)]
        exact smaller.le.trans above
      | some rightKeyed =>
        rw [mixedCompare_keys leftKey rightKey]
        by_contra greater
        exact second ⟨rightKeyed, leftKeyed, rightKey, leftKey, middleKey, (not_le.mp greater).le,
          smaller, lt_of_mixedCompare' middleKey rightKey above⟩
    | some middleKeyed =>
      rw [mixedCompare_keys leftKey middleKey] at below
      cases rightKey : key right with
      | none =>
        rw [mixedCompare_le (.inr rightKey)]
        by_contra greater
        exact first ⟨leftKeyed, middleKeyed, leftKey, middleKey, rightKey, below,
          lt_of_mixedCompare middleKey rightKey above, not_le.mp greater⟩
      | some rightKeyed =>
        rw [mixedCompare_keys middleKey rightKey] at above
        rw [mixedCompare_keys leftKey rightKey]
        exact below.trans above

theorem not_trans_of_crossed (crossed : Crossed key left middle right) :
    mixedCompare key left middle ≠ .gt ∧ mixedCompare key middle right ≠ .gt ∧
      mixedCompare key left right = .gt := by
  obtain ⟨leftKeyed, middleKeyed, leftKey, middleKey, rightKey, ordered, smaller, greater⟩ :=
    crossed
  refine ⟨(mixedCompare_keys leftKey middleKey).mpr ordered,
    (mixedCompare_le (.inr rightKey)).mpr smaller.le, ?_⟩
  rw [mixedCompare_items (.inr rightKey)]
  exact compare_gt_iff_gt.mpr greater

/-- The mixed comparison is a total preorder exactly on the sets without a crossing. -/
theorem totalPreorderOn_mixedCompare (key : α → Option κ) {items : Set α} :
    TotalPreorderOn (mixedCompare key) items ↔
      ∀ lower ∈ items, ∀ upper ∈ items, ∀ between ∈ items, ¬ Crossed key lower upper between := by
  constructor
  · intro preorder lower inLower upper inUpper between inBetween crossed
    obtain ⟨below, above, greater⟩ := not_trans_of_crossed crossed
    exact preorder.trans lower inLower upper inUpper between inBetween below above greater
  · intro uncrossed
    constructor
    · intro left _ right _
      exact mixedCompare_swap key left right
    · intro left inLeft middle inMiddle right inRight below above
      apply mixedCompare_trans below above
      · exact uncrossed left inLeft middle inMiddle right inRight
      · exact uncrossed right inRight left inLeft middle inMiddle
      · exact uncrossed middle inMiddle right inRight left inLeft

end Mixed

/-! ## Stable sorts -/

/-- What a stable sort promises: the order of a stable sort where the comparison is a total preorder
on the items. -/
def SortsStably (sort : {α : Type} → (α → α → Ordering) → List α → List α) : Prop :=
  ∀ {α : Type} (order : α → α → Ordering) (items : List α),
    TotalPreorderOn order {item | item ∈ items} →
      sort order items = items.mergeSort fun left right => order left right != .gt

variable {order : α → α → Ordering} {items rest : List α} {first : α}

/-- Sorting the items as members of the list, where the comparison is a total preorder. -/
theorem mergeSort_attach (order : α → α → Ordering) (items : List α) :
    (items.attach.mergeSort fun left right => order left.1 right.1 != .gt).map Subtype.val =
      items.mergeSort fun left right => order left right != .gt := by
  rw [List.map_mergeSort (s := fun left right => order left right != .gt),
    List.attach_map_subtype_val]
  intro left _ right _
  rfl

theorem le_trans_of_total (preorder : TotalPreorderOn order {item | item ∈ items})
    (left middle right : {item // item ∈ items}) (below : (order left.1 middle.1 != .gt) = true)
    (above : (order middle.1 right.1 != .gt) = true) : (order left.1 right.1 != .gt) = true := by
  rw [bne_iff_ne] at *
  exact preorder.trans _ left.2 _ middle.2 _ right.2 below above

theorem le_total_of_total (preorder : TotalPreorderOn order {item | item ∈ items})
    (left right : {item // item ∈ items}) :
    (order left.1 right.1 != .gt || order right.1 left.1 != .gt) = true := by
  rw [preorder.total _ left.2 _ right.2]
  cases order left.1 right.1 <;> rfl

/-- What a sort puts first is not greater than any item. -/
theorem head_le (preorder : TotalPreorderOn order {item | item ∈ items})
    (sorted : (items.mergeSort fun left right => order left right != .gt) = first :: rest)
    {item : α} (member : item ∈ items) : order first item ≠ .gt := by
  have pairwise := List.pairwise_mergeSort (le_trans_of_total preorder) (le_total_of_total preorder)
    items.attach
  have ordered : (first :: rest).Pairwise fun left right => (order left right != .gt) = true := by
    rw [← sorted, ← mergeSort_attach, List.pairwise_map]
    exact pairwise
  have listed : item ∈ first :: rest := by
    rw [← sorted]
    exact List.mem_mergeSort.mpr member
  rcases List.mem_cons.mp listed with rfl | later
  · rw [preorder.refl member]
    decide
  · exact bne_iff_ne.mp ((List.pairwise_cons.mp ordered).1 item later)

/-- The first of the least items comes first in a stable sort. -/
theorem mergeSort_head {le : α → α → Bool}
    (trans : ∀ left middle right, le left middle = true → le middle right = true →
      le left right = true)
    (total : ∀ left right, (le left right || le right left) = true) {before after : List α}
    {first : α} (greater : ∀ item ∈ before, le item first = false)
    (least : ∀ item ∈ after, le first item = true) :
    ∃ rest, (before ++ first :: after).mergeSort le = first :: rest := by
  induction before with
  | nil =>
    obtain ⟨ahead, behind, sorted, split, smaller⟩ := List.mergeSort_cons trans total first after
    cases ahead with
    | nil => exact ⟨behind, sorted⟩
    | cons item ahead =>
      exfalso
      have member : item ∈ after := by
        apply List.mem_mergeSort.mp
        rw [split]
        exact List.mem_cons_self
      have notGreater := smaller item List.mem_cons_self
      rw [least item member] at notGreater
      contradiction
  | cons other before ih =>
    obtain ⟨rest, sorted⟩ := ih fun item member => greater item (List.mem_cons_of_mem _ member)
    obtain ⟨ahead, behind, sorted', split, -⟩ :=
      List.mergeSort_cons trans total other (before ++ first :: after)
    rw [sorted] at split
    rw [List.cons_append, sorted']
    cases ahead with
    | nil =>
      -- Then the other item would not be greater than the first of the least.
      exfalso
      have ordered := List.pairwise_mergeSort trans total (other :: (before ++ first :: after))
      rw [sorted', List.nil_append, ← List.nil_append behind, ← split] at ordered
      have below := (List.pairwise_cons.mp ordered).1 first List.mem_cons_self
      rw [greater other List.mem_cons_self] at below
      contradiction
    | cons item ahead =>
      rw [List.cons_append, List.cons.injEq] at split
      exact ⟨ahead ++ other :: behind, by rw [← split.1, List.cons_append]⟩

/-- The first of the least items of a list. -/
def FirstLeast (order : α → α → Ordering) (items : List α) (first : α) : Prop :=
  ∃ before after, items = before ++ first :: after ∧
    (∀ item ∈ before, order first item = .lt) ∧ ∀ item ∈ after, order first item ≠ .gt

theorem FirstLeast.head (preorder : TotalPreorderOn order {item | item ∈ items})
    (least : FirstLeast order items first) :
    ∃ rest, (items.mergeSort fun left right => order left right != .gt) = first :: rest := by
  obtain ⟨before, after, rfl, greater, notGreater⟩ := least
  let whole := {item // item ∈ before ++ first :: after}
  let front : whole := ⟨first, by simp⟩
  let ahead : List whole := before.attach.map fun item => ⟨item.1, by simp [item.2]⟩
  let behind : List whole := after.attach.map fun item => ⟨item.1, by simp [item.2]⟩
  obtain ⟨rest, sorted⟩ := @mergeSort_head _ _ (le_trans_of_total preorder)
    (le_total_of_total preorder) ahead behind front
    (by
      intro item member
      obtain ⟨source, -, rfl⟩ := List.mem_map.mp member
      have swapped := preorder.total first (by simp) source.1 (by simp [source.2])
      simp [front, swapped, greater source.1 source.2])
    (by
      intro item member
      obtain ⟨source, -, rfl⟩ := List.mem_map.mp member
      exact bne_iff_ne.mpr (notGreater source.1 source.2))
  refine ⟨rest.map Subtype.val, ?_⟩
  have mapped := congrArg (List.map Subtype.val) sorted
  rw [List.map_mergeSort (s := fun left right => order left right != .gt) fun _ _ _ _ => rfl]
    at mapped
  simpa [front, ahead, behind, List.map_map] using mapped

/-- An item in front that is not greater than any stays in front. -/
theorem head_stays (preorder : TotalPreorderOn order {item | item ∈ first :: items})
    (least : ∀ item ∈ items, order first item ≠ .gt) :
    ∃ rest, ((first :: items).mergeSort fun left right => order left right != .gt) =
      first :: rest :=
  FirstLeast.head preorder ⟨[], items, rfl, by simp, least⟩

theorem exists_firstLeast (preorder : TotalPreorderOn order {item | item ∈ items})
    (nonempty : items ≠ []) : ∃ first, FirstLeast order items first := by
  induction items with
  | nil => contradiction
  | cons item items ih =>
    by_cases alone : items = []
    · exact ⟨item, [], [], by rw [alone, List.nil_append], by simp, by simp⟩
    · obtain ⟨first, before, after, rfl, greater, notGreater⟩ :=
        ih (preorder.subset fun _ member => List.mem_cons_of_mem _ member) alone
      by_cases less : order first item = .lt
      · refine ⟨first, item :: before, after, rfl, ?_, notGreater⟩
        intro other member
        rcases List.mem_cons.mp member with rfl | later
        · exact less
        · exact greater other later
      · refine ⟨item, [], before ++ first :: after, rfl, by simp, ?_⟩
        intro other member
        have least : order first other ≠ .gt := by
          rcases List.mem_append.mp member with ahead | behind
          · rw [greater other ahead]
            decide
          · rcases List.mem_cons.mp behind with rfl | later
            · rw [preorder.refl (List.mem_cons_of_mem _ member)]
              decide
            · exact notGreater other later
        have below : order item first ≠ .gt := by
          rw [preorder.total first (by simp) item (by simp)]
          cases compared : order first item <;> simp_all
        exact preorder.trans item (by simp) first (by simp) other
          (List.mem_cons_of_mem _ member) below least

end Choice
