import Mathlib.Data.List.AList

/-! # Channels, one-shot replies and keyed tables

A channel remembers everything that was ever put on it, in order, and how much of it has been
received, so that statements about what was sent are statements about one list. Hash maps are
association lists without duplicate keys. Their iteration order is the order of the entries, which
nothing but the iteration itself can observe.
-/

namespace Async

/-- A bounded multi-producer channel. `closed` is set when the receiver is gone and `released`
when all senders are. -/
structure Channel (α : Type) where
  sent : List α := []
  received : ℕ := 0
  closed : Bool := false
  released : Bool := false
deriving DecidableEq, Repr

namespace Channel

variable {α : Type}

def pending (channel : Channel α) : List α := channel.sent.drop channel.received

/-- Sending fails once the receiver is gone, and waits while the channel is full. -/
def send? (channel : Channel α) (capacity : ℕ) (message : α) : Option (Channel α × Bool) :=
  if channel.closed then some (channel, false)
  else if channel.pending.length < capacity then
    some ({ channel with sent := channel.sent ++ [message] }, true)
  else none

/-- Receiving waits for a message, and ends when no sender is left. -/
def receive? (channel : Channel α) : Option (Channel α × Option α) :=
  match channel.sent[channel.received]? with
  | some message => some ({ channel with received := channel.received + 1 }, some message)
  | none => if channel.released then some (channel, none) else none

/-- A send appends the message to an open channel, or reports a closed one. -/
theorem send?_cases {channel after : Channel α} {capacity : ℕ} {message : α} {accepted : Bool}
    (ran : channel.send? capacity message = some (after, accepted)) :
    (accepted = false ∧ channel.closed = true ∧ after = channel) ∨
    (accepted = true ∧ channel.closed = false ∧
      after = { channel with sent := channel.sent ++ [message] }) := by
  unfold send? at ran
  split_ifs at ran with closed room
  · obtain ⟨rfl, rfl⟩ := Prod.mk.inj (Option.some.inj ran)
    exact .inl ⟨rfl, closed, rfl⟩
  · obtain ⟨rfl, rfl⟩ := Prod.mk.inj (Option.some.inj ran)
    exact .inr ⟨rfl, Bool.eq_false_iff.mpr closed, rfl⟩

/-- A receive takes the next message, or reports that nothing can come any more. -/
theorem receive?_cases {channel after : Channel α} {answer : Option α}
    (ran : channel.receive? = some (after, answer)) :
    (∃ message, answer = some message ∧ channel.sent[channel.received]? = some message ∧
      after = { channel with received := channel.received + 1 }) ∨
    (answer = none ∧ channel.released = true ∧ after = channel) := by
  unfold receive? at ran
  split at ran
  · rename_i message next
    obtain ⟨rfl, rfl⟩ := Prod.mk.inj (Option.some.inj ran)
    exact .inl ⟨message, rfl, next, rfl⟩
  · split_ifs at ran with released
    obtain ⟨rfl, rfl⟩ := Prod.mk.inj (Option.some.inj ran)
    exact .inr ⟨rfl, released, rfl⟩

theorem send?_sent {channel after : Channel α} {capacity : ℕ} {message : α} {accepted : Bool}
    (ran : channel.send? capacity message = some (after, accepted)) :
    after.sent = channel.sent ++ if accepted then [message] else [] := by
  rcases send?_cases ran with ⟨rfl, _, rfl⟩ | ⟨rfl, _, rfl⟩
  · simp
  · rfl

/-- What was received, in order. -/
def taken (channel : Channel α) : List α := channel.sent.take channel.received

/-- No more was received than was sent. -/
def Counted (channel : Channel α) : Prop := channel.received ≤ channel.sent.length

theorem taken_prefix (channel : Channel α) : channel.taken <+: channel.sent :=
  List.take_prefix ..

theorem send?_taken {channel after : Channel α} {capacity : ℕ} {message : α} {accepted : Bool}
    (counted : channel.Counted) (ran : channel.send? capacity message = some (after, accepted)) :
    after.taken = channel.taken ∧ after.Counted := by
  rcases send?_cases ran with ⟨_, _, rfl⟩ | ⟨_, _, rfl⟩
  · exact ⟨rfl, counted⟩
  · refine ⟨List.take_append_of_le_length counted, ?_⟩
    have longer : channel.received ≤ (channel.sent ++ [message]).length := by
      rw [List.length_append]
      exact Nat.le_add_right_of_le counted
    exact longer

theorem receive?_taken {channel after : Channel α} {answer : Option α}
    (counted : channel.Counted) (ran : channel.receive? = some (after, answer)) :
    after.taken = channel.taken ++ answer.toList ∧ after.Counted := by
  rcases receive?_cases ran with ⟨message, rfl, next, rfl⟩ | ⟨rfl, _, rfl⟩
  · have bound := (List.getElem?_eq_some_iff.mp next).1
    refine ⟨?_, bound⟩
    simp only [taken, Option.toList_some]
    rw [List.take_add_one, next, Option.toList_some]
  · exact ⟨(List.append_nil _).symm, counted⟩

theorem receive?_sent {channel after : Channel α} {answer : Option α}
    (ran : channel.receive? = some (after, answer)) : after.sent = channel.sent := by
  rcases receive?_cases ran with ⟨_, _, _, rfl⟩ | ⟨_, _, rfl⟩ <;> rfl

theorem receive?_closed {channel after : Channel α} {answer : Option α}
    (ran : channel.receive? = some (after, answer)) : after.closed = channel.closed := by
  rcases receive?_cases ran with ⟨_, _, _, rfl⟩ | ⟨_, _, rfl⟩ <;> rfl

end Channel

/-- The receiving end of a one-shot reply: nothing yet, the value, or a sender that is gone. -/
inductive OneShot (α : Type) where
  | waiting
  | sent (value : α)
  | dropped
deriving DecidableEq, Repr

/-- Only the first send counts; the sender is consumed by it. -/
def OneShot.send {α : Type} (reply : OneShot α) (value : α) : OneShot α :=
  match reply with
  | .waiting => .sent value
  | settled => settled

def OneShot.drop {α : Type} (reply : OneShot α) : OneShot α :=
  match reply with
  | .waiting => .dropped
  | settled => settled

/-- A hash map. -/
abbrev Table (κ ν : Type) := AList fun _ : κ => ν

namespace Table

variable {κ ν : Type} [DecidableEq κ]

/-- The keys whose values are selected. -/
def keysWhere (table : Table κ ν) (select : ν → Bool) : List κ :=
  table.entries.filterMap fun entry => if select entry.2 then some entry.1 else none

/-- Remove the listed keys one after the other, collecting what was removed. -/
def removeAll (table : Table κ ν) : List κ → Table κ ν × List (κ × ν)
  | [] => (table, [])
  | key :: rest =>
    match table.lookup key with
    | some value =>
        let (remaining, removed) := removeAll (table.erase key) rest
        (remaining, (key, value) :: removed)
    | none => removeAll table rest

theorem mem_keysWhere {table : Table κ ν} {select : ν → Bool} {key : κ} :
    key ∈ table.keysWhere select ↔ ∃ value, table.lookup key = some value ∧ select value = true := by
  simp only [keysWhere, List.mem_filterMap, Option.ite_none_right_eq_some, Option.some.injEq]
  constructor
  · rintro ⟨⟨found, value⟩, member, chosen, rfl⟩
    exact ⟨value, AList.mem_lookup_iff.mpr member, chosen⟩
  · rintro ⟨value, found, chosen⟩
    exact ⟨⟨key, value⟩, AList.mem_lookup_iff.mp found, chosen, rfl⟩

theorem lookup_removeAll (table : Table κ ν) (keys : List κ) (key : κ) :
    (table.removeAll keys).1.lookup key = if key ∈ keys then none else table.lookup key := by
  induction keys generalizing table with
  | nil => simp [removeAll]
  | cons head rest ih =>
    simp only [removeAll]
    split
    · rename_i value found
      simp only [ih, List.mem_cons]
      by_cases same : key = head
      · subst same
        simp
      · simp [same, AList.lookup_erase_ne same]
    · rename_i missing
      simp only [ih, List.mem_cons]
      by_cases same : key = head
      · subst same
        simp [missing]
      · simp [same]

theorem mem_removeAll {table : Table κ ν} {keys : List κ} {key : κ} {value : ν} :
    (key, value) ∈ (table.removeAll keys).2 ↔ key ∈ keys ∧ table.lookup key = some value := by
  induction keys generalizing table with
  | nil => simp [removeAll]
  | cons head rest ih =>
    simp only [removeAll]
    split
    · rename_i removed found
      simp only [List.mem_cons, ih, Prod.mk.injEq]
      by_cases same : key = head
      · subst same
        simp only [AList.lookup_erase, reduceCtorEq, and_false, or_false, true_and, true_or, found,
          Option.some.injEq]
        exact eq_comm
      · simp [same, AList.lookup_erase_ne same]
    · rename_i missing
      simp only [ih, List.mem_cons]
      by_cases same : key = head
      · subst same
        simp [missing]
      · simp [same]

/-- Remove every selected entry, as a scan for the keys followed by one removal for each. -/
def drainWhere (table : Table κ ν) (select : ν → Bool) : Table κ ν × List (κ × ν) :=
  table.removeAll (table.keysWhere select)

theorem lookup_drainWhere (table : Table κ ν) (select : ν → Bool) (key : κ) :
    (table.drainWhere select).1.lookup key = (table.lookup key).filter fun value => !select value := by
  simp only [drainWhere, lookup_removeAll, mem_keysWhere]
  cases found : table.lookup key with
  | none => simp
  | some value => cases chosen : select value <;> simp [chosen, Option.filter]

theorem mem_drainWhere {table : Table κ ν} {select : ν → Bool} {key : κ} {value : ν} :
    (key, value) ∈ (table.drainWhere select).2 ↔
      table.lookup key = some value ∧ select value = true := by
  simp only [drainWhere, mem_removeAll, mem_keysWhere]
  constructor
  · rintro ⟨⟨other, found, chosen⟩, present⟩
    obtain rfl := Option.some.inj (found.symm.trans present)
    exact ⟨present, chosen⟩
  · rintro ⟨present, chosen⟩
    exact ⟨⟨value, present, chosen⟩, present⟩

/-- Every drained key is drained once. -/
theorem nodup_drainWhere (table : Table κ ν) (select : ν → Bool) :
    ((table.drainWhere select).2.map Prod.fst).Nodup := by
  have removeNodup : ∀ (keys : List κ) (table : Table κ ν),
      ((table.removeAll keys).2.map Prod.fst).Nodup := by
    intro keys
    induction keys with
    | nil => intro table; simp [removeAll]
    | cons head rest ih =>
      intro table
      simp only [removeAll]
      split
      · rename_i value found
        refine List.nodup_cons.mpr ⟨?_, ih _⟩
        intro member
        obtain ⟨⟨key, other⟩, present, rfl⟩ := List.mem_map.mp member
        have absent := (mem_removeAll.mp present).2
        simp at absent
      · exact ih _
  exact removeNodup _ _

/-- Another iteration order of the same entries. -/
def reorder [DecidableEq ν] (table order : Table κ ν) : Table κ ν :=
  if order.entries.Perm table.entries then order else table

@[simp] theorem lookup_reorder [DecidableEq ν] (table order : Table κ ν) (key : κ) :
    (table.reorder order).lookup key = table.lookup key := by
  unfold reorder
  split_ifs with same
  · exact AList.perm_lookup same
  · rfl

end Table

end Async
