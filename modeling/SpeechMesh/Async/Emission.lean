import Mathlib.Data.List.Basic

/-! # Event channels seen from their sender

A task that owns the sending end of an event channel learns that the receiver is gone only by a
send that fails, and every later send fails too. The channel's capacity only delays it.
-/

namespace Async

/-- What was accepted so far, and how many more events are accepted before the receiver is dropped;
`none` when it stays. -/
structure Outbox (ε : Type) where
  accepted : List ε := []
  room : Option ℕ := none
deriving DecidableEq, Repr

namespace Outbox

variable {ε : Type}

/-- Send one event. The flag tells whether it was accepted. -/
def send (outbox : Outbox ε) (event : ε) : Outbox ε × Bool :=
  match outbox.room with
  | none => ({ outbox with accepted := outbox.accepted ++ [event] }, true)
  | some 0 => (outbox, false)
  | some (left + 1) => (⟨outbox.accepted ++ [event], some left⟩, true)

/-- Send events one after the other, whatever becomes of them. -/
def sendAll (outbox : Outbox ε) (events : List ε) : Outbox ε :=
  events.foldl (fun outbox event => (outbox.send event).1) outbox

@[simp] theorem send_live (accepted : List ε) (event : ε) :
    (⟨accepted, none⟩ : Outbox ε).send event = (⟨accepted ++ [event], none⟩, true) := rfl

@[simp] theorem send_dropped (accepted : List ε) (event : ε) :
    (⟨accepted, some 0⟩ : Outbox ε).send event = (⟨accepted, some 0⟩, false) := rfl

@[simp] theorem sendAll_live (accepted events : List ε) :
    (⟨accepted, none⟩ : Outbox ε).sendAll events = ⟨accepted ++ events, none⟩ := by
  induction events generalizing accepted with
  | nil => simp [sendAll]
  | cons event rest ih =>
    change (⟨accepted ++ [event], none⟩ : Outbox ε).sendAll rest = _
    rw [ih, List.append_assoc, List.singleton_append]

/-- A send appends the event, or leaves an outbox without a receiver as it is. -/
theorem send_cases (outbox : Outbox ε) (event : ε) :
    ((outbox.send event).2 = true ∧
      (outbox.send event).1.accepted = outbox.accepted ++ [event]) ∨
    (outbox.room = some 0 ∧ outbox.send event = (outbox, false)) := by
  obtain ⟨accepted, room⟩ := outbox
  match room with
  | none => exact .inl ⟨rfl, rfl⟩
  | some 0 => exact .inr ⟨rfl, rfl⟩
  | some (left + 1) => exact .inl ⟨rfl, rfl⟩

end Outbox

/-! ## Sessions that end once -/

/-- Exactly one event ends the session, and it is the last one. -/
def EndsOnce {ε : Type} (ends : ε → Bool) (events : List ε) : Prop :=
  (events.filter ends).length = 1 ∧ events.getLast?.any ends = true

section

variable {ε : Type} {ends : ε → Bool}

instance (events : List ε) : Decidable (EndsOnce ends events) :=
  inferInstanceAs (Decidable (_ ∧ _))

theorem EndsOnce.of_last {earlier : List ε} {last : ε} (quiet : ∀ event ∈ earlier, ends event = false)
    (ended : ends last = true) : EndsOnce ends (earlier ++ [last]) := by
  have none_ends : earlier.filter ends = [] := by
    rw [List.filter_eq_nil_iff]
    intro event member
    simp [quiet event member]
  constructor
  · rw [List.filter_append, none_ends, List.nil_append, List.filter_cons_of_pos ended]
    rfl
  · simp [ended]

theorem not_endsOnce_of_quiet {events : List ε} (quiet : ∀ event ∈ events, ends event = false) :
    ¬ EndsOnce ends events := by
  rintro ⟨once, _⟩
  have none_ends : events.filter ends = [] := by
    rw [List.filter_eq_nil_iff]
    intro event member
    simp [quiet event member]
  rw [none_ends] at once
  cases once

/-- Events that do not end the session can be put before the others. -/
theorem endsOnce_append {earlier later : List ε} (quiet : ∀ event ∈ earlier, ends event = false) :
    EndsOnce ends (earlier ++ later) ↔ EndsOnce ends later := by
  have none_ends : earlier.filter ends = [] := by
    rw [List.filter_eq_nil_iff]
    intro event member
    simp [quiet event member]
  unfold EndsOnce
  rw [List.filter_append, none_ends, List.nil_append]
  refine and_congr_right fun once => ?_
  rcases List.eq_nil_or_concat later with rfl | ⟨start, last, rfl⟩
  · cases once
  · simp

theorem endsOnce_cons {first : ε} {later : List ε} (quiet : ends first = false) :
    EndsOnce ends (first :: later) ↔ EndsOnce ends later := by
  have earlier : ∀ event ∈ [first], ends event = false := by simp [quiet]
  exact endsOnce_append earlier

theorem endsOnce_singleton {last : ε} : EndsOnce ends [last] ↔ ends last = true := by
  cases ended : ends last with
  | true =>
    have earlier : ∀ event ∈ ([] : List ε), ends event = false := by simp
    exact iff_of_true (.of_last earlier ended) rfl
  | false => exact iff_of_false (not_endsOnce_of_quiet (by simp [ended])) Bool.false_ne_true

end

end Async
