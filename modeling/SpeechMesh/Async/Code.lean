import Mathlib.Tactic.Common

/-! # Asynchronous functions as trees of atomic actions

An asynchronous function alternates between local computation and awaits. Nothing of another task
can be observed between two of its awaits, so the function is the tree of its atomic actions: what
it does next is a function of the answers it got so far. Loops are not part of a tree; a task
re-enters a named procedure instead (`Async.Machine.body`).
-/

namespace Async

/-- The atomic actions of a system, and what each of them answers. -/
structure Signature where
  Action : Type
  Answer : Action → Type

/-- A program is finished, or performs one action and continues with its answer. -/
inductive Code (S : Signature) (α : Type) : Type where
  | done (value : α)
  | act (action : S.Action) (next : S.Answer action → Code S α)

namespace Code

variable {S : Signature} {α β γ : Type}

def bind : Code S α → (α → Code S β) → Code S β
  | done value, rest => rest value
  | act action next, rest => act action fun answer => (next answer).bind rest

instance : Monad (Code S) where
  pure := done
  bind := bind

/-- One action as a program. -/
def perform (action : S.Action) : Code S (S.Answer action) := act action done

@[simp] theorem pure_eq (value : α) : (pure value : Code S α) = done value := rfl

@[simp] theorem done_bind (value : α) (rest : α → Code S β) :
    (done value : Code S α) >>= rest = rest value := rfl

@[simp] theorem act_bind (action : S.Action) (next : S.Answer action → Code S α)
    (rest : α → Code S β) :
    act action next >>= rest = act action fun answer => next answer >>= rest := rfl

theorem bind_done (code : Code S α) : code >>= done = code := by
  induction code with
  | done value => rfl
  | act action next ih => exact congrArg (act action) (funext ih)

theorem bind_assoc (code : Code S α) (first : α → Code S β) (second : β → Code S γ) :
    code >>= first >>= second = code >>= fun value => first value >>= second := by
  induction code with
  | done value => rfl
  | act action next ih => exact congrArg (act action) (funext ih)

instance : LawfulMonad (Code S) :=
  LawfulMonad.mk' (Code S) bind_done (fun _ _ => rfl) bind_assoc

/-- Run a program for each element of a list, in order. -/
def each {ι : Type} (items : List ι) (visit : ι → Code S Unit) : Code S Unit :=
  match items with
  | [] => pure ()
  | item :: rest => do
    visit item
    each rest visit

/-! ## Footprints -/

/-- Every action the program may perform is in `actions`, and every value it may return is in
`values`, whatever the answers are. -/
def Within (actions : S.Action → Prop) (values : α → Prop) : Code S α → Prop
  | done value => values value
  | act action next => actions action ∧ ∀ answer, (next answer).Within actions values

variable {actions : S.Action → Prop}

@[simp] theorem within_done {values : α → Prop} (value : α) :
    (done value : Code S α).Within actions values ↔ values value := Iff.rfl

@[simp] theorem within_act {values : α → Prop} (action : S.Action)
    (next : S.Answer action → Code S α) :
    (act action next).Within actions values ↔
      actions action ∧ ∀ answer, (next answer).Within actions values := Iff.rfl

theorem Within.perform {values : S.Answer action → Prop} (permitted : actions action)
    (all : ∀ answer, values answer) : (perform action : Code S _).Within actions values :=
  ⟨permitted, all⟩

theorem Within.bind {middle : α → Prop} {values : β → Prop} {code : Code S α}
    {rest : α → Code S β} (first : code.Within actions middle)
    (second : ∀ value, middle value → (rest value).Within actions values) :
    (code >>= rest).Within actions values := by
  induction code with
  | done value => exact second value first
  | act action next ih => exact ⟨first.1, fun answer => ih answer (first.2 answer)⟩

theorem Within.mono {larger : S.Action → Prop} {values wider : α → Prop} {code : Code S α}
    (within : code.Within actions values) (actionsMono : ∀ action, actions action → larger action)
    (valuesMono : ∀ value, values value → wider value) : code.Within larger wider := by
  induction code with
  | done value => exact valuesMono value within
  | act action next ih =>
    exact ⟨actionsMono action within.1, fun answer => ih answer (within.2 answer)⟩

theorem Within.and {others : S.Action → Prop} {values wider : α → Prop} {code : Code S α}
    (first : code.Within actions values) (second : code.Within others wider) :
    code.Within (fun action => actions action ∧ others action)
      fun value => values value ∧ wider value := by
  induction code with
  | done value => exact ⟨first, second⟩
  | act action next ih =>
    exact ⟨⟨first.1, second.1⟩, fun answer => ih answer (first.2 answer) (second.2 answer)⟩

theorem Within.each {ι : Type} {items : List ι} {visit : ι → Code S Unit}
    (visits : ∀ item ∈ items, (visit item).Within actions fun _ => True) :
    (each items visit).Within actions fun _ => True := by
  induction items with
  | nil => trivial
  | cons item rest ih =>
    exact (visits item (List.mem_cons_self ..)).bind fun _ _ =>
      ih fun other member => visits other (List.mem_cons_of_mem _ member)

end Code

end Async
