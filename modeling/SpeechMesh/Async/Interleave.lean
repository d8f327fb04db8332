import SpeechMesh.Async.Trace

/-! # Two programs at once

Two programs that share a state take their actions in any order. Each of them performs its own part
of the trace, and the state goes through the whole of it.
-/

namespace Async

open Code

variable {S : Signature} {α β σ : Type} {step : σ → Entry S → σ → Prop}

/-- A state goes through a trace, whoever performs it. -/
inductive Passes (step : σ → Entry S → σ → Prop) : σ → Trace S → σ → Prop where
  | none (state : σ) : Passes step state [] state
  | next {before middle after : σ} {entry : Entry S} {trace : Trace S}
      (stepped : step before entry middle) (rest : Passes step middle trace after) :
      Passes step before (entry :: trace) after

/-- Two programs run at once. A trace tells which of them performed an action. -/
inductive Interleaved (step : σ → Entry S → σ → Prop) :
    Code S α → Code S β → σ → List (Entry S ⊕ Entry S) → Code S α → Code S β → σ → Prop where
  | stop (left : Code S α) (right : Code S β) (state : σ) :
      Interleaved step left right state [] left right state
  | left {action : S.Action} {next : S.Answer action → Code S α} {answer : S.Answer action}
      {right : Code S β} {before middle after : σ} {trace : List (Entry S ⊕ Entry S)}
      {leftLast : Code S α} {rightLast : Code S β} (stepped : step before ⟨action, answer⟩ middle)
      (rest : Interleaved step (next answer) right middle trace leftLast rightLast after) :
      Interleaved step (act action next) right before (.inl ⟨action, answer⟩ :: trace) leftLast
        rightLast after
  | right {action : S.Action} {next : S.Answer action → Code S β} {answer : S.Answer action}
      {left : Code S α} {before middle after : σ} {trace : List (Entry S ⊕ Entry S)}
      {leftLast : Code S α} {rightLast : Code S β} (stepped : step before ⟨action, answer⟩ middle)
      (rest : Interleaved step left (next answer) middle trace leftLast rightLast after) :
      Interleaved step left (act action next) before (.inr ⟨action, answer⟩ :: trace) leftLast
        rightLast after

/-- What the left program performed. -/
def lefts (trace : List (Entry S ⊕ Entry S)) : Trace S := trace.filterMap Sum.getLeft?

def rights (trace : List (Entry S ⊕ Entry S)) : Trace S := trace.filterMap Sum.getRight?

/-- The whole trace without who performed it. -/
def merged (trace : List (Entry S ⊕ Entry S)) : Trace S := trace.map (Sum.elim id id)

@[simp] theorem lefts_append (first second : List (Entry S ⊕ Entry S)) :
    lefts (first ++ second) = lefts first ++ lefts second := List.filterMap_append ..

@[simp] theorem rights_append (first second : List (Entry S ⊕ Entry S)) :
    rights (first ++ second) = rights first ++ rights second := List.filterMap_append ..

@[simp] theorem merged_append (first second : List (Entry S ⊕ Entry S)) :
    merged (first ++ second) = merged first ++ merged second := List.map_append ..

theorem lefts_subset (trace : List (Entry S ⊕ Entry S)) : lefts trace ⊆ merged trace := by
  intro entry member
  obtain ⟨origin, listed, found⟩ := List.mem_filterMap.mp member
  rw [Sum.getLeft?_eq_some_iff] at found
  exact List.mem_map.mpr ⟨origin, listed, by rw [found]; rfl⟩

theorem rights_subset (trace : List (Entry S ⊕ Entry S)) : rights trace ⊆ merged trace := by
  intro entry member
  obtain ⟨origin, listed, found⟩ := List.mem_filterMap.mp member
  rw [Sum.getRight?_eq_some_iff] at found
  exact List.mem_map.mpr ⟨origin, listed, by rw [found]; rfl⟩

/-- When the left program did nothing, the trace is that of the right one. -/
theorem merged_of_lefts_nil {trace : List (Entry S ⊕ Entry S)} (none : lefts trace = []) :
    merged trace = rights trace := by
  induction trace with
  | nil => rfl
  | cons origin trace ih =>
    cases origin with
    | inl entry => cases none
    | inr entry => exact congrArg (entry :: ·) (ih none)

@[simp] theorem lefts_swap (trace : List (Entry S ⊕ Entry S)) :
    lefts (trace.map Sum.swap) = rights trace := by
  induction trace with
  | nil => rfl
  | cons origin trace ih =>
    cases origin with
    | inl entry => exact ih
    | inr entry => exact congrArg (entry :: ·) ih

@[simp] theorem rights_swap (trace : List (Entry S ⊕ Entry S)) :
    rights (trace.map Sum.swap) = lefts trace := by
  induction trace with
  | nil => rfl
  | cons origin trace ih =>
    cases origin with
    | inl entry => exact congrArg (entry :: ·) ih
    | inr entry => exact ih

theorem merged_swap (trace : List (Entry S ⊕ Entry S)) :
    merged (trace.map Sum.swap) = merged trace := by
  rw [merged, List.map_map, merged]
  apply List.map_congr_left
  intro origin _
  cases origin <;> rfl

/-! ## Passing through a trace -/

theorem Passes.append {before middle after : σ} {first second : Trace S}
    (passes : Passes step before first middle) (further : Passes step middle second after) :
    Passes step before (first ++ second) after := by
  induction passes with
  | none => exact further
  | next stepped _ ih => exact .next stepped (ih further)

theorem Passes.split {before after : σ} {first second : Trace S}
    (passes : Passes step before (first ++ second) after) :
    ∃ middle, Passes step before first middle ∧ Passes step middle second after := by
  induction first generalizing before with
  | nil => exact ⟨before, .none before, passes⟩
  | cons entry rest ih =>
    cases passes with
    | next stepped further =>
      obtain ⟨middle, earlier, later⟩ := ih further
      exact ⟨middle, .next stepped earlier, later⟩

theorem Passes.of_nil {before after : σ} (passes : Passes step before [] after) :
    after = before := by
  cases passes
  rfl

theorem Passes.single {before after : σ} {entry : Entry S}
    (passes : Passes step before [entry] after) : step before entry after := by
  cases passes with
  | next stepped rest =>
    obtain rfl := rest.of_nil
    exact stepped

theorem Code.Performs.passes {code last : Code S α} {before after : σ} {trace : Trace S}
    (ran : Performs step code before trace last after) : Passes step before trace after := by
  induction ran with
  | stop code state => exact .none state
  | act stepped _ ih => exact .next stepped ih

/-- A trace that a program can perform takes it through the states that the trace goes through. -/
theorem Passes.performs {code last : Code S α} {before after : σ} {trace : Trace S}
    (passes : Passes step before trace after) (ran : Performs AnyStep code () trace last ()) :
    Performs step code before trace last after := by
  induction passes generalizing code with
  | none state =>
    obtain ⟨rfl, -⟩ := ran.of_nil
    exact .stop _ state
  | next stepped _ ih =>
    cases ran with
    | act _ rest => exact .act stepped (ih rest)

/-! ## The parts of an interleaving -/

variable {left leftLast : Code S α} {right rightLast : Code S β} {before after : σ}
  {trace : List (Entry S ⊕ Entry S)}

theorem Interleaved.passes
    (ran : Interleaved step left right before trace leftLast rightLast after) :
    Passes step before (merged trace) after := by
  induction ran with
  | stop left right state => exact .none state
  | left stepped _ ih => exact .next stepped ih
  | right stepped _ ih => exact .next stepped ih

theorem Interleaved.lefts
    (ran : Interleaved step left right before trace leftLast rightLast after) :
    Performs AnyStep left () (lefts trace) leftLast () := by
  induction ran with
  | stop left right state => exact .stop left ()
  | left _ _ ih => exact .act trivial ih
  | right _ _ ih => exact ih

theorem Interleaved.rights
    (ran : Interleaved step left right before trace leftLast rightLast after) :
    Performs AnyStep right () (rights trace) rightLast () := by
  induction ran with
  | stop left right state => exact .stop right ()
  | left _ _ ih => exact ih
  | right _ _ ih => exact .act trivial ih

/-- The order of the two programs does not matter. -/
theorem Interleaved.swap
    (ran : Interleaved step left right before trace leftLast rightLast after) :
    Interleaved step right left before (trace.map Sum.swap) rightLast leftLast after := by
  induction ran with
  | stop left right state => exact .stop right left state
  | left stepped _ ih => exact .right stepped ih
  | right stepped _ ih => exact .left stepped ih

theorem Interleaved.left_first {between : σ} {middle : Code S α} {first : Trace S}
    (ran : Performs step left before first middle between)
    (further : Interleaved step middle right between trace leftLast rightLast after) :
    Interleaved step left right before (first.map .inl ++ trace) leftLast rightLast after := by
  induction ran with
  | stop => exact further
  | act stepped _ ih => exact .left stepped (ih further)

theorem Interleaved.right_first {between : σ} {middle : Code S β} {first : Trace S}
    (ran : Performs step right before first middle between)
    (further : Interleaved step left middle between trace leftLast rightLast after) :
    Interleaved step left right before (first.map .inr ++ trace) leftLast rightLast after := by
  induction ran with
  | stop => exact further
  | act stepped _ ih => exact .right stepped (ih further)

end Async
