import SpeechMesh.Async.Interleave

/-! # Actions that take time

An action of a program need not be one step of the state it works on: a file is written piece by
piece. Two programs whose actions take time can be in the middle of an action each. Where a relation
between the whole actions and their steps is kept, the two programs come to the same as if their
actions were performed at once, each at its end.
-/

namespace Async

variable {S : Signature} {α β σ : Type}

/-- How actions are carried out, one step of the state at a time. -/
structure Gradual (S : Signature) (σ : Type) where
  Stage : S.Action → Type
  start : (action : S.Action) → Stage action
  Moves : {action : S.Action} → Stage action → σ → Stage action → σ → Prop
  Ends : {action : S.Action} → Stage action → σ → S.Answer action → Prop

/-- A program between two actions, or in the middle of one. -/
inductive Thread (G : Gradual S σ) (α : Type) where
  | idle (code : Code S α)
  | busy (action : S.Action) (stage : G.Stage action) (next : S.Answer action → Code S α)

variable {G : Gradual S σ}

/-- The program of a thread. An action is part of it until it ends. -/
def Thread.code : Thread G α → Code S α
  | .idle code => code
  | .busy action _ next => .act action next

/-- A thread begins an action, or moves within it. -/
inductive Thread.Moves : Thread G α → σ → Thread G α → σ → Prop where
  | begins (action : S.Action) (next : S.Answer action → Code S α) (state : σ) :
      Moves (.idle (.act action next)) state (.busy action (G.start action) next) state
  | moves {action : S.Action} {stage later : G.Stage action} {next : S.Answer action → Code S α}
      {before after : σ} (moved : G.Moves stage before later after) :
      Moves (.busy action stage next) before (.busy action later next) after

/-- A thread ends an action, and has performed it. -/
inductive Thread.Ends : Thread G α → σ → Entry S → Thread G α → Prop where
  | ends {action : S.Action} {stage : G.Stage action} {next : S.Answer action → Code S α}
      {state : σ} {answer : S.Answer action} (ended : G.Ends stage state answer) :
      Ends (.busy action stage next) state ⟨action, answer⟩ (.idle (next answer))

/-- Two threads run at once, and every two threads they come to are together as they may be. The
trace tells which of them has ended an action. -/
inductive Overlapped (G : Gradual S σ) (together : Thread G α → Thread G β → Prop) :
    Thread G α → Thread G β → σ → List (Entry S ⊕ Entry S) → Thread G α → Thread G β → σ → Prop where
  | stop (left : Thread G α) (right : Thread G β) (state : σ) :
      Overlapped G together left right state [] left right state
  | leftMoves {left next leftLast : Thread G α} {right rightLast : Thread G β}
      {before middle after : σ} {trace : List (Entry S ⊕ Entry S)}
      (moves : left.Moves before next middle) (meets : together next right)
      (rest : Overlapped G together next right middle trace leftLast rightLast after) :
      Overlapped G together left right before trace leftLast rightLast after
  | leftEnds {left next leftLast : Thread G α} {right rightLast : Thread G β} {before after : σ}
      {entry : Entry S} {trace : List (Entry S ⊕ Entry S)}
      (ends : left.Ends before entry next) (meets : together next right)
      (rest : Overlapped G together next right before trace leftLast rightLast after) :
      Overlapped G together left right before (.inl entry :: trace) leftLast rightLast after
  | rightMoves {left leftLast : Thread G α} {right next rightLast : Thread G β}
      {before middle after : σ} {trace : List (Entry S ⊕ Entry S)}
      (moves : right.Moves before next middle) (meets : together left next)
      (rest : Overlapped G together left next middle trace leftLast rightLast after) :
      Overlapped G together left right before trace leftLast rightLast after
  | rightEnds {left leftLast : Thread G α} {right next rightLast : Thread G β} {before after : σ}
      {entry : Entry S} {trace : List (Entry S ⊕ Entry S)}
      (ends : right.Ends before entry next) (meets : together left next)
      (rest : Overlapped G together left next before trace leftLast rightLast after) :
      Overlapped G together left right before (.inr entry :: trace) leftLast rightLast after

/-- The threads do not keep out of each other's way. -/
def Anyhow (_ : Thread G α) (_ : Thread G β) : Prop := True

variable {together : Thread G α → Thread G β → Prop} {step : σ → Entry S → σ → Prop}

theorem Overlapped.append {left middleLeft leftLast : Thread G α}
    {right middleRight rightLast : Thread G β} {before between after : σ}
    {first second : List (Entry S ⊕ Entry S)}
    (ran : Overlapped G together left right before first middleLeft middleRight between)
    (further : Overlapped G together middleLeft middleRight between second leftLast rightLast after) :
    Overlapped G together left right before (first ++ second) leftLast rightLast after := by
  induction ran with
  | stop => exact further
  | leftMoves moves meets _ ih => exact .leftMoves moves meets (ih further)
  | leftEnds ends meets _ ih => exact .leftEnds ends meets (ih further)
  | rightMoves moves meets _ ih => exact .rightMoves moves meets (ih further)
  | rightEnds ends meets _ ih => exact .rightEnds ends meets (ih further)

/-! ## Whole actions -/

/-- The relation between the state that the actions under way are to be performed in, two threads, and
the state that they have come to: nothing is performed before an action ends, and then all of it. -/
structure PerformsWhole (step : σ → Entry S → σ → Prop) (together : Thread G α → Thread G β → Prop)
    (stands : σ → Thread G α → Thread G β → σ → Prop) : Prop where
  leftMoves : ∀ {origin left right before next after}, stands origin left right before →
    left.Moves before next after → together next right → stands origin next right after
  leftEnds : ∀ {origin left right state entry next}, stands origin left right state →
    left.Ends state entry next → together next right →
      ∃ after, step origin entry after ∧ stands after next right state
  rightMoves : ∀ {origin left right before next after}, stands origin left right before →
    right.Moves before next after → together left next → stands origin left next after
  rightEnds : ∀ {origin left right state entry next}, stands origin left right state →
    right.Ends state entry next → together left next →
      ∃ after, step origin entry after ∧ stands after left next state

theorem Thread.Moves.code {thread next : Thread G α} {before after : σ}
    (moves : thread.Moves before next after) : next.code = thread.code := by
  cases moves with
  | begins | moves => rfl

/-- The actions of two threads can be taken as performed at once, each at its end. -/
theorem Overlapped.interleaved {stands : σ → Thread G α → Thread G β → σ → Prop}
    (whole : PerformsWhole step together stands)
    {left leftLast : Thread G α} {right rightLast : Thread G β} {before after origin : σ}
    {trace : List (Entry S ⊕ Entry S)}
    (ran : Overlapped G together left right before trace leftLast rightLast after)
    (begun : stands origin left right before) :
    ∃ last, Interleaved step left.code right.code origin trace leftLast.code rightLast.code last ∧
      stands last leftLast rightLast after := by
  induction ran generalizing origin with
  | stop left right state => exact ⟨origin, .stop _ _ origin, begun⟩
  | leftMoves moves meets _ ih =>
    rw [← moves.code]
    exact ih (whole.leftMoves begun moves meets)
  | leftEnds ends meets _ ih =>
    obtain ⟨middle, stepped, kept⟩ := whole.leftEnds begun ends meets
    obtain ⟨last, further, standing⟩ := ih kept
    cases ends with
    | ends => exact ⟨last, .left stepped further, standing⟩
  | rightMoves moves meets _ ih =>
    rw [← moves.code]
    exact ih (whole.rightMoves begun moves meets)
  | rightEnds ends meets _ ih =>
    obtain ⟨middle, stepped, kept⟩ := whole.rightEnds begun ends meets
    obtain ⟨last, further, standing⟩ := ih kept
    cases ends with
    | ends => exact ⟨last, .right stepped further, standing⟩

/-! ## One action after the other -/

/-- An action in a stage is carried to its end with nobody else in between. -/
inductive Gradual.Carries (G : Gradual S σ) {action : S.Action} :
    G.Stage action → σ → S.Answer action → σ → Prop where
  | ends {stage : G.Stage action} {state : σ} {answer : S.Answer action}
      (ended : G.Ends stage state answer) : Carries G stage state answer state
  | moves {stage later : G.Stage action} {before middle after : σ} {answer : S.Answer action}
      (moved : G.Moves stage before later middle) (rest : Carries G later middle answer after) :
      Carries G stage before answer after

theorem Overlapped.carry_left {action : S.Action} {stage : G.Stage action}
    {next : S.Answer action → Code S α} {code : Code S β} {answer : S.Answer action}
    {before middle after : σ} {trace : List (Entry S ⊕ Entry S)} {leftLast : Thread G α}
    {rightLast : Thread G β} (meets : ∀ thread, together thread (.idle code))
    (carried : G.Carries stage before answer middle)
    (rest : Overlapped G together (.idle (next answer)) (.idle code) middle trace leftLast rightLast
      after) :
    Overlapped G together (.busy action stage next) (.idle code) before
      (.inl ⟨action, answer⟩ :: trace) leftLast rightLast after := by
  induction carried with
  | ends ended => exact .leftEnds (.ends ended) (meets _) rest
  | moves moved _ ih => exact .leftMoves (.moves moved) (meets _) (ih rest)

theorem Overlapped.carry_right {action : S.Action} {stage : G.Stage action}
    {next : S.Answer action → Code S β} {code : Code S α} {answer : S.Answer action}
    {before middle after : σ} {trace : List (Entry S ⊕ Entry S)} {leftLast : Thread G α}
    {rightLast : Thread G β} (meets : ∀ thread, together (.idle code) thread)
    (carried : G.Carries stage before answer middle)
    (rest : Overlapped G together (.idle code) (.idle (next answer)) middle trace leftLast rightLast
      after) :
    Overlapped G together (.idle code) (.busy action stage next) before
      (.inr ⟨action, answer⟩ :: trace) leftLast rightLast after := by
  induction carried with
  | ends ended => exact .rightEnds (.ends ended) (meets _) rest
  | moves moved _ ih => exact .rightMoves (.moves moved) (meets _) (ih rest)

/-- Two programs whose actions are performed at once run in particular where each action is carried
to its end before the next one begins. -/
theorem Interleaved.overlapped (together : Thread G α → Thread G β → Prop)
    (carried : ∀ {before after action answer}, step before ⟨action, answer⟩ after →
      G.Carries (G.start action) before answer after)
    (leftMeets : ∀ thread code, together thread (.idle code))
    (rightMeets : ∀ code thread, together (.idle code) thread)
    {left leftLast : Code S α} {right rightLast : Code S β} {before after : σ}
    {trace : List (Entry S ⊕ Entry S)}
    (ran : Interleaved step left right before trace leftLast rightLast after) :
    Overlapped G together (.idle left) (.idle right) before trace (.idle leftLast) (.idle rightLast)
      after := by
  induction ran with
  | stop left right state => exact .stop _ _ state
  | @left action next answer right before middle after trace _ _ stepped _ ih =>
    exact .leftMoves (.begins action next before) (leftMeets _ _)
      (.carry_left (fun thread => leftMeets thread right) (carried stepped) ih)
  | @right action next answer left before middle after trace _ _ stepped _ ih =>
    exact .rightMoves (.begins action next before) (rightMeets _ _)
      (.carry_right (fun thread => rightMeets left thread) (carried stepped) ih)

end Async
