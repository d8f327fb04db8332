import SpeechMesh.Async.Code

/-! # Programs that run alone

A program run to its end with no other task in between, and total-correctness triples for it: the
program has a run from every state that satisfies the assertion, and ends as stated.
-/

namespace Async

namespace Code

variable {S : Signature} {α β σ : Type}
  (exec : σ → (action : S.Action) → Option (σ × S.Answer action))

def eval : Code S α → σ → Option (σ × α)
  | done value, state => some (state, value)
  | act action next, state =>
      (exec state action).bind fun result => (next result.2).eval result.1

theorem eval_bind (code : Code S α) (rest : α → Code S β) (state : σ) :
    (code >>= rest).eval exec state =
      (code.eval exec state).bind fun result => (rest result.2).eval exec result.1 := by
  induction code generalizing state with
  | done value => rfl
  | act action next ih =>
    simp only [act_bind, eval, Option.bind_assoc, ih]

/-- From every state with `before`, the program runs to its end, in a state with `post`. -/
def Solo (before : σ → Prop) (code : Code S α) (post : α → σ → Prop) : Prop :=
  ∀ state, before state → ∃ after value, code.eval exec state = some (after, value) ∧
    post value after

variable {exec} {before : σ → Prop}

theorem Solo.done {value : α} {post : α → σ → Prop}
    (holds : ∀ state, before state → post value state) : Solo exec before (done value) post :=
  fun state pre => ⟨state, value, rfl, holds state pre⟩

theorem Solo.act {action : S.Action} {next : S.Answer action → Code S α}
    {middle : S.Answer action → σ → Prop} {post : α → σ → Prop}
    (ran : ∀ state, before state → ∃ after answer, exec state action = some (after, answer) ∧
      middle answer after)
    (rest : ∀ answer, Solo exec (middle answer) (next answer) post) :
    Solo exec before (act action next) post := by
  intro state pre
  obtain ⟨after, answer, performed, reached⟩ := ran state pre
  obtain ⟨last, value, rest, holds⟩ := rest answer after reached
  exact ⟨last, value, by rw [eval, performed, Option.bind_some, rest], holds⟩

theorem Solo.bind {code : Code S α} {rest : α → Code S β} {middle : α → σ → Prop}
    {post : β → σ → Prop} (first : Solo exec before code middle)
    (second : ∀ value, Solo exec (middle value) (rest value) post) :
    Solo exec before (code >>= rest) post := by
  intro state pre
  obtain ⟨reached, value, ran, holds⟩ := first state pre
  obtain ⟨last, result, rest, ends⟩ := second value reached holds
  exact ⟨last, result, by rw [eval_bind, ran, Option.bind_some, rest], ends⟩

theorem Solo.consequence {code : Code S α} {stronger : σ → Prop} {post : α → σ → Prop}
    (first : ∀ state, stronger state → before state) (solo : Solo exec before code post) :
    Solo exec stronger code post :=
  fun state pre => solo state (first state pre)

/-- A fact about the state that the program runs in may be assumed. -/
theorem Solo.assume {code : Code S α} {fact : Prop} {post : α → σ → Prop}
    (holds : ∀ state, before state → fact) (solo : fact → Solo exec before code post) :
    Solo exec before code post :=
  fun state pre => solo (holds state pre) state pre

end Code

end Async
