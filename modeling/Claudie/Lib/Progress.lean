import Claudie.Lib.Transition

/-!
Tasks that go through stages. A task enters under an id that was never used before, and is carried
from one stage to the next by an event of its own.
-/

universe u v

/--
`active s id k` says that in the state `s` the task `id` is at stage `k`, and `moves s a id k` that
the step `a` is an event for this stage of the task.
-/
structure Progress {σ : Type u} {α : Type v} (M : Machine σ α) (ok : σ → α → Prop) where
  active : σ → Nat → Nat → Prop
  fresh : σ → Nat
  moves : σ → α → Nat → Nat → Prop
  bound : ∀ {s id k}, M.Reach ok s → active s id k → id < fresh s
  unique : ∀ {s id k k'}, M.Reach ok s → active s id k → active s id k' → k = k'
  mono : ∀ {s a s'}, M.step s a = some s' → fresh s ≤ fresh s'
  step : ∀ {s a s' id k'}, M.Reach ok s → ok s a → M.step s a = some s' → active s' id k' →
    fresh s ≤ id ∨ ∃ k, active s id k ∧ (k' = k ∨ k' = k + 1 ∧ moves s a id k)

namespace Progress

variable {σ : Type u} {α : Type v} {M : Machine σ α} {ok : σ → α → Prop} (P : Progress M ok)
  {s s' t : σ} {a : α} {id k : Nat}

def Passed (s : σ) (id k : Nat) : Prop := id < P.fresh s ∧ ∀ k', P.active s id k' → k < k'

variable {P}

theorem Passed.not_active (h : P.Passed s id k) : ¬ P.active s id k :=
  fun hactive => Nat.lt_irrefl _ (h.2 k hactive)

theorem Passed.step (hs : M.Reach ok s) (hok : ok s a) (hstep : M.step s a = some s')
    (h : P.Passed s id k) : P.Passed s' id k := by
  refine ⟨Nat.lt_of_lt_of_le h.1 (P.mono hstep), fun k' hactive => ?_⟩
  obtain hnew | ⟨k₀, hk₀, hmove⟩ := P.step hs hok hstep hactive
  · have := h.1
    omega
  · have := h.2 k₀ hk₀
    omega

theorem Passed.steps (hs : M.Reach ok s) (h : P.Passed s id k) (hrun : M.Steps ok s t) :
    P.Passed t id k := by
  induction hrun with
  | refl => exact h
  | tail hrun hok hstep ih => exact ih.step (hs.steps hrun) hok hstep

theorem passed_of_left (hs : M.Reach ok s) (hok : ok s a) (hstep : M.step s a = some s')
    (hbefore : P.active s id k) (hafter : ¬ P.active s' id k) : P.Passed s' id k := by
  have hbound := P.bound hs hbefore
  refine ⟨Nat.lt_of_lt_of_le hbound (P.mono hstep), fun k' hactive => ?_⟩
  obtain hnew | ⟨k₀, hk₀, hmove⟩ := P.step hs hok hstep hactive
  · omega
  · obtain rfl := P.unique hs hbefore hk₀
    obtain rfl | ⟨rfl, _⟩ := hmove
    · exact absurd hactive hafter
    · exact Nat.lt_succ_self _

end Progress
