/-!
Rounds of a step that is repeated until there is nothing left to do.
-/

universe u

inductive Rounds {σ : Type u} (r : σ → σ → Prop) (s : σ) : Nat → σ → Prop where
  | refl : Rounds r s 0 s
  | tail {n : Nat} {t v : σ} : Rounds r s n t → r t v → Rounds r s (n + 1) v

namespace Rounds

variable {σ : Type u} {r : σ → σ → Prop} {s t v : σ} {n : Nat} {I : σ → Prop} {w : σ → Nat}

def Final (r : σ → σ → Prop) (s : σ) : Prop := ∀ t, ¬ r s t

theorem head (hr : r s t) (h : Rounds r t n v) : Rounds r s (n + 1) v := by
  induction h with
  | refl => exact .tail .refl hr
  | tail _ hstep ih => exact .tail ih hstep

theorem invariant (hstep : ∀ s t, I s → r s t → I t) (hs : I s) (h : Rounds r s n t) : I t := by
  induction h with
  | refl => exact hs
  | tail _ hr ih => exact hstep _ _ ih hr

theorem add_weight_le (hstep : ∀ s t, I s → r s t → I t ∧ w t < w s) (hs : I s)
    (h : Rounds r s n t) : n + w t ≤ w s := by
  induction h with
  | refl => omega
  | tail h hr ih =>
    have := (hstep _ _ (h.invariant (fun s t hs hr => (hstep s t hs hr).1) hs) hr).2
    omega

theorem exists_final (hstep : ∀ s t, I s → r s t → I t ∧ w t < w s) (hs : I s) :
    ∃ n t, Rounds r s n t ∧ Final r t := by
  induction hw : w s using Nat.strongRecOn generalizing s with
  | ind k ih =>
    by_cases hfinal : Final r s
    · exact ⟨0, s, .refl, hfinal⟩
    · obtain ⟨t, hr⟩ := Classical.not_forall_not.mp hfinal
      obtain ⟨ht, hlt⟩ := hstep s t hs hr
      obtain ⟨n, v, h, hv⟩ := ih (w t) (hw ▸ hlt) ht rfl
      exact ⟨n + 1, v, head hr h, hv⟩

-- There is no bound on the number of rounds as long as each one leaves something to do.
theorem exists_of_progress (hprogress : ∀ s, I s → ∃ t, r s t ∧ I t) (hs : I s) (n : Nat) :
    ∃ t, Rounds r s n t ∧ I t := by
  induction n with
  | zero => exact ⟨s, .refl, hs⟩
  | succ n ih =>
    obtain ⟨t, h, ht⟩ := ih
    obtain ⟨v, hr, hv⟩ := hprogress t ht
    exact ⟨v, .tail h hr, hv⟩

end Rounds
