/-!
Systems that take step after step, where everything a step does not determine itself is part of the
action it is given.
-/

universe u v

structure Machine (σ : Type u) (α : Type v) where
  init : σ
  step : σ → α → Option σ

namespace Machine

variable {σ : Type u} {α : Type v} (M : Machine σ α)

def run (s : σ) : List α → Option σ
  | [] => some s
  | a :: as => (M.step s a).bind (fun s => run s as)

/--
The states that are reached by steps which all meet the condition `ok` in the state they start from.
-/
inductive Reach (ok : σ → α → Prop) : σ → Prop where
  | init : Reach ok M.init
  | step {s s' : σ} {a : α} : Reach ok s → ok s a → M.step s a = some s' → Reach ok s'

abbrev Reachable : σ → Prop := M.Reach (fun _ _ => True)

inductive Steps (ok : σ → α → Prop) (s : σ) : σ → Prop where
  | refl : Steps ok s s
  | tail {t u : σ} {a : α} : Steps ok s t → ok t a → M.step t a = some u → Steps ok s u

variable {M} {ok : σ → α → Prop}

theorem Reach.mono {ok' : σ → α → Prop} (h : ∀ s a, ok s a → ok' s a) {s : σ}
    (hs : M.Reach ok s) : M.Reach ok' s := by
  induction hs with
  | init => exact .init
  | step _ hok hstep ih => exact .step ih (h _ _ hok) hstep

theorem Reach.reachable {s : σ} (hs : M.Reach ok s) : M.Reachable s :=
  hs.mono (fun _ _ _ => trivial)

theorem Reach.steps {s t : σ} (hs : M.Reach ok s) (h : M.Steps ok s t) : M.Reach ok t := by
  induction h with
  | refl => exact hs
  | tail _ hok hstep ih => exact .step ih hok hstep

theorem Steps.run {s s' : σ} {as : List α} (h : M.run s as = some s') :
    M.Steps (fun _ _ => True) s s' := by
  suffices ∀ {r}, M.Steps (fun _ _ => True) r s → M.Steps (fun _ _ => True) r s' from this .refl
  intro r hr
  induction as generalizing s with
  | nil =>
    simp only [Machine.run, Option.some.injEq] at h
    rw [← h]
    exact hr
  | cons a as ih =>
    simp only [Machine.run] at h
    cases hstep : M.step s a with
    | none => simp [hstep] at h
    | some t =>
      simp only [hstep, Option.bind_some] at h
      exact ih h (.tail hr trivial hstep)

theorem Reach.run {s s' : σ} {as : List α} (hs : M.Reachable s) (h : M.run s as = some s') :
    M.Reachable s' :=
  hs.steps (.run h)

theorem Reach.get_run {as : List α} (h : (M.run M.init as).isSome = true) :
    M.Reachable ((M.run M.init as).get h) :=
  .run .init (Option.some_get h).symm

def guard (M : Machine σ α) (ok : σ → α → Bool) : Machine σ α :=
  ⟨M.init, fun s a => if ok s a then M.step s a else none⟩

theorem Reach.run_guard {ok : σ → α → Bool} {s s' : σ} {as : List α}
    (hs : M.Reach (fun s a => ok s a = true) s) (h : (M.guard ok).run s as = some s') :
    M.Reach (fun s a => ok s a = true) s' := by
  induction as generalizing s with
  | nil =>
    simp only [Machine.run, Option.some.injEq] at h
    rw [← h]
    exact hs
  | cons a as ih =>
    simp only [Machine.run, guard] at h
    by_cases hok : ok s a = true
    · rw [if_pos hok] at h
      cases hstep : M.step s a with
      | none => simp [hstep] at h
      | some t =>
        simp only [hstep, Option.bind_some] at h
        exact ih (.step hs hok hstep) h
    · rw [if_neg hok] at h
      cases h

theorem Reach.get_run_guard {ok : σ → α → Bool} {as : List α}
    (h : ((M.guard ok).run M.init as).isSome = true) :
    M.Reach (fun s a => ok s a = true) (((M.guard ok).run M.init as).get h) :=
  .run_guard .init (Option.some_get h).symm

theorem Reach.invariant {I : σ → Prop} (hinit : I M.init)
    (hstep : ∀ s a s', M.Reach ok s → I s → ok s a → M.step s a = some s' → I s') {s : σ}
    (hs : M.Reach ok s) : I s := by
  induction hs with
  | init => exact hinit
  | step hs hok h ih => exact hstep _ _ _ hs ih hok h

end Machine
