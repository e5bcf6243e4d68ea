import Claudie.Spec.Consume

/-!
What the result of a worker can turn a task into.
-/

namespace Claudie

namespace Task

def kind : Task → Event
  | .create _ => .create
  | .update _ _ => .update
  | .delete _ => .delete

@[simp]
theorem kind_replaceClusters (t : Task) (c : Clusters) : (t.replaceClusters c).kind = t.kind := by
  cases t <;> rfl

@[simp]
theorem delta?_replaceClusters (t : Task) (c : Clusters) :
    (t.replaceClusters c).delta? = t.delta? := by
  cases t <;> rfl

inductive DeltaStep : Option Delta → Option Delta → Prop
  | same {d : Option Delta} : DeltaStep d d
  | consumed {old new : K8scluster} {lbs : List LBcluster} {d d' : Delta} :
    consumeDeleteDelta old lbs d = .ok d' → DeltaStep (some d) (some (consumeReplaceDelta new d'))

variable {t t' : Task}

theorem consumeUpdateResult_eq_ok {k8s : Option K8scluster} {lbs : Option (List LBcluster)}
    (h : t.consumeUpdateResult k8s lbs = .ok t') :
    t'.kind = t.kind ∧ t'.clusters.k8s.isSome = true ∧ DeltaStep t.delta? t'.delta? := by
  unfold consumeUpdateResult at h
  obtain ⟨old, hold, h⟩ := Outcome.bind_eq_ok.mp h
  obtain ⟨t₁, ht₁, h⟩ := Outcome.bind_eq_ok.mp h
  obtain ⟨new, hnew, h⟩ := Outcome.bind_eq_ok.mp h
  obtain ⟨updates, hupdates, h⟩ := Outcome.bind_eq_ok.mp h
  cases h
  cases t with
  | create s =>
    cases ht₁
    exact ⟨rfl, rfl, .same⟩
  | update s d =>
    obtain ⟨d', hd', ht₁⟩ := Outcome.bind_eq_ok.mp ht₁
    cases ht₁
    exact ⟨rfl, rfl, .consumed hd'⟩
  | delete s =>
    cases ht₁
    exact ⟨rfl, rfl, .same⟩

theorem consumeClearResult_eq_ok {k8s : Option Bool} {ids : List String}
    (h : t.consumeClearResult k8s ids = .ok t') :
    (k8s = some true ∧ (∀ lb ∈ t.clusters.loadBalancers, lb.id ∈ ids)
        ∧ t' = t.replaceClusters ⟨none, []⟩)
      ∨ (k8s ≠ some true ∧ ∃ lbs, t' = t.replaceClusters ⟨t.clusters.k8s, lbs⟩) := by
  unfold consumeClearResult at h
  dsimp only at h
  split at h
  next hk8s =>
    split at h
    next => cases h
    next hlbs =>
      cases h
      refine .inl ⟨hk8s, fun lb hlb => ?_, rfl⟩
      rw [not_not, List.filter_eq_nil_iff] at hlbs
      simpa using hlbs lb hlb
  next hk8s =>
    cases h
    exact .inr ⟨hk8s, _, rfl⟩

theorem kind_of_consumeResult {r : ResultKind} (h : t.consumeResult r = .ok t') :
    t'.kind = t.kind := by
  cases r with
  | none =>
    cases h
    rfl
  | update k8s lbs => exact (consumeUpdateResult_eq_ok h).1
  | clear k8s ids =>
    obtain ⟨_, _, rfl⟩ | ⟨_, lbs, rfl⟩ := consumeClearResult_eq_ok h
    · exact kind_replaceClusters _ _
    · exact kind_replaceClusters _ _

theorem delta?_of_consumeResult {r : ResultKind} (h : t.consumeResult r = .ok t') :
    DeltaStep t.delta? t'.delta? := by
  cases r with
  | none =>
    cases h
    exact .same
  | update k8s lbs => exact (consumeUpdateResult_eq_ok h).2.2
  | clear k8s ids =>
    obtain ⟨_, _, rfl⟩ | ⟨_, lbs, rfl⟩ := consumeClearResult_eq_ok h
    · rw [delta?_replaceClusters]
      exact .same
    · rw [delta?_replaceClusters]
      exact .same

theorem k8s_of_consumeResult {r : ResultKind} (h : t.consumeResult r = .ok t')
    (hk8s : t.clusters.k8s.isSome = true) :
    t'.clusters.k8s.isSome = true
      ∨ (t'.clusters = ⟨none, []⟩ ∧ ∃ ids, r = .clear (some true) ids
          ∧ ∀ lb ∈ t.clusters.loadBalancers, lb.id ∈ ids) := by
  cases r with
  | none =>
    cases h
    exact .inl hk8s
  | update k8s lbs => exact .inl (consumeUpdateResult_eq_ok h).2.1
  | clear k8s ids =>
    obtain ⟨rfl, hlbs, rfl⟩ | ⟨_, lbs, rfl⟩ := consumeClearResult_eq_ok h
    · exact .inr ⟨clusters_replaceClusters _ _, ids, rfl, hlbs⟩
    · rw [clusters_replaceClusters]
      exact .inl hk8s

end Task

end Claudie
