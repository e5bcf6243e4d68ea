import Claudie.Terraformer.Destroy

/-!
What a build changes about a cluster: addresses and ports of the nodes of dynamic nodepools, and the
endpoints of the dns records.
-/

namespace Claudie

namespace Terraformer

structure Built (np np' : NodePool) : Prop where
  frame : np' = { np with nodes := np'.nodes }
  names : np'.nodes.map (·.name) = np.nodes.map (·.name)
  static : np.isStatic = true → np' = np

theorem Built.refl (np : NodePool) : Built np np := ⟨rfl, rfl, fun _ => rfl⟩

theorem Built.name {np np' : NodePool} (h : Built np np') : np'.name = np.name := by
  rw [h.frame]

theorem readNodes_names {out : String → Option (Except String NodeOutput)} {nodepool : String}
    {nodes : List Node} :
    (readNodes out nodepool nodes).1.map (·.name) = nodes.map (·.name) := by
  induction nodes with
  | nil => rfl
  | cons n nodes ih =>
    rw [readNodes]
    split
    next => rfl
    next => rfl
    next =>
      split
      next => rfl
      next => rw [List.map_cons, List.map_cons, ih, NodeOutput.assign]

theorem built_refl (nps : List NodePool) : List.Forall₂ Built nps nps :=
  List.forall₂_same.mpr (fun np _ => Built.refl np)

theorem readNodePools_built {tofu : Tofu} {nps : List NodePool} :
    List.Forall₂ Built nps (readNodePools tofu nps).1 := by
  induction nps with
  | nil => exact .nil
  | cons np nps ih =>
    rw [readNodePools]
    split
    next => exact .cons (.refl np) ih
    next d htype =>
      have hread : ∀ out, Built np { np with nodes := (readNodes out np.name np.nodes).1 } :=
        fun out => ⟨rfl, readNodes_names, fun hstatic => by
          simp [NodePool.isStatic, NodePool.static?, htype] at hstatic⟩
      split
      next => exact .cons (.refl np) (built_refl nps)
      next out hout =>
        have hnp := hread out
        split
        next hnodes =>
          rw [hnodes] at hnp
          exact .cons hnp (built_refl nps)
        next hnodes =>
          rw [hnodes] at hnp
          exact .cons hnp ih

theorem reconcileNodePools_built {tofu : Tofu} {nps : List NodePool} :
    List.Forall₂ Built nps (reconcileNodePools tofu nps).1 := by
  unfold reconcileNodePools
  split
  next => exact built_refl nps
  next => exact readNodePools_built

structure BuiltLb (lb lb' : LBcluster) : Prop where
  id : lb'.id = lb.id
  roles : lb'.roles = lb.roles
  targetedK8s : lb'.targetedK8s = lb.targetedK8s
  usedApiEndpoint : lb'.usedApiEndpoint = lb.usedApiEndpoint
  nodePools : List.Forall₂ Built lb.clusterInfo.nodePools lb'.clusterInfo.nodePools

theorem build_built {tofu : Tofu} {lb lb' : LBcluster} {err : Option String}
    (h : LBcluster.build tofu lb = .ok (lb', err)) : BuiltLb lb lb' := by
  have hnps : List.Forall₂ Built lb.clusterInfo.nodePools
      (reconcileNodePools tofu lb.clusterInfo.nodePools).1 := reconcileNodePools_built
  unfold LBcluster.build at h
  dsimp only at h
  split at h
  next =>
    cases h
    exact ⟨rfl, rfl, rfl, rfl, hnps⟩
  next =>
    obtain ⟨dns, -, h⟩ := Outcome.bind_eq_ok.mp h
    obtain ⟨⟨dns', err'⟩, -, h⟩ := Outcome.bind_eq_ok.mp h
    cases h
    exact ⟨rfl, rfl, rfl, rfl, hnps⟩

theorem build_dns {tofu : Tofu} {lb lb' : LBcluster}
    (h : LBcluster.build tofu lb = .ok (lb', none)) : lb'.dns.isSome = true := by
  unfold LBcluster.build at h
  dsimp only at h
  split at h
  next => cases h
  next =>
    obtain ⟨dns, -, h⟩ := Outcome.bind_eq_ok.mp h
    obtain ⟨⟨dns', err'⟩, -, h⟩ := Outcome.bind_eq_ok.mp h
    obtain ⟨rfl, -⟩ := Prod.mk.inj (Except.ok.inj h)
    rfl

@[simp]
theorem none_commit (result : ResultKind) : ResultKind.none.commit result = result := by
  cases result <;> rfl

theorem processTask_singleton {infra : Infrastructure} {task : Task}
    {pass : SubPass TerraformerPass} {result : TaskResult}
    (h : processTask infra task [pass] = .ok result) :
    ∃ errs, runPass infra task pass.kind = .ok (result.result, errs) := by
  obtain ⟨⟨r, diags⟩, hpasses, h⟩ := Outcome.bind_eq_ok.mp h
  obtain ⟨⟨committed, errs⟩, hrun, hpasses⟩ := Outcome.bind_eq_ok.mp hpasses
  cases h
  refine ⟨errs, ?_⟩
  rw [hrun]
  simp only [none_commit, passes] at hpasses
  split at hpasses
  next =>
    cases hpasses
    rfl
  next =>
    split at hpasses
    all_goals
      cases hpasses
      rfl

theorem processTask_error {infra : Infrastructure} {task : Task}
    {subPasses : List (SubPass TerraformerPass)} {result : TaskResult}
    (h : processTask infra task subPasses = .ok result) (description : String) :
    result.error ≠ some (.fatal, description) := by
  obtain ⟨⟨r, diags⟩, -, h⟩ := Outcome.bind_eq_ok.mp h
  cases h
  dsimp only
  split
  next => simp
  next => simp

end Terraformer

end Claudie
