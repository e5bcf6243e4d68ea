import Claudie.Manager.Lemmas.Consume
import Claudie.Manager.Reconcile

/-!
The tasks that a reconciliation schedules: they start at the first stage of a pipeline that has one,
and the state they carry has a kubernetes cluster.
-/

namespace Claudie

namespace Manager

def TaskEvent.EndsWithDestroy (te : TaskEvent) : Prop :=
  te.task.kind = .delete → ∀ (i : Nat) (stage : Stage), te.pipeline[i]? = some stage →
    Stage.isTerraformer stage = true → te.pipeline[i + 1]? = none

theorem endsWithDestroy_of_ne {te : TaskEvent} (h : te.task.kind ≠ .delete) :
    TaskEvent.EndsWithDestroy te :=
  fun hdelete => absurd hdelete h

structure NewTask (id : TaskId) (te : TaskEvent) : Prop where
  id : te.id = id
  currentStage : te.currentStage = 0
  pipeline : te.pipeline ≠ []
  k8s : te.task.clusters.k8s.isSome = true
  destroy : TaskEvent.EndsWithDestroy te

structure NewUpdate (id : TaskId) (te : TaskEvent) : Prop extends NewTask id te where
  update : ∃ state delta, te.task = .update state delta

inductive Effect where
  | apiEndpoint
  | endpointNode
  | loadBalancer
  | roles
  | nodes
  | other
  deriving DecidableEq

def Delta.effect : Delta → Effect
  | .apiEndpoint .. => .apiEndpoint
  | .k8sApiEndpoint .. => .endpointNode
  | .deleteLoadBalancer .. => .loadBalancer
  | .deleteLoadBalancerRoles .. => .roles
  | .kDeleteNodes .. | .deletedK8sNodes .. => .nodes
  | _ => .other

structure Schedules (id : TaskId) (effect : Effect) (te : TaskEvent) : Prop
    extends NewTask id te where
  update : ∃ state delta, te.task = .update state delta ∧ Delta.effect delta = effect

section

variable {ord : MapOrder} {entropy : Entropy} {id : TaskId} {current desired : Clusters}
  {te : TaskEvent}

theorem Schedules.newUpdate {effect : Effect} (h : Schedules id effect te) : NewUpdate id te := by
  obtain ⟨state, delta, htask, _⟩ := h.update
  exact ⟨h.toNewTask, state, delta, htask⟩

theorem schedules_updateEvent {state : Clusters} {delta : Delta} {description : String}
    {pipeline : List Stage} {effect : Effect} (heffect : Delta.effect delta = effect)
    (hk8s : state.k8s.isSome = true) (hpipeline : pipeline ≠ []) :
    Schedules id effect (updateEvent id state delta description pipeline) :=
  ⟨⟨rfl, rfl, hpipeline, hk8s, endsWithDestroy_of_ne (by simp [updateEvent, Task.kind])⟩, state, delta, rfl,
    heffect⟩

theorem scheduleCreateCluster_newTask (h : scheduleCreateCluster id desired = .ok te) :
    NewTask id te ∧ te.task = .create desired := by
  unfold scheduleCreateCluster at h
  obtain ⟨k8s, hk8s, h⟩ := Outcome.bind_eq_ok.mp h
  rw [Outcome.deref_eq_ok] at hk8s
  cases h
  refine ⟨⟨rfl, rfl, by simp [createPipeline], by simp [Task.clusters, hk8s], ?_⟩, rfl⟩
  exact endsWithDestroy_of_ne (by simp [Task.kind])

theorem scheduleDeleteCluster_newTask (h : scheduleDeleteCluster id current = .ok te) :
    NewTask id te ∧ te.task = .delete current := by
  unfold scheduleDeleteCluster at h
  obtain ⟨k8s, hk8s, h⟩ := Outcome.bind_eq_ok.mp h
  rw [Outcome.deref_eq_ok] at hk8s
  cases h
  refine ⟨⟨rfl, rfl, by simp, by simp [Task.clusters, hk8s], ?_⟩, rfl⟩
  intro _ i stage hstage hterraformer
  dsimp only at hstage ⊢
  split at hstage
  next hstatic =>
    rw [if_pos hstatic]
    cases i with
    | zero => rfl
    | succ i => cases hstage
  next hstatic =>
    rw [if_neg hstatic]
    rcases i with _ | _ | _ | i
    · cases hstage
      cases hterraformer
    · cases hstage
      cases hterraformer
    · rfl
    · cases hstage

theorem scheduleRefreshVPN_schedules {usesProxy : Bool} (hk8s : current.k8s.isSome = true) :
    Schedules id .other (scheduleRefreshVPN id usesProxy current) :=
  schedules_updateEvent rfl hk8s (by simp)

theorem scheduleRefreshInfrastructure_schedules
    (h : scheduleRefreshInfrastructure id current = .ok te) : Schedules id .other te := by
  unfold scheduleRefreshInfrastructure at h
  obtain ⟨k8s, hk8s, h⟩ := Outcome.bind_eq_ok.mp h
  rw [Outcome.deref_eq_ok] at hk8s
  cases h
  exact schedules_updateEvent rfl (by simp [hk8s]) (by simp [createPipeline])

section kubernetes

theorem scheduleUpgradeKubernetesVersion_schedules (hk8s : current.k8s.isSome = true)
    (h : scheduleUpgradeKubernetesVersion id current desired = .ok te) : Schedules id .other te := by
  unfold scheduleUpgradeKubernetesVersion at h
  obtain ⟨k8s, _, h⟩ := Outcome.bind_eq_ok.mp h
  cases h
  exact schedules_updateEvent rfl hk8s (by simp)

theorem scheduleProxy_schedules {pass : SubPass AnsiblerPass} (hk8s : current.k8s.isSome = true)
    (h : scheduleProxy id current desired pass = .ok te) : Schedules id .other te := by
  unfold scheduleProxy at h
  obtain ⟨k8s, _, h⟩ := Outcome.bind_eq_ok.mp h
  cases h
  exact schedules_updateEvent rfl hk8s (by simp)

theorem scheduleAdditionsInNodePools.added_schedules {k8s : K8scluster} {lbs : List LBcluster}
    {nps : List NodePool} {opts : K8sNodeAdditionOptions} {l : List (String × List String)}
    (h : added id k8s lbs nps opts l = some te) : Schedules id .other te := by
  induction l with
  | nil => cases h
  | cons np l ih =>
    simp only [added] at h
    split at h
    next => exact ih h
    next =>
      cases h
      refine schedules_updateEvent ?_ ?_ (by simp [pipeline])
      · split <;> rfl
      · split <;> rfl

theorem scheduleAdditionsInNodePools.partiallyAdded_schedules {k8s : K8scluster}
    {lbs : List LBcluster} {nps : List NodePool} {opts : K8sNodeAdditionOptions}
    {l : List (String × List String)} (h : partiallyAdded id k8s lbs nps opts l = .ok (some te)) :
    Schedules id .other te := by
  induction l with
  | nil => cases h
  | cons np l ih =>
    simp only [partiallyAdded] at h
    split at h
    next => exact ih h
    next =>
      split at h
      next =>
        obtain ⟨nps, _, h⟩ := Outcome.bind_eq_ok.mp h
        cases h
        exact schedules_updateEvent rfl rfl (by simp [pipeline])
      next =>
        cases h
        exact schedules_updateEvent rfl rfl (by simp [pipeline])

theorem scheduleAdditionsInNodePools_schedules {diff : NodePoolsDiffResult}
    {opts : K8sNodeAdditionOptions}
    (h : scheduleAdditionsInNodePools ord id current desired diff opts = .ok (some te)) :
    Schedules id .other te := by
  unfold scheduleAdditionsInNodePools at h
  obtain ⟨k8s, _, h⟩ := Outcome.bind_eq_ok.mp h
  obtain ⟨dk8s, _, h⟩ := Outcome.bind_eq_ok.mp h
  dsimp only at h
  split at h
  next te' hadded =>
    cases h
    exact scheduleAdditionsInNodePools.added_schedules hadded
  next => exact scheduleAdditionsInNodePools.partiallyAdded_schedules h

inductive NodePoolsDiffResult.Loses (diff : NodePoolsDiffResult) : Bool → String → List String → Prop
    where
  | nodes {np : String} {nodes : List String} (h : diff.partiallyDeleted[np]? = some nodes) :
      Loses diff false np nodes
  | nodePool {np : String} {nodes : List String} (h : diff.deleted[np]? = some nodes) :
      Loses diff true np nodes

theorem scheduleDeletionsInNodePools_eq_some {diff : NodePoolsDiffResult}
    {opts : K8sNodeDeletionOptions}
    (h : scheduleDeletionsInNodePools ord id current diff opts = .ok (some te)) :
    Schedules id .nodes te ∧ ∃ withNodePool np nodes, diff.Loses withNodePool np nodes
      ∧ te.task = .update current (.kDeleteNodes withNodePool np nodes opts.unreachable) := by
  unfold scheduleDeletionsInNodePools at h
  obtain ⟨k8s, hk8s, h⟩ := Outcome.bind_eq_ok.mp h
  rw [Outcome.deref_eq_ok] at hk8s
  have hsome : current.k8s.isSome = true := by simp [hk8s]
  dsimp only at h
  split at h
  next np nodes _ hrange =>
    have hmem : (np, nodes) ∈ ord.range "partially deleted nodepools" diff.partiallyDeleted := by
      rw [hrange]
      exact List.mem_cons_self
    cases h
    exact ⟨schedules_updateEvent rfl hsome (by simp [scheduleDeletionsInNodePools.pipeline]),
      _, _, _, .nodes ((MapOrder.mem_range ord).mp hmem), rfl⟩
  next np nodes _ _ hrange =>
    have hmem : (np, nodes) ∈ ord.range "deleted nodepools" diff.deleted := by
      rw [hrange]
      exact List.mem_cons_self
    cases h
    exact ⟨schedules_updateEvent rfl hsome (by simp [scheduleDeletionsInNodePools.pipeline]),
      _, _, _, .nodePool ((MapOrder.mem_range ord).mp hmem), rfl⟩
  next => cases h

theorem scheduleMoveNodePoolToAutoscaled_schedules {np : String} {config : AutoscalerConf}
    (h : scheduleMoveNodePoolToAutoscaled id current np config = .ok te) : Schedules id .other te := by
  unfold scheduleMoveNodePoolToAutoscaled at h
  obtain ⟨k8s, hk8s, h⟩ := Outcome.bind_eq_ok.mp h
  rw [Outcome.deref_eq_ok] at hk8s
  cases h
  exact schedules_updateEvent rfl (by simp [hk8s]) (by simp)

theorem scheduleMoveNodePoolFromAutoscaled_schedules {np : String}
    (h : scheduleMoveNodePoolFromAutoscaled id current np = .ok te) : Schedules id .other te := by
  unfold scheduleMoveNodePoolFromAutoscaled at h
  obtain ⟨k8s, hk8s, h⟩ := Outcome.bind_eq_ok.mp h
  rw [Outcome.deref_eq_ok] at hk8s
  cases h
  exact schedules_updateEvent rfl (by simp [hk8s]) (by simp)

theorem scheduleRollingUpdate_schedules {np : String} {templates : TemplateRepository}
    {opts : K8sNodeAdditionOptions}
    (h : scheduleRollingUpdate ord entropy id current np templates opts = .ok (some te)) :
    Schedules id .other te := by
  unfold scheduleRollingUpdate at h
  obtain ⟨k8s, _, h⟩ := Outcome.bind_eq_ok.mp h
  split at h
  next => cases h
  next => cases h
  next => exact scheduleAdditionsInNodePools_schedules h

variable {r : KubernetesReconciliate}

structure KubernetesReconciliate.Transfers (r : KubernetesReconciliate) (id : TaskId)
    (te : TaskEvent) : Prop where
  current : r.diff.apiEndpoint.current ≠ ""
  desired : r.diff.apiEndpoint.desired ≠ ""
  moved : r.diff.apiEndpoint.current ≠ r.diff.apiEndpoint.desired
  found : ∀ k ∈ r.current.k8s,
    NodePools.containsNode k.clusterInfo.nodePools r.diff.apiEndpoint.desired = true
  task : te = scheduleTransferApiEndpoint id r.current r.diff.apiEndpoint.desiredNodePool
    r.diff.apiEndpoint.desired

theorem kubernetesModifications_schedules
    (h : kubernetesModifications ord id r = .ok (some te)) :
    Schedules id .other te ∨ r.Transfers id te := by
  unfold kubernetesModifications at h
  obtain ⟨k8s, hk8s, h⟩ := Outcome.bind_eq_ok.mp h
  rw [Outcome.deref_eq_ok] at hk8s
  dsimp only at h
  split at h
  next htransfer =>
    simp only [Bool.and_eq_true, decide_eq_true_eq] at htransfer
    obtain ⟨⟨⟨hcurrent, hdesired⟩, hmoved⟩, hfound⟩ := htransfer
    cases h
    refine .inr ⟨hcurrent, hdesired, hmoved, fun k hk => ?_, rfl⟩
    rw [hk8s] at hk
    cases hk
    exact hfound
  next =>
    left
    split at h
    next => exact scheduleAdditionsInNodePools_schedules h
    next =>
      split at h
      next => exact scheduleAdditionsInNodePools_schedules h
      next => cases h

theorem KubernetesReconciliate.Transfers.newUpdate (hk8s : r.current.k8s.isSome = true)
    (h : r.Transfers id te) : NewUpdate id te := by
  rw [h.task]
  exact (schedules_updateEvent rfl hk8s (by simp)).newUpdate

theorem schedulePendingDeletion_schedules {np : String} {nodes : List String} {isStatic : Bool}
    (h : schedulePendingDeletion ord id r np nodes isStatic = .ok (some te)) : Schedules id .nodes te := by
  unfold schedulePendingDeletion at h
  obtain ⟨node, _, h⟩ := Outcome.bind_eq_ok.mp h
  exact (scheduleDeletionsInNodePools_eq_some h).1

theorem kubernetesDeletions_schedules (h : kubernetesDeletions ord id r = .ok (some te)) :
    Schedules id .nodes te := by
  unfold kubernetesDeletions at h
  split at h
  next => exact (scheduleDeletionsInNodePools_eq_some h).1
  next =>
    split at h
    next => exact (scheduleDeletionsInNodePools_eq_some h).1
    next =>
      split at h
      next => exact schedulePendingDeletion_schedules h
      next => exact schedulePendingDeletion_schedules h
      next => cases h

theorem kubernetesNodePoolTypes_schedules
    (h : kubernetesNodePoolTypes ord entropy id r = .ok (some te)) : Schedules id .other te := by
  unfold kubernetesNodePoolTypes at h
  split at h
  next =>
    exact scheduleMoveNodePoolToAutoscaled_schedules (Outcome.some_map_eq_ok.mp h)
  next =>
    exact scheduleMoveNodePoolFromAutoscaled_schedules (Outcome.some_map_eq_ok.mp h)
  next => exact scheduleRollingUpdate_schedules h
  next => cases h

theorem kubernetesLowPriority_schedules (hk8s : r.current.k8s.isSome = true)
    (h : kubernetesLowPriority ord entropy id r = .ok (some te)) : Schedules id .other te := by
  have proxy : ∀ {pass}, some <$> scheduleProxy id r.current r.desired pass = .ok (some te) →
      Schedules id .other te := by
    intro pass h
    exact scheduleProxy_schedules hk8s (Outcome.some_map_eq_ok.mp h)
  unfold kubernetesLowPriority at h
  split at h
  next =>
    exact scheduleUpgradeKubernetesVersion_schedules hk8s (Outcome.some_map_eq_ok.mp h)
  next =>
    split at h
    next => exact proxy h
    next => exact proxy h
    next => exact proxy h
    next =>
      split at h
      next =>
        cases h
        exact schedules_updateEvent rfl hk8s (by simp)
      next => exact kubernetesNodePoolTypes_schedules h

end kubernetes

section loadbalancers

variable {cid did : LoadBalancerIdentifier} {lbOpts : LoadBalancerNodePoolsOptions}
  {diff : NodePoolsDiffResult}

def Delta.isRemoval : Delta → Bool
  | .kDeleteNodes .. | .deletedK8sNodes .. | .tfDeleteLoadBalancerNodes ..
  | .deletedLoadBalancerNodes .. | .deleteLoadBalancer .. => true
  | _ => false

structure Removal (id : TaskId) (te : TaskEvent) : Prop extends NewTask id te where
  removal : ∃ state delta, te.task = .update state delta ∧ Delta.isRemoval delta = true

namespace scheduleDeletionLoadBalancerNodePools

variable {np : String} {nodes : List String} {change : Clusters × Delta}

theorem pipeline_ne_nil : pipeline lbOpts ≠ [] := by simp [pipeline]

theorem partiallyDeletedChange_eq_ok
    (h : partiallyDeletedChange current cid np nodes lbOpts = .ok change) :
    change.1.k8s = current.k8s ∧ Delta.effect change.2 = .other := by
  unfold partiallyDeletedChange at h
  split at h
  next =>
    split at h
    next =>
      cases h
      exact ⟨rfl, rfl⟩
    next =>
      obtain ⟨lb, _, h⟩ := Outcome.bind_eq_ok.mp h
      obtain ⟨lbs, _, h⟩ := Outcome.bind_eq_ok.mp h
      cases h
      exact ⟨rfl, rfl⟩
  next =>
    cases h
    exact ⟨rfl, rfl⟩

theorem deletedChange_eq_ok (h : deletedChange current cid np nodes lbOpts = .ok change) :
    change.1.k8s = current.k8s ∧ Delta.effect change.2 = .other
      ∧ ((Clusters.indexLoadbalancerById cid.id current.loadBalancers).isSome = true →
          Delta.isRemoval change.2 = true) := by
  unfold deletedChange at h
  split at h
  next =>
    split at h
    next hnone =>
      cases h
      refine ⟨rfl, rfl, fun hsome => ?_⟩
      rw [hnone] at hsome
      cases hsome
    next =>
      obtain ⟨lb, _, h⟩ := Outcome.bind_eq_ok.mp h
      obtain ⟨lbs, _, h⟩ := Outcome.bind_eq_ok.mp h
      cases h
      exact ⟨rfl, rfl, fun _ => rfl⟩
  next =>
    cases h
    exact ⟨rfl, rfl, fun _ => rfl⟩

end scheduleDeletionLoadBalancerNodePools

theorem scheduleDeletionLoadBalancerNodePools_schedules (hk8s : current.k8s.isSome = true)
    (h : scheduleDeletionLoadBalancerNodePools ord id current cid diff lbOpts = .ok (some te)) :
    Schedules id .other te := by
  unfold scheduleDeletionLoadBalancerNodePools at h
  dsimp only at h
  split at h
  next =>
    obtain ⟨change, hchange, h⟩ := Outcome.bind_eq_ok.mp h
    obtain ⟨hstate, heffect⟩ :=
      scheduleDeletionLoadBalancerNodePools.partiallyDeletedChange_eq_ok hchange
    cases h
    exact schedules_updateEvent heffect (by rw [hstate, hk8s])
      scheduleDeletionLoadBalancerNodePools.pipeline_ne_nil
  next =>
    obtain ⟨change, hchange, h⟩ := Outcome.bind_eq_ok.mp h
    obtain ⟨hstate, heffect, _⟩ :=
      scheduleDeletionLoadBalancerNodePools.deletedChange_eq_ok hchange
    cases h
    exact schedules_updateEvent heffect (by rw [hstate, hk8s])
      scheduleDeletionLoadBalancerNodePools.pipeline_ne_nil
  next => cases h

namespace scheduleAdditionLoadBalancerNodePools

variable {np : String} {nodes : List String} {change : Clusters × Delta}

theorem pipeline_ne_nil : pipeline lbOpts ≠ [] := by
  unfold pipeline
  exact List.append_ne_nil_of_right_ne_nil _ (List.cons_ne_nil _ _)

theorem partiallyAddedChange_eq_ok
    (h : partiallyAddedChange current desired cid did np nodes lbOpts = .ok change) :
    change.1.k8s = current.k8s ∧ Delta.effect change.2 = .other := by
  unfold partiallyAddedChange at h
  obtain ⟨srclb, _, h⟩ := Outcome.bind_eq_ok.mp h
  dsimp only at h
  split at h
  next =>
    obtain ⟨lbs, _, h⟩ := Outcome.bind_eq_ok.mp h
    cases h
    exact ⟨rfl, rfl⟩
  next =>
    cases h
    exact ⟨rfl, rfl⟩

theorem addedChange_eq_ok (h : addedChange current desired cid did np nodes lbOpts = .ok change) :
    change.1.k8s = current.k8s ∧ Delta.effect change.2 = .other := by
  unfold addedChange at h
  obtain ⟨srclb, _, h⟩ := Outcome.bind_eq_ok.mp h
  obtain ⟨toAdd, _, h⟩ := Outcome.bind_eq_ok.mp h
  split at h
  next =>
    obtain ⟨lbs, _, h⟩ := Outcome.bind_eq_ok.mp h
    cases h
    exact ⟨rfl, rfl⟩
  next =>
    cases h
    exact ⟨rfl, rfl⟩

end scheduleAdditionLoadBalancerNodePools

theorem scheduleAdditionLoadBalancerNodePools_schedules (hk8s : current.k8s.isSome = true)
    (h : scheduleAdditionLoadBalancerNodePools ord id current desired cid did diff lbOpts
      = .ok (some te)) : Schedules id .other te := by
  have hpipeline : scheduleAdditionLoadBalancerNodePools.pipeline lbOpts ≠ [] :=
    scheduleAdditionLoadBalancerNodePools.pipeline_ne_nil
  unfold scheduleAdditionLoadBalancerNodePools at h
  dsimp only at h
  split at h
  next =>
    obtain ⟨change, hchange, h⟩ := Outcome.bind_eq_ok.mp h
    obtain ⟨hstate, heffect⟩ :=
      scheduleAdditionLoadBalancerNodePools.partiallyAddedChange_eq_ok hchange
    cases h
    exact schedules_updateEvent heffect (by rw [hstate, hk8s]) hpipeline
  next =>
    obtain ⟨change, hchange, h⟩ := Outcome.bind_eq_ok.mp h
    obtain ⟨hstate, heffect⟩ := scheduleAdditionLoadBalancerNodePools.addedChange_eq_ok hchange
    cases h
    exact schedules_updateEvent heffect (by rw [hstate, hk8s]) hpipeline
  next => cases h

theorem scheduleReplaceDns_schedules {useProxy apiEndpoint : Bool}
    (hk8s : current.k8s.isSome = true)
    (h : scheduleReplaceDns id useProxy current desired cid did apiEndpoint = .ok te) :
    Schedules id .other te := by
  have hpipeline : ∀ prev, replaceDnsPipeline useProxy prev ≠ [] := by
    intro prev
    cases prev <;> simp [replaceDnsPipeline]
  unfold scheduleReplaceDns at h
  obtain ⟨dlb, _, h⟩ := Outcome.bind_eq_ok.mp h
  dsimp only at h
  split at h
  next =>
    obtain ⟨old, _, h⟩ := Outcome.bind_eq_ok.mp h
    cases h
    exact schedules_updateEvent rfl hk8s (hpipeline _)
  next =>
    obtain ⟨old, _, h⟩ := Outcome.bind_eq_ok.mp h
    cases h
    exact schedules_updateEvent rfl hk8s (hpipeline _)

theorem scheduleControlNodesPort6443_schedules {isOpen : Bool}
    (h : scheduleControlNodesPort6443 id current isOpen = .ok te) : Schedules id .other te := by
  unfold scheduleControlNodesPort6443 at h
  obtain ⟨k8s, hk8s, h⟩ := Outcome.bind_eq_ok.mp h
  rw [Outcome.deref_eq_ok] at hk8s
  cases h
  exact schedules_updateEvent rfl (by simp [hk8s]) (by simp)

theorem scheduleJoinLoadBalancer_schedules {useProxy : Bool} (hk8s : current.k8s.isSome = true)
    (h : scheduleJoinLoadBalancer id useProxy current desired did = .ok te) : Schedules id .other te := by
  unfold scheduleJoinLoadBalancer at h
  obtain ⟨toJoin, _, h⟩ := Outcome.bind_eq_ok.mp h
  cases h
  exact schedules_updateEvent rfl hk8s (by simp)

theorem scheduleAddRoles_schedules {roles : List String} (hk8s : current.k8s.isSome = true)
    (h : scheduleAddRoles id current desired cid did roles = .ok te) : Schedules id .other te := by
  unfold scheduleAddRoles at h
  obtain ⟨dlb, _, h⟩ := Outcome.bind_eq_ok.mp h
  cases h
  exact schedules_updateEvent rfl hk8s (by simp)

theorem scheduleReconcileRoleTargetPools_schedules (hk8s : current.k8s.isSome = true)
    (h : scheduleReconcileRoleTargetPools id current desired cid did = .ok te) :
    Schedules id .other te := by
  unfold scheduleReconcileRoleTargetPools at h
  obtain ⟨clb, _, h⟩ := Outcome.bind_eq_ok.mp h
  obtain ⟨dlb, _, h⟩ := Outcome.bind_eq_ok.mp h
  cases h
  exact schedules_updateEvent rfl hk8s (by simp)

theorem scheduleRollingUpdateLoadBalancer_schedules {np : String} {templates : TemplateRepository}
    (hk8s : current.k8s.isSome = true)
    (h : scheduleRollingUpdateLoadBalancer ord entropy id current cid np templates lbOpts
      = .ok (some te)) : Schedules id .other te := by
  unfold scheduleRollingUpdateLoadBalancer at h
  split at h
  next => cases h
  next => cases h
  next =>
    obtain ⟨lbs, _, h⟩ := Outcome.bind_eq_ok.mp h
    exact scheduleAdditionLoadBalancerNodePools_schedules hk8s h

theorem scheduleRefreshLoadBalancerRoleInternalSettings_schedules {role : String}
    (hk8s : current.k8s.isSome = true)
    (h : scheduleRefreshLoadBalancerRoleInternalSettings id current desired cid did role = .ok te) :
    Schedules id .other te := by
  unfold scheduleRefreshLoadBalancerRoleInternalSettings at h
  obtain ⟨dlb, _, h⟩ := Outcome.bind_eq_ok.mp h
  cases h
  exact schedules_updateEvent (by split <;> rfl) hk8s (by simp)

theorem scheduleRefreshLoadBalancerRoleExternalSettings_schedules {role : String}
    (hk8s : current.k8s.isSome = true)
    (h : scheduleRefreshLoadBalancerRoleExternalSettings id current desired cid did role = .ok te) :
    Schedules id .other te := by
  unfold scheduleRefreshLoadBalancerRoleExternalSettings at h
  obtain ⟨dlb, _, h⟩ := Outcome.bind_eq_ok.mp h
  cases h
  exact schedules_updateEvent (by split <;> rfl) hk8s (by simp)

variable {r : LoadBalancersReconciliate}

def LoadBalancersReconciliate.Moves (r : LoadBalancersReconciliate) : Prop :=
  match r.diff.apiEndpointState with
  | .attachingLoadBalancer => ∃ lb,
    Clusters.findLoadbalancerById r.diff.apiEndpointNew r.current.loadBalancers = some lb
      ∧ lb.hasApiRole = true
  | .detachingLoadBalancer => r.hc.controlNodesHave6443 = true
  | .moveEndpoint =>
    (Clusters.indexLoadbalancerById r.diff.apiEndpointCurrent r.current.loadBalancers).isSome = true
      ∧ (Clusters.indexLoadbalancerById r.diff.apiEndpointNew r.current.loadBalancers).isSome = true
      ∧ r.rolesSynced r.diff.apiEndpointCurrent = true ∧ r.rolesSynced r.diff.apiEndpointNew = true
  | .endpointRenamed | .noChange => False

theorem preKubernetesDiff.apiEndpoint_schedules (hk8s : r.current.k8s.isSome = true)
    (h : apiEndpoint id r = .ok (some te)) :
    Schedules id .other te ∨ te = r.moveApiEndpoint id ∧ r.Moves := by
  unfold apiEndpoint at h
  dsimp only at h
  split at h
  next hstate =>
    split at h
    next lb hlb =>
      cases hrole : lb.hasApiRole with
      | false => simp [hrole, pure, Except.pure] at h
      | true =>
        simp only [hrole] at h
        cases h
        refine .inr ⟨rfl, ?_⟩
        rw [LoadBalancersReconciliate.Moves, hstate]
        exact ⟨lb, hlb, hrole⟩
    next => cases h
  next hstate =>
    split at h
    next => exact .inl (scheduleControlNodesPort6443_schedules (Outcome.some_map_eq_ok.mp h))
    next hopen =>
      cases h
      refine .inr ⟨rfl, ?_⟩
      rw [LoadBalancersReconciliate.Moves, hstate]
      simpa using hopen
  next hstate =>
    split at h
    next hready =>
      cases h
      simp only [Bool.and_eq_true, and_assoc] at hready
      refine .inr ⟨rfl, ?_⟩
      rw [LoadBalancersReconciliate.Moves, hstate]
      exact hready
    next => cases h
  next =>
    split at h
    next =>
      split at h
      next => exact .inl (scheduleReplaceDns_schedules hk8s (Outcome.some_map_eq_ok.mp h))
      next => cases h
    next => cases h
  next => cases h

theorem preKubernetesDiff.pendingDeletion_schedules {np : String} {nodes : List String}
    {isStatic : Bool} (hk8s : r.current.k8s.isSome = true)
    (h : pendingDeletion ord id r cid np nodes isStatic = .ok (some te)) : Schedules id .other te := by
  unfold pendingDeletion at h
  obtain ⟨node, _, h⟩ := Outcome.bind_eq_ok.mp h
  exact scheduleDeletionLoadBalancerNodePools_schedules hk8s h

theorem preKubernetesDiff.modifications_schedules {l : List (String × ModifiedLoadBalancer)}
    (hk8s : r.current.k8s.isSome = true)
    (h : modifications ord id r l = .ok (some te)) : Schedules id .other te := by
  induction l with
  | nil => cases h
  | cons m l ih =>
    simp only [modifications] at h
    split at h
    next => exact scheduleReplaceDns_schedules hk8s (Outcome.some_map_eq_ok.mp h)
    next =>
      split at h
      next => exact scheduleAdditionLoadBalancerNodePools_schedules hk8s h
      next =>
        split at h
        next => exact scheduleAdditionLoadBalancerNodePools_schedules hk8s h
        next =>
          split at h
          next => exact scheduleDeletionLoadBalancerNodePools_schedules hk8s h
          next =>
            split at h
            next => exact scheduleDeletionLoadBalancerNodePools_schedules hk8s h
            next =>
              split at h
              next => exact pendingDeletion_schedules hk8s h
              next => exact pendingDeletion_schedules hk8s h
              next => exact ih h

theorem preKubernetesDiff_schedules (hk8s : r.current.k8s.isSome = true)
    (h : preKubernetesDiff ord id r = .ok (some te)) :
    Schedules id .other te ∨ te = r.moveApiEndpoint id ∧ r.Moves := by
  obtain h | ⟨_, h⟩ := Outcome.orElse_eq_some h
  · exact preKubernetesDiff.apiEndpoint_schedules hk8s h
  · exact .inl (preKubernetesDiff.modifications_schedules hk8s h)

theorem moveApiEndpoint_schedules (hk8s : r.current.k8s.isSome = true) :
    Schedules id .apiEndpoint (r.moveApiEndpoint id) :=
  schedules_updateEvent rfl hk8s (by simp)

theorem postKubernetesDiff.addedRoles_schedules {l : List (String × ModifiedLoadBalancer)}
    (hk8s : r.current.k8s.isSome = true) (h : addedRoles id r l = .ok (some te)) :
    Schedules id .other te := by
  induction l with
  | nil => cases h
  | cons m l ih =>
    simp only [addedRoles] at h
    split at h
    next => exact scheduleAddRoles_schedules hk8s (Outcome.some_map_eq_ok.mp h)
    next => exact ih h

theorem postKubernetesDiff.changedRoles_schedules {l : List (String × ModifiedLoadBalancer)}
    (hk8s : r.current.k8s.isSome = true) (h : changedRoles id r l = .ok (some te)) :
    Schedules id .other te ∨ ∃ e ∈ l, e.2.roles.deleted ≠ []
      ∧ te = scheduleDeleteRoles id r.current (ModifiedLoadBalancer.cid e.2 e.1)
        e.2.roles.deleted := by
  induction l with
  | nil => cases h
  | cons m l ih =>
    simp only [changedRoles] at h
    split at h
    next hdeleted =>
      cases h
      exact .inr ⟨m, List.mem_cons_self, by simpa using hdeleted, rfl⟩
    next =>
      split at h
      next =>
        exact .inl (scheduleReconcileRoleTargetPools_schedules hk8s (Outcome.some_map_eq_ok.mp h))
      next =>
        refine (ih h).imp_right (fun hdeletes => ?_)
        obtain ⟨e, he, hte⟩ := hdeletes
        exact ⟨e, List.mem_cons_of_mem m he, hte⟩

theorem postKubernetesDiff.deletions_schedules (h : deletions id r = .ok (some te)) :
    Schedules id .other te ∨ ∃ lb ∈ r.diff.deleted,
      te = scheduleDeleteLoadBalancer id r.proxy.currentUsed r.current lb := by
  unfold deletions at h
  split at h
  next lb _ hdeleted =>
    cases h
    exact .inr ⟨lb, by simp [hdeleted], rfl⟩
  next =>
    split at h
    next => exact .inl (scheduleControlNodesPort6443_schedules (Outcome.some_map_eq_ok.mp h))
    next => cases h

inductive postKubernetesDiff.Deletes (id : TaskId) (r : LoadBalancersReconciliate) :
    TaskEvent → Prop where
  | roles {lb : String} {m : ModifiedLoadBalancer} (entry : r.diff.modified[lb]? = some m)
      (deleted : m.roles.deleted ≠ []) :
      Deletes id r
        (scheduleDeleteRoles id r.current (ModifiedLoadBalancer.cid m lb) m.roles.deleted)
  | loadBalancer {lb : LoadBalancerIdentifier} (deleted : lb ∈ r.diff.deleted) :
      Deletes id r (scheduleDeleteLoadBalancer id r.proxy.currentUsed r.current lb)

theorem postKubernetesDiff_schedules (hk8s : r.current.k8s.isSome = true)
    (h : postKubernetesDiff ord id r = .ok (some te)) :
    Schedules id .other te ∨ (r.diff.added = []
      ∧ postKubernetesDiff.addedRoles id r (ord.range "added roles" r.diff.modified) = .ok none
      ∧ postKubernetesDiff.Deletes id r te) := by
  unfold postKubernetesDiff at h
  split at h
  next => exact .inl (scheduleJoinLoadBalancer_schedules hk8s (Outcome.some_map_eq_ok.mp h))
  next hadded =>
    obtain h | ⟨hroles, h⟩ := Outcome.orElse_eq_some h
    · exact .inl (postKubernetesDiff.addedRoles_schedules hk8s h)
    · refine Or.imp_right (fun hdeletes => ⟨hadded, hroles, hdeletes⟩) ?_
      obtain h | ⟨_, h⟩ := Outcome.orElse_eq_some h
      · obtain h | ⟨⟨lb, m⟩, he, hdeleted, rfl⟩ :=
          postKubernetesDiff.changedRoles_schedules hk8s h
        · exact .inl h
        · exact .inr (.roles ((MapOrder.mem_range ord).mp he) hdeleted)
      · obtain h | ⟨lb, hlb, rfl⟩ := postKubernetesDiff.deletions_schedules h
        · exact .inl h
        · exact .inr (.loadBalancer hlb)

theorem postKubernetesDiff.Deletes.newUpdate (hk8s : r.current.k8s.isSome = true)
    (h : postKubernetesDiff.Deletes id r te) : NewUpdate id te := by
  cases h with
  | roles => exact (schedules_updateEvent rfl hk8s (by simp)).newUpdate
  | loadBalancer => exact (schedules_updateEvent rfl hk8s (by simp)).newUpdate

theorem loadBalancersLowPriority_schedules (hk8s : r.current.k8s.isSome = true)
    (h : loadBalancersLowPriority ord entropy id r = .ok (some te)) : Schedules id .other te := by
  unfold loadBalancersLowPriority at h
  generalize ord.range "low priority modifications" r.diff.modified = l at h
  induction l with
  | nil => cases h
  | cons m l ih =>
    simp only [loadBalancersLowPriority.modifications] at h
    split at h
    next =>
      exact scheduleRefreshLoadBalancerRoleInternalSettings_schedules hk8s
        (Outcome.some_map_eq_ok.mp h)
    next =>
      exact scheduleRefreshLoadBalancerRoleExternalSettings_schedules hk8s
        (Outcome.some_map_eq_ok.mp h)
    next => exact scheduleRollingUpdateLoadBalancer_schedules hk8s h
    next => exact ih h

end loadbalancers

theorem handleUpdate_schedules {hc : HealthCheckStatus} {d : DiffResult}
    (hk8s : current.k8s.isSome = true)
    (h : handleUpdate ord entropy id hc d current desired = .ok (some te)) :
    let lbr : LoadBalancersReconciliate :=
      ⟨hc, d.loadBalancers, d.kubernetes.proxy, current, desired⟩
    let kr : KubernetesReconciliate := ⟨hc, d.kubernetes, current, desired⟩
    Schedules id .other te
      ∨ (te = lbr.moveApiEndpoint id ∧ lbr.Moves)
      ∨ kr.Transfers id te
      ∨ preKubernetesDiff ord id lbr = .ok none ∧ kubernetesModifications ord id kr = .ok none
        ∧ ((d.loadBalancers.added = []
            ∧ postKubernetesDiff.addedRoles id lbr
              (ord.range "added roles" d.loadBalancers.modified) = .ok none
            ∧ postKubernetesDiff.Deletes id lbr te)
          ∨ postKubernetesDiff ord id lbr = .ok none
            ∧ kubernetesDeletions ord id kr = .ok (some te)) := by
  intro lbr kr
  unfold handleUpdate at h
  obtain h | ⟨hpre, h⟩ := Outcome.orElse_eq_some h
  · exact (preKubernetesDiff_schedules hk8s h).imp_right .inl
  obtain h | ⟨hmods, h⟩ := Outcome.orElse_eq_some h
  · exact (kubernetesModifications_schedules h).imp_right (.inr ∘ .inl)
  obtain h | ⟨hpost, h⟩ := Outcome.orElse_eq_some h
  · exact (postKubernetesDiff_schedules hk8s h).imp_right
      (fun hdeletes => .inr (.inr ⟨hpre, hmods, .inl hdeletes⟩))
  obtain h | ⟨_, h⟩ := Outcome.orElse_eq_some h
  · exact .inr (.inr (.inr ⟨hpre, hmods, .inr ⟨hpost, h⟩⟩))
  left
  obtain h | ⟨_, h⟩ := Outcome.orElse_eq_some h
  · exact loadBalancersLowPriority_schedules hk8s h
  obtain h | ⟨_, h⟩ := Outcome.orElse_eq_some h
  · exact kubernetesLowPriority_schedules hk8s h
  split at h
  next =>
    cases h
    exact scheduleRefreshVPN_schedules hk8s
  next => cases h

theorem handleUpdate_newUpdate {hc : HealthCheckStatus} {d : DiffResult}
    (hk8s : current.k8s.isSome = true)
    (h : handleUpdate ord entropy id hc d current desired = .ok (some te)) : NewUpdate id te := by
  obtain h | ⟨rfl, _⟩ | htransfers | ⟨_, _, ⟨_, _, hdeletes⟩ | ⟨_, h⟩⟩ :=
    handleUpdate_schedules hk8s h
  · exact h.newUpdate
  · exact (moveApiEndpoint_schedules hk8s).newUpdate
  · exact htransfers.newUpdate hk8s
  · exact hdeletes.newUpdate hk8s
  · exact (kubernetesDeletions_schedules h).newUpdate

section unreachable

namespace handleKubernetesUnknownNodes

variable {r : KubernetesUnreachableNodes} {k8s dk8s : K8scluster}

theorem scheduleDeletion_removal {np : String} {nodes : List NodeDescription} {isStatic : Bool}
    (h : scheduleDeletion ord id r k8s np nodes isStatic = .ok (some te)) : Removal id te := by
  obtain ⟨hnew, _, _, _, _, htask⟩ := scheduleDeletionsInNodePools_eq_some h
  exact ⟨hnew.toNewTask, _, _, htask, rfl⟩

theorem nodepools_removal {errs errs' : List String} {l : List (String × List NodeDescription)}
    (h : nodepools ord id r k8s dk8s errs l = .ok (some te, errs')) : Removal id te := by
  induction l generalizing errs with
  | nil => cases h
  | cons np l ih =>
    simp only [nodepools] at h
    split at h
    next =>
      split at h
      next => exact ih h
      next =>
        obtain ⟨next, hnext, h⟩ := Outcome.bind_eq_ok.mp h
        cases h
        exact scheduleDeletion_removal hnext
    next =>
      split at h
      next => exact ih h
      next =>
        obtain ⟨next, hnext, h⟩ := Outcome.bind_eq_ok.mp h
        cases h
        exact scheduleDeletion_removal hnext

end handleKubernetesUnknownNodes

theorem handleKubernetesUnknownNodes_removal {r : KubernetesUnreachableNodes}
    (h : handleKubernetesUnknownNodes ord id r = .ok (some te)) : Removal id te := by
  unfold handleKubernetesUnknownNodes at h
  obtain ⟨k8s, _, h⟩ := Outcome.bind_eq_ok.mp h
  obtain ⟨dk8s, _, h⟩ := Outcome.bind_eq_ok.mp h
  obtain ⟨⟨next, errs⟩, hnext, h⟩ := Outcome.bind_eq_ok.mp h
  dsimp only at h
  split at h
  next =>
    cases h
    exact handleKubernetesUnknownNodes.nodepools_removal hnext
  next => cases h
  next => cases h

namespace handleLoadBalancerUnknownNodes

variable {r : LoadBalancerUnreachableNodes} {cid : LoadBalancerIdentifier}

theorem deleteNodePool_removal {cnp : NodePool} (hk8s : r.current.k8s.isSome = true)
    (hlb : (Clusters.indexLoadbalancerById cid.id r.current.loadBalancers).isSome = true)
    (h : deleteNodePool ord id r cid cnp = .ok (some te)) : Removal id te := by
  unfold deleteNodePool scheduleDeletionLoadBalancerNodePools at h
  dsimp only at h
  split at h
  next np nodes _ hpart =>
    have hmem := List.mem_of_mem_head? (congrArg List.head? hpart)
    rw [MapOrder.mem_range] at hmem
    simp at hmem
  next =>
    obtain ⟨change, hchange, h⟩ := Outcome.bind_eq_ok.mp h
    have hremoval := scheduleDeletionLoadBalancerNodePools.deletedChange_eq_ok hchange
    cases h
    have hstate : change.1.k8s.isSome = true := by rw [hremoval.1, hk8s]
    exact ⟨(schedules_updateEvent rfl hstate
        scheduleDeletionLoadBalancerNodePools.pipeline_ne_nil).toNewTask,
      _, _, rfl, hremoval.2.2 hlb⟩
  next => cases h

theorem nodepools_removal {clb dlb : LBcluster} {errs errs' : List String}
    {l : List (String × List String)} (hk8s : r.current.k8s.isSome = true)
    (hlb : (Clusters.indexLoadbalancerById cid.id r.current.loadBalancers).isSome = true)
    (h : nodepools ord id r cid clb dlb errs l = .ok (some (some te), errs')) :
    Removal id te := by
  induction l generalizing errs with
  | nil => cases h
  | cons np l ih =>
    simp only [nodepools] at h
    obtain ⟨cnp, _, h⟩ := Outcome.bind_eq_ok.mp h
    split at h
    next =>
      obtain ⟨next, hnext, h⟩ := Outcome.bind_eq_ok.mp h
      cases h
      exact deleteNodePool_removal hk8s hlb hnext
    next =>
      obtain ⟨err, _, h⟩ := Outcome.bind_eq_ok.mp h
      exact ih h

theorem loadbalancers_removal {errs errs' : List String}
    {l : List (String × GoMap (List String))} (hk8s : r.current.k8s.isSome = true)
    (h : loadbalancers ord id r errs l = .ok (some (some te), errs')) : Removal id te := by
  induction l generalizing errs with
  | nil => cases h
  | cons lb l ih =>
    simp only [loadbalancers] at h
    obtain ⟨index, hindex, h⟩ := Outcome.bind_eq_ok.mp h
    obtain ⟨clb, _, h⟩ := Outcome.bind_eq_ok.mp h
    rw [Outcome.deref_eq_ok] at hindex
    split at h
    next =>
      split at h
      next => exact ih h
      next =>
        cases h
        exact ⟨(schedules_updateEvent rfl hk8s (List.cons_ne_nil _ _)).toNewTask, _, _, rfl, rfl⟩
    next =>
      obtain ⟨⟨returned, errs⟩, hreturned, h⟩ := Outcome.bind_eq_ok.mp h
      dsimp only at h
      split at h
      next =>
        cases h
        exact nodepools_removal hk8s (by simp [hindex]) hreturned
      next => exact ih h

end handleLoadBalancerUnknownNodes

theorem handleLoadBalancerUnknownNodes_removal {r : LoadBalancerUnreachableNodes}
    (hk8s : r.current.k8s.isSome = true)
    (h : handleLoadBalancerUnknownNodes ord id r = .ok (some te)) : Removal id te := by
  unfold handleLoadBalancerUnknownNodes at h
  obtain ⟨⟨returned, errs⟩, hreturned, h⟩ := Outcome.bind_eq_ok.mp h
  dsimp only at h
  split at h
  next =>
    cases h
    exact handleLoadBalancerUnknownNodes.loadbalancers_removal hk8s hreturned
  next => cases h
  next => cases h

theorem handleClusterUnknownNodes_removal {diff : DiffResult} {ns : UnknownNodeStatus}
    {hc : HealthCheckStatus} (hk8s : current.k8s.isSome = true)
    (h : handleClusterUnknownNodes ord id current desired diff ns hc = .ok (some te)) :
    Removal id te := by
  obtain h | ⟨_, h⟩ := Outcome.orElse_eq_some h
  · exact handleLoadBalancerUnknownNodes_removal hk8s h
  · exact handleKubernetesUnknownNodes_removal h

theorem reachability_push {last : List TaskEvent} {diff : DiffResult} {ns : UnknownNodeStatus}
    {hc : HealthCheckStatus} (hk8s : current.k8s.isSome = true)
    (h : reachability ord id last current desired diff ns hc = .ok (.push te)) :
    Removal id te ∧ ∀ head ∈ last.head?, areScheduledTasksEqual head te = false := by
  unfold reachability at h
  split at h
  next => cases h
  next => cases h
  next => cases h
  next next hnext =>
    split at h
    next =>
      cases h
      exact ⟨handleClusterUnknownNodes_removal hk8s hnext, by simp⟩
    next head _ =>
      cases heq : areScheduledTasksEqual head next with
      | true =>
        simp only [heq] at h
        cases h
      | false =>
        simp only [heq] at h
        cases h
        exact ⟨handleClusterUnknownNodes_removal hk8s hnext, by simp [heq]⟩

end unreachable

end

end Manager

end Claudie
