import Claudie.Manager.Reconcile
import Claudie.Manager.Lemmas.Diff

/-!
What the differences between two states have left once no phase of `handleUpdate` schedules a task.
-/

namespace Claudie

namespace Manager

section

variable {ord : MapOrder} {entropy : Entropy} {id : TaskId} {current desired : Clusters}
  {diff : NodePoolsDiffResult}

theorem scheduleAdditionLoadBalancerNodePools_eq_none {cid did : LoadBalancerIdentifier}
    {opts : LoadBalancerNodePoolsOptions}
    (h : scheduleAdditionLoadBalancerNodePools ord id current desired cid did diff opts = .ok none) :
    diff.added.isEmpty = true ∧ diff.partiallyAdded.isEmpty = true := by
  unfold scheduleAdditionLoadBalancerNodePools at h
  dsimp only at h
  split at h
  next =>
    obtain ⟨_, _, h⟩ := Outcome.bind_eq_ok.mp h
    cases h
  next =>
    obtain ⟨_, _, h⟩ := Outcome.bind_eq_ok.mp h
    cases h
  next hpart hadded =>
    exact ⟨(MapOrder.range_eq_nil ord).mp hadded, (MapOrder.range_eq_nil ord).mp hpart⟩

theorem scheduleDeletionLoadBalancerNodePools_eq_none {cid : LoadBalancerIdentifier}
    {opts : LoadBalancerNodePoolsOptions}
    (h : scheduleDeletionLoadBalancerNodePools ord id current cid diff opts = .ok none) :
    diff.deleted.isEmpty = true ∧ diff.partiallyDeleted.isEmpty = true := by
  unfold scheduleDeletionLoadBalancerNodePools at h
  dsimp only at h
  split at h
  next =>
    obtain ⟨_, _, h⟩ := Outcome.bind_eq_ok.mp h
    cases h
  next =>
    obtain ⟨_, _, h⟩ := Outcome.bind_eq_ok.mp h
    cases h
  next hpart hdeleted =>
    exact ⟨(MapOrder.range_eq_nil ord).mp hdeleted, (MapOrder.range_eq_nil ord).mp hpart⟩

theorem scheduleDeletionsInNodePools_eq_none {opts : K8sNodeDeletionOptions}
    (h : scheduleDeletionsInNodePools ord id current diff opts = .ok none) :
    diff.deleted.isEmpty = true ∧ diff.partiallyDeleted.isEmpty = true := by
  unfold scheduleDeletionsInNodePools at h
  obtain ⟨k8s, _, h⟩ := Outcome.bind_eq_ok.mp h
  dsimp only at h
  split at h
  next => cases h
  next => cases h
  next hpart hdeleted =>
    exact ⟨(MapOrder.range_eq_nil ord).mp hdeleted, (MapOrder.range_eq_nil ord).mp hpart⟩

theorem scheduleAdditionsInNodePools.added_eq_none {k8s : K8scluster} {lbs : List LBcluster}
    {nps : List NodePool} {opts : K8sNodeAdditionOptions} {l : List (String × List String)}
    (h : scheduleAdditionsInNodePools.added id k8s lbs nps opts l = none) :
    ∀ e ∈ l, NodePools.findByName e.1 nps = none := by
  induction l with
  | nil => exact List.forall_mem_nil _
  | cons e l ih =>
    rw [scheduleAdditionsInNodePools.added] at h
    split at h
    next hnone => exact List.forall_mem_cons.mpr ⟨hnone, ih h⟩
    next => cases h

theorem scheduleAdditionsInNodePools.partiallyAdded_eq_none {k8s : K8scluster} {lbs : List LBcluster}
    {nps : List NodePool} {opts : K8sNodeAdditionOptions} {l : List (String × List String)}
    (h : scheduleAdditionsInNodePools.partiallyAdded id k8s lbs nps opts l = .ok none) :
    ∀ e ∈ l, NodePools.findByName e.1 k8s.clusterInfo.nodePools = none := by
  induction l with
  | nil => exact List.forall_mem_nil _
  | cons e l ih =>
    rw [scheduleAdditionsInNodePools.partiallyAdded] at h
    dsimp only at h
    split at h
    next hnone => exact List.forall_mem_cons.mpr ⟨hnone, ih h⟩
    next =>
      split at h
      next =>
        obtain ⟨_, _, h⟩ := Outcome.bind_eq_ok.mp h
        cases h
      next => cases h

theorem scheduleAdditionsInNodePools_eq_none {k dk : K8scluster} {opts : K8sNodeAdditionOptions}
    (hk : current.k8s = some k) (hdk : desired.k8s = some dk)
    (h : scheduleAdditionsInNodePools ord id current desired diff opts = .ok none) :
    (∀ name, (diff.added[name]?).isSome →
        NodePools.findByName name dk.clusterInfo.nodePools = none)
      ∧ ∀ name, (diff.partiallyAdded[name]?).isSome →
        NodePools.findByName name k.clusterInfo.nodePools = none := by
  unfold scheduleAdditionsInNodePools at h
  rw [hk, hdk] at h
  simp only [Outcome.deref_some, bind, Except.bind] at h
  split at h
  next => cases h
  next hadded =>
    refine ⟨fun name hname => ?_, fun name hname => ?_⟩
    · obtain ⟨nodes, hnodes⟩ := Option.isSome_iff_exists.mp hname
      exact scheduleAdditionsInNodePools.added_eq_none hadded (name, nodes)
        ((MapOrder.mem_range ord).mpr hnodes)
    · obtain ⟨nodes, hnodes⟩ := Option.isSome_iff_exists.mp hname
      exact scheduleAdditionsInNodePools.partiallyAdded_eq_none h (name, nodes)
        ((MapOrder.mem_range ord).mpr hnodes)

theorem scheduleRollingUpdate_eq_none {np : String} {templates : TemplateRepository}
    {opts : K8sNodeAdditionOptions}
    (h : scheduleRollingUpdate ord entropy id current np templates opts = .ok none) :
    Outcome.Fails (createNodePoolForRollingUpdate entropy current none np templates) := by
  unfold scheduleRollingUpdate at h
  obtain ⟨k, hk, h⟩ := Outcome.bind_eq_ok.mp h
  rw [Outcome.deref_eq_ok] at hk
  dsimp only at h
  split at h
  next => cases h
  next err hcreate => exact ⟨err, hcreate⟩
  next new hcreate =>
    exfalso
    have hnone := (scheduleAdditionsInNodePools_eq_none hk rfl h).1 new.name (by simp)
    rw [NodePools.findByName, List.find?_key_eq_none] at hnone
    exact hnone (by simp [K8scluster.withNodePools])

theorem scheduleRollingUpdateLoadBalancer_eq_none {np : String} {templates : TemplateRepository}
    {cid : LoadBalancerIdentifier} {opts : LoadBalancerNodePoolsOptions}
    (h : scheduleRollingUpdateLoadBalancer ord entropy id current cid np templates opts = .ok none) :
    Outcome.Fails (createNodePoolForRollingUpdate entropy current (some cid) np templates) := by
  unfold scheduleRollingUpdateLoadBalancer at h
  split at h
  next => cases h
  next err hcreate => exact ⟨err, hcreate⟩
  next new hcreate =>
    exfalso
    obtain ⟨lbs, _, h⟩ := Outcome.bind_eq_ok.mp h
    have hempty := (scheduleAdditionLoadBalancerNodePools_eq_none h).1
    simp at hempty

end

section LoadBalancers

variable {ord : MapOrder} {entropy : Entropy} {id : TaskId} {r : LoadBalancersReconciliate}
  {l : List (String × ModifiedLoadBalancer)}

structure NodesSettled (m : ModifiedLoadBalancer) : Prop where
  dns : m.dns = false
  dynamic : m.dynamic.isEmpty = true
  static : m.static.isEmpty = true
  pendingDynamicDeletions : m.pendingDynamicDeletions.isEmpty = true
  pendingStaticDeletions : m.pendingStaticDeletions.isEmpty = true

structure RolesSettled (m : ModifiedLoadBalancer) : Prop where
  added : m.roles.added = []
  deleted : m.roles.deleted = []
  targetPoolsAdded : m.roles.targetPoolsAdded.isEmpty = true
  targetPoolsDeleted : m.roles.targetPoolsDeleted.isEmpty = true

structure SettingsSettled (m : ModifiedLoadBalancer) : Prop where
  internalSettingsChanged : m.roles.internalSettingsChanged = []
  externalSettingsChanged : m.roles.externalSettingsChanged = []
  rollingUpdate : m.rollingUpdate.isEmpty = true

theorem preKubernetesDiff.pendingDeletion_ne_none {cid : LoadBalancerIdentifier} {np : String}
    {nodes : List String} {isStatic : Bool} :
    preKubernetesDiff.pendingDeletion ord id r cid np nodes isStatic ≠ .ok none := by
  intro h
  obtain ⟨node, _, h⟩ := Outcome.bind_eq_ok.mp h
  have hempty := (scheduleDeletionLoadBalancerNodePools_eq_none h).2
  simp at hempty

theorem preKubernetesDiff.modifications_eq_none
    (h : preKubernetesDiff.modifications ord id r l = .ok none) : ∀ e ∈ l, NodesSettled e.2 := by
  induction l with
  | nil => exact List.forall_mem_nil _
  | cons e l ih =>
    obtain ⟨lb, m⟩ := e
    rw [preKubernetesDiff.modifications] at h
    split at h
    next => exact absurd h Outcome.some_map_ne_none
    next hdns =>
      split at h
      next hadds => simp [scheduleAdditionLoadBalancerNodePools_eq_none h] at hadds
      next hdyn =>
        split at h
        next hadds => simp [scheduleAdditionLoadBalancerNodePools_eq_none h] at hadds
        next hstt =>
          split at h
          next hdels => simp [scheduleDeletionLoadBalancerNodePools_eq_none h] at hdels
          next hdyndel =>
            split at h
            next hdels => simp [scheduleDeletionLoadBalancerNodePools_eq_none h] at hdels
            next hsttdel =>
              split at h
              next => exact absurd h pendingDeletion_ne_none
              next => exact absurd h pendingDeletion_ne_none
              next hpdyn hpstt =>
                simp only [Bool.or_eq_true, Bool.not_eq_true', not_or, Bool.not_eq_false]
                  at hdyn hstt hdyndel hsttdel
                refine List.forall_mem_cons.mpr ⟨⟨by simpa using hdns, ?_, ?_,
                  (MapOrder.range_eq_nil ord).mp hpdyn, (MapOrder.range_eq_nil ord).mp hpstt⟩, ih h⟩
                · simp [NodePoolsDiffResult.isEmpty, hdyn, hdyndel]
                · simp [NodePoolsDiffResult.isEmpty, hstt, hsttdel]

theorem postKubernetesDiff.addedRoles_eq_none (h : postKubernetesDiff.addedRoles id r l = .ok none) :
    ∀ e ∈ l, e.2.roles.added = [] := by
  induction l with
  | nil => exact List.forall_mem_nil _
  | cons e l ih =>
    rw [postKubernetesDiff.addedRoles] at h
    split at h
    next => exact absurd h Outcome.some_map_ne_none
    next hadded => exact List.forall_mem_cons.mpr ⟨by simpa using hadded, ih h⟩

theorem postKubernetesDiff.changedRoles_eq_none
    (h : postKubernetesDiff.changedRoles id r l = .ok none) :
    ∀ e ∈ l, e.2.roles.deleted = [] ∧ e.2.roles.targetPoolsAdded.isEmpty = true
      ∧ e.2.roles.targetPoolsDeleted.isEmpty = true := by
  induction l with
  | nil => exact List.forall_mem_nil _
  | cons e l ih =>
    rw [postKubernetesDiff.changedRoles] at h
    split at h
    next => cases h
    next hdeleted =>
      split at h
      next => exact absurd h Outcome.some_map_ne_none
      next hpools =>
        simp only [Bool.or_eq_true, Bool.not_eq_true', not_or, Bool.not_eq_false] at hpools
        exact List.forall_mem_cons.mpr ⟨⟨by simpa using hdeleted, hpools⟩, ih h⟩

theorem postKubernetesDiff_eq_none (h : postKubernetesDiff ord id r = .ok none) :
    r.diff.added = [] ∧ r.diff.deleted = []
      ∧ ∀ (lb : String) (m : ModifiedLoadBalancer), r.diff.modified[lb]? = some m →
        RolesSettled m := by
  unfold postKubernetesDiff at h
  split at h
  next => exact absurd h Outcome.some_map_ne_none
  next hadded =>
    rw [Outcome.orElse_eq_none, Outcome.orElse_eq_none] at h
    obtain ⟨haddedRoles, hchanged, hdeletions⟩ := h
    refine ⟨hadded, ?_, fun lb m hm => ?_⟩
    · unfold postKubernetesDiff.deletions at hdeletions
      split at hdeletions
      next => cases hdeletions
      next hdeleted => exact hdeleted
    · have hmem : ∀ loop : String, (lb, m) ∈ ord.range loop r.diff.modified :=
        fun loop => (MapOrder.mem_range ord).mpr hm
      obtain ⟨hdel, hpools, hpools'⟩ := postKubernetesDiff.changedRoles_eq_none hchanged _ (hmem _)
      exact ⟨postKubernetesDiff.addedRoles_eq_none haddedRoles _ (hmem _), hdel, hpools, hpools'⟩

def Replaceable (entropy : Entropy) (current : Clusters) (cid : Option LoadBalancerIdentifier)
    (updates : GoMap TemplateRepository) : Prop :=
  ∀ (np : String) (tpl : TemplateRepository), updates[np]? = some tpl →
    ¬ Outcome.Fails (createNodePoolForRollingUpdate entropy current cid np tpl)

theorem loadBalancersLowPriority_eq_none (h : loadBalancersLowPriority ord entropy id r = .ok none)
    (hroll : ∀ (lb : String) (m : ModifiedLoadBalancer), r.diff.modified[lb]? = some m →
      Replaceable entropy r.current (some (ModifiedLoadBalancer.cid m lb)) m.rollingUpdate) :
    ∀ (lb : String) (m : ModifiedLoadBalancer), r.diff.modified[lb]? = some m →
      SettingsSettled m := by
  have hloop : ∀ l : List (String × ModifiedLoadBalancer),
      (∀ e ∈ l, r.diff.modified[e.1]? = some e.2) →
      loadBalancersLowPriority.modifications ord entropy id r l = .ok none →
      ∀ e ∈ l, SettingsSettled e.2 := by
    intro l hl h
    induction l with
    | nil => exact List.forall_mem_nil _
    | cons e l ih =>
      rw [List.forall_mem_cons] at hl
      obtain ⟨lb, m⟩ := e
      rw [loadBalancersLowPriority.modifications] at h
      split at h
      next => exact absurd h Outcome.some_map_ne_none
      next => exact absurd h Outcome.some_map_ne_none
      next np tpl rest _ _ hrange =>
        have hnp : m.rollingUpdate[np]? = some tpl := by
          have hmem : (np, tpl) ∈ ord.range "rolling updates" m.rollingUpdate := by
            rw [hrange]
            exact List.mem_cons_self
          exact (MapOrder.mem_range ord).mp hmem
        exact absurd (scheduleRollingUpdateLoadBalancer_eq_none h) (hroll lb m hl.1 np tpl hnp)
      next hinternal hexternal hrange =>
        exact List.forall_mem_cons.mpr ⟨⟨hinternal, hexternal, (MapOrder.range_eq_nil ord).mp hrange⟩,
          ih hl.2 h⟩
  intro lb m hm
  exact hloop _ (fun e he => (MapOrder.mem_range ord).mp he) h (lb, m)
    ((MapOrder.mem_range ord).mpr hm)

end LoadBalancers

section Kubernetes

variable {ord : MapOrder} {entropy : Entropy} {id : TaskId} {r : KubernetesReconciliate}

theorem kubernetesModifications_eq_none {k dk : K8scluster} (hk : r.current.k8s = some k)
    (hdk : r.desired.k8s = some dk)
    (hdynamic : r.diff.dynamic = dynamicDiff k.clusterInfo.nodePools dk.clusterInfo.nodePools)
    (hstatic : r.diff.static = staticDiff k.clusterInfo.nodePools dk.clusterInfo.nodePools)
    (hnames : (k.clusterInfo.nodePools.map (·.name)).Nodup)
    (hdnames : (dk.clusterInfo.nodePools.map (·.name)).Nodup)
    (h : kubernetesModifications ord id r = .ok none) :
    (r.diff.dynamic.added.isEmpty = true ∧ r.diff.dynamic.partiallyAdded.isEmpty = true)
      ∧ r.diff.static.added.isEmpty = true ∧ r.diff.static.partiallyAdded.isEmpty = true := by
  -- what the difference names is found in the state it comes from.
  have hempty : ∀ (p : NodePool → Bool) (diff : NodePoolsDiffResult) (opts : K8sNodeAdditionOptions),
      diff = nodePoolsDiff (nodePoolsViewOf p k.clusterInfo.nodePools)
        (nodePoolsViewOf p dk.clusterInfo.nodePools) →
      scheduleAdditionsInNodePools ord id r.current r.desired diff opts = .ok none →
      diff.added.isEmpty = true ∧ diff.partiallyAdded.isEmpty = true := by
    rintro p _ opts rfl hnone
    obtain ⟨hadded, hpart⟩ := scheduleAdditionsInNodePools_eq_none hk hdk hnone
    simp only [nodePoolsDiff_added, nodePoolsDiff_partiallyAdded, GoMap.isEmpty_iff_getElem?,
      nodePoolsViewOf_getElem? hnames, nodePoolsViewOf_getElem? hdnames] at hadded hpart ⊢
    refine ⟨fun name => ?_, fun name => ?_⟩
    · by_contra hne
      have hfind := hadded name (Option.isSome_iff_ne_none.mpr hne)
      simp [hfind] at hne
    · by_contra hne
      have hfind := hpart name (Option.isSome_iff_ne_none.mpr hne)
      simp [hfind] at hne
  unfold kubernetesModifications at h
  rw [hk] at h
  simp only [Outcome.deref_some, bind, Except.bind] at h
  split at h
  next => cases h
  next =>
    split at h
    next hadds => simp [hempty _ _ _ hdynamic h] at hadds
    next hdyn =>
      split at h
      next hadds => simp [hempty _ _ _ hstatic h] at hadds
      next hstt =>
        simp only [Bool.or_eq_true, Bool.not_eq_true', not_or, Bool.not_eq_false] at hdyn hstt
        exact ⟨hdyn, hstt⟩

theorem schedulePendingDeletion_ne_none {np : String} {nodes : List String} {isStatic : Bool} :
    schedulePendingDeletion ord id r np nodes isStatic ≠ .ok none := by
  intro h
  obtain ⟨node, _, h⟩ := Outcome.bind_eq_ok.mp h
  have hempty := (scheduleDeletionsInNodePools_eq_none h).2
  simp at hempty

theorem kubernetesDeletions_eq_none (h : kubernetesDeletions ord id r = .ok none) :
    (r.diff.dynamic.deleted.isEmpty = true ∧ r.diff.dynamic.partiallyDeleted.isEmpty = true)
      ∧ (r.diff.static.deleted.isEmpty = true ∧ r.diff.static.partiallyDeleted.isEmpty = true)
      ∧ r.diff.pendingDynamicDeletions.isEmpty = true
      ∧ r.diff.pendingStaticDeletions.isEmpty = true := by
  unfold kubernetesDeletions at h
  split at h
  next hdels => simp [scheduleDeletionsInNodePools_eq_none h] at hdels
  next hdyn =>
    split at h
    next hdels => simp [scheduleDeletionsInNodePools_eq_none h] at hdels
    next hstt =>
      split at h
      next => exact absurd h schedulePendingDeletion_ne_none
      next => exact absurd h schedulePendingDeletion_ne_none
      next hpdyn hpstt =>
        simp only [Bool.or_eq_true, Bool.not_eq_true', not_or, Bool.not_eq_false] at hdyn hstt
        exact ⟨hdyn, hstt, (MapOrder.range_eq_nil ord).mp hpdyn,
          (MapOrder.range_eq_nil ord).mp hpstt⟩

theorem kubernetesLowPriority_eq_none (h : kubernetesLowPriority ord entropy id r = .ok none)
    (hroll : Replaceable entropy r.current none r.diff.rollingUpdates) :
    r.diff.version = false ∧ r.diff.proxy.change = .noChange
      ∧ r.diff.labelsTaintsAnnotations.isEmpty = true
      ∧ r.diff.changedToAutoscaled.isEmpty = true ∧ r.diff.changedToFixed.isEmpty = true
      ∧ r.diff.rollingUpdates.isEmpty = true := by
  unfold kubernetesLowPriority at h
  split at h
  next => exact absurd h Outcome.some_map_ne_none
  next hversion =>
    split at h
    next => exact absurd h Outcome.some_map_ne_none
    next => exact absurd h Outcome.some_map_ne_none
    next => exact absurd h Outcome.some_map_ne_none
    next hproxy =>
      split at h
      next => cases h
      next hlabels =>
        unfold kubernetesNodePoolTypes at h
        split at h
        next => exact absurd h Outcome.some_map_ne_none
        next => exact absurd h Outcome.some_map_ne_none
        next np tpl rest _ _ hrange =>
          have hmem : (np, tpl) ∈ ord.range "rolling updates" r.diff.rollingUpdates := by
            rw [hrange]
            exact List.mem_cons_self
          exact absurd (scheduleRollingUpdate_eq_none h)
            (hroll np tpl ((MapOrder.mem_range ord).mp hmem))
        next hauto hfixed hrange =>
          exact ⟨by simpa using hversion, hproxy, by simpa using hlabels,
            (MapOrder.range_eq_nil ord).mp hauto, (MapOrder.range_eq_nil ord).mp hfixed,
            (MapOrder.range_eq_nil ord).mp hrange⟩

end Kubernetes

end Manager

end Claudie
