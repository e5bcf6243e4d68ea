import Claudie.Manager.Lemmas.Agreement
import Claudie.Manager.Lemmas.GenerateState
import Claudie.Manager.Lemmas.Idle
import Claudie.Manager.Union

/-!
What the current and the desired state of a cluster agree on once `handleUpdate` has nothing left to
schedule.
-/

namespace Claudie

namespace Manager

structure Clusters.Named (c : Clusters) : Prop where
  nodePools : ∀ k ∈ c.k8s, (k.clusterInfo.nodePools.map (·.name)).Nodup
  ids : (c.loadBalancers.map (·.id)).Nodup
  lbNodePools : ∀ lb ∈ c.loadBalancers, (lb.clusterInfo.nodePools.map (·.name)).Nodup
  roles : ∀ lb ∈ c.loadBalancers, (lb.roles.map (·.name)).Nodup

structure SameProxy (k d : K8scluster) : Prop where
  used : usesProxy k = usesProxy d
  endpoint : usesProxy k = true → k.installationProxy.endpoint = d.installationProxy.endpoint
  noProxy : usesProxy k = true → k.installationProxy.noProxy = d.installationProxy.noProxy

structure K8sAgrees (k d : K8scluster) : Prop where
  nodePools : SameNodePools k.clusterInfo.nodePools d.clusterInfo.nodePools
  version : k.kubernetes = d.kubernetes
  patches : AgreeOn SamePatches k.clusterInfo.nodePools d.clusterInfo.nodePools
  autoscaler : AgreeOn SameAutoscaler k.clusterInfo.nodePools d.clusterInfo.nodePools
  templates : AgreeOn SameTemplates k.clusterInfo.nodePools d.clusterInfo.nodePools
  proxy : SameProxy k d

def SameRoleTypes (roles others : List Role) : Prop :=
  ∀ r ∈ roles, ∀ o ∈ others, r.name = o.name → r.roleType = o.roleType

structure LbAgrees (lb d : LBcluster) : Prop where
  nodePools : SameNodePools lb.clusterInfo.nodePools d.clusterInfo.nodePools
  templates : AgreeOn SameTemplates lb.clusterInfo.nodePools d.clusterInfo.nodePools
  dns : lb.dns = d.dns
  roles : SameRoles lb.roles d.roles
  roleTypes : SameRoleTypes lb.roles d.roles

structure Agrees (current desired : Clusters) : Prop where
  k8s : ∀ k ∈ current.k8s, ∀ d ∈ desired.k8s, K8sAgrees k d
  ids : ∀ id, id ∈ current.loadBalancers.map (·.id) ↔ id ∈ desired.loadBalancers.map (·.id)
  loadBalancers : ∀ lb ∈ current.loadBalancers, ∀ d ∈ desired.loadBalancers, lb.id = d.id →
    LbAgrees lb d

structure Visible (entropy : Entropy) (current desired : Clusters) : Prop where
  proxy : ∀ k ∈ current.k8s, ∀ d ∈ desired.k8s, usesProxy k = true → usesProxy d = true →
    k.installationProxy.endpoint = d.installationProxy.endpoint
  k8sTemplates : ∀ k ∈ current.k8s, ∀ d ∈ desired.k8s,
    AgreeOn SameTemplates k.clusterInfo.nodePools d.clusterInfo.nodePools
      ∨ CanReplace entropy current k.clusterInfo.nodePools
  staticNodePools : ∀ lb ∈ current.loadBalancers, ∀ d ∈ desired.loadBalancers, lb.id = d.id →
    CoversKind (·.isStatic) lb.clusterInfo.nodePools d.clusterInfo.nodePools
      ∧ CoversKind (·.isStatic) d.clusterInfo.nodePools lb.clusterInfo.nodePools
  roleTypes : ∀ lb ∈ current.loadBalancers, ∀ d ∈ desired.loadBalancers, lb.id = d.id →
    SameRoleTypes lb.roles d.roles
  lbTemplates : ∀ lb ∈ current.loadBalancers, ∀ d ∈ desired.loadBalancers, lb.id = d.id →
    AgreeOn SameTemplates lb.clusterInfo.nodePools d.clusterInfo.nodePools
      ∨ CanReplace entropy current lb.clusterInfo.nodePools

theorem visible_of_agrees {entropy : Entropy} {current desired : Clusters}
    (h : Agrees current desired) : Visible entropy current desired where
  proxy k hk d hd hused _ := (h.k8s k hk d hd).proxy.endpoint hused
  k8sTemplates k hk d hd := .inl (h.k8s k hk d hd).templates
  staticNodePools lb hlb d hd hid :=
    have hsame := (h.loadBalancers lb hlb d hd hid).nodePools
    ⟨(coversNodePools_iff.mp hsame.1).2, (coversNodePools_iff.mp hsame.2).2⟩
  roleTypes lb hlb d hd hid := (h.loadBalancers lb hlb d hd hid).roleTypes
  lbTemplates lb hlb d hd hid := .inl (h.loadBalancers lb hlb d hd hid).templates

theorem visible_self {entropy : Entropy} {c : Clusters} (h : Clusters.Named c) :
    Visible entropy c c := by
  have htemplates : ∀ nps : List NodePool, (nps.map (·.name)).Nodup →
      AgreeOn SameTemplates nps nps := by
    intro nps hnames np hnp o ho hname cd dd hcd hdd
    rw [List.inj_on_of_nodup_map hnames hnp ho hname, hdd] at hcd
    cases hcd
    rfl
  refine ⟨fun k hk d hd _ _ => ?_, fun k hk d hd => .inl ?_, fun lb hlb d hd hid => ?_,
    fun lb hlb d hd hid r hr o ho hname => ?_, fun lb hlb d hd hid => .inl ?_⟩
  · rw [Option.mem_unique hk hd]
  · rw [Option.mem_unique hk hd]
    exact htemplates _ (h.nodePools d hd)
  · rw [List.inj_on_of_nodup_map h.ids hlb hd hid]
    exact ⟨fun o ho hp => ⟨o, ho, hp, rfl, List.Subset.refl _⟩,
      fun o ho hp => ⟨o, ho, hp, rfl, List.Subset.refl _⟩⟩
  · rw [List.inj_on_of_nodup_map h.ids hlb hd hid] at hr
    rw [List.inj_on_of_nodup_map (h.roles d hd) hr ho hname]
  · rw [List.inj_on_of_nodup_map h.ids hlb hd hid]
    exact htemplates _ (h.lbNodePools d hd)

section

variable {ord : MapOrder} {entropy : Entropy} {id : TaskId} {hc : HealthCheckStatus}
  {d : DiffResult} {current desired : Clusters}

theorem k8sAgrees_of_no_task {k dk : K8scluster} (hk : current.k8s = some k)
    (hdk : desired.k8s = some dk) (hcurrent : Clusters.Named current)
    (hdesired : Clusters.Named desired) (hvisible : Visible entropy current desired)
    {r : KubernetesDiffResult} (hdiff : KubernetesDiffered ord k dk r)
    (hmods : kubernetesModifications ord id ⟨hc, r, current, desired⟩ = .ok none)
    (hdels : kubernetesDeletions ord id ⟨hc, r, current, desired⟩ = .ok none)
    (hlow : kubernetesLowPriority ord entropy id ⟨hc, r, current, desired⟩ = .ok none) :
    K8sAgrees k dk := by
  have hnames := hcurrent.nodePools k hk
  have hdnames := hdesired.nodePools dk hdk
  have hroll : Replaceable entropy current none r.rollingUpdates := by
    intro np tpl htpl
    obtain hsame | hreplace := hvisible.k8sTemplates k hk dk hdk
    · have hempty := GoMap.isEmpty_iff_getElem?.mp (rollingUpdates_isEmpty.mpr hsame) np
      rw [hdiff.rollingUpdates, hempty] at htpl
      cases htpl
    · exact createNodePoolForRollingUpdate_k8s_not_fails hk hreplace
  obtain ⟨⟨hdadd, hdpadd⟩, hsadd, hspadd⟩ :=
    kubernetesModifications_eq_none hk hdk hdiff.dynamic hdiff.static hnames hdnames hmods
  obtain ⟨⟨hddel, hdpdel⟩, ⟨hsdel, hspdel⟩, _⟩ := kubernetesDeletions_eq_none hdels
  obtain ⟨hversion, hproxy, hlabels, hauto, hfixed, hrolling⟩ :=
    kubernetesLowPriority_eq_none hlow hroll
  dsimp only at *
  have hdynamic : (dynamicDiff k.clusterInfo.nodePools dk.clusterInfo.nodePools).isEmpty = true := by
    rw [← hdiff.dynamic, NodePoolsDiffResult.isEmpty, hddel, hdpdel, hdadd, hdpadd]
    rfl
  have hstatic : (staticDiff k.clusterInfo.nodePools dk.clusterInfo.nodePools).isEmpty = true := by
    rw [← hdiff.static, NodePoolsDiffResult.isEmpty, hsdel, hspdel, hsadd, hspadd]
    rfl
  rw [hdiff.proxy, proxyDiff_noChange] at hproxy
  refine ⟨(sameNodePools_iff hnames hdnames).mpr ⟨hdynamic, hstatic⟩, ?_, ?_, ?_, ?_,
    ⟨hproxy.1, fun hused => ?_, hproxy.2⟩⟩
  · simpa [hdiff.version] using hversion
  · intro np hnp o ho hname
    rw [hdiff.labelsTaintsAnnotations, labelsTaintsAnnotationsDiff_isEmpty] at hlabels
    exact hlabels np hnp o ((List.find?_key_eq_some hdnames).mpr ⟨ho, hname.symm⟩)
  · exact autoscaler_isEmpty.mp ⟨hdiff.changedToAutoscaled ▸ hauto, hdiff.changedToFixed ▸ hfixed⟩
  · exact rollingUpdates_isEmpty.mp (hdiff.rollingUpdates ▸ hrolling)
  · exact hvisible.proxy k hk dk hdk hused (hproxy.1 ▸ hused)

-- The static nodepools are missing here: their difference is not looked at.
theorem loadBalancer_settled {lb dlb : LBcluster} {i j : Nat}
    (hids : (current.loadBalancers.map (·.id)).Nodup)
    (hdids : (desired.loadBalancers.map (·.id)).Nodup)
    (hi : current.loadBalancers[i]? = some lb) (hj : desired.loadBalancers[j]? = some dlb)
    (hid : lb.id = dlb.id)
    (hsettled : ∀ (k : String) (m : ModifiedLoadBalancer),
      (loadBalancersDiff current.loadBalancers desired.loadBalancers).modified[k]? = some m →
      NodesSettled m ∧ RolesSettled m ∧ SettingsSettled m) :
    dnsChanged lb.dns dlb.dns = false ∧ (rolesDiff lb.roles dlb.roles).isEmpty = true
      ∧ (dynamicDiff lb.clusterInfo.nodePools dlb.clusterInfo.nodePools).isEmpty = true
      ∧ (rollingUpdates lb.clusterInfo.nodePools dlb.clusterInfo.nodePools).isEmpty = true := by
  obtain hsame | ⟨m, hm, hdiff⟩ := unchanged_or_modified hids hdids hi hj hid
  · exact ⟨hsame.dns, hsame.roles, hsame.dynamic, hsame.rollingUpdate⟩
  · obtain ⟨hnodes, hroles, hsettings⟩ := hsettled lb.id m hm
    refine ⟨hdiff.dns ▸ hnodes.dns, ?_, hdiff.dynamicDiff_isEmpty hnodes.dynamic,
      hdiff.rollingUpdate ▸ hsettings.rollingUpdate⟩
    rw [← hdiff.roles, RolesDiff.isEmpty, hroles.added, hroles.deleted,
      hsettings.internalSettingsChanged, hsettings.externalSettingsChanged,
      hroles.targetPoolsAdded, hroles.targetPoolsDeleted]
    rfl

theorem replaceable_of_visible (hcurrent : Clusters.Named current)
    (hdesired : Clusters.Named desired) (hvisible : Visible entropy current desired) {k : String}
    {m : ModifiedLoadBalancer}
    (hm : (loadBalancersDiff current.loadBalancers desired.loadBalancers).modified[k]? = some m) :
    Replaceable entropy current (some (ModifiedLoadBalancer.cid m k)) m.rollingUpdate := by
  obtain ⟨i, j, lb, dlb, hi, rfl, hj, hid, hm⟩ :=
    (loadBalancersDiff_modified hcurrent.ids hdesired.ids).mp hm
  have hdiff := modifiedLoadBalancer_eq_some hm
  intro np tpl htpl
  obtain hsame | hreplace := hvisible.lbTemplates lb (List.mem_of_getElem? hi) dlb
    (List.mem_of_getElem? hj) hid.symm
  · have hempty := GoMap.isEmpty_iff_getElem?.mp (rollingUpdates_isEmpty.mpr hsame) np
    rw [hdiff.rollingUpdate, hempty] at htpl
    cases htpl
  · refine createNodePoolForRollingUpdate_lb_not_fails hcurrent.ids ?_ hreplace
    rw [← hi, ← hdiff.currentIdx]
    rfl

theorem lbAgrees_of_no_task (hcurrent : Clusters.Named current) (hdesired : Clusters.Named desired)
    (hvisible : Visible entropy current desired)
    (hsettled : ∀ (k : String) (m : ModifiedLoadBalancer),
      (loadBalancersDiff current.loadBalancers desired.loadBalancers).modified[k]? = some m →
      NodesSettled m ∧ RolesSettled m ∧ SettingsSettled m)
    {lb dlb : LBcluster} (hlb : lb ∈ current.loadBalancers) (hd : dlb ∈ desired.loadBalancers)
    (hid : lb.id = dlb.id) : LbAgrees lb dlb := by
  obtain ⟨i, hi⟩ := List.mem_iff_getElem?.mp hlb
  obtain ⟨j, hj⟩ := List.mem_iff_getElem?.mp hd
  obtain ⟨hdns, hroles, hdynamic, hrolling⟩ :=
    loadBalancer_settled hcurrent.ids hdesired.ids hi hj hid hsettled
  have hnames := hcurrent.lbNodePools lb hlb
  have hdnames := hdesired.lbNodePools dlb hd
  have hstatic : (staticDiff lb.clusterInfo.nodePools dlb.clusterInfo.nodePools).isEmpty = true :=
    (nodePoolsDiff_isEmpty hnames hdnames).mpr (hvisible.staticNodePools lb hlb dlb hd hid)
  exact ⟨(sameNodePools_iff hnames hdnames).mpr ⟨hdynamic, hstatic⟩,
    rollingUpdates_isEmpty.mp hrolling, dnsChanged_eq_false.mp hdns,
    (rolesDiff_isEmpty (hdesired.roles dlb hd)).mp hroles, hvisible.roleTypes lb hlb dlb hd hid⟩

theorem agrees_of_no_task {k dk : K8scluster} (hk : current.k8s = some k)
    (hdk : desired.k8s = some dk) (hcurrent : Clusters.Named current)
    (hdesired : Clusters.Named desired) (hvisible : Visible entropy current desired)
    (hdiff : diff ord current desired = .ok d)
    (hnone : handleUpdate ord entropy id hc d current desired = .ok none) :
    Agrees current desired := by
  obtain ⟨hkdiff, hlbdiff⟩ := diff_eq_ok hk hdk hdiff
  simp only [handleUpdate, hlbdiff, Outcome.orElse_eq_none] at hnone
  obtain ⟨hpre, hmods, hpost, hdels, hlblow, hlow, _⟩ := hnone
  obtain ⟨hadded, hdeleted, hroles⟩ := postKubernetesDiff_eq_none hpost
  have hsettled : ∀ (k : String) (m : ModifiedLoadBalancer),
      (loadBalancersDiff current.loadBalancers desired.loadBalancers).modified[k]? = some m →
      NodesSettled m ∧ RolesSettled m ∧ SettingsSettled m := by
    intro lb m hm
    unfold preKubernetesDiff at hpre
    rw [Outcome.orElse_eq_none] at hpre
    have hnodes := preKubernetesDiff.modifications_eq_none hpre.2 (lb, m)
      ((MapOrder.mem_range ord).mpr hm)
    have hsettings := loadBalancersLowPriority_eq_none hlblow
      (fun _ _ => replaceable_of_visible hcurrent hdesired hvisible) lb m hm
    exact ⟨hnodes, hroles lb m hm, hsettings⟩
  refine ⟨fun k' hk' dk' hdk' => ?_,
    fun _ => ⟨(loadBalancersDiff_deleted_eq_nil.mp hdeleted ·),
      (loadBalancersDiff_added_eq_nil.mp hadded ·)⟩,
    fun lb hlb dlb hdlb hid => lbAgrees_of_no_task hcurrent hdesired hvisible hsettled hlb hdlb hid⟩
  rw [hk] at hk'
  rw [hdk] at hdk'
  cases hk'
  cases hdk'
  exact k8sAgrees_of_no_task hk hdk hcurrent hdesired hvisible hkdiff hmods hdels hlow

/--
A cluster that nothing is scheduled for has the desired state, as far as its differences are seen.
-/
theorem no_task_iff_agrees {k dk : K8scluster} (hk : current.k8s = some k)
    (hdk : desired.k8s = some dk) (hcurrent : Clusters.Named current)
    (hdesired : Clusters.Named desired) (hdiff : diff ord current desired = .ok d)
    (hnone : handleUpdate ord entropy id hc d current desired = .ok none) :
    Agrees current desired ↔ Visible entropy current desired :=
  ⟨visible_of_agrees,
    fun hvisible => agrees_of_no_task hk hdk hcurrent hdesired hvisible hdiff hnone⟩

end

namespace Demo

namespace Mixed

def healthy : HealthCheckStatus := ⟨false, ∅, false, false⟩

def entropy : Entropy := ⟨["abcdefg"], some ("public", "private")⟩

theorem named_clusters (n m : Nat) : Clusters.Named (clusters [machines n, owned m]) where
  nodePools k hk := by
    cases hk
    exact List.nodup_singleton _
  ids := List.nodup_singleton _
  lbNodePools := List.forall_mem_singleton.mpr (show ["machines-asdfghj", "owned"].Nodup by decide)
  roles := List.forall_mem_singleton.mpr (List.nodup_singleton _)

end Mixed

end Demo

theorem no_task_iff_agrees_demo :
    Agrees (Demo.Mixed.clusters [Demo.Mixed.machines 2, Demo.Mixed.owned 1])
      (Demo.Mixed.clusters [Demo.Mixed.machines 2, Demo.Mixed.owned 1]) := by
  have hrun : Outcome.passes (diff .ascending
        (Demo.Mixed.clusters [Demo.Mixed.machines 2, Demo.Mixed.owned 1])
        (Demo.Mixed.clusters [Demo.Mixed.machines 2, Demo.Mixed.owned 1])) (fun d =>
      decide (handleUpdate .ascending Demo.Mixed.entropy 0 Demo.Mixed.healthy d
        (Demo.Mixed.clusters [Demo.Mixed.machines 2, Demo.Mixed.owned 1])
        (Demo.Mixed.clusters [Demo.Mixed.machines 2, Demo.Mixed.owned 1]) = .ok none)) = true := by
    decide +kernel
  obtain ⟨d, hdiff, hrun⟩ := Outcome.passes_iff.mp hrun
  have hnamed := Demo.Mixed.named_clusters 2 1
  exact (no_task_iff_agrees rfl rfl hnamed hnamed hdiff (decide_eq_true_eq.mp hrun)).mpr
    (visible_self hnamed)

theorem no_task_for_static_load_balancer_node :
    ∃ current desired d, Clusters.Named current ∧ Clusters.Named desired
      ∧ (∀ k ∈ current.k8s, ∀ dk ∈ desired.k8s, k.id = dk.id)
      ∧ diff .ascending current desired = .ok d
      ∧ handleUpdate .ascending Demo.Mixed.entropy 0 Demo.Mixed.healthy d current desired = .ok none
      ∧ ¬ Agrees current desired := by
  have hrun : Outcome.passes (diff .ascending
        (Demo.Mixed.clusters [Demo.Mixed.machines 2, Demo.Mixed.owned 1])
        (Demo.Mixed.clusters [Demo.Mixed.machines 2, Demo.Mixed.owned 2])) (fun d =>
      decide (handleUpdate .ascending Demo.Mixed.entropy 0 Demo.Mixed.healthy d
        (Demo.Mixed.clusters [Demo.Mixed.machines 2, Demo.Mixed.owned 1])
        (Demo.Mixed.clusters [Demo.Mixed.machines 2, Demo.Mixed.owned 2]) = .ok none)) = true := by
    decide +kernel
  obtain ⟨d, hdiff, hrun⟩ := Outcome.passes_iff.mp hrun
  refine ⟨_, _, d, Demo.Mixed.named_clusters 2 1, Demo.Mixed.named_clusters 2 2, ?_, hdiff,
    decide_eq_true_eq.mp hrun, fun hagrees => ?_⟩
  · intro k hk dk hdk
    cases hk
    cases hdk
    rfl
  · have hsame := (hagrees.loadBalancers _ (List.mem_singleton_self _) _
      (List.mem_singleton_self _) rfl).nodePools.1
    obtain ⟨np, hnp, hcov⟩ := hsame (Demo.Mixed.owned 2)
      (List.mem_cons_of_mem _ List.mem_cons_self)
    have hmissing : ∀ np ∈ [Demo.Mixed.machines 2, Demo.Mixed.owned 1],
        np.name = "owned" → "owned-02" ∉ np.nodes.map (·.name) := by
      decide
    exact hmissing np hnp hcov.name
      (hcov.nodes (List.mem_cons_of_mem _ (List.mem_singleton_self _)))

end Manager

end Claudie
