import Claudie.Manager.Lemmas.Agreement
import Claudie.Manager.Lemmas.Slots
import Claudie.Manager.Surplus

/-!
Whether the surplus nodes of an autoscaled nodepool are taken away. `fixupAutoscalerCounts` marks
them in the desired state only, and a mark counts as a pending deletion if both states have it.
-/

namespace Claudie

namespace Manager

def Reported (diff : KubernetesDiffResult) (np : NodePool) : Prop :=
  ∃ n ∈ np.nodes, n.name ∈ diff.dynamic.deleted.getD np.name []
    ∨ n.name ∈ diff.dynamic.partiallyDeleted.getD np.name []
    ∨ n.name ∈ diff.pendingDynamicDeletions.getD np.name []

instance (diff : KubernetesDiffResult) (np : NodePool) : Decidable (Reported diff np) :=
  List.decidableBEx _ np.nodes

theorem mem_markedNodes {c np : NodePool} {name : String} :
    name ∈ markedNodes c np ↔ ∃ cn ∈ c.nodes, ∃ n ∈ np.nodes, cn.name = name ∧ n.name = name
      ∧ cn.status = .markedForDeletion ∧ n.status = .markedForDeletion := by
  unfold markedNodes
  simp only [List.mem_flatMap, List.mem_map, List.mem_filter, Bool.and_eq_true, decide_eq_true_eq]
  constructor
  · rintro ⟨cn, hcn, n, ⟨hn, ⟨hname, hstatus⟩, hmarked⟩, rfl⟩
    exact ⟨cn, hcn, n, hn, hname, rfl, hmarked, hstatus ▸ hmarked⟩
  · rintro ⟨cn, hcn, n, hn, rfl, hname, hmarked, hmarked'⟩
    exact ⟨cn, hcn, n, ⟨hn, ⟨hname.symm, hmarked.trans hmarked'.symm⟩, hmarked⟩, hname⟩

theorem reported_iff {ord : MapOrder} {old desired : K8scluster} {diff : KubernetesDiffResult}
    {c np : NodePool} (hdiff : kubernetesDiff ord old desired = .ok diff)
    (hold : (old.clusterInfo.nodePools.map (·.name)).Nodup)
    (hdesired : (desired.clusterInfo.nodePools.map (·.name)).Nodup)
    (hc : c ∈ old.clusterInfo.nodePools) (hnp : np ∈ desired.clusterInfo.nodePools)
    (hname : np.name = c.name) (hcdyn : c.isDynamic = true) (hdyn : np.isDynamic = true) :
    Reported diff c ↔ (∃ n ∈ c.nodes, n.name ∉ np.nodes.map (·.name))
      ∨ ∃ cn ∈ c.nodes, ∃ n ∈ np.nodes, n.name = cn.name ∧ cn.status = .markedForDeletion
        ∧ n.status = .markedForDeletion := by
  have hdiffered := kubernetesDiff_eq_ok hdiff
  have hview : (nodePoolsViewOf (·.isDynamic) old.clusterInfo.nodePools)[c.name]?
      = some (c.nodes.map (·.name)) :=
    (nodePoolsViewOf_eq_some hold).mpr ⟨c, hc, rfl, hcdyn, rfl⟩
  have hview' : (nodePoolsViewOf (·.isDynamic) desired.clusterInfo.nodePools)[c.name]?
      = some (np.nodes.map (·.name)) :=
    (nodePoolsViewOf_eq_some hdesired).mpr ⟨np, hnp, hname, hdyn, rfl⟩
  have hdeleted : diff.dynamic.deleted.getD c.name [] = [] := by
    rw [hdiffered.dynamic, dynamicDiff, Std.ExtTreeMap.getD_eq_getD_getElem?,
      nodePoolsDiff_deleted, hview']
    rfl
  have hpartially : diff.dynamic.partiallyDeleted.getD c.name []
      = (c.nodes.map (·.name)).filter (fun n => !(np.nodes.map (·.name)).contains n) := by
    rw [hdiffered.dynamic, dynamicDiff, Std.ExtTreeMap.getD_eq_getD_getElem?,
      nodePoolsDiff_partiallyDeleted, hview, hview', Option.bind_some, Option.bind_some,
      missingFrom_getD]
  have hfind : NodePools.findByName c.name old.clusterInfo.nodePools = some c :=
    (List.find?_key_eq_some hold).mpr ⟨hc, rfl⟩
  have hfind' : NodePools.findByName c.name desired.clusterInfo.nodePools = some np :=
    (List.find?_key_eq_some hdesired).mpr ⟨hnp, hname⟩
  have hpending : diff.pendingDynamicDeletions.getD c.name [] = markedNodes c np := by
    rw [hdiffered.pendingDynamicDeletions, Std.ExtTreeMap.getD_eq_getD_getElem?,
      pendingDeletions_getElem? hold hdesired, hfind, hfind', Option.bind_some, Option.bind_some]
    split
    next => rfl
    next hnone =>
      rw [not_and, not_not] at hnone
      exact (hnone hdyn).symm
  unfold Reported
  rw [hdeleted, hpartially, hpending]
  constructor
  · rintro ⟨n, hn, hmem | hmem | hmem⟩
    · cases hmem
    · obtain ⟨-, hgone⟩ := List.mem_filter.mp hmem
      exact .inl ⟨n, hn, by simpa using hgone⟩
    · obtain ⟨cn, hcn, n', hn', hcname, hname', hmarked⟩ := mem_markedNodes.mp hmem
      exact .inr ⟨cn, hcn, n', hn', hname'.trans hcname.symm, hmarked⟩
  · rintro (⟨n, hn, hgone⟩ | ⟨cn, hcn, n, hn, hname', hmarked⟩)
    · refine ⟨n, hn, .inr (.inl (List.mem_filter.mpr ⟨List.mem_map_of_mem hn, ?_⟩))⟩
      simpa using hgone
    · exact ⟨cn, hcn, .inr (.inr (mem_markedNodes.mpr ⟨cn, hcn, n, hn, rfl, hname', hmarked⟩))⟩

section Nodes

theorem transferDynamic_count {cdyn dyn : DynamicNodePool} {conf : AutoscalerConf}
    (h : (transferDynamic cdyn dyn).autoscalerConfig = some conf) :
    (transferDynamic cdyn dyn).count
      = clamp conf.min conf.max (max cdyn.count conf.targetSize) := by
  unfold transferDynamic transferAutoscaler at h ⊢
  dsimp only at h ⊢
  cases hdyn : dyn.autoscalerConfig with
  | none =>
    rw [hdyn] at h
    cases h
  | some conf₀ =>
    rw [hdyn] at h
    cases h
    rfl

structure Rebuilt (c : NodePool) (cdyn : DynamicNodePool) (np : NodePool) (dyn : DynamicNodePool)
    (conf : AutoscalerConf) : Prop where
  count : dyn.count = clamp conf.min conf.max (max cdyn.count conf.targetSize)
  nonneg : 0 ≤ dyn.count
  length : np.nodes.length = dyn.count.toNat
  -- if the nodepool does not shrink, then its nodes are those that exist, some of them newly marked.
  nodes : cdyn.count ≤ dyn.count → ∃ new,
    np.nodes = markExcess (dyn.count - conf.targetSize) c.nodes ++ new

theorem length_markExcess (toBeMarked : Int) (nodes : List Node) :
    (markExcess toBeMarked nodes).length = nodes.length :=
  (markExcess_forall₂ toBeMarked nodes).length_eq.symm

theorem rebuilt_of_history {current : Clusters} {k8s : K8scluster} {c np₀ np : NodePool}
    {cdyn dyn : DynamicNodePool} {conf : AutoscalerConf} (hk8s : current.k8s = some k8s)
    (hnames : (k8s.clusterInfo.nodePools.map (·.name)).Nodup)
    (hc : c ∈ k8s.clusterInfo.nodePools) (hcdyn : c.type = .dynamic cdyn)
    (hcount : cdyn.count = c.nodes.length) (hname : np.name = c.name)
    (hdyn : np.type = .dynamic dyn) (hconf : dyn.autoscalerConfig = some conf)
    (h : KubernetesHistory current np₀ np) : Rebuilt c cdyn np dyn conf := by
  have hdynamic : np₀.isDynamic = true := by
    rw [← h.1, NodePool.isDynamic, NodePool.dynamic?_eq_some.mpr hdyn]
    rfl
  obtain ⟨named, reused, hnamed, hreused, hcompleted⟩ := h.2 hdynamic
  obtain ⟨dyn₀, hdyn₀⟩ : ∃ dyn₀, named.type = .dynamic dyn₀ := by
    obtain ⟨dyn₀, hdyn₀⟩ := Option.isSome_iff_exists.mp hdynamic
    obtain ⟨name, rfl, -⟩ := hnamed
    exact ⟨dyn₀, NodePool.dynamic?_eq_some.mp hdyn₀⟩
  have hdynReused : ∃ dyn₁, reused.type = .dynamic dyn₁ := by
    have hisSome := hreused.isDynamic
    rw [NodePool.isDynamic, NodePool.isDynamic, NodePool.dynamic?_eq_some.mpr hdyn₀] at hisSome
    obtain ⟨dyn₁, hdyn₁⟩ := Option.isSome_iff_exists.mp hisSome
    exact ⟨dyn₁, NodePool.dynamic?_eq_some.mp hdyn₁⟩
  obtain ⟨dyn₁, hdyn₁⟩ := hdynReused
  obtain ⟨cidr, publicKey, privateKey, clusterID, new, hnew, rfl⟩ := hcompleted.of_dynamic hdyn₁
  obtain ⟨hnonneg, -, rfl⟩ := hreused.of_dynamic hk8s hnames hc hcdyn
    (hname.symm.trans hreused.name) hdyn₀
  cases hdyn
  rw [fixupAutoscalerCount_nodes] at hdyn₁
  cases hdyn₁
  have hmarked : fixupAutoscalerCount (transferredFrom c named cdyn dyn₀) = _ :=
    fixupAutoscalerCount_eq rfl hconf
  have hnewLength := populateNames_length hnew
  rw [hmarked] at hnewLength ⊢
  dsimp only at hnewLength ⊢
  rw [length_markExcess] at hnewLength
  have hcount₁ := transferDynamic_count hconf
  refine ⟨hcount₁, by dsimp only; omega, ?_, fun hle => ⟨new, ?_⟩⟩
  · have hlength := length_transferredFrom c named cdyn dyn₀
    rw [List.length_append, length_markExcess, hnewLength]
    dsimp only
    omega
  · rw [nodes_transferredFrom named hcount hle]

theorem clamp_lt_iff {min max x y : Int} (hy : y < clamp min max (Max.max x y)) :
    clamp min max (Max.max x y) < x ↔ min ≤ x ∧ max < x := by
  unfold clamp at hy ⊢
  split at hy
  · omega
  · split at hy <;> omega

end Nodes

theorem surplus_reported_iff (fuel : Nat) (draws : Draws) (ord ord' : MapOrder)
    (m : Claudie.Manifest) (clusters : GoMap ClusterState) (result : GoMap DesiredCluster)
    (name : String) (k8s : K8scluster) (d : DesiredCluster) (diff : KubernetesDiffResult)
    (c np : NodePool) (cdyn dyn : DynamicNodePool) (conf : AutoscalerConf)
    (hrun : (desiredState fuel draws ord m clusters).run = some (.ok result))
    (hd : result[name]? = some d) (hk8s : (currentOf clusters name).k8s = some k8s)
    (hdiff : kubernetesDiff ord' k8s d.k8s = .ok diff)
    (hnames : (k8s.clusterInfo.nodePools.map (·.name)).Nodup)
    (hnames' : (d.k8s.clusterInfo.nodePools.map (·.name)).Nodup)
    (hc : c ∈ k8s.clusterInfo.nodePools) (hcdyn : c.type = .dynamic cdyn)
    (hcount : cdyn.count = c.nodes.length) (hnodes : (c.nodes.map (·.name)).Nodup)
    (hnp : np ∈ d.k8s.clusterInfo.nodePools) (hname : np.name = c.name)
    (hdyn : np.type = .dynamic dyn) (hconf : dyn.autoscalerConfig = some conf)
    (hsurplus : conf.targetSize < dyn.count) :
    Reported diff c ↔ (∃ n ∈ c.nodes, n.status = .markedForDeletion)
      ∨ conf.min ≤ c.nodes.length ∧ conf.max < c.nodes.length := by
  obtain ⟨skeleton, -, hentries⟩ := desiredState_eq_ok hrun
  obtain ⟨d₀, hd₀⟩ : ∃ d₀, skeleton[name]? = some d₀ := by
    cases hd₀ : skeleton[name]? with
    | none =>
      rw [(hentries name).2 hd₀] at hd
      cases hd
    | some d₀ => exact ⟨d₀, rfl⟩
  obtain ⟨d₁, d', hd', hreused, hpopulated⟩ := (hentries name).1 d₀ hd₀
  rw [hd] at hd'
  cases hd'
  obtain ⟨np₀, -, hhistory⟩ :=
    List.exists_mem_of_forall₂ (kubernetes_history hreused hpopulated) hnp
  obtain ⟨hclamp, hnonneg, hlength, hkept⟩ :=
    rebuilt_of_history hk8s hnames hc hcdyn hcount hname hdyn hconf hhistory
  have hisDynamic : ∀ {x : NodePool} {xdyn : DynamicNodePool}, x.type = .dynamic xdyn →
      x.isDynamic = true := by
    intro x xdyn hx
    rw [NodePool.isDynamic, NodePool.dynamic?_eq_some.mpr hx]
    rfl
  have hshrinks : dyn.count < cdyn.count ↔ conf.min ≤ cdyn.count ∧ conf.max < cdyn.count := by
    rw [hclamp] at hsurplus ⊢
    exact clamp_lt_iff hsurplus
  rw [reported_iff hdiff hnames hnames' hc hnp hname (hisDynamic hcdyn) (hisDynamic hdyn), ← hcount,
    ← hshrinks]
  by_cases hlt : dyn.count < cdyn.count
  · -- there are fewer nodes than before, so some of them are gone.
    refine iff_of_true (.inl ?_) (.inr hlt)
    by_contra hnone
    have hsubset : c.nodes.map (·.name) ⊆ np.nodes.map (·.name) := by
      intro x hx
      obtain ⟨n, hn, rfl⟩ := List.mem_map.mp hx
      by_contra hgone
      exact hnone ⟨n, hn, hgone⟩
    have hle := hnodes.length_le_of_subset hsubset
    rw [List.length_map, List.length_map, hlength] at hle
    omega
  · obtain ⟨new, hnew⟩ := hkept (by omega)
    have hforall := markExcess_forall₂ (dyn.count - conf.targetSize) c.nodes
    constructor
    · rintro (⟨n, hn, hgone⟩ | ⟨cn, hcn, n, hn, -, hmarked, -⟩)
      · refine absurd ?_ hgone
        obtain ⟨n', hn', hmarks⟩ := List.exists_mem_of_forall₂ hforall.flip hn
        rw [hnew]
        refine List.mem_map.mpr ⟨n', List.mem_append_left _ hn', ?_⟩
        rcases hmarks with rfl | rfl <;> rfl
      · exact .inl ⟨cn, hcn, hmarked⟩
    · rintro (⟨cn, hcn, hmarked⟩ | hlt')
      · obtain ⟨n', hn', hmarks⟩ := List.exists_mem_of_forall₂ hforall.flip hcn
        refine .inr ⟨cn, hcn, n', by rw [hnew]; exact List.mem_append_left _ hn', ?_⟩
        rcases hmarks with rfl | rfl
        · exact ⟨rfl, hmarked, hmarked⟩
        · exact ⟨rfl, hmarked, rfl⟩
      · exact absurd hlt' hlt

namespace Demo.SurplusReported

def manifest : Claudie.Manifest where
  name := "config"
  providers := [⟨"hetzner-1", .hetzner "token", .ok Surplus.provider.templates⟩]
  nodePools :=
    { dynamic :=
        [{ name := "np", providerSpec := ⟨"hetzner-1", "fsn1", "", ""⟩, count := 0,
           serverType := "cpx22", image := "ubuntu-24.04", storageDiskSize := none,
           autoscalerConfig := ⟨1, 5⟩, labels := ∅, annotations := ∅, taints := [],
           machineSpec := none, spot := false }]
      static := [] }
  kubernetes := [⟨"k8s", "v1.32.0", "192.168.2.0/24", ⟨["np"], []⟩, none⟩]
  loadBalancer := ⟨[], []⟩

def hash : Hash := ⟨"abc1234", by decide +kernel⟩

def draws : Draws :=
  ⟨fun _ => hash, fun _ => hash, fun _ => ⟨fun _ => hash, fun _ => "", fun _ _ => none⟩⟩

def nodePool (first : NodeStatus) : NodePool :=
  { Surplus.nodePool first with
    type := .dynamic { Surplus.dynamic 2 with publicKey := "key", cidr := "10.0.0.0/24" }
    isControl := true }

def k8s (first : NodeStatus) : K8scluster :=
  { clusterInfo := { name := "k8s", hash := "abc1234", nodePools := [nodePool first] }
    network := "192.168.2.0/24", kubeconfig := "", kubernetes := "v1.32.0"
    installationProxy := ⟨"default", "", ""⟩ }

def clusters (first : NodeStatus) : GoMap ClusterState :=
  Std.ExtTreeMap.insert ∅ "k8s" ⟨⟨some (k8s first), []⟩, ⟨.done, "", [], 0⟩, [], ⟨∅⟩⟩

end Demo.SurplusReported

theorem surplus_reported_of_marked_node :
    ∃ result d diff, (desiredState 1 Demo.SurplusReported.draws .ascending
        Demo.SurplusReported.manifest (Demo.SurplusReported.clusters .markedForDeletion)).run
          = some (.ok result)
      ∧ result["k8s"]? = some d
      ∧ kubernetesDiff .ascending (Demo.SurplusReported.k8s .markedForDeletion) d.k8s = .ok diff
      ∧ Reported diff (Demo.SurplusReported.nodePool .markedForDeletion) := by
  refine ⟨_, _, _, rfl, rfl, rfl, (surplus_reported_iff 1 Demo.SurplusReported.draws .ascending
    .ascending Demo.SurplusReported.manifest (Demo.SurplusReported.clusters .markedForDeletion) _
    "k8s" (Demo.SurplusReported.k8s .markedForDeletion) _ _
    (Demo.SurplusReported.nodePool .markedForDeletion) _ _ _ _ rfl rfl rfl rfl
    (by decide) (by decide) List.mem_cons_self rfl rfl (by decide)
    List.mem_cons_self rfl rfl rfl (by decide)).mpr (.inl ?_)⟩
  exact ⟨_, List.mem_cons_self, rfl⟩

theorem surplus_not_reported :
    ∃ result d diff np dyn conf, (desiredState 1 Demo.SurplusReported.draws .ascending
        Demo.SurplusReported.manifest (Demo.SurplusReported.clusters .joined)).run
          = some (.ok result)
      ∧ result["k8s"]? = some d
      ∧ kubernetesDiff .ascending (Demo.SurplusReported.k8s .joined) d.k8s = .ok diff
      ∧ np ∈ d.k8s.clusterInfo.nodePools
      ∧ np.name = (Demo.SurplusReported.nodePool .joined).name
      ∧ np.type = .dynamic dyn ∧ dyn.autoscalerConfig = some conf
      ∧ conf.targetSize < dyn.count
      ∧ ¬ Reported diff (Demo.SurplusReported.nodePool .joined) := by
  exact ⟨_, _, _, _, _, _, rfl, rfl, rfl, List.mem_cons_self, rfl, rfl, rfl, by decide,
    by decide +kernel⟩

end Manager

end Claudie
