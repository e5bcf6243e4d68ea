import Claudie.Ansibler.InstallVPN
import Claudie.Lib.Keyed

/-!
The private addresses of the nodes, before and after the installation of the vpn.
-/

namespace Claudie

namespace Clusters

variable {c : Clusters} {ref ref' : NodeRef} {f : Node → Node}

theorem nodePoolsAt_modifyNode {cluster : Option Nat} :
    (c.modifyNode ref f).nodePoolsAt cluster
      = if cluster = ref.cluster then
          (c.nodePoolsAt cluster).modify ref.nodePool
            (fun np => { np with nodes := np.nodes.modify ref.node f })
        else c.nodePoolsAt cluster := by
  obtain ⟨refCluster, nodePool, node⟩ := ref
  cases refCluster with
  | none =>
    cases cluster with
    | none =>
      cases hk8s : c.k8s <;>
        simp [modifyNode, nodePoolsAt, kubernetesNodePools, hk8s, K8scluster.withNodePools]
    | some i => simp [modifyNode, nodePoolsAt]
  | some j =>
    cases cluster with
    | none => simp [modifyNode, nodePoolsAt, kubernetesNodePools]
    | some i =>
      simp only [modifyNode, nodePoolsAt, List.getElem?_modify, Option.some.injEq]
      by_cases hij : j = i
      · subst hij
        cases c.loadBalancers[j]? <;> simp [LBcluster.withNodePools]
      · simp [hij, Ne.symm hij]

theorem node?_modifyNode :
    (c.modifyNode ref f).node? ref' = if ref' = ref then (c.node? ref').map f else c.node? ref' := by
  obtain ⟨cluster, nodePool, node⟩ := ref
  obtain ⟨cluster', nodePool', node'⟩ := ref'
  unfold node?
  rw [nodePoolsAt_modifyNode]
  by_cases hcluster : cluster' = cluster
  · subst hcluster
    by_cases hnodePool : nodePool = nodePool'
    · subst hnodePool
      cases hnp : (c.nodePoolsAt cluster')[nodePool]? with
      | none => simp [hnp]
      | some np =>
        by_cases hnode : node = node'
        · subst hnode
          simp [hnp]
        · simp [hnp, hnode, Ne.symm hnode]
    · simp [hnodePool, Ne.symm hnodePool]
  · simp [hcluster]

end Clusters

namespace Ansibler

def DistinctAddresses (c : Clusters) : Prop :=
  ∀ ref ref' n n', c.node? ref = some n → c.node? ref' = some n' → n.privateIp ≠ "" →
    n.privateIp = n'.privateIp → ref = ref'

def unreachableOf : Task → Option Unreachable
  | .update _ delta => unreachableInfrastructure delta
  | _ => none

-- The public addresses that the task declares unreachable, of the nodepool the node belongs to.
def unreachableEndpoints (c : Clusters) (unreachable : Unreachable) (ref : NodeRef) : List String :=
  match (c.nodePoolsAt ref.cluster)[ref.nodePool]? with
  | none => []
  | some np =>
    match ref.cluster with
    | none => unreachable.kubernetes.getD np.name []
    | some i =>
      match c.loadBalancers[i]? with
      | none => []
      | some lb => (unreachable.loadbalancers.getD lb.id ∅).getD np.name []

structure KeepsAddresses (t : Task) (c' : Clusters) : Prop where
  distinct : DistinctAddresses c'
  assigned : ∀ ref n, t.clusters.node? ref = some n → n.privateIp ≠ "" → c'.node? ref = some n
  reachable : ∀ ref n, c'.node? ref = some n →
    (∀ u ∈ unreachableOf t, n.publicIp ∉ unreachableEndpoints t.clusters u ref) → n.privateIp ≠ ""

def visited (t : Task) : List (NodeRef × Node) :=
  match t.clusters.k8s with
  | none => []
  | some k8s => getAllNodepools k8s t.clusters.loadBalancers (unreachableOf t)

-- In the order of the network there are enough addresses that no visited node has, before the address
-- of a node that is not visited.
def Guarded (t : Task) (network : Netip.Network) : Prop :=
  ∀ ref n, t.clusters.node? ref = some n → ref ∉ (visited t).map (·.1) →
    n.privateIp ∈ network.addresses →
    (visited t).countP (·.2.privateIp = "")
      ≤ (network.addresses.takeWhile (· ≠ n.privateIp)).countP
          (fun ip => !((visited t).map (·.2.privateIp)).contains ip)

section visited

variable {cluster : Option Nat} {nps : List NodePool} {np : NodePool} {ref : NodeRef} {n : Node}
  {unreachable : Option (GoMap (List String))} {i : Nat}

theorem mem_nodepoolNodes (h : (n, i) ∈ nodepoolNodes unreachable np) : np.nodes[i]? = some n := by
  unfold nodepoolNodes at h
  split at h
  next => exact List.mem_zipIdx_iff_getElem?.mp h
  next => exact List.mem_zipIdx_iff_getElem?.mp (List.mem_filter.mp h).1

theorem nodepoolNodes_nodup : ((nodepoolNodes unreachable np).map (·.2)).Nodup := by
  have hnodup := List.nodup_map_snd_zipIdx np.nodes
  unfold nodepoolNodes
  split
  next => exact hnodup
  next => exact hnodup.sublist (List.filter_sublist.map _)

-- Every nodepool is either dynamic or static.
theorem filter_kinds_perm {l : List (NodePool × Nat)} :
    (l.filter (fun (np, _) => np.isDynamic) ++ l.filter (fun (np, _) => np.isStatic)).Perm l := by
  have hstatic : (fun (x : NodePool × Nat) => x.1.isStatic) = (fun x => !x.1.isDynamic) :=
    funext (fun x => x.1.isStatic_eq)
  simp only [hstatic]
  exact List.filter_append_perm _ l

theorem mem_clusterNodes :
    (ref, n) ∈ clusterNodes cluster nps unreachable
      ↔ ref.cluster = cluster
        ∧ ∃ np, nps[ref.nodePool]? = some np ∧ (n, ref.node) ∈ nodepoolNodes unreachable np := by
  obtain ⟨refCluster, nodePool, node⟩ := ref
  unfold clusterNodes
  rw [← List.flatMap_append, List.mem_flatMap]
  constructor
  · rintro ⟨⟨np, i⟩, hnp, hmem⟩
    obtain ⟨⟨n', j⟩, hn', heq⟩ := List.mem_map.mp hmem
    cases heq
    exact ⟨rfl, np, List.mem_zipIdx_iff_getElem?.mp (filter_kinds_perm.mem_iff.mp hnp), hn'⟩
  · rintro ⟨rfl, np, hnp, hn⟩
    exact ⟨(np, nodePool), filter_kinds_perm.mem_iff.mpr (List.mem_zipIdx_iff_getElem?.mpr hnp),
      List.mem_map.mpr ⟨(n, node), hn, rfl⟩⟩

theorem clusterNodes_nodup : ((clusterNodes cluster nps unreachable).map (·.1)).Nodup := by
  unfold clusterNodes
  rw [← List.flatMap_append, List.map_flatMap]
  refine List.nodup_flatMap_of_key (·.2) (·.nodePool) ?_ ?_ ?_
  · exact ((filter_kinds_perm.map _).nodup_iff).mpr (List.nodup_map_snd_zipIdx nps)
  · rintro ⟨np, i⟩ _
    rw [List.map_map]
    have hnodup := @nodepoolNodes_nodup np unreachable
    refine List.Nodup.of_map (·.node) ?_
    rw [List.map_map]
    exact hnodup
  · rintro ⟨np, i⟩ _ ref href
    obtain ⟨⟨ref, n⟩, hmem, rfl⟩ := List.mem_map.mp href
    obtain ⟨⟨n', j⟩, -, heq⟩ := List.mem_map.mp hmem
    cases heq
    rfl

theorem mem_getAllNodepools {k8s : K8scluster} {lbs : List LBcluster} {u : Option Unreachable} :
    (ref, n) ∈ getAllNodepools k8s lbs u
      ↔ (ref.cluster = none ∧ ∃ np, k8s.clusterInfo.nodePools[ref.nodePool]? = some np
          ∧ (n, ref.node) ∈ nodepoolNodes (u.map (·.kubernetes)) np)
        ∨ ∃ i lb np, ref.cluster = some i ∧ lbs[i]? = some lb
          ∧ lb.clusterInfo.nodePools[ref.nodePool]? = some np
          ∧ (n, ref.node) ∈ nodepoolNodes (u.map (fun u => u.loadbalancers.getD lb.id ∅)) np := by
  rw [getAllNodepools, List.mem_append, mem_clusterNodes, List.mem_flatMap]
  refine or_congr Iff.rfl ?_
  constructor
  · rintro ⟨⟨lb, i⟩, hlb, hmem⟩
    obtain ⟨hcluster, np, hnp, hn⟩ := mem_clusterNodes.mp hmem
    exact ⟨i, lb, np, hcluster, List.mem_zipIdx_iff_getElem?.mp hlb, hnp, hn⟩
  · rintro ⟨i, lb, np, hcluster, hlb, hnp, hn⟩
    exact ⟨(lb, i), List.mem_zipIdx_iff_getElem?.mpr hlb,
      mem_clusterNodes.mpr ⟨hcluster, np, hnp, hn⟩⟩

theorem cluster_of_mem_clusterNodes (h : ref ∈ (clusterNodes cluster nps unreachable).map (·.1)) :
    ref.cluster = cluster := by
  obtain ⟨⟨ref, n⟩, hmem, rfl⟩ := List.mem_map.mp h
  exact (mem_clusterNodes.mp hmem).1

theorem getAllNodepools_nodup {k8s : K8scluster} {lbs : List LBcluster} {u : Option Unreachable} :
    ((getAllNodepools k8s lbs u).map (·.1)).Nodup := by
  rw [getAllNodepools, List.map_append, List.map_flatMap, List.nodup_append]
  refine ⟨clusterNodes_nodup, ?_, ?_⟩
  · refine List.nodup_flatMap_of_key (fun x => some x.2) (·.cluster) ?_ ?_ ?_
    · have hnodup := (List.nodup_map_snd_zipIdx lbs).map (fun _ _ => Option.some.inj)
      rwa [List.map_map] at hnodup
    · exact fun _ _ => clusterNodes_nodup
    · exact fun _ _ _ href => cluster_of_mem_clusterNodes href
  · intro ref href ref' href' heq
    obtain ⟨⟨lb, i⟩, -, hmem⟩ := List.mem_flatMap.mp href'
    have hnone := cluster_of_mem_clusterNodes href
    rw [heq, cluster_of_mem_clusterNodes hmem] at hnone
    cases hnone

end visited

section task

variable {t : Task} {ref : NodeRef} {n : Node}

theorem visited_nodup : ((visited t).map (·.1)).Nodup := by
  unfold visited
  split
  next => exact List.nodup_nil
  next => exact getAllNodepools_nodup

theorem node?_of_visited (h : (ref, n) ∈ visited t) : t.clusters.node? ref = some n := by
  unfold visited at h
  split at h
  next => cases h
  next k8s hk8s =>
    unfold Clusters.node?
    obtain ⟨hcluster, np, hnp, hn⟩ | ⟨i, lb, np, hcluster, hlb, hnp, hn⟩ :=
      mem_getAllNodepools.mp h
    · simp [hcluster, Clusters.nodePoolsAt, Clusters.kubernetesNodePools, hk8s, hnp,
        mem_nodepoolNodes hn]
    · simp [hcluster, Clusters.nodePoolsAt, hlb, hnp, mem_nodepoolNodes hn]

theorem mem_nodepoolNodes_of_reachable {u : Option (GoMap (List String))} {np : NodePool} {i : Nat}
    (hn : np.nodes[i]? = some n) (h : ∀ m ∈ u, n.publicIp ∉ m.getD np.name []) :
    (n, i) ∈ nodepoolNodes u np := by
  have hmem : (n, i) ∈ np.nodes.zipIdx := List.mem_zipIdx_iff_getElem?.mpr hn
  cases u with
  | none => exact hmem
  | some m =>
    refine List.mem_filter.mpr ⟨hmem, ?_⟩
    refine List.contains_iff_mem.mpr (List.mem_map.mpr ⟨n, List.mem_filter.mpr ⟨?_, ?_⟩, rfl⟩)
    · exact List.mem_of_getElem? hn
    · simpa using h m rfl

theorem visited_of_reachable (hk8s : t.clusters.k8s.isSome = true)
    (hn : t.clusters.node? ref = some n)
    (h : ∀ u ∈ unreachableOf t, n.publicIp ∉ unreachableEndpoints t.clusters u ref) :
    (ref, n) ∈ visited t := by
  obtain ⟨k8s, hk8s⟩ := Option.isSome_iff_exists.mp hk8s
  obtain ⟨np, hnp, hnode⟩ := Option.bind_eq_some_iff.mp hn
  simp only [visited, hk8s]
  rw [mem_getAllNodepools]
  simp only [unreachableEndpoints, hnp] at h
  cases hcluster : ref.cluster with
  | none =>
    rw [hcluster] at hnp h
    simp only [Clusters.nodePoolsAt, Clusters.kubernetesNodePools, hk8s] at hnp
    refine .inl ⟨rfl, np, hnp, mem_nodepoolNodes_of_reachable hnode ?_⟩
    rintro m hm
    obtain ⟨u, hu, rfl⟩ := Option.map_eq_some_iff.mp hm
    exact h u hu
  | some i =>
    rw [hcluster] at hnp h
    cases hlb : t.clusters.loadBalancers[i]? with
    | none => simp [Clusters.nodePoolsAt, hlb] at hnp
    | some lb =>
      simp only [Clusters.nodePoolsAt, hlb] at hnp h
      refine .inr ⟨i, lb, np, rfl, hlb, hnp, mem_nodepoolNodes_of_reachable hnode ?_⟩
      rintro m hm
      obtain ⟨u, hu, rfl⟩ := Option.map_eq_some_iff.mp hm
      exact h u hu

end task

structure Assigned (t : Task) (network : Netip.Network) (assigned : List (NodeRef × String))
    (c' : Clusters) : Prop where
  handOut : assignPrivateIPs network (visited t) = .ok assigned
  clusters : c' = assigned.foldl (fun c x => setPrivateIP c x.1 x.2) t.clusters

theorem installVPN_eq_update {vpn : VPN} {t : Task} {k8s' : Option K8scluster}
    {lbs' : List LBcluster} {errs : List String}
    (h : installVPN vpn t = .ok (.update k8s' (some lbs'), errs)) :
    ∃ k8s network assigned, t.clusters.k8s = some k8s ∧ vpn.parsePrefix k8s.network = .ok network
      ∧ Assigned t network assigned ⟨k8s', lbs'⟩ := by
  have hinstall : installVPN.install vpn t.clusters (unreachableOf t)
      = .ok (.update k8s' (some lbs'), errs) := by
    cases t with
    | create state => exact h
    | update state delta => exact h
    | delete state => cases h
  obtain ⟨k8s, hk8s, hinstall⟩ := Outcome.bind_eq_ok.mp hinstall
  rw [Outcome.deref_eq_ok] at hk8s
  have hvisited : visited t = getAllNodepools k8s t.clusters.loadBalancers (unreachableOf t) := by
    simp only [visited, hk8s]
  dsimp only at hinstall
  rw [← hvisited] at hinstall
  split at hinstall
  next => cases hinstall
  next c' hwireguard =>
    cases hinstall
    unfold installWireguardVPN at hwireguard
    split at hwireguard
    next => cases hwireguard
    next assigned hassigned =>
      split at hwireguard
      next => cases hwireguard
      next =>
        cases hnetwork : vpn.parsePrefix k8s.network with
        | error err =>
          rw [hnetwork] at hassigned
          cases hassigned
        | ok network =>
          rw [hnetwork] at hassigned
          cases hwireguard
          exact ⟨k8s, network, assigned, hk8s, hnetwork, hassigned, rfl⟩

section assigned

variable {t : Task} {network : Netip.Network} {assigned : List (NodeRef × String)} {c' : Clusters}
  {ref ref' : NodeRef} {n : Node} {ip : String}

theorem node?_setPrivateIP (c : Clusters) (ref : NodeRef) (ip : String) (ref' : NodeRef) :
    (setPrivateIP c ref ip).node? ref'
      = if ref' = ref then (c.node? ref').map (withPrivateIP ip) else c.node? ref' :=
  Clusters.node?_modifyNode

def usedAddresses (t : Task) : List String := ((visited t).map (·.2.privateIp)).filter (· ≠ "")

def withoutAddress (t : Task) : List NodeRef :=
  ((visited t).filter (·.2.privateIp = "")).map (·.1)

theorem Assigned.eq_some (h : Assigned t network assigned c') :
    Allocation.handOut (usedAddresses t) network.addresses (withoutAddress t) = some assigned := by
  have hassign := h.handOut
  unfold assignPrivateIPs at hassign
  dsimp only at hassign
  split at hassign
  next assigned' hassigned =>
    cases hassign
    exact hassigned
  next => cases hassign

theorem Assigned.nodup_refs (h : Assigned t network assigned c') : (assigned.map (·.1)).Nodup := by
  rw [Allocation.map_fst h.eq_some]
  exact visited_nodup.sublist (List.filter_sublist.map _)

theorem Assigned.nodup_ips (h : Assigned t network assigned c') : (assigned.map (·.2)).Nodup := by
  rw [Allocation.map_snd h.eq_some]
  exact (network.nodup.filter _).sublist (List.take_sublist ..)

theorem Assigned.visited (h : Assigned t network assigned c') (hmem : (ref, ip) ∈ assigned) :
    ∃ n, (ref, n) ∈ visited t ∧ n.privateIp = "" := by
  have href : ref ∈ withoutAddress t := by
    rw [← Allocation.map_fst h.eq_some]
    exact List.mem_map.mpr ⟨(ref, ip), hmem, rfl⟩
  obtain ⟨⟨ref, n⟩, hn, rfl⟩ := List.mem_map.mp href
  rw [List.mem_filter] at hn
  exact ⟨n, hn.1, of_decide_eq_true hn.2⟩

theorem Assigned.node?_of_mem (h : Assigned t network assigned c') (hmem : (ref, ip) ∈ assigned) :
    ∃ n, (ref, n) ∈ Ansibler.visited t ∧ n.privateIp = ""
      ∧ c'.node? ref = some (withPrivateIP ip n) := by
  obtain ⟨n, hn, hempty⟩ := h.visited hmem
  refine ⟨n, hn, hempty, ?_⟩
  rw [h.clusters, Allocation.get_foldl_set_of_mem node?_setPrivateIP h.nodup_refs hmem, node?_of_visited hn]
  rfl

theorem Assigned.node?_of_notMem (h : Assigned t network assigned c')
    (hnot : ref ∉ assigned.map (·.1)) : c'.node? ref = t.clusters.node? ref := by
  rw [h.clusters, Allocation.get_foldl_set_of_notMem node?_setPrivateIP hnot]

-- The addresses that are handed out are the first ones that no visited node has.
theorem Assigned.mem_ips (h : Assigned t network assigned c') :
    (∃ ref, (ref, ip) ∈ assigned) ↔ ip ∈ network.addresses ∧ ip ∉ usedAddresses t
      ∧ (network.addresses.takeWhile (· ≠ ip)).countP (!(usedAddresses t).contains ·)
          < (withoutAddress t).length := by
  have hmem : (∃ ref, (ref, ip) ∈ assigned) ↔ ip ∈ assigned.map (·.2) := by
    simp
  rw [hmem, Allocation.map_snd h.eq_some, Allocation.free, Allocation.mem_take_filter network.nodup]
  simp

theorem mem_usedAddresses (hne : ip ≠ "") :
    ip ∈ usedAddresses t ↔ ip ∈ (Ansibler.visited t).map (·.2.privateIp) := by
  simp [usedAddresses, hne]

-- No node of a network is empty, so that a visited node without an address does not matter.
theorem countP_used :
    (network.addresses.takeWhile (· ≠ ip)).countP (!(usedAddresses t).contains ·)
      = (network.addresses.takeWhile (· ≠ ip)).countP
          (fun ip => !((Ansibler.visited t).map (·.2.privateIp)).contains ip) := by
  refine List.countP_congr ?_
  intro ip' hip'
  have hne : ip' ≠ "" := by
    rintro rfl
    exact network.ne_empty ((List.takeWhile_sublist _).mem hip')
  simp only [Bool.not_eq_true', List.contains_eq_mem, decide_eq_false_iff_not]
  rw [mem_usedAddresses hne]

theorem length_withoutAddress :
    (withoutAddress t).length = (Ansibler.visited t).countP (·.2.privateIp = "") := by
  rw [withoutAddress, List.length_map, List.countP_eq_length_filter]

theorem Assigned.ip_ne (h : Assigned t network assigned c') (hmem : (ref, ip) ∈ assigned) :
    ip ≠ "" := by
  rintro rfl
  exact network.ne_empty (h.mem_ips.mp ⟨ref, hmem⟩).1

theorem Assigned.unchanged (h : Assigned t network assigned c')
    (hn : t.clusters.node? ref = some n) (hne : n.privateIp ≠ "") : c'.node? ref = some n := by
  rw [h.node?_of_notMem, hn]
  intro href
  obtain ⟨⟨ref, ip⟩, hmem, rfl⟩ := List.mem_map.mp href
  obtain ⟨n', hn', hempty⟩ := h.visited hmem
  rw [node?_of_visited hn'] at hn
  cases hn
  exact hne hempty

theorem Assigned.ne_empty (h : Assigned t network assigned c')
    (hvisited : (ref, n) ∈ Ansibler.visited t) :
    ∃ n', c'.node? ref = some n' ∧ n'.privateIp ≠ "" := by
  by_cases hempty : n.privateIp = ""
  · have href : ref ∈ assigned.map (·.1) := by
      rw [Allocation.map_fst h.eq_some]
      exact List.mem_map.mpr ⟨(ref, n), List.mem_filter.mpr ⟨hvisited, decide_eq_true hempty⟩, rfl⟩
    obtain ⟨⟨ref, ip⟩, hmem, rfl⟩ := List.mem_map.mp href
    obtain ⟨n', -, -, hn'⟩ := h.node?_of_mem hmem
    exact ⟨_, hn', h.ip_ne hmem⟩
  · exact ⟨n, h.unchanged (node?_of_visited hvisited) hempty, hempty⟩

theorem Assigned.publicIp (h : Assigned t network assigned c') (hn : c'.node? ref = some n) :
    ∃ n', t.clusters.node? ref = some n' ∧ n'.publicIp = n.publicIp := by
  by_cases href : ref ∈ assigned.map (·.1)
  · obtain ⟨⟨ref, ip⟩, hmem, rfl⟩ := List.mem_map.mp href
    obtain ⟨n', hn', -, heq⟩ := h.node?_of_mem hmem
    rw [heq] at hn
    cases hn
    exact ⟨n', node?_of_visited hn', rfl⟩
  · rw [h.node?_of_notMem href] at hn
    exact ⟨n, hn, rfl⟩

theorem Assigned.distinct (h : Assigned t network assigned c')
    (hdistinct : DistinctAddresses t.clusters) (hguarded : Guarded t network) :
    DistinctAddresses c' := by
  -- an address that was handed out is not the one of another node, visited or not.
  have hnew : ∀ {ref ref' ip n'}, (ref, ip) ∈ assigned → ref' ∉ assigned.map (·.1) →
      c'.node? ref' = some n' → n'.privateIp ≠ ip := by
    rintro ref ref' ip n' hmem hnot hn' rfl
    rw [h.node?_of_notMem hnot] at hn'
    obtain ⟨haddress, hunused, hlt⟩ := h.mem_ips.mp ⟨ref, hmem⟩
    rw [mem_usedAddresses (h.ip_ne hmem)] at hunused
    rw [countP_used, length_withoutAddress] at hlt
    refine Nat.not_le_of_lt hlt (hguarded ref' n' hn' ?_ haddress)
    intro hvisited
    obtain ⟨⟨ref', n⟩, hn, rfl⟩ := List.mem_map.mp hvisited
    rw [node?_of_visited hn] at hn'
    cases hn'
    exact hunused (List.mem_map.mpr ⟨_, hn, rfl⟩)
  intro ref ref' n n' hn hn' hne heq
  by_cases href : ref ∈ assigned.map (·.1) <;> by_cases href' : ref' ∈ assigned.map (·.1)
  · obtain ⟨⟨ref, ip⟩, hmem, rfl⟩ := List.mem_map.mp href
    obtain ⟨⟨ref', ip'⟩, hmem', rfl⟩ := List.mem_map.mp href'
    obtain ⟨m, -, -, hm⟩ := h.node?_of_mem hmem
    obtain ⟨m', -, -, hm'⟩ := h.node?_of_mem hmem'
    cases hm.symm.trans hn
    cases hm'.symm.trans hn'
    have hsame : (ref, ip) = (ref', ip') := List.inj_on_of_nodup_map h.nodup_ips hmem hmem' heq
    exact congrArg Prod.fst hsame
  · obtain ⟨⟨ref, ip⟩, hmem, rfl⟩ := List.mem_map.mp href
    obtain ⟨m, -, -, hm⟩ := h.node?_of_mem hmem
    cases hm.symm.trans hn
    exact absurd heq.symm (hnew hmem href' hn')
  · obtain ⟨⟨ref', ip'⟩, hmem', rfl⟩ := List.mem_map.mp href'
    obtain ⟨m', -, -, hm'⟩ := h.node?_of_mem hmem'
    cases hm'.symm.trans hn'
    exact absurd heq (hnew hmem' href hn)
  · rw [h.node?_of_notMem href] at hn
    rw [h.node?_of_notMem href'] at hn'
    exact hdistinct ref ref' n n' hn hn' hne heq

theorem Assigned.guarded (h : Assigned t network assigned c')
    (hdistinct : DistinctAddresses t.clusters) (hdistinct' : DistinctAddresses c') :
    Guarded t network := by
  intro ref n hn hnot haddress
  by_contra hlt
  have hne : n.privateIp ≠ "" := fun hempty => network.ne_empty (hempty ▸ haddress)
  have hunused : n.privateIp ∉ usedAddresses t := by
    intro hused
    obtain ⟨⟨ref', n'⟩, hn', heq⟩ := List.mem_map.mp ((mem_usedAddresses hne).mp hused)
    have hsame := hdistinct ref ref' n n' hn (node?_of_visited hn') hne heq.symm
    exact hnot (List.mem_map.mpr ⟨(ref', n'), hn', hsame.symm⟩)
  rw [Nat.not_le, ← countP_used, ← length_withoutAddress] at hlt
  obtain ⟨ref', hmem⟩ := h.mem_ips.mpr ⟨haddress, hunused, hlt⟩
  obtain ⟨m, hm, -, hm'⟩ := h.node?_of_mem hmem
  have hsame := hdistinct' ref ref' n _ (h.unchanged hn hne) hm' hne rfl
  exact hnot (List.mem_map.mpr ⟨(ref', m), hm, hsame.symm⟩)

end assigned

/--
The addresses stay distinct exactly if none of those that are handed out is the one of a node that is
not visited.
-/
theorem install_vpn_keeps_addresses (vpn : VPN) (t : Task) (k8s : K8scluster)
    (network : Netip.Network) (k8s' : Option K8scluster) (lbs' : List LBcluster)
    (hdistinct : DistinctAddresses t.clusters) (hk8s : t.clusters.k8s = some k8s)
    (hnetwork : vpn.parsePrefix k8s.network = .ok network)
    (h : installVPN vpn t = .ok (.update k8s' (some lbs'), [])) :
    KeepsAddresses t ⟨k8s', lbs'⟩ ↔ Guarded t network := by
  obtain ⟨k, network', assigned, hk, hnetwork', hassigned⟩ := installVPN_eq_update h
  cases hk8s.symm.trans hk
  cases hnetwork.symm.trans hnetwork'
  constructor
  · exact fun hkeeps => hassigned.guarded hdistinct hkeeps.distinct
  · intro hguarded
    refine ⟨hassigned.distinct hdistinct hguarded, fun _ _ => hassigned.unchanged, ?_⟩
    intro ref n hn hreachable
    obtain ⟨n₀, hn₀, hpublic⟩ := hassigned.publicIp hn
    rw [← hpublic] at hreachable
    have hvisited := visited_of_reachable (by rw [hk8s]; rfl) hn₀ hreachable
    obtain ⟨n', hn', hne⟩ := hassigned.ne_empty hvisited
    cases hn.symm.trans hn'
    exact hne

-- All nodes are visited by a task that does not declare any of them unreachable.
theorem distinctAddresses_iff {c : Clusters} (hk8s : c.k8s.isSome = true) :
    DistinctAddresses c ↔ ∀ x ∈ visited (.create c), ∀ y ∈ visited (.create c),
      x.2.privateIp ≠ "" → x.2.privateIp = y.2.privateIp → x.1 = y.1 := by
  constructor
  · intro h x hx y hy
    exact h x.1 y.1 x.2 y.2 (node?_of_visited hx) (node?_of_visited hy)
  · intro h ref ref' n n' hn hn'
    have hvisited : ∀ {ref n}, c.node? ref = some n → (ref, n) ∈ visited (.create c) :=
      fun hn => visited_of_reachable hk8s hn (fun u hu => by cases hu)
    exact h (ref, n) (hvisited hn) (ref', n') (hvisited hn')

namespace Demo

def node (name privateIp publicIp : String) : Node :=
  ⟨name, privateIp, publicIp, .worker, "root", .joined, 22, 51820⟩

def nodePool (name : String) (nodes : List Node) : NodePool :=
  ⟨.static ⟨Std.ExtTreeMap.ofList (nodes.map (fun n => (n.publicIp, "key")))⟩, name, nodes, false, ∅,
    [], ∅, 22⟩

def cluster (privateIp : String) : Clusters :=
  ⟨some ⟨⟨"main", "abc1234", [nodePool "first" [node "first-01" "192.168.2.1" "203.0.113.1"],
    nodePool "second" [node "second-01" privateIp "203.0.113.2"]]⟩, "192.168.2.0/24", "", "1.31.0",
    ⟨"on", "", ""⟩⟩, []⟩

def vpn : VPN where
  parsePrefix s :=
    match Netip.parsePrefix s with
    | some network => .ok network
    | none => .error "no prefix"
  clusterDirectory := "clusters/main-abc1234-1234567"
  playbooks := none

-- Nodes of a third nodepool were deleted, while the node of the first one can not be reached.
def deletion : Task :=
  .update (cluster "") (.deletedK8sNodes
    (some ⟨Std.ExtTreeMap.ofList [("first", ["203.0.113.1"])], ∅⟩) (.wholeNodePool none))

theorem install_create : installVPN vpn (.create (cluster ""))
    = .ok (.update (cluster "192.168.2.2").k8s (some []), []) := by
  rfl

theorem install_deletion : installVPN vpn deletion
    = .ok (.update (cluster "192.168.2.1").k8s (some []), []) := by
  rfl

theorem guarded_create : Guarded (.create (cluster "")) (Netip.after 3232236032 24) := by
  intro ref n hn hnot
  have hvisited := visited_of_reachable rfl hn (fun u hu => by cases hu)
  exact absurd (List.mem_map.mpr ⟨(ref, n), hvisited, rfl⟩) hnot

theorem distinct : DistinctAddresses (cluster "") :=
  (distinctAddresses_iff rfl).mpr (by decide)

end Demo

theorem install_vpn_keeps_addresses_create :
    KeepsAddresses (.create (Demo.cluster "")) ⟨(Demo.cluster "192.168.2.2").k8s, []⟩ :=
  (install_vpn_keeps_addresses Demo.vpn (.create (Demo.cluster "")) _ _ _ _ Demo.distinct rfl rfl
    Demo.install_create).mpr Demo.guarded_create

-- The address of the node that can not be reached is given to a second node.
theorem install_vpn_repeats_address :
    ∃ k8s' lbs', DistinctAddresses Demo.deletion.clusters
      ∧ installVPN Demo.vpn Demo.deletion = .ok (.update k8s' (some lbs'), [])
      ∧ ¬ DistinctAddresses ⟨k8s', lbs'⟩ := by
  refine ⟨_, _, Demo.distinct, Demo.install_deletion, ?_⟩
  rw [distinctAddresses_iff rfl]
  decide

end Ansibler

end Claudie
