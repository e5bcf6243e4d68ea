import Claudie.Lib.Keyed
import Claudie.Manager.Lemmas.Carried
import Claudie.Manifest.Uniqueness

/-!
Whether all clusters of a manifest reach the desired state. Kubernetes clusters are entered under
their names in lower case, load balancers under the name of their target as it is written.
-/

namespace Claudie

namespace Manager

def PoolOf (pool : String × Bool) (np : NodePool) : Prop :=
  np.isControl = pool.2 ∧ NameExtends pool.1 np.name

structure KubernetesOf (c : Manifest.Cluster) (k8s : K8scluster) : Prop where
  version : k8s.kubernetes = c.version
  nodePools : List.Forall₂ PoolOf
    (c.pools.control.map (·, true) ++ c.pools.compute.map (·, false)) k8s.clusterInfo.nodePools

structure LoadBalancerOf (m : Claudie.Manifest) (c : Manifest.LoadBalancerCluster)
    (lb : LBcluster) : Prop where
  name : lb.clusterInfo.name = c.name
  nodePools : List.Forall₂ PoolOf (c.pools.map (·, false)) lb.clusterInfo.nodePools
  roles : ∀ role ∈ c.roles, ∃ r ∈ m.loadBalancer.roles, r.name = role
    ∧ ∃ r' ∈ lb.roles, RoleCarried (roleFromManifest r) r'

section Made

variable {m : Claudie.Manifest}

theorem createNodepools_poolOf {pools : List String} {isControl : Bool} {nps : List NodePool}
    (h : m.createNodepools pools isControl = .ok nps) :
    List.Forall₂ PoolOf (pools.map (·, isControl)) nps := by
  rw [List.forall₂_map_left_iff]
  refine (Outcome.mapM_eq_ok.mp h).imp (fun pool np hnp => ?_)
  obtain ⟨hname, hcontrol, -⟩ := Manifest.createNodepool_eq_ok hnp
  exact ⟨hcontrol, .inl hname⟩

theorem poolOf_carried {pools : List (String × Bool)} {nps nps' : List NodePool}
    (h : List.Forall₂ PoolOf pools nps) (h' : List.Forall₂ PoolCarried nps nps') :
    List.Forall₂ PoolOf pools nps' :=
  List.forall₂_trans h h' (fun _ _ _ h h' => ⟨h'.1.trans h.1, h.2.trans h'.2⟩)

theorem createK8sCluster_kubernetesOf {hash : Hash} {c : Manifest.Cluster} {k8s : K8scluster}
    (h : createK8sCluster m hash c = .ok k8s) :
    k8s.clusterInfo.name = toLower c.name ∧ KubernetesOf c k8s := by
  obtain ⟨control, compute, hcontrol, hcompute, rfl⟩ := createK8sCluster_eq_ok.mp h
  exact ⟨rfl, rfl, List.rel_append (createNodepools_poolOf hcontrol)
    (createNodepools_poolOf hcompute)⟩

theorem KubernetesOf.carried {c : Manifest.Cluster} {d d' : DesiredCluster}
    (h : KubernetesOf c d.k8s) (hcarried : Carried d d') : KubernetesOf c d'.k8s :=
  ⟨hcarried.version.trans h.version, poolOf_carried h.nodePools hcarried.nodePools⟩

theorem LoadBalancerOf.carried {c : Manifest.LoadBalancerCluster} {lb lb' : LBcluster}
    (h : LoadBalancerOf m c lb) (hcarried : LbCarried lb lb') : LoadBalancerOf m c lb' := by
  refine ⟨hcarried.name.trans h.name, poolOf_carried h.nodePools hcarried.nodePools,
    fun role hrole => ?_⟩
  obtain ⟨r, hr, hname, r', hr', hrole'⟩ := h.roles role hrole
  obtain ⟨r'', hr'', hrole''⟩ := hcarried.roles r' hr'
  exact ⟨r, hr, hname, r'', hr'', hrole'.trans hrole''⟩

end Made

structure MadeOf (m : Claudie.Manifest) (draws : Draws) (result : GoMap DesiredCluster)
    (k8ss : List K8scluster) (lbs : List LBcluster) : Prop where
  kubernetes : List.Forall₂ (fun c k8s => createK8sCluster m (draws.k8sHash c.2) c.1 = .ok k8s)
    m.kubernetes.zipIdx k8ss
  loadBalancers : List.Forall₂ (fun c lb => createLBCluster m (draws.lbHash c.2) c.1 = .ok lb)
    m.loadBalancer.clusters.zipIdx lbs
  -- of several clusters with one name the last one counts.
  entry : ∀ (name : String) (k8s : K8scluster),
    k8ss.reverse.find? (·.clusterInfo.name = name) = some k8s →
      ∃ d, result[name]? = some d ∧ Carried ⟨k8s, lbs.filter (·.targetedK8s = name)⟩ d
  noEntry : ∀ name : String, k8ss.reverse.find? (·.clusterInfo.name = name) = none →
    result[name]? = none

namespace MadeOf

variable {m : Claudie.Manifest} {draws : Draws} {result : GoMap DesiredCluster}
  {k8ss : List K8scluster} {lbs : List LBcluster}

theorem names (h : MadeOf m draws result k8ss lbs) :
    k8ss.map (·.clusterInfo.name) = m.kubernetes.map (fun c => toLower c.name) := by
  have hmap : m.kubernetes.zipIdx.map (fun c => toLower c.1.name)
      = k8ss.map (·.clusterInfo.name) :=
    List.map_eq_of_forall₂ h.kubernetes (fun c k8s hmade => (createK8sCluster_kubernetesOf hmade).1.symm)
  have hfst : m.kubernetes.zipIdx.map (fun c => toLower c.1.name)
      = (m.kubernetes.zipIdx.map Prod.fst).map (fun c => toLower c.name) := by
    rw [List.map_map]
    rfl
  rw [← hmap, hfst, List.zipIdx_map_fst]

theorem of_getElem? (h : MadeOf m draws result k8ss lbs) {name : String} {d : DesiredCluster}
    (hd : result[name]? = some d) :
    ∃ k8s ∈ k8ss, k8s.clusterInfo.name = name
      ∧ Carried ⟨k8s, lbs.filter (·.targetedK8s = name)⟩ d := by
  cases hfind : k8ss.reverse.find? (·.clusterInfo.name = name) with
  | none =>
    rw [h.noEntry name hfind] at hd
    cases hd
  | some k8s =>
    obtain ⟨d', hd', hcarried⟩ := h.entry name k8s hfind
    rw [hd] at hd'
    cases hd'
    exact ⟨k8s, List.mem_reverse.mp (List.mem_of_find?_eq_some hfind),
      by simpa using List.find?_some hfind, hcarried⟩

theorem mem_keys (h : MadeOf m draws result k8ss lbs) {name : String} :
    name ∈ result.keys ↔ name ∈ m.kubernetes.map (fun c => toLower c.name) := by
  rw [Std.ExtTreeMap.mem_keys, ← h.names, Std.ExtTreeMap.mem_iff_isSome_getElem?]
  constructor
  · intro hsome
    obtain ⟨d, hd⟩ := Option.isSome_iff_exists.mp hsome
    obtain ⟨k8s, hk8s, rfl, -⟩ := h.of_getElem? hd
    exact List.mem_map_of_mem hk8s
  · intro hmem
    obtain ⟨k8s, hk8s, rfl⟩ := List.mem_map.mp hmem
    cases hfind : k8ss.reverse.find? (·.clusterInfo.name = k8s.clusterInfo.name) with
    | none =>
      have := List.find?_eq_none.mp hfind k8s (List.mem_reverse.mpr hk8s)
      simp at this
    | some k8s' =>
      obtain ⟨d, hd, -⟩ := h.entry _ k8s' hfind
      rw [hd]
      rfl

theorem targetedK8s {i : Nat} {c : Manifest.LoadBalancerCluster} {lb : LBcluster}
    (h : createLBCluster m (draws.lbHash i) c = .ok lb) :
    lb.clusterInfo.name = c.name ∧ lb.targetedK8s = c.targetedK8s := by
  obtain ⟨dns, nodePools, -, -, rfl⟩ := createLBCluster_eq_ok.mp h
  exact ⟨rfl, rfl⟩

end MadeOf

section Complete

variable {formats : Manifest.Formats} {m : Claudie.Manifest} {draws : Draws}
  {result : GoMap DesiredCluster} {k8ss : List K8scluster} {lbs : List LBcluster}

end Complete

namespace Demo.ClustersComplete

def manifest (cluster : String) : Claudie.Manifest :=
  Manifest.Demo.manifest
    [Manifest.Demo.staticNodePool "c1" "10.0.0.1", Manifest.Demo.staticNodePool "l1" "10.0.1.1"]
    [Manifest.Demo.cluster cluster ["c1"]]
    [{ Manifest.Demo.loadBalancer "lb" "www" "example.com" ["l1"] with targetedK8s := cluster }]

def hash : Hash := ⟨"aaaaaaa", by decide +kernel⟩

def draws : Draws :=
  ⟨fun _ => hash, fun _ => hash, fun _ => ⟨fun _ => hash, fun _ => "", fun _ _ => none⟩⟩

end Demo.ClustersComplete

end Manager

end Claudie
