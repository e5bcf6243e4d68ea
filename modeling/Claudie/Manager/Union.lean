import Claudie.Manager.Lemmas.Union

/-!
What the union of two states of a cluster has: every load balancer, nodepool and node of both, once.
-/

namespace Claudie

namespace Manager

section

open clustersUnion

variable {ord : MapOrder} {old modified u : Clusters}

/--
The states of a cluster that have a union. Nothing is asked of a kubernetes cluster or load balancer
that only one of the states has.
-/
structure Mergeable (old modified : Clusters) : Prop where
  k8s : ∀ k ∈ old.k8s, ∀ k' ∈ modified.k8s,
    MergeableK8s k.clusterInfo.nodePools k'.clusterInfo.nodePools
  loadBalancers : ∀ lb ∈ old.loadBalancers, ∀ lb' ∈ modified.loadBalancers, lb.id = lb'.id →
    MergeableLb lb.clusterInfo.nodePools lb'.clusterInfo.nodePools

theorem tidyLoadBalancers (h : old.Tidy) : TidyLoadBalancers old.loadBalancers :=
  ⟨h.ids, h.loadBalancers⟩

theorem clustersUnion_eq_ok {k k' : K8scluster} (hk : old.k8s = some k) (hk' : modified.k8s = some k')
    (hold : (old.loadBalancers.map (·.id)).Nodup)
    (hmodified : (modified.loadBalancers.map (·.id)).Nodup) :
    clustersUnion ord old modified = .ok u
      ↔ (∃ r, kubernetesDiff ord k k' = .ok r)
        ∧ ∃ nps us lbs,
          addNodePools ord "union dynamic"
            (dynamicDiff k.clusterInfo.nodePools k'.clusterInfo.nodePools)
            k'.clusterInfo.nodePools k.clusterInfo.nodePools = .ok nps
          ∧ addNodePools ord "union static"
            (staticDiff k.clusterInfo.nodePools k'.clusterInfo.nodePools)
            k'.clusterInfo.nodePools nps = .ok us
          ∧ unionLoadBalancers ord old.loadBalancers modified.loadBalancers = .ok lbs
          ∧ u = ⟨some (K8scluster.withNodePools k us), lbs⟩ := by
  obtain ⟨ok8s, olbs⟩ := old
  obtain ⟨mk8s, mlbs⟩ := modified
  dsimp only at hk hk' hold hmodified
  subst hk
  subst hk'
  unfold clustersUnion
  dsimp only
  rw [mapM_added hmodified]
  cases hr : kubernetesDiff ord k k' with
  | error e => simp [bind, Except.bind]
  | ok r =>
    have hdiff := kubernetesDiff_eq_ok hr
    simp only [bind, Except.bind, hdiff.dynamic, hdiff.static, unionLoadBalancers_eq hold hmodified]
    constructor
    · intro h
      split at h
      next => cases h
      next nps hnps =>
        split at h
        next => cases h
        next us hus =>
          split at h
          next => cases h
          next lbs hlbs =>
            cases h
            exact ⟨⟨r, rfl⟩, nps, us, lbs, hnps, hus, hlbs, rfl⟩
    · rintro ⟨_, nps, us, lbs, hnps, hus, hlbs, rfl⟩
      simp only [hnps, hus, hlbs]
      rfl

theorem covers_of_union {k k' : K8scluster} {us : List NodePool} {lbs : List LBcluster}
    (hk : modified.k8s = some k') (hid : k.id = k'.id)
    (hnps : CoversNodePools us k'.clusterInfo.nodePools)
    (hlbs : CoversLoadBalancers lbs modified.loadBalancers) :
    Clusters.Covers ⟨some (K8scluster.withNodePools k us), lbs⟩ modified where
  k8s k'' hk'' := by
    rw [hk] at hk''
    cases hk''
    exact ⟨_, rfl, hid, hnps⟩
  loadBalancers := hlbs

theorem covers_self (c : Clusters) : c.Covers c where
  k8s k hk := ⟨k, hk, rfl, coversNodePools_refl _⟩
  loadBalancers lb hlb := ⟨lb, hlb, rfl, coversNodePools_refl _⟩

theorem covers_of_k8s_none (c : Clusters) (hold : old.Tidy) (hnone : old.k8s = none) :
    c.Covers old where
  k8s k hk := by
    rw [hnone] at hk
    cases hk
  loadBalancers lb hlb := by
    rw [hold.attached hnone] at hlb
    cases hlb

def UnionComplete (ord : MapOrder) (old modified : Clusters) : Prop :=
  ∃ u, clustersUnion ord old modified = .ok u ∧ u.Tidy ∧ u.Covers old ∧ u.Covers modified

theorem unionComplete_of_mergeable {k k' : K8scluster} (hk : old.k8s = some k)
    (hk' : modified.k8s = some k') (hid : k.id = k'.id) (hold : old.Tidy)
    (hmodified : modified.Tidy) (h : Mergeable old modified) : UnionComplete ord old modified := by
  have hk8s := h.k8s k hk k' hk'
  have hktidy := hold.k8s k hk
  have hktidy' := hmodified.k8s k' hk'
  have hold' := tidyLoadBalancers hold
  have hmodified' := tidyLoadBalancers hmodified
  have hdiff : ∃ r, kubernetesDiff ord k k' = .ok r :=
    kubernetesDiff_isOk.mpr ((nodeApiEndpoint_isOk hktidy.names hktidy'.names).mpr hk8s.endpoint)
  obtain ⟨nps, us, hnps, hus, htidy, hcov, hcov'⟩ := hk8s.union hktidy hktidy'
  obtain ⟨lbs, hlbs⟩ := unionLoadBalancers_isOk hold' hmodified' h.loadBalancers
  have hlbstidy := unionLoadBalancers_tidy hold' hmodified' h.loadBalancers hlbs
  refine ⟨_, (clustersUnion_eq_ok hk hk' hold.ids hmodified.ids).mpr
    ⟨hdiff, nps, us, lbs, hnps, hus, hlbs, rfl⟩,
    ⟨fun hnone => (by cases hnone), ?_, hlbstidy.ids, hlbstidy.nodePools⟩,
    covers_of_union hk rfl hcov
      (unionLoadBalancers_covers_old hold' hmodified' h.loadBalancers hlbs),
    covers_of_union hk' hid hcov'
      (unionLoadBalancers_covers_modified hold' hmodified' h.loadBalancers hlbs)⟩
  intro k'' hk''
  cases hk''
  exact htidy

theorem mergeable_of_unionComplete {k k' : K8scluster} (hk : old.k8s = some k)
    (hk' : modified.k8s = some k') (hold : old.Tidy) (hmodified : modified.Tidy)
    (h : UnionComplete ord old modified) : Mergeable old modified := by
  obtain ⟨u, hu, htidy, hcov, hcov'⟩ := h
  obtain ⟨hdiff, nps, us, lbs, hnps, hus, hlbs, rfl⟩ :=
    (clustersUnion_eq_ok hk hk' hold.ids hmodified.ids).mp hu
  have hktidy := hold.k8s k hk
  have hktidy' := hmodified.k8s k' hk'
  refine ⟨fun k₁ hk₁ k₂ hk₂ => ?_, fun lb hlb d hd => ?_⟩
  · rw [hk] at hk₁
    rw [hk'] at hk₂
    cases hk₁
    cases hk₂
    obtain ⟨_, hx, _, hcovk⟩ := hcov.k8s k hk
    obtain ⟨_, hx', _, hcovk'⟩ := hcov'.k8s k' hk'
    cases hx
    cases hx'
    have hkinds := sameKinds_of_covers (htidy.k8s _ rfl).names hcovk hcovk'
    refine ⟨hkinds, (nodeApiEndpoint_isOk hktidy.names hktidy'.names).mp
      (kubernetesDiff_isOk.mp hdiff), fun o ho m hm => ?_⟩
    exact keys_of_union hktidy hktidy' hkinds hnps hus ho hm
  · exact mergeableLb_of_unionLoadBalancers (tidyLoadBalancers hold) (tidyLoadBalancers hmodified)
      hlbs (tidyLoadBalancers htidy) hcov.loadBalancers hcov'.loadBalancers hlb hd

theorem mergeable_of_k8s_none (hold : old.Tidy) (hmodified : modified.Tidy)
    (h : old.k8s = none ∨ modified.k8s = none) : Mergeable old modified := by
  obtain h | h := h
  · refine ⟨fun k hk => ?_, fun lb hlb => ?_⟩
    · rw [h] at hk
      cases hk
    · rw [hold.attached h] at hlb
      cases hlb
  · refine ⟨fun k hk k' hk' => ?_, fun lb hlb d hd => ?_⟩
    · rw [h] at hk'
      cases hk'
    · rw [hmodified.attached h] at hd
      cases hd

theorem unionComplete_of_k8s_none (hold : old.Tidy) (hmodified : modified.Tidy)
    (h : old.k8s = none ∨ modified.k8s = none) : UnionComplete ord old modified := by
  unfold UnionComplete clustersUnion
  cases hk : old.k8s with
  | none =>
    cases hk' : modified.k8s with
    | none =>
      refine ⟨_, rfl, ⟨fun _ => rfl, fun k hk => ?_, List.nodup_nil, List.forall_mem_nil _⟩,
        covers_of_k8s_none _ hold hk, covers_of_k8s_none _ hmodified hk'⟩
      cases hk
    | some k' => exact ⟨_, rfl, hmodified, covers_of_k8s_none _ hold hk, covers_self _⟩
  | some k =>
    cases hk' : modified.k8s with
    | none => exact ⟨_, rfl, hold, covers_self _, covers_of_k8s_none _ hmodified hk'⟩
    | some k' =>
      rw [hk, hk'] at h
      obtain h | h := h
      · cases h
      · cases h

theorem union_has_everything_once (hold : old.Tidy) (hmodified : modified.Tidy)
    (hids : ∀ k ∈ old.k8s, ∀ k' ∈ modified.k8s, k.id = k'.id) :
    UnionComplete ord old modified ↔ Mergeable old modified := by
  cases hk : old.k8s with
  | none =>
    exact ⟨fun _ => mergeable_of_k8s_none hold hmodified (.inl hk),
      fun _ => unionComplete_of_k8s_none hold hmodified (.inl hk)⟩
  | some k =>
    cases hk' : modified.k8s with
    | none =>
      exact ⟨fun _ => mergeable_of_k8s_none hold hmodified (.inr hk'),
        fun _ => unionComplete_of_k8s_none hold hmodified (.inr hk')⟩
    | some k' =>
      exact ⟨mergeable_of_unionComplete hk hk' hold hmodified,
        unionComplete_of_mergeable hk hk' (hids k hk k' hk') hold hmodified⟩

end

namespace Demo

namespace Mixed

def provider : Provider :=
  { specName := "hetzner-1"
    cloudProviderName := "hetzner"
    providerType := .hetzner "token"
    templates :=
      { url := "github.com/berops/claudie-config"
        commit := "v0.9.14"
        commitHash := "9b3f0c1"
        auth := none
        paths := ⟨"templates/terraformer/hetzner", "", "", "", ""⟩ } }

def node (name publicIp : String) (nodeType : NodeType) : Node :=
  { name, privateIp := "", publicIp, nodeType, username := "root", status := .joined, sshPort := 22
    wireguardPort := 51820 }

def dynamicPool (name : String) (isControl : Bool) (nodes : List Node) : NodePool :=
  { type := .dynamic
      { serverType := "cpx22"
        image := "ubuntu-24.04"
        storageDiskSize := 50
        region := "nbg1"
        zone := ""
        count := nodes.length
        provider
        autoscalerConfig := none
        machineSpec := none
        publicKey := "public"
        privateKey := "private"
        cidr := "10.0.0.0/24"
        externalNetworkName := ""
        spot := false }
    name, nodes, isControl, labels := ∅, taints := [], annotations := ∅, sshPort := 22 }

def staticPool (name : String) (isControl : Bool) (nodes : List Node) : NodePool :=
  { type := .static ⟨nodes.foldl (fun keys n => keys.insert n.publicIp "key") ∅⟩
    name, nodes, isControl, labels := ∅, taints := [], annotations := ∅, sshPort := 22 }

def k8s (nps : List NodePool) : K8scluster :=
  { clusterInfo := ⟨"c1", "abcdefg", nps⟩
    network := "192.168.2.0/24"
    kubeconfig := "kubeconfig"
    kubernetes := "1.30.0"
    installationProxy := ⟨"off", "", ""⟩ }

def role (name : String) (port : Int) (roleType : RoleType) : Role :=
  { name, protocol := "tcp", port, targetPort := port, roleType, targetPools := ["control"]
    settings := ⟨false, false, 9901⟩ }

def lb (name : String) (nps : List NodePool) : LBcluster :=
  { clusterInfo := ⟨name, "qwertyu", nps⟩
    roles := [role "https" 443 .ingress]
    dns := some ⟨"example.com", "abc", provider, "abc.example.com", []⟩
    targetedK8s := "c1"
    usedApiEndpoint := false }

def control : NodePool := staticPool "control" true [node "control-01" "192.0.2.1" .apiEndpoint]

def machines (n : Nat) : NodePool :=
  dynamicPool "machines-asdfghj" false
    ([node "machines-01" "192.0.2.11" .worker, node "machines-02" "192.0.2.12" .worker].take n)

def owned (n : Nat) : NodePool :=
  staticPool "owned" false
    ([node "owned-01" "192.0.2.21" .worker, node "owned-02" "192.0.2.22" .worker].take n)

def clusters (lbPools : List NodePool) : Clusters := ⟨some (k8s [control]), [lb "lb1" lbPools]⟩

theorem tidy_dynamicPool {name : String} {isControl : Bool} {nodes : List Node}
    (h : (nodes.map (·.name)).Nodup) : (dynamicPool name isControl nodes).Tidy where
  nodes := h
  count d hd := by
    cases hd
    rfl
  keys s hs := by cases hs

theorem tidy_staticPool {name : String} {isControl : Bool} {nodes : List Node}
    (h : (nodes.map (·.name)).Nodup) : (staticPool name isControl nodes).Tidy where
  nodes := h
  count d hd := by cases hd
  keys s hs ip := by
    cases hs
    have hfold : ∀ keys : GoMap String,
        ip ∈ nodes.foldl (fun keys n => keys.insert n.publicIp "key") keys
          ↔ ip ∈ keys ∨ ip ∈ nodes.map (·.publicIp) := by
      induction nodes with
      | nil => simp
      | cons n nodes ih =>
        intro keys
        rw [List.map_cons, List.nodup_cons] at h
        rw [List.foldl_cons, ih h.2, Std.ExtTreeMap.mem_insert, List.map_cons, List.mem_cons,
          Std.LawfulEqCmp.compare_eq_iff_eq]
        tauto
    rw [hfold]
    simp [staticPool]

theorem tidy_clusters (n m : Nat) : (clusters [machines n, owned m]).Tidy where
  attached h := by cases h
  k8s k hk := by
    cases hk
    exact ⟨by decide, List.forall_mem_singleton.mpr (tidy_staticPool (by decide))⟩
  ids := List.nodup_singleton _
  loadBalancers := by
    have hnames : ["machines-asdfghj", "owned"].Nodup := by decide
    refine List.forall_mem_singleton.mpr ⟨hnames, List.forall_mem_cons.mpr
      ⟨tidy_dynamicPool ?_, List.forall_mem_singleton.mpr (tidy_staticPool ?_)⟩⟩
    · exact List.Nodup.sublist ((List.take_sublist n _).map _) (by decide)
    · exact List.Nodup.sublist ((List.take_sublist m _).map _) (by decide)

end Mixed

end Demo

theorem union_has_everything_once_demo :
    UnionComplete .ascending (Demo.Mixed.clusters [Demo.Mixed.machines 1, Demo.Mixed.owned 1])
      (Demo.Mixed.clusters [Demo.Mixed.machines 2, Demo.Mixed.owned 1]) := by
  have hids : ∀ k ∈ (Demo.Mixed.clusters [Demo.Mixed.machines 1, Demo.Mixed.owned 1]).k8s,
      ∀ k' ∈ (Demo.Mixed.clusters [Demo.Mixed.machines 2, Demo.Mixed.owned 1]).k8s,
      k.id = k'.id := by
    intro k hk k' hk'
    cases hk
    cases hk'
    rfl
  refine (union_has_everything_once (Demo.Mixed.tidy_clusters 1 1) (Demo.Mixed.tidy_clusters 2 1)
    hids).mpr ⟨fun k hk k' hk' => ?_, ?_⟩
  · cases hk
    cases hk'
    refine ⟨?_, fun np node h => ?_, by decide⟩
    · unfold clustersUnion.SameKinds
      decide
    · cases h
      exact .inr (.inl ⟨_, List.mem_singleton_self _, rfl, rfl, List.mem_singleton_self _⟩)
  · refine List.forall_mem_singleton.mpr (List.forall_mem_singleton.mpr (fun _ => ⟨?_, ?_, .inl ?_⟩))
    · unfold clustersUnion.SameKinds
      decide
    · unfold CoversKind
      decide
    · unfold CoversKind
      decide

theorem union_of_load_balancer_nodes :
    ∃ old modified u lb, old.Tidy ∧ modified.Tidy
      ∧ (∀ k ∈ old.k8s, ∀ k' ∈ modified.k8s, k.id = k'.id)
      ∧ clustersUnion .ascending old modified = .ok u ∧ u.loadBalancers = [lb]
      ∧ lb.clusterInfo.nodePools.map (fun np => np.nodes.map (·.name))
        = [["machines-01", "machines-02", "machines-02"], ["owned-01"]]
      ∧ ¬ UnionComplete .ascending old modified := by
  have hrun : Outcome.passes (clustersUnion .ascending
        (Demo.Mixed.clusters [Demo.Mixed.machines 1, Demo.Mixed.owned 1])
        (Demo.Mixed.clusters [Demo.Mixed.machines 2, Demo.Mixed.owned 2])) (fun u =>
      decide (u.loadBalancers.map (fun lb =>
          lb.clusterInfo.nodePools.map (fun np => np.nodes.map (·.name)))
        = [[["machines-01", "machines-02", "machines-02"], ["owned-01"]]])) = true := by
    decide +kernel
  obtain ⟨u, hunion, hrun⟩ := Outcome.passes_iff.mp hrun
  obtain ⟨lb, hlb, hnames⟩ := List.map_eq_singleton_iff.mp (of_decide_eq_true hrun)
  refine ⟨_, _, u, lb, Demo.Mixed.tidy_clusters 1 1, Demo.Mixed.tidy_clusters 2 2, ?_, hunion, hlb,
    hnames, ?_⟩
  · intro k hk k' hk'
    cases hk
    cases hk'
    rfl
  · rintro ⟨u, hu, htidy, _⟩
    rw [hunion] at hu
    cases hu
    have hmem : lb ∈ u.loadBalancers := hlb ▸ List.mem_singleton_self lb
    have hnodup : ∀ names ∈ lb.clusterInfo.nodePools.map (fun np => np.nodes.map (·.name)),
        names.Nodup := by
      intro names hnames
      obtain ⟨np, hnp, rfl⟩ := List.mem_map.mp hnames
      exact ((htidy.loadBalancers lb hmem).nodePools np hnp).nodes
    rw [hnames, List.forall_mem_cons] at hnodup
    exact absurd hnodup.1 (by decide)

end Manager

end Claudie
