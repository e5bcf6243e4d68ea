import Claudie.Manager.DesiredState
import Claudie.Manager.Lemmas.References

/-!
The clusters that are made of a manifest before the existing state is looked at.
-/

namespace Claudie

namespace Manifest

variable {m : Manifest} {name : String} {isControl : Bool} {np : Claudie.NodePool}

def types (m : Manifest) : List String := m.nodePools.dynamic.map (·.name)

theorem mem_types : name ∈ m.types ↔ (m.findDynamicNodePool name).isSome = true := by
  unfold types findDynamicNodePool
  rw [List.find?_isSome, List.mem_map]
  simp only [decide_eq_true_eq]

theorem findDynamicNodePool_name {d : DynamicNodePool} (h : m.findDynamicNodePool name = some d) :
    d.name = name := by
  simpa using List.find?_some h

theorem findStaticNodePool_name {s : StaticNodePool} (h : m.findStaticNodePool name = some s) :
    s.name = name := by
  simpa using List.find?_some h

theorem createNodepool_eq_ok (h : m.createNodepool isControl name = .ok np) :
    np.name = name ∧ np.isControl = isControl
      ∧ ((∃ d provider, m.findDynamicNodePool name = some d
          ∧ m.getProvider d.providerSpec.name = .ok provider ∧ np = d.message provider isControl)
        ∨ m.findDynamicNodePool name = none ∧ ∃ s, m.findStaticNodePool name = some s
          ∧ s.message isControl = .ok np) := by
  unfold createNodepool at h
  split at h
  next d hd =>
    obtain ⟨provider, hprovider, h⟩ := Outcome.bind_eq_ok.mp h
    cases h
    exact ⟨findDynamicNodePool_name hd, rfl, .inl ⟨d, provider, hd, hprovider, rfl⟩⟩
  next hd =>
    split at h
    next s hs =>
      have hmessage := h
      unfold StaticNodePool.message at h
      obtain ⟨nodes, -, h⟩ := Outcome.bind_eq_ok.mp h
      cases h
      exact ⟨findStaticNodePool_name hs, rfl, .inr ⟨hd, s, hs, hmessage⟩⟩
    next => cases h

def Makes (m : Manifest) (np : Claudie.NodePool) : Prop :=
  ∃ isControl, m.createNodepool isControl np.name = .ok np

theorem isDynamic_of_makes (h : m.Makes np) :
    np.isDynamic = (m.findDynamicNodePool np.name).isSome := by
  obtain ⟨isControl, h⟩ := h
  obtain ⟨-, -, ⟨d, provider, hd, -, heq⟩ | ⟨hd, s, -, hmessage⟩⟩ := createNodepool_eq_ok h
  · rw [hd, heq]
    rfl
  · unfold StaticNodePool.message at hmessage
    obtain ⟨nodes, -, hmessage⟩ := Outcome.bind_eq_ok.mp hmessage
    rw [hd, ← Except.ok.inj hmessage]
    rfl

theorem templates_of_makes {np' : Claudie.NodePool} (h : m.Makes np) (h' : m.Makes np')
    (hdynamic : np.isDynamic = true) (hname : np'.name = np.name) :
    np'.templates = np.templates := by
  have hsome := isDynamic_of_makes h
  rw [hdynamic] at hsome
  obtain ⟨d, hd⟩ := Option.isSome_iff_exists.mp hsome.symm
  have htemplates : ∀ {np'' : Claudie.NodePool}, m.Makes np'' → np''.name = np.name →
      ∀ provider, m.getProvider d.providerSpec.name = .ok provider →
        np''.templates = some provider.templates := by
    rintro np'' ⟨isControl, h''⟩ hname'' provider hprovider
    rw [hname''] at h''
    obtain ⟨-, -, ⟨d', provider', hd', hprovider', rfl⟩ | ⟨hd', -⟩⟩ := createNodepool_eq_ok h''
    · rw [hd] at hd'
      cases hd'
      rw [hprovider] at hprovider'
      cases hprovider'
      rfl
    · rw [hd] at hd'
      cases hd'
  obtain ⟨isControl, hmade⟩ := h
  obtain ⟨-, -, ⟨d', provider, hd', hprovider, -⟩ | ⟨hd', -⟩⟩ := createNodepool_eq_ok hmade
  · rw [hd] at hd'
    cases hd'
    rw [htemplates h' hname provider hprovider, htemplates ⟨isControl, hmade⟩ rfl provider hprovider]
  · rw [hd] at hd'
    cases hd'

theorem makes_of_createNodepools {pools : List String} {nps : List Claudie.NodePool}
    (h : m.createNodepools pools isControl = .ok nps) (hnp : np ∈ nps) : m.Makes np := by
  obtain ⟨pool, -, hmade⟩ := List.exists_mem_of_forall₂ (Outcome.mapM_eq_ok.mp h) hnp
  rw [← (createNodepool_eq_ok hmade).1] at hmade
  exact ⟨isControl, hmade⟩

end Manifest

namespace Manager

variable {m : Claudie.Manifest} {draws : Draws}

def Skeleton (m : Claudie.Manifest) (draws : Draws) (desired : GoMap DesiredCluster) : Prop :=
  ∃ clusters, createK8sClustersFromManifest m draws.k8sHash = .ok clusters
    ∧ createLBClustersFromManifest m draws.lbHash clusters = .ok desired

theorem createK8sClustersFromManifest_eq_ok {hashes : Nat → Hash}
    {clusters : GoMap DesiredCluster} :
    createK8sClustersFromManifest m hashes = .ok clusters
      ↔ ∃ k8ss, List.Forall₂ (fun c k8s => createK8sCluster m (hashes c.2) c.1 = .ok k8s)
          m.kubernetes.zipIdx k8ss
        ∧ clusters = k8ss.foldl (fun into k8s =>
          into.insert k8s.clusterInfo.name { k8s, loadBalancers := [] }) ∅ := by
  have heq : createK8sClustersFromManifest m hashes = (do
      let k8ss ← m.kubernetes.zipIdx.mapM (fun c => createK8sCluster m (hashes c.2) c.1)
      pure (k8ss.foldl (fun (into : GoMap DesiredCluster) k8s =>
        into.insert k8s.clusterInfo.name { k8s, loadBalancers := [] }) ∅)) :=
    Outcome.foldlM_bind_pure
  rw [heq, Outcome.bind_eq_ok]
  exact exists_congr (fun k8ss => and_congr Outcome.mapM_eq_ok
    ⟨fun h => (Except.ok.inj h).symm, fun h => h ▸ rfl⟩)

def byTarget (lbs : List LBcluster) : GoMap (List LBcluster) :=
  lbs.foldl (fun into lb => GoMap.appendAt into lb.targetedK8s [lb]) ∅

theorem createLBClustersFromManifest_eq_ok {hashes : Nat → Hash}
    {clusters desired : GoMap DesiredCluster} :
    createLBClustersFromManifest m hashes clusters = .ok desired
      ↔ ∃ lbs, List.Forall₂ (fun c lb => createLBCluster m (hashes c.2) c.1 = .ok lb)
          m.loadBalancer.clusters.zipIdx lbs
        ∧ desired = clusters.map (fun name d =>
          { d with loadBalancers := ((byTarget lbs)[name]?).getD d.loadBalancers }) := by
  have heq : (m.loadBalancer.clusters.zipIdx.foldlM (fun lbs c => do
      let lb ← createLBCluster m (hashes c.2) c.1
      pure (GoMap.appendAt lbs lb.targetedK8s [lb])) (∅ : GoMap (List LBcluster))) = (do
      let lbs ← m.loadBalancer.clusters.zipIdx.mapM (fun c => createLBCluster m (hashes c.2) c.1)
      pure (byTarget lbs)) :=
    Outcome.foldlM_bind_pure
  unfold createLBClustersFromManifest
  erw [heq, Outcome.bind_eq_ok]
  constructor
  · rintro ⟨grouped, hgrouped, h⟩
    obtain ⟨lbs, hlbs, hgrouped⟩ := Outcome.bind_eq_ok.mp hgrouped
    cases hgrouped
    refine ⟨lbs, Outcome.mapM_eq_ok.mp hlbs, (Except.ok.inj h).symm.trans ?_⟩
    congr
    funext name d
    cases (byTarget lbs)[name]? <;> rfl
  · rintro ⟨lbs, hlbs, rfl⟩
    refine ⟨_, Outcome.bind_eq_ok.mpr ⟨lbs, Outcome.mapM_eq_ok.mpr hlbs, rfl⟩, congrArg Except.ok ?_⟩
    congr
    funext name d
    cases (byTarget lbs)[name]? <;> rfl

theorem getD_byTarget (lbs : List LBcluster) (name : String) :
    (byTarget lbs).getD name [] = lbs.filter (fun lb => lb.targetedK8s = name) := by
  unfold byTarget
  rw [GoMap.getD_foldl_appendAt, Std.ExtTreeMap.getD_empty, List.nil_append]

theorem Skeleton.getElem? {desired : GoMap DesiredCluster} (h : Skeleton m draws desired) :
    ∃ k8ss lbs, List.Forall₂ (fun c k8s => createK8sCluster m (draws.k8sHash c.2) c.1 = .ok k8s)
        m.kubernetes.zipIdx k8ss
      ∧ List.Forall₂ (fun c lb => createLBCluster m (draws.lbHash c.2) c.1 = .ok lb)
        m.loadBalancer.clusters.zipIdx lbs
      ∧ ∀ name, desired[name]? = (k8ss.reverse.find? (·.clusterInfo.name = name)).map (fun k8s =>
        { k8s, loadBalancers := lbs.filter (fun lb => lb.targetedK8s = name) }) := by
  obtain ⟨clusters, hk8s, hlb⟩ := h
  obtain ⟨k8ss, hk8ss, rfl⟩ := createK8sClustersFromManifest_eq_ok.mp hk8s
  obtain ⟨lbs, hlbs, rfl⟩ := createLBClustersFromManifest_eq_ok.mp hlb
  refine ⟨k8ss, lbs, hk8ss, hlbs, fun name => ?_⟩
  rw [Std.ExtTreeMap.getElem?_map, GoMap.getElem?_foldl_insert_key, Std.ExtTreeMap.getElem?_empty,
    Option.or_none, Option.map_map]
  congr 1
  funext k8s
  rw [Function.comp_apply, ← getD_byTarget, Std.ExtTreeMap.getD_eq_getD_getElem?]

theorem createK8sCluster_eq_ok {hash : Hash} {cluster : Manifest.Cluster} {k8s : K8scluster} :
    createK8sCluster m hash cluster = .ok k8s
      ↔ ∃ control compute, m.createNodepools cluster.pools.control true = .ok control
        ∧ m.createNodepools cluster.pools.compute false = .ok compute
        ∧ k8s =
          { clusterInfo := { name := toLower cluster.name, hash := hash.val,
                             nodePools := control ++ compute }
            network := cluster.network
            kubeconfig := ""
            kubernetes := cluster.version
            installationProxy := installationProxy cluster.installationProxy } := by
  unfold createK8sCluster
  constructor
  · intro h
    obtain ⟨control, hcontrol, h⟩ := Outcome.bind_eq_ok.mp h
    obtain ⟨compute, hcompute, h⟩ := Outcome.bind_eq_ok.mp h
    exact ⟨control, compute, Outcome.wrap_eq_ok.mp hcontrol, Outcome.wrap_eq_ok.mp hcompute,
      (Except.ok.inj h).symm⟩
  · rintro ⟨control, compute, hcontrol, hcompute, rfl⟩
    exact Outcome.bind_eq_ok.mpr ⟨control, Outcome.wrap_eq_ok.mpr hcontrol,
      Outcome.bind_eq_ok.mpr ⟨compute, Outcome.wrap_eq_ok.mpr hcompute, rfl⟩⟩

theorem createLBCluster_eq_ok {hash : Hash} {cluster : Manifest.LoadBalancerCluster}
    {lb : LBcluster} :
    createLBCluster m hash cluster = .ok lb
      ↔ ∃ dns nodePools, getDNS m cluster.dns = .ok dns
        ∧ m.createNodepools cluster.pools false = .ok nodePools
        ∧ lb =
          { clusterInfo := { name := cluster.name, hash := hash.val, nodePools }
            roles := getRolesAttachedToLBCluster m.loadBalancer.roles cluster.roles
            dns := some dns
            targetedK8s := cluster.targetedK8s
            usedApiEndpoint := false } := by
  unfold createLBCluster
  constructor
  · intro h
    obtain ⟨dns, hdns, h⟩ := Outcome.bind_eq_ok.mp h
    obtain ⟨nodePools, hnodePools, h⟩ := Outcome.bind_eq_ok.mp h
    exact ⟨dns, nodePools, Outcome.wrap_eq_ok.mp hdns, Outcome.wrap_eq_ok.mp hnodePools,
      (Except.ok.inj h).symm⟩
  · rintro ⟨dns, nodePools, hdns, hnodePools, rfl⟩
    exact Outcome.bind_eq_ok.mpr ⟨dns, Outcome.wrap_eq_ok.mpr hdns,
      Outcome.bind_eq_ok.mpr ⟨nodePools, Outcome.wrap_eq_ok.mpr hnodePools, rfl⟩⟩

theorem Skeleton.cluster {desired : GoMap DesiredCluster} (h : Skeleton m draws desired)
    {name : String} {d : DesiredCluster} (hd : desired[name]? = some d) :
    (∃ (i : Nat) (c : Manifest.Cluster), m.kubernetes[i]? = some c ∧ toLower c.name = name
        ∧ createK8sCluster m (draws.k8sHash i) c = .ok d.k8s)
      ∧ ∃ lbs, List.Forall₂ (fun c lb => createLBCluster m (draws.lbHash c.2) c.1 = .ok lb)
          m.loadBalancer.clusters.zipIdx lbs
        ∧ d.loadBalancers = lbs.filter (fun lb => lb.targetedK8s = name) := by
  obtain ⟨k8ss, lbs, hk8ss, hlbs, hentries⟩ := h.getElem?
  rw [hentries] at hd
  obtain ⟨k8s, hk8s, rfl⟩ := Option.map_eq_some_iff.mp hd
  refine ⟨?_, lbs, hlbs, rfl⟩
  have hname : k8s.clusterInfo.name = name := by simpa using List.find?_some hk8s
  obtain ⟨i, hi⟩ := List.mem_iff_getElem?.mp (List.mem_reverse.mp (List.mem_of_find?_eq_some hk8s))
  obtain ⟨hlength, hat⟩ := List.forall₂_iff_getElem?.mp hk8ss
  obtain ⟨⟨c, j⟩, hc⟩ : ∃ c, m.kubernetes.zipIdx[i]? = some c :=
    ⟨_, List.getElem?_eq_getElem (hlength ▸ (List.getElem?_eq_some_iff.mp hi).1)⟩
  have hmade := hat i (c, j) k8s hc hi
  obtain ⟨x, hx, heq⟩ := Option.map_eq_some_iff.mp (List.getElem?_zipIdx ▸ hc)
  cases heq
  rw [Nat.zero_add] at hmade
  refine ⟨i, c, hx, ?_, hmade⟩
  obtain ⟨control, compute, -, -, rfl⟩ := createK8sCluster_eq_ok.mp hmade
  exact hname

theorem Skeleton.makes {desired : GoMap DesiredCluster} (h : Skeleton m draws desired)
    {name : String} {d : DesiredCluster} (hd : desired[name]? = some d) {s : Slot}
    (hs : s ∈ d.slots) : m.Makes s.2 := by
  obtain ⟨⟨i, c, -, -, hk8s⟩, lbs, hlbs, hfilter⟩ := h.cluster hd
  rcases List.mem_append.mp hs with hs | hs
  · obtain ⟨np, hnp, rfl⟩ := List.mem_map.mp hs
    obtain ⟨control, compute, hcontrol, hcompute, heq⟩ := createK8sCluster_eq_ok.mp hk8s
    rw [heq] at hnp
    rcases List.mem_append.mp hnp with hnp | hnp
    · exact Manifest.makes_of_createNodepools hcontrol hnp
    · exact Manifest.makes_of_createNodepools hcompute hnp
  · obtain ⟨lb, hlb, hs⟩ := List.mem_flatMap.mp hs
    obtain ⟨np, hnp, rfl⟩ := List.mem_map.mp hs
    rw [hfilter] at hlb
    obtain ⟨c, -, hmade⟩ := List.exists_mem_of_forall₂ hlbs (List.mem_of_mem_filter hlb)
    obtain ⟨dns, nodePools, -, hnodePools, rfl⟩ := createLBCluster_eq_ok.mp hmade
    exact Manifest.makes_of_createNodepools hnodePools hnp

theorem Skeleton.distinctLoadBalancers {desired : GoMap DesiredCluster}
    (h : Skeleton m draws desired) (hnames : (m.loadBalancer.clusters.map (·.name)).Nodup)
    {name : String} {d : DesiredCluster} (hd : desired[name]? = some d) :
    DistinctLoadBalancers d.loadBalancers := by
  obtain ⟨-, lbs, hlbs, hfilter⟩ := h.cluster hd
  have hall : lbs.map (·.clusterInfo.name) = m.loadBalancer.clusters.map (·.name) := by
    have hmap : m.loadBalancer.clusters.zipIdx.map (fun c => c.1.name)
        = lbs.map (·.clusterInfo.name) :=
      List.map_eq_of_forall₂ hlbs (fun c lb hmade => by
        obtain ⟨dns, nodePools, -, -, rfl⟩ := createLBCluster_eq_ok.mp hmade
        rfl)
    have hfst : m.loadBalancer.clusters.zipIdx.map (fun c => c.1.name)
        = (m.loadBalancer.clusters.zipIdx.map Prod.fst).map (·.name) := by
      rw [List.map_map]
      rfl
    rw [← hmap, hfst, List.zipIdx_map_fst]
  unfold DistinctLoadBalancers
  rw [hfilter]
  exact (hall ▸ hnames).sublist (List.filter_sublist.map _)

end Manager

end Claudie
