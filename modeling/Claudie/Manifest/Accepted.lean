import Claudie.Manifest.Validate

/-!
What is known about a manifest that was accepted.
-/

namespace Claudie

namespace Manifest

variable {formats : Formats} {m : Manifest}

theorem validate_nodePools (h : m.validate formats = true) :
    m.nodePools.validate formats m = true := by
  simp only [validate, Bool.and_eq_true] at h
  exact h.1.1.1.2

theorem validate_kubernetes (h : m.validate formats = true) :
    m.validateKubernetes formats = true := by
  simp only [validate, Bool.and_eq_true] at h
  exact h.1.1.2

theorem validate_loadBalancers (h : m.validate formats = true) :
    m.validateLoadBalancers = true := by
  simp only [validate, Bool.and_eq_true] at h
  exact h.1.2

structure AcceptedNodePools (m : Manifest) : Prop where
  endpoints : (staticEndpoints m.nodePools).Nodup
  names : (nodePoolNames m.nodePools).Nodup

theorem acceptedNodePools (h : m.validate formats = true) : m.AcceptedNodePools := by
  have h := validate_nodePools h
  simp only [NodePool.validate, Bool.and_eq_true, decide_eq_true_eq] at h
  exact ⟨h.1.2, h.2⟩

structure AcceptedCluster (m : Manifest) (c : Cluster) : Prop where
  control : c.pools.control.Nodup
  compute : c.pools.compute.Nodup
  defined : ∀ pool ∈ c.pools.control ++ c.pools.compute, (m.nodePoolDefined pool).isSome = true
  apart : ∀ pool, m.nodePoolDefined pool = some .static →
    ¬ (pool ∈ c.pools.control ∧ pool ∈ c.pools.compute)

structure AcceptedKubernetes (m : Manifest) : Prop where
  names : (m.kubernetes.map (·.name)).Nodup
  clusters : ∀ c ∈ m.kubernetes, m.AcceptedCluster c
  static : m.validateStaticNodepool.isSome = true

theorem acceptedKubernetes (h : m.validate formats = true) : m.AcceptedKubernetes := by
  have h := validate_kubernetes h
  simp only [validateKubernetes, Bool.and_eq_true, List.all_eq_true, decide_eq_true_eq] at h
  obtain ⟨⟨hclusters, hnames⟩, hstatic⟩ := h
  refine ⟨hnames, fun c hc => ?_, hstatic⟩
  have hpools := (hclusters c hc).2
  simp only [validateNodepools, Bool.and_eq_true, List.all_eq_true, decide_eq_true_eq] at hpools
  obtain ⟨⟨⟨⟨hcontrol, hcompute⟩, hcontrol'⟩, hcompute'⟩, hapart⟩ := hpools
  refine ⟨hcontrol', hcompute', fun pool hpool => ?_, fun pool hpool hboth => ?_⟩
  · rcases List.mem_append.mp hpool with hpool | hpool
    · exact hcontrol pool hpool
    · exact hcompute pool hpool
  · have := hapart pool hboth.2
    simp [hpool, hboth.1] at this

structure AcceptedLoadBalancers (m : Manifest) : Prop where
  roleNames : (m.loadBalancer.roles.map (·.name)).Nodup
  names : (m.loadBalancer.clusters.map (·.name)).Nodup
  clusters : ∃ seen, m.loadBalancer.clusters.foldlM m.validateLoadBalancerCluster {} = some seen
  static : m.validateLBStaticNodePool = true

theorem acceptedLoadBalancers (h : m.validate formats = true) : m.AcceptedLoadBalancers := by
  have h := validate_loadBalancers h
  simp only [validateLoadBalancers, Bool.and_eq_true, decide_eq_true_eq] at h
  obtain ⟨⟨⟨⟨-, hroles⟩, hnames⟩, hclusters⟩, hstatic⟩ := h
  exact ⟨hroles, hnames, Option.isSome_iff_exists.mp hclusters, hstatic⟩

theorem apiServerPort_of_targetPort {r : Role} (h : m.validate formats = true)
    (hr : r ∈ m.loadBalancer.roles) (htarget : r.targetPort = apiServerPort) :
    r.port = apiServerPort := by
  have h := validate_loadBalancers h
  simp only [validateLoadBalancers, Bool.and_eq_true, List.all_eq_true] at h
  have hvalid := h.1.1.1.1 r hr
  simp only [Role.validate, Bool.and_eq_true, Bool.or_eq_true, decide_eq_true_eq] at hvalid
  exact hvalid.1.1.1.2.resolve_left (fun hne => hne htarget)

structure AcceptedLoadBalancer (m : Manifest) (seen : SeenLoadBalancers) (c : LoadBalancerCluster)
    (seen' : SeenLoadBalancers) : Prop where
  fields : c.validFields = true
  roleCount : c.roles.length ≤ maxRolesPerLoadBalancer
  roles : c.roles.foldlM (m.validateAttachedRole c) seen.apiServerLBExists
    = some seen'.apiServerLBExists
  hostnames : validateHostnames c.dns seen.hostnamesPerDNS = some seen'.hostnamesPerDNS
  target : m.isKubernetesClusterPresent c.targetedK8s = true
  defined : ∀ pool ∈ c.pools, (m.nodePoolDefined pool).isSome = true
  pools : c.pools.Nodup

theorem validateLoadBalancerCluster_eq_some {seen seen' : SeenLoadBalancers}
    {c : LoadBalancerCluster} (h : m.validateLoadBalancerCluster seen c = some seen') :
    m.AcceptedLoadBalancer seen c seen' := by
  unfold validateLoadBalancerCluster at h
  split at h
  next => cases h
  next hfields =>
    simp only [Bool.or_eq_true, decide_eq_true_eq, not_or, Bool.not_eq_true',
      Bool.not_eq_false] at hfields
    obtain ⟨apiServerLBExists, hroles, h⟩ := Option.bind_eq_some_iff.mp h
    obtain ⟨hostnames, hhostnames, h⟩ := Option.bind_eq_some_iff.mp h
    obtain ⟨providerType, -, h⟩ := Option.bind_eq_some_iff.mp h
    split at h
    next hchecks =>
      cases h
      simp only [Bool.and_eq_true, List.all_eq_true, decide_eq_true_eq] at hchecks
      obtain ⟨⟨⟨-, htarget⟩, hdefined⟩, hpools⟩ := hchecks
      exact ⟨hfields.2, by omega, hroles, hhostnames, htarget, hdefined, hpools⟩
    next => cases h

end Manifest

end Claudie
