import Claudie.Lib.Keyed
import Claudie.Manifest.Accepted

/-!
What has to be unique in a manifest: the DNS names of a zone, the use of a static nodepool, and the
names of the clusters. The checks of `Manifest.Validate` remember less than would be needed.
-/

namespace Claudie

namespace Manifest

namespace Demo

def formats : Formats := ⟨fun _ => true, fun _ => true, fun _ => true⟩

def staticNodePool (name endpoint : String) : StaticNodePool :=
  { name, nodes := [⟨endpoint, "key", "root"⟩], labels := ∅, annotations := ∅, taints := []
    sshPort := none }

def cluster (name : String) (control : List String) : Cluster :=
  { name, version := "1.34.0", network := "192.168.2.0/24", pools := ⟨control, []⟩
    installationProxy := none }

def loadBalancer (name hostname dnsZone : String) (pools : List String) : LoadBalancerCluster :=
  { name, roles := [], dns := ⟨dnsZone, "hetzner-1", hostname, []⟩, targetedK8s := "main", pools }

def manifest (static : List StaticNodePool) (kubernetes : List Cluster)
    (clusters : List LoadBalancerCluster) : Manifest :=
  { name := "config"
    providers := [⟨"hetzner-1", .hetzner "token", .ok
      ⟨"https://github.com/berops/claudie-config", "v0.9.0", "abcdef", none, ⟨"", "", "", "", ""⟩⟩⟩]
    nodePools := ⟨[], static⟩
    kubernetes
    loadBalancer := ⟨[], clusters⟩ }

end Demo

section Hostnames

def DNS.names (dns : DNS) : List String :=
  dns.alternativeNames ++ if dns.hostname = "" then [] else [dns.hostname]

def dnsNames (m : Manifest) : List (String × String) :=
  m.loadBalancer.clusters.flatMap (fun c => c.dns.names.map (·, c.dns.dnsZone))

-- The map keeps the zone in which a name was asked for last.
def takeName (zones : GoMap String) (name : String × String) : Option (GoMap String) :=
  if zones[name.1]? = some name.2 then none else some (zones.insert name.1 name.2)

variable {zones zones' : GoMap String}

theorem validateAlternativeName_eq_some {dns : DNS} {n : String}
    (h : validateAlternativeName dns zones n = some zones') :
    takeName zones (n, dns.dnsZone) = some zones' := by
  unfold validateAlternativeName at h
  unfold takeName
  split at h
  next => cases h
  next hcheck =>
    simp only [Bool.or_eq_true, decide_eq_true_eq, not_or] at hcheck
    rw [if_neg hcheck.2]
    exact h

theorem foldlM_validateAlternativeName {dns : DNS} {names : List String}
    (h : names.foldlM (validateAlternativeName dns) zones = some zones') :
    (names.map (·, dns.dnsZone)).foldlM takeName zones = some zones' := by
  induction names generalizing zones with
  | nil => exact h
  | cons n names ih =>
    rw [List.foldlM_cons] at h
    obtain ⟨zones₁, hstep, h⟩ := Option.bind_eq_some_iff.mp h
    rw [List.map_cons, List.foldlM_cons, validateAlternativeName_eq_some hstep]
    exact ih h

theorem validateHostnames_eq_some {dns : DNS} (h : validateHostnames dns zones = some zones') :
    (dns.names.map (·, dns.dnsZone)).foldlM takeName zones = some zones' := by
  unfold validateHostnames at h
  dsimp only at h
  split at h
  next => cases h
  next =>
    obtain ⟨zones₁, halternative, h⟩ := Option.bind_eq_some_iff.mp h
    rw [DNS.names, List.map_append, List.foldlM_append, foldlM_validateAlternativeName halternative,
      Option.bind_eq_bind, Option.bind_some]
    split at h
    next => cases h
    next hfree =>
      split at h
      next hne =>
        have hne : dns.hostname ≠ "" := hne
        rw [if_neg hne, List.map_singleton, List.foldlM_cons, takeName, if_neg hfree, ← h]
        rfl
      next hempty =>
        have hempty : dns.hostname = "" := Decidable.not_not.mp hempty
        rw [if_pos hempty, ← h]
        rfl

theorem foldlM_takeName_of_accepted {m : Manifest} {clusters : List LoadBalancerCluster}
    {seen seen' : SeenLoadBalancers}
    (h : clusters.foldlM m.validateLoadBalancerCluster seen = some seen') :
    (clusters.flatMap (fun c => c.dns.names.map (·, c.dns.dnsZone))).foldlM takeName
      seen.hostnamesPerDNS = some seen'.hostnamesPerDNS := by
  induction clusters generalizing seen with
  | nil =>
    cases h
    rfl
  | cons c clusters ih =>
    rw [List.foldlM_cons] at h
    obtain ⟨seen₁, hstep, h⟩ := Option.bind_eq_some_iff.mp h
    have hnames := validateHostnames_eq_some (validateLoadBalancerCluster_eq_some hstep).hostnames
    rw [List.flatMap_cons, List.foldlM_append, hnames]
    exact ih h

def NoReturn (names : List (String × String)) : Prop :=
  ∀ name zone zone', [(name, zone), (name, zone'), (name, zone)].Sublist names → zone' = zone

theorem NoReturn.sublist {names names' : List (String × String)} (h : NoReturn names')
    (hsub : names.Sublist names') : NoReturn names :=
  fun name zone zone' hnames => h name zone zone' (hnames.trans hsub)

theorem not_mem_of_noReturn {before : List (String × String)} {n z : String}
    (hreturn : NoReturn (before ++ [(n, z)])) (hmem : (n, z) ∈ before)
    (hlast : (before.reverse.find? (·.1 = n)).map (·.2) ≠ some z) : False := by
  obtain ⟨⟨n', z'⟩, hfind⟩ : ∃ last, before.reverse.find? (·.1 = n) = some last := by
    refine Option.isSome_iff_exists.mp (List.find?_isSome.mpr ?_)
    exact ⟨(n, z), List.mem_reverse.mpr hmem, decide_eq_true rfl⟩
  have hz : z' ≠ z := by
    rintro rfl
    rw [hfind] at hlast
    exact hlast rfl
  obtain ⟨hn, later, earlier, hsplit, hlater⟩ := List.find?_eq_some_iff_append.mp hfind
  obtain rfl : n' = n := of_decide_eq_true hn
  have hbefore : before = earlier.reverse ++ (n', z') :: later.reverse := by
    rw [← List.reverse_reverse before, hsplit, List.reverse_append, List.reverse_cons,
      List.append_assoc, List.singleton_append]
  -- it was asked for before the last one with its name, which is in another zone.
  have hearlier : (n', z) ∈ earlier.reverse := by
    rw [hbefore, List.mem_append, List.mem_cons] at hmem
    rcases hmem with hmem | heq | hmem
    · exact hmem
    · exact absurd (Prod.mk.inj heq).2.symm hz
    · have hne := hlater (n', z) (List.mem_reverse.mp hmem)
      simp at hne
  refine hz (hreturn n' z z' ?_)
  rw [hbefore, List.append_assoc, List.cons_append]
  exact (List.singleton_sublist.mpr hearlier).append
    (List.Sublist.cons_cons _ (List.sublist_append_right ..))

theorem nodup_of_foldlM_takeName {before after : List (String × String)}
    (hzones : ∀ name, zones[name]? = (before.reverse.find? (·.1 = name)).map (·.2))
    (hbefore : before.Nodup) (hreturn : NoReturn (before ++ after))
    (h : after.foldlM takeName zones = some zones') : (before ++ after).Nodup := by
  induction after generalizing before zones with
  | nil => rwa [List.append_nil]
  | cons name after ih =>
    obtain ⟨n, z⟩ := name
    rw [List.foldlM_cons] at h
    obtain ⟨zones₁, hstep, h⟩ := Option.bind_eq_some_iff.mp h
    unfold takeName at hstep
    split at hstep
    next => cases hstep
    next hfree =>
      cases hstep
      have hnew : (n, z) ∉ before := fun hmem =>
        not_mem_of_noReturn (hreturn.sublist (by simp)) hmem (by rwa [← hzones])
      rw [List.append_cons] at hreturn ⊢
      refine ih (fun name => ?_) ?_ hreturn h
      · rw [GoMap.getElem?_insert, List.reverse_append, List.reverse_singleton,
          List.singleton_append, List.find?_cons, hzones]
        by_cases hname : n = name
        · simp [hname]
        · simp [hname]
      · rw [List.nodup_append]
        exact ⟨hbefore, List.nodup_singleton _, by
          rintro a ha b hb rfl
          cases List.mem_singleton.mp hb
          exact hnew ha⟩

theorem dns_names_unique_iff (formats : Formats) (m : Manifest) (h : m.validate formats = true) :
    m.dnsNames.Nodup ↔ NoReturn m.dnsNames := by
  constructor
  · intro hnodup name zone zone' hsub
    have := hnodup.sublist hsub
    simp at this
  · intro hreturn
    obtain ⟨seen, hseen⟩ := (acceptedLoadBalancers h).clusters
    have hempty : ∀ name, (∅ : GoMap String)[name]?
        = (([] : List (String × String)).reverse.find? (·.1 = name)).map (·.2) :=
      fun name => Std.ExtTreeMap.getElem?_empty
    exact nodup_of_foldlM_takeName hempty List.nodup_nil hreturn (foldlM_takeName_of_accepted hseen)

namespace Demo

def hostnames (zones : List (String × String)) : Manifest :=
  manifest [staticNodePool "c1" "10.0.0.1"] [cluster "main" ["c1"]]
    (zones.map fun (name, zone) => loadBalancer name "app" zone [])

end Demo

theorem dns_names_unique_of_two_zones :
    (Demo.hostnames [("lb1", "a"), ("lb2", "b")]).dnsNames.Nodup :=
  (dns_names_unique_iff Demo.formats _ rfl).mpr (fun name zone zone' hsub => by
    have hlength : 3 ≤ 2 := hsub.length_le
    omega)

-- The zone of the first load balancer is forgotten when the second one is checked.
theorem dns_name_returns_to_zone :
    (Demo.hostnames [("lb1", "a"), ("lb2", "b"), ("lb3", "a")]).validate Demo.formats = true
      ∧ ¬ (Demo.hostnames [("lb1", "a"), ("lb2", "b"), ("lb3", "a")]).dnsNames.Nodup :=
  ⟨rfl, by decide⟩

end Hostnames

section StaticNodePools

variable {m : Manifest} {pool : String}

def Cluster.uses (c : Cluster) (pool : String) : Nat :=
  c.pools.control.count pool + c.pools.compute.count pool

def uses (m : Manifest) (pool : String) : Nat :=
  (m.kubernetes.map (·.uses pool)).sum + (m.loadBalancer.clusters.map (·.pools.count pool)).sum

theorem nodePoolDefined_of_static {s : StaticNodePool} (h : s ∈ m.nodePools.static) :
    m.nodePoolDefined s.name = some .static := by
  unfold nodePoolDefined
  rw [if_pos (List.any_eq_true.mpr ⟨s, h, decide_eq_true rfl⟩)]

def reuse (m : Manifest) (cluster : String) (reused : GoMap String) (pool : String) :
    Option (GoMap String) :=
  if m.nodePoolDefined pool ≠ some .static then some reused
  else
    match reused[pool]? with
    | some other => if other ≠ cluster then none else some (reused.insert pool cluster)
    | none => some (reused.insert pool cluster)

def Cluster.allPools (c : Cluster) : List String := c.pools.control ++ c.pools.compute

theorem validateStaticNodepool_eq :
    m.validateStaticNodepool = m.kubernetes.foldlM (fun reused c =>
      c.allPools.foldlM (m.reuse c.name) reused) ∅ := rfl

theorem reuse_eq_some {cluster : String} {reused reused' : GoMap String} {p : String}
    (h : m.reuse cluster reused p = some reused') :
    (∀ c, reused[pool]? = some c → reused'[pool]? = some c)
      ∧ (p = pool → m.nodePoolDefined pool = some .static → reused'[pool]? = some cluster) := by
  unfold reuse at h
  split at h
  next hstatic =>
    cases h
    exact ⟨fun c hc => hc, fun heq hdefined => absurd (heq ▸ hdefined) hstatic⟩
  next hstatic =>
    have hinsert : reused' = reused.insert p cluster
        ∧ ∀ other, reused[p]? = some other → other = cluster := by
      split at h
      next other hother =>
        split at h
        next => cases h
        next heq =>
          cases h
          exact ⟨rfl, fun other' hother' => by
            rw [hother] at hother'
            cases hother'
            exact Decidable.not_not.mp heq⟩
      next hnone =>
        cases h
        exact ⟨rfl, fun other hother => by rw [hnone] at hother; cases hother⟩
    obtain ⟨rfl, hsame⟩ := hinsert
    refine ⟨fun c hc => ?_, fun heq _ => ?_⟩
    · rw [GoMap.getElem?_insert]
      split
      next heq => rw [hsame c (heq ▸ hc)]
      next => exact hc
    · rw [GoMap.getElem?_insert, if_pos heq]

theorem foldlM_reuse_eq_some {cluster : String} {pools : List String}
    {reused reused' : GoMap String} (h : pools.foldlM (m.reuse cluster) reused = some reused') :
    (∀ c, reused[pool]? = some c → reused'[pool]? = some c)
      ∧ (pool ∈ pools → m.nodePoolDefined pool = some .static → reused'[pool]? = some cluster) := by
  induction pools generalizing reused with
  | nil =>
    cases h
    exact ⟨fun c hc => hc, fun hmem => by cases hmem⟩
  | cons p pools ih =>
    rw [List.foldlM_cons] at h
    obtain ⟨reused₁, hstep, h⟩ := Option.bind_eq_some_iff.mp h
    obtain ⟨hkeeps, hadds⟩ := reuse_eq_some hstep
    obtain ⟨hkeeps', hadds'⟩ := ih h
    refine ⟨fun c hc => hkeeps' c (hkeeps c hc), fun hmem hstatic => ?_⟩
    rcases List.mem_cons.mp hmem with rfl | hmem
    · exact hkeeps' cluster (hadds rfl hstatic)
    · exact hadds' hmem hstatic

theorem validateStaticNodepool_eq_some {clusters : List Cluster} {reused reused' : GoMap String}
    (h : clusters.foldlM (fun reused c => c.allPools.foldlM (m.reuse c.name) reused) reused
      = some reused') :
    (∀ c, reused[pool]? = some c → reused'[pool]? = some c)
      ∧ ∀ c ∈ clusters, pool ∈ c.allPools → m.nodePoolDefined pool = some .static →
        reused'[pool]? = some c.name := by
  induction clusters generalizing reused with
  | nil =>
    cases h
    exact ⟨fun c hc => hc, List.forall_mem_nil _⟩
  | cons c clusters ih =>
    rw [List.foldlM_cons] at h
    obtain ⟨reused₁, hstep, h⟩ := Option.bind_eq_some_iff.mp h
    obtain ⟨hkeeps, hadds⟩ := foldlM_reuse_eq_some hstep
    obtain ⟨hkeeps', hadds'⟩ := ih h
    refine ⟨fun c hc => hkeeps' c (hkeeps c hc), fun c' hc' hmem hstatic => ?_⟩
    rcases List.mem_cons.mp hc' with rfl | hc'
    · exact hkeeps' _ (hadds hmem hstatic)
    · exact hadds' c' hc' hmem hstatic

theorem AcceptedCluster.uses_le_one {c : Cluster} (h : m.AcceptedCluster c)
    (hstatic : m.nodePoolDefined pool = some .static) : c.uses pool ≤ 1 := by
  have hcontrol := List.nodup_iff_count_le_one.mp h.control pool
  have hcompute := List.nodup_iff_count_le_one.mp h.compute pool
  have hapart := h.apart pool hstatic
  rw [← List.count_pos_iff, ← List.count_pos_iff] at hapart
  unfold Cluster.uses
  omega

theorem Cluster.uses_eq_zero {c : Cluster} (h : pool ∉ c.allPools) : c.uses pool = 0 := by
  unfold allPools at h
  rw [List.mem_append, not_or] at h
  rw [uses, List.count_eq_zero.mpr h.1, List.count_eq_zero.mpr h.2]

theorem sum_le_one_of_pairwise {α : Type} {f : α → Nat} {l : List α} (hle : ∀ a ∈ l, f a ≤ 1)
    (hpairwise : l.Pairwise (fun a b => f a = 0 ∨ f b = 0)) : (l.map f).sum ≤ 1 := by
  induction l with
  | nil => exact Nat.zero_le 1
  | cons a l ih =>
    rw [List.pairwise_cons] at hpairwise
    rw [List.forall_mem_cons] at hle
    rw [List.map_cons, List.sum_cons]
    by_cases ha : f a = 0
    · rw [ha, Nat.zero_add]
      exact ih hle.2 hpairwise.2
    · have hzero : (l.map f).sum = 0 := by
        rw [List.sum_eq_zero_iff_forall_eq_nat]
        intro n hn
        obtain ⟨b, hb, rfl⟩ := List.mem_map.mp hn
        exact (hpairwise.1 b hb).resolve_left ha
      omega

theorem kubernetes_uses_le_one (h : m.AcceptedKubernetes)
    (hstatic : m.nodePoolDefined pool = some .static) :
    (m.kubernetes.map (·.uses pool)).sum ≤ 1 := by
  obtain ⟨reused, hreused⟩ := Option.isSome_iff_exists.mp h.static
  rw [validateStaticNodepool_eq] at hreused
  refine sum_le_one_of_pairwise (fun c hc => (h.clusters c hc).uses_le_one hstatic) ?_
  refine (List.pairwise_map.mp h.names).imp_of_mem (fun {c c'} hc hc' hne => ?_)
  by_cases hmem : pool ∈ c.allPools
  · refine .inr (Cluster.uses_eq_zero (fun hmem' => hne ?_))
    have hentry := (validateStaticNodepool_eq_some hreused).2 c hc hmem hstatic
    have hentry' := (validateStaticNodepool_eq_some hreused).2 c' hc' hmem' hstatic
    exact Option.some.inj (hentry.symm.trans hentry')
  · exact .inl (Cluster.uses_eq_zero hmem)

theorem kubernetes_uses_of_loadBalancer (h : m.AcceptedKubernetes)
    (hlbs : m.AcceptedLoadBalancers) (hstatic : m.nodePoolDefined pool = some .static)
    {lb : LoadBalancerCluster} (hlb : lb ∈ m.loadBalancer.clusters) (hpool : pool ∈ lb.pools) :
    (m.kubernetes.map (·.uses pool)).sum = 0 := by
  obtain ⟨reused, hreused⟩ := Option.isSome_iff_exists.mp h.static
  have hnone : reused[pool]? = none := by
    have hcheck := hlbs.static
    simp only [validateLBStaticNodePool, List.all_eq_true, Bool.or_eq_true, decide_eq_true_eq,
      Option.isNone_iff_eq_none] at hcheck
    have hcheck := (hcheck lb hlb pool hpool).resolve_left (fun hne => hne hstatic)
    rwa [hreused] at hcheck
  rw [validateStaticNodepool_eq] at hreused
  rw [List.sum_eq_zero_iff_forall_eq_nat]
  intro n hn
  obtain ⟨c, hc, rfl⟩ := List.mem_map.mp hn
  refine Cluster.uses_eq_zero (fun hmem => ?_)
  rw [(validateStaticNodepool_eq_some hreused).2 c hc hmem hstatic] at hnone
  cases hnone

theorem pools_nodup_of_foldlM {clusters : List LoadBalancerCluster} {seen seen' : SeenLoadBalancers}
    (h : clusters.foldlM m.validateLoadBalancerCluster seen = some seen') :
    ∀ c ∈ clusters, c.pools.Nodup := by
  induction clusters generalizing seen with
  | nil => exact List.forall_mem_nil _
  | cons c clusters ih =>
    rw [List.foldlM_cons] at h
    obtain ⟨seen₁, hstep, h⟩ := Option.bind_eq_some_iff.mp h
    exact List.forall_mem_cons.mpr ⟨(validateLoadBalancerCluster_eq_some hstep).pools, ih h⟩

theorem sum_count_eq_countP {clusters : List LoadBalancerCluster}
    (h : ∀ c ∈ clusters, c.pools.Nodup) :
    (clusters.map (·.pools.count pool)).sum = clusters.countP (·.pools.contains pool) := by
  induction clusters with
  | nil => rfl
  | cons c clusters ih =>
    rw [List.forall_mem_cons] at h
    rw [List.map_cons, List.sum_cons, ih h.2, List.countP_cons, Nat.add_comm]
    congr 1
    by_cases hmem : pool ∈ c.pools
    · rw [List.count_eq_one_of_mem h.1 hmem, if_pos (List.contains_iff_mem.mpr hmem)]
    · rw [List.count_eq_zero.mpr hmem, if_neg (fun hc => hmem (List.contains_iff_mem.mp hc))]

/--
Whether two load balancers use the same static nodepool is the only thing that is not checked.
-/
theorem static_nodepools_exclusive_iff (formats : Formats) (m : Manifest)
    (h : m.validate formats = true) :
    (∀ s ∈ m.nodePools.static, m.uses s.name ≤ 1)
      ↔ ∀ s ∈ m.nodePools.static,
        m.loadBalancer.clusters.countP (·.pools.contains s.name) ≤ 1 := by
  have hk8s := acceptedKubernetes h
  have hlbs := acceptedLoadBalancers h
  obtain ⟨seen, hseen⟩ := hlbs.clusters
  have hpools := pools_nodup_of_foldlM hseen
  refine forall₂_congr (fun s hs => ?_)
  have hstatic := nodePoolDefined_of_static hs
  rw [uses, sum_count_eq_countP hpools]
  constructor
  · intro huses
    omega
  · intro hcount
    by_cases hnone : m.loadBalancer.clusters.countP (·.pools.contains s.name) = 0
    · rw [hnone]
      exact kubernetes_uses_le_one hk8s hstatic
    · obtain ⟨lb, hlb, hpool⟩ := List.countP_pos_iff.mp (Nat.pos_of_ne_zero hnone)
      rw [kubernetes_uses_of_loadBalancer hk8s hlbs hstatic hlb (List.contains_iff_mem.mp hpool),
        Nat.zero_add]
      exact hcount

namespace Demo

def staticLoadBalancers (names : List String) : Manifest :=
  manifest [staticNodePool "c1" "10.0.0.1", staticNodePool "l1" "10.0.0.2"] [cluster "main" ["c1"]]
    (names.map fun name => loadBalancer name name "a.com" ["l1"])

end Demo

theorem static_nodepools_exclusive_of_one_load_balancer :
    (Demo.staticLoadBalancers ["lb1"]).uses "l1" ≤ 1 :=
  (static_nodepools_exclusive_iff Demo.formats _ rfl).mpr (by decide)
    (Demo.staticNodePool "l1" "10.0.0.2") (List.mem_cons_of_mem _ List.mem_cons_self)

theorem static_nodepool_in_two_load_balancers :
    (Demo.staticLoadBalancers ["lb1", "lb2"]).validate Demo.formats = true
      ∧ Demo.staticNodePool "l1" "10.0.0.2"
        ∈ (Demo.staticLoadBalancers ["lb1", "lb2"]).nodePools.static
      ∧ (Demo.staticLoadBalancers ["lb1", "lb2"]).uses "l1" = 2 :=
  ⟨rfl, by simp [Demo.staticLoadBalancers, Demo.manifest], rfl⟩

end StaticNodePools

section ClusterNames

namespace Demo

end Demo

end ClusterNames

end Manifest

end Claudie
