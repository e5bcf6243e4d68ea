import Claudie.Lib.List
import Claudie.Manifest.Uniqueness
import Mathlib.Data.List.Pairwise

/-!
The load balancers of the API server. The validator remembers the last role with the port of the API
server and checks the load balancers against that one only.
-/

namespace Claudie

namespace Manifest

def apiServerRoles (m : Manifest) (lb : LoadBalancerCluster) : List Role :=
  m.loadBalancer.roles.filter (fun r => r.targetPort = apiServerPort && lb.roles.contains r.name)

def servesApiServer (m : Manifest) (c : Cluster) (lb : LoadBalancerCluster) : Bool :=
  lb.targetedK8s = c.name && !(m.apiServerRoles lb).isEmpty

structure ApiServerUnique (m : Manifest) (c : Cluster) : Prop where
  one : m.loadBalancer.clusters.countP (m.servesApiServer c) ≤ 1
  control : ∀ lb ∈ m.loadBalancer.clusters, m.servesApiServer c lb = true →
    ∀ r ∈ m.apiServerRoles lb, ∀ np ∈ r.targetPools, np ∈ c.pools.control
  alternativeNames : ∀ lb ∈ m.loadBalancer.clusters, m.servesApiServer c lb = true →
    lb.dns.alternativeNames = []

/--
What the validator leaves unchecked: the roles for the API server other than the last one that is
defined.
-/
def OtherApiServerRoles (m : Manifest) (c : Cluster) : Prop :=
  ∀ lb ∈ m.loadBalancer.clusters, m.servesApiServer c lb = true →
    ∀ r ∈ m.apiServerRoles lb, apiServerRole m.loadBalancer ≠ some r →
      (∀ np ∈ r.targetPools, np ∈ c.pools.control) ∧ lb.dns.alternativeNames = []
        ∧ ∀ lb' ∈ m.loadBalancer.clusters, lb ≠ lb' → m.servesApiServer c lb' = false

variable {m : Manifest} {api : Role} {lb : LoadBalancerCluster}
  {apiServerLBs apiServerLBs' : List String}

structure AcceptedApiServer (m : Manifest) (api : Role) (lb : LoadBalancerCluster) : Prop where
  alternativeNames : lb.dns.alternativeNames = []
  control : ∀ c ∈ m.kubernetes, c.name = lb.targetedK8s → ∀ np ∈ api.targetPools,
    np ∈ c.pools.control

theorem validateAttachedRole_eq_some {role : String}
    (hapi : apiServerRole m.loadBalancer = some api)
    (h : m.validateAttachedRole lb apiServerLBs role = some apiServerLBs') :
    role ≠ api.name ∧ apiServerLBs' = apiServerLBs
      ∨ role = api.name ∧ lb.targetedK8s ∉ apiServerLBs ∧ m.AcceptedApiServer api lb
        ∧ apiServerLBs' = lb.targetedK8s :: apiServerLBs := by
  obtain ⟨roleDef, -, h⟩ := Option.bind_eq_some_iff.mp h
  dsimp only at h
  split at h
  next => cases h
  next =>
    rw [hapi] at h
    dsimp only at h
    split at h
    next hrole => exact .inl ⟨hrole, (Option.some.inj h).symm⟩
    next hrole =>
      split at h
      next => cases h
      next hchecks =>
        simp only [Bool.or_eq_true, List.contains_iff_mem, decide_eq_true_eq, Nat.pos_iff_ne_zero,
          Bool.not_eq_true', Bool.not_eq_false, not_or, not_not, List.length_eq_zero_iff,
          List.all_eq_true, List.mem_filter, and_imp, gt_iff_lt] at hchecks
        obtain ⟨⟨hnew, hnames⟩, hcontrol⟩ := hchecks
        exact .inr ⟨not_not.mp hrole, hnew, ⟨hnames, hcontrol⟩, (Option.some.inj h).symm⟩

theorem foldlM_validateAttachedRole {roles : List String}
    (hapi : apiServerRole m.loadBalancer = some api)
    (h : roles.foldlM (m.validateAttachedRole lb) apiServerLBs = some apiServerLBs') :
    apiServerLBs ⊆ apiServerLBs' ∧ (api.name ∈ roles →
      lb.targetedK8s ∉ apiServerLBs ∧ lb.targetedK8s ∈ apiServerLBs'
        ∧ m.AcceptedApiServer api lb) := by
  induction roles generalizing apiServerLBs with
  | nil =>
    cases h
    exact ⟨List.Subset.refl _, fun hmem => by cases hmem⟩
  | cons role roles ih =>
    rw [List.foldlM_cons] at h
    obtain ⟨after, hrole, h⟩ := Option.bind_eq_some_iff.mp h
    obtain ⟨hsub, hroles⟩ := ih h
    rcases validateAttachedRole_eq_some hapi hrole with ⟨hne, rfl⟩ | ⟨rfl, hnew, haccepted, rfl⟩
    · refine ⟨hsub, fun hmem => hroles ?_⟩
      exact (List.mem_cons.mp hmem).resolve_left (Ne.symm hne)
    · refine ⟨fun t ht => hsub (List.mem_cons_of_mem _ ht), fun _ => ⟨hnew, ?_, haccepted⟩⟩
      exact hsub List.mem_cons_self

theorem accepted_of_last_role {clusters : List LoadBalancerCluster} {seen seen' : SeenLoadBalancers}
    (hapi : apiServerRole m.loadBalancer = some api)
    (h : clusters.foldlM m.validateLoadBalancerCluster seen = some seen') :
    (∀ lb ∈ clusters, api.name ∈ lb.roles →
        lb.targetedK8s ∉ seen.apiServerLBExists ∧ m.AcceptedApiServer api lb)
      ∧ clusters.Pairwise (fun lb lb' => api.name ∈ lb.roles → api.name ∈ lb'.roles →
        lb.targetedK8s ≠ lb'.targetedK8s) := by
  induction clusters generalizing seen with
  | nil => exact ⟨List.forall_mem_nil _, List.Pairwise.nil⟩
  | cons lb clusters ih =>
    rw [List.foldlM_cons] at h
    obtain ⟨after, hlb, h⟩ := Option.bind_eq_some_iff.mp h
    obtain ⟨haccepted, hpairwise⟩ := ih h
    obtain ⟨hsub, hroles⟩ :=
      foldlM_validateAttachedRole hapi (validateLoadBalancerCluster_eq_some hlb).roles
    constructor
    · intro lb' hlb' hapi'
      rcases List.mem_cons.mp hlb' with rfl | hlb'
      · exact ⟨(hroles hapi').1, (hroles hapi').2.2⟩
      · exact ⟨fun hmem => (haccepted lb' hlb' hapi').1 (hsub hmem), (haccepted lb' hlb' hapi').2⟩
    · refine List.pairwise_cons.mpr ⟨fun lb' hlb' hrole hrole' heq => ?_, hpairwise⟩
      exact (haccepted lb' hlb' hrole').1 (heq ▸ (hroles hrole).2.1)

theorem apart_of_last_role {clusters : List LoadBalancerCluster} {seen seen' : SeenLoadBalancers}
    {lb lb' : LoadBalancerCluster} (hapi : apiServerRole m.loadBalancer = some api)
    (h : clusters.foldlM m.validateLoadBalancerCluster seen = some seen') (hlb : lb ∈ clusters)
    (hlb' : lb' ∈ clusters) (hne : lb ≠ lb') (hrole : api.name ∈ lb.roles)
    (hrole' : api.name ∈ lb'.roles) : lb.targetedK8s ≠ lb'.targetedK8s := by
  have hpairwise := (accepted_of_last_role hapi h).2
  have : Std.Symm (fun lb lb' : LoadBalancerCluster => api.name ∈ lb.roles →
      api.name ∈ lb'.roles → lb.targetedK8s ≠ lb'.targetedK8s) :=
    ⟨fun _ _ hapart hlb hlb' => (hapart hlb' hlb).symm⟩
  exact hpairwise.forall hlb hlb' hne hrole hrole'

theorem mem_apiServerRoles {r : Role} :
    r ∈ m.apiServerRoles lb
      ↔ r ∈ m.loadBalancer.roles ∧ r.targetPort = apiServerPort ∧ r.name ∈ lb.roles := by
  simp [apiServerRoles]

theorem servesApiServer_iff {c : Cluster} :
    m.servesApiServer c lb = true ↔ lb.targetedK8s = c.name ∧ ∃ r, r ∈ m.apiServerRoles lb := by
  rw [servesApiServer, Bool.and_eq_true, decide_eq_true_eq, Bool.not_eq_true',
    List.isEmpty_eq_false_iff_exists_mem]

theorem api_server_unique_iff (formats : Formats) (m : Manifest) (h : m.validate formats = true)
    (c : Cluster) (hc : c ∈ m.kubernetes) : m.ApiServerUnique c ↔ m.OtherApiServerRoles c := by
  obtain ⟨-, hnames, ⟨seen, hclusters⟩, -⟩ := acceptedLoadBalancers h
  have hnodup := List.Nodup.of_map _ hnames
  constructor
  · intro hunique lb hlb hserves r hr _
    refine ⟨hunique.control lb hlb hserves r hr, hunique.alternativeNames lb hlb hserves,
      fun lb' hlb' hne => ?_⟩
    exact (List.countP_le_one_iff hnodup).mp hunique.one lb hlb lb' hlb' hne hserves
  · intro hother
    -- Each attached role is the last one, which was checked, or meets the condition.
    have hrole : ∀ lb ∈ m.loadBalancer.clusters, m.servesApiServer c lb = true →
        ∀ r ∈ m.apiServerRoles lb,
          (∀ np ∈ r.targetPools, np ∈ c.pools.control) ∧ lb.dns.alternativeNames = [] := by
      intro lb hlb hserves r hr
      by_cases hlast : apiServerRole m.loadBalancer = some r
      · have haccepted := ((accepted_of_last_role hlast hclusters).1 lb hlb
          (mem_apiServerRoles.mp hr).2.2).2
        exact ⟨haccepted.control c hc (servesApiServer_iff.mp hserves).1.symm,
          haccepted.alternativeNames⟩
      · exact ⟨(hother lb hlb hserves r hr hlast).1, (hother lb hlb hserves r hr hlast).2.1⟩
    refine ⟨?_, fun lb hlb hserves r hr => (hrole lb hlb hserves r hr).1, fun lb hlb hserves => ?_⟩
    · refine (List.countP_le_one_iff hnodup).mpr fun lb hlb lb' hlb' hne hserves => ?_
      rw [← Bool.not_eq_true]
      intro hserves'
      obtain ⟨htarget, r, hr⟩ := servesApiServer_iff.mp hserves
      obtain ⟨htarget', r', hr'⟩ := servesApiServer_iff.mp hserves'
      by_cases hlast : apiServerRole m.loadBalancer = some r
      · by_cases hlast' : apiServerRole m.loadBalancer = some r'
        · cases hlast.symm.trans hlast'
          exact apart_of_last_role hlast hclusters hlb hlb' hne (mem_apiServerRoles.mp hr).2.2
            (mem_apiServerRoles.mp hr').2.2 (htarget.trans htarget'.symm)
        · have := (hother lb' hlb' hserves' r' hr' hlast').2.2 lb hlb (Ne.symm hne)
          exact absurd hserves (Bool.eq_false_iff.mp this)
      · have := (hother lb hlb hserves r hr hlast).2.2 lb' hlb' hne
        exact absurd hserves' (Bool.eq_false_iff.mp this)
    · obtain ⟨-, r, hr⟩ := servesApiServer_iff.mp hserves
      exact (hrole lb hlb hserves r hr).2

namespace Demo

def apiRole (name : String) : Role := ⟨name, "tcp", 6443, 6443, ["c1"], none⟩

def apiServers (roles : List String) : Manifest :=
  { manifest [staticNodePool "c1" "10.0.0.1"] [cluster "main" ["c1"]] [] with
    loadBalancer := ⟨roles.map apiRole,
      roles.map (fun role => { loadBalancer role role "a.com" [] with roles := [role] })⟩ }

end Demo

theorem api_server_unique_of_one_role :
    (Demo.apiServers ["api"]).ApiServerUnique (Demo.cluster "main" ["c1"]) :=
  (api_server_unique_iff Demo.formats _ rfl _ List.mem_cons_self).mpr (by
    unfold OtherApiServerRoles
    decide)

theorem two_api_server_load_balancers :
    (Demo.apiServers ["api", "api2"]).validate Demo.formats = true
      ∧ Demo.cluster "main" ["c1"] ∈ (Demo.apiServers ["api", "api2"]).kubernetes
      ∧ ¬ (Demo.apiServers ["api", "api2"]).ApiServerUnique (Demo.cluster "main" ["c1"]) :=
  ⟨rfl, List.mem_cons_self, fun h => absurd h.one (by decide)⟩

end Manifest

end Claudie
