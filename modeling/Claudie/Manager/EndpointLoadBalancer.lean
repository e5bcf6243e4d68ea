import Claudie.Manager.Completeness
import Claudie.Manager.Lemmas.Schedule

/-!
The load balancer that has the api endpoint, and when it keeps the role for it.
-/

namespace Claudie

namespace Manager

section

variable {e : LBcluster} {lbs dlbs : List LBcluster}

def candidates (dlbs : List LBcluster) : List LBcluster :=
  dlbs.filter (fun lb => lb.hasApiRole && lb.dns.isSome)

variable {ord : MapOrder} {entropy : Entropy} {id : TaskId} {hc : HealthCheckStatus}
  {proxy : ProxyDiffResult} {current desired : Clusters}

structure BeforeRoles (lbs dlbs : List LBcluster) : Prop where
  added : (loadBalancersDiff lbs dlbs).added = []
  nodes : ∀ (k : String) (m : ModifiedLoadBalancer),
    (loadBalancersDiff lbs dlbs).modified[k]? = some m → NodesSettled m
  roles : ∀ (k : String) (m : ModifiedLoadBalancer),
    (loadBalancersDiff lbs dlbs).modified[k]? = some m → m.roles.added = []

theorem loadBalancersDiff_apiEndpoint {cur new : String} {state : ApiEndpointChangeState}
    (h : determineLBApiEndpointChange lbs dlbs = (cur, new, state)) :
    (loadBalancersDiff lbs dlbs).apiEndpointCurrent = cur
      ∧ (loadBalancersDiff lbs dlbs).apiEndpointNew = new
      ∧ (loadBalancersDiff lbs dlbs).apiEndpointState = state := by
  unfold loadBalancersDiff
  rw [h]
  exact ⟨rfl, rfl, rfl⟩

theorem BeforeRoles.rolesSynced (h : BeforeRoles lbs dlbs) (lb : String) :
    LoadBalancersReconciliate.rolesSynced ⟨hc, loadBalancersDiff lbs dlbs, proxy, current, desired⟩ lb
      = true := by
  unfold LoadBalancersReconciliate.rolesSynced
  split
  next m hm => simpa using h.roles lb m hm
  next => rfl

end

namespace Demo

namespace Endpoint

open Mixed

def lb (roles : List Role) : LBcluster :=
  { Mixed.lb "lb1" [machines 1] with roles, usedApiEndpoint := true }

def api : Role := role "api" 6443 .apiServer

def k8s : K8scluster := Mixed.k8s [staticPool "control" true [node "control-01" "192.0.2.1" .master]]

end Endpoint

end Demo

end Manager

end Claudie
