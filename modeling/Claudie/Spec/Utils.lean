import Claudie.Lib.Outcome
import Claudie.Spec.Task

/-!
The helper methods of the `spec` package: identifiers, credentials and the state carried by a task.
-/

namespace Claudie

/-- `fmt.Sprintf("%q", s)` for a string without characters that need escaping. -/
def quoted (s : String) : String := "\"" ++ s ++ "\""

def ClusterInfo.id (c : ClusterInfo) : String := c.name ++ "-" ++ c.hash

def LBcluster.id (lb : LBcluster) : String := lb.clusterInfo.id

def K8scluster.id (k : K8scluster) : String := k.clusterInfo.id

def K8scluster.withNodePools (k8s : K8scluster) (nodePools : List NodePool) : K8scluster :=
  { k8s with clusterInfo := { k8s.clusterInfo with nodePools } }

def LBcluster.withNodePools (lb : LBcluster) (nodePools : List NodePool) : LBcluster :=
  { lb with clusterInfo := { lb.clusterInfo with nodePools } }

def LBcluster.hasApiRole (lb : LBcluster) : Bool :=
  lb.roles.any (·.roleType = .apiServer)

def LBcluster.isApiEndpoint (lb : LBcluster) : Bool :=
  lb.hasApiRole && lb.usedApiEndpoint

def NodePool.endpointNode (np : NodePool) : Option Node :=
  np.nodes.find? (·.nodeType = .apiEndpoint)

namespace NodePool

def dynamic? (np : NodePool) : Option DynamicNodePool :=
  match np.type with
  | .dynamic d => some d
  | .static _ => none

def static? (np : NodePool) : Option StaticNodePool :=
  match np.type with
  | .dynamic _ => none
  | .static s => some s

def isDynamic (np : NodePool) : Bool := np.dynamic?.isSome

def isStatic (np : NodePool) : Bool := np.static?.isSome

theorem dynamic?_eq_some {np : NodePool} {d : DynamicNodePool} :
    np.dynamic? = some d ↔ np.type = .dynamic d := by
  unfold dynamic?
  cases np.type <;> simp

theorem isStatic_eq (np : NodePool) : np.isStatic = !np.isDynamic := by
  unfold isStatic isDynamic static? dynamic?
  cases np.type <;> rfl

theorem isStatic_of_not_isDynamic {np : NodePool} (h : np.isDynamic = false) :
    np.isStatic = true := by
  rw [isStatic_eq, h]
  rfl

end NodePool

namespace ProviderType

def copyCredentials (pr other : ProviderType) : Option ProviderType :=
  match pr, other with
  | .aws _ _, .aws s a => some (.aws s a)
  | .azure sub ten cl _, .azure _ _ _ sec => some (.azure sub ten cl sec)
  | .cloudflare _ acc, .cloudflare tok _ => some (.cloudflare tok acc)
  | .cloudrift _ team, .cloudrift tok _ => some (.cloudrift tok team)
  | .exoscale _ _, .exoscale k s => some (.exoscale k s)
  | .gcp _ proj, .gcp k _ => some (.gcp k proj)
  | .hetzner _, .hetzner tok => some (.hetzner tok)
  | .oci u t _ c _, .oci _ _ f _ k => some (.oci u t f c k)
  | .openstack a d p _ _, .openstack _ _ _ i s => some (.openstack a d p i s)
  | .verda _ _ _, .verda i s b => some (.verda i s b)
  | .ovh _ _ _ e, .ovh i s n _ => some (.ovh i s n e)
  | _, _ => none

def credentialsEqual (pr other : ProviderType) : Bool :=
  match pr, other with
  | .aws s a, .aws s' a' => a = a' && s = s'
  | .azure _ _ _ s, .azure _ _ _ s' => s = s'
  | .cloudflare t _, .cloudflare t' _ => t = t'
  | .cloudrift t _, .cloudrift t' _ => t = t'
  | .exoscale k s, .exoscale k' s' => s = s' && k = k'
  | .gcp k _, .gcp k' _ => k = k'
  | .hetzner t, .hetzner t' => t = t'
  | .oci _ _ f _ k, .oci _ _ f' _ k' => f = f' && k = k'
  | .openstack _ _ _ i s, .openstack _ _ _ i' s' => i = i' && s = s'
  | .verda i s b, .verda i' s' b' => i = i' && s = s' && b.getD "" = b'.getD ""
  | .ovh i s n _, .ovh i' s' n' _ => i = i' && s = s' && n = n'
  | _, _ => false

end ProviderType

namespace Task

def clusters : Task → Clusters
  | .create s => s
  | .update s _ => s
  | .delete s => s

def replaceClusters (c : Clusters) : Task → Task
  | .create _ => .create c
  | .update _ d => .update c d
  | .delete _ => .delete c

@[simp]
theorem clusters_replaceClusters (t : Task) (c : Clusters) :
    (t.replaceClusters c).clusters = c := by
  cases t <;> rfl

@[simp]
theorem replaceClusters_clusters (t : Task) : t.replaceClusters t.clusters = t := by
  cases t <;> rfl

def delta? : Task → Option Delta
  | .update _ d => some d
  | _ => none

theorem delta?_eq_some {t : Task} {d : Delta} :
    t.delta? = some d ↔ t = .update t.clusters d := by
  cases t <;> simp [delta?, clusters]

end Task

end Claudie
