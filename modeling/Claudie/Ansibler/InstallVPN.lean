import Claudie.Ansibler.Nodes
import Claudie.Lib.Allocation
import Claudie.Lib.Netip

/-!
`task_install_vpn.go` of the ansibler service: the nodes of the cluster and of its load balancers are
given private addresses and joined to one network.
-/

namespace Claudie

/--
The place of a node in the state, where the source has a pointer to it. The kubernetes cluster is
`none`, a load balancer its index.
-/
structure NodeRef where
  cluster : Option Nat
  nodePool : Nat
  node : Nat
  deriving DecidableEq

namespace Clusters

def nodePoolsAt (c : Clusters) : Option Nat → List NodePool
  | none => c.kubernetesNodePools
  | some i => ((c.loadBalancers[i]?).map (·.clusterInfo.nodePools)).getD []

def node? (c : Clusters) (ref : NodeRef) : Option Node :=
  ((c.nodePoolsAt ref.cluster)[ref.nodePool]?).bind (·.nodes[ref.node]?)

def modifyNode (c : Clusters) (ref : NodeRef) (f : Node → Node) : Clusters :=
  let modifyIn (nps : List NodePool) : List NodePool :=
    nps.modify ref.nodePool (fun np => { np with nodes := np.nodes.modify ref.node f })
  match ref.cluster with
  | none =>
    { c with k8s := c.k8s.map (fun k8s => k8s.withNodePools (modifyIn k8s.clusterInfo.nodePools)) }
  | some i =>
    { c with
      loadBalancers := c.loadBalancers.modify i
        (fun lb => lb.withNodePools (modifyIn lb.clusterInfo.nodePools)) }

end Clusters

namespace Ansibler

-- The nodes of a nodepool, or of its copy without the unreachable ones.
def nodepoolNodes (unreachable : Option (GoMap (List String))) (np : NodePool) : List (Node × Nat) :=
  match unreachable with
  | none => np.nodes.zipIdx
  | some unreachable =>
    np.nodes.zipIdx.filter (fun (n, _) => (reachableNodes np unreachable).contains n.name)

-- The dynamic nodepools of a cluster come before the static ones.
def clusterNodes (cluster : Option Nat) (nps : List NodePool)
    (unreachable : Option (GoMap (List String))) : List (NodeRef × Node) :=
  let nodesOf (p : NodePool → Bool) : List (NodeRef × Node) :=
    (nps.zipIdx.filter (fun (np, _) => p np)).flatMap (fun (np, i) =>
      (nodepoolNodes unreachable np).map (fun (n, j) => (⟨cluster, i, j⟩, n)))
  nodesOf (·.isDynamic) ++ nodesOf (·.isStatic)

def getAllNodepools (k8s : K8scluster) (lbs : List LBcluster) (unreachable : Option Unreachable) :
    List (NodeRef × Node) :=
  clusterNodes none k8s.clusterInfo.nodePools (unreachable.map (·.kubernetes))
  ++ lbs.zipIdx.flatMap (fun (lb, i) =>
    clusterNodes (some i) lb.clusterInfo.nodePools
      (unreachable.map (fun u => u.loadbalancers.getD lb.id ∅)))

def assignPrivateIPs (network : Netip.Network) (nodes : List (NodeRef × Node)) :
    Except String (List (NodeRef × String)) :=
  let assignedPrivateIPs := (nodes.map (·.2.privateIp)).filter (· ≠ "")
  let nodesWithoutPrivateIP := (nodes.filter (·.2.privateIp = "")).map (·.1)
  match Allocation.handOut assignedPrivateIPs network.addresses nodesWithoutPrivateIP with
  | some assigned => .ok assigned
  | none => .error "failed to assign private IPs to all nodes"

def withPrivateIP (ip : String) (n : Node) : Node := { n with privateIp := ip }

def setPrivateIP (c : Clusters) (ref : NodeRef) (ip : String) : Clusters :=
  c.modifyNode ref (withPrivateIP ip)

/--
What the calls outside of the state return: the parsed prefix, the directory with its random name, and
the error of anything that follows the assignment of the addresses.
-/
structure VPN where
  parsePrefix : String → Except String Netip.Network
  clusterDirectory : String
  playbooks : Option String

def installWireguardVPN (vpn : VPN) (state : Clusters) (network : String)
    (nodes : List (NodeRef × Node)) : Except String Clusters :=
  match vpn.parsePrefix network >>= (assignPrivateIPs · nodes) with
  | .error err =>
    .error s!"error while setting the private IPs for {vpn.clusterDirectory} : {err}"
  | .ok assigned =>
    match vpn.playbooks with
    | some err => .error err
    | none => .ok (assigned.foldl (fun c (ref, ip) => setPrivateIP c ref ip) state)

def installVPN (vpn : VPN) (task : Task) : Outcome (ResultKind × List String) :=
  match task with
  | .delete _ => pure (.none, [])
  | .create state => install state none
  | .update state delta => install state (unreachableInfrastructure delta)
where
  install (state : Clusters) (unreachable : Option Unreachable) :
      Outcome (ResultKind × List String) := do
    let k8s ← Outcome.deref state.k8s
    let nodes := getAllNodepools k8s state.loadBalancers unreachable
    match installWireguardVPN vpn state k8s.network nodes with
    | .error err => pure (.none, [err])
    | .ok state => pure (.update state.k8s (some state.loadBalancers), [])

end Ansibler

end Claudie
