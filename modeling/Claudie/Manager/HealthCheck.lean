import Claudie.NodePools

/-!
`healthcheck.go`: what the manager learns about a cluster from the outside before it schedules work.
The answers of `kubectl`, of the pings and of the ssh session are inputs.
-/

namespace Claudie

namespace Manager

structure NodeCondition where
  type : String
  status : String
  -- nanoseconds since the last transition.
  sinceTransition : Nat
  deriving DecidableEq

structure NodeOutput where
  kind : String
  name : String
  conditions : List NodeCondition
  deriving DecidableEq

structure Probe where
  -- the items of `kubectl get nodes`, none if the call or the decoding of its output failed.
  kubectlNodes : Option (List NodeOutput)
  -- whether the randomly chosen dynamic control node accepts connections on port 6443.
  dial6443 : Bool
  -- the nodepool and node that are chosen at random for the check of the VPN.
  vpnNodePool : Nat
  vpnNode : Nat
  -- whether that node answered with an unexpected number of peers.
  vpnPeersDiffer : Bool
  -- the addresses that failed the ping, with whether the failure was a timeout.
  failedPings : List (String × Bool)
  deriving DecidableEq

structure NodeDescription where
  k8sName : String
  ready : Bool
  isStatic : Bool
  nodePool : String
  publicIPv4 : String
  isControl : Bool
  lastTransition : Option Nat
  deriving DecidableEq

structure UnknownNodeStatus where
  unknownKubernetesNodes : GoMap (List NodeDescription)
  notJoinedKubernetesNodes : GoMap (List NodeDescription)
  unknownLoadBalancersNodes : GoMap (GoMap (List String))
  deriving DecidableEq

structure HealthCheckStatus where
  apiEndpointUnreachable : Bool
  nodes : GoMap NodeDescription
  controlNodesHave6443 : Bool
  vpnDrift : Bool
  deriving DecidableEq

def trimPrefix (s pre : String) : String :=
  if pre.toList.isPrefixOf s.toList then String.ofList (s.toList.drop pre.toList.length) else s

-- Kubernetes names are stripped of the prefix of the cluster.
def strippedName (k8s : K8scluster) (n : Node) : String := trimPrefix n.name (k8s.id ++ "-")

def NodeOutput.description (n : NodeOutput) : NodeDescription :=
  let ready := n.conditions.filter (·.type = "Ready")
  { k8sName := n.name
    ready := ready.all (·.status = "True")
    isStatic := false
    nodePool := ""
    publicIPv4 := ""
    isControl := false
    lastTransition := ready.getLast?.map (·.sinceTransition) }

def nodesOfKubectl (items : List NodeOutput) : GoMap NodeDescription :=
  items.foldl (fun m n =>
    if String.ofList (n.kind.toList.map Char.toLower) = "node" then m.insert n.name n.description
    else m) ∅

def matchNodes (k8s : K8scluster) (nodes : GoMap NodeDescription) : GoMap NodeDescription :=
  k8s.clusterInfo.nodePools.foldl (fun nodes np =>
    np.nodes.foldl (fun nodes n =>
      match nodes[strippedName k8s n]? with
      | none => nodes
      | some v =>
        nodes.insert (strippedName k8s n)
          { v with
            isStatic := np.isStatic
            nodePool := np.name
            publicIPv4 := n.publicIp
            isControl := np.isControl }) nodes) nodes

def defaultSSHPort : Int := 22

-- `NodeSSHPort` replaces an unset port of the nodepool in place.
def NodePool.normalizeSSHPort (np : NodePool) (node : Nat) : NodePool :=
  match np.nodes[node]? with
  | some n => if n.sshPort ≤ 0 ∧ np.sshPort = 0 then { np with sshPort := defaultSSHPort } else np
  | none => np

def NodePool.sshKey (np : NodePool) (node : Nat) : String :=
  match np.nodes[node]? with
  | none => ""
  | some n =>
    match np.type with
    | .dynamic d => d.privateKey
    | .static s => s.nodeKeys.getD n.publicIp ""

def modifyNodePoolAt (f : NodePool → NodePool) (i : Nat) : Clusters → Clusters
  | ⟨none, lbs⟩ => ⟨none, lbs⟩
  | ⟨some k8s, lbs⟩ =>
    let nps := k8s.clusterInfo.nodePools
    if i < nps.length then
      ⟨some { k8s with clusterInfo.nodePools := nps.modify i f }, lbs⟩
    else
      ⟨some k8s, go (i - nps.length) lbs⟩
where
  go (i : Nat) : List LBcluster → List LBcluster
    | [] => []
    | lb :: lbs =>
      let nps := lb.clusterInfo.nodePools
      if i < nps.length then { lb with clusterInfo.nodePools := nps.modify i f } :: lbs
      else lb :: go (i - nps.length) lbs

def allNodePools (k8s : K8scluster) (lbs : List LBcluster) : List NodePool :=
  k8s.clusterInfo.nodePools ++ lbs.flatMap (·.clusterInfo.nodePools)

/--
Besides the status, the state is returned in which the port of the nodepool used for the check of the
VPN is set.
-/
def healthCheck (probe : Probe) (state : Clusters) : Outcome (HealthCheckStatus × Clusters) := do
  let k8s ← Outcome.deref state.k8s
  let items := probe.kubectlNodes.getD []
  let nodes := nodesOfKubectl items
  let nodes := if nodes.isEmpty then nodes else matchNodes k8s nodes
  let dynamicControlNode := (NodePools.control k8s.clusterInfo.nodePools).any (fun np =>
    np.isDynamic && !np.nodes.isEmpty)
  let vpnDrift :=
    match (allNodePools k8s state.loadBalancers)[probe.vpnNodePool]? with
    | none => false
    | some np => NodePool.sshKey np probe.vpnNode ≠ "" && probe.vpnPeersDiffer
  pure
    ({ apiEndpointUnreachable := items.isEmpty
       nodes
       controlNodesHave6443 := dynamicControlNode && probe.dial6443
       vpnDrift },
     modifyNodePoolAt (NodePool.normalizeSSHPort · probe.vpnNode) probe.vpnNodePool state)

def timeForNodeDeletion : Nat := 10 * 60 * 1000000000

def pingLoadBalancerNodes (failedPings : List (String × Bool)) (lbs : List LBcluster) :
    Outcome (GoMap (GoMap (List String))) :=
  let lbsNodes : GoMap (GoMap String) := lbs.foldl (fun m lb =>
    m.insert lb.id (lb.clusterInfo.nodePools.foldl (fun nodes np =>
      np.nodes.foldl (fun nodes n => nodes.insert n.publicIp np.name) nodes) ∅)) ∅
  let failed := failedPings.filter (fun (ip, _) => lbsNodes.any (fun _ nodes => nodes.contains ip))
  -- a joined error is a timeout as soon as one of the errors in it is.
  if !failed.isEmpty && !failed.any (·.2) then
    .error (.error "failed to ping node")
  else
    .ok (failed.foldl (fun lbsip (ip, _) =>
      lbsNodes.foldl (fun lbsip lb nodes =>
        match nodes[ip]? with
        | none => lbsip
        | some np => lbsip.insert lb ((lbsip.getD lb ∅).appendAt np [ip])) lbsip) ∅)

structure NodeStatusAcc where
  clusterNodes : GoMap NodeDescription
  unknown : GoMap (List NodeDescription)
  notJoined : GoMap (List NodeDescription)

def checkNode (k8s : K8scluster) (np : NodePool) (acc : NodeStatusAcc) (n : Node) :
    NodeStatusAcc :=
  let name := strippedName k8s n
  let clusterNodes := acc.clusterNodes.erase name
  match acc.clusterNodes[name]? with
  | some v =>
    if v.ready then { acc with clusterNodes }
    else { acc with clusterNodes, unknown := acc.unknown.appendAt v.nodePool [v] }
  | none =>
    { acc with
      clusterNodes
      notJoined := acc.notJoined.appendAt np.name
        [{ k8sName := name
           ready := false
           isStatic := np.isStatic
           nodePool := np.name
           publicIPv4 := n.publicIp
           isControl := np.isControl
           lastTransition := none }] }

def checkNodesStatus (ord : MapOrder) (probe : Probe) (state : Clusters) (hc : HealthCheckStatus) :
    Outcome UnknownNodeStatus := do
  let k8s ← Outcome.deref state.k8s
  let acc : NodeStatusAcc :=
    if hc.apiEndpointUnreachable then ⟨∅, ∅, ∅⟩
    else
      k8s.clusterInfo.nodePools.foldl (fun acc np => np.nodes.foldl (checkNode k8s np) acc)
        ⟨hc.nodes, ∅, ∅⟩
  -- nodes that are in the cluster but not in the tracked state.
  let unknown := (ord.range "untracked nodes" acc.clusterNodes).foldl (fun unknown (_, n) =>
    unknown.appendAt n.nodePool
      [{ n with ready := false, isStatic := true, lastTransition := none }]) acc.unknown
  let unknownLoadBalancersNodes ← pingLoadBalancerNodes probe.failedPings state.loadBalancers
  pure
    { unknownKubernetesNodes := unknown
      notJoinedKubernetesNodes := acc.notJoined
      unknownLoadBalancersNodes }

end Manager

end Claudie
