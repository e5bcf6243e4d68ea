import Claudie.Lib.List
import Claudie.NodePools

/-!
`task_move_api_endpoint.go` of the ansibler service: the api endpoint of the cluster is handed over
between a control node and load balancers.
-/

namespace Claudie

namespace Ansibler

def Node.withType (nodeType : NodeType) (n : Node) : Node := { n with nodeType }

-- The assignment to the node that `EndpointNode` returns.
def demoteEndpointNode (np : NodePool) : NodePool :=
  { np with nodes := np.nodes.modifyFirst (·.nodeType = .apiEndpoint) (Node.withType .master) }

-- The assignment to the node that `FindApiEndpoint` returns.
def demoteApiEndpoint (nps : List NodePool) : List NodePool :=
  nps.modifyFirst (fun np => np.isControl && np.endpointNode.isSome) demoteEndpointNode

def promoteFirstNode (np : NodePool) : NodePool :=
  { np with nodes := np.nodes.modifyHead (Node.withType .apiEndpoint) }

-- The assignment to the node that `FirstControlNode` returns.
def promoteFirstControlNode (nps : List NodePool) : List NodePool :=
  nps.modifyFirst (fun np => np.isControl && !np.nodes.isEmpty) promoteFirstNode

def withNodePools (k8s : K8scluster) (nodePools : List NodePool) : K8scluster :=
  { k8s with clusterInfo := { k8s.clusterInfo with nodePools } }

def useApiEndpoint (used : Bool) (lb : LBcluster) : LBcluster := { lb with usedApiEndpoint := used }

-- The assignment to the load balancer that `IndexLoadbalancerById` finds.
def useApiEndpointOf (id : String) (used : Bool) (lbs : List LBcluster) : List LBcluster :=
  lbs.modifyFirst (·.id = id) (useApiEndpoint used)

def endpointOf (lb : LBcluster) : Outcome String := do
  let dns ← Outcome.deref lb.dns
  pure dns.endpoint

/--
The state is changed before the playbook `changeAPIEndpoint` runs, which is given the name of the
cluster and the two endpoints.
-/
def handleAPIEndpointChange (changeAPIEndpoint : String → String → String → Outcome Unit)
    (state : Clusters) (change : ApiEndpointChangeState)
    (currentEndpointId desiredEndpointId : String) : Outcome Clusters := do
  let k8s ← Outcome.deref state.k8s
  let nps := k8s.clusterInfo.nodePools
  let lbs := state.loadBalancers
  match change with
  | .noChange => pure state
  | .endpointRenamed =>
    changeAPIEndpoint k8s.clusterInfo.name currentEndpointId desiredEndpointId
    pure state
  | .attachingLoadBalancer =>
    match NodePools.findApiEndpoint nps, Clusters.findLoadbalancerById desiredEndpointId lbs with
    | none, _ =>
      .error (.error "failed to find APIEndpoint k8s node, couldn't update Api server endpoint")
    | some _, none =>
      .error (.error (s!"failed to find requested loadbalancer {desiredEndpointId} to move api "
        ++ "endpoint to"))
    | some (_, n), some lb => do
      let newEndpoint ← endpointOf lb
      changeAPIEndpoint k8s.clusterInfo.name n.publicIp newEndpoint
      pure ⟨some (withNodePools k8s (demoteApiEndpoint nps)),
        useApiEndpointOf desiredEndpointId true lbs⟩
  | .detachingLoadBalancer =>
    match Clusters.findLoadbalancerById currentEndpointId lbs, NodePools.firstControlNode nps with
    | none, _ =>
      .error (.error (s!"failed to find requested loadbalancer {currentEndpointId} from which to "
        ++ "move the api endpoint from"))
    | some _, none => .error (.error "failed to find node with type master")
    | some lb, some n => do
      let oldEndpoint ← endpointOf lb
      changeAPIEndpoint k8s.clusterInfo.name oldEndpoint n.publicIp
      pure ⟨some (withNodePools k8s (promoteFirstControlNode nps)),
        useApiEndpointOf currentEndpointId false lbs⟩
  | .moveEndpoint =>
    match Clusters.findLoadbalancerById currentEndpointId lbs,
        Clusters.findLoadbalancerById desiredEndpointId lbs with
    | none, _ =>
      .error (.error (s!"failed to find requested loadbalancer {currentEndpointId} from which to "
        ++ "move the api endpoint from"))
    | some _, none =>
      .error (.error (s!"failed to find requested loadbalancer {desiredEndpointId} to which to move "
        ++ "the api endpoint"))
    | some lbc, some lbd => do
      let oldEndpoint ← endpointOf lbc
      let newEndpoint ← endpointOf lbd
      changeAPIEndpoint k8s.clusterInfo.name oldEndpoint newEndpoint
      pure ⟨some k8s,
        useApiEndpointOf desiredEndpointId true (useApiEndpointOf currentEndpointId false lbs)⟩

end Ansibler

end Claudie
