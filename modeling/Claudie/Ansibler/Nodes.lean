import Claudie.NodePools

/-!
`process_task.go` of the ansibler service: the nodes of a task that a playbook runs on. The nodepools
are shallow copies, so that what a playbook changes about a node changes it in the task as well.
-/

namespace Claudie

namespace Ansibler

def deletedNodesOnly (nps : List NodePool) : DeletedNodesKind → Option NodePool
  | .partialNodePool nodepool nodes staticNodeKeys =>
    (NodePools.findByName nodepool nps).map
      (fun np => NodePools.partialCopyWithReplacedNodes np nodes staticNodeKeys)
  | .wholeNodePool nodepool => nodepool

def defaultKubernetesToDeletedNodesOnly (k8s : K8scluster) (kind : DeletedNodesKind) :
    Option NodePool :=
  deletedNodesOnly k8s.clusterInfo.nodePools kind

def defaultLoadBalancerToDeletedNodesOnly (lb : LBcluster) (kind : DeletedNodesKind) :
    Option NodePool :=
  deletedNodesOnly lb.clusterInfo.nodePools kind

def reachableNodes (np : NodePool) (unreachable : GoMap (List String)) : List String :=
  let endpoints := unreachable.getD np.name []
  (np.nodes.filter (fun n => !endpoints.contains n.publicIp)).map (·.name)

def defaultNodePoolsToReachableInfrastructureOnly (nps : List NodePool)
    (unreachable : GoMap (List String)) : List NodePool :=
  nps.map (fun np => NodePools.partialCopyWithNodeFilter np (reachableNodes np unreachable))

def unreachableInfrastructure : Delta → Option Unreachable
  | .deletedK8sNodes unreachable _ => unreachable
  | .deleteLoadBalancer _ unreachable => unreachable
  | .deletedLoadBalancerNodes unreachable _ _ => unreachable
  | _ => none

end Ansibler

end Claudie
