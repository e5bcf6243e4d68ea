import Claudie.NodePools
import Claudie.Spec.Task

/-!
`task_delete_nodes.go` of the kuber service: the nodes of a request are taken out of the tracked state
first, and deleted from the cluster by a later pass.
-/

namespace Claudie

namespace Kuber

-- A nodepool that is not tracked is a drift: one of the nodes is deleted and no update is sent.
def deleteFromState (withNodePool : Bool) (nodepool : String) (nodes : List String)
    (k8s : K8scluster) : Outcome (Option K8scluster) :=
  let update (nodePools : List NodePool) : K8scluster :=
    { k8s with clusterInfo := { k8s.clusterInfo with nodePools } }
  let nps := k8s.clusterInfo.nodePools
  if withNodePool then pure (some (update (NodePools.deleteByName nps nodepool)))
  else
    match NodePools.findByName nodepool nps with
    | none => pure none
    | some _ => do
      let nps ← NodePools.modifyByName nodepool (fun np => pure (NodePools.deleteNodes np nodes)) nps
      pure (some (update nps))

-- The kubernetes cluster of the update, none if nothing is updated.
def deleteNodes : Task → Outcome (Option K8scluster)
  | .update state (.kDeleteNodes withNodePool nodepool nodes _) => do
    let k8s ← Outcome.deref state.k8s
    deleteFromState withNodePool nodepool nodes k8s
  | _ => pure none

end Kuber

end Claudie
