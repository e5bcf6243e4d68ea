import Claudie.Manager.GenerateState

/-!
`clustersUnion`: everything recorded in the current state or in the state of an in-flight task.
-/

namespace Claudie

namespace Manager

namespace clustersUnion

def copyAddedNodes (src : List NodePool) (ir : List NodePool) :
    List (String × List String) → Outcome (List NodePool)
  | [] => pure ir
  | (np, nodes) :: rest => do
    let ir ← NodePools.copyNodesByName np ir src nodes
    copyAddedNodes src ir rest

def appendAddedNodePools (src : List NodePool) (ir : List NodePool) :
    List (String × List String) → Outcome (List NodePool)
  | [] => pure ir
  | (np, _) :: rest => do
    let nnp ← Outcome.deref (NodePools.findByName np src)
    appendAddedNodePools src (ir ++ [nnp]) rest

def addNodePools (ord : MapOrder) (loop : String) (diff : NodePoolsDiffResult)
    (src ir : List NodePool) : Outcome (List NodePool) := do
  let ir ← copyAddedNodes src ir (ord.range s!"{loop} partially added" diff.partiallyAdded)
  appendAddedNodePools src ir (ord.range s!"{loop} added" diff.added)

def addRoles (src : List Role) (added : List String) (roles : List Role) : List Role :=
  roles ++ added.filterMap (fun name => src.find? (·.name = name))

def addTargetPools (roles : List Role) (role : String) (pools : List String) : List Role :=
  match roles with
  | [] => []
  | r :: rs =>
    if r.name = role then { r with targetPools := r.targetPools ++ pools } :: rs
    else r :: addTargetPools rs role pools

def mergeLoadBalancer (ord : MapOrder) (diff : ModifiedLoadBalancer) (nlb clb : LBcluster) :
    Outcome LBcluster := do
  let src := nlb.clusterInfo.nodePools
  let nps ← addNodePools ord s!"union {clb.id} dynamic" diff.dynamic src
    clb.clusterInfo.nodePools
  let nps ← addNodePools ord s!"union {clb.id} static" diff.static src nps
  let roles := addRoles nlb.roles diff.roles.added clb.roles
  let roles := (ord.range s!"union {clb.id} target pools" diff.roles.targetPoolsAdded).foldl
    (fun roles (role, pools) => addTargetPools roles role pools) roles
  pure { LBcluster.withNodePools clb nps with roles }

def mergeLoadBalancers (ord : MapOrder) (modified ir : List LBcluster) :
    List (String × ModifiedLoadBalancer) → Outcome (List LBcluster)
  | [] => pure ir
  | (lb, diff) :: rest => do
    let cidx ← Outcome.deref (Clusters.indexLoadbalancerById lb ir)
    let clb ← Outcome.deref ir[cidx]?
    let nlb ← Outcome.deref (Clusters.findLoadbalancerById lb modified)
    let clb ← mergeLoadBalancer ord diff nlb clb
    mergeLoadBalancers ord modified (ir.set cidx clb) rest

end clustersUnion

def clustersUnion (ord : MapOrder) (old modified : Clusters) : Outcome Clusters :=
  match old.k8s, modified.k8s with
  | none, some _ => pure modified
  | some _, none => pure old
  | none, none => pure ⟨none, []⟩
  | some ok8s, some mk8s => do
    let k8s ← kubernetesDiff ord ok8s mk8s
    let lbs := loadBalancersDiff old.loadBalancers modified.loadBalancers
    -- 1. Add any nodepools/nodes.
    let src := mk8s.clusterInfo.nodePools
    let nps ← clustersUnion.addNodePools ord "union dynamic" k8s.dynamic src
      ok8s.clusterInfo.nodePools
    let nps ← clustersUnion.addNodePools ord "union static" k8s.static src nps
    -- 2. Same, but for loadbalancers.
    let added ← lbs.added.mapM (fun lb =>
      Outcome.deref (Clusters.findLoadbalancerById lb.id modified.loadBalancers))
    let merged ← clustersUnion.mergeLoadBalancers ord modified.loadBalancers
      (old.loadBalancers ++ added) (ord.range "union modified" lbs.modified)
    pure ⟨some (K8scluster.withNodePools ok8s nps), merged⟩

end Manager

end Claudie
