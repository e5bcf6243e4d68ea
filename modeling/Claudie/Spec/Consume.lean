import Claudie.Spec.Utils

/-!
`utils_consume.go`: how the result of a worker is merged into the task it answers.
-/

namespace Claudie

def Task.consumeClearResult (t : Task) (k8s : Option Bool) (loadBalancersIDs : List String) :
    Outcome Task :=
  -- first acknowledge any clearing of loadbalancers.
  let lbs := t.clusters.loadBalancers.filter (fun lb => !loadBalancersIDs.contains lb.id)
  if k8s = some true then
    if lbs ≠ [] then
      .error (.error
        "refuse to clear kubernetes cluster while loadbalancers for it still exists")
    else
      .ok (t.replaceClusters ⟨none, []⟩)
  else
    .ok (t.replaceClusters { t.clusters with loadBalancers := lbs })

def partialDeletion (affected : NodePool) (nodes : List String) : DeletedNodesKind :=
  let deleted := affected.nodes.filter (fun n => nodes.contains n.name)
  let keys : GoMap String :=
    match affected.type with
    | .dynamic _ => ∅
    | .static s => deleted.foldl (fun m n => m.insert n.publicIp (s.nodeKeys.getD n.publicIp "")) ∅
  .partialNodePool affected.name deleted keys

def consumeDeleteDelta (k8s : K8scluster) (lbs : List LBcluster) : Delta → Outcome Delta
  | .kDeleteNodes withNodePool nodepool nodes unreachable =>
    match k8s.clusterInfo.nodePools.find? (·.name = nodepool) with
    | none =>
      .error (.error (s!"can't update cluster {quoted k8s.id} received update result with "
        ++ s!"invalid deleted nodepool {quoted nodepool}"))
    | some affected =>
      if withNodePool then
        .ok (.deletedK8sNodes unreachable (.wholeNodePool (some affected)))
      else
        .ok (.deletedK8sNodes unreachable (partialDeletion affected nodes))
  | .tfDeleteLoadBalancerNodes handle withNodePool nodepool nodes unreachable =>
    match lbs.find? (·.id = handle) with
    | none =>
      .error (.error (s!"can't update loadbalancer {quoted k8s.id} received update result with "
        ++ "invalid loadbalancer id"))
    | some lb =>
      match lb.clusterInfo.nodePools.find? (·.name = nodepool) with
      | none =>
        .error (.error (s!"can't update loadbalancer {quoted k8s.id} received update result with "
          ++ s!"invalid deleted nodepool {quoted nodepool}"))
      | some affected =>
        if withNodePool then
          .ok (.deletedLoadBalancerNodes unreachable handle (.wholeNodePool (some affected)))
        else
          .ok (.deletedLoadBalancerNodes unreachable handle (partialDeletion affected nodes))
  | d => .ok d

def AddNodesKind.added : AddNodesKind → Bool × String × List String
  | .existing nodepool nodes => (false, nodepool, nodes.map (·.name))
  | .new nodepool => (true, nodepool.name, nodepool.nodes.map (·.name))

def consumeReplaceDelta (k8s : K8scluster) : Delta → Delta
  | .tfMoveNodePoolFromAutoscaled nodepool =>
    -- the last nodepool of that name decides, as the loop does not stop at the first.
    let config := k8s.clusterInfo.nodePools.foldl (fun config np =>
      if np.name = nodepool then
        match np.dynamic? with
        | some dyn => dyn.autoscalerConfig
        | none => config
      else config) none
    .movedNodePoolFromAutoscaled nodepool config
  | .tfMoveNodePoolToAutoscaled nodepool _ => .movedNodePoolToAutoscaled nodepool
  | .ansReplaceRoleInternalSettings handle role _ _ => .replacedRoleInternalSettings handle role
  | .tfReplaceRoleExternalSettings handle role _ _ _ => .replacedRoleExternalSettings handle role
  | .ansReplaceProxy _ => .replacedProxy
  | .ansReplaceTargetPools handle roles => .replacedTargetPools handle roles
  | .kpatchNodes _ _ => .patchedNodes
  | .tfAddK8sNodes kind =>
    let (isNew, nodepool, nodes) := kind.added
    .addedK8sNodes isNew nodepool nodes
  | .tfAddLoadBalancer handle => .addedLoadBalancer handle.id
  | .tfAddLoadBalancerNodes handle kind =>
    let (isNew, nodepool, nodes) := kind.added
    .addedLoadBalancerNodes handle isNew nodepool nodes
  | .tfAddLoadBalancerRoles handle roles => .addedLoadBalancerRoles handle (roles.map (·.name))
  | .tfReplaceDns handle _ oldApiEndpoint => .replacedDns handle oldApiEndpoint
  | d => d

/--
Replaces each load balancer by the first update with the same id, which is thereby used up, and
returns the updates left over.
-/
def updateExistingLbs : List LBcluster → List LBcluster → List LBcluster × List LBcluster
  | [], updates => ([], updates)
  | lb :: lbs, updates =>
    match updates.find? (fun u => lb.id = u.id) with
    | some u =>
      let (merged, rest) := updateExistingLbs lbs (updates.erase u)
      (u :: merged, rest)
    | none =>
      let (merged, rest) := updateExistingLbs lbs updates
      (lb :: merged, rest)

def mergeLoadBalancers (lbs updates : List LBcluster) : List LBcluster :=
  let (merged, rest) := updateExistingLbs lbs updates
  merged ++ rest

def Task.consumeDelete (k8s : K8scluster) : Task → Outcome Task
  | .update s d => do
    let d ← consumeDeleteDelta k8s s.loadBalancers d
    pure (.update s d)
  | t => pure t

def Task.consumeReplace (k8s : K8scluster) : Task → Task
  | .update s d => .update s (consumeReplaceDelta k8s d)
  | t => t

def consumeK8s (old : K8scluster) : Option K8scluster → Outcome K8scluster
  | none => pure old
  | some k =>
    if k.id ≠ old.id then
      .error (.error s!"can't update cluster {quoted old.id} with received cluster {quoted k.id}")
    else
      pure k

def Task.consumeUpdateResult (t : Task) (k8s : Option K8scluster)
    (loadBalancers : Option (List LBcluster)) : Outcome Task := do
  let old ← Outcome.deref t.clusters.k8s
  let lbs := t.clusters.loadBalancers
  -- Consume delete updates, if any.
  let t ← t.consumeDelete old
  let new ← consumeK8s old k8s
  let updates ← Outcome.deref loadBalancers
  let updates := updates.filter (fun lb => lb.targetedK8s = old.clusterInfo.name)
  let t := t.replaceClusters ⟨some new, mergeLoadBalancers lbs updates⟩
  -- Consume replace updates, if any.
  pure (t.consumeReplace new)

/--
`Commit`: what a handler adds to the result of its stage. Updates are merged, otherwise the later
result counts.
-/
def ResultKind.commit : ResultKind → ResultKind → ResultKind
  | result, .none => result
  | .update k8s lbs, .update k8s' lbs' =>
    .update (k8s' <|> k8s) (some (mergeLoadBalancers (lbs.getD []) (lbs'.getD [])))
  | _, result => result

def Task.consumeResult (t : Task) : ResultKind → Outcome Task
  | .none => .ok t
  | .update k8s loadBalancers => t.consumeUpdateResult k8s loadBalancers
  | .clear k8s loadBalancersIDs => t.consumeClearResult k8s loadBalancersIDs

end Claudie
