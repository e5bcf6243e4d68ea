import Claudie.Manager.Schedule.LoadBalancers

/-!
`reconciliate_unreachable_nodes.go`: the tasks that take nodes which no longer respond out of a
cluster, and the errors that ask the user to do so.
-/

namespace Claudie

namespace Manager

-- `errors.Join`, of which only the text is used.
def joinErrors (errs : List String) : String := String.intercalate "\n" errs

-- Nodes with an unknown status together with the nodes that never joined.
def UnknownNodeStatus.kubernetes (ns : UnknownNodeStatus) : GoMap (List NodeDescription) :=
  ns.notJoinedKubernetesNodes.foldl (fun m np nodes => m.appendAt np nodes)
    ns.unknownKubernetesNodes

def UnknownNodeStatus.unreachable (ns : UnknownNodeStatus) : Unreachable :=
  { kubernetes := ns.kubernetes.map (fun _ nodes => nodes.map (·.publicIPv4))
    loadbalancers := ns.unknownLoadBalancersNodes }

structure KubernetesUnreachableNodes where
  hc : HealthCheckStatus
  nodeStatus : UnknownNodeStatus
  diff : KubernetesDiffResult
  current : Clusters
  desired : Clusters

namespace handleKubernetesUnknownNodes

def options (r : KubernetesUnreachableNodes) (isStatic : Bool) : K8sNodeDeletionOptions :=
  { useProxy := r.diff.proxy.currentUsed
    hasApiServer := r.diff.apiEndpoint.current ≠ ""
    isStatic
    unreachable := some r.nodeStatus.unreachable }

-- Names of dynamic nodes in kubernetes have the id of the cluster stripped.
def fullname (k8s : K8scluster) (n : NodeDescription) : String :=
  if n.isStatic then n.k8sName else s!"{k8s.id}-{n.k8sName}"

def scheduleDeletion (ord : MapOrder) (id : TaskId) (r : KubernetesUnreachableNodes)
    (k8s : K8scluster) (np : String) (nodes : List NodeDescription) (isStatic : Bool) :
    Outcome (Option TaskEvent) :=
  let diff : NodePoolsDiffResult :=
    { partiallyDeleted := (∅ : NodePoolsViewType).appendAt np (nodes.map (fullname k8s)) }
  scheduleDeletionsInNodePools ord id r.current diff (options r isStatic)

-- Why the nodes of a nodepool without a desired state can't be deleted, if they can't.
def deletionRefused (r : KubernetesUnreachableNodes) (k8s : K8scluster) (cnp : NodePool) :
    Option String :=
  if cnp.isControl then
    if (NodePools.control k8s.clusterInfo.nodePools).length = 1 then
      some (s!"can't delete nodes with unknown status from nodepool {quoted cnp.name}, the "
        ++ "nodepool is the last control nodepool, the deletion would result in a broken cluster")
    else if r.diff.apiEndpoint.current ≠ "" && cnp.endpointNode.isSome then
      some (s!"can't delete nodepool {quoted cnp.name} with unknown node status, the "
        ++ "nodepool has the kubeapi server endpoint which would result in a broken cluster")
    else none
  else none

def recentTransition (n : NodeDescription) : Bool :=
  match n.lastTransition with
  | some t => t ≤ timeForNodeDeletion
  | none => false

-- Static nodes that are still desired are left to the user.
def staticNodeError (r : KubernetesUnreachableNodes) (desired : List NodePool) (np : String)
    (n : NodeDescription) : Option String :=
  let wanted :=
    match NodePools.findNode desired n.k8sName with
    | some (nn, _) => nn.isStatic
    | none => false
  if n.isStatic && wanted then
    if r.hc.nodes.contains n.k8sName then
      some (s!"\n - static node {quoted n.k8sName}, nodepool {quoted np}, "
        ++ s!"endpoint {quoted n.publicIPv4} is unhealthy")
    else
      some (s!" - static node {quoted n.k8sName}, nodepool {quoted np}, "
        ++ s!"endpoint {quoted n.publicIPv4} is unhealthy, "
        ++ "the node has been removed from the kubernetes cluster, to also remove "
        ++ "it from being tracked by Claudie remove it from the InputManifest")
  else none

def nodepools (ord : MapOrder) (id : TaskId) (r : KubernetesUnreachableNodes) (k8s dk8s : K8scluster)
    (errs : List String) :
    List (String × List NodeDescription) → Outcome (Option TaskEvent × List String)
  | [] => pure (none, errs)
  | (np, nodes) :: rest =>
    match NodePools.findByName np k8s.clusterInfo.nodePools,
        NodePools.findByName np dk8s.clusterInfo.nodePools with
    | some cnp, none =>
      match deletionRefused r k8s cnp with
      | some err => nodepools ord id r k8s dk8s (errs ++ [err]) rest
      | none => do
        let next ← scheduleDeletion ord id r k8s cnp.name nodes cnp.isStatic
        pure (next, [])
    | _, _ =>
      let nodes := nodes.filter (!recentTransition ·)
      let err := staticNodeError r dk8s.clusterInfo.nodePools np
      match nodes.filter (fun n => (err n).isNone) with
      | [] => nodepools ord id r k8s dk8s (errs ++ nodes.filterMap err) rest
      | n :: canDelete => do
        let next ← scheduleDeletion ord id r k8s np (n :: canDelete) n.isStatic
        pure (next, [])

def errorText (err : String) : String :=
  "\nThe following nodes within the kubernetes cluster have reachability problems:\n\n" ++ err
  ++ "\n\nFix the unreachable nodes by either:\n"
  ++ "- fixing the connectivity issue\n"
  ++ "- if the connectivity issue cannot be resolved, you can:\n"
  ++ " - delete the whole nodepool from the kubernetes cluster in the InputManifest\n"
  ++ " - delete the selected unreachable node/s manually from the cluster via "
  ++ "'kubectl delete node ...'\n"
  ++ " - delete the node from the InputManifest, if it is a static node.\n\n"
  ++ "   NOTE: if the unreachable node is the kube-apiserver, claudie will not be able to recover\n"
  ++ "         after the deletion.\n"

end handleKubernetesUnknownNodes

def handleKubernetesUnknownNodes (ord : MapOrder) (id : TaskId) (r : KubernetesUnreachableNodes) :
    Outcome (Option TaskEvent) := do
  let k8s ← Outcome.deref r.current.k8s
  let dk8s ← Outcome.deref r.desired.k8s
  let (next, errs) ← handleKubernetesUnknownNodes.nodepools ord id r k8s dk8s []
    (ord.range "unknown kubernetes nodes" r.nodeStatus.kubernetes)
  match next, errs with
  | some te, _ => pure (some te)
  | none, [] => pure none
  | none, errs => .error (.error (handleKubernetesUnknownNodes.errorText (joinErrors errs)))

structure LoadBalancerUnreachableNodes where
  nodeStatus : UnknownNodeStatus
  diff : KubernetesDiffResult
  current : Clusters
  desired : Clusters

def scheduleRawDeleteLoadBalancer (id : TaskId) (current : Clusters) (cid : LoadBalancerIdentifier)
    (unreachable : Unreachable) : TaskEvent :=
  updateEvent id current (.deleteLoadBalancer cid.id (some unreachable))
    s!"Removing load balancer {quoted cid.id}"
    (lbTerraformerStage "Reconciling infrastructure" "Destroying infrastructure" ::
      if current.loadBalancers.length = 1 then
        [.kuber (warn "Configuring cluster")
          [⟨.removeLbScrapeConfig, warn "Removing load balancer scrape config"⟩]]
      else [])

namespace handleLoadBalancerUnknownNodes

def deleteNodePool (ord : MapOrder) (id : TaskId) (r : LoadBalancerUnreachableNodes)
    (cid : LoadBalancerIdentifier) (cnp : NodePool) : Outcome (Option TaskEvent) :=
  let diff : NodePoolsDiffResult :=
    { deleted := (∅ : NodePoolsViewType).appendAt cnp.name (cnp.nodes.map (·.name)) }
  scheduleDeletionLoadBalancerNodePools ord id r.current cid diff
    { useProxy := r.diff.proxy.currentUsed
      isStatic := cnp.isStatic
      unreachable := some r.nodeStatus.unreachable }

def nodeText (cnp : NodePool) (ip : String) : Outcome String := do
  let n ← Outcome.deref (cnp.nodes.find? (·.publicIp = ip))
  pure (s!"node: {quoted n.name}, public endpoint: {quoted n.publicIp}, static: {cnp.isStatic};")

def nodepoolText (lb : String) (cnp : NodePool) (ips : List String) : Outcome String := do
  let texts ← ips.mapM (nodeText cnp)
  pure (s!"nodepool {quoted cnp.name} from loadbalancer {quoted lb} has {ips.length} "
    ++ s!"loadbalancer node/s with unknown status:\n [{String.join texts}]")

-- The loop over the nodepools of one load balancer. The first component is what it returned, if it
-- did.
def nodepools (ord : MapOrder) (id : TaskId) (r : LoadBalancerUnreachableNodes)
    (cid : LoadBalancerIdentifier) (clb dlb : LBcluster) (errs : List String) :
    List (String × List String) → Outcome (Option (Option TaskEvent) × List String)
  | [] => pure (none, errs)
  | (np, ips) :: rest => do
    let cnp ← Outcome.deref (NodePools.findByName np clb.clusterInfo.nodePools)
    match NodePools.findByName np dlb.clusterInfo.nodePools with
    | none =>
      let next ← deleteNodePool ord id r cid cnp
      pure (some next, errs)
    | some _ =>
      let err ← nodepoolText cid.id cnp ips
      nodepools ord id r cid clb dlb (errs ++ [err]) rest

def loadbalancers (ord : MapOrder) (id : TaskId) (r : LoadBalancerUnreachableNodes)
    (errs : List String) :
    List (String × GoMap (List String)) → Outcome (Option (Option TaskEvent) × List String)
  | [] => pure (none, errs)
  | (lb, unreachable) :: rest => do
    let index ← Outcome.deref (Clusters.indexLoadbalancerById lb r.current.loadBalancers)
    let clb ← Outcome.deref r.current.loadBalancers[index]?
    match Clusters.findLoadbalancerById lb r.desired.loadBalancers with
    | none =>
      if clb.isApiEndpoint then
        let err := s!"can't delete loadbalancer {quoted lb} containing nodes with unknown status, "
          ++ "the loadbalancer is targeting the kube-api server and deleting it from the desired "
          ++ "state would result in a broken kubernetes cluster"
        loadbalancers ord id r (errs ++ [err]) rest
      else
        pure (some (some (scheduleRawDeleteLoadBalancer id r.current ⟨lb, index⟩
          r.nodeStatus.unreachable)), errs)
    | some dlb =>
      let (returned, errs) ← nodepools ord id r ⟨lb, index⟩ clb dlb errs
        (ord.range "unknown loadbalancer nodepools" unreachable)
      match returned with
      | some next => pure (some next, errs)
      | none => loadbalancers ord id r errs rest

def errorText (err : String) : String :=
  "\nNode/s within loadbalancers attached to the kubernetes cluster\n"
  ++ "have reachability problems.\n\n"
  ++ "Fix the unreachable nodes by either:\n"
  ++ "- fixing the connectivity issue\n"
  ++ "- if the connectivity issue cannot be resolved, you can:\n"
  ++ "  - delete the whole nodepool from the loadbalancer cluster in the InputManifest\n"
  ++ "  - delete the whole loadbalancer cluster from the InputManifest\n\n" ++ err ++ "\n"

end handleLoadBalancerUnknownNodes

def handleLoadBalancerUnknownNodes (ord : MapOrder) (id : TaskId)
    (r : LoadBalancerUnreachableNodes) : Outcome (Option TaskEvent) := do
  let (returned, errs) ← handleLoadBalancerUnknownNodes.loadbalancers ord id r []
    (ord.range "unknown loadbalancers" r.nodeStatus.unknownLoadBalancersNodes)
  match returned, errs with
  | some next, _ => pure next
  | none, [] => pure none
  | none, errs => .error (.error (handleLoadBalancerUnknownNodes.errorText (joinErrors errs)))

end Manager

end Claudie
