import Claudie.Lib.List
import Claudie.Spec.Consume
import Claudie.Terraformer.Build

/-!
The handlers of `reconcileInfrastructure`. Each returns what it commits to the result of the task and
the errors it reports.
-/

namespace Claudie

namespace Terraformer

abbrev Report := ResultKind × List String

/--
The calls of the handlers: the runs of tofu for the cluster of an id, the destruction of its dns
records and of the cluster itself, which return an error or none.
-/
structure Infrastructure where
  tofu : String → Tofu
  destroyDNSRecords : String → Option String
  destroyCluster : Cluster → Option String

-- An update of one load balancer, committed only if it could be built.
def commitBuilt (tofu : Tofu) (lb : LBcluster) : Outcome Report := do
  match ← LBcluster.build tofu lb with
  | (_, some err) => pure (.none, [err])
  | (lb, none) => pure (.update none (some [lb]), [])

-- An update of one load balancer, committed whether it could be built or not.
def commitAnyway (tofu : Tofu) (lb : LBcluster) : Outcome Report := do
  let (lb, err) ← LBcluster.build tofu lb
  pure (.update none (some [lb]), err.toList)

-- The handlers ignore a request for a load balancer that is missing from the state.
def withLoadBalancer (state : Clusters) (handle : String) (f : LBcluster → Outcome Report) :
    Outcome Report :=
  match Clusters.findLoadbalancerById handle state.loadBalancers with
  | none => pure (.none, [])
  | some lb => f lb

def deleteLoadBalancerNodes (tofu : Tofu) (state : Clusters) (handle : String)
    (withNodePool : Bool) (nodepool : String) (nodes : List String) : Outcome Report :=
  withLoadBalancer state handle (fun current => do
    let nps := current.clusterInfo.nodePools
    if withNodePool then
      commitBuilt tofu (LBcluster.withNodePools current (NodePools.deleteByName nps nodepool))
    else
      match NodePools.findByName nodepool nps with
      | none => pure (.none, [])
      | some _ =>
        let nps ← NodePools.modifyByName nodepool
          (fun np => pure (NodePools.deleteNodes np nodes)) nps
        commitBuilt tofu (LBcluster.withNodePools current nps))

-- The nodepools with the new nodes, none if there is no dynamic nodepool to add them to.
def addNodes (nps : List NodePool) : AddNodesKind → Option (List NodePool)
  | .existing nodepool nodes =>
    match NodePools.findByName nodepool nps with
    | none => none
    | some np =>
      if np.isStatic then none
      else some (nps.modifyFirst (·.name = nodepool) (NodePools.appendDynamicNodes · nodes))
  | .new nodepool => some (nps ++ [nodepool])

/--
An addition is reported also when it failed, as it is not known which part of it was built.
-/
def addLoadBalancerNodes (tofu : Tofu) (state : Clusters) (handle : String) (kind : AddNodesKind) :
    Outcome Report :=
  withLoadBalancer state handle (fun current =>
    match addNodes current.clusterInfo.nodePools kind with
    | none => pure (.none, [])
    | some nps => commitAnyway tofu (LBcluster.withNodePools current nps))

def addKubernetesNodes (tofu : Tofu) (k8s : K8scluster) (kind : AddNodesKind) : Report :=
  match addNodes k8s.clusterInfo.nodePools kind with
  | none => (.none, [])
  | some nps =>
    let (k8s, err) := K8scluster.build tofu (K8scluster.withNodePools k8s nps)
    (.update (some k8s) (some []), err.toList)

-- The state has been modified before and does not include the deleted nodes.
def deleteKubernetesNodes (tofu : Tofu) (k8s : K8scluster) : Report :=
  match K8scluster.build tofu k8s with
  | (_, some err) => (.none, [err])
  | (k8s, none) => (.update (some k8s) (some []), [])

def withAutoscaler (config : Option AutoscalerConf) (np : NodePool) : NodePool :=
  match np.type with
  | .dynamic d => { np with type := .dynamic { d with autoscalerConfig := config } }
  | .static _ => np

def moveNodePool (k8s : K8scluster) (nodepool : String) (config : Option AutoscalerConf) : Report :=
  match NodePools.findByName nodepool k8s.clusterInfo.nodePools with
  | none => (.none, [])
  | some np =>
    if np.isStatic then (.none, [])
    else
      (.update (some (K8scluster.withNodePools k8s (k8s.clusterInfo.nodePools.modifyFirst
        (·.name = nodepool) (withAutoscaler config)))) (some []), [])

def moveNodePoolToAutoscaled (k8s : K8scluster) (nodepool : String) (config : AutoscalerConf) :
    Report :=
  moveNodePool k8s nodepool (some config)

def moveNodePoolFromAutoscaled (k8s : K8scluster) (nodepool : String) : Report :=
  moveNodePool k8s nodepool none

def addLoadBalancer (tofu : Tofu) (toReconcile : LBcluster) : Outcome Report :=
  commitAnyway tofu toReconcile

def addLoadBalancerRoles (tofu : Tofu) (state : Clusters) (handle : String) (roles : List Role) :
    Outcome Report :=
  withLoadBalancer state handle (fun current =>
    commitAnyway tofu { current with roles := current.roles ++ roles })

def deleteLoadBalancerRoles (tofu : Tofu) (state : Clusters) (handle : String)
    (roles : List String) : Outcome Report :=
  withLoadBalancer state handle (fun current =>
    commitBuilt tofu { current with roles := current.roles.filter (!roles.contains ·.name) })

def replaceRoleExternalSettings (tofu : Tofu) (state : Clusters) (handle role : String)
    (roleType : RoleType) (protocol : String) (port : Int) : Outcome Report :=
  withLoadBalancer state handle (fun current =>
    if current.roles.any (·.name = role) then
      commitAnyway tofu
        { current with
          roles := current.roles.modifyFirst (·.name = role)
            (fun r => { r with port, protocol, roleType }) }
    else pure (.none, []))

def replaceDns (infra : Infrastructure) (state : Clusters) (handle : String) (dns : Option DNS) :
    Outcome Report :=
  withLoadBalancer state handle (fun lb => do
    let removed : ResultKind :=
      if lb.dns.isSome then .update none (some [{ lb with dns := none }]) else .none
    match if lb.dns.isSome then infra.destroyDNSRecords lb.id else none with
    | some err => pure (removed, [err])
    | none =>
      match dns with
      | none => pure (removed, [])
      | some dns =>
        match ← createDNSRecords (infra.tofu lb.id) dns with
        | (_, some err) => pure (removed, [err])
        | (dns, none) =>
          pure (removed.commit (.update none (some [{ lb with dns := some dns }])), []))

def destroyLoadBalancer (infra : Infrastructure) (state : Clusters) (toDestroy : String) :
    Outcome Report :=
  withLoadBalancer state toDestroy (fun lb =>
    match infra.destroyCluster (.loadBalancer lb) with
    | some err => pure (.none, [err])
    | none => pure (.clear none [lb.id], []))

-- The errors of `concurrent.Exec`, joined to one.
def joinErrors (errs : List String) : List String :=
  if errs.isEmpty then [] else ["\n".intercalate errs]

def build (infra : Infrastructure) (c : Clusters) : Outcome Report :=
  match c.k8s with
  | none => pure (.none, [])
  | some k8s =>
    match K8scluster.build (infra.tofu k8s.id) k8s with
    | (k8s, some err) => pure (.update (some k8s) (some []), [err])
    | (k8s, none) => do
      let built ← c.loadBalancers.mapM (fun lb => LBcluster.build (infra.tofu lb.id) lb)
      pure (.update (some k8s) (some (built.map (·.1))), joinErrors (built.filterMap (·.2)))

def reconcileInfrastructure (infra : Infrastructure) : Task → Outcome Report
  | .update state delta =>
    match state.k8s with
    | none => pure (.none, [])
    | some k8s =>
      match delta with
      | .none => build infra state
      | .tfReplaceRoleExternalSettings handle role roleType protocol port =>
        replaceRoleExternalSettings (infra.tofu handle) state handle role roleType protocol port
      | .tfMoveNodePoolFromAutoscaled nodepool => pure (moveNodePoolFromAutoscaled k8s nodepool)
      | .tfMoveNodePoolToAutoscaled nodepool config =>
        pure (moveNodePoolToAutoscaled k8s nodepool config)
      | .tfAddLoadBalancer lb => addLoadBalancer (infra.tofu lb.id) lb
      | .tfDeleteLoadBalancerNodes handle withNodePool nodepool nodes _ =>
        deleteLoadBalancerNodes (infra.tofu handle) state handle withNodePool nodepool nodes
      | .tfAddLoadBalancerNodes handle kind =>
        addLoadBalancerNodes (infra.tofu handle) state handle kind
      | .deleteLoadBalancerRoles handle roles =>
        deleteLoadBalancerRoles (infra.tofu handle) state handle roles
      | .tfAddLoadBalancerRoles handle roles =>
        addLoadBalancerRoles (infra.tofu handle) state handle roles
      | .tfReplaceDns handle dns _ => replaceDns infra state handle dns
      | .deleteLoadBalancer handle _ => destroyLoadBalancer infra state handle
      | .deletedK8sNodes _ _ => pure (deleteKubernetesNodes (infra.tofu k8s.id) k8s)
      | .tfAddK8sNodes kind => pure (addKubernetesNodes (infra.tofu k8s.id) k8s kind)
      | _ => pure (.none, [])
  | _ => pure (.none, [])

end Terraformer

end Claudie
