import Claudie.Ansibler.Nodes
import Claudie.Lib.List

/-!
`task_reconcile_loadbalancers.go` of the ansibler service: the envoy of each load balancer is
configured with the nodes its roles forward to.
-/

namespace Claudie

namespace Ansibler

-- Names of dynamic nodepools have a hash appended, those of static nodepools have not.
def targets (target : String) (np : NodePool) : Bool :=
  if np.isDynamic then NodePools.hasNodePoolTypeOf target np.name else target = np.name

def targetNodes (targetPools : List String) (nps : List NodePool) : List Node :=
  (targetPools.flatMap (fun target => nps.filter (targets target))).flatMap (·.nodes)

def roleTargetNodes (nps : List NodePool) (role : Role) : List Node :=
  -- of pools that are used for the workers as well, the api server only considers the control ones.
  targetNodes role.targetPools (if role.roleType = .apiServer then NodePools.control nps else nps)

def roleTargetPools (lb : LBcluster) (nps : List NodePool) : List (Role × List Node) :=
  lb.roles.map (fun role => (role, roleTargetNodes nps role))

def targetHandle : Delta → String
  | .addedLoadBalancerNodes handle _ _ _
  | .addedLoadBalancerRoles handle _
  | .addedLoadBalancer handle
  | .ansReplaceTargetPools handle _
  | .ansReplaceRoleInternalSettings handle _ _ _
  | .replacedRoleInternalSettings handle _
  | .replacedRoleExternalSettings handle _
  | .deletedLoadBalancerNodes _ handle _
  | .deleteLoadBalancerRoles handle _
  | .deleteLoadBalancer handle _
  | .replacedDns handle _
  | .replacedTargetPools handle _ => handle
  | _ => ""

def defaultToSingleLoadBalancerIfPossible (state : Clusters) (delta : Delta) : Option LBcluster :=
  if targetHandle delta = "" then none
  else Clusters.findLoadbalancerById (targetHandle delta) state.loadBalancers

def replaceTargetPools (pools : GoMap (List String)) (role : Role) : Role :=
  match pools[role.name]? with
  | some targetPools => { role with targetPools }
  | none => role

def replaceInternalSettings (name : String) (targetPort : Int) (settings : RoleSettings)
    (role : Role) : Role :=
  if role.name = name then { role with targetPort, settings } else role

-- The roles that are replaced before the playbooks run.
def replaceRoles (lbs : List LBcluster) (delta : Delta) : Outcome (List LBcluster) :=
  match delta with
  | .ansReplaceTargetPools handle pools =>
    pure (lbs.modifyFirst (·.id = handle)
      (fun lb => { lb with roles := lb.roles.map (replaceTargetPools pools) }))
  | .ansReplaceRoleInternalSettings handle name targetPort (some settings) =>
    pure (lbs.modifyFirst (·.id = handle) (fun lb =>
      { lb with roles := lb.roles.map (replaceInternalSettings name targetPort settings) }))
  | .ansReplaceRoleInternalSettings handle name _ none =>
    -- the templates read the missing settings of the role.
    match Clusters.findLoadbalancerById handle lbs with
    | some lb => if lb.roles.any (·.name = name) then .error .panic else pure lbs
    | none => pure lbs
  | _ => pure lbs

def loadBalancersToReconcile : Task → Outcome (List LBcluster)
  | .create state => pure state.loadBalancers
  | .update state delta =>
    match defaultToSingleLoadBalancerIfPossible state delta with
    | some lb => replaceRoles [lb] delta
    | none => replaceRoles state.loadBalancers delta
  | .delete _ => pure []

def reportsRoles : Task → Bool
  | .update _ (.ansReplaceTargetPools _ _) => true
  | .update _ (.ansReplaceRoleInternalSettings _ _ _ _) => true
  | _ => false

def reconcileLoadBalancers
    (setUpLoadbalancers : List (LBcluster × List (Role × List Node)) → Option String)
    (task : Task) : Outcome (ResultKind × List String) := do
  match task with
  | .delete _ => pure (.none, [])
  | _ =>
    let lbs ← loadBalancersToReconcile task
    let k8s ← Outcome.deref task.clusters.k8s
    let nps := k8s.clusterInfo.nodePools
    match setUpLoadbalancers (lbs.map (fun lb => (lb, roleTargetPools lb nps))) with
    | some err => pure (.none, [err])
    | none =>
      if reportsRoles task then pure (.update none (some lbs), [])
      else pure (.none, [])

end Ansibler

end Claudie
