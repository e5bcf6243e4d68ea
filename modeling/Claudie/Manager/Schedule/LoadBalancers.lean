import Claudie.Manager.Schedule.Kubernetes

/-!
`reconciliate_loadbalancers.go`: the tasks that bring the load balancers of a cluster from their
current to their desired state.
-/

namespace Claudie

namespace Manager

def lbTerraformerStage (about passAbout : String) : Stage :=
  .terraformer (fatal about) [⟨.updateInfrastructure, fatal passAbout⟩]

def scrapeConfigStage (about passAbout : String) : Stage :=
  .kuber (fatal about) [⟨.storeLbScrapeConfig, warn passAbout⟩]

def configuringScrapeConfigStage : Stage :=
  scrapeConfigStage "Configuring cluster" "Reconciling load balancer scrape config"

def reconciledLbStage (passAbout : String) : Stage :=
  reconcileEnvoyStage "Configuring nodes of the reconciled load balancer" passAbout

def updateProxyPass : SubPass AnsiblerPass :=
  ⟨.updateProxyEnvsOnNodes, fatal "Updating HttpProxy,NoProxy environment variables"⟩

structure LoadBalancerNodePoolsOptions where
  useProxy : Bool
  isStatic : Bool
  unreachable : Option Unreachable := none

-- The assignment to the nodepools of the load balancer at an index of the in-flight state.
def modifyLoadBalancerAt (lbs : List LBcluster) (i : Nat)
    (f : List NodePool → Outcome (List NodePool)) : Outcome (List LBcluster) := do
  let lb ← Outcome.deref lbs[i]?
  let nps ← f lb.clusterInfo.nodePools
  pure (lbs.set i (LBcluster.withNodePools lb nps))

namespace scheduleDeletionLoadBalancerNodePools

def pipeline (opts : LoadBalancerNodePoolsOptions) : List Stage :=
  (if opts.isStatic then []
    else [lbTerraformerStage "Reconciling infrastructure for the load balancer"
      "Remvoing firewalls and nodes"])
  ++ (if opts.useProxy then
      [.ansibler (fatal "Configuring nodes of the cluster and the loadbalancers")
        [⟨.installVpn,
            fatal "Refreshing VPN on nodes of the cluster after nodes/nodepool deletion"⟩,
          ⟨.updateProxyEnvsOnNodes,
            fatal "Updating HttpProxy,NoProxy environment variables, after node/nodepool removal"⟩,
          commitProxyPass]]
    else [])
  ++ [scrapeConfigStage "Configuring kubernetes cluster" "Reconciling scrape config"]

def partiallyDeletedChange (current : Clusters) (cid : LoadBalancerIdentifier) (np : String)
    (nodes : List String) (opts : LoadBalancerNodePoolsOptions) : Outcome (Clusters × Delta) :=
  if opts.isStatic then
    match Clusters.indexLoadbalancerById cid.id current.loadBalancers with
    | none => pure (current, .none)
    | some idx => do
      let lb ← Outcome.deref current.loadBalancers[idx]?
      let affected := NodePools.findByName np lb.clusterInfo.nodePools
      let affectedNodes := NodePools.cloneTargetNodes affected nodes
      let staticNodeKeys :=
        match affected.bind (·.static?) with
        | some stt => NodePools.copyKeys stt.nodeKeys ∅ affectedNodes
        | none => ∅
      let lbs ← modifyLoadBalancerAt current.loadBalancers idx
        (NodePools.modifyByName np (fun np => pure (NodePools.deleteNodes np nodes)))
      pure (⟨current.k8s, lbs⟩, .deletedLoadBalancerNodes opts.unreachable cid.id
        (.partialNodePool np affectedNodes staticNodeKeys))
  else pure (current, .tfDeleteLoadBalancerNodes cid.id false np nodes opts.unreachable)

def deletedChange (current : Clusters) (cid : LoadBalancerIdentifier) (np : String)
    (nodes : List String) (opts : LoadBalancerNodePoolsOptions) : Outcome (Clusters × Delta) :=
  if opts.isStatic then
    match Clusters.indexLoadbalancerById cid.id current.loadBalancers with
    | none => pure (current, .none)
    | some idx => do
      let lb ← Outcome.deref current.loadBalancers[idx]?
      -- the nodepool is looked up by the id of the load balancer, not by its own name.
      let affected := NodePools.findByName cid.id lb.clusterInfo.nodePools
      let lbs ← modifyLoadBalancerAt current.loadBalancers idx
        (fun nps => pure (NodePools.deleteByName nps np))
      pure (⟨current.k8s, lbs⟩, .deletedLoadBalancerNodes opts.unreachable cid.id
        (.wholeNodePool affected))
  else pure (current, .tfDeleteLoadBalancerNodes cid.id true np nodes opts.unreachable)

end scheduleDeletionLoadBalancerNodePools

def scheduleDeletionLoadBalancerNodePools (ord : MapOrder) (id : TaskId) (current : Clusters)
    (cid : LoadBalancerIdentifier) (diff : NodePoolsDiffResult)
    (opts : LoadBalancerNodePoolsOptions) : Outcome (Option TaskEvent) := do
  let pipeline := scheduleDeletionLoadBalancerNodePools.pipeline opts
  match ord.range "partially deleted nodepools" diff.partiallyDeleted,
      ord.range "deleted nodepools" diff.deleted with
  | (np, nodes) :: _, _ =>
    let (state, delta) ←
      scheduleDeletionLoadBalancerNodePools.partiallyDeletedChange current cid np nodes opts
    pure (some (updateEvent id state delta (s!"Deleting {nodes.length} nodes from nodepool "
      ++ s!"{quoted np} of load balancer {quoted cid.id}") pipeline))
  | [], (np, nodes) :: _ =>
    let (state, delta) ←
      scheduleDeletionLoadBalancerNodePools.deletedChange current cid np nodes opts
    pure (some (updateEvent id state delta
      s!"Deleting nodepool {quoted np} from load balancer {quoted cid.id}" pipeline))
  | [], [] => pure none

namespace scheduleAdditionLoadBalancerNodePools

def pipeline (opts : LoadBalancerNodePoolsOptions) : List Stage :=
  let vpn : SubPass AnsiblerPass := ⟨.installVpn, fatal ("Installing VPN and interconnect new "
    ++ "nodes/nodepools with existing infrastructure")⟩
  let envoy : SubPass AnsiblerPass := ⟨.reconcileLoadbalancers,
    fatal "Refreshing/Deploying envoy services for new nodes/nodepools"⟩
  (if opts.isStatic then []
    else [lbTerraformerStage "Reconciling infrastructure for the load balancer"
      "Reconciling firewalls and VMs for new nodes/nodepools"])
  ++ [.ansibler (fatal "Configuring newly added nodes of the load balancer")
      (if opts.useProxy then
        [proxyForPackageManagerPass, vpn, proxyForPrivateAddressesPass, commitProxyPass, envoy]
      else [vpn, envoy]),
    scrapeConfigStage "Configuring cluster" "Reconciling scrape config"]

def partiallyAddedChange (current desired : Clusters) (cid did : LoadBalancerIdentifier)
    (np : String) (nodes : List String) (opts : LoadBalancerNodePoolsOptions) :
    Outcome (Clusters × Delta) := do
  let srclb ← Outcome.deref desired.loadBalancers[did.index]?
  let src := srclb.clusterInfo.nodePools
  if opts.isStatic then
    let lbs ← modifyLoadBalancerAt current.loadBalancers cid.index
      (fun dst => NodePools.copyNodesByName np dst src nodes)
    pure (⟨current.k8s, lbs⟩, .addedLoadBalancerNodes cid.id false np nodes)
  else
    let toAdd := NodePools.cloneTargetNodes (NodePools.findByName np src) nodes
    pure (current, .tfAddLoadBalancerNodes cid.id (.existing np toAdd))

def addedChange (current desired : Clusters) (cid did : LoadBalancerIdentifier) (np : String)
    (nodes : List String) (opts : LoadBalancerNodePoolsOptions) : Outcome (Clusters × Delta) := do
  let srclb ← Outcome.deref desired.loadBalancers[did.index]?
  let toAdd ← Outcome.deref (NodePools.findByName np srclb.clusterInfo.nodePools)
  if opts.isStatic then
    let lbs ← modifyLoadBalancerAt current.loadBalancers cid.index
      (fun dst => pure (dst ++ [toAdd]))
    pure (⟨current.k8s, lbs⟩, .addedLoadBalancerNodes cid.id true np nodes)
  else pure (current, .tfAddLoadBalancerNodes cid.id (.new toAdd))

end scheduleAdditionLoadBalancerNodePools

def scheduleAdditionLoadBalancerNodePools (ord : MapOrder) (id : TaskId)
    (current desired : Clusters) (cid did : LoadBalancerIdentifier) (diff : NodePoolsDiffResult)
    (opts : LoadBalancerNodePoolsOptions) : Outcome (Option TaskEvent) := do
  let pipeline := scheduleAdditionLoadBalancerNodePools.pipeline opts
  match ord.range "partially added nodepools" diff.partiallyAdded,
      ord.range "added nodepools" diff.added with
  | (np, nodes) :: _, _ =>
    let (state, delta) ← scheduleAdditionLoadBalancerNodePools.partiallyAddedChange
      current desired cid did np nodes opts
    pure (some (updateEvent id state delta (s!"Adding {nodes.length} nodes to nodepool "
      ++ s!"{quoted np} for loadbalancer {quoted cid.id}") pipeline))
  | [], (np, nodes) :: _ =>
    let (state, delta) ← scheduleAdditionLoadBalancerNodePools.addedChange
      current desired cid did np nodes opts
    pure (some (updateEvent id state delta
      s!"Adding nodepool {quoted np} for loadbalancer {quoted cid.id}" pipeline))
  | [], [] => pure none

def replaceDnsPipeline (useProxy : Bool) (prev : Option String) : List Stage :=
  let tf := lbTerraformerStage "Reconciling infrastructure"
    "Replacing old DNS infrastructure with new"
  match prev with
  | some prev =>
    let move : SubPass AnsiblerPass := ⟨.determineApiEndpointChange,
      fatal s!"Moving API endpoint from {quoted prev} to the newly configured DNS"⟩
    [tf,
      .ansibler (fatal "Configuring infrastructure of the cluster")
        (if useProxy then [updateProxyPass, move, commitProxyPass] else [move]),
      refreshKubeconfigStage, configMapStage]
  | none =>
    tf :: if useProxy then
      [.ansibler (fatal "Configuring nodes after DNS change") [updateProxyPass, commitProxyPass]]
    else []

def scheduleReplaceDns (id : TaskId) (useProxy : Bool) (current desired : Clusters)
    (cid did : LoadBalancerIdentifier) (apiEndpoint : Bool) : Outcome TaskEvent := do
  let dlb ← Outcome.deref desired.loadBalancers[did.index]?
  let oldApiEndpoint ←
    if dlb.isApiEndpoint && apiEndpoint then do
      let clb ← Outcome.deref current.loadBalancers[cid.index]?
      pure (some ((clb.dns.map (·.endpoint)).getD ""))
    else pure none
  pure (updateEvent id current (.tfReplaceDns cid.id dlb.dns oldApiEndpoint)
    s!"Reconciling DNS for load balancer {quoted cid.id}"
    (replaceDnsPipeline useProxy oldApiEndpoint))

def scheduleControlNodesPort6443 (id : TaskId) (current : Clusters) (isOpen : Bool) :
    Outcome TaskEvent := do
  let k8s ← Outcome.deref current.k8s
  pure (updateEvent id current (.clusterApiPort isOpen)
    s!"Reconciling API endpoint port for cluster {quoted k8s.id}"
    [.terraformer (fatal "Reconciling infrastructure")
      [⟨.apiPortOnKubernetes, fatal "Adjusting firewall rules"⟩]])

def ApiEndpointChangeState.toString : ApiEndpointChangeState → String
  | .noChange => "NoChange"
  | .attachingLoadBalancer => "AttachingLoadBalancer"
  | .detachingLoadBalancer => "DetachingLoadBalancer"
  | .endpointRenamed => "EndpointRenamed"
  | .moveEndpoint => "MoveEndpoint"

def scheduleMoveApiEndpoint (id : TaskId) (current : Clusters) (cid did : String)
    (change : ApiEndpointChangeState) : TaskEvent :=
  updateEvent id current (.apiEndpoint change cid did)
    (s!"Moving Api endpoint {ApiEndpointChangeState.toString change} "
      ++ s!"from {quoted cid} to {quoted did}")
    [.ansibler (fatal "Configuring infrastructure")
      [⟨.determineApiEndpointChange, fatal "Moving api endpoint"⟩],
      refreshKubeconfigStage, configMapStage]

def scheduleDeleteLoadBalancer (id : TaskId) (useProxy : Bool) (current : Clusters)
    (cid : LoadBalancerIdentifier) : TaskEvent :=
  updateEvent id current (.deleteLoadBalancer cid.id none)
    s!"Removing load balancer {quoted cid.id}"
    (lbTerraformerStage "Reconciling infrastructure" "Destroying infrastructure" ::
      (if useProxy then
        [.ansibler (fatal "Configuring nodes after Load Balancer deletion")
          [⟨.installVpn, fatal "Refreshing VPN on nodes of the cluster"⟩, updateProxyPass,
            commitProxyPass]]
      else [])
      ++ (if current.loadBalancers.length = 1 then
        [.kuber (fatal "Configuring cluster")
          [⟨.removeLbScrapeConfig, warn "Removing load balancer scrape config"⟩]]
      else []))

def scheduleJoinLoadBalancer (id : TaskId) (useProxy : Bool) (current desired : Clusters)
    (did : LoadBalancerIdentifier) : Outcome TaskEvent := do
  let toJoin ← Outcome.deref desired.loadBalancers[did.index]?
  let vpn : SubPass AnsiblerPass :=
    ⟨.installVpn, fatal "Installing VPN and interconnect with existing infrastructure"⟩
  let envoy : SubPass AnsiblerPass :=
    ⟨.reconcileLoadbalancers, fatal "Setup envoy for roles of the loadbalancer"⟩
  let ans : Stage := .ansibler (fatal "Configuring newly spawned infrastructure")
    (if useProxy then
      [proxyForPackageManagerPass, vpn, proxyForPrivateAddressesPass, envoy, commitProxyPass]
    else [vpn, envoy])
  pure (updateEvent id current (.tfAddLoadBalancer toJoin)
    s!"Joining loadbalancer {quoted did.id} into existing infrastructure"
    [lbTerraformerStage "Creating infrastructure for newly added loadbalancer"
      "Spawning infrastructure", ans, configuringScrapeConfigStage])

def scheduleDeleteRoles (id : TaskId) (current : Clusters) (cid : LoadBalancerIdentifier)
    (roles : List String) : TaskEvent :=
  updateEvent id current (.deleteLoadBalancerRoles cid.id roles)
    s!"Reconciling load balancer {quoted cid.id}"
    [lbTerraformerStage "Reconciling infrastructure for the load balancer"
        "Adjusting firewalls rules after deletetion of roles",
      reconciledLbStage "Refreshing existing envoy services and removing unused for deleted roles",
      configuringScrapeConfigStage]

-- A port that is in use is replaced by 0, for which the operating system chooses one.
def rolesToAdd (current : List LBcluster) (desired : List Role) (roles : List String) : List Role :=
  let ports := current.flatMap (fun lb => lb.roles.map (·.settings.envoyAdminPort))
  (desired.filter (fun r => roles.contains r.name)).map (fun r =>
    if ports.contains r.settings.envoyAdminPort then { r with settings.envoyAdminPort := 0 } else r)

def scheduleAddRoles (id : TaskId) (current desired : Clusters) (cid did : LoadBalancerIdentifier)
    (roles : List String) : Outcome TaskEvent := do
  let dlb ← Outcome.deref desired.loadBalancers[did.index]?
  pure (updateEvent id current
    (.tfAddLoadBalancerRoles cid.id (rolesToAdd current.loadBalancers dlb.roles roles))
    s!"Reconciling load balancer {quoted cid.id}"
    [lbTerraformerStage "Reconciling infrastructure for the load balancer"
        "Reconciling firewalls for new roles",
      reconciledLbStage "Refreshing existing envoy services and deploy new for newly added roles",
      configuringScrapeConfigStage])

def scheduleReconcileRoleTargetPools (id : TaskId) (current desired : Clusters)
    (cid did : LoadBalancerIdentifier) : Outcome TaskEvent := do
  let clb ← Outcome.deref current.loadBalancers[cid.index]?
  let dlb ← Outcome.deref desired.loadBalancers[did.index]?
  let toReconcile : GoMap (List String) := clb.roles.foldl (fun m cr =>
    match dlb.roles.find? (fun dr => cr.name = dr.name) with
    | some dr => m.insert cr.name dr.targetPools
    | none => m) ∅
  pure (updateEvent id current (.ansReplaceTargetPools cid.id toReconcile)
    s!"Reconciling load balancer {quoted cid.id}"
    [reconciledLbStage ("Refreshing existing envoy services and deploy new for changed target "
        ++ "pools of role"),
      configuringScrapeConfigStage])

def scheduleRollingUpdateLoadBalancer (ord : MapOrder) (entropy : Entropy) (id : TaskId)
    (current : Clusters) (cid : LoadBalancerIdentifier) (np : String)
    (templates : TemplateRepository) (opts : LoadBalancerNodePoolsOptions) :
    Outcome (Option TaskEvent) :=
  match createNodePoolForRollingUpdate entropy current (some cid) np templates with
  | .error .panic => .error .panic
  | .error (.error _) => pure none
  | .ok new => do
    let lbs ← modifyLoadBalancerAt current.loadBalancers cid.index (fun nps => pure (nps ++ [new]))
    let diff : NodePoolsDiffResult :=
      { added := (∅ : NodePoolsViewType).insert new.name (new.nodes.map (·.name)) }
    scheduleAdditionLoadBalancerNodePools ord id current ⟨current.k8s, lbs⟩ cid cid diff opts

def scheduleRefreshLoadBalancerRoleInternalSettings (id : TaskId) (current desired : Clusters)
    (cid did : LoadBalancerIdentifier) (role : String) : Outcome TaskEvent := do
  let dlb ← Outcome.deref desired.loadBalancers[did.index]?
  let delta : Delta :=
    match dlb.roles.find? (·.name = role) with
    | some dr => .ansReplaceRoleInternalSettings cid.id role dr.targetPort (some dr.settings)
    | none => .ansReplaceRoleInternalSettings cid.id role 0 none
  pure (updateEvent id current delta
    s!"Updating internal settings for role {quoted role} loadbalancer {quoted cid.id}"
    [reconciledLbStage "Refreshing existing envoy services for changed settings of the role"])

def apiServerPort : Int := 6443

def scheduleRefreshLoadBalancerRoleExternalSettings (id : TaskId) (current desired : Clusters)
    (cid did : LoadBalancerIdentifier) (role : String) : Outcome TaskEvent := do
  let dlb ← Outcome.deref desired.loadBalancers[did.index]?
  let delta : Delta :=
    match dlb.roles.find? (·.name = role) with
    | some dr =>
      .tfReplaceRoleExternalSettings cid.id role
        (if dr.port = apiServerPort then .apiServer else .ingress) dr.protocol dr.port
    | none => .tfReplaceRoleExternalSettings cid.id role .apiServer "" 0
  pure (updateEvent id current delta
    s!"Updating external settings for role {quoted role} loadbalancer {quoted cid.id}"
    [lbTerraformerStage "Reconciling infrastructure for the load balancer"
        "Reconciling firewalls for role",
      reconciledLbStage "Refreshing existing envoy services for changed settings of the role"])

structure LoadBalancersReconciliate where
  hc : HealthCheckStatus
  diff : LoadBalancersDiffResult
  proxy : ProxyDiffResult
  current : Clusters
  desired : Clusters

namespace LoadBalancersReconciliate

def options (r : LoadBalancersReconciliate) (isStatic : Bool) : LoadBalancerNodePoolsOptions :=
  { useProxy := r.proxy.currentUsed, isStatic }

-- The roles that are still to be added to a load balancer without an entry are none.
def rolesSynced (r : LoadBalancersReconciliate) (lb : String) : Bool :=
  match r.diff.modified[lb]? with
  | some modified => modified.roles.added.isEmpty
  | none => true

def moveApiEndpoint (r : LoadBalancersReconciliate) (id : TaskId) : TaskEvent :=
  scheduleMoveApiEndpoint id r.current r.diff.apiEndpointCurrent r.diff.apiEndpointNew
    r.diff.apiEndpointState

end LoadBalancersReconciliate

namespace ModifiedLoadBalancer

def cid (m : ModifiedLoadBalancer) (lb : String) : LoadBalancerIdentifier := ⟨lb, m.currentIdx⟩

def did (m : ModifiedLoadBalancer) (lb : String) : LoadBalancerIdentifier := ⟨lb, m.desiredIdx⟩

end ModifiedLoadBalancer

namespace preKubernetesDiff

-- The switch over the change of the api endpoint; `none` leaves it without a return.
def apiEndpoint (id : TaskId) (r : LoadBalancersReconciliate) : Outcome (Option TaskEvent) :=
  let lbs := r.current.loadBalancers
  match r.diff.apiEndpointState with
  | .attachingLoadBalancer =>
    match Clusters.findLoadbalancerById r.diff.apiEndpointNew lbs with
    | some lb => pure (if lb.hasApiRole then some (r.moveApiEndpoint id) else none)
    | none => pure none
  | .detachingLoadBalancer =>
    if !r.hc.controlNodesHave6443 then some <$> scheduleControlNodesPort6443 id r.current true
    else pure (some (r.moveApiEndpoint id))
  | .moveEndpoint =>
    if (Clusters.indexLoadbalancerById r.diff.apiEndpointCurrent lbs).isSome
        && (Clusters.indexLoadbalancerById r.diff.apiEndpointNew lbs).isSome
        && r.rolesSynced r.diff.apiEndpointCurrent && r.rolesSynced r.diff.apiEndpointNew then
      pure (some (r.moveApiEndpoint id))
    else pure none
  | .endpointRenamed =>
    let lb := r.diff.apiEndpointCurrent
    match r.diff.modified[lb]? with
    | some modified =>
      if modified.dns then
        some <$> scheduleReplaceDns id r.proxy.currentUsed r.current r.desired
          (ModifiedLoadBalancer.cid modified lb) (ModifiedLoadBalancer.did modified lb) true
      else pure none
    | none => pure none
  | .noChange => pure none

def pendingDeletion (ord : MapOrder) (id : TaskId) (r : LoadBalancersReconciliate)
    (cid : LoadBalancerIdentifier) (np : String) (nodes : List String) (isStatic : Bool) :
    Outcome (Option TaskEvent) := do
  let node ← Outcome.deref nodes.head?
  let diff : NodePoolsDiffResult := { partiallyDeleted := (∅ : NodePoolsViewType).insert np [node] }
  scheduleDeletionLoadBalancerNodePools ord id r.current cid diff (r.options isStatic)

def modifications (ord : MapOrder) (id : TaskId) (r : LoadBalancersReconciliate) :
    List (String × ModifiedLoadBalancer) → Outcome (Option TaskEvent)
  | [] => pure none
  | (lb, m) :: rest =>
    let cid := ModifiedLoadBalancer.cid m lb
    let did := ModifiedLoadBalancer.did m lb
    if m.dns then
      some <$> scheduleReplaceDns id r.proxy.currentUsed r.current r.desired cid did false
    else if !m.dynamic.added.isEmpty || !m.dynamic.partiallyAdded.isEmpty then
      scheduleAdditionLoadBalancerNodePools ord id r.current r.desired cid did m.dynamic
        (r.options false)
    else if !m.static.added.isEmpty || !m.static.partiallyAdded.isEmpty then
      scheduleAdditionLoadBalancerNodePools ord id r.current r.desired cid did m.static
        (r.options true)
    else if !m.dynamic.deleted.isEmpty || !m.dynamic.partiallyDeleted.isEmpty then
      scheduleDeletionLoadBalancerNodePools ord id r.current cid m.dynamic (r.options false)
    else if !m.static.deleted.isEmpty || !m.static.partiallyDeleted.isEmpty then
      scheduleDeletionLoadBalancerNodePools ord id r.current cid m.static (r.options true)
    else
      match ord.range "pending dynamic deletions" m.pendingDynamicDeletions,
          ord.range "pending static deletions" m.pendingStaticDeletions with
      | (np, nodes) :: _, _ => pendingDeletion ord id r cid np nodes false
      | [], (np, nodes) :: _ => pendingDeletion ord id r cid np nodes true
      | [], [] => modifications ord id r rest

end preKubernetesDiff

def preKubernetesDiff (ord : MapOrder) (id : TaskId) (r : LoadBalancersReconciliate) :
    Outcome (Option TaskEvent) :=
  Outcome.orElse (preKubernetesDiff.apiEndpoint id r)
    (preKubernetesDiff.modifications ord id r
      (ord.range "modified before kubernetes" r.diff.modified))

namespace postKubernetesDiff

def addedRoles (id : TaskId) (r : LoadBalancersReconciliate) :
    List (String × ModifiedLoadBalancer) → Outcome (Option TaskEvent)
  | [] => pure none
  | (lb, m) :: rest =>
    if !m.roles.added.isEmpty then
      some <$> scheduleAddRoles id r.current r.desired (ModifiedLoadBalancer.cid m lb)
        (ModifiedLoadBalancer.did m lb) m.roles.added
    else addedRoles id r rest

def changedRoles (id : TaskId) (r : LoadBalancersReconciliate) :
    List (String × ModifiedLoadBalancer) → Outcome (Option TaskEvent)
  | [] => pure none
  | (lb, m) :: rest =>
    let cid := ModifiedLoadBalancer.cid m lb
    if !m.roles.deleted.isEmpty then
      pure (some (scheduleDeleteRoles id r.current cid m.roles.deleted))
    else if !m.roles.targetPoolsAdded.isEmpty || !m.roles.targetPoolsDeleted.isEmpty then
      some <$> scheduleReconcileRoleTargetPools id r.current r.desired cid
        (ModifiedLoadBalancer.did m lb)
    else changedRoles id r rest

def deletions (id : TaskId) (r : LoadBalancersReconciliate) : Outcome (Option TaskEvent) :=
  match r.diff.deleted with
  | lb :: _ => pure (some (scheduleDeleteLoadBalancer id r.proxy.currentUsed r.current lb))
  | [] =>
    if (Clusters.findAssignedLbApiEndpoint r.current.loadBalancers).isSome
        && r.hc.controlNodesHave6443 then
      some <$> scheduleControlNodesPort6443 id r.current false
    else pure none

end postKubernetesDiff

def postKubernetesDiff (ord : MapOrder) (id : TaskId) (r : LoadBalancersReconciliate) :
    Outcome (Option TaskEvent) :=
  match r.diff.added with
  | lb :: _ => some <$> scheduleJoinLoadBalancer id r.proxy.currentUsed r.current r.desired lb
  | [] =>
    Outcome.orElse (postKubernetesDiff.addedRoles id r (ord.range "added roles" r.diff.modified))
      (Outcome.orElse
        (postKubernetesDiff.changedRoles id r (ord.range "changed roles" r.diff.modified))
        (postKubernetesDiff.deletions id r))

namespace loadBalancersLowPriority

def modifications (ord : MapOrder) (entropy : Entropy) (id : TaskId)
    (r : LoadBalancersReconciliate) :
    List (String × ModifiedLoadBalancer) → Outcome (Option TaskEvent)
  | [] => pure none
  | (lb, m) :: rest =>
    let cid := ModifiedLoadBalancer.cid m lb
    let did := ModifiedLoadBalancer.did m lb
    match m.roles.internalSettingsChanged, m.roles.externalSettingsChanged,
        ord.range "rolling updates" m.rollingUpdate with
    | role :: _, _, _ =>
      some <$> scheduleRefreshLoadBalancerRoleInternalSettings id r.current r.desired cid did role
    | [], role :: _, _ =>
      some <$> scheduleRefreshLoadBalancerRoleExternalSettings id r.current r.desired cid did role
    | [], [], (np, tpl) :: _ =>
      scheduleRollingUpdateLoadBalancer ord entropy id r.current cid np tpl (r.options false)
    | [], [], [] => modifications ord entropy id r rest

end loadBalancersLowPriority

def loadBalancersLowPriority (ord : MapOrder) (entropy : Entropy) (id : TaskId)
    (r : LoadBalancersReconciliate) : Outcome (Option TaskEvent) :=
  loadBalancersLowPriority.modifications ord entropy id r
    (ord.range "low priority modifications" r.diff.modified)

end Manager

end Claudie
