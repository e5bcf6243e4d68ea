import Claudie.Manager.GenerateState
import Claudie.Manager.HealthCheck
import Claudie.Manager.Schedule.Cluster

/-!
`reconciliate_kubernetes.go`: the tasks that bring the kubernetes cluster from its current to its
desired state.
-/

namespace Claudie

namespace Manager

-- Whether a role of some load balancer targets the nodepool, so that its envoy has to be refreshed.
def targetsNodePool (lbs : List LBcluster) (isStatic : Bool) (np : String) : Bool :=
  lbs.any (fun lb => lb.roles.any (fun r => r.targetPools.any (fun tg =>
    NodePools.hasNodePoolTypeOf tg np || (isStatic && tg = np))))

def reconcileEnvoyStage (about passAbout : String) : Stage :=
  .ansibler (fatal about) [⟨.reconcileLoadbalancers, fatal passAbout⟩]

def kubeadmPasses : List (SubPass KuberPass) :=
  [⟨.patchKubeadm, fatal "Updating Kubeadm certSANs"⟩,
    ⟨.ciliumRestart, warn "Rollout restart of cilium pods"⟩]

def configMapStage : Stage :=
  .kuber (fatal "Updating Config Maps after endpoint change")
    [⟨.patchClusterInfoCm, fatal "Updating cluster-info cluster map with new endpoint"⟩,
      ⟨.patchKubeadm, fatal "Updating Kubeadm cluster map with new endpoint"⟩,
      ⟨.ciliumRestart, warn "Performing rollout restart for cilium after changes"⟩]

def refreshKubeconfigStage : Stage :=
  .kubeEleven (fatal "Reconciling kubernetes cluster")
    [⟨.reconcileCluster, fatal "Refreshing kubeconfig after API endpoint change"⟩]

def scheduleUpgradeKubernetesVersion (id : TaskId) (current desired : Clusters) :
    Outcome TaskEvent := do
  let k8s ← Outcome.deref desired.k8s
  pure (updateEvent id current (.upgradeVersion k8s.kubernetes) "Updating kubernetes version"
    [.kubeEleven (fatal "Reconciling kubernetes cluster")
      [⟨.reconcileCluster, fatal "Rolling update of the nodes"⟩]])

def scheduleProxy (id : TaskId) (current desired : Clusters) (pass : SubPass AnsiblerPass) :
    Outcome TaskEvent := do
  let k8s ← Outcome.deref desired.k8s
  pure (updateEvent id current (.ansReplaceProxy k8s.installationProxy)
    "Refreshing Proxy Environment"
    [.ansibler (fatal "Configuring infrastructure") [pass, commitProxyPass]])

def scheduleProxyOff (id : TaskId) (current desired : Clusters) : Outcome TaskEvent :=
  scheduleProxy id current desired
    ⟨.clearProxyEnvsOnNodes,
      fatal "Clearing Proxy environment variables across nodes of the cluster"⟩

def scheduleProxyOn (id : TaskId) (current desired : Clusters) : Outcome TaskEvent :=
  scheduleProxy id current desired
    ⟨.updateProxyEnvsOnNodes,
      fatal "Updating Proxy environment variables across nodes of the cluster"⟩

def schedulePatchNodes (id : TaskId) (current : Clusters)
    (diff : LabelsTaintsAnnotationsDiffResult) : TaskEvent :=
  updateEvent id current (.kpatchNodes diff.added diff.deleted) "Patching kubernetes nodes"
    [.kuber (fatal "Reconciling changes to Taints/Annotaions/Labels")
      [⟨.patchNodes, warn "Reconciling changes"⟩]]

def scheduleTransferApiEndpoint (id : TaskId) (current : Clusters) (nodepool node : String) :
    TaskEvent :=
  updateEvent id current (.k8sApiEndpoint nodepool node)
    s!"Transferring Api endpoint to {node} from nodepool {nodepool}"
    [.ansibler (fatal "Configuring infrastructure")
      [⟨.updateApiEndpoint, fatal "Transferring api endpoint"⟩],
      refreshKubeconfigStage, configMapStage]

structure K8sNodeAdditionOptions where
  useProxy : Bool
  hasApiServer : Bool
  isStatic : Bool

namespace scheduleAdditionsInNodePools

def ansiblerStage (opts : K8sNodeAdditionOptions) : Stage :=
  let requirements : SubPass AnsiblerPass :=
    ⟨.installNodeRequirements, fatal "Installing node requirments for newly added nodes"⟩
  let vpn : SubPass AnsiblerPass :=
    ⟨.installVpn, fatal "Installing VPN and interconnect new nodes with existing infrastructure"⟩
  .ansibler (fatal "Configuring nodes of the cluster and its loadbalancers")
    (if opts.useProxy then
      [proxyForPackageManagerPass,
        requirements, vpn,
        proxyForPrivateAddressesPass,
        commitProxyPass]
    else [requirements, vpn])

def pipeline (opts : K8sNodeAdditionOptions) (lbs : List LBcluster) (np : String)
    (kuberPasses : List (SubPass KuberPass)) : List Stage :=
  (if opts.isStatic then []
    else [.terraformer (fatal "Reconciling infrastructure for kubernetes cluster")
      [⟨.updateInfrastructure, fatal "Spawning VMs for new nodes"⟩]])
  ++ [ansiblerStage opts,
    .kubeEleven (fatal "Reconciling kubernetes cluster")
      [⟨.reconcileCluster, fatal "Joining new nodes into the kubernetes cluster"⟩],
    .kuber (fatal "Configuring kubernetes cluster")
      (⟨.patchNodes, fatal "Patching newly added nodes"⟩ :: kuberPasses)]
  ++ (if targetsNodePool lbs opts.isStatic np then
      [reconcileEnvoyStage "Updating Envoy configuration on the LoadBalancers"
        "Reconciling Envoy settings after changes to nodepool"]
    else [])

def added (id : TaskId) (k8s : K8scluster) (lbs : List LBcluster) (desired : List NodePool)
    (opts : K8sNodeAdditionOptions) : List (String × List String) → Option TaskEvent
  | [] => none
  | (np, nodes) :: rest =>
    match NodePools.findByName np desired with
    | none => added id k8s lbs desired opts rest
    | some toAdd =>
      let nps := k8s.clusterInfo.nodePools
      let enableCA := (NodePools.autoscaled nps).isEmpty && NodePools.isAutoscaled toAdd
      let kuberPasses : List (SubPass KuberPass) :=
        (if opts.hasApiServer && toAdd.isControl then kubeadmPasses else [])
        ++ (if enableCA then
            [⟨.enableLonghornCa, fatal "Enable cluster-autoscaler support for longhorn"⟩]
          else [])
        ++ [⟨.reconcileLonghornStorageClasses,
          warn "Reconciling claudie longhorn storage classes after new nodepool"⟩]
      let (state, delta) : Clusters × Delta :=
        if opts.isStatic then
          (⟨some (K8scluster.withNodePools k8s (nps ++ [toAdd])), lbs⟩,
            .addedK8sNodes true np nodes)
        else (⟨some k8s, lbs⟩, .tfAddK8sNodes (.new toAdd))
      some (updateEvent id state delta s!"Adding nodepool {np}" (pipeline opts lbs np kuberPasses))

def partiallyAdded (id : TaskId) (k8s : K8scluster) (lbs : List LBcluster)
    (desired : List NodePool) (opts : K8sNodeAdditionOptions) :
    List (String × List String) → Outcome (Option TaskEvent)
  | [] => pure none
  | (np, nodes) :: rest => do
    let nps := k8s.clusterInfo.nodePools
    match NodePools.findByName np nps with
    | none => partiallyAdded id k8s lbs desired opts rest
    | some matched =>
      let kuberPasses := if opts.hasApiServer && matched.isControl then kubeadmPasses else []
      let description := s!"Adding {nodes.length} nodes into nodepool {np}"
      if opts.isStatic then
        let nps ← NodePools.copyNodesByName np nps desired nodes
        pure (some (updateEvent id ⟨some (K8scluster.withNodePools k8s nps), lbs⟩
          (.addedK8sNodes false np nodes) description (pipeline opts lbs np kuberPasses)))
      else
        let toAdd := NodePools.cloneTargetNodes (NodePools.findByName np desired) nodes
        pure (some (updateEvent id ⟨some k8s, lbs⟩ (.tfAddK8sNodes (.existing np toAdd))
          description (pipeline opts lbs np kuberPasses)))

end scheduleAdditionsInNodePools

def scheduleAdditionsInNodePools (ord : MapOrder) (id : TaskId) (current desired : Clusters)
    (diff : NodePoolsDiffResult) (opts : K8sNodeAdditionOptions) : Outcome (Option TaskEvent) := do
  let k8s ← Outcome.deref current.k8s
  let dk8s ← Outcome.deref desired.k8s
  let desired := dk8s.clusterInfo.nodePools
  match scheduleAdditionsInNodePools.added id k8s current.loadBalancers desired opts
      (ord.range "added nodepools" diff.added) with
  | some te => pure (some te)
  | none =>
    scheduleAdditionsInNodePools.partiallyAdded id k8s current.loadBalancers desired opts
      (ord.range "partially added nodepools" diff.partiallyAdded)

structure K8sNodeDeletionOptions where
  useProxy : Bool
  hasApiServer : Bool
  isStatic : Bool
  unreachable : Option Unreachable := none

namespace scheduleDeletionsInNodePools

def removeFromTrackedStage : Stage :=
  .kuber (fatal "Removing Nodes from tracked state")
    [⟨.deleteNodes, fatal "Updating tracked state"⟩]

def ansiblerPasses (opts : K8sNodeDeletionOptions) : List (SubPass AnsiblerPass) :=
  (if opts.isStatic then
    [⟨.removeClaudieUtilities, warn "Removing claudie install utilities"⟩]
  else [])
  ++ (if opts.useProxy then
    [⟨.installVpn, fatal "Refreshing VPN on nodes after deletion"⟩,
      ⟨.updateProxyEnvsOnNodes, fatal "Updating HttpProxy,NoProxy environment variables"⟩,
      commitProxyPass]
  else [])

def pipeline (opts : K8sNodeDeletionOptions) (lbs : List LBcluster) (np : String)
    (kuberPasses : List (SubPass KuberPass)) : List Stage :=
  removeFromTrackedStage ::
  (if targetsNodePool lbs opts.isStatic np then
    [reconcileEnvoyStage "Updating envoy configuration" "Removing deleted nodes from envoy"]
  else [])
  ++ [.kuber (fatal "Reconciling cluster")
    (⟨.deleteNodes, fatal "Deleting nodes from cluster"⟩ :: kuberPasses)]
  ++ (if (ansiblerPasses opts).isEmpty then []
    else [.ansibler (fatal "Configuring nodes of the cluster and its loadbalancers")
      (ansiblerPasses opts)])
  ++ (if opts.isStatic then []
    else [.terraformer (fatal "Reconciling infrastructure for kubernetes cluster")
      [⟨.updateInfrastructure, fatal "Destroying VMs for deleted nodes"⟩]])

-- Unlike for additions, a nodepool that the current state does not know is not skipped.
def certSANsPasses (opts : K8sNodeDeletionOptions) (nps : List NodePool) (np : String) :
    List (SubPass KuberPass) :=
  match NodePools.findByName np nps with
  | some matched => if opts.hasApiServer && matched.isControl then kubeadmPasses else []
  | none => []

def disableCAPasses (nps : List NodePool) (np : String) : List (SubPass KuberPass) :=
  match NodePools.autoscaled nps with
  | [a] =>
    if a.name = np then
      [⟨.disableLonghornCa, fatal "Disabling Longhorn cluster autoscaler setting"⟩]
    else []
  | _ => []

def partiallyDeleted (id : TaskId) (current : Clusters) (nps : List NodePool)
    (opts : K8sNodeDeletionOptions) (np : String) (nodes : List String) : TaskEvent :=
  updateEvent id current (.kDeleteNodes false np nodes opts.unreachable)
    s!"Deleting {nodes.length} nodes from nodepool {quoted np}"
    (pipeline opts current.loadBalancers np (certSANsPasses opts nps np))

def deleted (id : TaskId) (current : Clusters) (nps : List NodePool)
    (opts : K8sNodeDeletionOptions) (np : String) (nodes : List String) : TaskEvent :=
  updateEvent id current (.kDeleteNodes true np nodes opts.unreachable)
    s!"Deleting nodepool {quoted np}"
    (pipeline opts current.loadBalancers np
      (certSANsPasses opts nps np ++ disableCAPasses nps np
        ++ [⟨.reconcileLonghornStorageClasses,
          warn "Reconciling claudie longhorn storage classes after nodepool deletion"⟩]))

end scheduleDeletionsInNodePools

def scheduleDeletionsInNodePools (ord : MapOrder) (id : TaskId) (current : Clusters)
    (diff : NodePoolsDiffResult) (opts : K8sNodeDeletionOptions) : Outcome (Option TaskEvent) := do
  let k8s ← Outcome.deref current.k8s
  let nps := k8s.clusterInfo.nodePools
  match ord.range "partially deleted nodepools" diff.partiallyDeleted,
      ord.range "deleted nodepools" diff.deleted with
  | (np, nodes) :: _, _ =>
    pure (some (scheduleDeletionsInNodePools.partiallyDeleted id current nps opts np nodes))
  | [], (np, nodes) :: _ =>
    pure (some (scheduleDeletionsInNodePools.deleted id current nps opts np nodes))
  | [], [] => pure none

def moveStage (about : String) : Stage :=
  .terraformer (fatal "Reconciling infrastructure for cluster")
    [⟨.updateInfrastructure, fatal about⟩]

def scheduleMoveNodePoolToAutoscaled (id : TaskId) (current : Clusters) (nodepool : String)
    (config : AutoscalerConf) : Outcome TaskEvent := do
  let k8s ← Outcome.deref current.k8s
  let enableCA := (NodePools.autoscaled k8s.clusterInfo.nodePools).isEmpty
  pure (updateEvent id current (.tfMoveNodePoolToAutoscaled nodepool config)
    s!"Moving nodepool {quoted nodepool} to autoscaled type"
    (moveStage "Moving nodepool to autoscaled type" ::
      if enableCA then
        [.kuber (fatal "Configuring cluster after move to autoscaled nodepool")
          [⟨.enableLonghornCa, fatal "Enable cluster-autoscaler support for longhorn"⟩]]
      else []))

def scheduleMoveNodePoolFromAutoscaled (id : TaskId) (current : Clusters) (nodepool : String) :
    Outcome TaskEvent := do
  let k8s ← Outcome.deref current.k8s
  let kuber : List Stage :=
    match NodePools.autoscaled k8s.clusterInfo.nodePools with
    | [a] =>
      if a.name = nodepool then
        -- the source leaves the kind of the pass unset, which makes it the enumeration's first.
        [.kuber (fatal "Configuring cluster after move from autoscaled nodepool")
          [⟨.ciliumRestart, fatal "Disabling Longhorn cluster autoscaler setting"⟩]]
      else []
    | _ => []
  pure (updateEvent id current (.tfMoveNodePoolFromAutoscaled nodepool)
    s!"Moving nodepool {quoted nodepool} from autoscaled type to fixed"
    (moveStage "Moving nodepool from autoscaled type to fixed" :: kuber))

def scheduleRollingUpdate (ord : MapOrder) (entropy : Entropy) (id : TaskId) (current : Clusters)
    (np : String) (templates : TemplateRepository) (opts : K8sNodeAdditionOptions) :
    Outcome (Option TaskEvent) := do
  let k8s ← Outcome.deref current.k8s
  match createNodePoolForRollingUpdate entropy current none np templates with
  | .error .panic => .error .panic
  -- the error is logged and nothing is scheduled.
  | .error (.error _) => pure none
  | .ok new =>
    let desired : Clusters :=
      ⟨some (K8scluster.withNodePools k8s (k8s.clusterInfo.nodePools ++ [new])),
        current.loadBalancers⟩
    let diff : NodePoolsDiffResult :=
      { added := (∅ : NodePoolsViewType).insert new.name (new.nodes.map (·.name)) }
    scheduleAdditionsInNodePools ord id current desired diff opts

structure KubernetesReconciliate where
  hc : HealthCheckStatus
  diff : KubernetesDiffResult
  current : Clusters
  desired : Clusters

namespace KubernetesReconciliate

def additionOptions (r : KubernetesReconciliate) (isStatic : Bool) : K8sNodeAdditionOptions :=
  { useProxy := r.diff.proxy.currentUsed
    hasApiServer := r.diff.apiEndpoint.current ≠ ""
    isStatic }

def deletionOptions (r : KubernetesReconciliate) (isStatic : Bool) : K8sNodeDeletionOptions :=
  { useProxy := r.diff.proxy.currentUsed
    hasApiServer := r.diff.apiEndpoint.current ≠ ""
    isStatic }

end KubernetesReconciliate

def kubernetesModifications (ord : MapOrder) (id : TaskId) (r : KubernetesReconciliate) :
    Outcome (Option TaskEvent) := do
  let k8s ← Outcome.deref r.current.k8s
  let endpoint := r.diff.apiEndpoint
  let transfer := endpoint.current ≠ "" && endpoint.desired ≠ ""
    && endpoint.current ≠ endpoint.desired
    && NodePools.containsNode k8s.clusterInfo.nodePools endpoint.desired
  if transfer then
    pure (some (scheduleTransferApiEndpoint id r.current endpoint.desiredNodePool endpoint.desired))
  else if !r.diff.dynamic.added.isEmpty || !r.diff.dynamic.partiallyAdded.isEmpty then
    scheduleAdditionsInNodePools ord id r.current r.desired r.diff.dynamic (r.additionOptions false)
  else if !r.diff.static.added.isEmpty || !r.diff.static.partiallyAdded.isEmpty then
    scheduleAdditionsInNodePools ord id r.current r.desired r.diff.static (r.additionOptions true)
  else pure none

def schedulePendingDeletion (ord : MapOrder) (id : TaskId) (r : KubernetesReconciliate)
    (np : String) (nodes : List String) (isStatic : Bool) : Outcome (Option TaskEvent) := do
  let node ← Outcome.deref nodes.head?
  let diff : NodePoolsDiffResult := { partiallyDeleted := (∅ : NodePoolsViewType).insert np [node] }
  scheduleDeletionsInNodePools ord id r.current diff (r.deletionOptions isStatic)

def kubernetesDeletions (ord : MapOrder) (id : TaskId) (r : KubernetesReconciliate) :
    Outcome (Option TaskEvent) :=
  if !r.diff.dynamic.deleted.isEmpty || !r.diff.dynamic.partiallyDeleted.isEmpty then
    scheduleDeletionsInNodePools ord id r.current r.diff.dynamic (r.deletionOptions false)
  else if !r.diff.static.deleted.isEmpty || !r.diff.static.partiallyDeleted.isEmpty then
    scheduleDeletionsInNodePools ord id r.current r.diff.static (r.deletionOptions true)
  else
    match ord.range "pending dynamic deletions" r.diff.pendingDynamicDeletions,
        ord.range "pending static deletions" r.diff.pendingStaticDeletions with
    | (np, nodes) :: _, _ => schedulePendingDeletion ord id r np nodes false
    | [], (np, nodes) :: _ => schedulePendingDeletion ord id r np nodes true
    | [], [] => pure none

def LabelsTaintsAnnotationsDiffResult.isEmpty (d : LabelsTaintsAnnotationsDiffResult) : Bool :=
  d.added.labels.isEmpty && d.deleted.labels.isEmpty && d.added.annotations.isEmpty
    && d.deleted.annotations.isEmpty && d.added.taints.isEmpty && d.deleted.taints.isEmpty

-- The changes left once the version, the proxy and the patches of the nodes agree.
def kubernetesNodePoolTypes (ord : MapOrder) (entropy : Entropy) (id : TaskId)
    (r : KubernetesReconciliate) : Outcome (Option TaskEvent) :=
  match ord.range "changed to autoscaled" r.diff.changedToAutoscaled,
      ord.range "changed to fixed" r.diff.changedToFixed,
      ord.range "rolling updates" r.diff.rollingUpdates with
  | (np, conf) :: _, _, _ => some <$> scheduleMoveNodePoolToAutoscaled id r.current np conf
  | [], (np, _) :: _, _ => some <$> scheduleMoveNodePoolFromAutoscaled id r.current np
  | [], [], (np, tpl) :: _ =>
    scheduleRollingUpdate ord entropy id r.current np tpl (r.additionOptions false)
  | [], [], [] => pure none

def kubernetesLowPriority (ord : MapOrder) (entropy : Entropy) (id : TaskId)
    (r : KubernetesReconciliate) : Outcome (Option TaskEvent) :=
  if r.diff.version then some <$> scheduleUpgradeKubernetesVersion id r.current r.desired
  else
    match r.diff.proxy.change with
    | .off => some <$> scheduleProxyOff id r.current r.desired
    | .on | .refresh => some <$> scheduleProxyOn id r.current r.desired
    | .noChange =>
      if !r.diff.labelsTaintsAnnotations.isEmpty then
        pure (some (schedulePatchNodes id r.current r.diff.labelsTaintsAnnotations))
      else kubernetesNodePoolTypes ord entropy id r

end Manager

end Claudie
