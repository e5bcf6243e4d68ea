import Claudie.NodePools

/-!
`diff.go`: the differences between two states of a cluster that the reconciliation acts on.
-/

namespace Claudie

namespace Manager

abbrev NodePoolsViewType := GoMap (List String)

structure NodePoolsDiffResult where
  partiallyDeleted : NodePoolsViewType := ∅
  deleted : NodePoolsViewType := ∅
  partiallyAdded : NodePoolsViewType := ∅
  added : NodePoolsViewType := ∅
  deriving DecidableEq

inductive ProxyChange where
  | noChange
  | off
  | on
  | refresh
  deriving DecidableEq

structure ProxyDiffResult where
  currentUsed : Bool
  desiredUsed : Bool
  change : ProxyChange
  deriving DecidableEq

structure LabelsTaintsAnnotationsDiffResult where
  deleted : RemoveBatch
  added : AddBatch
  deriving DecidableEq

-- The names are empty when the api endpoint is not on a node of the cluster.
structure NodeApiEndpoint where
  current : String
  currentNodePool : String
  desired : String
  desiredNodePool : String
  deriving DecidableEq

structure KubernetesDiffResult where
  version : Bool
  proxy : ProxyDiffResult
  dynamic : NodePoolsDiffResult
  static : NodePoolsDiffResult
  changedToAutoscaled : GoMap AutoscalerConf
  changedToFixed : GoMap Unit
  pendingDynamicDeletions : GoMap (List String)
  pendingStaticDeletions : GoMap (List String)
  apiEndpoint : NodeApiEndpoint
  labelsTaintsAnnotations : LabelsTaintsAnnotationsDiffResult
  rollingUpdates : GoMap TemplateRepository
  deriving DecidableEq

structure RolesDiff where
  added : List String
  deleted : List String
  targetPoolsAdded : GoMap (List String)
  targetPoolsDeleted : GoMap (List String)
  internalSettingsChanged : List String
  externalSettingsChanged : List String
  deriving DecidableEq

structure ModifiedLoadBalancer where
  currentIdx : Nat
  desiredIdx : Nat
  dns : Bool
  roles : RolesDiff
  dynamic : NodePoolsDiffResult
  static : NodePoolsDiffResult
  pendingDynamicDeletions : GoMap (List String)
  pendingStaticDeletions : GoMap (List String)
  rollingUpdate : GoMap TemplateRepository
  deriving DecidableEq

structure LoadBalancerIdentifier where
  id : String
  index : Nat
  deriving DecidableEq

structure LoadBalancersDiffResult where
  added : List LoadBalancerIdentifier
  deleted : List LoadBalancerIdentifier
  modified : GoMap ModifiedLoadBalancer
  apiEndpointCurrent : String
  apiEndpointNew : String
  apiEndpointState : ApiEndpointChangeState
  deriving DecidableEq

structure DiffResult where
  kubernetes : KubernetesDiffResult
  loadBalancers : LoadBalancersDiffResult
  deriving DecidableEq

def NodePoolsDiffResult.isEmpty (r : NodePoolsDiffResult) : Bool :=
  r.deleted.isEmpty && r.partiallyDeleted.isEmpty && r.added.isEmpty && r.partiallyAdded.isEmpty

def nodePoolsDiff (old desired : NodePoolsViewType) : NodePoolsDiffResult :=
  -- 1. and 2. nodepools that only one of the two versions has.
  let deleted := old.filter (fun np _ => !desired.contains np)
  let added := desired.filter (fun np _ => !old.contains np)
  let old := old.filter (fun np _ => desired.contains np)
  let desired := desired.filter (fun np _ => !added.contains np)
  -- 3. partially deleted nodes of nodepools present in both versions.
  let partiallyDeleted := old.filterMap (fun np oldNodes =>
    let gone := oldNodes.filter (fun n => !(desired.getD np []).contains n)
    if gone.isEmpty then none else some gone)
  let old := old.map (fun np oldNodes =>
    oldNodes.filter (fun n => !(partiallyDeleted.getD np []).contains n))
  -- 4. partially added nodes of nodepools present in both versions.
  let partiallyAdded := desired.filterMap (fun np newNodes =>
    let fresh := newNodes.filter (fun n => !(old.getD np []).contains n)
    if fresh.isEmpty then none else some fresh)
  { partiallyDeleted, deleted, partiallyAdded, added }

-- The view of the nodepools that satisfy `p`; of two with one name the later one is seen.
def nodePoolsViewOf (p : NodePool → Bool) (nps : List NodePool) : NodePoolsViewType :=
  nps.foldl (fun view np => if p np then view.insert np.name (np.nodes.map (·.name)) else view) ∅

def nodePoolsView (info : ClusterInfo) : NodePoolsViewType × NodePoolsViewType :=
  (nodePoolsViewOf (·.isDynamic) info.nodePools, nodePoolsViewOf (·.isStatic) info.nodePools)

def proxyDefaultMode : String := "default"

def proxyOnMode : String := "on"

-- `strings.ToLower`
def toLower (s : String) : String := String.ofList (s.toList.map Char.toLower)

def hasHetznerNode (k8s : K8scluster) : Bool :=
  k8s.clusterInfo.nodePools.any (fun np =>
    match np.dynamic? with
    | some d => toLower d.provider.cloudProviderName = "hetzner"
    | none => false)

def usesProxy (k8s : K8scluster) : Bool :=
  (k8s.installationProxy.mode = proxyDefaultMode && hasHetznerNode k8s)
    || k8s.installationProxy.mode = proxyOnMode

def proxyDiff (old desired : K8scluster) : ProxyDiffResult :=
  let currentUsed := usesProxy old
  let desiredUsed := usesProxy desired
  let change :=
    if currentUsed && !desiredUsed then .off
    else if !currentUsed && desiredUsed then .on
    else if currentUsed && desiredUsed
        && old.installationProxy.noProxy ≠ desired.installationProxy.noProxy then .refresh
    else .noChange
  { currentUsed, desiredUsed, change }

def commonNodePools (old desired : List NodePool) : List (NodePool × NodePool) :=
  old.flatMap (fun cnp => (desired.filter (fun dnp => cnp.name = dnp.name)).map (cnp, ·))

def rollingUpdates (old desired : List NodePool) : GoMap TemplateRepository :=
  (commonNodePools old desired).foldl (fun m (cnp, dnp) =>
    match cnp.type, dnp.type with
    | .dynamic c, .dynamic d =>
      if c.provider.templates.commitHash ≠ d.provider.templates.commitHash then
        m.insert dnp.name d.provider.templates
      else m
    | _, _ => m) ∅

def changedToAutoscaled (old desired : List NodePool) : GoMap AutoscalerConf :=
  (commonNodePools old desired).foldl (fun m (cnp, dnp) =>
    match cnp.type, dnp.type with
    | .dynamic c, .dynamic d =>
      match c.autoscalerConfig, d.autoscalerConfig with
      | none, some conf => m.insert dnp.name conf
      | some cconf, some dconf =>
        if cconf.min ≠ dconf.min ∨ cconf.max ≠ dconf.max then m.insert dnp.name dconf else m
      | _, none => m
    | _, _ => m) ∅

def changedToFixed (old desired : List NodePool) : GoMap Unit :=
  (commonNodePools old desired).foldl (fun m (cnp, dnp) =>
    match cnp.type, dnp.type with
    | .dynamic c, .dynamic d =>
      if c.autoscalerConfig.isSome && d.autoscalerConfig.isNone then m.insert dnp.name () else m
    | _, _ => m) ∅

-- Nodes marked for deletion in both states, for the nodepools whose desired version satisfies `p`.
def pendingDeletions (p : NodePool → Bool) (old desired : List NodePool) : GoMap (List String) :=
  (commonNodePools old desired).foldl (fun m (cnp, dnp) =>
    if p dnp then
      m.appendAt dnp.name (cnp.nodes.flatMap (fun cn =>
        (dnp.nodes.filter (fun dn => cn.name = dn.name && cn.status = dn.status
          && cn.status = .markedForDeletion)).map (·.name)))
    else m) ∅

def newAPIEndpointNodeCandidate (desired : List NodePool) : Outcome (String × String) := do
  let np ← Outcome.deref (desired.find? (·.isControl))
  let n ← Outcome.deref np.nodes.head?
  pure (np.name, n.name)

def nodeApiEndpoint (old desired : List NodePool) (dynamic static : NodePoolsDiffResult) :
    Outcome NodeApiEndpoint :=
  match old.findSome? (fun np => if np.isControl then np.endpointNode.map (np, ·) else none) with
  | none => pure ⟨"", "", "", ""⟩
  | some (np, node) => do
    let gone := fun (view : NodePoolsViewType) => (view.getD np.name []).contains node.name
    if node.name ≠ "" && (gone dynamic.deleted || gone dynamic.partiallyDeleted
        || gone static.deleted || gone static.partiallyDeleted) then
      let (dnp, dn) ← newAPIEndpointNodeCandidate desired
      pure ⟨node.name, np.name, dn, dnp⟩
    else
      pure ⟨node.name, np.name, node.name, np.name⟩

def missingKeys (ord : MapOrder) (loop : String) (c n : GoMap String) : List String :=
  ((ord.range loop c).filter (fun (k, _) => !n.contains k)).map (·.1)

def changedEntries (current new : GoMap String) : GoMap String :=
  new.filter (fun k v => current[k]? ≠ some v)

def insertEntries {β : Type} (m : GoMap (GoMap β)) (k : String) (v : GoMap β) :
    GoMap (GoMap β) :=
  if v.isEmpty then m else m.insert k ((m.getD k ∅).insertMany v.toList)

def labelsTaintsAnnotationsDiff (ord : MapOrder) (old desired : List NodePool) :
    LabelsTaintsAnnotationsDiffResult :=
  old.foldl (fun diff c =>
    match NodePools.findByName c.name desired with
    | none => diff
    | some n =>
      { deleted :=
          { labels := diff.deleted.labels.appendAt n.name
              (missingKeys ord "deleted labels" c.labels n.labels)
            annotations := diff.deleted.annotations.appendAt n.name
              (missingKeys ord "deleted annotations" c.annotations n.annotations)
            taints := diff.deleted.taints.appendAt n.name
              (c.taints.filter (fun t => !n.taints.contains t)) }
        added :=
          { labels := insertEntries diff.added.labels c.name (changedEntries c.labels n.labels)
            annotations := insertEntries diff.added.annotations c.name
              (changedEntries c.annotations n.annotations)
            taints := diff.added.taints.appendAt c.name
              (n.taints.filter (fun t => !c.taints.contains t)) } })
    ⟨⟨∅, ∅, ∅⟩, ⟨∅, ∅, ∅⟩⟩

def kubernetesDiff (ord : MapOrder) (old desired : K8scluster) : Outcome KubernetesDiffResult := do
  let onps := old.clusterInfo.nodePools
  let dnps := desired.clusterInfo.nodePools
  let (odynamic, ostatic) := nodePoolsView old.clusterInfo
  let (ndynamic, nstatic) := nodePoolsView desired.clusterInfo
  let dynamic := nodePoolsDiff odynamic ndynamic
  let static := nodePoolsDiff ostatic nstatic
  let apiEndpoint ← nodeApiEndpoint onps dnps dynamic static
  pure
    { version := old.kubernetes ≠ desired.kubernetes
      proxy := proxyDiff old desired
      dynamic
      static
      changedToAutoscaled := changedToAutoscaled onps dnps
      changedToFixed := changedToFixed onps dnps
      pendingDynamicDeletions := pendingDeletions (·.isDynamic) onps dnps
      pendingStaticDeletions := pendingDeletions (!·.isDynamic) onps dnps
      apiEndpoint
      labelsTaintsAnnotations := labelsTaintsAnnotationsDiff ord onps dnps
      rollingUpdates := rollingUpdates onps dnps }

def missingRoles (rs others : List Role) : List String :=
  (rs.filter (fun r => !others.any (fun o => r.name = o.name))).map (·.name)

def rolesDiff (old desired : List Role) : RolesDiff :=
  let common := old.filterMap (fun o => (desired.find? (fun n => n.name = o.name)).map (o, ·))
  { added := missingRoles desired old
    deleted := missingRoles old desired
    targetPoolsAdded := common.foldl (fun m (o, n) =>
      m.appendAt n.name (n.targetPools.filter (fun p => !o.targetPools.contains p))) ∅
    targetPoolsDeleted := common.foldl (fun m (o, n) =>
      m.appendAt n.name (o.targetPools.filter (fun p => !n.targetPools.contains p))) ∅
    internalSettingsChanged := (common.filter (fun (o, n) =>
      o.targetPort ≠ n.targetPort || o.settings ≠ n.settings)).map (·.2.name)
    externalSettingsChanged := (common.filter (fun (o, n) =>
      o.port ≠ n.port || o.protocol ≠ n.protocol)).map (·.2.name) }

def RolesDiff.isEmpty (r : RolesDiff) : Bool :=
  r.added.isEmpty && r.deleted.isEmpty && r.internalSettingsChanged.isEmpty
    && r.externalSettingsChanged.isEmpty && r.targetPoolsAdded.isEmpty
    && r.targetPoolsDeleted.isEmpty

def dnsChanged (old desired : Option DNS) : Bool :=
  match old, desired with
  | none, none => false
  | none, some _ => true
  | some _, none => true
  | some o, some d => !(o.provider.specName = d.provider.specName && o = d)

def modifiedLoadBalancer (currentIdx desiredIdx : Nat) (old desired : LBcluster) :
    Option ModifiedLoadBalancer :=
  let onps := old.clusterInfo.nodePools
  let dnps := desired.clusterInfo.nodePools
  let roles := rolesDiff old.roles desired.roles
  let dns := dnsChanged old.dns desired.dns
  let pendingDynamicDeletions := pendingDeletions (·.isDynamic) onps dnps
  let pendingStaticDeletions := pendingDeletions (!·.isDynamic) onps dnps
  let rollingUpdate := rollingUpdates onps dnps
  let (oldDynamic, oldStatic) := nodePoolsView old.clusterInfo
  let (newDynamic, newStatic) := nodePoolsView desired.clusterInfo
  let dynDiff := nodePoolsDiff oldDynamic newDynamic
  let sttDiff := nodePoolsDiff oldStatic newStatic
  if !roles.isEmpty || dns || !pendingDynamicDeletions.isEmpty || !pendingStaticDeletions.isEmpty
      || !rollingUpdate.isEmpty || !dynDiff.isEmpty || !sttDiff.isEmpty then
    some
      { currentIdx, desiredIdx, dns, roles
        dynamic := if !dynDiff.isEmpty then dynDiff else {}
        -- the static difference only decides whether the field is set, its value is the dynamic one.
        static := if !sttDiff.isEmpty then dynDiff else {}
        pendingDynamicDeletions, pendingStaticDeletions, rollingUpdate }
  else none

def determineLBApiEndpointChange (currentLbs desiredLbs : List LBcluster) :
    String × String × ApiEndpointChangeState :=
  let candidates := desiredLbs.filter (fun lb => lb.hasApiRole && lb.dns.isSome)
  -- of two candidates with one id the later one is in the map.
  let desired := fun id => candidates.reverse.find? (·.id = id)
  match Clusters.findAssignedLbApiEndpoint currentLbs, candidates with
  | some current, [] =>
    if current.dns.isNone then ("", "", .noChange)
    else (current.id, "", .detachingLoadBalancer)
  | some current, first :: _ =>
    match current.dns, desired current.id with
    | none, some d => (current.id, d.id, .endpointRenamed)
    | none, none => ("", first.id, .attachingLoadBalancer)
    | some cdns, some d =>
      if some cdns.endpoint ≠ d.dns.map (·.endpoint) then (current.id, d.id, .endpointRenamed)
      else ("", "", .noChange)
    | some _, none => (current.id, first.id, .moveEndpoint)
  | none, [] => ("", "", .noChange)
  | none, first :: _ => ("", first.id, .attachingLoadBalancer)

def loadBalancersDiff (old desired : List LBcluster) : LoadBalancersDiffResult :=
  let identifiers := fun (lbs others : List LBcluster) =>
    (lbs.zipIdx.filter (fun (lb, _) => (Clusters.indexLoadbalancerById lb.id others).isNone)).map
      (fun (lb, i) => LoadBalancerIdentifier.mk lb.id i)
  let modified := old.zipIdx.foldl (fun m (lb, i) =>
    match desired.zipIdx.find? (fun (d, _) => d.id = lb.id) with
    | none => m
    | some (d, j) =>
      match modifiedLoadBalancer i j lb d with
      | none => m
      | some entry => m.insert lb.id entry) ∅
  let (current, new, state) := determineLBApiEndpointChange old desired
  { added := identifiers desired old
    deleted := identifiers old desired
    modified
    apiEndpointCurrent := current
    apiEndpointNew := new
    apiEndpointState := state }

def diff (ord : MapOrder) (old desired : Clusters) : Outcome DiffResult := do
  let ok8s ← Outcome.deref old.k8s
  let dk8s ← Outcome.deref desired.k8s
  let kubernetes ← kubernetesDiff ord ok8s dk8s
  pure { kubernetes, loadBalancers := loadBalancersDiff old.loadBalancers desired.loadBalancers }

end Manager

end Claudie
