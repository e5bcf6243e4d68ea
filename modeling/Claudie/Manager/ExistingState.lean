import Claudie.Lib.Matching
import Claudie.Manager.Watchers

/-!
`existing_state.go`: what the desired state of a cluster takes over from the current one.
-/

namespace Claudie

namespace NodePool

def templates (np : NodePool) : Option TemplateRepository :=
  np.dynamic?.map (·.provider.templates)

def hashFor (np : NodePool) (nodepoolType : String) : String :=
  (NodePools.matchNameAndHashWithTemplate nodepoolType np.name).2

def appendHash (np : NodePool) (hash : String) : NodePool :=
  { np with name := np.name ++ "-" ++ hash }

end NodePool

namespace Manager

def isHashChar (c : Char) : Bool := c.isLower || c.isDigit

def Hash : Type := { s : String // s.length = NodePools.hashLength ∧ s.toList.all isHashChar }

/--
The values drawn while the desired state of one cluster is built: the sequence of hashes, and for
each load balancer a hostname, for each nodepool of a cluster (the first is the kubernetes cluster)
a key pair, whose generation can fail.
-/
structure Generator where
  hash : Nat → Hash
  hostname : Nat → String
  keyPair : Nat → Nat → Option (String × String)

def renameNewNodes (nodepool : String) (current : List Node) (usedNames : List String) :
    List Node → Outcome (List Node)
  | [] => pure []
  | n :: nodes =>
    if current.any (·.publicIp = n.publicIp) then do
      let nodes ← renameNewNodes nodepool current usedNames nodes
      pure (n :: nodes)
    else do
      let name ← uniqueNodeName nodepool usedNames
      let nodes ← renameNewNodes nodepool current (usedNames ++ [name]) nodes
      pure ({ n with name } :: nodes)

def deduplicateNodePool (current desired : NodePool) : Outcome NodePool :=
  if current.isStatic && desired.isStatic then do
    let usedNames := (current.nodes.map (·.name)).eraseDups
    let nodes ← renameNewNodes desired.name current.nodes usedNames desired.nodes
    pure { desired with nodes }
  else pure desired

-- Only the nodepools of the kubernetes cluster are looked at.
def deduplicateStaticNodeNames (current : Clusters) (desired : DesiredCluster) :
    Outcome DesiredCluster := do
  let nps ← current.kubernetesNodePools.foldlM (fun nps np =>
      NodePools.modifyByName np.name (deduplicateNodePool np) nps)
    desired.k8s.clusterInfo.nodePools
  pure { desired with k8s := desired.k8s.withNodePools nps }

def nodePoolsOfType (nodepoolType : String) (nps : List NodePool) : List NodePool :=
  nps.filter (fun np => np.isDynamic && np.hashFor nodepoolType ≠ "")

def carryHashes (nodepoolType : String) (isReference : NodePool → Bool) :
    List NodePool → List NodePool → List NodePool
  | _, [] => []
  | existing, np :: nps =>
    if isReference np then
      match Matching.take (fun e => e.templates = np.templates) existing with
      | some (e, left) =>
        np.appendHash (e.hashFor nodepoolType) ::
          carryHashes nodepoolType isReference left nps
      -- no more carrying over can be done.
      | none => np :: nps
    else np :: carryHashes nodepoolType isReference existing nps

def isReference (nodepoolType : String) (np : NodePool) : Bool :=
  np.isDynamic && np.name = nodepoolType

def resolveK8sNodePoolReferences (nodepoolType : String) (current desired : List NodePool) :
    List NodePool :=
  let control := nodePoolsOfType nodepoolType (current.filter (·.isControl))
  let compute := nodePoolsOfType nodepoolType (current.filter (!·.isControl))
  carryHashes nodepoolType (fun np => !np.isControl && isReference nodepoolType np) compute
    (carryHashes nodepoolType (fun np => np.isControl && isReference nodepoolType np) control
      desired)

def resolveLbNodePoolReferences (nodepoolType : String) (current desired : List LBcluster) :
    List LBcluster :=
  desired.map (fun lb => current.foldl (fun lb current =>
    if lb.clusterInfo.name ≠ current.clusterInfo.name then lb
    else
      lb.withNodePools (carryHashes nodepoolType (isReference nodepoolType)
        (nodePoolsOfType nodepoolType current.clusterInfo.nodePools) lb.clusterInfo.nodePools)) lb)

def usedHashes (nodepoolType : String) (current : Clusters) (desired : DesiredCluster) :
    List String :=
  let lbs := desired.loadBalancers.flatMap (fun lb =>
    current.loadBalancers.filter (lb.clusterInfo.name = ·.clusterInfo.name))
  (nodePoolsOfType nodepoolType (current.kubernetesNodePools ++
    lbs.flatMap (·.clusterInfo.nodePools))).map (·.hashFor nodepoolType)

/--
The loop `for _, ok := used[h]; ok; { h = hash.Create(hash.Length) }`. What decides it is read once,
before its first round.
-/
def redraw (gen : Generator) (ok : Bool) (hash : String) (drawn : Nat) :
    Nat → Option (String × Nat)
  | 0 => none
  | fuel + 1 =>
    if ok then redraw gen ok (gen.hash drawn).val (drawn + 1) fuel
    else some (hash, drawn)

def nameReferences (fuel : Nat) (gen : Generator) (nodepoolType : String) :
    List String → Nat → List NodePool → Option (List NodePool × List String × Nat)
  | used, drawn, [] => some ([], used, drawn)
  | used, drawn, np :: nps =>
    if np.name = nodepoolType then do
      let hash := (gen.hash drawn).val
      let (hash, drawn) ← redraw gen (used.contains hash) hash (drawn + 1) fuel
      let (nps, used, drawn) ← nameReferences fuel gen nodepoolType (hash :: used) drawn nps
      pure (np.appendHash hash :: nps, used, drawn)
    else do
      let (nps, used, drawn) ← nameReferences fuel gen nodepoolType used drawn nps
      pure (np :: nps, used, drawn)

def nameLbReferences (fuel : Nat) (gen : Generator) (nodepoolType : String) :
    List String → Nat → List LBcluster → Option (List LBcluster × Nat)
  | _, drawn, [] => some ([], drawn)
  | used, drawn, lb :: lbs => do
    let (nps, used, drawn) ←
      nameReferences fuel gen nodepoolType used drawn lb.clusterInfo.nodePools
    let (lbs, drawn) ← nameLbReferences fuel gen nodepoolType used drawn lbs
    pure (lb.withNodePools nps :: lbs, drawn)

def resolveNodePoolType (fuel : Nat) (gen : Generator) (current : Clusters)
    (nodepoolType : String) (desired : DesiredCluster) (drawn : Nat) :
    Option (DesiredCluster × Nat) := do
  let nps := resolveK8sNodePoolReferences nodepoolType current.kubernetesNodePools
    desired.k8s.clusterInfo.nodePools
  let lbs := resolveLbNodePoolReferences nodepoolType current.loadBalancers desired.loadBalancers
  let used := usedHashes nodepoolType current desired
  let (nps, used, drawn) ← nameReferences fuel gen nodepoolType used drawn nps
  let (lbs, drawn) ← nameLbReferences fuel gen nodepoolType used drawn lbs
  pure (⟨desired.k8s.withNodePools nps, lbs⟩, drawn)

def resolveDynamicNodePoolReferences (fuel : Nat) (gen : Generator) (current : Clusters) :
    List String → DesiredCluster → Nat → Option (DesiredCluster × Nat)
  | [], desired, drawn => some (desired, drawn)
  | nodepoolType :: types, desired, drawn => do
    let (desired, drawn) ← resolveNodePoolType fuel gen current nodepoolType desired drawn
    resolveDynamicNodePoolReferences fuel gen current types desired drawn

def clamp (min max x : Int) : Int := if min > x then min else if max < x then max else x

def transferAutoscaler (cnp dnp : DynamicNodePool) : DynamicNodePool :=
  match dnp.autoscalerConfig with
  | none => dnp
  | some conf =>
    let conf :=
      match cnp.autoscalerConfig with
      | some current => { conf with targetSize := clamp conf.min conf.max current.targetSize }
      | none => conf
    { dnp with
      autoscalerConfig := some conf
      count := clamp conf.min conf.max (max cnp.count conf.targetSize) }

def transferNodes : Int → List Node → List Node
  | _, [] => []
  | skipMarkedForDeletion, node :: nodes =>
    if skipMarkedForDeletion > 0 && node.status = .markedForDeletion then
      transferNodes (skipMarkedForDeletion - 1) nodes
    else node :: transferNodes skipMarkedForDeletion nodes

def transferDynamic (cnp dnp : DynamicNodePool) : DynamicNodePool :=
  transferAutoscaler cnp
    { dnp with
      publicKey := cnp.publicKey
      privateKey := cnp.privateKey
      cidr := cnp.cidr
      provider.specName := cnp.provider.specName
      provider.cloudProviderName := cnp.provider.cloudProviderName }

def transferDynamicNodePool (current desired : NodePool) : Outcome NodePool := do
  let cnp ← Outcome.deref current.dynamic?
  let dnp ← Outcome.deref desired.dynamic?
  let dnp := transferDynamic cnp dnp
  let count := min cnp.count dnp.count
  let nodes ← Outcome.sliceTo current.nodes count
  pure { desired with
    sshPort := current.sshPort
    nodes := transferNodes (max (cnp.count - count) 0) nodes
    type := .dynamic dnp }

def transferStaticNode (cn : Node) : List Node → List Node
  | [] => []
  | dn :: nodes =>
    if cn.publicIp = dn.publicIp then
      { dn with name := cn.name, privateIp := cn.privateIp, nodeType := cn.nodeType } :: nodes
    else dn :: transferStaticNode cn nodes

def transferStaticNodePool (current desired : NodePool) : NodePool :=
  { desired with
    nodes := current.nodes.foldl (fun nodes cn => transferStaticNode cn nodes) desired.nodes }

def transferNodePool : List NodePool → NodePool → Outcome NodePool
  | [], desired => pure desired
  | current :: nps, desired =>
    if current.name ≠ desired.name then transferNodePool nps desired
    else
      match current.type, desired.type with
      | .dynamic _, .dynamic _ => do
        let desired ← transferDynamicNodePool current desired
        transferNodePool nps desired
      | .static _, .static _ => transferNodePool nps (transferStaticNodePool current desired)
      -- name match but not types.
      | _, _ => pure desired

def transferClusterInfo (current desired : ClusterInfo) : Outcome ClusterInfo := do
  let nodePools ← desired.nodePools.mapM (transferNodePool current.nodePools)
  pure { name := current.name, hash := current.hash, nodePools }

def transferK8sState (current desired : K8scluster) : Outcome K8scluster := do
  let clusterInfo ← transferClusterInfo current.clusterInfo desired.clusterInfo
  pure { desired with
    clusterInfo
    kubeconfig := current.kubeconfig
    -- For now consider the network range for the VPN immutable as well.
    network := current.network }

def transferRoles (current desired : List Role) : List Role :=
  current.foldl (fun roles cr => roles.map (fun dr =>
    if cr.name = dr.name then
      { dr with settings.envoyAdminPort := cr.settings.envoyAdminPort }
    else dr)) desired

def transferAlternativeNames (current desired : List AlternativeName) : List AlternativeName :=
  current.foldl (fun names cn => names.map (fun dn =>
    if dn.hostname = cn.hostname then { dn with endpoint := cn.endpoint } else dn)) desired

def transferDns (current desired : Option DNS) : Outcome (Option DNS) :=
  match current with
  | none => pure desired
  | some current => do
    let dns ← Outcome.deref desired
    if current.dnsZone ≠ dns.dnsZone then pure (some dns)
    else
      let dns := { dns with
        alternativeNames :=
          transferAlternativeNames current.alternativeNames dns.alternativeNames }
      if dns.hostname ≠ "" then
        if dns.hostname = current.hostname then
          pure (some { dns with endpoint := current.endpoint })
        else pure (some dns)
      else pure (some { dns with hostname := current.hostname, endpoint := current.endpoint })

def transferLoadBalancer (current desired : LBcluster) : Outcome LBcluster := do
  let dns ← transferDns current.dns desired.dns
  let clusterInfo ← transferClusterInfo current.clusterInfo desired.clusterInfo
  pure { desired with
    dns
    clusterInfo
    roles := transferRoles current.roles desired.roles
    usedApiEndpoint := current.usedApiEndpoint }

def transferLBCluster (current : LBcluster) : List LBcluster → Outcome (List LBcluster)
  | [] => pure []
  | desired :: lbs =>
    if current.clusterInfo.name ≠ desired.clusterInfo.name then do
      let lbs ← transferLBCluster current lbs
      pure (desired :: lbs)
    else do
      let desired ← transferLoadBalancer current desired
      pure (desired :: lbs)

def transferLBState (current desired : List LBcluster) : Outcome (List LBcluster) :=
  current.foldlM (fun lbs current => transferLBCluster current lbs) desired

def transferImmutableState (current : Clusters) (desired : DesiredCluster) :
    Outcome DesiredCluster := do
  let k8s ← Outcome.deref current.k8s
  let k8s ← transferK8sState k8s desired.k8s
  let loadBalancers ← transferLBState current.loadBalancers desired.loadBalancers
  pure { k8s, loadBalancers }

end Manager

end Claudie
