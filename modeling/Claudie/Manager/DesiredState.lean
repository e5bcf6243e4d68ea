import Claudie.Manager.ExistingState
import Claudie.Manifest.Validate

/-!
`create_desired_state.go`: the clusters a manifest asks for, completed by what exists already and by
what `generate_state.go` generates.
-/

abbrev FuelOutcome (α : Type) := ExceptT Fault Option α

namespace FuelOutcome

variable {α β : Type}

def ofOutcome (x : Outcome α) : FuelOutcome α := ExceptT.mk (some x)

def mapEntries (ord : MapOrder) (loop : String) (f : String → α → FuelOutcome β) (m : GoMap α) :
    FuelOutcome (GoMap β) :=
  (ord.range loop m).foldlM (fun done (k, a) => do
    let b ← f k a
    pure (done.insert k b)) ∅

end FuelOutcome

namespace Claudie

namespace Manager

/-- `strings.TrimSpace` followed by `strings.Trim(s, ",")`. -/
def trimNoProxy (s : String) : String :=
  let trim := fun (p : Char → Bool) (cs : List Char) =>
    ((cs.dropWhile p).reverse.dropWhile p).reverse
  String.ofList (trim (· = ',') (trim (·.isWhitespace) s.toList))

def installationProxy : Option InstallationProxy → InstallationProxy
  | none => ⟨"default", "", ""⟩
  | some proxy => { proxy with noProxy := trimNoProxy proxy.noProxy }

def createK8sCluster (m : Claudie.Manifest) (hash : Hash) (cluster : Manifest.Cluster) :
    Outcome K8scluster := do
  let control ← Outcome.wrap s!"error while creating control nodepool for {cluster.name} : "
    (m.createNodepools cluster.pools.control true)
  let compute ← Outcome.wrap s!"error while creating compute nodepool for {cluster.name} : "
    (m.createNodepools cluster.pools.compute false)
  pure
    { clusterInfo := { name := toLower cluster.name, hash := hash.val,
                       nodePools := control ++ compute }
      network := cluster.network
      kubeconfig := ""
      kubernetes := cluster.version
      installationProxy := installationProxy cluster.installationProxy }

def createK8sClustersFromManifest (m : Claudie.Manifest) (hashes : Nat → Hash) :
    Outcome (GoMap DesiredCluster) :=
  m.kubernetes.zipIdx.foldlM (fun into (cluster, i) => do
    let k8s ← createK8sCluster m (hashes i) cluster
    pure (into.insert k8s.clusterInfo.name { k8s, loadBalancers := [] })) ∅

def getDNS (m : Claudie.Manifest) (dns : Manifest.DNS) : Outcome DNS :=
  if dns.dnsZone = "" then .error (.error s!"DNS zone not provided in manifest {m.name}")
  else do
    let provider ← Outcome.wrap
      s!"failed constructing provider {dns.provider} from manifest {m.name}: "
      (m.getProvider dns.provider)
    pure
      { dnsZone := dns.dnsZone
        hostname := dns.hostname
        provider
        endpoint := ""
        alternativeNames := dns.alternativeNames.map (⟨·, ""⟩) }

def roleFromManifest (role : Manifest.Role) : Role :=
  let settings := role.settings.getD { proxyProtocol := true, stickySessions := false }
  { name := role.name
    protocol := toLower role.protocol
    port := role.port
    targetPort := role.targetPort
    roleType := if role.targetPort = Manifest.apiServerPort then .apiServer else .ingress
    targetPools := role.targetPools
    settings :=
      { proxyProtocol := settings.proxyProtocol
        stickySessions := settings.stickySessions
        -- an invalid port, to be replaced once the existing state is known.
        envoyAdminPort := -1 } }

def getRolesAttachedToLBCluster (roles : List Manifest.Role) (roleNames : List String) :
    List Role :=
  roleNames.flatMap (fun roleName =>
    (roles.filter (·.name = roleName)).map roleFromManifest)

def createLBCluster (m : Claudie.Manifest) (hash : Hash) (lb : Manifest.LoadBalancerCluster) :
    Outcome LBcluster := do
  let dns ← Outcome.wrap s!"error while building desired state for LB {lb.name} : " (getDNS m lb.dns)
  let nodePools ← Outcome.wrap s!"error while creating nodepools for {lb.name} : "
    (m.createNodepools lb.pools false)
  pure
    { clusterInfo := { name := lb.name, hash := hash.val, nodePools }
      roles := getRolesAttachedToLBCluster m.loadBalancer.roles lb.roles
      dns := some dns
      targetedK8s := lb.targetedK8s
      usedApiEndpoint := false }

def createLBClustersFromManifest (m : Claudie.Manifest) (hashes : Nat → Hash)
    (into : GoMap DesiredCluster) : Outcome (GoMap DesiredCluster) := do
  let lbs ← m.loadBalancer.clusters.zipIdx.foldlM (fun lbs (lb, i) => do
    let lb ← createLBCluster m (hashes i) lb
    pure (GoMap.appendAt lbs lb.targetedK8s [lb])) (∅ : GoMap (List LBcluster))
  pure (into.map (fun name desired =>
    match lbs[name]? with
    | none => desired
    | some loadBalancers => { desired with loadBalancers }))

def markExcess (toBeMarked : Int) : List Node → List Node
  | [] => []
  | n :: nodes =>
    if toBeMarked ≤ 0 then n :: nodes
    else if n.status ≠ .markedForDeletion then
      { n with status := .markedForDeletion } :: markExcess (toBeMarked - 1) nodes
    else n :: markExcess toBeMarked nodes

def fixupAutoscalerCount (np : NodePool) : NodePool :=
  match np.dynamic? with
  | none => np
  | some dyn =>
    match dyn.autoscalerConfig with
    | none => np
    | some conf =>
      if conf.targetSize ≥ dyn.count then np
      else { np with nodes := markExcess (dyn.count - conf.targetSize) np.nodes }

def fixupAutoscalerCounts (desired : DesiredCluster) : DesiredCluster :=
  { desired with
    k8s := desired.k8s.withNodePools (desired.k8s.clusterInfo.nodePools.map fixupAutoscalerCount) }

-- Step 3 of `createDesiredState` for one cluster.
def reuseExistingState (fuel : Nat) (gen : Generator) (m : Claudie.Manifest) (current : Clusters)
    (desired : DesiredCluster) : FuelOutcome DesiredCluster := do
  let types := m.nodePools.dynamic.map (·.name)
  let (desired, _) ← ExceptT.lift (resolveDynamicNodePoolReferences fuel gen current types desired 0)
  let desired ← FuelOutcome.ofOutcome (deduplicateStaticNodeNames current desired)
  let desired ←
    if current.k8s.isSome then do
      let desired ← FuelOutcome.ofOutcome (transferImmutableState current desired)
      pure (fixupAutoscalerCounts desired)
    else pure desired
  let clusters ← FuelOutcome.ofOutcome (Outcome.wrap "failed to generate CIDRs for nodepools: "
    (generateMissingCIDR current desired.clusters))
  let k8s ← FuelOutcome.ofOutcome (Outcome.deref clusters.k8s)
  pure { k8s, loadBalancers := clusters.loadBalancers }

def generateSSHKeys (keyPair : Option (String × String)) (np : NodePool) : Outcome NodePool :=
  match np.type with
  | .static _ => pure np
  | .dynamic d =>
    if d.publicKey = "" then
      match keyPair with
      | none => .error (.error s!"error while create SSH key pair for nodepool {np.name}: ")
      | some (publicKey, privateKey) =>
        pure { np with type := .dynamic { d with publicKey, privateKey } }
    else pure np

def populateSSHKeys (gen : Generator) (desired : DesiredCluster) : Outcome DesiredCluster := do
  let generate := fun (cluster : Nat) (nps : List NodePool) =>
    nps.zipIdx.mapM (fun (np, i) => generateSSHKeys (gen.keyPair cluster i) np)
  let nps ← generate 0 desired.k8s.clusterInfo.nodePools
  let loadBalancers ← desired.loadBalancers.zipIdx.mapM (fun (lb, i) => do
    let nps ← generate (i + 1) lb.clusterInfo.nodePools
    pure (lb.withNodePools nps))
  pure { k8s := desired.k8s.withNodePools nps, loadBalancers }

def populateDnsHostName (gen : Generator) (desired : DesiredCluster) : Outcome DesiredCluster := do
  let loadBalancers ← desired.loadBalancers.zipIdx.mapM (fun (lb, i) => do
    let dns ← Outcome.deref lb.dns
    if dns.hostname = "" then pure { lb with dns := some { dns with hostname := gen.hostname i } }
    else pure lb)
  pure { desired with loadBalancers }

def populateNodePools (clusterID : String) (nps : List NodePool) : Outcome (List NodePool) :=
  nps.mapM (fun np => if np.isDynamic then populateDynamicNodes clusterID np else pure np)

def populateDynamicNodesForClusters (desired : DesiredCluster) : Outcome DesiredCluster := do
  let nps ← populateNodePools desired.k8s.id desired.k8s.clusterInfo.nodePools
  let loadBalancers ← desired.loadBalancers.mapM (fun lb => do
    let nps ← populateNodePools lb.id lb.clusterInfo.nodePools
    pure (lb.withNodePools nps))
  pure { k8s := desired.k8s.withNodePools nps, loadBalancers }

/-- `generateClaudieReservedPorts()[:manifest.MaxRolesPerLoadBalancer]` -/
def rolePorts : List Int :=
  (List.range Manifest.maxRolesPerLoadBalancer).map (fun i => Manifest.reservedPortRangeStart + i)

-- Ports are taken from the end of the free ones.
def assignPorts : List Int → List Role → Outcome (List Role)
  | _, [] => pure []
  | freePorts, r :: roles =>
    if r.settings.envoyAdminPort ≤ 0 then do
      let port ← Outcome.deref freePorts.getLast?
      let roles ← assignPorts freePorts.dropLast roles
      pure ({ r with settings.envoyAdminPort := port } :: roles)
    else do
      let roles ← assignPorts freePorts roles
      pure (r :: roles)

def populateRoles (roles : List Role) : Outcome (List Role) :=
  let used := (roles.map (·.settings.envoyAdminPort)).filter (· > 0)
  assignPorts (rolePorts.filter (!used.contains ·)) roles

def populateEnvoyAdminPorts (desired : DesiredCluster) : Outcome DesiredCluster := do
  let loadBalancers ← desired.loadBalancers.mapM (fun lb => do
    let roles ← populateRoles lb.roles
    pure { lb with roles })
  pure { desired with loadBalancers }

def healthcheckRole : Role :=
  { name := "internal.claudie.healthcheck"
    protocol := "tcp"
    port := Manifest.healthcheckPort
    -- not a valid port: nothing is forwarded any further.
    targetPort := -1
    roleType := .ingress
    targetPools := []
    settings := ⟨false, false, Manifest.healthcheckEnvoyPort⟩ }

def populateDefaultHealthcheckRole (desired : DesiredCluster) : DesiredCluster :=
  { desired with
    loadBalancers := desired.loadBalancers.map (fun lb =>
      if lb.roles.any (·.port = Manifest.healthcheckPort) then lb
      else { lb with roles := lb.roles ++ [healthcheckRole] }) }

-- Step 4 of `createDesiredState` for one cluster.
def populateMissingState (gen : Generator) (desired : DesiredCluster) : Outcome DesiredCluster := do
  let desired ← populateSSHKeys gen desired
  let desired ← populateDnsHostName gen desired
  let desired ← populateDynamicNodesForClusters desired
  let desired ← populateEnvoyAdminPorts desired
  pure (populateDefaultHealthcheckRole desired)

structure Draws where
  k8sHash : Nat → Hash
  lbHash : Nat → Hash
  cluster : String → Generator

def currentOf (clusters : GoMap ClusterState) (cluster : String) : Clusters :=
  match clusters[cluster]? with
  | none => ⟨none, []⟩
  | some state => state.current

def desiredState (fuel : Nat) (draws : Draws) (ord : MapOrder) (m : Claudie.Manifest)
    (clusters : GoMap ClusterState) : FuelOutcome (GoMap DesiredCluster) := do
  let desired ← FuelOutcome.ofOutcome (Outcome.wrap
    s!"failed to parse k8s clusters from manifest {quoted m.name}: "
    (createK8sClustersFromManifest m draws.k8sHash))
  let desired ← FuelOutcome.ofOutcome (Outcome.wrap
    s!"failed to parse lb clusters from manifest: {quoted m.name}: "
    (createLBClustersFromManifest m draws.lbHash desired))
  let desired ← FuelOutcome.mapEntries ord "createDesiredState.3" (fun name desired =>
    reuseExistingState fuel (draws.cluster name) m (currentOf clusters name) desired) desired
  FuelOutcome.mapEntries ord "createDesiredState.4" (fun name desired =>
    FuelOutcome.ofOutcome (populateMissingState (draws.cluster name) desired)) desired

end Manager

end Claudie
