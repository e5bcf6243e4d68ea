import Claudie.Manifest.Basic
import Claudie.Manifest.Labels
import Mathlib.Algebra.GroupWithZero.Nat

/-!
`Manifest.Validate`, with the tags of the fields that the validator library checks. A check tells
whether the manifest passes; the texts of the errors are left out.
-/

namespace Claudie

namespace Manifest

/--
The formats that are left to libraries: `ip_addr`, `cidrv4`, and the expression for the versions of
kubernetes.
-/
structure Formats where
  ipAddr : String → Bool
  cidrv4 : String → Bool
  kubernetesVersion : String → Bool

-- `validate:"required,max=n"` of a string.
def requiredMax (s : String) (n : Nat) : Bool := s ≠ "" && s.length ≤ n

def isReferenced (m : Manifest) (name : String) : Bool :=
  m.kubernetes.any (fun k8s => k8s.pools.control.contains name || k8s.pools.compute.contains name)
    || m.loadBalancer.clusters.any (·.pools.contains name)

def isControlPlane (m : Manifest) (name : String) : Bool :=
  m.kubernetes.any (·.pools.control.contains name)

def checkTaints (taints : List Taint) : Bool :=
  taints.all (fun t => ["NoSchedule", "NoExecute", "PreferNoSchedule"].contains t.effect
    && isQualifiedName t.key && isValidLabelValue t.value)

def totalAnnotationSizeLimitB : Nat := 256 * 1024

def checkAnnotations (annotations : GoMap String) : Bool :=
  annotations.toList.all (fun (k, _) => isQualifiedName (Manager.toLower k))
    && (annotations.toList.map (fun (k, v) => k.utf8ByteSize + v.utf8ByteSize)).sum
      ≤ totalAnnotationSizeLimitB

namespace DynamicNodePool

def validateGCPGpuConfig (d : DynamicNodePool) (m : Manifest) : Bool :=
  match m.getProviderType d.providerSpec.name, d.machineSpec with
  | some "gcp", some spec =>
    let gpuCount := if spec.nvidiaGpuCount = 0 then spec.nvidiaGpu else spec.nvidiaGpuCount
    !(gpuCount > 0 && spec.nvidiaGpuType = "")
  | _, _ => true

def validateSpot (d : DynamicNodePool) (m : Manifest) : Bool :=
  !d.spot ||
    match m.getProviderType d.providerSpec.name with
    | none => true
    | some type =>
      ["gcp", "verda", "aws", "azure", "oci"].contains type && !m.isControlPlane d.name

def validProviderSpec (s : ProviderSpec) : Bool :=
  s.name ≠ "" && s.region ≠ "" && (s.name ≠ "openstack" || s.externalNetworkName ≠ "")

def validMachineSpec (s : MachineSpec) : Bool :=
  (s.memory = 0 || s.cpuCount ≠ 0) && (s.cpuCount = 0 || s.memory ≠ 0) && s.cpuCount ≥ 0
    && s.memory ≥ 0 && s.nvidiaGpuCount ≥ 0 && s.nvidiaGpu ≥ 0

-- A count is required without an autoscaler, and excluded with one.
def validFields (d : DynamicNodePool) : Bool :=
  requiredMax d.name 14 && validProviderSpec d.providerSpec
    && (d.count = 0) = (d.autoscalerConfig ≠ ⟨0, 0⟩)
    && d.serverType ≠ "" && d.image ≠ "" && d.autoscalerConfig.max ≤ 255
    && d.machineSpec.all validMachineSpec

def validate (d : DynamicNodePool) (m : Manifest) : Bool :=
  d.storageDiskSize.all (fun size => size = 0 || size ≥ 50) && d.count ≤ 255
    && d.validateGCPGpuConfig m && d.validateSpot m && d.validFields

end DynamicNodePool

def StaticNodePool.validate (formats : Formats) (s : StaticNodePool) : Bool :=
  requiredMax s.name 14
    && s.nodes.all (fun n =>
      n.endpoint ≠ "" && formats.ipAddr n.endpoint && n.key ≠ "" && n.username ≠ "")
    && s.sshPort.all (fun port => 1 ≤ port && port ≤ 65535)

def staticEndpoints (p : NodePool) : List String :=
  p.static.flatMap (fun n => n.nodes.map (·.endpoint))

def nodePoolNames (p : NodePool) : List String := p.dynamic.map (·.name) ++ p.static.map (·.name)

def NodePool.validate (formats : Formats) (p : NodePool) (m : Manifest) : Bool :=
  p.dynamic.all (fun n =>
      m.isReferenced n.name && (m.getProviderType n.providerSpec.name).isSome && n.validate m
        && !(n.count ≠ 0 && n.autoscalerConfig.isDefined)
        && checkTaints n.taints && checkLabels n.labels)
    && p.static.all (fun n =>
      m.isReferenced n.name && n.validate formats && checkTaints n.taints && checkLabels n.labels
        && checkAnnotations n.annotations)
    && (staticEndpoints p).Nodup && (nodePoolNames p).Nodup

def Cluster.validate (formats : Formats) (c : Cluster) : Bool :=
  requiredMax c.name 28 && c.version ≠ "" && formats.kubernetesVersion c.version
    && c.network ≠ "" && formats.cidrv4 c.network && c.pools.control.length ≥ 1
    && c.installationProxy.all (fun p => ["on", "off", "default"].contains p.mode)

def validateNodepools (m : Manifest) (cluster : Cluster) : Bool :=
  cluster.pools.control.all (fun pool => (m.nodePoolDefined pool).isSome)
    && cluster.pools.compute.all (fun pool => (m.nodePoolDefined pool).isSome)
    && cluster.pools.control.Nodup && cluster.pools.compute.Nodup
    && cluster.pools.compute.all (fun pool =>
      m.nodePoolDefined pool ≠ some .static || !cluster.pools.control.contains pool)

-- The clusters by the static nodepools they use, none if two of them use the same one.
def validateStaticNodepool (m : Manifest) : Option (GoMap String) :=
  m.kubernetes.foldlM (fun reused cluster =>
    (cluster.pools.control ++ cluster.pools.compute).foldlM (fun reused pool =>
      if m.nodePoolDefined pool ≠ some .static then some reused
      else
        match reused[pool]? with
        | some other =>
          if other ≠ cluster.name then none else some (reused.insert pool cluster.name)
        | none => some (reused.insert pool cluster.name)) reused) ∅

def validateKubernetes (formats : Formats) (m : Manifest) : Bool :=
  m.kubernetes.all (fun cluster => cluster.validate formats && m.validateNodepools cluster)
    && (m.kubernetes.map (·.name)).Nodup && m.validateStaticNodepool.isSome

def apiServerPort : Int := 6443

def maxRolesPerLoadBalancer : Nat := 1018

def additionalReservedPorts : Nat := 6

def reservedPortRangeEnd : Int := 65536

def reservedPortRangeStart : Int :=
  reservedPortRangeEnd - (maxRolesPerLoadBalancer + additionalReservedPorts)

def nodeExporterPort : Int := reservedPortRangeEnd - 1

def healthcheckPort : Int := nodeExporterPort - 1

def healthcheckEnvoyPort : Int := healthcheckPort - 1

def Role.validFields (r : Role) : Bool :=
  r.name ≠ "" && ["tcp", "udp"].contains r.protocol && 0 ≤ r.port && r.port ≤ 65535
    && 0 ≤ r.targetPort && r.targetPort ≤ 65535 && r.targetPools.length ≥ 1

def Role.validate (r : Role) (m : Manifest) : Bool :=
  r.validFields && (r.targetPort ≠ apiServerPort || r.port = apiServerPort)
    && !(r.port ≥ reservedPortRangeStart && r.port < reservedPortRangeEnd)
    && r.targetPools.all (fun np => (m.nodePoolDefined np).isSome) && r.targetPools.Nodup

-- Each role for the API server overwrites the one before it.
def apiServerRole (l : LoadBalancer) : Option Role :=
  (l.roles.filter (·.targetPort = apiServerPort)).getLast?

def LoadBalancerCluster.validFields (c : LoadBalancerCluster) : Bool :=
  requiredMax c.name 28 && c.dns.dnsZone ≠ "" && c.dns.provider ≠ ""
    && c.dns.alternativeNames.all (· ≠ "") && c.targetedK8s ≠ ""

structure SeenLoadBalancers where
  hostnamesPerDNS : GoMap String := ∅
  apiServerLBExists : List String := []

def validateAttachedRole (m : Manifest) (cluster : LoadBalancerCluster)
    (apiServerLBExists : List String) (role : String) : Option (List String) := do
  let roleDef ← m.loadBalancer.roles.find? (·.name = role)
  let targets := m.kubernetes.filter (·.name = cluster.targetedK8s)
  if !targets.all (fun k8s => roleDef.targetPools.all (fun np =>
      k8s.pools.control.contains np || k8s.pools.compute.contains np)) then none
  else
    match apiServerRole m.loadBalancer with
    | none => some apiServerLBExists
    | some api =>
      if role ≠ api.name then some apiServerLBExists
      else if apiServerLBExists.contains cluster.targetedK8s
          || cluster.dns.alternativeNames.length > 0
          || !targets.all (fun k8s => api.targetPools.all (k8s.pools.control.contains ·)) then none
      else some (cluster.targetedK8s :: apiServerLBExists)

def validateAlternativeName (dns : DNS) (hostnamesPerDNS : GoMap String) (n : String) :
    Option (GoMap String) :=
  if dns.hostname ≠ "" && n = dns.hostname || hostnamesPerDNS[n]? = some dns.dnsZone then none
  else some (hostnamesPerDNS.insert n dns.dnsZone)

def validateHostnames (dns : DNS) (hostnamesPerDNS : GoMap String) : Option (GoMap String) := do
  if !dns.alternativeNames.Nodup then none
  let hostnames ← dns.alternativeNames.foldlM (validateAlternativeName dns) hostnamesPerDNS
  if hostnames[dns.hostname]? = some dns.dnsZone then none
  else if dns.hostname ≠ "" then some (hostnames.insert dns.hostname dns.dnsZone)
  else some hostnames

def supportedDNSProviders : List String :=
  ["gcp", "aws", "azure", "oci", "cloudflare", "hetzner", "exoscale", "ovh"]

def validateLoadBalancerCluster (m : Manifest) (seen : SeenLoadBalancers)
    (cluster : LoadBalancerCluster) : Option SeenLoadBalancers := do
  if cluster.roles.length > maxRolesPerLoadBalancer || !cluster.validFields then none
  let apiServerLBExists ←
    cluster.roles.foldlM (m.validateAttachedRole cluster) seen.apiServerLBExists
  let hostnamesPerDNS ← validateHostnames cluster.dns seen.hostnamesPerDNS
  let providerType ← m.getProviderType cluster.dns.provider
  if supportedDNSProviders.contains providerType
      && m.isKubernetesClusterPresent cluster.targetedK8s
      && cluster.pools.all (fun pool => (m.nodePoolDefined pool).isSome)
      && cluster.pools.Nodup then
    some { hostnamesPerDNS, apiServerLBExists }
  else none

def validateLBStaticNodePool (m : Manifest) : Bool :=
  m.loadBalancer.clusters.all (fun cluster => cluster.pools.all (fun pool =>
    m.nodePoolDefined pool ≠ some .static
      || (((m.validateStaticNodepool).getD ∅)[pool]?).isNone))

def validateLoadBalancers (m : Manifest) : Bool :=
  m.loadBalancer.roles.all (·.validate m) && (m.loadBalancer.roles.map (·.name)).Nodup
    && (m.loadBalancer.clusters.map (·.name)).Nodup
    && (m.loadBalancer.clusters.foldlM m.validateLoadBalancerCluster {}).isSome
    && m.validateLBStaticNodePool

def getCount (np : NodePool) (nodepoolName : String) : Int :=
  match np.dynamic.find? (·.name = nodepoolName) with
  | some n => n.count
  | none =>
    match np.static.find? (·.name = nodepoolName) with
    | some n => n.nodes.length
    | none => -1

def checkNodepoolDomain (np : NodePool) (nodepoolName : String) : Bool :=
  getCount np nodepoolName ≠ -1
    && 1 + nodepoolName.utf8ByteSize + (toString (getCount np nodepoolName)).utf8ByteSize
      + (8 + 15 + 19) ≤ 80

def checkLengthOfFutureDomain (m : Manifest) : Bool :=
  m.kubernetes.all (fun cluster => (cluster.pools.control ++ cluster.pools.compute).all
    (checkNodepoolDomain m.nodePools))

def validate (formats : Formats) (m : Manifest) : Bool :=
  m.name ≠ "" && (m.providers.length ≥ 1 || m.nodePools.dynamic.isEmpty)
    && m.nodePools.validate formats m && m.validateKubernetes formats && m.validateLoadBalancers
    && m.checkLengthOfFutureDomain

end Manifest

end Claudie
