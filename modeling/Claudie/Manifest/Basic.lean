import Claudie.Manager.GenerateState

/-!
The package `internal/api/manifest`: what a user asks for, and the nodepools that are made of it.
-/

namespace Claudie

namespace Manifest

/--
A provider of the manifest. The templates are what is found when their commit is looked up in the
repository, or the error of that lookup.
-/
structure ProviderConf where
  name : String
  credentials : ProviderType
  templates : Except String TemplateRepository

structure ProviderSpec where
  name : String
  region : String
  zone : String
  externalNetworkName : String
  deriving DecidableEq

structure AutoscalerConfig where
  min : Int
  max : Int
  deriving DecidableEq

structure MachineSpec where
  cpuCount : Int
  memory : Int
  nvidiaGpuCount : Int
  nvidiaGpuType : String
  nvidiaGpu : Int
  deriving DecidableEq

structure DynamicNodePool where
  name : String
  providerSpec : ProviderSpec
  count : Int
  serverType : String
  image : String
  storageDiskSize : Option Int
  autoscalerConfig : AutoscalerConfig
  labels : GoMap String
  annotations : GoMap String
  taints : List Taint
  machineSpec : Option MachineSpec
  spot : Bool
  deriving DecidableEq

structure Node where
  endpoint : String
  key : String
  username : String
  deriving DecidableEq

structure StaticNodePool where
  name : String
  nodes : List Node
  labels : GoMap String
  annotations : GoMap String
  taints : List Taint
  sshPort : Option Int
  deriving DecidableEq

structure Pool where
  control : List String
  compute : List String
  deriving DecidableEq

structure Cluster where
  name : String
  version : String
  network : String
  pools : Pool
  installationProxy : Option InstallationProxy
  deriving DecidableEq

structure RoleSettings where
  proxyProtocol : Bool
  stickySessions : Bool
  deriving DecidableEq

structure Role where
  name : String
  protocol : String
  port : Int
  targetPort : Int
  targetPools : List String
  settings : Option RoleSettings
  deriving DecidableEq

structure DNS where
  dnsZone : String
  provider : String
  hostname : String
  alternativeNames : List String
  deriving DecidableEq

structure LoadBalancerCluster where
  name : String
  roles : List String
  dns : DNS
  targetedK8s : String
  pools : List String
  deriving DecidableEq

structure NodePool where
  dynamic : List DynamicNodePool
  static : List StaticNodePool
  deriving DecidableEq

structure LoadBalancer where
  roles : List Role
  clusters : List LoadBalancerCluster
  deriving DecidableEq

end Manifest

structure Manifest where
  name : String
  providers : List Manifest.ProviderConf
  nodePools : Manifest.NodePool
  kubernetes : List Manifest.Cluster
  loadBalancer : Manifest.LoadBalancer

namespace Manifest

def cloudProviderName : ProviderType → String
  | .gcp .. => "gcp"
  | .hetzner .. => "hetzner"
  | .oci .. => "oci"
  | .aws .. => "aws"
  | .azure .. => "azure"
  | .cloudflare .. => "cloudflare"
  | .openstack .. => "openstack"
  | .exoscale .. => "exoscale"
  | .cloudrift .. => "cloudrift"
  | .verda .. => "verda"
  | .ovh .. => "ovh"

def ProviderConf.type (p : ProviderConf) : String := cloudProviderName p.credentials

def byKind (kinds : List String) (providers : List ProviderConf) : List ProviderConf :=
  kinds.flatMap (fun kind => providers.filter (·.type = kind))

def getProvider (ds : Manifest) (providerSpecName : String) : Outcome Provider :=
  let providers := byKind ["gcp", "hetzner", "oci", "azure", "aws", "cloudflare", "openstack",
    "exoscale", "cloudrift", "verda", "ovh"] ds.providers
  match providers.find? (·.name = providerSpecName) with
  | none => .error (.error s!"failed to find provider with name: {providerSpecName}")
  | some conf =>
    match conf.templates with
    | .error msg => .error (.error msg)
    | .ok templates =>
      .ok { specName := conf.name, cloudProviderName := conf.type,
            providerType := conf.credentials, templates }

-- The order of `ForEachProvider` is not that of `GetProvider`.
def getProviderType (ds : Manifest) (provider : String) : Option String :=
  let providers := byKind ["gcp", "hetzner", "oci", "aws", "azure", "cloudflare", "openstack",
    "exoscale", "cloudrift", "verda", "ovh"] ds.providers
  (providers.find? (·.name = provider)).map (·.type)

def isKubernetesClusterPresent (m : Manifest) (name : String) : Bool :=
  m.kubernetes.any (·.name = name)

def findDynamicNodePool (ds : Manifest) (nodePoolName : String) : Option DynamicNodePool :=
  ds.nodePools.dynamic.find? (·.name = nodePoolName)

def findStaticNodePool (ds : Manifest) (nodePoolName : String) : Option StaticNodePool :=
  ds.nodePools.static.find? (·.name = nodePoolName)

inductive Defined where
  | static
  | dynamic
  deriving DecidableEq

def nodePoolDefined (ds : Manifest) (pool : String) : Option Defined :=
  if ds.nodePools.static.any (·.name = pool) then some .static
  else if ds.nodePools.dynamic.any (·.name = pool) then some .dynamic
  else none

def AutoscalerConfig.isDefined (a : AutoscalerConfig) : Bool := a.min ≥ 0 && a.max > 0

def defaultDiskSize : Int := 50

def defaultSSHPort : Int := 22

def MachineSpec.message (spec : MachineSpec) : Claudie.MachineSpec :=
  { cpuCount := spec.cpuCount
    memory := spec.memory
    -- the deprecated field counts if the other one is not set.
    nvidiaGpuCount :=
      if spec.nvidiaGpuCount = 0 && spec.nvidiaGpu > 0 then spec.nvidiaGpu else spec.nvidiaGpuCount
    nvidiaGpuType := spec.nvidiaGpuType }

def DynamicNodePool.message (np : DynamicNodePool) (provider : Provider) (isControl : Bool) :
    Claudie.NodePool :=
  let autoscaled := np.autoscalerConfig.isDefined
  { type := .dynamic
      { serverType := np.serverType
        image := np.image
        storageDiskSize := np.storageDiskSize.getD defaultDiskSize
        region := np.providerSpec.region
        zone := np.providerSpec.zone
        -- a fresh autoscaled nodepool has as many nodes as its target size says.
        count := if autoscaled then np.autoscalerConfig.min else np.count
        provider
        autoscalerConfig :=
          if autoscaled then
            some { min := np.autoscalerConfig.min, max := np.autoscalerConfig.max,
                   targetSize := np.autoscalerConfig.min }
          else none
        machineSpec := np.machineSpec.map (·.message)
        publicKey := ""
        privateKey := ""
        cidr := ""
        externalNetworkName := np.providerSpec.externalNetworkName
        spot := np.spot }
    name := np.name
    nodes := []
    isControl
    labels := np.labels
    taints := np.taints
    annotations := np.annotations
    sshPort := 0 }

def staticNodes (np : StaticNodePool) (isControl : Bool) : Outcome (List Claudie.Node) :=
  if np.nodes.length > 255 then .error .panic
  else
    .ok (np.nodes.mapIdx (fun i node =>
      { name := np.name ++ "-" ++ Manager.hexByte (i + 1)
        privateIp := ""
        publicIp := node.endpoint
        nodeType := if isControl then .master else .worker
        username := node.username
        status := .preparing
        sshPort := 0
        wireguardPort := 0 }))

def getNodeKeys (np : StaticNodePool) : GoMap String :=
  np.nodes.foldl (fun m n => m.insert n.endpoint n.key) ∅

def StaticNodePool.message (np : StaticNodePool) (isControl : Bool) : Outcome Claudie.NodePool := do
  let nodes ← staticNodes np isControl
  pure
    { type := .static { nodeKeys := getNodeKeys np }
      name := np.name
      nodes
      isControl
      labels := np.labels
      taints := np.taints
      annotations := np.annotations
      sshPort := np.sshPort.getD defaultSSHPort }

def createNodepool (ds : Manifest) (isControl : Bool) (nodePoolName : String) :
    Outcome Claudie.NodePool :=
  match ds.findDynamicNodePool nodePoolName with
  | some np => do
    let provider ← ds.getProvider np.providerSpec.name
    pure (np.message provider isControl)
  | none =>
    match ds.findStaticNodePool nodePoolName with
    | some np => np.message isControl
    | none => .error (.error s!"nodepool {nodePoolName} not defined")

def createNodepools (ds : Manifest) (pools : List String) (isControl : Bool) :
    Outcome (List Claudie.NodePool) :=
  pools.mapM (ds.createNodepool isControl)

end Manifest

end Claudie
