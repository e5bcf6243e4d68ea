import Claudie.Lib.GoMap

/-!
The data the manager keeps about clusters: the messages of `proto/spec` that its functions read or
write. Timestamps and descriptions that are only printed are left out.
-/

namespace Claudie

inductive ProviderType where
  | gcp (key project : String)
  | hetzner (token : String)
  | oci (userOCID tenancyOCID keyFingerprint compartmentOCID privateKey : String)
  | aws (secretKey accessKey : String)
  | azure (subscriptionID tenantID clientID clientSecret : String)
  | cloudflare (token accountID : String)
  | openstack (authURL domainID projectID applicationCredentialID
      applicationCredentialSecret : String)
  | exoscale (apiKey apiSecret : String)
  | cloudrift (token : String) (teamId : Option String)
  | verda (clientId clientSecret : String) (baseUrl : Option String)
  | ovh (clientId clientSecret serviceName : String) (endpoint : Option String)
  deriving DecidableEq

structure TemplatePaths where
  terraformer : String
  playbooks : String
  configLb : String
  configK8s : String
  manifestsK8s : String
  deriving DecidableEq

structure TemplateRepository where
  url : String
  commit : String
  commitHash : String
  auth : Option (Option String × String)
  paths : TemplatePaths
  deriving DecidableEq

structure Provider where
  specName : String
  cloudProviderName : String
  providerType : ProviderType
  templates : TemplateRepository
  deriving DecidableEq

inductive NodeType where
  | worker
  | master
  | apiEndpoint
  deriving DecidableEq

inductive NodeStatus where
  | preparing
  | joined
  | markedForDeletion
  deriving DecidableEq

structure Node where
  name : String
  privateIp : String
  publicIp : String
  nodeType : NodeType
  username : String
  status : NodeStatus
  sshPort : Int
  wireguardPort : Int
  deriving DecidableEq

structure Taint where
  key : String
  value : String
  effect : String
  deriving DecidableEq

structure MachineSpec where
  cpuCount : Int
  memory : Int
  nvidiaGpuCount : Int
  nvidiaGpuType : String
  deriving DecidableEq

structure AutoscalerConf where
  min : Int
  max : Int
  targetSize : Int
  deriving DecidableEq

structure DynamicNodePool where
  serverType : String
  image : String
  storageDiskSize : Int
  region : String
  zone : String
  count : Int
  provider : Provider
  autoscalerConfig : Option AutoscalerConf
  machineSpec : Option MachineSpec
  publicKey : String
  privateKey : String
  cidr : String
  externalNetworkName : String
  spot : Bool
  deriving DecidableEq

structure StaticNodePool where
  nodeKeys : GoMap String
  deriving DecidableEq

inductive NodePoolType where
  | dynamic (d : DynamicNodePool)
  | static (s : StaticNodePool)
  deriving DecidableEq

structure NodePool where
  type : NodePoolType
  name : String
  nodes : List Node
  isControl : Bool
  labels : GoMap String
  taints : List Taint
  annotations : GoMap String
  sshPort : Int
  deriving DecidableEq

structure ClusterInfo where
  name : String
  hash : String
  nodePools : List NodePool
  deriving DecidableEq

structure InstallationProxy where
  mode : String
  endpoint : String
  noProxy : String
  deriving DecidableEq

structure K8scluster where
  clusterInfo : ClusterInfo
  network : String
  kubeconfig : String
  kubernetes : String
  installationProxy : InstallationProxy
  deriving DecidableEq

inductive RoleType where
  | apiServer
  | ingress
  deriving DecidableEq

structure RoleSettings where
  proxyProtocol : Bool
  stickySessions : Bool
  envoyAdminPort : Int
  deriving DecidableEq

structure Role where
  name : String
  protocol : String
  port : Int
  targetPort : Int
  roleType : RoleType
  targetPools : List String
  settings : RoleSettings
  deriving DecidableEq

structure AlternativeName where
  hostname : String
  endpoint : String
  deriving DecidableEq

structure DNS where
  dnsZone : String
  hostname : String
  provider : Provider
  endpoint : String
  alternativeNames : List AlternativeName
  deriving DecidableEq

structure LBcluster where
  clusterInfo : ClusterInfo
  roles : List Role
  dns : Option DNS
  targetedK8s : String
  usedApiEndpoint : Bool
  deriving DecidableEq

structure Clusters where
  k8s : Option K8scluster
  loadBalancers : List LBcluster
  deriving DecidableEq

end Claudie
