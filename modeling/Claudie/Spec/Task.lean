import Claudie.Spec.Basic

/-!
Tasks, their pipelines and results, and the documents the manager stores.
-/

namespace Claudie

inductive ErrorLevel where
  | fatal
  | warn
  deriving DecidableEq

structure StageDescription where
  about : String
  errorLevel : ErrorLevel
  deriving DecidableEq

inductive TerraformerPass where
  | buildInfrastructure
  | updateInfrastructure
  | destroyInfrastructure
  | apiPortOnKubernetes
  deriving DecidableEq

inductive AnsiblerPass where
  | installNodeRequirements
  | installVpn
  | determineApiEndpointChange
  | reconcileLoadbalancers
  | removeClaudieUtilities
  | updateApiEndpoint
  | commitProxyEnvs
  | updateProxyEnvsOnNodes
  | clearProxyEnvsOnNodes
  deriving DecidableEq

inductive KubeElevenPass where
  | reconcileCluster
  | destroyCluster
  deriving DecidableEq

inductive KuberPass where
  | ciliumRestart
  | deleteNodes
  | patchClusterInfoCm
  | patchKubeadm
  | removeLbScrapeConfig
  | storeLbScrapeConfig
  | patchNodes
  | deployLonghorn
  | enableLonghornCa
  | disableLonghornCa
  | reconcileLonghornStorageClasses
  | deployKubeletCsrApprover
  deriving DecidableEq

structure SubPass (κ : Type) where
  kind : κ
  description : StageDescription
  deriving DecidableEq

inductive Stage where
  | terraformer (description : StageDescription) (subPasses : List (SubPass TerraformerPass))
  | ansibler (description : StageDescription) (subPasses : List (SubPass AnsiblerPass))
  | kubeEleven (description : StageDescription) (subPasses : List (SubPass KubeElevenPass))
  | kuber (description : StageDescription) (subPasses : List (SubPass KuberPass))
  deriving DecidableEq

structure Unreachable where
  kubernetes : GoMap (List String)
  loadbalancers : GoMap (GoMap (List String))
  deriving DecidableEq

inductive AddNodesKind where
  | existing (nodepool : String) (nodes : List Node)
  | new (nodepool : NodePool)
  deriving DecidableEq

inductive DeletedNodesKind where
  | wholeNodePool (nodepool : Option NodePool)
  | partialNodePool (nodepool : String) (nodes : List Node) (staticNodeKeys : GoMap String)
  deriving DecidableEq

inductive ApiEndpointChangeState where
  | noChange
  | attachingLoadBalancer
  | detachingLoadBalancer
  | endpointRenamed
  | moveEndpoint
  deriving DecidableEq

structure AddBatch where
  taints : GoMap (List Taint)
  labels : GoMap (GoMap String)
  annotations : GoMap (GoMap String)
  deriving DecidableEq

structure RemoveBatch where
  taints : GoMap (List Taint)
  annotations : GoMap (List String)
  labels : GoMap (List String)
  deriving DecidableEq

inductive Delta where
  | none
  | tfAddLoadBalancer (handle : LBcluster)
  | tfAddLoadBalancerNodes (handle : String) (kind : AddNodesKind)
  | tfReplaceDns (handle : String) (dns : Option DNS) (oldApiEndpoint : Option String)
  | tfAddK8sNodes (kind : AddNodesKind)
  | tfAddLoadBalancerRoles (handle : String) (roles : List Role)
  | tfDeleteLoadBalancerNodes (handle : String) (withNodePool : Bool) (nodepool : String)
      (nodes : List String) (unreachable : Option Unreachable)
  | tfMoveNodePoolToAutoscaled (nodepool : String) (config : AutoscalerConf)
  | tfMoveNodePoolFromAutoscaled (nodepool : String)
  | tfReplaceRoleExternalSettings (handle role : String) (roleType : RoleType) (protocol : String)
      (port : Int)
  | ansReplaceProxy (proxy : InstallationProxy)
  | ansReplaceTargetPools (handle : String) (roles : GoMap (List String))
  | ansReplaceRoleInternalSettings (handle role : String) (targetPort : Int)
      (settings : Option RoleSettings)
  | kpatchNodes (add : AddBatch) (remove : RemoveBatch)
  | kDeleteNodes (withNodePool : Bool) (nodepool : String) (nodes : List String)
      (unreachable : Option Unreachable)
  | addedLoadBalancer (handle : String)
  | addedLoadBalancerNodes (handle : String) (newNodePool : Bool) (nodePool : String)
      (nodes : List String)
  | replacedDns (handle : String) (oldApiEndpoint : Option String)
  | addedK8sNodes (newNodePool : Bool) (nodepool : String) (nodes : List String)
  | replacedProxy
  | patchedNodes
  | addedLoadBalancerRoles (handle : String) (roles : List String)
  | replacedTargetPools (handle : String) (roles : GoMap (List String))
  | movedNodePoolToAutoscaled (nodepool : String)
  | movedNodePoolFromAutoscaled (nodepool : String) (config : Option AutoscalerConf)
  | replacedRoleInternalSettings (handle role : String)
  | replacedRoleExternalSettings (handle role : String)
  | deleteLoadBalancer (handle : String) (unreachable : Option Unreachable)
  | deletedK8sNodes (unreachable : Option Unreachable) (kind : DeletedNodesKind)
  | deletedLoadBalancerNodes (unreachable : Option Unreachable) (handle : String)
      (kind : DeletedNodesKind)
  | deleteLoadBalancerRoles (handle : String) (roles : List String)
  | apiEndpoint (state : ApiEndpointChangeState) (currentEndpointId desiredEndpointId : String)
  | clusterApiPort (isOpen : Bool)
  | k8sApiEndpoint (nodepool node : String)
  | upgradeVersion (version : String)
  deriving DecidableEq

/--
The oneof `Do` of a task. `Create` and `Delete` carry the whole cluster, `Update` carries the cluster
together with the change to be made to it.
-/
inductive Task where
  | create (state : Clusters)
  | update (state : Clusters) (delta : Delta)
  | delete (state : Clusters)
  deriving DecidableEq

inductive Event where
  | create
  | update
  | delete
  deriving DecidableEq

/--
Task ids are uuids. They are only ever compared, and a new one is different from all earlier ones.
-/
abbrev TaskId := Nat

structure TaskEvent where
  id : TaskId
  event : Event
  task : Task
  description : String
  pipeline : List Stage
  currentStage : Nat
  deriving DecidableEq

inductive ErrorKind where
  | fatal
  | partialChange
  deriving DecidableEq

inductive ResultKind where
  | none
  | update (k8s : Option K8scluster) (loadBalancers : Option (List LBcluster))
  | clear (k8s : Option Bool) (loadBalancersIDs : List String)
  deriving DecidableEq

structure TaskResult where
  error : Option (ErrorKind × String)
  result : ResultKind
  deriving DecidableEq

inductive Status where
  | done
  | error
  | inProgress
  | waitForPickup
  deriving DecidableEq

structure FinishedWorkflow where
  status : Status
  taskDescription : String
  stage : String
  deriving DecidableEq

structure Workflow where
  status : Status
  description : String
  previous : List FinishedWorkflow
  ticksUntilRefresh : Int
  deriving DecidableEq

structure Counters where
  k8sNodePoolScaleUpFailed : GoMap Int
  deriving DecidableEq

/--
What is stored about one cluster. `inFlight` is the in-flight task followed by its chain of
`LowerPriority` tasks; the empty list is no in-flight task.
-/
structure ClusterState where
  current : Clusters
  state : Workflow
  inFlight : List TaskEvent
  counters : Counters
  deriving DecidableEq

inductive ManifestState where
  | pending
  | scheduled
  | done
  | error
  deriving DecidableEq

/--
The output of `hash.Digest`, a SHA-512/256 sum. A `nil` byte slice is `none`.
-/
abbrev Checksum := Option (BitVec 256)

structure ManifestInfo where
  raw : String
  checksum : Checksum
  lastAppliedChecksum : Checksum
  state : ManifestState
  deriving DecidableEq

structure KubernetesContext where
  name : String
  namespaceName : String
  deriving DecidableEq

structure Config where
  version : Nat
  name : String
  k8sCtx : KubernetesContext
  manifest : ManifestInfo
  clusters : GoMap ClusterState
  deriving DecidableEq

end Claudie
