import Claudie.Lib.Protobuf
import Claudie.Spec.Task

/-!
A config in its two representations: the messages of the RPC services, in which a message can be
absent, and `api.go` of the store, the documents of the database, in which enumerations and points in
time are texts and clusters and tasks are marshalled.
-/

namespace Claudie

open Protobuf (Enum)

instance : Enum ErrorLevel where
  values := [.fatal, .warn]
  name
    | .fatal => "ERROR_FATAL"
    | .warn => "ERROR_WARN"
  zero := .fatal
  mem_values a := by cases a <;> decide
  nodup_names := by decide

instance : Enum TerraformerPass where
  values := [.buildInfrastructure, .updateInfrastructure, .destroyInfrastructure,
    .apiPortOnKubernetes]
  name
    | .buildInfrastructure => "BUILD_INFRASTRUCTURE"
    | .updateInfrastructure => "UPDATE_INFRASTRUCTURE"
    | .destroyInfrastructure => "DESTROY_INFRASTRUCTURE"
    | .apiPortOnKubernetes => "API_PORT_ON_KUBERNETES"
  zero := .buildInfrastructure
  mem_values a := by cases a <;> decide
  nodup_names := by decide

instance : Enum AnsiblerPass where
  values := [.installNodeRequirements, .installVpn, .determineApiEndpointChange,
    .reconcileLoadbalancers, .removeClaudieUtilities, .updateApiEndpoint, .commitProxyEnvs,
    .updateProxyEnvsOnNodes, .clearProxyEnvsOnNodes]
  name
    | .installNodeRequirements => "INSTALL_NODE_REQUIREMENTS"
    | .installVpn => "INSTALL_VPN"
    | .determineApiEndpointChange => "DETERMINE_API_ENDPOINT_CHANGE"
    | .reconcileLoadbalancers => "RECONCILE_LOADBALANCERS"
    | .removeClaudieUtilities => "REMOVE_CLAUDIE_UTILITIES"
    | .updateApiEndpoint => "UPDATE_API_ENDPOINT"
    | .commitProxyEnvs => "COMMIT_PROXY_ENVS"
    | .updateProxyEnvsOnNodes => "UPDATE_PROXY_ENVS_ON_NODES"
    | .clearProxyEnvsOnNodes => "CLEAR_PROXY_ENVS_ON_NODES"
  zero := .installNodeRequirements
  mem_values a := by cases a <;> decide
  nodup_names := by decide

instance : Enum KubeElevenPass where
  values := [.reconcileCluster, .destroyCluster]
  name
    | .reconcileCluster => "RECONCILE_CLUSTER"
    | .destroyCluster => "DESTROY_CLUSTER"
  zero := .reconcileCluster
  mem_values a := by cases a <;> decide
  nodup_names := by decide

instance : Enum KuberPass where
  values := [.ciliumRestart, .deleteNodes, .patchClusterInfoCm, .patchKubeadm,
    .removeLbScrapeConfig, .storeLbScrapeConfig, .patchNodes, .deployLonghorn, .enableLonghornCa,
    .disableLonghornCa, .reconcileLonghornStorageClasses, .deployKubeletCsrApprover]
  name
    | .ciliumRestart => "CILIUM_RESTART"
    | .deleteNodes => "DELETE_NODES"
    | .patchClusterInfoCm => "PATCH_CLUSTER_INFO_CM"
    | .patchKubeadm => "PATCH_KUBEADM"
    | .removeLbScrapeConfig => "REMOVE_LB_SCRAPE_CONFIG"
    | .storeLbScrapeConfig => "STORE_LB_SCRAPE_CONFIG"
    | .patchNodes => "PATCH_NODES"
    | .deployLonghorn => "DEPLOY_LONGHORN"
    | .enableLonghornCa => "ENABLE_LONGHORN_CA"
    | .disableLonghornCa => "DISABLE_LONGHORN_CA"
    | .reconcileLonghornStorageClasses => "RECONCILE_LONGHORN_STORAGE_CLASSES"
    | .deployKubeletCsrApprover => "DEPLOY_KUBELET_CSR_APPROVER"
  zero := .ciliumRestart
  mem_values a := by cases a <;> decide
  nodup_names := by decide

instance : Enum Status where
  values := [.done, .error, .inProgress, .waitForPickup]
  name
    | .done => "DONE"
    | .error => "ERROR"
    | .inProgress => "IN_PROGRESS"
    | .waitForPickup => "WAIT_FOR_PICKUP"
  zero := .done
  mem_values a := by cases a <;> decide
  nodup_names := by decide

instance : Enum ManifestState where
  values := [.pending, .scheduled, .done, .error]
  name
    | .pending => "Pending"
    | .scheduled => "Scheduled"
    | .done => "Done"
    | .error => "Error"
  zero := .pending
  mem_values a := by cases a <;> decide
  nodup_names := by decide

namespace Grpc

inductive Event where
  | unknown
  | create
  | update
  | delete
  deriving DecidableEq

instance : Enum Event where
  values := [.unknown, .create, .update, .delete]
  name
    | .unknown => "UNKNOWN"
    | .create => "CREATE"
    | .update => "UPDATE"
    | .delete => "DELETE"
  zero := .unknown
  mem_values a := by cases a <;> decide
  nodup_names := by decide

abbrev Timestamp := Int

structure SubPass (κ : Type) where
  kind : κ
  description : Option StageDescription
  deriving DecidableEq

structure StageOf (κ : Type) where
  description : Option StageDescription
  subPasses : List (SubPass κ)
  deriving DecidableEq

inductive Stage where
  | unset
  | terraformer (stage : StageOf TerraformerPass)
  | ansibler (stage : StageOf AnsiblerPass)
  | kubeEleven (stage : StageOf KubeElevenPass)
  | kuber (stage : StageOf KuberPass)
  deriving DecidableEq

structure TaskEvent (τ : Type) where
  id : String
  timestamp : Option Timestamp
  event : Event
  task : Option τ
  description : String
  pipeline : List Stage
  currentStage : Nat
  deriving DecidableEq

structure FinishedWorkflow where
  status : Status
  taskDescription : String
  stage : String
  timestamp : Option Timestamp
  deriving DecidableEq

structure Workflow where
  status : Status
  description : String
  previous : List FinishedWorkflow
  ticksUntilRefresh : Int
  deriving DecidableEq

structure Clusters (κ ℓ : Type) where
  k8s : Option κ
  loadBalancers : Option ℓ
  deriving DecidableEq

structure ClusterState (κ ℓ τ : Type) where
  current : Option (Clusters κ ℓ)
  state : Option Workflow
  inFlight : List (TaskEvent τ)
  counters : Option Counters
  deriving DecidableEq

structure Manifest where
  raw : String
  checksum : List UInt8
  lastAppliedChecksum : List UInt8
  state : ManifestState
  stateTimestamp : Option Timestamp
  deriving DecidableEq

structure Config (κ ℓ τ : Type) where
  version : Nat
  name : String
  k8sCtx : Option KubernetesContext
  manifest : Option Manifest
  clusters : GoMap (ClusterState κ ℓ τ)
  deriving DecidableEq

end Grpc

namespace Store

abbrev StageKind := String

namespace StageKind

def terraformer : StageKind := "TERRAFORMER"

def ansibler : StageKind := "ANSIBLER"

def kubeEleven : StageKind := "KUBE_ELEVEN"

def kuber : StageKind := "KUBER"

end StageKind

structure StageDescription where
  about : String
  errorLevel : String
  deriving DecidableEq

structure SubPass where
  kind : String
  description : StageDescription
  deriving DecidableEq

structure Stage where
  kind : StageKind
  description : StageDescription
  subPasses : List SubPass
  deriving DecidableEq

structure TaskEvent where
  id : String
  timestamp : String
  type : String
  task : List UInt8
  description : String
  pipeline : List Stage
  currentStage : Nat
  deriving DecidableEq

structure FinishedWorkflow where
  status : String
  stage : StageKind
  taskDescription : String
  timestamp : String
  deriving DecidableEq

structure Workflow where
  status : String
  description : String
  timestamp : String
  previous : List FinishedWorkflow
  ticksUntilRefresh : Int
  deriving DecidableEq

structure Clusters where
  k8s : List UInt8
  loadBalancers : List UInt8
  deriving DecidableEq

structure ClusterState where
  current : Clusters
  inFlight : List TaskEvent
  state : Workflow
  counters : Counters
  deriving DecidableEq

structure Manifest where
  raw : String
  checksum : List UInt8
  lastAppliedChecksum : List UInt8
  state : String
  stateTimestamp : String
  deriving DecidableEq

structure Config where
  version : Nat
  name : String
  k8sCtx : KubernetesContext
  manifest : Manifest
  clusters : GoMap ClusterState
  deriving DecidableEq

end Store

end Claudie
