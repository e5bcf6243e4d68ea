import Claudie.Manager.Diff

/-!
`reconciliate_other.go`: the tasks that create, delete or refresh a whole cluster.
-/

namespace Claudie

namespace Manager

def fatal (about : String) : StageDescription := ⟨about, .fatal⟩

def warn (about : String) : StageDescription := ⟨about, .warn⟩

def updateEvent (id : TaskId) (state : Clusters) (delta : Delta) (description : String)
    (pipeline : List Stage) : TaskEvent :=
  { id, event := .update, task := .update state delta, description, pipeline, currentStage := 0 }

def proxyForPackageManagerPass : SubPass AnsiblerPass :=
  ⟨.updateProxyEnvsOnNodes, fatal ("Updating HttpProxy,NoProxy environment variables to be used "
    ++ "by the package manager")⟩

def proxyForPrivateAddressesPass : SubPass AnsiblerPass :=
  ⟨.updateProxyEnvsOnNodes, fatal ("Updating HttpProxy,NoProxy environment variables, after "
    ++ "populating private addresses on nodes")⟩

def commitProxyPass : SubPass AnsiblerPass :=
  ⟨.commitProxyEnvs, fatal "Committing proxy environment variables"⟩

def createPipeline (k8s : K8scluster) (lbs : List LBcluster) (isCreate : Bool) : List Stage :=
  let tf : Stage := .terraformer (fatal "Creating infrastructure for the new cluster")
    [⟨.buildInfrastructure, fatal "Building desired state infrastructure"⟩]
  let tfUpdate : Stage := .terraformer (fatal "Refreshing infrastructure for the cluster")
    [⟨.updateInfrastructure, fatal "Building desired state infrastructure"⟩]
  let requirements : SubPass AnsiblerPass :=
    ⟨.installNodeRequirements, fatal "Installing pre-requisites on all of the nodes of the cluster"⟩
  let vpn : SubPass AnsiblerPass :=
    ⟨.installVpn,
      fatal "Setting up VPN across the nodes of the kuberentes and loadbalancer clusters"⟩
  let envoy : SubPass AnsiblerPass :=
    ⟨.reconcileLoadbalancers, fatal "Reconciling Envoy service across the loadbalancer nodes"⟩
  let ansProxy : Stage := .ansibler (fatal "Configuring cluster infrastructure")
    ([proxyForPackageManagerPass,
      requirements, vpn,
      proxyForPrivateAddressesPass,
      envoy]
      ++ if isCreate then []
        else [⟨.commitProxyEnvs, fatal "Committing updated proxy environment variables"⟩])
  let ansNoProxy : Stage := .ansibler (fatal "Configuring cluster infrastructure")
    [requirements, vpn, envoy]
  let kubeeleven : Stage := .kubeEleven (fatal "Reconciling kubernetes cluster")
    [⟨.reconcileCluster, fatal "Creating kubernetes cluster from the set up infrastructure"⟩]
  let kuber : Stage := .kuber (fatal "Configuring cluster")
    ([⟨.deployKubeletCsrApprover, warn "Deploying kubelet csr-approver"⟩,
      ⟨.patchNodes, fatal "Patching nodes"⟩,
      ⟨.deployLonghorn, fatal "Deploying longhorn for storage"⟩,
      ⟨.reconcileLonghornStorageClasses, warn "Reconciling longhorn claudie storage classes"⟩]
      ++ (if (NodePools.autoscaled k8s.clusterInfo.nodePools).isEmpty then []
        else [⟨.enableLonghornCa, fatal "Enabling cluster-autoscaler support in longhorn"⟩])
      ++ (if lbs.isEmpty then []
        else [⟨.storeLbScrapeConfig, warn "Storing scrape config for loadbalancers"⟩]))
  [if isCreate then tf else tfUpdate, if usesProxy k8s then ansProxy else ansNoProxy, kubeeleven,
    kuber]

def scheduleCreateCluster (id : TaskId) (desired : Clusters) : Outcome TaskEvent := do
  let k8s ← Outcome.deref desired.k8s
  pure
    { id
      event := .create
      task := .create desired
      description := "creating cluster"
      pipeline := createPipeline k8s desired.loadBalancers true
      currentStage := 0 }

def scheduleDeleteCluster (id : TaskId) (current : Clusters) : Outcome TaskEvent := do
  let k8s ← Outcome.deref current.k8s
  -- the infrastructure is destroyed even if the static nodes are no longer reachable.
  let ke : Stage := .kubeEleven (warn "Destroying kubernetes cluster and related binaries")
    [⟨.destroyCluster, fatal "Tearing down kuberentes cluster"⟩]
  let ans : Stage := .ansibler (warn "Removing claudie installed utilities across nodes")
    [⟨.removeClaudieUtilities, warn "Removing claudie installed utilities"⟩]
  let tf : Stage := .terraformer (fatal "Destroying infrastructure of the cluster")
    [⟨.destroyInfrastructure, fatal "Destroying current state"⟩]
  let static := NodePools.static k8s.clusterInfo.nodePools
  pure
    { id
      event := .delete
      task := .delete current
      description := "deleting cluster and its attached loadbalancers"
      pipeline := (if static.isEmpty then [] else [ke, ans]) ++ [tf]
      currentStage := 0 }

def scheduleRefreshVPN (id : TaskId) (usesProxy : Bool) (current : Clusters) : TaskEvent :=
  let about := "Configuring infrastructure, after drift detection"
  let vpn : SubPass AnsiblerPass :=
    ⟨.installVpn,
      fatal "Fixing drift in VPN across nodes of the kuberentes and loadbalancer clusters"⟩
  let ans : Stage := .ansibler (fatal about) [vpn]
  let ansProxy : Stage := .ansibler (fatal about)
    [proxyForPackageManagerPass,
      vpn,
      proxyForPrivateAddressesPass,
      commitProxyPass]
  updateEvent id current .none "Refreshing VPN" [if usesProxy then ansProxy else ans]

def scheduleRefreshInfrastructure (id : TaskId) (current : Clusters) : Outcome TaskEvent := do
  let k8s ← Outcome.deref current.k8s
  pure (updateEvent id current .none "Refreshing infrastructure to match current state"
    (createPipeline k8s current.loadBalancers false))

end Manager

end Claudie
