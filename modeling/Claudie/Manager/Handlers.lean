import Claudie.Manager.Watchers

/-!
The requests that change a config: `UpsertManifest`, `MarkForDeletion`, `MarkNodeForDeletion` and
`NodePoolUpdateTargetSize`.
-/

namespace Claudie

namespace Manager

structure Manifest where
  name : String
  staticEndpoints : List String
  deriving DecidableEq

structure Env where
  digest : String → BitVec 256
  unmarshal : String → Option Manifest

structure UpsertManifestRequest where
  name : String
  k8sCtx : KubernetesContext
  raw : String
  state : ManifestState
  deriving DecidableEq

def UpsertManifestRequest.isValid (r : UpsertManifestRequest) : Bool := r.name ≠ "" && r.raw ≠ ""

def UpsertManifestRequest.checksum (env : Env) (r : UpsertManifestRequest) : Checksum :=
  some (env.digest r.raw)

-- The config `CreateConfig` inserts, which is pending whatever the request says.
def UpsertManifestRequest.newConfig (env : Env) (r : UpsertManifestRequest) : Config :=
  { version := 0
    name := r.name
    k8sCtx := r.k8sCtx
    manifest := ⟨r.raw, r.checksum env, none, .pending⟩
    clusters := ∅ }

def UpsertManifestRequest.apply (env : Env) (r : UpsertManifestRequest) (cfg : Config) : Config :=
  if cfg.manifest.checksum ≠ r.checksum env then
    { cfg with
      manifest.raw := r.raw
      manifest.checksum := r.checksum env
      k8sCtx := r.k8sCtx }
  else cfg

def validateStaticNodePools (env : Env) (m : Manifest) (allConfigs : List Config) : Bool :=
  allConfigs.all (fun cfg =>
    cfg.name = m.name ||
      match env.unmarshal cfg.manifest.raw with
      | none => false
      | some other => !m.staticEndpoints.any (other.staticEndpoints.contains ·))

def UpsertManifestRequest.validate (env : Env) (r : UpsertManifestRequest)
    (allConfigs : List Config) : Bool :=
  match env.unmarshal r.raw with
  | none => false
  | some m => validateStaticNodePools env m allConfigs

def markForDeletion (env : Env) (cfg : Config) : Config :=
  { cfg with
    version := cfg.version + 1
    manifest.raw := ""
    manifest.checksum := none
    -- so that a repeated deletion triggers the process again.
    manifest.lastAppliedChecksum := some (env.digest "delete") }

structure NodePoolRef where
  config : String
  cluster : String
  loadbalancer : Option String
  nodepool : String
  deriving DecidableEq

def NodePoolRef.isValid (r : NodePoolRef) : Bool :=
  r.config ≠ "" && r.cluster ≠ "" && r.nodepool ≠ ""

def notFoundNodePool (r : NodePoolRef) : Fault :=
  .error s!"specified nodepool {quoted r.nodepool} not found within config {quoted r.config}"

def modifyNodePool (r : NodePoolRef) (f : NodePool → Outcome NodePool) (nps : List NodePool) :
    Outcome (List NodePool) :=
  if (NodePools.findByName r.nodepool nps).isSome then NodePools.modifyByName r.nodepool f nps
  else .error (notFoundNodePool r)

def modifyCurrentNodePool (r : NodePoolRef) (f : NodePool → Outcome NodePool) (cs : ClusterState) :
    Outcome ClusterState :=
  match cs.current.k8s, cs.inFlight with
  | none, _ =>
    .error (.error s!"no cluster {quoted r.cluster} found within config {quoted r.config}")
  | some _, _ :: _ => .error (.error "cluster has on going changes, try again later")
  | some k8s, [] =>
    match r.loadbalancer with
    | none => do
      let nps ← modifyNodePool r f k8s.clusterInfo.nodePools
      pure { cs with current.k8s := some (K8scluster.withNodePools k8s nps) }
    | some lb => do
      match Clusters.indexLoadbalancerById lb cs.current.loadBalancers with
      | none =>
        .error (.error (s!"no loadbalancer {quoted lb} attached to cluster {quoted r.cluster}, "
          ++ s!"config {quoted r.config}"))
      | some idx =>
        let lbs ← modifyLoadBalancerAt cs.current.loadBalancers idx (modifyNodePool r f)
        pure { cs with current.loadBalancers := lbs }

def modifyConfigNodePool (r : NodePoolRef) (f : NodePool → Outcome NodePool) (cfg : Config) :
    Outcome Config :=
  match cfg.clusters[r.cluster]? with
  | none =>
    .error (.error s!"no cluster {quoted r.cluster} found within config {quoted r.config}")
  | some cs => do
    let cs ← modifyCurrentNodePool r f cs
    pure { cfg with clusters := cfg.clusters.insert r.cluster cs }

structure MarkNodeForDeletionRequest where
  ref : NodePoolRef
  node : String
  shouldDecrementDesiredCapacity : Bool
  deriving DecidableEq

def decrementTargetSize (nodepool : String) (conf : AutoscalerConf) : Outcome AutoscalerConf :=
  if conf.targetSize - 1 < conf.min then
    .error (.error (s!"decreasing the desired capacity for the autoscaled nodepool "
      ++ s!"{quoted nodepool} would result in a lower value than the allowed Minimum value"))
  else pure { conf with targetSize := conf.targetSize - 1 }

def markNode (r : MarkNodeForDeletionRequest) (np : NodePool) : Outcome NodePool :=
  match np.nodes.findIdx? (·.name = r.node) with
  | none =>
    .error (.error (s!"specified node {quoted r.node} not found within nodepool "
      ++ s!"{quoted r.ref.nodepool} in config {quoted r.ref.config}"))
  | some i => do
    let nodes := np.nodes.modify i (fun n => { n with status := .markedForDeletion })
    match np.type with
    | .dynamic d =>
      match d.autoscalerConfig, r.shouldDecrementDesiredCapacity with
      | some conf, true =>
        let conf ← decrementTargetSize r.ref.nodepool conf
        pure { np with nodes, type := .dynamic { d with autoscalerConfig := some conf } }
      | _, _ => pure { np with nodes }
    | .static _ => pure { np with nodes }

def markNodeForDeletion (r : MarkNodeForDeletionRequest) (cfg : Config) : Outcome Config :=
  modifyConfigNodePool r.ref (markNode r) cfg

structure UpdateTargetSizeRequest where
  ref : NodePoolRef
  targetSize : Int
  deriving DecidableEq

def setTargetSize (targetSize : Int) (np : NodePool) : Outcome NodePool :=
  match np.type with
  | .dynamic d =>
    match d.autoscalerConfig with
    | some conf =>
      if targetSize < conf.min then
        .error (.error (s!"new target size {targetSize} is lower than the "
          ++ s!"[{conf.min}, {conf.max}] range of the autoscaler"))
      else if targetSize > conf.max then
        .error (.error (s!"new target size {targetSize} is higher than the "
          ++ s!"[{conf.min}, {conf.max}] range of the autoscaler"))
      else
        pure { np with
          type := .dynamic { d with autoscalerConfig := some { conf with targetSize } } }
    | none => pure np
  | .static _ => pure np

def nodePoolUpdateTargetSize (r : UpdateTargetSizeRequest) (cfg : Config) : Outcome Config :=
  modifyConfigNodePool r.ref (setTargetSize r.targetSize) cfg

end Manager

end Claudie
