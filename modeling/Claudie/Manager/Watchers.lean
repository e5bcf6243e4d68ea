import Claudie.Manager.ProcessTask

/-!
`watchers.go`: what the three loops of the manager do with a config they have listed.
-/

namespace Claudie

-- `ConvertToGRPCClusters`: load balancers without a kubernetes cluster are not read back.
def Clusters.convertToGRPC (c : Clusters) : Clusters :=
  match c.k8s with
  | none => ⟨none, []⟩
  | some _ => c

def ClusterState.convertToGRPC (s : ClusterState) : ClusterState :=
  { s with current := s.current.convertToGRPC }

def validStateTransition : ManifestState → ManifestState → Bool
  | .pending, .pending | .pending, .scheduled => true
  | .scheduled, .scheduled | .scheduled, .done | .scheduled, .error => true
  | .done, .done | .done, .pending => true
  | .error, .error | .error, .pending => true
  | _, _ => false

namespace Manager

structure DesiredCluster where
  k8s : K8scluster
  loadBalancers : List LBcluster
  deriving DecidableEq

def DesiredCluster.clusters (d : DesiredCluster) : Clusters := ⟨some d.k8s, d.loadBalancers⟩

def markedForDeletion (m : ManifestInfo) : Bool :=
  m.raw = "" && m.checksum.isNone && m.state = .pending

-- The clusters built from the text of the manifest are an input, none if it is not valid.
def createDesiredState (fromManifest : Option (GoMap DesiredCluster)) (pending : Config) :
    Option (GoMap Clusters) :=
  if markedForDeletion pending.manifest then some ∅
  else fromManifest.map (fun desired => desired.map (fun _ d => d.clusters))

def applyScheduleResult (pending : Config) (clusters : GoMap ClusterState) :
    ScheduleResult → Option Config
  | .noop => none
  | .notReady => some { pending with clusters }
  | .reschedule => some { pending with clusters, manifest.state := .scheduled }
  | .noReschedule =>
    some { pending with
      clusters
      manifest.state := .scheduled
      manifest.lastAppliedChecksum := pending.manifest.checksum }

def watchForPendingDocuments (inputs : String → ReconcileInput) (fresh : TaskId)
    (fromManifest : Option (GoMap DesiredCluster)) (cfg : Config) : Outcome (Option Config) := do
  let pending := { cfg with clusters := cfg.clusters.map (fun _ s => s.convertToGRPC) }
  match createDesiredState fromManifest pending with
  | none => pure none
  | some desired =>
    if validStateTransition pending.manifest.state .scheduled then
      let (clusters, result) ← reconciliate inputs fresh pending.clusters desired
      pure (applyScheduleResult pending clusters result)
    else pure none

inductive Passes where
  | terraformer (subPasses : List (SubPass TerraformerPass))
  | ansibler (subPasses : List (SubPass AnsiblerPass))
  | kubeEleven (subPasses : List (SubPass KubeElevenPass))
  | kuber (subPasses : List (SubPass KuberPass))
  deriving DecidableEq

def Stage.passes : Stage → Passes
  | .terraformer _ ps => .terraformer ps
  | .ansibler _ ps => .ansibler ps
  | .kubeEleven _ ps => .kubeEleven ps
  | .kuber _ ps => .kuber ps

def Stage.passTexts : Stage → List String
  | .terraformer _ ps => ps.map (·.description.about)
  | .ansibler _ ps => ps.map (·.description.about)
  | .kubeEleven _ ps => ps.map (·.description.about)
  | .kuber _ ps => ps.map (·.description.about)

structure WorkMessage where
  inputManifest : String
  cluster : String
  taskID : TaskId
  stage : Nat
  -- the subject the message is published to.
  subject : StageKind
  task : Task
  passes : Passes
  deriving DecidableEq

-- The id under which JetStream recognises duplicates.
def WorkMessage.msgID (m : WorkMessage) : TaskId × StageKind × Nat := (m.taskID, m.subject, m.stage)

def messageForStage (inputManifest cluster : String) (te : TaskEvent) :
    Outcome (WorkMessage × String) := do
  let stage ← Outcome.deref te.pipeline[te.currentStage]?
  pure
    ({ inputManifest
       cluster
       taskID := te.id
       stage := te.currentStage
       subject := stage.kind
       task := te.task
       passes := Stage.passes stage },
     (Stage.passTexts stage).foldl (fun text about => text ++ "\n  - " ++ about)
       stage.description.about)

inductive ScheduledStep where
  | finished (anyError : Bool)
  | noWork (state : ClusterState)
  | publish (msg : WorkMessage) (state : ClusterState)
  | inProgress

def scheduledStep (inputManifest cluster : String) (state : ClusterState) :
    Outcome ScheduledStep :=
  match state.state.status with
  | .done => pure (.finished false)
  | .error => pure (.finished true)
  | status =>
    match state.inFlight with
    | [] => pure (.noWork { state with state := { state.state with status := .done, description := "" } })
    | te :: _ =>
      if te.pipeline.length < 1 || te.currentStage > te.pipeline.length then
        pure (.noWork
          { state with
            inFlight := []
            state := { state.state with status := .done, description := "" } })
      else if status = .waitForPickup then do
        let (msg, description) ← messageForStage inputManifest cluster te
        let description := te.description ++ "\n- " ++ description
        pure (.publish msg
          { state with state := { state.state with status := .inProgress, description } })
      else pure .inProgress

def finishScheduled (scheduled : Config) (anyError : Bool) : Option Config :=
  let state := if anyError then .error else .done
  if validStateTransition scheduled.manifest.state state then
    some { scheduled with manifest.state := state }
  else none

inductive IdleStep where
  | update (idle : Config)
  | delete
  | nothing

def ClusterState.isEmpty (s : ClusterState) : Bool := s.current.isEmpty && s.inFlight.isEmpty

def watchForDoneOrErrorDocuments (idle : Config) : IdleStep :=
  if idle.manifest.lastAppliedChecksum ≠ idle.manifest.checksum then
    if validStateTransition idle.manifest.state .pending then
      .update { idle with
        manifest.state := .pending
        clusters := idle.clusters.filter (fun _ s => !ClusterState.isEmpty s) }
    else .nothing
  else if idle.manifest.state = .done && idle.manifest.checksum.isNone
      && idle.manifest.lastAppliedChecksum.isNone then .delete
  else .nothing

end Manager

end Claudie
