import Claudie.Manager.Reconcile
import Claudie.Spec.Consume

/-!
`process_task.go`: what the result of a worker changes in the config it belongs to.
-/

namespace Claudie

inductive StageKind where
  | terraformer
  | ansibler
  | kubeEleven
  | kuber
  deriving DecidableEq

def StageKind.toString : StageKind → String
  | .terraformer => "TERRAFORMER"
  | .ansibler => "ANSIBLER"
  | .kubeEleven => "KUBE_ELEVEN"
  | .kuber => "KUBER"

namespace Stage

def kind : Stage → StageKind
  | .terraformer .. => .terraformer
  | .ansibler .. => .ansibler
  | .kubeEleven .. => .kubeEleven
  | .kuber .. => .kuber

def description : Stage → StageDescription
  | .terraformer d _ | .ansibler d _ | .kubeEleven d _ | .kuber d _ => d

end Stage

namespace Manager

structure Work where
  inputManifest : String
  cluster : String
  taskID : TaskId
  taskStage : Nat
  stage : StageKind
  result : TaskResult
  deriving DecidableEq

def previouslyCachedWorkflowResults : Nat := 3

def Workflow.cacheResult (w : Workflow) (status : Status) (stage : Stage) : Workflow :=
  let previous :=
    if w.previous.length ≥ previouslyCachedWorkflowResults then w.previous.drop 1 else w.previous
  { w with previous := previous ++ [⟨status, w.description, stage.kind.toString⟩] }

def Counters.scaleUpFailed (counters : Counters) (nodepool : String) : Counters :=
  ⟨counters.k8sNodePoolScaleUpFailed.insert nodepool
    (counters.k8sNodePoolScaleUpFailed.getD nodepool 0 + 1)⟩

def Counters.remove (counters : Counters) (nodepool : String) : Counters :=
  ⟨counters.k8sNodePoolScaleUpFailed.erase nodepool⟩

-- Whether nodes were to be added to an autoscaled nodepool of the cluster.
def isScaleUp (state : Clusters) (nodepool : String) (hasNodes : Bool) : Outcome Bool := do
  let k8s ← Outcome.deref state.k8s
  match NodePools.findByName nodepool k8s.clusterInfo.nodePools with
  | some np => pure (NodePools.isAutoscaled np && hasNodes)
  | none => pure false

def populateTaskErrorCounters (task : Task) (counters : Counters) : Outcome Counters :=
  match task with
  -- failed in terraformer.
  | .update state (.tfAddK8sNodes (.existing nodepool nodes)) => do
    if ← isScaleUp state nodepool (!nodes.isEmpty) then
      pure (Counters.scaleUpFailed counters nodepool)
    else pure counters
  -- failed somewhere after terraformer.
  | .update state (.addedK8sNodes _ nodepool nodes) => do
    if ← isScaleUp state nodepool (!nodes.isEmpty) then
      pure (Counters.scaleUpFailed counters nodepool)
    else pure counters
  | _ => pure counters

-- A task that has failed already was counted then.
def errorCounters (state : ClusterState) (task : Task) : Outcome Counters :=
  if state.state.status = .error then pure state.counters
  else populateTaskErrorCounters task state.counters

def populateTaskSuccessCounters (task : Task) (counters : Counters) : Outcome Counters :=
  match task with
  | .update _ (.addedK8sNodes _ nodepool _) => pure (Counters.remove counters nodepool)
  | .update _ (.deletedK8sNodes _ (.wholeNodePool np)) => do
    let np ← Outcome.deref np
    pure (Counters.remove counters np.name)
  | .update _ (.tfMoveNodePoolFromAutoscaled nodepool) => pure (Counters.remove counters nodepool)
  | .update _ (.movedNodePoolFromAutoscaled nodepool _) => pure (Counters.remove counters nodepool)
  | _ => pure counters

-- The finished head of the chain hands its state down to the next task, or makes it the current one.
def propagateInFlightState (state : ClusterState) (te : TaskEvent) (lower : List TaskEvent) :
    Outcome ClusterState := do
  let counters ← populateTaskSuccessCounters te.task state.counters
  match lower with
  | next :: rest =>
    pure { state with
      counters
      inFlight := TaskEvent.mapClusters next (fun _ => te.task.clusters) :: rest }
  | [] => pure { state with counters, current := te.task.clusters, inFlight := [] }

def advanceToNextStage (state : ClusterState) (te : TaskEvent) (lower : List TaskEvent) :
    Outcome ClusterState :=
  match te.pipeline[te.currentStage + 1]? with
  | some stage =>
    pure { state with
      inFlight := { te with currentStage := te.currentStage + 1 } :: lower
      state := { state.state with status := .waitForPickup, description := stage.description.about } }
  | none => do
    let state ← propagateInFlightState state te lower
    pure { state with state := { state.state with status := .done, description := "" } }

def propagateResult (te : TaskEvent) (result : ResultKind) : Outcome TaskEvent := do
  let task ← te.task.consumeResult result
  pure { te with task }

-- A result that can't be merged makes the same task start over under a new id.
def rescheduleUnderNewID (state : ClusterState) (te : TaskEvent) (lower : List TaskEvent)
    (newUUID : TaskId) : ClusterState :=
  ClusterState.waitForPickup { state with inFlight := { te with id := newUUID } :: lower }

def processTaskWithError (state : ClusterState) (te : TaskEvent) (lower : List TaskEvent)
    (stage : Stage) (kind : ErrorKind) (description : String) (result : ResultKind)
    (newUUID : TaskId) : Outcome ClusterState := do
  let counters ← errorCounters state te.task
  let workflow := Workflow.cacheResult state.state .error stage
  let state := { state with counters, state := { workflow with status := .error, description } }
  let merged := if kind = .partialChange then propagateResult te result else pure te
  match merged with
  | .error .panic => .error .panic
  | .error (.error _) => pure (rescheduleUnderNewID state te lower newUUID)
  | .ok te =>
    if stage.description.errorLevel = .warn then advanceToNextStage state te lower
    else pure { state with inFlight := te :: lower }

def processTaskWithoutError (state : ClusterState) (te : TaskEvent) (lower : List TaskEvent)
    (stage : Stage) (result : ResultKind) (newUUID : TaskId) : Outcome ClusterState :=
  match propagateResult te result with
  | .error .panic => .error .panic
  | .error (.error _) => pure (rescheduleUnderNewID state te lower newUUID)
  | .ok te =>
    advanceToNextStage { state with state := Workflow.cacheResult state.state .done stage } te lower

-- The change to the cluster entry, none if the message is ignored.
def processTaskOfCluster (work : Work) (newUUID : TaskId) (state : ClusterState) :
    Outcome (Option ClusterState) :=
  match state.inFlight with
  | [] => pure none
  | te :: lower =>
    if te.id ≠ work.taskID then pure none
    else if te.currentStage ≠ work.taskStage then pure none
    else do
      let stage ← Outcome.deref te.pipeline[te.currentStage]?
      if stage.kind ≠ work.stage then pure none
      else
        match work.result.error with
        | some (kind, description) =>
          some <$> processTaskWithError state te lower stage kind description work.result.result
            newUUID
        | none => some <$> processTaskWithoutError state te lower stage work.result.result newUUID

def processTask (work : Work) (newUUID : TaskId) (im : Config) : Outcome (Option Config) :=
  match im.clusters[work.cluster]? with
  | none => pure none
  | some state => do
    match ← processTaskOfCluster work newUUID state with
    | none => pure none
    | some state => pure (some { im with clusters := im.clusters.insert work.cluster state })

end Manager

end Claudie
