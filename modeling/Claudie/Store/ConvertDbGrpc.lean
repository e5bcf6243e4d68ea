import Claudie.Lib.Rfc3339
import Claudie.Store.Api

/-!
`convert_db_grpc.go`: the conversions between the two representations of a config.
-/

namespace Claudie

namespace Store

open Protobuf (Enum Message marshal)

variable {κ ℓ τ : Type} [Message κ] [Message ℓ] [Message τ]

section stages

variable {π : Type} [Enum π]

def toDescription (d : StageDescription) : Claudie.StageDescription :=
  ⟨d.about, Enum.value d.errorLevel⟩

-- The getters of an absent description return the empty text and the level with the number 0.
def fromDescription (d : Option Claudie.StageDescription) : StageDescription :=
  ⟨(d.map (·.about)).getD "", Enum.name ((d.map (·.errorLevel)).getD Enum.zero)⟩

def toSubPass (p : SubPass) : Grpc.SubPass π :=
  ⟨Enum.value p.kind, some (toDescription p.description)⟩

def fromSubPass (p : Grpc.SubPass π) : SubPass := ⟨Enum.name p.kind, fromDescription p.description⟩

def toStageOf (dbStage : Stage) : Grpc.StageOf π :=
  ⟨some (toDescription dbStage.description), dbStage.subPasses.map toSubPass⟩

def fromStageOf (kind : StageKind) (stage : Grpc.StageOf π) : Stage :=
  ⟨kind, fromDescription stage.description, stage.subPasses.map fromSubPass⟩

end stages

def convertToGRPCStage (dbStage : Stage) : Outcome Grpc.Stage :=
  if dbStage.kind = StageKind.ansibler then pure (.ansibler (toStageOf dbStage))
  else if dbStage.kind = StageKind.kubeEleven then pure (.kubeEleven (toStageOf dbStage))
  else if dbStage.kind = StageKind.kuber then pure (.kuber (toStageOf dbStage))
  else if dbStage.kind = StageKind.terraformer then pure (.terraformer (toStageOf dbStage))
  else .error (.error ("unrecognized stage kind " ++ dbStage.kind))

def convertToGRPCStages (stages : List Stage) : Outcome (List Grpc.Stage) :=
  stages.mapM convertToGRPCStage

def convertFromGRPCStage : Grpc.Stage → Outcome Stage
  | .ansibler stage => pure (fromStageOf StageKind.ansibler stage)
  | .kubeEleven stage => pure (fromStageOf StageKind.kubeEleven stage)
  | .kuber stage => pure (fromStageOf StageKind.kuber stage)
  | .terraformer stage => pure (fromStageOf StageKind.terraformer stage)
  | .unset => .error (.error "task contains pipeline stage with unknown kind: <nil>")

def convertFromGRPCStages (stages : List Grpc.Stage) : Outcome (List Stage) :=
  stages.mapM convertFromGRPCStage

-- An absent timestamp is read as the one of 0 seconds.
def formatTimestamp (t : Option Grpc.Timestamp) : String := Rfc3339.format (t.getD 0)

def parseTimestamp (text : String) : Outcome Grpc.Timestamp :=
  match Rfc3339.parse text with
  | some t => pure t
  -- `time.Parse` goes on to name the part of the text that it could not read.
  | none => .error (.error ("parsing time " ++ text))

def convertFromGRPCTaskEvent : List (Grpc.TaskEvent τ) → Outcome (List TaskEvent)
  | [] => pure []
  | te :: lower => do
    let lowerPriority ← convertFromGRPCTaskEvent lower
    let pipeline ← convertFromGRPCStages te.pipeline
    pure
      ({ id := te.id
         timestamp := formatTimestamp te.timestamp
         type := Enum.name te.event
         task := marshal te.task
         description := te.description
         pipeline
         currentStage := te.currentStage } :: lowerPriority)

def convertToGRPCTaskEvent : List TaskEvent → Outcome (List (Grpc.TaskEvent τ))
  | [] => pure []
  | te :: lower => do
    let lowerPriority ← convertToGRPCTaskEvent lower
    let task ← Message.unmarshal te.task
    let t ← parseTimestamp te.timestamp
    let pipeline ← convertToGRPCStages te.pipeline
    pure
      ({ id := te.id
         timestamp := some t
         event := Enum.value te.type
         task := some task
         description := te.description
         pipeline
         currentStage := te.currentStage } :: lowerPriority)

def convertFromGRPCWorkflow (now : Grpc.Timestamp) (w : Grpc.Workflow) : Workflow where
  status := Enum.name w.status
  description := w.description
  timestamp := Rfc3339.format now
  previous := w.previous.map (fun p =>
    { status := Enum.name p.status
      stage := p.stage
      taskDescription := p.taskDescription
      timestamp := formatTimestamp p.timestamp })
  ticksUntilRefresh := w.ticksUntilRefresh

def convertToGRPCWorkflow (w : Workflow) : Grpc.Workflow where
  status := Enum.value w.status
  description := w.description
  previous := w.previous.map (fun p =>
    { status := Enum.value p.status
      taskDescription := p.taskDescription
      stage := p.stage
      timestamp := Rfc3339.parse p.timestamp })
  ticksUntilRefresh := w.ticksUntilRefresh

def convertToGRPCClusters (cluster : Clusters) : Outcome (Grpc.Clusters κ ℓ) := do
  if cluster.k8s = [] then pure ⟨none, some Message.empty⟩
  else
    let k8s ← Outcome.wrap "failed to unmarshall kuberentes cluster: "
      (Message.unmarshal cluster.k8s)
    if cluster.loadBalancers = [] then pure ⟨some k8s, some Message.empty⟩
    else
      let lbs ← Outcome.wrap "failed to unmarshall load balancer clusters: "
        (Message.unmarshal cluster.loadBalancers)
      pure ⟨some k8s, some lbs⟩

def convertFromGRPCClusters (cluster : Option (Grpc.Clusters κ ℓ)) : Clusters where
  k8s := marshal (cluster.bind (·.k8s))
  loadBalancers := marshal (cluster.bind (·.loadBalancers))

def convertToGRPCClusterState (cluster : ClusterState) : Outcome (Grpc.ClusterState κ ℓ τ) := do
  let inFlight ← Outcome.wrap "failed to convert db events back to grpc representation: "
    (convertToGRPCTaskEvent cluster.inFlight)
  let current ← Outcome.wrap "failed to convert db clusters back to grpc representation: "
    (convertToGRPCClusters cluster.current)
  pure
    { current := some current
      state := some (convertToGRPCWorkflow cluster.state)
      inFlight
      counters := some cluster.counters }

def convertFromGRPCClusterState (now : Grpc.Timestamp) (cluster : Grpc.ClusterState κ ℓ τ) :
    Outcome ClusterState := do
  let task ← Outcome.wrap "failed to convert task to database representation: "
    (convertFromGRPCTaskEvent cluster.inFlight)
  let state ← Outcome.deref cluster.state
  pure
    { current := convertFromGRPCClusters cluster.current
      inFlight := task
      state := convertFromGRPCWorkflow now state
      counters := cluster.counters.getD ⟨∅⟩ }

def convertFromGRPC (ord : MapOrder) (now : String → Grpc.Timestamp) (cfg : Grpc.Config κ ℓ τ) :
    Outcome Config := do
  let clusters ← ord.traverse "ConvertFromGRPC"
    (fun k8sName cluster => convertFromGRPCClusterState (now k8sName) cluster) cfg.clusters
  pure
    { version := cfg.version
      name := cfg.name
      k8sCtx :=
        { name := (cfg.k8sCtx.map (·.name)).getD ""
          namespaceName := (cfg.k8sCtx.map (·.namespaceName)).getD "" }
      manifest :=
        { raw := (cfg.manifest.map (·.raw)).getD ""
          checksum := (cfg.manifest.map (·.checksum)).getD []
          lastAppliedChecksum := (cfg.manifest.map (·.lastAppliedChecksum)).getD []
          state := Enum.name ((cfg.manifest.map (·.state)).getD Enum.zero)
          stateTimestamp := formatTimestamp (cfg.manifest.bind (·.stateTimestamp)) }
      clusters }

def convertToGRPC (ord : MapOrder) (cfg : Config) : Outcome (Grpc.Config κ ℓ τ) := do
  let clusters ← ord.traverse "ConvertToGRPC" (fun _ cluster => convertToGRPCClusterState cluster)
    cfg.clusters
  pure
    { version := cfg.version
      name := cfg.name
      k8sCtx := some cfg.k8sCtx
      manifest := some
        { raw := cfg.manifest.raw
          checksum := cfg.manifest.checksum
          lastAppliedChecksum := cfg.manifest.lastAppliedChecksum
          state := Enum.value cfg.manifest.state
          stateTimestamp := Rfc3339.parse cfg.manifest.stateTimestamp }
      clusters }

end Store

end Claudie
