import Claudie.Kuber.DeleteNodes
import Claudie.Manager.Schedule.Kubernetes
import Claudie.Terraformer.Destroy

/-!
Tasks that are executed to completion: each stage succeeds and its result is merged into the task
before the next stage starts.
-/

namespace Claudie

namespace Kuber

def longhornCA : KuberPass → Bool → Bool
  | .enableLonghornCa, _ => true
  | .disableLonghornCa, _ => false
  | _, enabled => enabled

end Kuber

def NodePool.shape (np : NodePool) : String × Bool := (np.name, NodePools.isAutoscaled np)

def Clusters.shape (c : Clusters) : List (String × Bool) := c.kubernetesNodePools.map NodePool.shape

namespace Manager

/--
What the services do in a stage. Apart from the terraformer and the deletion of nodes from the tracked
state, they change the nodes of the clusters but not their nodepools.
-/
structure Workers where
  infra : Terraformer.Infrastructure
  configure : Stage → Clusters → Clusters
  keeps : ∀ stage c, (configure stage c).shape = c.shape

namespace Workers

def configured (w : Workers) (stage : Stage) (t : Task) : Task :=
  t.replaceClusters (w.configure stage t.clusters)

def runStage (w : Workers) (stage : Stage) (t : Task) : Outcome Task :=
  match stage with
  | .terraformer _ subPasses => do
    let result ← Terraformer.processTask w.infra t subPasses
    match result.error with
    | some (_, description) => .error (.error description)
    | none => t.consumeResult result.result
  | .kuber _ subPasses =>
    if subPasses.any (·.kind = .deleteNodes) then do
      match ← Kuber.deleteNodes t with
      | some k8s => t.consumeUpdateResult (some k8s) (some [])
      | none => pure (w.configured stage t)
    else pure (w.configured stage t)
  | _ => pure (w.configured stage t)

def runStages (w : Workers) (stages : List Stage) (t : Task) : Outcome Task :=
  stages.foldlM (fun t stage => w.runStage stage t) t

end Workers

def Stage.longhornCA (stage : Stage) (enabled : Bool) : Bool :=
  match stage with
  | .kuber _ subPasses =>
    subPasses.foldl (fun enabled pass => Kuber.longhornCA pass.kind enabled) enabled
  | _ => enabled

def pipelineCA (stages : List Stage) (enabled : Bool) : Bool :=
  stages.foldl (fun enabled stage => Stage.longhornCA stage enabled) enabled

def execute (w : Workers) (te : TaskEvent) (enabled : Bool) : Outcome (Bool × Clusters) := do
  let t ← w.runStages te.pipeline te.task
  pure (pipelineCA te.pipeline enabled, t.clusters)

end Manager

end Claudie
