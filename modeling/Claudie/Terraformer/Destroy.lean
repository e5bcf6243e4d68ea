import Claudie.Terraformer.Update

/-!
`task_destroy_infrastructure.go` of the terraformer service, and the passes of a task.
-/

namespace Claudie

namespace Terraformer

structure Remote where
  dnsRecords : Bool
  stateFile : Bool
  dnsStateFile : Bool
  deriving DecidableEq

/--
The outcomes of the calls made to destroy a cluster: an error, or none. Whether a state file could be
deleted is only logged.
-/
structure Teardown where
  stat : Option String
  destroyNodepools : Option String
  destroyDNSRecords : Option String
  deleteStateFile : Bool
  removeTemplates : Option String
  deleteDnsStateFile : Bool
  removeDnsTemplates : Option String

def publicEndpoints (nps : List NodePool) : List String :=
  nps.flatMap (fun np => np.nodes.map (·.publicIp))

def destroyDNSRecords (t : Teardown) (r : Remote) : Remote × Option String :=
  match t.destroyDNSRecords with
  | some e => (r, some e)
  | none => ({ r with dnsRecords := false }, none)

-- The nodes and the dns records are destroyed side by side; both are waited for.
def LBcluster.destroy (t : Teardown) (lb : LBcluster) (r : Remote) : Remote × Option String :=
  let emptycount := (publicEndpoints lb.clusterInfo.nodePools).countP (· = "")
  let (r, err) :=
    match lb.dns with
    | none => (r, none)
    | some _ =>
      -- the dns records are assumed not to have been built.
      if emptycount > 1 then (r, none) else destroyDNSRecords t r
  (r, t.destroyNodepools <|> err)

def K8scluster.destroy (t : Teardown) (k8s : K8scluster) (r : Remote) : Remote × Option String :=
  (r, t.destroyNodepools.map
    (fun e => s!"error while destroying the K8s cluster {k8s.clusterInfo.name} : {e}"))

def Cluster.destroy (t : Teardown) : Cluster → Remote → Remote × Option String
  | .kubernetes k8s => K8scluster.destroy t k8s
  | .loadBalancer lb => LBcluster.destroy t lb

def deleteDnsState (t : Teardown) (cluster : Cluster) (r : Remote) : Remote × Option String :=
  match cluster with
  | .kubernetes _ => (r, none)
  | .loadBalancer _ =>
    ({ r with dnsStateFile := r.dnsStateFile && !t.deleteDnsStateFile },
      t.removeDnsTemplates.map (fun e => "failed to delete dns templates for cluster "
        ++ s!"{quoted cluster.id}: {e}"))

def destroyCluster (t : Teardown) (cluster : Cluster) (r : Remote) : Remote × Option String :=
  match t.stat with
  | some e => (r, some s!"failed to check existence of state file for {quoted cluster.id}: {e}")
  | none =>
    -- without a state file the infrastructure is assumed to be deleted.
    if !r.stateFile then (r, none)
    else
      match cluster.destroy t r with
      | (r, some e) => (r, some s!"error while destroying cluster {cluster.id} : {e}")
      | (r, none) =>
        let r := { r with stateFile := r.stateFile && !t.deleteStateFile }
        match t.removeTemplates with
        | some e => (r, some s!"failed to delete templates for cluster {quoted cluster.id}: {e}")
        | none => deleteDnsState t cluster r

def destroy (destroyed : Cluster → Option String) : Task → Report
  | .delete ⟨some k8s, lbs⟩ =>
    let errs := (Cluster.kubernetes k8s :: lbs.map .loadBalancer).filterMap destroyed
    let k8sCleared := if (destroyed (.kubernetes k8s)).isNone then some true else none
    let lbIds := (lbs.filter (fun lb => (destroyed (.loadBalancer lb)).isNone)).map (·.id)
    (.clear k8sCleared lbIds, joinErrors errs)
  | _ => (.none, [])

-- Built as the deletion of nodes is, with the port opened or closed by the templates.
def reconcileApiPort (infra : Infrastructure) : Task → Outcome Report
  | .update state (.clusterApiPort _) => do
    let k8s ← Outcome.deref state.k8s
    pure (deleteKubernetesNodes (infra.tofu k8s.id) k8s)
  | _ => pure (.none, [])

def runPass (infra : Infrastructure) (task : Task) : TerraformerPass → Outcome Report
  | .buildInfrastructure =>
    match task with
    | .create state | .update state _ => build infra state
    | .delete _ => pure (.none, [])
  | .updateInfrastructure => reconcileInfrastructure infra task
  | .destroyInfrastructure => pure (destroy infra.destroyCluster task)
  | .apiPortOnKubernetes => reconcileApiPort infra task

-- A fatal error ends the passes, the errors of a pass that only warns are dropped.
def passes (infra : Infrastructure) (task : Task) :
    List (SubPass TerraformerPass) → Report → Outcome Report
  | [], report => pure report
  | pass :: rest, (result, diags) => do
    let (committed, errs) ← runPass infra task pass.kind
    let result := result.commit committed
    if errs.isEmpty then passes infra task rest (result, diags)
    else
      match pass.description.errorLevel with
      | .fatal => pure (result, diags ++ errs)
      | .warn => passes infra task rest (result, diags)

def processTask (infra : Infrastructure) (task : Task)
    (subPasses : List (SubPass TerraformerPass)) : Outcome TaskResult := do
  let (result, diags) ← passes infra task subPasses (.none, [])
  let error :=
    if diags.isEmpty then none
    else some (.partialChange, "[" ++ " ".intercalate diags ++ "]")
  pure ⟨error, result⟩

end Terraformer

end Claudie
