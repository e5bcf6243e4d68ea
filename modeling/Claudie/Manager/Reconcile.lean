import Claudie.Manager.ClustersUnion
import Claudie.Manager.Schedule.Unreachable

/-!
`reconciliation.go`: the comparison of the current and the desired state of every cluster of a
config, and the in-flight task that follows from it.
-/

namespace Claudie

namespace ClusterState

def base (state : ClusterState) : Clusters :=
  match state.inFlight with
  | [] => state.current
  | te :: _ => te.task.clusters

def target (state : ClusterState) (desired : Clusters) : Clusters :=
  match state.inFlight with
  | [] => desired
  | _ :: _ => state.current

end ClusterState

namespace Manager

inductive ScheduleResult where
  | reschedule
  | noReschedule
  | noop
  | notReady
  deriving DecidableEq

def handleUpdate (ord : MapOrder) (entropy : Entropy) (id : TaskId) (hc : HealthCheckStatus)
    (diff : DiffResult) (current desired : Clusters) : Outcome (Option TaskEvent) :=
  let lbr : LoadBalancersReconciliate :=
    ⟨hc, diff.loadBalancers, diff.kubernetes.proxy, current, desired⟩
  let kr : KubernetesReconciliate := ⟨hc, diff.kubernetes, current, desired⟩
  Outcome.orElse (preKubernetesDiff ord id lbr) <|
  Outcome.orElse (kubernetesModifications ord id kr) <|
  Outcome.orElse (postKubernetesDiff ord id lbr) <|
  Outcome.orElse (kubernetesDeletions ord id kr) <|
  Outcome.orElse (loadBalancersLowPriority ord entropy id lbr) <|
  Outcome.orElse (kubernetesLowPriority ord entropy id kr) <|
  if hc.vpnDrift then
    pure (some (scheduleRefreshVPN id diff.kubernetes.proxy.currentUsed current))
  else pure none

def Stage.isTerraformer : Stage → Bool
  | .terraformer _ _ => true
  | _ => false

-- Anything related to deletion, api endpoint or version upgrades cannot be rolled back.
def TaskEvent.reschedulable (te : TaskEvent) : Bool :=
  match te.task.delta? with
  | some (.apiEndpoint ..) | some (.deleteLoadBalancerRoles ..) | some (.deleteLoadBalancer ..)
  | some (.tfDeleteLoadBalancerNodes ..) | some (.deletedLoadBalancerNodes ..)
  | some (.k8sApiEndpoint ..) | some (.kDeleteNodes ..) | some (.deletedK8sNodes ..)
  | some (.upgradeVersion ..) => true
  | some (.replacedDns _ oldApiEndpoint) =>
    match te.pipeline[te.currentStage]? with
    | none => false
    | some stage => oldApiEndpoint.isSome && !Stage.isTerraformer stage
  | _ => false

def shouldRescheduleInFlight : Option TaskEvent → Bool
  | none => false
  | some te => TaskEvent.reschedulable te

def handleClusterUnknownNodes (ord : MapOrder) (id : TaskId) (current desired : Clusters)
    (diff : DiffResult) (ns : UnknownNodeStatus) (hc : HealthCheckStatus) :
    Outcome (Option TaskEvent) :=
  Outcome.orElse
    (handleLoadBalancerUnknownNodes ord id ⟨ns, diff.kubernetes, current, desired⟩)
    (handleKubernetesUnknownNodes ord id ⟨hc, ns, diff.kubernetes, current, desired⟩)

def areScheduledTasksEqual (a b : TaskEvent) : Bool :=
  a.event = b.event && a.description = b.description && a.pipeline = b.pipeline && a.task = b.task

def updateProviderCredentials (current desired : Provider) : Provider × Bool :=
  if current.providerType.credentialsEqual desired.providerType then (current, false)
  else
    match current.providerType.copyCredentials desired.providerType with
    | some providerType => ({ current with providerType }, true)
    | none => (current, false)

def updateNodePoolCredentials (current desired : NodePool) : NodePool × Bool :=
  match current.type, desired.type with
  | .dynamic c, .dynamic d =>
    let (provider, updated) := updateProviderCredentials c.provider d.provider
    ({ current with type := .dynamic { c with provider } }, updated)
  | .static c, .static d =>
    let nodeKeys := c.nodeKeys.map (fun ep key => d.nodeKeys.getD ep key)
    ({ current with type := .static { nodeKeys } }, nodeKeys ≠ c.nodeKeys)
  | _, _ => (current, false)

def updateNodePoolsCredentials (current desired : List NodePool) : List NodePool × Bool :=
  let changes := current.map (fun cnp =>
    match NodePools.findByName cnp.name desired with
    | some dnp => updateNodePoolCredentials cnp dnp
    | none => (cnp, false))
  (changes.map (·.1), changes.any (·.2))

def updateLbCredentials (clb dlb : LBcluster) : LBcluster × Bool :=
  let (nps, updated) :=
    updateNodePoolsCredentials clb.clusterInfo.nodePools dlb.clusterInfo.nodePools
  let clb := LBcluster.withNodePools clb nps
  match clb.dns, dlb.dns with
  | some cdns, some ddns =>
    let (provider, dnsUpdated) := updateProviderCredentials cdns.provider ddns.provider
    ({ clb with dns := some { cdns with provider } }, updated || dnsUpdated)
  | _, _ => (clb, updated)

def updateK8sCredentials (current desired : Option K8scluster) : Option K8scluster × Bool :=
  match current with
  | none => (none, false)
  | some k8s =>
    let (nps, updated) := updateNodePoolsCredentials k8s.clusterInfo.nodePools
      ((desired.map (·.clusterInfo.nodePools)).getD [])
    (some (K8scluster.withNodePools k8s nps), updated)

def updateLbsCredentials (current desired : List LBcluster) : List LBcluster × Bool :=
  let changes := current.map (fun clb =>
    match Clusters.findLoadbalancerById clb.id desired with
    | some dlb => updateLbCredentials clb dlb
    | none => (clb, false))
  (changes.map (·.1), changes.any (·.2))

def updateCredentials (current desired : Clusters) : Clusters × Bool :=
  let (k8s, k8sUpdated) := updateK8sCredentials current.k8s desired.k8s
  let (lbs, lbsUpdated) := updateLbsCredentials current.loadBalancers desired.loadBalancers
  (⟨k8s, lbs⟩, k8sUpdated || lbsUpdated)

def TaskEvent.mapClusters (te : TaskEvent) (f : Clusters → Clusters) : TaskEvent :=
  { te with task := te.task.replaceClusters (f te.task.clusters) }

def ClusterState.updateCredentials (state : ClusterState) (desired : Clusters) :
    ClusterState × Bool :=
  let (current, updated) := Manager.updateCredentials state.current desired
  match state.inFlight with
  | [] => ({ state with current }, updated)
  | te :: lower =>
    let (_, inFlightUpdated) := Manager.updateCredentials te.task.clusters desired
    let te := TaskEvent.mapClusters te (fun c => (Manager.updateCredentials c desired).1)
    ({ state with current, inFlight := te :: lower }, updated || inFlightUpdated)

def resetTargetSize (np : NodePool) : NodePool :=
  match np.type with
  | .dynamic d =>
    match d.autoscalerConfig with
    | some conf =>
      { np with
        type := .dynamic { d with autoscalerConfig := some { conf with targetSize := d.count } } }
    | none => np
  | .static _ => np

def failedScaleUps (counters : Counters) : List String :=
  (counters.k8sNodePoolScaleUpFailed.toList.filter (fun (_, counter) => counter > 0)).map (·.1)

-- The counters are used up, and the nodepools they count for fall back to their current size.
def ClusterState.resetTargetSizes (state : ClusterState) : Outcome ClusterState := do
  let k8s ← Outcome.deref state.current.k8s
  let nps ← (failedScaleUps state.counters).foldlM (fun nps np =>
    NodePools.modifyByName np (fun np => pure (resetTargetSize np)) nps) k8s.clusterInfo.nodePools
  pure
    { state with
      current.k8s := some (K8scluster.withNodePools k8s nps)
      counters.k8sNodePoolScaleUpFailed :=
        state.counters.k8sNodePoolScaleUpFailed.filter (fun _ counter => counter ≤ 0) }

def ticksForInfrastructureRefresh : Int := 100

def ClusterState.waitForPickup (state : ClusterState) : ClusterState :=
  { state with state := ⟨.waitForPickup, "", state.state.previous, ticksForInfrastructureRefresh⟩ }

def ClusterState.fail (state : ClusterState) (description : String) : ClusterState :=
  { state with state := { state.state with status := .error, description } }

inductive Reachability where
  | waitForUser (err : String)
  | push (next : TaskEvent)
  | proceed

-- What to do about unreachable nodes. A task that equals the last one is not scheduled again.
def reachability (ord : MapOrder) (id : TaskId) (lastTask : List TaskEvent)
    (current desired : Clusters) (diff : DiffResult) (ns : UnknownNodeStatus)
    (hc : HealthCheckStatus) : Outcome Reachability :=
  match handleClusterUnknownNodes ord id current desired diff ns hc with
  | .error .panic => .error .panic
  | .error (.error err) => pure (.waitForUser err)
  | .ok none => pure .proceed
  | .ok (some next) =>
    match lastTask with
    | [] => pure (.push next)
    | last :: _ => pure (if areScheduledTasksEqual last next then .proceed else .push next)

def ClusterState.push (state : ClusterState) (next : TaskEvent) (lastTask : List TaskEvent) :
    ClusterState :=
  ClusterState.waitForPickup { state with inFlight := next :: lastTask }

structure ReconcileInput where
  ord : MapOrder
  entropy : Entropy
  probe : Probe

def rescheduleInFlight (state : ClusterState) (newUUID : TaskId) : ClusterState :=
  match state.inFlight with
  | [] => state
  | te :: lower => { state with inFlight := { te with id := newUUID } :: lower }

def refreshInfrastructure (state : ClusterState) (id : TaskId) :
    Outcome (ClusterState × ScheduleResult) := do
  let ticks := max state.state.ticksUntilRefresh 0 - 1
  let state := { state with state.ticksUntilRefresh := ticks }
  if ticks ≤ 0 then
    let te ← scheduleRefreshInfrastructure id state.current
    pure (ClusterState.push state te [], .reschedule)
  else pure (state, .notReady)

def UnknownNodeStatus.isEmpty (ns : UnknownNodeStatus) : Bool :=
  ns.notJoinedKubernetesNodes.isEmpty && ns.unknownKubernetesNodes.isEmpty
    && ns.unknownLoadBalancersNodes.isEmpty

def reconciliateIdle (state : ClusterState) (id : TaskId) (ns : UnknownNodeStatus)
    (reach : Outcome Reachability) : Outcome (ClusterState × ScheduleResult) :=
  match state.inFlight with
  | _ :: _ => pure ({ state with inFlight := [] }, .notReady)
  | [] =>
    if ns.isEmpty then refreshInfrastructure state id
    else do
      match ← reach with
      | .waitForUser err => pure (ClusterState.fail state err, .notReady)
      | .push next => pure (ClusterState.push state next [], .reschedule)
      | .proceed => refreshInfrastructure state id

def reconciliateDiff (inp : ReconcileInput) (id newUUID : TaskId) (state : ClusterState)
    (desired : Clusters) : Outcome (ClusterState × ScheduleResult) := do
  let lastTask := state.inFlight
  let localDesired := state.target desired
  let (hc, current) ← healthCheck inp.probe state.base
  -- without a task it is the stored state itself that was checked.
  let state := if lastTask.isEmpty then { state with current } else state
  let diff ← diff inp.ord current localDesired
  match checkNodesStatus inp.ord inp.probe current hc with
  | .error .panic => .error .panic
  | .error (.error err) =>
    pure (ClusterState.fail state ("Can't schedule task, failed to determine reachability of nodes "
      ++ s!"of the clusters: {err}"), .notReady)
  | .ok ns =>
    let reach := reachability inp.ord newUUID lastTask current desired diff ns hc
    if shouldRescheduleInFlight lastTask.head? then
      match ← reach with
      | .waitForUser err => pure (ClusterState.fail state err, .notReady)
      | .push next => pure (ClusterState.push state next lastTask, .reschedule)
      | .proceed =>
        pure (ClusterState.waitForPickup (rescheduleInFlight state newUUID), .reschedule)
    else
      match ← handleUpdate inp.ord inp.entropy id hc diff current localDesired with
      | none => reconciliateIdle state id ns reach
      | some te =>
        match ← reach with
        -- the task that was just scheduled stays in flight.
        | .waitForUser err =>
          pure (ClusterState.fail { state with inFlight := [te] } err, .notReady)
        | .push next => pure (ClusterState.push state next lastTask, .reschedule)
        | .proceed => pure (ClusterState.push state te [], .reschedule)

def reconciliateUpdate (inp : ReconcileInput) (id newUUID : TaskId) (state : ClusterState)
    (desired : Clusters) : Outcome (ClusterState × ScheduleResult) :=
  if state.inFlight.isEmpty && !(failedScaleUps state.counters).isEmpty then do
    let state ← ClusterState.resetTargetSizes state
    pure (state, .notReady)
  else
    let (updated, updatedCredentials) := ClusterState.updateCredentials state desired
    if updatedCredentials then pure (updated, .notReady)
    else reconciliateDiff inp id newUUID state desired

def modifyFirst {α : Type} (p : α → Bool) (f : α → α) : List α → List α
  | [] => []
  | a :: as => if p a then f a :: as else a :: modifyFirst p f as

def chooseApiEndpoint (desired : Clusters) : Outcome Clusters := do
  if desired.loadBalancers.any (·.hasApiRole) then
    pure { desired with
      loadBalancers := modifyFirst (·.hasApiRole) (fun lb => { lb with usedApiEndpoint := true })
        desired.loadBalancers }
  else
    let k8s ← Outcome.deref desired.k8s
    let nps := k8s.clusterInfo.nodePools
    let _ ← Outcome.deref (NodePools.firstControlNode nps)
    let nps := modifyFirst (fun np => np.isControl && !np.nodes.isEmpty)
      (fun np => { np with nodes := np.nodes.modify 0 (fun n => { n with nodeType := .apiEndpoint }) })
      nps
    pure { desired with k8s := some (K8scluster.withNodePools k8s nps) }

def reconciliateCreate (id : TaskId) (state : ClusterState) (desired : Clusters) :
    Outcome (ClusterState × ScheduleResult) :=
  match state.inFlight with
  | te :: _ => do
    -- what the task may have built already is deleted first.
    let te ← scheduleDeleteCluster id te.task.clusters
    pure (ClusterState.push state te [], .reschedule)
  | [] => do
    let desired ← chooseApiEndpoint desired
    let te ← scheduleCreateCluster id desired
    pure (ClusterState.push state te [], .reschedule)

def reconciliateDestroy (ord : MapOrder) (id : TaskId) (state : ClusterState) :
    Outcome (ClusterState × ScheduleResult) := do
  let del ← match state.inFlight with
    | te :: _ => clustersUnion ord state.current te.task.clusters
    | [] => pure state.current
  let te ← scheduleDeleteCluster id del
  pure (ClusterState.push state te [], .reschedule)

-- A desired state without a kubernetes cluster and load balancers is none.
def presentDesired (desired : Option Clusters) : Option Clusters :=
  match desired with
  | some d => if Clusters.isEmpty d then none else some d
  | none => none

def reconciliateCluster (inp : ReconcileInput) (id newUUID : TaskId) (state : ClusterState)
    (desired : Option Clusters) : Outcome (ClusterState × ScheduleResult) :=
  match presentDesired desired with
  | none =>
    if Clusters.isEmpty state.current && state.inFlight.isEmpty then
      pure (ClusterState.waitForPickup state, .noReschedule)
    else reconciliateDestroy inp.ord id state
  | some desired =>
    if Clusters.isEmpty state.current then reconciliateCreate id state desired
    else reconciliateUpdate inp id newUUID state desired

def emptyClusterState : ClusterState :=
  { current := ⟨none, []⟩, state := ⟨.done, "", [], 0⟩, inFlight := [], counters := ⟨∅⟩ }

def populateEntriesForNewClusters (current : GoMap ClusterState) (desired : GoMap Clusters) :
    GoMap ClusterState :=
  desired.foldl (fun current cluster _ => current.insertIfNew cluster emptyClusterState) current

def finalResult (results : List ScheduleResult) : ScheduleResult :=
  if results.contains .reschedule then .reschedule
  else if results.contains .notReady then .notReady
  else if results.all (· = .noReschedule) then .noReschedule
  else if results.all (· = .noop) then .noop
  else .reschedule

def reconciliate (inputs : String → ReconcileInput) (fresh : TaskId)
    (clusters : GoMap ClusterState) (desired : GoMap Clusters) :
    Outcome (GoMap ClusterState × ScheduleResult) := do
  let clusters := populateEntriesForNewClusters clusters desired
  let results ← clusters.mapOutcome (fun i cluster state =>
    reconciliateCluster (inputs cluster) (fresh + 2 * i) (fresh + 2 * i + 1) state desired[cluster]?)
  pure (results.map (fun _ r => r.1), finalResult (results.toList.map (·.2.2)))

end Manager

end Claudie
