import Claudie.Lemmas.Terraformer
import Claudie.Manager.Lemmas.ProcessTask

/-!
What the manager takes over of a destruction in which some clusters failed.
-/

namespace Claudie

namespace Manager

def trackedState (state : ClusterState) : Clusters :=
  match state.inFlight with
  | te :: _ => te.task.clusters
  | [] => state.current

/--
The load balancers for which the terraformer reports that they are destroyed. Without a kubernetes
cluster the task is ignored.
-/
def ReportedDestroyed (destroyed : Terraformer.Cluster → Option String) (c : Clusters)
    (lb : LBcluster) : Prop :=
  c.k8s.isSome = true ∧ lb ∈ c.loadBalancers ∧ destroyed (.loadBalancer lb) = none

structure Cleared (destroyed : Terraformer.Cluster → Option String) (c tracked : Clusters) :
    Prop where
  loadBalancers : ∀ lb, ReportedDestroyed destroyed c lb →
    ∀ lb' ∈ tracked.loadBalancers, lb'.id ≠ lb.id
  kubernetes : (∃ lb ∈ c.loadBalancers, ¬ ReportedDestroyed destroyed c lb) →
    tracked.k8s = c.k8s

def DestructionGuarded (destroyed : Terraformer.Cluster → Option String) (c : Clusters) : Prop :=
  ∀ k8s, c.k8s = some k8s → destroyed (.kubernetes k8s) = none →
    (∀ lb ∈ c.loadBalancers, destroyed (.loadBalancer lb) = none)
      ∨ ∀ lb ∈ c.loadBalancers, destroyed (.loadBalancer lb) ≠ none

section

variable {destroyed : Terraformer.Cluster → Option String} {c : Clusters} {k8s : K8scluster}
  {lbs : List LBcluster} {work : Work} {newUUID : TaskId} {im : Config} {state : ClusterState}
  {te : TaskEvent} {lower : List TaskEvent} {stage : Stage} {pass : StageDescription}

theorem processTaskOfCluster_of_accepts (h : Accepts work state te lower stage) :
    processTaskOfCluster work newUUID state =
      match work.result.error with
      | some (kind, description) =>
        some <$> processTaskWithError state te lower stage kind description work.result.result
          newUUID
      | none => some <$> processTaskWithoutError state te lower stage work.result.result newUUID := by
  unfold processTaskOfCluster
  simp only [h.inFlight, h.id, h.taskStage, ne_eq, not_true, if_false]
  rw [← h.taskStage, h.pipeline, Outcome.deref_some, Outcome.ok_bind, h.kind]
  exact if_neg (fun hkind => hkind rfl)

theorem advanceToNextStage_of_delete {start : ClusterState} (htask : te.task = .delete c) :
    ∃ state', advanceToNextStage start te lower = .ok state' ∧ trackedState state' = c := by
  have hclusters : te.task.clusters = c := by rw [htask, Task.clusters]
  have hcounters : populateTaskSuccessCounters te.task start.counters = .ok start.counters := by
    rw [htask]
    rfl
  unfold advanceToNextStage
  split
  next => exact ⟨_, rfl, hclusters⟩
  next =>
    simp only [propagateInFlightState, hcounters, Outcome.ok_bind]
    cases lower with
    | nil => exact ⟨_, rfl, hclusters⟩
    | cons next rest =>
      refine ⟨_, rfl, ?_⟩
      simp only [trackedState, TaskEvent.mapClusters, Task.clusters_replaceClusters]
      exact hclusters

theorem processTaskWithError_of_delete {description : String} {result : ResultKind} {c' : Clusters}
    (htask : te.task = .delete c) (hconsume : te.task.consumeResult result = .ok (.delete c')) :
    ∃ state', processTaskWithError state te lower stage .partialChange description result newUUID
        = .ok state' ∧ trackedState state' = c' := by
  have hcounters : errorCounters state te.task = .ok state.counters := by
    rw [errorCounters, htask]
    split <;> rfl
  have hpropagate : propagateResult te result = .ok { te with task := .delete c' } := by
    rw [propagateResult, hconsume]
    rfl
  unfold processTaskWithError
  simp only [hcounters, Outcome.ok_bind, if_true, hpropagate]
  split
  next => exact advanceToNextStage_of_delete rfl
  next => exact ⟨_, rfl, rfl⟩

theorem processTaskWithoutError_of_delete {result : ResultKind} {c' : Clusters}
    (hconsume : te.task.consumeResult result = .ok (.delete c')) :
    ∃ state', processTaskWithoutError state te lower stage result newUUID = .ok state'
      ∧ trackedState state' = c' := by
  unfold processTaskWithoutError
  simp only [propagateResult, hconsume, Outcome.ok_bind]
  exact advanceToNextStage_of_delete rfl

theorem processTask_of_merged {c' : Clusters} (htask : te.task = .delete c)
    (haccepts : Accepts work state te lower stage)
    (herror : ∀ description, work.result.error ≠ some (.fatal, description))
    (hconsume : te.task.consumeResult work.result.result = .ok (.delete c')) :
    ∃ state', processTaskOfCluster work newUUID state = .ok (some state')
      ∧ trackedState state' = c' := by
  rw [processTaskOfCluster_of_accepts haccepts]
  split
  next kind description hkind =>
    cases kind with
    | fatal => exact absurd hkind (herror description)
    | partialChange =>
      obtain ⟨state', hstate', htracked⟩ := processTaskWithError_of_delete htask hconsume
      exact ⟨state', by rw [hstate']; rfl, htracked⟩
  next =>
    obtain ⟨state', hstate', htracked⟩ := processTaskWithoutError_of_delete hconsume
    exact ⟨state', by rw [hstate']; rfl, htracked⟩

theorem processTask_of_refused {msg : String} (htask : te.task = .delete c)
    (haccepts : Accepts work state te lower stage)
    (herror : ∀ description, work.result.error ≠ some (.fatal, description))
    (hconsume : te.task.consumeResult work.result.result = .error (.error msg)) :
    ∃ state', processTaskOfCluster work newUUID state = .ok (some state')
      ∧ trackedState state' = c := by
  have hclusters : te.task.clusters = c := by rw [htask, Task.clusters]
  have hcounters : errorCounters state te.task = .ok state.counters := by
    rw [errorCounters, htask]
    split <;> rfl
  have hpropagate : propagateResult te work.result.result = .error (.error msg) := by
    rw [propagateResult, hconsume]
    rfl
  rw [processTaskOfCluster_of_accepts haccepts]
  split
  next kind description hkind =>
    cases kind with
    | fatal => exact absurd hkind (herror description)
    | partialChange =>
      simp only [processTaskWithError, hcounters, Outcome.ok_bind, if_true, hpropagate]
      exact ⟨_, rfl, hclusters⟩
  next =>
    simp only [processTaskWithoutError, hpropagate]
    exact ⟨_, rfl, hclusters⟩

def destroyedIds (destroyed : Terraformer.Cluster → Option String) (c : Clusters) : List String :=
  (c.loadBalancers.filter (fun lb => (destroyed (.loadBalancer lb)).isNone)).map (·.id)

def remainingLbs (destroyed : Terraformer.Cluster → Option String) (c : Clusters) :
    List LBcluster :=
  c.loadBalancers.filter (fun lb => !(destroyedIds destroyed c).contains lb.id)

theorem mem_remainingLbs (hids : (c.loadBalancers.map (·.id)).Nodup) {lb : LBcluster} :
    lb ∈ remainingLbs destroyed c
      ↔ lb ∈ c.loadBalancers ∧ destroyed (.loadBalancer lb) ≠ none := by
  unfold remainingLbs destroyedIds
  rw [List.mem_filter, Bool.not_eq_true', ← Bool.not_eq_true, List.contains_iff_mem, List.mem_map]
  refine and_congr_right (fun hlb => not_congr ⟨?_, fun h => ?_⟩)
  · rintro ⟨lb', hlb', hid⟩
    obtain ⟨hmem, hnone⟩ := List.mem_filter.mp hlb'
    rw [← List.inj_on_of_nodup_map hids hmem hlb hid]
    exact Option.isNone_iff_eq_none.mp hnone
  · exact ⟨lb, List.mem_filter.mpr ⟨hlb, Option.isNone_iff_eq_none.mpr h⟩, rfl⟩

theorem remainingLbs_eq_nil (hids : (c.loadBalancers.map (·.id)).Nodup) :
    remainingLbs destroyed c = []
      ↔ ∀ lb ∈ c.loadBalancers, destroyed (.loadBalancer lb) = none := by
  rw [List.eq_nil_iff_forall_not_mem]
  simp only [mem_remainingLbs hids, not_and, not_not]

theorem consumeResult_of_destroy (hk8s : c.k8s = some k8s) :
    (Task.delete c).consumeResult (Terraformer.destroy destroyed (.delete c)).1
      = if (destroyed (.kubernetes k8s)).isNone then
          if remainingLbs destroyed c ≠ [] then
            .error (.error
              "refuse to clear kubernetes cluster while loadbalancers for it still exists")
          else .ok (.delete ⟨none, []⟩)
        else .ok (.delete { c with loadBalancers := remainingLbs destroyed c }) := by
  obtain ⟨k, lbs⟩ := c
  cases hk8s
  cases hdestroyed : destroyed (.kubernetes k8s) with
  | none =>
    simp only [Terraformer.destroy, hdestroyed, Option.isNone_none, if_true]
    rfl
  | some e =>
    simp only [Terraformer.destroy, hdestroyed, Option.isNone_some]
    rfl

theorem not_reportedDestroyed {lb : LBcluster} (hk8s : c.k8s = some k8s)
    (hlb : lb ∈ c.loadBalancers) :
    ¬ ReportedDestroyed destroyed c lb ↔ destroyed (.loadBalancer lb) ≠ none := by
  simp [ReportedDestroyed, hk8s, hlb]

theorem cleared_remainingLbs (hids : (c.loadBalancers.map (·.id)).Nodup) :
    Cleared destroyed c { c with loadBalancers := remainingLbs destroyed c } := by
  refine ⟨?_, fun _ => rfl⟩
  rintro lb ⟨-, hlb, hdestroyed⟩ lb' hlb' hid
  obtain ⟨hmem, hfailed⟩ := (mem_remainingLbs hids).mp hlb'
  rw [List.inj_on_of_nodup_map hids hmem hlb hid] at hfailed
  exact hfailed hdestroyed

theorem cleared_none (hk8s : c.k8s = some k8s)
    (hall : ∀ lb ∈ c.loadBalancers, destroyed (.loadBalancer lb) = none) :
    Cleared destroyed c ⟨none, []⟩ := by
  refine ⟨fun _ _ lb' hlb' => absurd hlb' List.not_mem_nil, ?_⟩
  rintro ⟨lb, hlb, hfailed⟩
  exact absurd (hall lb hlb) ((not_reportedDestroyed hk8s hlb).mp hfailed)

theorem cleared_self_iff (hk8s : c.k8s = some k8s) :
    Cleared destroyed c c ↔ ∀ lb ∈ c.loadBalancers, destroyed (.loadBalancer lb) ≠ none := by
  constructor
  · intro h lb hlb hdestroyed
    exact h.loadBalancers lb ⟨by rw [hk8s]; rfl, hlb, hdestroyed⟩ lb hlb rfl
  · intro h
    exact ⟨fun lb hreported => absurd hreported.2.2 (h lb hreported.2.1), fun _ => rfl⟩

theorem tracked_after_destroy (hids : (c.loadBalancers.map (·.id)).Nodup)
    (htask : te.task = .delete c) (hk8s : c.k8s = some k8s)
    (haccepts : Accepts work state te lower stage)
    (herror : ∀ description, work.result.error ≠ some (.fatal, description))
    (hresult : work.result.result = (Terraformer.destroy destroyed te.task).1) :
    ∃ state', processTaskOfCluster work newUUID state = .ok (some state') ∧
      (Cleared destroyed c (trackedState state') ↔ DestructionGuarded destroyed c) := by
  have hmerged : ∀ {c'}, te.task.consumeResult work.result.result = .ok (.delete c') →
      Cleared destroyed c c' → DestructionGuarded destroyed c →
      ∃ state', processTaskOfCluster work newUUID state = .ok (some state') ∧
        (Cleared destroyed c (trackedState state') ↔ DestructionGuarded destroyed c) := by
    intro c' hconsume hcleared hguarded
    obtain ⟨state', hstate', htracked⟩ := processTask_of_merged htask haccepts herror hconsume
    exact ⟨state', hstate', iff_of_true (by rwa [htracked]) hguarded⟩
  have hconsume := @consumeResult_of_destroy destroyed c k8s hk8s
  rw [← htask, ← hresult] at hconsume
  cases hdestroyed : destroyed (.kubernetes k8s) with
  | some e =>
    rw [hdestroyed, Option.isNone_some, if_neg Bool.false_ne_true] at hconsume
    refine hmerged hconsume (cleared_remainingLbs hids) (fun k hk hnone => ?_)
    cases hk8s.symm.trans hk
    rw [hdestroyed] at hnone
    cases hnone
  | none =>
    rw [hdestroyed, Option.isNone_none, if_pos rfl] at hconsume
    by_cases hall : ∀ lb ∈ c.loadBalancers, destroyed (.loadBalancer lb) = none
    · rw [if_neg (not_not.mpr ((remainingLbs_eq_nil hids).mpr hall))] at hconsume
      exact hmerged hconsume (cleared_none hk8s hall) (fun _ _ _ => .inl hall)
    · rw [if_pos (fun hnil => hall ((remainingLbs_eq_nil hids).mp hnil))] at hconsume
      obtain ⟨state', hstate', htracked⟩ := processTask_of_refused htask haccepts herror hconsume
      refine ⟨state', hstate', ?_⟩
      rw [htracked, cleared_self_iff hk8s]
      exact ⟨fun h _ _ _ => .inr h, fun h => (h k8s hk8s hdestroyed).resolve_left hall⟩

end

theorem destroyed_load_balancers_are_cleared {infra : Terraformer.Infrastructure}
    {c : Clusters} {work : Work} {newUUID : TaskId} {im : Config} {state : ClusterState}
    {te : TaskEvent} {lower : List TaskEvent} {description pass : StageDescription}
    (hstate : im.clusters[work.cluster]? = some state)
    (haccepts : Accepts work state te lower
      (.terraformer description [⟨.destroyInfrastructure, pass⟩]))
    (htask : te.task = .delete c) (hids : (c.loadBalancers.map (·.id)).Nodup)
    (hresult : Terraformer.processTask infra te.task [⟨.destroyInfrastructure, pass⟩]
      = .ok work.result) :
    (∃ im' state', processTask work newUUID im = .ok (some im')
      ∧ im'.clusters[work.cluster]? = some state'
      ∧ Cleared infra.destroyCluster c (trackedState state'))
      ↔ DestructionGuarded infra.destroyCluster c := by
  have herror := Terraformer.processTask_error hresult
  have hreport : work.result.result = (Terraformer.destroy infra.destroyCluster te.task).1 := by
    obtain ⟨errs, hrun⟩ := Terraformer.processTask_singleton hresult
    have hrun : Terraformer.destroy infra.destroyCluster te.task = (work.result.result, errs) :=
      Except.ok.inj hrun
    rw [hrun]
  obtain ⟨state', hstate', hiff⟩ : ∃ state', processTaskOfCluster work newUUID state
      = .ok (some state') ∧ (Cleared infra.destroyCluster c (trackedState state')
        ↔ DestructionGuarded infra.destroyCluster c) := by
    cases hk8s : c.k8s with
    | some k8s => exact tracked_after_destroy hids htask hk8s haccepts herror hreport
    | none =>
      have hnone : (Terraformer.destroy infra.destroyCluster te.task).1 = .none := by
        obtain ⟨k, lbs⟩ := c
        cases hk8s
        rw [htask]
        rfl
      have hconsume : te.task.consumeResult work.result.result = .ok (.delete c) := by
        rw [hreport, hnone, htask]
        rfl
      obtain ⟨state', hstate', htracked⟩ := processTask_of_merged htask haccepts herror hconsume
      refine ⟨state', hstate', iff_of_true ?_ ?_⟩
      · rw [htracked]
        refine ⟨fun lb hreported => ?_, fun _ => rfl⟩
        have hsome := hreported.1
        rw [hk8s] at hsome
        cases hsome
      · intro k8s hsome
        cases hk8s.symm.trans hsome
  have hprocess : processTask work newUUID im
      = .ok (some { im with clusters := im.clusters.insert work.cluster state' }) := by
    simp only [processTask, hstate, hstate', Outcome.ok_bind]
    rfl
  rw [← hiff, hprocess]
  constructor
  · rintro ⟨_, st, ⟨⟩, hst, hcleared⟩
    rw [Std.ExtTreeMap.getElem?_insert_self] at hst
    cases hst
    exact hcleared
  · intro hcleared
    exact ⟨_, state', rfl, Std.ExtTreeMap.getElem?_insert_self, hcleared⟩

namespace Demo.Destruction

def k8s : K8scluster := ⟨⟨"main", "xyz5678", []⟩, "", "", "", ⟨"", "", ""⟩⟩

def lb (name : String) : LBcluster := ⟨⟨name, "abc1234", []⟩, [], none, "main", false⟩

def clusters : Clusters := ⟨some k8s, [lb "lb1", lb "lb2"]⟩

def pass : StageDescription := ⟨"Destroying current state", .fatal⟩

def stage : Stage :=
  .terraformer ⟨"Destroying infrastructure of the cluster", .fatal⟩
    [⟨.destroyInfrastructure, pass⟩]

def te : TaskEvent :=
  ⟨1, .delete, .delete clusters, "deleting cluster and its attached loadbalancers", [stage], 0⟩

def state : ClusterState := ⟨clusters, ⟨.inProgress, "", [], 0⟩, [te], ⟨∅⟩⟩

def config : Config :=
  ⟨1, "config", ⟨"", ""⟩, ⟨"", none, none, .scheduled⟩, Std.ExtTreeMap.ofList [("main", state)]⟩

def infra (destroyed : Terraformer.Cluster → Option String) : Terraformer.Infrastructure where
  tofu _ := ⟨.error "", fun _ => .error "", .error "", .error "", fun _ => none⟩
  destroyDNSRecords _ := none
  destroyCluster := destroyed

def lb2Fails : Terraformer.Cluster → Option String
  | .kubernetes _ => none
  | .loadBalancer lb => if lb.clusterInfo.name = "lb2" then some "tofu destroy failed" else none

def bothFail : Terraformer.Cluster → Option String
  | .kubernetes _ => some "tofu destroy failed"
  | .loadBalancer lb => lb2Fails (.loadBalancer lb)

def work (result : TaskResult) : Work := ⟨"config", "main", 1, 0, .terraformer, result⟩

end Demo.Destruction

-- The kubernetes cluster failed as well, so that the first load balancer is cleared.
theorem destroyed_load_balancers_are_cleared_demo :
    ∃ result, Terraformer.processTask (Demo.Destruction.infra Demo.Destruction.bothFail)
        Demo.Destruction.te.task [⟨.destroyInfrastructure, Demo.Destruction.pass⟩] = .ok result
      ∧ ∃ im' state', processTask (Demo.Destruction.work result) 2 Demo.Destruction.config
          = .ok (some im')
        ∧ im'.clusters["main"]? = some state'
        ∧ Cleared Demo.Destruction.bothFail Demo.Destruction.clusters (trackedState state') := by
  obtain ⟨result, hresult⟩ : ∃ result, Terraformer.processTask
      (Demo.Destruction.infra Demo.Destruction.bothFail) Demo.Destruction.te.task
      [⟨.destroyInfrastructure, Demo.Destruction.pass⟩] = .ok result := ⟨_, rfl⟩
  have hstate : Demo.Destruction.config.clusters["main"]? = some Demo.Destruction.state := by
    decide
  have haccepts : Accepts (Demo.Destruction.work result) Demo.Destruction.state
      Demo.Destruction.te [] Demo.Destruction.stage := ⟨rfl, rfl, rfl, rfl, rfl⟩
  have htask : Demo.Destruction.te.task = .delete Demo.Destruction.clusters := rfl
  have hguarded : DestructionGuarded Demo.Destruction.bothFail Demo.Destruction.clusters := by
    rintro k8s - ⟨⟩
  exact ⟨result, hresult, (destroyed_load_balancers_are_cleared hstate haccepts htask (by decide)
    hresult).mpr hguarded⟩

-- The kubernetes cluster and the first load balancer were destroyed, the second load balancer was
-- not: the first one is still part of the task that starts over.
theorem destroyed_load_balancer_stays :
    ∃ result im' state',
      Terraformer.processTask (Demo.Destruction.infra Demo.Destruction.lb2Fails)
        Demo.Destruction.te.task [⟨.destroyInfrastructure, Demo.Destruction.pass⟩] = .ok result
      ∧ result.result = .clear (some true) ["lb1-abc1234"]
      ∧ processTask (Demo.Destruction.work result) 2 Demo.Destruction.config = .ok (some im')
      ∧ im'.clusters["main"]? = some state'
      ∧ Demo.Destruction.lb "lb1" ∈ (trackedState state').loadBalancers := by
  have hrun : Outcome.passes
      (Terraformer.processTask (Demo.Destruction.infra Demo.Destruction.lb2Fails)
        Demo.Destruction.te.task [⟨.destroyInfrastructure, Demo.Destruction.pass⟩]) (fun result =>
      Outcome.passes (processTask (Demo.Destruction.work result) 2 Demo.Destruction.config)
        (Option.any (fun im' => im'.clusters["main"]?.any (fun state' =>
          decide (result.result = .clear (some true) ["lb1-abc1234"]
            ∧ Demo.Destruction.lb "lb1" ∈ (trackedState state').loadBalancers))))) = true := by
    decide
  obtain ⟨result, hresult, hrun⟩ := Outcome.passes_iff.mp hrun
  obtain ⟨im', him', hrun⟩ := Outcome.passes_some_iff.mp hrun
  obtain ⟨state', hstate', hrun⟩ := (Option.any_eq_true _ _).mp hrun
  obtain ⟨hclear, hlb⟩ := of_decide_eq_true hrun
  exact ⟨result, im', state', hresult, hclear, him', hstate', hlb⟩

end Manager

end Claudie
