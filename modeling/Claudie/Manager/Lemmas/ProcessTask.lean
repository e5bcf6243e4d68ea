import Claudie.Manager.Lemmas.Consume
import Claudie.Manager.ProcessTask

/-!
What the result of a worker can do to the cluster it belongs to.
-/

namespace Claudie

namespace Manager

structure Accepts (work : Work) (state : ClusterState) (te : TaskEvent) (lower : List TaskEvent)
    (stage : Stage) : Prop where
  inFlight : state.inFlight = te :: lower
  id : te.id = work.taskID
  taskStage : te.currentStage = work.taskStage
  pipeline : te.pipeline[te.currentStage]? = some stage
  kind : stage.kind = work.stage

inductive Merges (work : Work) (te : TaskEvent) : TaskEvent → Prop
  | fatal {description : String} :
    work.result.error = some (.fatal, description) → Merges work te te
  | merged {task : Task} :
    (∀ description, work.result.error ≠ some (.fatal, description)) →
    te.task.consumeResult work.result.result = .ok task → Merges work te { te with task }

theorem Merges.id {work : Work} {te te' : TaskEvent} (h : Merges work te te') : te'.id = te.id := by
  cases h <;> rfl

theorem Merges.pipeline {work : Work} {te te' : TaskEvent} (h : Merges work te te') :
    te'.pipeline = te.pipeline := by
  cases h <;> rfl

theorem Merges.currentStage {work : Work} {te te' : TaskEvent} (h : Merges work te te') :
    te'.currentStage = te.currentStage := by
  cases h <;> rfl

theorem Merges.kind {work : Work} {te te' : TaskEvent} (h : Merges work te te') :
    te'.task.kind = te.task.kind := by
  cases h with
  | fatal _ => rfl
  | merged _ h => exact Task.kind_of_consumeResult h

theorem Merges.delta {work : Work} {te te' : TaskEvent} (h : Merges work te te') :
    Task.DeltaStep te.task.delta? te'.task.delta? := by
  cases h with
  | fatal _ => exact .same
  | merged _ h => exact Task.delta?_of_consumeResult h

inductive ProcessStep (work : Work) (newUUID : TaskId) (state : ClusterState) (te : TaskEvent)
    (lower : List TaskEvent) (stage : Stage) : ClusterState → Prop
  | renamed {state' : ClusterState} :
    state'.current = state.current → state'.inFlight = { te with id := newUUID } :: lower →
    state'.state.status = .waitForPickup → ProcessStep work newUUID state te lower stage state'
  | failed {te' : TaskEvent} {state' : ClusterState} :
    Merges work te te' → work.result.error.isSome = true →
    stage.description.errorLevel ≠ .warn →
    state'.current = state.current → state'.inFlight = te' :: lower →
    state'.state.status = .error → ProcessStep work newUUID state te lower stage state'
  | advanced {te' : TaskEvent} {next : Stage} {state' : ClusterState} :
    Merges work te te' → te.pipeline[te.currentStage + 1]? = some next →
    state'.current = state.current →
    state'.inFlight = { te' with currentStage := te'.currentStage + 1 } :: lower →
    state'.state.status = .waitForPickup → ProcessStep work newUUID state te lower stage state'
  | handedDown {te' next : TaskEvent} {rest : List TaskEvent} {state' : ClusterState} :
    Merges work te te' → te.pipeline[te.currentStage + 1]? = none → lower = next :: rest →
    state'.current = state.current →
    state'.inFlight = TaskEvent.mapClusters next (fun _ => te'.task.clusters) :: rest →
    state'.state.status = .done → ProcessStep work newUUID state te lower stage state'
  | completed {te' : TaskEvent} {state' : ClusterState} :
    Merges work te te' → te.pipeline[te.currentStage + 1]? = none → lower = [] →
    state'.current = te'.task.clusters → state'.inFlight = [] →
    state'.state.status = .done → ProcessStep work newUUID state te lower stage state'

section

variable {work : Work} {newUUID : TaskId} {state state' : ClusterState} {te te' : TaskEvent}
  {lower : List TaskEvent} {stage : Stage}

-- The workflow and the counters of `start` are not those of `state` any more.
theorem advanceToNextStage_step {start : ClusterState} (hmerges : Merges work te te')
    (h : advanceToNextStage start te' lower = .ok state')
    (hcurrent : start.current = state.current) :
    ProcessStep work newUUID state te lower stage state' := by
  have hpipeline : te'.pipeline[te'.currentStage + 1]? = te.pipeline[te.currentStage + 1]? := by
    rw [hmerges.pipeline, hmerges.currentStage]
  unfold advanceToNextStage at h
  split at h
  next next hnext =>
    cases h
    rw [hpipeline] at hnext
    exact .advanced hmerges hnext hcurrent rfl rfl
  next hnone =>
    rw [hpipeline] at hnone
    obtain ⟨st, hst, h⟩ := Outcome.bind_eq_ok.mp h
    cases h
    unfold propagateInFlightState at hst
    obtain ⟨counters, _, hst⟩ := Outcome.bind_eq_ok.mp hst
    split at hst
    next next rest =>
      cases hst
      exact .handedDown hmerges hnone rfl hcurrent rfl rfl
    next =>
      cases hst
      exact .completed hmerges hnone rfl rfl rfl rfl

theorem propagateResult_merges (hfatal : ∀ description,
      work.result.error ≠ some (.fatal, description))
    (h : propagateResult te work.result.result = .ok te') : Merges work te te' := by
  unfold propagateResult at h
  obtain ⟨task, htask, h⟩ := Outcome.bind_eq_ok.mp h
  cases h
  exact .merged hfatal htask

theorem processTaskWithError_step {kind : ErrorKind} {description : String}
    (herror : work.result.error = some (kind, description))
    (h : processTaskWithError state te lower stage kind description work.result.result newUUID
      = .ok state') :
    ProcessStep work newUUID state te lower stage state' := by
  unfold processTaskWithError at h
  obtain ⟨counters, _, h⟩ := Outcome.bind_eq_ok.mp h
  dsimp only at h
  split at h
  next => cases h
  next =>
    cases h
    exact .renamed rfl rfl rfl
  next te' hte' =>
    have hmerges : Merges work te te' := by
      cases kind with
      | fatal =>
        cases hte'
        exact .fatal herror
      | partialChange => exact propagateResult_merges (by simp [herror]) hte'
    split at h
    next => exact advanceToNextStage_step hmerges h rfl
    next hwarn =>
      cases h
      exact .failed hmerges (by simp [herror]) hwarn rfl rfl rfl

theorem processTaskWithoutError_step (herror : work.result.error = none)
    (h : processTaskWithoutError state te lower stage work.result.result newUUID = .ok state') :
    ProcessStep work newUUID state te lower stage state' := by
  unfold processTaskWithoutError at h
  split at h
  next => cases h
  next =>
    cases h
    exact .renamed rfl rfl rfl
  next te' hte' =>
    have hmerges : Merges work te te' := propagateResult_merges (by simp [herror]) hte'
    exact advanceToNextStage_step hmerges h rfl

theorem processTaskOfCluster_step
    (h : processTaskOfCluster work newUUID state = .ok (some state')) :
    ∃ te lower stage, Accepts work state te lower stage
      ∧ ProcessStep work newUUID state te lower stage state' := by
  unfold processTaskOfCluster at h
  split at h
  next => cases h
  next te lower hin =>
    split at h
    next => cases h
    next hid =>
      split at h
      next => cases h
      next hstage =>
        obtain ⟨stage, hpipeline, h⟩ := Outcome.bind_eq_ok.mp h
        rw [Outcome.deref_eq_ok] at hpipeline
        split at h
        next => cases h
        next hkind =>
          refine ⟨te, lower, stage, ⟨hin, by_contra hid, by_contra hstage, hpipeline,
            by_contra hkind⟩, ?_⟩
          split at h
          next kind description herror =>
            obtain ⟨st, hst, h⟩ := Outcome.map_eq_ok.mp h
            cases h
            exact processTaskWithError_step herror hst
          next herror =>
            obtain ⟨st, hst, h⟩ := Outcome.map_eq_ok.mp h
            cases h
            exact processTaskWithoutError_step herror hst

end

theorem processTask_eq_some {work : Work} {newUUID : TaskId} {im im' : Config}
    (h : processTask work newUUID im = .ok (some im')) :
    ∃ state te lower stage state', im.clusters[work.cluster]? = some state
      ∧ Accepts work state te lower stage
      ∧ ProcessStep work newUUID state te lower stage state'
      ∧ im' = { im with clusters := im.clusters.insert work.cluster state' } := by
  unfold processTask at h
  split at h
  next => cases h
  next state hstate =>
    obtain ⟨o, ho, h⟩ := Outcome.bind_eq_ok.mp h
    cases o with
    | none => cases h
    | some state' =>
      cases h
      obtain ⟨te, lower, stage, haccepts, hstep⟩ := processTaskOfCluster_step ho
      exact ⟨state, te, lower, stage, state', hstate, haccepts, hstep, rfl⟩

end Manager

end Claudie
