import Claudie.Lib.Transition
import Claudie.Manager.Lemmas.Longhorn

/-!
The setting of Longhorn for the cluster autoscaler, over tasks that are executed one after another.
-/

namespace Claudie

namespace Manager

namespace Longhorn

inductive Request where
  | create (desired : Clusters)
  | additions (ord : MapOrder) (desired : Clusters) (diff : NodePoolsDiffResult)
      (opts : K8sNodeAdditionOptions)
  | deletions (ord : MapOrder) (diff : NodePoolsDiffResult) (opts : K8sNodeDeletionOptions)
  | moveToAutoscaled (np : String) (config : AutoscalerConf)
  | moveFromAutoscaled (np : String)
  | rollingUpdate (ord : MapOrder) (entropy : Entropy) (np : String)
      (templates : TemplateRepository) (opts : K8sNodeAdditionOptions)

def Request.schedule (id : TaskId) (current : Clusters) : Request → Outcome (Option TaskEvent)
  | create desired => some <$> scheduleCreateCluster id desired
  | additions ord desired diff opts =>
    scheduleAdditionsInNodePools ord id current desired diff opts
  | deletions ord diff opts => scheduleDeletionsInNodePools ord id current diff opts
  | moveToAutoscaled np config => some <$> scheduleMoveNodePoolToAutoscaled id current np config
  | moveFromAutoscaled np => some <$> scheduleMoveNodePoolFromAutoscaled id current np
  | rollingUpdate ord entropy np templates opts =>
    scheduleRollingUpdate ord entropy id current np templates opts

structure Action where
  request : Request
  id : TaskId
  workers : Workers

def machine : Machine (Bool × Clusters) Action where
  init := (false, ⟨none, []⟩)
  step s a :=
    match a.request.schedule a.id s.2 with
    | .ok (some te) => (execute a.workers te s.1).toOption
    | _ => none

def Autoscales (c : Clusters) : Prop :=
  ∃ np ∈ c.kubernetesNodePools, NodePools.isAutoscaled np = true

def Agrees (s : Bool × Clusters) : Prop := s.1 = true ↔ Autoscales s.2

def OnlyAutoscaled (c : Clusters) (np : String) : Prop :=
  (NodePools.autoscaled c.kubernetesNodePools).map (·.name) = [np]

def FirstAutoscaled (c : Clusters) (np : String) : Prop :=
  ∃ pool, NodePools.findByName np c.kubernetesNodePools = some pool
    ∧ NodePools.isAutoscaled pool = true

/--
The only autoscaled nodepool is not moved from autoscaled. The other conditions say that a cluster with
autoscaled nodepools is not created over by one without, that a nodepool moved to autoscaled exists and
is dynamic, and that no nodepool stands before another of its name.
-/
def Request.Guarded (c : Clusters) : Request → Prop
  | create desired => Autoscales c → Autoscales desired
  | additions _ _ _ _ => True
  | deletions ord diff _ =>
    ∀ np, wholeDeletion ord diff = some np → OnlyAutoscaled c np → FirstAutoscaled c np
  | moveToAutoscaled np _ => Autoscales c ∨ HasDynamic c.kubernetesNodePools np
  | moveFromAutoscaled np => ¬ (OnlyAutoscaled c np ∧ FirstAutoscaled c np)
  | rollingUpdate _ _ _ _ _ => True

section

variable {c : Clusters} {np : String} {s s' : Bool × Clusters} {a : Action}

theorem autoscales_iff : Autoscales c ↔ c.shape.any (·.2) = true := by
  rw [Clusters.shape, List.any_map, List.any_eq_true]
  rfl

theorem onlyAutoscaled_iff : OnlyAutoscaled c np ↔ c.shape.filter (·.2) = [(np, true)] := by
  rw [OnlyAutoscaled, Clusters.shape, filter_shape_eq_singleton, List.map_eq_singleton_iff]

theorem firstAutoscaled_iff :
    FirstAutoscaled c np ↔ c.shape.find? (·.1 = np) = some (np, true) := by
  rw [FirstAutoscaled, Clusters.shape, List.find?_map, Option.map_eq_some_iff]
  constructor
  · rintro ⟨pool, hpool, hautoscaled⟩
    refine ⟨pool, hpool, ?_⟩
    rw [NodePool.shape, name_of_findByName hpool, hautoscaled]
  · rintro ⟨pool, hpool, hshape⟩
    exact ⟨pool, hpool, congrArg Prod.snd hshape⟩

theorem agrees_iff_eq : Agrees s ↔ s.1 = s.2.shape.any (·.2) := by
  rw [Agrees, autoscales_iff]
  exact Bool.eq_iff_iff.symm

theorem Effect.Has.agrees_iff {e : Effect} (h : e.Has s s') (hs : Agrees s) :
    Agrees s' ↔ e.Guarded s.2.shape := by
  rw [agrees_iff_eq] at hs ⊢
  rw [h.1, h.2, hs]
  exact e.agrees_iff

theorem schedule_some {x : Outcome TaskEvent} {te : TaskEvent} (h : some <$> x = .ok (some te)) :
    x = .ok te := by
  cases x with
  | error e => cases h
  | ok te' =>
    cases h
    rfl

theorem has_of_schedule {r : Request} {id : TaskId} {w : Workers} {te : TaskEvent}
    (h : r.schedule id s.2 = .ok (some te)) (hexec : execute w te s.1 = .ok s') :
    ∃ e : Effect, e.Has s s' ∧ (e.Guarded s.2.shape ↔ r.Guarded s.2) := by
  cases r with
  | create desired =>
    refine ⟨_, create_has (schedule_some h) hexec, ?_⟩
    rw [Effect.Guarded, Request.Guarded, autoscales_iff, autoscales_iff]
  | additions ord desired diff opts =>
    obtain hkeep | ⟨np, autoscaled, hadd⟩ := additions_has h hexec
    · exact ⟨_, hkeep, Iff.rfl⟩
    · exact ⟨_, hadd, Iff.rfl⟩
  | deletions ord diff opts =>
    obtain ⟨hkeep, hnone⟩ | ⟨np, hdelete, hsome⟩ := deletions_has h hexec
    · refine ⟨_, hkeep, ?_⟩
      simp [Effect.Guarded, Request.Guarded, hnone]
    · refine ⟨_, hdelete, ?_⟩
      simp [Effect.Guarded, Request.Guarded, hsome, onlyAutoscaled_iff, firstAutoscaled_iff]
  | moveToAutoscaled np config =>
    rw [Request.Guarded, autoscales_iff]
    obtain ⟨hmoved, hdynamic⟩ | ⟨henable, hnot⟩ := moveTo_has (schedule_some h) hexec
    · exact ⟨_, hmoved,
        iff_of_true (.inr (mem_keys_of_hasDynamic hdynamic)) (.inr hdynamic)⟩
    · refine ⟨_, henable, ?_⟩
      simp [Effect.Guarded, hnot]
  | moveFromAutoscaled np =>
    refine ⟨_, moveFrom_has (schedule_some h) hexec, ?_⟩
    rw [Effect.Guarded, Request.Guarded, Effect.Sole, onlyAutoscaled_iff, firstAutoscaled_iff]
  | rollingUpdate ord entropy np templates opts =>
    obtain ⟨k8s, -, h⟩ := Outcome.bind_eq_ok.mp h
    split at h
    next => cases h
    next => cases h
    next =>
      obtain hkeep | ⟨np, autoscaled, hadd⟩ := additions_has h hexec
      · exact ⟨_, hkeep, Iff.rfl⟩
      · exact ⟨_, hadd, Iff.rfl⟩

theorem step_agrees_iff (hs : Agrees s) (h : machine.step s a = some s') :
    Agrees s' ↔ a.request.Guarded s.2 := by
  simp only [machine] at h
  split at h
  next te hschedule =>
    cases hexec : execute a.workers te s.1 with
    | error e =>
      rw [hexec] at h
      cases h
    | ok s₁ =>
      rw [hexec] at h
      cases h
      obtain ⟨e, he, hguarded⟩ := has_of_schedule hschedule hexec
      rw [he.agrees_iff hs, hguarded]
  next => cases h

end

/--
In every run whose tasks meet the condition the setting is enabled exactly if there is an autoscaled
nodepool, and after a task that does not meet it this is not the case.
-/
theorem setting_agrees_with_autoscaled_nodepools (s : Bool × Clusters)
    (hs : machine.Reach (fun s a => a.request.Guarded s.2) s) :
    Agrees s ∧ ∀ a s', machine.step s a = some s' → (Agrees s' ↔ a.request.Guarded s.2) := by
  have hagrees : Agrees s := by
    refine hs.invariant ?_ ?_
    · simp [Agrees, Autoscales, machine, Clusters.kubernetesNodePools]
    · intro s a s' _ hagrees hguarded hstep
      exact (step_agrees_iff hagrees hstep).mpr hguarded
  exact ⟨hagrees, fun a s' hstep => step_agrees_iff hagrees hstep⟩

namespace Demo

def node : Node := ⟨"main-abc1234-np-1234567-01", "", "", .worker, "", .preparing, 0, 0⟩

def provider : Provider :=
  ⟨"hetzner-1", "hetzner", .hetzner "token", ⟨"", "", "", none, ⟨"", "", "", "", ""⟩⟩⟩

def nodePool (autoscalerConfig : Option AutoscalerConf) : NodePool :=
  ⟨.dynamic ⟨"cpx11", "ubuntu", 0, "nbg1", "", 1, provider, autoscalerConfig, none, "", "",
    "10.0.0.0/24", "", false⟩, "np-1234567", [node], false, ∅, [], ∅, 22⟩

def cluster (np : NodePool) : Clusters :=
  ⟨some ⟨⟨"main", "abc1234", [np]⟩, "192.168.2.0/24", "", "1.31.0", ⟨"off", "", ""⟩⟩, []⟩

-- tofu creates every node, and the other services leave the nodepools as they are.
def workers : Workers where
  infra :=
    { tofu := fun _ =>
        { apply := .ok ()
          output := fun _ => .ok (fun _ => some (.ok ⟨"203.0.113.7", 22, 51820⟩))
          applyDns := .ok ()
          endpoint := .ok ""
          alternativeName := fun _ => none }
      destroyDNSRecords := fun _ => none
      destroyCluster := fun _ => none }
  configure _ c := c
  keeps _ _ := rfl

def create : Action := ⟨.create (cluster (nodePool (some ⟨0, 3, 1⟩))), 1, workers⟩

def moveFrom : Action := ⟨.moveFromAutoscaled "np-1234567", 2, workers⟩

theorem created_isSome : (machine.step machine.init create).isSome = true := rfl

def created : Bool × Clusters := (machine.step machine.init create).get created_isSome

theorem created_reach : machine.Reach (fun s a => a.request.Guarded s.2) created := by
  refine .step .init ?_ (Option.some_get created_isSome).symm
  rintro ⟨np, hnp, -⟩
  exact absurd hnp List.not_mem_nil

theorem moveFrom_isSome : (machine.step created moveFrom).isSome = true := rfl

def moved : Bool × Clusters := (machine.step created moveFrom).get moveFrom_isSome

theorem moved_enabled : moved.1 = true := rfl

theorem moved_fixed :
    moved.2.kubernetesNodePools.all (fun np => !NodePools.isAutoscaled np) = true := by
  decide

end Demo

theorem setting_agrees_created : Agrees Demo.created :=
  (setting_agrees_with_autoscaled_nodepools Demo.created Demo.created_reach).1

-- The only autoscaled nodepool becomes a fixed one, and the setting stays enabled.
theorem setting_outlives_autoscaled_nodepool :
    ∃ s s', machine.Reach (fun s a => a.request.Guarded s.2) s
      ∧ machine.step s Demo.moveFrom = some s' ∧ s'.1 = true ∧ ¬ Autoscales s'.2 := by
  refine ⟨Demo.created, Demo.moved, Demo.created_reach, (Option.some_get _).symm,
    Demo.moved_enabled, ?_⟩
  rintro ⟨np, hnp, hautoscaled⟩
  have hfixed := List.all_eq_true.mp Demo.moved_fixed np hnp
  rw [hautoscaled] at hfixed
  cases hfixed

end Longhorn

end Manager

end Claudie
