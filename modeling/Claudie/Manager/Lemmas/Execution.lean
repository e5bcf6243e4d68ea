import Claudie.Lemmas.Terraformer
import Claudie.Manager.DeletedNodes
import Claudie.Manager.Execution

/-!
What the stages of a pipeline leave as it is. The nodes of the kubernetes cluster are changed by the
terraformer, and by the stage that takes deleted nodes out of the tracked state.
-/

namespace Claudie

namespace Manager

theorem withNodePools_self {k8s : K8scluster} :
    k8s.withNodePools k8s.clusterInfo.nodePools = k8s := rfl

theorem shape_of_k8s {c : Clusters} {k8s : K8scluster} (h : c.k8s = some k8s) :
    c.shape = k8s.clusterInfo.nodePools.map NodePool.shape := by
  rw [Clusters.shape, Clusters.kubernetesNodePools, h]
  rfl

theorem map_shape_of_built {nps nps' : List NodePool}
    (h : List.Forall₂ Terraformer.Built nps nps') :
    nps'.map NodePool.shape = nps.map NodePool.shape := by
  induction h with
  | nil => rfl
  | cons h _ ih =>
    rw [List.map_cons, List.map_cons, ih, h.frame]
    rfl

structure Workers.Keeps {β : Type} (w : Workers) (view : Clusters → β) : Prop where
  configured : ∀ stage c, view (w.configure stage c) = view c
  built : ∀ {k8s : K8scluster} {lbs : List LBcluster} {nps : List NodePool},
    List.Forall₂ Terraformer.Built k8s.clusterInfo.nodePools nps →
    view ⟨some (k8s.withNodePools nps), lbs⟩ = view ⟨some k8s, lbs⟩

theorem Workers.keeps_shape (w : Workers) : w.Keeps Clusters.shape where
  configured := w.keeps
  built h := map_shape_of_built h

section stages

variable {β : Type} {w : Workers} {view : Clusters → β} {t t' : Task} {stage : Stage}
  {stages rest : List Stage}

theorem runStages_cons :
    w.runStages (stage :: stages) t = w.runStage stage t >>= w.runStages stages := by
  rw [Workers.runStages, List.foldlM_cons]
  rfl

theorem configured_delta? : (w.configured stage t).delta? = t.delta? := by
  cases t <;> rfl

theorem Workers.Keeps.view_configured (h : w.Keeps view) :
    view (w.configured stage t).clusters = view t.clusters := by
  rw [Workers.configured, Task.clusters_replaceClusters]
  exact h.configured stage t.clusters

def Unrequested (t : Task) : Prop :=
  ∀ withNodePool nodepool nodes unreachable,
    t.delta? = some (.kDeleteNodes withNodePool nodepool nodes unreachable) →
    withNodePool = false ∧ nodepool ∉ t.clusters.shape.map (·.1)

theorem Unrequested.of_eq (h : Unrequested t) (hshape : t'.clusters.shape = t.clusters.shape)
    (hdelta : t'.delta? = t.delta?) : Unrequested t' := by
  unfold Unrequested
  rw [hdelta, hshape]
  exact h

theorem unrequested_of_ne {state : Clusters} {delta : Delta}
    (h : ∀ withNodePool nodepool nodes unreachable,
      delta ≠ .kDeleteNodes withNodePool nodepool nodes unreachable) :
    Unrequested (.update state delta) :=
  fun _ _ _ _ hdelta => absurd (Option.some.inj hdelta) (h _ _ _ _)

theorem findByName_eq_none {c : Clusters} {k8s : K8scluster} {name : String}
    (hk8s : c.k8s = some k8s) :
    NodePools.findByName name k8s.clusterInfo.nodePools = none
      ↔ name ∉ c.shape.map (·.1) := by
  rw [shape_of_k8s hk8s, List.map_map, NodePools.findByName, List.find?_eq_none]
  simp [NodePool.shape]

theorem deleteNodes_of_unrequested {k8s : Option K8scluster} (h : Unrequested t)
    (hdelete : Kuber.deleteNodes t = .ok k8s) : k8s = none := by
  unfold Kuber.deleteNodes at hdelete
  split at hdelete
  next state withNodePool nodepool nodes unreachable =>
    obtain ⟨rfl, hnot⟩ := h withNodePool nodepool nodes unreachable rfl
    obtain ⟨k8s', hk8s', hdelete⟩ := Outcome.bind_eq_ok.mp hdelete
    have hnone := (findByName_eq_none (Outcome.deref_eq_ok.mp hk8s')).mpr hnot
    unfold Kuber.deleteFromState at hdelete
    simp only [Bool.false_eq_true, if_false, hnone] at hdelete
    cases hdelete
    rfl
  next =>
    cases hdelete
    rfl

def isTerraformer : Stage → Bool
  | .terraformer _ _ => true
  | _ => false

theorem runStage_of_unrequested (hstage : isTerraformer stage = false) (h : Unrequested t)
    (hrun : w.runStage stage t = .ok t') : t' = w.configured stage t := by
  unfold Workers.runStage at hrun
  split at hrun
  next => cases hstage
  next =>
    split at hrun
    next =>
      obtain ⟨k8s, hdelete, hrun⟩ := Outcome.bind_eq_ok.mp hrun
      rw [deleteNodes_of_unrequested h hdelete] at hrun
      cases hrun
      rfl
    next =>
      cases hrun
      rfl
  next =>
    cases hrun
    rfl

theorem runStage_terraformer {description : StageDescription} {pass : SubPass TerraformerPass}
    (h : w.runStage (.terraformer description [pass]) t = .ok t') :
    ∃ result errs, Terraformer.runPass w.infra t pass.kind = .ok (result, errs)
      ∧ t.consumeResult result = .ok t' := by
  obtain ⟨result, hresult, h⟩ := Outcome.bind_eq_ok.mp h
  obtain ⟨errs, hrun⟩ := Terraformer.processTask_singleton hresult
  split at h
  next => cases h
  next => exact ⟨result.result, errs, hrun, h⟩

end stages

section consume

variable {s : Clusters} {d : Delta} {t t' : Task} {k8s k8s' : K8scluster}

theorem consumeDeleteDelta_ne {lbs : List LBcluster} {d' : Delta}
    (h : consumeDeleteDelta k8s lbs d = .ok d') (withNodePool : Bool) (nodepool : String)
    (nodes : List String) (unreachable : Option Unreachable) :
    d' ≠ .kDeleteNodes withNodePool nodepool nodes unreachable := by
  unfold consumeDeleteDelta at h
  split at h
  next =>
    split at h
    next => cases h
    next =>
      split at h
      all_goals
        cases h
        simp
  next =>
    split at h
    next => cases h
    next =>
      split at h
      next => cases h
      next =>
        split at h
        all_goals
          cases h
          simp
  next hne _ =>
    cases h
    exact hne withNodePool nodepool nodes unreachable

theorem consumeReplaceDelta_ne {withNodePool : Bool} {nodepool : String} {nodes : List String}
    {unreachable : Option Unreachable}
    (h : d ≠ .kDeleteNodes withNodePool nodepool nodes unreachable) :
    consumeReplaceDelta k8s d ≠ .kDeleteNodes withNodePool nodepool nodes unreachable := by
  intro heq
  unfold consumeReplaceDelta at heq
  split at heq
  all_goals first | exact h heq | cases heq

theorem consumed_eq_ok {lbs : Option (List LBcluster)}
    (h : t.consumeUpdateResult (some k8s) lbs = .ok t') :
    Unrequested t' ∧ ∃ lbs', t'.clusters = ⟨some k8s, lbs'⟩
      ∧ (lbs = some [] → lbs' = t.clusters.loadBalancers) := by
  obtain ⟨old, -, h⟩ := Outcome.bind_eq_ok.mp h
  obtain ⟨t₁, ht₁, h⟩ := Outcome.bind_eq_ok.mp h
  obtain ⟨new, hnew, h⟩ := Outcome.bind_eq_ok.mp h
  obtain ⟨updates, hupdates, h⟩ := Outcome.bind_eq_ok.mp h
  have hnew : new = k8s := by
    unfold consumeK8s at hnew
    dsimp only at hnew
    split at hnew
    next => cases hnew
    next =>
      cases hnew
      rfl
  have hlbs : lbs = some [] →
      mergeLoadBalancers t.clusters.loadBalancers
        (updates.filter (·.targetedK8s = old.clusterInfo.name)) = t.clusters.loadBalancers := by
    rintro rfl
    cases hupdates
    exact mergeLoadBalancers_nil _
  cases h
  rw [hnew]
  cases t with
  | create s =>
    cases ht₁
    exact ⟨fun _ _ _ _ hdelta => (by cases hdelta), _, rfl, hlbs⟩
  | delete s =>
    cases ht₁
    exact ⟨fun _ _ _ _ hdelta => (by cases hdelta), _, rfl, hlbs⟩
  | update s d =>
    obtain ⟨d', hd', ht₁⟩ := Outcome.bind_eq_ok.mp ht₁
    cases ht₁
    refine ⟨?_, _, rfl, hlbs⟩
    intro withNodePool nodepool nodes unreachable hdelta
    exact absurd (Option.some.inj hdelta)
      (consumeReplaceDelta_ne (consumeDeleteDelta_ne hd' _ _ _ _))

theorem consumed_delta? {k : Option K8scluster} {lbs : Option (List LBcluster)}
    (h : (Task.update s d).consumeUpdateResult k lbs = .ok t') :
    ∃ old new d', consumeDeleteDelta old s.loadBalancers d = .ok d'
      ∧ t'.delta? = some (consumeReplaceDelta new d') := by
  obtain ⟨old, -, h⟩ := Outcome.bind_eq_ok.mp h
  obtain ⟨t₁, ht₁, h⟩ := Outcome.bind_eq_ok.mp h
  obtain ⟨new, -, h⟩ := Outcome.bind_eq_ok.mp h
  obtain ⟨updates, -, h⟩ := Outcome.bind_eq_ok.mp h
  obtain ⟨d', hd', ht₁⟩ := Outcome.bind_eq_ok.mp ht₁
  cases ht₁
  cases h
  exact ⟨old, new, d', hd', rfl⟩

end consume

section terraformer

variable {β : Type} {w : Workers} {view : Clusters → β} {state : Clusters} {delta : Delta}
  {k8s : K8scluster} {t t' : Task} {result : ResultKind} {errs : List String}

theorem built_withNodePools {tofu : Terraformer.Tofu} {k8s' : K8scluster} {err : Option String}
    (h : Terraformer.K8scluster.build tofu k8s = (k8s', err)) :
    ∃ nps, List.Forall₂ Terraformer.Built k8s.clusterInfo.nodePools nps
      ∧ k8s' = k8s.withNodePools nps := by
  unfold Terraformer.K8scluster.build at h
  cases h
  exact ⟨_, Terraformer.reconcileNodePools_built, rfl⟩

theorem Workers.Keeps.view_build (hview : w.Keeps view) {tofu : Terraformer.Tofu}
    {k8s' : K8scluster} {err : Option String} {lbs : List LBcluster}
    (h : Terraformer.K8scluster.build tofu k8s = (k8s', err)) :
    view ⟨some k8s', lbs⟩ = view ⟨some k8s, lbs⟩ := by
  obtain ⟨nps, hnps, rfl⟩ := built_withNodePools h
  exact hview.built hnps

def isAddition : Delta → Bool
  | .tfAddK8sNodes _ | .addedK8sNodes _ _ _ => true
  | _ => false

theorem view_addition (hview : w.Keeps view) {infra : Terraformer.Infrastructure}
    {kind : AddNodesKind} {lbs : List LBcluster}
    (hrun : Terraformer.runPass infra (.update ⟨some k8s, lbs⟩ (.tfAddK8sNodes kind))
      .updateInfrastructure = .ok (result, errs))
    (h : (Task.update ⟨some k8s, lbs⟩ (.tfAddK8sNodes kind)).consumeResult result = .ok t') :
    Unrequested t' ∧ t'.delta?.any isAddition = true
      ∧ view t'.clusters = view ⟨some (k8s.withNodePools
        ((Terraformer.addNodes k8s.clusterInfo.nodePools kind).getD k8s.clusterInfo.nodePools)),
        lbs⟩ := by
  unfold Terraformer.runPass Terraformer.reconcileInfrastructure at hrun
  dsimp only at hrun
  unfold Terraformer.addKubernetesNodes at hrun
  cases hadd : Terraformer.addNodes k8s.clusterInfo.nodePools kind with
  | none =>
    rw [hadd] at hrun
    cases hrun
    cases h
    exact ⟨unrequested_of_ne (by simp), rfl, rfl⟩
  | some nps =>
    rw [hadd] at hrun
    cases hrun
    obtain ⟨hunrequested, lbs', hclusters, hlbs⟩ := consumed_eq_ok h
    refine ⟨hunrequested, ?_, ?_⟩
    · obtain ⟨old, new, d, hd, hdelta⟩ := consumed_delta? h
      cases hd
      rw [hdelta]
      rfl
    · rw [hclusters, hlbs rfl, hview.view_build rfl]
      rfl

def isDeletion : Delta → Bool
  | .kDeleteNodes _ _ _ _ | .deletedK8sNodes _ _ => true
  | _ => false

theorem view_deletion (hview : w.Keeps view) {infra : Terraformer.Infrastructure}
    (hdelta : isDeletion delta = true)
    (hrun : Terraformer.runPass infra (.update state delta) .updateInfrastructure
      = .ok (result, errs))
    (h : (Task.update state delta).consumeResult result = .ok t') :
    t'.delta? = some delta ∧ view t'.clusters = view state := by
  unfold Terraformer.runPass Terraformer.reconcileInfrastructure at hrun
  dsimp only at hrun
  split at hrun
  next =>
    cases hrun
    cases h
    exact ⟨rfl, rfl⟩
  next k8s hk8s =>
    unfold isDeletion at hdelta
    split at hdelta
    next =>
      cases hrun
      cases h
      exact ⟨rfl, rfl⟩
    next unreachable kind =>
      simp only [Terraformer.deleteKubernetesNodes] at hrun
      split at hrun
      next =>
        cases hrun
        cases h
        exact ⟨rfl, rfl⟩
      next k8s' hbuild =>
        cases hrun
        obtain ⟨-, lbs', hclusters, hlbs⟩ := consumed_eq_ok h
        have hstate : state = ⟨some k8s, state.loadBalancers⟩ := by rw [← hk8s]
        rw [hclusters, hlbs rfl, hview.view_build hbuild]
        refine ⟨?_, by rw [hstate]; rfl⟩
        obtain ⟨old, lbs, d, hd, hdelta⟩ := consumed_delta? h
        cases hd
        exact hdelta
    next => cases hdelta

end terraformer

section quiet

variable {β : Type} {w : Workers} {view : Clusters → β} {t t' : Task} {stage : Stage}
  {stages done : List Stage}

def isQuiet (delta : Option Delta) : Stage → Bool
  | .terraformer _ [⟨.updateInfrastructure, _⟩] => delta.any isDeletion
  | .terraformer _ _ => false
  | _ => true

theorem runStage_of_quiet (hview : w.Keeps view) (hstage : isQuiet t.delta? stage = true)
    (h : Unrequested t) (hrun : w.runStage stage t = .ok t') :
    view t'.clusters = view t.clusters ∧ t'.delta? = t.delta? := by
  by_cases hterraformer : isTerraformer stage = true
  · unfold isQuiet at hstage
    split at hstage
    next description about =>
      obtain ⟨result, errs, hpass, hconsume⟩ := runStage_terraformer hrun
      cases t with
      | create state => cases hstage
      | delete state => cases hstage
      | update state delta =>
        obtain ⟨hdelta, hclusters⟩ := view_deletion hview hstage hpass hconsume
        exact ⟨hclusters, hdelta⟩
    next => cases hstage
    next hne =>
      unfold isTerraformer at hterraformer
      split at hterraformer
      next => exact absurd rfl (hne _ _)
      next => cases hterraformer
  · rw [runStage_of_unrequested (by simpa using hterraformer) h hrun]
    exact ⟨hview.view_configured, configured_delta?⟩

theorem runStages_of_quiet (hview : w.Keeps view)
    (hstages : ∀ stage ∈ stages, isQuiet t.delta? stage = true) (h : Unrequested t)
    (hrun : w.runStages stages t = .ok t') :
    view t'.clusters = view t.clusters ∧ t'.delta? = t.delta? := by
  induction stages generalizing t with
  | nil =>
    cases hrun
    exact ⟨rfl, rfl⟩
  | cons stage stages ih =>
    rw [List.forall_mem_cons] at hstages
    rw [runStages_cons] at hrun
    obtain ⟨t₁, hstage, hrun⟩ := Outcome.bind_eq_ok.mp hrun
    obtain ⟨hclusters, hdelta⟩ := runStage_of_quiet hview hstages.1 h hstage
    have hshape := (runStage_of_quiet w.keeps_shape hstages.1 h hstage).1
    obtain ⟨hclusters', hdelta'⟩ := ih (by rw [hdelta]; exact hstages.2) (h.of_eq hshape hdelta) hrun
    exact ⟨hclusters'.trans hclusters, hdelta'.trans hdelta⟩

end quiet

section additions

open scheduleAdditionsInNodePools (pipeline)

variable {β : Type} {w : Workers} {view : Clusters → β} {useProxy hasApiServer : Bool}
  {lbs : List LBcluster} {np : String} {kuberPasses : List (SubPass KuberPass)}
  {state : Clusters} {delta : Delta} {t' : Task} {k8s : K8scluster} {d : Option Delta}
  {done : List Stage}

theorem isQuiet_additions :
    ∀ stage ∈ pipeline ⟨useProxy, hasApiServer, true⟩ lbs np kuberPasses,
      isQuiet d stage = true := by
  unfold pipeline
  cases targetsNodePool lbs true np <;>
    simp [isQuiet, scheduleAdditionsInNodePools.ansiblerStage, reconcileEnvoyStage]

theorem pipeline_of_dynamic :
    ∃ description about rest,
      pipeline ⟨useProxy, hasApiServer, false⟩ lbs np kuberPasses
        = .terraformer description [⟨.updateInfrastructure, about⟩] :: rest
      ∧ ∀ d, ∀ stage ∈ rest, isQuiet d stage = true := by
  refine ⟨_, _, _, rfl, ?_⟩
  cases targetsNodePool lbs false np <;>
    simp [isQuiet, scheduleAdditionsInNodePools.ansiblerStage, reconcileEnvoyStage]

theorem additions_static (hview : w.Keeps view)
    (hdone : done <+: pipeline ⟨useProxy, hasApiServer, true⟩ lbs np kuberPasses)
    (hrun : w.runStages done (.update state delta) = .ok t')
    (h : Unrequested (.update state delta)) :
    view t'.clusters = view state ∧ t'.delta? = some delta :=
  runStages_of_quiet hview (fun stage hstage => isQuiet_additions stage (hdone.subset hstage)) h hrun

theorem additions_dynamic (hview : w.Keeps view) {kind : AddNodesKind}
    (hdone : done <+: pipeline ⟨useProxy, hasApiServer, false⟩ lbs np kuberPasses)
    (hne : done ≠ [])
    (hrun : w.runStages done (.update ⟨some k8s, lbs⟩ (.tfAddK8sNodes kind)) = .ok t') :
    view t'.clusters = view ⟨some (k8s.withNodePools
        ((Terraformer.addNodes k8s.clusterInfo.nodePools kind).getD k8s.clusterInfo.nodePools)),
        lbs⟩
      ∧ t'.delta?.any isAddition = true := by
  obtain ⟨description, about, rest, hpipeline, hrest⟩ :=
    @pipeline_of_dynamic useProxy hasApiServer lbs np kuberPasses
  rw [hpipeline] at hdone
  obtain ⟨done, rfl, hrestDone⟩ := (List.prefix_cons_iff.mp hdone).resolve_left hne
  rw [runStages_cons] at hrun
  obtain ⟨t₁, hstage, hrun⟩ := Outcome.bind_eq_ok.mp hrun
  obtain ⟨result, errs, hpass, hconsume⟩ := runStage_terraformer hstage
  obtain ⟨hunrequested, hdelta, hclusters⟩ := view_addition hview hpass hconsume
  obtain ⟨hview', hdelta'⟩ := runStages_of_quiet hview
    (fun stage hstage => hrest _ stage (hrestDone.subset hstage)) hunrequested hrun
  rw [hview', hdelta']
  exact ⟨hclusters, hdelta⟩

end additions

section deletions

open scheduleDeletionsInNodePools (removeFromTrackedStage)

variable {β : Type} {w : Workers} {view : Clusters → β} {opts : K8sNodeDeletionOptions}
  {withNodePool : Bool} {np : String} {nodes : List String} {unreachable : Option Unreachable}
  {kuberPasses : List (SubPass KuberPass)} {c : Clusters} {t' : Task} {k8s : K8scluster}

theorem deleteNodes_eq_none (hk8s : c.k8s = some k8s)
    (h : Kuber.deleteNodes (.update c (.kDeleteNodes withNodePool np nodes unreachable))
      = .ok none) :
    withNodePool = false ∧ NodePools.findByName np k8s.clusterInfo.nodePools = none := by
  unfold Kuber.deleteNodes Kuber.deleteFromState at h
  simp only [hk8s, Outcome.deref_some, Outcome.ok_bind] at h
  cases withNodePool with
  | true => cases h
  | false =>
    refine ⟨rfl, ?_⟩
    simp only [Bool.false_eq_true, if_false, NodePools.modifyByName_pure, Outcome.ok_bind] at h
    split at h
    next hnone => exact hnone
    next => cases h

theorem runStage_removeFromTracked (hview : w.Keeps view) (hk8s : c.k8s = some k8s)
    (hrun : w.runStage removeFromTrackedStage
      (.update c (.kDeleteNodes withNodePool np nodes unreachable)) = .ok t') :
    Unrequested t' ∧ t'.delta?.any isDeletion = true
      ∧ view t'.clusters = view ⟨some (k8s.withNodePools
          (remaining withNodePool np nodes k8s.clusterInfo.nodePools)), c.loadBalancers⟩ := by
  have hc : c = ⟨some k8s, c.loadBalancers⟩ := by rw [← hk8s]
  unfold Workers.runStage removeFromTrackedStage at hrun
  simp only [List.any_cons, decide_true, Bool.true_or, if_true] at hrun
  obtain ⟨k8s', hdelete, hrun⟩ := Outcome.bind_eq_ok.mp hrun
  cases k8s' with
  | none =>
    cases hrun
    obtain ⟨rfl, hnone⟩ := deleteNodes_eq_none hk8s hdelete
    refine ⟨?_, rfl, ?_⟩
    · refine Unrequested.of_eq ?_ w.keeps_shape.view_configured configured_delta?
      rintro _ _ _ _ ⟨⟩
      exact ⟨rfl, (findByName_eq_none hk8s).mp hnone⟩
    · have hremaining : remaining false np nodes k8s.clusterInfo.nodePools
          = k8s.clusterInfo.nodePools := List.modifyFirst_of_find?_eq_none hnone
      rw [hview.view_configured, hremaining, withNodePools_self, ← hc]
      rfl
  | some k8s' =>
    obtain ⟨hunrequested, lbs', hclusters, hlbs⟩ := consumed_eq_ok hrun
    obtain ⟨old, affected, -, -, rfl⟩ := consume_kDeleteNodes hrun
    refine ⟨hunrequested, rfl, ?_⟩
    rw [hclusters, hlbs rfl, deleteNodes_eq_some hk8s hdelete]
    rfl

theorem pipeline_of_deletion {lbs : List LBcluster} :
    ∃ rest, scheduleDeletionsInNodePools.pipeline opts lbs np kuberPasses
        = removeFromTrackedStage :: rest
      ∧ ∀ d, d.any isDeletion = true → ∀ stage ∈ rest, isQuiet d stage = true := by
  refine ⟨_, rfl, ?_⟩
  intro d hd
  cases targetsNodePool lbs opts.isStatic np <;>
    cases (scheduleDeletionsInNodePools.ansiblerPasses opts).isEmpty <;>
    cases opts.isStatic <;> simp [isQuiet, reconcileEnvoyStage, hd]

theorem deletions_run (hview : w.Keeps view) (hk8s : c.k8s = some k8s) {lbs : List LBcluster}
    {done : List Stage}
    (hdone : done <+: scheduleDeletionsInNodePools.pipeline opts lbs np kuberPasses)
    (hne : done ≠ [])
    (hrun : w.runStages done (.update c (.kDeleteNodes withNodePool np nodes unreachable))
      = .ok t') :
    view t'.clusters = view ⟨some (k8s.withNodePools
        (remaining withNodePool np nodes k8s.clusterInfo.nodePools)), c.loadBalancers⟩
      ∧ t'.delta?.any isDeletion = true := by
  obtain ⟨rest, hpipeline, hrest⟩ := @pipeline_of_deletion opts np kuberPasses lbs
  rw [hpipeline] at hdone
  obtain ⟨done, rfl, hrestDone⟩ := (List.prefix_cons_iff.mp hdone).resolve_left hne
  rw [runStages_cons] at hrun
  obtain ⟨t₁, hstage, hrun⟩ := Outcome.bind_eq_ok.mp hrun
  obtain ⟨hunrequested, hdelta, hclusters⟩ := runStage_removeFromTracked hview hk8s hstage
  obtain ⟨hview', hdelta'⟩ := runStages_of_quiet hview
    (fun stage hstage => hrest _ hdelta stage (hrestDone.subset hstage)) hunrequested hrun
  rw [hview', hdelta']
  exact ⟨hclusters, hdelta⟩

end deletions

end Manager

end Claudie
