import Claudie.Manager.Lemmas.Execution

/-!
What executed tasks do to the setting of Longhorn for the cluster autoscaler, and to the nodepools it
depends on.
-/

namespace Claudie

namespace Manager

namespace Longhorn

inductive Effect where
  | create (shape : List (String × Bool))
  | keep
  | add (np : String) (autoscaled : Bool)
  | delete (np : String)
  | toAutoscaled (np : String)
  | enable
  | fromAutoscaled (np : String)

namespace Effect

def shape : Effect → List (String × Bool) → List (String × Bool)
  | create shape, _ => shape
  | keep, s | enable, s => s
  | add np autoscaled, s => s ++ [(np, autoscaled)]
  | delete np, s => s.eraseP (·.1 = np)
  | toAutoscaled np, s => s.modifyFirst (·.1 = np) (fun x => (x.1, true))
  | fromAutoscaled np, s => s.modifyFirst (·.1 = np) (fun x => (x.1, false))

def enabled : Effect → List (String × Bool) → Bool → Bool
  | create shape, _, enabled => enabled || shape.any (·.2)
  | keep, _, enabled | fromAutoscaled _, _, enabled => enabled
  | add _ autoscaled, s, enabled => enabled || (autoscaled && !s.any (·.2))
  | delete np, s, enabled => enabled && s.filter (·.2) ≠ [(np, true)]
  | toAutoscaled _, s, enabled | enable, s, enabled => enabled || !s.any (·.2)

def Sole (s : List (String × Bool)) (np : String) : Prop :=
  s.filter (·.2) = [(np, true)] ∧ s.find? (·.1 = np) = some (np, true)

def Guarded (s : List (String × Bool)) : Effect → Prop
  | create shape => s.any (·.2) = true → shape.any (·.2) = true
  | enable => s.any (·.2) = true
  | delete np => s.filter (·.2) = [(np, true)] → s.find? (·.1 = np) = some (np, true)
  | toAutoscaled np => s.any (·.2) = true ∨ np ∈ s.map (·.1)
  | fromAutoscaled np => ¬ Sole s np
  | keep | add _ _ => True

section agreement

variable {s : List (String × Bool)} {np : String}

theorem any_of_filter (h : s.filter (·.2) = [(np, true)]) : s.any (·.2) = true := by
  have hmem : (np, true) ∈ s.filter (·.2) := by
    rw [h]
    exact List.mem_singleton_self _
  exact List.any_eq_true.mpr ⟨_, (List.mem_filter.mp hmem).1, rfl⟩

theorem any_eraseP :
    (s.eraseP (·.1 = np)).any (·.2) = true ↔ s.any (·.2) = true ∧ ¬ Sole s np := by
  induction s with
  | nil => simp
  | cons x s ih =>
    obtain ⟨name, autoscaled⟩ := x
    by_cases hname : name = np
    · subst hname
      rw [List.eraseP_cons_of_pos (by simp)]
      cases autoscaled <;> simp [Sole]
    · rw [List.eraseP_cons_of_neg (by simp [hname]), List.any_cons, Bool.or_eq_true, ih]
      cases autoscaled <;> simp [Sole, hname]

theorem any_fromAutoscaled :
    (s.modifyFirst (·.1 = np) (fun x => (x.1, false))).any (·.2)
      = (s.eraseP (·.1 = np)).any (·.2) := by
  induction s with
  | nil => rfl
  | cons x s ih =>
    by_cases hname : x.1 = np
    · rw [List.modifyFirst_cons, if_pos (by simp [hname]),
        List.eraseP_cons_of_pos (by simp [hname]), List.any_cons, Bool.false_or]
    · rw [List.modifyFirst_cons, if_neg (by simp [hname]),
        List.eraseP_cons_of_neg (by simp [hname]), List.any_cons, List.any_cons, ih]

theorem any_toAutoscaled :
    (s.modifyFirst (·.1 = np) (fun x => (x.1, true))).any (·.2)
      = (s.any (·.2) || decide (np ∈ s.map (·.1))) := by
  induction s with
  | nil => rfl
  | cons x s ih =>
    by_cases hname : x.1 = np
    · rw [List.modifyFirst_cons, if_pos (by simp [hname])]
      simp [hname]
    · rw [List.modifyFirst_cons, if_neg (by simp [hname]), List.any_cons, ih]
      simp [Ne.symm hname, Bool.or_assoc]

theorem agrees_iff (e : Effect) :
    e.enabled s (s.any (·.2)) = (e.shape s).any (·.2) ↔ e.Guarded s := by
  cases e with
  | create shape =>
    simp only [enabled, Effect.shape, Guarded]
    cases s.any (·.2) <;> cases shape.any (·.2) <;> simp
  | keep => simp [enabled, shape, Guarded]
  | enable =>
    simp only [enabled, shape, Guarded]
    cases s.any (·.2) <;> simp
  | add np autoscaled =>
    simp only [enabled, shape, Guarded, List.any_append, List.any_cons, List.any_nil]
    cases s.any (·.2) <;> simp
  | delete np =>
    rw [Bool.eq_iff_iff, shape, any_eraseP, enabled, Guarded, Sole]
    by_cases hfilter : s.filter (·.2) = [(np, true)]
    · simp [hfilter, any_of_filter hfilter]
    · simp [hfilter]
  | toAutoscaled np =>
    simp only [enabled, shape, Guarded, any_toAutoscaled]
    cases s.any (·.2) <;> simp
  | fromAutoscaled np =>
    rw [Bool.eq_iff_iff, shape, any_fromAutoscaled, any_eraseP, enabled, Guarded]
    by_cases hsole : Sole s np
    · simp [hsole, any_of_filter hsole.1]
    · simp [hsole]

end agreement

end Effect

section nodepools

variable {np np' : NodePool} {nps nps' : List NodePool} {name : String} {nodes : List String}

theorem appendDynamicNodes_shape {added : List Node} :
    NodePool.shape (NodePools.appendDynamicNodes np added) = NodePool.shape np := by
  unfold NodePools.appendDynamicNodes NodePool.shape NodePools.isAutoscaled NodePool.dynamic?
  cases htype : np.type with
  | dynamic d => rfl
  | static s => simp only [htype]

theorem deleteNodes_shape :
    NodePool.shape (NodePools.deleteNodes np nodes) = NodePool.shape np := by
  unfold NodePools.deleteNodes NodePool.shape NodePools.isAutoscaled NodePool.dynamic?
  cases htype : np.type with
  | dynamic d => rfl
  | static s => rfl

theorem copyNodes_shape {dst src : NodePool} (h : NodePools.copyNodes dst src nodes = .ok np) :
    NodePool.shape np = NodePool.shape dst := by
  unfold NodePools.copyNodes at h
  dsimp only at h
  split at h
  next d _ htype _ =>
    cases h
    simp only [NodePool.shape, NodePools.isAutoscaled, NodePool.dynamic?, htype]
  next d _ htype _ =>
    split at h
    next => cases h
    next =>
      cases h
      simp only [NodePool.shape, NodePools.isAutoscaled, NodePool.dynamic?, htype]
  next =>
    cases h
    rfl

theorem modifyByName_shape {f : NodePool → Outcome NodePool}
    (hf : ∀ np np', f np = .ok np' → NodePool.shape np' = NodePool.shape np)
    (h : NodePools.modifyByName name f nps = .ok nps') :
    nps'.map NodePool.shape = nps.map NodePool.shape := by
  obtain ⟨g, hg, rfl⟩ := NodePools.modifyByName_eq_ok h
  exact List.map_modifyFirst_of_eq (fun np hnp => hf np _ (hg np hnp))

theorem deleteByName_shape :
    (NodePools.deleteByName nps name).map NodePool.shape
      = (nps.map NodePool.shape).eraseP (·.1 = name) := by
  rw [List.eraseP_map]
  rfl

theorem any_shape : (nps.map NodePool.shape).any (·.2) = !(NodePools.autoscaled nps).isEmpty := by
  rw [NodePools.autoscaled, List.any_map]
  induction nps with
  | nil => rfl
  | cons np nps ih =>
    rw [List.any_cons, ih, List.filter_cons]
    cases hnp : NodePools.isAutoscaled np <;> simp [NodePool.shape, hnp]

theorem filter_shape :
    (nps.map NodePool.shape).filter (·.2)
      = (NodePools.autoscaled nps).map (fun np => (np.name, true)) := by
  rw [NodePools.autoscaled, List.filter_map]
  refine List.map_congr_left ?_
  intro np hnp
  have hautoscaled : NodePools.isAutoscaled np = true := (List.mem_filter.mp hnp).2
  rw [NodePool.shape, hautoscaled]

theorem filter_shape_eq_singleton :
    (nps.map NodePool.shape).filter (·.2) = [(name, true)]
      ↔ ∃ np, NodePools.autoscaled nps = [np] ∧ np.name = name := by
  rw [filter_shape]
  constructor
  · intro h
    obtain ⟨np, hnp, heq⟩ := List.map_eq_singleton_iff.mp h
    exact ⟨np, hnp, congrArg Prod.fst heq⟩
  · rintro ⟨np, hnp, rfl⟩
    rw [hnp]
    rfl

end nodepools

section effect

variable {w : Workers} {id : TaskId} {te : TaskEvent} {s s' : Bool × Clusters} {t t' : Task}
  {ord : MapOrder} {stages : List Stage} {state : Clusters} {delta : Delta}
  {result : ResultKind} {errs : List String}

def Effect.Has (e : Effect) (s s' : Bool × Clusters) : Prop :=
  s'.1 = e.enabled s.2.shape s.1 ∧ s'.2.shape = e.shape s.2.shape

theorem execute_eq_ok (h : execute w te s.1 = .ok s') :
    ∃ t, w.runStages te.pipeline te.task = .ok t
      ∧ s'.1 = pipelineCA te.pipeline s.1 ∧ s'.2 = t.clusters := by
  obtain ⟨t, ht, h⟩ := Outcome.bind_eq_ok.mp h
  cases h
  exact ⟨t, ht, rfl, rfl⟩

theorem pipelineCA_cons {stage : Stage} {enabled : Bool} :
    pipelineCA (stage :: stages) enabled = pipelineCA stages (Stage.longhornCA stage enabled) :=
  List.foldl_cons ..

theorem pipelineCA_append {rest : List Stage} {enabled : Bool} :
    pipelineCA (stages ++ rest) enabled = pipelineCA rest (pipelineCA stages enabled) :=
  List.foldl_append ..

theorem pipelineCA_createPipeline {k8s : K8scluster} {lbs : List LBcluster} {enabled : Bool} :
    pipelineCA (createPipeline k8s lbs true) enabled
      = (enabled || (k8s.clusterInfo.nodePools.map NodePool.shape).any (·.2)) := by
  rw [any_shape]
  unfold createPipeline
  cases hempty : (NodePools.autoscaled k8s.clusterInfo.nodePools).isEmpty <;>
    cases usesProxy k8s <;> cases lbs.isEmpty <;>
    simp [pipelineCA, Stage.longhornCA, Kuber.longhornCA]

theorem build_consumed {k8s : K8scluster} (hk8s : state.k8s = some k8s)
    (hbuild : Terraformer.build w.infra state = .ok (result, errs))
    (h : t.consumeResult result = .ok t') :
    t'.clusters.shape = state.shape ∧ Unrequested t' := by
  rw [shape_of_k8s hk8s]
  unfold Terraformer.build at hbuild
  rw [hk8s] at hbuild
  dsimp only at hbuild
  split at hbuild
  next k8s' _ hk8s' =>
    cases hbuild
    obtain ⟨hunrequested, lbs', hclusters, -⟩ := consumed_eq_ok h
    rw [hclusters]
    exact ⟨@Workers.Keeps.view_build _ w _ _ w.keeps_shape _ _ _ lbs' hk8s', hunrequested⟩
  next k8s' hk8s' =>
    obtain ⟨built, -, hbuild⟩ := Outcome.bind_eq_ok.mp hbuild
    cases hbuild
    obtain ⟨hunrequested, lbs', hclusters, -⟩ := consumed_eq_ok h
    rw [hclusters]
    exact ⟨@Workers.Keeps.view_build _ w _ _ w.keeps_shape _ _ _ lbs' hk8s', hunrequested⟩

theorem create_has {desired : Clusters} (h : scheduleCreateCluster id desired = .ok te)
    (hexec : execute w te s.1 = .ok s') : (Effect.create desired.shape).Has s s' := by
  obtain ⟨k8s, hk8s, h⟩ := Outcome.bind_eq_ok.mp h
  rw [Outcome.deref_eq_ok] at hk8s
  cases h
  obtain ⟨t, hrun, henabled, hclusters⟩ := execute_eq_ok hexec
  refine ⟨?_, ?_⟩
  · rw [henabled, pipelineCA_createPipeline, Effect.enabled, shape_of_k8s hk8s]
  · obtain ⟨t₁, hstage, hrun⟩ := Outcome.bind_eq_ok.mp (runStages_cons.symm.trans hrun)
    obtain ⟨result, errs, hbuild, hconsume⟩ := runStage_terraformer hstage
    obtain ⟨hshape, hunrequested⟩ := build_consumed hk8s hbuild hconsume
    have hstages : ∀ stage ∈ (createPipeline k8s desired.loadBalancers true).tail,
        isQuiet t₁.delta? stage = true := by
      unfold createPipeline
      cases usesProxy k8s <;> simp [isQuiet]
    rw [hclusters, (runStages_of_quiet w.keeps_shape hstages hunrequested hrun).1, hshape]
    rfl

theorem addNodes_existing_shape {nps : List NodePool} {np : String} {nodes : List Node} :
    ((Terraformer.addNodes nps (.existing np nodes)).getD nps).map NodePool.shape
      = nps.map NodePool.shape := by
  unfold Terraformer.addNodes
  dsimp only
  split
  next => rfl
  next =>
    split
    next => rfl
    next => exact List.map_modifyFirst_of_eq (fun _ _ => appendDynamicNodes_shape)

section additions

open scheduleAdditionsInNodePools (pipeline added partiallyAdded)

variable {opts : K8sNodeAdditionOptions} {lbs : List LBcluster} {np : String} {k8s : K8scluster}
  {kuberPasses : List (SubPass KuberPass)} {desired : List NodePool}
  {l : List (String × List String)}

theorem pipelineCA_additions {enabled : Bool} :
    pipelineCA (pipeline opts lbs np kuberPasses) enabled
      = kuberPasses.foldl (fun enabled pass => Kuber.longhornCA pass.kind enabled) enabled := by
  rw [pipeline, pipelineCA_append, pipelineCA_append]
  split <;> split <;> rfl

theorem added_has (hs : s.2 = ⟨some k8s, lbs⟩) (h : added id k8s lbs desired opts l = some te)
    (hexec : execute w te s.1 = .ok s') :
    ∃ np autoscaled, (Effect.add np autoscaled).Has s s' := by
  induction l with
  | nil => cases h
  | cons x l ih =>
    obtain ⟨np, nodes⟩ := x
    rw [added] at h
    split at h
    next => exact ih h
    next toAdd hfind =>
      refine ⟨np, NodePools.isAutoscaled toAdd, ?_⟩
      have hname : NodePool.shape toAdd = (np, NodePools.isAutoscaled toAdd) := by
        rw [NodePool.shape, name_of_findByName hfind]
      obtain ⟨useProxy, hasApiServer, isStatic⟩ := opts
      cases h
      obtain ⟨t, hrun, henabled, hclusters⟩ := execute_eq_ok hexec
      have hshape : s.2.shape = k8s.clusterInfo.nodePools.map NodePool.shape :=
        shape_of_k8s (by rw [hs])
      refine ⟨?_, ?_⟩
      · rw [henabled, hshape, Effect.enabled, any_shape, updateEvent, pipelineCA_additions]
        cases hasApiServer && toAdd.isControl <;>
          cases (NodePools.autoscaled k8s.clusterInfo.nodePools).isEmpty <;>
          cases NodePools.isAutoscaled toAdd <;> simp [Kuber.longhornCA, kubeadmPasses]
      · rw [hclusters, hshape, Effect.shape, ← hname]
        cases isStatic with
        | true =>
          rw [(additions_static w.keeps_shape List.prefix_rfl hrun (unrequested_of_ne (fun _ _ _ _ heq => by cases heq))).1,
            shape_of_k8s rfl]
          exact List.map_append
        | false =>
          rw [(additions_dynamic w.keeps_shape List.prefix_rfl (List.cons_ne_nil _ _) hrun).1, shape_of_k8s rfl]
          exact List.map_append

theorem partiallyAdded_has (hs : s.2 = ⟨some k8s, lbs⟩)
    (h : partiallyAdded id k8s lbs desired opts l = .ok (some te))
    (hexec : execute w te s.1 = .ok s') : Effect.keep.Has s s' := by
  induction l with
  | nil => cases h
  | cons x l ih =>
    obtain ⟨np, nodes⟩ := x
    rw [partiallyAdded] at h
    dsimp only at h
    split at h
    next => exact ih h
    next matched _ =>
      have hshape : s.2.shape = k8s.clusterInfo.nodePools.map NodePool.shape :=
        shape_of_k8s (by rw [hs])
      have henabled : (if opts.hasApiServer && matched.isControl then kubeadmPasses else []).foldl
          (fun enabled pass => Kuber.longhornCA pass.kind enabled) s.1 = s.1 := by
        split <;> rfl
      obtain ⟨useProxy, hasApiServer, isStatic⟩ := opts
      cases isStatic with
      | true =>
        obtain ⟨nps, hnps, h⟩ := Outcome.bind_eq_ok.mp h
        obtain ⟨src, -, hnps⟩ := Outcome.bind_eq_ok.mp hnps
        cases h
        obtain ⟨t, hrun, hpipeline, hclusters⟩ := execute_eq_ok hexec
        refine ⟨hpipeline.trans (pipelineCA_additions.trans henabled), ?_⟩
        rw [hclusters,
          (additions_static w.keeps_shape List.prefix_rfl hrun (unrequested_of_ne (fun _ _ _ _ heq => by cases heq))).1,
          shape_of_k8s rfl, hshape]
        exact modifyByName_shape (fun _ _ h => copyNodes_shape h) hnps
      | false =>
        cases h
        obtain ⟨t, hrun, hpipeline, hclusters⟩ := execute_eq_ok hexec
        refine ⟨hpipeline.trans (pipelineCA_additions.trans henabled), ?_⟩
        rw [hclusters, (additions_dynamic w.keeps_shape List.prefix_rfl (List.cons_ne_nil _ _) hrun).1,
          shape_of_k8s rfl, hshape]
        exact addNodes_existing_shape

theorem additions_has {desired : Clusters} {diff : NodePoolsDiffResult}
    (h : scheduleAdditionsInNodePools ord id s.2 desired diff opts = .ok (some te))
    (hexec : execute w te s.1 = .ok s') :
    Effect.keep.Has s s' ∨ ∃ np autoscaled, (Effect.add np autoscaled).Has s s' := by
  obtain ⟨k8s, hk8s, h⟩ := Outcome.bind_eq_ok.mp h
  obtain ⟨dk8s, -, h⟩ := Outcome.bind_eq_ok.mp h
  rw [Outcome.deref_eq_ok] at hk8s
  have hs : s.2 = ⟨some k8s, s.2.loadBalancers⟩ := by rw [← hk8s]
  dsimp only at h
  split at h
  next te' hadded =>
    cases h
    exact .inr (added_has hs hadded hexec)
  next => exact .inl (partiallyAdded_has hs h hexec)

end additions

section deletions

open scheduleDeletionsInNodePools (removeFromTrackedStage)

variable {opts : K8sNodeDeletionOptions} {withNodePool : Bool} {np : String} {nodes : List String}
  {unreachable : Option Unreachable} {kuberPasses : List (SubPass KuberPass)}
  {lbs : List LBcluster} {c : Clusters}

theorem remaining_shape {nps : List NodePool} :
    (remaining withNodePool np nodes nps).map NodePool.shape
      = if withNodePool then (nps.map NodePool.shape).eraseP (·.1 = np)
        else nps.map NodePool.shape := by
  unfold remaining
  cases withNodePool with
  | true => exact deleteByName_shape
  | false => exact List.map_modifyFirst_of_eq (fun _ _ => deleteNodes_shape)

theorem deletions_shape {k8s : K8scluster} (hk8s : c.k8s = some k8s)
    (hrun : w.runStages (scheduleDeletionsInNodePools.pipeline opts lbs np kuberPasses)
      (.update c (.kDeleteNodes withNodePool np nodes unreachable)) = .ok t') :
    t'.clusters.shape = if withNodePool then c.shape.eraseP (·.1 = np) else c.shape := by
  rw [(deletions_run w.keeps_shape hk8s List.prefix_rfl (List.cons_ne_nil _ _) hrun).1, shape_of_k8s hk8s,
    ← remaining_shape]
  rfl

theorem pipelineCA_deletions {enabled : Bool} :
    pipelineCA (scheduleDeletionsInNodePools.pipeline opts lbs np kuberPasses) enabled
      = kuberPasses.foldl (fun enabled pass => Kuber.longhornCA pass.kind enabled) enabled := by
  rw [scheduleDeletionsInNodePools.pipeline, pipelineCA_append, pipelineCA_append,
    List.cons_append, pipelineCA_cons, pipelineCA_append]
  split <;> split <;> split <;> rfl

theorem foldl_certSANsPasses {nps : List NodePool} {enabled : Bool} :
    (scheduleDeletionsInNodePools.certSANsPasses opts nps np).foldl
      (fun enabled pass => Kuber.longhornCA pass.kind enabled) enabled = enabled := by
  unfold scheduleDeletionsInNodePools.certSANsPasses
  split
  next => split <;> rfl
  next => rfl

theorem foldl_disableCAPasses {nps : List NodePool} {enabled : Bool} :
    (scheduleDeletionsInNodePools.disableCAPasses nps np).foldl
        (fun enabled pass => Kuber.longhornCA pass.kind enabled) enabled
      = (enabled && (nps.map NodePool.shape).filter (·.2) ≠ [(np, true)]) := by
  unfold scheduleDeletionsInNodePools.disableCAPasses
  split
  next a ha =>
    split
    next hname =>
      simp [Kuber.longhornCA, filter_shape_eq_singleton.mpr ⟨a, ha, hname⟩]
    next hname =>
      have hne : (nps.map NodePool.shape).filter (·.2) ≠ [(np, true)] := by
        intro h
        obtain ⟨a', ha', hname'⟩ := filter_shape_eq_singleton.mp h
        rw [ha] at ha'
        cases ha'
        exact hname hname'
      rw [decide_eq_true hne, Bool.and_true]
      rfl
  next hne =>
    have hne : (nps.map NodePool.shape).filter (·.2) ≠ [(np, true)] := by
      intro h
      obtain ⟨a, ha, -⟩ := filter_shape_eq_singleton.mp h
      exact hne a ha
    rw [decide_eq_true hne, Bool.and_true]
    rfl

-- The nodepool that is deleted as a whole, which happens once no nodes of other nodepools are left.
def wholeDeletion (ord : MapOrder) (diff : NodePoolsDiffResult) : Option String :=
  match ord.range "partially deleted nodepools" diff.partiallyDeleted,
      ord.range "deleted nodepools" diff.deleted with
  | [], (np, _) :: _ => some np
  | _, _ => none

theorem deletions_has {diff : NodePoolsDiffResult}
    (h : scheduleDeletionsInNodePools ord id s.2 diff opts = .ok (some te))
    (hexec : execute w te s.1 = .ok s') :
    (Effect.keep.Has s s' ∧ wholeDeletion ord diff = none)
      ∨ ∃ np, (Effect.delete np).Has s s' ∧ wholeDeletion ord diff = some np := by
  obtain ⟨k8s, hk8s, h⟩ := Outcome.bind_eq_ok.mp h
  rw [Outcome.deref_eq_ok] at hk8s
  dsimp only at h
  unfold wholeDeletion
  split at h
  next np nodes _ hpartially =>
    cases h
    obtain ⟨t, hrun, henabled, hclusters⟩ := execute_eq_ok hexec
    rw [hpartially]
    refine .inl ⟨⟨henabled.trans (pipelineCA_deletions.trans foldl_certSANsPasses), ?_⟩, rfl⟩
    rw [hclusters]
    exact deletions_shape hk8s hrun
  next np nodes _ hpartially hdeleted =>
    cases h
    obtain ⟨t, hrun, henabled, hclusters⟩ := execute_eq_ok hexec
    rw [hpartially, hdeleted]
    refine .inr ⟨np, ⟨?_, ?_⟩, rfl⟩
    · rw [henabled, Effect.enabled, shape_of_k8s hk8s]
      refine pipelineCA_deletions.trans ?_
      rw [List.foldl_append, List.foldl_append, foldl_certSANsPasses, foldl_disableCAPasses]
      rfl
    · rw [hclusters]
      exact deletions_shape hk8s hrun
  next => cases h

end deletions

section moves

variable {k8s : K8scluster} {np : String} {config : Option AutoscalerConf}

theorem withAutoscaler_shape {pool : NodePool} (h : pool.isStatic = false) :
    NodePool.shape (Terraformer.withAutoscaler config pool) = (pool.name, config.isSome) := by
  unfold Terraformer.withAutoscaler NodePool.shape NodePools.isAutoscaled
  cases htype : pool.type with
  | dynamic d => rfl
  | static d => simp [NodePool.isStatic, NodePool.static?, htype] at h

def HasDynamic (nps : List NodePool) (np : String) : Prop :=
  ∃ pool, NodePools.findByName np nps = some pool ∧ pool.isStatic = false

theorem moveNodePool_consumed (hk8s : state.k8s = some k8s)
    (hunrequested : Unrequested (.update state delta))
    (h : (Task.update state delta).consumeResult (Terraformer.moveNodePool k8s np config).1
      = .ok t') :
    Unrequested t'
      ∧ (HasDynamic k8s.clusterInfo.nodePools np →
        t'.clusters.shape = state.shape.modifyFirst (·.1 = np) (fun x => (x.1, config.isSome)))
      ∧ (¬ HasDynamic k8s.clusterInfo.nodePools np → t'.clusters.shape = state.shape) := by
  unfold Terraformer.moveNodePool at h
  split at h
  next hnone =>
    cases h
    refine ⟨hunrequested, ?_, fun _ => rfl⟩
    rintro ⟨pool, hpool, -⟩
    rw [hnone] at hpool
    cases hpool
  next pool hpool =>
    split at h
    next hstatic =>
      cases h
      refine ⟨hunrequested, ?_, fun _ => rfl⟩
      rintro ⟨pool', hpool', hdynamic⟩
      rw [hpool] at hpool'
      cases hpool'
      rw [hstatic] at hdynamic
      cases hdynamic
    next hdynamic =>
      obtain ⟨hunrequested, lbs', hclusters, -⟩ := consumed_eq_ok h
      refine ⟨hunrequested, fun _ => ?_,
        fun hnot => absurd ⟨pool, hpool, by simpa using hdynamic⟩ hnot⟩
      rw [hclusters, shape_of_k8s rfl, shape_of_k8s hk8s]
      refine List.map_modifyFirst (fun _ => rfl) ?_
      intro pool' hpool'
      cases hpool.symm.trans hpool'
      exact withAutoscaler_shape (by simpa using hdynamic)

theorem fromAutoscaled_of_not {nps : List NodePool} (h : ¬ HasDynamic nps np) :
    (nps.map NodePool.shape).modifyFirst (·.1 = np) (fun x => (x.1, false))
      = nps.map NodePool.shape := by
  rw [← List.map_modifyFirst (f := id) (p := (·.name = np)) (fun _ => rfl)]
  · exact List.map_modifyFirst_of_eq (fun _ _ => rfl)
  · intro pool hpool
    have hstatic : pool.isStatic = true := by
      cases hcase : pool.isStatic with
      | true => rfl
      | false => exact absurd ⟨pool, hpool, hcase⟩ h
    cases htype : pool.type with
    | static d => simp [NodePool.shape, NodePools.isAutoscaled, NodePool.dynamic?, htype]
    | dynamic d => simp [NodePool.isStatic, NodePool.static?, htype] at hstatic

theorem move_run {about : String} {rest : List Stage} (hk8s : state.k8s = some k8s)
    (hdelta : Terraformer.reconcileInfrastructure w.infra (.update state delta)
      = pure (Terraformer.moveNodePool k8s np config))
    (hrest : ∀ d, ∀ stage ∈ rest, isQuiet d stage = true)
    (hrun : w.runStages (moveStage about :: rest) (.update state delta) = .ok t')
    (hunrequested : Unrequested (.update state delta)) :
    (HasDynamic k8s.clusterInfo.nodePools np →
        t'.clusters.shape = state.shape.modifyFirst (·.1 = np) (fun x => (x.1, config.isSome)))
      ∧ (¬ HasDynamic k8s.clusterInfo.nodePools np → t'.clusters.shape = state.shape) := by
  rw [runStages_cons] at hrun
  obtain ⟨t₁, hstage, hrun⟩ := Outcome.bind_eq_ok.mp hrun
  obtain ⟨result, errs, hreconcile, hconsume⟩ := runStage_terraformer hstage
  have hmove : Terraformer.moveNodePool k8s np config = (result, errs) :=
    Except.ok.inj (hdelta.symm.trans hreconcile)
  have hresult : result = (Terraformer.moveNodePool k8s np config).1 := by rw [hmove]
  rw [hresult] at hconsume
  obtain ⟨hunrequested, hmoved, hkept⟩ := moveNodePool_consumed hk8s hunrequested hconsume
  rw [(runStages_of_quiet w.keeps_shape (hrest _) hunrequested hrun).1]
  exact ⟨hmoved, hkept⟩

theorem mem_keys_of_hasDynamic {nps : List NodePool} (h : HasDynamic nps np) :
    np ∈ (nps.map NodePool.shape).map (·.1) := by
  obtain ⟨pool, hpool, -⟩ := h
  rw [List.map_map]
  exact List.mem_map.mpr ⟨pool, List.mem_of_find?_eq_some hpool, name_of_findByName hpool⟩

theorem moveTo_has {conf : AutoscalerConf}
    (h : scheduleMoveNodePoolToAutoscaled id s.2 np conf = .ok te)
    (hexec : execute w te s.1 = .ok s') :
    ((Effect.toAutoscaled np).Has s s' ∧ HasDynamic s.2.kubernetesNodePools np)
      ∨ (Effect.enable.Has s s' ∧ ¬ HasDynamic s.2.kubernetesNodePools np) := by
  obtain ⟨k8s, hk8s, h⟩ := Outcome.bind_eq_ok.mp h
  rw [Outcome.deref_eq_ok] at hk8s
  have hshape := shape_of_k8s hk8s
  have hnps : s.2.kubernetesNodePools = k8s.clusterInfo.nodePools := by
    rw [Clusters.kubernetesNodePools, hk8s]
    rfl
  cases h
  obtain ⟨t, hrun, henabled, hclusters⟩ := execute_eq_ok hexec
  have hdelta : Terraformer.reconcileInfrastructure w.infra
      (.update s.2 (.tfMoveNodePoolToAutoscaled np conf))
      = pure (Terraformer.moveNodePool k8s np (some conf)) := by
    unfold Terraformer.reconcileInfrastructure
    simp only [hk8s]
    rfl
  obtain ⟨hmoved, hkept⟩ := move_run hk8s hdelta (fun _ => by split <;> simp [isQuiet])
    hrun (unrequested_of_ne (fun _ _ _ _ heq => by cases heq))
  have henabled : s'.1 = (s.1 || !s.2.shape.any (·.2)) := by
    rw [henabled, hshape, any_shape, Bool.not_not]
    cases (NodePools.autoscaled k8s.clusterInfo.nodePools).isEmpty <;>
      simp [updateEvent, moveStage, pipelineCA, Stage.longhornCA, Kuber.longhornCA]
  rw [hnps]
  by_cases hdynamic : HasDynamic k8s.clusterInfo.nodePools np
  · exact .inl ⟨⟨henabled, hclusters ▸ hmoved hdynamic⟩, hdynamic⟩
  · exact .inr ⟨⟨henabled, hclusters ▸ hkept hdynamic⟩, hdynamic⟩

theorem moveFrom_has (h : scheduleMoveNodePoolFromAutoscaled id s.2 np = .ok te)
    (hexec : execute w te s.1 = .ok s') : (Effect.fromAutoscaled np).Has s s' := by
  obtain ⟨k8s, hk8s, h⟩ := Outcome.bind_eq_ok.mp h
  rw [Outcome.deref_eq_ok] at hk8s
  have hshape := shape_of_k8s hk8s
  cases h
  obtain ⟨t, hrun, henabled, hclusters⟩ := execute_eq_ok hexec
  have hdelta : Terraformer.reconcileInfrastructure w.infra
      (.update s.2 (.tfMoveNodePoolFromAutoscaled np))
      = pure (Terraformer.moveNodePool k8s np none) := by
    unfold Terraformer.reconcileInfrastructure
    simp only [hk8s]
    rfl
  obtain ⟨hmoved, hkept⟩ := move_run hk8s hdelta
    (fun _ => by
      split
      next => split <;> simp [isQuiet]
      next => simp) hrun (unrequested_of_ne (fun _ _ _ _ heq => by cases heq))
  refine ⟨?_, ?_⟩
  · rw [henabled]
    unfold updateEvent moveStage
    dsimp only
    split
    next => split <;> rfl
    next => rfl
  · rw [hclusters, hshape, Effect.shape]
    by_cases hdynamic : HasDynamic k8s.clusterInfo.nodePools np
    · rw [hmoved hdynamic, hshape]
      rfl
    · rw [hkept hdynamic, hshape, fromAutoscaled_of_not hdynamic]

end moves

end effect

end Longhorn

end Manager

end Claudie
