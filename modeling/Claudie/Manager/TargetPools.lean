import Claudie.Ansibler.ReconcileLoadBalancers
import Claudie.Manager.Lemmas.Diff
import Claudie.Manager.Lemmas.Execution
import Claudie.Manager.Longhorn

/-!
When nodes are added to a kubernetes cluster or deleted from it, the load balancers that forward to
other nodes than before are configured again.
-/

namespace Claudie

open Ansibler (roleTargetNodes loadBalancersToReconcile)

structure NodePool.Layout where
  name : String
  isControl : Bool
  isDynamic : Bool
  nodes : List String

def NodePool.layout (np : NodePool) : NodePool.Layout :=
  ⟨np.name, np.isControl, np.isDynamic, np.nodes.map (·.name)⟩

def Clusters.layout (c : Clusters) : List NodePool.Layout × List (String × List Role) :=
  (c.kubernetesNodePools.map NodePool.layout, c.loadBalancers.map (fun lb => (lb.id, lb.roles)))

-- The nodes are known by their names, as a build may assign other addresses.
def Clusters.targetNames (c : Clusters) (role : Role) : List String :=
  (roleTargetNodes c.kubernetesNodePools role).map (·.name)

namespace Manager

structure NodeWorkers extends Workers where
  keepsLayout : ∀ stage c, (configure stage c).layout = c.layout

theorem map_layout_of_built {nps nps' : List NodePool}
    (h : List.Forall₂ Terraformer.Built nps nps') :
    nps'.map NodePool.layout = nps.map NodePool.layout := by
  induction h with
  | nil => rfl
  | @cons np np' _ _ h _ ih =>
    have hlayout : np'.layout = np.layout := by
      unfold NodePool.layout
      rw [h.names, h.frame]
      rfl
    rw [List.map_cons, List.map_cons, ih, hlayout]

theorem NodeWorkers.keeps_layout (w : NodeWorkers) : w.toWorkers.Keeps Clusters.layout where
  configured := w.keepsLayout
  built h := Prod.ext (map_layout_of_built h) rfl

section targets

variable {nps nps' : List NodePool} {role : Role} {np : String} {isStatic : Bool}
  {lbs : List LBcluster} {lb : LBcluster}

def selects (role : Role) (target : String) (np : NodePool) : Bool :=
  (role.roleType ≠ .apiServer || np.isControl) && Ansibler.targets target np

theorem roleTargetNodes_eq :
    roleTargetNodes nps role
      = role.targetPools.flatMap (fun target =>
          (nps.filter (selects role target)).flatMap (·.nodes)) := by
  unfold roleTargetNodes Ansibler.targetNodes
  rw [List.flatMap_assoc]
  congr
  funext target
  unfold selects
  split
  next h => simp [NodePools.control, List.filter_filter, h, Bool.and_comm]
  next h => simp [h]

theorem names_filter_of_layout (h : nps'.map NodePool.layout = nps.map NodePool.layout)
    (target : String) :
    ((nps'.filter (selects role target)).flatMap (·.nodes)).map (·.name)
      = ((nps.filter (selects role target)).flatMap (·.nodes)).map (·.name) := by
  induction nps generalizing nps' with
  | nil =>
    rw [List.map_eq_nil_iff.mp h]
  | cons np nps ih =>
    obtain ⟨np', rest, rfl, hnp, hrest⟩ := List.map_eq_cons_iff.mp h
    have hselects : selects role target np' = selects role target np := by
      simp only [NodePool.layout, NodePool.Layout.mk.injEq] at hnp
      unfold selects Ansibler.targets
      rw [hnp.1, hnp.2.1, hnp.2.2.1]
    have hnodes : np'.nodes.map (·.name) = np.nodes.map (·.name) :=
      congrArg NodePool.Layout.nodes hnp
    rw [List.filter_cons, List.filter_cons, hselects]
    split
    next =>
      rw [List.flatMap_cons, List.flatMap_cons, List.map_append, List.map_append, hnodes, ih hrest]
    next => exact ih hrest

theorem targetNames_of_layout {c c' : Clusters} (h : c'.layout = c.layout) (role : Role) :
    c'.targetNames role = c.targetNames role := by
  unfold Clusters.targetNames
  rw [roleTargetNodes_eq, roleTargetNodes_eq, List.map_flatMap, List.map_flatMap]
  congr
  funext target
  exact names_filter_of_layout (congrArg Prod.fst h) target

def Describes (isStatic : Bool) (np : String) (nps : List NodePool) : Prop :=
  ∀ pool ∈ nps, pool.name = np → pool.isStatic = true → isStatic = true

-- The condition under which the envoys are refreshed covers every nodepool of the name.
theorem not_targets (htargets : targetsNodePool lbs isStatic np = false) (hlb : lb ∈ lbs)
    (hrole : role ∈ lb.roles) {target : String} (htarget : target ∈ role.targetPools)
    {pool : NodePool} (hname : pool.name = np)
    (hstatic : pool.isStatic = true → isStatic = true) : Ansibler.targets target pool = false := by
  simp only [targetsNodePool, List.any_eq_false, Bool.or_eq_true, Bool.and_eq_true,
    decide_eq_true_eq, List.any_eq_true, not_exists, not_and, not_or] at htargets
  obtain ⟨hhashed, hplain⟩ := htargets lb hlb role hrole target htarget
  subst hname
  unfold Ansibler.targets
  split
  next => simpa using hhashed
  next hdynamic =>
    have hisStatic := hstatic (pool.isStatic_of_not_isDynamic (by simpa using hdynamic))
    exact decide_eq_false (hplain hisStatic)

theorem targetNames_of_untargeted {k8s : K8scluster} {lbs' : List LBcluster}
    (hothers : nps.filter (·.name ≠ np) = k8s.clusterInfo.nodePools.filter (·.name ≠ np))
    (hbefore : Describes isStatic np k8s.clusterInfo.nodePools) (hafter : Describes isStatic np nps)
    (htargets : targetsNodePool lbs isStatic np = false) (hlb : lb ∈ lbs)
    (hrole : role ∈ lb.roles) :
    Clusters.targetNames ⟨some (k8s.withNodePools nps), lbs'⟩ role
      = Clusters.targetNames ⟨some k8s, lbs'⟩ role := by
  have hfilter : ∀ {nps : List NodePool}, Describes isStatic np nps →
      ∀ target ∈ role.targetPools,
        nps.filter (selects role target)
          = (nps.filter (·.name ≠ np)).filter (selects role target) := by
    intro nps hnps target htarget
    rw [List.filter_filter]
    refine List.filter_congr ?_
    intro pool hpool
    by_cases hname : pool.name = np
    · simp [selects, not_targets htargets hlb hrole htarget hname (hnps pool hpool hname)]
    · simp [hname]
  unfold Clusters.targetNames
  rw [roleTargetNodes_eq, roleTargetNodes_eq]
  congr 1
  refine List.flatMap_congr ?_
  intro target htarget
  change (nps.filter _).flatMap _ = (k8s.clusterInfo.nodePools.filter _).flatMap _
  rw [hfilter hafter target htarget, hfilter hbefore target htarget, hothers]

end targets

section describes

variable {nps : List NodePool} {np : String} {isStatic : Bool} {f : NodePool → NodePool}

theorem Describes.append {pool : NodePool} (h : Describes isStatic np nps)
    (hpool : pool.isStatic = true → isStatic = true) : Describes isStatic np (nps ++ [pool]) := by
  intro pool' hpool' hname
  rcases List.mem_append.mp hpool' with hmem | hmem
  · exact h pool' hmem hname
  · rw [List.mem_singleton.mp hmem]
    exact hpool

theorem Describes.eraseP (h : Describes isStatic np nps) :
    Describes isStatic np (NodePools.deleteByName nps np) :=
  fun pool hpool => h pool (List.mem_of_mem_eraseP hpool)

theorem Describes.modifyFirst (h : Describes isStatic np nps)
    (hf : ∀ pool, NodePools.findByName np nps = some pool → (f pool).isStatic = pool.isStatic) :
    Describes isStatic np (nps.modifyFirst (·.name = np) f) := by
  intro pool hpool hname hstatic
  rcases List.mem_modifyFirst hpool with hmem | ⟨pool', hpool', rfl⟩
  · exact h pool hmem hname hstatic
  · rw [hf pool' hpool'] at hstatic
    exact h pool' (List.mem_of_find?_eq_some hpool') (name_of_findByName hpool') hstatic

theorem others_append {pool : NodePool} (hname : pool.name = np) :
    (nps ++ [pool]).filter (·.name ≠ np) = nps.filter (·.name ≠ np) := by
  simp [List.filter_append, hname]

theorem others_eraseP :
    (NodePools.deleteByName nps np).filter (·.name ≠ np) = nps.filter (·.name ≠ np) :=
  List.filter_eraseP_of_not (fun pool hpool => by simpa using hpool)

theorem others_modifyFirst
    (hf : ∀ pool, NodePools.findByName np nps = some pool → (f pool).name = pool.name) :
    (nps.modifyFirst (·.name = np) f).filter (·.name ≠ np) = nps.filter (·.name ≠ np) := by
  refine List.filter_modifyFirst_of_not ?_
  intro pool hpool
  have hname : pool.name = np := name_of_findByName hpool
  simp [hf pool hpool, hname]

end describes

structure ChangesNodes (w : NodeWorkers) (current : Clusters) (te : TaskEvent) (k8s : K8scluster)
    (nps : List NodePool) (np : String) (isStatic : Bool) : Prop where
  tracked : current.k8s = some k8s
  others : nps.filter (·.name ≠ np) = k8s.clusterInfo.nodePools.filter (·.name ≠ np)
  before : Describes isStatic np k8s.clusterInfo.nodePools
  after : Describes isStatic np nps
  envoy : targetsNodePool current.loadBalancers isStatic np = true →
    ∃ pre about passAbout post, pre ≠ []
      ∧ te.pipeline = pre ++ reconcileEnvoyStage about passAbout :: post
  settled : ∀ done t', done <+: te.pipeline → w.runStages done te.task = .ok t' →
    (done = [] ∧ t'.clusters = current)
      ∨ (t'.clusters.layout
          = Clusters.layout ⟨some (k8s.withNodePools nps), current.loadBalancers⟩
        ∧ (t'.delta?.any isAddition = true ∨ t'.delta?.any isDeletion = true))

section changes

variable {w : NodeWorkers} {current : Clusters} {te : TaskEvent} {k8s : K8scluster}
  {nps : List NodePool} {np : String} {isStatic : Bool}

theorem loadBalancersToReconcile_eq {t : Task}
    (h : t.delta?.any isAddition = true ∨ t.delta?.any isDeletion = true) :
    loadBalancersToReconcile t = .ok t.clusters.loadBalancers := by
  cases t with
  | create state => simp [Task.delta?] at h
  | delete state => simp [Task.delta?] at h
  | update state delta =>
    cases delta with
    | kDeleteNodes | deletedK8sNodes | tfAddK8sNodes | addedK8sNodes => rfl
    | _ => simp [Task.delta?, isAddition, isDeletion] at h

theorem exists_of_map_eq {lbs lbs' : List LBcluster} {lb : LBcluster}
    (h : lbs'.map (fun lb => (lb.id, lb.roles)) = lbs.map (fun lb => (lb.id, lb.roles)))
    (hlb : lb ∈ lbs) : ∃ lb' ∈ lbs', lb'.id = lb.id ∧ lb'.roles = lb.roles := by
  have hmem := List.mem_map_of_mem (f := fun lb : LBcluster => (lb.id, lb.roles)) hlb
  rw [← h] at hmem
  obtain ⟨lb', hlb', heq⟩ := List.mem_map.mp hmem
  simp only [Prod.mk.injEq] at heq
  exact ⟨lb', hlb', heq⟩

theorem ChangesNodes.reconciles (h : ChangesNodes w current te k8s nps np isStatic)
    {done rest : List Stage} {t' : Task} (hpipeline : te.pipeline = done ++ rest)
    (hrun : w.runStages done te.task = .ok t') {lb : LBcluster} (hlb : lb ∈ current.loadBalancers)
    {role : Role} (hrole : role ∈ lb.roles)
    (hne : t'.clusters.targetNames role ≠ current.targetNames role) :
    ∃ pre description passes post,
      te.pipeline = pre ++ .ansibler description passes :: post
        ∧ passes.any (·.kind = .reconcileLoadbalancers) = true
        ∧ ∀ t₁, w.runStages pre te.task = .ok t₁ →
          t₁.clusters.targetNames role = t'.clusters.targetNames role
            ∧ ∃ lbs, loadBalancersToReconcile t₁ = .ok lbs
              ∧ ∃ lb' ∈ lbs, lb'.id = lb.id ∧ lb'.roles = lb.roles := by
  have hcurrent : current = ⟨some k8s, current.loadBalancers⟩ := by rw [← h.tracked]
  have hlayout := (h.settled done t' ⟨rest, hpipeline.symm⟩ hrun).resolve_left
    (fun hsame => hne (by rw [hsame.2]))
  have htargets : targetsNodePool current.loadBalancers isStatic np = true := by
    by_contra hfalse
    refine hne ?_
    rw [targetNames_of_layout hlayout.1, targetNames_of_untargeted h.others h.before h.after
      (by simpa using hfalse) hlb hrole, ← hcurrent]
  obtain ⟨pre, about, passAbout, post, hpre, henvoy⟩ := h.envoy htargets
  refine ⟨pre, _, _, post, henvoy, rfl, ?_⟩
  intro t₁ ht₁
  have hlayout₁ := (h.settled pre t₁ ⟨_, henvoy.symm⟩ ht₁).resolve_left (fun hsame => hpre hsame.1)
  refine ⟨?_, _, loadBalancersToReconcile_eq hlayout₁.2, ?_⟩
  · exact targetNames_of_layout (hlayout₁.1.trans hlayout.1.symm) role
  · exact exists_of_map_eq (congrArg Prod.snd hlayout₁.1) hlb

end changes

section additions

open scheduleAdditionsInNodePools (pipeline added partiallyAdded)

variable {w : NodeWorkers} {id : TaskId} {current : Clusters} {te : TaskEvent} {k8s : K8scluster}
  {desired : List NodePool} {opts : K8sNodeAdditionOptions} {l : List (String × List String)}

theorem envoy_of_additions {lbs : List LBcluster} {np : String}
    {kuberPasses : List (SubPass KuberPass)} (h : targetsNodePool lbs opts.isStatic np = true) :
    ∃ pre about passAbout post, pre ≠ []
      ∧ pipeline opts lbs np kuberPasses = pre ++ reconcileEnvoyStage about passAbout :: post := by
  refine ⟨_, _, _, [], ?_, by rw [pipeline, if_pos h]⟩
  simp

theorem addNodes_describes {np : String} {nodes : List Node} {nps : List NodePool}
    (h : Describes opts.isStatic np nps) :
    Describes opts.isStatic np ((Terraformer.addNodes nps (.existing np nodes)).getD nps)
      ∧ ((Terraformer.addNodes nps (.existing np nodes)).getD nps).filter (·.name ≠ np)
        = nps.filter (·.name ≠ np) := by
  unfold Terraformer.addNodes
  dsimp only
  split
  next => exact ⟨h, rfl⟩
  next =>
    split
    next => exact ⟨h, rfl⟩
    next =>
      exact ⟨h.modifyFirst (fun _ _ => NodePools.appendDynamicNodes_isStatic),
        others_modifyFirst (fun _ _ => NodePools.appendDynamicNodes_name)⟩

theorem added_changes (hk8s : current.k8s = some k8s)
    (hdescribes : ∀ x ∈ l, Describes opts.isStatic x.1 (k8s.clusterInfo.nodePools ++ desired))
    (h : added id k8s current.loadBalancers desired opts l = some te) :
    ∃ nps np, ChangesNodes w current te k8s nps np opts.isStatic := by
  induction l with
  | nil => cases h
  | cons x l ih =>
    obtain ⟨np, nodes⟩ := x
    rw [List.forall_mem_cons] at hdescribes
    rw [added] at h
    split at h
    next => exact ih hdescribes.2 h
    next toAdd hfind =>
      have hname := name_of_findByName hfind
      have hbefore : Describes opts.isStatic np k8s.clusterInfo.nodePools :=
        fun pool hpool => hdescribes.1 pool (List.mem_append_left _ hpool)
      have hadded : toAdd.isStatic = true → opts.isStatic = true :=
        hdescribes.1 toAdd (List.mem_append_right _ (List.mem_of_find?_eq_some hfind)) hname
      refine ⟨k8s.clusterInfo.nodePools ++ [toAdd], np, ?_⟩
      obtain ⟨useProxy, hasApiServer, isStatic⟩ := opts
      cases h
      refine
        { tracked := hk8s
          others := others_append hname
          before := hbefore
          after := hbefore.append hadded
          envoy := envoy_of_additions
          settled := ?_ }
      intro done t' hdone hrun
      cases isStatic with
      | true =>
        obtain ⟨hlayout, hdelta⟩ :=
          additions_static w.keeps_layout hdone hrun (unrequested_of_ne (fun _ _ _ _ heq => by cases heq))
        exact .inr ⟨hlayout, .inl (by rw [hdelta]; rfl)⟩
      | false =>
        by_cases hne : done = []
        · subst hne
          cases hrun
          exact .inl ⟨rfl, by rw [← hk8s]; rfl⟩
        · obtain ⟨hlayout, hdelta⟩ := additions_dynamic w.keeps_layout hdone hne hrun
          exact .inr ⟨hlayout, .inl hdelta⟩

theorem partiallyAdded_changes (hk8s : current.k8s = some k8s)
    (hdescribes : ∀ x ∈ l, Describes opts.isStatic x.1 k8s.clusterInfo.nodePools)
    (h : partiallyAdded id k8s current.loadBalancers desired opts l = .ok (some te)) :
    ∃ nps np, ChangesNodes w current te k8s nps np opts.isStatic := by
  induction l with
  | nil => cases h
  | cons x l ih =>
    obtain ⟨np, nodes⟩ := x
    rw [List.forall_mem_cons] at hdescribes
    rw [partiallyAdded] at h
    dsimp only at h
    split at h
    next => exact ih hdescribes.2 h
    next =>
      have hbefore := hdescribes.1
      obtain ⟨useProxy, hasApiServer, isStatic⟩ := opts
      cases isStatic with
      | true =>
        obtain ⟨nps, hnps, h⟩ := Outcome.bind_eq_ok.mp h
        obtain ⟨src, -, hnps⟩ := Outcome.bind_eq_ok.mp hnps
        obtain ⟨g, hg, rfl⟩ := NodePools.modifyByName_eq_ok hnps
        cases h
        refine ⟨_, np,
          { tracked := hk8s
            others := others_modifyFirst
              (fun pool hpool => NodePools.copyNodes_name (hg pool hpool))
            before := hbefore
            after := hbefore.modifyFirst
              (fun pool hpool => NodePools.copyNodes_isStatic (hg pool hpool))
            envoy := envoy_of_additions
            settled := ?_ }⟩
        intro done t' hdone hrun
        obtain ⟨hlayout, hdelta⟩ :=
          additions_static w.keeps_layout hdone hrun (unrequested_of_ne (fun _ _ _ _ heq => by cases heq))
        exact .inr ⟨hlayout, .inl (by rw [hdelta]; rfl)⟩
      | false =>
        cases h
        obtain ⟨hafter, hothers⟩ := addNodes_describes hbefore
        refine ⟨_, np,
          { tracked := hk8s
            others := hothers
            before := hbefore
            after := hafter
            envoy := envoy_of_additions
            settled := ?_ }⟩
        intro done t' hdone hrun
        by_cases hne : done = []
        · subst hne
          cases hrun
          exact .inl ⟨rfl, by rw [← hk8s]; rfl⟩
        · obtain ⟨hlayout, hdelta⟩ := additions_dynamic w.keeps_layout hdone hne hrun
          exact .inr ⟨hlayout, .inl hdelta⟩

end additions

section deletions

variable {w : NodeWorkers} {id : TaskId} {current : Clusters} {te : TaskEvent} {k8s : K8scluster}
  {opts : K8sNodeDeletionOptions} {withNodePool : Bool} {np : String} {nodes : List String}
  {kuberPasses : List (SubPass KuberPass)}

theorem envoy_of_deletions {lbs : List LBcluster}
    (h : targetsNodePool lbs opts.isStatic np = true) :
    ∃ pre about passAbout post, pre ≠ []
      ∧ scheduleDeletionsInNodePools.pipeline opts lbs np kuberPasses
        = pre ++ reconcileEnvoyStage about passAbout :: post := by
  rw [scheduleDeletionsInNodePools.pipeline, if_pos h]
  exact ⟨[scheduleDeletionsInNodePools.removeFromTrackedStage], _, _, _, List.cons_ne_nil _ _, rfl⟩

theorem remaining_describes {nps : List NodePool} (h : Describes opts.isStatic np nps) :
    Describes opts.isStatic np (remaining withNodePool np nodes nps)
      ∧ (remaining withNodePool np nodes nps).filter (·.name ≠ np)
        = nps.filter (·.name ≠ np) := by
  unfold remaining
  cases withNodePool with
  | true => exact ⟨h.eraseP, others_eraseP⟩
  | false =>
    exact ⟨h.modifyFirst (fun _ _ => NodePools.deleteNodes_isStatic),
      others_modifyFirst (fun _ _ => NodePools.deleteNodes_name)⟩

theorem deletion_changes (hk8s : current.k8s = some k8s)
    (hbefore : Describes opts.isStatic np k8s.clusterInfo.nodePools) {description : String} :
    ∃ nps, ChangesNodes w current
      (updateEvent id current (.kDeleteNodes withNodePool np nodes opts.unreachable) description
        (scheduleDeletionsInNodePools.pipeline opts current.loadBalancers np kuberPasses))
      k8s nps np opts.isStatic := by
  obtain ⟨hafter, hothers⟩ := @remaining_describes opts withNodePool np nodes _ hbefore
  refine ⟨_,
    { tracked := hk8s
      others := hothers
      before := hbefore
      after := hafter
      envoy := envoy_of_deletions
      settled := ?_ }⟩
  intro done t' hdone hrun
  by_cases hne : done = []
  · subst hne
    cases hrun
    exact .inl ⟨rfl, rfl⟩
  · obtain ⟨hlayout, hdelta⟩ := deletions_run w.keeps_layout hk8s hdone hne hrun
    exact .inr ⟨hlayout, .inr hdelta⟩

end deletions

inductive ScheduledNodes (current : Clusters) (te : TaskEvent) : Prop
  | additions (ord : MapOrder) (id : TaskId) (desired : Clusters) (diff : NodePoolsDiffResult)
    (opts : K8sNodeAdditionOptions)
    (hdescribes : ∀ np, np ∈ diff.added ∨ np ∈ diff.partiallyAdded →
      Describes opts.isStatic np (current.kubernetesNodePools ++ desired.kubernetesNodePools))
    (h : scheduleAdditionsInNodePools ord id current desired diff opts = .ok (some te))
  | deletions (ord : MapOrder) (id : TaskId) (diff : NodePoolsDiffResult)
    (opts : K8sNodeDeletionOptions)
    (hdescribes : ∀ np, np ∈ diff.deleted ∨ np ∈ diff.partiallyDeleted →
      Describes opts.isStatic np current.kubernetesNodePools)
    (h : scheduleDeletionsInNodePools ord id current diff opts = .ok (some te))

section diff

variable {p : NodePool → Bool} {nps : List NodePool} {np : String}

theorem mem_nodePoolsViewOf (h : np ∈ nodePoolsViewOf p nps) :
    ∃ pool ∈ nps, p pool = true ∧ pool.name = np := by
  have hfold : ∀ (nps : List NodePool) (view : NodePoolsViewType),
      np ∈ nps.foldl (fun view np =>
        if p np then view.insert np.name (np.nodes.map (·.name)) else view) view →
      np ∈ view ∨ ∃ pool ∈ nps, p pool = true ∧ pool.name = np := by
    intro nps
    induction nps with
    | nil => exact fun view hview => .inl hview
    | cons pool nps ih =>
      intro view hview
      rcases ih _ hview with hmem | ⟨pool', hpool', hnp⟩
      · dsimp only at hmem
        split at hmem
        next hpool =>
          rcases Std.ExtTreeMap.mem_insert.mp hmem with hname | hmem
          · exact .inr ⟨pool, List.mem_cons_self, hpool, by simpa using hname⟩
          · exact .inl hmem
        next => exact .inl hmem
      · exact .inr ⟨pool', List.mem_cons_of_mem _ hpool', hnp⟩
  exact (hfold nps ∅ h).resolve_left Std.ExtTreeMap.not_mem_empty

theorem mem_of_mem_nodePoolsDiff {old desired : NodePoolsViewType}
    (h : np ∈ (nodePoolsDiff old desired).added ∨ np ∈ (nodePoolsDiff old desired).partiallyAdded
      ∨ np ∈ (nodePoolsDiff old desired).deleted
      ∨ np ∈ (nodePoolsDiff old desired).partiallyDeleted) : np ∈ old ∨ np ∈ desired := by
  simp only [← Std.ExtTreeMap.isSome_getElem?_iff_mem, nodePoolsDiff_added,
    nodePoolsDiff_partiallyAdded, nodePoolsDiff_deleted, nodePoolsDiff_partiallyDeleted] at h ⊢
  cases hold : old[np]? <;> cases hdesired : desired[np]? <;> simp [hold, hdesired] at h ⊢

theorem kubernetesDiff_describes {ord : MapOrder} {current desired : K8scluster}
    {r : KubernetesDiffResult} (hdiff : kubernetesDiff ord current desired = .ok r)
    (hkinds : ∀ pool ∈ current.clusterInfo.nodePools ++ desired.clusterInfo.nodePools,
      ∀ pool' ∈ current.clusterInfo.nodePools ++ desired.clusterInfo.nodePools,
        pool.name = pool'.name → pool.isDynamic = pool'.isDynamic)
    (h : np ∈ r.dynamic.added ∨ np ∈ r.dynamic.partiallyAdded ∨ np ∈ r.dynamic.deleted
      ∨ np ∈ r.dynamic.partiallyDeleted) :
    Describes false np (current.clusterInfo.nodePools ++ desired.clusterInfo.nodePools) := by
  obtain ⟨apiEndpoint, -, hdiff⟩ := Outcome.bind_eq_ok.mp hdiff
  cases hdiff
  intro pool hpool hname hstatic
  have hdynamic : ∃ pool' ∈ current.clusterInfo.nodePools ++ desired.clusterInfo.nodePools,
      pool'.isDynamic = true ∧ pool'.name = np := by
    rcases mem_of_mem_nodePoolsDiff h with h | h
    · obtain ⟨pool', hpool', hkind⟩ := mem_nodePoolsViewOf h
      exact ⟨pool', List.mem_append_left _ hpool', hkind⟩
    · obtain ⟨pool', hpool', hkind⟩ := mem_nodePoolsViewOf h
      exact ⟨pool', List.mem_append_right _ hpool', hkind⟩
  obtain ⟨pool', hpool', hdynamic, hname'⟩ := hdynamic
  rw [pool.isStatic_eq, hkinds pool hpool pool' hpool' (hname.trans hname'.symm), hdynamic]
    at hstatic
  cases hstatic

end diff

theorem mem_of_mem_range {ord : MapOrder} {loop : String} {view : NodePoolsViewType}
    {x : String × List String} (h : x ∈ ord.range loop view) : x.1 ∈ view := by
  rw [← Std.ExtTreeMap.isSome_getElem?_iff_mem, (MapOrder.mem_range ord).mp h]
  rfl

theorem kubernetesNodePools_eq {c : Clusters} {k8s : K8scluster} (h : c.k8s = some k8s) :
    c.kubernetesNodePools = k8s.clusterInfo.nodePools := by
  rw [Clusters.kubernetesNodePools, h]
  rfl

theorem ScheduledNodes.changes {current : Clusters} {te : TaskEvent} (w : NodeWorkers)
    (h : ScheduledNodes current te) :
    ∃ k8s nps np isStatic, ChangesNodes w current te k8s nps np isStatic := by
  cases h with
  | additions ord id desired diff opts hdescribes h =>
    obtain ⟨k8s, hk8s, h⟩ := Outcome.bind_eq_ok.mp h
    obtain ⟨dk8s, hdk8s, h⟩ := Outcome.bind_eq_ok.mp h
    rw [Outcome.deref_eq_ok] at hk8s hdk8s
    rw [kubernetesNodePools_eq hk8s, kubernetesNodePools_eq hdk8s] at hdescribes
    dsimp only at h
    split at h
    next te' hadded =>
      cases h
      obtain ⟨nps, np, hchanges⟩ := added_changes hk8s
        (fun x hx => hdescribes x.1 (.inl (mem_of_mem_range hx))) hadded
      exact ⟨k8s, nps, np, _, hchanges⟩
    next =>
      obtain ⟨nps, np, hchanges⟩ := partiallyAdded_changes hk8s
        (fun x hx pool hpool => hdescribes x.1 (.inr (mem_of_mem_range hx)) pool
          (List.mem_append_left _ hpool)) h
      exact ⟨k8s, nps, np, _, hchanges⟩
  | deletions ord id diff opts hdescribes h =>
    obtain ⟨k8s, hk8s, h⟩ := Outcome.bind_eq_ok.mp h
    rw [Outcome.deref_eq_ok] at hk8s
    rw [kubernetesNodePools_eq hk8s] at hdescribes
    dsimp only at h
    split at h
    next np nodes _ hrange =>
      cases h
      have hmem := @mem_of_mem_range ord _ _ (np, nodes) (by rw [hrange]; exact List.mem_cons_self)
      obtain ⟨nps, hchanges⟩ := deletion_changes hk8s (hdescribes np (.inr hmem))
      exact ⟨k8s, nps, np, _, hchanges⟩
    next np nodes _ _ hrange =>
      cases h
      have hmem := @mem_of_mem_range ord _ _ (np, nodes) (by rw [hrange]; exact List.mem_cons_self)
      obtain ⟨nps, hchanges⟩ := deletion_changes hk8s (hdescribes np (.inl hmem))
      exact ⟨k8s, nps, np, _, hchanges⟩
    next => cases h

theorem changed_targets_are_reconciled (w : NodeWorkers) {current : Clusters} {te : TaskEvent}
    (hte : ScheduledNodes current te) {done rest : List Stage} {t' : Task}
    (hpipeline : te.pipeline = done ++ rest) (hrun : w.runStages done te.task = .ok t')
    {lb : LBcluster} (hlb : lb ∈ current.loadBalancers) {role : Role} (hrole : role ∈ lb.roles)
    (hne : t'.clusters.targetNames role ≠ current.targetNames role) :
    ∃ pre description passes post,
      te.pipeline = pre ++ .ansibler description passes :: post
        ∧ passes.any (·.kind = .reconcileLoadbalancers) = true
        ∧ ∀ t₁, w.runStages pre te.task = .ok t₁ →
          t₁.clusters.targetNames role = t'.clusters.targetNames role
            ∧ ∃ lbs, loadBalancersToReconcile t₁ = .ok lbs
              ∧ ∃ lb' ∈ lbs, lb'.id = lb.id ∧ lb'.roles = lb.roles := by
  obtain ⟨k8s, nps, np, isStatic, hchanges⟩ := hte.changes w
  exact hchanges.reconciles hpipeline hrun hlb hrole hne

namespace Demo

namespace TargetPools

def node : Node := ⟨"main-abc1234-np-1234567-01", "", "", .worker, "", .preparing, 0, 0⟩

def nodePool : NodePool :=
  ⟨.dynamic ⟨"cpx11", "ubuntu", 0, "nbg1", "", 1, ⟨"hetzner-1", "hetzner", .hetzner "token",
    ⟨"", "", "", none, ⟨"", "", "", "", ""⟩⟩⟩, none, none, "", "", "10.0.0.0/24", "", false⟩,
    "np-1234567", [node], false, ∅, [], ∅, 22⟩

def role : Role := ⟨"http", "tcp", 80, 30080, .ingress, ["np"], ⟨true, false, 64512⟩⟩

def lb : LBcluster := ⟨⟨"lb", "qwe1234", []⟩, [role], none, "main", false⟩

def current : Clusters :=
  ⟨some ⟨⟨"main", "abc1234", [nodePool]⟩, "192.168.2.0/24", "", "1.34.0", ⟨"off", "", ""⟩⟩, [lb]⟩

def diff : NodePoolsDiffResult :=
  { partiallyDeleted := (∅ : NodePoolsViewType).insert "np-1234567" [node.name] }

def opts : K8sNodeDeletionOptions := { useProxy := false, hasApiServer := false, isStatic := false }

def workers : NodeWorkers where
  toWorkers := Longhorn.Demo.workers
  keepsLayout _ _ := rfl

theorem describes (np : String) : Describes opts.isStatic np current.kubernetesNodePools := by
  intro pool hpool _ hstatic
  rw [List.mem_singleton.mp hpool] at hstatic
  cases hstatic

end TargetPools

end Demo

theorem changed_targets_of_deletion :
    ∃ te pre description passes post,
      scheduleDeletionsInNodePools .ascending 1 Demo.TargetPools.current Demo.TargetPools.diff
          Demo.TargetPools.opts = .ok (some te)
        ∧ te.pipeline = pre ++ .ansibler description passes :: post
        ∧ passes.any (·.kind = .reconcileLoadbalancers) = true := by
  have hrun : Outcome.passes (scheduleDeletionsInNodePools .ascending 1 Demo.TargetPools.current
      Demo.TargetPools.diff Demo.TargetPools.opts) (Option.any (fun te =>
        Outcome.passes (Demo.TargetPools.workers.runStages te.pipeline te.task) (fun t' =>
          decide (t'.clusters.targetNames Demo.TargetPools.role
            ≠ Demo.TargetPools.current.targetNames Demo.TargetPools.role)))) = true := by
    decide
  obtain ⟨te, hte, hrun⟩ := Outcome.passes_some_iff.mp hrun
  obtain ⟨t', ht', hrun⟩ := Outcome.passes_iff.mp hrun
  obtain ⟨pre, description, passes, post, hpipeline, hpass, -⟩ :=
    changed_targets_are_reconciled Demo.TargetPools.workers
      (.deletions _ _ _ _ (fun np _ => Demo.TargetPools.describes np) hte)
      (List.append_nil _).symm ht' (List.mem_singleton_self _) (List.mem_singleton_self _)
      (of_decide_eq_true hrun)
  exact ⟨te, pre, description, passes, post, hte, hpipeline, hpass⟩

end Manager

end Claudie
