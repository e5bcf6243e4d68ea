import Claudie.Manager.Lemmas.AddNodePools

/-!
The union of the nodepools of a kubernetes cluster, and of the load balancers of two states.
-/

namespace Claudie

namespace Manager

namespace clustersUnion

open NodePools

section Kubernetes

variable {ord : MapOrder} {old modified : List NodePool}

structure MergeableK8s (old modified : List NodePool) : Prop where
  kinds : SameKinds old modified
  endpoint : ∀ np node, endpointNode old = some (np, node) →
    node.name = "" ∨ KeepsNode modified np node.name
      ∨ ∃ c, newAPIEndpointNodeCandidate modified = .ok c
  keys : ∀ o ∈ old, ∀ m ∈ modified, o.name = m.name → o.isStatic = true → o.nodes = [] →
    m.nodes = []

theorem addsKind_dynamic (hold : (old.map (·.name)).Nodup)
    (hmodified : (modified.map (·.name)).Nodup) (hkinds : SameKinds old modified) :
    AddsKind (·.isDynamic) old modified old :=
  ⟨hold, hmodified, fun _ _ h => h, hkinds, fun _ _ _ => rfl⟩

theorem AddsKind.static {nps : List NodePool} {loop : String}
    (h : AddsKind (·.isDynamic) old modified old)
    (hok : addNodePools ord loop (dynamicDiff old modified) modified old = .ok nps) :
    AddsKind (·.isStatic) old modified nps where
  oldNames := h.oldNames
  modifiedNames := h.modifiedNames
  kind a b hkind := by rw [NodePool.isStatic_eq, NodePool.isStatic_eq, hkind]
  kinds := h.kinds
  same m hm hp := by
    refine h.kept hok (fun np hnp => ?_)
    rw [(mem_iff_findByName h.modifiedNames).mp hm] at hnp
    cases hnp
    simpa [NodePool.isStatic_eq] using hp

theorem MergeableK8s.union (h : MergeableK8s old modified) (hold : TidyNodePools old)
    (hmodified : TidyNodePools modified) :
    ∃ nps us, addNodePools ord "union dynamic" (dynamicDiff old modified) modified old = .ok nps
      ∧ addNodePools ord "union static" (staticDiff old modified) modified nps = .ok us
      ∧ TidyNodePools us ∧ CoversNodePools us old ∧ CoversNodePools us modified := by
  have hdynamic := addsKind_dynamic hold.names hmodified.names h.kinds
  have hcopy : ∀ name o m, findByName name old = some o → findByName name modified = some m →
      ∃ u, copyNodes o m (missingNodes o m) = .ok u := by
    intro name o m ho hm
    have hmem := List.mem_of_find?_eq_some ho
    exact copyNodes_isOk (h.keys o hmem m (List.mem_of_find?_eq_some hm)
      ((findByName_name ho).trans (findByName_name hm).symm)) (hold.nodePools o hmem)
  obtain ⟨nps, hnps⟩ := hdynamic.isOk ord "union dynamic"
    (fun name o m ho hm _ => hcopy name o m ho hm)
  have hstatic := hdynamic.static hnps
  obtain ⟨us, hus⟩ := hstatic.isOk ord "union static"
    (fun name o m ho hm _ => hcopy name o m ho hm)
  have htidy := hdynamic.tidy hold hmodified hnps
  have hcovers := hstatic.covers_ir htidy.names hus
  refine ⟨nps, us, hnps, hus, hstatic.tidy htidy hmodified hus, fun o ho => ?_, fun m hm => ?_⟩
  · obtain ⟨np, hnp, hcovo⟩ := hdynamic.covers_ir hold.names hnps o ho
    obtain ⟨u, hu, hcov⟩ := hcovers np hnp
    exact ⟨u, hu, covers_trans hcov hcovo⟩
  · cases hkind : m.isDynamic with
    | true =>
      obtain ⟨np, hnp, hcovm⟩ := hdynamic.covers_modified hnps hm hkind
      obtain ⟨u, hu, hcov⟩ := hcovers np hnp
      exact ⟨u, hu, covers_trans hcov hcovm⟩
    | false => exact hstatic.covers_modified hus hm (NodePool.isStatic_of_not_isDynamic hkind)

theorem keys_of_union {nps us : List NodePool} (hold : TidyNodePools old)
    (hmodified : TidyNodePools modified) (hkinds : SameKinds old modified)
    (hnps : addNodePools ord "union dynamic" (dynamicDiff old modified) modified old = .ok nps)
    (hus : addNodePools ord "union static" (staticDiff old modified) modified nps = .ok us)
    {o m : NodePool} (ho : o ∈ old) (hm : m ∈ modified) (hname : o.name = m.name)
    (hstatic : o.isStatic = true) (hnodes : o.nodes = []) : m.nodes = [] := by
  have hkind := hkinds o ho m hm hname
  have hmstatic : m.isStatic = true := by rwa [NodePool.isStatic_eq, ← hkind, ← NodePool.isStatic_eq]
  have hdynamic := addsKind_dynamic hold.names hmodified.names hkinds
  have hadds := hdynamic.static hnps
  have hunion := hadds.unionAt hus m.name
  rw [hadds.same m hm hmstatic, ← hname, (mem_iff_findByName hold.names).mp ho, hname,
    (mem_iff_findByName hmodified.names).mp hm] at hunion
  generalize findByName m.name us = u at hunion
  by_contra hne
  cases hunion with
  | copied _ hcopy =>
    rw [copyNodes_panics hstatic hkind (hold.nodePools o ho) hnodes hne] at hcopy
    cases hcopy
  | kept hno => exact absurd hmstatic (by simp [hno m rfl])

end Kubernetes

section LoadBalancer

variable {ord : MapOrder} {first second : String} {old modified : List NodePool}

/--
The two states of a load balancer that have a union: no static nodepool or node is new, and if one is
gone nothing dynamic is new either.
-/
structure MergeableLb (old modified : List NodePool) : Prop where
  kinds : SameKinds old modified
  static : CoversKind (·.isStatic) old modified
  dynamic : CoversKind (·.isStatic) modified old ∨ CoversKind (·.isDynamic) old modified

theorem MergeableLb.lbStatic_adds_nothing (h : MergeableLb old modified)
    (hold : (old.map (·.name)).Nodup) (hmodified : (modified.map (·.name)).Nodup) :
    (lbStatic old modified).added.isEmpty = true
      ∧ (lbStatic old modified).partiallyAdded.isEmpty = true := by
  unfold lbStatic
  obtain hstatic | hdynamic := h.dynamic
  · have hempty : (staticDiff old modified).isEmpty = true :=
      (nodePoolsDiff_isEmpty hold hmodified).mpr ⟨h.static, hstatic⟩
    rw [hempty]
    exact ⟨Std.ExtTreeMap.isEmpty_iff.mpr rfl, Std.ExtTreeMap.isEmpty_iff.mpr rfl⟩
  · split
    next => exact (coversKind_of_no_additions hold hmodified).mpr hdynamic
    next => exact ⟨Std.ExtTreeMap.isEmpty_iff.mpr rfl, Std.ExtTreeMap.isEmpty_iff.mpr rfl⟩

theorem MergeableLb.union (ord : MapOrder) (first second : String) (h : MergeableLb old modified)
    (hold : TidyNodePools old) (hmodified : TidyNodePools modified) :
    ∃ nps, addNodePools ord first (dynamicDiff old modified) modified old = .ok nps
      ∧ addNodePools ord second (lbStatic old modified) modified nps = .ok nps
      ∧ TidyNodePools nps ∧ CoversNodePools nps old ∧ CoversNodePools nps modified := by
  have hdynamic := addsKind_dynamic hold.names hmodified.names h.kinds
  obtain ⟨nps, hnps⟩ := hdynamic.isOk ord first (by
    intro name o m ho hm hp
    have hmem := List.mem_of_find?_eq_some ho
    refine copyNodes_isOk (fun hstatic => ?_) (hold.nodePools o hmem)
    have hkind := h.kinds o hmem m (List.mem_of_find?_eq_some hm)
      ((findByName_name ho).trans (findByName_name hm).symm)
    rw [NodePool.isStatic_eq, hkind, hp] at hstatic
    cases hstatic)
  obtain ⟨hadded, hpart⟩ := h.lbStatic_adds_nothing hold.names hmodified.names
  have hcovers := hdynamic.covers_ir hold.names hnps
  refine ⟨nps, hnps, addNodePools_of_no_additions hadded hpart,
    hdynamic.tidy hold hmodified hnps, hcovers, fun m hm => ?_⟩
  cases hkind : m.isDynamic with
  | true => exact hdynamic.covers_modified hnps hm hkind
  | false =>
    obtain ⟨o, ho, hstatic, hname, hnodes⟩ := h.static m hm (NodePool.isStatic_of_not_isDynamic hkind)
    obtain ⟨u, hu, hcov⟩ := hcovers o ho
    have hokind : o.isDynamic = m.isDynamic := h.kinds o ho m hm hname
    exact ⟨u, hu, covers_trans hcov ⟨hname, hokind, hnodes⟩⟩

theorem static_of_union {nps us : List NodePool} (hold : TidyNodePools old)
    (hmodified : TidyNodePools modified) (hkinds : SameKinds old modified)
    (hnps : addNodePools ord first (dynamicDiff old modified) modified old = .ok nps)
    (hus : addNodePools ord second (lbStatic old modified) modified nps = .ok us)
    (htidy : TidyNodePools us) (hcovers : CoversNodePools us modified) :
    CoversKind (·.isStatic) old modified := by
  have hdynamic := addsKind_dynamic hold.names hmodified.names hkinds
  intro m hm hstatic
  have hno : ∀ np ∈ findByName m.name modified, np.isDynamic = false := by
    intro np hnp
    rw [(mem_iff_findByName hmodified.names).mp hm] at hnp
    cases hnp
    simpa [NodePool.isStatic_eq] using hstatic
  -- nothing is added under the name of a static nodepool.
  have hsame : findByName m.name us = findByName m.name nps := by
    unfold lbStatic at hus
    split at hus
    next =>
      obtain ⟨_, hpart, hadded⟩ | ⟨d, hd, hp, _⟩ := hdynamic.lookup m.name
      · rw [(adds_nodePoolsDiff hmodified.names).findByName_of_added hus hpart, hadded]
        exact Option.or_none
      · exact absurd hp (by simp [hno d hd])
    next =>
      rw [addNodePools_of_no_additions (Std.ExtTreeMap.isEmpty_iff.mpr rfl)
        (Std.ExtTreeMap.isEmpty_iff.mpr rfl)] at hus
      cases hus
      rfl
  obtain ⟨u, hu, hcov⟩ := hcovers m hm
  have hlook := (mem_iff_findByName htidy.names).mp hu
  rw [hcov.name, hsame, hdynamic.kept hnps hno] at hlook
  refine ⟨u, List.mem_of_find?_eq_some hlook, ?_, hcov.name, hcov.nodes⟩
  show u.isStatic = true
  rw [NodePool.isStatic_eq, hcov.kind, ← NodePool.isStatic_eq]
  exact hstatic

-- What is added twice is in the result twice.
theorem dynamic_of_union {nps us : List NodePool} (hold : TidyNodePools old)
    (hmodified : TidyNodePools modified) (hkinds : SameKinds old modified)
    (hnps : addNodePools ord first (dynamicDiff old modified) modified old = .ok nps)
    (hus : addNodePools ord second (dynamicDiff old modified) modified nps = .ok us)
    (htidy : TidyNodePools us) : CoversKind (·.isDynamic) old modified := by
  have hdynamic := addsKind_dynamic hold.names hmodified.names hkinds
  have hadds : Adds ord second (dynamicDiff old modified) modified :=
    adds_nodePoolsDiff hmodified.names
  refine (coversKind_of_no_additions hold.names hmodified.names).mp ⟨?_, ?_⟩
  · rw [GoMap.isEmpty_iff_getElem?]
    intro name
    obtain ⟨_, _, hadded⟩ | ⟨m, hm, hp, _, _, hadded⟩ := hdynamic.lookup name
    · exact hadded
    · by_contra hne
      have hnone : findByName name old = none := by
        cases ho : findByName name old with
        | none => rfl
        | some o => exact absurd (by rw [hadded, ho]; rfl) hne
      have hunion := hdynamic.unionAt hnps name
      rw [hnone, hm] at hunion
      have hnames := htidy.names
      rw [hadds.names hus, List.nodup_append] at hnames
      refine hnames.2.2 name ?_ name ?_ rfl
      · generalize hu : findByName name nps = u at hunion
        cases hunion with
        | added _ =>
          rw [← findByName_name hu]
          exact List.mem_map_of_mem (List.mem_of_find?_eq_some hu)
        | kept hno => exact absurd hp (by simp [hno m rfl])
      · rw [MapOrder.mem_keys_range]
        exact Option.isSome_iff_ne_none.mpr hne
  · rw [GoMap.isEmpty_iff_getElem?]
    intro name
    obtain ⟨_, hpart, _⟩ | ⟨m, hm, hp, _, hpart, _⟩ := hdynamic.lookup name
    · exact hpart
    · by_contra hne
      obtain ⟨nodes, hnodes⟩ := Option.ne_none_iff_exists'.mp hne
      have hmissing := hpart.symm.trans hnodes
      obtain ⟨o, ho, hmissing⟩ := Option.bind_eq_some_iff.mp hmissing
      have hunion := hdynamic.unionAt hnps name
      rw [ho, hm] at hunion
      generalize hu : findByName name nps = u at hunion
      cases hunion with
      | kept hno => exact absurd hp (by simp [hno m rfl])
      | copied _ hcopy =>
        obtain ⟨hcopied, _, hkind⟩ := hdynamic.copied ho hm hp hcopy
        obtain ⟨u', hcopy', hlook⟩ := hadds.findByName_of_partiallyAdded hus hnodes hu hm
        have hcopied' := copied_of_copyNodes (hcopied.kind.trans hkind) hcopy'
        have hdup := (htidy.nodePools u' (List.mem_of_find?_eq_some hlook)).nodes
        rw [hcopied'.nodes, hcopied.nodes, missingNodes_of_missingFrom hmissing, List.map_append,
          List.map_append, List.nodup_append] at hdup
        have htarget : targetNodes m nodes ≠ [] := by
          obtain ⟨x, hx⟩ := List.exists_mem_of_ne_nil _ (missingFrom_ne_nil hmissing)
          rw [← missingNodes_of_missingFrom hmissing] at hx ⊢
          obtain ⟨hx, hxo⟩ := List.mem_filter.mp hx
          obtain ⟨n, hn, rfl⟩ := List.mem_map.mp hx
          exact List.ne_nil_of_mem (mem_targetNodes_missing.mpr ⟨hn, by simpa using hxo⟩)
        obtain ⟨n, hn⟩ := List.exists_mem_of_ne_nil _ htarget
        have hn := List.mem_map_of_mem (f := (·.name)) hn
        exact hdup.2.2 _ (List.mem_append_right _ hn) _ hn rfl

theorem mergeableLb_of_union {nps us : List NodePool} (hold : TidyNodePools old)
    (hmodified : TidyNodePools modified)
    (hnps : addNodePools ord first (dynamicDiff old modified) modified old = .ok nps)
    (hus : addNodePools ord second (lbStatic old modified) modified nps = .ok us)
    (htidy : TidyNodePools us) (hcold : CoversNodePools us old)
    (hcmodified : CoversNodePools us modified) : MergeableLb old modified := by
  have hkinds := sameKinds_of_covers htidy.names hcold hcmodified
  have hstatic := static_of_union hold hmodified hkinds hnps hus htidy hcmodified
  refine ⟨hkinds, hstatic, ?_⟩
  cases hempty : (staticDiff old modified).isEmpty with
  | true => exact .inl ((nodePoolsDiff_isEmpty hold.names hmodified.names).mp hempty).2
  | false =>
    rw [lbStatic, hempty] at hus
    exact .inr (dynamic_of_union hold hmodified hkinds hnps hus htidy)

theorem mergeableLb_of_isEmpty (hold : (old.map (·.name)).Nodup)
    (hmodified : (modified.map (·.name)).Nodup) (hdynamic : (dynamicDiff old modified).isEmpty = true)
    (hstatic : (staticDiff old modified).isEmpty = true) :
    MergeableLb old modified ∧ CoversNodePools old modified := by
  obtain ⟨hdold, hdmodified⟩ := (nodePoolsDiff_isEmpty hold hmodified).mp hdynamic
  obtain ⟨hsold, hsmodified⟩ := (nodePoolsDiff_isEmpty hold hmodified).mp hstatic
  have hkinds : SameKinds old modified := by
    intro o ho m hm hname
    cases hkind : o.isDynamic with
    | true =>
      obtain ⟨m', hm', hp, hname', _⟩ := hdmodified o ho hkind
      have heq := List.inj_on_of_nodup_map hmodified hm' hm (hname'.trans hname)
      rw [← heq]
      exact hp.symm
    | false =>
      obtain ⟨m', hm', hp, hname', _⟩ := hsmodified o ho (NodePool.isStatic_of_not_isDynamic hkind)
      have heq := List.inj_on_of_nodup_map hmodified hm' hm (hname'.trans hname)
      rw [← heq]
      simpa [NodePool.isStatic_eq] using hp
  refine ⟨⟨hkinds, hsold, .inl hsmodified⟩, fun m hm => ?_⟩
  cases hkind : m.isDynamic with
  | true =>
    obtain ⟨o, ho, _, hname, hnodes⟩ := hdold m hm hkind
    exact ⟨o, ho, hname, hkinds o ho m hm hname, hnodes⟩
  | false =>
    obtain ⟨o, ho, _, hname, hnodes⟩ := hsold m hm (NodePool.isStatic_of_not_isDynamic hkind)
    exact ⟨o, ho, hname, hkinds o ho m hm hname, hnodes⟩

end LoadBalancer

section LoadBalancers

variable {ord : MapOrder} {old modified : LBcluster} {i j : Nat} {m : ModifiedLoadBalancer}

theorem addNodePools_unless_empty {loop : String} {diff : NodePoolsDiffResult}
    {src ir : List NodePool} :
    addNodePools ord loop (if !diff.isEmpty then diff else {}) src ir
      = addNodePools ord loop diff src ir := by
  cases hempty : diff.isEmpty with
  | false => rfl
  | true =>
    simp only [NodePoolsDiffResult.isEmpty, Bool.and_eq_true] at hempty
    rw [addNodePools_of_no_additions hempty.1.2 hempty.2]
    exact addNodePools_of_no_additions (Std.ExtTreeMap.isEmpty_iff.mpr rfl)
      (Std.ExtTreeMap.isEmpty_iff.mpr rfl)

theorem mergeLoadBalancer_eq_ok {lb : LBcluster}
    (hm : modifiedLoadBalancer i j old modified = some m)
    (h : mergeLoadBalancer ord m modified old = .ok lb) :
    ∃ nps, addNodePools ord s!"union {old.id} dynamic"
        (dynamicDiff old.clusterInfo.nodePools modified.clusterInfo.nodePools)
        modified.clusterInfo.nodePools old.clusterInfo.nodePools = .ok nps
      ∧ addNodePools ord s!"union {old.id} static"
        (lbStatic old.clusterInfo.nodePools modified.clusterInfo.nodePools)
        modified.clusterInfo.nodePools nps = .ok lb.clusterInfo.nodePools := by
  have hdiff := modifiedLoadBalancer_eq_some hm
  unfold mergeLoadBalancer at h
  dsimp only at h
  rw [hdiff.dynamic, hdiff.static, addNodePools_unless_empty] at h
  obtain ⟨nps, hnps, h⟩ := Outcome.bind_eq_ok.mp h
  obtain ⟨us, hus, h⟩ := Outcome.bind_eq_ok.mp h
  cases h
  exact ⟨nps, hnps, hus⟩

theorem mergeLoadBalancer_id {lb nlb clb : LBcluster}
    (h : mergeLoadBalancer ord m nlb clb = .ok lb) : lb.id = clb.id := by
  unfold mergeLoadBalancer at h
  dsimp only at h
  obtain ⟨nps, _, h⟩ := Outcome.bind_eq_ok.mp h
  obtain ⟨us, _, h⟩ := Outcome.bind_eq_ok.mp h
  cases h
  rfl

theorem mergeLoadBalancer_isOk (hm : modifiedLoadBalancer i j old modified = some m)
    {nps us : List NodePool}
    (hnps : addNodePools ord s!"union {old.id} dynamic"
      (dynamicDiff old.clusterInfo.nodePools modified.clusterInfo.nodePools)
      modified.clusterInfo.nodePools old.clusterInfo.nodePools = .ok nps)
    (hus : addNodePools ord s!"union {old.id} static"
      (lbStatic old.clusterInfo.nodePools modified.clusterInfo.nodePools)
      modified.clusterInfo.nodePools nps = .ok us) :
    ∃ lb, mergeLoadBalancer ord m modified old = .ok lb := by
  have hdiff := modifiedLoadBalancer_eq_some hm
  unfold mergeLoadBalancer
  dsimp only
  rw [hdiff.dynamic, hdiff.static, addNodePools_unless_empty, hnps]
  simp only [bind, Except.bind, hus]
  exact ⟨_, rfl⟩

theorem MergeableLb.merged {lb : LBcluster}
    (h : MergeableLb old.clusterInfo.nodePools modified.clusterInfo.nodePools)
    (hold : TidyNodePools old.clusterInfo.nodePools)
    (hmodified : TidyNodePools modified.clusterInfo.nodePools)
    (hm : modifiedLoadBalancer i j old modified = some m)
    (hmerge : mergeLoadBalancer ord m modified old = .ok lb) :
    TidyNodePools lb.clusterInfo.nodePools
      ∧ CoversNodePools lb.clusterInfo.nodePools old.clusterInfo.nodePools
      ∧ CoversNodePools lb.clusterInfo.nodePools modified.clusterInfo.nodePools := by
  obtain ⟨nps, hnps, hus⟩ := mergeLoadBalancer_eq_ok hm hmerge
  obtain ⟨nps', hnps', hus', hunion⟩ := h.union ord s!"union {old.id} dynamic"
    s!"union {old.id} static" hold hmodified
  rw [hnps] at hnps'
  cases hnps'
  rw [hus] at hus'
  rwa [Except.ok.inj hus']

def mergeTo (ord : MapOrder) (modified : List LBcluster) (id : String) (diff : ModifiedLoadBalancer)
    (clb : LBcluster) : Outcome LBcluster := do
  let nlb ← Outcome.deref (Clusters.findLoadbalancerById id modified)
  mergeLoadBalancer ord diff nlb clb

theorem mergeTo_id {modified : List LBcluster} {id : String} {diff : ModifiedLoadBalancer}
    {clb lb : LBcluster} (h : mergeTo ord modified id diff clb = .ok lb) : lb.id = clb.id := by
  obtain ⟨_, _, h⟩ := Outcome.bind_eq_ok.mp h
  exact mergeLoadBalancer_id h

theorem mergeLoadBalancers_eq {modified ir : List LBcluster}
    {entries : List (String × ModifiedLoadBalancer)}
    (hir : ∀ e ∈ entries, e.1 ∈ ir.map (·.id)) :
    mergeLoadBalancers ord modified ir entries
      = ir.modifyKeys (·.id) (mergeTo ord modified) entries := by
  induction entries generalizing ir with
  | nil => rfl
  | cons e entries ih =>
    obtain ⟨id, diff⟩ := e
    obtain ⟨clb, hclb, hid⟩ := List.mem_map.mp (hir _ List.mem_cons_self)
    obtain ⟨i, hi⟩ : ∃ i, ir.findIdx? (fun lb => lb.id = id) = some i := by
      rw [← Option.isSome_iff_exists, List.findIdx?_isSome]
      exact List.any_eq_true.mpr ⟨clb, hclb, by simpa using hid⟩
    obtain ⟨lb, hlb⟩ : ∃ lb, ir[i]? = some lb :=
      ⟨_, List.getElem?_eq_getElem (List.findIdx?_eq_some_iff_getElem.mp hi).1⟩
    rw [mergeLoadBalancers, List.modifyKeys, List.modifyKey_of_findIdx? hi hlb,
      Clusters.indexLoadbalancerById, hi]
    simp only [Outcome.deref_some, bind, Except.bind, hlb, mergeTo]
    cases hnlb : Outcome.deref (Clusters.findLoadbalancerById id modified) with
    | error e => rfl
    | ok nlb =>
      dsimp only
      cases hmerge : mergeLoadBalancer ord diff nlb lb with
      | error e => rfl
      | ok lb' =>
        refine ih (fun e he => ?_)
        have hset : ir.modifyKey (·.id) id (mergeTo ord modified id diff) = .ok (ir.set i lb') := by
          rw [List.modifyKey_of_findIdx? hi hlb, mergeTo, hnlb]
          simp only [bind, Except.bind, hmerge]
        rw [(List.modifyKey_eq_ok (fun _ _ => mergeTo_id) hset).1]
        exact hir e (List.mem_cons_of_mem _ he)

end LoadBalancers

section Lists

variable {ord : MapOrder} {old modified us : List LBcluster}

structure TidyLoadBalancers (lbs : List LBcluster) : Prop where
  ids : (lbs.map (·.id)).Nodup
  nodePools : ∀ lb ∈ lbs, TidyNodePools lb.clusterInfo.nodePools

def CoversLoadBalancers (lbs others : List LBcluster) : Prop :=
  ∀ lb ∈ others, ∃ lb' ∈ lbs, lb'.id = lb.id
    ∧ CoversNodePools lb'.clusterInfo.nodePools lb.clusterInfo.nodePools

def addedLoadBalancers (old modified : List LBcluster) : List LBcluster :=
  modified.filter (fun lb => (Clusters.indexLoadbalancerById lb.id old).isNone)

theorem mem_addedLoadBalancers {lb : LBcluster} :
    lb ∈ addedLoadBalancers old modified ↔ lb ∈ modified ∧ lb.id ∉ old.map (·.id) := by
  rw [addedLoadBalancers, List.mem_filter, Clusters.indexLoadbalancerById, Option.isNone_iff_eq_none,
    List.findIdx?_eq_none_iff]
  simp [eq_comm]

theorem mapM_added (hmodified : (modified.map (·.id)).Nodup) :
    (loadBalancersDiff old modified).added.mapM (fun lb =>
        Outcome.deref (Clusters.findLoadbalancerById lb.id modified))
      = .ok (addedLoadBalancers old modified) := by
  have hfind : ∀ l : List (LBcluster × Nat), (∀ x ∈ l, x.1 ∈ modified) →
      (l.map (fun x => LoadBalancerIdentifier.mk x.1.id x.2)).mapM (fun lb =>
        Outcome.deref (Clusters.findLoadbalancerById lb.id modified)) = .ok (l.map (·.1)) := by
    intro l hl
    induction l with
    | nil => rfl
    | cons x l ih =>
      have hx : Clusters.findLoadbalancerById x.1.id modified = some x.1 :=
        (List.find?_key_eq_some hmodified).mpr ⟨hl x List.mem_cons_self, rfl⟩
      rw [List.map_cons, List.mapM_cons, hx, ih (fun y hy => hl y (List.mem_cons_of_mem _ hy))]
      rfl
  have hmem : ∀ x ∈ modified.zipIdx.filter (fun x =>
      (Clusters.indexLoadbalancerById x.1.id old).isNone), x.1 ∈ modified := by
    intro x hx
    exact List.mem_of_getElem? (List.mem_zipIdx_iff_getElem?.mp (List.mem_filter.mp hx).1)
  refine (hfind _ hmem).trans (congrArg Except.ok ?_)
  rw [addedLoadBalancers]
  conv_rhs => rw [← List.zipIdx_map_fst 0 modified, List.filter_map]
  rfl

def unionLoadBalancers (ord : MapOrder) (old modified : List LBcluster) : Outcome (List LBcluster) :=
  (old ++ addedLoadBalancers old modified).modifyKeys (·.id) (mergeTo ord modified)
    (ord.range "union modified" (loadBalancersDiff old modified).modified)

theorem unionLoadBalancers_eq (hold : (old.map (·.id)).Nodup)
    (hmodified : (modified.map (·.id)).Nodup) :
    mergeLoadBalancers ord modified (old ++ addedLoadBalancers old modified)
        (ord.range "union modified" (loadBalancersDiff old modified).modified)
      = unionLoadBalancers ord old modified := by
  refine mergeLoadBalancers_eq (fun e he => ?_)
  rw [MapOrder.mem_range, loadBalancersDiff_modified hold hmodified] at he
  obtain ⟨i, j, o, d, ho, hid, _⟩ := he
  rw [List.map_append]
  exact List.mem_append_left _ (hid ▸ List.mem_map_of_mem (List.mem_of_getElem? ho))

theorem nodup_ids_append (hold : (old.map (·.id)).Nodup) (hmodified : (modified.map (·.id)).Nodup) :
    ((old ++ addedLoadBalancers old modified).map (·.id)).Nodup := by
  rw [List.map_append, List.nodup_append]
  refine ⟨hold, hmodified.sublist (List.filter_sublist.map _), ?_⟩
  rintro id hid _ hid' rfl
  obtain ⟨lb, hlb, rfl⟩ := List.mem_map.mp hid'
  exact (mem_addedLoadBalancers.mp hlb).2 hid

theorem unionLoadBalancers_lookup (hold : (old.map (·.id)).Nodup)
    (hmodified : (modified.map (·.id)).Nodup) (hus : unionLoadBalancers ord old modified = .ok us)
    {lb : LBcluster} (hlb : lb ∈ old ++ addedLoadBalancers old modified) :
    ∃ u ∈ us, u.id = lb.id
      ∧ ((u = lb ∧ ∀ i j d, old[i]? = some lb → modified[j]? = some d → d.id = lb.id →
          modifiedLoadBalancer i j lb d = none)
        ∨ ∃ i j d m, old[i]? = some lb ∧ modified[j]? = some d ∧ d.id = lb.id
          ∧ modifiedLoadBalancer i j lb d = some m ∧ mergeLoadBalancer ord m d lb = .ok u) := by
  have hnodup := nodup_ids_append hold hmodified
  have hfind : (old ++ addedLoadBalancers old modified).find? (fun x => x.id = lb.id) = some lb :=
    (List.find?_key_eq_some hnodup).mpr ⟨hlb, rfl⟩
  cases hm : (loadBalancersDiff old modified).modified[lb.id]? with
  | none =>
    have hnot : lb.id ∉ (ord.range "union modified"
        (loadBalancersDiff old modified).modified).map (·.1) := by
      rw [MapOrder.mem_keys_range, hm]
      simp
    have hlook := List.modifyKeys_find?_of_not_mem (fun _ _ _ _ => mergeTo_id) hus hnot
    rw [hfind] at hlook
    refine ⟨lb, List.mem_of_find?_eq_some hlook, rfl, .inl ⟨rfl, fun i j d hi hj hid => ?_⟩⟩
    cases hmod : modifiedLoadBalancer i j lb d with
    | none => rfl
    | some m =>
      have := (loadBalancersDiff_modified hold hmodified).mpr ⟨i, j, lb, d, hi, rfl, hj, hid, hmod⟩
      rw [hm] at this
      cases this
  | some m =>
    obtain ⟨i, j, o, d, hi, hoid, hj, hdid, hmod⟩ := (loadBalancersDiff_modified hold hmodified).mp hm
    have heq : o = lb := List.inj_on_of_nodup_map hnodup
      (List.mem_append_left _ (List.mem_of_getElem? hi)) hlb hoid
    subst heq
    obtain ⟨u, hmerge, hlook⟩ := List.modifyKeys_find?_of_mem (fun _ _ _ _ => mergeTo_id)
      (MapOrder.nodup_keys_range ord) hus
      (show (o.id, m) ∈ ord.range _ _ from (MapOrder.mem_range ord).mpr hm) hfind
    have hd : Clusters.findLoadbalancerById o.id modified = some d :=
      (List.find?_key_eq_some hmodified).mpr ⟨List.mem_of_getElem? hj, hdid⟩
    rw [mergeTo, hd] at hmerge
    have hu : u.id = o.id := by simpa using List.find?_some hlook
    exact ⟨u, List.mem_of_find?_eq_some hlook, hu, .inr ⟨i, j, d, m, hi, hj, hdid, hmod, hmerge⟩⟩

theorem unionLoadBalancers_ids (hus : unionLoadBalancers ord old modified = .ok us) :
    us.map (·.id) = (old ++ addedLoadBalancers old modified).map (·.id) :=
  List.modifyKeys_keys (fun _ _ _ _ => mergeTo_id) hus

theorem unionLoadBalancers_isOk (hold : TidyLoadBalancers old) (hmodified : TidyLoadBalancers modified)
    (h : ∀ lb ∈ old, ∀ lb' ∈ modified, lb.id = lb'.id →
      MergeableLb lb.clusterInfo.nodePools lb'.clusterInfo.nodePools) :
    ∃ us, unionLoadBalancers ord old modified = .ok us := by
  refine List.modifyKeys_isOk (fun _ _ _ _ => mergeTo_id) (MapOrder.nodup_keys_range ord) ?_
  intro id m hmem clb hclb
  rw [MapOrder.mem_range, loadBalancersDiff_modified hold.ids hmodified.ids] at hmem
  obtain ⟨i, j, o, d, hi, rfl, hj, hdid, hmod⟩ := hmem
  have ho := List.mem_of_getElem? hi
  have hd := List.mem_of_getElem? hj
  have hfind := (List.find?_key_eq_some (nodup_ids_append hold.ids hmodified.ids)).mpr
    ⟨List.mem_append_left _ ho, rfl⟩
  have heq : o = clb := Option.some.inj (hfind.symm.trans hclb)
  subst heq
  have hlook : Clusters.findLoadbalancerById o.id modified = some d :=
    (List.find?_key_eq_some hmodified.ids).mpr ⟨hd, hdid⟩
  rw [mergeTo, hlook]
  obtain ⟨nps, hnps, hus, _⟩ := (h o ho d hd hdid.symm).union ord
    s!"union {o.id} dynamic" s!"union {o.id} static" (hold.nodePools o ho) (hmodified.nodePools d hd)
  exact mergeLoadBalancer_isOk hmod hnps hus

theorem coversNodePools_refl (nps : List NodePool) : CoversNodePools nps nps :=
  fun np hnp => ⟨np, hnp, covers_refl np⟩

theorem unionLoadBalancers_tidy (hold : TidyLoadBalancers old)
    (hmodified : TidyLoadBalancers modified)
    (h : ∀ lb ∈ old, ∀ lb' ∈ modified, lb.id = lb'.id →
      MergeableLb lb.clusterInfo.nodePools lb'.clusterInfo.nodePools)
    (hus : unionLoadBalancers ord old modified = .ok us) : TidyLoadBalancers us := by
  have hids : (us.map (·.id)).Nodup := by
    rw [unionLoadBalancers_ids hus]
    exact nodup_ids_append hold.ids hmodified.ids
  refine ⟨hids, fun u hu => ?_⟩
  have hid : u.id ∈ (old ++ addedLoadBalancers old modified).map (·.id) := by
    rw [← unionLoadBalancers_ids hus]
    exact List.mem_map_of_mem hu
  obtain ⟨lb, hlb, hlbid⟩ := List.mem_map.mp hid
  obtain ⟨u', hu', hu'id, hcase⟩ := unionLoadBalancers_lookup hold.ids hmodified.ids hus hlb
  have heq : u' = u := List.inj_on_of_nodup_map hids hu' hu (hu'id.trans hlbid)
  subst heq
  obtain ⟨rfl, _⟩ | ⟨i, j, d, m, hi, hj, hdid, hmod, hmerge⟩ := hcase
  · obtain hlb | hlb := List.mem_append.mp hlb
    · exact hold.nodePools u' hlb
    · exact hmodified.nodePools u' (mem_addedLoadBalancers.mp hlb).1
  · have ho := List.mem_of_getElem? hi
    have hd := List.mem_of_getElem? hj
    exact ((h lb ho d hd hdid.symm).merged (hold.nodePools lb ho) (hmodified.nodePools d hd) hmod
      hmerge).1

theorem unionLoadBalancers_covers_old (hold : TidyLoadBalancers old)
    (hmodified : TidyLoadBalancers modified)
    (h : ∀ lb ∈ old, ∀ lb' ∈ modified, lb.id = lb'.id →
      MergeableLb lb.clusterInfo.nodePools lb'.clusterInfo.nodePools)
    (hus : unionLoadBalancers ord old modified = .ok us) : CoversLoadBalancers us old := by
  intro lb hlb
  obtain ⟨u, hu, huid, hcase⟩ := unionLoadBalancers_lookup hold.ids hmodified.ids hus
    (List.mem_append_left _ hlb)
  refine ⟨u, hu, huid, ?_⟩
  obtain ⟨rfl, _⟩ | ⟨i, j, d, m, _, hj, hdid, hmod, hmerge⟩ := hcase
  · exact coversNodePools_refl _
  · have hd := List.mem_of_getElem? hj
    exact ((h lb hlb d hd hdid.symm).merged (hold.nodePools lb hlb) (hmodified.nodePools d hd) hmod
      hmerge).2.1

theorem unionLoadBalancers_covers_modified (hold : TidyLoadBalancers old)
    (hmodified : TidyLoadBalancers modified)
    (h : ∀ lb ∈ old, ∀ lb' ∈ modified, lb.id = lb'.id →
      MergeableLb lb.clusterInfo.nodePools lb'.clusterInfo.nodePools)
    (hus : unionLoadBalancers ord old modified = .ok us) : CoversLoadBalancers us modified := by
  intro d hd
  by_cases hid : d.id ∈ old.map (·.id)
  · obtain ⟨lb, hlb, hlbid⟩ := List.mem_map.mp hid
    obtain ⟨u, hu, huid, hcase⟩ := unionLoadBalancers_lookup hold.ids hmodified.ids hus
      (List.mem_append_left _ hlb)
    refine ⟨u, hu, huid.trans hlbid, ?_⟩
    obtain ⟨rfl, hnone⟩ | ⟨i, j, d', m, _, hj, hdid, hmod, hmerge⟩ := hcase
    · obtain ⟨i, hi⟩ := List.mem_iff_getElem?.mp hlb
      obtain ⟨j, hj⟩ := List.mem_iff_getElem?.mp hd
      have hdiff := modifiedLoadBalancer_eq_none.mp (hnone i j d hi hj hlbid.symm)
      exact (mergeableLb_of_isEmpty (hold.nodePools u hlb).names (hmodified.nodePools d hd).names
        hdiff.dynamic hdiff.static).2
    · have hd' := List.mem_of_getElem? hj
      have heq : d' = d := List.inj_on_of_nodup_map hmodified.ids hd' hd (hdid.trans hlbid)
      subst heq
      exact ((h lb hlb d' hd hlbid).merged (hold.nodePools lb hlb) (hmodified.nodePools d' hd) hmod
        hmerge).2.2
  · obtain ⟨u, hu, huid, hcase⟩ := unionLoadBalancers_lookup hold.ids hmodified.ids hus
      (List.mem_append_right _ (mem_addedLoadBalancers.mpr ⟨hd, hid⟩))
    refine ⟨u, hu, huid, ?_⟩
    obtain ⟨rfl, _⟩ | ⟨i, _, _, _, hi, _⟩ := hcase
    · exact coversNodePools_refl _
    · exact absurd (List.mem_map_of_mem (List.mem_of_getElem? hi)) hid

theorem mergeableLb_of_unionLoadBalancers (hold : TidyLoadBalancers old)
    (hmodified : TidyLoadBalancers modified) (hus : unionLoadBalancers ord old modified = .ok us)
    (htidy : TidyLoadBalancers us) (hcold : CoversLoadBalancers us old)
    (hcmodified : CoversLoadBalancers us modified) {lb d : LBcluster} (hlb : lb ∈ old)
    (hd : d ∈ modified) (hid : lb.id = d.id) :
    MergeableLb lb.clusterInfo.nodePools d.clusterInfo.nodePools := by
  have hlbtidy := hold.nodePools lb hlb
  have hdtidy := hmodified.nodePools d hd
  obtain ⟨u, hu, huid, hcase⟩ := unionLoadBalancers_lookup hold.ids hmodified.ids hus
    (List.mem_append_left _ hlb)
  obtain ⟨rfl, hnone⟩ | ⟨i, j, d', m, _, hj, hdid, hmod, hmerge⟩ := hcase
  · obtain ⟨i, hi⟩ := List.mem_iff_getElem?.mp hlb
    obtain ⟨j, hj⟩ := List.mem_iff_getElem?.mp hd
    have hdiff := modifiedLoadBalancer_eq_none.mp (hnone i j d hi hj hid.symm)
    exact (mergeableLb_of_isEmpty hlbtidy.names hdtidy.names hdiff.dynamic hdiff.static).1
  · have heq : d' = d := List.inj_on_of_nodup_map hmodified.ids (List.mem_of_getElem? hj) hd
      (hdid.trans hid)
    subst heq
    obtain ⟨u₁, hu₁, hu₁id, hcovo⟩ := hcold lb hlb
    obtain ⟨u₂, hu₂, hu₂id, hcovm⟩ := hcmodified d' hd
    have heq₁ : u₁ = u := List.inj_on_of_nodup_map htidy.ids hu₁ hu (hu₁id.trans huid.symm)
    have heq₂ : u₂ = u := List.inj_on_of_nodup_map htidy.ids hu₂ hu
      ((hu₂id.trans hid.symm).trans huid.symm)
    subst heq₁
    subst heq₂
    obtain ⟨nps, hnps, hus⟩ := mergeLoadBalancer_eq_ok hmod hmerge
    exact mergeableLb_of_union hlbtidy hdtidy hnps hus (htidy.nodePools _ hu) hcovo hcovm

end Lists

end clustersUnion

end Manager

end Claudie
