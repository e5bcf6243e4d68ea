import Claudie.Manager.Diff

/-!
The differences between two states of a cluster, told by what both states have under one name.
-/

namespace Claudie

namespace Manager

def missingFrom (ys xs : List String) : Option (List String) :=
  let gone := xs.filter (fun x => !ys.contains x)
  if gone.isEmpty then none else some gone

theorem missingFrom_eq_none {xs ys : List String} : missingFrom ys xs = none ↔ xs ⊆ ys := by
  simp [missingFrom, List.subset_def]

theorem missingFrom_ne_nil {xs ys zs : List String} (h : missingFrom ys xs = some zs) : zs ≠ [] := by
  unfold missingFrom at h
  dsimp only at h
  split at h
  next => cases h
  next hne =>
    cases h
    simpa using hne

theorem missingFrom_getD (ys xs : List String) :
    (missingFrom ys xs).getD [] = xs.filter (fun x => !ys.contains x) := by
  unfold missingFrom
  dsimp only
  split
  next h => exact (List.isEmpty_iff.mp h).symm
  next => rfl

section NodePoolsDiff

variable {old desired : NodePoolsViewType} {k : String}

theorem nodePoolsDiff_deleted :
    (nodePoolsDiff old desired).deleted[k]? = if desired[k]?.isSome then none else old[k]? := by
  simp only [nodePoolsDiff, GoMap.getElem?_filter_key, Std.ExtTreeMap.contains_eq_isSome_getElem?]
  cases desired[k]? <;> rfl

theorem nodePoolsDiff_added :
    (nodePoolsDiff old desired).added[k]? = if old[k]?.isSome then none else desired[k]? := by
  simp only [nodePoolsDiff, GoMap.getElem?_filter_key, Std.ExtTreeMap.contains_eq_isSome_getElem?]
  cases old[k]? <;> rfl

theorem nodePoolsDiff_partiallyDeleted :
    (nodePoolsDiff old desired).partiallyDeleted[k]?
      = old[k]?.bind (fun o => desired[k]?.bind (fun d => missingFrom d o)) := by
  simp only [nodePoolsDiff, GoMap.getElem?_filter_key, GoMap.getElem?_filterMap,
    Std.ExtTreeMap.contains_eq_isSome_getElem?, Std.ExtTreeMap.getD_eq_getD_getElem?]
  cases old[k]? <;> cases desired[k]? <;> simp [missingFrom]

theorem filter_kept (o d : List String) :
    d.filter (fun n => !(o.filter (fun n => !((missingFrom d o).getD []).contains n)).contains n)
      = d.filter (fun n => !o.contains n) := by
  refine List.filter_congr (fun n hn => ?_)
  rw [missingFrom_getD]
  simp [hn]

theorem nodePoolsDiff_partiallyAdded :
    (nodePoolsDiff old desired).partiallyAdded[k]?
      = old[k]?.bind (fun o => desired[k]?.bind (fun d => missingFrom o d)) := by
  simp only [nodePoolsDiff, GoMap.getElem?_filter_key, GoMap.getElem?_filterMap,
    Std.ExtTreeMap.getElem?_map, Std.ExtTreeMap.contains_eq_isSome_getElem?,
    Std.ExtTreeMap.getD_eq_getD_getElem?]
  cases old[k]? with
  | none => cases desired[k]? <;> rfl
  | some o =>
    cases desired[k]? with
    | none => rfl
    | some d =>
      have hkept := filter_kept o d
      unfold missingFrom at hkept ⊢
      simp only [Option.isSome_some, if_true, Option.bind_some, Option.map_some, Option.getD_some,
        Bool.not_true, Bool.false_eq_true, if_false, Option.isSome_none, Bool.not_false]
      rw [hkept]

theorem nodePoolsDiff_gains_nothing :
    (nodePoolsDiff old desired).added.isEmpty = true
        ∧ (nodePoolsDiff old desired).partiallyAdded.isEmpty = true
      ↔ ∀ (k : String) (d : List String), desired[k]? = some d →
        ∃ o : List String, old[k]? = some o ∧ d ⊆ o := by
  simp only [GoMap.isEmpty_iff_getElem?, nodePoolsDiff_added, nodePoolsDiff_partiallyAdded]
  rw [← forall_and]
  refine forall_congr' (fun k => ?_)
  cases old[k]? <;> cases desired[k]? <;> simp [missingFrom_eq_none]

theorem nodePoolsDiff_loses_nothing :
    (nodePoolsDiff old desired).deleted.isEmpty = true
        ∧ (nodePoolsDiff old desired).partiallyDeleted.isEmpty = true
      ↔ ∀ (k : String) (o : List String), old[k]? = some o →
        ∃ d : List String, desired[k]? = some d ∧ o ⊆ d := by
  simp only [GoMap.isEmpty_iff_getElem?, nodePoolsDiff_deleted, nodePoolsDiff_partiallyDeleted]
  rw [← forall_and]
  refine forall_congr' (fun k => ?_)
  cases old[k]? <;> cases desired[k]? <;> simp [missingFrom_eq_none]

end NodePoolsDiff

section NodePoolsView

variable {p : NodePool → Bool} {nps : List NodePool}

theorem nodePoolsViewOf_getElem? (hnodup : (nps.map (·.name)).Nodup) {k : String} :
    (nodePoolsViewOf p nps)[k]? = (NodePools.findByName k nps).bind
      (fun np => if p np then some (np.nodes.map (·.name)) else none) := by
  have hfold : nodePoolsViewOf p nps = nps.foldl (fun view np => view.insertSome np.name
      (if p np then some (np.nodes.map (·.name)) else none)) ∅ := by
    unfold nodePoolsViewOf
    congr
    funext view np
    cases p np <;> rfl
  rw [hfold, GoMap.getElem?_foldl_insertSome hnodup]
  simp [NodePools.findByName]

theorem nodePoolsViewOf_eq_some (hnodup : (nps.map (·.name)).Nodup) {k : String}
    {nodes : List String} :
    (nodePoolsViewOf p nps)[k]? = some nodes
      ↔ ∃ np ∈ nps, np.name = k ∧ p np = true ∧ np.nodes.map (·.name) = nodes := by
  rw [nodePoolsViewOf_getElem? hnodup, Option.bind_eq_some_iff]
  simp only [NodePools.findByName, List.find?_key_eq_some hnodup, Option.ite_none_right_eq_some,
    Option.some.injEq, and_assoc]

end NodePoolsView

def CoversKind (p : NodePool → Bool) (nps others : List NodePool) : Prop :=
  ∀ o ∈ others, p o = true → ∃ np ∈ nps, p np = true ∧ np.name = o.name
    ∧ o.nodes.map (·.name) ⊆ np.nodes.map (·.name)

section CoversKind

variable {p : NodePool → Bool} {old desired : List NodePool}

theorem coversKind_iff {nps others : List NodePool} (hnps : (nps.map (·.name)).Nodup)
    (hothers : (others.map (·.name)).Nodup) :
    CoversKind p nps others
      ↔ ∀ (k : String) (o : List String), (nodePoolsViewOf p others)[k]? = some o →
        ∃ np : List String, (nodePoolsViewOf p nps)[k]? = some np ∧ o ⊆ np := by
  simp only [nodePoolsViewOf_eq_some hnps, nodePoolsViewOf_eq_some hothers]
  refine ⟨fun h k nodes => ?_, fun h o ho hp => ?_⟩
  · rintro ⟨o, ho, rfl, hp, rfl⟩
    obtain ⟨np, hnp, hpnp, hname, hsub⟩ := h o ho hp
    exact ⟨_, ⟨np, hnp, hname, hpnp, rfl⟩, hsub⟩
  · obtain ⟨_, ⟨np, hnp, hname, hpnp, rfl⟩, hsub⟩ := h o.name _ ⟨o, ho, rfl, hp, rfl⟩
    exact ⟨np, hnp, hpnp, hname, hsub⟩

theorem coversKind_of_no_additions (hold : (old.map (·.name)).Nodup)
    (hdesired : (desired.map (·.name)).Nodup) :
    (nodePoolsDiff (nodePoolsViewOf p old) (nodePoolsViewOf p desired)).added.isEmpty = true
        ∧ (nodePoolsDiff (nodePoolsViewOf p old)
          (nodePoolsViewOf p desired)).partiallyAdded.isEmpty = true
      ↔ CoversKind p old desired :=
  nodePoolsDiff_gains_nothing.trans (coversKind_iff hold hdesired).symm

theorem coversKind_of_no_deletions (hold : (old.map (·.name)).Nodup)
    (hdesired : (desired.map (·.name)).Nodup) :
    (nodePoolsDiff (nodePoolsViewOf p old) (nodePoolsViewOf p desired)).deleted.isEmpty = true
        ∧ (nodePoolsDiff (nodePoolsViewOf p old)
          (nodePoolsViewOf p desired)).partiallyDeleted.isEmpty = true
      ↔ CoversKind p desired old :=
  nodePoolsDiff_loses_nothing.trans (coversKind_iff hdesired hold).symm

theorem nodePoolsDiff_isEmpty (hold : (old.map (·.name)).Nodup)
    (hdesired : (desired.map (·.name)).Nodup) :
    (nodePoolsDiff (nodePoolsViewOf p old) (nodePoolsViewOf p desired)).isEmpty = true
      ↔ CoversKind p old desired ∧ CoversKind p desired old := by
  rw [← coversKind_of_no_additions hold hdesired, ← coversKind_of_no_deletions hold hdesired]
  simp only [NodePoolsDiffResult.isEmpty, Bool.and_eq_true]
  tauto

end CoversKind

section KubernetesDiff

variable {ord : MapOrder} {old desired : List NodePool} {np : NodePool} {node : Node}

def endpointNode (nps : List NodePool) : Option (NodePool × Node) :=
  nps.findSome? (fun np => if np.isControl then np.endpointNode.map (np, ·) else none)

theorem endpointNode_eq_some (h : endpointNode old = some (np, node)) :
    np ∈ old ∧ np.isControl = true ∧ node ∈ np.nodes ∧ node.nodeType = .apiEndpoint := by
  obtain ⟨np', hmem, h⟩ := List.exists_of_findSome?_eq_some h
  split at h
  next hcontrol =>
    obtain ⟨node', hnode, h⟩ := Option.map_eq_some_iff.mp h
    cases h
    exact ⟨hmem, hcontrol, List.mem_of_find?_eq_some hnode, by simpa using List.find?_some hnode⟩
  next => cases h

def KeepsNode (desired : List NodePool) (np : NodePool) (node : String) : Prop :=
  ∃ d ∈ desired, d.name = np.name ∧ d.isDynamic = np.isDynamic ∧ node ∈ d.nodes.map (·.name)

def dynamicDiff (old desired : List NodePool) : NodePoolsDiffResult :=
  nodePoolsDiff (nodePoolsViewOf (·.isDynamic) old) (nodePoolsViewOf (·.isDynamic) desired)

def staticDiff (old desired : List NodePool) : NodePoolsDiffResult :=
  nodePoolsDiff (nodePoolsViewOf (·.isStatic) old) (nodePoolsViewOf (·.isStatic) desired)

def deletesNode (old desired : List NodePool) (np node : String) : Bool :=
  let dynamic := dynamicDiff old desired
  let static := staticDiff old desired
  let gone := fun (view : NodePoolsViewType) => (view.getD np []).contains node
  gone dynamic.deleted || gone dynamic.partiallyDeleted || gone static.deleted
    || gone static.partiallyDeleted

theorem deletesNode_iff (hold : (old.map (·.name)).Nodup) (hdesired : (desired.map (·.name)).Nodup)
    (hnp : np ∈ old) (hnode : node ∈ np.nodes) :
    deletesNode old desired np.name node.name = true ↔ ¬ KeepsNode desired np node.name := by
  have hfind : NodePools.findByName np.name old = some np :=
    (List.find?_key_eq_some hold).mpr ⟨hnp, rfl⟩
  have hmem : node.name ∈ np.nodes.map (·.name) := List.mem_map_of_mem hnode
  have hkeeps : KeepsNode desired np node.name ↔ ∃ d, NodePools.findByName np.name desired = some d
      ∧ d.isDynamic = np.isDynamic ∧ node.name ∈ d.nodes.map (·.name) := by
    unfold KeepsNode NodePools.findByName
    simp only [List.find?_key_eq_some hdesired, and_assoc]
  rw [hkeeps]
  simp only [deletesNode, dynamicDiff, staticDiff, Std.ExtTreeMap.getD_eq_getD_getElem?,
    nodePoolsDiff_deleted,
    nodePoolsDiff_partiallyDeleted, nodePoolsViewOf_getElem? hold,
    nodePoolsViewOf_getElem? hdesired, hfind, NodePool.isStatic_eq, Option.bind_some]
  cases NodePools.findByName np.name desired with
  | none => cases np.isDynamic <;> simpa using hmem
  | some d =>
    cases np.isDynamic <;> cases hd : d.isDynamic <;>
      simp [hd, missingFrom_getD, hmem, Option.bind_some]

theorem nodeApiEndpoint_eq :
    nodeApiEndpoint old desired (dynamicDiff old desired) (staticDiff old desired)
      = match endpointNode old with
        | none => pure ⟨"", "", "", ""⟩
        | some (np, node) =>
          if node.name ≠ "" && deletesNode old desired np.name node.name then do
            let (dnp, dn) ← newAPIEndpointNodeCandidate desired
            pure ⟨node.name, np.name, dn, dnp⟩
          else pure ⟨node.name, np.name, node.name, np.name⟩ := rfl

theorem nodeApiEndpoint_isOk (hold : (old.map (·.name)).Nodup)
    (hdesired : (desired.map (·.name)).Nodup) :
    (∃ e, nodeApiEndpoint old desired (dynamicDiff old desired) (staticDiff old desired) = .ok e)
      ↔ ∀ np node, endpointNode old = some (np, node) →
        node.name = "" ∨ KeepsNode desired np node.name
          ∨ ∃ c, newAPIEndpointNodeCandidate desired = .ok c := by
  rw [nodeApiEndpoint_eq]
  cases hendpoint : endpointNode old with
  | none =>
    refine ⟨fun _ np node h => ?_, fun _ => ⟨_, rfl⟩⟩
    cases h
  | some e =>
    obtain ⟨np, node⟩ := e
    obtain ⟨hnp, _, hnode, _⟩ := endpointNode_eq_some hendpoint
    have hdeletes := deletesNode_iff hold hdesired hnp hnode
    have hall : (∀ np' node', some (np, node) = some (np', node') → node'.name = ""
          ∨ KeepsNode desired np' node'.name ∨ ∃ c, newAPIEndpointNodeCandidate desired = .ok c)
        ↔ node.name = "" ∨ KeepsNode desired np node.name
          ∨ ∃ c, newAPIEndpointNodeCandidate desired = .ok c := by
      refine ⟨fun h => h np node rfl, fun h np' node' heq => ?_⟩
      cases heq
      exact h
    rw [hall]
    dsimp only
    split
    next hgone =>
      rw [Bool.and_eq_true, hdeletes, decide_eq_true_eq] at hgone
      constructor
      · rintro ⟨e, he⟩
        obtain ⟨c, hc, _⟩ := Outcome.bind_eq_ok.mp he
        exact .inr (.inr ⟨c, hc⟩)
      · rintro (hempty | hkeeps | ⟨c, hc⟩)
        · exact absurd hempty hgone.1
        · exact absurd hkeeps hgone.2
        · rw [hc]
          exact ⟨_, rfl⟩
    next hgone =>
      rw [Bool.and_eq_true, hdeletes, decide_eq_true_eq, not_and_or, not_not, not_not] at hgone
      exact ⟨fun _ => hgone.imp_right .inl, fun _ => ⟨_, rfl⟩⟩

structure KubernetesDiffered (ord : MapOrder) (old desired : K8scluster)
    (r : KubernetesDiffResult) : Prop where
  version : r.version = decide (old.kubernetes ≠ desired.kubernetes)
  proxy : r.proxy = proxyDiff old desired
  dynamic : r.dynamic = dynamicDiff old.clusterInfo.nodePools desired.clusterInfo.nodePools
  static : r.static = staticDiff old.clusterInfo.nodePools desired.clusterInfo.nodePools
  changedToAutoscaled : r.changedToAutoscaled
    = Manager.changedToAutoscaled old.clusterInfo.nodePools desired.clusterInfo.nodePools
  changedToFixed : r.changedToFixed
    = Manager.changedToFixed old.clusterInfo.nodePools desired.clusterInfo.nodePools
  pendingDynamicDeletions : r.pendingDynamicDeletions
    = pendingDeletions (·.isDynamic) old.clusterInfo.nodePools desired.clusterInfo.nodePools
  pendingStaticDeletions : r.pendingStaticDeletions
    = pendingDeletions (!·.isDynamic) old.clusterInfo.nodePools desired.clusterInfo.nodePools
  apiEndpoint : nodeApiEndpoint old.clusterInfo.nodePools desired.clusterInfo.nodePools
    (dynamicDiff old.clusterInfo.nodePools desired.clusterInfo.nodePools)
    (staticDiff old.clusterInfo.nodePools desired.clusterInfo.nodePools) = .ok r.apiEndpoint
  labelsTaintsAnnotations : r.labelsTaintsAnnotations
    = labelsTaintsAnnotationsDiff ord old.clusterInfo.nodePools desired.clusterInfo.nodePools
  rollingUpdates : r.rollingUpdates
    = Manager.rollingUpdates old.clusterInfo.nodePools desired.clusterInfo.nodePools

theorem kubernetesDiff_eq_ok {old desired : K8scluster} {r : KubernetesDiffResult}
    (h : kubernetesDiff ord old desired = .ok r) : KubernetesDiffered ord old desired r := by
  unfold kubernetesDiff at h
  dsimp only at h
  obtain ⟨e, he, h⟩ := Outcome.bind_eq_ok.mp h
  cases h
  exact ⟨rfl, rfl, rfl, rfl, rfl, rfl, rfl, rfl, he, rfl, rfl⟩

theorem kubernetesDiff_isOk {old desired : K8scluster} :
    (∃ r, kubernetesDiff ord old desired = .ok r)
      ↔ ∃ e, nodeApiEndpoint old.clusterInfo.nodePools desired.clusterInfo.nodePools
        (dynamicDiff old.clusterInfo.nodePools desired.clusterInfo.nodePools)
        (staticDiff old.clusterInfo.nodePools desired.clusterInfo.nodePools) = .ok e := by
  constructor
  · rintro ⟨r, h⟩
    exact ⟨_, (kubernetesDiff_eq_ok h).apiEndpoint⟩
  · rintro ⟨e, he⟩
    unfold kubernetesDiff
    unfold dynamicDiff staticDiff at he
    simp only [nodePoolsView, he]
    exact ⟨_, rfl⟩

end KubernetesDiff

section LoadBalancersDiff

variable {old desired : List LBcluster} {k : String} {m : ModifiedLoadBalancer}

theorem zipIdx_find?_id {lbs : List LBcluster} (hnodup : (lbs.map (·.id)).Nodup) {lb : LBcluster}
    {i : Nat} :
    lbs.zipIdx.find? (fun x => x.1.id = k) = some (lb, i) ↔ lbs[i]? = some lb ∧ lb.id = k := by
  have hkeys : (lbs.zipIdx.map (fun x => x.1.id)).Nodup := by
    rwa [show (fun x : LBcluster × Nat => x.1.id) = LBcluster.id ∘ Prod.fst from rfl,
      ← List.map_map, List.zipIdx_map_fst]
  rw [List.find?_key_eq_some hkeys, List.mem_zipIdx_iff_getElem?]

theorem loadBalancersDiff_modified (hold : (old.map (·.id)).Nodup)
    (hdesired : (desired.map (·.id)).Nodup) :
    (loadBalancersDiff old desired).modified[k]? = some m
      ↔ ∃ i j o d, old[i]? = some o ∧ o.id = k ∧ desired[j]? = some d ∧ d.id = k
        ∧ modifiedLoadBalancer i j o d = some m := by
  have hfold : (loadBalancersDiff old desired).modified
      = old.zipIdx.foldl (fun m x => m.insertSome x.1.id
        ((desired.zipIdx.find? (fun y => y.1.id = x.1.id)).bind
          (fun y => modifiedLoadBalancer x.2 y.2 x.1 y.1))) ∅ := by
    unfold loadBalancersDiff
    dsimp only
    congr
    funext m x
    obtain ⟨lb, i⟩ := x
    dsimp only
    cases hd : desired.zipIdx.find? (fun y => y.1.id = lb.id) with
    | none => rfl
    | some y =>
      dsimp only [Option.bind_some]
      cases modifiedLoadBalancer i y.2 lb y.1 <;> rfl
  have hkeys : (old.zipIdx.map (fun x => x.1.id)).Nodup := by
    rwa [show (fun x : LBcluster × Nat => x.1.id) = LBcluster.id ∘ Prod.fst from rfl,
      ← List.map_map, List.zipIdx_map_fst]
  rw [hfold, GoMap.getElem?_foldl_insertSome hkeys]
  simp only [Option.or_none, Std.ExtTreeMap.getElem?_empty, Option.bind_eq_some_iff, Prod.exists,
    zipIdx_find?_id hold, zipIdx_find?_id hdesired]
  refine ⟨?_, ?_⟩
  · rintro ⟨o, i, ⟨ho, rfl⟩, d, j, ⟨hd, hid⟩, hm⟩
    exact ⟨i, j, o, d, ho, rfl, hd, hid, hm⟩
  · rintro ⟨i, j, o, d, ho, rfl, hd, hid, hm⟩
    exact ⟨o, i, ⟨ho, rfl⟩, d, j, ⟨hd, hid⟩, hm⟩

theorem mem_identifiers {lbs others : List LBcluster} {lb : LoadBalancerIdentifier} :
    lb ∈ (lbs.zipIdx.filter (fun (lb, _) =>
        (Clusters.indexLoadbalancerById lb.id others).isNone)).map
        (fun (lb, i) => LoadBalancerIdentifier.mk lb.id i)
      ↔ lb.id ∉ others.map (·.id) ∧ ∃ c, lbs[lb.index]? = some c ∧ c.id = lb.id := by
  simp only [List.mem_map, List.mem_filter, Prod.exists, List.mem_zipIdx_iff_getElem?,
    Clusters.indexLoadbalancerById, Option.isNone_iff_eq_none, List.findIdx?_eq_none_iff,
    decide_eq_false_iff_not, not_exists, not_and]
  constructor
  · rintro ⟨c, i, ⟨hi, hno⟩, rfl⟩
    exact ⟨fun o ho => hno o ho, c, hi, rfl⟩
  · rintro ⟨hno, c, hi, hid⟩
    refine ⟨c, lb.index, ⟨hi, fun o ho => ?_⟩, by rw [hid]⟩
    rw [hid]
    exact hno o ho

theorem identifiers_eq_nil {lbs others : List LBcluster} :
    (lbs.zipIdx.filter (fun (lb, _) =>
        (Clusters.indexLoadbalancerById lb.id others).isNone)).map
        (fun (lb, i) => LoadBalancerIdentifier.mk lb.id i) = []
      ↔ lbs.map (·.id) ⊆ others.map (·.id) := by
  rw [List.eq_nil_iff_forall_not_mem]
  simp only [mem_identifiers, not_and, not_exists]
  constructor
  · intro h id hid
    obtain ⟨lb, hlb, rfl⟩ := List.mem_map.mp hid
    obtain ⟨i, hi⟩ := List.mem_iff_getElem?.mp hlb
    by_contra hno
    exact h ⟨lb.id, i⟩ hno lb hi rfl
  · intro h id hno lb hlb hid
    rw [← hid] at hno
    exact hno (h (List.mem_map_of_mem (List.mem_of_getElem? hlb)))

theorem loadBalancersDiff_added_eq_nil :
    (loadBalancersDiff old desired).added = [] ↔ desired.map (·.id) ⊆ old.map (·.id) :=
  identifiers_eq_nil

theorem loadBalancersDiff_deleted_eq_nil :
    (loadBalancersDiff old desired).deleted = [] ↔ old.map (·.id) ⊆ desired.map (·.id) :=
  identifiers_eq_nil

end LoadBalancersDiff

section ModifiedLoadBalancer

variable {old desired : LBcluster} {i j : Nat} {m : ModifiedLoadBalancer}

def lbStatic (old modified : List NodePool) : NodePoolsDiffResult :=
  if !(staticDiff old modified).isEmpty then dynamicDiff old modified else {}

structure LoadBalancerDiffered (i j : Nat) (old desired : LBcluster) (m : ModifiedLoadBalancer) :
    Prop where
  currentIdx : m.currentIdx = i
  desiredIdx : m.desiredIdx = j
  dns : m.dns = dnsChanged old.dns desired.dns
  roles : m.roles = rolesDiff old.roles desired.roles
  dynamic : m.dynamic
    = (if !(dynamicDiff old.clusterInfo.nodePools desired.clusterInfo.nodePools).isEmpty
        then dynamicDiff old.clusterInfo.nodePools desired.clusterInfo.nodePools else {})
  static : m.static = lbStatic old.clusterInfo.nodePools desired.clusterInfo.nodePools
  pendingDynamicDeletions : m.pendingDynamicDeletions
    = pendingDeletions (·.isDynamic) old.clusterInfo.nodePools desired.clusterInfo.nodePools
  pendingStaticDeletions : m.pendingStaticDeletions
    = pendingDeletions (!·.isDynamic) old.clusterInfo.nodePools desired.clusterInfo.nodePools
  rollingUpdate : m.rollingUpdate
    = rollingUpdates old.clusterInfo.nodePools desired.clusterInfo.nodePools

structure LoadBalancerUnchanged (old desired : LBcluster) : Prop where
  dns : dnsChanged old.dns desired.dns = false
  roles : (rolesDiff old.roles desired.roles).isEmpty = true
  dynamic : (dynamicDiff old.clusterInfo.nodePools desired.clusterInfo.nodePools).isEmpty = true
  static : (staticDiff old.clusterInfo.nodePools desired.clusterInfo.nodePools).isEmpty = true
  pendingDynamicDeletions : (pendingDeletions (·.isDynamic) old.clusterInfo.nodePools
    desired.clusterInfo.nodePools).isEmpty = true
  pendingStaticDeletions : (pendingDeletions (!·.isDynamic) old.clusterInfo.nodePools
    desired.clusterInfo.nodePools).isEmpty = true
  rollingUpdate : (rollingUpdates old.clusterInfo.nodePools
    desired.clusterInfo.nodePools).isEmpty = true

theorem modifiedLoadBalancer_eq_some (h : modifiedLoadBalancer i j old desired = some m) :
    LoadBalancerDiffered i j old desired m := by
  unfold modifiedLoadBalancer at h
  dsimp only at h
  split at h
  next =>
    cases h
    exact ⟨rfl, rfl, rfl, rfl, rfl, rfl, rfl, rfl, rfl⟩
  next => cases h

theorem LoadBalancerDiffered.dynamicDiff_isEmpty (h : LoadBalancerDiffered i j old desired m)
    (hempty : m.dynamic.isEmpty = true) :
    (dynamicDiff old.clusterInfo.nodePools desired.clusterInfo.nodePools).isEmpty = true := by
  by_contra hne
  rw [h.dynamic, if_pos (by simpa using hne)] at hempty
  exact hne hempty

theorem modifiedLoadBalancer_eq_none :
    modifiedLoadBalancer i j old desired = none ↔ LoadBalancerUnchanged old desired := by
  unfold modifiedLoadBalancer
  dsimp only
  split
  next hchanged =>
    refine ⟨fun h => absurd h (Option.some_ne_none _), fun h => ?_⟩
    simp only [nodePoolsView, h.roles, h.dns, h.pendingDynamicDeletions, h.pendingStaticDeletions,
      h.rollingUpdate, show (nodePoolsDiff _ _).isEmpty = true from h.dynamic,
      show (nodePoolsDiff _ _).isEmpty = true from h.static] at hchanged
    cases hchanged
  next hno =>
    simp only [Bool.or_eq_true, Bool.not_eq_true', not_or, Bool.not_eq_false,
      Bool.not_eq_true] at hno
    obtain ⟨⟨⟨⟨⟨⟨hroles, hdns⟩, hpdyn⟩, hpstt⟩, hrolling⟩, hdyn⟩, hstt⟩ := hno
    exact ⟨fun _ => ⟨hdns, hroles, hdyn, hstt, hpdyn, hpstt, hrolling⟩, fun _ => rfl⟩

theorem unchanged_or_modified {lbs dlbs : List LBcluster} (hids : (lbs.map (·.id)).Nodup)
    (hdids : (dlbs.map (·.id)).Nodup) (hi : lbs[i]? = some old) (hj : dlbs[j]? = some desired)
    (hid : old.id = desired.id) :
    LoadBalancerUnchanged old desired ∨ ∃ m : ModifiedLoadBalancer,
      (loadBalancersDiff lbs dlbs).modified[old.id]? = some m
        ∧ LoadBalancerDiffered i j old desired m := by
  cases hm : modifiedLoadBalancer i j old desired with
  | none => exact .inl (modifiedLoadBalancer_eq_none.mp hm)
  | some m =>
    exact .inr ⟨m, (loadBalancersDiff_modified hids hdids).mpr
      ⟨i, j, old, desired, hi, rfl, hj, hid.symm, hm⟩, modifiedLoadBalancer_eq_some hm⟩

end ModifiedLoadBalancer

theorem diff_eq_ok {ord : MapOrder} {old desired : Clusters} {d : DiffResult} {k dk : K8scluster}
    (hk : old.k8s = some k) (hdk : desired.k8s = some dk) (h : diff ord old desired = .ok d) :
    KubernetesDiffered ord k dk d.kubernetes
      ∧ d.loadBalancers = loadBalancersDiff old.loadBalancers desired.loadBalancers := by
  unfold diff at h
  rw [hk, hdk] at h
  obtain ⟨_, hk', h⟩ := Outcome.bind_eq_ok.mp h
  cases hk'
  obtain ⟨_, hdk', h⟩ := Outcome.bind_eq_ok.mp h
  cases hdk'
  obtain ⟨r, hr, h⟩ := Outcome.bind_eq_ok.mp h
  cases h
  exact ⟨kubernetesDiff_eq_ok hr, rfl⟩

end Manager

end Claudie
