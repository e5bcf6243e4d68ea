import Claudie.Manager.Lemmas.Agreement

/-!
The differences of nodepools and of load balancers are exact: what they report, applied to the
current state, gives the desired one, and nothing is reported that both states agree on.
-/

namespace Claudie

namespace Manager

def SameNodes (view other : NodePoolsViewType) : Prop :=
  ∀ k : String, Option.Rel (fun nodes others => ∀ n, n ∈ nodes ↔ n ∈ others) view[k]? other[k]?

namespace NodePoolsDiffResult

def applyTo (r : NodePoolsDiffResult) (view : NodePoolsViewType) : NodePoolsViewType :=
  let kept := (view.filter (fun np _ => !r.deleted.contains np)).map (fun np nodes =>
    nodes.filter (fun n => !(r.partiallyDeleted.getD np []).contains n))
  kept.map (fun np nodes => nodes ++ r.partiallyAdded.getD np []) ∪ r.added

def swap (r : NodePoolsDiffResult) : NodePoolsDiffResult where
  partiallyDeleted := r.partiallyAdded
  deleted := r.added
  partiallyAdded := r.partiallyDeleted
  added := r.deleted

theorem ext_getElem? {r r' : NodePoolsDiffResult}
    (h : ∀ k : String, r.deleted[k]? = r'.deleted[k]? ∧ r.added[k]? = r'.added[k]?
      ∧ r.partiallyDeleted[k]? = r'.partiallyDeleted[k]?
      ∧ r.partiallyAdded[k]? = r'.partiallyAdded[k]?) : r = r' := by
  have hdeleted : r.deleted = r'.deleted := Std.ExtTreeMap.ext_getElem? (fun k => (h k).1)
  have hadded : r.added = r'.added := Std.ExtTreeMap.ext_getElem? (fun k => (h k).2.1)
  have hgone : r.partiallyDeleted = r'.partiallyDeleted :=
    Std.ExtTreeMap.ext_getElem? (fun k => (h k).2.2.1)
  have hnew : r.partiallyAdded = r'.partiallyAdded :=
    Std.ExtTreeMap.ext_getElem? (fun k => (h k).2.2.2)
  cases r
  cases r'
  simp_all

theorem eq_empty {r : NodePoolsDiffResult} (h : r.isEmpty = true) : r = {} := by
  simp only [isEmpty, Bool.and_eq_true, Std.ExtTreeMap.isEmpty_iff] at h
  obtain ⟨⟨⟨hdeleted, hpartiallyDeleted⟩, hadded⟩, hpartiallyAdded⟩ := h
  cases r
  simp_all

end NodePoolsDiffResult

section NodePools

variable {old desired : NodePoolsViewType} {k : String}

theorem missingFrom_eq_some {xs ys zs : List String} :
    missingFrom ys xs = some zs ↔ zs = xs.filter (fun x => !ys.contains x) ∧ zs ≠ [] := by
  unfold missingFrom
  dsimp only
  split
  next hnil =>
    rw [List.isEmpty_iff] at hnil
    rw [hnil]
    simp
  next hne =>
    rw [List.isEmpty_iff] at hne
    rw [Option.some.injEq]
    exact ⟨fun h => ⟨h.symm, h ▸ hne⟩, fun h => h.1.symm⟩

theorem applyTo_nodePoolsDiff :
    ((nodePoolsDiff old desired).applyTo old)[k]? = desired[k]?.map (fun d =>
      match old[k]? with
      | none => d
      | some o => o.filter (d.contains ·) ++ d.filter (fun n => !o.contains n)) := by
  unfold NodePoolsDiffResult.applyTo
  simp only [Std.ExtTreeMap.getElem?_union, Std.ExtTreeMap.getElem?_map, GoMap.getElem?_filter_key,
    Std.ExtTreeMap.contains_eq_isSome_getElem?, Std.ExtTreeMap.getD_eq_getD_getElem?,
    nodePoolsDiff_deleted, nodePoolsDiff_added, nodePoolsDiff_partiallyDeleted,
    nodePoolsDiff_partiallyAdded]
  cases old[k]? with
  | none => cases desired[k]? <;> rfl
  | some o =>
    cases desired[k]? with
    | none => rfl
    | some d =>
      have hkept : o.filter (fun n => !(o.filter (fun n => !d.contains n)).contains n)
          = o.filter (d.contains ·) := by
        refine List.filter_congr (fun n hn => ?_)
        simp [hn]
      simp only [Option.isSome_some, Option.isSome_none, if_true, Bool.not_false, Option.map_some,
        Option.bind_some, Option.none_or, missingFrom_getD, hkept]

theorem nodePoolsDiff_applyTo_sameNodes :
    SameNodes ((nodePoolsDiff old desired).applyTo old) desired := by
  intro k
  rw [applyTo_nodePoolsDiff]
  cases desired[k]? with
  | none => exact .none
  | some d =>
    refine .some (fun n => ?_)
    cases old[k]? with
    | none => rfl
    | some o =>
      by_cases ho : n ∈ o <;> simp [ho]

theorem nodePoolsDiff_swap : nodePoolsDiff desired old = (nodePoolsDiff old desired).swap := by
  refine NodePoolsDiffResult.ext_getElem? (fun k => ?_)
  simp only [NodePoolsDiffResult.swap, nodePoolsDiff_partiallyDeleted, nodePoolsDiff_deleted,
    nodePoolsDiff_partiallyAdded, nodePoolsDiff_added]
  cases old[k]? <;> cases desired[k]? <;> simp

theorem nodePoolsDiff_isEmpty_iff :
    (nodePoolsDiff old desired).isEmpty = true ↔ SameNodes old desired := by
  have hempty : (nodePoolsDiff old desired).isEmpty = true
      ↔ ((nodePoolsDiff old desired).added.isEmpty = true
          ∧ (nodePoolsDiff old desired).partiallyAdded.isEmpty = true)
        ∧ (nodePoolsDiff old desired).deleted.isEmpty = true
          ∧ (nodePoolsDiff old desired).partiallyDeleted.isEmpty = true := by
    simp only [NodePoolsDiffResult.isEmpty, Bool.and_eq_true]
    tauto
  rw [hempty, nodePoolsDiff_gains_nothing, nodePoolsDiff_loses_nothing, ← forall_and]
  refine forall_congr' (fun k => ?_)
  cases old[k]? with
  | none => cases desired[k]? <;> simp
  | some o =>
    cases desired[k]? with
    | none => simp
    | some d =>
      simp only [Option.some.injEq, forall_eq', exists_eq_left', Option.rel_some_some]
      exact ⟨fun h n => ⟨(h.2 ·), (h.1 ·)⟩, fun h => ⟨fun n => (h n).mpr, fun n => (h n).mp⟩⟩

variable (old desired)

theorem nodePoolsDiff_exact :
    (∀ k : String, (nodePoolsDiff old desired).deleted[k]?
        = if desired[k]?.isSome then none else old[k]?)
      ∧ (∀ k : String, (nodePoolsDiff old desired).added[k]?
        = if old[k]?.isSome then none else desired[k]?)
      ∧ (∀ (k : String) (nodes : List String),
        (nodePoolsDiff old desired).partiallyDeleted[k]? = some nodes
          ↔ ∃ o d : List String, old[k]? = some o ∧ desired[k]? = some d
            ∧ nodes = o.filter (fun n => !d.contains n) ∧ nodes ≠ [])
      ∧ (∀ (k : String) (nodes : List String),
        (nodePoolsDiff old desired).partiallyAdded[k]? = some nodes
          ↔ ∃ o d : List String, old[k]? = some o ∧ desired[k]? = some d
            ∧ nodes = d.filter (fun n => !o.contains n) ∧ nodes ≠ [])
      ∧ SameNodes ((nodePoolsDiff old desired).applyTo old) desired
      ∧ nodePoolsDiff desired old = (nodePoolsDiff old desired).swap
      ∧ ((nodePoolsDiff old desired).isEmpty = true ↔ SameNodes old desired) := by
  refine ⟨fun k => nodePoolsDiff_deleted, fun k => nodePoolsDiff_added, fun k nodes => ?_,
    fun k nodes => ?_, nodePoolsDiff_applyTo_sameNodes, nodePoolsDiff_swap,
    nodePoolsDiff_isEmpty_iff⟩
  · simp only [nodePoolsDiff_partiallyDeleted, Option.bind_eq_some_iff, missingFrom_eq_some,
      exists_and_left]
  · simp only [nodePoolsDiff_partiallyAdded, Option.bind_eq_some_iff, missingFrom_eq_some,
      exists_and_left]

end NodePools

section LoadBalancers

structure RolesDiff.Rebuilds (r : RolesDiff) (old desired : List Role) : Prop where
  names : ((old.map (·.name)).filter (fun n => !r.deleted.contains n) ++ r.added).Perm
    (desired.map (·.name))
  targetPools : ∀ o ∈ old, ∀ n ∈ desired, o.name = n.name → ∀ np,
    np ∈ o.targetPools.filter (fun np => !(r.targetPoolsDeleted.getD o.name []).contains np)
        ++ r.targetPoolsAdded.getD o.name []
      ↔ np ∈ n.targetPools

structure SameLoadBalancer (old desired : LBcluster) : Prop where
  dns : old.dns = desired.dns
  roles : SameRoles old.roles desired.roles
  dynamic : SameNodes (nodePoolsView old.clusterInfo).1 (nodePoolsView desired.clusterInfo).1
  static : SameNodes (nodePoolsView old.clusterInfo).2 (nodePoolsView desired.clusterInfo).2
  templates : AgreeOn SameTemplates old.clusterInfo.nodePools desired.clusterInfo.nodePools
  unmarked : AgreeOn Unmarked old.clusterInfo.nodePools desired.clusterInfo.nodePools

structure ExactLoadBalancersDiff (old desired : List LBcluster) (r : LoadBalancersDiffResult) :
    Prop where
  added : ∀ lb, lb ∈ r.added
    ↔ lb.id ∉ old.map (·.id) ∧ ∃ d, desired[lb.index]? = some d ∧ d.id = lb.id
  deleted : ∀ lb, lb ∈ r.deleted
    ↔ lb.id ∉ desired.map (·.id) ∧ ∃ o, old[lb.index]? = some o ∧ o.id = lb.id
  modified : ∀ k : String, k ∈ r.modified
    ↔ ∃ o ∈ old, ∃ d ∈ desired, o.id = k ∧ d.id = k ∧ ¬ SameLoadBalancer o d
  entries : ∀ o ∈ old, ∀ d ∈ desired, o.id = d.id → ∀ m : ModifiedLoadBalancer,
    r.modified[o.id]? = some m →
      m.dynamic = nodePoolsDiff (nodePoolsView o.clusterInfo).1 (nodePoolsView d.clusterInfo).1
        ∧ m.static = nodePoolsDiff (nodePoolsView o.clusterInfo).2 (nodePoolsView d.clusterInfo).2
        ∧ m.roles.Rebuilds o.roles d.roles

def ChangedAlike (old desired old' desired' : NodePoolsViewType) : Prop :=
  ∀ k : String,
    (if desired[k]?.isSome then none else old[k]?)
        = (if desired'[k]?.isSome then none else old'[k]?)
      ∧ (if old[k]?.isSome then none else desired[k]?)
        = (if old'[k]?.isSome then none else desired'[k]?)
      ∧ old[k]?.bind (fun o => desired[k]?.bind (fun d => missingFrom d o))
        = old'[k]?.bind (fun o => desired'[k]?.bind (fun d => missingFrom d o))
      ∧ old[k]?.bind (fun o => desired[k]?.bind (fun d => missingFrom o d))
        = old'[k]?.bind (fun o => desired'[k]?.bind (fun d => missingFrom o d))

theorem changedAlike_iff {old desired old' desired' : NodePoolsViewType} :
    ChangedAlike old desired old' desired'
      ↔ nodePoolsDiff old desired = nodePoolsDiff old' desired' := by
  constructor
  · intro h
    refine NodePoolsDiffResult.ext_getElem? (fun k => ?_)
    simp only [nodePoolsDiff_deleted, nodePoolsDiff_added, nodePoolsDiff_partiallyDeleted,
      nodePoolsDiff_partiallyAdded]
    exact h k
  · intro h k
    refine ⟨?_, ?_, ?_, ?_⟩
    · rw [← nodePoolsDiff_deleted, ← nodePoolsDiff_deleted, h]
    · rw [← nodePoolsDiff_added, ← nodePoolsDiff_added, h]
    · rw [← nodePoolsDiff_partiallyDeleted, ← nodePoolsDiff_partiallyDeleted, h]
    · rw [← nodePoolsDiff_partiallyAdded, ← nodePoolsDiff_partiallyAdded, h]

def StaticLikeDynamic (old desired : LBcluster) : Prop :=
  SameNodes (nodePoolsView old.clusterInfo).2 (nodePoolsView desired.clusterInfo).2
    ∨ ChangedAlike (nodePoolsView old.clusterInfo).2 (nodePoolsView desired.clusterInfo).2
      (nodePoolsView old.clusterInfo).1 (nodePoolsView desired.clusterInfo).1

theorem agreeOn_unmarked {old desired : List NodePool} :
    AgreeOn Unmarked old desired
      ↔ (pendingDeletions (·.isDynamic) old desired).isEmpty = true
        ∧ (pendingDeletions (!·.isDynamic) old desired).isEmpty = true := by
  simp only [pendingDeletions_isEmpty]
  constructor
  · exact fun h => ⟨fun c hc d hd hname _ => h c hc d hd hname,
      fun c hc d hd hname _ => h c hc d hd hname⟩
  · rintro ⟨hdynamic, hstatic⟩ c hc d hd hname
    cases hkind : d.isDynamic with
    | true => exact hdynamic c hc d hd hname hkind
    | false => exact hstatic c hc d hd hname (by simp [hkind])

theorem sameLoadBalancer_iff {old desired : LBcluster}
    (hroles : (desired.roles.map (·.name)).Nodup) :
    SameLoadBalancer old desired ↔ LoadBalancerUnchanged old desired := by
  constructor
  · intro h
    have hmarks := agreeOn_unmarked.mp h.unmarked
    exact ⟨dnsChanged_eq_false.mpr h.dns, (rolesDiff_isEmpty hroles).mpr h.roles,
      nodePoolsDiff_isEmpty_iff.mpr h.dynamic, nodePoolsDiff_isEmpty_iff.mpr h.static, hmarks.1,
      hmarks.2, rollingUpdates_isEmpty.mpr h.templates⟩
  · intro h
    exact ⟨dnsChanged_eq_false.mp h.dns, (rolesDiff_isEmpty hroles).mp h.roles,
      nodePoolsDiff_isEmpty_iff.mp h.dynamic, nodePoolsDiff_isEmpty_iff.mp h.static,
      rollingUpdates_isEmpty.mp h.rollingUpdate,
      agreeOn_unmarked.mpr ⟨h.pendingDynamicDeletions, h.pendingStaticDeletions⟩⟩

variable {old desired : List Role}

theorem nodup_missingRoles {rs others : List Role} (h : (rs.map (·.name)).Nodup) :
    (missingRoles rs others).Nodup :=
  h.sublist (List.filter_sublist.map _)

theorem rolesDiff_names (hold : (old.map (·.name)).Nodup)
    (hdesired : (desired.map (·.name)).Nodup) :
    ((old.map (·.name)).filter (fun n => !(rolesDiff old desired).deleted.contains n)
      ++ (rolesDiff old desired).added).Perm (desired.map (·.name)) := by
  rw [List.perm_ext_iff_of_nodup _ hdesired]
  · intro name
    simp only [rolesDiff, List.mem_append, List.mem_filter, Bool.not_eq_true', ← Bool.not_eq_true,
      List.contains_iff_mem, mem_missingRoles]
    tauto
  · refine List.nodup_append.mpr ⟨hold.filter _, nodup_missingRoles hdesired, ?_⟩
    rintro name hkept _ hadded rfl
    exact (mem_missingRoles.mp hadded).2 (List.mem_filter.mp hkept).1

theorem commonRoles_names_sublist :
    ((commonRoles old desired).map (fun x => x.2.name)).Sublist (old.map (·.name)) := by
  induction old with
  | nil => exact .slnil
  | cons o old ih =>
    unfold commonRoles at ih ⊢
    rw [List.filterMap_cons, List.map_cons]
    cases hn : desired.find? (fun n => n.name = o.name) with
    | none => exact ih.cons _
    | some n =>
      have hname : n.name = o.name := by simpa using List.find?_some hn
      rw [Option.map_some, List.map_cons, hname]
      exact ih.cons_cons _

theorem getD_targetPools (hold : (old.map (·.name)).Nodup)
    (hdesired : (desired.map (·.name)).Nodup) {f : Role → Role → List String} {o n : Role}
    (ho : o ∈ old) (hn : n ∈ desired) (hname : o.name = n.name) :
    ((commonRoles old desired).foldl (fun m x => m.appendAt x.2.name (f x.1 x.2))
      (∅ : GoMap (List String))).getD o.name [] = f o n := by
  have hkeys : ((commonRoles old desired).map (fun x => x.2.name)).Nodup :=
    hold.sublist commonRoles_names_sublist
  have hfind : (commonRoles old desired).find? (fun x => x.2.name = o.name) = some (o, n) :=
    (List.find?_key_eq_some hkeys).mpr ⟨(mem_commonRoles hdesired).mpr ⟨ho, hn, hname⟩, hname.symm⟩
  rw [Std.ExtTreeMap.getD_eq_getD_getElem?,
    GoMap.getElem?_foldl_appendAt (f := fun x => f x.1 x.2) hkeys (by simp), hfind]
  by_cases hnil : f o n = [] <;> simp [hnil]

theorem rolesDiff_rebuilds (hold : (old.map (·.name)).Nodup)
    (hdesired : (desired.map (·.name)).Nodup) :
    (rolesDiff old desired).Rebuilds old desired := by
  refine ⟨rolesDiff_names hold hdesired, fun o ho n hn hname np => ?_⟩
  have hdeleted : (rolesDiff old desired).targetPoolsDeleted.getD o.name []
      = o.targetPools.filter (fun np => !n.targetPools.contains np) :=
    getD_targetPools (f := fun o n => o.targetPools.filter (fun np => !n.targetPools.contains np))
      hold hdesired ho hn hname
  have hadded : (rolesDiff old desired).targetPoolsAdded.getD o.name []
      = n.targetPools.filter (fun np => !o.targetPools.contains np) :=
    getD_targetPools (f := fun o n => n.targetPools.filter (fun np => !o.targetPools.contains np))
      hold hdesired ho hn hname
  rw [hdeleted, hadded]
  by_cases hnp : np ∈ o.targetPools <;> simp [hnp]

variable {lbs dlbs : List LBcluster} {o d : LBcluster} {m : ModifiedLoadBalancer}

theorem modified_getElem? (hlbs : (lbs.map (·.id)).Nodup) (hdlbs : (dlbs.map (·.id)).Nodup)
    (ho : o ∈ lbs) (hd : d ∈ dlbs) (hid : o.id = d.id) :
    ∃ i j, (loadBalancersDiff lbs dlbs).modified[o.id]? = modifiedLoadBalancer i j o d := by
  obtain ⟨i, hi⟩ := List.mem_iff_getElem?.mp ho
  obtain ⟨j, hj⟩ := List.mem_iff_getElem?.mp hd
  refine ⟨i, j, Option.ext (fun m => ?_)⟩
  rw [loadBalancersDiff_modified hlbs hdlbs]
  refine ⟨?_, fun h => ⟨i, j, o, d, hi, rfl, hj, hid.symm, h⟩⟩
  rintro ⟨i', j', o', d', hi', hoid, hj', hdid, h⟩
  have hfind := (zipIdx_find?_id hlbs).mpr ⟨hi', hoid⟩
  rw [(zipIdx_find?_id hlbs).mpr ⟨hi, rfl⟩] at hfind
  have hdfind := (zipIdx_find?_id hdlbs).mpr ⟨hj', hdid⟩
  rw [(zipIdx_find?_id hdlbs).mpr ⟨hj, hid.symm⟩] at hdfind
  cases hfind
  cases hdfind
  exact h

theorem mem_modified (hlbs : (lbs.map (·.id)).Nodup) (hdlbs : (dlbs.map (·.id)).Nodup)
    (hdroles : ∀ d ∈ dlbs, (d.roles.map (·.name)).Nodup) {k : String} :
    k ∈ (loadBalancersDiff lbs dlbs).modified
      ↔ ∃ o ∈ lbs, ∃ d ∈ dlbs, o.id = k ∧ d.id = k ∧ ¬ SameLoadBalancer o d := by
  rw [← Std.ExtTreeMap.isSome_getElem?_iff_mem, Option.isSome_iff_exists]
  constructor
  · rintro ⟨m, hm⟩
    obtain ⟨i, j, o, d, hi, hoid, hj, hdid, h⟩ := (loadBalancersDiff_modified hlbs hdlbs).mp hm
    have hd := List.mem_of_getElem? hj
    refine ⟨o, List.mem_of_getElem? hi, d, hd, hoid, hdid, fun hsame => ?_⟩
    rw [sameLoadBalancer_iff (hdroles d hd), ← modifiedLoadBalancer_eq_none (i := i) (j := j),
      h] at hsame
    cases hsame
  · rintro ⟨o, ho, d, hd, rfl, hid, hdiffer⟩
    obtain ⟨i, j, h⟩ := modified_getElem? hlbs hdlbs ho hd hid.symm
    rw [h, ← Option.isSome_iff_exists, Option.isSome_iff_ne_none]
    rwa [sameLoadBalancer_iff (hdroles d hd), ← modifiedLoadBalancer_eq_none] at hdiffer

theorem LoadBalancerDiffered.dynamic_eq {i j : Nat} (h : LoadBalancerDiffered i j o d m) :
    m.dynamic = nodePoolsDiff (nodePoolsView o.clusterInfo).1 (nodePoolsView d.clusterInfo).1 := by
  rw [h.dynamic]
  split
  next => rfl
  next hempty =>
    have hempty : (dynamicDiff o.clusterInfo.nodePools d.clusterInfo.nodePools).isEmpty = true := by
      simpa using hempty
    exact (NodePoolsDiffResult.eq_empty hempty).symm

theorem LoadBalancerDiffered.static_eq_iff {i j : Nat} (h : LoadBalancerDiffered i j o d m) :
    m.static = nodePoolsDiff (nodePoolsView o.clusterInfo).2 (nodePoolsView d.clusterInfo).2
      ↔ StaticLikeDynamic o d := by
  rw [h.static, StaticLikeDynamic, ← nodePoolsDiff_isEmpty_iff, changedAlike_iff, lbStatic]
  split
  next hne =>
    have hne : ¬ (staticDiff o.clusterInfo.nodePools d.clusterInfo.nodePools).isEmpty = true := by
      simpa using hne
    refine eq_comm.trans (or_iff_right ?_).symm
    exact hne
  next hempty =>
    have hempty : (staticDiff o.clusterInfo.nodePools d.clusterInfo.nodePools).isEmpty = true := by
      simpa using hempty
    exact ⟨fun _ => .inl hempty, fun _ => (NodePoolsDiffResult.eq_empty hempty).symm⟩

variable (lbs dlbs)

theorem loadBalancersDiff_exact_iff (hlbs : (lbs.map (·.id)).Nodup)
    (hdlbs : (dlbs.map (·.id)).Nodup) (hroles : ∀ o ∈ lbs, (o.roles.map (·.name)).Nodup)
    (hdroles : ∀ d ∈ dlbs, (d.roles.map (·.name)).Nodup) :
    ExactLoadBalancersDiff lbs dlbs (loadBalancersDiff lbs dlbs)
      ↔ ∀ o ∈ lbs, ∀ d ∈ dlbs, o.id = d.id → StaticLikeDynamic o d := by
  constructor
  · intro h o ho d hd hid
    obtain ⟨i, j, hentry⟩ := modified_getElem? hlbs hdlbs ho hd hid
    cases hm : modifiedLoadBalancer i j o d with
    | none =>
      exact .inl (nodePoolsDiff_isEmpty_iff.mp (modifiedLoadBalancer_eq_none.mp hm).static)
    | some m =>
      rw [hm] at hentry
      obtain ⟨_, hstatic, _⟩ := h.entries o ho d hd hid m hentry
      exact (modifiedLoadBalancer_eq_some hm).static_eq_iff.mp hstatic
  · intro h
    refine ⟨fun lb => mem_identifiers, fun lb => mem_identifiers,
      fun k => mem_modified hlbs hdlbs hdroles, fun o ho d hd hid m hm => ?_⟩
    obtain ⟨i, j, hentry⟩ := modified_getElem? hlbs hdlbs ho hd hid
    have hdiffered := modifiedLoadBalancer_eq_some (hentry.symm.trans hm)
    refine ⟨hdiffered.dynamic_eq, hdiffered.static_eq_iff.mpr (h o ho d hd hid), ?_⟩
    rw [hdiffered.roles]
    exact rolesDiff_rebuilds (hroles o ho) (hdroles d hd)

namespace Demo

namespace StaticNodes

def node (name : String) : Node := ⟨name, "", "", .worker, "root", .preparing, 22, 51820⟩

def lb (role : List Role) (names : List String) : LBcluster :=
  ⟨⟨"lb", "qwe1234", [⟨.static ⟨∅⟩, "owned", names.map node, false, ∅, [], ∅, 22⟩]⟩, role, none,
    "main", false⟩

def http : Role := ⟨"http", "tcp", 80, 8080, .ingress, ["owned"], ⟨false, false, 64512⟩⟩

end StaticNodes

end Demo

theorem loadBalancersDiff_exact_of_added_role :
    ExactLoadBalancersDiff [Demo.StaticNodes.lb [] ["owned-01"]]
      [Demo.StaticNodes.lb [Demo.StaticNodes.http] ["owned-01"]]
      (loadBalancersDiff [Demo.StaticNodes.lb [] ["owned-01"]]
        [Demo.StaticNodes.lb [Demo.StaticNodes.http] ["owned-01"]]) := by
  refine (loadBalancersDiff_exact_iff _ _ ?_ ?_ ?_ ?_).mpr ?_
  · exact List.nodup_singleton _
  · exact List.nodup_singleton _
  · exact List.forall_mem_singleton.mpr List.nodup_nil
  · exact List.forall_mem_singleton.mpr (List.nodup_singleton _)
  refine List.forall_mem_singleton.mpr (List.forall_mem_singleton.mpr (fun _ => .inl ?_))
  exact nodePoolsDiff_isEmpty_iff.mp (by decide +kernel)

theorem static_nodes_of_load_balancer_missed :
    ∃ m : ModifiedLoadBalancer,
      (loadBalancersDiff [Demo.StaticNodes.lb [] ["owned-01"]]
          [Demo.StaticNodes.lb [] ["owned-01", "owned-02"]]).modified["lb-qwe1234"]? = some m
        ∧ m.static.isEmpty = true
        ∧ (nodePoolsDiff (nodePoolsView (Demo.StaticNodes.lb [] ["owned-01"]).clusterInfo).2
            (nodePoolsView (Demo.StaticNodes.lb [] ["owned-01", "owned-02"]).clusterInfo).2
          ).partiallyAdded["owned"]? = some ["owned-02"]
        ∧ ¬ ExactLoadBalancersDiff [Demo.StaticNodes.lb [] ["owned-01"]]
          [Demo.StaticNodes.lb [] ["owned-01", "owned-02"]]
          (loadBalancersDiff [Demo.StaticNodes.lb [] ["owned-01"]]
            [Demo.StaticNodes.lb [] ["owned-01", "owned-02"]]) := by
  have hrun : (loadBalancersDiff [Demo.StaticNodes.lb [] ["owned-01"]]
      [Demo.StaticNodes.lb [] ["owned-01", "owned-02"]]).modified["lb-qwe1234"]?.any
        (·.static.isEmpty) = true := by
    decide +kernel
  have hadded : (nodePoolsDiff (nodePoolsView (Demo.StaticNodes.lb [] ["owned-01"]).clusterInfo).2
        (nodePoolsView (Demo.StaticNodes.lb [] ["owned-01", "owned-02"]).clusterInfo).2
      ).partiallyAdded["owned"]? = some ["owned-02"] := by
    decide +kernel
  obtain ⟨m, hm, hempty⟩ := (Option.any_eq_true _ _).mp hrun
  refine ⟨m, hm, hempty, hadded, fun h => ?_⟩
  obtain ⟨_, hstatic, _⟩ := h.entries _ (List.mem_singleton_self _) _ (List.mem_singleton_self _)
    rfl m hm
  rw [← hstatic, NodePoolsDiffResult.eq_empty hempty] at hadded
  cases hadded

end LoadBalancers

end Manager

end Claudie
