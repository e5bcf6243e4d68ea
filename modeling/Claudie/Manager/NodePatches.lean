import Claudie.Kuber.PatchNodes
import Claudie.Manager.Lemmas.Agreement

/-!
The labels, annotations and taints of the nodes: the difference that the manager finds, applied by
the kuber service, leads to the desired ones.
-/

namespace Claudie

namespace Manager

section Entries

theorem getElem?_insertEntries {β : Type} {m : GoMap (GoMap β)} {k k' x : String} {v : GoMap β} :
    ((insertEntries m k v).getD k' ∅)[x]?
      = if k = k' then v[x]?.or (m.getD k' ∅)[x]? else (m.getD k' ∅)[x]? := by
  unfold insertEntries
  split
  next hempty =>
    rw [GoMap.isEmpty_iff_getElem?] at hempty
    rw [hempty x, Option.none_or, ite_self]
  next =>
    simp only [Std.ExtTreeMap.getD_eq_getD_getElem?, GoMap.getElem?_insert]
    split
    next hk =>
      subst hk
      rw [Option.getD_some, GoMap.getElem?_insertMany_toList]
    next => rfl

-- The values that are collected under one name all come from one map, so none overwrites another.
theorem getElem?_foldl_insertEntries {α β : Type} {key : α → String} {f : α → GoMap β} {l : List α}
    {m : GoMap (GoMap β)} {k x : String} {v : β} {g : GoMap β}
    (hm : ∀ v, (m.getD k ∅)[x]? = some v → g[x]? = some v)
    (hf : ∀ a ∈ l, key a = k → ∀ v, (f a)[x]? = some v → g[x]? = some v) :
    ((l.foldl (fun m a => insertEntries m (key a) (f a)) m).getD k ∅)[x]? = some v
      ↔ (m.getD k ∅)[x]? = some v ∨ ∃ a ∈ l, key a = k ∧ (f a)[x]? = some v := by
  induction l generalizing m with
  | nil => simp
  | cons a l ih =>
    rw [List.forall_mem_cons] at hf
    have hstep : ∀ v, ((insertEntries m (key a) (f a)).getD k ∅)[x]? = some v
        ↔ (m.getD k ∅)[x]? = some v ∨ (key a = k ∧ (f a)[x]? = some v) := by
      intro v
      rw [getElem?_insertEntries]
      split
      next hk =>
        cases hfa : (f a)[x]? with
        | none => simp [hk]
        | some w =>
          have hw := hf.1 hk w hfa
          rw [Option.some_or]
          refine ⟨fun h => .inr ⟨hk, h⟩, ?_⟩
          rintro (h | ⟨_, h⟩)
          · rw [← hw, hm v h]
          · exact h
      next hk => simp [hk]
    have hm' : ∀ v, ((insertEntries m (key a) (f a)).getD k ∅)[x]? = some v → g[x]? = some v := by
      intro v h
      obtain h | ⟨hk, h⟩ := (hstep v).mp h
      · exact hm v h
      · exact hf.1 hk v h
    rw [List.foldl_cons, ih hm' hf.2, hstep, or_assoc]
    simp only [List.mem_cons, exists_eq_or_imp]

theorem patched_entries {cur wanted added : GoMap String} {gone : List String}
    (hgone : ∀ k ∈ gone, wanted[k]? = none)
    (hmissing : ∀ k v : String, cur[k]? = some v → wanted[k]? = none → k ∈ gone)
    (hnew : ∀ k v : String, added[k]? = some v → wanted[k]? = some v)
    (hchanged : ∀ k v : String, wanted[k]? = some v → cur[k]? ≠ some v → added[k]? = some v) :
    gone.foldl (fun m k => m.erase k) cur ∪ added = wanted := by
  refine Std.ExtTreeMap.ext_getElem? (fun k => ?_)
  rw [Std.ExtTreeMap.getElem?_union, GoMap.getElem?_foldl_erase]
  cases hk : wanted[k]? with
  | none =>
    have hno : added[k]? = none := by
      cases h : added[k]? with
      | none => rfl
      | some v => exact absurd (hnew k v h) (by simp [hk])
    rw [hno, Option.none_or]
    split
    next => rfl
    next hkept =>
      cases hc : cur[k]? with
      | none => rfl
      | some v => exact absurd (hmissing k v hc hk) hkept
  | some v =>
    have hkept : k ∉ gone := fun hmem => absurd (hgone k hmem) (by simp [hk])
    rw [if_neg hkept]
    by_cases hc : cur[k]? = some v
    · cases h : added[k]? with
      | none => rw [Option.none_or, hc]
      | some w => rw [Option.some_or, ← hk, hnew k w h]
    · rw [hchanged k v hk hc, Option.some_or]

end Entries

section Taints

theorem mem_compact {t : Taint} {ts : List Taint} : t ∈ Kuber.compact ts ↔ t ∈ ts := by
  fun_induction Kuber.compact ts with
  | case1 r ts ih => simp [ih]
  | case2 l r ts hne ih => simp [ih]
  | case3 ts => rfl

theorem mem_updated_taints {add : AddBatch} {np : NodePool} {t : Taint} :
    t ∈ (Kuber.updateExistingAnnotationsLabelsTaints add np).taints
      ↔ t ∈ np.taints ∨ t ∈ add.taints.getD np.name [] := by
  have hget : add.taints.getD np.name [] = add.taints[np.name]?.getD [] :=
    Std.ExtTreeMap.getD_eq_getD_getElem?
  rw [hget]
  unfold Kuber.updateExistingAnnotationsLabelsTaints
  cases add.taints[np.name]? with
  | none => simp
  | some ts =>
    dsimp only
    rw [mem_compact, (List.mergeSort_perm _ _).mem_iff, List.mem_append, Option.getD_some]

end Taints

section Diff

variable {ord : MapOrder} {old desired : List NodePool}

def patchable (old desired : List NodePool) : List (NodePool × NodePool) :=
  old.filterMap (fun c => (NodePools.findByName c.name desired).map (c, ·))

theorem mem_patchable {c n : NodePool} :
    (c, n) ∈ patchable old desired ↔ c ∈ old ∧ NodePools.findByName c.name desired = some n := by
  simp only [patchable, List.mem_filterMap, Option.map_eq_some_iff, Prod.mk.injEq]
  constructor
  · rintro ⟨_, hc, _, hn, rfl, rfl⟩
    exact ⟨hc, hn⟩
  · rintro ⟨hc, hn⟩
    exact ⟨c, hc, n, hn, rfl, rfl⟩

theorem name_of_mem_patchable {c n : NodePool} (h : (c, n) ∈ patchable old desired) :
    n.name = c.name := by
  simpa using List.find?_some (mem_patchable.mp h).2

def patchStep (ord : MapOrder) (diff : LabelsTaintsAnnotationsDiffResult)
    (x : NodePool × NodePool) : LabelsTaintsAnnotationsDiffResult :=
  { deleted :=
      { labels := diff.deleted.labels.appendAt x.2.name
          (missingKeys ord "deleted labels" x.1.labels x.2.labels)
        annotations := diff.deleted.annotations.appendAt x.2.name
          (missingKeys ord "deleted annotations" x.1.annotations x.2.annotations)
        taints := diff.deleted.taints.appendAt x.2.name
          (x.1.taints.filter (fun t => !x.2.taints.contains t)) }
    added :=
      { labels := insertEntries diff.added.labels x.1.name (changedEntries x.1.labels x.2.labels)
        annotations := insertEntries diff.added.annotations x.1.name
          (changedEntries x.1.annotations x.2.annotations)
        taints := diff.added.taints.appendAt x.1.name
          (x.2.taints.filter (fun t => !x.1.taints.contains t)) } }

theorem labelsTaintsAnnotationsDiff_eq :
    labelsTaintsAnnotationsDiff ord old desired
      = (patchable old desired).foldl (patchStep ord) ⟨⟨∅, ∅, ∅⟩, ⟨∅, ∅, ∅⟩⟩ := by
  unfold labelsTaintsAnnotationsDiff patchable
  rw [List.foldl_filterMap]
  congr
  funext diff c
  cases NodePools.findByName c.name desired <;> rfl

theorem mem_patchable_of_name {c c' n n' : NodePool} (h : (c, n) ∈ patchable old desired)
    (h' : (c', n') ∈ patchable old desired) (hname : c'.name = c.name) : n' = n := by
  have hn := (mem_patchable.mp h).2
  have hn' := (mem_patchable.mp h').2
  rw [hname, hn] at hn'
  exact (Option.some.inj hn').symm

theorem mem_appended {α : Type} (part : LabelsTaintsAnnotationsDiffResult → GoMap (List α))
    {key : NodePool × NodePool → String} {f : NodePool × NodePool → List α}
    (hstep : ∀ d x, (part d).appendAt (key x) (f x) = part (patchStep ord d x))
    (hinit : part ⟨⟨∅, ∅, ∅⟩, ⟨∅, ∅, ∅⟩⟩ = ∅) {k : String} {a : α} :
    a ∈ (part (labelsTaintsAnnotationsDiff ord old desired)).getD k []
      ↔ ∃ x ∈ patchable old desired, key x = k ∧ a ∈ f x := by
  have hfold : (patchable old desired).foldl (fun m x => m.appendAt (key x) (f x))
        (part ⟨⟨∅, ∅, ∅⟩, ⟨∅, ∅, ∅⟩⟩)
      = part ((patchable old desired).foldl (patchStep ord) ⟨⟨∅, ∅, ∅⟩, ⟨∅, ∅, ∅⟩⟩) :=
    List.foldl_hom part hstep
  rw [labelsTaintsAnnotationsDiff_eq, ← hfold, hinit, GoMap.mem_getD_foldl_appendAt]
  simp

theorem getElem?_inserted (part : LabelsTaintsAnnotationsDiffResult → GoMap (GoMap String))
    {f : NodePool → GoMap String}
    (hstep : ∀ d x, insertEntries (part d) x.1.name (changedEntries (f x.1) (f x.2))
      = part (patchStep ord d x))
    (hinit : part ⟨⟨∅, ∅, ∅⟩, ⟨∅, ∅, ∅⟩⟩ = ∅) {c n : NodePool}
    (h : (c, n) ∈ patchable old desired) {k v : String} :
    ((part (labelsTaintsAnnotationsDiff ord old desired)).getD c.name ∅)[k]? = some v
      ↔ ∃ x ∈ patchable old desired, x.1.name = c.name
        ∧ (changedEntries (f x.1) (f x.2))[k]? = some v := by
  have hfold : (patchable old desired).foldl (fun m x => insertEntries m x.1.name
        (changedEntries (f x.1) (f x.2))) (part ⟨⟨∅, ∅, ∅⟩, ⟨∅, ∅, ∅⟩⟩)
      = part ((patchable old desired).foldl (patchStep ord) ⟨⟨∅, ∅, ∅⟩, ⟨∅, ∅, ∅⟩⟩) :=
    List.foldl_hom part hstep
  rw [labelsTaintsAnnotationsDiff_eq, ← hfold, hinit, getElem?_foldl_insertEntries (g := f n)]
  · simp
  · simp
  · rintro ⟨c', n'⟩ hx hname v hv
    rw [mem_patchable_of_name h hx hname] at hv
    exact (GoMap.getElem?_filter_eq_some.mp hv).1

theorem mem_missingKeys {loop : String} {cur new : GoMap String} {k : String} :
    k ∈ missingKeys ord loop cur new ↔ (∃ v, cur[k]? = some v) ∧ new[k]? = none := by
  simp only [missingKeys, List.mem_map, List.mem_filter, MapOrder.mem_range, Prod.exists,
    exists_and_right, exists_eq_right, Std.ExtTreeMap.contains_eq_isSome_getElem?,
    Option.not_isSome, Option.isNone_iff_eq_none]

theorem patched_attribute {loop : String} {f : NodePool → GoMap String}
    (gone : LabelsTaintsAnnotationsDiffResult → GoMap (List String))
    (new : LabelsTaintsAnnotationsDiffResult → GoMap (GoMap String))
    (hgone : ∀ d x, (gone d).appendAt x.2.name (missingKeys ord loop (f x.1) (f x.2))
      = gone (patchStep ord d x))
    (hgone₀ : gone ⟨⟨∅, ∅, ∅⟩, ⟨∅, ∅, ∅⟩⟩ = ∅)
    (hnew : ∀ d x, insertEntries (new d) x.1.name (changedEntries (f x.1) (f x.2))
      = new (patchStep ord d x))
    (hnew₀ : new ⟨⟨∅, ∅, ∅⟩, ⟨∅, ∅, ∅⟩⟩ = ∅) {c n : NodePool}
    (h : (c, n) ∈ patchable old desired) :
    ((gone (labelsTaintsAnnotationsDiff ord old desired)).getD c.name []).foldl
        (fun m k => m.erase k) (f c)
      ∪ (new (labelsTaintsAnnotationsDiff ord old desired)).getD c.name ∅ = f n := by
  apply patched_entries
  · intro k hk
    obtain ⟨⟨c', n'⟩, hx, hname, hmem⟩ := (mem_appended gone hgone hgone₀).mp hk
    rw [← mem_patchable_of_name h hx ((name_of_mem_patchable hx).symm.trans hname)]
    exact (mem_missingKeys.mp hmem).2
  · intro k v hc hn
    exact (mem_appended gone hgone hgone₀).mpr
      ⟨(c, n), h, name_of_mem_patchable h, mem_missingKeys.mpr ⟨⟨v, hc⟩, hn⟩⟩
  · intro k v hk
    obtain ⟨⟨c', n'⟩, hx, hname, hv⟩ := (getElem?_inserted new hnew hnew₀ h).mp hk
    rw [mem_patchable_of_name h hx hname] at hv
    exact (GoMap.getElem?_filter_eq_some.mp hv).1
  · intro k v hn hc
    exact (getElem?_inserted new hnew hnew₀ h).mpr
      ⟨(c, n), h, rfl, GoMap.getElem?_filter_eq_some.mpr ⟨hn, by simpa using hc⟩⟩

structure Unmentioned (d : LabelsTaintsAnnotationsDiffResult) (name : String) : Prop where
  deletedLabels : name ∉ d.deleted.labels
  deletedAnnotations : name ∉ d.deleted.annotations
  deletedTaints : name ∉ d.deleted.taints
  addedLabels : name ∉ d.added.labels
  addedAnnotations : name ∉ d.added.annotations
  addedTaints : name ∉ d.added.taints

def patchedNodePool (d : LabelsTaintsAnnotationsDiffResult) (np : NodePool) : NodePool :=
  Kuber.updateExistingAnnotationsLabelsTaints d.added
    (Kuber.removeAnnotationsLabelsTaints d.deleted np)

theorem patchedNodePool_of_unmentioned {d : LabelsTaintsAnnotationsDiffResult} {np : NodePool}
    (h : Unmentioned d np.name) : patchedNodePool d np = np := by
  have htaints : d.added.taints[np.name]? = none :=
    Std.ExtTreeMap.getElem?_eq_none h.addedTaints
  have hunion : ∀ m : GoMap String, m ∪ ∅ = m := fun m =>
    Std.ExtTreeMap.ext_getElem? (fun k => by simp [Std.ExtTreeMap.getElem?_union])
  simp only [patchedNodePool, Kuber.updateExistingAnnotationsLabelsTaints,
    Kuber.removeAnnotationsLabelsTaints, htaints, Std.ExtTreeMap.getD_eq_fallback h.deletedLabels,
    Std.ExtTreeMap.getD_eq_fallback h.deletedAnnotations,
    Std.ExtTreeMap.getD_eq_fallback h.deletedTaints, Std.ExtTreeMap.getD_eq_fallback h.addedLabels,
    Std.ExtTreeMap.getD_eq_fallback h.addedAnnotations, List.foldl_nil, hunion]
  simp

theorem mem_patched_taints {c n : NodePool} (h : (c, n) ∈ patchable old desired) {t : Taint} :
    t ∈ (patchedNodePool (labelsTaintsAnnotationsDiff ord old desired) c).taints
      ↔ t ∈ n.taints := by
  have hdeleted : t ∈ (labelsTaintsAnnotationsDiff ord old desired).deleted.taints.getD c.name []
      ↔ ∃ x ∈ patchable old desired, x.2.name = c.name
        ∧ t ∈ x.1.taints.filter (fun t => !x.2.taints.contains t) :=
    mem_appended (·.deleted.taints) (fun _ _ => rfl) rfl
  have hadded : t ∈ (labelsTaintsAnnotationsDiff ord old desired).added.taints.getD c.name []
      ↔ ∃ x ∈ patchable old desired, x.1.name = c.name
        ∧ t ∈ x.2.taints.filter (fun t => !x.1.taints.contains t) :=
    mem_appended (·.added.taints) (fun _ _ => rfl) rfl
  rw [patchedNodePool, mem_updated_taints]
  change t ∈ c.taints.filter _ ∨ t ∈ (labelsTaintsAnnotationsDiff ord old desired).added.taints.getD
    c.name [] ↔ _
  rw [hadded, List.mem_filter, Bool.not_eq_true', ← Bool.not_eq_true, List.contains_iff_mem,
    hdeleted]
  constructor
  · rintro (⟨hc, hkept⟩ | ⟨⟨c', n'⟩, hx, hname, hmem⟩)
    · by_contra hn
      exact hkept ⟨(c, n), h, name_of_mem_patchable h, by simp [hc, hn]⟩
    · rw [← mem_patchable_of_name h hx hname]
      exact (List.mem_filter.mp hmem).1
  · intro hn
    by_cases hc : t ∈ c.taints
    · refine .inl ⟨hc, ?_⟩
      rintro ⟨⟨c', n'⟩, hx, hname, hmem⟩
      rw [mem_patchable_of_name h hx ((name_of_mem_patchable hx).symm.trans hname)] at hmem
      simp [hn] at hmem
    · exact .inr ⟨(c, n), h, rfl, by simp [hc, hn]⟩

theorem patchedNodePool_samePatches {c n : NodePool} (h : (c, n) ∈ patchable old desired) :
    SamePatches (patchedNodePool (labelsTaintsAnnotationsDiff ord old desired) c) n where
  labels := patched_attribute (f := (·.labels)) (·.deleted.labels) (·.added.labels)
    (fun _ _ => rfl) rfl (fun _ _ => rfl) rfl h
  annotations := patched_attribute (f := (·.annotations)) (·.deleted.annotations)
    (·.added.annotations) (fun _ _ => rfl) rfl (fun _ _ => rfl) rfl h
  taints _ := mem_patched_taints h

end Diff

/--
The kubernetes cluster after its nodes were patched: nothing but labels, annotations and taints
changed, those of the nodepools that both states have are the desired ones, and a nodepool that the
difference does not mention is as it was.
-/
structure NodesPatched (d : LabelsTaintsAnnotationsDiffResult)
    (current desired patched : K8scluster) : Prop where
  cluster : { patched with clusterInfo := { patched.clusterInfo with
    nodePools := current.clusterInfo.nodePools } } = current
  nodePools : List.Forall₂ (fun np np' =>
      { np' with labels := np.labels, annotations := np.annotations, taints := np.taints } = np
        ∧ (∀ n, NodePools.findByName np.name desired.clusterInfo.nodePools = some n →
          SamePatches np' n)
        ∧ (Unmentioned d np.name → np' = np))
    current.clusterInfo.nodePools patched.clusterInfo.nodePools

theorem patched_nodes_are_desired (ord : MapOrder) (id : TaskId) (current : Clusters)
    (k dk : K8scluster) (r : KubernetesDiffResult) (hk : current.k8s = some k)
    (hdiff : kubernetesDiff ord k dk = .ok r) :
    ∃ patched, Kuber.patchNodes (fun _ _ => true)
          (schedulePatchNodes id current r.labelsTaintsAnnotations).task = .ok (some patched)
      ∧ NodesPatched r.labelsTaintsAnnotations k dk patched
      ∧ ∀ ord' r', kubernetesDiff ord' patched dk = .ok r' →
        r'.labelsTaintsAnnotations.isEmpty = true := by
  have hlabels := (kubernetesDiff_eq_ok hdiff).labelsTaintsAnnotations
  have hsame : ∀ c ∈ k.clusterInfo.nodePools, ∀ n,
      NodePools.findByName c.name dk.clusterInfo.nodePools = some n →
      SamePatches (patchedNodePool r.labelsTaintsAnnotations c) n := by
    intro c hc n hn
    rw [hlabels]
    exact patchedNodePool_samePatches (mem_patchable.mpr ⟨hc, hn⟩)
  refine ⟨Kuber.applyPatch ⟨r.labelsTaintsAnnotations.added, r.labelsTaintsAnnotations.deleted⟩ k,
    ?_, ⟨rfl, ?_⟩, fun ord' r' hr' => ?_⟩
  · simp only [schedulePatchNodes, updateEvent, Kuber.patchNodes, hk]
    rfl
  · refine List.forall₂_map_right_iff.mpr (List.forall₂_same.mpr (fun c hc => ?_))
    exact ⟨rfl, hsame c hc, patchedNodePool_of_unmentioned⟩
  · rw [(kubernetesDiff_eq_ok hr').labelsTaintsAnnotations, labelsTaintsAnnotationsDiff_isEmpty]
    intro np hnp n hn
    obtain ⟨c, hc, rfl⟩ := List.mem_map.mp hnp
    exact hsame c hc n hn

namespace Demo

namespace NodePatches

def k8s (labels : List (String × String)) (taints : List Taint) : K8scluster :=
  ⟨⟨"main", "abc1234", [⟨.static ⟨∅⟩, "owned", [], false, .ofList labels, taints, ∅, 22⟩]⟩, "", "",
    "", ⟨"off", "", ""⟩⟩

def current : K8scluster :=
  k8s [("tier", "web"), ("env", "test")] [⟨"gpu", "", "NoSchedule"⟩, ⟨"gpu", "", "NoSchedule"⟩]

def desired : K8scluster := k8s [("env", "prod")] [⟨"spot", "", "NoSchedule"⟩]

end NodePatches

end Demo

theorem patched_nodes_of_changed_label :
    ∃ r patched, kubernetesDiff .ascending Demo.NodePatches.current Demo.NodePatches.desired = .ok r
      ∧ NodesPatched r.labelsTaintsAnnotations Demo.NodePatches.current Demo.NodePatches.desired
        patched := by
  obtain ⟨patched, _, hpatched, _⟩ := patched_nodes_are_desired .ascending 1
    ⟨some Demo.NodePatches.current, []⟩ Demo.NodePatches.current Demo.NodePatches.desired _ rfl rfl
  exact ⟨_, patched, rfl, hpatched⟩

end Manager

end Claudie
