import Claudie.Lemmas.NodePools
import Claudie.Manager.ClustersUnion
import Claudie.Manager.Lemmas.Diff

/-!
The loops of `clustersUnion` over the difference of one kind of nodepools.
-/

namespace Claudie

namespace Manager

namespace clustersUnion

open NodePools

section Loops

variable {src ir ir' : List NodePool} {entries : List (String × List String)}

def copyTo (src : List NodePool) (name : String) (nodes : List String) (dst : NodePool) :
    Outcome NodePool := do
  let src ← Outcome.deref (findByName name src)
  copyNodes dst src nodes

theorem copyTo_name {name : String} {nodes : List String} {dst np : NodePool}
    (h : copyTo src name nodes dst = .ok np) : np.name = dst.name := by
  obtain ⟨_, _, h⟩ := Outcome.bind_eq_ok.mp h
  exact copyNodes_name h

theorem copyAddedNodes_eq (hsrc : ∀ e ∈ entries, (findByName e.1 src).isSome = true) :
    copyAddedNodes src ir entries = ir.modifyKeys (·.name) (copyTo src) entries := by
  induction entries generalizing ir with
  | nil => rfl
  | cons e entries ih =>
    obtain ⟨name, nodes⟩ := e
    obtain ⟨np, hnp⟩ := Option.isSome_iff_exists.mp (hsrc _ List.mem_cons_self)
    have hcopy : copyTo src name nodes = fun dst => copyNodes dst np nodes := by
      funext dst
      rw [copyTo, hnp]
      rfl
    rw [copyAddedNodes, List.modifyKeys, copyNodesByName, hnp, hcopy, ← modifyByName_eq_modifyKey]
    simp only [Outcome.deref_some, bind, Except.bind]
    cases modifyByName name (fun dst => copyNodes dst np nodes) ir with
    | error e => rfl
    | ok ir => exact ih (fun e he => hsrc e (List.mem_cons_of_mem _ he))

def appended (src : List NodePool) (entries : List (String × List String)) : List NodePool :=
  entries.filterMap (fun e => findByName e.1 src)

theorem appendAddedNodePools_eq (hsrc : ∀ e ∈ entries, (findByName e.1 src).isSome = true) :
    appendAddedNodePools src ir entries = .ok (ir ++ appended src entries) := by
  induction entries generalizing ir with
  | nil => simp [appendAddedNodePools, appended, pure, Except.pure]
  | cons e entries ih =>
    obtain ⟨np, hnp⟩ := Option.isSome_iff_exists.mp (hsrc _ List.mem_cons_self)
    rw [appendAddedNodePools, hnp, Outcome.deref_some]
    simp only [bind, Except.bind]
    rw [ih (fun e he => hsrc e (List.mem_cons_of_mem _ he))]
    simp [appended, hnp]

theorem findByName_name {name : String} {np : NodePool} {nps : List NodePool}
    (h : findByName name nps = some np) : np.name = name := by
  simpa using List.find?_some h

theorem appended_names (hsrc : ∀ e ∈ entries, (findByName e.1 src).isSome = true) :
    (appended src entries).map (·.name) = entries.map (·.1) := by
  induction entries with
  | nil => rfl
  | cons e entries ih =>
    obtain ⟨np, hnp⟩ := Option.isSome_iff_exists.mp (hsrc _ List.mem_cons_self)
    have ih := ih (fun e he => hsrc e (List.mem_cons_of_mem _ he))
    simp only [appended, List.filterMap_cons, hnp, List.map_cons, findByName_name hnp]
    exact congrArg _ ih

theorem findByName_appended (hsrc : ∀ e ∈ entries, (findByName e.1 src).isSome = true)
    (hentries : (entries.map (·.1)).Nodup) (name : String) :
    findByName name (appended src entries)
      = if name ∈ entries.map (·.1) then findByName name src else none := by
  split
  next hmem =>
    obtain ⟨e, he, rfl⟩ := List.mem_map.mp hmem
    obtain ⟨np, hnp⟩ := Option.isSome_iff_exists.mp (hsrc e he)
    rw [hnp]
    refine (List.find?_key_eq_some ?_).mpr ⟨List.mem_filterMap.mpr ⟨e, he, hnp⟩, findByName_name hnp⟩
    rwa [appended_names hsrc]
  next hmem =>
    refine List.find?_key_eq_none.mpr ?_
    rwa [appended_names hsrc]

end Loops

section Phase

variable {ord : MapOrder} {loop : String} {diff : NodePoolsDiffResult}
  {src ir ir' : List NodePool} {p : NodePool → Bool}

structure Adds (ord : MapOrder) (loop : String) (diff : NodePoolsDiffResult) (src : List NodePool) :
    Prop where
  partiallyAdded : ∀ e ∈ ord.range s!"{loop} partially added" diff.partiallyAdded,
    (findByName e.1 src).isSome = true
  added : ∀ e ∈ ord.range s!"{loop} added" diff.added, (findByName e.1 src).isSome = true

theorem Adds.addNodePools_eq (h : Adds ord loop diff src) :
    addNodePools ord loop diff src ir
      = ir.modifyKeys (·.name) (copyTo src)
          (ord.range s!"{loop} partially added" diff.partiallyAdded)
        >>= fun ir => .ok (ir ++ appended src (ord.range s!"{loop} added" diff.added)) := by
  rw [addNodePools, copyAddedNodes_eq h.partiallyAdded]
  simp only [appendAddedNodePools_eq h.added]

theorem adds_nodePoolsDiff {old : List NodePool} (hsrc : (src.map (·.name)).Nodup) :
    Adds ord loop (nodePoolsDiff (nodePoolsViewOf p old) (nodePoolsViewOf p src)) src := by
  have found : ∀ {name : String} {nodes : List String}, (nodePoolsViewOf p src)[name]? = some nodes →
      (findByName name src).isSome = true := by
    intro name nodes hview
    obtain ⟨np, hnp, hname, _⟩ := (nodePoolsViewOf_eq_some hsrc).mp hview
    rw [findByName, (List.find?_key_eq_some hsrc).mpr ⟨hnp, hname⟩]
    rfl
  refine ⟨fun e he => ?_, fun e he => ?_⟩
  · rw [MapOrder.mem_range, nodePoolsDiff_partiallyAdded] at he
    obtain ⟨_, _, he⟩ := Option.bind_eq_some_iff.mp he
    obtain ⟨_, hview, _⟩ := Option.bind_eq_some_iff.mp he
    exact found hview
  · rw [MapOrder.mem_range, nodePoolsDiff_added] at he
    split at he
    next => cases he
    next => exact found he

theorem Adds.names (h : Adds ord loop diff src) (hok : addNodePools ord loop diff src ir = .ok ir') :
    ir'.map (·.name) = ir.map (·.name) ++ (ord.range s!"{loop} added" diff.added).map (·.1) := by
  rw [h.addNodePools_eq] at hok
  obtain ⟨ir₁, hir₁, hok⟩ := Outcome.bind_eq_ok.mp hok
  cases hok
  rw [List.map_append, appended_names h.added,
    List.modifyKeys_keys (fun _ _ _ _ => copyTo_name) hir₁]

theorem Adds.findByName_of_added (h : Adds ord loop diff src)
    (hok : addNodePools ord loop diff src ir = .ok ir') {name : String}
    (hpart : diff.partiallyAdded[name]? = none) :
    findByName name ir' = (findByName name ir).or
      (if (diff.added[name]?).isSome then findByName name src else none) := by
  rw [h.addNodePools_eq] at hok
  obtain ⟨ir₁, hir₁, hok⟩ := Outcome.bind_eq_ok.mp hok
  cases hok
  have hnot : name ∉ (ord.range s!"{loop} partially added" diff.partiallyAdded).map (·.1) := by
    rw [MapOrder.mem_keys_range, hpart]
    simp
  have hlook := List.modifyKeys_find?_of_not_mem (fun _ _ _ _ => copyTo_name) hir₁ hnot
  have hnew := findByName_appended h.added (MapOrder.nodup_keys_range ord) name
  simp only [MapOrder.mem_keys_range] at hnew
  rw [← hnew]
  unfold findByName at hlook ⊢
  rw [List.find?_append, hlook]

theorem Adds.findByName_of_partiallyAdded (h : Adds ord loop diff src)
    (hok : addNodePools ord loop diff src ir = .ok ir') {name : String} {nodes : List String}
    (hpart : diff.partiallyAdded[name]? = some nodes) {dst np : NodePool}
    (hdst : findByName name ir = some dst) (hnp : findByName name src = some np) :
    ∃ dst', copyNodes dst np nodes = .ok dst' ∧ findByName name ir' = some dst' := by
  rw [h.addNodePools_eq] at hok
  obtain ⟨ir₁, hir₁, hok⟩ := Outcome.bind_eq_ok.mp hok
  cases hok
  obtain ⟨dst', hcopy, hlook⟩ := List.modifyKeys_find?_of_mem (fun _ _ _ _ => copyTo_name)
    (MapOrder.nodup_keys_range ord) hir₁
    (show (name, nodes) ∈ ord.range _ _ from (MapOrder.mem_range ord).mpr hpart) hdst
  rw [copyTo, hnp] at hcopy
  refine ⟨dst', hcopy, ?_⟩
  unfold findByName
  rw [List.find?_append, hlook]
  rfl

theorem Adds.isOk (h : Adds ord loop diff src)
    (hcopy : ∀ name nodes dst np, diff.partiallyAdded[name]? = some nodes →
      findByName name ir = some dst → findByName name src = some np →
      ∃ dst', copyNodes dst np nodes = .ok dst') :
    ∃ ir', addNodePools ord loop diff src ir = .ok ir' := by
  rw [h.addNodePools_eq]
  have hok : ∃ ir₁, ir.modifyKeys (·.name) (copyTo src)
      (ord.range s!"{loop} partially added" diff.partiallyAdded) = .ok ir₁ := by
    refine List.modifyKeys_isOk (fun _ _ _ _ => copyTo_name) (MapOrder.nodup_keys_range ord) ?_
    intro name nodes hmem dst hdst
    obtain ⟨np, hnp⟩ := Option.isSome_iff_exists.mp (h.partiallyAdded _ hmem)
    rw [copyTo, hnp]
    exact hcopy name nodes dst np ((MapOrder.mem_range ord).mp hmem) hdst hnp
  obtain ⟨ir₁, hir₁⟩ := hok
  rw [hir₁]
  exact ⟨_, rfl⟩

end Phase

inductive UnionAt (p : NodePool → Bool) :
    Option NodePool → Option NodePool → Option NodePool → Prop where
  | copied {o m u : NodePool} : p m = true → copyNodes o m (missingNodes o m) = .ok u →
    UnionAt p (some o) (some m) (some u)
  | added {m : NodePool} : p m = true → UnionAt p none (some m) (some m)
  | kept {o m : Option NodePool} : (∀ np ∈ m, p np = false) → UnionAt p o m o

def SameKinds (old modified : List NodePool) : Prop :=
  ∀ o ∈ old, ∀ m ∈ modified, o.name = m.name → o.isDynamic = m.isDynamic

section Union

variable {ord : MapOrder} {loop : String} {old modified ir ir' : List NodePool}
  {p : NodePool → Bool}

theorem mem_iff_findByName {nps : List NodePool} (hnodup : (nps.map (·.name)).Nodup)
    {np : NodePool} : np ∈ nps ↔ findByName np.name nps = some np := by
  rw [findByName, List.find?_key_eq_some hnodup, and_iff_left rfl]

theorem missingNodes_of_missingFrom {o m : NodePool} {nodes : List String}
    (h : missingFrom (o.nodes.map (·.name)) (m.nodes.map (·.name)) = some nodes) :
    missingNodes o m = nodes := by
  have hget := missingFrom_getD (o.nodes.map (·.name)) (m.nodes.map (·.name))
  rw [h] at hget
  exact hget.symm

structure AddsKind (p : NodePool → Bool) (old modified ir : List NodePool) : Prop where
  oldNames : (old.map (·.name)).Nodup
  modifiedNames : (modified.map (·.name)).Nodup
  kind : ∀ a b : NodePool, a.isDynamic = b.isDynamic → p a = p b
  kinds : SameKinds old modified
  same : ∀ m ∈ modified, p m = true → findByName m.name ir = findByName m.name old

theorem AddsKind.lookup (h : AddsKind p old modified ir) (name : String) :
    (∀ np ∈ findByName name modified, p np = false)
        ∧ (nodePoolsDiff (nodePoolsViewOf p old)
          (nodePoolsViewOf p modified)).partiallyAdded[name]? = none
        ∧ (nodePoolsDiff (nodePoolsViewOf p old) (nodePoolsViewOf p modified)).added[name]? = none
      ∨ ∃ m, findByName name modified = some m ∧ p m = true
        ∧ findByName name ir = findByName name old
        ∧ (nodePoolsDiff (nodePoolsViewOf p old) (nodePoolsViewOf p modified)).partiallyAdded[name]?
          = (findByName name old).bind (fun o =>
            missingFrom (o.nodes.map (·.name)) (m.nodes.map (·.name)))
        ∧ (nodePoolsDiff (nodePoolsViewOf p old) (nodePoolsViewOf p modified)).added[name]?
          = if (findByName name old).isSome then none else some (m.nodes.map (·.name)) := by
  rw [nodePoolsDiff_partiallyAdded, nodePoolsDiff_added, nodePoolsViewOf_getElem? h.oldNames,
    nodePoolsViewOf_getElem? h.modifiedNames]
  cases hm : findByName name modified with
  | none =>
    left
    simp
  | some m =>
    have hname := findByName_name hm
    have hmem : m ∈ modified := List.mem_of_find?_eq_some hm
    cases hp : p m with
    | false =>
      left
      simp [hp]
    | true =>
      right
      refine ⟨m, rfl, hp, hname ▸ h.same m hmem hp, ?_⟩
      cases ho : findByName name old with
      | none => simp [hp]
      | some o =>
        have hkind := h.kinds o (List.mem_of_find?_eq_some ho) m hmem
          ((findByName_name ho).trans hname.symm)
        have hpo : p o = true := (h.kind o m hkind).trans hp
        simp [hp, hpo]

theorem AddsKind.copied (h : AddsKind p old modified ir) {o m u : NodePool} {name : String}
    (ho : findByName name ir = some o) (hm : findByName name modified = some m) (hp : p m = true)
    (hu : copyNodes o m (missingNodes o m) = .ok u) :
    Copied o m (missingNodes o m) u ∧ o.name = m.name ∧ o.isDynamic = m.isDynamic := by
  have hname : o.name = m.name := (findByName_name ho).trans (findByName_name hm).symm
  have hold : findByName name old = some o := by
    rw [← ho, ← findByName_name hm]
    exact (h.same m (List.mem_of_find?_eq_some hm) hp).symm
  have hkind := h.kinds o (List.mem_of_find?_eq_some hold) m (List.mem_of_find?_eq_some hm) hname
  exact ⟨copied_of_copyNodes hkind hu, hname, hkind⟩

theorem AddsKind.unionAt (h : AddsKind p old modified ir)
    (hok : addNodePools ord loop (nodePoolsDiff (nodePoolsViewOf p old) (nodePoolsViewOf p modified))
      modified ir = .ok ir') (name : String) :
    UnionAt p (findByName name ir) (findByName name modified) (findByName name ir') := by
  have hadds : Adds ord loop (nodePoolsDiff (nodePoolsViewOf p old) (nodePoolsViewOf p modified))
      modified := adds_nodePoolsDiff h.modifiedNames
  obtain ⟨hkept, hpart, hadded⟩ | ⟨m, hm, hp, hsame, hpart, hadded⟩ := h.lookup name
  · rw [hadds.findByName_of_added hok hpart, hadded]
    simpa using UnionAt.kept hkept
  · rw [hsame, hm]
    cases ho : findByName name old with
    | none =>
      rw [ho] at hpart hadded
      rw [hadds.findByName_of_added hok hpart, hadded, hsame, ho, hm]
      exact .added hp
    | some o =>
      rw [ho] at hpart hadded hsame
      cases hmissing : missingFrom (o.nodes.map (·.name)) (m.nodes.map (·.name)) with
      | none =>
        rw [Option.bind_some, hmissing] at hpart
        rw [hadds.findByName_of_added hok hpart, hadded, hsame]
        exact .copied hp (copyNodes_of_subset (missingFrom_eq_none.mp hmissing))
      | some nodes =>
        rw [Option.bind_some, hmissing] at hpart
        obtain ⟨u, hu, hlook⟩ := hadds.findByName_of_partiallyAdded hok hpart hsame hm
        rw [hlook]
        refine .copied hp ?_
        rwa [missingNodes_of_missingFrom hmissing]

theorem AddsKind.names (h : AddsKind p old modified ir) (hir : (ir.map (·.name)).Nodup)
    (hok : addNodePools ord loop (nodePoolsDiff (nodePoolsViewOf p old) (nodePoolsViewOf p modified))
      modified ir = .ok ir') : (ir'.map (·.name)).Nodup := by
  rw [(adds_nodePoolsDiff h.modifiedNames).names hok, List.nodup_append]
  refine ⟨hir, MapOrder.nodup_keys_range ord, ?_⟩
  rintro name hname _ hadded rfl
  rw [MapOrder.mem_keys_range] at hadded
  obtain ⟨_, _, hnone⟩ | ⟨m, hm, hp, hsame, _, hlook⟩ := h.lookup name
  · rw [hnone] at hadded
    cases hadded
  · have hnone : findByName name ir = none := by
      rw [hlook] at hadded
      cases ho : findByName name old with
      | none => rw [hsame, ho]
      | some o =>
        rw [ho] at hadded
        cases hadded
    exact List.find?_key_eq_none.mp hnone hname

theorem AddsKind.tidy (h : AddsKind p old modified ir) (hir : TidyNodePools ir)
    (hmodified : TidyNodePools modified)
    (hok : addNodePools ord loop (nodePoolsDiff (nodePoolsViewOf p old) (nodePoolsViewOf p modified))
      modified ir = .ok ir') : TidyNodePools ir' where
  names := h.names hir.names hok
  nodePools u hu := by
    have hunion := h.unionAt hok u.name
    rw [(mem_iff_findByName (h.names hir.names hok)).mp hu] at hunion
    generalize ho : findByName u.name ir = o at hunion
    generalize hm : findByName u.name modified = m at hunion
    cases hunion with
    | copied hp hcopy =>
      exact (h.copied ho hm hp hcopy).1.tidy (hir.nodePools _ (List.mem_of_find?_eq_some ho))
        (hmodified.nodePools _ (List.mem_of_find?_eq_some hm))
    | added hp => exact hmodified.nodePools u (List.mem_of_find?_eq_some hm)
    | kept _ => exact hir.nodePools u (List.mem_of_find?_eq_some ho)

theorem covers_refl (np : NodePool) : np.Covers np := ⟨rfl, rfl, List.Subset.refl _⟩

theorem covers_trans {a b c : NodePool} (hab : a.Covers b) (hbc : b.Covers c) : a.Covers c :=
  ⟨hab.name.trans hbc.name, hab.kind.trans hbc.kind, List.Subset.trans hbc.nodes hab.nodes⟩

theorem AddsKind.covers_ir (h : AddsKind p old modified ir) (hir : (ir.map (·.name)).Nodup)
    (hok : addNodePools ord loop (nodePoolsDiff (nodePoolsViewOf p old) (nodePoolsViewOf p modified))
      modified ir = .ok ir') : CoversNodePools ir' ir := by
  intro o ho
  rw [mem_iff_findByName hir] at ho
  have hunion := h.unionAt hok o.name
  rw [ho] at hunion
  generalize hm : findByName o.name modified = m at hunion
  generalize hu : findByName o.name ir' = u at hunion
  cases hunion with
  | copied hp hcopy =>
    exact ⟨_, List.mem_of_find?_eq_some hu, (h.copied ho hm hp hcopy).1.covers_dst⟩
  | kept _ => exact ⟨o, List.mem_of_find?_eq_some hu, covers_refl o⟩

theorem AddsKind.covers_modified (h : AddsKind p old modified ir)
    (hok : addNodePools ord loop (nodePoolsDiff (nodePoolsViewOf p old) (nodePoolsViewOf p modified))
      modified ir = .ok ir') {m : NodePool} (hm : m ∈ modified) (hp : p m = true) :
    ∃ u ∈ ir', u.Covers m := by
  rw [mem_iff_findByName h.modifiedNames] at hm
  have hunion := h.unionAt hok m.name
  rw [hm] at hunion
  generalize ho : findByName m.name ir = o at hunion
  generalize hu : findByName m.name ir' = u at hunion
  cases hunion with
  | copied hp hcopy =>
    obtain ⟨hcopied, hname, hkind⟩ := h.copied ho hm hp hcopy
    exact ⟨_, List.mem_of_find?_eq_some hu, hcopied.covers_src hname hkind⟩
  | added _ => exact ⟨m, List.mem_of_find?_eq_some hu, covers_refl m⟩
  | kept hno => exact absurd hp (by simp [hno m rfl])

theorem AddsKind.isOk (ord : MapOrder) (loop : String) (h : AddsKind p old modified ir)
    (hcopy : ∀ name o m, findByName name old = some o → findByName name modified = some m →
      p m = true → ∃ u, copyNodes o m (missingNodes o m) = .ok u) :
    ∃ ir', addNodePools ord loop (nodePoolsDiff (nodePoolsViewOf p old)
      (nodePoolsViewOf p modified)) modified ir = .ok ir' := by
  refine (adds_nodePoolsDiff h.modifiedNames).isOk (fun name nodes dst np hpart hdst hnp => ?_)
  obtain ⟨_, hnone, _⟩ | ⟨m, hm, hp, hsame, hlook, _⟩ := h.lookup name
  · rw [hnone] at hpart
    cases hpart
  · rw [hm] at hnp
    cases hnp
    rw [hsame] at hdst
    rw [hlook, hdst, Option.bind_some] at hpart
    rw [← missingNodes_of_missingFrom hpart]
    exact hcopy name dst np hdst hm hp

theorem AddsKind.kept (h : AddsKind p old modified ir)
    (hok : addNodePools ord loop (nodePoolsDiff (nodePoolsViewOf p old) (nodePoolsViewOf p modified))
      modified ir = .ok ir') {name : String} (hno : ∀ np ∈ findByName name modified, p np = false) :
    findByName name ir' = findByName name ir := by
  have hunion := h.unionAt hok name
  generalize findByName name ir' = u at hunion ⊢
  generalize findByName name modified = m at hunion hno
  generalize findByName name ir = o at hunion ⊢
  cases hunion with
  | copied hp _ => exact absurd hp (by simp [hno _ rfl])
  | added hp => exact absurd hp (by simp [hno _ rfl])
  | kept _ => rfl

theorem addNodePools_of_no_additions {diff : NodePoolsDiffResult} {src : List NodePool}
    (hadded : diff.added.isEmpty = true) (hpart : diff.partiallyAdded.isEmpty = true) :
    addNodePools ord loop diff src ir = .ok ir := by
  rw [addNodePools, (MapOrder.range_eq_nil ord).mpr hpart, (MapOrder.range_eq_nil ord).mpr hadded]
  rfl

theorem sameKinds_of_covers {us : List NodePool} (hus : (us.map (·.name)).Nodup)
    (hold : CoversNodePools us old) (hmodified : CoversNodePools us modified) :
    SameKinds old modified := by
  intro o ho m hm hname
  obtain ⟨u, hu, hcovers⟩ := hold o ho
  obtain ⟨u', hu', hcovers'⟩ := hmodified m hm
  have heq : u = u' := List.inj_on_of_nodup_map hus hu hu'
    ((hcovers.name.trans hname).trans hcovers'.name.symm)
  subst heq
  exact hcovers.kind.symm.trans hcovers'.kind

end Union

end clustersUnion

end Manager

end Claudie
