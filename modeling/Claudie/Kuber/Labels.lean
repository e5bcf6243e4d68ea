import Claudie.Lemmas.Metadata
import Claudie.Manager.NodePatches

/-!
Whether the nodes have the labels of the nodepool after a change of them was patched.
-/

namespace Claudie

namespace Kuber

section Patches

variable {m labels : GoMap String}

theorem runPatches_labelNodePool (l : List (String × String)) (m : GoMap String) (ok : Bool) :
    runPatches (labelNodePool l) (m, ok)
      = (l.foldl (fun m kv => m.insert (unescape kv.1) kv.2) m, ok) := by
  unfold runPatches labelNodePool
  rw [List.foldl_map]
  induction l generalizing m with
  | nil => rfl
  | cons kv l ih =>
    rw [List.foldl_cons, List.foldl_cons]
    exact ih _

def Escaped (labels : GoMap String) : Prop :=
  ∀ k v : String, labels[k]? = some v → ∃ y, Plain y ∧ escape y = k

def labelOf (labels : GoMap String) (y : String) : Option String :=
  if Plain y then labels[escape y]? else none

theorem escape_inj {y y' : String} (hy : Plain y) (hy' : Plain y') (h : escape y = escape y') :
    y = y' := by
  rw [← unescape_escape hy, h, unescape_escape hy']

theorem getElem?_set {l : List (String × String)} (hl : l.Perm labels.toList)
    (hescaped : Escaped labels) {y : String} :
    (l.foldl (fun m kv => m.insert (unescape kv.1) kv.2) m)[y]? = (labelOf labels y).or m[y]? := by
  have hmem : ∀ {kv}, kv ∈ l → ∃ y, Plain y ∧ escape y = kv.1 := fun hkv =>
    hescaped _ _ (Std.ExtTreeMap.mem_toList_iff_getElem?_eq_some.mp (hl.mem_iff.mp hkv))
  have hkeys : (l.map (·.1)).Nodup := (hl.map _).nodup_iff.mpr GoMap.nodup_keys_toList
  have hnodup : ((l.map (fun kv => (unescape kv.1, kv.2))).map (·.1)).Nodup := by
    rw [List.map_map]
    refine List.Nodup.map_on (fun kv hkv kv' hkv' heq => ?_) hkeys.of_map
    obtain ⟨y, hy, hkv₁⟩ := hmem hkv
    obtain ⟨y', hy', hkv₁'⟩ := hmem hkv'
    refine List.inj_on_of_nodup_map hkeys hkv hkv' ?_
    simp only [Function.comp_apply, ← hkv₁, ← hkv₁', unescape_escape hy,
      unescape_escape hy'] at heq
    rw [← hkv₁, ← hkv₁', heq]
  have hfold : l.foldl (fun m kv => m.insert (unescape kv.1) kv.2) m
      = (l.map (fun kv => (unescape kv.1, kv.2))).foldl (fun m kv => m.insert kv.1 kv.2) m := by
    rw [List.foldl_map]
  rw [hfold, GoMap.getElem?_foldl_insert]
  congr 1
  refine Option.ext (fun v => ?_)
  rw [List.lookup_eq_some_of_nodup (by rwa [List.map_reverse, List.nodup_reverse]),
    List.mem_reverse, List.mem_map, labelOf, Option.ite_none_right_eq_some]
  constructor
  · rintro ⟨⟨k, v'⟩, hkv, heq⟩
    cases heq
    obtain ⟨y, hy, rfl⟩ := hmem hkv
    rw [unescape_escape hy]
    exact ⟨hy, Std.ExtTreeMap.mem_toList_iff_getElem?_eq_some.mp (hl.mem_iff.mp hkv)⟩
  · rintro ⟨hy, hv⟩
    refine ⟨(escape y, v), ?_, by rw [unescape_escape hy]⟩
    exact hl.mem_iff.mpr (Std.ExtTreeMap.mem_toList_iff_getElem?_eq_some.mpr hv)

theorem getElem?_onNode (hescaped : Escaped labels) {y : String} :
    (onNode labels)[y]? = labelOf labels y := by
  rw [onNode, runPatches_labelNodePool, getElem?_set (.refl _) hescaped,
    Std.ExtTreeMap.getElem?_empty, Option.or_none]

theorem runPatches_removeLabels_fst {ks : List String} (hplain : ∀ k ∈ ks, Plain k)
    (node : GoMap String × Bool) :
    (runPatches (removeLabels ks) node).1 = ks.foldl (fun m k => m.erase k) node.1 := by
  induction ks generalizing node with
  | nil => rfl
  | cons k ks ih =>
    rw [List.forall_mem_cons] at hplain
    refine (ih hplain.2 _).trans ?_
    rw [List.foldl_cons]
    congr 1
    simp only [LabelPatch.apply, unescape_escape hplain.1]
    split
    next labels h =>
      split at h
      next =>
        cases h
        rfl
      next => cases h
    next h =>
      split at h
      next => cases h
      next hno =>
        refine Std.ExtTreeMap.ext_getElem? (fun y => ?_)
        rw [GoMap.getElem?_erase]
        split
        next hy =>
          subst hy
          exact Std.ExtTreeMap.getElem?_eq_none (by simpa using hno)
        next => rfl

theorem runPatches_removeLabels_snd {ks : List String} (hplain : ∀ k ∈ ks, Plain k)
    (hks : ks.Nodup) (node : GoMap String × Bool) :
    (runPatches (removeLabels ks) node).2 = true
      ↔ node.2 = true ∧ ∀ k ∈ ks, (node.1[k]?).isSome := by
  induction ks generalizing node with
  | nil => simp [removeLabels, runPatches]
  | cons k ks ih =>
    rw [List.forall_mem_cons] at hplain
    rw [List.nodup_cons] at hks
    refine (ih hplain.2 hks.2 _).trans ?_
    rw [List.forall_mem_cons]
    simp only [LabelPatch.apply, unescape_escape hplain.1,
      Std.ExtTreeMap.contains_eq_isSome_getElem?]
    cases hk : node.1[k]? with
    | none => simp
    | some v =>
      simp only [Option.isSome_some, if_true, true_and]
      refine and_congr_right (fun _ => forall₂_congr (fun k' hk' => ?_))
      have hne : k ≠ k' := fun heq => hks.1 (heq ▸ hk')
      rw [GoMap.getElem?_erase, if_neg hne]

end Patches

section AllLabels

variable {ord : MapOrder} {loop : String} {labels additional : GoMap String} {np : NodePool}

def PlainKeys (labels : GoMap String) : Prop := ∀ k v : String, labels[k]? = some v → Plain k

def userLabel (ord : MapOrder) (loop : String) (labels : GoMap String) (y : String) :
    Option String :=
  (NodePool.userLabels ord loop labels).reverse.lookup (escape y)

theorem mem_userLabels {kv : String × String} :
    kv ∈ NodePool.userLabels ord loop labels
      ↔ ∃ k v, labels[k]? = some v ∧ kv = (escape (sanitise k), sanitise v) := by
  simp only [NodePool.userLabels, List.mem_map, Prod.exists, MapOrder.mem_range, eq_comm]

theorem userLabel_eq_some (hlabels : PlainKeys labels) {y v : String} (hy : Plain y)
    (h : userLabel ord loop labels y = some v) :
    ∃ k w, labels[k]? = some w ∧ sanitise k = y ∧ sanitise w = v := by
  obtain ⟨l₁, l₂, hl, _⟩ := List.lookup_eq_some_iff.mp h
  have hmem : (escape y, v) ∈ NodePool.userLabels ord loop labels := by
    rw [← List.mem_reverse, hl]
    simp
  obtain ⟨k, w, hk, heq⟩ := mem_userLabels.mp hmem
  rw [Prod.mk.injEq] at heq
  exact ⟨k, w, hk, (escape_inj hy (plain_sanitise (hlabels k w hk)) heq.1).symm, heq.2.symm⟩

theorem userLabel_eq_none {y : String} (h : userLabel ord loop labels y = none) {k v : String}
    (hk : labels[k]? = some v) : sanitise k ≠ y := by
  rintro rfl
  have hno := List.lookup_eq_none_iff.mp h (escape (sanitise k), sanitise v)
    (List.mem_reverse.mpr (mem_userLabels.mpr ⟨k, v, hk, rfl⟩))
  simp at hno

theorem userLabel_endingAt {k v : String} (hk : labels[k]? = some v) :
    userLabel (.endingAt k) loop labels (sanitise k) = some (sanitise v) := by
  obtain ⟨rest, hrest⟩ := MapOrder.range_endingAt loop hk
  unfold userLabel NodePool.userLabels
  rw [hrest, List.map_append, List.map_singleton, List.reverse_append, List.reverse_singleton,
    List.singleton_append, List.lookup_cons, beq_self_eq_true]

theorem allLabels_getElem? {k : String} :
    (np.allLabels ord additional)[k]?
      = (np.assignedLabels.reverse.lookup k).or
        (((NodePool.userLabels ord "additional labels" additional).reverse.lookup k).or
          (((NodePool.userLabels ord "labels" np.labels).reverse.lookup k).or
            (np.staticLabels.reverse.lookup k))) := by
  unfold NodePool.allLabels
  simp only [GoMap.getElem?_foldl_insert, Std.ExtTreeMap.getElem?_empty, Option.or_none]

theorem lookup_reverse_isSome {β : Type} {l : List (String × β)} {k : String} :
    (l.reverse.lookup k).isSome = true ↔ k ∈ l.map (·.1) := by
  rw [Option.isSome_iff_ne_none, Ne, List.lookup_eq_none_iff]
  simp only [List.mem_reverse, bne_iff_ne, not_forall, not_not, List.mem_map]
  simp only [exists_prop, eq_comm]

theorem userLabel_isSome (ord : MapOrder) (loop : String) (hlabels : PlainKeys labels)
    {y : String} (hy : Plain y) :
    (userLabel ord loop labels y).isSome = true ↔ ∃ k v, labels[k]? = some v ∧ sanitise k = y := by
  constructor
  · intro h
    obtain ⟨v, hv⟩ := Option.isSome_iff_exists.mp h
    obtain ⟨k, w, hk, hsan, _⟩ := userLabel_eq_some hlabels hy hv
    exact ⟨k, w, hk, hsan⟩
  · rintro ⟨k, v, hk, hsan⟩
    by_contra hnone
    exact userLabel_eq_none (Option.not_isSome_iff_eq_none.mp hnone) hk hsan

theorem labelOf_allLabels {y : String} (hy : Plain y) :
    labelOf (np.allLabels ord additional) y
      = (np.assignedLabels.reverse.lookup (escape y)).or
        ((userLabel ord "additional labels" additional y).or
          ((userLabel ord "labels" np.labels y).or
            (np.staticLabels.reverse.lookup (escape y)))) := by
  rw [labelOf, if_pos hy, allLabels_getElem?]
  rfl

theorem labelOf_allLabels_isSome (np : NodePool) (hlabels : PlainKeys np.labels)
    (hadditional : PlainKeys additional) {y : String} :
    (labelOf (np.allLabels ord additional) y).isSome = true
      ↔ Plain y ∧ (escape y ∈ (np.staticLabels ++ np.assignedLabels).map (·.1)
        ∨ (∃ k v, np.labels[k]? = some v ∧ sanitise k = y)
        ∨ ∃ k v, additional[k]? = some v ∧ sanitise k = y) := by
  by_cases hy : Plain y
  · rw [labelOf_allLabels hy]
    simp only [Option.isSome_or, Bool.or_eq_true, lookup_reverse_isSome,
      userLabel_isSome _ _ hlabels hy, userLabel_isSome _ _ hadditional hy, List.map_append,
      List.mem_append]
    constructor
    · rintro (hassigned | hadditional | huser | hstatic)
      · exact ⟨hy, .inl (.inr hassigned)⟩
      · exact ⟨hy, .inr (.inr hadditional)⟩
      · exact ⟨hy, .inr (.inl huser)⟩
      · exact ⟨hy, .inl (.inl hstatic)⟩
    · rintro ⟨_, (hstatic | hassigned) | huser | hadditional⟩
      · exact .inr (.inr (.inr hstatic))
      · exact .inl hassigned
      · exact .inr (.inr (.inl huser))
      · exact .inr (.inl hadditional)
  · simp [labelOf, hy]

def providerKeys : List String :=
  [LabelKey.providerKey, LabelKey.providerInstanceKey, LabelKey.kubernetesZoneKey,
    LabelKey.kubernetesRegionKey]

def nodeKeys : List String :=
  [LabelKey.nodepoolKey, LabelKey.nodeTypeKey, LabelKey.kubernetesOsKey, LabelKey.kubeoneOsKey]

theorem fixed_keys_subset :
    (np.staticLabels ++ np.assignedLabels).map (·.1)
      ⊆ providerKeys ++ (nodeKeys ++ [LabelKey.spotKey]) := by
  rw [List.map_append, List.append_subset]
  cases htype : np.type with
  | static s =>
    simp only [NodePool.staticLabels, NodePool.assignedLabels, htype]
    exact ⟨List.subset_append_left _ _,
      List.Subset.trans (List.subset_append_left nodeKeys _) (List.subset_append_right _ _)⟩
  | dynamic d =>
    simp only [NodePool.staticLabels, NodePool.assignedLabels, htype, List.map_append]
    refine ⟨List.nil_subset _, List.append_subset.mpr
      ⟨List.Subset.trans (List.subset_append_left nodeKeys _) (List.subset_append_right _ _),
        List.append_subset.mpr ⟨List.subset_append_left providerKeys _, ?_⟩⟩⟩
    split
    next => exact List.Subset.trans (List.subset_append_right nodeKeys _) (List.subset_append_right _ _)
    next => exact List.nil_subset _

theorem fixed_keys {k : String} (h : k ∈ (np.staticLabels ++ np.assignedLabels).map (·.1)) :
    ∃ y, Plain y ∧ escape y = k := by
  have hkeys : providerKeys ++ (nodeKeys ++ [LabelKey.spotKey])
      = ["claudie.io/provider", "claudie.io/provider-instance", "topology.kubernetes.io/zone",
        "topology.kubernetes.io/region", "claudie.io/nodepool", "claudie.io/node-type",
        "kubernetes.io/os", "v1.kubeone.io/operating-system", "claudie.io/spot"].map escape := by
    decide +kernel
  have hmem := fixed_keys_subset h
  rw [hkeys] at hmem
  obtain ⟨y, hy, rfl⟩ := List.mem_map.mp hmem
  exact ⟨y, (by decide : ∀ y ∈ _, Plain y) y hy, rfl⟩

theorem escaped_allLabels (np : NodePool) (hlabels : PlainKeys np.labels)
    (hadditional : PlainKeys additional) :
    Escaped (np.allLabels ord additional) := by
  intro k v hk
  have hmem : ∀ {l : List (String × String)}, l.reverse.lookup k = some v → (k, v) ∈ l := by
    intro l h
    obtain ⟨l₁, l₂, hl, _⟩ := List.lookup_eq_some_iff.mp h
    rw [← List.mem_reverse, hl]
    simp
  have huser : ∀ {loop labels}, PlainKeys labels → (k, v) ∈ NodePool.userLabels ord loop labels →
      ∃ y, Plain y ∧ escape y = k := by
    intro loop labels hplain h
    obtain ⟨k', v', hk', heq⟩ := mem_userLabels.mp h
    rw [Prod.mk.injEq] at heq
    exact ⟨_, plain_sanitise (hplain k' v' hk'), heq.1.symm⟩
  rw [allLabels_getElem?] at hk
  simp only [Option.or_eq_some_iff] at hk
  obtain h | ⟨_, h | ⟨_, h | ⟨_, h⟩⟩⟩ := hk
  · exact fixed_keys (List.mem_map.mpr ⟨(k, v), List.mem_append_right _ (hmem h), rfl⟩)
  · exact huser hadditional (hmem h)
  · exact huser hlabels (hmem h)
  · exact fixed_keys (List.mem_map.mpr ⟨(k, v), List.mem_append_left _ (hmem h), rfl⟩)

end AllLabels

section Change

variable {ord : MapOrder} {np : NodePool} {l₁ l₂ : GoMap String} {k : String}

def withLabels (np : NodePool) (labels : GoMap String) : NodePool := { np with labels }

def labelPatch (ord : MapOrder) (np : NodePool) (l₁ l₂ : GoMap String) : Patch :=
  let diff := Manager.labelsTaintsAnnotationsDiff ord [withLabels np l₁] [withLabels np l₂]
  ⟨diff.added, diff.deleted⟩

theorem labelPatch_remove :
    (labelPatch ord np l₁ l₂).remove.labels.getD np.name []
      = Manager.missingKeys ord "deleted labels" l₁ l₂ := by
  simp only [labelPatch, Manager.labelsTaintsAnnotationsDiff, List.foldl_cons, List.foldl_nil,
    NodePools.findByName, withLabels, List.find?_cons_of_pos, decide_true,
    Std.ExtTreeMap.getD_eq_getD_getElem?, GoMap.getElem?_appendAt]
  by_cases hnil : Manager.missingKeys ord "deleted labels" l₁ l₂ = [] <;> simp [hnil]

def Removed (l₁ l₂ : GoMap String) (k : String) : Prop := l₁[k]?.isSome = true ∧ l₂[k]? = none

instance : Decidable (Removed l₁ l₂ k) := inferInstanceAs (Decidable (_ ∧ _))

theorem mem_labelPatch_remove {k : String} :
    k ∈ (labelPatch ord np l₁ l₂).remove.labels.getD np.name [] ↔ Removed l₁ l₂ k := by
  rw [labelPatch_remove, Manager.mem_missingKeys, Removed, Option.isSome_iff_exists]

theorem nodup_labelPatch_remove :
    ((labelPatch ord np l₁ l₂).remove.labels.getD np.name []).Nodup := by
  rw [labelPatch_remove]
  exact (MapOrder.nodup_keys_range ord).sublist (List.filter_sublist.map _)

theorem labelPatch_add (ord : MapOrder) (np : NodePool) {k v : String} :
    ((labelPatch ord np l₁ l₂).add.labels.getD np.name ∅)[k]? = some v
      ↔ l₂[k]? = some v ∧ l₁[k]? ≠ some v := by
  simp only [labelPatch, Manager.labelsTaintsAnnotationsDiff, List.foldl_cons, List.foldl_nil,
    NodePools.findByName, withLabels, List.find?_cons_of_pos, decide_true,
    Manager.getElem?_insertEntries, Manager.changedEntries]
  simp

/--
However the maps are iterated over and the patches are interleaved, a node that has exactly the
labels for `l₁` ends up with exactly the labels for `l₂`, and no patch fails.
-/
def PatchesLabels (np : NodePool) (l₁ l₂ : GoMap String) : Prop :=
  ∀ (ord ord₁ ord₂ : MapOrder) (after : GoMap String × Bool),
    PatchRun ord (labelPatch ord np l₁ l₂) (withLabels np l₁)
      (onNode ((withLabels np l₁).allLabels ord₁ ∅)) after →
    after = (onNode ((withLabels np l₂).allLabels ord₂ ∅), true)

structure Removable (np : NodePool) (labels : GoMap String) (k : String) : Prop where
  sanitised : sanitise k = k
  own : escape k ∉ (np.staticLabels ++ np.assignedLabels).map (·.1)
  others : ∀ k' v' : String, labels[k']? = some v' → sanitise k' ≠ k

def UnambiguousLabels (np : NodePool) (labels : GoMap String) : Prop :=
  ∀ k v k' v' : String, labels[k]? = some v → labels[k']? = some v' → sanitise k = sanitise k' →
    escape (sanitise k) ∉ np.assignedLabels.map (·.1) → sanitise v = sanitise v'

theorem plainKeys_empty : PlainKeys ∅ := by
  intro k v hk
  simp at hk

theorem plainKeys_add (h₂ : PlainKeys l₂) :
    PlainKeys ((labelPatch ord np l₁ l₂).add.labels.getD np.name ∅) :=
  fun k v hk => h₂ k v ((labelPatch_add ord np).mp hk).1

def labelsSet (ord : MapOrder) (np : NodePool) (l₁ l₂ : GoMap String) (y : String) :
    Option String :=
  labelOf ((withLabels np l₁).allLabels ord ((labelPatch ord np l₁ l₂).add.labels.getD np.name ∅)) y

theorem labelsSet_isSome (h₁ : PlainKeys l₁) (h₂ : PlainKeys l₂) {y : String} :
    (labelsSet ord np l₁ l₂ y).isSome = true
      ↔ Plain y ∧ (escape y ∈ (np.staticLabels ++ np.assignedLabels).map (·.1)
        ∨ (∃ k v, l₁[k]? = some v ∧ sanitise k = y)
        ∨ ∃ k v, (l₂[k]? = some v ∧ l₁[k]? ≠ some v) ∧ sanitise k = y) := by
  simp only [← labelPatch_add ord np]
  exact labelOf_allLabels_isSome (withLabels np l₁) h₁ (plainKeys_add h₂)

-- Nothing is left of the labels that the node had before.
theorem labelsSet_or (h₁ : PlainKeys l₁) (h₂ : PlainKeys l₂) {ord₁ : MapOrder} {y : String} :
    (labelsSet ord np l₁ l₂ y).or (labelOf ((withLabels np l₁).allLabels ord₁ ∅) y)
      = labelsSet ord np l₁ l₂ y := by
  cases hset : labelsSet ord np l₁ l₂ y with
  | some v => rfl
  | none =>
    rw [Option.none_or, ← Option.not_isSome_iff_eq_none,
      labelOf_allLabels_isSome (withLabels np l₁) h₁ plainKeys_empty]
    rw [← Option.not_isSome_iff_eq_none, labelsSet_isSome h₁ h₂] at hset
    rintro ⟨hy, hfixed | huser | ⟨k, v, hk, _⟩⟩
    · exact hset ⟨hy, .inl hfixed⟩
    · exact hset ⟨hy, .inr (.inl huser)⟩
    · simp at hk

theorem patchRun_cases (h₁ : PlainKeys l₁) (h₂ : PlainKeys l₂) {ord₁ : MapOrder}
    {after : GoMap String × Bool}
    (h : PatchRun ord (labelPatch ord np l₁ l₂) (withLabels np l₁)
      (onNode ((withLabels np l₁).allLabels ord₁ ∅)) after) :
    (∀ y : String, after.1[y]?
        = if Removed l₁ l₂ y then none else labelsSet ord np l₁ l₂ y)
      ∧ (after.2 = true ↔ ∀ k, Removed l₁ l₂ k → (labelsSet ord np l₁ l₂ k).isSome = true) := by
  obtain ⟨nodeLabels, toRemove, hset, hremove⟩ := h
  have hmem : ∀ {k}, k ∈ toRemove ↔ Removed l₁ l₂ k := hremove.mem_iff.trans mem_labelPatch_remove
  have hplain : ∀ k ∈ toRemove, Plain k := by
    intro k hk
    obtain ⟨v, hv⟩ := Option.isSome_iff_exists.mp (hmem.mp hk).1
    exact h₁ k v hv
  have hnodup : toRemove.Nodup := hremove.nodup_iff.mpr nodup_labelPatch_remove
  have hnode : ∀ y, (runPatches (labelNodePool nodeLabels)
      (onNode ((withLabels np l₁).allLabels ord₁ ∅), true)).1[y]? = labelsSet ord np l₁ l₂ y := by
    intro y
    rw [runPatches_labelNodePool, getElem?_set hset
      (escaped_allLabels (withLabels np l₁) h₁ (plainKeys_add h₂)),
      getElem?_onNode (escaped_allLabels (withLabels np l₁) h₁ plainKeys_empty)]
    exact labelsSet_or h₁ h₂
  refine ⟨fun y => ?_, ?_⟩
  · rw [runPatches_removeLabels_fst hplain, GoMap.getElem?_foldl_erase, hnode]
    simp only [hmem]
  · rw [runPatches_removeLabels_snd hplain hnodup]
    simp only [hnode, hmem]
    exact and_iff_right (by rw [runPatches_labelNodePool])

theorem exists_patchRun (ord : MapOrder) (patch : Patch) (np : NodePool) (before : GoMap String) :
    ∃ after, PatchRun ord patch np before after :=
  ⟨_, .run _ _ (.refl _) (.refl _)⟩

def labelsWanted (ord : MapOrder) (np : NodePool) (labels : GoMap String) (y : String) :
    Option String :=
  labelOf ((withLabels np labels).allLabels ord ∅) y

theorem labelsWanted_isSome (h₂ : PlainKeys l₂) {y : String} :
    (labelsWanted ord np l₂ y).isSome = true
      ↔ Plain y ∧ (escape y ∈ (np.staticLabels ++ np.assignedLabels).map (·.1)
        ∨ ∃ k v, l₂[k]? = some v ∧ sanitise k = y) := by
  refine (labelOf_allLabels_isSome (withLabels np l₂) h₂ plainKeys_empty).trans ?_
  simp [withLabels, NodePool.staticLabels, NodePool.assignedLabels, NodePool.getNodeType]

theorem patchesLabels_iff (h₁ : PlainKeys l₁) (h₂ : PlainKeys l₂) :
    PatchesLabels np l₁ l₂ ↔ ∀ ord ord₂ : MapOrder,
      (∀ y, (if Removed l₁ l₂ y then none else labelsSet ord np l₁ l₂ y)
        = labelsWanted ord₂ np l₂ y)
      ∧ ∀ k, Removed l₁ l₂ k → (labelsSet ord np l₁ l₂ k).isSome = true := by
  have hwanted : ∀ ord₂ y, (onNode ((withLabels np l₂).allLabels ord₂ ∅))[y]?
      = labelsWanted ord₂ np l₂ y := fun ord₂ y =>
    getElem?_onNode (escaped_allLabels (withLabels np l₂) h₂ plainKeys_empty)
  constructor
  · intro h ord ord₂
    obtain ⟨after, hrun⟩ := exists_patchRun ord (labelPatch ord np l₁ l₂) (withLabels np l₁)
      (onNode ((withLabels np l₁).allLabels ord ∅))
    obtain ⟨hlabels, hok⟩ := patchRun_cases h₁ h₂ hrun
    have hafter := h ord ord ord₂ after hrun
    subst hafter
    exact ⟨fun y => (hlabels y).symm.trans (hwanted ord₂ y), hok.mp rfl⟩
  · intro h ord ord₁ ord₂ after hrun
    obtain ⟨hlabels, hok⟩ := patchRun_cases h₁ h₂ hrun
    refine Prod.ext (Std.ExtTreeMap.ext_getElem? (fun y => ?_)) (hok.mpr (h ord ord₂).2)
    rw [hlabels, hwanted, (h ord ord₂).1]

theorem removable_of_patchesLabels (h₁ : PlainKeys l₁) (h₂ : PlainKeys l₂)
    (h : PatchesLabels np l₁ l₂) (hk : Removed l₁ l₂ k) : Removable np l₂ k := by
  obtain ⟨hlabels, hset⟩ := (patchesLabels_iff h₁ h₂).mp h .ascending .ascending
  have hplain : Plain k := by
    obtain ⟨v, hv⟩ := Option.isSome_iff_exists.mp hk.1
    exact h₁ k v hv
  have hgone := hlabels k
  rw [if_pos hk, eq_comm, ← Option.not_isSome_iff_eq_none, labelsWanted_isSome h₂] at hgone
  have hothers : ∀ k' v' : String, l₂[k']? = some v' → sanitise k' ≠ k :=
    fun k' v' hk' hsan => hgone ⟨hplain, .inr ⟨k', v', hk', hsan⟩⟩
  refine ⟨?_, fun hfixed => hgone ⟨hplain, .inl hfixed⟩, hothers⟩
  obtain ⟨_, hfixed | ⟨k', v', _, rfl⟩ | ⟨k', v', ⟨hk', _⟩, hsan⟩⟩ :=
    (labelsSet_isSome h₁ h₂).mp (hset k hk)
  · exact absurd ⟨hplain, .inl hfixed⟩ hgone
  · exact sanitise_sanitise k'
  · exact absurd hsan (hothers k' v' hk')

theorem labelsWanted_eq {y : String} (hy : Plain y) :
    labelsWanted ord np l₂ y = (np.assignedLabels.reverse.lookup (escape y)).or
      ((userLabel ord "labels" l₂ y).or (np.staticLabels.reverse.lookup (escape y))) := by
  have hadditional : userLabel ord "additional labels" ∅ y = none := by
    rw [← Option.not_isSome_iff_eq_none, userLabel_isSome _ _ plainKeys_empty hy]
    simp
  refine (labelOf_allLabels hy).trans ?_
  rw [hadditional, Option.none_or]
  rfl

theorem labelsWanted_endingAt (h₂ : PlainKeys l₂) {v : String} (hk : l₂[k]? = some v)
    (hassigned : escape (sanitise k) ∉ np.assignedLabels.map (·.1)) :
    labelsWanted (.endingAt k) np l₂ (sanitise k) = some (sanitise v) := by
  rw [← lookup_reverse_isSome, Option.not_isSome_iff_eq_none] at hassigned
  rw [labelsWanted_eq (plain_sanitise (h₂ k v hk)), hassigned, Option.none_or,
    userLabel_endingAt hk, Option.some_or]

theorem unambiguous_of_patchesLabels (h₁ : PlainKeys l₁) (h₂ : PlainKeys l₂)
    (h : PatchesLabels np l₁ l₂) : UnambiguousLabels np l₂ := by
  intro k v k' v' hk hk' hsan hassigned
  have hlabels := fun ord₂ => ((patchesLabels_iff h₁ h₂).mp h .ascending ord₂).1 (sanitise k)
  have heq := (hlabels (.endingAt k)).symm.trans (hlabels (.endingAt k'))
  rw [labelsWanted_endingAt h₂ hk hassigned, hsan,
    labelsWanted_endingAt h₂ hk' (hsan ▸ hassigned)] at heq
  exact Option.some.inj heq

-- A label of the user that is set and not removed is one of the changed nodepool.
theorem exists_label_of_set (h₁ : PlainKeys l₁) (h₂ : PlainKeys l₂)
    (hremovable : ∀ k, Removed l₁ l₂ k → Removable np l₂ k) {y v : String} (hplain : Plain y)
    (hy : ¬ Removed l₁ l₂ y)
    (h : (userLabel ord "additional labels" ((labelPatch ord np l₁ l₂).add.labels.getD np.name ∅)
      y).or (userLabel ord "labels" l₁ y) = some v) :
    ∃ k w, l₂[k]? = some w ∧ sanitise k = y ∧ sanitise w = v := by
  rw [Option.or_eq_some_iff] at h
  obtain hadd | ⟨hadd, hold⟩ := h
  · obtain ⟨k, w, hk, hsan⟩ := userLabel_eq_some (plainKeys_add h₂) hplain hadd
    exact ⟨k, w, ((labelPatch_add ord np).mp hk).1, hsan⟩
  · obtain ⟨k, w, hk, rfl, hw⟩ := userLabel_eq_some h₁ hplain hold
    have hkept : ¬ Removed l₁ l₂ k := by
      intro hremoved
      rw [(hremovable k hremoved).sanitised] at hy
      exact hy hremoved
    cases hnew : l₂[k]? with
    | none => exact absurd ⟨Option.isSome_iff_exists.mpr ⟨w, hk⟩, hnew⟩ hkept
    | some w' =>
      have hsame : l₁[k]? = some w' := by
        by_contra hne
        exact userLabel_eq_none hadd ((labelPatch_add ord np).mpr ⟨hnew, hne⟩) rfl
      rw [hk, Option.some.injEq] at hsame
      exact ⟨k, w', hnew, rfl, hsame ▸ hw⟩

theorem set_isSome_of_label (ord : MapOrder) (np : NodePool) (l₁ : GoMap String) {v : String}
    (hk : l₂[k]? = some v) :
    ((userLabel ord "additional labels" ((labelPatch ord np l₁ l₂).add.labels.getD np.name ∅)
      (sanitise k)).or (userLabel ord "labels" l₁ (sanitise k))).isSome = true := by
  by_contra hnone
  rw [Option.not_isSome_iff_eq_none, Option.or_eq_none_iff] at hnone
  by_cases hold : l₁[k]? = some v
  · exact userLabel_eq_none hnone.2 hold rfl
  · exact userLabel_eq_none hnone.1 ((labelPatch_add ord np).mpr ⟨hk, hold⟩) rfl

theorem labelsSet_eq_labelsWanted (h₁ : PlainKeys l₁) (h₂ : PlainKeys l₂)
    (hremovable : ∀ k, Removed l₁ l₂ k → Removable np l₂ k) (hsame : UnambiguousLabels np l₂)
    {ord₂ : MapOrder} {y : String} (hy : ¬ Removed l₁ l₂ y) :
    labelsSet ord np l₁ l₂ y = labelsWanted ord₂ np l₂ y := by
  by_cases hplain : Plain y
  · have hset : labelsSet ord np l₁ l₂ y = (np.assignedLabels.reverse.lookup (escape y)).or
        (((userLabel ord "additional labels" ((labelPatch ord np l₁ l₂).add.labels.getD np.name ∅)
          y).or (userLabel ord "labels" l₁ y)).or (np.staticLabels.reverse.lookup (escape y))) := by
      rw [Option.or_assoc]
      exact labelOf_allLabels hplain
    rw [hset, labelsWanted_eq hplain]
    cases hassigned : np.assignedLabels.reverse.lookup (escape y) with
    | some v => rfl
    | none =>
      rw [← Option.not_isSome_iff_eq_none, lookup_reverse_isSome] at hassigned
      congr 2
      refine Option.ext (fun v => ⟨fun h => ?_, fun h => ?_⟩)
      · obtain ⟨k, w, hk, rfl, rfl⟩ := exists_label_of_set h₁ h₂ hremovable hplain hy h
        obtain ⟨v', hv'⟩ := Option.isSome_iff_exists.mp
          ((userLabel_isSome ord₂ "labels" h₂ hplain).mpr ⟨k, w, hk, rfl⟩)
        obtain ⟨k', w', hk', hsan, rfl⟩ := userLabel_eq_some h₂ hplain hv'
        rw [hv', hsame k w k' w' hk hk' hsan.symm hassigned]
      · obtain ⟨k, w, hk, rfl, rfl⟩ := userLabel_eq_some h₂ hplain h
        obtain ⟨v', hv'⟩ := Option.isSome_iff_exists.mp (set_isSome_of_label ord np l₁ hk)
        obtain ⟨k', w', hk', hsan, rfl⟩ := exists_label_of_set h₁ h₂ hremovable hplain hy hv'
        rw [hv', hsame k w k' w' hk hk' hsan.symm hassigned]
  · simp [labelsSet, labelsWanted, labelOf, hplain]

variable (np l₁ l₂)

theorem patched_labels_iff (hl₁ : Manifest.checkLabels l₁ = true)
    (hl₂ : Manifest.checkLabels l₂ = true) :
    PatchesLabels np l₁ l₂
      ↔ (∀ k, Removed l₁ l₂ k → Removable np l₂ k) ∧ UnambiguousLabels np l₂ := by
  have h₁ : PlainKeys l₁ := fun k v => Manifest.plain_of_checkLabels hl₁
  have h₂ : PlainKeys l₂ := fun k v => Manifest.plain_of_checkLabels hl₂
  constructor
  · exact fun h => ⟨fun k => removable_of_patchesLabels h₁ h₂ h,
      unambiguous_of_patchesLabels h₁ h₂ h⟩
  · rintro ⟨hremovable, hsame⟩
    refine (patchesLabels_iff h₁ h₂).mpr (fun ord ord₂ => ⟨fun y => ?_, fun k hk => ?_⟩)
    · split
      next hy =>
        have hgone := hremovable y hy
        rw [eq_comm, ← Option.not_isSome_iff_eq_none, labelsWanted_isSome h₂]
        rintro ⟨_, hfixed | ⟨k, v, hk, hsan⟩⟩
        · exact hgone.own hfixed
        · exact hgone.others k v hk hsan
      next hy => exact labelsSet_eq_labelsWanted h₁ h₂ hremovable hsame hy
    · obtain ⟨v, hv⟩ := Option.isSome_iff_exists.mp hk.1
      rw [labelsSet_isSome h₁ h₂]
      exact ⟨h₁ k v hv, .inr (.inl ⟨k, v, hv, (hremovable k hk).sanitised⟩)⟩

end Change

namespace Demo

def np : NodePool := ⟨.static ⟨∅⟩, "owned", [], false, ∅, [], ∅, 22⟩

def tier : GoMap String := .ofList [("tier", "web")]

def underscored : GoMap String := .ofList [("my_tier", "web")]

theorem underscored_plain : PlainKeys underscored :=
  fun _ _ => Manifest.plain_of_checkLabels (by decide)

end Demo

theorem patched_labels_of_removal : PatchesLabels Demo.np Demo.tier ∅ := by
  refine (patched_labels_iff Demo.np Demo.tier ∅ (by decide +kernel)
    (by decide +kernel)).mpr ⟨?_, ?_⟩
  · intro k hk
    have hkey : "tier" = k := by
      simpa [Demo.tier] using Std.ExtTreeMap.isSome_getElem?_iff_mem.mp hk.1
    subst hkey
    exact ⟨by decide +kernel, by decide +kernel, by simp⟩
  · intro k v k' v' hk
    simp at hk

/--
The label is set as `my-tier`, so that there is no `my_tier` to remove.
-/
theorem underscored_label_not_removed :
    Manifest.checkLabels Demo.underscored = true
      ∧ ∃ ord after, PatchRun ord (labelPatch ord Demo.np Demo.underscored ∅)
          (withLabels Demo.np Demo.underscored)
          (onNode ((withLabels Demo.np Demo.underscored).allLabels ord ∅)) after
        ∧ after.2 = false ∧ after.1["my-tier"]? = some "web"
        ∧ ¬ PatchesLabels Demo.np Demo.underscored ∅ := by
  obtain ⟨after, hrun⟩ := exists_patchRun .ascending
    (labelPatch .ascending Demo.np Demo.underscored ∅) (withLabels Demo.np Demo.underscored)
    (onNode ((withLabels Demo.np Demo.underscored).allLabels .ascending ∅))
  obtain ⟨hlabels, hok⟩ := patchRun_cases Demo.underscored_plain plainKeys_empty hrun
  have hset : labelsSet .ascending Demo.np Demo.underscored ∅ "my-tier" = some "web"
      ∧ labelsSet .ascending Demo.np Demo.underscored ∅ "my_tier" = none := by
    decide +kernel
  have hremoved : Removed Demo.underscored ∅ "my_tier" := by decide +kernel
  have hfails : after.2 = false := by
    rw [← Bool.not_eq_true, hok]
    intro hall
    have := hall "my_tier" hremoved
    rw [hset.2] at this
    cases this
  refine ⟨by decide +kernel, .ascending, after, hrun, hfails, ?_, fun h => ?_⟩
  · rw [hlabels, if_neg (by decide +kernel), hset.1]
  · rw [h .ascending .ascending .ascending after hrun] at hfails
    cases hfails

end Kuber

end Claudie
