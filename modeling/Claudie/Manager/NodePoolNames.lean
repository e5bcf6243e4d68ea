import Claudie.Manager.Lemmas.DesiredState

/-!
The names that `resolveDynamicNodePoolReferences` gives to the nodepools of the desired state.

A hash that is drawn and in use already is not drawn again: the loop that should do so never ends.
And a nodepool that was given its name is taken for a reference once more if this name happens to be
the one of a nodepool that comes later in the manifest.
-/

namespace Claudie

namespace Manager

open NodePools (fullName HashLike)

structure ReferencesTo (types : List String) (ss : List Slot) : Prop where
  dynamic : ∀ s ∈ ss, s.2.isDynamic = true → s.2.name ∈ types
  static : ∀ s ∈ ss, s.2.name ∈ types → s.2.isDynamic = true
  templates : ∀ s ∈ ss, ∀ s' ∈ ss, s.2.isDynamic = true → s'.2.name = s.2.name →
    s'.2.templates = s.2.templates

def currentNames (current : Clusters) : List String := (currentSlots current).map (·.2.name)

def staticNames (ss : List Slot) : List String :=
  (ss.filter (fun s => !s.2.isDynamic)).map (·.2.name)

def references (ss : List Slot) (t : String) (role : PoolRole) : Nat :=
  ss.countP (fun s => s.1 = role && isReference t s.2)

structure Resolved (current : Clusters) (ss ss' : List Slot) : Prop where
  static : ∀ (i : Nat) (s : Slot), ss[i]? = some s → s.2.isDynamic = false → ss'[i]? = some s
  named : ∀ (i : Nat) (s : Slot), ss[i]? = some s → s.2.isDynamic = true →
    ∃ h, HashLike h ∧ ss'[i]? = some (s.1, s.2.appendHash h)
  distinct : ∀ (i j : Nat) (s s' : Slot), i ≠ j → ss'[i]? = some s → ss'[j]? = some s' →
    s.2.isDynamic = true → s.2.name ≠ s'.2.name
  -- a name of the current state stays with the type and the role of its nodepool.
  kept : ∀ (i : Nat) (s s' c : Slot), ss[i]? = some s → ss'[i]? = some s' →
    s.2.isDynamic = true → c ∈ currentSlots current → c.2.name = s'.2.name →
    c.1 = s.1 ∧ c.2 ∈ matching current s.2.name s.1
  reused : ∀ (t : String) (role : PoolRole),
    (ss.zip ss').countP (fun p => p.1.1 = role && isReference t p.1.2
        && (currentNames current).contains p.2.2.name)
      = min (references ss t role) (matching current t role).length
  -- other templates are put up with only if those with the same ones are all taken.
  preferred : ∀ (i : Nat) (s s' c : Slot) (e : NodePool), ss[i]? = some s → ss'[i]? = some s' →
    s.2.isDynamic = true → c ∈ currentSlots current → c.2.name = s'.2.name →
    c.2.templates ≠ s.2.templates → e ∈ matching current s.2.name s.1 →
    e.templates = s.2.templates → ∃ j < i, ∃ s'', ss'[j]? = some s'' ∧ s''.2.name = e.name

def reusedNodePools (current : Clusters) (ss : List Slot) (t : String) (role : PoolRole) :
    List NodePool :=
  (Matching.preferredFirst
    (fun e => ss.any (fun s => isReference t s.2 && decide (e.templates = s.2.templates)))
    (matching current t role)).take (references ss t role)

def unmatched (current : Clusters) (ss : List Slot) (t : String) : Nat :=
  ((ss.map (·.1)).dedup.map (fun role =>
    references ss t role - (matching current t role).length)).sum

def newNames (gen : Generator) (current : Clusters) (ss : List Slot) (t : String) (drawn : Nat) :
    List String :=
  (gen.draws drawn (unmatched current ss t)).map (fullName t)

def assignedNames (gen : Generator) (current : Clusters) (ss : List Slot) (t : String)
    (drawn : Nat) : List String :=
  ((ss.map (·.1)).dedup.flatMap (reusedNodePools current ss t)).map (·.name)
    ++ newNames gen current ss t drawn

/--
The hashes that are drawn for a type are all different and not in use, and none of the names
belongs to a nodepool that comes later in the manifest, or to a static one of the cluster.
-/
def Resolvable (gen : Generator) (current : Clusters) (ss : List Slot) :
    Nat → List String → Prop
  | _, [] => True
  | drawn, t :: types =>
    (newNames gen current ss t drawn).Nodup
      ∧ (∀ name ∈ newNames gen current ss t drawn, name ∉ currentNames current)
      ∧ (∀ name ∈ assignedNames gen current ss t drawn, name ∉ types ∧ name ∉ staticNames ss)
      ∧ Resolvable gen current ss (drawn + unmatched current ss t) types

section TypeOfNodePools

variable {gen : Generator} {current : Clusters} {types : List String} {t : String} {drawn : Nat}
  {ss : List Slot}

theorem isReference_iff {np : NodePool} :
    isReference t np = true ↔ np.isDynamic = true ∧ np.name = t := by
  unfold isReference
  rw [Bool.and_eq_true, decide_eq_true_eq]

theorem isNamed_eq_isReference (hrefs : ReferencesTo types ss) (ht : t ∈ types) {s : Slot}
    (hs : s ∈ ss) : isNamed t s.2 = isReference t s.2 := by
  unfold isNamed isReference
  by_cases hname : s.2.name = t
  · rw [hrefs.static s hs (hname ▸ ht), Bool.true_and]
  · rw [decide_eq_false hname, Bool.and_false]

theorem leftFor_eq_unmatched (hrefs : ReferencesTo types ss) (ht : t ∈ types) :
    leftFor current t ss = unmatched current ss t := by
  unfold unmatched references
  rw [← Matching.countP_unassigned]
  refine List.countP_congr (fun p hp => ?_)
  rw [isLeft, isNamed_eq_isReference hrefs ht (List.of_mem_zip hp).1]

theorem assigned_eq_reusedNodePools (hrefs : ReferencesTo types ss) (role : PoolRole) :
    (ss.zip (carried t (matching current t) ss)).filterMap
        (fun p => if p.1.1 = role then p.2 else none)
      = reusedNodePools current ss t role := by
  refine Matching.assigned_eq_take (fun s hs _ href => funext (fun e => ?_))
  obtain ⟨hdynamic, hname⟩ := isReference_iff.mp href
  rw [Bool.eq_iff_iff, decide_eq_true_eq, List.any_eq_true]
  constructor
  · intro heq
    exact ⟨s, hs, by rw [href, decide_eq_true heq]; rfl⟩
  · rintro ⟨s', hs', h⟩
    rw [Bool.and_eq_true, decide_eq_true_eq] at h
    have hname' := (isReference_iff.mp h.1).2
    exact h.2.trans (hrefs.templates s hs s' hs' hdynamic (hname'.trans hname.symm))

theorem mem_reusedNodePools (hrefs : ReferencesTo types ss) {role : PoolRole} {e : NodePool} :
    e ∈ reusedNodePools current ss t role
      ↔ ∃ (i : Nat) (s : Slot), ss[i]? = some s ∧ s.1 = role
        ∧ (carried t (matching current t) ss)[i]? = some (some e) := by
  rw [← assigned_eq_reusedNodePools hrefs, List.mem_filterMap]
  constructor
  · rintro ⟨⟨s, o⟩, hmem, h⟩
    obtain ⟨i, hi⟩ := List.mem_iff_getElem?.mp hmem
    obtain ⟨hs, ho⟩ := List.getElem?_zip_eq_some.mp hi
    dsimp only at h
    split at h
    next hrole => exact ⟨i, s, hs, hrole, h ▸ ho⟩
    next => cases h
  · rintro ⟨i, s, hs, hrole, he⟩
    refine ⟨(s, some e), List.mem_of_getElem? (List.getElem?_zip_eq_some.mpr ⟨hs, he⟩), ?_⟩
    exact if_pos hrole

theorem mem_assignedNames (hrefs : ReferencesTo types ss) (ht : t ∈ types) {name : String} :
    name ∈ assignedNames gen current ss t drawn
      ↔ ∃ (i : Nat) (s : Slot) (h : String), ss[i]? = some s ∧ isReference t s.2 = true
        ∧ (hashesFor gen current t drawn ss)[i]? = some (some h) ∧ name = fullName t h := by
  unfold assignedNames newNames
  rw [List.mem_append, List.mem_map, List.mem_map, ← leftFor_eq_unmatched hrefs ht]
  constructor
  · rintro (⟨e, he, rfl⟩ | ⟨h, hh, rfl⟩)
    · obtain ⟨role, -, he⟩ := List.mem_flatMap.mp he
      obtain ⟨i, s, hs, -, hcarried⟩ := (mem_reusedNodePools hrefs).mp he
      obtain ⟨href, hmatch⟩ := carried_getElem? hs hcarried
      obtain ⟨h, hh, ⟨e', he', rfl⟩ | ⟨hnone, -⟩⟩ := hashesFor_of_reference gen current drawn hs href
      · rw [hcarried] at he'
        cases he'
        exact ⟨i, s, _, hs, href, hh, (name_of_hashFor (mem_matching.mp hmatch).2.2).1⟩
      · rw [hcarried] at hnone
        cases hnone
    · obtain ⟨i, hi⟩ := mem_draws_iff.mp hh
      obtain ⟨s, hs, hnone, hname⟩ := isLeft_of_distribute hi
      have href : isReference t s.2 = true := by
        rw [← isNamed_eq_isReference hrefs ht (List.mem_of_getElem? hs)]
        exact decide_eq_true hname
      obtain ⟨h', hh', ⟨e, he, -⟩ | ⟨-, hi'⟩⟩ := hashesFor_of_reference gen current drawn hs href
      · rw [hnone] at he
        cases he
      · rw [hi] at hi'
        cases hi'
        exact ⟨i, s, h, hs, href, hh', rfl⟩
  · rintro ⟨i, s, h, hs, href, hh, rfl⟩
    obtain ⟨h', hh', hcase⟩ := hashesFor_of_reference gen current drawn hs href
    rw [hh] at hh'
    cases hh'
    rcases hcase with ⟨e, he, rfl⟩ | ⟨-, hi⟩
    · have hmatch := (carried_getElem? hs he).2
      refine .inl ⟨e, List.mem_flatMap.mpr ⟨s.1, ?_, ?_⟩,
        (name_of_hashFor (mem_matching.mp hmatch).2.2).1⟩
      · exact List.mem_dedup.mpr (List.mem_map_of_mem (List.mem_of_getElem? hs))
      · exact (mem_reusedNodePools hrefs).mpr ⟨i, s, hs, rfl, he⟩
    · exact .inr ⟨h, mem_draws_iff.mpr ⟨i, hi⟩, rfl⟩

end TypeOfNodePools

section Run

variable {fuel : Nat} {gen : Generator} {current : Clusters} {types all : List String} {t : String}
  {drawn drawn' : Nat} {ss : List Slot} {desired result : DesiredCluster}

def UnchangedFor (types : List String) (s₀ s : Slot) : Prop :=
  (∀ t ∈ types, SameFor t s₀ s) ∧ (s₀.2.name ∈ types → s = s₀)

theorem unchangedFor_refl (types : List String) (ss : List Slot) :
    List.Forall₂ (UnchangedFor types) ss ss :=
  List.forall₂_same.mpr (fun _ _ => ⟨fun _ _ => ⟨rfl, rfl, rfl, rfl⟩, fun _ => rfl⟩)

theorem resolvedSlots_of_stage (hstage : List.Forall₂ (UnchangedFor (t :: types)) ss desired.slots) :
    resolvedSlots gen current t drawn desired.slots
      = List.zipWith freshSlot desired.slots (hashesFor gen current t drawn ss) := by
  have hsame : List.Forall₂ (SameFor t) ss desired.slots :=
    hstage.imp (fun _ _ h => h.1 t List.mem_cons_self)
  rw [resolvedSlots_eq, hashesFor_congr hsame]

theorem leftFor_of_stage (hstage : List.Forall₂ (UnchangedFor (t :: types)) ss desired.slots) :
    leftFor current t desired.slots = leftFor current t ss :=
  (leftFor_congr (hstage.imp (fun _ _ h => h.1 t List.mem_cons_self))).symm

theorem isDynamic_appendHash (np : NodePool) (h : String) :
    (np.appendHash h).isDynamic = np.isDynamic := rfl

theorem unchangedFor_step (hrefs : ReferencesTo all ss) (ht : t ∈ all) (hnot : t ∉ types)
    (hstage : List.Forall₂ (UnchangedFor (t :: types)) ss desired.slots)
    (hclash : ∀ name ∈ assignedNames gen current ss t drawn, name ∉ types) :
    List.Forall₂ (UnchangedFor types) ss
      (List.zipWith freshSlot desired.slots (hashesFor gen current t drawn ss)) := by
  rw [List.forall₂_iff_getElem?] at hstage ⊢
  obtain ⟨hlength, hstage⟩ := hstage
  refine ⟨?_, fun i s₀ s' hs₀ hs' => ?_⟩
  · rw [List.length_zipWith, length_hashesFor, ← hlength, Nat.min_self]
  · obtain ⟨s, o, hs, ho, rfl⟩ := List.getElem?_zipWith_eq_some.mp hs'
    obtain ⟨hsame, heq⟩ := hstage i s₀ s hs₀ hs
    by_cases hname : s₀.2.name = t
    · obtain rfl := heq (hname ▸ List.mem_cons_self)
      have href : isReference t s.2 = true :=
        isReference_iff.mpr ⟨hrefs.static s (List.mem_of_getElem? hs₀) (hname ▸ ht), hname⟩
      obtain ⟨h, hh, -⟩ := hashesFor_of_reference gen current drawn hs₀ href
      rw [ho] at hh
      cases hh
      refine ⟨fun t' ht' => ⟨rfl, rfl, rfl, ?_⟩, fun hmem => absurd (hname ▸ hmem) hnot⟩
      -- neither the type nor the name it was given is one of those that are left.
      have hne : s.2.name ≠ t' := fun heq => hnot (hname ▸ heq ▸ ht')
      have hne' : fullName s.2.name h ≠ t' := by
        rintro rfl
        exact hclash _ ((mem_assignedNames hrefs ht).mpr
          ⟨i, s, h, hs₀, href, ho, by rw [hname]⟩) ht'
      rw [isNamed, isNamed, decide_eq_false hne]
      exact (decide_eq_false hne').symm
    · rw [hashesFor_of_not_named hs₀ hname] at ho
      cases ho
      exact ⟨fun t' ht' => hsame t' (List.mem_cons_of_mem t ht'),
        fun hmem => heq (List.mem_cons_of_mem t hmem)⟩

theorem unused_iff (hrefs : ReferencesTo all ss) (ht : t ∈ all) :
    Unused (usedHashes t current desired) (gen.draws drawn (leftFor current t ss))
      ↔ (newNames gen current ss t drawn).Nodup
        ∧ ∀ h ∈ gen.draws drawn (leftFor current t ss), h ∉ usedHashes t current desired := by
  unfold Unused newNames
  rw [List.nodup_map_iff (NodePools.fullName_injective t), leftFor_eq_unmatched hrefs ht]

def offset (current : Clusters) (ss : List Slot) : List String → String → Nat
  | [], _ => 0
  | t' :: types, t => if t = t' then 0 else unmatched current ss t' + offset current ss types t

theorem resolve_of_resolvable (hcurrent : DistinctLoadBalancers current.loadBalancers)
    (hrefs : ReferencesTo all ss) (hsub : types ⊆ all) (htypes : types.Nodup)
    (hdesired : DistinctLoadBalancers desired.loadBalancers)
    (hstage : List.Forall₂ (UnchangedFor types) ss desired.slots)
    (h : Resolvable gen current ss drawn types) :
    ∃ result drawn',
      resolveDynamicNodePoolReferences (fuel + 1) gen current types desired drawn
        = some (result, drawn')
      ∧ ss.length = result.slots.length
      ∧ ∀ (i : Nat) (s₀ s : Slot), ss[i]? = some s₀ → desired.slots[i]? = some s →
        (s₀.2.name ∉ types → result.slots[i]? = some s)
        ∧ (s₀.2.name ∈ types → ∃ h,
          (hashesFor gen current s₀.2.name (drawn + offset current ss types s₀.2.name) ss)[i]?
            = some (some h)
          ∧ result.slots[i]? = some (s₀.1, s₀.2.appendHash h)) := by
  induction types generalizing desired drawn with
  | nil =>
    refine ⟨desired, drawn, rfl, hstage.length_eq, fun i s₀ s hs₀ hs => ⟨fun _ => hs, ?_⟩⟩
    exact fun hmem => absurd hmem List.not_mem_nil
  | cons t types ih =>
    obtain ⟨hnodup, hnew, hclash, hrest⟩ := h
    rw [List.nodup_cons] at htypes
    have ht : t ∈ all := hsub List.mem_cons_self
    have hunused : Unused (usedHashes t current desired)
        (gen.draws drawn (unresolvedFor current t desired.slots)) := by
      rw [unresolvedFor_eq_leftFor, leftFor_of_stage hstage, unused_iff hrefs ht]
      refine ⟨hnodup, fun h hh hused => ?_⟩
      obtain ⟨s, hs, hname⟩ := slot_of_mem_usedHashes hused
      rw [leftFor_eq_unmatched hrefs ht] at hh
      exact hnew _ (List.mem_map_of_mem hh) (List.mem_map.mpr ⟨s, hs, hname⟩)
    have hsome : (resolveNodePoolType (fuel + 1) gen current t desired drawn).isSome = true :=
      resolveNodePoolType_of_unused hcurrent hdesired hunused
    obtain ⟨⟨desired', d⟩, hphase⟩ := Option.isSome_iff_exists.mp hsome
    obtain ⟨-, hslots, hnames, rfl⟩ := resolveNodePoolType_eq_some hcurrent hdesired hphase
    rw [resolvedSlots_of_stage hstage] at hslots
    rw [unresolvedFor_eq_leftFor, leftFor_of_stage hstage, leftFor_eq_unmatched hrefs ht] at hphase
    have hstage' : List.Forall₂ (UnchangedFor types) ss desired'.slots := by
      rw [hslots]
      exact unchangedFor_step hrefs ht htypes.1 hstage (fun name hname => (hclash name hname).1)
    obtain ⟨result, drawn', hresult, hlength, hfinal⟩ := ih
      (fun x hx => hsub (List.mem_cons_of_mem t hx)) htypes.2
      (by rw [DistinctLoadBalancers, hnames]; exact hdesired) hstage' hrest
    refine ⟨result, drawn', ?_, hlength, fun i s₀ s hs₀ hs => ?_⟩
    · rw [resolveDynamicNodePoolReferences, hphase]
      exact hresult
    · obtain ⟨o, ho⟩ : ∃ o, (hashesFor gen current t drawn ss)[i]? = some o := by
        refine ⟨_, List.getElem?_eq_getElem ?_⟩
        rw [length_hashesFor]
        exact (List.getElem?_eq_some_iff.mp hs₀).1
      have hs' : desired'.slots[i]? = some (freshSlot s o) := by
        rw [hslots, List.getElem?_zipWith, hs, ho]
      obtain ⟨hkept, hgiven⟩ := hfinal i s₀ _ hs₀ hs'
      by_cases hname : s₀.2.name = t
      · refine ⟨fun hnot => absurd (hname ▸ List.mem_cons_self) hnot, fun _ => ?_⟩
        have href : isReference t s₀.2 = true :=
          isReference_iff.mpr ⟨hrefs.static s₀ (List.mem_of_getElem? hs₀) (hname ▸ ht), hname⟩
        obtain ⟨h, hh, -⟩ := hashesFor_of_reference gen current drawn hs₀ href
        have hsame := ((List.forall₂_iff_getElem?.mp hstage).2 i s₀ s hs₀ hs).2
          (hname ▸ List.mem_cons_self)
        rw [ho] at hh
        cases hh
        rw [hname, offset, if_pos rfl, Nat.add_zero]
        refine ⟨h, ho, ?_⟩
        rw [hkept (hname ▸ htypes.1), hsame]
        rfl
      · rw [hashesFor_of_not_named hs₀ hname] at ho
        cases ho
        refine ⟨fun hnot => hkept (fun hmem => hnot (List.mem_cons_of_mem t hmem)), fun hmem => ?_⟩
        rw [offset, if_neg hname, ← Nat.add_assoc]
        exact hgiven ((List.mem_cons.mp hmem).resolve_left hname)

end Run

section Names

variable {gen : Generator} {current : Clusters} {types : List String} {t : String} {drawn : Nat}
  {ss ss' : List Slot}

theorem eq_of_name (hcurrent : (currentNames current).Nodup) {c c' : Slot}
    (hc : c ∈ currentSlots current) (hc' : c' ∈ currentSlots current)
    (hname : c.2.name = c'.2.name) : c = c' :=
  List.inj_on_of_nodup_map hcurrent hc hc' hname

theorem matching_pairwise (hcurrent : (currentNames current).Nodup) (role : PoolRole) :
    (matching current t role).Pairwise (fun e e' => e.name ≠ e'.name) := by
  have hsub : ((matching current t role).map (·.name)).Sublist (currentNames current) := by
    unfold matching nodePoolsOfType currentNames
    refine (List.filter_sublist.map _).trans ?_
    rw [List.map_map]
    exact List.filter_sublist.map _
  exact List.pairwise_map.mp (hcurrent.sublist hsub)

theorem carried_inj (hcurrent : (currentNames current).Nodup) {i j : Nat} {e e' : NodePool}
    (he : (carried t (matching current t) ss)[i]? = some (some e))
    (he' : (carried t (matching current t) ss)[j]? = some (some e')) (hname : e.name = e'.name) :
    i = j := by
  have hpairwise : (carried t (matching current t) ss).reduceOption.Pairwise
      (fun e e' => e.name ≠ e'.name) := by
    refine Matching.assign_pairwise Ne.symm (matching_pairwise hcurrent) ?_
    intro role role' hne a ha b hb heq
    have hslot := eq_of_name hcurrent (mem_matching.mp ha).1 (mem_matching.mp hb).1 heq
    exact hne (Prod.mk.inj hslot).1
  rcases Nat.lt_trichotomy i j with hij | hij | hij
  · exact absurd hname (Matching.pairwise_getElem? hpairwise hij he he')
  · exact hij
  · exact absurd hname.symm (Matching.pairwise_getElem? hpairwise hij he' he)

structure NewNames (gen : Generator) (current : Clusters) (ss : List Slot) (t : String)
    (drawn : Nat) : Prop where
  nodup : (gen.draws drawn (leftFor current t ss)).Nodup
  notCurrent : ∀ h ∈ gen.draws drawn (leftFor current t ss), fullName t h ∉ currentNames current

theorem name_mem_currentNames {role : PoolRole} {e : NodePool} (he : e ∈ matching current t role) :
    fullName t (e.hashFor t) ∈ currentNames current := by
  obtain ⟨hslot, -, hhash⟩ := mem_matching.mp he
  rw [← (name_of_hashFor hhash).1]
  exact List.mem_map.mpr ⟨_, hslot, rfl⟩

theorem hashesFor_inj (hcurrent : (currentNames current).Nodup)
    (hnew : NewNames gen current ss t drawn) {i j : Nat} {s s' : Slot} {h : String}
    (hs : ss[i]? = some s) (hs' : ss[j]? = some s') (href : isReference t s.2 = true)
    (href' : isReference t s'.2 = true)
    (hh : (hashesFor gen current t drawn ss)[i]? = some (some h))
    (hh' : (hashesFor gen current t drawn ss)[j]? = some (some h)) : i = j := by
  obtain ⟨_, hx, hcase⟩ := hashesFor_of_reference gen current drawn hs href
  rw [hh] at hx
  cases hx
  obtain ⟨_, hx, hcase'⟩ := hashesFor_of_reference gen current drawn hs' href'
  rw [hh'] at hx
  cases hx
  rcases hcase with ⟨e, he, rfl⟩ | ⟨-, hi⟩
  · have hmatch := (carried_getElem? hs he).2
    rcases hcase' with ⟨e', he', heq⟩ | ⟨-, hj⟩
    · have hmatch' := (carried_getElem? hs' he').2
      refine carried_inj hcurrent he he' ?_
      rw [(name_of_hashFor (mem_matching.mp hmatch).2.2).1, heq,
        ← (name_of_hashFor (mem_matching.mp hmatch').2.2).1]
    · exact absurd (name_mem_currentNames hmatch) (hnew.notCurrent _ (mem_draws_iff.mpr ⟨j, hj⟩))
  · rcases hcase' with ⟨e', he', rfl⟩ | ⟨-, hj⟩
    · exact absurd (name_mem_currentNames (carried_getElem? hs' he').2)
        (hnew.notCurrent _ (mem_draws_iff.mpr ⟨i, hi⟩))
    · refine Matching.nodup_getElem? ?_ hi hj
      rw [Matching.reduceOption_distribute (gen.length_draws drawn (leftFor current t ss))]
      exact hnew.nodup

structure Renamed (gen : Generator) (current : Clusters) (types : List String)
    (ss ss' : List Slot) : Prop where
  length : ss.length = ss'.length
  kept : ∀ (i : Nat) (s : Slot), ss[i]? = some s → s.2.name ∉ types → ss'[i]? = some s
  given : ∀ (i : Nat) (s : Slot), ss[i]? = some s → s.2.name ∈ types → ∃ h,
    (hashesFor gen current s.2.name (offset current ss types s.2.name) ss)[i]? = some (some h)
    ∧ ss'[i]? = some (s.1, s.2.appendHash h)
  newNames : ∀ t ∈ types, NewNames gen current ss t (offset current ss types t)
  notStatic : ∀ t ∈ types, ∀ name ∈ assignedNames gen current ss t (offset current ss types t),
    name ∉ staticNames ss

namespace Renamed

variable (h : Renamed gen current types ss ss') (hrefs : ReferencesTo types ss)
  (hcurrent : (currentNames current).Nodup)

include h hrefs in
theorem of_dynamic {i : Nat} {s : Slot} (hs : ss[i]? = some s) (hdynamic : s.2.isDynamic = true) :
    ∃ hash, (hashesFor gen current s.2.name (offset current ss types s.2.name) ss)[i]?
        = some (some hash)
      ∧ ss'[i]? = some (s.1, s.2.appendHash hash) :=
  h.given i s hs (hrefs.dynamic s (List.mem_of_getElem? hs) hdynamic)

include h hrefs in
theorem of_static {i : Nat} {s : Slot} (hs : ss[i]? = some s) (hstatic : s.2.isDynamic = false) :
    ss'[i]? = some s := by
  refine h.kept i s hs (fun hmem => ?_)
  rw [hrefs.static s (List.mem_of_getElem? hs) hmem] at hstatic
  cases hstatic

include h hrefs in
theorem exists_dynamic {i : Nat} {s' : Slot} (hs' : ss'[i]? = some s')
    (hdynamic : s'.2.isDynamic = true) :
    ∃ s hash, ss[i]? = some s ∧ s.2.isDynamic = true
      ∧ (hashesFor gen current s.2.name (offset current ss types s.2.name) ss)[i]?
        = some (some hash)
      ∧ s' = (s.1, s.2.appendHash hash) := by
  obtain ⟨s, hs⟩ : ∃ s, ss[i]? = some s := by
    refine ⟨_, List.getElem?_eq_getElem ?_⟩
    rw [h.length]
    exact (List.getElem?_eq_some_iff.mp hs').1
  cases hd : s.2.isDynamic with
  | true =>
    obtain ⟨hash, hhash, heq⟩ := h.of_dynamic hrefs hs hd
    rw [hs'] at heq
    exact ⟨s, hash, hs, hd, hhash, Option.some.inj heq⟩
  | false =>
    rw [h.of_static hrefs hs hd] at hs'
    cases hs'
    rw [hd] at hdynamic
    cases hdynamic

include h hrefs hcurrent in
theorem carried_of_name {i : Nat} {s s' c : Slot} (hs : ss[i]? = some s) (hs' : ss'[i]? = some s')
    (hdynamic : s.2.isDynamic = true) (hc : c ∈ currentSlots current)
    (hname : c.2.name = s'.2.name) :
    (carried s.2.name (matching current s.2.name) ss)[i]? = some (some c.2)
      ∧ c.1 = s.1 ∧ c.2 ∈ matching current s.2.name s.1 := by
  obtain ⟨hash, hhash, heq⟩ := h.of_dynamic hrefs hs hdynamic
  rw [hs'] at heq
  cases heq
  have hmem : s.2.name ∈ types := hrefs.dynamic s (List.mem_of_getElem? hs) hdynamic
  obtain ⟨_, hx, hcase⟩ := hashesFor_of_reference gen current _ hs
    (isReference_iff.mpr ⟨hdynamic, rfl⟩)
  rw [hhash] at hx
  cases hx
  rcases hcase with ⟨e, he, rfl⟩ | ⟨-, hi⟩
  · have hmatch := (carried_getElem? hs he).2
    obtain ⟨hslot, -, hne⟩ := mem_matching.mp hmatch
    have hcname : c.2.name = e.name := hname.trans (name_of_hashFor hne).1.symm
    obtain rfl := eq_of_name hcurrent hc hslot hcname
    exact ⟨he, rfl, hmatch⟩
  · exact absurd (List.mem_map.mpr ⟨c, hc, hname⟩)
      ((h.newNames _ hmem).notCurrent _ (mem_draws_iff.mpr ⟨i, hi⟩))

include h hrefs hcurrent in
theorem distinct {i j : Nat} {s s' : Slot} (hne : i ≠ j) (hs : ss'[i]? = some s)
    (hs' : ss'[j]? = some s') (hdynamic : s.2.isDynamic = true) : s.2.name ≠ s'.2.name := by
  intro hname
  obtain ⟨r, hash, hr, hrdynamic, hhash, rfl⟩ := h.exists_dynamic hrefs hs hdynamic
  have hmem : r.2.name ∈ types := hrefs.dynamic r (List.mem_of_getElem? hr) hrdynamic
  have href : isReference r.2.name r.2 = true := isReference_iff.mpr ⟨hrdynamic, rfl⟩
  cases hd : s'.2.isDynamic with
  | false =>
    obtain ⟨r', hr'⟩ : ∃ r', ss[j]? = some r' := by
      refine ⟨_, List.getElem?_eq_getElem ?_⟩
      rw [h.length]
      exact (List.getElem?_eq_some_iff.mp hs').1
    have hstatic : r'.2.isDynamic = false := by
      cases hd' : r'.2.isDynamic with
      | false => rfl
      | true =>
        obtain ⟨hash', -, heq⟩ := h.of_dynamic hrefs hr' hd'
        rw [hs'] at heq
        cases heq
        rw [isDynamic_appendHash, hd'] at hd
        cases hd
    rw [h.of_static hrefs hr' hstatic] at hs'
    cases hs'
    -- a name that was handed out is none of a static nodepool.
    refine h.notStatic _ hmem s'.2.name ?_ (List.mem_map.mpr ⟨s', List.mem_filter.mpr
      ⟨List.mem_of_getElem? hr', by rw [hstatic]; rfl⟩, rfl⟩)
    exact (mem_assignedNames hrefs hmem).mpr ⟨i, r, hash, hr, href, hhash, hname.symm⟩
  | true =>
    obtain ⟨r', hash', hr', hrdynamic', hhash', rfl⟩ := h.exists_dynamic hrefs hs' hd
    obtain ⟨htype, rfl⟩ := NodePools.fullName_inj (hashLike_of_hashesFor hhash).2
      (hashLike_of_hashesFor hhash').2 hname
    rw [← htype] at hhash'
    exact hne (hashesFor_inj hcurrent (h.newNames _ hmem) hr hr' href
      (isReference_iff.mpr ⟨hrdynamic', htype.symm⟩) hhash hhash')

include h hrefs hcurrent in
theorem reused_iff {i : Nat} {s s' : Slot} {o : Option NodePool} (ht : t ∈ types)
    (hs : ss[i]? = some s) (hs' : ss'[i]? = some s')
    (ho : (carried t (matching current t) ss)[i]? = some o) :
    (isReference t s.2 && (currentNames current).contains s'.2.name) = o.isSome := by
  cases href : isReference t s.2 with
  | false =>
    cases o with
    | none => rfl
    | some e =>
      rw [(carried_getElem? hs ho).1] at href
      cases href
  | true =>
    obtain ⟨hdynamic, rfl⟩ := isReference_iff.mp href
    rw [Bool.true_and, Bool.eq_iff_iff, List.contains_iff_mem]
    constructor
    · intro hmem
      obtain ⟨c, hc, hname⟩ := List.mem_map.mp hmem
      have hcarried := (h.carried_of_name hrefs hcurrent hs hs' hdynamic hc hname).1
      rw [ho] at hcarried
      cases hcarried
      rfl
    · intro hsome
      obtain ⟨e, rfl⟩ := Option.isSome_iff_exists.mp hsome
      obtain ⟨hash, hhash, heq⟩ := h.of_dynamic hrefs hs hdynamic
      rw [hs'] at heq
      cases heq
      obtain ⟨_, hx, ⟨e', he', rfl⟩ | ⟨hnone, -⟩⟩ := hashesFor_of_reference gen current _ hs href
      · rw [hhash] at hx
        cases hx
        exact name_mem_currentNames (carried_getElem? hs he').2
      · rw [ho] at hnone
        cases hnone

include h hrefs hcurrent in
theorem countP_reused (t : String) (role : PoolRole) :
    (ss.zip ss').countP (fun p => p.1.1 = role && isReference t p.1.2
        && (currentNames current).contains p.2.2.name)
      = min (references ss t role) (matching current t role).length := by
  by_cases ht : t ∈ types
  · have hcount : (ss.zip (carried t (matching current t) ss)).countP
        (fun p => p.1.1 = role && p.2.isSome)
          = min (references ss t role) (matching current t role).length :=
      Matching.countP_assign role
    rw [← hcount]
    refine List.countP_eq_of_map_eq (List.ext_getElem? (fun i => ?_))
    rw [List.getElem?_map, List.getElem?_map, List.zip, List.zip, List.getElem?_zipWith,
      List.getElem?_zipWith]
    cases hs : ss[i]? with
    | none => rfl
    | some s =>
      have hlt := (List.getElem?_eq_some_iff.mp hs).1
      obtain ⟨s', hs'⟩ : ∃ s', ss'[i]? = some s' :=
        ⟨_, List.getElem?_eq_getElem (h.length ▸ hlt)⟩
      obtain ⟨o, ho⟩ : ∃ o, (carried t (matching current t) ss)[i]? = some o :=
        ⟨_, List.getElem?_eq_getElem (by rwa [length_carried])⟩
      rw [hs', ho, Option.map_some, Option.map_some, Bool.and_assoc,
        h.reused_iff hrefs hcurrent ht hs hs' ho]
  · have hnone : ∀ s ∈ ss, isReference t s.2 = false := by
      intro s hs
      rw [Bool.eq_false_iff]
      intro href
      obtain ⟨hdynamic, rfl⟩ := isReference_iff.mp href
      exact ht (hrefs.dynamic s hs hdynamic)
    have hrefs' : references ss t role = 0 :=
      List.countP_eq_zero.mpr (fun s hs => by rw [hnone s hs, Bool.and_false]; decide)
    rw [hrefs', Nat.zero_min]
    refine List.countP_eq_zero.mpr (fun p hp => ?_)
    rw [hnone p.1 (List.of_mem_zip hp).1, Bool.and_false, Bool.false_and]
    decide

include h hrefs hcurrent in
theorem resolved : Resolved current ss ss' where
  static i s hs hstatic := h.of_static hrefs hs hstatic
  named i s hs hdynamic := by
    obtain ⟨hash, hhash, heq⟩ := h.of_dynamic hrefs hs hdynamic
    exact ⟨hash, hashLike_of_hashesFor hhash, heq⟩
  distinct i j s s' hne hs hs' hdynamic := h.distinct hrefs hcurrent hne hs hs' hdynamic
  kept i s s' c hs hs' hdynamic hc hname :=
    (h.carried_of_name hrefs hcurrent hs hs' hdynamic hc hname).2
  reused := h.countP_reused hrefs hcurrent
  preferred i s s' c e hs hs' hdynamic hc hname hother he htemplates := by
    have hcarried := (h.carried_of_name hrefs hcurrent hs hs' hdynamic hc hname).1
    obtain ⟨j, hj, r, hr, hrole, hassign⟩ := Matching.assign_preferred hs hcarried
      (decide_eq_false hother) he (decide_eq_true htemplates)
    have hassign : (carried s.2.name (matching current s.2.name) ss)[j]? = some (some e) := hassign
    obtain ⟨hrdynamic, hrname⟩ := isReference_iff.mp (carried_getElem? hr hassign).1
    obtain ⟨hash, hhash, heq⟩ := h.of_dynamic hrefs hr hrdynamic
    refine ⟨j, hj, _, heq, ?_⟩
    obtain ⟨_, hx, ⟨e', he', rfl⟩ | ⟨hnone, -⟩⟩ := hashesFor_of_reference gen current _ hr
      (isReference_iff.mpr ⟨hrdynamic, rfl⟩)
    · rw [hhash] at hx
      cases hx
      rw [hrname, hassign] at he'
      cases he'
      rw [NodePool.appendHash_name, hrname]
      exact (name_of_hashFor (mem_matching.mp he).2.2).1.symm
    · rw [hrname, hassign] at hnone
      cases hnone

end Renamed

end Names

section Conditions

variable {fuel : Nat} {gen : Generator} {current : Clusters} {types all : List String} {t : String}
  {drawn drawn' : Nat} {ss : List Slot} {desired result : DesiredCluster}

theorem newNames_of_nodup (hrefs : ReferencesTo all ss) (ht : t ∈ all)
    (hnodup : (newNames gen current ss t drawn).Nodup)
    (hnew : ∀ name ∈ newNames gen current ss t drawn, name ∉ currentNames current) :
    NewNames gen current ss t drawn := by
  unfold newNames at hnodup hnew
  rw [← leftFor_eq_unmatched hrefs ht] at hnodup hnew
  exact ⟨hnodup.of_map, fun h hh => hnew _ (List.mem_map_of_mem hh)⟩

theorem resolvable_at (hrefs : ReferencesTo all ss) (hsub : types ⊆ all)
    (h : Resolvable gen current ss drawn types) (ht : t ∈ types) :
    NewNames gen current ss t (drawn + offset current ss types t)
      ∧ ∀ name ∈ assignedNames gen current ss t (drawn + offset current ss types t),
        name ∉ staticNames ss := by
  induction types generalizing drawn with
  | nil => cases ht
  | cons t' types ih =>
    obtain ⟨hnodup, hnew, hclash, hrest⟩ := h
    rw [offset]
    split
    next heq =>
      subst heq
      exact ⟨newNames_of_nodup hrefs (hsub List.mem_cons_self) hnodup hnew,
        fun name hname => (hclash name hname).2⟩
    next hne =>
      rw [← Nat.add_assoc]
      exact ih (fun x hx => hsub (List.mem_cons_of_mem t' hx)) hrest
        ((List.mem_cons.mp ht).resolve_left hne)

theorem renamed_of_resolvable (hcurrent : DistinctLoadBalancers current.loadBalancers)
    (hrefs : ReferencesTo types desired.slots) (htypes : types.Nodup)
    (hdesired : DistinctLoadBalancers desired.loadBalancers)
    (h : Resolvable gen current desired.slots 0 types) :
    ∃ result drawn',
      resolveDynamicNodePoolReferences (fuel + 1) gen current types desired 0
        = some (result, drawn')
      ∧ Renamed gen current types desired.slots result.slots := by
  obtain ⟨result, drawn', hrun, hlength, hslots⟩ := resolve_of_resolvable hcurrent hrefs
    (List.Subset.refl types) htypes hdesired (unchangedFor_refl types desired.slots) h
  refine ⟨result, drawn', hrun, hlength, fun i s hs => (hslots i s s hs hs).1,
    fun i s hs hmem => ?_, fun t ht => ?_, fun t ht => ?_⟩
  · obtain ⟨hash, hhash, heq⟩ := (hslots i s s hs hs).2 hmem
    rw [Nat.zero_add] at hhash
    exact ⟨hash, hhash, heq⟩
  · have hat := (resolvable_at hrefs (List.Subset.refl types) h ht).1
    rwa [Nat.zero_add] at hat
  · have hat := (resolvable_at hrefs (List.Subset.refl types) h ht).2
    rwa [Nat.zero_add] at hat

theorem resolvable_of_resolved (hcurrent : DistinctLoadBalancers current.loadBalancers)
    (hrefs : ReferencesTo all ss) (hsub : types ⊆ all) (htypes : types.Nodup)
    (hdesired : DistinctLoadBalancers desired.loadBalancers)
    (hstage : List.Forall₂ (UnchangedFor types) ss desired.slots)
    (hrun : resolveDynamicNodePoolReferences fuel gen current types desired drawn
      = some (result, drawn'))
    (hres : Resolved current ss result.slots) : Resolvable gen current ss drawn types := by
  induction types generalizing desired drawn with
  | nil => trivial
  | cons t types ih =>
    rw [List.nodup_cons] at htypes
    have ht : t ∈ all := hsub List.mem_cons_self
    rw [resolveDynamicNodePoolReferences] at hrun
    obtain ⟨⟨next, d⟩, hphase, hrun⟩ := Option.bind_eq_some_iff.mp hrun
    obtain ⟨hunused, hslots, hnames, rfl⟩ := resolveNodePoolType_eq_some hcurrent hdesired hphase
    rw [resolvedSlots_of_stage hstage] at hslots
    rw [unresolvedFor_eq_leftFor, leftFor_of_stage hstage] at hunused hrun
    obtain ⟨hnodup, hfresh⟩ := (unused_iff hrefs ht).mp hunused
    have hdistinct : DistinctLoadBalancers next.loadBalancers := by
      rw [DistinctLoadBalancers, hnames]
      exact hdesired
    -- a reference still has in the end the hash it was given here.
    have hgiven : ∀ (i : Nat) (s : Slot) (h : String), ss[i]? = some s →
        isReference t s.2 = true →
        (hashesFor gen current t drawn ss)[i]? = some (some h) →
        desired.slots[i]? = some s ∧ next.slots[i]? = some (s.1, s.2.appendHash h)
          ∧ result.slots[i]? = some (s.1, s.2.appendHash h) := by
      intro i s h hs href hh
      obtain ⟨hdynamic, hname⟩ := isReference_iff.mp href
      obtain ⟨h', hlike, hfinal⟩ := hres.named i s hs hdynamic
      have hlt := (List.getElem?_eq_some_iff.mp hs).1
      obtain ⟨s', hs'⟩ : ∃ s', desired.slots[i]? = some s' :=
        ⟨_, List.getElem?_eq_getElem (hstage.length_eq ▸ hlt)⟩
      obtain rfl := ((List.forall₂_iff_getElem?.mp hstage).2 i s s' hs hs').2
        (hname ▸ List.mem_cons_self)
      have hnext : next.slots[i]? = some (s'.1, s'.2.appendHash h) := by
        rw [hslots, List.getElem?_zipWith, hs', hh]
        rfl
      have hext := (List.forall₂_iff_getElem?.mp (extended_run hcurrent hdistinct hrun)).2 i _ _
        hnext hfinal
      rw [hext.hash_eq hlike] at hfinal
      exact ⟨hs', hnext, hfinal⟩
    have hnew : ∀ name ∈ newNames gen current ss t drawn, name ∉ currentNames current := by
      intro name hname hmem
      obtain ⟨i, s, h, hs, href, hh, rfl⟩ := (mem_assignedNames hrefs ht).mp
        (List.mem_append_right _ hname)
      obtain ⟨hs', -, hfinal⟩ := hgiven i s h hs href hh
      obtain ⟨hdynamic, hsname⟩ := isReference_iff.mp href
      obtain ⟨c, hc, hcname⟩ := List.mem_map.mp hmem
      have hfull : c.2.name = (s.2.appendHash h).name := by
        rw [NodePool.appendHash_name, hsname]
        exact hcname
      obtain ⟨-, hmatch⟩ := hres.kept i s _ c hs hfinal hdynamic hc hfull
      rw [hsname] at hmatch
      have hused := mem_usedHashes_of_matching (List.mem_of_getElem? hs') hmatch
      rw [hashFor_of_name hcname (hashLike_of_hashesFor hh)] at hused
      obtain ⟨h', hh', heq⟩ := List.mem_map.mp hname
      obtain rfl := NodePools.fullName_injective t heq
      rw [← leftFor_eq_unmatched hrefs ht] at hh'
      exact hfresh h' hh' hused
    have hclash : ∀ name ∈ assignedNames gen current ss t drawn,
        name ∉ types ∧ name ∉ staticNames ss := by
      intro name hname
      obtain ⟨i, s, h, hs, href, hh, rfl⟩ := (mem_assignedNames hrefs ht).mp hname
      obtain ⟨-, hnext, hfinal⟩ := hgiven i s h hs href hh
      obtain ⟨hdynamic, rfl⟩ := isReference_iff.mp href
      refine ⟨fun hmem => ?_, fun hmem => ?_⟩
      · exact name_ne_of_run hcurrent hdistinct hrun hnext hdynamic hmem hfinal rfl
      · obtain ⟨s', hs', hsname⟩ := List.mem_map.mp hmem
        obtain ⟨hs', hstatic⟩ := List.mem_filter.mp hs'
        have hstatic : s'.2.isDynamic = false := by simpa using hstatic
        obtain ⟨j, hj⟩ := List.mem_iff_getElem?.mp hs'
        have hne : i ≠ j := by
          rintro rfl
          rw [hs] at hj
          cases hj
          rw [hdynamic] at hstatic
          cases hstatic
        exact hres.distinct i j _ s' hne hfinal (hres.static j s' hj hstatic) hdynamic hsname.symm
    rw [leftFor_eq_unmatched hrefs ht] at hrun
    have hstage' : List.Forall₂ (UnchangedFor types) ss next.slots := by
      rw [hslots]
      exact unchangedFor_step hrefs ht htypes.1 hstage (fun name hname => (hclash name hname).1)
    exact ⟨hnodup, hnew, hclash, ih (fun x hx => hsub (List.mem_cons_of_mem t hx)) htypes.2
      hdistinct hstage' hrun⟩

end Conditions

theorem Skeleton.referencesTo {m : Claudie.Manifest} {draws : Draws}
    {desired : GoMap DesiredCluster} (h : Skeleton m draws desired) {name : String}
    {d : DesiredCluster} (hd : desired[name]? = some d) : ReferencesTo m.types d.slots where
  dynamic s hs hdynamic := by
    rw [Manifest.isDynamic_of_makes (h.makes hd hs)] at hdynamic
    exact Manifest.mem_types.mpr hdynamic
  static s hs hmem := by
    rw [Manifest.isDynamic_of_makes (h.makes hd hs)]
    exact Manifest.mem_types.mp hmem
  templates s hs s' hs' hdynamic hname :=
    Manifest.templates_of_makes (h.makes hd hs) (h.makes hd hs') hdynamic hname

theorem references_resolved_iff (gen : Generator) (draws : Draws) (m : Claudie.Manifest)
    (desired : GoMap DesiredCluster) (name : String) (d : DesiredCluster) (current : Clusters)
    (hnames : (Manifest.nodePoolNames m.nodePools).Nodup)
    (hlbs : (m.loadBalancer.clusters.map (·.name)).Nodup) (hskeleton : Skeleton m draws desired)
    (hd : desired[name]? = some d) (hcurrentLbs : DistinctLoadBalancers current.loadBalancers)
    (hcurrent : (currentNames current).Nodup) :
    (∃ fuel result drawn,
      resolveDynamicNodePoolReferences fuel gen current m.types d 0 = some (result, drawn)
      ∧ Resolved current d.slots result.slots)
      ↔ Resolvable gen current d.slots 0 m.types := by
  have htypes : m.types.Nodup := hnames.of_append_left
  have hrefs := hskeleton.referencesTo hd
  have hdistinct := hskeleton.distinctLoadBalancers hlbs hd
  constructor
  · rintro ⟨fuel, result, drawn, hrun, hresolved⟩
    exact resolvable_of_resolved hcurrentLbs hrefs (List.Subset.refl m.types) htypes hdistinct
      (unchangedFor_refl m.types d.slots) hrun hresolved
  · intro h
    obtain ⟨result, drawn, hrun, hrenamed⟩ :=
      renamed_of_resolvable hcurrentLbs hrefs htypes hdistinct h
    exact ⟨0 + 1, result, drawn, hrun, hrenamed.resolved hrefs hcurrent⟩

namespace Demo

namespace NodePoolNames

def templates : TemplateRepository :=
  ⟨"https://github.com/berops/claudie-config", "v0.9.0", "abcdef", none, ⟨"", "", "", "", ""⟩⟩

theorem hashA_valid :
    "aaaaaaa".length = NodePools.hashLength ∧ "aaaaaaa".toList.all isHashChar := by
  decide

def hashA : Hash := ⟨"aaaaaaa", hashA_valid⟩

def hashB : Hash := ⟨"bbbbbbb", by decide +kernel⟩

def manifest : Claudie.Manifest where
  name := "config"
  providers := [⟨"hetzner-1", .hetzner "token", .ok templates⟩]
  nodePools :=
    { dynamic :=
        [{ name := "np", providerSpec := ⟨"hetzner-1", "fsn1", "1", ""⟩, count := 1,
           serverType := "cpx11", image := "ubuntu-24.04", storageDiskSize := none,
           autoscalerConfig := ⟨0, 0⟩, labels := ∅, annotations := ∅, taints := [],
           machineSpec := none, spot := false }]
      static := [] }
  kubernetes := [⟨"main", "v1.34.0", "192.168.2.0/24", ⟨["np"], ["np"]⟩, none⟩]
  loadBalancer := ⟨[], []⟩

def generator (hash : Nat → Hash) : Generator := ⟨hash, fun _ => "", fun _ _ => none⟩

def draws : Draws := ⟨fun _ => hashA, fun _ => hashA, fun _ => generator (fun _ => hashA)⟩

def current : Clusters :=
  ⟨some ⟨⟨"main", "aaaaaaa",
    [⟨.dynamic
        { serverType := "cpx11", image := "ubuntu-24.04", storageDiskSize := 50, region := "fsn1",
          zone := "1", count := 1,
          provider := ⟨"hetzner-1", "hetzner", .hetzner "token", templates⟩,
          autoscalerConfig := none, machineSpec := none, publicKey := "", privateKey := "",
          cidr := "10.0.0.0/24", externalNetworkName := "", spot := false },
      "np-aaaaaaa", [], true, ∅, [], ∅, 22⟩]⟩, "", "", "", ⟨"default", "", ""⟩⟩, []⟩

end NodePoolNames

end Demo

theorem references_resolved_of_new_hash :
    ∃ desired d, Skeleton Demo.NodePoolNames.manifest Demo.NodePoolNames.draws desired
      ∧ desired["main"]? = some d
      ∧ ∃ fuel result drawn,
        resolveDynamicNodePoolReferences fuel
            (Demo.NodePoolNames.generator (fun _ => Demo.NodePoolNames.hashB))
            Demo.NodePoolNames.current Demo.NodePoolNames.manifest.types d 0
          = some (result, drawn)
        ∧ Resolved Demo.NodePoolNames.current d.slots result.slots := by
  have hlbs : DistinctLoadBalancers Demo.NodePoolNames.current.loadBalancers := List.nodup_nil
  refine ⟨_, _, ⟨_, rfl, rfl⟩, rfl, (references_resolved_iff _ Demo.NodePoolNames.draws
    Demo.NodePoolNames.manifest _ "main" _ _ (by decide) (by decide) ⟨_, rfl, rfl⟩ rfl hlbs
    (by decide)).mpr ?_⟩
  exact ⟨by decide, by decide, by decide, trivial⟩

/--
The first hash that is drawn for the new compute nodepool is the one of the control nodepool. All
others are unused, but none of them is ever looked at.
-/
theorem used_hash_never_replaced :
    ∃ gen desired d, (∀ n, n ≥ 1 → (gen.hash n).val ∉ usedHashes "np" Demo.NodePoolNames.current d)
      ∧ Skeleton Demo.NodePoolNames.manifest Demo.NodePoolNames.draws desired
      ∧ desired["main"]? = some d
      ∧ ∀ fuel, resolveDynamicNodePoolReferences fuel gen Demo.NodePoolNames.current
        Demo.NodePoolNames.manifest.types d 0 = none := by
  refine ⟨Demo.NodePoolNames.generator (fun n =>
    [Demo.NodePoolNames.hashA].getD n Demo.NodePoolNames.hashB), _, _, ?_, ⟨_, rfl, rfl⟩, rfl,
    fun fuel => ?_⟩
  · intro n hn
    obtain ⟨k, rfl⟩ := Nat.exists_eq_add_of_le' hn
    change "bbbbbbb" ∉ usedHashes _ _ _
    decide
  · refine Option.eq_none_iff_forall_ne_some.mpr (fun result hrun => ?_)
    obtain ⟨next, hphase, -⟩ := Option.bind_eq_some_iff.mp hrun
    have hlbs : DistinctLoadBalancers ([] : List LBcluster) := List.nodup_nil
    obtain ⟨hunused, -⟩ := resolveNodePoolType_eq_some hlbs hlbs hphase
    exact absurd (hunused.2 "aaaaaaa" (by decide)) (by decide)

end Manager

end Claudie
