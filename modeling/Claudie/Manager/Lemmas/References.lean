import Claudie.Lemmas.Names
import Claudie.Lib.List
import Claudie.Manager.ExistingState
import Mathlib.Data.String.Basic

/-!
The nodepools of a cluster as one list of places, and what `resolveDynamicNodePoolReferences` does
with them.
-/

namespace Claudie

theorem NodePool.appendHash_name (np : NodePool) (h : String) :
    (np.appendHash h).name = NodePools.fullName np.name h := rfl

theorem LBcluster.withNodePools_name (lb : LBcluster) (nps : List NodePool) :
    (lb.withNodePools nps).clusterInfo.name = lb.clusterInfo.name := rfl

namespace Manager

inductive PoolRole where
  | control
  | compute
  | loadBalancer (name : String)
  deriving DecidableEq

abbrev Slot := PoolRole × NodePool

def kubernetesSlots (nps : List NodePool) : List Slot :=
  nps.map (fun np => (if np.isControl then .control else .compute, np))

def lbSlots (lb : LBcluster) : List Slot :=
  lb.clusterInfo.nodePools.map (fun np => (.loadBalancer lb.clusterInfo.name, np))

def allSlots (nps : List NodePool) (lbs : List LBcluster) : List Slot :=
  kubernetesSlots nps ++ lbs.flatMap lbSlots

def DesiredCluster.slots (d : DesiredCluster) : List Slot :=
  allSlots d.k8s.clusterInfo.nodePools d.loadBalancers

def currentSlots (current : Clusters) : List Slot :=
  allSlots current.kubernetesNodePools current.loadBalancers

def matching (current : Clusters) (t : String) (role : PoolRole) : List NodePool :=
  nodePoolsOfType t (((currentSlots current).filter (·.1 = role)).map (·.2))

def carried (t : String) (pools : PoolRole → List NodePool) (ss : List Slot) :
    List (Option NodePool) :=
  Matching.assign Prod.fst (fun s => isReference t s.2) (fun s e => e.templates = s.2.templates)
    pools ss

def carrySlot (t : String) (s : Slot) : Option NodePool → Slot
  | some e => (s.1, s.2.appendHash (e.hashFor t))
  | none => s

section Carry

variable {t : String} {pools : PoolRole → List NodePool}

theorem carryHashes_nil (isRef : NodePool → Bool) (nps : List NodePool) :
    carryHashes t isRef [] nps = nps := by
  cases nps with
  | nil => rfl
  | cons np nps =>
    induction nps generalizing np with
    | nil =>
      rw [carryHashes]
      split <;> rfl
    | cons np' nps ih =>
      rw [carryHashes]
      split
      · rfl
      · rw [ih]

section Cons

variable {isRef : NodePool → Bool} {existing left : List NodePool} {np e : NodePool}

theorem carryHashes_cons_of_take (nps : List NodePool) (href : isRef np = true)
    (htake : Matching.take (fun e => e.templates = np.templates) existing = some (e, left)) :
    carryHashes t isRef existing (np :: nps)
      = np.appendHash (e.hashFor t) :: carryHashes t isRef left nps := by
  rw [carryHashes, if_pos href, htake]

theorem carryHashes_cons_of_take_none (nps : List NodePool) (href : isRef np = true)
    (htake : Matching.take (fun e => e.templates = np.templates) existing = none) :
    carryHashes t isRef existing (np :: nps) = np :: carryHashes t isRef existing nps := by
  rw [carryHashes, if_pos href, htake, Matching.take_eq_none.mp htake, carryHashes_nil]

theorem carryHashes_cons_of_not_reference (nps : List NodePool) (href : isRef np = false) :
    carryHashes t isRef existing (np :: nps) = np :: carryHashes t isRef existing nps := by
  rw [carryHashes, if_neg (by rw [href]; decide)]

end Cons

theorem kubernetesSlots_carryHashes (nps : List NodePool) :
    kubernetesSlots
        (carryHashes t (fun np => !np.isControl && isReference t np) (pools .compute)
          (carryHashes t (fun np => np.isControl && isReference t np) (pools .control) nps))
      = List.zipWith (carrySlot t) (kubernetesSlots nps)
          (carried t pools (kubernetesSlots nps)) := by
  induction nps generalizing pools with
  | nil => rfl
  | cons np nps ih =>
    unfold carried at ih ⊢
    rw [kubernetesSlots, kubernetesSlots, List.map_cons, Matching.assign_cons]
    cases href : isReference t np with
    | false =>
      rw [carryHashes_cons_of_not_reference nps (by rw [href, Bool.and_false]),
        carryHashes_cons_of_not_reference _ (by rw [href, Bool.and_false]), List.map_cons]
      exact congrArg _ ih
    | true =>
      cases hcontrol : np.isControl with
      | true =>
        rw [if_pos rfl, if_pos rfl]
        cases htake : Matching.take (fun e => e.templates = np.templates) (pools .control) with
        | none =>
          rw [carryHashes_cons_of_take_none nps (by rw [href, hcontrol]; rfl) htake,
            carryHashes_cons_of_not_reference _ (by rw [hcontrol]; rfl), List.map_cons, hcontrol]
          exact congrArg _ ih
        | some taken =>
          obtain ⟨e, left⟩ := taken
          rw [carryHashes_cons_of_take nps (by rw [href, hcontrol]; rfl) htake,
            carryHashes_cons_of_not_reference _ (by
              rw [NodePool.appendHash, hcontrol]
              rfl), List.map_cons]
          have hrest := @ih (Function.update pools .control left)
          rw [Function.update_self,
            Function.update_of_ne (show PoolRole.compute ≠ .control by decide)] at hrest
          dsimp only
          rw [List.zipWith_cons_cons, carrySlot, NodePool.appendHash, hcontrol]
          exact congrArg _ hrest
      | false =>
        rw [if_pos rfl, if_neg (by decide)]
        rw [carryHashes_cons_of_not_reference nps (by rw [hcontrol]; rfl)]
        cases htake : Matching.take (fun e => e.templates = np.templates) (pools .compute) with
        | none =>
          rw [carryHashes_cons_of_take_none _ (by rw [href, hcontrol]; rfl) htake, List.map_cons,
            hcontrol]
          exact congrArg _ ih
        | some taken =>
          obtain ⟨e, left⟩ := taken
          rw [carryHashes_cons_of_take _ (by rw [href, hcontrol]; rfl) htake, List.map_cons]
          have hrest := @ih (Function.update pools .compute left)
          rw [Function.update_self,
            Function.update_of_ne (show PoolRole.control ≠ .compute by decide)] at hrest
          dsimp only
          rw [List.zipWith_cons_cons, carrySlot, NodePool.appendHash, hcontrol]
          exact congrArg _ hrest

theorem lbSlots_carryHashes (lb : LBcluster) :
    lbSlots (lb.withNodePools (carryHashes t (isReference t)
        (pools (.loadBalancer lb.clusterInfo.name)) lb.clusterInfo.nodePools))
      = List.zipWith (carrySlot t) (lbSlots lb) (carried t pools (lbSlots lb)) := by
  have h : ∀ nps : List NodePool,
      (carryHashes t (isReference t) (pools (.loadBalancer lb.clusterInfo.name)) nps).map
          (fun np => (PoolRole.loadBalancer lb.clusterInfo.name, np))
        = List.zipWith (carrySlot t)
            (nps.map (fun np => (PoolRole.loadBalancer lb.clusterInfo.name, np)))
            (carried t pools
              (nps.map (fun np => (PoolRole.loadBalancer lb.clusterInfo.name, np)))) := by
    intro nps
    induction nps generalizing pools with
    | nil => rfl
    | cons np nps ih =>
      unfold carried at ih ⊢
      rw [List.map_cons, Matching.assign_cons]
      cases href : isReference t np with
      | false =>
        rw [carryHashes_cons_of_not_reference nps href, List.map_cons]
        exact congrArg _ ih
      | true =>
        rw [if_pos rfl]
        dsimp only
        cases htake : Matching.take (fun e => e.templates = np.templates)
            (pools (.loadBalancer lb.clusterInfo.name)) with
        | none =>
          rw [carryHashes_cons_of_take_none nps href htake, List.map_cons]
          exact congrArg _ ih
        | some taken =>
          obtain ⟨e, left⟩ := taken
          rw [carryHashes_cons_of_take nps href htake, List.map_cons]
          have hrest := @ih (Function.update pools (.loadBalancer lb.clusterInfo.name) left)
          rw [Function.update_self] at hrest
          exact congrArg _ hrest
  exact h lb.clusterInfo.nodePools

def namedNodePools (lbs : List LBcluster) (name : String) : List NodePool :=
  (lbs.filter (·.clusterInfo.name = name)).flatMap (·.clusterInfo.nodePools)

theorem namedNodePools_cons (lb : LBcluster) (lbs : List LBcluster) (name : String) :
    namedNodePools (lb :: lbs) name
      = (if lb.clusterInfo.name = name then lb.clusterInfo.nodePools else [])
        ++ namedNodePools lbs name := by
  unfold namedNodePools
  rw [List.filter_cons]
  by_cases h : lb.clusterInfo.name = name <;> simp [h]

theorem namedNodePools_of_not_mem {lbs : List LBcluster} {name : String}
    (h : name ∉ lbs.map (·.clusterInfo.name)) : namedNodePools lbs name = [] := by
  unfold namedNodePools
  rw [List.filter_eq_nil_iff.mpr (fun lb hlb => by
    intro heq
    exact h (List.mem_map.mpr ⟨lb, hlb, of_decide_eq_true heq⟩))]
  rfl

theorem namedNodePools_of_mem {lbs : List LBcluster} {lb : LBcluster}
    (hnodup : (lbs.map (·.clusterInfo.name)).Nodup) (h : lb ∈ lbs) :
    namedNodePools lbs lb.clusterInfo.name = lb.clusterInfo.nodePools := by
  induction lbs with
  | nil => cases h
  | cons c cs ih =>
    rw [List.map_cons, List.nodup_cons] at hnodup
    rw [namedNodePools_cons]
    rcases List.mem_cons.mp h with rfl | h
    · rw [if_pos rfl, namedNodePools_of_not_mem hnodup.1, List.append_nil]
    · have hne : c.clusterInfo.name ≠ lb.clusterInfo.name :=
        fun heq => hnodup.1 (heq ▸ List.mem_map_of_mem h)
      rw [if_neg hne, List.nil_append, ih hnodup.2 h]

theorem resolveLb_eq {current : List LBcluster}
    (hnodup : (current.map (·.clusterInfo.name)).Nodup) (lb : LBcluster) :
    current.foldl (fun lb current =>
        if lb.clusterInfo.name ≠ current.clusterInfo.name then lb
        else
          lb.withNodePools (carryHashes t (isReference t)
            (nodePoolsOfType t current.clusterInfo.nodePools) lb.clusterInfo.nodePools)) lb
      = lb.withNodePools (carryHashes t (isReference t)
          (nodePoolsOfType t (namedNodePools current lb.clusterInfo.name))
          lb.clusterInfo.nodePools) := by
  induction current generalizing lb with
  | nil =>
    rw [show namedNodePools [] lb.clusterInfo.name = [] from rfl, nodePoolsOfType, List.filter_nil,
      carryHashes_nil]
    rfl
  | cons c cs ih =>
    rw [List.map_cons, List.nodup_cons] at hnodup
    rw [List.foldl_cons, ih hnodup.2, namedNodePools_cons]
    by_cases h : lb.clusterInfo.name = c.clusterInfo.name
    · rw [if_neg (Decidable.not_not.mpr h), if_pos h.symm]
      -- no other load balancer of the current state has the name.
      have hrest : namedNodePools cs lb.clusterInfo.name = [] :=
        namedNodePools_of_not_mem (h ▸ hnodup.1)
      rw [LBcluster.withNodePools_name, hrest, List.append_nil,
        show nodePoolsOfType t [] = [] from rfl, carryHashes_nil]
      rfl
    · rw [if_pos h, if_neg (fun heq => h heq.symm), List.nil_append]

theorem filter_kubernetesSlots_control (nps : List NodePool) :
    ((kubernetesSlots nps).filter (·.1 = .control)).map (·.2) = nps.filter (·.isControl) := by
  induction nps with
  | nil => rfl
  | cons np nps ih =>
    unfold kubernetesSlots at ih ⊢
    cases h : np.isControl <;> simp [h, ih]

theorem filter_kubernetesSlots_compute (nps : List NodePool) :
    ((kubernetesSlots nps).filter (·.1 = .compute)).map (·.2) = nps.filter (!·.isControl) := by
  induction nps with
  | nil => rfl
  | cons np nps ih =>
    unfold kubernetesSlots at ih ⊢
    cases h : np.isControl <;> simp [h, ih]

theorem role_kubernetesSlots {nps : List NodePool} {s : Slot} (h : s ∈ kubernetesSlots nps) :
    s.1 = .control ∨ s.1 = .compute := by
  obtain ⟨np, -, rfl⟩ := List.mem_map.mp h
  cases hc : np.isControl with
  | true => exact .inl rfl
  | false => exact .inr rfl

theorem role_lbSlots {lb : LBcluster} {s : Slot} (h : s ∈ lbSlots lb) :
    s.1 = .loadBalancer lb.clusterInfo.name := by
  obtain ⟨np, -, rfl⟩ := List.mem_map.mp h
  rfl

theorem role_flatMap_lbSlots {lbs : List LBcluster} {s : Slot} (h : s ∈ lbs.flatMap lbSlots) :
    ∃ lb ∈ lbs, s.1 = .loadBalancer lb.clusterInfo.name := by
  obtain ⟨lb, hlb, hs⟩ := List.mem_flatMap.mp h
  exact ⟨lb, hlb, role_lbSlots hs⟩

theorem filter_flatMap_lbSlots_of_kubernetes {lbs : List LBcluster} {role : PoolRole}
    (hrole : role = .control ∨ role = .compute) :
    (lbs.flatMap lbSlots).filter (·.1 = role) = [] := by
  refine List.filter_eq_nil_iff.mpr (fun s hs h => ?_)
  obtain ⟨lb, -, hlb⟩ := role_flatMap_lbSlots hs
  rw [of_decide_eq_true h] at hlb
  rcases hrole with rfl | rfl <;> cases hlb

theorem matching_control (current : Clusters) :
    matching current t .control
      = nodePoolsOfType t (current.kubernetesNodePools.filter (·.isControl)) := by
  rw [matching, currentSlots, allSlots, List.filter_append,
    filter_flatMap_lbSlots_of_kubernetes (.inl rfl), List.append_nil,
    filter_kubernetesSlots_control]

theorem matching_compute (current : Clusters) :
    matching current t .compute
      = nodePoolsOfType t (current.kubernetesNodePools.filter (!·.isControl)) := by
  rw [matching, currentSlots, allSlots, List.filter_append,
    filter_flatMap_lbSlots_of_kubernetes (.inr rfl), List.append_nil,
    filter_kubernetesSlots_compute]

theorem filter_lbSlots (lb : LBcluster) (name : String) :
    ((lbSlots lb).filter (·.1 = .loadBalancer name)).map (·.2)
      = if lb.clusterInfo.name = name then lb.clusterInfo.nodePools else [] := by
  unfold lbSlots
  rw [List.filter_map, List.map_map]
  by_cases h : lb.clusterInfo.name = name <;> simp [h, Function.comp_def]

theorem filter_flatMap_lbSlots (lbs : List LBcluster) (name : String) :
    ((lbs.flatMap lbSlots).filter (·.1 = .loadBalancer name)).map (·.2)
      = namedNodePools lbs name := by
  induction lbs with
  | nil => rfl
  | cons lb lbs ih =>
    rw [List.flatMap_cons, List.filter_append, List.map_append, filter_lbSlots, ih,
      namedNodePools_cons]

theorem matching_loadBalancer (current : Clusters) (name : String) :
    matching current t (.loadBalancer name)
      = nodePoolsOfType t (namedNodePools current.loadBalancers name) := by
  have hk8s : (kubernetesSlots current.kubernetesNodePools).filter (·.1 = .loadBalancer name)
      = [] := by
    refine List.filter_eq_nil_iff.mpr (fun s hs h => ?_)
    have hrole := role_kubernetesSlots hs
    rw [of_decide_eq_true h] at hrole
    rcases hrole with hrole | hrole <;> cases hrole
  rw [matching, currentSlots, allSlots, List.filter_append, hk8s, List.nil_append,
    filter_flatMap_lbSlots]

theorem zipWith_carried_append {rs ss : List Slot} (h : ∀ r ∈ rs, ∀ s ∈ ss, r.1 ≠ s.1) :
    List.zipWith (carrySlot t) (rs ++ ss) (carried t pools (rs ++ ss))
      = List.zipWith (carrySlot t) rs (carried t pools rs)
        ++ List.zipWith (carrySlot t) ss (carried t pools ss) := by
  unfold carried
  rw [Matching.assign_append h, List.zipWith_append (Matching.length_assign).symm]

theorem flatMap_lbSlots_resolve {lbs : List LBcluster}
    (hnodup : (lbs.map (·.clusterInfo.name)).Nodup) :
    (lbs.map (fun lb => lb.withNodePools (carryHashes t (isReference t)
        (pools (.loadBalancer lb.clusterInfo.name)) lb.clusterInfo.nodePools))).flatMap lbSlots
      = List.zipWith (carrySlot t) (lbs.flatMap lbSlots)
          (carried t pools (lbs.flatMap lbSlots)) := by
  induction lbs with
  | nil => rfl
  | cons lb lbs ih =>
    rw [List.map_cons, List.nodup_cons] at hnodup
    rw [List.map_cons, List.flatMap_cons, List.flatMap_cons, zipWith_carried_append, ih hnodup.2,
      lbSlots_carryHashes]
    intro r hr s hs heq
    obtain ⟨lb', hlb', hrole⟩ := role_flatMap_lbSlots hs
    rw [← heq, role_lbSlots hr] at hrole
    exact hnodup.1 (List.mem_map.mpr ⟨lb', hlb', (PoolRole.loadBalancer.inj hrole).symm⟩)

theorem allSlots_resolve {current : Clusters} {nps : List NodePool} {lbs : List LBcluster}
    (hcurrent : (current.loadBalancers.map (·.clusterInfo.name)).Nodup)
    (hlbs : (lbs.map (·.clusterInfo.name)).Nodup) :
    allSlots (resolveK8sNodePoolReferences t current.kubernetesNodePools nps)
        (resolveLbNodePoolReferences t current.loadBalancers lbs)
      = List.zipWith (carrySlot t) (allSlots nps lbs)
          (carried t (matching current t) (allSlots nps lbs)) := by
  have hlb : resolveLbNodePoolReferences t current.loadBalancers lbs
      = lbs.map (fun lb => lb.withNodePools (carryHashes t (isReference t)
          (matching current t (.loadBalancer lb.clusterInfo.name)) lb.clusterInfo.nodePools)) := by
    refine List.map_congr_left (fun lb _ => ?_)
    rw [matching_loadBalancer]
    exact resolveLb_eq hcurrent lb
  rw [allSlots, allSlots, zipWith_carried_append, hlb, flatMap_lbSlots_resolve hlbs,
    ← kubernetesSlots_carryHashes, matching_control, matching_compute]
  · rfl
  · intro r hr s hs heq
    obtain ⟨lb, -, hrole⟩ := role_flatMap_lbSlots hs
    rw [← heq] at hrole
    rcases role_kubernetesSlots hr with h | h <;> rw [h] at hrole <;> cases hrole

end Carry

theorem utf8Size_of_isHashChar {c : Char} (h : isHashChar c = true) : c.utf8Size = 1 := by
  unfold isHashChar Char.isLower Char.isDigit at h
  unfold Char.utf8Size
  rw [if_pos]
  simp [UInt32.le_iff_toNat_le] at *
  omega

theorem utf8Len_of_isHashChar {cs : List Char} (h : ∀ c ∈ cs, isHashChar c = true) :
    String.utf8Len cs = cs.length := by
  induction cs with
  | nil => rfl
  | cons c cs ih =>
    rw [List.forall_mem_cons] at h
    rw [String.utf8Len_cons, ih h.2, utf8Size_of_isHashChar h.1, List.length_cons]

theorem Hash.hashLike (h : Hash) : NodePools.HashLike h.val := by
  have hchars : ∀ c ∈ h.val.toList, isHashChar c = true := List.all_eq_true.mp h.property.2
  constructor
  · rw [← String.ofList_toList (s := h.val), String.utf8ByteSize_ofList,
      utf8Len_of_isHashChar hchars, String.length_toList]
    exact h.property.1
  · intro hdash
    exact absurd (hchars '-' hdash) (by decide)

def Generator.draws (gen : Generator) (start n : Nat) : List String :=
  (List.range' start n).map (fun i => (gen.hash i).val)

theorem Generator.draws_succ (gen : Generator) (start n : Nat) :
    gen.draws start (n + 1) = (gen.hash start).val :: gen.draws (start + 1) n := rfl

theorem Generator.draws_add (gen : Generator) (start m n : Nat) :
    gen.draws start (m + n) = gen.draws start m ++ gen.draws (start + m) n := by
  unfold Generator.draws
  rw [← List.range'_append_1, List.map_append]

@[simp]
theorem Generator.length_draws (gen : Generator) (start n : Nat) :
    (gen.draws start n).length = n := by
  unfold Generator.draws
  rw [List.length_map, List.length_range']

theorem Generator.hashLike_of_mem_draws {gen : Generator} {start n : Nat} {h : String}
    (hmem : h ∈ gen.draws start n) : NodePools.HashLike h := by
  obtain ⟨i, -, rfl⟩ := List.mem_map.mp hmem
  exact (gen.hash i).hashLike

def freshNodePool (np : NodePool) : Option String → NodePool
  | some h => np.appendHash h
  | none => np

def freshSlot (s : Slot) (h : Option String) : Slot := (s.1, freshNodePool s.2 h)

def isNamed (t : String) (np : NodePool) : Bool := np.name = t

def nameNodePools (t : String) (hs : List String) (nps : List NodePool) : List NodePool :=
  List.zipWith freshNodePool nps (Matching.distribute (isNamed t) hs nps)

def nameSlots (t : String) (hs : List String) (ss : List Slot) : List Slot :=
  List.zipWith freshSlot ss (Matching.distribute (fun s => isNamed t s.2) hs ss)

section Current

variable {current : Clusters} {t : String} {role : PoolRole} {e : NodePool}

theorem mem_nodePoolsOfType {nps : List NodePool} :
    e ∈ nodePoolsOfType t nps ↔ e ∈ nps ∧ e.isDynamic = true ∧ e.hashFor t ≠ "" := by
  unfold nodePoolsOfType
  rw [List.mem_filter, Bool.and_eq_true, decide_eq_true_eq]

theorem mem_matching :
    e ∈ matching current t role
      ↔ (role, e) ∈ currentSlots current ∧ e.isDynamic = true ∧ e.hashFor t ≠ "" := by
  unfold matching
  rw [mem_nodePoolsOfType, List.mem_map]
  refine and_congr_left' ⟨?_, ?_⟩
  · rintro ⟨s, hs, rfl⟩
    obtain ⟨hs, hrole⟩ := List.mem_filter.mp hs
    rwa [← of_decide_eq_true hrole]
  · intro hmem
    exact ⟨(role, e), List.mem_filter.mpr ⟨hmem, decide_eq_true rfl⟩, rfl⟩

theorem name_of_hashFor (h : e.hashFor t ≠ "") :
    e.name = NodePools.fullName t (e.hashFor t) ∧ NodePools.HashLike (e.hashFor t) :=
  (NodePools.matchNameAndHashWithTemplate_snd h).mp rfl

theorem hashFor_of_name {h : String} (hname : e.name = NodePools.fullName t h)
    (hhash : NodePools.HashLike h) : e.hashFor t = h :=
  (NodePools.matchNameAndHashWithTemplate_snd hhash.ne_empty).mpr ⟨hname, hhash⟩

theorem mem_kubernetesNodePools (h : (role, e) ∈ kubernetesSlots current.kubernetesNodePools) :
    e ∈ current.kubernetesNodePools := by
  obtain ⟨np, hnp, heq⟩ := List.mem_map.mp h
  cases heq
  exact hnp

theorem mem_usedHashes_of_matching {desired : DesiredCluster} {s : Slot} (hs : s ∈ desired.slots)
    (he : e ∈ matching current t s.1) : e.hashFor t ∈ usedHashes t current desired := by
  obtain ⟨hslot, hdynamic, hhash⟩ := mem_matching.mp he
  unfold usedHashes
  refine List.mem_map.mpr ⟨e, mem_nodePoolsOfType.mpr ⟨?_, hdynamic, hhash⟩, rfl⟩
  rw [List.mem_append]
  rcases List.mem_append.mp hslot with hslot | hslot
  · exact .inl (mem_kubernetesNodePools hslot)
  · -- a load balancer of the current state whose name the desired one has.
    obtain ⟨clb, hclb, hmem⟩ := List.mem_flatMap.mp hslot
    have hrole := role_lbSlots hmem
    have hlb : ∃ lb ∈ desired.loadBalancers, s.1 = .loadBalancer lb.clusterInfo.name := by
      rcases List.mem_append.mp hs with hk8s | hlbs
      · rcases role_kubernetesSlots hk8s with h | h <;> rw [h] at hrole <;> cases hrole
      · exact role_flatMap_lbSlots hlbs
    obtain ⟨lb, hlb, hname⟩ := hlb
    rw [hname] at hrole
    obtain ⟨np, hnp, heq⟩ := List.mem_map.mp hmem
    obtain rfl := (Prod.mk.inj heq).2
    exact .inr (List.mem_flatMap.mpr ⟨clb, List.mem_flatMap.mpr ⟨lb, hlb, List.mem_filter.mpr
      ⟨hclb, decide_eq_true (PoolRole.loadBalancer.inj hrole)⟩⟩, hnp⟩)

theorem slot_of_mem_usedHashes {desired : DesiredCluster} {h : String}
    (hmem : h ∈ usedHashes t current desired) :
    ∃ s ∈ currentSlots current, s.2.name = NodePools.fullName t h := by
  obtain ⟨e, he, rfl⟩ := List.mem_map.mp hmem
  obtain ⟨he, -, hhash⟩ := mem_nodePoolsOfType.mp he
  have hname := (name_of_hashFor hhash).1
  unfold currentSlots allSlots
  rcases List.mem_append.mp he with he | he
  · exact ⟨_, List.mem_append_left _ (List.mem_map.mpr ⟨e, he, rfl⟩), hname⟩
  · obtain ⟨clb, hclb, he⟩ := List.mem_flatMap.mp he
    obtain ⟨lb, -, hclb⟩ := List.mem_flatMap.mp hclb
    exact ⟨_, List.mem_append_right _ (List.mem_flatMap.mpr
      ⟨clb, List.mem_of_mem_filter hclb, List.mem_map.mpr ⟨e, he, rfl⟩⟩), hname⟩

end Current

section Name

variable {fuel : Nat} {gen : Generator} {t : String} {used : List String} {drawn : Nat}

-- The loop ends at once or not at all.
theorem redraw_true {hash : String} : redraw gen true hash drawn fuel = none := by
  induction fuel generalizing hash drawn with
  | zero => rfl
  | succ fuel ih => exact ih

theorem redraw_eq_some {ok : Bool} {hash hash' : String} {drawn' : Nat}
    (h : redraw gen ok hash drawn fuel = some (hash', drawn')) :
    ok = false ∧ hash' = hash ∧ drawn' = drawn := by
  cases ok with
  | true =>
    rw [redraw_true] at h
    cases h
  | false =>
    cases fuel with
    | zero => cases h
    | succ fuel =>
      cases h
      exact ⟨rfl, rfl, rfl⟩

def Unused (used hs : List String) : Prop := hs.Nodup ∧ ∀ h ∈ hs, h ∉ used

theorem unused_nil : Unused used [] := ⟨List.nodup_nil, List.forall_mem_nil _⟩

theorem unused_cons {h : String} {hs : List String} :
    Unused used (h :: hs) ↔ h ∉ used ∧ Unused (h :: used) hs := by
  unfold Unused
  rw [List.nodup_cons, List.forall_mem_cons]
  constructor
  · rintro ⟨⟨hnot, hnodup⟩, hused, hrest⟩
    refine ⟨hused, hnodup, fun h' hh' hmem => ?_⟩
    rcases List.mem_cons.mp hmem with rfl | hmem
    · exact hnot hh'
    · exact hrest h' hh' hmem
  · rintro ⟨hused, hnodup, hrest⟩
    exact ⟨⟨fun hmem => hrest h hmem List.mem_cons_self, hnodup⟩, hused,
      fun h' hh' hmem => hrest h' hh' (List.mem_cons_of_mem h hmem)⟩

theorem unused_append {xs ys : List String} :
    Unused used (xs ++ ys) ↔ Unused used xs ∧ Unused (xs.reverse ++ used) ys := by
  induction xs generalizing used with
  | nil => exact ⟨fun h => ⟨unused_nil, h⟩, fun h => h.2⟩
  | cons x xs ih =>
    rw [List.cons_append, unused_cons, unused_cons, ih, and_assoc, List.reverse_cons,
      List.append_assoc]
    rfl

theorem nameReferences_eq_some {nps nps' : List NodePool} {used' : List String} {drawn' : Nat}
    (h : nameReferences fuel gen t used drawn nps = some (nps', used', drawn')) :
    Unused used (gen.draws drawn (nps.countP (isNamed t)))
      ∧ nps' = nameNodePools t (gen.draws drawn (nps.countP (isNamed t))) nps
      ∧ used' = (gen.draws drawn (nps.countP (isNamed t))).reverse ++ used
      ∧ drawn' = drawn + nps.countP (isNamed t) := by
  induction nps generalizing used drawn nps' with
  | nil =>
    cases h
    exact ⟨unused_nil, rfl, rfl, rfl⟩
  | cons np nps ih =>
    rw [nameReferences] at h
    split at h
    next hname =>
      obtain ⟨⟨hash, d⟩, hredraw, h⟩ := Option.bind_eq_some_iff.mp h
      obtain ⟨⟨rest, u, d'⟩, hrest, h⟩ := Option.bind_eq_some_iff.mp h
      cases h
      obtain ⟨hok, rfl, rfl⟩ := redraw_eq_some hredraw
      obtain ⟨hunused, rfl, rfl, rfl⟩ := ih hrest
      have hnamed : isNamed t np = true := decide_eq_true hname
      rw [List.countP_cons_of_pos hnamed, gen.draws_succ, unused_cons]
      refine ⟨⟨by simpa using hok, hunused⟩, ?_, ?_, by omega⟩
      · rw [nameNodePools, nameNodePools, Matching.distribute_cons, if_pos hnamed]
        rfl
      · rw [List.reverse_cons, List.append_assoc]
        rfl
    next hname =>
      obtain ⟨⟨rest, u, d'⟩, hrest, h⟩ := Option.bind_eq_some_iff.mp h
      cases h
      obtain ⟨hunused, rfl, rfl, rfl⟩ := ih hrest
      have hnamed : ¬ isNamed t np = true := fun hn => hname (of_decide_eq_true hn)
      rw [List.countP_cons_of_neg hnamed]
      refine ⟨hunused, ?_, rfl, rfl⟩
      rw [nameNodePools, nameNodePools, Matching.distribute_cons, if_neg hnamed]
      rfl

theorem nameReferences_of_unused {nps : List NodePool}
    (h : Unused used (gen.draws drawn (nps.countP (isNamed t)))) :
    (nameReferences (fuel + 1) gen t used drawn nps).isSome = true := by
  induction nps generalizing used drawn with
  | nil => rfl
  | cons np nps ih =>
    rw [nameReferences]
    by_cases hname : np.name = t
    · have hnamed : isNamed t np = true := decide_eq_true hname
      rw [List.countP_cons_of_pos hnamed, gen.draws_succ, unused_cons] at h
      have hok : used.contains (gen.hash drawn).val = false := by simpa using h.1
      obtain ⟨rest, hrest⟩ := Option.isSome_iff_exists.mp (ih h.2)
      rw [if_pos hname]
      dsimp only
      rw [hok, redraw, if_neg (by decide), Option.bind_eq_bind, Option.bind_some, hrest]
      rfl
    · have hnamed : ¬ isNamed t np = true := fun hn => hname (of_decide_eq_true hn)
      rw [List.countP_cons_of_neg hnamed] at h
      obtain ⟨rest, hrest⟩ := Option.isSome_iff_exists.mp (ih h)
      rw [if_neg hname, hrest]
      rfl

theorem freshNodePool_isControl (np : NodePool) (h : Option String) :
    (freshNodePool np h).isControl = np.isControl := by
  cases h <;> rfl

theorem kubernetesSlots_nameNodePools (hs : List String) (nps : List NodePool) :
    kubernetesSlots (nameNodePools t hs nps) = nameSlots t hs (kubernetesSlots nps) := by
  unfold kubernetesSlots nameNodePools nameSlots
  rw [Matching.distribute_map, List.zipWith_map_left, List.map_zipWith]
  refine congrArg (fun f => List.zipWith f _ _) (funext₂ (fun np h => ?_))
  rw [freshNodePool_isControl]
  rfl

theorem lbSlots_nameNodePools (hs : List String) (lb : LBcluster) :
    lbSlots (lb.withNodePools (nameNodePools t hs lb.clusterInfo.nodePools))
      = nameSlots t hs (lbSlots lb) := by
  unfold lbSlots nameSlots
  rw [Matching.distribute_map, List.zipWith_map_left]
  exact List.map_zipWith

theorem nameSlots_append {xs ys : List String} {rs ss : List Slot}
    (h : xs.length = rs.countP (fun s => isNamed t s.2)) :
    nameSlots t (xs ++ ys) (rs ++ ss) = nameSlots t xs rs ++ nameSlots t ys ss := by
  unfold nameSlots
  rw [Matching.distribute_append h, List.zipWith_append Matching.length_distribute.symm]

theorem countP_kubernetesSlots (nps : List NodePool) :
    (kubernetesSlots nps).countP (fun s => isNamed t s.2) = nps.countP (isNamed t) := by
  unfold kubernetesSlots
  rw [List.countP_map]
  rfl

theorem countP_lbSlots (lb : LBcluster) :
    (lbSlots lb).countP (fun s => isNamed t s.2) = lb.clusterInfo.nodePools.countP (isNamed t) := by
  unfold lbSlots
  rw [List.countP_map]
  rfl

theorem nameLbReferences_eq_some {lbs lbs' : List LBcluster} {drawn' : Nat}
    (h : nameLbReferences fuel gen t used drawn lbs = some (lbs', drawn')) :
    Unused used (gen.draws drawn ((lbs.flatMap lbSlots).countP (fun s => isNamed t s.2)))
      ∧ lbs'.flatMap lbSlots
        = nameSlots t (gen.draws drawn ((lbs.flatMap lbSlots).countP (fun s => isNamed t s.2)))
            (lbs.flatMap lbSlots)
      ∧ lbs'.map (·.clusterInfo.name) = lbs.map (·.clusterInfo.name)
      ∧ drawn' = drawn + (lbs.flatMap lbSlots).countP (fun s => isNamed t s.2) := by
  induction lbs generalizing used drawn lbs' with
  | nil =>
    cases h
    exact ⟨unused_nil, rfl, rfl, rfl⟩
  | cons lb lbs ih =>
    rw [nameLbReferences] at h
    obtain ⟨⟨nps, u, d⟩, hnps, h⟩ := Option.bind_eq_some_iff.mp h
    obtain ⟨⟨rest, d'⟩, hrest, h⟩ := Option.bind_eq_some_iff.mp h
    cases h
    obtain ⟨hunused, rfl, rfl, rfl⟩ := nameReferences_eq_some hnps
    obtain ⟨hunused', hslots, hnames, rfl⟩ := ih hrest
    rw [List.flatMap_cons, List.countP_append, countP_lbSlots, gen.draws_add, unused_append]
    refine ⟨⟨hunused, hunused'⟩, ?_, ?_, by omega⟩
    · rw [List.flatMap_cons, nameSlots_append (by rw [gen.length_draws, countP_lbSlots]), hslots,
        lbSlots_nameNodePools]
    · rw [List.map_cons, List.map_cons, hnames]
      rfl

theorem nameLbReferences_of_unused {lbs : List LBcluster}
    (h : Unused used (gen.draws drawn ((lbs.flatMap lbSlots).countP (fun s => isNamed t s.2)))) :
    (nameLbReferences (fuel + 1) gen t used drawn lbs).isSome = true := by
  induction lbs generalizing used drawn with
  | nil => rfl
  | cons lb lbs ih =>
    rw [List.flatMap_cons, List.countP_append, countP_lbSlots, gen.draws_add, unused_append] at h
    have hsome : (nameReferences (fuel + 1) gen t used drawn lb.clusterInfo.nodePools).isSome
        = true := nameReferences_of_unused h.1
    obtain ⟨⟨nps, u, d⟩, hnps⟩ := Option.isSome_iff_exists.mp hsome
    obtain ⟨-, -, rfl, rfl⟩ := nameReferences_eq_some hnps
    obtain ⟨rest, hrest⟩ := Option.isSome_iff_exists.mp (ih h.2)
    rw [nameLbReferences, hnps, Option.bind_eq_bind, Option.bind_some]
    dsimp only
    rw [hrest]
    rfl

end Name

def carriedSlots (current : Clusters) (t : String) (ss : List Slot) : List Slot :=
  List.zipWith (carrySlot t) ss (carried t (matching current t) ss)

def unresolvedFor (current : Clusters) (t : String) (ss : List Slot) : Nat :=
  (carriedSlots current t ss).countP (fun s => isNamed t s.2)

def resolvedSlots (gen : Generator) (current : Clusters) (t : String) (drawn : Nat)
    (ss : List Slot) : List Slot :=
  nameSlots t (gen.draws drawn (unresolvedFor current t ss)) (carriedSlots current t ss)

def isLeft (t : String) (p : Slot × Option NodePool) : Bool := isNamed t p.1.2 && p.2.isNone

def leftFor (current : Clusters) (t : String) (ss : List Slot) : Nat :=
  (ss.zip (carried t (matching current t) ss)).countP (isLeft t)

def hashesFor (gen : Generator) (current : Clusters) (t : String) (drawn : Nat) (ss : List Slot) :
    List (Option String) :=
  List.zipWith (fun e h => (e.map (·.hashFor t)).or h) (carried t (matching current t) ss)
    (Matching.distribute (isLeft t) (gen.draws drawn (leftFor current t ss))
      (ss.zip (carried t (matching current t) ss)))

section Hashes

variable {gen : Generator} {current : Clusters} {t : String} {drawn : Nat} {ss : List Slot}

theorem carried_getElem? {i : Nat} {s : Slot} {e : NodePool} (hs : ss[i]? = some s)
    (he : (carried t (matching current t) ss)[i]? = some (some e)) :
    isReference t s.2 = true ∧ e ∈ matching current t s.1 :=
  Matching.assign_getElem? hs he

@[simp]
theorem length_carried {pools : PoolRole → List NodePool} :
    (carried t pools ss).length = ss.length := Matching.length_assign

theorem isNamed_of_isReference {np : NodePool} (h : isReference t np = true) :
    isNamed t np = true := (Bool.and_eq_true _ _ ▸ h).2

theorem isNamed_carrySlot {s : Slot} {o : Option NodePool}
    (h : o.isSome = true → isNamed t s.2 = true) :
    isNamed t (carrySlot t s o).2 = isLeft t (s, o) := by
  cases o with
  | none => rw [isLeft, Option.isNone_none, Bool.and_true, carrySlot]
  | some e =>
    have hname : s.2.name = t := of_decide_eq_true (h rfl)
    rw [isLeft, Option.isNone_some, Bool.and_false, isNamed, carrySlot]
    refine decide_eq_false (fun heq => ?_)
    rw [NodePool.appendHash_name, hname] at heq
    exact NodePools.fullName_ne t _ heq

theorem map_isNamed_carriedSlots (current : Clusters) (t : String) (ss : List Slot) :
    (carriedSlots current t ss).map (fun s => isNamed t s.2)
      = (ss.zip (carried t (matching current t) ss)).map (isLeft t) := by
  unfold carriedSlots
  rw [List.map_zipWith, List.zip, List.map_zipWith]
  refine List.ext_getElem? (fun i => ?_)
  rw [List.getElem?_zipWith, List.getElem?_zipWith]
  cases hs : ss[i]? with
  | none => rfl
  | some s =>
    cases ho : (carried t (matching current t) ss)[i]? with
    | none => rfl
    | some o =>
      refine congrArg some (isNamed_carrySlot (fun hsome => ?_))
      obtain ⟨e, rfl⟩ := Option.isSome_iff_exists.mp hsome
      exact isNamed_of_isReference (carried_getElem? hs ho).1

theorem unresolvedFor_eq_leftFor : unresolvedFor current t ss = leftFor current t ss :=
  List.countP_eq_of_map_eq (map_isNamed_carriedSlots current t ss)

theorem length_hashesFor : (hashesFor gen current t drawn ss).length = ss.length := by
  unfold hashesFor
  rw [List.length_zipWith, Matching.length_distribute, List.length_zip, length_carried,
    Nat.min_self, Nat.min_self]

theorem resolvedSlots_eq :
    resolvedSlots gen current t drawn ss
      = List.zipWith freshSlot ss (hashesFor gen current t drawn ss) := by
  unfold resolvedSlots nameSlots hashesFor
  rw [unresolvedFor_eq_leftFor, Matching.distribute_congr (map_isNamed_carriedSlots current t ss)]
  generalize gen.draws drawn (leftFor current t ss) = hashes
  unfold carriedSlots
  refine List.ext_getElem? (fun i => ?_)
  rw [List.getElem?_zipWith, List.getElem?_zipWith, List.getElem?_zipWith, List.getElem?_zipWith]
  cases hs : ss[i]? with
  | none => rfl
  | some s =>
    cases ho : (carried t (matching current t) ss)[i]? with
    | none => rfl
    | some o =>
      have hzip : (ss.zip (carried t (matching current t) ss))[i]? = some (s, o) := by
        rw [List.getElem?_zip_eq_some]
        exact ⟨hs, ho⟩
      cases o with
      | none =>
        cases (Matching.distribute (isLeft t) hashes
          (ss.zip (carried t (matching current t) ss)))[i]? <;> rfl
      | some e =>
        rw [Matching.distribute_of_not_wants hzip (Bool.and_false _)]
        rfl

theorem hashesFor_of_not_named {i : Nat} {s : Slot} (hs : ss[i]? = some s)
    (hname : s.2.name ≠ t) : (hashesFor gen current t drawn ss)[i]? = some none := by
  have hnamed : isNamed t s.2 = false := decide_eq_false hname
  obtain ⟨o, ho⟩ : ∃ o, (carried t (matching current t) ss)[i]? = some o := by
    refine ⟨_, List.getElem?_eq_getElem ?_⟩
    rw [length_carried]
    exact (List.getElem?_eq_some_iff.mp hs).1
  cases o with
  | some e =>
    rw [isNamed_of_isReference (carried_getElem? hs ho).1] at hnamed
    cases hnamed
  | none =>
    have hzip : (ss.zip (carried t (matching current t) ss))[i]? = some (s, none) := by
      rw [List.getElem?_zip_eq_some]
      exact ⟨hs, ho⟩
    have hleft : isLeft t (s, none) = false := by rw [isLeft, hnamed, Bool.false_and]
    rw [hashesFor, List.getElem?_zipWith, ho, Matching.distribute_of_not_wants hzip hleft]
    rfl

theorem hashesFor_of_reference (gen : Generator) (current : Clusters) (drawn : Nat) {i : Nat}
    {s : Slot} (hs : ss[i]? = some s) (href : isReference t s.2 = true) :
    ∃ h, (hashesFor gen current t drawn ss)[i]? = some (some h)
      ∧ ((∃ e, (carried t (matching current t) ss)[i]? = some (some e) ∧ h = e.hashFor t)
        ∨ (carried t (matching current t) ss)[i]? = some none
          ∧ (Matching.distribute (isLeft t) (gen.draws drawn (leftFor current t ss))
              (ss.zip (carried t (matching current t) ss)))[i]? = some (some h)) := by
  obtain ⟨o, ho⟩ : ∃ o, (carried t (matching current t) ss)[i]? = some o := by
    refine ⟨_, List.getElem?_eq_getElem ?_⟩
    rw [length_carried]
    exact (List.getElem?_eq_some_iff.mp hs).1
  have hzip : (ss.zip (carried t (matching current t) ss))[i]? = some (s, o) := by
    rw [List.getElem?_zip_eq_some]
    exact ⟨hs, ho⟩
  obtain ⟨f, hf, hfsome⟩ := Matching.distribute_isSome
    (gen.length_draws drawn (leftFor current t ss)) hzip
  rw [hashesFor, List.getElem?_zipWith, ho, hf]
  cases o with
  | some e => exact ⟨e.hashFor t, rfl, .inl ⟨e, rfl, rfl⟩⟩
  | none =>
    rw [isLeft, isNamed_of_isReference href] at hfsome
    obtain ⟨h, rfl⟩ := Option.isSome_iff_exists.mp hfsome
    exact ⟨h, rfl, .inr ⟨rfl, rfl⟩⟩

def SameFor (t : String) (s s' : Slot) : Prop :=
  s.1 = s'.1 ∧ s.2.isDynamic = s'.2.isDynamic ∧ s.2.templates = s'.2.templates
    ∧ isNamed t s.2 = isNamed t s'.2

theorem carried_congr {pools : PoolRole → List NodePool} {ss' : List Slot}
    (h : List.Forall₂ (SameFor t) ss ss') : carried t pools ss = carried t pools ss' := by
  refine Matching.assign_congr_requests (h.imp (fun s s' hsame => ?_))
  obtain ⟨hrole, hdynamic, htemplates, hnamed⟩ := hsame
  refine ⟨hrole, ?_, fun _ => ?_⟩
  · unfold isReference
    rw [hdynamic]
    exact congrArg _ hnamed
  · rw [htemplates]

theorem map_isLeft_congr {ss' : List Slot} {l : List (Option NodePool)}
    (h : List.Forall₂ (SameFor t) ss ss') :
    (ss.zip l).map (isLeft t) = (ss'.zip l).map (isLeft t) := by
  induction h generalizing l with
  | nil => rfl
  | cons hsame _ ih =>
    cases l with
    | nil => rfl
    | cons o l =>
      rw [List.zip_cons_cons, List.zip_cons_cons, List.map_cons, List.map_cons, ih, isLeft, isLeft,
        hsame.2.2.2]

theorem mem_draws_iff {h : String} :
    h ∈ gen.draws drawn (leftFor current t ss)
      ↔ ∃ i : Nat, (Matching.distribute (isLeft t) (gen.draws drawn (leftFor current t ss))
          (ss.zip (carried t (matching current t) ss)))[i]? = some (some h) := by
  have hreduce := Matching.reduceOption_distribute (gen.length_draws drawn (leftFor current t ss))
  rw [← hreduce, List.reduceOption_mem_iff, List.mem_iff_getElem?, hreduce]

theorem isLeft_of_distribute {i : Nat} {h : String} {hs : List String}
    (hh : (Matching.distribute (isLeft t) hs
      (ss.zip (carried t (matching current t) ss)))[i]? = some (some h)) :
    ∃ s, ss[i]? = some s ∧ (carried t (matching current t) ss)[i]? = some none
      ∧ s.2.name = t := by
  have hlt := (List.getElem?_eq_some_iff.mp hh).1
  rw [Matching.length_distribute] at hlt
  obtain ⟨⟨s, o⟩, hzip⟩ : ∃ p, (ss.zip (carried t (matching current t) ss))[i]? = some p :=
    ⟨_, List.getElem?_eq_getElem hlt⟩
  obtain ⟨hs, ho⟩ := List.getElem?_zip_eq_some.mp hzip
  cases hleft : isLeft t (s, o) with
  | false =>
    rw [Matching.distribute_of_not_wants hzip hleft] at hh
    cases hh
  | true =>
    rw [isLeft, Bool.and_eq_true] at hleft
    obtain rfl : o = none := Option.isNone_iff_eq_none.mp hleft.2
    exact ⟨s, hs, ho, of_decide_eq_true hleft.1⟩

theorem hashLike_of_hashesFor {i : Nat} {h : String}
    (hh : (hashesFor gen current t drawn ss)[i]? = some (some h)) : NodePools.HashLike h := by
  unfold hashesFor at hh
  obtain ⟨o, f, ho, hf, heq⟩ := List.getElem?_zipWith_eq_some.mp hh
  cases o with
  | some e =>
    cases heq
    obtain ⟨k, he⟩ := Matching.mem_pools_of_assign (List.mem_of_getElem? ho)
    exact (name_of_hashFor (mem_matching.mp he).2.2).2
  | none =>
    obtain rfl : f = some h := heq
    exact Generator.hashLike_of_mem_draws (mem_draws_iff.mpr ⟨i, hf⟩)

theorem leftFor_congr {ss' : List Slot} (h : List.Forall₂ (SameFor t) ss ss') :
    leftFor current t ss = leftFor current t ss' := by
  unfold leftFor
  rw [carried_congr h]
  exact List.countP_eq_of_map_eq (map_isLeft_congr h)

theorem hashesFor_congr {ss' : List Slot} (h : List.Forall₂ (SameFor t) ss ss') :
    hashesFor gen current t drawn ss = hashesFor gen current t drawn ss' := by
  unfold hashesFor
  rw [leftFor_congr h, carried_congr h, Matching.distribute_congr (map_isLeft_congr h)]

end Hashes

section ResolveType

variable {fuel : Nat} {gen : Generator} {current : Clusters} {t : String}
  {desired desired' : DesiredCluster} {drawn drawn' : Nat}

def DistinctLoadBalancers (lbs : List LBcluster) : Prop :=
  (lbs.map (·.clusterInfo.name)).Nodup

theorem allSlots_carried (hcurrent : DistinctLoadBalancers current.loadBalancers)
    (hdesired : DistinctLoadBalancers desired.loadBalancers) :
    allSlots (resolveK8sNodePoolReferences t current.kubernetesNodePools
        desired.k8s.clusterInfo.nodePools)
        (resolveLbNodePoolReferences t current.loadBalancers desired.loadBalancers)
      = carriedSlots current t desired.slots :=
  allSlots_resolve hcurrent hdesired

theorem resolveLb_names (hcurrent : DistinctLoadBalancers current.loadBalancers)
    (lbs : List LBcluster) :
    (resolveLbNodePoolReferences t current.loadBalancers lbs).map (·.clusterInfo.name)
      = lbs.map (·.clusterInfo.name) := by
  unfold resolveLbNodePoolReferences
  rw [List.map_map]
  refine List.map_congr_left (fun lb _ => ?_)
  rw [Function.comp_apply, resolveLb_eq hcurrent lb]
  rfl

theorem unresolvedFor_eq (hcurrent : DistinctLoadBalancers current.loadBalancers)
    (hdesired : DistinctLoadBalancers desired.loadBalancers) :
    unresolvedFor current t desired.slots
      = (resolveK8sNodePoolReferences t current.kubernetesNodePools
          desired.k8s.clusterInfo.nodePools).countP (isNamed t)
        + ((resolveLbNodePoolReferences t current.loadBalancers desired.loadBalancers).flatMap
          lbSlots).countP (fun s => isNamed t s.2) := by
  rw [unresolvedFor, ← allSlots_carried hcurrent hdesired, allSlots, List.countP_append,
    countP_kubernetesSlots]

theorem resolveNodePoolType_eq_some (hcurrent : DistinctLoadBalancers current.loadBalancers)
    (hdesired : DistinctLoadBalancers desired.loadBalancers)
    (h : resolveNodePoolType fuel gen current t desired drawn = some (desired', drawn')) :
    Unused (usedHashes t current desired) (gen.draws drawn (unresolvedFor current t desired.slots))
      ∧ desired'.slots = resolvedSlots gen current t drawn desired.slots
      ∧ desired'.loadBalancers.map (·.clusterInfo.name)
        = desired.loadBalancers.map (·.clusterInfo.name)
      ∧ drawn' = drawn + unresolvedFor current t desired.slots := by
  unfold resolveNodePoolType at h
  obtain ⟨⟨nps, u, d⟩, hnps, h⟩ := Option.bind_eq_some_iff.mp h
  obtain ⟨⟨lbs, d'⟩, hlbs, h⟩ := Option.bind_eq_some_iff.mp h
  cases h
  obtain ⟨hunused, rfl, rfl, rfl⟩ := nameReferences_eq_some hnps
  obtain ⟨hunused', hslots, hnames, rfl⟩ := nameLbReferences_eq_some hlbs
  rw [resolvedSlots, ← allSlots_carried hcurrent hdesired, unresolvedFor_eq hcurrent hdesired,
    gen.draws_add, unused_append]
  refine ⟨⟨hunused, hunused'⟩, ?_, hnames.trans (resolveLb_names hcurrent _), Nat.add_assoc _ _ _⟩
  rw [allSlots, nameSlots_append (by rw [gen.length_draws, countP_kubernetesSlots]), ← hslots,
    ← kubernetesSlots_nameNodePools]
  rfl

theorem resolveNodePoolType_of_unused (hcurrent : DistinctLoadBalancers current.loadBalancers)
    (hdesired : DistinctLoadBalancers desired.loadBalancers)
    (h : Unused (usedHashes t current desired)
      (gen.draws drawn (unresolvedFor current t desired.slots))) :
    (resolveNodePoolType (fuel + 1) gen current t desired drawn).isSome = true := by
  rw [unresolvedFor_eq hcurrent hdesired, gen.draws_add, unused_append] at h
  have hk8s : (nameReferences (fuel + 1) gen t (usedHashes t current desired) drawn
      (resolveK8sNodePoolReferences t current.kubernetesNodePools
        desired.k8s.clusterInfo.nodePools)).isSome = true := nameReferences_of_unused h.1
  obtain ⟨⟨nps, u, d⟩, hnps⟩ := Option.isSome_iff_exists.mp hk8s
  obtain ⟨-, -, rfl, rfl⟩ := nameReferences_eq_some hnps
  obtain ⟨lbs, hlbs⟩ := Option.isSome_iff_exists.mp
    (nameLbReferences_of_unused h.2 : (nameLbReferences (fuel + 1) gen t _ _ _).isSome = true)
  rw [resolveNodePoolType, hnps, Option.bind_eq_bind, Option.bind_some]
  dsimp only
  rw [hlbs]
  rfl

def Extended (s s' : Slot) : Prop :=
  s'.1 = s.1 ∧ ∃ name, s'.2 = { s.2 with name }
    ∧ (name = s.2.name ∨ ∃ x, name = NodePools.fullName s.2.name x)

theorem Extended.refl (s : Slot) : Extended s s := ⟨rfl, s.2.name, rfl, .inl rfl⟩

theorem Extended.trans {s₁ s₂ s₃ : Slot} (h : Extended s₁ s₂) (h' : Extended s₂ s₃) :
    Extended s₁ s₃ := by
  obtain ⟨hrole, name, hnp, hname⟩ := h
  obtain ⟨hrole', name', hnp', hname'⟩ := h'
  rw [hnp] at hnp' hname'
  refine ⟨hrole'.trans hrole, name', hnp', ?_⟩
  rcases hname' with rfl | ⟨y, rfl⟩
  · exact hname
  · rcases hname with rfl | ⟨x, rfl⟩
    · exact .inr ⟨y, rfl⟩
    · exact .inr ⟨NodePools.fullName x y, NodePools.fullName_fullName _ x y⟩

theorem Extended.size_le {s s' : Slot} (h : Extended s s') :
    s.2.name.utf8ByteSize ≤ s'.2.name.utf8ByteSize := by
  obtain ⟨-, name, hnp, rfl | ⟨x, rfl⟩⟩ := h
  · rw [hnp]
  · rw [hnp]
    have := NodePools.utf8ByteSize_fullName s.2.name x
    dsimp only
    omega

theorem Extended.hash_eq {s : Slot} {h h' : String}
    (hext : Extended (s.1, s.2.appendHash h) (s.1, s.2.appendHash h'))
    (hlike : NodePools.HashLike h') : h' = h := by
  obtain ⟨-, name, hnp, hname⟩ := hext
  obtain rfl : NodePools.fullName s.2.name h' = name := congrArg NodePool.name hnp
  rcases hname with heq | ⟨x, heq⟩
  · exact NodePools.fullName_injective s.2.name heq
  · rw [NodePool.appendHash_name, NodePools.fullName_fullName] at heq
    rw [NodePools.fullName_injective s.2.name heq] at hlike
    exact absurd hlike (NodePools.not_hashLike_fullName h x)

theorem extended_freshSlot (s : Slot) (h : Option String) : Extended s (freshSlot s h) := by
  cases h with
  | none => exact .refl s
  | some h => exact ⟨rfl, _, rfl, .inr ⟨h, rfl⟩⟩

theorem extended_resolvedSlots (gen : Generator) (current : Clusters) (t : String) (drawn : Nat)
    (ss : List Slot) : List.Forall₂ Extended ss (resolvedSlots gen current t drawn ss) := by
  have h : ∀ (hs : List (Option String)) (ss : List Slot), hs.length = ss.length →
      List.Forall₂ Extended ss (List.zipWith freshSlot ss hs) := by
    intro hs ss hlength
    induction ss generalizing hs with
    | nil => exact .nil
    | cons s ss ih =>
      obtain _ | ⟨h, hs⟩ := hs
      · cases hlength
      · exact .cons (extended_freshSlot s h) (ih hs (Nat.succ.inj hlength))
  rw [resolvedSlots_eq]
  exact h _ ss length_hashesFor

theorem extended_run {types : List String} (hcurrent : DistinctLoadBalancers current.loadBalancers)
    (hdesired : DistinctLoadBalancers desired.loadBalancers)
    (h : resolveDynamicNodePoolReferences fuel gen current types desired drawn
      = some (desired', drawn')) :
    List.Forall₂ Extended desired.slots desired'.slots := by
  induction types generalizing desired drawn with
  | nil =>
    cases h
    exact List.forall₂_same.mpr (fun s _ => .refl s)
  | cons t types ih =>
    rw [resolveDynamicNodePoolReferences] at h
    obtain ⟨⟨d, n⟩, hphase, h⟩ := Option.bind_eq_some_iff.mp h
    obtain ⟨-, hslots, hnames, -⟩ := resolveNodePoolType_eq_some hcurrent hdesired hphase
    have hstep := extended_resolvedSlots gen current t drawn desired.slots
    rw [← hslots] at hstep
    exact List.forall₂_trans hstep (ih (by rw [DistinctLoadBalancers, hnames]; exact hdesired) h)
      (fun _ _ _ => Extended.trans)

theorem distinctLoadBalancers_run {types : List String}
    (hcurrent : DistinctLoadBalancers current.loadBalancers)
    (hdesired : DistinctLoadBalancers desired.loadBalancers)
    (h : resolveDynamicNodePoolReferences fuel gen current types desired drawn
      = some (desired', drawn')) :
    DistinctLoadBalancers desired'.loadBalancers := by
  induction types generalizing desired drawn with
  | nil =>
    cases h
    exact hdesired
  | cons t types ih =>
    rw [resolveDynamicNodePoolReferences] at h
    obtain ⟨⟨d, n⟩, hphase, h⟩ := Option.bind_eq_some_iff.mp h
    obtain ⟨-, -, hnames, -⟩ := resolveNodePoolType_eq_some hcurrent hdesired hphase
    exact ih (by rw [DistinctLoadBalancers, hnames]; exact hdesired) h

theorem name_ne_of_run {types : List String}
    (hcurrent : DistinctLoadBalancers current.loadBalancers)
    (hdesired : DistinctLoadBalancers desired.loadBalancers)
    (h : resolveDynamicNodePoolReferences fuel gen current types desired drawn
      = some (desired', drawn')) {i : Nat} {s s' : Slot} (hs : desired.slots[i]? = some s)
    (hdynamic : s.2.isDynamic = true) (hname : s.2.name ∈ types)
    (hs' : desired'.slots[i]? = some s') : s'.2.name ≠ s.2.name := by
  induction types generalizing desired drawn with
  | nil => cases hname
  | cons t types ih =>
    rw [resolveDynamicNodePoolReferences] at h
    obtain ⟨⟨d, n⟩, hphase, h⟩ := Option.bind_eq_some_iff.mp h
    obtain ⟨-, hslots, hnames, -⟩ := resolveNodePoolType_eq_some hcurrent hdesired hphase
    have hdistinct : DistinctLoadBalancers d.loadBalancers := by
      rw [DistinctLoadBalancers, hnames]
      exact hdesired
    rw [resolvedSlots_eq] at hslots
    by_cases ht : s.2.name = t
    · have href : isReference t s.2 = true := by
        rw [isReference, hdynamic, Bool.true_and]
        exact decide_eq_true ht
      obtain ⟨hash, hhash, -⟩ := hashesFor_of_reference gen current drawn hs href
      have hnext : d.slots[i]? = some (freshSlot s (some hash)) := by
        rw [hslots, List.getElem?_zipWith, hs, hhash]
      -- from here on the name only gets longer.
      have hsize := ((List.forall₂_iff_getElem?.mp (extended_run hcurrent hdistinct h)).2 i _ s'
        hnext hs').size_le
      have hfull := NodePools.utf8ByteSize_fullName s.2.name hash
      intro heq
      rw [heq] at hsize
      change (NodePools.fullName s.2.name hash).utf8ByteSize ≤ _ at hsize
      omega
    · have hnext : d.slots[i]? = some s := by
        rw [hslots, List.getElem?_zipWith, hs, hashesFor_of_not_named hs ht]
        rfl
      exact ih hdistinct h hnext ((List.mem_cons.mp hname).resolve_left ht)

end ResolveType

end Manager

end Claudie
