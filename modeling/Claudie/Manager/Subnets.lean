import Claudie.Lib.Allocation
import Claudie.Lib.Netip
import Claudie.Manager.Lemmas.Passes
import Mathlib.Data.List.Pairwise

/-!
The subnets of the dynamic nodepools. Nodepools of one provider and region draw from the same 256
subnets; the code groups them by a text in which provider and region are joined by a dash.
-/

namespace Claudie

namespace Manager

def subnets : List String := (List.range 256).map subnetCIDR

def DynamicNodePool.location (d : DynamicNodePool) : String × String :=
  (d.provider.specName, d.region)

section Groups

variable {κ : Type} [DecidableEq κ]

def takenSubnets (group : DynamicNodePool → κ) (k : κ) (nps : List NodePool) : List String :=
  ((nps.filterMap NodePool.dynamic?).filter (group · = k)).map (·.cidr)

def missingSubnets (group : DynamicNodePool → κ) (k : κ) (nps : List NodePool) : Nat :=
  (nps.filterMap NodePool.dynamic?).countP (fun d => d.cidr = "" && group d = k)

def Exhausted (group : DynamicNodePool → κ) (current desired : List NodePool) : Prop :=
  ∃ k, (Allocation.free (takenSubnets group k current) subnets).length
    < missingSubnets group k desired

end Groups

def SubnetsApart (np np' : NodePool) : Prop :=
  ∀ d d', np.type = .dynamic d → np'.type = .dynamic d' →
    DynamicNodePool.location d = DynamicNodePool.location d' → d.cidr ≠ d'.cidr

def SubnetsDistinct (nps : List NodePool) : Prop := nps.Pairwise SubnetsApart

structure SubnetsReused (current desired : List NodePool) : Prop where
  names : (desired.map (·.name)).Nodup
  carried : ∀ np ∈ desired, ∀ d, np.type = .dynamic d → d.cidr ≠ "" →
    ∃ c ∈ current, c.name = np.name ∧ ∃ d', c.type = .dynamic d' ∧ d'.cidr = d.cidr
      ∧ DynamicNodePool.location d' = DynamicNodePool.location d

structure SubnetsAssigned (current desired assigned : List NodePool) : Prop where
  all : ∀ np ∈ assigned, NodePool.HasSubnet np
  distinct : SubnetsDistinct assigned
  each : desired.Forall₂ SubnetAssigned assigned
  new : desired.Forall₂ (fun np np' => ∀ d d', np.type = .dynamic d → d.cidr = "" →
    np'.type = .dynamic d' →
      d'.cidr ∉ takenSubnets DynamicNodePool.location (DynamicNodePool.location d) current) assigned

def Clusters.k8sNodePools (c : Clusters) : List NodePool :=
  (c.k8s.map (·.clusterInfo.nodePools)).getD []

def Clusters.lbNodePools (c : Clusters) (id : String) : List NodePool :=
  ((Clusters.findLoadbalancerById id c.loadBalancers).map (·.clusterInfo.nodePools)).getD []

def subnetClusters (current desired : Clusters) : List (List NodePool × List NodePool) :=
  (desired.k8s.map fun k => (Clusters.k8sNodePools current, k.clusterInfo.nodePools)).toList
    ++ desired.loadBalancers.map fun lb =>
      (Clusters.lbNodePools current lb.id, lb.clusterInfo.nodePools)

def Clusters.nodePoolLists (c : Clusters) : List (List NodePool) :=
  (c.k8s.map (·.clusterInfo.nodePools)).toList ++ c.loadBalancers.map (·.clusterInfo.nodePools)

section Subnets

variable {existing : GoMap (List String)} {used : List String} {nps nps' current : List NodePool}

theorem subnetCIDR_inj {i j : Nat} (h : subnetCIDR i = subnetCIDR j) : i = j := by
  unfold subnetCIDR at h
  have hdigits := (String.append_right_inj "10.0.").mp ((String.append_left_inj ".0/24").mp h)
  exact Netip.toDigits_inj (String.ofList_injective hdigits)

theorem subnetCIDR_ne_empty (i : Nat) : subnetCIDR i ≠ "" := by
  intro h
  have := congrArg String.length h
  simp [subnetCIDR] at this

theorem nodup_subnets : subnets.Nodup :=
  List.nodup_range.map fun _ _ h => subnetCIDR_inj h

theorem getCIDR_eq (used : List String) :
    getCIDR used = match Allocation.free used subnets with
      | cidr :: _ => .ok cidr
      | [] => .error (.error "maximum number of IPs assigned") := by
  have hhead : (Allocation.free used subnets).head?
      = ((List.range 256).find? (fun i => !used.contains (subnetCIDR i))).map subnetCIDR := by
    rw [Allocation.free, List.head?_filter, subnets, List.find?_map]
    rfl
  unfold getCIDR
  cases hfree : Allocation.free used subnets with
  | nil =>
    rw [hfree, List.head?_nil, eq_comm, Option.map_eq_none_iff] at hhead
    rw [hhead]
  | cons cidr rest =>
    rw [hfree, List.head?_cons, eq_comm, Option.map_eq_some_iff] at hhead
    obtain ⟨i, hi, rfl⟩ := hhead
    rw [hi]

theorem getCIDR_eq_ok {cidr : String} (h : getCIDR used = .ok cidr) :
    ∃ rest, Allocation.free used subnets = cidr :: rest := by
  rw [getCIDR_eq] at h
  split at h
  next hfree =>
    cases h
    exact ⟨_, hfree⟩
  next => cases h

theorem mem_subnets_of_getCIDR {cidr : String} (h : getCIDR used = .ok cidr) :
    cidr ≠ "" ∧ cidr ∉ used := by
  obtain ⟨rest, hfree⟩ := getCIDR_eq_ok h
  have hmem : cidr ∈ Allocation.free used subnets := hfree ▸ List.mem_cons_self
  obtain ⟨hsubnet, hunused⟩ := List.mem_filter.mp hmem
  obtain ⟨i, -, rfl⟩ := List.mem_map.mp hsubnet
  exact ⟨subnetCIDR_ne_empty i, by simpa using hunused⟩

theorem takenSubnets_cons {κ : Type} [DecidableEq κ] (group : DynamicNodePool → κ) (k : κ)
    (np : NodePool) (nps : List NodePool) :
    takenSubnets group k (np :: nps)
      = (match np.dynamic? with
        | some d => if group d = k then [d.cidr] else []
        | none => []) ++ takenSubnets group k nps := by
  unfold takenSubnets
  cases hd : np.dynamic? with
  | none => rw [List.filterMap_cons_none hd, List.nil_append]
  | some d =>
    rw [List.filterMap_cons_some hd, List.filter_cons]
    by_cases hk : group d = k <;> simp [hk]

theorem getD_existingCIDRs (nps : List NodePool) (key : String) :
    (existingCIDRs nps).getD key [] = takenSubnets DynamicNodePool.providerRegion key nps := by
  have hempty : (∅ : GoMap (List String)).getD key [] = [] := Std.ExtTreeMap.getD_empty
  rw [existingCIDRs]
  conv_rhs => rw [← List.nil_append (takenSubnets _ key nps), ← hempty]
  generalize (∅ : GoMap (List String)) = m
  clear hempty
  induction nps generalizing m with
  | nil => simp [takenSubnets]
  | cons np nps ih =>
    rw [List.foldl_cons, ih, takenSubnets_cons, ← List.append_assoc]
    congr 1
    cases hd : np.dynamic? with
    | none => simp
    | some d =>
      dsimp only
      rw [GoMap.getD_appendAt]
      by_cases hk : DynamicNodePool.providerRegion d = key <;> simp [hk]

theorem providerRegion_congr {d d' : DynamicNodePool}
    (h : DynamicNodePool.location d = DynamicNodePool.location d') :
    DynamicNodePool.providerRegion d = DynamicNodePool.providerRegion d' := by
  obtain ⟨hprovider, hregion⟩ := Prod.mk.inj h
  rw [DynamicNodePool.providerRegion, hprovider, hregion]
  rfl

def SubnetFrom (existing : GoMap (List String)) (np np' : NodePool) : Prop :=
  np' = np ∧ NodePool.HasSubnet np
    ∨ ∃ d cidr, np.type = .dynamic d ∧ d.cidr = ""
      ∧ np' = { np with type := .dynamic { d with cidr } }
      ∧ cidr ≠ "" ∧ cidr ∉ existing.getD (DynamicNodePool.providerRegion d) []

theorem SubnetFrom.of_appendAt {np np' : NodePool} {key cidr : String}
    (h : SubnetFrom (existing.appendAt key [cidr]) np np') : SubnetFrom existing np np' := by
  obtain h | ⟨d, cidr', hd, hempty, heq, hne, hunused⟩ := h
  · exact .inl h
  · refine .inr ⟨d, cidr', hd, hempty, heq, hne, fun hmem => hunused ?_⟩
    rw [GoMap.getD_appendAt]
    split
    next hkey => exact List.mem_append_left _ (hkey ▸ hmem)
    next => exact hmem

theorem calculateCIDR_from (h : calculateCIDR existing nps = .ok nps') :
    nps.Forall₂ (SubnetFrom existing) nps' := by
  induction nps generalizing existing nps' with
  | nil =>
    cases h
    exact .nil
  | cons np nps ih =>
    obtain ⟨rest, hsubnet, hrest, rfl⟩ | ⟨d, cidr, rest, hd, hempty, hget, hrest, rfl⟩ :=
      calculateCIDR_cons_eq_ok h
    · exact .cons (.inl ⟨rfl, hsubnet⟩) (ih hrest)
    · exact .cons (.inr ⟨d, cidr, hd, hempty, rfl, mem_subnets_of_getCIDR hget⟩)
        ((ih hrest).imp fun _ _ => SubnetFrom.of_appendAt)

def ReusedApart (np np' : NodePool) : Prop :=
  ∀ d d', np.type = .dynamic d → np'.type = .dynamic d' → d.cidr ≠ "" → d'.cidr ≠ "" →
    DynamicNodePool.location d = DynamicNodePool.location d' → d.cidr ≠ d'.cidr

def SubnetsKnown (existing : GoMap (List String)) (nps : List NodePool) : Prop :=
  ∀ np ∈ nps, ∀ d, np.type = .dynamic d → d.cidr ≠ "" →
    d.cidr ∈ existing.getD (DynamicNodePool.providerRegion d) []

theorem SubnetsKnown.appendAt {key cidr : String} (h : SubnetsKnown existing nps) :
    SubnetsKnown (existing.appendAt key [cidr]) nps := by
  intro np hnp d hd hne
  have hmem := h np hnp d hd hne
  rw [GoMap.getD_appendAt]
  split
  next hkey => exact List.mem_append_left _ (hkey ▸ hmem)
  next => exact hmem

theorem calculateCIDR_distinct (h : calculateCIDR existing nps = .ok nps')
    (hknown : SubnetsKnown existing nps) (hapart : nps.Pairwise ReusedApart) :
    SubnetsDistinct nps' := by
  induction nps generalizing existing nps' with
  | nil =>
    cases h
    exact .nil
  | cons np nps ih =>
    obtain ⟨hfirst, hapart⟩ := List.pairwise_cons.mp hapart
    obtain ⟨hnp, hknown⟩ : _ ∧ SubnetsKnown existing nps := List.forall_mem_cons.mp hknown
    obtain ⟨rest, hsubnet, hrest, rfl⟩ | ⟨d, cidr, rest, hd, hempty, hget, hrest, rfl⟩ :=
      calculateCIDR_cons_eq_ok h
    · refine List.pairwise_cons.mpr
        ⟨fun np' hnp' d d' hd hd' hlocation => ?_, ih hrest hknown hapart⟩
      obtain ⟨np₀, hnp₀, hfrom⟩ := List.exists_mem_of_forall₂ (calculateCIDR_from hrest) hnp'
      obtain ⟨rfl, hsubnet'⟩ | ⟨d₀, cidr, hd₀, -, rfl, -, hunused⟩ := hfrom
      · exact hfirst np' hnp₀ d d' hd hd' (hsubnet d hd) (hsubnet' d' hd') hlocation
      · cases hd'
        intro heq
        have heq : d.cidr = cidr := heq
        have hmem := hnp d hd (hsubnet d hd)
        rw [providerRegion_congr hlocation, heq] at hmem
        exact hunused hmem
    · refine List.pairwise_cons.mpr ⟨fun np' hnp' d₁ d' hd₁ hd' hlocation => ?_,
        ih hrest hknown.appendAt hapart⟩
      cases hd₁
      obtain ⟨np₀, hnp₀, hfrom⟩ := List.exists_mem_of_forall₂ (calculateCIDR_from hrest) hnp'
      have hkey : DynamicNodePool.providerRegion d = DynamicNodePool.providerRegion d' :=
        providerRegion_congr hlocation
      obtain ⟨rfl, hsubnet'⟩ | ⟨d₀, cidr', hd₀, -, rfl, -, hunused⟩ := hfrom
      · intro heq
        have hmem := hknown np' hnp₀ d' hd' (hsubnet' d' hd')
        rw [← hkey, ← heq] at hmem
        exact (mem_subnets_of_getCIDR hget).2 hmem
      · cases hd'
        intro heq
        have heq : cidr = cidr' := heq
        have hkey : DynamicNodePool.providerRegion d = DynamicNodePool.providerRegion d₀ := hkey
        apply hunused
        rw [GoMap.getD_appendAt, if_pos hkey, heq]
        exact List.mem_append_right _ List.mem_cons_self

theorem missingSubnets_cons {κ : Type} [DecidableEq κ] (group : DynamicNodePool → κ) (k : κ)
    (np : NodePool) (nps : List NodePool) :
    missingSubnets group k (np :: nps)
      = (match np.dynamic? with
        | some d => if d.cidr = "" ∧ group d = k then 1 else 0
        | none => 0) + missingSubnets group k nps := by
  unfold missingSubnets
  cases hd : np.dynamic? with
  | none => rw [List.filterMap_cons_none hd, Nat.zero_add]
  | some d =>
    rw [List.filterMap_cons_some hd, List.countP_cons, Nat.add_comm]
    simp

theorem calculateCIDR_cons_of_hasSubnet {np : NodePool} (h : NodePool.HasSubnet np) :
    calculateCIDR existing (np :: nps) = (do
      let rest ← calculateCIDR existing nps
      pure (np :: rest)) :=
  calculateCIDR_of_hasSubnet (fun _ hnp => List.mem_singleton.mp hnp ▸ h) nps

theorem calculateCIDR_cons_of_empty {np : NodePool} {d : DynamicNodePool}
    (hd : np.type = .dynamic d) (hempty : d.cidr = "") :
    calculateCIDR existing (np :: nps) = (do
      let cidr ← getCIDR (existing.getD (DynamicNodePool.providerRegion d) [])
      let rest ← calculateCIDR (existing.appendAt (DynamicNodePool.providerRegion d) [cidr]) nps
      pure ({ np with type := .dynamic { d with cidr } } :: rest)) := by
  rw [calculateCIDR, hd]
  exact if_neg (not_not.mpr hempty)

-- The loop runs through iff there are subnets for all nodepools with the same text.
theorem calculateCIDR_isOk :
    (∃ nps', calculateCIDR existing nps = .ok nps')
      ↔ ∀ key, missingSubnets DynamicNodePool.providerRegion key nps
        ≤ (Allocation.free (existing.getD key []) subnets).length := by
  induction nps generalizing existing with
  | nil => simp [calculateCIDR, missingSubnets, pure, Except.pure]
  | cons np nps ih =>
    by_cases hsubnet : NodePool.HasSubnet np
    · have hmissing : ∀ key, missingSubnets DynamicNodePool.providerRegion key (np :: nps)
          = missingSubnets DynamicNodePool.providerRegion key nps := by
        intro key
        rw [missingSubnets_cons]
        cases hd : np.dynamic? with
        | none => exact Nat.zero_add _
        | some d =>
          have hne := hsubnet d (NodePool.dynamic?_eq_some.mp hd)
          simp [hne]
      rw [calculateCIDR_cons_of_hasSubnet hsubnet, Outcome.exists_bind_pure_eq_ok, ih]
      simp only [hmissing]
    · obtain ⟨d, hd, hempty⟩ : ∃ d, np.type = .dynamic d ∧ d.cidr = "" := by
        simpa [NodePool.HasSubnet] using hsubnet
      have hdynamic := NodePool.dynamic?_eq_some.mpr hd
      simp only [calculateCIDR_cons_of_empty hd hempty, missingSubnets_cons, hdynamic, hempty,
        true_and]
      cases hfree :
        Allocation.free (existing.getD (DynamicNodePool.providerRegion d) []) subnets with
      | nil =>
        have herror : getCIDR (existing.getD (DynamicNodePool.providerRegion d) [])
            = .error (.error "maximum number of IPs assigned") := by rw [getCIDR_eq, hfree]
        constructor
        · rintro ⟨nps', h⟩
          rw [herror] at h
          cases h
        · intro h
          have := h (DynamicNodePool.providerRegion d)
          rw [if_pos rfl, hfree] at this
          simp at this
      | cons cidr rest =>
        have hget : getCIDR (existing.getD (DynamicNodePool.providerRegion d) []) = .ok cidr := by
          rw [getCIDR_eq, hfree]
        rw [hget, Outcome.ok_bind, Outcome.exists_bind_pure_eq_ok, ih]
        refine forall_congr' fun key => ?_
        rw [GoMap.getD_appendAt]
        by_cases hkey : DynamicNodePool.providerRegion d = key
        · subst hkey
          rw [if_pos rfl, if_pos rfl, Allocation.free_append_singleton nodup_subnets hfree, hfree,
            List.length_cons]
          omega
        · rw [if_neg hkey, if_neg hkey, Nat.zero_add]

theorem reusedApart (hcurrent : SubnetsDistinct current) (hreused : SubnetsReused current nps) :
    nps.Pairwise ReusedApart := by
  have hnames : nps.Pairwise (fun np np' => np.name ≠ np'.name) :=
    List.pairwise_map.mp hreused.names
  refine hnames.imp_of_mem fun hnp hnp' hne d d' hd hd' hcidr hcidr' hlocation => ?_
  obtain ⟨c₀, hc₀, hname, e, he, hsame, hloc⟩ := hreused.carried _ hnp d hd hcidr
  obtain ⟨c₁, hc₁, hname', e', he', hsame', hloc'⟩ := hreused.carried _ hnp' d' hd' hcidr'
  have : Std.Symm SubnetsApart :=
    ⟨fun _ _ h d d' hd hd' hloc heq => h d' d hd' hd hloc.symm heq.symm⟩
  have hapart := hcurrent.forall hc₀ hc₁ fun heq => hne (by rw [← hname, ← hname', heq])
  rw [← hsame, ← hsame']
  exact hapart e e' he he' (by rw [hloc, hloc', hlocation])

theorem subnetsKnown (hreused : SubnetsReused current nps) :
    SubnetsKnown (existingCIDRs current) nps := by
  intro np hnp d hd hne
  obtain ⟨c₀, hc₀, -, e, he, hsame, hloc⟩ := hreused.carried np hnp d hd hne
  rw [getD_existingCIDRs, ← providerRegion_congr hloc, ← hsame]
  refine List.mem_map_of_mem (List.mem_filter.mpr ⟨List.mem_filterMap.mpr ⟨c₀, hc₀, ?_⟩, by simp⟩)
  exact NodePool.dynamic?_eq_some.mpr he

theorem takenSubnets_subset {d : DynamicNodePool} :
    takenSubnets DynamicNodePool.location (DynamicNodePool.location d) nps
      ⊆ takenSubnets DynamicNodePool.providerRegion (DynamicNodePool.providerRegion d) nps := by
  intro cidr hcidr
  obtain ⟨d', hd', rfl⟩ := List.mem_map.mp hcidr
  obtain ⟨hmem, hlocation⟩ := List.mem_filter.mp hd'
  refine List.mem_map_of_mem (List.mem_filter.mpr ⟨hmem, ?_⟩)
  simpa using providerRegion_congr (by simpa using hlocation)

theorem subnetsAssigned (hcurrent : SubnetsDistinct current) (hreused : SubnetsReused current nps)
    (h : calculateCIDR (existingCIDRs current) nps = .ok nps') :
    SubnetsAssigned current nps nps' := by
  have hfrom := calculateCIDR_from h
  refine ⟨fun np' hnp' d' hd' => ?_, ?_, hfrom.imp fun np np' h => ?_,
    hfrom.imp fun np np' h d d' hd hempty hd' hmem => ?_⟩
  · obtain ⟨np, -, ⟨rfl, hsubnet⟩ | ⟨d, cidr, -, -, rfl, hne, -⟩⟩ :=
      List.exists_mem_of_forall₂ hfrom hnp'
    · exact hsubnet d' hd'
    · cases hd'
      exact hne
  · exact calculateCIDR_distinct h (subnetsKnown hreused) (reusedApart hcurrent hreused)
  · obtain h | ⟨d, cidr, hd, hempty, rfl, -⟩ := h
    · exact .inl h
    · exact .inr ⟨d, cidr, hd, hempty, rfl⟩
  · obtain ⟨rfl, hsubnet⟩ | ⟨d₀, cidr, hd₀, -, rfl, -, hunused⟩ := h
    · exact hsubnet d hd hempty
    · rw [hd] at hd₀
      cases hd₀
      cases hd'
      rw [getD_existingCIDRs] at hunused
      exact hunused (takenSubnets_subset hmem)

end Subnets

section Clusters

variable {current desired result : Clusters}

def k8sSubnets (current : Clusters) : Option K8scluster → Outcome (Option K8scluster)
  | none => pure none
  | some k8s => do
    let nps ← calculateCIDR (existingCIDRs (Clusters.k8sNodePools current))
      k8s.clusterInfo.nodePools
    pure (some (K8scluster.withNodePools k8s nps))

def lbSubnets (current : Clusters) (lb : LBcluster) : Outcome LBcluster := do
  let nps ← calculateCIDR (existingCIDRs (Clusters.lbNodePools current lb.id))
    lb.clusterInfo.nodePools
  pure (LBcluster.withNodePools lb nps)

theorem generateMissingCIDR_eq (current desired : Clusters) :
    generateMissingCIDR current desired = (do
      let k8s ← k8sSubnets current desired.k8s
      let lbs ← desired.loadBalancers.mapM (lbSubnets current)
      pure ⟨k8s, lbs⟩) := by
  unfold generateMissingCIDR
  cases desired.k8s with
  | none => rfl
  | some k8s =>
    rw [k8sSubnets, bind_assoc]
    rfl

theorem generateMissingCIDR_eq_ok (h : generateMissingCIDR current desired = .ok result) :
    (subnetClusters current desired).Forall₂
      (fun c nps' => calculateCIDR (existingCIDRs c.1) c.2 = .ok nps')
      (Clusters.nodePoolLists result) := by
  rw [generateMissingCIDR_eq] at h
  obtain ⟨k8s, hk8s, h⟩ := Outcome.bind_eq_ok.mp h
  obtain ⟨lbs, hlbs, h⟩ := Outcome.bind_eq_ok.mp h
  cases h
  have hlbs' : (desired.loadBalancers.map fun lb =>
      (Clusters.lbNodePools current lb.id, lb.clusterInfo.nodePools)).Forall₂
      (fun c nps' => calculateCIDR (existingCIDRs c.1) c.2 = .ok nps')
      (lbs.map (·.clusterInfo.nodePools)) := by
    rw [List.forall₂_map_left_iff, List.forall₂_map_right_iff]
    refine (Outcome.mapM_eq_ok.mp hlbs).imp fun lb lb' hlb => ?_
    obtain ⟨nps, hnps, hlb⟩ := Outcome.bind_eq_ok.mp hlb
    cases hlb
    exact hnps
  unfold subnetClusters Clusters.nodePoolLists
  cases hk : desired.k8s with
  | none =>
    rw [hk] at hk8s
    cases hk8s
    exact hlbs'
  | some k =>
    rw [hk] at hk8s
    obtain ⟨nps, hnps, hk8s⟩ := Outcome.bind_eq_ok.mp hk8s
    cases hk8s
    exact .cons hnps hlbs'

theorem generateMissingCIDR_isOk (h : ∀ c ∈ subnetClusters current desired,
      ∃ nps', calculateCIDR (existingCIDRs c.1) c.2 = .ok nps') :
    ∃ result, generateMissingCIDR current desired = .ok result := by
  obtain ⟨hk, hlbs⟩ := List.forall_mem_append.mp h
  rw [List.forall_mem_map] at hlbs
  obtain ⟨lbs, hmap⟩ : ∃ lbs, desired.loadBalancers.mapM (lbSubnets current) = .ok lbs :=
    Outcome.exists_mapM_eq_ok.mpr fun lb hlb => Outcome.exists_bind_pure_eq_ok.mpr (hlbs lb hlb)
  obtain ⟨k8s, hk8s⟩ : ∃ k8s, k8sSubnets current desired.k8s = .ok k8s := by
    cases hdesired : desired.k8s with
    | none => exact ⟨none, rfl⟩
    | some k =>
      refine Outcome.exists_bind_pure_eq_ok.mpr (hk (_, k.clusterInfo.nodePools) ?_)
      rw [hdesired]
      exact List.mem_singleton.mpr rfl
  refine ⟨⟨k8s, lbs⟩, ?_⟩
  rw [generateMissingCIDR_eq, hk8s, Outcome.ok_bind, hmap, Outcome.ok_bind]
  rfl

theorem calculateCIDR_isOk_iff {current nps : List NodePool} :
    (∃ nps', calculateCIDR (existingCIDRs current) nps = .ok nps')
      ↔ ¬ Exhausted DynamicNodePool.providerRegion current nps := by
  rw [calculateCIDR_isOk, Exhausted, not_exists]
  refine forall_congr' fun key => ?_
  rw [getD_existingCIDRs, not_lt]

theorem generateMissingCIDR_eq_error_iff :
    (∃ e, generateMissingCIDR current desired = .error e)
      ↔ ∃ c ∈ subnetClusters current desired,
        Exhausted DynamicNodePool.providerRegion c.1 c.2 := by
  constructor
  · rintro ⟨e, he⟩
    by_contra hnone
    simp only [not_exists, not_and] at hnone
    obtain ⟨result, hresult⟩ := generateMissingCIDR_isOk fun c hc =>
      calculateCIDR_isOk_iff.mpr (hnone c hc)
    rw [hresult] at he
    cases he
  · rintro ⟨c, hc, hexhausted⟩
    cases h : generateMissingCIDR current desired with
    | error e => exact ⟨e, rfl⟩
    | ok result =>
      obtain ⟨nps', -, hnps'⟩ := List.exists_mem_of_forall₂ (generateMissingCIDR_eq_ok h).flip hc
      exact absurd hexhausted (calculateCIDR_isOk_iff.mp ⟨nps', hnps'⟩)

theorem subnetsDistinct_of_mem {c : List NodePool × List NodePool}
    (hcurrent : ∀ nps ∈ Clusters.nodePoolLists current, SubnetsDistinct nps)
    (hc : c ∈ subnetClusters current desired) : SubnetsDistinct c.1 := by
  rcases List.mem_append.mp hc with hc | hc
  · obtain ⟨k, -, rfl⟩ := Option.map_eq_some_iff.mp (Option.mem_toList.mp hc)
    dsimp only
    unfold Clusters.k8sNodePools
    cases hk : current.k8s with
    | none => exact .nil
    | some k' =>
      exact hcurrent _ (List.mem_append_left _ (by rw [hk]; exact List.mem_singleton.mpr rfl))
  · obtain ⟨lb, -, rfl⟩ := List.mem_map.mp hc
    dsimp only
    unfold Clusters.lbNodePools
    cases hlb : Clusters.findLoadbalancerById lb.id current.loadBalancers with
    | none => exact .nil
    | some lb' =>
      have hmem := List.mem_of_find?_eq_some hlb
      exact hcurrent _ (List.mem_append_right _ (List.mem_map_of_mem hmem))

end Clusters

structure SubnetsCorrect (current desired : Clusters) : Prop where
  assigned : ∀ result, generateMissingCIDR current desired = .ok result →
    (subnetClusters current desired).Forall₂ (fun c nps' => SubnetsAssigned c.1 c.2 nps')
      (Clusters.nodePoolLists result)
  exhausted : ∀ e, generateMissingCIDR current desired = .error e →
    ∃ c ∈ subnetClusters current desired, Exhausted DynamicNodePool.location c.1 c.2

theorem subnets_correct_iff (current desired : Clusters)
    (hcurrent : ∀ nps ∈ Clusters.nodePoolLists current, SubnetsDistinct nps)
    (hreused : ∀ c ∈ subnetClusters current desired, SubnetsReused c.1 c.2) :
    SubnetsCorrect current desired
      ↔ ((∃ c ∈ subnetClusters current desired,
          Exhausted DynamicNodePool.providerRegion c.1 c.2) →
        ∃ c ∈ subnetClusters current desired, Exhausted DynamicNodePool.location c.1 c.2) := by
  rw [← generateMissingCIDR_eq_error_iff]
  constructor
  · rintro hcorrect ⟨e, he⟩
    exact hcorrect.exhausted e he
  · intro hexhausted
    refine ⟨fun result hresult => ?_, fun e he => hexhausted ⟨e, he⟩⟩
    have hclusters : ∀ c ∈ subnetClusters current desired,
        SubnetsDistinct c.1 ∧ SubnetsReused c.1 c.2 :=
      fun c hc => ⟨subnetsDistinct_of_mem hcurrent hc, hreused c hc⟩
    refine ((List.forall₂_and_left _ _).mpr
      ⟨hclusters, generateMissingCIDR_eq_ok hresult⟩).imp fun c nps' h => ?_
    exact subnetsAssigned h.1.1 h.1.2 h.2

namespace Demo.Subnets

def dynamic (specName region cidr : String) : DynamicNodePool :=
  { serverType := "", image := "", storageDiskSize := 0, region, zone := "", count := 0
    provider := ⟨specName, "aws", .aws "" "", ⟨"", "", "", none, ⟨"", "", "", "", ""⟩⟩⟩
    autoscalerConfig := none, machineSpec := none, publicKey := "", privateKey := "", cidr
    externalNetworkName := "", spot := false }

def pool (i : Nat) (d : DynamicNodePool) : NodePool :=
  { type := .dynamic d, name := toString i, nodes := [], isControl := false, labels := ∅
    taints := [], annotations := ∅, sshPort := 22 }

def clusters (nodePools : List NodePool) : Clusters :=
  ⟨some { clusterInfo := ⟨"main", "abcdefg", nodePools⟩, network := "", kubeconfig := ""
          kubernetes := "", installationProxy := ⟨"off", "", ""⟩ }, []⟩

-- Half of the subnets are taken in the region "eu-west" of "aws", the others in "west" of "aws-eu".
def place (i : Nat) : DynamicNodePool :=
  if i < 128 then dynamic "aws" "eu-west" (subnetCIDR i) else dynamic "aws-eu" "west" (subnetCIDR i)

def crowded : List NodePool := (List.range 256).map (fun i => pool i (place i))

def new : NodePool := pool 256 (dynamic "aws" "eu-west" "")

theorem cidr_place (i : Nat) : (place i).cidr = subnetCIDR i := by
  unfold place
  split <;> rfl

theorem providerRegion_place (i : Nat) :
    DynamicNodePool.providerRegion (place i) = "aws-eu-west" := by
  unfold place
  split <;> rfl

theorem dynamic_crowded : crowded.filterMap NodePool.dynamic? = (List.range 256).map place := by
  rw [crowded, List.filterMap_map, ← List.filterMap_eq_map]
  rfl

theorem subnetsDistinct_crowded : SubnetsDistinct crowded := by
  rw [SubnetsDistinct, crowded, List.pairwise_map]
  refine List.nodup_range.imp fun {i j} hij d d' hd hd' _ heq => hij ?_
  cases hd
  cases hd'
  rw [cidr_place, cidr_place] at heq
  exact subnetCIDR_inj heq

theorem subnetsReused_crowded : SubnetsReused crowded (crowded ++ [new]) := by
  have hnames : (crowded ++ [new]).map (·.name) = (List.range 257).map toString := by
    rw [List.range_succ, List.map_append, List.map_append, crowded, List.map_map]
    rfl
  refine ⟨?_, fun np hnp d hd hne => ?_⟩
  · rw [hnames]
    exact List.nodup_range.map fun i j h => Netip.toDigits_inj (String.ofList_injective h)
  · rcases List.mem_append.mp hnp with hnp | hnp
    · exact ⟨np, hnp, rfl, d, hd, rfl, rfl⟩
    · cases List.mem_singleton.mp hnp
      cases hd
      exact absurd rfl hne

theorem missingSubnets_crowded {κ : Type} [DecidableEq κ] (group : DynamicNodePool → κ) (k : κ) :
    missingSubnets group k (crowded ++ [new])
      = if group (dynamic "aws" "eu-west" "") = k then 1 else 0 := by
  have hnone : ((List.range 256).map place).countP (fun d => d.cidr = "" && group d = k) = 0 := by
    rw [List.countP_eq_zero]
    intro d hd
    obtain ⟨i, -, rfl⟩ := List.mem_map.mp hd
    simp [cidr_place, subnetCIDR_ne_empty]
  rw [missingSubnets, List.filterMap_append, List.countP_append, dynamic_crowded, hnone,
    Nat.zero_add]
  have hnew : [new].filterMap NodePool.dynamic? = [dynamic "aws" "eu-west" ""] := rfl
  have hempty : (dynamic "aws" "eu-west" "").cidr = "" := rfl
  rw [hnew, List.countP_singleton]
  simp [hempty]

theorem exhausted_crowded :
    Exhausted DynamicNodePool.providerRegion crowded (crowded ++ [new]) := by
  refine ⟨"aws-eu-west", ?_⟩
  have hfree : Allocation.free
      (takenSubnets DynamicNodePool.providerRegion "aws-eu-west" crowded) subnets = [] := by
    rw [Allocation.free, List.filter_eq_nil_iff]
    intro cidr hcidr
    obtain ⟨i, hi, rfl⟩ := List.mem_map.mp hcidr
    have hmem :
        subnetCIDR i ∈ takenSubnets DynamicNodePool.providerRegion "aws-eu-west" crowded := by
      rw [← cidr_place i, takenSubnets, dynamic_crowded]
      refine List.mem_map_of_mem (List.mem_filter.mpr ⟨List.mem_map_of_mem hi, ?_⟩)
      rw [providerRegion_place, decide_eq_true_eq]
    simpa using hmem
  rw [hfree, missingSubnets_crowded, if_pos (by rfl)]
  exact Nat.zero_lt_one

theorem not_exhausted_crowded :
    ¬ Exhausted DynamicNodePool.location crowded (crowded ++ [new]) := by
  rintro ⟨k, hk⟩
  rw [missingSubnets_crowded] at hk
  split at hk
  next heq =>
    subst heq
    have hmem : subnetCIDR 255 ∈ Allocation.free
        (takenSubnets DynamicNodePool.location ("aws", "eu-west") crowded) subnets := by
      refine List.mem_filter.mpr ⟨List.mem_map_of_mem (List.mem_range.mpr (by decide)), ?_⟩
      rw [Bool.not_eq_true', ← Bool.not_eq_true, List.contains_iff_mem, takenSubnets,
        dynamic_crowded]
      intro htaken
      obtain ⟨d, hd, hcidr⟩ := List.mem_map.mp htaken
      obtain ⟨hd, hlocation⟩ := List.mem_filter.mp hd
      obtain ⟨i, -, rfl⟩ := List.mem_map.mp hd
      rw [cidr_place] at hcidr
      cases subnetCIDR_inj hcidr
      revert hlocation
      decide
    exact absurd (List.length_pos_of_mem hmem) (Nat.not_lt.mpr (Nat.lt_one_iff.mp hk).le)
  next => omega

end Demo.Subnets

theorem subnets_correct_of_new_nodepool :
    SubnetsCorrect (Demo.Subnets.clusters []) (Demo.Subnets.clusters [Demo.Subnets.new]) :=
  (subnets_correct_iff _ _ (by
    intro nps hnps
    cases List.mem_singleton.mp hnps
    exact .nil) (by
    intro c hc
    cases List.mem_singleton.mp hc
    refine ⟨by decide, fun np hnp d hd hne => ?_⟩
    cases List.mem_singleton.mp hnp
    cases hd
    exact absurd rfl hne)).mpr (by
    intro hexhausted
    obtain ⟨e, he⟩ := generateMissingCIDR_eq_error_iff.mpr hexhausted
    have hok : (generateMissingCIDR (Demo.Subnets.clusters [])
        (Demo.Subnets.clusters [Demo.Subnets.new])).isOk = true := rfl
    rw [he] at hok
    cases hok)

theorem subnets_shared_by_two_providers :
    (∀ nps ∈ Clusters.nodePoolLists (Demo.Subnets.clusters Demo.Subnets.crowded),
        SubnetsDistinct nps)
      ∧ (∀ c ∈ subnetClusters (Demo.Subnets.clusters Demo.Subnets.crowded)
          (Demo.Subnets.clusters (Demo.Subnets.crowded ++ [Demo.Subnets.new])),
        SubnetsReused c.1 c.2)
      ∧ ¬ SubnetsCorrect (Demo.Subnets.clusters Demo.Subnets.crowded)
        (Demo.Subnets.clusters (Demo.Subnets.crowded ++ [Demo.Subnets.new])) := by
  refine ⟨fun nps hnps => ?_, fun c hc => ?_, fun hcorrect => ?_⟩
  · cases List.mem_singleton.mp hnps
    exact Demo.Subnets.subnetsDistinct_crowded
  · cases List.mem_singleton.mp hc
    exact Demo.Subnets.subnetsReused_crowded
  · obtain ⟨e, he⟩ : ∃ e, generateMissingCIDR (Demo.Subnets.clusters Demo.Subnets.crowded)
        (Demo.Subnets.clusters (Demo.Subnets.crowded ++ [Demo.Subnets.new])) = .error e :=
      generateMissingCIDR_eq_error_iff.mpr
        ⟨(Demo.Subnets.crowded, Demo.Subnets.crowded ++ [Demo.Subnets.new]),
          List.mem_singleton.mpr rfl, Demo.Subnets.exhausted_crowded⟩
    obtain ⟨c, hc, hexhausted⟩ := hcorrect.exhausted e he
    cases List.mem_singleton.mp hc
    exact Demo.Subnets.not_exhausted_crowded hexhausted

end Manager

end Claudie
