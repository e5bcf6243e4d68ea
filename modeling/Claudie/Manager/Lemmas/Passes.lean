import Claudie.Lib.Keyed
import Claudie.Manager.Lemmas.DesiredState
import Claudie.Manager.Lemmas.GenerateState

/-!
What each pass over the desired state of a cluster does with the nodepools.
-/

namespace FuelOutcome

variable {α β : Type}

theorem bind_eq_ok {x : FuelOutcome α} {f : α → FuelOutcome β} {b : β} :
    (x >>= f).run = some (.ok b) ↔ ∃ a, x.run = some (.ok a) ∧ (f a).run = some (.ok b) := by
  rw [ExceptT.run_bind]
  constructor
  · intro h
    obtain ⟨r, hr, h⟩ := Option.bind_eq_some_iff.mp h
    cases r with
    | error e => cases h
    | ok a => exact ⟨a, hr, h⟩
  · rintro ⟨a, ha, h⟩
    rw [ha]
    exact h

theorem ofOutcome_eq_ok {x : Outcome α} {a : α} : (ofOutcome x).run = some (.ok a) ↔ x = .ok a :=
  ⟨fun h => Option.some.inj h, fun h => congrArg some h⟩

theorem lift_eq_ok {x : Option α} {a : α} :
    (ExceptT.lift x : FuelOutcome α).run = some (.ok a) ↔ x = some a := by
  rw [ExceptT.run_lift]
  cases x with
  | none => simp
  | some b =>
    constructor
    · intro h
      cases h
      rfl
    · intro h
      cases h
      rfl

theorem pure_eq_ok {a b : α} : (pure a : FuelOutcome α).run = some (.ok b) ↔ a = b :=
  ⟨fun h => Except.ok.inj (Option.some.inj h), fun h => h ▸ rfl⟩

theorem foldlM_insert_eq_ok {f : String → α → FuelOutcome β} {l : List (String × α)}
    (hnodup : (l.map (·.1)).Nodup) {done done' : GoMap β}
    (h : (l.foldlM (fun (done : GoMap β) (k, a) => do
      let b ← f k a
      pure (done.insert k b)) done).run = some (.ok done')) (k : String) :
    (∀ a, (k, a) ∈ l → ∃ b, (f k a).run = some (.ok b) ∧ done'[k]? = some b)
      ∧ (k ∉ l.map (·.1) → done'[k]? = done[k]?) := by
  induction l generalizing done with
  | nil =>
    rw [List.foldlM_nil] at h
    cases pure_eq_ok.mp h
    exact ⟨fun a ha => (by cases ha), fun _ => rfl⟩
  | cons ka l ih =>
    obtain ⟨k', a'⟩ := ka
    rw [List.map_cons, List.nodup_cons] at hnodup
    rw [List.foldlM_cons] at h
    obtain ⟨done₁, hstep, h⟩ := bind_eq_ok.mp h
    obtain ⟨b, hb, hstep⟩ := bind_eq_ok.mp hstep
    cases pure_eq_ok.mp hstep
    obtain ⟨hin, hout⟩ := ih hnodup.2 h
    refine ⟨fun a ha => ?_, fun hk => ?_⟩
    · cases ha with
      | head => exact ⟨b, hb, by rw [hout hnodup.1, GoMap.getElem?_insert, if_pos rfl]⟩
      | tail _ ha => exact hin a ha
    · rw [List.map_cons, List.mem_cons, not_or] at hk
      rw [hout hk.2, GoMap.getElem?_insert, if_neg (Ne.symm hk.1)]

theorem mapEntries_eq_ok {ord : MapOrder} {loop : String} {f : String → α → FuelOutcome β}
    {m : GoMap α} {m' : GoMap β} (h : (mapEntries ord loop f m).run = some (.ok m'))
    (k : String) :
    (∀ a, m[k]? = some a → ∃ b, (f k a).run = some (.ok b) ∧ m'[k]? = some b)
      ∧ (m[k]? = none → m'[k]? = none) := by
  obtain ⟨hin, hout⟩ := foldlM_insert_eq_ok (MapOrder.nodup_keys_range ord) h k
  refine ⟨fun a ha => hin a ((MapOrder.mem_range ord).mpr ha), fun hnone => ?_⟩
  rw [hout, Std.ExtTreeMap.getElem?_empty]
  intro hmem
  obtain ⟨⟨k', a⟩, ha, rfl⟩ := List.mem_map.mp hmem
  rw [(MapOrder.mem_range ord).mp ha] at hnone
  cases hnone

end FuelOutcome

namespace Claudie

namespace Manager

variable {fuel : Nat} {gen : Generator} {draws : Draws} {ord : MapOrder} {m : Claudie.Manifest}
  {current : Clusters} {clusters : GoMap ClusterState} {d d' : DesiredCluster}

theorem desiredState_eq_ok {result : GoMap DesiredCluster}
    (h : (desiredState fuel draws ord m clusters).run = some (.ok result)) :
    ∃ skeleton, Skeleton m draws skeleton ∧ ∀ name,
      (∀ d, skeleton[name]? = some d → ∃ d₁ d', result[name]? = some d'
        ∧ (reuseExistingState fuel (draws.cluster name) m (currentOf clusters name) d).run
          = some (.ok d₁)
        ∧ populateMissingState (draws.cluster name) d₁ = .ok d')
      ∧ (skeleton[name]? = none → result[name]? = none) := by
  unfold desiredState at h
  obtain ⟨k8ss, hk8ss, h⟩ := FuelOutcome.bind_eq_ok.mp h
  obtain ⟨skeleton, hlbs, h⟩ := FuelOutcome.bind_eq_ok.mp h
  obtain ⟨reused, hreused, h⟩ := FuelOutcome.bind_eq_ok.mp h
  refine ⟨skeleton, ⟨k8ss, Outcome.wrap_eq_ok.mp (FuelOutcome.ofOutcome_eq_ok.mp hk8ss),
    Outcome.wrap_eq_ok.mp (FuelOutcome.ofOutcome_eq_ok.mp hlbs)⟩, fun name => ?_⟩
  obtain ⟨hin, hout⟩ := FuelOutcome.mapEntries_eq_ok hreused name
  obtain ⟨hin', hout'⟩ := FuelOutcome.mapEntries_eq_ok h name
  refine ⟨fun d hd => ?_, fun hnone => hout' (hout hnone)⟩
  obtain ⟨d₁, hd₁, hentry⟩ := hin d hd
  obtain ⟨d', hd', hentry'⟩ := hin' d₁ hentry
  exact ⟨d₁, d', hentry', hd₁, FuelOutcome.ofOutcome_eq_ok.mp hd'⟩

theorem cidrs_eq_ok {reused : DesiredCluster} (h : (do
      let clusters ← FuelOutcome.ofOutcome (Outcome.wrap "failed to generate CIDRs for nodepools: "
        (generateMissingCIDR current reused.clusters))
      let k8s ← FuelOutcome.ofOutcome (Outcome.deref clusters.k8s)
      pure { k8s, loadBalancers := clusters.loadBalancers }
      : FuelOutcome DesiredCluster).run = some (.ok d')) :
    generateMissingCIDR current reused.clusters = .ok d'.clusters := by
  obtain ⟨⟨k8s, lbs⟩, hcidr, h⟩ := FuelOutcome.bind_eq_ok.mp h
  obtain ⟨k8s', hk8s, h⟩ := FuelOutcome.bind_eq_ok.mp h
  cases FuelOutcome.pure_eq_ok.mp h
  cases Outcome.deref_eq_ok.mp (FuelOutcome.ofOutcome_eq_ok.mp hk8s)
  exact Outcome.wrap_eq_ok.mp (FuelOutcome.ofOutcome_eq_ok.mp hcidr)

theorem reuseExistingState_eq_ok
    (h : (reuseExistingState fuel gen m current d).run = some (.ok d')) :
    ∃ resolved drawn deduplicated reused,
      resolveDynamicNodePoolReferences fuel gen current m.types d 0 = some (resolved, drawn)
      ∧ deduplicateStaticNodeNames current resolved = .ok deduplicated
      ∧ (if current.k8s.isSome then ∃ transferred,
          transferImmutableState current deduplicated = .ok transferred
            ∧ reused = fixupAutoscalerCounts transferred
        else reused = deduplicated)
      ∧ generateMissingCIDR current reused.clusters = .ok d'.clusters := by
  unfold reuseExistingState at h
  dsimp only at h
  obtain ⟨⟨resolved, drawn⟩, hresolved, h⟩ := FuelOutcome.bind_eq_ok.mp h
  obtain ⟨deduplicated, hdeduplicated, h⟩ := FuelOutcome.bind_eq_ok.mp h
  have hresolved := FuelOutcome.lift_eq_ok.mp hresolved
  have hdeduplicated := FuelOutcome.ofOutcome_eq_ok.mp hdeduplicated
  split at h
  next hsome =>
    obtain ⟨transferred, htransferred, h⟩ := FuelOutcome.bind_eq_ok.mp h
    obtain ⟨reused, hreused, h⟩ := FuelOutcome.bind_eq_ok.mp h
    cases FuelOutcome.pure_eq_ok.mp hreused
    refine ⟨resolved, drawn, deduplicated, _, hresolved, hdeduplicated, ?_, cidrs_eq_ok h⟩
    rw [if_pos hsome]
    exact ⟨transferred, FuelOutcome.ofOutcome_eq_ok.mp htransferred, rfl⟩
  next hnone =>
    obtain ⟨reused, hreused, h⟩ := FuelOutcome.bind_eq_ok.mp h
    cases FuelOutcome.pure_eq_ok.mp hreused
    exact ⟨resolved, drawn, deduplicated, _, hresolved, hdeduplicated, by rw [if_neg hnone],
      cidrs_eq_ok h⟩

theorem populateMissingState_eq_ok (h : populateMissingState gen d = .ok d') :
    ∃ d₁ d₂ d₃ d₄, populateSSHKeys gen d = .ok d₁ ∧ populateDnsHostName gen d₁ = .ok d₂
      ∧ populateDynamicNodesForClusters d₂ = .ok d₃ ∧ populateEnvoyAdminPorts d₃ = .ok d₄
      ∧ d' = populateDefaultHealthcheckRole d₄ := by
  unfold populateMissingState at h
  obtain ⟨d₁, h₁, h⟩ := Outcome.bind_eq_ok.mp h
  obtain ⟨d₂, h₂, h⟩ := Outcome.bind_eq_ok.mp h
  obtain ⟨d₃, h₃, h⟩ := Outcome.bind_eq_ok.mp h
  obtain ⟨d₄, h₄, h⟩ := Outcome.bind_eq_ok.mp h
  exact ⟨d₁, d₂, d₃, d₄, h₁, h₂, h₃, h₄, (Except.ok.inj h).symm⟩

def PoolRole.isKubernetes : PoolRole → Bool
  | .loadBalancer _ => false
  | _ => true

def Slotwise (R : PoolRole → NodePool → NodePool → Prop) (d d' : DesiredCluster) : Prop :=
  List.Forall₂ (fun s s' => s'.1 = s.1 ∧ R s.1 s.2 s'.2) d.slots d'.slots

section Slotwise

variable {R R' : PoolRole → NodePool → NodePool → Prop} {nps nps' : List NodePool}
  {lbs lbs' : List LBcluster}

theorem kubernetesSlots_forall₂ (h : List.Forall₂ (fun np np' => np'.isControl = np.isControl
      ∧ ∀ role, role.isKubernetes = true → R role np np') nps nps') :
    List.Forall₂ (fun s s' => s'.1 = s.1 ∧ R s.1 s.2 s'.2) (kubernetesSlots nps)
      (kubernetesSlots nps') := by
  unfold kubernetesSlots
  rw [List.forall₂_map_left_iff, List.forall₂_map_right_iff]
  refine h.imp (fun np np' hnp => ⟨by rw [hnp.1], hnp.2 _ ?_⟩)
  cases np.isControl <;> rfl

theorem lbSlots_forall₂ (h : List.Forall₂ (fun lb lb' =>
      lb'.clusterInfo.name = lb.clusterInfo.name ∧ List.Forall₂ (R (.loadBalancer lb.clusterInfo.name))
        lb.clusterInfo.nodePools lb'.clusterInfo.nodePools) lbs lbs') :
    List.Forall₂ (fun s s' => s'.1 = s.1 ∧ R s.1 s.2 s'.2) (lbs.flatMap lbSlots)
      (lbs'.flatMap lbSlots) := by
  induction h with
  | nil => exact .nil
  | @cons lb lb' lbs lbs' hlb _ ih =>
    rw [List.flatMap_cons, List.flatMap_cons]
    refine List.rel_append ?_ ih
    unfold lbSlots
    rw [List.forall₂_map_left_iff, List.forall₂_map_right_iff]
    exact hlb.2.imp (fun np np' hnp => ⟨by rw [hlb.1], hnp⟩)

theorem Slotwise.of (hk8s : List.Forall₂ (fun np np' => np'.isControl = np.isControl
      ∧ ∀ role, role.isKubernetes = true → R role np np')
      d.k8s.clusterInfo.nodePools d'.k8s.clusterInfo.nodePools)
    (hlbs : List.Forall₂ (fun lb lb' => lb'.clusterInfo.name = lb.clusterInfo.name
      ∧ List.Forall₂ (R (.loadBalancer lb.clusterInfo.name)) lb.clusterInfo.nodePools
        lb'.clusterInfo.nodePools) d.loadBalancers d'.loadBalancers) :
    Slotwise R d d' :=
  List.rel_append (kubernetesSlots_forall₂ hk8s) (lbSlots_forall₂ hlbs)

theorem Slotwise.imp (h : Slotwise R d d') (himp : ∀ role np np', R role np np' → R' role np np') :
    Slotwise R' d d' :=
  List.Forall₂.imp (fun _ _ hs => ⟨hs.1, himp _ _ _ hs.2⟩) h

theorem Slotwise.getElem? (h : Slotwise R d d') {i : Nat} {s : Slot} (hs : d.slots[i]? = some s) :
    ∃ np', d'.slots[i]? = some (s.1, np') ∧ R s.1 s.2 np' := by
  obtain ⟨hlength, hat⟩ := List.forall₂_iff_getElem?.mp h
  obtain ⟨⟨role, np'⟩, hs'⟩ : ∃ s', d'.slots[i]? = some s' :=
    ⟨_, List.getElem?_eq_getElem (hlength ▸ (List.getElem?_eq_some_iff.mp hs).1)⟩
  obtain ⟨hrole, hR⟩ := hat i s _ hs hs'
  cases hrole
  exact ⟨np', hs', hR⟩

theorem Slotwise.comp {d'' : DesiredCluster} (h : Slotwise R d d') (h' : Slotwise R' d' d'') :
    Slotwise (fun role np np'' => ∃ np', R role np np' ∧ R' role np' np'') d d'' :=
  List.forall₂_trans h h' (fun s s' _ h h' => ⟨h'.1.trans h.1, s'.2, h.2, h.1 ▸ h'.2⟩)

theorem Slotwise.congr {e e' : DesiredCluster} (h : Slotwise R d d') (he : e.slots = d.slots)
    (he' : e'.slots = d'.slots) : Slotwise R e e' := by
  unfold Slotwise
  rw [he, he']
  exact h

end Slotwise

structure PoolsChanged (R : NodePool → NodePool → Prop) (d d' : DesiredCluster) : Prop where
  k8s : ∃ nps, d'.k8s = d.k8s.withNodePools nps ∧ List.Forall₂ R d.k8s.clusterInfo.nodePools nps
  loadBalancers : List.Forall₂ (fun lb lb' => ∃ nps, lb' = LBcluster.withNodePools lb nps
    ∧ List.Forall₂ R lb.clusterInfo.nodePools nps) d.loadBalancers d'.loadBalancers

theorem PoolsChanged.slotwise {R : NodePool → NodePool → Prop} (h : PoolsChanged R d d')
    (hcontrol : ∀ {np np'}, R np np' → np'.isControl = np.isControl) :
    Slotwise (fun _ => R) d d' := by
  obtain ⟨nps, hk8s, hnps⟩ := h.k8s
  refine .of ?_ (h.loadBalancers.imp (fun lb lb' hlb => ?_))
  · rw [hk8s]
    exact hnps.imp (fun np np' hnp => ⟨hcontrol hnp, fun _ _ => hnp⟩)
  · obtain ⟨nps, rfl, hnps⟩ := hlb
    exact ⟨rfl, hnps⟩

section Passes

theorem fixupAutoscalerCount_nodes (np : NodePool) :
    fixupAutoscalerCount np = { np with nodes := (fixupAutoscalerCount np).nodes } := by
  unfold fixupAutoscalerCount
  split
  · rfl
  · split
    · rfl
    · split <;> rfl

theorem fixupAutoscalerCounts_slotwise (d : DesiredCluster) :
    Slotwise (fun role np np' => np' = if role.isKubernetes then fixupAutoscalerCount np else np) d
      (fixupAutoscalerCounts d) := by
  refine .of ?_ (List.forall₂_same.mpr (fun lb _ => ⟨rfl, List.forall₂_same.mpr fun np _ => rfl⟩))
  rw [fixupAutoscalerCounts, K8scluster.withNodePools, List.forall₂_map_right_iff]
  exact List.forall₂_same.mpr (fun np _ =>
    ⟨by rw [fixupAutoscalerCount_nodes], fun role hrole => (if_pos hrole).symm⟩)

def SubnetAssigned (np np' : NodePool) : Prop :=
  np' = np ∧ NodePool.HasSubnet np ∨ ∃ dyn cidr, np.type = .dynamic dyn ∧ dyn.cidr = ""
    ∧ np' = { np with type := .dynamic { dyn with cidr } }

theorem SubnetAssigned.keeps {np np' : NodePool} (h : SubnetAssigned np np') :
    np'.isControl = np.isControl ∧ np'.name = np.name := by
  rcases h with ⟨rfl, -⟩ | ⟨dyn, cidr, -, -, rfl⟩
  · exact ⟨rfl, rfl⟩
  · exact ⟨rfl, rfl⟩

theorem calculateCIDR_forall₂ {existing : GoMap (List String)} {nps nps' : List NodePool}
    (h : calculateCIDR existing nps = .ok nps') : List.Forall₂ SubnetAssigned nps nps' := by
  induction nps generalizing existing nps' with
  | nil =>
    cases h
    exact .nil
  | cons np nps ih =>
    obtain ⟨rest, hsubnet, hrest, rfl⟩ | ⟨d, cidr, rest, hd, hempty, -, hrest, rfl⟩ :=
      calculateCIDR_cons_eq_ok h
    · exact .cons (.inl ⟨rfl, hsubnet⟩) (ih hrest)
    · exact .cons (.inr ⟨d, cidr, hd, hempty, rfl⟩) (ih hrest)

theorem generateMissingCIDR_changed (h : generateMissingCIDR current d.clusters = .ok d'.clusters) :
    PoolsChanged SubnetAssigned d d' := by
  unfold generateMissingCIDR at h
  obtain ⟨nps, hnps, h⟩ := Outcome.bind_eq_ok.mp h
  obtain ⟨k8s, hk8s, h⟩ := Outcome.bind_eq_ok.mp h
  obtain ⟨lbs, hlbs, h⟩ := Outcome.bind_eq_ok.mp h
  cases hk8s
  have heq := Except.ok.inj h
  have hk8s' : K8scluster.withNodePools d.k8s nps = d'.k8s :=
    Option.some.inj (congrArg Clusters.k8s heq)
  have hlbs' : lbs = d'.loadBalancers := congrArg Clusters.loadBalancers heq
  refine ⟨⟨nps, hk8s'.symm, calculateCIDR_forall₂ hnps⟩, ?_⟩
  rw [← hlbs']
  refine (Outcome.mapM_eq_ok.mp hlbs).imp (fun lb lb' hlb => ?_)
  obtain ⟨nps, hnps, hlb⟩ := Outcome.bind_eq_ok.mp hlb
  cases hlb
  exact ⟨nps, rfl, calculateCIDR_forall₂ hnps⟩

def KeysGenerated (np np' : NodePool) : Prop :=
  np' = np ∨ ∃ dyn publicKey privateKey, np.type = .dynamic dyn ∧ dyn.publicKey = ""
    ∧ np' = { np with type := .dynamic { dyn with publicKey, privateKey } }

theorem KeysGenerated.keeps {np np' : NodePool} (h : KeysGenerated np np') :
    np'.isControl = np.isControl ∧ np'.name = np.name := by
  rcases h with rfl | ⟨dyn, publicKey, privateKey, -, -, rfl⟩
  · exact ⟨rfl, rfl⟩
  · exact ⟨rfl, rfl⟩

theorem generateSSHKeys_eq_ok {keyPair : Option (String × String)} {np np' : NodePool}
    (h : generateSSHKeys keyPair np = .ok np') : KeysGenerated np np' := by
  unfold generateSSHKeys at h
  split at h
  next =>
    cases h
    exact .inl rfl
  next dyn htype =>
    split at h
    next hkey =>
      split at h
      next => cases h
      next publicKey privateKey =>
        cases h
        exact .inr ⟨dyn, publicKey, privateKey, htype, hkey, rfl⟩
    next =>
      cases h
      exact .inl rfl

theorem forall₂_of_zipIdx {α β : Type} {R : α → β → Prop} {l : List α} {l' : List β}
    (h : List.Forall₂ (fun a b => R a.1 b) l.zipIdx l') : List.Forall₂ R l l' := by
  rw [← List.zipIdx_map_fst 0 l, List.forall₂_map_left_iff]
  exact h

theorem generateKeys_forall₂ {cluster : Nat} {nps nps' : List NodePool}
    (h : nps.zipIdx.mapM (fun (np, i) => generateSSHKeys (gen.keyPair cluster i) np) = .ok nps') :
    List.Forall₂ KeysGenerated nps nps' :=
  forall₂_of_zipIdx ((Outcome.mapM_eq_ok.mp h).imp (fun _ _ hnp => generateSSHKeys_eq_ok hnp))

theorem populateSSHKeys_changed (h : populateSSHKeys gen d = .ok d') :
    PoolsChanged KeysGenerated d d' := by
  unfold populateSSHKeys at h
  dsimp only at h
  obtain ⟨nps, hnps, h⟩ := Outcome.bind_eq_ok.mp h
  obtain ⟨lbs, hlbs, h⟩ := Outcome.bind_eq_ok.mp h
  cases h
  refine ⟨⟨nps, rfl, generateKeys_forall₂ hnps⟩,
    forall₂_of_zipIdx ((Outcome.mapM_eq_ok.mp hlbs).imp (fun lb lb' hlb => ?_))⟩
  obtain ⟨nps, hnps, hlb⟩ := Outcome.bind_eq_ok.mp hlb
  cases hlb
  exact ⟨nps, rfl, generateKeys_forall₂ hnps⟩

def NodesPopulated (np np' : NodePool) : Prop :=
  if np.isDynamic then ∃ clusterID, populateDynamicNodes clusterID np = .ok np' else np' = np

theorem NodesPopulated.keeps {np np' : NodePool} (h : NodesPopulated np np') :
    np'.isControl = np.isControl ∧ np'.name = np.name := by
  unfold NodesPopulated at h
  split at h
  next =>
    obtain ⟨clusterID, h⟩ := h
    unfold populateDynamicNodes at h
    obtain ⟨dyn, -, h⟩ := Outcome.bind_eq_ok.mp h
    obtain ⟨nodes, -, h⟩ := Outcome.bind_eq_ok.mp h
    cases h
    exact ⟨rfl, rfl⟩
  next =>
    rw [h]
    exact ⟨rfl, rfl⟩

theorem populateNodePools_forall₂ {clusterID : String} {nps nps' : List NodePool}
    (h : populateNodePools clusterID nps = .ok nps') : List.Forall₂ NodesPopulated nps nps' := by
  refine (Outcome.mapM_eq_ok.mp h).imp (fun np np' hnp => ?_)
  unfold NodesPopulated
  split at hnp
  next hdynamic =>
    rw [if_pos hdynamic]
    exact ⟨clusterID, hnp⟩
  next hdynamic =>
    rw [if_neg hdynamic]
    exact (Except.ok.inj hnp).symm

theorem populateDynamicNodesForClusters_changed (h : populateDynamicNodesForClusters d = .ok d') :
    PoolsChanged NodesPopulated d d' := by
  unfold populateDynamicNodesForClusters at h
  obtain ⟨nps, hnps, h⟩ := Outcome.bind_eq_ok.mp h
  obtain ⟨lbs, hlbs, h⟩ := Outcome.bind_eq_ok.mp h
  cases h
  refine ⟨⟨nps, rfl, populateNodePools_forall₂ hnps⟩,
    (Outcome.mapM_eq_ok.mp hlbs).imp (fun lb lb' hlb => ?_)⟩
  obtain ⟨nps, hnps, hlb⟩ := Outcome.bind_eq_ok.mp hlb
  cases hlb
  exact ⟨nps, rfl, populateNodePools_forall₂ hnps⟩

-- The passes that are about the load balancers only.

theorem flatMap_lbSlots_congr {lbs lbs' : List LBcluster} (h : List.Forall₂ (fun lb lb' =>
      lb'.clusterInfo = lb.clusterInfo) lbs lbs') : lbs'.flatMap lbSlots = lbs.flatMap lbSlots := by
  induction h with
  | nil => rfl
  | cons hlb _ ih =>
    rw [List.flatMap_cons, List.flatMap_cons, ih]
    unfold lbSlots
    rw [hlb]

theorem populateDnsHostName_slots (h : populateDnsHostName gen d = .ok d') : d'.slots = d.slots := by
  unfold populateDnsHostName at h
  obtain ⟨lbs, hlbs, h⟩ := Outcome.bind_eq_ok.mp h
  cases h
  refine congrArg (kubernetesSlots d.k8s.clusterInfo.nodePools ++ ·) (flatMap_lbSlots_congr
    (forall₂_of_zipIdx ((Outcome.mapM_eq_ok.mp hlbs).imp (fun lb lb' hlb => ?_))))
  obtain ⟨dns, -, hlb⟩ := Outcome.bind_eq_ok.mp hlb
  split at hlb
  · cases hlb
    rfl
  · cases hlb
    rfl

theorem populateEnvoyAdminPorts_slots (h : populateEnvoyAdminPorts d = .ok d') :
    d'.slots = d.slots := by
  unfold populateEnvoyAdminPorts at h
  obtain ⟨lbs, hlbs, h⟩ := Outcome.bind_eq_ok.mp h
  cases h
  refine congrArg (kubernetesSlots d.k8s.clusterInfo.nodePools ++ ·)
    (flatMap_lbSlots_congr ((Outcome.mapM_eq_ok.mp hlbs).imp (fun lb lb' hlb => ?_)))
  obtain ⟨roles, -, hlb⟩ := Outcome.bind_eq_ok.mp hlb
  cases hlb
  rfl

theorem populateDefaultHealthcheckRole_slots (d : DesiredCluster) :
    (populateDefaultHealthcheckRole d).slots = d.slots := by
  refine congrArg (kubernetesSlots d.k8s.clusterInfo.nodePools ++ ·) (flatMap_lbSlots_congr ?_)
  rw [populateDefaultHealthcheckRole, List.forall₂_map_right_iff]
  exact List.forall₂_same.mpr (fun lb _ => by split <;> rfl)

def currentNodePools (current : Clusters) : PoolRole → List NodePool
  | .loadBalancer name => namedNodePools current.loadBalancers name
  | _ => current.kubernetesNodePools

theorem currentNodePools_of_isKubernetes {role : PoolRole} (h : role.isKubernetes = true) :
    currentNodePools current role = current.kubernetesNodePools := by
  cases role with
  | loadBalancer name => cases h
  | control => rfl
  | compute => rfl

theorem transferDynamicNodePool_keeps {c np np' : NodePool}
    (h : transferDynamicNodePool c np = .ok np') :
    np'.isControl = np.isControl ∧ np'.isDynamic = np.isDynamic ∧ np'.name = np.name := by
  unfold transferDynamicNodePool at h
  obtain ⟨cnp, -, h⟩ := Outcome.bind_eq_ok.mp h
  obtain ⟨dnp, hdnp, h⟩ := Outcome.bind_eq_ok.mp h
  obtain ⟨nodes, -, h⟩ := Outcome.bind_eq_ok.mp h
  cases h
  exact ⟨rfl, by rw [NodePool.isDynamic, NodePool.isDynamic, Outcome.deref_eq_ok.mp hdnp]; rfl, rfl⟩

theorem transferNodePool_keeps {nps : List NodePool} {np np' : NodePool}
    (h : transferNodePool nps np = .ok np') :
    np'.isControl = np.isControl ∧ np'.isDynamic = np.isDynamic ∧ np'.name = np.name := by
  induction nps generalizing np with
  | nil =>
    cases h
    exact ⟨rfl, rfl, rfl⟩
  | cons c nps ih =>
    rw [transferNodePool] at h
    split at h
    next => exact ih h
    next =>
      split at h
      next =>
        obtain ⟨transferred, htransferred, h⟩ := Outcome.bind_eq_ok.mp h
        obtain ⟨hcontrol, hdynamic, hname⟩ := transferDynamicNodePool_keeps htransferred
        obtain ⟨hcontrol', hdynamic', hname'⟩ := ih h
        exact ⟨hcontrol'.trans hcontrol, hdynamic'.trans hdynamic, hname'.trans hname⟩
      next =>
        obtain ⟨hcontrol, hdynamic, hname⟩ := ih h
        exact ⟨hcontrol, hdynamic, hname⟩
      next =>
        cases h
        exact ⟨rfl, rfl, rfl⟩

theorem transferLBCluster_eq_modifyKey (c : LBcluster) (lbs : List LBcluster) :
    transferLBCluster c lbs
      = lbs.modifyKey (·.clusterInfo.name) c.clusterInfo.name (transferLoadBalancer c) := by
  induction lbs with
  | nil => rfl
  | cons lb lbs ih =>
    rw [transferLBCluster, List.modifyKey_cons, ih]
    by_cases h : lb.clusterInfo.name = c.clusterInfo.name
    · rw [if_neg (Decidable.not_not.mpr h.symm), if_pos h]
    · rw [if_pos (Ne.symm h), if_neg h]

def transferNamed (c lb : LBcluster) : Outcome LBcluster :=
  if lb.clusterInfo.name = c.clusterInfo.name then transferLoadBalancer c lb else .ok lb

theorem transferLoadBalancer_eq_ok {c lb lb' : LBcluster} (h : transferLoadBalancer c lb = .ok lb') :
    lb'.clusterInfo.name = c.clusterInfo.name
      ∧ List.Forall₂ (fun np np' => transferNodePool c.clusterInfo.nodePools np = .ok np')
        lb.clusterInfo.nodePools lb'.clusterInfo.nodePools := by
  unfold transferLoadBalancer at h
  obtain ⟨dns, -, h⟩ := Outcome.bind_eq_ok.mp h
  obtain ⟨info, hinfo, h⟩ := Outcome.bind_eq_ok.mp h
  cases h
  unfold transferClusterInfo at hinfo
  obtain ⟨nps, hnps, hinfo⟩ := Outcome.bind_eq_ok.mp hinfo
  cases hinfo
  exact ⟨rfl, Outcome.mapM_eq_ok.mp hnps⟩

theorem transferNamed_name {c lb lb' : LBcluster} (h : transferNamed c lb = .ok lb') :
    lb'.clusterInfo.name = lb.clusterInfo.name := by
  unfold transferNamed at h
  split at h
  next hname => rw [(transferLoadBalancer_eq_ok h).1, hname]
  next => rw [← Except.ok.inj h]

theorem transferLBState_eq_modifyKeys (cs lbs : List LBcluster) :
    transferLBState cs lbs = lbs.modifyKeys (·.clusterInfo.name) (fun _ => transferNamed)
      (cs.map (fun c => (c.clusterInfo.name, c))) := by
  induction cs generalizing lbs with
  | nil => rfl
  | cons c cs ih =>
    rw [transferLBState, List.foldlM_cons, List.map_cons, List.modifyKeys,
      transferLBCluster_eq_modifyKey,
      List.modifyKey_congr (fun lb hlb => (if_pos hlb).symm : ∀ lb : LBcluster,
        lb.clusterInfo.name = c.clusterInfo.name → transferLoadBalancer c lb = transferNamed c lb)]
    exact congrArg _ (funext ih)

theorem transferLBState_forall₂ {cs lbs lbs' : List LBcluster} (hcurrent : DistinctLoadBalancers cs)
    (hdesired : DistinctLoadBalancers lbs) (h : transferLBState cs lbs = .ok lbs') :
    List.Forall₂ (fun lb lb' => lb'.clusterInfo.name = lb.clusterInfo.name
      ∧ List.Forall₂ (fun np np' =>
          transferNodePool (namedNodePools cs lb.clusterInfo.name) np = .ok np')
        lb.clusterInfo.nodePools lb'.clusterInfo.nodePools) lbs lbs' := by
  rw [transferLBState_eq_modifyKeys] at h
  have hf : ∀ (k : String) (c lb lb' : LBcluster), transferNamed c lb = .ok lb' →
      lb'.clusterInfo.name = lb.clusterInfo.name := fun _ _ _ _ h => transferNamed_name h
  have hentries : ((cs.map (fun c => (c.clusterInfo.name, c))).map (·.1)).Nodup := by
    rw [List.map_map]
    exact hcurrent
  have hlength : lbs.length = lbs'.length := by
    simpa using (congrArg List.length (List.modifyKeys_keys hf h)).symm
  refine List.forall₂_iff_getElem?.mpr ⟨hlength, fun i lb lb' hlb hlb' => ?_⟩
  by_cases hname : lb.clusterInfo.name ∈ cs.map (·.clusterInfo.name)
  · obtain ⟨c, hc, hname⟩ := List.mem_map.mp hname
    obtain ⟨lb'', htransfer, hlb''⟩ := List.modifyKeys_getElem?_of_mem hf hentries h hlb
      (List.findIdx?_key_eq_some hdesired hlb)
      (List.mem_map.mpr ⟨c, hc, by rw [hname]⟩ : (lb.clusterInfo.name, c) ∈ _)
    rw [hlb'] at hlb''
    cases hlb''
    refine ⟨transferNamed_name htransfer, ?_⟩
    rw [transferNamed, if_pos hname.symm] at htransfer
    rw [← hname, namedNodePools_of_mem hcurrent hc]
    exact (transferLoadBalancer_eq_ok htransfer).2
  · have hsame := List.modifyKeys_getElem?_of_ne hf h hlb (.inr (by rwa [List.map_map]))
    rw [hlb'] at hsame
    cases hsame
    rw [namedNodePools_of_not_mem hname]
    exact ⟨rfl, List.forall₂_same.mpr (fun np _ => rfl)⟩

theorem transferImmutableState_k8s (h : transferImmutableState current d = .ok d') :
    List.Forall₂ (fun np np' => transferNodePool current.kubernetesNodePools np = .ok np')
      d.k8s.clusterInfo.nodePools d'.k8s.clusterInfo.nodePools
      ∧ transferLBState current.loadBalancers d.loadBalancers = .ok d'.loadBalancers := by
  unfold transferImmutableState at h
  obtain ⟨k8s, hk8s, h⟩ := Outcome.bind_eq_ok.mp h
  obtain ⟨k8s', htransfer, h⟩ := Outcome.bind_eq_ok.mp h
  obtain ⟨lbs, hlbs, h⟩ := Outcome.bind_eq_ok.mp h
  cases h
  unfold transferK8sState transferClusterInfo at htransfer
  obtain ⟨info, hinfo, htransfer⟩ := Outcome.bind_eq_ok.mp htransfer
  obtain ⟨nps, hnps, hinfo⟩ := Outcome.bind_eq_ok.mp hinfo
  cases hinfo
  cases htransfer
  have hpools : current.kubernetesNodePools = k8s.clusterInfo.nodePools := by
    rw [Clusters.kubernetesNodePools, Outcome.deref_eq_ok.mp hk8s]
    rfl
  rw [hpools]
  exact ⟨Outcome.mapM_eq_ok.mp hnps, hlbs⟩

theorem transferImmutableState_slotwise (hcurrent : DistinctLoadBalancers current.loadBalancers)
    (hdesired : DistinctLoadBalancers d.loadBalancers)
    (h : transferImmutableState current d = .ok d') :
    Slotwise (fun role np np' => transferNodePool (currentNodePools current role) np = .ok np')
      d d' := by
  obtain ⟨hnps, hlbs⟩ := transferImmutableState_k8s h
  refine .of (hnps.imp (fun np np' hnp => ⟨(transferNodePool_keeps hnp).1, fun role hrole => ?_⟩))
    (transferLBState_forall₂ hcurrent hdesired hlbs)
  rw [currentNodePools_of_isKubernetes hrole]
  exact hnp

end Passes

section Static

def KeepsStatic (np np' : NodePool) : Prop :=
  np'.isStatic = np.isStatic ∧ (np.isStatic = true → np' = np)

theorem KeepsStatic.refl (np : NodePool) : KeepsStatic np np := ⟨rfl, fun _ => rfl⟩

theorem KeepsStatic.trans {np₁ np₂ np₃ : NodePool} (h : KeepsStatic np₁ np₂)
    (h' : KeepsStatic np₂ np₃) : KeepsStatic np₁ np₃ :=
  ⟨h'.1.trans h.1, fun hstatic => (h'.2 (h.1.trans hstatic)).trans (h.2 hstatic)⟩

theorem KeepsStatic.of_dynamic {np : NodePool} {dyn dyn' : DynamicNodePool}
    (h : np.type = .dynamic dyn) (np' : NodePool) (h' : np'.type = .dynamic dyn') :
    KeepsStatic np np' := by
  unfold KeepsStatic
  rw [NodePool.isStatic_eq, NodePool.isStatic_eq, NodePool.isDynamic, NodePool.isDynamic,
    NodePool.dynamic?_eq_some.mpr h, NodePool.dynamic?_eq_some.mpr h']
  exact ⟨rfl, fun hstatic => by cases hstatic⟩

theorem SubnetAssigned.keepsStatic {np np' : NodePool} (h : SubnetAssigned np np') :
    KeepsStatic np np' := by
  rcases h with ⟨rfl, -⟩ | ⟨dyn, cidr, htype, -, rfl⟩
  · exact .refl np'
  · exact .of_dynamic htype _ rfl

theorem KeysGenerated.keepsStatic {np np' : NodePool} (h : KeysGenerated np np') :
    KeepsStatic np np' := by
  rcases h with rfl | ⟨dyn, publicKey, privateKey, htype, -, rfl⟩
  · exact .refl np'
  · exact .of_dynamic htype _ rfl

theorem NodesPopulated.keepsStatic {np np' : NodePool} (h : NodesPopulated np np') :
    KeepsStatic np np' := by
  unfold NodesPopulated at h
  split at h
  next hdynamic =>
    obtain ⟨clusterID, h⟩ := h
    unfold populateDynamicNodes at h
    obtain ⟨dyn, hdyn, h⟩ := Outcome.bind_eq_ok.mp h
    obtain ⟨nodes, -, h⟩ := Outcome.bind_eq_ok.mp h
    cases h
    have htype := NodePool.dynamic?_eq_some.mp (Outcome.deref_eq_ok.mp hdyn)
    exact .of_dynamic htype _ htype
  next => rw [h]; exact .refl np

theorem fixupAutoscalerCount_keepsStatic (np : NodePool) :
    KeepsStatic np (fixupAutoscalerCount np) := by
  unfold fixupAutoscalerCount
  split
  next => exact .refl np
  next dyn hdyn =>
    split
    next => exact .refl np
    next =>
      split
      next => exact .refl np
      next =>
        have htype := NodePool.dynamic?_eq_some.mp hdyn
        exact .of_dynamic htype _ htype

end Static

end Manager

end Claudie
