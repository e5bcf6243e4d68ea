import Claudie.Manager.Lemmas.Carried
import Claudie.Manager.Lemmas.ExistingState

/-!
The way of one nodepool of the manifest, whose name is settled, to the desired state.
-/

namespace Claudie

namespace Manager

def isNew (current : NodePool) (n : Node) : Bool := !current.nodes.any (·.publicIp = n.publicIp)

theorem isNew_iff {current : NodePool} {n : Node} :
    isNew current n = true ↔ ∀ cn ∈ current.nodes, cn.publicIp ≠ n.publicIp := by
  unfold isNew
  rw [Bool.not_eq_true', List.any_eq_false]
  simp only [decide_eq_true_eq]

theorem isNew_congr {current : NodePool} {n n' : Node} (h : n'.publicIp = n.publicIp) :
    isNew current n' = isNew current n := by
  unfold isNew
  rw [h]

section Rename

variable {current np np' : NodePool}

theorem uniqueNodeName_eq_ok {id name : String} {names : List String}
    (h : uniqueNodeName id names = .ok name) : name ∉ names := by
  unfold uniqueNodeName at h
  split at h
  next => cases h
  next =>
    have hfound := List.find?_some (Outcome.deref_eq_ok.mp h)
    rwa [Bool.not_eq_true', ← Bool.not_eq_true, List.contains_iff_mem] at hfound

structure NewlyNamed (current : NodePool) (used : List String) (nodes nodes' : List Node) :
    Prop where
  addresses : nodes'.map (·.publicIp) = nodes.map (·.publicIp)
  unused : ∀ n ∈ nodes', isNew current n = true → n.name ∉ used
  distinct : ((nodes'.filter (isNew current)).map (·.name)).Nodup

theorem renameNewNodes_eq_ok {id : String} {used : List String} {nodes nodes' : List Node}
    (h : renameNewNodes id current.nodes used nodes = .ok nodes') :
    NewlyNamed current used nodes nodes' := by
  induction nodes generalizing used nodes' with
  | nil =>
    cases h
    exact ⟨rfl, List.forall_mem_nil _, List.nodup_nil⟩
  | cons n nodes ih =>
    rw [renameNewNodes] at h
    split at h
    next hexists =>
      obtain ⟨rest, hrest, h⟩ := Outcome.bind_eq_ok.mp h
      cases h
      obtain ⟨haddresses, hunused, hdistinct⟩ := ih hrest
      have hnew : isNew current n = false := by rw [isNew, hexists]; rfl
      refine ⟨by rw [List.map_cons, List.map_cons, haddresses], ?_, ?_⟩
      · intro n' hn' hnew'
        rcases List.mem_cons.mp hn' with rfl | hn'
        · rw [hnew] at hnew'
          cases hnew'
        · exact hunused n' hn' hnew'
      · rw [List.filter_cons_of_neg (by rw [hnew]; exact Bool.false_ne_true)]
        exact hdistinct
    next hnew =>
      obtain ⟨name, hname, h⟩ := Outcome.bind_eq_ok.mp h
      obtain ⟨rest, hrest, h⟩ := Outcome.bind_eq_ok.mp h
      cases h
      obtain ⟨haddresses, hunused, hdistinct⟩ := ih hrest
      have hnew : isNew current { n with name } = true := by
        rw [isNew, Bool.not_eq_true', ← Bool.not_eq_true]
        exact hnew
      refine ⟨by rw [List.map_cons, List.map_cons, haddresses], ?_, ?_⟩
      · intro n' hn' hnew'
        rcases List.mem_cons.mp hn' with rfl | hn'
        · exact uniqueNodeName_eq_ok hname
        · exact fun hused => hunused n' hn' hnew' (List.mem_append_left _ hused)
      · rw [List.filter_cons_of_pos hnew, List.map_cons, List.nodup_cons]
        refine ⟨?_, hdistinct⟩
        intro hmem
        obtain ⟨n', hn', heq⟩ := List.mem_map.mp hmem
        obtain ⟨hn', hnew'⟩ := List.mem_filter.mp hn'
        exact hunused n' hn' hnew' (heq ▸ List.mem_append_right _ List.mem_cons_self)

theorem deduplicateNodePool_eq_ok (h : deduplicateNodePool current np = .ok np') :
    np' = { np with nodes := np'.nodes }
      ∧ (current.isStatic = true → np.isStatic = true →
        NewlyNamed current (current.nodes.map (·.name)) np.nodes np'.nodes)
      ∧ (current.isStatic = false ∨ np.isStatic = false → np' = np) := by
  unfold deduplicateNodePool at h
  split at h
  next hstatic =>
    rw [Bool.and_eq_true] at hstatic
    obtain ⟨nodes, hnodes, h⟩ := Outcome.bind_eq_ok.mp h
    cases h
    obtain ⟨haddresses, hunused, hdistinct⟩ := renameNewNodes_eq_ok hnodes
    refine ⟨rfl, fun _ _ => ⟨haddresses, fun n hn hnew hused => ?_, hdistinct⟩, ?_⟩
    · exact hunused n hn hnew (List.mem_eraseDups.mpr hused)
    · rw [hstatic.1, hstatic.2]
      rintro (h | h) <;> cases h
  next hstatic =>
    cases h
    refine ⟨rfl, fun hc hnp => ?_, fun _ => rfl⟩
    exact absurd (by rw [hc, hnp]; rfl) hstatic

end Rename

def FirstOfName (d : DesiredCluster) (i : Nat) (np : NodePool) : Prop :=
  d.k8s.clusterInfo.nodePools.findIdx? (·.name = np.name) = some i

section Deduplicate

variable {current : Clusters} {d d' : DesiredCluster}

theorem deduplicateStaticNodeNames_eq_ok (h : deduplicateStaticNodeNames current d = .ok d') :
    ∃ nps, d.k8s.clusterInfo.nodePools.modifyKeys (·.name) (fun _ => deduplicateNodePool)
        (current.kubernetesNodePools.map (fun c => (c.name, c))) = .ok nps
      ∧ d' = { d with k8s := d.k8s.withNodePools nps } := by
  have hfold : ∀ (cs nps : List NodePool), cs.foldlM (fun nps np =>
      NodePools.modifyByName np.name (deduplicateNodePool np) nps) nps
        = nps.modifyKeys (·.name) (fun _ => deduplicateNodePool)
          (cs.map (fun c => (c.name, c))) := by
    intro cs
    induction cs with
    | nil => exact fun _ => rfl
    | cons c cs ih =>
      intro nps
      rw [List.foldlM_cons, List.map_cons, List.modifyKeys, NodePools.modifyByName_eq_modifyKey]
      exact congrArg _ (funext ih)
  unfold deduplicateStaticNodeNames at h
  obtain ⟨nps, hnps, h⟩ := Outcome.bind_eq_ok.mp h
  cases h
  exact ⟨nps, (hfold _ _).symm.trans hnps, rfl⟩

def Deduplicated (current : Clusters) (d : DesiredCluster) (i : Nat) (np np' : NodePool) : Prop :=
  (FirstOfName d i np ∧ ∃ c ∈ current.kubernetesNodePools,
      c.name = np.name ∧ deduplicateNodePool c np = .ok np')
    ∨ ¬ (FirstOfName d i np ∧ np.name ∈ current.kubernetesNodePools.map (·.name)) ∧ np' = np

theorem Deduplicated.keeps {i : Nat} {np np' : NodePool} (h : Deduplicated current d i np np') :
    np' = { np with nodes := np'.nodes } := by
  obtain ⟨-, c, -, -, hc⟩ | ⟨-, rfl⟩ := h
  · exact (deduplicateNodePool_eq_ok hc).1
  · rfl

theorem deduplicateStaticNodeNames_slots
    (hcurrent : (current.kubernetesNodePools.map (·.name)).Nodup)
    (h : deduplicateStaticNodeNames current d = .ok d') :
    d'.slots.length = d.slots.length ∧ ∀ (i : Nat) (s : Slot), d.slots[i]? = some s →
      ∃ np', d'.slots[i]? = some (s.1, np') ∧ Deduplicated current d i s.2 np' := by
  obtain ⟨nps, hnps, rfl⟩ := deduplicateStaticNodeNames_eq_ok h
  have hf : ∀ (k : String) (c np np' : NodePool), deduplicateNodePool c np = .ok np' →
      np'.name = np.name := by
    intro k c np np' h
    rw [(deduplicateNodePool_eq_ok h).1]
  have hentries : ((current.kubernetesNodePools.map (fun c => (c.name, c))).map (·.1)).Nodup := by
    rw [List.map_map]
    exact hcurrent
  have hlength : nps.length = d.k8s.clusterInfo.nodePools.length := by
    simpa using congrArg List.length (List.modifyKeys_keys hf hnps)
  have hslots : (kubernetesSlots nps).length
      = (kubernetesSlots d.k8s.clusterInfo.nodePools).length := by
    rw [kubernetesSlots, kubernetesSlots, List.length_map, List.length_map, hlength]
  refine ⟨?_, fun i s hs => ?_⟩
  · unfold DesiredCluster.slots allSlots
    rw [List.length_append, List.length_append]
    exact congrArg (· + _) hslots
  · unfold DesiredCluster.slots allSlots at hs ⊢
    by_cases hi : i < d.k8s.clusterInfo.nodePools.length
    · have hi' : i < (kubernetesSlots d.k8s.clusterInfo.nodePools).length := by
        rwa [kubernetesSlots, List.length_map]
      rw [List.getElem?_append_left hi', kubernetesSlots, List.getElem?_map] at hs
      obtain ⟨np, hnp, rfl⟩ := Option.map_eq_some_iff.mp hs
      have hstep : ∃ np', nps[i]? = some np' ∧ Deduplicated current d i np np' := by
        by_cases hfirst : FirstOfName d i np ∧ np.name ∈ current.kubernetesNodePools.map (·.name)
        · obtain ⟨hfirst, hmem⟩ := hfirst
          obtain ⟨c, hc, hname⟩ := List.mem_map.mp hmem
          obtain ⟨np', hnp', hat⟩ := List.modifyKeys_getElem?_of_mem hf hentries hnps hnp hfirst
            (List.mem_map.mpr ⟨c, hc, by rw [hname]⟩ : (np.name, c) ∈ _)
          exact ⟨np', hat, .inl ⟨hfirst, c, hc, hname, hnp'⟩⟩
        · refine ⟨np, List.modifyKeys_getElem?_of_ne hf hnps hnp ?_, .inr ⟨hfirst, rfl⟩⟩
          rw [List.map_map]
          exact Decidable.not_and_iff_not_or_not.mp hfirst
      obtain ⟨np', hat, hdeduplicated⟩ := hstep
      refine ⟨np', ?_, hdeduplicated⟩
      rw [List.getElem?_append_left (hslots ▸ hi')]
      change (kubernetesSlots nps)[i]? = _
      rw [kubernetesSlots, List.getElem?_map, hat, Option.map_some, hdeduplicated.keeps]
    · have hi' : (kubernetesSlots d.k8s.clusterInfo.nodePools).length ≤ i := by
        rw [kubernetesSlots, List.length_map]
        omega
      refine ⟨s.2, ?_, .inr ⟨fun hfirst => hi ?_, rfl⟩⟩
      · rw [List.getElem?_append_right hi'] at hs
        change (kubernetesSlots nps ++ _)[i]? = _
        rw [List.getElem?_append_right (hslots ▸ hi'), hslots, hs]
      · exact (List.findIdx?_eq_some_iff_findIdx_eq.mp hfirst.1).1

end Deduplicate

section Transfer

variable {np np' : NodePool} {nps : List NodePool}

theorem transferNodePool_of_not_mem (h : np.name ∉ nps.map (·.name)) :
    transferNodePool nps np = .ok np := by
  induction nps with
  | nil => rfl
  | cons c nps ih =>
    rw [List.map_cons, List.mem_cons, not_or] at h
    rw [transferNodePool, if_pos (Ne.symm h.1), ih h.2]

end Transfer

def Reused (current : Clusters) (role : PoolRole) (np np' : NodePool) : Prop :=
  if current.k8s.isSome then
    ∃ np₁, transferNodePool (currentNodePools current role) np = .ok np₁
      ∧ np' = if role.isKubernetes then fixupAutoscalerCount np₁ else np₁
  else np' = np

def Completed (np np' : NodePool) : Prop :=
  ∃ np₁ np₂, SubnetAssigned np np₁ ∧ KeysGenerated np₁ np₂ ∧ NodesPopulated np₂ np'

section History

variable {fuel : Nat} {gen : Generator} {m : Claudie.Manifest} {current : Clusters}
  {d d₁ d' resolved : DesiredCluster} {drawn : Nat}

theorem populateMissingState_slotwise (h : populateMissingState gen d = .ok d') :
    Slotwise (fun _ np np' => ∃ np₁, KeysGenerated np np₁ ∧ NodesPopulated np₁ np') d d' := by
  obtain ⟨d₁, d₂, d₃, d₄, hkeys, hdns, hnodes, hports, rfl⟩ := populateMissingState_eq_ok h
  have h₁ := (populateSSHKeys_changed hkeys).slotwise (fun h => h.keeps.1)
  have h₃ := (populateDynamicNodesForClusters_changed hnodes).slotwise (fun h => h.keeps.1)
  have hslots := (populateDefaultHealthcheckRole_slots d₄).trans (populateEnvoyAdminPorts_slots hports)
  exact (h₁.comp (h₃.congr (populateDnsHostName_slots hdns).symm rfl)).congr rfl hslots

theorem slot_history (hcurrent : DistinctLoadBalancers current.loadBalancers)
    (hnames : (current.kubernetesNodePools.map (·.name)).Nodup)
    (hdistinct : DistinctLoadBalancers resolved.loadBalancers)
    (hresolved : resolveDynamicNodePoolReferences fuel gen current m.types d 0
      = some (resolved, drawn))
    (hreused : (reuseExistingState fuel gen m current d).run = some (.ok d₁))
    (hpopulated : populateMissingState gen d₁ = .ok d') :
    d'.slots.length = resolved.slots.length
      ∧ ∀ (i : Nat) (s : Slot), resolved.slots[i]? = some s → ∃ np₁ np₂ np',
        d'.slots[i]? = some (s.1, np') ∧ Deduplicated current resolved i s.2 np₁
        ∧ Reused current s.1 np₁ np₂ ∧ Completed np₂ np' := by
  obtain ⟨resolved', drawn', deduplicated, reused, hresolved', hdeduplicated, htransfer, hcidr⟩ :=
    reuseExistingState_eq_ok hreused
  rw [hresolved] at hresolved'
  cases hresolved'
  obtain ⟨hlength, hslots⟩ := deduplicateStaticNodeNames_slots hnames hdeduplicated
  have hcompleted : Slotwise (fun _ => Completed) reused d' := by
    have hsubnets := (generateMissingCIDR_changed hcidr).slotwise (fun h => h.keeps.1)
    refine (hsubnets.comp (populateMissingState_slotwise hpopulated)).imp ?_
    rintro role np np' ⟨np₁, hsubnet, np₂, hkeys, hnodes⟩
    exact ⟨np₁, np₂, hsubnet, hkeys, hnodes⟩
  have htransferred : Slotwise (Reused current) deduplicated reused := by
    split at htransfer
    next hsome =>
      obtain ⟨transferred, htransferred, rfl⟩ := htransfer
      obtain ⟨nps, -, heq⟩ := deduplicateStaticNodeNames_eq_ok hdeduplicated
      have htransferred := transferImmutableState_slotwise hcurrent
        (by rw [heq]; exact hdistinct) htransferred
      refine (htransferred.comp (fixupAutoscalerCounts_slotwise transferred)).imp ?_
      rintro role np np' ⟨np₁, hnp₁, rfl⟩
      rw [Reused, if_pos hsome]
      exact ⟨np₁, hnp₁, rfl⟩
    next hnone =>
      subst htransfer
      refine List.forall₂_same.mpr (fun s _ => ⟨rfl, ?_⟩)
      rw [Reused, if_neg hnone]
  have hrest := htransferred.comp hcompleted
  refine ⟨hrest.length_eq.symm.trans hlength, fun i s hs => ?_⟩
  obtain ⟨np₁, hs₁, hnp₁⟩ := hslots i s hs
  obtain ⟨np', hs', np₂, hnp₂, hnp'⟩ := hrest.getElem? hs₁
  exact ⟨np₁, np₂, np', hs', hnp₁, hnp₂, hnp'⟩

end History

section Static

theorem Completed.keepsStatic {np np' : NodePool} (h : Completed np np') : KeepsStatic np np' := by
  obtain ⟨np₁, np₂, hsubnet, hkeys, hnodes⟩ := h
  exact (hsubnet.keepsStatic.trans hkeys.keepsStatic).trans hnodes.keepsStatic

end Static

section Dynamic

variable {np np' : NodePool}

theorem transferNodePool_dynamic {nps : List NodePool} (hnodup : (nps.map (·.name)).Nodup)
    (hdynamic : np.isDynamic = true) (h : transferNodePool nps np = .ok np') :
    (∃ c ∈ nps, c.isDynamic = true ∧ c.name = np.name ∧ transferDynamicNodePool c np = .ok np')
      ∨ (∀ c ∈ nps, c.isDynamic = true → c.name ≠ np.name) ∧ np' = np := by
  induction nps with
  | nil =>
    cases h
    exact .inr ⟨fun c hc => absurd hc List.not_mem_nil, rfl⟩
  | cons c nps ih =>
    rw [List.map_cons, List.nodup_cons] at hnodup
    rw [transferNodePool] at h
    split at h
    next hne =>
      obtain ⟨c', hc', hfound⟩ | ⟨hnone, hnp⟩ := ih hnodup.2 h
      · exact .inl ⟨c', List.mem_cons_of_mem c hc', hfound⟩
      · exact .inr ⟨List.forall_mem_cons.mpr ⟨fun _ => hne, hnone⟩, hnp⟩
    next heq =>
      have heq : c.name = np.name := Decidable.not_not.mp heq
      rw [heq] at hnodup
      split at h
      next cd dd hc hnp =>
        obtain ⟨np₁, hnp₁, h⟩ := Outcome.bind_eq_ok.mp h
        have hname : np₁.name ∉ nps.map (·.name) := by
          rw [(transferDynamicNodePool_keeps hnp₁).2.2]
          exact hnodup.1
        rw [transferNodePool_of_not_mem hname] at h
        cases h
        refine .inl ⟨c, List.mem_cons_self, ?_, heq, hnp₁⟩
        rw [NodePool.isDynamic, NodePool.dynamic?_eq_some.mpr hc]
        rfl
      next s s' hc hnp =>
        rw [NodePool.isDynamic, NodePool.dynamic?, hnp] at hdynamic
        cases hdynamic
      next hmixed _ =>
        cases h
        refine .inr ⟨fun c' hc' hdynamic' heq' => ?_, rfl⟩
        rcases List.mem_cons.mp hc' with rfl | hc'
        · obtain ⟨cd, hcd⟩ := Option.isSome_iff_exists.mp hdynamic'
          obtain ⟨dd, hdd⟩ := Option.isSome_iff_exists.mp hdynamic
          exact hmixed cd dd (NodePool.dynamic?_eq_some.mp hcd) (NodePool.dynamic?_eq_some.mp hdd)
        · exact hnodup.1 (heq' ▸ List.mem_map_of_mem hc')

theorem Completed.of_dynamic {dyn : DynamicNodePool} (h : Completed np np')
    (hdyn : np.type = .dynamic dyn) :
    ∃ cidr publicKey privateKey clusterID nodes,
      populateNames (clusterID ++ "-" ++ np.name) (if np.isControl then .master else .worker)
          ((np.nodes.map (·.name)).eraseDups) (dyn.count.toNat - np.nodes.length) = .ok nodes
      ∧ np' = { np with
          type := .dynamic { dyn with cidr, publicKey, privateKey }
          nodes := np.nodes ++ nodes } := by
  obtain ⟨np₁, np₂, hsubnet, hkeys, hnodes⟩ := h
  have h₁ : ∃ cidr, np₁ = { np with type := .dynamic { dyn with cidr } } := by
    obtain ⟨rfl, -⟩ | ⟨dyn', cidr, hdyn', -, rfl⟩ := hsubnet
    · refine ⟨dyn.cidr, ?_⟩
      rw [← hdyn]
    · rw [hdyn] at hdyn'
      cases hdyn'
      exact ⟨cidr, rfl⟩
  obtain ⟨cidr, rfl⟩ := h₁
  have h₂ : ∃ publicKey privateKey, np₂
      = { np with type := .dynamic { dyn with cidr, publicKey, privateKey } } := by
    obtain rfl | ⟨dyn', publicKey, privateKey, hdyn', -, rfl⟩ := hkeys
    · exact ⟨dyn.publicKey, dyn.privateKey, rfl⟩
    · cases hdyn'
      exact ⟨publicKey, privateKey, rfl⟩
  obtain ⟨publicKey, privateKey, rfl⟩ := h₂
  unfold NodesPopulated at hnodes
  split at hnodes
  next =>
    obtain ⟨clusterID, hnodes⟩ := hnodes
    obtain ⟨nodes, hnames, rfl⟩ := (populateDynamicNodes_eq_ok rfl).mp hnodes
    exact ⟨cidr, publicKey, privateKey, clusterID, nodes, hnames, rfl⟩
  next hstatic => exact absurd rfl hstatic

end Dynamic

section Kubernetes

variable {fuel : Nat} {gen : Generator} {m : Claudie.Manifest} {current : Clusters}
  {d d₁ d' : DesiredCluster}

theorem populateMissingState_k8s (h : populateMissingState gen d = .ok d') :
    List.Forall₂ (fun np np' => ∃ np₁, KeysGenerated np np₁ ∧ NodesPopulated np₁ np')
      d.k8s.clusterInfo.nodePools d'.k8s.clusterInfo.nodePools := by
  obtain ⟨d₁, d₂, d₃, d₄, hkeys, hdns, hnodes, hports, rfl⟩ := populateMissingState_eq_ok h
  obtain ⟨nps, hk8s, hnps⟩ := (populateSSHKeys_changed hkeys).k8s
  obtain ⟨nps', hk8s', hnps'⟩ := (populateDynamicNodesForClusters_changed hnodes).k8s
  unfold populateDnsHostName at hdns
  obtain ⟨lbs, -, hdns⟩ := Outcome.bind_eq_ok.mp hdns
  cases hdns
  unfold populateEnvoyAdminPorts at hports
  obtain ⟨lbs', -, hports⟩ := Outcome.bind_eq_ok.mp hports
  cases hports
  change List.Forall₂ _ _ d₃.k8s.clusterInfo.nodePools
  rw [hk8s']
  change List.Forall₂ NodesPopulated d₁.k8s.clusterInfo.nodePools nps' at hnps'
  rw [hk8s] at hnps'
  exact List.forall₂_trans hnps hnps' (fun _ np₁ _ h h' => ⟨np₁, h, h'⟩)

def KubernetesHistory (current : Clusters) (np np' : NodePool) : Prop :=
  np'.isDynamic = np.isDynamic ∧ (np.isDynamic = true → ∃ named reused, PoolNamed np named
    ∧ Reused current .control named reused ∧ Completed reused np')

theorem Completed.isDynamic {np np' : NodePool} (h : Completed np np') :
    np'.isDynamic = np.isDynamic := by
  have hstatic := h.keepsStatic.1
  rw [NodePool.isStatic_eq, NodePool.isStatic_eq] at hstatic
  exact Bool.not_inj hstatic

theorem Reused.isDynamic {role : PoolRole} {np np' : NodePool} (h : Reused current role np np') :
    np'.isDynamic = np.isDynamic := by
  unfold Reused at h
  split at h
  next =>
    obtain ⟨np₁, hnp₁, rfl⟩ := h
    rw [← (transferNodePool_keeps hnp₁).2.1]
    split
    · rw [fixupAutoscalerCount_nodes]
      rfl
    · rfl
  next => rw [h]

theorem Reused.name {np np' : NodePool} {role : PoolRole} (h : Reused current role np np') :
    np'.name = np.name := by
  unfold Reused at h
  split at h
  next =>
    obtain ⟨np₁, hnp₁, rfl⟩ := h
    rw [← (transferNodePool_keeps hnp₁).2.2]
    split
    · rw [fixupAutoscalerCount_nodes]
    · rfl
  next => rw [h]

def transferredFrom (c np : NodePool) (cdyn dyn : DynamicNodePool) : NodePool :=
  let count := min cdyn.count (transferDynamic cdyn dyn).count
  { np with
    sshPort := c.sshPort
    nodes := transferNodes (max (cdyn.count - count) 0) (c.nodes.take count.toNat)
    type := .dynamic (transferDynamic cdyn dyn) }

theorem length_transferredFrom (c np : NodePool) (cdyn dyn : DynamicNodePool) :
    (transferredFrom c np cdyn dyn).nodes.length ≤ (transferDynamic cdyn dyn).count.toNat := by
  have hsublist := (transferNodes_sublist
    (max (cdyn.count - min cdyn.count (transferDynamic cdyn dyn).count) 0)
    (c.nodes.take (min cdyn.count (transferDynamic cdyn dyn).count).toNat)).length_le
  rw [List.length_take] at hsublist
  refine hsublist.trans ?_
  omega

theorem nodes_transferredFrom {c : NodePool} {cdyn dyn : DynamicNodePool} (np : NodePool)
    (hcount : cdyn.count = c.nodes.length) (hle : cdyn.count ≤ (transferDynamic cdyn dyn).count) :
    (transferredFrom c np cdyn dyn).nodes = c.nodes := by
  unfold transferredFrom
  dsimp only
  rw [Int.min_eq_left hle, Int.sub_self, Int.max_self, hcount, Int.toNat_natCast, List.take_length]
  exact transferNodes_eq_self_iff.mpr (.inl (Int.le_refl 0))

theorem Reused.of_dynamic {k8s : K8scluster} {c np np' : NodePool} {cdyn dyn : DynamicNodePool}
    (h : Reused current .control np np') (hk8s : current.k8s = some k8s)
    (hnames : (k8s.clusterInfo.nodePools.map (·.name)).Nodup)
    (hc : c ∈ k8s.clusterInfo.nodePools) (hcdyn : c.type = .dynamic cdyn)
    (hname : c.name = np.name) (hdyn : np.type = .dynamic dyn) :
    0 ≤ min cdyn.count (transferDynamic cdyn dyn).count
      ∧ min cdyn.count (transferDynamic cdyn dyn).count ≤ c.nodes.length
      ∧ np' = fixupAutoscalerCount (transferredFrom c np cdyn dyn) := by
  have hisDynamic : ∀ {x : NodePool} {xdyn : DynamicNodePool}, x.type = .dynamic xdyn →
      x.isDynamic = true := by
    intro x xdyn hx
    rw [NodePool.isDynamic, NodePool.dynamic?_eq_some.mpr hx]
    rfl
  have hpools : currentNodePools current .control = k8s.clusterInfo.nodePools := by
    rw [currentNodePools_of_isKubernetes rfl, Clusters.kubernetesNodePools, hk8s]
    rfl
  unfold Reused at h
  rw [if_pos (by rw [hk8s]; rfl), hpools] at h
  obtain ⟨np₁, htransfer, rfl⟩ := h
  obtain ⟨c', hc', -, hname', htransferred⟩ | ⟨hnone, -⟩ :=
    transferNodePool_dynamic hnames (hisDynamic hdyn) htransfer
  · obtain rfl : c' = c := List.inj_on_of_nodup_map hnames hc' hc (hname'.trans hname.symm)
    obtain ⟨hnonneg, hlength, rfl⟩ := (transferDynamicNodePool_eq_ok hcdyn hdyn).mp htransferred
    exact ⟨hnonneg, hlength, rfl⟩
  · exact absurd hname (hnone c hc (hisDynamic hcdyn))

theorem kubernetes_history
    (hreused : (reuseExistingState fuel gen m current d).run = some (.ok d₁))
    (hpopulated : populateMissingState gen d₁ = .ok d') :
    List.Forall₂ (KubernetesHistory current) d.k8s.clusterInfo.nodePools
      d'.k8s.clusterInfo.nodePools := by
  obtain ⟨resolved, drawn, deduplicated, reused, hresolved, hdeduplicated, htransfer, hcidr⟩ :=
    reuseExistingState_eq_ok hreused
  obtain ⟨named, hk8s, hnamed⟩ := (resolveDynamicNodePoolReferences_named hresolved).k8s
  obtain ⟨nps, hnps, rfl⟩ := deduplicateStaticNodeNames_eq_ok hdeduplicated
  -- only static nodepools are renamed.
  have hrenamed : List.Forall₂ (fun np np' => np'.isDynamic = np.isDynamic
      ∧ (np.isDynamic = true → np' = np)) named nps := by
    rw [hk8s] at hnps
    refine List.modifyKeys_forall₂ (fun np => ⟨rfl, fun _ => rfl⟩)
      (fun _ _ _ h h' => ⟨h'.1.trans h.1, fun hdyn => ?_⟩) (fun _ c np np' hnp => ?_) hnps
    · rw [h'.2 (h.1.trans hdyn), h.2 hdyn]
    · obtain ⟨heq, -, hsame⟩ := deduplicateNodePool_eq_ok hnp
      refine ⟨by rw [heq]; rfl, fun hdyn => hsame (.inr ?_)⟩
      rw [NodePool.isStatic_eq, hdyn]
      rfl
  have htransferred : List.Forall₂ (Reused current .control) nps
      reused.k8s.clusterInfo.nodePools := by
    split at htransfer
    next hsome =>
      obtain ⟨transferred, htransferred, rfl⟩ := htransfer
      rw [fixupAutoscalerCounts, K8scluster.withNodePools, List.forall₂_map_right_iff]
      refine (transferImmutableState_k8s htransferred).1.imp (fun np np' hnp => ?_)
      rw [Reused, if_pos hsome]
      exact ⟨np', hnp, rfl⟩
    next hnone =>
      subst htransfer
      refine List.forall₂_same.mpr (fun np _ => ?_)
      rw [Reused, if_neg hnone]
  obtain ⟨subnets, hk8s', hsubnets⟩ := (generateMissingCIDR_changed hcidr).k8s
  have hcompleted : List.Forall₂ Completed reused.k8s.clusterInfo.nodePools
      d'.k8s.clusterInfo.nodePools := by
    have hlast := populateMissingState_k8s hpopulated
    rw [hk8s'] at hlast
    refine List.forall₂_trans hsubnets hlast (fun _ np₁ _ hsubnet h => ?_)
    obtain ⟨np₂, hkeys, hnodes⟩ := h
    exact ⟨np₁, np₂, hsubnet, hkeys, hnodes⟩
  have hrest := List.forall₂_trans htransferred hcompleted
    (fun _ np₁ _ h h' => (⟨np₁, h, h'⟩ : ∃ np₁, Reused current .control _ np₁ ∧ Completed np₁ _))
  refine List.forall₂_trans hnamed (List.forall₂_trans hrenamed hrest (fun np np₁ np' h h' => ?_))
    (fun np named np' h (h' : np'.isDynamic = named.isDynamic ∧ (named.isDynamic = true →
      ∃ reused, Reused current .control named reused ∧ Completed reused np')) => ?_)
  · obtain ⟨reused, hreused, hcompleted⟩ := h'
    refine ⟨?_, fun hdyn => ⟨reused, ?_, hcompleted⟩⟩
    · rw [hcompleted.isDynamic, hreused.isDynamic, h.1]
    · rw [← h.2 hdyn]
      exact hreused
  · have hsame : named.isDynamic = np.isDynamic := by
      obtain ⟨name, rfl, -⟩ := h
      rfl
    refine ⟨h'.1.trans hsame, fun hdyn => ?_⟩
    obtain ⟨reused, hreused, hcompleted⟩ := h'.2 (hsame.trans hdyn)
    exact ⟨named, reused, h, hreused, hcompleted⟩

end Kubernetes

end Manager

end Claudie
