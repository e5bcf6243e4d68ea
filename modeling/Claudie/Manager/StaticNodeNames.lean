import Claudie.Manager.Lemmas.Slots
import Claudie.Manifest.Uniqueness

/-!
The names of static nodes. They are first given by position, then new addresses are given unused
ones, and at last the names of the addresses that exist are taken over. The second pass is about the
nodepools of the kubernetes cluster only.
-/

namespace Claudie

section Positions

namespace Manifest

theorem message_nodes {s : StaticNodePool} {isControl : Bool} {np : Claudie.NodePool}
    (h : s.message isControl = .ok np) :
    (np.nodes.map (·.name)).Nodup ∧ np.nodes.map (·.publicIp) = s.nodes.map (·.endpoint) := by
  unfold StaticNodePool.message at h
  obtain ⟨nodes, hnodes, h⟩ := Outcome.bind_eq_ok.mp h
  cases h
  unfold staticNodes at hnodes
  split at hnodes
  next => cases hnodes
  next hlength =>
    cases hnodes
    constructor
    · refine List.pairwise_iff_getElem.mpr (fun i j hi hj hij heq => ?_)
      rw [List.length_map, List.length_mapIdx] at hi hj
      rw [List.getElem_map, List.getElem_map, List.getElem_mapIdx, List.getElem_mapIdx] at heq
      have := Manager.hexByte_inj (by omega) (by omega) (NodePools.fullName_injective s.name heq)
      omega
    · refine List.ext_getElem (by simp) (fun i hi hi' => ?_)
      rw [List.getElem_map, List.getElem_mapIdx, List.getElem_map]

theorem static_of_makes {m : Manifest} {np : Claudie.NodePool} (hm : m.AcceptedNodePools)
    (h : m.Makes np) (hstatic : np.isStatic = true) :
    (np.nodes.map (·.name)).Nodup ∧ (np.nodes.map (·.publicIp)).Nodup := by
  have hdynamic := isDynamic_of_makes h
  rw [NodePool.isStatic_eq, Bool.not_eq_true'] at hstatic
  obtain ⟨isControl, h⟩ := h
  obtain ⟨-, -, ⟨d, provider, hd, -⟩ | ⟨-, s, hs, hmessage⟩⟩ := createNodepool_eq_ok h
  · rw [hd, hstatic] at hdynamic
    cases hdynamic
  · obtain ⟨hnames, haddresses⟩ := message_nodes hmessage
    refine ⟨hnames, ?_⟩
    rw [haddresses]
    exact (List.nodup_flatMap.mp hm.endpoints).1 s (List.mem_of_find?_eq_some hs)

end Manifest

end Positions

namespace Manager

structure NamesKept (current np : NodePool) : Prop where
  kept : ∀ n ∈ np.nodes, ∀ cn ∈ current.nodes, cn.publicIp = n.publicIp → n.name = cn.name
  new : ∀ n ∈ np.nodes, isNew current n = true → n.name ∉ current.nodes.map (·.name)

section Transfer

variable {current np np' : NodePool}

def takeOver (cn dn : Node) : Node :=
  if cn.publicIp = dn.publicIp then
    { dn with name := cn.name, privateIp := cn.privateIp, nodeType := cn.nodeType }
  else dn

theorem takeOver_publicIp (cn dn : Node) : (takeOver cn dn).publicIp = dn.publicIp := by
  unfold takeOver
  split <;> rfl

theorem transferStaticNode_eq_map {cn : Node} {nodes : List Node}
    (h : (nodes.map (·.publicIp)).Nodup) :
    transferStaticNode cn nodes = nodes.map (takeOver cn) := by
  induction nodes with
  | nil => rfl
  | cons dn nodes ih =>
    rw [List.map_cons, List.nodup_cons] at h
    rw [transferStaticNode, List.map_cons, takeOver]
    split
    next heq =>
      have hrest : nodes.map (takeOver cn) = nodes := by
        refine (List.map_congr_left (fun n hn => ?_)).trans (List.map_id nodes)
        exact if_neg (fun hn' => h.1 (heq.symm.trans hn' ▸ List.mem_map_of_mem hn))
      rw [hrest]
    next => rw [ih h.2]

def takeOverAll (current : List Node) (dn : Node) : Node :=
  current.foldl (fun dn cn => takeOver cn dn) dn

theorem takeOverAll_publicIp (current : List Node) (dn : Node) :
    (takeOverAll current dn).publicIp = dn.publicIp := by
  induction current generalizing dn with
  | nil => rfl
  | cons cn current ih => exact (ih (takeOver cn dn)).trans (takeOver_publicIp cn dn)

theorem takeOverAll_of_new {current : List Node} {dn : Node}
    (h : ∀ cn ∈ current, cn.publicIp ≠ dn.publicIp) : takeOverAll current dn = dn := by
  induction current with
  | nil => rfl
  | cons cn current ih =>
    have hhead : takeOver cn dn = dn := if_neg (h cn List.mem_cons_self)
    rw [takeOverAll, List.foldl_cons, hhead]
    exact ih (fun cn hcn => h cn (List.mem_cons_of_mem _ hcn))

theorem takeOverAll_name {current : List Node} (hnodup : (current.map (·.publicIp)).Nodup)
    {cn dn : Node} (hcn : cn ∈ current) (h : cn.publicIp = dn.publicIp) :
    (takeOverAll current dn).name = cn.name := by
  induction current generalizing dn with
  | nil => cases hcn
  | cons cn' current ih =>
    rw [List.map_cons, List.nodup_cons] at hnodup
    rw [takeOverAll, List.foldl_cons]
    cases hcn with
    | head =>
      have hrest : takeOverAll current (takeOver cn dn) = takeOver cn dn := by
        refine takeOverAll_of_new (fun cn' hcn' heq => hnodup.1 ?_)
        rw [h, ← takeOver_publicIp cn dn, ← heq]
        exact List.mem_map_of_mem hcn'
      rw [← takeOverAll, hrest, takeOver, if_pos h]
    | tail _ hcn => exact ih hnodup.2 hcn (h.trans (takeOver_publicIp cn' dn).symm)

theorem transferStaticNodePool_nodes (h : (np.nodes.map (·.publicIp)).Nodup) :
    (transferStaticNodePool current np).nodes = np.nodes.map (takeOverAll current.nodes) := by
  have hfold : ∀ (cns nodes : List Node), (nodes.map (·.publicIp)).Nodup →
      cns.foldl (fun nodes cn => transferStaticNode cn nodes) nodes
        = nodes.map (takeOverAll cns) := by
    intro cns
    induction cns with
    | nil => exact fun nodes _ => (List.map_id nodes).symm
    | cons cn cns ih =>
      intro nodes hnodes
      have haddresses : (nodes.map (takeOver cn)).map (·.publicIp) = nodes.map (·.publicIp) := by
        rw [List.map_map]
        exact List.map_congr_left (fun n _ => takeOver_publicIp cn n)
      rw [List.foldl_cons, transferStaticNode_eq_map hnodes, ih _ (haddresses ▸ hnodes),
        List.map_map]
      rfl
  exact hfold current.nodes np.nodes h

theorem transferStaticNodePool_kept (hcurrent : (current.nodes.map (·.publicIp)).Nodup)
    (hnp : (np.nodes.map (·.publicIp)).Nodup)
    (hnew : ∀ n ∈ np.nodes, isNew current n = true → n.name ∉ current.nodes.map (·.name)) :
    NamesKept current (transferStaticNodePool current np) := by
  constructor
  · rw [transferStaticNodePool_nodes hnp]
    intro n hn cn hcn heq
    obtain ⟨dn, -, rfl⟩ := List.mem_map.mp hn
    exact takeOverAll_name hcurrent hcn (heq.trans (takeOverAll_publicIp _ _))
  · rw [transferStaticNodePool_nodes hnp]
    intro n hn hisNew
    obtain ⟨dn, hdn, rfl⟩ := List.mem_map.mp hn
    rw [isNew_congr (takeOverAll_publicIp _ _)] at hisNew
    rw [takeOverAll_of_new (isNew_iff.mp hisNew)]
    exact hnew dn hdn hisNew

theorem NamesKept.nodup (h : NamesKept current np)
    (hnames : (current.nodes.map (·.name)).Nodup) (hnp : (np.nodes.map (·.publicIp)).Nodup)
    (hnew : ∀ n ∈ np.nodes, ∀ n' ∈ np.nodes, isNew current n = true → isNew current n' = true →
      n.name = n'.name → n = n') : (np.nodes.map (·.name)).Nodup := by
  have hkept : ∀ n ∈ np.nodes, isNew current n = false →
      ∃ cn ∈ current.nodes, cn.publicIp = n.publicIp ∧ n.name = cn.name := by
    intro n hn hfalse
    rw [isNew, Bool.not_eq_false', List.any_eq_true] at hfalse
    obtain ⟨cn, hcn, heq⟩ := hfalse
    exact ⟨cn, hcn, of_decide_eq_true heq, h.kept n hn cn hcn (of_decide_eq_true heq)⟩
  refine List.Nodup.map_on (fun n hn n' hn' heq => ?_) hnp.of_map
  cases hn₁ : isNew current n with
  | true =>
    cases hn₂ : isNew current n' with
    | true => exact hnew n hn n' hn' hn₁ hn₂ heq
    | false =>
      obtain ⟨cn', hcn', -, hname⟩ := hkept n' hn' hn₂
      exact absurd (heq ▸ hname ▸ List.mem_map_of_mem hcn') (h.new n hn hn₁)
  | false =>
    obtain ⟨cn, hcn, hip, hname⟩ := hkept n hn hn₁
    cases hn₂ : isNew current n' with
    | true => exact absurd (heq ▸ hname ▸ List.mem_map_of_mem hcn) (h.new n' hn' hn₂)
    | false =>
      obtain ⟨cn', hcn', hip', hname'⟩ := hkept n' hn' hn₂
      obtain rfl : cn = cn' :=
        List.inj_on_of_nodup_map hnames hcn hcn' (hname ▸ hname' ▸ heq)
      exact List.inj_on_of_nodup_map hnp hn hn' (hip.symm.trans hip')

theorem transferStaticNodePool_names (hnames : (current.nodes.map (·.name)).Nodup)
    (hcurrent : (current.nodes.map (·.publicIp)).Nodup)
    (hnp : (np.nodes.map (·.publicIp)).Nodup)
    (hnew : ∀ n ∈ np.nodes, isNew current n = true → n.name ∉ current.nodes.map (·.name))
    (hdistinct : ∀ n ∈ np.nodes, ∀ n' ∈ np.nodes, isNew current n = true →
      isNew current n' = true → n.name = n'.name → n = n') :
    ((transferStaticNodePool current np).nodes.map (·.name)).Nodup
      ∧ NamesKept current (transferStaticNodePool current np) := by
  have hkept := transferStaticNodePool_kept hcurrent hnp hnew
  have hnodes : (transferStaticNodePool current np).nodes
      = np.nodes.map (takeOverAll current.nodes) := transferStaticNodePool_nodes hnp
  have hunchanged : ∀ n ∈ (transferStaticNodePool current np).nodes, isNew current n = true →
      n ∈ np.nodes := by
    intro n hn hisNew
    rw [hnodes] at hn
    obtain ⟨dn, hdn, rfl⟩ := List.mem_map.mp hn
    rw [isNew_congr (takeOverAll_publicIp _ _)] at hisNew
    rwa [takeOverAll_of_new (isNew_iff.mp hisNew)]
  refine ⟨hkept.nodup hnames ?_ ?_, hkept⟩
  · have haddresses : (np.nodes.map (takeOverAll current.nodes)).map (·.publicIp)
        = np.nodes.map (·.publicIp) := by
      rw [List.map_map]
      exact List.map_congr_left (fun n _ => takeOverAll_publicIp current.nodes n)
    rw [hnodes, haddresses]
    exact hnp
  · intro n hn n' hn' hisNew hisNew'
    exact hdistinct n (hunchanged n hn hisNew) n' (hunchanged n' hn' hisNew') hisNew hisNew'

theorem transferNodePool_static {nps : List NodePool} (hnodup : (nps.map (·.name)).Nodup)
    (hstatic : np.isStatic = true) (h : transferNodePool nps np = .ok np') :
    (∃ c ∈ nps, c.isStatic = true ∧ c.name = np.name ∧ np' = transferStaticNodePool c np)
      ∨ (∀ c ∈ nps, c.isStatic = true → c.name ≠ np.name) ∧ np' = np := by
  induction nps with
  | nil =>
    cases h
    exact .inr ⟨fun c hc => absurd hc List.not_mem_nil, rfl⟩
  | cons c nps ih =>
    rw [List.map_cons, List.nodup_cons] at hnodup
    rw [transferNodePool] at h
    split at h
    next hne =>
      obtain ⟨c', hc', hfound⟩ | ⟨hnone, hnp⟩ := ih hnodup.2 h
      · exact .inl ⟨c', List.mem_cons_of_mem c hc', hfound⟩
      · exact .inr ⟨List.forall_mem_cons.mpr ⟨fun _ => hne, hnone⟩, hnp⟩
    next heq =>
      have heq : c.name = np.name := Decidable.not_not.mp heq
      rw [heq] at hnodup
      split at h
      next d d' _ hnp =>
        rw [NodePool.isStatic, NodePool.static?, hnp] at hstatic
        cases hstatic
      next s s' hc _ =>
        have hrest : transferNodePool nps (transferStaticNodePool c np)
            = .ok (transferStaticNodePool c np) := transferNodePool_of_not_mem hnodup.1
        rw [hrest] at h
        cases h
        have hstatic' : c.isStatic = true := by rw [NodePool.isStatic, NodePool.static?, hc]; rfl
        exact .inl ⟨c, List.mem_cons_self, hstatic', heq, rfl⟩
      next hmixed =>
        cases h
        refine .inr ⟨fun c' hc' hstatic' heq' => ?_, rfl⟩
        rcases List.mem_cons.mp hc' with rfl | hc'
        · cases hc : c'.type with
          | dynamic d =>
            rw [NodePool.isStatic, NodePool.static?, hc] at hstatic'
            cases hstatic'
          | static s =>
            cases hnp : np.type with
            | dynamic d =>
              rw [NodePool.isStatic, NodePool.static?, hnp] at hstatic
              cases hstatic
            | static s' => exact hmixed s s' hc hnp
        · exact hnodup.1 (heq' ▸ List.mem_map_of_mem hc')

end Transfer

structure DistinctStaticNodes (current : Clusters) : Prop where
  loadBalancers : DistinctLoadBalancers current.loadBalancers
  nodePools : ∀ role, ((currentNodePools current role).map (·.name)).Nodup
  names : ∀ role, ∀ np ∈ currentNodePools current role, np.isStatic = true →
    (np.nodes.map (·.name)).Nodup
  addresses : ∀ role, ∀ np ∈ currentNodePools current role, np.isStatic = true →
    (np.nodes.map (·.publicIp)).Nodup

def Counterpart (current : Clusters) (s : Slot) (np : NodePool) : Prop :=
  np ∈ currentNodePools current s.1 ∧ np.isStatic = true ∧ np.name = s.2.name

def StaticNamesKept (current : Clusters) (d : DesiredCluster) : Prop :=
  ∀ s ∈ d.slots, s.2.isStatic = true → (s.2.nodes.map (·.name)).Nodup
    ∧ ∀ np, Counterpart current s np → NamesKept np s.2

/--
What is asked of the names by position: unless a new address is given another one, its position has
to be free, and unless there is a kubernetes cluster no address that exists may have moved.
-/
def PositionsFit (current : Clusters) (d : DesiredCluster) : Prop :=
  ∀ (i : Nat) (s : Slot), d.slots[i]? = some s → s.2.isStatic = true →
    ∀ np, Counterpart current s np →
      (FirstOfName d i s.2 ∨
        ∀ n ∈ s.2.nodes, isNew np n = true → n.name ∉ np.nodes.map (·.name))
      ∧ (current.k8s.isSome = true ∨
        ∀ n ∈ s.2.nodes, ∀ cn ∈ np.nodes, cn.publicIp = n.publicIp → n.name = cn.name)

section Slots

variable {current : Clusters} {resolved d' : DesiredCluster}

theorem Counterpart.unique (hcurrent : DistinctStaticNodes current) {s : Slot} {np np' : NodePool}
    (h : Counterpart current s np) (h' : Counterpart current s np') : np = np' :=
  List.inj_on_of_nodup_map (hcurrent.nodePools s.1) h.1 h'.1 (h.2.2.trans h'.2.2.symm)

def NamesSettled (current : Clusters) (d : DesiredCluster) (i : Nat) (s : Slot) (np' : NodePool) :
    Prop :=
  ∃ np₁, Deduplicated current d i s.2 np₁
    ∧ if current.k8s.isSome then transferNodePool (currentNodePools current s.1) np₁ = .ok np'
      else np' = np₁

theorem settled_slots {fuel : Nat} {gen : Generator} {m : Claudie.Manifest} {d d₁ : DesiredCluster}
    {drawn : Nat} (hcurrent : DistinctStaticNodes current)
    (hdistinct : DistinctLoadBalancers resolved.loadBalancers)
    (hresolved : resolveDynamicNodePoolReferences fuel gen current m.types d 0
      = some (resolved, drawn))
    (hreused : (reuseExistingState fuel gen m current d).run = some (.ok d₁))
    (hpopulated : populateMissingState gen d₁ = .ok d') :
    d'.slots.length = resolved.slots.length
      ∧ ∀ (i : Nat) (s : Slot), resolved.slots[i]? = some s → ∃ np', d'.slots[i]? = some (s.1, np')
        ∧ np'.isStatic = s.2.isStatic
        ∧ (s.2.isStatic = true → NamesSettled current resolved i s np') := by
  obtain ⟨hlength, hslots⟩ := slot_history hcurrent.loadBalancers (hcurrent.nodePools .control)
    hdistinct hresolved hreused hpopulated
  refine ⟨hlength, fun i s hs => ?_⟩
  obtain ⟨np₁, np₂, np', hs', hnp₁, hreused, hcompleted⟩ := hslots i s hs
  have hstatic₁ : np₁.isStatic = s.2.isStatic := by rw [hnp₁.keeps]; rfl
  -- neither the mark of surplus nodes nor what is generated concerns a static nodepool.
  have hlast : np₂.isStatic = np₁.isStatic ∧ (np₁.isStatic = true → if current.k8s.isSome then
      transferNodePool (currentNodePools current s.1) np₁ = .ok np₂ else np₂ = np₁) := by
    unfold Reused at hreused
    split at hreused
    next hsome =>
      obtain ⟨transferred, htransferred, rfl⟩ := hreused
      have hkeeps : KeepsStatic transferred
          (if s.1.isKubernetes then fixupAutoscalerCount transferred else transferred) := by
        split
        · exact fixupAutoscalerCount_keepsStatic transferred
        · exact .refl transferred
      have hstatic : transferred.isStatic = np₁.isStatic := by
        rw [NodePool.isStatic_eq, NodePool.isStatic_eq, (transferNodePool_keeps htransferred).2.1]
      refine ⟨hkeeps.1.trans hstatic, fun hs => ?_⟩
      rw [if_pos hsome, hkeeps.2 (hstatic.trans hs)]
      exact htransferred
    next hnone =>
      rw [if_neg hnone, hreused]
      exact ⟨rfl, fun _ => rfl⟩
  have hkeeps := hcompleted.keepsStatic
  refine ⟨np', hs', hkeeps.1.trans (hlast.1.trans hstatic₁), fun hs => ⟨np₁, hnp₁, ?_⟩⟩
  rw [hkeeps.2 (hlast.1.trans (hstatic₁.trans hs))]
  exact hlast.2 (hstatic₁.trans hs)

theorem isKubernetes_of_firstOfName {d : DesiredCluster} {i : Nat} {s : Slot}
    (hs : d.slots[i]? = some s) (h : FirstOfName d i s.2) : s.1.isKubernetes = true := by
  have hi : i < (kubernetesSlots d.k8s.clusterInfo.nodePools).length := by
    rw [kubernetesSlots, List.length_map]
    exact (List.findIdx?_eq_some_iff_findIdx_eq.mp h).1
  unfold DesiredCluster.slots allSlots at hs
  rw [List.getElem?_append_left hi, kubernetesSlots, List.getElem?_map] at hs
  obtain ⟨np, -, rfl⟩ := Option.map_eq_some_iff.mp hs
  dsimp only
  split <;> rfl

section NamesSettled

variable {d : DesiredCluster} {i : Nat} {s : Slot} {c np' : NodePool}

theorem NamesSettled.name (h : NamesSettled current d i s np')
    (hcurrent : DistinctStaticNodes current) (hstatic : s.2.isStatic = true) : np'.name = s.2.name := by
  obtain ⟨np₁, hnp₁, h⟩ := h
  have hname : np₁.name = s.2.name := by rw [hnp₁.keeps]
  have hstatic₁ : np₁.isStatic = true := by rw [hnp₁.keeps]; exact hstatic
  split at h
  next =>
    obtain ⟨c, -, -, -, rfl⟩ | ⟨-, rfl⟩ :=
      transferNodePool_static (hcurrent.nodePools s.1) hstatic₁ h
    · exact hname
    · exact hname
  next => rw [h, hname]

theorem NamesSettled.of_counterpart (h : NamesSettled current d i s np')
    (hcurrent : DistinctStaticNodes current) (hs : d.slots[i]? = some s)
    (hstatic : s.2.isStatic = true) (hc : Counterpart current s c) :
    FirstOfName d i s.2 ∧ current.k8s.isSome = true
        ∧ (∃ np₁, NewlyNamed c (c.nodes.map (·.name)) s.2.nodes np₁.nodes
          ∧ np' = transferStaticNodePool c np₁)
      ∨ ¬ FirstOfName d i s.2
        ∧ np' = if current.k8s.isSome then transferStaticNodePool c s.2 else s.2 := by
  obtain ⟨np₁, hnp₁, h⟩ := h
  have hc₁ : Counterpart current (s.1, np₁) c := by
    refine ⟨hc.1, hc.2.1, ?_⟩
    rw [hnp₁.keeps]
    exact hc.2.2
  have hstatic₁ : np₁.isStatic = true := by rw [hnp₁.keeps]; exact hstatic
  have htransfer : current.k8s.isSome = true → np' = transferStaticNodePool c np₁ := by
    intro hsome
    rw [if_pos hsome] at h
    obtain ⟨c', hc', hstatic', hname', rfl⟩ | ⟨hnone, -⟩ :=
      transferNodePool_static (hcurrent.nodePools s.1) hstatic₁ h
    · rw [hc₁.unique hcurrent (s := (s.1, np₁)) ⟨hc', hstatic', hname'⟩]
    · exact absurd hc₁.2.2 (hnone c hc₁.1 hc₁.2.1)
  obtain ⟨hfirst, c', hc', hname, hdeduplicated⟩ | ⟨hnot, rfl⟩ := hnp₁
  · have hpools : currentNodePools current s.1 = current.kubernetesNodePools :=
      currentNodePools_of_isKubernetes (isKubernetes_of_firstOfName hs hfirst)
    have hmem := hc.1
    rw [hpools] at hmem
    have hsome : current.k8s.isSome = true := by
      cases hk8s : current.k8s with
      | none =>
        rw [Clusters.kubernetesNodePools, hk8s] at hmem
        cases hmem
      | some k8s => rfl
    obtain rfl : c = c' := List.inj_on_of_nodup_map (hcurrent.nodePools .control) hmem hc'
      (hc.2.2.trans hname.symm)
    exact .inl ⟨hfirst, hsome, np₁, (deduplicateNodePool_eq_ok hdeduplicated).2.1 hc.2.1 hstatic,
      htransfer hsome⟩
  · refine .inr ⟨fun hfirst => hnot ⟨hfirst, ?_⟩, ?_⟩
    · rw [← hc.2.2, ← currentNodePools_of_isKubernetes (isKubernetes_of_firstOfName hs hfirst)]
      exact List.mem_map_of_mem hc.1
    · split
      next hsome => exact htransfer hsome
      next hnone =>
        rw [if_neg hnone] at h
        exact h

theorem NamesSettled.of_no_counterpart (h : NamesSettled current d i s np')
    (hcurrent : DistinctStaticNodes current) (hs : d.slots[i]? = some s)
    (hstatic : s.2.isStatic = true) (hnone : ∀ c, ¬ Counterpart current s c) : np' = s.2 := by
  obtain ⟨np₁, hnp₁, h⟩ := h
  have hsame : np₁ = s.2 := by
    obtain ⟨hfirst, c, hc, hname, hdeduplicated⟩ | ⟨-, hsame⟩ := hnp₁
    · refine (deduplicateNodePool_eq_ok hdeduplicated).2.2 (.inl ?_)
      rw [← Bool.not_eq_true]
      intro hcstatic
      refine hnone c ⟨?_, hcstatic, hname⟩
      rw [currentNodePools_of_isKubernetes (isKubernetes_of_firstOfName hs hfirst)]
      exact hc
    · exact hsame
  subst hsame
  split at h
  next =>
    obtain ⟨c, hc, hcstatic, hname, -⟩ | ⟨-, hsame⟩ :=
      transferNodePool_static (hcurrent.nodePools s.1) hstatic h
    · exact absurd ⟨hc, hcstatic, hname⟩ (hnone c)
    · exact hsame
  next => exact h

theorem NamesSettled.names_iff (h : NamesSettled current d i s np')
    (hcurrent : DistinctStaticNodes current) (hs : d.slots[i]? = some s)
    (hstatic : s.2.isStatic = true) (hnames : (s.2.nodes.map (·.name)).Nodup)
    (haddresses : (s.2.nodes.map (·.publicIp)).Nodup) (hc : Counterpart current s c) :
    (np'.nodes.map (·.name)).Nodup ∧ NamesKept c np'
      ↔ (FirstOfName d i s.2 ∨
          ∀ n ∈ s.2.nodes, isNew c n = true → n.name ∉ c.nodes.map (·.name))
        ∧ (current.k8s.isSome = true ∨
          ∀ n ∈ s.2.nodes, ∀ cn ∈ c.nodes, cn.publicIp = n.publicIp → n.name = cn.name) := by
  have hcnames := hcurrent.names s.1 c hc.1 hc.2.1
  have hcaddresses := hcurrent.addresses s.1 c hc.1 hc.2.1
  have hdistinct : ∀ n ∈ s.2.nodes, ∀ n' ∈ s.2.nodes, isNew c n = true → isNew c n' = true →
      n.name = n'.name → n = n' :=
    fun n hn n' hn' _ _ heq => List.inj_on_of_nodup_map hnames hn hn' heq
  obtain ⟨hfirst, hsome, np₁, hnew, rfl⟩ | ⟨hfirst, rfl⟩ :=
    h.of_counterpart hcurrent hs hstatic hc
  · refine iff_of_true ?_ ⟨.inl hfirst, .inl hsome⟩
    refine transferStaticNodePool_names hcnames hcaddresses (hnew.addresses ▸ haddresses)
      hnew.unused (fun n hn n' hn' hisNew hisNew' heq => ?_)
    exact List.inj_on_of_nodup_map hnew.distinct (List.mem_filter.mpr ⟨hn, hisNew⟩)
      (List.mem_filter.mpr ⟨hn', hisNew'⟩) heq
  · split
    next hsome =>
      constructor
      · rintro ⟨-, -, hnew⟩
        refine ⟨.inr (fun n hn hisNew => ?_), .inl hsome⟩
        refine hnew n ?_ hisNew
        rw [transferStaticNodePool_nodes haddresses]
        exact List.mem_map.mpr ⟨n, hn, takeOverAll_of_new (isNew_iff.mp hisNew)⟩
      · rintro ⟨hnew, -⟩
        exact transferStaticNodePool_names hcnames hcaddresses haddresses
          (hnew.resolve_left hfirst) hdistinct
    next hnone =>
      constructor
      · rintro ⟨-, hkept, hnew⟩
        exact ⟨.inr hnew, .inr hkept⟩
      · rintro ⟨hnew, hkept⟩
        exact ⟨hnames, hkept.resolve_left hnone, hnew.resolve_left hfirst⟩

end NamesSettled

end Slots

def NamedCluster (fuel : Nat) (draws : Draws) (m : Claudie.Manifest)
    (clusters : GoMap ClusterState) (name : String) (resolved : DesiredCluster) : Prop :=
  ∃ skeleton d drawn, Skeleton m draws skeleton ∧ skeleton[name]? = some d
    ∧ resolveDynamicNodePoolReferences fuel (draws.cluster name) (currentOf clusters name) m.types d
      0 = some (resolved, drawn)

theorem Skeleton.unique {m : Claudie.Manifest} {draws : Draws}
    {desired desired' : GoMap DesiredCluster} (h : Skeleton m draws desired) (h' : Skeleton m draws desired') : desired = desired' := by
  obtain ⟨clusters, hclusters, hdesired⟩ := h
  obtain ⟨clusters', hclusters', hdesired'⟩ := h'
  rw [hclusters] at hclusters'
  cases hclusters'
  rw [hdesired] at hdesired'
  cases hdesired'
  rfl

theorem static_node_names_iff (formats : Manifest.Formats) (fuel : Nat) (draws : Draws)
    (ord : MapOrder) (m : Claudie.Manifest) (clusters : GoMap ClusterState) (name : String)
    (resolved d' : DesiredCluster) (result : GoMap DesiredCluster)
    (hm : m.validate formats = true) (hcurrent : DistinctStaticNodes (currentOf clusters name))
    (hresolved : NamedCluster fuel draws m clusters name resolved)
    (hrun : (desiredState fuel draws ord m clusters).run = some (.ok result))
    (hresult : result[name]? = some d') :
    StaticNamesKept (currentOf clusters name) d'
      ↔ PositionsFit (currentOf clusters name) resolved := by
  obtain ⟨skeleton, d, drawn, hskeleton, hd, hresolved⟩ := hresolved
  obtain ⟨skeleton', hskeleton', hentries⟩ := desiredState_eq_ok hrun
  cases hskeleton.unique hskeleton'
  obtain ⟨d₁, d'', hd'', hreused, hpopulated⟩ := (hentries name).1 d hd
  rw [hresult] at hd''
  cases hd''
  have hdistinct := hskeleton.distinctLoadBalancers (Manifest.acceptedLoadBalancers hm).names hd
  have hextended := extended_run hcurrent.loadBalancers hdistinct hresolved
  -- the nodes of a static nodepool are still those of the manifest.
  have hnodes : ∀ s ∈ resolved.slots, s.2.isStatic = true →
      (s.2.nodes.map (·.name)).Nodup ∧ (s.2.nodes.map (·.publicIp)).Nodup := by
    intro s hs hstatic
    obtain ⟨s₀, hs₀, -, name, hnp, -⟩ := List.exists_mem_of_forall₂ hextended hs
    have hstatic₀ : s₀.2.isStatic = true := by
      rw [hnp] at hstatic
      exact hstatic
    have hmade := Manifest.static_of_makes (Manifest.acceptedNodePools hm) (hskeleton.makes hd hs₀)
      hstatic₀
    rw [hnp]
    exact hmade
  have hdistinct' := distinctLoadBalancers_run hcurrent.loadBalancers hdistinct hresolved
  obtain ⟨hlength, hslots⟩ := settled_slots hcurrent hdistinct' hresolved hreused hpopulated
  constructor
  · intro hkept i s hs hstatic c hc
    obtain ⟨np', hs', hstatic', hsettled⟩ := hslots i s hs
    have hsettled := hsettled hstatic
    obtain ⟨hnames, haddresses⟩ := hnodes s (List.mem_of_getElem? hs) hstatic
    obtain ⟨hnodup, hcounterpart⟩ := hkept _ (List.mem_of_getElem? hs') (hstatic'.trans hstatic)
    refine (hsettled.names_iff hcurrent hs hstatic hnames haddresses hc).mp ⟨hnodup, ?_⟩
    exact hcounterpart c ⟨hc.1, hc.2.1, hc.2.2.trans (hsettled.name hcurrent hstatic).symm⟩
  · intro hfit s' hs' hstatic'
    obtain ⟨i, hi⟩ := List.mem_iff_getElem?.mp hs'
    obtain ⟨s, hs⟩ : ∃ s, resolved.slots[i]? = some s :=
      ⟨_, List.getElem?_eq_getElem (hlength ▸ (List.getElem?_eq_some_iff.mp hi).1)⟩
    obtain ⟨np', hnp', hstatic, hsettled⟩ := hslots i s hs
    rw [hi] at hnp'
    cases hnp'
    have hstatic : s.2.isStatic = true := hstatic.symm.trans hstatic'
    have hsettled := hsettled hstatic
    obtain ⟨hnames, haddresses⟩ := hnodes s (List.mem_of_getElem? hs) hstatic
    have hcounterpart : ∀ c, Counterpart (currentOf clusters name) (s.1, np') c →
        Counterpart (currentOf clusters name) s c := fun c hc =>
      ⟨hc.1, hc.2.1, hc.2.2.trans (hsettled.name hcurrent hstatic)⟩
    have hiff := fun c hc =>
      hsettled.names_iff hcurrent hs hstatic hnames haddresses (c := c) (hcounterpart c hc)
    refine ⟨?_, fun c hc => ((hiff c hc).mpr (hfit i s hs hstatic c (hcounterpart c hc))).2⟩
    by_cases hexists : ∃ c, Counterpart (currentOf clusters name) (s.1, np') c
    · obtain ⟨c, hc⟩ := hexists
      exact ((hiff c hc).mpr (hfit i s hs hstatic c (hcounterpart c hc))).1
    · have hname := hsettled.name hcurrent hstatic
      rw [hsettled.of_no_counterpart hcurrent hs hstatic (fun c hc =>
        hexists ⟨c, hc.1, hc.2.1, hc.2.2.trans hname.symm⟩)]
      exact hnames

namespace Demo

namespace StaticNodeNames

def pool (endpoints : List String) : Manifest.StaticNodePool :=
  { name := "edge", nodes := endpoints.map (⟨·, "key", "root"⟩), labels := ∅, annotations := ∅
    taints := [], sshPort := none }

def manifest (endpoints : List String) : Claudie.Manifest :=
  Manifest.Demo.manifest [Manifest.Demo.staticNodePool "c1" "10.0.0.1", pool endpoints]
    [Manifest.Demo.cluster "main" ["c1"]]
    [Manifest.Demo.loadBalancer "lb" "www" "example.com" ["edge"]]

theorem hash_valid :
    "aaaaaaa".length = NodePools.hashLength ∧ "aaaaaaa".toList.all isHashChar := by
  decide

def hash : Hash := ⟨"aaaaaaa", hash_valid⟩

def draws : Draws :=
  ⟨fun _ => hash, fun _ => hash, fun _ => ⟨fun _ => hash, fun _ => "", fun _ _ => none⟩⟩

def node (name publicIp : String) (nodeType : NodeType) : Node :=
  { name, privateIp := "", publicIp, nodeType, username := "root", status := .joined, sshPort := 22
    wireguardPort := 51820 }

def nodePool (name : String) (nodes : List Node) (isControl : Bool) : NodePool :=
  ⟨.static ⟨∅⟩, name, nodes, isControl, ∅, [], ∅, 22⟩

def control : NodePool := nodePool "c1" [node "c1-01" "10.0.0.1" .master] true

def edge : NodePool :=
  nodePool "edge" [node "edge-01" "10.0.1.1" .worker, node "edge-02" "10.0.1.2" .worker] false

def current : Clusters :=
  ⟨some ⟨⟨"main", "aaaaaaa", [control]⟩, "", "", "", ⟨"default", "", ""⟩⟩,
    [{ clusterInfo := ⟨"lb", "aaaaaaa", [edge]⟩, roles := [], dns := none, targetedK8s := "main"
       usedApiEndpoint := false }]⟩

def clusters : GoMap ClusterState :=
  Std.ExtTreeMap.insert ∅ "main" ⟨current, ⟨.done, "", [], 0⟩, [], ⟨∅⟩⟩

theorem currentOf_clusters : currentOf clusters "main" = current := rfl

theorem currentNodePools_current (role : PoolRole) : currentNodePools current role = [control]
    ∨ currentNodePools current role = [edge] ∨ currentNodePools current role = [] := by
  cases role with
  | control => exact .inl rfl
  | compute => exact .inl rfl
  | loadBalancer name =>
    by_cases h : name = "lb"
    · subst h
      exact .inr (.inl rfl)
    · refine .inr (.inr (namedNodePools_of_not_mem fun hmem => h ?_))
      exact List.mem_singleton.mp hmem

theorem distinctStaticNodes : DistinctStaticNodes (currentOf clusters "main") := by
  rw [currentOf_clusters]
  refine ⟨List.nodup_singleton _, fun role => ?_, fun role => ?_, fun role => ?_⟩
  · rcases currentNodePools_current role with h | h | h <;> rw [h] <;> decide
  · rcases currentNodePools_current role with h | h | h <;> rw [h] <;> decide
  · rcases currentNodePools_current role with h | h | h <;> rw [h] <;> decide

end StaticNodeNames

end Demo

theorem static_node_names_of_added_node :
    ∃ result d', (desiredState 0 Demo.StaticNodeNames.draws .ascending
        (Demo.StaticNodeNames.manifest ["10.0.1.2", "10.0.1.1", "10.0.1.3"])
        Demo.StaticNodeNames.clusters).run = some (.ok result)
      ∧ result["main"]? = some d'
      ∧ StaticNamesKept (currentOf Demo.StaticNodeNames.clusters "main") d' := by
  refine ⟨_, _, rfl, rfl, (static_node_names_iff Manifest.Demo.formats 0
    Demo.StaticNodeNames.draws .ascending
    (Demo.StaticNodeNames.manifest ["10.0.1.2", "10.0.1.1", "10.0.1.3"])
    Demo.StaticNodeNames.clusters "main" _ _ _ rfl
    Demo.StaticNodeNames.distinctStaticNodes ⟨_, _, _, ⟨_, rfl, rfl⟩, rfl, rfl⟩ rfl rfl).mpr ?_⟩
  rw [Demo.StaticNodeNames.currentOf_clusters]
  rintro (_ | _ | i) s hs hstatic np ⟨hnp, -, -⟩
  · cases hs
    cases List.mem_singleton.mp hnp
    exact ⟨.inl rfl, .inl rfl⟩
  · cases hs
    cases List.mem_singleton.mp hnp
    exact ⟨.inr (by decide), .inl rfl⟩
  · cases hs

-- The second position is the one of a node that exists, and is now the one of a new node.
theorem static_node_names_collide :
    (Demo.StaticNodeNames.manifest ["10.0.1.2", "10.0.1.3"]).validate Manifest.Demo.formats = true
      ∧ DistinctStaticNodes (currentOf Demo.StaticNodeNames.clusters "main")
      ∧ ∃ result d', (desiredState 0 Demo.StaticNodeNames.draws .ascending
          (Demo.StaticNodeNames.manifest ["10.0.1.2", "10.0.1.3"])
          Demo.StaticNodeNames.clusters).run = some (.ok result)
        ∧ result["main"]? = some d'
        ∧ ¬ StaticNamesKept (currentOf Demo.StaticNodeNames.clusters "main") d' := by
  refine ⟨rfl, Demo.StaticNodeNames.distinctStaticNodes, _, _, rfl, rfl, ?_⟩
  intro h
  exact absurd (h _ (List.mem_cons_of_mem _ List.mem_cons_self) rfl).1 (by decide)

end Manager

end Claudie
