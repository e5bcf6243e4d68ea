import Claudie.Lib.List
import Claudie.NodePools

/-!
What the functions that copy nodes between nodepools leave and what they add.
-/

namespace Claudie

structure NodePool.Tidy (np : NodePool) : Prop where
  nodes : (np.nodes.map (·.name)).Nodup
  count : ∀ d, np.type = .dynamic d → d.count = np.nodes.length
  keys : ∀ s, np.type = .static s → ∀ ip, ip ∈ s.nodeKeys ↔ ip ∈ np.nodes.map (·.publicIp)

structure TidyNodePools (nps : List NodePool) : Prop where
  names : (nps.map (·.name)).Nodup
  nodePools : ∀ np ∈ nps, np.Tidy

structure Clusters.Tidy (c : Clusters) : Prop where
  -- there are no load balancers without a kubernetes cluster.
  attached : c.k8s = none → c.loadBalancers = []
  k8s : ∀ k ∈ c.k8s, TidyNodePools k.clusterInfo.nodePools
  ids : (c.loadBalancers.map (·.id)).Nodup
  loadBalancers : ∀ lb ∈ c.loadBalancers, TidyNodePools lb.clusterInfo.nodePools

structure NodePool.Covers (np other : NodePool) : Prop where
  name : np.name = other.name
  kind : np.isDynamic = other.isDynamic
  nodes : other.nodes.map (·.name) ⊆ np.nodes.map (·.name)

def CoversNodePools (nps others : List NodePool) : Prop :=
  ∀ o ∈ others, ∃ np ∈ nps, np.Covers o

structure Clusters.Covers (c other : Clusters) : Prop where
  k8s : ∀ k ∈ other.k8s, ∃ k' ∈ c.k8s, k'.id = k.id
    ∧ CoversNodePools k'.clusterInfo.nodePools k.clusterInfo.nodePools
  loadBalancers : ∀ lb ∈ other.loadBalancers, ∃ lb' ∈ c.loadBalancers, lb'.id = lb.id
    ∧ CoversNodePools lb'.clusterInfo.nodePools lb.clusterInfo.nodePools

namespace NodePools

theorem mem_copyKeys {src dst : GoMap String} {nodes : List Node} {ip : String} :
    ip ∈ copyKeys src dst nodes ↔ ip ∈ dst ∨ ip ∈ nodes.map (·.publicIp) := by
  unfold copyKeys
  induction nodes generalizing dst with
  | nil => simp
  | cons n nodes ih =>
    rw [List.foldl_cons, ih, Std.ExtTreeMap.mem_insert, List.map_cons, List.mem_cons,
      Std.LawfulEqCmp.compare_eq_iff_eq]
    tauto

def missingNodes (dst src : NodePool) : List String :=
  (src.nodes.map (·.name)).filter (fun n => !(dst.nodes.map (·.name)).contains n)

variable {dst src np : NodePool} {nodes : List String}

theorem copyKeys_getElem? {src dst : GoMap String} {nodes : List Node} {ip : String} :
    (copyKeys src dst nodes)[ip]?
      = if ip ∈ nodes.map (·.publicIp) then some (src.getD ip "") else dst[ip]? := by
  induction nodes generalizing dst with
  | nil => simp [copyKeys]
  | cons n nodes ih =>
    have hstep : copyKeys src dst (n :: nodes)
        = copyKeys src (dst.insert n.publicIp (src.getD n.publicIp "")) nodes := rfl
    simp only [hstep, ih, Std.ExtTreeMap.getElem?_insert, List.map_cons, List.mem_cons]
    by_cases hmem : ip ∈ nodes.map (·.publicIp)
    · rw [if_pos hmem, if_pos (.inr hmem)]
    · by_cases heq : n.publicIp = ip
      · subst heq
        rw [if_neg hmem, if_pos Std.ReflCmp.compare_self, if_pos (.inl rfl)]
      · rw [if_neg hmem, if_neg (fun h => heq (Std.LawfulEqCmp.eq_of_compare h)),
          if_neg (fun h => h.elim (fun h => heq h.symm) hmem)]

theorem mem_targetNodes_missing {n : Node} :
    n ∈ targetNodes src (missingNodes dst src)
      ↔ n ∈ src.nodes ∧ n.name ∉ dst.nodes.map (·.name) := by
  simp only [targetNodes, missingNodes, List.mem_filter, List.contains_iff_mem, Bool.not_eq_true',
    ← Bool.not_eq_true]
  exact ⟨fun h => ⟨h.1, h.2.2⟩, fun h => ⟨h.1, List.mem_map_of_mem h.1, h.2⟩⟩

structure Copied (dst src : NodePool) (names : List String) (np : NodePool) : Prop where
  name : np.name = dst.name
  kind : np.isDynamic = dst.isDynamic
  nodes : np.nodes = dst.nodes ++ targetNodes src names
  count : ∀ d, np.type = .dynamic d → ∃ d', dst.type = .dynamic d'
    ∧ d.count = d'.count + (targetNodes src names).length
  keys : ∀ s, np.type = .static s → ∃ s', dst.type = .static s'
    ∧ ∀ ip, ip ∈ s.nodeKeys ↔ ip ∈ s'.nodeKeys ∨ ip ∈ (targetNodes src names).map (·.publicIp)

theorem copied_of_copyNodes (hkind : dst.isDynamic = src.isDynamic)
    (h : copyNodes dst src nodes = .ok np) : Copied dst src nodes np := by
  unfold copyNodes at h
  dsimp only at h
  split at h
  next d _ hdst _ =>
    cases h
    refine ⟨rfl, by simp [NodePool.isDynamic, NodePool.dynamic?, hdst], rfl, ?_, ?_⟩
    · intro d' hd'
      cases hd'
      exact ⟨d, hdst, rfl⟩
    · intro s hs
      cases hs
  next d s hdst _ =>
    split at h
    next => cases h
    next =>
      cases h
      refine ⟨rfl, by simp [NodePool.isDynamic, NodePool.dynamic?, hdst], rfl, ?_, ?_⟩
      · intro d' hd'
        cases hd'
      · intro s' hs'
        cases hs'
        exact ⟨d, hdst, fun ip => mem_copyKeys⟩
  next hdynamic hstatic =>
    exfalso
    cases hdst : dst.type with
    | dynamic d =>
      cases hsrc : src.type with
      | dynamic s => exact hdynamic d s hdst hsrc
      | static s => simp [NodePool.isDynamic, NodePool.dynamic?, hdst, hsrc] at hkind
    | static d =>
      cases hsrc : src.type with
      | dynamic s => simp [NodePool.isDynamic, NodePool.dynamic?, hdst, hsrc] at hkind
      | static s => exact hstatic d s hdst hsrc

theorem Copied.tidy (h : Copied dst src (missingNodes dst src) np) (hdst : dst.Tidy)
    (hsrc : src.Tidy) : np.Tidy where
  nodes := by
    rw [h.nodes, List.map_append, List.nodup_append]
    refine ⟨hdst.nodes, hsrc.nodes.sublist (List.filter_sublist.map _), ?_⟩
    rintro name hname _ hname' rfl
    obtain ⟨n, hn, rfl⟩ := List.mem_map.mp hname'
    exact (mem_targetNodes_missing.mp hn).2 hname
  count d hd := by
    obtain ⟨d', hd', hcount⟩ := h.count d hd
    rw [hcount, hdst.count d' hd', h.nodes, List.length_append, Int.natCast_add]
  keys s hs ip := by
    obtain ⟨s', hs', hkeys⟩ := h.keys s hs
    rw [hkeys, hdst.keys s' hs', h.nodes, List.map_append, List.mem_append]

theorem Copied.covers_dst (h : Copied dst src nodes np) : np.Covers dst where
  name := h.name
  kind := h.kind
  nodes := by
    rw [h.nodes, List.map_append]
    exact List.subset_append_left _ _

theorem Copied.covers_src (h : Copied dst src (missingNodes dst src) np)
    (hname : dst.name = src.name) (hkind : dst.isDynamic = src.isDynamic) : np.Covers src where
  name := h.name.trans hname
  kind := h.kind.trans hkind
  nodes := by
    rw [h.nodes, List.map_append]
    intro name hsrc
    by_cases hdst : name ∈ dst.nodes.map (·.name)
    · exact List.mem_append_left _ hdst
    · obtain ⟨n, hn, rfl⟩ := List.mem_map.mp hsrc
      exact List.mem_append_right _ (List.mem_map_of_mem (mem_targetNodes_missing.mpr ⟨hn, hdst⟩))

-- A clone without keys has no map to write the keys of the new nodes to.
theorem copyNodes_isOk (hkeys : dst.isStatic = true → dst.nodes = [] → src.nodes = [])
    (hdst : dst.Tidy) : ∃ np, copyNodes dst src (missingNodes dst src) = .ok np := by
  unfold copyNodes
  dsimp only
  split
  next => exact ⟨_, rfl⟩
  next d s htype _ =>
    split
    next h =>
      exfalso
      have hnodes : dst.nodes = [] := by
        rw [List.eq_nil_iff_forall_not_mem]
        intro n hn
        have hip := (hdst.keys d htype n.publicIp).mpr (List.mem_map_of_mem hn)
        rw [Std.ExtTreeMap.isEmpty_iff.mp h.2] at hip
        exact Std.ExtTreeMap.not_mem_empty hip
      have hstatic : dst.isStatic = true := by simp [NodePool.isStatic, NodePool.static?, htype]
      refine h.1 (List.eq_nil_iff_forall_not_mem.mpr (fun n hn => ?_))
      have hsrc := (mem_targetNodes_missing.mp hn).1
      rw [hkeys hstatic hnodes] at hsrc
      cases hsrc
    next => exact ⟨_, rfl⟩
  next => exact ⟨_, rfl⟩

theorem copyNodes_panics (hstatic : dst.isStatic = true) (hkind : dst.isDynamic = src.isDynamic)
    (hdst : dst.Tidy) (hnodes : dst.nodes = []) (hsrc : src.nodes ≠ []) :
    copyNodes dst src (missingNodes dst src) = .error .panic := by
  cases hdtype : dst.type with
  | dynamic d => simp [NodePool.isStatic, NodePool.static?, hdtype] at hstatic
  | static d =>
    cases hstype : src.type with
    | dynamic s => simp [NodePool.isDynamic, NodePool.dynamic?, hdtype, hstype] at hkind
    | static s =>
      have hkeys : d.nodeKeys.isEmpty = true := by
        rw [GoMap.isEmpty_iff_getElem?]
        intro ip
        have hip := hdst.keys d hdtype ip
        rw [hnodes] at hip
        simpa using hip
      have hadded : targetNodes src (missingNodes dst src) ≠ [] := by
        obtain ⟨n, hn⟩ := List.exists_mem_of_ne_nil _ hsrc
        exact List.ne_nil_of_mem (mem_targetNodes_missing.mpr ⟨hn, by simp [hnodes]⟩)
      unfold copyNodes
      simp only [hdtype, hstype, ne_eq, hadded, not_false_eq_true, hkeys, and_self, if_true]

theorem copyNodes_of_subset (h : src.nodes.map (·.name) ⊆ dst.nodes.map (·.name)) :
    copyNodes dst src (missingNodes dst src) = .ok dst := by
  have hnil : targetNodes src (missingNodes dst src) = [] :=
    List.eq_nil_iff_forall_not_mem.mpr (fun n hn =>
      (mem_targetNodes_missing.mp hn).2 (h (List.mem_map_of_mem (mem_targetNodes_missing.mp hn).1)))
  unfold copyNodes
  dsimp only
  rw [hnil]
  split
  next d _ htype _ =>
    obtain ⟨type, name, nodes, isControl, labels, taints, annotations, sshPort⟩ := dst
    dsimp only at htype
    subst htype
    simp
  next d _ htype _ =>
    obtain ⟨type, name, nodes, isControl, labels, taints, annotations, sshPort⟩ := dst
    dsimp only at htype
    subst htype
    simp [copyKeys]
  next => rfl

@[simp]
theorem deleteNodes_name {np : NodePool} {nodes : List String} :
    (deleteNodes np nodes).name = np.name := by
  unfold deleteNodes
  cases np.type <;> rfl

@[simp]
theorem deleteNodes_isControl {np : NodePool} {nodes : List String} :
    (deleteNodes np nodes).isControl = np.isControl := by
  unfold deleteNodes
  cases np.type <;> rfl

@[simp]
theorem deleteNodes_nodes {np : NodePool} {nodes : List String} :
    (deleteNodes np nodes).nodes = np.nodes.filter (fun n => !nodes.contains n.name) := by
  unfold deleteNodes
  cases np.type <;> rfl

@[simp]
theorem deleteNodes_isStatic {np : NodePool} {nodes : List String} :
    (deleteNodes np nodes).isStatic = np.isStatic := by
  unfold deleteNodes NodePool.isStatic NodePool.static?
  cases np.type <;> rfl

@[simp]
theorem appendDynamicNodes_name {np : NodePool} {added : List Node} :
    (appendDynamicNodes np added).name = np.name := by
  unfold appendDynamicNodes
  cases np.type <;> rfl

@[simp]
theorem appendDynamicNodes_isStatic {np : NodePool} {added : List Node} :
    (appendDynamicNodes np added).isStatic = np.isStatic := by
  unfold appendDynamicNodes NodePool.isStatic NodePool.static?
  cases htype : np.type with
  | dynamic d => rfl
  | static s => simp only [htype]

theorem modifyByName_pure {name : String} {f : NodePool → NodePool} {nps : List NodePool} :
    modifyByName name (fun np => pure (f np)) nps = .ok (nps.modifyFirst (·.name = name) f) := by
  induction nps with
  | nil => rfl
  | cons np nps ih =>
    rw [modifyByName, List.modifyFirst_cons]
    by_cases hname : np.name = name
    · rw [if_pos hname, if_pos (by simpa using hname)]
      rfl
    · rw [if_neg hname, if_neg (by simpa using hname), ih]
      rfl

-- The function is evaluated for the first nodepool of the name only.
theorem modifyByName_eq_ok {name : String} {f : NodePool → Outcome NodePool}
    {nps nps' : List NodePool} (h : modifyByName name f nps = .ok nps') :
    ∃ g : NodePool → NodePool, (∀ np, findByName name nps = some np → f np = .ok (g np))
      ∧ nps' = nps.modifyFirst (·.name = name) g := by
  induction nps generalizing nps' with
  | nil =>
    cases h
    refine ⟨id, ?_, rfl⟩
    intro np hnp
    cases hnp
  | cons np nps ih =>
    rw [modifyByName] at h
    split at h
    next hname =>
      obtain ⟨np', hnp', h⟩ := Outcome.bind_eq_ok.mp h
      cases h
      refine ⟨fun _ => np', ?_, by rw [List.modifyFirst_cons, if_pos (decide_eq_true hname)]⟩
      intro a ha
      rw [findByName, List.find?_cons_of_pos (by simpa using hname)] at ha
      cases ha
      exact hnp'
    next hname =>
      obtain ⟨rest, hrest, h⟩ := Outcome.bind_eq_ok.mp h
      cases h
      obtain ⟨g, hg, rfl⟩ := ih hrest
      refine ⟨g, ?_, by rw [List.modifyFirst_cons, if_neg (by simpa using hname)]⟩
      intro a ha
      rw [findByName, List.find?_cons_of_neg (by simpa using hname)] at ha
      exact hg a ha

theorem modifyByName_eq_modifyKey {name : String} {f : NodePool → Outcome NodePool}
    {nps : List NodePool} : modifyByName name f nps = nps.modifyKey (·.name) name f := by
  induction nps with
  | nil => rfl
  | cons np nps ih => rw [modifyByName, List.modifyKey_cons, ih]

theorem copyNodes_name (h : copyNodes dst src nodes = .ok np) : np.name = dst.name := by
  unfold copyNodes at h
  dsimp only at h
  split at h
  next =>
    cases h
    rfl
  next =>
    split at h
    next => cases h
    next =>
      cases h
      rfl
  next =>
    cases h
    rfl

theorem copyNodes_isStatic (h : copyNodes dst src nodes = .ok np) : np.isStatic = dst.isStatic := by
  unfold copyNodes at h
  dsimp only at h
  split at h
  next htype _ =>
    cases h
    simp only [NodePool.isStatic, NodePool.static?, htype]
  next htype _ =>
    split at h
    next => cases h
    next =>
      cases h
      simp [NodePool.isStatic, NodePool.static?, htype]
  next =>
    cases h
    rfl

end NodePools

end Claudie
