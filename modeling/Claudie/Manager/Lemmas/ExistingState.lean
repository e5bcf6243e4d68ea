import Claudie.Manager.ExistingState

/-!
What the functions of `existing_state.go` and the generation of nodes leave behind.
-/

namespace Claudie

namespace Manager

theorem transferNodes_sublist (skip : Int) (nodes : List Node) :
    (transferNodes skip nodes).Sublist nodes := by
  fun_induction transferNodes skip nodes with
  | case1 => exact List.Sublist.refl []
  | case2 skip node nodes _ ih => exact ih.trans (List.sublist_cons_self node nodes)
  | case3 skip node nodes _ ih => exact ih.cons_cons node

theorem transferNodes_eq_self_iff {skip : Int} {nodes : List Node} :
    transferNodes skip nodes = nodes
      ↔ skip ≤ 0 ∨ ∀ node ∈ nodes, node.status ≠ .markedForDeletion := by
  fun_induction transferNodes skip nodes with
  | case1 skip => simp
  | case2 skip node nodes hskip =>
    rw [Bool.and_eq_true, decide_eq_true_eq, decide_eq_true_eq] at hskip
    constructor
    · intro h
      -- a list that begins with the node is longer than what is left of the rest.
      have hlength := (transferNodes_sublist (skip - 1) nodes).length_le
      rw [h, List.length_cons] at hlength
      omega
    · rintro (h | h)
      · omega
      · exact absurd hskip.2 (h node List.mem_cons_self)
  | case3 skip node nodes hskip ih =>
    rw [List.cons_inj_right, ih, List.forall_mem_cons]
    constructor
    · rintro (h | h)
      · exact .inl h
      · by_cases hpos : 0 < skip
        · refine .inr ⟨?_, h⟩
          intro hmarked
          exact hskip (by rw [Bool.and_eq_true, decide_eq_true_eq, decide_eq_true_eq]
                          exact ⟨hpos, hmarked⟩)
        · exact .inl (by omega)
    · exact Or.imp_right And.right

theorem transferDynamicNodePool_eq_ok {current desired transferred : NodePool}
    {cnp dnp : DynamicNodePool} (hcurrent : current.type = .dynamic cnp)
    (hdesired : desired.type = .dynamic dnp) :
    transferDynamicNodePool current desired = .ok transferred
      ↔ 0 ≤ min cnp.count (transferDynamic cnp dnp).count
        ∧ min cnp.count (transferDynamic cnp dnp).count ≤ current.nodes.length
        ∧ transferred =
          { desired with
            sshPort := current.sshPort
            nodes := transferNodes (max (cnp.count - min cnp.count (transferDynamic cnp dnp).count) 0)
              (current.nodes.take (min cnp.count (transferDynamic cnp dnp).count).toNat)
            type := .dynamic (transferDynamic cnp dnp) } := by
  unfold transferDynamicNodePool
  rw [NodePool.dynamic?_eq_some.mpr hcurrent, NodePool.dynamic?_eq_some.mpr hdesired,
    Outcome.deref_some, Outcome.ok_bind, Outcome.deref_some, Outcome.ok_bind]
  constructor
  · intro h
    obtain ⟨nodes, hnodes, h⟩ := Outcome.bind_eq_ok.mp h
    obtain ⟨hnonneg, hlength, rfl⟩ := Outcome.sliceTo_eq_ok.mp hnodes
    exact ⟨hnonneg, hlength, (Except.ok.inj h).symm⟩
  · rintro ⟨hnonneg, hlength, rfl⟩
    exact Outcome.bind_eq_ok.mpr ⟨_, Outcome.sliceTo_eq_ok.mpr ⟨hnonneg, hlength, rfl⟩, rfl⟩

theorem populateNames_length {nodepoolID : String} {nodeType : NodeType} {names : List String}
    {missing : Nat} {nodes : List Node}
    (h : populateNames nodepoolID nodeType names missing = .ok nodes) :
    nodes.length = missing := by
  induction missing generalizing names nodes with
  | zero =>
    cases h
    rfl
  | succ missing ih =>
    rw [populateNames] at h
    obtain ⟨name, -, h⟩ := Outcome.bind_eq_ok.mp h
    obtain ⟨rest, hrest, h⟩ := Outcome.bind_eq_ok.mp h
    cases h
    rw [List.length_cons, ih hrest]

theorem populateDynamicNodes_eq_ok {clusterID : String} {np result : NodePool}
    {d : DynamicNodePool} (hnp : np.type = .dynamic d) :
    populateDynamicNodes clusterID np = .ok result
      ↔ ∃ nodes, populateNames (clusterID ++ "-" ++ np.name)
            (if np.isControl then .master else .worker) ((np.nodes.map (·.name)).eraseDups)
            (d.count.toNat - np.nodes.length) = .ok nodes
          ∧ result = { np with nodes := np.nodes ++ nodes } := by
  unfold populateDynamicNodes
  rw [NodePool.dynamic?_eq_some.mpr hnp, Outcome.deref_some, Outcome.ok_bind]
  constructor
  · intro h
    obtain ⟨nodes, hnodes, h⟩ := Outcome.bind_eq_ok.mp h
    exact ⟨nodes, hnodes, (Except.ok.inj h).symm⟩
  · rintro ⟨nodes, hnodes, rfl⟩
    exact Outcome.bind_eq_ok.mpr ⟨nodes, hnodes, rfl⟩

end Manager

end Claudie
