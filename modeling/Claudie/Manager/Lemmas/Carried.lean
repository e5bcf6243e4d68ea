import Claudie.Lemmas.NodePools
import Claudie.Manager.Lemmas.Passes

/-!
What no pass over the desired state of a cluster loses: the nodepools, the load balancers and their
roles.
-/

namespace Claudie

namespace Manager

def NameExtends (name name' : String) : Prop :=
  name' = name ∨ ∃ x, name' = NodePools.fullName name x

theorem NameExtends.trans {name₁ name₂ name₃ : String} (h : NameExtends name₁ name₂)
    (h' : NameExtends name₂ name₃) : NameExtends name₁ name₃ := by
  rcases h' with rfl | ⟨y, rfl⟩
  · exact h
  · rcases h with rfl | ⟨x, rfl⟩
    · exact .inr ⟨y, rfl⟩
    · exact .inr ⟨NodePools.fullName x y, NodePools.fullName_fullName _ x y⟩

def PoolCarried (np np' : NodePool) : Prop :=
  np'.isControl = np.isControl ∧ NameExtends np.name np'.name

theorem PoolCarried.refl (np : NodePool) : PoolCarried np np := ⟨rfl, .inl rfl⟩

theorem PoolCarried.trans {np₁ np₂ np₃ : NodePool} (h : PoolCarried np₁ np₂)
    (h' : PoolCarried np₂ np₃) : PoolCarried np₁ np₃ :=
  ⟨h'.1.trans h.1, h.2.trans h'.2⟩

def RoleCarried (r r' : Role) : Prop := ∃ port, r' = { r with settings.envoyAdminPort := port }

theorem RoleCarried.refl (r : Role) : RoleCarried r r := ⟨r.settings.envoyAdminPort, rfl⟩

theorem RoleCarried.trans {r₁ r₂ r₃ : Role} (h : RoleCarried r₁ r₂) (h' : RoleCarried r₂ r₃) :
    RoleCarried r₁ r₃ := by
  obtain ⟨port, rfl⟩ := h
  obtain ⟨port', rfl⟩ := h'
  exact ⟨port', rfl⟩

structure LbCarried (lb lb' : LBcluster) : Prop where
  name : lb'.clusterInfo.name = lb.clusterInfo.name
  nodePools : List.Forall₂ PoolCarried lb.clusterInfo.nodePools lb'.clusterInfo.nodePools
  roles : ∀ r ∈ lb.roles, ∃ r' ∈ lb'.roles, RoleCarried r r'

theorem poolsCarried_refl (nps : List NodePool) : List.Forall₂ PoolCarried nps nps :=
  List.forall₂_same.mpr (fun np _ => .refl np)

theorem poolsCarried_trans {nps₁ nps₂ nps₃ : List NodePool}
    (h : List.Forall₂ PoolCarried nps₁ nps₂) (h' : List.Forall₂ PoolCarried nps₂ nps₃) :
    List.Forall₂ PoolCarried nps₁ nps₃ :=
  List.forall₂_trans h h' (fun _ _ _ => .trans)

theorem LbCarried.of_nodePools {lb : LBcluster} {nps : List NodePool}
    (h : List.Forall₂ PoolCarried lb.clusterInfo.nodePools nps) :
    LbCarried lb (lb.withNodePools nps) :=
  ⟨rfl, h, fun r hr => ⟨r, hr, .refl r⟩⟩

theorem LbCarried.refl (lb : LBcluster) : LbCarried lb lb :=
  ⟨rfl, poolsCarried_refl _, fun r hr => ⟨r, hr, .refl r⟩⟩

theorem LbCarried.trans {lb₁ lb₂ lb₃ : LBcluster} (h : LbCarried lb₁ lb₂)
    (h' : LbCarried lb₂ lb₃) : LbCarried lb₁ lb₃ where
  name := h'.name.trans h.name
  nodePools := poolsCarried_trans h.nodePools h'.nodePools
  roles r hr := by
    obtain ⟨r', hr', hcarried⟩ := h.roles r hr
    obtain ⟨r'', hr'', hcarried'⟩ := h'.roles r' hr'
    exact ⟨r'', hr'', hcarried.trans hcarried'⟩

structure Carried (d d' : DesiredCluster) : Prop where
  version : d'.k8s.kubernetes = d.k8s.kubernetes
  nodePools : List.Forall₂ PoolCarried d.k8s.clusterInfo.nodePools d'.k8s.clusterInfo.nodePools
  loadBalancers : List.Forall₂ LbCarried d.loadBalancers d'.loadBalancers

theorem Carried.trans {d₁ d₂ d₃ : DesiredCluster} (h : Carried d₁ d₂) (h' : Carried d₂ d₃) :
    Carried d₁ d₃ where
  version := h'.version.trans h.version
  nodePools := poolsCarried_trans h.nodePools h'.nodePools
  loadBalancers := List.forall₂_trans h.loadBalancers h'.loadBalancers (fun _ _ _ => .trans)

def PoolNamed (np np' : NodePool) : Prop :=
  ∃ name, np' = { np with name } ∧ NameExtends np.name name

theorem PoolNamed.refl (np : NodePool) : PoolNamed np np := ⟨np.name, rfl, .inl rfl⟩

theorem PoolNamed.trans {np₁ np₂ np₃ : NodePool} (h : PoolNamed np₁ np₂) (h' : PoolNamed np₂ np₃) :
    PoolNamed np₁ np₃ := by
  obtain ⟨name, rfl, hname⟩ := h
  obtain ⟨name', rfl, hname'⟩ := h'
  exact ⟨name', rfl, hname.trans hname'⟩

theorem PoolNamed.appendHash (np : NodePool) (hash : String) : PoolNamed np (np.appendHash hash) :=
  ⟨_, rfl, .inr ⟨hash, rfl⟩⟩

theorem PoolNamed.carried {np np' : NodePool} (h : PoolNamed np np') : PoolCarried np np' := by
  obtain ⟨name, rfl, hname⟩ := h
  exact ⟨rfl, hname⟩

theorem poolsNamed_refl (nps : List NodePool) : List.Forall₂ PoolNamed nps nps :=
  List.forall₂_same.mpr (fun np _ => .refl np)

def LbNamed (lb lb' : LBcluster) : Prop :=
  ∃ nps, lb' = LBcluster.withNodePools lb nps
    ∧ List.Forall₂ PoolNamed lb.clusterInfo.nodePools nps

theorem LbNamed.refl (lb : LBcluster) : LbNamed lb lb :=
  ⟨lb.clusterInfo.nodePools, rfl, poolsNamed_refl _⟩

theorem LbNamed.trans {lb₁ lb₂ lb₃ : LBcluster} (h : LbNamed lb₁ lb₂) (h' : LbNamed lb₂ lb₃) :
    LbNamed lb₁ lb₃ := by
  obtain ⟨nps, rfl, hnps⟩ := h
  obtain ⟨nps', rfl, hnps'⟩ := h'
  exact ⟨nps', rfl, List.forall₂_trans hnps hnps' (fun _ _ _ => .trans)⟩

section Resolve

variable {fuel : Nat} {gen : Generator} {t : String}

theorem carryHashes_named (isReference : NodePool → Bool) (existing nps : List NodePool) :
    List.Forall₂ PoolNamed nps (carryHashes t isReference existing nps) := by
  fun_induction carryHashes t isReference existing nps with
  | case1 => exact .nil
  | case2 existing np nps href e left htake ih => exact .cons (.appendHash np _) ih
  | case3 existing np nps href htake => exact poolsNamed_refl _
  | case4 existing np nps href ih => exact .cons (.refl np) ih

theorem nameReferences_named {used used' : List String} {drawn drawn' : Nat}
    {nps nps' : List NodePool}
    (h : nameReferences fuel gen t used drawn nps = some (nps', used', drawn')) :
    List.Forall₂ PoolNamed nps nps' := by
  induction nps generalizing used drawn nps' with
  | nil =>
    cases h
    exact .nil
  | cons np nps ih =>
    rw [nameReferences] at h
    split at h
    next =>
      obtain ⟨⟨hash, n⟩, -, h⟩ := Option.bind_eq_some_iff.mp h
      obtain ⟨⟨rest, u, n'⟩, hrest, h⟩ := Option.bind_eq_some_iff.mp h
      cases h
      exact .cons (.appendHash np hash) (ih hrest)
    next =>
      obtain ⟨⟨rest, u, n'⟩, hrest, h⟩ := Option.bind_eq_some_iff.mp h
      cases h
      exact .cons (.refl np) (ih hrest)

theorem nameLbReferences_named {used : List String} {drawn drawn' : Nat}
    {lbs lbs' : List LBcluster}
    (h : nameLbReferences fuel gen t used drawn lbs = some (lbs', drawn')) :
    List.Forall₂ LbNamed lbs lbs' := by
  induction lbs generalizing used drawn lbs' with
  | nil =>
    cases h
    exact .nil
  | cons lb lbs ih =>
    rw [nameLbReferences] at h
    obtain ⟨⟨nps, u, n⟩, hnps, h⟩ := Option.bind_eq_some_iff.mp h
    obtain ⟨⟨rest, n'⟩, hrest, h⟩ := Option.bind_eq_some_iff.mp h
    cases h
    exact .cons ⟨nps, rfl, nameReferences_named hnps⟩ (ih hrest)

theorem resolveLbNodePoolReferences_named (current desired : List LBcluster) :
    List.Forall₂ LbNamed desired (resolveLbNodePoolReferences t current desired) := by
  unfold resolveLbNodePoolReferences
  rw [List.forall₂_map_right_iff]
  refine List.forall₂_same.mpr (fun lb _ => ?_)
  have hfold : ∀ (cs : List LBcluster) (lb' : LBcluster), LbNamed lb lb' →
      LbNamed lb (cs.foldl (fun lb current =>
        if lb.clusterInfo.name ≠ current.clusterInfo.name then lb
        else
          lb.withNodePools (carryHashes t (isReference t)
            (nodePoolsOfType t current.clusterInfo.nodePools) lb.clusterInfo.nodePools)) lb') := by
    intro cs
    induction cs with
    | nil => exact fun lb' h => h
    | cons c cs ih =>
      intro lb' h
      refine ih _ ?_
      dsimp only
      split
      · exact h
      · exact h.trans ⟨_, rfl, carryHashes_named _ _ _⟩
  exact hfold current lb (.refl lb)

theorem resolveDynamicNodePoolReferences_named {current : Clusters} {types : List String}
    {d d' : DesiredCluster} {drawn drawn' : Nat}
    (h : resolveDynamicNodePoolReferences fuel gen current types d drawn = some (d', drawn')) :
    PoolsChanged PoolNamed d d' := by
  induction types generalizing d drawn with
  | nil =>
    cases h
    exact ⟨⟨_, rfl, poolsNamed_refl _⟩, List.forall₂_same.mpr (fun lb _ => LbNamed.refl lb)⟩
  | cons t types ih =>
    rw [resolveDynamicNodePoolReferences] at h
    obtain ⟨⟨d₁, n⟩, hphase, h⟩ := Option.bind_eq_some_iff.mp h
    obtain ⟨⟨nps', hk8s, hnps'⟩, hlbs'⟩ := ih h
    unfold resolveNodePoolType at hphase
    obtain ⟨⟨nps, u, n'⟩, hnps, hphase⟩ := Option.bind_eq_some_iff.mp hphase
    obtain ⟨⟨lbs, n''⟩, hlbs, hphase⟩ := Option.bind_eq_some_iff.mp hphase
    cases hphase
    have hcarry : List.Forall₂ PoolNamed d.k8s.clusterInfo.nodePools
        (resolveK8sNodePoolReferences t current.kubernetesNodePools d.k8s.clusterInfo.nodePools) :=
      List.forall₂_trans (carryHashes_named _ _ _) (carryHashes_named _ _ _)
        (fun _ _ _ => PoolNamed.trans)
    refine ⟨⟨nps', hk8s, ?_⟩, ?_⟩
    · exact List.forall₂_trans hcarry (List.forall₂_trans (nameReferences_named hnps) hnps'
        (fun _ _ _ => .trans)) (fun _ _ _ => .trans)
    · exact List.forall₂_trans (resolveLbNodePoolReferences_named _ _)
        (List.forall₂_trans (nameLbReferences_named hlbs) hlbs' (fun _ _ _ => LbNamed.trans))
        (fun _ _ _ => LbNamed.trans)

end Resolve

section Passes

variable {gen : Generator} {current : Clusters} {d d' : DesiredCluster}

theorem PoolsChanged.carried {R : NodePool → NodePool → Prop} (h : PoolsChanged R d d')
    (hR : ∀ {np np'}, R np np' → PoolCarried np np') : Carried d d' := by
  have hpools : ∀ {nps nps' : List NodePool}, List.Forall₂ R nps nps' →
      List.Forall₂ PoolCarried nps nps' := fun h => h.imp (fun _ _ => hR)
  obtain ⟨⟨nps, hk8s, hnps⟩, hlbs⟩ := h
  refine ⟨by rw [hk8s]; rfl, by rw [hk8s]; exact hpools hnps, hlbs.imp (fun lb lb' hlb => ?_)⟩
  obtain ⟨nps, rfl, hnps⟩ := hlb
  exact .of_nodePools (hpools hnps)

end Passes

end Manager

end Claudie
