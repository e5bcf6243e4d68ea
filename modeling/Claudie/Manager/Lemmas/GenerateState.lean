import Claudie.Manager.GenerateState

/-!
When the nodepool that replaces another one in a rolling update can be created.
-/

namespace Claudie

namespace Manager

open Outcome

def NodePool.HasSubnet (np : NodePool) : Prop := ∀ d, np.type = .dynamic d → d.cidr ≠ ""

structure Clusters.HasSubnets (c : Clusters) : Prop where
  k8s : ∀ k ∈ c.k8s, ∀ np ∈ k.clusterInfo.nodePools, NodePool.HasSubnet np
  loadBalancers : ∀ lb ∈ c.loadBalancers, ∀ np ∈ lb.clusterInfo.nodePools, NodePool.HasSubnet np

def SubnetLeft (nps : List NodePool) (d : DynamicNodePool) : Prop :=
  ∃ octet < 256,
    subnetCIDR octet ∉ (existingCIDRs nps).getD (DynamicNodePool.providerRegion d) []

section Subnets

variable {nps : List NodePool} {np : NodePool} {existing : GoMap (List String)}

theorem getCIDR_not_fails {used : List String} (h : ∃ octet < 256, subnetCIDR octet ∉ used) :
    ¬ Fails (getCIDR used) := by
  obtain ⟨octet, hlt, hfree⟩ := h
  unfold getCIDR
  split
  next => exact not_fails_ok _
  next hnone =>
    have hused := List.find?_eq_none.mp hnone octet (List.mem_range.mpr hlt)
    simp [hfree] at hused

theorem calculateCIDR_cons_eq_ok {nps' : List NodePool}
    (h : calculateCIDR existing (np :: nps) = .ok nps') :
    (∃ rest, NodePool.HasSubnet np ∧ calculateCIDR existing nps = .ok rest ∧ nps' = np :: rest)
      ∨ ∃ d cidr rest, np.type = .dynamic d ∧ d.cidr = ""
        ∧ getCIDR (existing.getD (DynamicNodePool.providerRegion d) []) = .ok cidr
        ∧ calculateCIDR (existing.appendAt (DynamicNodePool.providerRegion d) [cidr]) nps = .ok rest
        ∧ nps' = { np with type := .dynamic { d with cidr } } :: rest := by
  rw [calculateCIDR] at h
  split at h
  next dyn htype =>
    split at h
    next hcidr =>
      obtain ⟨rest, hrest, h⟩ := Outcome.bind_eq_ok.mp h
      refine .inl ⟨rest, fun d hd => ?_, hrest, (Except.ok.inj h).symm⟩
      rw [htype] at hd
      cases hd
      exact hcidr
    next hcidr =>
      obtain ⟨cidr, hget, h⟩ := Outcome.bind_eq_ok.mp h
      obtain ⟨rest, hrest, h⟩ := Outcome.bind_eq_ok.mp h
      exact .inr ⟨dyn, cidr, rest, htype, not_not.mp hcidr, hget, hrest, (Except.ok.inj h).symm⟩
  next static htype =>
    obtain ⟨rest, hrest, h⟩ := Outcome.bind_eq_ok.mp h
    refine .inl ⟨rest, fun d hd => ?_, hrest, (Except.ok.inj h).symm⟩
    rw [htype] at hd
    cases hd

theorem calculateCIDR_of_hasSubnet (h : ∀ np ∈ nps, NodePool.HasSubnet np) (rest : List NodePool) :
    calculateCIDR existing (nps ++ rest) = (do
      let rest ← calculateCIDR existing rest
      pure (nps ++ rest)) := by
  induction nps with
  | nil =>
    simp
  | cons np nps ih =>
    rw [List.forall_mem_cons] at h
    rw [List.cons_append, calculateCIDR, ih h.2]
    split
    next d hd =>
      rw [if_pos (h.1 d hd)]
      cases calculateCIDR existing rest <;> rfl
    next => cases calculateCIDR existing rest <;> rfl

theorem calculateCIDR_not_fails (h : ∀ np ∈ nps, NodePool.HasSubnet np) :
    ¬ Fails (calculateCIDR existing nps) := by
  rw [← List.append_nil nps, calculateCIDR_of_hasSubnet h]
  exact not_fails_ok _

theorem calculateCIDR_append_not_fails (h : ∀ np ∈ nps, NodePool.HasSubnet np)
    {d : DynamicNodePool} (hd : np.type = .dynamic d) (hleft : SubnetLeft nps d) :
    ¬ Fails (calculateCIDR (existingCIDRs nps) (nps ++ [np])) := by
  rw [calculateCIDR_of_hasSubnet h, calculateCIDR, hd]
  refine not_fails_bind ?_ (fun _ _ => not_fails_ok _)
  dsimp only
  split
  next => exact not_fails_ok _
  next => exact not_fails_bind (getCIDR_not_fails hleft) (fun _ _ => not_fails_ok _)

variable {current : Clusters} {new : NodePool} {d : DynamicNodePool}

theorem generateMissingCIDR_not_fails {desired : Clusters}
    (hk8s : ∀ k ∈ desired.k8s, ¬ Fails (calculateCIDR
      (existingCIDRs ((current.k8s.map (·.clusterInfo.nodePools)).getD []))
      k.clusterInfo.nodePools))
    (hlbs : ∀ lb ∈ desired.loadBalancers, ¬ Fails (calculateCIDR
      (existingCIDRs (((Clusters.findLoadbalancerById lb.id current.loadBalancers).map
        (·.clusterInfo.nodePools)).getD [])) lb.clusterInfo.nodePools)) :
    ¬ Fails (generateMissingCIDR current desired) := by
  have hmap : ∀ k8s : Option K8scluster, ¬ Fails (do
      let lbs ← desired.loadBalancers.mapM (fun lb => do
        let nps ← calculateCIDR (existingCIDRs
          (((Clusters.findLoadbalancerById lb.id current.loadBalancers).map
            (·.clusterInfo.nodePools)).getD [])) lb.clusterInfo.nodePools
        pure (LBcluster.withNodePools lb nps))
      pure (Clusters.mk k8s lbs)) := fun k8s =>
    not_fails_bind (not_fails_mapM (fun lb hlb =>
      not_fails_bind (hlbs lb hlb) (fun _ _ => not_fails_ok _))) (fun _ _ => not_fails_ok _)
  unfold generateMissingCIDR
  cases hk : desired.k8s with
  | none => exact hmap none
  | some k => exact not_fails_bind (hk8s k hk) (fun nps _ => hmap _)

theorem generateMissingCIDR_k8s_not_fails (h : Clusters.HasSubnets current) {k : K8scluster}
    (hk : current.k8s = some k) (hd : new.type = .dynamic d)
    (hleft : SubnetLeft k.clusterInfo.nodePools d) :
    ¬ Fails (generateMissingCIDR current
      ⟨some (K8scluster.withNodePools k (k.clusterInfo.nodePools ++ [new])),
        current.loadBalancers⟩) := by
  refine generateMissingCIDR_not_fails (fun k' hk' => ?_)
    (fun lb hlb => calculateCIDR_not_fails (h.loadBalancers lb hlb))
  cases hk'
  rw [hk]
  exact calculateCIDR_append_not_fails (h.k8s k hk) hd hleft

theorem generateMissingCIDR_lb_not_fails (h : Clusters.HasSubnets current)
    (hids : (current.loadBalancers.map (·.id)).Nodup) {i : Nat} {lb : LBcluster}
    (hlb : current.loadBalancers[i]? = some lb) (hd : new.type = .dynamic d)
    (hleft : SubnetLeft lb.clusterInfo.nodePools d) :
    ¬ Fails (generateMissingCIDR current ⟨current.k8s, current.loadBalancers.modify i (fun c =>
      LBcluster.withNodePools c (lb.clusterInfo.nodePools ++ [new]))⟩) := by
  have hmem := List.mem_of_getElem? hlb
  refine generateMissingCIDR_not_fails (fun k hk => calculateCIDR_not_fails (h.k8s k hk))
    (fun c hc => ?_)
  obtain ⟨j, hj⟩ := List.mem_iff_getElem?.mp hc
  rw [List.getElem?_modify] at hj
  obtain ⟨c', hc', rfl⟩ := Option.map_eq_some_iff.mp hj
  split
  next hij =>
    subst hij
    rw [hlb] at hc'
    cases hc'
    have hfind : Clusters.findLoadbalancerById lb.id current.loadBalancers = some lb :=
      (List.find?_key_eq_some hids).mpr ⟨hmem, rfl⟩
    rw [show (LBcluster.withNodePools lb (lb.clusterInfo.nodePools ++ [new])).id = lb.id from rfl,
      hfind]
    exact calculateCIDR_append_not_fails (h.loadBalancers lb hmem) hd hleft
  next => exact calculateCIDR_not_fails (h.loadBalancers c' (List.mem_of_getElem? hc'))

end Subnets

section Names

theorem hexDigit_inj {a b : Nat} (h : hexDigit a = hexDigit b) : a % 16 = b % 16 := by
  have hall : ∀ x < 16, ∀ y < 16, Nat.digitChar x = Nat.digitChar y → x = y := by decide
  exact hall _ (Nat.mod_lt a (by decide)) _ (Nat.mod_lt b (by decide)) h

theorem hexByte_inj {a b : Nat} (ha : a < 256) (hb : b < 256)
    (h : hexByte a = hexByte b) : a = b := by
  obtain ⟨hhigh, hrest⟩ := List.cons.inj (String.ofList_injective h)
  have hhigh := hexDigit_inj hhigh
  have hlow := hexDigit_inj (List.cons.inj hrest).1
  omega

theorem unusedName_not_fails {name : String} {used hashes : List String} :
    ¬ Fails (unusedName name used hashes) := by
  induction hashes with
  | nil =>
    rintro ⟨msg, h⟩
    cases h
  | cons hash hashes ih =>
    rw [unusedName]
    split
    next => exact ih
    next => exact not_fails_ok _

theorem uniqueNodeName_not_fails {id : String} {names : List String} :
    ¬ Fails (uniqueNodeName id names) := by
  unfold uniqueNodeName
  split
  next =>
    rintro ⟨msg, h⟩
    cases h
  next => exact not_fails_deref _

theorem populateNames_not_fails {id : String} {nodeType : NodeType} {names : List String}
    {missing : Nat} : ¬ Fails (populateNames id nodeType names missing) := by
  induction missing generalizing names with
  | zero => exact not_fails_ok _
  | succ missing ih =>
    rw [populateNames]
    exact not_fails_bind uniqueNodeName_not_fails (fun _ _ =>
      not_fails_bind ih (fun _ _ => not_fails_ok _))

theorem populateDynamicNodes_not_fails {id : String} {np : NodePool} :
    ¬ Fails (populateDynamicNodes id np) := by
  unfold populateDynamicNodes
  exact not_fails_bind (not_fails_deref _) (fun _ _ =>
    not_fails_bind populateNames_not_fails (fun _ _ => not_fails_ok _))

end Names

structure CanReplace (entropy : Entropy) (current : Clusters) (nps : List NodePool) : Prop where
  keyPair : entropy.keyPair.isSome
  assigned : Clusters.HasSubnets current
  left : ∀ np ∈ nps, ∀ d, np.type = .dynamic d → SubnetLeft nps d

section RollingUpdate

variable {entropy : Entropy} {current : Clusters} {np : String} {tpl : TemplateRepository}

theorem CanReplace.left_of_find {nps : List NodePool} (h : CanReplace entropy current nps)
    {reference : NodePool} {d : DynamicNodePool}
    (hfind : deref (NodePools.findByName np nps) = .ok reference)
    (hd : deref reference.dynamic? = .ok d) : SubnetLeft nps d := by
  have hmem : reference ∈ nps := List.mem_of_find?_eq_some (deref_eq_ok.mp hfind)
  refine h.left reference hmem d ?_
  unfold NodePool.dynamic? at hd
  split at hd
  next heq =>
    cases hd
    exact heq
  next => cases hd

theorem createNodePoolForRollingUpdate_k8s_not_fails {k : K8scluster} (hk : current.k8s = some k)
    (h : CanReplace entropy current k.clusterInfo.nodePools) :
    ¬ Fails (createNodePoolForRollingUpdate entropy current none np tpl) := by
  obtain ⟨keys, hkeys⟩ := Option.isSome_iff_exists.mp h.keyPair
  unfold createNodePoolForRollingUpdate
  rw [hk, hkeys]
  refine not_fails_bind (not_fails_ok _) (fun k' hk' => ?_)
  cases hk'
  refine not_fails_bind (not_fails_ok _) (fun info hinfo => ?_)
  cases hinfo
  refine not_fails_bind (not_fails_deref _) (fun reference hreference => ?_)
  refine not_fails_bind (not_fails_deref _) (fun parts _ => ?_)
  refine not_fails_bind unusedName_not_fails (fun name _ => ?_)
  refine not_fails_bind (not_fails_deref _) (fun inner hinner => ?_)
  refine not_fails_bind (not_fails_ok _) (fun _ _ => ?_)
  refine not_fails_bind ?_ (fun wanted _ => ?_)
  · have hleft := h.left_of_find hreference hinner
    exact generateMissingCIDR_k8s_not_fails h.assigned hk rfl hleft
  · refine not_fails_bind (not_fails_deref _) (fun new _ => ?_)
    exact not_fails_bind (not_fails_deref _) (fun _ _ => populateDynamicNodes_not_fails)

theorem createNodePoolForRollingUpdate_lb_not_fails {cid : LoadBalancerIdentifier} {lb : LBcluster}
    (hids : (current.loadBalancers.map (·.id)).Nodup)
    (hlb : current.loadBalancers[cid.index]? = some lb)
    (h : CanReplace entropy current lb.clusterInfo.nodePools) :
    ¬ Fails (createNodePoolForRollingUpdate entropy current (some cid) np tpl) := by
  obtain ⟨keys, hkeys⟩ := Option.isSome_iff_exists.mp h.keyPair
  unfold createNodePoolForRollingUpdate
  rw [hkeys]
  refine not_fails_bind (not_fails_deref _) (fun k' hk' => ?_)
  refine not_fails_bind (not_fails_deref _) (fun lb' hlb' => ?_)
  rw [deref_eq_ok, hlb] at hlb'
  cases hlb'
  refine not_fails_bind (not_fails_ok _) (fun info hinfo => ?_)
  cases hinfo
  refine not_fails_bind (not_fails_deref _) (fun reference hreference => ?_)
  refine not_fails_bind (not_fails_deref _) (fun parts _ => ?_)
  refine not_fails_bind unusedName_not_fails (fun name _ => ?_)
  refine not_fails_bind (not_fails_deref _) (fun inner hinner => ?_)
  refine not_fails_bind (not_fails_ok _) (fun _ _ => ?_)
  refine not_fails_bind ?_ (fun wanted _ => ?_)
  · have hleft := h.left_of_find hreference hinner
    exact generateMissingCIDR_lb_not_fails h.assigned hids hlb rfl hleft
  · refine not_fails_bind (not_fails_deref _) (fun new _ => ?_)
    exact not_fails_bind (not_fails_deref _) (fun _ _ => populateDynamicNodes_not_fails)

end RollingUpdate

end Manager

end Claudie
