import Claudie.Ansibler.MoveApiEndpoint
import Claudie.Manager.EndpointLoadBalancer
import Mathlib.Algebra.Order.BigOperators.Group.List
import Mathlib.Algebra.Order.Group.Nat

/-!
The handover of the api endpoint: what the manager schedules and what the ansibler service makes of
it.
-/

namespace Claudie

namespace Manager

open Ansibler

def endpointsOf (np : NodePool) : Nat :=
  if np.isControl then np.nodes.countP (·.nodeType = .apiEndpoint) else 0

def endpointNodes (nps : List NodePool) : Nat := (nps.map endpointsOf).sum

inductive WellEndpointed (nps : List NodePool) (lbs : List LBcluster) : Prop where
  | node (one : endpointNodes nps = 1) (unused : lbs.countP (·.usedApiEndpoint) = 0)
  | loadBalancer (none : endpointNodes nps = 0) (used : lbs.countP (·.usedApiEndpoint) = 1)
      (role : ∀ lb ∈ lbs, lb.usedApiEndpoint = true → lb.hasApiRole = true)

section Nodes

variable {nps : List NodePool}

theorem findApiEndpoint_eq_none : NodePools.findApiEndpoint nps = none ↔ endpointNodes nps = 0 := by
  unfold NodePools.findApiEndpoint endpointNodes
  rw [List.findSome?_eq_none_iff, List.sum_eq_zero_iff, List.forall_mem_map]
  refine forall₂_congr (fun np _ => ?_)
  cases hcontrol : np.isControl with
  | false => simp [endpointsOf, hcontrol]
  | true => simp [endpointsOf, hcontrol, NodePool.endpointNode]

theorem endpointsOf_demote {np : NodePool} {n : Node} (hcontrol : np.isControl = true)
    (h : np.endpointNode = some n) : endpointsOf (demoteEndpointNode np) + 1 = endpointsOf np := by
  have hcount : (demoteEndpointNode np).nodes.countP (·.nodeType = .apiEndpoint) + _ = _ :=
    List.countP_modifyFirst h
  have htype := List.find?_some h
  unfold endpointsOf
  rw [if_pos hcontrol, if_pos (show (demoteEndpointNode np).isControl = true from hcontrol)]
  simpa [Node.withType, htype] using hcount

theorem endpointNodes_demote (h : NodePools.findApiEndpoint nps ≠ none) :
    endpointNodes (demoteApiEndpoint nps) + 1 = endpointNodes nps := by
  cases hfind : nps.find? (fun np => np.isControl && np.endpointNode.isSome) with
  | none =>
    refine absurd (List.findSome?_eq_none_iff.mpr fun np hnp => ?_) h
    have hnone := List.find?_eq_none.mp hfind np hnp
    cases hcontrol : np.isControl with
    | false => simp
    | true => simpa [hcontrol] using hnone
  | some np =>
    have hnp := List.find?_some hfind
    rw [Bool.and_eq_true] at hnp
    obtain ⟨n, hn⟩ := Option.isSome_iff_exists.mp hnp.2
    have hsum : endpointNodes (demoteApiEndpoint nps) + endpointsOf np
        = endpointNodes nps + endpointsOf (demoteEndpointNode np) := List.sum_modifyFirst hfind
    have hdemote := endpointsOf_demote hnp.1 hn
    omega

theorem endpointsOf_promote {np : NodePool} (hcontrol : np.isControl = true)
    (hnodes : np.nodes ≠ []) (hzero : endpointsOf np = 0) : endpointsOf (promoteFirstNode np) = 1 := by
  unfold endpointsOf at hzero ⊢
  rw [if_pos hcontrol] at hzero
  rw [if_pos (show (promoteFirstNode np).isControl = true from hcontrol)]
  unfold promoteFirstNode
  cases hlist : np.nodes with
  | nil => exact absurd hlist hnodes
  | cons n rest =>
    rw [hlist, List.countP_cons] at hzero
    rw [List.modifyHead_cons, List.countP_cons]
    simp only [Node.withType, decide_true, if_true]
    omega

theorem endpointNodes_promote {n : Node} (hnone : endpointNodes nps = 0)
    (h : NodePools.firstControlNode nps = some n) :
    endpointNodes (promoteFirstControlNode nps) = 1 := by
  cases hfind : nps.find? (fun np => np.isControl && !np.nodes.isEmpty) with
  | none =>
    have hnone' : NodePools.firstControlNode nps = none := by
      refine List.findSome?_eq_none_iff.mpr fun np hnp => ?_
      have hnone := List.find?_eq_none.mp hfind np hnp
      cases hcontrol : np.isControl with
      | false => simp
      | true => simpa [hcontrol] using hnone
    rw [h] at hnone'
    cases hnone'
  | some np =>
    have hnp := List.find?_some hfind
    rw [Bool.and_eq_true] at hnp
    have hzero := List.sum_eq_zero_iff.mp hnone _
      (List.mem_map_of_mem (f := endpointsOf) (List.mem_of_find?_eq_some hfind))
    have hsum : endpointNodes (promoteFirstControlNode nps) + endpointsOf np
        = endpointNodes nps + endpointsOf (promoteFirstNode np) := List.sum_modifyFirst hfind
    have hpromote := endpointsOf_promote hnp.1 (by simpa using hnp.2) hzero
    omega

end Nodes

section LoadBalancers

variable {id : String} {lb e : LBcluster} {lbs : List LBcluster}

theorem countP_mark (hunused : lbs.countP (·.usedApiEndpoint) = 0)
    (hfind : Clusters.findLoadbalancerById id lbs = some lb) :
    (useApiEndpointOf id true lbs).countP (·.usedApiEndpoint) = 1 := by
  have hcount : (useApiEndpointOf id true lbs).countP (·.usedApiEndpoint) + _ = _ :=
    List.countP_modifyFirst hfind
  have hlb := List.countP_eq_zero.mp hunused lb (List.mem_of_find?_eq_some hfind)
  simpa [hunused, hlb, useApiEndpoint] using hcount

theorem countP_unmark (hused : lbs.countP (·.usedApiEndpoint) = 1)
    (hfind : Clusters.findLoadbalancerById id lbs = some e) (he : e.usedApiEndpoint = true) :
    (useApiEndpointOf id false lbs).countP (·.usedApiEndpoint) = 0 := by
  have hcount : (useApiEndpointOf id false lbs).countP (·.usedApiEndpoint) + _ = _ :=
    List.countP_modifyFirst hfind
  simpa [hused, he, useApiEndpoint] using hcount

theorem hasApiRole_mark (hunused : lbs.countP (·.usedApiEndpoint) = 0)
    (hfind : Clusters.findLoadbalancerById id lbs = some lb) :
    (∀ x ∈ useApiEndpointOf id true lbs, x.usedApiEndpoint = true → x.hasApiRole = true)
      ↔ lb.hasApiRole = true := by
  constructor
  · intro h
    exact h (useApiEndpoint true lb) (List.mem_modifyFirst_self hfind) rfl
  · intro hrole x hx hused
    obtain hx | ⟨a, ha, rfl⟩ := List.mem_modifyFirst hx
    · exact absurd hused (List.countP_eq_zero.mp hunused x hx)
    · cases hfind.symm.trans ha
      exact hrole

theorem findLoadbalancerById_unmark {id' : String} (hne : id ≠ id') :
    Clusters.findLoadbalancerById id (useApiEndpointOf id' false lbs)
      = Clusters.findLoadbalancerById id lbs := by
  refine List.find?_modifyFirst_of_not (fun a ha => ?_)
  have ha : a.id = id' := by simpa using ha
  have hid : (useApiEndpoint false a).id = id' := ha
  simp [ha, hid, Ne.symm hne]

end LoadBalancers

section

variable {changeAPIEndpoint : String → String → String → Outcome Unit} {k : K8scluster}
  {lbs dlbs : List LBcluster} {e lb : LBcluster} {cid did : String}

def Completes (changeAPIEndpoint : String → String → String → Outcome Unit) (state : Clusters)
    (change : ApiEndpointChangeState) (cid did : String) : Prop :=
  ∃ k' lbs', handleAPIEndpointChange changeAPIEndpoint state change cid did = .ok ⟨some k', lbs'⟩
    ∧ WellEndpointed k'.clusterInfo.nodePools lbs'

theorem endpointOf_of_some {dns : DNS} (h : lb.dns = some dns) : endpointOf lb = .ok dns.endpoint := by
  rw [endpointOf, h]
  rfl

theorem endpointOf_of_none (h : lb.dns = none) : endpointOf lb = .error .panic := by
  rw [endpointOf, h]
  rfl

theorem attach_completes (hansible : ∀ name old new, changeAPIEndpoint name old new = .ok ())
    (hone : endpointNodes k.clusterInfo.nodePools = 1)
    (hunused : lbs.countP (·.usedApiEndpoint) = 0)
    (hfind : Clusters.findLoadbalancerById did lbs = some lb) :
    Completes changeAPIEndpoint ⟨some k, lbs⟩ .attachingLoadBalancer cid did
      ↔ lb.dns.isSome = true ∧ lb.hasApiRole = true := by
  cases hnode : NodePools.findApiEndpoint k.clusterInfo.nodePools with
  | none => rw [findApiEndpoint_eq_none, hone] at hnode; cases hnode
  | some found =>
    obtain ⟨np, n⟩ := found
    have hzero : endpointNodes (demoteApiEndpoint k.clusterInfo.nodePools) = 0 := by
      have hdemote : endpointNodes (demoteApiEndpoint k.clusterInfo.nodePools) + 1 = _ :=
        endpointNodes_demote (by simp [hnode])
      omega
    unfold Completes handleAPIEndpointChange
    simp only [Outcome.deref_some, Outcome.ok_bind, hnode, hfind]
    cases hdns : lb.dns with
    | none => simp [endpointOf_of_none hdns, bind, Except.bind]
    | some dns =>
      simp only [endpointOf_of_some hdns, Outcome.ok_bind, hansible]
      constructor
      · rintro ⟨k', lbs', heq, hwell⟩
        cases heq
        cases hwell with
        | node one _ => exact absurd (hzero.symm.trans one) (by decide)
        | loadBalancer _ _ role => exact ⟨rfl, (hasApiRole_mark hunused hfind).mp role⟩
      · rintro ⟨_, hrole⟩
        exact ⟨_, _, rfl, .loadBalancer hzero (countP_mark hunused hfind)
          ((hasApiRole_mark hunused hfind).mpr hrole)⟩

theorem not_attach_completes (hnone : endpointNodes k.clusterInfo.nodePools = 0) :
    ¬ Completes changeAPIEndpoint ⟨some k, lbs⟩ .attachingLoadBalancer cid did := by
  rintro ⟨k', lbs', heq, _⟩
  unfold handleAPIEndpointChange at heq
  simp only [Outcome.deref_some, Outcome.ok_bind, findApiEndpoint_eq_none.mpr hnone] at heq
  cases heq

theorem detach_completes (hansible : ∀ name old new, changeAPIEndpoint name old new = .ok ())
    (hnone : endpointNodes k.clusterInfo.nodePools = 0)
    (hused : lbs.countP (·.usedApiEndpoint) = 1)
    (hfind : Clusters.findLoadbalancerById cid lbs = some e) (he : e.usedApiEndpoint = true)
    {dns : DNS} (hdns : e.dns = some dns) :
    Completes changeAPIEndpoint ⟨some k, lbs⟩ .detachingLoadBalancer cid did
      ↔ (NodePools.firstControlNode k.clusterInfo.nodePools).isSome = true := by
  unfold Completes handleAPIEndpointChange
  simp only [Outcome.deref_some, Outcome.ok_bind, hfind]
  cases hnode : NodePools.firstControlNode k.clusterInfo.nodePools with
  | none => simp
  | some n =>
    simp only [endpointOf_of_some hdns, Outcome.ok_bind, hansible, Option.isSome_some, iff_true]
    exact ⟨_, _, rfl, .node (endpointNodes_promote hnone hnode) (countP_unmark hused hfind he)⟩

theorem move_completes (hansible : ∀ name old new, changeAPIEndpoint name old new = .ok ())
    (hnone : endpointNodes k.clusterInfo.nodePools = 0)
    (hused : lbs.countP (·.usedApiEndpoint) = 1)
    (hfind : Clusters.findLoadbalancerById cid lbs = some e) (he : e.usedApiEndpoint = true)
    {dns : DNS} (hdns : e.dns = some dns) (hne : did ≠ cid)
    (hfind' : Clusters.findLoadbalancerById did lbs = some lb) :
    Completes changeAPIEndpoint ⟨some k, lbs⟩ .moveEndpoint cid did
      ↔ lb.dns.isSome = true ∧ lb.hasApiRole = true := by
  have hunused := countP_unmark hused hfind he
  have hfound := (findLoadbalancerById_unmark hne).trans hfind'
  unfold Completes handleAPIEndpointChange
  simp only [Outcome.deref_some, Outcome.ok_bind, hfind, hfind']
  cases hdns' : lb.dns with
  | none => simp [endpointOf_of_some hdns, endpointOf_of_none hdns', bind, Except.bind]
  | some dns' =>
    simp only [endpointOf_of_some hdns, endpointOf_of_some hdns', Outcome.ok_bind, hansible]
    constructor
    · rintro ⟨k', lbs', heq, hwell⟩
      cases heq
      cases hwell with
      | node one _ => exact absurd (hnone.symm.trans one) (by decide)
      | loadBalancer _ _ role => exact ⟨rfl, (hasApiRole_mark hunused hfound).mp role⟩
    · rintro ⟨_, hrole⟩
      exact ⟨_, _, rfl, .loadBalancer hnone (countP_mark hunused hfound)
        ((hasApiRole_mark hunused hfound).mpr hrole)⟩

def RolesThere (lbs dlbs : List LBcluster) (id : String) : Prop :=
  ∀ lb ∈ lbs, lb.id = id → ∀ d ∈ dlbs, d.id = id → d.roles.map (·.name) ⊆ lb.roles.map (·.name)

theorem rolesSynced_iff {hc : HealthCheckStatus} {proxy : ProxyDiffResult} {current desired : Clusters}
    {id : String} (hids : (lbs.map (·.id)).Nodup) (hdids : (dlbs.map (·.id)).Nodup) :
    LoadBalancersReconciliate.rolesSynced ⟨hc, loadBalancersDiff lbs dlbs, proxy, current, desired⟩ id
        = true
      ↔ RolesThere lbs dlbs id := by
  constructor
  · rintro hsynced lb hlb rfl d hd hid
    obtain ⟨i, hi⟩ := List.mem_iff_getElem?.mp hlb
    obtain ⟨j, hj⟩ := List.mem_iff_getElem?.mp hd
    rw [← missingRoles_eq_nil]
    obtain hsame | ⟨m, hm, hdiff⟩ := unchanged_or_modified hids hdids hi hj hid.symm
    · have hroles := hsame.roles
      simp only [RolesDiff.isEmpty, Bool.and_eq_true, List.isEmpty_iff] at hroles
      exact hroles.1.1.1.1.1
    · rw [LoadBalancersReconciliate.rolesSynced, hm] at hsynced
      have hadded : m.roles.added = [] := List.isEmpty_iff.mp hsynced
      rwa [hdiff.roles] at hadded
  · intro hthere
    unfold LoadBalancersReconciliate.rolesSynced
    split
    next m hm =>
      obtain ⟨i, j, lb, d, hi, hlb, hj, hd, hm⟩ := (loadBalancersDiff_modified hids hdids).mp hm
      rw [(modifiedLoadBalancer_eq_some hm).roles, List.isEmpty_iff]
      exact missingRoles_eq_nil.mpr
        (hthere lb (List.mem_of_getElem? hi) hlb d (List.mem_of_getElem? hj) hd)
    next => rfl

theorem indexLoadbalancerById_isSome_iff {id : String} :
    (Clusters.indexLoadbalancerById id lbs).isSome = true ↔ id ∈ lbs.map (·.id) := by
  unfold Clusters.indexLoadbalancerById
  rw [List.findIdx?_isSome, List.any_eq_true, List.mem_map]
  simp

theorem preKubernetesDiff_of_moves {ord : MapOrder} {id : TaskId} {r : LoadBalancersReconciliate}
    (h : r.Moves) : preKubernetesDiff ord id r = .ok (some (r.moveApiEndpoint id)) := by
  have hmove : preKubernetesDiff.apiEndpoint id r = .ok (some (r.moveApiEndpoint id)) := by
    unfold LoadBalancersReconciliate.Moves at h
    split at h
    next hstate =>
      obtain ⟨lb, hlb, hrole⟩ := h
      simp only [preKubernetesDiff.apiEndpoint, hstate, hlb, hrole, if_true]
      rfl
    next hstate =>
      simp only [preKubernetesDiff.apiEndpoint, hstate, h]
      rfl
    next hstate =>
      obtain ⟨hcurrent, hnew, hsynced, hsynced'⟩ := h
      simp only [preKubernetesDiff.apiEndpoint, hstate, hcurrent, hnew, hsynced, hsynced',
        Bool.and_self, if_true]
      rfl
    next => cases h
    next => cases h
  rw [preKubernetesDiff, hmove]
  rfl

/--
The load balancer that the endpoint is to be handed to has a dns record and, unless that is checked
already, a role for the api server; a holder without a dns record is not replaced; and there is a
control node to hand the endpoint back to.
-/
def EndpointChangeGuarded (k : K8scluster) (lbs dlbs : List LBcluster) : Prop :=
  match Clusters.findAssignedLbApiEndpoint lbs, candidates dlbs with
  | none, [] => True
  | none, first :: _ =>
    ∀ lb ∈ lbs, lb.id = first.id → lb.hasApiRole = true → lb.dns.isSome = true
  | some e, [] =>
    e.dns.isSome = true → (NodePools.firstControlNode k.clusterInfo.nodePools).isSome = true
  | some e, first :: _ =>
    (∀ d ∈ candidates dlbs, d.id ≠ e.id) → ∀ lb ∈ lbs, lb.id = first.id →
      if e.dns.isSome = true then
        RolesThere lbs dlbs e.id → RolesThere lbs dlbs first.id →
          lb.dns.isSome = true ∧ lb.hasApiRole = true
      else lb.hasApiRole = false

theorem findLoadbalancerById_eq_some {id : String} (hids : (lbs.map (·.id)).Nodup) :
    Clusters.findLoadbalancerById id lbs = some lb ↔ lb ∈ lbs ∧ lb.id = id :=
  List.find?_key_eq_some hids

def CompletesWhenReady (changeAPIEndpoint : String → String → String → Outcome Unit)
    (k : K8scluster) (lbs dlbs : List LBcluster) : Prop :=
  ∀ hc proxy dk, LoadBalancersReconciliate.Moves
      ⟨hc, loadBalancersDiff lbs dlbs, proxy, ⟨some k, lbs⟩, ⟨dk, dlbs⟩⟩ →
    Completes changeAPIEndpoint ⟨some k, lbs⟩ (loadBalancersDiff lbs dlbs).apiEndpointState
      (loadBalancersDiff lbs dlbs).apiEndpointCurrent (loadBalancersDiff lbs dlbs).apiEndpointNew

theorem completes_of_scheduled_iff :
    (∀ dk ord id hc proxy te state change cid did,
        preKubernetesDiff ord id ⟨hc, loadBalancersDiff lbs dlbs, proxy, ⟨some k, lbs⟩, ⟨dk, dlbs⟩⟩
          = .ok (some te) →
        te.task = .update state (.apiEndpoint change cid did) →
        Completes changeAPIEndpoint state change cid did)
      ↔ CompletesWhenReady changeAPIEndpoint k lbs dlbs := by
  constructor
  · intro h hc proxy dk hmoves
    exact h dk .ascending 0 hc proxy _ _ _ _ _ (preKubernetesDiff_of_moves hmoves) rfl
  · intro h dk ord id hc proxy te state change cid did hte htask
    obtain hother | ⟨rfl, hmoves⟩ := preKubernetesDiff_schedules rfl hte
    · obtain ⟨_, delta, htask', heffect⟩ := hother.update
      rw [htask] at htask'
      cases htask'
      cases heffect
    · cases htask
      exact h hc proxy dk hmoves

theorem completesWhenReady_attach
    (h : determineLBApiEndpointChange lbs dlbs = (cid, did, .attachingLoadBalancer)) :
    CompletesWhenReady changeAPIEndpoint k lbs dlbs
      ↔ ∀ lb, Clusters.findLoadbalancerById did lbs = some lb → lb.hasApiRole = true →
        Completes changeAPIEndpoint ⟨some k, lbs⟩ .attachingLoadBalancer cid did := by
  obtain ⟨rfl, rfl, hstate⟩ := loadBalancersDiff_apiEndpoint h
  simp only [CompletesWhenReady, LoadBalancersReconciliate.Moves, hstate]
  constructor
  · intro h lb hfind hrole
    exact h ⟨false, ∅, false, false⟩ (proxyDiff k k) none ⟨lb, hfind, hrole⟩
  · rintro h _ _ _ ⟨lb, hfind, hrole⟩
    exact h lb hfind hrole

theorem completesWhenReady_detach
    (h : determineLBApiEndpointChange lbs dlbs = (cid, did, .detachingLoadBalancer)) :
    CompletesWhenReady changeAPIEndpoint k lbs dlbs
      ↔ Completes changeAPIEndpoint ⟨some k, lbs⟩ .detachingLoadBalancer cid did := by
  obtain ⟨rfl, rfl, hstate⟩ := loadBalancersDiff_apiEndpoint h
  simp only [CompletesWhenReady, LoadBalancersReconciliate.Moves, hstate]
  constructor
  · intro h
    exact h ⟨false, ∅, true, false⟩ (proxyDiff k k) none rfl
  · intro h _ _ _ _
    exact h

theorem completesWhenReady_move (hids : (lbs.map (·.id)).Nodup) (hdids : (dlbs.map (·.id)).Nodup)
    (h : determineLBApiEndpointChange lbs dlbs = (cid, did, .moveEndpoint)) :
    CompletesWhenReady changeAPIEndpoint k lbs dlbs
      ↔ (cid ∈ lbs.map (·.id) → did ∈ lbs.map (·.id) → RolesThere lbs dlbs cid →
        RolesThere lbs dlbs did →
        Completes changeAPIEndpoint ⟨some k, lbs⟩ .moveEndpoint cid did) := by
  obtain ⟨rfl, rfl, hstate⟩ := loadBalancersDiff_apiEndpoint h
  simp only [CompletesWhenReady, LoadBalancersReconciliate.Moves, hstate,
    rolesSynced_iff hids hdids, indexLoadbalancerById_isSome_iff]
  constructor
  · intro h hcid hdid hthere hthere'
    exact h ⟨false, ∅, false, false⟩ (proxyDiff k k) none ⟨hcid, hdid, hthere, hthere'⟩
  · rintro h _ _ _ ⟨hcid, hdid, hthere, hthere'⟩
    exact h hcid hdid hthere hthere'

theorem completesWhenReady_of_idle
    (h : (loadBalancersDiff lbs dlbs).apiEndpointState = .endpointRenamed
      ∨ (loadBalancersDiff lbs dlbs).apiEndpointState = .noChange) :
    CompletesWhenReady changeAPIEndpoint k lbs dlbs := by
  intro hc proxy dk hmoves
  unfold LoadBalancersReconciliate.Moves at hmoves
  obtain h | h := h
  · rw [h] at hmoves
    cases hmoves
  · rw [h] at hmoves
    cases hmoves

theorem findAssigned_of_unused (h : lbs.countP (·.usedApiEndpoint) = 0) :
    Clusters.findAssignedLbApiEndpoint lbs = none := by
  refine List.find?_eq_none.mpr fun lb hlb => ?_
  have hunused := List.countP_eq_zero.mp h lb hlb
  simp [LBcluster.isApiEndpoint, hunused]

theorem findAssigned_of_used (h : lbs.countP (·.usedApiEndpoint) = 1)
    (hrole : ∀ lb ∈ lbs, lb.usedApiEndpoint = true → lb.hasApiRole = true) :
    ∃ e ∈ lbs, e.usedApiEndpoint = true ∧ Clusters.findAssignedLbApiEndpoint lbs = some e := by
  cases hfind : Clusters.findAssignedLbApiEndpoint lbs with
  | none =>
    obtain ⟨lb, hlb, hused⟩ := List.countP_pos_iff.mp (h ▸ Nat.one_pos)
    have hnot := List.find?_eq_none.mp hfind lb hlb
    simp [LBcluster.isApiEndpoint, hused, hrole lb hlb hused] at hnot
  | some e =>
    have hendpoint := List.find?_some hfind
    simp only [LBcluster.isApiEndpoint, Bool.and_eq_true] at hendpoint
    exact ⟨e, List.mem_of_find?_eq_some hfind, hendpoint.2, rfl⟩

theorem determineLBApiEndpointChange_of_unassigned (dlbs : List LBcluster)
    (h : Clusters.findAssignedLbApiEndpoint lbs = none) :
    determineLBApiEndpointChange lbs dlbs
      = match candidates dlbs with
        | [] => ("", "", .noChange)
        | first :: _ => ("", first.id, .attachingLoadBalancer) := by
  unfold determineLBApiEndpointChange candidates
  rw [h]
  cases dlbs.filter (fun lb => lb.hasApiRole && lb.dns.isSome) <;> rfl

theorem determineLBApiEndpointChange_of_assigned (dlbs : List LBcluster)
    (h : Clusters.findAssignedLbApiEndpoint lbs = some e) :
    determineLBApiEndpointChange lbs dlbs
      = match candidates dlbs with
        | [] => if e.dns.isNone then ("", "", .noChange) else (e.id, "", .detachingLoadBalancer)
        | first :: _ =>
          match e.dns, (candidates dlbs).reverse.find? (·.id = e.id) with
          | none, some d => (e.id, d.id, .endpointRenamed)
          | none, none => ("", first.id, .attachingLoadBalancer)
          | some cdns, some d =>
            if some cdns.endpoint ≠ d.dns.map (·.endpoint) then (e.id, d.id, .endpointRenamed)
            else ("", "", .noChange)
          | some _, none => (e.id, first.id, .moveEndpoint) := by
  unfold determineLBApiEndpointChange candidates
  rw [h]
  cases dlbs.filter (fun lb => lb.hasApiRole && lb.dns.isSome) <;> rfl

theorem completesWhenReady_of_node (hone : endpointNodes k.clusterInfo.nodePools = 1)
    (hansible : ∀ name old new, changeAPIEndpoint name old new = .ok ())
    (hunused : lbs.countP (·.usedApiEndpoint) = 0) (hids : (lbs.map (·.id)).Nodup) :
    CompletesWhenReady changeAPIEndpoint k lbs dlbs ↔ EndpointChangeGuarded k lbs dlbs := by
  have hassigned := findAssigned_of_unused hunused
  have hchange := determineLBApiEndpointChange_of_unassigned dlbs hassigned
  unfold EndpointChangeGuarded
  rw [hassigned]
  cases hcand : candidates dlbs with
  | nil =>
    rw [hcand] at hchange
    exact iff_of_true (completesWhenReady_of_idle (.inr (loadBalancersDiff_apiEndpoint hchange).2.2))
      trivial
  | cons first rest =>
    rw [hcand] at hchange
    rw [completesWhenReady_attach hchange]
    dsimp only
    constructor
    · intro h lb hlb hid hrole
      have hfind := (findLoadbalancerById_eq_some hids).mpr ⟨hlb, hid⟩
      exact ((attach_completes hansible hone hunused hfind).mp (h lb hfind hrole)).1
    · intro h lb hfind hrole
      obtain ⟨hlb, hid⟩ := (findLoadbalancerById_eq_some hids).mp hfind
      exact (attach_completes hansible hone hunused hfind).mpr ⟨h lb hlb hid hrole, hrole⟩

theorem completesWhenReady_of_load_balancer (hnone : endpointNodes k.clusterInfo.nodePools = 0)
    (hansible : ∀ name old new, changeAPIEndpoint name old new = .ok ())
    (hused : lbs.countP (·.usedApiEndpoint) = 1)
    (hrole : ∀ lb ∈ lbs, lb.usedApiEndpoint = true → lb.hasApiRole = true)
    (hids : (lbs.map (·.id)).Nodup) (hdids : (dlbs.map (·.id)).Nodup) :
    CompletesWhenReady changeAPIEndpoint k lbs dlbs ↔ EndpointChangeGuarded k lbs dlbs := by
  obtain ⟨e, he, heused, hassigned⟩ := findAssigned_of_used hused hrole
  have hfind := (findLoadbalancerById_eq_some hids).mpr ⟨he, rfl⟩
  have hchange := determineLBApiEndpointChange_of_assigned dlbs hassigned
  unfold EndpointChangeGuarded
  rw [hassigned]
  cases hcand : candidates dlbs with
  | nil =>
    rw [hcand] at hchange
    dsimp only at hchange ⊢
    cases hdns : e.dns with
    | none =>
      rw [hdns] at hchange
      exact iff_of_true
        (completesWhenReady_of_idle (.inr (loadBalancersDiff_apiEndpoint hchange).2.2)) (by simp)
    | some dns =>
      rw [hdns] at hchange
      rw [completesWhenReady_detach hchange, detach_completes hansible hnone hused hfind heused hdns]
      simp
  | cons first rest =>
    rw [hcand] at hchange
    dsimp only at hchange ⊢
    cases hkept : (first :: rest).reverse.find? (·.id = e.id) with
    | some d =>
      -- the holder is still a candidate: at most its endpoint gets another name.
      have hnot : ¬ ∀ d ∈ first :: rest, d.id ≠ e.id := fun h =>
        h d (List.mem_reverse.mp (List.mem_of_find?_eq_some hkept)) (by simpa using List.find?_some hkept)
      rw [hkept] at hchange
      refine iff_of_true (completesWhenReady_of_idle ?_) (fun h => absurd h hnot)
      split at hchange
      next heq => cases heq; exact .inl (loadBalancersDiff_apiEndpoint hchange).2.2
      next heq => cases heq
      next heq =>
        split at hchange
        next => exact .inl (loadBalancersDiff_apiEndpoint hchange).2.2
        next => exact .inr (loadBalancersDiff_apiEndpoint hchange).2.2
      next heq => cases heq
    | none =>
      have hgone : ∀ d ∈ first :: rest, d.id ≠ e.id := fun d hd => by
        simpa using List.find?_eq_none.mp hkept d (List.mem_reverse.mpr hd)
      rw [hkept] at hchange
      cases hdns : e.dns with
      | none =>
        rw [hdns] at hchange
        rw [completesWhenReady_attach hchange]
        simp only [Option.isSome_none, Bool.false_eq_true, if_false]
        constructor
        · intro h _ lb hlb hid
          by_contra hhas
          have hfind' := (findLoadbalancerById_eq_some hids).mpr ⟨hlb, hid⟩
          exact not_attach_completes hnone (h lb hfind' (by simpa using hhas))
        · intro h lb hfind' hhas
          obtain ⟨hlb, hid⟩ := (findLoadbalancerById_eq_some hids).mp hfind'
          rw [h hgone lb hlb hid] at hhas
          cases hhas
      | some dns =>
        rw [hdns] at hchange
        rw [completesWhenReady_move hids hdids hchange]
        simp only [Option.isSome_some, if_true]
        constructor
        · intro h _ lb hlb hid hthere hthere'
          have hfind' := (findLoadbalancerById_eq_some hids).mpr ⟨hlb, hid⟩
          exact (move_completes hansible hnone hused hfind heused hdns
            (hgone first List.mem_cons_self) hfind').mp
            (h (List.mem_map_of_mem he) (hid ▸ List.mem_map_of_mem hlb) hthere hthere')
        · intro h _ hfirst hthere hthere'
          obtain ⟨lb, hlb, hid⟩ := List.mem_map.mp hfirst
          have hfind' := (findLoadbalancerById_eq_some hids).mpr ⟨hlb, hid⟩
          exact (move_completes hansible hnone hused hfind heused hdns
            (hgone first List.mem_cons_self) hfind').mpr (h hgone lb hlb hid hthere hthere')

theorem endpoint_change_completes (hwell : WellEndpointed k.clusterInfo.nodePools lbs)
    (hids : (lbs.map (·.id)).Nodup) (hdids : (dlbs.map (·.id)).Nodup)
    (hansible : ∀ name old new, changeAPIEndpoint name old new = .ok ()) :
    (∀ dk ord id hc proxy te state change cid did,
        preKubernetesDiff ord id ⟨hc, loadBalancersDiff lbs dlbs, proxy, ⟨some k, lbs⟩, ⟨dk, dlbs⟩⟩
          = .ok (some te) →
        te.task = .update state (.apiEndpoint change cid did) →
        ∃ k' lbs', handleAPIEndpointChange changeAPIEndpoint state change cid did
            = .ok ⟨some k', lbs'⟩
          ∧ WellEndpointed k'.clusterInfo.nodePools lbs')
      ↔ EndpointChangeGuarded k lbs dlbs := by
  refine completes_of_scheduled_iff.trans ?_
  cases hwell with
  | node one unused => exact completesWhenReady_of_node one hansible unused hids
  | loadBalancer none used role =>
    exact completesWhenReady_of_load_balancer none hansible used role hids hdids

end

namespace Demo

namespace EndpointChange

open Mixed

def k8s : K8scluster := Mixed.k8s [Mixed.control]

def lb (dns : Option DNS) : LBcluster :=
  { Mixed.lb "lb1" [machines 1] with roles := [role "api" 6443 .apiServer], dns }

def dns : DNS := ⟨"example.com", "abc", provider, "abc.example.com", []⟩

def reconciliate (dns : Option DNS) : LoadBalancersReconciliate :=
  ⟨healthy, loadBalancersDiff [lb dns] [lb (some EndpointChange.dns)], proxyDiff k8s k8s,
    ⟨some k8s, [lb dns]⟩, ⟨some k8s, [lb (some EndpointChange.dns)]⟩⟩

theorem wellEndpointed (dns : Option DNS) : WellEndpointed k8s.clusterInfo.nodePools [lb dns] :=
  .node rfl rfl

theorem nodup_lb (dns : Option DNS) : ([lb dns].map (·.id)).Nodup := List.nodup_singleton _

theorem guarded : EndpointChangeGuarded k8s [lb (some dns)] [lb (some dns)] := by
  have hcand : candidates [lb (some dns)] = [lb (some dns)] := rfl
  have hassigned : Clusters.findAssignedLbApiEndpoint [lb (some dns)] = none :=
    findAssigned_of_unused rfl
  unfold EndpointChangeGuarded
  rw [hassigned, hcand]
  exact List.forall_mem_singleton.mpr (fun _ _ => rfl)

end EndpointChange

end Demo

theorem endpoint_change_completes_demo :
    ∃ te state change cid did,
      preKubernetesDiff .ascending 0 (Demo.EndpointChange.reconciliate (some Demo.EndpointChange.dns))
        = .ok (some te)
      ∧ te.task = .update state (.apiEndpoint change cid did)
      ∧ ∃ k' lbs', handleAPIEndpointChange (fun _ _ _ => .ok ()) state change cid did
          = .ok ⟨some k', lbs'⟩
        ∧ WellEndpointed k'.clusterInfo.nodePools lbs' := by
  have hrun : Outcome.passes
      (preKubernetesDiff .ascending 0 (Demo.EndpointChange.reconciliate (some Demo.EndpointChange.dns)))
      (Option.any (fun te =>
        decide (te.task.delta? = some (.apiEndpoint .attachingLoadBalancer "" "lb1-qwertyu"))))
        = true := by
    decide
  obtain ⟨te, hte, hrun⟩ := Outcome.passes_some_iff.mp hrun
  have htask := Task.delta?_eq_some.mp (of_decide_eq_true hrun)
  exact ⟨te, te.task.clusters, _, _, _, hte, htask, (endpoint_change_completes
    (Demo.EndpointChange.wellEndpointed _) (Demo.EndpointChange.nodup_lb _)
    (Demo.EndpointChange.nodup_lb _) (fun _ _ _ => rfl)).mpr Demo.EndpointChange.guarded
    _ _ _ _ _ te _ _ _ _ hte htask⟩

/--
The endpoint is handed to a load balancer that has the role, but no dns record yet.
-/
theorem endpoint_change_panics :
    ∃ k lbs dlbs hc proxy te state change cid did, WellEndpointed k.clusterInfo.nodePools lbs
      ∧ (lbs.map (·.id)).Nodup
      ∧ preKubernetesDiff .ascending 0
          ⟨hc, loadBalancersDiff lbs dlbs, proxy, ⟨some k, lbs⟩, ⟨some k, dlbs⟩⟩ = .ok (some te)
      ∧ te.task = .update state (.apiEndpoint change cid did)
      ∧ handleAPIEndpointChange (fun _ _ _ => .ok ()) state change cid did = .error .panic := by
  have hrun : Outcome.passes
      (preKubernetesDiff .ascending 0 (Demo.EndpointChange.reconciliate none))
      (Option.any (fun te =>
        decide (te.task.delta? = some (.apiEndpoint .attachingLoadBalancer "" "lb1-qwertyu")
          ∧ handleAPIEndpointChange (fun _ _ _ => .ok ()) te.task.clusters .attachingLoadBalancer ""
            "lb1-qwertyu" = .error .panic))) = true := by
    decide
  obtain ⟨te, hte, hrun⟩ := Outcome.passes_some_iff.mp hrun
  obtain ⟨hdelta, hpanic⟩ := of_decide_eq_true hrun
  exact ⟨_, _, _, _, _, te, te.task.clusters, _, _, _, Demo.EndpointChange.wellEndpointed none,
    Demo.EndpointChange.nodup_lb none, hte, Task.delta?_eq_some.mp hdelta, hpanic⟩

end Manager

end Claudie
