import Claudie.Kuber.DeleteNodes
import Claudie.Manager.EndpointNode

/-!
What is left of the control plane once nodes that no longer respond are deleted.
-/

namespace Claudie

namespace Manager

def HasControl (k : K8scluster) : Prop :=
  ∃ np ∈ k.clusterInfo.nodePools, np.isControl = true ∧ np.nodes ≠ []

def LeavesControl (k : K8scluster) (np : String) (nodes : List String) : Prop :=
  ∃ o ∈ k.clusterInfo.nodePools, o.isControl = true ∧ ∃ n ∈ o.nodes, o.name = np → n.name ∉ nodes

structure KeepsControlPlane (k : K8scluster) (task : Task) : Prop where
  endpoint : ∀ np ∈ k.clusterInfo.nodePools, np.isControl = true → ∀ node ∈ np.nodes,
    node.nodeType = .apiEndpoint → ∀ delta ∈ task.delta?,
      Delta.removesNode np.name node.name delta = false
  control : ∀ k', Kuber.deleteNodes task = .ok (some k') → HasControl k'

theorem deleteFromState_nodes {k : K8scluster} {np : NodePool} {nodes : List String}
    (hnames : (k.clusterInfo.nodePools.map (·.name)).Nodup) (hnp : np ∈ k.clusterInfo.nodePools) :
    ∃ k', Kuber.deleteFromState false np.name nodes k = .ok (some k')
      ∧ (HasControl k' ↔ LeavesControl k np.name nodes) := by
  have hfind : NodePools.findByName np.name k.clusterInfo.nodePools = some np :=
    (List.find?_key_eq_some hnames).mpr ⟨hnp, rfl⟩
  unfold Kuber.deleteFromState
  simp only [hfind, NodePools.modifyByName_eq_modifyKey, pure, Except.pure,
    List.modifyKey_ok_eq_map hnames]
  refine ⟨_, rfl, ?_⟩
  simp only [HasControl, LeavesControl, List.mem_map]
  constructor
  · rintro ⟨_, ⟨o, ho, rfl⟩, hcontrol, hne⟩
    by_cases hname : o.name = np.name
    · rw [if_pos hname, NodePools.deleteNodes_isControl] at hcontrol
      rw [if_pos hname, NodePools.deleteNodes_nodes] at hne
      obtain ⟨n, hn⟩ := List.exists_mem_of_ne_nil _ hne
      obtain ⟨hn, hkept⟩ := List.mem_filter.mp hn
      exact ⟨o, ho, hcontrol, n, hn, fun _ => by simpa using hkept⟩
    · rw [if_neg hname] at hcontrol hne
      obtain ⟨n, hn⟩ := List.exists_mem_of_ne_nil _ hne
      exact ⟨o, ho, hcontrol, n, hn, fun heq => absurd heq hname⟩
  · rintro ⟨o, ho, hcontrol, n, hn, hkept⟩
    refine ⟨_, ⟨o, ho, rfl⟩, ?_⟩
    split
    next hname =>
      refine ⟨by simpa using hcontrol, List.ne_nil_of_mem (a := n) ?_⟩
      rw [NodePools.deleteNodes_nodes]
      exact List.mem_filter.mpr ⟨hn, by simpa using hkept hname⟩
    next => exact ⟨hcontrol, List.ne_nil_of_mem hn⟩

namespace handleKubernetesUnknownNodes

def isWanted (desired : List NodePool) (n : NodeDescription) : Bool :=
  n.isStatic &&
    match NodePools.findNode desired n.k8sName with
    | some (nn, _) => nn.isStatic
    | none => false

def deletable (desired : List NodePool) (nodes : List NodeDescription) : List NodeDescription :=
  nodes.filter (fun n => !recentTransition n && !isWanted desired n)

variable {ord : MapOrder} {id : TaskId} {r : KubernetesUnreachableNodes} {k dk : K8scluster}
  {te : TaskEvent} {np : String} {nodes gone : List NodeDescription}

theorem staticNodeError_isNone {desired : List NodePool} {n : NodeDescription} :
    (staticNodeError r desired np n).isNone = !isWanted desired n := by
  unfold staticNodeError isWanted
  cases NodePools.findNode desired n.k8sName with
  | none => simp
  | some found =>
    cases hwanted : n.isStatic && found.1.isStatic with
    | false => simp [hwanted]
    | true =>
      simp only [hwanted, if_true]
      split <;> rfl

theorem deletable_eq {desired : List NodePool} :
    (nodes.filter (!recentTransition ·)).filter (fun n => (staticNodeError r desired np n).isNone)
      = deletable desired nodes := by
  rw [List.filter_filter]
  exact List.filter_congr (fun n _ => by rw [staticNodeError_isNone, Bool.and_comm])

/--
The nodes that are deleted from the nodepool: all of them if it is no longer desired and may be
deleted from, otherwise those the user is not asked about.
-/
def Deletes (r : KubernetesUnreachableNodes) (k dk : K8scluster) (np : String)
    (nodes gone : List NodeDescription) : Prop :=
  (∃ cnp, NodePools.findByName np k.clusterInfo.nodePools = some cnp
    ∧ NodePools.findByName np dk.clusterInfo.nodePools = none
    ∧ deletionRefused r k cnp = none ∧ gone = nodes)
  ∨ (NodePools.findByName np k.clusterInfo.nodePools = none
      ∨ NodePools.findByName np dk.clusterInfo.nodePools ≠ none)
    ∧ gone = deletable dk.clusterInfo.nodePools nodes

theorem scheduleDeletion_eq_some {isStatic : Bool}
    (h : scheduleDeletion ord id r k np nodes isStatic = .ok (some te)) :
    nodes ≠ [] ∧ te.task = .update r.current
      (.kDeleteNodes false np (nodes.map (fullname k)) (some r.nodeStatus.unreachable)) := by
  obtain ⟨_, w, np', names, hloses, htask⟩ := scheduleDeletionsInNodePools_eq_some h
  cases hloses with
  | nodes hentry =>
    rw [GoMap.getElem?_appendAt] at hentry
    split at hentry
    next hne =>
      obtain ⟨rfl, hne⟩ := hne
      cases hentry
      exact ⟨fun hnil => hne (by rw [hnil]; rfl), htask⟩
    next => simp at hentry
  | nodePool hentry => simp at hentry

theorem scheduleDeletion_startingAt (isStatic : Bool) (hk : r.current.k8s = some k)
    (hne : nodes ≠ []) :
    ∃ te, scheduleDeletion (.startingAt np) id r k np nodes isStatic = .ok (some te)
      ∧ te.task = .update r.current
        (.kDeleteNodes false np (nodes.map (fullname k)) (some r.nodeStatus.unreachable)) := by
  refine scheduleDeletionsInNodePools_startingAt hk ?_
  rw [GoMap.getElem?_appendAt, if_pos ⟨rfl, by simpa using hne⟩]
  simp

theorem nodepools_eq_some {errs errs' : List String} {l : List (String × List NodeDescription)}
    (h : nodepools ord id r k dk errs l = .ok (some te, errs')) :
    ∃ np nodes gone, (np, nodes) ∈ l ∧ Deletes r k dk np nodes gone ∧ gone ≠ []
      ∧ te.task = .update r.current
        (.kDeleteNodes false np (gone.map (fullname k)) (some r.nodeStatus.unreachable)) := by
  induction l generalizing errs with
  | nil => cases h
  | cons entry l ih =>
    obtain ⟨np, nodes⟩ := entry
    simp only [nodepools] at h
    split at h
    next cnp hcnp hdnp =>
      split at h
      next =>
        obtain ⟨np', nodes', gone, hmem, hrest⟩ := ih h
        exact ⟨np', nodes', gone, List.mem_cons_of_mem _ hmem, hrest⟩
      next hallowed =>
        obtain ⟨next, hnext, h⟩ := Outcome.bind_eq_ok.mp h
        cases h
        obtain ⟨hne, htask⟩ := scheduleDeletion_eq_some hnext
        obtain rfl : cnp.name = np := by simpa using List.find?_some hcnp
        exact ⟨_, nodes, nodes, List.mem_cons_self, .inl ⟨cnp, hcnp, hdnp, hallowed, rfl⟩, hne, htask⟩
    next hother =>
      rw [deletable_eq] at h
      split at h
      next =>
        obtain ⟨np', nodes', gone, hmem, hrest⟩ := ih h
        exact ⟨np', nodes', gone, List.mem_cons_of_mem _ hmem, hrest⟩
      next n canDelete hgone =>
        obtain ⟨next, hnext, h⟩ := Outcome.bind_eq_ok.mp h
        cases h
        obtain ⟨hne, htask⟩ := scheduleDeletion_eq_some hnext
        refine ⟨np, nodes, _, List.mem_cons_self, .inr ⟨?_, hgone.symm⟩, hne, htask⟩
        cases hcnp : NodePools.findByName np k.clusterInfo.nodePools with
        | none => exact .inl rfl
        | some cnp => exact .inr (hother cnp hcnp)

theorem nodepools_startingAt (id : TaskId) (l : List (String × List NodeDescription))
    (hk : r.current.k8s = some k) (h : Deletes r k dk np nodes gone) (hne : gone ≠ []) :
    ∃ te, nodepools (.startingAt np) id r k dk [] ((np, nodes) :: l) = .ok (some te, [])
      ∧ te.task = .update r.current
        (.kDeleteNodes false np (gone.map (fullname k)) (some r.nodeStatus.unreachable)) := by
  obtain ⟨cnp, hcnp, hdnp, hallowed, rfl⟩ | ⟨hother, rfl⟩ := h
  · obtain rfl : cnp.name = np := by simpa using List.find?_some hcnp
    obtain ⟨te, hte, htask⟩ := scheduleDeletion_startingAt cnp.isStatic hk hne
    refine ⟨te, ?_, htask⟩
    simp only [nodepools, hcnp, hdnp, hallowed]
    rw [hte]
    rfl
  · cases hgone : deletable dk.clusterInfo.nodePools nodes with
    | nil => exact absurd hgone hne
    | cons n canDelete =>
      obtain ⟨te, hte, htask⟩ :=
        scheduleDeletion_startingAt n.isStatic hk (List.cons_ne_nil n canDelete)
      refine ⟨te, ?_, htask⟩
      simp only [nodepools]
      split
      next cnp hcnp hdnp =>
        rw [hcnp, hdnp] at hother
        simp at hother
      next =>
        simp only [deletable_eq, hgone]
        rw [hte]
        rfl

end handleKubernetesUnknownNodes

open handleKubernetesUnknownNodes

section

variable {ord : MapOrder} {id : TaskId} {hc : HealthCheckStatus} {ns : UnknownNodeStatus}
  {d : KubernetesDiffResult} {current desired : Clusters} {k dk : K8scluster} {te : TaskEvent}

theorem handleKubernetesUnknownNodes_eq_some (hk : current.k8s = some k) (hdk : desired.k8s = some dk)
    (h : handleKubernetesUnknownNodes ord id ⟨hc, ns, d, current, desired⟩ = .ok (some te)) :
    ∃ np nodes gone, ns.kubernetes[np]? = some nodes
      ∧ Deletes ⟨hc, ns, d, current, desired⟩ k dk np nodes gone ∧ gone ≠ []
      ∧ te.task = .update current
        (.kDeleteNodes false np (gone.map (fullname k)) (some ns.unreachable)) := by
  unfold handleKubernetesUnknownNodes at h
  simp only [hk, hdk, Outcome.deref_some, Outcome.ok_bind] at h
  obtain ⟨⟨next, errs⟩, hnext, h⟩ := Outcome.bind_eq_ok.mp h
  dsimp only at h
  split at h
  next =>
    cases h
    obtain ⟨np, nodes, gone, hmem, hrest⟩ := nodepools_eq_some hnext
    exact ⟨np, nodes, gone, (MapOrder.mem_range ord).mp hmem, hrest⟩
  next => cases h
  next => cases h

theorem handleKubernetesUnknownNodes_startingAt (hk : current.k8s = some k)
    (hdk : desired.k8s = some dk) {np : String} {nodes gone : List NodeDescription}
    (hentry : ns.kubernetes[np]? = some nodes)
    (h : Deletes ⟨hc, ns, d, current, desired⟩ k dk np nodes gone) (hne : gone ≠ []) :
    ∃ te, handleKubernetesUnknownNodes (.startingAt np) id ⟨hc, ns, d, current, desired⟩
        = .ok (some te)
      ∧ te.task = .update current
        (.kDeleteNodes false np (gone.map (fullname k)) (some ns.unreachable)) := by
  obtain ⟨others, hrange⟩ := MapOrder.range_startingAt "unknown kubernetes nodes" hentry
  obtain ⟨te, hte, htask⟩ := nodepools_startingAt id others hk h hne
  refine ⟨te, ?_, htask⟩
  unfold handleKubernetesUnknownNodes
  simp only [hk, hdk, Outcome.deref_some, Outcome.ok_bind, hrange, hte]
  rfl

theorem apiEndpoint_current_ne {nps dnps : List NodePool} {np : NodePool} {e : NodeApiEndpoint}
    (hnames : NamedNodes nps) (hnp : np ∈ nps) (hcontrol : np.isControl = true)
    (hendpoint : np.endpointNode ≠ none)
    (he : nodeApiEndpoint nps dnps (dynamicDiff nps dnps) (staticDiff nps dnps) = .ok e) :
    e.current ≠ "" := by
  rw [nodeApiEndpoint_eq] at he
  cases hfind : endpointNode nps with
  | none =>
    have hnone := List.findSome?_eq_none_iff.mp hfind np hnp
    rw [if_pos hcontrol, Option.map_eq_none_iff] at hnone
    exact absurd hnone hendpoint
  | some found =>
    obtain ⟨o, n⟩ := found
    obtain ⟨ho, _, hn, _⟩ := endpointNode_eq_some hfind
    rw [hfind] at he
    dsimp only at he
    split at he
    next =>
      obtain ⟨_, _, he⟩ := Outcome.bind_eq_ok.mp he
      cases he
      exact hnames.nodes o ho n hn
    next =>
      cases he
      exact hnames.nodes o ho n hn

theorem deletionRefused_eq_none (hnames : NamedNodes k.clusterInfo.nodePools)
    (hdiff : KubernetesDiffered ord k dk d) {np : NodePool} (hnp : np ∈ k.clusterInfo.nodePools) :
    deletionRefused ⟨hc, ns, d, current, desired⟩ k np = none
      ↔ (np.isControl = true →
        (NodePools.control k.clusterInfo.nodePools).length ≠ 1 ∧ np.endpointNode = none) := by
  unfold deletionRefused
  cases hcontrol : np.isControl with
  | false => simp
  | true =>
    by_cases hlast : (NodePools.control k.clusterInfo.nodePools).length = 1
    · simp [hlast]
    · cases hendpoint : np.endpointNode with
      | none => simp [hlast]
      | some n =>
        have hne : d.apiEndpoint.current ≠ "" :=
          apiEndpoint_current_ne hnames hnp hcontrol (by simp [hendpoint]) hdiff.apiEndpoint
        simp [hlast, hne]

/--
From a nodepool that is still desired, the unknown nodes that are deleted do not include the api
endpoint. Whether it is still desired or not, they do not include all the control nodes.
-/
structure ControlPlaneGuarded (k dk : K8scluster) (ns : UnknownNodeStatus) : Prop where
  endpoint : ∀ np ∈ k.clusterInfo.nodePools, np.isControl = true → ∀ node ∈ np.nodes,
    node.nodeType = .apiEndpoint → np.name ∈ dk.clusterInfo.nodePools.map (·.name) →
    ∀ nodes, ns.kubernetes[np.name]? = some nodes →
      node.name ∉ (deletable dk.clusterInfo.nodePools nodes).map (fullname k)
  wanted : ∀ np ∈ k.clusterInfo.nodePools, np.name ∈ dk.clusterInfo.nodePools.map (·.name) →
    ∀ nodes, ns.kubernetes[np.name]? = some nodes → deletable dk.clusterInfo.nodePools nodes ≠ [] →
      LeavesControl k np.name ((deletable dk.clusterInfo.nodePools nodes).map (fullname k))
  unwanted : ∀ np ∈ k.clusterInfo.nodePools, np.name ∉ dk.clusterInfo.nodePools.map (·.name) →
    (np.isControl = true →
      (NodePools.control k.clusterInfo.nodePools).length ≠ 1 ∧ np.endpointNode = none) →
    ∀ nodes, ns.kubernetes[np.name]? = some nodes → nodes ≠ [] →
      LeavesControl k np.name (nodes.map (fullname k))

theorem endpointNode_ne_none {np : NodePool} {node : Node} (hmem : node ∈ np.nodes)
    (htype : node.nodeType = .apiEndpoint) : np.endpointNode ≠ none := by
  intro hnone
  have hne := List.find?_eq_none.mp hnone node hmem
  simp [htype] at hne

theorem deletes_iff (hnames : NamedNodes k.clusterInfo.nodePools)
    (hdiff : KubernetesDiffered ord k dk d) {np : NodePool} (hnp : np ∈ k.clusterInfo.nodePools)
    {nodes gone : List NodeDescription} :
    Deletes ⟨hc, ns, d, current, desired⟩ k dk np.name nodes gone
      ↔ (np.name ∉ dk.clusterInfo.nodePools.map (·.name) ∧ (np.isControl = true →
          (NodePools.control k.clusterInfo.nodePools).length ≠ 1 ∧ np.endpointNode = none)
          ∧ gone = nodes)
        ∨ np.name ∈ dk.clusterInfo.nodePools.map (·.name)
          ∧ gone = deletable dk.clusterInfo.nodePools nodes := by
  have hfind : NodePools.findByName np.name k.clusterInfo.nodePools = some np :=
    (List.find?_key_eq_some hnames.nodePools).mpr ⟨hnp, rfl⟩
  have hnone : NodePools.findByName np.name dk.clusterInfo.nodePools = none
      ↔ np.name ∉ dk.clusterInfo.nodePools.map (·.name) := List.find?_key_eq_none
  simp only [Deletes, hfind, Option.some.injEq, exists_eq_left', hnone, ne_eq, not_not,
    deletionRefused_eq_none hnames hdiff hnp, reduceCtorEq, false_or]

theorem control_plane_is_kept (hnames : NamedNodes k.clusterInfo.nodePools)
    (hdiff : kubernetesDiff ord k dk = .ok d) :
    (∀ ord id hc lbs dlbs te,
        handleKubernetesUnknownNodes ord id ⟨hc, ns, d, ⟨some k, lbs⟩, ⟨some dk, dlbs⟩⟩
          = .ok (some te) →
        KeepsControlPlane k te.task)
      ↔ ControlPlaneGuarded k dk ns := by
  have hdiffered := kubernetesDiff_eq_ok hdiff
  constructor
  · intro h
    have hrun : ∀ np ∈ k.clusterInfo.nodePools, ∀ nodes gone, ns.kubernetes[np.name]? = some nodes →
        Deletes ⟨⟨false, ∅, false, false⟩, ns, d, ⟨some k, []⟩, ⟨some dk, []⟩⟩ k dk np.name nodes
          gone → gone ≠ [] →
        KeepsControlPlane k (.update ⟨some k, []⟩
          (.kDeleteNodes false np.name (gone.map (fullname k)) (some ns.unreachable))) := by
      intro np hnp nodes gone hentry hdeletes hne
      obtain ⟨te, hte, htask⟩ := handleKubernetesUnknownNodes_startingAt rfl rfl hentry hdeletes hne
      rw [← htask]
      exact h _ 0 _ _ _ te hte
    have hleaves : ∀ np ∈ k.clusterInfo.nodePools, ∀ names, KeepsControlPlane k (.update ⟨some k, []⟩
        (.kDeleteNodes false np.name names (some ns.unreachable))) →
        LeavesControl k np.name names := by
      intro np hnp names hkeeps
      obtain ⟨k', hk', hcontrol⟩ := deleteFromState_nodes hnames.nodePools hnp
      exact hcontrol.mp (hkeeps.control k' hk')
    refine ⟨fun np hnp hcontrol node hnode htype hwanted nodes hentry hin => ?_,
      fun np hnp hwanted nodes hentry hne => ?_, fun np hnp hunwanted hallowed nodes hentry hne => ?_⟩
    · have hkeeps := hrun np hnp nodes _ hentry
        ((deletes_iff hnames hdiffered hnp).mpr (.inr ⟨hwanted, rfl⟩))
        (fun hnil => by rw [hnil] at hin; cases hin)
      have hkept := hkeeps.endpoint np hnp hcontrol node hnode htype _ rfl
      rw [Delta.removesNode, Bool.false_or, List.contains_iff_mem.mpr hin] at hkept
      simp at hkept
    · exact hleaves np hnp _ (hrun np hnp nodes _ hentry
        ((deletes_iff hnames hdiffered hnp).mpr (.inr ⟨hwanted, rfl⟩)) hne)
    · exact hleaves np hnp _ (hrun np hnp nodes _ hentry
        ((deletes_iff hnames hdiffered hnp).mpr (.inl ⟨hunwanted, hallowed, rfl⟩)) hne)
  · intro hguard ord id hc lbs dlbs te hte
    obtain ⟨name, nodes, gone, hentry, hdeletes, hne, htask⟩ :=
      handleKubernetesUnknownNodes_eq_some rfl rfl hte
    rw [htask]
    refine ⟨fun np hnp hcontrol node hnode htype delta hdelta => ?_, fun k' hk' => ?_⟩
    · cases hdelta
      by_contra hremoves
      rw [Bool.not_eq_false, Delta.removesNode, Bool.and_eq_true, decide_eq_true_eq,
        Bool.false_or, List.contains_iff_mem] at hremoves
      obtain ⟨rfl, hin⟩ := hremoves
      obtain ⟨_, hallowed, _⟩ | ⟨hwanted, rfl⟩ := (deletes_iff hnames hdiffered hnp).mp hdeletes
      · exact endpointNode_ne_none hnode htype (hallowed hcontrol).2
      · exact hguard.endpoint np hnp hcontrol node hnode htype hwanted nodes hentry hin
    · cases hfind : NodePools.findByName name k.clusterInfo.nodePools with
      | none =>
        simp only [Kuber.deleteNodes, Kuber.deleteFromState, Outcome.deref_some, Outcome.ok_bind,
          hfind, Bool.false_eq_true, if_false] at hk'
        cases hk'
      | some np =>
        obtain ⟨hnp, rfl⟩ := (List.find?_key_eq_some hnames.nodePools).mp hfind
        obtain ⟨k'', hk'', hcontrol⟩ := deleteFromState_nodes hnames.nodePools hnp
        obtain rfl : k'' = k' := by
          have := hk''.symm.trans hk'
          cases this
          rfl
        refine hcontrol.mpr ?_
        obtain ⟨hunwanted, hallowed, rfl⟩ | ⟨hwanted, rfl⟩ :=
          (deletes_iff hnames hdiffered hnp).mp hdeletes
        · exact hguard.unwanted np hnp hunwanted hallowed _ hentry hne
        · exact hguard.wanted np hnp hwanted nodes hentry hne

end

namespace Demo

namespace ControlPlane

open Mixed

def first : Node := node "c1-abcdefg-control-hjklzxc-01" "192.0.2.1" .apiEndpoint

def second : Node := node "c1-abcdefg-control-hjklzxc-02" "192.0.2.2" .master

def pool (nodes : List Node) : NodePool := dynamicPool "control-hjklzxc" true nodes

def k8s (nodes : List Node) : K8scluster := Mixed.k8s [pool nodes]

def missing (name publicIp : String) : NodeDescription :=
  { k8sName := name, ready := false, isStatic := false, nodePool := "control-hjklzxc"
    publicIPv4 := publicIp, isControl := true, lastTransition := none }

def notJoined (n : NodeDescription) : UnknownNodeStatus :=
  ⟨∅, (∅ : GoMap (List NodeDescription)).insert "control-hjklzxc" [n], ∅⟩

theorem named_k8s {nodes : List Node} (h : ∀ n ∈ nodes, n.name ≠ "") :
    NamedNodes (k8s nodes).clusterInfo.nodePools where
  nodePools := List.nodup_singleton _
  nodes := List.forall_mem_singleton.mpr h
  unique := List.forall_mem_singleton.mpr (List.forall_mem_singleton.mpr (fun _ _ _ => rfl))

theorem guarded_second :
    ControlPlaneGuarded (k8s [first, second]) (k8s [first, second])
      (notJoined (missing "control-hjklzxc-02" "192.0.2.2")) := by
  have hentry : (notJoined (missing "control-hjklzxc-02" "192.0.2.2")).kubernetes["control-hjklzxc"]?
      = some [missing "control-hjklzxc-02" "192.0.2.2"] := rfl
  have hkept : first.name ∉ (deletable (k8s [first, second]).clusterInfo.nodePools
      [missing "control-hjklzxc-02" "192.0.2.2"]).map (fullname (k8s [first, second])) := by
    decide
  refine ⟨List.forall_mem_singleton.mpr (fun _ node hnode htype _ nodes hnodes => ?_),
    List.forall_mem_singleton.mpr (fun _ nodes hnodes _ => ?_),
    List.forall_mem_singleton.mpr (fun hunwanted => absurd (List.mem_singleton_self _) hunwanted)⟩
  · cases hentry.symm.trans hnodes
    obtain rfl | hnode := List.mem_cons.mp hnode
    · exact hkept
    · obtain rfl := List.mem_singleton.mp hnode
      cases htype
  · cases hentry.symm.trans hnodes
    exact ⟨pool [first, second], List.mem_singleton_self _, rfl, first, List.mem_cons_self,
      fun _ => hkept⟩

end ControlPlane

end Demo

theorem control_plane_is_kept_demo :
    ∃ d te, kubernetesDiff .ascending
        (Demo.ControlPlane.k8s [Demo.ControlPlane.first, Demo.ControlPlane.second])
        (Demo.ControlPlane.k8s [Demo.ControlPlane.first, Demo.ControlPlane.second]) = .ok d
      ∧ handleKubernetesUnknownNodes .ascending 0 ⟨Demo.Mixed.healthy,
          Demo.ControlPlane.notJoined (Demo.ControlPlane.missing "control-hjklzxc-02" "192.0.2.2"), d,
          ⟨some (Demo.ControlPlane.k8s [Demo.ControlPlane.first, Demo.ControlPlane.second]), []⟩,
          ⟨some (Demo.ControlPlane.k8s [Demo.ControlPlane.first, Demo.ControlPlane.second]), []⟩⟩
        = .ok (some te)
      ∧ KeepsControlPlane
        (Demo.ControlPlane.k8s [Demo.ControlPlane.first, Demo.ControlPlane.second]) te.task := by
  have hrun : Outcome.passes (kubernetesDiff .ascending
        (Demo.ControlPlane.k8s [Demo.ControlPlane.first, Demo.ControlPlane.second])
        (Demo.ControlPlane.k8s [Demo.ControlPlane.first, Demo.ControlPlane.second])) (fun d =>
      Outcome.passes (handleKubernetesUnknownNodes .ascending 0 ⟨Demo.Mixed.healthy,
        Demo.ControlPlane.notJoined (Demo.ControlPlane.missing "control-hjklzxc-02" "192.0.2.2"),
        d, ⟨some (Demo.ControlPlane.k8s [Demo.ControlPlane.first, Demo.ControlPlane.second]), []⟩,
        ⟨some (Demo.ControlPlane.k8s [Demo.ControlPlane.first, Demo.ControlPlane.second]), []⟩⟩)
        (Option.any (fun _ => true))) = true := by
    decide +kernel
  obtain ⟨d, hdiff, hrun⟩ := Outcome.passes_iff.mp hrun
  obtain ⟨te, hte, -⟩ := Outcome.passes_some_iff.mp hrun
  exact ⟨d, te, hdiff, hte, (control_plane_is_kept
    (Demo.ControlPlane.named_k8s (by decide)) hdiff).mpr Demo.ControlPlane.guarded_second
    _ _ _ _ _ te hte⟩

/--
The only control node, which has the endpoint, did not join: it is deleted although its nodepool is
still desired.
-/
theorem last_control_node_is_deleted :
    ∃ k ns d te, NamedNodes k.clusterInfo.nodePools ∧ kubernetesDiff .ascending k k = .ok d
      ∧ handleKubernetesUnknownNodes .ascending 0
        ⟨Demo.Mixed.healthy, ns, d, ⟨some k, []⟩, ⟨some k, []⟩⟩ = .ok (some te)
      ∧ (∃ np ∈ k.clusterInfo.nodePools, np.isControl = true ∧ ∃ node ∈ np.nodes,
        node.nodeType = .apiEndpoint ∧ ∃ delta ∈ te.task.delta?,
          Delta.removesNode np.name node.name delta = true)
      ∧ ∃ k', Kuber.deleteNodes te.task = .ok (some k') ∧ ¬ HasControl k' := by
  have hrun : Outcome.passes (kubernetesDiff .ascending
        (Demo.ControlPlane.k8s [Demo.ControlPlane.first])
        (Demo.ControlPlane.k8s [Demo.ControlPlane.first])) (fun d =>
      Outcome.passes (handleKubernetesUnknownNodes .ascending 0 ⟨Demo.Mixed.healthy,
        Demo.ControlPlane.notJoined (Demo.ControlPlane.missing "control-hjklzxc-01" "192.0.2.1"),
        d, ⟨some (Demo.ControlPlane.k8s [Demo.ControlPlane.first]), []⟩,
        ⟨some (Demo.ControlPlane.k8s [Demo.ControlPlane.first]), []⟩⟩) (Option.any (fun te =>
          te.task.delta?.any (Delta.removesNode "control-hjklzxc" Demo.ControlPlane.first.name)
            && Outcome.passes (Kuber.deleteNodes te.task) (Option.any (fun k' =>
              k'.clusterInfo.nodePools.all (·.nodes.isEmpty)))))) = true := by
    decide +kernel
  obtain ⟨d, hdiff, hrun⟩ := Outcome.passes_iff.mp hrun
  obtain ⟨te, hte, hrun⟩ := Outcome.passes_some_iff.mp hrun
  rw [Bool.and_eq_true] at hrun
  obtain ⟨delta, hdelta, hremoves⟩ := (Option.any_eq_true _ _).mp hrun.1
  obtain ⟨k', hk', hempty⟩ := Outcome.passes_some_iff.mp hrun.2
  rw [List.all_eq_true] at hempty
  refine ⟨_, _, d, te, Demo.ControlPlane.named_k8s (by decide), hdiff, hte,
    ⟨_, List.mem_singleton_self _, rfl, Demo.ControlPlane.first, List.mem_singleton_self _, rfl,
      delta, hdelta, hremoves⟩, k', hk', ?_⟩
  rintro ⟨np, hnp, _, hne⟩
  exact hne (List.isEmpty_iff.mp (hempty np hnp))

end Manager

end Claudie
