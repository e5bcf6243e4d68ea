import Claudie.Ansibler.Nodes
import Claudie.Kuber.DeleteNodes
import Claudie.Lemmas.NodePools
import Claudie.Lemmas.Terraformer
import Claudie.Manager.Schedule.LoadBalancers
import Claudie.Spec.Consume

/-!
Deleted nodes are moved from the state of a task into its delta, in which the later stages of the task
look for them.
-/

namespace Claudie

abbrev NodeTag := Option String × String × String

def NodePool.tagsOf (cluster : Option String) (np : String) (nodes : List Node) : List NodeTag :=
  nodes.map (fun n => (cluster, np, n.name))

def nodePoolTags (cluster : Option String) (nps : List NodePool) : List NodeTag :=
  nps.flatMap (fun np => NodePool.tagsOf cluster np.name np.nodes)

namespace Clusters

def nodePoolsOf (c : Clusters) : Option String → List NodePool
  | none => c.kubernetesNodePools
  | some id => ((findLoadbalancerById id c.loadBalancers).map (·.clusterInfo.nodePools)).getD []

def tags (c : Clusters) : List NodeTag :=
  nodePoolTags none c.kubernetesNodePools
    ++ c.loadBalancers.flatMap (fun lb => nodePoolTags (some lb.id) lb.clusterInfo.nodePools)

end Clusters

namespace DeletedNodesKind

def nodepool : DeletedNodesKind → String
  | .wholeNodePool np => (np.map (·.name)).getD ""
  | .partialNodePool np _ _ => np

def nodes : DeletedNodesKind → List Node
  | .wholeNodePool np => (np.map (·.nodes)).getD []
  | .partialNodePool _ nodes _ => nodes

def keys : DeletedNodesKind → GoMap String
  | .wholeNodePool np => ((np.bind (·.static?)).map (·.nodeKeys)).getD ∅
  | .partialNodePool _ _ keys => keys

def tags (cluster : Option String) (kind : DeletedNodesKind) : List NodeTag :=
  NodePool.tagsOf cluster kind.nodepool kind.nodes

end DeletedNodesKind

def deletedNodes? : Delta → Option (Option String × DeletedNodesKind)
  | .deletedK8sNodes _ kind => some (none, kind)
  | .deletedLoadBalancerNodes _ handle kind => some (some handle, kind)
  | _ => none

def deletedTags (d : Delta) : List NodeTag :=
  ((deletedNodes? d).map (fun x => x.2.tags x.1)).getD []

/--
The nodes of the state before are in the state or in the delta, each once. A static node in the delta
has its key with it, and the nodes of the delta are those the ansibler finds there.
-/
structure Recorded (before state : Clusters) (delta : Delta) : Prop where
  conserved : (state.tags ++ deletedTags delta).Perm before.tags
  keys : ∀ cluster kind, deletedNodes? delta = some (cluster, kind) → ∀ np s,
    NodePools.findByName kind.nodepool (before.nodePoolsOf cluster) = some np →
      np.static? = some s → ∀ n ∈ kind.nodes, ∀ key,
        s.nodeKeys[n.publicIp]? = some key → kind.keys[n.publicIp]? = some key
  found : ∀ cluster kind, deletedNodes? delta = some (cluster, kind) → kind.nodes ≠ [] →
    (Ansibler.deletedNodesOnly (state.nodePoolsOf cluster) kind).map (·.nodes) = some kind.nodes

structure NodeRemoval (nps nps' : List NodePool) (kind : DeletedNodesKind) : Prop where
  conserved : ∀ cluster,
    (nodePoolTags cluster nps' ++ kind.tags cluster).Perm (nodePoolTags cluster nps)
  keys : ∀ np s, NodePools.findByName kind.nodepool nps = some np → np.static? = some s →
    ∀ n ∈ kind.nodes, ∀ key, s.nodeKeys[n.publicIp]? = some key → kind.keys[n.publicIp]? = some key
  found : kind.nodes ≠ [] →
    (Ansibler.deletedNodesOnly nps' kind).map (·.nodes) = some kind.nodes

section removal

variable {nps nps' : List NodePool} {np : NodePool} {name : String} {nodes : List String}
  {kind : DeletedNodesKind}

theorem name_of_findByName (h : NodePools.findByName name nps = some np) : np.name = name := by
  simpa using List.find?_some h

theorem nodePoolTags_of_built {cluster : Option String}
    (h : List.Forall₂ Terraformer.Built nps nps') :
    nodePoolTags cluster nps' = nodePoolTags cluster nps := by
  unfold nodePoolTags
  induction h with
  | nil => rfl
  | cons h _ ih =>
    have htags : ∀ np : NodePool, NodePool.tagsOf cluster np.name np.nodes
        = (np.nodes.map (·.name)).map (fun n => (cluster, np.name, n)) := by
      intro np
      rw [List.map_map]
      rfl
    rw [List.flatMap_cons, List.flatMap_cons, ih, htags, htags, h.name, h.names]

theorem findByName_of_built (h : List.Forall₂ Terraformer.Built nps nps') :
    (NodePools.findByName name nps').isSome = (NodePools.findByName name nps).isSome := by
  unfold NodePools.findByName
  induction h with
  | nil => rfl
  | cons h _ ih =>
    rw [List.find?_cons, List.find?_cons, h.name]
    split
    next => rfl
    next => exact ih

theorem NodeRemoval.built {nps'' : List NodePool} (h : NodeRemoval nps nps' kind)
    (hbuilt : List.Forall₂ Terraformer.Built nps' nps'') : NodeRemoval nps nps'' kind where
  conserved cluster := by
    rw [nodePoolTags_of_built hbuilt]
    exact h.conserved cluster
  keys := h.keys
  found hne := by
    have hfound := h.found hne
    cases kind with
    | wholeNodePool np => exact hfound
    | partialNodePool np nodes keys =>
      have hsome : (NodePools.findByName np nps'').isSome = (NodePools.findByName np nps').isSome :=
        findByName_of_built hbuilt
      simp only [Ansibler.deletedNodesOnly] at hfound ⊢
      cases hnp : NodePools.findByName np nps' with
      | none =>
        rw [hnp] at hfound
        cases hfound
      | some o =>
        rw [hnp] at hsome
        obtain ⟨o', ho'⟩ := Option.isSome_iff_exists.mp hsome
        rw [ho']
        rfl

end removal

section recorded

variable {before : Clusters} {k k' : K8scluster} {lb lb' : LBcluster} {handle : String}
  {kind : DeletedNodesKind} {unreachable : Option Unreachable}

theorem NodeRemoval.kubernetes (hk : before.k8s = some k)
    (h : NodeRemoval k.clusterInfo.nodePools k'.clusterInfo.nodePools kind) :
    Recorded before ⟨some k', before.loadBalancers⟩ (.deletedK8sNodes unreachable kind) := by
  have hnps : before.kubernetesNodePools = k.clusterInfo.nodePools := by
    rw [Clusters.kubernetesNodePools, hk]
    rfl
  refine ⟨?_, ?_, ?_⟩
  · simp only [Clusters.tags, hnps]
    refine List.Perm.trans ?_ ((h.conserved none).append_right _)
    rw [List.append_assoc, List.append_assoc]
    exact List.perm_append_comm.append_left _
  · rintro _ _ ⟨⟩ np s hnp
    rw [Clusters.nodePoolsOf, hnps] at hnp
    exact h.keys np s hnp
  · rintro _ _ ⟨⟩
    exact h.found

theorem NodeRemoval.loadBalancer
    (hlb : Clusters.findLoadbalancerById handle before.loadBalancers = some lb)
    (hid : lb'.id = lb.id)
    (h : NodeRemoval lb.clusterInfo.nodePools lb'.clusterInfo.nodePools kind) :
    Recorded before
      ⟨before.k8s, before.loadBalancers.modifyFirst (·.id = handle) (fun _ => lb')⟩
      (.deletedLoadBalancerNodes unreachable handle kind) := by
  have hhandle : lb.id = handle := by simpa using List.find?_some hlb
  have hfind : Clusters.findLoadbalancerById handle
      (before.loadBalancers.modifyFirst (·.id = handle) (fun _ => lb')) = some lb' :=
    List.find?_modifyFirst (f := fun _ => lb') hlb (by simpa [hid] using hhandle)
  refine ⟨?_, ?_, ?_⟩
  · simp only [Clusters.tags, List.append_assoc]
    refine List.Perm.append_left _ (List.flatMap_modifyFirst_perm hlb ?_)
    rw [hid, hhandle]
    exact h.conserved (some handle)
  · rintro _ _ ⟨⟩ np s hnp
    rw [Clusters.nodePoolsOf, hlb] at hnp
    exact h.keys np s hnp
  · rintro _ _ ⟨⟩ hne
    rw [Clusters.nodePoolsOf, hfind]
    exact h.found hne

end recorded

theorem updateExistingLbs_nil (lbs : List LBcluster) : updateExistingLbs lbs [] = (lbs, []) := by
  induction lbs with
  | nil => rfl
  | cons lb lbs ih => simp only [updateExistingLbs, List.find?_nil, ih]

theorem mergeLoadBalancers_nil (lbs : List LBcluster) : mergeLoadBalancers lbs [] = lbs := by
  rw [mergeLoadBalancers, updateExistingLbs_nil]
  exact List.append_nil lbs

theorem mergeLoadBalancers_singleton {lbs : List LBcluster} {lb u : LBcluster} {id : String}
    (h : Clusters.findLoadbalancerById id lbs = some lb) (hu : u.id = id) :
    mergeLoadBalancers lbs [u] = lbs.modifyFirst (·.id = id) (fun _ => u) := by
  have hexisting : updateExistingLbs lbs [u] = (lbs.modifyFirst (·.id = id) (fun _ => u), []) := by
    unfold Clusters.findLoadbalancerById at h
    induction lbs with
    | nil => cases h
    | cons o lbs ih =>
      rw [List.modifyFirst_cons, updateExistingLbs]
      rw [List.find?_cons] at h
      by_cases ho : o.id = id
      · rw [List.find?_cons_of_pos (by simp [ho, hu]), decide_eq_true ho, if_pos rfl]
        simp only [List.erase_cons_head, updateExistingLbs_nil]
      · rw [decide_eq_false ho] at h
        rw [List.find?_cons_of_neg (by simpa [hu] using ho), decide_eq_false ho,
          if_neg Bool.false_ne_true]
        simp only [List.find?_nil, ih h]
  rw [mergeLoadBalancers, hexisting]
  exact List.append_nil _

namespace Manager

section static

variable {current : Clusters} {cid : LoadBalancerIdentifier} {np : String} {nodes : List String}
  {opts : LoadBalancerNodePoolsOptions} {lb : LBcluster}

end static

structure Tracked where
  state : Clusters
  attached : ∀ k8s ∈ state.k8s, ∀ lb ∈ state.loadBalancers,
    lb.targetedK8s = k8s.clusterInfo.name

/--
The deletions of nodes: by the kuber service, by the terraformer service, and by the manager for the
static nodes of a load balancer, for which there is nothing to be deleted by the terraformer.
-/
inductive Deletion where
  | kubernetes (withNodePool : Bool) (nodepool : String) (nodes : List String)
      (unreachable : Option Unreachable)
  | loadBalancer (handle : String) (withNodePool : Bool) (nodepool : String) (nodes : List String)
      (unreachable : Option Unreachable)
  | scheduled (cid : LoadBalancerIdentifier) (diff : NodePoolsDiffResult)
      (opts : LoadBalancerNodePoolsOptions)

namespace Deletion

def nodesOf (np : String) (nps : List NodePool) : List Node :=
  ((NodePools.findByName np nps).map (·.nodes)).getD []

/--
A whole static nodepool has the id of its load balancer as its name, or there are no nodes in it and
none in a nodepool of that name.
-/
def Guarded (s : Clusters) : Deletion → Prop
  | .scheduled cid diff opts =>
    opts.isStatic = true → diff.partiallyDeleted.isEmpty = true →
      ∀ np nodes, diff.deleted[np]? = some nodes →
        ∀ lb, Clusters.findLoadbalancerById cid.id s.loadBalancers = some lb →
          np = cid.id ∨ nodesOf np lb.clusterInfo.nodePools = []
            ∧ nodesOf cid.id lb.clusterInfo.nodePools = []
  | _ => True

end Deletion

def deletedKind (withNodePool : Bool) (affected : NodePool) (nodes : List String) :
    DeletedNodesKind :=
  if withNodePool then .wholeNodePool (some affected) else partialDeletion affected nodes

def remaining (withNodePool : Bool) (nodepool : String) (nodes : List String)
    (nps : List NodePool) : List NodePool :=
  if withNodePool then NodePools.deleteByName nps nodepool
  else nps.modifyFirst (·.name = nodepool) (NodePools.deleteNodes · nodes)

section worker

variable {s : Clusters} {withNodePool : Bool} {nodepool : String} {nodes : List String}
  {unreachable : Option Unreachable} {affected : NodePool} {t : Task}

theorem consume_kDeleteNodes {k8s' : K8scluster}
    (h : (Task.update s (.kDeleteNodes withNodePool nodepool nodes
      unreachable)).consumeUpdateResult (some k8s') (some []) = .ok t) :
    ∃ k8s affected, s.k8s = some k8s
      ∧ NodePools.findByName nodepool k8s.clusterInfo.nodePools = some affected
      ∧ t = .update ⟨some k8s', s.loadBalancers⟩
          (.deletedK8sNodes unreachable (deletedKind withNodePool affected nodes)) := by
  obtain ⟨k8s, hk8s, h⟩ := Outcome.bind_eq_ok.mp h
  obtain ⟨t', ht', h⟩ := Outcome.bind_eq_ok.mp h
  obtain ⟨new, hnew, h⟩ := Outcome.bind_eq_ok.mp h
  obtain ⟨delta, hdelta, ht'⟩ := Outcome.bind_eq_ok.mp ht'
  cases ht'
  have hnew : new = k8s' := by
    unfold consumeK8s at hnew
    dsimp only at hnew
    split at hnew
    next => cases hnew
    next =>
      cases hnew
      rfl
  unfold consumeDeleteDelta at hdelta
  dsimp only at hdelta
  split at hdelta
  next => cases hdelta
  next affected haffected =>
    refine ⟨k8s, affected, Outcome.deref_eq_ok.mp hk8s, haffected, ?_⟩
    have hkind : delta
        = .deletedK8sNodes unreachable (deletedKind withNodePool affected nodes) := by
      unfold deletedKind
      cases withNodePool <;>
      · cases hdelta
        rfl
    cases h
    rw [hkind, hnew]
    simp only [List.filter_nil, mergeLoadBalancers_nil, Task.replaceClusters, Task.consumeReplace,
      consumeReplaceDelta, Task.clusters]

theorem deleteNodes_eq_some {k8s k8s' : K8scluster} (hk8s : s.k8s = some k8s)
    (h : Kuber.deleteNodes (.update s (.kDeleteNodes withNodePool nodepool nodes unreachable))
      = .ok (some k8s')) :
    k8s' = k8s.withNodePools (remaining withNodePool nodepool nodes k8s.clusterInfo.nodePools) := by
  unfold Kuber.deleteNodes at h
  simp only [hk8s, Outcome.deref_some, Outcome.ok_bind] at h
  unfold Kuber.deleteFromState at h
  dsimp only at h
  unfold remaining
  cases withNodePool with
  | true =>
    cases h
    rfl
  | false =>
    simp only [Bool.false_eq_true, if_false, NodePools.modifyByName_pure, Outcome.ok_bind] at h ⊢
    split at h
    next => cases h
    next =>
      cases h
      rfl

end worker

section scheduled

variable {s : Clusters} {cid : LoadBalancerIdentifier} {np : String} {nodes : List String}
  {opts : LoadBalancerNodePoolsOptions} {lb : LBcluster} {nps : List NodePool}

theorem scheduleDeletion_eq_some {ord : MapOrder} {id : TaskId} {diff : NodePoolsDiffResult}
    {te : TaskEvent}
    (h : scheduleDeletionLoadBalancerNodePools ord id s cid diff opts = .ok (some te)) :
    ∃ np nodes change, te.task = .update change.1 change.2
      ∧ (scheduleDeletionLoadBalancerNodePools.partiallyDeletedChange s cid np nodes opts = .ok change
        ∨ diff.partiallyDeleted.isEmpty = true ∧ diff.deleted[np]? = some nodes
          ∧ scheduleDeletionLoadBalancerNodePools.deletedChange s cid np nodes opts
              = .ok change) := by
  unfold scheduleDeletionLoadBalancerNodePools at h
  dsimp only at h
  split at h
  next np nodes _ _ =>
    obtain ⟨change, hchange, h⟩ := Outcome.bind_eq_ok.mp h
    cases h
    exact ⟨np, nodes, change, rfl, .inl hchange⟩
  next _ _ np nodes _ hpartially hdeleted =>
    obtain ⟨change, hchange, h⟩ := Outcome.bind_eq_ok.mp h
    cases h
    refine ⟨np, nodes, change, rfl, .inr ⟨(MapOrder.range_eq_nil ord).mp hpartially, ?_, hchange⟩⟩
    have hmem : (np, nodes) ∈ ord.range "deleted nodepools" diff.deleted := by
      rw [hdeleted]
      exact List.mem_cons_self
    exact (MapOrder.mem_range ord).mp hmem
  next => cases h

theorem scheduleDeletion_startingAt {diff : NodePoolsDiffResult} {change : Clusters × Delta}
    (hpartially : diff.partiallyDeleted.isEmpty = true) (hdeleted : diff.deleted[np]? = some nodes)
    (hchange : scheduleDeletionLoadBalancerNodePools.deletedChange s cid np nodes opts
      = .ok change) :
    ∃ te, scheduleDeletionLoadBalancerNodePools (.startingAt np) 0 s cid diff opts = .ok (some te)
      ∧ te.task = .update change.1 change.2 := by
  obtain ⟨rest, hrange⟩ := MapOrder.range_startingAt "deleted nodepools" hdeleted
  have hnil : (MapOrder.startingAt np).range "partially deleted nodepools" diff.partiallyDeleted
      = [] := (MapOrder.range_eq_nil _).mpr hpartially
  unfold scheduleDeletionLoadBalancerNodePools
  simp only [hnil, hrange, hchange, Outcome.ok_bind]
  exact ⟨_, rfl, rfl⟩

end scheduled

namespace Deletion

variable {s : Clusters} {withNodePool : Bool} {nodepool handle : String} {nodes : List String}
  {unreachable : Option Unreachable} {t : Task}

end Deletion

namespace Demo.DeletedNodes

def node : Node := ⟨"edge-01", "", "203.0.113.7", .worker, "root", .preparing, 22, 51820⟩

def edge : NodePool :=
  ⟨.static ⟨Std.ExtTreeMap.ofList [("203.0.113.7", "key")]⟩, "edge", [node], false, ∅, [], ∅, 22⟩

def lb : LBcluster := ⟨⟨"lb", "abc1234", [edge]⟩, [], none, "main", false⟩

def tracked : Tracked where
  state := ⟨some ⟨⟨"main", "xyz5678", []⟩, "", "", "", ⟨"", "", ""⟩⟩, [lb]⟩
  attached := by
    intro k8s hk8s lb hlb
    cases hk8s
    cases List.mem_singleton.mp hlb
    rfl

def diff : NodePoolsDiffResult := { deleted := Std.ExtTreeMap.ofList [("edge", ["edge-01"])] }

end Demo.DeletedNodes

end Manager

end Claudie
