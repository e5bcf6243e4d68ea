import Mathlib.Data.List.Nodup
import Mathlib.Logic.Relation

/-!
`nodes/delete.go` of the kuber service: the nodes of a request leave the kubernetes cluster one
after the other, a control node leaves etcd first.
-/

namespace Claudie

namespace Kuber

structure Member where
  id : String
  name : String
  deriving DecidableEq

-- What `kubectl` and `etcdctl` change.
structure Cluster where
  nodes : List String
  -- to the end, or until the timeout.
  drained : List String
  members : List Member

inductive Drain where
  | drained
  | timeout
  | failed (err : String)

-- A call that fails may have been carried out all the same.
structure Answer where
  done : Bool
  error : Option String
  done_of_ok : error = none → done = true

-- The label `claudie.io/upgrade-lock` of nodes, and how the calls of one run end.
structure Kubectl where
  upgradeLock : List String
  getNodeNames : Option String
  nodeHasLabel : Cluster → String → Option String
  cordon : Cluster → String → Option String
  drain : Cluster → String → Drain
  getEtcdPods : Cluster → String → Except String String
  memberList : Cluster → String → Option String
  memberRemove : Cluster → String → Answer
  deleteNode : Cluster → String → Answer

structure Deleter where
  masterNodes : List String
  workerNodes : List String
  controlNode : String

structure Run where
  cluster : Cluster
  errDel : List String
  locked : Bool
  -- the error of a return within a loop.
  returned : Option String

def Run.errors (run : Run) : List String :=
  match run.returned with
  | some err => [err]
  | none =>
    run.errDel ++ if run.locked then ["nodes with claudie.io/upgrade-lock label skipped, "
      ++ "waiting for operator to remove label"] else []

def Run.drain (run : Run) (node : String) : Run :=
  { run with cluster.drained := node :: run.cluster.drained }

def deleteNodesByName (kc : Kubectl) (c : Cluster) (node : String) : Cluster × Option String :=
  let answer := kc.deleteNode c node
  (if answer.done then { c with nodes := c.nodes.filter (· ≠ node) } else c,
    answer.error.map (fun err => s!"error while deleting node {node} from cluster: {err}"))

def deleteFromEtcd (kc : Kubectl) (controlNode : String) (c : Cluster) (node : String) :
    Cluster × Option String :=
  match kc.getEtcdPods c controlNode with
  | .error err => (c, some s!"cannot find etcd pods in cluster: {err}")
  | .ok pod =>
    match kc.memberList c pod with
    | some err => (c, some s!"cannot find etcd members in cluster: {err}")
    | none =>
      match c.members.find? (·.name = node) with
      | none => (c, none)
      | some member =>
        let answer := kc.memberRemove c member.id
        (if answer.done then { c with members := c.members.filter (· ≠ member) } else c,
          answer.error.map (fun err => "error while executing \"etcdctl member remove\" on node "
            ++ s!"{member.name}, cluster: {err}"))

def deleteMaster (kc : Kubectl) (controlNode : String) (run : Run) (node : String) : Run :=
  match deleteFromEtcd kc controlNode run.cluster node with
  | (cluster, some err) =>
    { run with cluster, returned := some s!"error while deleting nodes from etcd: {err}" }
  | (cluster, none) =>
    let (cluster, err) := deleteNodesByName kc cluster node
    { run with
      cluster
      returned := err.map (fun err => s!"error while deleting nodes from master nodes: {err}") }

def deleteWorker (kc : Kubectl) (run : Run) (node : String) : Run :=
  let (cluster, err) := deleteNodesByName kc run.cluster node
  { run with
    cluster
    errDel := run.errDel
      ++ (err.map (fun err => s!"error while deleting node {node} from cluster: {err}")).toList }

-- The two loops do the same with a node until it is drained.
def visit (kc : Kubectl) (k8snodes : List String) (kind : String) (delete : Run → String → Run)
    (run : Run) (node : String) : Run :=
  if run.returned.isSome || node ∉ k8snodes then run
  else if (kc.nodeHasLabel run.cluster node).isSome || node ∈ kc.upgradeLock then
    { run with locked := true }
  else
    match kc.cordon run.cluster node with
    | some err => { run with
        errDel := run.errDel ++ [s!"error while cordon {kind} node {node} from cluster: {err}"] }
    | none =>
      match kc.drain run.cluster node with
      | .failed err =>
        { run with returned := some s!"error while draining node {node} from cluster: {err}" }
      | _ => delete (run.drain node) node

def Deleter.deleteNodes (d : Deleter) (kc : Kubectl) (c : Cluster) : Cluster × List String :=
  match kc.getNodeNames with
  | some err => (c, [s!"error while getting nodes from cluster: {err}"])
  | none =>
    let run := d.masterNodes.foldl (visit kc c.nodes "master" (deleteMaster kc d.controlNode))
      ⟨c, [], false, none⟩
    let run := d.workerNodes.foldl (visit kc c.nodes "worker" (deleteWorker kc)) run
    (run.cluster, run.errors)

structure Cluster.Consistent (c : Cluster) : Prop where
  names : (c.members.map (·.name)).Nodup
  nodes : ∀ m ∈ c.members, m.name ∈ c.nodes

section steps

variable {d : Deleter} {kc : Kubectl} {c c' : Cluster} {run : Run} {node : String}

/--
The steps in which a node leaves the cluster. It is drained unless it is locked, and deleted when it
is not a member of etcd.
-/
inductive Step (d : Deleter) (kc : Kubectl) (c : Cluster) : Cluster → Prop
  | drain (node : String) (hlock : node ∉ kc.upgradeLock) :
    Step d kc c { c with drained := node :: c.drained }
  | remove (member : Member) (hmaster : member.name ∈ d.masterNodes)
    (hdrained : member.name ∈ c.drained) (hlock : member.name ∉ kc.upgradeLock) :
    Step d kc c { c with members := c.members.filter (· ≠ member) }
  | delete (node : String) (hnode : node ∈ d.masterNodes ++ d.workerNodes)
    (hdrained : node ∈ c.drained) (hlock : node ∉ kc.upgradeLock)
    (hmembers : ∀ m ∈ c.members, m.name ≠ node) :
    Step d kc c { c with nodes := c.nodes.filter (· ≠ node) }

abbrev Steps (d : Deleter) (kc : Kubectl) := Relation.ReflTransGen (Step d kc)

-- What the steps made of the cluster `c`.
structure Deletes (d : Deleter) (kc : Kubectl) (c c' : Cluster) : Prop where
  consistent : c'.Consistent
  nodes_subset : c'.nodes ⊆ c.nodes
  members_subset : c'.members ⊆ c.members
  node : ∀ n ∈ c.nodes, n ∉ c'.nodes →
    n ∈ d.masterNodes ++ d.workerNodes ∧ n ∈ c'.drained ∧ n ∉ kc.upgradeLock
  member : ∀ m ∈ c.members, m ∉ c'.members →
    m.name ∈ d.masterNodes ∧ m.name ∈ c'.drained ∧ m.name ∉ kc.upgradeLock

theorem deletes_of_steps (hc : c.Consistent) (h : Steps d kc c c') : Deletes d kc c c' := by
  induction h with
  | refl => exact ⟨hc, fun _ hn => hn, fun _ hm => hm, fun n hn h => absurd hn h,
      fun m hm h => absurd hm h⟩
  | tail _ hstep ih =>
    obtain ⟨hc, hnodes, hmembers, hnode, hmember⟩ := ih
    cases hstep with
    | drain node hlock => exact ⟨⟨hc.names, hc.nodes⟩, hnodes, hmembers, by grind, by grind⟩
    | remove member hmaster hdrained hlock =>
      refine ⟨⟨hc.names.sublist (List.filter_sublist.map _), ?_⟩, hnodes, ?_, hnode, ?_⟩
      · exact fun m hm => hc.nodes m (List.mem_filter.mp hm).1
      · exact fun m hm => hmembers (List.mem_filter.mp hm).1
      · grind
    | delete node hrequested hdrained hlock hno =>
      refine ⟨⟨hc.names, ?_⟩, fun n hn => hnodes (List.mem_filter.mp hn).1, hmembers, ?_, hmember⟩
      · exact fun m hm => List.mem_filter.mpr ⟨hc.nodes m hm, decide_eq_true (hno m hm)⟩
      · grind

def Run.Clean (run : Run) : Prop := run.errDel = [] ∧ run.locked = false ∧ run.returned = none

theorem Run.clean_of_errors (h : run.errors = []) : run.Clean := by
  unfold Run.errors at h
  split at h
  next => cases h
  next hreturned =>
    obtain ⟨herr, hlocked⟩ := List.append_eq_nil_iff.mp h
    refine ⟨herr, Bool.eq_false_iff.mpr (fun hlock => ?_), hreturned⟩
    rw [if_pos hlock] at hlocked
    cases hlocked

-- A node is gone if no error was added.
structure Visited (d : Deleter) (kc : Kubectl) (node : String) (run run' : Run) : Prop where
  steps : Steps d kc run.cluster run'.cluster
  clean : run'.Clean → run.Clean ∧ node ∉ run'.cluster.nodes

theorem deleteNodesByName_spec (hnode : node ∈ d.masterNodes ++ d.workerNodes)
    (hdrained : node ∈ c.drained) (hlock : node ∉ kc.upgradeLock)
    (hmembers : ∀ m ∈ c.members, m.name ≠ node) :
    Steps d kc c (deleteNodesByName kc c node).1
      ∧ ((deleteNodesByName kc c node).2 = none →
        node ∉ (deleteNodesByName kc c node).1.nodes) := by
  unfold deleteNodesByName
  constructor
  · dsimp only
    split
    next => exact .single (.delete node hnode hdrained hlock hmembers)
    next => exact .refl
  · intro h
    simp [(kc.deleteNode c node).done_of_ok (Option.map_eq_none_iff.mp h)]

theorem deleteFromEtcd_spec (hc : c.Consistent) (hnode : node ∈ d.masterNodes)
    (hdrained : node ∈ c.drained) (hlock : node ∉ kc.upgradeLock) {err : Option String}
    {controlNode : String} (h : deleteFromEtcd kc controlNode c node = (c', err)) :
    Steps d kc c c' ∧ c'.drained = c.drained
      ∧ (err = none → ∀ m ∈ c'.members, m.name ≠ node) := by
  unfold deleteFromEtcd at h
  split at h
  next =>
    cases h
    exact ⟨.refl, rfl, by simp⟩
  next =>
    split at h
    next =>
      cases h
      exact ⟨.refl, rfl, by simp⟩
    next =>
      split at h
      next hnone =>
        cases h
        refine ⟨.refl, rfl, fun _ m hm => ?_⟩
        simpa using List.find?_eq_none.mp hnone m hm
      next member hfind =>
        obtain rfl : member.name = node := by simpa using List.find?_some hfind
        obtain ⟨rfl, rfl⟩ := Prod.mk.inj h
        split
        next =>
          refine ⟨.single (.remove member hnode hdrained hlock), rfl, fun _ m hm hname => ?_⟩
          obtain ⟨hm, hne⟩ := List.mem_filter.mp hm
          have heq := List.inj_on_of_nodup_map hc.names hm (List.mem_of_find?_eq_some hfind) hname
          exact of_decide_eq_true hne heq
        next hdone =>
          refine ⟨.refl, rfl, fun herr => absurd ?_ hdone⟩
          exact Answer.done_of_ok _ (Option.map_eq_none_iff.mp herr)

theorem deleteMaster_visited (hc : run.cluster.Consistent) (hnode : node ∈ d.masterNodes)
    (hdrained : node ∈ run.cluster.drained) (hlock : node ∉ kc.upgradeLock)
    (hreturned : run.returned = none) {controlNode : String} :
    Visited d kc node run (deleteMaster kc controlNode run node) := by
  unfold deleteMaster
  split
  next heq =>
    exact ⟨(deleteFromEtcd_spec hc hnode hdrained hlock heq).1, fun hclean => by cases hclean.2.2⟩
  next heq =>
    obtain ⟨hsteps, hdrained', hmembers⟩ := deleteFromEtcd_spec hc hnode hdrained hlock heq
    obtain ⟨hsteps', hgone⟩ := deleteNodesByName_spec (List.mem_append_left _ hnode)
      (hdrained' ▸ hdrained) hlock (hmembers rfl)
    refine ⟨hsteps.trans hsteps', fun hclean => ?_⟩
    obtain ⟨herr, hlocked, hnone⟩ := hclean
    exact ⟨⟨herr, hlocked, hreturned⟩, hgone (Option.map_eq_none_iff.mp hnone)⟩

theorem deleteWorker_visited (hnode : node ∈ d.workerNodes)
    (hdrained : node ∈ run.cluster.drained) (hlock : node ∉ kc.upgradeLock)
    (hmembers : ∀ m ∈ run.cluster.members, m.name ≠ node) :
    Visited d kc node run (deleteWorker kc run node) := by
  obtain ⟨hsteps, hgone⟩ := deleteNodesByName_spec (List.mem_append_right _ hnode) hdrained hlock
    hmembers
  refine ⟨hsteps, fun hclean => ?_⟩
  obtain ⟨herr, hlocked, hreturned⟩ := hclean
  obtain ⟨herr, hnone⟩ := List.append_eq_nil_iff.mp herr
  rw [Option.toList_eq_nil_iff, Option.map_eq_none_iff] at hnone
  exact ⟨⟨herr, hlocked, hreturned⟩, hgone hnone⟩

theorem visit_visited {k8snodes : List String} {kind : String} {delete : Run → String → Run}
    (hnodes : run.cluster.nodes ⊆ k8snodes)
    (hdelete : node ∉ kc.upgradeLock → run.returned = none →
      Visited d kc node (run.drain node) (delete (run.drain node) node)) :
    Visited d kc node run (visit kc k8snodes kind delete run node) := by
  unfold visit
  split
  next hskip =>
    refine ⟨.refl, fun hclean => ⟨hclean, fun hn => ?_⟩⟩
    simp [hclean.2.2, hnodes hn] at hskip
  next hskip =>
    split
    next => exact ⟨.refl, fun hclean => by cases hclean.2.1⟩
    next hlock =>
      split
      next => exact ⟨.refl, fun hclean => absurd hclean.1 (by simp)⟩
      next =>
        split
        next => exact ⟨.refl, fun hclean => by cases hclean.2.2⟩
        next =>
          simp only [Bool.or_eq_true, not_or, Option.not_isSome_iff_eq_none,
            decide_eq_true_eq] at hskip hlock
          obtain ⟨hsteps, hclean⟩ := hdelete hlock.2 hskip.1
          exact ⟨.head (.drain node hlock.2) hsteps, hclean⟩

-- The loops keep that the nodes visited so far are gone, as long as there is no error.
theorem foldl_visited (run : Run) (before : List String) {f : Run → String → Run}
    {nodes : List String} (hc : c.Consistent)
    (hf : ∀ run, Deletes d kc c run.cluster → ∀ node ∈ nodes, Visited d kc node run (f run node))
    (hsteps : Steps d kc c run.cluster)
    (hclean : run.Clean → ∀ n ∈ before, n ∉ run.cluster.nodes) :
    Steps d kc c (nodes.foldl f run).cluster
      ∧ ((nodes.foldl f run).Clean →
        ∀ n ∈ before ++ nodes, n ∉ (nodes.foldl f run).cluster.nodes) := by
  induction nodes generalizing run before with
  | nil => exact ⟨hsteps, by simpa using hclean⟩
  | cons node nodes ih =>
    have hvisited := hf run (deletes_of_steps hc hsteps) node List.mem_cons_self
    rw [List.append_cons]
    refine ih _ _ (fun run h n hn => hf run h n (List.mem_cons_of_mem _ hn))
      (hsteps.trans hvisited.steps) (fun hclean' n hn => ?_)
    obtain ⟨hrun, hgone⟩ := hvisited.clean hclean'
    rcases List.mem_append.mp hn with hn | hn
    · have hdeletes := deletes_of_steps (deletes_of_steps hc hsteps).consistent hvisited.steps
      exact fun hmem => hclean hrun n hn (hdeletes.nodes_subset hmem)
    · rwa [List.mem_singleton.mp hn]

/--
Whatever calls fail: a node that leaves the cluster is one of the request, without a lock, and was
drained; no member of etcd is left without its node, and if no error is returned all are gone.
-/
theorem nodes_are_deleted (hc : c.Consistent) (hworkers : ∀ m ∈ c.members, m.name ∉ d.workerNodes)
    {errs : List String} (h : d.deleteNodes kc c = (c', errs)) :
    Deletes d kc c c' ∧ (errs = [] → ∀ n ∈ d.masterNodes ++ d.workerNodes, n ∉ c'.nodes) := by
  unfold Deleter.deleteNodes at h
  split at h
  next =>
    cases h
    exact ⟨deletes_of_steps hc .refl, by simp⟩
  next =>
    obtain ⟨rfl, rfl⟩ := Prod.mk.inj h
    have master : ∀ run, Deletes d kc c run.cluster → ∀ node ∈ d.masterNodes, Visited d kc node run
        (visit kc c.nodes "master" (deleteMaster kc d.controlNode) run node) := by
      intro run hrun node hnode
      refine visit_visited hrun.nodes_subset (fun hlock hreturned => ?_)
      have hc : (run.drain node).cluster.Consistent :=
        ⟨hrun.consistent.names, hrun.consistent.nodes⟩
      exact deleteMaster_visited hc hnode List.mem_cons_self hlock hreturned
    have worker : ∀ run, Deletes d kc c run.cluster → ∀ node ∈ d.workerNodes, Visited d kc node run
        (visit kc c.nodes "worker" (deleteWorker kc) run node) := by
      intro run hrun node hnode
      refine visit_visited hrun.nodes_subset (fun hlock _ => ?_)
      refine deleteWorker_visited hnode List.mem_cons_self hlock (fun m hm hname => ?_)
      exact hworkers m (hrun.members_subset hm) (hname ▸ hnode)
    have hmasters := foldl_visited ⟨c, [], false, none⟩ [] hc master .refl (by simp)
    have hall := foldl_visited _ _ hc worker hmasters.1 hmasters.2
    exact ⟨deletes_of_steps hc hall.1, fun herr => hall.2 (Run.clean_of_errors herr)⟩

end steps

namespace Demo

-- No call fails, and the second control node is locked.
def kubectl : Kubectl where
  upgradeLock := ["control-02"]
  getNodeNames := none
  nodeHasLabel _ _ := none
  cordon _ _ := none
  drain _ _ := .drained
  getEtcdPods _ node := .ok ("etcd-" ++ node)
  memberList _ _ := none
  memberRemove _ _ := ⟨true, none, fun _ => rfl⟩
  deleteNode _ _ := ⟨true, none, fun _ => rfl⟩

def cluster : Cluster where
  nodes := ["control-01", "control-02", "compute-01"]
  drained := []
  members := [⟨"8e9e05c52164694d", "control-01"⟩, ⟨"91bc3c398fb3c146", "control-02"⟩]

def deleter : Deleter := ⟨["control-01"], ["compute-01"], "control-02"⟩

end Demo

theorem nodes_are_deleted_demo :
    ∃ c', Demo.deleter.deleteNodes Demo.kubectl Demo.cluster = (c', [])
      ∧ c'.nodes = ["control-02"] ∧ Deletes Demo.deleter Demo.kubectl Demo.cluster c' := by
  refine ⟨_, rfl, rfl, (nodes_are_deleted ⟨by decide, by decide⟩ (by decide) rfl).1⟩

end Kuber

end Claudie
