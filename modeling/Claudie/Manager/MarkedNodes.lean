import Claudie.Lemmas.NodePools
import Claudie.Lib.Keyed
import Claudie.Manager.Handlers
import Claudie.Manager.Surplus

/-!
Requests to mark nodes for deletion, one after the other. Each one that is accepted lowers the target
size, also if the node it names was marked before.
-/

namespace Claudie

namespace Manager

namespace NodePoolRef

def find (r : NodePoolRef) (c : Clusters) : Option NodePool :=
  match r.loadbalancer with
  | none => NodePools.findByName r.nodepool c.kubernetesNodePools
  | some lb => (Clusters.findLoadbalancerById lb c.loadBalancers).bind (fun lb =>
      NodePools.findByName r.nodepool lb.clusterInfo.nodePools)

def nodePool? (r : NodePoolRef) (cfg : Config) : Option NodePool :=
  (cfg.clusters[r.cluster]?).bind (fun cs => r.find cs.current)

def isOpen (r : NodePoolRef) (cfg : Config) : Bool :=
  r.isValid && (cfg.clusters[r.cluster]?).any (fun cs =>
    cs.current.k8s.isSome && cs.inFlight.isEmpty)

end NodePoolRef

def attempt (r : NodePoolRef) (cfg : Config) (request : String × Bool) : Config :=
  if r.isValid && request.1 ≠ "" then
    match markNodeForDeletion ⟨r, request.1, true⟩ cfg with
    | .error _ => cfg
    | .ok cfg' => if request.2 then { cfg' with version := cfg.version + 1 } else cfg
  else cfg

def newlyMarked (np np' : NodePool) : Nat :=
  (np.nodes.zip np'.nodes).countP (fun (n, n') => !n.isMarked && n'.isMarked)

def reaches (np : NodePool) (request : String × Bool) : Bool :=
  request.1 ≠ "" && request.2 && np.nodes.any (·.name = request.1)

def acceptedNodes (np : NodePool) (conf : AutoscalerConf) (requests : List (String × Bool)) :
    List String :=
  ((requests.filter (reaches np)).map (·.1)).take (conf.targetSize - conf.min).toNat

section Lookup

variable {r : NodePoolRef} {f : NodePool → Outcome NodePool} {cfg : Config} {np : NodePool}

theorem findIdx?_of_find? {α : Type} {p : α → Bool} {l : List α} {a : α}
    (h : l.find? p = some a) : ∃ i, l.findIdx? p = some i ∧ l[i]? = some a := by
  obtain ⟨i, hi⟩ : ∃ i, l.findIdx? p = some i := by
    refine Option.isSome_iff_exists.mp ?_
    rw [List.findIdx?_isSome, List.any_eq_true]
    exact ⟨a, List.mem_of_find?_eq_some h, List.find?_some h⟩
  refine ⟨i, hi, ?_⟩
  rw [← h, List.find?_eq_getElem?_findIdx, (List.findIdx?_eq_some_iff_findIdx_eq.mp hi).2]

theorem modifyNodePool_eq {nps : List NodePool}
    (hnp : NodePools.findByName r.nodepool nps = some np) :
    ∃ i, nps.findIdx? (·.name = r.nodepool) = some i
      ∧ modifyNodePool r f nps = (f np).bind (fun np' => .ok (nps.set i np')) := by
  obtain ⟨i, hi, hat⟩ := findIdx?_of_find? hnp
  refine ⟨i, hi, ?_⟩
  rw [modifyNodePool, if_pos (Option.isSome_of_eq_some hnp), NodePools.modifyByName_eq_modifyKey,
    List.modifyKey_of_findIdx? hi hat]

theorem findByName_set {nps : List NodePool} {name : String} {i : Nat} {np' : NodePool}
    (hnp : NodePools.findByName name nps = some np)
    (hi : nps.findIdx? (·.name = name) = some i) (hname : np'.name = name) :
    NodePools.findByName name (nps.set i np') = some np' := by
  rw [List.set_eq_modifyFirst hi]
  exact List.find?_modifyFirst hnp (decide_eq_true hname)

theorem findLoadbalancerById_set {lbs : List LBcluster} {id : String} {i : Nat} {lb : LBcluster}
    (hlb : Clusters.findLoadbalancerById id lbs = some lb)
    (hi : lbs.findIdx? (·.id = id) = some i) (nps : List NodePool) :
    Clusters.findLoadbalancerById id (lbs.set i (LBcluster.withNodePools lb nps))
      = some (LBcluster.withNodePools lb nps) := by
  rw [List.set_eq_modifyFirst hi]
  exact List.find?_modifyFirst hlb (List.find?_some hlb :)

theorem modifyCurrentNodePool_of_find {cs : ClusterState} (hk8s : cs.current.k8s.isSome = true)
    (hin : cs.inFlight = []) (hnp : r.find cs.current = some np)
    (hname : ∀ np', f np = .ok np' → np'.name = np.name) :
    (∃ e, f np = .error e ∧ modifyCurrentNodePool r f cs = .error e)
      ∨ ∃ np' cs', f np = .ok np' ∧ modifyCurrentNodePool r f cs = .ok cs'
        ∧ cs'.current.k8s.isSome = true ∧ cs'.inFlight = [] ∧ r.find cs'.current = some np' := by
  obtain ⟨k8s, hk8s⟩ := Option.isSome_iff_exists.mp hk8s
  unfold modifyCurrentNodePool
  rw [hk8s, hin]
  unfold NodePoolRef.find at hnp ⊢
  dsimp only
  cases hlb : r.loadbalancer with
  | none =>
    rw [hlb] at hnp
    dsimp only at hnp
    have hpools : cs.current.kubernetesNodePools = k8s.clusterInfo.nodePools := by
      rw [Clusters.kubernetesNodePools, hk8s]
      rfl
    rw [hpools] at hnp
    have hfound : np.name = r.nodepool := by simpa using List.find?_some hnp
    obtain ⟨i, hi, hmodify⟩ := @modifyNodePool_eq r f np _ hnp
    dsimp only
    rw [hmodify]
    cases hf : f np with
    | error e => exact .inl ⟨e, rfl, rfl⟩
    | ok np' =>
      exact .inr ⟨np', _, rfl, rfl, rfl, rfl, findByName_set hnp hi ((hname np' hf).trans hfound)⟩
  | some id =>
    rw [hlb] at hnp
    obtain ⟨lb, hlb, hnp⟩ := Option.bind_eq_some_iff.mp hnp
    have hfound : np.name = r.nodepool := by simpa using List.find?_some hnp
    obtain ⟨i, hi, hat⟩ := findIdx?_of_find? hlb
    obtain ⟨j, hj, hmodify⟩ := @modifyNodePool_eq r f np _ hnp
    dsimp only
    rw [Clusters.indexLoadbalancerById, hi]
    dsimp only
    rw [modifyLoadBalancerAt, hat, Outcome.deref_some, Outcome.ok_bind, hmodify]
    cases hf : f np with
    | error e => exact .inl ⟨e, rfl, rfl⟩
    | ok np' =>
      refine .inr ⟨np', _, rfl, rfl, Option.isSome_of_eq_some hk8s, rfl, ?_⟩
      dsimp only
      rw [findLoadbalancerById_set hlb hi, Option.bind_some]
      exact findByName_set hnp hj ((hname np' hf).trans hfound)

theorem modifyConfigNodePool_of_nodePool? (hopen : r.isOpen cfg = true)
    (hnp : r.nodePool? cfg = some np) (hname : ∀ np', f np = .ok np' → np'.name = np.name) :
    (∃ e, f np = .error e ∧ modifyConfigNodePool r f cfg = .error e)
      ∨ ∃ np' cfg', f np = .ok np' ∧ modifyConfigNodePool r f cfg = .ok cfg'
        ∧ ∀ version, r.isOpen { cfg' with version } = true
          ∧ r.nodePool? { cfg' with version } = some np' := by
  unfold NodePoolRef.isOpen at hopen
  obtain ⟨cs, hcs, hnp⟩ := Option.bind_eq_some_iff.mp hnp
  rw [hcs, Option.any_some, Bool.and_eq_true, Bool.and_eq_true] at hopen
  obtain ⟨hvalid, hk8s, hin⟩ := hopen
  unfold modifyConfigNodePool
  rw [hcs]
  dsimp only
  rcases modifyCurrentNodePool_of_find hk8s (List.isEmpty_iff.mp hin) hnp hname with
    ⟨e, hf, hmodify⟩ | ⟨np', cs', hf, hmodify, hk8s', hin', hnp'⟩
  · rw [hmodify]
    exact .inl ⟨e, hf, rfl⟩
  · rw [hmodify]
    refine .inr ⟨np', _, hf, rfl, fun version => ⟨?_, ?_⟩⟩
    · unfold NodePoolRef.isOpen
      rw [hvalid, GoMap.getElem?_insert, if_pos rfl, Option.any_some, hk8s', hin']
      rfl
    · unfold NodePoolRef.nodePool?
      rw [GoMap.getElem?_insert, if_pos rfl, Option.bind_some]
      exact hnp'

theorem modifyConfigNodePool_of_not_open (hvalid : r.isValid = true) (hopen : r.isOpen cfg = false) :
    ∃ e, modifyConfigNodePool r f cfg = .error e := by
  unfold NodePoolRef.isOpen at hopen
  rw [hvalid, Bool.true_and] at hopen
  unfold modifyConfigNodePool
  split
  next => exact ⟨_, rfl⟩
  next cs hcs =>
    rw [hcs, Option.any_some] at hopen
    unfold modifyCurrentNodePool
    cases hk8s : cs.current.k8s with
    | none => exact ⟨_, rfl⟩
    | some k8s =>
      cases hin : cs.inFlight with
      | nil =>
        rw [hk8s, hin] at hopen
        cases hopen
      | cons te lower => exact ⟨_, rfl⟩

end Lookup

section Nodes

variable {nodes : List Node} {name : String}

def markFirst (name : String) (nodes : List Node) : List Node :=
  nodes.modifyFirst (·.name = name) (fun n => { n with status := .markedForDeletion })

def NotYetMarked (nodes : List Node) (name : String) : Prop :=
  ∀ n ∈ nodes.find? (·.name = name), n.status ≠ .markedForDeletion

instance : Decidable (NotYetMarked nodes name) :=
  inferInstanceAs (Decidable (∀ n ∈ nodes.find? (·.name = name), n.status ≠ .markedForDeletion))

theorem markFirst_names : (markFirst name nodes).map (·.name) = nodes.map (·.name) :=
  List.map_modifyFirst_of_eq (fun _ _ => rfl)

theorem markFirst_forall₂ : List.Forall₂ Node.MarksTo nodes (markFirst name nodes) := by
  unfold markFirst
  induction nodes with
  | nil => exact .nil
  | cons n nodes ih =>
    rw [List.modifyFirst_cons]
    split
    next => exact .cons (.inr rfl) (List.forall₂_same.mpr (fun n _ => .inl rfl))
    next => exact .cons (.inl rfl) ih

theorem countP_markFirst {n : Node} (hn : nodes.find? (·.name = name) = some n) :
    (markFirst name nodes).countP Node.isMarked + (if n.isMarked then 1 else 0)
      = nodes.countP Node.isMarked + 1 :=
  List.countP_modifyFirst hn

theorem notYetMarked_markFirst_of_ne {name' : String} (hne : name' ≠ name) :
    NotYetMarked (markFirst name nodes) name' ↔ NotYetMarked nodes name' := by
  unfold NotYetMarked markFirst
  rw [List.find?_modifyFirst_of_not (fun n hn => ?_)]
  have hn : n.name = name := of_decide_eq_true hn
  exact ⟨decide_eq_false (hn ▸ Ne.symm hne), decide_eq_false (hn ▸ Ne.symm hne)⟩

theorem not_notYetMarked_markFirst {n : Node} (hn : nodes.find? (·.name = name) = some n) :
    ¬ NotYetMarked (markFirst name nodes) name :=
  fun h => h _ (List.find?_modifyFirst hn (List.find?_some hn :)) rfl

def Fresh (nodes : List Node) (names : List String) : Prop :=
  names.Nodup ∧ ∀ name ∈ names, NotYetMarked nodes name

theorem fresh_cons {n : Node} (hn : nodes.find? (·.name = name) = some n) (names : List String) :
    Fresh nodes (name :: names) ↔ n.isMarked = false ∧ Fresh (markFirst name nodes) names := by
  have hunmarked : NotYetMarked nodes name ↔ n.isMarked = false := by
    unfold NotYetMarked
    rw [hn]
    simp [Node.isMarked]
  unfold Fresh
  rw [List.nodup_cons, List.forall_mem_cons, hunmarked]
  constructor
  · rintro ⟨⟨hname, hnodup⟩, hn, hnames⟩
    refine ⟨hn, hnodup, fun name' hmem => ?_⟩
    have hne : name' ≠ name := fun heq => hname (heq ▸ hmem)
    exact (notYetMarked_markFirst_of_ne hne).mpr (hnames name' hmem)
  · rintro ⟨hunmarked, hnodup, hnames⟩
    have hname : name ∉ names := fun hmem => not_notYetMarked_markFirst hn (hnames name hmem)
    refine ⟨⟨hname, hnodup⟩, hunmarked, fun name' hmem => ?_⟩
    have hne : name' ≠ name := fun heq => hname (heq ▸ hmem)
    exact (notYetMarked_markFirst_of_ne hne).mp (hnames name' hmem)

theorem forall₂_marksTo_trans {l₁ l₂ l₃ : List Node} (h : List.Forall₂ Node.MarksTo l₁ l₂)
    (h' : List.Forall₂ Node.MarksTo l₂ l₃) : List.Forall₂ Node.MarksTo l₁ l₃ := by
  induction h generalizing l₃ with
  | nil => exact h'
  | cons hn _ ih =>
    cases h' with
    | cons hn' h' =>
      refine .cons ?_ (ih h')
      rcases hn with rfl | rfl
      · exact hn'
      · rcases hn' with rfl | rfl
        · exact .inr rfl
        · exact .inr rfl

theorem countP_of_forall₂ {nodes' : List Node} (h : List.Forall₂ Node.MarksTo nodes nodes') :
    nodes'.countP Node.isMarked = nodes.countP Node.isMarked
      + (nodes.zip nodes').countP (fun (n, n') => !n.isMarked && n'.isMarked) := by
  induction h with
  | nil => rfl
  | @cons n n' nodes nodes' hn _ ih =>
    rw [List.zip_cons_cons, List.countP_cons, List.countP_cons, List.countP_cons, ih]
    have hstep : (if n'.isMarked = true then 1 else 0) = (if n.isMarked = true then 1 else 0)
        + (if (!n.isMarked && n'.isMarked) = true then 1 else 0) := by
      rcases hn with rfl | rfl
      · cases n'.isMarked <;> rfl
      · cases n.isMarked <;> rfl
    rw [hstep]
    exact Nat.add_add_add_comm ..

end Nodes

section Requests

variable {r : NodePoolRef} {cfg : Config} {np : NodePool} {d : DynamicNodePool}
  {conf : AutoscalerConf} {name : String} {requests : List (String × Bool)}

def NodePool.marked (np : NodePool) (d : DynamicNodePool) (conf : AutoscalerConf) (name : String) :
    NodePool :=
  { np with
    nodes := markFirst name np.nodes
    type := .dynamic { d with
      autoscalerConfig := some { conf with targetSize := conf.targetSize - 1 } } }

theorem markNode_of_not_mem (h : np.nodes.any (·.name = name) = false) :
    ∃ e, markNode ⟨r, name, true⟩ np = .error e := by
  have hnone : np.nodes.findIdx? (·.name = name) = none := by
    rw [List.findIdx?_eq_none_iff]
    simpa using h
  unfold markNode
  rw [hnone]
  exact ⟨_, rfl⟩

theorem markNode_of_mem (hd : np.type = .dynamic d) (hconf : d.autoscalerConfig = some conf)
    {n : Node} (hn : np.nodes.find? (·.name = name) = some n) :
    markNode ⟨r, name, true⟩ np = (decrementTargetSize r.nodepool conf).bind (fun _ =>
      .ok (NodePool.marked np d conf name)) := by
  obtain ⟨i, hi, -⟩ := findIdx?_of_find? hn
  unfold markNode
  rw [hi]
  dsimp only
  rw [hd]
  dsimp only
  rw [hconf]
  dsimp only
  rw [List.modify_eq_modifyFirst hi]
  unfold decrementTargetSize
  split <;> rfl

theorem markNode_name {request : MarkNodeForDeletionRequest} {np' : NodePool}
    (h : markNode request np = .ok np') : np'.name = np.name := by
  unfold markNode at h
  split at h
  next => cases h
  next =>
    dsimp only at h
    split at h
    next =>
      split at h
      next =>
        obtain ⟨conf, -, h⟩ := Outcome.bind_eq_ok.mp h
        cases h
        rfl
      next =>
        cases h
        rfl
    next =>
      cases h
      rfl

theorem attempt_of_error {request : String × Bool} {e : Fault}
    (h : markNodeForDeletion ⟨r, request.1, true⟩ cfg = .error e) :
    attempt r cfg request = cfg := by
  unfold attempt
  rw [h]
  split <;> rfl

theorem attempt_of_not_open {request : String × Bool} (h : r.isOpen cfg = false) :
    attempt r cfg request = cfg := by
  unfold attempt
  split
  next hvalid =>
    obtain ⟨e, he⟩ : ∃ e, markNodeForDeletion ⟨r, request.1, true⟩ cfg = .error e :=
      modifyConfigNodePool_of_not_open (Bool.and_eq_true_iff.mp hvalid).1 h
    rw [he]
  next => rfl

theorem attempt_of_not_reaches (hopen : r.isOpen cfg = true) (hnp : r.nodePool? cfg = some np)
    {request : String × Bool} (hreaches : reaches np request = false) :
    attempt r cfg request = cfg := by
  cases hmem : np.nodes.any (·.name = request.1) with
  | false =>
    obtain ⟨e, he⟩ := @markNode_of_not_mem r np request.1 hmem
    rcases modifyConfigNodePool_of_nodePool? hopen hnp (fun np' h => markNode_name h) with
      ⟨e', -, hconfig⟩ | ⟨np', cfg', hf, -, -⟩
    · exact attempt_of_error hconfig
    · rw [he] at hf
      cases hf
  | true =>
    unfold reaches at hreaches
    rw [hmem, Bool.and_true, Bool.and_eq_false_iff] at hreaches
    unfold attempt
    rcases hreaches with hempty | htaken
    · rw [hempty, Bool.and_false, if_neg Bool.false_ne_true]
    · rw [htaken]
      split
      · split <;> rfl
      · rfl

theorem attempt_of_reaches (hopen : r.isOpen cfg = true) (hnp : r.nodePool? cfg = some np)
    (hd : np.type = .dynamic d) (hconf : d.autoscalerConfig = some conf)
    {request : String × Bool} (hreaches : reaches np request = true) :
    (conf.targetSize - 1 < conf.min ∧ attempt r cfg request = cfg)
      ∨ conf.min ≤ conf.targetSize - 1 ∧ r.isOpen (attempt r cfg request) = true
        ∧ r.nodePool? (attempt r cfg request) = some (NodePool.marked np d conf request.1) := by
  unfold reaches at hreaches
  rw [Bool.and_eq_true, Bool.and_eq_true, List.any_eq_true] at hreaches
  obtain ⟨⟨hname, htaken⟩, hmem⟩ := hreaches
  obtain ⟨n, hn⟩ := Option.isSome_iff_exists.mp (List.find?_isSome.mpr hmem)
  have hvalid : r.isValid = true := (Bool.and_eq_true_iff.mp hopen).1
  have hmark := @markNode_of_mem r np d conf request.1 hd hconf n hn
  unfold decrementTargetSize at hmark
  rcases modifyConfigNodePool_of_nodePool? hopen hnp (fun np' h => markNode_name h) with
    ⟨e, he, hconfig⟩ | ⟨np', cfg', hf, hconfig, hafter⟩
  · refine .inl ⟨?_, attempt_of_error hconfig⟩
    rw [hmark] at he
    split at he
    next hlow => exact hlow
    next => cases he
  · rw [hmark] at hf
    split at hf
    next => cases hf
    next hlow =>
      cases hf
      have hattempt : attempt r cfg request = { cfg' with version := cfg.version + 1 } := by
        have hconfig : markNodeForDeletion ⟨r, request.1, true⟩ cfg = .ok cfg' := hconfig
        unfold attempt
        rw [hconfig, hvalid, hname, htaken]
        rfl
      rw [hattempt]
      exact .inr ⟨by omega, hafter _⟩

theorem acceptedNodes_cons (request : String × Bool) :
    acceptedNodes np conf (request :: requests)
      = if reaches np request && conf.min < conf.targetSize then
          request.1 :: acceptedNodes np { conf with targetSize := conf.targetSize - 1 } requests
        else acceptedNodes np conf requests := by
  unfold acceptedNodes
  rw [List.filter_cons]
  cases reaches np request with
  | false => rfl
  | true =>
    rw [if_pos rfl, List.map_cons, Bool.true_and]
    split
    next hlt =>
      have hlt : conf.min < conf.targetSize := of_decide_eq_true hlt
      have hbudget : (conf.targetSize - conf.min).toNat
          = (conf.targetSize - 1 - conf.min).toNat + 1 := by omega
      rw [hbudget, List.take_succ_cons]
    next hlt =>
      have hlt : ¬ conf.min < conf.targetSize := fun h => hlt (decide_eq_true h)
      have hbudget : (conf.targetSize - conf.min).toNat = 0 := by omega
      rw [hbudget, List.take_zero, List.take_zero]

theorem acceptedNodes_congr {np' : NodePool} (h : np'.nodes.map (·.name) = np.nodes.map (·.name)) :
    acceptedNodes np' conf requests = acceptedNodes np conf requests := by
  have hreaches : reaches np' = reaches np := by
    funext request
    have hany : ∀ np : NodePool, np.nodes.any (·.name = request.1)
        = (np.nodes.map (·.name)).any (· = request.1) := fun np => by
      rw [List.any_map]
      rfl
    unfold reaches
    rw [hany, hany, h]
  unfold acceptedNodes
  rw [hreaches]

theorem attempts_of_open (hopen : r.isOpen cfg = true) (hnp : r.nodePool? cfg = some np)
    (hd : np.type = .dynamic d) (hconf : d.autoscalerConfig = some conf) :
    ∃ np' d' conf', r.nodePool? (requests.foldl (attempt r) cfg) = some np'
      ∧ np'.type = .dynamic d' ∧ d'.autoscalerConfig = some conf'
      ∧ conf'.targetSize = conf.targetSize - (acceptedNodes np conf requests).length
      ∧ List.Forall₂ Node.MarksTo np.nodes np'.nodes
      ∧ np'.nodes.countP Node.isMarked
        ≤ np.nodes.countP Node.isMarked + (acceptedNodes np conf requests).length
      ∧ (np'.nodes.countP Node.isMarked
          = np.nodes.countP Node.isMarked + (acceptedNodes np conf requests).length
        ↔ Fresh np.nodes (acceptedNodes np conf requests)) := by
  induction requests generalizing cfg np d conf with
  | nil =>
    refine ⟨np, d, conf, hnp, hd, hconf, by simp [acceptedNodes],
      List.forall₂_same.mpr (fun n _ => .inl rfl), by simp [acceptedNodes], ?_⟩
    simp [acceptedNodes, Fresh]
  | cons request requests ih =>
    rw [List.foldl_cons, acceptedNodes_cons]
    cases hreaches : reaches np request with
    | false =>
      rw [attempt_of_not_reaches hopen hnp hreaches, Bool.false_and, if_neg Bool.false_ne_true]
      exact ih hopen hnp hd hconf
    | true =>
      rw [Bool.true_and]
      rcases attempt_of_reaches hopen hnp hd hconf hreaches with
        ⟨hlow, hsame⟩ | ⟨hlow, hopen', hnp'⟩
      · rw [hsame, if_neg (by simp; omega)]
        exact ih hopen hnp hd hconf
      · rw [if_pos (by simp; omega)]
        have hnames : (NodePool.marked np d conf request.1).nodes.map (·.name)
            = np.nodes.map (·.name) := markFirst_names
        obtain ⟨np', d', conf', hfinal, hd', hconf', htarget, hnodes, hle, hiff⟩ :=
          ih hopen' hnp' rfl rfl
        rw [acceptedNodes_congr hnames] at htarget hle hiff
        obtain ⟨n, hn⟩ : ∃ n, np.nodes.find? (·.name = request.1) = some n := by
          refine Option.isSome_iff_exists.mp (List.find?_isSome.mpr ?_)
          exact List.any_eq_true.mp (Bool.and_eq_true_iff.mp hreaches).2
        have hcount := countP_markFirst hn
        have hmarks : (NodePool.marked np d conf request.1).nodes = markFirst request.1 np.nodes :=
          rfl
        rw [hmarks] at hle hiff
        refine ⟨np', d', conf', hfinal, hd', hconf', ?_, ?_, ?_, ?_⟩
        · rw [htarget, List.length_cons]
          dsimp only
          omega
        · exact forall₂_marksTo_trans markFirst_forall₂ hnodes
        · rw [List.length_cons]
          omega
        · rw [fresh_cons hn, List.length_cons]
          cases hmarked : n.isMarked with
          | true =>
            rw [hmarked, if_pos rfl] at hcount
            simp only [Bool.true_eq_false, false_and, iff_false]
            omega
          | false =>
            rw [hmarked, if_neg Bool.false_ne_true] at hcount
            simp only [true_and]
            rw [← hiff]
            constructor <;> intro h <;> omega

theorem attempts_of_not_open (hopen : r.isOpen cfg = false) :
    requests.foldl (attempt r) cfg = cfg := by
  induction requests with
  | nil => rfl
  | cons request requests ih => rw [List.foldl_cons, attempt_of_not_open hopen, ih]

end Requests

theorem target_size_after_marks_iff (r : NodePoolRef) (cfg : Config) (np : NodePool)
    (d : DynamicNodePool) (conf : AutoscalerConf) (requests : List (String × Bool))
    (hnp : r.nodePool? cfg = some np) (hd : np.type = .dynamic d)
    (hconf : d.autoscalerConfig = some conf) :
    (∃ np' d' conf', r.nodePool? (requests.foldl (attempt r) cfg) = some np'
      ∧ np'.type = .dynamic d' ∧ d'.autoscalerConfig = some conf'
      ∧ conf'.targetSize = conf.targetSize - newlyMarked np np')
      ↔ (r.isOpen cfg = true → Fresh np.nodes (acceptedNodes np conf requests)) := by
  cases hopen : r.isOpen cfg with
  | false =>
    rw [attempts_of_not_open hopen]
    have hself : newlyMarked np np = 0 := by
      have h := countP_of_forall₂ (List.forall₂_same.mpr (fun n _ => .inl rfl) :
        List.Forall₂ Node.MarksTo np.nodes np.nodes)
      unfold newlyMarked
      omega
    refine iff_of_true ?_ (fun hopen => by cases hopen)
    exact ⟨np, d, conf, hnp, hd, hconf, by rw [hself]; exact (Int.sub_zero _).symm⟩
  | true =>
    rw [forall_prop_of_true rfl]
    obtain ⟨np', d', conf', hfinal, hd', hconf', htarget, hnodes, hle, hiff⟩ :=
      @attempts_of_open r cfg np d conf requests hopen hnp hd hconf
    have hnewly : np'.nodes.countP Node.isMarked
        = np.nodes.countP Node.isMarked + newlyMarked np np' := countP_of_forall₂ hnodes
    rw [← hiff]
    constructor
    · rintro ⟨np'', d'', conf'', hfinal'', hd'', hconf'', htarget''⟩
      rw [hfinal] at hfinal''
      cases hfinal''
      rw [hd'] at hd''
      cases hd''
      rw [hconf'] at hconf''
      cases hconf''
      omega
    · intro heq
      exact ⟨np', d', conf', hfinal, hd', hconf', by omega⟩

namespace Demo

namespace MarkedNodes

def dynamic : DynamicNodePool := Surplus.dynamic 3

def nodePool : NodePool :=
  { Surplus.nodePool .joined with type := .dynamic dynamic }

def config : Config :=
  { version := 1, name := "config", k8sCtx := ⟨"", ""⟩
    manifest := ⟨"", none, none, .done⟩
    clusters := (∅ : GoMap ClusterState).insert "k8s"
      { current := ⟨some ((Surplus.cluster .joined).k8s.withNodePools [nodePool]), []⟩
        state := ⟨.done, "", [], 0⟩, inFlight := [], counters := ⟨∅⟩ } }

def ref : NodePoolRef := ⟨"config", "k8s", none, "np-abc1234"⟩

end MarkedNodes

end Demo

theorem target_size_after_two_nodes :
    ∃ np' d' conf', Demo.MarkedNodes.ref.nodePool? ([("np-01", true), ("np-02", true)].foldl
        (attempt Demo.MarkedNodes.ref) Demo.MarkedNodes.config) = some np'
      ∧ np'.type = .dynamic d' ∧ d'.autoscalerConfig = some conf'
      ∧ conf'.targetSize = 3 - newlyMarked Demo.MarkedNodes.nodePool np' :=
  (target_size_after_marks_iff Demo.MarkedNodes.ref Demo.MarkedNodes.config
    Demo.MarkedNodes.nodePool Demo.MarkedNodes.dynamic ⟨1, 5, 3⟩ [("np-01", true), ("np-02", true)]
    rfl rfl rfl).mpr (fun _ => ⟨by decide, by decide⟩)

theorem repeated_request_lowers_target_size :
    ∃ np', Demo.MarkedNodes.ref.nodePool? ([("np-01", true), ("np-01", true)].foldl
        (attempt Demo.MarkedNodes.ref) Demo.MarkedNodes.config) = some np'
      ∧ np'.dynamic?.bind (·.autoscalerConfig) = some ⟨1, 5, 1⟩
      ∧ newlyMarked Demo.MarkedNodes.nodePool np' = 1 :=
  ⟨_, rfl, rfl, rfl⟩

end Manager

end Claudie
