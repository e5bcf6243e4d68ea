import Claudie.Manager.Lemmas.ExistingState
import Claudie.Manager.Lemmas.Passes

/-!
The nodes of an autoscaled nodepool that are too many. `fixupAutoscalerCounts` marks as many nodes as
the count exceeds the target size, in addition to those that are marked already.
-/

namespace Claudie

def Node.isMarked (node : Node) : Bool := node.status = .markedForDeletion

def Node.MarksTo (n n' : Node) : Prop := n' = n ∨ n' = { n with status := .markedForDeletion }

namespace Manager

structure SurplusMarked (np : NodePool) (surplus : Int) (np' : NodePool) : Prop where
  marked : (np'.nodes.countP Node.isMarked : Int)
    = max (np.nodes.countP Node.isMarked : Int) surplus
  nodes : List.Forall₂ Node.MarksTo np.nodes np'.nodes
  rest : np' = { np with nodes := np'.nodes }

section markExcess

variable (toBeMarked : Int) (nodes : List Node)

theorem markExcess_forall₂ :
    List.Forall₂ Node.MarksTo nodes (markExcess toBeMarked nodes) := by
  induction nodes generalizing toBeMarked with
  | nil => exact .nil
  | cons n nodes ih =>
    rw [markExcess]
    split
    next => exact List.forall₂_same.mpr (fun n _ => .inl rfl)
    next =>
      split
      next => exact .cons (.inr rfl) (ih _)
      next => exact .cons (.inl rfl) (ih _)

-- Nodes that are marked already do not use up the budget.
theorem countP_markExcess :
    (markExcess toBeMarked nodes).countP Node.isMarked
      = nodes.countP Node.isMarked
        + min (nodes.length - nodes.countP Node.isMarked) toBeMarked.toNat := by
  induction nodes generalizing toBeMarked with
  | nil => simp [markExcess]
  | cons n nodes ih =>
    have hle : nodes.countP Node.isMarked ≤ nodes.length := List.countP_le_length
    rw [markExcess]
    split
    next hnone => rw [Int.toNat_of_nonpos hnone, Nat.min_zero, Nat.add_zero]
    next hsome =>
      split
      next hunmarked =>
        have hn : ¬ n.isMarked = true := by simpa [Node.isMarked] using hunmarked
        have hn' : Node.isMarked { n with status := .markedForDeletion } = true := rfl
        rw [List.countP_cons_of_pos hn', List.countP_cons_of_neg hn, ih, List.length_cons]
        omega
      next hmarked =>
        have hn : n.isMarked = true := by simpa [Node.isMarked] using hmarked
        rw [List.countP_cons_of_pos hn, ih, List.length_cons, List.countP_cons_of_pos hn]
        omega

end markExcess

theorem fixupAutoscalerCount_eq {np : NodePool} {dyn : DynamicNodePool} {conf : AutoscalerConf}
    (hdyn : np.type = .dynamic dyn) (hconf : dyn.autoscalerConfig = some conf) :
    fixupAutoscalerCount np
      = { np with nodes := markExcess (dyn.count - conf.targetSize) np.nodes } := by
  unfold fixupAutoscalerCount
  rw [NodePool.dynamic?_eq_some.mpr hdyn]
  dsimp only
  rw [hconf]
  dsimp only
  split
  next hle =>
    -- nothing is marked if there is no surplus.
    have hnodes : markExcess (dyn.count - conf.targetSize) np.nodes = np.nodes := by
      cases np.nodes with
      | nil => rfl
      | cons n nodes => rw [markExcess, if_pos (by omega)]
    rw [hnodes]
  next => rfl

/--
The nodes that are marked already count as surplus only if this makes no difference: there are none,
there is no other node, all nodes are surplus, or none is.
-/
theorem surplusMarked_iff (d : DesiredCluster) (i : Nat) (np : NodePool) (dyn : DynamicNodePool)
    (conf : AutoscalerConf) (hnp : d.k8s.clusterInfo.nodePools[i]? = some np)
    (hdyn : np.type = .dynamic dyn) (hconf : dyn.autoscalerConfig = some conf)
    (hcount : dyn.count = np.nodes.length) :
    (∃ np', (fixupAutoscalerCounts d).k8s.clusterInfo.nodePools[i]? = some np'
      ∧ SurplusMarked np (dyn.count - conf.targetSize) np')
      ↔ conf.targetSize ≥ dyn.count ∨ 0 ≤ conf.targetSize
        ∧ (conf.targetSize = 0 ∨ (∀ n ∈ np.nodes, n.status ≠ .markedForDeletion)
          ∨ ∀ n ∈ np.nodes, n.status = .markedForDeletion) := by
  have hnone : (∀ n ∈ np.nodes, n.status ≠ .markedForDeletion)
      ↔ np.nodes.countP Node.isMarked = 0 := by
    simp [List.countP_eq_zero, Node.isMarked]
  have hall : (∀ n ∈ np.nodes, n.status = .markedForDeletion)
      ↔ np.nodes.countP Node.isMarked = np.nodes.length := by
    simp [List.countP_eq_length, Node.isMarked]
  have hle : np.nodes.countP Node.isMarked ≤ np.nodes.length := List.countP_le_length
  have hafter := countP_markExcess (dyn.count - conf.targetSize) np.nodes
  have hat : (fixupAutoscalerCounts d).k8s.clusterInfo.nodePools[i]?
      = some { np with nodes := markExcess (dyn.count - conf.targetSize) np.nodes } := by
    rw [fixupAutoscalerCounts, K8scluster.withNodePools, List.getElem?_map, hnp, Option.map_some,
      fixupAutoscalerCount_eq hdyn hconf]
  rw [hnone, hall]
  constructor
  · rintro ⟨np', hnp', hmarked⟩
    rw [hat] at hnp'
    cases hnp'
    have hcounts := hmarked.marked
    rw [hafter] at hcounts
    omega
  · intro h
    refine ⟨_, hat, ?_, markExcess_forall₂ _ np.nodes, rfl⟩
    rw [hafter]
    omega

namespace Demo

namespace Surplus

def provider : Provider :=
  { specName := "hetzner-1", cloudProviderName := "hetzner", providerType := .hetzner "token"
    templates := ⟨"https://github.com/berops/claudie-config", "v0.9.0", "abcdef", none,
      ⟨"", "", "", "", ""⟩⟩ }

def dynamic (targetSize : Int) : DynamicNodePool :=
  { serverType := "cpx22", image := "ubuntu-24.04", storageDiskSize := 50, region := "fsn1"
    zone := "", count := 3, provider, autoscalerConfig := some ⟨1, 5, targetSize⟩
    machineSpec := none, publicKey := "", privateKey := "", cidr := "", externalNetworkName := ""
    spot := false }

def node (name : String) (status : NodeStatus) : Node :=
  { name, privateIp := "", publicIp := "", nodeType := .worker, username := "", status
    sshPort := 22, wireguardPort := 51820 }

def nodePool (first : NodeStatus) : NodePool :=
  { type := .dynamic (dynamic 2), name := "np-abc1234"
    nodes := [node "np-01" first, node "np-02" .joined, node "np-03" .joined]
    isControl := false, labels := ∅, taints := [], annotations := ∅, sshPort := 22 }

def cluster (first : NodeStatus) : DesiredCluster :=
  { k8s :=
      { clusterInfo := { name := "k8s", hash := "abc1234", nodePools := [nodePool first] }
        network := "192.168.2.0/24", kubeconfig := "", kubernetes := "v1.32.0"
        installationProxy := ⟨"default", "", ""⟩ }
    loadBalancers := [] }

end Surplus

end Demo

theorem surplusMarked_of_none_marked :
    ∃ np', (fixupAutoscalerCounts (Demo.Surplus.cluster .joined)).k8s.clusterInfo.nodePools[0]?
        = some np' ∧ SurplusMarked (Demo.Surplus.nodePool .joined) (3 - 2) np' :=
  (surplusMarked_iff (Demo.Surplus.cluster .joined) 0 (Demo.Surplus.nodePool .joined)
    (Demo.Surplus.dynamic 2) ⟨1, 5, 2⟩ rfl rfl rfl rfl).mpr
    (.inr ⟨by decide, .inr (.inl (by decide))⟩)

theorem marked_node_not_counted :
    ¬ ∃ np', (fixupAutoscalerCounts
        (Demo.Surplus.cluster .markedForDeletion)).k8s.clusterInfo.nodePools[0]? = some np'
      ∧ SurplusMarked (Demo.Surplus.nodePool .markedForDeletion) (3 - 2) np' := by
  rintro ⟨np', hnp', hmarked⟩
  cases hnp'
  exact absurd hmarked.marked (by decide)

end Manager

end Claudie
