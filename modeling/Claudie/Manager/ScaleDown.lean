import Claudie.Manager.Lemmas.ExistingState

/-!
Scaling a dynamic nodepool down. Only as many nodes as are wanted are looked at, and of these the
marked ones are left out: what is then missing is made up with new machines, while the nodes further
back are given up.
-/

namespace Claudie

def Node.unmarked (node : Node) : Bool := node.status ≠ .markedForDeletion

namespace Manager

structure ScaledDown (current : NodePool) (d : Int) (transferred result : NodePool) : Prop where
  count : (result.nodes.length : Int) = d
  existing : result.nodes.Sublist current.nodes
  noneCreated : result.nodes = transferred.nodes
  unmarked : (result.nodes.countP Node.unmarked : Int)
    = min d (current.nodes.countP Node.unmarked)

theorem countP_unmarked_take {nodes : List Node} {n : Nat} (hn : n ≤ nodes.length)
    (h : n = nodes.length ∨ ∀ node ∈ nodes.take n, node.status ≠ .markedForDeletion) :
    (nodes.take n).countP Node.unmarked = min n (nodes.countP Node.unmarked) := by
  rcases h with rfl | h
  · rw [List.take_length]
    exact (Nat.min_eq_right List.countP_le_length).symm
  · have hall : (nodes.take n).countP Node.unmarked = n := by
      have hunmarked : ∀ node ∈ nodes.take n, node.unmarked = true :=
        fun node hnode => decide_eq_true (h node hnode)
      rw [List.countP_eq_length.mpr hunmarked, List.length_take_of_le hn]
    have hle : (nodes.take n).countP Node.unmarked ≤ nodes.countP Node.unmarked :=
      (List.take_sublist n nodes).countP_le
    omega

theorem transferDynamicNodePool_down {current desired transferred : NodePool}
    {cnp dnp : DynamicNodePool} (hcurrent : current.type = .dynamic cnp)
    (hdesired : desired.type = .dynamic dnp) (hcount : cnp.count = current.nodes.length)
    (hdown : (transferDynamic cnp dnp).count ≤ cnp.count) :
    transferDynamicNodePool current desired = .ok transferred
      ↔ 0 ≤ (transferDynamic cnp dnp).count
        ∧ transferred =
          { desired with
            sshPort := current.sshPort
            nodes := transferNodes (cnp.count - (transferDynamic cnp dnp).count)
              (current.nodes.take (transferDynamic cnp dnp).count.toNat)
            type := .dynamic (transferDynamic cnp dnp) } := by
  rw [transferDynamicNodePool_eq_ok hcurrent hdesired, Int.min_eq_right hdown,
    Int.max_eq_left (by omega)]
  constructor
  · rintro ⟨h, -, htransferred⟩
    exact ⟨h, htransferred⟩
  · rintro ⟨h, htransferred⟩
    exact ⟨h, by omega, htransferred⟩

/--
The nodepool is scaled down as it should be exactly if none of the first `d` nodes is marked, or
all nodes are kept.
-/
theorem scaledDown_iff {current desired : NodePool} {cnp dnp : DynamicNodePool}
    (clusterID : String) (hcurrent : current.type = .dynamic cnp)
    (hdesired : desired.type = .dynamic dnp) (hcount : cnp.count = current.nodes.length)
    (hdown : (transferDynamic cnp dnp).count ≤ cnp.count) :
    (∃ transferred result, transferDynamicNodePool current desired = .ok transferred
      ∧ populateDynamicNodes clusterID transferred = .ok result
      ∧ ScaledDown current (transferDynamic cnp dnp).count transferred result)
      ↔ 0 ≤ (transferDynamic cnp dnp).count
        ∧ ((transferDynamic cnp dnp).count = current.nodes.length
          ∨ ∀ node ∈ current.nodes.take (transferDynamic cnp dnp).count.toNat,
              node.status ≠ .markedForDeletion) := by
  constructor
  · rintro ⟨transferred, result, htransfer, -, hscaled⟩
    obtain ⟨hnonneg, rfl⟩ :=
      (transferDynamicNodePool_down hcurrent hdesired hcount hdown).mp htransfer
    refine ⟨hnonneg, ?_⟩
    -- nothing was created, so the walk over the first nodes kept all of them.
    have hlength := hscaled.count
    rw [hscaled.noneCreated] at hlength
    have hall := (transferNodes_sublist (cnp.count - (transferDynamic cnp dnp).count)
      (current.nodes.take (transferDynamic cnp dnp).count.toNat)).eq_of_length (by
        rw [List.length_take_of_le (by omega)]
        exact Int.ofNat_inj.mp (hlength.trans (Int.toNat_of_nonneg hnonneg).symm))
    rcases transferNodes_eq_self_iff.mp hall with hskip | hmarked
    · exact .inl (by omega)
    · exact .inr hmarked
  · rintro ⟨hnonneg, hmarked⟩
    have htransfer := (transferDynamicNodePool_down hcurrent hdesired hcount hdown).mpr
      ⟨hnonneg, rfl⟩
    have hall : transferNodes (cnp.count - (transferDynamic cnp dnp).count)
        (current.nodes.take (transferDynamic cnp dnp).count.toNat)
          = current.nodes.take (transferDynamic cnp dnp).count.toNat :=
      transferNodes_eq_self_iff.mpr (hmarked.imp_left (by omega))
    rw [hall] at htransfer
    generalize hd : transferDynamic cnp dnp = d at *
    have hlength : (current.nodes.take d.count.toNat).length = d.count.toNat :=
      List.length_take_of_le (by omega)
    refine ⟨_, _, htransfer, (populateDynamicNodes_eq_ok rfl).mpr ⟨[], ?_, rfl⟩, ?_⟩
    · rw [hlength, Nat.sub_self]
      rfl
    · refine ⟨?_, ?_, List.append_nil _, ?_⟩ <;> dsimp only <;> rw [List.append_nil]
      · omega
      · exact List.take_sublist _ _
      · rw [countP_unmarked_take (by omega) (hmarked.imp_left (by omega))]
        omega

namespace Demo

namespace ScaleDown

def dynamic (count : Int) : DynamicNodePool :=
  { serverType := "cpx11", image := "ubuntu-24.04", storageDiskSize := 50, region := "fsn1",
    zone := "1", count,
    provider := ⟨"hetzner-1", "hetzner", .hetzner "token",
      ⟨"https://github.com/berops/claudie-config", "v0.9.0", "", none, ⟨"", "", "", "", ""⟩⟩⟩,
    autoscalerConfig := none, machineSpec := none, publicKey := "", privateKey := "", cidr := "",
    externalNetworkName := "", spot := false }

def node (name publicIp : String) (status : NodeStatus) : Node :=
  ⟨name, "", publicIp, .worker, "", status, 22, 51820⟩

def nodePool (count : Int) (nodes : List Node) : NodePool :=
  ⟨.dynamic (dynamic count), "np-abc1234", nodes, false, ∅, [], ∅, 22⟩

def lastMarked : NodePool :=
  nodePool 2 [node "np-01" "10.0.0.1" .joined, node "np-02" "10.0.0.2" .markedForDeletion]

def firstMarked : NodePool :=
  nodePool 2 [node "np-01" "10.0.0.1" .markedForDeletion, node "np-02" "10.0.0.2" .joined]

end ScaleDown

end Demo

theorem scaledDown_of_last_marked :
    ∃ transferred result,
      transferDynamicNodePool Demo.ScaleDown.lastMarked (Demo.ScaleDown.nodePool 1 [])
        = .ok transferred
      ∧ populateDynamicNodes "main-abc1234" transferred = .ok result
      ∧ ScaledDown Demo.ScaleDown.lastMarked 1 transferred result := by
  have hcurrent : Demo.ScaleDown.lastMarked.type = .dynamic (Demo.ScaleDown.dynamic 2) := rfl
  have hdesired : (Demo.ScaleDown.nodePool 1 []).type = .dynamic (Demo.ScaleDown.dynamic 1) := rfl
  exact (scaledDown_iff "main-abc1234" hcurrent hdesired rfl (by decide)).mpr
    ⟨by decide, .inr (by decide)⟩

/--
Of two nodes, of which the first is marked, one should stay. The node that is not marked is given
up and a new machine is created.
-/
theorem first_marked_creates_machine :
    ∃ transferred result,
      transferDynamicNodePool Demo.ScaleDown.firstMarked (Demo.ScaleDown.nodePool 1 [])
        = .ok transferred
      ∧ populateDynamicNodes "main-abc1234" transferred = .ok result
      ∧ transferred.nodes = []
      ∧ result.nodes.map (·.name) = ["main-abc1234-np-abc1234-01"]
      ∧ ¬ ScaledDown Demo.ScaleDown.firstMarked 1 transferred result := by
  refine ⟨_, _, rfl, rfl, rfl, rfl, ?_⟩
  intro h
  exact absurd h.noneCreated (List.cons_ne_nil _ _)

end Manager

end Claudie
