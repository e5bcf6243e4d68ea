import Claudie.Lemmas.Names
import Claudie.Lib.Overwrite
import Claudie.Manager.Lemmas.ExistingState
import Claudie.Manager.Lemmas.Passes
import Mathlib.Data.List.Perm.Subperm
import Mathlib.Data.Nat.Find

/-!
The loop of `uniqueNodeName`, whose index is a counter of eight bits, and the names that a nodepool
is filled up with.
-/

namespace Claudie

namespace Manager

def nodeName (nodepoolID : String) (index : Nat) : String := nodepoolID ++ "-" ++ hexByte index

namespace uniqueNodeName

/--
The loop of the source. It has no bound of its own, and its index goes on with 0 after 255.
-/
def loop (nodepoolID : String) (existingNames : List String) : Nat → UInt8 → Option String
  | 0, _ => none
  | fuel + 1, index =>
    let candidate := nodeName nodepoolID index.toNat
    if existingNames.contains candidate then loop nodepoolID existingNames fuel (index + 1)
    else some candidate

def call (fuel : Nat) (nodepoolID : String) (existingNames : List String) :
    FuelOutcome (String × List String) :=
  ExceptT.mk
    (if existingNames.length + 1 > 255 then some (.error .panic)
    else (loop nodepoolID existingNames fuel 1).map
      (fun name => .ok (name, existingNames ++ [name])))

def calls (fuel : Nat) (nodepoolID : String) : Nat → List String → FuelOutcome (List String)
  | 0, _ => pure []
  | count + 1, existingNames => do
    let (name, existingNames) ← call fuel nodepoolID existingNames
    let names ← calls fuel nodepoolID count existingNames
    pure (name :: names)

end uniqueNodeName

structure SmallestFree (nodepoolID : String) (existingNames : List String) (index : Nat) : Prop where
  pos : 1 ≤ index
  le : index ≤ 255
  free : nodeName nodepoolID index ∉ existingNames
  smallest : ∀ j, 1 ≤ j → j < index → nodeName nodepoolID j ∈ existingNames

section Pigeonhole

variable {id : String} {names : List String} {index : Nat}

theorem nodeName_inj {i j : Nat} (hi : i < 256) (hj : j < 256)
    (h : nodeName id i = nodeName id j) : i = j :=
  hexByte_inj hi hj (NodePools.fullName_injective id h)

-- There are 255 names with an index from 1 on, so fewer than that cannot cover them.
theorem exists_free (h : names.length ≤ 254) :
    ∃ index, 1 ≤ index ∧ index ≤ 255 ∧ nodeName id index ∉ names := by
  by_contra hall
  push Not at hall
  have hnodup : ((List.range 255).map (fun i => nodeName id (i + 1))).Nodup := by
    refine List.Nodup.map_on (fun i hi j hj heq => ?_) List.nodup_range
    rw [List.mem_range] at hi hj
    have := nodeName_inj (by omega) (by omega) heq
    omega
  have hsubset : (List.range 255).map (fun i => nodeName id (i + 1)) ⊆ names := by
    intro name hname
    obtain ⟨i, hi, rfl⟩ := List.mem_map.mp hname
    rw [List.mem_range] at hi
    exact hall (i + 1) (by omega) (by omega)
  have hlength := (List.subperm_of_subset hnodup hsubset).length_le
  rw [List.length_map, List.length_range] at hlength
  omega

theorem exists_smallestFree (h : names.length ≤ 254) : ∃ index, SmallestFree id names index := by
  classical
  have hfree : ∃ index, 1 ≤ index ∧ index ≤ 255 ∧ nodeName id index ∉ names := exists_free h
  obtain ⟨hpos, hle, hspec⟩ := Nat.find_spec hfree
  refine ⟨Nat.find hfree, hpos, hle, hspec, fun j hj hlt => ?_⟩
  have hmin := Nat.find_min hfree hlt
  by_contra hmem
  exact hmin ⟨hj, by omega, hmem⟩

end Pigeonhole

section Loop

variable {id : String} {names : List String} {index : Nat}

namespace uniqueNodeName

-- Before the smallest free index is reached the counter does not wrap.
theorem loop_eq (h : SmallestFree id names index) {fuel start : Nat} (hstart : 1 ≤ start)
    (hle : start ≤ index) (hfuel : index < start + fuel) :
    loop id names fuel (UInt8.ofNat start) = some (nodeName id index) := by
  have hindex := h.le
  have htoNat : (UInt8.ofNat start).toNat = start := by
    rw [UInt8.toNat_ofNat']
    omega
  induction fuel generalizing start with
  | zero => omega
  | succ fuel ih =>
    rw [loop, htoNat]
    by_cases heq : start = index
    · subst heq
      rw [if_neg (by rw [List.contains_iff_mem]; exact h.free)]
    · have hmem := h.smallest start hstart (by omega)
      rw [if_pos (List.contains_iff_mem.mpr hmem)]
      have hnext : UInt8.ofNat start + 1 = UInt8.ofNat (start + 1) := by
        rw [UInt8.ofNat_add]
        rfl
      rw [hnext]
      refine ih (by omega) (by omega) (by omega) ?_
      rw [UInt8.toNat_ofNat']
      omega

theorem call_eq (h : SmallestFree id names index) (hlength : names.length ≤ 254) {fuel : Nat}
    (hfuel : 255 ≤ fuel) :
    (call fuel id names).run
      = some (.ok (nodeName id index, names ++ [nodeName id index])) := by
  have hloop : loop id names fuel 1 = some (nodeName id index) := by
    have hle := h.le
    exact loop_eq h (Nat.le_refl 1) h.pos (show index < 1 + fuel by omega)
  show (if names.length + 1 > 255 then _ else _) = _
  rw [if_neg (by omega), hloop]
  rfl

end uniqueNodeName

theorem uniqueNodeName_of_smallestFree (h : SmallestFree id names index)
    (hlength : names.length ≤ 254) : uniqueNodeName id names = .ok (nodeName id index) := by
  have hpos := h.pos
  have hle := h.le
  unfold uniqueNodeName
  rw [if_neg (by omega), List.find?_map, Outcome.deref_eq_ok, Option.map_eq_some_iff]
  refine ⟨index - 1, ?_, ?_⟩
  · rw [List.find?_range_eq_some]
    refine ⟨?_, List.mem_range.mpr (by omega), fun j hj => ?_⟩
    · have hindex : index - 1 + 1 = index := by omega
      simp only [Function.comp, hindex]
      rw [Bool.not_eq_true', ← Bool.not_eq_true, List.contains_iff_mem]
      exact h.free
    · simp only [Function.comp]
      rw [Bool.not_not, List.contains_iff_mem]
      exact h.smallest (j + 1) (by omega) (by omega)
  · rw [Nat.sub_add_cancel hpos]
    rfl

-- The model of the call and the loop agree, also on the panic.
theorem uniqueNodeName.call_eq_uniqueNodeName {fuel : Nat} (hfuel : 255 ≤ fuel) :
    (uniqueNodeName.call fuel id names).run
      = some ((fun name => (name, names ++ [name])) <$> uniqueNodeName id names) := by
  by_cases hlength : names.length ≤ 254
  · obtain ⟨index, hindex⟩ : ∃ index, SmallestFree id names index := exists_smallestFree hlength
    rw [uniqueNodeName.call_eq hindex hlength hfuel, uniqueNodeName_of_smallestFree hindex hlength]
    rfl
  · unfold uniqueNodeName
    show (if names.length + 1 > 255 then _ else _) = _
    rw [if_pos (by omega), if_pos (by omega)]
    rfl

end Loop

section Calls

variable {id : String} {names : List String}

def SmallestFirst (id : String) (names new : List String) : Prop :=
  ∀ i name, new[i]? = some name →
    ∃ index, name = nodeName id index ∧ SmallestFree id (names ++ new.take i) index

theorem SmallestFirst.cons {index : Nat} {new : List String} (h : SmallestFree id names index)
    (hnew : SmallestFirst id (names ++ [nodeName id index]) new) :
    SmallestFirst id names (nodeName id index :: new) := by
  intro i name hname
  cases i with
  | zero =>
    cases hname
    rw [List.take_zero, List.append_nil]
    exact ⟨index, rfl, h⟩
  | succ i =>
    obtain ⟨index', heq, hfree⟩ := hnew i name hname
    rw [List.append_assoc, List.singleton_append] at hfree
    exact ⟨index', heq, hfree⟩

theorem uniqueNodeName.calls_eq (id : String) {fuel count : Nat} (hfuel : 255 ≤ fuel)
    (hnames : names.Nodup) (hcount : names.length + count ≤ 255) :
    ∃ new, (uniqueNodeName.calls fuel id count names).run = some (.ok new) ∧ new.length = count
      ∧ (names ++ new).Nodup ∧ SmallestFirst id names new := by
  induction count generalizing names with
  | zero =>
    refine ⟨[], rfl, rfl, ?_, fun i name hname => by cases hname⟩
    rw [List.append_nil]
    exact hnames
  | succ count ih =>
    obtain ⟨index, hindex⟩ : ∃ index, SmallestFree id names index :=
      exists_smallestFree (by omega)
    have hnodup : (names ++ [nodeName id index]).Nodup := by
      rw [← List.concat_eq_append]
      exact hnames.concat hindex.free
    obtain ⟨new, hrun, hlength, hnew, hsmallest⟩ := ih hnodup (by
      rw [List.length_append, List.length_singleton]
      omega)
    refine ⟨nodeName id index :: new, ?_, ?_, ?_, .cons hindex hsmallest⟩
    · have hcall := uniqueNodeName.call_eq hindex (by omega) hfuel
      refine FuelOutcome.bind_eq_ok.mpr ⟨_, hcall, ?_⟩
      exact FuelOutcome.bind_eq_ok.mpr ⟨new, hrun, rfl⟩
    · rw [List.length_cons, hlength]
    · rw [List.append_assoc, List.singleton_append] at hnew
      exact hnew

example : (uniqueNodeName.calls 255 "np" 2 ["np-02"]).run = some (.ok ["np-01", "np-03"]) := by
  decide

end Calls

section Populate

variable {id : String} {nodeType : NodeType} {names : List String}

def newNode (nodeType : NodeType) (name : String) : Node :=
  { name
    privateIp := ""
    publicIp := ""
    nodeType
    username := ""
    status := .preparing
    sshPort := 0
    wireguardPort := 0 }

theorem populateNames_of_calls {fuel missing : Nat} {new : List String} (hfuel : 255 ≤ fuel)
    (h : (uniqueNodeName.calls fuel id missing names).run = some (.ok new)) :
    populateNames id nodeType names missing = .ok (new.map (newNode nodeType)) := by
  induction missing generalizing names new with
  | zero =>
    cases h
    rfl
  | succ missing ih =>
    obtain ⟨⟨name, names'⟩, hcall, h⟩ := FuelOutcome.bind_eq_ok.mp h
    obtain ⟨rest, hrest, h⟩ := FuelOutcome.bind_eq_ok.mp h
    cases h
    rw [uniqueNodeName.call_eq_uniqueNodeName hfuel] at hcall
    obtain ⟨_, hname, heq⟩ := Outcome.map_eq_ok.mp (Option.some.inj hcall)
    cases heq
    rw [populateNames, hname, Outcome.ok_bind, ih hrest]
    rfl

theorem populateDynamicNodes_of_count {clusterID : String} {np : NodePool} {d : DynamicNodePool}
    (hd : np.type = .dynamic d) (hcount : d.count ≤ 255) (hnodes : np.nodes.length ≤ d.count)
    (hnames : (np.nodes.map (·.name)).Nodup) :
    ∃ new, populateDynamicNodes clusterID np = .ok { np with nodes := np.nodes ++ new }
      ∧ (np.nodes ++ new).length = d.count ∧ ((np.nodes ++ new).map (·.name)).Nodup := by
  have hmissing : (np.nodes.map (·.name)).length + (d.count.toNat - np.nodes.length) ≤ 255 := by
    rw [List.length_map]
    omega
  obtain ⟨new, hrun, hlength, hnodup, -⟩ :=
    uniqueNodeName.calls_eq (clusterID ++ "-" ++ np.name) (Nat.le_refl 255) hnames hmissing
  refine ⟨new.map (newNode (if np.isControl then .master else .worker)),
    (populateDynamicNodes_eq_ok hd).mpr ⟨_, ?_, rfl⟩, ?_, ?_⟩
  · rw [List.eraseDups_of_nodup hnames]
    exact populateNames_of_calls (Nat.le_refl 255) hrun
  · rw [List.length_append, List.length_map, hlength]
    omega
  · rw [List.map_append, List.map_map]
    have hnew : new.map ((·.name) ∘ newNode (if np.isControl then .master else .worker)) = new :=
      List.map_id new
    rw [hnew]
    exact hnodup

end Populate

/--
A call returns the smallest free name as long as fewer than 255 names exist, so a nodepool can be
filled up to 255 nodes.
-/
theorem node_names_unique :
    (∀ (nodepoolID : String) (existingNames : List String) (fuel count : Nat),
      existingNames.Nodup → existingNames.length + count ≤ 255 → 255 ≤ fuel →
      ∃ new, (uniqueNodeName.calls fuel nodepoolID count existingNames).run = some (.ok new)
        ∧ new.length = count ∧ (existingNames ++ new).Nodup
        ∧ SmallestFirst nodepoolID existingNames new)
    ∧ (∀ (nodepoolID : String) (existingNames : List String) (fuel : Nat), 255 ≤ fuel →
      (uniqueNodeName.call fuel nodepoolID existingNames).run
        = some ((fun name => (name, existingNames ++ [name]))
          <$> uniqueNodeName nodepoolID existingNames))
    ∧ ∀ (clusterID : String) (np : NodePool) (d : DynamicNodePool), np.type = .dynamic d →
      d.count ≤ 255 → np.nodes.length ≤ d.count → (np.nodes.map (·.name)).Nodup →
      ∃ new, populateDynamicNodes clusterID np = .ok { np with nodes := np.nodes ++ new }
        ∧ (np.nodes ++ new).length = d.count ∧ ((np.nodes ++ new).map (·.name)).Nodup := by
  refine ⟨fun id names fuel count hnames hcount hfuel => ?_, fun id names fuel hfuel => ?_,
    fun clusterID np d hd hcount hnodes hnames => ?_⟩
  · exact uniqueNodeName.calls_eq id hfuel hnames hcount
  · exact uniqueNodeName.call_eq_uniqueNodeName hfuel
  · exact populateDynamicNodes_of_count hd hcount hnodes hnames

namespace Demo.NodeNames

def dynamic : DynamicNodePool :=
  { serverType := "cpx22"
    image := "ubuntu-24.04"
    storageDiskSize := 50
    region := "nbg1"
    zone := ""
    count := 3
    provider :=
      { specName := "hetzner-1"
        cloudProviderName := "hetzner"
        providerType := .hetzner "token"
        templates :=
          { url := "github.com/berops/claudie-config"
            commit := "v0.9.14"
            commitHash := "9b3f0c1"
            auth := none
            paths := ⟨"templates/terraformer/hetzner", "", "", "", ""⟩ } }
    autoscalerConfig := none
    machineSpec := none
    publicKey := "public"
    privateKey := "private"
    cidr := "10.0.0.0/24"
    externalNetworkName := ""
    spot := false }

def oneOfThree : NodePool :=
  { type := .dynamic dynamic
    name := "htz-abc1234"
    nodes := [newNode .worker "c1-qwertyu-htz-abc1234-02"]
    isControl := false
    labels := ∅
    taints := []
    annotations := ∅
    sshPort := 22 }

end Demo.NodeNames

theorem node_names_unique_after_gap :
    (∃ new, (uniqueNodeName.calls 255 "np" 2 ["np-02"]).run = some (.ok new) ∧ new.length = 2
      ∧ (["np-02"] ++ new).Nodup ∧ SmallestFirst "np" ["np-02"] new)
    ∧ (uniqueNodeName.call 255 "np" ["np-02"]).run
        = some ((fun name => (name, ["np-02"] ++ [name])) <$> uniqueNodeName "np" ["np-02"])
    ∧ ∃ new, populateDynamicNodes "c1-qwertyu" Demo.NodeNames.oneOfThree
          = .ok { Demo.NodeNames.oneOfThree with nodes := Demo.NodeNames.oneOfThree.nodes ++ new }
        ∧ (Demo.NodeNames.oneOfThree.nodes ++ new).length = Demo.NodeNames.dynamic.count
        ∧ ((Demo.NodeNames.oneOfThree.nodes ++ new).map (·.name)).Nodup := by
  refine ⟨node_names_unique.1 "np" ["np-02"] 255 2 (List.nodup_singleton _) (by decide) (by decide),
    node_names_unique.2.1 "np" ["np-02"] 255 (by decide), ?_⟩
  exact node_names_unique.2.2 "c1-qwertyu" Demo.NodeNames.oneOfThree Demo.NodeNames.dynamic rfl
    (by decide) (by decide) (List.nodup_singleton _)

end Manager

end Claudie
