import Claudie.Lemmas.NodePools
import Claudie.Lib.Heap

/-!
The partial copies of a nodepool as the program makes them: a copy shares memory with the original,
and what is adjusted in it is cloned first.
-/

namespace Claudie

/--
What is reached through the pointers of a nodepool and written to: the type of the nodepool and, for
a static one, the map of keys.
-/
structure Memory where
  dynamicNodePools : Heap DynamicNodePool
  -- a static nodepool holds the pointer to its map of keys, none if the map is `nil`.
  staticNodePools : Heap (Option Nat)
  nodeKeys : Heap (GoMap String)

inductive TypePointer where
  | dynamic (p : Nat)
  | static (p : Nat)
  deriving DecidableEq

structure NodePoolObject where
  type : TypePointer
  name : String
  nodes : List Node
  isControl : Bool
  labels : GoMap String
  taints : List Taint
  annotations : GoMap String
  sshPort : Int
  deriving DecidableEq

namespace Memory

variable {mem mem' mem'' : Memory}

def keysOf (mem : Memory) : Option Nat → Option (GoMap String)
  | none => some ∅
  | some q => mem.nodeKeys.read q

def typeOf (mem : Memory) : TypePointer → Option NodePoolType
  | .dynamic p => (mem.dynamicNodePools.read p).map .dynamic
  | .static p => do
    let keys ← mem.staticNodePools.read p
    let nodeKeys ← mem.keysOf keys
    pure (.static { nodeKeys })

def nodePool (mem : Memory) (np : NodePoolObject) : Option NodePool := do
  let type ← mem.typeOf np.type
  pure
    { type
      name := np.name
      nodes := np.nodes
      isControl := np.isControl
      labels := np.labels
      taints := np.taints
      annotations := np.annotations
      sshPort := np.sshPort }

-- `proto.Clone` leaves the map of the clone `nil` if the original has no entries.
def cloneStatic (mem : Memory) (p : Nat) : Outcome (Memory × Nat) := do
  let keys ← Outcome.deref (mem.staticNodePools.read p)
  let nodeKeys ← Outcome.deref (mem.keysOf keys)
  if nodeKeys.isEmpty then
    let (staticNodePools, p) := mem.staticNodePools.alloc none
    pure ({ mem with staticNodePools }, p)
  else
    let (nodeKeys, q) := mem.nodeKeys.alloc nodeKeys
    let (staticNodePools, p) := mem.staticNodePools.alloc (some q)
    pure ({ mem with nodeKeys, staticNodePools }, p)

def cloneDynamic (mem : Memory) (p : Nat) : Outcome (Memory × Nat) := do
  let d ← Outcome.deref (mem.dynamicNodePools.read p)
  let (dynamicNodePools, p) := mem.dynamicNodePools.alloc d
  pure ({ mem with dynamicNodePools }, p)

/--
`if s.NodeKeys == nil { s.NodeKeys = make(map[string]string) } else { clear(s.NodeKeys) }`, with the
pointer to the map afterwards.
-/
def clearKeys (mem : Memory) (p : Nat) : Outcome (Memory × Nat) := do
  let keys ← Outcome.deref (mem.staticNodePools.read p)
  match keys with
  | none =>
    let (nodeKeys, q) := mem.nodeKeys.alloc ∅
    pure ({ mem with nodeKeys, staticNodePools := mem.staticNodePools.modify p (fun _ => some q) },
      q)
  | some q => pure ({ mem with nodeKeys := mem.nodeKeys.modify q (fun _ => ∅) }, q)

def setCount (mem : Memory) (p : Nat) (count : Int) : Memory :=
  { mem with dynamicNodePools := mem.dynamicNodePools.modify p (fun d => { d with count }) }

def writeKey (mem : Memory) (q : Nat) (ip key : String) : Memory :=
  { mem with nodeKeys := mem.nodeKeys.modify q (fun keys => keys.insert ip key) }

-- `maps.Copy`
def copyInto (mem : Memory) (q : Nat) (keys : GoMap String) : Memory :=
  { mem with nodeKeys := mem.nodeKeys.modify q (fun m => m.insertMany keys.toList) }

-- The key of an address in the static nodepool at `p`, read at the time of the call.
def readKey (mem : Memory) (p : Nat) (ip : String) : Outcome String := do
  let keys ← Outcome.deref (mem.staticNodePools.read p)
  let nodeKeys ← Outcome.deref (mem.keysOf keys)
  pure (nodeKeys.getD ip "")

def partialCopy (mem : Memory) (np : NodePoolObject) (keep : Node → Bool) :
    Outcome (Memory × NodePoolObject) := do
  let nodes := np.nodes.filter keep
  match np.type with
  | .dynamic p =>
    let (mem, d) ← mem.cloneDynamic p
    pure (mem.setCount d nodes.length, { np with nodes, type := .dynamic d })
  | .static p =>
    let (mem, s) ← mem.cloneStatic p
    let (mem, q) ← mem.clearKeys s
    let mem ← nodes.foldlM (fun mem n => do
      let key ← readKey mem p n.publicIp
      pure (mem.writeKey q n.publicIp key)) mem
    pure (mem, { np with nodes, type := .static s })

def partialCopyWithNodeExclusion (mem : Memory) (np : NodePoolObject) (nodes : List String) :
    Outcome (Memory × NodePoolObject) :=
  mem.partialCopy np (fun n => !nodes.contains n.name)

def partialCopyWithNodeFilter (mem : Memory) (np : NodePoolObject) (nodes : List String) :
    Outcome (Memory × NodePoolObject) :=
  mem.partialCopy np (fun n => nodes.contains n.name)

-- The ssh port of the nodepool is not copied. The keys are passed as a map, that is by reference.
def partialCopyWithReplacedNodes (mem : Memory) (np : NodePoolObject) (nodes : List Node)
    (nodeKeys : Option Nat) : Outcome (Memory × NodePoolObject) :=
  match np.type with
  | .dynamic p => do
    let (mem, d) ← mem.cloneDynamic p
    pure (mem.setCount d nodes.length, { np with nodes, type := .dynamic d, sshPort := 0 })
  | .static p => do
    let (mem, s) ← mem.cloneStatic p
    let (mem, q) ← mem.clearKeys s
    let keys ← Outcome.deref (mem.keysOf nodeKeys)
    pure (mem.copyInto q keys, { np with nodes, type := .static s, sshPort := 0 })

structure Extends (mem mem' : Memory) : Prop where
  dynamicNodePools : mem.dynamicNodePools.Extends mem'.dynamicNodePools
  staticNodePools : mem.staticNodePools.Extends mem'.staticNodePools
  nodeKeys : mem.nodeKeys.Extends mem'.nodeKeys

namespace Extends

theorem keysOf (h : mem.Extends mem') {keys : Option Nat} {m : GoMap String}
    (hkeys : mem.keysOf keys = some m) : mem'.keysOf keys = some m := by
  cases keys with
  | none => exact hkeys
  | some q => exact h.nodeKeys q m hkeys

theorem typeOf (h : mem.Extends mem') {p : TypePointer} {type : NodePoolType}
    (htype : mem.typeOf p = some type) : mem'.typeOf p = some type := by
  cases p with
  | dynamic p =>
    obtain ⟨d, hd, rfl⟩ := Option.map_eq_some_iff.mp htype
    exact Option.map_eq_some_iff.mpr ⟨d, h.dynamicNodePools p d hd, rfl⟩
  | static p =>
    obtain ⟨keys, hkeys, htype⟩ := Option.bind_eq_some_iff.mp htype
    obtain ⟨m, hm, htype⟩ := Option.bind_eq_some_iff.mp htype
    exact Option.bind_eq_some_iff.mpr ⟨keys, h.staticNodePools p keys hkeys,
      Option.bind_eq_some_iff.mpr ⟨m, h.keysOf hm, htype⟩⟩

theorem nodePool (h : mem.Extends mem') {np : NodePoolObject} {v : NodePool}
    (hnp : mem.nodePool np = some v) : mem'.nodePool np = some v := by
  obtain ⟨type, htype, hv⟩ := Option.bind_eq_some_iff.mp hnp
  exact Option.bind_eq_some_iff.mpr ⟨type, h.typeOf htype, hv⟩

end Extends

theorem typeOf_static {p : Nat} {type : NodePoolType}
    (h : mem.typeOf (.static p) = some type) : ∃ keys s, mem.staticNodePools.read p = some keys
      ∧ mem.keysOf keys = some s.nodeKeys ∧ type = .static s := by
  obtain ⟨keys, hkeys, h⟩ := Option.bind_eq_some_iff.mp h
  obtain ⟨m, hm, h⟩ := Option.bind_eq_some_iff.mp h
  cases h
  exact ⟨keys, ⟨m⟩, hkeys, hm, rfl⟩

theorem cloneDynamic_setCount {p : Nat} {d : DynamicNodePool} (count : Int)
    (h : mem.dynamicNodePools.read p = some d) :
    ∃ mem' p', mem.cloneDynamic p = .ok (mem', p') ∧ mem.Extends (mem'.setCount p' count)
      ∧ (mem'.setCount p' count).typeOf (.dynamic p') = some (.dynamic { d with count }) := by
  obtain ⟨heap, p', halloc, hext, hfresh, hread⟩ := mem.dynamicNodePools.alloc_eq d
  unfold cloneDynamic
  rw [h, Outcome.deref_some, Outcome.ok_bind, halloc]
  refine ⟨_, _, rfl, ⟨hext.modify hfresh _, .refl _, .refl _⟩, ?_⟩
  show ((heap.modify p' (fun d => { d with count })).read p').map NodePoolType.dynamic = _
  rw [Heap.read_modify_self, hread]
  rfl

structure Written (mem mem' : Memory) (s q : Nat) (keys : GoMap String) : Prop where
  extend : mem.Extends mem'
  fresh : mem.nodeKeys.read q = none
  pointer : mem'.staticNodePools.read s = some (some q)
  keys : mem'.nodeKeys.read q = some keys

theorem Written.typeOf {s q : Nat} {keys : GoMap String} (h : Written mem mem' s q keys) :
    mem'.typeOf (.static s) = some (.static ⟨keys⟩) := by
  unfold Memory.typeOf
  dsimp only
  rw [h.pointer]
  show (mem'.nodeKeys.read q).bind _ = _
  rw [h.keys]
  rfl

theorem Written.writeKey {s q : Nat} {keys : GoMap String} (h : Written mem mem' s q keys)
    (ip key : String) : Written mem (mem'.writeKey q ip key) s q (keys.insert ip key) where
  extend := ⟨h.extend.dynamicNodePools, h.extend.staticNodePools,
    h.extend.nodeKeys.modify h.fresh _⟩
  fresh := h.fresh
  pointer := h.pointer
  keys := by
    unfold Memory.writeKey
    rw [Heap.read_modify_self, h.keys]
    rfl

theorem cloneStatic_clearKeys {p : Nat} {src : StaticNodePool}
    (h : mem.typeOf (.static p) = some (.static src)) :
    ∃ mem₁ s mem₂ q, mem.cloneStatic p = .ok (mem₁, s) ∧ mem₁.clearKeys s = .ok (mem₂, q)
      ∧ Written mem mem₂ s q ∅ := by
  obtain ⟨keys, _, hkeys, hm, heq⟩ := typeOf_static h
  cases heq
  unfold cloneStatic
  rw [hkeys, Outcome.deref_some, Outcome.ok_bind, hm, Outcome.deref_some, Outcome.ok_bind]
  split
  next =>
    obtain ⟨statics, s, hs, hexts, hfreshs, hreads⟩ := mem.staticNodePools.alloc_eq none
    obtain ⟨maps, q, hq, hextq, hfreshq, hreadq⟩ := mem.nodeKeys.alloc_eq ∅
    refine ⟨{ mem with staticNodePools := statics }, s, { mem with
      nodeKeys := maps, staticNodePools := statics.modify s (fun _ => some q) }, q, ?_, ?_, ?_⟩
    · rw [hs]
      rfl
    · unfold clearKeys
      dsimp only
      rw [hreads, Outcome.deref_some, Outcome.ok_bind]
      dsimp only
      rw [hq]
      rfl
    · refine ⟨⟨.refl _, hexts.modify hfreshs _, hextq⟩, hfreshq, ?_, hreadq⟩
      rw [Heap.read_modify_self, hreads]
      rfl
  next =>
    obtain ⟨maps, q, hq, hextq, hfreshq, hreadq⟩ := mem.nodeKeys.alloc_eq src.nodeKeys
    obtain ⟨statics, s, hs, hexts, hfreshs, hreads⟩ := mem.staticNodePools.alloc_eq (some q)
    refine ⟨{ mem with nodeKeys := maps, staticNodePools := statics }, s, { mem with
      nodeKeys := maps.modify q (fun _ => ∅), staticNodePools := statics }, q, ?_, ?_, ?_⟩
    · rw [hq]
      dsimp only
      rw [hs]
      rfl
    · unfold clearKeys
      dsimp only
      rw [hreads]
      rfl
    · refine ⟨⟨.refl _, hexts, hextq.modify hfreshq _⟩, hfreshq, hreads, ?_⟩
      rw [Heap.read_modify_self, hreadq]
      rfl

theorem Written.readKey {s q p : Nat} {keys : GoMap String} {src : StaticNodePool}
    (h : Written mem mem' s q keys) (hsrc : mem.typeOf (.static p) = some (.static src))
    (ip : String) : mem'.readKey p ip = .ok (src.nodeKeys.getD ip "") := by
  obtain ⟨pointer, _, hpointer, hm, heq⟩ := typeOf_static (h.extend.typeOf hsrc)
  cases heq
  unfold Memory.readKey
  rw [hpointer, Outcome.deref_some, Outcome.ok_bind, hm]
  rfl

-- The loop over the nodes of the copy. It reads the original while it writes to the clone.
theorem Written.copyKeys {s q p : Nat} {keys : GoMap String} {src : StaticNodePool}
    (h : Written mem mem' s q keys) (hsrc : mem.typeOf (.static p) = some (.static src))
    (nodes : List Node) :
    ∃ mem'', nodes.foldlM (fun mem n => do
        let key ← mem.readKey p n.publicIp
        pure (mem.writeKey q n.publicIp key)) mem' = Except.ok mem''
      ∧ Written mem mem'' s q (NodePools.copyKeys src.nodeKeys keys nodes) := by
  induction nodes generalizing mem' keys with
  | nil => exact ⟨mem', rfl, h⟩
  | cons n nodes ih =>
    rw [List.foldlM_cons, h.readKey hsrc]
    exact ih (h.writeKey n.publicIp (src.nodeKeys.getD n.publicIp ""))

theorem Written.copyInto {s q : Nat} (h : Written mem mem' s q ∅) (keys : GoMap String) :
    Written mem (mem'.copyInto q keys) s q keys where
  extend := ⟨h.extend.dynamicNodePools, h.extend.staticNodePools,
    h.extend.nodeKeys.modify h.fresh _⟩
  fresh := h.fresh
  pointer := h.pointer
  keys := by
    unfold Memory.copyInto
    rw [Heap.read_modify_self, h.keys, Option.map_some]
    refine congrArg some (Std.ExtTreeMap.ext_getElem? (fun ip => ?_))
    rw [GoMap.getElem?_insertMany_toList]
    exact Option.or_none

variable {np : NodePoolObject} {v : NodePool}

theorem nodePool_eq_some : mem.nodePool np = some v ↔ ∃ type, mem.typeOf np.type = some type
    ∧ v = ⟨type, np.name, np.nodes, np.isControl, np.labels, np.taints, np.annotations,
      np.sshPort⟩ := by
  unfold nodePool
  constructor
  · intro h
    obtain ⟨type, htype, h⟩ := Option.bind_eq_some_iff.mp h
    cases h
    exact ⟨type, htype, rfl⟩
  · rintro ⟨type, htype, rfl⟩
    rw [htype]
    rfl

structure Copied (mem mem' : Memory) (cp : NodePoolObject) (v' : NodePool) : Prop where
  extend : mem.Extends mem'
  copy : mem'.nodePool cp = some v'

theorem partialCopy_eq_ok (h : mem.nodePool np = some v) (keep : Node → Bool) :
    ∃ mem' cp, mem.partialCopy np keep = .ok (mem', cp)
      ∧ Copied mem mem' cp (NodePools.partialCopy v keep) := by
  obtain ⟨type, htype, rfl⟩ := nodePool_eq_some.mp h
  unfold partialCopy
  dsimp only
  cases hp : np.type with
  | dynamic p =>
    rw [hp] at htype
    obtain ⟨d, hd, rfl⟩ := Option.map_eq_some_iff.mp htype
    obtain ⟨mem', p', hclone, hext, hcopy⟩ :=
      cloneDynamic_setCount (np.nodes.filter keep).length hd
    dsimp only
    rw [hclone]
    exact ⟨_, _, rfl, hext, nodePool_eq_some.mpr ⟨_, hcopy, rfl⟩⟩
  | static p =>
    rw [hp] at htype
    obtain ⟨_, src, -, -, rfl⟩ := typeOf_static htype
    obtain ⟨mem₁, s, mem₂, q, hclone, hclear, hwritten⟩ := cloneStatic_clearKeys htype
    obtain ⟨mem₃, hloop, hwritten⟩ := hwritten.copyKeys htype (np.nodes.filter keep)
    dsimp only
    rw [hclone, Outcome.ok_bind]
    dsimp only
    rw [hclear, Outcome.ok_bind]
    dsimp only
    rw [hloop]
    exact ⟨_, _, rfl, hwritten.extend, nodePool_eq_some.mpr ⟨_, hwritten.typeOf, rfl⟩⟩

theorem partialCopyWithReplacedNodes_eq_ok (h : mem.nodePool np = some v) (nodes : List Node)
    {nodeKeys : Option Nat} {keys : GoMap String} (hkeys : mem.keysOf nodeKeys = some keys) :
    ∃ mem' cp, mem.partialCopyWithReplacedNodes np nodes nodeKeys = .ok (mem', cp)
      ∧ Copied mem mem' cp (NodePools.partialCopyWithReplacedNodes v nodes keys) := by
  obtain ⟨type, htype, rfl⟩ := nodePool_eq_some.mp h
  unfold partialCopyWithReplacedNodes
  cases hp : np.type with
  | dynamic p =>
    rw [hp] at htype
    obtain ⟨d, hd, rfl⟩ := Option.map_eq_some_iff.mp htype
    obtain ⟨mem', p', hclone, hext, hcopy⟩ := cloneDynamic_setCount nodes.length hd
    dsimp only
    rw [hclone]
    exact ⟨_, _, rfl, hext, nodePool_eq_some.mpr ⟨_, hcopy, rfl⟩⟩
  | static p =>
    rw [hp] at htype
    obtain ⟨_, src, -, -, rfl⟩ := typeOf_static htype
    obtain ⟨mem₁, s, mem₂, q, hclone, hclear, hwritten⟩ := cloneStatic_clearKeys htype
    have hcopied := hwritten.copyInto keys
    dsimp only
    rw [hclone, Outcome.ok_bind]
    dsimp only
    rw [hclear, Outcome.ok_bind]
    dsimp only
    rw [hwritten.extend.keysOf hkeys]
    exact ⟨_, _, rfl, hcopied.extend, nodePool_eq_some.mpr ⟨_, hcopied.typeOf, rfl⟩⟩

end Memory

namespace NodePools

-- The keys of a nodepool as a worker passes them on. A dynamic one has none.
def nodeKeys (np : NodePool) : GoMap String := (np.static?.map (·.nodeKeys)).getD ∅

structure SameFields (np cp : NodePool) : Prop where
  name : cp.name = np.name
  isControl : cp.isControl = np.isControl
  labels : cp.labels = np.labels
  taints : cp.taints = np.taints
  annotations : cp.annotations = np.annotations
  sshPort : cp.sshPort = np.sshPort

structure Splits (np : NodePool) (nodes : List String) (kept rest : NodePool) : Prop where
  selected : ∀ n ∈ np.nodes, n ∈ kept.nodes ↔ n.name ∈ nodes
  disjoint : ∀ n ∈ kept.nodes, n ∉ rest.nodes
  keptOrder : kept.nodes.Sublist np.nodes
  restOrder : rest.nodes.Sublist np.nodes
  together : (kept.nodes ++ rest.nodes).Perm np.nodes
  counts : ∀ d, np.type = .dynamic d → ∃ d₁ d₂, kept.type = .dynamic d₁ ∧ rest.type = .dynamic d₂
    ∧ d₁.count + d₂.count = d.count
  keys : ∀ s, np.type = .static s → ∃ s₁ s₂, kept.type = .static s₁ ∧ rest.type = .static s₂
    ∧ ∀ ip key : String, s.nodeKeys[ip]? = some key
      ↔ s₁.nodeKeys[ip]? = some key ∨ s₂.nodeKeys[ip]? = some key
  keptFields : SameFields np kept
  restFields : SameFields np rest

structure PartialCopies (np : NodePool) (nodes : List String) : Prop where
  splits : Splits np nodes (partialCopyWithNodeFilter np nodes)
    (partialCopyWithNodeExclusion np nodes)
  filter : partialCopyWithReplacedNodes np (partialCopyWithNodeFilter np nodes).nodes
    (nodeKeys (partialCopyWithNodeFilter np nodes)) = partialCopyWithNodeFilter np nodes
  exclusion : partialCopyWithReplacedNodes np (partialCopyWithNodeExclusion np nodes).nodes
    (nodeKeys (partialCopyWithNodeExclusion np nodes)) = partialCopyWithNodeExclusion np nodes

structure LeavesOriginal (np : NodePool) (nodes : List String) : Prop where
  filter : ∀ mem obj, Memory.nodePool mem obj = some np →
    ∃ mem' cp, mem.partialCopyWithNodeFilter obj nodes = .ok (mem', cp)
      ∧ mem'.nodePool cp = some (partialCopyWithNodeFilter np nodes) ∧ mem'.nodePool obj = some np
  exclusion : ∀ mem obj, Memory.nodePool mem obj = some np →
    ∃ mem' cp, mem.partialCopyWithNodeExclusion obj nodes = .ok (mem', cp)
      ∧ mem'.nodePool cp = some (partialCopyWithNodeExclusion np nodes)
      ∧ mem'.nodePool obj = some np
  replaced : ∀ mem obj, Memory.nodePool mem obj = some np →
    ∀ (nodes : List Node) (keys : Option Nat) (m : GoMap String), mem.keysOf keys = some m →
      ∃ mem' cp, mem.partialCopyWithReplacedNodes obj nodes keys = .ok (mem', cp)
        ∧ mem'.nodePool cp = some (partialCopyWithReplacedNodes np nodes m)
        ∧ mem'.nodePool obj = some np

theorem leavesOriginal (np : NodePool) (nodes : List String) : LeavesOriginal np nodes where
  filter mem obj hnp := by
    obtain ⟨mem', cp, hrun, hcopied⟩ :=
      Memory.partialCopy_eq_ok hnp (fun n => nodes.contains n.name)
    exact ⟨mem', cp, hrun, hcopied.copy, hcopied.extend.nodePool hnp⟩
  exclusion mem obj hnp := by
    obtain ⟨mem', cp, hrun, hcopied⟩ :=
      Memory.partialCopy_eq_ok hnp (fun n => !nodes.contains n.name)
    exact ⟨mem', cp, hrun, hcopied.copy, hcopied.extend.nodePool hnp⟩
  replaced mem obj hnp replacement keys m hkeys := by
    obtain ⟨mem', cp, hrun, hcopied⟩ :=
      Memory.partialCopyWithReplacedNodes_eq_ok hnp replacement hkeys
    exact ⟨mem', cp, hrun, hcopied.copy, hcopied.extend.nodePool hnp⟩

section Laws

variable {np : NodePool} {nodes : List String} {keep : Node → Bool}

theorem partialCopy_sameFields : SameFields np (partialCopy np keep) :=
  ⟨rfl, rfl, rfl, rfl, rfl, rfl⟩

theorem partialCopy_dynamic {d : DynamicNodePool} (h : np.type = .dynamic d) :
    (partialCopy np keep).type = .dynamic { d with count := (np.nodes.filter keep).length } := by
  unfold partialCopy partialType
  rw [h]

theorem partialCopy_static {s : StaticNodePool} (h : np.type = .static s) :
    (partialCopy np keep).type
      = .static ⟨copyKeys s.nodeKeys ∅ (np.nodes.filter keep)⟩ := by
  unfold partialCopy partialType
  rw [h]

-- The replaced nodes and keys are those the copy has already; only the ssh port is lost.
theorem replaced_partialCopy_iff :
    partialCopyWithReplacedNodes np (partialCopy np keep).nodes (nodeKeys (partialCopy np keep))
      = partialCopy np keep ↔ np.sshPort = 0 := by
  constructor
  · intro h
    exact (congrArg NodePool.sshPort h).symm
  · intro hport
    have htype : partialType np (partialCopy np keep).nodes
        (fun _ => nodeKeys (partialCopy np keep)) = (partialCopy np keep).type := by
      cases h : np.type with
      | dynamic d =>
        rw [partialCopy_dynamic h, partialType, h]
        rfl
      | static s =>
        have hkeys : nodeKeys (partialCopy np keep)
            = copyKeys s.nodeKeys ∅ (np.nodes.filter keep) := by
          unfold nodeKeys NodePool.static?
          rw [partialCopy_static h]
          rfl
        rw [hkeys, partialCopy_static h, partialType, h]
    unfold partialCopyWithReplacedNodes
    rw [htype, ← hport]
    rfl

theorem copyKeys_eq_some {keys : GoMap String} {ns : List Node} {ip key : String}
    (h : ∀ n ∈ ns, n.publicIp ∈ keys) :
    (copyKeys keys ∅ ns)[ip]? = some key ↔ ip ∈ ns.map (·.publicIp) ∧ keys[ip]? = some key := by
  rw [copyKeys_getElem?]
  split
  next hmem =>
    obtain ⟨n, hn, rfl⟩ := List.mem_map.mp hmem
    have hkey := Std.ExtTreeMap.isSome_getElem?_iff_mem.mpr (h n hn)
    obtain ⟨v, hv⟩ := Option.isSome_iff_exists.mp hkey
    rw [Std.ExtTreeMap.getD_eq_getD_getElem?, hv]
    simp [List.mem_map_of_mem hn]
  next hmem => simp [hmem]

theorem mem_filter_or {n : Node} :
    n ∈ np.nodes.filter keep ∨ n ∈ np.nodes.filter (fun n => !keep n) ↔ n ∈ np.nodes := by
  rw [List.mem_filter, List.mem_filter]
  cases keep n <;> simp

theorem keys_add_up_iff {s : StaticNodePool} (h : ∀ n ∈ np.nodes, n.publicIp ∈ s.nodeKeys) :
    (∀ ip key : String, s.nodeKeys[ip]? = some key
      ↔ (copyKeys s.nodeKeys ∅ (np.nodes.filter keep))[ip]? = some key
        ∨ (copyKeys s.nodeKeys ∅ (np.nodes.filter (fun n => !keep n)))[ip]? = some key)
      ↔ ∀ ip, ip ∈ s.nodeKeys ↔ ip ∈ np.nodes.map (·.publicIp) := by
  have hparts : ∀ ip key : String, ((copyKeys s.nodeKeys ∅ (np.nodes.filter keep))[ip]? = some key
        ∨ (copyKeys s.nodeKeys ∅ (np.nodes.filter (fun n => !keep n)))[ip]? = some key)
      ↔ ip ∈ np.nodes.map (·.publicIp) ∧ s.nodeKeys[ip]? = some key := by
    intro ip key
    rw [copyKeys_eq_some (fun n hn => h n (List.mem_of_mem_filter hn)),
      copyKeys_eq_some (fun n hn => h n (List.mem_of_mem_filter hn)), ← or_and_right]
    refine and_congr_left (fun _ => ?_)
    simp only [List.mem_map, ← exists_or, ← or_and_right, mem_filter_or]
  simp only [hparts]
  constructor
  · intro hkeys ip
    constructor
    · intro hmem
      obtain ⟨key, hkey⟩ := Option.isSome_iff_exists.mp
        (Std.ExtTreeMap.isSome_getElem?_iff_mem.mpr hmem)
      exact ((hkeys ip key).mp hkey).1
    · intro hmem
      obtain ⟨n, hn, rfl⟩ := List.mem_map.mp hmem
      exact h n hn
  · intro hkeys ip key
    refine ⟨fun hkey => ⟨(hkeys ip).mp ?_, hkey⟩, fun hkey => hkey.2⟩
    exact Std.ExtTreeMap.isSome_getElem?_iff_mem.mp (Option.isSome_of_eq_some hkey)

theorem length_filter_add (np : NodePool) (keep : Node → Bool) :
    (np.nodes.filter keep).length + (np.nodes.filter (fun n => !keep n)).length
      = np.nodes.length := by
  rw [← List.length_append]
  exact (List.filter_append_perm keep np.nodes).length_eq

theorem splits_iff (hnames : (np.nodes.map (·.name)).Nodup)
    (hkeys : ∀ s, np.type = .static s → ∀ n ∈ np.nodes, n.publicIp ∈ s.nodeKeys) :
    Splits np nodes (partialCopyWithNodeFilter np nodes) (partialCopyWithNodeExclusion np nodes)
      ↔ np.Tidy := by
  have hlength := length_filter_add np (fun n => nodes.contains n.name)
  constructor
  · intro h
    refine ⟨hnames, ?_, ?_⟩
    · intro d hd
      obtain ⟨d₁, d₂, h₁, h₂, hcount⟩ := h.counts d hd
      rw [partialCopyWithNodeFilter, partialCopy_dynamic hd] at h₁
      rw [partialCopyWithNodeExclusion, partialCopy_dynamic hd] at h₂
      cases h₁
      cases h₂
      dsimp only at hcount
      omega
    · intro s hs
      obtain ⟨s₁, s₂, h₁, h₂, hadd⟩ := h.keys s hs
      rw [partialCopyWithNodeFilter, partialCopy_static hs] at h₁
      rw [partialCopyWithNodeExclusion, partialCopy_static hs] at h₂
      cases h₁
      cases h₂
      exact (keys_add_up_iff (hkeys s hs)).mp hadd
  · intro htidy
    refine ⟨?_, ?_, List.filter_sublist, List.filter_sublist,
      List.filter_append_perm _ _, ?_, ?_, partialCopy_sameFields, partialCopy_sameFields⟩
    · intro n hn
      show n ∈ np.nodes.filter _ ↔ _
      rw [List.mem_filter, List.contains_iff_mem]
      exact and_iff_right hn
    · intro n hn hn'
      have hin := List.of_mem_filter hn
      have hout := List.of_mem_filter hn'
      rw [hin] at hout
      cases hout
    · intro d hd
      refine ⟨_, _, partialCopy_dynamic hd, partialCopy_dynamic hd, ?_⟩
      have hcount := htidy.count d hd
      dsimp only
      omega
    · intro s hs
      refine ⟨_, _, partialCopy_static hs, partialCopy_static hs, ?_⟩
      exact (keys_add_up_iff (hkeys s hs)).mpr (htidy.keys s hs)

end Laws

/--
The two parts of a nodepool add up to it iff its count or keys are those of its nodes, and replacing
nodes gives the parts back iff no ssh port is set.
-/
theorem partial_copies_iff (np : NodePool) (nodes : List String)
    (hnames : (np.nodes.map (·.name)).Nodup)
    (hkeys : ∀ s, np.type = .static s → ∀ n ∈ np.nodes, n.publicIp ∈ s.nodeKeys) :
    PartialCopies np nodes ∧ LeavesOriginal np nodes ↔ np.sshPort = 0 ∧ np.Tidy := by
  constructor
  · rintro ⟨h, -⟩
    exact ⟨replaced_partialCopy_iff.mp h.filter, (splits_iff hnames hkeys).mp h.splits⟩
  · rintro ⟨hport, htidy⟩
    refine ⟨⟨(splits_iff hnames hkeys).mpr htidy, ?_, ?_⟩, leavesOriginal np nodes⟩
    · exact replaced_partialCopy_iff.mpr hport
    · exact replaced_partialCopy_iff.mpr hport

def staticNode (name publicIp : String) : Node :=
  { name
    privateIp := ""
    publicIp
    nodeType := .worker
    username := "root"
    status := .joined
    sshPort := 0
    wireguardPort := 0 }

def twoKeys : GoMap String :=
  ((∅ : GoMap String).insert "192.0.2.1" "key-1").insert "192.0.2.2" "key-2"

def twoStaticNodes (sshPort : Int) : NodePool :=
  { type := .static ⟨twoKeys⟩
    name := "static"
    nodes := [staticNode "static-01" "192.0.2.1", staticNode "static-02" "192.0.2.2"]
    isControl := false
    labels := ∅
    taints := []
    annotations := ∅
    sshPort }

theorem twoStaticNodes_tidy (sshPort : Int) : (twoStaticNodes sshPort).Tidy where
  nodes := by
    show ["static-01", "static-02"].Nodup
    decide
  count d hd := by
    unfold twoStaticNodes at hd
    cases hd
  keys s hs ip := by
    unfold twoStaticNodes at hs
    cases hs
    show ip ∈ twoKeys ↔ ip ∈ ["192.0.2.1", "192.0.2.2"]
    simp only [twoKeys, Std.ExtTreeMap.mem_insert, Std.LawfulEqCmp.compare_eq_iff_eq,
      Std.ExtTreeMap.not_mem_empty, List.mem_cons, List.not_mem_nil]
    tauto

theorem twoStaticNodes_keys (sshPort : Int) : ∀ s, (twoStaticNodes sshPort).type = .static s →
    ∀ n ∈ (twoStaticNodes sshPort).nodes, n.publicIp ∈ s.nodeKeys := by
  intro s hs n hn
  exact ((twoStaticNodes_tidy sshPort).keys s hs n.publicIp).mpr (List.mem_map_of_mem hn)

theorem partial_copies_of_default_port : PartialCopies (twoStaticNodes 0) ["static-01"]
    ∧ LeavesOriginal (twoStaticNodes 0) ["static-01"] :=
  (partial_copies_iff (twoStaticNodes 0) ["static-01"] (twoStaticNodes_tidy 0).nodes
    (twoStaticNodes_keys 0)).mpr ⟨rfl, twoStaticNodes_tidy 0⟩

/-- The nodes listen on port 2222, but the copy with one of them would be reached on port 22. -/
theorem replaced_nodes_lose_port : (twoStaticNodes 2222).Tidy
    ∧ (partialCopyWithNodeFilter (twoStaticNodes 2222) ["static-01"]).sshPort = 2222
    ∧ (partialCopyWithReplacedNodes (twoStaticNodes 2222)
        (partialCopyWithNodeFilter (twoStaticNodes 2222) ["static-01"]).nodes
        (nodeKeys (partialCopyWithNodeFilter (twoStaticNodes 2222) ["static-01"]))).sshPort = 0
    ∧ ¬ PartialCopies (twoStaticNodes 2222) ["static-01"] := by
  refine ⟨twoStaticNodes_tidy 2222, rfl, rfl, fun h => ?_⟩
  have hport := replaced_partialCopy_iff.mp h.filter
  cases hport

end NodePools

end Claudie
