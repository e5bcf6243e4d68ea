import Claudie.Spec.Utils

/-!
The package `internal/nodepools`: lookups in lists of nodepools and the functions that move nodes
between them.
-/

namespace Claudie

namespace NodePools

def hashLength : Nat := 7

def findByName (name : String) (nps : List NodePool) : Option NodePool :=
  nps.find? (·.name = name)

def deleteByName (nps : List NodePool) (name : String) : List NodePool :=
  nps.eraseP (·.name = name)

-- The assignment through the pointer that `FindByName` returns.
def modifyByName (name : String) (f : NodePool → Outcome NodePool) :
    List NodePool → Outcome (List NodePool)
  | [] => .ok []
  | np :: nps =>
    if np.name = name then do
      let np ← f np
      pure (np :: nps)
    else do
      let nps ← modifyByName name f nps
      pure (np :: nps)

def containsNode (nps : List NodePool) (node : String) : Bool :=
  nps.any (fun np => np.nodes.any (·.name = node))

def findNode (nps : List NodePool) (node : String) : Option (NodePool × Node) :=
  nps.findSome? (fun np => (np.nodes.find? (·.name = node)).map (np, ·))

def isAutoscaled (np : NodePool) : Bool :=
  match np.dynamic? with
  | some d => d.autoscalerConfig.isSome
  | none => false

def autoscaled (nps : List NodePool) : List NodePool := nps.filter isAutoscaled

def static (nps : List NodePool) : List NodePool := nps.filter (·.isStatic)

def control (nps : List NodePool) : List NodePool := nps.filter (·.isControl)

def findApiEndpoint (nps : List NodePool) : Option (NodePool × Node) :=
  nps.findSome? (fun np => if np.isControl then np.endpointNode.map (np, ·) else none)

def firstControlNode (nps : List NodePool) : Option Node :=
  nps.findSome? (fun np => if np.isControl then np.nodes.head? else none)

-- The split of a name at its last `-`, as `strings.LastIndex` finds it.
def splitLast (s : String) : Option (String × String) :=
  let cs := s.toList
  let suffix := (cs.reverse.takeWhile (· ≠ '-')).reverse
  if suffix.length = cs.length then none
  else some (String.ofList (cs.take (cs.length - suffix.length - 1)), String.ofList suffix)

def matchNameAndHashWithTemplate (nodepoolType nodepoolName : String) : String × String :=
  if nodepoolName.utf8ByteSize ≠ nodepoolType.utf8ByteSize + hashLength + 1 then ("", "")
  else
    match splitLast nodepoolName with
    | none => ("", "")
    | some (t, h) => if t ≠ nodepoolType then ("", "") else (t, h)

def hasNodePoolTypeOf (nodepoolType nodepoolName : String) : Bool :=
  nodepoolType = (matchNameAndHashWithTemplate nodepoolType nodepoolName).1

def mustExtractNameAndHash (pool : String) : Outcome (String × String) :=
  Outcome.deref (splitLast pool)

def targetNodes (np : NodePool) (nodes : List String) : List Node :=
  np.nodes.filter (fun n => nodes.contains n.name)

def cloneTargetNodes (np : Option NodePool) (nodes : List String) : List Node :=
  match np with
  | none => []
  | some np => targetNodes np nodes

def copyKeys (src dst : GoMap String) (nodes : List Node) : GoMap String :=
  nodes.foldl (fun keys n => keys.insert n.publicIp (src.getD n.publicIp "")) dst

/--
`dst` is always a clone, in which a map without entries is `nil`: a write to it panics.
-/
def copyNodes (dst src : NodePool) (nodes : List String) : Outcome NodePool :=
  let added := targetNodes src nodes
  match dst.type, src.type with
  | .dynamic d, .dynamic _ =>
    .ok { dst with
      nodes := dst.nodes ++ added
      type := .dynamic { d with count := d.count + added.length } }
  | .static d, .static s =>
    if added ≠ [] ∧ d.nodeKeys.isEmpty then .error .panic
    else
      .ok { dst with
        nodes := dst.nodes ++ added
        type := .static { nodeKeys := copyKeys s.nodeKeys d.nodeKeys added } }
  | _, _ => .ok dst

-- `CopyNodes(FindByName(np, dst), FindByName(np, src), nodes)`
def copyNodesByName (np : String) (dst src : List NodePool) (nodes : List String) :
    Outcome (List NodePool) := do
  let src ← Outcome.deref (findByName np src)
  modifyByName np (fun dst => copyNodes dst src nodes) dst

def appendDynamicNodes (dst : NodePool) (nodes : List Node) : NodePool :=
  match dst.type with
  | .dynamic d =>
    { dst with
      nodes := dst.nodes ++ nodes
      type := .dynamic { d with count := d.count + nodes.length } }
  | .static _ => dst

def deleteNodes (np : NodePool) (nodes : List String) : NodePool :=
  let deleted := targetNodes np nodes
  let nodes := np.nodes.filter (fun n => !nodes.contains n.name)
  match np.type with
  | .dynamic d =>
    { np with nodes := nodes, type := .dynamic { d with count := d.count - deleted.length } }
  | .static s =>
    { np with
      nodes := nodes
      type := .static
        { nodeKeys := deleted.foldl (fun keys n => keys.erase n.publicIp) s.nodeKeys } }

-- The type of a shallow copy that has only `nodes`, with the keys that `keys` has for a static one.
def partialType (np : NodePool) (nodes : List Node) (keys : GoMap String → GoMap String) :
    NodePoolType :=
  match np.type with
  | .dynamic d => .dynamic { d with count := nodes.length }
  | .static s => .static { nodeKeys := keys s.nodeKeys }

def partialCopy (np : NodePool) (keep : Node → Bool) : NodePool :=
  let nodes := np.nodes.filter keep
  { np with nodes, type := partialType np nodes (fun keys => copyKeys keys ∅ nodes) }

def partialCopyWithNodeExclusion (np : NodePool) (nodes : List String) : NodePool :=
  partialCopy np (fun n => !nodes.contains n.name)

def partialCopyWithNodeFilter (np : NodePool) (nodes : List String) : NodePool :=
  partialCopy np (fun n => nodes.contains n.name)

-- The ssh port of the nodepool is not copied.
def partialCopyWithReplacedNodes (np : NodePool) (nodes : List Node) (nodeKeys : GoMap String) :
    NodePool :=
  { np with nodes, type := partialType np nodes (fun _ => nodeKeys), sshPort := 0 }

end NodePools

namespace Clusters

def findLoadbalancerById (id : String) (lbs : List LBcluster) : Option LBcluster :=
  lbs.find? (·.id = id)

def indexLoadbalancerById (id : String) (lbs : List LBcluster) : Option Nat :=
  lbs.findIdx? (·.id = id)

def findAssignedLbApiEndpoint (lbs : List LBcluster) : Option LBcluster :=
  lbs.find? (·.isApiEndpoint)

def kubernetesNodePools (c : Clusters) : List NodePool :=
  (c.k8s.map (·.clusterInfo.nodePools)).getD []

def isEmpty (c : Clusters) : Bool := c.k8s.isNone && c.loadBalancers.isEmpty

end Clusters

end Claudie
