import Claudie.Kuber.PatchNodes
import Claudie.Spec.Metadata

/-!
`patch.go` of the kuber service: the JSON patches that change the labels of the nodes.
-/

namespace Claudie

namespace Kuber

/--
A JSON patch of the labels of a node. The key is the last part of the path, in which `/` is written
`~1` and `~` is written `~0`.
-/
inductive LabelPatch where
  | replace (key value : String)
  | remove (key : String)
  deriving DecidableEq

def unescapeChars : List Char → List Char
  | '~' :: '1' :: cs => '/' :: unescapeChars cs
  | '~' :: '0' :: cs => '~' :: unescapeChars cs
  | c :: cs => c :: unescapeChars cs
  | [] => []

def unescape (key : String) : String := String.ofList (unescapeChars key.toList)

-- To replace a label that is not there adds it, to remove one that is not there fails.
def LabelPatch.apply (labels : GoMap String) : LabelPatch → Option (GoMap String)
  | .replace key value => some (labels.insert (unescape key) value)
  | .remove key =>
    if labels.contains (unescape key) then some (labels.erase (unescape key)) else none

-- The patches go on after one has failed; the failure is only reported in the end.
def runPatches (patches : List LabelPatch) (node : GoMap String × Bool) : GoMap String × Bool :=
  patches.foldl (fun node patch =>
    match patch.apply node.1 with
    | some labels => (labels, node.2)
    | none => (node.1, false)) node

def labelNodePool (nodeLabels : List (String × String)) : List LabelPatch :=
  nodeLabels.map (fun kv => .replace kv.1 kv.2)

def removeLabels (toRemove : List String) : List LabelPatch :=
  toRemove.map (fun key => .remove (escape key))

def onNode (labels : GoMap String) : GoMap String :=
  (runPatches (labelNodePool labels.toList) (∅, true)).1

/--
What `Patch` does to the labels of a node of the nodepool, and whether all of it succeeds. The
patches of each of the two phases run concurrently, so that they reach the node in any order.
-/
inductive PatchRun (ord : MapOrder) (patch : Patch) (np : NodePool) (before : GoMap String) :
    GoMap String × Bool → Prop where
  | run (nodeLabels : List (String × String)) (toRemove : List String)
      (hset : nodeLabels.Perm (np.allLabels ord (patch.add.labels.getD np.name ∅)).toList)
      (hremove : toRemove.Perm (patch.remove.labels.getD np.name [])) :
    PatchRun ord patch np before
      (runPatches (removeLabels toRemove) (runPatches (labelNodePool nodeLabels) (before, true)))

end Kuber

end Claudie
