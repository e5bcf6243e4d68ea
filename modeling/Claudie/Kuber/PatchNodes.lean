import Claudie.NodePools
import Claudie.Spec.Task

/-!
`task_patch_nodes.go` of the kuber service: labels, annotations and taints are put on the nodes of
the cluster and, once that succeeded, into the tracked state.
-/

namespace Claudie

namespace Kuber

structure Patch where
  add : AddBatch
  remove : RemoveBatch
  deriving DecidableEq

def removeAnnotationsLabelsTaints (remove : RemoveBatch) (np : NodePool) : NodePool :=
  { np with
    annotations := (remove.annotations.getD np.name []).foldl (fun m k => m.erase k) np.annotations
    labels := (remove.labels.getD np.name []).foldl (fun m k => m.erase k) np.labels
    taints := np.taints.filter (fun t => !(remove.taints.getD np.name []).contains t) }

def compareTaints (l r : Taint) : Ordering :=
  (compare l.effect r.effect).then ((compare l.key r.key).then (compare l.value r.value))

-- `slices.CompactFunc`
def compact : List Taint → List Taint
  | l :: r :: ts => if l = r then compact (r :: ts) else l :: compact (r :: ts)
  | ts => ts

def updateExistingAnnotationsLabelsTaints (add : AddBatch) (np : NodePool) : NodePool :=
  { np with
    annotations := np.annotations ∪ add.annotations.getD np.name ∅
    labels := np.labels ∪ add.labels.getD np.name ∅
    taints :=
      match add.taints[np.name]? with
      | some ts => compact ((np.taints ++ ts).mergeSort (fun l r => (compareTaints l r).isLE))
      | none => np.taints }

def buildPatchAllNodes (k8s : K8scluster) : Patch :=
  { add := k8s.clusterInfo.nodePools.foldl (fun add np =>
      { taints := add.taints.insert np.name np.taints
        labels := add.labels.insert np.name np.labels
        annotations := add.annotations.insert np.name np.annotations }) ⟨∅, ∅, ∅⟩
    remove := ⟨∅, ∅, ∅⟩ }

def extractPatchFromUpdate (k8s : K8scluster) : Delta → Option Patch
  | .none => some (buildPatchAllNodes k8s)
  | .kpatchNodes add remove => some ⟨add, remove⟩
  | .addedK8sNodes _ nodepool _ =>
    (NodePools.findByName nodepool k8s.clusterInfo.nodePools).map (fun np =>
      { add :=
          { taints := (∅ : GoMap (List Taint)).insert np.name np.taints
            labels := (∅ : GoMap (GoMap String)).insert np.name np.labels
            annotations := (∅ : GoMap (GoMap String)).insert np.name np.annotations }
        remove := ⟨∅, ∅, ∅⟩ })
  | _ => none

def applyPatch (patch : Patch) (k8s : K8scluster) : K8scluster :=
  let nodePools := k8s.clusterInfo.nodePools.map (fun np =>
    updateExistingAnnotationsLabelsTaints patch.add (removeAnnotationsLabelsTaints patch.remove np))
  { k8s with clusterInfo := { k8s.clusterInfo with nodePools } }

-- The kubernetes cluster of the update, none if nothing is updated; `patchNodes` is whether the
-- patches of the nodes succeed.
def patchNodes (patchNodes : Patch → K8scluster → Bool) : Task → Outcome (Option K8scluster)
  | .create state => do
    let k8s ← Outcome.deref state.k8s
    let patch := buildPatchAllNodes k8s
    pure (if patchNodes patch k8s then some (applyPatch patch k8s) else none)
  | .update state delta => do
    let k8s ← Outcome.deref state.k8s
    match extractPatchFromUpdate k8s delta with
    | none => pure none
    | some patch => pure (if patchNodes patch k8s then some (applyPatch patch k8s) else none)
  | _ => pure none

end Kuber

end Claudie
