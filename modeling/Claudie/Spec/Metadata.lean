import Claudie.NodePools

/-!
`metadata.go` of `proto/pb/spec` and `sanitise.go`: the labels of the nodes of a nodepool.
-/

namespace Claudie

-- `strings.ReplaceAll` of one character by another.
def replaceAll (old new : Char) (s : String) : String :=
  String.ofList (s.toList.map (fun c => if c = old then new else c))

def sanitise (s : String) : String :=
  let sanitised := String.ofList (s.toList.map Char.toLower)
  let sanitised := replaceAll ' ' '-' sanitised
  let sanitised := replaceAll ':' '-' sanitised
  replaceAll '_' '-' sanitised

-- `/` has to be escaped in the path of a JSON patch.
def escape (s : String) : String :=
  String.ofList (s.toList.flatMap (fun c => if c = '/' then ['~', '1'] else [c]))

namespace LabelKey

def nodepoolKey : String := "claudie.io~1nodepool"

def providerKey : String := "claudie.io~1provider"

def providerInstanceKey : String := "claudie.io~1provider-instance"

def nodeTypeKey : String := "claudie.io~1node-type"

def kubernetesZoneKey : String := "topology.kubernetes.io~1zone"

def kubernetesRegionKey : String := "topology.kubernetes.io~1region"

def kubernetesOsKey : String := "kubernetes.io~1os"

def kubeoneOsKey : String := "v1.kubeone.io~1operating-system"

def spotKey : String := "claudie.io~1spot"

end LabelKey

def spotValue : String := "true"

namespace NodePool

open LabelKey

def getNodeType (np : NodePool) : String := if np.isControl then "control" else "compute"

def staticLabels (np : NodePool) : List (String × String) :=
  match np.type with
  | .static _ =>
    [(providerKey, sanitise "STATIC_PROVIDER"), (providerInstanceKey, sanitise "STATIC_PROVIDER"),
      (kubernetesZoneKey, sanitise "STATIC_ZONE"), (kubernetesRegionKey, sanitise "STATIC_REGION")]
  | .dynamic _ => []

def assignedLabels (np : NodePool) : List (String × String) :=
  [(nodepoolKey, np.name), (nodeTypeKey, np.getNodeType), (kubernetesOsKey, "linux"),
      (kubeoneOsKey, "ubuntu")]
    ++ match np.type with
      | .static _ => []
      | .dynamic n =>
        [(providerKey, n.provider.cloudProviderName), (providerInstanceKey, n.provider.specName),
            (kubernetesZoneKey, sanitise n.zone), (kubernetesRegionKey, sanitise n.region)]
          ++ if n.spot then [(spotKey, spotValue)] else []

def userLabels (ord : MapOrder) (loop : String) (labels : GoMap String) :
    List (String × String) :=
  (ord.range loop labels).map (fun (k, v) => (escape (sanitise k), sanitise v))

def allLabels (ord : MapOrder) (np : NodePool) (additionalLabels : GoMap String) : GoMap String :=
  let set := fun (m : GoMap String) (kv : String × String) => m.insert kv.1 kv.2
  let m := np.staticLabels.foldl set ∅
  let m := (userLabels ord "labels" np.labels).foldl set m
  let m := (userLabels ord "additional labels" additionalLabels).foldl set m
  np.assignedLabels.foldl set m

end NodePool

end Claudie
