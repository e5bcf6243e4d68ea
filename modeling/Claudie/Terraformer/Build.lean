import Claudie.NodePools

/-!
`ReconcileNodePools`, `CreateDNSRecords` and the two `Build` methods of the terraformer service. They
write what tofu reports into the cluster they are given, so that a failure in the middle leaves the
part that was already written.
-/

namespace Claudie

namespace Terraformer

inductive Cluster where
  | kubernetes (k8s : K8scluster)
  | loadBalancer (lb : LBcluster)

def Cluster.id : Cluster → String
  | .kubernetes k8s => k8s.id
  | .loadBalancer lb => lb.id

structure NodeOutput where
  ip : String
  sshPort : Int
  wireguardPort : Int

structure Tofu where
  apply : Except String Unit
  -- the output of a nodepool, and in it the value of a node.
  output : String → Except String (String → Option (Except String NodeOutput))
  applyDns : Except String Unit
  endpoint : Except String String
  -- an alternative name that the templates have no output for is skipped.
  alternativeName : String → Option (Except String String)

def NodeOutput.assign (out : NodeOutput) (n : Node) : Node :=
  { n with
    publicIp := out.ip
    sshPort := if out.sshPort > 0 then out.sshPort else n.sshPort
    wireguardPort := if out.wireguardPort > 0 then out.wireguardPort else n.wireguardPort }

def readNodes (out : String → Option (Except String NodeOutput)) (nodepool : String) :
    List Node → List Node × Option String
  | [] => ([], none)
  | n :: nodes =>
    match out n.name with
    | none =>
      (n :: nodes, some (s!"node {n.name} from nodepool {nodepool} was missing from the tofu "
        ++ "output, possibly the VM was not properly created"))
    | some (.error e) =>
      (n :: nodes, some s!"node {quoted n.name} from nodepool {quoted nodepool}: {e}")
    | some (.ok val) =>
      if val.ip = "" then
        (n :: nodes, some (s!"node {quoted n.name} from nodepool {quoted nodepool} has no public "
          ++ "address assigned"))
      else
        let (nodes, err) := readNodes out nodepool nodes
        (val.assign n :: nodes, err)

def readNodePools (tofu : Tofu) : List NodePool → List NodePool × Option String
  | [] => ([], none)
  | np :: nps =>
    match np.type with
    | .static _ =>
      let (nps, err) := readNodePools tofu nps
      (np :: nps, err)
    | .dynamic _ =>
      match tofu.output np.name with
      | .error e => (np :: nps, some e)
      | .ok out =>
        match readNodes out np.name np.nodes with
        | (nodes, some err) => ({ np with nodes } :: nps, some err)
        | (nodes, none) =>
          let (nps, err) := readNodePools tofu nps
          ({ np with nodes } :: nps, err)

def reconcileNodePools (tofu : Tofu) (nps : List NodePool) : List NodePool × Option String :=
  match tofu.apply with
  | .error e => (nps, some e)
  | .ok () => readNodePools tofu nps

def K8scluster.build (tofu : Tofu) (k8s : K8scluster) : K8scluster × Option String :=
  let (nodePools, err) := reconcileNodePools tofu k8s.clusterInfo.nodePools
  (K8scluster.withNodePools k8s nodePools,
    err.map (fun e => "failed to create desired nodepools: error while creating the K8s cluster "
      ++ s!"{k8s.clusterInfo.name} : {e}"))

-- The last byte of the domain is read without a check for the empty domain.
def validateDomain (s : String) : Outcome String :=
  match s.toList.getLast? with
  | none => .error .panic
  | some c => .ok (if c = '.' then String.ofList s.toList.dropLast else s)

def readAlternativeNames (tofu : Tofu) :
    List AlternativeName → Outcome (List AlternativeName × Option String)
  | [] => pure ([], none)
  | n :: names =>
    match tofu.alternativeName n.hostname with
    | none => do
      let (names, err) ← readAlternativeNames tofu names
      pure (n :: names, err)
    | some (.error e) =>
      pure (n :: names, some s!"error while reading alternative {n.hostname} name: {e}")
    | some (.ok domain) => do
      let endpoint ← validateDomain domain
      let (names, err) ← readAlternativeNames tofu names
      pure ({ n with endpoint } :: names, err)

def createDNSRecords (tofu : Tofu) (dns : DNS) : Outcome (DNS × Option String) :=
  match tofu.applyDns, tofu.endpoint with
  | .error e, _ => pure (dns, some e)
  | .ok (), .error e => pure (dns, some e)
  | .ok (), .ok domain => do
    let endpoint ← validateDomain domain
    let (alternativeNames, err) ← readAlternativeNames tofu dns.alternativeNames
    pure ({ dns with endpoint, alternativeNames }, err)

def LBcluster.build (tofu : Tofu) (lb : LBcluster) : Outcome (LBcluster × Option String) :=
  let (nodePools, err) := reconcileNodePools tofu lb.clusterInfo.nodePools
  let lb := LBcluster.withNodePools lb nodePools
  match err with
  | some e =>
    pure (lb, some ("failed to create desired nodepools: error while creating the LB cluster "
      ++ s!"{lb.clusterInfo.name} : {e}"))
  | none => do
    let dns ← Outcome.deref lb.dns
    let (dns, err) ← createDNSRecords tofu dns
    pure ({ lb with dns := some dns },
      err.map (fun e => s!"failed to create DNS record for {lb.clusterInfo.name}: {e}"))

end Terraformer

end Claudie
