import Claudie.Manager.Diff

/-!
`generate_state.go` and `rolling_update.go`: names, subnets and keys for new nodepools and nodes.
-/

namespace Claudie

namespace Manager

/--
The random values drawn in one reconciliation of a cluster: the sequence of hashes and a key pair,
which is missing if its generation failed.
-/
structure Entropy where
  hashes : List String
  keyPair : Option (String × String)
  deriving DecidableEq

def subnetCIDR (octet : Nat) : String := s!"10.0.{octet}.0/24"

def getCIDR (existing : List String) : Outcome String :=
  match (List.range 256).find? (fun i => !existing.contains (subnetCIDR i)) with
  | some i => .ok (subnetCIDR i)
  | none => .error (.error "maximum number of IPs assigned")

def DynamicNodePool.providerRegion (d : DynamicNodePool) : String :=
  s!"{d.provider.specName}-{d.region}"

def existingCIDRs (nps : List NodePool) : GoMap (List String) :=
  nps.foldl (fun m np =>
    match np.dynamic? with
    | some d => m.appendAt (DynamicNodePool.providerRegion d) [d.cidr]
    | none => m) ∅

-- Nodepools of one provider and region share a list of subnets; the others do not influence it.
def calculateCIDR (existing : GoMap (List String)) : List NodePool → Outcome (List NodePool)
  | [] => pure []
  | np :: nps =>
    match np.type with
    | .dynamic d =>
      if d.cidr ≠ "" then do
        let nps ← calculateCIDR existing nps
        pure (np :: nps)
      else do
        let key := DynamicNodePool.providerRegion d
        let cidr ← getCIDR (existing.getD key [])
        let nps ← calculateCIDR (existing.appendAt key [cidr]) nps
        pure ({ np with type := .dynamic { d with cidr } } :: nps)
    | .static _ => do
      let nps ← calculateCIDR existing nps
      pure (np :: nps)

def generateMissingCIDR (current desired : Clusters) : Outcome Clusters := do
  let k8s ← match desired.k8s with
    | none => pure none
    | some k8s => do
      let existing := existingCIDRs ((current.k8s.map (·.clusterInfo.nodePools)).getD [])
      let nps ← calculateCIDR existing k8s.clusterInfo.nodePools
      pure (some (K8scluster.withNodePools k8s nps))
  let lbs ← desired.loadBalancers.mapM (fun lb => do
    let existing := existingCIDRs
      (((Clusters.findLoadbalancerById lb.id current.loadBalancers).map
        (·.clusterInfo.nodePools)).getD [])
    let nps ← calculateCIDR existing lb.clusterInfo.nodePools
    pure (LBcluster.withNodePools lb nps))
  pure ⟨k8s, lbs⟩

def hexDigit (n : Nat) : Char := (Nat.digitChar (n % 16))

-- `fmt.Sprintf("%02x", n)`
def hexByte (n : Nat) : String := String.ofList [hexDigit (n / 16), hexDigit n]

def uniqueNodeName (nodepoolID : String) (existingNames : List String) : Outcome String :=
  if existingNames.length + 1 > 255 then .error .panic
  else
    Outcome.deref (((List.range 255).map (fun i => nodepoolID ++ "-" ++ hexByte (i + 1))).find?
      (fun candidate => !existingNames.contains candidate))

def populateNames (nodepoolID : String) (nodeType : NodeType) (names : List String) :
    Nat → Outcome (List Node)
  | 0 => pure []
  | missing + 1 => do
    let name ← uniqueNodeName nodepoolID names
    let nodes ← populateNames nodepoolID nodeType (names ++ [name]) missing
    pure ({ name, privateIp := "", publicIp := "", nodeType, username := "", status := .preparing,
            sshPort := 0, wireguardPort := 0 } :: nodes)

def populateDynamicNodes (clusterID : String) (np : NodePool) : Outcome NodePool := do
  let d ← Outcome.deref np.dynamic?
  let nodes ← populateNames (clusterID ++ "-" ++ np.name)
    (if np.isControl then .master else .worker) ((np.nodes.map (·.name)).eraseDups)
    (d.count.toNat - np.nodes.length)
  pure { np with nodes := np.nodes ++ nodes }

def unusedName (name : String) (used : List String) : List String → Outcome String
  | [] => .error .panic
  | hash :: hashes =>
    if used.contains (name ++ "-" ++ hash) then unusedName name used hashes
    else pure (name ++ "-" ++ hash)

def createNodePoolForRollingUpdate (entropy : Entropy) (current : Clusters)
    (cid : Option LoadBalancerIdentifier) (nodepool : String) (newTemplates : TemplateRepository) :
    Outcome NodePool := do
  let k8s ← Outcome.deref current.k8s
  let info ← match cid with
    | none => pure k8s.clusterInfo
    | some cid => do
      let lb ← Outcome.deref current.loadBalancers[cid.index]?
      pure lb.clusterInfo
  let reference ← Outcome.deref (NodePools.findByName nodepool info.nodePools)
  -- 1. Generate a New Name for the nodepool.
  let (n, _) ← NodePools.mustExtractNameAndHash reference.name
  let name ← unusedName n (info.nodePools.map (·.name)) entropy.hashes
  let inner ← Outcome.deref reference.dynamic?
  -- 2. Generate new keys.
  let (publicKey, privateKey) ← match entropy.keyPair with
    | some keys => pure keys
    | none => .error (.error s!"error while create SSH key pair for nodepool {name}")
  let inner := { inner with publicKey, privateKey, cidr := "" }
  let new := { reference with name, nodes := [], type := .dynamic inner }
  -- 3. Generate new CIDRs
  let new ← match cid with
    | none => do
      let wanted := ⟨some (K8scluster.withNodePools k8s (info.nodePools ++ [new])),
        current.loadBalancers⟩
      let wanted ← generateMissingCIDR current wanted
      Outcome.deref (wanted.k8s.bind (·.clusterInfo.nodePools.getLast?))
    | some cid => do
      let wanted := ⟨current.k8s, current.loadBalancers.modify cid.index (fun lb =>
        LBcluster.withNodePools lb (info.nodePools ++ [new]))⟩
      let wanted ← generateMissingCIDR current wanted
      Outcome.deref (wanted.loadBalancers[cid.index]?.bind (·.clusterInfo.nodePools.getLast?))
  let inner ← Outcome.deref new.dynamic?
  -- 4. Replace Templates
  let inner := { inner with provider.templates := newTemplates }
  -- 5. Generate Nodes.
  populateDynamicNodes info.id { new with type := .dynamic inner }

end Manager

end Claudie
