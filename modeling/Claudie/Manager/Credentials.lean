import Claudie.Manager.Lemmas.Reconcile
import Claudie.Manifest.Basic

/-!
The rotation of credentials: what is copied from the desired state into the current one, and that a
second round finds nothing left to copy.
-/

namespace Claudie

namespace ProviderType

def secrets : ProviderType → List String
  | .gcp key _ => [key]
  | .hetzner token => [token]
  | .oci _ _ keyFingerprint _ privateKey => [keyFingerprint, privateKey]
  | .aws secretKey accessKey => [accessKey, secretKey]
  | .azure _ _ _ clientSecret => [clientSecret]
  | .cloudflare token _ => [token]
  | .openstack _ _ _ id secret => [id, secret]
  | .exoscale apiKey apiSecret => [apiSecret, apiKey]
  | .cloudrift token _ => [token]
  | .verda clientId clientSecret baseUrl => [clientId, clientSecret, baseUrl.getD ""]
  | .ovh clientId clientSecret serviceName _ => [clientId, clientSecret, serviceName]

def withoutSecrets : ProviderType → ProviderType
  | .gcp _ project => .gcp "" project
  | .hetzner _ => .hetzner ""
  | .oci user tenancy _ compartment _ => .oci user tenancy "" compartment ""
  | .aws _ _ => .aws "" ""
  | .azure subscription tenant client _ => .azure subscription tenant client ""
  | .cloudflare _ accountID => .cloudflare "" accountID
  | .openstack authURL domainID projectID _ _ => .openstack authURL domainID projectID "" ""
  | .exoscale _ _ => .exoscale "" ""
  | .cloudrift _ teamId => .cloudrift "" teamId
  | .verda _ _ _ => .verda "" "" none
  | .ovh _ _ _ endpoint => .ovh "" "" "" endpoint

def kind (p : ProviderType) : String := Manifest.cloudProviderName p

variable {p p' q : ProviderType}

theorem credentialsEqual_iff :
    p.credentialsEqual q = true ↔ p.kind = q.kind ∧ p.secrets = q.secrets := by
  cases p <;> cases q <;>
    simp [credentialsEqual, kind, Manifest.cloudProviderName, secrets, and_assoc]

theorem copyCredentials_eq_some (h : p.copyCredentials q = some p') :
    p.kind = q.kind ∧ p'.secrets = q.secrets ∧ p'.withoutSecrets = p.withoutSecrets := by
  unfold copyCredentials at h
  split at h <;> cases h <;> exact ⟨rfl, rfl, rfl⟩

theorem copyCredentials_eq_none (h : p.copyCredentials q = none) : p.kind ≠ q.kind := by
  cases p <;> cases q <;> simp [copyCredentials, kind, Manifest.cloudProviderName] at h ⊢

theorem kind_eq_of_withoutSecrets (h : p.withoutSecrets = q.withoutSecrets) : p.kind = q.kind := by
  have hkind : ∀ r : ProviderType, r.withoutSecrets.kind = r.kind := by
    intro r
    cases r <;> rfl
  rw [← hkind p, h, hkind q]

end ProviderType

def Provider.withoutSecrets (p : Provider) : Provider :=
  { p with providerType := p.providerType.withoutSecrets }

namespace Manager

structure ProviderUpdated (desired p p' : Provider) : Prop where
  same : p.providerType.kind = desired.providerType.kind →
    p'.providerType.secrets = desired.providerType.secrets
  other : p.providerType.kind ≠ desired.providerType.kind → p' = p
  rest : p'.withoutSecrets = p.withoutSecrets

def NodePoolUpdated (desired : Option NodePool) (np np' : NodePool) : Prop :=
  match np.type, desired.map NodePool.type with
  | .dynamic c, some (.dynamic d) =>
    ∃ provider, np' = { np with type := .dynamic { c with provider } }
      ∧ ProviderUpdated d.provider c.provider provider
  | .static s, some (.static d) =>
    ∃ nodeKeys, np' = { np with type := .static { nodeKeys } }
      ∧ ∀ ep : String, nodeKeys[ep]? = s.nodeKeys[ep]?.map (fun key => d.nodeKeys.getD ep key)
  | _, _ => np' = np

def NodePoolsUpdated (desired nps nps' : List NodePool) : Prop :=
  nps.Forall₂ (fun np np' => NodePoolUpdated (NodePools.findByName np.name desired) np np') nps'

def DNSUpdated (desired dns dns' : Option DNS) : Prop :=
  match dns, desired with
  | some dns, some d =>
    ∃ provider, dns' = some { dns with provider } ∧ ProviderUpdated d.provider dns.provider provider
  | _, _ => dns' = dns

def LbUpdated (desired : Option LBcluster) (lb lb' : LBcluster) : Prop :=
  match desired with
  | none => lb' = lb
  | some d =>
    ∃ nps dns, lb' = { LBcluster.withNodePools lb nps with dns }
      ∧ NodePoolsUpdated d.clusterInfo.nodePools lb.clusterInfo.nodePools nps
      ∧ DNSUpdated d.dns lb.dns dns

def K8sUpdated (desired k8s k8s' : Option K8scluster) : Prop :=
  match k8s with
  | none => k8s' = none
  | some k8s =>
    ∃ nps, k8s' = some (K8scluster.withNodePools k8s nps)
      ∧ NodePoolsUpdated ((desired.map (·.clusterInfo.nodePools)).getD [])
        k8s.clusterInfo.nodePools nps

structure CredentialsUpdated (desired current updated : Clusters) : Prop where
  k8s : K8sUpdated desired.k8s current.k8s updated.k8s
  loadBalancers : current.loadBalancers.Forall₂ (fun lb lb' =>
    LbUpdated (Clusters.findLoadbalancerById lb.id desired.loadBalancers) lb lb')
    updated.loadBalancers

section updated

theorem providerUpdated (current desired : Provider) :
    ProviderUpdated desired current (updateProviderCredentials current desired).1 := by
  unfold updateProviderCredentials
  split
  next hequal =>
    have hsecrets := (ProviderType.credentialsEqual_iff.mp hequal).2
    exact ⟨fun _ => hsecrets, fun _ => rfl, rfl⟩
  next =>
    split
    next providerType hcopy =>
      obtain ⟨hkind, hsecrets, hrest⟩ := ProviderType.copyCredentials_eq_some hcopy
      refine ⟨fun _ => hsecrets, fun hne => absurd hkind hne, ?_⟩
      simp only [Provider.withoutSecrets, hrest]
    next hcopy =>
      have hne := ProviderType.copyCredentials_eq_none hcopy
      exact ⟨fun hkind => absurd hkind hne, fun _ => rfl, rfl⟩

theorem nodePoolUpdated (current desired : NodePool) :
    NodePoolUpdated (some desired) current (updateNodePoolCredentials current desired).1 := by
  unfold NodePoolUpdated updateNodePoolCredentials
  rw [Option.map_some]
  split
  next c d hc hd =>
    rw [hc, Option.some.inj hd]
    exact ⟨_, rfl, providerUpdated c.provider d.provider⟩
  next s d hs hd =>
    rw [hs, Option.some.inj hd]
    refine ⟨_, rfl, fun ep => ?_⟩
    rw [Std.ExtTreeMap.getElem?_map]
  next hdynamic hstatic =>
    split
    next c d hc hd => exact absurd (congrArg some hd) (hdynamic c d hc)
    next s d hs hd => exact absurd (congrArg some hd) (hstatic s d hs)
    next => rfl

theorem nodePoolsUpdated (current desired : List NodePool) :
    NodePoolsUpdated desired current (updateNodePoolsCredentials current desired).1 := by
  unfold NodePoolsUpdated updateNodePoolsCredentials
  dsimp only
  rw [List.map_map, List.forall₂_map_right_iff, List.forall₂_same]
  intro np _
  rw [Function.comp_apply]
  cases NodePools.findByName np.name desired with
  | none =>
    unfold NodePoolUpdated
    cases np.type <;> rfl
  | some dnp => exact nodePoolUpdated np dnp

theorem dnsUpdated (desired dns : Option DNS) :
    DNSUpdated desired dns (match dns, desired with
      | some dns, some d =>
        some { dns with provider := (updateProviderCredentials dns.provider d.provider).1 }
      | _, _ => dns) := by
  unfold DNSUpdated
  cases dns with
  | none => rfl
  | some dns =>
    cases desired with
    | none => rfl
    | some d => exact ⟨_, rfl, providerUpdated dns.provider d.provider⟩

theorem updateLbCredentials_fst (clb dlb : LBcluster) :
    (updateLbCredentials clb dlb).1
      = { LBcluster.withNodePools clb (updateNodePoolsCredentials clb.clusterInfo.nodePools
          dlb.clusterInfo.nodePools).1 with
        dns := match clb.dns, dlb.dns with
          | some dns, some d =>
            some { dns with provider := (updateProviderCredentials dns.provider d.provider).1 }
          | _, _ => clb.dns } := by
  unfold updateLbCredentials LBcluster.withNodePools
  dsimp only
  split <;> simp_all

theorem credentialsUpdated (current desired : Clusters) :
    CredentialsUpdated desired current (updateCredentials current desired).1 := by
  constructor
  · change K8sUpdated _ _ (updateK8sCredentials current.k8s desired.k8s).1
    cases current.k8s with
    | none => rfl
    | some k8s => exact ⟨_, rfl, nodePoolsUpdated _ _⟩
  · change List.Forall₂ _ _ (updateLbsCredentials current.loadBalancers desired.loadBalancers).1
    unfold updateLbsCredentials
    dsimp only
    rw [List.map_map, List.forall₂_map_right_iff, List.forall₂_same]
    intro lb _
    rw [Function.comp_apply]
    cases Clusters.findLoadbalancerById lb.id desired.loadBalancers with
    | none => rfl
    | some dlb =>
      exact ⟨_, _, updateLbCredentials_fst lb dlb, nodePoolsUpdated _ _, dnsUpdated _ _⟩

end updated

section again

theorem updateProviderCredentials_again (current desired : Provider) :
    (updateProviderCredentials (updateProviderCredentials current desired).1 desired).2
      = false := by
  have hupdated := providerUpdated current desired
  generalize (updateProviderCredentials current desired).1 = updated at hupdated
  have hrest := congrArg Provider.providerType hupdated.rest
  have hkind := ProviderType.kind_eq_of_withoutSecrets hrest
  unfold updateProviderCredentials
  split
  next => rfl
  next hne =>
    split
    next providerType hcopy =>
      have hsame := (ProviderType.copyCredentials_eq_some hcopy).1
      have hequal := ProviderType.credentialsEqual_iff.mpr
        ⟨hsame, hupdated.same (hkind.symm.trans hsame)⟩
      exact absurd hequal hne
    next => rfl

theorem updateNodePoolCredentials_again (current desired : NodePool) :
    (updateNodePoolCredentials (updateNodePoolCredentials current desired).1 desired).2
      = false := by
  obtain ⟨type, name, nodes, isControl, labels, taints, annotations, sshPort⟩ := current
  unfold updateNodePoolCredentials
  cases type with
  | dynamic c =>
    cases hd : desired.type with
    | dynamic d => exact updateProviderCredentials_again c.provider d.provider
    | static d => rfl
  | static s =>
    cases hd : desired.type with
    | dynamic d => rfl
    | static d =>
      dsimp only
      rw [decide_eq_false_iff_not, not_not]
      refine Std.ExtTreeMap.ext_getElem? fun ep => ?_
      rw [Std.ExtTreeMap.getElem?_map, Std.ExtTreeMap.getElem?_map, Option.map_map]
      refine congrArg (Option.map · s.nodeKeys[ep]?) (funext fun key => ?_)
      rw [Function.comp_apply, Std.ExtTreeMap.getD_eq_getD_getElem?,
        Std.ExtTreeMap.getD_eq_getD_getElem?]
      cases d.nodeKeys[ep]? <;> rfl

theorem name_updateNodePoolCredentials (current desired : NodePool) :
    (updateNodePoolCredentials current desired).1.name = current.name := by
  unfold updateNodePoolCredentials
  split <;> rfl

theorem any_again {α : Type} {f : α → α × Bool} (hf : ∀ a, (f (f a).1).2 = false) (l : List α) :
    (((l.map f).map (·.1)).map f).any (·.2) = false := by
  rw [List.map_map, List.any_map, List.any_map, List.any_eq_false]
  intro a _
  exact Bool.eq_false_iff.mp (hf a)

theorem updateNodePoolsCredentials_again (current desired : List NodePool) :
    (updateNodePoolsCredentials (updateNodePoolsCredentials current desired).1 desired).2
      = false := by
  refine any_again (fun np => ?_) current
  cases hfind : NodePools.findByName np.name desired with
  | none => simp only [hfind]
  | some dnp =>
    simp only [name_updateNodePoolCredentials, hfind]
    exact updateNodePoolCredentials_again np dnp

theorem id_updateLbCredentials (clb dlb : LBcluster) :
    (updateLbCredentials clb dlb).1.id = clb.id := by
  rw [updateLbCredentials_fst]
  rfl

theorem updateLbCredentials_again (clb dlb : LBcluster) :
    (updateLbCredentials (updateLbCredentials clb dlb).1 dlb).2 = false := by
  have hnps := updateNodePoolsCredentials_again clb.clusterInfo.nodePools dlb.clusterInfo.nodePools
  rw [updateLbCredentials_fst]
  unfold updateLbCredentials
  dsimp only [LBcluster.withNodePools]
  cases hc : clb.dns with
  | none => exact hnps
  | some dns =>
    cases hd : dlb.dns with
    | none => exact hnps
    | some d =>
      exact Bool.or_eq_false_iff.mpr ⟨hnps, updateProviderCredentials_again dns.provider d.provider⟩

theorem updateCredentials_again (current desired : Clusters) :
    (updateCredentials (updateCredentials current desired).1 desired).2 = false := by
  refine Bool.or_eq_false_iff.mpr ⟨?_, ?_⟩
  · change (updateK8sCredentials (updateK8sCredentials current.k8s desired.k8s).1 desired.k8s).2
      = false
    cases current.k8s with
    | none => rfl
    | some k8s => exact updateNodePoolsCredentials_again _ _
  · refine any_again (fun clb => ?_) current.loadBalancers
    cases hfind : Clusters.findLoadbalancerById clb.id desired.loadBalancers with
    | none => simp only [hfind]
    | some dlb =>
      simp only [id_updateLbCredentials, hfind]
      exact updateLbCredentials_again clb dlb

theorem updateCredentials_twice (current desired : Clusters) :
    updateCredentials (updateCredentials current desired).1 desired
      = ((updateCredentials current desired).1, false) :=
  Prod.ext (updateCredentials_of_not_updated (updateCredentials_again current desired))
    (updateCredentials_again current desired)

end again

theorem updateCredentials_settles (current desired : Clusters) :
    CredentialsUpdated desired current (updateCredentials current desired).1
      ∧ ((updateCredentials current desired).2 = true
        ↔ (updateCredentials current desired).1 ≠ current)
      ∧ updateCredentials (updateCredentials current desired).1 desired
        = ((updateCredentials current desired).1, false) := by
  have hagain := updateCredentials_again current desired
  refine ⟨credentialsUpdated current desired, ⟨fun hupdated heq => ?_, fun hne => ?_⟩,
    updateCredentials_twice current desired⟩
  · rw [heq, hupdated] at hagain
    cases hagain
  · by_contra hnot
    exact hne (updateCredentials_of_not_updated (Bool.not_eq_true _ ▸ hnot))

end Manager

end Claudie
