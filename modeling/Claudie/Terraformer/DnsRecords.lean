import Claudie.Terraformer.Destroy

/-!
Whether the dns records of a load balancer outlive it.
-/

namespace Claudie

namespace Terraformer

def DnsCreated (lb : LBcluster) : Prop := ∃ dns, lb.dns = some dns ∧ dns.endpoint ≠ ""

structure DestroysDnsRecords (lb : LBcluster) : Prop where
  records : ∀ t r, r.dnsRecords = true → (LBcluster.destroy t lb r).2 = none →
    (LBcluster.destroy t lb r).1.dnsRecords = false
  stateFile : ∀ t r, r.dnsRecords = true → r.dnsStateFile = true →
    (destroyCluster t (.loadBalancer lb) r).1.dnsStateFile = false →
      (destroyCluster t (.loadBalancer lb) r).1.dnsRecords = false

section

variable {t : Teardown} {lb : LBcluster} {r : Remote}

theorem destroyDNSRecords_dnsStateFile :
    (destroyDNSRecords t r).1.dnsStateFile = r.dnsStateFile := by
  unfold destroyDNSRecords
  split <;> rfl

theorem destroyDNSRecords_dnsRecords (h : (destroyDNSRecords t r).2 = none) :
    (destroyDNSRecords t r).1.dnsRecords = false := by
  unfold destroyDNSRecords at h ⊢
  cases herr : t.destroyDNSRecords with
  | some e =>
    rw [herr] at h
    cases h
  | none => rfl

theorem destroy_of_addresses (hdns : DnsCreated lb)
    (h : (publicEndpoints lb.clusterInfo.nodePools).countP (· = "") ≤ 1) :
    LBcluster.destroy t lb r
      = ((destroyDNSRecords t r).1, t.destroyNodepools <|> (destroyDNSRecords t r).2) := by
  obtain ⟨dns, hdns, -⟩ := hdns
  unfold LBcluster.destroy
  rw [hdns]
  simp only [gt_iff_lt, Nat.not_lt.mpr h, if_false]

theorem destroy_of_no_addresses
    (h : 1 < (publicEndpoints lb.clusterInfo.nodePools).countP (· = "")) :
    LBcluster.destroy t lb r = (r, t.destroyNodepools <|> none) := by
  unfold LBcluster.destroy
  cases lb.dns with
  | none => rfl
  | some dns => simp only [gt_iff_lt, h, if_true]

-- The state file of the records is looked at only after the load balancer is destroyed.
theorem destroyCluster_dnsStateFile (hfile : r.dnsStateFile = true)
    (hkeep : (LBcluster.destroy t lb r).1.dnsStateFile = r.dnsStateFile)
    (h : (destroyCluster t (.loadBalancer lb) r).1.dnsStateFile = false) :
    (LBcluster.destroy t lb r).2 = none
      ∧ (destroyCluster t (.loadBalancer lb) r).1.dnsRecords
        = (LBcluster.destroy t lb r).1.dnsRecords := by
  unfold destroyCluster at h ⊢
  simp only [Cluster.destroy] at h ⊢
  cases hstat : t.stat with
  | some e =>
    simp only [hstat, hfile] at h
    cases h
  | none =>
    cases hstate : r.stateFile with
    | false =>
      simp only [hstat, hstate, Bool.not_false, if_true, hfile] at h
      cases h
    | true =>
      simp only [hstat, hstate, Bool.not_true, Bool.false_eq_true, if_false] at h ⊢
      generalize LBcluster.destroy t lb r = d at hkeep h ⊢
      obtain ⟨r', err⟩ := d
      cases err with
      | some e =>
        rw [hfile] at hkeep
        cases hkeep.symm.trans h
      | none =>
        refine ⟨rfl, ?_⟩
        cases t.removeTemplates <;> rfl

end

theorem dns_records_are_destroyed {lb : LBcluster} (hdns : DnsCreated lb) :
    DestroysDnsRecords lb
      ↔ (publicEndpoints lb.clusterInfo.nodePools).countP (· = "") ≤ 1 := by
  constructor
  · intro h
    refine Nat.not_lt.mp (fun hlt => ?_)
    have hdestroy := @destroy_of_no_addresses ⟨none, none, none, true, none, true, none⟩ lb
      ⟨true, true, true⟩ hlt
    have hrecords := h.records _ ⟨true, true, true⟩ rfl (by rw [hdestroy]; rfl)
    rw [hdestroy] at hrecords
    cases hrecords
  · intro h
    have hrecords : ∀ t r, (LBcluster.destroy t lb r).2 = none →
        (LBcluster.destroy t lb r).1.dnsRecords = false := by
      intro t r hnone
      rw [destroy_of_addresses hdns h] at hnone ⊢
      refine destroyDNSRecords_dnsRecords ?_
      cases hnodes : t.destroyNodepools with
      | some e =>
        rw [hnodes] at hnone
        cases hnone
      | none =>
        rw [hnodes] at hnone
        exact hnone
    refine ⟨fun t r _ => hrecords t r, fun t r _ hfile hgone => ?_⟩
    have hkeep : (LBcluster.destroy t lb r).1.dnsStateFile = r.dnsStateFile := by
      rw [destroy_of_addresses hdns h]
      exact destroyDNSRecords_dnsStateFile
    obtain ⟨hnone, hsame⟩ := destroyCluster_dnsStateFile hfile hkeep hgone
    rw [hsame]
    exact hrecords t r hnone

namespace Demo.DnsRecords

def node (name ip : String) : Node := ⟨name, "", ip, .worker, "", .preparing, 22, 51820⟩

def provider : Provider :=
  ⟨"hetzner-1", "hetzner", .hetzner "token", ⟨"", "", "", none, ⟨"", "", "", "", ""⟩⟩⟩

def dynamicPool (nodes : List Node) : NodePool :=
  ⟨.dynamic ⟨"cpx11", "ubuntu", 0, "nbg1", "", nodes.length, provider, none, none, "", "", "", "",
    false⟩, "edge-1234567", nodes, false, ∅, [], ∅, 22⟩

def lb : LBcluster :=
  ⟨⟨"lb", "abc1234", [dynamicPool [node "edge-01" "203.0.113.7"]]⟩, [],
    some ⟨"example.com", "www", provider, "www.example.com", []⟩, "main", false⟩

def clusters : Clusters := ⟨none, [lb]⟩

-- `tofu apply` fails.
def tofu : Tofu where
  apply := .error "quota exceeded"
  output _ := .error ""
  applyDns := .ok ()
  endpoint := .error ""
  alternativeName _ := none

def added : AddNodesKind := .existing "edge-1234567" [node "edge-02" "", node "edge-03" ""]

def teardown : Teardown := ⟨none, none, none, true, none, true, none⟩

end Demo.DnsRecords

theorem dns_records_are_destroyed_demo :
    DestroysDnsRecords Demo.DnsRecords.lb :=
  (dns_records_are_destroyed ⟨_, rfl, by decide⟩).mpr (by decide)

-- Two nodes could not be added to a load balancer whose records exist. It is then destroyed without
-- an error: the records are still there and their state file is not.
theorem dns_records_outlive_load_balancer :
    ∃ lb errs, addLoadBalancerNodes Demo.DnsRecords.tofu Demo.DnsRecords.clusters "lb-abc1234"
        Demo.DnsRecords.added = .ok (.update none (some [lb]), errs)
      ∧ DnsCreated lb
      ∧ LBcluster.destroy Demo.DnsRecords.teardown lb ⟨true, true, true⟩
        = (⟨true, true, true⟩, none)
      ∧ destroyCluster Demo.DnsRecords.teardown (.loadBalancer lb) ⟨true, true, true⟩
        = (⟨true, false, false⟩, none) :=
  ⟨_, _, rfl, ⟨_, rfl, by decide⟩, by decide, by decide⟩

end Terraformer

end Claudie
