import Claudie.Ansibler.InstallVPN
import Claudie.Lib.Keyed

/-!
When the addresses of a network are enough for the nodes that have none. `assignPrivateIPs` starts at
the address the network is written with, which need not be the address of the network.
-/

namespace Claudie

namespace Ansibler

def usedPrivateIPs (nodes : List (NodeRef × Node)) : List String :=
  (nodes.map (·.2.privateIp)).filter (· ≠ "")

def nodesWithoutPrivateIP (nodes : List (NodeRef × Node)) : List NodeRef :=
  (nodes.filter (·.2.privateIp = "")).map (·.1)

def assignedNode (assigned : List (NodeRef × String)) (x : NodeRef × Node) : Node :=
  match assigned.find? (·.1 = x.1) with
  | some (_, ip) => withPrivateIP ip x.2
  | none => x.2

structure PrivateIPsAssigned (hosts : List String) (nodes : List (NodeRef × Node))
    (assigned : List (NodeRef × String)) : Prop where
  kept : ∀ x ∈ nodes, x.2.privateIp ≠ "" → assignedNode assigned x = x.2
  new : ∀ x ∈ nodes, x.2.privateIp = "" → ∃ ip ∈ hosts, ip ≠ ""
    ∧ assignedNode assigned x = withPrivateIP ip x.2 ∧ ∀ y ∈ nodes, y.2.privateIp ≠ ip
  distinct : ∀ x ∈ nodes, ∀ y ∈ nodes, x.1 ≠ y.1 → x.2.privateIp = "" → y.2.privateIp = "" →
    (assignedNode assigned x).privateIp ≠ (assignedNode assigned y).privateIp

variable {network : Netip.Network} {nodes : List (NodeRef × Node)}
  {assigned : List (NodeRef × String)}

theorem assignPrivateIPs_eq_ok :
    assignPrivateIPs network nodes = .ok assigned
      ↔ Allocation.handOut (usedPrivateIPs nodes) network.addresses (nodesWithoutPrivateIP nodes)
        = some assigned := by
  unfold assignPrivateIPs
  dsimp only
  rw [← usedPrivateIPs, ← nodesWithoutPrivateIP]
  cases Allocation.handOut (usedPrivateIPs nodes) network.addresses
      (nodesWithoutPrivateIP nodes) with
  | none => simp
  | some l => simp

theorem assignPrivateIPs_isOk :
    (∃ assigned, assignPrivateIPs network nodes = .ok assigned)
      ↔ (nodesWithoutPrivateIP nodes).length
        ≤ (Allocation.free (usedPrivateIPs nodes) network.addresses).length := by
  rw [← Allocation.handOut_isSome, Option.isSome_iff_exists]
  exact exists_congr (fun _ => assignPrivateIPs_eq_ok)

theorem assignedNode_eq_self {x : NodeRef × Node} (h : x.1 ∉ assigned.map (·.1)) :
    assignedNode assigned x = x.2 := by
  unfold assignedNode
  rw [List.find?_key_eq_none.mpr h]

theorem assignedNode_eq {x : NodeRef × Node} (hnodup : (assigned.map (·.1)).Nodup) {ip : String}
    (h : (x.1, ip) ∈ assigned) : assignedNode assigned x = withPrivateIP ip x.2 := by
  unfold assignedNode
  rw [(List.find?_key_eq_some hnodup).mpr ⟨h, rfl⟩]

theorem privateIPsAssigned (hrefs : (nodes.map (·.1)).Nodup) {hosts : List String}
    (hhosts : network.addresses ⊆ hosts) (h : assignPrivateIPs network nodes = .ok assigned) :
    PrivateIPsAssigned hosts nodes assigned := by
  have hhand := assignPrivateIPs_eq_ok.mp h
  have hfst := Allocation.map_fst hhand
  have hsnd := Allocation.map_snd hhand
  have hnodup : (assigned.map (·.1)).Nodup := by
    rw [hfst]
    exact hrefs.sublist (List.filter_sublist.map _)
  have hips : (assigned.map (·.2)).Nodup := by
    rw [hsnd]
    exact ((network.nodup.filter _).sublist (List.take_sublist ..))
  -- what is assigned is an address of the network that is not in use.
  have hip : ∀ ref ip, (ref, ip) ∈ assigned → ip ∈ network.addresses ∧ ip ∉ usedPrivateIPs nodes := by
    intro ref ip hmem
    have hfree : ip ∈ Allocation.free (usedPrivateIPs nodes) network.addresses :=
      List.mem_of_mem_take (hsnd ▸ List.mem_map_of_mem hmem)
    obtain ⟨haddr, hunused⟩ := List.mem_filter.mp hfree
    exact ⟨haddr, by simpa using hunused⟩
  have hassigned : ∀ x ∈ nodes, x.2.privateIp = "" → ∃ ip, (x.1, ip) ∈ assigned := by
    intro x hx hempty
    have hmem : x.1 ∈ assigned.map (·.1) := by
      rw [hfst]
      exact List.mem_map_of_mem (List.mem_filter.mpr ⟨hx, decide_eq_true hempty⟩)
    obtain ⟨⟨ref, ip⟩, hmem, heq⟩ := List.mem_map.mp hmem
    cases heq
    exact ⟨ip, hmem⟩
  constructor
  case kept =>
    intro x hx hip
    refine assignedNode_eq_self (fun hmem => ?_)
    rw [hfst] at hmem
    obtain ⟨y, hy, heq⟩ := List.mem_map.mp hmem
    obtain ⟨hy, hempty⟩ := List.mem_filter.mp hy
    rw [List.inj_on_of_nodup_map hrefs hy hx heq] at hempty
    exact hip (of_decide_eq_true hempty)
  case new =>
    intro x hx hempty
    obtain ⟨ip, hmem⟩ := hassigned x hx hempty
    obtain ⟨haddr, hunused⟩ := hip x.1 ip hmem
    refine ⟨ip, hhosts haddr, fun heq => network.ne_empty (heq ▸ haddr),
      assignedNode_eq hnodup hmem, ?_⟩
    rintro y hy rfl
    refine hunused (List.mem_filter.mpr ⟨List.mem_map.mpr ⟨y, hy, rfl⟩, ?_⟩)
    exact decide_eq_true (fun heq => network.ne_empty (heq ▸ haddr))
  case distinct =>
    intro x hx y hy hne hempty hempty' heq
    obtain ⟨ip, hmem⟩ := hassigned x hx hempty
    obtain ⟨ip', hmem'⟩ := hassigned y hy hempty'
    rw [assignedNode_eq hnodup hmem, assignedNode_eq hnodup hmem'] at heq
    have heq : ip = ip' := heq
    subst heq
    exact hne (Prod.mk.inj (List.inj_on_of_nodup_map hips hmem hmem' rfl)).1

def freeAddresses (nodes : List (NodeRef × Node)) (addresses : List String) : Nat :=
  addresses.countP (fun ip => !(nodes.map (·.2.privateIp)).contains ip)

theorem length_free {addresses : List String} (h : "" ∉ addresses) :
    (Allocation.free (usedPrivateIPs nodes) addresses).length = freeAddresses nodes addresses := by
  unfold freeAddresses Allocation.free
  rw [← List.countP_eq_length_filter]
  refine List.countP_congr (fun ip hip => ?_)
  have hne : ip ≠ "" := fun heq => h (heq ▸ hip)
  simp [usedPrivateIPs, hne]

/--
The addresses that come before the one the network is written with are never assigned. This only
makes a difference if they are needed.
-/
theorem assignPrivateIPs_iff (addr : BitVec 32) (bits : Fin 33) (nodes : List (NodeRef × Node))
    (hrefs : (nodes.map (·.1)).Nodup) :
    (((∃ assigned, assignPrivateIPs (Netip.after addr.toNat bits) nodes = .ok assigned)
        ↔ nodes.countP (·.2.privateIp = "")
          ≤ freeAddresses nodes (Netip.hosts addr.toNat bits))
      ∧ ∀ assigned, assignPrivateIPs (Netip.after addr.toNat bits) nodes = .ok assigned →
        PrivateIPsAssigned (Netip.hosts addr.toNat bits) nodes assigned)
      ↔ nodes.countP (·.2.privateIp = "")
          ≤ freeAddresses nodes (Netip.after addr.toNat bits).addresses
        ∨ freeAddresses nodes (Netip.hosts addr.toNat bits)
          < nodes.countP (·.2.privateIp = "") := by
  have hmissing : (nodesWithoutPrivateIP nodes).length = nodes.countP (·.2.privateIp = "") := by
    rw [nodesWithoutPrivateIP, List.length_map, ← List.countP_eq_length_filter]
  have hafter := @length_free nodes _ (Netip.after addr.toNat bits).ne_empty
  have hall : freeAddresses nodes (Netip.after addr.toNat bits).addresses
      ≤ freeAddresses nodes (Netip.hosts addr.toNat bits) :=
    (Netip.after_sublist_hosts addr.toNat bits).countP_le
  rw [assignPrivateIPs_isOk, hmissing, hafter]
  constructor
  · rintro ⟨hiff, -⟩
    omega
  · intro h
    refine ⟨by omega, fun assigned hassigned => ?_⟩
    exact privateIPsAssigned hrefs (Netip.after_sublist_hosts addr.toNat bits).subset hassigned

namespace Demo

namespace AddressSpace

def node (name : String) : Node :=
  { name, privateIp := "", publicIp := "", nodeType := .worker, username := "", status := .preparing
    sshPort := 22, wireguardPort := 51820 }

def twoNodes : List (NodeRef × Node) := [(⟨none, 0, 0⟩, node "np-01"), (⟨none, 0, 1⟩, node "np-02")]

end AddressSpace

end Demo

-- The network 192.168.2.0/29.
theorem assignPrivateIPs_of_network_address :
    ((∃ assigned, assignPrivateIPs (Netip.after (3232236032#32).toNat (29 : Fin 33))
          Demo.AddressSpace.twoNodes = .ok assigned)
        ↔ Demo.AddressSpace.twoNodes.countP (·.2.privateIp = "")
          ≤ freeAddresses Demo.AddressSpace.twoNodes
            (Netip.hosts (3232236032#32).toNat (29 : Fin 33)))
      ∧ ∀ assigned, assignPrivateIPs (Netip.after (3232236032#32).toNat (29 : Fin 33))
          Demo.AddressSpace.twoNodes = .ok assigned →
        PrivateIPsAssigned (Netip.hosts (3232236032#32).toNat (29 : Fin 33))
          Demo.AddressSpace.twoNodes assigned :=
  (assignPrivateIPs_iff 3232236032#32 29 Demo.AddressSpace.twoNodes (by decide)).mpr
    (.inl (by decide))

/-- The network 192.168.2.6/29 has seven addresses, of which only the last one is looked at. -/
theorem addresses_before_written_one_unused :
    assignPrivateIPs (Netip.after 3232236038 29) Demo.AddressSpace.twoNodes
        = .error "failed to assign private IPs to all nodes"
      ∧ Demo.AddressSpace.twoNodes.countP (·.2.privateIp = "") = 2
      ∧ freeAddresses Demo.AddressSpace.twoNodes (Netip.hosts 3232236038 29) = 7 := by
  decide

end Ansibler

end Claudie
