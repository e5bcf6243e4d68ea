import Mathlib.Algebra.GroupWithZero.Nat
import Mathlib.Data.List.Nodup

/-!
IPv4 prefixes in the notation of CIDR, and the addresses that follow the one a prefix is written with.
-/

namespace Netip

structure Network where
  addresses : List String
  nodup : addresses.Nodup
  ne_empty : "" ∉ addresses

def dotted (n : Nat) (rest : List Char) : List Char := Nat.toDigits 10 n ++ '.' :: rest

def text (a : Nat) : String :=
  String.ofList (dotted (a / 2 ^ 24) (dotted (a / 2 ^ 16 % 256) (dotted (a / 2 ^ 8 % 256)
    (Nat.toDigits 10 (a % 256)))))

theorem toDigits_inj {m n : Nat} (h : Nat.toDigits 10 m = Nat.toDigits 10 n) : m = n := by
  rw [← Nat.ofDigitChars_ten_toDigits (n := m), h, Nat.ofDigitChars_ten_toDigits]

theorem dot_notMem_toDigits (n : Nat) : '.' ∉ Nat.toDigits 10 n := by
  intro h
  cases Nat.isDigit_of_mem_toDigits (by decide) (by decide) h

theorem append_dot_inj {xs ys r r' : List Char} (hxs : '.' ∉ xs) (hys : '.' ∉ ys)
    (h : xs ++ '.' :: r = ys ++ '.' :: r') : xs = ys ∧ r = r' := by
  induction xs generalizing ys with
  | nil =>
    obtain _ | ⟨y, ys⟩ := ys
    · cases h
      exact ⟨rfl, rfl⟩
    · cases h
      exact absurd List.mem_cons_self hys
  | cons x xs ih =>
    obtain _ | ⟨y, ys⟩ := ys
    · cases h
      exact absurd List.mem_cons_self hxs
    · rw [List.cons_append, List.cons_append, List.cons.injEq] at h
      obtain ⟨rfl, h⟩ := h
      obtain ⟨rfl, hrest⟩ := ih (fun hmem => hxs (List.mem_cons_of_mem _ hmem))
        (fun hmem => hys (List.mem_cons_of_mem _ hmem)) h
      exact ⟨rfl, hrest⟩

theorem dotted_inj {m n : Nat} {r r' : List Char} (h : dotted m r = dotted n r') :
    m = n ∧ r = r' := by
  obtain ⟨hdigits, hrest⟩ := append_dot_inj (dot_notMem_toDigits m) (dot_notMem_toDigits n) h
  exact ⟨toDigits_inj hdigits, hrest⟩

theorem text_inj {a b : Nat} (h : text a = text b) : a = b := by
  obtain ⟨h₁, h⟩ := dotted_inj (String.ofList_injective h)
  obtain ⟨h₂, h⟩ := dotted_inj h
  obtain ⟨h₃, h⟩ := dotted_inj h
  have h₄ := toDigits_inj h
  omega

theorem text_ne_empty (a : Nat) : text a ≠ "" := by
  intro h
  have hempty : dotted _ _ = [] := String.ofList_injective h
  unfold dotted at hempty
  simp at hempty

def after (addr bits : Nat) : Network where
  addresses :=
    let size := 2 ^ (32 - bits)
    (List.range' (addr + 1) (size - 1 - addr % size)).map text
  nodup := List.Nodup.map (fun _ _ => text_inj) List.nodup_range'
  ne_empty h := by
    obtain ⟨a, -, ha⟩ := List.mem_map.mp h
    exact text_ne_empty a ha

def hosts (addr bits : Nat) : List String :=
  let size := 2 ^ (32 - bits)
  (List.range' (addr - addr % size + 1) (size - 1)).map text

theorem after_sublist_hosts (addr bits : Nat) :
    (after addr bits).addresses.Sublist (hosts addr bits) := by
  have hsize : addr % 2 ^ (32 - bits) < 2 ^ (32 - bits) := Nat.mod_lt _ (Nat.two_pow_pos _)
  have hle : addr % 2 ^ (32 - bits) ≤ addr := Nat.mod_le _ _
  unfold after hosts
  dsimp only
  generalize 2 ^ (32 - bits) = size at *
  have hsplit : List.range' (addr - addr % size + 1) (size - 1)
      = List.range' (addr - addr % size + 1) (addr % size)
        ++ List.range' (addr + 1) (size - 1 - addr % size) := by
    have hstart : addr + 1 = addr - addr % size + 1 + 1 * (addr % size) := by omega
    rw [hstart, List.range'_append]
    congr 1
    omega
  rw [hsplit, List.map_append]
  exact List.sublist_append_right ..

-- A number without leading zeros.
def parseNumber (cs : List Char) : Option Nat :=
  if cs.all Char.isDigit && Nat.toDigits 10 (Nat.ofDigitChars 10 cs 0) = cs then
    some (Nat.ofDigitChars 10 cs 0)
  else none

def parseAddr (cs : List Char) : Option Nat := do
  match cs.splitOn '.' with
  | [o₁, o₂, o₃, o₄] =>
    let octets ← [o₁, o₂, o₃, o₄].mapM parseNumber
    if octets.all (· ≤ 255) then some (octets.foldl (fun a o => 256 * a + o) 0) else none
  | _ => none

def parsePrefix (s : String) : Option Network :=
  match s.toList.splitOn '/' with
  | [addr, bits] => do
    let addr ← parseAddr addr
    let bits ← parseNumber bits
    if bits ≤ 32 then some (after addr bits) else none
  | _ => none

example : (parsePrefix "192.168.2.4/29").map (·.addresses)
    = some ["192.168.2.5", "192.168.2.6", "192.168.2.7"] := rfl

end Netip
