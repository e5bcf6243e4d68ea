import Claudie.Kuber.Patch
import Claudie.Manifest.Labels

/-!
Sanitised and escaped keys, and the labels that a node has of them.
-/

namespace Claudie

theorem toLower_cases (c : Char) :
    (65 ≤ c.toNat ∧ c.toNat ≤ 90 ∧ c.toLower.toNat = c.toNat + 32)
      ∨ ((c.toNat < 65 ∨ 90 < c.toNat) ∧ c.toLower = c) := by
  unfold Char.toLower
  split
  next h =>
    have hlow : 65 ≤ c.toNat := UInt32.le_iff_toNat_le.mp h.1
    have hhigh : c.toNat ≤ 90 := UInt32.le_iff_toNat_le.mp h.2
    refine .inl ⟨hlow, hhigh, ?_⟩
    change (c.val + 32).toNat = c.toNat + 32
    rw [UInt32.toNat_add]
    change (c.toNat + 32) % 2 ^ 32 = c.toNat + 32
    omega
  next h =>
    refine .inr ⟨?_, rfl⟩
    by_contra hc
    have hlow : 65 ≤ c.val.toNat := by
      change 65 ≤ c.toNat
      omega
    have hhigh : c.val.toNat ≤ 90 := by
      change c.toNat ≤ 90
      omega
    exact h ⟨UInt32.le_iff_toNat_le.mpr hlow, UInt32.le_iff_toNat_le.mpr hhigh⟩

theorem toLower_toLower (c : Char) : c.toLower.toLower = c.toLower := by
  obtain ⟨hlow, _, hlower⟩ | ⟨_, heq⟩ := toLower_cases c
  · obtain ⟨_, hhigh, _⟩ | ⟨_, heq⟩ := toLower_cases c.toLower
    · omega
    · exact heq
  · rw [heq, heq]

theorem toLower_eq_tilde {c : Char} (h : c.toLower = '~') : c = '~' := by
  obtain ⟨_, hhigh, hlower⟩ | ⟨_, heq⟩ := toLower_cases c
  · have htilde : ('~' : Char).toNat = 126 := rfl
    rw [h] at hlower
    omega
  · rw [← heq, h]

def sanitiseChar (c : Char) : Char :=
  if c.toLower = ' ' ∨ c.toLower = ':' ∨ c.toLower = '_' then '-' else c.toLower

theorem toList_sanitise (s : String) : (sanitise s).toList = s.toList.map sanitiseChar := by
  simp only [sanitise, replaceAll, String.toList_ofList, List.map_map]
  refine List.map_congr_left (fun c _ => ?_)
  simp only [Function.comp_apply, sanitiseChar]
  split <;> split <;> split <;> simp_all

theorem sanitiseChar_sanitiseChar (c : Char) : sanitiseChar (sanitiseChar c) = sanitiseChar c := by
  have hdash : sanitiseChar '-' = '-' := by decide
  by_cases h : c.toLower = ' ' ∨ c.toLower = ':' ∨ c.toLower = '_'
  · have hc : sanitiseChar c = '-' := by rw [sanitiseChar, if_pos h]
    rw [hc, hdash]
  · have hc : sanitiseChar c = c.toLower := by rw [sanitiseChar, if_neg h]
    rw [hc, sanitiseChar, toLower_toLower, if_neg h]

theorem sanitise_sanitise (s : String) : sanitise (sanitise s) = sanitise s := by
  rw [← String.toList_inj, toList_sanitise, toList_sanitise, List.map_map]
  exact List.map_congr_left (fun c _ => sanitiseChar_sanitiseChar c)

def Plain (s : String) : Prop := '~' ∉ s.toList

instance (s : String) : Decidable (Plain s) := inferInstanceAs (Decidable (¬ _))

theorem plain_sanitise {s : String} (h : Plain s) : Plain (sanitise s) := by
  unfold Plain
  rw [toList_sanitise]
  intro hmem
  obtain ⟨c, hc, hsan⟩ := List.mem_map.mp hmem
  unfold sanitiseChar at hsan
  split at hsan
  next => cases hsan
  next => exact h (toLower_eq_tilde hsan ▸ hc)

namespace Kuber

theorem unescapeChars_flatMap {cs : List Char} (h : '~' ∉ cs) :
    unescapeChars (cs.flatMap (fun c => if c = '/' then ['~', '1'] else [c])) = cs := by
  induction cs with
  | nil => rfl
  | cons c cs ih =>
    rw [List.mem_cons, not_or] at h
    rw [List.flatMap_cons]
    split
    next hc =>
      rw [hc]
      exact congrArg ('/' :: ·) (ih h.2)
    next =>
      rw [List.singleton_append, unescapeChars, ih h.2]
      · rintro _ rfl
        exact absurd rfl h.1
      · rintro _ rfl
        exact absurd rfl h.1

theorem unescape_escape {s : String} (h : Plain s) : unescape (escape s) = s := by
  rw [unescape, escape, String.toList_ofList, unescapeChars_flatMap h, String.ofList_toList]

end Kuber

namespace Manifest

theorem mem_intercalate {α : Type} {x d : α} {ls : List (List α)} (h : x ∈ [d].intercalate ls) :
    x = d ∨ ∃ l ∈ ls, x ∈ l := by
  induction ls with
  | nil =>
    rw [List.intercalate_nil] at h
    cases h
  | cons l ls ih =>
    cases ls with
    | nil =>
      rw [List.intercalate_singleton] at h
      exact .inr ⟨l, List.mem_singleton_self l, h⟩
    | cons l' ls =>
      rw [List.intercalate_cons_cons, List.append_assoc, List.mem_append] at h
      obtain h | h := h
      · exact .inr ⟨l, List.mem_cons_self, h⟩
      · obtain h | h := List.mem_append.mp h
        · exact .inl (List.mem_singleton.mp h)
        · obtain h | ⟨m, hm, h⟩ := ih h
          · exact .inl h
          · exact .inr ⟨m, List.mem_cons_of_mem _ hm, h⟩

theorem mem_splitOn {x d : Char} {s : List Char} (h : x ∈ s) (hne : x ≠ d) :
    ∃ l ∈ s.splitOn d, x ∈ l := by
  have hs : [d].intercalate (s.splitOn d) = s := List.intercalate_splitOn d
  rw [← hs] at h
  exact (mem_intercalate h).resolve_left hne

theorem tilde_of_matchesQualifiedName {s : List Char} (h : matchesQualifiedName s = true) :
    '~' ∉ s := by
  intro hmem
  simp only [matchesQualifiedName, Bool.and_eq_true] at h
  exact absurd (List.all_eq_true.mp h.1.1 '~' hmem) (by decide)

theorem tilde_of_isDNS1123Subdomain {s : List Char} (h : isDNS1123Subdomain s = true) :
    '~' ∉ s := by
  intro hmem
  simp only [isDNS1123Subdomain, Bool.and_eq_true] at h
  obtain ⟨part, hpart, hmem⟩ := mem_splitOn (d := '.') hmem (by decide)
  have hlabel := List.all_eq_true.mp h.2 part hpart
  simp only [matchesDNS1123Label, Bool.and_eq_true] at hlabel
  exact absurd (List.all_eq_true.mp hlabel.1.1 '~' hmem) (by decide)

theorem plain_of_isQualifiedName {s : String} (h : isQualifiedName s = true) : Plain s := by
  intro hmem
  obtain ⟨part, hpart, hmem⟩ := mem_splitOn (d := '/') hmem (by decide)
  simp only [isQualifiedName] at h
  split at h
  next name hname =>
    rw [hname, List.mem_singleton] at hpart
    rw [Bool.and_eq_true] at h
    exact tilde_of_matchesQualifiedName h.2 (hpart ▸ hmem)
  next dns name hparts =>
    rw [hparts, List.mem_cons, List.mem_singleton] at hpart
    rw [Bool.and_eq_true, Bool.and_eq_true] at h
    obtain rfl | rfl := hpart
    · exact tilde_of_isDNS1123Subdomain h.1 hmem
    · exact tilde_of_matchesQualifiedName h.2.2 hmem
  next => cases h

theorem plain_of_checkLabels {labels : GoMap String} (h : checkLabels labels = true) {k v : String}
    (hk : labels[k]? = some v) : Plain k := by
  have hkv := List.all_eq_true.mp h (k, v) (Std.ExtTreeMap.mem_toList_iff_getElem?_eq_some.mpr hk)
  rw [Bool.and_eq_true] at hkv
  exact plain_of_isQualifiedName hkv.1

end Manifest

end Claudie
