import Claudie.Lib.Keyed

/-!
Lists with a key for each element, in which later elements take the place of earlier ones with the
same key.
-/

namespace List

variable {α κ : Type} [DecidableEq κ] {key : α → κ} {l l' u v : List α} {us : List (List α)} {k : κ}

def overwrite (key : α → κ) (l u : List α) : List α :=
  l.map (fun a => (u.find? (fun b => key b = key a)).getD a)
    ++ u.filter (fun b => key b ∉ l.map key)

theorem key_getD_find? (key : α → κ) (u : List α) (a : α) :
    key ((u.find? (fun b => key b = key a)).getD a) = key a := by
  cases hfind : u.find? (fun b => key b = key a) with
  | none => rfl
  | some b => simpa using find?_some hfind

theorem keys_overwrite (key : α → κ) (l u : List α) :
    (l.overwrite key u).map key = l.map key ++ (u.map key).filter (· ∉ l.map key) := by
  rw [overwrite, map_append, map_map, filter_map]
  congr 1
  exact map_congr_left fun a _ => key_getD_find? key u a

theorem nodup_keys_overwrite (hl : (l.map key).Nodup) (hu : (u.map key).Nodup) :
    ((l.overwrite key u).map key).Nodup := by
  rw [keys_overwrite, nodup_append']
  refine ⟨hl, hu.filter _, fun k hk hk' => ?_⟩
  exact absurd hk (by simpa using (mem_filter.mp hk').2)

theorem find?_filter_key {p : α → Bool} (h : ∀ a ∈ u, key a = k → p a = true) :
    (u.filter p).find? (fun a => key a = k) = u.find? (fun a => key a = k) := by
  induction u with
  | nil => rfl
  | cons a u ih =>
    rw [forall_mem_cons] at h
    by_cases hk : key a = k
    · rw [filter_cons_of_pos (h.1 hk), find?_cons_of_pos (by simpa using hk),
        find?_cons_of_pos (by simpa using hk)]
    · rw [find?_cons_of_neg (by simpa using hk), ← ih h.2, filter_cons]
      split
      next => rw [find?_cons_of_neg (by simpa using hk)]
      next => rfl

theorem find?_overwrite (l u : List α) (k : κ) :
    (l.overwrite key u).find? (fun a => key a = k)
      = (u.find? (fun a => key a = k)).or (l.find? (fun a => key a = k)) := by
  have hkey : (fun a => decide (key a = k)) ∘ (fun a => (u.find? (fun b => key b = key a)).getD a)
      = fun a => decide (key a = k) := by
    funext a
    rw [Function.comp_apply, key_getD_find? key]
  rw [overwrite, find?_append, find?_map, hkey]
  cases hfind : l.find? (fun a => key a = k) with
  | none =>
    -- No element of the list has the key, so that all of the new ones with it are appended.
    have hnot : k ∉ l.map key := find?_key_eq_none.mp hfind
    rw [find?_filter_key fun a _ hk => by simpa [hk] using hnot]
    simp
  | some a =>
    have hk : key a = k := by simpa using find?_some hfind
    subst hk
    cases hu : u.find? (fun b => key b = key a) <;> simp [hu]

theorem eq_of_keys (hl : (l.map key).Nodup) (hkeys : l.map key = l'.map key)
    (hfind : ∀ k, l.find? (fun a => key a = k) = l'.find? (fun a => key a = k)) : l = l' := by
  induction l generalizing l' with
  | nil => exact (map_eq_nil_iff.mp hkeys.symm).symm
  | cons a l ih =>
    cases l' with
    | nil => cases hkeys
    | cons b l' =>
      rw [map_cons, map_cons, cons.injEq] at hkeys
      obtain ⟨hkey, hkeys⟩ := hkeys
      rw [map_cons, nodup_cons] at hl
      have hab : a = b := by simpa [hkey] using hfind (key a)
      subst hab
      congr 1
      refine ih hl.2 hkeys fun k => ?_
      by_cases hk : key a = k
      · subst hk
        rw [find?_key_eq_none.mpr hl.1, find?_key_eq_none.mpr (hkeys ▸ hl.1)]
      · simpa [hk] using hfind k

theorem overwrite_assoc (hl : (l.map key).Nodup) (hu : (u.map key).Nodup)
    (hv : (v.map key).Nodup) :
    (l.overwrite key u).overwrite key v = l.overwrite key (u.overwrite key v) := by
  refine eq_of_keys (nodup_keys_overwrite (nodup_keys_overwrite hl hu) hv) ?_ fun k => ?_
  · rw [keys_overwrite, keys_overwrite, keys_overwrite, keys_overwrite, filter_append,
      filter_filter, append_assoc]
    congr 2
    refine filter_congr fun k _ => ?_
    by_cases hk : k ∈ l.map key <;> simp [-mem_map, hk]
  · simp only [find?_overwrite, Option.or_assoc]

theorem overwrite_overwrite_self (hl : (l.map key).Nodup) (hu : (u.map key).Nodup) :
    (l.overwrite key u).overwrite key u = l.overwrite key u := by
  refine eq_of_keys (nodup_keys_overwrite (nodup_keys_overwrite hl hu) hu) ?_ fun k => ?_
  · have hnone : (u.map key).filter (· ∉ (l.overwrite key u).map key) = [] := by
      rw [filter_eq_nil_iff, keys_overwrite]
      intro k hk
      by_cases hkl : k ∈ l.map key <;> simp [-mem_map, hk, hkl]
    rw [keys_overwrite key (l.overwrite key u), hnone, append_nil]
  · rw [find?_overwrite, find?_overwrite, ← Option.or_assoc, Option.or_self]

theorem filter_overwrite {p : α → Bool}
    (hp : ∀ a ∈ l ++ u, ∀ b ∈ l ++ u, key a = key b → p a = p b) :
    (l.overwrite key u).filter p = (l.filter p).overwrite key (u.filter p) := by
  rw [overwrite, overwrite, filter_append, filter_map, filter_filter, filter_filter]
  congr 1
  · have hsame : ∀ a ∈ l, (p ∘ fun a => (u.find? (fun b => key b = key a)).getD a) a = p a := by
      intro a ha
      rw [Function.comp_apply]
      cases hfind : u.find? (fun b => key b = key a) with
      | none => rfl
      | some b =>
        have hkey : key b = key a := by simpa using find?_some hfind
        exact hp b (mem_append_right l (mem_of_find?_eq_some hfind)) a (mem_append_left u ha) hkey
    rw [filter_congr hsame]
    refine map_congr_left fun a ha => ?_
    obtain ⟨ha, hpa⟩ := mem_filter.mp ha
    rw [find?_filter_key fun b hb hkey =>
      (hp b (mem_append_right l hb) a (mem_append_left u ha) hkey).trans hpa]
  · refine filter_congr fun b hb => ?_
    cases hpb : p b with
    | false => simp
    | true =>
      rw [Bool.true_and, Bool.and_true, decide_eq_decide, not_iff_not]
      simp only [mem_map, mem_filter]
      constructor
      · rintro ⟨a, ha, hkey⟩
        have := hp a (mem_append_left u ha) b (mem_append_right l hb) hkey
        exact ⟨a, ⟨ha, this.trans hpb⟩, hkey⟩
      · rintro ⟨a, ⟨ha, -⟩, hkey⟩
        exact ⟨a, ha, hkey⟩

theorem mem_of_mem_overwrite {a : α} (h : a ∈ l.overwrite key u) : a ∈ l ++ u := by
  rcases mem_append.mp h with h | h
  · obtain ⟨b, hb, rfl⟩ := mem_map.mp h
    cases hfind : u.find? (fun c => key c = key b) with
    | none => exact mem_append_left u hb
    | some b' => exact mem_append_right l (mem_of_find?_eq_some hfind)
  · exact mem_append_right l (mem_filter.mp h).1

theorem filter_foldl_overwrite {p : α → Bool}
    (hp : ∀ a ∈ l ++ us.flatten, ∀ b ∈ l ++ us.flatten, key a = key b → p a = p b) :
    (us.foldl (overwrite key) l).filter p
      = (us.map (·.filter p)).foldl (overwrite key) (l.filter p) := by
  induction us generalizing l with
  | nil => rfl
  | cons u us ih =>
    rw [flatten_cons, ← append_assoc] at hp
    rw [foldl_cons, map_cons, foldl_cons, ← filter_overwrite fun a ha b hb =>
      hp a (mem_append_left _ ha) b (mem_append_left _ hb)]
    have hmem : ∀ a ∈ l.overwrite key u ++ us.flatten, a ∈ l ++ u ++ us.flatten := by
      intro a ha
      rcases mem_append.mp ha with ha | ha
      · exact mem_append_left _ (mem_of_mem_overwrite ha)
      · exact mem_append_right _ ha
    exact ih fun a ha b hb => hp a (hmem a ha) b (hmem b hb)

theorem nodup_keys_foldl_overwrite (hl : (l.map key).Nodup) (hus : ∀ u ∈ us, (u.map key).Nodup) :
    ((us.foldl (overwrite key) l).map key).Nodup := by
  induction us generalizing l with
  | nil => exact hl
  | cons u us ih =>
    rw [forall_mem_cons] at hus
    exact ih (nodup_keys_overwrite hl hus.1) hus.2

theorem foldl_overwrite (hl : (l.map key).Nodup) (hu : (u.map key).Nodup)
    (hus : ∀ u ∈ us, (u.map key).Nodup) :
    us.foldl (overwrite key) (l.overwrite key u)
      = l.overwrite key (us.foldl (overwrite key) u) := by
  induction us generalizing u with
  | nil => rfl
  | cons v us ih =>
    rw [forall_mem_cons] at hus
    rw [foldl_cons, foldl_cons, overwrite_assoc hl hu hus.1,
      ih (nodup_keys_overwrite hu hus.1) hus.2]

theorem find?_reverse_key (hu : (u.map key).Nodup) (k : κ) :
    u.reverse.find? (fun a => key a = k) = u.find? (fun a => key a = k) := by
  have hreverse : (u.reverse.map key).Nodup := by
    rw [map_reverse]
    exact nodup_reverse.mpr hu
  refine Option.ext fun a => ?_
  rw [find?_key_eq_some hu, find?_key_eq_some hreverse, mem_reverse]

theorem find?_foldl_overwrite (hus : ∀ u ∈ us, (u.map key).Nodup) (k : κ) :
    (us.foldl (overwrite key) l).find? (fun a => key a = k)
      = (us.flatten.reverse.find? (fun a => key a = k)).or (l.find? (fun a => key a = k)) := by
  induction us generalizing l with
  | nil => rfl
  | cons u us ih =>
    rw [forall_mem_cons] at hus
    rw [foldl_cons, ih hus.2, find?_overwrite, flatten_cons, reverse_append, find?_append,
      find?_reverse_key hus.1, Option.or_assoc]

theorem eraseDups_of_nodup {l : List κ} (h : l.Nodup) : l.eraseDups = l := by
  induction l with
  | nil => rfl
  | cons a l ih =>
    obtain ⟨hnew, h⟩ := nodup_cons.mp h
    have hfilter : l.filter (fun b => !b == a) = l :=
      filter_eq_self.mpr fun b hb => by simpa using fun heq : b = a => hnew (heq ▸ hb)
    rw [eraseDups_cons, hfilter, ih h]

theorem keys_foldl_overwrite (hus : ∀ u ∈ us, (u.map key).Nodup) :
    (us.foldl (overwrite key) l).map key
      = l.map key ++ ((us.flatten.map key).filter (· ∉ l.map key)).eraseDups := by
  induction us generalizing l with
  | nil => simp
  | cons u us ih =>
    rw [forall_mem_cons] at hus
    rw [foldl_cons, ih hus.2, keys_overwrite, append_assoc, flatten_cons, map_append, filter_append,
      eraseDups_append, eraseDups_of_nodup (hus.1.filter _), removeAll, filter_filter]
    congr 3
    refine filter_congr fun k _ => ?_
    by_cases hk : k ∈ l.map key <;> simp [-mem_map, hk]

end List
