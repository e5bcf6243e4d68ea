import Mathlib.Data.List.Nodup

/-!
Values that are handed out in order, each one that is not in use yet to the next place without one.
-/

namespace Allocation

variable {σ ρ α β : Type} [DecidableEq α]

def handOut (used : List α) : List α → List ρ → Option (List (ρ × α))
  | _, [] => some []
  | [], _ :: _ => none
  | a :: as, r :: rs =>
    if used.contains a then handOut used as (r :: rs)
    else (handOut used as rs).map ((r, a) :: ·)

def free (used as : List α) : List α := as.filter (!used.contains ·)

variable {used as : List α} {rs : List ρ} {l : List (ρ × α)} {a : α} {r : ρ}

theorem handOut_eq_some (h : handOut used as rs = some l) :
    rs.length ≤ (free used as).length ∧ l = rs.zip (free used as) := by
  induction as generalizing rs l with
  | nil =>
    obtain _ | ⟨r, rs⟩ := rs
    · cases h
      exact ⟨Nat.le_refl 0, rfl⟩
    · cases h
  | cons a as ih =>
    obtain _ | ⟨r, rs⟩ := rs
    · cases h
      exact ⟨Nat.zero_le _, rfl⟩
    · rw [handOut] at h
      split at h
      next hused =>
        rw [free, List.filter_cons_of_neg (by rw [hused]; decide)]
        exact ih h
      next hfree =>
        obtain ⟨l', hl', rfl⟩ := Option.map_eq_some_iff.mp h
        obtain ⟨hle, rfl⟩ := ih hl'
        rw [free, List.filter_cons_of_pos (by simpa using hfree)]
        exact ⟨Nat.succ_le_succ hle, rfl⟩

theorem handOut_isSome : (handOut used as rs).isSome = true ↔ rs.length ≤ (free used as).length := by
  induction as generalizing rs with
  | nil => cases rs <;> simp [handOut, free]
  | cons a as ih =>
    obtain _ | ⟨r, rs⟩ := rs
    · simp [handOut]
    · rw [handOut]
      split
      next hused =>
        rw [ih, free, free, List.filter_cons_of_neg (by rw [hused]; decide)]
      next hfree =>
        rw [Option.isSome_map, ih, free, free, List.filter_cons_of_pos (by simpa using hfree),
          List.length_cons, List.length_cons, Nat.succ_le_succ_iff]

theorem free_append_singleton {rest : List α} (has : as.Nodup) (h : free used as = a :: rest) :
    free (used ++ [a]) as = rest := by
  have hfilter : free (used ++ [a]) as = (free used as).filter (· ≠ a) := by
    rw [free, free, List.filter_filter]
    refine List.filter_congr fun b _ => ?_
    by_cases hb : b = a <;> simp [hb]
  have hnew : a ∉ rest := by
    have hnodup : (free used as).Nodup := has.filter _
    rw [h] at hnodup
    exact (List.nodup_cons.mp hnodup).1
  rw [hfilter, h, List.filter_cons_of_neg (by simp), List.filter_eq_self]
  intro b hb
  simpa using fun heq : b = a => hnew (heq ▸ hb)

theorem map_fst (h : handOut used as rs = some l) : l.map (·.1) = rs := by
  obtain ⟨hle, rfl⟩ := handOut_eq_some h
  exact List.map_fst_zip hle

theorem map_snd (h : handOut used as rs = some l) :
    l.map (·.2) = (free used as).take rs.length := by
  obtain ⟨hle, rfl⟩ := handOut_eq_some h
  rw [List.zip_eq_zip_take_min, Nat.min_eq_left hle, List.take_length, List.map_snd_zip]
  exact List.length_take_le ..

theorem mem_take_filter {p : α → Bool} {n : Nat} (has : as.Nodup) :
    a ∈ (as.filter p).take n ↔ a ∈ as ∧ p a = true ∧ (as.takeWhile (· ≠ a)).countP p < n := by
  induction as generalizing n with
  | nil => simp
  | cons b as ih =>
    rw [List.nodup_cons] at has
    by_cases hab : b = a
    · subst hab
      cases hp : p b with
      | true =>
        rw [List.filter_cons_of_pos hp]
        cases n <;> simp
      | false =>
        have hnot : b ∉ (as.filter p).take n := fun hmem =>
          has.1 (List.mem_of_mem_filter (List.mem_of_mem_take hmem))
        rw [List.filter_cons_of_neg (by rw [hp]; decide)]
        simp [hnot]
    · rw [List.takeWhile_cons_of_pos (by simp [hab]), List.mem_cons,
        or_iff_right (Ne.symm hab)]
      cases hp : p b with
      | true =>
        rw [List.filter_cons_of_pos hp, List.countP_cons_of_pos hp]
        obtain _ | n := n
        · simp
        · rw [List.take_succ_cons, List.mem_cons, or_iff_right (Ne.symm hab), ih has.2,
            Nat.succ_lt_succ_iff]
      | false =>
        rw [List.filter_cons_of_neg (by rw [hp]; decide),
          List.countP_cons_of_neg (by rw [hp]; decide), ih has.2]

section store

variable [DecidableEq ρ] {get : σ → ρ → Option β} {set : σ → ρ → α → σ} {f : α → β → β} {s : σ}

omit [DecidableEq α] in
theorem get_foldl_set_of_notMem
    (hset : ∀ s r a r', get (set s r a) r' = if r' = r then (get s r').map (f a) else get s r')
    (hr : r ∉ l.map (·.1)) : get (l.foldl (fun s x => set s x.1 x.2) s) r = get s r := by
  induction l generalizing s with
  | nil => rfl
  | cons x l ih =>
    rw [List.map_cons, List.mem_cons, not_or] at hr
    rw [List.foldl_cons, ih hr.2, hset, if_neg hr.1]

omit [DecidableEq α] in
theorem get_foldl_set_of_mem
    (hset : ∀ s r a r', get (set s r a) r' = if r' = r then (get s r').map (f a) else get s r')
    (hl : (l.map (·.1)).Nodup) (h : (r, a) ∈ l) :
    get (l.foldl (fun s x => set s x.1 x.2) s) r = (get s r).map (f a) := by
  induction l generalizing s with
  | nil => cases h
  | cons x l ih =>
    rw [List.map_cons, List.nodup_cons] at hl
    rw [List.foldl_cons]
    obtain rfl | h := List.mem_cons.mp h
    · rw [get_foldl_set_of_notMem hset hl.1, hset, if_pos rfl]
    · have hne : r ≠ x.1 := fun heq => hl.1 (heq ▸ List.mem_map.mpr ⟨(r, a), h, rfl⟩)
      rw [ih hl.2 h, hset, if_neg hne]

end store

end Allocation
