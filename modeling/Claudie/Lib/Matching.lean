import Mathlib.Algebra.BigOperators.Group.List.Basic
import Mathlib.Algebra.GroupWithZero.Nat
import Mathlib.Data.List.Dedup
import Mathlib.Data.List.Nodup
import Mathlib.Data.List.Perm.Basic
import Mathlib.Data.List.ReduceOption
import Mathlib.Logic.Function.Basic

/-!
Assigning the elements of pools to requests, one request after the other: a request takes the first
element of the pool of its kind that it prefers, or else the first one there is.
-/

namespace Matching

variable {α ρ κ : Type}

def take (prefers : α → Bool) (pool : List α) : Option (α × List α) :=
  match pool.find? prefers with
  | some a => some (a, pool.eraseP prefers)
  | none =>
    match pool with
    | [] => none
    | a :: rest => some (a, rest)

section Take

variable {prefers : α → Bool} {pool left : List α} {a : α}

theorem take_eq_none : take prefers pool = none ↔ pool = [] := by
  unfold take
  split
  next b hb =>
    constructor
    · intro heq
      cases heq
    · rintro rfl
      cases hb
  next => cases pool <;> simp

theorem take_perm (h : take prefers pool = some (a, left)) : pool.Perm (a :: left) := by
  unfold take at h
  split at h
  next b hb =>
    cases h
    obtain ⟨hprefers, xs, ys, rfl, hxs⟩ := List.find?_eq_some_iff_append.mp hb
    have herase : (xs ++ a :: ys).eraseP prefers = xs ++ ys := by
      rw [List.eraseP_append_right _ (fun b hb => by simpa using hxs b hb),
        List.eraseP_cons_of_pos hprefers]
    rw [herase]
    exact List.perm_middle
  next =>
    split at h
    · cases h
    · cases h
      exact .refl _

theorem not_prefers_of_take (h : take prefers pool = some (a, left)) (ha : prefers a = false) :
    ∀ b ∈ pool, prefers b = false := by
  unfold take at h
  split at h
  next b hb =>
    cases h
    have := List.find?_some hb
    rw [ha] at this
    cases this
  next hnone =>
    intro b hb
    simpa using List.find?_eq_none.mp hnone b hb

end Take

section Assign

variable [DecidableEq κ] (kind : ρ → κ) (wants : ρ → Bool) (prefers : ρ → α → Bool)

def assign : (κ → List α) → List ρ → List (Option α)
  | _, [] => []
  | pools, r :: rs =>
    if wants r then
      match take (prefers r) (pools (kind r)) with
      | some (a, left) => some a :: assign (Function.update pools (kind r) left) rs
      | none => none :: assign pools rs
    else none :: assign pools rs

variable {kind wants prefers} {pools : κ → List α} {rs : List ρ} {r : ρ} {a b : α} {k : κ}

theorem assign_cons : assign kind wants prefers pools (r :: rs)
    = if wants r then
        match take (prefers r) (pools (kind r)) with
        | some (a, left) =>
          some a :: assign kind wants prefers (Function.update pools (kind r) left) rs
        | none => none :: assign kind wants prefers pools rs
      else none :: assign kind wants prefers pools rs := rfl

@[simp]
theorem length_assign : (assign kind wants prefers pools rs).length = rs.length := by
  induction rs generalizing pools with
  | nil => rfl
  | cons r rs ih =>
    rw [assign_cons]
    split
    · split <;> rw [List.length_cons, List.length_cons, ih]
    · rw [List.length_cons, List.length_cons, ih]

theorem assign_congr {others : κ → List α} (h : ∀ r ∈ rs, pools (kind r) = others (kind r)) :
    assign kind wants prefers pools rs = assign kind wants prefers others rs := by
  induction rs generalizing pools others with
  | nil => rfl
  | cons r rs ih =>
    rw [List.forall_mem_cons] at h
    rw [assign_cons, assign_cons, h.1, ih h.2]
    have hupdate : ∀ left, assign kind wants prefers (Function.update pools (kind r) left) rs
        = assign kind wants prefers (Function.update others (kind r) left) rs := by
      intro left
      refine ih (fun s hs => ?_)
      by_cases hkind : kind s = kind r
      · rw [hkind, Function.update_self, Function.update_self]
      · rw [Function.update_of_ne hkind, Function.update_of_ne hkind]
        exact h.2 s hs
    simp only [hupdate]

theorem assign_congr_requests {ss : List ρ}
    (h : List.Forall₂ (fun r s => kind r = kind s ∧ wants r = wants s
      ∧ (wants r = true → prefers r = prefers s)) rs ss) :
    assign kind wants prefers pools rs = assign kind wants prefers pools ss := by
  induction h generalizing pools with
  | nil => rfl
  | @cons r s rs ss hrs _ ih =>
    obtain ⟨hkind, hwants, hprefers⟩ := hrs
    rw [assign_cons, assign_cons, ← hwants, ← hkind]
    by_cases hr : wants r = true
    · rw [if_pos hr, if_pos hr, hprefers hr, ih]
      simp only [ih]
    · rw [if_neg hr, if_neg hr, ih]

theorem assign_append {ss : List ρ} (h : ∀ r ∈ rs, ∀ s ∈ ss, kind r ≠ kind s) :
    assign kind wants prefers pools (rs ++ ss)
      = assign kind wants prefers pools rs ++ assign kind wants prefers pools ss := by
  induction rs generalizing pools with
  | nil => rfl
  | cons r rs ih =>
    rw [List.forall_mem_cons] at h
    have hupdate : ∀ left, assign kind wants prefers (Function.update pools (kind r) left) ss
        = assign kind wants prefers pools ss :=
      fun left => assign_congr (fun s hs => Function.update_of_ne (h.1 s hs).symm _ _)
    rw [List.cons_append, assign_cons, assign_cons, ih h.2]
    split
    · split
      next left _ =>
        rw [ih h.2, hupdate]
        rfl
      next => rfl
    · rfl

theorem mem_pools_of_update {left : List α}
    (h : take (prefers r) (pools (kind r)) = some (a, left))
    (hb : b ∈ Function.update pools (kind r) left k) : b ∈ pools k := by
  by_cases hk : k = kind r
  · subst hk
    rw [Function.update_self] at hb
    exact (take_perm h).mem_iff.mpr (List.mem_cons_of_mem a hb)
  · rwa [Function.update_of_ne hk] at hb

theorem assign_getElem? {i : Nat} (hr : rs[i]? = some r)
    (ha : (assign kind wants prefers pools rs)[i]? = some (some a)) :
    wants r = true ∧ a ∈ pools (kind r) := by
  fun_induction assign kind wants prefers pools rs generalizing i with
  | case1 => cases hr
  | case2 pools r' rs hwants b left htake ih =>
    cases i with
    | zero =>
      cases hr
      cases ha
      exact ⟨hwants, (take_perm htake).mem_iff.mpr List.mem_cons_self⟩
    | succ i =>
      obtain ⟨hw, hmem⟩ := ih hr ha
      exact ⟨hw, mem_pools_of_update htake hmem⟩
  | case3 pools r' rs hwants htake ih =>
    cases i with
    | zero => cases ha
    | succ i => exact ih hr ha
  | case4 pools r' rs hwants ih =>
    cases i with
    | zero => cases ha
    | succ i => exact ih hr ha

theorem assign_preferred {i : Nat} (hr : rs[i]? = some r)
    (ha : (assign kind wants prefers pools rs)[i]? = some (some a)) (hpref : prefers r a = false)
    (hb : b ∈ pools (kind r)) (hbpref : prefers r b = true) :
    ∃ j < i, ∃ r', rs[j]? = some r' ∧ kind r' = kind r
      ∧ (assign kind wants prefers pools rs)[j]? = some (some b) := by
  fun_induction assign kind wants prefers pools rs generalizing i with
  | case1 => cases hr
  | case2 pools r' rs hwants x left htake ih =>
    cases i with
    | zero =>
      cases hr
      cases ha
      exact absurd (not_prefers_of_take htake hpref b hb) (by rw [hbpref]; decide)
    | succ i =>
      by_cases hleft : b ∈ Function.update pools (kind r') left (kind r)
      · obtain ⟨j, hj, s, hs, hkind, hassign⟩ := ih hr ha hleft
        exact ⟨j + 1, by omega, s, hs, hkind, hassign⟩
      · -- it is the element that the first request took.
        have hkind : kind r' = kind r := by
          refine Decidable.byContradiction (fun hne => hleft ?_)
          rwa [Function.update_of_ne (fun h => hne h.symm)]
        rw [hkind, Function.update_self] at hleft
        rw [hkind] at htake
        cases List.mem_cons.mp ((take_perm htake).mem_iff.mp hb) with
        | inl h => exact ⟨0, by omega, r', rfl, hkind, by rw [h]; rfl⟩
        | inr h => exact absurd h hleft
  | case3 pools r' rs hwants htake ih =>
    cases i with
    | zero => cases ha
    | succ i =>
      obtain ⟨j, hj, s, hs, hkind, hassign⟩ := ih hr ha hb
      exact ⟨j + 1, by omega, s, hs, hkind, hassign⟩
  | case4 pools r' rs hwants ih =>
    cases i with
    | zero => cases ha
    | succ i =>
      obtain ⟨j, hj, s, hs, hkind, hassign⟩ := ih hr ha hb
      exact ⟨j + 1, by omega, s, hs, hkind, hassign⟩

theorem mem_pools_of_assign (h : some a ∈ assign kind wants prefers pools rs) :
    ∃ k, a ∈ pools k := by
  obtain ⟨i, hi⟩ := List.mem_iff_getElem?.mp h
  have hlt : i < rs.length := by
    have hlt := (List.getElem?_eq_some_iff.mp hi).1
    rwa [length_assign] at hlt
  exact ⟨_, (assign_getElem? (List.getElem?_eq_getElem hlt) hi).2⟩

theorem assign_pairwise {R : α → α → Prop} (hsymm : ∀ {a b}, R a b → R b a)
    (hsame : ∀ k, (pools k).Pairwise R)
    (hother : ∀ k k', k ≠ k' → ∀ a ∈ pools k, ∀ b ∈ pools k', R a b) :
    (assign kind wants prefers pools rs).reduceOption.Pairwise R := by
  induction rs generalizing pools with
  | nil => exact .nil
  | cons r rs ih =>
    rw [assign_cons]
    split
    next hwants =>
      split
      next x left htake =>
        have hperm := take_perm htake
        have hx := List.pairwise_cons.mp ((hperm.pairwise_iff hsymm).mp (hsame (kind r)))
        rw [List.reduceOption_cons_of_some, List.pairwise_cons]
        refine ⟨?_, ih ?_ ?_⟩
        · intro b hb
          obtain ⟨k, hk⟩ := mem_pools_of_assign (List.reduceOption_mem_iff.mp hb)
          by_cases hkind : k = kind r
          · subst hkind
            rw [Function.update_self] at hk
            exact hx.1 b hk
          · rw [Function.update_of_ne hkind] at hk
            exact hother _ _ (fun h => hkind h.symm) x (hperm.mem_iff.mpr List.mem_cons_self) b hk
        · intro k
          by_cases hkind : k = kind r
          · subst hkind
            rw [Function.update_self]
            exact hx.2
          · rw [Function.update_of_ne hkind]
            exact hsame k
        · intro k k' hne a ha b hb
          exact hother k k' hne a (mem_pools_of_update htake ha) b (mem_pools_of_update htake hb)
      next htake =>
        rw [List.reduceOption_cons_of_none]
        exact ih hsame hother
    next hwants =>
      rw [List.reduceOption_cons_of_none]
      exact ih hsame hother

def preferredFirst (prefers : α → Bool) (pool : List α) : List α :=
  pool.filter prefers ++ pool.filter (!prefers ·)

theorem preferredFirst_of_take {prefers : α → Bool} {pool left : List α}
    (h : take prefers pool = some (a, left)) :
    preferredFirst prefers pool = a :: preferredFirst prefers left := by
  unfold take at h
  split at h
  next b hb =>
    cases h
    obtain ⟨hprefers, xs, ys, rfl, hxs⟩ := List.find?_eq_some_iff_append.mp hb
    have hnone : xs.filter prefers = [] :=
      List.filter_eq_nil_iff.mpr (fun b hb => by simpa using hxs b hb)
    have herase : (xs ++ a :: ys).eraseP prefers = xs ++ ys := by
      rw [List.eraseP_append_right _ (fun b hb => by simpa using hxs b hb),
        List.eraseP_cons_of_pos hprefers]
    simp only [preferredFirst, herase, List.filter_append, hnone, List.nil_append,
      List.filter_cons_of_pos hprefers, List.filter_cons, hprefers, Bool.not_true,
      Bool.false_eq_true, if_false, List.cons_append]
  next hnone =>
    have hall := List.find?_eq_none.mp hnone
    split at h
    · cases h
    next b rest =>
      cases h
      have ha : prefers a = false := by simpa using hall a List.mem_cons_self
      have hrest : left.filter prefers = [] :=
        List.filter_eq_nil_iff.mpr (fun b hb => hall b (List.mem_cons_of_mem a hb))
      simp only [preferredFirst, List.filter_cons, ha, Bool.false_eq_true, if_false, hrest,
        List.nil_append, Bool.not_false, if_true]

theorem assigned_eq_take {p : α → Bool}
    (h : ∀ r ∈ rs, kind r = k → wants r = true → prefers r = p) :
    (rs.zip (assign kind wants prefers pools rs)).filterMap
        (fun x => if kind x.1 = k then x.2 else none)
      = (preferredFirst p (pools k)).take (rs.countP (fun r => kind r = k && wants r)) := by
  induction rs generalizing pools with
  | nil => rfl
  | cons r rs ih =>
    rw [assign_cons]
    split
    next hwants =>
      split
      next x left htake =>
        rw [List.forall_mem_cons] at h
        rw [List.zip_cons_cons, List.filterMap_cons, List.countP_cons]
        by_cases hkind : kind r = k
        · subst hkind
          rw [h.1 rfl hwants] at htake
          rw [if_pos rfl, ih h.2, Function.update_self, preferredFirst_of_take htake]
          simp only [decide_true, hwants, Bool.and_self, if_true]
          rfl
        · rw [if_neg hkind, ih h.2, Function.update_of_ne (fun heq => hkind heq.symm)]
          simp [hkind]
      next htake =>
        rw [List.forall_mem_cons] at h
        rw [List.zip_cons_cons, List.filterMap_cons, List.countP_cons]
        by_cases hkind : kind r = k
        · subst hkind
          rw [if_pos rfl, ih h.2, take_eq_none.mp htake]
          simp only [preferredFirst, List.filter_nil, List.append_nil, List.take_nil]
        · rw [if_neg hkind, ih h.2]
          simp [hkind]
    next hwants =>
      rw [List.forall_mem_cons] at h
      rw [List.zip_cons_cons, List.filterMap_cons, List.countP_cons, ite_self, ih h.2]
      simp only [hwants, Bool.and_false, Bool.false_eq_true, if_false, Nat.add_zero]

theorem countP_assign (k : κ) :
    (rs.zip (assign kind wants prefers pools rs)).countP (fun p => kind p.1 = k && p.2.isSome)
      = min (rs.countP (fun r => kind r = k && wants r)) (pools k).length := by
  induction rs generalizing pools with
  | nil => exact (Nat.zero_min _).symm
  | cons r rs ih =>
    rw [assign_cons]
    split
    next hwants =>
      split
      next x left htake =>
        rw [List.zip_cons_cons, List.countP_cons, List.countP_cons, ih]
        by_cases hkind : kind r = k
        · subst hkind
          have hlength := (take_perm htake).length_eq
          rw [List.length_cons] at hlength
          simp only [Function.update_self, hwants, Option.isSome_some, decide_true, Bool.and_self,
            if_true]
          omega
        · rw [Function.update_of_ne (fun h => hkind h.symm)]
          simp [hkind]
      next htake =>
        rw [List.zip_cons_cons, List.countP_cons, List.countP_cons, ih]
        by_cases hkind : kind r = k
        · subst hkind
          rw [take_eq_none.mp htake, List.length_nil, Nat.min_zero, Nat.min_zero]
          simp only [Option.isSome_none, Bool.and_false, Bool.false_eq_true, if_false]
        · simp [hkind]
    next hwants =>
      rw [List.zip_cons_cons, List.countP_cons, List.countP_cons, ih]
      simp only [hwants, Option.isSome_none, Bool.and_false, Bool.false_eq_true, if_false,
        Nat.add_zero]

theorem countP_unassigned_kind (k : κ) :
    (rs.zip (assign kind wants prefers pools rs)).countP
        (fun p => kind p.1 = k && (wants p.1 && p.2.isNone))
      = rs.countP (fun r => kind r = k && wants r) - (pools k).length := by
  induction rs generalizing pools with
  | nil => exact (Nat.zero_sub _).symm
  | cons r rs ih =>
    rw [assign_cons]
    split
    next hwants =>
      split
      next x left htake =>
        rw [List.zip_cons_cons, List.countP_cons, List.countP_cons, ih]
        by_cases hkind : kind r = k
        · subst hkind
          have hlength := (take_perm htake).length_eq
          rw [List.length_cons] at hlength
          simp only [Function.update_self, hwants, Option.isNone_some, decide_true, Bool.and_false,
            Bool.and_self, Bool.false_eq_true, if_true, if_false]
          omega
        · rw [Function.update_of_ne (fun h => hkind h.symm)]
          simp [hkind]
      next htake =>
        rw [List.zip_cons_cons, List.countP_cons, List.countP_cons, ih]
        by_cases hkind : kind r = k
        · subst hkind
          rw [take_eq_none.mp htake, List.length_nil, Nat.sub_zero, Nat.sub_zero]
          simp only [Option.isNone_none, Bool.and_true]
        · simp [hkind]
    next hwants =>
      rw [List.zip_cons_cons, List.countP_cons, List.countP_cons, ih]
      simp only [hwants, Bool.false_and, Bool.and_false, Bool.false_eq_true, if_false, Nat.add_zero]

end Assign

section Pairwise

variable {β : Type} {R : β → β → Prop} {l : List (Option β)} {i j : Nat} {a b : β}

theorem pairwise_getElem? (h : l.reduceOption.Pairwise R) (hij : i < j)
    (ha : l[i]? = some (some a)) (hb : l[j]? = some (some b)) : R a b := by
  induction l generalizing i j with
  | nil => cases ha
  | cons o l ih =>
    obtain ⟨j, rfl⟩ := Nat.exists_eq_succ_of_ne_zero (show j ≠ 0 by omega)
    have hrest : l.reduceOption.Pairwise R := by
      cases o with
      | none => rwa [List.reduceOption_cons_of_none] at h
      | some c =>
        rw [List.reduceOption_cons_of_some] at h
        exact h.of_cons
    cases i with
    | zero =>
      cases ha
      rw [List.reduceOption_cons_of_some, List.pairwise_cons] at h
      exact h.1 b (List.reduceOption_mem_iff.mpr (List.mem_of_getElem? hb))
    | succ i => exact ih hrest (by omega) ha hb

theorem nodup_getElem? (h : l.reduceOption.Nodup) (ha : l[i]? = some (some a))
    (hb : l[j]? = some (some a)) : i = j := by
  rcases Nat.lt_trichotomy i j with hij | hij | hij
  · exact absurd rfl (pairwise_getElem? h hij ha hb)
  · exact hij
  · exact absurd rfl (pairwise_getElem? h hij hb ha)

end Pairwise

section Distribute

variable {β : Type} (wants : ρ → Bool)

def distribute : List β → List ρ → List (Option β)
  | _, [] => []
  | bs, r :: rs =>
    if wants r then bs.head? :: distribute bs.tail rs else none :: distribute bs rs

variable {wants} {bs : List β} {rs : List ρ} {r : ρ} {b : β}

theorem distribute_cons : distribute wants bs (r :: rs)
    = if wants r then bs.head? :: distribute wants bs.tail rs else none :: distribute wants bs rs :=
  rfl

@[simp]
theorem length_distribute : (distribute wants bs rs).length = rs.length := by
  induction rs generalizing bs with
  | nil => rfl
  | cons r rs ih =>
    rw [distribute_cons]
    split <;> rw [List.length_cons, List.length_cons, ih]

theorem distribute_map {γ : Type} {f : γ → ρ} {l : List γ} :
    distribute wants bs (l.map f) = distribute (fun x => wants (f x)) bs l := by
  induction l generalizing bs with
  | nil => rfl
  | cons x l ih => rw [List.map_cons, distribute_cons, distribute_cons, ih, ih]

theorem distribute_congr {γ : Type} {wants' : γ → Bool} {l : List γ}
    (h : rs.map wants = l.map wants') : distribute wants bs rs = distribute wants' bs l := by
  have hrs : distribute id bs (rs.map wants) = distribute wants bs rs := distribute_map
  have hl : distribute id bs (l.map wants') = distribute wants' bs l := distribute_map
  rw [← hrs, ← hl, h]

theorem distribute_append {xs ys : List β} {ss : List ρ} (h : xs.length = rs.countP wants) :
    distribute wants (xs ++ ys) (rs ++ ss) = distribute wants xs rs ++ distribute wants ys ss := by
  induction rs generalizing xs with
  | nil =>
    rw [List.countP_nil, List.length_eq_zero_iff] at h
    subst h
    rfl
  | cons r rs ih =>
    rw [List.cons_append, distribute_cons, distribute_cons]
    by_cases hr : wants r = true
    · rw [List.countP_cons_of_pos hr] at h
      obtain _ | ⟨x, xs⟩ := xs
      · cases h
      · rw [if_pos hr, if_pos hr, List.cons_append, List.cons_append, List.tail_cons,
          List.tail_cons, ih (Nat.succ.inj h)]
        rfl
    · rw [List.countP_cons_of_neg hr] at h
      rw [if_neg hr, if_neg hr, List.cons_append, ih h]

theorem reduceOption_distribute (h : bs.length = rs.countP wants) :
    (distribute wants bs rs).reduceOption = bs := by
  induction rs generalizing bs with
  | nil =>
    rw [List.countP_nil, List.length_eq_zero_iff] at h
    subst h
    rfl
  | cons r rs ih =>
    rw [distribute_cons]
    by_cases hr : wants r = true
    · rw [List.countP_cons_of_pos hr] at h
      obtain _ | ⟨b, bs⟩ := bs
      · cases h
      · rw [if_pos hr, List.head?_cons, List.reduceOption_cons_of_some, List.tail_cons,
          ih (Nat.succ.inj h)]
    · rw [List.countP_cons_of_neg hr] at h
      rw [if_neg hr, List.reduceOption_cons_of_none, ih h]

theorem distribute_of_not_wants {i : Nat} (hr : rs[i]? = some r) (hwants : wants r = false) :
    (distribute wants bs rs)[i]? = some none := by
  induction rs generalizing bs i with
  | nil => cases hr
  | cons r' rs ih =>
    cases i with
    | zero =>
      cases hr
      rw [distribute_cons, if_neg (by rw [hwants]; decide)]
      rfl
    | succ i =>
      rw [distribute_cons]
      split
      · exact ih hr
      · exact ih hr

theorem distribute_isSome (h : bs.length = rs.countP wants) {i : Nat} (hr : rs[i]? = some r) :
    ∃ o, (distribute wants bs rs)[i]? = some o ∧ o.isSome = wants r := by
  induction rs generalizing bs i with
  | nil => cases hr
  | cons r' rs ih =>
    rw [distribute_cons]
    by_cases hr' : wants r' = true
    · rw [List.countP_cons_of_pos hr'] at h
      obtain _ | ⟨b, bs⟩ := bs
      · cases h
      · rw [if_pos hr']
        cases i with
        | zero =>
          cases hr
          exact ⟨some b, rfl, hr'.symm⟩
        | succ i => exact ih (Nat.succ.inj h) hr
    · rw [List.countP_cons_of_neg hr'] at h
      rw [if_neg hr']
      cases i with
      | zero =>
        cases hr
        exact ⟨none, rfl, (Bool.eq_false_iff.mpr hr').symm⟩
      | succ i => exact ih h hr

end Distribute

section Counts

variable {β : Type} [DecidableEq κ]

theorem sum_indicator {ks : List κ} (hks : ks.Nodup) {k : κ} (hk : k ∈ ks) :
    (ks.map (fun k' => if k = k' then 1 else 0)).sum = 1 := by
  induction ks with
  | nil => cases hk
  | cons k' ks ih =>
    rw [List.nodup_cons] at hks
    rw [List.map_cons, List.sum_cons]
    by_cases h : k = k'
    · subst h
      have hrest : ks.map (fun k' => if k = k' then 1 else 0) = ks.map (fun _ => 0) :=
        List.map_congr_left (fun k' hk' => if_neg (fun (heq : k = k') => hks.1 (heq ▸ hk')))
      rw [if_pos rfl, hrest]
      simp
    · rw [if_neg h, ih hks.2 ((List.mem_cons.mp hk).resolve_left h)]

theorem sum_countP_kinds {f : β → κ} {q : β → Bool} {ks : List κ} (hks : ks.Nodup) {l : List β}
    (hmem : ∀ x ∈ l, f x ∈ ks) :
    (ks.map (fun k => l.countP (fun x => f x = k && q x))).sum = l.countP q := by
  induction l with
  | nil => simp
  | cons x l ih =>
    rw [List.forall_mem_cons] at hmem
    cases hq : q x with
    | false => simp only [List.countP_cons, hq, Bool.and_false, Bool.false_eq_true, if_false,
        Nat.add_zero, ih hmem.2]
    | true =>
      simp only [List.countP_cons, hq, Bool.and_true, if_true, decide_eq_true_eq]
      rw [List.sum_map_add, ih hmem.2, sum_indicator hks hmem.1]

theorem countP_unassigned {α ρ : Type} {kind : ρ → κ} {wants : ρ → Bool} {prefers : ρ → α → Bool}
    {pools : κ → List α} {rs : List ρ} :
    (rs.zip (assign kind wants prefers pools rs)).countP (fun p => wants p.1 && p.2.isNone)
      = ((rs.map kind).dedup.map (fun k =>
          rs.countP (fun r => kind r = k && wants r) - (pools k).length)).sum := by
  have hmem : ∀ p ∈ rs.zip (assign kind wants prefers pools rs), kind p.1 ∈ (rs.map kind).dedup := by
    intro p hp
    exact List.mem_dedup.mpr (List.mem_map_of_mem (List.of_mem_zip hp).1)
  rw [← sum_countP_kinds (rs.map kind).nodup_dedup hmem]
  refine congrArg List.sum (List.map_congr_left (fun k _ => ?_))
  exact countP_unassigned_kind k

end Counts

end Matching
