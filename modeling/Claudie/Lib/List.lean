import Mathlib.Algebra.GroupWithZero.Nat
import Mathlib.Data.List.Forall2

/-!
Lists in which some elements occupy a slot that no other element has.
-/

namespace List

variable {α β : Type}

theorem filterMap_set_of_eq {f : α → Option β} {l : List α} {i : Nat} {a a' : α}
    (h : l[i]? = some a) (heq : f a' = f a) : (l.set i a').filterMap f = l.filterMap f := by
  induction l generalizing i with
  | nil => rfl
  | cons b l ih =>
    cases i with
    | zero =>
      cases h
      simp only [List.set_cons_zero, List.filterMap_cons, heq]
    | succ i => simp only [List.set_cons_succ, List.filterMap_cons, ih h]

theorem not_mem_eraseIdx_of_nodup {f : α → Option β} {l : List α} {i : Nat} {a : α}
    {b : β} (hnodup : (l.filterMap f).Nodup) (h : l[i]? = some a) (hb : f a = some b) :
    ∀ a' ∈ l.eraseIdx i, f a' ≠ some b := by
  induction l generalizing i with
  | nil => cases h
  | cons c l ih =>
    intro a' ha' hb'
    cases i with
    | zero =>
      cases h
      rw [List.filterMap_cons_some hb, List.nodup_cons] at hnodup
      exact hnodup.1 (List.mem_filterMap.mpr ⟨a', ha', hb'⟩)
    | succ i =>
      have hnodup' : (l.filterMap f).Nodup :=
        hnodup.sublist ((List.sublist_cons_self c l).filterMap f)
      rw [List.eraseIdx_cons_succ] at ha'
      obtain rfl | ha' := List.mem_cons.mp ha'
      · rw [List.filterMap_cons_some hb', List.nodup_cons] at hnodup
        exact hnodup.1 (List.mem_filterMap.mpr ⟨a, List.mem_of_getElem? h, hb⟩)
      · exact ih hnodup' h a' ha' hb'

def modifyFirst (p : α → Bool) (f : α → α) : List α → List α
  | [] => []
  | a :: l => if p a then f a :: l else a :: modifyFirst p f l

section modifyFirst

variable {p q : α → Bool} {f : α → α} {l : List α} {a : α}

theorem modifyFirst_cons :
    (a :: l).modifyFirst p f = if p a then f a :: l else a :: l.modifyFirst p f := rfl

theorem sum_modifyFirst {w : α → Nat} (h : l.find? p = some a) :
    ((l.modifyFirst p f).map w).sum + w a = (l.map w).sum + w (f a) := by
  induction l with
  | nil => cases h
  | cons b l ih =>
    rw [List.find?_cons] at h
    split at h
    next hb =>
      cases h
      simp only [modifyFirst_cons, hb, if_true, List.map_cons, List.sum_cons]
      omega
    next hb =>
      simp only [modifyFirst_cons, hb, Bool.false_eq_true, if_false, List.map_cons, List.sum_cons]
      have := ih h
      omega

theorem mem_modifyFirst {b : α} (h : b ∈ l.modifyFirst p f) :
    b ∈ l ∨ ∃ a, l.find? p = some a ∧ b = f a := by
  induction l with
  | nil => cases h
  | cons c l ih =>
    rw [modifyFirst_cons] at h
    split at h
    next hc =>
      obtain rfl | h := List.mem_cons.mp h
      · exact .inr ⟨c, List.find?_cons_of_pos hc, rfl⟩
      · exact .inl (List.mem_cons_of_mem _ h)
    next hc =>
      obtain rfl | h := List.mem_cons.mp h
      · exact .inl List.mem_cons_self
      · obtain h | ⟨a, ha, rfl⟩ := ih h
        · exact .inl (List.mem_cons_of_mem _ h)
        · exact .inr ⟨a, by rwa [List.find?_cons_of_neg hc], rfl⟩

theorem mem_modifyFirst_self (h : l.find? p = some a) : f a ∈ l.modifyFirst p f := by
  induction l with
  | nil => cases h
  | cons b l ih =>
    rw [List.find?_cons] at h
    rw [modifyFirst_cons]
    split at h
    next hb =>
      cases h
      rw [if_pos hb]
      exact List.mem_cons_self
    next hb =>
      rw [if_neg (by simp [hb])]
      exact List.mem_cons_of_mem _ (ih h)

theorem find?_modifyFirst_of_not (hq : ∀ a, p a = true → q a = false ∧ q (f a) = false) :
    (l.modifyFirst p f).find? q = l.find? q := by
  induction l with
  | nil => rfl
  | cons a l ih =>
    rw [modifyFirst_cons]
    split
    next ha =>
      obtain ⟨hqa, hqf⟩ := hq a ha
      rw [List.find?_cons_of_neg (by simp [hqf]), List.find?_cons_of_neg (by simp [hqa])]
    next => rw [List.find?_cons, List.find?_cons, ih]

theorem modifyFirst_of_find?_eq_none (h : l.find? p = none) : l.modifyFirst p f = l := by
  induction l with
  | nil => rfl
  | cons a l ih =>
    rw [List.find?_eq_none, List.forall_mem_cons] at h
    rw [modifyFirst_cons, if_neg h.1, ih (List.find?_eq_none.mpr h.2)]

theorem find?_modifyFirst (h : l.find? p = some a) (hp : p (f a) = true) :
    (l.modifyFirst p f).find? p = some (f a) := by
  induction l with
  | nil => cases h
  | cons b l ih =>
    rw [List.find?_cons] at h
    rw [modifyFirst_cons]
    split at h
    next hb =>
      cases h
      rw [if_pos hb, List.find?_cons_of_pos hp]
    next hb =>
      rw [if_neg (by simp [hb]), List.find?_cons_of_neg (by simp [hb])]
      exact ih h

theorem map_modifyFirst {h : α → β} {p' : β → Bool} {g : β → β} (hp : ∀ a, p' (h a) = p a)
    (hf : ∀ a, l.find? p = some a → h (f a) = g (h a)) :
    (l.modifyFirst p f).map h = (l.map h).modifyFirst p' g := by
  induction l with
  | nil => rfl
  | cons a l ih =>
    rw [modifyFirst_cons, List.map_cons, modifyFirst_cons, hp]
    split
    next ha => rw [List.map_cons, hf a (List.find?_cons_of_pos ha)]
    next ha =>
      rw [List.map_cons, ih]
      intro b hb
      exact hf b (by rwa [List.find?_cons_of_neg ha])

theorem map_modifyFirst_of_eq {h : α → β} (hf : ∀ a, l.find? p = some a → h (f a) = h a) :
    (l.modifyFirst p f).map h = l.map h := by
  induction l with
  | nil => rfl
  | cons a l ih =>
    rw [modifyFirst_cons]
    split
    next ha => rw [List.map_cons, List.map_cons, hf a (List.find?_cons_of_pos ha)]
    next ha =>
      rw [List.map_cons, List.map_cons, ih]
      intro b hb
      exact hf b (by rwa [List.find?_cons_of_neg ha])

theorem filter_modifyFirst_of_not
    (hq : ∀ a, l.find? p = some a → q a = false ∧ q (f a) = false) :
    (l.modifyFirst p f).filter q = l.filter q := by
  induction l with
  | nil => rfl
  | cons a l ih =>
    rw [modifyFirst_cons]
    split
    next ha =>
      obtain ⟨hqa, hqf⟩ := hq a (List.find?_cons_of_pos ha)
      rw [List.filter_cons_of_neg (by simp [hqf]), List.filter_cons_of_neg (by simp [hqa])]
    next ha =>
      rw [List.filter_cons, List.filter_cons, ih]
      intro b hb
      exact hq b (by rwa [List.find?_cons_of_neg ha])

theorem filter_eraseP_of_not (hq : ∀ a, p a = true → q a = false) :
    (l.eraseP p).filter q = l.filter q := by
  induction l with
  | nil => rfl
  | cons a l ih =>
    by_cases ha : p a = true
    · rw [List.eraseP_cons_of_pos ha, List.filter_cons_of_neg (by simp [hq a ha])]
    · rw [List.eraseP_cons_of_neg ha, List.filter_cons, List.filter_cons, ih]

theorem countP_modifyFirst (h : l.find? p = some a) :
    (l.modifyFirst p f).countP q + (if q a then 1 else 0)
      = l.countP q + (if q (f a) then 1 else 0) := by
  have hsum : ∀ l : List α, l.countP q = (l.map (fun x => if q x then 1 else 0)).sum := by
    intro l
    induction l with
    | nil => rfl
    | cons b l ih =>
      rw [List.countP_cons, List.map_cons, List.sum_cons, ih]
      omega
  rw [hsum, hsum]
  exact sum_modifyFirst h

theorem set_eq_modifyFirst {i : Nat} {b : α} (h : l.findIdx? p = some i) :
    l.set i b = l.modifyFirst p (fun _ => b) := by
  induction l generalizing i with
  | nil => cases h
  | cons c l ih =>
    rw [List.findIdx?_cons] at h
    cases hc : p c with
    | true =>
      rw [hc] at h
      cases h
      simp only [modifyFirst_cons, hc, if_true, List.set_cons_zero]
    | false =>
      rw [hc] at h
      obtain ⟨j, hj, rfl⟩ := Option.map_eq_some_iff.mp h
      simp only [modifyFirst_cons, hc, Bool.false_eq_true, if_false, List.set_cons_succ, ih hj]

theorem modify_eq_modifyFirst {i : Nat} (h : l.findIdx? p = some i) :
    l.modify i f = l.modifyFirst p f := by
  induction l generalizing i with
  | nil => cases h
  | cons c l ih =>
    rw [List.findIdx?_cons] at h
    cases hc : p c with
    | true =>
      rw [hc] at h
      cases h
      simp only [modifyFirst_cons, hc, if_true, List.modify_zero_cons]
    | false =>
      rw [hc] at h
      obtain ⟨j, hj, rfl⟩ := Option.map_eq_some_iff.mp h
      simp only [modifyFirst_cons, hc, Bool.false_eq_true, if_false, List.modify_succ_cons, ih hj]

theorem exists_modifyFirst_eq (f : α → α) (h : l.find? p = some a) :
    ∃ l₁ l₂, l = l₁ ++ a :: l₂ ∧ l.modifyFirst p f = l₁ ++ f a :: l₂ ∧ ∀ b ∈ l₁, p b = false := by
  induction l with
  | nil => cases h
  | cons b l ih =>
    rw [List.find?_cons] at h
    split at h
    next hb =>
      cases h
      exact ⟨[], l, rfl, by rw [modifyFirst_cons, if_pos hb, nil_append], forall_mem_nil _⟩
    next hb =>
      obtain ⟨l₁, l₂, rfl, heq, hl₁⟩ := ih h
      refine ⟨b :: l₁, l₂, rfl, ?_, forall_mem_cons.mpr ⟨hb, hl₁⟩⟩
      rw [modifyFirst_cons, if_neg (by rw [hb]; exact Bool.false_ne_true), heq, cons_append]

theorem flatMap_modifyFirst_perm {g : α → List β} {r : List β} (h : l.find? p = some a)
    (hf : (g (f a) ++ r).Perm (g a)) : ((l.modifyFirst p f).flatMap g ++ r).Perm (l.flatMap g) := by
  induction l with
  | nil => cases h
  | cons b l ih =>
    rw [List.find?_cons] at h
    split at h
    next hb =>
      cases h
      simp only [modifyFirst_cons, hb, if_true, List.flatMap_cons]
      calc g (f a) ++ l.flatMap g ++ r
        _ = g (f a) ++ (l.flatMap g ++ r) := List.append_assoc ..
        List.Perm _ (g (f a) ++ (r ++ l.flatMap g)) := List.perm_append_comm.append_left _
        _ = g (f a) ++ r ++ l.flatMap g := (List.append_assoc ..).symm
        List.Perm _ (g a ++ l.flatMap g) := hf.append_right _
    next hb =>
      simp only [modifyFirst_cons, hb, Bool.false_eq_true, if_false, List.flatMap_cons,
        List.append_assoc]
      exact (ih h).append_left _

end modifyFirst

theorem forall₂_trans {α β γ : Type} {R : α → β → Prop} {S : β → γ → Prop} {T : α → γ → Prop}
    {l : List α} {l' : List β} {l'' : List γ} (h : Forall₂ R l l') (h' : Forall₂ S l' l'')
    (htrans : ∀ a b c, R a b → S b c → T a c) : Forall₂ T l l'' := by
  induction h generalizing l'' with
  | nil =>
    cases h'
    exact .nil
  | cons hab _ ih =>
    cases h' with
    | cons hbc h' => exact .cons (htrans _ _ _ hab hbc) (ih h')

theorem forall₂_iff_getElem? {α β : Type} {R : α → β → Prop} {l : List α} {l' : List β} :
    Forall₂ R l l' ↔ l.length = l'.length
      ∧ ∀ (i : Nat) (a : α) (b : β), l[i]? = some a → l'[i]? = some b → R a b := by
  constructor
  · intro h
    refine ⟨h.length_eq, ?_⟩
    induction h with
    | nil =>
      intro i a b ha
      cases ha
    | cons hab _ ih =>
      intro i a b ha hb
      cases i with
      | zero =>
        cases ha
        cases hb
        exact hab
      | succ i => exact ih i a b ha hb
  · rintro ⟨hlength, h⟩
    induction l generalizing l' with
    | nil =>
      rw [length_eq_zero_iff.mp hlength.symm]
      exact .nil
    | cons a l ih =>
      obtain _ | ⟨b, l'⟩ := l'
      · cases hlength
      · exact .cons (h 0 a b rfl rfl)
          (ih (Nat.succ.inj hlength) (fun i a b ha hb => h (i + 1) a b ha hb))

theorem countP_eq_of_map_eq {p : α → Bool} {q : β → Bool} {l : List α} {l' : List β}
    (h : l.map p = l'.map q) : l.countP p = l'.countP q := by
  have hcount := congrArg (countP id) h
  rw [countP_map, countP_map] at hcount
  exact hcount

theorem exists_getElem?_of_forall₂ {α β : Type} {R : α → β → Prop} {l : List α} {l' : List β}
    {i : Nat} {a : α} (h : Forall₂ R l l') (ha : l[i]? = some a) : ∃ b, l'[i]? = some b ∧ R a b := by
  obtain ⟨hlength, hR⟩ := forall₂_iff_getElem?.mp h
  obtain ⟨hi, -⟩ := getElem?_eq_some_iff.mp ha
  have hi' : l'[i]? = some (l'.get ⟨i, hlength ▸ hi⟩) := getElem?_eq_getElem _
  exact ⟨_, hi', hR i a _ ha hi'⟩

theorem countP_lt_countP {p q : α → Bool} {l : List α} {a : α}
    (h : ∀ b ∈ l, p b = true → q b = true) (ha : a ∈ l) (hp : p a = false) (hq : q a = true) :
    l.countP p < l.countP q := by
  obtain ⟨l₁, l₂, rfl⟩ := append_of_mem ha
  have h₁ : l₁.countP p ≤ l₁.countP q :=
    countP_mono_left fun b hb => h b (mem_append_left _ hb)
  have h₂ : l₂.countP p ≤ l₂.countP q :=
    countP_mono_left fun b hb => h b (mem_append_right _ (mem_cons_of_mem a hb))
  rw [countP_append, countP_append, countP_cons_of_pos hq,
    countP_cons_of_neg (by rw [hp]; exact Bool.false_ne_true)]
  omega

theorem exists_mem_of_forall₂ {R : α → β → Prop} {l : List α} {l' : List β} {b : β}
    (h : Forall₂ R l l') (hb : b ∈ l') : ∃ a ∈ l, R a b := by
  induction h with
  | nil => cases hb
  | @cons a b' l l' hab _ ih =>
    rcases mem_cons.mp hb with rfl | hb
    · exact ⟨a, mem_cons_self, hab⟩
    · obtain ⟨a', ha', hR⟩ := ih hb
      exact ⟨a', mem_cons_of_mem a ha', hR⟩

theorem map_eq_of_forall₂ {γ : Type} {R : α → β → Prop} {l : List α} {l' : List β} {f : α → γ}
    {g : β → γ} (h : Forall₂ R l l') (hR : ∀ a b, R a b → f a = g b) : l.map f = l'.map g := by
  induction h with
  | nil => rfl
  | cons hab _ ih => rw [map_cons, map_cons, hR _ _ hab, ih]

theorem countP_le_one_iff {p : α → Bool} {l : List α} (hnodup : l.Nodup) :
    l.countP p ≤ 1 ↔ ∀ a ∈ l, ∀ b ∈ l, a ≠ b → p a = true → p b = false := by
  induction l with
  | nil => simp
  | cons a l ih =>
    obtain ⟨hnew, hnodup⟩ := nodup_cons.mp hnodup
    have hzero : l.countP p = 0 ↔ ∀ b ∈ l, p b = false := by simp [countP_eq_zero]
    have hne : ∀ b ∈ l, a ≠ b := fun b hb heq => hnew (heq ▸ hb)
    rw [countP_cons]
    constructor
    · intro hle b hb b' hb' hbb' hpb
      rcases mem_cons.mp hb with rfl | hbl <;> rcases mem_cons.mp hb' with rfl | hbl'
      · exact absurd rfl hbb'
      · rw [if_pos hpb] at hle
        exact hzero.mp (by omega) b' hbl'
      · by_contra hpa
        rw [if_pos (Bool.not_eq_false _ ▸ hpa)] at hle
        rw [hzero.mp (by omega) b hbl] at hpb
        cases hpb
      · exact (ih hnodup).mp (by omega) b hbl b' hbl' hbb' hpb
    · intro hall
      have hl := (ih hnodup).mpr fun b hb b' hb' =>
        hall b (mem_cons_of_mem a hb) b' (mem_cons_of_mem a hb')
      split
      next hpa =>
        have := hzero.mpr fun b hb =>
          hall a mem_cons_self b (mem_cons_of_mem a hb) (hne b hb) hpa
        omega
      next => omega

end List
