import Claudie.Lib.List
import Mathlib.Data.List.Nodup

/-!
Lists whose elements are found by a key, and the loops that change the elements with given keys.
-/

namespace List

variable {α β κ ε : Type} [DecidableEq κ] {key : α → κ}

theorem find?_key_eq_some {l : List α} (hnodup : (l.map key).Nodup) {k : κ} {a : α} :
    l.find? (fun x => key x = k) = some a ↔ a ∈ l ∧ key a = k := by
  refine ⟨fun h => ⟨List.mem_of_find?_eq_some h, by simpa using List.find?_some h⟩, ?_⟩
  rintro ⟨ha, rfl⟩
  cases hfind : l.find? (fun x => key x = key a) with
  | none => simpa using List.find?_eq_none.mp hfind a ha
  | some b =>
    have hkey : key b = key a := by simpa using List.find?_some hfind
    rw [List.inj_on_of_nodup_map hnodup (List.mem_of_find?_eq_some hfind) ha hkey]

theorem find?_key_eq_none {l : List α} {k : κ} :
    l.find? (fun x => key x = k) = none ↔ k ∉ l.map key := by
  simp [List.find?_eq_none]

theorem findIdx?_key_eq_some {l : List α} (hnodup : (l.map key).Nodup) {i : Nat} {a : α}
    (ha : l[i]? = some a) : l.findIdx? (fun x => key x = key a) = some i := by
  obtain ⟨hlt, rfl⟩ := List.getElem?_eq_some_iff.mp ha
  refine List.findIdx?_eq_some_iff_getElem.mpr ⟨hlt, by simp, fun j hj => ?_⟩
  have hne : key l[j] ≠ key l[i] :=
    List.pairwise_iff_getElem.mp (List.pairwise_map.mp hnodup) j i (Nat.lt_trans hj hlt) hlt hj
  simpa using hne

theorem filter_key_eq {l : List α} (hnodup : (l.map key).Nodup) {k : κ} :
    l.filter (fun x => k = key x) = (l.find? (fun x => key x = k)).toList := by
  induction l with
  | nil => rfl
  | cons a l ih =>
    rw [List.map_cons, List.nodup_cons] at hnodup
    by_cases hk : key a = k
    · subst hk
      have hnone : l.find? (fun x => key x = key a) = none := find?_key_eq_none.mpr hnodup.1
      rw [List.filter_cons_of_pos (by simp), ih hnodup.2, hnone,
        List.find?_cons_of_pos (by simp)]
      rfl
    · rw [List.filter_cons_of_neg (by simpa using Ne.symm hk), ih hnodup.2,
        List.find?_cons_of_neg (by simpa using hk)]

theorem lookup_eq_some_of_nodup {l : List (String × β)} (hnodup : (l.map (·.1)).Nodup) {k : String}
    {b : β} : l.lookup k = some b ↔ (k, b) ∈ l := by
  induction l with
  | nil => simp
  | cons kv l ih =>
    obtain ⟨k', b'⟩ := kv
    rw [List.map_cons, List.nodup_cons] at hnodup
    rw [List.lookup_cons, List.mem_cons, Prod.mk.injEq]
    by_cases hk : k = k'
    · subst hk
      have hno : (k, b) ∉ l := fun hmem => hnodup.1 (List.mem_map.mpr ⟨(k, b), hmem, rfl⟩)
      simp only [beq_self_eq_true, Option.some.injEq, true_and, hno, or_false]
      exact eq_comm
    · have hne : (k == k') = false := by simpa using hk
      simp only [hne, ih hnodup.2, hk, false_and, false_or]

theorem nodup_map_snd_zipIdx (l : List α) : (l.zipIdx.map (·.2)).Nodup := by
  rw [List.zipIdx_map_snd]
  exact List.nodup_range'

omit [DecidableEq κ] in
theorem nodup_flatMap_of_key (k : α → κ) (k' : β → κ) {l : List α} {f : α → List β}
    (hl : (l.map k).Nodup) (hf : ∀ a ∈ l, (f a).Nodup) (hk : ∀ a ∈ l, ∀ b ∈ f a, k' b = k a) :
    (l.flatMap f).Nodup := by
  rw [List.nodup_flatMap]
  refine ⟨hf, ?_⟩
  have hpairwise : l.Pairwise (fun a a' => k a ≠ k a') := List.pairwise_map.mp hl
  refine hpairwise.imp_of_mem ?_
  intro a a' ha ha' hne b hb hb'
  exact hne ((hk a ha b hb).symm.trans (hk a' ha' b hb'))

theorem foldl_iff {σ : Type} {E : σ → Prop} {g : σ → α → σ} {p : α → Prop} {l : List α} {s : σ}
    (hg : ∀ s a, E (g s a) ↔ E s ∧ p a) : E (l.foldl g s) ↔ E s ∧ ∀ a ∈ l, p a := by
  induction l generalizing s with
  | nil => simp
  | cons a l ih => rw [List.foldl_cons, ih, hg, List.forall_mem_cons, and_assoc]

def modifyKey (key : α → κ) (k : κ) (f : α → Except ε α) : List α → Except ε (List α)
  | [] => .ok []
  | a :: l =>
    if key a = k then do
      let a ← f a
      pure (a :: l)
    else do
      let l ← modifyKey key k f l
      pure (a :: l)

section modifyKey

variable {k : κ} {f : α → Except ε α} {l l' : List α}

theorem modifyKey_cons {a : α} : modifyKey key k f (a :: l)
    = if key a = k then f a >>= fun a => pure (a :: l)
      else modifyKey key k f l >>= fun l => pure (a :: l) := rfl

theorem modifyKey_of_not_mem (h : k ∉ l.map key) : modifyKey key k f l = .ok l := by
  induction l with
  | nil => rfl
  | cons a l ih =>
    rw [List.map_cons, List.mem_cons, not_or] at h
    rw [modifyKey_cons, if_neg (Ne.symm h.1), ih h.2]
    rfl

theorem modifyKey_congr {g : α → Except ε α} (h : ∀ a, key a = k → f a = g a) :
    modifyKey key k f l = modifyKey key k g l := by
  induction l with
  | nil => rfl
  | cons a l ih =>
    rw [modifyKey_cons, modifyKey_cons, ih]
    split
    next hk => rw [h a hk]
    next => rfl

theorem modifyKey_ok_eq_map (hnodup : (l.map key).Nodup) {g : α → α} :
    modifyKey (ε := ε) key k (fun a => .ok (g a)) l
      = .ok (l.map (fun a => if key a = k then g a else a)) := by
  induction l with
  | nil => rfl
  | cons a l ih =>
    rw [List.map_cons, List.nodup_cons] at hnodup
    rw [modifyKey_cons]
    split
    next hk =>
      have hrest : l.map (fun a => if key a = k then g a else a) = l := by
        refine (List.map_congr_left fun b hb => ?_).trans (List.map_id l)
        have hne : key b ≠ k := fun hb' => hnodup.1 (hk.trans hb'.symm ▸ List.mem_map_of_mem hb)
        exact if_neg hne
      rw [List.map_cons, hrest, if_pos hk]
      rfl
    next hk =>
      rw [ih hnodup.2, List.map_cons, if_neg hk]
      rfl

theorem modifyKey_eq_ok (hf : ∀ a a', f a = .ok a' → key a' = key a)
    (h : modifyKey key k f l = .ok l') :
    l'.map key = l.map key
      ∧ (∀ k' ≠ k, l'.find? (fun x => key x = k') = l.find? (fun x => key x = k'))
      ∧ (∀ a, l.find? (fun x => key x = k) = some a →
        ∃ a', f a = .ok a' ∧ l'.find? (fun x => key x = k) = some a') := by
  induction l generalizing l' with
  | nil =>
    cases h
    simp
  | cons a l ih =>
    rw [modifyKey_cons] at h
    split at h
    next hk =>
      cases ha : f a with
      | error e => simp [ha, bind, Except.bind] at h
      | ok a' =>
        simp only [ha, bind, Except.bind, pure, Except.pure, Except.ok.injEq] at h
        subst h
        have hk' := hf a a' ha
        refine ⟨by simp [hk'], fun k' hne => ?_, fun b hb => ?_⟩
        · rw [List.find?_cons_of_neg (by simpa [hk', hk] using Ne.symm hne),
            List.find?_cons_of_neg (by simpa [hk] using Ne.symm hne)]
        · rw [List.find?_cons_of_pos (by simpa using hk)] at hb
          cases hb
          exact ⟨a', ha, List.find?_cons_of_pos (by simpa [hk'] using hk)⟩
    next hk =>
      cases hl : modifyKey key k f l with
      | error e => simp [hl, bind, Except.bind] at h
      | ok l₁ =>
        simp only [hl, bind, Except.bind, pure, Except.pure, Except.ok.injEq] at h
        subst h
        obtain ⟨hkeys, hother, hfound⟩ := ih hl
        refine ⟨by simp [hkeys], fun k' hne => ?_, fun b hb => ?_⟩
        · simp only [List.find?_cons, hother k' hne]
        · rw [List.find?_cons_of_neg (by simpa using hk)] at hb ⊢
          exact hfound b hb

theorem modifyKey_isOk (h : ∀ a, l.find? (fun x => key x = k) = some a → ∃ a', f a = .ok a') :
    ∃ l', modifyKey key k f l = .ok l' := by
  induction l with
  | nil => exact ⟨[], rfl⟩
  | cons a l ih =>
    rw [modifyKey_cons]
    split
    next hk =>
      obtain ⟨a', ha⟩ := h a (List.find?_cons_of_pos (by simpa using hk))
      exact ⟨a' :: l, by rw [ha]; rfl⟩
    next hk =>
      rw [List.find?_cons_of_neg (by simpa using hk)] at h
      obtain ⟨l', hl⟩ := ih h
      exact ⟨a :: l', by rw [hl]; rfl⟩

theorem modifyKey_of_findIdx? {i : Nat} {a : α} (hi : l.findIdx? (fun x => key x = k) = some i)
    (ha : l[i]? = some a) : modifyKey key k f l = (f a).bind (fun a' => .ok (l.set i a')) := by
  induction l generalizing i with
  | nil => cases ha
  | cons b l ih =>
    rw [List.findIdx?_cons] at hi
    rw [modifyKey_cons]
    split at hi
    next hk =>
      cases hi
      cases ha
      rw [if_pos (by simpa using hk)]
      cases f a <;> rfl
    next hk =>
      obtain ⟨j, hj, rfl⟩ := Option.map_eq_some_iff.mp hi
      rw [if_neg (by simpa using hk), ih hj (by simpa using ha)]
      cases f a <;> rfl

theorem findIdx?_congr_key (h : l'.map key = l.map key) (k : κ) :
    l'.findIdx? (fun x => key x = k) = l.findIdx? (fun x => key x = k) := by
  have hmap : ∀ l : List α, l.findIdx? (fun x => key x = k)
      = (l.map key).findIdx? (fun k' => decide (k' = k)) := by
    intro l
    rw [List.findIdx?_map]
    rfl
  rw [hmap, hmap, h]

theorem modifyKey_getElem? (h : modifyKey key k f l = .ok l') {i : Nat} {a : α}
    (ha : l[i]? = some a) :
    (l.findIdx? (fun x => key x = k) = some i → ∃ a', f a = .ok a' ∧ l'[i]? = some a')
      ∧ (l.findIdx? (fun x => key x = k) ≠ some i → l'[i]? = some a) := by
  cases hj : l.findIdx? (fun x => key x = k) with
  | none =>
    have hkey : k ∉ l.map key := by
      intro hmem
      obtain ⟨b, hb, rfl⟩ := List.mem_map.mp hmem
      simpa using List.findIdx?_eq_none_iff.mp hj b hb
    rw [modifyKey_of_not_mem hkey] at h
    cases h
    exact ⟨fun heq => (by cases heq), fun _ => ha⟩
  | some j =>
    have hlt := (List.findIdx?_eq_some_iff_findIdx_eq.mp hj).1
    rw [modifyKey_of_findIdx? hj (List.getElem?_eq_getElem hlt)] at h
    cases hb : f l[j] with
    | error e =>
      rw [hb] at h
      cases h
    | ok b' =>
      rw [hb] at h
      cases h
      constructor
      · intro heq
        cases heq
        rw [List.getElem?_eq_getElem hlt] at ha
        cases ha
        exact ⟨b', hb, List.getElem?_set_self hlt⟩
      · intro hne
        rwa [List.getElem?_set_ne (fun heq => hne (congrArg some heq))]

theorem modifyKey_forall₂ {R : α → α → Prop} (hrefl : ∀ a, R a a)
    (hf : ∀ a a', f a = .ok a' → R a a') (h : modifyKey key k f l = .ok l') : Forall₂ R l l' := by
  induction l generalizing l' with
  | nil =>
    cases h
    exact .nil
  | cons a l ih =>
    rw [modifyKey_cons] at h
    split at h
    next =>
      cases ha : f a with
      | error e => simp [ha, bind, Except.bind] at h
      | ok a' =>
        rw [ha] at h
        cases h
        exact .cons (hf a a' ha) (forall₂_same.mpr (fun b _ => hrefl b))
    next =>
      cases hl : modifyKey key k f l with
      | error e => simp [hl, bind, Except.bind] at h
      | ok l₁ =>
        rw [hl] at h
        cases h
        exact .cons (hrefl a) (ih hl)

end modifyKey

def modifyKeys (key : α → κ) (f : κ → β → α → Except ε α) (l : List α) :
    List (κ × β) → Except ε (List α)
  | [] => .ok l
  | (k, b) :: entries => do
    let l ← modifyKey key k (f k b) l
    modifyKeys key f l entries

section modifyKeys

variable {f : κ → β → α → Except ε α} {l l' : List α} {entries : List (κ × β)}

theorem modifyKeys_cons_eq_ok {k : κ} {b : β} (h : modifyKeys key f l ((k, b) :: entries) = .ok l') :
    ∃ l₁, modifyKey key k (f k b) l = .ok l₁ ∧ modifyKeys key f l₁ entries = .ok l' := by
  rw [modifyKeys] at h
  cases hl : modifyKey key k (f k b) l with
  | error e => simp [hl, bind, Except.bind] at h
  | ok l₁ =>
    rw [hl] at h
    exact ⟨l₁, rfl, h⟩

theorem modifyKeys_keys (hf : ∀ k b a a', f k b a = .ok a' → key a' = key a)
    (h : modifyKeys key f l entries = .ok l') : l'.map key = l.map key := by
  induction entries generalizing l with
  | nil =>
    cases h
    rfl
  | cons kb entries ih =>
    obtain ⟨l₁, hl, h⟩ := modifyKeys_cons_eq_ok h
    rw [ih h, (modifyKey_eq_ok (hf kb.1 kb.2) hl).1]

theorem modifyKeys_find?_of_not_mem (hf : ∀ k b a a', f k b a = .ok a' → key a' = key a)
    (h : modifyKeys key f l entries = .ok l') {k : κ} (hk : k ∉ entries.map (·.1)) :
    l'.find? (fun x => key x = k) = l.find? (fun x => key x = k) := by
  induction entries generalizing l with
  | nil =>
    cases h
    rfl
  | cons kb entries ih =>
    rw [List.map_cons, List.mem_cons, not_or] at hk
    obtain ⟨l₁, hl, h⟩ := modifyKeys_cons_eq_ok h
    rw [ih h hk.2, (modifyKey_eq_ok (hf kb.1 kb.2) hl).2.1 k hk.1]

theorem modifyKeys_find?_of_mem (hf : ∀ k b a a', f k b a = .ok a' → key a' = key a)
    (hentries : (entries.map (·.1)).Nodup) (h : modifyKeys key f l entries = .ok l') {k : κ} {b : β}
    (hk : (k, b) ∈ entries) {a : α} (ha : l.find? (fun x => key x = k) = some a) :
    ∃ a', f k b a = .ok a' ∧ l'.find? (fun x => key x = k) = some a' := by
  induction entries generalizing l with
  | nil => cases hk
  | cons kb entries ih =>
    rw [List.map_cons, List.nodup_cons] at hentries
    obtain ⟨l₁, hl, hrest⟩ := modifyKeys_cons_eq_ok h
    obtain ⟨_, hother, hfound⟩ := modifyKey_eq_ok (hf kb.1 kb.2) hl
    cases hk with
    | head =>
      obtain ⟨a', hfa, ha'⟩ := hfound a ha
      exact ⟨a', hfa, (modifyKeys_find?_of_not_mem hf hrest hentries.1).trans ha'⟩
    | tail _ hk =>
      have hne : k ≠ kb.1 := fun heq => hentries.1 (heq ▸ List.mem_map_of_mem hk)
      exact ih hentries.2 hrest hk ((hother k hne).trans ha)

theorem modifyKeys_getElem?_of_ne (hf : ∀ k b a a', f k b a = .ok a' → key a' = key a)
    (h : modifyKeys key f l entries = .ok l') {i : Nat} {a : α} (ha : l[i]? = some a)
    (hne : l.findIdx? (fun x => key x = key a) ≠ some i ∨ key a ∉ entries.map (·.1)) :
    l'[i]? = some a := by
  induction entries generalizing l with
  | nil =>
    cases h
    exact ha
  | cons kb entries ih =>
    obtain ⟨l₁, hl, hrest⟩ := modifyKeys_cons_eq_ok h
    have hkeys := (modifyKey_eq_ok (hf kb.1 kb.2) hl).1
    have hstep : l₁[i]? = some a := by
      refine (modifyKey_getElem? hl ha).2 (fun hidx => ?_)
      obtain ⟨hlt, hkey, -⟩ := List.findIdx?_eq_some_iff_getElem.mp hidx
      rw [List.getElem?_eq_getElem hlt] at ha
      cases ha
      have hkey : key l[i] = kb.1 := by simpa using hkey
      rcases hne with hne | hne
      · rw [hkey] at hne
        exact hne hidx
      · exact hne (hkey ▸ List.mem_cons_self)
    refine ih hrest hstep ?_
    rw [findIdx?_congr_key hkeys]
    exact hne.imp_right (fun hne hmem => hne (List.mem_cons_of_mem _ hmem))

theorem modifyKeys_getElem?_of_mem (hf : ∀ k b a a', f k b a = .ok a' → key a' = key a)
    (hentries : (entries.map (·.1)).Nodup) (h : modifyKeys key f l entries = .ok l') {i : Nat}
    {a : α} (ha : l[i]? = some a) (hfirst : l.findIdx? (fun x => key x = key a) = some i) {b : β}
    (hb : (key a, b) ∈ entries) : ∃ a', f (key a) b a = .ok a' ∧ l'[i]? = some a' := by
  induction entries generalizing l with
  | nil => cases hb
  | cons kb entries ih =>
    rw [List.map_cons, List.nodup_cons] at hentries
    obtain ⟨l₁, hl, hrest⟩ := modifyKeys_cons_eq_ok h
    have hkeys := (modifyKey_eq_ok (hf kb.1 kb.2) hl).1
    cases hb with
    | head =>
      obtain ⟨a', hfa, ha'⟩ := (modifyKey_getElem? hl ha).1 hfirst
      refine ⟨a', hfa, modifyKeys_getElem?_of_ne hf hrest ha' (.inr ?_)⟩
      rw [hf _ _ a a' hfa]
      exact hentries.1
    | tail _ hb =>
      have hne : key a ≠ kb.1 := fun heq => hentries.1 (heq ▸ List.mem_map_of_mem hb)
      have hstep : l₁[i]? = some a := by
        refine (modifyKey_getElem? hl ha).2 (fun hidx => ?_)
        obtain ⟨hlt, hkey, -⟩ := List.findIdx?_eq_some_iff_getElem.mp hidx
        rw [List.getElem?_eq_getElem hlt] at ha
        cases ha
        exact hne (by simpa using hkey)
      exact ih hentries.2 hrest hstep (by rw [findIdx?_congr_key hkeys]; exact hfirst) hb

theorem modifyKeys_isOk (hf : ∀ k b a a', f k b a = .ok a' → key a' = key a)
    (hentries : (entries.map (·.1)).Nodup)
    (h : ∀ k b, (k, b) ∈ entries → ∀ a, l.find? (fun x => key x = k) = some a →
      ∃ a', f k b a = .ok a') :
    ∃ l', modifyKeys key f l entries = .ok l' := by
  induction entries generalizing l with
  | nil => exact ⟨l, rfl⟩
  | cons kb entries ih =>
    rw [List.map_cons, List.nodup_cons] at hentries
    obtain ⟨l₁, hl⟩ := modifyKey_isOk (h kb.1 kb.2 List.mem_cons_self)
    obtain ⟨l', hl'⟩ := ih hentries.2 (l := l₁) (fun k b hk a ha => by
      have hne : k ≠ kb.1 := fun heq => hentries.1 (heq ▸ List.mem_map_of_mem hk)
      rw [(modifyKey_eq_ok (hf kb.1 kb.2) hl).2.1 k hne] at ha
      exact h k b (List.mem_cons_of_mem _ hk) a ha)
    exact ⟨l', by rw [modifyKeys, hl]; exact hl'⟩

theorem modifyKeys_forall₂ {R : α → α → Prop} (hrefl : ∀ a, R a a)
    (htrans : ∀ a b c, R a b → R b c → R a c) (hf : ∀ k b a a', f k b a = .ok a' → R a a')
    (h : modifyKeys key f l entries = .ok l') : Forall₂ R l l' := by
  induction entries generalizing l with
  | nil =>
    cases h
    exact forall₂_same.mpr (fun a _ => hrefl a)
  | cons kb entries ih =>
    obtain ⟨l₁, hl, h⟩ := modifyKeys_cons_eq_ok h
    exact forall₂_trans (modifyKey_forall₂ hrefl (hf kb.1 kb.2) hl) (ih h) htrans

end modifyKeys

end List
