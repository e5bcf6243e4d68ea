import Std.Data.ExtTreeMap
import Mathlib.Data.List.Perm.Basic
import Claudie.Lib.Keyed
import Claudie.Lib.Outcome

/-!
Maps with string keys and the unspecified order in which a loop visits them.
-/

/--
A Go or protobuf map with string keys. Two of them are equal iff they hold the same entries, and a
`nil` map is the empty one.
-/
abbrev GoMap (β : Type) := Std.ExtTreeMap String β

instance {β : Type} [DecidableEq β] : DecidableEq (GoMap β) :=
  inferInstanceAs (DecidableEq (Std.ExtTreeMap String β))

/--
One choice of the order in which each loop over a map visits its entries. The loops of a program are
told apart by a name, so that two loops over the same map may see different orders.
-/
structure MapOrder where
  range : String → {β : Type} → GoMap β → List (String × β)
  perm : ∀ (loop : String) {β : Type} (m : GoMap β), (range loop m).Perm m.toList

namespace GoMap

variable {α β : Type}

/-- `m[k] = append(m[k], xs...)`, which leaves no entry behind when there is nothing to append. -/
def appendAt (m : GoMap (List α)) (k : String) (xs : List α) : GoMap (List α) :=
  if xs.isEmpty then m else m.insert k (m.getD k [] ++ xs)

def mapEntries {ε : Type} (f : Nat → String → α → Except ε β) (i : Nat) :
    List (String × α) → Except ε (List (String × β))
  | [] => .ok []
  | (k, a) :: rest => do
    let b ← f i k a
    let rest ← mapEntries f (i + 1) rest
    pure ((k, b) :: rest)

def mapOutcome {ε : Type} (f : Nat → String → α → Except ε β) (m : GoMap α) :
    Except ε (GoMap β) := do
  let entries ← mapEntries f 0 m.toList
  pure (Std.ExtTreeMap.ofList entries)

theorem getElem?_insert {m : GoMap β} {k k' : String} {v : β} :
    (m.insert k v)[k']? = if k = k' then some v else m[k']? := by
  rw [Std.ExtTreeMap.getElem?_insert]
  simp only [Std.LawfulEqCmp.compare_eq_iff_eq]

theorem getElem?_erase {m : GoMap β} {k k' : String} :
    (m.erase k)[k']? = if k = k' then none else m[k']? := by
  rw [Std.ExtTreeMap.getElem?_erase]
  simp only [Std.LawfulEqCmp.compare_eq_iff_eq]

theorem getElem?_insertIfNew {m : GoMap β} {k k' : String} {v : β} :
    (m.insertIfNew k v)[k']? = if k = k' ∧ m[k']? = none then some v else m[k']? := by
  rw [Std.ExtTreeMap.getElem?_insertIfNew]
  by_cases h : k = k'
  · subst h
    by_cases hm : k ∈ m <;> simp [hm]
  · simp [h]

theorem isEmpty_iff_getElem? {m : GoMap β} : m.isEmpty = true ↔ ∀ k : String, m[k]? = none := by
  rw [Std.ExtTreeMap.isEmpty_iff]
  refine ⟨fun h k => ?_, fun h => Std.ExtTreeMap.ext_getElem? (fun k => ?_)⟩
  · simp [h]
  · simp [h k]

theorem getElem?_filter {m : GoMap β} {p : String → β → Bool} {k : String} :
    (m.filter p)[k]? = m[k]?.filter (p k) := by
  rw [Std.ExtTreeMap.getElem?_filter]
  simp [Option.pfilter_eq_filter]

theorem getElem?_filter_key {m : GoMap β} {p : String → Bool} {k : String} :
    (m.filter (fun k _ => p k))[k]? = if p k then m[k]? else none := by
  rw [getElem?_filter]
  cases m[k]? <;> cases p k <;> simp

theorem getElem?_filterMap {m : GoMap α} {f : String → α → Option β} {k : String} :
    (m.filterMap f)[k]? = m[k]?.bind (f k) := by
  rw [Std.ExtTreeMap.getElem?_filterMap]
  simp

theorem getElem?_appendAt {m : GoMap (List α)} {k k' : String} {xs : List α} :
    (m.appendAt k xs)[k']? = if k = k' ∧ xs ≠ [] then some (m.getD k [] ++ xs) else m[k']? := by
  unfold appendAt
  split
  next h => simp_all
  next h =>
    rw [getElem?_insert]
    simp_all

theorem getD_appendAt {m : GoMap (List α)} {k k' : String} {xs : List α} :
    (m.appendAt k xs).getD k' [] = if k = k' then m.getD k [] ++ xs else m.getD k' [] := by
  rw [Std.ExtTreeMap.getD_eq_getD_getElem?, getElem?_appendAt]
  by_cases hk : k = k'
  · subst hk
    cases xs <;> simp [Std.ExtTreeMap.getD_eq_getD_getElem?]
  · simp [hk, Std.ExtTreeMap.getD_eq_getD_getElem?]

def insertSome (m : GoMap β) (k : String) : Option β → GoMap β
  | none => m
  | some v => m.insert k v

theorem getElem?_insertSome {m : GoMap β} {k k' : String} {v : Option β} :
    (m.insertSome k v)[k']? = if k = k' then v.or m[k']? else m[k']? := by
  cases v with
  | none => simp [insertSome]
  | some v => simp [insertSome, getElem?_insert]

@[simp]
theorem isEmpty_appendAt {m : GoMap (List α)} {k : String} {xs : List α} :
    (m.appendAt k xs).isEmpty = true ↔ m.isEmpty = true ∧ xs = [] := by
  cases xs with
  | nil => simp [appendAt]
  | cons x xs => simp [appendAt]

theorem getElem?_foldl_insertSome {key : α → String} {f : α → Option β} {l : List α}
    (hnodup : (l.map key).Nodup) {m : GoMap β} {k : String} :
    (l.foldl (fun m a => m.insertSome (key a) (f a)) m)[k]?
      = ((l.find? (fun a => key a = k)).bind f).or m[k]? := by
  induction l generalizing m with
  | nil => rfl
  | cons a l ih =>
    rw [List.map_cons, List.nodup_cons] at hnodup
    rw [List.foldl_cons, ih hnodup.2, getElem?_insertSome]
    by_cases hk : key a = k
    · subst hk
      have hnone : l.find? (fun b => key b = key a) = none :=
        List.find?_key_eq_none.mpr hnodup.1
      rw [hnone, List.find?_cons_of_pos (by simp)]
      simp
    · rw [List.find?_cons_of_neg (by simpa using hk), if_neg hk]

theorem getElem?_foldl_appendAt {key : α → String} {f : α → List β} {l : List α}
    (hnodup : (l.map key).Nodup) {m : GoMap (List β)} (hm : ∀ a ∈ l, m[key a]? = none)
    {k : String} :
    (l.foldl (fun m a => m.appendAt (key a) (f a)) m)[k]?
      = ((l.find? (fun a => key a = k)).bind (fun a => if f a = [] then none else some (f a))).or
        m[k]? := by
  induction l generalizing m with
  | nil => rfl
  | cons a l ih =>
    rw [List.map_cons, List.nodup_cons] at hnodup
    rw [List.forall_mem_cons] at hm
    have hrest : ∀ b ∈ l, (m.appendAt (key a) (f a))[key b]? = none := by
      intro b hb
      have hne : key a ≠ key b := fun heq => hnodup.1 (heq ▸ List.mem_map_of_mem hb)
      rw [getElem?_appendAt, if_neg (fun h => hne h.1)]
      exact hm.2 b hb
    rw [List.foldl_cons, ih hnodup.2 hrest, getElem?_appendAt]
    by_cases hk : key a = k
    · subst hk
      have hnone : l.find? (fun b => key b = key a) = none :=
        List.find?_key_eq_none.mpr hnodup.1
      rw [hnone, List.find?_cons_of_pos (by simp), Std.ExtTreeMap.getD_eq_getD_getElem?, hm.1]
      by_cases hf : f a = [] <;> simp [hf]
    · rw [List.find?_cons_of_neg (by simpa using hk), if_neg (fun h => hk h.1)]

theorem mem_getD_foldl_appendAt {key : α → String} {f : α → List β} {l : List α}
    {m : GoMap (List β)} {k : String} {b : β} :
    b ∈ (l.foldl (fun m a => m.appendAt (key a) (f a)) m).getD k []
      ↔ b ∈ m.getD k [] ∨ ∃ a ∈ l, key a = k ∧ b ∈ f a := by
  induction l generalizing m with
  | nil => simp
  | cons a l ih =>
    have hstep : b ∈ (m.appendAt (key a) (f a)).getD k []
        ↔ b ∈ m.getD k [] ∨ (key a = k ∧ b ∈ f a) := by
      rw [Std.ExtTreeMap.getD_eq_getD_getElem?, getElem?_appendAt]
      split
      next h =>
        obtain ⟨rfl, _⟩ := h
        simp
      next h =>
        rw [← Std.ExtTreeMap.getD_eq_getD_getElem?]
        refine ⟨.inl, fun hb => hb.resolve_right (fun hnew => h ⟨hnew.1, ?_⟩)⟩
        exact List.ne_nil_of_mem hnew.2
    rw [List.foldl_cons, ih, hstep, or_assoc]
    simp only [List.mem_cons, exists_eq_or_imp]

theorem getElem?_insertMany_toList {m m' : GoMap β} {k : String} :
    (m.insertMany m'.toList)[k]? = m'[k]?.or m[k]? := by
  cases hk : m'[k]? with
  | some v =>
    exact Std.ExtTreeMap.getElem?_insertMany_list_of_mem (by simp)
      Std.ExtTreeMap.distinct_keys_toList (Std.ExtTreeMap.mem_toList_iff_getElem?_eq_some.mpr hk)
  | none =>
    rw [Option.none_or]
    refine Std.ExtTreeMap.getElem?_insertMany_list_of_contains_eq_false ?_
    rw [Std.ExtTreeMap.map_fst_toList_eq_keys, ← Bool.not_eq_true, List.contains_iff_mem,
      Std.ExtTreeMap.mem_keys, ← Std.ExtTreeMap.isSome_getElem?_iff_mem, hk]
    simp

theorem getElem?_foldl_insert_key {key : α → String} {f : α → β} {l : List α} {m : GoMap β}
    {k : String} :
    (l.foldl (fun m a => m.insert (key a) (f a)) m)[k]?
      = ((l.reverse.find? (fun a => key a = k)).map f).or m[k]? := by
  induction l generalizing m with
  | nil => rfl
  | cons a l ih =>
    rw [List.foldl_cons, ih, List.reverse_cons, List.find?_append, Std.ExtTreeMap.getElem?_insert]
    cases l.reverse.find? (fun a => key a = k) with
    | some b => rfl
    | none =>
      by_cases hk : key a = k
      · simp [hk]
      · simp [hk]

theorem getD_foldl_appendAt {key : α → String} {l : List α} {m : GoMap (List α)} {k : String} :
    (l.foldl (fun m a => m.appendAt (key a) [a]) m).getD k []
      = m.getD k [] ++ l.filter (fun a => key a = k) := by
  induction l generalizing m with
  | nil => exact (List.append_nil _).symm
  | cons a l ih =>
    rw [List.foldl_cons, ih, Std.ExtTreeMap.getD_eq_getD_getElem?, getElem?_appendAt]
    by_cases hk : key a = k
    · subst hk
      rw [if_pos ⟨rfl, List.cons_ne_nil _ _⟩, List.filter_cons, if_pos (decide_eq_true rfl),
        Option.getD_some, List.append_assoc]
      rfl
    · rw [if_neg (fun h => hk h.1), List.filter_cons, if_neg (by simpa using hk),
        ← Std.ExtTreeMap.getD_eq_getD_getElem?]

theorem getElem?_foldl_insert {l : List (String × β)} {m : GoMap β} {k : String} :
    (l.foldl (fun m kv => m.insert kv.1 kv.2) m)[k]? = (l.reverse.lookup k).or m[k]? := by
  induction l generalizing m with
  | nil => rfl
  | cons kv l ih =>
    obtain ⟨k', v⟩ := kv
    rw [List.foldl_cons, ih, List.reverse_cons, List.lookup_append, Option.or_assoc,
      getElem?_insert, List.lookup_cons, List.lookup_nil]
    by_cases hk : k' = k
    · simp [hk]
    · have hne : (k == k') = false := by simpa using Ne.symm hk
      rw [if_neg hk, hne, Option.none_or]

theorem getElem?_foldl_erase {ks : List String} {m : GoMap β} {k : String} :
    (ks.foldl (fun m k => m.erase k) m)[k]? = if k ∈ ks then none else m[k]? := by
  induction ks generalizing m with
  | nil => simp
  | cons k' ks ih =>
    rw [List.foldl_cons, ih, getElem?_erase]
    by_cases hk : k' = k
    · simp [hk]
    · simp [hk, Ne.symm hk]

theorem isEmpty_foldl {g : GoMap β → α → GoMap β} {p : α → Prop} {l : List α} {m : GoMap β}
    (hg : ∀ m a, (g m a).isEmpty = true ↔ m.isEmpty = true ∧ p a) :
    (l.foldl g m).isEmpty = true ↔ m.isEmpty = true ∧ ∀ a ∈ l, p a :=
  List.foldl_iff (E := fun m : GoMap β => m.isEmpty = true) hg

theorem nodup_keys_toList {m : GoMap α} : (m.toList.map (·.1)).Nodup := by
  have := Std.ExtTreeMap.distinct_keys_toList (t := m)
  rw [← List.pairwise_map (f := Prod.fst) (R := fun a b => ¬ compare a b = .eq)] at this
  exact this.imp (fun hne heq => hne (by simp [heq]))

theorem getElem?_filter_eq_some {m : GoMap β} {p : String → β → Bool} {k : String} {v : β} :
    (m.filter p)[k]? = some v ↔ m[k]? = some v ∧ p k v = true := by
  rw [Std.ExtTreeMap.getElem?_filter]
  simp

section mapOutcome

variable {ε : Type} {f : Nat → String → α → Except ε β}

theorem mapEntries_cons {i : Nat} {k : String} {a : α} {l : List (String × α)}
    {l' : List (String × β)} (h : mapEntries f i ((k, a) :: l) = .ok l') :
    ∃ b rest, f i k a = .ok b ∧ mapEntries f (i + 1) l = .ok rest ∧ l' = (k, b) :: rest := by
  simp only [mapEntries] at h
  cases hb : f i k a with
  | error e => simp [hb, bind, Except.bind] at h
  | ok b =>
    cases hrest : mapEntries f (i + 1) l with
    | error e => simp [hb, hrest, bind, Except.bind] at h
    | ok rest =>
      simp [hb, hrest, bind, Except.bind, pure, Except.pure] at h
      exact ⟨b, rest, rfl, rfl, h.symm⟩

theorem mapEntries_keys {i : Nat} {l : List (String × α)} {l' : List (String × β)}
    (h : mapEntries f i l = .ok l') : l'.map (·.1) = l.map (·.1) := by
  induction l generalizing i l' with
  | nil =>
    cases h
    rfl
  | cons kv l ih =>
    obtain ⟨b, rest, _, hrest, rfl⟩ := mapEntries_cons h
    simp [ih hrest]

theorem mem_of_mapEntries {i : Nat} {l : List (String × α)} {l' : List (String × β)} {k : String}
    {b : β} (h : mapEntries f i l = .ok l') (hb : (k, b) ∈ l') :
    ∃ j a, l[j]? = some (k, a) ∧ f (i + j) k a = .ok b := by
  induction l generalizing i l' with
  | nil =>
    cases h
    cases hb
  | cons kv l ih =>
    obtain ⟨b', rest, hf, hrest, rfl⟩ := mapEntries_cons h
    cases hb with
    | head => exact ⟨0, kv.2, rfl, hf⟩
    | tail _ hb =>
      obtain ⟨j, a, hj, hf⟩ := ih hrest hb
      refine ⟨j + 1, a, hj, ?_⟩
      rwa [Nat.add_right_comm, Nat.add_assoc] at hf

variable {m : GoMap α} {m' : GoMap β}

theorem mapOutcome_entries (h : mapOutcome f m = .ok m') :
    ∃ l, mapEntries f 0 m.toList = .ok l ∧ ∀ k b, m'[k]? = some b ↔ (k, b) ∈ l := by
  unfold mapOutcome at h
  cases hl : mapEntries f 0 m.toList with
  | error e => simp [hl, bind, Except.bind] at h
  | ok l =>
    simp only [hl, bind, Except.bind, pure, Except.pure, Except.ok.injEq] at h
    subst h
    refine ⟨l, rfl, ?_⟩
    have hdistinct : l.Pairwise (fun a b => ¬ compare a.1 b.1 = .eq) := by
      have := Std.ExtTreeMap.distinct_keys_toList (t := m)
      rw [← List.pairwise_map (f := Prod.fst) (R := fun a b => ¬ compare a b = .eq)] at this ⊢
      rwa [mapEntries_keys hl]
    have lookup : ∀ {k : String} {b : β}, (k, b) ∈ l → (Std.ExtTreeMap.ofList l)[k]? = some b :=
      fun hmem => Std.ExtTreeMap.getElem?_ofList_of_mem (by simp) hdistinct hmem
    intro k b
    refine ⟨fun hk => ?_, lookup⟩
    have hmem : k ∈ Std.ExtTreeMap.ofList l := by
      rw [← Std.ExtTreeMap.isSome_getElem?_iff_mem, hk]
      rfl
    rw [Std.ExtTreeMap.mem_ofList, List.contains_iff_mem, List.mem_map] at hmem
    obtain ⟨⟨k', b'⟩, hmem, rfl⟩ := hmem
    rw [lookup hmem] at hk
    cases hk
    exact hmem

theorem mapOutcome_of_getElem? (h : mapOutcome f m = .ok m') {k : String} {b : β}
    (hb : m'[k]? = some b) : ∃ j a, m.toList[j]? = some (k, a) ∧ f j k a = .ok b := by
  obtain ⟨l, hl, hm⟩ := mapOutcome_entries h
  obtain ⟨j, a, hj, hf⟩ := mem_of_mapEntries hl ((hm k b).mp hb)
  rw [Nat.zero_add] at hf
  exact ⟨j, a, hj, hf⟩

end mapOutcome

theorem getElem?_of_toList {m : GoMap α} {j : Nat} {k : String} {a : α}
    (h : m.toList[j]? = some (k, a)) : m[k]? = some a :=
  Std.ExtTreeMap.mem_toList_iff_getElem?_eq_some.mp (List.mem_of_getElem? h)

section Exclusive

variable {γ : Type} {f : α → List γ} {m m' : GoMap α}

end Exclusive

end GoMap

namespace MapOrder

def ascending : MapOrder where
  range _ _ m := m.toList
  perm _ _ _ := .refl _

def descending : MapOrder where
  range _ _ m := m.toList.reverse
  perm _ _ m := m.toList.reverse_perm

def startingAt (k : String) : MapOrder where
  range _ _ m := m.toList.filter (fun kv => kv.1 = k) ++ m.toList.filter (fun kv => !(kv.1 = k))
  perm _ _ m := List.filter_append_perm _ m.toList

def endingAt (k : String) : MapOrder where
  range loop _ m := ((startingAt k).range loop m).reverse
  perm loop _ m := (List.reverse_perm _).trans ((startingAt k).perm loop m)

variable (ord : MapOrder) {loop : String} {β : Type} {m : GoMap β}

@[simp]
theorem mem_range {kv : String × β} : kv ∈ ord.range loop m ↔ m[kv.1]? = some kv.2 := by
  rw [(ord.perm loop m).mem_iff]
  exact Std.ExtTreeMap.mem_toList_iff_getElem?_eq_some

theorem range_eq_nil : ord.range loop m = [] ↔ m.isEmpty = true := by
  rw [List.eq_nil_iff_forall_not_mem, GoMap.isEmpty_iff_getElem?]
  simp only [mem_range, Prod.forall, Option.eq_none_iff_forall_ne_some]

theorem range_startingAt (loop : String) {k : String} {b : β} (h : m[k]? = some b) :
    ∃ rest, (startingAt k).range loop m = (k, b) :: rest := by
  have hmem : (k, b) ∈ m.toList.filter (fun kv => kv.1 = k) :=
    List.mem_filter.mpr ⟨Std.ExtTreeMap.mem_toList_iff_getElem?_eq_some.mpr h, by simp⟩
  have hall : ∀ kv ∈ m.toList.filter (fun kv => kv.1 = k), kv = (k, b) := by
    rintro ⟨k', b'⟩ hkv
    obtain ⟨hin, hk⟩ := List.mem_filter.mp hkv
    obtain rfl : k' = k := by simpa using hk
    rw [Std.ExtTreeMap.mem_toList_iff_getElem?_eq_some.mp hin, Option.some.injEq] at h
    rw [h]
  unfold startingAt
  dsimp only
  cases hl : m.toList.filter (fun kv => kv.1 = k) with
  | nil =>
    rw [hl] at hmem
    cases hmem
  | cons kv l =>
    rw [hl] at hall
    rw [hall kv List.mem_cons_self]
    exact ⟨_, rfl⟩

theorem range_endingAt (loop : String) {k : String} {b : β} (h : m[k]? = some b) :
    ∃ rest, (endingAt k).range loop m = rest ++ [(k, b)] := by
  obtain ⟨rest, hrest⟩ := range_startingAt loop h
  refine ⟨rest.reverse, ?_⟩
  change ((startingAt k).range loop m).reverse = _
  rw [hrest, List.reverse_cons]

theorem nodup_keys_range : ((ord.range loop m).map (·.1)).Nodup :=
  ((ord.perm loop m).map _).nodup_iff.mpr GoMap.nodup_keys_toList

theorem mem_keys_range {k : String} : k ∈ (ord.range loop m).map (·.1) ↔ (m[k]?).isSome := by
  rw [Option.isSome_iff_exists]
  simp

section traverse

variable {α ε : Type} {f : String → α → Except ε β}

def traverse (loop : String) (f : String → α → Except ε β) (m : GoMap α) : Except ε (GoMap β) :=
  (ord.range loop m).foldlM (fun done kv => do
    let b ← f kv.1 kv.2
    pure (done.insert kv.1 b)) ∅

theorem foldlM_insert_eq_ok {l : List (String × α)} (hnodup : (l.map (·.1)).Nodup)
    {done done' : GoMap β} :
    l.foldlM (fun done kv => do
        let b ← f kv.1 kv.2
        pure (done.insert kv.1 b)) done = .ok done'
      ↔ (∀ kv ∈ l, ∃ b, f kv.1 kv.2 = .ok b ∧ done'[kv.1]? = some b)
        ∧ ∀ k, k ∉ l.map (·.1) → done'[k]? = done[k]? := by
  induction l generalizing done with
  | nil =>
    refine ⟨fun h => ?_, fun h => ?_⟩
    · cases h
      exact ⟨List.forall_mem_nil _, fun _ _ => rfl⟩
    · exact congrArg Except.ok
        (Std.ExtTreeMap.ext_getElem? (fun k => (h.2 k List.not_mem_nil).symm))
  | cons kv l ih =>
    obtain ⟨k, a⟩ := kv
    rw [List.map_cons, List.nodup_cons] at hnodup
    rw [List.foldlM_cons, List.forall_mem_cons]
    cases hb : f k a with
    | error e =>
      refine ⟨fun h => ?_, fun h => ?_⟩
      · cases h
      · obtain ⟨b, hb, -⟩ := h.1.1
        cases hb
    | ok b =>
      refine (ih hnodup.2).trans
        ⟨fun h => ⟨⟨⟨b, rfl, ?_⟩, h.1⟩, fun k' hk' => ?_⟩, fun h => ⟨h.1.2, ?_⟩⟩
      · rw [h.2 k hnodup.1, GoMap.getElem?_insert, if_pos rfl]
      · rw [List.map_cons, List.mem_cons, not_or] at hk'
        rw [h.2 k' hk'.2, GoMap.getElem?_insert, if_neg (Ne.symm hk'.1)]
      · intro k' hk'
        rw [GoMap.getElem?_insert]
        split
        next heq =>
          subst heq
          obtain ⟨b', hb', hdone⟩ := h.1.1
          cases hb'
          exact hdone
        next hne =>
          refine h.2 k' (fun hmem => ?_)
          exact (List.mem_cons.mp hmem).elim (fun heq => hne heq.symm) hk'

theorem traverse_eq_ok {m : GoMap α} {m' : GoMap β} :
    ord.traverse loop f m = .ok m'
      ↔ (∀ (k : String) (a : α), m[k]? = some a → ∃ b, f k a = .ok b ∧ m'[k]? = some b)
        ∧ ∀ k : String, m[k]? = none → m'[k]? = none := by
  unfold traverse
  rw [foldlM_insert_eq_ok (nodup_keys_range ord)]
  simp only [Prod.forall, mem_range, mem_keys_range, Std.ExtTreeMap.getElem?_empty,
    Option.not_isSome_iff_eq_none]

end traverse

theorem traverse_roundTrip {α : Type} {ord' : MapOrder} {loop' : String}
    {f : String → α → Outcome β} {g : String → β → Outcome α} {m : GoMap α} :
    (ord.traverse loop f m >>= fun m' => ord'.traverse loop' g m') = .ok m
      ↔ ∀ (k : String) (a : α), m[k]? = some a → (f k a >>= g k) = .ok a := by
  simp only [Outcome.bind_eq_ok, traverse_eq_ok]
  constructor
  · rintro ⟨m', ⟨hf, -⟩, hg, -⟩ k a ha
    obtain ⟨b, hb, hk⟩ := hf k a ha
    obtain ⟨a', ha', hk'⟩ := hg k b hk
    rw [ha] at hk'
    cases hk'
    exact ⟨b, hb, ha'⟩
  · intro h
    -- the entries of the map in between are those that `f` computes.
    refine ⟨m.filterMap (fun k a => (f k a).toOption), ⟨fun k a ha => ?_, fun k hk => ?_⟩,
      fun k b hb => ?_, fun k hk => ?_⟩
    · obtain ⟨b, hb, -⟩ := h k a ha
      exact ⟨b, hb, by rw [GoMap.getElem?_filterMap, ha, Option.bind_some, hb]; rfl⟩
    · rw [GoMap.getElem?_filterMap, hk, Option.bind_none]
    · rw [GoMap.getElem?_filterMap] at hb
      obtain ⟨a, ha, hb⟩ := Option.bind_eq_some_iff.mp hb
      obtain ⟨b', hb', hg⟩ := h k a ha
      rw [hb'] at hb
      cases hb
      exact ⟨a, hg, ha⟩
    · rw [GoMap.getElem?_filterMap] at hk
      cases ha : m[k]? with
      | none => rfl
      | some a =>
        obtain ⟨b, hb, -⟩ := h k a ha
        rw [ha, Option.bind_some, hb] at hk
        cases hk

end MapOrder
