import Mathlib.Data.List.Forall2

/-!
Functions that can fail in two ways: with an error that the caller handles, or by a panic that ends
the goroutine.
-/

inductive Fault where
  | panic
  | error (msg : String)
  deriving DecidableEq

abbrev Outcome (α : Type) := Except Fault α

namespace Outcome

variable {α β : Type}

def deref : Option α → Outcome α
  | some a => .ok a
  | none => .error .panic

@[simp]
theorem deref_some (a : α) : deref (some a) = .ok a := rfl

@[simp]
theorem deref_eq_ok {o : Option α} {a : α} : deref o = .ok a ↔ o = some a := by
  cases o <;> simp [deref]

def sliceTo (s : List α) (n : Int) : Outcome (List α) :=
  if n < 0 ∨ s.length < n then .error .panic else .ok (s.take n.toNat)

theorem sliceTo_eq_ok {s t : List α} {n : Int} :
    sliceTo s n = .ok t ↔ 0 ≤ n ∧ n ≤ s.length ∧ t = s.take n.toNat := by
  unfold sliceTo
  split
  next h =>
    constructor
    · intro heq
      cases heq
    · rintro ⟨h₁, h₂, -⟩
      omega
  next h =>
    constructor
    · intro heq
      exact ⟨by omega, by omega, (Except.ok.inj heq).symm⟩
    · rintro ⟨-, -, rfl⟩
      rfl

theorem ok_bind (a : α) (f : α → Outcome β) : (Except.ok a : Outcome α) >>= f = f a := rfl

theorem bind_eq_ok {x : Outcome α} {f : α → Outcome β} {b : β} :
    (x >>= f) = .ok b ↔ ∃ a, x = .ok a ∧ f a = .ok b := by
  cases x with
  | error e => simp [bind, Except.bind]
  | ok a => simp [bind, Except.bind]

def passes (x : Outcome α) (test : α → Bool) : Bool :=
  match x with
  | .ok a => test a
  | .error _ => false

theorem passes_iff {x : Outcome α} {test : α → Bool} :
    passes x test = true ↔ ∃ a, x = .ok a ∧ test a = true := by
  cases x with
  | error e => simp [passes]
  | ok a => simp [passes]

theorem passes_some_iff {x : Outcome (Option α)} {test : α → Bool} :
    passes x (Option.any test) = true ↔ ∃ a, x = .ok (some a) ∧ test a = true := by
  rw [passes_iff]
  constructor
  · rintro ⟨o, hx, ho⟩
    obtain ⟨a, rfl, ha⟩ := (Option.any_eq_true test o).mp ho
    exact ⟨a, hx, ha⟩
  · rintro ⟨a, hx, ha⟩
    exact ⟨some a, hx, ha⟩

theorem exists_bind_pure_eq_ok {x : Outcome α} {f : α → β} :
    (∃ b, (do
      let a ← x
      pure (f a)) = Except.ok b) ↔ ∃ a, x = .ok a := by
  constructor
  · rintro ⟨b, h⟩
    obtain ⟨a, ha, -⟩ := bind_eq_ok.mp h
    exact ⟨a, ha⟩
  · rintro ⟨a, rfl⟩
    exact ⟨f a, rfl⟩

theorem mapM_eq_ok {f : α → Outcome β} {l : List α} {l' : List β} :
    l.mapM f = .ok l' ↔ List.Forall₂ (fun a b => f a = .ok b) l l' := by
  induction l generalizing l' with
  | nil =>
    rw [List.mapM_nil, List.forall₂_nil_left_iff]
    exact ⟨fun h => (Except.ok.inj h).symm, fun h => h ▸ rfl⟩
  | cons a l ih =>
    rw [List.mapM_cons, List.forall₂_cons_left_iff]
    constructor
    · intro h
      obtain ⟨b, hb, h⟩ := bind_eq_ok.mp h
      obtain ⟨bs, hbs, h⟩ := bind_eq_ok.mp h
      cases h
      exact ⟨b, bs, hb, ih.mp hbs, rfl⟩
    · rintro ⟨b, bs, hb, hbs, rfl⟩
      exact bind_eq_ok.mpr ⟨b, hb, bind_eq_ok.mpr ⟨bs, ih.mpr hbs, rfl⟩⟩

theorem exists_mapM_eq_ok {f : α → Outcome β} {l : List α} :
    (∃ l', l.mapM f = .ok l') ↔ ∀ a ∈ l, ∃ b, f a = .ok b := by
  simp only [mapM_eq_ok]
  induction l with
  | nil => simp
  | cons a l ih =>
    rw [List.forall_mem_cons, ← ih]
    simp only [List.forall₂_cons_left_iff]
    constructor
    · rintro ⟨_, b, l', hb, hl', rfl⟩
      exact ⟨⟨b, hb⟩, l', hl'⟩
    · rintro ⟨⟨b, hb⟩, l', hl'⟩
      exact ⟨_, b, l', hb, hl', rfl⟩

theorem mapM_roundTrip {f : α → Outcome β} {g : β → Outcome α} {l : List α} :
    (l.mapM f >>= fun l' => l'.mapM g) = .ok l ↔ ∀ a ∈ l, (f a >>= g) = .ok a := by
  simp only [bind_eq_ok, mapM_eq_ok]
  induction l with
  | nil => simp
  | cons a l ih =>
    rw [List.forall_mem_cons, ← ih]
    constructor
    · rintro ⟨_, hf, hg⟩
      obtain ⟨b, bs, hb, hbs, rfl⟩ := List.forall₂_cons_left_iff.mp hf
      obtain ⟨ha, hl⟩ := List.forall₂_cons.mp hg
      exact ⟨⟨b, hb, ha⟩, bs, hbs, hl⟩
    · rintro ⟨⟨b, hb, ha⟩, bs, hbs, hl⟩
      exact ⟨b :: bs, .cons hb hbs, .cons ha hl⟩

theorem foldlM_bind_pure {γ : Type} {f : α → Outcome β} {g : γ → β → γ} {l : List α} {c : γ} :
    l.foldlM (fun c a => do
      let b ← f a
      pure (g c b)) c = (do
      let bs ← l.mapM f
      pure (bs.foldl g c)) := by
  induction l generalizing c with
  | nil => rfl
  | cons a l ih =>
    rw [List.foldlM_cons, List.mapM_cons]
    cases f a with
    | error e => rfl
    | ok b =>
      rw [ok_bind, ok_bind]
      refine ih.trans ?_
      cases l.mapM f <;> rfl

theorem map_eq_ok {x : Outcome α} {f : α → β} {b : β} :
    (f <$> x) = .ok b ↔ ∃ a, x = .ok a ∧ f a = b := by
  cases x with
  | error e => simp [Functor.map, Except.map]
  | ok a => simp [Functor.map, Except.map]

theorem some_map_eq_ok {x : Outcome α} {a : α} :
    (some <$> x : Outcome (Option α)) = .ok (some a) ↔ x = .ok a := by
  rw [map_eq_ok]
  simp

def wrap (text : String) : Outcome α → Outcome α
  | .error (.error msg) => .error (.error (text ++ msg))
  | r => r

theorem wrap_eq_ok {text : String} {x : Outcome α} {a : α} :
    wrap text x = .ok a ↔ x = .ok a := by
  unfold wrap
  split
  · simp
  · rfl

/--
The sequence `if next := x; next != nil { return next }; return y`.
-/
def orElse (x y : Outcome (Option α)) : Outcome (Option α) :=
  match x with
  | .ok none => y
  | r => r

theorem orElse_eq_some {x y : Outcome (Option α)} {a : α} (h : orElse x y = .ok (some a)) :
    x = .ok (some a) ∨ x = .ok none ∧ y = .ok (some a) := by
  unfold orElse at h
  split at h
  next => exact .inr ⟨rfl, h⟩
  next => exact .inl h

theorem orElse_eq_none {x y : Outcome (Option α)} :
    orElse x y = .ok none ↔ x = .ok none ∧ y = .ok none := by
  unfold orElse
  split
  next => simp
  next hne => exact ⟨fun h => absurd h hne, fun h => absurd h.1 hne⟩

theorem some_map_ne_none {x : Outcome α} : (some <$> x : Outcome (Option α)) ≠ .ok none := by
  intro h
  obtain ⟨_, _, h⟩ := map_eq_ok.mp h
  cases h

def Fails (x : Outcome α) : Prop := ∃ msg, x = .error (.error msg)

@[simp]
theorem not_fails_ok (a : α) : ¬ Fails (.ok a : Outcome α) := by
  rintro ⟨msg, h⟩
  cases h

@[simp]
theorem not_fails_deref (o : Option α) : ¬ Fails (deref o) := by
  rintro ⟨msg, h⟩
  cases o with
  | none => cases h
  | some a => cases h

theorem not_fails_bind {x : Outcome α} {f : α → Outcome β} (hx : ¬ Fails x)
    (hf : ∀ a, x = .ok a → ¬ Fails (f a)) : ¬ Fails (x >>= f) := by
  rintro ⟨msg, h⟩
  cases x with
  | error e =>
    cases h
    exact hx ⟨msg, rfl⟩
  | ok a => exact hf a rfl ⟨msg, h⟩

theorem not_fails_mapM {f : α → Outcome β} {l : List α} (h : ∀ a ∈ l, ¬ Fails (f a)) :
    ¬ Fails (l.mapM f) := by
  induction l with
  | nil => exact not_fails_ok _
  | cons a l ih =>
    rw [List.forall_mem_cons] at h
    rw [List.mapM_cons]
    exact not_fails_bind h.1 (fun b _ => not_fails_bind (ih h.2) (fun bs _ => not_fails_ok _))

end Outcome
