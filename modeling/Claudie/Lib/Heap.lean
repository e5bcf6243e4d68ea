import Mathlib.Data.List.Basic

/-!
Objects that are reached through pointers. An object is never freed, so that a pointer which can be
read stays readable.
-/

structure Heap (α : Type) where
  cells : List α

namespace Heap

variable {α : Type} {h h' h'' : Heap α} {p : Nat}

def read (h : Heap α) (p : Nat) : Option α := h.cells[p]?

def alloc (h : Heap α) (a : α) : Heap α × Nat := (⟨h.cells ++ [a]⟩, h.cells.length)

def modify (h : Heap α) (p : Nat) (f : α → α) : Heap α := ⟨h.cells.modify p f⟩

def Extends (h h' : Heap α) : Prop := ∀ p a, h.read p = some a → h'.read p = some a

theorem Extends.refl (h : Heap α) : h.Extends h := fun _ _ hp => hp

theorem alloc_eq (h : Heap α) (a : α) : ∃ h' p, h.alloc a = (h', p) ∧ h.Extends h'
    ∧ h.read p = none ∧ h'.read p = some a := by
  refine ⟨_, _, rfl, ?_, List.getElem?_eq_none (Nat.le_refl _), ?_⟩
  · intro p b hp
    have hread : h.cells[p]? = some b := hp
    have hlt : p < h.cells.length := (List.getElem?_eq_some_iff.mp hread).1
    show (h.cells ++ [a])[p]? = some b
    rw [List.getElem?_append_left hlt]
    exact hread
  · show (h.cells ++ [a])[h.cells.length]? = some a
    rw [List.getElem?_append_right (Nat.le_refl _), Nat.sub_self]
    rfl

@[simp]
theorem read_modify_self {f : α → α} : (h.modify p f).read p = (h.read p).map f := by
  unfold modify read
  rw [List.getElem?_modify_eq]
  rfl

theorem Extends.modify (hh' : h.Extends h') (hp : h.read p = none) (f : α → α) :
    h.Extends (h'.modify p f) := by
  intro q b hq
  have hne : p ≠ q := by
    rintro rfl
    rw [hp] at hq
    cases hq
  have hread : h'.cells[q]? = some b := hh' q b hq
  show (h'.cells.modify p f)[q]? = some b
  rw [List.getElem?_modify, hread]
  exact congrArg some (if_neg hne)

end Heap
