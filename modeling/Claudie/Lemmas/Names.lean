import Claudie.NodePools
import Mathlib.Data.List.TakeWhile

/-!
The names of dynamic nodepools: a type, a dash and a hash.
-/

namespace Claudie

namespace NodePools

def HashLike (h : String) : Prop := h.utf8ByteSize = hashLength ∧ '-' ∉ h.toList

def fullName (t h : String) : String := t ++ "-" ++ h

theorem toList_fullName (t h : String) : (fullName t h).toList = t.toList ++ '-' :: h.toList := by
  unfold fullName
  rw [String.toList_append, String.toList_append, List.append_assoc]
  rfl

theorem takeWhile_reverse_append {t h : List Char} (hh : '-' ∉ h) :
    (t ++ '-' :: h).reverse.takeWhile (· ≠ '-') = h.reverse := by
  rw [List.reverse_append, List.reverse_cons, List.append_assoc, List.takeWhile_append_of_pos]
  · simp
  · intro c hc
    have hne : c ≠ '-' := by
      rintro rfl
      exact hh (List.mem_reverse.mp hc)
    exact decide_eq_true hne

theorem splitLast_fullName {t h : String} (hh : '-' ∉ h.toList) :
    splitLast (fullName t h) = some (t, h) := by
  unfold splitLast
  dsimp only
  rw [toList_fullName, takeWhile_reverse_append hh, List.reverse_reverse, List.length_append,
    List.length_cons, if_neg (by omega)]
  have hlen : t.toList.length + (h.toList.length + 1) - h.toList.length - 1 = t.toList.length := by
    omega
  rw [hlen, List.take_left, String.ofList_toList, String.ofList_toList]

theorem splitLast_eq_none {s : String} (hs : '-' ∉ s.toList) : splitLast s = none := by
  unfold splitLast
  dsimp only
  have hall : s.toList.reverse.takeWhile (· ≠ '-') = s.toList.reverse := by
    refine List.takeWhile_eq_self_iff.mpr (fun c hc => ?_)
    have hne : c ≠ '-' := by
      rintro rfl
      exact hs (List.mem_reverse.mp hc)
    exact decide_eq_true hne
  rw [hall, List.reverse_reverse, if_pos rfl]

theorem splitLast_eq_some {s t h : String} :
    splitLast s = some (t, h) ↔ s = fullName t h ∧ '-' ∉ h.toList := by
  constructor
  · intro hs
    by_cases hmem : '-' ∈ s.toList
    · -- the split at the first dash from the end.
      obtain ⟨as, bs, hrev, hnot⟩ := List.eq_append_cons_of_mem (List.mem_reverse.mpr hmem)
      have heq : s = fullName (String.ofList bs.reverse) (String.ofList as.reverse) := by
        apply String.toList_injective
        rw [toList_fullName, String.toList_ofList, String.toList_ofList]
        rw [← List.reverse_reverse s.toList, hrev, List.reverse_append, List.reverse_cons,
          List.append_assoc, List.singleton_append]
      have hdash : '-' ∉ (String.ofList as.reverse).toList := by
        rw [String.toList_ofList, List.mem_reverse]
        exact hnot
      rw [heq, splitLast_fullName hdash] at hs
      cases hs
      exact ⟨heq, hdash⟩
    · rw [splitLast_eq_none hmem] at hs
      cases hs
  · rintro ⟨rfl, hh⟩
    exact splitLast_fullName hh

theorem utf8ByteSize_fullName (t h : String) :
    (fullName t h).utf8ByteSize = t.utf8ByteSize + h.utf8ByteSize + 1 := by
  unfold fullName
  rw [String.utf8ByteSize_append, String.utf8ByteSize_append]
  have hdash : "-".utf8ByteSize = 1 := rfl
  omega

theorem fullName_injective (t : String) : Function.Injective (fullName t) := by
  intro h h' heq
  have hlist := congrArg String.toList heq
  rw [toList_fullName, toList_fullName] at hlist
  exact String.toList_injective (List.cons.inj (List.append_cancel_left hlist)).2

theorem fullName_ne (t h : String) : fullName t h ≠ t := by
  intro heq
  have hsize := utf8ByteSize_fullName t h
  rw [heq] at hsize
  omega

theorem fullName_fullName (t h x : String) :
    fullName (fullName t h) x = fullName t (fullName h x) := by
  unfold fullName
  simp only [String.append_assoc]

theorem not_hashLike_fullName (h x : String) : ¬ HashLike (fullName h x) := by
  intro hlike
  rw [HashLike, toList_fullName] at hlike
  exact hlike.2 (List.mem_append_right _ List.mem_cons_self)

theorem HashLike.ne_empty {h : String} (hh : HashLike h) : h ≠ "" := by
  rintro rfl
  exact absurd hh.1 (by decide)

theorem matchNameAndHashWithTemplate_snd {t s h : String} (hne : h ≠ "") :
    (matchNameAndHashWithTemplate t s).2 = h ↔ s = fullName t h ∧ HashLike h := by
  unfold matchNameAndHashWithTemplate
  constructor
  · intro hs
    split at hs
    · exact absurd hs.symm hne
    next hsize =>
      split at hs
      · exact absurd hs.symm hne
      next t' h' hsplit =>
        split at hs
        · exact absurd hs.symm hne
        next ht =>
          cases hs
          obtain rfl := Decidable.not_not.mp ht
          obtain ⟨rfl, hdash⟩ := splitLast_eq_some.mp hsplit
          rw [utf8ByteSize_fullName] at hsize
          exact ⟨rfl, show h'.utf8ByteSize = hashLength by omega, hdash⟩
  · rintro ⟨rfl, hsize, hdash⟩
    rw [if_neg (by rw [utf8ByteSize_fullName, hsize, Decidable.not_not])]
    rw [splitLast_fullName hdash]
    dsimp only
    rw [if_neg (Decidable.not_not.mpr rfl)]

theorem fullName_inj {t t' h h' : String} (hh : '-' ∉ h.toList) (hh' : '-' ∉ h'.toList)
    (heq : fullName t h = fullName t' h') : t = t' ∧ h = h' := by
  have hsplit : splitLast (fullName t h) = some (t, h) := splitLast_fullName hh
  rw [heq, splitLast_fullName hh'] at hsplit
  cases hsplit
  exact ⟨rfl, rfl⟩

end NodePools

end Claudie
