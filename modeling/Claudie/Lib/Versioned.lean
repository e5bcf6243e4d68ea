import Claudie.Lib.GoMap

/-!
Optimistic concurrency: every write of a document raises its version, and a writer states the version
it has read.
-/

namespace Versioned

variable {δ : Type} {version : δ → Nat} {store : GoMap δ} {key : String} {v : Nat}
  {seen : δ → Prop}

/--
What a reader knows that has read version `v` of a document: the store does not go back behind `v`,
and as long as it is at `v` its document is one the reader has seen.
-/
def UpToDate (version : δ → Nat) (store : GoMap δ) (key : String) (v : Nat) (seen : δ → Prop) :
    Prop :=
  ∀ doc, store[key]? = some doc → v ≤ version doc ∧ (version doc = v → seen doc)

theorem UpToDate.read {doc : δ} (h : store[key]? = some doc) (hseen : seen doc) :
    UpToDate version store key (version doc) seen := by
  intro doc' h'
  rw [h] at h'
  cases h'
  exact ⟨Nat.le_refl _, fun _ => hseen⟩

theorem UpToDate.commit (h : UpToDate version store key v seen) {doc : δ}
    (hdoc : store[key]? = some doc) (hv : version doc = v) : seen doc :=
  (h doc hdoc).2 hv

theorem UpToDate.mono {seen' : δ → Prop} (h : UpToDate version store key v seen)
    (himp : ∀ doc, store[key]? = some doc → seen doc → seen' doc) :
    UpToDate version store key v seen' := by
  intro doc hdoc
  exact ⟨(h doc hdoc).1, fun hv => himp doc hdoc ((h doc hdoc).2 hv)⟩

theorem UpToDate.dirty {seen' : δ → Prop} (h : UpToDate version store key v seen)
    (hdirty : ∀ doc, store[key]? = some doc → version doc ≠ v) :
    UpToDate version store key v seen' := by
  intro doc hdoc
  exact ⟨(h doc hdoc).1, fun hv => absurd hv (hdirty doc hdoc)⟩

theorem UpToDate.insert (h : UpToDate version store key v seen) {k : String} {doc' : δ}
    (hnew : k = key → v < version doc') :
    UpToDate version (store.insert k doc') key v seen := by
  intro doc hdoc
  rw [GoMap.getElem?_insert] at hdoc
  split at hdoc
  next hk =>
    cases hdoc
    have := hnew hk
    exact ⟨Nat.le_of_lt this, fun hv => by omega⟩
  next => exact h doc hdoc

theorem UpToDate.overwrite (h : UpToDate version store key v seen) {k : String} {stored doc' : δ}
    (hstored : store[k]? = some stored) (hnew : version doc' = version stored + 1) :
    UpToDate version (store.insert k doc') key v seen := by
  apply h.insert
  intro hk
  subst hk
  have := (h stored hstored).1
  omega

theorem UpToDate.erase (h : UpToDate version store key v seen) (k : String) :
    UpToDate version (store.erase k) key v seen := by
  intro doc hdoc
  rw [GoMap.getElem?_erase] at hdoc
  split at hdoc
  next => cases hdoc
  next => exact h doc hdoc

end Versioned
