import Claudie.Manager.Lifecycle
import Claudie.Operator.Controller

/-!
Every config belongs to a resource with the finalizer, so that a resource only goes away when there
is nothing left to be deleted by the manager.
-/

namespace Claudie

namespace Manager

variable {env : Env} {s s' : System} {a : Action}

theorem Transition.created (h : Transition env s a s') {name : String} {doc : Config}
    (hnone : s.store[name]? = none) (hdoc : s'.store[name]? = some doc) :
    ∃ r, .create r ∈ s.ops ∧ r.name = name := by
  have insert : ∀ {k : String} {d : Config}, (s.store.insert k d)[name]? = some doc → k = name := by
    intro k d hinsert
    rw [GoMap.getElem?_insert] at hinsert
    split at hinsert
    next heq => exact heq
    next =>
      rw [hnone] at hinsert
      cases hinsert
  cases h with
  | write _ _ hstored _ =>
    rw [insert hdoc, hnone] at hstored
    cases hstored
  | create hi _ => exact ⟨_, List.mem_of_getElem? hi, insert hdoc⟩
  | mark hstored =>
    rw [insert hdoc, hnone] at hstored
    cases hstored
  | delete _ _ _ _ =>
    dsimp only at hdoc
    rw [GoMap.getElem?_erase, hnone, ite_self] at hdoc
    cases hdoc
  | _ =>
    change s.store[name]? = some doc at hdoc
    rw [hnone] at hdoc
    cases hdoc

theorem Transition.create_mem (h : Transition env s a s') {r : UpsertManifestRequest}
    (hr : .create r ∈ s'.ops) : .create r ∈ s.ops ∨ a = .upsertManifest r := by
  obtain hold | ⟨hstarts, _⟩ | ⟨_, _, _, _, hadv, _⟩ := h.ops hr
  · exact .inl hold
  · cases hstarts
    exact .inr rfl
  · cases hadv

end Manager

namespace Operator

open Manager (Env UpsertManifestRequest)

variable {env : Env} {k : KubernetesContext} {w w' : World} {a : Action}

def World.Finalized (w : World) : Prop := ∃ im, w.resource = some im ∧ im.finalizer = true

-- No other resource has the same name with dashes, as `b-c` in `a` and `c` in `a-b` would.
def distinct (k : KubernetesContext) : Action → Bool
  | .manager (.upsertManifest r) => r.name ≠ k.namespacedNameDashed
  | _ => true

def Run.resource? : Run → Option InputManifest
  | .fetched im | .listed im _ _ => some im
  | .requesting _ => none

structure Safe (name : String) (w : World) : Prop where
  config : ∀ {doc}, w.manager.store[name]? = some doc → w.Finalized
  create : ∀ {r}, .create r ∈ w.manager.ops → r.name = name → ∃ r', w.run = some (.requesting r')
  requesting : ∀ {r}, w.run = some (.requesting r) → w.Finalized ∧ r.name = name
  finalizer : ∀ {run im}, w.run = some run → run.resource? = some im → im.finalizer = true →
    w.Finalized
  listed : ∀ {im raw}, w.run = some (.listed im raw none) → w.resource.isSome = true →
    w.manager.store[name]? = none

theorem World.Finalized.isSome (h : w.Finalized) : w.resource.isSome = true := by
  obtain ⟨im, him, _⟩ := h
  rw [him]
  rfl

theorem reconcile_eq_removeFinalizer {im : InputManifest} {raw : String} {config : Option Config}
    (h : im.reconcile env raw config = .removeFinalizer) : config = none := by
  cases config with
  | none => rfl
  | some cfg =>
    simp only [InputManifest.reconcile] at h
    repeat' split at h
    all_goals cases h

theorem finalizer_of_createConfig {im : InputManifest} {raw : String} {config : Option Config}
    (h : im.reconcile env raw config = .createConfig) : im.finalizer = true := by
  by_contra hno
  rw [Bool.not_eq_true] at hno
  cases config with
  | none =>
    simp only [InputManifest.reconcile, hno] at h
    split at h <;> cases h
  | some cfg =>
    simp only [InputManifest.reconcile, hno] at h
    split at h <;> cases h

theorem Safe.manager {name : String} (h : Safe name w) {m : Manager.System} {a : Manager.Action}
    (ht : Manager.Transition env w.manager a m)
    (ha : ∀ r, a = .upsertManifest r → r.name ≠ name) : Safe name { w with manager := m } where
  config {doc} hdoc := by
    cases hold : w.manager.store[name]? with
    | some doc => exact h.config hold
    | none =>
      obtain ⟨r, hr, hname⟩ := ht.created hold hdoc
      obtain ⟨r', hrun⟩ := h.create hr hname
      exact (h.requesting hrun).1
  create hr hname := by
    obtain hold | heq := ht.create_mem hr
    · exact h.create hold hname
    · exact absurd hname (ha _ heq)
  requesting := h.requesting
  finalizer := h.finalizer
  listed hrun hk := by
    by_contra hsome
    obtain ⟨doc, hdoc⟩ := Option.ne_none_iff_exists'.mp hsome
    obtain ⟨r, hr, hname⟩ := ht.created (h.listed hrun hk) hdoc
    obtain ⟨r', hrun'⟩ := h.create hr hname
    rw [hrun] at hrun'
    cases hrun'

-- The user changes the resource.
theorem Safe.resource {name : String} (h : Safe name w) {resource : Option InputManifest}
    {clock : Nat} (hkeeps : w.Finalized → ∃ im, resource = some im ∧ im.finalizer = true) :
    Safe name { w with resource, clock } where
  config hdoc := hkeeps (h.config hdoc)
  create := h.create
  requesting hrun := ⟨hkeeps (h.requesting hrun).1, (h.requesting hrun).2⟩
  finalizer hrun him hf := hkeeps (h.finalizer hrun him hf)
  listed hrun _ := by
    by_contra hsome
    obtain ⟨doc, hdoc⟩ := Option.ne_none_iff_exists'.mp hsome
    have hnone := h.listed hrun (h.config hdoc).isSome
    rw [hnone] at hdoc
    cases hdoc

theorem Safe.finish {name : String} (h : Safe name w)
    (hidle : ∀ r, .create r ∈ w.manager.ops → r.name ≠ name) :
    Safe name { w with run := none } where
  config := h.config
  create hr hname := absurd hname (hidle _ hr)
  requesting hrun := by cases hrun
  finalizer hrun := by cases hrun
  listed hrun := by cases hrun

-- As long as a reconciliation has not asked for a config, nobody has.
theorem Safe.idle {name : String} (h : Safe name w) {run : Run} {im : InputManifest}
    (hrun : w.run = some run) (him : run.resource? = some im) :
    ∀ r, .create r ∈ w.manager.ops → r.name ≠ name := by
  intro r hr hname
  obtain ⟨r', hrun'⟩ := h.create hr hname
  rw [hrun] at hrun'
  cases hrun'
  cases him

theorem Safe.createConfig {r : UpsertManifestRequest} (h : Safe r.name w) (hf : w.Finalized)
    (hidle : ∀ r', .create r' ∈ w.manager.ops → r'.name ≠ r.name) :
    Safe r.name (createConfig env w r) := by
  unfold Operator.createConfig
  split
  next =>
    refine ⟨fun _ => hf, fun _ _ => ⟨r, rfl⟩, fun hrun => ?_, fun _ _ _ => hf, fun hrun => ?_⟩
    · cases hrun
      exact ⟨hf, rfl⟩
    · cases hrun
  next => exact h.finish hidle

theorem Safe.proceed (h : Safe k.namespacedNameDashed w) {im : InputManifest} {raw : String}
    {config : Option Config} (hrun : w.run = some (.listed im raw config)) :
    Safe k.namespacedNameDashed (proceed env k w im raw config) := by
  have hidle := h.idle hrun rfl
  have hend := h.finish hidle
  unfold Operator.proceed
  split
  next =>
    split
    next hresource =>
      refine ⟨fun _ => ⟨_, rfl, rfl⟩, fun hr hname => ?_, fun hnew => ?_,
        fun _ _ _ => ⟨_, rfl, rfl⟩, fun hnew _ => ?_⟩
      · exact absurd hname (hidle _ hr)
      · cases hnew
      · cases hnew
        exact h.listed hrun (by rw [hresource]; rfl)
    next => exact hend
  next hcall =>
    split
    next hresource =>
      obtain rfl := reconcile_eq_removeFinalizer hcall
      have hstore := h.listed hrun (by rw [hresource]; rfl)
      refine ⟨fun hdoc => ?_, hend.create, fun hnew => ?_, fun hnew => ?_, fun hnew => ?_⟩
      · rw [hstore] at hdoc
        cases hdoc
      all_goals cases hnew
    next => exact hend
  next hcall =>
    exact Safe.createConfig (r := ⟨k.namespacedNameDashed, k, raw, .pending⟩) h
      (h.finalizer hrun rfl (finalizer_of_createConfig hcall)) hidle
  next =>
    unfold deleteConfig
    cases hmarked : w.manager.store[k.namespacedNameDashed]?.bind _ with
    | none => exact hend
    | some m =>
      obtain ⟨doc, _, hstep⟩ := Option.bind_eq_some_iff.mp hmarked
      exact hend.manager (Manager.step_transition hstep) (by simp)
  next => exact hend

theorem Safe.step (h : Safe k.namespacedNameDashed w) (hok : distinct k a = true)
    (hstep : step env k w a = some w') : Safe k.namespacedNameDashed w' := by
  have idle : ∀ {r}, w.run = some (.requesting r) →
      ¬ w.manager.ops.any (upserts r.name) = true →
      ∀ r', .create r' ∈ w.manager.ops → r'.name ≠ k.namespacedNameDashed := by
    intro r hrun hno r' hr' hname
    refine hno (List.any_eq_true.mpr ⟨_, hr', ?_⟩)
    simp [upserts, hname, (h.requesting hrun).2]
  unfold Operator.step at hstep
  cases a with
  | apply =>
    cases hstep
    refine h.resource ?_
    rintro ⟨im, him, hf⟩
    rw [him]
    exact ⟨_, rfl, hf⟩
  | delete =>
    obtain ⟨im, him, rfl⟩ := Option.map_eq_some_iff.mp hstep
    refine h.resource ?_
    rintro ⟨im', him', hf⟩
    rw [him] at him'
    cases him'
    rw [if_pos hf]
    exact ⟨_, rfl, hf⟩
  | manager a =>
    obtain ⟨m, hm, rfl⟩ := Option.map_eq_some_iff.mp hstep
    refine h.manager (Manager.step_transition hm) ?_
    rintro r rfl
    exact of_decide_eq_true hok
  | get =>
    dsimp only at hstep
    split at hstep
    next im him hrun =>
      cases hstep
      refine ⟨h.config, fun hr hname => ?_, fun hnew => ?_, fun hnew hres hf => ?_, fun hnew => ?_⟩
      · obtain ⟨r', hr'⟩ := h.create hr hname
        rw [hrun] at hr'
        cases hr'
      · cases hnew
      · cases hnew
        cases hres
        exact ⟨im, him, hf⟩
      · cases hnew
    next => cases hstep
  | list raw =>
    dsimp only at hstep
    split at hstep
    next im hrun =>
      cases hstep
      refine ⟨h.config, fun hr hname => ?_, fun hnew => ?_, fun hnew hres => ?_, fun hnew _ => ?_⟩
      · exact absurd hname (h.idle hrun rfl _ hr)
      · cases hnew
      · cases hnew
        exact h.finalizer hrun hres
      · simp only [Option.some.injEq, Run.listed.injEq] at hnew
        exact hnew.2.2
    next => cases hstep
  | proceed =>
    dsimp only at hstep
    split at hstep
    next im raw config hrun =>
      cases hstep
      exact h.proceed hrun
    next => cases hstep
  | retry =>
    dsimp only at hstep
    split at hstep
    next r hrun =>
      split at hstep
      next => cases hstep
      next hno =>
        cases hstep
        obtain ⟨hf, hname⟩ := h.requesting hrun
        have hidle := idle hrun hno
        rw [← hname] at h hidle ⊢
        exact h.createConfig hf hidle
    next => cases hstep
  | finish =>
    dsimp only at hstep
    split at hstep
    next r hrun =>
      split at hstep
      next => cases hstep
      next hno =>
        cases hstep
        exact h.finish (idle hrun hno)
    next run hnot hrun =>
      cases hstep
      cases run with
      | fetched im => exact h.finish (h.idle hrun rfl)
      | listed im raw config => exact h.finish (h.idle hrun rfl)
      | requesting r => exact absurd rfl (hnot r)
    next => cases hstep

/--
As long as there is a config for it, the resource is there and has the finalizer.
-/
theorem config_is_finalized (hs : (operator env k).Reach (fun _ a => distinct k a = true) w)
    {doc : Config} (hdoc : w.manager.store[k.namespacedNameDashed]? = some doc) :
    ∃ im, w.resource = some im ∧ im.finalizer = true := by
  have hsafe : Safe k.namespacedNameDashed w := by
    refine hs.invariant (I := Safe k.namespacedNameDashed) ⟨?_, ?_, ?_, ?_, ?_⟩
      (fun w a w' _ h hok hstep => h.step hok hstep)
    · intro doc hdoc
      simp [operator, Manager.System.init] at hdoc
    · intro r hr
      cases hr
    · intro r hrun
      cases hrun
    · intro run im hrun
      cases hrun
    · intro im raw hrun
      cases hrun
  exact hsafe.config hdoc

namespace Demo

def resource : KubernetesContext := ⟨"demo", "claudie"⟩

def created : List Action :=
  [.apply, .get, .list Manager.Demo.oneCluster, .proceed, .proceed, .manager (.proceed 0)]

end Demo

theorem config_is_finalized_demo :
    ∃ (w : World) (doc : Config), w.manager.store["claudie-demo"]? = some doc
      ∧ ∃ im, w.resource = some im ∧ im.finalizer = true := by
  let machine := operator Manager.Demo.env Demo.resource
  have hrun : (((machine.guard (fun _ a => distinct Demo.resource a)).run machine.init
      Demo.created).bind (fun w => w.manager.store["claudie-demo"]?)).isSome = true := by
    decide
  obtain ⟨doc, hdoc⟩ := Option.isSome_iff_exists.mp hrun
  obtain ⟨w, hw, hdoc⟩ := Option.bind_eq_some_iff.mp hdoc
  have hs := Machine.Reach.run_guard .init hw
  exact ⟨w, doc, hdoc, config_is_finalized hs hdoc⟩

end Operator

end Claudie
