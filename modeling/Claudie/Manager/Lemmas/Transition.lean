import Claudie.Manager.System

/-!
Everything a step of the manager can do, as a relation. Invariants are proved by cases on it, `step`
is unfolded in this file only.
-/

namespace Claudie

def Config.bump (doc : Config) : Config := { doc with version := doc.version + 1 }

@[simp]
theorem Config.bump_version (doc : Config) : doc.bump.version = doc.version + 1 := rfl

@[simp]
theorem Config.bump_name (doc : Config) : doc.bump.name = doc.name := rfl

@[simp]
theorem Config.bump_manifest (doc : Config) : doc.bump.manifest = doc.manifest := rfl

@[simp]
theorem Config.bump_clusters (doc : Config) : doc.bump.clusters = doc.clusters := rfl

namespace Manager

namespace System

variable (s : System) (doc : Config)

def Dirty : Prop := ∀ stored, s.store[doc.name]? = some stored → stored.version ≠ doc.version

def write : System := { s with store := s.store.insert doc.name doc.bump }

theorem updateConfig_cases :
    (s.Dirty doc ∧ s.updateConfig doc = (s, false))
      ∨ ∃ stored, s.store[doc.name]? = some stored ∧ stored.version = doc.version
          ∧ s.updateConfig doc = (s.write doc, true) := by
  unfold updateConfig
  split
  next h =>
    left
    simp [Dirty, h]
  next stored h =>
    split
    next hv => exact .inr ⟨stored, h, hv, rfl⟩
    next hv =>
      left
      simp [Dirty, h, hv]

end System

inductive Starts (s : System) : Action → Op → Prop
  | create {r : UpsertManifestRequest} :
    s.store[r.name]? = none → Starts s (.upsertManifest r) (.create r)
  | upsert {r : UpsertManifestRequest} {doc : Config} :
    s.store[r.name]? = some doc → Starts s (.upsertManifest r) (.upsert r doc false)
  | markNode {r : MarkNodeForDeletionRequest} {doc : Config} :
    s.store[r.ref.config]? = some doc → Starts s (.markNodeForDeletion r) (.markNode r doc)
  | updateTargetSize {r : UpdateTargetSizeRequest} {doc : Config} :
    s.store[r.ref.config]? = some doc →
    Starts s (.nodePoolUpdateTargetSize r) (.updateTargetSize r doc)
  | pending {name : String} {doc : Config} :
    s.store[name]? = some doc → doc.manifest.state = .pending →
    (∀ op ∈ s.ops, op.isPending name = false) → Starts s (.watchPending name) (.pending doc)
  | scheduled {name : String} {doc : Config} :
    s.store[name]? = some doc → doc.manifest.state = .scheduled →
    (∀ op ∈ s.ops, op.isScheduled name = false) →
    Starts s (.watchScheduled name) (.scheduled ⟨doc, doc.clusters.keys, 0, false, .scan⟩)
  | idle {name : String} {doc : Config} :
    s.store[name]? = some doc → doc.manifest.state = .done ∨ doc.manifest.state = .error →
    (∀ op ∈ s.ops, op.isIdle name = false) → Starts s (.watchDoneOrError name) (.idle doc)
  | process {k : Nat} {result : TaskResult} {msg : WorkMessage} {doc : Config} :
    s.published[k]? = some msg → s.store[msg.inputManifest]? = some doc →
    Starts s (.deliver k result) (.process msg result doc)

structure Scans (p : ScheduledPass) (cluster : String) (state : ClusterState) : Prop where
  phase : p.phase = .scan
  todo : cluster ∈ p.todo
  entry : p.doc.clusters[cluster]? = some state

def ScheduledPass.visited (p : ScheduledPass) (cluster : String) : ScheduledPass :=
  { p with todo := p.todo.erase cluster }

inductive Advances (s : System) (i : Nat) : Action → Op → Op → List WorkMessage → Prop
  | validated {r : UpsertManifestRequest} {doc : Config} :
    Advances s i (.proceed i) (.upsert r doc false) (.upsert r doc true) []
  | finished {p : ScheduledPass} {cluster : String} {state : ClusterState} {o : PublishOutcome}
      {anyError : Bool} :
    Scans p cluster state → scheduledStep p.doc.name cluster state = .ok (.finished anyError) →
    Advances s i (.scan i cluster o) (.scheduled p)
      (.scheduled { p.visited cluster with
        clustersDone := p.clustersDone + 1, anyError := p.anyError || anyError }) []
  | inProgress {p : ScheduledPass} {cluster : String} {state : ClusterState} {o : PublishOutcome} :
    Scans p cluster state → scheduledStep p.doc.name cluster state = .ok .inProgress →
    Advances s i (.scan i cluster o) (.scheduled p) (.scheduled (p.visited cluster)) []
  | noWork {p : ScheduledPass} {cluster : String} {state state' : ClusterState}
      {o : PublishOutcome} :
    Scans p cluster state → scheduledStep p.doc.name cluster state = .ok (.noWork state') →
    Advances s i (.scan i cluster o) (.scheduled p)
      (.scheduled ((p.visited cluster).setCluster cluster state' .writeNoWork)) []
  | acked {p : ScheduledPass} {cluster : String} {state state' : ClusterState} {msg : WorkMessage} :
    Scans p cluster state → scheduledStep p.doc.name cluster state = .ok (.publish msg state') →
    Advances s i (.scan i cluster .acked) (.scheduled p)
      (.scheduled ((p.visited cluster).setCluster cluster state' .writePickup)) [msg]
  | unconfirmed {p : ScheduledPass} {cluster : String} {state state' : ClusterState}
      {msg : WorkMessage} :
    Scans p cluster state → scheduledStep p.doc.name cluster state = .ok (.publish msg state') →
    Advances s i (.scan i cluster .unconfirmed) (.scheduled p) (.scheduled (p.visited cluster))
      [msg]
  | failed {p : ScheduledPass} {cluster : String} {state state' : ClusterState}
      {msg : WorkMessage} :
    Scans p cluster state → scheduledStep p.doc.name cluster state = .ok (.publish msg state') →
    Advances s i (.scan i cluster .failed) (.scheduled p) (.scheduled (p.visited cluster)) []
  | final {p : ScheduledPass} {doc : Config} :
    p.phase = .scan → p.todo = [] → finishScheduled p.doc p.anyError = some doc →
    p.clustersDone = p.doc.clusters.size →
    Advances s i (.proceed i) (.scheduled p) (.scheduled { p with doc, phase := .writeFinal }) []
  | dirty {p : ScheduledPass} :
    p.phase = .writePickup → s.Dirty p.doc →
    Advances s i (.proceed i) (.scheduled p) (.scheduled { p with phase := .scan }) []
  | failWrite {p : ScheduledPass} :
    p.phase = .writeNoWork →
    Advances s i (.failWrite i) (.scheduled p) (.scheduled { p with phase := .scan }) []

inductive Writes (env : Env) (s : System) (i : Nat) : Action → Op → Config → TaskId → Prop
  | upsert {r : UpsertManifestRequest} {doc : Config} :
    Writes env s i (.proceed i) (.upsert r doc true) (r.apply env doc) s.fresh
  | pending {doc doc' : Config} {inputs : String → ReconcileInput}
      {fromManifest : Option (GoMap DesiredCluster)} :
    watchForPendingDocuments inputs s.fresh fromManifest doc = .ok (some doc') →
    Writes env s i (.reconcile i inputs fromManifest) (.pending doc) doc'
      (s.fresh + drawn doc fromManifest)
  | scheduled {p : ScheduledPass} :
    p.phase ≠ .scan → Writes env s i (.proceed i) (.scheduled p) p.doc s.fresh
  | idle {doc doc' : Config} :
    watchForDoneOrErrorDocuments doc = .update doc' →
    Writes env s i (.proceed i) (.idle doc) doc' s.fresh
  | process {msg : WorkMessage} {result : TaskResult} {doc doc' : Config} :
    processTask (msg.work result) s.fresh doc = .ok (some doc') →
    Writes env s i (.proceed i) (.process msg result doc) doc' (s.fresh + 1)
  | markNode {r : MarkNodeForDeletionRequest} {doc doc' : Config} :
    markNodeForDeletion r doc = .ok doc' →
    Writes env s i (.proceed i) (.markNode r doc) doc' s.fresh
  | updateTargetSize {r : UpdateTargetSizeRequest} {doc doc' : Config} :
    nodePoolUpdateTargetSize r doc = .ok doc' →
    Writes env s i (.proceed i) (.updateTargetSize r doc) doc' s.fresh

inductive Transition (env : Env) (s : System) : Action → System → Prop
  | start {a : Action} {op : Op} : Starts s a op → Transition env s a (s.start op)
  -- the operation ends without a change to the store.
  | finish {a : Action} {i : Nat} {op : Op} {fresh : TaskId} :
    s.ops[i]? = some op → s.fresh ≤ fresh → Transition env s a { s.finish i with fresh }
  | advance {a : Action} {i : Nat} {op op' : Op} {msgs : List WorkMessage} :
    s.ops[i]? = some op → Advances s i a op op' msgs →
    Transition env s a { s.setOp i op' with published := s.published ++ msgs }
  | write {a : Action} {i : Nat} {op : Op} {doc stored : Config} {fresh : TaskId} :
    s.ops[i]? = some op → Writes env s i a op doc fresh → s.store[doc.name]? = some stored →
    stored.version = doc.version → Transition env s a { (s.finish i).write doc with fresh }
  | create {i : Nat} {r : UpsertManifestRequest} :
    s.ops[i]? = some (.create r) → s.store[r.name]? = none →
    Transition env s (.proceed i)
      { s.finish i with store := s.store.insert r.name (r.newConfig env) }
  | mark {name : String} {doc : Config} :
    s.store[name]? = some doc →
    Transition env s (.markForDeletion name doc.version)
      { s with store := s.store.insert name (markForDeletion env doc) }
  | delete {i : Nat} {doc stored : Config} :
    s.ops[i]? = some (.idle doc) → watchForDoneOrErrorDocuments doc = .delete →
    s.store[doc.name]? = some stored → stored.version = doc.version →
    Transition env s (.proceed i) { s.finish i with store := s.store.erase doc.name }

section

variable {env : Env} {s s' : System} {a : Action} {i : Nat}

theorem transition_updateConfig {op : Op} {doc : Config} {fresh : TaskId}
    (hop : s.ops[i]? = some op) (hw : Writes env s i a op doc fresh) (hf : s.fresh ≤ fresh) :
    Transition env s a (System.updateConfig { s.finish i with fresh } doc).1 := by
  obtain ⟨_, h⟩ | ⟨stored, hs, hv, h⟩ :=
    System.updateConfig_cases { s.finish i with fresh } doc
  · rw [h]
    exact .finish hop hf
  · rw [h]
    exact .write hop hw hs hv

theorem transition_scan {p : ScheduledPass} {cluster : String} {o : PublishOutcome}
    (hop : s.ops[i]? = some (.scheduled p)) (h : scanCluster s i p cluster o = some s') :
    Transition env s (.scan i cluster o) s' := by
  unfold scanCluster at h
  split at h
  next state hphase hentry =>
    split at h
    next htodo =>
      have hscan : Scans p cluster state := ⟨hphase, List.contains_iff_mem.mp htodo, hentry⟩
      have advance : ∀ {op' : Op} {msgs : List WorkMessage},
          Advances s i (.scan i cluster o) (.scheduled p) op' msgs →
          some { s.setOp i op' with published := s.published ++ msgs } = some s' →
          Transition env s (.scan i cluster o) s' := by
        intro op' msgs hadv heq
        cases heq
        exact .advance hop hadv
      dsimp only at h
      split at h
      next =>
        cases h
        exact .finish hop (Nat.le_refl _)
      next anyError hstep =>
        refine advance (.finished hscan hstep) ?_
        rw [← h, List.append_nil]
        rfl
      next hstep =>
        refine advance (.inProgress hscan hstep) ?_
        rw [← h, List.append_nil]
        rfl
      next state' hstep =>
        refine advance (.noWork hscan hstep) ?_
        rw [← h, List.append_nil]
        rfl
      next msg state' hstep =>
        cases o with
        | acked => exact advance (.acked hscan hstep) h
        | unconfirmed => exact advance (.unconfirmed hscan hstep) h
        | failed =>
          refine advance (.failed hscan hstep) ?_
          rw [← h, List.append_nil]
          rfl
    next => cases h
  next => cases h

theorem transition_proceedScheduled {p : ScheduledPass}
    (hop : s.ops[i]? = some (.scheduled p)) (h : proceedScheduled s i p = some s') :
    Transition env s (.proceed i) s' := by
  have finish : some (s.finish i) = some s' → Transition env s (.proceed i) s' := by
    intro heq
    cases heq
    exact .finish hop (Nat.le_refl _)
  unfold proceedScheduled at h
  split at h
  next hphase =>
    split at h
    next htodo =>
      split at h
      next doc hdoc =>
        split at h
        next hdone =>
          cases h
          rw [List.isEmpty_iff] at htodo
          have : Transition env s (.proceed i) _ := .advance hop (.final hphase htodo hdoc hdone)
          rwa [List.append_nil] at this
        next => exact finish h
      next => exact finish h
    next => cases h
  next hphase =>
    cases h
    exact transition_updateConfig hop (.scheduled (by simp [hphase])) (Nat.le_refl _)
  next hphase =>
    cases h
    exact transition_updateConfig hop (.scheduled (by simp [hphase])) (Nat.le_refl _)
  next hphase =>
    obtain ⟨hdirty, hu⟩ | ⟨stored, hs, hv, hu⟩ := System.updateConfig_cases s p.doc
    · rw [hu] at h
      cases h
      have : Transition env s (.proceed i) _ := .advance hop (.dirty hphase hdirty)
      rwa [List.append_nil] at this
    · rw [hu] at h
      cases h
      exact .write hop (.scheduled (by simp [hphase])) hs hv

theorem transition_proceedIdle {doc : Config} (hop : s.ops[i]? = some (.idle doc)) :
    Transition env s (.proceed i) (proceedIdle (s.finish i) doc) := by
  have finish : Transition env s (.proceed i) (s.finish i) :=
    .finish hop (Nat.le_refl _)
  unfold proceedIdle
  split
  next doc' h => exact transition_updateConfig hop (.idle h) (Nat.le_refl _)
  next h =>
    unfold System.deleteConfig
    split
    next => exact finish
    next stored hs =>
      split
      next hv => exact .delete hop h hs hv
      next => exact finish
  next => exact finish

theorem transition_proceed {op : Op} (hop : s.ops[i]? = some op)
    (h : proceed env s i op = some s') : Transition env s (.proceed i) s' := by
  have finish : ∀ fresh, s.fresh ≤ fresh → Transition env s (.proceed i) { s.finish i with fresh } :=
    fun fresh hf => .finish hop hf
  unfold proceed at h
  split at h
  next r =>
    cases h
    unfold System.createConfig
    split
    next hs => exact .create hop hs
    next => exact finish s.fresh (Nat.le_refl _)
  next r doc =>
    split at h
    next =>
      cases h
      have : Transition env s (.proceed i) _ := .advance hop .validated
      rwa [List.append_nil] at this
    next =>
      cases h
      exact finish s.fresh (Nat.le_refl _)
  next r doc =>
    cases h
    exact transition_updateConfig hop .upsert (Nat.le_refl _)
  next => cases h
  next p => exact transition_proceedScheduled hop h
  next doc =>
    cases h
    exact transition_proceedIdle hop
  next msg result doc =>
    cases h
    unfold writeOptional
    split
    next doc' hp => exact transition_updateConfig hop (.process hp) (Nat.le_succ _)
    next => exact finish _ (Nat.le_succ _)
  next r doc =>
    cases h
    unfold writeOutcome
    split
    next doc' hm => exact transition_updateConfig hop (.markNode hm) (Nat.le_refl _)
    next => exact finish _ (Nat.le_refl _)
  next r doc =>
    cases h
    unfold writeOutcome
    split
    next doc' hm => exact transition_updateConfig hop (.updateTargetSize hm) (Nat.le_refl _)
    next => exact finish _ (Nat.le_refl _)

end

theorem step_transition {env : Env} {s s' : System} {a : Action} (h : step env s a = some s') :
    Transition env s a s' := by
  cases a with
  | upsertManifest r =>
    simp only [step] at h
    split at h
    next =>
      split at h
      next hs =>
        cases h
        exact .start (.create hs)
      next doc hs =>
        cases h
        exact .start (.upsert hs)
    next => cases h
  | markForDeletion name version =>
    simp only [step] at h
    split at h
    next => cases h
    next doc hs =>
      split at h
      next hv =>
        subst hv
        cases h
        exact .mark hs
      next => cases h
  | markNodeForDeletion r =>
    simp only [step] at h
    split at h
    next => cases h
    next doc hs =>
      split at h
      next =>
        cases h
        exact .start (.markNode hs)
      next => cases h
  | nodePoolUpdateTargetSize r =>
    simp only [step] at h
    split at h
    next => cases h
    next doc hs =>
      split at h
      next =>
        cases h
        exact .start (.updateTargetSize hs)
      next => cases h
  | watchPending name =>
    simp only [step] at h
    split at h
    next => cases h
    next doc hs =>
      split at h
      next hc =>
        cases h
        simp at hc
        exact .start (.pending hs hc.1 hc.2)
      next => cases h
  | watchScheduled name =>
    simp only [step] at h
    split at h
    next => cases h
    next doc hs =>
      split at h
      next hc =>
        cases h
        simp at hc
        exact .start (.scheduled hs hc.1 hc.2)
      next => cases h
  | watchDoneOrError name =>
    simp only [step] at h
    split at h
    next => cases h
    next doc hs =>
      split at h
      next hc =>
        cases h
        simp at hc
        exact .start (.idle hs hc.1 hc.2)
      next => cases h
  | deliver k result =>
    simp only [step] at h
    split at h
    next => cases h
    next msg hmsg =>
      split at h
      next => cases h
      next doc hs =>
        cases h
        exact .start (.process hmsg hs)
  | reconcile i inputs fromManifest =>
    simp only [step] at h
    split at h
    next doc hop =>
      cases h
      unfold writeOptional
      split
      next doc' hp => exact transition_updateConfig hop (.pending hp) (Nat.le_add_right _ _)
      next => exact .finish hop (Nat.le_add_right _ _)
    next => cases h
  | scan i cluster o =>
    simp only [step] at h
    split at h
    next p hop => exact transition_scan hop h
    next => cases h
  | proceed i =>
    simp only [step] at h
    split at h
    next op hop => exact transition_proceed hop h
    next => cases h
  | failWrite i =>
    simp only [step] at h
    split at h
    next p hop =>
      split at h
      next hphase =>
        cases h
        have : Transition env s (.failWrite i) _ := .advance hop (.failWrite hphase)
        rwa [List.append_nil] at this
      next => cases h
    next => cases h
  | drop i =>
    simp only [step] at h
    split at h
    next hi =>
      cases h
      exact .finish (List.getElem?_eq_getElem hi) (Nat.le_refl _)
    next => cases h

end Manager

end Claudie
