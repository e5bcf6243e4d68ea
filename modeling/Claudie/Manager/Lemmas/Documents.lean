import Claudie.Manager.Lemmas.ProcessTask
import Claudie.Manager.Lemmas.Reconcile
import Claudie.Manager.Lemmas.Transition

/-!
The documents of a state of the manager: those in the store and those the operations in progress
hold. A step derives new ones from them.
-/

namespace Claudie

namespace Manager

namespace System

variable (s : System) (i : Nat) (op : Op)

@[simp]
theorem start_store : (s.start op).store = s.store := rfl

@[simp]
theorem start_ops : (s.start op).ops = s.ops ++ [op] := rfl

@[simp]
theorem start_published : (s.start op).published = s.published := rfl

@[simp]
theorem start_fresh : (s.start op).fresh = s.fresh := rfl

@[simp]
theorem finish_ops : (s.finish i).ops = s.ops.eraseIdx i := rfl

@[simp]
theorem finish_published : (s.finish i).published = s.published := rfl

@[simp]
theorem finish_fresh : (s.finish i).fresh = s.fresh := rfl

@[simp]
theorem setOp_store : (s.setOp i op).store = s.store := rfl

@[simp]
theorem setOp_ops : (s.setOp i op).ops = s.ops.set i op := rfl

@[simp]
theorem setOp_fresh : (s.setOp i op).fresh = s.fresh := rfl

@[simp]
theorem write_store (doc : Config) :
    (s.write doc).store = s.store.insert doc.name doc.bump := rfl

@[simp]
theorem write_ops (doc : Config) : (s.write doc).ops = s.ops := rfl

@[simp]
theorem write_published (doc : Config) : (s.write doc).published = s.published := rfl

end System

def Stored (s : System) (doc : Config) : Prop := ∃ name : String, s.store[name]? = some doc

def Held (s : System) (doc : Config) : Prop :=
  Stored s doc ∨ ∃ op ∈ s.ops, op.doc? = some doc

theorem Held.of_op {s : System} {i : Nat} {op : Op} {doc : Config} (hop : s.ops[i]? = some op)
    (hdoc : op.doc? = some doc) : Held s doc :=
  .inr ⟨op, List.mem_of_getElem? hop, hdoc⟩

inductive Derives (env : Env) (s : System) (a : Action) : TaskId → Config → Config → Prop
  | advance {i : Nat} {op op' : Op} {msgs : List WorkMessage} {doc doc' : Config} :
    s.ops[i]? = some op → Advances s i a op op' msgs → op.doc? = some doc →
    op'.doc? = some doc' → Derives env s a s.fresh doc doc'
  | write {i : Nat} {op : Op} {doc doc' : Config} {fresh : TaskId} :
    s.ops[i]? = some op → Writes env s i a op doc' fresh → op.doc? = some doc →
    Derives env s a fresh doc doc'.bump
  | mark {name : String} {doc : Config} :
    s.store[name]? = some doc → a = .markForDeletion name doc.version →
    Derives env s a s.fresh doc (markForDeletion env doc)

section

variable {env : Env} {s s' : System} {a : Action} {doc' : Config}

theorem Writes.doc? {i : Nat} {op : Op} {fresh : TaskId} (h : Writes env s i a op doc' fresh) :
    ∃ doc, op.doc? = some doc := by
  cases h <;> exact ⟨_, rfl⟩

theorem Advances.doc? {i : Nat} {op op' : Op} {msgs : List WorkMessage}
    (h : Advances s i a op op' msgs) : ∃ doc, op.doc? = some doc := by
  cases h <;> exact ⟨_, rfl⟩

theorem Starts.doc? {op : Op} {doc : Config} (h : Starts s a op) (hdoc : op.doc? = some doc) :
    Stored s doc := by
  cases h with
  | create hs => cases hdoc
  | upsert hs => cases hdoc; exact ⟨_, hs⟩
  | markNode hs => cases hdoc; exact ⟨_, hs⟩
  | updateTargetSize hs => cases hdoc; exact ⟨_, hs⟩
  | pending hs _ _ => cases hdoc; exact ⟨_, hs⟩
  | scheduled hs _ _ => cases hdoc; exact ⟨_, hs⟩
  | idle hs _ _ => cases hdoc; exact ⟨_, hs⟩
  | process _ hs => cases hdoc; exact ⟨_, hs⟩

theorem Stored.of_insert {store : GoMap Config} {name : String} {doc : Config}
    {ops : List Op} {published : List WorkMessage} {fresh : TaskId}
    (h : Stored ⟨store.insert name doc, ops, published, fresh⟩ doc') :
    doc' = doc ∨ ∃ name' : String, store[name']? = some doc' := by
  obtain ⟨name', hs⟩ := h
  rw [GoMap.getElem?_insert] at hs
  split at hs
  next =>
    cases hs
    exact .inl rfl
  next => exact .inr ⟨name', hs⟩

theorem Transition.held_new (h : Transition env s a s') :
    ∃ new : Option Config, ∀ {doc'}, Held s' doc' →
      Held s doc' ∨ (∃ r : UpsertManifestRequest, doc' = r.newConfig env)
        ∨ (new = some doc' ∧ ∃ doc, Held s doc ∧ Derives env s a s'.fresh doc doc') := by
  cases h with
  | start hstarts =>
    refine ⟨none, fun hheld => ?_⟩
    obtain hs | ⟨op, hop, hdoc⟩ := hheld
    · exact .inl (.inl hs)
    · rw [System.start_ops, List.mem_append, List.mem_singleton] at hop
      obtain hop | rfl := hop
      · exact .inl (.inr ⟨op, hop, hdoc⟩)
      · exact .inl (.inl (hstarts.doc? hdoc))
  | finish _ _ =>
    refine ⟨none, fun hheld => ?_⟩
    obtain hs | ⟨op, hop, hdoc⟩ := hheld
    · exact .inl (.inl hs)
    · exact .inl (.inr ⟨op, List.mem_of_mem_eraseIdx hop, hdoc⟩)
  | @advance _ _ _ op' _ hi hadv =>
    refine ⟨op'.doc?, fun hheld => ?_⟩
    obtain hs | ⟨op, hop, hdoc⟩ := hheld
    · exact .inl (.inl hs)
    · obtain hop | rfl := List.mem_or_eq_of_mem_set hop
      · exact .inl (.inr ⟨op, hop, hdoc⟩)
      · obtain ⟨doc, hd⟩ := hadv.doc?
        exact .inr (.inr ⟨hdoc, doc, .of_op hi hd, .advance hi hadv hd hdoc⟩)
  | @write _ _ _ written _ _ hi hw _ _ =>
    refine ⟨some written.bump, fun hheld => ?_⟩
    obtain hs | ⟨op, hop, hdoc⟩ := hheld
    · obtain rfl | hs := hs.of_insert
      · obtain ⟨doc, hd⟩ := hw.doc?
        exact .inr (.inr ⟨rfl, doc, .of_op hi hd, .write hi hw hd⟩)
      · exact .inl (.inl hs)
    · exact .inl (.inr ⟨op, List.mem_of_mem_eraseIdx hop, hdoc⟩)
  | @create _ r _ _ =>
    refine ⟨none, fun hheld => ?_⟩
    obtain hs | ⟨op, hop, hdoc⟩ := hheld
    · obtain rfl | hs := hs.of_insert
      · exact .inr (.inl ⟨r, rfl⟩)
      · exact .inl (.inl hs)
    · exact .inl (.inr ⟨op, List.mem_of_mem_eraseIdx hop, hdoc⟩)
  | @mark _ marked hs =>
    refine ⟨some (markForDeletion env marked), fun hheld => ?_⟩
    obtain hs' | ⟨op, hop, hdoc⟩ := hheld
    · obtain rfl | hs' := hs'.of_insert
      · exact .inr (.inr ⟨rfl, _, .inl ⟨_, hs⟩, .mark hs rfl⟩)
      · exact .inl (.inl hs')
    · exact .inl (.inr ⟨op, hop, hdoc⟩)
  | delete _ _ _ _ =>
    refine ⟨none, fun hheld => ?_⟩
    obtain ⟨name, hs⟩ | ⟨op, hop, hdoc⟩ := hheld
    · dsimp only at hs
      rw [GoMap.getElem?_erase] at hs
      split at hs
      next => cases hs
      next => exact .inl (.inl ⟨name, hs⟩)
    · exact .inl (.inr ⟨op, List.mem_of_mem_eraseIdx hop, hdoc⟩)

theorem Transition.held (h : Transition env s a s') (hheld : Held s' doc') :
    Held s doc' ∨ (∃ r : UpsertManifestRequest, doc' = r.newConfig env)
      ∨ ∃ doc, Held s doc ∧ Derives env s a s'.fresh doc doc' := by
  obtain ⟨_, hnew⟩ := h.held_new
  obtain hold | hcreated | ⟨_, hderived⟩ := hnew hheld
  · exact .inl hold
  · exact .inr (.inl hcreated)
  · exact .inr (.inr hderived)

theorem Transition.fresh_le (h : Transition env s a s') : s.fresh ≤ s'.fresh := by
  cases h with
  | finish _ hf => exact hf
  | write _ hw _ _ =>
    cases hw with
    | pending _ => exact Nat.le_add_right _ _
    | process _ => exact Nat.le_succ _
    | _ => exact Nat.le_refl _
  | _ => exact Nat.le_refl _

theorem Transition.published_subset (h : Transition env s a s') : s.published ⊆ s'.published := by
  cases h with
  | advance _ _ => exact List.subset_append_left _ _
  | _ => exact List.Subset.refl _

/--
What holds for every new config, stays true while a document is kept, and carries over from a
document to those derived from it, holds for all documents.
-/
theorem Held.invariant {ok : System → Action → Prop} {I : System → Config → Prop}
    (hstable : ∀ {s a s' doc}, Transition env s a s' → I s doc → I s' doc)
    (hcreate : ∀ {s} (r : UpsertManifestRequest), I s (r.newConfig env))
    (hderive : ∀ {s a s' doc doc'}, (manager env).Reach ok s → ok s a → Transition env s a s' →
      Held s doc → I s doc → Derives env s a s'.fresh doc doc' → I s' doc')
    (hs : (manager env).Reach ok s) : ∀ {doc}, Held s doc → I s doc := by
  induction hs with
  | init =>
    intro doc hheld
    obtain ⟨name, hs⟩ | ⟨op, hop, _⟩ := hheld
    · simp [manager, System.init] at hs
    · cases hop
  | step hs hok hstep ih =>
    intro doc hheld
    have ht := step_transition hstep
    obtain hold | ⟨r, rfl⟩ | ⟨doc, hold, hd⟩ := ht.held hheld
    · exact hstable ht (ih hold)
    · exact hcreate r
    · exact hderive hs hok ht hold (ih hold) hd

end

section frame

variable {env : Env} {s s' : System} {a : Action} {cfg cfg' : Config}

structure Scheduled (cfg cfg' : Config) (clusters : GoMap ClusterState) (result : ScheduleResult) :
    Prop where
  name : cfg'.name = cfg.name
  version : cfg'.version = cfg.version
  raw : cfg'.manifest.raw = cfg.manifest.raw
  checksum : cfg'.manifest.checksum = cfg.manifest.checksum
  clusters : cfg'.clusters = clusters
  lastAppliedChecksum : cfg'.manifest.lastAppliedChecksum
    = if result = .noReschedule then cfg.manifest.checksum else cfg.manifest.lastAppliedChecksum
  state : cfg'.manifest.state = if result = .notReady then cfg.manifest.state else .scheduled

theorem applyScheduleResult_eq_some {clusters : GoMap ClusterState} {result : ScheduleResult}
    (h : applyScheduleResult cfg clusters result = some cfg') :
    Scheduled cfg cfg' clusters result := by
  cases result with
  | noop => cases h
  | notReady => cases h; exact ⟨rfl, rfl, rfl, rfl, rfl, rfl, rfl⟩
  | reschedule => cases h; exact ⟨rfl, rfl, rfl, rfl, rfl, rfl, rfl⟩
  | noReschedule => cases h; exact ⟨rfl, rfl, rfl, rfl, rfl, rfl, rfl⟩

theorem watchForDoneOrErrorDocuments_update
    (h : watchForDoneOrErrorDocuments cfg = .update cfg') :
    cfg.manifest.lastAppliedChecksum ≠ cfg.manifest.checksum
      ∧ cfg' = { cfg with
          manifest.state := .pending
          clusters := cfg.clusters.filter (fun _ s => !ClusterState.isEmpty s) } := by
  unfold watchForDoneOrErrorDocuments at h
  split at h
  next hne =>
    split at h
    next =>
      cases h
      exact ⟨hne, rfl⟩
    next => cases h
  next =>
    split at h
    next => cases h
    next => cases h

theorem finishScheduled_eq_some {anyError : Bool} (h : finishScheduled cfg anyError = some cfg') :
    cfg' = { cfg with manifest.state := if anyError then .error else .done } := by
  unfold finishScheduled at h
  rw [Option.ite_none_right_eq_some] at h
  exact (Option.some.inj h.2).symm

structure NodeChange (state state' : ClusterState) : Prop where
  k8s : state.current.k8s.isSome = true
  inFlight : state.inFlight = []
  eq : ∃ current : Clusters, current.k8s.isSome = true ∧ state' = { state with current }

theorem modifyCurrentNodePool_eq_ok {r : NodePoolRef} {f : NodePool → Outcome NodePool}
    {state state' : ClusterState} (h : modifyCurrentNodePool r f state = .ok state') :
    NodeChange state state' := by
  unfold modifyCurrentNodePool at h
  split at h
  next => cases h
  next => cases h
  next k8s hk8s hin =>
    split at h
    next =>
      obtain ⟨nps, _, h⟩ := Outcome.bind_eq_ok.mp h
      cases h
      exact ⟨by simp [hk8s], hin, _, rfl, rfl⟩
    next lb =>
      split at h
      next => cases h
      next idx _ =>
        obtain ⟨lbs, _, h⟩ := Outcome.bind_eq_ok.mp h
        cases h
        exact ⟨by simp [hk8s], hin, _, by simp [hk8s], rfl⟩

theorem modifyConfigNodePool_eq_ok {r : NodePoolRef} {f : NodePool → Outcome NodePool}
    (h : modifyConfigNodePool r f cfg = .ok cfg') :
    ∃ state state', cfg.clusters[r.cluster]? = some state ∧ NodeChange state state'
      ∧ cfg' = { cfg with clusters := cfg.clusters.insert r.cluster state' } := by
  unfold modifyConfigNodePool at h
  split at h
  next => cases h
  next state hstate =>
    obtain ⟨state', hstate', h⟩ := Outcome.bind_eq_ok.mp h
    cases h
    exact ⟨state, state', hstate, modifyCurrentNodePool_eq_ok hstate', rfl⟩

theorem UpsertManifestRequest.apply_clusters (r : UpsertManifestRequest) :
    (r.apply env cfg).clusters = cfg.clusters := by
  unfold apply
  split <;> rfl

theorem Writes.frame {i : Nat} {op : Op} {fresh : TaskId} (h : Writes env s i a op cfg' fresh)
    (hdoc : op.doc? = some cfg) : cfg'.name = cfg.name ∧ cfg'.version = cfg.version := by
  cases h with
  | @upsert r doc =>
    cases hdoc
    unfold UpsertManifestRequest.apply
    split <;> exact ⟨rfl, rfl⟩
  | pending h =>
    cases hdoc
    obtain ⟨_, _, _, _, _, happly⟩ := watchForPendingDocuments_eq_some h
    have hs := applyScheduleResult_eq_some happly
    exact ⟨hs.name, hs.version⟩
  | scheduled _ =>
    cases hdoc
    exact ⟨rfl, rfl⟩
  | idle h =>
    cases hdoc
    obtain ⟨_, rfl⟩ := watchForDoneOrErrorDocuments_update h
    exact ⟨rfl, rfl⟩
  | process h =>
    cases hdoc
    obtain ⟨_, _, _, _, _, _, _, _, rfl⟩ := processTask_eq_some h
    exact ⟨rfl, rfl⟩
  | markNode h =>
    cases hdoc
    obtain ⟨_, _, _, _, rfl⟩ := modifyConfigNodePool_eq_ok h
    exact ⟨rfl, rfl⟩
  | updateTargetSize h =>
    cases hdoc
    obtain ⟨_, _, _, _, rfl⟩ := modifyConfigNodePool_eq_ok h
    exact ⟨rfl, rfl⟩

theorem Advances.frame {i : Nat} {op op' : Op} {msgs : List WorkMessage} {doc : Config}
    (h : Advances s i a op op' msgs) (hdoc : op.doc? = some doc) :
    ∃ doc', op'.doc? = some doc' ∧ doc'.name = doc.name ∧ doc'.version = doc.version := by
  cases h with
  | final _ _ hfinish _ =>
    cases hdoc
    rw [finishScheduled_eq_some hfinish]
    exact ⟨_, rfl, rfl, rfl⟩
  | _ =>
    cases hdoc
    exact ⟨_, rfl, rfl, rfl⟩

theorem Transition.ops (h : Transition env s a s') {op' : Op} (hop : op' ∈ s'.ops) :
    op' ∈ s.ops ∨ (Starts s a op' ∧ s' = s.start op')
      ∨ ∃ i op msgs, s.ops[i]? = some op ∧ Advances s i a op op' msgs
          ∧ s' = { s.setOp i op' with published := s.published ++ msgs } := by
  cases h with
  | start hstarts =>
    rw [System.start_ops, List.mem_append, List.mem_singleton] at hop
    obtain hop | rfl := hop
    · exact .inl hop
    · exact .inr (.inl ⟨hstarts, rfl⟩)
  | finish _ _ => exact .inl (List.mem_of_mem_eraseIdx hop)
  | advance hi hadv =>
    obtain hop | rfl := List.mem_or_eq_of_mem_set hop
    · exact .inl hop
    · exact .inr (.inr ⟨_, _, _, hi, hadv, rfl⟩)
  | write _ _ _ _ => exact .inl (List.mem_of_mem_eraseIdx hop)
  | create _ _ => exact .inl (List.mem_of_mem_eraseIdx hop)
  | mark _ => exact .inl hop
  | delete _ _ _ _ => exact .inl (List.mem_of_mem_eraseIdx hop)

end frame

end Manager

end Claudie
