import Claudie.Lib.List
import Claudie.Lib.Versioned
import Claudie.Manager.Lemmas.Documents

/-!
How the operations in progress relate to each other and to the store they have read from.
-/

namespace Claudie

namespace Manager

def ClusterState.Finished (state : ClusterState) : Prop :=
  state.state.status = .done ∨ state.state.status = .error

theorem scheduledStep_finished {name cluster : String} {state : ClusterState} {anyError : Bool}
    (h : scheduledStep name cluster state = .ok (.finished anyError)) :
    ClusterState.Finished state := by
  unfold scheduledStep at h
  split at h
  next hstatus => exact .inl hstatus
  next hstatus => exact .inr hstatus
  next =>
    split at h
    next => cases h
    next =>
      split at h
      next => cases h
      next =>
        split at h
        next =>
          obtain ⟨m, _, h⟩ := Outcome.bind_eq_ok.mp h
          cases h
        next => cases h

structure Publishes (name cluster : String) (state : ClusterState) (msg : WorkMessage)
    (state' : ClusterState) (te : TaskEvent) (lower : List TaskEvent) (stage : Stage) : Prop where
  status : state.state.status = .waitForPickup
  inFlight : state.inFlight = te :: lower
  pipeline : te.pipeline[te.currentStage]? = some stage
  msg : msg = ⟨name, cluster, te.id, te.currentStage, stage.kind, te.task, Stage.passes stage⟩
  status' : state'.state.status = .inProgress
  inFlight' : state'.inFlight = te :: lower
  current' : state'.current = state.current

theorem scheduledStep_publish {name cluster : String} {state state' : ClusterState}
    {msg : WorkMessage} (h : scheduledStep name cluster state = .ok (.publish msg state')) :
    ∃ te lower stage, Publishes name cluster state msg state' te lower stage := by
  unfold scheduledStep at h
  split at h
  next => cases h
  next => cases h
  next =>
    split at h
    next => cases h
    next te lower hin =>
      split at h
      next => cases h
      next =>
        split at h
        next hstatus =>
          obtain ⟨⟨m, text⟩, hm, h⟩ := Outcome.bind_eq_ok.mp h
          unfold messageForStage at hm
          obtain ⟨stage, hstage, hm⟩ := Outcome.bind_eq_ok.mp hm
          rw [Outcome.deref_eq_ok] at hstage
          cases hm
          cases h
          exact ⟨te, lower, stage, hstatus, hin, hstage, rfl, rfl, hin, rfl⟩
        next => cases h

structure NoWork (state state' : ClusterState) : Prop where
  current' : state'.current = state.current
  inFlight' : state'.inFlight = []
  status' : state'.state.status = .done
  inFlight : ∀ te lower, state.inFlight = te :: lower →
    te.pipeline = [] ∨ te.pipeline.length < te.currentStage

theorem scheduledStep_noWork {name cluster : String} {state state' : ClusterState}
    (h : scheduledStep name cluster state = .ok (.noWork state')) : NoWork state state' := by
  unfold scheduledStep at h
  split at h
  next => cases h
  next => cases h
  next =>
    split at h
    next hin =>
      cases h
      exact ⟨rfl, hin, rfl, by simp [hin]⟩
    next te lower hin =>
      split at h
      next hstage =>
        cases h
        refine ⟨rfl, rfl, rfl, fun te' lower' heq => ?_⟩
        rw [hin] at heq
        cases heq
        simpa using hstage
      next =>
        split at h
        next =>
          obtain ⟨m, _, h⟩ := Outcome.bind_eq_ok.mp h
          cases h
        next => cases h

structure ScheduledPass.WellFormed (p : ScheduledPass) : Prop where
  state : p.phase ≠ .writeFinal → p.doc.manifest.state = .scheduled
  nodup : p.todo.Nodup
  counted : ∃ done : List String, done.Nodup ∧ done.length = p.clustersDone
    ∧ ∀ c ∈ done, c ∉ p.todo
        ∧ ∃ state, p.doc.clusters[c]? = some state ∧ ClusterState.Finished state
  final : p.phase = .writeFinal →
    ∀ (c : String) (state : ClusterState), p.doc.clusters[c]? = some state →
      ClusterState.Finished state

def Op.WellFormed (published : List WorkMessage) : Op → Prop
  | .upsert r doc _ => doc.name = r.name
  | .pending doc => doc.manifest.state = .pending
  | .scheduled p => ScheduledPass.WellFormed p
  | .idle doc => doc.manifest.state = .done ∨ doc.manifest.state = .error
  | .process msg _ doc => msg ∈ published ∧ doc.name = msg.inputManifest
  | _ => True

inductive Watcher where
  | pending
  | scheduled
  | idle
  deriving DecidableEq

-- The watcher an operation belongs to, which has no other operation for the same config.
def Op.slot : Op → Option (Watcher × String)
  | .pending doc => some (.pending, doc.name)
  | .scheduled p => some (.scheduled, p.doc.name)
  | .idle doc => some (.idle, doc.name)
  | _ => none

structure WellFormed (s : System) : Prop where
  name : ∀ {name : String} {doc : Config}, s.store[name]? = some doc → doc.name = name
  op : ∀ op ∈ s.ops, op.WellFormed s.published
  slots : (s.ops.filterMap Op.slot).Nodup

namespace ScheduledPass.WellFormed

variable {p : ScheduledPass} {cluster : String} {state state' : ClusterState}

theorem start {doc : Config} (h : doc.manifest.state = .scheduled) :
    ScheduledPass.WellFormed ⟨doc, doc.clusters.keys, 0, false, .scan⟩ where
  state _ := h
  nodup := doc.clusters.distinct_keys.imp (fun hne heq => hne (by simp [heq]))
  counted := ⟨[], List.nodup_nil, rfl, by simp⟩
  final h := by cases h

theorem visited (h : WellFormed p) (hscan : Scans p cluster state) :
    WellFormed (p.visited cluster) where
  state := h.state
  nodup := h.nodup.erase _
  counted := by
    obtain ⟨done, hnodup, hlength, hdone⟩ := h.counted
    refine ⟨done, hnodup, hlength, fun c hc => ⟨fun hmem => (hdone c hc).1 ?_, (hdone c hc).2⟩⟩
    exact List.mem_of_mem_erase hmem
  final hphase := by
    rw [show (p.visited cluster).phase = p.phase from rfl, hscan.phase] at hphase
    cases hphase

theorem finished (h : WellFormed p) (hscan : Scans p cluster state)
    (hfinished : ClusterState.Finished state) (anyError : Bool) :
    WellFormed { p.visited cluster with clustersDone := p.clustersDone + 1, anyError } where
  state := h.state
  nodup := h.nodup.erase _
  counted := by
    obtain ⟨done, hnodup, hlength, hdone⟩ := h.counted
    refine ⟨cluster :: done, ?_, by simp [hlength], ?_⟩
    · rw [List.nodup_cons]
      exact ⟨fun hmem => (hdone cluster hmem).1 hscan.todo, hnodup⟩
    · intro c hc
      obtain rfl | hc := List.mem_cons.mp hc
      · exact ⟨h.nodup.not_mem_erase, state, hscan.entry, hfinished⟩
      · exact ⟨fun hmem => (hdone c hc).1 (List.mem_of_mem_erase hmem), (hdone c hc).2⟩
  final := (h.visited hscan).final

theorem setCluster (h : WellFormed p) (hscan : Scans p cluster state) {phase : Phase}
    (hphase : phase ≠ .writeFinal) :
    WellFormed ((p.visited cluster).setCluster cluster state' phase) where
  state _ := h.state (by simp [hscan.phase])
  nodup := h.nodup.erase _
  counted := by
    obtain ⟨done, hnodup, hlength, hdone⟩ := h.counted
    refine ⟨done, hnodup, hlength, fun c hc => ?_⟩
    obtain ⟨htodo, st, hst, hfinished⟩ := hdone c hc
    have hne : cluster ≠ c := fun heq => htodo (heq ▸ hscan.todo)
    refine ⟨fun hmem => htodo (List.mem_of_mem_erase hmem), st, ?_, hfinished⟩
    simp only [ScheduledPass.setCluster, ScheduledPass.visited, GoMap.getElem?_insert, if_neg hne]
    exact hst
  final h := absurd h hphase

-- Every cluster was counted, as many were.
theorem all_finished (h : WellFormed p) (hall : p.clustersDone = p.doc.clusters.size) {c : String}
    (hc : p.doc.clusters[c]? = some state) : ClusterState.Finished state := by
  obtain ⟨done, hnodup, hlength, hdone⟩ := h.counted
  have hsubset : done ⊆ p.doc.clusters.keys := by
    intro c hc
    obtain ⟨_, st, hst, _⟩ := hdone c hc
    rw [Std.ExtTreeMap.mem_keys, ← Std.ExtTreeMap.isSome_getElem?_iff_mem, hst]
    rfl
  have hlen : p.doc.clusters.keys.length = done.length := by
    rw [Std.ExtTreeMap.length_keys, hlength, hall]
  have hperm : done.Perm p.doc.clusters.keys :=
    (List.subperm_of_subset hnodup hsubset).perm_of_length_le (Nat.le_of_eq hlen)
  have hmem : c ∈ p.doc.clusters.keys := by
    rw [Std.ExtTreeMap.mem_keys, ← Std.ExtTreeMap.isSome_getElem?_iff_mem, hc]
    rfl
  obtain ⟨_, st, hst, hfinished⟩ := hdone c (hperm.mem_iff.mpr hmem)
  rw [hc] at hst
  cases hst
  exact hfinished

theorem writeFinal (h : WellFormed p) (hall : p.clustersDone = p.doc.clusters.size)
    {doc : Config} {anyError : Bool} (hfinish : finishScheduled p.doc anyError = some doc) :
    WellFormed { p with doc, phase := .writeFinal } := by
  rw [finishScheduled_eq_some hfinish]
  exact ⟨fun hne => absurd rfl hne, h.nodup, h.counted, fun _ c st hst => h.all_finished hall hst⟩

theorem toScan (h : WellFormed p) (hphase : p.phase ≠ .writeFinal) :
    WellFormed { p with phase := .scan } where
  state _ := h.state hphase
  nodup := h.nodup
  counted := h.counted
  final h := by cases h

end ScheduledPass.WellFormed

theorem Op.WellFormed.mono {published published' : List WorkMessage} (hsub : published ⊆ published')
    {op : Op} (h : op.WellFormed published) : op.WellFormed published' := by
  cases op with
  | process msg result doc => exact ⟨hsub h.1, h.2⟩
  | _ => exact h

section

variable {env : Env} {s s' : System} {a : Action}

theorem Starts.wellFormed {op : Op} (hwf : WellFormed s) (h : Starts s a op) :
    op.WellFormed s.published := by
  cases h with
  | create _ => trivial
  | upsert hs => exact hwf.name hs
  | markNode _ => trivial
  | updateTargetSize _ => trivial
  | pending _ hstate _ => exact hstate
  | scheduled _ hstate _ => exact .start hstate
  | idle _ hstate _ => exact hstate
  | process hmsg hs => exact ⟨List.mem_of_getElem? hmsg, hwf.name hs⟩

theorem Advances.wellFormed {i : Nat} {op op' : Op} {msgs published : List WorkMessage}
    (h : Advances s i a op op' msgs) (hwf : op.WellFormed published) :
    op'.WellFormed published := by
  cases h with
  | validated => exact hwf
  | finished hscan hstep =>
    exact ScheduledPass.WellFormed.finished hwf hscan (scheduledStep_finished hstep) _
  | inProgress hscan _ => exact ScheduledPass.WellFormed.visited hwf hscan
  | noWork hscan _ => exact ScheduledPass.WellFormed.setCluster hwf hscan (by simp)
  | acked hscan _ => exact ScheduledPass.WellFormed.setCluster hwf hscan (by simp)
  | unconfirmed hscan _ => exact ScheduledPass.WellFormed.visited hwf hscan
  | failed hscan _ => exact ScheduledPass.WellFormed.visited hwf hscan
  | final _ _ hfinish hall => exact ScheduledPass.WellFormed.writeFinal hwf hall hfinish
  | dirty hphase _ => exact ScheduledPass.WellFormed.toScan hwf (by simp [hphase])
  | failWrite hphase => exact ScheduledPass.WellFormed.toScan hwf (by simp [hphase])

theorem Advances.slot {i : Nat} {op op' : Op} {msgs : List WorkMessage}
    (h : Advances s i a op op' msgs) : op'.slot = op.slot := by
  cases h with
  | final _ _ hfinish _ =>
    rw [finishScheduled_eq_some hfinish]
    rfl
  | _ => rfl

theorem Starts.slot {op : Op} {slot : Watcher × String} (hwf : WellFormed s) (h : Starts s a op)
    (hslot : op.slot = some slot) : ∀ op' ∈ s.ops, op'.slot ≠ some slot := by
  intro op' hop' heq
  cases h with
  | pending hs _ hnone =>
    have := hnone op' hop'
    cases hslot
    rw [hwf.name hs] at heq
    cases op' <;> simp [Op.slot, Op.isPending] at heq this
    exact this heq
  | scheduled hs _ hnone =>
    have := hnone op' hop'
    cases hslot
    rw [hwf.name hs] at heq
    cases op' <;> simp [Op.slot, Op.isScheduled] at heq this
    exact this heq
  | idle hs _ hnone =>
    have := hnone op' hop'
    cases hslot
    rw [hwf.name hs] at heq
    cases op' <;> simp [Op.slot, Op.isIdle] at heq this
    exact this heq
  | _ => cases hslot

theorem Transition.wellFormed_slots (hwf : WellFormed s) (h : Transition env s a s') :
    (s'.ops.filterMap Op.slot).Nodup := by
  have hfinish : ∀ i, ((s.ops.eraseIdx i).filterMap Op.slot).Nodup :=
    fun i => hwf.slots.sublist ((List.eraseIdx_sublist _ _).filterMap _)
  cases h with
  | @start a op hstarts =>
    rw [System.start_ops, List.filterMap_append]
    cases hslot : op.slot with
    | none =>
      rw [List.filterMap_cons_none hslot, List.filterMap_nil, List.append_nil]
      exact hwf.slots
    | some slot =>
      rw [List.filterMap_cons_some hslot, List.filterMap_nil, List.nodup_append]
      refine ⟨hwf.slots, List.pairwise_singleton _ _, fun x hx y hy => ?_⟩
      obtain ⟨op', hop', heq⟩ := List.mem_filterMap.mp hx
      rintro rfl
      rw [List.mem_singleton] at hy
      subst hy
      exact hstarts.slot hwf hslot op' hop' heq
  | finish _ _ => exact hfinish _
  | advance hi hadv =>
    dsimp only
    rw [System.setOp_ops, List.filterMap_set_of_eq hi hadv.slot]
    exact hwf.slots
  | write _ _ _ _ => exact hfinish _
  | create _ _ => exact hfinish _
  | mark _ => exact hwf.slots
  | delete _ _ _ _ => exact hfinish _

theorem Transition.wellFormed_name (hwf : WellFormed s) (h : Transition env s a s')
    {name : String} {doc : Config} (hs : s'.store[name]? = some doc) : doc.name = name := by
  have insert : ∀ {k : String} {d : Config}, (s.store.insert k d)[name]? = some doc →
      d.name = k → doc.name = name := by
    intro k d hs hd
    rw [GoMap.getElem?_insert] at hs
    split at hs
    next hk =>
      cases hs
      rw [hd, hk]
    next => exact hwf.name hs
  cases h with
  | start _ => exact hwf.name hs
  | finish _ _ => exact hwf.name hs
  | advance _ _ => exact hwf.name hs
  | write _ _ _ _ => exact insert hs rfl
  | create _ _ => exact insert hs rfl
  | mark hdoc =>
    have hname := hwf.name hdoc
    exact insert hs hname
  | delete _ _ _ _ =>
    dsimp only at hs
    rw [GoMap.getElem?_erase] at hs
    split at hs
    next => cases hs
    next => exact hwf.name hs

theorem Transition.wellFormed (hwf : WellFormed s) (h : Transition env s a s') : WellFormed s' where
  name := h.wellFormed_name hwf
  op op' hop := by
    obtain hold | ⟨hstarts, _⟩ | ⟨i, op, msgs, hi, hadv, _⟩ := h.ops hop
    · exact (hwf.op op' hold).mono h.published_subset
    · exact (hstarts.wellFormed hwf).mono h.published_subset
    · exact (hadv.wellFormed (hwf.op op (List.mem_of_getElem? hi))).mono h.published_subset
  slots := h.wellFormed_slots hwf

theorem wellFormed_of_reach {ok : System → Action → Prop} (hs : (manager env).Reach ok s) :
    WellFormed s := by
  refine hs.invariant (I := WellFormed) ⟨?_, ?_, ?_⟩ (fun s a s' _ hwf _ hstep => ?_)
  · intro name doc hdoc
    simp [manager, System.init] at hdoc
  · intro op hop
    cases hop
  · exact List.nodup_nil
  · exact (step_transition hstep).wellFormed hwf

end

section coherence

variable {env : Env} {s s' : System} {a : Action}

def ScheduledPass.EntryOf (p : ScheduledPass) (cluster : String) (state state' : ClusterState) :
    Prop :=
  state' = state ∨ scheduledStep p.doc.name cluster state = .ok (.noWork state')
    ∨ (p.phase = .writePickup
        ∧ ∃ msg, scheduledStep p.doc.name cluster state = .ok (.publish msg state'))

structure ScheduledPass.Sees (p : ScheduledPass) (stored : Config) : Prop where
  state : stored.manifest.state = .scheduled
  manifest : p.doc.manifest = { stored.manifest with state := p.doc.manifest.state }
  todo : ∀ c ∈ p.todo, p.doc.clusters[c]? = stored.clusters[c]?
  entry : ∀ (c : String) (state' : ClusterState), p.doc.clusters[c]? = some state' →
    ∃ state, stored.clusters[c]? = some state ∧ p.EntryOf c state state'

def Op.Sees : Op → Config → Prop
  | .create _, _ => True
  | .scheduled p, stored => p.Sees stored
  | .upsert _ doc _, stored | .pending doc, stored | .idle doc, stored | .process _ _ doc, stored
  | .markNode _ doc, stored | .updateTargetSize _ doc, stored => stored = doc

def Coherent (s : System) (op : Op) : Prop :=
  ∀ doc, op.doc? = some doc →
    Versioned.UpToDate Config.version s.store doc.name doc.version op.Sees

theorem Starts.coherent {op : Op} (hwf : WellFormed s) (h : Starts s a op) :
    Coherent (s.start op) op := by
  intro doc hdoc
  have read : ∀ {name : String}, s.store[name]? = some doc → op.Sees doc →
      Versioned.UpToDate Config.version s.store doc.name doc.version op.Sees := by
    intro name hs hsees
    rw [hwf.name hs]
    exact .read hs hsees
  cases h with
  | create _ => cases hdoc
  | upsert hs => cases hdoc; exact read hs rfl
  | markNode hs => cases hdoc; exact read hs rfl
  | updateTargetSize hs => cases hdoc; exact read hs rfl
  | pending hs _ _ => cases hdoc; exact read hs rfl
  | scheduled hs hstate _ =>
    cases hdoc
    refine read hs ⟨hstate, rfl, fun _ _ => rfl, fun c state' hst => ⟨state', hst, .inl rfl⟩⟩
  | idle hs _ _ => cases hdoc; exact read hs rfl
  | process _ hs => cases hdoc; exact read hs rfl

namespace ScheduledPass.Sees

variable {p : ScheduledPass} {stored : Config} {cluster : String} {state state' : ClusterState}

theorem visited (h : Sees p stored) (cluster : String) : Sees (p.visited cluster) stored where
  state := h.state
  manifest := h.manifest
  todo c hc := h.todo c (List.mem_of_mem_erase hc)
  entry := h.entry

theorem count (h : Sees p stored) (cluster : String) (clustersDone : Nat) (anyError : Bool) :
    Sees { p.visited cluster with clustersDone, anyError } stored :=
  have hvisited := h.visited cluster
  ⟨hvisited.state, hvisited.manifest, hvisited.todo, hvisited.entry⟩

theorem setCluster (h : Sees p stored) (hnodup : p.todo.Nodup) (hscan : Scans p cluster state)
    {phase : Phase} (hstep : EntryOf { p with phase } cluster state state') :
    Sees ((p.visited cluster).setCluster cluster state' phase) stored where
  state := h.state
  manifest := h.manifest
  todo c hc := by
    have hne : cluster ≠ c := by
      rintro rfl
      exact hnodup.not_mem_erase hc
    rw [← h.todo c (List.mem_of_mem_erase hc)]
    simp only [ScheduledPass.setCluster, ScheduledPass.visited, GoMap.getElem?_insert, if_neg hne]
  entry c st' hst := by
    simp only [ScheduledPass.setCluster, ScheduledPass.visited, GoMap.getElem?_insert] at hst
    split at hst
    next heq =>
      cases hst
      subst heq
      exact ⟨state, (h.todo _ hscan.todo).symm.trans hscan.entry, hstep⟩
    next =>
      obtain ⟨st, hstored, hentry⟩ := h.entry c st' hst
      refine ⟨st, hstored, ?_⟩
      obtain heq | hno | ⟨hphase, _⟩ := hentry
      · exact .inl heq
      · exact .inr (.inl hno)
      · rw [hscan.phase] at hphase
        cases hphase

-- No cluster was picked up yet.
theorem setPhase (h : Sees p stored) (hphase : p.phase ≠ .writePickup) (phase : Phase) :
    Sees { p with phase } stored where
  state := h.state
  manifest := h.manifest
  todo := h.todo
  entry c st' hst := by
    obtain ⟨st, hstored, hentry⟩ := h.entry c st' hst
    refine ⟨st, hstored, ?_⟩
    obtain heq | hno | ⟨hpickup, _⟩ := hentry
    · exact .inl heq
    · exact .inr (.inl hno)
    · exact absurd hpickup hphase

theorem writeFinal (h : Sees p stored) (hphase : p.phase = .scan) {doc : Config} {anyError : Bool}
    (hfinish : finishScheduled p.doc anyError = some doc) :
    Sees { p with doc, phase := .writeFinal } stored := by
  have hsees := h.setPhase (by simp [hphase]) .writeFinal
  rw [finishScheduled_eq_some hfinish]
  refine ⟨hsees.state, ?_, hsees.todo, hsees.entry⟩
  dsimp only
  rw [h.manifest]

end ScheduledPass.Sees

theorem Advances.coherent {i : Nat} {op op' : Op} {msgs published : List WorkMessage}
    (h : Advances s i a op op' msgs) (hwf : op.WellFormed published) (hco : Coherent s op) :
    Coherent s op' := by
  cases h with
  | validated =>
    intro doc hdoc
    exact hco doc hdoc
  | finished _ _ =>
    rintro _ ⟨⟩
    exact (hco _ rfl).mono (fun stored _ hsees => ScheduledPass.Sees.count hsees _ _ _)
  | inProgress _ _ =>
    rintro _ ⟨⟩
    exact (hco _ rfl).mono (fun stored _ hsees => ScheduledPass.Sees.visited hsees _)
  | noWork hscan hstep =>
    rintro _ ⟨⟩
    exact (hco _ rfl).mono (fun stored _ hsees =>
      ScheduledPass.Sees.setCluster hsees hwf.nodup hscan (.inr (.inl hstep)))
  | acked hscan hstep =>
    rintro _ ⟨⟩
    exact (hco _ rfl).mono (fun stored _ hsees =>
      ScheduledPass.Sees.setCluster hsees hwf.nodup hscan (.inr (.inr ⟨rfl, _, hstep⟩)))
  | unconfirmed _ _ =>
    rintro _ ⟨⟩
    exact (hco _ rfl).mono (fun stored _ hsees => ScheduledPass.Sees.visited hsees _)
  | failed _ _ =>
    rintro _ ⟨⟩
    exact (hco _ rfl).mono (fun stored _ hsees => ScheduledPass.Sees.visited hsees _)
  | final hphase _ hfinish _ =>
    rintro _ ⟨⟩
    have hframe := finishScheduled_eq_some hfinish
    have hup := (hco _ rfl).mono (fun stored _ hsees =>
      ScheduledPass.Sees.writeFinal hsees hphase hfinish)
    rwa [show _ = _ from congrArg Config.name hframe, show _ = _ from congrArg Config.version hframe]
  | dirty _ hdirty =>
    rintro _ ⟨⟩
    exact (hco _ rfl).dirty hdirty
  | failWrite hphase =>
    rintro _ ⟨⟩
    exact (hco _ rfl).mono (fun stored _ hsees =>
      ScheduledPass.Sees.setPhase hsees (by simp [hphase]) _)

theorem Transition.upToDate (h : Transition env s a s') {name : String} {v : Nat}
    {seen : Config → Prop} (hup : Versioned.UpToDate Config.version s.store name v seen)
    (hcreate : ∀ i r, a = .proceed i → s.ops[i]? = some (.create r) → s.store[r.name]? = none →
      name ≠ r.name) : Versioned.UpToDate Config.version s'.store name v seen := by
  cases h with
  | start _ => exact hup
  | finish _ _ => exact hup
  | advance _ _ => exact hup
  | write _ _ hstored hv =>
    refine hup.overwrite hstored ?_
    rw [Config.bump_version, hv]
  | create hi hnone =>
    refine hup.insert (fun hname => ?_)
    exact absurd hname.symm (hcreate _ _ rfl hi hnone)
  | mark hstored => exact hup.overwrite hstored rfl
  | delete _ _ _ _ => exact hup.erase _

theorem Transition.coherent {op : Op} (hco : Coherent s op) (h : Transition env s a s')
    (hcreate : ∀ i r doc, a = .proceed i → s.ops[i]? = some (.create r) →
      s.store[r.name]? = none → op.doc? = some doc → doc.name ≠ r.name) : Coherent s' op :=
  fun doc hdoc => h.upToDate (hco doc hdoc) (fun i r ha hi hnone => hcreate i r doc ha hi hnone hdoc)

/--
The step creates a config while an operation still holds a document that was stored under its name.
-/
def recreates (s : System) : Action → Bool
  | .proceed i =>
    match s.ops[i]? with
    | some (.create r) =>
      s.store[r.name]?.isNone && s.ops.any (fun op => op.doc?.any (fun doc => doc.name = r.name))
    | _ => false
  | _ => false

theorem Transition.upToDate_of_held (h : Transition env s a s') (hok : recreates s a = false)
    {op : Op} {doc : Config} (hop : op ∈ s.ops) (hdoc : op.doc? = some doc) {v : Nat}
    {seen : Config → Prop} (hup : Versioned.UpToDate Config.version s.store doc.name v seen) :
    Versioned.UpToDate Config.version s'.store doc.name v seen := by
  refine h.upToDate hup (fun i r ha hi hnone hname => ?_)
  subst ha
  have hany : s.ops.any (fun op => op.doc?.any (fun doc => doc.name = r.name)) = true :=
    List.any_eq_true.mpr ⟨op, hop, by simp [hdoc, hname]⟩
  simp only [recreates, hi, hnone, hany] at hok
  cases hok

theorem coherent_of_reach (hs : (manager env).Reach (fun s a => recreates s a = false) s) {op : Op}
    (hop : op ∈ s.ops) : Coherent s op := by
  induction hs generalizing op with
  | init => cases hop
  | @step s s' a hs hok hstep ih =>
    have hwf := wellFormed_of_reach hs
    have ht := step_transition hstep
    obtain hop | ⟨hstarts, rfl⟩ | ⟨i, old, msgs, hi, hadv, rfl⟩ := ht.ops hop
    · exact fun doc hdoc => ht.upToDate_of_held hok hop hdoc (ih hop doc hdoc)
    · exact hstarts.coherent hwf
    · have hmem := List.mem_of_getElem? hi
      exact hadv.coherent (hwf.op old hmem) (ih hmem)

end coherence

end Manager

end Claudie
