import Claudie.Manager.Lemmas.Coherence
import Claudie.Manager.Lemmas.Schedule

/-!
What a step can do to the entry of one cluster, and to its chain of tasks.
-/

namespace Claudie

namespace Manager

inductive Rechained (desired : Option Clusters) (id newUUID : TaskId)
    (state state' : ClusterState) : Prop
  | kept :
    state'.inFlight = state.inFlight →
    (state'.state.status = .waitForPickup →
      state.inFlight = [] ∨ state.state.status = .waitForPickup) →
    Rechained desired id newUUID state state'
  | cleared : state'.inFlight = [] → Rechained desired id newUUID state state'
  | replaced {te : TaskEvent} :
    NewTask id te → state'.inFlight = [te] → Rechained desired id newUUID state state'
  | pushed {te : TaskEvent} :
    Removal newUUID te → state'.inFlight = te :: state.inFlight →
    Rechained desired id newUUID state state'
  | renamed {te : TaskEvent} {lower : List TaskEvent} :
    state.inFlight = te :: lower → TaskEvent.reschedulable te = true →
    state'.inFlight = { te with id := newUUID } :: lower → Rechained desired id newUUID state state'
  | credentials {d : Clusters} {te : TaskEvent} {lower : List TaskEvent} :
    presentDesired desired = some d → state.inFlight = te :: lower →
    state'.inFlight = TaskEvent.mapClusters te (fun c => (updateCredentials c d).1) :: lower →
    state'.state = state.state → Rechained desired id newUUID state state'

section

variable {inp : ReconcileInput} {id newUUID : TaskId} {state state' : ClusterState}
  {desired : Option Clusters} {result : ScheduleResult}

theorem modifyNodePoolAt_k8s {f : NodePool → NodePool} {i : Nat} {c : Clusters}
    (h : c.k8s.isSome = true) : (modifyNodePoolAt f i c).k8s.isSome = true := by
  unfold modifyNodePoolAt
  split
  next => exact h
  next =>
    dsimp only
    split <;> rfl

theorem Compared.k8s {d : Clusters} {c : Comparison} (h : Compared inp state d c) :
    c.current.k8s.isSome = true := by
  have hhealth := h.healthCheck
  obtain ⟨k8s, hk8s, hhealth⟩ := Outcome.bind_eq_ok.mp hhealth
  rw [Outcome.deref_eq_ok] at hk8s
  simp only [pure, Except.pure, Except.ok.injEq, Prod.mk.injEq] at hhealth
  rw [← hhealth.2]
  exact modifyNodePoolAt_k8s (by simp [hk8s])

theorem Comparison.update_newUpdate {d : Clusters} {c : Comparison} {te : TaskEvent}
    (hc : Compared inp state d c) (h : c.update inp state d id = .ok (some te)) :
    NewUpdate id te :=
  handleUpdate_newUpdate hc.k8s h

theorem refreshInfrastructure_cases
    (h : refreshInfrastructure state id = .ok (state', result)) :
    state'.current = state.current
      ∧ ((state'.inFlight = state.inFlight ∧ state'.state.status = state.state.status)
        ∨ ∃ te, NewUpdate id te ∧ state' = ClusterState.push
            { state with state := { state.state with
              ticksUntilRefresh := max state.state.ticksUntilRefresh 0 - 1 } } te []) := by
  unfold refreshInfrastructure at h
  dsimp only at h
  split at h
  next =>
    obtain ⟨te, hte, h⟩ := Outcome.bind_eq_ok.mp h
    cases h
    exact ⟨rfl, .inr ⟨te, (scheduleRefreshInfrastructure_schedules hte).newUpdate, rfl⟩⟩
  next =>
    cases h
    exact ⟨rfl, .inl ⟨rfl, rfl⟩⟩

theorem DiffStep.rechained {d : Clusters} {c : Comparison} (hc : Compared inp state d c)
    (h : DiffStep inp id newUUID state d c state' result) :
    Rechained desired id newUUID state state' := by
  cases h with
  | unchecked _ =>
    refine .kept (ClusterState.checked_inFlight _ _) (fun hstatus => ?_)
    cases hstatus
  | wait _ _ _ =>
    refine .kept rfl (fun hstatus => ?_)
    cases hstatus
  | retry _ hresched _ =>
    cases hin : state.inFlight with
    | nil => simp [hin, shouldRescheduleInFlight] at hresched
    | cons te lower =>
      rw [hin] at hresched
      refine .renamed hin hresched ?_
      simp [rescheduleInFlight, hin, ClusterState.waitForPickup]
  | push _ hreach => exact .pushed (reachability_push hc.k8s hreach).1 rfl
  | waitWithTask _ _ hupdate _ =>
    exact .replaced (Comparison.update_newUpdate hc hupdate).toNewTask rfl
  | schedule _ _ hupdate _ =>
    exact .replaced (Comparison.update_newUpdate hc hupdate).toNewTask rfl
  | clear _ _ _ _ => exact .cleared rfl
  | waitIdle _ hin _ _ => exact .kept (ClusterState.checked_inFlight _ _) (fun _ => .inl hin)
  | refresh hin _ h =>
    obtain ⟨_, hkept | ⟨te, hnew, rfl⟩⟩ := refreshInfrastructure_cases h
    · refine .kept ?_ (fun _ => .inl hin)
      rw [hkept.1, ClusterState.checked_inFlight]
    · exact .replaced hnew.toNewTask rfl

theorem ReconcileStep.rechained (h : ReconcileStep inp id newUUID state desired state' result) :
    Rechained desired id newUUID state state' := by
  cases h with
  | empty _ _ hin => exact .kept rfl (fun _ => .inl hin)
  | destroyCurrent _ _ _ hte => exact .replaced (scheduleDeleteCluster_newTask hte).1 rfl
  | destroyUnion _ _ _ hte => exact .replaced (scheduleDeleteCluster_newTask hte).1 rfl
  | create _ _ _ _ hte => exact .replaced (scheduleCreateCluster_newTask hte).1 rfl
  | deleteCreated _ _ _ hte => exact .replaced (scheduleDeleteCluster_newTask hte).1 rfl
  | resetTargetSizes _ _ hin h =>
    unfold ClusterState.resetTargetSizes at h
    obtain ⟨k8s, _, h⟩ := Outcome.bind_eq_ok.mp h
    obtain ⟨nps, _, h⟩ := Outcome.bind_eq_ok.mp h
    cases h
    exact .kept rfl (fun _ => .inl hin)
  | @credentials d hd _ _ =>
    cases hin : state.inFlight with
    | nil =>
      refine .kept ?_ (fun _ => .inl hin)
      simp [ClusterState.updateCredentials, hin]
    | cons te lower =>
      refine .credentials hd hin ?_ ?_
      · simp [ClusterState.updateCredentials, hin]
      · simp [ClusterState.updateCredentials, hin]
  | compare _ _ hc hdiff => exact hdiff.rechained hc

end

inductive EntryStep (s : System) (a : Action) (fresh : TaskId) (doc : Config) (cluster : String) :
    ClusterState → Prop
  | same {state : ClusterState} :
    doc.clusters[cluster]? = some state → EntryStep s a fresh doc cluster state
  | reconciled {i : Nat} {inputs : String → ReconcileInput}
      {fromManifest : Option (GoMap DesiredCluster)} {desired : GoMap Clusters}
      {result r : ScheduleResult} {j : Nat} {state state' : ClusterState} :
    a = .reconcile i inputs fromManifest → s.ops[i]? = some (.pending doc) →
    createDesiredState fromManifest doc = some desired →
    ReconciledEntry inputs s.fresh (doc.clusters.map (fun _ s => s.convertToGRPC)) desired result
      cluster state' j state r →
    s.fresh + 2 * j + 1 < fresh → EntryStep s a fresh doc cluster state'
  | noWork {state state' : ClusterState} :
    doc.clusters[cluster]? = some state → NoWork state state' →
    EntryStep s a fresh doc cluster state'
  | picked {state state' : ClusterState} {msg : WorkMessage} {te : TaskEvent}
      {lower : List TaskEvent} {stage : Stage} :
    doc.clusters[cluster]? = some state →
    Publishes doc.name cluster state msg state' te lower stage →
    EntryStep s a fresh doc cluster state'
  | processed {i : Nat} {msg : WorkMessage} {result : TaskResult} {state state' : ClusterState}
      {te : TaskEvent} {lower : List TaskEvent} {stage : Stage} :
    a = .proceed i → s.ops[i]? = some (.process msg result doc) → msg.cluster = cluster →
    doc.clusters[cluster]? = some state → Accepts (msg.work result) state te lower stage →
    ProcessStep (msg.work result) s.fresh state te lower stage state' → fresh = s.fresh + 1 →
    EntryStep s a fresh doc cluster state'
  | modified {state state' : ClusterState} :
    doc.clusters[cluster]? = some state → NodeChange state state' →
    EntryStep s a fresh doc cluster state'

section

variable {env : Env} {s s' : System} {a : Action} {fresh : TaskId} {doc doc' : Config}
  {cluster : String} {state' : ClusterState}

theorem createDesiredState_size {fromManifest : Option (GoMap DesiredCluster)}
    {desired : GoMap Clusters} (h : createDesiredState fromManifest doc = some desired) :
    desired.size ≤ (fromManifest.map (·.size)).getD 0 := by
  unfold createDesiredState at h
  split at h
  next =>
    cases h
    exact Nat.zero_le _
  next =>
    obtain ⟨d, rfl, rfl⟩ := Option.map_eq_some_iff.mp h
    simp

theorem EntryStep.of_insert {c : String} {state : ClusterState}
    (h : (doc.clusters.insert c state)[cluster]? = some state')
    (hc : EntryStep s a fresh doc c state) : EntryStep s a fresh doc cluster state' := by
  rw [GoMap.getElem?_insert] at h
  split at h
  next heq =>
    subst heq
    cases h
    exact hc
  next => exact .same h

theorem Advances.entry {i : Nat} {op op' : Op} {msgs : List WorkMessage}
    (h : Advances s i a op op' msgs) (hdoc : op.doc? = some doc) (hdoc' : op'.doc? = some doc')
    (hst : doc'.clusters[cluster]? = some state') : EntryStep s a fresh doc cluster state' := by
  cases h with
  | noWork hscan hstep =>
    cases hdoc
    cases hdoc'
    exact .of_insert hst (.noWork hscan.entry (scheduledStep_noWork hstep))
  | acked hscan hstep =>
    cases hdoc
    cases hdoc'
    obtain ⟨te, lower, stage, hpub⟩ := scheduledStep_publish hstep
    exact .of_insert hst (.picked hscan.entry hpub)
  | final _ _ hfinish _ =>
    cases hdoc
    cases hdoc'
    rw [finishScheduled_eq_some hfinish] at hst
    exact .same hst
  | _ =>
    cases hdoc
    cases hdoc'
    exact .same hst

theorem Writes.entry {i : Nat} {op : Op} (hi : s.ops[i]? = some op)
    (h : Writes env s i a op doc' fresh) (hdoc : op.doc? = some doc)
    (hst : doc'.clusters[cluster]? = some state') : EntryStep s a fresh doc cluster state' := by
  cases h with
  | @upsert r _ =>
    cases hdoc
    rw [r.apply_clusters] at hst
    exact .same hst
  | @pending _ _ inputs fromManifest h =>
    cases hdoc
    obtain ⟨desired, clusters, result, hdesired, hrec, happly⟩ :=
      watchForPendingDocuments_eq_some h
    rw [(applyScheduleResult_eq_some happly).clusters] at hst
    obtain ⟨j, state, r, hentry⟩ := reconciliate_entry hrec hst
    have hbound := hentry.bound
    have hsize := createDesiredState_size hdesired
    rw [Std.ExtTreeMap.size_map] at hbound
    have hdrawn : 2 * j + 1 < drawn doc fromManifest := by
      unfold drawn
      omega
    exact .reconciled rfl hi hdesired hentry (Nat.add_lt_add_left hdrawn _)
  | scheduled _ =>
    cases hdoc
    exact .same hst
  | idle h =>
    cases hdoc
    obtain ⟨_, rfl⟩ := watchForDoneOrErrorDocuments_update h
    exact .same (GoMap.getElem?_filter_eq_some.mp hst).1
  | process h =>
    cases hdoc
    obtain ⟨state, te, lower, stage, st, hstate, haccepts, hstep, rfl⟩ := processTask_eq_some h
    exact .of_insert hst (.processed rfl hi rfl hstate haccepts hstep rfl)
  | markNode h =>
    cases hdoc
    obtain ⟨state, st, hstate, hchange, rfl⟩ := modifyConfigNodePool_eq_ok h
    exact .of_insert hst (.modified hstate hchange)
  | updateTargetSize h =>
    cases hdoc
    obtain ⟨state, st, hstate, hchange, rfl⟩ := modifyConfigNodePool_eq_ok h
    exact .of_insert hst (.modified hstate hchange)

theorem Derives.entry (h : Derives env s a fresh doc doc')
    (hst : doc'.clusters[cluster]? = some state') : EntryStep s a fresh doc cluster state' := by
  cases h with
  | advance _ hadv hdoc hdoc' => exact hadv.entry hdoc hdoc' hst
  | write hi hw hdoc => exact hw.entry hi hdoc hst
  | mark _ _ => exact .same hst

theorem Derives.name (h : Derives env s a fresh doc doc') : doc'.name = doc.name := by
  cases h with
  | advance _ hadv hdoc hdoc' =>
    obtain ⟨d, hd, hname, _⟩ := hadv.frame hdoc
    rw [hd] at hdoc'
    cases hdoc'
    exact hname
  | write _ hw hdoc => exact (hw.frame hdoc).1
  | mark _ _ => rfl

end

section stored

variable {env : Env} {s s' : System} {a : Action} {cluster : String} {state' : ClusterState}

theorem ScheduledPass.Sees.entryStep {p : ScheduledPass} {stored : Config} {fresh : TaskId}
    (h : p.Sees stored) (hname : p.doc.name = stored.name)
    (hst : p.doc.clusters[cluster]? = some state') : EntryStep s a fresh stored cluster state' := by
  obtain ⟨state, hstate, hentry⟩ := h.entry cluster state' hst
  obtain rfl | hno | ⟨_, msg, hpub⟩ := hentry
  · exact .same hstate
  · exact .noWork hstate (scheduledStep_noWork hno)
  · obtain ⟨te, lower, stage, hpub⟩ := scheduledStep_publish hpub
    rw [hname] at hpub
    exact .picked hstate hpub

theorem Writes.stored_entry {i : Nat} {op : Op} {written stored : Config} {fresh : TaskId}
    (hwf : WellFormed s) (hco : Coherent s op) (hi : s.ops[i]? = some op)
    (h : Writes env s i a op written fresh) (hstored : s.store[written.name]? = some stored)
    (hv : stored.version = written.version) (hst : written.clusters[cluster]? = some state') :
    EntryStep s a fresh stored cluster state' := by
  obtain ⟨doc, hdoc⟩ := h.doc?
  obtain ⟨hname, hversion⟩ := h.frame hdoc
  rw [hname] at hstored
  have hsees : op.Sees stored := (hco doc hdoc).commit hstored (hv.trans hversion)
  have hstored_name := hwf.name hstored
  have same : stored = doc → EntryStep s a fresh stored cluster state' := by
    rintro rfl
    exact h.entry hi hdoc hst
  cases h with
  | scheduled _ =>
    cases hdoc
    exact ScheduledPass.Sees.entryStep hsees hstored_name.symm hst
  | _ =>
    cases hdoc
    exact same hsees

theorem Transition.entry (hwf : WellFormed s) (hco : ∀ op ∈ s.ops, Coherent s op)
    (h : Transition env s a s') {name : String} {doc' : Config}
    (hdoc : s'.store[name]? = some doc') (hst : doc'.clusters[cluster]? = some state') :
    ∃ doc, s.store[name]? = some doc ∧ EntryStep s a s'.fresh doc cluster state' := by
  cases h with
  | start _ => exact ⟨doc', hdoc, .same hst⟩
  | finish _ _ => exact ⟨doc', hdoc, .same hst⟩
  | advance _ _ => exact ⟨doc', hdoc, .same hst⟩
  | @write a i op written stored fresh hi hw hstored hv =>
    dsimp only at hdoc
    rw [System.write_store, GoMap.getElem?_insert] at hdoc
    split at hdoc
    next hname =>
      subst hname
      cases hdoc
      exact ⟨stored, hstored,
        hw.stored_entry hwf (hco op (List.mem_of_getElem? hi)) hi hstored hv hst⟩
    next => exact ⟨doc', hdoc, .same hst⟩
  | create _ _ =>
    dsimp only at hdoc
    rw [GoMap.getElem?_insert] at hdoc
    split at hdoc
    next =>
      cases hdoc
      simp [UpsertManifestRequest.newConfig] at hst
    next => exact ⟨doc', hdoc, .same hst⟩
  | mark hmarked =>
    dsimp only at hdoc
    rw [GoMap.getElem?_insert] at hdoc
    split at hdoc
    next hname =>
      subst hname
      cases hdoc
      exact ⟨_, hmarked, .same hst⟩
    next => exact ⟨doc', hdoc, .same hst⟩
  | delete _ _ _ _ =>
    dsimp only at hdoc
    rw [GoMap.getElem?_erase] at hdoc
    split at hdoc
    next => cases hdoc
    next => exact ⟨doc', hdoc, .same hst⟩

end stored

end Manager

end Claudie
