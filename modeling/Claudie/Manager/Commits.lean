import Claudie.Manager.Deliveries

/-!
The manager without interleavings: an operation reads a config and writes what it made of it in one
step. As seen from the store, the manager does nothing else.
-/

namespace Claudie

namespace Manager

-- What a pass over a scheduled config makes of a cluster.
inductive Visited (name cluster : String) (state : ClusterState) : ClusterState → Prop
  | same : Visited name cluster state state
  | noWork {state' : ClusterState} :
    scheduledStep name cluster state = .ok (.noWork state') → Visited name cluster state state'
  | picked {msg : WorkMessage} {state' : ClusterState} :
    scheduledStep name cluster state = .ok (.publish msg state') →
    Visited name cluster state state'

-- The change of a config by an operation that no other one comes between.
inductive Atomic (env : Env) : Option Config → Option Config → Prop
  | create {r : UpsertManifestRequest} : Atomic env none (some (r.newConfig env))
  | upsert {r : UpsertManifestRequest} {doc : Config} :
    Atomic env (some doc) (some (r.apply env doc).bump)
  | mark {doc : Config} : Atomic env (some doc) (some (markForDeletion env doc))
  | pending {doc doc' : Config} {inputs : String → ReconcileInput} {fresh : TaskId}
      {fromManifest : Option (GoMap DesiredCluster)} :
    doc.manifest.state = .pending →
    watchForPendingDocuments inputs fresh fromManifest doc = .ok (some doc') →
    Atomic env (some doc) (some doc'.bump)
  | scheduled {doc : Config} {clusters : GoMap ClusterState} {state : ManifestState} :
    doc.manifest.state = .scheduled →
    (∀ c : String, Option.Rel (Visited doc.name c) doc.clusters[c]? clusters[c]?) →
    (state ≠ .scheduled → (state = .done ∨ state = .error)
      ∧ ∀ (c : String) (st : ClusterState), clusters[c]? = some st → ClusterState.Finished st) →
    Atomic env (some doc) (some (Config.bump { doc with manifest.state := state, clusters }))
  | process {work : Work} {newUUID : TaskId} {doc doc' : Config} :
    processTask work newUUID doc = .ok (some doc') → Atomic env (some doc) (some doc'.bump)
  | markNode {r : MarkNodeForDeletionRequest} {doc doc' : Config} :
    markNodeForDeletion r doc = .ok doc' → Atomic env (some doc) (some doc'.bump)
  | updateTargetSize {r : UpdateTargetSizeRequest} {doc doc' : Config} :
    nodePoolUpdateTargetSize r doc = .ok doc' → Atomic env (some doc) (some doc'.bump)
  | idle {doc doc' : Config} :
    doc.manifest.state = .done ∨ doc.manifest.state = .error →
    watchForDoneOrErrorDocuments doc = .update doc' → Atomic env (some doc) (some doc'.bump)
  | delete {doc : Config} :
    watchForDoneOrErrorDocuments doc = .delete → Atomic env (some doc) none

section

variable {env : Env} {s s' : System} {a : Action} {stored : Config}

-- What `Sees` leaves open: nothing but the clusters and the state is changed, and no cluster goes.
structure ScheduledPass.Follows (p : ScheduledPass) (stored : Config) : Prop where
  frame : p.doc
    = { stored with manifest.state := p.doc.manifest.state, clusters := p.doc.clusters }
  isSome : ∀ c : String, p.doc.clusters[c]?.isSome = stored.clusters[c]?.isSome
  final : p.phase = .writeFinal → p.doc.manifest.state = .done ∨ p.doc.manifest.state = .error

namespace ScheduledPass.Follows

variable {p : ScheduledPass} {cluster : String} {state state' : ClusterState}

theorem setCluster (h : Follows p stored) (hscan : Scans p cluster state) {phase : Phase}
    (hphase : phase ≠ .writeFinal) :
    Follows ((p.visited cluster).setCluster cluster state' phase) stored where
  frame := congrArg (fun doc : Config =>
    { doc with clusters := p.doc.clusters.insert cluster state' }) h.frame
  isSome c := by
    rw [← h.isSome c]
    dsimp only [ScheduledPass.setCluster, ScheduledPass.visited]
    rw [GoMap.getElem?_insert]
    split
    next hc => rw [← hc, hscan.entry, Option.isSome_some, Option.isSome_some]
    next => rfl
  final hfinal := absurd hfinal hphase

theorem writeFinal (h : Follows p stored) {doc : Config} {anyError : Bool}
    (hfinish : finishScheduled p.doc anyError = some doc) :
    Follows { p with doc, phase := .writeFinal } stored := by
  rw [finishScheduled_eq_some hfinish]
  refine ⟨congrArg (fun doc : Config => { doc with
    manifest.state := if anyError then .error else .done }) h.frame, h.isSome, fun _ => ?_⟩
  cases anyError
  · exact .inl rfl
  · exact .inr rfl

end ScheduledPass.Follows

theorem Advances.follows {i : Nat} {p p' : ScheduledPass} {msgs : List WorkMessage}
    (h : Advances s i a (.scheduled p) (.scheduled p') msgs) :
    p'.doc.name = p.doc.name ∧ p'.doc.version = p.doc.version
      ∧ ∀ {stored}, p.Follows stored → p'.Follows stored := by
  cases h with
  | noWork hscan _ => exact ⟨rfl, rfl, fun h => h.setCluster hscan (by simp)⟩
  | acked hscan _ => exact ⟨rfl, rfl, fun h => h.setCluster hscan (by simp)⟩
  | final _ _ hfinish _ =>
    refine ⟨?_, ?_, fun h => h.writeFinal hfinish⟩
    · rw [finishScheduled_eq_some hfinish]
    · rw [finishScheduled_eq_some hfinish]
  | dirty _ _ => exact ⟨rfl, rfl, fun h => ⟨h.frame, h.isSome, by simp⟩⟩
  | failWrite _ => exact ⟨rfl, rfl, fun h => ⟨h.frame, h.isSome, by simp⟩⟩
  | _ => exact ⟨rfl, rfl, fun h => ⟨h.frame, h.isSome, h.final⟩⟩

theorem follows_of_reach (hs : (manager env).Reach (fun s a => recreates s a = false) s)
    {p : ScheduledPass} (hp : .scheduled p ∈ s.ops) :
    Versioned.UpToDate Config.version s.store p.doc.name p.doc.version p.Follows := by
  induction hs generalizing p with
  | init => cases hp
  | step hs hok hstep ih =>
    have ht := step_transition hstep
    obtain hold | ⟨hstarts, rfl⟩ | ⟨i, op, msgs, hi, hadv, rfl⟩ := ht.ops hp
    · exact ht.upToDate_of_held hok hold rfl (ih hold)
    · cases hstarts with
      | scheduled hdoc hstate _ =>
        rw [(wellFormed_of_reach hs).name hdoc]
        exact .read hdoc ⟨rfl, fun _ => rfl, by simp⟩
    · obtain ⟨p, rfl⟩ : ∃ p, op = .scheduled p := by cases hadv <;> exact ⟨_, rfl⟩
      obtain ⟨hname, hversion, hfollows⟩ := hadv.follows
      rw [hname, hversion]
      exact (ih (List.mem_of_getElem? hi)).mono (fun _ _ h => hfollows h)

theorem ScheduledPass.Sees.visited_of_follows {p : ScheduledPass} (h : p.Sees stored)
    (hfollows : p.Follows stored) (c : String) :
    Option.Rel (Visited stored.name c) stored.clusters[c]? p.doc.clusters[c]? := by
  have hname : p.doc.name = stored.name := by rw [hfollows.frame]
  have hsome := hfollows.isSome c
  cases hst' : p.doc.clusters[c]? with
  | none =>
    rw [hst', Option.isSome_none, eq_comm, Option.isSome_eq_false_iff, Option.isNone_iff_eq_none]
      at hsome
    rw [hsome]
    exact .none
  | some state' =>
    obtain ⟨state, hst, hentry⟩ := h.entry c state' hst'
    rw [hst]
    rw [ScheduledPass.EntryOf, hname] at hentry
    obtain rfl | hno | ⟨_, msg, hpub⟩ := hentry
    · exact .some .same
    · exact .some (.noWork hno)
    · exact .some (.picked hpub)

theorem Writes.atomic (hs : (manager env).Reach (fun s a => recreates s a = false) s) {i : Nat}
    {op : Op} {doc : Config} {fresh : TaskId} (hi : s.ops[i]? = some op)
    (h : Writes env s i a op doc fresh) (hstored : s.store[doc.name]? = some stored)
    (hv : stored.version = doc.version) : Atomic env (some stored) (some doc.bump) := by
  have hmem := List.mem_of_getElem? hi
  have hwf := (wellFormed_of_reach hs).op op hmem
  obtain ⟨read, hread⟩ := h.doc?
  obtain ⟨hname, hversion⟩ := h.frame hread
  rw [hname] at hstored
  have hsees : op.Sees stored := (coherent_of_reach hs hmem read hread).commit hstored
    (hv.trans hversion)
  cases h with
  | upsert =>
    cases hsees
    exact .upsert
  | pending h =>
    cases hsees
    exact .pending hwf h
  | @scheduled p hphase =>
    cases hread
    have hfollows := (follows_of_reach hs hmem).commit hstored hv
    rw [hfollows.frame]
    refine .scheduled hsees.state (hsees.visited_of_follows hfollows) (fun hne => ?_)
    have hfinal : p.phase = .writeFinal := by
      by_contra hphase
      exact hne (hwf.state hphase)
    exact ⟨hfollows.final hfinal, hwf.final hfinal⟩
  | idle h =>
    cases hsees
    exact .idle hwf h
  | process h =>
    cases hsees
    exact .process h
  | markNode h =>
    cases hsees
    exact .markNode h
  | updateTargetSize h =>
    cases hsees
    exact .updateTargetSize h

theorem Transition.atomic (hs : (manager env).Reach (fun s a => recreates s a = false) s)
    (h : Transition env s a s') (name : String) :
    s'.store[name]? = s.store[name]? ∨ Atomic env s.store[name]? s'.store[name]? := by
  have hwf := wellFormed_of_reach hs
  cases h with
  | start _ => exact .inl rfl
  | finish _ _ => exact .inl rfl
  | advance _ _ => exact .inl rfl
  | write hi hw hstored hv =>
    dsimp only
    rw [System.write_store, GoMap.getElem?_insert]
    split
    next hname =>
      subst hname
      rw [hstored]
      exact .inr (hw.atomic hs hi hstored hv)
    next => exact .inl rfl
  | create _ hnone =>
    dsimp only
    rw [GoMap.getElem?_insert]
    split
    next hname =>
      subst hname
      rw [hnone]
      exact .inr .create
    next => exact .inl rfl
  | mark hstored =>
    dsimp only
    rw [GoMap.getElem?_insert]
    split
    next hname =>
      subst hname
      rw [hstored]
      exact .inr .mark
    next => exact .inl rfl
  | delete hi hdelete hstored hv =>
    dsimp only
    rw [GoMap.getElem?_erase]
    split
    next hname =>
      subst hname
      have hsees := (coherent_of_reach hs (List.mem_of_getElem? hi) _ rfl).commit hstored hv
      cases hsees
      rw [hstored]
      exact .inr (.delete hdelete)
    next => exact .inl rfl

/--
No update is lost: whatever operations come between the read and the write of another one, a config
is what operations make of it that take place one after the other.
-/
theorem operations_are_atomic (hs : (manager env).Reach (fun s a => recreates s a = false) s)
    (name : String) : Relation.ReflTransGen (Atomic env) none s.store[name]? := by
  induction hs with
  | init => simpa [manager, System.init] using Relation.ReflTransGen.refl
  | step hs _ hstep ih =>
    obtain heq | hatomic := (step_transition hstep).atomic hs name
    · rw [heq]
      exact ih
    · exact ih.tail hatomic

theorem operations_are_atomic_demo :
    (Demo.redelivered.store["demo"]?).isSome = true
      ∧ Relation.ReflTransGen (Atomic Demo.env) none Demo.redelivered.store["demo"]? :=
  ⟨rfl, operations_are_atomic Demo.redelivered_reach "demo"⟩

/--
The state of a manifest moves along `StateTransitionMap`, and leaves `Scheduled` only when every
cluster is done or has failed.
-/
structure StateTracked (doc doc' : Config) : Prop where
  valid : validStateTransition doc.manifest.state doc'.manifest.state = true
  finished : doc.manifest.state = .scheduled → doc'.manifest.state ≠ .scheduled →
    ∀ (c : String) (st : ClusterState), doc'.clusters[c]? = some st → ClusterState.Finished st

theorem StateTracked.of_eq {doc doc' : Config} (h : doc'.manifest.state = doc.manifest.state) :
    StateTracked doc doc' where
  valid := by
    rw [h]
    cases doc.manifest.state <;> rfl
  finished hstate hne := absurd (h.trans hstate) hne

theorem Atomic.stateTracked {doc doc' : Config} (h : Atomic env (some doc) (some doc')) :
    StateTracked doc doc' := by
  cases h with
  | @upsert r _ =>
    refine .of_eq ?_
    rw [Config.bump_manifest]
    unfold UpsertManifestRequest.apply
    split <;> rfl
  | mark => exact .of_eq rfl
  | pending hstate h =>
    obtain ⟨_, _, result, _, _, happly⟩ := watchForPendingDocuments_eq_some h
    refine ⟨?_, fun h => by rw [hstate] at h; cases h⟩
    rw [Config.bump_manifest, (applyScheduleResult_eq_some happly).state, hstate]
    split <;> rfl
  | @scheduled _ clusters state hstate _ hfinal =>
    refine ⟨?_, fun _ hne => (hfinal hne).2⟩
    rw [Config.bump_manifest, hstate]
    by_cases hne : state = .scheduled
    · rw [hne]
      rfl
    · obtain rfl | rfl := (hfinal hne).1 <;> rfl
  | process h =>
    obtain ⟨_, _, _, _, _, _, _, _, rfl⟩ := processTask_eq_some h
    exact .of_eq rfl
  | markNode h =>
    obtain ⟨_, _, _, _, rfl⟩ := modifyConfigNodePool_eq_ok h
    exact .of_eq rfl
  | updateTargetSize h =>
    obtain ⟨_, _, _, _, rfl⟩ := modifyConfigNodePool_eq_ok h
    exact .of_eq rfl
  | idle hstate h =>
    obtain ⟨_, rfl⟩ := watchForDoneOrErrorDocuments_update h
    obtain hstate | hstate := hstate
    · exact ⟨by rw [hstate]; rfl, fun h => by rw [hstate] at h; cases h⟩
    · exact ⟨by rw [hstate]; rfl, fun h => by rw [hstate] at h; cases h⟩

theorem manifest_state_is_tracked
    (hs : (manager env).Reach (fun s a => recreates s a = false) s)
    (hstep : step env s a = some s') {name : String} {doc doc' : Config}
    (hdoc : s.store[name]? = some doc) (hdoc' : s'.store[name]? = some doc') :
    StateTracked doc doc' := by
  obtain heq | hatomic := (step_transition hstep).atomic hs name
  · rw [hdoc, hdoc'] at heq
    cases heq
    exact .of_eq rfl
  · rw [hdoc, hdoc'] at hatomic
    exact hatomic.stateTracked

end

namespace Demo

def settling : List Action :=
  [.upsertManifest (request noClusters), .proceed 0, .watchPending "demo",
    .reconcile 0 inputs (some ∅), .watchScheduled "demo", .proceed 0]

theorem settling_isSome :
    (((manager env).guard notRecreated).run (manager env).init settling).isSome = true := by
  decide

def settled : System :=
  (((manager env).guard notRecreated).run (manager env).init settling).get settling_isSome

theorem settled_reach : (manager env).Reach (fun s a => recreates s a = false) settled :=
  (Machine.Reach.get_run_guard settling_isSome).mono (fun _ _ => notRecreated_iff.mp)

end Demo

theorem manifest_state_is_tracked_demo :
    ∃ s' doc doc', step Demo.env Demo.settled (.proceed 0) = some s'
      ∧ Demo.settled.store["demo"]? = some doc ∧ s'.store["demo"]? = some doc'
      ∧ doc.manifest.state = .scheduled ∧ doc'.manifest.state = .done ∧ StateTracked doc doc' := by
  have hrun : ((step Demo.env Demo.settled (.proceed 0)).bind (fun s' =>
      (Demo.settled.store["demo"]?).bind (fun doc => (s'.store["demo"]?).map (fun doc' =>
        decide (doc.manifest.state = .scheduled ∧ doc'.manifest.state = .done))))) = some true := by
    decide
  obtain ⟨s', hs', hrun⟩ := Option.bind_eq_some_iff.mp hrun
  obtain ⟨doc, hdoc, hrun⟩ := Option.bind_eq_some_iff.mp hrun
  obtain ⟨doc', hdoc', hrun⟩ := Option.map_eq_some_iff.mp hrun
  have hstates := of_decide_eq_true hrun
  exact ⟨s', doc, doc', hs', hdoc, hdoc', hstates.1, hstates.2,
    manifest_state_is_tracked Demo.settled_reach hs' hdoc hdoc'⟩

end Manager

end Claudie
