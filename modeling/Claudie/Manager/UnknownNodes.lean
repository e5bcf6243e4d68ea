import Claudie.Manager.Priorities

/-!
What a reconciliation does while nodes of the cluster are unreachable.
-/

namespace Claudie

namespace Manager

section

variable {inp : ReconcileInput} {id newUUID : TaskId} {state : ClusterState} {d : Clusters}
  {c : Comparison} {ns : UnknownNodeStatus} {err : String}

structure WaitsForUser (inp : ReconcileInput) (id newUUID : TaskId) (state : ClusterState)
    (d : Clusters) (c : Comparison) (ns : UnknownNodeStatus) (err : String) : Prop where
  desired : d.isEmpty = false
  current : state.current.isEmpty = false
  counters : (state.inFlight.isEmpty && !(failedScaleUps state.counters).isEmpty) = false
  credentials : (ClusterState.updateCredentials state d).2 = false
  compared : Compared inp state d c
  checked : checkNodesStatus inp.ord inp.probe c.current c.hc = .ok ns
  unknown : handleClusterUnknownNodes inp.ord newUUID c.current d c.diff ns c.hc
    = .error (.error err)
  -- a task that is rolled back completely is given up before the nodes are looked at.
  asked : shouldRescheduleInFlight state.inFlight.head? = false →
    ∃ update, handleUpdate inp.ord inp.entropy id c.hc c.diff c.current (state.target d)
        = .ok update
      ∧ (update = none → state.inFlight = [] ∧ ns.isEmpty = false)

theorem WaitsForUser.reach (h : WaitsForUser inp id newUUID state d c ns err) :
    reachability inp.ord newUUID state.inFlight c.current d c.diff ns c.hc
      = .ok (.waitForUser err) := by
  unfold reachability
  rw [h.unknown]
  rfl

-- The task that was scheduled just before stays in flight.
theorem WaitsForUser.reconciliateDiff_eq (h : WaitsForUser inp id newUUID state d c ns err) :
    reconciliateDiff inp id newUUID state d =
      if shouldRescheduleInFlight state.inFlight.head? then
        .ok (ClusterState.fail (state.checked c.current) err, .notReady)
      else
        match handleUpdate inp.ord inp.entropy id c.hc c.diff c.current (state.target d) with
        | .ok (some te) =>
          .ok (ClusterState.fail { state.checked c.current with inFlight := [te] } err, .notReady)
        | _ => .ok (ClusterState.fail (state.checked c.current) err, .notReady) := by
  unfold reconciliateDiff
  rw [h.compared.healthCheck]
  simp only [bind, Except.bind, h.compared.diff, h.checked, h.reach]
  cases hresched : shouldRescheduleInFlight state.inFlight.head? with
  | true => rfl
  | false =>
    obtain ⟨update, hupdate, hnone⟩ := h.asked hresched
    rw [hupdate]
    cases update with
    | some te => rfl
    | none =>
      obtain ⟨hin, hns⟩ := hnone rfl
      simp only [reconciliateIdle, hin, hns, Bool.false_eq_true, if_false]
      simp only [ClusterState.checked, hin, ClusterState.fail]
      rfl

theorem WaitsForUser.reconciliateCluster_eq (h : WaitsForUser inp id newUUID state d c ns err) :
    reconciliateCluster inp id newUUID state (some d) = reconciliateDiff inp id newUUID state d := by
  have hpresent : presentDesired (some d) = some d := by simp [presentDesired, h.desired]
  simp only [reconciliateCluster, hpresent, h.current, reconciliateUpdate, h.counters,
    h.credentials, Bool.false_eq_true, if_false]

/--
A cluster that waits for the user keeps its in-flight task unless a task is scheduled just before the
nodes are looked at.
-/
theorem waiting_keeps_in_flight (h : WaitsForUser inp id newUUID state d c ns err)
    (hid : ∀ te ∈ state.inFlight, te.id ≠ id) :
    ∃ state', reconciliateCluster inp id newUUID state (some d) = .ok (state', .notReady)
      ∧ state'.state.status = .error ∧ state'.state.description = err
      ∧ (state'.inFlight = state.inFlight
        ↔ shouldRescheduleInFlight state.inFlight.head? = true
          ∨ handleUpdate inp.ord inp.entropy id c.hc c.diff c.current (state.target d)
            = .ok none) := by
  have hkept := ClusterState.checked_inFlight state c.current
  rw [h.reconciliateCluster_eq, h.reconciliateDiff_eq]
  cases hresched : shouldRescheduleInFlight state.inFlight.head? with
  | true => exact ⟨_, rfl, rfl, rfl, fun _ => .inl rfl, fun _ => hkept⟩
  | false =>
    obtain ⟨update, hupdate, _⟩ := h.asked hresched
    rw [hupdate]
    cases update with
    | none => exact ⟨_, rfl, rfl, rfl, fun _ => .inr rfl, fun _ => hkept⟩
    | some te =>
      refine ⟨_, rfl, rfl, rfl, fun hsame => ?_, fun hno => ?_⟩
      · -- the id of the new task is not the one of an old one.
        have hte : te ∈ state.inFlight := by
          rw [← hsame]
          exact List.mem_singleton_self te
        exact absurd (Comparison.update_newUpdate h.compared hupdate).id (hid te hte)
      · obtain hno | hno := hno
        · cases hno
        · cases hno

end

def asksForUser (inp : ReconcileInput) (id : TaskId) (state : ClusterState) (d : Clusters)
    (c : Comparison) (ns : UnknownNodeStatus) : Bool :=
  shouldRescheduleInFlight state.inFlight.head?
    || match handleUpdate inp.ord inp.entropy id c.hc c.diff c.current (state.target d) with
      | .ok (some _) => true
      | .ok none => state.inFlight.isEmpty && !ns.isEmpty
      | .error _ => false

def waitsForUser? (inp : ReconcileInput) (id newUUID : TaskId) (state : ClusterState)
    (d : Clusters) : Option (Comparison × UnknownNodeStatus × String) :=
  match healthCheck inp.probe state.base with
  | .error _ => none
  | .ok (hc, current) =>
    match diff inp.ord current (state.target d) with
    | .error _ => none
    | .ok diff =>
      match checkNodesStatus inp.ord inp.probe current hc with
      | .error _ => none
      | .ok ns =>
        match handleClusterUnknownNodes inp.ord newUUID current d diff ns hc with
        | .error (.error err) =>
          if !d.isEmpty && !state.current.isEmpty
              && !(state.inFlight.isEmpty && !(failedScaleUps state.counters).isEmpty)
              && !(ClusterState.updateCredentials state d).2
              && asksForUser inp id state d ⟨current, hc, diff⟩ ns then
            some (⟨current, hc, diff⟩, ns, err)
          else none
        | _ => none

theorem asksForUser_eq_true {inp : ReconcileInput} {id : TaskId} {state : ClusterState}
    {d : Clusters} {c : Comparison} {ns : UnknownNodeStatus}
    (h : asksForUser inp id state d c ns = true)
    (hresched : shouldRescheduleInFlight state.inFlight.head? = false) :
    ∃ update, handleUpdate inp.ord inp.entropy id c.hc c.diff c.current (state.target d)
        = .ok update
      ∧ (update = none → state.inFlight = [] ∧ ns.isEmpty = false) := by
  unfold asksForUser at h
  rw [hresched, Bool.false_or] at h
  split at h
  next te hupdate => exact ⟨some te, hupdate, fun hnone => by cases hnone⟩
  next hupdate =>
    rw [Bool.and_eq_true, List.isEmpty_iff, Bool.not_eq_true'] at h
    exact ⟨none, hupdate, fun _ => h⟩
  next => cases h

theorem waitsForUser?_eq_some {inp : ReconcileInput} {id newUUID : TaskId} {state : ClusterState}
    {d : Clusters} {c : Comparison} {ns : UnknownNodeStatus} {err : String}
    (h : waitsForUser? inp id newUUID state d = some (c, ns, err)) :
    WaitsForUser inp id newUUID state d c ns err := by
  unfold waitsForUser? at h
  split at h
  next => cases h
  next hc current hhealth =>
    split at h
    next => cases h
    next diff hdiff =>
      split at h
      next => cases h
      next ns hns =>
        split at h
        next err hunknown =>
          rw [Option.ite_none_right_eq_some] at h
          obtain ⟨hcond, h⟩ := h
          cases h
          simp only [Bool.and_eq_true, Bool.not_eq_true'] at hcond
          obtain ⟨⟨⟨⟨hd, hcurrent⟩, hcounters⟩, hcredentials⟩, hasks⟩ := hcond
          exact ⟨hd, hcurrent, hcounters, hcredentials, ⟨hhealth, hdiff⟩, hns, hunknown,
            asksForUser_eq_true hasks⟩
        next => cases h

namespace Demo

namespace Pools

def clusters (version : String) : Clusters := ⟨some (k8s version [control, workers]), []⟩

end Pools

end Demo

theorem waiting_keeps_in_flight_demo :
    ∃ s doc state c ns err state', (manager Demo.Pools.env).Reachable s
      ∧ s.store["demo"]? = some doc ∧ doc.clusters["c1"]? = some state
      ∧ WaitsForUser (Demo.Pools.lostWorker "c1") s.fresh (s.fresh + 1) state
          (Demo.Pools.clusters "1.30.0") c ns err
      ∧ reconciliateCluster (Demo.Pools.lostWorker "c1") s.fresh (s.fresh + 1) state
          (some (Demo.Pools.clusters "1.30.0")) = .ok (state', .notReady)
      ∧ state'.state.description = err := by
  have hrun : ((manager Demo.Pools.env).run (manager Demo.Pools.env).init
      Demo.Pools.creation).bind (fun s => (s.store["demo"]?).bind (fun doc =>
        (doc.clusters["c1"]?).bind (fun state =>
          (waitsForUser? (Demo.Pools.lostWorker "c1") s.fresh (s.fresh + 1) state
            (Demo.Pools.clusters "1.30.0")).map (fun _ => state.inFlight.isEmpty))))
      = some true := by
    decide +kernel
  obtain ⟨s, hs, hrun⟩ := Option.bind_eq_some_iff.mp hrun
  obtain ⟨doc, hdoc, hrun⟩ := Option.bind_eq_some_iff.mp hrun
  obtain ⟨state, hst, hrun⟩ := Option.bind_eq_some_iff.mp hrun
  obtain ⟨⟨c, ns, err⟩, hwaits, hin⟩ := Option.map_eq_some_iff.mp hrun
  rw [List.isEmpty_iff] at hin
  have hwaits := waitsForUser?_eq_some hwaits
  obtain ⟨state', hrec, _, herr, _⟩ := waiting_keeps_in_flight hwaits (by simp [hin])
  exact ⟨s, doc, state, c, ns, err, state', .run .init hs, hdoc, hst, hwaits, hrec, herr⟩

theorem waiting_with_new_task :
    ∃ s doc state c ns err state' te, (manager Demo.Pools.env).Reachable s
      ∧ s.store["demo"]? = some doc ∧ doc.manifest.state = .pending
      ∧ doc.clusters["c1"]? = some state ∧ state.inFlight = []
      ∧ WaitsForUser (Demo.Pools.lostWorker "c1") s.fresh (s.fresh + 1) state
          (Demo.Pools.clusters "1.31.0") c ns err
      ∧ reconciliateCluster (Demo.Pools.lostWorker "c1") s.fresh (s.fresh + 1) state
          (some (Demo.Pools.clusters "1.31.0")) = .ok (state', .notReady)
      ∧ state'.inFlight = [te] ∧ te.task.delta? = some (.upgradeVersion "1.31.0") := by
  have hrun : ((manager Demo.Pools.env).run (manager Demo.Pools.env).init
      (Demo.Pools.creation ++ Demo.Pools.resubmit Demo.Pools.upgraded)).bind (fun s =>
        (s.store["demo"]?).bind (fun doc => (doc.clusters["c1"]?).bind (fun state =>
          (waitsForUser? (Demo.Pools.lostWorker "c1") s.fresh (s.fresh + 1) state
            (Demo.Pools.clusters "1.31.0")).map (fun _ =>
              Outcome.passes (reconciliateCluster (Demo.Pools.lostWorker "c1") s.fresh (s.fresh + 1)
                state (some (Demo.Pools.clusters "1.31.0"))) (fun r =>
                decide (doc.manifest.state = .pending ∧ state.inFlight = [] ∧ r.2 = .notReady
                  ∧ r.1.inFlight.map (·.task.delta?) = [some (.upgradeVersion "1.31.0")]))))))
        = some true := by
    decide +kernel
  obtain ⟨s, hs, hrun⟩ := Option.bind_eq_some_iff.mp hrun
  obtain ⟨doc, hdoc, hrun⟩ := Option.bind_eq_some_iff.mp hrun
  obtain ⟨state, hst, hrun⟩ := Option.bind_eq_some_iff.mp hrun
  obtain ⟨⟨c, ns, err⟩, hwaits, hrun⟩ := Option.map_eq_some_iff.mp hrun
  obtain ⟨⟨state', result⟩, hrec, hrun⟩ := Outcome.passes_iff.mp hrun
  obtain ⟨hpending, hin, hresult, hdeltas⟩ := of_decide_eq_true hrun
  subst hresult
  obtain ⟨te, hin', hdelta⟩ := List.map_eq_singleton_iff.mp hdeltas
  exact ⟨s, doc, state, c, ns, err, state', te, .run .init hs, hdoc, hpending, hst, hin,
    waitsForUser?_eq_some hwaits, hrec, hin', hdelta⟩

end Manager

end Claudie
