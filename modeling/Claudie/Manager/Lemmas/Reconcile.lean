import Claudie.Manager.Watchers

/-!
What the reconciliation of a cluster can end with, and how it carries over to the whole config.
-/

namespace Claudie

def ClusterState.checked (state : ClusterState) (current : Clusters) : ClusterState :=
  if state.inFlight.isEmpty then { state with current } else state

@[simp]
theorem ClusterState.checked_inFlight (state : ClusterState) (current : Clusters) :
    (state.checked current).inFlight = state.inFlight := by
  unfold checked
  split <;> rfl

@[simp]
theorem ClusterState.checked_state (state : ClusterState) (current : Clusters) :
    (state.checked current).state = state.state := by
  unfold checked
  split <;> rfl

theorem ClusterState.checked_of_ne_nil {state : ClusterState} (h : state.inFlight ≠ [])
    (current : Clusters) : state.checked current = state := by
  simp [checked, h]

namespace Manager

structure Comparison where
  current : Clusters
  hc : HealthCheckStatus
  diff : DiffResult

structure Compared (inp : ReconcileInput) (state : ClusterState) (desired : Clusters)
    (c : Comparison) : Prop where
  healthCheck : healthCheck inp.probe state.base = .ok (c.hc, c.current)
  diff : diff inp.ord c.current (state.target desired) = .ok c.diff

namespace Comparison

variable (c : Comparison) (inp : ReconcileInput) (state : ClusterState) (desired : Clusters)

def update (id : TaskId) : Outcome (Option TaskEvent) :=
  handleUpdate inp.ord inp.entropy id c.hc c.diff c.current (state.target desired)

def unknown (newUUID : TaskId) (ns : UnknownNodeStatus) : Outcome (Option TaskEvent) :=
  handleClusterUnknownNodes inp.ord newUUID c.current desired c.diff ns c.hc

def reach (newUUID : TaskId) (ns : UnknownNodeStatus) : Outcome Reachability :=
  reachability inp.ord newUUID state.inFlight c.current desired c.diff ns c.hc

end Comparison

inductive DiffStep (inp : ReconcileInput) (id newUUID : TaskId) (state : ClusterState)
    (desired : Clusters) (c : Comparison) : ClusterState → ScheduleResult → Prop
  | unchecked {err : String} :
    checkNodesStatus inp.ord inp.probe c.current c.hc = .error (.error err) →
    DiffStep inp id newUUID state desired c (ClusterState.fail (state.checked c.current)
      ("Can't schedule task, failed to determine reachability of nodes "
        ++ s!"of the clusters: {err}")) .notReady
  -- the in-flight task can't be rolled back.
  | wait {ns : UnknownNodeStatus} {err : String} :
    checkNodesStatus inp.ord inp.probe c.current c.hc = .ok ns →
    shouldRescheduleInFlight state.inFlight.head? = true →
    c.reach inp state desired newUUID ns = .ok (.waitForUser err) →
    DiffStep inp id newUUID state desired c (ClusterState.fail state err) .notReady
  | retry {ns : UnknownNodeStatus} :
    checkNodesStatus inp.ord inp.probe c.current c.hc = .ok ns →
    shouldRescheduleInFlight state.inFlight.head? = true →
    c.reach inp state desired newUUID ns = .ok .proceed →
    DiffStep inp id newUUID state desired c
      (ClusterState.waitForPickup (rescheduleInFlight state newUUID)) .reschedule
  | push {ns : UnknownNodeStatus} {next : TaskEvent} :
    checkNodesStatus inp.ord inp.probe c.current c.hc = .ok ns →
    c.reach inp state desired newUUID ns = .ok (.push next) →
    DiffStep inp id newUUID state desired c
      (ClusterState.push (state.checked c.current) next state.inFlight) .reschedule
  -- the difference of the states leads to a task.
  | waitWithTask {ns : UnknownNodeStatus} {te : TaskEvent} {err : String} :
    checkNodesStatus inp.ord inp.probe c.current c.hc = .ok ns →
    shouldRescheduleInFlight state.inFlight.head? = false →
    c.update inp state desired id = .ok (some te) →
    c.reach inp state desired newUUID ns = .ok (.waitForUser err) →
    DiffStep inp id newUUID state desired c
      (ClusterState.fail { state.checked c.current with inFlight := [te] } err) .notReady
  | schedule {ns : UnknownNodeStatus} {te : TaskEvent} :
    checkNodesStatus inp.ord inp.probe c.current c.hc = .ok ns →
    shouldRescheduleInFlight state.inFlight.head? = false →
    c.update inp state desired id = .ok (some te) →
    c.reach inp state desired newUUID ns = .ok .proceed →
    DiffStep inp id newUUID state desired c
      (ClusterState.push (state.checked c.current) te []) .reschedule
  -- it does not, and neither of the states is the one of a task.
  | clear {ns : UnknownNodeStatus} :
    checkNodesStatus inp.ord inp.probe c.current c.hc = .ok ns →
    shouldRescheduleInFlight state.inFlight.head? = false → state.inFlight ≠ [] →
    c.update inp state desired id = .ok none →
    DiffStep inp id newUUID state desired c { state with inFlight := [] } .notReady
  | waitIdle {ns : UnknownNodeStatus} {err : String} :
    checkNodesStatus inp.ord inp.probe c.current c.hc = .ok ns → state.inFlight = [] →
    c.update inp state desired id = .ok none →
    c.reach inp state desired newUUID ns = .ok (.waitForUser err) →
    DiffStep inp id newUUID state desired c (ClusterState.fail (state.checked c.current) err)
      .notReady
  | refresh {state' : ClusterState} {result : ScheduleResult} :
    state.inFlight = [] → c.update inp state desired id = .ok none →
    refreshInfrastructure (state.checked c.current) id = .ok (state', result) →
    DiffStep inp id newUUID state desired c state' result

inductive ReconcileStep (inp : ReconcileInput) (id newUUID : TaskId) (state : ClusterState)
    (desired : Option Clusters) : ClusterState → ScheduleResult → Prop
  | empty :
    presentDesired desired = none → Clusters.isEmpty state.current = true → state.inFlight = [] →
    ReconcileStep inp id newUUID state desired (ClusterState.waitForPickup state) .noReschedule
  | destroyCurrent {te : TaskEvent} :
    presentDesired desired = none → Clusters.isEmpty state.current = false → state.inFlight = [] →
    scheduleDeleteCluster id state.current = .ok te →
    ReconcileStep inp id newUUID state desired (ClusterState.push state te []) .reschedule
  | destroyUnion {head te : TaskEvent} {lower : List TaskEvent} {del : Clusters} :
    presentDesired desired = none → state.inFlight = head :: lower →
    clustersUnion inp.ord state.current head.task.clusters = .ok del →
    scheduleDeleteCluster id del = .ok te →
    ReconcileStep inp id newUUID state desired (ClusterState.push state te []) .reschedule
  | create {d d' : Clusters} {te : TaskEvent} :
    presentDesired desired = some d → Clusters.isEmpty state.current = true → state.inFlight = [] →
    chooseApiEndpoint d = .ok d' → scheduleCreateCluster id d' = .ok te →
    ReconcileStep inp id newUUID state desired (ClusterState.push state te []) .reschedule
  | deleteCreated {d : Clusters} {head te : TaskEvent} {lower : List TaskEvent} :
    presentDesired desired = some d → Clusters.isEmpty state.current = true →
    state.inFlight = head :: lower → scheduleDeleteCluster id head.task.clusters = .ok te →
    ReconcileStep inp id newUUID state desired (ClusterState.push state te []) .reschedule
  | resetTargetSizes {d : Clusters} {state' : ClusterState} :
    presentDesired desired = some d → Clusters.isEmpty state.current = false →
    state.inFlight = [] → ClusterState.resetTargetSizes state = .ok state' →
    ReconcileStep inp id newUUID state desired state' .notReady
  | credentials {d : Clusters} :
    presentDesired desired = some d → Clusters.isEmpty state.current = false →
    (ClusterState.updateCredentials state d).2 = true →
    ReconcileStep inp id newUUID state desired (ClusterState.updateCredentials state d).1 .notReady
  | compare {d : Clusters} {c : Comparison} {state' : ClusterState} {result : ScheduleResult} :
    presentDesired desired = some d → Clusters.isEmpty state.current = false →
    Compared inp state d c → DiffStep inp id newUUID state d c state' result →
    ReconcileStep inp id newUUID state desired state' result

section

variable {inp : ReconcileInput} {id newUUID : TaskId} {state state' : ClusterState}
  {result : ScheduleResult}

theorem reconciliateIdle_step {d : Clusters} {c : Comparison} {ns : UnknownNodeStatus}
    (hns : checkNodesStatus inp.ord inp.probe c.current c.hc = .ok ns)
    (hresched : shouldRescheduleInFlight state.inFlight.head? = false)
    (hupdate : c.update inp state d id = .ok none)
    (h : reconciliateIdle (state.checked c.current) id ns (c.reach inp state d newUUID ns)
      = .ok (state', result)) :
    DiffStep inp id newUUID state d c state' result := by
  unfold reconciliateIdle at h
  split at h
  next te lower hin =>
    rw [ClusterState.checked_inFlight] at hin
    have hne : state.inFlight ≠ [] := by simp [hin]
    rw [ClusterState.checked_of_ne_nil hne] at h
    cases h
    exact .clear hns hresched hne hupdate
  next hin =>
    rw [ClusterState.checked_inFlight] at hin
    split at h
    next => exact .refresh hin hupdate h
    next =>
      obtain ⟨reach, hreach, h⟩ := Outcome.bind_eq_ok.mp h
      cases reach with
      | waitForUser err =>
        cases h
        exact .waitIdle hns hin hupdate hreach
      | push next =>
        cases h
        rw [← hin]
        exact .push hns hreach
      | proceed => exact .refresh hin hupdate h

theorem reconciliateDiff_step {d : Clusters}
    (h : reconciliateDiff inp id newUUID state d = .ok (state', result)) :
    ∃ c, Compared inp state d c ∧ DiffStep inp id newUUID state d c state' result := by
  unfold reconciliateDiff at h
  obtain ⟨⟨hc, current⟩, hhealth, h⟩ := Outcome.bind_eq_ok.mp h
  obtain ⟨diff, hdiff, h⟩ := Outcome.bind_eq_ok.mp h
  refine ⟨⟨current, hc, diff⟩, ⟨hhealth, hdiff⟩, ?_⟩
  dsimp only at h
  split at h
  next => cases h
  next err hns =>
    cases h
    exact .unchecked hns
  next ns hns =>
    split at h
    next hresched =>
      have hne : state.inFlight ≠ [] := by
        intro hnil
        simp [hnil, shouldRescheduleInFlight] at hresched
      have hchecked := ClusterState.checked_of_ne_nil hne current
      unfold ClusterState.checked at hchecked
      rw [hchecked] at h
      obtain ⟨reach, hreach, h⟩ := Outcome.bind_eq_ok.mp h
      cases reach with
      | waitForUser err =>
        cases h
        exact .wait hns hresched hreach
      | push next =>
        cases h
        have hpush : DiffStep inp id newUUID state d ⟨current, hc, diff⟩ _ _ := .push hns hreach
        rwa [ClusterState.checked_of_ne_nil hne] at hpush
      | proceed =>
        cases h
        exact .retry hns hresched hreach
    next hresched =>
      rw [Bool.not_eq_true] at hresched
      obtain ⟨update, hupdate, h⟩ := Outcome.bind_eq_ok.mp h
      cases update with
      | none => exact reconciliateIdle_step hns hresched hupdate h
      | some te =>
        obtain ⟨reach, hreach, h⟩ := Outcome.bind_eq_ok.mp h
        cases reach with
        | waitForUser err =>
          cases h
          exact .waitWithTask hns hresched hupdate hreach
        | push next =>
          cases h
          exact .push hns hreach
        | proceed =>
          cases h
          exact .schedule hns hresched hupdate hreach

theorem reconciliateCluster_step {desired : Option Clusters}
    (h : reconciliateCluster inp id newUUID state desired = .ok (state', result)) :
    ReconcileStep inp id newUUID state desired state' result := by
  unfold reconciliateCluster at h
  split at h
  next hdesired =>
    split at h
    next hempty =>
      cases h
      rw [Bool.and_eq_true, List.isEmpty_iff] at hempty
      exact .empty hdesired hempty.1 hempty.2
    next hempty =>
      unfold reconciliateDestroy at h
      dsimp only at h
      split at h
      next head lower hin =>
        obtain ⟨del, hdel, h⟩ := Outcome.bind_eq_ok.mp h
        obtain ⟨te, hte, h⟩ := Outcome.bind_eq_ok.mp h
        cases h
        exact .destroyUnion hdesired hin hdel hte
      next hin =>
        obtain ⟨del, hdel, h⟩ := Outcome.bind_eq_ok.mp h
        obtain ⟨te, hte, h⟩ := Outcome.bind_eq_ok.mp h
        cases h
        cases hdel
        simp only [hin, List.isEmpty_nil, Bool.and_true, Bool.not_eq_true] at hempty
        exact .destroyCurrent hdesired hempty hin hte
  next d hdesired =>
    split at h
    next hempty =>
      unfold reconciliateCreate at h
      split at h
      next head lower hin =>
        obtain ⟨te, hte, h⟩ := Outcome.bind_eq_ok.mp h
        cases h
        exact .deleteCreated hdesired hempty hin hte
      next hin =>
        obtain ⟨d', hd', h⟩ := Outcome.bind_eq_ok.mp h
        obtain ⟨te, hte, h⟩ := Outcome.bind_eq_ok.mp h
        cases h
        exact .create hdesired hempty hin hd' hte
    next hempty =>
      rw [Bool.not_eq_true] at hempty
      unfold reconciliateUpdate at h
      split at h
      next hcounters =>
        rw [Bool.and_eq_true, List.isEmpty_iff] at hcounters
        obtain ⟨st, hst, h⟩ := Outcome.bind_eq_ok.mp h
        cases h
        exact .resetTargetSizes hdesired hempty hcounters.1 hst
      next =>
        dsimp only at h
        split at h
        next hcred =>
          cases h
          exact .credentials hdesired hempty hcred
        next =>
          obtain ⟨c, hc, hstep⟩ := reconciliateDiff_step h
          exact .compare hdesired hempty hc hstep

end

def Enters (clusters : GoMap ClusterState) (name : String) (state : ClusterState) : Prop :=
  clusters[name]? = some state ∨ (clusters[name]? = none ∧ state = emptyClusterState)

theorem enters_of_populateEntriesForNewClusters {clusters : GoMap ClusterState}
    {desired : GoMap Clusters} {name : String} {state : ClusterState}
    (h : (populateEntriesForNewClusters clusters desired)[name]? = some state) :
    Enters clusters name state := by
  unfold populateEntriesForNewClusters at h
  rw [Std.ExtTreeMap.foldl_eq_foldl_toList] at h
  generalize desired.toList = l at h
  induction l generalizing clusters with
  | nil => exact .inl h
  | cons kv l ih =>
    rw [List.foldl_cons] at h
    obtain hin | ⟨hnone, rfl⟩ := ih h
    · rw [GoMap.getElem?_insertIfNew] at hin
      split at hin
      next hnew =>
        cases hin
        exact .inr ⟨hnew.2, rfl⟩
      next => exact .inl hin
    · rw [GoMap.getElem?_insertIfNew] at hnone
      split at hnone
      next => cases hnone
      next => exact .inr ⟨hnone, rfl⟩

theorem size_populateEntriesForNewClusters (clusters : GoMap ClusterState)
    (desired : GoMap Clusters) :
    (populateEntriesForNewClusters clusters desired).size ≤ clusters.size + desired.size := by
  have fold : ∀ (l : List (String × Clusters)) (m : GoMap ClusterState),
      (l.foldl (fun m kv => m.insertIfNew kv.1 emptyClusterState) m).size ≤ m.size + l.length := by
    intro l
    induction l with
    | nil => simp
    | cons kv l ih =>
      intro m
      rw [List.foldl_cons, List.length_cons]
      have hsize : (m.insertIfNew kv.1 emptyClusterState).size ≤ m.size + 1 :=
        Std.ExtTreeMap.size_insertIfNew_le
      have := ih (m.insertIfNew kv.1 emptyClusterState)
      omega
  unfold populateEntriesForNewClusters
  have hfold := fold desired.toList clusters
  rw [Std.ExtTreeMap.length_toList] at hfold
  rw [Std.ExtTreeMap.foldl_eq_foldl_toList]
  exact hfold

theorem finalResult_of_mem {results : List ScheduleResult} {r : ScheduleResult} (h : r ∈ results) :
    (finalResult results = .noReschedule → r = .noReschedule)
      ∧ (r = .reschedule → finalResult results = .reschedule) := by
  unfold finalResult
  constructor
  · intro heq
    split at heq
    next => cases heq
    next =>
      split at heq
      next => cases heq
      next =>
        split at heq
        next hall => simpa using List.all_eq_true.mp hall r h
        next =>
          split at heq
          next => cases heq
          next => cases heq
  · intro heq
    subst heq
    rw [if_pos (by simpa using h)]

section

variable {inputs : String → ReconcileInput} {fresh : TaskId} {desired : GoMap Clusters}
  {result : ScheduleResult}

structure ReconciledEntry (inputs : String → ReconcileInput) (fresh : TaskId)
    (clusters : GoMap ClusterState) (desired : GoMap Clusters) (result : ScheduleResult)
    (name : String) (state' : ClusterState) (j : Nat) (state : ClusterState) (r : ScheduleResult) :
    Prop where
  index : (populateEntriesForNewClusters clusters desired).toList[j]? = some (name, state)
  enters : Enters clusters name state
  step : ReconcileStep (inputs name) (fresh + 2 * j) (fresh + 2 * j + 1) state desired[name]? state' r
  noReschedule : result = .noReschedule → r = .noReschedule
  reschedule : r = .reschedule → result = .reschedule

theorem ReconciledEntry.bound {clusters : GoMap ClusterState} {name : String}
    {state state' : ClusterState} {j : Nat} {r : ScheduleResult}
    (h : ReconciledEntry inputs fresh clusters desired result name state' j state r) :
    j < clusters.size + desired.size := by
  have hlt := (List.getElem?_eq_some_iff.mp h.index).1
  rw [Std.ExtTreeMap.length_toList] at hlt
  exact Nat.lt_of_lt_of_le hlt (size_populateEntriesForNewClusters _ _)

theorem reconciliate_entry {clusters clusters' : GoMap ClusterState}
    (h : reconciliate inputs fresh clusters desired = .ok (clusters', result)) {name : String}
    {state' : ClusterState} (hst : clusters'[name]? = some state') :
    ∃ j state r, ReconciledEntry inputs fresh clusters desired result name state' j state r := by
  unfold reconciliate at h
  obtain ⟨results, hresults, h⟩ := Outcome.bind_eq_ok.mp h
  cases h
  rw [Std.ExtTreeMap.getElem?_map, Option.map_eq_some_iff] at hst
  obtain ⟨⟨st, r⟩, hr, rfl⟩ := hst
  obtain ⟨j, state, hj, hrec⟩ := GoMap.mapOutcome_of_getElem? hresults hr
  have hfinal := finalResult_of_mem (List.mem_map_of_mem (f := (·.2.2))
    (Std.ExtTreeMap.mem_toList_iff_getElem?_eq_some.mpr hr))
  refine ⟨j, state, r, hj, ?_, reconciliateCluster_step hrec, hfinal.1, hfinal.2⟩
  exact enters_of_populateEntriesForNewClusters (GoMap.getElem?_of_toList hj)

theorem watchForPendingDocuments_eq_some {fromManifest : Option (GoMap DesiredCluster)}
    {cfg cfg' : Config}
    (h : watchForPendingDocuments inputs fresh fromManifest cfg = .ok (some cfg')) :
    ∃ desired clusters result, createDesiredState fromManifest cfg = some desired
      ∧ reconciliate inputs fresh (cfg.clusters.map (fun _ s => s.convertToGRPC)) desired
          = .ok (clusters, result)
      ∧ applyScheduleResult cfg clusters result = some cfg' := by
  unfold watchForPendingDocuments at h
  dsimp only at h
  split at h
  next => cases h
  next desired hdesired =>
    split at h
    next =>
      obtain ⟨⟨clusters, result⟩, hrec, h⟩ := Outcome.bind_eq_ok.mp h
      refine ⟨desired, clusters, result, hdesired, hrec, ?_⟩
      simp only [pure, Except.pure, Except.ok.injEq] at h
      rw [← h]
      cases result <;> rfl
    next => cases h

end

section credentials

theorem updateProviderCredentials_of_not_updated {current desired : Provider}
    (h : (updateProviderCredentials current desired).2 = false) :
    (updateProviderCredentials current desired).1 = current := by
  unfold updateProviderCredentials at h ⊢
  split
  next => rfl
  next hne =>
    rw [if_neg hne] at h
    split
    next hcopy => simp [hcopy] at h
    next => rfl

theorem updateNodePoolCredentials_of_not_updated {current desired : NodePool}
    (h : (updateNodePoolCredentials current desired).2 = false) :
    (updateNodePoolCredentials current desired).1 = current := by
  obtain ⟨type, name, nodes, isControl, labels, taints, annotations, sshPort⟩ := current
  unfold updateNodePoolCredentials at h ⊢
  cases type with
  | dynamic c =>
    cases hd : desired.type with
    | dynamic d =>
      simp only [hd] at h ⊢
      rw [updateProviderCredentials_of_not_updated h]
    | static d => rfl
  | static c =>
    cases hd : desired.type with
    | dynamic d => rfl
    | static d =>
      simp only [hd, ne_eq, decide_not, Bool.not_eq_false', decide_eq_true_eq] at h ⊢
      rw [h]

theorem map_fst_of_not_updated {α : Type} {l : List α} {f : α → α × Bool}
    (h : (l.map f).any (·.2) = false) (hf : ∀ a, (f a).2 = false → (f a).1 = a) :
    (l.map f).map (·.1) = l := by
  induction l with
  | nil => rfl
  | cons a l ih =>
    rw [List.map_cons, List.any_cons, Bool.or_eq_false_iff] at h
    rw [List.map_cons, List.map_cons, hf a h.1, ih h.2]

theorem updateNodePoolsCredentials_of_not_updated {current desired : List NodePool}
    (h : (updateNodePoolsCredentials current desired).2 = false) :
    (updateNodePoolsCredentials current desired).1 = current := by
  refine map_fst_of_not_updated h (fun cnp hcnp => ?_)
  split at hcnp
  next => exact updateNodePoolCredentials_of_not_updated hcnp
  next => rfl

theorem updateLbCredentials_of_not_updated {clb dlb : LBcluster}
    (h : (updateLbCredentials clb dlb).2 = false) : (updateLbCredentials clb dlb).1 = clb := by
  unfold updateLbCredentials at h ⊢
  have hnps : (updateNodePoolsCredentials clb.clusterInfo.nodePools
      dlb.clusterInfo.nodePools).2 = false := by
    dsimp only at h
    split at h
    next => exact (Bool.or_eq_false_iff.mp h).1
    next => exact h
  have hlb : LBcluster.withNodePools clb (updateNodePoolsCredentials clb.clusterInfo.nodePools
      dlb.clusterInfo.nodePools).1 = clb := by
    rw [updateNodePoolsCredentials_of_not_updated hnps]
    rfl
  simp only [hlb] at h ⊢
  split
  next cdns ddns hc hd =>
    simp only [hc, hd, Bool.or_eq_false_iff] at h
    rw [updateProviderCredentials_of_not_updated h.2, ← hc]
  next => rfl

theorem updateCredentials_of_not_updated {current desired : Clusters}
    (h : (updateCredentials current desired).2 = false) :
    (updateCredentials current desired).1 = current := by
  obtain ⟨k8s, lbs⟩ := current
  obtain ⟨hk8s, hlbs⟩ := Bool.or_eq_false_iff.mp h
  have hk8s' : (updateK8sCredentials k8s desired.k8s).1 = k8s := by
    cases k8s with
    | none => rfl
    | some k8s =>
      have hnps := updateNodePoolsCredentials_of_not_updated hk8s
      simp only [updateK8sCredentials, hnps]
      rfl
  have hlbs' : (updateLbsCredentials lbs desired.loadBalancers).1 = lbs := by
    refine map_fst_of_not_updated hlbs (fun clb hclb => ?_)
    split at hclb
    next => exact updateLbCredentials_of_not_updated hclb
    next => rfl
  change (⟨(updateK8sCredentials k8s desired.k8s).1,
    (updateLbsCredentials lbs desired.loadBalancers).1⟩ : Clusters) = ⟨k8s, lbs⟩
  rw [hk8s', hlbs']

end credentials

end Manager

end Claudie
