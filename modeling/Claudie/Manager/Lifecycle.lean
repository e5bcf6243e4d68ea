import Claudie.Manager.Lemmas.Coherence

/-!
The two checksums of a manifest decide whether a config is reconciled again, left alone, or deleted.
-/

namespace Claudie

namespace Manager

def AllEmpty (doc : Config) : Prop :=
  ∀ (cluster : String) (state : ClusterState), doc.clusters[cluster]? = some state →
    ClusterState.isEmpty state = true

theorem ClusterState.isEmpty_iff {state : ClusterState} :
    ClusterState.isEmpty state = true ↔ state.current = ⟨none, []⟩ ∧ state.inFlight = [] := by
  obtain ⟨⟨k8s, lbs⟩, workflow, inFlight, counters⟩ := state
  cases k8s <;> cases lbs <;> cases inFlight <;> simp [isEmpty, Clusters.isEmpty]

theorem ClusterState.isEmpty_convertToGRPC {state : ClusterState}
    (h : ClusterState.isEmpty state = true) : ClusterState.isEmpty state.convertToGRPC = true := by
  rw [isEmpty_iff] at h ⊢
  obtain ⟨hcurrent, hin⟩ := h
  simp [ClusterState.convertToGRPC, Clusters.convertToGRPC, hcurrent, hin]

theorem AllEmpty.insert {doc : Config} (h : AllEmpty doc) {cluster : String} {state : ClusterState}
    (hstate : ClusterState.isEmpty state = true) :
    AllEmpty { doc with clusters := doc.clusters.insert cluster state } := by
  intro c st hst
  rw [GoMap.getElem?_insert] at hst
  split at hst
  next =>
    cases hst
    exact hstate
  next => exact h c st hst

section

variable {env : Env} {s s' : System} {a : Action} {fresh : TaskId} {doc doc' : Config}

end

section reconcile

variable {inp : ReconcileInput} {id newUUID : TaskId} {state state' : ClusterState}
  {desired : Option Clusters} {result : ScheduleResult}

theorem refreshInfrastructure_result
    (h : refreshInfrastructure state id = .ok (state', result)) : result ≠ .noReschedule := by
  unfold refreshInfrastructure at h
  dsimp only at h
  split at h
  next =>
    obtain ⟨te, _, h⟩ := Outcome.bind_eq_ok.mp h
    cases h
    simp
  next =>
    cases h
    simp

theorem ReconcileStep.isEmpty_of_noReschedule
    (h : ReconcileStep inp id newUUID state desired state' result)
    (hresult : result = .noReschedule) : ClusterState.isEmpty state' = true := by
  cases h with
  | empty _ hcurrent hin => simp [ClusterState.isEmpty, ClusterState.waitForPickup, hcurrent, hin]
  | compare _ _ _ hdiff =>
    cases hdiff with
    | refresh _ _ h => exact absurd hresult (refreshInfrastructure_result h)
    | _ => cases hresult
  | _ => cases hresult

theorem ReconcileStep.isEmpty_of_none
    (h : ReconcileStep inp id newUUID state none state' result)
    (hempty : ClusterState.isEmpty state = true) : ClusterState.isEmpty state' = true := by
  simp only [ClusterState.isEmpty, Bool.and_eq_true, List.isEmpty_iff] at hempty
  cases h with
  | empty _ hcurrent hin => simp [ClusterState.isEmpty, ClusterState.waitForPickup, hcurrent, hin]
  | destroyCurrent _ hcurrent _ _ =>
    rw [hempty.1] at hcurrent
    cases hcurrent
  | destroyUnion _ hin _ _ =>
    rw [hempty.2] at hin
    cases hin
  | create hd => cases hd
  | deleteCreated hd => cases hd
  | resetTargetSizes hd => cases hd
  | credentials hd => cases hd
  | compare hd => cases hd

end reconcile

inductive ManifestStep (env : Env) (s : System) (a : Action) (doc doc' : Config) : Prop
  | kept :
    (∀ i inputs fromManifest, a ≠ .reconcile i inputs fromManifest) →
    doc'.manifest.raw = doc.manifest.raw → doc'.manifest.checksum = doc.manifest.checksum →
    doc'.manifest.lastAppliedChecksum = doc.manifest.lastAppliedChecksum →
    (doc'.manifest.state = .pending →
      doc.manifest.state = .pending
        ∨ doc.manifest.lastAppliedChecksum ≠ doc.manifest.checksum) →
    ManifestStep env s a doc doc'
  | replaced {i : Nat} {r : UpsertManifestRequest} :
    a = .proceed i → s.ops[i]? = some (.upsert r doc true) →
    doc.manifest.checksum ≠ r.checksum env → doc'.manifest.checksum = r.checksum env →
    doc'.manifest.lastAppliedChecksum = doc.manifest.lastAppliedChecksum →
    ManifestStep env s a doc doc'
  | marked :
    doc'.manifest.raw = "" → doc'.manifest.checksum = none →
    doc'.manifest.lastAppliedChecksum ≠ none → ManifestStep env s a doc doc'
  | reconciled {i : Nat} {inputs : String → ReconcileInput}
      {fromManifest : Option (GoMap DesiredCluster)} {desired : GoMap Clusters}
      {clusters : GoMap ClusterState} {result : ScheduleResult} {written : Config} :
    s.ops[i]? = some (.pending doc) → createDesiredState fromManifest doc = some desired →
    reconciliate inputs s.fresh (doc.clusters.map (fun _ s => s.convertToGRPC)) desired
      = .ok (clusters, result) →
    Scheduled doc written clusters result → doc' = written.bump → ManifestStep env s a doc doc'

section

variable {env : Env} {s : System} {a : Action} {fresh : TaskId} {doc doc' : Config}

theorem Advances.manifest {i : Nat} {op op' : Op} {msgs : List WorkMessage}
    (h : Advances s i a op op' msgs) (hdoc : op.doc? = some doc) (hdoc' : op'.doc? = some doc') :
    ManifestStep env s a doc doc' := by
  cases h with
  | @final p _ _ _ hfinish _ =>
    cases hdoc
    cases hdoc'
    rw [finishScheduled_eq_some hfinish]
    refine .kept (by simp) rfl rfl rfl (fun hpending => ?_)
    cases hany : p.anyError <;> simp [hany] at hpending
  | _ =>
    cases hdoc
    cases hdoc'
    exact .kept (by simp) rfl rfl rfl .inl

theorem Derives.manifest (h : Derives env s a fresh doc doc') : ManifestStep env s a doc doc' := by
  cases h with
  | advance _ hadv hdoc hdoc' => exact hadv.manifest hdoc hdoc'
  | mark _ ha =>
    subst ha
    exact .marked rfl rfl (by simp [markForDeletion])
  | write hi hw hdoc =>
    cases hw with
    | @upsert r _ =>
      cases hdoc
      by_cases hsame : doc.manifest.checksum = r.checksum env
      · rw [show r.apply env doc = doc from if_neg (not_not.mpr hsame)]
        exact .kept (by simp) rfl rfl rfl .inl
      · have happly : r.apply env doc = _ := if_pos hsame
        rw [happly]
        exact .replaced rfl hi hsame rfl rfl
    | pending h =>
      cases hdoc
      obtain ⟨desired, clusters, result, hdesired, hrec, happly⟩ :=
        watchForPendingDocuments_eq_some h
      exact .reconciled hi hdesired hrec (applyScheduleResult_eq_some happly) rfl
    | scheduled _ =>
      cases hdoc
      exact .kept (by simp) rfl rfl rfl .inl
    | idle h =>
      cases hdoc
      obtain ⟨hne, rfl⟩ := watchForDoneOrErrorDocuments_update h
      exact .kept (by simp) rfl rfl rfl (fun _ => .inr hne)
    | process h =>
      cases hdoc
      obtain ⟨_, _, _, _, _, _, _, _, rfl⟩ := processTask_eq_some h
      exact .kept (by simp) rfl rfl rfl .inl
    | markNode h =>
      cases hdoc
      obtain ⟨_, _, _, _, rfl⟩ := modifyConfigNodePool_eq_ok h
      exact .kept (by simp) rfl rfl rfl .inl
    | updateTargetSize h =>
      cases hdoc
      obtain ⟨_, _, _, _, rfl⟩ := modifyConfigNodePool_eq_ok h
      exact .kept (by simp) rfl rfl rfl .inl

end

namespace Demo

def noClusters : String := "name: demo\n"

def oneCluster : String :=
  "name: demo\nnodePools:\n  static:\n  - name: control\n    nodes:\n    - endpoint: 192.0.2.1\n"
    ++ "      username: root\n      privateKey: key\nkubernetes:\n  clusters:\n  - name: c1\n"
    ++ "    version: 1.30.0\n    network: 192.168.2.0/24\n    pools:\n      control: [control]\n"

def env : Env where
  digest s :=
    if s = noClusters then
      0xc76f1ad56f7957d685e160e7629427e1cc201fe00ed5715ccfbb783cd14e919e#256
    else if s = oneCluster then
      0x62e9d8f38ee1627b653b17efe21c9c0d51500a023cec7cbc10e8c21ed2a8ec53#256
    else if s = "delete" then
      0x6c9c82babd7764ac239ba0bbe674f30e73e0cfe93a18efa670b67b9ca6e29e39#256
    else 0#256
  unmarshal s :=
    if s = noClusters then some ⟨"demo", []⟩
    else if s = oneCluster then some ⟨"demo", ["192.0.2.1"]⟩
    else none

def request (raw : String) : UpsertManifestRequest :=
  ⟨"demo", ⟨"demo", "claudie"⟩, raw, .pending⟩

-- The api server does not answer and nothing is pinged.
def inputs : String → ReconcileInput :=
  fun _ => ⟨.ascending, ⟨[], none⟩, ⟨none, false, 0, 0, false, []⟩⟩

def node : Node :=
  { name := "control-01"
    privateIp := ""
    publicIp := "192.0.2.1"
    nodeType := .master
    username := "root"
    status := .preparing
    sshPort := 0
    wireguardPort := 0 }

def nodePool : NodePool :=
  { type := .static ⟨(∅ : GoMap String).insert "192.0.2.1" "key"⟩
    name := "control"
    nodes := [node]
    isControl := true
    labels := ∅
    taints := []
    annotations := ∅
    sshPort := 22 }

def k8s : K8scluster :=
  { clusterInfo := ⟨"c1", "abcdefg", [nodePool]⟩
    network := "192.168.2.0/24"
    kubeconfig := ""
    kubernetes := "1.30.0"
    installationProxy := ⟨"default", "", ""⟩ }

def desired : GoMap DesiredCluster := (∅ : GoMap DesiredCluster).insert "c1" ⟨k8s, []⟩

def applied : List Action :=
  [.upsertManifest (request noClusters), .proceed 0, .watchPending "demo",
    .reconcile 0 inputs (some ∅), .watchScheduled "demo", .proceed 0, .proceed 0]

def deletion : List Action :=
  applied ++ [.markForDeletion "demo" 2, .watchDoneOrError "demo", .proceed 0, .watchPending "demo",
    .reconcile 0 inputs none, .watchScheduled "demo", .proceed 0, .proceed 0,
    .watchDoneOrError "demo"]

end Demo

section deletion

variable {env : Env} {s s' : System} {a : Action} {doc : Config}

theorem reconciliate_allEmpty {inputs : String → ReconcileInput} {fresh : TaskId}
    {clusters clusters' : GoMap ClusterState} {desired : GoMap Clusters}
    (h : reconciliate inputs fresh clusters desired = .ok (clusters', .noReschedule))
    {cluster : String} {state : ClusterState} (hstate : clusters'[cluster]? = some state) :
    ClusterState.isEmpty state = true := by
  obtain ⟨j, before, r, hentry⟩ := reconciliate_entry h hstate
  exact hentry.step.isEmpty_of_noReschedule (hentry.noReschedule rfl)

theorem reconciliate_allEmpty_of_empty {inputs : String → ReconcileInput} {fresh : TaskId}
    {clusters' : GoMap ClusterState} {result : ScheduleResult} (hempty : AllEmpty doc)
    (h : reconciliate inputs fresh (doc.clusters.map (fun _ s => s.convertToGRPC)) ∅
      = .ok (clusters', result))
    {cluster : String} {state : ClusterState} (hstate : clusters'[cluster]? = some state) :
    ClusterState.isEmpty state = true := by
  obtain ⟨j, before, r, hentry⟩ := reconciliate_entry h hstate
  have hbefore : ClusterState.isEmpty before = true := by
    obtain hin | ⟨_, rfl⟩ := hentry.enters
    · rw [Std.ExtTreeMap.getElem?_map, Option.map_eq_some_iff] at hin
      obtain ⟨st, hst, rfl⟩ := hin
      exact ClusterState.isEmpty_convertToGRPC (hempty cluster st hst)
    · rfl
  have hstep := hentry.step
  rw [Std.ExtTreeMap.getElem?_empty] at hstep
  exact hstep.isEmpty_of_none hbefore

structure Deletable (doc : Config) : Prop where
  raw : doc.manifest.checksum = none → doc.manifest.raw = ""
  empty : doc.manifest.checksum = none → doc.manifest.lastAppliedChecksum = none → AllEmpty doc

theorem Deletable.reconciled {doc' written : Config} {inputs : String → ReconcileInput}
    {fresh : TaskId} {fromManifest : Option (GoMap DesiredCluster)} {desired : GoMap Clusters}
    {clusters : GoMap ClusterState} {result : ScheduleResult} (hdoc : Deletable doc)
    (hpending : doc.manifest.state = .pending)
    (hdesired : createDesiredState fromManifest doc = some desired)
    (hrec : reconciliate inputs fresh (doc.clusters.map (fun _ s => s.convertToGRPC)) desired
      = .ok (clusters, result))
    (hsched : Scheduled doc written clusters result) (hwritten : doc' = written.bump) :
    Deletable doc' := by
  subst hwritten
  constructor
  · intro hnone
    rw [Config.bump_manifest] at hnone ⊢
    rw [hsched.checksum] at hnone
    rw [hsched.raw]
    exact hdoc.raw hnone
  · intro hnone hlast c st hst
    rw [Config.bump_manifest] at hnone hlast
    rw [Config.bump_clusters, hsched.clusters] at hst
    rw [hsched.checksum] at hnone
    rw [hsched.lastAppliedChecksum] at hlast
    by_cases hresult : result = .noReschedule
    · subst hresult
      exact reconciliate_allEmpty hrec hst
    · rw [if_neg hresult] at hlast
      have hmarked : markedForDeletion doc.manifest = true := by
        simp [markedForDeletion, hnone, hdoc.raw hnone, hpending]
      have hnothing : desired = ∅ := by
        rw [createDesiredState, if_pos hmarked] at hdesired
        exact (Option.some.inj hdesired).symm
      subst hnothing
      exact reconciliate_allEmpty_of_empty (hdoc.empty hnone hlast) hrec hst

end deletion

namespace Demo

end Demo

section settled

variable {env : Env} {s : System} {doc : Config}

structure Settled (doc : Config) : Prop where
  empty : doc.manifest.lastAppliedChecksum = doc.manifest.checksum → AllEmpty doc
  state : doc.manifest.lastAppliedChecksum = doc.manifest.checksum → doc.manifest.state ≠ .pending

theorem Settled.reconciled {written : Config} {inputs : String → ReconcileInput} {fresh : TaskId}
    {desired : GoMap Clusters} {clusters : GoMap ClusterState} {result : ScheduleResult}
    (hdoc : Settled doc) (hpending : doc.manifest.state = .pending)
    (hrec : reconciliate inputs fresh (doc.clusters.map (fun _ s => s.convertToGRPC)) desired
      = .ok (clusters, result))
    (hsched : Scheduled doc written clusters result) : Settled written.bump := by
  have hne : doc.manifest.lastAppliedChecksum ≠ doc.manifest.checksum :=
    fun heq => hdoc.state heq hpending
  have hresult : written.manifest.lastAppliedChecksum = written.manifest.checksum →
      result = .noReschedule := by
    intro heq
    rw [hsched.checksum, hsched.lastAppliedChecksum] at heq
    by_contra hresult
    rw [if_neg hresult] at heq
    exact hne heq
  constructor
  · intro heq c st hst
    rw [Config.bump_clusters, hsched.clusters] at hst
    obtain rfl := hresult heq
    exact reconciliate_allEmpty hrec hst
  · intro heq
    obtain rfl := hresult heq
    rw [Config.bump_manifest, hsched.state]
    simp

end settled

namespace Demo

end Demo

namespace Demo

end Demo

end Manager

end Claudie
