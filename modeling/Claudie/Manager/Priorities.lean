import Claudie.Manager.InFlight

/-!
A task for unreachable nodes is put in front of the task in flight, which waits below it until it is
done.
-/

namespace Claudie

namespace Manager

section

variable {inp : ReconcileInput} {id newUUID : TaskId} {state state' : ClusterState}
  {result : ScheduleResult} {te : TaskEvent} {lower : List TaskEvent}

theorem Stacked.shouldReschedule (h : Stacked (te :: lower)) (hlower : lower ≠ []) :
    shouldRescheduleInFlight (te :: lower).head? = true :=
  TaskEvent.reschedulable_of_isRemoval (h.head hlower)

def KeepsLower (te : TaskEvent) (lower chain : List TaskEvent) : Prop :=
  (∃ te', chain = te' :: lower) ∨ ∃ te', chain = te' :: te :: lower

theorem DiffStep.keepsLower {d : Clusters} {c : Comparison}
    (h : DiffStep inp id newUUID state d c state' result) (hstacked : Stacked state.inFlight)
    (hin : state.inFlight = te :: lower) (hlower : lower ≠ []) :
    KeepsLower te lower state'.inFlight := by
  rw [hin] at hstacked
  have hresched := hstacked.shouldReschedule hlower
  rw [← hin] at hresched
  have kept : (state.checked c.current).inFlight = te :: lower := by
    rw [ClusterState.checked_inFlight, hin]
  cases h with
  | unchecked _ => exact .inl ⟨te, kept⟩
  | wait _ _ _ => exact .inl ⟨te, hin⟩
  | retry _ _ _ =>
    refine .inl ⟨{ te with id := newUUID }, ?_⟩
    simp [rescheduleInFlight, hin, ClusterState.waitForPickup]
  | @push ns next _ _ =>
    refine .inr ⟨next, ?_⟩
    simp [ClusterState.push, ClusterState.waitForPickup, hin]
  | waitWithTask _ hnot _ _ =>
    rw [hnot] at hresched
    cases hresched
  | schedule _ hnot _ _ =>
    rw [hnot] at hresched
    cases hresched
  | clear _ hnot _ _ =>
    rw [hnot] at hresched
    cases hresched
  | waitIdle _ hnil _ _ =>
    rw [hnil] at hin
    cases hin
  | refresh hnil _ _ =>
    rw [hnil] at hin
    cases hin

theorem ReconcileStep.keepsLower {desired : Option Clusters} {d : Clusters}
    (h : ReconcileStep inp id newUUID state desired state' result)
    (hd : presentDesired desired = some d) (hcurrent : Clusters.isEmpty state.current = false)
    (hstacked : Stacked state.inFlight) (hin : state.inFlight = te :: lower) (hlower : lower ≠ []) :
    KeepsLower te lower state'.inFlight := by
  cases h with
  | empty hnone _ _ =>
    rw [hnone] at hd
    cases hd
  | destroyCurrent hnone _ _ _ =>
    rw [hnone] at hd
    cases hd
  | destroyUnion hnone _ _ _ =>
    rw [hnone] at hd
    cases hd
  | create _ hempty _ _ _ =>
    rw [hempty] at hcurrent
    cases hcurrent
  | deleteCreated _ hempty _ _ =>
    rw [hempty] at hcurrent
    cases hcurrent
  | resetTargetSizes _ _ hnil _ =>
    rw [hnil] at hin
    cases hin
  | @credentials d _ _ _ =>
    refine .inl ⟨TaskEvent.mapClusters te (fun c => (updateCredentials c d).1), ?_⟩
    simp [ClusterState.updateCredentials, hin]
  | compare _ _ _ hdiff => exact hdiff.keepsLower hstacked hin hlower

theorem KeepsLower.length {chain : List TaskEvent} (h : KeepsLower te lower chain)
    (hlower : lower ≠ []) : 2 ≤ chain.length := by
  have hpos := List.length_pos_iff.mpr hlower
  obtain ⟨te', rfl⟩ | ⟨te', rfl⟩ := h
  · rw [List.length_cons]
    omega
  · rw [List.length_cons, List.length_cons]
    omega

theorem areScheduledTasksEqual_rename (te : TaskEvent) (id : TaskId) :
    areScheduledTasksEqual te { te with id } = true := by
  simp [areScheduledTasksEqual]

-- A new task with the id for unreachable nodes stands in front of the whole chain.
theorem Rechained.pushed_of_head {desired : Option Clusters} {next : TaskEvent}
    (h : Rechained desired id newUUID state state') (hids : id ≠ newUUID)
    (hold : ∀ te ∈ state.inFlight, te.id ≠ newUUID) (hnext : next.id = newUUID)
    (hequal : ∀ last ∈ state.inFlight.head?, areScheduledTasksEqual last next = false)
    (hhead : state'.inFlight.head? = some next) : state'.inFlight = next :: state.inFlight := by
  cases h with
  | kept hin _ =>
    rw [hin] at hhead
    exact absurd hnext (hold next (List.mem_of_mem_head? hhead))
  | cleared hin =>
    rw [hin] at hhead
    cases hhead
  | replaced hte hin =>
    rw [hin] at hhead
    cases hhead
    exact absurd (hte.id.symm.trans hnext) hids
  | pushed _ hin =>
    rw [hin] at hhead
    cases hhead
    exact hin
  | @renamed te lower hin _ hin' =>
    rw [hin'] at hhead
    cases hhead
    have hne := hequal te (by simp [hin])
    rw [areScheduledTasksEqual_rename] at hne
    cases hne
  | @credentials d te lower _ hin hin' _ =>
    rw [hin'] at hhead
    cases hhead
    exact absurd hnext (hold te (by simp [hin]))

end

structure ReconcilesChain (inp : ReconcileInput) (id newUUID : TaskId) (state : ClusterState)
    (d : Clusters) (state' : ClusterState) : Prop where
  lower : ∀ te lower, state.inFlight = te :: lower → lower ≠ [] →
    KeepsLower te lower state'.inFlight
  -- the outcome of `handleUpdate` takes the place of a task with nothing below it.
  rolledBack : ∀ c update, Compared inp state d c →
    handleUpdate inp.ord inp.entropy id c.hc c.diff c.current (state.target d) = .ok update →
    state'.inFlight = update.toList → state.inFlight.tail = []
  pushed : ∀ c ns next, Compared inp state d c →
    checkNodesStatus inp.ord inp.probe c.current c.hc = .ok ns →
    handleClusterUnknownNodes inp.ord newUUID c.current d c.diff ns c.hc = .ok (some next) →
    (∀ last ∈ state.inFlight.head?, areScheduledTasksEqual last next = false) →
    state'.inFlight.head? = some next → state'.inFlight = next :: state.inFlight

structure ProcessesChain (work : Work) (state : ClusterState) (te : TaskEvent)
    (lower : List TaskEvent) (state' : ClusterState) : Prop where
  inFlight : state.inFlight = te :: lower
  unfinished : state'.state.status ≠ .done →
    state'.current = state.current ∧ ∃ te', state'.inFlight = te' :: lower
  finished : state'.state.status = .done → ∃ te', Merges work te te'
    ∧ ((∃ next rest, lower = next :: rest ∧ state'.current = state.current
          ∧ state'.inFlight
            = { next with task := next.task.replaceClusters te'.task.clusters } :: rest)
      ∨ lower = [] ∧ state'.current = te'.task.clusters ∧ state'.inFlight = [])

theorem ProcessStep.processesChain {work : Work} {newUUID : TaskId} {state state' : ClusterState}
    {te : TaskEvent} {lower : List TaskEvent} {stage : Stage}
    (h : ProcessStep work newUUID state te lower stage state')
    (hin : state.inFlight = te :: lower) : ProcessesChain work state te lower state' := by
  cases h with
  | renamed hcurrent hin' hstatus =>
    exact ⟨hin, fun _ => ⟨hcurrent, _, hin'⟩, fun hdone => by simp [hstatus] at hdone⟩
  | failed _ _ _ hcurrent hin' hstatus =>
    exact ⟨hin, fun _ => ⟨hcurrent, _, hin'⟩, fun hdone => by simp [hstatus] at hdone⟩
  | advanced _ _ hcurrent hin' hstatus =>
    exact ⟨hin, fun _ => ⟨hcurrent, _, hin'⟩, fun hdone => by simp [hstatus] at hdone⟩
  | handedDown hmerges _ hlower hcurrent hin' hstatus =>
    exact ⟨hin, fun hnot => absurd hstatus hnot,
      fun _ => ⟨_, hmerges, .inl ⟨_, _, hlower, hcurrent, hin'⟩⟩⟩
  | completed hmerges _ hlower hcurrent hin' hstatus =>
    exact ⟨hin, fun hnot => absurd hstatus hnot,
      fun _ => ⟨_, hmerges, .inr ⟨hlower, hcurrent, hin'⟩⟩⟩

section

variable {env : Env} {s : System} {doc : Config} {cluster : String} {state : ClusterState}

/--
No task that waits below another one is dropped: by a reconciliation of a cluster that is kept, by
the result of a worker, or as a task without work.
-/
theorem no_pending_task_is_dropped (hs : (manager env).Reachable s) (hheld : Held s doc)
    (hst : doc.clusters[cluster]? = some state) :
    (∀ inp id newUUID d state' result, s.fresh ≤ newUUID → id ≠ newUUID →
      d.isEmpty = false → state.convertToGRPC.current.isEmpty = false →
      reconciliateCluster inp id newUUID state.convertToGRPC (some d) = .ok (state', result) →
        ReconcilesChain inp id newUUID state.convertToGRPC d state')
      ∧ (∀ work newUUID state', processTaskOfCluster work newUUID state = .ok (some state') →
          ∃ te lower, ProcessesChain work state te lower state')
      ∧ ∀ state', scheduledStep doc.name cluster state = .ok (.noWork state') →
          state.inFlight = [] := by
  have hchain := Config.chain_of_getElem? hst
  refine ⟨?_, ?_, ?_⟩
  · intro inp id newUUID d state' result hnew hids hd hcurrent h
    have hstep := reconciliateCluster_step h
    have hpresent : presentDesired (some d) = some d := by simp [presentDesired, hd]
    have hstacked : Stacked state.inFlight := hchain ▸ stacked_of_reach hs hheld cluster
    have hlower : ∀ te lower, state.inFlight = te :: lower → lower ≠ [] →
        KeepsLower te lower state'.inFlight := by
      intro te lower hin hne
      exact hstep.keepsLower hpresent hcurrent hstacked hin hne
    refine ⟨hlower, ?_, ?_⟩
    · intro c update _ _ hin'
      cases hin : state.inFlight with
      | nil =>
        change state.inFlight.tail = []
        rw [hin]
        rfl
      | cons te lower =>
        change state.inFlight.tail = []
        rw [hin]
        by_contra hne
        have hlength := (hlower te lower hin hne).length hne
        rw [hin'] at hlength
        cases update with
        | none => simp at hlength
        | some te' => simp at hlength
    · intro c ns next hc _ hnext hequal hhead
      have hremoval := handleClusterUnknownNodes_removal hc.k8s hnext
      obtain ⟨owner, howned⟩ := owned_of_reach hs
      refine hstep.rechained.pushed_of_head hids ?_ hremoval.id hequal hhead
      intro te hte hid
      have hlt := (howned.task hheld te (hchain ▸ hte)).1
      rw [hid] at hlt
      exact Nat.not_lt.mpr hnew hlt
  · intro work newUUID state' h
    obtain ⟨te, lower, stage, haccepts, hstep⟩ := processTaskOfCluster_step h
    exact ⟨te, lower, hstep.processesChain haccepts.inFlight⟩
  · intro state' h
    have hno := scheduledStep_noWork h
    have hstage := tasksAtStage_of_reach hs hheld cluster
    rw [hchain] at hstage
    cases hin : state.inFlight with
    | nil => rfl
    | cons te lower =>
      rw [hin, List.forall_mem_cons] at hstage
      have hlt : te.currentStage < te.pipeline.length := hstage.1
      obtain hnil | hlt' := hno.inFlight te lower hin
      · simp [hnil] at hlt
      · omega

end

namespace Demo

namespace Spares

def pool (name endpoint : String) : String :=
  "  - name: " ++ name ++ "\n    nodes:\n    - endpoint: " ++ endpoint
    ++ "\n      username: root\n      privateKey: key\n"

def manifest (compute : String) : String :=
  "name: demo\nnodePools:\n  static:\n" ++ pool "control" "192.0.2.1" ++ pool "spares" "192.0.2.3"
    ++ pool "workers" "192.0.2.2" ++ "kubernetes:\n  clusters:\n  - name: c1\n    version: 1.30.0\n"
    ++ "    network: 192.168.2.0/24\n    pools:\n      control: [control]\n" ++ compute

def full : String := manifest "      compute: [spares, workers]\n"

def shrunk : String := manifest ""

def env : Env where
  digest s :=
    if s = full then
      0xfb0a5d95a4f3ad4c225409294fcbe8c9062751b16f68f46002c2977aa443239d#256
    else if s = shrunk then
      0xad6f095bda596efc216b2ffb915d1b3da295c081e6e8c57fbc937d447fab97cd#256
    else 0#256
  unmarshal s :=
    if s = full ∨ s = shrunk then some ⟨"demo", ["192.0.2.1", "192.0.2.3", "192.0.2.2"]⟩ else none

def spares : NodePool :=
  { Pools.workers with
    type := .static ⟨(∅ : GoMap String).insert "192.0.2.3" "key"⟩
    name := "spares"
    nodes := [{ node with name := "spares-01", publicIp := "192.0.2.3", nodeType := .worker }] }

def lost (ord : MapOrder) : String → ReconcileInput :=
  fun _ => ⟨ord, ⟨[], none⟩,
    ⟨some [⟨"Node", "control-01", [⟨"Ready", "True", 0⟩]⟩,
        ⟨"Node", "spares-01", [⟨"Ready", "Unknown", 3600000000000⟩]⟩,
        ⟨"Node", "workers-01", [⟨"Ready", "Unknown", 3600000000000⟩]⟩], false, 0, 0, false, []⟩⟩

def creation : List Action :=
  [.upsertManifest (request full), .proceed 0, .watchPending "demo",
      .reconcile 0 inputs (Pools.desired (Pools.k8s "1.30.0" [nodePool, spares, Pools.workers]))]
    ++ Pools.work 0 ⟨none, .none⟩ ++ Pools.work 1 ⟨none, .none⟩
    ++ Pools.work 2 (Pools.updated "1.30.0" [Pools.control, spares, Pools.workers])
    ++ Pools.work 3 ⟨none, .none⟩ ++ Pools.settle

def shrunkK8s : K8scluster := Pools.k8s "1.30.0" [Pools.control]

def reconcile (ord : MapOrder) : Action := .reconcile 0 (lost ord) (Pools.desired shrunkK8s)

def failure (msg : Nat) : List Action :=
  Pools.work msg ⟨some (.fatal, "the node does not respond"), .none⟩ ++ Pools.settle
    ++ [.watchDoneOrError "demo", .proceed 0, .watchPending "demo"]

-- The workers are to be removed, once the one and once the other is tried first.
def twoRounds : List Action :=
  creation ++ Pools.resubmit shrunk ++ [reconcile .ascending] ++ failure 4 ++ [reconcile .descending]
    ++ failure 5

def shrunkClusters : Clusters := ⟨some shrunkK8s, []⟩

end Spares

end Demo

theorem no_pending_task_is_dropped_demo :
    ∃ s doc state te lower state' result, (manager Demo.Spares.env).Reachable s
      ∧ s.store["demo"]? = some doc ∧ doc.clusters["c1"]? = some state
      ∧ state.inFlight = [te, lower]
      ∧ reconciliateCluster (Demo.Spares.lost .ascending "c1") s.fresh (s.fresh + 1)
          state.convertToGRPC (some Demo.Spares.shrunkClusters) = .ok (state', result)
      ∧ ReconcilesChain (Demo.Spares.lost .ascending "c1") s.fresh (s.fresh + 1)
          state.convertToGRPC Demo.Spares.shrunkClusters state'
      ∧ KeepsLower te [lower] state'.inFlight := by
  have hrun : ((manager Demo.Spares.env).run (manager Demo.Spares.env).init
      Demo.Spares.twoRounds).bind (fun s => (s.store["demo"]?).bind (fun doc =>
        (doc.clusters["c1"]?).map (fun state =>
          (decide (state.inFlight.length = 2) && !state.convertToGRPC.current.isEmpty)
            && Outcome.passes (reconciliateCluster (Demo.Spares.lost .ascending "c1") s.fresh
              (s.fresh + 1) state.convertToGRPC (some Demo.Spares.shrunkClusters))
              (fun _ => true)))) = some true := by
    decide +kernel
  obtain ⟨s, hs, hrun⟩ := Option.bind_eq_some_iff.mp hrun
  obtain ⟨doc, hdoc, hrun⟩ := Option.bind_eq_some_iff.mp hrun
  obtain ⟨state, hst, hrun⟩ := Option.map_eq_some_iff.mp hrun
  rw [Bool.and_eq_true, Bool.and_eq_true, decide_eq_true_eq, Bool.not_eq_true'] at hrun
  obtain ⟨⟨hlength, hcurrent⟩, hpasses⟩ := hrun
  obtain ⟨te, lower, hin⟩ := List.length_eq_two.mp hlength
  obtain ⟨⟨state', result⟩, hrec, -⟩ := Outcome.passes_iff.mp hpasses
  have hreach : (manager Demo.Spares.env).Reachable s := .run .init hs
  have hchain := (no_pending_task_is_dropped hreach (.inl ⟨"demo", hdoc⟩) hst).1
    (Demo.Spares.lost .ascending "c1") s.fresh (s.fresh + 1) Demo.Spares.shrunkClusters state'
    result (Nat.le_add_right _ 1) (Nat.ne_of_lt (Nat.lt_succ_self _)) (by decide) hcurrent hrec
  exact ⟨s, doc, state, te, lower, state', result, hreach, hdoc, hst, hin, hrec, hchain,
    hchain.lower te [lower] hin (List.cons_ne_nil _ _)⟩

section unreachable

variable {inp : ReconcileInput} {id newUUID : TaskId} {state state' : ClusterState}
  {result : ScheduleResult} {te : TaskEvent} {lower : List TaskEvent}

def unknownNodes (inp : ReconcileInput) (state : ClusterState) : Bool :=
  match healthCheck inp.probe state.base with
  | .ok (hc, current) =>
    match checkNodesStatus inp.ord inp.probe current hc with
    | .ok ns => !UnknownNodeStatus.isEmpty ns
    | .error _ => false
  | .error _ => false

theorem UnknownNodeStatus.kubernetes_of_isEmpty {ns : UnknownNodeStatus} (h : ns.isEmpty = true) :
    ns.kubernetes.isEmpty = true := by
  unfold UnknownNodeStatus.isEmpty at h
  simp only [Bool.and_eq_true] at h
  unfold UnknownNodeStatus.kubernetes
  rw [Std.ExtTreeMap.isEmpty_iff.mp h.1.1]
  exact h.1.2

theorem handleClusterUnknownNodes_of_isEmpty {ord : MapOrder} {current desired : Clusters}
    {diff : DiffResult} {ns : UnknownNodeStatus} {hc : HealthCheckStatus} (h : ns.isEmpty = true) :
    handleClusterUnknownNodes ord id current desired diff ns hc ≠ .ok (some te) := by
  intro hsome
  have hlbs : ns.unknownLoadBalancersNodes.isEmpty = true := by
    unfold UnknownNodeStatus.isEmpty at h
    exact (Bool.and_eq_true _ _ |>.mp h).2
  obtain hlb | ⟨_, hk8s⟩ := Outcome.orElse_eq_some hsome
  · unfold handleLoadBalancerUnknownNodes at hlb
    rw [(MapOrder.range_eq_nil ord).mpr hlbs] at hlb
    cases hlb
  · unfold handleKubernetesUnknownNodes at hk8s
    dsimp only at hk8s
    rw [(MapOrder.range_eq_nil ord).mpr (UnknownNodeStatus.kubernetes_of_isEmpty h)] at hk8s
    obtain ⟨_, _, hk8s⟩ := Outcome.bind_eq_ok.mp hk8s
    obtain ⟨_, _, hk8s⟩ := Outcome.bind_eq_ok.mp hk8s
    cases hk8s

theorem unknownNodes_of_push {d : Clusters} {c : Comparison} {ns : UnknownNodeStatus}
    (hc : Compared inp state d c) (hns : checkNodesStatus inp.ord inp.probe c.current c.hc = .ok ns)
    (h : c.reach inp state d newUUID ns = .ok (.push te)) : unknownNodes inp state = true := by
  unfold unknownNodes
  rw [hc.healthCheck]
  dsimp only
  rw [hns]
  cases hempty : UnknownNodeStatus.isEmpty ns with
  | false => simp [hempty]
  | true =>
    exfalso
    unfold Comparison.reach reachability at h
    split at h
    next => cases h
    next => cases h
    next => cases h
    next hnext => exact handleClusterUnknownNodes_of_isEmpty hempty hnext

theorem DiffStep.length {d : Clusters} {c : Comparison} (hc : Compared inp state d c)
    (h : DiffStep inp id newUUID state d c state' result) :
    unknownNodes inp state = true ∨ state'.inFlight.length ≤ 1
      ∨ state'.inFlight.length = state.inFlight.length := by
  have hchecked : (state.checked c.current).inFlight.length = state.inFlight.length := by
    rw [ClusterState.checked_inFlight]
  cases h with
  | unchecked _ => exact .inr (.inr hchecked)
  | wait _ _ _ => exact .inr (.inr rfl)
  | retry _ _ _ =>
    refine .inr (.inr ?_)
    cases hin : state.inFlight with
    | nil => simp [rescheduleInFlight, hin, ClusterState.waitForPickup]
    | cons te lower => simp [rescheduleInFlight, hin, ClusterState.waitForPickup]
  | push hns hreach => exact .inl (unknownNodes_of_push hc hns hreach)
  | waitWithTask _ _ _ _ => exact .inr (.inl (Nat.le_refl 1))
  | schedule _ _ _ _ => exact .inr (.inl (Nat.le_refl 1))
  | clear _ _ _ _ => exact .inr (.inl (Nat.zero_le 1))
  | waitIdle _ _ _ _ => exact .inr (.inr hchecked)
  | refresh _ _ h =>
    obtain ⟨_, hkept | ⟨te, _, rfl⟩⟩ := refreshInfrastructure_cases h
    · refine .inr (.inr ?_)
      rw [hkept.1]
      exact hchecked
    · exact .inr (.inl (Nat.le_refl 1))

theorem ReconcileStep.length {desired : Option Clusters}
    (h : ReconcileStep inp id newUUID state desired state' result) :
    unknownNodes inp state = true ∨ state'.inFlight.length ≤ 1
      ∨ state'.inFlight.length = state.inFlight.length := by
  cases h with
  | empty _ _ _ => exact .inr (.inr rfl)
  | destroyCurrent _ _ _ _ => exact .inr (.inl (Nat.le_refl 1))
  | destroyUnion _ _ _ _ => exact .inr (.inl (Nat.le_refl 1))
  | create _ _ _ _ _ => exact .inr (.inl (Nat.le_refl 1))
  | deleteCreated _ _ _ _ => exact .inr (.inl (Nat.le_refl 1))
  | resetTargetSizes _ _ _ h =>
    unfold ClusterState.resetTargetSizes at h
    obtain ⟨k8s, _, h⟩ := Outcome.bind_eq_ok.mp h
    obtain ⟨nps, _, h⟩ := Outcome.bind_eq_ok.mp h
    cases h
    exact .inr (.inr rfl)
  | credentials _ _ _ =>
    refine .inr (.inr ?_)
    cases hin : state.inFlight with
    | nil => simp [ClusterState.updateCredentials, hin]
    | cons te lower => simp [ClusterState.updateCredentials, hin]
  | compare _ _ hc hdiff => exact hdiff.length hc

inductive Short : List TaskEvent → Prop
  | nil : Short []
  | single {te : TaskEvent} : Short [te]
  | waiting {te lower : TaskEvent} :
    TaskEvent.isRemoval te = true → TaskEvent.isRemoval lower = false → Short [te, lower]

theorem Short.length (h : Short lower) : lower.length ≤ 2 := by
  cases h with
  | nil => exact Nat.zero_le 2
  | single => exact Nat.le_succ 1
  | waiting _ _ => exact Nat.le_refl 2

end unreachable

def losesMoreNodes (s : System) : Action → Bool
  | .reconcile i inputs _ =>
    match s.ops[i]? with
    | some (.pending doc) =>
      doc.clusters.toList.any (fun entry =>
        match entry.2.inFlight with
        | te :: _ => TaskEvent.isRemoval te && unknownNodes (inputs entry.1) entry.2
        | [] => false)
    | _ => false
  | _ => false

section

variable {env : Env} {s : System} {a : Action} {doc : Config} {cluster : String}

end

namespace Demo

namespace Pools

def found (s : System) (a : Action) : Bool := !losesMoreNodes s a

-- The worker is lost while an upgrade of the cluster is in flight.
def waiting : List Action := creation ++ removal.take 23

end Pools

end Demo

end Manager

end Claudie
