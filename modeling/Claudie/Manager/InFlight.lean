import Claudie.Manager.Lemmas.Stack
import Claudie.Manager.Deliveries

/-!
The tasks in flight can always be worked on: they are at a stage of their pipeline, and they have a
kubernetes cluster to work with.
-/

namespace Claudie

def Clusters.Attached (c : Clusters) : Prop := c.k8s = none → c.loadBalancers = []

theorem Clusters.Attached.of_isSome {c : Clusters} (h : c.k8s.isSome = true) : c.Attached := by
  intro hnone
  simp [hnone] at h

theorem Clusters.Attached.convertToGRPC {c : Clusters} (h : c.Attached) : c.convertToGRPC = c := by
  obtain ⟨k8s, lbs⟩ := c
  cases k8s with
  | none =>
    have hlbs : lbs = [] := h rfl
    rw [hlbs]
    rfl
  | some _ => rfl

namespace Manager

section

variable {inp : ReconcileInput} {id newUUID : TaskId} {state state' : ClusterState}
  {result : ScheduleResult}

theorem updateCredentials_k8s (c d : Clusters) :
    (updateCredentials c d).1.k8s.isSome = c.k8s.isSome := by
  obtain ⟨k8s, lbs⟩ := c
  cases k8s <;> rfl

theorem attached_updateCredentials {c : Clusters} (h : c.Attached) (d : Clusters) :
    (updateCredentials c d).1.Attached := by
  intro hnone
  have hk8s := updateCredentials_k8s c d
  rw [hnone, Option.isSome_none, eq_comm, Option.isSome_eq_false_iff,
    Option.isNone_iff_eq_none] at hk8s
  have hlbs := h hk8s
  obtain ⟨k8s, lbs⟩ := c
  cases hlbs
  rfl

theorem current_updateCredentials (state : ClusterState) (d : Clusters) :
    (ClusterState.updateCredentials state d).1.current = (updateCredentials state.current d).1 := by
  unfold ClusterState.updateCredentials
  dsimp only
  split <;> rfl

theorem Compared.attached {d : Clusters} {c : Comparison} (hc : Compared inp state d c)
    (h : state.current.Attached) : (state.checked c.current).current.Attached := by
  unfold ClusterState.checked
  split
  next => exact .of_isSome hc.k8s
  next => exact h

theorem DiffStep.attached {d : Clusters} {c : Comparison} (hc : Compared inp state d c)
    (hstep : DiffStep inp id newUUID state d c state' result) (h : state.current.Attached) :
    state'.current.Attached := by
  have hchecked := hc.attached h
  cases hstep with
  | unchecked _ => exact hchecked
  | wait _ _ _ => exact h
  | retry _ _ _ =>
    unfold rescheduleInFlight
    split <;> exact h
  | push _ _ => exact hchecked
  | waitWithTask _ _ _ _ => exact hchecked
  | schedule _ _ _ _ => exact hchecked
  | clear _ _ _ _ => exact h
  | waitIdle _ _ _ _ => exact hchecked
  | refresh _ _ hrefresh =>
    rw [(refreshInfrastructure_cases hrefresh).1]
    exact hchecked

theorem ReconcileStep.attached {desired : Option Clusters}
    (hstep : ReconcileStep inp id newUUID state desired state' result)
    (h : state.current.Attached) : state'.current.Attached := by
  cases hstep with
  | resetTargetSizes _ _ _ hreset =>
    unfold ClusterState.resetTargetSizes at hreset
    obtain ⟨k8s, _, hreset⟩ := Outcome.bind_eq_ok.mp hreset
    obtain ⟨nps, _, hreset⟩ := Outcome.bind_eq_ok.mp hreset
    cases hreset
    exact .of_isSome rfl
  | @credentials d _ _ _ =>
    rw [current_updateCredentials]
    exact attached_updateCredentials h d
  | compare _ _ hc hdiff => exact hdiff.attached hc h
  | _ => exact h

end

structure TaskEvent.Sound (te : TaskEvent) : Prop where
  stage : te.currentStage < te.pipeline.length
  k8s : te.task.clusters.k8s.isSome = true
  destroy : TaskEvent.EndsWithDestroy te

structure ClusterState.Sound (state : ClusterState) : Prop where
  tasks : ∀ te ∈ state.inFlight, TaskEvent.Sound te
  current : state.current.Attached

theorem NewTask.sound {id : TaskId} {te : TaskEvent} (h : NewTask id te) : TaskEvent.Sound te where
  stage := by
    rw [h.currentStage]
    exact List.length_pos_iff.mpr h.pipeline
  k8s := h.k8s
  destroy := h.destroy

namespace TaskEvent.Sound

variable {te te' : TaskEvent}

theorem evolves (h : TaskEvent.Sound te) (hevolves : Evolves te te')
    (hstage : te'.currentStage < te.pipeline.length)
    (hk8s : te'.task.clusters.k8s.isSome = true) : TaskEvent.Sound te' where
  stage := by rwa [hevolves.pipeline]
  k8s := hk8s
  destroy := by
    have hdestroy := h.destroy
    unfold TaskEvent.EndsWithDestroy at hdestroy ⊢
    rwa [hevolves.kind, hevolves.pipeline]

theorem rename (h : TaskEvent.Sound te) (id : TaskId) : TaskEvent.Sound { te with id } :=
  ⟨h.stage, h.k8s, h.destroy⟩

theorem mapClusters (h : TaskEvent.Sound te) {f : Clusters → Clusters}
    (hf : (f te.task.clusters).k8s.isSome = true) : TaskEvent.Sound (TaskEvent.mapClusters te f) :=
  h.evolves (.mapClusters te f) h.stage (by simpa [TaskEvent.mapClusters] using hf)

end TaskEvent.Sound

theorem Rechained.tasks_sound {desired : Option Clusters} {id newUUID : TaskId}
    {state state' : ClusterState} (h : Rechained desired id newUUID state state')
    (hsound : ∀ te ∈ state.inFlight, TaskEvent.Sound te) :
    ∀ te ∈ state'.inFlight, TaskEvent.Sound te := by
  cases h with
  | kept hin _ =>
    rw [hin]
    exact hsound
  | cleared hin =>
    rw [hin]
    exact List.forall_mem_nil _
  | replaced hte hin =>
    rw [hin]
    exact List.forall_mem_singleton.mpr hte.sound
  | pushed hte hin =>
    rw [hin]
    exact List.forall_mem_cons.mpr ⟨hte.toNewTask.sound, hsound⟩
  | renamed hin _ hin' =>
    rw [hin, List.forall_mem_cons] at hsound
    rw [hin']
    exact List.forall_mem_cons.mpr ⟨hsound.1.rename newUUID, hsound.2⟩
  | @credentials d te lower _ hin hin' _ =>
    rw [hin, List.forall_mem_cons] at hsound
    rw [hin']
    refine List.forall_mem_cons.mpr ⟨hsound.1.mapClusters ?_, hsound.2⟩
    rw [updateCredentials_k8s]
    exact hsound.1.k8s

/--
What the task handlers of the workers can answer: only the one that destroys a whole cluster reports
that the kubernetes cluster is gone.
-/
def WorkMessage.answeredBy (msg : WorkMessage) (result : TaskResult) : Bool :=
  match result.result with
  | .clear (some true) _ => msg.subject = .terraformer && msg.task.kind = .delete
  | _ => true

def byHandlers (s : System) : Action → Bool
  | .deliver k result => (s.published[k]?).all (fun msg => msg.answeredBy result)
  | _ => true

/--
The cluster could be destroyed only in part, but its kubernetes cluster was, and no other load
balancer is left in the state of the task.
-/
def dropsKubernetes (s : System) : Action → Bool
  | .proceed i =>
    match s.ops[i]? with
    | some (.process msg ⟨some (.partialChange, _), .clear (some true) ids⟩ doc) =>
      match doc.chain msg.cluster with
      | te :: _ =>
        te.id = msg.taskID && te.currentStage = msg.stage
          && te.task.clusters.loadBalancers.all (fun lb => ids.contains lb.id)
      | [] => false
    | _ => false
  | _ => false

section

variable {env : Env} {s s' : System} {a : Action} {msg : WorkMessage} {result : TaskResult}

theorem Merges.k8s {te te' : TaskEvent} (h : Merges (msg.work result) te te')
    (hk8s : te.task.clusters.k8s.isSome = true) :
    te'.task.clusters.k8s.isSome = true
      ∨ te'.task.clusters = ⟨none, []⟩ ∧ (∀ d, result.error ≠ some (.fatal, d))
        ∧ ∃ ids, result.result = .clear (some true) ids
          ∧ ∀ lb ∈ te.task.clusters.loadBalancers, lb.id ∈ ids := by
  cases h with
  | fatal _ => exact .inl hk8s
  | merged hfatal hconsume =>
    obtain hsome | ⟨hnone, hids⟩ := Task.k8s_of_consumeResult hconsume hk8s
    · exact .inl hsome
    · exact .inr ⟨hnone, hfatal, hids⟩

structure Destroys (te : TaskEvent) (stage : Stage) : Prop where
  kind : te.task.kind = .delete
  stage : Stage.isTerraformer stage = true

theorem ProcessStep.sound {state state' : ClusterState} {te : TaskEvent} {lower : List TaskEvent}
    {stage : Stage} {newUUID : TaskId}
    (h : ProcessStep (msg.work result) newUUID state te lower stage state')
    (haccepts : Accepts (msg.work result) state te lower stage)
    (hsound : ClusterState.Sound state) (hstacked : Stacked (te :: lower))
    (hdestroys : ∀ ids, result.result = .clear (some true) ids → Destroys te stage)
    (hdrops : ∀ d ids, result.error = some (.partialChange, d) →
      result.result = .clear (some true) ids →
      ¬ ∀ lb ∈ te.task.clusters.loadBalancers, lb.id ∈ ids) :
    ClusterState.Sound state' := by
  have htasks := hsound.tasks
  rw [haccepts.inFlight, List.forall_mem_cons] at htasks
  obtain ⟨hte, hlower⟩ := htasks
  cases h with
  | renamed hcurrent hin _ =>
    refine ⟨?_, hcurrent ▸ hsound.current⟩
    rw [hin]
    exact List.forall_mem_cons.mpr ⟨hte.rename newUUID, hlower⟩
  | failed hmerges herror _ hcurrent hin _ =>
    refine ⟨?_, hcurrent ▸ hsound.current⟩
    rw [hin]
    refine List.forall_mem_cons.mpr ⟨hte.evolves hmerges.evolves ?_ ?_, hlower⟩
    · rw [hmerges.currentStage]
      exact hte.stage
    · obtain hsome | ⟨_, hfatal, ids, hclear, hids⟩ := hmerges.k8s hte.k8s
      · exact hsome
      · obtain ⟨⟨kind, d⟩, herror⟩ := Option.isSome_iff_exists.mp herror
        cases kind with
        | fatal => exact absurd herror (hfatal d)
        | partialChange => exact absurd hids (hdrops d ids herror hclear)
  | advanced hmerges hnext hcurrent hin _ =>
    refine ⟨?_, hcurrent ▸ hsound.current⟩
    rw [hin]
    obtain ⟨hid, hkind, hdelta, hpipeline⟩ := hmerges.evolves
    refine List.forall_mem_cons.mpr ⟨hte.evolves ⟨hid, hkind, hdelta, hpipeline⟩ ?_ ?_, hlower⟩
    · dsimp only
      rw [hmerges.currentStage]
      exact (List.getElem?_eq_some_iff.mp hnext).1
    · obtain hsome | ⟨_, _, ids, hclear, _⟩ := hmerges.k8s hte.k8s
      · exact hsome
      · -- there is no stage after the one that destroys the cluster.
        obtain ⟨hdelete, hterraformer⟩ := hdestroys ids hclear
        have hlast := hte.destroy hdelete _ _ haccepts.pipeline hterraformer
        rw [hnext] at hlast
        cases hlast
  | @handedDown te' next rest _ hmerges _ hlow hcurrent hin _ =>
    refine ⟨?_, hcurrent ▸ hsound.current⟩
    subst hlow
    rw [hin]
    rw [List.forall_mem_cons] at hlower
    refine List.forall_mem_cons.mpr ⟨hlower.1.mapClusters ?_, hlower.2⟩
    obtain hsome | ⟨_, _, ids, hclear, _⟩ := hmerges.k8s hte.k8s
    · exact hsome
    · have hkind := TaskEvent.kind_of_isRemoval (hstacked.head (List.cons_ne_nil _ _))
      rw [(hdestroys ids hclear).kind] at hkind
      cases hkind
  | completed hmerges _ _ hcurrent hin _ =>
    constructor
    · rw [hin]
      exact List.forall_mem_nil _
    · rw [hcurrent]
      obtain hsome | ⟨hnone, _⟩ := hmerges.k8s hte.k8s
      · exact .of_isSome hsome
      · rw [hnone]
        exact fun _ => rfl

theorem answeredBy_of_reach {ok : System → Action → Prop}
    (hok : ∀ s a, ok s a → byHandlers s a = true) (hs : (manager env).Reach ok s) {doc : Config}
    (hop : .process msg result doc ∈ s.ops) : msg.answeredBy result = true := by
  induction hs with
  | init => cases hop
  | step hs h hstep ih =>
    obtain hold | ⟨hstarts, _⟩ | ⟨i, op, msgs, _, hadv, _⟩ := (step_transition hstep).ops hop
    · exact ih hold
    · cases hstarts with
      | process hmsg _ => simpa [byHandlers, hmsg] using hok _ _ h
    · cases hadv

theorem EntryStep.sound {fresh : TaskId} {doc : Config} {cluster : String} {state' : ClusterState}
    (h : EntryStep s a fresh doc cluster state')
    (hsound : ∀ {cluster : String} {state : ClusterState}, doc.clusters[cluster]? = some state →
      ClusterState.Sound state)
    (hstacked : Stacked (doc.chain cluster))
    (hdestroys : ∀ {msg : WorkMessage} {result : TaskResult} {te : TaskEvent} {stage : Stage}
        {ids : List String}, .process msg result doc ∈ s.ops →
      te ∈ doc.chain msg.cluster → te.id = msg.taskID → stage.kind = msg.subject →
      result.result = .clear (some true) ids → Destroys te stage)
    (hdrops : dropsKubernetes s a = false) : ClusterState.Sound state' := by
  cases h with
  | same hst => exact hsound hst
  | @reconciled _ _ _ _ _ _ _ state _ _ _ _ hentry _ =>
    have hstate : ClusterState.Sound state := by
      obtain hin | ⟨_, rfl⟩ := hentry.enters
      · rw [Std.ExtTreeMap.getElem?_map, Option.map_eq_some_iff] at hin
        obtain ⟨st, hst, rfl⟩ := hin
        have hst := hsound hst
        refine ⟨hst.tasks, ?_⟩
        unfold ClusterState.convertToGRPC
        rw [hst.current.convertToGRPC]
        exact hst.current
      · exact ⟨List.forall_mem_nil _, fun _ => rfl⟩
    exact ⟨hentry.step.rechained.tasks_sound hstate.tasks, hentry.step.attached hstate.current⟩
  | noWork hst hno =>
    refine ⟨?_, hno.current' ▸ (hsound hst).current⟩
    rw [hno.inFlight']
    exact List.forall_mem_nil _
  | picked hst hpub =>
    refine ⟨?_, hpub.current' ▸ (hsound hst).current⟩
    rw [hpub.inFlight', ← hpub.inFlight]
    exact (hsound hst).tasks
  | @processed i msg result state _ te lower stage ha hi hcluster hst haccepts hstep _ =>
    subst ha hcluster
    have hchain : doc.chain msg.cluster = te :: lower := by
      rw [Config.chain_of_getElem? hst, haccepts.inFlight]
    rw [hchain] at hstacked
    have hid : te.id = msg.taskID := haccepts.id
    have hstage : te.currentStage = msg.stage := haccepts.taskStage
    refine hstep.sound haccepts (hsound hst) hstacked (fun ids hclear => ?_) ?_
    · exact hdestroys (List.mem_of_getElem? hi) (by simp [hchain]) hid haccepts.kind hclear
    · intro d ids herror hclear hids
      obtain ⟨error, res⟩ := result
      cases herror
      cases hclear
      simp only [dropsKubernetes, hi, hchain, hid, hstage, decide_true, Bool.true_and] at hdrops
      rw [List.all_eq_false] at hdrops
      obtain ⟨lb, hlb, hnot⟩ := hdrops
      exact hnot (by simpa using hids lb hlb)
  | modified hst hchange =>
    obtain ⟨current, hk8s, rfl⟩ := hchange.eq
    exact ⟨(hsound hst).tasks, .of_isSome hk8s⟩

theorem sound_of_held
    (hs : (manager env).Reach (fun s a => byHandlers s a = true ∧ dropsKubernetes s a = false) s)
    {doc : Config} (hheld : Held s doc) {cluster : String} {state : ClusterState}
    (hst : doc.clusters[cluster]? = some state) : ClusterState.Sound state := by
  refine Held.invariant (I := fun _ doc => ∀ {cluster : String} {state : ClusterState},
    doc.clusters[cluster]? = some state → ClusterState.Sound state) ?_ ?_ ?_ hs hheld hst
  · intro _ _ _ _ _ h
    exact h
  · intro _ r cluster state hst
    simp [UpsertManifestRequest.newConfig] at hst
  · intro s a s' doc doc' hs hok ht hheld hdoc hd cluster state' hst
    refine (hd.entry hst).sound hdoc (stacked_of_reach hs hheld cluster) ?_ hok.2
    intro msg result te stage ids hop hte hid hkind hclear
    have hanswered := answeredBy_of_reach (fun _ _ h => h.1) hs hop
    have hpublished := ((wellFormed_of_reach hs).op _ hop).1
    simp only [WorkMessage.answeredBy, hclear, Bool.and_eq_true, decide_eq_true_eq] at hanswered
    constructor
    · rw [(sameKind_of_reach hs).messages msg hpublished hheld te hte hid]
      exact hanswered.2
    · rw [hanswered.1] at hkind
      cases stage with
      | terraformer _ _ => rfl
      | _ => cases hkind

theorem clustersUnion_k8s {ord : MapOrder} {old modified del : Clusters}
    (h : clustersUnion ord old modified = .ok del) (hmodified : modified.k8s.isSome = true) :
    del.k8s.isSome = true := by
  unfold clustersUnion at h
  split at h
  next =>
    cases h
    exact hmodified
  next hold _ =>
    cases h
    simp [hold]
  next hnone => simp [hnone] at hmodified
  next =>
    obtain ⟨_, _, h⟩ := Outcome.bind_eq_ok.mp h
    obtain ⟨_, _, h⟩ := Outcome.bind_eq_ok.mp h
    obtain ⟨_, _, h⟩ := Outcome.bind_eq_ok.mp h
    obtain ⟨_, _, h⟩ := Outcome.bind_eq_ok.mp h
    obtain ⟨_, _, h⟩ := Outcome.bind_eq_ok.mp h
    cases h
    rfl

/--
Every task in flight is at a stage of its pipeline and has a kubernetes cluster, so its work message
can be built. The states that a reconciliation starts from have a kubernetes cluster, and no load
balancer is lost when the stored state is read back.
-/
theorem in_flight_is_workable
    (hs : (manager env).Reach (fun s a => byHandlers s a = true ∧ dropsKubernetes s a = false) s)
    {doc : Config} (hheld : Held s doc) {cluster : String} {state : ClusterState}
    (hst : doc.clusters[cluster]? = some state) :
    (∀ te ∈ state.inFlight, te.pipeline ≠ [] ∧ te.currentStage < te.pipeline.length
        ∧ te.task.clusters.k8s.isSome = true
        ∧ (∃ stage, te.pipeline[te.currentStage]? = some stage)
        ∧ (∃ published, messageForStage doc.name cluster te = .ok published)
        ∧ ∀ ord del, clustersUnion ord state.current te.task.clusters = .ok del →
            del.k8s.isSome = true)
      ∧ (state.current.k8s = none → state.current.loadBalancers = [])
      ∧ (state.current.isEmpty = false → state.current.k8s.isSome = true)
      ∧ state.convertToGRPC = state := by
  have hsound := sound_of_held hs hheld hst
  refine ⟨fun te hte => ?_, hsound.current, fun hempty => ?_, ?_⟩
  · have hte := hsound.tasks te hte
    have hlt := hte.stage
    refine ⟨?_, hlt, hte.k8s, ⟨_, List.getElem?_eq_getElem hlt⟩, ?_, ?_⟩
    · intro hnil
      simp [hnil] at hlt
    · unfold messageForStage
      rw [List.getElem?_eq_getElem hlt]
      exact ⟨_, rfl⟩
    · intro ord del hdel
      exact clustersUnion_k8s hdel hte.k8s
  · cases hk8s : state.current.k8s with
    | some _ => rfl
    | none => simp [Clusters.isEmpty, hk8s, hsound.current hk8s] at hempty
  · unfold ClusterState.convertToGRPC
    rw [hsound.current.convertToGRPC]

end

namespace Demo

namespace Balanced

def dynamicPool (name : String) : String :=
  "  - name: " ++ name ++ "\n    providerSpec:\n      name: hetzner-1\n      region: nbg1\n"
    ++ "    count: 1\n    serverType: cpx22\n    image: ubuntu-24.04\n"

def manifest : String :=
  "name: demo\nproviders:\n  hetzner:\n  - name: hetzner-1\n    credentials: token\nnodePools:\n"
    ++ "  dynamic:\n" ++ dynamicPool "control" ++ dynamicPool "balancers"
    ++ "kubernetes:\n  clusters:\n  - name: c1\n    version: 1.30.0\n    network: 192.168.2.0/24\n"
    ++ "    pools:\n      control: [control]\nloadBalancers:\n  roles:\n  - name: https\n"
    ++ "    protocol: tcp\n    port: 443\n    targetPort: 30143\n    targetPools: [control]\n"
    ++ "  clusters:\n  - name: lb1\n    roles: [https]\n    dns:\n      dnsZone: example.com\n"
    ++ "      provider: hetzner-1\n    targetedK8s: c1\n    pools: [balancers]\n"

def env : Env where
  digest s :=
    if s = manifest then
      0x03953aa60c59cfb5e429378a116f5b8221e2ff79a4beb8c7e8df9d3171198f1c#256
    else 0#256
  unmarshal s := if s = manifest then some ⟨"demo", []⟩ else none

def provider : Provider :=
  { specName := "hetzner-1"
    cloudProviderName := "hetzner"
    providerType := .hetzner "token"
    templates :=
      { url := "github.com/berops/claudie-config"
        commit := "v0.9.14"
        commitHash := ""
        auth := none
        paths := ⟨"templates/terraformer/hetzner", "", "", "", ""⟩ } }

def dynamic : DynamicNodePool :=
  { serverType := "cpx22"
    image := "ubuntu-24.04"
    storageDiskSize := 50
    region := "nbg1"
    zone := ""
    count := 1
    provider
    autoscalerConfig := none
    machineSpec := none
    publicKey := "public"
    privateKey := "private"
    cidr := "10.0.0.0/24"
    externalNetworkName := ""
    spot := false }

def pool (name : String) (isControl : Bool) (nodeType : NodeType) : NodePool :=
  { nodePool with
    type := .dynamic dynamic
    name
    nodes := [{ node with name := name ++ "-01", publicIp := "", nodeType }]
    isControl }

def k8s : K8scluster :=
  { Demo.k8s with clusterInfo := ⟨"c1", "abcdefg", [pool "control-hjkl" true .master]⟩ }

def lb : LBcluster :=
  { clusterInfo := ⟨"lb1", "hijklmn", [pool "balancers-asdf" false .worker]⟩
    roles := [⟨"https", "tcp", 443, 30143, .ingress, ["control"], ⟨true, false, 65000⟩⟩]
    dns := some ⟨"example.com", "qwerty", provider, "", []⟩
    targetedK8s := "c1"
    usedApiEndpoint := false }

def desired : DesiredCluster := ⟨k8s, [lb]⟩

def reconcile : Action :=
  .reconcile 0 inputs (some ((∅ : GoMap DesiredCluster).insert "c1" desired))

-- The cluster can't be built, and of what was built only the load balancer could be destroyed.
def cleanup : List Action :=
  [.upsertManifest (request manifest), .proceed 0, .watchPending "demo", reconcile]
    ++ Pools.work 0 ⟨some (.partialChange, "failed to build the cluster"), .none⟩ ++ Pools.settle
    ++ [.watchDoneOrError "demo", .proceed 0, .watchPending "demo", reconcile]
    ++ Pools.work 1 ⟨some (.partialChange, "failed to destroy c1"), .clear none ["lb1-hijklmn"]⟩

def sound (s : System) (a : Action) : Bool := byHandlers s a && !dropsKubernetes s a

theorem cleanup_isSome :
    (((manager env).guard sound).run (manager env).init cleanup).isSome = true := by
  decide +kernel

def cleanedUp : System :=
  (((manager env).guard sound).run (manager env).init cleanup).get cleanup_isSome

end Balanced

end Demo

theorem in_flight_is_workable_demo :
    ∃ doc state te, Demo.Balanced.cleanedUp.store["demo"]? = some doc
      ∧ doc.clusters["c1"]? = some state ∧ state.inFlight = [te] ∧ te.pipeline ≠ []
      ∧ te.currentStage < te.pipeline.length ∧ te.task.clusters.k8s.isSome = true := by
  have hrun : (Demo.Balanced.cleanedUp.store["demo"]?).bind (fun doc =>
      (doc.clusters["c1"]?).bind (fun state => state.inFlight.head?.map (fun te =>
        decide (state.inFlight = [te])))) = some true := by
    decide +kernel
  obtain ⟨doc, hdoc, hrun⟩ := Option.bind_eq_some_iff.mp hrun
  obtain ⟨state, hst, hrun⟩ := Option.bind_eq_some_iff.mp hrun
  obtain ⟨te, _, hrun⟩ := Option.map_eq_some_iff.mp hrun
  have hin : state.inFlight = [te] := decide_eq_true_eq.mp hrun
  have hreach := (Machine.Reach.get_run_guard Demo.Balanced.cleanup_isSome).mono
    (fun s a (h : Demo.Balanced.sound s a = true) => by
      simpa [Demo.Balanced.sound] using h)
  have hworkable := (in_flight_is_workable hreach (.inl ⟨"demo", hdoc⟩) hst).1 te (by simp [hin])
  exact ⟨doc, state, te, hdoc, hst, hin, hworkable.1, hworkable.2.1, hworkable.2.2.1⟩

namespace Demo

namespace Balanced

-- The message was delivered to a worker twice, now it is the load balancer that can't be destroyed.
def secondAttempt : List Action :=
  cleanup
    ++ [.deliver 1 ⟨some (.partialChange, "failed to destroy lb1"), .clear (some true) []⟩, .proceed 0]

theorem secondAttempt_isSome :
    (((manager env).guard byHandlers).run (manager env).init secondAttempt).isSome = true := by
  decide +kernel

def dropped : System :=
  (((manager env).guard byHandlers).run (manager env).init secondAttempt).get secondAttempt_isSome

end Balanced

end Demo

theorem in_flight_without_kubernetes :
    (manager Demo.Balanced.env).Reach (fun s a => byHandlers s a = true) Demo.Balanced.dropped
      ∧ ∃ doc state te, Demo.Balanced.dropped.store["demo"]? = some doc
          ∧ doc.clusters["c1"]? = some state ∧ state.inFlight = [te]
          ∧ te.task.clusters.k8s = none
          ∧ reconciliateCluster (Demo.inputs "c1") Demo.Balanced.dropped.fresh
              (Demo.Balanced.dropped.fresh + 1) state (some Demo.Balanced.desired.clusters)
            = .error .panic := by
  refine ⟨Machine.Reach.get_run_guard Demo.Balanced.secondAttempt_isSome, ?_⟩
  have hrun : (Demo.Balanced.dropped.store["demo"]?).bind (fun doc =>
      (doc.clusters["c1"]?).bind (fun state => state.inFlight.head?.map (fun te =>
        decide (state.inFlight = [te] ∧ te.task.clusters.k8s = none
          ∧ reconciliateCluster (Demo.inputs "c1") Demo.Balanced.dropped.fresh
              (Demo.Balanced.dropped.fresh + 1) state (some Demo.Balanced.desired.clusters)
            = .error .panic)))) = some true := by
    decide +kernel
  obtain ⟨doc, hdoc, hrun⟩ := Option.bind_eq_some_iff.mp hrun
  obtain ⟨state, hst, hrun⟩ := Option.bind_eq_some_iff.mp hrun
  obtain ⟨te, _, hrun⟩ := Option.map_eq_some_iff.mp hrun
  exact ⟨doc, state, te, hdoc, hst, decide_eq_true_eq.mp hrun⟩

end Manager

end Claudie
