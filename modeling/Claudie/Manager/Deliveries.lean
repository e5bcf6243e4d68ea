import Claudie.Lib.Progress
import Claudie.Manager.Lemmas.Messages
import Claudie.Manager.Lifecycle

/-!
Results of workers may be delivered late and more than once. What counts is the stage the stored task
is at when the result is merged into it.
-/

namespace Claudie

namespace Manager

section

variable {env : Env} {s s' : System} {a : Action}

structure Merged (s : System) (i : Nat) (msg : WorkMessage) (result : TaskResult) (doc : Config)
    (state : ClusterState) (te : TaskEvent) (lower : List TaskEvent) (stage : Stage)
    (state' : ClusterState) : Prop where
  op : s.ops[i]? = some (.process msg result doc)
  stored : s.store[msg.inputManifest]? = some doc
  entry : doc.clusters[msg.cluster]? = some state
  accepts : Accepts (msg.work result) state te lower stage
  step : ProcessStep (msg.work result) s.fresh state te lower stage state'

theorem delivery_cases {i : Nat} {msg : WorkMessage} {result : TaskResult} {doc : Config}
    (hwf : WellFormed s) (hco : ∀ op ∈ s.ops, Coherent s op)
    (hi : s.ops[i]? = some (.process msg result doc))
    (hstep : step env s (.proceed i) = some s') :
    s'.store = s.store ∨ ∃ state te lower stage state',
      Merged s i msg result doc state te lower stage state'
        ∧ s'.store = s.store.insert doc.name
          (Config.bump { doc with clusters := doc.clusters.insert msg.cluster state' }) := by
  have hmem := List.mem_of_getElem? hi
  cases step_transition hstep with
  | start hstarts => cases hstarts
  | finish _ _ => exact .inl rfl
  | advance _ _ => exact .inl rfl
  | write hi' hw hstored hv =>
    obtain ⟨old, hold⟩ := hw.doc?
    cases hw with
    | process hp =>
      rw [hi] at hi'
      cases hi'
      obtain ⟨state, te, lower, stage, state', hentry, haccepts, hprocess, rfl⟩ :=
        processTask_eq_some hp
      have hsees := (hco _ hmem doc rfl).commit hstored hv
      have hname := (hwf.op _ hmem).2
      cases hsees
      refine .inr ⟨state, te, lower, stage, state', ⟨hi, ?_, hentry, haccepts, hprocess⟩, rfl⟩
      rw [← hname]
      exact hstored
    | _ =>
      rw [hi] at hi'
      cases hi'
  | create hi' _ =>
    rw [hi] at hi'
    cases hi'
  | delete hi' _ _ _ =>
    rw [hi] at hi'
    cases hi'

theorem delivers_eq_true {id : TaskId} {stage : Nat} (h : delivers s a id stage = true) :
    ∃ i msg result doc, a = .proceed i ∧ s.ops[i]? = some (.process msg result doc)
      ∧ msg.taskID = id ∧ msg.stage = stage := by
  unfold delivers at h
  split at h
  next i =>
    split at h
    next msg result doc hi =>
      rw [Bool.and_eq_true, decide_eq_true_eq, decide_eq_true_eq] at h
      exact ⟨i, msg, result, doc, rfl, hi, h.1, h.2⟩
    next => cases h
  next => cases h

theorem delivery_of_not_atStage {id : TaskId} {stage : Nat}
    (hs : (manager env).Reach (fun s a => recreates s a = false) s)
    (hstep : step env s a = some s') (hdelivers : delivers s a id stage = true)
    (hat : ¬ AtStage s id stage) : s'.store = s.store := by
  obtain ⟨i, msg, result, doc, rfl, hi, rfl, rfl⟩ := delivers_eq_true hdelivers
  obtain hsame | ⟨state, te, lower, stage, state', hm, _⟩ :=
    delivery_cases (wellFormed_of_reach hs) (fun _ => coherent_of_reach hs) hi hstep
  · exact hsame
  · refine absurd ⟨msg.inputManifest, doc, msg.cluster, te, hm.stored, ?_, hm.accepts.id,
      hm.accepts.taskStage⟩ hat
    simp [Config.chain_of_getElem? hm.entry, hm.accepts.inFlight]

def progress (env : Env) : Progress (manager env) (fun s a => recreates s a = false) where
  active := AtStage
  fresh := System.fresh
  moves s a id stage := delivers s a id stage = true
  bound := by
    rintro s id stage hs ⟨name, doc, cluster, te, hdoc, hte, rfl, _⟩
    obtain ⟨owner, howned⟩ := owned_of_reach hs
    exact (howned.task (.inl ⟨name, hdoc⟩) te hte).1
  unique := by
    rintro s id stage stage' hs ⟨name, doc, cluster, te, hdoc, hte, hid, rfl⟩
      ⟨name', doc', cluster', te', hdoc', hte', hid', rfl⟩
    obtain ⟨owner, howned⟩ := owned_of_reach hs
    obtain ⟨_, _, rfl⟩ :=
      howned.unique (wellFormed_of_reach hs) hdoc hte hdoc' hte' (hid.trans hid'.symm)
    rfl
  mono hstep := (step_transition hstep).fresh_le
  step hs _ hstep hat :=
    (step_transition hstep).atStage (wellFormed_of_reach hs) (fun _ => coherent_of_reach hs) hat

def System.stages (s : System) : List (TaskId × Nat) :=
  s.store.toList.flatMap (fun entry => entry.2.clusters.toList.flatMap (fun entry =>
    entry.2.inFlight.map (fun te => (te.id, te.currentStage))))

theorem atStage_iff {id : TaskId} {stage : Nat} : AtStage s id stage ↔ (id, stage) ∈ s.stages := by
  unfold System.stages
  simp only [List.mem_flatMap, List.mem_map, Prod.exists,
    Std.ExtTreeMap.mem_toList_iff_getElem?_eq_some, Prod.mk.injEq]
  constructor
  · rintro ⟨name, doc, cluster, te, hdoc, hte, hid, hstage⟩
    obtain ⟨state, hst, hmem⟩ := Config.exists_of_mem_chain hte
    exact ⟨name, doc, hdoc, cluster, state, hst, te, hmem, hid, hstage⟩
  · rintro ⟨name, doc, hdoc, cluster, state, hst, te, hmem, hid, hstage⟩
    exact ⟨name, doc, cluster, te, hdoc, by rwa [Config.chain_of_getElem? hst], hid, hstage⟩

instance (s : System) (id : TaskId) (stage : Nat) : Decidable (AtStage s id stage) :=
  decidable_of_iff _ atStage_iff.symm

/--
A task leaves its stage for the next one only, by a delivery of a result for the stage it leaves.
After it has left a stage, in whatever way, no delivery for this stage changes the store.
-/
theorem stage_is_left_once {id : TaskId} {stage : Nat}
    (hs : (manager env).Reach (fun s a => recreates s a = false) s)
    (hok : recreates s a = false) (hstep : step env s a = some s') (hat : AtStage s id stage) :
    (∀ stage', AtStage s' id stage' →
      stage' = stage ∨ stage' = stage + 1 ∧ delivers s a id stage = true)
    ∧ (¬ AtStage s' id stage →
      ∀ t b t', (manager env).Steps (fun s a => recreates s a = false) s' t →
        step env t b = some t' → delivers t b id stage = true →
          t'.store = t.store ∧ ¬ AtStage t' id stage) := by
  constructor
  · intro stage' hat'
    obtain hnew | ⟨k, hk, hmove⟩ := (progress env).step hs hok hstep hat'
    · exact absurd ((progress env).bound hs hat) (Nat.not_lt.mpr hnew)
    · obtain rfl := (progress env).unique hs hk hat
      exact hmove
  · intro hleft t b t' hrun hstep' hdelivers
    have hpassed : (progress env).Passed s' id stage :=
      Progress.passed_of_left hs hok hstep hat hleft
    have hs' := hs.step hok hstep
    have hnot : ¬ AtStage t id stage := (hpassed.steps hs' hrun).not_active
    have hstore := delivery_of_not_atStage (hs'.steps hrun) hstep' hdelivers hnot
    refine ⟨hstore, ?_⟩
    unfold AtStage at hnot ⊢
    rwa [hstore]

end

namespace Demo

-- The first stage of the task that creates the cluster is done, and the result is delivered twice.
def redelivery : List Action :=
  [.upsertManifest (request oneCluster), .proceed 0, .watchPending "demo",
    .reconcile 0 inputs (some desired), .watchScheduled "demo", .scan 0 "c1" .unconfirmed,
    .proceed 0, .deliver 0 ⟨none, .none⟩, .deliver 0 ⟨none, .none⟩]

def notRecreated (s : System) (a : Action) : Bool := !recreates s a

theorem notRecreated_iff {s : System} {a : Action} :
    notRecreated s a = true ↔ recreates s a = false := by
  simp [notRecreated]

theorem redelivery_isSome :
    (((manager env).guard notRecreated).run (manager env).init redelivery).isSome = true := by
  decide +kernel

def redelivered : System :=
  (((manager env).guard notRecreated).run (manager env).init redelivery).get redelivery_isSome

theorem redelivered_reach :
    (manager env).Reach (fun s a => recreates s a = false) redelivered :=
  (Machine.Reach.get_run_guard redelivery_isSome).mono (fun _ _ => notRecreated_iff.mp)

end Demo

theorem stage_is_left_once_demo :
    ∃ s' t', step Demo.env Demo.redelivered (.proceed 0) = some s' ∧ ¬ AtStage s' 0 0
      ∧ step Demo.env s' (.proceed 0) = some t' ∧ delivers s' (.proceed 0) 0 0 = true
      ∧ t'.store = s'.store ∧ ¬ AtStage t' 0 0 := by
  have hrun : ((step Demo.env Demo.redelivered (.proceed 0)).bind (fun s' =>
      (step Demo.env s' (.proceed 0)).map (fun _ =>
        decide (¬ AtStage s' 0 0 ∧ delivers s' (.proceed 0) 0 0 = true)))) = some true := by
    decide +kernel
  obtain ⟨s', hs', hrun⟩ := Option.bind_eq_some_iff.mp hrun
  obtain ⟨t', ht', hrun⟩ := Option.map_eq_some_iff.mp hrun
  obtain ⟨hleft, hdelivers⟩ := decide_eq_true_eq.mp hrun
  have hat : AtStage Demo.redelivered 0 0 := by decide +kernel
  have hok : recreates Demo.redelivered (.proceed 0) = false := by decide +kernel
  have honce := stage_is_left_once Demo.redelivered_reach hok hs' hat
  exact ⟨s', t', hs', hleft, ht', hdelivers, honce.2 hleft s' _ t' .refl ht' hdelivers⟩

namespace Demo

def work (msg : Nat) (result : TaskResult) : List Action :=
  [.watchScheduled "demo", .scan 1 "c1" .acked, .proceed 1, .deliver msg result, .proceed 1]

def settle : List Action :=
  [.watchScheduled "demo", .scan 1 "c1" .acked, .proceed 1, .proceed 1, .watchDoneOrError "demo",
    .proceed 1]

def recreation : List Action :=
  [.markForDeletion "demo" 2]
    ++ work 1 ⟨some (.fatal, "failed to install vpn"), .none⟩ ++ settle
    ++ [.watchPending "demo", .reconcile 1 inputs none]
    ++ work 2 ⟨none, .none⟩ ++ work 3 ⟨none, .none⟩ ++ work 4 ⟨none, .clear (some true) []⟩ ++ settle
    ++ [.watchPending "demo", .reconcile 1 inputs none, .watchScheduled "demo", .proceed 1,
      .proceed 1, .watchDoneOrError "demo", .proceed 1]
    ++ [.upsertManifest (request oneCluster), .proceed 1, .watchPending "demo",
      .reconcile 1 inputs (some desired)]

end Demo

theorem stage_is_left_twice :
    ∃ s' t t', (manager Demo.env).Reachable Demo.redelivered ∧ AtStage Demo.redelivered 0 0
      ∧ step Demo.env Demo.redelivered (.proceed 0) = some s' ∧ ¬ AtStage s' 0 0 ∧ AtStage s' 0 1
      ∧ (manager Demo.env).Steps (fun _ _ => True) s' t
      ∧ step Demo.env t (.proceed 0) = some t' ∧ delivers t (.proceed 0) 0 0 = true
      ∧ ¬ AtStage t 0 1 ∧ AtStage t' 0 1 ∧ t'.store ≠ t.store := by
  have hrun : ((step Demo.env Demo.redelivered (.proceed 0)).bind (fun s' =>
      ((manager Demo.env).run s' Demo.recreation).bind (fun t =>
        (step Demo.env t (.proceed 0)).map (fun t' =>
          decide (¬ AtStage s' 0 0 ∧ AtStage s' 0 1 ∧ delivers t (.proceed 0) 0 0 = true
            ∧ ¬ AtStage t 0 1 ∧ AtStage t' 0 1))))) = some true := by
    decide +kernel
  obtain ⟨s', hs', hrun⟩ := Option.bind_eq_some_iff.mp hrun
  obtain ⟨t, ht, hrun⟩ := Option.bind_eq_some_iff.mp hrun
  obtain ⟨t', ht', hrun⟩ := Option.map_eq_some_iff.mp hrun
  obtain ⟨hleft, hnext, hdelivers, hbefore, hafter⟩ := decide_eq_true_eq.mp hrun
  refine ⟨s', t, t', Demo.redelivered_reach.reachable, by decide +kernel, hs', hleft, hnext,
    .run ht, ht', hdelivers, hbefore, hafter, fun hstore => ?_⟩
  unfold AtStage at hbefore hafter
  rw [hstore] at hafter
  exact hbefore hafter

def Op.delivery? : Op → Option (WorkMessage × TaskResult × Config)
  | .process msg result doc => some (msg, result, doc)
  | _ => none

theorem Op.delivery?_eq_some {op : Op} {msg : WorkMessage} {result : TaskResult} {doc : Config}
    (h : op.delivery? = some (msg, result, doc)) : op = .process msg result doc := by
  cases op <;> cases h
  rfl

def System.announced (s : System) (te : TaskEvent) : Bool :=
  s.published.any (fun msg => msg.taskID = te.id && msg.stage = te.currentStage)

def mergesPartially (te : TaskEvent) (result : TaskResult) : Bool :=
  match result.error, te.pipeline[te.currentStage]? with
  | some (.partialChange, _), some stage =>
    stage.description.errorLevel ≠ .warn && result.result ≠ .none
  | _, _ => false

-- The task is at its last stage, and the one below it has been worked on before.
def handsDown (s : System) (te : TaskEvent) (lower : List TaskEvent) : Bool :=
  match lower with
  | next :: _ => te.pipeline.length ≤ te.currentStage + 1 && s.announced next
  | [] => false

-- The credentials of a task that has been worked on are not those of the manifest.
def rotatesCredentials (s : System) (doc : Config) (desired : GoMap Clusters) : Bool :=
  doc.clusters.toList.any (fun entry =>
    match entry.2.inFlight, presentDesired desired[entry.1]? with
    | te :: _, some d => s.announced te && (updateCredentials te.task.clusters d).2
    | _, _ => false)

def disturbs (s : System) : Action → Bool
  | .proceed i =>
    match s.ops[i]? with
    | some (.process msg result doc) =>
      match doc.chain msg.cluster with
      | te :: lower =>
        te.id = msg.taskID && te.currentStage = msg.stage
          && (mergesPartially te result || handsDown s te lower)
      | [] => false
    | _ => false
  | .reconcile i _ fromManifest =>
    match s.ops[i]? with
    | some (.pending doc) => (createDesiredState fromManifest doc).any (rotatesCredentials s doc)
    | _ => false
  | _ => false

section answered

variable {env : Env} {s s' : System} {a : Action} {msg : WorkMessage}

theorem announced_of_published {te : TaskEvent} (h : msg ∈ s.published) (hid : te.id = msg.taskID)
    (hstage : te.currentStage = msg.stage) : s.announced te = true :=
  List.any_eq_true.mpr ⟨msg, h, by simp [hid, hstage]⟩

theorem disturbs_process {i : Nat} {m : WorkMessage} {result : TaskResult} {doc : Config}
    {state : ClusterState} {te : TaskEvent} {lower : List TaskEvent} {stage : Stage}
    (hi : s.ops[i]? = some (.process m result doc)) (hst : doc.clusters[m.cluster]? = some state)
    (haccepts : Accepts (m.work result) state te lower stage)
    (h : disturbs s (.proceed i) = false) :
    mergesPartially te result = false ∧ handsDown s te lower = false := by
  have hid : te.id = m.taskID := haccepts.id
  have hstage : te.currentStage = m.stage := haccepts.taskStage
  have hchain : doc.chain m.cluster = te :: lower := by
    rw [Config.chain_of_getElem? hst, haccepts.inFlight]
  simpa [disturbs, hi, hchain, hid, hstage] using h

theorem rotatesCredentials_eq_false {doc : Config} {desired : GoMap Clusters} {cluster : String}
    {state : ClusterState} {te : TaskEvent} {lower : List TaskEvent} {d : Clusters}
    (h : rotatesCredentials s doc desired = false) (hst : doc.clusters[cluster]? = some state)
    (hin : state.inFlight = te :: lower) (hd : presentDesired desired[cluster]? = some d)
    (hannounced : s.announced te = true) : (updateCredentials te.task.clusters d).2 = false := by
  have hentry := List.any_eq_false.mp h (cluster, state)
    (Std.ExtTreeMap.mem_toList_iff_getElem?_eq_some.mpr hst)
  simpa [hin, hd, hannounced] using hentry

-- A fatal error merges nothing, nor does a result without content.
theorem ProcessStep.clusters_of_failed {result : TaskResult} {te te' : TaskEvent}
    {stage : Stage} (hmerges : Merges (msg.work result) te te')
    (herror : result.error.isSome = true) (hlevel : stage.description.errorLevel ≠ .warn)
    (hpipeline : te.pipeline[te.currentStage]? = some stage)
    (h : mergesPartially te result = false) : te'.task = te.task := by
  cases hmerges with
  | fatal _ => rfl
  | merged hfatal hconsume =>
    obtain ⟨⟨kind, description⟩, hkind⟩ := Option.isSome_iff_exists.mp herror
    cases kind with
    | fatal => exact absurd hkind (hfatal description)
    | partialChange =>
      have hnone : result.result = .none := by
        simpa [mergesPartially, hkind, hpipeline, hlevel] using h
      simp only [WorkMessage.work, hnone, Task.consumeResult, Except.ok.injEq] at hconsume
      exact hconsume.symm

def Kept (chain : List TaskEvent) (te' : TaskEvent) : Prop :=
  ∃ te ∈ chain, te.id = te'.id ∧ te.currentStage = te'.currentStage
    ∧ te.task.clusters = te'.task.clusters

theorem Kept.of_mem {chain : List TaskEvent} {te : TaskEvent} (h : te ∈ chain) : Kept chain te :=
  ⟨te, h, rfl, rfl, rfl⟩

theorem Kept.of_lower {head te : TaskEvent} {lower : List TaskEvent} (h : te ∈ lower) :
    Kept (head :: lower) te :=
  .of_mem (List.mem_cons_of_mem _ h)

theorem Rechained.kept_of_mem {desired : Option Clusters} {id newUUID : TaskId}
    {state state' : ClusterState} (h : Rechained desired id newUUID state state')
    {te' : TaskEvent} (hmem : te' ∈ state'.inFlight) (hid : te'.id ≠ id) (hnew : te'.id ≠ newUUID)
    (hrotate : ∀ te lower d, state.inFlight = te :: lower → presentDesired desired = some d →
      te.id = te'.id → te.currentStage = te'.currentStage →
      (updateCredentials te.task.clusters d).2 = false) :
    Kept state.inFlight te' := by
  cases h with
  | kept hin _ =>
    rw [hin] at hmem
    exact .of_mem hmem
  | cleared hin =>
    rw [hin] at hmem
    cases hmem
  | replaced hte hin =>
    rw [hin, List.mem_singleton] at hmem
    subst hmem
    exact absurd hte.id hid
  | pushed hte hin =>
    rw [hin] at hmem
    obtain rfl | hmem := List.mem_cons.mp hmem
    · exact absurd hte.id hnew
    · exact .of_mem hmem
  | renamed hin _ hin' =>
    rw [hin'] at hmem
    rw [hin]
    obtain rfl | hmem := List.mem_cons.mp hmem
    · exact absurd rfl hnew
    · exact .of_lower hmem
  | @credentials d te lower hd hin hin' _ =>
    rw [hin'] at hmem
    obtain rfl | hmem := List.mem_cons.mp hmem
    · have hsame := updateCredentials_of_not_updated (hrotate te lower d hin hd rfl rfl)
      refine ⟨te, by simp [hin], rfl, rfl, ?_⟩
      simp [TaskEvent.mapClusters, hsame]
    · rw [hin]
      exact .of_lower hmem

theorem ProcessStep.kept_of_mem {result : TaskResult} {newUUID : TaskId} {state state' : ClusterState}
    {te te' : TaskEvent} {lower : List TaskEvent} {stage : Stage}
    (h : ProcessStep (msg.work result) newUUID state te lower stage state')
    (hpipeline : te.pipeline[te.currentStage]? = some stage) (hmem : te' ∈ state'.inFlight)
    (hnew : te'.id ≠ newUUID) (hstage : te.id = te'.id → te'.currentStage ≤ te.currentStage)
    (hpart : mergesPartially te result = false)
    (hlower : ∀ next rest, lower = next :: rest → te.pipeline.length ≤ te.currentStage + 1 →
      ¬ (next.id = te'.id ∧ next.currentStage = te'.currentStage)) :
    Kept (te :: lower) te' := by
  cases h with
  | renamed _ hin _ =>
    rw [hin] at hmem
    obtain rfl | hmem := List.mem_cons.mp hmem
    · exact absurd rfl hnew
    · exact .of_lower hmem
  | failed hmerges herror hlevel _ hin _ =>
    rw [hin] at hmem
    obtain rfl | hmem := List.mem_cons.mp hmem
    · have htask := clusters_of_failed hmerges herror hlevel hpipeline hpart
      exact ⟨te, List.mem_cons_self, hmerges.id.symm, hmerges.currentStage.symm, by rw [htask]⟩
    · exact .of_lower hmem
  | advanced hmerges _ _ hin _ =>
    rw [hin] at hmem
    obtain rfl | hmem := List.mem_cons.mp hmem
    · have hle : _ + 1 ≤ te.currentStage := hstage hmerges.id.symm
      rw [hmerges.currentStage] at hle
      omega
    · exact .of_lower hmem
  | handedDown _ hnone hlow _ hin _ =>
    rw [hin] at hmem
    rw [hlow]
    obtain rfl | hmem := List.mem_cons.mp hmem
    · exact absurd ⟨rfl, rfl⟩ (hlower _ _ hlow (List.getElem?_eq_none_iff.mp hnone))
    · exact .of_lower (List.mem_cons_of_mem _ hmem)
  | completed _ _ _ _ hin _ =>
    rw [hin] at hmem
    cases hmem

theorem EntryStep.kept_of_mem
    (hs : (manager env).Reach (fun s a => recreates s a = false) s)
    (hok : disturbs s a = false) {fresh : TaskId} {name : String} {doc : Config} {cluster : String}
    {state' : ClusterState} (h : EntryStep s a fresh doc cluster state')
    (hdoc : s.store[name]? = some doc) (hoffered : Offered s msg) {te' : TaskEvent}
    (hmem : te' ∈ state'.inFlight) (hid : te'.id = msg.taskID)
    (hstage : te'.currentStage = msg.stage) : Kept (doc.chain cluster) te' := by
  obtain ⟨owner, howned⟩ := owned_of_reach hs
  have hlt : te'.id < s.fresh := hid ▸ (howned.offered hoffered).1
  -- the pass that may still publish the message holds an older document of the same config.
  have hpass : ∀ {te : TaskEvent} {p : ScheduledPass} {c : String}, te ∈ doc.chain cluster →
      te.id = msg.taskID → .scheduled p ∈ s.ops → Offers p.doc c msg →
      c = cluster ∧ s.store[p.doc.name]? = some doc := by
    intro te p c hte hteid hp hoffers
    obtain ⟨state, head, lower, stage, hann⟩ := hoffers.announces
    have howner := (howned.task (.inr ⟨_, hp, rfl⟩) head hann.mem_chain).2
    have howner' := (howned.task (.inl ⟨name, hdoc⟩) te hte).2
    have hsame : head.id = te.id := by rw [hteid, hann.msg]
    rw [hsame, howner', Option.some.injEq, Prod.mk.injEq] at howner
    refine ⟨howner.2.symm, ?_⟩
    rw [← howner.1, (wellFormed_of_reach hs).name hdoc, hdoc]
  cases h with
  | same hst =>
    rw [Config.chain_of_getElem? hst]
    exact .of_mem hmem
  | @reconciled i inputs fromManifest desired _ _ _ state _ ha hi hdesired hentry _ =>
    subst ha
    rw [hentry.chain]
    have hrot : rotatesCredentials s doc desired = false := by
      simpa [disturbs, hi, hdesired] using hok
    refine hentry.step.rechained.kept_of_mem hmem ?_ ?_ ?_
    · exact Nat.ne_of_lt (Nat.lt_of_lt_of_le hlt (Nat.le_add_right _ _))
    · exact Nat.ne_of_lt (Nat.lt_of_lt_of_le hlt (Nat.le_trans (Nat.le_add_right _ _)
        (Nat.le_add_right _ _)))
    · intro te lower d hin hd hteid htestage
      have hchain := hentry.chain
      rw [hin] at hchain
      have hte : te ∈ doc.chain cluster := by simp [hchain]
      obtain ⟨st, hst, _⟩ := Config.exists_of_mem_chain hte
      rw [Config.chain_of_getElem? hst] at hchain
      obtain hpublished | ⟨p, c, hp, _, hoffers⟩ := hoffered
      · exact rotatesCredentials_eq_false hrot hst hchain hd
          (announced_of_published hpublished (hteid.trans hid) (htestage.trans hstage))
      · exact absurd hi (not_pending_of_locked hs hp (hpass hte (hteid.trans hid) hp hoffers).2)
  | noWork _ hno =>
    rw [hno.inFlight'] at hmem
    cases hmem
  | picked hst hpub =>
    rw [hpub.inFlight'] at hmem
    rw [Config.chain_of_getElem? hst, hpub.inFlight]
    exact .of_mem hmem
  | @processed i m result state _ te lower stage ha hi hcluster hst haccepts hstep hfresh =>
    subst ha hcluster
    have hchain : doc.chain m.cluster = te :: lower := by
      rw [Config.chain_of_getElem? hst, haccepts.inFlight]
    obtain ⟨hpart, hhands⟩ := disturbs_process hi hst haccepts hok
    rw [hchain]
    refine hstep.kept_of_mem haccepts.pipeline hmem (Nat.ne_of_lt hlt) ?_ hpart ?_
    · intro hteid
      rw [hstage]
      refine offered_stage_le hs hoffered ⟨name, doc, m.cluster, te, hdoc, ?_, hteid.trans hid, rfl⟩
      simp [hchain]
    · rintro next rest hlow hlast ⟨hnextid, hnextstage⟩
      subst hlow
      have hnext : next ∈ doc.chain m.cluster := by simp [hchain]
      obtain hpublished | ⟨p, c, hp, htodo, hoffers⟩ := hoffered
      · have hann := announced_of_published hpublished (hnextid.trans hid)
          (hnextstage.trans hstage)
        simp [handsDown, hlast, hann] at hhands
      · obtain ⟨rfl, hstored⟩ := hpass hnext (hnextid.trans hid) hp hoffers
        refine offered_not_mem_tail hs hp htodo hoffers hstored ?_ (hnextid.trans hid)
        simp [hchain]
  | modified hst hchange =>
    obtain ⟨current, _, rfl⟩ := hchange.eq
    rw [Config.chain_of_getElem? hst]
    exact .of_mem hmem

theorem answered_state
    (hs : (manager env).Reach (fun s a => recreates s a = false ∧ disturbs s a = false) s)
    (hoffered : Offered s msg) {name : String} {stored : Config} {cluster : String}
    {te : TaskEvent} (hstored : s.store[name]? = some stored) (hte : te ∈ stored.chain cluster)
    (hid : te.id = msg.taskID) (hstage : te.currentStage = msg.stage) :
    te.task.clusters = msg.task.clusters := by
  induction hs generalizing name stored cluster te with
  | init => simp [manager, System.init] at hstored
  | step hs hok hstep ih =>
    have hs' := hs.mono (fun _ _ h => h.1)
    have hwf := wellFormed_of_reach hs
    have ht := step_transition hstep
    obtain ⟨owner, howned⟩ := owned_of_reach hs
    obtain hold | ⟨doc, c, hlists⟩ := ht.offered hwf hoffered
    · obtain ⟨state', hst, hmem⟩ := Config.exists_of_mem_chain hte
      obtain ⟨doc, hdoc, hentry⟩ := ht.entry hwf (fun _ => coherent_of_reach hs') hstored hst
      obtain ⟨te₀, hte₀, hid₀, hstage₀, hclusters⟩ :=
        hentry.kept_of_mem hs' hok.2 hdoc hold hmem hid hstage
      rw [← hclusters]
      exact ih hold hdoc hte₀ (hid₀.trans hid) (hstage₀.trans hstage)
    · rw [hlists.store] at hstored
      obtain ⟨_, _, _, _, _, hann⟩ := hlists.unique howned hwf hstored hte hid
      rw [hann.msg]

theorem merged_into_answered_state
    (hs : (manager env).Reach (fun s a => recreates s a = false ∧ disturbs s a = false) s)
    {i : Nat} {result : TaskResult} {doc : Config}
    (hi : s.ops[i]? = some (.process msg result doc))
    (hstep : step env s (.proceed i) = some s') (hstore : s'.store ≠ s.store) :
    ∃ stored state te lower, s.store[msg.inputManifest]? = some stored
      ∧ stored.clusters[msg.cluster]? = some state ∧ state.inFlight = te :: lower
      ∧ te.task.clusters = msg.task.clusters := by
  have hs' := hs.mono (fun _ _ h => h.1)
  have hwf := wellFormed_of_reach hs
  obtain hsame | ⟨state, te, lower, stage, state', hm, _⟩ :=
    delivery_cases hwf (fun _ => coherent_of_reach hs') hi hstep
  · exact absurd hsame hstore
  · refine ⟨doc, state, te, lower, hm.stored, hm.entry, hm.accepts.inFlight, ?_⟩
    have hpublished : msg ∈ s.published := (hwf.op _ (List.mem_of_getElem? hi)).1
    have hte : te ∈ doc.chain msg.cluster := by
      simp [Config.chain_of_getElem? hm.entry, hm.accepts.inFlight]
    exact answered_state hs (.inl hpublished) hm.stored hte hm.accepts.id hm.accepts.taskStage

end answered

namespace Demo

def steady (s : System) (a : Action) : Bool := !recreates s a && !disturbs s a

theorem steady_iff {s : System} {a : Action} :
    steady s a = true ↔ recreates s a = false ∧ disturbs s a = false := by
  simp [steady]

theorem redelivery_steady :
    (((manager env).guard steady).run (manager env).init redelivery).isSome = true := by
  decide +kernel

def steadilyRedelivered : System :=
  (((manager env).guard steady).run (manager env).init redelivery).get redelivery_steady

end Demo

theorem merged_into_answered_state_demo :
    ∃ msg result doc s', Demo.steadilyRedelivered.ops[0]? = some (.process msg result doc)
      ∧ step Demo.env Demo.steadilyRedelivered (.proceed 0) = some s'
      ∧ s'.store ≠ Demo.steadilyRedelivered.store
      ∧ ∃ stored state te lower,
          Demo.steadilyRedelivered.store[msg.inputManifest]? = some stored
            ∧ stored.clusters[msg.cluster]? = some state ∧ state.inFlight = te :: lower
            ∧ te.task.clusters = msg.task.clusters := by
  have hop : ((Demo.steadilyRedelivered.ops[0]?).bind Op.delivery?).isSome = true := by
    decide +kernel
  obtain ⟨⟨msg, result, doc⟩, hop⟩ := Option.isSome_iff_exists.mp hop
  obtain ⟨op, hi, hop⟩ := Option.bind_eq_some_iff.mp hop
  obtain rfl := Op.delivery?_eq_some hop
  have hrun : (step Demo.env Demo.steadilyRedelivered (.proceed 0)).map (fun s' =>
      decide (s'.store ≠ Demo.steadilyRedelivered.store)) = some true := by
    decide +kernel
  obtain ⟨s', hs', hstore⟩ := Option.map_eq_some_iff.mp hrun
  rw [decide_eq_true_eq] at hstore
  have hreach := (Machine.Reach.get_run_guard Demo.redelivery_steady).mono
    (fun _ _ => Demo.steady_iff.mp)
  exact ⟨msg, result, doc, s', hi, hs', hstore,
    merged_into_answered_state hreach hi hs' hstore⟩

namespace Demo

namespace Pools

def manifest (version compute : String) : String :=
  "name: demo\nnodePools:\n  static:\n  - name: control\n    nodes:\n    - endpoint: 192.0.2.1\n"
    ++ "      username: root\n      privateKey: key\n  - name: workers\n    nodes:\n"
    ++ "    - endpoint: 192.0.2.2\n      username: root\n      privateKey: key\nkubernetes:\n"
    ++ "  clusters:\n  - name: c1\n    version: " ++ version ++ "\n    network: 192.168.2.0/24\n"
    ++ "    pools:\n      control: [control]\n" ++ compute

def initial : String := manifest "1.30.0" "      compute: [workers]\n"

def upgraded : String := manifest "1.31.0" "      compute: [workers]\n"

def shrunk : String := manifest "1.31.0" ""

def env : Env where
  digest s :=
    if s = initial then
      0xceec5c6dfd4780a9d1f1ee1bf1f5c2e7f4ce13873256da5630d06770310c5672#256
    else if s = upgraded then
      0x1777707bb73f13cf73c672822566f93a410abb6f81ee0fa27f40a10d081e0b87#256
    else if s = shrunk then
      0x5c5ee9093db6b7e6ba375ee8413ba90739941cf00b4347c58f010800848a0302#256
    else 0#256
  unmarshal s :=
    if s = initial ∨ s = upgraded ∨ s = shrunk then some ⟨"demo", ["192.0.2.1", "192.0.2.2"]⟩
    else none

def control : NodePool := { nodePool with nodes := [{ node with nodeType := .apiEndpoint }] }

def workers : NodePool :=
  { nodePool with
    type := .static ⟨(∅ : GoMap String).insert "192.0.2.2" "key"⟩
    name := "workers"
    nodes := [{ node with name := "workers-01", publicIp := "192.0.2.2", nodeType := .worker }]
    isControl := false }

def k8s (version : String) (nps : List NodePool) : K8scluster :=
  { Demo.k8s with clusterInfo := ⟨"c1", "abcdefg", nps⟩, kubernetes := version }

def desired (k8s : K8scluster) : Option (GoMap DesiredCluster) :=
  some ((∅ : GoMap DesiredCluster).insert "c1" ⟨k8s, []⟩)

def updated (version : String) (nps : List NodePool) : TaskResult :=
  ⟨none, .update (some (k8s version nps)) (some [])⟩

-- The node of the nodepool `workers` has not responded for an hour.
def lostWorker : String → ReconcileInput :=
  fun _ => ⟨.ascending, ⟨[], none⟩,
    ⟨some [⟨"Node", "control-01", [⟨"Ready", "True", 0⟩]⟩,
        ⟨"Node", "workers-01", [⟨"Ready", "Unknown", 3600000000000⟩]⟩], false, 0, 0, false, []⟩⟩

def work (msg : Nat) (result : TaskResult) : List Action :=
  [.watchScheduled "demo", .scan 0 "c1" .acked, .proceed 0, .deliver msg result, .proceed 0]

def settle : List Action := [.watchScheduled "demo", .scan 0 "c1" .acked, .proceed 0, .proceed 0]

def resubmit (raw : String) : List Action :=
  [.upsertManifest (request raw), .proceed 0, .proceed 0, .watchDoneOrError "demo", .proceed 0,
    .watchPending "demo"]

def creation : List Action :=
  [.upsertManifest (request initial), .proceed 0, .watchPending "demo",
      .reconcile 0 inputs (desired (k8s "1.30.0" [nodePool, workers]))]
    ++ work 0 ⟨none, .none⟩ ++ work 1 ⟨none, .none⟩ ++ work 2 (updated "1.30.0" [control, workers])
    ++ work 3 ⟨none, .none⟩ ++ settle

-- The upgrade fails once, then a node is removed before the upgrade is tried again.
def removal : List Action :=
  resubmit upgraded ++ [.reconcile 0 inputs (desired (k8s "1.31.0" [control, workers]))]
    ++ work 4 ⟨some (.fatal, "node workers-01 does not respond"), .none⟩ ++ settle
    ++ resubmit shrunk ++ [.reconcile 0 lostWorker (desired (k8s "1.31.0" [control]))]
    ++ work 5 (updated "1.30.0" [control, { workers with type := .static ⟨∅⟩, nodes := [] }])
    ++ work 6 ⟨none, .none⟩ ++ work 7 ⟨none, .none⟩

-- The message of the upgrade was delivered to the worker twice, the second attempt succeeds.
def lateUpgrade : List Action :=
  creation ++ removal ++ [.deliver 4 (updated "1.31.0" [control, workers])]

theorem lateUpgrade_isSome : ((manager env).run (manager env).init lateUpgrade).isSome = true := by
  decide +kernel

def beforeMerge : System := ((manager env).run (manager env).init lateUpgrade).get lateUpgrade_isSome

end Pools

end Demo

theorem merged_into_newer_state :
    (manager Demo.Pools.env).Reachable Demo.Pools.beforeMerge
      ∧ ∃ msg result doc stored state te s',
          Demo.Pools.beforeMerge.ops[0]? = some (.process msg result doc)
            ∧ result.error = none ∧ result.result ≠ .none
            ∧ Demo.Pools.beforeMerge.store[msg.inputManifest]? = some stored
            ∧ stored.clusters[msg.cluster]? = some state ∧ state.inFlight = [te]
            ∧ te.task.clusters ≠ msg.task.clusters
            ∧ step Demo.Pools.env Demo.Pools.beforeMerge (.proceed 0) = some s'
            ∧ s'.store ≠ Demo.Pools.beforeMerge.store := by
  refine ⟨Machine.Reach.get_run Demo.Pools.lateUpgrade_isSome, ?_⟩
  have hrun : ((Demo.Pools.beforeMerge.ops[0]?).bind Op.delivery?).bind (fun delivery =>
      (Demo.Pools.beforeMerge.store[delivery.1.inputManifest]?).bind (fun stored =>
        (stored.clusters[delivery.1.cluster]?).bind (fun state => state.inFlight.head?.bind (fun te =>
          (step Demo.Pools.env Demo.Pools.beforeMerge (.proceed 0)).map (fun s' =>
            decide (delivery.2.1.error = none ∧ delivery.2.1.result ≠ .none
              ∧ state.inFlight = [te] ∧ te.task.clusters ≠ delivery.1.task.clusters
              ∧ s'.store ≠ Demo.Pools.beforeMerge.store)))))) = some true := by
    decide +kernel
  obtain ⟨⟨msg, result, doc⟩, hop, hrun⟩ := Option.bind_eq_some_iff.mp hrun
  obtain ⟨stored, hstored, hrun⟩ := Option.bind_eq_some_iff.mp hrun
  obtain ⟨state, hstate, hrun⟩ := Option.bind_eq_some_iff.mp hrun
  obtain ⟨te, _, hrun⟩ := Option.bind_eq_some_iff.mp hrun
  obtain ⟨s', hs', hrun⟩ := Option.map_eq_some_iff.mp hrun
  obtain ⟨op, hi, hop⟩ := Option.bind_eq_some_iff.mp hop
  obtain rfl := Op.delivery?_eq_some hop
  obtain ⟨herror, hresult, hin, hne, hstore⟩ := decide_eq_true_eq.mp hrun
  exact ⟨msg, result, doc, stored, state, te, s', hi, herror, hresult, hstored, hstate, hin, hne,
    hs', hstore⟩

end Manager

end Claudie
