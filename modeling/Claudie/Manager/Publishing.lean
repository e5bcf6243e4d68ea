import Claudie.Manager.InFlight

/-!
Work messages that are published under the same id are the same, also if a stage is published again
because the write after it was lost.
-/

namespace Claudie

namespace Manager

section

variable {env : Env} {s s' : System} {a : Action} {msg : WorkMessage}

theorem Transition.keeps_scheduled (hwf : WellFormed s) (hco : ∀ op ∈ s.ops, Coherent s op)
    (h : Transition env s a s') {name cluster : String} {doc doc' : Config}
    {state' : ClusterState} (hdoc : s.store[name]? = some doc)
    (hstate : doc.manifest.state = .scheduled) (hdoc' : s'.store[name]? = some doc')
    (hst : doc'.clusters[cluster]? = some state') (hnot : ¬ ClusterState.Finished state') :
    doc'.manifest.state = .scheduled := by
  have same : s.store[name]? = some doc' → doc'.manifest.state = .scheduled := by
    intro heq
    rw [hdoc] at heq
    cases heq
    exact hstate
  cases h with
  | start _ => exact same hdoc'
  | finish _ _ => exact same hdoc'
  | advance _ _ => exact same hdoc'
  | @write a i op written stored fresh hi hw hstored hv =>
    dsimp only at hdoc'
    rw [System.write_store, GoMap.getElem?_insert] at hdoc'
    split at hdoc'
    next hname =>
      cases hdoc'
      subst hname
      have hmem := List.mem_of_getElem? hi
      rw [hdoc] at hstored
      cases hstored
      obtain ⟨read, hread⟩ := hw.doc?
      have hframe := hw.frame hread
      have hsees := (hco op hmem read hread).commit (hframe.1 ▸ hdoc) (hv.trans hframe.2)
      by_cases hop : ∃ p, op = .scheduled p
      · obtain ⟨p, rfl⟩ := hop
        cases hw with
        | scheduled _ =>
          have hp : ScheduledPass.WellFormed p := hwf.op _ hmem
          apply hp.state
          intro hfinal
          exact hnot (hp.final hfinal cluster state' hst)
      · exact hw.keeps_scheduled hsees (hwf.op op hmem) hstate (fun p hp => hop ⟨p, hp⟩)
    next => exact same hdoc'
  | create _ hnone =>
    dsimp only at hdoc'
    rw [GoMap.getElem?_insert] at hdoc'
    split at hdoc'
    next hname =>
      rw [hname, hdoc] at hnone
      cases hnone
    next => exact same hdoc'
  | mark hmarked =>
    dsimp only at hdoc'
    rw [GoMap.getElem?_insert] at hdoc'
    split at hdoc'
    next hname =>
      cases hdoc'
      subst hname
      rw [hdoc] at hmarked
      cases hmarked
      exact hstate
    next => exact same hdoc'
  | delete _ _ _ _ =>
    dsimp only at hdoc'
    rw [GoMap.getElem?_erase] at hdoc'
    split at hdoc'
    next => cases hdoc'
    next => exact same hdoc'

structure Published (s : System) : Prop where
  current : ∀ {msg : WorkMessage} {name cluster : String} {doc : Config} {state : ClusterState}
    {te : TaskEvent} {lower : List TaskEvent}, Offered s msg → s.store[name]? = some doc →
    doc.clusters[cluster]? = some state → state.state.status = .waitForPickup →
    state.inFlight = te :: lower → te.id = msg.taskID → te.currentStage = msg.stage →
    doc.manifest.state = .scheduled ∧ Offers doc cluster msg
  unique : ∀ {msg msg'}, Offered s msg → Offered s msg' → msg.taskID = msg'.taskID →
    msg.stage = msg'.stage → msg = msg'

-- Where the head of a chain that waits for pickup comes from, if its id and stage are known already.
theorem EntryStep.waits (hs : (manager env).Reach (fun s a => recreates s a = false) s)
    {fresh : TaskId} {name : String} {doc : Config} {cluster : String} {state' : ClusterState}
    {te' : TaskEvent} {lower' : List TaskEvent} (h : EntryStep s a fresh doc cluster state')
    (hdoc : s.store[name]? = some doc) (hoffered : Offered s msg)
    (hstatus : state'.state.status = .waitForPickup) (hin' : state'.inFlight = te' :: lower')
    (hid : te'.id = msg.taskID) (hstage : te'.currentStage = msg.stage) :
    doc.clusters[cluster]? = some state'
      ∨ doc.manifest.state = .pending
        ∧ ∃ state te lower, doc.clusters[cluster]? = some state
          ∧ state.state.status = .waitForPickup ∧ state.inFlight = te :: lower
          ∧ te.id = msg.taskID ∧ te.currentStage = msg.stage := by
  obtain ⟨owner, howned⟩ := owned_of_reach hs
  have hlt : te'.id < s.fresh := hid ▸ (howned.offered hoffered).1
  cases h with
  | same hst => exact .inl hst
  | @reconciled i _ _ _ _ _ j state _ _ hi _ hentry _ =>
    have hpending := (wellFormed_of_reach hs).op _ (List.mem_of_getElem? hi)
    have notNew : ∀ k, te'.id ≠ s.fresh + 2 * j + k := by
      intro k heq
      rw [heq] at hlt
      exact absurd hlt (Nat.not_lt.mpr (Nat.le_trans (Nat.le_add_right _ _) (Nat.le_add_right _ _)))
    have entered : ∀ {te lower}, state.inFlight = te :: lower → te.id = te'.id →
        te.currentStage = te'.currentStage → state.state.status = .waitForPickup →
        ∃ state te lower, doc.clusters[cluster]? = some state
          ∧ state.state.status = .waitForPickup ∧ state.inFlight = te :: lower
          ∧ te.id = msg.taskID ∧ te.currentStage = msg.stage := by
      intro te lower hin hteid htestage hst
      obtain hentered | ⟨_, rfl⟩ := hentry.enters
      · rw [Std.ExtTreeMap.getElem?_map, Option.map_eq_some_iff] at hentered
        obtain ⟨st, hentered, rfl⟩ := hentered
        exact ⟨st, te, lower, hentered, hst, hin, hteid.trans hid, htestage.trans hstage⟩
      · cases hin
    refine .inr ⟨hpending, ?_⟩
    cases hentry.step.rechained with
    | kept hin hwaits =>
      rw [hin'] at hin
      obtain hnil | hst := hwaits hstatus
      · rw [hnil] at hin
        cases hin
      · exact entered hin.symm rfl rfl hst
    | cleared hin =>
      rw [hin'] at hin
      cases hin
    | replaced hte hin =>
      rw [hin'] at hin
      cases hin
      exact absurd hte.id (notNew 0)
    | pushed hte hin =>
      rw [hin'] at hin
      cases hin
      exact absurd hte.id (notNew 1)
    | renamed _ _ hin =>
      rw [hin'] at hin
      cases hin
      exact absurd rfl (notNew 1)
    | credentials _ hin hcred hst =>
      rw [hin'] at hcred
      cases hcred
      exact entered hin rfl rfl (hst ▸ hstatus)
  | noWork _ hno =>
    rw [hno.inFlight'] at hin'
    cases hin'
  | picked _ hpub =>
    rw [hpub.status'] at hstatus
    cases hstatus
  | @processed i m result state _ te lower stage _ _ hcluster hst haccepts hstep _ =>
    subst hcluster
    cases hstep with
    | renamed _ hin _ =>
      rw [hin'] at hin
      cases hin
      exact absurd hlt (Nat.lt_irrefl _)
    | failed _ _ _ _ _ herror =>
      rw [herror] at hstatus
      cases hstatus
    | advanced hmerges _ _ hin _ =>
      rw [hin'] at hin
      cases hin
      -- no message was there for the stage that the task just came to.
      dsimp only at hid hstage
      rw [hmerges.id] at hid
      rw [hmerges.currentStage] at hstage
      have hte : te ∈ doc.chain m.cluster := by
        simp [Config.chain_of_getElem? hst, haccepts.inFlight]
      have hle := offered_stage_le hs hoffered ⟨name, doc, m.cluster, te, hdoc, hte, hid, rfl⟩
      omega
    | handedDown _ _ _ _ _ hdone =>
      rw [hdone] at hstatus
      cases hstatus
    | completed _ _ _ _ _ hdone =>
      rw [hdone] at hstatus
      cases hstatus
  | modified hst hchange =>
    obtain ⟨current, _, rfl⟩ := hchange.eq
    rw [hchange.inFlight] at hin'
    cases hin'

theorem Published.step (hs : (manager env).Reach (fun s a => recreates s a = false) s)
    (hpublished : Published s) (h : Transition env s a s') : Published s' := by
  have hwf := wellFormed_of_reach hs
  have hco : ∀ op ∈ s.ops, Coherent s op := fun _ => coherent_of_reach hs
  obtain ⟨owner, howned⟩ := owned_of_reach hs
  constructor
  · intro msg name cluster doc' state' te' lower' hoffered hdoc' hst hstatus hin hid hstage
    have hmem : te' ∈ doc'.chain cluster := by simp [Config.chain_of_getElem? hst, hin]
    obtain hold | ⟨listed, c, hlists⟩ := h.offered hwf hoffered
    · obtain ⟨doc, hdoc, hentry⟩ := h.entry hwf hco hdoc' hst
      obtain hsame | ⟨hpending, state, te, lower, hst', hstatus', hin', hid', hstage'⟩ :=
        hentry.waits hs hdoc hold hstatus hin hid hstage
      · obtain ⟨hstate, st, st', hentry', hstep⟩ :=
          hpublished.current hold hdoc hsame hstatus hin hid hstage
        rw [hsame] at hentry'
        cases hentry'
        have hname : doc.name = doc'.name := by
          rw [hwf.name hdoc, (h.wellFormed hwf).name hdoc']
        refine ⟨h.keeps_scheduled hwf hco hdoc hstate hdoc' hst ?_, state', st', hst, hname ▸ hstep⟩
        unfold ClusterState.Finished
        simp [hstatus]
      · have hstate := (hpublished.current hold hdoc hst' hstatus' hin' hid' hstage').1
        rw [hpending] at hstate
        cases hstate
    · rw [hlists.store] at hdoc'
      obtain ⟨rfl, rfl, _⟩ := hlists.unique howned hwf hdoc' hmem hid
      exact ⟨hlists.state, hlists.offers⟩
  · intro msg msg' hoffered hoffered' hid hstage
    -- a message that a pass starts with against one that was there before.
    have listed : ∀ {m m' : WorkMessage} {doc : Config} {c : String}, Offered s m →
        Lists s s' doc c m' → m.taskID = m'.taskID → m.stage = m'.stage → m = m' := by
      intro m m' doc c hold hlists hid hstage
      obtain ⟨state, te, lower, stage, hann⟩ := hlists.offers.announces
      have hteid : te.id = m.taskID := by rw [hid, hann.msg]
      have htestage : te.currentStage = m.stage := by rw [hstage, hann.msg]
      have hcurrent := hpublished.current hold hlists.stored hann.entry hann.status hann.inFlight
        hteid htestage
      exact hcurrent.2.unique hlists.offers
    obtain hold | ⟨doc, c, hlists⟩ := h.offered hwf hoffered
    · obtain hold' | ⟨doc', c', hlists'⟩ := h.offered hwf hoffered'
      · exact hpublished.unique hold hold' hid hstage
      · exact listed hold hlists' hid hstage
    · obtain hold' | ⟨doc', c', hlists'⟩ := h.offered hwf hoffered'
      · exact (listed hold' hlists hid.symm hstage.symm).symm
      · obtain ⟨state, te, lower, stage, hann⟩ := hlists.offers.announces
        have hteid : te.id = msg'.taskID := by rw [← hid, hann.msg]
        obtain ⟨rfl, rfl, _⟩ := hlists'.unique howned hwf hlists.stored hann.mem_chain hteid
        exact hlists.offers.unique hlists'.offers

theorem published_of_reach (hs : (manager env).Reach (fun s a => recreates s a = false) s) :
    Published s := by
  refine hs.invariant (I := Published) ⟨?_, ?_⟩ ?_
  · intro msg name cluster doc state te lower _ hdoc
    simp [manager, System.init] at hdoc
  · intro msg msg' hoffered
    obtain hmsg | ⟨p, _, hp, _⟩ := hoffered
    · cases hmsg
    · cases hp
  · intro s a s' hs hpublished _ hstep
    exact hpublished.step hs (step_transition hstep)

theorem same_id_same_message (hs : (manager env).Reach (fun s a => recreates s a = false) s)
    {msg' : WorkMessage} (hmsg : msg ∈ s.published) (hmsg' : msg' ∈ s.published)
    (hid : msg.msgID = msg'.msgID) : msg = msg' := by
  unfold WorkMessage.msgID at hid
  rw [Prod.mk.injEq, Prod.mk.injEq] at hid
  exact (published_of_reach hs).unique (.inl hmsg) (.inl hmsg') hid.1 hid.2.2

end

namespace Demo

-- The broker does not confirm the first message, so it is published again.
def republication : List Action :=
  [.upsertManifest (request oneCluster), .proceed 0, .watchPending "demo",
    .reconcile 0 inputs (some desired), .watchScheduled "demo", .scan 0 "c1" .unconfirmed,
    .proceed 0, .watchScheduled "demo", .scan 0 "c1" .acked]

end Demo

theorem same_id_same_message_demo :
    ∃ s msg msg', (manager Demo.env).Reach (fun s a => recreates s a = false) s
      ∧ s.published = [msg, msg'] ∧ msg.msgID = msg'.msgID ∧ msg = msg' := by
  have hrun : (((manager Demo.env).guard Demo.notRecreated).run (manager Demo.env).init
      Demo.republication).map (fun s => decide (s.published.length = 2
        ∧ s.published.Pairwise (fun msg msg' => msg.msgID = msg'.msgID))) = some true := by
    decide
  obtain ⟨s, hs, hrun⟩ := Option.map_eq_some_iff.mp hrun
  have hreach := (Machine.Reach.run_guard .init hs).mono (fun _ _ => Demo.notRecreated_iff.mp)
  obtain ⟨hlength, hids⟩ := decide_eq_true_eq.mp hrun
  obtain ⟨msg, msg', hpublished⟩ := List.length_eq_two.mp hlength
  have hid : msg.msgID = msg'.msgID := by simpa [hpublished] using hids
  exact ⟨s, msg, msg', hreach, hpublished, hid,
    same_id_same_message hreach (by simp [hpublished]) (by simp [hpublished]) hid⟩

namespace Demo

namespace Balanced

def deletingEnv : Env :=
  { env with
    digest := fun s =>
      if s = "delete" then
        0x6c9c82babd7764ac239ba0bbe674f30e73e0cfe93a18efa670b67b9ca6e29e39#256
      else env.digest s }

def built (address : String) : TaskResult :=
  let control := pool "control-hjkl" true .apiEndpoint
  let nodes := control.nodes.map (fun n => { n with publicIp := address })
  ⟨none, .update (some (K8scluster.withNodePools k8s [{ control with nodes }])) (some [lb])⟩

-- Two workers build the infrastructure, and the result of the second one is not through while the
-- config is deleted and created again.
def recreation : List Action :=
  [.upsertManifest (request manifest), .proceed 0, .watchPending "demo", reconcile,
      .watchScheduled "demo", .scan 0 "c1" .unconfirmed, .proceed 0, .deliver 0 (built "192.0.2.7"),
      .deliver 0 (built "192.0.2.8"), .proceed 0, .markForDeletion "demo" 2]
    ++ Demo.work 1 ⟨some (.fatal, "failed to install vpn"), .none⟩ ++ Demo.settle
    ++ [.watchPending "demo", .reconcile 1 inputs none]
    ++ Demo.work 2 ⟨none, .clear (some true) ["lb1-hijklmn"]⟩ ++ Demo.settle
    ++ [.watchPending "demo", .reconcile 1 inputs none, .watchScheduled "demo", .proceed 1,
      .proceed 1, .watchDoneOrError "demo", .proceed 1]
    ++ [.upsertManifest (request manifest), .proceed 1, .watchPending "demo",
      .reconcile 1 inputs (some ((∅ : GoMap DesiredCluster).insert "c1" desired)), .proceed 0,
      .watchScheduled "demo", .scan 0 "c1" .acked]

end Balanced

end Demo

theorem same_id_other_message :
    ∃ s msg msg', (manager Demo.Balanced.deletingEnv).Reachable s ∧ msg ∈ s.published
      ∧ msg' ∈ s.published ∧ msg.msgID = msg'.msgID ∧ msg.task ≠ msg'.task := by
  have hrun : ((manager Demo.Balanced.deletingEnv).run (manager Demo.Balanced.deletingEnv).init
      Demo.Balanced.recreation).map (fun s =>
        s.published.any (fun msg => s.published.any (fun msg' =>
          decide (msg.msgID = msg'.msgID ∧ msg.task ≠ msg'.task)))) = some true := by
    decide +kernel
  obtain ⟨s, hs, hrun⟩ := Option.map_eq_some_iff.mp hrun
  obtain ⟨msg, hmsg, hrun⟩ := List.any_eq_true.mp hrun
  obtain ⟨msg', hmsg', hrun⟩ := List.any_eq_true.mp hrun
  exact ⟨s, msg, msg', .run .init hs, hmsg, hmsg', decide_eq_true_eq.mp hrun⟩

end Manager

end Claudie
