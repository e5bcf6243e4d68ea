import Claudie.Manager.Lemmas.Chains

/-!
The work messages that are in the queue, or may still be put there by a pass over an older document.
-/

namespace Claudie

namespace Manager

def Offers (doc : Config) (cluster : String) (msg : WorkMessage) : Prop :=
  ∃ state state', doc.clusters[cluster]? = some state
    ∧ scheduledStep doc.name cluster state = .ok (.publish msg state')

def Offered (s : System) (msg : WorkMessage) : Prop :=
  msg ∈ s.published
    ∨ ∃ p cluster, .scheduled p ∈ s.ops ∧ cluster ∈ p.todo ∧ Offers p.doc cluster msg

structure Announces (doc : Config) (cluster : String) (msg : WorkMessage) (state : ClusterState)
    (te : TaskEvent) (lower : List TaskEvent) (stage : Stage) : Prop where
  entry : doc.clusters[cluster]? = some state
  status : state.state.status = .waitForPickup
  inFlight : state.inFlight = te :: lower
  msg : msg
    = ⟨doc.name, cluster, te.id, te.currentStage, stage.kind, te.task, Stage.passes stage⟩

section

variable {env : Env} {s s' : System} {a : Action} {doc : Config} {cluster : String}
  {msg : WorkMessage}

theorem Offers.unique {msg' : WorkMessage} (h : Offers doc cluster msg)
    (h' : Offers doc cluster msg') : msg = msg' := by
  obtain ⟨state, _, hst, hstep⟩ := h
  obtain ⟨state', _, hst', hstep'⟩ := h'
  rw [hst] at hst'
  cases hst'
  rw [hstep] at hstep'
  cases hstep'
  rfl

theorem Offers.announces (h : Offers doc cluster msg) :
    ∃ state te lower stage, Announces doc cluster msg state te lower stage := by
  obtain ⟨state, state', hst, hstep⟩ := h
  obtain ⟨te, lower, stage, hpub⟩ := scheduledStep_publish hstep
  exact ⟨state, te, lower, stage, hst, hpub.status, hpub.inFlight, hpub.msg⟩

theorem Announces.mem_chain {state : ClusterState} {te : TaskEvent} {lower : List TaskEvent}
    {stage : Stage} (h : Announces doc cluster msg state te lower stage) :
    te ∈ doc.chain cluster := by
  simp [Config.chain_of_getElem? h.entry, h.inFlight]

theorem Owned.offered {owner : TaskId → Option (String × String)} (howned : Owned owner s)
    (h : Offered s msg) :
    msg.taskID < s.fresh ∧ owner msg.taskID = some (msg.inputManifest, msg.cluster) := by
  obtain hpublished | ⟨p, cluster, hp, _, hoffers⟩ := h
  · exact howned.message msg hpublished
  · obtain ⟨state, te, lower, stage, hann⟩ := hoffers.announces
    rw [hann.msg]
    exact howned.task (.inr ⟨_, hp, rfl⟩) te hann.mem_chain

theorem Advances.offers {i : Nat} {op : Op} {p' : ScheduledPass}
    {msgs published : List WorkMessage} (h : Advances s i a op (.scheduled p') msgs)
    (hwf : op.WellFormed published) (htodo : cluster ∈ p'.todo)
    (hoffers : Offers p'.doc cluster msg) :
    ∃ p, op = .scheduled p ∧ p.doc.name = p'.doc.name ∧ cluster ∈ p.todo
      ∧ Offers p.doc cluster msg := by
  -- a pass that replaces the entry of a cluster does not come back to it.
  have set : ∀ {p : ScheduledPass} {c : String} {state' : ClusterState} {phase : Phase},
      p.todo.Nodup → cluster ∈ p.todo.erase c →
      Offers ((p.visited c).setCluster c state' phase).doc cluster msg →
      Offers p.doc cluster msg := by
    rintro p c state' phase hnodup herase ⟨state, st, hst, hstep⟩
    have hne : c ≠ cluster := by
      rintro rfl
      exact hnodup.not_mem_erase herase
    simp only [ScheduledPass.setCluster, ScheduledPass.visited, GoMap.getElem?_insert,
      if_neg hne] at hst
    exact ⟨state, st, hst, hstep⟩
  cases h with
  | finished _ _ => exact ⟨_, rfl, rfl, List.mem_of_mem_erase htodo, hoffers⟩
  | inProgress _ _ => exact ⟨_, rfl, rfl, List.mem_of_mem_erase htodo, hoffers⟩
  | noWork _ _ => exact ⟨_, rfl, rfl, List.mem_of_mem_erase htodo, set hwf.nodup htodo hoffers⟩
  | acked _ _ => exact ⟨_, rfl, rfl, List.mem_of_mem_erase htodo, set hwf.nodup htodo hoffers⟩
  | unconfirmed _ _ => exact ⟨_, rfl, rfl, List.mem_of_mem_erase htodo, hoffers⟩
  | failed _ _ => exact ⟨_, rfl, rfl, List.mem_of_mem_erase htodo, hoffers⟩
  | final _ hnil _ _ =>
    rw [hnil] at htodo
    cases htodo
  | dirty _ _ => exact ⟨_, rfl, rfl, htodo, hoffers⟩
  | failWrite _ => exact ⟨_, rfl, rfl, htodo, hoffers⟩

structure Lists (s s' : System) (doc : Config) (cluster : String) (msg : WorkMessage) : Prop where
  store : s'.store = s.store
  stored : s.store[doc.name]? = some doc
  state : doc.manifest.state = .scheduled
  offers : Offers doc cluster msg

theorem Transition.pass (hwf : WellFormed s) (h : Transition env s a s') {p' : ScheduledPass}
    (hp : .scheduled p' ∈ s'.ops) (htodo : cluster ∈ p'.todo) (hoffers : Offers p'.doc cluster msg) :
    (∃ p, .scheduled p ∈ s.ops ∧ p.doc.name = p'.doc.name ∧ cluster ∈ p.todo
      ∧ Offers p.doc cluster msg) ∨ Lists s s' p'.doc cluster msg := by
  obtain hold | ⟨hstarts, rfl⟩ | ⟨i, op, msgs, hi, hadv, rfl⟩ := h.ops hp
  · exact .inl ⟨p', hold, rfl, htodo, hoffers⟩
  · cases hstarts with
    | scheduled hdoc hstate _ =>
      rw [← hwf.name hdoc] at hdoc
      exact .inr ⟨rfl, hdoc, hstate, hoffers⟩
  · have hmem := List.mem_of_getElem? hi
    obtain ⟨p, rfl, hname, htodo, hoffers⟩ := hadv.offers (hwf.op op hmem) htodo hoffers
    exact .inl ⟨p, hmem, hname, htodo, hoffers⟩

theorem Transition.offered (hwf : WellFormed s) (h : Transition env s a s')
    (hoffered : Offered s' msg) : Offered s msg ∨ ∃ doc cluster, Lists s s' doc cluster msg := by
  obtain hpublished | ⟨p', cluster, hp, htodo, hoffers⟩ := hoffered
  · obtain hold | ⟨i, p, cluster, state, state', hi, hscan, hstep⟩ := h.published hpublished
    · exact .inl (.inl hold)
    · exact .inl (.inr ⟨p, cluster, List.mem_of_getElem? hi, hscan.todo, state, state',
        hscan.entry, hstep⟩)
  · obtain ⟨p, hp, _, htodo, hoffers⟩ | hlists := h.pass hwf hp htodo hoffers
    · exact .inl (.inr ⟨p, cluster, hp, htodo, hoffers⟩)
    · exact .inr ⟨_, cluster, hlists⟩

end

section passes

variable {env : Env} {s s' : System} {a : Action}

theorem Writes.keeps_scheduled {i : Nat} {op : Op} {written stored : Config} {fresh : TaskId}
    {published : List WorkMessage} (h : Writes env s i a op written fresh)
    (hsees : op.Sees stored) (hwf : op.WellFormed published)
    (hstate : stored.manifest.state = .scheduled) (hne : ∀ p, op ≠ .scheduled p) :
    written.manifest.state = .scheduled := by
  cases h with
  | @upsert r _ =>
    cases hsees
    unfold UpsertManifestRequest.apply
    split <;> exact hstate
  | pending _ =>
    cases hsees
    exact absurd (hstate.symm.trans hwf) (by simp)
  | scheduled _ => exact absurd rfl (hne _)
  | idle _ =>
    cases hsees
    obtain hdone | herror := hwf
    · exact absurd (hstate.symm.trans hdone) (by simp)
    · exact absurd (hstate.symm.trans herror) (by simp)
  | process hp =>
    cases hsees
    obtain ⟨_, _, _, _, _, _, _, _, rfl⟩ := processTask_eq_some hp
    exact hstate
  | markNode hm =>
    cases hsees
    obtain ⟨_, _, _, _, rfl⟩ := modifyConfigNodePool_eq_ok hm
    exact hstate
  | updateTargetSize hm =>
    cases hsees
    obtain ⟨_, _, _, _, rfl⟩ := modifyConfigNodePool_eq_ok hm
    exact hstate

-- What a pass in progress knows about the stored document, whatever was written in the meantime.
theorem Transition.locked (hwf : WellFormed s) (hco : ∀ op ∈ s.ops, Coherent s op)
    (hok : recreates s a = false) (h : Transition env s a s')
    (hlocked : ∀ {op name stored}, op ∈ s.ops → op.slot = some (.scheduled, name) →
      s.store[name]? = some stored → stored.manifest.state = .scheduled)
    {op : Op} {name : String} {stored : Config} (hop : op ∈ s'.ops)
    (hslot : op.slot = some (.scheduled, name)) (hstored : s'.store[name]? = some stored) :
    stored.manifest.state = .scheduled := by
  cases h with
  | start hstarts =>
    rw [System.start_ops, List.mem_append, List.mem_singleton] at hop
    obtain hop | rfl := hop
    · exact hlocked hop hslot hstored
    · cases hstarts with
      | scheduled hdoc hstate _ =>
        cases hslot
        rw [System.start_store, hwf.name hdoc, hdoc] at hstored
        cases hstored
        exact hstate
      | _ => cases hslot
  | finish _ _ => exact hlocked (List.mem_of_mem_eraseIdx hop) hslot hstored
  | advance hi hadv =>
    obtain hop | rfl := List.mem_or_eq_of_mem_set hop
    · exact hlocked hop hslot hstored
    · rw [hadv.slot] at hslot
      exact hlocked (List.mem_of_getElem? hi) hslot hstored
  | @write a i op₀ written old fresh hi hw hold hv =>
    have hmem : op ∈ s.ops := List.mem_of_mem_eraseIdx hop
    dsimp only at hstored
    rw [System.write_store, GoMap.getElem?_insert] at hstored
    split at hstored
    next hname =>
      cases hstored
      subst hname
      have hlock := hlocked hmem hslot hold
      obtain ⟨doc, hdoc⟩ := hw.doc?
      have hframe := hw.frame hdoc
      have hsees := (hco _ (List.mem_of_getElem? hi) doc hdoc).commit (hframe.1 ▸ hold)
        (hv.trans hframe.2)
      have hne : ∀ p, op₀ ≠ .scheduled p := by
        rintro p rfl
        cases hw
        exact List.not_mem_eraseIdx_of_nodup hwf.slots hi rfl op hop hslot
      exact hw.keeps_scheduled hsees (hwf.op _ (List.mem_of_getElem? hi)) hlock hne
    next => exact hlocked hmem hslot hstored
  | @create i r hi hnone =>
    have hmem : op ∈ s.ops := List.mem_of_mem_eraseIdx hop
    dsimp only at hstored
    rw [GoMap.getElem?_insert] at hstored
    split at hstored
    next hname =>
      have hheld : op.doc?.any (fun doc => doc.name = r.name) = true := by
        cases op <;> cases hslot
        simp [Op.doc?, hname]
      have hany : s.ops.any (fun op => op.doc?.any (fun doc => doc.name = r.name)) = true :=
        List.any_eq_true.mpr ⟨op, hmem, hheld⟩
      simp [recreates, hi, hnone, hany] at hok
    next => exact hlocked hmem hslot hstored
  | mark hdoc =>
    dsimp only at hstored
    rw [GoMap.getElem?_insert] at hstored
    split at hstored
    next hname =>
      cases hstored
      subst hname
      have hlock := hlocked hop hslot hdoc
      exact hlock
    next => exact hlocked hop hslot hstored
  | delete _ _ _ _ =>
    dsimp only at hstored
    rw [GoMap.getElem?_erase] at hstored
    split at hstored
    next => cases hstored
    next => exact hlocked (List.mem_of_mem_eraseIdx hop) hslot hstored

theorem locked_of_reach (hs : (manager env).Reach (fun s a => recreates s a = false) s)
    {p : ScheduledPass} {stored : Config} (hp : .scheduled p ∈ s.ops)
    (hstored : s.store[p.doc.name]? = some stored) : stored.manifest.state = .scheduled := by
  suffices ∀ {op name stored}, op ∈ s.ops → op.slot = some (.scheduled, name) →
      s.store[name]? = some stored → stored.manifest.state = .scheduled from this hp rfl hstored
  clear hp hstored
  induction hs with
  | init =>
    intro op name stored hop
    cases hop
  | step hs hok hstep ih =>
    intro op name stored
    exact (step_transition hstep).locked (wellFormed_of_reach hs) (fun _ => coherent_of_reach hs)
      hok ih

theorem not_pending_of_locked (hs : (manager env).Reach (fun s a => recreates s a = false) s)
    {p : ScheduledPass} {stored : Config} {i : Nat} (hp : .scheduled p ∈ s.ops)
    (hstored : s.store[p.doc.name]? = some stored) : s.ops[i]? ≠ some (.pending stored) := by
  intro hi
  have hpending := (wellFormed_of_reach hs).op _ (List.mem_of_getElem? hi)
  have hscheduled := locked_of_reach hs hp hstored
  exact absurd (hscheduled.symm.trans hpending) (by simp)

-- Only a reconciliation puts a task in front of another one.
theorem EntryStep.tail_subset {fresh : TaskId} {doc : Config} {cluster : String}
    {state' : ClusterState} (h : EntryStep s a fresh doc cluster state')
    (hpending : ∀ i : Nat, s.ops[i]? ≠ some (.pending doc)) :
    state'.inFlight.tail ⊆ (doc.chain cluster).tail := by
  cases h with
  | same hst => rw [Config.chain_of_getElem? hst]; exact List.Subset.refl _
  | reconciled _ hi _ _ _ => exact absurd hi (hpending _)
  | noWork _ hno => rw [hno.inFlight']; exact List.nil_subset _
  | picked hst hpub =>
    rw [Config.chain_of_getElem? hst, hpub.inFlight, hpub.inFlight']
    exact List.Subset.refl _
  | processed _ _ _ hst haccepts hstep _ =>
    rw [Config.chain_of_getElem? hst, haccepts.inFlight]
    cases hstep with
    | renamed _ hin _ => rw [hin]; exact List.Subset.refl _
    | failed _ _ _ _ hin _ => rw [hin]; exact List.Subset.refl _
    | advanced _ _ _ hin _ => rw [hin]; exact List.Subset.refl _
    | handedDown _ _ hlower _ hin _ => rw [hin, hlower]; exact List.subset_cons_self _ _
    | completed _ _ _ _ hin _ => rw [hin]; exact List.nil_subset _
  | modified hst hchange =>
    obtain ⟨current, _, rfl⟩ := hchange.eq
    rw [Config.chain_of_getElem? hst]
    exact List.Subset.refl _

theorem offered_not_mem_tail (hs : (manager env).Reach (fun s a => recreates s a = false) s)
    {p : ScheduledPass} {cluster : String} {msg : WorkMessage} {stored : Config} {te : TaskEvent}
    (hp : .scheduled p ∈ s.ops) (htodo : cluster ∈ p.todo) (hoffers : Offers p.doc cluster msg)
    (hstored : s.store[p.doc.name]? = some stored) (hte : te ∈ (stored.chain cluster).tail) :
    te.id ≠ msg.taskID := by
  induction hs generalizing p stored with
  | init => cases hp
  | step hs hok hstep ih =>
    have hwf := wellFormed_of_reach hs
    have ht := step_transition hstep
    obtain ⟨q, hq, hname, hqtodo, hqoffers⟩ | hlists := ht.pass hwf hp htodo hoffers
    · rw [← hname] at hstored
      obtain ⟨state', hst, _⟩ := Config.exists_of_mem_chain (List.mem_of_mem_tail hte)
      obtain ⟨doc, hdoc, hentry⟩ := ht.entry hwf (fun _ => coherent_of_reach hs) hstored hst
      rw [Config.chain_of_getElem? hst] at hte
      have htail := hentry.tail_subset (fun _ => not_pending_of_locked hs hq hdoc)
      exact ih hq hqtodo hqoffers hdoc (htail hte)
    · rw [hlists.store, hlists.stored] at hstored
      cases hstored
      obtain ⟨state, head, lower, stage, hann⟩ := hoffers.announces
      obtain ⟨owner, howned⟩ := owned_of_reach hs
      have hnodup : ((p.doc.chain cluster).map (·.id)).Nodup :=
        howned.nodup (.inl ⟨_, hlists.stored⟩)
      rw [Config.chain_of_getElem? hann.entry, hann.inFlight] at hnodup hte
      rw [hann.msg]
      rintro heq
      rw [List.map_cons, List.nodup_cons] at hnodup
      exact hnodup.1 (List.mem_map.mpr ⟨te, hte, heq⟩)

end passes

section stages

variable {env : Env} {s s' : System} {a : Action} {msg : WorkMessage}

theorem Lists.unique {owner : TaskId → Option (String × String)} (howned : Owned owner s)
    (hwf : WellFormed s) {doc stored : Config} {cluster name c : String} {te : TaskEvent}
    (h : Lists s s' doc cluster msg) (hstored : s.store[name]? = some stored)
    (hte : te ∈ stored.chain c) (hid : te.id = msg.taskID) :
    stored = doc ∧ c = cluster ∧ ∃ state lower stage,
      Announces doc cluster msg state te lower stage := by
  obtain ⟨state, head, lower, stage, hann⟩ := h.offers.announces
  have hid' : te.id = head.id := by rw [hid, hann.msg]
  obtain ⟨rfl, rfl, rfl⟩ := howned.unique hwf hstored hte h.stored hann.mem_chain hid'
  rw [h.stored] at hstored
  cases hstored
  exact ⟨rfl, rfl, state, lower, stage, hann⟩

theorem offered_stage_le (hs : (manager env).Reach (fun s a => recreates s a = false) s)
    (hoffered : Offered s msg) {k : Nat} (hat : AtStage s msg.taskID k) : msg.stage ≤ k := by
  induction hs generalizing k with
  | init =>
    obtain hpublished | ⟨p, _, hp, _⟩ := hoffered
    · cases hpublished
    · cases hp
  | step hs hok hstep ih =>
    have hwf := wellFormed_of_reach hs
    have ht := step_transition hstep
    obtain ⟨owner, howned⟩ := owned_of_reach hs
    obtain hold | ⟨doc, cluster, hlists⟩ := ht.offered hwf hoffered
    · obtain hnew | ⟨k₀, hk₀, hmove⟩ := ht.atStage hwf (fun _ => coherent_of_reach hs) hat
      · exact absurd (howned.offered hold).1 (Nat.not_lt.mpr hnew)
      · have := ih hold hk₀
        omega
    · obtain ⟨name, stored, c, te, hstored, hte, hid, rfl⟩ := hat
      rw [hlists.store] at hstored
      obtain ⟨_, _, _, _, _, hann⟩ := hlists.unique howned hwf hstored hte hid
      exact Nat.le_of_eq (congrArg WorkMessage.stage hann.msg)

end stages

end Manager

end Claudie
