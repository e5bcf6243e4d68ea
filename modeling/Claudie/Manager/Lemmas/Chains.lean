import Claudie.Manager.Lemmas.Entries
import Mathlib.Data.List.Nodup

/-!
The chain of tasks of a cluster, reduced to the ids of the tasks and the stages they are at, and who
an id belongs to.
-/

namespace Claudie

def Config.chain (doc : Config) (cluster : String) : List TaskEvent :=
  match doc.clusters[cluster]? with
  | some state => state.inFlight
  | none => []

theorem Config.chain_of_getElem? {doc : Config} {cluster : String} {state : ClusterState}
    (h : doc.clusters[cluster]? = some state) : doc.chain cluster = state.inFlight := by
  simp [chain, h]

theorem Config.exists_of_mem_chain {doc : Config} {cluster : String} {te : TaskEvent}
    (h : te ∈ doc.chain cluster) :
    ∃ state, doc.clusters[cluster]? = some state ∧ te ∈ state.inFlight := by
  unfold chain at h
  split at h
  next state hstate => exact ⟨state, hstate, h⟩
  next => cases h

namespace Manager

def delivers (s : System) (a : Action) (id : TaskId) (stage : Nat) : Bool :=
  match a with
  | .proceed i =>
    match s.ops[i]? with
    | some (.process msg _ _) => msg.taskID = id && msg.stage = stage
    | _ => false
  | _ => false

structure Evolves (te te' : TaskEvent) : Prop where
  id : te'.id = te.id
  kind : te'.task.kind = te.task.kind
  delta : Task.DeltaStep te.task.delta? te'.task.delta?
  pipeline : te'.pipeline = te.pipeline

theorem Evolves.refl (te : TaskEvent) : Evolves te te := ⟨rfl, rfl, .same, rfl⟩

theorem Evolves.mapClusters (te : TaskEvent) (f : Clusters → Clusters) :
    Evolves te (TaskEvent.mapClusters te f) := by
  refine ⟨rfl, Task.kind_replaceClusters _ _, ?_, rfl⟩
  rw [TaskEvent.mapClusters, Task.delta?_replaceClusters]
  exact .same

theorem Merges.evolves {work : Work} {te te' : TaskEvent} (h : Merges work te te') :
    Evolves te te' :=
  ⟨h.id, h.kind, h.delta, h.pipeline⟩

-- `drawn` are the ids that may be new.
inductive ChainStep (s : System) (a : Action) (drawn : TaskId → Prop) :
    List TaskEvent → List TaskEvent → Prop
  | same {chain : List TaskEvent} : ChainStep s a drawn chain chain
  | cleared {chain : List TaskEvent} : ChainStep s a drawn chain []
  | replaced {te : TaskEvent} {chain : List TaskEvent} :
    NewTask te.id te → drawn te.id → ChainStep s a drawn chain [te]
  | pushed {te : TaskEvent} {chain : List TaskEvent} :
    Removal te.id te → drawn te.id → ChainStep s a drawn chain (te :: chain)
  | renamed {te : TaskEvent} {id : TaskId} {lower : List TaskEvent} :
    drawn id → ChainStep s a drawn (te :: lower) ({ te with id } :: lower)
  | changed {te te' : TaskEvent} {lower : List TaskEvent} :
    Evolves te te' → te'.currentStage = te.currentStage →
    ChainStep s a drawn (te :: lower) (te' :: lower)
  | advanced {te te' : TaskEvent} {lower : List TaskEvent} :
    Evolves te te' → te'.currentStage = te.currentStage + 1 →
    te'.currentStage < te.pipeline.length → delivers s a te.id te.currentStage = true → ChainStep s a drawn (te :: lower) (te' :: lower)
  | popped {te next next' : TaskEvent} {lower : List TaskEvent} :
    Evolves next next' → next'.currentStage = next.currentStage →
    ChainStep s a drawn (te :: next :: lower) (next' :: lower)

namespace ChainStep

variable {s : System} {a : Action} {drawn : TaskId → Prop} {chain chain' : List TaskEvent}
  {te' : TaskEvent}

theorem mem (h : ChainStep s a drawn chain chain') (hmem : te' ∈ chain') :
    drawn te'.id ∨ ∃ te ∈ chain, Evolves te te'
      ∧ (te'.currentStage = te.currentStage
        ∨ te'.currentStage = te.currentStage + 1 ∧ delivers s a te.id te.currentStage = true) := by
  cases h with
  | same => exact .inr ⟨te', hmem, .refl _, .inl rfl⟩
  | cleared => cases hmem
  | replaced _ hdrawn =>
    rw [List.mem_singleton] at hmem
    subst hmem
    exact .inl hdrawn
  | pushed _ hdrawn =>
    obtain rfl | hmem := List.mem_cons.mp hmem
    · exact .inl hdrawn
    · exact .inr ⟨te', hmem, .refl _, .inl rfl⟩
  | renamed hdrawn =>
    obtain rfl | hmem := List.mem_cons.mp hmem
    · exact .inl hdrawn
    · exact .inr ⟨te', List.mem_cons_of_mem _ hmem, .refl _, .inl rfl⟩
  | changed hevolves hstage =>
    obtain rfl | hmem := List.mem_cons.mp hmem
    · exact .inr ⟨_, List.mem_cons_self, hevolves, .inl hstage⟩
    · exact .inr ⟨te', List.mem_cons_of_mem _ hmem, .refl _, .inl rfl⟩
  | advanced hevolves hstage _ hdelivers =>
    obtain rfl | hmem := List.mem_cons.mp hmem
    · exact .inr ⟨_, List.mem_cons_self, hevolves, .inr ⟨hstage, hdelivers⟩⟩
    · exact .inr ⟨te', List.mem_cons_of_mem _ hmem, .refl _, .inl rfl⟩
  | popped hevolves hstage =>
    obtain rfl | hmem := List.mem_cons.mp hmem
    · exact .inr ⟨_, List.mem_cons_of_mem _ List.mem_cons_self, hevolves, .inl hstage⟩
    · exact .inr ⟨te', List.mem_cons_of_mem _ (List.mem_cons_of_mem _ hmem), .refl _, .inl rfl⟩

theorem nodup (h : ChainStep s a drawn chain chain') (hnodup : (chain.map (·.id)).Nodup)
    (hnew : ∀ te ∈ chain, ¬ drawn te.id) : (chain'.map (·.id)).Nodup := by
  have notMem : ∀ {id : TaskId} {l : List TaskEvent}, drawn id → (∀ te ∈ l, te ∈ chain) →
      id ∉ l.map (·.id) := by
    intro id l hdrawn hsub hmem
    obtain ⟨te, hte, rfl⟩ := List.mem_map.mp hmem
    exact hnew te (hsub te hte) hdrawn
  cases h with
  | same => exact hnodup
  | cleared => exact List.nodup_nil
  | replaced _ _ => simp
  | pushed _ hdrawn =>
    rw [List.map_cons, List.nodup_cons]
    exact ⟨notMem hdrawn (fun _ h => h), hnodup⟩
  | renamed hdrawn =>
    rw [List.map_cons, List.nodup_cons] at hnodup ⊢
    exact ⟨notMem hdrawn (fun _ h => List.mem_cons_of_mem _ h), hnodup.2⟩
  | changed hevolves _ =>
    rw [List.map_cons] at hnodup ⊢
    rwa [hevolves.id]
  | advanced hevolves _ _ _ =>
    rw [List.map_cons] at hnodup ⊢
    rwa [hevolves.id]
  | popped hevolves _ =>
    rw [List.map_cons, List.map_cons, List.nodup_cons] at hnodup
    rw [List.map_cons, hevolves.id]
    exact hnodup.2

end ChainStep

def drawnFor (s : System) (a : Action) (id : TaskId) : Option (String × String) :=
  match a with
  | .reconcile i _ fromManifest =>
    match s.ops[i]? with
    | some (.pending doc) =>
      (createDesiredState fromManifest doc).bind (fun desired =>
        let entries := populateEntriesForNewClusters
          (doc.clusters.map (fun _ s => s.convertToGRPC)) desired
        (entries.toList[(id - s.fresh) / 2]?).map (fun entry => (doc.name, entry.1)))
    | _ => none
  | .proceed i =>
    match s.ops[i]? with
    | some (.process msg _ doc) => some (doc.name, msg.cluster)
    | _ => none
  | _ => none

structure Drawn (s : System) (a : Action) (fresh : TaskId) (name cluster : String) (id : TaskId) :
    Prop where
  fresh_le : s.fresh ≤ id
  lt : id < fresh
  owner : drawnFor s a id = some (name, cluster)

section

variable {s : System} {a : Action} {fresh : TaskId} {doc : Config} {cluster : String}
  {state' : ClusterState}

theorem ReconciledEntry.chain {inputs : String → ReconcileInput} {desired : GoMap Clusters}
    {result r : ScheduleResult} {j : Nat} {state : ClusterState} {start : TaskId}
    (h : ReconciledEntry inputs start (doc.clusters.map (fun _ s => s.convertToGRPC)) desired
      result cluster state' j state r) : doc.chain cluster = state.inFlight := by
  obtain hin | ⟨hnone, rfl⟩ := h.enters
  · rw [Std.ExtTreeMap.getElem?_map, Option.map_eq_some_iff] at hin
    obtain ⟨st, hst, rfl⟩ := hin
    rw [Config.chain_of_getElem? hst]
    rfl
  · rw [Std.ExtTreeMap.getElem?_map, Option.map_eq_none_iff] at hnone
    simp [Config.chain, hnone, emptyClusterState]

theorem Rechained.chainStep {desired : Option Clusters} {id newUUID : TaskId}
    {drawn : TaskId → Prop} {state : ClusterState} (h : Rechained desired id newUUID state state')
    (hid : drawn id) (hnew : drawn newUUID) :
    ChainStep s a drawn state.inFlight state'.inFlight := by
  cases h with
  | kept hin _ =>
    rw [hin]
    exact .same
  | cleared hin =>
    rw [hin]
    exact .cleared
  | replaced hte hin =>
    rw [hin]
    exact .replaced (hte.id.symm ▸ hte) (hte.id ▸ hid)
  | pushed hte hin =>
    rw [hin]
    exact .pushed (hte.id.symm ▸ hte) (hte.id ▸ hnew)
  | renamed hin _ hin' =>
    rw [hin, hin']
    exact .renamed hnew
  | credentials _ hin hin' _ =>
    rw [hin, hin']
    exact .changed (.mapClusters _ _) rfl

theorem ProcessStep.chainStep {work : Work} {newUUID : TaskId} {drawn : TaskId → Prop}
    {state : ClusterState} {te : TaskEvent} {lower : List TaskEvent} {stage : Stage}
    (h : ProcessStep work newUUID state te lower stage state') (hnew : drawn newUUID)
    (hdelivers : delivers s a te.id te.currentStage = true) :
    ChainStep s a drawn (te :: lower) state'.inFlight := by
  cases h with
  | renamed _ hin _ =>
    rw [hin]
    exact .renamed hnew
  | failed hmerges _ _ _ hin _ =>
    rw [hin]
    exact .changed hmerges.evolves hmerges.currentStage
  | advanced hmerges hnext _ hin _ =>
    rw [hin]
    obtain ⟨hid, hkind, hdelta, hpipeline⟩ := hmerges.evolves
    have hstage := congrArg (· + 1) hmerges.currentStage
    refine .advanced ⟨hid, hkind, hdelta, hpipeline⟩ hstage ?_ hdelivers
    dsimp only at hstage ⊢
    rw [hstage]
    exact (List.getElem?_eq_some_iff.mp hnext).1
  | handedDown _ _ hlower _ hin _ =>
    rw [hin, hlower]
    exact .popped (.mapClusters _ _) rfl
  | completed _ _ _ _ hin _ =>
    rw [hin]
    exact .cleared

theorem EntryStep.chainStep (h : EntryStep s a fresh doc cluster state') :
    ChainStep s a (Drawn s a fresh doc.name cluster) (doc.chain cluster) state'.inFlight := by
  cases h with
  | same hst =>
    rw [Config.chain_of_getElem? hst]
    exact .same
  | @reconciled i inputs fromManifest desired result r j state _ ha hi hdesired hentry hlt =>
    subst ha
    rw [hentry.chain]
    have index : ∀ fresh k : Nat, k < 2 → (fresh + 2 * j + k - fresh) / 2 = j := by
      intro fresh k hk
      omega
    have owner : ∀ k, k < 2 →
        drawnFor s (.reconcile i inputs fromManifest) (s.fresh + 2 * j + k)
          = some (doc.name, cluster) := by
      intro k hk
      simp [drawnFor, hi, hdesired, index s.fresh k hk, hentry.index]
    refine hentry.step.rechained.chainStep ⟨?_, ?_, owner 0 (by decide)⟩ ⟨?_, hlt, owner 1 (by decide)⟩
    · exact Nat.le_add_right _ _
    · exact Nat.lt_of_succ_lt hlt
    · exact Nat.le_trans (Nat.le_add_right _ _) (Nat.le_succ _)
  | noWork hst hno =>
    rw [hno.inFlight']
    exact .cleared
  | picked hst hpub =>
    rw [Config.chain_of_getElem? hst, hpub.inFlight, hpub.inFlight']
    exact .same
  | processed ha hi hcluster hst haccepts hstep hfresh =>
    subst ha hcluster hfresh
    rw [Config.chain_of_getElem? hst, haccepts.inFlight]
    refine hstep.chainStep ⟨Nat.le_refl _, Nat.lt_succ_self _, ?_⟩ ?_
    · simp [drawnFor, hi]
    · have hid := haccepts.id
      have hstage := haccepts.taskStage
      simp only [WorkMessage.work] at hid hstage
      simp [delivers, hi, hid, hstage]
  | modified hst hchange =>
    obtain ⟨current, _, rfl⟩ := hchange.eq
    rw [Config.chain_of_getElem? hst]
    exact .same

end

structure Owned (owner : TaskId → Option (String × String)) (s : System) : Prop where
  task : ∀ {doc cluster}, Held s doc → ∀ te ∈ doc.chain cluster,
    te.id < s.fresh ∧ owner te.id = some (doc.name, cluster)
  nodup : ∀ {doc cluster}, Held s doc → ((doc.chain cluster).map (·.id)).Nodup
  message : ∀ msg ∈ s.published,
    msg.taskID < s.fresh ∧ owner msg.taskID = some (msg.inputManifest, msg.cluster)

section

variable {env : Env} {s s' : System} {a : Action}

def extendOwner (owner : TaskId → Option (String × String)) (s : System) (a : Action)
    (id : TaskId) : Option (String × String) :=
  if id < s.fresh then owner id else drawnFor s a id

variable {owner : TaskId → Option (String × String)}

theorem extendOwner_of_lt {id : TaskId} (h : id < s.fresh) : extendOwner owner s a id = owner id :=
  if_pos h

theorem Drawn.extendOwner {fresh id : TaskId} {name cluster : String}
    (h : Drawn s a fresh name cluster id) :
    extendOwner owner s a id = some (name, cluster) := by
  rw [Manager.extendOwner, if_neg (Nat.not_lt.mpr h.fresh_le), h.owner]

theorem Owned.derived (howned : Owned owner s) {doc doc' : Config} {fresh : TaskId}
    (hheld : Held s doc) (h : Derives env s a fresh doc doc') (hfresh : s.fresh ≤ fresh)
    {cluster : String} :
    (∀ te ∈ doc'.chain cluster, te.id < fresh
        ∧ extendOwner owner s a te.id = some (doc'.name, cluster))
      ∧ ((doc'.chain cluster).map (·.id)).Nodup := by
  cases hst : doc'.clusters[cluster]? with
  | none => simp [Config.chain, hst]
  | some state' =>
    rw [Config.chain_of_getElem? hst, h.name]
    have hstep := (h.entry hst).chainStep
    constructor
    · intro te' hte'
      obtain hdrawn | ⟨te, hte, hevolves, _⟩ := hstep.mem hte'
      · exact ⟨hdrawn.lt, hdrawn.extendOwner⟩
      · obtain ⟨hlt, howner⟩ := howned.task hheld te hte
        rw [hevolves.id, extendOwner_of_lt hlt]
        exact ⟨Nat.lt_of_lt_of_le hlt hfresh, howner⟩
    · refine hstep.nodup (howned.nodup hheld) (fun te hte hdrawn => ?_)
      exact Nat.not_lt.mpr hdrawn.fresh_le (howned.task hheld te hte).1

theorem Transition.published (h : Transition env s a s') {msg : WorkMessage}
    (hmsg : msg ∈ s'.published) :
    msg ∈ s.published ∨ ∃ (i : Nat) (p : ScheduledPass) (cluster : String)
        (state state' : ClusterState), s.ops[i]? = some (.scheduled p) ∧ Scans p cluster state
          ∧ scheduledStep p.doc.name cluster state = .ok (.publish msg state') := by
  cases h with
  | advance hi hadv =>
    obtain hold | hnew := List.mem_append.mp hmsg
    · exact .inl hold
    · cases hadv with
      | acked hscan hstep =>
        obtain rfl := List.mem_singleton.mp hnew
        exact .inr ⟨_, _, _, _, _, hi, hscan, hstep⟩
      | unconfirmed hscan hstep =>
        obtain rfl := List.mem_singleton.mp hnew
        exact .inr ⟨_, _, _, _, _, hi, hscan, hstep⟩
      | _ => cases hnew
  | _ => exact .inl hmsg

theorem Owned.step (howned : Owned owner s) (h : Transition env s a s') :
    Owned (extendOwner owner s a) s' := by
  have hfresh := h.fresh_le
  have hdoc : ∀ {doc cluster}, Held s' doc →
      (∀ te ∈ doc.chain cluster, te.id < s'.fresh
          ∧ extendOwner owner s a te.id = some (doc.name, cluster))
        ∧ ((doc.chain cluster).map (·.id)).Nodup := by
    intro doc cluster hheld
    obtain hold | ⟨r, rfl⟩ | ⟨old, hold, hd⟩ := h.held hheld
    · refine ⟨fun te hte => ?_, howned.nodup hold⟩
      obtain ⟨hlt, howner⟩ := howned.task hold te hte
      rw [extendOwner_of_lt hlt]
      exact ⟨Nat.lt_of_lt_of_le hlt hfresh, howner⟩
    · simp [Config.chain, UpsertManifestRequest.newConfig]
    · exact howned.derived hold hd hfresh
  refine ⟨fun hheld => (hdoc hheld).1, fun hheld => (hdoc hheld).2, fun msg hmsg => ?_⟩
  obtain hold | ⟨i, p, cluster, state, state', hi, hscan, hstep⟩ := h.published hmsg
  · obtain ⟨hlt, howner⟩ := howned.message msg hold
    rw [extendOwner_of_lt hlt]
    exact ⟨Nat.lt_of_lt_of_le hlt hfresh, howner⟩
  · obtain ⟨te, lower, stage, hpub⟩ := scheduledStep_publish hstep
    have hmem : te ∈ p.doc.chain cluster := by
      simp [Config.chain_of_getElem? hscan.entry, hpub.inFlight]
    obtain ⟨hlt, howner⟩ := howned.task (.of_op hi rfl) te hmem
    rw [hpub.msg, extendOwner_of_lt hlt]
    exact ⟨Nat.lt_of_lt_of_le hlt hfresh, howner⟩

theorem owned_of_reach {ok : System → Action → Prop} (hs : (manager env).Reach ok s) :
    ∃ owner, Owned owner s := by
  refine hs.invariant (I := fun s => ∃ owner, Owned owner s) ⟨fun _ => none, ?_⟩ ?_
  · refine ⟨?_, ?_, fun msg hmsg => by cases hmsg⟩
    · rintro doc cluster (⟨name, hs⟩ | ⟨op, hop, _⟩)
      · simp [manager, System.init] at hs
      · cases hop
    · rintro doc cluster (⟨name, hs⟩ | ⟨op, hop, _⟩)
      · simp [manager, System.init] at hs
      · cases hop
  · rintro s a s' _ ⟨owner, howned⟩ _ hstep
    exact ⟨_, howned.step (step_transition hstep)⟩

end

def AtStage (s : System) (id : TaskId) (stage : Nat) : Prop :=
  ∃ (name : String) (doc : Config) (cluster : String) (te : TaskEvent),
    s.store[name]? = some doc ∧ te ∈ doc.chain cluster ∧ te.id = id ∧ te.currentStage = stage

section

variable {env : Env} {s s' : System} {a : Action} {owner : TaskId → Option (String × String)}

theorem Owned.unique (howned : Owned owner s) (hwf : WellFormed s) {name name' : String}
    {doc doc' : Config} {cluster cluster' : String} {te te' : TaskEvent}
    (hdoc : s.store[name]? = some doc) (hte : te ∈ doc.chain cluster)
    (hdoc' : s.store[name']? = some doc') (hte' : te' ∈ doc'.chain cluster')
    (hid : te.id = te'.id) : name = name' ∧ cluster = cluster' ∧ te = te' := by
  have howner := (howned.task (.inl ⟨name, hdoc⟩) te hte).2
  have howner' := (howned.task (.inl ⟨name', hdoc'⟩) te' hte').2
  rw [hid, howner', hwf.name hdoc, hwf.name hdoc'] at howner
  cases howner
  rw [hdoc] at hdoc'
  cases hdoc'
  exact ⟨rfl, rfl, List.inj_on_of_nodup_map (howned.nodup (.inl ⟨name, hdoc⟩)) hte hte' hid⟩

theorem Transition.atStage (hwf : WellFormed s) (hco : ∀ op ∈ s.ops, Coherent s op)
    (h : Transition env s a s') {id : TaskId} {stage' : Nat} (hat : AtStage s' id stage') :
    s.fresh ≤ id ∨ ∃ stage, AtStage s id stage
      ∧ (stage' = stage ∨ stage' = stage + 1 ∧ delivers s a id stage = true) := by
  obtain ⟨name, doc', cluster, te', hdoc', hte', rfl, rfl⟩ := hat
  obtain ⟨state', hst, hmem⟩ := Config.exists_of_mem_chain hte'
  obtain ⟨doc, hdoc, hentry⟩ := h.entry hwf hco hdoc' hst
  obtain hdrawn | ⟨te, hte, hevolves, hstage⟩ := hentry.chainStep.mem hmem
  · exact .inl hdrawn.fresh_le
  · rw [hevolves.id]
    exact .inr ⟨te.currentStage, ⟨name, doc, cluster, te, hdoc, hte, rfl, rfl⟩, hstage⟩

end

end Manager

end Claudie
