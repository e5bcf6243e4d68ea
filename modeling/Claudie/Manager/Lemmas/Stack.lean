import Claudie.Manager.Lemmas.Chains

/-!
What the tasks of a chain are: only a removal has a task below it, and a task that is known by one id
is of one kind.
-/

namespace Claudie

namespace Manager

def TaskEvent.isRemoval (te : TaskEvent) : Bool := te.task.delta?.any Delta.isRemoval

theorem Delta.isRemoval_consumeDeleteDelta {k8s : K8scluster} {lbs : List LBcluster} {d d' : Delta}
    (h : consumeDeleteDelta k8s lbs d = .ok d') (hd : Delta.isRemoval d = true) :
    Delta.isRemoval d' = true := by
  unfold consumeDeleteDelta at h
  split at h
  next =>
    split at h
    next => cases h
    next =>
      split at h
      next => cases h; rfl
      next => cases h; rfl
  next =>
    split at h
    next => cases h
    next =>
      split at h
      next => cases h
      next =>
        split at h
        next => cases h; rfl
        next => cases h; rfl
  next =>
    cases h
    exact hd

theorem Delta.consumeReplaceDelta_of_isRemoval {k8s : K8scluster} {d : Delta}
    (h : Delta.isRemoval d = true) : consumeReplaceDelta k8s d = d := by
  cases d <;> first | rfl | cases h

theorem isRemoval_of_deltaStep {d d' : Option Delta} (h : Task.DeltaStep d d')
    (hd : d.any Delta.isRemoval = true) : d'.any Delta.isRemoval = true := by
  cases h with
  | same => exact hd
  | consumed hconsume =>
    have hremoval := Delta.isRemoval_consumeDeleteDelta hconsume hd
    rw [Delta.consumeReplaceDelta_of_isRemoval hremoval]
    exact hremoval

theorem Evolves.isRemoval {te te' : TaskEvent} (h : Evolves te te')
    (hte : TaskEvent.isRemoval te = true) : TaskEvent.isRemoval te' = true :=
  isRemoval_of_deltaStep h.delta hte

theorem Removal.isRemoval {id : TaskId} {te : TaskEvent} (h : Removal id te) :
    TaskEvent.isRemoval te = true := by
  obtain ⟨state, delta, htask, hdelta⟩ := h.removal
  simp [TaskEvent.isRemoval, htask, Task.delta?, hdelta]

theorem TaskEvent.reschedulable_of_isRemoval {te : TaskEvent} (h : TaskEvent.isRemoval te = true) :
    TaskEvent.reschedulable te = true := by
  unfold TaskEvent.isRemoval at h
  unfold TaskEvent.reschedulable
  cases hd : te.task.delta? with
  | none => simp [hd] at h
  | some d =>
    rw [hd] at h
    cases d <;> first | rfl | cases h

theorem TaskEvent.kind_of_isRemoval {te : TaskEvent} (h : TaskEvent.isRemoval te = true) :
    te.task.kind = .update := by
  unfold TaskEvent.isRemoval at h
  cases htask : te.task with
  | update _ _ => rfl
  | create _ => simp [htask, Task.delta?] at h
  | delete _ => simp [htask, Task.delta?] at h

def Stacked (chain : List TaskEvent) : Prop :=
  chain.IsChain (fun te _ => TaskEvent.isRemoval te = true)

theorem Stacked.tail {te : TaskEvent} {lower : List TaskEvent} (h : Stacked (te :: lower)) :
    Stacked lower := by
  cases lower with
  | nil => exact .nil
  | cons next rest => exact (List.isChain_cons_cons.mp h).2

theorem Stacked.head {te : TaskEvent} {lower : List TaskEvent} (h : Stacked (te :: lower))
    (hlower : lower ≠ []) : TaskEvent.isRemoval te = true := by
  cases lower with
  | nil => cases hlower rfl
  | cons next rest => exact (List.isChain_cons_cons.mp h).1

theorem Stacked.cons {te : TaskEvent} {lower : List TaskEvent} (h : Stacked lower)
    (hte : lower ≠ [] → TaskEvent.isRemoval te = true) : Stacked (te :: lower) := by
  cases lower with
  | nil => exact .singleton te
  | cons next rest => exact List.isChain_cons_cons.mpr ⟨hte (List.cons_ne_nil _ _), h⟩

theorem Stacked.evolves {te te' : TaskEvent} {lower : List TaskEvent} (h : Stacked (te :: lower))
    (hevolves : Evolves te te') : Stacked (te' :: lower) :=
  h.tail.cons (fun hlower => hevolves.isRemoval (h.head hlower))

section

variable {env : Env} {s s' : System} {a : Action}

theorem ChainStep.stacked {drawn : TaskId → Prop} {chain chain' : List TaskEvent}
    (h : ChainStep s a drawn chain chain') (hchain : Stacked chain) : Stacked chain' := by
  cases h with
  | same => exact hchain
  | cleared => exact .nil
  | replaced _ _ => exact .singleton _
  | pushed hremoval _ => exact hchain.cons (fun _ => hremoval.isRemoval)
  | renamed _ => exact hchain.tail.cons hchain.head
  | changed hevolves _ => exact hchain.evolves hevolves
  | advanced hevolves _ _ _ => exact hchain.evolves hevolves
  | popped hevolves _ => exact hchain.tail.evolves hevolves

theorem chain_invariant {ok : System → Action → Prop} {I : List TaskEvent → Prop} (hnil : I [])
    (hstep : ∀ {s : System} {a : Action} {drawn : TaskId → Prop} {chain chain' : List TaskEvent},
      ChainStep s a drawn chain chain' → I chain → I chain')
    (hs : (manager env).Reach ok s) {doc : Config} (hheld : Held s doc) (cluster : String) :
    I (doc.chain cluster) := by
  refine Held.invariant (I := fun _ doc => ∀ cluster, I (doc.chain cluster)) ?_ ?_ ?_ hs hheld
    cluster
  · intro _ _ _ _ _ h
    exact h
  · intro _ r cluster
    simpa [Config.chain, UpsertManifestRequest.newConfig] using hnil
  · intro s a s' doc doc' _ _ _ _ hdoc hd cluster
    cases hst : doc'.clusters[cluster]? with
    | none => simpa [Config.chain, hst] using hnil
    | some state =>
      rw [Config.chain_of_getElem? hst]
      exact hstep (hd.entry hst).chainStep (hdoc cluster)

theorem stacked_of_reach {ok : System → Action → Prop} (hs : (manager env).Reach ok s)
    {doc : Config} (hheld : Held s doc) (cluster : String) : Stacked (doc.chain cluster) :=
  chain_invariant .nil ChainStep.stacked hs hheld cluster

def TaskEvent.AtStage (te : TaskEvent) : Prop := te.currentStage < te.pipeline.length

theorem NewTask.atStage {id : TaskId} {te : TaskEvent} (h : NewTask id te) :
    TaskEvent.AtStage te := by
  unfold TaskEvent.AtStage
  rw [h.currentStage]
  exact List.length_pos_iff.mpr h.pipeline

theorem Evolves.atStage {te te' : TaskEvent} (h : Evolves te te')
    (hstage : te'.currentStage < te.pipeline.length) : TaskEvent.AtStage te' := by
  unfold TaskEvent.AtStage
  rwa [h.pipeline]

theorem ChainStep.tasksAtStage {drawn : TaskId → Prop} {chain chain' : List TaskEvent}
    (h : ChainStep s a drawn chain chain') (hchain : ∀ te ∈ chain, TaskEvent.AtStage te) :
    ∀ te ∈ chain', TaskEvent.AtStage te := by
  cases h with
  | same => exact hchain
  | cleared => exact List.forall_mem_nil _
  | replaced hnew _ => exact List.forall_mem_singleton.mpr hnew.atStage
  | pushed hremoval _ => exact List.forall_mem_cons.mpr ⟨hremoval.toNewTask.atStage, hchain⟩
  | renamed _ =>
    rw [List.forall_mem_cons] at hchain ⊢
    exact hchain
  | changed hevolves hstage =>
    rw [List.forall_mem_cons] at hchain ⊢
    exact ⟨hevolves.atStage (hstage ▸ hchain.1), hchain.2⟩
  | advanced hevolves _ hlt _ =>
    rw [List.forall_mem_cons] at hchain ⊢
    exact ⟨hevolves.atStage hlt, hchain.2⟩
  | popped hevolves hstage =>
    rw [List.forall_mem_cons, List.forall_mem_cons] at hchain
    rw [List.forall_mem_cons]
    exact ⟨hevolves.atStage (hstage ▸ hchain.2.1), hchain.2.2⟩

theorem tasksAtStage_of_reach {ok : System → Action → Prop} (hs : (manager env).Reach ok s)
    {doc : Config} (hheld : Held s doc) (cluster : String) :
    ∀ te ∈ doc.chain cluster, TaskEvent.AtStage te :=
  chain_invariant (List.forall_mem_nil _) ChainStep.tasksAtStage hs hheld cluster

structure SameKind (s : System) : Prop where
  tasks : ∀ {doc doc' cluster cluster'}, Held s doc → Held s doc' →
    ∀ te ∈ doc.chain cluster, ∀ te' ∈ doc'.chain cluster', te.id = te'.id →
      te.task.kind = te'.task.kind
  messages : ∀ msg ∈ s.published, ∀ {doc cluster}, Held s doc → ∀ te ∈ doc.chain cluster,
    te.id = msg.taskID → te.task.kind = msg.task.kind

theorem Transition.task (h : Transition env s a s') :
    ∃ new : Option Config, ∀ {doc' : Config} {cluster : String} {te' : TaskEvent}, Held s' doc' →
      te' ∈ doc'.chain cluster →
        (s.fresh ≤ te'.id ∧ new = some doc')
          ∨ ∃ doc te, Held s doc ∧ te ∈ doc.chain cluster ∧ Evolves te te' := by
  obtain ⟨new, hnew⟩ := h.held_new
  refine ⟨new, fun {doc' cluster te'} hheld hmem => ?_⟩
  obtain hold | ⟨r, rfl⟩ | ⟨hsome, doc, hold, hd⟩ := hnew hheld
  · exact .inr ⟨doc', te', hold, hmem, .refl _⟩
  · simp [Config.chain, UpsertManifestRequest.newConfig] at hmem
  · obtain ⟨state', hst, hmem⟩ := Config.exists_of_mem_chain hmem
    obtain hdrawn | ⟨te, hte, hevolves, _⟩ := (hd.entry hst).chainStep.mem hmem
    · exact .inl ⟨hdrawn.fresh_le, hsome⟩
    · exact .inr ⟨doc, te, hold, hte, hevolves⟩

theorem SameKind.step {owner owner' : TaskId → Option (String × String)} (h : SameKind s)
    (howned : Owned owner s) (howned' : Owned owner' s') (ht : Transition env s a s') :
    SameKind s' := by
  obtain ⟨new, hnew⟩ := ht.task
  constructor
  · intro doc₁ doc₂ cluster₁ cluster₂ hheld₁ hheld₂ te₁ hte₁ te₂ hte₂ hid
    obtain ⟨hlt₁, hnew₁⟩ | ⟨old₁, t₁, hold₁, ht₁, hevolves₁⟩ := hnew hheld₁ hte₁
    · obtain ⟨_, hnew₂⟩ | ⟨old₂, t₂, hold₂, ht₂, hevolves₂⟩ := hnew hheld₂ hte₂
      · -- both are in the same document, where an id is given only once.
        rw [hnew₁] at hnew₂
        cases hnew₂
        have howner₁ := (howned'.task hheld₁ te₁ hte₁).2
        have howner₂ := (howned'.task hheld₂ te₂ hte₂).2
        rw [hid, howner₂] at howner₁
        cases howner₁
        rw [List.inj_on_of_nodup_map (howned'.nodup hheld₁) hte₁ hte₂ hid]
      · have hlt := (howned.task hold₂ t₂ ht₂).1
        rw [← hevolves₂.id, ← hid] at hlt
        exact absurd hlt (Nat.not_lt.mpr hlt₁)
    · obtain ⟨hlt₂, _⟩ | ⟨old₂, t₂, hold₂, ht₂, hevolves₂⟩ := hnew hheld₂ hte₂
      · have hlt := (howned.task hold₁ t₁ ht₁).1
        rw [← hevolves₁.id, hid] at hlt
        exact absurd hlt (Nat.not_lt.mpr hlt₂)
      · rw [hevolves₁.kind, hevolves₂.kind]
        rw [hevolves₁.id, hevolves₂.id] at hid
        exact h.tasks hold₁ hold₂ t₁ ht₁ t₂ ht₂ hid
  · intro msg hmsg doc' cluster hheld te' hte' hid
    obtain hold | ⟨i, p, c, state, state', hi, hscan, hstep⟩ := ht.published hmsg
    · obtain ⟨hlt, _⟩ | ⟨doc, te, hdoc, hte, hevolves⟩ := hnew hheld hte'
      · have hlt' := (howned.message msg hold).1
        rw [← hid] at hlt'
        exact absurd hlt' (Nat.not_lt.mpr hlt)
      · rw [hevolves.kind]
        rw [hevolves.id] at hid
        exact h.messages msg hold hdoc te hte hid
    · obtain ⟨te, lower, stage, hpub⟩ := scheduledStep_publish hstep
      have hp : Held s p.doc := .of_op hi rfl
      have hmem : te ∈ p.doc.chain c := by
        simp [Config.chain_of_getElem? hscan.entry, hpub.inFlight]
      have hmsgid : msg.taskID = te.id := by rw [hpub.msg]
      have hmsgkind : msg.task.kind = te.task.kind := by rw [hpub.msg]
      obtain ⟨hlt, _⟩ | ⟨doc, t, hdoc, ht, hevolves⟩ := hnew hheld hte'
      · have hlt' := (howned.task hp te hmem).1
        rw [← hmsgid, ← hid] at hlt'
        exact absurd hlt' (Nat.not_lt.mpr hlt)
      · rw [hevolves.kind, hmsgkind]
        rw [hevolves.id, hmsgid] at hid
        exact h.tasks hdoc hp t ht te hmem hid

theorem sameKind_of_reach {ok : System → Action → Prop} (hs : (manager env).Reach ok s) :
    SameKind s := by
  refine hs.invariant (I := SameKind) ⟨?_, fun msg hmsg => by cases hmsg⟩ ?_
  · rintro doc doc' cluster cluster' (⟨name, hs⟩ | ⟨op, hop, _⟩)
    · simp [manager, System.init] at hs
    · cases hop
  · intro s a s' hs h hok hstep
    obtain ⟨owner, howned⟩ := owned_of_reach hs
    obtain ⟨owner', howned'⟩ := owned_of_reach (hs.step hok hstep)
    exact h.step howned howned' (step_transition hstep)

end

end Manager

end Claudie
