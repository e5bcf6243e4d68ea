import Claudie.Store.ConvertDbGrpc

/-!
A config that is converted to the representation of the database and back is the same config exactly
if it is complete: what was absent comes back as the message with no field set.
-/

namespace Claudie

open Protobuf (Enum Message marshal)

namespace Grpc

variable {κ ℓ τ : Type} [Message κ] [Message ℓ] [Message τ]

def Dated (t : Option Timestamp) : Prop :=
  ∃ seconds, t = some seconds
    ∧ 0 ≤ (Rfc3339.date seconds).year ∧ (Rfc3339.date seconds).year ≤ 9999

def InRange (t : Option Timestamp) : Prop := Dated (some (t.getD 0))

structure StageOf.Complete {π : Type} (stage : StageOf π) : Prop where
  description : stage.description.isSome = true
  subPasses : ∀ p ∈ stage.subPasses, p.description.isSome = true

def Stage.Complete : Stage → Prop
  | .unset => False
  | .terraformer stage => stage.Complete
  | .ansibler stage => stage.Complete
  | .kubeEleven stage => stage.Complete
  | .kuber stage => stage.Complete

structure TaskEvent.Complete (te : TaskEvent τ) : Prop where
  timestamp : Dated te.timestamp
  task : te.task.isSome = true
  pipeline : ∀ stage ∈ te.pipeline, stage.Complete

structure ClusterState.Complete (s : ClusterState κ ℓ τ) : Prop where
  -- a kubernetes cluster with no field set has no bytes.
  current : ∃ c, s.current = some c ∧ c.loadBalancers.isSome = true ∧ c.k8s ≠ some Message.empty
  previous : ∀ w, s.state = some w → ∀ p ∈ w.previous, Dated p.timestamp
  inFlight : ∀ te ∈ s.inFlight, te.Complete
  counters : s.counters.isSome = true

structure Config.Complete (cfg : Config κ ℓ τ) : Prop where
  k8sCtx : cfg.k8sCtx.isSome = true
  manifest : ∃ m, cfg.manifest = some m ∧ Dated m.stateTimestamp
  clusters : ∀ (name : String) (s : ClusterState κ ℓ τ), cfg.clusters[name]? = some s → s.Complete

structure ClusterState.Storable (s : ClusterState κ ℓ τ) : Prop where
  state : s.state.isSome = true
  loadBalancers : ∀ c, s.current = some c → c.k8s = none →
    c.loadBalancers.getD Message.empty = Message.empty

def Config.Storable (cfg : Config κ ℓ τ) : Prop :=
  ∀ (name : String) (s : ClusterState κ ℓ τ), cfg.clusters[name]? = some s → s.Storable

structure ClusterState.InRange (s : ClusterState κ ℓ τ) : Prop where
  previous : ∀ w, s.state = some w → ∀ p ∈ w.previous, Grpc.InRange p.timestamp
  inFlight : ∀ te ∈ s.inFlight, Grpc.InRange te.timestamp

structure Config.InRange (cfg : Config κ ℓ τ) : Prop where
  manifest : Grpc.InRange (cfg.manifest.bind (·.stateTimestamp))
  clusters : ∀ (name : String) (s : ClusterState κ ℓ τ), cfg.clusters[name]? = some s → s.InRange

end Grpc

namespace Store

variable {κ ℓ τ : Type} [Message κ] [Message ℓ] [Message τ]

theorem parse_formatTimestamp {t : Option Grpc.Timestamp} :
    Rfc3339.parse (formatTimestamp t) = t ↔ Grpc.Dated t := by
  unfold Grpc.Dated formatTimestamp
  cases t with
  | none =>
    have hepoch : Rfc3339.parse (Rfc3339.format 0) = some 0 := rfl
    rw [Option.getD_none, hepoch]
    simp
  | some seconds =>
    rw [Option.getD_some, Rfc3339.parse_format_iff]
    simp

section stages

variable {π : Type} [Enum π]

theorem toDescription_fromDescription {d : Option Claudie.StageDescription} :
    some (toDescription (fromDescription d)) = d ↔ d.isSome = true := by
  cases d with
  | none => simp
  | some d => simp [toDescription, fromDescription]

theorem toSubPass_fromSubPass {p : Grpc.SubPass π} :
    toSubPass (fromSubPass p) = p ↔ p.description.isSome = true := by
  obtain ⟨kind, description⟩ := p
  simp [toSubPass, fromSubPass, toDescription_fromDescription]

theorem toStageOf_fromStageOf {kind : StageKind} {stage : Grpc.StageOf π} :
    toStageOf (fromStageOf kind stage) = stage ↔ stage.Complete := by
  obtain ⟨description, subPasses⟩ := stage
  have hsubPasses : (subPasses.map fromSubPass).map toSubPass = subPasses
      ↔ ∀ p ∈ subPasses, p.description.isSome = true := by
    rw [List.map_map]
    constructor
    · intro h p hp
      exact toSubPass_fromSubPass.mp (List.map_inj_left.mp (h.trans (List.map_id _).symm) p hp)
    · intro h
      refine (List.map_inj_left.mpr (fun p hp => ?_)).trans (List.map_id _)
      exact toSubPass_fromSubPass.mpr (h p hp)
  rw [toStageOf, fromStageOf, Grpc.StageOf.mk.injEq, toDescription_fromDescription, hsubPasses]
  exact ⟨fun h => ⟨h.1, h.2⟩, fun h => ⟨h.description, h.subPasses⟩⟩

theorem fromStageOf_kind {kind : StageKind} {stage : Grpc.StageOf π} :
    (fromStageOf kind stage).kind = kind := rfl

end stages

theorem stage_roundTrip {stage : Grpc.Stage} :
    (convertFromGRPCStage stage >>= convertToGRPCStage) = .ok stage ↔ stage.Complete := by
  cases stage with
  | unset => simp [convertFromGRPCStage, Grpc.Stage.Complete, bind, Except.bind]
  | terraformer stage =>
    change convertToGRPCStage (fromStageOf StageKind.terraformer stage) = _ ↔ stage.Complete
    rw [convertToGRPCStage, fromStageOf_kind, if_neg (by decide), if_neg (by decide),
      if_neg (by decide), if_pos rfl]
    simp [pure, Except.pure, toStageOf_fromStageOf]
  | ansibler stage =>
    change convertToGRPCStage (fromStageOf StageKind.ansibler stage) = _ ↔ stage.Complete
    rw [convertToGRPCStage, fromStageOf_kind, if_pos rfl]
    simp [pure, Except.pure, toStageOf_fromStageOf]
  | kubeEleven stage =>
    change convertToGRPCStage (fromStageOf StageKind.kubeEleven stage) = _ ↔ stage.Complete
    rw [convertToGRPCStage, fromStageOf_kind, if_neg (by decide), if_pos rfl]
    simp [pure, Except.pure, toStageOf_fromStageOf]
  | kuber stage =>
    change convertToGRPCStage (fromStageOf StageKind.kuber stage) = _ ↔ stage.Complete
    rw [convertToGRPCStage, fromStageOf_kind, if_neg (by decide), if_neg (by decide), if_pos rfl]
    simp [pure, Except.pure, toStageOf_fromStageOf]

theorem stages_roundTrip {stages : List Grpc.Stage} :
    (convertFromGRPCStages stages >>= convertToGRPCStages) = .ok stages
      ↔ ∀ stage ∈ stages, stage.Complete := by
  refine Outcome.mapM_roundTrip.trans ?_
  simp only [stage_roundTrip]

theorem parseTimestamp_eq_ok {text : String} {t : Grpc.Timestamp} :
    parseTimestamp text = .ok t ↔ Rfc3339.parse text = some t := by
  unfold parseTimestamp
  cases Rfc3339.parse text with
  | none => simp
  | some t' => simp [pure, Except.pure]

theorem taskEvents_roundTrip {tes : List (Grpc.TaskEvent τ)} :
    (convertFromGRPCTaskEvent tes >>= convertToGRPCTaskEvent) = .ok tes
      ↔ ∀ te ∈ tes, te.Complete := by
  induction tes with
  | nil =>
    simp [convertFromGRPCTaskEvent, convertToGRPCTaskEvent, bind, Except.bind, pure, Except.pure]
  | cons te lower ih =>
    rw [List.forall_mem_cons, ← ih]
    simp only [convertFromGRPCTaskEvent, Outcome.bind_eq_ok]
    constructor
    · rintro ⟨_, ⟨dbLower, hdbLower, dbPipeline, hdbPipeline, hdb⟩, h⟩
      cases hdb
      simp only [convertToGRPCTaskEvent, Outcome.bind_eq_ok, parseTimestamp_eq_ok] at h
      obtain ⟨lower', hlower, task, htask, t, ht, pipeline, hpipeline, h⟩ := h
      obtain ⟨hte, rfl⟩ := List.cons.inj (Except.ok.inj h)
      have htimestamp : te.timestamp = some t := (congrArg (·.timestamp) hte).symm
      have hsome : te.task = some task := (congrArg (·.task) hte).symm
      have hstages : pipeline = te.pipeline := congrArg (·.pipeline) hte
      refine ⟨⟨parse_formatTimestamp.mp (ht.trans htimestamp.symm), by rw [hsome]; rfl, ?_⟩,
        dbLower, hdbLower, hlower⟩
      rw [hstages] at hpipeline
      exact stages_roundTrip.mp (Outcome.bind_eq_ok.mpr ⟨dbPipeline, hdbPipeline, hpipeline⟩)
    · rintro ⟨⟨htimestamp, htask, hpipeline⟩, dbLower, hdbLower, hlower⟩
      obtain ⟨dbPipeline, hdbPipeline, hpipeline⟩ :=
        Outcome.bind_eq_ok.mp (stages_roundTrip.mpr hpipeline)
      refine ⟨_, ⟨dbLower, hdbLower, dbPipeline, hdbPipeline, rfl⟩, ?_⟩
      have hparse := parse_formatTimestamp.mpr htimestamp
      obtain ⟨t, ht, -⟩ := htimestamp
      obtain ⟨task, htask⟩ := Option.isSome_iff_exists.mp htask
      simp only [convertToGRPCTaskEvent, Outcome.bind_eq_ok, parseTimestamp_eq_ok]
      refine ⟨lower, hlower, task, ?_, t, hparse.trans ht, te.pipeline, hpipeline, ?_⟩
      · rw [Protobuf.unmarshal_marshal_getD, htask, Option.getD_some]
      · rw [Enum.value_name, ← ht, ← htask]
        rfl

theorem workflow_roundTrip {now : Grpc.Timestamp} {w : Grpc.Workflow} :
    convertToGRPCWorkflow (convertFromGRPCWorkflow now w) = w
      ↔ ∀ p ∈ w.previous, Grpc.Dated p.timestamp := by
  obtain ⟨status, description, previous, ticksUntilRefresh⟩ := w
  rw [convertToGRPCWorkflow, convertFromGRPCWorkflow, Grpc.Workflow.mk.injEq]
  simp only [Enum.value_name, List.map_map, true_and, and_true]
  constructor
  · intro h p hp
    have heq := List.map_inj_left.mp (h.trans (List.map_id _).symm) p hp
    exact parse_formatTimestamp.mp (congrArg (·.timestamp) heq)
  · intro h
    refine (List.map_inj_left.mpr (fun p hp => ?_)).trans (List.map_id _)
    rw [Function.comp_apply, Enum.value_name, parse_formatTimestamp.mpr (h p hp)]
    rfl

theorem convertToGRPCClusters_of_nil {c : Clusters} (h : c.k8s = []) :
    convertToGRPCClusters c = .ok (⟨none, some Message.empty⟩ : Grpc.Clusters κ ℓ) := by
  rw [convertToGRPCClusters, if_pos h]
  rfl

theorem convertToGRPCClusters_of_ne_nil {c : Clusters} {k8s : κ} {lbs : ℓ} (h : c.k8s ≠ [])
    (hk8s : Message.unmarshal c.k8s = .ok k8s) (hlbs : Message.unmarshal c.loadBalancers = .ok lbs) :
    convertToGRPCClusters c = .ok (⟨some k8s, some lbs⟩ : Grpc.Clusters κ ℓ) := by
  rw [convertToGRPCClusters, if_neg h]
  refine Outcome.bind_eq_ok.mpr ⟨k8s, Outcome.wrap_eq_ok.mpr hk8s, ?_⟩
  split
  next hnil =>
    rw [hnil, Protobuf.unmarshal_nil] at hlbs
    cases hlbs
    rfl
  next => exact Outcome.bind_eq_ok.mpr ⟨lbs, Outcome.wrap_eq_ok.mpr hlbs, rfl⟩

theorem clusters_roundTrip {c : Grpc.Clusters κ ℓ}
    (h : c.k8s = none → c.loadBalancers.getD Message.empty = Message.empty) :
    convertToGRPCClusters (convertFromGRPCClusters (some c)) = .ok c
      ↔ c.loadBalancers.isSome = true ∧ c.k8s ≠ some Message.empty := by
  obtain ⟨k8s, loadBalancers⟩ := c
  cases k8s with
  | none =>
    rw [convertToGRPCClusters_of_nil rfl]
    cases loadBalancers with
    | none => simp
    | some lbs => simpa [eq_comm] using h rfl
  | some k8s =>
    by_cases hempty : k8s = Message.empty
    · rw [convertToGRPCClusters_of_nil (Protobuf.marshal_eq_nil.mpr hempty)]
      simp [hempty]
    · rw [convertToGRPCClusters_of_ne_nil (fun hnil => hempty (Protobuf.marshal_eq_nil.mp hnil))
        (Message.unmarshal_marshal k8s) (Protobuf.unmarshal_marshal_getD loadBalancers)]
      cases loadBalancers with
      | none => simp
      | some lbs => simp [hempty]

theorem clusterState_roundTrip {now : Grpc.Timestamp} {s : Grpc.ClusterState κ ℓ τ}
    (h : s.Storable) :
    (convertFromGRPCClusterState now s >>= convertToGRPCClusterState) = .ok s ↔ s.Complete := by
  obtain ⟨current, state, inFlight, counters⟩ := s
  obtain ⟨w, rfl⟩ := Option.isSome_iff_exists.mp h.state
  simp only [convertFromGRPCClusterState, convertToGRPCClusterState, Outcome.bind_eq_ok,
    Outcome.wrap_eq_ok, Outcome.deref_some]
  constructor
  · rintro ⟨_, ⟨tasks, htasks, w', hw', hdb⟩, inFlight', hinFlight, current', hcurrent, hback⟩
    cases hw'
    cases hdb
    obtain ⟨rfl, hw, rfl, hcounters⟩ := Grpc.ClusterState.mk.inj (Except.ok.inj hback)
    have hcurrent := (clusters_roundTrip (h.loadBalancers current' rfl)).mp hcurrent
    exact
      { current := ⟨current', rfl, hcurrent⟩
        previous := fun w' hw' => by
          cases hw'
          exact workflow_roundTrip.mp (Option.some.inj hw)
        inFlight := taskEvents_roundTrip.mp (Outcome.bind_eq_ok.mpr ⟨tasks, htasks, hinFlight⟩)
        counters := by rw [← hcounters]; rfl }
  · rintro ⟨⟨c, hc, hcurrent⟩, hprevious, hinFlight, hcounters⟩
    cases hc
    obtain ⟨counters, rfl⟩ := Option.isSome_iff_exists.mp hcounters
    obtain ⟨tasks, htasks, hinFlight⟩ :=
      Outcome.bind_eq_ok.mp (taskEvents_roundTrip.mpr hinFlight)
    refine ⟨_, ⟨tasks, htasks, w, rfl, rfl⟩, inFlight, hinFlight, c,
      (clusters_roundTrip (h.loadBalancers c rfl)).mpr hcurrent, ?_⟩
    rw [workflow_roundTrip.mpr (hprevious w rfl)]
    rfl

def roundTrip (ord ord' : MapOrder) (now : String → Grpc.Timestamp) (cfg : Grpc.Config κ ℓ τ) :
    Outcome (Grpc.Config κ ℓ τ) := do
  let db ← convertFromGRPC ord now cfg
  convertToGRPC ord' db

theorem parse_of_inRange {t : Option Grpc.Timestamp} (h : Grpc.InRange t) :
    Rfc3339.parse (formatTimestamp t) = some (t.getD 0) := by
  obtain ⟨seconds, heq, hyear⟩ := h
  cases heq
  exact Rfc3339.parse_format hyear

theorem toStageOf_complete {π : Type} [Enum π] (db : Stage) :
    (toStageOf db : Grpc.StageOf π).Complete := by
  refine ⟨rfl, fun p hp => ?_⟩
  obtain ⟨dbPass, -, rfl⟩ := List.mem_map.mp hp
  rfl

theorem stage_complete {db : Stage} {stage : Grpc.Stage} (h : convertToGRPCStage db = .ok stage) :
    stage.Complete := by
  unfold convertToGRPCStage at h
  repeat' split at h
  all_goals
    cases h
  all_goals
    exact toStageOf_complete db

theorem taskEvents_complete {tes tes' : List (Grpc.TaskEvent τ)} {dbs : List TaskEvent}
    (hrange : ∀ te ∈ tes, Grpc.InRange te.timestamp)
    (hfrom : convertFromGRPCTaskEvent tes = .ok dbs) (hto : convertToGRPCTaskEvent dbs = .ok tes') :
    ∀ te ∈ tes', te.Complete := by
  induction tes generalizing dbs tes' with
  | nil =>
    cases hfrom
    cases hto
    exact List.forall_mem_nil _
  | cons te lower ih =>
    rw [List.forall_mem_cons] at hrange
    simp only [convertFromGRPCTaskEvent, Outcome.bind_eq_ok] at hfrom
    obtain ⟨dbLower, hdbLower, dbPipeline, -, hdb⟩ := hfrom
    cases hdb
    simp only [convertToGRPCTaskEvent, Outcome.bind_eq_ok, parseTimestamp_eq_ok,
      parse_of_inRange hrange.1] at hto
    obtain ⟨lower', hlower, task, -, t, ht, pipeline, hpipeline, hte⟩ := hto
    cases hte
    refine List.forall_mem_cons.mpr ⟨⟨?_, rfl, fun stage hstage => ?_⟩,
      ih hrange.2 hdbLower hlower⟩
    · rw [← ht]
      exact hrange.1
    · obtain ⟨db, -, hdb⟩ := List.exists_mem_of_forall₂ (Outcome.mapM_eq_ok.mp hpipeline) hstage
      exact stage_complete hdb

theorem clusters_complete {current : Option (Grpc.Clusters κ ℓ)} {c : Grpc.Clusters κ ℓ}
    (h : convertToGRPCClusters (convertFromGRPCClusters current) = .ok c) :
    (c.loadBalancers.isSome = true ∧ c.k8s ≠ some Message.empty)
      ∧ (c.k8s = none → c.loadBalancers.getD Message.empty = Message.empty) := by
  cases hk8s : current.bind (·.k8s) with
  | none =>
    rw [convertToGRPCClusters_of_nil (by rw [convertFromGRPCClusters, hk8s]; rfl)] at h
    cases h
    simp
  | some k8s =>
    have hbytes : (convertFromGRPCClusters current).k8s = Message.marshal k8s := by
      rw [convertFromGRPCClusters, hk8s]
      rfl
    by_cases hempty : k8s = Message.empty
    · rw [convertToGRPCClusters_of_nil (hbytes.trans (Protobuf.marshal_eq_nil.mpr hempty))] at h
      cases h
      simp
    · rw [convertToGRPCClusters_of_ne_nil
        (fun hnil => hempty (Protobuf.marshal_eq_nil.mp (hbytes.symm.trans hnil)))
        (hbytes ▸ Message.unmarshal_marshal k8s) (Protobuf.unmarshal_marshal_getD _)] at h
      cases h
      simp [hempty]

theorem clusterState_complete {now : Grpc.Timestamp} {s s' : Grpc.ClusterState κ ℓ τ}
    (hrange : s.InRange)
    (h : (convertFromGRPCClusterState now s >>= convertToGRPCClusterState) = .ok s') :
    s'.Complete ∧ s'.Storable := by
  simp only [convertFromGRPCClusterState, convertToGRPCClusterState, Outcome.bind_eq_ok,
    Outcome.wrap_eq_ok, Outcome.deref_eq_ok] at h
  obtain ⟨_, ⟨tasks, htasks, w, hw, hdb⟩, inFlight, hinFlight, current, hcurrent, hback⟩ := h
  cases hdb
  cases hback
  obtain ⟨hcomplete, hattached⟩ := clusters_complete hcurrent
  refine ⟨⟨⟨current, rfl, hcomplete⟩, fun w' hw' p hp => ?_,
    taskEvents_complete hrange.inFlight htasks hinFlight, rfl⟩, ⟨rfl, fun c hc => ?_⟩⟩
  · cases hw'
    obtain ⟨db, hdb, rfl⟩ := List.mem_map.mp hp
    obtain ⟨p', hp', rfl⟩ := List.mem_map.mp hdb
    have hprevious := hrange.previous w hw p' hp'
    dsimp only
    rw [parse_of_inRange hprevious]
    exact hprevious
  · cases hc
    exact hattached

/--
A config that was read from the store is complete, so that it is read the same whenever it is stored
and read again without a change.
-/
theorem read_config_complete {ord ord' : MapOrder} {now : String → Grpc.Timestamp}
    {cfg cfg' : Grpc.Config κ ℓ τ} (hrange : cfg.InRange)
    (h : roundTrip ord ord' now cfg = .ok cfg') : cfg'.Complete ∧ cfg'.Storable := by
  simp only [roundTrip, convertFromGRPC, convertToGRPC, Outcome.bind_eq_ok,
    MapOrder.traverse_eq_ok] at h
  obtain ⟨_, ⟨dbClusters, ⟨hfrom, hnone⟩, hdb⟩, clusters, ⟨hto, hnone'⟩, hback⟩ := h
  cases hdb
  cases hback
  -- every cluster state that is read was converted from one of the same name.
  have hstates : ∀ (name : String) (s : Grpc.ClusterState κ ℓ τ), clusters[name]? = some s →
      s.Complete ∧ s.Storable := by
    intro name s' hs'
    cases hs : cfg.clusters[name]? with
    | none =>
      rw [hnone' name (hnone name hs)] at hs'
      cases hs'
    | some s =>
      obtain ⟨db, hdb, hdb'⟩ := hfrom name s hs
      obtain ⟨s'', hback, hs''⟩ := hto name db hdb'
      rw [hs'] at hs''
      cases hs''
      exact clusterState_complete (hrange.clusters name s hs)
        (Outcome.bind_eq_ok.mpr ⟨db, hdb, hback⟩)
  refine ⟨⟨rfl, ⟨_, rfl, ?_⟩, fun name s hs => (hstates name s hs).1⟩,
    fun name s hs => (hstates name s hs).2⟩
  dsimp only
  rw [parse_of_inRange hrange.manifest]
  exact hrange.manifest

theorem roundTrip_iff_complete {ord ord' : MapOrder} {now : String → Grpc.Timestamp}
    {cfg : Grpc.Config κ ℓ τ} (h : cfg.Storable) :
    roundTrip ord ord' now cfg = .ok cfg ↔ cfg.Complete := by
  obtain ⟨version, name, k8sCtx, manifest, clusters⟩ := cfg
  have hclusters := @MapOrder.traverse_roundTrip ord "ConvertFromGRPC" _ _ ord' "ConvertToGRPC"
    (fun k8sName cluster => convertFromGRPCClusterState (now k8sName) cluster)
    (fun _ cluster => convertToGRPCClusterState cluster) clusters
  have hstates : (∀ (name : String) (s : Grpc.ClusterState κ ℓ τ), clusters[name]? = some s →
      (convertFromGRPCClusterState (now name) s >>= convertToGRPCClusterState) = .ok s)
      ↔ ∀ (name : String) (s : Grpc.ClusterState κ ℓ τ), clusters[name]? = some s → s.Complete :=
    forall_congr' fun name => forall_congr' fun s => forall_congr' fun hs =>
      clusterState_roundTrip (h name s hs)
  rw [hstates, Outcome.bind_eq_ok] at hclusters
  simp only [roundTrip, convertFromGRPC, convertToGRPC, Outcome.bind_eq_ok]
  constructor
  · rintro ⟨_, ⟨dbClusters, hdb, heq⟩, clusters', hback, hcfg⟩
    cases heq
    obtain ⟨-, -, hctx, hmanifest, rfl⟩ := Grpc.Config.mk.inj (Except.ok.inj hcfg)
    obtain ⟨m, rfl⟩ : ∃ m, manifest = some m := ⟨_, hmanifest.symm⟩
    have htimestamp : Rfc3339.parse (formatTimestamp m.stateTimestamp) = m.stateTimestamp :=
      congrArg (·.stateTimestamp) (Option.some.inj hmanifest)
    exact
      { k8sCtx := by rw [← hctx]; rfl
        manifest := ⟨m, rfl, parse_formatTimestamp.mp htimestamp⟩
        clusters := hclusters.mp ⟨dbClusters, hdb, hback⟩ }
  · rintro ⟨hctx, ⟨m, hm, hdated⟩, hstates⟩
    obtain ⟨dbClusters, hdb, hback⟩ := hclusters.mpr hstates
    obtain ⟨ctx, rfl⟩ := Option.isSome_iff_exists.mp hctx
    cases hm
    refine ⟨_, ⟨dbClusters, hdb, rfl⟩, clusters, hback, ?_⟩
    simp only [Option.map_some, Option.getD_some, Option.bind_some, Enum.value_name,
      parse_formatTimestamp.mpr hdated]
    rfl

namespace Demo

structure Bytes where
  bytes : List UInt8
  deriving DecidableEq

instance : Message Bytes where
  empty := ⟨[]⟩
  marshal m := m.bytes
  unmarshal bytes := .ok ⟨bytes⟩
  unmarshal_marshal _ := rfl
  marshal_empty := rfl

def description : Claudie.StageDescription := ⟨"Configuring infrastructure", .fatal⟩

def pipeline : List Grpc.Stage :=
  [.terraformer ⟨some description, [⟨.updateInfrastructure, some description⟩]⟩,
    .ansibler ⟨some description, [⟨.installVpn, some ⟨"Installing VPN", .warn⟩⟩]⟩,
    .kubeEleven ⟨some description, [⟨.reconcileCluster, some description⟩]⟩,
    .kuber ⟨some description, [⟨.patchNodes, some description⟩, ⟨.deployLonghorn, some description⟩]⟩]

def task (id : String) : Grpc.TaskEvent Bytes :=
  ⟨id, some 1709251199, .update, some ⟨[18, 0]⟩, "update", pipeline, 1⟩

def state (current : Option (Grpc.Clusters Bytes Bytes)) : Grpc.ClusterState Bytes Bytes Bytes where
  current
  state := some ⟨.inProgress, "processing", [⟨.error, "create", "KUBER", some 1709164800⟩], 10⟩
  inFlight := [task "high", task "low"]
  counters := some ⟨∅⟩

def config (current : Option (Grpc.Clusters Bytes Bytes)) : Grpc.Config Bytes Bytes Bytes where
  version := 7
  name := "config"
  k8sCtx := some ⟨"input-manifest", "default"⟩
  manifest := some ⟨"kubernetes", [1, 2], [1], .scheduled, some 1709251199⟩
  clusters := (∅ : GoMap (Grpc.ClusterState Bytes Bytes Bytes)).insert "main" (state current)

theorem eq_state {current : Option (Grpc.Clusters Bytes Bytes)} {name : String}
    {s : Grpc.ClusterState Bytes Bytes Bytes} (h : (config current).clusters[name]? = some s) :
    s = state current := by
  rw [config, GoMap.getElem?_insert, Std.ExtTreeMap.getElem?_empty] at h
  split at h
  · exact (Option.some.inj h).symm
  · cases h

theorem storable_config {current : Option (Grpc.Clusters Bytes Bytes)}
    (h : ∀ c, current = some c → c.k8s = none → c.loadBalancers.getD ⟨[]⟩ = ⟨[]⟩) :
    (config current).Storable := by
  intro name s hs
  rw [eq_state hs]
  exact ⟨rfl, h⟩

def clusters : Grpc.Clusters Bytes Bytes := ⟨some ⟨[10, 0]⟩, some ⟨[]⟩⟩

theorem complete_config : (config (some clusters)).Complete where
  k8sCtx := rfl
  manifest := ⟨_, rfl, parse_formatTimestamp.mp rfl⟩
  clusters name s hs := by
    rw [eq_state hs]
    exact
      { current := ⟨clusters, rfl, rfl, by decide⟩
        previous := fun w hw => by
          cases hw
          exact (@workflow_roundTrip 0 _).mp rfl
        inFlight := taskEvents_roundTrip.mp (by decide +kernel)
        counters := rfl }

end Demo

theorem complete_config_is_read_back :
    (Demo.config (some Demo.clusters)).Complete
      ∧ roundTrip .ascending .descending (fun _ => 0) (Demo.config (some Demo.clusters))
        = .ok (Demo.config (some Demo.clusters)) := by
  refine ⟨Demo.complete_config, (roundTrip_iff_complete (Demo.storable_config ?_)).mpr
    Demo.complete_config⟩
  rintro c ⟨⟩ hk8s
  cases hk8s

theorem absent_clusters_are_read_back :
    (Demo.config none).Storable
      ∧ roundTrip .ascending .ascending (fun _ => 0) (Demo.config none)
        = .ok (Demo.config (some ⟨none, some ⟨[]⟩⟩))
      ∧ Demo.config (some ⟨none, some ⟨[]⟩⟩) ≠ Demo.config none := by
  refine ⟨Demo.storable_config ?_, rfl, by decide +kernel⟩
  rintro c ⟨⟩

theorem read_config_is_stable {ord ord' ord₁ ord₁' : MapOrder} {now now₁ : String → Grpc.Timestamp}
    {cfg cfg' : Grpc.Config κ ℓ τ} (hrange : cfg.InRange)
    (h : roundTrip ord ord' now cfg = .ok cfg') : roundTrip ord₁ ord₁' now₁ cfg' = .ok cfg' := by
  obtain ⟨hcomplete, hstorable⟩ := read_config_complete hrange h
  obtain ⟨version, name, k8sCtx, manifest, clusters⟩ := cfg'
  obtain ⟨hctx, ⟨m, rfl, hdated⟩, hstates⟩ := hcomplete
  obtain ⟨ctx, rfl⟩ := Option.isSome_iff_exists.mp hctx
  obtain ⟨dbClusters, hdb, hback⟩ := Outcome.bind_eq_ok.mp ((@MapOrder.traverse_roundTrip ord₁
    "ConvertFromGRPC" _ _ ord₁' "ConvertToGRPC"
    (fun k8sName cluster => convertFromGRPCClusterState (now₁ k8sName) cluster)
    (fun _ cluster => convertToGRPCClusterState cluster) clusters).mpr
      (fun name s hs => (clusterState_roundTrip (hstorable name s hs)).mpr (hstates name s hs)))
  refine Outcome.bind_eq_ok.mpr ⟨_, Outcome.bind_eq_ok.mpr ⟨dbClusters, hdb, rfl⟩,
    Outcome.bind_eq_ok.mpr ⟨clusters, hback, ?_⟩⟩
  simp only [Option.map_some, Option.getD_some, Option.bind_some, Enum.value_name,
    parse_formatTimestamp.mpr hdated]
  rfl

theorem read_config_is_stable_demo :
    roundTrip .descending .ascending (fun _ => 1) (Demo.config (some ⟨none, some ⟨[]⟩⟩))
      = .ok (Demo.config (some ⟨none, some ⟨[]⟩⟩)) := by
  have hrange : (Demo.config none).InRange := by
    refine ⟨parse_formatTimestamp.mp rfl, fun name s hs => ?_⟩
    rw [Demo.eq_state hs]
    refine ⟨fun w hw p hp => ?_, fun te hte => ?_⟩
    · cases hw
      rw [List.mem_singleton.mp hp]
      exact parse_formatTimestamp.mp rfl
    · obtain rfl | rfl := List.mem_pair.mp hte
      all_goals exact parse_formatTimestamp.mp rfl
  have hread : roundTrip .ascending .ascending (fun _ => 0) (Demo.config none)
      = .ok (Demo.config (some ⟨none, some ⟨[]⟩⟩)) := rfl
  exact read_config_is_stable hrange hread

end Store

end Claudie
