import Claudie.Lib.Transition
import Claudie.Manager.Handlers

/-!
The manager as a whole. An operation reads a document, and in a later step it writes what it made of
it, guarded by the version it has read. Between the two any other operation may take its steps.
-/

namespace Claudie

namespace Manager

inductive Phase where
  | scan
  | writeNoWork
  | writePickup
  | writeFinal
  deriving DecidableEq

structure ScheduledPass where
  doc : Config
  todo : List String
  clustersDone : Nat
  anyError : Bool
  phase : Phase

inductive Op where
  | create (r : UpsertManifestRequest)
  | upsert (r : UpsertManifestRequest) (doc : Config) (validated : Bool)
  | pending (doc : Config)
  | scheduled (pass : ScheduledPass)
  | idle (doc : Config)
  | process (msg : WorkMessage) (result : TaskResult) (doc : Config)
  | markNode (r : MarkNodeForDeletionRequest) (doc : Config)
  | updateTargetSize (r : UpdateTargetSizeRequest) (doc : Config)

namespace Op

def doc? : Op → Option Config
  | .create _ => none
  | .upsert _ doc _ | .pending doc | .idle doc | .process _ _ doc | .markNode _ doc
  | .updateTargetSize _ doc => some doc
  | .scheduled pass => some pass.doc

def isPending (name : String) : Op → Bool
  | .pending doc => doc.name = name
  | _ => false

def isScheduled (name : String) : Op → Bool
  | .scheduled pass => pass.doc.name = name
  | _ => false

def isIdle (name : String) : Op → Bool
  | .idle doc => doc.name = name
  | _ => false

end Op

structure System where
  store : GoMap Config
  ops : List Op
  -- every work message that was ever put into the queue.
  published : List WorkMessage
  -- the first task id that was not drawn yet.
  fresh : TaskId

inductive PublishOutcome where
  | acked
  | unconfirmed
  | failed
  deriving DecidableEq

/--
Each watcher is a single loop and works on one document of a name at a time; requests and results
are handled concurrently. `deliver` is the delivery of a result that answers a published message: it
may happen late and any number of times. An operation may be cut off at any point by `drop`.
-/
inductive Action where
  | upsertManifest (r : UpsertManifestRequest)
  | markForDeletion (name : String) (version : Nat)
  | markNodeForDeletion (r : MarkNodeForDeletionRequest)
  | nodePoolUpdateTargetSize (r : UpdateTargetSizeRequest)
  | watchPending (name : String)
  | watchScheduled (name : String)
  | watchDoneOrError (name : String)
  | deliver (msg : Nat) (result : TaskResult)
  | reconcile (op : Nat) (inputs : String → ReconcileInput)
      (fromManifest : Option (GoMap DesiredCluster))
  | scan (op : Nat) (cluster : String) (outcome : PublishOutcome)
  | proceed (op : Nat)
  -- the write of a cluster without work fails, but not because of its version.
  | failWrite (op : Nat)
  | drop (op : Nat)

namespace System

def init : System := ⟨∅, [], [], 0⟩

def start (s : System) (op : Op) : System := { s with ops := s.ops ++ [op] }

def finish (s : System) (i : Nat) : System := { s with ops := s.ops.eraseIdx i }

def setOp (s : System) (i : Nat) (op : Op) : System := { s with ops := s.ops.set i op }

-- `UpdateConfig`: false is `ErrNotFoundOrDirty`.
def updateConfig (s : System) (doc : Config) : System × Bool :=
  match s.store[doc.name]? with
  | none => (s, false)
  | some stored =>
    if stored.version = doc.version then
      ({ s with store := s.store.insert doc.name { doc with version := doc.version + 1 } }, true)
    else (s, false)

def deleteConfig (s : System) (name : String) (version : Nat) : System :=
  match s.store[name]? with
  | none => s
  | some stored =>
    if stored.version = version then { s with store := s.store.erase name } else s

-- The name has a unique index.
def createConfig (s : System) (doc : Config) : System :=
  match s.store[doc.name]? with
  | none => { s with store := s.store.insert doc.name doc }
  | some _ => s

end System

def WorkMessage.work (msg : WorkMessage) (result : TaskResult) : Work :=
  { inputManifest := msg.inputManifest
    cluster := msg.cluster
    taskID := msg.taskID
    taskStage := msg.stage
    stage := msg.subject
    result }

def ScheduledPass.setCluster (p : ScheduledPass) (cluster : String) (state : ClusterState)
    (phase : Phase) : ScheduledPass :=
  { p with doc := { p.doc with clusters := p.doc.clusters.insert cluster state }, phase }

def scanCluster (s : System) (i : Nat) (p : ScheduledPass) (cluster : String)
    (outcome : PublishOutcome) : Option System :=
  match p.phase, p.doc.clusters[cluster]? with
  | .scan, some state =>
    if p.todo.contains cluster then
      let p := { p with todo := p.todo.erase cluster }
      match scheduledStep p.doc.name cluster state with
      | .error _ => some (s.finish i)
      | .ok (.finished anyError) =>
        some (s.setOp i (.scheduled
          { p with clustersDone := p.clustersDone + 1, anyError := p.anyError || anyError }))
      | .ok .inProgress => some (s.setOp i (.scheduled p))
      | .ok (.noWork state) =>
        some (s.setOp i (.scheduled (p.setCluster cluster state .writeNoWork)))
      | .ok (.publish msg state) =>
        let queued := { s with published := s.published ++ [msg] }
        match outcome with
        | .acked => some (queued.setOp i (.scheduled (p.setCluster cluster state .writePickup)))
        | .unconfirmed => some (queued.setOp i (.scheduled p))
        | .failed => some (s.setOp i (.scheduled p))
    else none
  | _, _ => none

def proceedScheduled (s : System) (i : Nat) (p : ScheduledPass) : Option System :=
  match p.phase with
  | .scan =>
    if p.todo.isEmpty then
      match finishScheduled p.doc p.anyError with
      | some doc =>
        if p.clustersDone = p.doc.clusters.size then
          some (s.setOp i (.scheduled { p with doc, phase := .writeFinal }))
        else some (s.finish i)
      | none => some (s.finish i)
    else none
  | .writeNoWork | .writeFinal => some ((s.finish i).updateConfig p.doc).1
  | .writePickup =>
    match s.updateConfig p.doc with
    | (s, true) => some (s.finish i)
    -- after a dirty write only the switch is left, the loop goes on with the next cluster.
    | (_, false) => some (s.setOp i (.scheduled { p with phase := .scan }))

def writeOutcome (s : System) : Outcome Config → System
  | .ok doc => (s.updateConfig doc).1
  | .error _ => s

def writeOptional (s : System) : Outcome (Option Config) → System
  | .ok (some doc) => (s.updateConfig doc).1
  | _ => s

def proceedIdle (s : System) (doc : Config) : System :=
  match watchForDoneOrErrorDocuments doc with
  | .update doc => (s.updateConfig doc).1
  | .delete => s.deleteConfig doc.name doc.version
  | .nothing => s

def proceed (env : Env) (s : System) (i : Nat) : Op → Option System
  | .create r => some ((s.finish i).createConfig (r.newConfig env))
  | .upsert r doc false =>
    if r.validate env (s.store.toList.map (·.2)) then some (s.setOp i (.upsert r doc true))
    else some (s.finish i)
  | .upsert r doc true => some ((s.finish i).updateConfig (r.apply env doc)).1
  | .pending _ => none
  | .scheduled pass => proceedScheduled s i pass
  | .idle doc => some (proceedIdle (s.finish i) doc)
  | .process msg result doc =>
    some (writeOptional { s.finish i with fresh := s.fresh + 1 }
      (processTask (msg.work result) s.fresh doc))
  | .markNode r doc => some (writeOutcome (s.finish i) (markNodeForDeletion r doc))
  | .updateTargetSize r doc => some (writeOutcome (s.finish i) (nodePoolUpdateTargetSize r doc))

-- The number of ids a reconciliation may draw.
def drawn (doc : Config) (fromManifest : Option (GoMap DesiredCluster)) : Nat :=
  2 * (doc.clusters.size + (fromManifest.map (·.size)).getD 0)

def step (env : Env) (s : System) : Action → Option System
  | .upsertManifest r =>
    if r.isValid then
      match s.store[r.name]? with
      | none => some (s.start (.create r))
      | some doc => some (s.start (.upsert r doc false))
    else none
  | .markForDeletion name version =>
    match s.store[name]? with
    | none => none
    | some doc =>
      if doc.version = version then
        some { s with store := s.store.insert name (markForDeletion env doc) }
      else none
  | .markNodeForDeletion r =>
    match s.store[r.ref.config]? with
    | none => none
    | some doc => if r.ref.isValid && r.node ≠ "" then some (s.start (.markNode r doc)) else none
  | .nodePoolUpdateTargetSize r =>
    match s.store[r.ref.config]? with
    | none => none
    | some doc => if r.ref.isValid then some (s.start (.updateTargetSize r doc)) else none
  | .watchPending name =>
    match s.store[name]? with
    | none => none
    | some doc =>
      if doc.manifest.state = .pending && !s.ops.any (·.isPending name) then
        some (s.start (.pending doc))
      else none
  | .watchScheduled name =>
    match s.store[name]? with
    | none => none
    | some doc =>
      if doc.manifest.state = .scheduled && !s.ops.any (·.isScheduled name) then
        some (s.start (.scheduled ⟨doc, doc.clusters.keys, 0, false, .scan⟩))
      else none
  | .watchDoneOrError name =>
    match s.store[name]? with
    | none => none
    | some doc =>
      if (doc.manifest.state = .done || doc.manifest.state = .error)
          && !s.ops.any (·.isIdle name) then
        some (s.start (.idle doc))
      else none
  | .deliver k result =>
    match s.published[k]? with
    | none => none
    | some msg =>
      match s.store[msg.inputManifest]? with
      | none => none
      | some doc => some (s.start (.process msg result doc))
  | .reconcile i inputs fromManifest =>
    match s.ops[i]? with
    | some (.pending doc) =>
      some (writeOptional { s.finish i with fresh := s.fresh + drawn doc fromManifest }
        (watchForPendingDocuments inputs s.fresh fromManifest doc))
    | _ => none
  | .scan i cluster outcome =>
    match s.ops[i]? with
    | some (.scheduled p) => scanCluster s i p cluster outcome
    | _ => none
  | .proceed i =>
    match s.ops[i]? with
    | some op => proceed env s i op
    | none => none
  | .failWrite i =>
    match s.ops[i]? with
    | some (.scheduled p) =>
      if p.phase = .writeNoWork then some (s.setOp i (.scheduled { p with phase := .scan }))
      else none
    | _ => none
  | .drop i => if i < s.ops.length then some (s.finish i) else none

def manager (env : Env) : Machine System Action := ⟨System.init, step env⟩

end Manager

end Claudie
