import Claudie.Manager.System

/-!
`controller.go` of the operator: the config of the manager follows the `InputManifest` resource,
which a finalizer keeps from going away before the config.
-/

namespace Claudie

-- `GetNamespacedNameDashed`
def KubernetesContext.namespacedNameDashed (k : KubernetesContext) : String :=
  (if k.namespaceName = "" then "default" else k.namespaceName) ++ "-" ++ k.name

namespace Operator

open Manager (Env System UpsertManifestRequest)

structure InputManifest where
  deleting : Bool
  finalizer : Bool
  resourceVersion : Nat
  deriving DecidableEq

inductive Call where
  | addFinalizer
  | removeFinalizer
  | createConfig
  | deleteConfig
  | updateStatus
  deriving DecidableEq

-- What `Reconcile` does next, with the text it made of the resource and the config it found.
def InputManifest.reconcile (env : Env) (im : InputManifest) (raw : String) :
    Option Config → Call
  | none =>
    if im.deleting then .removeFinalizer
    else if im.finalizer then .createConfig
    else .addFinalizer
  | some config =>
    if im.deleting then
      let markedForDeletion := config.manifest.raw = "" && config.manifest.checksum.isNone
      -- the current state of a listed cluster is never nil, so that none of them counts as deleted.
      let deleted := config.clusters.isEmpty
      if im.finalizer && !(markedForDeletion || deleted) then .deleteConfig else .updateStatus
    else if !im.finalizer then .addFinalizer
    else if config.manifest.state ≠ .scheduled
        && config.manifest.checksum ≠ some (env.digest raw) then .createConfig
    else .updateStatus

-- There is at most one reconciliation of a resource in progress.
inductive Run where
  | fetched (im : InputManifest)
  | listed (im : InputManifest) (raw : String) (config : Option Config)
  -- waits for the answer of the manager.
  | requesting (r : UpsertManifestRequest)

structure World where
  manager : System
  resource : Option InputManifest
  run : Option Run
  -- the next resource version.
  clock : Nat

inductive Action where
  -- by the user.
  | apply
  | delete
  -- of the manager, also for another resource.
  | manager (a : Manager.Action)
  -- reads the resource, then what it refers to and the configs.
  | get
  | list (raw : String)
  | proceed
  -- after a dirty write.
  | retry
  -- the end of a reconciliation, by an error or not.
  | finish

def upserts (name : String) : Manager.Op → Bool
  | .create r | .upsert r _ _ => r.name = name
  | _ => false

-- A request that the manager refuses ends the reconciliation.
def createConfig (env : Env) (w : World) (r : UpsertManifestRequest) : World :=
  match Manager.step env w.manager (.upsertManifest r) with
  | some m => { w with manager := m, run := some (.requesting r) }
  | none => { w with run := none }

-- Reads the version of the config first, a dirty write is retried.
def deleteConfig (env : Env) (w : World) (name : String) : World :=
  let marked := w.manager.store[name]?.bind (fun doc =>
    Manager.step env w.manager (.markForDeletion name doc.version))
  { w with manager := marked.getD w.manager, run := none }

def proceed (env : Env) (k : KubernetesContext) (w : World) (im : InputManifest) (raw : String)
    (config : Option Config) : World :=
  match im.reconcile env raw config with
  | .addFinalizer =>
    -- an update of a resource that was changed in the meantime is refused.
    if w.resource = some im then
      let im := { im with finalizer := true, resourceVersion := w.clock }
      { w with resource := some im, run := some (.listed im raw config), clock := w.clock + 1 }
    else { w with run := none }
  | .removeFinalizer =>
    if w.resource = some im then { w with resource := none, run := none }
    else { w with run := none }
  | .createConfig => createConfig env w ⟨k.namespacedNameDashed, k, raw, .pending⟩
  | .deleteConfig => deleteConfig env w k.namespacedNameDashed
  | .updateStatus => { w with run := none }

def step (env : Env) (k : KubernetesContext) (w : World) : Action → Option World
  | .apply =>
    let im := w.resource.getD ⟨false, false, 0⟩
    some { w with
      resource := some { im with resourceVersion := w.clock }
      clock := w.clock + 1 }
  | .delete =>
    w.resource.map (fun im => { w with
      resource :=
        if im.finalizer then some { im with deleting := true, resourceVersion := w.clock } else none
      clock := w.clock + 1 })
  | .manager a => (Manager.step env w.manager a).map (fun m => { w with manager := m })
  | .get =>
    match w.resource, w.run with
    | some im, none => some { w with run := some (.fetched im) }
    | _, _ => none
  | .list raw =>
    match w.run with
    | some (.fetched im) =>
      some { w with run := some (.listed im raw w.manager.store[k.namespacedNameDashed]?) }
    | _ => none
  | .proceed =>
    match w.run with
    | some (.listed im raw config) => some (proceed env k w im raw config)
    | _ => none
  | .retry =>
    match w.run with
    | some (.requesting r) =>
      if w.manager.ops.any (upserts r.name) then none else some (createConfig env w r)
    | _ => none
  | .finish =>
    match w.run with
    | some (.requesting r) =>
      if w.manager.ops.any (upserts r.name) then none else some { w with run := none }
    | some _ => some { w with run := none }
    | none => none

def operator (env : Env) (k : KubernetesContext) : Machine World Action :=
  ⟨⟨.init, none, none, 0⟩, step env k⟩

end Operator

end Claudie
