import Claudie.Manager.Lemmas.Coherence

/-!
A static node belongs to one config: the endpoints in the stored manifests are disjoint. Only updates
are checked for it, and only some time before they are written.
-/

namespace Claudie

namespace Manager

def staticEndpoints (env : Env) (raw : String) : List String :=
  ((env.unmarshal raw).map (·.staticEndpoints)).getD []

def configEndpoints (env : Env) (cfg : Config) : List String := staticEndpoints env cfg.manifest.raw

def Action.isUpsert : Action → Bool
  | .upsertManifest _ | .proceed _ | .drop _ => true
  | _ => false

def written (env : Env) (s : System) : Action → Option UpsertManifestRequest
  | .proceed i =>
    match s.ops[i]? with
    | some (.create r) => if s.store[r.name]?.isNone then some r else none
    | some (.upsert r doc true) =>
      if s.store[doc.name]?.any (·.version = doc.version)
          && doc.manifest.checksum ≠ r.checksum env then some r
      else none
    | _ => none
  | _ => none

def Guarded (env : Env) (s : System) (a : Action) : Prop :=
  ∀ r, written env s a = some r → ∀ (name : String) (cfg : Config),
    s.store[name]? = some cfg → name ≠ r.name →
    (staticEndpoints env r.raw).Disjoint (configEndpoints env cfg)

section

variable {env : Env} {s s' : System} {a : Action}

end

namespace Demo

namespace StaticEndpoints

def manifest (name : String) : String :=
  "name: " ++ name ++ "\nnodePools:\n  static:\n  - name: control\n    nodes:\n"
    ++ "    - endpoint: 192.0.2.1\n      username: root\n      privateKey: key\n"

def env : Env where
  digest raw := if raw = manifest "first" then 1#256 else 2#256
  unmarshal raw :=
    if raw = manifest "first" then some ⟨"first", ["192.0.2.1"]⟩
    else if raw = manifest "second" then some ⟨"second", ["192.0.2.1"]⟩
    else none

def request (name : String) : UpsertManifestRequest :=
  ⟨name, ⟨name, "claudie"⟩, manifest name, .pending⟩

def creation (name : String) : List Action := [.upsertManifest (request name), .proceed 0]

def upsertsOnly (_ : System) (a : Action) : Bool := a.isUpsert

theorem first_isSome :
    (((manager env).guard upsertsOnly).run (manager env).init (creation "first")).isSome = true := by
  decide

def first : System :=
  (((manager env).guard upsertsOnly).run (manager env).init (creation "first")).get first_isSome

end StaticEndpoints

end Demo

end Manager

end Claudie
