import Claudie.Lemmas.Terraformer
import Claudie.Lib.Rounds
import Claudie.Manager.DeletedNodes
import Claudie.Manager.DesiredState
import Claudie.Manager.Lemmas.Diff
import Claudie.Manager.Lemmas.RoleSettings
import Claudie.Manifest.Accepted
import Claudie.Manifest.Uniqueness

/-!
The loop that brings the settings of the roles of the load balancers to the desired ones: the states
are compared, the refresh of the settings of one role is scheduled and executed, and its result is
committed.
-/

namespace Claudie

namespace Manager

structure RefreshServices where
  infra : Terraformer.Infrastructure
  setUpLoadbalancers : List (LBcluster × List (Role × List Node)) → Option String
  builds : ∀ lb : LBcluster, lb.dns.isSome = true →
    ∃ lb', Terraformer.LBcluster.build (infra.tofu lb.id) lb = .ok (lb', none)
  setsUp : ∀ lbs, setUpLoadbalancers lbs = none

namespace RefreshServices

def runStage (s : RefreshServices) (stage : Stage) (t : Task) : Outcome Task :=
  match stage with
  | .terraformer _ subPasses => do
    let result ← Terraformer.processTask s.infra t subPasses
    match result.error with
    | some (_, description) => .error (.error description)
    | none => t.consumeResult result.result
  | .ansibler _ subPasses =>
    if subPasses.any (·.kind = .reconcileLoadbalancers) then do
      let (result, errs) ← Ansibler.reconcileLoadBalancers s.setUpLoadbalancers t
      match errs with
      | err :: _ => .error (.error err)
      | [] => t.consumeResult result
    else pure t
  | _ => pure t

def execute (s : RefreshServices) (te : TaskEvent) : Outcome Clusters := do
  let t ← te.pipeline.foldlM (fun t stage => s.runStage stage t) te.task
  pure t.clusters

end RefreshServices

def Delta.refreshesSettings : Delta → Bool
  | .ansReplaceRoleInternalSettings _ _ _ _ => true
  | .tfReplaceRoleExternalSettings _ _ _ _ _ => true
  | _ => false

/--
One round of the loop. The order of the iterations, the random names and what is known about the
health of the clusters may be another one in each round.
-/
def Refreshes (s : RefreshServices) (desired c c' : Clusters) : Prop :=
  ∃ ord entropy id hc proxy te delta,
    loadBalancersLowPriority ord entropy id
      ⟨hc, loadBalancersDiff c.loadBalancers desired.loadBalancers, proxy, c, desired⟩
        = .ok (some te)
      ∧ te.task.delta? = some delta ∧ Delta.refreshesSettings delta = true
      ∧ s.execute te = .ok c'

structure Serviced (c : Clusters) : Prop where
  k8s : ∃ k8s, c.k8s = some k8s ∧ ∀ lb ∈ c.loadBalancers, lb.targetedK8s = k8s.clusterInfo.name
  ids : (c.loadBalancers.map (·.id)).Nodup
  dns : ∀ lb ∈ c.loadBalancers, lb.dns.isSome = true

def desiredRoles (desired : Clusters) (id : String) : List Role :=
  ((Clusters.findLoadbalancerById id desired.loadBalancers).map (·.roles)).getD []

structure Refreshed (desired c c' : Clusters) (lb lb' : LBcluster) : Prop where
  found : Clusters.findLoadbalancerById lb.id c.loadBalancers = some lb
  id : lb'.id = lb.id
  targetedK8s : lb'.targetedK8s = lb.targetedK8s
  dns : lb'.dns.isSome = true
  roles : RoleStep (desiredRoles desired lb.id) lb.roles lb'.roles
  state : c' = ⟨c.k8s, c.loadBalancers.modifyFirst (·.id = lb.id) (fun _ => lb')⟩

section execution

variable {s : RefreshServices} {c : Clusters} {lb lb' : LBcluster} {k8s : K8scluster}

theorem lb_id_ne_empty (lb : LBcluster) : lb.id ≠ "" := by
  intro h
  have hdash : '-' ∈ lb.id.toList := by
    simp [LBcluster.id, ClusterInfo.id]
  rw [h] at hdash
  cases hdash

theorem consumeUpdateResult_singleton (delta : Delta) (lb' : LBcluster) (hk8s : c.k8s = some k8s)
    (hfind : Clusters.findLoadbalancerById lb.id c.loadBalancers = some lb)
    (hid : lb'.id = lb.id) (htarget : lb'.targetedK8s = k8s.clusterInfo.name)
    (hdelete : consumeDeleteDelta k8s c.loadBalancers delta = .ok delta) :
    (Task.update c delta).consumeUpdateResult none (some [lb'])
      = .ok (.update ⟨c.k8s, c.loadBalancers.modifyFirst (·.id = lb.id) (fun _ => lb')⟩
        (consumeReplaceDelta k8s delta)) := by
  have hfilter : [lb'].filter (fun lb => lb.targetedK8s = k8s.clusterInfo.name) = [lb'] := by
    simp [htarget]
  simp only [Task.consumeUpdateResult, Task.clusters, hk8s, Outcome.deref, Task.consumeDelete,
    hdelete, consumeK8s, Outcome.ok_bind, pure_bind, hfilter,
    mergeLoadBalancers_singleton hfind hid, Task.replaceClusters, Task.consumeReplace]
  rfl

theorem defaultToSingleLoadBalancer (delta : Delta) (hhandle : Ansibler.targetHandle delta = lb.id)
    (hfind : Clusters.findLoadbalancerById lb.id c.loadBalancers = some lb) :
    Ansibler.defaultToSingleLoadBalancerIfPossible c delta = some lb := by
  rw [Ansibler.defaultToSingleLoadBalancerIfPossible, hhandle, if_neg (lb_id_ne_empty lb), hfind]

theorem runStage_internal {about x : String} {n : Role} (hk8s : c.k8s = some k8s)
    (hfind : Clusters.findLoadbalancerById lb.id c.loadBalancers = some lb)
    (htarget : lb.targetedK8s = k8s.clusterInfo.name) :
    s.runStage (reconciledLbStage about)
        (.update c (.ansReplaceRoleInternalSettings lb.id x n.targetPort (some n.settings)))
      = .ok (.update ⟨c.k8s, c.loadBalancers.modifyFirst (·.id = lb.id) (fun _ =>
          { lb with
            roles := lb.roles.map
              (Ansibler.replaceInternalSettings x n.targetPort n.settings) })⟩
        (.replacedRoleInternalSettings lb.id x)) := by
  have hsingle := defaultToSingleLoadBalancer
    (.ansReplaceRoleInternalSettings lb.id x n.targetPort (some n.settings)) rfl hfind
  have hconsume := consumeUpdateResult_singleton
    (.ansReplaceRoleInternalSettings lb.id x n.targetPort (some n.settings))
    { lb with
      roles := lb.roles.map (Ansibler.replaceInternalSettings x n.targetPort n.settings) }
    hk8s hfind rfl htarget rfl
  simp only [reconciledLbStage, reconcileEnvoyStage, RefreshServices.runStage, List.any_cons,
    decide_true, Bool.true_or, if_true, Ansibler.reconcileLoadBalancers,
    Ansibler.loadBalancersToReconcile, hsingle, Ansibler.replaceRoles, List.modifyFirst, pure_bind,
    Outcome.ok_bind, Task.clusters, hk8s, Outcome.deref, s.setsUp, Ansibler.reportsRoles,
    Task.consumeResult]
  rw [hk8s] at hconsume
  exact hconsume

theorem runStage_refreshed (s : RefreshServices) (lb : LBcluster) (about x : String)
    (hk8s : c.k8s = some k8s) :
    s.runStage (reconciledLbStage about) (.update c (.replacedRoleExternalSettings lb.id x))
      = .ok (.update c (.replacedRoleExternalSettings lb.id x)) := by
  have hreplaced : ∀ lbs : List LBcluster,
      Ansibler.replaceRoles lbs (.replacedRoleExternalSettings lb.id x) = .ok lbs := fun _ => rfl
  have hloaded : ∃ lbs, Ansibler.loadBalancersToReconcile
      (.update c (.replacedRoleExternalSettings lb.id x)) = .ok lbs := by
    unfold Ansibler.loadBalancersToReconcile
    dsimp only
    split
    next => exact ⟨_, hreplaced _⟩
    next => exact ⟨_, hreplaced _⟩
  obtain ⟨lbs, hloaded⟩ := hloaded
  simp only [reconciledLbStage, reconcileEnvoyStage, RefreshServices.runStage, List.any_cons,
    decide_true, Bool.true_or, if_true, Ansibler.reconcileLoadBalancers, hloaded, pure_bind,
    Outcome.ok_bind, Task.clusters, hk8s, Outcome.deref, s.setsUp, Ansibler.reportsRoles,
    Bool.false_eq_true, if_false, Task.consumeResult]

theorem runStage_external (s : RefreshServices) (about passAbout : String) {x : String} (n : Role)
    (hk8s : c.k8s = some k8s)
    (hfind : Clusters.findLoadbalancerById lb.id c.loadBalancers = some lb)
    (htarget : lb.targetedK8s = k8s.clusterInfo.name) (hdns : lb.dns.isSome = true)
    (hx : lb.roles.any (·.name = x) = true) :
    ∃ lb' : LBcluster, lb'.id = lb.id ∧ lb'.targetedK8s = lb.targetedK8s ∧ lb'.dns.isSome = true
      ∧ lb'.roles = lb.roles.modifyFirst (·.name = x) (replaceExternalSettings n)
      ∧ s.runStage (lbTerraformerStage about passAbout) (.update c
          (.tfReplaceRoleExternalSettings lb.id x (portRoleType n.port) n.protocol n.port))
        = .ok (.update ⟨c.k8s, c.loadBalancers.modifyFirst (·.id = lb.id) (fun _ => lb')⟩
          (.replacedRoleExternalSettings lb.id x)) := by
  let edited : LBcluster :=
    { lb with roles := lb.roles.modifyFirst (·.name = x) (replaceExternalSettings n) }
  obtain ⟨lb', hbuild⟩ := s.builds edited hdns
  have hbuilt := Terraformer.build_built hbuild
  refine ⟨lb', hbuilt.id, hbuilt.targetedK8s, Terraformer.build_dns hbuild, hbuilt.roles, ?_⟩
  have hreport : Terraformer.reconcileInfrastructure s.infra
      (.update c (.tfReplaceRoleExternalSettings lb.id x (portRoleType n.port) n.protocol n.port))
      = .ok (.update none (some [lb']), []) := by
    simp only [Terraformer.reconcileInfrastructure, hk8s, Terraformer.replaceRoleExternalSettings,
      Terraformer.withLoadBalancer, hfind, hx, if_true, Terraformer.commitAnyway]
    exact Outcome.bind_eq_ok.mpr ⟨(lb', none), hbuild, rfl⟩
  have hconsume := consumeUpdateResult_singleton
    (.tfReplaceRoleExternalSettings lb.id x (portRoleType n.port) n.protocol n.port) lb'
    hk8s hfind hbuilt.id (hbuilt.targetedK8s.trans htarget) rfl
  simp only [lbTerraformerStage, RefreshServices.runStage, Terraformer.processTask,
    Terraformer.passes, Terraformer.runPass, hreport, Outcome.ok_bind, pure_bind, List.isEmpty_nil,
    if_true, Terraformer.none_commit, Task.consumeResult]
  exact hconsume

theorem execute_internal {id : TaskId} {description about x : String} {n : Role}
    (hk8s : c.k8s = some k8s)
    (hfind : Clusters.findLoadbalancerById lb.id c.loadBalancers = some lb)
    (htarget : lb.targetedK8s = k8s.clusterInfo.name) :
    s.execute (updateEvent id c
        (.ansReplaceRoleInternalSettings lb.id x n.targetPort (some n.settings)) description
        [reconciledLbStage about])
      = .ok ⟨c.k8s, c.loadBalancers.modifyFirst (·.id = lb.id) (fun _ =>
          { lb with
            roles := lb.roles.map
              (Ansibler.replaceInternalSettings x n.targetPort n.settings) })⟩ := by
  simp only [RefreshServices.execute, updateEvent, List.foldlM_cons, List.foldlM_nil,
    runStage_internal hk8s hfind htarget, Outcome.ok_bind, pure_bind]
  rfl

theorem execute_external {id : TaskId} {description about passAbout about' x : String} {n : Role}
    (hk8s : c.k8s = some k8s)
    (hfind : Clusters.findLoadbalancerById lb.id c.loadBalancers = some lb)
    (htarget : lb.targetedK8s = k8s.clusterInfo.name) (hdns : lb.dns.isSome = true)
    (hx : lb.roles.any (·.name = x) = true) :
    ∃ lb' : LBcluster, lb'.id = lb.id ∧ lb'.targetedK8s = lb.targetedK8s ∧ lb'.dns.isSome = true
      ∧ lb'.roles = lb.roles.modifyFirst (·.name = x) (replaceExternalSettings n)
      ∧ s.execute (updateEvent id c
          (.tfReplaceRoleExternalSettings lb.id x (portRoleType n.port) n.protocol n.port)
          description [lbTerraformerStage about passAbout, reconciledLbStage about'])
        = .ok ⟨c.k8s, c.loadBalancers.modifyFirst (·.id = lb.id) (fun _ => lb')⟩ := by
  obtain ⟨lb', hid', htarget', hdns', hroles', hrun⟩ :=
    runStage_external s about passAbout n hk8s hfind htarget hdns hx
  have hrefresh := runStage_refreshed s lb about' x
    (c := ⟨c.k8s, c.loadBalancers.modifyFirst (·.id = lb.id) (fun _ => lb')⟩) hk8s
  refine ⟨lb', hid', htarget', hdns', hroles', ?_⟩
  simp only [RefreshServices.execute, updateEvent, List.foldlM_cons, List.foldlM_nil, hrun,
    hrefresh, Outcome.ok_bind, pure_bind]
  rfl

end execution

section rounds

variable {s : RefreshServices} {desired c c' : Clusters} {id : TaskId} {k x : String}
  {m : ModifiedLoadBalancer} {te : TaskEvent}

theorem find_by_id {lbs : List LBcluster} {lb : LBcluster} {i : Nat}
    (hids : (lbs.map (·.id)).Nodup) (hi : lbs[i]? = some lb) :
    Clusters.findLoadbalancerById lb.id lbs = some lb :=
  (List.find?_key_eq_some hids).mpr ⟨List.mem_of_getElem? hi, rfl⟩

theorem desiredRoles_eq {dlb : LBcluster} {id : String} {j : Nat}
    (hids : (desired.loadBalancers.map (·.id)).Nodup) (hj : desired.loadBalancers[j]? = some dlb)
    (hid : dlb.id = id) : desiredRoles desired id = dlb.roles := by
  rw [desiredRoles, ← hid, find_by_id hids hj]
  rfl

def RefreshTask (s : RefreshServices) (desired c : Clusters) (te : TaskEvent) : Prop :=
  ∃ delta c' lb lb', te.task.delta? = some delta ∧ Delta.refreshesSettings delta = true
    ∧ s.execute te = .ok c' ∧ Refreshed desired c c' lb lb'

theorem scheduleRefreshLoadBalancerRoleInternalSettings_refreshes (s : RefreshServices)
    (id : TaskId) (hc : Serviced c)
    (hids : (desired.loadBalancers.map (·.id)).Nodup)
    (hm : (loadBalancersDiff c.loadBalancers desired.loadBalancers).modified[k]? = some m)
    (hx : x ∈ m.roles.internalSettingsChanged) :
    ∃ te, scheduleRefreshLoadBalancerRoleInternalSettings id c desired (m.cid k) (m.did k) x
      = .ok te ∧ RefreshTask s desired c te := by
  obtain ⟨k8s, hk8s, htargets⟩ := hc.k8s
  obtain ⟨i, j, lb, dlb, hi, rfl, hj, hid, hmodified⟩ :=
    (loadBalancersDiff_modified hc.ids hids).mp hm
  have hdiff := modifiedLoadBalancer_eq_some hmodified
  rw [hdiff.roles, mem_internalSettingsChanged] at hx
  obtain ⟨o, ho, n, hn, rfl, hdiffers⟩ := hx
  have hfind := find_by_id hc.ids hi
  have hlb := List.mem_of_getElem? hi
  have hdesired : Outcome.deref desired.loadBalancers[(m.did lb.id).index]? = .ok dlb := by
    rw [ModifiedLoadBalancer.did, hdiff.desiredIdx, hj]
    rfl
  refine ⟨_, Outcome.bind_eq_ok.mpr ⟨dlb, hdesired, rfl⟩, ?_⟩
  rw [counterpart_self hn]
  refine ⟨_, _, lb,
    { lb with
      roles := lb.roles.map (Ansibler.replaceInternalSettings n.name n.targetPort n.settings) },
    rfl, rfl, execute_internal hk8s hfind (htargets lb hlb), ?_⟩
  rw [← desiredRoles_eq hids hj hid] at hn hdiffers
  exact ⟨hfind, rfl, rfl, hc.dns lb hlb, .internal ho hn hdiffers, rfl⟩

theorem scheduleRefreshLoadBalancerRoleExternalSettings_refreshes (s : RefreshServices)
    (id : TaskId) (hc : Serviced c)
    (hids : (desired.loadBalancers.map (·.id)).Nodup)
    (hm : (loadBalancersDiff c.loadBalancers desired.loadBalancers).modified[k]? = some m)
    (hx : x ∈ m.roles.externalSettingsChanged) :
    ∃ te, scheduleRefreshLoadBalancerRoleExternalSettings id c desired (m.cid k) (m.did k) x
      = .ok te ∧ RefreshTask s desired c te := by
  obtain ⟨k8s, hk8s, htargets⟩ := hc.k8s
  obtain ⟨i, j, lb, dlb, hi, rfl, hj, hid, hmodified⟩ :=
    (loadBalancersDiff_modified hc.ids hids).mp hm
  have hdiff := modifiedLoadBalancer_eq_some hmodified
  rw [hdiff.roles, mem_externalSettingsChanged] at hx
  obtain ⟨o, ho, n, hn, rfl, hdiffers⟩ := hx
  have hfind := find_by_id hc.ids hi
  have hlb := List.mem_of_getElem? hi
  have hany : lb.roles.any (·.name = n.name) = true :=
    List.any_eq_true.mpr ⟨o, ho, by simpa using (counterpart_name hn).symm⟩
  have hdesired : Outcome.deref desired.loadBalancers[(m.did lb.id).index]? = .ok dlb := by
    rw [ModifiedLoadBalancer.did, hdiff.desiredIdx, hj]
    rfl
  refine ⟨_, Outcome.bind_eq_ok.mpr ⟨dlb, hdesired, rfl⟩, ?_⟩
  rw [counterpart_self hn]
  obtain ⟨lb', hid', htarget', hdns', hroles', hexecute⟩ :=
    execute_external (s := s) (n := n) hk8s hfind (htargets lb hlb) (hc.dns lb hlb) hany
  refine ⟨_, _, lb, lb', rfl, rfl, hexecute, ?_⟩
  rw [← desiredRoles_eq hids hj hid] at hn hdiffers
  exact ⟨hfind, hid', htarget', hdns', hroles' ▸ .external ho hn hdiffers, rfl⟩

theorem scheduleAdditionLoadBalancerNodePools_not_refresh {ord : MapOrder}
    {cid did : LoadBalancerIdentifier} {diff : NodePoolsDiffResult}
    {opts : LoadBalancerNodePoolsOptions} {delta : Delta}
    (h : scheduleAdditionLoadBalancerNodePools ord id c desired cid did diff opts = .ok (some te))
    (hdelta : te.task.delta? = some delta) : Delta.refreshesSettings delta = false := by
  unfold scheduleAdditionLoadBalancerNodePools at h
  dsimp only at h
  split at h
  next =>
    obtain ⟨⟨state, delta'⟩, hchange, h⟩ := Outcome.bind_eq_ok.mp h
    cases h
    cases hdelta
    obtain ⟨srclb, -, hchange⟩ := Outcome.bind_eq_ok.mp hchange
    split at hchange
    next =>
      obtain ⟨lbs, -, hchange⟩ := Outcome.bind_eq_ok.mp hchange
      cases hchange
      rfl
    next =>
      cases hchange
      rfl
  next =>
    obtain ⟨⟨state, delta'⟩, hchange, h⟩ := Outcome.bind_eq_ok.mp h
    cases h
    cases hdelta
    obtain ⟨srclb, -, hchange⟩ := Outcome.bind_eq_ok.mp hchange
    obtain ⟨toAdd, -, hchange⟩ := Outcome.bind_eq_ok.mp hchange
    split at hchange
    next =>
      obtain ⟨lbs, -, hchange⟩ := Outcome.bind_eq_ok.mp hchange
      cases hchange
      rfl
    next =>
      cases hchange
      rfl
  next => cases h

theorem scheduleRollingUpdateLoadBalancer_not_refresh {ord : MapOrder} {entropy : Entropy}
    {cid : LoadBalancerIdentifier} {np : String} {templates : TemplateRepository}
    {opts : LoadBalancerNodePoolsOptions} {delta : Delta}
    (h : scheduleRollingUpdateLoadBalancer ord entropy id c cid np templates opts = .ok (some te))
    (hdelta : te.task.delta? = some delta) : Delta.refreshesSettings delta = false := by
  unfold scheduleRollingUpdateLoadBalancer at h
  split at h
  next => cases h
  next => cases h
  next =>
    obtain ⟨lbs, -, h⟩ := Outcome.bind_eq_ok.mp h
    exact scheduleAdditionLoadBalancerNodePools_not_refresh h hdelta

theorem Refreshes.refreshed (hc : Serviced c) (hids : (desired.loadBalancers.map (·.id)).Nodup)
    (h : Refreshes s desired c c') : ∃ lb lb', Refreshed desired c c' lb lb' := by
  obtain ⟨ord, entropy, id, hc', proxy, te, delta, h, hdelta, hrefreshes, hexecute⟩ := h
  have htask : ∀ te', RefreshTask s desired c te' → te' = te →
      ∃ lb lb', Refreshed desired c c' lb lb' := by
    rintro _ ⟨_, c'', lb, lb', -, -, hexecute', hrefreshed⟩ rfl
    rw [hexecute] at hexecute'
    cases hexecute'
    exact ⟨lb, lb', hrefreshed⟩
  unfold loadBalancersLowPriority at h
  have hentries : ∀ e ∈ ord.range "low priority modifications"
      (loadBalancersDiff c.loadBalancers desired.loadBalancers).modified,
      (loadBalancersDiff c.loadBalancers desired.loadBalancers).modified[e.1]? = some e.2 :=
    fun e he => (MapOrder.mem_range ord).mp he
  generalize ord.range "low priority modifications"
    (loadBalancersDiff c.loadBalancers desired.loadBalancers).modified = entries at h hentries
  induction entries with
  | nil => cases h
  | cons e entries ih =>
    obtain ⟨k, m⟩ := e
    rw [List.forall_mem_cons] at hentries
    rw [loadBalancersLowPriority.modifications] at h
    dsimp only at h
    split at h
    next x _ hinternal =>
      obtain ⟨te', hte', htask'⟩ :=
        scheduleRefreshLoadBalancerRoleInternalSettings_refreshes s id hc hids
          hentries.1 (x := x) (by rw [hinternal]; exact List.mem_cons_self)
      rw [Outcome.some_map_eq_ok, hte'] at h
      exact htask te' htask' (Except.ok.inj h)
    next x _ _ hexternal =>
      obtain ⟨te', hte', htask'⟩ :=
        scheduleRefreshLoadBalancerRoleExternalSettings_refreshes s id hc hids
          hentries.1 (x := x) (by rw [hexternal]; exact List.mem_cons_self)
      rw [Outcome.some_map_eq_ok, hte'] at h
      exact htask te' htask' (Except.ok.inj h)
    next =>
      rw [scheduleRollingUpdateLoadBalancer_not_refresh h hdelta] at hrefreshes
      cases hrefreshes
    next => exact ih h hentries.2

theorem exists_refreshes (s : RefreshServices) (hc : Serviced c)
    (hids : (desired.loadBalancers.map (·.id)).Nodup) {lb : LBcluster} (hlb : lb ∈ c.loadBalancers)
    {o : Role} (ho : o ∈ lb.roles)
    (hdiffers : internalDiffers (desiredRoles desired lb.id) o = true
      ∨ externalDiffers (desiredRoles desired lb.id) o = true) :
    ∃ c', Refreshes s desired c c' := by
  have hn : ∃ n, counterpart (desiredRoles desired lb.id) o = some n := by
    rw [← Option.isSome_iff_exists, ← Option.not_isNone, Bool.not_eq_true',
      ← Bool.not_eq_true, Option.isNone_iff_eq_none]
    intro hnone
    simp [internalDiffers, externalDiffers, hnone] at hdiffers
  obtain ⟨n, hn⟩ := hn
  have hdlb : ∃ dlb, Clusters.findLoadbalancerById lb.id desired.loadBalancers = some dlb := by
    cases hdlb : Clusters.findLoadbalancerById lb.id desired.loadBalancers with
    | some dlb => exact ⟨dlb, rfl⟩
    | none =>
      rw [desiredRoles, hdlb] at hn
      cases hn
  obtain ⟨dlb, hdlb⟩ := hdlb
  have hdid : dlb.id = lb.id := by simpa using List.find?_some hdlb
  obtain ⟨i, hi⟩ := List.mem_iff_getElem?.mp hlb
  obtain ⟨j, hj⟩ := List.mem_iff_getElem?.mp (List.mem_of_find?_eq_some hdlb)
  rw [desiredRoles_eq hids hj hdid] at hdiffers hn
  have hchanged : n.name ∈ (rolesDiff lb.roles dlb.roles).internalSettingsChanged
      ∨ n.name ∈ (rolesDiff lb.roles dlb.roles).externalSettingsChanged := by
    rw [mem_internalSettingsChanged, mem_externalSettingsChanged]
    exact hdiffers.imp (fun h => ⟨o, ho, n, hn, rfl, h⟩) (fun h => ⟨o, ho, n, hn, rfl, h⟩)
  obtain hsame | ⟨m, hm, hdiff⟩ := unchanged_or_modified hc.ids hids hi hj hdid.symm
  · have hroles := hsame.roles
    simp only [RolesDiff.isEmpty, Bool.and_eq_true, List.isEmpty_iff] at hroles
    obtain ⟨⟨⟨⟨⟨-, -⟩, hinternal⟩, hexternal⟩, -⟩, -⟩ := hroles
    rw [hinternal, hexternal] at hchanged
    exact absurd hchanged (by simp)
  · obtain ⟨rest, hrange⟩ := MapOrder.range_startingAt "low priority modifications" hm
    rw [← hdiff.roles] at hchanged
    have hscheduled : ∃ te, loadBalancersLowPriority (.startingAt lb.id) ⟨[], none⟩ 0
        ⟨⟨false, ∅, false, false⟩, loadBalancersDiff c.loadBalancers desired.loadBalancers,
          ⟨false, false, .noChange⟩, c, desired⟩ = .ok (some te) ∧ RefreshTask s desired c te := by
      rw [loadBalancersLowPriority, hrange, loadBalancersLowPriority.modifications]
      dsimp only
      split
      next x _ hinternal =>
        obtain ⟨te, hte, htask⟩ :=
          scheduleRefreshLoadBalancerRoleInternalSettings_refreshes s 0 hc hids hm
            (x := x) (by rw [hinternal]; exact List.mem_cons_self)
        exact ⟨te, Outcome.some_map_eq_ok.mpr hte, htask⟩
      next x _ _ hexternal =>
        obtain ⟨te, hte, htask⟩ :=
          scheduleRefreshLoadBalancerRoleExternalSettings_refreshes s 0 hc hids hm
            (x := x) (by rw [hexternal]; exact List.mem_cons_self)
        exact ⟨te, Outcome.some_map_eq_ok.mpr hte, htask⟩
      next hinternal hexternal _ =>
        rw [hinternal, hexternal] at hchanged
        exact absurd hchanged (by simp)
      next hinternal hexternal _ =>
        rw [hinternal, hexternal] at hchanged
        exact absurd hchanged (by simp)
    obtain ⟨te, hte, delta, c', _, _, hdelta, hrefreshes, hexecute, -⟩ := hscheduled
    exact ⟨c', _, _, _, _, _, te, delta, hte, hdelta, hrefreshes, hexecute⟩

theorem Refreshed.serviced {lb lb' : LBcluster} (hc : Serviced c)
    (h : Refreshed desired c c' lb lb') : Serviced c' := by
  obtain ⟨k8s, hk8s, htargets⟩ := hc.k8s
  have hlb := List.mem_of_find?_eq_some h.found
  rw [h.state]
  refine ⟨⟨k8s, hk8s, fun l hl => ?_⟩, ?_, fun l hl => ?_⟩
  · obtain hl | ⟨_, _, rfl⟩ := List.mem_modifyFirst hl
    · exact htargets l hl
    · rw [h.targetedK8s]
      exact htargets lb hlb
  · have hmap : (c.loadBalancers.modifyFirst (·.id = lb.id) (fun _ => lb')).map (·.id)
        = c.loadBalancers.map (·.id) := by
      refine List.map_modifyFirst_of_eq (fun l hl => ?_)
      rw [h.id]
      have hl : l.id = lb.id := by simpa using List.find?_some hl
      exact hl.symm
    rw [hmap]
    exact hc.ids
  · obtain hl | ⟨_, _, rfl⟩ := List.mem_modifyFirst hl
    · exact hc.dns l hl
    · exact h.dns

def AllLaterAgree (desired c : Clusters) : Prop :=
  ∀ lb ∈ c.loadBalancers, LaterAgree (desiredRoles desired lb.id) lb.roles

def rolesLeft (desired c : Clusters) : Nat :=
  (c.loadBalancers.map (fun lb => unsettled (desiredRoles desired lb.id) lb.roles)).sum

theorem Refreshed.allLaterAgree_iff {lb lb' : LBcluster} (h : Refreshed desired c c' lb lb') :
    AllLaterAgree desired c' ↔ AllLaterAgree desired c := by
  obtain ⟨l₁, l₂, hbefore, hafter, -⟩ := List.exists_modifyFirst_eq (fun _ => lb') h.found
  have hstate : c'.loadBalancers = l₁ ++ lb' :: l₂ := by
    rw [h.state]
    exact hafter
  simp only [AllLaterAgree, hstate, hbefore, List.forall_mem_append, List.forall_mem_cons, h.id,
    h.roles.laterAgree_iff]

theorem Refreshed.rolesLeft_lt {lb lb' : LBcluster} (hc : AllLaterAgree desired c)
    (h : Refreshed desired c c' lb lb') : rolesLeft desired c' < rolesLeft desired c := by
  have hlt := h.roles.unsettled_lt (hc lb (List.mem_of_find?_eq_some h.found))
  have hsum := List.sum_modifyFirst (f := fun _ => lb')
    (w := fun lb => unsettled (desiredRoles desired lb.id) lb.roles) h.found
  simp only [h.id] at hsum
  simp only [rolesLeft, h.state]
  omega

structure LbTracked (desired : Clusters) (lb lb' : LBcluster) : Prop where
  id : lb'.id = lb.id
  roles : List.Forall₂ (RoleTracked (desiredRoles desired lb.id)) lb.roles lb'.roles

theorem LbTracked.refl (desired : Clusters) (lb : LBcluster) : LbTracked desired lb lb :=
  ⟨rfl, List.forall₂_same.mpr fun r _ => .refl _ r⟩

theorem LbTracked.trans {lb lb' lb'' : LBcluster} (h : LbTracked desired lb lb')
    (h' : LbTracked desired lb' lb'') : LbTracked desired lb lb'' := by
  have hroles := h'.roles
  rw [h.id] at hroles
  exact ⟨h'.id.trans h.id, List.forall₂_trans h.roles hroles (fun _ _ _ => RoleTracked.trans)⟩

theorem Refreshed.tracked {lb lb' : LBcluster} (hc : AllLaterAgree desired c)
    (h : Refreshed desired c c' lb lb') :
    List.Forall₂ (LbTracked desired) c.loadBalancers c'.loadBalancers := by
  obtain ⟨l₁, l₂, hbefore, hafter, -⟩ := List.exists_modifyFirst_eq (fun _ => lb') h.found
  have hlb : LbTracked desired lb lb' :=
    ⟨h.id, h.roles.tracked (hc lb (List.mem_of_find?_eq_some h.found))⟩
  rw [h.state]
  simp only [hafter]
  rw [hbefore]
  exact List.rel_append (List.forall₂_same.mpr fun l _ => .refl desired l)
    (.cons hlb (List.forall₂_same.mpr fun l _ => .refl desired l))

structure Converging (desired start c : Clusters) : Prop where
  serviced : Serviced c
  later : AllLaterAgree desired c
  tracked : List.Forall₂ (LbTracked desired) start.loadBalancers c.loadBalancers

theorem Converging.start (hc : Serviced c) (hlater : AllLaterAgree desired c) :
    Converging desired c c :=
  ⟨hc, hlater, List.forall₂_same.mpr fun lb _ => .refl desired lb⟩

theorem Converging.step {start : Clusters} (hids : (desired.loadBalancers.map (·.id)).Nodup) :
    ∀ c c', Converging desired start c → Refreshes s desired c c' →
      Converging desired start c' ∧ rolesLeft desired c' < rolesLeft desired c := by
  intro c c' hc h
  obtain ⟨lb, lb', h⟩ := h.refreshed hc.serviced hids
  exact ⟨⟨h.serviced hc.serviced, h.allLaterAgree_iff.mpr hc.later,
    List.forall₂_trans hc.tracked (h.tracked hc.later) (fun _ _ _ => LbTracked.trans)⟩,
    h.rolesLeft_lt hc.later⟩

theorem exists_rounds (hc : Serviced c) (hids : (desired.loadBalancers.map (·.id)).Nodup)
    (hlater : ¬ AllLaterAgree desired c) (n : Nat) : ∃ c', Rounds (Refreshes s desired) c n c' := by
  have hprogress : ∀ c, Serviced c ∧ ¬ AllLaterAgree desired c →
      ∃ c', Refreshes s desired c c' ∧ Serviced c' ∧ ¬ AllLaterAgree desired c' := by
    rintro c ⟨hc, hlater⟩
    have hdiffers : ∃ lb ∈ c.loadBalancers, ∃ o ∈ lb.roles,
        externalDiffers (desiredRoles desired lb.id) o = true := by
      by_contra hnone
      push Not at hnone
      refine hlater (fun lb hlb => List.pairwise_iff_getElem.mpr ?_)
      intro k₁ k₂ _ hk₂ _ _
      exact Bool.eq_false_iff.mpr (hnone lb hlb _ (List.getElem_mem hk₂))
    obtain ⟨lb, hlb, o, ho, hdiffers⟩ := hdiffers
    obtain ⟨c', h⟩ := exists_refreshes s hc hids hlb ho (.inr hdiffers)
    obtain ⟨lb, lb', h'⟩ := h.refreshed hc hids
    exact ⟨c', h, h'.serviced hc, fun hafter => hlater (h'.allLaterAgree_iff.mp hafter)⟩
  obtain ⟨c', h, -⟩ := Rounds.exists_of_progress hprogress ⟨hc, hlater⟩ n
  exact ⟨c', h⟩

end rounds

section desired

variable {formats : Manifest.Formats} {roles : List Role} {o d n : Role}

def PortAssigned (made r : Role) : Prop :=
  ∃ port, r = { made with settings := { made.settings with envoyAdminPort := port } }

structure MadeFrom (m : Claudie.Manifest) (made : Manifest.Role) (d : Role) : Prop where
  mem : made ∈ m.loadBalancer.roles
  port : PortAssigned (roleFromManifest made) d

def MadeFromManifest (formats : Manifest.Formats) (roles : List Role) (d : Role) : Prop :=
  ∃ (m : Claudie.Manifest) (names : List String) (made rest : List Role),
    m.validate formats = true
      ∧ List.Forall₂ PortAssigned (getRolesAttachedToLBCluster m.loadBalancer.roles names) made
      ∧ roles = made ++ rest ∧ d ∈ made

theorem exists_madeFrom {m : Claudie.Manifest} {names : List String} {made : List Role}
    (h : List.Forall₂ PortAssigned (getRolesAttachedToLBCluster m.loadBalancer.roles names) made)
    (hd : d ∈ made) : ∃ r, MadeFrom m r d := by
  obtain ⟨r, hr, hport⟩ := List.exists_mem_of_forall₂ h hd
  simp only [getRolesAttachedToLBCluster, List.mem_flatMap, List.mem_map, List.mem_filter] at hr
  obtain ⟨_, _, r, ⟨hmem, _⟩, rfl⟩ := hr
  exact ⟨r, hmem, hport⟩

theorem MadeFromManifest.mem (h : MadeFromManifest formats roles d) : d ∈ roles := by
  obtain ⟨_, _, made, rest, _, _, rfl, hd⟩ := h
  exact List.mem_append_left rest hd

theorem MadeFromManifest.counterpart_eq (h : MadeFromManifest formats roles d)
    (hn : counterpart roles d = some n) :
    n.port = d.port ∧ n.protocol = d.protocol ∧ n.targetPort = d.targetPort := by
  obtain ⟨m, names, made, rest, hm, hmade, rfl, hd⟩ := h
  have hnmem : n ∈ made := by
    obtain ⟨n', hn'⟩ := exists_counterpart hd rfl
    rw [counterpart, List.find?_append, show made.find? _ = some n' from hn'] at hn
    cases hn
    exact counterpart_mem hn'
  have hname := counterpart_name hn
  obtain ⟨r, hr, port, rfl⟩ := exists_madeFrom hmade hd
  obtain ⟨r', hr', port', rfl⟩ := exists_madeFrom hmade hnmem
  obtain rfl := List.inj_on_of_nodup_map (Manifest.acceptedLoadBalancers hm).roleNames hr' hr hname
  exact ⟨rfl, rfl, rfl⟩

theorem MadeFromManifest.portRoleType_eq (h : MadeFromManifest formats roles d) :
    portRoleType d.port = d.roleType ↔ (d.port = apiServerPort → d.targetPort = apiServerPort) := by
  obtain ⟨m, names, made, rest, hm, hmade, rfl, hd⟩ := h
  obtain ⟨r, hr, port, rfl⟩ := exists_madeFrom hmade hd
  have hapi := Manifest.apiServerPort_of_targetPort hm hr
  simp only [portRoleType, roleFromManifest, show Manifest.apiServerPort = apiServerPort from rfl]
    at hapi ⊢
  by_cases htarget : r.targetPort = apiServerPort
  · simp [htarget, hapi htarget]
  · by_cases hport : r.port = apiServerPort
    · simp [htarget, hport]
    · simp [htarget, hport]

end desired

section main

variable {formats : Manifest.Formats} {s : RefreshServices} {desired c : Clusters}
  {lb dlb : LBcluster} {i k : Nat} {o d : Role}

structure SameSettings (r d : Role) : Prop where
  port : r.port = d.port
  protocol : r.protocol = d.protocol
  targetPort : r.targetPort = d.targetPort
  settings : r.settings = d.settings
  roleType : r.roleType = d.roleType

structure EndsEqual (s : RefreshServices) (desired c : Clusters) (i k : Nat) (d : Role) : Prop where
  ends : ∃ bound, ∀ n c', Rounds (Refreshes s desired) c n c' → n ≤ bound
  equal : ∀ n c', Rounds (Refreshes s desired) c n c' → Rounds.Final (Refreshes s desired) c' →
    ∃ lb r, c'.loadBalancers[i]? = some lb ∧ lb.roles[k]? = some r ∧ SameSettings r d

structure RolePair (formats : Manifest.Formats) (desired c : Clusters) (i k : Nat)
    (lb dlb : LBcluster) (o d : Role) : Prop where
  serviced : Serviced c
  ids : (desired.loadBalancers.map (·.id)).Nodup
  current : c.loadBalancers[i]? = some lb
  desired : dlb ∈ desired.loadBalancers
  id : dlb.id = lb.id
  role : lb.roles[k]? = some o
  made : MadeFromManifest formats dlb.roles d
  name : d.name = o.name

/--
The type that is derived from the port at a refresh is the one of the desired role, or there is no
refresh of the port and the type is the desired one already.
-/
structure Refreshable (desired c : Clusters) (dlb : LBcluster) (o d : Role) : Prop where
  later : AllLaterAgree desired c
  settings : ∀ n, counterpart dlb.roles d = some n → n.settings = d.settings
  roleType : if o.port = d.port ∧ o.protocol = d.protocol then o.roleType = d.roleType
    else d.port = apiServerPort → d.targetPort = apiServerPort

theorem Converging.roles_of_final (hids : (desired.loadBalancers.map (·.id)).Nodup)
    {c' : Clusters} (hc : Converging desired c c') (hfinal : Rounds.Final (Refreshes s desired) c')
    (hi : c.loadBalancers[i]? = some lb) (hk : lb.roles[k]? = some o) :
    ∃ lb' r, c'.loadBalancers[i]? = some lb' ∧ lb'.roles[k]? = some r
      ∧ RoleTracked (desiredRoles desired lb.id) o r
      ∧ internalDiffers (desiredRoles desired lb.id) r = false
      ∧ externalDiffers (desiredRoles desired lb.id) r = false := by
  obtain ⟨lb', hi', hlb⟩ := List.exists_getElem?_of_forall₂ hc.tracked hi
  obtain ⟨r, hk', hr⟩ := List.exists_getElem?_of_forall₂ hlb.roles hk
  have hsettled : ∀ b, (internalDiffers (desiredRoles desired lb.id) r = b
      ∨ externalDiffers (desiredRoles desired lb.id) r = b) → b = false := by
    intro b hb
    cases b with
    | false => rfl
    | true =>
      rw [← hlb.id] at hb
      obtain ⟨c'', h⟩ := exists_refreshes s hc.serviced hids (List.mem_of_getElem? hi')
        (List.mem_of_getElem? hk') hb
      exact absurd h (hfinal c'')
  exact ⟨lb', r, hi', hk', hr, hsettled _ (.inl rfl), hsettled _ (.inr rfl)⟩

namespace RolePair

variable (h : RolePair formats desired c i k lb dlb o d)

include h

theorem desiredRoles_eq : desiredRoles desired lb.id = dlb.roles := by
  obtain ⟨j, hj⟩ := List.mem_iff_getElem?.mp h.desired
  exact Manager.desiredRoles_eq h.ids hj h.id

theorem exists_counterpart : ∃ n, counterpart dlb.roles o = some n
    ∧ n.port = d.port ∧ n.protocol = d.protocol ∧ n.targetPort = d.targetPort := by
  obtain ⟨n, hn⟩ := Manager.exists_counterpart h.made.mem h.name
  exact ⟨n, hn, h.made.counterpart_eq ((counterpart_congr h.name).trans hn)⟩

theorem sameSettings_iff {r : Role} (hr : RoleTracked dlb.roles o r)
    (hinternal : internalDiffers dlb.roles r = false)
    (hexternal : externalDiffers dlb.roles r = false) :
    SameSettings r d ↔ (∀ n, counterpart dlb.roles d = some n → n.settings = d.settings)
      ∧ (if o.port = d.port ∧ o.protocol = d.protocol then o.roleType = d.roleType
        else d.port = apiServerPort → d.targetPort = apiServerPort) := by
  obtain ⟨n, hn, hport, hprotocol, htarget⟩ := h.exists_counterpart
  have hrn := (counterpart_congr hr.name_eq).trans hn
  obtain ⟨htarget', hsettings'⟩ := (internalDiffers_of_counterpart hrn).mp hinternal
  obtain ⟨hport', hprotocol'⟩ := (externalDiffers_of_counterpart hrn).mp hexternal
  have hsettings : (∀ n, counterpart dlb.roles d = some n → n.settings = d.settings)
      ↔ r.settings = d.settings := by
    rw [counterpart_congr h.name, hn, hsettings']
    simp
  have hagrees := externalDiffers_of_counterpart hn
  rw [hport, hprotocol] at hagrees
  have htype : r.roleType = d.roleType
      ↔ if o.port = d.port ∧ o.protocol = d.protocol then o.roleType = d.roleType
        else d.port = apiServerPort → d.targetPort = apiServerPort := by
    rw [hr.roleType_of_agrees hn hexternal, hport]
    by_cases hsame : o.port = d.port ∧ o.protocol = d.protocol
    · rw [if_pos hsame, hagrees.mpr hsame]
      rfl
    · have hdiffers : externalDiffers dlb.roles o = true := by simpa using mt hagrees.mp hsame
      rw [if_neg hsame, hdiffers]
      exact h.made.portRoleType_eq
  rw [hsettings, ← htype]
  constructor
  · intro hsame
    exact ⟨hsame.settings, hsame.roleType⟩
  · rintro ⟨hsettings, htype⟩
    exact ⟨hport'.trans hport, hprotocol'.trans hprotocol, htarget'.trans htarget, hsettings, htype⟩

theorem role_of_final (hlater : AllLaterAgree desired c) {n : Nat} {c' : Clusters}
    (hrounds : Rounds (Refreshes s desired) c n c')
    (hfinal : Rounds.Final (Refreshes s desired) c') :
    ∃ lb' r, c'.loadBalancers[i]? = some lb' ∧ lb'.roles[k]? = some r
      ∧ (SameSettings r d ↔ (∀ n, counterpart dlb.roles d = some n → n.settings = d.settings)
        ∧ (if o.port = d.port ∧ o.protocol = d.protocol then o.roleType = d.roleType
          else d.port = apiServerPort → d.targetPort = apiServerPort)) := by
  have hc' : Converging desired c c' :=
    hrounds.invariant (fun t u ht hstep => (Converging.step h.ids t u ht hstep).1)
      (.start h.serviced hlater)
  obtain ⟨lb', r, hi', hk', hr, hinternal, hexternal⟩ :=
    hc'.roles_of_final h.ids hfinal h.current h.role
  rw [h.desiredRoles_eq] at hr hinternal hexternal
  exact ⟨lb', r, hi', hk', h.sameSettings_iff hr hinternal hexternal⟩

theorem refreshable (hequal : EndsEqual s desired c i k d) : Refreshable desired c dlb o d := by
  have hlater : AllLaterAgree desired c := by
    by_contra hlater
    obtain ⟨bound, hbound⟩ := hequal.ends
    obtain ⟨c', hrounds⟩ := exists_rounds (s := s) h.serviced h.ids hlater (bound + 1)
    have := hbound _ c' hrounds
    omega
  obtain ⟨n, c', hrounds, hfinal⟩ :=
    Rounds.exists_final (Converging.step (s := s) h.ids) (.start h.serviced hlater)
  obtain ⟨lb', r, hi', hk', hiff⟩ := h.role_of_final hlater hrounds hfinal
  obtain ⟨lb'', r', hi'', hk'', hsame⟩ := hequal.equal n c' hrounds hfinal
  rw [hi'] at hi''
  cases hi''
  rw [hk'] at hk''
  cases hk''
  exact ⟨hlater, (hiff.mp hsame).1, (hiff.mp hsame).2⟩

theorem endsEqual (hrefreshable : Refreshable desired c dlb o d) :
    EndsEqual s desired c i k d := by
  refine ⟨⟨rolesLeft desired c, fun n c' hrounds => ?_⟩, fun n c' hrounds hfinal => ?_⟩
  · have := hrounds.add_weight_le (Converging.step h.ids) (.start h.serviced hrefreshable.later)
    omega
  · obtain ⟨lb', r, hi', hk', hiff⟩ := h.role_of_final hrefreshable.later hrounds hfinal
    exact ⟨lb', r, hi', hk', hiff.mpr ⟨hrefreshable.settings, hrefreshable.roleType⟩⟩

end RolePair

theorem role_refresh_ends_equal_iff (s : RefreshServices)
    (h : RolePair formats desired c i k lb dlb o d) :
    EndsEqual s desired c i k d ↔ Refreshable desired c dlb o d :=
  ⟨h.refreshable, h.endsEqual⟩

end main

namespace Demo

namespace RoleRefresh

def tofu : Terraformer.Tofu where
  apply := .ok ()
  output _ := .ok (fun _ => some (.ok ⟨"10.0.0.1", 22, 51820⟩))
  applyDns := .ok ()
  endpoint := .ok "lb.a.com"
  alternativeName _ := none

theorem readNodes_tofu {out : String → Option (Except String Terraformer.NodeOutput)}
    (hout : out = fun _ => some (.ok ⟨"10.0.0.1", 22, 51820⟩)) (np : String) (nodes : List Node) :
    (Terraformer.readNodes out np nodes).2 = none := by
  induction nodes with
  | nil => rfl
  | cons n nodes ih =>
    rw [hout] at ih ⊢
    rw [Terraformer.readNodes]
    exact ih

theorem readNodePools_tofu (nps : List NodePool) :
    (Terraformer.readNodePools tofu nps).2 = none := by
  induction nps with
  | nil => rfl
  | cons np nps ih =>
    rw [Terraformer.readNodePools]
    split
    next => exact ih
    next =>
      have hnodes := readNodes_tofu rfl np.name np.nodes
      dsimp only [tofu]
      split
      next heq =>
        rw [heq] at hnodes
        cases hnodes
      next => exact ih

theorem readAlternativeNames_tofu (names : List AlternativeName) :
    Terraformer.readAlternativeNames tofu names = .ok (names, none) := by
  induction names with
  | nil => rfl
  | cons n names ih =>
    simp only [Terraformer.readAlternativeNames, tofu] at ih ⊢
    rw [ih]
    rfl

theorem exists_build_tofu {lb : LBcluster} (hdns : lb.dns.isSome = true) :
    ∃ lb', Terraformer.LBcluster.build tofu lb = .ok (lb', none) := by
  obtain ⟨dns, hdns⟩ := Option.isSome_iff_exists.mp hdns
  have hnps : (Terraformer.reconcileNodePools tofu lb.clusterInfo.nodePools).2 = none :=
    readNodePools_tofu lb.clusterInfo.nodePools
  have hdomain : Terraformer.validateDomain "lb.a.com" = .ok "lb.a.com" := rfl
  have hrecords : Terraformer.createDNSRecords tofu dns
      = .ok ({ dns with endpoint := "lb.a.com" }, none) := by
    unfold Terraformer.createDNSRecords
    simp only [readAlternativeNames_tofu]
    simp only [tofu, hdomain, Outcome.ok_bind]
    rfl
  refine ⟨{ LBcluster.withNodePools lb
    (Terraformer.reconcileNodePools tofu lb.clusterInfo.nodePools).1 with
      dns := some { dns with endpoint := "lb.a.com" } }, ?_⟩
  unfold Terraformer.LBcluster.build
  simp only [hnps, LBcluster.withNodePools, hdns, Outcome.deref, Outcome.ok_bind, hrecords]
  rfl

def services : RefreshServices where
  infra := ⟨fun _ => tofu, fun _ => none, fun _ => none⟩
  setUpLoadbalancers _ := none
  builds _ := exists_build_tofu
  setsUp _ := rfl

def role (port targetPort : Int) : Manifest.Role := ⟨"web", "tcp", port, targetPort, ["c1"], none⟩

def manifest (role : Manifest.Role) : Claudie.Manifest :=
  { Manifest.Demo.manifest [Manifest.Demo.staticNodePool "c1" "10.0.0.1"]
      [Manifest.Demo.cluster "main" ["c1"]] [] with
    loadBalancer := ⟨[role],
      [{ Manifest.Demo.loadBalancer "lb" "lb" "a.com" [] with roles := [role.name] }]⟩ }

def assigned (role : Manifest.Role) : Role :=
  let r := roleFromManifest role
  { r with settings := { r.settings with envoyAdminPort := 64512 } }

def lb (role : Manifest.Role) : LBcluster :=
  ⟨⟨"lb", "qwe1234", []⟩, [assigned role, healthcheckRole],
    some ⟨"a.com", "lb", ⟨"hetzner-1", "hetzner", .hetzner "token",
      ⟨"", "", "", none, ⟨"", "", "", "", ""⟩⟩⟩, "lb.a.com", []⟩, "main", false⟩

def state (role : Manifest.Role) : Clusters :=
  ⟨some ⟨⟨"main", "abc1234", []⟩, "192.168.2.0/24", "", "1.34.0", ⟨"off", "", ""⟩⟩, [lb role]⟩

theorem rolePair (current desired : Manifest.Role) (hname : desired.name = current.name)
    (hvalid : (manifest desired).validate Manifest.Demo.formats = true) :
    RolePair Manifest.Demo.formats (state desired) (state current) 0 0 (lb current) (lb desired)
      (assigned current) (assigned desired) where
  serviced := ⟨⟨_, rfl, fun _ h => by rw [List.mem_singleton.mp h]; rfl⟩, List.nodup_singleton _,
    fun _ h => by rw [List.mem_singleton.mp h]; rfl⟩
  ids := List.nodup_singleton _
  current := rfl
  desired := List.mem_singleton_self _
  id := rfl
  role := rfl
  made := by
    have hroles : getRolesAttachedToLBCluster (manifest desired).loadBalancer.roles [desired.name]
        = [roleFromManifest desired] := by
      simp [getRolesAttachedToLBCluster, manifest]
    refine ⟨manifest desired, [desired.name], [assigned desired], [healthcheckRole], hvalid, ?_,
      rfl, List.mem_singleton_self _⟩
    rw [hroles]
    exact .cons ⟨64512, rfl⟩ .nil
  name := hname

end RoleRefresh

end Demo

theorem changed_ports_are_refreshed :
    EndsEqual Demo.RoleRefresh.services (Demo.RoleRefresh.state (Demo.RoleRefresh.role 443 8443))
      (Demo.RoleRefresh.state (Demo.RoleRefresh.role 80 8080)) 0 0
      (Demo.RoleRefresh.assigned (Demo.RoleRefresh.role 443 8443)) :=
  (role_refresh_ends_equal_iff Demo.RoleRefresh.services
    (Demo.RoleRefresh.rolePair (Demo.RoleRefresh.role 80 8080) (Demo.RoleRefresh.role 443 8443) rfl
      rfl)).mpr
      ⟨fun lb hlb => by
        rw [List.mem_singleton.mp hlb]
        refine List.pairwise_pair.mpr (fun hname => absurd hname ?_)
        decide,
      fun n hn => by
        cases hn
        rfl,
      by decide⟩

/--
A role whose port becomes the one of the api server, with another target port: the refresh makes it
a role for the api server.
-/
theorem role_becomes_api_server :
    (Demo.RoleRefresh.manifest (Demo.RoleRefresh.role 6443 8080)).validate Manifest.Demo.formats
        = true
      ∧ ¬ EndsEqual Demo.RoleRefresh.services
        (Demo.RoleRefresh.state (Demo.RoleRefresh.role 6443 8080))
        (Demo.RoleRefresh.state (Demo.RoleRefresh.role 80 8080)) 0 0
        (Demo.RoleRefresh.assigned (Demo.RoleRefresh.role 6443 8080)) := by
  have hvalid : (Demo.RoleRefresh.manifest (Demo.RoleRefresh.role 6443 8080)).validate
      Manifest.Demo.formats = true := rfl
  refine ⟨hvalid, fun h => ?_⟩
  have hpair := Demo.RoleRefresh.rolePair (Demo.RoleRefresh.role 80 8080)
    (Demo.RoleRefresh.role 6443 8080) rfl hvalid
  exact absurd (hpair.refreshable h).roleType (by decide)

end Manager

end Claudie
