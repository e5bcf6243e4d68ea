import Claudie.Lemmas.NodePools
import Claudie.Manager.Lemmas.Diff
import Claudie.Manager.Schedule.Kubernetes

/-!
What two states agree on when one of their differences is empty.
-/

namespace Claudie

namespace Manager

section NodePools

variable {old desired : List NodePool}

theorem mem_commonNodePools {c d : NodePool} :
    (c, d) ∈ commonNodePools old desired ↔ c ∈ old ∧ d ∈ desired ∧ c.name = d.name := by
  simp only [commonNodePools, List.mem_flatMap, List.mem_map, List.mem_filter, decide_eq_true_eq,
    Prod.mk.injEq]
  constructor
  · rintro ⟨_, hc, _, hd, rfl, rfl⟩
    exact ⟨hc, hd⟩
  · rintro ⟨hc, hd⟩
    exact ⟨c, hc, d, hd, rfl, rfl⟩

theorem forall_commonNodePools {p : NodePool → NodePool → Prop} :
    (∀ x ∈ commonNodePools old desired, p x.1 x.2)
      ↔ ∀ c ∈ old, ∀ d ∈ desired, c.name = d.name → p c d := by
  refine ⟨fun h c hc d hd hname => h (c, d) (mem_commonNodePools.mpr ⟨hc, hd, hname⟩), ?_⟩
  rintro h ⟨c, d⟩ hx
  obtain ⟨hc, hd, hname⟩ := mem_commonNodePools.mp hx
  exact h c hc d hd hname

def AgreeOn (p : NodePool → NodePool → Prop) (nps others : List NodePool) : Prop :=
  ∀ np ∈ nps, ∀ o ∈ others, np.name = o.name → p np o

def SameTemplates (c d : NodePool) : Prop :=
  ∀ cd dd, c.type = .dynamic cd → d.type = .dynamic dd →
    cd.provider.templates.commitHash = dd.provider.templates.commitHash

theorem rollingUpdates_isEmpty :
    (rollingUpdates old desired).isEmpty = true
      ↔ ∀ c ∈ old, ∀ d ∈ desired, c.name = d.name → SameTemplates c d := by
  rw [← forall_commonNodePools, rollingUpdates,
    GoMap.isEmpty_foldl (p := fun x => SameTemplates x.1 x.2)]
  · simp
  · rintro m ⟨c, d⟩
    unfold SameTemplates
    dsimp only
    split
    next cd dd hc hd =>
      split
      next hne => simp_all
      next heq => simp_all
    next hno =>
      rw [iff_self_and]
      exact fun _ cd dd hc hd => absurd hd (hno cd dd hc)

def DynamicNodePool.autoscalerRange (d : DynamicNodePool) : Option (Int × Int) :=
  d.autoscalerConfig.map (fun conf => (conf.min, conf.max))

def SameAutoscaler (c d : NodePool) : Prop :=
  ∀ cd dd, c.type = .dynamic cd → d.type = .dynamic dd →
    DynamicNodePool.autoscalerRange cd = DynamicNodePool.autoscalerRange dd

theorem changedToAutoscaled_isEmpty :
    (changedToAutoscaled old desired).isEmpty = true
      ↔ ∀ c ∈ old, ∀ d ∈ desired, c.name = d.name → ∀ cd dd, c.type = .dynamic cd →
        d.type = .dynamic dd → dd.autoscalerConfig ≠ none →
        DynamicNodePool.autoscalerRange cd = DynamicNodePool.autoscalerRange dd := by
  rw [← forall_commonNodePools, changedToAutoscaled,
    GoMap.isEmpty_foldl (p := fun x => ∀ cd dd, x.1.type = .dynamic cd → x.2.type = .dynamic dd →
      dd.autoscalerConfig ≠ none →
      DynamicNodePool.autoscalerRange cd = DynamicNodePool.autoscalerRange dd)]
  · simp
  · rintro m ⟨c, d⟩
    dsimp only
    split
    next cd dd hc hd =>
      simp only [hc, hd, NodePoolType.dynamic.injEq, DynamicNodePool.autoscalerRange]
      cases hcc : cd.autoscalerConfig with
      | none => cases hdc : dd.autoscalerConfig <;> simp [hcc, hdc]
      | some cconf =>
        cases hdc : dd.autoscalerConfig with
        | none => simp [hdc]
        | some dconf =>
          by_cases hrange : cconf.min = dconf.min ∧ cconf.max = dconf.max
          · simp [hcc, hdc, hrange]
          · have hne : cconf.min ≠ dconf.min ∨ cconf.max ≠ dconf.max := not_and_or.mp hrange
            simpa [hcc, hdc, hne] using fun _ hmin => hne.resolve_left (not_not_intro hmin)
    next hno =>
      rw [iff_self_and]
      exact fun _ cd dd hc hd => absurd hd (hno cd dd hc)

theorem changedToFixed_isEmpty :
    (changedToFixed old desired).isEmpty = true
      ↔ ∀ c ∈ old, ∀ d ∈ desired, c.name = d.name → ∀ cd dd, c.type = .dynamic cd →
        d.type = .dynamic dd → dd.autoscalerConfig = none → cd.autoscalerConfig = none := by
  rw [← forall_commonNodePools, changedToFixed,
    GoMap.isEmpty_foldl (p := fun x => ∀ cd dd, x.1.type = .dynamic cd → x.2.type = .dynamic dd →
      dd.autoscalerConfig = none → cd.autoscalerConfig = none)]
  · simp
  · rintro m ⟨c, d⟩
    dsimp only
    split
    next cd dd hc hd =>
      simp only [hc, hd, NodePoolType.dynamic.injEq]
      cases hcc : cd.autoscalerConfig <;> cases hdc : dd.autoscalerConfig <;> simp [hcc, hdc]
    next hno =>
      rw [iff_self_and]
      exact fun _ cd dd hc hd => absurd hd (hno cd dd hc)

theorem autoscaler_isEmpty :
    (changedToAutoscaled old desired).isEmpty = true ∧ (changedToFixed old desired).isEmpty = true
      ↔ ∀ c ∈ old, ∀ d ∈ desired, c.name = d.name → SameAutoscaler c d := by
  rw [changedToAutoscaled_isEmpty, changedToFixed_isEmpty]
  refine ⟨?_, fun h => ⟨?_, ?_⟩⟩
  · rintro ⟨hauto, hfixed⟩ c hc d hd hname cd dd hcd hdd
    by_cases hnone : dd.autoscalerConfig = none
    · simp [DynamicNodePool.autoscalerRange, hnone, hfixed c hc d hd hname cd dd hcd hdd hnone]
    · exact hauto c hc d hd hname cd dd hcd hdd hnone
  · exact fun c hc d hd hname cd dd hcd hdd _ => h c hc d hd hname cd dd hcd hdd
  · intro c hc d hd hname cd dd hcd hdd hnone
    have := h c hc d hd hname cd dd hcd hdd
    simpa [DynamicNodePool.autoscalerRange, hnone] using this

def Unmarked (c d : NodePool) : Prop :=
  ∀ cn ∈ c.nodes, ∀ dn ∈ d.nodes, cn.name = dn.name →
    ¬ (cn.status = .markedForDeletion ∧ dn.status = .markedForDeletion)

def markedNodes (c d : NodePool) : List String :=
  c.nodes.flatMap (fun cn => (d.nodes.filter (fun dn => cn.name = dn.name && cn.status = dn.status
    && cn.status = .markedForDeletion)).map (·.name))

theorem pendingDeletions_getElem? {p : NodePool → Bool} (hold : (old.map (·.name)).Nodup)
    (hdesired : (desired.map (·.name)).Nodup) {k : String} :
    (pendingDeletions p old desired)[k]?
      = (NodePools.findByName k old).bind (fun c => (NodePools.findByName k desired).bind (fun d =>
        if p d = true ∧ markedNodes c d ≠ [] then some (markedNodes c d) else none)) := by
  have hfold : pendingDeletions p old desired = old.foldl (fun m c => m.appendAt c.name
      ((NodePools.findByName c.name desired).elim []
        (fun d => if p d then markedNodes c d else []))) ∅ := by
    unfold pendingDeletions commonNodePools
    rw [List.foldl_flatMap]
    congr
    funext m c
    rw [List.filter_key_eq hdesired, List.foldl_map]
    change List.foldl _ m (NodePools.findByName c.name desired).toList = _
    cases hd : NodePools.findByName c.name desired with
    | none => rfl
    | some d =>
      have hname : d.name = c.name := by simpa using List.find?_some hd
      dsimp only [Option.toList, Option.elim, List.foldl_cons, List.foldl_nil]
      rw [hname]
      cases p d <;> rfl
  rw [hfold, GoMap.getElem?_foldl_appendAt hold (by simp), Std.ExtTreeMap.getElem?_empty,
    Option.or_none]
  change (NodePools.findByName k old).bind _ = _
  cases hc : NodePools.findByName k old with
  | none => rfl
  | some c =>
    have hname : c.name = k := by simpa using List.find?_some hc
    dsimp only [Option.bind_some]
    rw [hname]
    cases NodePools.findByName k desired with
    | none => rfl
    | some d =>
      dsimp only [Option.bind_some]
      by_cases hp : p d = true <;> by_cases hnil : markedNodes c d = [] <;> simp [hp, hnil]

theorem pendingDeletions_isEmpty {p : NodePool → Bool} :
    (pendingDeletions p old desired).isEmpty = true
      ↔ AgreeOn (fun c d => p d = true → Unmarked c d) old desired := by
  unfold AgreeOn
  rw [← forall_commonNodePools, pendingDeletions,
    GoMap.isEmpty_foldl (p := fun x => p x.2 = true → Unmarked x.1 x.2)]
  · simp
  · rintro m ⟨c, d⟩
    dsimp only
    cases p d with
    | false => simp
    | true =>
      simp only [if_true, GoMap.isEmpty_appendAt, List.flatMap_eq_nil_iff, List.map_eq_nil_iff,
        List.filter_eq_nil_iff, Unmarked, forall_const, and_congr_right_iff]
      intro _
      refine forall₂_congr (fun cn _ => forall₂_congr (fun dn _ => ?_))
      simp only [Bool.and_eq_true, decide_eq_true_eq]
      constructor
      · rintro h hname ⟨hcn, hdn⟩
        exact h ⟨⟨hname, hcn.trans hdn.symm⟩, hcn⟩
      · rintro h ⟨⟨hname, hstatus⟩, hcn⟩
        exact h hname ⟨hcn, hstatus ▸ hcn⟩

theorem insertEntries_isEmpty {β : Type} {m : GoMap (GoMap β)} {k : String} {v : GoMap β} :
    (insertEntries m k v).isEmpty = true ↔ m.isEmpty = true ∧ v.isEmpty = true := by
  unfold insertEntries
  split
  next h => simp [h]
  next h => simp [h]

theorem entries_eq {ord : MapOrder} {loop : String} {m m' : GoMap String} :
    missingKeys ord loop m m' = [] ∧ (changedEntries m m').isEmpty = true ↔ m = m' := by
  have hmissing : missingKeys ord loop m m' = []
      ↔ ∀ (k v : String), m[k]? = some v → (m'[k]?).isSome = true := by
    simp only [missingKeys, List.map_eq_nil_iff, List.filter_eq_nil_iff, MapOrder.mem_range,
      Prod.forall, Std.ExtTreeMap.contains_eq_isSome_getElem?, Bool.not_eq_true', Bool.not_eq_false]
  have hchanged : (changedEntries m m').isEmpty = true
      ↔ ∀ (k v : String), m'[k]? = some v → m[k]? = some v := by
    simp only [changedEntries, GoMap.isEmpty_iff_getElem?, Option.eq_none_iff_forall_ne_some, ne_eq,
      GoMap.getElem?_filter_eq_some, decide_eq_true_eq, not_and, not_not]
  rw [hmissing, hchanged]
  constructor
  · rintro ⟨hkeys, hentries⟩
    refine Std.ExtTreeMap.ext_getElem? (fun k => ?_)
    cases hnew : m'[k]? with
    | some v => exact hentries k v hnew
    | none =>
      cases hold : m[k]? with
      | none => rfl
      | some v => simpa [hnew] using hkeys k v hold
  · rintro rfl
    exact ⟨fun k v h => by simp [h], fun k v h => h⟩

theorem taints_eq {c n : List Taint} :
    c.filter (fun t => !n.contains t) = [] ∧ n.filter (fun t => !c.contains t) = []
      ↔ ∀ t, t ∈ c ↔ t ∈ n := by
  simp only [List.filter_eq_nil_iff, Bool.not_eq_true', Bool.not_eq_false, List.contains_iff_mem]
  exact ⟨fun h t => ⟨h.1 t, h.2 t⟩, fun h => ⟨fun t => (h t).mp, fun t => (h t).mpr⟩⟩

structure SamePatches (c n : NodePool) : Prop where
  labels : c.labels = n.labels
  annotations : c.annotations = n.annotations
  taints : ∀ t, t ∈ c.taints ↔ t ∈ n.taints

theorem labelsTaintsAnnotationsDiff_isEmpty {ord : MapOrder} :
    (labelsTaintsAnnotationsDiff ord old desired).isEmpty = true
      ↔ ∀ c ∈ old, ∀ n, NodePools.findByName c.name desired = some n → SamePatches c n := by
  rw [labelsTaintsAnnotationsDiff,
    List.foldl_iff (E := fun d : LabelsTaintsAnnotationsDiffResult => d.isEmpty = true)
      (p := fun c => ∀ n, NodePools.findByName c.name desired = some n → SamePatches c n)]
  · simp [LabelsTaintsAnnotationsDiffResult.isEmpty]
  · intro d c
    cases hn : NodePools.findByName c.name desired with
    | none => simp
    | some n =>
      have hsame : SamePatches c n ↔ (missingKeys ord "deleted labels" c.labels n.labels = []
          ∧ (changedEntries c.labels n.labels).isEmpty = true)
          ∧ (missingKeys ord "deleted annotations" c.annotations n.annotations = []
            ∧ (changedEntries c.annotations n.annotations).isEmpty = true)
          ∧ c.taints.filter (fun t => !n.taints.contains t) = []
          ∧ n.taints.filter (fun t => !c.taints.contains t) = [] := by
        rw [entries_eq, entries_eq, taints_eq]
        exact ⟨fun h => ⟨h.labels, h.annotations, h.taints⟩, fun h => ⟨h.1, h.2.1, h.2.2⟩⟩
      simp only [LabelsTaintsAnnotationsDiffResult.isEmpty, Bool.and_eq_true,
        GoMap.isEmpty_appendAt, insertEntries_isEmpty, Option.some.injEq, forall_eq', hsame]
      tauto

def SameNodePools (nps others : List NodePool) : Prop :=
  CoversNodePools nps others ∧ CoversNodePools others nps

theorem coversNodePools_iff {nps others : List NodePool} :
    CoversNodePools nps others
      ↔ CoversKind (·.isDynamic) nps others ∧ CoversKind (·.isStatic) nps others := by
  constructor
  · intro h
    refine ⟨fun o ho hp => ?_, fun o ho hp => ?_⟩
    · obtain ⟨np, hnp, hcov⟩ := h o ho
      exact ⟨np, hnp, hcov.kind.trans hp, hcov.name, hcov.nodes⟩
    · obtain ⟨np, hnp, hcov⟩ := h o ho
      refine ⟨np, hnp, ?_, hcov.name, hcov.nodes⟩
      simpa [NodePool.isStatic_eq, hcov.kind] using hp
  · rintro ⟨hdynamic, hstatic⟩ o ho
    cases hkind : o.isDynamic with
    | true =>
      obtain ⟨np, hnp, hp, hname, hnodes⟩ := hdynamic o ho hkind
      exact ⟨np, hnp, hname, hp.trans hkind.symm, hnodes⟩
    | false =>
      obtain ⟨np, hnp, hp, hname, hnodes⟩ := hstatic o ho (NodePool.isStatic_of_not_isDynamic hkind)
      refine ⟨np, hnp, hname, ?_, hnodes⟩
      simpa [NodePool.isStatic_eq, hkind] using hp

theorem sameNodePools_iff {nps others : List NodePool} (hnps : (nps.map (·.name)).Nodup)
    (hothers : (others.map (·.name)).Nodup) :
    SameNodePools nps others
      ↔ (dynamicDiff nps others).isEmpty = true ∧ (staticDiff nps others).isEmpty = true := by
  rw [SameNodePools, coversNodePools_iff, coversNodePools_iff, dynamicDiff, staticDiff,
    nodePoolsDiff_isEmpty hnps hothers, nodePoolsDiff_isEmpty hnps hothers]
  tauto

end NodePools

section Proxy

variable {old desired : K8scluster}

theorem proxyDiff_noChange :
    (proxyDiff old desired).change = .noChange
      ↔ usesProxy old = usesProxy desired ∧ (usesProxy old = true →
        old.installationProxy.noProxy = desired.installationProxy.noProxy) := by
  unfold proxyDiff
  cases usesProxy old <;> cases usesProxy desired <;> simp

end Proxy

section LoadBalancer

theorem dnsChanged_eq_false {old desired : Option DNS} :
    dnsChanged old desired = false ↔ old = desired := by
  cases old with
  | none => cases desired <;> simp [dnsChanged]
  | some o =>
    cases desired with
    | none => simp [dnsChanged]
    | some d =>
      simp only [dnsChanged, Bool.not_eq_false', Bool.and_eq_true, decide_eq_true_eq,
        Option.some.injEq, and_iff_right_iff_imp]
      rintro rfl
      rfl

variable {old desired : List Role}

theorem mem_missingRoles {rs others : List Role} {name : String} :
    name ∈ missingRoles rs others ↔ name ∈ rs.map (·.name) ∧ name ∉ others.map (·.name) := by
  simp only [missingRoles, List.mem_map, List.mem_filter, Bool.not_eq_true', List.any_eq_false,
    decide_eq_true_eq, not_exists, not_and]
  constructor
  · rintro ⟨r, ⟨hr, hno⟩, rfl⟩
    exact ⟨⟨r, hr, rfl⟩, fun o ho heq => hno o ho heq.symm⟩
  · rintro ⟨⟨r, hr, rfl⟩, hno⟩
    exact ⟨r, ⟨hr, fun o ho heq => hno o ho heq.symm⟩, rfl⟩

theorem missingRoles_eq_nil {rs others : List Role} :
    missingRoles rs others = [] ↔ rs.map (·.name) ⊆ others.map (·.name) := by
  simp only [List.eq_nil_iff_forall_not_mem, mem_missingRoles, not_and, not_not, List.subset_def]

structure SameRole (o n : Role) : Prop where
  port : o.port = n.port
  protocol : o.protocol = n.protocol
  targetPort : o.targetPort = n.targetPort
  targetPools : ∀ np, np ∈ o.targetPools ↔ np ∈ n.targetPools
  settings : o.settings = n.settings

structure SameRoles (old desired : List Role) : Prop where
  names : ∀ name, name ∈ old.map (·.name) ↔ name ∈ desired.map (·.name)
  roles : ∀ o ∈ old, ∀ n ∈ desired, o.name = n.name → SameRole o n

def commonRoles (old desired : List Role) : List (Role × Role) :=
  old.filterMap (fun o => (desired.find? (fun n => n.name = o.name)).map (o, ·))

theorem mem_commonRoles (hdesired : (desired.map (·.name)).Nodup) {o n : Role} :
    (o, n) ∈ commonRoles old desired ↔ o ∈ old ∧ n ∈ desired ∧ o.name = n.name := by
  simp only [commonRoles, List.mem_filterMap, Option.map_eq_some_iff,
    List.find?_key_eq_some hdesired, Prod.mk.injEq]
  constructor
  · rintro ⟨o', ho, n', ⟨hn, hname⟩, rfl, rfl⟩
    exact ⟨ho, hn, hname.symm⟩
  · rintro ⟨ho, hn, hname⟩
    exact ⟨o, ho, n, ⟨hn, hname.symm⟩, rfl, rfl⟩

theorem targetPools_isEmpty {f : Role × Role → String} {g : Role × Role → List String}
    {l : List (Role × Role)} :
    (l.foldl (fun m x => m.appendAt (f x) (g x)) (∅ : GoMap (List String))).isEmpty = true
      ↔ ∀ x ∈ l, g x = [] := by
  rw [GoMap.isEmpty_foldl (p := fun x => g x = [])]
  · simp
  · intro m x
    exact GoMap.isEmpty_appendAt

theorem sameRole_iff {o n : Role} :
    SameRole o n ↔ (o.targetPort = n.targetPort ∧ o.settings = n.settings)
      ∧ (o.port = n.port ∧ o.protocol = n.protocol)
      ∧ n.targetPools ⊆ o.targetPools ∧ o.targetPools ⊆ n.targetPools := by
  constructor
  · intro h
    exact ⟨⟨h.targetPort, h.settings⟩, ⟨h.port, h.protocol⟩, fun p => (h.targetPools p).mpr,
      fun p => (h.targetPools p).mp⟩
  · rintro ⟨⟨htarget, hsettings⟩, ⟨hport, hprotocol⟩, hadded, hdeleted⟩
    exact ⟨hport, hprotocol, htarget, fun _ => ⟨(hdeleted ·), (hadded ·)⟩, hsettings⟩

theorem rolesDiff_isEmpty (hdesired : (desired.map (·.name)).Nodup) :
    (rolesDiff old desired).isEmpty = true ↔ SameRoles old desired := by
  have hcommon : (∀ o ∈ old, ∀ n ∈ desired, o.name = n.name → SameRole o n)
      ↔ ∀ x ∈ commonRoles old desired, SameRole x.1 x.2 :=
    ⟨fun h x hx => have hx := (mem_commonRoles hdesired).mp hx; h _ hx.1 _ hx.2.1 hx.2.2,
      fun h o ho n hn hname => h (o, n) ((mem_commonRoles hdesired).mpr ⟨ho, hn, hname⟩)⟩
  have hsame : SameRoles old desired ↔ (desired.map (·.name) ⊆ old.map (·.name)
      ∧ old.map (·.name) ⊆ desired.map (·.name))
      ∧ ∀ x ∈ commonRoles old desired, SameRole x.1 x.2 := by
    rw [← hcommon]
    exact ⟨fun h => ⟨⟨fun n => (h.names n).mpr, fun n => (h.names n).mp⟩, h.roles⟩,
      fun h => ⟨fun n => ⟨(h.1.2 ·), (h.1.1 ·)⟩, h.2⟩⟩
  rw [hsame]
  simp only [RolesDiff.isEmpty, rolesDiff, Bool.and_eq_true, List.isEmpty_iff, missingRoles_eq_nil,
    targetPools_isEmpty, List.map_eq_nil_iff, List.filter_eq_nil_iff, sameRole_iff, forall_and,
    Bool.or_eq_true, decide_eq_true_eq, not_or, not_not, List.subset_def, Bool.not_eq_true',
    Bool.not_eq_false, List.contains_iff_mem, and_assoc, commonRoles]

end LoadBalancer

end Manager

end Claudie
