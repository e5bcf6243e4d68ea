import Claudie.Lib.Overwrite
import Claudie.Manager.Lemmas.Consume

/-!
The updates of a worker, committed into one result that is consumed at once, or consumed one by one.
-/

namespace Claudie

theorem updateExistingLbs_eq {lbs updates : List LBcluster} (hlbs : (lbs.map (·.id)).Nodup)
    (hupdates : (updates.map (·.id)).Nodup) :
    updateExistingLbs lbs updates
      = (lbs.map (fun lb => (updates.find? (·.id = lb.id)).getD lb),
        updates.filter (fun u => u.id ∉ lbs.map (·.id))) := by
  induction lbs generalizing updates with
  | nil => simp [updateExistingLbs]
  | cons lb lbs ih =>
    obtain ⟨hnew, hlbs⟩ := List.nodup_cons.mp hlbs
    have hcomm : (fun u : LBcluster => decide (lb.id = u.id)) = fun u => decide (u.id = lb.id) := by
      funext u
      rw [decide_eq_decide, eq_comm]
    rw [updateExistingLbs, hcomm, List.map_cons]
    cases hfind : updates.find? (·.id = lb.id) with
    | none =>
      have hnone := List.find?_key_eq_none.mp hfind
      dsimp only
      rw [ih hlbs hupdates, Option.getD_none]
      refine Prod.ext rfl (List.filter_congr fun u hu => ?_)
      have hne : u.id ≠ lb.id := fun heq => hnone (heq ▸ List.mem_map_of_mem hu)
      simp [hne]
    | some u =>
      obtain ⟨hu, hid⟩ := (List.find?_key_eq_some hupdates).mp hfind
      have herase : updates.erase u = updates.filter (fun v => v.id ≠ lb.id) := by
        rw [(List.Nodup.of_map _ hupdates).erase_eq_filter]
        refine List.filter_congr fun v hv => ?_
        have heq : v = u ↔ v.id = lb.id :=
          ⟨fun heq => heq ▸ hid, fun heq =>
            List.inj_on_of_nodup_map hupdates hv hu (heq.trans hid.symm)⟩
        simp [bne, beq_eq_decide, ← heq]
      dsimp only
      rw [herase, ih hlbs (hupdates.sublist (List.filter_sublist.map _)), Option.getD_some]
      refine Prod.ext (congrArg (u :: ·) (List.map_congr_left fun lb' hlb' => ?_)) ?_
      · have hne : lb'.id ≠ lb.id := fun heq => hnew (List.mem_map.mpr ⟨lb', hlb', heq⟩)
        rw [List.find?_filter_key fun v _ hv => by simpa [hv] using hne]
      · rw [List.filter_filter]
        refine List.filter_congr fun v _ => ?_
        by_cases hv : v.id = lb.id <;> simp [hv]

theorem mergeLoadBalancers_eq_overwrite {lbs updates : List LBcluster}
    (hlbs : (lbs.map (·.id)).Nodup) (hupdates : (updates.map (·.id)).Nodup) :
    mergeLoadBalancers lbs updates = lbs.overwrite LBcluster.id updates := by
  rw [mergeLoadBalancers, updateExistingLbs_eq hlbs hupdates]
  rfl

def K8scluster.Same (k k8s : K8scluster) : Prop :=
  k.clusterInfo.name = k8s.clusterInfo.name ∧ k.clusterInfo.hash = k8s.clusterInfo.hash

theorem K8scluster.Same.getD {o : Option K8scluster} {k k8s : K8scluster} (hk : k.Same k8s)
    (ho : ∀ k', o = some k' → k'.Same k8s) : (o.getD k).Same k8s := by
  cases o with
  | none => exact hk
  | some k' => exact ho k' rfl

structure UpdateState where
  k8s : Option K8scluster
  loadBalancers : List LBcluster
  deriving DecidableEq

namespace UpdateState

def result (u : UpdateState) : ResultKind := .update u.k8s (some u.loadBalancers)

def commitAll (us : List UpdateState) : ResultKind :=
  us.foldl (fun result u => result.commit u.result) .none

structure For (k8s : K8scluster) (us : List UpdateState) : Prop where
  k8s : ∀ u ∈ us, ∀ k, u.k8s = some k → k.Same k8s
  distinct : ∀ u ∈ us, (u.loadBalancers.map (·.id)).Nodup
  target : ∀ lb ∈ us.flatMap (·.loadBalancers), ∀ lb' ∈ us.flatMap (·.loadBalancers),
    lb.id = lb'.id → lb.targetedK8s = lb'.targetedK8s

def accepted (k8s : K8scluster) (us : List UpdateState) : List LBcluster :=
  (us.flatMap (·.loadBalancers)).filter (·.targetedK8s = k8s.clusterInfo.name)

variable {k8s : K8scluster} {u : UpdateState} {us : List UpdateState}

theorem For.tail (h : For k8s (u :: us)) : For k8s us := by
  refine ⟨fun v hv => h.k8s v (List.mem_cons_of_mem u hv),
    fun v hv => h.distinct v (List.mem_cons_of_mem u hv), fun lb hlb lb' hlb' => ?_⟩
  exact h.target lb (List.mem_append_right _ hlb) lb' (List.mem_append_right _ hlb')

theorem foldl_commit (k : Option K8scluster) {lbs : List LBcluster} (hlbs : (lbs.map (·.id)).Nodup)
    (hus : ∀ u ∈ us, (u.loadBalancers.map (·.id)).Nodup) :
    us.foldl (fun result u => ResultKind.commit result u.result) (.update k (some lbs))
      = ResultKind.update (us.foldl (fun k u => u.k8s <|> k) k)
        (some ((us.map (·.loadBalancers)).foldl (List.overwrite LBcluster.id) lbs)) := by
  induction us generalizing k lbs with
  | nil => rfl
  | cons u us ih =>
    rw [List.forall_mem_cons] at hus
    have hcommit : (ResultKind.update k (some lbs)).commit u.result
        = .update (u.k8s <|> k) (some (lbs.overwrite LBcluster.id u.loadBalancers)) := by
      rw [← mergeLoadBalancers_eq_overwrite hlbs hus.1]
      rfl
    rw [List.foldl_cons, hcommit, ih _ (List.nodup_keys_overwrite hlbs hus.1) hus.2]
    rfl

theorem commitAll_cons (u : UpdateState)
    (hus : ∀ v ∈ u :: us, (v.loadBalancers.map (·.id)).Nodup) :
    commitAll (u :: us)
      = .update (us.foldl (fun k u => u.k8s <|> k) u.k8s)
        (some ((us.map (·.loadBalancers)).foldl (List.overwrite LBcluster.id)
          u.loadBalancers)) := by
  rw [List.forall_mem_cons] at hus
  exact foldl_commit u.k8s hus.1 hus.2

theorem getD_foldl_k8s (us : List UpdateState) (k : Option K8scluster) (k8s : K8scluster) :
    (us.foldl (fun k u => u.k8s <|> k) k).getD k8s
      = us.foldl (fun k u => u.k8s.getD k) (k.getD k8s) := by
  induction us generalizing k with
  | nil => rfl
  | cons u us ih =>
    rw [List.foldl_cons, List.foldl_cons, ih]
    cases u.k8s <;> rfl

theorem foldl_k8s_same {o : Option K8scluster}
    (hus : ∀ u ∈ us, ∀ k, u.k8s = some k → k.Same k8s) (ho : ∀ k, o = some k → k.Same k8s) :
    ∀ k, us.foldl (fun k u => u.k8s <|> k) o = some k → k.Same k8s := by
  induction us generalizing o with
  | nil => exact ho
  | cons u us ih =>
    rw [List.forall_mem_cons] at hus
    refine ih hus.2 fun k hk => ?_
    cases hu : u.k8s with
    | none => exact ho k (by simpa [hu] using hk)
    | some k' => exact hus.1 k (by simpa [hu] using hk)

def targeting (k8s : K8scluster) (us : List UpdateState) : List (List LBcluster) :=
  us.map (fun u => u.loadBalancers.filter (·.targetedK8s = k8s.clusterInfo.name))

theorem flatten_targeting (k8s : K8scluster) (us : List UpdateState) :
    (targeting k8s us).flatten = accepted k8s us := by
  rw [targeting, accepted, List.filter_flatMap, List.flatMap_def]

theorem nodup_targeting (hus : For k8s us) :
    ∀ lbs ∈ targeting k8s us, (lbs.map (·.id)).Nodup := by
  intro lbs hlbs
  obtain ⟨u, hu, rfl⟩ := List.mem_map.mp hlbs
  exact (hus.distinct u hu).sublist (List.filter_sublist.map _)

structure Committed (k8s : K8scluster) (us : List UpdateState) (k : Option K8scluster)
    (lbs : List LBcluster) : Prop where
  same : ∀ k', k = some k' → k'.Same k8s
  getD : k.getD k8s = us.foldl (fun k u => u.k8s.getD k) k8s
  distinct : ((lbs.filter (·.targetedK8s = k8s.clusterInfo.name)).map (·.id)).Nodup
  overwrite : ∀ l : List LBcluster, (l.map (·.id)).Nodup →
    l.overwrite LBcluster.id (lbs.filter (·.targetedK8s = k8s.clusterInfo.name))
      = (targeting k8s us).foldl (List.overwrite LBcluster.id) l

theorem commitAll_eq (hus : For k8s (u :: us)) :
    ∃ k lbs, commitAll (u :: us) = .update k (some lbs) ∧ Committed k8s (u :: us) k lbs := by
  refine ⟨_, _, commitAll_cons u hus.distinct, ?_⟩
  obtain ⟨hu, hnodup⟩ := List.forall_mem_cons.mp (nodup_targeting hus)
  have hfilter : ((us.map (·.loadBalancers)).foldl (List.overwrite LBcluster.id)
        u.loadBalancers).filter (·.targetedK8s = k8s.clusterInfo.name)
      = (targeting k8s us).foldl (List.overwrite LBcluster.id)
        (u.loadBalancers.filter (·.targetedK8s = k8s.clusterInfo.name)) := by
    rw [List.filter_foldl_overwrite, List.map_map]
    · rfl
    · intro lb hlb lb' hlb' hid
      rw [hus.target lb hlb lb' hlb' hid]
  refine ⟨?_, getD_foldl_k8s us u.k8s k8s, ?_, fun l hl => ?_⟩
  · exact foldl_k8s_same (fun v hv => hus.k8s v (List.mem_cons_of_mem u hv))
      (hus.k8s u List.mem_cons_self)
  · rw [hfilter]
    exact List.nodup_keys_foldl_overwrite hu hnodup
  · rw [hfilter]
    exact (List.foldl_overwrite hl hu hnodup).symm

end UpdateState

namespace Task

variable {t t' : Task} {k8s : K8scluster} {us : List UpdateState}

def consumeAll (t : Task) (us : List UpdateState) : Outcome Task :=
  us.foldlM (fun t u => t.consumeResult u.result) t

@[simp]
theorem clusters_consumeReplace (t : Task) (k : K8scluster) :
    (t.consumeReplace k).clusters = t.clusters := by
  cases t <;> rfl

theorem clusters_of_consumeUpdateResult {k : Option K8scluster} {lbs : List LBcluster}
    (hk8s : t.clusters.k8s = some k8s) (h : t.consumeUpdateResult k (some lbs) = .ok t') :
    t'.clusters = ⟨some (k.getD k8s), mergeLoadBalancers t.clusters.loadBalancers
      (lbs.filter (·.targetedK8s = k8s.clusterInfo.name))⟩ := by
  obtain ⟨old, hold, h⟩ := Outcome.bind_eq_ok.mp h
  obtain ⟨t₁, ht₁, h⟩ := Outcome.bind_eq_ok.mp h
  obtain ⟨new, hnew, h⟩ := Outcome.bind_eq_ok.mp h
  cases h
  rw [hk8s] at hold
  cases hold
  have hnew : new = k.getD k8s := by
    unfold consumeK8s at hnew
    cases k with
    | none =>
      cases hnew
      rfl
    | some k =>
      dsimp only at hnew
      split at hnew
      next => cases hnew
      next =>
        cases hnew
        rfl
  rw [clusters_consumeReplace, clusters_replaceClusters, hnew]

theorem consumeUpdateResult_ok {k : Option K8scluster} {lbs : List LBcluster}
    (hk8s : t.clusters.k8s = some k8s) (hk : ∀ k', k = some k' → k'.id = k8s.id)
    (hdelete : t.consumeDelete k8s = .ok t) :
    ∃ t', t.consumeUpdateResult k (some lbs) = .ok t' := by
  unfold consumeUpdateResult
  rw [hk8s, Outcome.deref_some, Outcome.ok_bind, hdelete, Outcome.ok_bind]
  cases k with
  | none => exact ⟨_, rfl⟩
  | some k =>
    rw [consumeK8s, if_neg (not_not.mpr (hk k rfl))]
    exact ⟨_, rfl⟩

end Task

def Delta.Answered (d : Delta) : Prop := ∀ k8s lbs, consumeDeleteDelta k8s lbs d = .ok d

theorem Delta.answered_of_consumeDeleteDelta {d d' : Delta} {k8s : K8scluster}
    {lbs : List LBcluster} (h : consumeDeleteDelta k8s lbs d = .ok d') : d'.Answered := by
  unfold consumeDeleteDelta at h
  split at h
  next =>
    split at h
    next => cases h
    next =>
      split at h <;> cases h <;> exact fun _ _ => rfl
  next =>
    split at h
    next => cases h
    next =>
      split at h
      next => cases h
      next =>
        split at h <;> cases h <;> exact fun _ _ => rfl
  next hk8s hlb =>
    cases h
    intro k8s' lbs'
    unfold consumeDeleteDelta
    split
    next heq => exact absurd rfl (hk8s _ _ _ _)
    next => exact absurd rfl (hlb _ _ _ _ _)
    next => rfl

theorem Delta.Answered.consumeReplaceDelta {d : Delta} (h : d.Answered) (k8s : K8scluster) :
    (consumeReplaceDelta k8s d).Answered := by
  cases d <;> first | exact h | exact fun _ _ => rfl

namespace Task

variable {t t' : Task} {k8s : K8scluster} {us : List UpdateState}

theorem consumeDelete_of_consumeUpdateResult {k : Option K8scluster} {lbs : Option (List LBcluster)}
    (h : t.consumeUpdateResult k lbs = .ok t') (k8s : K8scluster) :
    t'.consumeDelete k8s = .ok t' := by
  obtain ⟨old, -, h⟩ := Outcome.bind_eq_ok.mp h
  obtain ⟨t₁, ht₁, h⟩ := Outcome.bind_eq_ok.mp h
  obtain ⟨new, -, h⟩ := Outcome.bind_eq_ok.mp h
  obtain ⟨updates, -, h⟩ := Outcome.bind_eq_ok.mp h
  cases h
  cases t with
  | create s =>
    cases ht₁
    rfl
  | delete s =>
    cases ht₁
    rfl
  | update s d =>
    obtain ⟨d', hd', ht₁⟩ := Outcome.bind_eq_ok.mp ht₁
    cases ht₁
    have hanswered := (Delta.answered_of_consumeDeleteDelta hd').consumeReplaceDelta new
    simp only [replaceClusters, consumeReplace, consumeDelete]
    rw [hanswered, Outcome.ok_bind]
    rfl

structure LoadBalancersMerged (k8s : K8scluster) (lbs : List LBcluster) (us : List UpdateState)
    (merged : List LBcluster) : Prop where
  distinct : (merged.map (·.id)).Nodup
  last : ∀ id, merged.find? (·.id = id)
    = ((UpdateState.accepted k8s us).reverse.find? (·.id = id)).or (lbs.find? (·.id = id))
  untouched : ∀ (i : Nat) (lb : LBcluster), lbs[i]? = some lb →
    (∀ u ∈ UpdateState.accepted k8s us, u.id ≠ lb.id) → merged[i]? = some lb
  order : merged.map (·.id)
    = lbs.map (·.id)
      ++ (((UpdateState.accepted k8s us).map (·.id)).filter (· ∉ lbs.map (·.id))).eraseDups

theorem loadBalancersMerged {lbs : List LBcluster} (hlbs : (lbs.map (·.id)).Nodup)
    (hus : UpdateState.For k8s us) :
    LoadBalancersMerged k8s lbs us
      ((UpdateState.targeting k8s us).foldl (List.overwrite LBcluster.id) lbs) := by
  have hnodup := UpdateState.nodup_targeting hus
  have hdistinct := List.nodup_keys_foldl_overwrite hlbs hnodup
  have hlast := List.find?_foldl_overwrite hnodup (l := lbs)
  have horder := List.keys_foldl_overwrite hnodup (l := lbs)
  rw [UpdateState.flatten_targeting] at hlast horder
  refine ⟨hdistinct, hlast, fun i lb hlb hno => ?_, horder⟩
  have hfind := hlast lb.id
  have hnone : (UpdateState.accepted k8s us).reverse.find? (fun u => u.id = lb.id) = none := by
    rw [List.find?_key_eq_none, List.map_reverse, List.mem_reverse, List.mem_map]
    rintro ⟨u, hu, hid⟩
    exact hno u hu hid
  rw [hnone, Option.none_or,
    (List.find?_key_eq_some hlbs).mpr ⟨List.mem_of_getElem? hlb, rfl⟩] at hfind
  -- The ids keep their places, and the load balancer with this one is the old one.
  have hid := congrArg (·[i]?) horder
  obtain ⟨hlt, -⟩ := List.getElem?_eq_some_iff.mp hlb
  rw [List.getElem?_append_left (by rwa [List.length_map]), List.getElem?_map, List.getElem?_map,
    hlb, Option.map_some, Option.map_eq_some_iff] at hid
  obtain ⟨lb', hlb', hid⟩ := hid
  have hfind' := (List.find?_key_eq_some hdistinct).mpr ⟨List.mem_of_getElem? hlb', hid⟩
  rw [hfind] at hfind'
  rw [hlb', hfind']

theorem clusters_of_consumeAll {k : K8scluster} (hk8s : t.clusters.k8s = some k)
    (hk : k.Same k8s) (hlbs : (t.clusters.loadBalancers.map (·.id)).Nodup)
    (hus : UpdateState.For k8s us) (h : t.consumeAll us = .ok t') :
    t'.clusters = ⟨some (us.foldl (fun k u => u.k8s.getD k) k),
      (UpdateState.targeting k8s us).foldl (List.overwrite LBcluster.id)
        t.clusters.loadBalancers⟩ := by
  induction us generalizing t k with
  | nil =>
    cases h
    rw [List.foldl_nil, ← hk8s]
    rfl
  | cons u us ih =>
    unfold consumeAll at h
    rw [List.foldlM_cons] at h
    obtain ⟨t₁, ht₁, h⟩ := Outcome.bind_eq_ok.mp h
    have hclusters := clusters_of_consumeUpdateResult hk8s ht₁
    have hu := UpdateState.nodup_targeting hus _ List.mem_cons_self
    rw [hk.1, mergeLoadBalancers_eq_overwrite hlbs hu] at hclusters
    have hk₁ := hk.getD (hus.k8s u List.mem_cons_self)
    rw [ih (congrArg Clusters.k8s hclusters) hk₁ ?_ hus.tail h, hclusters]
    · rfl
    · rw [hclusters]
      exact List.nodup_keys_overwrite hlbs hu

theorem clusters_of_committed (hk8s : t.clusters.k8s = some k8s)
    (hlbs : (t.clusters.loadBalancers.map (·.id)).Nodup) (hus : UpdateState.For k8s us)
    (h : t.consumeResult (UpdateState.commitAll us) = .ok t') :
    t'.clusters = ⟨some (us.foldl (fun k u => u.k8s.getD k) k8s),
      (UpdateState.targeting k8s us).foldl (List.overwrite LBcluster.id)
        t.clusters.loadBalancers⟩ := by
  cases us with
  | nil =>
    cases h
    rw [List.foldl_nil, ← hk8s]
    rfl
  | cons u us =>
    obtain ⟨k, lbs, heq, hcommitted⟩ := UpdateState.commitAll_eq hus
    rw [heq] at h
    rw [clusters_of_consumeUpdateResult hk8s h, hcommitted.getD,
      mergeLoadBalancers_eq_overwrite hlbs hcommitted.distinct, hcommitted.overwrite _ hlbs]

theorem consume_committed_again (hk8s : t.clusters.k8s = some k8s)
    (hlbs : (t.clusters.loadBalancers.map (·.id)).Nodup) (hus : UpdateState.For k8s us)
    (h : t.consumeResult (UpdateState.commitAll us) = .ok t') :
    ∃ t'', t'.consumeResult (UpdateState.commitAll us) = .ok t'' ∧ t''.clusters = t'.clusters := by
  cases us with
  | nil => exact ⟨t', rfl, rfl⟩
  | cons u us =>
    obtain ⟨k, lbs, heq, hcommitted⟩ := UpdateState.commitAll_eq hus
    rw [heq] at h ⊢
    have hclusters := clusters_of_consumeUpdateResult hk8s h
    rw [mergeLoadBalancers_eq_overwrite hlbs hcommitted.distinct] at hclusters
    have hk8s' : t'.clusters.k8s = some (k.getD k8s) := by rw [hclusters]
    obtain ⟨t'', h''⟩ : ∃ t'', t'.consumeUpdateResult k (some lbs) = .ok t'' := by
      refine consumeUpdateResult_ok hk8s' (fun k' hk' => ?_)
        (consumeDelete_of_consumeUpdateResult h _)
      rw [hk', Option.getD_some]
    refine ⟨t'', h'', ?_⟩
    have hname : (k.getD k8s).Same k8s := K8scluster.Same.getD ⟨rfl, rfl⟩ hcommitted.same
    have hgetD : k.getD (k.getD k8s) = k.getD k8s := by cases k <;> rfl
    rw [clusters_of_consumeUpdateResult hk8s' h'', hclusters, hname.1, hgetD,
      mergeLoadBalancers_eq_overwrite (List.nodup_keys_overwrite hlbs hcommitted.distinct)
        hcommitted.distinct, List.overwrite_overwrite_self hlbs hcommitted.distinct]

theorem consume_committed (t : Task) (k8s : K8scluster) (us : List UpdateState) (t₁ t₂ : Task)
    (hk8s : t.clusters.k8s = some k8s) (hlbs : (t.clusters.loadBalancers.map (·.id)).Nodup)
    (hus : UpdateState.For k8s us) (h₁ : t.consumeAll us = .ok t₁)
    (h₂ : t.consumeResult (UpdateState.commitAll us) = .ok t₂) :
    t₂.clusters = t₁.clusters
      ∧ LoadBalancersMerged k8s t.clusters.loadBalancers us t₂.clusters.loadBalancers
      ∧ ∃ t₃, t₂.consumeResult (UpdateState.commitAll us) = .ok t₃ ∧ t₃.clusters = t₂.clusters := by
  have hclusters := clusters_of_committed hk8s hlbs hus h₂
  refine ⟨?_, ?_, consume_committed_again hk8s hlbs hus h₂⟩
  · rw [hclusters, clusters_of_consumeAll hk8s ⟨rfl, rfl⟩ hlbs hus h₁]
  · rw [hclusters]
    exact loadBalancersMerged hlbs hus

namespace Demo

def cluster (kubeconfig : String) : K8scluster :=
  { clusterInfo := ⟨"main", "abcdefg", []⟩, network := "", kubeconfig, kubernetes := ""
    installationProxy := ⟨"off", "", ""⟩ }

def lb (name target : String) (usedApiEndpoint : Bool) : LBcluster :=
  { clusterInfo := ⟨name, "abcdefg", []⟩, roles := [], dns := none, targetedK8s := target
    usedApiEndpoint }

def updates : List UpdateState :=
  [⟨none, [lb "b" "main" false, lb "c" "other" false]⟩,
    ⟨some (cluster "kubeconfig"), [lb "a" "main" true, lb "b" "main" true]⟩]

def before : Task := .create ⟨some (cluster ""), [lb "a" "main" false]⟩

def after : Task := .create ⟨some (cluster "kubeconfig"), [lb "a" "main" true, lb "b" "main" true]⟩

theorem updates_for : UpdateState.For (cluster "") updates := by
  refine ⟨?_, by decide, by decide⟩
  intro u hu k hk
  rcases List.mem_cons.mp hu with rfl | hu
  · cases hk
  · rw [List.mem_singleton.mp hu] at hk
    cases hk
    exact ⟨rfl, rfl⟩

end Demo

theorem consume_committed_two_updates :
    Demo.after.clusters = Demo.after.clusters
      ∧ LoadBalancersMerged (Demo.cluster "") Demo.before.clusters.loadBalancers Demo.updates
        Demo.after.clusters.loadBalancers
      ∧ ∃ t, Demo.after.consumeResult (UpdateState.commitAll Demo.updates) = .ok t
        ∧ t.clusters = Demo.after.clusters :=
  consume_committed Demo.before (Demo.cluster "") Demo.updates Demo.after Demo.after rfl
    (by decide) Demo.updates_for rfl rfl

end Task

end Claudie
