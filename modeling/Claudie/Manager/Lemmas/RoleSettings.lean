import Claudie.Ansibler.ReconcileLoadBalancers
import Claudie.Manager.Schedule.LoadBalancers

/-!
The refreshes of the settings of the roles of one load balancer, as steps on its list of roles. The
ansibler writes the internal settings to all roles of a name, the terraformer the external ones to
the first role of the name only.
-/

namespace Claudie

namespace Manager

def counterpart (desired : List Role) (o : Role) : Option Role := desired.find? (·.name = o.name)

def internalDiffers (desired : List Role) (o : Role) : Bool :=
  (counterpart desired o).any (fun n => o.targetPort ≠ n.targetPort || o.settings ≠ n.settings)

def externalDiffers (desired : List Role) (o : Role) : Bool :=
  (counterpart desired o).any (fun n => o.port ≠ n.port || o.protocol ≠ n.protocol)

def portRoleType (port : Int) : RoleType := if port = apiServerPort then .apiServer else .ingress

def replaceExternalSettings (n : Role) (r : Role) : Role :=
  { r with port := n.port, protocol := n.protocol, roleType := portRoleType n.port }

inductive RoleStep (desired roles : List Role) : List Role → Prop where
  | internal {o n : Role} (ho : o ∈ roles) (hn : counterpart desired o = some n)
    (hdiffers : internalDiffers desired o = true) :
    RoleStep desired roles
      (roles.map (Ansibler.replaceInternalSettings n.name n.targetPort n.settings))
  | external {o n : Role} (ho : o ∈ roles) (hn : counterpart desired o = some n)
    (hdiffers : externalDiffers desired o = true) :
    RoleStep desired roles (roles.modifyFirst (·.name = n.name) (replaceExternalSettings n))

section counterpart

variable {desired roles : List Role} {o o' n : Role} {x : String}

theorem counterpart_congr (h : o.name = o'.name) :
    counterpart desired o = counterpart desired o' := by
  unfold counterpart
  rw [h]

theorem counterpart_name (h : counterpart desired o = some n) : n.name = o.name := by
  simpa using List.find?_some h

theorem counterpart_mem (h : counterpart desired o = some n) : n ∈ desired :=
  List.mem_of_find?_eq_some h

theorem exists_counterpart {d : Role} (hd : d ∈ desired) (h : d.name = o.name) :
    ∃ n, counterpart desired o = some n := by
  rw [← Option.isSome_iff_exists, counterpart, List.find?_isSome]
  exact ⟨d, hd, by simpa using h⟩

theorem internalDiffers_of_counterpart (h : counterpart desired o = some n) :
    internalDiffers desired o = false ↔ o.targetPort = n.targetPort ∧ o.settings = n.settings := by
  rw [internalDiffers, h]
  simp

theorem externalDiffers_of_counterpart (h : counterpart desired o = some n) :
    externalDiffers desired o = false ↔ o.port = n.port ∧ o.protocol = n.protocol := by
  rw [externalDiffers, h]
  simp

theorem externalDiffers_congr (hname : o.name = o'.name) (hport : o.port = o'.port)
    (hprotocol : o.protocol = o'.protocol) :
    externalDiffers desired o = externalDiffers desired o' := by
  simp only [externalDiffers, counterpart_congr hname, hport, hprotocol]

theorem mem_internalSettingsChanged :
    x ∈ (rolesDiff roles desired).internalSettingsChanged
      ↔ ∃ o ∈ roles, ∃ n, counterpart desired o = some n ∧ n.name = x
        ∧ internalDiffers desired o = true := by
  simp only [rolesDiff, List.mem_map, List.mem_filter, List.mem_filterMap, Option.map_eq_some_iff]
  constructor
  · rintro ⟨_, ⟨⟨o, ho, n, hn, rfl⟩, hdiffers⟩, rfl⟩
    refine ⟨o, ho, n, hn, rfl, ?_⟩
    rw [internalDiffers, show counterpart desired o = some n from hn]
    exact hdiffers
  · rintro ⟨o, ho, n, hn, rfl, hdiffers⟩
    rw [internalDiffers, hn] at hdiffers
    exact ⟨(o, n), ⟨⟨o, ho, n, hn, rfl⟩, hdiffers⟩, rfl⟩

theorem mem_externalSettingsChanged :
    x ∈ (rolesDiff roles desired).externalSettingsChanged
      ↔ ∃ o ∈ roles, ∃ n, counterpart desired o = some n ∧ n.name = x
        ∧ externalDiffers desired o = true := by
  simp only [rolesDiff, List.mem_map, List.mem_filter, List.mem_filterMap, Option.map_eq_some_iff]
  constructor
  · rintro ⟨_, ⟨⟨o, ho, n, hn, rfl⟩, hdiffers⟩, rfl⟩
    refine ⟨o, ho, n, hn, rfl, ?_⟩
    rw [externalDiffers, show counterpart desired o = some n from hn]
    exact hdiffers
  · rintro ⟨o, ho, n, hn, rfl, hdiffers⟩
    rw [externalDiffers, hn] at hdiffers
    exact ⟨(o, n), ⟨⟨o, ho, n, hn, rfl⟩, hdiffers⟩, rfl⟩

end counterpart

section replaced

variable {desired roles : List Role} {o n : Role}

theorem replaceInternalSettings_name (x : String) (p : Int) (s : RoleSettings) (o : Role) :
    (Ansibler.replaceInternalSettings x p s o).name = o.name := by
  unfold Ansibler.replaceInternalSettings
  split <;> rfl

theorem externalDiffers_replaceInternalSettings (x : String) (p : Int) (s : RoleSettings)
    (o : Role) :
    externalDiffers desired (Ansibler.replaceInternalSettings x p s o)
      = externalDiffers desired o := by
  unfold Ansibler.replaceInternalSettings
  split <;> rfl

theorem internalDiffers_replaceInternalSettings
    (hfirst : desired.find? (·.name = n.name) = some n) :
    internalDiffers desired (Ansibler.replaceInternalSettings n.name n.targetPort n.settings o)
      = if o.name = n.name then false else internalDiffers desired o := by
  unfold Ansibler.replaceInternalSettings
  split
  next hname =>
    refine (internalDiffers_of_counterpart (n := n) ?_).mpr ⟨rfl, rfl⟩
    rw [counterpart, hname]
    exact hfirst
  next => rfl

theorem counterpart_self (h : counterpart desired o = some n) :
    desired.find? (·.name = n.name) = some n := by
  rw [counterpart_name h]
  exact h

theorem externalDiffers_replaceExternalSettings (hfirst : desired.find? (·.name = n.name) = some n)
    (hname : o.name = n.name) :
    externalDiffers desired (replaceExternalSettings n o) = false := by
  refine (externalDiffers_of_counterpart (n := n) ?_).mpr ⟨rfl, rfl⟩
  rw [counterpart, show (replaceExternalSettings n o).name = n.name from hname]
  exact hfirst

end replaced

def LaterAgree (desired roles : List Role) : Prop :=
  roles.Pairwise (fun o o' => o.name = o'.name → externalDiffers desired o' = false)

def unsettled (desired roles : List Role) : Nat :=
  roles.countP (internalDiffers desired) + roles.countP (externalDiffers desired)

inductive RoleTracked (desired : List Role) (o o' : Role) : Prop where
  | kept (name : o'.name = o.name) (port : o'.port = o.port) (protocol : o'.protocol = o.protocol)
    (roleType : o'.roleType = o.roleType)
  | replaced {n : Role} (name : o'.name = o.name) (differs : externalDiffers desired o = true)
    (found : counterpart desired o = some n) (port : o'.port = n.port)
    (protocol : o'.protocol = n.protocol) (roleType : o'.roleType = portRoleType n.port)

namespace RoleTracked

variable {desired : List Role} {o o' o'' : Role}

theorem refl (desired : List Role) (o : Role) : RoleTracked desired o o := .kept rfl rfl rfl rfl

theorem name_eq (h : RoleTracked desired o o') : o'.name = o.name := by
  cases h with
  | kept name => exact name
  | replaced name => exact name

theorem trans (h : RoleTracked desired o o') (h' : RoleTracked desired o' o'') :
    RoleTracked desired o o'' := by
  cases h' with
  | kept name port protocol roleType =>
    cases h with
    | kept name' port' protocol' roleType' =>
      exact .kept (name.trans name') (port.trans port') (protocol.trans protocol')
        (roleType.trans roleType')
    | replaced name' differs found port' protocol' roleType' =>
      exact .replaced (name.trans name') differs found (port.trans port') (protocol.trans protocol')
        (roleType.trans roleType')
  | replaced name differs found port protocol roleType =>
    have hname := h.name_eq
    rw [counterpart_congr hname] at found
    refine .replaced (name.trans hname) ?_ found port protocol roleType
    cases h with
    | kept _ port' protocol' => rwa [← externalDiffers_congr hname port' protocol']
    | replaced _ differs' => exact differs'

theorem roleType_of_agrees {n : Role} (h : RoleTracked desired o o')
    (hn : counterpart desired o = some n) (hagrees : externalDiffers desired o' = false) :
    o'.roleType = if externalDiffers desired o then portRoleType n.port else o.roleType := by
  cases h with
  | kept name port protocol roleType =>
    rw [externalDiffers_congr name port protocol] at hagrees
    rw [hagrees, roleType]
    rfl
  | replaced name differs found port protocol roleType =>
    rw [hn] at found
    cases found
    rw [differs, roleType]
    rfl

end RoleTracked

namespace RoleStep

variable {desired roles roles' : List Role}

theorem laterAgree_iff (h : RoleStep desired roles roles') :
    LaterAgree desired roles' ↔ LaterAgree desired roles := by
  cases h with
  | internal ho hn hdiffers =>
    rw [LaterAgree, List.pairwise_map]
    simp only [replaceInternalSettings_name, externalDiffers_replaceInternalSettings]
    rfl
  | @external o n ho hn hdiffers =>
    cases hfind : roles.find? (·.name = n.name) with
    | none => rw [List.modifyFirst_of_find?_eq_none hfind]
    | some r =>
      have hr : r.name = n.name := by simpa using List.find?_some hfind
      obtain ⟨l₁, l₂, hroles, hmodified, hl₁⟩ :=
        List.exists_modifyFirst_eq (replaceExternalSettings n) hfind
      rw [hmodified, hroles]
      simp only [LaterAgree, List.pairwise_append, List.pairwise_cons, List.forall_mem_cons]
      -- no role before the first one of the name has it.
      have hbefore : ∀ a ∈ l₁, a.name ≠ r.name := by
        intro a ha
        simpa [hr] using hl₁ a ha
      refine and_congr_right (fun _ => and_congr Iff.rfl (forall₂_congr (fun a ha => ?_)))
      exact and_congr_left (fun _ => ⟨fun _ hname => absurd hname (hbefore a ha),
        fun _ hname => absurd hname (hbefore a ha)⟩)

theorem first_differs (hlater : LaterAgree desired roles) {o r n : Role} (ho : o ∈ roles)
    (hn : counterpart desired o = some n) (hdiffers : externalDiffers desired o = true)
    (hfind : roles.find? (·.name = n.name) = some r) : externalDiffers desired r = true := by
  obtain ⟨hr, l₁, l₂, rfl, hl₁⟩ := List.find?_eq_some_iff_append.mp hfind
  have hname := counterpart_name hn
  rcases List.mem_append.mp ho with ho | ho
  · have := hl₁ o ho
    simp [hname] at this
  · rcases List.mem_cons.mp ho with rfl | ho
    · exact hdiffers
    · have hpair := (List.pairwise_cons.mp (List.pairwise_append.mp hlater).2.1).1 o ho
      rw [hpair (by simpa [hname] using hr)] at hdiffers
      cases hdiffers

theorem exists_first {o n : Role} (ho : o ∈ roles) (hn : counterpart desired o = some n) :
    ∃ r, roles.find? (·.name = n.name) = some r := by
  rw [← Option.isSome_iff_exists, List.find?_isSome]
  exact ⟨o, ho, by simpa using (counterpart_name hn).symm⟩

theorem unsettled_lt (hlater : LaterAgree desired roles) (h : RoleStep desired roles roles') :
    unsettled desired roles' < unsettled desired roles := by
  unfold unsettled
  cases h with
  | @internal o n ho hn hdiffers =>
    have hfirst := counterpart_self hn
    have hexternal : ∀ l : List Role,
        (l.map (Ansibler.replaceInternalSettings n.name n.targetPort n.settings)).countP
          (externalDiffers desired) = l.countP (externalDiffers desired) := by
      intro l
      rw [List.countP_map]
      exact congrArg (l.countP ·) (funext fun o => externalDiffers_replaceInternalSettings _ _ _ o)
    have hinternal : (roles.map (Ansibler.replaceInternalSettings n.name n.targetPort
        n.settings)).countP (internalDiffers desired) < roles.countP (internalDiffers desired) := by
      rw [List.countP_map]
      refine List.countP_lt_countP ?_ ho ?_ hdiffers
      · intro r _ hr
        rw [Function.comp_apply, internalDiffers_replaceInternalSettings hfirst] at hr
        split at hr
        next => cases hr
        next => exact hr
      · rw [Function.comp_apply, internalDiffers_replaceInternalSettings hfirst,
          if_pos (counterpart_name hn).symm]
    rw [hexternal]
    omega
  | @external o n ho hn hdiffers =>
    obtain ⟨r, hfind⟩ := exists_first ho hn
    have hr : r.name = n.name := by simpa using List.find?_some hfind
    have hinternal := List.countP_modifyFirst (q := internalDiffers desired)
      (f := replaceExternalSettings n) hfind
    have hexternal := List.countP_modifyFirst (q := externalDiffers desired)
      (f := replaceExternalSettings n) hfind
    rw [show internalDiffers desired (replaceExternalSettings n r) = internalDiffers desired r
      from rfl] at hinternal
    rw [first_differs hlater ho hn hdiffers hfind,
      externalDiffers_replaceExternalSettings (counterpart_self hn) hr] at hexternal
    simp only [if_true, Bool.false_eq_true, if_false] at hexternal
    omega

theorem tracked (hlater : LaterAgree desired roles) (h : RoleStep desired roles roles') :
    List.Forall₂ (RoleTracked desired) roles roles' := by
  cases h with
  | @internal o n ho hn hdiffers =>
    rw [List.forall₂_map_right_iff, List.forall₂_same]
    intro r _
    unfold Ansibler.replaceInternalSettings
    split
    next => exact .kept rfl rfl rfl rfl
    next => exact .refl desired r
  | @external o n ho hn hdiffers =>
    obtain ⟨r, hfind⟩ := exists_first ho hn
    have hr : r.name = n.name := by simpa using List.find?_some hfind
    have hdiffers' := first_differs hlater ho hn hdiffers hfind
    obtain ⟨l₁, l₂, hroles, hmodified, -⟩ :=
      List.exists_modifyFirst_eq (replaceExternalSettings n) hfind
    have hcounterpart : counterpart desired r = some n := by
      rw [counterpart, hr]
      exact counterpart_self hn
    rw [hmodified, hroles]
    exact List.rel_append (List.forall₂_same.mpr fun r _ => .refl desired r)
      (.cons (.replaced rfl hdiffers' hcounterpart rfl rfl rfl)
        (List.forall₂_same.mpr fun r _ => .refl desired r))

end RoleStep

end Manager

end Claudie
