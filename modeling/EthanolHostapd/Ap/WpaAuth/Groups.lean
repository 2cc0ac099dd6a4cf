import EthanolHostapd.Containers.KeyedList
import EthanolHostapd.Traces.Run
import Mathlib.Data.Int.Notation
import Mathlib.Logic.Function.Basic

/-!
# The group key machines of an authenticator

There is one group key machine for each VLAN (`struct wpa_group`, `ap/wpa_auth.c`).  The first one is made with the
authenticator and stays; the others are found by walking a list, are made when they are missing, and
count who uses them: the stations that are attached to them and the interfaces of their VLAN.

`Accounted` is the invariant of the counters.  It holds with a correction between the steps of an
operation, when a reference has been taken for a user that is not there yet, or not yet given back.
-/

namespace Ethanol

/-- The address of a group. -/
abbrev GroupId := ℕ

/-- `struct wpa_group`, as far as its use is concerned. -/
structure WpaGroup where
  vlanId : ℤ
  references : ℤ := 0
  numSetupIface : ℤ := 0
  /-- `wpa_group_state` is `WPA_GROUP_FATAL_FAILURE`. -/
  fatalFailure : Bool := false
  /-- The memory was given back; the fields keep their last values. -/
  freed : Bool := false
  deriving DecidableEq

/-- `struct wpa_authenticator` with its groups and its stations' machines. -/
structure WpaGroups where
  /-- The first group, and those that follow it in the list. -/
  group : GroupId
  next : List GroupId
  heap : GroupId → Option WpaGroup
  /-- The address of the next group that is made. -/
  allocated : GroupId
  /-- The machines of stations, with the group of each. -/
  stations : List (ℕ × GroupId)
  created : ℕ

namespace WpaGroups

/-- The authenticator after `wpa_init`. -/
def init : WpaGroups where
  group := 0
  next := []
  heap g := if g = 0 then some { vlanId := 0 } else none
  allocated := 1
  stations := []
  created := 0

variable (s : WpaGroups)

/-- A group is read through its address; there is nothing to read if it was freed. -/
def deref (g : GroupId) : Option WpaGroup := (s.heap g).filter fun grp => !grp.freed

/-- A group is written. -/
def write (g : GroupId) (grp : WpaGroup) : WpaGroups :=
  { s with heap := Function.update s.heap g (some grp) }

/-- The loop of `wpa_group_free`: the groups after `prev` without the one that is freed, if it is among
them. -/
def unlink (g : GroupId) : List GroupId → Option (List GroupId)
  | [] => none
  | next :: rest => if next = g then some rest else (unlink g rest).map (next :: ·)

/-- `wpa_group_free`. -/
def groupFree (g : GroupId) (grp : WpaGroup) : WpaGroups :=
  match unlink g s.next with
  | none => s
  | some rest => { s.write g { grp with freed := true } with next := rest }

/-- `wpa_group_get`; the special first group is skipped. -/
def groupGet (g : GroupId) : Option WpaGroups :=
  if s.group = g then some s
  else do
    let grp ← s.deref g
    some (s.write g { grp with references := grp.references + 1 })

/-- `wpa_group_put`. -/
def groupPut (g : GroupId) : Option WpaGroups :=
  if s.group = g then some s
  else do
    let grp ← s.deref g
    let grp := { grp with references := grp.references - 1 }
    let s := s.write g grp
    if grp.references ≠ 0 then some s else some (s.groupFree g grp)

/-- The walk to the group of a VLAN. -/
def findGroup (vlanId : ℤ) : List GroupId → Option (Option GroupId)
  | [] => some none
  | g :: rest => do
    let grp ← s.deref g
    if grp.vlanId = vlanId then some (some g) else findGroup vlanId rest

/-- `wpa_auth_add_group`.  The machine of the new group may fail at once; there may be no memory or no
random numbers for it. -/
def addGroup (vlanId : ℤ) : Option Bool → Option (WpaGroups × GroupId)
  | none => none
  | some fatalFailure =>
    some ({ s.write s.allocated { vlanId, fatalFailure } with
      next := s.allocated :: s.next
      allocated := s.allocated + 1 }, s.allocated)

/-- The group of a VLAN, which is made if it is missing; `some none` if it cannot be made. -/
def lookupGroup (vlanId : ℤ) (groupInit : Option Bool) : Option (Option (WpaGroups × GroupId)) := do
  match ← s.findGroup vlanId (s.group :: s.next) with
  | some g => some (some (s, g))
  | none => some (s.addGroup vlanId groupInit)

/-- `wpa_auth_sta_init`. -/
def staInit (outOfMemory : Bool) : Option WpaGroups := do
  let grp ← s.deref s.group
  if grp.fatalFailure ∨ outOfMemory then some s
  else
    let s' := { s with stations := (s.created, s.group) :: s.stations, created := s.created + 1 }
    s'.groupGet s.group

/-- The group of a station's machine. -/
def groupOf (sta : ℕ) : Option GroupId := (KeyedList.find Prod.fst sta s.stations).map Prod.snd

/-- `wpa_free_sta_sm`. -/
def freeStaSm (sta : ℕ) : Option WpaGroups := do
  let g ← s.groupOf sta
  let s' ← s.groupPut g
  some { s' with stations := KeyedList.remove Prod.fst sta s.stations }

/-- `wpa_auth_ensure_group`. -/
def ensureGroup (vlanId : ℤ) (groupInit : Option Bool) : Option (WpaGroups × ℤ) := do
  match ← s.lookupGroup vlanId groupInit with
  | none => some (s, -1)
  | some (s, g) =>
    let s ← s.groupGet g
    let grp ← s.deref g
    let s := s.write g { grp with numSetupIface := grp.numSetupIface + 1 }
    if grp.fatalFailure then some (s, -1) else some (s, 0)

/-- `wpa_auth_release_group`. -/
def releaseGroup (vlanId : ℤ) : Option (WpaGroups × ℤ) := do
  match ← s.findGroup vlanId (s.group :: s.next) with
  | none => some (s, -1)
  | some g =>
    let grp ← s.deref g
    if grp.numSetupIface ≤ 0 then some (s, -1)
    else
      let s := s.write g { grp with numSetupIface := grp.numSetupIface - 1 }
      let s ← s.groupPut g
      some (s, if 1 < grp.references then -2 else if grp.fatalFailure then -1 else 0)

/-- `wpa_auth_sta_set_vlan`. -/
def staSetVlan (sta : ℕ) (vlanId : ℤ) (groupInit : Option Bool) : Option (WpaGroups × ℤ) := do
  let old ← s.groupOf sta
  match ← s.lookupGroup vlanId groupInit with
  | none => some (s, -1)
  | some (s, g) =>
    if old = g then some (s, 0)
    else
      let grp ← s.deref g
      if grp.fatalFailure then some (s, -1)
      else
        let s' ← s.groupGet g
        let s' ← s'.groupPut old
        some ({ s' with
          stations := KeyedList.assign Prod.fst sta (fun sm => (sm.1, g)) s.stations }, 0)

/-- A group key machine fails for good. -/
def groupFails (g : GroupId) : Option WpaGroups := do
  let grp ← s.deref g
  some (s.write g { grp with fatalFailure := true })

end WpaGroups

/-- An operation on the groups. -/
inductive GroupsOp
  | staInit (outOfMemory : Bool)
  | freeStaSm (sta : ℕ)
  | staSetVlan (sta : ℕ) (vlanId : ℤ) (groupInit : Option Bool)
  | ensureGroup (vlanId : ℤ) (groupInit : Option Bool)
  | releaseGroup (vlanId : ℤ)
  | groupFails (g : GroupId)

namespace WpaGroups

/-- The authenticator after an operation. -/
def nextGroups (s : WpaGroups) : GroupsOp → Option WpaGroups
  | .staInit outOfMemory => s.staInit outOfMemory
  | .freeStaSm sta => s.freeStaSm sta
  | .staSetVlan sta vlanId groupInit => (s.staSetVlan sta vlanId groupInit).map Prod.fst
  | .ensureGroup vlanId groupInit => (s.ensureGroup vlanId groupInit).map Prod.fst
  | .releaseGroup vlanId => (s.releaseGroup vlanId).map Prod.fst
  | .groupFails g => s.groupFails g

/-- What an operation is called on exists: a station's machine, or a group whose machine is running. -/
def Possible (s : WpaGroups) : GroupsOp → Prop
  | .freeStaSm sta | .staSetVlan sta _ _ => (s.groupOf sta).isSome = true
  | .groupFails g => (s.deref g).isSome = true
  | _ => True

/-! ## Users of a group -/

variable (s : WpaGroups)

/-- The number of stations that are attached to a group. -/
def attached (g : GroupId) : ℤ := s.stations.countP fun sm => sm.2 = g

/-- `num_setup_iface` of a group. -/
def numSetupIface (g : GroupId) : ℤ := ((s.heap g).map WpaGroup.numSetupIface).getD 0

/-- The number of users of a group. -/
def users (g : GroupId) : ℤ := s.attached g + s.numSetupIface g

/-- The groups that can be reached through the list. -/
def listed : List GroupId := s.group :: s.next

/-- The invariant, where `e g` references of the group `g` have no user. -/
structure Accounted (e : GroupId → ℤ) (s : WpaGroups) : Prop where
  references : ∀ {g grp}, s.deref g = some grp → g ≠ s.group → grp.references = s.users g + e g
  setups : ∀ {g grp}, s.deref g = some grp → 0 ≤ grp.numSetupIface
  stations : ∀ sm ∈ s.stations, sm.2 ∈ s.listed
  live : ∀ {g}, (s.deref g).isSome = true ↔ g ∈ s.listed
  nodup : s.listed.Nodup
  fresh : ∀ {g}, s.allocated ≤ g → s.heap g = none
  created : ∀ sm ∈ s.stations, sm.1 < s.created
  distinct : (s.stations.map Prod.fst).Nodup

variable {s} {s' : WpaGroups} {e e' : GroupId → ℤ} {g g' : GroupId} {grp : WpaGroup}

lemma heap_of_deref (h : s.deref g = some grp) : s.heap g = some grp ∧ grp.freed = false := by
  unfold deref at h
  obtain ⟨hheap, hfreed⟩ := Option.filter_eq_some_iff.mp h
  exact ⟨hheap, by simpa using hfreed⟩

lemma deref_write_self (s : WpaGroups) (g : GroupId) (grp : WpaGroup) :
    (s.write g grp).deref g = if grp.freed then none else some grp := by
  cases hfreed : grp.freed <;> simp [deref, write, hfreed]

lemma deref_write_of_ne (s : WpaGroups) (grp : WpaGroup) (h : g' ≠ g) :
    (s.write g grp).deref g' = s.deref g' := by
  simp [deref, write, h]

lemma users_write_of_ne (s : WpaGroups) (grp : WpaGroup) (h : g' ≠ g) :
    (s.write g grp).users g' = s.users g' := by
  simp [users, attached, numSetupIface, write, h]

lemma users_write_self (s : WpaGroups) (g : GroupId) (grp : WpaGroup) :
    (s.write g grp).users g = s.attached g + grp.numSetupIface := by
  simp [users, attached, numSetupIface, write]

lemma users_of_deref (h : s.deref g = some grp) : s.users g = s.attached g + grp.numSetupIface := by
  rw [users, numSetupIface, (heap_of_deref h).1]
  rfl

lemma attached_nonneg (s : WpaGroups) (g : GroupId) : 0 ≤ s.attached g := Int.natCast_nonneg _

/-- Nobody is attached to a group without users. -/
lemma not_attached_of_users (hnum : 0 ≤ s.numSetupIface g) (h : s.users g = 0) :
    ∀ sm ∈ s.stations, sm.2 ≠ g := by
  have hattached : s.attached g = 0 := by
    have := s.attached_nonneg g
    unfold users at h
    omega
  have hcount : s.stations.countP (fun sm => sm.2 = g) = 0 := by
    unfold attached at hattached
    exact_mod_cast hattached
  intro sm hmem heq
  rw [List.countP_eq_zero] at hcount
  exact hcount sm hmem (by simpa using heq)

namespace Accounted

/-- A group is there if it is listed. -/
lemma deref (h : Accounted e s) (hg : g ∈ s.listed) : ∃ grp, s.deref g = some grp :=
  Option.isSome_iff_exists.mp (h.live.mpr hg)

/-- A group that is not the first one is written, in a way that does not free it. -/
lemma write (h : Accounted e s) (hg : g ∈ s.listed) (hfreed : grp.freed = false)
    (hsetups : 0 ≤ grp.numSetupIface)
    (hreferences : g ≠ s.group → grp.references = s.attached g + grp.numSetupIface + e' g)
    (hother : ∀ g' ≠ g, e' g' = e g') : Accounted e' (s.write g grp) := by
  have hself : (s.write g grp).deref g = some grp := by simp [deref_write_self, hfreed]
  constructor
  · intro g' grp' hderef hne
    by_cases heq : g' = g
    · subst heq
      obtain rfl : grp = grp' := Option.some.inj (hself.symm.trans hderef)
      rw [users_write_self]
      exact hreferences hne
    · rw [deref_write_of_ne s grp heq] at hderef
      rw [users_write_of_ne s grp heq, hother g' heq]
      exact h.references hderef hne
  · intro g' grp' hderef
    by_cases heq : g' = g
    · subst heq
      obtain rfl : grp = grp' := Option.some.inj (hself.symm.trans hderef)
      exact hsetups
    · rw [deref_write_of_ne s grp heq] at hderef
      exact h.setups hderef
  · exact h.stations
  · intro g'
    by_cases heq : g' = g
    · subst heq
      rw [hself]
      exact iff_of_true rfl hg
    · rw [deref_write_of_ne s grp heq]
      exact h.live
  · exact h.nodup
  · intro g' hle
    have hne : g' ≠ g := by
      rintro rfl
      obtain ⟨grp', hderef⟩ := h.deref hg
      have hnone := h.fresh hle
      rw [(heap_of_deref hderef).1] at hnone
      exact absurd hnone (by simp)
    simp only [WpaGroups.write, Function.update_of_ne hne]
    exact h.fresh hle
  · exact h.created
  · exact h.distinct

/-- A reference is taken. -/
lemma groupGet (e' : GroupId → ℤ) (h : Accounted e s) (hg : g ∈ s.listed)
    (hself : g ≠ s.group → e' g = e g + 1) (hother : ∀ g' ≠ g, e' g' = e g') :
    ∃ s', s.groupGet g = some s' ∧ Accounted e' s' ∧ (∀ g', s'.users g' = s.users g') ∧
      ∀ g', (s'.deref g').isSome = (s.deref g').isSome := by
  unfold WpaGroups.groupGet
  by_cases hfirst : s.group = g
  · rw [if_pos hfirst]
    refine ⟨s, rfl, ⟨?_, h.setups, h.stations, h.live, h.nodup, h.fresh, h.created, h.distinct⟩,
      fun _ => rfl, fun _ => rfl⟩
    intro g' grp hderef hne
    rw [hother g' fun heq => hne (heq.trans hfirst.symm)]
    exact h.references hderef hne
  rw [if_neg hfirst]
  obtain ⟨grp, hderef⟩ := h.deref hg
  obtain ⟨hheap, hfreed⟩ := heap_of_deref hderef
  have hne : g ≠ s.group := fun heq => hfirst heq.symm
  have hrefs := h.references hderef hne
  rw [users_of_deref hderef] at hrefs
  rw [hderef]
  refine ⟨_, rfl, ?_, ?_, ?_⟩
  · have hsetups : 0 ≤ grp.numSetupIface := h.setups hderef
    refine h.write hg hfreed hsetups (fun _ => ?_) hother
    have hself := hself hne
    dsimp only
    omega
  · intro g'
    by_cases heq : g' = g
    · subst heq
      rw [users_write_self, users_of_deref hderef]
    · exact users_write_of_ne s _ heq
  · intro g'
    by_cases heq : g' = g
    · subst heq
      rw [deref_write_self, hderef]
      simp [hfreed]
    · rw [deref_write_of_ne s _ heq]

/-- The loop of `wpa_group_free` finds a group that is in the list. -/
lemma unlink_eq {l : List GroupId} (hg : g ∈ l) : unlink g l = some (l.erase g) := by
  induction l with
  | nil => exact absurd hg List.not_mem_nil
  | cons g' l ih =>
    unfold unlink
    by_cases heq : g' = g
    · subst heq
      simp
    · have hmem : g ∈ l := by
        rcases List.mem_cons.mp hg with rfl | hmem
        · exact absurd rfl heq
        · exact hmem
      rw [if_neg heq, ih hmem, Option.map_some, List.erase_cons_tail (by simpa using heq)]

/-- A group that nobody uses is freed. -/
lemma groupFree (h : Accounted e s) (hg : g ∈ s.next) (hderef : s.deref g = some grp)
    (husers : s.users g = 0) :
    Accounted e (s.groupFree g grp) ∧ (∀ g', (s.groupFree g grp).users g' = s.users g') ∧
      ∀ g', (s.groupFree g grp).deref g' = if g' = g then none else s.deref g' := by
  have hunlink : s.groupFree g grp =
      { s.write g { grp with freed := true } with next := s.next.erase g } := by
    rw [WpaGroups.groupFree, unlink_eq hg]
  have hself : (s.groupFree g grp).deref g = none := by
    rw [hunlink]
    exact (deref_write_self s g _).trans (by simp)
  have hother : ∀ g' ≠ g, (s.groupFree g grp).deref g' = s.deref g' := by
    intro g' hne
    rw [hunlink]
    exact deref_write_of_ne s _ hne
  have husers' : ∀ g', (s.groupFree g grp).users g' = s.users g' := by
    intro g'
    rw [hunlink]
    by_cases heq : g' = g
    · subst heq
      exact (users_write_self s g' _).trans (users_of_deref hderef).symm
    · exact users_write_of_ne s _ heq
  have hnodup := List.nodup_cons.mp h.nodup
  have hlisted : ∀ g', g' ∈ (s.groupFree g grp).listed ↔ g' ≠ g ∧ g' ∈ s.listed := by
    intro g'
    rw [hunlink]
    change g' ∈ s.group :: s.next.erase g ↔ g' ≠ g ∧ g' ∈ s.group :: s.next
    rw [List.mem_cons, List.mem_cons, hnodup.2.mem_erase_iff]
    have hfirst : s.group ≠ g := fun heq => hnodup.1 (heq ▸ hg)
    constructor
    · rintro (rfl | ⟨hne, hmem⟩)
      · exact ⟨hfirst, Or.inl rfl⟩
      · exact ⟨hne, Or.inr hmem⟩
    · rintro ⟨hne, hfirst | hmem⟩
      · exact Or.inl hfirst
      · exact Or.inr ⟨hne, hmem⟩
  have hgroup : (s.groupFree g grp).group = s.group := by rw [hunlink]; rfl
  have hstations : (s.groupFree g grp).stations = s.stations := by rw [hunlink]; rfl
  refine ⟨?_, husers', ?_⟩
  · constructor
    · intro g' grp' hderef' hne
      have hg' : g' ≠ g := by
        rintro rfl
        exact absurd (hself.symm.trans hderef') (by simp)
      rw [hother g' hg'] at hderef'
      rw [husers', h.references hderef' (hgroup ▸ hne)]
    · intro g' grp' hderef'
      have hg' : g' ≠ g := by
        rintro rfl
        exact absurd (hself.symm.trans hderef') (by simp)
      rw [hother g' hg'] at hderef'
      exact h.setups hderef'
    · intro sm hmem
      rw [hstations] at hmem
      have hnum : 0 ≤ s.numSetupIface g := by
        rw [WpaGroups.numSetupIface, (heap_of_deref hderef).1]
        exact h.setups hderef
      exact (hlisted sm.2).mpr ⟨not_attached_of_users hnum husers sm hmem, h.stations sm hmem⟩
    · intro g'
      rw [hlisted]
      by_cases heq : g' = g
      · subst heq
        rw [hself]
        simp
      · rw [hother g' heq, h.live]
        simp [heq]
    · rw [hunlink]
      exact List.nodup_cons.mpr ⟨fun hmem => hnodup.1 (List.mem_of_mem_erase hmem), hnodup.2.erase g⟩
    · intro g' hle
      have hheap : s.heap g' = none := by
        rw [hunlink] at hle
        exact h.fresh hle
      have hne : g' ≠ g := by
        rintro rfl
        rw [(heap_of_deref hderef).1] at hheap
        exact absurd hheap (by simp)
      rw [hunlink]
      simp only [WpaGroups.write, Function.update_of_ne hne, hheap]
    · rw [hunlink]
      exact h.created
    · rw [hunlink]
      exact h.distinct
  · intro g'
    by_cases heq : g' = g
    · subst heq
      rw [hself, if_pos rfl]
    · rw [hother g' heq, if_neg heq]

/-- A reference is given back; the group is freed if there is no user left. -/
lemma groupPut (e' : GroupId → ℤ) (h : Accounted e s) (hg : g ∈ s.listed)
    (hself : g ≠ s.group → e g = 1) (hself' : g ≠ s.group → e' g = 0) (hother : ∀ g' ≠ g, e' g' = e g') :
    ∃ s', s.groupPut g = some s' ∧ Accounted e' s' ∧ (∀ g', s'.users g' = s.users g') ∧
      ∀ g', (s'.deref g').isSome = true ↔
        (s.deref g').isSome = true ∧ ¬ (g' = g ∧ g ≠ s.group ∧ s.users g = 0) := by
  unfold WpaGroups.groupPut
  by_cases hfirst : s.group = g
  · rw [if_pos hfirst]
    refine ⟨s, rfl, ⟨?_, h.setups, h.stations, h.live, h.nodup, h.fresh, h.created, h.distinct⟩,
      fun _ => rfl, fun g' => ?_⟩
    · intro g' grp hderef hne
      rw [hother g' fun heq => hne (heq.trans hfirst.symm)]
      exact h.references hderef hne
    · simp [hfirst]
  rw [if_neg hfirst]
  obtain ⟨grp, hderef⟩ := h.deref hg
  obtain ⟨hheap, hfreed⟩ := heap_of_deref hderef
  have hne : g ≠ s.group := fun heq => hfirst heq.symm
  have hrefs : grp.references = s.users g + 1 := by rw [h.references hderef hne, hself hne]
  have husers := users_of_deref hderef
  -- the group after the reference was given back
  have h₁ : Accounted e' (s.write g { grp with references := grp.references - 1 }) := by
    have hsetups : 0 ≤ grp.numSetupIface := h.setups hderef
    refine h.write hg hfreed hsetups (fun _ => ?_) hother
    have hzero := hself' hne
    dsimp only
    omega
  have husers₁ : ∀ g', (s.write g { grp with references := grp.references - 1 }).users g' = s.users g' := by
    intro g'
    by_cases heq : g' = g
    · subst heq
      rw [users_write_self, husers]
    · exact users_write_of_ne s _ heq
  have hderef₁ : (s.write g { grp with references := grp.references - 1 }).deref g =
      some { grp with references := grp.references - 1 } := by
    rw [deref_write_self]
    simp [hfreed]
  have hlive₁ : ∀ g', ((s.write g { grp with references := grp.references - 1 }).deref g').isSome =
      (s.deref g').isSome := by
    intro g'
    by_cases heq : g' = g
    · subst heq
      rw [hderef₁, hderef]
      rfl
    · rw [deref_write_of_ne s _ heq]
  rw [hderef]
  simp only [Option.bind_eq_bind, Option.bind_some]
  by_cases hzero : s.users g = 0
  · have hnext : g ∈ s.next := by
      rcases List.mem_cons.mp hg with heq | hmem
      · exact absurd heq hne
      · exact hmem
    rw [if_neg (by omega)]
    obtain ⟨hfree, husers₂, hderef₂⟩ := h₁.groupFree hnext hderef₁ ((husers₁ g).trans hzero)
    refine ⟨_, rfl, hfree, fun g' => (husers₂ g').trans (husers₁ g'), fun g' => ?_⟩
    rw [hderef₂]
    by_cases heq : g' = g
    · simp [heq, hne, hzero]
    · rw [if_neg heq, hlive₁]
      simp [heq]
  · rw [if_pos (by omega)]
    refine ⟨_, rfl, h₁, husers₁, fun g' => ?_⟩
    rw [hlive₁]
    simp [hzero]

/-! ## The stations -/

/-- The same groups with other stations. -/
def withStations (s : WpaGroups) (stations : List (ℕ × GroupId)) : WpaGroups := { s with stations }

lemma groupGet_withStations (stations : List (ℕ × GroupId)) :
    (withStations s stations).groupGet g = (s.groupGet g).map fun s => withStations s stations := by
  unfold WpaGroups.groupGet
  change (if s.group = g then _ else _) = _
  by_cases hfirst : s.group = g
  · rw [if_pos hfirst, if_pos hfirst]
    rfl
  · rw [if_neg hfirst, if_neg hfirst]
    change (s.deref g).bind _ = Option.map _ ((s.deref g).bind _)
    cases s.deref g <;> rfl

lemma groupPut_withStations (stations : List (ℕ × GroupId)) :
    (withStations s stations).groupPut g = (s.groupPut g).map fun s => withStations s stations := by
  unfold WpaGroups.groupPut
  change (if s.group = g then _ else _) = _
  by_cases hfirst : s.group = g
  · rw [if_pos hfirst, if_pos hfirst]
    rfl
  · rw [if_neg hfirst, if_neg hfirst]
    change (s.deref g).bind _ = Option.map _ ((s.deref g).bind _)
    cases s.deref g with
    | none => rfl
    | some grp =>
      simp only [Option.bind_some]
      split
      · rfl
      · unfold WpaGroups.groupFree
        change some (match unlink g s.next with | none => _ | some rest => _) =
          Option.map _ (some (match unlink g s.next with | none => _ | some rest => _))
        cases unlink g s.next <;> rfl

/-- The number of stations in a list that are attached to a group. -/
def attachedIn (stations : List (ℕ × GroupId)) (g : GroupId) : ℤ :=
  stations.countP fun sm => sm.2 = g

lemma stationsChange (h : Accounted e s) {stations : List (ℕ × GroupId)}
    (hlisted : ∀ sm ∈ stations, sm.2 ∈ s.listed) (hcreated : ∀ sm ∈ stations, sm.1 < s.created)
    (hdistinct : (stations.map Prod.fst).Nodup)
    (hcount : ∀ g ≠ s.group, attachedIn stations g + e' g = s.attached g + e g) :
    Accounted e' (withStations s stations) := by
  refine ⟨?_, h.setups, hlisted, h.live, h.nodup, h.fresh, hcreated, hdistinct⟩
  intro g grp hderef hne
  have hrefs := h.references hderef hne
  have hcount := hcount g hne
  have husers : (withStations s stations).users g = attachedIn stations g + s.numSetupIface g := rfl
  unfold users at hrefs
  omega

section Station

variable {stations : List (ℕ × GroupId)} {sta : ℕ}

lemma find_of_groupOf (hsta : s.groupOf sta = some g) :
    KeyedList.find Prod.fst sta s.stations = some (sta, g) := by
  obtain ⟨sm, hfind, hg⟩ := Option.map_eq_some_iff.mp hsta
  rw [hfind, ← hg, ← KeyedList.key_of_find hfind]

lemma attachedIn_others (hsta : KeyedList.find Prod.fst sta stations = some (sta, g)) (x : GroupId) :
    attachedIn stations x =
      attachedIn (KeyedList.remove Prod.fst sta stations) x + if g = x then 1 else 0 := by
  unfold attachedIn
  rw [(KeyedList.perm_remove hsta).countP_eq, List.countP_cons]
  split <;> simp_all

lemma attachedIn_moved (g' : GroupId) (hsta : KeyedList.find Prod.fst sta stations = some (sta, g))
    (x : GroupId) :
    attachedIn (KeyedList.assign Prod.fst sta (fun sm => (sm.1, g')) stations) x =
      attachedIn (KeyedList.remove Prod.fst sta stations) x + if g' = x then 1 else 0 := by
  unfold attachedIn
  rw [(KeyedList.perm_assign hsta _).countP_eq, List.countP_cons]
  split <;> simp_all

end Station

/-! ## The group of a VLAN -/

lemma findGroup (h : Accounted e s) (vlanId : ℤ) {l : List GroupId} (hl : ∀ g ∈ l, g ∈ s.listed) :
    ∃ found, s.findGroup vlanId l = some found ∧ ∀ g ∈ found, g ∈ l := by
  induction l with
  | nil => exact ⟨none, rfl, fun _ hfound => absurd hfound (by simp)⟩
  | cons g l ih =>
    obtain ⟨grp, hderef⟩ := h.deref (hl g List.mem_cons_self)
    unfold WpaGroups.findGroup
    rw [hderef]
    simp only [Option.bind_eq_bind, Option.bind_some]
    split
    · refine ⟨some g, rfl, fun g' hg' => ?_⟩
      obtain rfl := Option.some.inj hg'
      exact List.mem_cons_self
    · obtain ⟨found, hfind, hmem⟩ := ih fun g hg => hl g (List.mem_cons_of_mem _ hg)
      exact ⟨found, hfind, fun g hg => List.mem_cons_of_mem _ (hmem g hg)⟩

/-- There are more groups, and everything else is as before. -/
structure Extends (s s' : WpaGroups) : Prop where
  group : s'.group = s.group
  stations : s'.stations = s.stations
  created : s'.created = s.created
  users : ∀ g, s'.users g = s.users g
  live : ∀ g, (s.deref g).isSome = true → (s'.deref g).isSome = true

lemma Extends.refl (s : WpaGroups) : Extends s s := ⟨rfl, rfl, rfl, fun _ => rfl, fun _ => id⟩

lemma addGroup (h : Accounted (fun _ => 0) s) (vlanId : ℤ) (fatalFailure : Bool) :
    ∃ s₁ g, s.addGroup vlanId (some fatalFailure) = some (s₁, g) ∧ Accounted (fun _ => 0) s₁ ∧
      g ∈ s₁.listed ∧ Extends s s₁ := by
  have hheap : s.heap s.allocated = none := h.fresh (Nat.le_refl _)
  have hderef : s.deref s.allocated = none := by
    unfold WpaGroups.deref
    rw [hheap]
    rfl
  have hlisted : s.allocated ∉ s.listed := fun hmem => by
    have hsome := h.live.mpr hmem
    rw [hderef] at hsome
    exact absurd hsome (by simp)
  have hattached : s.attached s.allocated = 0 := by
    unfold attached
    rw [List.countP_eq_zero.mpr]
    · rfl
    · intro sm hmem heq
      have heq : sm.2 = s.allocated := by simpa using heq
      exact hlisted (heq ▸ h.stations sm hmem)
  have husers : s.users s.allocated = 0 := by
    unfold users numSetupIface
    rw [hattached, hheap]
    rfl
  -- the groups apart from their list
  have hself : (s.write s.allocated { vlanId, fatalFailure }).deref s.allocated =
      some { vlanId, fatalFailure } := by
    rw [deref_write_self]
    rfl
  have husers' : ∀ g, (s.write s.allocated { vlanId, fatalFailure }).users g = s.users g := by
    intro g
    by_cases heq : g = s.allocated
    · subst heq
      rw [users_write_self, hattached, husers]
      rfl
    · exact users_write_of_ne s _ heq
  have hmem : ∀ g, g ∈ s.group :: s.allocated :: s.next ↔ g = s.allocated ∨ g ∈ s.listed := by
    intro g
    unfold listed
    rw [List.mem_cons, List.mem_cons, List.mem_cons]
    exact or_left_comm
  refine ⟨_, _, rfl, ?_, ?_, ?_⟩
  · constructor
    · intro g grp hg hne
      by_cases heq : g = s.allocated
      · subst heq
        obtain rfl := Option.some.inj (hself.symm.trans hg)
        have := husers' s.allocated
        change 0 = (s.write s.allocated { vlanId, fatalFailure }).users s.allocated + 0
        omega
      · have hg' : s.deref g = some grp := (deref_write_of_ne s _ heq).symm.trans hg
        exact (h.references hg' hne).trans (by rw [← husers' g]; rfl)
    · intro g grp hg
      by_cases heq : g = s.allocated
      · subst heq
        obtain rfl := Option.some.inj (hself.symm.trans hg)
        exact Int.le_refl 0
      · exact h.setups ((deref_write_of_ne s _ heq).symm.trans hg)
    · exact fun sm hsm => (hmem sm.2).mpr (Or.inr (h.stations sm hsm))
    · intro g
      refine Iff.trans ?_ (hmem g).symm
      by_cases heq : g = s.allocated
      · subst heq
        exact iff_of_true (congrArg Option.isSome hself) (Or.inl rfl)
      · have hsame : ((s.write s.allocated { vlanId, fatalFailure }).deref g).isSome =
            (s.deref g).isSome := congrArg Option.isSome (deref_write_of_ne s _ heq)
        refine (iff_of_eq (congrArg (· = true) hsame)).trans (h.live.trans ?_)
        simp [heq]
    · obtain ⟨hfirst, hnext⟩ := List.nodup_cons.mp h.nodup
      have hnew : s.group ≠ s.allocated := fun heq => hlisted (heq ▸ List.mem_cons_self)
      refine List.nodup_cons.mpr ⟨fun hg => ?_, List.nodup_cons.mpr ⟨fun hg => ?_, hnext⟩⟩
      · rcases List.mem_cons.mp hg with heq | hg
        · exact hnew heq
        · exact hfirst hg
      · exact hlisted (List.mem_cons_of_mem _ hg)
    · intro g hle
      have hne : g ≠ s.allocated := fun heq => absurd (heq ▸ hle) (Nat.not_succ_le_self _)
      exact (Function.update_of_ne hne _ _).trans (h.fresh (Nat.le_of_succ_le hle))
    · exact h.created
    · exact h.distinct
  · exact (hmem _).mpr (Or.inl rfl)
  · refine ⟨rfl, rfl, rfl, husers', fun g hg => ?_⟩
    have hne : g ≠ s.allocated := by
      rintro rfl
      rw [hderef] at hg
      exact absurd hg (by simp)
    exact (congrArg Option.isSome (deref_write_of_ne s _ hne)).trans hg

/-- The group of a VLAN is found, or made. -/
lemma lookupGroup (h : Accounted (fun _ => 0) s) (vlanId : ℤ) (groupInit : Option Bool) :
    s.lookupGroup vlanId groupInit = some none ∨
    ∃ s₁ g, s.lookupGroup vlanId groupInit = some (some (s₁, g)) ∧ Accounted (fun _ => 0) s₁ ∧
      g ∈ s₁.listed ∧ Extends s s₁ := by
  obtain ⟨found, hfind, hmem⟩ := h.findGroup vlanId fun g (hg : g ∈ s.group :: s.next) => hg
  unfold WpaGroups.lookupGroup
  rw [hfind]
  simp only [Option.bind_eq_bind, Option.bind_some]
  cases found with
  | some g => exact Or.inr ⟨s, g, rfl, h, hmem g rfl, Extends.refl s⟩
  | none =>
    cases groupInit with
    | none => exact Or.inl rfl
    | some fatalFailure =>
      obtain ⟨s₁, g, hadd, hgroups⟩ := h.addGroup vlanId fatalFailure
      exact Or.inr ⟨s₁, g, by rw [hadd], hgroups⟩

/-! ## Operations -/

lemma numSetupIface_nonneg (h : Accounted e s) (hg : g ∈ s.listed) : 0 ≤ s.numSetupIface g := by
  obtain ⟨grp, hderef⟩ := h.deref hg
  rw [WpaGroups.numSetupIface, (heap_of_deref hderef).1]
  exact h.setups hderef

end Accounted

/-- The groups that are freed are those that lose their last user. -/
def FreesUnused (s s' : WpaGroups) : Prop :=
  ∀ g ≠ s.group, (s.deref g).isSome = true →
    ((s'.deref g).isSome = false ↔ 0 < s.users g ∧ s'.users g = 0)

lemma freesUnused_of_live (hlive : ∀ g, (s.deref g).isSome = true → (s'.deref g).isSome = true)
    (husers : ∀ g ≠ s.group, s.users g ≤ s'.users g) : FreesUnused s s' := by
  intro g hne hg
  have hle := husers g hne
  rw [hlive g hg]
  constructor
  · intro h
    exact absurd h.symm Bool.false_ne_true
  · intro h
    omega

lemma freesUnused_of_put (hpos : g ≠ s.group → 0 < s.users g)
    (husers : ∀ g' ≠ s.group, g' ≠ g → s.users g' ≤ s'.users g')
    (hlive : ∀ g', (s.deref g').isSome = true →
      ((s'.deref g').isSome = true ↔ ¬ (g' = g ∧ g ≠ s.group ∧ s'.users g = 0))) :
    FreesUnused s s' := by
  intro g' hne hg'
  rw [← Bool.not_eq_true, hlive g' hg', not_not]
  constructor
  · rintro ⟨rfl, hfirst, hzero⟩
    exact ⟨hpos hfirst, hzero⟩
  · rintro ⟨hused, hzero⟩
    have heq : g' = g := by
      by_contra hother
      have := husers g' hne hother
      omega
    subst heq
    exact ⟨rfl, hne, hzero⟩

/-- What is shown of an operation. -/
structure Keeps (s s' : WpaGroups) : Prop where
  accounted : Accounted (fun _ => 0) s'
  freesUnused : FreesUnused s s'

lemma Keeps.refl (h : Accounted (fun _ => 0) s) : Keeps s s :=
  ⟨h, freesUnused_of_live (fun _ => id) fun _ _ => Int.le_refl _⟩

lemma Accounted.Extends.keeps (h : Accounted (fun _ => 0) s') (hext : Accounted.Extends s s') : Keeps s s' :=
  ⟨h, freesUnused_of_live hext.live fun g _ => Int.le_of_eq (hext.users g).symm⟩

namespace Accounted

lemma staInit (h : Accounted (fun _ => 0) s) (outOfMemory : Bool) :
    ∃ s', s.staInit outOfMemory = some s' ∧ Keeps s s' := by
  have hfirst : s.group ∈ s.listed := List.mem_cons_self
  obtain ⟨grp, hderef⟩ := h.deref hfirst
  unfold WpaGroups.staInit
  rw [hderef]
  simp only [Option.bind_eq_bind, Option.bind_some]
  split
  · exact ⟨s, rfl, Keeps.refl h⟩
  unfold WpaGroups.groupGet
  rw [if_pos rfl]
  -- the new station is attached to the first group
  have husers : ∀ g ≠ s.group, WpaGroups.users
      { s with stations := (s.created, s.group) :: s.stations, created := s.created + 1 } g = s.users g := by
    intro g hne
    have hcount : attachedIn ((s.created, s.group) :: s.stations) g = attachedIn s.stations g := by
      unfold attachedIn
      rw [List.countP_cons_of_neg (by simpa using hne.symm)]
    exact congrArg (· + s.numSetupIface g) hcount
  refine ⟨_, rfl, ?_, freesUnused_of_live (fun _ => id) fun g hne => Int.le_of_eq (husers g hne).symm⟩
  constructor
  · intro g grp' hg hne
    exact (h.references hg hne).trans (by rw [husers g hne])
  · exact h.setups
  · intro sm hmem
    rcases List.mem_cons.mp hmem with rfl | hmem
    · exact hfirst
    · exact h.stations sm hmem
  · exact h.live
  · exact h.nodup
  · exact h.fresh
  · intro sm hmem
    rcases List.mem_cons.mp hmem with rfl | hmem
    · exact Nat.lt_succ_self _
    · exact Nat.lt_succ_of_lt (h.created sm hmem)
  · refine List.nodup_cons.mpr ⟨fun hmem => ?_, h.distinct⟩
    obtain ⟨sm, hsm, heq⟩ := List.mem_map.mp hmem
    exact absurd (h.created sm hsm) (by omega)

lemma freeStaSm (h : Accounted (fun _ => 0) s) {sta : ℕ} (hsta : s.groupOf sta = some g) :
    ∃ s', s.freeStaSm sta = some s' ∧ Keeps s s' := by
  have hfind := find_of_groupOf hsta
  have hmem : (sta, g) ∈ s.stations := KeyedList.mem_of_find hfind
  have hg : g ∈ s.listed := h.stations _ hmem
  have hcount := fun x => attachedIn_others hfind x
  have hsub : ∀ sm ∈ KeyedList.remove Prod.fst sta s.stations, sm ∈ s.stations :=
    fun sm hsm => (KeyedList.remove_sublist sta s.stations).subset hsm
  -- without the station there is a reference too many
  have h₁ : Accounted (fun x => if g = x then 1 else 0)
      (withStations s (KeyedList.remove Prod.fst sta s.stations)) := by
    refine h.stationsChange (fun sm hsm => h.stations sm (hsub sm hsm))
      (fun sm hsm => h.created sm (hsub sm hsm)) (h.distinct.sublist ?_) fun x _ => ?_
    · exact (KeyedList.remove_sublist sta s.stations).map Prod.fst
    · have := hcount x
      change _ = attachedIn s.stations x + 0
      omega
  obtain ⟨s', hput, hkept, husers, hlive⟩ := h₁.groupPut (fun _ => 0) hg (fun _ => if_pos rfl)
    (fun _ => rfl) fun g' hne => (if_neg (Ne.symm hne)).symm
  rw [groupPut_withStations] at hput
  obtain ⟨s₂, hput₂, rfl⟩ := Option.map_eq_some_iff.mp hput
  refine ⟨_, ?_, hkept, ?_⟩
  · unfold WpaGroups.freeStaSm
    rw [hsta]
    simp only [Option.bind_eq_bind, Option.bind_some, hput₂]
    rfl
  · have hnum := h.numSetupIface_nonneg hg
    have hbefore : ∀ x, s.users x = (withStations s (KeyedList.remove Prod.fst sta s.stations)).users x +
        if g = x then 1 else 0 := by
      intro x
      have hx := hcount x
      change attachedIn s.stations x + s.numSetupIface x =
        attachedIn (KeyedList.remove Prod.fst sta s.stations) x + s.numSetupIface x + _
      omega
    refine freesUnused_of_put (g := g) (fun _ => ?_) (fun x _ hne => ?_) fun x hx => ?_
    · have hself := hbefore g
      have hattached := attached_nonneg (withStations s (KeyedList.remove Prod.fst sta s.stations)) g
      rw [if_pos rfl] at hself
      have hsplit : (withStations s (KeyedList.remove Prod.fst sta s.stations)).users g =
        (withStations s (KeyedList.remove Prod.fst sta s.stations)).attached g + s.numSetupIface g := rfl
      omega
    · rw [husers x, hbefore x, if_neg (Ne.symm hne)]
      omega
    · rw [hlive x, husers g]
      exact and_iff_right hx

lemma ensureGroup (h : Accounted (fun _ => 0) s) (vlanId : ℤ) (groupInit : Option Bool) :
    ∃ s' ret, s.ensureGroup vlanId groupInit = some (s', ret) ∧ Keeps s s' := by
  unfold WpaGroups.ensureGroup
  rcases h.lookupGroup vlanId groupInit with hnone | ⟨s₁, g, hsome, h₁, hg, hext⟩
  · rw [hnone]
    exact ⟨s, -1, rfl, Keeps.refl h⟩
  rw [hsome]
  simp only [Option.bind_eq_bind, Option.bind_some]
  obtain ⟨s₂, hget, h₂, husers₂, hlive₂⟩ := h₁.groupGet (fun x => if g = x then 1 else 0) hg
    (fun _ => if_pos rfl) fun g' hne => if_neg (Ne.symm hne)
  have hg₂ : g ∈ s₂.listed := h₂.live.mp (by rw [hlive₂]; exact h₁.live.mpr hg)
  obtain ⟨grp, hderef⟩ := h₂.deref hg₂
  obtain ⟨hheap, hfreed⟩ := heap_of_deref hderef
  have hsetups : 0 ≤ grp.numSetupIface := h₂.setups hderef
  rw [hget]
  simp only [Option.bind_some, hderef]
  have husers := users_of_deref hderef
  have h₃ : Accounted (fun _ => 0)
      (s₂.write g { grp with numSetupIface := grp.numSetupIface + 1 }) := by
    refine h₂.write hg₂ hfreed (by dsimp only; omega) (fun hne => ?_) fun g' hne => (if_neg (Ne.symm hne)).symm
    have hrefs := h₂.references hderef hne
    rw [if_pos rfl] at hrefs
    dsimp only
    omega
  have hkeeps : Keeps s (s₂.write g { grp with numSetupIface := grp.numSetupIface + 1 }) := by
    refine ⟨h₃, freesUnused_of_live (fun x hx => ?_) fun x _ => ?_⟩
    · by_cases heq : x = g
      · subst heq
        rw [deref_write_self]
        simp [hfreed]
      · rw [deref_write_of_ne _ _ heq, hlive₂]
        exact hext.live x hx
    · have hsame := (husers₂ x).trans (hext.users x)
      by_cases heq : x = g
      · subst heq
        rw [users_write_self]
        dsimp only
        omega
      · rw [users_write_of_ne _ _ heq]
        omega
  split
  · exact ⟨_, _, rfl, hkeeps⟩
  · exact ⟨_, _, rfl, hkeeps⟩

lemma releaseGroup (h : Accounted (fun _ => 0) s) (vlanId : ℤ) :
    ∃ s' ret, s.releaseGroup vlanId = some (s', ret) ∧ Keeps s s' := by
  unfold WpaGroups.releaseGroup
  obtain ⟨found, hfind, hmem⟩ := h.findGroup vlanId fun g (hg : g ∈ s.group :: s.next) => hg
  rw [hfind]
  simp only [Option.bind_eq_bind, Option.bind_some]
  cases found with
  | none => exact ⟨s, -1, rfl, Keeps.refl h⟩
  | some g =>
    have hg : g ∈ s.listed := hmem g rfl
    obtain ⟨grp, hderef⟩ := h.deref hg
    obtain ⟨hheap, hfreed⟩ := heap_of_deref hderef
    simp only [hderef, Option.bind_some]
    split
    · exact ⟨s, -1, rfl, Keeps.refl h⟩
    rename_i hpos
    have husers := users_of_deref hderef
    -- without the interface there is a reference too many
    have h₁ : Accounted (fun x => if g = x then 1 else 0)
        (s.write g { grp with numSetupIface := grp.numSetupIface - 1 }) := by
      refine h.write hg hfreed (by dsimp only; omega) (fun hne => ?_) fun g' hne => if_neg (Ne.symm hne)
      have hrefs := h.references hderef hne
      rw [if_pos rfl]
      dsimp only
      omega
    obtain ⟨s', hput, hkept, husers', hlive⟩ := h₁.groupPut (fun _ => 0) hg (fun _ => if_pos rfl)
      (fun _ => rfl) fun g' hne => (if_neg (Ne.symm hne)).symm
    rw [hput]
    refine ⟨_, _, rfl, hkept, ?_⟩
    refine freesUnused_of_put (g := g) (fun _ => ?_) (fun x _ hne => ?_) fun x hx => ?_
    · have hattached := s.attached_nonneg g
      omega
    · exact Int.le_of_eq ((husers' x).trans (users_write_of_ne _ _ hne)).symm
    · have hsame : ((s.write g { grp with numSetupIface := grp.numSetupIface - 1 }).deref x).isSome =
          true := by
        by_cases heq : x = g
        · subst heq
          rw [deref_write_self]
          simp [hfreed]
        · rw [deref_write_of_ne _ _ heq]
          exact hx
      rw [hlive x, husers' g]
      exact and_iff_right hsame

/-- A station is moved to another group. -/
lemma move (h : Accounted (fun _ => 0) s) {sta : ℕ} {old : GroupId} (hsta : s.groupOf sta = some old)
    (hg : g ∈ s.listed) (hne : old ≠ g) :
    ∃ s₁ s₂, s.groupGet g = some s₁ ∧ s₁.groupPut old = some s₂ ∧
      Keeps s (withStations s₂ (KeyedList.assign Prod.fst sta (fun sm => (sm.1, g)) s.stations)) := by
  have hfind := find_of_groupOf hsta
  have hmem : (sta, old) ∈ s.stations := KeyedList.mem_of_find hfind
  have hold : old ∈ s.listed := h.stations _ hmem
  have hbefore := fun x => attachedIn_others hfind x
  have hafter := fun x => attachedIn_moved g hfind x
  have hperm := KeyedList.perm_assign hfind fun sm => (sm.1, g)
  have hdistinct : ((KeyedList.assign Prod.fst sta (fun sm => (sm.1, g)) s.stations).map
      Prod.fst).Nodup := by
    have hkeys : (KeyedList.assign Prod.fst sta (fun sm => (sm.1, g)) s.stations).map Prod.fst =
        s.stations.map Prod.fst := by
      refine KeyedList.map_key_assign ?_ sta s.stations
      exact fun _ => rfl
    exact hkeys ▸ h.distinct
  generalize KeyedList.assign Prod.fst sta (fun sm => (sm.1, g)) s.stations = X at hafter hperm hdistinct
  have hfrom : ∀ sm ∈ X, sm = (sta, g) ∨ sm ∈ s.stations := by
    intro sm hsm
    rcases List.mem_cons.mp (hperm.mem_iff.mp hsm) with rfl | hsm
    · exact Or.inl rfl
    · exact Or.inr ((KeyedList.remove_sublist sta s.stations).subset hsm)
  -- the new group lacks a reference, and the old one has one too many
  have h₀ : Accounted (fun x => (if old = x then 1 else 0) - if g = x then 1 else 0)
      (withStations s X) := by
    refine h.stationsChange (fun sm hsm => ?_) (fun sm hsm => ?_) hdistinct fun x _ => ?_
    · rcases hfrom sm hsm with rfl | hsm
      · exact hg
      · exact h.stations sm hsm
    · rcases hfrom sm hsm with rfl | hsm
      · exact h.created (sta, old) hmem
      · exact h.created sm hsm
    · have hb := hbefore x
      have ha := hafter x
      change _ = attachedIn s.stations x + 0
      omega
  obtain ⟨s₁, hget, h₁, husers₁, hlive₁⟩ := h₀.groupGet (fun x => if old = x then 1 else 0) hg
    (fun _ => by simp [hne]) fun g' hg' => by simp [Ne.symm hg']
  have hold₁ : old ∈ s₁.listed := h₁.live.mp (by rw [hlive₁]; exact h₀.live.mpr hold)
  obtain ⟨s₂, hput, h₂, husers₂, hlive₂⟩ := h₁.groupPut (fun _ => 0) hold₁ (fun _ => if_pos rfl)
    (fun _ => rfl) fun g' hg' => (if_neg (Ne.symm hg')).symm
  rw [groupGet_withStations] at hget
  obtain ⟨t₁, hget₁, rfl⟩ := Option.map_eq_some_iff.mp hget
  rw [groupPut_withStations] at hput
  obtain ⟨t₂, hput₂, rfl⟩ := Option.map_eq_some_iff.mp hput
  refine ⟨t₁, t₂, hget₁, hput₂, h₂, ?_⟩
  have husers : ∀ x, (withStations t₂ X).users x = s.users x - (if old = x then 1 else 0) +
      if g = x then 1 else 0 := by
    intro x
    have hb := hbefore x
    have ha := hafter x
    rw [husers₂ x, husers₁ x]
    change attachedIn X x + s.numSetupIface x = attachedIn s.stations x + s.numSetupIface x - _ + _
    omega
  have hgroup : (withStations t₁ X).group = s.group := by
    unfold WpaGroups.groupGet at hget₁
    split at hget₁
    · rw [← Option.some.inj hget₁]
      rfl
    · obtain ⟨grp, -, hwrite⟩ := Option.bind_eq_some_iff.mp hget₁
      rw [← Option.some.inj hwrite]
      rfl
  refine freesUnused_of_put (g := old) (fun _ => ?_) (fun x _ hx => ?_) fun x hx => ?_
  · have hb := hbefore old
    have hnum := h.numSetupIface_nonneg hold
    rw [if_pos rfl] at hb
    have hothers : 0 ≤ attachedIn (KeyedList.remove Prod.fst sta s.stations) old := Int.natCast_nonneg _
    change 0 < attachedIn s.stations old + s.numSetupIface old
    omega
  · rw [husers x, if_neg (Ne.symm hx)]
    split <;> omega
  · rw [hlive₂ x, hlive₁ x, husers₂ old, hgroup]
    exact and_iff_right hx

lemma staSetVlan (h : Accounted (fun _ => 0) s) {sta : ℕ} {old : GroupId} (hsta : s.groupOf sta = some old)
    (vlanId : ℤ) (groupInit : Option Bool) :
    ∃ s' ret, s.staSetVlan sta vlanId groupInit = some (s', ret) ∧ Keeps s s' := by
  unfold WpaGroups.staSetVlan
  rw [hsta]
  simp only [Option.bind_eq_bind, Option.bind_some]
  rcases h.lookupGroup vlanId groupInit with hnone | ⟨s₁, g, hsome, h₁, hg, hext⟩
  · rw [hnone]
    exact ⟨s, -1, rfl, Keeps.refl h⟩
  rw [hsome]
  simp only [Option.bind_some]
  have hkeeps : Keeps s s₁ := Extends.keeps h₁ hext
  split
  · exact ⟨s₁, 0, rfl, hkeeps⟩
  rename_i hne
  obtain ⟨grp, hderef⟩ := h₁.deref hg
  simp only [hderef, Option.bind_some]
  split
  · exact ⟨s₁, -1, rfl, hkeeps⟩
  have hsta₁ : s₁.groupOf sta = some old := by
    unfold groupOf
    rw [hext.stations]
    exact hsta
  obtain ⟨t₁, t₂, hget, hput, hmoved⟩ := h₁.move hsta₁ hg hne
  rw [hget]
  simp only [Option.bind_some, hput]
  refine ⟨_, _, rfl, hmoved.accounted, fun x hx hlive => ?_⟩
  have hfreed := hmoved.freesUnused x (hext.group ▸ hx) (hext.live x hlive)
  rw [hext.users x] at hfreed
  exact hfreed

lemma groupFails (h : Accounted (fun _ => 0) s) (hg : (s.deref g).isSome = true) :
    ∃ s', s.groupFails g = some s' ∧ Keeps s s' := by
  obtain ⟨grp, hderef⟩ := Option.isSome_iff_exists.mp hg
  obtain ⟨hheap, hfreed⟩ := heap_of_deref hderef
  have husers := users_of_deref hderef
  unfold WpaGroups.groupFails
  rw [hderef]
  refine ⟨_, rfl, ?_, freesUnused_of_live (fun x hx => ?_) fun x _ => ?_⟩
  · have hsetups : 0 ≤ grp.numSetupIface := h.setups hderef
    refine h.write (h.live.mp hg) hfreed hsetups (fun hne => ?_) fun _ _ => rfl
    have hrefs := h.references hderef hne
    dsimp only
    omega
  · by_cases heq : x = g
    · subst heq
      rw [deref_write_self]
      simp [hfreed]
    · rw [deref_write_of_ne _ _ heq]
      exact hx
  · by_cases heq : x = g
    · subst heq
      rw [users_write_self]
      dsimp only
      omega
    · exact Int.le_of_eq (users_write_of_ne _ _ heq).symm

end Accounted

/-- Every possible operation is carried out without reading a freed group, and keeps the counters. -/
theorem Accounted.nextGroups (h : Accounted (fun _ => 0) s) {op : GroupsOp} (hop : s.Possible op) :
    ∃ s', s.nextGroups op = some s' ∧ Keeps s s' := by
  cases op with
  | staInit outOfMemory => exact h.staInit outOfMemory
  | freeStaSm sta =>
    obtain ⟨g, hsta⟩ := Option.isSome_iff_exists.mp hop
    exact h.freeStaSm hsta
  | staSetVlan sta vlanId groupInit =>
    obtain ⟨g, hsta⟩ := Option.isSome_iff_exists.mp hop
    obtain ⟨s', ret, heq, hkeeps⟩ := h.staSetVlan hsta vlanId groupInit
    exact ⟨s', by rw [WpaGroups.nextGroups, heq]; rfl, hkeeps⟩
  | ensureGroup vlanId groupInit =>
    obtain ⟨s', ret, heq, hkeeps⟩ := h.ensureGroup vlanId groupInit
    exact ⟨s', by rw [WpaGroups.nextGroups, heq]; rfl, hkeeps⟩
  | releaseGroup vlanId =>
    obtain ⟨s', ret, heq, hkeeps⟩ := h.releaseGroup vlanId
    exact ⟨s', by rw [WpaGroups.nextGroups, heq]; rfl, hkeeps⟩
  | groupFails g => exact h.groupFails hop

lemma accounted_init : Accounted (fun _ => 0) init := by
  have hderef : ∀ g grp, init.deref g = some grp → g = 0 ∧ grp = { vlanId := 0 } := by
    intro g grp h
    obtain ⟨hheap, -⟩ := heap_of_deref h
    simp only [init] at hheap
    split at hheap
    · rename_i hzero
      exact ⟨hzero, (Option.some.inj hheap).symm⟩
    · exact absurd hheap (by simp)
  constructor
  · intro g grp h hne
    exact absurd (hderef g grp h).1 hne
  · intro g grp h
    obtain ⟨-, rfl⟩ := hderef g grp h
    exact Int.le_refl 0
  · exact fun sm hmem => absurd hmem List.not_mem_nil
  · intro g
    change _ ↔ g ∈ [0]
    rw [List.mem_singleton]
    constructor
    · intro h
      obtain ⟨grp, hgrp⟩ := Option.isSome_iff_exists.mp h
      exact (hderef g grp hgrp).1
    · rintro rfl
      rfl
  · exact List.nodup_cons.mpr ⟨List.not_mem_nil, List.nodup_nil⟩
  · intro g hle
    have hne : g ≠ 0 := Nat.pos_iff_ne_zero.mp hle
    simp [init, hne]
  · exact fun sm hmem => absurd hmem List.not_mem_nil
  · exact List.nodup_nil

/-- An operation that was carried out was possible. -/
lemma possible_of_nextGroups {op : GroupsOp} (h : s.nextGroups op = some s') : s.Possible op := by
  cases op with
  | freeStaSm sta =>
    obtain ⟨g, hsta, -⟩ := Option.bind_eq_some_iff.mp h
    exact Option.isSome_iff_exists.mpr ⟨g, hsta⟩
  | staSetVlan sta vlanId groupInit =>
    obtain ⟨_, h, -⟩ := Option.map_eq_some_iff.mp h
    obtain ⟨g, hsta, -⟩ := Option.bind_eq_some_iff.mp h
    exact Option.isSome_iff_exists.mpr ⟨g, hsta⟩
  | groupFails g =>
    obtain ⟨grp, hderef, -⟩ := Option.bind_eq_some_iff.mp h
    exact Option.isSome_iff_exists.mpr ⟨grp, hderef⟩
  | staInit | ensureGroup | releaseGroup => trivial

/-- The references of a group are its users, and nothing that was freed is referred to. -/
structure Referenced (s : WpaGroups) : Prop where
  references : ∀ g grp, s.deref g = some grp → g ≠ s.group →
    grp.references = s.attached g + grp.numSetupIface
  stations : ∀ sm ∈ s.stations, (s.deref sm.2).isSome = true
  listed : ∀ g ∈ s.listed, (s.deref g).isSome = true

lemma Accounted.referenced (h : Accounted (fun _ => 0) s) : s.Referenced where
  references g grp hderef hne := by
    have hrefs := h.references hderef hne
    rw [users_of_deref hderef] at hrefs
    omega
  stations sm hmem := h.live.mpr (h.stations sm hmem)
  listed _ hg := h.live.mpr hg

/-- After every sequence of operations the references of each group are its users, and the next
operation frees just the groups that lose their last user by it. -/
theorem run_referenced {ops : List GroupsOp} (hrun : Trace.Run nextGroups init ops s) :
    s.Referenced ∧ ∀ op, s.Possible op → ∃ s', s.nextGroups op = some s' ∧ FreesUnused s s' := by
  have h : Accounted (fun _ => 0) s := by
    refine hrun.invariant accounted_init ?_
    intro s₁ op s₂ h₁ hnext
    obtain ⟨s', hnext', hkeeps⟩ := h₁.nextGroups (possible_of_nextGroups hnext)
    obtain rfl : s' = s₂ := Option.some.inj (hnext'.symm.trans hnext)
    exact hkeeps.accounted
  refine ⟨h.referenced, fun op hop => ?_⟩
  obtain ⟨s', hnext, hkeeps⟩ := h.nextGroups hop
  exact ⟨s', hnext, hkeeps.freesUnused⟩

/-- A station is moved to a VLAN whose interface then goes away; the group stays until the station
leaves. -/
theorem run_referenced_vlan :
    ∃ s s', Trace.Run nextGroups init
        [.staInit false, .ensureGroup 5 (some false), .staSetVlan 0 5 none, .releaseGroup 5] s ∧
      s.nextGroups (.freeStaSm 0) = some s' ∧ s.users 1 = 1 ∧ s'.users 1 = 0 ∧
      (s'.deref 1).isSome = false := by
  have h : (Trace.exec nextGroups init
      [.staInit false, .ensureGroup 5 (some false), .staSetVlan 0 5 none, .releaseGroup 5]).map
      (fun s => ((s.groupOf 0).isSome, (s.deref 1).isSome, s.group, s.users 1,
        (s.nextGroups (.freeStaSm 0)).map fun s' => s'.users 1)) =
      some (true, true, 0, 1, some 0) := by decide +kernel
  obtain ⟨s, hexec, h⟩ := Option.map_eq_some_iff.mp h
  simp only [Prod.mk.injEq] at h
  obtain ⟨hsta, hlive, hgroup, husers, hafter⟩ := h
  have hrun := Trace.run_iff_exec.mpr hexec
  obtain ⟨s', hnext, hfrees⟩ := (run_referenced hrun).2 (.freeStaSm 0) hsta
  have husers' : s'.users 1 = 0 := by
    rw [hnext] at hafter
    exact Option.some.inj hafter
  refine ⟨s, s', hrun, hnext, husers, husers', ?_⟩
  refine (hfrees 1 (by simp [hgroup]) hlive).mpr ⟨?_, husers'⟩
  rw [husers]
  decide

end WpaGroups

end Ethanol
