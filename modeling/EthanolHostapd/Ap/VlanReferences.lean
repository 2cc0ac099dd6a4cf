import EthanolHostapd.Ap.Vlan

/-!
# The references to dynamic VLAN entries

The list of VLANs consists of the entries that were added, which come first, and those of the configuration.
An added entry counts the references of the stations to its identifier, and as long as there are any, its
interface exists: this is `Dynamic`, with the references as a multiset of identifiers, because in the
middle of a call a station has a reference too many.

Without `CONFIG_FULL_DYNAMIC_VLAN` an entry whose interface was removed is left in the list.  The next
station with its description gets the entry as it is, so the runs that keep the counts are those in which
no such station comes.
-/

namespace Ethanol

open Wire RefCounts

namespace VlanData

/-- The stations that are assigned to a VLAN, and those that are bound to it. -/
def users (hapd : VlanData) (vlanId : ℤ) : ℕ :=
  hapd.staList.countP (·.vlanId = vlanId) + hapd.staList.countP (·.vlanIdBound = vlanId)

/-- Every added entry counts the stations that use it, and if there are any then its interface exists. -/
def ReferencesCounted (hapd : VlanData) : Prop :=
  ∀ vlan ∈ hapd.vlan, vlan.added = true → vlan.dynamicVlan = hapd.users vlan.vlanId ∧
    (0 < hapd.users vlan.vlanId → vlan.ifname ∈ hapd.ifaces)

/-- The call does not assign a station to an added entry whose count is zero. -/
def NotIdle (hapd : VlanData) : VlanCall → Prop
  | .apStaSetVlan sta vlanDesc _ _ =>
    ∀ sta' ∈ KeyedList.find (·.sta) sta hapd.staList,
      hapd.somethingToDo sta' (hapd.effective vlanDesc.1) = true → hapd.conf.perStaVif = false →
      ∀ desc ∈ hapd.effective vlanDesc.1, desc.notempty = true →
      ∀ vlan ∈ KeyedList.find (HostapdVlan.compare (hapd.effective vlanDesc.1)) 0 hapd.vlan,
        vlan.added = true → 0 < vlan.dynamicVlan
  | _ => True

end VlanData

/-! ## Comparing descriptions -/

section Compare

variable {a b : Option VlanDescription} {desc desc' : VlanDescription}

lemma vlanCompare_self (a : Option VlanDescription) : vlanCompare a a = 0 := by
  unfold vlanCompare
  cases a.filter (·.notempty) with
  | none => rfl
  | some desc => simp

lemma vlanCompare_comm (a b : Option VlanDescription) : vlanCompare a b = vlanCompare b a := by
  unfold vlanCompare
  cases a.filter (·.notempty) with
  | none => cases b.filter (·.notempty) <;> rfl
  | some a =>
    cases b.filter (·.notempty) with
    | none => rfl
    | some b => simp only [ne_eq, eq_comm]

lemma vlanCompare_some_eq_zero (h : desc.notempty = true) :
    vlanCompare (some desc') (some desc) = 0 ↔
      desc'.notempty = true ∧ desc'.untagged = desc.untagged ∧ desc'.tagged = desc.tagged := by
  cases h' : desc'.notempty with
  | false => simp [vlanCompare, Option.filter, h, h']
  | true =>
    by_cases hu : desc'.untagged = desc.untagged
    · by_cases ht : desc'.tagged = desc.tagged
      · simp [vlanCompare, Option.filter, h, h', hu, ht]
      · simp [vlanCompare, Option.filter, h, h', hu, ht]
    · simp [vlanCompare, Option.filter, h, h', hu]

end Compare

/-! ## A free identifier -/

lemma freeVlanIdFrom_spec {vlan : List HostapdVlan} {fuel : ℕ} {vlanId : ℤ}
    (h : vlan.countP (vlanId ≤ ·.vlanId) ≤ fuel) :
    vlanId ≤ freeVlanIdFrom vlan fuel vlanId ∧
      freeVlanIdFrom vlan fuel vlanId ∉ vlan.map (·.vlanId) := by
  induction fuel generalizing vlanId with
  | zero =>
    refine ⟨le_rfl, fun hmem => ?_⟩
    obtain ⟨v, hv, heq⟩ := List.mem_map.mp hmem
    have hpos : 0 < vlan.countP (vlanId ≤ ·.vlanId) :=
      List.countP_pos_iff.mpr ⟨v, hv, by simpa [freeVlanIdFrom] using heq.ge⟩
    omega
  | succ fuel ih =>
    unfold freeVlanIdFrom
    split_ifs with hany
    · have hlt : vlan.countP (vlanId + 1 ≤ ·.vlanId) < vlan.countP (vlanId ≤ ·.vlanId) := by
        obtain ⟨v, hv, heq⟩ := List.any_eq_true.mp hany
        rw [decide_eq_true_eq] at heq
        obtain ⟨before, after, rfl⟩ := List.append_of_mem hv
        have hmono : ∀ l : List HostapdVlan,
            l.countP (vlanId + 1 ≤ ·.vlanId) ≤ l.countP (vlanId ≤ ·.vlanId) :=
          fun l => List.countP_mono_left fun w _ hw => by simp at hw ⊢; omega
        have hbefore := hmono before
        have hafter := hmono after
        simp only [List.countP_append, List.countP_cons, heq, le_refl, decide_true, if_true]
        rw [if_neg (by simp)]
        omega
      have hrest : vlan.countP (vlanId + 1 ≤ ·.vlanId) ≤ fuel := by omega
      obtain ⟨hle, hmem⟩ := ih hrest
      exact ⟨by omega, hmem⟩
    · refine ⟨le_rfl, fun hmem => hany ?_⟩
      obtain ⟨v, hv, heq⟩ := List.mem_map.mp hmem
      exact List.any_eq_true.mpr ⟨v, hv, decide_eq_true heq⟩

lemma apStaGetFreeVlanId_spec (vlan : List HostapdVlan) :
    maxVlanId < apStaGetFreeVlanId vlan ∧ apStaGetFreeVlanId vlan ∉ vlan.map (·.vlanId) := by
  obtain ⟨hle, hmem⟩ :
      maxVlanId + 2 ≤ apStaGetFreeVlanId vlan ∧ apStaGetFreeVlanId vlan ∉ vlan.map (·.vlanId) :=
    freeVlanIdFrom_spec List.countP_le_length
  refine ⟨lt_of_lt_of_le ?_ hle, hmem⟩
  simp [maxVlanId]

/-! ## The added entries -/

/-- The added entries count the references, and those with a positive count have interfaces of their own. -/
structure DynamicVlans (full : Bool) (ifaces : Finset CString) (refs : Multiset ℤ) (added : List HostapdVlan) :
    Prop where
  of_added : ∀ v ∈ added, v.added = true ∧ 0 < v.vlanId
  counts : Counts HostapdVlan.vlanId HostapdVlan.dynamicVlan refs added
  iface : ∀ v ∈ added, 0 < v.dynamicVlan → v.ifname ∈ ifaces
  /-- No two interfaces have the same name. -/
  names : ∀ v ∈ added, ∀ w ∈ added, 0 < v.dynamicVlan → 0 < w.dynamicVlan → v.ifname = w.ifname →
    v.vlanId = w.vlanId
  /-- An entry goes with its interface. -/
  full_pos : full = true → ∀ v ∈ added, 0 < v.dynamicVlan

namespace DynamicVlans

variable {full : Bool} {ifaces ifaces' : Finset CString} {refs : Multiset ℤ} {added added' : List HostapdVlan}
  {v : HostapdVlan} {vlanId : ℤ}

lemma perm (h : DynamicVlans full ifaces refs added) (hperm : added.Perm added') :
    DynamicVlans full ifaces refs added' where
  of_added v hv := h.of_added v (hperm.mem_iff.mpr hv)
  counts := h.counts.perm hperm
  iface v hv := h.iface v (hperm.mem_iff.mpr hv)
  names v hv w hw := h.names v (hperm.mem_iff.mpr hv) w (hperm.mem_iff.mpr hw)
  full_pos hfull v hv := h.full_pos hfull v (hperm.mem_iff.mpr hv)

lemma refs_cons_iff (hv : vlanId ∉ added.map (·.vlanId)) :
    DynamicVlans full ifaces (vlanId ::ₘ refs) added ↔ DynamicVlans full ifaces refs added := by
  constructor
  · intro h
    exact ⟨h.of_added, (counts_cons_iff hv).mp h.counts, h.iface, h.names, h.full_pos⟩
  · intro h
    exact ⟨h.of_added, (counts_cons_iff hv).mpr h.counts, h.iface, h.names, h.full_pos⟩

/-- More interfaces do no harm. -/
lemma mono (h : DynamicVlans full ifaces refs added) (hsub : ifaces ⊆ ifaces') :
    DynamicVlans full ifaces' refs added where
  of_added := h.of_added
  counts := h.counts
  iface v hv hpos := hsub (h.iface v hv hpos)
  names := h.names
  full_pos := h.full_pos

lemma tail (h : DynamicVlans full ifaces refs (v :: added)) : DynamicVlans full ifaces refs added where
  of_added w hw := h.of_added w (List.mem_cons_of_mem v hw)
  counts := h.counts.tail
  iface w hw := h.iface w (List.mem_cons_of_mem v hw)
  names u hu w hw := h.names u (List.mem_cons_of_mem v hu) w (List.mem_cons_of_mem v hw)
  full_pos hf w hw := h.full_pos hf w (List.mem_cons_of_mem v hw)

/-- One entry more, with the references that are counted then. -/
lemma cons {refs' : Multiset ℤ} (h : DynamicVlans full ifaces refs added)
    (hadded : v.added = true ∧ 0 < v.vlanId)
    (hcounts : Counts HostapdVlan.vlanId HostapdVlan.dynamicVlan refs' (v :: added))
    (hiface : 0 < v.dynamicVlan → v.ifname ∈ ifaces)
    (hnames : 0 < v.dynamicVlan → ∀ w ∈ added, 0 < w.dynamicVlan → w.ifname ≠ v.ifname)
    (hfull : full = true → 0 < v.dynamicVlan) : DynamicVlans full ifaces refs' (v :: added) where
  of_added := List.forall_mem_cons.mpr ⟨hadded, h.of_added⟩
  counts := hcounts
  iface := List.forall_mem_cons.mpr ⟨hiface, h.iface⟩
  names := by
    refine List.forall_mem_cons.mpr ⟨?_, fun u hu => ?_⟩
    · refine List.forall_mem_cons.mpr ⟨fun _ _ _ => rfl, fun w hw hv hpos heq => ?_⟩
      exact absurd heq.symm (hnames hv w hw hpos)
    · refine List.forall_mem_cons.mpr ⟨fun hpos hv heq => ?_, h.names u hu⟩
      exact absurd heq (hnames hv u hu hpos)
  full_pos hf := List.forall_mem_cons.mpr ⟨hfull hf, h.full_pos hf⟩

/-- Two interfaces that are in use have different names. -/
lemma ifname_ne (h : DynamicVlans full ifaces refs (v :: added)) (hpos : 0 < v.dynamicVlan) {w : HostapdVlan}
    (hw : w ∈ added) (hw' : 0 < w.dynamicVlan) : w.ifname ≠ v.ifname :=
  fun heq => h.counts.key_ne hw
    (h.names w (List.mem_cons_of_mem v hw) v List.mem_cons_self hw' hpos heq)

/-- One more reference to an entry that has some. -/
lemma acquire (h : DynamicVlans full ifaces refs (v :: added)) (hpos : 0 < v.dynamicVlan) :
    DynamicVlans full ifaces (v.vlanId ::ₘ refs) (v.incr :: added) := by
  refine h.tail.cons (h.of_added v List.mem_cons_self) (h.counts.acquire rfl rfl) ?_ ?_ fun _ => ?_
  · exact fun _ => h.iface v List.mem_cons_self hpos
  · exact fun _ w hw hw' => h.ifname_ne hpos hw hw'
  · simp only [HostapdVlan.incr]
    omega

/-- One reference less, but not the last one. -/
lemma release (h : DynamicVlans full ifaces (v.vlanId ::ₘ refs) (v :: added)) (hpos : 0 < v.decr.dynamicVlan) :
    DynamicVlans full ifaces refs (v.decr :: added) := by
  have hv : 0 < v.dynamicVlan := by
    simp only [HostapdVlan.decr] at hpos
    omega
  refine h.tail.cons (h.of_added v List.mem_cons_self) (h.counts.release rfl rfl) ?_ ?_ fun _ => hpos
  · exact fun _ => h.iface v List.mem_cons_self hv
  · exact fun _ w hw hw' => h.ifname_ne hv hw hw'

/-- The other entries, if the interface of one entry is gone. -/
lemma others (h : DynamicVlans full ifaces (v.vlanId ::ₘ refs) (v :: added)) (hpos : 0 < v.dynamicVlan)
    (hifaces : ∀ ifname ∈ ifaces, ifname ≠ v.ifname → ifname ∈ ifaces') :
    DynamicVlans full ifaces' refs added where
  of_added := h.tail.of_added
  counts := (counts_cons_iff h.counts.key_notMem).mp h.counts.tail
  iface w hw hw' := hifaces _ (h.tail.iface w hw hw') (h.ifname_ne hpos hw hw')
  names := h.tail.names
  full_pos := h.tail.full_pos

/-- The last reference is dropped, the interface goes, and the entry stays. -/
lemma idle (h : DynamicVlans full ifaces (v.vlanId ::ₘ refs) (v :: added)) (hfull : full = false)
    (hpos : 0 < v.dynamicVlan) (hzero : v.decr.dynamicVlan = 0)
    (hifaces : ∀ ifname ∈ ifaces, ifname ≠ v.ifname → ifname ∈ ifaces') :
    DynamicVlans full ifaces' refs (v.decr :: added) := by
  refine (h.others hpos hifaces).cons (h.of_added v List.mem_cons_self) (h.counts.release rfl rfl) ?_ ?_ ?_
  · exact fun hpos' => absurd hzero hpos'.ne'
  · exact fun hpos' => absurd hzero hpos'.ne'
  · simp [hfull]

/-- A new entry with an interface of its own. -/
lemma insert (h : DynamicVlans full ifaces refs added) (hadded : v.added = true ∧ 0 < v.vlanId)
    (hnew : v.vlanId ∉ added.map (·.vlanId)) (hrefs : v.vlanId ∉ refs) (hone : v.dynamicVlan = 1)
    (hifname : v.ifname ∉ ifaces) :
    DynamicVlans full (Insert.insert v.ifname ifaces) (v.vlanId ::ₘ refs) (v :: added) := by
  refine (h.mono (Finset.subset_insert _ _)).cons hadded (h.counts.insert hnew hrefs hone) ?_ ?_ fun _ => ?_
  · exact fun _ => Finset.mem_insert_self _ _
  · exact fun _ w hw hw' heq => hifname (heq ▸ h.iface w hw hw')
  · omega

end DynamicVlans

/-! ## The list of VLANs -/

/-- What is known of the description of an entry: an identifier of the VLAN file is the only VLAN of its
entry, and a wildcard entry is never what a valid description is compared equal to. -/
structure Shaped (entry : ℤ × VlanDescription) : Prop where
  wildcard : entry.1 = vlanIdWildcard → entry.2.notempty = true → entry.2.untagged < 0
  pos : entry.1 ≠ vlanIdWildcard → 0 < entry.1
  single : entry.1 ≠ vlanIdWildcard → entry.1 ≤ maxVlanId → entry.2 = VlanDescription.single entry.1

namespace VlanData

/-- The identifiers and descriptions of the list. -/
def entries (hapd : VlanData) : List (ℤ × VlanDescription) := hapd.vlan.map fun v => (v.vlanId, v.vlanDesc)

/-- The list is right for the given references. -/
structure Table (hapd : VlanData) (refs : Multiset ℤ) (added configured : List HostapdVlan) : Prop where
  list : hapd.vlan = added ++ configured
  dynamic : DynamicVlans hapd.conf.full hapd.ifaces refs added
  of_configured : ∀ v ∈ configured, v.added = false ∧ v.dynamicVlan = 0 ∧ v.vlanId ≤ maxVlanId
  shaped : ∀ entry ∈ hapd.entries, Shaped entry
  closed : ∀ k ∈ refs, k ≠ 0 → ∃ desc, (k, desc) ∈ hapd.entries

variable {hapd : VlanData} {refs : Multiset ℤ} {added configured : List HostapdVlan} {k : ℤ}

lemma mem_entries {entry : ℤ × VlanDescription} :
    entry ∈ hapd.entries ↔ ∃ v ∈ hapd.vlan, (v.vlanId, v.vlanDesc) = entry := List.mem_map

/-- A reference to something else than an added entry is not counted. -/
lemma Table.of_cons (h : hapd.Table (k ::ₘ refs) added configured) (hk : k ∉ added.map (·.vlanId)) :
    hapd.Table refs added configured where
  list := h.list
  dynamic := (DynamicVlans.refs_cons_iff hk).mp h.dynamic
  of_configured := h.of_configured
  shaped := h.shaped
  closed k' hk' := h.closed k' (Multiset.mem_cons_of_mem hk')

lemma Table.cons (h : hapd.Table refs added configured) (hk : k ∉ added.map (·.vlanId))
    (hclosed : k ≠ 0 → ∃ desc, (k, desc) ∈ hapd.entries) : hapd.Table (k ::ₘ refs) added configured where
  list := h.list
  dynamic := (DynamicVlans.refs_cons_iff hk).mpr h.dynamic
  of_configured := h.of_configured
  shaped := h.shaped
  closed k' hk' := by
    rcases Multiset.mem_cons.mp hk' with rfl | hk'
    · exact hclosed
    · exact h.closed k' hk'

/-- The identifier of an added entry is positive, so nothing else is counted. -/
lemma Table.of_nonpos (h : hapd.Table (k ::ₘ refs) added configured) (hk : k ≤ 0) :
    hapd.Table refs added configured :=
  h.of_cons fun hmem => by
    obtain ⟨v, hv, hid⟩ := List.mem_map.mp hmem
    exact absurd (h.dynamic.of_added v hv).2 (by omega)

/-- Where an entry with a positive count is found it is an added one. -/
lemma Table.find_counted (h : hapd.Table refs added configured) {v : HostapdVlan}
    (hfind : KeyedList.find HostapdVlan.counted (k, true) hapd.vlan = some v) :
    KeyedList.find HostapdVlan.counted (k, true) added = some v ∧ v.vlanId = k ∧ 0 < v.dynamicVlan := by
  have hkey : v.vlanId = k ∧ 0 < v.dynamicVlan := by
    simpa [HostapdVlan.counted] using KeyedList.key_of_find hfind
  refine ⟨?_, hkey⟩
  rw [h.list, KeyedList.find_append] at hfind
  cases hadded : KeyedList.find HostapdVlan.counted (k, true) added with
  | some w => rwa [hadded, Option.some_or] at hfind
  | none =>
    rw [hadded, Option.none_or] at hfind
    have hzero := (h.of_configured v (KeyedList.mem_of_find hfind)).2.1
    omega

/-- If none is found then the reference is to something else. -/
lemma Table.notMem_of_find (h : hapd.Table (k ::ₘ refs) added configured)
    (hfind : KeyedList.find HostapdVlan.counted (k, true) hapd.vlan = none) : k ∉ added.map (·.vlanId) := by
  intro hmem
  obtain ⟨v, hv, rfl⟩ := List.mem_map.mp hmem
  have hpos : 0 < v.dynamicVlan := (h.dynamic.counts.pos_iff hv).mpr (Multiset.mem_cons_self _ _)
  refine KeyedList.find_eq_none_iff.mp hfind (List.mem_map.mpr ⟨v, ?_, ?_⟩)
  · rw [h.list]
    exact List.mem_append_left _ hv
  · simp [HostapdVlan.counted, hpos]

@[simp] lemma vlanIfRemove_vlan (ifname : CString) (ok : Bool) : (hapd.vlanIfRemove ifname ok).vlan = hapd.vlan :=
  rfl

@[simp] lemma vlanIfRemove_conf (ifname : CString) (ok : Bool) : (hapd.vlanIfRemove ifname ok).conf = hapd.conf :=
  rfl

@[simp] lemma vlanIfRemove_staList (ifname : CString) (ok : Bool) :
    (hapd.vlanIfRemove ifname ok).staList = hapd.staList := rfl

/-- At most this one interface goes. -/
lemma mem_vlanIfRemove {ifname name : CString} (ok : Bool) (hmem : name ∈ hapd.ifaces) (hne : name ≠ ifname) :
    name ∈ (hapd.vlanIfRemove ifname ok).ifaces := by
  unfold vlanIfRemove
  split_ifs
  · exact Finset.mem_erase.mpr ⟨hne, hmem⟩
  · exact hmem

@[simp] lemma vlanDellink_conf (ifname : CString) (ok : Bool) : (hapd.vlanDellink ifname ok).conf = hapd.conf := by
  unfold vlanDellink
  split
  · rfl
  · split_ifs <;> rfl

@[simp] lemma vlanDellink_staList (ifname : CString) (ok : Bool) :
    (hapd.vlanDellink ifname ok).staList = hapd.staList := by
  unfold vlanDellink
  split
  · rfl
  · split_ifs <;> rfl

lemma vlanDellink_vlan (ifname : CString) (ok : Bool) :
    (hapd.vlanDellink ifname ok).vlan = KeyedList.remove (·.ifname) ifname hapd.vlan := by
  unfold vlanDellink
  split
  · rename_i hfind
    have hnone := KeyedList.find_eq_none_iff.mp hfind
    refine (List.eraseP_of_forall_not fun v hv => ?_).symm
    simpa using fun heq => hnone (List.mem_map.mpr ⟨v, hv, heq⟩)
  · split_ifs <;> rfl

lemma mem_vlanDellink {ifname name : CString} (ok : Bool) (hmem : name ∈ hapd.ifaces) (hne : name ≠ ifname) :
    name ∈ (hapd.vlanDellink ifname ok).ifaces := by
  unfold vlanDellink
  split
  · exact hmem
  · rename_i v hfind
    rw [← KeyedList.key_of_find hfind] at hne
    dsimp only
    split_ifs
    · exact mem_vlanIfRemove ok hmem hne
    · exact hmem

@[simp] lemma vlanRemoveDynamic_conf (out : RemoveOutcome) :
    (hapd.vlanRemoveDynamic k out).conf = hapd.conf := by
  unfold vlanRemoveDynamic
  split_ifs
  · rfl
  · split
    · rfl
    · dsimp only
      split_ifs <;> simp

@[simp] lemma vlanRemoveDynamic_staList (out : RemoveOutcome) :
    (hapd.vlanRemoveDynamic k out).staList = hapd.staList := by
  unfold vlanRemoveDynamic
  split_ifs
  · rfl
  · split
    · rfl
    · dsimp only
      split_ifs <;> simp

/-- The list is right for one reference less.  The entries that somebody still refers to are kept. -/
structure Released (hapd hapd' : VlanData) (refs : Multiset ℤ) (configured : List HostapdVlan) : Prop where
  table : ∃ added, hapd'.Table refs added configured
  kept : ∀ entry ∈ hapd.entries, entry.1 ∈ refs → entry ∈ hapd'.entries

lemma Table.released (h : hapd.Table refs added configured) : Released hapd hapd refs configured :=
  ⟨⟨added, h⟩, fun _ hmem _ => hmem⟩

/-- A write to an added entry that changes its count only. -/
lemma Table.assign {κ : Type*} [DecidableEq κ] {key : HostapdVlan → κ} {kv : κ} {f : HostapdVlan → HostapdVlan}
    {v : HostapdVlan} {refs' : Multiset ℤ} {hapd' : VlanData} (h : hapd.Table refs added configured)
    (hf : ∀ w, (f w).vlanId = w.vlanId ∧ (f w).vlanDesc = w.vlanDesc)
    (hfind : KeyedList.find key kv added = some v) (hconf : hapd'.conf = hapd.conf)
    (hvlan : hapd'.vlan = KeyedList.assign key kv f hapd.vlan)
    (hdynamic : ∀ others, added.Perm (v :: others) →
      DynamicVlans hapd.conf.full hapd'.ifaces refs' (f v :: others))
    (hclosed : ∀ k ∈ refs', k ≠ 0 → ∃ desc, (k, desc) ∈ hapd.entries) :
    (∃ added', hapd'.Table refs' added' configured) ∧ hapd'.entries = hapd.entries := by
  have hentries : hapd'.entries = hapd.entries := by
    unfold entries
    rw [hvlan, KeyedList.map_assign fun w => by rw [(hf w).1, (hf w).2]]
  refine ⟨⟨KeyedList.assign key kv f added, ?_, ?_, h.of_configured, ?_, ?_⟩, hentries⟩
  · rw [hvlan, h.list, KeyedList.assign_append_left hfind]
  · rw [hconf]
    exact (hdynamic _ (KeyedList.perm_remove hfind)).perm (KeyedList.perm_assign hfind _).symm
  · exact hentries ▸ h.shaped
  · exact hentries ▸ hclosed

/-- Decrementing the count of an added entry. -/
lemma Table.decr {v : HostapdVlan} {hapd' : VlanData} (h : hapd.Table (k ::ₘ refs) added configured)
    (hfind : KeyedList.find HostapdVlan.counted (k, true) added = some v) (hconf : hapd'.conf = hapd.conf)
    (hvlan : hapd'.vlan = KeyedList.assign HostapdVlan.counted (k, true) HostapdVlan.decr hapd.vlan)
    (hdynamic : ∀ others, added.Perm (v :: others) →
      DynamicVlans hapd.conf.full hapd'.ifaces refs (v.decr :: others)) :
    Released hapd hapd' refs configured := by
  obtain ⟨htable, hentries⟩ := h.assign (f := HostapdVlan.decr) (fun _ => ⟨rfl, rfl⟩) hfind hconf hvlan hdynamic
    fun k' hk' => h.closed k' (Multiset.mem_cons_of_mem hk')
  exact ⟨htable, fun entry hmem _ => hentries ▸ hmem⟩

/-- In an entry whose last reference is dropped nothing is left to count. -/
lemma Table.notMem_refs (h : hapd.Table (k ::ₘ refs) added configured) {v : HostapdVlan} (hv : v ∈ added)
    (hk : v.vlanId = k) (hzero : v.dynamicVlan - 1 = 0) : k ∉ refs := by
  have hcount := h.dynamic.counts.count_eq v hv
  rw [hk, Multiset.count_cons_self] at hcount
  rw [← Multiset.count_eq_zero]
  push_cast at hcount
  omega

/-- Unlinking an entry by its name, when it is the only one with that name. -/
lemma Table.unlink {v : HostapdVlan} {others : List HostapdVlan} {hapd' : VlanData}
    (hlist : hapd.vlan = added ++ configured) (hperm : added.Perm (v :: others))
    (hnames : ∀ w ∈ others, w.ifname ≠ v.ifname) (hconf : hapd'.conf = hapd.conf)
    (hvlan : hapd'.vlan = KeyedList.remove (·.ifname) v.ifname hapd.vlan)
    (hdynamic : DynamicVlans hapd.conf.full hapd'.ifaces refs others)
    (hconfigured : ∀ w ∈ configured, w.added = false ∧ w.dynamicVlan = 0 ∧ w.vlanId ≤ maxVlanId)
    (hshaped : ∀ entry ∈ hapd.entries, Shaped entry)
    (hclosed : ∀ k ∈ refs, k ≠ 0 → ∃ desc, (k, desc) ∈ hapd.entries) (hrefs : v.vlanId ∉ refs) :
    Released hapd hapd' refs configured := by
  -- the entry that is found under the name is the one that was written to
  obtain ⟨u, hfind⟩ : ∃ u, KeyedList.find (·.ifname) v.ifname added = some u := by
    rw [← Option.isSome_iff_exists, KeyedList.find_isSome_iff]
    exact List.mem_map_of_mem (hperm.mem_iff.mpr List.mem_cons_self)
  obtain rfl : u = v := by
    rcases List.mem_cons.mp (hperm.mem_iff.mp (KeyedList.mem_of_find hfind)) with heq | hmem
    · exact heq
    · exact absurd (KeyedList.key_of_find hfind) (hnames u hmem)
  have hothers : (KeyedList.remove (·.ifname) u.ifname added).Perm others :=
    ((KeyedList.perm_remove hfind).symm.trans hperm).cons_inv
  have hvlan' : hapd'.vlan = KeyedList.remove (·.ifname) u.ifname added ++ configured := by
    rw [hvlan, hlist, KeyedList.remove_append hfind]
  have hkept : ∀ entry ∈ hapd.entries, entry.1 ∈ refs → entry ∈ hapd'.entries := by
    intro entry hentry hmem
    obtain ⟨w, hw, rfl⟩ := mem_entries.mp hentry
    rw [hlist, List.mem_append, hperm.mem_iff, List.mem_cons, or_assoc] at hw
    refine mem_entries.mpr ⟨w, ?_, rfl⟩
    rw [hvlan', List.mem_append, hothers.mem_iff]
    exact hw.resolve_left fun heq => hrefs (heq ▸ hmem)
  refine ⟨⟨KeyedList.remove (·.ifname) u.ifname added, hvlan', ?_, hconfigured, ?_, ?_⟩, hkept⟩
  · rw [hconf]
    exact hdynamic.perm hothers.symm
  · intro entry hentry
    obtain ⟨w, hw, rfl⟩ := mem_entries.mp hentry
    exact hshaped _ (mem_entries.mpr ⟨w, (KeyedList.remove_sublist _ _).subset (hvlan ▸ hw), rfl⟩)
  · intro k hk hne
    obtain ⟨desc, hmem⟩ := hclosed k hk hne
    exact ⟨desc, hkept _ hmem hk⟩

/-- What `vlan_remove_dynamic` does to the list. -/
lemma Table.vlanRemoveDynamic (h : hapd.Table (k ::ₘ refs) added configured) (out : RemoveOutcome) :
    Released hapd (hapd.vlanRemoveDynamic k out) refs configured := by
  have hclosed : ∀ k' ∈ refs, k' ≠ 0 → ∃ desc, (k', desc) ∈ hapd.entries :=
    fun k' hk' => h.closed k' (Multiset.mem_cons_of_mem hk')
  unfold VlanData.vlanRemoveDynamic
  split_ifs with hk
  · exact (h.of_nonpos hk).released
  · cases hfind : KeyedList.find HostapdVlan.counted (k, true) hapd.vlan with
    | none => exact (h.of_cons (h.notMem_of_find hfind)).released
    | some v =>
      obtain ⟨hfind', hid, hpos⟩ := h.find_counted hfind
      have hdynamic : ∀ {others}, added.Perm (v :: others) →
          DynamicVlans hapd.conf.full hapd.ifaces (v.vlanId ::ₘ refs) (v :: others) :=
        fun hperm => hid ▸ h.dynamic.perm hperm
      dsimp only
      set hapd₁ : VlanData := { hapd with
        vlan := KeyedList.assign HostapdVlan.counted (k, true) HostapdVlan.decr hapd.vlan } with hhapd₁
      have hentries₁ : hapd₁.entries = hapd.entries :=
        KeyedList.map_assign (f := HostapdVlan.decr) (fun _ => rfl) _ _
      split_ifs with hzero hfull
      · -- the entry is unlinked
        have hperm := KeyedList.perm_remove hfind'
        have hrefs : v.vlanId ∉ refs := hid ▸ h.notMem_refs (KeyedList.mem_of_find hfind') hid hzero
        have hreleased : Released hapd₁ ((hapd₁.vlanIfRemove v.ifname out.ifRemove).vlanDellink v.ifname out.again)
            refs configured := by
          refine Table.unlink (v := v.decr) (by rw [← KeyedList.assign_append_left hfind', ← h.list])
            (KeyedList.perm_assign hfind' _) ?_ (by simp) (by rw [vlanDellink_vlan]; rfl) ?_ h.of_configured
            (hentries₁ ▸ h.shaped) (hentries₁ ▸ hclosed) hrefs
          · exact fun w hw => (hdynamic hperm).ifname_ne hpos hw ((hdynamic hperm).tail.full_pos hfull w hw)
          · exact (hdynamic hperm).others hpos fun ifname hmem hne =>
              mem_vlanDellink _ (mem_vlanIfRemove _ hmem hne) hne
        exact ⟨hreleased.table, fun entry hmem => hreleased.kept entry (hentries₁ ▸ hmem)⟩
      · -- the entry is left behind
        have hfull : hapd.conf.full = false := by simpa using hfull
        exact h.decr hfind' rfl rfl fun others hperm =>
          (hdynamic hperm).idle hfull hpos hzero fun ifname hmem hne => mem_vlanIfRemove _ hmem hne
      · have hpos' : 0 < v.decr.dynamicVlan := by
          simp only [HostapdVlan.decr]
          omega
        exact h.decr hfind' rfl rfl fun others hperm => (hdynamic hperm).release hpos'

/-! ## One more reference -/

/-- The entry that is found under a valid description is not a wildcard entry. -/
lemma Table.compare_ne_wildcard (h : hapd.Table refs added configured) {desc : VlanDescription}
    (hvalid : desc.Valid) (hnotempty : desc.notempty = true) {v : HostapdVlan}
    (hfind : KeyedList.find (HostapdVlan.compare (some desc)) 0 hapd.vlan = some v) :
    v.vlanId ≠ vlanIdWildcard := by
  intro hwild
  have hkey : v.compare (some desc) = 0 := KeyedList.key_of_find hfind
  obtain ⟨hv, huntagged, -⟩ := (vlanCompare_some_eq_zero hnotempty).mp hkey
  have hneg := (h.shaped _ (mem_entries.mpr ⟨v, KeyedList.mem_of_find hfind, rfl⟩)).wildcard hwild hv
  have hnonneg := hvalid.untagged_nonneg
  dsimp only at hneg
  omega

/-- An identifier of the VLAN file that is in the list is found under its description. -/
lemma Table.find_single (h : hapd.Table refs added configured) {vlanId : ℤ} (hid : vlanId ≠ vlanIdWildcard)
    (hle : vlanId ≤ maxVlanId) {v : HostapdVlan} (hv : v ∈ hapd.vlan) (hvid : v.vlanId = vlanId) :
    v.compare (some (VlanDescription.single vlanId)) = 0 := by
  subst hvid
  have hdesc := (h.shaped _ (mem_entries.mpr ⟨v, hv, rfl⟩)).single hid hle
  dsimp only at hdesc
  rw [HostapdVlan.compare, hdesc]
  exact vlanCompare_self _

/-- What `ap_sta_set_vlan` has done before it writes to the station: a reference to the identifier. -/
structure Acquired (hapd hapd' : VlanData) (refs : Multiset ℤ) (vlan : Option HostapdVlan) (vlanId : ℤ) :
    Prop where
  table : ∃ added configured, hapd'.Table (vlanId ::ₘ refs) added configured
  kept : ∀ entry ∈ hapd.entries, entry ∈ hapd'.entries
  conf : hapd'.conf = hapd.conf
  staList : hapd'.staList = hapd.staList
  described : ∀ v ∈ vlan, (vlanId, v.vlanDesc) ∈ hapd'.entries
  unset : vlan = none → vlanId = 0
  nonneg : 0 ≤ vlanId

/-- Zero is nobody's identifier. -/
lemma Table.cons_zero (h : hapd.Table refs added configured) : hapd.Table (0 ::ₘ refs) added configured := by
  refine h.cons (fun hmem => ?_) fun hne => absurd rfl hne
  obtain ⟨v, hv, hid⟩ := List.mem_map.mp hmem
  exact absurd (h.dynamic.of_added v hv).2 (by omega)

lemma Table.zero (h : hapd.Table refs added configured) : Acquired hapd hapd refs none 0 where
  table := ⟨added, configured, h.cons_zero⟩
  kept _ hmem := hmem
  conf := rfl
  staList := rfl
  described := by simp
  unset _ := rfl
  nonneg := le_rfl

/-- No interface goes that was there before. -/
lemma subset_vlanIfAdd (vlan : HostapdVlan) (out : AddOutcome) :
    hapd.ifaces ⊆ (hapd.vlanIfAdd vlan false out).1 := by
  unfold vlanIfAdd
  by_cases hmem : vlan.ifname ∈ hapd.ifaces
  · simp [hmem]
  · -- the name is not one of an existing interface, so removing it again does not matter
    dsimp only
    split_ifs
    · exact subset_rfl
    · exact subset_rfl
    · exact subset_rfl
    · exact Finset.subset_insert _ _
    · exact (Finset.erase_insert hmem).ge
    · exact Finset.subset_insert _ _

lemma vlanIfAdd_spec {vlan : HostapdVlan} {out : AddOutcome} (hok : (hapd.vlanIfAdd vlan false out).2 = true) :
    vlan.ifname ∉ hapd.ifaces ∧ (hapd.vlanIfAdd vlan false out).1 = insert vlan.ifname hapd.ifaces := by
  unfold vlanIfAdd at hok ⊢
  dsimp only at hok ⊢
  split_ifs at hok ⊢ with _ _ hmem
  exact ⟨fun h => hmem ⟨h, rfl⟩, rfl⟩

/-- What a station gets that is assigned to nothing because there was an error. -/
lemma Table.ifaces (h : hapd.Table refs added configured) {ifaces : Finset CString} (hsub : hapd.ifaces ⊆ ifaces) :
    Acquired hapd { hapd with ifaces } refs none 0 := by
  have htable : Table { hapd with ifaces } refs added configured :=
    ⟨h.list, h.dynamic.mono hsub, h.of_configured, h.shaped, h.closed⟩
  exact ⟨htable.zero.table, fun _ hmem => hmem, rfl, rfl, by simp, fun _ => rfl, le_rfl⟩

/-- The outcomes of `vlan_add_dynamic`: an error, after which no interface is gone, and a new entry with a new
interface. -/
lemma vlanAddDynamic_cases (hapd : VlanData) (k : ℤ) (vlan : HostapdVlan) (vlanDesc : Option VlanDescription) (out : AddOutcome) :
    (∃ ifaces, hapd.ifaces ⊆ ifaces ∧ hapd.vlanAddDynamic vlan k vlanDesc out = ({ hapd with ifaces }, none)) ∨
      ∃ n : HostapdVlan, n.vlanId = k ∧ n.vlanDesc = vlanDesc.getD .zero ∧ n.dynamicVlan = 1 ∧ n.added = true ∧
        n.ifname ∉ hapd.ifaces ∧ hapd.vlanAddDynamic vlan k vlanDesc out =
          ({ hapd with vlan := n :: hapd.vlan, ifaces := insert n.ifname hapd.ifaces }, some n) := by
  unfold vlanAddDynamic
  by_cases hwild : vlan.vlanId ≠ vlanIdWildcard
  · rw [if_pos hwild]
    exact Or.inl ⟨hapd.ifaces, subset_rfl, rfl⟩
  · rw [if_neg hwild]
    cases dynamicIfname vlan.ifname k with
    | none => exact Or.inl ⟨hapd.ifaces, subset_rfl, rfl⟩
    | some ifname =>
      dsimp only
      split_ifs with hzalloc hok
      · exact Or.inl ⟨hapd.ifaces, subset_rfl, rfl⟩
      · obtain ⟨hnew, hifaces⟩ := vlanIfAdd_spec hok
        refine Or.inr ⟨_, rfl, rfl, rfl, rfl, hnew, ?_⟩
        rw [hifaces]
      · exact Or.inl ⟨_, subset_vlanIfAdd _ _, rfl⟩

/-- A new entry at the head of the list. -/
lemma Table.insert (h : hapd.Table refs added configured) {n : HostapdVlan} (hnew : n.vlanId ∉ hapd.vlan.map (·.vlanId))
    (hpos : 0 < n.vlanId) (hshaped : Shaped (n.vlanId, n.vlanDesc)) (hone : n.dynamicVlan = 1)
    (hadded : n.added = true) (hifname : n.ifname ∉ hapd.ifaces) :
    Acquired hapd { hapd with vlan := n :: hapd.vlan, ifaces := Insert.insert n.ifname hapd.ifaces } refs (some n)
      n.vlanId := by
  have hnotin : n.vlanId ∉ added.map (·.vlanId) := by
    intro hmem
    refine hnew ?_
    rw [h.list, List.map_append]
    exact List.mem_append_left _ hmem
  have hrefs : n.vlanId ∉ refs := by
    intro hmem
    obtain ⟨desc, hentry⟩ := h.closed _ hmem hpos.ne'
    obtain ⟨v, hv, heq⟩ := mem_entries.mp hentry
    exact hnew (List.mem_map.mpr ⟨v, hv, congrArg Prod.fst heq⟩)
  refine ⟨⟨n :: added, configured, ?_, ?_, h.of_configured, ?_, ?_⟩, ?_, rfl, rfl, ?_, by simp, hpos.le⟩
  · rw [h.list, List.cons_append]
  · exact h.dynamic.insert ⟨hadded, hpos⟩ hnotin hrefs hone hifname
  · exact List.forall_mem_cons.mpr ⟨hshaped, h.shaped⟩
  · intro k hk hne
    rcases Multiset.mem_cons.mp hk with rfl | hk
    · exact ⟨n.vlanDesc, List.mem_cons_self⟩
    · obtain ⟨desc, hentry⟩ := h.closed k hk hne
      exact ⟨desc, List.mem_cons_of_mem _ hentry⟩
  · exact fun entry hentry => List.mem_cons_of_mem _ hentry
  · intro v hv
    obtain rfl := Option.some.inj hv
    exact List.mem_cons_self

/-- The outcomes of the choice of an entry, for a valid description. -/
lemma Table.chooseVlan_cases (h : hapd.Table refs added configured) {vlanDesc : Option VlanDescription}
    (hvalid : ∀ desc ∈ vlanDesc, desc.notempty = true → desc.Valid) :
    hapd.chooseVlan vlanDesc = none ∨ hapd.chooseVlan vlanDesc = some (none, 0) ∨
      (∃ vlan k, hapd.chooseVlan vlanDesc = some (some vlan, k) ∧ vlan.vlanId = vlanIdWildcard ∧
        k ∉ hapd.vlan.map (·.vlanId) ∧ 0 < k ∧ Shaped (k, vlanDesc.getD .zero)) ∨
      ∃ desc v, vlanDesc = some desc ∧ desc.notempty = true ∧ hapd.conf.perStaVif = false ∧
        KeyedList.find (HostapdVlan.compare vlanDesc) 0 hapd.vlan = some v ∧ v.vlanId ≠ vlanIdWildcard ∧
        hapd.chooseVlan vlanDesc = some (some v, v.vlanId) := by
  obtain ⟨hgt, hfree⟩ := apStaGetFreeVlanId_spec hapd.vlan
  have hfreeShaped : Shaped (apStaGetFreeVlanId hapd.vlan, vlanDesc.getD .zero) := by
    unfold maxVlanId at hgt
    refine ⟨fun heq => ?_, fun _ => ?_, fun _ hle => ?_⟩
    · simp only [vlanIdWildcard] at heq
      omega
    · dsimp only
      omega
    · exact absurd hgt (by simpa [maxVlanId] using hle)
  have hfreePos : 0 < apStaGetFreeVlanId hapd.vlan := hfreeShaped.pos fun heq => by
    simp only [vlanIdWildcard, maxVlanId] at heq hgt
    omega
  unfold chooseVlan
  cases hvif : hapd.conf.perStaVif with
  | true =>
    rw [if_pos rfl]
    cases hfind : KeyedList.find (·.vlanId) vlanIdWildcard hapd.vlan with
    | none => exact Or.inl rfl
    | some vlan =>
      have hwild : vlan.vlanId = vlanIdWildcard := KeyedList.key_of_find hfind
      exact Or.inr (Or.inr (Or.inl ⟨vlan, _, rfl, hwild, hfree, hfreePos, hfreeShaped⟩))
  | false =>
    rw [if_neg (by simp)]
    cases hfilter : vlanDesc.filter (·.notempty) with
    | none => exact Or.inr (Or.inl rfl)
    | some desc =>
      obtain ⟨hdesc, hnotempty⟩ := Option.filter_eq_some_iff.mp hfilter
      have hdescValid := hvalid desc hdesc hnotempty
      subst hdesc
      dsimp only
      cases hfind : KeyedList.find (HostapdVlan.compare (some desc)) 0 hapd.vlan with
      | some v =>
        exact Or.inr (Or.inr (Or.inr
          ⟨desc, v, rfl, hnotempty, rfl, rfl, h.compare_ne_wildcard hdescValid hnotempty hfind, rfl⟩))
      | none =>
        dsimp only
        cases hlast : KeyedList.find (·.vlanId) vlanIdWildcard hapd.vlan.reverse with
        | none => exact Or.inl rfl
        | some vlan =>
          have hwild : vlan.vlanId = vlanIdWildcard := KeyedList.key_of_find hlast
          refine Or.inr (Or.inr (Or.inl ⟨vlan, _, rfl, hwild, ?_⟩))
          split_ifs with htagged
          · exact ⟨hfree, hfreePos, hfreeShaped⟩
          · -- an untagged VLAN that is in the list would have been found
            have htagged' : desc.tagged[0] = 0 := by simpa using htagged
            have hne : desc.untagged ≠ 0 := hdescValid.some_vlan.resolve_right (by simpa using htagged')
            have hpos : 0 < desc.untagged := lt_of_le_of_ne hdescValid.untagged_nonneg hne.symm
            have hsingle : desc = VlanDescription.single desc.untagged := by
              rw [VlanDescription.single, ← hdescValid.tagged_first htagged', ← hnotempty]
            have hnotwild : desc.untagged ≠ vlanIdWildcard := by
              simp only [vlanIdWildcard]
              omega
            refine ⟨fun hmem => ?_, hpos, fun heq => absurd heq hnotwild, fun _ => hpos, fun _ _ => hsingle⟩
            obtain ⟨v, hv, hid⟩ := List.mem_map.mp hmem
            have hcompare := h.find_single hnotwild hdescValid.untagged_le hv hid
            rw [← hsingle] at hcompare
            exact KeyedList.find_eq_none_iff.mp hfind (List.mem_map.mpr ⟨v, hv, hcompare⟩)

/-- Entries with the same identifier have the same description. -/
lemma Table.entry_unique (h : hapd.Table refs added configured) {desc desc' : VlanDescription}
    (hk : k ≠ vlanIdWildcard) (hdesc : (k, desc) ∈ hapd.entries) (hdesc' : (k, desc') ∈ hapd.entries) :
    desc = desc' := by
  by_cases hle : k ≤ maxVlanId
  · exact ((h.shaped _ hdesc).single hk hle).trans ((h.shaped _ hdesc').single hk hle).symm
  · have hadded : ∀ {d}, (k, d) ∈ hapd.entries → ∃ v ∈ added, v.vlanId = k ∧ v.vlanDesc = d := by
      intro d hd
      obtain ⟨v, hv, heq⟩ := mem_entries.mp hd
      obtain ⟨hid, hvd⟩ := Prod.mk.inj heq
      rw [h.list] at hv
      rcases List.mem_append.mp hv with hv | hv
      · exact ⟨v, hv, hid, hvd⟩
      · exact absurd (hid ▸ (h.of_configured v hv).2.2) hle
    obtain ⟨v, hv, hid, rfl⟩ := hadded hdesc
    obtain ⟨w, hw, hid', rfl⟩ := hadded hdesc'
    have hfind := KeyedList.find_of_mem h.dynamic.counts.distinct hv
    rw [hid, ← hid', KeyedList.find_of_mem h.dynamic.counts.distinct hw] at hfind
    rw [Option.some.inj hfind]

/-- One more reference to an entry in the list whose count is positive, found in one way or another. -/
lemma Table.incr {κ : Type*} [DecidableEq κ] {key : HostapdVlan → κ} {kv : κ} {v : HostapdVlan}
    (h : hapd.Table refs added configured) (hfind : KeyedList.find key kv hapd.vlan = some v)
    (hpos : 0 < v.dynamicVlan) :
    (∃ added', Table { hapd with vlan := KeyedList.assign key kv HostapdVlan.incr hapd.vlan }
        (v.vlanId ::ₘ refs) added' configured) ∧
      entries { hapd with vlan := KeyedList.assign key kv HostapdVlan.incr hapd.vlan } = hapd.entries := by
  have hentry : (v.vlanId, v.vlanDesc) ∈ hapd.entries := mem_entries.mpr ⟨v, KeyedList.mem_of_find hfind, rfl⟩
  have hfind' : KeyedList.find key kv added = some v := by
    rw [h.list, KeyedList.find_append] at hfind
    cases hadded : KeyedList.find key kv added with
    | some w => rwa [hadded, Option.some_or] at hfind
    | none =>
      rw [hadded, Option.none_or] at hfind
      exact absurd (h.of_configured v (KeyedList.mem_of_find hfind)).2.1 hpos.ne'
  refine h.assign (f := HostapdVlan.incr) (fun _ => ⟨rfl, rfl⟩) hfind' rfl rfl
    (fun others hperm => (h.dynamic.perm hperm).acquire hpos) fun k hk hne => ?_
  rcases Multiset.mem_cons.mp hk with rfl | hk
  · exact ⟨_, hentry⟩
  · exact h.closed k hk hne

/-- A reference to an entry of the configuration is not counted. -/
lemma Table.cons_configured {κ : Type*} [DecidableEq κ] {key : HostapdVlan → κ} {kv : κ} {v : HostapdVlan}
    (h : hapd.Table refs added configured) (hfind : KeyedList.find key kv hapd.vlan = some v)
    (hv : v.added = false) (hid : v.vlanId ≠ vlanIdWildcard)
    (hkey : ∀ w, (w.vlanId, w.vlanDesc) = (v.vlanId, v.vlanDesc) → key w = kv) :
    hapd.Table (v.vlanId ::ₘ refs) added configured := by
  have hmem := KeyedList.mem_of_find hfind
  have hentry : (v.vlanId, v.vlanDesc) ∈ hapd.entries := mem_entries.mpr ⟨v, hmem, rfl⟩
  refine h.cons (fun hadded => ?_) fun _ => ⟨_, hentry⟩
  obtain ⟨w, hw, hwid⟩ := List.mem_map.mp hadded
  -- an added entry with this identifier has the same description, so it would be found before
  have hwl : w ∈ hapd.vlan := by
    rw [h.list]
    exact List.mem_append_left _ hw
  have hdesc := h.entry_unique hid (mem_entries.mpr ⟨w, hwl, by rw [hwid]⟩) hentry
  obtain ⟨u, hu⟩ : ∃ u, KeyedList.find key kv added = some u := by
    rw [← Option.isSome_iff_exists, KeyedList.find_isSome_iff]
    exact List.mem_map.mpr ⟨w, hw, hkey w (by rw [hwid, hdesc])⟩
  rw [h.list, KeyedList.find_append, hu, Option.some_or] at hfind
  obtain rfl := Option.some.inj hfind
  exact absurd (h.dynamic.of_added u (KeyedList.mem_of_find hu)).1 (by simp [hv])

/-- What the middle of `ap_sta_set_vlan` does.  The station gets a new identifier, or that of an entry with its
description. -/
lemma Table.acquireVlan (h : hapd.Table refs added configured) {vlanDesc : Option VlanDescription}
    (hvalid : ∀ desc ∈ vlanDesc, desc.notempty = true → desc.Valid)
    (hidle : hapd.conf.perStaVif = false → ∀ desc ∈ vlanDesc, desc.notempty = true →
      ∀ v ∈ KeyedList.find (HostapdVlan.compare vlanDesc) 0 hapd.vlan, v.added = true → 0 < v.dynamicVlan)
    (out : AddOutcome) {hapd' : VlanData} {vlan : Option HostapdVlan} {vlanId ret : ℤ}
    (hacquire : hapd.acquireVlan vlanDesc out = (hapd', vlan, vlanId, ret)) :
    Acquired hapd hapd' refs vlan vlanId ∧
      (vlanId = 0 ∨ vlanId ∉ hapd.vlan.map (·.vlanId) ∨
        hapd.conf.perStaVif = false ∧ vlanDesc ≠ none ∧ ∃ v ∈ vlan, v.compare vlanDesc = 0) := by
  unfold VlanData.acquireVlan at hacquire
  obtain hnone | hempty | ⟨w, k, hsome, hwild, hnew, hpos, hshaped⟩ |
    ⟨desc, v, rfl, hnotempty, hvif, hfind, hnotwild, hsome⟩ := h.chooseVlan_cases hvalid
  · rw [hnone] at hacquire
    obtain ⟨rfl, rfl, rfl, rfl⟩ : hapd = hapd' ∧ none = vlan ∧ 0 = vlanId ∧ -1 = ret := by simpa using hacquire
    exact ⟨h.zero, Or.inl rfl⟩
  · rw [hempty] at hacquire
    obtain ⟨rfl, rfl, rfl, rfl⟩ : hapd = hapd' ∧ none = vlan ∧ 0 = vlanId ∧ 0 = ret := by simpa using hacquire
    exact ⟨h.zero, Or.inl rfl⟩
  · rw [hsome] at hacquire
    dsimp only at hacquire
    rw [if_pos hwild] at hacquire
    rcases vlanAddDynamic_cases hapd k w vlanDesc out with
      ⟨ifaces, hsub, hadd⟩ | ⟨n, hid, hdesc, hone, hadded, hifname, hadd⟩
    · rw [hadd] at hacquire
      obtain ⟨rfl, rfl, rfl, rfl⟩ : { hapd with ifaces } = hapd' ∧ none = vlan ∧ 0 = vlanId ∧ -1 = ret := by
        simpa using hacquire
      exact ⟨h.ifaces hsub, Or.inl rfl⟩
    · subst hid
      rw [hadd] at hacquire
      obtain ⟨rfl, rfl, rfl, rfl⟩ : { hapd with vlan := n :: hapd.vlan, ifaces := Insert.insert n.ifname hapd.ifaces } =
          hapd' ∧ some n = vlan ∧ n.vlanId = vlanId ∧ 0 = ret := by
        simpa using hacquire
      exact ⟨h.insert hnew hpos (hdesc ▸ hshaped) hone hadded hifname, Or.inr (Or.inl hnew)⟩
  · have hcompare : v.compare (some desc) = 0 := KeyedList.key_of_find hfind
    have hentry : (v.vlanId, v.vlanDesc) ∈ hapd.entries := mem_entries.mpr ⟨v, KeyedList.mem_of_find hfind, rfl⟩
    have hpos : 0 ≤ v.vlanId := ((h.shaped _ hentry).pos hnotwild).le
    rw [hsome] at hacquire
    dsimp only at hacquire
    rw [if_neg hnotwild] at hacquire
    split_ifs at hacquire with hdyn
    · obtain ⟨rfl, rfl, rfl, rfl⟩ : { hapd with
          vlan := KeyedList.assign (HostapdVlan.compare (some desc)) 0 HostapdVlan.incr hapd.vlan } = hapd' ∧
          some v = vlan ∧ v.vlanId = vlanId ∧ 0 = ret := by
        simpa using hacquire
      obtain ⟨⟨added', htable⟩, hentries⟩ := h.incr hfind hdyn
      refine ⟨⟨⟨added', configured, htable⟩, ?_, rfl, rfl, ?_, by simp, hpos⟩,
        Or.inr (Or.inr ⟨hvif, by simp, v, rfl, hcompare⟩)⟩
      · exact fun entry hmem => hentries ▸ hmem
      · intro u hu
        obtain rfl := Option.some.inj hu
        exact hentries ▸ hentry
    · obtain ⟨rfl, rfl, rfl, rfl⟩ : hapd = hapd' ∧ some v = vlan ∧ v.vlanId = vlanId ∧ 0 = ret := by
        simpa using hacquire
      have hconfigured : v.added = false := by
        by_contra hv
        exact hdyn (hidle hvif desc rfl hnotempty v hfind (by simpa using hv))
      have htable := h.cons_configured hfind hconfigured hnotwild fun u hu => by
        rw [← hcompare, HostapdVlan.compare, (Prod.mk.inj hu).2]
        rfl
      refine ⟨⟨⟨added, configured, htable⟩, fun _ hmem => hmem, rfl, rfl, ?_, by simp, hpos⟩,
        Or.inr (Or.inr ⟨hvif, by simp, v, rfl, hcompare⟩)⟩
      intro u hu
      obtain rfl := Option.some.inj hu
      exact hentry

/-! ## The calls -/

/-- The references of the stations. -/
def staRefs (l : List VlanSta) : Multiset ℤ := (l.map (·.vlanId) : Multiset ℤ) + (l.map (·.vlanIdBound) : Multiset ℤ)

lemma staRefs_cons (sta : VlanSta) (l : List VlanSta) :
    staRefs (sta :: l) = sta.vlanId ::ₘ sta.vlanIdBound ::ₘ staRefs l := by
  unfold staRefs
  rw [List.map_cons, List.map_cons, ← Multiset.cons_coe, ← Multiset.cons_coe, Multiset.cons_add, Multiset.add_cons]

lemma staRefs_perm {l l' : List VlanSta} (hperm : l.Perm l') : staRefs l = staRefs l' := by
  unfold staRefs
  rw [Multiset.coe_eq_coe.mpr (hperm.map _), Multiset.coe_eq_coe.mpr (hperm.map _)]

lemma count_staRefs (vlanId : ℤ) : (staRefs hapd.staList).count vlanId = hapd.users vlanId := by
  unfold staRefs users
  rw [Multiset.count_add, Multiset.coe_count, Multiset.coe_count, List.count_eq_countP, List.count_eq_countP,
    List.countP_map, List.countP_map]
  rfl

/-- A station that is assigned to a VLAN has the description of the entry. -/
def Described (hapd : VlanData) (sta : VlanSta) : Prop :=
  sta.vlanId = 0 ∨ 0 < sta.vlanId ∧ ∃ desc, sta.vlanDesc = some desc ∧ (sta.vlanId, desc) ∈ hapd.entries

/-- The invariant. -/
structure Sound (hapd : VlanData) : Prop where
  distinct : KeyedList.Distinct VlanSta.sta hapd.staList
  table : ∃ added configured, hapd.Table (staRefs hapd.staList) added configured
  described : ∀ sta ∈ hapd.staList, hapd.Described sta

/-- The invariant says what was to be shown. -/
lemma Sound.referencesCounted (h : hapd.Sound) : hapd.ReferencesCounted := by
  obtain ⟨added, configured, htable⟩ := h.table
  intro vlan hvlan hadded
  rw [htable.list] at hvlan
  have hmem : vlan ∈ added := by
    refine (List.mem_append.mp hvlan).resolve_right fun hconf => ?_
    simp [(htable.of_configured vlan hconf).1] at hadded
  have hcount := htable.dynamic.counts.count_eq vlan hmem
  rw [count_staRefs] at hcount
  refine ⟨hcount, fun hpos => htable.dynamic.iface vlan hmem ?_⟩
  rw [hcount]
  exact_mod_cast hpos

lemma Described.mono {hapd' : VlanData} {sta : VlanSta} (h : hapd.Described sta)
    (hkept : ∀ entry ∈ hapd.entries, entry.1 = sta.vlanId → entry ∈ hapd'.entries) : hapd'.Described sta := by
  obtain hzero | ⟨hpos, desc, hdesc, hmem⟩ := h
  · exact Or.inl hzero
  · exact Or.inr ⟨hpos, desc, hdesc, hkept _ hmem rfl⟩

/-- The invariant after one station has changed. -/
lemma Sound.of_table {hapd' : VlanData} {sta sta' : VlanSta} {others : List VlanSta} (h : hapd.Sound)
    (hbefore : hapd.staList.Perm (sta :: others)) (hafter : hapd'.staList.Perm (sta' :: others))
    (hkey : sta'.sta = sta.sta)
    (htable : ∃ added configured,
      hapd'.Table (sta'.vlanId ::ₘ sta'.vlanIdBound ::ₘ staRefs others) added configured)
    (hkept : ∀ entry ∈ hapd.entries, entry.1 ∈ staRefs others → entry ∈ hapd'.entries)
    (hdescribed : hapd'.Described sta') : hapd'.Sound where
  distinct := by
    have hnodup := (hbefore.map VlanSta.sta).nodup_iff.mp h.distinct
    rw [KeyedList.Distinct, (hafter.map VlanSta.sta).nodup_iff, List.map_cons, hkey]
    exact hnodup
  table := by
    rw [staRefs_perm hafter, staRefs_cons]
    exact htable
  described sta'' hmem := by
    rcases List.mem_cons.mp (hafter.mem_iff.mp hmem) with rfl | hmem
    · exact hdescribed
    · refine (h.described sta'' (hbefore.mem_iff.mpr (List.mem_cons_of_mem _ hmem))).mono fun entry hentry heq => ?_
      refine hkept entry hentry ?_
      rw [heq]
      exact Multiset.mem_add.mpr (Or.inl (Multiset.mem_coe.mpr (List.mem_map_of_mem hmem)))

/-- What is known of a station and the others. -/
lemma Sound.table_of_find (h : hapd.Sound) {sta : VlanSta}
    (hfind : KeyedList.find (·.sta) sta.sta hapd.staList = some sta) :
    ∃ added configured, hapd.Table (sta.vlanId ::ₘ sta.vlanIdBound ::ₘ
      staRefs (KeyedList.remove (·.sta) sta.sta hapd.staList)) added configured := by
  obtain ⟨added, configured, htable⟩ := h.table
  rw [staRefs_perm (KeyedList.perm_remove hfind), staRefs_cons] at htable
  exact ⟨added, configured, htable⟩

/-- The list of VLANs does not depend on the stations. -/
lemma Table.setSta (h : hapd.Table refs added configured) (sta : VlanSta) :
    (hapd.setSta sta).Table refs added configured := ⟨h.list, h.dynamic, h.of_configured, h.shaped, h.closed⟩

lemma effective_valid {vlanDesc : Option VlanDescription}
    (hvalid : ∀ desc ∈ vlanDesc, desc.notempty = true → desc.Valid) :
    ∀ desc ∈ hapd.effective vlanDesc, desc.notempty = true → desc.Valid := by
  intro desc hdesc
  unfold effective at hdesc
  split_ifs at hdesc
  · simp at hdesc
  · exact hvalid desc hdesc

/-- The new identifier is not the old one, if there is something to do. -/
lemma Acquired.ne_old {hapd' : VlanData} {sta : VlanSta} {vlanDesc : Option VlanDescription}
    {vlan : Option HostapdVlan} {vlanId : ℤ} (hsta : hapd.Described sta) (hne : sta.vlanId ≠ 0)
    (htodo : hapd.somethingToDo sta vlanDesc = true) (h : Acquired hapd hapd' refs vlan vlanId)
    (hnew : vlanId = 0 ∨ vlanId ∉ hapd.vlan.map (·.vlanId) ∨
      hapd.conf.perStaVif = false ∧ vlanDesc ≠ none ∧ ∃ v ∈ vlan, v.compare vlanDesc = 0)
    (hdisabled : hapd.conf.dynamicVlan = dynamicVlanDisabled → vlanDesc = none) : vlanId ≠ sta.vlanId := by
  rintro rfl
  obtain hzero | ⟨hpos, desc, hdesc, hentry⟩ := hsta
  · exact hne hzero
  · obtain hzero | hfresh | ⟨hvif, hsome, v, rfl, hcompare⟩ := hnew
    · exact hne hzero
    · obtain ⟨v, hv, heq⟩ := mem_entries.mp hentry
      exact hfresh (List.mem_map.mpr ⟨v, hv, congrArg Prod.fst heq⟩)
    · -- the entry has the description that the station has
      obtain ⟨added, configured, htable⟩ := h.table
      have hnotwild : sta.vlanId ≠ vlanIdWildcard := by
        simp only [vlanIdWildcard]
        omega
      have hsame := htable.entry_unique hnotwild (h.described v rfl) (h.kept _ hentry)
      have hcompare' : vlanCompare vlanDesc sta.vlanDesc = 0 := by
        rw [hdesc, ← hsame, vlanCompare_comm]
        exact hcompare
      have hdynamic : hapd.conf.dynamicVlan ≠ dynamicVlanDisabled := fun heq => hsome (hdisabled heq)
      simp [somethingToDo, hvif, hcompare', hdynamic] at htodo

/-- Dropping a reference that may be zero. -/
lemma Table.dropRef (h : hapd.Table (k ::ₘ refs) added configured) (out : RemoveOutcome) :
    Released hapd (if k ≠ 0 then hapd.vlanRemoveDynamic k out else hapd) refs configured := by
  split_ifs with hk
  · exact h.vlanRemoveDynamic out
  · exact (h.of_nonpos (not_not.mp hk).le).released

/-- Binding a station takes one more reference to the VLAN that it is assigned to. -/
lemma Table.bindVlan (h : hapd.Table refs added configured) {sta : VlanSta} (hsta : hapd.Described sta)
    (hrefs : sta.vlanId ∈ refs) {hapd' : VlanData} (hbind : hapd.bindVlan sta = some hapd') :
    (∃ added configured, hapd'.Table (sta.vlanId ::ₘ refs) added configured) ∧ hapd'.entries = hapd.entries ∧
      hapd'.staList = hapd.staList := by
  unfold VlanData.bindVlan at hbind
  split_ifs at hbind with hpos
  · cases hfind : KeyedList.find (·.vlanId) sta.vlanId hapd.vlan with
    | none => simp [hfind] at hbind
    | some v =>
      have hid : v.vlanId = sta.vlanId := KeyedList.key_of_find hfind
      rw [hfind] at hbind
      dsimp only at hbind
      split_ifs at hbind with hdyn
      · obtain rfl := Option.some.inj hbind
        obtain ⟨⟨added', htable⟩, hentries⟩ := h.incr hfind hdyn
        exact ⟨⟨added', configured, hid ▸ htable⟩, hentries, rfl⟩
      · obtain rfl := Option.some.inj hbind
        have hv : v.added = false := by
          have hmem := KeyedList.mem_of_find hfind
          rw [h.list] at hmem
          rcases List.mem_append.mp hmem with hmem | hmem
          · exact absurd ((h.dynamic.counts.pos_iff hmem).mpr (hid ▸ hrefs)) hdyn
          · exact (h.of_configured v hmem).1
        have hnotwild : v.vlanId ≠ vlanIdWildcard := by
          simp only [vlanIdWildcard]
          omega
        have htable := h.cons_configured hfind hv hnotwild fun u hu => (Prod.mk.inj hu).1.trans hid
        exact ⟨⟨added, configured, hid ▸ htable⟩, rfl, rfl⟩
  · obtain rfl := Option.some.inj hbind
    obtain hzero | ⟨hpos', -⟩ := hsta
    · rw [hzero]
      exact ⟨h.zero.table, rfl, rfl⟩
    · exact absurd hpos' hpos

section Calls

variable {sta : VlanSta} (hfind : KeyedList.find (·.sta) sta.sta hapd.staList = some sta)

include hfind

/-- Writing to a station that was found. -/
lemma perm_setSta {sta' : VlanSta} (hkey : sta'.sta = sta.sta) :
    (hapd.setSta sta').staList.Perm (sta' :: KeyedList.remove (·.sta) sta.sta hapd.staList) := by
  unfold setSta
  rw [hkey]
  exact KeyedList.perm_assign hfind _

lemma Sound.apStaSetVlan (h : hapd.Sound) {vlanDesc : Option VlanDescription}
    (hvalid : ∀ desc ∈ vlanDesc, desc.notempty = true → desc.Valid)
    (hidle : hapd.somethingToDo sta (hapd.effective vlanDesc) = true → hapd.conf.perStaVif = false →
      ∀ desc ∈ hapd.effective vlanDesc, desc.notempty = true →
      ∀ v ∈ KeyedList.find (HostapdVlan.compare (hapd.effective vlanDesc)) 0 hapd.vlan,
        v.added = true → 0 < v.dynamicVlan)
    (add : AddOutcome) (remove : RemoveOutcome) : (hapd.apStaSetVlan sta vlanDesc add remove).1.Sound := by
  unfold VlanData.apStaSetVlan
  dsimp only
  by_cases htodo : hapd.somethingToDo sta (hapd.effective vlanDesc) = false
  · rw [if_pos htodo]
    exact h
  rw [if_neg htodo]
  rw [Bool.not_eq_false] at htodo
  rcases hacquire : hapd.acquireVlan (hapd.effective vlanDesc) add with ⟨hapd₁, vlan, vlanId, ret⟩
  obtain ⟨_, _, htable⟩ := h.table_of_find hfind
  obtain ⟨hacquired, hnew⟩ := htable.acquireVlan (effective_valid hvalid) (hidle htodo) add hacquire
  obtain ⟨added, configured, htable₁⟩ := hacquired.table
  have hsta := h.described sta (KeyedList.mem_of_find hfind)
  have hfind₁ : KeyedList.find (·.sta) sta.sta hapd₁.staList = some sta := hacquired.staList ▸ hfind
  dsimp only
  set sta' : VlanSta := { sta with vlanId, vlanDesc := vlan.map (·.vlanDesc) } with hsta'
  have hkey : sta'.sta = sta.sta := rfl
  have hperm := perm_setSta hfind₁ hkey
  rw [hacquired.staList] at hperm
  have hdescribed : hapd₁.Described sta' := by
    cases vlan with
    | none => exact Or.inl (hacquired.unset rfl)
    | some v =>
      rcases hacquired.nonneg.eq_or_lt with hzero | hpos
      · exact Or.inl hzero.symm
      · exact Or.inr ⟨hpos, v.vlanDesc, rfl, hacquired.described v rfl⟩
  split_ifs with hrelease
  · rw [Multiset.cons_swap] at htable₁
    have hreleased := (htable₁.setSta sta').vlanRemoveDynamic remove
    obtain ⟨added', htable'⟩ := hreleased.table
    refine h.of_table (KeyedList.perm_remove hfind) (by rw [vlanRemoveDynamic_staList]; exact hperm) hkey
      ⟨added', configured, htable'⟩ (fun entry hentry hmem => ?_)
      (hdescribed.mono fun entry hentry heq => ?_)
    · refine hreleased.kept entry (hacquired.kept entry hentry) ?_
      exact Multiset.mem_cons_of_mem (Multiset.mem_cons_of_mem hmem)
    · refine hreleased.kept entry hentry ?_
      rw [heq]
      exact Multiset.mem_cons_self _ _
  · have hzero : sta.vlanId = 0 := by
      by_contra hne
      refine hrelease ⟨hacquired.ne_old hsta hne htodo hnew fun hdisabled => ?_, hne⟩
      rw [effective, if_pos hdisabled]
    rw [hzero, Multiset.cons_swap] at htable₁
    exact h.of_table (KeyedList.perm_remove hfind) hperm hkey
      ⟨added, configured, (htable₁.of_nonpos le_rfl).setSta sta'⟩ (fun entry hentry _ => hacquired.kept entry hentry)
      hdescribed

lemma Sound.apStaBindVlan (h : hapd.Sound) (ret : ℤ) (remove : RemoveOutcome) :
    (hapd.apStaBindVlan sta ret remove).1.Sound := by
  unfold VlanData.apStaBindVlan
  by_cases hsame : sta.vlanId = sta.vlanIdBound
  · rw [if_pos hsame]
    exact h
  · rw [if_neg hsame]
    cases hbind : hapd.bindVlan sta with
    | none => exact h
    | some hapd₁ =>
      obtain ⟨_, _, htable⟩ := h.table_of_find hfind
      have hsta := h.described sta (KeyedList.mem_of_find hfind)
      obtain ⟨⟨added, configured, htable₁⟩, hentries, hstaList⟩ :=
        htable.bindVlan hsta (Multiset.mem_cons_self _ _) hbind
      have hfind₁ : KeyedList.find (·.sta) sta.sta hapd₁.staList = some sta := hstaList ▸ hfind
      dsimp only
      set sta' : VlanSta := { sta with vlanIdBound := sta.vlanId } with hsta'
      have hkey : sta'.sta = sta.sta := rfl
      have hperm := perm_setSta hfind₁ hkey
      rw [hstaList] at hperm
      have hdescribed : hapd₁.Described sta' := hsta.mono fun entry hmem _ => hentries ▸ hmem
      have htable₂ := htable₁.setSta sta'
      rw [Multiset.cons_swap sta.vlanId sta.vlanIdBound, Multiset.cons_swap sta.vlanId sta.vlanIdBound] at htable₂
      split_ifs with hbound
      · have hreleased := htable₂.vlanRemoveDynamic remove
        obtain ⟨added', htable'⟩ := hreleased.table
        refine h.of_table (KeyedList.perm_remove hfind) (by rw [vlanRemoveDynamic_staList]; exact hperm) hkey
          ⟨added', configured, htable'⟩ (fun entry hentry hmem => ?_)
          (hdescribed.mono fun entry hentry heq => ?_)
        · refine hreleased.kept entry (hentries ▸ hentry) ?_
          exact Multiset.mem_cons_of_mem (Multiset.mem_cons_of_mem hmem)
        · refine hreleased.kept entry hentry ?_
          rw [heq]
          exact Multiset.mem_cons_self _ _
      · exact h.of_table (KeyedList.perm_remove hfind) hperm hkey
          ⟨added, configured, htable₂.of_nonpos (not_lt.mp hbound)⟩ (fun entry hentry _ => hentries ▸ hentry)
          hdescribed

lemma Sound.apFreeSta (h : hapd.Sound) (remove removeBound : RemoveOutcome) :
    (hapd.apFreeSta sta remove removeBound).Sound := by
  obtain ⟨added, configured, htable⟩ := h.table_of_find hfind
  unfold VlanData.apFreeSta
  dsimp only
  set hapd₁ : VlanData := { hapd with staList := KeyedList.remove (·.sta) sta.sta hapd.staList } with hhapd₁
  have htable₁ : hapd₁.Table (sta.vlanId ::ₘ sta.vlanIdBound ::ₘ staRefs hapd₁.staList) added configured :=
    ⟨htable.list, htable.dynamic, htable.of_configured, htable.shaped, htable.closed⟩
  have hreleased := htable₁.dropRef remove
  set hapd₂ := if sta.vlanId ≠ 0 then hapd₁.vlanRemoveDynamic sta.vlanId remove else hapd₁ with hhapd₂
  obtain ⟨added₂, htable₂⟩ := hreleased.table
  have hreleased' := htable₂.dropRef removeBound
  set hapd₃ := if sta.vlanIdBound ≠ 0 then hapd₂.vlanRemoveDynamic sta.vlanIdBound removeBound else hapd₂
    with hhapd₃
  obtain ⟨added₃, htable₃⟩ := hreleased'.table
  have hstaList : hapd₃.staList = hapd₁.staList := by
    rw [hhapd₃, hhapd₂]
    split_ifs <;> simp
  refine ⟨?_, ⟨added₃, configured, hstaList ▸ htable₃⟩, fun sta' hmem => ?_⟩
  · rw [hstaList]
    exact h.distinct.remove sta.sta
  · rw [hstaList] at hmem
    have hmem' : sta' ∈ hapd.staList := (KeyedList.remove_sublist _ _).subset hmem
    refine (h.described sta' hmem').mono fun entry hentry heq => ?_
    have hrefs : entry.1 ∈ staRefs hapd₁.staList := by
      rw [heq]
      exact Multiset.mem_add.mpr (Or.inl (Multiset.mem_coe.mpr (List.mem_map_of_mem hmem)))
    exact hreleased'.kept entry (hreleased.kept entry hentry (Multiset.mem_cons_of_mem hrefs)) hrefs

end Calls

lemma Sound.apStaAdd (h : hapd.Sound) {sta : StaPtr} (hsta : sta ∉ hapd.staList.map (·.sta)) :
    (hapd.apStaAdd sta).Sound where
  distinct := List.nodup_cons.mpr ⟨hsta, h.distinct⟩
  table := by
    obtain ⟨added, configured, htable⟩ := h.table
    have htable' := htable.cons_zero.cons_zero
    refine ⟨added, configured, ?_⟩
    rw [VlanData.apStaAdd, staRefs_cons]
    exact ⟨htable'.list, htable'.dynamic, htable'.of_configured, htable'.shaped, htable'.closed⟩
  described sta' hmem := by
    rcases List.mem_cons.mp hmem with rfl | hmem
    · exact Or.inl rfl
    · exact (h.described sta' hmem).mono fun _ hentry _ => hentry

/-! ## Runs -/

/-- The entries of the configuration. -/
lemma vlanInit_spec {conf : VlanConfig} {lines : List VlanLine} {iface : CString} {v : HostapdVlan}
    (hv : v ∈ vlanInit conf lines iface) :
    (v.added = false ∧ v.dynamicVlan = 0 ∧ v.vlanId ≤ maxVlanId) ∧ Shaped (v.vlanId, v.vlanDesc) := by
  unfold vlanInit at hv
  split_ifs at hv
  · obtain rfl := List.mem_singleton.mp hv
    refine ⟨⟨rfl, rfl, by simp [vlanIdWildcard, maxVlanId]⟩, fun _ h => ?_, fun h => ?_, fun h => ?_⟩
    · simp [VlanDescription.zero] at h
    · exact absurd rfl h
    · exact absurd rfl h
  · obtain ⟨line, -, rfl⟩ := List.mem_map.mp (List.mem_reverse.mp hv)
    cases hline : line.vlanId with
    | none =>
      simp only [VlanLine.entry, hline, Option.elim_none]
      refine ⟨⟨trivial, trivial, by simp [vlanIdWildcard, maxVlanId]⟩, fun _ _ => ?_, fun h => ?_, fun h => ?_⟩
      · simp [VlanDescription.single, vlanIdWildcard]
      · exact absurd rfl h
      · exact absurd rfl h
    | some vlanId =>
      obtain ⟨vlanId, hpos, hle⟩ := vlanId
      simp only [VlanLine.entry, hline, Option.elim_some]
      refine ⟨⟨trivial, trivial, hle⟩, fun h => ?_, fun _ => ?_, fun _ _ => rfl⟩
      · simp only [vlanIdWildcard] at h
        omega
      · dsimp only
        omega

lemma sound_init (conf : VlanConfig) (lines : List VlanLine) (iface : CString) (ifaces : Finset CString) :
    (init conf lines iface ifaces).Sound where
  distinct := List.nodup_nil
  table := by
    refine ⟨[], vlanInit conf lines iface, rfl, ?_, fun v hv => (vlanInit_spec hv).1, fun entry hentry => ?_,
      by simp [staRefs, init]⟩
    · exact ⟨by simp, counts_nil, by simp, by simp, by simp⟩
    · obtain ⟨v, hv, rfl⟩ := mem_entries.mp hentry
      exact (vlanInit_spec hv).2
  described := by simp [init]

lemma Sound.next {hapd' : VlanData} {call : VlanCall} (h : hapd.Sound) (hidle : hapd.NotIdle call)
    (hnext : hapd.next call = some hapd') : hapd'.Sound := by
  cases call with
  | apStaAdd sta =>
    simp only [VlanData.next] at hnext
    split_ifs at hnext with hmem
    obtain rfl := Option.some.inj hnext
    exact h.apStaAdd hmem
  | apStaSetVlan sta vlanDesc add remove =>
    obtain ⟨sta', hfind, heq⟩ := Option.bind_eq_some_iff.mp hnext
    obtain rfl := Option.some.inj heq
    obtain rfl : sta'.sta = sta := KeyedList.key_of_find hfind
    exact h.apStaSetVlan hfind vlanDesc.2 (hidle sta' hfind) add remove
  | apStaBindVlan sta ret remove =>
    obtain ⟨sta', hfind, heq⟩ := Option.bind_eq_some_iff.mp hnext
    obtain rfl := Option.some.inj heq
    obtain rfl : sta'.sta = sta := KeyedList.key_of_find hfind
    exact h.apStaBindVlan hfind ret remove
  | apFreeSta sta remove removeBound =>
    obtain ⟨sta', hfind, heq⟩ := Option.bind_eq_some_iff.mp hnext
    obtain rfl := Option.some.inj heq
    obtain rfl : sta'.sta = sta := KeyedList.key_of_find hfind
    exact h.apFreeSta hfind remove removeBound

/-- An entry that counts nothing stays, if entries are not unlinked. -/
lemma mem_vlanRemoveDynamic {v : HostapdVlan} (hv : v ∈ hapd.vlan) (hzero : v.dynamicVlan = 0)
    (hfull : hapd.conf.full = false) (out : RemoveOutcome) : v ∈ (hapd.vlanRemoveDynamic k out).vlan := by
  have hmem : v ∈ KeyedList.assign HostapdVlan.counted (k, true) HostapdVlan.decr hapd.vlan :=
    KeyedList.mem_assign_of_ne hv (by simp [HostapdVlan.counted, hzero]) _
  unfold vlanRemoveDynamic
  split_ifs
  · exact hv
  · split
    · exact hv
    · dsimp only
      split_ifs
      · simp [hfull] at *
      · exact hmem
      · exact hmem

/-- The entry that is found under a description is taken as it is if it counts nothing. -/
lemma acquireVlan_idle {vlanDesc : Option VlanDescription} {desc : VlanDescription} {v : HostapdVlan}
    (hvif : hapd.conf.perStaVif = false) (hdesc : desc ∈ vlanDesc) (hnotempty : desc.notempty = true)
    (hfind : KeyedList.find (HostapdVlan.compare vlanDesc) 0 hapd.vlan = some v)
    (hid : v.vlanId ≠ vlanIdWildcard) (hzero : v.dynamicVlan = 0) (out : AddOutcome) :
    hapd.acquireVlan vlanDesc out = (hapd, some v, v.vlanId, 0) := by
  have hchoose : hapd.chooseVlan vlanDesc = some (some v, v.vlanId) := by
    have hfilter : vlanDesc.filter (·.notempty) = some desc := Option.filter_eq_some_iff.mpr ⟨hdesc, hnotempty⟩
    rw [chooseVlan, if_neg (by simp [hvif]), hfilter]
    simp only [hfind]
  simp [acquireVlan, hchoose, hid, hzero]

/-- The call that the condition excludes gives a station an entry that counts nothing. -/
lemma Sound.not_referencesCounted {hapd' : VlanData} {call : VlanCall} (h : hapd.Sound)
    (hidle : ¬ hapd.NotIdle call) (hnext : hapd.next call = some hapd') : ¬ hapd'.ReferencesCounted := by
  cases call with
  | apStaSetVlan sta vlanDesc add remove =>
    unfold NotIdle at hidle
    push Not at hidle
    obtain ⟨sta', hfind, htodo, hvif, desc, hdesc, hnotempty, v, hv, hadded, hdyn⟩ := hidle
    obtain rfl : sta'.sta = sta := KeyedList.key_of_find hfind
    obtain ⟨added, configured, htable⟩ := h.table
    have hmem : v ∈ hapd.vlan := KeyedList.mem_of_find hv
    have hvadded : v ∈ added := by
      rw [htable.list] at hmem
      refine (List.mem_append.mp hmem).resolve_right fun hconf => ?_
      simp [(htable.of_configured v hconf).1] at hadded
    have hcount : v.dynamicVlan = (hapd.users v.vlanId : ℤ) := (h.referencesCounted v hmem hadded).1
    have hzero : v.dynamicVlan = 0 := by omega
    have hfull : hapd.conf.full = false := by
      by_contra hfull
      exact hdyn.not_gt (htable.dynamic.full_pos (by simpa using hfull) v hvadded)
    have hpos := (htable.dynamic.of_added v hvadded).2
    have hnotwild : v.vlanId ≠ vlanIdWildcard := by
      simp only [vlanIdWildcard]
      omega
    -- the station gets the entry
    set sta'' : VlanSta := { sta' with vlanId := v.vlanId, vlanDesc := some v.vlanDesc } with hsta''
    have hresult : hapd' = (hapd.setSta sta'').vlanRemoveDynamic sta'.vlanId remove ∨ hapd' = hapd.setSta sta'' := by
      obtain ⟨_, hfind', heq⟩ := Option.bind_eq_some_iff.mp hnext
      obtain rfl := Option.some.inj (hfind.symm.trans hfind')
      obtain rfl := Option.some.inj heq
      have hne : ¬ hapd.somethingToDo sta' (hapd.effective vlanDesc.1) = false := by simp [htodo]
      rw [VlanData.apStaSetVlan]
      dsimp only
      rw [if_neg hne, acquireVlan_idle hvif hdesc hnotempty hv hnotwild hzero add]
      dsimp only
      split_ifs
      · exact Or.inl rfl
      · exact Or.inr rfl
    have hkey : sta''.sta = sta'.sta := rfl
    have hperm := perm_setSta hfind hkey
    have hmem' : v ∈ (hapd.setSta sta'').vlan := hmem
    have hstay : v ∈ hapd'.vlan ∧ hapd'.staList = (hapd.setSta sta'').staList := by
      obtain rfl | rfl := hresult
      · exact ⟨mem_vlanRemoveDynamic hmem' hzero hfull remove, vlanRemoveDynamic_staList remove⟩
      · exact ⟨hmem', rfl⟩
    intro hcounted
    have husers : 0 < hapd'.users v.vlanId := by
      rw [← count_staRefs, hstay.2, staRefs_perm hperm, staRefs_cons, Multiset.count_cons_self]
      exact Nat.succ_pos _
    have hcount' := (hcounted v hstay.1 hadded).1
    omega
  | apStaAdd sta => exact absurd trivial hidle
  | apStaBindVlan sta ret remove => exact absurd trivial hidle
  | apFreeSta sta remove removeBound => exact absurd trivial hidle

/-- The counts are right all along a run if and only if no station is assigned to an added entry that counts
nothing. -/
theorem run_references (conf : VlanConfig) (lines : List VlanLine) (iface : CString) (ifaces : Finset CString)
    {calls : List VlanCall} {hapd : VlanData}
    (hrun : Trace.Run VlanData.next (init conf lines iface ifaces) calls hapd) :
    (∀ calls₁ hapd₁, calls₁ <+: calls → Trace.Run VlanData.next (init conf lines iface ifaces) calls₁ hapd₁ →
        hapd₁.ReferencesCounted) ↔
      Trace.RunWith VlanData.next NotIdle (init conf lines iface ifaces) calls hapd :=
  hrun.forall_prefix_iff_runWith (sound_init conf lines iface ifaces) (fun _ h => h.referencesCounted)
    (fun _ _ _ h hidle hnext => h.next hidle hnext) fun _ _ _ h hidle hnext =>
      h.not_referencesCounted hidle hnext

/-! ### A station comes back to a VLAN -/

lemma single_valid {vlanId : ℤ} (hpos : 0 < vlanId) (hle : vlanId ≤ maxVlanId) :
    (VlanDescription.single vlanId).Valid where
  untagged_nonneg := hpos.le
  untagged_le := hle
  some_vlan := Or.inl hpos.ne'
  tagged_first _ := rfl

/-- The argument for VLAN 5. -/
def vlanFive : VlanArg :=
  ⟨some (VlanDescription.single 5), fun desc hdesc _ => by
    obtain rfl := Option.some.inj hdesc
    exact single_valid (by decide) (by decide)⟩

/-- Dynamic VLANs, with one wildcard entry `w#` and without `CONFIG_FULL_DYNAMIC_VLAN`. -/
def wildcardStart : VlanData :=
  init ⟨1, false, false, true, false⟩ [⟨none, ⟨[119, 35], by decide⟩⟩] ⟨[119], by decide⟩ ∅

/-- A station joins the VLAN and leaves. -/
def visit (sta : StaPtr) : List VlanCall :=
  [.apStaAdd sta, .apStaSetVlan sta vlanFive ⟨true, true, true, true⟩ ⟨true, true⟩,
    .apStaBindVlan sta 0 ⟨true, true⟩, .apFreeSta sta ⟨true, true⟩ ⟨true, true⟩]

theorem run_references_visit :
    ∃ hapd, Trace.Run VlanData.next wildcardStart (visit 1) hapd ∧
      ((∀ calls₁ hapd₁, calls₁ <+: visit 1 → Trace.Run VlanData.next wildcardStart calls₁ hapd₁ →
          hapd₁.ReferencesCounted) ↔
        Trace.RunWith VlanData.next NotIdle wildcardStart (visit 1) hapd) := by
  have hexec : (Trace.exec VlanData.next wildcardStart (visit 1)).isSome = true := by decide +kernel
  obtain ⟨hapd, hapd_eq⟩ := Option.isSome_iff_exists.mp hexec
  have hrun := Trace.run_iff_exec.mpr hapd_eq
  exact ⟨hapd, hrun, run_references _ _ _ _ hrun⟩

/-- The second visitor uses an entry that counts nothing. -/
theorem visit_not_counted :
    ∃ hapd, Trace.Run VlanData.next wildcardStart (visit 1 ++ (visit 2).take 3) hapd ∧
      ¬ hapd.ReferencesCounted := by
  have hexec : (Trace.exec VlanData.next wildcardStart (visit 1 ++ (visit 2).take 3)).any
      (fun hapd => hapd.vlan.any fun vlan =>
        vlan.added && decide (vlan.dynamicVlan = 0 ∧ hapd.users vlan.vlanId = 2)) = true := by
    decide +kernel
  obtain ⟨hapd, hapd_eq, hany⟩ := (Option.any_eq_true _ _).mp hexec
  obtain ⟨vlan, hvlan, hcount⟩ := List.any_eq_true.mp hany
  rw [Bool.and_eq_true, decide_eq_true_eq] at hcount
  obtain ⟨hadded, hzero, husers⟩ := hcount
  refine ⟨hapd, Trace.run_iff_exec.mpr hapd_eq, fun hcounted => ?_⟩
  have heq := (hcounted vlan hvlan hadded).1
  rw [hzero, husers] at heq
  exact absurd heq (by decide)

/-! ### With `CONFIG_FULL_DYNAMIC_VLAN` -/

/-- No call is excluded if entries go with their interfaces. -/
lemma Sound.notIdle (h : hapd.Sound) (hfull : hapd.conf.full = true) (call : VlanCall) : hapd.NotIdle call := by
  cases call with
  | apStaSetVlan sta vlanDesc add remove =>
    intro _ _ _ _ _ _ _ v hv hadded
    obtain ⟨added, configured, htable⟩ := h.table
    have hmem : v ∈ hapd.vlan := KeyedList.mem_of_find hv
    rw [htable.list] at hmem
    refine htable.dynamic.full_pos hfull v ((List.mem_append.mp hmem).resolve_right fun hconf => ?_)
    simp [(htable.of_configured v hconf).1] at hadded
  | apStaAdd sta => trivial
  | apStaBindVlan sta ret remove => trivial
  | apFreeSta sta remove removeBound => trivial

@[simp] lemma vlanAddDynamic_conf (hapd : VlanData) (k : ℤ) (vlan : HostapdVlan) (vlanDesc : Option VlanDescription) (out : AddOutcome) :
    (hapd.vlanAddDynamic vlan k vlanDesc out).1.conf = hapd.conf := by
  rcases vlanAddDynamic_cases hapd k vlan vlanDesc out with ⟨_, _, hadd⟩ | ⟨_, _, _, _, _, _, hadd⟩
  · rw [hadd]
  · rw [hadd]

@[simp] lemma acquireVlan_conf (vlanDesc : Option VlanDescription) (out : AddOutcome) :
    (hapd.acquireVlan vlanDesc out).1.conf = hapd.conf := by
  unfold acquireVlan
  rcases hapd.chooseVlan vlanDesc with _ | ⟨_ | vlan, vlanId⟩
  · rfl
  · rfl
  · dsimp only
    split_ifs
    · have hconf := vlanAddDynamic_conf hapd vlanId vlan vlanDesc out
      rcases hadd : hapd.vlanAddDynamic vlan vlanId vlanDesc out with ⟨hapd', _ | n⟩
      · rwa [hadd] at hconf
      · rwa [hadd] at hconf
    · rfl
    · rfl

lemma bindVlan_conf {hapd' : VlanData} {sta : VlanSta} (h : hapd.bindVlan sta = some hapd') :
    hapd'.conf = hapd.conf := by
  unfold bindVlan at h
  split_ifs at h
  · cases hfind : KeyedList.find (·.vlanId) sta.vlanId hapd.vlan with
    | none => simp [hfind] at h
    | some v =>
      rw [hfind] at h
      dsimp only at h
      split_ifs at h
      · obtain rfl := Option.some.inj h
        rfl
      · obtain rfl := Option.some.inj h
        rfl
  · obtain rfl := Option.some.inj h
    rfl

/-- The configuration does not change. -/
lemma next_conf {hapd' : VlanData} {call : VlanCall} (hnext : hapd.next call = some hapd') :
    hapd'.conf = hapd.conf := by
  cases call with
  | apStaAdd sta =>
    simp only [VlanData.next] at hnext
    split_ifs at hnext
    obtain rfl := Option.some.inj hnext
    rfl
  | apStaSetVlan sta vlanDesc add remove =>
    obtain ⟨sta', -, heq⟩ := Option.bind_eq_some_iff.mp hnext
    obtain rfl := Option.some.inj heq
    unfold apStaSetVlan
    dsimp only
    split_ifs <;> simp [setSta]
  | apStaBindVlan sta ret remove =>
    obtain ⟨sta', -, heq⟩ := Option.bind_eq_some_iff.mp hnext
    obtain rfl := Option.some.inj heq
    unfold apStaBindVlan
    by_cases hsame : sta'.vlanId = sta'.vlanIdBound
    · rw [if_pos hsame]
    · rw [if_neg hsame]
      cases hbind : hapd.bindVlan sta' with
      | none => rfl
      | some hapd₁ =>
        rw [← bindVlan_conf hbind]
        dsimp only
        split_ifs <;> simp [setSta]
  | apFreeSta sta remove removeBound =>
    obtain ⟨sta', -, heq⟩ := Option.bind_eq_some_iff.mp hnext
    obtain rfl := Option.some.inj heq
    unfold apFreeSta
    dsimp only
    split_ifs <;> simp

/-- Then the counts are always right. -/
theorem run_references_full {conf : VlanConfig} (hfull : conf.full = true) {lines : List VlanLine} {iface : CString}
    {ifaces : Finset CString} {calls : List VlanCall} {hapd : VlanData}
    (hrun : Trace.Run VlanData.next (init conf lines iface ifaces) calls hapd) : hapd.ReferencesCounted := by
  have hinv : hapd.Sound ∧ hapd.conf = conf := by
    refine hrun.invariant (I := fun hapd => hapd.Sound ∧ hapd.conf = conf)
      ⟨sound_init conf lines iface ifaces, rfl⟩ fun hapd₁ call hapd₂ ⟨hsound, hconf⟩ hnext => ?_
    exact ⟨hsound.next (hsound.notIdle (hconf ▸ hfull) call) hnext, (next_conf hnext).trans hconf⟩
  exact hinv.1.referencesCounted

end VlanData

end Ethanol
