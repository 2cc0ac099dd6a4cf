import EthanolHostapd.Containers.Bitmap
import EthanolHostapd.Containers.ChainedHash
import EthanolHostapd.Traces.Run
import Mathlib.Order.Bounds.Basic

/-!
# The station table of a BSS

`ap/sta_info.c` and the allocation of association identifiers in `ap/ieee802_11.c`.  The stations of a
BSS are the nodes of a linked list and, at the same time, of the chains of a hash table; the
identifiers that are in use are the set bits of a bitmap.

A station is a pointer, and the memory behind it holds its address and its identifier.  A call that
reads a station that is not allocated has no result.
-/

namespace Ethanol

/-- `u8 addr[ETH_ALEN]`. -/
abbrev MacAddr : Type := Vector UInt8 6

/-- `struct sta_info *`. -/
abbrev StaPtr : Type := ℕ

/-- `MAX_STA_COUNT`. -/
def maxStaCount : ℤ := 2007

/-- `AID_WORDS`. -/
abbrev aidWords : ℕ := (2008 + 31) / 32

/-- `STA_HASH`. -/
def staHashIndex (sta : MacAddr) : UInt8 := sta[5]

/-- `struct hostapd_bss_config`: a value out of the range is refused when the configuration is
read. -/
structure BssConfig where
  maxNumSta : ℤ
  nonneg : 0 ≤ maxNumSta
  le_max : maxNumSta ≤ maxStaCount

/-- `struct sta_info`. -/
structure StaInfo where
  addr : MacAddr
  aid : ℕ

/-- The station table in `struct hostapd_data`. -/
structure HostapdData where
  conf : BssConfig
  /-- The memory of the stations. -/
  sta : StaPtr → StaInfo
  allocated : StaPtr → Bool
  staList : List StaPtr
  staHash : UInt8 → List StaPtr
  staAid : Fin aidWords → BitVec 32
  numSta : ℤ

namespace HostapdData

/-- `sta->addr`. -/
def addr (hapd : HostapdData) (sta : StaPtr) : MacAddr := (hapd.sta sta).addr

/-- `sta->aid`. -/
def aid (hapd : HostapdData) (sta : StaPtr) : ℕ := (hapd.sta sta).aid

/-- The table at the start. -/
def init (conf : BssConfig) : HostapdData where
  conf := conf
  sta := fun _ => ⟨Vector.replicate 6 0, 0⟩
  allocated := fun _ => false
  staList := []
  staHash := fun _ => []
  staAid := fun _ => 0
  numSta := 0

/-- `ap_get_sta`. -/
def apGetSta (hapd : HostapdData) (sta : MacAddr) : Option StaPtr :=
  ChainedHash.find hapd.addr staHashIndex sta hapd.staHash

/-- `ap_sta_list_del`. -/
def apStaListDel (hapd : HostapdData) (sta : StaPtr) : List StaPtr := hapd.staList.erase sta

/-- `ap_sta_hash_add`. -/
def apStaHashAdd (hapd : HostapdData) (sta : StaPtr) : UInt8 → List StaPtr :=
  ChainedHash.add hapd.addr staHashIndex sta hapd.staHash

/-- `ap_sta_hash_del`. -/
def apStaHashDel (hapd : HostapdData) (sta : StaPtr) : UInt8 → List StaPtr :=
  ChainedHash.del hapd.addr staHashIndex (hapd.addr sta) hapd.staHash

/-- The end of `ap_sta_add`: the new station is initialized and linked. -/
def linkSta (hapd : HostapdData) (sta : StaPtr) (addr : MacAddr) : HostapdData :=
  let hapd := { hapd with
    sta := Function.update hapd.sta sta ⟨addr, 0⟩
    allocated := Function.update hapd.allocated sta true
    staList := sta :: hapd.staList
    numSta := hapd.numSta + 1 }
  { hapd with staHash := hapd.apStaHashAdd sta }

/-- `ap_sta_add`, with the result of `os_zalloc` and whether `accounting_sta_get_id` succeeds.  Memory
that is in use is not handed out again. -/
def apStaAdd (hapd : HostapdData) (addr : MacAddr) (zalloc : Option StaPtr) (accounting : Bool) :
    Option (HostapdData × Option StaPtr) :=
  match hapd.apGetSta addr with
  | some sta => some (hapd, some sta)
  | none =>
    if hapd.conf.maxNumSta ≤ hapd.numSta then some (hapd, none)
    else
      match zalloc with
      | none => some (hapd, none)
      | some sta =>
        if hapd.allocated sta then none
        else if accounting = false then some (hapd, none)
        else some (hapd.linkSta sta addr, some sta)

/-- The end of `hostapd_get_aid`: the station gets the identifier of bit `j` of word `i`. -/
def assignAid (hapd : HostapdData) (sta : StaPtr) (i : Fin aidWords) (j : ℕ) : HostapdData :=
  { hapd with
    sta := Function.update hapd.sta sta { hapd.sta sta with aid := i * 32 + j + 1 }
    staAid := Bitmap.set hapd.staAid i j }

/-- `hostapd_get_aid`; `testFail` is `TEST_FAIL()`. -/
def hostapdGetAid (hapd : HostapdData) (sta : StaPtr) (testFail : Bool) :
    Option (HostapdData × ℤ) :=
  if hapd.allocated sta = false then none
  else if 0 < hapd.aid sta then some (hapd, 0)
  else if testFail then some (hapd, -1)
  else
    match Bitmap.firstFree hapd.staAid with
    | none => some (hapd, -1)
    | some (i, j) =>
      if 2007 < i * 32 + j + 1 then some (hapd, -1)
      else some (hapd.assignAid sta i j, 0)

/-- The bitmap without the identifier of a station that is freed. -/
def clearAid (hapd : HostapdData) (sta : StaPtr) : Option (Fin aidWords → BitVec 32) :=
  if 0 < hapd.aid sta then Bitmap.clear hapd.staAid (hapd.aid sta - 1) else some hapd.staAid

/-- `ap_free_sta`, as far as the table is concerned. -/
def apFreeSta (hapd : HostapdData) (sta : StaPtr) : Option HostapdData :=
  if hapd.allocated sta = false then none
  else do
    let staHash := hapd.apStaHashDel sta
    let staList := hapd.apStaListDel sta
    let staAid ← hapd.clearAid sta
    some { hapd with
      staHash, staList, staAid
      numSta := hapd.numSta - 1
      allocated := Function.update hapd.allocated sta false }

end HostapdData

/-- A call that changes the table. -/
inductive StaCall
  | apStaAdd (addr : MacAddr) (zalloc : Option StaPtr) (accounting : Bool)
  | hostapdGetAid (sta : StaPtr) (testFail : Bool)
  | apFreeSta (sta : StaPtr)

namespace HostapdData

/-- The table after a call. -/
def next (hapd : HostapdData) : StaCall → Option HostapdData
  | .apStaAdd addr zalloc accounting => (hapd.apStaAdd addr zalloc accounting).map Prod.fst
  | .hostapdGetAid sta testFail => (hapd.hostapdGetAid sta testFail).map Prod.fst
  | .apFreeSta sta => hapd.apFreeSta sta

/-! ## What the table should be -/

/-- The parts of the table agree. -/
structure Agrees (hapd : HostapdData) : Prop where
  /-- The stations of the list have pairwise different addresses. -/
  distinct : KeyedList.Distinct hapd.addr hapd.staList
  /-- They are the stations of the hash table. -/
  hash : ChainedHash.Holds hapd.addr staHashIndex hapd.staHash hapd.staList
  /-- They are the ones that are allocated. -/
  allocated : ∀ sta, hapd.allocated sta = true ↔ sta ∈ hapd.staList
  num : hapd.numSta = hapd.staList.length
  room : hapd.numSta ≤ hapd.conf.maxNumSta
  /-- An identifier, if there is one, is in the range. -/
  aid_le : ∀ sta ∈ hapd.staList, hapd.aid sta ≤ 2007
  /-- A bit is set exactly if a station has the identifier. -/
  bit : ∀ k, Bitmap.get hapd.staAid k = true ↔ ∃ sta ∈ hapd.staList, hapd.aid sta = k + 1
  /-- No two stations have the same one. -/
  unique : ∀ sta ∈ hapd.staList, ∀ sta' ∈ hapd.staList, 0 < hapd.aid sta →
    hapd.aid sta = hapd.aid sta' → sta = sta'

/-- The identifiers that no station has. -/
def freeAids (hapd : HostapdData) : Set ℕ :=
  {aid | 0 < aid ∧ ∀ sta ∈ hapd.staList, hapd.aid sta ≠ aid}

/-! ## Adding a station -/

section Link

variable {hapd : HostapdData} {sta : StaPtr} {addr : MacAddr}

@[simp] lemma linkSta_addr (sta' : StaPtr) :
    (hapd.linkSta sta addr).addr sta' = if sta' = sta then addr else hapd.addr sta' := by
  by_cases h : sta' = sta
  · simp [linkSta, HostapdData.addr, h]
  · simp [linkSta, HostapdData.addr, h]

@[simp] lemma linkSta_aid (sta' : StaPtr) :
    (hapd.linkSta sta addr).aid sta' = if sta' = sta then 0 else hapd.aid sta' := by
  by_cases h : sta' = sta
  · simp [linkSta, HostapdData.aid, h]
  · simp [linkSta, HostapdData.aid, h]

lemma linkSta_addr_of_mem (addr : MacAddr) (hnew : sta ∉ hapd.staList) :
    ∀ sta' ∈ hapd.staList, (hapd.linkSta sta addr).addr sta' = hapd.addr sta' := by
  intro sta' hmem
  have hne : sta' ≠ sta := fun h => hnew (h ▸ hmem)
  simp [hne]

lemma linkSta_aid_of_mem (addr : MacAddr) (hnew : sta ∉ hapd.staList) :
    ∀ sta' ∈ hapd.staList, (hapd.linkSta sta addr).aid sta' = hapd.aid sta' := by
  intro sta' hmem
  have hne : sta' ≠ sta := fun h => hnew (h ▸ hmem)
  simp [hne]

end Link

/-- What `ap_sta_add` does: nothing, or it links a new station with a new address. -/
lemma apStaAdd_cases {hapd hapd' : HostapdData} {addr : MacAddr} {zalloc : Option StaPtr}
    {accounting : Bool} {r : Option StaPtr}
    (h : hapd.apStaAdd addr zalloc accounting = some (hapd', r)) :
    hapd' = hapd ∨ ∃ sta, hapd.apGetSta addr = none ∧ hapd.numSta < hapd.conf.maxNumSta ∧
      hapd.allocated sta = false ∧ hapd' = hapd.linkSta sta addr := by
  unfold apStaAdd at h
  split at h
  · exact Or.inl (Prod.mk.inj (Option.some.inj h)).1.symm
  · rename_i hget
    by_cases hfull : hapd.conf.maxNumSta ≤ hapd.numSta
    · rw [if_pos hfull] at h
      exact Or.inl (Prod.mk.inj (Option.some.inj h)).1.symm
    · rw [if_neg hfull] at h
      split at h
      · exact Or.inl (Prod.mk.inj (Option.some.inj h)).1.symm
      · rename_i sta
        split_ifs at h with hlive
        · exact Or.inl (Prod.mk.inj (Option.some.inj h)).1.symm
        · exact Or.inr ⟨sta, hget, not_le.mp hfull, by simpa using hlive,
            (Prod.mk.inj (Option.some.inj h)).1.symm⟩

lemma Agrees.linkSta {hapd : HostapdData} (h : hapd.Agrees) {sta : StaPtr} {addr : MacAddr}
    (hget : hapd.apGetSta addr = none) (hroom : hapd.numSta < hapd.conf.maxNumSta)
    (hlive : hapd.allocated sta = false) : (hapd.linkSta sta addr).Agrees := by
  have hnew : sta ∉ hapd.staList := fun hmem => by
    rw [(h.allocated sta).mpr hmem] at hlive
    exact absurd hlive (by simp)
  have haddr := linkSta_addr_of_mem addr hnew
  have haid := linkSta_aid_of_mem addr hnew
  -- the address is new, in the list as in the chain that was searched
  have hfresh : addr ∉ hapd.staList.map (hapd.linkSta sta addr).addr := by
    rw [apGetSta, h.hash.find, KeyedList.find_eq_none_iff] at hget
    rwa [List.map_congr_left haddr]
  have hself : (hapd.linkSta sta addr).addr sta = addr := by simp
  constructor
  case distinct =>
    rw [KeyedList.Distinct]
    change ((sta :: hapd.staList).map (hapd.linkSta sta addr).addr).Nodup
    rw [List.map_cons, List.nodup_cons, hself]
    refine ⟨hfresh, ?_⟩
    rw [List.map_congr_left haddr]
    exact h.distinct
  case hash =>
    have hold := h.hash.congr haddr
    refine hold.add ?_
    rwa [hself]
  case allocated =>
    intro sta'
    change Function.update hapd.allocated sta true sta' = true ↔ sta' ∈ sta :: hapd.staList
    by_cases hsta : sta' = sta
    · simp [hsta]
    · simp [hsta, h.allocated]
  case num =>
    change hapd.numSta + 1 = ((sta :: hapd.staList).length : ℕ)
    rw [h.num]
    simp
  case room =>
    change hapd.numSta + 1 ≤ hapd.conf.maxNumSta
    omega
  case aid_le =>
    intro sta' hmem
    rcases List.mem_cons.mp hmem with rfl | hmem
    · simp
    · rw [haid sta' hmem]
      exact h.aid_le sta' hmem
  case bit =>
    intro k
    change Bitmap.get hapd.staAid k = true ↔ _
    rw [h.bit]
    constructor
    · rintro ⟨sta', hmem, hk⟩
      exact ⟨sta', List.mem_cons_of_mem _ hmem, by rw [haid sta' hmem, hk]⟩
    · rintro ⟨sta', hmem, hk⟩
      rcases List.mem_cons.mp hmem with rfl | hmem
      · simp at hk
      · exact ⟨sta', hmem, by rw [← haid sta' hmem, hk]⟩
  case unique =>
    intro sta₁ hmem₁ sta₂ hmem₂ hpos heq
    rcases List.mem_cons.mp hmem₁ with rfl | hmem₁
    · simp at hpos
    · rcases List.mem_cons.mp hmem₂ with rfl | hmem₂
      · rw [heq] at hpos
        simp at hpos
      · rw [haid sta₁ hmem₁, haid sta₂ hmem₂] at heq
        rw [haid sta₁ hmem₁] at hpos
        exact h.unique sta₁ hmem₁ sta₂ hmem₂ hpos heq

/-! ## Giving out an identifier -/

section Assign

variable {hapd : HostapdData} {sta : StaPtr} {i : Fin aidWords} {j : ℕ}

@[simp] lemma assignAid_addr : (hapd.assignAid sta i j).addr = hapd.addr := by
  funext sta'
  by_cases h : sta' = sta
  · subst h
    simp [assignAid, HostapdData.addr]
  · simp [assignAid, HostapdData.addr, h]

@[simp] lemma assignAid_aid (sta' : StaPtr) :
    (hapd.assignAid sta i j).aid sta' = if sta' = sta then i * 32 + j + 1 else hapd.aid sta' := by
  by_cases h : sta' = sta
  · simp [assignAid, HostapdData.aid, h]
  · simp [assignAid, HostapdData.aid, h]

end Assign

/-- What `hostapd_get_aid` does for a station without an identifier: it gives out the first one whose
bit is clear, unless that is out of the range. -/
lemma hostapdGetAid_cases {hapd hapd' : HostapdData} {sta : StaPtr} {testFail : Bool} {r : ℤ}
    (h : hapd.hostapdGetAid sta testFail = some (hapd', r)) :
    hapd.allocated sta = true ∧
      ((hapd' = hapd ∧ (hapd.aid sta = 0 → testFail = false →
        ∀ k < 2007, Bitmap.get hapd.staAid k = true)) ∨
      ∃ i j, hapd.aid sta = 0 ∧ Bitmap.firstFree hapd.staAid = some (i, j) ∧ i * 32 + j + 1 ≤ 2007 ∧
        hapd' = hapd.assignAid sta i j) := by
  unfold hostapdGetAid at h
  split_ifs at h with hlive haid hfail
  · have hpos := Nat.pos_iff_ne_zero.mp haid
    exact ⟨by simpa using hlive, Or.inl ⟨(Prod.mk.inj (Option.some.inj h)).1.symm, by simp [hpos]⟩⟩
  · exact ⟨by simpa using hlive, Or.inl ⟨(Prod.mk.inj (Option.some.inj h)).1.symm, by simp [hfail]⟩⟩
  · refine ⟨by simpa using hlive, ?_⟩
    cases hfree : Bitmap.firstFree hapd.staAid with
    | none =>
      rw [hfree] at h
      refine Or.inl ⟨(Prod.mk.inj (Option.some.inj h)).1.symm, fun _ _ k hk => ?_⟩
      obtain ⟨i, j, hj, rfl⟩ := Bitmap.exists_word (w := 32) (n := aidWords) (k := k)
        (by simp only [aidWords]; omega) (by omega)
      exact Bitmap.firstFree_eq_none hfree hj
    | some ij =>
      obtain ⟨i, j⟩ := ij
      simp only [hfree] at h
      split_ifs at h with hrange
      · refine Or.inl ⟨(Prod.mk.inj (Option.some.inj h)).1.symm, fun _ _ k hk => ?_⟩
        exact (Bitmap.firstFree_eq_some hfree).2.2 k (by omega)
      · exact Or.inr ⟨i, j, Nat.eq_zero_of_not_pos haid, rfl, not_lt.mp hrange,
          (Prod.mk.inj (Option.some.inj h)).1.symm⟩

lemma Agrees.assignAid {hapd : HostapdData} (h : hapd.Agrees) {sta : StaPtr}
    (hlive : hapd.allocated sta = true) (haid : hapd.aid sta = 0) {i : Fin aidWords} {j : ℕ}
    (hfree : Bitmap.firstFree hapd.staAid = some (i, j)) (hrange : i * 32 + j + 1 ≤ 2007) :
    (hapd.assignAid sta i j).Agrees := by
  obtain ⟨hj, hclear, -⟩ := Bitmap.firstFree_eq_some hfree
  have hmem : sta ∈ hapd.staList := (h.allocated sta).mp hlive
  -- no station has the new identifier
  have hunused : ∀ sta' ∈ hapd.staList, hapd.aid sta' ≠ i * 32 + j + 1 := by
    intro sta' hmem' hk
    have := (h.bit (i * 32 + j)).mpr ⟨sta', hmem', hk⟩
    rw [hclear] at this
    exact absurd this (by simp)
  constructor
  case distinct =>
    rw [assignAid_addr]
    exact h.distinct
  case hash =>
    rw [assignAid_addr]
    exact h.hash
  case allocated => exact h.allocated
  case num => exact h.num
  case room => exact h.room
  case aid_le =>
    intro sta' hmem'
    rw [assignAid_aid]
    split_ifs
    · exact hrange
    · exact h.aid_le sta' hmem'
  case bit =>
    intro k
    change Bitmap.get (Bitmap.set hapd.staAid i j) k = true ↔ ∃ sta' ∈ hapd.staList, _
    rw [Bitmap.get_set _ _ hj, Bool.or_eq_true, decide_eq_true_eq, h.bit]
    constructor
    · rintro (rfl | ⟨sta', hmem', hk⟩)
      · exact ⟨sta, hmem, by simp⟩
      · have hne : sta' ≠ sta := fun hsta => by
          rw [hsta, haid] at hk
          exact absurd hk (by simp)
        exact ⟨sta', hmem', by simp [hne, hk]⟩
    · rintro ⟨sta', hmem', hk⟩
      rw [assignAid_aid] at hk
      split_ifs at hk
      · exact Or.inl (by omega)
      · exact Or.inr ⟨sta', hmem', hk⟩
  case unique =>
    intro sta₁ hmem₁ sta₂ hmem₂ hpos heq
    rw [assignAid_aid, assignAid_aid] at heq
    rw [assignAid_aid] at hpos
    split_ifs at heq hpos with h₁ h₂ h₂
    · rw [h₁, h₂]
    · exact absurd heq.symm (hunused sta₂ hmem₂)
    · exact absurd heq (hunused sta₁ hmem₁)
    · exact h.unique sta₁ hmem₁ sta₂ hmem₂ hpos heq

/-! ## Freeing a station -/

lemma apFreeSta_eq_some {hapd hapd' : HostapdData} {sta : StaPtr}
    (h : hapd.apFreeSta sta = some hapd') :
    hapd.allocated sta = true ∧ ∃ staAid, hapd.clearAid sta = some staAid ∧
      hapd' = { hapd with
        staHash := hapd.apStaHashDel sta
        staList := hapd.apStaListDel sta
        staAid
        numSta := hapd.numSta - 1
        allocated := Function.update hapd.allocated sta false } := by
  unfold apFreeSta at h
  split_ifs at h with hlive
  obtain ⟨staAid, hclear, heq⟩ := Option.bind_eq_some_iff.mp h
  exact ⟨by simpa using hlive, staAid, hclear, (Option.some.inj heq).symm⟩

/-- The bit of a station that is freed is cleared, and no other. -/
lemma get_clearAid {hapd : HostapdData} {sta : StaPtr} {staAid : Fin aidWords → BitVec 32}
    (h : hapd.clearAid sta = some staAid) (k : ℕ) :
    Bitmap.get staAid k = true ↔ hapd.aid sta ≠ k + 1 ∧ Bitmap.get hapd.staAid k = true := by
  unfold clearAid at h
  split_ifs at h with hpos
  · rw [Bitmap.get_clear h (by decide), Bool.and_eq_true, decide_eq_true_eq]
    refine and_congr_left fun _ => not_congr ?_
    omega
  · obtain rfl := Option.some.inj h
    have hne : hapd.aid sta ≠ k + 1 := by omega
    simp [hne]

lemma Agrees.apFreeSta {hapd hapd' : HostapdData} (h : hapd.Agrees) {sta : StaPtr}
    (hfree : hapd.apFreeSta sta = some hapd') : hapd'.Agrees := by
  obtain ⟨hlive, staAid, hclear, rfl⟩ := apFreeSta_eq_some hfree
  have hmem : sta ∈ hapd.staList := (h.allocated sta).mp hlive
  have hnodup : hapd.staList.Nodup := h.distinct.of_map
  -- unlinking by the pointer is unlinking by the address
  have hlist : hapd.apStaListDel sta = KeyedList.remove hapd.addr (hapd.addr sta) hapd.staList :=
    KeyedList.erase_eq_remove h.distinct hmem
  have hmem_iff : ∀ sta', sta' ∈ hapd.apStaListDel sta ↔ sta' ≠ sta ∧ sta' ∈ hapd.staList := fun _ =>
    hnodup.mem_erase_iff
  constructor
  case distinct =>
    change KeyedList.Distinct hapd.addr (hapd.apStaListDel sta)
    rw [hlist]
    exact h.distinct.remove _
  case hash =>
    change ChainedHash.Holds hapd.addr staHashIndex (hapd.apStaHashDel sta) (hapd.apStaListDel sta)
    rw [hlist]
    exact h.hash.del h.distinct _
  case allocated =>
    intro sta'
    change Function.update hapd.allocated sta false sta' = true ↔ sta' ∈ hapd.apStaListDel sta
    rw [hmem_iff]
    by_cases hsta : sta' = sta
    · simp [hsta]
    · simp [hsta, h.allocated]
  case num =>
    change hapd.numSta - 1 = ((hapd.apStaListDel sta).length : ℕ)
    have hpos := List.length_pos_of_mem hmem
    rw [apStaListDel, List.length_erase_of_mem hmem, h.num]
    omega
  case room =>
    change hapd.numSta - 1 ≤ hapd.conf.maxNumSta
    have := h.room
    omega
  case aid_le => exact fun sta' hmem' => h.aid_le sta' ((hmem_iff sta').mp hmem').2
  case bit =>
    intro k
    change Bitmap.get staAid k = true ↔ ∃ sta' ∈ hapd.apStaListDel sta, hapd.aid sta' = k + 1
    rw [get_clearAid hclear, h.bit]
    constructor
    · rintro ⟨hne, sta', hmem', hk⟩
      exact ⟨sta', (hmem_iff sta').mpr ⟨fun hsta => hne (hsta ▸ hk), hmem'⟩, hk⟩
    · rintro ⟨sta', hmem', hk⟩
      obtain ⟨hne, hmem'⟩ := (hmem_iff sta').mp hmem'
      refine ⟨fun hsta => hne ?_, sta', hmem', hk⟩
      exact h.unique sta' hmem' sta hmem (by omega) (hk.trans hsta.symm)
  case unique =>
    intro sta₁ hmem₁ sta₂ hmem₂ hpos heq
    exact h.unique sta₁ ((hmem_iff sta₁).mp hmem₁).2 sta₂ ((hmem_iff sta₂).mp hmem₂).2 hpos heq

/-! ## Every sequence of calls -/

lemma agrees_init (conf : BssConfig) : (init conf).Agrees where
  distinct := List.nodup_nil
  hash := ChainedHash.holds_nil
  allocated := by simp [init]
  num := rfl
  room := conf.nonneg
  aid_le := by simp [init]
  bit := by simp [init]
  unique := by simp [init]

/-- Every call keeps the parts of the table together. -/
lemma Agrees.next {hapd hapd' : HostapdData} (h : hapd.Agrees) {c : StaCall}
    (hnext : hapd.next c = some hapd') : hapd'.Agrees := by
  cases c with
  | apStaAdd addr zalloc accounting =>
    obtain ⟨⟨hapd₁, r⟩, hadd, rfl⟩ := Option.map_eq_some_iff.mp hnext
    rcases apStaAdd_cases hadd with rfl | ⟨sta, hget, hroom, hlive, rfl⟩
    · exact h
    · exact h.linkSta hget hroom hlive
  | hostapdGetAid sta testFail =>
    obtain ⟨⟨hapd₁, r⟩, hget, rfl⟩ := Option.map_eq_some_iff.mp hnext
    obtain ⟨hlive, ⟨rfl, -⟩ | ⟨i, j, haid, hfree, hrange, rfl⟩⟩ := hostapdGetAid_cases hget
    · exact h
    · exact h.assignAid hlive haid hfree hrange
  | apFreeSta sta => exact h.apFreeSta hnext

lemma mem_freeAids_iff {hapd : HostapdData} (h : hapd.Agrees) (k : ℕ) :
    k + 1 ∈ hapd.freeAids ↔ Bitmap.get hapd.staAid k = false := by
  rw [← Bool.not_eq_true, h.bit]
  simp [freeAids]

/-- An identifier that is given out is the least free one. -/
lemma isLeast_firstFree {hapd : HostapdData} (h : hapd.Agrees) {i : Fin aidWords} {j : ℕ}
    (hfree : Bitmap.firstFree hapd.staAid = some (i, j)) :
    IsLeast hapd.freeAids (i * 32 + j + 1) := by
  obtain ⟨-, hclear, hset⟩ := Bitmap.firstFree_eq_some hfree
  refine ⟨(mem_freeAids_iff h _).mpr hclear, fun k hk => ?_⟩
  obtain ⟨k, rfl⟩ := Nat.exists_eq_succ_of_ne_zero (Nat.pos_iff_ne_zero.mp hk.1)
  by_contra hlt
  have := hset k (by omega)
  rw [(mem_freeAids_iff h k).mp hk] at this
  exact absurd this (by simp)

/-- What `hostapd_get_aid` may do to a table: it changes an identifier only to the least free one, and
a station that has none gets one as long as one in the range is free. -/
structure GetAidSpec (hapd hapd' : HostapdData) (sta : StaPtr) (testFail : Bool) : Prop where
  least : hapd'.aid sta ≠ hapd.aid sta → IsLeast hapd.freeAids (hapd'.aid sta)
  kept : 0 < hapd.aid sta → hapd' = hapd
  given : testFail = false → (∃ aid ∈ hapd.freeAids, aid ≤ 2007) → 0 < hapd'.aid sta

lemma Agrees.getAidSpec {hapd hapd' : HostapdData} (h : hapd.Agrees) {sta : StaPtr} {testFail : Bool}
    {r : ℤ} (hget : hapd.hostapdGetAid sta testFail = some (hapd', r)) :
    GetAidSpec hapd hapd' sta testFail := by
  obtain ⟨-, ⟨rfl, hall⟩ | ⟨i, j, haid, hfree, -, rfl⟩⟩ := hostapdGetAid_cases hget
  · refine ⟨fun hne => absurd rfl hne, fun _ => rfl, ?_⟩
    rintro hfail ⟨aid, hmem, hle⟩
    by_contra hzero
    obtain ⟨k, rfl⟩ := Nat.exists_eq_succ_of_ne_zero (Nat.pos_iff_ne_zero.mp hmem.1)
    have := hall (Nat.eq_zero_of_not_pos hzero) hfail k (by omega)
    rw [(mem_freeAids_iff h k).mp hmem] at this
    exact absurd this (by simp)
  · refine ⟨fun _ => ?_, fun hpos => ?_, fun _ _ => by simp⟩
    · rw [assignAid_aid, if_pos rfl]
      exact isLeast_firstFree h hfree
    · omega

/-- After every sequence of calls the parts of the table agree, and a new identifier is the least free
one. -/
theorem station_table {conf : BssConfig} {calls : List StaCall} {hapd : HostapdData}
    (h : Trace.Run next (init conf) calls hapd) :
    hapd.Agrees ∧ ∀ sta testFail hapd' r, hapd.hostapdGetAid sta testFail = some (hapd', r) →
      GetAidSpec hapd hapd' sta testFail := by
  have hagrees : hapd.Agrees := h.invariant (agrees_init conf) fun _ _ _ hs hnext => hs.next hnext
  exact ⟨hagrees, fun _ _ _ _ hget => hagrees.getAidSpec hget⟩

/-- Two stations of one chain join, the first one leaves, and its identifier is given to the next. -/
theorem station_table_churn :
    ∃ hapd, Trace.Run next (init ⟨2, by decide, by decide⟩)
        [.apStaAdd #v[2, 0, 0, 0, 0, 1] (some 10) true, .apStaAdd #v[2, 0, 0, 0, 1, 1] (some 20) true,
          .hostapdGetAid 10 false, .hostapdGetAid 20 false, .apFreeSta 10,
          .apStaAdd #v[2, 0, 0, 0, 2, 1] (some 10) true, .hostapdGetAid 10 false] hapd ∧
      hapd.staList = [10, 20] ∧ hapd.aid 10 = 1 ∧ hapd.Agrees := by
  have hsome : (Trace.exec next (init ⟨2, by decide, by decide⟩)
      [.apStaAdd #v[2, 0, 0, 0, 0, 1] (some 10) true, .apStaAdd #v[2, 0, 0, 0, 1, 1] (some 20) true,
        .hostapdGetAid 10 false, .hostapdGetAid 20 false, .apFreeSta 10,
        .apStaAdd #v[2, 0, 0, 0, 2, 1] (some 10) true, .hostapdGetAid 10 false]).map
      (fun hapd => (hapd.staList, hapd.aid 10)) = some ([10, 20], 1) := by decide +kernel
  obtain ⟨hapd, hexec, heq⟩ := Option.map_eq_some_iff.mp hsome
  obtain ⟨hlist, haid⟩ := Prod.mk.inj heq
  have hrun := Trace.run_iff_exec.mpr hexec
  exact ⟨hapd, hrun, hlist, haid, (station_table hrun).1⟩

end HostapdData

end Ethanol
