import EthanolHostapd.Containers.Leases
import EthanolHostapd.Traces.Run
import EthanolHostapd.Utils.Bitfield
import Mathlib.Data.UInt

/-!
# The address pool

The addresses that `wpa_auth.c` gives to P2P clients.  A client asks for one in the second message of the 4-way handshake,
keeps it as long as its state machine exists, and the bit of the address in `ip_pool` is set for this time.

An address of zero stands for none.  If the range that is configured ends below its start, the number of addresses is
computed modulo 2³², and there may be a pool nevertheless; then addresses outside the range are given away, and zero among
them.
-/

namespace Ethanol

/-! ## The code -/

/-- The part of `struct wpa_auth_config` that is about addresses. -/
structure WpaIpConfig where
  ipAddrStart : UInt32
  ipAddrEnd : UInt32

/-- The number of bits of the pool that `wpa_init` makes. -/
def WpaIpConfig.poolSize (conf : WpaIpConfig) : Option ℕ :=
  if conf.ipAddrStart = 0 then none
  else
    let count := (conf.ipAddrEnd - conf.ipAddrStart + 1).toInt32.toInt
    let count := if 1000 < count then 1000 else count
    if 0 < count then some count.toNat else none

/-- `struct wpa_state_machine *`. -/
abbrev WpaSmPtr : Type := ℕ

/-- What is read of a `struct wpa_state_machine`. -/
structure WpaSmAddr where
  ipAddr : UInt32
  pendingDeinit : Bool

/-- The part of `struct wpa_authenticator` that is about addresses, and the state machines that exist. -/
structure IpPool where
  conf : WpaIpConfig
  ipPool : Option Bitfield
  sm : WpaSmPtr → Option WpaSmAddr

namespace IpPool

/-- `wpa_init`; `bitfield_alloc` may fail. -/
def init (conf : WpaIpConfig) (alloc : Bool) : IpPool where
  conf := conf
  ipPool := if alloc then conf.poolSize.map Bitfield.alloc else none
  sm := fun _ => none

variable (pool : IpPool)

/-- `wpa_auth_sta_init`, with the memory for the state machine. -/
def wpaAuthStaInit (sm : WpaSmPtr) : Option IpPool :=
  match pool.sm sm with
  | some _ => none
  | none => some { pool with sm := Function.update pool.sm sm (some ⟨0, false⟩) }

/-- The end of the case `PAIRWISE_2` of `wpa_receive`; `ipAddrReq` is the first byte of an address request. -/
def wpaReceive (sm : WpaSmPtr) (m : WpaSmAddr) (ipAddrReq : Option UInt8) : IpPool :=
  match ipAddrReq, pool.ipPool with
  | some req, some bf =>
    if req ≠ 0 ∧ m.ipAddr = 0 then
      match bf.getFirstZero with
      | none => pool
      | some idx => { pool with
          ipPool := some (bf.set idx)
          sm := Function.update pool.sm sm (some { m with ipAddr := pool.conf.ipAddrStart + UInt32.ofNat idx }) }
    else pool
  | _, _ => pool

/-- `wpa_free_sta_sm`. -/
def wpaFreeStaSm (sm : WpaSmPtr) (m : WpaSmAddr) : Option IpPool :=
  if m.ipAddr ≠ 0 then
    pool.ipPool.map fun bf => { pool with
      ipPool := some (bf.clear (m.ipAddr - pool.conf.ipAddrStart).toNat)
      sm := Function.update pool.sm sm none }
  else some { pool with sm := Function.update pool.sm sm none }

/-- `wpa_auth_sta_deinit`; in the loop of `wpa_sm_step` the state machine is freed later. -/
def wpaAuthStaDeinit (sm : WpaSmPtr) (m : WpaSmAddr) (inStepLoop : Bool) : Option IpPool :=
  if inStepLoop then some { pool with sm := Function.update pool.sm sm (some { m with pendingDeinit := true }) }
  else pool.wpaFreeStaSm sm m

/-- The end of `wpa_sm_step`. -/
def wpaSmStepEnd (sm : WpaSmPtr) (m : WpaSmAddr) : Option IpPool :=
  if m.pendingDeinit then pool.wpaFreeStaSm sm m else some pool

end IpPool

/-- What happens to the state machines. -/
inductive IpPoolEvent
  | staInit (sm : WpaSmPtr)
  | receive (sm : WpaSmPtr) (ipAddrReq : Option UInt8)
  | staDeinit (sm : WpaSmPtr) (inStepLoop : Bool)
  | stepEnd (sm : WpaSmPtr)

namespace IpPool

/-- The pool after an event.  Only state machines that exist receive frames and are removed. -/
def next (pool : IpPool) : IpPoolEvent → Option IpPool
  | .staInit sm => pool.wpaAuthStaInit sm
  | .receive sm ipAddrReq => (pool.sm sm).map fun m => pool.wpaReceive sm m ipAddrReq
  | .staDeinit sm inStepLoop => (pool.sm sm).bind fun m => pool.wpaAuthStaDeinit sm m inStepLoop
  | .stepEnd sm => (pool.sm sm).bind fun m => pool.wpaSmStepEnd sm m

/-! ## What the pool should be -/

/-- A bit of the pool; without a pool there are none. -/
def bit (pool : IpPool) (k : ℕ) : Bool := pool.ipPool.elim false fun bf => bf.isSet k

/-- The state machine has the address. -/
def Holds (pool : IpPool) (sm : WpaSmPtr) (ip : UInt32) : Prop := ip ≠ 0 ∧ ∃ m, pool.sm sm = some m ∧ m.ipAddr = ip

/-- The set bits are the offsets of the addresses that are held, which are distinct and in the range. -/
structure Exact (pool : IpPool) : Prop where
  bits : ∀ k, pool.bit k = true ↔ ∃ sm ip, pool.Holds sm ip ∧ ip.toNat = pool.conf.ipAddrStart.toNat + k
  distinct : ∀ sm sm' ip, pool.Holds sm ip → pool.Holds sm' ip → sm = sm'
  range : ∀ sm ip, pool.Holds sm ip → pool.conf.ipAddrStart ≤ ip ∧ ip ≤ pool.conf.ipAddrEnd

/-- A state machine that has no address and asks for one gets the one with the least free offset, or none if none is
free. -/
def GivesLeast (pool : IpPool) : Prop :=
  ∀ bf sm m req pool', pool.ipPool = some bf → pool.sm sm = some m → m.ipAddr = 0 → req ≠ 0 →
    pool.next (.receive sm (some req)) = some pool' →
      ((∀ k < bf.maxBits, bf.isSet k = true) ∧ pool' = pool) ∨
        ∃ k ip, k < bf.maxBits ∧ bf.isSet k = false ∧ (∀ l < k, bf.isSet l = true) ∧
          ip.toNat = pool.conf.ipAddrStart.toNat + k ∧ pool'.Holds sm ip

/-! ## One step -/

/-- The offset of an address. -/
def addrOffset (start : UInt32) (m : WpaSmAddr) : Option ℕ :=
  if m.ipAddr = 0 then none else some (m.ipAddr - start).toNat

/-- The offset of the address that a state machine has. -/
def offset (pool : IpPool) (sm : WpaSmPtr) : Option ℕ := (pool.sm sm).bind (addrOffset pool.conf.ipAddrStart)

/-- The offsets are leases, and all addresses of the pool are in the range. -/
structure Sound (pool : IpPool) : Prop where
  leases : Leases.Exact pool.bit pool.offset
  start_pos : pool.ipPool ≠ none → 0 < pool.conf.ipAddrStart.toNat
  room : ∀ bf, pool.ipPool = some bf → pool.conf.ipAddrStart.toNat + bf.maxBits ≤ pool.conf.ipAddrEnd.toNat + 1

section Step

variable {pool pool' : IpPool} {sm : WpaSmPtr} {m : WpaSmAddr} {k : ℕ}

lemma offset_update (pool : IpPool) (ipPool : Option Bitfield) (sm : WpaSmPtr) (x : Option WpaSmAddr) :
    ({ pool with ipPool := ipPool, sm := Function.update pool.sm sm x }).offset =
      Function.update pool.offset sm (x.bind (addrOffset pool.conf.ipAddrStart)) := by
  funext sm'
  by_cases heq : sm' = sm
  · subst heq
    simp [offset]
  · simp [offset, heq]

lemma offset_eq (hm : pool.sm sm = some m) : pool.offset sm = addrOffset pool.conf.ipAddrStart m := by
  rw [offset, hm, Option.bind_some]

/-- A bit is one of a bit field. -/
lemma exists_of_bit (h : pool.bit k = true) : ∃ bf, pool.ipPool = some bf ∧ bf.isSet k = true := by
  rw [bit] at h
  cases hbf : pool.ipPool with
  | none =>
    rw [hbf] at h
    cases h
  | some bf =>
    rw [hbf] at h
    exact ⟨bf, rfl, h⟩

/-- The address with an offset in the pool. -/
lemma Sound.toNat_add (h : pool.Sound) {bf : Bitfield} (hbf : pool.ipPool = some bf) (hk : k < bf.maxBits) :
    (pool.conf.ipAddrStart + UInt32.ofNat k).toNat = pool.conf.ipAddrStart.toNat + k := by
  have hroom := h.room bf hbf
  have hend := pool.conf.ipAddrEnd.toNat_lt
  have hsize : UInt32.size = 2 ^ 32 := rfl
  rw [UInt32.toNat_add, UInt32.toNat_ofNat_of_lt' (by omega), Nat.mod_eq_of_lt (by omega)]

/-- The address with an offset in the pool is not zero, and the offset is found again. -/
lemma Sound.addrOffset_add (h : pool.Sound) {bf : Bitfield} (hbf : pool.ipPool = some bf) (hk : k < bf.maxBits)
    (pendingDeinit : Bool) :
    addrOffset pool.conf.ipAddrStart ⟨pool.conf.ipAddrStart + UInt32.ofNat k, pendingDeinit⟩ = some k := by
  have hadd := h.toNat_add hbf hk
  have hpos := h.start_pos (by rw [hbf]; simp)
  have hroom := h.room bf hbf
  have hend := pool.conf.ipAddrEnd.toNat_lt
  have hsize : UInt32.size = 2 ^ 32 := rfl
  have hne : pool.conf.ipAddrStart + UInt32.ofNat k ≠ 0 := by
    intro heq
    rw [heq] at hadd
    rw [UInt32.toNat_zero] at hadd
    omega
  rw [addrOffset, if_neg hne, add_sub_cancel_left, UInt32.toNat_ofNat_of_lt' (by omega)]

/-- A free number is given to a state machine without an address. -/
lemma Sound.give (h : pool.Sound) {bf : Bitfield} (hbf : pool.ipPool = some bf) (hm : pool.sm sm = some m)
    (hip : m.ipAddr = 0) (hk : k < bf.maxBits) (hclear : bf.isSet k = false) :
    ({ pool with
      ipPool := some (bf.set k)
      sm := Function.update pool.sm sm (some { m with ipAddr := pool.conf.ipAddrStart + UInt32.ofNat k }) } :
        IpPool).Sound where
  leases := by
    have hoffset : pool.offset sm = none := by rw [offset_eq hm, addrOffset, if_pos hip]
    have hbit : pool.bit k = false := by rw [bit, hbf]; exact hclear
    have hgive := h.leases.give hbit hoffset
    rw [offset_update, Option.bind_some, h.addrOffset_add hbf hk]
    convert hgive using 1
    funext l
    rw [bit, bit, hbf]
    exact Bitfield.isSet_set hk l
  start_pos _ := h.start_pos (by rw [hbf]; simp)
  room bf' hbf' := by
    obtain rfl := Option.some.inj hbf'
    rw [Bitfield.maxBits_set]
    exact h.room bf hbf

/-- No number is free. -/
lemma wpaReceive_of_none {bf : Bitfield} {req : UInt8} (hbf : pool.ipPool = some bf) (hreq : req ≠ 0)
    (hip : m.ipAddr = 0) (hidx : bf.getFirstZero = none) : pool.wpaReceive sm m (some req) = pool := by
  simp [wpaReceive, hbf, hreq, hip, hidx]

/-- The first free number is given away. -/
lemma wpaReceive_of_some {bf : Bitfield} {req : UInt8} {idx : ℕ} (hbf : pool.ipPool = some bf) (hreq : req ≠ 0)
    (hip : m.ipAddr = 0) (hidx : bf.getFirstZero = some idx) :
    pool.wpaReceive sm m (some req) = { pool with
      ipPool := some (bf.set idx)
      sm := Function.update pool.sm sm (some { m with ipAddr := pool.conf.ipAddrStart + UInt32.ofNat idx }) } := by
  simp [wpaReceive, hbf, hreq, hip, hidx]

/-- A state machine that asks for an address. -/
lemma Sound.receive (h : pool.Sound) (hm : pool.sm sm = some m) (ipAddrReq : Option UInt8) :
    (pool.wpaReceive sm m ipAddrReq).Sound := by
  unfold wpaReceive
  split
  · next req bf hbf =>
    split_ifs with hreq
    · split
      · exact h
      · next idx hidx =>
        obtain ⟨hlt, hclear, -⟩ := Bitfield.getFirstZero_eq_some hidx
        exact h.give hbf hm hreq.2 hlt hclear
    · exact h
  · exact h

/-- A state machine is removed. -/
lemma Sound.free (h : pool.Sound) (hm : pool.sm sm = some m) (hfree : pool.wpaFreeStaSm sm m = some pool') :
    pool'.Sound := by
  rw [wpaFreeStaSm] at hfree
  split_ifs at hfree with hip
  · obtain ⟨bf, hbf, rfl⟩ := Option.map_eq_some_iff.mp hfree
    have hoffset : pool.offset sm = some (m.ipAddr - pool.conf.ipAddrStart).toNat := by
      rw [offset_eq hm, addrOffset, if_neg hip]
    obtain ⟨bf', hbf', hset⟩ := exists_of_bit ((h.leases.bit_iff _).mpr ⟨sm, hoffset⟩)
    obtain rfl := Option.some.inj (hbf.symm.trans hbf')
    have hback := h.leases.giveBack hoffset
    refine ⟨?_, fun _ => h.start_pos (by rw [hbf]; simp), fun bf' hbf' => ?_⟩
    · rw [offset_update, Option.bind_none]
      convert hback using 1
      funext l
      rw [bit, bit, hbf]
      exact Bitfield.isSet_clear (Bitfield.lt_of_isSet hset) l
    · obtain rfl := Option.some.inj hbf'
      rw [Bitfield.maxBits_clear]
      exact h.room bf hbf
  · obtain rfl := Option.some.inj hfree
    have hoffset : pool.offset sm = none := by rw [offset_eq hm, addrOffset, if_pos (not_not.mp hip)]
    refine ⟨?_, h.start_pos, h.room⟩
    have hsame := h.leases.update_none hoffset
    rwa [← Option.bind_none (addrOffset pool.conf.ipAddrStart), ← offset_update pool pool.ipPool] at hsame

/-- A state machine that has no address, and whose address does not change. -/
lemma Sound.update_same (h : pool.Sound) {x : Option WpaSmAddr}
    (hx : x.bind (addrOffset pool.conf.ipAddrStart) = pool.offset sm) :
    ({ pool with sm := Function.update pool.sm sm x } : IpPool).Sound := by
  refine ⟨?_, h.start_pos, h.room⟩
  rw [offset_update pool pool.ipPool, hx, Function.update_eq_self]
  exact h.leases

/-- Every event keeps the pool sound. -/
lemma Sound.next (h : pool.Sound) {e : IpPoolEvent} (hnext : pool.next e = some pool') : pool'.Sound := by
  cases e with
  | staInit sm =>
    rw [IpPool.next, wpaAuthStaInit] at hnext
    split at hnext
    · cases hnext
    · next hm =>
      obtain rfl := Option.some.inj hnext
      refine h.update_same ?_
      rw [offset, hm, Option.bind_none, Option.bind_some, addrOffset, if_pos rfl]
  | receive sm ipAddrReq =>
    obtain ⟨m, hm, rfl⟩ := Option.map_eq_some_iff.mp hnext
    exact h.receive hm ipAddrReq
  | staDeinit sm inStepLoop =>
    obtain ⟨m, hm, hnext⟩ := Option.bind_eq_some_iff.mp hnext
    rw [wpaAuthStaDeinit] at hnext
    split_ifs at hnext
    · obtain rfl := Option.some.inj hnext
      refine h.update_same ?_
      rw [offset_eq hm, Option.bind_some, addrOffset, addrOffset]
    · exact h.free hm hnext
  | stepEnd sm =>
    obtain ⟨m, hm, hnext⟩ := Option.bind_eq_some_iff.mp hnext
    rw [wpaSmStepEnd] at hnext
    split_ifs at hnext
    · exact h.free hm hnext
    · exact Option.some.inj hnext ▸ h

end Step

/-! ## A sound pool -/

section Sound

variable {pool : IpPool}

/-- An address that is held has its bit, and lies where the bit says. -/
lemma Sound.of_holds (h : pool.Sound) {sm : WpaSmPtr} {ip : UInt32} (hip : pool.Holds sm ip) :
    ∃ bf k, pool.ipPool = some bf ∧ k < bf.maxBits ∧ bf.isSet k = true ∧ pool.offset sm = some k ∧
      ip.toNat = pool.conf.ipAddrStart.toNat + k := by
  obtain ⟨hne, m, hm, rfl⟩ := hip
  have hoffset : pool.offset sm = some (m.ipAddr - pool.conf.ipAddrStart).toNat := by
    rw [offset_eq hm, addrOffset, if_neg hne]
  obtain ⟨bf, hbf, hset⟩ := exists_of_bit ((h.leases.bit_iff _).mpr ⟨sm, hoffset⟩)
  have hlt := Bitfield.lt_of_isSet hset
  have hadd := h.toNat_add hbf hlt
  rw [UInt32.ofNat_toNat, add_sub_cancel] at hadd
  exact ⟨bf, _, hbf, hlt, hset, hoffset, hadd⟩

/-- The holder of an offset has the address with this offset. -/
lemma Sound.holds_of_offset (h : pool.Sound) {sm : WpaSmPtr} {k : ℕ} (hoffset : pool.offset sm = some k) :
    ∃ ip, pool.Holds sm ip ∧ ip.toNat = pool.conf.ipAddrStart.toNat + k := by
  obtain ⟨m, hm, haddr⟩ := Option.bind_eq_some_iff.mp hoffset
  rw [addrOffset] at haddr
  split_ifs at haddr with hne
  have hholds : pool.Holds sm m.ipAddr := ⟨hne, m, hm, rfl⟩
  obtain ⟨-, l, -, -, -, hl, hip⟩ := h.of_holds hholds
  obtain rfl := Option.some.inj (hl.symm.trans hoffset)
  exact ⟨m.ipAddr, hholds, hip⟩

lemma Sound.exact (h : pool.Sound) : pool.Exact where
  bits k := by
    rw [h.leases.bit_iff]
    constructor
    · rintro ⟨sm, hoffset⟩
      obtain ⟨ip, hholds, hip⟩ := h.holds_of_offset hoffset
      exact ⟨sm, ip, hholds, hip⟩
    · rintro ⟨sm, ip, hholds, hip⟩
      obtain ⟨-, l, -, -, -, hoffset, hl⟩ := h.of_holds hholds
      obtain rfl : l = k := by omega
      exact ⟨sm, hoffset⟩
  distinct sm sm' ip hsm hsm' := by
    obtain ⟨-, k, -, -, -, hk, hip⟩ := h.of_holds hsm
    obtain ⟨-, l, -, -, -, hl, hip'⟩ := h.of_holds hsm'
    obtain rfl : l = k := by omega
    exact h.leases.unique sm sm' l hk hl
  range sm ip hsm := by
    obtain ⟨bf, k, hbf, hlt, -, -, hip⟩ := h.of_holds hsm
    have hroom := h.room bf hbf
    rw [UInt32.le_iff_toNat_le, UInt32.le_iff_toNat_le]
    omega

lemma Sound.givesLeast (h : pool.Sound) : pool.GivesLeast := by
  intro bf sm m req pool' hbf hm hip hreq hnext
  obtain ⟨m', hm', rfl⟩ := Option.map_eq_some_iff.mp hnext
  obtain rfl := Option.some.inj (hm.symm.trans hm')
  cases hidx : bf.getFirstZero with
  | none => exact Or.inl ⟨Bitfield.getFirstZero_eq_none hidx, wpaReceive_of_none hbf hreq hip hidx⟩
  | some idx =>
    obtain ⟨hlt, hclear, hset⟩ := Bitfield.getFirstZero_eq_some hidx
    have hadd := h.toNat_add hbf hlt
    have hpos := h.start_pos (by rw [hbf]; simp)
    rw [wpaReceive_of_some hbf hreq hip hidx]
    refine Or.inr ⟨idx, _, hlt, hclear, hset, hadd, ?_, _, Function.update_self .., rfl⟩
    intro hzero
    rw [hzero, UInt32.toNat_zero] at hadd
    omega

end Sound

/-! ## The range of the configuration -/

/-- There is no pool if the range has no start or if the number of its addresses is not positive. -/
lemma poolSize_eq_none_iff {conf : WpaIpConfig} : conf.poolSize = none ↔
    conf.ipAddrStart = 0 ∨ (conf.ipAddrEnd - conf.ipAddrStart + 1).toInt32.toInt ≤ 0 := by
  rw [WpaIpConfig.poolSize]
  generalize (conf.ipAddrEnd - conf.ipAddrStart + 1).toInt32.toInt = count
  by_cases hzero : conf.ipAddrStart = 0
  · simp [hzero]
  · rw [if_neg hzero]
    simp only [hzero, false_or]
    split_ifs <;> simp only [false_iff, true_iff] <;> omega

/-- The pool that is made has a bit for some address, and a start. -/
lemma poolSize_pos {conf : WpaIpConfig} {size : ℕ} (hsize : conf.poolSize = some size) :
    0 < conf.ipAddrStart.toNat ∧ 0 < size ∧
      (size : ℤ) ≤ (conf.ipAddrEnd - conf.ipAddrStart + 1).toInt32.toInt := by
  rw [WpaIpConfig.poolSize] at hsize
  generalize (conf.ipAddrEnd - conf.ipAddrStart + 1).toInt32.toInt = count at hsize ⊢
  by_cases hzero : conf.ipAddrStart = 0
  · rw [if_pos hzero] at hsize
    cases hsize
  · rw [if_neg hzero] at hsize
    have hpos : 0 < conf.ipAddrStart.toNat := by
      rw [Nat.pos_iff_ne_zero, ← UInt32.toNat_zero]
      exact fun heq => hzero (UInt32.toNat_inj.mp heq)
    simp only at hsize
    split_ifs at hsize <;> obtain rfl := Option.some.inj hsize <;> omega

/-- The pool that is made is inside the range, if the range does not end below its start. -/
lemma poolSize_le {conf : WpaIpConfig} {size : ℕ} (hsize : conf.poolSize = some size)
    (hle : conf.ipAddrStart ≤ conf.ipAddrEnd) :
    conf.ipAddrStart.toNat + size ≤ conf.ipAddrEnd.toNat + 1 := by
  obtain ⟨-, -, hcount⟩ := poolSize_pos hsize
  have hle' := UInt32.le_iff_toNat_le.mp hle
  have hnat : (conf.ipAddrEnd - conf.ipAddrStart + 1).toNat ≤ conf.ipAddrEnd.toNat - conf.ipAddrStart.toNat + 1 := by
    rw [UInt32.toNat_add, UInt32.toNat_sub_of_le _ _ hle, UInt32.toNat_one]
    exact Nat.mod_le ..
  have hint : (conf.ipAddrEnd - conf.ipAddrStart + 1).toInt32.toInt ≤ (conf.ipAddrEnd - conf.ipAddrStart + 1).toNat := by
    generalize conf.ipAddrEnd - conf.ipAddrStart + 1 = c
    change c.toBitVec.toInt ≤ c.toBitVec.toNat
    rw [BitVec.toInt_eq_toNat_cond]
    split_ifs <;> omega
  omega

/-- The pool is sound at the start. -/
lemma init_sound {conf : WpaIpConfig} {alloc : Bool}
    (h : alloc = false ∨ conf.poolSize = none ∨ conf.ipAddrStart ≤ conf.ipAddrEnd) : (init conf alloc).Sound := by
  have hbits : ∀ bf, (init conf alloc).ipPool = some bf → ∃ size, alloc = true ∧ conf.poolSize = some size ∧
      Bitfield.alloc size = bf := by
    intro bf hbf
    cases alloc with
    | false => cases hbf
    | true =>
      obtain ⟨size, hsize, heq⟩ := Option.map_eq_some_iff.mp hbf
      exact ⟨size, rfl, hsize, heq⟩
  refine ⟨Leases.exact_empty (fun k => ?_) fun _ => rfl, fun hne => ?_, fun bf hbf => ?_⟩
  · rw [← Bool.not_eq_true]
    intro hset
    obtain ⟨bf, hbf, hset⟩ := exists_of_bit hset
    obtain ⟨size, -, -, rfl⟩ := hbits bf hbf
    rw [Bitfield.isSet_alloc] at hset
    cases hset
  · obtain ⟨bf, hbf⟩ := Option.ne_none_iff_exists'.mp hne
    obtain ⟨size, -, hsize, -⟩ := hbits bf hbf
    exact (poolSize_pos hsize).1
  · obtain ⟨size, rfl, hsize, rfl⟩ := hbits bf hbf
    rcases h with hfalse | hnone | hle
    · cases hfalse
    · rw [hnone] at hsize
      cases hsize
    · exact poolSize_le hsize hle

/-- The first address of a new pool is its start. -/
lemma getFirstZero_alloc {size : ℕ} (hsize : 0 < size) : (Bitfield.alloc size).getFirstZero = some 0 := by
  cases hidx : (Bitfield.alloc size).getFirstZero with
  | none =>
    have hset := Bitfield.getFirstZero_eq_none hidx 0 hsize
    rw [Bitfield.isSet_alloc] at hset
    cases hset
  | some idx =>
    rcases Nat.eq_zero_or_pos idx with rfl | hpos
    · rfl
    · have hset := (Bitfield.getFirstZero_eq_some hidx).2.2 0 hpos
      rw [Bitfield.isSet_alloc] at hset
      cases hset

/-- A state machine that is the first one to ask gets the start of the range. -/
lemma exists_run_holds_start {conf : WpaIpConfig} {size : ℕ} (hsize : conf.poolSize = some size) :
    ∃ pool, Trace.Run next (init conf true) [.staInit 0, .receive 0 (some 1)] pool ∧ pool.conf = conf ∧
      pool.Holds 0 conf.ipAddrStart := by
  obtain ⟨hstart, hpos, -⟩ := poolSize_pos hsize
  have hpool : (init conf true).ipPool = some (Bitfield.alloc size) := by
    rw [init, if_pos rfl, hsize, Option.map_some]
  have hne : conf.ipAddrStart ≠ 0 := by
    intro heq
    rw [heq, UInt32.toNat_zero] at hstart
    omega
  let pool : IpPool := { init conf true with sm := Function.update (fun _ => none) 0 (some ⟨0, false⟩) }
  have hinit : (init conf true).next (.staInit 0) = some pool := rfl
  have hreceive : pool.next (.receive 0 (some 1)) = some (pool.wpaReceive 0 ⟨0, false⟩ (some 1)) := by
    have hsm : pool.sm 0 = some ⟨0, false⟩ := by simp [pool]
    rw [IpPool.next, hsm, Option.map_some]
  refine ⟨_, (Trace.Run.nil.snoc hinit).snoc hreceive, ?_⟩
  rw [@wpaReceive_of_some pool _ _ _ _ _ hpool (by decide) rfl (getFirstZero_alloc hpos)]
  exact ⟨rfl, hne, ⟨conf.ipAddrStart, false⟩, by simp [pool, init], rfl⟩

/-- Whatever happens to the state machines, the bits of the pool are those of the addresses that are held, these are
distinct and in the range, and the least free one is given away, if and only if there is no pool or the range does not end
below its start. -/
theorem run_exact_iff (conf : WpaIpConfig) (alloc : Bool) :
    (∀ es pool, Trace.Run next (init conf alloc) es pool → pool.Exact ∧ pool.GivesLeast) ↔
      alloc = false ∨ conf.ipAddrStart = 0 ∨ (conf.ipAddrEnd - conf.ipAddrStart + 1).toInt32.toInt ≤ 0 ∨
        conf.ipAddrStart ≤ conf.ipAddrEnd := by
  rw [← or_assoc (a := conf.ipAddrStart = 0), ← poolSize_eq_none_iff]
  constructor
  · intro h
    by_contra hcon
    push Not at hcon
    obtain ⟨halloc, hsome, hlt⟩ := hcon
    rw [ne_eq, Bool.not_eq_false] at halloc
    subst halloc
    obtain ⟨size, hsize⟩ := Option.ne_none_iff_exists'.mp hsome
    obtain ⟨pool, hrun, rfl, hholds⟩ := exists_run_holds_start hsize
    exact hlt ((h _ pool hrun).1.range 0 _ hholds).2
  · intro h es pool hrun
    have hsound : pool.Sound := hrun.invariant (init_sound h) fun _ _ _ hI hnext => hI.next hnext
    exact ⟨hsound.exact, hsound.givesLeast⟩

/-- With the range from 200.0.0.0 to 10.0.0.255 there is a pool of 1000 addresses, and the first one that is given away is
not in the range. -/
theorem not_exact_of_end_lt : ∃ pool, Trace.Run next (init ⟨0xc8000000, 0x0a0000ff⟩ true)
    [.staInit 0, .receive 0 (some 1)] pool ∧ pool.Holds 0 0xc8000000 ∧ ¬pool.Exact := by
  have hsize : WpaIpConfig.poolSize ⟨0xc8000000, 0x0a0000ff⟩ = some 1000 := by decide
  obtain ⟨pool, hrun, hconf, hholds⟩ := exists_run_holds_start hsize
  refine ⟨pool, hrun, hholds, fun hexact => ?_⟩
  have hle := (hexact.range 0 _ hholds).2
  rw [hconf] at hle
  exact absurd hle (by decide)

end IpPool

end Ethanol
