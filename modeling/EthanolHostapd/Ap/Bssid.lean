import EthanolHostapd.Ap.StaInfo
import EthanolHostapd.Containers.FreeNumbers
import EthanolHostapd.Utils.Common
import Mathlib.Data.Nat.Bitwise

/-!
# The BSSIDs of an interface

`ap/hostapd.c` gives each BSS of an interface its address.  The first one has that of the radio, the
others the one of their configuration or else the next available one.  Before that
`hostapd_validate_bssid_configuration` works out how many of the low bits of an address the BSSs need,
and checks that the address of the radio is the first one of such a block.

An address is read as a number, most significant byte first.
-/

namespace Ethanol

open Wire FreeNumbers

/-- The address as a number. -/
def MacAddr.toNat (a : MacAddr) : ℕ := beNat a.toList

/-- `is_zero_ether_addr`. -/
def isZeroEtherAddr (a : MacAddr) : Bool := a.toList.foldl (fun b c => b ||| c) 0 == 0

/-- `hostapd_mac_comp`. -/
def hostapdMacComp (a b : MacAddr) : ℤ := osMemcmp a.toList b.toList

/-- `inc_byte_array (addr, ETH_ALEN)`. -/
def incAddr (a : MacAddr) : MacAddr := ⟨(incByteArray a.toList).toArray, by simp⟩

/-- `for (; i; i >>= 1) bits++`, for at most `fuel` rounds. -/
def bitsLoop : ℕ → ℕ → ℕ
  | 0, _ => 0
  | fuel + 1, i => if i = 0 then 0 else bitsLoop fuel (i >>> 1) + 1

/-- The bits in use: that many rounds are enough. -/
def bitCount (i : ℕ) : ℕ := bitsLoop i i

/-- What the addresses depend on. -/
structure BssidIface where
  /-- `hostapd_drv_none`. -/
  drvNone : Bool
  useDriverIfaceAddr : Bool
  /-- `iface->bss[0]->own_addr`. -/
  ownAddr : MacAddr
  /-- `conf->bss[j]->bssid`.  The loops do not end for `2 ^ 32` BSSs or more. -/
  bssid : List MacAddr

/-- Why `hostapd_validate_bssid_configuration` returns -1. -/
inductive BssidError
  | tooManyBits (bits : ℕ)
  | startAddress (mask : MacAddr)

/-- Why `hostapd_setup_bss` returns -1. -/
inductive SetupError
  | radioAddress
  | failedToAdd
  /-- It does not return at all. -/
  | noneAvailable
  deriving DecidableEq

/-- The check of `hostapd_config_check_bss` for duplicates. -/
def hostapdConfigCheckBss (bssid : List MacAddr) (j : ℕ) : Bool :=
  if isZeroEtherAddr (bssid.getD j (Vector.replicate 6 0)) then true
  else (List.range bssid.length).all fun i =>
    i = j || hostapdMacComp (bssid.getD i (Vector.replicate 6 0)) (bssid.getD j (Vector.replicate 6 0)) ≠ 0

/-- `hostapd_config_check`, as far as the BSSIDs go. -/
def hostapdConfigCheck (bssid : List MacAddr) : Bool :=
  (List.range bssid.length).all (hostapdConfigCheckBss bssid)

/-- `mac_in_conf`. -/
def macInConf (bssid : List MacAddr) (a : MacAddr) : Bool := bssid.any fun b => hostapdMacComp b a = 0

namespace BssidIface

variable (iface : BssidIface)

/-- The bits in which a configured BSSID differs from the address of the radio. -/
def diffMask : MacAddr :=
  iface.bssid.foldl
    (fun mask b =>
      if isZeroEtherAddr b then mask else Vector.ofFn fun i => mask[i] ||| (b[i] ^^^ iface.ownAddr[i]))
    (Vector.replicate 6 0)

/-- `auto_addr`. -/
def autoAddr : ℕ := iface.bssid.tail.countP isZeroEtherAddr

end BssidIface

/-- `j` after the loop over the bytes of the mask. -/
def maskBits : List UInt8 → ℕ
  | [] => 0
  | m :: mask => if m = 0 then maskBits mask else mask.length * 8 + bitCount m.toNat

/-- The mask without its low `bits` bits. -/
def blockMask (bits : ℕ) : MacAddr :=
  Vector.ofFn fun i =>
    if i.val < 5 - bits / 8 then 0xff
    else if i.val = 5 - bits / 8 then 0xff <<< UInt8.ofNat (bits % 8)
    else 0

namespace BssidIface

variable (iface : BssidIface)

/-- `bits`. -/
def bits : ℕ := max (bitCount (iface.bssid.length - 1)) (maskBits iface.diffMask.toList)

/-- `hostapd_validate_bssid_configuration`. -/
def hostapdValidateBssidConfiguration : Except BssidError Unit :=
  if iface.drvNone then .ok ()
  else if iface.useDriverIfaceAddr then .ok ()
  else if iface.autoAddr = 0 then .ok ()
  else if iface.bits > 40 then .error (.tooManyBits iface.bits)
  else if ∀ i : Fin 6, iface.ownAddr[i] &&& (blockMask iface.bits)[i] = iface.ownAddr[i] then .ok ()
  else .error (.startAddress (blockMask iface.bits))

/-- The loop that takes the next available BSSID, for at most `fuel` rounds. -/
def nextBssid : ℕ → MacAddr → Option MacAddr
  | 0, _ => none
  | fuel + 1, ownAddr =>
    let ownAddr := incAddr ownAddr
    if macInConf iface.bssid ownAddr then nextBssid fuel ownAddr else some ownAddr

/-- `hostapd_if_add`: the address that the driver reports, if it succeeds.  The driver "none" has no such
operation. -/
def hostapdIfAdd (ifAdd : Option MacAddr) : Option MacAddr := if iface.drvNone then none else ifAdd

/-- The address that `hostapd_setup_bss` gives to a BSS, whose `own_addr` was set before.  There are
`2 ^ 48` addresses to try. -/
def hostapdSetupBss (first : Bool) (ownAddr bssid : MacAddr) (ifAdd : Option MacAddr) :
    Except SetupError MacAddr :=
  if first then .ok ownAddr
  else if !isZeroEtherAddr bssid then
    if hostapdMacComp bssid iface.ownAddr = 0 then .error .radioAddress
    else if (iface.hostapdIfAdd ifAdd).isSome then .ok bssid else .error .failedToAdd
  else if iface.useDriverIfaceAddr then
    match iface.hostapdIfAdd ifAdd with
    | some ifAddr => .ok ifAddr
    | none => .error .failedToAdd
  else
    match iface.nextBssid (2 ^ 48) ownAddr with
    | none => .error .noneAvailable
    | some addr => if (iface.hostapdIfAdd ifAdd).isSome then .ok addr else .error .failedToAdd

/-- The loop of `hostapd_setup_interface_complete_sync` from the BSS `j` on: the addresses that were given,
and why it stopped before the last BSS. -/
def setupLoop (ifAdd : ℕ → Option MacAddr) : ℕ → MacAddr → List MacAddr → List MacAddr × Option SetupError
  | _, _, [] => ([], none)
  | j, prevAddr, bssid :: bssids =>
    match iface.hostapdSetupBss (j == 0) prevAddr bssid (ifAdd j) with
    | .error e => ([], some e)
    | .ok addr =>
      let (addrs, e) := setupLoop ifAdd (j + 1) (if isZeroEtherAddr bssid then addr else prevAddr) bssids
      (addr :: addrs, e)

/-- `hostapd_setup_interface_complete_sync`, as far as the addresses go. -/
def hostapdSetupInterfaceCompleteSync (ifAdd : ℕ → Option MacAddr) : List MacAddr × Option SetupError :=
  iface.setupLoop ifAdd 0 iface.ownAddr iface.bssid

end BssidIface

/-! ## Addresses as numbers -/

lemma MacAddr.toNat_lt (a : MacAddr) : a.toNat < 2 ^ 48 := by
  have h := beNat_lt a.toList
  rw [Vector.length_toList] at h
  exact h

lemma MacAddr.toNat_inj {a b : MacAddr} : a.toNat = b.toNat ↔ a = b := by
  have hlen : a.toList.length = b.toList.length := by simp
  rw [MacAddr.toNat, MacAddr.toNat, beNat_inj hlen, Vector.toList_inj]

lemma hostapdMacComp_eq_zero_iff {a b : MacAddr} : hostapdMacComp a b = 0 ↔ a = b := by
  have hlen : a.toList.length = b.toList.length := by simp
  rw [hostapdMacComp, osMemcmp_eq_zero_iff hlen, Vector.toList_inj]

lemma toNat_incAddr (a : MacAddr) : (incAddr a).toNat = (a.toNat + 1) % 2 ^ 48 := by
  have h := beNat_incByteArray a.toList
  rw [Vector.length_toList] at h
  exact h

lemma foldl_or_eq_zero_iff {l : List UInt8} {b : UInt8} :
    l.foldl (fun b c => b ||| c) b = 0 ↔ b = 0 ∧ ∀ c ∈ l, c = 0 := by
  induction l generalizing b with
  | nil => simp
  | cons c l ih => rw [List.foldl_cons, ih, UInt8.or_eq_zero_iff, and_assoc, List.forall_mem_cons]

lemma isZeroEtherAddr_iff {a : MacAddr} : isZeroEtherAddr a = true ↔ ∀ i : Fin 6, a[i] = 0 := by
  rw [isZeroEtherAddr, beq_iff_eq, foldl_or_eq_zero_iff, and_iff_right rfl]
  constructor
  · intro h i
    exact h _ (Vector.mem_toList_iff.mpr (Vector.getElem_mem i.isLt))
  · intro h c hc
    obtain ⟨i, hi, rfl⟩ := Vector.mem_iff_getElem.mp (Vector.mem_toList_iff.mp hc)
    exact h ⟨i, hi⟩

lemma toNat_of_isZeroEtherAddr {a : MacAddr} (h : isZeroEtherAddr a = true) : a.toNat = 0 := by
  have hlist : a.toList = List.replicate 6 0 := by
    rw [List.eq_replicate_iff]
    refine ⟨by simp, fun b hb => ?_⟩
    rw [Vector.mem_toList_iff, Vector.mem_iff_getElem] at hb
    obtain ⟨i, hi, rfl⟩ := hb
    exact isZeroEtherAddr_iff.mp h ⟨i, hi⟩
  have hzero := beNat_append_zeros [] 6
  rw [List.nil_append] at hzero
  rw [MacAddr.toNat, hlist, hzero]
  simp [beNat, leNat]

lemma mem_of_macInConf {bssid : List MacAddr} {a : MacAddr} : macInConf bssid a = true ↔ a ∈ bssid := by
  simp [macInConf, hostapdMacComp_eq_zero_iff]

/-! ## The mask covers the BSSIDs -/

lemma lt_two_pow_bitsLoop {fuel i : ℕ} (h : i ≤ fuel) : i < 2 ^ bitsLoop fuel i := by
  induction fuel generalizing i with
  | zero =>
    have hi : i = 0 := by omega
    simp [hi, bitsLoop]
  | succ fuel ih =>
    rw [bitsLoop]
    split
    · omega
    · have hhalf : i >>> 1 = i / 2 := by rw [Nat.shiftRight_eq_div_pow, pow_one]
      have hrest := ih (i := i >>> 1) (by omega)
      rw [pow_succ]
      omega

lemma lt_two_pow_bitCount (i : ℕ) : i < 2 ^ bitCount i := lt_two_pow_bitsLoop le_rfl

lemma bitsLoop_le {fuel i k : ℕ} (h : i < 2 ^ k) : bitsLoop fuel i ≤ k := by
  induction fuel generalizing i k with
  | zero => simp [bitsLoop]
  | succ fuel ih =>
    rw [bitsLoop]
    split
    · exact Nat.zero_le k
    · cases k with
      | zero => omega
      | succ k =>
        have hhalf : i >>> 1 = i / 2 := by rw [Nat.shiftRight_eq_div_pow, pow_one]
        have hrest := ih (i := i >>> 1) (k := k) (by rw [pow_succ] at h; omega)
        omega

/-- A byte has eight bits. -/
lemma maskBits_le (mask : List UInt8) : maskBits mask ≤ mask.length * 8 := by
  induction mask with
  | nil => rfl
  | cons m mask ih =>
    have hbyte : bitCount m.toNat ≤ 8 := bitsLoop_le m.toNat_lt
    rw [maskBits, List.length_cons]
    split <;> omega

/-- Numbers that differ in low bits only are equal above them. -/
lemma div_eq_of_xor_lt {a b k : ℕ} (h : a ^^^ b < 2 ^ k) : a / 2 ^ k = b / 2 ^ k := by
  have hzero : (a ^^^ b) >>> k = 0 := by
    rw [Nat.shiftRight_eq_div_pow]
    exact Nat.div_eq_of_lt h
  rw [Nat.shiftRight_xor_distrib, Nat.xor_eq_zero_iff] at hzero
  rwa [Nat.shiftRight_eq_div_pow, Nat.shiftRight_eq_div_pow] at hzero

/-- Bytes that differ only where the mask has bits stand for numbers that are equal above the mask. -/
lemma beNat_div_eq_of_mask {as bs mask : List UInt8} (has : as.length = mask.length) (hbs : bs.length = mask.length)
    (h : ∀ i, (bs.getD i 0 ^^^ as.getD i 0).toNat ≤ (mask.getD i 0).toNat) :
    beNat bs / 2 ^ maskBits mask = beNat as / 2 ^ maskBits mask := by
  induction mask generalizing as bs with
  | nil => rw [List.length_eq_zero_iff.mp has, List.length_eq_zero_iff.mp hbs]
  | cons m mask ih =>
    obtain ⟨a, as, rfl⟩ := List.exists_cons_of_length_eq_add_one has
    obtain ⟨b, bs, rfl⟩ := List.exists_cons_of_length_eq_add_one hbs
    rw [List.length_cons, List.length_cons, Nat.add_right_cancel_iff] at has hbs
    have hfirst : b.toNat ^^^ a.toNat ≤ m.toNat := by simpa using h 0
    have hrest := ih has hbs fun i => by simpa using h (i + 1)
    rw [beNat_cons, beNat_cons, has, hbs, maskBits]
    split
    · rename_i hm
      have hab : b = a := by
        rw [hm, UInt8.toNat_zero, Nat.le_zero, Nat.xor_eq_zero_iff] at hfirst
        exact UInt8.toNat_inj.mp hfirst
      obtain ⟨c, hc⟩ : 2 ^ maskBits mask ∣ 256 ^ mask.length := by
        rw [show 256 = 2 ^ 8 from rfl, ← pow_mul, mul_comm]
        exact pow_dvd_pow 2 (maskBits_le mask)
      rw [hab, hc, mul_left_comm, Nat.mul_add_div (by positivity), Nat.mul_add_div (by positivity), hrest]
    · have hpow : 2 ^ (mask.length * 8 + bitCount m.toNat) = 256 ^ mask.length * 2 ^ bitCount m.toNat := by
        rw [pow_add, mul_comm _ 8, pow_mul]
        rfl
      have habove : ∀ x : UInt8, ∀ xs : List UInt8, xs.length = mask.length →
          (x.toNat * 256 ^ mask.length + beNat xs) / 256 ^ mask.length = x.toNat := by
        intro x xs hxs
        have hlt := beNat_lt xs
        rw [hxs] at hlt
        rw [mul_comm, Nat.mul_add_div (Nat.pow_pos (by norm_num)), Nat.div_eq_of_lt hlt, add_zero]
      rw [hpow, ← Nat.div_div_eq_div_mul, ← Nat.div_div_eq_div_mul, habove b bs hbs, habove a as has]
      exact div_eq_of_xor_lt (hfirst.trans_lt (lt_two_pow_bitCount _))

lemma getD_toList {a : MacAddr} (i : Fin 6) : a.toList.getD i 0 = a[i] := by
  rw [List.getD_eq_getElem _ _ (by simp)]
  simp

namespace BssidIface

variable {iface : BssidIface}

/-- A round of the loop that collects the mask. -/
def diffStep (iface : BssidIface) (mask b : MacAddr) : MacAddr :=
  if isZeroEtherAddr b then mask else Vector.ofFn fun i => mask[i] ||| (b[i] ^^^ iface.ownAddr[i])

lemma le_diffStep (mask b : MacAddr) (i : Fin 6) : mask[i].toNat ≤ (iface.diffStep mask b)[i].toNat := by
  rw [diffStep]
  split
  · exact le_rfl
  · simp [Nat.left_le_or]

lemma xor_le_diffStep (mask : MacAddr) {b : MacAddr} (hb : isZeroEtherAddr b = false) (i : Fin 6) :
    (b[i] ^^^ iface.ownAddr[i]).toNat ≤ (iface.diffStep mask b)[i].toNat := by
  simp [diffStep, hb, Nat.right_le_or]

lemma le_foldl_diffStep (bssids : List MacAddr) (mask : MacAddr) (i : Fin 6) :
    mask[i].toNat ≤ (bssids.foldl iface.diffStep mask)[i].toNat := by
  induction bssids generalizing mask with
  | nil => exact le_rfl
  | cons b bssids ih => exact (le_diffStep mask b i).trans (ih _)

lemma xor_le_foldl_diffStep (iface : BssidIface) {bssids : List MacAddr} {b : MacAddr} (hmem : b ∈ bssids) (hb : isZeroEtherAddr b = false)
    (mask : MacAddr) (i : Fin 6) :
    (b[i] ^^^ iface.ownAddr[i]).toNat ≤ (bssids.foldl iface.diffStep mask)[i].toNat := by
  induction bssids generalizing mask with
  | nil => simp at hmem
  | cons c bssids ih =>
    rw [List.mem_cons] at hmem
    rcases hmem with rfl | hmem
    · exact (xor_le_diffStep mask hb i).trans (le_foldl_diffStep bssids _ i)
    · exact ih hmem _

/-- A configured BSSID is equal to the address of the radio above the computed bits. -/
lemma toNat_div_of_mem {b : MacAddr} (hmem : b ∈ iface.bssid) (hb : isZeroEtherAddr b = false) :
    b.toNat / 2 ^ iface.bits = iface.ownAddr.toNat / 2 ^ iface.bits := by
  have hmask : b.toNat / 2 ^ maskBits iface.diffMask.toList =
      iface.ownAddr.toNat / 2 ^ maskBits iface.diffMask.toList := by
    refine beNat_div_eq_of_mask (by simp) (by simp) fun i => ?_
    by_cases hi : i < 6
    · have hle := xor_le_foldl_diffStep iface hmem hb (Vector.replicate 6 0) ⟨i, hi⟩
      rw [getD_toList ⟨i, hi⟩, getD_toList ⟨i, hi⟩, getD_toList ⟨i, hi⟩]
      exact hle
    · have hout : ∀ a : MacAddr, a.toList.getD i 0 = 0 := fun a =>
        List.getD_eq_default _ _ (by simp; omega)
      rw [hout, hout]
      simp
  obtain ⟨d, hd⟩ := Nat.exists_eq_add_of_le (le_max_right (bitCount (iface.bssid.length - 1)) (maskBits iface.diffMask.toList))
  rw [bits, hd, pow_add, ← Nat.div_div_eq_div_mul, ← Nat.div_div_eq_div_mul, hmask]

lemma length_le (iface : BssidIface) : iface.bssid.length ≤ 2 ^ iface.bits := by
  have hlt := lt_two_pow_bitCount (iface.bssid.length - 1)
  have hle : 2 ^ bitCount (iface.bssid.length - 1) ≤ 2 ^ iface.bits :=
    Nat.pow_le_pow_right (by norm_num) (le_max_left _ _)
  omega

end BssidIface

/-! ## The first address of the block -/

/-- A number that the mask leaves alone ends in as many zeros as the mask. -/
lemma dvd_of_and_eq {b m r : ℕ} (hm : 2 ^ r ∣ m) (h : b &&& m = b) : 2 ^ r ∣ b := by
  have hmod := Nat.and_mod_two_pow (a := b) (b := m) (n := r)
  rw [h, Nat.mod_eq_zero_of_dvd hm, Nat.and_zero] at hmod
  exact Nat.dvd_of_mod_eq_zero hmod

/-- The address that is the first one of its block is a multiple of the length of the block. -/
lemma dvd_toNat_of_blockMask {a : MacAddr} {bits : ℕ} (hbits : bits ≤ 40)
    (h : ∀ i : Fin 6, a[i] &&& (blockMask bits)[i] = a[i]) : 2 ^ bits ∣ a.toNat := by
  have hpos : 5 - bits / 8 < 6 := by omega
  have hlist : a.toList = a.toList.take (5 - bits / 8) ++ [a[5 - bits / 8]] ++ List.replicate (bits / 8) 0 := by
    have hdrop : a.toList.drop (5 - bits / 8 + 1) = List.replicate (bits / 8) 0 := by
      rw [List.eq_replicate_iff, List.length_drop, Vector.length_toList]
      refine ⟨by omega, fun b hb => ?_⟩
      obtain ⟨i, hi, rfl⟩ := List.mem_iff_getElem.mp hb
      rw [List.length_drop, Vector.length_toList] at hi
      have hzero := h ⟨5 - bits / 8 + 1 + i, by omega⟩
      have hno : ¬5 - bits / 8 + 1 + i < 5 - bits / 8 := by omega
      have hne : 5 - bits / 8 + 1 + i ≠ 5 - bits / 8 := by omega
      simpa [blockMask, hno, hne] using hzero.symm
    have hsplit := List.take_append_drop (5 - bits / 8) a.toList
    rw [List.drop_eq_getElem_cons (by simpa using hpos), hdrop] at hsplit
    simpa using hsplit.symm
  have hlow : 2 ^ (bits % 8) ∣ a[5 - bits / 8].toNat := by
    have hbyte := h ⟨5 - bits / 8, hpos⟩
    have hmask : (blockMask bits)[5 - bits / 8] = 0xff <<< UInt8.ofNat (bits % 8) := by simp [blockMask]
    have hand := congrArg UInt8.toNat hbyte
    rw [UInt8.toNat_and] at hand
    have hshift : ∀ r < 8, 2 ^ r ∣ ((0xff : UInt8) <<< UInt8.ofNat r).toNat := by decide
    apply dvd_of_and_eq _ hand
    rw [Fin.getElem_fin, hmask]
    exact hshift (bits % 8) (Nat.mod_lt _ (by norm_num))
  have hlen : 2 ^ bits = 2 ^ (bits % 8) * 256 ^ (bits / 8) := by
    rw [show 256 = 2 ^ 8 from rfl, ← pow_mul, ← pow_add, Nat.mod_add_div]
  rw [MacAddr.toNat, hlist, beNat_append_zeros, beNat_concat, hlen]
  apply Nat.mul_dvd_mul_right
  apply Nat.dvd_add _ hlow
  exact Dvd.dvd.mul_left (pow_dvd_pow 2 (by omega : bits % 8 ≤ 8)) _

/-! ## The next available address -/

namespace BssidIface

variable {iface : BssidIface}

/-- The numbers of the configured BSSIDs. -/
def used (iface : BssidIface) : List ℕ := iface.bssid.map MacAddr.toNat

/-- An available address above that of the radio. -/
abbrev Available (iface : BssidIface) (x : ℕ) : Prop := Free iface.ownAddr.toNat iface.used x

lemma macInConf_iff {a : MacAddr} : macInConf iface.bssid a = true ↔ a.toNat ∈ iface.used := by
  rw [mem_of_macInConf, used, List.mem_map]
  constructor
  · intro h
    exact ⟨a, h, rfl⟩
  · rintro ⟨b, hb, heq⟩
    rwa [← MacAddr.toNat_inj.mp heq]

/-- The loop stops at the first address above it that is not configured. -/
lemma nextBssid_eq_some (fuel : ℕ) {a : MacAddr} {x : ℕ} (hlt : a.toNat < x) (hx : x < 2 ^ 48)
    (hfuel : x ≤ a.toNat + fuel) (hfree : x ∉ iface.used)
    (hbetween : ∀ y, a.toNat < y → y < x → y ∈ iface.used) :
    ∃ addr, iface.nextBssid fuel a = some addr ∧ addr.toNat = x := by
  induction fuel generalizing a with
  | zero => omega
  | succ fuel ih =>
    have hinc : (incAddr a).toNat = a.toNat + 1 := by
      rw [toNat_incAddr, Nat.mod_eq_of_lt (by omega)]
    by_cases heq : a.toNat + 1 = x
    · refine ⟨incAddr a, ?_, by rw [hinc, heq]⟩
      have hconf : ¬macInConf iface.bssid (incAddr a) = true := by
        rwa [macInConf_iff, hinc, heq]
      simp [nextBssid, hconf]
    · have hconf : macInConf iface.bssid (incAddr a) = true := by
        rw [macInConf_iff, hinc]
        exact hbetween _ (by omega) (by omega)
      obtain ⟨addr, haddr, hnum⟩ := ih (a := incAddr a) (by omega) (by omega)
        (fun y hy hyx => hbetween y (by omega) hyx)
      refine ⟨addr, ?_, hnum⟩
      simp [nextBssid, hconf, haddr]

/-- While there is an available address below the bound, the next one is found, and it is counted. -/
lemma nextBssid_available {a : MacAddr} {hi : ℕ} (hown : iface.ownAddr.toNat ≤ a.toNat) (hhi : hi ≤ 2 ^ 48)
    (hcount : Nat.count iface.Available (a.toNat + 1) < Nat.count iface.Available hi) :
    ∃ addr, iface.nextBssid (2 ^ 48) a = some addr ∧ a.toNat < addr.toNat ∧ addr.toNat < hi ∧
      iface.Available addr.toNat ∧
      Nat.count iface.Available (addr.toNat + 1) = Nat.count iface.Available (a.toNat + 1) + 1 := by
  obtain ⟨x, hlo, hxhi, hfree, hfirst, hnext⟩ := exists_next hcount
  have hbetween : ∀ y, a.toNat < y → y < x → y ∈ iface.used := by
    intro y hy hyx
    by_contra hused
    exact hfirst y (by omega) hyx ⟨by omega, hused⟩
  obtain ⟨addr, haddr, hnum⟩ := nextBssid_eq_some (2 ^ 48) (by omega) (by omega) (by omega) hfree.2 hbetween
  subst hnum
  exact ⟨addr, haddr, by omega, hxhi, hfree, hnext⟩

/-! ## The addresses of the BSSs -/

/-- What the addresses given to the BSSs after the first one are. -/
structure Allocated (iface : BssidIface) (lo hi : ℕ) (bssids addrs : List MacAddr) : Prop where
  nodup : addrs.Nodup
  mem : ∀ a ∈ addrs, (a ∈ bssids ∧ isZeroEtherAddr a = false) ∨
    (iface.Available a.toNat ∧ lo < a.toNat ∧ a.toNat < hi)

/-- Configured BSSIDs that `hostapd_config_check` accepts are not given twice. -/
def Distinct (bssids : List MacAddr) : Prop :=
  bssids.Pairwise fun a b => isZeroEtherAddr a = false → a ≠ b

lemma hostapdSetupBss_configured (prevAddr : MacAddr) {b : MacAddr} (ifAdd : Option MacAddr)
    (hb : isZeroEtherAddr b = false) (hradio : b ≠ iface.ownAddr) :
    iface.hostapdSetupBss false prevAddr b ifAdd =
      if (iface.hostapdIfAdd ifAdd).isSome then .ok b else .error .failedToAdd := by
  simp [hostapdSetupBss, hb, hostapdMacComp_eq_zero_iff, hradio]

lemma hostapdSetupBss_auto {prevAddr b addr : MacAddr} (ifAdd : Option MacAddr) (hb : isZeroEtherAddr b = true)
    (hdriver : iface.useDriverIfaceAddr = false) (hnext : iface.nextBssid (2 ^ 48) prevAddr = some addr) :
    iface.hostapdSetupBss false prevAddr b ifAdd =
      if (iface.hostapdIfAdd ifAdd).isSome then .ok addr else .error .failedToAdd := by
  simp only [hostapdSetupBss, hb, hdriver, hnext]
  simp

lemma setupLoop_error {ifAdd : ℕ → Option MacAddr} {j : ℕ} {prevAddr b : MacAddr} {bssids : List MacAddr}
    {e : SetupError} (h : iface.hostapdSetupBss false prevAddr b (ifAdd (j + 1)) = .error e) :
    iface.setupLoop ifAdd (j + 1) prevAddr (b :: bssids) = ([], some e) := by
  rw [setupLoop, beq_false_of_ne (Nat.succ_ne_zero j), h]

lemma setupLoop_ok {ifAdd : ℕ → Option MacAddr} {j : ℕ} {prevAddr b addr : MacAddr} {bssids : List MacAddr}
    (h : iface.hostapdSetupBss false prevAddr b (ifAdd (j + 1)) = .ok addr) :
    iface.setupLoop ifAdd (j + 1) prevAddr (b :: bssids) =
      (addr :: (iface.setupLoop ifAdd (j + 2) (if isZeroEtherAddr b then addr else prevAddr) bssids).1,
        (iface.setupLoop ifAdd (j + 2) (if isZeroEtherAddr b then addr else prevAddr) bssids).2) := by
  rw [setupLoop, beq_false_of_ne (Nat.succ_ne_zero j), h]

lemma Allocated.nil (iface : BssidIface) (lo hi : ℕ) (bssids : List MacAddr) : iface.Allocated lo hi bssids [] :=
  ⟨List.nodup_nil, by simp⟩

/-- A configured BSSID is in front of addresses that are others or available. -/
lemma Allocated.cons_configured {lo hi : ℕ} {b : MacAddr} {bssids addrs : List MacAddr}
    (h : iface.Allocated lo hi bssids addrs) (hmem : b ∈ iface.bssid) (hb : isZeroEtherAddr b = false)
    (hdistinct : ∀ c ∈ bssids, b ≠ c) : iface.Allocated lo hi (b :: bssids) (b :: addrs) where
  nodup := by
    refine List.nodup_cons.mpr ⟨fun hbmem => ?_, h.nodup⟩
    rcases h.mem b hbmem with ⟨hin, -⟩ | ⟨hfree, -⟩
    · exact hdistinct b hin rfl
    · exact hfree.2 (List.mem_map_of_mem hmem)
  mem := by
    intro a ha
    rw [List.mem_cons] at ha
    rcases ha with rfl | ha
    · exact Or.inl ⟨List.mem_cons_self, hb⟩
    · exact (h.mem a ha).imp_left fun hin => ⟨List.mem_cons_of_mem _ hin.1, hin.2⟩

/-- An available address is in front of addresses that are configured or above it. -/
lemma Allocated.cons_auto {lo hi : ℕ} {b addr : MacAddr} {bssids addrs : List MacAddr}
    (h : iface.Allocated addr.toNat hi bssids addrs) (hmem : ∀ c ∈ bssids, c ∈ iface.bssid)
    (hfree : iface.Available addr.toNat) (hlo : lo < addr.toNat) (hhi : addr.toNat < hi) :
    iface.Allocated lo hi (b :: bssids) (addr :: addrs) where
  nodup := by
    refine List.nodup_cons.mpr ⟨fun hin => ?_, h.nodup⟩
    rcases h.mem addr hin with ⟨hconf, -⟩ | ⟨-, hlt, -⟩
    · exact hfree.2 (List.mem_map_of_mem (hmem addr hconf))
    · exact lt_irrefl _ hlt
  mem := by
    intro a ha
    rw [List.mem_cons] at ha
    rcases ha with rfl | ha
    · exact Or.inr ⟨hfree, hlo, hhi⟩
    · rcases h.mem a ha with hin | hin
      · exact Or.inl ⟨List.mem_cons_of_mem _ hin.1, hin.2⟩
      · exact Or.inr ⟨hin.1, hlo.trans hin.2.1, hin.2.2⟩

/-- The loop gives configured BSSIDs and available addresses, each of them once. -/
lemma setupLoop_allocated (ifAdd : ℕ → Option MacAddr) {hi : ℕ} (hdriver : iface.useDriverIfaceAddr = false)
    (hhi : hi ≤ 2 ^ 48) (bssids : List MacAddr) (j : ℕ) (prevAddr : MacAddr)
    (hmem : ∀ b ∈ bssids, b ∈ iface.bssid) (hradio : ∀ b ∈ bssids, b ≠ iface.ownAddr) (hdistinct : Distinct bssids)
    (hown : iface.ownAddr.toNat ≤ prevAddr.toNat)
    (hcount : Nat.count iface.Available (prevAddr.toNat + 1) + bssids.countP isZeroEtherAddr ≤
      Nat.count iface.Available hi) :
    iface.Allocated prevAddr.toNat hi bssids (iface.setupLoop ifAdd (j + 1) prevAddr bssids).1 ∧
      ((iface.setupLoop ifAdd (j + 1) prevAddr bssids).2 = some .failedToAdd ∨
        (iface.setupLoop ifAdd (j + 1) prevAddr bssids).2 = none ∧
          (iface.setupLoop ifAdd (j + 1) prevAddr bssids).1.length = bssids.length) := by
  induction bssids generalizing j prevAddr with
  | nil => exact ⟨⟨List.nodup_nil, by simp [setupLoop]⟩, Or.inr ⟨rfl, rfl⟩⟩
  | cons b bssids ih =>
    have hmem' : ∀ c ∈ bssids, c ∈ iface.bssid := fun c hc => hmem c (List.mem_cons_of_mem b hc)
    have hradio' : ∀ c ∈ bssids, c ≠ iface.ownAddr := fun c hc => hradio c (List.mem_cons_of_mem b hc)
    obtain ⟨hne, hdistinct'⟩ := List.pairwise_cons.mp hdistinct
    cases hb : isZeroEtherAddr b with
    | false =>
      rw [List.countP_cons_of_neg (by simp [hb])] at hcount
      have hsetup := hostapdSetupBss_configured prevAddr (ifAdd (j + 1)) hb
        (hradio b List.mem_cons_self)
      obtain ⟨halloc, hend⟩ := ih (j + 1) prevAddr hmem' hradio' hdistinct' hown hcount
      cases hadd : (iface.hostapdIfAdd (ifAdd (j + 1))).isSome with
      | false =>
        rw [hadd] at hsetup
        rw [setupLoop_error hsetup]
        exact ⟨Allocated.nil iface _ _ _, Or.inl rfl⟩
      | true =>
        rw [hadd] at hsetup
        rw [setupLoop_ok hsetup, hb]
        refine ⟨halloc.cons_configured (hmem b List.mem_cons_self) hb fun c hc => hne c hc hb, ?_⟩
        exact hend.imp_right fun h => ⟨h.1, congrArg (· + 1) h.2⟩
    | true =>
      rw [List.countP_cons_of_pos hb] at hcount
      obtain ⟨addr, hnext, hlo, hlt, hfree, hcounted⟩ := nextBssid_available hown hhi (by omega)
      have hsetup := hostapdSetupBss_auto (ifAdd (j + 1)) hb hdriver hnext
      obtain ⟨halloc, hend⟩ := ih (j + 1) addr hmem' hradio' hdistinct' (by omega) (by omega)
      cases hadd : (iface.hostapdIfAdd (ifAdd (j + 1))).isSome with
      | false =>
        rw [hadd] at hsetup
        rw [setupLoop_error hsetup]
        exact ⟨Allocated.nil iface _ _ _, Or.inl rfl⟩
      | true =>
        rw [hadd] at hsetup
        rw [setupLoop_ok hsetup, hb]
        exact ⟨halloc.cons_auto hmem' hfree hlo hlt, hend.imp_right fun h => ⟨h.1, congrArg (· + 1) h.2⟩⟩

/-- With the driver "none" no BSS is added. -/
lemma setupLoop_none (hnone : iface.drvNone = true) (ifAdd : ℕ → Option MacAddr) (j : ℕ) (prevAddr : MacAddr)
    (bssids : List MacAddr) : (iface.setupLoop ifAdd (j + 1) prevAddr bssids).1 = [] := by
  cases bssids with
  | nil => rfl
  | cons b bssids =>
    have hadd : iface.hostapdIfAdd (ifAdd (j + 1)) = none := by simp [hostapdIfAdd, hnone]
    cases hsetup : iface.hostapdSetupBss false prevAddr b (ifAdd (j + 1)) with
    | error e => rw [setupLoop_error hsetup]
    | ok addr =>
      simp only [hostapdSetupBss, hadd] at hsetup
      split_ifs at hsetup <;> grind

/-! ## The block is large enough -/

lemma countP_add_countP_le (a : MacAddr) (bssids : List MacAddr) :
    bssids.countP (fun b => a.toNat < b.toNat) + bssids.countP isZeroEtherAddr ≤ bssids.length := by
  induction bssids with
  | nil => simp
  | cons b bssids ih =>
    rw [List.countP_cons, List.countP_cons, List.length_cons]
    cases hb : isZeroEtherAddr b with
    | false => split <;> simp <;> omega
    | true =>
      have hzero := toNat_of_isZeroEtherAddr hb
      simp [hzero]
      omega

/-- Each BSS takes at most one address of the block, and the first one takes none beside that of the radio if
that is its own. -/
lemma countP_used_le (hfirst : ∀ b ∈ iface.bssid.head?, isZeroEtherAddr b = true ∨ b = iface.ownAddr ∨
      iface.bssid.length < 2 ^ iface.bits) :
    iface.used.countP (iface.ownAddr.toNat < ·) + iface.autoAddr ≤ 2 ^ iface.bits - 1 := by
  have hlen := iface.length_le
  rw [used, List.countP_map, autoAddr]
  cases hbssid : iface.bssid with
  | nil => simp
  | cons b bssids =>
    have hrest := countP_add_countP_le iface.ownAddr bssids
    rw [hbssid, List.length_cons] at hlen
    rw [hbssid] at hfirst
    rw [List.countP_cons, List.tail_cons]
    simp only [Function.comp_def]
    rcases hfirst b rfl with hb | hb | hroom
    · have hzero := toNat_of_isZeroEtherAddr hb
      simp only [hzero, Nat.not_lt_zero, decide_false, Bool.false_eq_true, if_false]
      omega
    · have hself : ¬iface.ownAddr.toNat < b.toNat := by simp [hb]
      simp only [hself, decide_false, Bool.false_eq_true, if_false]
      omega
    · rw [List.length_cons] at hroom
      split <;> omega

/-- The radio's block ends before the addresses do. -/
lemma block_le (hdvd : 2 ^ iface.bits ∣ iface.ownAddr.toNat) (hbits : iface.bits ≤ 40) :
    iface.ownAddr.toNat + 2 ^ iface.bits ≤ 2 ^ 48 := by
  obtain ⟨q, hq⟩ := hdvd
  have hlt := iface.ownAddr.toNat_lt
  have hpow : 2 ^ 48 = 2 ^ iface.bits * 2 ^ (48 - iface.bits) := by
    rw [← pow_add]
    congr 1
    omega
  rw [hq, hpow] at hlt
  rw [hq, hpow, ← Nat.mul_succ]
  exact Nat.mul_le_mul_left _ (Nat.lt_of_mul_lt_mul_left hlt)

/-- A number that is equal to the start of the block above its bits is in the block. -/
lemma mem_block {x : ℕ} (hdvd : 2 ^ iface.bits ∣ iface.ownAddr.toNat)
    (h : x / 2 ^ iface.bits = iface.ownAddr.toNat / 2 ^ iface.bits) :
    iface.ownAddr.toNat ≤ x ∧ x < iface.ownAddr.toNat + 2 ^ iface.bits := by
  have hpos : 0 < 2 ^ iface.bits := by positivity
  have hx := Nat.div_add_mod x (2 ^ iface.bits)
  have hlt := Nat.mod_lt x hpos
  rw [h, Nat.mul_div_cancel' hdvd] at hx
  omega

/-- What a successful validation says if there are addresses to be given. -/
lemma of_validate (hvalid : iface.hostapdValidateBssidConfiguration = .ok ()) (hnone : iface.drvNone = false)
    (hdriver : iface.useDriverIfaceAddr = false) (hauto : iface.autoAddr ≠ 0) :
    iface.bits ≤ 40 ∧ 2 ^ iface.bits ∣ iface.ownAddr.toNat := by
  rw [hostapdValidateBssidConfiguration] at hvalid
  simp only [hnone, hdriver, hauto, if_false, Bool.false_eq_true] at hvalid
  split_ifs at hvalid with hbits hmask
  exact ⟨not_lt.mp hbits, dvd_toNat_of_blockMask (not_lt.mp hbits) hmask⟩

/-- What `hostapd_config_check` accepts has no BSSID twice. -/
lemma distinct_of_check {bssids : List MacAddr} (h : hostapdConfigCheck bssids = true) : Distinct bssids := by
  rw [Distinct, List.pairwise_iff_getElem]
  intro i j hi hj hij hzero heq
  have hcheck := List.all_eq_true.mp h i (List.mem_range.mpr hi)
  rw [hostapdConfigCheckBss, List.getD_eq_getElem _ _ hi, hzero, if_neg (by simp)] at hcheck
  have hother := List.all_eq_true.mp hcheck j (List.mem_range.mpr hj)
  rw [List.getD_eq_getElem _ _ hj, ← heq] at hother
  have hself : hostapdMacComp bssids[i] bssids[i] = 0 := hostapdMacComp_eq_zero_iff.mpr rfl
  have hne : j ≠ i := by omega
  simp [hself, hne] at hother

/-- The first BSS has the address of the radio. -/
lemma setup_eq_cons (ifAdd : ℕ → Option MacAddr) {b : MacAddr} {bssids : List MacAddr} (h : iface.bssid = b :: bssids) :
    iface.hostapdSetupInterfaceCompleteSync ifAdd =
      (iface.ownAddr :: (iface.setupLoop ifAdd 1 iface.ownAddr bssids).1,
        (iface.setupLoop ifAdd 1 iface.ownAddr bssids).2) := by
  rw [hostapdSetupInterfaceCompleteSync, h, setupLoop]
  simp [hostapdSetupBss]

/-- The addresses given to the BSSs are pairwise different and in the block that starts at the address of the
radio, if a BSSID configured for the first BSS is that address or leaves room in the block. -/
theorem setup_bssids (iface : BssidIface) (ifAdd : ℕ → Option MacAddr) (hcheck : hostapdConfigCheck iface.bssid = true)
    (hauto : ∃ b ∈ iface.bssid.tail, isZeroEtherAddr b = true)
    (hvalid : iface.hostapdValidateBssidConfiguration = .ok ()) (hdriver : iface.useDriverIfaceAddr = false)
    (hradio : ∀ b ∈ iface.bssid.tail, b ≠ iface.ownAddr)
    (hfirst : ∀ b ∈ iface.bssid.head?, isZeroEtherAddr b = true ∨ b = iface.ownAddr ∨
      iface.bssid.length < 2 ^ iface.bits) :
    (iface.hostapdSetupInterfaceCompleteSync ifAdd).1.Nodup ∧
      (∀ a ∈ (iface.hostapdSetupInterfaceCompleteSync ifAdd).1,
        iface.ownAddr.toNat ≤ a.toNat ∧ a.toNat < iface.ownAddr.toNat + 2 ^ iface.bits) ∧
      (iface.drvNone = false → (iface.hostapdSetupInterfaceCompleteSync ifAdd).2 ≠ some .failedToAdd →
        (iface.hostapdSetupInterfaceCompleteSync ifAdd).2 = none ∧
          (iface.hostapdSetupInterfaceCompleteSync ifAdd).1.length = iface.bssid.length) := by
  obtain ⟨b, bssids, hbssid⟩ : ∃ b bssids, iface.bssid = b :: bssids := by
    cases h : iface.bssid with
    | nil => simp [h] at hauto
    | cons b bssids => exact ⟨b, bssids, rfl⟩
  have htail : iface.bssid.tail = bssids := by rw [hbssid, List.tail_cons]
  have hpos : 0 < 2 ^ iface.bits := by positivity
  rw [setup_eq_cons ifAdd hbssid]
  cases hnone : iface.drvNone with
  | true =>
    rw [setupLoop_none hnone]
    simp
  | false =>
    have hauto' : iface.autoAddr ≠ 0 := by
      obtain ⟨c, hc, hzero⟩ := hauto
      exact (List.countP_pos_iff.mpr ⟨c, hc, hzero⟩).ne'
    obtain ⟨hbits, hdvd⟩ := of_validate hvalid hnone hdriver hauto'
    have hdistinct := distinct_of_check hcheck
    rw [hbssid] at hdistinct
    have hroom := countP_used_le hfirst
    have hfree : 2 ^ iface.bits - 1 ≤ Nat.count iface.Available (iface.ownAddr.toNat + 1 + (2 ^ iface.bits - 1)) +
        iface.used.countP (iface.ownAddr.toNat < ·) := le_count _
    rw [show iface.ownAddr.toNat + 1 + (2 ^ iface.bits - 1) = iface.ownAddr.toNat + 2 ^ iface.bits by omega] at hfree
    have hstart : Nat.count iface.Available (iface.ownAddr.toNat + 1) = 0 := count_start
    rw [htail] at hradio
    rw [autoAddr, htail] at hroom
    have hmem : ∀ c ∈ bssids, c ∈ iface.bssid := fun c hc => hbssid ▸ List.mem_cons_of_mem b hc
    obtain ⟨halloc, hend⟩ := setupLoop_allocated ifAdd hdriver (block_le hdvd hbits) bssids 0 iface.ownAddr
      hmem hradio (List.pairwise_cons.mp hdistinct).2 le_rfl (by omega)
    refine ⟨List.nodup_cons.mpr ⟨?_, halloc.nodup⟩, ?_, fun _ hadded => ?_⟩
    · intro hown
      rcases halloc.mem _ hown with ⟨hin, -⟩ | ⟨-, hlt, -⟩
      · exact hradio _ hin rfl
      · exact lt_irrefl _ hlt
    · intro a ha
      rw [List.mem_cons] at ha
      rcases ha with rfl | ha
      · omega
      · rcases halloc.mem a ha with ⟨hin, hzero⟩ | ⟨-, hlo, hhi⟩
        · exact mem_block hdvd (toNat_div_of_mem (hmem a hin) hzero)
        · exact ⟨hlo.le, hhi⟩
    · obtain ⟨hfin, hlen⟩ := hend.resolve_left hadded
      rw [hbssid, List.length_cons, List.length_cons, hlen]
      exact ⟨hfin, rfl⟩

lemma ne_of_toNat {a b : MacAddr} (h : a.toNat ≠ b.toNat) : a ≠ b := fun heq => h (heq ▸ rfl)

lemma ok_of_toBool {e : Except BssidError Unit} (h : e.toBool = true) : e = .ok () := by
  cases e with
  | ok u => rfl
  | error e => exact absurd h (by simp [Except.toBool])

/-- Three BSSs, of which the second one has a BSSID of its own. -/
def threeBss : BssidIface where
  drvNone := false
  useDriverIfaceAddr := false
  ownAddr := #v[2, 0, 0, 0, 0, 4]
  bssid := [#v[0, 0, 0, 0, 0, 0], #v[2, 0, 0, 0, 0, 5], #v[0, 0, 0, 0, 0, 0]]

theorem setup_bssids_three :
    (threeBss.hostapdSetupInterfaceCompleteSync fun _ => some threeBss.ownAddr).1.Nodup ∧
      ∀ a ∈ (threeBss.hostapdSetupInterfaceCompleteSync fun _ => some threeBss.ownAddr).1,
        threeBss.ownAddr.toNat ≤ a.toNat ∧ a.toNat < threeBss.ownAddr.toNat + 2 ^ threeBss.bits := by
  have hradio : ∀ b ∈ threeBss.bssid.tail, b ≠ threeBss.ownAddr := by
    intro b hb
    have htail : threeBss.bssid.tail = [#v[2, 0, 0, 0, 0, 5], #v[0, 0, 0, 0, 0, 0]] := rfl
    rw [htail, List.mem_cons, List.mem_singleton] at hb
    rcases hb with rfl | rfl
    · exact ne_of_toNat (by decide)
    · exact ne_of_toNat (by decide)
  have hfirst : ∀ b ∈ threeBss.bssid.head?, isZeroEtherAddr b = true := by
    intro b hb
    obtain rfl : #v[0, 0, 0, 0, 0, 0] = b := Option.some.inj hb
    decide +kernel
  have h := setup_bssids threeBss (fun _ => some threeBss.ownAddr) (by decide +kernel) (by decide +kernel)
    (ok_of_toBool (by decide +kernel)) rfl hradio (fun b hb => Or.inl (hfirst b hb))
  exact ⟨h.1, h.2.1⟩

/-- Two BSSs, of which the first one has a BSSID that is not the address of the radio. -/
def firstConfigured : BssidIface where
  drvNone := false
  useDriverIfaceAddr := false
  ownAddr := #v[2, 0, 0, 0, 0, 4]
  bssid := [#v[2, 0, 0, 0, 0, 5], #v[0, 0, 0, 0, 0, 0]]

/-- The second BSS passes over the BSSID of the first one and gets the first address after the block. -/
theorem setup_bssids_outside :
    ¬∀ (iface : BssidIface) (ifAdd : ℕ → Option MacAddr), hostapdConfigCheck iface.bssid = true →
      (∃ b ∈ iface.bssid.tail, isZeroEtherAddr b = true) → iface.hostapdValidateBssidConfiguration = .ok () →
      iface.useDriverIfaceAddr = false → (∀ b ∈ iface.bssid, b ≠ iface.ownAddr) →
      (iface.hostapdSetupInterfaceCompleteSync ifAdd).1.Nodup ∧
        ∀ a ∈ (iface.hostapdSetupInterfaceCompleteSync ifAdd).1,
          iface.ownAddr.toNat ≤ a.toNat ∧ a.toNat < iface.ownAddr.toNat + 2 ^ iface.bits := by
  intro h
  have hradio : ∀ b ∈ firstConfigured.bssid, b ≠ firstConfigured.ownAddr := by
    intro b hb
    have hbssid : firstConfigured.bssid = [#v[2, 0, 0, 0, 0, 5], #v[0, 0, 0, 0, 0, 0]] := rfl
    rw [hbssid, List.mem_cons, List.mem_singleton] at hb
    rcases hb with rfl | rfl
    · exact ne_of_toNat (by decide)
    · exact ne_of_toNat (by decide)
  obtain ⟨-, hblock⟩ := h firstConfigured (fun _ => some firstConfigured.ownAddr) (by decide +kernel)
    (by decide +kernel) (ok_of_toBool (by decide +kernel)) rfl hradio
  have hout : (firstConfigured.hostapdSetupInterfaceCompleteSync fun _ => some firstConfigured.ownAddr).1.all
      (fun a => decide (a.toNat < firstConfigured.ownAddr.toNat + 2 ^ firstConfigured.bits)) = false := by
    decide +kernel
  refine absurd (List.all_eq_true.mpr fun a ha => ?_) (Bool.eq_false_iff.mp hout)
  exact decide_eq_true (hblock a ha).2

end BssidIface

end Ethanol
