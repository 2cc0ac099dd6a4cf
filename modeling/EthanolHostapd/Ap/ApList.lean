import EthanolHostapd.Ap.StaInfo
import EthanolHostapd.Containers.RingList
import EthanolHostapd.Utils.Os

/-!
# The table of neighbour access points

`ap/ap_list.c`.  A beacon moves the access point it comes from to the head of a linked list, so the end of
the list is the one that has not been heard for the longest time; it is the first to go, when the table
is full and when entries expire.  The same access points are in the chains of a hash table.

An entry is a pointer.  The list pointers of all entries are a `RingList`, the other fields of an entry
are the memory behind its pointer.  What the table is used for, the detection of overlapping legacy BSSs,
is modelled with it; the message that forwards a beacon to the controller is not.
-/

namespace Ethanol

/-- `struct ap_info *`. -/
abbrev ApPtr : Type := ℕ

/-- `WLAN_SUPP_RATES_MAX`. -/
def wlanSuppRatesMax : ℕ := 32

/-- `struct ap_info`, without its list pointers. -/
structure ApInfo where
  addr : MacAddr
  supportedRates : List UInt8
  erp : ℤ
  channel : ℤ
  htSupport : Bool
  lastBeacon : OsReltime

/-- What is read of `struct ieee802_11_elems`: rates as they are, the first byte of the other
elements, and whether there are HT capabilities. -/
structure BeaconElems where
  suppRates : Option (List UInt8)
  extSuppRates : Option (List UInt8)
  erpInfo : Option UInt8
  dsParams : Option UInt8
  htOperation : Option UInt8
  htCapabilities : Bool

/-- What is read of `struct hostapd_config`, of the current mode and of the build options. -/
structure ApListConfig where
  apTableMaxSize : ℤ
  apTableExpirationTime : ℤ
  channel : ℤ
  secondaryChannel : ℤ
  /-- The mode is set and is `HOSTAPD_MODE_IEEE80211G`. -/
  modeG : Bool
  /-- `CONFIG_IEEE80211N`. -/
  ieee80211n : Bool

/-- The table in `struct hostapd_iface`. -/
structure HostapdIface where
  conf : ApListConfig
  /-- The latest reading of the clock. -/
  clock : OsReltime
  /-- The memory of the entries. -/
  ap : ApPtr → ApInfo
  allocated : ApPtr → Bool
  apList : RingList ApPtr
  apHash : UInt8 → List ApPtr
  numAp : ℤ
  olbc : Bool
  olbcHt : Bool

/-- `merge_byte_arrays`. -/
def mergeByteArrays (resLen : ℕ) (src1 src2 : Option (List UInt8)) : List UInt8 :=
  let bytes := (src1.getD [] ++ src2.getD []).take resLen
  bytes ++ List.replicate (resLen - bytes.length) 0

namespace HostapdIface

/-- `ap->addr`. -/
def addr (iface : HostapdIface) (ap : ApPtr) : MacAddr := (iface.ap ap).addr

/-- `ap->last_beacon`, in microseconds. -/
def lastBeacon (iface : HostapdIface) (ap : ApPtr) : ℤ := (iface.ap ap).lastBeacon.toUsec

/-- What `os_zalloc` returns, with the address. -/
def zeroAp (addr : MacAddr) : ApInfo := ⟨addr, List.replicate wlanSuppRatesMax 0, 0, 0, false, ⟨0, 0⟩⟩

/-- The table at the start. -/
def init (conf : ApListConfig) (start : ClockTime) : HostapdIface where
  conf := conf
  clock := start.toOsReltime
  ap := fun _ => zeroAp (Vector.replicate 6 0)
  allocated := fun _ => false
  apList := ⟨none, fun _ => none, fun ap => ap⟩
  apHash := fun _ => []
  numAp := 0
  olbc := false
  olbcHt := false

/-- `ap_list_beacon_olbc`. -/
def apListBeaconOlbc (iface : HostapdIface) (ap : ApPtr) : Bool :=
  let info := iface.ap ap
  if iface.conf.modeG = false || iface.conf.channel ≠ info.channel then false
  else if info.erp ≠ -1 && info.erp % 2 ≠ 0 then true
  else info.supportedRates.all fun byte =>
    let rate := (byte &&& 0x7f).toNat * 5
    !(rate = 60 || rate = 90 || 110 < rate)

/-- `ap_get_ap`. -/
def apGetAp (iface : HostapdIface) (ap : MacAddr) : Option ApPtr :=
  ChainedHash.find iface.addr staHashIndex ap iface.apHash

/-- `ap_ap_list_add`. -/
def apApListAdd (iface : HostapdIface) (ap : ApPtr) : HostapdIface :=
  { iface with apList := iface.apList.addFront ap }

/-- `ap_ap_list_del`. -/
def apApListDel (iface : HostapdIface) (ap : ApPtr) : HostapdIface :=
  { iface with apList := iface.apList.del ap }

/-- `ap_ap_hash_add`. -/
def apApHashAdd (iface : HostapdIface) (ap : ApPtr) : HostapdIface :=
  { iface with apHash := ChainedHash.add iface.addr staHashIndex ap iface.apHash }

/-- `ap_ap_hash_del`. -/
def apApHashDel (iface : HostapdIface) (ap : ApPtr) : HostapdIface :=
  { iface with apHash := ChainedHash.del iface.addr staHashIndex (iface.addr ap) iface.apHash }

/-- `ap_free_ap`. -/
def apFreeAp (iface : HostapdIface) (ap : ApPtr) : HostapdIface :=
  let iface := (iface.apApHashDel ap).apApListDel ap
  { iface with
    numAp := iface.numAp - 1
    allocated := Function.update iface.allocated ap false }

/-- The new entry in `ap_ap_add` is initialized and linked. -/
def linkAp (iface : HostapdIface) (ap : ApPtr) (addr : MacAddr) : HostapdIface :=
  let iface := { iface with
    ap := Function.update iface.ap ap (zeroAp addr)
    allocated := Function.update iface.allocated ap true }
  let iface := iface.apApListAdd ap
  { iface with numAp := iface.numAp + 1 }.apApHashAdd ap

/-- `ap_ap_add`, with the result of `os_zalloc`.  Memory that is in use is not handed out again. -/
def apApAdd (iface : HostapdIface) (addr : MacAddr) (zalloc : Option ApPtr) :
    Option (HostapdIface × Option ApPtr) :=
  match zalloc with
  | none => some (iface, none)
  | some ap =>
    if iface.allocated ap then none
    else
      let iface := iface.linkAp ap addr
      if iface.conf.apTableMaxSize < iface.numAp ∧ ap ≠ iface.apList.prev ap then
        some (iface.apFreeAp (iface.apList.prev ap), some ap)
      else some (iface, some ap)

/-- The fields that a beacon sets. -/
def beaconInfo (info : ApInfo) (elems : BeaconElems) (fi : Option ℤ) (now : OsReltime) : ApInfo where
  addr := info.addr
  supportedRates := mergeByteArrays wlanSuppRatesMax elems.suppRates elems.extSuppRates
  erp := elems.erpInfo.elim (-1) fun byte => byte.toNat
  channel :=
    match elems.dsParams, elems.htOperation, fi with
    | some byte, _, _ => byte.toNat
    | none, some byte, _ => byte.toNat
    | none, none, some channel => channel
    | none, none, none => info.channel
  htSupport := elems.htCapabilities
  lastBeacon := now

/-- An entry is written. -/
def setAp (iface : HostapdIface) (ap : ApPtr) (info : ApInfo) : HostapdIface :=
  { iface with ap := Function.update iface.ap ap info }

/-- The flags for overlapping legacy BSSs after a beacon. -/
def detectOlbc (iface : HostapdIface) (ap : ApPtr) : HostapdIface :=
  let channel := (iface.ap ap).channel
  let olbc := iface.olbc || iface.apListBeaconOlbc ap
  let olbcHt := iface.olbcHt || (iface.conf.ieee80211n && !(iface.ap ap).htSupport &&
    (channel = 0 || channel = iface.conf.channel ||
      channel = iface.conf.channel + iface.conf.secondaryChannel * 4))
  { iface with olbc, olbcHt }

/-- The end of `ap_list_process_beacon`, from the point on where the entry is known. -/
def heard (iface : HostapdIface) (ap : ApPtr) (newAp : Bool) (elems : BeaconElems) (fi : Option ℤ)
    (now : OsReltime) : HostapdIface :=
  let iface := iface.setAp ap (beaconInfo (iface.ap ap) elems fi now)
  let iface :=
    if newAp = false ∧ iface.apList.head ≠ some ap then (iface.apApListDel ap).apApListAdd ap else iface
  iface.detectOlbc ap

/-- `ap_list_process_beacon`. -/
def apListProcessBeacon (iface : HostapdIface) (bssid : MacAddr) (elems : BeaconElems)
    (fi : Option ℤ) (now : OsReltime) (zalloc : Option ApPtr) : Option HostapdIface :=
  if iface.conf.apTableMaxSize < 1 then some iface
  else
    match iface.apGetAp bssid with
    | some ap => some (iface.heard ap false elems fi now)
    | none =>
      match iface.apApAdd bssid zalloc with
      | none => none
      | some (iface, none) => some iface
      | some (iface, some ap) => some (iface.heard ap true elems fi now)

/-- The loop of `ap_list_timer` that frees the entries that have expired. -/
def expireAps (now : OsReltime) : ℕ → HostapdIface → Option HostapdIface
  | 0, _ => none
  | fuel + 1, iface =>
    match iface.apList.head with
    | none => some iface
    | some head =>
      let ap := iface.apList.prev head
      if now.expired (iface.ap ap).lastBeacon iface.conf.apTableExpirationTime then
        expireAps now fuel (iface.apFreeAp ap)
      else some iface

/-- The loop of `ap_list_timer` that looks for the reasons of the flags. -/
def scanOlbc (iface : HostapdIface) : ℕ → Option ApPtr → Bool → Bool → Option (Bool × Bool)
  | _, none, olbc, olbcHt => some (olbc, olbcHt)
  | 0, some _, _, _ => none
  | fuel + 1, some ap, olbc, olbcHt =>
    if olbc && olbcHt then some (olbc, olbcHt)
    else iface.scanOlbc fuel (iface.apList.next ap) (olbc || iface.apListBeaconOlbc ap)
      (olbcHt || !(iface.ap ap).htSupport)

/-- The end of `ap_list_timer`: a flag is cleared when there is no reason for it any more. -/
def clearOlbc (iface : HostapdIface) : Option HostapdIface :=
  if iface.olbc || iface.olbcHt then
    (iface.scanOlbc iface.numAp.toNat iface.apList.head false false).map fun (olbc, olbcHt) =>
      { iface with
        olbc := iface.olbc && olbc
        olbcHt := if iface.conf.ieee80211n then iface.olbcHt && olbcHt else iface.olbcHt }
  else some iface

/-- `ap_list_timer`.  A round of the first loop frees an entry, so there is one more round than there
are entries at most. -/
def apListTimer (iface : HostapdIface) (now : OsReltime) : Option HostapdIface :=
  if iface.apList.head = none then some iface
  else (expireAps now (iface.numAp.toNat + 1) iface).bind clearOlbc

end HostapdIface

/-- What happens to the table. -/
inductive ApListEvent
  | beacon (bssid : MacAddr) (elems : BeaconElems) (fi : Option ℤ) (now : ClockTime)
      (zalloc : Option ApPtr)
  | timer (now : ClockTime)

namespace ApListEvent

/-- The reading of the clock. -/
def now : ApListEvent → ClockTime
  | beacon _ _ _ now _ => now
  | timer now => now

end ApListEvent

namespace HostapdIface

/-- The table after an event.  The clock does not go back. -/
def next (iface : HostapdIface) (e : ApListEvent) : Option HostapdIface :=
  if e.now.before iface.clock then none
  else
    let iface := { iface with clock := e.now.toOsReltime }
    match e with
    | .beacon bssid elems fi now zalloc =>
      iface.apListProcessBeacon bssid elems fi now.toOsReltime zalloc
    | .timer now => iface.apListTimer now.toOsReltime

/-! ## What the table should be -/

/-- The list is `l`, the hash table holds the same entries, and the addresses are distinct. -/
structure Agrees (iface : HostapdIface) (l : List ApPtr) : Prop where
  list : iface.apList.Represents l
  distinct : KeyedList.Distinct iface.addr l
  hash : ChainedHash.Holds iface.addr staHashIndex iface.apHash l
  /-- These are the entries that are allocated. -/
  allocated : ∀ ap, iface.allocated ap = true ↔ ap ∈ l
  num : iface.numAp = l.length

/-- The table keeps the access points heard last, from newest to oldest. -/
structure Lru (iface : HostapdIface) (l : List ApPtr) : Prop extends iface.Agrees l where
  room : iface.numAp ≤ iface.conf.apTableMaxSize
  ordered : l.Pairwise fun ap ap' => iface.lastBeacon ap' ≤ iface.lastBeacon ap

/-- No beacon is from the future. -/
structure Timely (iface : HostapdIface) (l : List ApPtr) : Prop where
  clock : iface.clock.Normalized
  normalized : ∀ ap ∈ l, (iface.ap ap).lastBeacon.Normalized
  le_clock : ∀ ap ∈ l, iface.lastBeacon ap ≤ iface.clock.toUsec

/-! ## Linking and freeing entries -/

section Agrees

variable {iface : HostapdIface} {l : List ApPtr} {ap : ApPtr}

lemma Agrees.apFreeAp (h : iface.Agrees l) (hap : ap ∈ l) : (iface.apFreeAp ap).Agrees (l.erase ap) where
  list := h.list.del hap
  distinct := List.Nodup.sublist (List.erase_sublist.map _) h.distinct
  hash := by
    rw [KeyedList.erase_eq_remove h.distinct hap]
    exact h.hash.del h.distinct _
  allocated := by
    intro ap'
    change Function.update iface.allocated ap false ap' = true ↔ _
    rw [h.list.nodup.mem_erase_iff]
    by_cases heq : ap' = ap
    · simp [heq]
    · simp [heq, h.allocated]
  num := by
    change iface.numAp - 1 = _
    have hpos : 0 < l.length := List.length_pos_of_mem hap
    rw [h.num, List.length_erase_of_mem hap]
    omega

@[simp] lemma linkAp_ap (iface : HostapdIface) (ap : ApPtr) (addr : MacAddr) :
    (iface.linkAp ap addr).ap = Function.update iface.ap ap (zeroAp addr) := rfl

@[simp] lemma apFreeAp_ap (iface : HostapdIface) (ap : ApPtr) : (iface.apFreeAp ap).ap = iface.ap := rfl

/-- A new entry has another pointer than the ones of the table. -/
lemma Agrees.not_mem (h : iface.Agrees l) (hfree : iface.allocated ap = false) : ap ∉ l := by
  rw [← h.allocated, hfree]
  simp

lemma Agrees.linkAp (h : iface.Agrees l) {addr : MacAddr} (hfree : iface.allocated ap = false)
    (hget : iface.apGetAp addr = none) : (iface.linkAp ap addr).Agrees (ap :: l) := by
  have hnew := h.not_mem hfree
  have haddr : ∀ ap' ∈ l, (iface.linkAp ap addr).addr ap' = iface.addr ap' := by
    intro ap' hap'
    have hne : ap' ≠ ap := fun heq => hnew (heq ▸ hap')
    simp [HostapdIface.addr, hne]
  have hself : (iface.linkAp ap addr).addr ap = addr := by
    simp [HostapdIface.addr, zeroAp]
  have hfresh : addr ∉ l.map (iface.linkAp ap addr).addr := by
    rw [apGetAp, h.hash.find, KeyedList.find_eq_none_iff] at hget
    rwa [List.map_congr_left haddr]
  constructor
  case list => exact h.list.addFront hnew
  case distinct =>
    rw [KeyedList.Distinct, List.map_cons, List.nodup_cons, hself]
    refine ⟨hfresh, ?_⟩
    rw [List.map_congr_left haddr]
    exact h.distinct
  case hash =>
    refine (h.hash.congr haddr).add ?_
    rwa [hself]
  case allocated =>
    intro ap'
    change Function.update iface.allocated ap true ap' = true ↔ _
    by_cases heq : ap' = ap
    · simp [heq]
    · simp [heq, h.allocated]
  case num =>
    change iface.numAp + 1 = _
    rw [h.num]
    simp

/-- Writing the other fields of an entry. -/
lemma Agrees.setAp (h : iface.Agrees l) {info : ApInfo} (haddr : info.addr = iface.addr ap) :
    (iface.setAp ap info).Agrees l := by
  have hsame : (iface.setAp ap info).addr = iface.addr := by
    funext ap'
    by_cases heq : ap' = ap
    · subst heq
      simpa [HostapdIface.setAp, HostapdIface.addr] using haddr
    · simp [HostapdIface.setAp, HostapdIface.addr, heq]
  constructor
  case list => exact h.list
  case distinct => rw [hsame]; exact h.distinct
  case hash => rw [hsame]; exact h.hash
  case allocated => exact h.allocated
  case num => exact h.num

lemma Agrees.moveToFront (h : iface.Agrees l) (hap : ap ∈ l) :
    ((iface.apApListDel ap).apApListAdd ap).Agrees (ap :: l.erase ap) := by
  have hperm : l.Perm (ap :: l.erase ap) := List.perm_cons_erase hap
  constructor
  case list => exact (h.list.del hap).addFront (h.list.nodup.not_mem_erase)
  case distinct => exact (hperm.map _).nodup_iff.mp h.distinct
  case hash => exact ⟨fun b a => by rw [← hperm.mem_iff]; exact h.hash.mem_iff b a, h.hash.distinct⟩
  case allocated =>
    intro ap'
    rw [← hperm.mem_iff]
    exact h.allocated ap'
  case num => rw [← hperm.length_eq]; exact h.num

end Agrees

/-! ## A beacon -/

/-- What a beacon does to the list: nothing, or the access point comes first and those after it are the
others that were in the list, without the last one if there was no room. -/
inductive Heard (iface iface' : HostapdIface) (l : List ApPtr) (now : OsReltime) : List ApPtr → Prop
  | ignored : iface'.ap = iface.ap → Heard iface iface' l now l
  | moved {ap : ApPtr} : ap ∈ l → (iface'.ap ap).lastBeacon = now →
      (∀ ap' ∈ l, ap' ≠ ap → iface'.ap ap' = iface.ap ap') → Heard iface iface' l now (ap :: l.erase ap)
  | added {ap : ApPtr} : ap ∉ l → (iface'.ap ap).lastBeacon = now →
      (∀ ap' ∈ l, iface'.ap ap' = iface.ap ap') → (l.length + 1 : ℕ) ≤ iface.conf.apTableMaxSize →
      Heard iface iface' l now (ap :: l)
  | evicted {ap : ApPtr} : ap ∉ l → (iface'.ap ap).lastBeacon = now →
      (∀ ap' ∈ l, iface'.ap ap' = iface.ap ap') → iface.conf.apTableMaxSize ≤ l.length →
      Heard iface iface' l now (ap :: l.dropLast)

section Beacon

variable {iface iface' : HostapdIface} {l : List ApPtr} {ap : ApPtr} {elems : BeaconElems} {fi : Option ℤ}
  {now : OsReltime}

@[simp] lemma heard_ap (newAp : Bool) : (iface.heard ap newAp elems fi now).ap =
    Function.update iface.ap ap (beaconInfo (iface.ap ap) elems fi now) := by
  unfold heard
  dsimp only
  split_ifs <;> rfl

@[simp] lemma heard_conf (newAp : Bool) : (iface.heard ap newAp elems fi now).conf = iface.conf := by
  unfold heard
  dsimp only
  split_ifs <;> rfl

@[simp] lemma heard_clock (newAp : Bool) : (iface.heard ap newAp elems fi now).clock = iface.clock := by
  unfold heard
  dsimp only
  split_ifs <;> rfl

/-- The flags are not part of the table. -/
lemma Agrees.detectOlbc (h : iface.Agrees l) (ap : ApPtr) : (iface.detectOlbc ap).Agrees l :=
  ⟨h.list, h.distinct, h.hash, h.allocated, h.num⟩

/-- A new entry is in front already. -/
lemma Agrees.heard_new (h : iface.Agrees l) : (iface.heard ap true elems fi now).Agrees l := by
  have hset : (iface.setAp ap (beaconInfo (iface.ap ap) elems fi now)).Agrees l := h.setAp rfl
  exact hset.detectOlbc ap

lemma Agrees.heard_old (h : iface.Agrees l) (hap : ap ∈ l) :
    (iface.heard ap false elems fi now).Agrees (ap :: l.erase ap) := by
  have hset : (iface.setAp ap (beaconInfo (iface.ap ap) elems fi now)).Agrees l := h.setAp rfl
  unfold heard
  dsimp only
  split_ifs with hhead
  · exact (hset.moveToFront hap).detectOlbc ap
  · have hfirst : iface.apList.head = some ap := by
      rw [not_and, not_not] at hhead
      exact hhead rfl
    obtain ⟨rest, rfl⟩ : ∃ rest, l = ap :: rest := by
      rw [h.list.head_eq, List.head?_eq_some_iff] at hfirst
      exact hfirst
    rw [List.erase_cons_head]
    exact hset.detectOlbc ap

/-- The entry before a new one is the end of the list. -/
lemma Agrees.prev_linkAp (h : iface.Agrees l) {addr : MacAddr} (hfree : iface.allocated ap = false)
    (hget : iface.apGetAp addr = none) :
    (ap :: l).getLast? = some ((iface.linkAp ap addr).apList.prev ap) :=
  (h.linkAp hfree hget).list.prev_head rfl

/-- `ap_ap_add`, when there is memory. -/
lemma apApAdd_cases (h : iface.Agrees l) {addr : MacAddr} {zalloc : Option ApPtr} {r : Option ApPtr}
    (hmax : 1 ≤ iface.conf.apTableMaxSize) (hget : iface.apGetAp addr = none)
    (hadd : iface.apApAdd addr zalloc = some (iface', r)) :
    (iface' = iface ∧ r = none) ∨ ∃ ap, r = some ap ∧ ap ∉ l ∧
      iface'.ap = Function.update iface.ap ap (zeroAp addr) ∧ iface'.conf = iface.conf ∧
      iface'.clock = iface.clock ∧
      ((iface'.Agrees (ap :: l) ∧ (l.length + 1 : ℕ) ≤ iface.conf.apTableMaxSize) ∨
        (iface'.Agrees (ap :: l.dropLast) ∧ iface.conf.apTableMaxSize ≤ l.length)) := by
  unfold apApAdd at hadd
  split at hadd
  · left
    obtain ⟨rfl, rfl⟩ := Prod.mk.inj (Option.some.inj hadd)
    exact ⟨rfl, rfl⟩
  · rename_i ap
    right
    split at hadd
    · exact absurd hadd (by simp)
    · rename_i hfree
      rw [Bool.not_eq_true] at hfree
      have hlink := h.linkAp hfree hget
      have hlast := h.prev_linkAp hfree hget
      have hnum : (iface.linkAp ap addr).numAp = l.length + 1 := by
        rw [hlink.num]
        simp
      have hconf : (iface.linkAp ap addr).conf = iface.conf := rfl
      have hnew := h.not_mem hfree
      dsimp only at hadd
      split at hadd
      · rename_i hfull
        obtain ⟨rfl, rfl⟩ := Prod.mk.inj (Option.some.inj hadd)
        refine ⟨ap, rfl, hnew, rfl, rfl, rfl, Or.inr ⟨?_, ?_⟩⟩
        · have hne : l ≠ [] := by
            rintro rfl
            exact hfull.2 (by simpa using hlast)
          have hdrop : ap :: l.dropLast = (ap :: l).dropLast := by
            rw [List.dropLast_cons_of_ne_nil hne]
          rw [hdrop, ← hlink.list.erase_prev_head rfl]
          exact hlink.apFreeAp (List.mem_of_getLast? hlast)
        · have hlt := hfull.1
          rw [hnum, hconf] at hlt
          omega
      · rename_i hroom
        obtain ⟨rfl, rfl⟩ := Prod.mk.inj (Option.some.inj hadd)
        refine ⟨ap, rfl, hnew, rfl, rfl, rfl, Or.inl ⟨hlink, ?_⟩⟩
        rw [hnum, hconf, not_and_or, not_lt, not_not] at hroom
        rcases hroom with hle | hself
        · push_cast
          omega
        · -- the new entry is alone
          rw [← hself] at hlast
          have hnil : l = [] := by
            by_contra hne
            rw [List.getLast?_cons_of_ne_nil hne] at hlast
            exact hnew (List.mem_of_getLast? hlast)
          simpa [hnil] using hmax

/-- What `ap_list_process_beacon` does. -/
lemma apListProcessBeacon_heard (h : iface.Agrees l) (hmax : 1 ≤ iface.conf.apTableMaxSize)
    {bssid : MacAddr} {zalloc : Option ApPtr}
    (hnext : iface.apListProcessBeacon bssid elems fi now zalloc = some iface') :
    ∃ l', Heard iface iface' l now l' ∧ iface'.Agrees l' ∧ iface'.conf = iface.conf ∧
      iface'.clock = iface.clock := by
  unfold apListProcessBeacon at hnext
  rw [if_neg (by omega)] at hnext
  split at hnext
  · rename_i ap hget
    have hap : ap ∈ l := by
      rw [apGetAp, h.hash.find] at hget
      exact KeyedList.mem_of_find hget
    obtain rfl := Option.some.inj hnext
    refine ⟨_, Heard.moved hap ?_ ?_, h.heard_old hap, heard_conf false, heard_clock false⟩
    · simp [beaconInfo]
    · intro ap' _ hne
      simp [hne]
  · rename_i hget
    split at hnext
    · exact absurd hnext (by simp)
    · rename_i iface₁ hadd
      obtain rfl := Option.some.inj hnext
      rcases apApAdd_cases h hmax hget hadd with ⟨rfl, -⟩ | ⟨ap, hr, -⟩
      · exact ⟨l, Heard.ignored rfl, h, rfl, rfl⟩
      · exact absurd hr (by simp)
    · rename_i iface₁ ap hadd
      obtain rfl := Option.some.inj hnext
      rcases apApAdd_cases h hmax hget hadd with ⟨-, hr⟩ | ⟨ap', hr, hnew, hmem, hconf, hclock, hcases⟩
      · exact absurd hr (by simp)
      · obtain rfl := Option.some.inj hr
        have hlast : ((iface₁.heard ap true elems fi now).ap ap).lastBeacon = now := by simp [beaconInfo]
        have hother : ∀ ap' ∈ l, (iface₁.heard ap true elems fi now).ap ap' = iface.ap ap' := by
          intro ap' hap'
          have hne : ap' ≠ ap := fun heq => hnew (heq ▸ hap')
          simp [hne, hmem]
        have hconf' : (iface₁.heard ap true elems fi now).conf = iface.conf :=
          (heard_conf true).trans hconf
        have hclock' : (iface₁.heard ap true elems fi now).clock = iface.clock :=
          (heard_clock true).trans hclock
        rcases hcases with ⟨hagrees, hroom⟩ | ⟨hagrees, hfull⟩
        · exact ⟨_, Heard.added hnew hlast hother hroom, hagrees.heard_new, hconf', hclock'⟩
        · exact ⟨_, Heard.evicted hnew hlast hother hfull, hagrees.heard_new, hconf', hclock'⟩

end Beacon

/-! ## Order and age -/

section Order

variable {iface iface' : HostapdIface} {l l' : List ApPtr} {now : OsReltime}

/-- The first entry was heard now, and the others are older entries of the table. -/
lemma Lru.cons_of_sublist {ap : ApPtr} (h : iface.Lru l) (ht : iface.Timely l)
    (hnow : now.Normalized) (hle : iface.clock.toUsec ≤ now.toUsec) (hsub : l'.Sublist l)
    (hap : (iface'.ap ap).lastBeacon = now) (hother : ∀ ap' ∈ l', iface'.ap ap' = iface.ap ap')
    (hagrees : iface'.Agrees (ap :: l')) (hroom : iface'.numAp ≤ iface'.conf.apTableMaxSize)
    (hclock : iface'.clock = now) : iface'.Lru (ap :: l') ∧ iface'.Timely (ap :: l') := by
  have hself : iface'.lastBeacon ap = now.toUsec := by rw [lastBeacon, hap]
  have hsame : ∀ ap' ∈ l', iface'.lastBeacon ap' = iface.lastBeacon ap' := by
    intro ap' hap'
    rw [lastBeacon, hother ap' hap', lastBeacon]
  have hpast : ∀ ap' ∈ l', iface'.lastBeacon ap' ≤ now.toUsec := by
    intro ap' hap'
    rw [hsame ap' hap']
    exact (ht.le_clock ap' (hsub.subset hap')).trans hle
  refine ⟨⟨hagrees, hroom, List.pairwise_cons.mpr ⟨?_, ?_⟩⟩, ?_, ?_, ?_⟩
  · intro ap' hap'
    rw [hself]
    exact hpast ap' hap'
  · refine (h.ordered.sublist hsub).imp_of_mem ?_
    intro a b ha hb hab
    rwa [hsame a ha, hsame b hb]
  · rwa [hclock]
  · intro ap' hap'
    rcases List.mem_cons.mp hap' with rfl | hap'
    · rwa [hap]
    · rw [hother ap' hap']
      exact ht.normalized ap' (hsub.subset hap')
  · intro ap' hap'
    rw [hclock]
    rcases List.mem_cons.mp hap' with rfl | hap'
    · exact hself.le
    · exact hpast ap' hap'

lemma Heard.lru (hheard : Heard iface iface' l now l') (hmax : 1 ≤ iface.conf.apTableMaxSize)
    (h : iface.Lru l) (ht : iface.Timely l) (hnow : now.Normalized) (hclock : iface.clock = now) (hagrees : iface'.Agrees l')
    (hconf : iface'.conf = iface.conf) (hclock' : iface'.clock = iface.clock) :
    iface'.Lru l' ∧ iface'.Timely l' := by
  have hle : iface.clock.toUsec ≤ now.toUsec := hclock ▸ le_rfl
  have hnum := hagrees.num
  have hroom := h.room
  rw [h.num] at hroom
  cases hheard with
  | ignored hap =>
    have hsame : iface'.lastBeacon = iface.lastBeacon := by
      funext ap
      rw [lastBeacon, hap, lastBeacon]
    refine ⟨⟨hagrees, by rw [hnum, hconf]; exact hroom, ?_⟩, ?_, ?_, ?_⟩
    · rw [hsame]
      exact h.ordered
    · rw [hclock']
      exact ht.clock
    · rw [hap]
      exact ht.normalized
    · rw [hsame, hclock']
      exact ht.le_clock
  | moved hmem hlast hother =>
    refine h.cons_of_sublist ht hnow hle List.erase_sublist hlast ?_ hagrees ?_ (hclock'.trans hclock)
    · intro ap' hap'
      rw [h.list.nodup.mem_erase_iff] at hap'
      exact hother ap' hap'.2 hap'.1
    · rw [hnum, hconf, List.length_cons, List.length_erase_add_one hmem]
      exact hroom
  | added hnew hlast hother hlt =>
    refine h.cons_of_sublist ht hnow hle (List.Sublist.refl l) hlast hother hagrees ?_
      (hclock'.trans hclock)
    rw [hnum, hconf, List.length_cons]
    exact hlt
  | evicted hnew hlast hother hfull =>
    refine h.cons_of_sublist ht hnow hle (List.dropLast_sublist l) hlast ?_ hagrees ?_
      (hclock'.trans hclock)
    · intro ap' hap'
      exact hother ap' (List.dropLast_subset l hap')
    · rw [hnum, hconf, List.length_cons, List.length_dropLast]
      omega

/-- The end of the list was heard before all others. -/
lemma Lru.getLast_le (h : iface.Lru l) {ap : ApPtr} (hlast : l.getLast? = some ap) :
    ∀ ap' ∈ l, iface.lastBeacon ap ≤ iface.lastBeacon ap' := by
  obtain ⟨l₀, rfl⟩ := List.getLast?_eq_some_iff.mp hlast
  intro ap' hap'
  rcases List.mem_append.mp hap' with hap' | hap'
  · exact (List.pairwise_append.mp h.ordered).2.2 ap' hap' ap (List.mem_singleton_self ap)
  · rw [List.mem_singleton.mp hap']

/-- What a beacon takes out of the table is the access point that was heard least recently. -/
lemma Heard.evicts (hheard : Heard iface iface' l now l') (h : iface.Lru l) :
    ∀ ap ∈ l, ap ∉ l' → iface.conf.apTableMaxSize ≤ l.length ∧ l = l.dropLast ++ [ap] ∧
      ∀ ap' ∈ l, iface.lastBeacon ap ≤ iface.lastBeacon ap' := by
  intro ap hap hgone
  cases hheard with
  | ignored => exact absurd hap hgone
  | @moved ap' hmem =>
    rw [← (List.perm_cons_erase hmem).mem_iff] at hgone
    exact absurd hap hgone
  | added => exact absurd (List.mem_cons_of_mem _ hap) hgone
  | evicted hnew hlast hother hfull =>
    have hsplit := List.dropLast_append_getLast (List.ne_nil_of_mem hap)
    have hap' : ap = l.getLast (List.ne_nil_of_mem hap) := by
      rw [← hsplit, List.mem_append, List.mem_singleton] at hap
      exact hap.resolve_left fun hmem => hgone (List.mem_cons_of_mem _ hmem)
    have hgetLast : l.getLast? = some ap := by
      rw [hap', List.getLast?_eq_some_getLast]
    refine ⟨hfull, ?_, h.getLast_le hgetLast⟩
    rw [hap', hsplit]

end Order

/-! ## The timer -/

section Timer

variable {iface iface' : HostapdIface} {l : List ApPtr} {now : OsReltime}

/-- What the loop that frees the expired entries leaves of a table: the newer part of the list, whose end has not
expired, and the flags. -/
structure Expired (iface iface' : HostapdIface) (l : List ApPtr) (now : OsReltime) (l' : List ApPtr) : Prop
    extends iface'.Agrees l' where
  isPrefix : l' <+: l
  ap : iface'.ap = iface.ap
  conf : iface'.conf = iface.conf
  clock : iface'.clock = iface.clock
  olbc : iface'.olbc = iface.olbc
  olbcHt : iface'.olbcHt = iface.olbcHt
  kept : ∀ ap, l'.getLast? = some ap → now.expired (iface.ap ap).lastBeacon iface.conf.apTableExpirationTime = false
  gone : ∀ ap ∈ l, ap ∉ l' → now.expired (iface.ap ap).lastBeacon iface.conf.apTableExpirationTime = true

lemma Agrees.expired_self (h : iface.Agrees l)
    (hkept : ∀ ap, l.getLast? = some ap →
      now.expired (iface.ap ap).lastBeacon iface.conf.apTableExpirationTime = false) :
    Expired iface iface l now l :=
  ⟨h, List.prefix_rfl, rfl, rfl, rfl, rfl, rfl, hkept, fun _ hmem hnot => absurd hmem hnot⟩

/-- The loop ends. -/
lemma expireAps_spec (h : iface.Agrees l) {fuel : ℕ} (hfuel : l.length < fuel) :
    ∃ iface' l', expireAps now fuel iface = some iface' ∧ Expired iface iface' l now l' := by
  induction fuel generalizing iface l with
  | zero => exact absurd hfuel (Nat.not_lt_zero _)
  | succ fuel ih =>
    rw [expireAps]
    split
    · rename_i hhead
      refine ⟨iface, l, rfl, h.expired_self fun ap hap => ?_⟩
      rw [h.list.eq_nil_iff.mpr hhead] at hap
      exact absurd hap (by simp)
    · rename_i head hhead
      have hlast := h.list.prev_head hhead
      dsimp only
      split_ifs with hexp
      · -- the end of the list has expired
        have hfree := h.apFreeAp (List.mem_of_getLast? hlast)
        rw [h.list.erase_prev_head hhead] at hfree
        have hlen : l.dropLast.length < fuel := by
          have hpos : 0 < l.length := List.length_pos_of_mem (List.mem_of_getLast? hlast)
          rw [List.length_dropLast]
          omega
        obtain ⟨iface', l', heq, hleft⟩ := ih hfree hlen
        refine ⟨iface', l', heq, hleft.toAgrees, hleft.isPrefix.trans (List.dropLast_prefix l), hleft.ap, hleft.conf,
          hleft.clock, hleft.olbc, hleft.olbcHt, hleft.kept, fun ap hmem hnot => ?_⟩
        obtain ⟨l₀, rfl⟩ := List.getLast?_eq_some_iff.mp hlast
        rw [List.dropLast_concat] at hleft
        rcases List.mem_append.mp hmem with hmem | hmem
        · exact hleft.gone ap hmem hnot
        · rw [List.mem_singleton.mp hmem]
          exact hexp
      · refine ⟨iface, l, rfl, h.expired_self fun ap hap => ?_⟩
        rw [hlast, Option.some_inj] at hap
        rw [← hap]
        simpa using hexp

/-- The second loop ends, and finds out whether there is a reason for each flag. -/
lemma scanOlbc_eq {p : ApPtr} (hl : RingList.Linked iface.apList.next iface.apList.prev p l none)
    {fuel : ℕ} (hfuel : l.length ≤ fuel) (olbc olbcHt : Bool) :
    iface.scanOlbc fuel l.head? olbc olbcHt =
      some (olbc || l.any iface.apListBeaconOlbc, olbcHt || l.any fun ap => !(iface.ap ap).htSupport) := by
  induction l generalizing fuel p olbc olbcHt with
  | nil => cases fuel <;> simp [scanOlbc]
  | cons ap l ih =>
    obtain ⟨fuel, rfl⟩ : ∃ n, fuel = n + 1 := Nat.exists_eq_add_one.mpr (by simp at hfuel; omega)
    obtain ⟨-, hnext, hl⟩ := hl
    rw [Option.or_none] at hnext
    rw [List.head?_cons, scanOlbc, hnext, ih hl (by simpa using hfuel)]
    cases olbc <;> cases olbcHt <;> simp

/-- A flag stays set if there is a reason in the list. -/
lemma clearOlbc_eq (h : iface.Agrees l) :
    iface.clearOlbc = some { iface with
      olbc := iface.olbc && l.any iface.apListBeaconOlbc
      olbcHt :=
        if iface.conf.ieee80211n then iface.olbcHt && l.any fun ap => !(iface.ap ap).htSupport else iface.olbcHt } := by
  have hscan : iface.scanOlbc iface.numAp.toNat iface.apList.head false false =
      some (l.any iface.apListBeaconOlbc, l.any fun ap => !(iface.ap ap).htSupport) := by
    rw [h.list.head_eq, h.num, Int.toNat_natCast]
    cases l with
    | nil => exact scanOlbc.eq_1 ..
    | cons ap l =>
      rw [scanOlbc_eq (h.list.linked _ (List.getLast?_eq_some_getLast (List.cons_ne_nil ap l))) le_rfl, Bool.false_or,
        Bool.false_or]
  unfold clearOlbc
  by_cases hflags : (iface.olbc || iface.olbcHt) = true
  · rw [if_pos hflags, hscan]
    rfl
  · rw [if_neg hflags]
    rw [Bool.not_eq_true, Bool.or_eq_false_iff] at hflags
    obtain ⟨conf, clock, ap, allocated, apList, apHash, numAp, olbc, olbcHt⟩ := iface
    obtain ⟨rfl, rfl⟩ := hflags
    simp

/-- What `ap_list_timer` does: it ends, the entries that have expired are freed, and the flags without a reason are
cleared. -/
lemma apListTimer_expired (h : iface.Agrees l) (hne : iface.apList.head ≠ none) :
    ∃ iface₁ l', Expired iface iface₁ l now l' ∧ iface.apListTimer now = iface₁.clearOlbc := by
  have hfuel : l.length < iface.numAp.toNat + 1 := by
    rw [h.num, Int.toNat_natCast]
    exact Nat.lt_succ_self _
  obtain ⟨iface₁, l', hexp, hleft⟩ := @expireAps_spec iface l now h _ hfuel
  refine ⟨iface₁, l', hleft, ?_⟩
  rw [apListTimer, if_neg hne, hexp, Option.bind_some]

/-- The newer part of the list is left, whose end has not expired. -/
lemma apListTimer_spec (h : iface.Agrees l) :
    ∃ iface' l', iface.apListTimer now = some iface' ∧ iface'.Agrees l' ∧ l' <+: l ∧
      iface'.ap = iface.ap ∧ iface'.conf = iface.conf ∧ iface'.clock = iface.clock ∧
      ∀ ap, l'.getLast? = some ap →
        now.expired (iface.ap ap).lastBeacon iface.conf.apTableExpirationTime = false := by
  by_cases hhead : iface.apList.head = none
  · rw [apListTimer, if_pos hhead]
    refine ⟨iface, l, rfl, h, List.prefix_rfl, rfl, rfl, rfl, fun ap hap => ?_⟩
    rw [h.list.eq_nil_iff.mpr hhead] at hap
    exact absurd hap (by simp)
  · obtain ⟨iface₁, l', hleft, heq⟩ := @apListTimer_expired iface l now h hhead
    rw [heq, clearOlbc_eq hleft.toAgrees]
    exact ⟨_, l', rfl, ⟨hleft.list, hleft.distinct, hleft.hash, hleft.allocated, hleft.num⟩, hleft.isPrefix, hleft.ap,
      hleft.conf, hleft.clock, hleft.kept⟩

end Timer

/-! ## Whole runs -/

section Run

variable {iface iface' : HostapdIface} {l : List ApPtr}

/-- The reading of the clock is stored. -/
lemma Lru.setClock (h : iface.Lru l) (now : OsReltime) : ({ iface with clock := now }).Lru l :=
  ⟨⟨h.list, h.distinct, h.hash, h.allocated, h.num⟩, h.room, h.ordered⟩

lemma Timely.setClock (h : iface.Timely l) {now : OsReltime} (hnow : now.Normalized)
    (hle : iface.clock.toUsec ≤ now.toUsec) : ({ iface with clock := now }).Timely l :=
  ⟨hnow, h.normalized, fun ap hap => (h.le_clock ap hap).trans hle⟩

/-- Nothing that is left after the timer is older than the expiration time. -/
def Fresh (iface : HostapdIface) (l : List ApPtr) (now : ClockTime) : Prop :=
  ∀ ap ∈ l, now.toUsec - iface.lastBeacon ap ≤ iface.conf.apTableExpirationTime * 1000000

/-- A prefix of the table, with the entries as they were. -/
lemma Lru.of_prefix {l' : List ApPtr} (h : iface.Lru l) (hagrees : iface'.Agrees l') (hpre : l' <+: l)
    (hap : iface'.ap = iface.ap) (hconf : iface'.conf = iface.conf) : iface'.Lru l' := by
  refine ⟨hagrees, ?_, ?_⟩
  · have hroom := h.room
    have hlen := hpre.length_le
    rw [h.num] at hroom
    rw [hagrees.num, hconf]
    omega
  · have hsame : iface'.lastBeacon = iface.lastBeacon := by
      funext ap
      rw [lastBeacon, hap, lastBeacon]
    rw [hsame]
    exact h.ordered.sublist hpre.sublist

lemma Timely.of_prefix {l' : List ApPtr} (h : iface.Timely l) (hpre : l' <+: l)
    (hap : iface'.ap = iface.ap) (hclock : iface'.clock = iface.clock) : iface'.Timely l' := by
  refine ⟨?_, fun ap hmem => ?_, fun ap hmem => ?_⟩
  · rw [hclock]
    exact h.clock
  · rw [hap]
    exact h.normalized ap (hpre.subset hmem)
  · rw [lastBeacon, hap, hclock]
    exact h.le_clock ap (hpre.subset hmem)

/-- If the end of the list has not expired then no entry has. -/
lemma Lru.fresh (h : iface.Lru l) {now : ClockTime}
    (hnormal : ∀ ap ∈ l, (iface.ap ap).lastBeacon.Normalized)
    (hlast : ∀ ap, l.getLast? = some ap →
      now.expired (iface.ap ap).lastBeacon iface.conf.apTableExpirationTime = false) :
    iface.Fresh l now := by
  intro ap hmem
  obtain ⟨last, hgetLast⟩ : ∃ last, l.getLast? = some last :=
    ⟨_, List.getLast?_eq_some_getLast (List.ne_nil_of_mem hmem)⟩
  have hexp := hlast last hgetLast
  rw [Bool.eq_false_iff, Ne, OsReltime.expired_iff now.normalized
    (hnormal last (List.mem_of_getLast? hgetLast)), not_lt] at hexp
  have hold : (iface.ap last).lastBeacon.toUsec ≤ iface.lastBeacon ap := h.getLast_le hgetLast ap hmem
  omega

/-- What one event does to a table. -/
structure Step (iface iface' : HostapdIface) (l : List ApPtr) (e : ApListEvent) (l' : List ApPtr) :
    Prop where
  lru : iface'.Lru l'
  timely : iface'.Timely l'
  conf : iface'.conf = iface.conf
  /-- Only a full table gives up an access point for another one, the one heard least recently. -/
  evicts : ∀ bssid elems fi now zalloc, e = .beacon bssid elems fi now zalloc → ∀ ap ∈ l, ap ∉ l' →
    iface.conf.apTableMaxSize ≤ l.length ∧ l = l.dropLast ++ [ap] ∧
      ∀ ap' ∈ l, iface.lastBeacon ap ≤ iface.lastBeacon ap'
  fresh : ∀ now, e = .timer now → iface'.Fresh l' now

/-- The events of a table. -/
lemma next_step (hmax : 1 ≤ iface.conf.apTableMaxSize) (h : iface.Lru l) (ht : iface.Timely l)
    {e : ApListEvent} (hnext : iface.next e = some iface') : ∃ l', Step iface iface' l e l' := by
  unfold next at hnext
  split at hnext
  · exact absurd hnext (by simp)
  · rename_i hclock
    have hnow := e.now.normalized
    have hle : iface.clock.toUsec ≤ e.now.toUsec := by
      rw [OsReltime.before_iff hnow ht.clock] at hclock
      exact not_lt.mp hclock
    have h' := h.setClock e.now.toOsReltime
    have ht' := ht.setClock hnow hle
    dsimp only at hnext
    split at hnext
    · rename_i bssid elems fi now zalloc
      obtain ⟨l', hheard, hagrees, hconf, hclk⟩ := apListProcessBeacon_heard h'.toAgrees hmax hnext
      obtain ⟨hlru, htimely⟩ := hheard.lru hmax h' ht' hnow rfl hagrees hconf hclk
      exact ⟨l', hlru, htimely, hconf, fun _ _ _ _ _ _ => hheard.evicts h', by simp⟩
    · rename_i now
      obtain ⟨iface₁, l', heq, hagrees, hpre, hap, hconf, hclk, hkept⟩ :=
        apListTimer_spec h'.toAgrees
      obtain rfl := Option.some.inj (heq.symm.trans hnext)
      have hlru := h'.of_prefix hagrees hpre hap hconf
      refine ⟨l', hlru, ht'.of_prefix hpre hap hclk, hconf, by simp, ?_⟩
      rintro _ ⟨rfl⟩
      refine hlru.fresh (fun ap hmem => ?_) fun ap hlast => ?_
      · rw [hap]
        exact ht.normalized ap (hpre.subset hmem)
      · rw [hap, hconf]
        exact hkept ap hlast

lemma init_lru (conf : ApListConfig) (start : ClockTime) (hmax : 1 ≤ conf.apTableMaxSize) :
    (init conf start).Lru [] ∧ (init conf start).Timely [] := by
  refine ⟨⟨⟨RingList.represents_nil .., List.nodup_nil, ChainedHash.holds_nil, ?_, rfl⟩, ?_,
    List.Pairwise.nil⟩, start.normalized, by simp, by simp⟩
  · intro ap
    simp [init]
  · exact zero_le_one.trans hmax

/-- In every run the table holds distinct access points, the same ones in the list and in the hash table,
as many as are counted and not more than allowed, from the newest to the oldest.  A beacon that makes it
give up one takes the one that was heard least recently; the timer always ends, and leaves none that is
older than the expiration time. -/
theorem run_lru {conf : ApListConfig} (hmax : 1 ≤ conf.apTableMaxSize) (start : ClockTime)
    {es : List ApListEvent} {iface : HostapdIface} (h : Trace.Run next (init conf start) es iface) :
    ∃ l, iface.Lru l ∧
      (∀ e iface', iface.next e = some iface' → ∃ l', iface'.Lru l' ∧
        (∀ bssid elems fi now zalloc, e = .beacon bssid elems fi now zalloc → ∀ ap ∈ l, ap ∉ l' →
          iface.conf.apTableMaxSize ≤ l.length ∧ l = l.dropLast ++ [ap] ∧
            ∀ ap' ∈ l, iface.lastBeacon ap ≤ iface.lastBeacon ap') ∧
        (∀ now, e = .timer now → iface'.Fresh l' now)) ∧
      ∀ now : ClockTime, now.before iface.clock = false → (iface.next (.timer now)).isSome := by
  obtain ⟨l, hlru, htimely, hconf⟩ : ∃ l, iface.Lru l ∧ iface.Timely l ∧ iface.conf = conf := by
    refine h.invariant (I := fun iface => ∃ l, iface.Lru l ∧ iface.Timely l ∧ iface.conf = conf) ?_ ?_
    · exact ⟨[], (init_lru conf start hmax).1, (init_lru conf start hmax).2, rfl⟩
    · rintro iface₁ e iface₂ ⟨l, hlru, htimely, hconf⟩ hnext
      obtain ⟨l', hstep⟩ := next_step (hconf ▸ hmax) hlru htimely hnext
      exact ⟨l', hstep.lru, hstep.timely, hstep.conf.trans hconf⟩
  refine ⟨l, hlru, ?_, ?_⟩
  · intro e iface' hnext
    obtain ⟨l', hstep⟩ := next_step (hconf ▸ hmax) hlru htimely hnext
    exact ⟨l', hstep.lru, hstep.evicts, hstep.fresh⟩
  · intro now hnow
    obtain ⟨iface', l', heq, -⟩ :=
      apListTimer_spec (hlru.setClock now.toOsReltime).toAgrees
    rw [next, if_neg (by simpa [ApListEvent.now] using hnow)]
    exact Option.isSome_iff_exists.mpr ⟨iface', heq⟩

/-- Beacons of two access points, for a table that has room for one. -/
theorem run_lru_two_beacons : ∃ (conf : ApListConfig) (start : ClockTime) (es : List ApListEvent)
    (iface : HostapdIface), es.length = 2 ∧ 1 ≤ conf.apTableMaxSize ∧
      Trace.Run next (init conf start) es iface ∧ ∃ l, iface.Lru l ∧
        ∀ now : ClockTime, now.before iface.clock = false → (iface.next (.timer now)).isSome := by
  let conf : ApListConfig := ⟨1, 60, 6, 0, true, true⟩
  let start : ClockTime := { sec := 0, usec := 0 }
  let elems : BeaconElems := ⟨some [0x82, 0x84], none, none, some 6, none, false⟩
  let es : List ApListEvent := [.beacon (Vector.replicate 6 1) elems none { sec := 1, usec := 0 } (some 0),
    .beacon (Vector.replicate 6 2) elems none { sec := 2, usec := 500 } (some 1)]
  obtain ⟨iface, hexec⟩ : ∃ iface, Trace.exec next (init conf start) es = some iface :=
    Option.isSome_iff_exists.mp (by decide)
  have hrun := Trace.run_iff_exec.mpr hexec
  have hmax : 1 ≤ conf.apTableMaxSize := by decide
  obtain ⟨l, hlru, -, htimer⟩ := run_lru hmax start hrun
  exact ⟨conf, start, es, iface, rfl, hmax, hrun, l, hlru, htimer⟩

end Run

end HostapdIface

end Ethanol
