import EthanolHostapd.Ap.StaInfo
import EthanolHostapd.Common.WpaCommon
import EthanolHostapd.Containers.SortedQueue
import EthanolHostapd.Utils.Os

/-!
# The PMKSA cache of an authenticator

`ap/pmksa_cache_auth.c`.  The entries of the cache are in a list, sorted by the time at which they
expire, and in the chains of a hash table over the PMKID.  A timer is set for the first entry of the
list.

An entry does not change while it is in the cache, so it is a value that holds its own address `ptr`;
the code tells entries apart by that address.  The clock is read once in each operation.  The fields that
are only handed through to the EAPOL state machine are left out.
-/

namespace Ethanol

/-- `pmksa_cache_max_entries`. -/
def pmksaCacheMaxEntries : ℤ := 1024

/-- `dot11RSNAConfigPMKLifetime`. -/
def dot11RSNAConfigPMKLifetime : ℤ := 43200

/-- `PMK_LEN_MAX`. -/
def pmkLenMax : ℕ := 48

/-- `PMKID_HASH`. -/
def pmkidHash (pmkid : Pmkid) : UInt8 := pmkid[0] &&& 0x7f

/-- `wpa_key_mgmt_suite_b`. -/
def wpaKeyMgmtSuiteB (akm : ℕ) : Bool := akm.testBit 16 || akm.testBit 17

/-- `wpa_key_mgmt_sha256`. -/
def wpaKeyMgmtSha256 (akm : ℕ) : Bool :=
  akm.testBit 8 || akm.testBit 7 || akm.testBit 15 || akm.testBit 16

/-- `struct rsn_pmksa_cache_entry`. -/
structure PmksaEntry where
  /-- The address of the entry. -/
  ptr : ℕ
  pmkid : Pmkid
  pmk : List UInt8
  expiration : ℤ
  akmp : ℕ
  spa : MacAddr
  identity : Option (List UInt8)
  cui : Option (List UInt8)
  opportunistic : Bool
  acctMultiSessionId : UInt64

/-- What is read of `struct eapol_state_machine`. -/
structure PmksaEapolData where
  identity : Option (List UInt8)
  radiusCui : Option (List UInt8)
  acctMultiSessionId : UInt64

/-- The functions that compute a PMKID. -/
structure PmkidFunctions where
  rsnPmkid : List UInt8 → MacAddr → MacAddr → Bool → Pmkid
  rsnPmkidSuiteB : List UInt8 → MacAddr → MacAddr → Pmkid
  rsnPmkidSuiteB192 : List UInt8 → MacAddr → MacAddr → Pmkid

/-- The arguments of `pmksa_cache_auth_add`. -/
structure PmksaAddArgs where
  pmk : List UInt8
  pmkid : Option Pmkid
  kck : Option (List UInt8)
  aa : MacAddr
  spa : MacAddr
  sessionTimeout : ℤ
  eapol : Option PmksaEapolData
  akmp : ℕ

/-- Which allocations of an operation succeed: the entry, the copies of the identity and of the CUI,
and the timeout. -/
structure PmksaMemory where
  zalloc : Option ℕ
  identity : Bool
  cui : Bool
  timeout : Bool

/-- What is read of `struct radius_das_attrs`. -/
structure DasAttrs where
  staAddr : Option MacAddr
  userName : Option (List UInt8)
  acctSessionId : Option (List UInt8)
  acctMultiSessionId : Option (List UInt8)
  cui : Option (List UInt8)

/-- `struct rsn_pmksa_cache`. -/
structure PmksaCache where
  /-- The chains of the hash table. -/
  pmkid : UInt8 → List PmksaEntry
  /-- The list. -/
  pmksa : List PmksaEntry
  pmksaCount : ℤ
  /-- The timeout of `pmksa_cache_expire`, if it is pending. -/
  timer : Option OsReltime
  /-- When `pmksa_cache_set_expiration` was called last, and whether it could register the timeout. -/
  armedAt : OsReltime
  armed : Bool
  /-- The latest reading of the clock. -/
  clock : OsReltime

namespace PmksaEntry

/-- Entries are told apart by their address, and the PMKID selects the chain. -/
def key (entry : PmksaEntry) : ℕ × Pmkid := (entry.ptr, entry.pmkid)

/-- The chain of an entry. -/
def chain (k : ℕ × Pmkid) : UInt8 := pmkidHash k.2

end PmksaEntry

/-- The digits of `"%016llX"`. -/
def hexDigits (n : UInt64) : List UInt8 :=
  (List.range 16).map fun i =>
    let digit := (n.toNat / 16 ^ (15 - i)) % 16
    if digit < 10 then (48 + digit).toUInt8 else (55 + digit).toUInt8

/-- `das_attr_match`: how many attributes match, or 0 if one of them does not. -/
def dasAttrMatch (entry : PmksaEntry) (attr : DasAttrs) : ℕ :=
  let checks : List (Option Bool) :=
    [attr.staAddr.map fun addr => addr = entry.spa,
      attr.acctMultiSessionId.map fun id => id.length = 16 && id = hexDigits entry.acctMultiSessionId,
      attr.cui.map fun cui => entry.cui = some cui,
      attr.userName.map fun name => entry.identity = some name]
  if checks.contains (some false) then 0 else checks.count (some true)

namespace PmksaCache

/-- `pmksa_cache_auth_init`. -/
def init (start : ClockTime) : PmksaCache where
  pmkid := fun _ => []
  pmksa := []
  pmksaCount := 0
  timer := none
  armedAt := start.toOsReltime
  armed := true
  clock := start.toOsReltime

/-- `pmksa_cache_free_entry`. -/
def freeEntry (pmksa : PmksaCache) (entry : PmksaEntry) : PmksaCache :=
  { pmksa with
    pmksaCount := pmksa.pmksaCount - 1
    pmkid := ChainedHash.del PmksaEntry.key PmksaEntry.chain entry.key pmksa.pmkid
    pmksa := KeyedList.remove PmksaEntry.key entry.key pmksa.pmksa }

/-- `pmksa_cache_auth_flush`: the first entry is freed as long as there is one. -/
def flush (pmksa : PmksaCache) : PmksaCache := pmksa.pmksa.foldl freeEntry pmksa

/-- `pmksa_cache_set_expiration`; `registered` says whether there is memory for the timeout. -/
def setExpiration (pmksa : PmksaCache) (now : OsReltime) (registered : Bool) : PmksaCache :=
  match pmksa.pmksa with
  | [] => { pmksa with timer := none, armedAt := now, armed := true }
  | entry :: _ =>
    let sec := max (entry.expiration - now.sec) 0
    { pmksa with
      timer := if registered then some ⟨now.sec + sec + 1, now.usec⟩ else none
      armedAt := now
      armed := registered }

/-- The loop of `pmksa_cache_expire`.  A round frees an entry. -/
def expireEntries (now : OsReltime) : ℕ → PmksaCache → PmksaCache
  | 0, pmksa => pmksa
  | fuel + 1, pmksa =>
    match pmksa.pmksa with
    | [] => pmksa
    | entry :: _ =>
      if entry.expiration ≤ now.sec then expireEntries now fuel (pmksa.freeEntry entry) else pmksa

/-- `pmksa_cache_expire`. -/
def expire (pmksa : PmksaCache) (now : OsReltime) (registered : Bool) : PmksaCache :=
  (expireEntries now pmksa.pmksa.length pmksa).setExpiration now registered

/-- The entry is linked into the list and into its chain. -/
def insertEntry (pmksa : PmksaCache) (entry : PmksaEntry) : PmksaCache :=
  { pmksa with
    pmksa := pmksa.pmksa.orderedInsert (fun x y => x.expiration < y.expiration) entry
    pmkid := ChainedHash.add PmksaEntry.key PmksaEntry.chain entry pmksa.pmkid
    pmksaCount := pmksa.pmksaCount + 1 }

/-- The entry comes before all others (`prev == NULL`). -/
def comesFirst (pmksa : PmksaCache) (entry : PmksaEntry) : Bool :=
  match pmksa.pmksa with
  | [] => true
  | pos :: _ => entry.expiration < pos.expiration

/-- `pmksa_cache_link_entry`. -/
def linkEntry (pmksa : PmksaCache) (entry : PmksaEntry) (now : OsReltime) (registered : Bool) :
    PmksaCache :=
  if pmksa.comesFirst entry then (pmksa.insertEntry entry).setExpiration now registered
  else pmksa.insertEntry entry

/-- `pmksa_cache_auth_get`. -/
def authGet (pmksa : PmksaCache) (spa : Option MacAddr) (pmkid : Option Pmkid) : Option PmksaEntry :=
  match pmkid with
  | some pmkid => (pmksa.pmkid (pmkidHash pmkid)).find? fun entry =>
      (spa = none || spa = some entry.spa) && entry.pmkid = pmkid
  | none => pmksa.pmksa.find? fun entry => spa = none || spa = some entry.spa

/-- `pmksa_cache_get_okc`. -/
def getOkc (fns : PmkidFunctions) (pmksa : PmksaCache) (aa spa : MacAddr) (pmkid : Pmkid) :
    Option PmksaEntry :=
  pmksa.pmksa.find? fun entry =>
    entry.spa = spa && fns.rsnPmkid entry.pmk aa spa (wpaKeyMgmtSha256 entry.akmp) = pmkid

/-- The new entry of `pmksa_cache_auth_add`. -/
def newEntry (fns : PmkidFunctions) (args : PmksaAddArgs) (mem : PmksaMemory) (ptr : ℕ) (now : OsReltime) :
    PmksaEntry where
  ptr := ptr
  pmkid :=
    match args.pmkid with
    | some pmkid => pmkid
    | none =>
      if args.akmp = 2 ^ 17 then fns.rsnPmkidSuiteB192 (args.kck.getD []) args.aa args.spa
      else if wpaKeyMgmtSuiteB args.akmp then fns.rsnPmkidSuiteB (args.kck.getD []) args.aa args.spa
      else fns.rsnPmkid args.pmk args.aa args.spa (wpaKeyMgmtSha256 args.akmp)
  pmk := args.pmk
  expiration := now.sec +
    if 0 < args.sessionTimeout then args.sessionTimeout else dot11RSNAConfigPMKLifetime
  akmp := args.akmp
  spa := args.spa
  identity := if mem.identity then args.eapol.bind (·.identity) else none
  cui := if mem.cui then args.eapol.bind (·.radiusCui) else none
  opportunistic := false
  acctMultiSessionId := args.eapol.elim 0 (·.acctMultiSessionId)

/-- `wpa_auth_pmksa_remove`; `pmksa_cache_auth_add` replaces an old entry of the station in the same
way. -/
def remove (pmksa : PmksaCache) (staAddr : MacAddr) : PmksaCache :=
  match pmksa.authGet (some staAddr) none with
  | some entry => pmksa.freeEntry entry
  | none => pmksa

/-- The oldest entry is freed to make room. -/
def evictOldest (pmksa : PmksaCache) : PmksaCache :=
  match pmksa.pmksa with
  | [] => pmksa
  | entry :: _ => if pmksaCacheMaxEntries ≤ pmksa.pmksaCount then pmksa.freeEntry entry else pmksa

/-- `pmksa_cache_auth_add`.  Memory that is in use is not handed out again. -/
def authAdd (fns : PmkidFunctions) (pmksa : PmksaCache) (args : PmksaAddArgs) (mem : PmksaMemory)
    (now : OsReltime) : Option PmksaCache :=
  if pmkLenMax < args.pmk.length then some pmksa
  else if wpaKeyMgmtSuiteB args.akmp && args.kck.isNone then some pmksa
  else
    match mem.zalloc with
    | none => some pmksa
    | some ptr =>
      if ptr ∈ pmksa.pmksa.map PmksaEntry.ptr then none
      else some ((pmksa.remove args.spa).evictOldest.linkEntry (newEntry fns args mem ptr now) now
        mem.timeout)

/-- The new entry of `pmksa_cache_add_okc`. -/
def okcEntry (oldEntry : PmksaEntry) (pmkid : Pmkid) (mem : PmksaMemory) (ptr : ℕ) : PmksaEntry where
  ptr := ptr
  pmkid := pmkid
  pmk := oldEntry.pmk
  expiration := oldEntry.expiration
  akmp := oldEntry.akmp
  spa := oldEntry.spa
  identity := if mem.identity then oldEntry.identity else none
  cui := if mem.cui then oldEntry.cui else none
  opportunistic := true
  acctMultiSessionId := 0

/-- `pmksa_cache_add_okc`. -/
def addOkc (pmksa : PmksaCache) (oldEntry : PmksaEntry) (pmkid : Pmkid) (mem : PmksaMemory)
    (now : OsReltime) : Option PmksaCache :=
  match mem.zalloc with
  | none => some pmksa
  | some ptr =>
    if ptr ∈ pmksa.pmksa.map PmksaEntry.ptr then none
    else some (pmksa.linkEntry (okcEntry oldEntry pmkid mem ptr) now mem.timeout)

/-- The loop of `pmksa_cache_auth_radius_das_disconnect`; the next entry is read before the current one
is freed. -/
def freeMatching (attr : DasAttrs) (pmksa : PmksaCache) : PmksaCache :=
  pmksa.pmksa.foldl (fun pmksa entry => if dasAttrMatch entry attr ≠ 0 then pmksa.freeEntry entry else pmksa)
    pmksa

/-- `pmksa_cache_auth_radius_das_disconnect`. -/
def radiusDasDisconnect (pmksa : PmksaCache) (attr : DasAttrs) : PmksaCache :=
  if attr.acctSessionId.isSome then pmksa else pmksa.freeMatching attr

/-- The search in `wpa_validate_wpa_ie` with opportunistic key caching: if none of the PMKIDs of the station
is in the cache then an entry of the caches of all authenticators, `auths`, is looked for, which
`pmksa_cache_add_okc` copies. -/
def findOkc (fns : PmkidFunctions) (pmksa : PmksaCache) (auths : List PmksaCache) (aa spa : MacAddr)
    (pmkids : List Pmkid) : Option (PmksaEntry × Pmkid) :=
  if pmkids.any fun pmkid => (pmksa.authGet (some spa) (some pmkid)).isSome then none
  else pmkids.findSome? fun pmkid =>
    (auths.findSome? fun auth => auth.getOkc fns aa spa pmkid).map fun entry => (entry, pmkid)

end PmksaCache

/-- An operation on the cache. -/
inductive PmksaCall
  | authAdd (args : PmksaAddArgs) (mem : PmksaMemory)
  /-- The old entry is one of this cache or of the cache of another BSS. -/
  | addOkc (oldEntry : PmksaEntry) (pmkid : Pmkid) (mem : PmksaMemory)
  | authGet (spa : Option MacAddr) (pmkid : Option Pmkid)
  | getOkc (aa spa : MacAddr) (pmkid : Pmkid)
  | remove (staAddr : MacAddr)
  | flush
  | radiusDasDisconnect (attr : DasAttrs)
  /-- The timeout is dispatched; `registered` is for the one that is set next. -/
  | timer (registered : Bool)

namespace PmksaCache

/-- What an operation does at a given time.  The timer runs when it is due. -/
def call (fns : PmkidFunctions) (pmksa : PmksaCache) (now : OsReltime) : PmksaCall → Option PmksaCache
  | .authAdd args mem => pmksa.authAdd fns args mem now
  | .addOkc oldEntry pmkid mem => pmksa.addOkc oldEntry pmkid mem now
  | .authGet _ _ => some pmksa
  | .getOkc _ _ _ => some pmksa
  | .remove staAddr => some (pmksa.remove staAddr)
  | .flush => some pmksa.flush
  | .radiusDasDisconnect attr => some (pmksa.radiusDasDisconnect attr)
  | .timer registered =>
    match pmksa.timer with
    | none => none
    | some time =>
      if now.before time then none else some ({ pmksa with timer := none }.expire now registered)

/-- The cache after an operation.  The clock does not go back. -/
def next (fns : PmkidFunctions) (pmksa : PmksaCache) (e : ClockTime × PmksaCall) : Option PmksaCache :=
  if e.1.before pmksa.clock then none
  else { pmksa with clock := e.1.toOsReltime }.call fns e.1.toOsReltime e.2

/-! ## What the cache should be -/

/-- The list is sorted, and the hash table holds the same entries, as many as are counted. -/
structure Agrees (pmksa : PmksaCache) : Prop where
  distinct : KeyedList.Distinct PmksaEntry.key pmksa.pmksa
  hash : ChainedHash.Holds PmksaEntry.key PmksaEntry.chain pmksa.pmkid pmksa.pmksa
  count : pmksa.pmksaCount = pmksa.pmksa.length
  sorted : pmksa.pmksa.Pairwise fun entry entry' => entry.expiration ≤ entry'.expiration

/-- If there is an entry then the timer is pending, in whole seconds not later than one second after the
first entry expires, or after the timer was set if the entry had expired by then. -/
def Armed (pmksa : PmksaCache) : Prop :=
  ∀ entry, pmksa.pmksa.head? = some entry → pmksa.armed = true →
    ∃ time, pmksa.timer = some time ∧ time.sec ≤ max entry.expiration pmksa.armedAt.sec + 1

/-- Entries were taken out, and nothing else happened. -/
structure Shrinks (pmksa pmksa' : PmksaCache) : Prop where
  sublist : pmksa'.pmksa.Sublist pmksa.pmksa
  timer : pmksa'.timer = pmksa.timer
  armedAt : pmksa'.armedAt = pmksa.armedAt
  armed : pmksa'.armed = pmksa.armed

/-! ## Freeing entries -/

section Free

variable {pmksa pmksa' pmksa'' : PmksaCache} {entry : PmksaEntry}

lemma Shrinks.refl (pmksa : PmksaCache) : Shrinks pmksa pmksa := ⟨List.Sublist.refl _, rfl, rfl, rfl⟩

lemma Shrinks.trans (h : Shrinks pmksa pmksa') (h' : Shrinks pmksa' pmksa'') : Shrinks pmksa pmksa'' :=
  ⟨h'.sublist.trans h.sublist, h'.timer.trans h.timer, h'.armedAt.trans h.armedAt,
    h'.armed.trans h.armed⟩

lemma freeEntry_shrinks (pmksa : PmksaCache) (entry : PmksaEntry) : Shrinks pmksa (pmksa.freeEntry entry) :=
  ⟨KeyedList.remove_sublist _ _, rfl, rfl, rfl⟩

/-- The timer is early enough for what is left, because that expires later. -/
lemma Armed.of_shrinks (h : pmksa.Armed) (hsorted : pmksa.Agrees) (hshrinks : Shrinks pmksa pmksa') :
    pmksa'.Armed := by
  intro entry hhead harmed
  have hmem : entry ∈ pmksa.pmksa := hshrinks.sublist.subset (List.mem_of_mem_head? hhead)
  obtain ⟨first, rest, hlist⟩ := List.exists_cons_of_ne_nil (List.ne_nil_of_mem hmem)
  rw [hshrinks.armed] at harmed
  obtain ⟨time, htime, hle⟩ := h first (by rw [hlist]; rfl) harmed
  refine ⟨time, hshrinks.timer.trans htime, ?_⟩
  have hfirst : first.expiration ≤ entry.expiration := by
    have hpairwise := hsorted.sorted
    rw [hlist] at hmem hpairwise
    rcases List.mem_cons.mp hmem with rfl | hmem
    · exact le_rfl
    · exact (List.pairwise_cons.mp hpairwise).1 entry hmem
  rw [hshrinks.armedAt]
  omega

lemma Agrees.freeEntry (h : pmksa.Agrees) (hentry : entry ∈ pmksa.pmksa) :
    (pmksa.freeEntry entry).Agrees where
  distinct := h.distinct.remove _
  hash := h.hash.del h.distinct _
  count := by
    have hperm := (KeyedList.perm_remove (KeyedList.find_of_mem h.distinct hentry)).length_eq
    change pmksa.pmksaCount - 1 = (KeyedList.remove PmksaEntry.key entry.key pmksa.pmksa).length
    rw [List.length_cons] at hperm
    rw [h.count, hperm]
    omega
  sorted := h.sorted.sublist (KeyedList.remove_sublist _ _)

/-- Some entries of the list are freed, one after the other. -/
lemma Agrees.foldl_free (h : pmksa.Agrees) {l : List PmksaEntry} (hl : KeyedList.Distinct PmksaEntry.key l)
    (hsub : l ⊆ pmksa.pmksa) (p : PmksaEntry → Prop) [DecidablePred p] :
    let result := l.foldl (fun pmksa entry => if p entry then pmksa.freeEntry entry else pmksa) pmksa
    result.Agrees ∧ Shrinks pmksa result := by
  induction l generalizing pmksa with
  | nil => exact ⟨h, Shrinks.refl pmksa⟩
  | cons entry l ih =>
    obtain ⟨hnew, hl⟩ := List.nodup_cons.mp hl
    obtain ⟨hentry, hsub⟩ := List.cons_subset.mp hsub
    rw [List.foldl_cons]
    by_cases hp : p entry
    · rw [if_pos hp]
      have hrest : l ⊆ (pmksa.freeEntry entry).pmksa := by
        intro entry' hentry'
        refine (KeyedList.mem_remove h.distinct entry.key).mpr ⟨hsub hentry', fun hkey => hnew ?_⟩
        rw [← hkey]
        exact List.mem_map_of_mem hentry'
      obtain ⟨hagrees, hshrinks⟩ := ih (h.freeEntry hentry) hl hrest
      exact ⟨hagrees, (freeEntry_shrinks pmksa entry).trans hshrinks⟩
    · rw [if_neg hp]
      exact ih h hl hsub

lemma Agrees.flush (h : pmksa.Agrees) : pmksa.flush.Agrees ∧ Shrinks pmksa pmksa.flush := by
  have hfold := h.foldl_free h.distinct (List.Subset.refl _) fun _ => True
  simp only [if_true] at hfold
  exact hfold

lemma Agrees.freeMatching (h : pmksa.Agrees) (attr : DasAttrs) :
    (pmksa.freeMatching attr).Agrees ∧ Shrinks pmksa (pmksa.freeMatching attr) :=
  h.foldl_free h.distinct (List.Subset.refl _) fun entry => dasAttrMatch entry attr ≠ 0

lemma Agrees.remove (h : pmksa.Agrees) (staAddr : MacAddr) :
    (pmksa.remove staAddr).Agrees ∧ Shrinks pmksa (pmksa.remove staAddr) := by
  unfold PmksaCache.remove
  split
  · rename_i entry hget
    exact ⟨h.freeEntry (List.mem_of_find?_eq_some hget), freeEntry_shrinks pmksa entry⟩
  · exact ⟨h, Shrinks.refl pmksa⟩

lemma Agrees.evictOldest (h : pmksa.Agrees) :
    pmksa.evictOldest.Agrees ∧ Shrinks pmksa pmksa.evictOldest := by
  unfold PmksaCache.evictOldest
  split
  · exact ⟨h, Shrinks.refl pmksa⟩
  · rename_i entry rest hlist
    split_ifs
    · exact ⟨h.freeEntry (by rw [hlist]; exact List.mem_cons_self), freeEntry_shrinks pmksa entry⟩
    · exact ⟨h, Shrinks.refl pmksa⟩

lemma expireEntries_sublist (now : OsReltime) (fuel : ℕ) (pmksa : PmksaCache) :
    (expireEntries now fuel pmksa).pmksa.Sublist pmksa.pmksa := by
  induction fuel generalizing pmksa with
  | zero => exact List.Sublist.refl _
  | succ fuel ih =>
    rw [expireEntries]
    split
    · exact List.Sublist.refl _
    · split_ifs
      · exact (ih _).trans (freeEntry_shrinks _ _).sublist
      · exact List.Sublist.refl _

/-- What the loop of the timer leaves has not expired. -/
lemma Agrees.expireEntries (h : pmksa.Agrees) (now : OsReltime) {fuel : ℕ}
    (hfuel : pmksa.pmksa.length ≤ fuel) :
    (expireEntries now fuel pmksa).Agrees ∧
      ∀ entry ∈ (PmksaCache.expireEntries now fuel pmksa).pmksa, now.sec < entry.expiration := by
  induction fuel generalizing pmksa with
  | zero =>
    have hnil : pmksa.pmksa = [] := List.length_eq_zero_iff.mp (Nat.le_zero.mp hfuel)
    refine ⟨h, fun entry hentry => ?_⟩
    rw [PmksaCache.expireEntries, hnil] at hentry
    exact absurd hentry (by simp)
  | succ fuel ih =>
    rw [PmksaCache.expireEntries]
    split
    · rename_i hnil
      refine ⟨h, fun entry hentry => ?_⟩
      rw [hnil] at hentry
      exact absurd hentry (by simp)
    · rename_i first rest hlist
      split_ifs with hexp
      · have hfirst : first ∈ pmksa.pmksa := by
          rw [hlist]
          exact List.mem_cons_self
        have hfree := h.freeEntry hfirst
        refine ih hfree ?_
        have hrest : (pmksa.freeEntry first).pmksa = rest := by
          rw [PmksaCache.freeEntry, hlist]
          exact (KeyedList.remove_cons _ _ _).trans (if_pos rfl)
        rw [hlist, List.length_cons] at hfuel
        rw [hrest]
        exact Nat.le_of_succ_le_succ hfuel
      · refine ⟨h, fun entry hentry => ?_⟩
        have hsorted := h.sorted
        rw [hlist] at hentry hsorted
        rw [not_le] at hexp
        rcases List.mem_cons.mp hentry with rfl | hentry
        · exact hexp
        · exact hexp.trans_le ((List.pairwise_cons.mp hsorted).1 entry hentry)

end Free

/-! ## Setting the timer and linking entries -/

section Link

variable {pmksa : PmksaCache} {entry : PmksaEntry} {now : OsReltime} {registered : Bool}

@[simp] lemma setExpiration_pmksa : (pmksa.setExpiration now registered).pmksa = pmksa.pmksa := by
  unfold setExpiration
  split <;> rfl

@[simp] lemma setExpiration_pmkid : (pmksa.setExpiration now registered).pmkid = pmksa.pmkid := by
  unfold setExpiration
  split <;> rfl

@[simp] lemma setExpiration_pmksaCount :
    (pmksa.setExpiration now registered).pmksaCount = pmksa.pmksaCount := by
  unfold setExpiration
  split <;> rfl

lemma Agrees.setExpiration (h : pmksa.Agrees) : (pmksa.setExpiration now registered).Agrees := by
  constructor
  case distinct => simpa using h.distinct
  case hash => simpa using h.hash
  case count => simpa using h.count
  case sorted => simpa using h.sorted

lemma armed_setExpiration (pmksa : PmksaCache) (now : OsReltime) (registered : Bool) :
    (pmksa.setExpiration now registered).Armed := by
  intro entry hhead harmed
  rw [setExpiration_pmksa] at hhead
  unfold setExpiration at harmed ⊢
  split at harmed
  · rename_i hnil
    rw [hnil] at hhead
    exact absurd hhead (by simp)
  · rename_i first rest hlist
    obtain rfl : first = entry := by simpa [hlist] using hhead
    change registered = true at harmed
    refine ⟨⟨now.sec + max (first.expiration - now.sec) 0 + 1, now.usec⟩, ?_, ?_⟩
    · simp [harmed]
    · show now.sec + max (first.expiration - now.sec) 0 + 1 ≤ max first.expiration now.sec + 1
      omega

lemma Agrees.insertEntry (h : pmksa.Agrees) (hnew : entry.ptr ∉ pmksa.pmksa.map PmksaEntry.ptr) :
    (pmksa.insertEntry entry).Agrees := by
  have hperm := List.perm_orderedInsert (fun x y : PmksaEntry => x.expiration < y.expiration) entry
    pmksa.pmksa
  have hkey : entry.key ∉ pmksa.pmksa.map PmksaEntry.key := by
    intro hmem
    obtain ⟨entry', hentry', heq⟩ := List.mem_map.mp hmem
    exact hnew (List.mem_map.mpr ⟨entry', hentry', (Prod.mk.inj heq).1⟩)
  constructor
  case distinct =>
    have hcons : (List.map PmksaEntry.key (entry :: pmksa.pmksa)).Nodup :=
      List.nodup_cons.mpr ⟨hkey, h.distinct⟩
    exact (hperm.map _).nodup_iff.mpr hcons
  case hash =>
    have hadd := h.hash.add hkey
    refine ⟨fun b a => ?_, hadd.distinct⟩
    exact (hadd.mem_iff b a).trans (and_congr_left fun _ => hperm.mem_iff.symm)
  case count =>
    change pmksa.pmksaCount + 1 = (List.orderedInsert _ entry pmksa.pmksa).length
    rw [List.orderedInsert_length, h.count]
    simp
  case sorted =>
    refine SortedQueue.pairwise_insert h.sorted (fun _ _ => le_of_lt) (fun _ _ => le_of_not_gt) ?_
    exact fun _ _ _ _ => lt_of_lt_of_le

lemma Agrees.linkEntry (h : pmksa.Agrees) (hnew : entry.ptr ∉ pmksa.pmksa.map PmksaEntry.ptr) :
    (pmksa.linkEntry entry now registered).Agrees := by
  unfold PmksaCache.linkEntry
  split
  · exact (h.insertEntry hnew).setExpiration
  · exact h.insertEntry hnew

/-- The entries after one is linked, in some order. -/
lemma linkEntry_perm : (pmksa.linkEntry entry now registered).pmksa.Perm (entry :: pmksa.pmksa) := by
  unfold linkEntry
  split
  · rw [setExpiration_pmksa]
    exact List.perm_orderedInsert _ _ _
  · exact List.perm_orderedInsert _ _ _

/-- If the first entry stays the first one then the timer need not be set. -/
lemma Armed.linkEntry (h : pmksa.Armed) : (pmksa.linkEntry entry now registered).Armed := by
  unfold PmksaCache.linkEntry
  split
  · exact armed_setExpiration _ _ _
  · rename_i hfirst
    intro entry' hhead harmed
    refine h entry' ?_ harmed
    unfold comesFirst at hfirst
    split at hfirst
    · exact absurd rfl hfirst
    · rename_i pos rest hlist
      rw [decide_eq_true_eq] at hfirst
      change (List.orderedInsert _ entry pmksa.pmksa).head? = some entry' at hhead
      rwa [hlist, SortedQueue.head_insert, if_neg hfirst, ← List.head?_cons (l := rest), ← hlist] at hhead

end Link

/-! ## Operations -/

section Call

variable {fns : PmkidFunctions} {pmksa pmksa' : PmksaCache} {now : OsReltime} {call : PmksaCall}

/-- What an operation does: it takes out entries, links a new one after it may have taken out some, or is
the timer. -/
inductive Outcome (pmksa : PmksaCache) (now : OsReltime) : PmksaCall → PmksaCache → Prop
  | shrinks {call : PmksaCall} {pmksa' : PmksaCache} : pmksa'.Agrees → Shrinks pmksa pmksa' →
      (∀ oldEntry pmkid mem, call = .addOkc oldEntry pmkid mem → mem.zalloc = none) →
      Outcome pmksa now call pmksa'
  | added {args : PmksaAddArgs} {mem : PmksaMemory} {entry : PmksaEntry} : entry.spa = args.spa →
      entry.ptr ∉ (pmksa.remove args.spa).evictOldest.pmksa.map PmksaEntry.ptr →
      Outcome pmksa now (.authAdd args mem)
        ((pmksa.remove args.spa).evictOldest.linkEntry entry now mem.timeout)
  | okc {oldEntry : PmksaEntry} {pmkid : Pmkid} {mem : PmksaMemory} {ptr : ℕ} : mem.zalloc = some ptr →
      ptr ∉ pmksa.pmksa.map PmksaEntry.ptr →
      Outcome pmksa now (.addOkc oldEntry pmkid mem)
        (pmksa.linkEntry (okcEntry oldEntry pmkid mem ptr) now mem.timeout)
  | timer {registered : Bool} :
      Outcome pmksa now (.timer registered) ({ pmksa with timer := none }.expire now registered)

lemma Agrees.call_outcome (h : pmksa.Agrees) (hcall : pmksa.call fns now call = some pmksa') :
    Outcome pmksa now call pmksa' := by
  cases call with
  | authAdd args mem =>
    simp only [PmksaCache.call, authAdd] at hcall
    split_ifs at hcall
    · obtain rfl := Option.some.inj hcall
      exact .shrinks h (Shrinks.refl pmksa) (by simp)
    · obtain rfl := Option.some.inj hcall
      exact .shrinks h (Shrinks.refl pmksa) (by simp)
    · split at hcall
      · obtain rfl := Option.some.inj hcall
        exact .shrinks h (Shrinks.refl pmksa) (by simp)
      · rename_i ptr hptr
        split_ifs at hcall with hused
        obtain rfl := Option.some.inj hcall
        obtain ⟨hremove, hshrinks⟩ := h.remove args.spa
        have hsub := (hremove.evictOldest.2.sublist.trans hshrinks.sublist).map PmksaEntry.ptr
        exact .added rfl fun hmem => hused (hsub.subset hmem)
  | addOkc oldEntry pmkid mem =>
    simp only [PmksaCache.call, addOkc] at hcall
    split at hcall
    · rename_i hnone
      obtain rfl := Option.some.inj hcall
      refine .shrinks h (Shrinks.refl pmksa) ?_
      rintro _ _ _ ⟨⟩
      exact hnone
    · rename_i ptr hptr
      split_ifs at hcall with hused
      obtain rfl := Option.some.inj hcall
      exact .okc hptr hused
  | authGet spa pmkid =>
    obtain rfl := Option.some.inj hcall
    exact .shrinks h (Shrinks.refl pmksa) (by simp)
  | getOkc aa spa pmkid =>
    obtain rfl := Option.some.inj hcall
    exact .shrinks h (Shrinks.refl pmksa) (by simp)
  | remove staAddr =>
    obtain rfl := Option.some.inj hcall
    exact .shrinks (h.remove staAddr).1 (h.remove staAddr).2 (by simp)
  | flush =>
    obtain rfl := Option.some.inj hcall
    exact .shrinks h.flush.1 h.flush.2 (by simp)
  | radiusDasDisconnect attr =>
    simp only [PmksaCache.call, radiusDasDisconnect] at hcall
    obtain rfl := Option.some.inj hcall
    split_ifs
    · exact .shrinks h (Shrinks.refl pmksa) (by simp)
    · exact .shrinks (h.freeMatching attr).1 (h.freeMatching attr).2 (by simp)
  | timer registered =>
    simp only [PmksaCache.call] at hcall
    split at hcall
    · exact absurd hcall (by simp)
    · split_ifs at hcall
      obtain rfl := Option.some.inj hcall
      exact .timer

/-- The timer leaves an agreeing cache without expired entries. -/
lemma Agrees.expire (h : pmksa.Agrees) (registered : Bool) :
    (pmksa.expire now registered).Agrees ∧
      ∀ entry ∈ (pmksa.expire now registered).pmksa, now.sec < entry.expiration := by
  obtain ⟨hagrees, hfresh⟩ := h.expireEntries now le_rfl
  refine ⟨hagrees.setExpiration, ?_⟩
  rw [PmksaCache.expire, setExpiration_pmksa]
  exact hfresh

lemma Outcome.agrees (houtcome : Outcome pmksa now call pmksa') (h : pmksa.Agrees) : pmksa'.Agrees := by
  cases houtcome with
  | shrinks hagrees _ _ => exact hagrees
  | added hspa hnew => exact (h.remove _).1.evictOldest.1.linkEntry hnew
  | okc hptr hnew => exact h.linkEntry hnew
  | timer =>
    have hpending : ({ pmksa with timer := none } : PmksaCache).Agrees :=
      ⟨h.distinct, h.hash, h.count, h.sorted⟩
    exact (hpending.expire _).1

lemma Outcome.armed (houtcome : Outcome pmksa now call pmksa') (h : pmksa.Agrees) (harmed : pmksa.Armed) :
    pmksa'.Armed := by
  cases houtcome with
  | shrinks _ hshrinks _ => exact harmed.of_shrinks h hshrinks
  | @added args mem entry hspa hnew =>
    obtain ⟨hremove, hshrinks⟩ := h.remove args.spa
    exact ((harmed.of_shrinks h hshrinks).of_shrinks hremove hremove.evictOldest.2).linkEntry
  | okc hptr hnew => exact harmed.linkEntry
  | timer => exact armed_setExpiration _ _ _

end Call

/-! ## Whole runs -/

section Run

variable {fns : PmkidFunctions} {start : ClockTime} {pmksa pmksa' : PmksaCache}
  {es : List (ClockTime × PmksaCall)}

/-- An operation, after the clock is read. -/
lemma Agrees.next_outcome (h : pmksa.Agrees) {e : ClockTime × PmksaCall}
    (hnext : pmksa.next fns e = some pmksa') :
    ({ pmksa with clock := e.1.toOsReltime } : PmksaCache).Agrees ∧
      Outcome { pmksa with clock := e.1.toOsReltime } e.1.toOsReltime e.2 pmksa' := by
  unfold PmksaCache.next at hnext
  split_ifs at hnext
  have hclock : ({ pmksa with clock := e.1.toOsReltime } : PmksaCache).Agrees :=
    ⟨h.distinct, h.hash, h.count, h.sorted⟩
  exact ⟨hclock, hclock.call_outcome hnext⟩

lemma init_agrees (start : ClockTime) : (init start).Agrees :=
  ⟨List.nodup_nil, ChainedHash.holds_nil, rfl, List.Pairwise.nil⟩

lemma run_agrees (h : Trace.Run (next fns) (init start) es pmksa) : pmksa.Agrees ∧ pmksa.Armed := by
  refine h.invariant (I := fun pmksa => pmksa.Agrees ∧ pmksa.Armed) ⟨?_, ?_⟩ ?_
  · exact init_agrees start
  · intro entry hhead
    exact absurd hhead (by simp [init])
  · rintro pmksa₁ e pmksa₂ ⟨hagrees, harmed⟩ hnext
    obtain ⟨hagrees', houtcome⟩ := hagrees.next_outcome hnext
    exact ⟨houtcome.agrees hagrees', houtcome.armed hagrees' harmed⟩

/-- In every run the list is sorted by expiration, the list and the hash table hold the same entries, as
many as are counted, and the timer is pending for the first entry; after the timer no expired entry is
left. -/
theorem run_expiry (h : Trace.Run (next fns) (init start) es pmksa) :
    pmksa.Agrees ∧ pmksa.Armed ∧ ∀ (now : ClockTime) (registered : Bool) (pmksa' : PmksaCache),
      pmksa.next fns (now, .timer registered) = some pmksa' →
        ∀ entry ∈ pmksa'.pmksa, now.sec < entry.expiration := by
  obtain ⟨hagrees, harmed⟩ := run_agrees h
  refine ⟨hagrees, harmed, fun now registered pmksa' hnext => ?_⟩
  unfold PmksaCache.next at hnext
  split_ifs at hnext
  simp only [PmksaCache.call] at hnext
  split at hnext
  · exact absurd hnext (by simp)
  · split_ifs at hnext
    obtain rfl := Option.some.inj hnext
    have hpending : ({ pmksa with clock := now.toOsReltime, timer := none } : PmksaCache).Agrees :=
      ⟨hagrees.distinct, hagrees.hash, hagrees.count, hagrees.sorted⟩
    exact (hpending.expire registered).2

/-- A station is added at 0.7 s with a session of 10 s. -/
def oneStation : List (ClockTime × PmksaCall) :=
  [({ sec := 0, usec := 700000 }, .authAdd ⟨[1], some (Vector.replicate 16 1), none, Vector.replicate 6 0,
    Vector.replicate 6 1, 10, none, 1⟩ ⟨some 0, true, true, true⟩)]

/-- PMKIDs that depend on the key and on the address of the authenticator. -/
def examplePmkids : PmkidFunctions :=
  ⟨fun pmk aa _ _ => Vector.replicate 16 (pmk.headD 0 + aa[0]), fun kck _ _ => Vector.replicate 16 (kck.headD 0),
    fun kck _ _ => Vector.replicate 16 (kck.headD 0)⟩

theorem run_expiry_oneStation : ∃ pmksa,
    Trace.Run (next examplePmkids) (init { sec := 0, usec := 0 }) oneStation pmksa ∧ pmksa.pmksa.length = 1 ∧ pmksa.Agrees ∧ pmksa.Armed := by
  obtain ⟨pmksa, hexec⟩ : ∃ pmksa,
      Trace.exec (next examplePmkids) (init { sec := 0, usec := 0 }) oneStation = some pmksa :=
    ⟨_, rfl⟩
  have hrun := Trace.run_iff_exec.mpr hexec
  have hlength : (Trace.exec (next examplePmkids) (init { sec := 0, usec := 0 }) oneStation).map
      (·.pmksa.length) = some 1 := rfl
  obtain ⟨hagrees, harmed, -⟩ := run_expiry hrun
  exact ⟨pmksa, hrun, by simpa [hexec] using hlength, hagrees, harmed⟩

/-- The entry of another cache is copied at 11.5 s: it has expired, but its timer is only due at 11.7 s.
The timer for the copy is due at 12.5 s. -/
theorem addOkc_expired_late : ∃ (other pmksa : PmksaCache) (oldEntry entry : PmksaEntry) (due time : OsReltime)
    (now : ClockTime) (mem : PmksaMemory),
    Trace.Run (next examplePmkids) (init { sec := 0, usec := 0 }) oneStation other ∧
      other.pmksa = [oldEntry] ∧ other.timer = some due ∧ now.before due = true ∧
      Trace.Run (next examplePmkids) (init { sec := 0, usec := 0 })
        [(now, .addOkc oldEntry (Vector.replicate 16 2) mem)] pmksa ∧
      pmksa.armed = true ∧ pmksa.pmksa.head? = some entry ∧ pmksa.timer = some time ∧
      ¬ time.sec ≤ entry.expiration + 1 := by
  let oldEntry : PmksaEntry :=
    ⟨0, Vector.replicate 16 1, [1], 10, 1, Vector.replicate 6 1, none, none, false, 0⟩
  let entry : PmksaEntry :=
    ⟨0, Vector.replicate 16 2, [1], 10, 1, Vector.replicate 6 1, none, none, true, 0⟩
  refine ⟨_, _, oldEntry, entry, ⟨11, 700000⟩, ⟨12, 500000⟩, { sec := 11, usec := 500000 },
    ⟨some 0, true, true, true⟩, Trace.run_iff_exec.mpr rfl, rfl, rfl, by decide,
    Trace.run_iff_exec.mpr rfl, rfl, rfl, rfl, by decide⟩

end Run

/-! ## The size of the cache, and one entry for each station -/

/-- There are not more entries than allowed, and no two of the same station. -/
def Bounded (pmksa : PmksaCache) : Prop :=
  (pmksa.pmksa.length : ℤ) ≤ pmksaCacheMaxEntries ∧ KeyedList.Distinct PmksaEntry.spa pmksa.pmksa

/-- An entry is copied for opportunistic key caching only if the station has no entry in this cache and
there is room for one. -/
def OkcRoom (pmksa : PmksaCache) (e : ClockTime × PmksaCall) : Prop :=
  match e.2 with
  | .addOkc oldEntry _ mem => mem.zalloc ≠ none →
      oldEntry.spa ∉ pmksa.pmksa.map PmksaEntry.spa ∧ pmksa.pmksaCount < pmksaCacheMaxEntries
  | _ => True

section Bounded

variable {fns : PmkidFunctions} {start : ClockTime} {pmksa pmksa' : PmksaCache} {now : OsReltime}
  {es : List (ClockTime × PmksaCall)}

lemma Bounded.of_sublist (h : pmksa.Bounded) (hsub : pmksa'.pmksa.Sublist pmksa.pmksa) :
    pmksa'.Bounded := by
  refine ⟨?_, List.Nodup.sublist (hsub.map _) h.2⟩
  have hlength := hsub.length_le
  have hbound := h.1
  omega

/-- The entries after one is linked. -/
lemma bounded_linkEntry {entry : PmksaEntry} {registered : Bool} :
    (pmksa.linkEntry entry now registered).Bounded ↔ (pmksa.pmksa.length + 1 : ℤ) ≤ pmksaCacheMaxEntries ∧
      entry.spa ∉ pmksa.pmksa.map PmksaEntry.spa ∧ KeyedList.Distinct PmksaEntry.spa pmksa.pmksa := by
  have hperm : (pmksa.linkEntry entry now registered).pmksa.Perm (entry :: pmksa.pmksa) := linkEntry_perm
  have hnodup : KeyedList.Distinct PmksaEntry.spa (pmksa.linkEntry entry now registered).pmksa ↔
      KeyedList.Distinct PmksaEntry.spa (entry :: pmksa.pmksa) := (hperm.map _).nodup_iff
  rw [Bounded, hperm.length_eq, hnodup, KeyedList.Distinct, List.map_cons, List.nodup_cons, List.length_cons]
  push_cast
  rfl

/-- After the old entry of a station is freed there is none. -/
lemma Bounded.not_mem_remove (h : pmksa.Bounded) (hagrees : pmksa.Agrees) (spa : MacAddr) :
    spa ∉ (pmksa.remove spa).pmksa.map PmksaEntry.spa := by
  intro hmem
  obtain ⟨entry', hentry', rfl⟩ := List.mem_map.mp hmem
  unfold remove at hentry'
  split at hentry'
  · rename_i entry hget
    have hspa : entry.spa = entry'.spa := by simpa [eq_comm] using List.find?_some hget
    obtain ⟨hentry', hkey⟩ := (KeyedList.mem_remove hagrees.distinct entry.key).mp hentry'
    have heq := List.inj_on_of_nodup_map h.2 (List.mem_of_find?_eq_some hget) hentry' hspa
    exact hkey (congrArg PmksaEntry.key heq.symm)
  · rename_i hget
    have hnone := List.find?_eq_none.mp hget entry' hentry'
    simp at hnone

lemma Bounded.length_evictOldest (h : pmksa.Bounded) (hagrees : pmksa.Agrees) :
    (pmksa.evictOldest.pmksa.length + 1 : ℤ) ≤ pmksaCacheMaxEntries := by
  have hbound := h.1
  have hcount := hagrees.count
  unfold evictOldest
  split
  · rename_i hnil
    rw [hnil]
    decide
  · rename_i entry rest hlist
    split_ifs with hfull
    · have hentry : entry ∈ pmksa.pmksa := by
        rw [hlist]
        exact List.mem_cons_self
      have hfree := (hagrees.freeEntry hentry).count
      change pmksa.pmksaCount - 1 = _ at hfree
      omega
    · omega

/-- Only a copy for opportunistic key caching can break the bounds, and it does unless there is room. -/
lemma Outcome.bounded_iff {call : PmksaCall} (houtcome : Outcome pmksa now call pmksa')
    (hagrees : pmksa.Agrees) (h : pmksa.Bounded) (time : ClockTime) :
    pmksa'.Bounded ↔ OkcRoom pmksa (time, call) := by
  cases houtcome with
  | shrinks _ hshrinks hnone =>
    refine iff_of_true (h.of_sublist hshrinks.sublist) ?_
    unfold OkcRoom
    split
    · rename_i oldEntry pmkid mem hcall
      intro hmem
      exact absurd (hnone _ _ _ hcall) hmem
    · trivial
  | @added args mem entry hspa hnew =>
    refine iff_of_true (bounded_linkEntry.mpr ⟨?_, ?_, ?_⟩) trivial
    · have hremove := h.of_sublist (hagrees.remove args.spa).2.sublist
      exact hremove.length_evictOldest (hagrees.remove args.spa).1
    · rw [hspa]
      have hsub := (hagrees.remove args.spa).1.evictOldest.2.sublist.map PmksaEntry.spa
      exact fun hmem => h.not_mem_remove hagrees args.spa (hsub.subset hmem)
    · have hremove := h.of_sublist (hagrees.remove args.spa).2.sublist
      exact (hremove.of_sublist (hagrees.remove args.spa).1.evictOldest.2.sublist).2
  | @okc oldEntry pmkid mem ptr hptr hnew =>
    have hzalloc : mem.zalloc ≠ none := by simp [hptr]
    have hcount := hagrees.count
    rw [bounded_linkEntry]
    constructor
    · rintro ⟨hlength, hspa, -⟩ -
      exact ⟨hspa, by omega⟩
    · intro hroom
      obtain ⟨hspa, hlt⟩ := hroom hzalloc
      exact ⟨by omega, hspa, h.2⟩
  | @timer registered =>
    refine iff_of_true (h.of_sublist ?_) trivial
    rw [expire, setExpiration_pmksa]
    exact expireEntries_sublist _ _ _

/-- A run keeps the bounds in every state if and only if entries are copied for opportunistic key caching
only when there is room for them. -/
theorem run_bounded_iff (fns : PmkidFunctions) (start : ClockTime) (es : List (ClockTime × PmksaCall))
    (pmksa : PmksaCache) :
    Trace.RunWith (next fns) (fun pmksa e => ∀ pmksa', pmksa.next fns e = some pmksa' → pmksa'.Bounded)
        (init start) es pmksa ↔
      Trace.RunWith (next fns) OkcRoom (init start) es pmksa := by
  refine Trace.runWith_congr (I := fun pmksa => pmksa.Agrees ∧ pmksa.Bounded) ⟨?_, ?_⟩ ?_
  · exact init_agrees start
  · exact ⟨show (0 : ℤ) ≤ 1024 by decide, List.nodup_nil⟩
  · rintro pmksa₁ e pmksa₂ ⟨hagrees, hbounded⟩ hnext
    obtain ⟨hagrees', houtcome⟩ := hagrees.next_outcome hnext
    have hiff : pmksa₂.Bounded ↔ OkcRoom pmksa₁ e := houtcome.bounded_iff hagrees' hbounded e.1
    constructor
    · rw [← hiff]
      constructor
      · exact fun hall => hall pmksa₂ hnext
      · intro hbounded₂ pmksa' hnext'
        obtain rfl := Option.some.inj (hnext.symm.trans hnext')
        exact hbounded₂
    · exact fun hall => ⟨houtcome.agrees hagrees', hall pmksa₂ hnext⟩

/-- A station with an entry in this cache comes back with the PMKID of a key that it has agreed on with
another BSS in the meantime: there are two entries for it. -/
theorem addOkc_second_entry : ∃ (pmksa other pmksa' : PmksaCache) (oldEntry : PmksaEntry) (pmkid : Pmkid),
    Trace.Run (next examplePmkids) (init { sec := 0, usec := 0 }) oneStation pmksa ∧
      Trace.Run (next examplePmkids) (init { sec := 0, usec := 0 })
        [({ sec := 4, usec := 0 }, .authAdd ⟨[2], none, none, Vector.replicate 6 9, Vector.replicate 6 1, 10, none, 1⟩
          ⟨some 7, true, true, true⟩)] other ∧
      findOkc examplePmkids pmksa [pmksa, other] (Vector.replicate 6 0) (Vector.replicate 6 1) [pmkid] =
        some (oldEntry, pmkid) ∧
      pmksa.next examplePmkids ({ sec := 5, usec := 0 }, .addOkc oldEntry pmkid ⟨some 1, true, true, true⟩) =
        some pmksa' ∧
      pmksa'.pmksa.map PmksaEntry.spa = [Vector.replicate 6 1, Vector.replicate 6 1] ∧ ¬ pmksa'.Bounded := by
  let oldEntry : PmksaEntry :=
    ⟨7, Vector.replicate 16 11, [2], 14, 1, Vector.replicate 6 1, none, none, false, 0⟩
  refine ⟨_, _, _, oldEntry, Vector.replicate 16 2, Trace.run_iff_exec.mpr rfl, Trace.run_iff_exec.mpr rfl,
    rfl, rfl, rfl, fun h => ?_⟩
  have hdistinct := h.2
  rw [KeyedList.Distinct] at hdistinct
  exact absurd hdistinct (by decide)

end Bounded

end PmksaCache

end Ethanol
