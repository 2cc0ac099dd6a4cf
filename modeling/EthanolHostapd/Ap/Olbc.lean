import EthanolHostapd.Ap.ApList

/-!
# Overlapping legacy BSSs

A beacon sets the flags `olbc` and `olbc_ht` for one reason each, and `ap_list_timer` clears them when it finds no reason in
the table any more.  For `olbc` it looks for the same reason.  For `olbc_ht` it does not look at the channel, so an access
point that would not have set the flag can keep it set.
-/

namespace Ethanol

namespace HostapdIface

/-- The condition under which a beacon sets `olbc_ht`. -/
def apListBeaconOlbcHt (iface : HostapdIface) (ap : ApPtr) : Bool :=
  iface.conf.ieee80211n && !(iface.ap ap).htSupport &&
    ((iface.ap ap).channel = 0 || (iface.ap ap).channel = iface.conf.channel ||
      (iface.ap ap).channel = iface.conf.channel + iface.conf.secondaryChannel * 4)

lemma detectOlbc_olbcHt (iface : HostapdIface) (ap : ApPtr) :
    (iface.detectOlbc ap).olbcHt = (iface.olbcHt || iface.apListBeaconOlbcHt ap) := rfl

/-- There is an access point in the table for each flag that is set. -/
structure FlagsJustified (iface : HostapdIface) : Prop where
  olbc : iface.olbc = true → ∃ ap, iface.allocated ap = true ∧ iface.apListBeaconOlbc ap = true
  olbcHt : iface.olbcHt = true → ∃ ap, iface.allocated ap = true ∧ iface.apListBeaconOlbcHt ap = true

/-- The access point is in the table and has not expired. -/
structure KeptAt (iface : HostapdIface) (now : OsReltime) (ap : ApPtr) : Prop where
  allocated : iface.allocated ap = true
  not_expired : now.expired (iface.ap ap).lastBeacon iface.conf.apTableExpirationTime = false

/-- If `olbc_ht` is set and an access point without HT support has not expired, then one that sets the flag has not
expired. -/
def HtReasonKept (iface : HostapdIface) (now : OsReltime) : Prop :=
  iface.olbcHt = true → ∀ ap, iface.KeptAt now ap → (iface.ap ap).htSupport = false →
    ∃ ap', iface.KeptAt now ap' ∧ iface.apListBeaconOlbcHt ap' = true

/-- The condition on the state before an event. -/
def EventOk (iface : HostapdIface) : ApListEvent → Prop
  | .beacon .. => True
  | .timer now => iface.HtReasonKept now.toOsReltime

/-- What holds of every table: without HT the flag for HT is never set, and without room there are no entries. -/
structure Tabled (iface : HostapdIface) (l : List ApPtr) : Prop extends iface.Agrees l where
  noHt : iface.conf.ieee80211n = false → iface.olbcHt = false
  lru : 1 ≤ iface.conf.apTableMaxSize → iface.Lru l ∧ iface.Timely l
  noRoom : iface.conf.apTableMaxSize < 1 → l = []

section Flags

variable {iface iface' : HostapdIface} {l l' : List ApPtr}

lemma init_tabled (conf : ApListConfig) (start : ClockTime) : (init conf start).Tabled [] where
  toAgrees := ⟨RingList.represents_nil .., List.nodup_nil, ChainedHash.holds_nil, by simp [init], rfl⟩
  noHt _ := rfl
  lru hmax := init_lru conf start hmax
  noRoom _ := rfl

lemma heard_olbcHt (newAp : Bool) {ap : ApPtr} {elems : BeaconElems} {fi : Option ℤ} {now : OsReltime}
    (hn : iface.conf.ieee80211n = false) : (iface.heard ap newAp elems fi now).olbcHt = iface.olbcHt := by
  unfold heard
  dsimp only
  split_ifs <;> rw [detectOlbc_olbcHt, apListBeaconOlbcHt] <;> simp [setAp, apApListAdd, apApListDel, hn]

lemma apApAdd_flags {addr : MacAddr} {zalloc r : Option ApPtr} (hadd : iface.apApAdd addr zalloc = some (iface', r)) :
    iface'.conf = iface.conf ∧ iface'.olbcHt = iface.olbcHt := by
  unfold apApAdd at hadd
  split at hadd
  · obtain ⟨rfl, -⟩ := Prod.mk.inj (Option.some.inj hadd)
    exact ⟨rfl, rfl⟩
  · split at hadd
    · cases hadd
    · dsimp only at hadd
      split at hadd
      all_goals
        obtain ⟨rfl, -⟩ := Prod.mk.inj (Option.some.inj hadd)
        exact ⟨rfl, rfl⟩

lemma apListProcessBeacon_olbcHt {bssid : MacAddr} {elems : BeaconElems} {fi : Option ℤ} {now : OsReltime}
    {zalloc : Option ApPtr} (hn : iface.conf.ieee80211n = false)
    (hnext : iface.apListProcessBeacon bssid elems fi now zalloc = some iface') : iface'.olbcHt = iface.olbcHt := by
  rw [apListProcessBeacon] at hnext
  split at hnext
  · obtain rfl := Option.some.inj hnext
    rfl
  · split at hnext
    · obtain rfl := Option.some.inj hnext
      exact heard_olbcHt false hn
    · split at hnext
      · cases hnext
      · next hadd =>
        obtain rfl := Option.some.inj hnext
        exact (apApAdd_flags hadd).2
      · next hadd =>
        obtain rfl := Option.some.inj hnext
        obtain ⟨hconf, holbcHt⟩ := apApAdd_flags hadd
        rw [heard_olbcHt true (hconf ▸ hn), holbcHt]

lemma apListTimer_olbcHt {now : OsReltime} (h : iface.Agrees l) (hn : iface.conf.ieee80211n = false)
    (hnext : iface.apListTimer now = some iface') : iface'.olbcHt = iface.olbcHt := by
  by_cases hhead : iface.apList.head = none
  · rw [apListTimer, if_pos hhead] at hnext
    obtain rfl := Option.some.inj hnext
    rfl
  · obtain ⟨iface₁, l', hleft, heq⟩ := @apListTimer_expired iface l now h hhead
    rw [heq, clearOlbc_eq hleft.toAgrees, hleft.conf] at hnext
    obtain rfl := Option.some.inj hnext
    simp only [hn, Bool.false_eq_true, if_false]
    exact hleft.olbcHt

/-- Without HT an event leaves `olbc_ht` as it is. -/
lemma next_olbcHt (h : iface.Agrees l) {e : ApListEvent} (hn : iface.conf.ieee80211n = false)
    (hnext : iface.next e = some iface') : iface'.olbcHt = iface.olbcHt := by
  have h' : ({ iface with clock := e.now.toOsReltime }).Agrees l :=
    ⟨h.list, h.distinct, h.hash, h.allocated, h.num⟩
  cases e with
  | beacon bssid elems fi now zalloc =>
    unfold next at hnext
    split at hnext
    · cases hnext
    · exact @apListProcessBeacon_olbcHt { iface with clock := now.toOsReltime } iface' _ _ _ _ _ hn hnext
  | timer now =>
    unfold next at hnext
    split at hnext
    · cases hnext
    · exact @apListTimer_olbcHt { iface with clock := now.toOsReltime } iface' l _ h' hn hnext

lemma Tabled.next (h : iface.Tabled l) {e : ApListEvent} (hnext : iface.next e = some iface') :
    iface'.conf = iface.conf ∧ ∃ l', iface'.Tabled l' := by
  have holbcHt (hn : iface.conf.ieee80211n = false) : iface'.olbcHt = iface.olbcHt := next_olbcHt h.toAgrees hn hnext
  by_cases hmax : 1 ≤ iface.conf.apTableMaxSize
  · obtain ⟨l', hstep⟩ := next_step hmax (h.lru hmax).1 (h.lru hmax).2 hnext
    refine ⟨hstep.conf, l', hstep.lru.toAgrees, fun hn => ?_, fun _ => ⟨hstep.lru, hstep.timely⟩, fun hlt => ?_⟩
    · rw [hstep.conf] at hn
      rw [holbcHt hn, h.noHt hn]
    · rw [hstep.conf] at hlt
      omega
  · obtain rfl := h.noRoom (by omega)
    have hhead := h.list.eq_nil_iff.mp rfl
    -- nothing but the clock changes
    obtain rfl : { iface with clock := e.now.toOsReltime } = iface' := by
      unfold HostapdIface.next at hnext
      split at hnext
      · cases hnext
      · dsimp only at hnext
        split at hnext
        · rw [apListProcessBeacon, if_pos (by dsimp only; omega)] at hnext
          exact Option.some.inj hnext
        · rw [apListTimer, if_pos hhead] at hnext
          exact Option.some.inj hnext
    exact ⟨rfl, [], ⟨h.list, h.distinct, h.hash, h.allocated, h.num⟩, h.noHt, fun hle => absurd hle hmax, fun _ => rfl⟩

/-- The entries that the timer leaves. -/
lemma Expired.mem_iff {now : ClockTime} (hleft : Expired iface iface' l now.toOsReltime l') (h : iface.Lru l)
    (ht : iface.Timely l) (ap : ApPtr) : ap ∈ l' ↔ iface.KeptAt now.toOsReltime ap := by
  constructor
  · intro hmem
    have hl := hleft.isPrefix.subset hmem
    have hlru := h.of_prefix hleft.toAgrees hleft.isPrefix hleft.ap hleft.conf
    have hfresh : iface'.Fresh l' now := by
      refine hlru.fresh (fun ap hap => ?_) fun ap hlast => ?_
      · rw [hleft.ap]
        exact ht.normalized ap (hleft.isPrefix.subset hap)
      · rw [hleft.ap, hleft.conf]
        exact hleft.kept ap hlast
    refine ⟨(h.allocated ap).mpr hl, ?_⟩
    have hage := hfresh ap hmem
    rw [lastBeacon, hleft.ap, hleft.conf] at hage
    rw [Bool.eq_false_iff, Ne, OsReltime.expired_iff now.normalized (ht.normalized ap hl), not_lt]
    exact hage
  · rintro ⟨hap, hfresh⟩
    by_contra hgone
    rw [hleft.gone ap ((h.allocated ap).mp hap) hgone] at hfresh
    cases hfresh

/-- After the timer the flags are justified exactly if the condition was met before. -/
lemma Tabled.timer (h : iface.Tabled l) {now : ClockTime} (hne : iface.apList.head ≠ none)
    (hnext : iface.next (.timer now) = some iface') :
    iface'.FlagsJustified ↔ iface.HtReasonKept now.toOsReltime := by
  have hmax : 1 ≤ iface.conf.apTableMaxSize := by
    by_contra hlt
    obtain rfl := h.noRoom (by omega)
    exact hne (h.list.eq_nil_iff.mp rfl)
  obtain ⟨hlru, htimely⟩ := h.lru hmax
  unfold HostapdIface.next at hnext
  split at hnext
  · cases hnext
  rename_i hclock
  have hle : iface.clock.toUsec ≤ now.toUsec := by
    rwa [ApListEvent.now, OsReltime.before_iff now.normalized htimely.clock, not_lt] at hclock
  change ({ iface with clock := now.toOsReltime }).apListTimer now.toOsReltime = some iface' at hnext
  have hlru' := hlru.setClock now.toOsReltime
  obtain ⟨iface₁, l', hleft, heq⟩ := @apListTimer_expired _ l now.toOsReltime hlru'.toAgrees hne
  have hmem : ∀ ap, ap ∈ l' ↔ iface.KeptAt now.toOsReltime ap := fun ap =>
    (hleft.mem_iff hlru' (htimely.setClock now.normalized hle) ap).trans ⟨fun hk => ⟨hk.1, hk.2⟩, fun hk => ⟨hk.1, hk.2⟩⟩
  rw [heq, clearOlbc_eq hleft.toAgrees] at hnext
  obtain rfl := Option.some.inj hnext
  have hap : iface₁.ap = iface.ap := hleft.ap
  have hconf : iface₁.conf = iface.conf := hleft.conf
  have holbcHt : iface₁.olbcHt = iface.olbcHt := hleft.olbcHt
  have hkeptAt : ∀ ap, iface₁.allocated ap = true ↔ iface.KeptAt now.toOsReltime ap := fun ap =>
    (hleft.allocated ap).trans (hmem ap)
  have hreason : ∀ ap, iface₁.apListBeaconOlbcHt ap = iface.apListBeaconOlbcHt ap := by
    intro ap
    rw [apListBeaconOlbcHt, apListBeaconOlbcHt, hap, hconf]
  cases hn : iface₁.conf.ieee80211n with
  | false =>
    have hunset : iface.olbcHt = false := h.noHt (hconf ▸ hn)
    refine iff_of_true ⟨fun hset => ?_, fun hset => ?_⟩ fun hset => ?_
    · obtain ⟨ap, hmem', hap'⟩ := List.any_eq_true.mp (Bool.and_eq_true_iff.mp hset).2
      exact ⟨ap, (hleft.allocated ap).mpr hmem', hap'⟩
    · simp [holbcHt, hunset] at hset
    · rw [hunset] at hset
      cases hset
  | true =>
    constructor
    · intro hflags hset ap hkept hht
      have hany : l'.any (fun ap => !(iface₁.ap ap).htSupport) = true :=
        List.any_eq_true.mpr ⟨ap, (hmem ap).mpr hkept, by rw [hap, hht]; rfl⟩
      obtain ⟨ap', hap', hreason'⟩ := hflags.olbcHt (by simp [holbcHt, hset, hany])
      exact ⟨ap', (hkeptAt ap').mp hap', (hreason ap').symm.trans hreason'⟩
    · intro hkept
      refine ⟨fun hset => ?_, fun hset => ?_⟩
      · obtain ⟨ap, hmem', hap'⟩ := List.any_eq_true.mp (Bool.and_eq_true_iff.mp hset).2
        exact ⟨ap, (hleft.allocated ap).mpr hmem', hap'⟩
      · simp only [if_true] at hset
        obtain ⟨hset, hany⟩ := Bool.and_eq_true_iff.mp hset
        obtain ⟨ap, hmem', hht⟩ := List.any_eq_true.mp hany
        rw [hap, Bool.not_eq_true'] at hht
        obtain ⟨ap', hkept', hreason'⟩ := hkept (holbcHt.symm.trans hset) ap ((hmem ap).mp hmem') hht
        exact ⟨ap', (hkeptAt ap').mpr hkept', (hreason ap').trans hreason'⟩

end Flags

/-- In every run all timers leave flags that are justified if and only if at each of them `olbc_ht` is not set, or no access
point without HT support has not expired, or one that sets the flag has not expired. -/
theorem run_flagsJustified_iff {conf : ApListConfig} {start : ClockTime} {es : List ApListEvent} {iface : HostapdIface}
    (h : Trace.Run next (init conf start) es iface) :
    (∀ es₁ now iface₁ iface₂, es₁ ++ [.timer now] <+: es → Trace.Run next (init conf start) es₁ iface₁ →
        iface₁.next (.timer now) = some iface₂ → iface₁.apList.head ≠ none → iface₂.FlagsJustified) ↔
      Trace.RunWith next EventOk (init conf start) es iface := by
  refine Iff.trans ?_ (h.forall_steps_iff_runWith (J := fun iface => ∃ l, iface.Tabled l)
    (P := fun iface₁ e iface₂ => ∀ now, e = .timer now → iface₁.apList.head ≠ none → iface₂.FlagsJustified)
    ⟨[], init_tabled conf start⟩ ?_)
  · constructor
    · rintro hall es₁ e iface₁ iface₂ hpre hrun hnext now rfl hne
      exact hall es₁ now iface₁ iface₂ hpre hrun hnext hne
    · intro hall es₁ now iface₁ iface₂ hpre hrun hnext hne
      exact hall es₁ _ iface₁ iface₂ hpre hrun hnext now rfl hne
  · rintro iface₁ e iface₂ ⟨l, htabled⟩ hnext
    refine ⟨(htabled.next hnext).2, ?_⟩
    cases e with
    | beacon bssid elems fi now zalloc => exact iff_of_true (fun now heq => by cases heq) trivial
    | timer now =>
      by_cases hne : iface₁.apList.head = none
      · -- nothing happens to an empty table
        obtain rfl := htabled.list.eq_nil_iff.mpr hne
        refine iff_of_true (fun _ _ hsome => absurd hne hsome) fun _ ap hkept => ?_
        exact absurd ((htabled.allocated ap).mp hkept.allocated) (by simp)
      · rw [EventOk, ← htabled.timer hne hnext]
        exact ⟨fun hall => hall now rfl hne, fun hflags _ _ _ => hflags⟩

/-- A run that ends with a timer. -/
lemma run_flagsJustified_iff_beacon : ∃ (conf : ApListConfig) (start : ClockTime) (es : List ApListEvent)
    (iface : HostapdIface), es.length = 2 ∧ Trace.Run next (init conf start) es iface ∧
      ((∀ es₁ now iface₁ iface₂, es₁ ++ [.timer now] <+: es → Trace.Run next (init conf start) es₁ iface₁ →
        iface₁.next (.timer now) = some iface₂ → iface₁.apList.head ≠ none → iface₂.FlagsJustified) ↔
      Trace.RunWith next EventOk (init conf start) es iface) := by
  let conf : ApListConfig := ⟨10, 60, 6, 0, true, true⟩
  let start : ClockTime := { sec := 0, usec := 0 }
  let es : List ApListEvent := [.beacon (Vector.replicate 6 1) ⟨none, none, none, some 6, none, false⟩ none
    { sec := 1, usec := 0 } (some 0), .timer { sec := 2, usec := 0 }]
  obtain ⟨iface, hexec⟩ : ∃ iface, Trace.exec next (init conf start) es = some iface :=
    Option.isSome_iff_exists.mp (by decide)
  have hrun := Trace.run_iff_exec.mpr hexec
  exact ⟨conf, start, es, iface, rfl, hrun, run_flagsJustified_iff hrun⟩

/-- An access point without HT on the own channel sets `olbc_ht` and expires, and one on another channel keeps it set. -/
theorem olbcHt_kept : ∃ (conf : ApListConfig) (start : ClockTime) (es : List ApListEvent) (now : ClockTime)
    (iface iface' : HostapdIface), Trace.Run next (init conf start) es iface ∧ iface.apList.head ≠ none ∧
      iface.next (.timer now) = some iface' ∧ iface'.olbcHt = true ∧
        ∀ ap, iface'.allocated ap = true → iface'.apListBeaconOlbcHt ap = false := by
  let conf : ApListConfig := ⟨10, 60, 6, 0, true, true⟩
  let start : ClockTime := { sec := 0, usec := 0 }
  let elems (channel : UInt8) : BeaconElems := ⟨none, none, none, some channel, none, false⟩
  let es : List ApListEvent := [.beacon (Vector.replicate 6 1) (elems 6) none { sec := 1, usec := 0 } (some 0),
    .beacon (Vector.replicate 6 2) (elems 11) none { sec := 50, usec := 0 } (some 1)]
  let now : ClockTime := { sec := 70, usec := 0 }
  have hfirst : (Trace.exec next (init conf start) es).map (fun iface => iface.apList.head) = some (some 1) := by decide
  have hsecond : (Trace.exec next (init conf start) (es ++ [.timer now])).map (fun iface =>
      (iface.numAp, iface.apList.head, iface.olbcHt, iface.apListBeaconOlbcHt 1)) = some (1, some 1, true, false) := by
    decide
  obtain ⟨iface, hexec, hhead⟩ := Option.map_eq_some_iff.mp hfirst
  obtain ⟨iface', hexec', heq⟩ := Option.map_eq_some_iff.mp hsecond
  simp only [Prod.mk.injEq] at heq
  obtain ⟨hnum, hhead', hset, hreason⟩ := heq
  have hnext := hexec'
  rw [Trace.exec_concat, hexec, Option.bind_some] at hnext
  obtain ⟨l, htabled⟩ := (Trace.run_iff_exec.mpr hexec').invariant (I := fun iface => ∃ l, iface.Tabled l)
    ⟨[], init_tabled conf start⟩ fun _ _ _ ⟨_, htabled⟩ hnext => (htabled.next hnext).2
  refine ⟨conf, start, es, now, iface, iface', Trace.run_iff_exec.mpr hexec, ?_, hnext, hset, fun ap hap => ?_⟩
  · rw [hhead]
    simp
  · have hlength := htabled.num
    have hfront := htabled.list.head_eq
    rw [hnum] at hlength
    rw [hhead'] at hfront
    obtain ⟨ap', rfl⟩ := List.length_eq_one_iff.mp (by omega : l.length = 1)
    obtain rfl : 1 = ap' := by simpa using hfront
    obtain rfl : ap = 1 := by simpa using (htabled.allocated ap).mp hap
    exact hreason

end HostapdIface

end Ethanol
