import EthanolHostapd.Traces.Run
import Mathlib.Data.UInt

/-!
# Accounting of octets

The reports of `accounting.c` on the bytes that a station has sent and received.  A driver may have counters of 32 bits only.
They are read at least every time a report is made and otherwise by a timer, and a counter that is smaller than it was at the
last reading is taken to have wrapped around once.

The driver is modelled with the numbers of bytes that it would have counted with counters that never wrap.
-/

namespace Ethanol

/-! ## The code -/

/-- `struct hostap_sta_driver_data`. -/
structure HostapStaDriverData where
  rxPackets : UInt64
  txPackets : UInt64
  rxBytes : UInt64
  txBytes : UInt64
  bytes64bit : Bool

/-- The part of `struct sta_info` that is about accounting. -/
structure StaAcct where
  acctSessionStarted : Bool
  acctInterimInterval : ℕ
  acctTerminateCause : UInt32
  lastRxBytesHi : UInt32
  lastRxBytesLo : UInt32
  lastTxBytesHi : UInt32
  lastTxBytesLo : UInt32
  deriving DecidableEq

/-- `RADIUS_ATTR_ACCT_INPUT_OCTETS`. -/
def radiusAttrAcctInputOctets : UInt8 := 42

/-- `RADIUS_ATTR_ACCT_OUTPUT_OCTETS`. -/
def radiusAttrAcctOutputOctets : UInt8 := 43

/-- `RADIUS_ATTR_ACCT_SESSION_TIME`. -/
def radiusAttrAcctSessionTime : UInt8 := 46

/-- `RADIUS_ATTR_ACCT_INPUT_PACKETS`. -/
def radiusAttrAcctInputPackets : UInt8 := 47

/-- `RADIUS_ATTR_ACCT_OUTPUT_PACKETS`. -/
def radiusAttrAcctOutputPackets : UInt8 := 48

/-- `RADIUS_ATTR_ACCT_TERMINATE_CAUSE`. -/
def radiusAttrAcctTerminateCause : UInt8 := 49

/-- `RADIUS_ATTR_ACCT_INPUT_GIGAWORDS`. -/
def radiusAttrAcctInputGigawords : UInt8 := 52

/-- `RADIUS_ATTR_ACCT_OUTPUT_GIGAWORDS`. -/
def radiusAttrAcctOutputGigawords : UInt8 := 53

/-- `RADIUS_ACCT_TERMINATE_CAUSE_ADMIN_REBOOT`. -/
def radiusAcctTerminateCauseAdminReboot : UInt32 := 7

/-- An interim or stop report, with the attributes that `accounting_sta_report` adds. -/
structure AcctReport where
  stop : Bool
  attrs : List (UInt8 × UInt32)
  deriving DecidableEq

namespace StaAcct

variable (sta : StaAcct)

/-- `accounting_sta_update_stats`, when the driver has been read. -/
def updateStats (data : HostapStaDriverData) : StaAcct :=
  if data.bytes64bit then sta
  else { sta with
    lastRxBytesHi := if data.rxBytes < sta.lastRxBytesLo.toUInt64 then sta.lastRxBytesHi + 1 else sta.lastRxBytesHi
    lastRxBytesLo := data.rxBytes.toUInt32
    lastTxBytesHi := if data.txBytes < sta.lastTxBytesLo.toUInt64 then sta.lastTxBytesHi + 1 else sta.lastTxBytesHi
    lastTxBytesLo := data.txBytes.toUInt32 }

/-- The bytes that were received, as they are reported. -/
def inputBytes (data : HostapStaDriverData) : UInt64 :=
  if data.bytes64bit then data.rxBytes else sta.lastRxBytesHi.toUInt64 <<< 32 ||| sta.lastRxBytesLo.toUInt64

/-- The bytes that were sent, as they are reported. -/
def outputBytes (data : HostapStaDriverData) : UInt64 :=
  if data.bytes64bit then data.txBytes else sta.lastTxBytesHi.toUInt64 <<< 32 ||| sta.lastTxBytesLo.toUInt64

/-- The attributes that are only added when the driver has been read. -/
def statAttrs (data : HostapStaDriverData) : List (UInt8 × UInt32) :=
  [(radiusAttrAcctInputPackets, data.rxPackets.toUInt32), (radiusAttrAcctOutputPackets, data.txPackets.toUInt32),
    (radiusAttrAcctInputOctets, (sta.inputBytes data).toUInt32),
    (radiusAttrAcctInputGigawords, (sta.inputBytes data >>> 32).toUInt32),
    (radiusAttrAcctOutputOctets, (sta.outputBytes data).toUInt32),
    (radiusAttrAcctOutputGigawords, (sta.outputBytes data >>> 32).toUInt32)]

/-- The attribute that is only added to a stop report. -/
def causeAttrs (stop eloopTerminated : Bool) : List (UInt8 × UInt32) :=
  let cause := if eloopTerminated then radiusAcctTerminateCauseAdminReboot else sta.acctTerminateCause
  if stop && cause ≠ 0 then [(radiusAttrAcctTerminateCause, cause)] else []

end StaAcct

/-- The driver: the bytes that it has counted since its counters were cleared, and those that it had counted when it was
read last. -/
structure StaDriver where
  rxBytes : ℕ
  txBytes : ℕ
  rxRead : ℕ
  txRead : ℕ
  deriving DecidableEq

/-- A station with its driver and the timer of `accounting_interim_update`. -/
structure AcctSta where
  acctServer : Bool
  sta : StaAcct
  interimTimer : Bool
  driver : StaDriver
  deriving DecidableEq

/-- What a report is made with: whether `accounting_msg` makes a message, the numbers of packets if the driver can be read,
the length of the session and whether the program is about to end. -/
structure ReportEnv where
  accountingMsg : Bool
  packets : Option (UInt64 × UInt64)
  sessionTime : UInt32
  eloopTerminated : Bool

/-- `hostapd_drv_read_sta_data` with counters of 32 bits. -/
def StaDriver.hostapdDrvReadStaData (driver : StaDriver) (packets : Option (UInt64 × UInt64)) :
    Option (HostapStaDriverData × StaDriver) :=
  packets.map fun packets =>
    (⟨packets.1, packets.2, UInt64.ofNat (driver.rxBytes % 2 ^ 32), UInt64.ofNat (driver.txBytes % 2 ^ 32), false⟩,
      { driver with rxRead := driver.rxBytes, txRead := driver.txBytes })

/-- `hostapd_drv_sta_clear_stats`. -/
def StaDriver.hostapdDrvStaClearStats (_ : StaDriver) : StaDriver := ⟨0, 0, 0, 0⟩

namespace AcctSta

variable (s : AcctSta)

/-- `accounting_sta_update_stats`; the return of -1 is `none`. -/
def accountingStaUpdateStats (packets : Option (UInt64 × UInt64)) : Option (HostapStaDriverData × AcctSta) :=
  (s.driver.hostapdDrvReadStaData packets).map fun (data, driver) =>
    (data, { s with sta := s.sta.updateStats data, driver := driver })

/-- `accounting_sta_report`. -/
def accountingStaReport (stop : Bool) (env : ReportEnv) : AcctSta × Option AcctReport :=
  if !s.acctServer then (s, none)
  else if !env.accountingMsg then (s, none)
  else
    match s.accountingStaUpdateStats env.packets with
    | some (data, s) => (s, some ⟨stop, (radiusAttrAcctSessionTime, env.sessionTime) :: s.sta.statAttrs data ++
        s.sta.causeAttrs stop env.eloopTerminated⟩)
    | none => (s, some ⟨stop, (radiusAttrAcctSessionTime, env.sessionTime) ::
        s.sta.causeAttrs stop env.eloopTerminated⟩)

/-- `accounting_sta_interim`. -/
def accountingStaInterim (env : ReportEnv) : AcctSta × Option AcctReport :=
  if s.sta.acctSessionStarted then s.accountingStaReport false env else (s, none)

/-- `accounting_interim_update`, which starts its timer again. -/
def accountingInterimUpdate (env : ReportEnv) : AcctSta × Option AcctReport :=
  if s.sta.acctInterimInterval ≠ 0 then s.accountingStaInterim env
  else (((s.accountingStaUpdateStats env.packets).map Prod.snd).getD s, none)

/-- `accounting_sta_start`. -/
def accountingStaStart : AcctSta :=
  if s.sta.acctSessionStarted then s
  else
    let s := { s with
      sta := { s.sta with lastRxBytesHi := 0, lastRxBytesLo := 0, lastTxBytesHi := 0, lastTxBytesLo := 0 }
      driver := s.driver.hostapdDrvStaClearStats }
    if !s.acctServer then s else { s with sta := { s.sta with acctSessionStarted := true }, interimTimer := true }

/-- `accounting_sta_stop`. -/
def accountingStaStop (env : ReportEnv) : AcctSta × Option AcctReport :=
  if s.sta.acctSessionStarted then
    let (s, report) := s.accountingStaReport true env
    ({ s with sta := { s.sta with acctSessionStarted := false }, interimTimer := false }, report)
  else (s, none)

end AcctSta

/-- What happens: the driver counts bytes, an Access-Accept sets the interval, a reason for the end of the session is noted,
accounting starts, its timer expires, or it ends. -/
inductive AcctEvent
  | traffic (rx tx : ℕ)
  | interval (acctInterimInterval : ℕ)
  | cause (acctTerminateCause : UInt32)
  | start
  | interimUpdate (env : ReportEnv)
  | stop (env : ReportEnv)

namespace AcctSta

/-- An event, with the report that is made. -/
def step (s : AcctSta) : AcctEvent → Option (AcctSta × Option AcctReport)
  | .traffic rx tx =>
    some ({ s with driver := { s.driver with rxBytes := s.driver.rxBytes + rx, txBytes := s.driver.txBytes + tx } }, none)
  | .interval acctInterimInterval => some ({ s with sta := { s.sta with acctInterimInterval } }, none)
  | .cause acctTerminateCause => some ({ s with sta := { s.sta with acctTerminateCause } }, none)
  | .start => some (s.accountingStaStart, none)
  | .interimUpdate env => if s.interimTimer then some (s.accountingInterimUpdate env) else none
  | .stop env => some (s.accountingStaStop env)

/-- The state after an event. -/
def next (s : AcctSta) (e : AcctEvent) : Option AcctSta := (s.step e).map Prod.fst

/-- A station that has just been added. -/
def init (acctServer : Bool) (driver : StaDriver) : AcctSta := ⟨acctServer, ⟨false, 0, 0, 0, 0, 0, 0⟩, false, driver⟩

/-! ## The counters -/

/-- The driver is read in an event. -/
def Reads (s : AcctSta) : AcctEvent → Bool
  | .interimUpdate env =>
    env.packets.isSome && (s.sta.acctInterimInterval = 0 || (s.sta.acctSessionStarted && s.acctServer && env.accountingMsg))
  | .stop env => env.packets.isSome && s.sta.acctSessionStarted && s.acctServer && env.accountingMsg
  | _ => false

/-- When the driver is read, it has counted less than 2³² bytes since it was read before. -/
def ReadInTime (s : AcctSta) (e : AcctEvent) : Prop :=
  s.Reads e = true → s.driver.rxBytes < s.driver.rxRead + 2 ^ 32 ∧ s.driver.txBytes < s.driver.txRead + 2 ^ 32

instance (s : AcctSta) (e : AcctEvent) : Decidable (s.ReadInTime e) := inferInstanceAs (Decidable (_ → _))

/-- The number of bytes that two attributes of a report stand for. -/
def reportedBytes (report : AcctReport) (octets gigawords : UInt8) : Option ℕ :=
  (report.attrs.lookup octets).bind fun lo => (report.attrs.lookup gigawords).map fun hi => hi.toNat * 2 ^ 32 + lo.toNat

/-- The two halves of a counter are what the driver had counted when it was read, modulo 2⁶⁴. -/
structure Counted (hi lo : UInt32) (read bytes : ℕ) : Prop where
  eq : hi.toNat * 2 ^ 32 + lo.toNat = read % 2 ^ 64
  le : read ≤ bytes

/-- Both counters are right. -/
structure Tracked (s : AcctSta) : Prop where
  rx : Counted s.sta.lastRxBytesHi s.sta.lastRxBytesLo s.driver.rxRead s.driver.rxBytes
  tx : Counted s.sta.lastTxBytesHi s.sta.lastTxBytesLo s.driver.txRead s.driver.txBytes

/-- The timer only runs in a session, and in a session the counters are right. -/
structure Sound (s : AcctSta) : Prop where
  timer : s.interimTimer = true → s.sta.acctSessionStarted = true
  tracked : s.sta.acctSessionStarted = true → s.Tracked

/-- A number that advances by less than `2 ^ 32` passes a multiple of it once at most, and then its lower half is smaller. -/
lemma half_mod {hi lo read bytes : ℕ} (heq : hi * 2 ^ 32 + lo = read % 2 ^ 64) (hlo : lo < 2 ^ 32) (hle : read ≤ bytes)
    (hlt : bytes < read + 2 ^ 32) :
    (if bytes % 2 ^ 32 < lo then (hi + 1) % 2 ^ 32 else hi) * 2 ^ 32 + bytes % 2 ^ 32 = bytes % 2 ^ 64 := by
  have hsplit (n : ℕ) : n % 2 ^ 64 = n % 2 ^ 32 + 2 ^ 32 * (n / 2 ^ 32 % 2 ^ 32) := by rw [← Nat.mod_mul, ← pow_add]
  rw [hsplit] at heq ⊢
  have hhi : hi = read / 2 ^ 32 % 2 ^ 32 := by omega
  split_ifs with hwrap
  · have hnext : bytes / 2 ^ 32 = read / 2 ^ 32 + 1 := by omega
    rw [hnext, hhi, Nat.mod_add_mod, Nat.mul_comm, Nat.add_comm]
  · have hsame : bytes / 2 ^ 32 = read / 2 ^ 32 := by omega
    rw [hsame, hhi, Nat.mul_comm, Nat.add_comm]

section Counters

variable {hi lo : UInt32} {read bytes : ℕ}

lemma counted_zero : Counted 0 0 0 0 := ⟨by rw [UInt32.toNat_zero, Nat.zero_mul, Nat.zero_mod], le_rfl⟩

/-- A reading of a counter of 32 bits is extended to 64 bits. -/
lemma Counted.extend (h : Counted hi lo read bytes) (hlt : bytes < read + 2 ^ 32) :
    Counted (if UInt64.ofNat (bytes % 2 ^ 32) < lo.toUInt64 then hi + 1 else hi) (UInt64.ofNat (bytes % 2 ^ 32)).toUInt32
      bytes bytes := by
  refine ⟨?_, le_rfl⟩
  obtain ⟨heq, hle⟩ := h
  have hlo := lo.toNat_lt
  have hdata : (UInt64.ofNat (bytes % 2 ^ 32)).toNat = bytes % 2 ^ 32 := by
    rw [UInt64.toNat_ofNat']
    omega
  have hlow : (UInt64.ofNat (bytes % 2 ^ 32)).toUInt32.toNat = bytes % 2 ^ 32 := by
    rw [UInt64.toNat_toUInt32, hdata, Nat.mod_mod]
  have hwrap : UInt64.ofNat (bytes % 2 ^ 32) < lo.toUInt64 ↔ bytes % 2 ^ 32 < lo.toNat := by
    rw [UInt64.lt_iff_toNat_lt, hdata, UInt32.toNat_toUInt64]
  have hhigh : (if bytes % 2 ^ 32 < lo.toNat then hi + 1 else hi).toNat =
      if bytes % 2 ^ 32 < lo.toNat then (hi.toNat + 1) % 2 ^ 32 else hi.toNat := by
    split_ifs
    · rw [UInt32.toNat_add, UInt32.toNat_one]
    · rfl
  simp only [hwrap, hhigh, hlow]
  exact half_mod heq hlo hle hlt

/-- The two halves of a number of 64 bits. -/
lemma toNat_halves (hi lo : UInt32) : (hi.toUInt64 <<< 32 ||| lo.toUInt64).toNat = hi.toNat * 2 ^ 32 + lo.toNat := by
  have hlo := lo.toNat_lt
  have hhi := hi.toNat_lt
  have hcount : (32 : UInt64).toNat % 64 = 32 := rfl
  have hshift : hi.toNat <<< 32 % 2 ^ 64 = 2 ^ 32 * hi.toNat := by
    rw [Nat.shiftLeft_eq, Nat.mul_comm, Nat.mod_eq_of_lt (by omega)]
  rw [UInt64.toNat_or, UInt64.toNat_shiftLeft, UInt32.toNat_toUInt64, UInt32.toNat_toUInt64, hcount, hshift,
    ← Nat.two_pow_add_eq_or_of_lt hlo, Nat.mul_comm]

lemma halves_toNat (n : UInt64) : (n >>> 32).toUInt32.toNat * 2 ^ 32 + n.toUInt32.toNat = n.toNat := by
  have hn := n.toNat_lt
  have hcount : (32 : UInt64).toNat % 64 = 32 := rfl
  rw [UInt64.toNat_toUInt32, UInt64.toNat_toUInt32, UInt64.toNat_shiftRight, hcount, Nat.shiftRight_eq_div_pow,
    Nat.mod_eq_of_lt (by omega)]
  omega

end Counters

section Step

variable {s s' : AcctSta} {e : AcctEvent}

/-- The driver has counted less than 2³² bytes since it was read. -/
def Near (s : AcctSta) : Prop :=
  s.driver.rxBytes < s.driver.rxRead + 2 ^ 32 ∧ s.driver.txBytes < s.driver.txRead + 2 ^ 32

/-- What a reading changes, and what it gives. -/
structure Updated (s : AcctSta) (data : HostapStaDriverData) (s' : AcctSta) : Prop where
  started : s'.sta.acctSessionStarted = s.sta.acctSessionStarted
  timer : s'.interimTimer = s.interimTimer
  rxBytes : s'.driver.rxBytes = s.driver.rxBytes
  txBytes : s'.driver.txBytes = s.driver.txBytes
  tracked : s.Tracked → s.Near → s'.Tracked ∧ (s'.sta.inputBytes data).toNat = s.driver.rxBytes % 2 ^ 64 ∧
    (s'.sta.outputBytes data).toNat = s.driver.txBytes % 2 ^ 64

lemma updated_of_accountingStaUpdateStats {packets : Option (UInt64 × UInt64)} {data : HostapStaDriverData}
    (h : s.accountingStaUpdateStats packets = some (data, s')) : s.Updated data s' := by
  obtain ⟨⟨data', driver⟩, hread, heq⟩ := Option.map_eq_some_iff.mp h
  obtain ⟨packets', rfl, hdata⟩ := Option.map_eq_some_iff.mp hread
  obtain ⟨rfl, rfl⟩ := Prod.mk.inj hdata
  obtain ⟨rfl, rfl⟩ := Prod.mk.inj heq
  refine ⟨rfl, rfl, rfl, rfl, fun htracked hnear => ?_⟩
  have hrx := htracked.rx.extend hnear.1
  have htx := htracked.tx.extend hnear.2
  exact ⟨⟨hrx, htx⟩, (toNat_halves _ _).trans hrx.eq, (toNat_halves _ _).trans htx.eq⟩

/-- What a function does that reads the driver if `reads` holds and may make a report. -/
structure Done (s : AcctSta) (reads : Bool) (res : AcctSta × Option AcctReport) : Prop where
  state : res.1 = s ∨ ∃ data, reads = true ∧ s.Updated data res.1
  report : ∀ report ∈ res.2, s.Tracked → (reads = true → s.Near) →
    (reportedBytes report radiusAttrAcctInputOctets radiusAttrAcctInputGigawords =
        if reads then some (s.driver.rxBytes % 2 ^ 64) else none) ∧
      reportedBytes report radiusAttrAcctOutputOctets radiusAttrAcctOutputGigawords =
        if reads then some (s.driver.txBytes % 2 ^ 64) else none

lemma done_skip (s : AcctSta) (reads : Bool) : s.Done reads (s, none) := ⟨Or.inl rfl, by simp⟩

/-- The attributes of a report that are about bytes. -/
lemma reportedBytes_statAttrs (sta : StaAcct) (data : HostapStaDriverData) (stop : Bool) (sessionTime : UInt32)
    (rest : List (UInt8 × UInt32)) :
    reportedBytes ⟨stop, (radiusAttrAcctSessionTime, sessionTime) :: sta.statAttrs data ++ rest⟩ radiusAttrAcctInputOctets
        radiusAttrAcctInputGigawords = some (sta.inputBytes data).toNat ∧
      reportedBytes ⟨stop, (radiusAttrAcctSessionTime, sessionTime) :: sta.statAttrs data ++ rest⟩ radiusAttrAcctOutputOctets
        radiusAttrAcctOutputGigawords = some (sta.outputBytes data).toNat := by
  rw [← halves_toNat (sta.inputBytes data), ← halves_toNat (sta.outputBytes data)]
  exact ⟨rfl, rfl⟩

lemma reportedBytes_causeAttrs (sta : StaAcct) (stop eloopTerminated : Bool) (sessionTime : UInt32) :
    reportedBytes ⟨stop, (radiusAttrAcctSessionTime, sessionTime) :: sta.causeAttrs stop eloopTerminated⟩
        radiusAttrAcctInputOctets radiusAttrAcctInputGigawords = none ∧
      reportedBytes ⟨stop, (radiusAttrAcctSessionTime, sessionTime) :: sta.causeAttrs stop eloopTerminated⟩
        radiusAttrAcctOutputOctets radiusAttrAcctOutputGigawords = none := by
  unfold StaAcct.causeAttrs
  dsimp only
  split_ifs <;> exact ⟨rfl, rfl⟩

lemma accountingStaReport_done (s : AcctSta) (stop : Bool) (env : ReportEnv) :
    s.Done (env.packets.isSome && s.acctServer && env.accountingMsg) (s.accountingStaReport stop env) := by
  unfold accountingStaReport
  by_cases hserver : s.acctServer = true
  · by_cases hmsg : env.accountingMsg = true
    · rw [if_neg (by simp [hserver]), if_neg (by simp [hmsg]), hserver, hmsg, Bool.and_true, Bool.and_true]
      cases hpackets : env.packets with
      | none =>
        refine ⟨Or.inl rfl, fun report hreport _ _ => ?_⟩
        obtain rfl := Option.some.inj hreport
        exact reportedBytes_causeAttrs ..
      | some packets =>
        obtain ⟨⟨data, s'⟩, hread⟩ := Option.isSome_iff_exists.mp
          (show (s.accountingStaUpdateStats (some packets)).isSome = true from rfl)
        have hupd := updated_of_accountingStaUpdateStats hread
        simp only [hread]
        refine ⟨Or.inr ⟨data, rfl, hupd⟩, fun report hreport htracked hnear => ?_⟩
        obtain rfl := Option.some.inj hreport
        obtain ⟨-, hinput, houtput⟩ := hupd.tracked htracked (hnear rfl)
        obtain ⟨hinput', houtput'⟩ := reportedBytes_statAttrs s'.sta data stop env.sessionTime
          (s'.sta.causeAttrs stop env.eloopTerminated)
        rw [← hinput, ← houtput]
        exact ⟨hinput', houtput'⟩
    · rw [if_neg (by simp [hserver]), if_pos (by simp [hmsg])]
      exact done_skip _ _
  · rw [if_pos (by simp [hserver])]
    exact done_skip _ _

lemma accountingInterimUpdate_done (s : AcctSta) (env : ReportEnv) :
    s.Done (s.Reads (.interimUpdate env)) (s.accountingInterimUpdate env) := by
  unfold accountingInterimUpdate
  by_cases hinterval : s.sta.acctInterimInterval = 0
  · rw [if_neg (not_not.mpr hinterval)]
    refine ⟨?_, by simp⟩
    cases hpackets : env.packets with
    | none => exact Or.inl rfl
    | some packets =>
      obtain ⟨⟨data, s'⟩, hread⟩ := Option.isSome_iff_exists.mp
        (show (s.accountingStaUpdateStats (some packets)).isSome = true from rfl)
      rw [hread]
      exact Or.inr ⟨data, by simp [Reads, hpackets, hinterval], updated_of_accountingStaUpdateStats hread⟩
  · rw [if_pos hinterval, accountingStaInterim]
    by_cases hstarted : s.sta.acctSessionStarted = true
    · have hreads : s.Reads (.interimUpdate env) = (env.packets.isSome && s.acctServer && env.accountingMsg) := by
        simp [Reads, hinterval, hstarted, Bool.and_assoc]
      rw [if_pos hstarted, hreads]
      exact accountingStaReport_done s false env
    · rw [if_neg hstarted]
      exact done_skip _ _

lemma Done.sound {reads : Bool} {res : AcctSta × Option AcctReport} (h : s.Done reads res) (hs : s.Sound)
    (hnear : reads = true → s.Near) : res.1.Sound := by
  rcases h.state with heq | ⟨data, hreads, hupd⟩
  · rwa [heq]
  · refine ⟨fun htimer => ?_, fun hstarted => ?_⟩
    · rw [hupd.started]
      exact hs.timer (hupd.timer ▸ htimer)
    · exact (hupd.tracked (hs.tracked (hupd.started ▸ hstarted)) (hnear hreads)).1

/-- The counters are right again after an event in which the driver is read in time. -/
lemma Sound.next (hs : s.Sound) (hok : s.ReadInTime e) (hnext : s.next e = some s') : s'.Sound := by
  obtain ⟨res, hstep, rfl⟩ := Option.map_eq_some_iff.mp hnext
  cases e with
  | traffic rx tx =>
    obtain rfl := Option.some.inj hstep
    refine ⟨hs.timer, fun hstarted => ?_⟩
    obtain ⟨hrx, htx⟩ := hs.tracked hstarted
    exact ⟨⟨hrx.eq, hrx.le.trans (Nat.le_add_right _ _)⟩, ⟨htx.eq, htx.le.trans (Nat.le_add_right _ _)⟩⟩
  | interval acctInterimInterval =>
    obtain rfl := Option.some.inj hstep
    exact ⟨hs.timer, fun hstarted => ⟨(hs.tracked hstarted).rx, (hs.tracked hstarted).tx⟩⟩
  | cause acctTerminateCause =>
    obtain rfl := Option.some.inj hstep
    exact ⟨hs.timer, fun hstarted => ⟨(hs.tracked hstarted).rx, (hs.tracked hstarted).tx⟩⟩
  | start =>
    obtain rfl := Option.some.inj hstep
    dsimp only [accountingStaStart]
    split_ifs with hstarted hserver
    · exact hs
    · exact ⟨hs.timer, fun hstarted' => absurd hstarted' hstarted⟩
    · exact ⟨fun _ => rfl, fun _ => ⟨counted_zero, counted_zero⟩⟩
  | interimUpdate env =>
    rw [step] at hstep
    split_ifs at hstep
    obtain rfl := Option.some.inj hstep
    exact (accountingInterimUpdate_done s env).sound hs hok
  | stop env =>
    obtain rfl := Option.some.inj hstep
    unfold accountingStaStop
    split_ifs with hstarted
    · exact ⟨fun htimer => absurd htimer Bool.false_ne_true, fun hstarted' => absurd hstarted' Bool.false_ne_true⟩
    · exact hs

/-- A report says how many bytes the driver has counted, if it could be read. -/
lemma Sound.report_eq {report : AcctReport} (hs : s.Sound) (hok : s.ReadInTime e) (hstep : s.step e = some (s', some report)) :
    (reportedBytes report radiusAttrAcctInputOctets radiusAttrAcctInputGigawords =
        if s.Reads e then some (s.driver.rxBytes % 2 ^ 64) else none) ∧
      reportedBytes report radiusAttrAcctOutputOctets radiusAttrAcctOutputGigawords =
        if s.Reads e then some (s.driver.txBytes % 2 ^ 64) else none := by
  cases e with
  | traffic rx tx => cases hstep
  | interval acctInterimInterval => cases hstep
  | cause acctTerminateCause => cases hstep
  | start => cases hstep
  | interimUpdate env =>
    rw [step] at hstep
    split_ifs at hstep with htimer
    have hdone := accountingInterimUpdate_done s env
    rw [Option.some.inj hstep] at hdone
    exact hdone.report report rfl (hs.tracked (hs.timer htimer)) hok
  | stop env =>
    rw [step, accountingStaStop] at hstep
    split_ifs at hstep with hstarted
    · have hreads : s.Reads (.stop env) = (env.packets.isSome && s.acctServer && env.accountingMsg) := by
        simp [Reads, hstarted]
      rw [ReadInTime, hreads] at hok
      rw [hreads]
      exact (accountingStaReport_done s true env).report report (Prod.mk.inj (Option.some.inj hstep)).2 (hs.tracked hstarted) hok
    · cases hstep

end Step

lemma init_sound (acctServer : Bool) (driver : StaDriver) : (init acctServer driver).Sound :=
  ⟨fun htimer => absurd htimer Bool.false_ne_true, fun hstarted => absurd hstarted Bool.false_ne_true⟩

/-- In every run in which the driver is read in time, each report says how many bytes have been received and sent since the
session has started, if there are less than 2⁶⁴.  A report without these numbers is only made when the driver cannot be
read. -/
theorem runWith_reportedBytes {acctServer : Bool} {driver : StaDriver} {es : List AcctEvent} {s s' : AcctSta}
    {e : AcctEvent} {report : AcctReport} (h : Trace.RunWith next ReadInTime (init acctServer driver) es s)
    (hok : s.ReadInTime e) (hstep : s.step e = some (s', some report)) (hrx : s.driver.rxBytes < 2 ^ 64)
    (htx : s.driver.txBytes < 2 ^ 64) :
    (reportedBytes report radiusAttrAcctInputOctets radiusAttrAcctInputGigawords =
        if s.Reads e then some s.driver.rxBytes else none) ∧
      reportedBytes report radiusAttrAcctOutputOctets radiusAttrAcctOutputGigawords =
        if s.Reads e then some s.driver.txBytes else none := by
  have hs : s.Sound := h.invariant (init_sound acctServer driver) fun _ _ _ hI hok hnext => hI.next hok hnext
  have heq := hs.report_eq hok hstep
  rwa [Nat.mod_eq_of_lt hrx, Nat.mod_eq_of_lt htx] at heq

/-- Both counters wrap around before the stop report, the input counter for the second time. -/
theorem runWith_reportedBytes_wrap :
    ∃ s s' report, Trace.RunWith next ReadInTime (init true ⟨9, 9, 9, 9⟩)
        [.start, .traffic 0xfffffffe 3, .interimUpdate ⟨true, some (1, 1), 300, false⟩, .traffic 5 0xfffffff0,
          .interimUpdate ⟨true, some (2, 2), 600, false⟩, .traffic 0xffffffff 20] s ∧
      s.step (.stop ⟨true, some (3, 3), 700, false⟩) = some (s', some report) ∧
      reportedBytes report radiusAttrAcctInputOctets radiusAttrAcctInputGigawords = some 0x200000002 ∧
      reportedBytes report radiusAttrAcctOutputOctets radiusAttrAcctOutputGigawords = some 0x100000007 := by
  have hexec : Trace.execWith next ReadInTime (init true ⟨9, 9, 9, 9⟩)
      [.start, .traffic 0xfffffffe 3, .interimUpdate ⟨true, some (1, 1), 300, false⟩, .traffic 5 0xfffffff0,
        .interimUpdate ⟨true, some (2, 2), 600, false⟩, .traffic 0xffffffff 20] =
      some ⟨true, ⟨true, 0, 0, 1, 3, 0, 0xfffffff3⟩, true, ⟨0x200000002, 0x100000007, 0x100000003, 0xfffffff3⟩⟩ := by
    decide +kernel
  obtain ⟨s', report, hstep⟩ : ∃ s' report,
      AcctSta.step ⟨true, ⟨true, 0, 0, 1, 3, 0, 0xfffffff3⟩, true, ⟨0x200000002, 0x100000007, 0x100000003, 0xfffffff3⟩⟩
        (.stop ⟨true, some (3, 3), 700, false⟩) = some (s', some report) := ⟨_, _, rfl⟩
  have hrun := Trace.runWith_of_execWith hexec
  have hright := runWith_reportedBytes hrun (by decide +kernel) hstep (by decide) (by decide)
  exact ⟨_, s', report, hrun, hstep, hright⟩

end AcctSta

end Ethanol
