import EthanolHostapd.EthanolFunctions.NetStatistics
import EthanolHostapd.Messaging.ApInRange
import EthanolHostapd.Messaging.ListDevices

/-!
# The handover decision

`msg_snr_threshold_reached.c`, built with `HANDOVER`.  A station whose SNR has fallen below its
threshold asks the controller to which access point it should connect.  The controller asks the station
for the access points in range, keeps the ones that it knows, that are not the current one and whose
signal is strong enough, asks each of them for its traffic and takes the one with the least.

The answers of the station and of the access points are part of the surroundings.  The handler has no
reply, `none`, where it reads through `NULL` or through memory that it has freed.
-/

namespace Ethanol

open Wire

/-- What the decision uses of `long double`: its numbers are ordered, and there is a sum (of which
nothing is assumed) and the number -1.  A value that is no number is left out. -/
class LongDouble (F : Type) extends LinearOrder F, Zero F, Add F where
  negOne : F

/-- `struct msg_snr_threshold_reached`. -/
structure MsgSnrThresholdReached where
  mType : Int32
  mId : Int32
  pVersion : Option CString
  mSize : Int32
  staIp : Option CString
  staPort : Int32
  staMac : Option CString
  intfName : Option CString
  /-- The current access point in a request, the one to connect to in a reply. -/
  macAp : Option CString
  snr : Int64
  deriving DecidableEq

/-- `size_msg_snr_threshold_reached`, as it is assigned to an `int`. -/
def sizeMsgSnrThresholdReached (h : MsgSnrThresholdReached) : Int32 :=
  Int32.ofInt (
    (strlenEthanol h.pVersion).toInt + 4 + 4 + 4 +
    (strlenEthanol h.staIp).toInt + 4 +
    (strlenEthanol h.staMac).toInt + (strlenEthanol h.intfName).toInt +
    (strlenEthanol h.macAp).toInt +
    8)

/-- `encode_msg_snr_threshold_reached`. -/
def encodeMsgSnrThresholdReached (h : MsgSnrThresholdReached) : Encoded :=
  let bufLen := sizeMsgSnrThresholdReached h
  let aux := Out.ofBytes []
  let aux := encodeHeader aux h.mType h.mId bufLen -- h->m_size = *buf_len
  let aux := encodeChar aux h.staIp
  let aux := encodeInt aux h.staPort
  let aux := encodeChar aux h.staMac
  let aux := encodeChar aux h.intfName
  let aux := encodeChar aux h.macAp
  ⟨bufLen, encode2long aux h.snr⟩

/-- `decode_msg_snr_threshold_reached`. -/
def decodeMsgSnrThresholdReached : Decoder MsgSnrThresholdReached := do
  let header ← decodeHeader
  let staIp ← decodeChar
  let staPort ← decodeInt
  let staMac ← decodeChar
  let intfName ← decodeChar
  let macAp ← decodeChar
  let snr ← decode2long
  pure {
    mType := header.mType, mId := header.mId, pVersion := header.mVersion, mSize := header.mSize,
    staIp, staPort, staMac, intfName, macAp, snr }

/-- `send_msg_snr_threshold_reached`. -/
def sendMsgSnrThresholdReached (net : Network) (hostname : CString) (portNum id : Int32)
    (staIp : Option CString) (staPort : Int32) (staMac intfName macCurrentAp : Option CString)
    (snr : Int64) : Option MsgSnrThresholdReached × Int32 :=
  exchange net hostname portNum id
    (fun mId => encodeMsgSnrThresholdReached {
      mType := EnumMsgType.msgSetSnrThresholdReached.code, mId, pVersion := some ethanolVersion,
      mSize := 0, staIp, staPort, staMac, intfName, macAp := macCurrentAp, snr })
    (fun answer =>
      if returnMessageType answer.buf = EnumMsgType.msgSetSnrThresholdReached.code then
        some (decodeMsgSnrThresholdReached answer.buf Cursor.start).1
      else none)

/-! ## The decision -/

/-- The surroundings of `process_msg_snr_threshold_reached`. -/
structure HandoverEnv (F : Type) where
  net : Network
  /-- The devices behind `find_station` and `find_ap`. -/
  stations : List Device
  aps : List Device
  /-- `signal_threshold`. -/
  signalThreshold : Int64
  /-- The conversion of a signal to `long long`. -/
  toLongLong : CFloat → Int64
  /-- What a station answers when it is asked for the access points in range of an interface
  (`send_msg_get_ap_in_range`). -/
  apInRange : Device → Option CString → Option (List ApInRange)
  /-- What an access point answers when it is asked for its statistics
  (`send_msg_mean_sta_statistics`): the means of its interfaces.  The queries are told apart by the
  place of the access point in the list of those in range. -/
  meanStaStatistics : ℕ → Device → Option (List (MeanNetStatistics F))

/-- `list_aps_range_t`. -/
structure ApRange (F : Type) where
  index : ℕ
  tx : F
  rx : F
  ap : Device

/-- `find_device` with an address that may be `NULL`: the outer `none` is the `strcmp`, which happens
as soon as there is a device to compare with. -/
def findDevicePtr (macAddress : Option CString) (list : List Device) : Option (Option Device) :=
  match macAddress with
  | some macAddress => some (findDevice macAddress list)
  | none => if list.isEmpty then some none else none

section Decision

variable {F : Type} [LongDouble F]

/-- `insert_ap_range`. -/
def insertApRange (index : ℕ) (ap : Device) (apsRange : List (ApRange F)) : List (ApRange F) :=
  ⟨index, 0, 0, ap⟩ :: apsRange

/-- The loop over the access points in range, from the one at place `i` on. -/
def keepEthanolAps (env : HandoverEnv F) (macAp : Option CString) :
    ℕ → List ApInRange → List (ApRange F) → Option (List (ApRange F))
  | _, [], apsRange => some apsRange
  | i, a :: aps, apsRange => do
    match ← findDevicePtr a.macAp env.aps with
    | none => keepEthanolAps env macAp (i + 1) aps apsRange
    | some ap =>
      let current ← macAp -- strcmp reads it
      if a.macAp ≠ some current ∧ env.signalThreshold < env.toLongLong a.signal then
        keepEthanolAps env macAp (i + 1) aps (insertApRange i ap apsRange)
      else keepEthanolAps env macAp (i + 1) aps apsRange

/-- The traffic of one access point; `ns[0]` of an answer without interfaces is read through
`NULL`. -/
def readTraffic (env : HandoverEnv F) (p : ApRange F) : Option (ApRange F) :=
  match env.meanStaStatistics p.index p.ap with
  | some (m :: _) => some { p with tx := m .txBytes, rx := m .rxBytes }
  | some [] => none
  | none => some { p with tx := LongDouble.negOne }

/-- The body of the loop that looks for the least traffic: the least one so far and its index, `none`
for -1. -/
def lessTraffic (best : F × Option ℕ) (p : ApRange F) : F × Option ℕ :=
  if p.tx ≠ LongDouble.negOne ∧ (p.tx + p.rx < best.1 ∨ best.1 = LongDouble.negOne) then
    (p.tx + p.rx, some p.index)
  else best

/-- The choice among the access points in range: the new value of `h->mac_ap`, which is freed if
there are candidates, also if none of them is chosen. -/
def chooseAp (env : HandoverEnv F) (macAp : Option CString) (lAps : List ApInRange) :
    Option (Option CString) := do
  let apsRange ← keepEthanolAps env macAp 0 lAps []
  if apsRange.isEmpty then some macAp
  else
    let apsRange ← apsRange.mapM (readTraffic env)
    let i ← (apsRange.foldl lessTraffic (LongDouble.negOne, none)).2
    let a ← lAps[i]?
    some a.macAp

/-- The `HANDOVER` block. -/
def handover (env : HandoverEnv F) (h : MsgSnrThresholdReached) : Option (Option CString) := do
  match ← findDevicePtr h.staMac env.stations with
  | none => some h.macAp
  | some sta =>
    let lAps ← env.apInRange sta h.intfName
    chooseAp env h.macAp lAps

/-- What `process_msg_snr_threshold_reached` makes of the decoded request before it encodes it as the
reply. -/
def answerMsgSnrThresholdReached (env : HandoverEnv F) (h : MsgSnrThresholdReached) :
    Option MsgSnrThresholdReached :=
  match h.staIp with
  | none => (handover env h).map fun macAp => { h with macAp }
  | some staIp =>
    let sent := sendMsgSnrThresholdReached env.net staIp h.staPort h.mId none 0 h.staMac h.intfName
      h.macAp h.snr
    let h := { h with mId := sent.2 } -- the id was passed as &h->m_id
    match sent.1 with
    | some h1 => some { h with macAp := h1.macAp }
    | none => some h

/-- `process_msg_snr_threshold_reached`: the reply to the request in `input`. -/
def processMsgSnrThresholdReached (env : HandoverEnv F) (input : Memory) : Option Encoded :=
  (answerMsgSnrThresholdReached env (decodeMsgSnrThresholdReached input Cursor.start).1).map
    encodeMsgSnrThresholdReached

/-! ## What the decision should be -/

/-- The access points in range, as far as the controller learns of them. -/
def inRange (env : HandoverEnv F) (h : MsgSnrThresholdReached) : List ApInRange :=
  match h.staMac.bind fun mac => findDevice mac env.stations with
  | none => []
  | some sta => (env.apInRange sta h.intfName).getD []

/-- The access point is registered, as the device `ap`. -/
def RegisteredAp (env : HandoverEnv F) (a : ApInRange) (ap : Device) : Prop :=
  ∃ mac, a.macAp = some mac ∧ findDevice mac env.aps = some ap

/-- The access point at place `i` of those in range is a candidate: it is registered, it is not the
current one, and its signal is above the threshold. -/
structure Candidate (env : HandoverEnv F) (h : MsgSnrThresholdReached) (i : ℕ) (a : ApInRange)
    (ap : Device) : Prop where
  inRange : (inRange env h)[i]? = some a
  registered : RegisteredAp env a ap
  other : a.macAp ≠ h.macAp
  strong : env.signalThreshold < env.toLongLong a.signal

/-- The traffic on the first interface. -/
def traffic (m : MeanNetStatistics F) : F := m .txBytes + m .rxBytes

/-- The candidate at place `i` has the readable statistics `m`: it answers, for some interface. -/
def Readable (env : HandoverEnv F) (h : MsgSnrThresholdReached) (i : ℕ) (a : ApInRange)
    (m : MeanNetStatistics F) : Prop :=
  ∃ ap ms, Candidate env h i a ap ∧ env.meanStaStatistics i ap = some (m :: ms)

/-- The access point to connect to: the one of the request if no candidate can be read, and otherwise
a candidate with the least traffic among those that can. -/
def RightChoice (env : HandoverEnv F) (h : MsgSnrThresholdReached) (macAp : Option CString) : Prop :=
  (macAp = h.macAp ∧ ∀ i a m, ¬ Readable env h i a m) ∨
    ∃ i a m, Readable env h i a m ∧ macAp = a.macAp ∧
      ∀ j b m', Readable env h j b m' → traffic m ≤ traffic m'

/-- There is a reply, and it has the right choice. -/
def HandoverLaw (env : HandoverEnv F) (h : MsgSnrThresholdReached) : Prop :=
  ∃ reply, answerMsgSnrThresholdReached env h = some reply ∧ RightChoice env h reply.macAp

/-- The statistics `m` do not look like the mark for an access point that did not answer. -/
def Unmarked (m : MeanNetStatistics F) : Prop := m .txBytes ≠ LongDouble.negOne

/-- If the least traffic is -1, which is also the mark for no traffic found yet, then the first access
point of the list with statistics has it. -/
def FirstHasNegOne (env : HandoverEnv F) (h : MsgSnrThresholdReached) : Prop :=
  (∃ i a m, Readable env h i a m ∧ Unmarked m ∧ traffic m = LongDouble.negOne) →
    (∀ i a m, Readable env h i a m → Unmarked m → LongDouble.negOne ≤ traffic m) →
    ∀ i a m, Readable env h i a m → Unmarked m →
      (∀ j b m', Readable env h j b m' → Unmarked m' → i ≤ j) → traffic m = LongDouble.negOne

/-- The condition under which the handler decides by itself. -/
structure Decides (env : HandoverEnv F) (h : MsgSnrThresholdReached) : Prop where
  /-- The station is named, unless there is none to compare it with. -/
  station : h.staMac = none → env.stations = []
  /-- A registered station answers. -/
  available : ∀ mac sta, h.staMac = some mac → findDevice mac env.stations = some sta →
    env.apInRange sta h.intfName ≠ none
  /-- The access points in range have addresses, unless there is none to compare them with. -/
  macs : ∀ a ∈ inRange env h, a.macAp = none → env.aps = []
  /-- The current access point is named, if one in range is registered. -/
  current : ∀ a ∈ inRange env h, ∀ ap, RegisteredAp env a ap → h.macAp ≠ none
  /-- A candidate that answers has an interface. -/
  interfaces : ∀ i a ap, Candidate env h i a ap → env.meanStaStatistics i ap ≠ some []
  /-- If there are candidates, one of them answers, with statistics that are not taken for the mark. -/
  answered : ∀ i a ap, Candidate env h i a ap → ∃ j b m, Readable env h j b m ∧ Unmarked m
  /-- Statistics that are taken for the mark are not needed. -/
  unneeded : ∀ i a m, Readable env h i a m → ¬ Unmarked m →
    ∃ j b m', Readable env h j b m' ∧ Unmarked m' ∧ traffic m' ≤ traffic m
  first : FirstHasNegOne env h

/-- What a relayed report is answered with. -/
def relayedMac (env : HandoverEnv F) (h : MsgSnrThresholdReached) (staIp : CString) :
    Option CString :=
  match (sendMsgSnrThresholdReached env.net staIp h.staPort h.mId none 0 h.staMac h.intfName
    h.macAp h.snr).1 with
  | some h1 => h1.macAp
  | none => h.macAp

/-- The condition for the right choice.  A relayed report is decided elsewhere. -/
def Settles (env : HandoverEnv F) (h : MsgSnrThresholdReached) : Prop :=
  match h.staIp with
  | none => Decides env h
  | some staIp => RightChoice env h (relayedMac env h staIp)

/-- A candidate that is listed twice gives the same answer twice. -/
def Consistent (env : HandoverEnv F) (h : MsgSnrThresholdReached) : Prop :=
  ∀ i a m j b m', Readable env h i a m → Readable env h j b m' → a.macAp = b.macAp → m = m'

/-! ## Keeping the candidates -/

/-- The access point `a` at place `i` is put into the list as `p`. -/
def Kept (env : HandoverEnv F) (macAp : Option CString) (i : ℕ) (a : ApInRange) (p : ApRange F) :
    Prop :=
  a.macAp ≠ macAp ∧ env.signalThreshold < env.toLongLong a.signal ∧
    ∃ ap, RegisteredAp env a ap ∧ p = ⟨i, 0, 0, ap⟩

/-- The addresses that are compared for the access point `a` are not `NULL`. -/
structure Comparable (env : HandoverEnv F) (macAp : Option CString) (a : ApInRange) : Prop where
  mac : a.macAp = none → env.aps = []
  current : ∀ ap, RegisteredAp env a ap → macAp ≠ none

/-- What the loop does with one access point: it fails, skips it or keeps it. -/
lemma keepEthanolAps_cons (env : HandoverEnv F) (macAp : Option CString) (i : ℕ) (a : ApInRange)
    (aps : List ApInRange) (apsRange : List (ApRange F)) :
    (¬ Comparable env macAp a ∧ keepEthanolAps env macAp i (a :: aps) apsRange = none) ∨
    (Comparable env macAp a ∧ (∀ p, ¬ Kept env macAp i a p) ∧
      keepEthanolAps env macAp i (a :: aps) apsRange =
        keepEthanolAps env macAp (i + 1) aps apsRange) ∨
    (Comparable env macAp a ∧ ∃ ap, (∀ p, Kept env macAp i a p ↔ p = ⟨i, 0, 0, ap⟩) ∧
      keepEthanolAps env macAp i (a :: aps) apsRange =
        keepEthanolAps env macAp (i + 1) aps (⟨i, 0, 0, ap⟩ :: apsRange)) := by
  rw [keepEthanolAps]
  cases hmac : a.macAp with
  | none =>
    have hunregistered : ∀ ap, ¬ RegisteredAp env a ap := by
      rintro ap ⟨mac, hsome, -⟩
      simp [hmac] at hsome
    cases haps : env.aps with
    | nil =>
      refine Or.inr (Or.inl ⟨⟨fun _ => haps, fun ap hap => absurd hap (hunregistered ap)⟩, ?_, ?_⟩)
      · rintro p ⟨-, -, ap, hap, -⟩
        exact hunregistered ap hap
      · simp [findDevicePtr]
    | cons d ds =>
      refine Or.inl ⟨fun hc => ?_, by simp [findDevicePtr]⟩
      simpa [haps] using hc.mac hmac
  | some mac =>
    have hregistered : ∀ ap, RegisteredAp env a ap ↔ findDevice mac env.aps = some ap := by
      intro ap
      simp [RegisteredAp, hmac]
    cases hfind : findDevice mac env.aps with
    | none =>
      have hunregistered : ∀ ap, ¬ RegisteredAp env a ap := fun ap => by simp [hregistered, hfind]
      refine Or.inr (Or.inl ⟨⟨by simp [hmac], fun ap hap => absurd hap (hunregistered ap)⟩, ?_, ?_⟩)
      · rintro p ⟨-, -, ap, hap, -⟩
        exact hunregistered ap hap
      · simp [findDevicePtr, hfind]
    | some ap =>
      have hap : RegisteredAp env a ap := (hregistered ap).mpr hfind
      cases hcur : macAp with
      | none =>
        exact Or.inl ⟨fun hc => hc.current ap hap rfl, by simp [findDevicePtr, hfind]⟩
      | some current =>
        have hcomparable : Comparable env (some current) a := ⟨by simp [hmac], by simp⟩
        by_cases hkept : some mac ≠ some current ∧ env.signalThreshold < env.toLongLong a.signal
        · refine Or.inr (Or.inr ⟨hcomparable, ap, fun p => ?_, ?_⟩)
          · simp [Kept, hmac, hkept.2, hregistered, hfind, by simpa using hkept.1]
          · simp only [findDevicePtr, hfind, Option.bind_eq_bind, Option.bind_some]
            rw [if_pos hkept]
            rfl
        · refine Or.inr (Or.inl ⟨hcomparable, fun p hp => hkept ⟨hmac ▸ hp.1, hp.2.1⟩, ?_⟩)
          simp only [findDevicePtr, hfind, Option.bind_eq_bind, Option.bind_some]
          rw [if_neg hkept]

/-- The loop over the access points in range goes through exactly if all addresses that it compares
are there. -/
lemma keepEthanolAps_isSome_iff (env : HandoverEnv F) (macAp : Option CString) (i : ℕ)
    (aps : List ApInRange) (apsRange : List (ApRange F)) :
    (keepEthanolAps env macAp i aps apsRange).isSome ↔ ∀ a ∈ aps, Comparable env macAp a := by
  induction aps generalizing i apsRange with
  | nil => simp [keepEthanolAps]
  | cons a aps ih =>
    rw [List.forall_mem_cons]
    rcases keepEthanolAps_cons env macAp i a aps apsRange with
      ⟨hnot, heq⟩ | ⟨hcomparable, -, heq⟩ | ⟨hcomparable, ap, -, heq⟩
    · simp [heq, hnot]
    · rw [heq, ih, and_iff_right hcomparable]
    · rw [heq, ih, and_iff_right hcomparable]

/-- It adds the candidates. -/
lemma mem_keepEthanolAps {env : HandoverEnv F} {macAp : Option CString} {i : ℕ}
    {aps : List ApInRange} {apsRange r : List (ApRange F)}
    (h : keepEthanolAps env macAp i aps apsRange = some r) (p : ApRange F) :
    p ∈ r ↔ p ∈ apsRange ∨ ∃ j a, aps[j]? = some a ∧ Kept env macAp (i + j) a p := by
  induction aps generalizing i apsRange with
  | nil =>
    obtain rfl : apsRange = r := by simpa [keepEthanolAps] using h
    simp
  | cons a aps ih =>
    -- the places behind `a` are counted from `i + 1`
    have hrest : (∃ j b, (a :: aps)[j]? = some b ∧ Kept env macAp (i + j) b p) ↔
        Kept env macAp i a p ∨ ∃ j b, aps[j]? = some b ∧ Kept env macAp (i + 1 + j) b p := by
      constructor
      · rintro ⟨j, b, hb, hkept⟩
        cases j with
        | zero =>
          obtain rfl : a = b := by simpa using hb
          exact Or.inl hkept
        | succ j => exact Or.inr ⟨j, b, by simpa using hb, by rwa [Nat.add_right_comm]⟩
      · rintro (hkept | ⟨j, b, hb, hkept⟩)
        · exact ⟨0, a, rfl, hkept⟩
        · exact ⟨j + 1, b, by simpa using hb, by rwa [Nat.add_right_comm] at hkept⟩
    rw [hrest]
    rcases keepEthanolAps_cons env macAp i a aps apsRange with
      ⟨-, heq⟩ | ⟨-, hskip, heq⟩ | ⟨-, ap, hkeep, heq⟩
    · rw [heq] at h
      exact absurd h (by simp)
    · rw [heq] at h
      rw [ih h, or_iff_right (hskip p)]
    · rw [heq] at h
      rw [ih h, hkeep, List.mem_cons]
      tauto

/-- The list is built from its end. -/
lemma keepEthanolAps_sorted {env : HandoverEnv F} {macAp : Option CString} {i : ℕ}
    {aps : List ApInRange} {apsRange r : List (ApRange F)}
    (h : keepEthanolAps env macAp i aps apsRange = some r)
    (hsorted : (apsRange.map ApRange.index).Pairwise (· > ·)) (hlt : ∀ p ∈ apsRange, p.index < i) :
    (r.map ApRange.index).Pairwise (· > ·) := by
  induction aps generalizing i apsRange with
  | nil =>
    obtain rfl : apsRange = r := by simpa [keepEthanolAps] using h
    exact hsorted
  | cons a aps ih =>
    rcases keepEthanolAps_cons env macAp i a aps apsRange with
      ⟨-, heq⟩ | ⟨-, -, heq⟩ | ⟨-, ap, -, heq⟩
    · rw [heq] at h
      exact absurd h (by simp)
    · rw [heq] at h
      exact ih h hsorted fun p hp => (hlt p hp).trans (Nat.lt_succ_self i)
    · rw [heq] at h
      refine ih h ?_ ?_
      · rw [List.map_cons, List.pairwise_cons]
        refine ⟨fun n hn => ?_, hsorted⟩
        obtain ⟨p, hp, rfl⟩ := List.mem_map.mp hn
        exact hlt p hp
      · intro p hp
        rcases List.mem_cons.mp hp with rfl | hp
        · exact Nat.lt_succ_self i
        · exact (hlt p hp).trans (Nat.lt_succ_self i)

/-! ## Reading their traffic -/

lemma mapM_isSome_iff {α β : Type} (f : α → Option β) (l : List α) :
    (l.mapM f).isSome ↔ ∀ a ∈ l, (f a).isSome := by
  induction l with
  | nil => simp
  | cons a l ih =>
    rw [List.forall_mem_cons, ← ih, List.mapM_cons]
    cases f a <;> cases l.mapM f <;> simp

lemma mem_mapM {α β : Type} {f : α → Option β} {l : List α} {r : List β} (h : l.mapM f = some r)
    (b : β) : b ∈ r ↔ ∃ a ∈ l, f a = some b := by
  induction l generalizing r with
  | nil =>
    obtain rfl : r = [] := by simpa using h.symm
    simp
  | cons a l ih =>
    rw [List.mapM_cons] at h
    cases hf : f a with
    | none => simp [hf] at h
    | some b' =>
      cases hl : l.mapM f with
      | none => simp [hf, hl] at h
      | some r' =>
        obtain rfl : r = b' :: r' := by simpa [hf, hl] using h.symm
        simp [ih hl, hf, eq_comm]

lemma map_mapM {α β γ : Type} {f : α → Option β} {g : α → γ} {g' : β → γ}
    (hf : ∀ a b, f a = some b → g' b = g a) {l : List α} {r : List β} (h : l.mapM f = some r) :
    r.map g' = l.map g := by
  induction l generalizing r with
  | nil =>
    obtain rfl : r = [] := by simpa using h.symm
    rfl
  | cons a l ih =>
    rw [List.mapM_cons] at h
    cases hfa : f a with
    | none => simp [hfa] at h
    | some b =>
      cases hl : l.mapM f with
      | none => simp [hfa, hl] at h
      | some r' =>
        obtain rfl : r = b :: r' := by simpa [hfa, hl] using h.symm
        rw [List.map_cons, List.map_cons, hf a b hfa, ih hl]

lemma readTraffic_index {env : HandoverEnv F} {p q : ApRange F} (h : readTraffic env p = some q) :
    q.index = p.index := by
  unfold readTraffic at h
  split at h
  · obtain rfl := Option.some.inj h
    rfl
  · exact absurd h (by simp)
  · obtain rfl := Option.some.inj h
    rfl

lemma readTraffic_isSome_iff (env : HandoverEnv F) (p : ApRange F) :
    (readTraffic env p).isSome ↔ env.meanStaStatistics p.index p.ap ≠ some [] := by
  unfold readTraffic
  split
  · simp_all
  · simp_all
  · simp_all

/-! ## Looking for the least traffic -/

/-- The entry is not passed over. -/
def Usable (p : ApRange F) : Prop := p.tx ≠ LongDouble.negOne

/-- The traffic of an entry. -/
def ApRange.traffic (p : ApRange F) : F := p.tx + p.rx

/-- What the loop has found in `l`. -/
def leastTraffic (l : List (ApRange F)) : F × Option ℕ :=
  l.foldl lessTraffic (LongDouble.negOne, none)

lemma leastTraffic_concat (l : List (ApRange F)) (p : ApRange F) :
    leastTraffic (l ++ [p]) = lessTraffic (leastTraffic l) p := by
  rw [leastTraffic, List.foldl_append]
  rfl

lemma lessTraffic_of_not_usable {p : ApRange F} (hp : ¬ Usable p) (best : F × Option ℕ) :
    lessTraffic best p = best := if_neg fun h => hp h.1

lemma lessTraffic_of_lt {p : ApRange F} (hp : Usable p) {best : F × Option ℕ}
    (hlt : p.traffic < best.1 ∨ best.1 = LongDouble.negOne) :
    lessTraffic best p = (p.traffic, some p.index) := if_pos ⟨hp, hlt⟩

lemma lessTraffic_of_le {p : ApRange F} {best : F × Option ℕ} (hle : best.1 ≤ p.traffic)
    (hmark : best.1 ≠ LongDouble.negOne) : lessTraffic best p = best :=
  if_neg fun h => h.2.elim (not_lt_of_ge hle) hmark

/-- What one entry does: it is passed over, it is taken, or it has no less traffic. -/
lemma lessTraffic_cases (best : F × Option ℕ) (p : ApRange F) :
    (¬ Usable p ∧ lessTraffic best p = best) ∨
    (Usable p ∧ (p.traffic < best.1 ∨ best.1 = LongDouble.negOne) ∧
      lessTraffic best p = (p.traffic, some p.index)) ∨
    (Usable p ∧ best.1 ≤ p.traffic ∧ best.1 ≠ LongDouble.negOne ∧ lessTraffic best p = best) := by
  by_cases hp : Usable p
  · by_cases hlt : p.traffic < best.1 ∨ best.1 = LongDouble.negOne
    · exact Or.inr (Or.inl ⟨hp, hlt, lessTraffic_of_lt hp hlt⟩)
    · push Not at hlt
      exact Or.inr (Or.inr ⟨hp, hlt.1, hlt.2, lessTraffic_of_le hlt.1 hlt.2⟩)
  · exact Or.inl ⟨hp, lessTraffic_of_not_usable hp best⟩

/-- The loop finds an entry exactly if one can be used. -/
lemma leastTraffic_found (l : List (ApRange F)) :
    (leastTraffic l = (LongDouble.negOne, none) ∧ ∀ p ∈ l, ¬ Usable p) ∨
    ∃ p ∈ l, Usable p ∧ leastTraffic l = (p.traffic, some p.index) := by
  induction l using List.reverseRecOn with
  | nil => exact Or.inl ⟨rfl, by simp⟩
  | append_singleton l p ih =>
    rw [leastTraffic_concat]
    rcases lessTraffic_cases (leastTraffic l) p with ⟨hp, heq⟩ | ⟨hp, -, heq⟩ | ⟨-, -, hmark, heq⟩
    · rw [heq]
      rcases ih with ⟨hnone, hall⟩ | ⟨q, hq, husable, hfound⟩
      · exact Or.inl ⟨hnone, by simpa [or_imp, forall_and] using ⟨hall, hp⟩⟩
      · exact Or.inr ⟨q, by simp [hq], husable, hfound⟩
    · exact Or.inr ⟨p, by simp, hp, heq⟩
    · rw [heq]
      rcases ih with ⟨hnone, -⟩ | ⟨q, hq, husable, hfound⟩
      · exact absurd (by rw [hnone]) hmark
      · exact Or.inr ⟨q, by simp [hq], husable, hfound⟩

/-- Only a traffic of -1 or more is forgotten. -/
lemma leastTraffic_le_or (l : List (ApRange F)) :
    ∀ q ∈ l, Usable q → (leastTraffic l).1 ≤ q.traffic ∨ LongDouble.negOne ≤ q.traffic := by
  induction l using List.reverseRecOn with
  | nil => simp
  | append_singleton l p ih =>
    intro q hq husable
    rw [leastTraffic_concat]
    rcases List.mem_append.mp hq with hq | hq
    · rcases lessTraffic_cases (leastTraffic l) p with
        ⟨-, heq⟩ | ⟨-, hlt | hmark, heq⟩ | ⟨-, -, -, heq⟩
      · rw [heq]
        exact ih q hq husable
      · rw [heq]
        exact (ih q hq husable).imp_left fun hle => hlt.le.trans hle
      · exact Or.inr ((ih q hq husable).elim (fun hle => hmark ▸ hle) id)
      · rw [heq]
        exact ih q hq husable
    · obtain rfl : q = p := List.mem_singleton.mp hq
      rcases lessTraffic_cases (leastTraffic l) q with ⟨hq, -⟩ | ⟨-, -, heq⟩ | ⟨-, hle, -, heq⟩
      · exact absurd husable hq
      · exact Or.inl (by rw [heq])
      · exact Or.inl (by rwa [heq])

/-- If no traffic is -1, none is forgotten. -/
lemma leastTraffic_le {l : List (ApRange F)}
    (hl : ∀ q ∈ l, Usable q → q.traffic ≠ LongDouble.negOne) :
    ∀ q ∈ l, Usable q → (leastTraffic l).1 ≤ q.traffic := by
  induction l using List.reverseRecOn with
  | nil => simp
  | append_singleton l p ih =>
    have hl' : ∀ q ∈ l, Usable q → q.traffic ≠ LongDouble.negOne := fun q hq => hl q (by simp [hq])
    intro q hq husable
    rw [leastTraffic_concat]
    rcases lessTraffic_cases (leastTraffic l) p with
      ⟨hp, heq⟩ | ⟨-, hlt | hmark, heq⟩ | ⟨-, hle, -, heq⟩
    · rw [heq]
      rcases List.mem_append.mp hq with hq | hq
      · exact ih hl' q hq husable
      · exact absurd (List.mem_singleton.mp hq ▸ husable) hp
    · rw [heq]
      rcases List.mem_append.mp hq with hq | hq
      · exact hlt.le.trans (ih hl' q hq husable)
      · rw [List.mem_singleton.mp hq]
    · -- the mark means that nothing was found before
      rw [heq]
      rcases List.mem_append.mp hq with hq | hq
      · rcases leastTraffic_found l with ⟨-, hnone⟩ | ⟨q', hq', husable', hfound⟩
        · exact absurd husable (hnone q hq)
        · exact absurd (by rw [← hmark, hfound]) (hl' q' hq' husable')
      · rw [List.mem_singleton.mp hq]
    · rw [heq]
      rcases List.mem_append.mp hq with hq | hq
      · exact ih hl' q hq husable
      · rw [List.mem_singleton.mp hq]
        exact hle

/-- If no traffic is below -1, the loop ends at -1 exactly if the last usable entry has it. -/
lemma leastTraffic_eq_negOne_iff {l : List (ApRange F)}
    (hsorted : l.Pairwise fun p q => q.index < p.index)
    (hl : ∀ q ∈ l, Usable q → LongDouble.negOne ≤ q.traffic) {p : ApRange F} (hp : p ∈ l)
    (husable : Usable p) (hlast : ∀ q ∈ l, Usable q → p.index ≤ q.index) :
    (leastTraffic l).1 = LongDouble.negOne ↔ p.traffic = LongDouble.negOne := by
  induction l using List.reverseRecOn with
  | nil => simp at hp
  | append_singleton l x ih =>
    obtain ⟨hsorted, -, hbelow⟩ := List.pairwise_append.mp hsorted
    have hl' : ∀ q ∈ l, Usable q → LongDouble.negOne ≤ q.traffic := fun q hq => hl q (by simp [hq])
    rw [leastTraffic_concat]
    by_cases hx : Usable x
    · -- `x` has the least index
      obtain rfl : p = x := by
        rcases List.mem_append.mp hp with hp | hp
        · exact absurd (hlast x (by simp) hx) (not_le_of_gt (hbelow p hp x (by simp)))
        · exact List.mem_singleton.mp hp
      rcases lessTraffic_cases (leastTraffic l) p with ⟨hp, -⟩ | ⟨-, -, heq⟩ | ⟨-, hle, hmark, heq⟩
      · exact absurd hx hp
      · rw [heq]
      · rw [heq]
        refine iff_of_false hmark fun hp => hmark (le_antisymm (hp ▸ hle) ?_)
        rcases leastTraffic_found l with ⟨hnone, -⟩ | ⟨q, hq, hq', hfound⟩
        · rw [hnone]
        · rw [hfound]
          exact hl' q hq hq'
    · rw [lessTraffic_of_not_usable hx]
      have hp' : p ∈ l := by
        rcases List.mem_append.mp hp with hp | hp
        · exact hp
        · exact absurd (List.mem_singleton.mp hp ▸ husable) hx
      exact ih hsorted hl' hp' fun q hq => hlast q (by simp [hq])

lemma exists_first {l : List (ApRange F)} (hne : ∃ p ∈ l, Usable p) :
    ∃ p ∈ l, Usable p ∧ ∀ q ∈ l, Usable q → p.index ≤ q.index := by
  classical
  have hex : ∃ n, ∃ p ∈ l, Usable p ∧ p.index = n := by
    obtain ⟨p, hp, husable⟩ := hne
    exact ⟨p.index, p, hp, husable, rfl⟩
  obtain ⟨p, hp, husable, hindex⟩ := Nat.find_spec hex
  refine ⟨p, hp, husable, fun q hq hq' => ?_⟩
  rw [hindex]
  exact Nat.find_min' hex ⟨q, hq, hq', rfl⟩

/-- The loop finds the least traffic exactly if that is not -1, or is that of the last usable
entry. -/
lemma leastTraffic_least_iff {l : List (ApRange F)}
    (hsorted : l.Pairwise fun p q => q.index < p.index) (hne : ∃ p ∈ l, Usable p) :
    (∀ q ∈ l, Usable q → (leastTraffic l).1 ≤ q.traffic) ↔
      ((∃ q ∈ l, Usable q ∧ q.traffic = LongDouble.negOne) →
        (∀ q ∈ l, Usable q → LongDouble.negOne ≤ q.traffic) →
        ∀ p ∈ l, Usable p → (∀ q ∈ l, Usable q → p.index ≤ q.index) →
          p.traffic = LongDouble.negOne) := by
  constructor
  · rintro hleast ⟨q, hq, husable, hmark⟩ hl p hp hp' hlast
    refine (leastTraffic_eq_negOne_iff hsorted hl hp hp' hlast).mp (le_antisymm ?_ ?_)
    · exact hmark ▸ hleast q hq husable
    · rcases leastTraffic_found l with ⟨hnone, -⟩ | ⟨q', hq', husable', hfound⟩
      · rw [hnone]
      · rw [hfound]
        exact hl q' hq' husable'
  · intro hfirst q hq husable
    by_cases hbelow : ∃ q' ∈ l, Usable q' ∧ q'.traffic < LongDouble.negOne
    · -- a traffic below -1 is never forgotten
      obtain ⟨q', hq', husable', hlt⟩ := hbelow
      have hle : (leastTraffic l).1 < LongDouble.negOne :=
        lt_of_le_of_lt ((leastTraffic_le_or l q' hq' husable').resolve_right (not_le_of_gt hlt)) hlt
      exact (leastTraffic_le_or l q hq husable).elim id fun h => hle.le.trans h
    · push Not at hbelow
      by_cases hmark : ∃ q' ∈ l, Usable q' ∧ q'.traffic = LongDouble.negOne
      · obtain ⟨p, hp, hp', hlast⟩ := exists_first hne
        rw [(leastTraffic_eq_negOne_iff hsorted hbelow hp hp' hlast).mpr
          (hfirst hmark hbelow p hp hp' hlast)]
        exact hbelow q hq husable
      · push Not at hmark
        exact leastTraffic_le hmark q hq husable

/-! ## The whole decision -/

section Entries

variable {env : HandoverEnv F} {h : MsgSnrThresholdReached} {r r' : List (ApRange F)}

/-- The entries of the list are the candidates. -/
lemma mem_keep_iff (hr : keepEthanolAps env h.macAp 0 (inRange env h) [] = some r) (p : ApRange F) :
    p ∈ r ↔ ∃ i a ap, Candidate env h i a ap ∧ p = ⟨i, 0, 0, ap⟩ := by
  rw [mem_keepEthanolAps hr]
  constructor
  · rintro (hnil | ⟨j, a, ha, hother, hstrong, ap, hap, rfl⟩)
    · simp at hnil
    · exact ⟨0 + j, a, ap, ⟨by simpa using ha, hap, hother, hstrong⟩, rfl⟩
  · rintro ⟨i, a, ap, hcand, rfl⟩
    exact Or.inr ⟨i, a, hcand.inRange, hcand.other, hcand.strong, ap, hcand.registered, by simp⟩

/-- The entries that are not passed over are the readable statistics without the mark. -/
lemma exists_usable_iff (hr : keepEthanolAps env h.macAp 0 (inRange env h) [] = some r)
    (hr' : r.mapM (readTraffic env) = some r') (P : ℕ → F → Prop) :
    (∃ q ∈ r', Usable q ∧ P q.index q.traffic) ↔
      ∃ i a m, Readable env h i a m ∧ Unmarked m ∧ P i (traffic m) := by
  constructor
  · rintro ⟨q, hq, husable, hP⟩
    obtain ⟨p, hp, hread⟩ := (mem_mapM hr' q).mp hq
    obtain ⟨i, a, ap, hcand, rfl⟩ := (mem_keep_iff hr p).mp hp
    simp only [readTraffic] at hread
    split at hread
    · rename_i m ms hstats
      obtain rfl := Option.some.inj hread
      exact ⟨i, a, m, ⟨ap, ms, hcand, hstats⟩, husable, hP⟩
    · exact absurd hread (by simp)
    · obtain rfl := Option.some.inj hread
      exact absurd rfl husable
  · rintro ⟨i, a, m, ⟨ap, ms, hcand, hstats⟩, hunmarked, hP⟩
    refine ⟨⟨i, m .txBytes, m .rxBytes, ap⟩, (mem_mapM hr' _).mpr ?_, hunmarked, hP⟩
    exact ⟨⟨i, 0, 0, ap⟩, (mem_keep_iff hr _).mpr ⟨i, a, ap, hcand, rfl⟩,
      by simp [readTraffic, hstats]⟩

lemma forall_usable_iff (hr : keepEthanolAps env h.macAp 0 (inRange env h) [] = some r)
    (hr' : r.mapM (readTraffic env) = some r') (P : ℕ → F → Prop) :
    (∀ q ∈ r', Usable q → P q.index q.traffic) ↔
      ∀ i a m, Readable env h i a m → Unmarked m → P i (traffic m) := by
  have hiff := not_congr (exists_usable_iff hr hr' fun i t => ¬ P i t)
  push Not at hiff
  exact hiff

end Entries

/-- What the loop chooses: statistics without the mark, with the least traffic among these unless a
traffic of -1 was taken for the mark. -/
structure Chosen (env : HandoverEnv F) (h : MsgSnrThresholdReached) (i : ℕ) (a : ApInRange)
    (m : MeanNetStatistics F) : Prop where
  readable : Readable env h i a m
  unmarked : Unmarked m
  least_iff : (∀ j b m', Readable env h j b m' → Unmarked m' → traffic m ≤ traffic m') ↔
    FirstHasNegOne env h

/-- The choice is made only if all that it needs is there. -/
lemma chooseAp_chosen {env : HandoverEnv F} {h : MsgSnrThresholdReached} {macAp : Option CString}
    (hchoose : chooseAp env h.macAp (inRange env h) = some macAp) :
    (∀ a ∈ inRange env h, Comparable env h.macAp a) ∧
      (((∀ i a ap, ¬ Candidate env h i a ap) ∧ macAp = h.macAp) ∨
        ((∀ i a ap, Candidate env h i a ap → env.meanStaStatistics i ap ≠ some []) ∧
          ∃ i a m, Chosen env h i a m ∧ macAp = a.macAp)) := by
  simp only [chooseAp, Option.bind_eq_bind, Option.bind_eq_some_iff] at hchoose
  obtain ⟨r, hr, hchoose⟩ := hchoose
  refine ⟨(keepEthanolAps_isSome_iff env h.macAp 0 _ []).mp (by simp [hr]), ?_⟩
  split_ifs at hchoose with hempty
  · refine Or.inl ⟨fun i a ap hcand => ?_, (Option.some.inj hchoose).symm⟩
    have := (mem_keep_iff hr _).mpr ⟨i, a, ap, hcand, rfl⟩
    rw [List.isEmpty_iff.mp hempty] at this
    simp at this
  · simp only [Option.bind_eq_some_iff] at hchoose
    obtain ⟨r', hr', i, hi, a, ha, hmac⟩ := hchoose
    refine Or.inr ⟨fun i a ap hcand => ?_, ?_⟩
    · have hsome := (mapM_isSome_iff (readTraffic env) r).mp (by simp [hr'])
      exact (readTraffic_isSome_iff env _).mp
        (hsome _ ((mem_keep_iff hr _).mpr ⟨i, a, ap, hcand, rfl⟩))
    · have hsorted : r'.Pairwise fun p q => q.index < p.index := by
        rw [← List.pairwise_map (R := (· > ·)), map_mapM (fun _ _ => readTraffic_index) hr']
        exact keepEthanolAps_sorted hr (by simp) (by simp)
      rcases leastTraffic_found r' with ⟨hnone, -⟩ | ⟨q, hq, husable, hfound⟩
      · rw [leastTraffic] at hnone
        rw [hnone] at hi
        exact absurd hi (by simp)
      · -- the entry that was found belongs to the place `i`
        have hindex : q.index = i := by
          rw [leastTraffic] at hfound
          rw [hfound] at hi
          exact Option.some.inj hi
        obtain ⟨j, b, m, hread, hunmarked, rfl, htraffic⟩ :=
          (exists_usable_iff hr hr' fun j t => j = q.index ∧ t = q.traffic).mp
            ⟨q, hq, husable, rfl, rfl⟩
        obtain rfl : b = a := by
          obtain ⟨ap, ms, hcand, -⟩ := hread
          rw [hindex] at hcand
          exact Option.some.inj (hcand.inRange.symm.trans ha)
        refine ⟨q.index, b, m, ⟨hread, hunmarked, ?_⟩, (Option.some.inj hmac).symm⟩
        have hiff := leastTraffic_least_iff hsorted ⟨q, hq, husable⟩
        rw [hfound, forall_usable_iff hr hr' fun _ t => q.traffic ≤ t,
          exists_usable_iff hr hr' fun _ t => t = LongDouble.negOne,
          forall_usable_iff hr hr' fun _ t => LongDouble.negOne ≤ t,
          forall_usable_iff hr hr' fun j t => (∀ q ∈ r', Usable q → j ≤ q.index) →
            t = LongDouble.negOne] at hiff
        have hfirst : ∀ j, (∀ q ∈ r', Usable q → j ≤ q.index) ↔
            ∀ k b m', Readable env h k b m' → Unmarked m' → j ≤ k := fun j =>
          forall_usable_iff hr hr' fun k _ => j ≤ k
        rw [htraffic, hiff]
        simp only [FirstHasNegOne, hfirst]

/-- If all that it needs is there, a choice is made. -/
lemma chooseAp_isSome {env : HandoverEnv F} {h : MsgSnrThresholdReached} (hdecides : Decides env h) :
    (chooseAp env h.macAp (inRange env h)).isSome := by
  have hsome := (keepEthanolAps_isSome_iff env h.macAp 0 (inRange env h) []).mpr fun a ha =>
    ⟨hdecides.macs a ha, hdecides.current a ha⟩
  obtain ⟨r, hr⟩ := Option.isSome_iff_exists.mp hsome
  by_cases hempty : r = []
  · simp [chooseAp, hr, hempty]
  · obtain ⟨r', hr'⟩ := Option.isSome_iff_exists.mp
      ((mapM_isSome_iff (readTraffic env) r).mpr fun p hp => by
        obtain ⟨i, a, ap, hcand, rfl⟩ := (mem_keep_iff hr p).mp hp
        exact (readTraffic_isSome_iff env _).mpr (hdecides.interfaces i a ap hcand))
    obtain ⟨p, hp⟩ := List.exists_mem_of_ne_nil r hempty
    obtain ⟨i, a, ap, hcand, -⟩ := (mem_keep_iff hr p).mp hp
    obtain ⟨j, b, m, hread, hunmarked⟩ := hdecides.answered i a ap hcand
    obtain ⟨q, hq, husable, -⟩ :=
      (exists_usable_iff hr hr' fun _ _ => True).mpr ⟨j, b, m, hread, hunmarked, trivial⟩
    rcases leastTraffic_found r' with ⟨-, hnone⟩ | ⟨q', hq', husable', hfound⟩
    · exact absurd husable (hnone q hq)
    · obtain ⟨k, c, m', ⟨cp, ms, hcand', -⟩, -, rfl⟩ :=
        (exists_usable_iff hr hr' fun k _ => k = q'.index).mp ⟨q', hq', husable', rfl⟩
      rw [leastTraffic] at hfound
      simp [chooseAp, hr, hempty, hr', hfound, hcand'.inRange]

/-- If the controller learns of no access point in range, it keeps the current one. -/
lemma rightChoice_of_nil {env : HandoverEnv F} {h : MsgSnrThresholdReached}
    (hnil : inRange env h = []) : RightChoice env h h.macAp := by
  refine Or.inl ⟨rfl, ?_⟩
  rintro i a m ⟨ap, ms, hcand, -⟩
  have := hcand.inRange
  simp [hnil] at this

/-- Without candidates, the condition is only about the addresses that are compared. -/
lemma decides_of_no_candidate {env : HandoverEnv F} {h : MsgSnrThresholdReached}
    (hnone : ∀ i a ap, ¬ Candidate env h i a ap)
    (hstation : h.staMac = none → env.stations = [])
    (havailable : ∀ mac sta, h.staMac = some mac → findDevice mac env.stations = some sta →
      env.apInRange sta h.intfName ≠ none)
    (hcomparable : ∀ a ∈ inRange env h, Comparable env h.macAp a) : Decides env h := by
  have hunreadable : ∀ i a m, ¬ Readable env h i a m := by
    rintro i a m ⟨ap, ms, hcand, -⟩
    exact hnone i a ap hcand
  exact {
    station := hstation
    available := havailable
    macs := fun a ha => (hcomparable a ha).mac
    current := fun a ha => (hcomparable a ha).current
    interfaces := fun i a ap hcand => absurd hcand (hnone i a ap)
    answered := fun i a ap hcand => absurd hcand (hnone i a ap)
    unneeded := fun i a m hread => absurd hread (hunreadable i a m)
    first := fun _ _ i a m hread => absurd hread (hunreadable i a m) }

/-- If all that it needs is there, the right choice is made. -/
lemma chooseAp_right_of_decides {env : HandoverEnv F} {h : MsgSnrThresholdReached}
    (hdecides : Decides env h) :
    ∃ macAp, chooseAp env h.macAp (inRange env h) = some macAp ∧ RightChoice env h macAp := by
  obtain ⟨macAp, hchoose⟩ := Option.isSome_iff_exists.mp (chooseAp_isSome hdecides)
  refine ⟨macAp, hchoose, ?_⟩
  rcases (chooseAp_chosen hchoose).2 with ⟨hnone, rfl⟩ | ⟨-, i, a, m, hchosen, rfl⟩
  · refine Or.inl ⟨rfl, ?_⟩
    rintro i a m ⟨ap, ms, hcand, -⟩
    exact hnone i a ap hcand
  · refine Or.inr ⟨i, a, m, hchosen.readable, rfl, fun j b m' hread => ?_⟩
    have hleast := hchosen.least_iff.mpr hdecides.first
    by_cases hunmarked : Unmarked m'
    · exact hleast j b m' hread hunmarked
    · obtain ⟨k, c, m'', hread', hunmarked', hle⟩ := hdecides.unneeded j b m' hread hunmarked
      exact (hleast k c m'' hread' hunmarked').trans hle

/-- Conversely, if an access point that is listed twice answers the same twice. -/
lemma decides_of_chooseAp_right {env : HandoverEnv F} {h : MsgSnrThresholdReached}
    (hconsistent : Consistent env h) {macAp : Option CString}
    (hchoose : chooseAp env h.macAp (inRange env h) = some macAp) (hright : RightChoice env h macAp)
    (hstation : h.staMac = none → env.stations = [])
    (havailable : ∀ mac sta, h.staMac = some mac → findDevice mac env.stations = some sta →
      env.apInRange sta h.intfName ≠ none) : Decides env h := by
  obtain ⟨hcomparable, hcases⟩ := chooseAp_chosen hchoose
  rcases hcases with ⟨hnone, -⟩ | ⟨hinterfaces, i, a, m, hchosen, rfl⟩
  · exact decides_of_no_candidate hnone hstation havailable fun a ha => hcomparable a ha
  · -- the choice is right because of its own statistics
    have hleast : ∀ j b m', Readable env h j b m' → traffic m ≤ traffic m' := by
      rcases hright with ⟨-, hunreadable⟩ | ⟨j, b, m', hread, hmac, hleast⟩
      · exact absurd hchosen.readable (hunreadable i a m)
      · rwa [hconsistent i a m j b m' hchosen.readable hread hmac]
    exact {
      station := hstation
      available := havailable
      macs := fun a ha => (hcomparable a ha).mac
      current := fun a ha => (hcomparable a ha).current
      interfaces := hinterfaces
      answered := fun _ _ _ _ => ⟨i, a, m, hchosen.readable, hchosen.unmarked⟩
      unneeded := fun j b m' hread _ =>
        ⟨i, a, m, hchosen.readable, hchosen.unmarked, hleast j b m' hread⟩
      first := hchosen.least_iff.mp fun j b m' hread _ => hleast j b m' hread }

lemma decides_of_nil {env : HandoverEnv F} {h : MsgSnrThresholdReached} (hnil : inRange env h = [])
    (hstation : h.staMac = none → env.stations = [])
    (havailable : ∀ mac sta, h.staMac = some mac → findDevice mac env.stations = some sta →
      env.apInRange sta h.intfName ≠ none) : Decides env h := by
  refine decides_of_no_candidate (fun i a ap hcand => ?_) hstation havailable (by simp [hnil])
  have := hcand.inRange
  simp [hnil] at this

/-- The handler by itself: without a station to ask it keeps the current access point, and otherwise
it chooses among those in range. -/
lemma handover_cases (env : HandoverEnv F) (h : MsgSnrThresholdReached) :
    (handover env h = none ∧ ¬ Decides env h) ∨
    (inRange env h = [] ∧ handover env h = some h.macAp ∧ Decides env h) ∨
    (handover env h = chooseAp env h.macAp (inRange env h) ∧
      (h.staMac = none → env.stations = []) ∧
      ∀ mac sta, h.staMac = some mac → findDevice mac env.stations = some sta →
        env.apInRange sta h.intfName ≠ none) := by
  cases hsta : h.staMac with
  | none =>
    have hnil : inRange env h = [] := by simp [inRange, hsta]
    cases hstations : env.stations with
    | nil =>
      refine Or.inr (Or.inl ⟨hnil, by simp [handover, hsta, findDevicePtr, hstations], ?_⟩)
      exact decides_of_nil hnil (fun _ => hstations) (by simp [hsta])
    | cons d ds =>
      refine Or.inl ⟨by simp [handover, hsta, findDevicePtr, hstations], fun hdecides => ?_⟩
      simpa [hstations] using hdecides.station hsta
  | some mac =>
    cases hfind : findDevice mac env.stations with
    | none =>
      have hnil : inRange env h = [] := by simp [inRange, hsta, hfind]
      refine Or.inr (Or.inl ⟨hnil, by simp [handover, hsta, findDevicePtr, hfind], ?_⟩)
      refine decides_of_nil hnil (by simp [hsta]) fun mac' sta hmac hsta' => ?_
      obtain rfl : mac = mac' := by simpa [hsta] using hmac
      exact absurd (hfind.symm.trans hsta') (by simp)
    | some sta =>
      cases haps : env.apInRange sta h.intfName with
      | none =>
        refine Or.inl ⟨by simp [handover, hsta, findDevicePtr, hfind, haps], fun hdecides => ?_⟩
        exact hdecides.available mac sta hsta hfind haps
      | some lAps =>
        have hinRange : inRange env h = lAps := by simp [inRange, hsta, hfind, haps]
        refine Or.inr (Or.inr ⟨?_, by simp, fun mac' sta' hmac hsta' => ?_⟩)
        · simp [handover, hsta, findDevicePtr, hfind, haps, hinRange]
        · obtain rfl : mac = mac' := Option.some.inj hmac
          obtain rfl : sta = sta' := Option.some.inj (hfind.symm.trans hsta')
          simp [haps]

end Decision

local instance : LongDouble ℤ where
  negOne := -1

/-- `"02:00:00:00:00:02"`. -/
def currentMac : CString :=
  ⟨[48, 50, 58, 48, 48, 58, 48, 48, 58, 48, 48, 58, 48, 48, 58, 48, 50], by decide⟩

/-- `"02:00:00:00:00:03"`. -/
def newMac : CString :=
  ⟨[48, 50, 58, 48, 48, 58, 48, 48, 58, 48, 48, 58, 48, 48, 58, 48, 51], by decide⟩

/-- A station has one access point in range besides the current one, and that does not answer. -/
def silentEnv : HandoverEnv ℤ where
  net := fun _ _ => none
  stations := [⟨someMac, none, 22223⟩]
  aps := [⟨newMac, none, 22223⟩]
  signalThreshold := -70
  toLongLong := fun _ => 0
  apInRange := fun _ _ => some [{
    intfName := none, macAp := some newMac, ssid := none, status := 0, frequency := 2412,
    channel := 1, isDBm := true, signal := 0, powerconstraint := 0, txPower := 0, linkMargin := 0,
    age := 0 }]
  meanStaStatistics := fun _ _ => none

/-- The report of that station. -/
def silentReport : MsgSnrThresholdReached where
  mType := EnumMsgType.msgSetSnrThresholdReached.code
  mId := 1
  pVersion := some ethanolVersion
  mSize := 0
  staIp := none
  staPort := 0
  staMac := some someMac
  intfName := none
  macAp := some currentMac
  snr := 5

end Ethanol
