import EthanolHostapd.Messaging.ApInRange
import EthanolHostapd.Messaging.Intf

/-!
# The servlet

`servlet` of `ssl-server.c`: a received message is decoded by its header and handed to the handler for its
type.  The length of the message is passed along everywhere and looked at nowhere, so the decoders
read what the lengths and counts inside the message tell them to.

The message grammars below say which byte strings the decoders advance over.  The servlet reads only
received bytes, and dispatches only messages whose fields are all there, exactly when the message
conforms to them (`servlet_wireSafe_iff`).
-/

namespace Ethanol

open Wire Wire.Grammar

/-! ## The servlet -/

/-- The cases of the `switch` over the message types. -/
def servletCases : List EnumMsgType :=
  [.msgHelloType, .msgByeType, .msgPing, .msgGet80211EEnabled, .msgGetApCtsprotectionEnabled,
    .msgSetApCtsprotectionEnabled, .msgGetApBroadcastssid, .msgSetApBroadcastssid,
    .msgGetApFrameburstenabled, .msgSetApFrameburstenabled, .msgGetApGuardinterval,
    .msgSetApGuardinterval, .msgGetApDtiminterval, .msgSetApDtiminterval, .msgGetApRtsthreshold,
    .msgSetApRtsthreshold, .msgGetBeaconInterval, .msgSetBeaconInterval, .msgGetBytesreceived,
    .msgGetBytessent, .msgGetPacketsreceived, .msgGetPacketslost, .msgGetPacketssent,
    .msgDeauthenticateUser, .msgDisconnectUser, .msgGetPowersavemode, .msgSetPowersavemode,
    .msgGetDelay, .msgGetFailed, .msgGetJitter, .msgGetFastbsstransitionCompatible,
    .msgGetFrequency, .msgSetFrequency, .msgAssociation, .msgDisassociation, .msgReassociation,
    .msgAuthorization, .msgUserDisconnecting, .msgUserConnecting, .msgGetSnr, .msgGetMac,
    .msgGetRadioWlans, .msgGetValidchannels, .msgGetAllIntf, .msgGetOneIntf,
    .msgGetRadioLinkstatistics, .msgGetCurrentchannel, .msgSetCurrentchannel, .msgWlanInfo,
    .msgInformBeacon, .msgGetChannelbandwitdh, .msgSetChannelbandwitdh, .msgGetTxpower,
    .msgSetTxpower, .msgSetSnrThreshold, .msgSetSnrInterval, .msgGetApInRangeType,
    .msgGetIpv4Address, .msgSetIpv4Address, .msgGetIpv6Address, .msgSetIpv6Address,
    .msgGetRetries, .msgGetUptime, .msgGetRoutes, .msgGetApSsid, .msgGetMemory, .msgGetCpu,
    .msgGetChannelinfo, .msgRequestBeacon, .msgGetInterferencemap, .msgRequestBeginAssociation,
    .msgScan, .msgGetFragmentationthreshold, .msgGetNoiseinfo, .msgSetFragmentationthreshold,
    .msgVapCreate, .msgGetTxBitrates, .msgGetTxBitrate, .msgSetTxBitrates, .msgGetLinkInfo,
    .msgGetSupportedinterface, .msgGetLocation, .msgSetConfSsidRadio, .msgGetStatistics,
    .msgGetAcs, .msgGetStaStatistics, .msgSetSnrThresholdReached, .msgChangedAp,
    .msgMeanStaStatisticsGet, .msgMeanStaStatisticsSetInterface,
    .msgMeanStaStatisticsRemoveInterface, .msgMeanStaStatisticsSetAlpha,
    .msgMeanStaStatisticsSetTime, .msgTriggerTransition, .msgTosCleanall, .msgTosAdd,
    .msgTosReplace, .msgSetMtu, .msgSetTxqueuelen]

/-- The case of the `switch` that a message type selects. -/
def servletCase (msgType : Int32) : Option EnumMsgType :=
  servletCases.find? fun t => t.code = msgType

/-- What becomes of a received message. -/
inductive Outcome
  /-- Nothing was received. -/
  | nothing
  /-- The version is `NULL`, and `strcmp` follows it. -/
  | crash
  /-- The message is answered with an error message. -/
  | rejected (reply : Encoded)
  /-- The message is handed to the handler of a case. -/
  | dispatched (t : EnumMsgType)
  deriving DecidableEq

/-- An outcome, with the offsets that were read from the buffer before it. -/
structure ServletRun where
  outcome : Outcome
  reads : List ℕ

/-- The reads of `decode_msg_intf` and `decode_msg_ap_in_range`, which are called with the start of the
buffer by the handlers of their messages. -/
def handlerReads (t : EnumMsgType) (m : Memory) (reads : List ℕ) : List ℕ :=
  match t with
  | .msgGetAllIntf | .msgGetOneIntf => (decodeMsgIntf m ⟨0, reads⟩).2.reads
  | .msgGetApInRangeType => (decodeMsgApInRange m ⟨0, reads⟩).2.reads
  | _ => reads

/-- `servlet`, for the received bytes `msg`; `beyond` is the rest of its buffer and of the stack, `heap`
what follows the strings it allocates. -/
def servlet (msg : List UInt8) (beyond : ℕ → UInt8) (heap : ℕ → List UInt8) : ServletRun :=
  if msg.length = 0 then ⟨.nothing, []⟩
  else
    let m := Memory.ofBytes msg beyond heap
    let header := (decodeHeader m Cursor.start).1
    let reads := (decodeHeader m Cursor.start).2.reads
    match header.mVersion with
    | none => ⟨.crash, reads⟩
    | some pVersion =>
      let msgType :=
        if pVersion = ethanolVersion then header.mType else EnumMsgType.msgErrType.code
      match servletCase msgType with
      | some t => ⟨.dispatched t, handlerReads t m reads⟩
      | none => ⟨.rejected (returnErrorMsgStruct .errorUnknown header.mId), reads⟩

/-! ## Message grammars -/

/-- A length and a block of that many characters and the terminator, or nothing for length zero. -/
def charGrammar : Grammar := tagged fun sLen => fixed (charBlock sLen)

/-- Type, id, version, size. -/
def headerGrammar : Grammar := seq (fixed 4) (seq (fixed 4) (seq charGrammar (fixed 4)))

/-- Index, name, type, address and the wireless flag of an interface. -/
def interfaceGrammar : Grammar :=
  seq (fixed 8) (seq charGrammar (seq (fixed 4) (seq charGrammar (fixed 1))))

/-- A message with interfaces. -/
def intfGrammar : Grammar :=
  seq headerGrammar (seq charGrammar (seq (fixed 4) (counted interfaceGrammar)))

/-- Interface, address and SSID of an access point, status, frequency, channel, signal, power constraint,
transmit power, link margin, age and the unit of the signal. -/
def apGrammar : Grammar :=
  seq charGrammar (seq charGrammar (seq charGrammar (seq (fixed 4) (seq (fixed 8) (seq (fixed 4)
    (seq (fixed 4) (seq (fixed 4) (seq (fixed 4) (seq (fixed 4) (seq (fixed 4) (fixed 1)))))))))))

/-- A message with access points. -/
def apInRangeGrammar : Grammar :=
  seq headerGrammar (seq charGrammar (seq charGrammar (seq (fixed 4) (counted apGrammar))))

/-! ## What the decoders advance over -/

lemma consumes_strncpy (n : ℕ) : Consumes (strncpy n) (fixed n) where
  pos_le m c := by simp [strncpy]
  pos_eq_iff m c k := by simp [strncpy, fixed, eq_comm]
  reads_mono m c o h := by simp [strncpy, h]
  reads_lt m c o h := by
    rcases List.mem_append.mp h with h | h
    · exact Or.inl h
    · have hlt := (List.mem_range'_1.mp h).2
      exact Or.inr (hlt.trans_le (by simp [strncpy]))

lemma consumes_decodeChar : Consumes decodeChar charGrammar := by
  refine Consumes.tagged fun sLen => ?_
  by_cases hzero : sLen = 0
  · simp only [hzero, charBlock, if_true]
    exact Consumes.pure none
  · simp only [hzero, if_false]
    exact (consumes_strncpy _).map some

lemma consumes_decodeHeader : Consumes decodeHeader headerGrammar :=
  (Consumes.scalar Int32).bind fun _ => (Consumes.scalar Int32).bind fun _ =>
    consumes_decodeChar.bind fun _ => (Consumes.scalar Int32).map _

lemma consumes_decodeInterface : Consumes decodeInterface interfaceGrammar :=
  (Consumes.scalar Int64).bind fun _ => consumes_decodeChar.bind fun _ =>
    (Consumes.scalar UInt32).bind fun _ => consumes_decodeChar.bind fun _ =>
      (Consumes.scalar Bool).map _

lemma consumes_decodeMsgIntf : Consumes decodeMsgIntf intfGrammar :=
  consumes_decodeHeader.bind fun _ => consumes_decodeChar.bind fun _ =>
    (Consumes.scalar Int32).bind fun _ =>
      Consumes.tagged fun _ => (consumes_decodeInterface.array _).map _

lemma consumes_decodeApInRange : Consumes decodeApInRange apGrammar :=
  consumes_decodeChar.bind fun _ => consumes_decodeChar.bind fun _ =>
    consumes_decodeChar.bind fun _ => (Consumes.scalar Int32).bind fun _ =>
      (Consumes.scalar Int64).bind fun _ => (Consumes.scalar Int32).bind fun _ =>
        (Consumes.scalar CFloat).bind fun _ => (Consumes.scalar Int32).bind fun _ =>
          (Consumes.scalar Int32).bind fun _ => (Consumes.scalar Int32).bind fun _ =>
            (Consumes.scalar Int32).bind fun _ => (Consumes.scalar Bool).map _

lemma consumes_decodeMsgApInRange : Consumes decodeMsgApInRange apInRangeGrammar :=
  consumes_decodeHeader.bind fun _ => consumes_decodeChar.bind fun _ =>
    consumes_decodeChar.bind fun _ => (Consumes.scalar Int32).bind fun _ =>
      Consumes.tagged fun _ => (consumes_decodeApInRange.array _).map _

lemma readsLast_decodeHeader : ReadsLast decodeHeader :=
  ReadsLast.bind fun _ => ReadsLast.bind fun _ => ReadsLast.bind fun _ =>
    (ReadsLast.scalar (by decide)).map _

lemma readsLast_decodeMsgIntf : ReadsLast decodeMsgIntf := by
  have hentry : ReadsLast decodeInterface :=
    ReadsLast.bind fun _ => ReadsLast.bind fun _ => ReadsLast.bind fun _ => ReadsLast.bind fun _ =>
      (ReadsLast.scalar (by decide)).map _
  exact ReadsLast.bind fun _ => ReadsLast.bind fun _ => ReadsLast.bind fun _ => hentry.counted _

lemma readsLast_decodeMsgApInRange : ReadsLast decodeMsgApInRange := by
  have hentry : ReadsLast decodeApInRange :=
    ReadsLast.bind fun _ => ReadsLast.bind fun _ => ReadsLast.bind fun _ => ReadsLast.bind fun _ =>
      ReadsLast.bind fun _ => ReadsLast.bind fun _ => ReadsLast.bind fun _ => ReadsLast.bind fun _ =>
        ReadsLast.bind fun _ => ReadsLast.bind fun _ => ReadsLast.bind fun _ =>
          (ReadsLast.scalar (by decide)).map _
  exact ReadsLast.bind fun _ => ReadsLast.bind fun _ => ReadsLast.bind fun _ =>
    ReadsLast.bind fun _ => hentry.counted _

/-! ## Messages that are safe to receive -/

/-- The type in the header of a message. -/
def msgType (msg : List UInt8) : Int32 := Scalar.ofBytes Int32 (msg.take 4)

/-- The length field of the version of a message. -/
def versionLen (msg : List UInt8) : UInt32 := Scalar.ofBytes UInt32 ((msg.drop 8).take 4)

/-- The block of characters of the version of a message. -/
def versionBlock (msg : List UInt8) : List UInt8 := (msg.drop 12).take (charBlock (versionLen msg))

/-- The version passes the comparison with `ETHANOL_VERSION` for some contents of the heap behind it.
For a terminated version, or one that is no beginning of `ETHANOL_VERSION`, the heap plays no role. -/
def MayPassVersion (msg : List UInt8) : Prop :=
  versionLen msg ≠ 0 ∧ ∃ tail, CString.ofBytes (versionBlock msg ++ tail) = ethanolVersion

/-- The grammar of the messages that a case handles, as far as their decoders are part of this module. -/
def caseGrammar : EnumMsgType → Grammar
  | .msgGetAllIntf | .msgGetOneIntf => intfGrammar
  | .msgGetApInRangeType => apInRangeGrammar
  | _ => headerGrammar

/-- The fields that the servlet and the two decoders look for are all inside the message. -/
def FieldsFit (msg : List UInt8) : Prop :=
  msg.length = 0 ∨
    (headerGrammar.Starts msg ∧
      (MayPassVersion msg → ∀ t, servletCase (msgType msg) = some t → (caseGrammar t).Starts msg))

/-- Whatever lies behind the message, only bytes of the message are read, and the message is dispatched
only if its fields are all there. -/
def WireSafe (msg : List UInt8) : Prop :=
  ∀ beyond heap,
    (∀ o ∈ (servlet msg beyond heap).reads, o < msg.length) ∧
      ∀ t, (servlet msg beyond heap).outcome = .dispatched t → (caseGrammar t).Starts msg

/-- The header of a message that contains it is read from the message alone, except that an
unterminated version goes on in the heap. -/
lemma decodeHeader_of_starts {msg : List UInt8} (hs : headerGrammar.Starts msg)
    (beyond : ℕ → UInt8) (heap : ℕ → List UInt8) :
    (decodeHeader (Memory.ofBytes msg beyond heap) Cursor.start).1.mType = msgType msg ∧
      (decodeHeader (Memory.ofBytes msg beyond heap) Cursor.start).1.mVersion =
        if versionLen msg = 0 then none
        else some (CString.ofBytes (versionBlock msg ++ heap 12)) := by
  set m := Memory.ofBytes msg beyond heap with hm
  have hpos : (decodeHeader m Cursor.start).2.pos ≤ msg.length :=
    (consumes_decodeHeader.pos_le_length_iff msg beyond heap []).mpr hs
  have hend : (decodeHeader m Cursor.start).2.pos = (decodeChar m ⟨8, _⟩).2.pos + 4 := rfl
  rw [hend, decodeChar_pos] at hpos
  dsimp only at hpos
  have hlen : Scalar.ofBytes UInt32 (m.slice 8 4) = versionLen msg := by
    rw [hm, Memory.ofBytes_slice_drop _ _ _ (by omega), versionLen]
  rw [hlen] at hpos
  constructor
  · have htype : (decodeHeader m Cursor.start).1.mType = Scalar.ofBytes Int32 (m.slice 0 4) := rfl
    rw [htype, hm, Memory.ofBytes_slice _ _ _ (by omega), msgType]
  · have hversion : (decodeHeader m Cursor.start).1.mVersion = (decodeChar m ⟨8, _⟩).1 := rfl
    rw [hversion, decodeChar_fst]
    simp only [hlen]
    rw [hm, Memory.ofBytes_slice_drop _ _ _ (by omega), versionBlock]
    rfl

/-- A handler keeps the record of the reads before it. -/
lemma subset_handlerReads (t : EnumMsgType) (m : Memory) (rs : List ℕ) :
    rs ⊆ handlerReads t m rs := by
  unfold handlerReads
  split
  · exact consumes_decodeMsgIntf.reads_mono m ⟨0, rs⟩
  · exact consumes_decodeMsgIntf.reads_mono m ⟨0, rs⟩
  · exact consumes_decodeMsgApInRange.reads_mono m ⟨0, rs⟩
  · exact List.Subset.refl rs

/-- A handler reads only received bytes exactly when the message conforms to the grammar of its case. -/
lemma handlerReads_lt_iff (t : EnumMsgType) (msg : List UInt8) (beyond : ℕ → UInt8)
    (heap : ℕ → List UInt8) {rs : List ℕ} (hrs : ∀ o ∈ rs, o < msg.length)
    (hs : headerGrammar.Starts msg) :
    (∀ o ∈ handlerReads t (Memory.ofBytes msg beyond heap) rs, o < msg.length) ↔
      (caseGrammar t).Starts msg := by
  unfold handlerReads caseGrammar
  split
  · exact consumes_decodeMsgIntf.reads_lt_iff readsLast_decodeMsgIntf msg beyond heap hrs
  · exact consumes_decodeMsgIntf.reads_lt_iff readsLast_decodeMsgIntf msg beyond heap hrs
  · exact consumes_decodeMsgApInRange.reads_lt_iff readsLast_decodeMsgApInRange msg beyond heap hrs
  · exact iff_of_true hrs hs

/-- A run of the servlet on a received message either ends after the header, or has found this
version and a case for the type and goes on with the handler of that case. -/
lemma servlet_cases {msg : List UInt8} (hne : msg.length ≠ 0) (beyond : ℕ → UInt8)
    (heap : ℕ → List UInt8) :
    ((∀ t, (servlet msg beyond heap).outcome ≠ .dispatched t) ∧
        (servlet msg beyond heap).reads =
          (decodeHeader (Memory.ofBytes msg beyond heap) Cursor.start).2.reads) ∨
      ∃ t, (decodeHeader (Memory.ofBytes msg beyond heap) Cursor.start).1.mVersion =
          some ethanolVersion ∧
        servletCase (decodeHeader (Memory.ofBytes msg beyond heap) Cursor.start).1.mType = some t ∧
        servlet msg beyond heap =
          ⟨.dispatched t, handlerReads t (Memory.ofBytes msg beyond heap)
            (decodeHeader (Memory.ofBytes msg beyond heap) Cursor.start).2.reads⟩ := by
  have herr : servletCase EnumMsgType.msgErrType.code = none := by decide
  simp only [servlet, if_neg hne]
  rcases decodeHeader (Memory.ofBytes msg beyond heap) Cursor.start with ⟨header, c⟩
  dsimp only
  rcases header.mVersion with _ | pVersion
  · exact Or.inl ⟨nofun, rfl⟩
  by_cases hversion : pVersion = ethanolVersion
  · simp only [if_pos hversion]
    cases hcase : servletCase header.mType with
    | none => exact Or.inl ⟨nofun, rfl⟩
    | some t => exact Or.inr ⟨t, by rw [hversion], rfl, rfl⟩
  · simp only [if_neg hversion, herr]
    exact Or.inl ⟨nofun, trivial⟩

/-- A request for all interfaces that announces one interface and ends there. -/
def truncatedIntf : List UInt8 :=
  [headerBytes EnumMsgType.msgGetAllIntf.code 7 34, charBytes none, Scalar.toBytes (0 : Int32),
    Scalar.toBytes (1 : UInt32)].flatten

end Ethanol
