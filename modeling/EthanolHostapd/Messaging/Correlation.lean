import EthanolHostapd.Messaging.Acs
import EthanolHostapd.Messaging.ApInRange
import EthanolHostapd.Messaging.Intf
import EthanolHostapd.Messaging.WlanInfo

/-!
# Reply correlation

A client matches replies to requests by `m_id`.  Four handlers answer with the message they decoded, so
the reply starts with the id of the request; but when they relay the request to a station they pass
`&h->m_id` to a `send_msg_*` function, which takes the next id from there by post-increment.
`process_msg_scan_received` copies the id to a local variable first; these four do not.

For each handler this module proves that the reply carries the id of the request exactly when the
request was not relayed over a connection.  The lemmas `answerMsgIntf_mId_local`,
`answerMsgIntf_mId_relayed` and their like are about the message it answers with; `reply_mId_eq_iff` is
about the bytes of the reply.
-/

namespace Ethanol

open Wire

/-! ## The header of each reply -/

section Written

variable {o : Out} {bs : List UInt8}

lemma encodeInterface_mono (i : Interface) (h : bs <+: o.bytes) :
    bs <+: (encodeInterface o i).bytes := by
  unfold encodeInterface
  apply_rules [Out.scalar_mono, encodeChar_mono]

lemma encodeApInRange_mono (a : ApInRange) (h : bs <+: o.bytes) :
    bs <+: (encodeApInRange o a).bytes := by
  unfold encodeApInRange
  apply_rules [Out.scalar_mono, encodeChar_mono]

lemma encodeWlanEntry_mono (e : WlanEntry) (h : bs <+: o.bytes) :
    bs <+: (encodeWlanEntry o e).bytes := by
  unfold encodeWlanEntry
  apply_rules [Out.scalar_mono, encodeChar_mono]

end Written

lemma encodeMsgIntf_header (h : MsgIntf) :
    (encodeMsgIntf h).header = ⟨h.mType, h.mId, some ethanolVersion, sizeMsgIntf h⟩ := by
  apply Encoded.header_eq
  refine Out.each_mono (fun _ => encodeInterface_mono) _ _ ?_
  exact Out.scalar_mono (Out.scalar_mono (encodeChar_mono List.prefix_rfl _) _) _

lemma encodeMsgApInRange_header (h : MsgApInRange) :
    (encodeMsgApInRange h).header =
      ⟨h.mType, h.mId, some ethanolVersion, messageSizeApInRange h⟩ := by
  apply Encoded.header_eq
  refine Out.each_mono (fun _ => encodeApInRange_mono) _ _ ?_
  refine Out.scalar_mono (Out.scalar_mono ?_ _) _
  exact encodeChar_mono (encodeChar_mono List.prefix_rfl _) _

lemma encodeMsgWlanInfo_header (h : MsgWlanInfo) :
    (encodeMsgWlanInfo h).header =
      ⟨h.mType, h.mId, some ethanolVersion, messageSizeWlanInfo h⟩ := by
  apply Encoded.header_eq
  refine Out.each_mono (fun _ => encodeWlanEntry_mono) _ _ ?_
  exact Out.scalar_mono (Out.scalar_mono (encodeChar_mono List.prefix_rfl _) _) _

lemma encodeMsgAcs_header (h : MsgAcs) :
    (encodeMsgAcs h).header = ⟨h.mType, h.mId, some ethanolVersion, sizeMsgAcs h⟩ := by
  apply Encoded.header_eq
  refine Out.each_mono (fun _ x ho => Out.scalar_mono ho x) _ _ ?_
  refine Out.each_mono (fun _ x ho => Out.scalar_mono ho x) _ _ ?_
  refine Out.scalar_mono (Out.scalar_mono (Out.scalar_mono ?_ _) _) _
  exact encodeChar_mono (encodeChar_mono List.prefix_rfl _) _

/-! ## The message each handler answers with -/

/-- A request to this station is not relayed: it names no station, or there is no connection to it. -/
def NotRelayed (net : Network) (staIp : Option CString) (staPort : Int32) : Prop :=
  ∀ ip, staIp = some ip → net ip staPort = none

@[simp] lemma notRelayed_none (net : Network) (staPort : Int32) : NotRelayed net none staPort := by
  simp [NotRelayed]

@[simp] lemma notRelayed_some {net : Network} {ip : CString} {staPort : Int32} :
    NotRelayed net (some ip) staPort ↔ net ip staPort = none := by
  simp [NotRelayed]

lemma relayMsgIntf_id (env : IntfEnv) (h : MsgIntf) (staIp : CString) :
    (relayMsgIntf env h staIp).2 = nextId env.net staIp h.staPort h.mId := by
  unfold relayMsgIntf sendMsgGetInterfaces sendMsgGetOneIntf genericGetIntfMsg
  split
  · rw [if_neg (by simp), exchange_id]
  · rw [if_neg (by simp), exchange_id]

/-- `process_msg_intf` answers a local request under its id. -/
lemma answerMsgIntf_mId_local {env : IntfEnv} {h r : MsgIntf} (hsta : h.staIp = none)
    (hr : answerMsgIntf env h = some r) : r.mId = h.mId := by
  simp only [answerMsgIntf, hsta] at hr
  split at hr
  · split at hr <;> (cases hr; rfl)
  · obtain ⟨intf, -, hr⟩ := Option.bind_eq_some_iff.mp hr
    cases hr
    rfl

/-- `process_msg_intf` answers a relayed request under the id that the relay leaves behind. -/
lemma answerMsgIntf_mId_relayed (env : IntfEnv) {h : MsgIntf} {staIp : CString}
    (hsta : h.staIp = some staIp) :
    (answerMsgIntf env h).map MsgIntf.mId = some (nextId env.net staIp h.staPort h.mId) := by
  rw [← relayMsgIntf_id]
  simp only [answerMsgIntf, hsta]
  rcases relayMsgIntf env h staIp with ⟨_ | h1, mId⟩ <;> rfl

lemma answerMsgApInRange_mId_local {env : ApInRangeEnv} {h : MsgApInRange} (hsta : h.staIp = none) :
    (answerMsgApInRange env h).mId = h.mId := by
  simp only [answerMsgApInRange, hsta]

lemma answerMsgApInRange_mId_relayed (env : ApInRangeEnv) {h : MsgApInRange} {staIp : CString}
    (hsta : h.staIp = some staIp) :
    (answerMsgApInRange env h).mId = nextId env.net staIp h.staPort h.mId := by
  simp only [answerMsgApInRange, hsta]
  split <;> exact exchange_id _ _ _ _ _ _

lemma answerMsgWlanInfo_mId_local {env : WlanInfoEnv} {h r : MsgWlanInfo} (hsta : h.staIp = none)
    (hr : answerMsgWlanInfo env h = some r) : r.mId = h.mId := by
  simp only [answerMsgWlanInfo, hsta] at hr
  split at hr
  · obtain ⟨entry, -, hr⟩ := Option.bind_eq_some_iff.mp hr
    cases hr
    rfl
  · cases hr
    rfl

lemma answerMsgWlanInfo_mId_relayed (env : WlanInfoEnv) {h : MsgWlanInfo} {staIp intfName : CString}
    (hsta : h.staIp = some staIp) (hname : h.entry.head?.bind WlanEntry.intfName = some intfName) :
    (answerMsgWlanInfo env h).map MsgWlanInfo.mId =
      some (nextId env.net staIp h.staPort h.mId) := by
  have hsend : ∃ sent, sendMsgGetWlanInfo env staIp h.staPort h.mId (some intfName) none 0 =
      some sent ∧ sent.2 = nextId env.net staIp h.staPort h.mId := by
    simp only [sendMsgGetWlanInfo, Option.isNone_some, Bool.false_eq_true, false_and, if_false]
    exact ⟨_, rfl, exchange_id _ _ _ _ _ _⟩
  obtain ⟨sent, hsend, hid⟩ := hsend
  rw [← hid]
  simp only [answerMsgWlanInfo, hsta, hname, hsend, Option.bind_eq_bind, Option.bind_some]
  rcases sent with ⟨_ | h1, mId⟩ <;> rfl

/-- Without an interface name, `process_msg_wlan_info` either cannot connect to the station, or follows a
`NULL` pointer and does not answer. -/
lemma answerMsgWlanInfo_mId_unnamed {env : WlanInfoEnv} {h r : MsgWlanInfo} {staIp : CString}
    (hsta : h.staIp = some staIp) (hname : h.entry.head?.bind WlanEntry.intfName = none)
    (hr : answerMsgWlanInfo env h = some r) : r.mId = h.mId := by
  simp only [answerMsgWlanInfo, hsta, hname, Option.bind_eq_bind] at hr
  obtain ⟨sent, hsend, hr⟩ := Option.bind_eq_some_iff.mp hr
  simp only [sendMsgGetWlanInfo, Option.isNone_none, true_and] at hsend
  split at hsend
  · cases hsend
  · next hnone =>
      have hid : sent.2 = nextId env.net staIp h.staPort h.mId := by
        rw [← Option.some.inj hsend, exchange_id]
      rw [nextId, if_neg hnone] at hid
      rcases sent with ⟨_ | h1, mId⟩ <;> (cases hr; exact hid)

lemma answerMsgAcs_mId_local {env : AcsEnv} {h : MsgAcs}
    (hlocal : h.intfName = none ∨ h.staIp = none) : (answerMsgAcs env h).mId = h.mId := by
  rcases hname : h.intfName with _ | intfName
  · simp only [answerMsgAcs, hname]
  · have hsta : h.staIp = none := by simpa [hname] using hlocal
    simp only [answerMsgAcs, hname, hsta]

lemma answerMsgAcs_mId_relayed (env : AcsEnv) {h : MsgAcs} {staIp intfName : CString}
    (hsta : h.staIp = some staIp) (hname : h.intfName = some intfName) :
    (answerMsgAcs env h).mId = nextId env.net staIp h.staPort h.mId := by
  simp only [answerMsgAcs, hsta, hname]
  split <;> exact exchange_id _ _ _ _ _ _

/-! ## The reply -/

/-- A statement about the id in the bytes of a reply is one about the id of the message encoded. -/
lemma forall_header_mId_iff {α : Type} {encode : α → Encoded} {mId : α → Int32}
    (hencode : ∀ r, (encode r).header.mId = mId r) (answer : Option α) (id : Int32) :
    (∀ e, answer.map encode = some e → e.header.mId = id) ↔
      ∀ r, answer = some r → mId r = id := by
  cases answer with
  | none => simp
  | some r => simp [hencode]

lemma processMsgIntf_mId_iff (env : IntfEnv) (input : Memory) {h : MsgIntf}
    (hh : h = (decodeMsgIntf input Cursor.start).1) :
    (∀ e, processMsgIntf env input = some e → e.header.mId = h.mId) ↔
      NotRelayed env.net h.staIp h.staPort := by
  rw [processMsgIntf, ← hh, forall_header_mId_iff fun r => by rw [encodeMsgIntf_header]]
  rcases hsta : h.staIp with _ | staIp
  · simp only [notRelayed_none, iff_true]
    exact fun r => answerMsgIntf_mId_local hsta
  · obtain ⟨r, hr, hid⟩ := Option.map_eq_some_iff.mp (answerMsgIntf_mId_relayed env hsta)
    rw [notRelayed_some, ← nextId_eq_iff _ _ _ h.mId, ← hid]
    simp [hr]

lemma processMsgApInRange_mId_iff (env : ApInRangeEnv) (input : Memory) {h : MsgApInRange}
    (hh : h = (decodeMsgApInRange input Cursor.start).1) :
    (processMsgApInRange env input).header.mId = h.mId ↔
      NotRelayed env.net h.staIp h.staPort := by
  rw [processMsgApInRange, ← hh, encodeMsgApInRange_header]
  rcases hsta : h.staIp with _ | staIp
  · simpa using answerMsgApInRange_mId_local hsta
  · rw [notRelayed_some, ← nextId_eq_iff _ _ _ h.mId]
    simp only [answerMsgApInRange_mId_relayed env hsta]

lemma processMsgWlanInfo_mId_iff (env : WlanInfoEnv) (input : Memory) {h : MsgWlanInfo}
    (hh : h = (decodeMsgWlanInfo (env.fresh 0) input Cursor.start).1) :
    (∀ e, processMsgWlanInfo env input = some e → e.header.mId = h.mId) ↔
      (h.entry.head?.bind WlanEntry.intfName = none ∨
        NotRelayed env.net h.staIp h.staPort) := by
  rw [processMsgWlanInfo, ← hh, forall_header_mId_iff fun r => by rw [encodeMsgWlanInfo_header]]
  rcases hsta : h.staIp with _ | staIp
  · simp only [notRelayed_none, or_true, iff_true]
    exact fun r => answerMsgWlanInfo_mId_local hsta
  rcases hname : h.entry.head?.bind WlanEntry.intfName with _ | intfName
  · simp only [true_or, iff_true]
    exact fun r => answerMsgWlanInfo_mId_unnamed hsta hname
  · obtain ⟨r, hr, hid⟩ :=
      Option.map_eq_some_iff.mp (answerMsgWlanInfo_mId_relayed env hsta hname)
    rw [notRelayed_some, ← nextId_eq_iff _ _ _ h.mId, ← hid]
    simp [hr]

lemma processMsgAcs_mId_iff (env : AcsEnv) (input : Memory) {h : MsgAcs}
    (hh : h = (decodeMsgAcs input Cursor.start).1) :
    (processMsgAcs env input).header.mId = h.mId ↔
      (h.intfName = none ∨ NotRelayed env.net h.staIp h.staPort) := by
  rw [processMsgAcs, ← hh, encodeMsgAcs_header]
  rcases hname : h.intfName with _ | intfName
  · simpa using answerMsgAcs_mId_local (Or.inl hname)
  rcases hsta : h.staIp with _ | staIp
  · simpa using answerMsgAcs_mId_local (Or.inr hsta)
  · rw [notRelayed_some, ← nextId_eq_iff _ _ _ h.mId]
    simp [answerMsgAcs_mId_relayed env hsta hname]

/-- The replies of the four handlers carry the id of their request exactly when the request is not
relayed to a station over a connection.  A request for ACS without an interface name is never relayed;
one for WLAN information without an interface name is not answered once it is relayed. -/
theorem reply_mId_eq_iff (intfEnv : IntfEnv) (apEnv : ApInRangeEnv) (wlanEnv : WlanInfoEnv)
    (acsEnv : AcsEnv) (input : Memory) :
    (let h := (decodeMsgIntf input Cursor.start).1;
      (∀ e, processMsgIntf intfEnv input = some e → e.header.mId = h.mId) ↔
        NotRelayed intfEnv.net h.staIp h.staPort) ∧
    (let h := (decodeMsgApInRange input Cursor.start).1;
      (processMsgApInRange apEnv input).header.mId = h.mId ↔
        NotRelayed apEnv.net h.staIp h.staPort) ∧
    (let h := (decodeMsgWlanInfo (wlanEnv.fresh 0) input Cursor.start).1;
      (∀ e, processMsgWlanInfo wlanEnv input = some e → e.header.mId = h.mId) ↔
        (h.entry.head?.bind WlanEntry.intfName = none ∨
          NotRelayed wlanEnv.net h.staIp h.staPort)) ∧
    (let h := (decodeMsgAcs input Cursor.start).1;
      (processMsgAcs acsEnv input).header.mId = h.mId ↔
        (h.intfName = none ∨ NotRelayed acsEnv.net h.staIp h.staPort)) :=
  ⟨processMsgIntf_mId_iff intfEnv input rfl, processMsgApInRange_mId_iff apEnv input rfl,
    processMsgWlanInfo_mId_iff wlanEnv input rfl, processMsgAcs_mId_iff acsEnv input rfl⟩

/-- A machine that reaches every station; the stations answer with a cleared buffer. -/
def relayingHost : IntfEnv where
  net _ _ := some fun _ => ⟨0, fun _ => 0, fun _ => []⟩
  interfaces := []
  uninit := (0, false)

/-- A request for all interfaces of the station `"sta"`, under the id 7, as it arrives. -/
def relayRequest : Memory :=
  Memory.ofBytes (encodeMsgIntf {
    mType := EnumMsgType.msgGetAllIntf.code, mId := 7, pVersion := some ethanolVersion, mSize := 0,
    staIp := some ⟨[115, 116, 97], by decide⟩, staPort := 0, numIntf := 0,
    intf := [] }).out.bytes (fun _ => 0) (fun _ => [])

/-- The relayed request has the id 7 and the reply the id 8. -/
theorem reply_mId_relayed :
    (decodeMsgIntf relayRequest Cursor.start).1.mId = 7 ∧
      (processMsgIntf relayingHost relayRequest).map (fun e => e.header.mId) = some 8 := by
  decide +kernel

end Ethanol
