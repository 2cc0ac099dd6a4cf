import EthanolHostapd.Messaging.Client

/-!
# Automatic channel selection

`msg_acs.c`.  A `MSG_GET_ACS` request names an interface and asks for its interference indices; the
reply carries one frequency and one factor per channel.  The channel count is a signed `int`.  The
loops of the encoder do not run for a negative count, but `size_msg_acs` multiplies it into an
`unsigned long`, so that the size shrinks below the fixed part of the message.

`process_msg_acs` answers a request that names no interface with the request itself, hence with the
channel count that came in.
-/

namespace Ethanol

open Wire

/-- `struct msg_acs`. -/
structure MsgAcs where
  mType : Int32
  mId : Int32
  pVersion : Option CString
  mSize : Int32
  intfName : Option CString
  staIp : Option CString
  staPort : Int32
  numTests : Int32
  numChan : Int32
  freq : List Int32
  factor : List Int64
  deriving DecidableEq

/-- `size_msg_acs`, converted to the `int` of `*buf_len`. -/
def sizeMsgAcs (h : MsgAcs) : Int32 :=
  Int32.ofInt (
    4 + 4 + (strlenEthanol h.pVersion).toInt + 4 +
    (strlenEthanol h.intfName).toInt +
    (strlenEthanol h.staIp).toInt + 4 +
    4 + -- num_tests
    4 + -- num_chan
    (4 + 8) * h.numChan.toInt)

/-- `encode_msg_acs`. -/
def encodeMsgAcs (h : MsgAcs) : Encoded :=
  let bufLen := sizeMsgAcs h
  let aux := Out.ofBytes []
  let aux := encodeHeader aux h.mType h.mId bufLen -- h->m_size = *buf_len
  let aux := encodeChar aux h.intfName
  let aux := encodeChar aux h.staIp
  let aux := encodeInt aux h.staPort
  let aux := encodeInt aux h.numTests
  let aux := encodeInt aux h.numChan
  let aux := Out.each encodeInt (loopCount h.numChan) h.freq aux
  ⟨bufLen, Out.each encode2long (loopCount h.numChan) h.factor aux⟩

/-- `decode_msg_acs`; for a count that is not positive both arrays are `NULL`. -/
def decodeMsgAcs : Decoder MsgAcs := do
  let header ← decodeHeader
  let intfName ← decodeChar
  let staIp ← decodeChar
  let staPort ← decodeInt
  let numTests ← decodeInt
  let numChan ← decodeInt
  let freq ← Decoder.array (loopCount numChan) decodeInt
  let factor ← Decoder.array (loopCount numChan) decode2long
  pure {
    mType := header.mType, mId := header.mId, pVersion := header.mVersion, mSize := header.mSize,
    intfName, staIp, staPort, numTests, numChan, freq, factor }

/-- `struct interference_index`, as `get_acs` returns it, with the factors already scaled by
`ACS_SCALE_FACTOR` and truncated.  The count is the number of channels of the survey. -/
structure InterferenceIndex where
  numChan : Int32
  freq : List Int32
  factor : List Int64
  freq_count : Counts numChan freq
  factor_count : Counts numChan factor

/-- The surroundings of `process_msg_acs`. -/
structure AcsEnv where
  /-- The stations. -/
  net : Network
  /-- `get_acs`. -/
  getAcs : CString → Int32 → InterferenceIndex
  /-- The `num_tests` of a relayed request, which is sent uninitialised. -/
  uninit : Int32

/-- `send_msg_get_acs`. -/
def sendMsgGetAcs (env : AcsEnv) (hostname : CString) (portnum id : Int32)
    (intfName staIp : Option CString) (staPort : Int32) : Option MsgAcs × Int32 :=
  exchange env.net hostname portnum id
    (fun mId => encodeMsgAcs {
      mType := EnumMsgType.msgGetAcs.code, mId, pVersion := some ethanolVersion, mSize := 0,
      intfName, staIp, staPort, numTests := env.uninit, numChan := 0, freq := [], factor := [] })
    (fun answer =>
      if returnMessageType answer.buf = EnumMsgType.msgGetAcs.code then
        some (decodeMsgAcs answer.buf Cursor.start).1
      else none)

/-- What `process_msg_acs` makes of the decoded request before it encodes it as the reply. -/
def answerMsgAcs (env : AcsEnv) (h : MsgAcs) : MsgAcs :=
  match h.intfName with
  | none => h
  | some intfName =>
    let h := { h with numTests := if h.numTests ≤ 0 then 1 else h.numTests }
    match h.staIp with
    | some staIp =>
      let sent := sendMsgGetAcs env staIp h.staPort h.mId (some intfName) none 0
      let h := { h with mId := sent.2 } -- the id was passed as &h->m_id
      match sent.1 with
      | some h1 => { h with numChan := h1.numChan, freq := h1.freq, factor := h1.factor }
      | none => h
    | none =>
      let idx := env.getAcs intfName h.numTests
      { h with numChan := idx.numChan, freq := idx.freq, factor := idx.factor }

/-- `process_msg_acs`: the reply to the request in `input`. -/
def processMsgAcs (env : AcsEnv) (input : Memory) : Encoded :=
  encodeMsgAcs (answerMsgAcs env (decodeMsgAcs input Cursor.start).1)

/-! ## Layout on the wire -/

namespace MsgAcs

/-- There is a frequency and a factor for each iteration of the loops over the channels. -/
def Filled (h : MsgAcs) : Prop :=
  h.freq.length = loopCount h.numChan ∧ h.factor.length = loopCount h.numChan

/-- The wire image of a message. -/
def bytes (h : MsgAcs) : List UInt8 :=
  [headerBytes h.mType h.mId (sizeMsgAcs h), charBytes h.intfName, charBytes h.staIp,
    Scalar.toBytes h.staPort, Scalar.toBytes h.numTests, Scalar.toBytes h.numChan,
    h.freq.flatMap Scalar.toBytes, h.factor.flatMap Scalar.toBytes].flatten

/-- The size of a message of this version without its channels. -/
def fixedSize (h : MsgAcs) : ℕ := 22 + (strLen h.intfName + 5) + (strLen h.staIp + 5) + 4 + 4 + 4

lemma encode_eq {h : MsgAcs} (hintf : StrFits h.intfName) (hsta : StrFits h.staIp)
    (hfill : h.Filled) : encodeMsgAcs h = ⟨sizeMsgAcs h, Out.ofBytes h.bytes⟩ := by
  have hfreq : h.freq.take (loopCount h.numChan) = h.freq := by
    rw [← hfill.1, List.take_length]
  have hfactor : h.factor.take (loopCount h.numChan) = h.factor := by
    rw [← hfill.2, List.take_length]
  simp only [encodeMsgAcs, encodeHeader_ofBytes, encodeChar_ofBytes hintf, encodeChar_ofBytes hsta,
    Out.ofBytes_scalar, Out.each_scalar_ofBytes, hfreq, hfactor]
  simp [bytes]

/-- The bytes written: the fixed part, less the slack of the strings, and 12 for each channel. -/
lemma length_bytes {h : MsgAcs} (hfill : h.Filled) :
    (h.bytes.length : ℤ) + (strSlack h.intfName + strSlack h.staIp : ℕ) =
      h.fixedSize + 12 * loopCount h.numChan := by
  have hname := length_charBytes h.intfName
  have hsta := length_charBytes h.staIp
  obtain ⟨hfreq, hfactor⟩ := hfill
  simp only [bytes, fixedSize, List.flatten_cons, List.flatten_nil, List.length_append,
    List.length_nil, length_headerBytes, Scalar.length_toBytes, Scalar.width_int32,
    Scalar.length_flatMap_toBytes, Scalar.width_int64, hfreq, hfactor]
  omega

/-- The encoder stays in its buffer exactly when the count of channels fits. -/
lemma encode_inBuffer_iff {h : MsgAcs} (hv : h.pVersion = some ethanolVersion)
    (hintf : StrFits h.intfName) (hsta : StrFits h.staIp) (hfill : h.Filled) :
    (encodeMsgAcs h).InBuffer ↔ CountFits h.fixedSize 12 h.numChan := by
  have hname := strSlack_le_one h.intfName
  have hip := strSlack_le_one h.staIp
  have hsize : sizeMsgAcs h = Int32.ofInt (h.fixedSize + 12 * h.numChan.toInt) := by
    have hsum : 4 + 4 + strSize h.pVersion + 4 + strSize h.intfName + strSize h.staIp + 4 + 4 + 4 +
        (4 + 8) * h.numChan.toInt = h.fixedSize + 12 * h.numChan.toInt := by
      simp only [hv, strSize, strLen_ethanolVersion, fixedSize]
      push_cast
      ring
    rw [← hsum]
    apply ofInt_eq_of_modEq
    gcongr <;> apply strlenEthanol_modEq
  rw [encode_eq hintf hsta hfill, hsize]
  exact Encoded.inBuffer_iff_countFits (length_bytes hfill) (by omega) (by omega) (by omega)
    (by norm_num) (by norm_num)

/-- A decoded message has filled arrays. -/
lemma filled_decode (m : Memory) (c : Cursor) : (decodeMsgAcs m c).1.Filled :=
  ⟨List.Vector.toList_length _, List.Vector.toList_length _⟩

end MsgAcs

/-! ## The reply -/

/-- The count of channels that a reply will carry: that of the request if it names no interface or
the station gives no answer, that of the station, or that of the local survey. -/
def reportedChannels (env : AcsEnv) (h : MsgAcs) : Int32 :=
  match h.intfName, h.staIp with
  | none, _ => h.numChan
  | some intfName, some staIp =>
    match (sendMsgGetAcs env staIp h.staPort h.mId (some intfName) none 0).1 with
    | some h1 => h1.numChan
    | none => h.numChan
  | some intfName, none =>
    (env.getAcs intfName (if h.numTests ≤ 0 then 1 else h.numTests)).numChan

/-- A station's answer is a decoded message. -/
lemma filled_sendMsgGetAcs {env : AcsEnv} {hostname : CString} {portnum id : Int32}
    {intfName staIp : Option CString} {staPort : Int32} {h1 : MsgAcs}
    (h : (sendMsgGetAcs env hostname portnum id intfName staIp staPort).1 = some h1) :
    h1.Filled := by
  unfold sendMsgGetAcs exchange at h
  split at h
  · cases h
  · dsimp only at h
    split at h
    · cases h
      exact MsgAcs.filled_decode _ _
    · cases h

/-- What the reply has in common with the request, and its channels. -/
lemma answerMsgAcs_spec (env : AcsEnv) {h : MsgAcs} (hfill : h.Filled) :
    (answerMsgAcs env h).pVersion = h.pVersion ∧ (answerMsgAcs env h).intfName = h.intfName ∧
      (answerMsgAcs env h).staIp = h.staIp ∧
      (answerMsgAcs env h).numChan = reportedChannels env h ∧ (answerMsgAcs env h).Filled := by
  obtain ⟨mType, mId, pVersion, mSize, intfName, staIp, staPort, numTests, numChan, freq, factor⟩ := h
  rcases intfName with _ | intfName
  · exact ⟨rfl, rfl, rfl, rfl, hfill⟩
  rcases staIp with _ | staIp
  · set idx := env.getAcs intfName (if numTests ≤ 0 then 1 else numTests)
    exact ⟨rfl, rfl, rfl, rfl, idx.freq_count.loopCount_eq.symm,
      idx.factor_count.loopCount_eq.symm⟩
  · simp only [answerMsgAcs, reportedChannels]
    split
    · next h1 hsent =>
        have hanswer : h1.Filled := filled_sendMsgGetAcs hsent
        exact ⟨rfl, rfl, rfl, rfl, hanswer⟩
    · exact ⟨rfl, rfl, rfl, rfl, hfill⟩

/-- The reply stays in the buffer allocated for it exactly when the count it carries fits. -/
lemma processMsgAcs_inBuffer_iff (env : AcsEnv) (input : Memory) {h : MsgAcs}
    (hh : h = (decodeMsgAcs input Cursor.start).1) (hv : h.pVersion = some ethanolVersion)
    (hintf : StrFits h.intfName) (hsta : StrFits h.staIp) :
    (processMsgAcs env input).InBuffer ↔ CountFits h.fixedSize 12 (reportedChannels env h) := by
  obtain ⟨hv', hintf', hsta', hchan, hfill⟩ :=
    answerMsgAcs_spec env (hh ▸ MsgAcs.filled_decode input Cursor.start : h.Filled)
  rw [processMsgAcs, ← hh, MsgAcs.encode_inBuffer_iff (hv'.trans hv) (hintf' ▸ hintf)
    (hsta' ▸ hsta) hfill, hchan, MsgAcs.fixedSize, hintf', hsta', ← MsgAcs.fixedSize]

end Ethanol
