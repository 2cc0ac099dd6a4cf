import EthanolHostapd.Messaging.Acs

/-!
# Setting transmit bitrates

The `MSG_SET_TX_BITRATES` half of `msg_tx_bitrate.c`.  A request with `n <= 0` asks to clear all
bitrates (`iw_bitrates.h`).  The encoder writes such a count as zero and no bitrates, but
`message_size_set_tx_bitrate` multiplies the count as it is.
-/

namespace Ethanol

open Wire

/-- `t_set_bitrates`; `band` is the `enum bitrate_band`, as the `int` it is transmitted as. -/
structure TSetBitrates where
  band : Int32
  n : Int32
  bitrates : List Int32
  deriving DecidableEq

/-- `struct msg_set_tx_bitrates`. -/
structure MsgSetTxBitrates where
  mType : Int32
  mId : Int32
  pVersion : Option CString
  mSize : Int32
  intfName : Option CString
  staIp : Option CString
  staPort : Int32
  b : TSetBitrates
  deriving DecidableEq

/-- `message_size_set_tx_bitrate`, converted to the `int` of `*buf_len`. -/
def messageSizeSetTxBitrate (h : MsgSetTxBitrates) : Int32 :=
  Int32.ofInt (
    4 + 4 + (strlenEthanol h.pVersion).toInt + 4 +
    (strlenEthanol h.intfName).toInt +
    (strlenEthanol h.staIp).toInt + 4 +
    4 + -- band
    4 + -- n
    4 * h.b.n.toInt)

/-- `encode_msg_set_tx_bitrate`. -/
def encodeMsgSetTxBitrate (h : MsgSetTxBitrates) : Encoded :=
  let bufLen := messageSizeSetTxBitrate h
  let aux := Out.ofBytes []
  let aux := encodeHeader aux h.mType h.mId bufLen -- h->m_size = *buf_len
  let aux := encodeChar aux h.intfName
  let aux := encodeChar aux h.staIp
  let aux := encodeInt aux h.staPort
  let aux := encodeInt aux h.b.band
  let n := if 0 < h.b.n then h.b.n else 0
  let aux := encodeInt aux n
  ⟨bufLen, Out.each encodeInt (loopCount n) h.b.bitrates aux⟩

namespace MsgSetTxBitrates

/-- The wire image of a request. -/
def bytes (h : MsgSetTxBitrates) : List UInt8 :=
  [headerBytes h.mType h.mId (messageSizeSetTxBitrate h), charBytes h.intfName, charBytes h.staIp,
    Scalar.toBytes h.staPort, Scalar.toBytes h.b.band,
    Scalar.toBytes (if 0 < h.b.n then h.b.n else 0),
    (h.b.bitrates.take (loopCount h.b.n)).flatMap Scalar.toBytes].flatten

/-- The size of a request of this version without its bitrates. -/
def fixedSize (h : MsgSetTxBitrates) : ℕ :=
  22 + (strLen h.intfName + 5) + (strLen h.staIp + 5) + 4 + 4 + 4

/-- The count that is written drives the loop as often as the one that was given. -/
lemma loopCount_clamp (n : Int32) : loopCount (if 0 < n then n else 0) = loopCount n := by
  split
  · rfl
  · next h =>
      have hle : n.toInt ≤ 0 := by
        rw [Int32.lt_iff_toInt_lt] at h
        simpa using h
      rw [loopCount, loopCount, Int.toNat_of_nonpos hle]
      rfl

lemma encode_eq {h : MsgSetTxBitrates} (hintf : StrFits h.intfName) (hsta : StrFits h.staIp) :
    encodeMsgSetTxBitrate h = ⟨messageSizeSetTxBitrate h, Out.ofBytes h.bytes⟩ := by
  simp only [encodeMsgSetTxBitrate, encodeHeader_ofBytes, encodeChar_ofBytes hintf,
    encodeChar_ofBytes hsta, Out.ofBytes_scalar, Out.each_scalar_ofBytes, loopCount_clamp]
  simp [bytes]

/-- The encoder stays in its buffer exactly when the count of bitrates fits. -/
lemma encode_inBuffer_iff {h : MsgSetTxBitrates} (hv : h.pVersion = some ethanolVersion)
    (hintf : StrFits h.intfName) (hsta : StrFits h.staIp)
    (hfill : loopCount h.b.n ≤ h.b.bitrates.length) :
    (encodeMsgSetTxBitrate h).InBuffer ↔ CountFits h.fixedSize 4 h.b.n := by
  have hname := strSlack_le_one h.intfName
  have hip := strSlack_le_one h.staIp
  have hsize : messageSizeSetTxBitrate h = Int32.ofInt (h.fixedSize + 4 * h.b.n.toInt) := by
    have hsum : 4 + 4 + strSize h.pVersion + 4 + strSize h.intfName + strSize h.staIp + 4 + 4 + 4 +
        4 * h.b.n.toInt = h.fixedSize + 4 * h.b.n.toInt := by
      simp only [hv, strSize, strLen_ethanolVersion, fixedSize]
      push_cast
      ring
    rw [← hsum]
    apply ofInt_eq_of_modEq
    gcongr <;> apply strlenEthanol_modEq
  have hlen : (h.bytes.length : ℤ) + (strSlack h.intfName + strSlack h.staIp : ℕ) =
      h.fixedSize + 4 * loopCount h.b.n := by
    have hnamelen := length_charBytes h.intfName
    have hiplen := length_charBytes h.staIp
    simp only [bytes, fixedSize, List.flatten_cons, List.flatten_nil, List.length_append,
      List.length_nil, length_headerBytes, Scalar.length_toBytes, Scalar.width_int32,
      Scalar.length_flatMap_toBytes, List.length_take, min_eq_left hfill]
    omega
  rw [encode_eq hintf hsta, hsize]
  exact Encoded.inBuffer_iff_countFits hlen (by omega) (by omega) (by omega)
    (by norm_num) (by norm_num)

end MsgSetTxBitrates

/-! ## Buffer bounds of the two encoders with a signed count -/

/-- The reply of `process_msg_acs` and the request of `encode_msg_set_tx_bitrate` stay in their buffers
exactly when the signed count, multiplied into the size, leaves an `int` above the fixed part. -/
theorem acs_and_setTxBitrate_inBuffer_iff (env : AcsEnv) (input : Memory) (h : MsgAcs)
    (hh : h = (decodeMsgAcs input Cursor.start).1) (hv : h.pVersion = some ethanolVersion)
    (hintf : StrFits h.intfName) (hsta : StrFits h.staIp) (g : MsgSetTxBitrates)
    (hv' : g.pVersion = some ethanolVersion) (hintf' : StrFits g.intfName)
    (hsta' : StrFits g.staIp) (hfill : loopCount g.b.n ≤ g.b.bitrates.length) :
    ((processMsgAcs env input).InBuffer ↔ CountFits h.fixedSize 12 (reportedChannels env h)) ∧
      ((encodeMsgSetTxBitrate g).InBuffer ↔ CountFits g.fixedSize 4 g.b.n) :=
  ⟨processMsgAcs_inBuffer_iff env input hh hv hintf hsta,
    MsgSetTxBitrates.encode_inBuffer_iff hv' hintf' hsta' hfill⟩

/-- Surroundings without stations and without survey data. -/
def isolatedAcs : AcsEnv where
  net _ _ := none
  getAcs _ _ := ⟨0, [], [], by decide, by decide⟩
  uninit := 0

/-- A request for no interface with the given channel count, as it arrives. -/
def acsRequest (numChan : Int32) : Memory :=
  Memory.ofBytes (encodeMsgAcs {
    mType := EnumMsgType.msgGetAcs.code, mId := 7, pVersion := some ethanolVersion, mSize := 0,
    intfName := none, staIp := none, staPort := 0, numTests := 1, numChan, freq := [],
    factor := [] }).out.bytes (fun _ => 0) (fun _ => [])

/-- A request to set the given bitrates of `wlan1`. -/
def bitrateRequest (n : Int32) (bitrates : List Int32) : MsgSetTxBitrates where
  mType := EnumMsgType.msgSetTxBitrates.code
  mId := 7
  pVersion := some ethanolVersion
  mSize := 0
  intfName := some ⟨[119, 108, 97, 110, 49], by decide⟩
  staIp := none
  staPort := 0
  b := ⟨0, n, bitrates⟩

theorem acs_and_setTxBitrate_inBuffer_small :
    (processMsgAcs isolatedAcs (acsRequest 0)).InBuffer ∧
      (encodeMsgSetTxBitrate (bitrateRequest 2 [6, 54])).InBuffer := by
  obtain ⟨hacs, hbitrates⟩ := acs_and_setTxBitrate_inBuffer_iff isolatedAcs (acsRequest 0) _ rfl
    (by decide +kernel) (by decide +kernel) (by decide +kernel) (bitrateRequest 2 [6, 54]) rfl
    (by decide) (by decide) (by decide)
  exact ⟨hacs.mpr (by decide +kernel), hbitrates.mpr (by decide)⟩

/-- With a count of minus one, the buffer is too small for the fixed part in both cases. -/
theorem acs_and_setTxBitrate_overflow :
    ¬ (processMsgAcs isolatedAcs (acsRequest (-1))).InBuffer ∧
      ¬ (encodeMsgSetTxBitrate (bitrateRequest (-1) [])).InBuffer := by
  refine ⟨by decide +kernel, by decide⟩

end Ethanol
