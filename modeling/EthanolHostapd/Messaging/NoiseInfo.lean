import EthanolHostapd.Messaging.Fields

/-!
# Noise information

`msg_noiseinfo.c`.  The message reports the noise floor and the four channel times of each channel.
`size_msg_noiseinfo` adds the sizes of three of the four times; `channel_time_busy` is left out, so each
entry is written in 42 bytes and counted with 34.
-/

namespace Ethanol

open Wire

/-- `struct noise_field`. -/
structure NoiseField where
  chan : UInt32
  freq : UInt32
  nf : Int16
  channelTime : Int64
  channelTimeBusy : Int64
  channelTimeRx : Int64
  channelTimeTx : Int64
  deriving DecidableEq, Inhabited

/-- `struct msg_noiseinfo`. -/
structure MsgNoiseinfo where
  mType : Int32
  mId : Int32
  pVersion : Option CString
  mSize : Int32
  staIp : Option CString
  staPort : Int32
  intfName : Option CString
  n : UInt32
  noise : List NoiseField
  deriving DecidableEq

/-- The sum that `size_msg_noiseinfo` forms, in unbounded integers, if `str` is what it adds for a
string; the entries are counted without `channel_time_busy`. -/
def noiseinfoSize (str : Option CString → ℤ) (h : MsgNoiseinfo) : ℤ :=
  4 + 4 + str h.pVersion + 4 + str h.intfName + str h.staIp + 4 + 4 +
  h.n.toNat * (4 + 4 + 2 + 8 + 8 + 8) -- chan, freq, nf, channel_time, _rx, _tx

/-- `size_msg_noiseinfo`. -/
def sizeMsgNoiseinfo (h : MsgNoiseinfo) : Int32 :=
  Int32.ofInt (noiseinfoSize (fun s => (strlenEthanol s).toInt) h)

/-- The body of the loop of `encode_msg_noiseinfo`. -/
def encodeNoiseField (aux : Out) (f : NoiseField) : Out :=
  let aux := encodeUint aux f.chan
  let aux := encodeUint aux f.freq
  let aux := encodeShort aux f.nf
  let aux := encodeLong aux f.channelTime
  let aux := encodeLong aux f.channelTimeBusy
  let aux := encodeLong aux f.channelTimeRx
  encodeLong aux f.channelTimeTx

/-- `encode_msg_noiseinfo`. -/
def encodeMsgNoiseinfo (h : MsgNoiseinfo) : Encoded :=
  let bufLen := sizeMsgNoiseinfo h
  let aux := Out.ofBytes []
  let aux := encodeHeader aux h.mType h.mId bufLen -- h->m_size = *buf_len
  let aux := encodeChar aux h.intfName
  let aux := encodeChar aux h.staIp
  let aux := encodeInt aux h.staPort
  let aux := encodeUint aux h.n
  ⟨bufLen, Out.each encodeNoiseField h.n.toNat h.noise aux⟩

namespace NoiseField

/-- The wire image of an entry. -/
def bytes (f : NoiseField) : List UInt8 :=
  [Scalar.toBytes f.chan, Scalar.toBytes f.freq, Scalar.toBytes f.nf,
    Scalar.toBytes f.channelTime, Scalar.toBytes f.channelTimeBusy,
    Scalar.toBytes f.channelTimeRx, Scalar.toBytes f.channelTimeTx].flatten

@[simp] lemma length_bytes (f : NoiseField) : f.bytes.length = 42 := by
  simp [bytes]

lemma encode_ofBytes (f : NoiseField) (bs : List UInt8) :
    encodeNoiseField (Out.ofBytes bs) f = Out.ofBytes (bs ++ f.bytes) := by
  simp [encodeNoiseField, bytes]

end NoiseField

namespace MsgNoiseinfo

/-- The count matches the array, and the strings have representable lengths. -/
structure WellFormed (h : MsgNoiseinfo) : Prop where
  pVersion : StrFits h.pVersion
  intfName : StrFits h.intfName
  staIp : StrFits h.staIp
  count : UCounts h.n h.noise

/-- The wire image of a message. -/
def bytes (h : MsgNoiseinfo) : List UInt8 :=
  [headerBytes h.mType h.mId (sizeMsgNoiseinfo h), charBytes h.intfName, charBytes h.staIp,
    Scalar.toBytes h.staPort, Scalar.toBytes h.n, h.noise.flatMap NoiseField.bytes].flatten

lemma encode_eq {h : MsgNoiseinfo} (hh : h.WellFormed) :
    encodeMsgNoiseinfo h = ⟨sizeMsgNoiseinfo h, Out.ofBytes h.bytes⟩ := by
  have hentries := Out.each_ofBytes h.n.toNat h.noise fun f _ => f.encode_ofBytes
  simp only [encodeMsgNoiseinfo, encodeHeader_ofBytes, encodeChar_ofBytes hh.intfName,
    encodeChar_ofBytes hh.staIp, Out.ofBytes_scalar, hentries, hh.count.take_eq]
  simp [bytes]

/-- The size is the sum, with strings counted in full, reduced to an `int`. -/
lemma size_eq (h : MsgNoiseinfo) : sizeMsgNoiseinfo h = Int32.ofInt (noiseinfoSize strSize h) := by
  apply ofInt_eq_of_modEq
  unfold noiseinfoSize
  gcongr <;> apply strlenEthanol_modEq

/-- The balance of the size function: the version and the two strings may be counted too high, and
each entry is counted 8 bytes too low. -/
lemma length_bytes {h : MsgNoiseinfo} (hh : h.WellFormed) :
    (h.bytes.length : ℤ) + strLen h.pVersion + strSlack h.intfName + strSlack h.staIp =
      noiseinfoSize strSize h + 5 + 8 * h.noise.length := by
  have hname := length_charBytes h.intfName
  have hsta := length_charBytes h.staIp
  have hcount : h.n.toNat = h.noise.length := hh.count
  simp only [noiseinfoSize, strSize, hcount]
  simp only [bytes, List.flatten_cons, List.flatten_nil, List.length_append, List.length_nil,
    length_headerBytes, Scalar.length_toBytes, Scalar.width_int32, Scalar.width_uint32,
    List.length_flatMap, NoiseField.length_bytes, List.map_const', List.sum_replicate,
    smul_eq_mul]
  push_cast
  omega

end MsgNoiseinfo

/-- The encoder stays in its buffer exactly when the 8 bytes per entry that are not counted are made
up for by a `p_version` longer than the version written and by missing or empty strings.  For
`p_version = ETHANOL_VERSION` this leaves only the message without entries. -/
theorem noiseinfo_inBuffer_iff (h : MsgNoiseinfo) (hh : h.WellFormed) :
    (encodeMsgNoiseinfo h).InBuffer ↔
      5 + 8 * h.noise.length ≤ strLen h.pVersion + strSlack h.intfName + strSlack h.staIp ∧
      noiseinfoSize strSize h < 2 ^ 31 := by
  have hlen := MsgNoiseinfo.length_bytes hh
  have hversion : strLen h.pVersion < 2 ^ 31 := hh.pVersion
  have hname := strSlack_le_one h.intfName
  have hsta := strSlack_le_one h.staIp
  have hnonneg : 0 ≤ noiseinfoSize strSize h := by
    simp only [noiseinfoSize, strSize]
    positivity
  rw [MsgNoiseinfo.encode_eq hh, MsgNoiseinfo.size_eq, Encoded.inBuffer_iff hnonneg (by omega)]
  omega

/-- A report on the given channels. -/
def noiseinfoOf (noise : List NoiseField) : MsgNoiseinfo where
  mType := EnumMsgType.msgGetNoiseinfo.code
  mId := 7
  pVersion := some ethanolVersion
  mSize := 0
  staIp := none
  staPort := 0
  intfName := none
  n := UInt32.ofNat noise.length
  noise := noise

theorem noiseinfo_inBuffer_empty :
    (noiseinfoOf []).WellFormed ∧ (encodeMsgNoiseinfo (noiseinfoOf [])).InBuffer := by
  have hh : (noiseinfoOf []).WellFormed := by constructor <;> decide
  exact ⟨hh, (noiseinfo_inBuffer_iff _ hh).mpr (by decide)⟩

/-- With one channel, 80 bytes are written into a buffer of 74. -/
theorem noiseinfo_overflow :
    (noiseinfoOf [default]).WellFormed ∧
      (encodeMsgNoiseinfo (noiseinfoOf [default])).bufLen = 74 ∧
      (encodeMsgNoiseinfo (noiseinfoOf [default])).out.extent = 80 ∧
      ¬ (encodeMsgNoiseinfo (noiseinfoOf [default])).InBuffer := by
  refine ⟨by constructor <;> decide, by decide, by decide, by decide⟩

end Ethanol
