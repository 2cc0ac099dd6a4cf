import EthanolHostapd.Messaging.Scan

/-!
# Beacon information

`msg_beaconinfo.c`.  A `MSG_INFORM_BEACON` message carries a list of received beacons, each with five
arrays.  Its size is summed up in an `unsigned long` and handed to the encoder as an `int`.  The header
is counted with the `p_version` of the message, but always written with `ETHANOL_VERSION`.
-/

namespace Ethanol

open Wire

/-- `struct supported_rates`. -/
structure SupportedRates where
  id : UInt32
  rate : UInt32
  basicRate : Bool
  deriving DecidableEq

/-- `struct beacon_channels`. -/
structure BeaconChannels where
  startingChannel : UInt32
  numChannels : UInt32
  maxTxPower : UInt32
  deriving DecidableEq

/-- `struct beacon_country`. -/
structure BeaconCountry where
  countryCode : UInt32
  environment : Int32
  numBeaconChannels : Int32
  c : List BeaconChannels
  deriving DecidableEq, Inhabited

/-- `struct robust_secure_network` of `msg_common.h`. -/
structure RobustSecureNetwork where
  version : UInt32
  groupCipherOui : Int64
  groupCipherType : UInt32
  pairwiseCipherCount : UInt32
  pairwiseCipherOui : List Int64
  authkeyCount : UInt32
  akmpSuiteOui : List Int64
  rsnCapabilities : UInt32
  pmkidCount : UInt32
  pmkid : List Int64
  deriving DecidableEq, Inhabited

/-- `struct ht_capability`. -/
structure HtCapability where
  htSupport : Bool
  htCapabilityInfo : Int64
  aMpduParameters : UInt32
  supportedMcsSetSpatialStream : List.Vector UInt8 16
  htExtendedCapability : Int64
  txBeamFormingCapability : Int64
  asel : UInt32
  deriving DecidableEq, Inhabited

/-- `struct beacon_received`. -/
structure BeaconReceived where
  beaconInterval : Int64
  capabilities : Int64
  ssid : Option CString
  addr : List.Vector UInt8 6
  channel : Int32
  numRates : UInt32
  rates : List SupportedRates
  fhParameter : UInt32
  fhParameters : UInt32
  fhPatternTable : UInt32
  dsParameter : List.Vector UInt8 3
  cfParameter : Int64
  ibssParameter : List.Vector UInt8 4
  country : BeaconCountry
  powerConstraint : Int64
  channelSwitch : Int64
  quiteTime : Int64
  ibssDfs : UInt32
  transmitPower : UInt32
  linkMargin : UInt32
  erpInformation : Int64
  rsn : RobustSecureNetwork
  stationCount : UInt32
  channelUtilization : UInt32
  availAdmissionCapacity : UInt32
  edcaParameterSet : UInt32
  qosCapability : UInt32
  mobilityDomain : Int64
  ht : HtCapability
  deriving DecidableEq, Inhabited

/-- `struct msg_beaconinfo`. -/
structure MsgBeaconinfo where
  mType : Int32
  mId : Int32
  pVersion : Option CString
  mSize : Int32
  numBeacons : UInt32
  b : List BeaconReceived
  deriving DecidableEq

/-! ## Size -/

/-- What the loop of `message_size_beaconinfo` adds for one beacon, if `str` is what it adds for a
string. -/
def beaconReceivedSize (str : Option CString → ℤ) (b : BeaconReceived) : ℤ :=
  8 + 8 + -- beacon_interval, capabilities
  str b.ssid +
  6 + 4 + 4 + -- addr, channel, num_rates
  b.numRates.toNat * (4 + 4 + 4) + -- id, rate, basic_rate coded as "int"
  4 + 4 + 4 + -- fh_parameter, fh_parameters, fh_pattern_table
  3 + 8 + 4 + -- ds_parameter, cf_parameter, ibss_parameter
  4 + 4 + 4 + -- country_code, environment, num_beacon_channels
  b.country.numBeaconChannels.toInt * (4 + 4 + 4) +
  8 + 8 + 8 + 4 + -- power_constraint, channel_switch, quite_time, ibss_dfs
  4 + 4 + 8 + -- transmit_power, link_margin, erp_information
  4 + 8 + 4 + -- rsn.version, rsn.group_cipher_oui, rsn.group_cipher_type
  4 + b.rsn.pairwiseCipherCount.toNat * 8 +
  4 + b.rsn.authkeyCount.toNat * 8 +
  4 + -- rsn.rsn_capabilities
  4 + b.rsn.pmkidCount.toNat * 8 +
  4 + 4 + 4 + -- station_count, channel_utilization, avail_admission_capacity
  4 + 4 + 8 + -- EDCA_Parameter_Set, qos_capability, mobility_domain
  boolLenEthanol.toInt + -- ht.ht_support
  8 + 4 + 16 + -- ht.ht_capability_info, a_mpdu_parameters, supported_mcs_set_spatial_stream
  8 + 8 + 4 -- ht.ht_extended_capability, tx_beam_forming_capability, asel

/-- The sum that `message_size_beaconinfo` forms, in unbounded integers. -/
def beaconinfoSize (str : Option CString → ℤ) (h : MsgBeaconinfo) : ℤ :=
  str h.pVersion + 4 + 4 + 4 + 4 +
  ((h.b.take h.numBeacons.toNat).map (beaconReceivedSize str)).sum

/-- `*buf_len = message_size_beaconinfo(h)`: the `unsigned long` sum, stored in an `int`. -/
def messageSizeBeaconinfo (h : MsgBeaconinfo) : Int32 :=
  Int32.ofInt (beaconinfoSize (fun s => (strlenEthanol s).toInt) h)

/-! ## Encoder -/

/-- The body of the `rates` loop of `encode_msg_beaconinfo`. -/
def encodeSupportedRates (aux : Out) (r : SupportedRates) : Out :=
  let aux := encodeUint aux r.id
  let aux := encodeUint aux r.rate
  encodeBool aux r.basicRate

/-- The body of the `country.c` loop of `encode_msg_beaconinfo`. -/
def encodeBeaconChannels (aux : Out) (c : BeaconChannels) : Out :=
  let aux := encodeUint aux c.startingChannel
  let aux := encodeUint aux c.numChannels
  encodeUint aux c.maxTxPower

/-- The body of the beacon loop of `encode_msg_beaconinfo`. -/
def encodeBeaconReceived (aux : Out) (b : BeaconReceived) : Out :=
  let aux := encode2long aux b.beaconInterval
  let aux := encodeLong aux b.capabilities
  let aux := encodeChar aux b.ssid
  let aux := Out.each encodeByte 6 b.addr.toList aux
  let aux := encodeInt aux b.channel
  let aux := encodeUint aux b.numRates
  let aux := Out.each encodeSupportedRates b.numRates.toNat b.rates aux
  let aux := encodeUint aux b.fhParameter
  let aux := encodeUint aux b.fhParameters
  let aux := encodeUint aux b.fhPatternTable
  let aux := Out.each encodeByte 3 b.dsParameter.toList aux
  let aux := encode2long aux b.cfParameter
  let aux := Out.each encodeByte 4 b.ibssParameter.toList aux
  let aux := encodeUint aux b.country.countryCode
  let aux := encodeInt aux b.country.environment
  let aux := encodeInt aux b.country.numBeaconChannels
  let aux := Out.each encodeBeaconChannels (loopCount b.country.numBeaconChannels) b.country.c aux
  let aux := encodeLong aux b.powerConstraint
  let aux := encode2long aux b.channelSwitch
  let aux := encode2long aux b.quiteTime
  let aux := encodeUint aux b.ibssDfs
  let aux := encodeUint aux b.transmitPower
  let aux := encodeUint aux b.linkMargin
  let aux := encode2long aux b.erpInformation
  let aux := encodeUint aux b.rsn.version
  let aux := encode2long aux b.rsn.groupCipherOui
  let aux := encodeUint aux b.rsn.groupCipherType
  let aux := encodeUint aux b.rsn.pairwiseCipherCount
  let aux := Out.each encode2long b.rsn.pairwiseCipherCount.toNat b.rsn.pairwiseCipherOui aux
  let aux := encodeUint aux b.rsn.authkeyCount
  let aux := Out.each encode2long b.rsn.authkeyCount.toNat b.rsn.akmpSuiteOui aux
  let aux := encodeUint aux b.rsn.rsnCapabilities
  let aux := encodeUint aux b.rsn.pmkidCount
  let aux := Out.each encode2long b.rsn.pmkidCount.toNat b.rsn.pmkid aux
  let aux := encodeUint aux b.stationCount
  let aux := encodeUint aux b.channelUtilization
  let aux := encodeUint aux b.availAdmissionCapacity
  let aux := encodeUint aux b.edcaParameterSet
  let aux := encodeUint aux b.qosCapability
  let aux := encode2long aux b.mobilityDomain
  let aux := encodeBool aux b.ht.htSupport
  let aux := encodeLong aux b.ht.htCapabilityInfo
  let aux := encodeUint aux b.ht.aMpduParameters
  let aux := Out.each encodeByte 16 b.ht.supportedMcsSetSpatialStream.toList aux
  let aux := encodeLong aux b.ht.htExtendedCapability
  let aux := encode2long aux b.ht.txBeamFormingCapability
  encodeUint aux b.ht.asel

/-- `encode_msg_beaconinfo`. -/
def encodeMsgBeaconinfo (h : MsgBeaconinfo) : Encoded :=
  let bufLen := messageSizeBeaconinfo h
  let aux := Out.ofBytes []
  let aux := encodeHeader aux h.mType h.mId bufLen -- h->m_size = *buf_len
  let aux := encodeUint aux h.numBeacons
  ⟨bufLen, Out.each encodeBeaconReceived h.numBeacons.toNat h.b aux⟩

/-! ## Decoder -/

/-- The body of the `rates` loop of `decode_msg_beaconinfo`. -/
def decodeSupportedRates : Decoder SupportedRates := do
  let id ← decodeUint
  let rate ← decodeUint
  let basicRate ← decodeBool
  pure { id, rate, basicRate }

/-- The body of the `country.c` loop of `decode_msg_beaconinfo`. -/
def decodeBeaconChannels : Decoder BeaconChannels := do
  let startingChannel ← decodeUint
  let numChannels ← decodeUint
  let maxTxPower ← decodeUint
  pure { startingChannel, numChannels, maxTxPower }

/-- The body of the beacon loop of `decode_msg_beaconinfo`; an array without elements is the empty
list, whether the decoder leaves it `NULL` or allocates nothing for it. -/
def decodeBeaconReceived : Decoder BeaconReceived := do
  let beaconInterval ← decode2long
  let capabilities ← decodeLong
  let ssid ← decodeChar
  let addr ← Decoder.times decodeByte 6
  let channel ← decodeInt
  let numRates ← decodeUint
  let rates ← Decoder.array numRates.toNat decodeSupportedRates
  let fhParameter ← decodeUint
  let fhParameters ← decodeUint
  let fhPatternTable ← decodeUint
  let dsParameter ← Decoder.times decodeByte 3
  let cfParameter ← decode2long
  let ibssParameter ← Decoder.times decodeByte 4
  let countryCode ← decodeUint
  let environment ← decodeInt
  let numBeaconChannels ← decodeInt
  let c ← Decoder.array (loopCount numBeaconChannels) decodeBeaconChannels
  let powerConstraint ← decodeLong
  let channelSwitch ← decode2long
  let quiteTime ← decode2long
  let ibssDfs ← decodeUint
  let transmitPower ← decodeUint
  let linkMargin ← decodeUint
  let erpInformation ← decode2long
  let version ← decodeUint
  let groupCipherOui ← decode2long
  let groupCipherType ← decodeUint
  let pairwiseCipherCount ← decodeUint
  let pairwiseCipherOui ← Decoder.array pairwiseCipherCount.toNat decode2long
  let authkeyCount ← decodeUint
  let akmpSuiteOui ← Decoder.array authkeyCount.toNat decode2long
  let rsnCapabilities ← decodeUint
  let pmkidCount ← decodeUint
  let pmkid ← Decoder.array pmkidCount.toNat decode2long
  let stationCount ← decodeUint
  let channelUtilization ← decodeUint
  let availAdmissionCapacity ← decodeUint
  let edcaParameterSet ← decodeUint
  let qosCapability ← decodeUint
  let mobilityDomain ← decode2long
  let htSupport ← decodeBool
  let htCapabilityInfo ← decodeLong
  let aMpduParameters ← decodeUint
  let supportedMcsSetSpatialStream ← Decoder.times decodeByte 16
  let htExtendedCapability ← decodeLong
  let txBeamFormingCapability ← decode2long
  let asel ← decodeUint
  pure {
    beaconInterval, capabilities, ssid, addr, channel, numRates, rates, fhParameter, fhParameters,
    fhPatternTable, dsParameter, cfParameter, ibssParameter,
    country := { countryCode, environment, numBeaconChannels, c },
    powerConstraint, channelSwitch, quiteTime, ibssDfs, transmitPower, linkMargin, erpInformation,
    rsn := {
      version, groupCipherOui, groupCipherType, pairwiseCipherCount, pairwiseCipherOui,
      authkeyCount, akmpSuiteOui, rsnCapabilities, pmkidCount, pmkid },
    stationCount, channelUtilization, availAdmissionCapacity, edcaParameterSet, qosCapability,
    mobilityDomain,
    ht := {
      htSupport, htCapabilityInfo, aMpduParameters, supportedMcsSetSpatialStream,
      htExtendedCapability, txBeamFormingCapability, asel } }

/-- `decode_msg_beaconinfo`. -/
def decodeMsgBeaconinfo : Decoder MsgBeaconinfo := do
  let header ← decodeHeader
  let numBeacons ← decodeUint
  let b ← Decoder.array numBeacons.toNat decodeBeaconReceived
  pure {
    mType := header.mType, mId := header.mId, pVersion := header.mVersion, mSize := header.mSize,
    numBeacons, b }

/-! ## Layout on the wire -/

namespace SupportedRates

/-- The wire image of a rate. -/
def bytes (r : SupportedRates) : List UInt8 :=
  [Scalar.toBytes r.id, Scalar.toBytes r.rate, Scalar.toBytes r.basicRate].flatten

@[simp] lemma length_bytes (r : SupportedRates) : r.bytes.length = 9 := by
  simp [bytes]

lemma encode_ofBytes (r : SupportedRates) (bs : List UInt8) :
    encodeSupportedRates (Out.ofBytes bs) r = Out.ofBytes (bs ++ r.bytes) := by
  simp [encodeSupportedRates, bytes]

lemma decodes (r : SupportedRates) : Decodes decodeSupportedRates r.bytes r := by
  unfold decodeSupportedRates bytes
  iterate 3 refine (Decodes.scalar _).cons ?_
  exact Decodes.pure _

end SupportedRates

namespace BeaconChannels

/-- The wire image of a channel range. -/
def bytes (c : BeaconChannels) : List UInt8 :=
  [Scalar.toBytes c.startingChannel, Scalar.toBytes c.numChannels,
    Scalar.toBytes c.maxTxPower].flatten

@[simp] lemma length_bytes (c : BeaconChannels) : c.bytes.length = 12 := by
  simp [bytes]

lemma encode_ofBytes (c : BeaconChannels) (bs : List UInt8) :
    encodeBeaconChannels (Out.ofBytes bs) c = Out.ofBytes (bs ++ c.bytes) := by
  simp [encodeBeaconChannels, bytes]

lemma decodes (c : BeaconChannels) : Decodes decodeBeaconChannels c.bytes c := by
  unfold decodeBeaconChannels bytes
  iterate 3 refine (Decodes.scalar _).cons ?_
  exact Decodes.pure _

end BeaconChannels

namespace BeaconReceived

/-- The counts match the arrays. -/
structure Counted (b : BeaconReceived) : Prop where
  rates : UCounts b.numRates b.rates
  channels : Counts b.country.numBeaconChannels b.country.c
  pairwiseCipher : UCounts b.rsn.pairwiseCipherCount b.rsn.pairwiseCipherOui
  authkey : UCounts b.rsn.authkeyCount b.rsn.akmpSuiteOui
  pmkid : UCounts b.rsn.pmkidCount b.rsn.pmkid

/-- Moreover the SSID has a representable length. -/
structure WellFormed (b : BeaconReceived) : Prop extends Counted b where
  ssid : StrFits b.ssid

/-- The beacon as it arrives: an empty SSID is `NULL`. -/
def arrived (b : BeaconReceived) : BeaconReceived := { b with ssid := nullIfEmpty b.ssid }

/-- The wire image of a beacon. -/
def bytes (b : BeaconReceived) : List UInt8 :=
  [Scalar.toBytes b.beaconInterval, Scalar.toBytes b.capabilities, charBytes b.ssid,
    b.addr.toList.flatMap Scalar.toBytes, Scalar.toBytes b.channel, Scalar.toBytes b.numRates,
    b.rates.flatMap SupportedRates.bytes, Scalar.toBytes b.fhParameter,
    Scalar.toBytes b.fhParameters, Scalar.toBytes b.fhPatternTable,
    b.dsParameter.toList.flatMap Scalar.toBytes, Scalar.toBytes b.cfParameter,
    b.ibssParameter.toList.flatMap Scalar.toBytes, Scalar.toBytes b.country.countryCode,
    Scalar.toBytes b.country.environment, Scalar.toBytes b.country.numBeaconChannels,
    b.country.c.flatMap BeaconChannels.bytes, Scalar.toBytes b.powerConstraint,
    Scalar.toBytes b.channelSwitch, Scalar.toBytes b.quiteTime, Scalar.toBytes b.ibssDfs,
    Scalar.toBytes b.transmitPower, Scalar.toBytes b.linkMargin, Scalar.toBytes b.erpInformation,
    Scalar.toBytes b.rsn.version, Scalar.toBytes b.rsn.groupCipherOui,
    Scalar.toBytes b.rsn.groupCipherType, Scalar.toBytes b.rsn.pairwiseCipherCount,
    b.rsn.pairwiseCipherOui.flatMap Scalar.toBytes, Scalar.toBytes b.rsn.authkeyCount,
    b.rsn.akmpSuiteOui.flatMap Scalar.toBytes, Scalar.toBytes b.rsn.rsnCapabilities,
    Scalar.toBytes b.rsn.pmkidCount, b.rsn.pmkid.flatMap Scalar.toBytes,
    Scalar.toBytes b.stationCount, Scalar.toBytes b.channelUtilization,
    Scalar.toBytes b.availAdmissionCapacity, Scalar.toBytes b.edcaParameterSet,
    Scalar.toBytes b.qosCapability, Scalar.toBytes b.mobilityDomain,
    Scalar.toBytes b.ht.htSupport, Scalar.toBytes b.ht.htCapabilityInfo,
    Scalar.toBytes b.ht.aMpduParameters,
    b.ht.supportedMcsSetSpatialStream.toList.flatMap Scalar.toBytes,
    Scalar.toBytes b.ht.htExtendedCapability, Scalar.toBytes b.ht.txBeamFormingCapability,
    Scalar.toBytes b.ht.asel].flatten

/-- The encoder appends the wire image of a beacon. -/
lemma encode_ofBytes {b : BeaconReceived} (hb : b.WellFormed) (bs : List UInt8) :
    encodeBeaconReceived (Out.ofBytes bs) b = Out.ofBytes (bs ++ b.bytes) := by
  have hrates := Out.each_ofBytes b.numRates.toNat b.rates fun r _ => r.encode_ofBytes
  have hchannels := Out.each_ofBytes (loopCount b.country.numBeaconChannels) b.country.c
    fun c _ => c.encode_ofBytes
  simp only [encodeBeaconReceived, Out.ofBytes_scalar, encodeChar_ofBytes hb.ssid,
    Out.each_scalar_ofBytes, Out.take_toList, hrates, hchannels, hb.rates.take_eq,
    hb.channels.take_eq, hb.pairwiseCipher.take_eq, hb.authkey.take_eq, hb.pmkid.take_eq]
  simp [bytes]

/-- The decoder turns the wire image of a beacon back into the beacon. -/
lemma decodes {b : BeaconReceived} (hb : b.WellFormed) :
    Decodes decodeBeaconReceived b.bytes b.arrived := by
  unfold decodeBeaconReceived bytes
  iterate 2 refine (Decodes.scalar _).cons ?_
  refine (decodes_char hb.ssid).cons ?_
  refine (Decodes.vector b.addr).cons ?_
  iterate 2 refine (Decodes.scalar _).cons ?_
  refine (Decodes.array b.rates hb.rates.symm fun r _ => r.decodes).cons ?_
  iterate 3 refine (Decodes.scalar _).cons ?_
  refine (Decodes.vector b.dsParameter).cons ?_
  refine (Decodes.scalar _).cons ?_
  refine (Decodes.vector b.ibssParameter).cons ?_
  iterate 3 refine (Decodes.scalar _).cons ?_
  refine (Decodes.array b.country.c hb.channels.loopCount_eq.symm fun c _ => c.decodes).cons ?_
  iterate 11 refine (Decodes.scalar _).cons ?_
  refine (Decodes.scalars _ hb.pairwiseCipher.symm).cons ?_
  refine (Decodes.scalar _).cons ?_
  refine (Decodes.scalars _ hb.authkey.symm).cons ?_
  iterate 2 refine (Decodes.scalar _).cons ?_
  refine (Decodes.scalars _ hb.pmkid.symm).cons ?_
  iterate 9 refine (Decodes.scalar _).cons ?_
  refine (Decodes.vector b.ht.supportedMcsSetSpatialStream).cons ?_
  iterate 3 refine (Decodes.scalar _).cons ?_
  simp only [List.map_id']
  exact Decodes.pure _

/-- The number of bytes a beacon is written in. -/
lemma length_bytes (b : BeaconReceived) :
    b.bytes.length = 222 + (charBytes b.ssid).length + 9 * b.rates.length +
      12 * b.country.c.length + 8 * b.rsn.pairwiseCipherOui.length +
      8 * b.rsn.akmpSuiteOui.length + 8 * b.rsn.pmkid.length := by
  simp only [bytes, List.flatten_cons, List.flatten_nil, List.length_append, List.length_nil,
    Scalar.length_toBytes, Scalar.width_uint8, Scalar.width_uint32, Scalar.width_int32,
    Scalar.width_int64, Scalar.width_bool, List.length_flatMap, List.Vector.toList_length,
    SupportedRates.length_bytes, BeaconChannels.length_bytes, List.map_const', List.sum_replicate,
    smul_eq_mul]
  omega

/-- A beacon is written in at least 3 bytes less than the size function counts for it: `ht_support`
and the `basic_rate` of each rate are counted with four bytes. -/
lemma length_bytes_le {b : BeaconReceived} (hb : b.Counted) :
    (b.bytes.length : ℤ) + 3 ≤ beaconReceivedSize strSize b := by
  have hlen := b.length_bytes
  have hstr := length_charBytes b.ssid
  obtain ⟨hrates, hchannels, hpairwise, hauthkey, hpmkid⟩ := hb
  unfold UCounts at hrates hpairwise hauthkey hpmkid
  unfold Counts at hchannels
  simp only [beaconReceivedSize, strSize, toInt_boolLenEthanol, hrates, hchannels, hpairwise,
    hauthkey, hpmkid]
  omega

lemma size_nonneg {b : BeaconReceived} (hb : b.Counted) : 0 ≤ beaconReceivedSize strSize b := by
  have := length_bytes_le hb
  omega

/-- The SSID of a beacon with a representable size has a representable length. -/
lemma wellFormed_of_size_lt {b : BeaconReceived} (hb : b.Counted)
    (hsize : beaconReceivedSize strSize b < 2 ^ 31) : b.WellFormed := by
  refine { hb with ssid := strFits_of_strSize_le ?_ hsize }
  have hchannels : b.country.numBeaconChannels.toInt = b.country.c.length := hb.channels
  simp only [beaconReceivedSize, toInt_boolLenEthanol, hchannels]
  omega

/-- A long SSID changes what is counted for a beacon by a multiple of `2 ^ 32`. -/
lemma size_modEq (b : BeaconReceived) :
    beaconReceivedSize (fun s => (strlenEthanol s).toInt) b ≡
      beaconReceivedSize strSize b [ZMOD 2 ^ 32] := by
  unfold beaconReceivedSize
  gcongr
  apply strlenEthanol_modEq

end BeaconReceived

namespace MsgBeaconinfo

/-- The count matches the list of beacons, and so do the counts in the beacons. -/
structure Counted (h : MsgBeaconinfo) : Prop where
  count : UCounts h.numBeacons h.b
  beacons : ∀ b ∈ h.b, b.Counted

/-- The counts match, and the strings have representable lengths. -/
structure WellFormed (h : MsgBeaconinfo) : Prop where
  pVersion : StrFits h.pVersion
  count : UCounts h.numBeacons h.b
  beacons : ∀ b ∈ h.b, b.WellFormed

/-- The message as it arrives: `m_size` is set by the encoder, and empty SSIDs are `NULL`. -/
def arrived (h : MsgBeaconinfo) : MsgBeaconinfo :=
  { h with
    mSize := messageSizeBeaconinfo h
    b := h.b.map BeaconReceived.arrived }

/-- The wire image of a message. -/
def bytes (h : MsgBeaconinfo) : List UInt8 :=
  [headerBytes h.mType h.mId (messageSizeBeaconinfo h), Scalar.toBytes h.numBeacons,
    h.b.flatMap BeaconReceived.bytes].flatten

/-- The encoder writes the wire image of the message. -/
lemma encode_eq {h : MsgBeaconinfo} (hh : h.WellFormed) :
    encodeMsgBeaconinfo h = ⟨messageSizeBeaconinfo h, Out.ofBytes h.bytes⟩ := by
  have hbeacons := Out.each_ofBytes (f := encodeBeaconReceived) h.numBeacons.toNat h.b
    fun b hb => BeaconReceived.encode_ofBytes (hh.beacons b (List.mem_of_mem_take hb))
  simp only [encodeMsgBeaconinfo, encodeHeader_ofBytes, Out.ofBytes_scalar, hbeacons,
    hh.count.take_eq]
  simp [bytes]

/-- The decoder turns the wire image back into the message, with the version on the wire. -/
lemma decodes {h : MsgBeaconinfo} (hh : h.WellFormed) :
    Decodes decodeMsgBeaconinfo h.bytes { h.arrived with pVersion := some ethanolVersion } := by
  unfold decodeMsgBeaconinfo bytes
  refine (decodes_header _ _ _).cons ?_
  refine (Decodes.scalar h.numBeacons).cons ?_
  refine (Decodes.array h.b hh.count.symm
    fun b hb => BeaconReceived.decodes (hh.beacons b hb)).cons ?_
  exact Decodes.pure _

/-- The message is written in no more bytes than the size function counts, if `p_version` is no
shorter than the version that is written. -/
lemma length_bytes_le {h : MsgBeaconinfo} (hh : h.Counted)
    (hv : ethanolVersion.chars.length ≤ strLen h.pVersion) :
    (h.bytes.length : ℤ) ≤ beaconinfoSize strSize h := by
  have hversion : ethanolVersion.chars.length = 5 := rfl
  have hbeacons := Out.length_flatMap_add_le_sum BeaconReceived.bytes (beaconReceivedSize strSize) 3
    h.b fun b hb => BeaconReceived.length_bytes_le (hh.beacons b hb)
  simp only [beaconinfoSize, strSize, hh.count.take_eq]
  simp only [bytes, List.flatten_cons, List.flatten_nil, List.length_append, List.length_nil,
    length_headerBytes, Scalar.length_toBytes, Scalar.width_uint32]
  omega

/-- The strings of a message with a representable size have representable lengths. -/
lemma wellFormed_of_size_lt {h : MsgBeaconinfo} (hh : h.Counted)
    (hsize : beaconinfoSize strSize h < 2 ^ 31) : h.WellFormed := by
  have hnonneg : ∀ b ∈ h.b, 0 ≤ beaconReceivedSize strSize b :=
    fun b hb => BeaconReceived.size_nonneg (hh.beacons b hb)
  have hsum : 0 ≤ (h.b.map (beaconReceivedSize strSize)).sum :=
    List.sum_nonneg (by simpa using hnonneg)
  have hversion := strSize_nonneg h.pVersion
  rw [beaconinfoSize, hh.count.take_eq] at hsize
  refine ⟨strFits_of_strSize_le ?_ hsize, hh.count, fun b hb => ?_⟩
  · omega
  · have := le_sum_map hnonneg hb
    exact BeaconReceived.wellFormed_of_size_lt (hh.beacons b hb) (by omega)

/-- The size is the sum, with strings counted in full, reduced to an `int`. -/
lemma size_eq (h : MsgBeaconinfo) :
    messageSizeBeaconinfo h = Int32.ofInt (beaconinfoSize strSize h) := by
  apply ofInt_eq_of_modEq
  unfold beaconinfoSize
  gcongr
  · apply strlenEthanol_modEq
  · exact sum_map_modEq BeaconReceived.size_modEq _

/-- A message whose size is representable is written inside the buffer allocated for it. -/
lemma encode_inBuffer {h : MsgBeaconinfo} (hh : h.Counted)
    (hv : ethanolVersion.chars.length ≤ strLen h.pVersion)
    (hsize : beaconinfoSize strSize h < 2 ^ 31) : (encodeMsgBeaconinfo h).InBuffer := by
  have hwf := wellFormed_of_size_lt hh hsize
  rw [encode_eq hwf, size_eq]
  exact Encoded.inBuffer_of_le (length_bytes_le hh hv) hsize

end MsgBeaconinfo

/-! ## Buffer bounds of the two list messages -/

/-- Neither of the two encoders writes past the buffer it allocated, as long as the sum of the size
function is representable and, for beacons, `p_version` is no shorter than `ETHANOL_VERSION`. -/
theorem scan_and_beaconinfo_inBuffer :
    (∀ h : MsgScanReceived, h.Counted → h.pVersion = some ethanolVersion →
      scanReceivedSize strSize h < 2 ^ 31 → (encodeMsgScanReceived h).InBuffer) ∧
    (∀ h : MsgBeaconinfo, h.Counted → ethanolVersion.chars.length ≤ strLen h.pVersion →
      beaconinfoSize strSize h < 2 ^ 31 → (encodeMsgBeaconinfo h).InBuffer) :=
  ⟨fun _ hh hv hsize => MsgScanReceived.encode_inBuffer hh hv hsize,
    fun _ hh hv hsize => MsgBeaconinfo.encode_inBuffer hh hv hsize⟩

/-- A message with the given version and beacons. -/
def beaconinfoOf (pVersion : Option CString) (b : List BeaconReceived) : MsgBeaconinfo where
  mType := EnumMsgType.msgInformBeacon.code
  mId := 7
  pVersion := pVersion
  mSize := 0
  numBeacons := UInt32.ofNat b.length
  b := b

/-- A beacon with two rates and all other arrays in use. -/
def busyBeacon : BeaconReceived :=
  { (default : BeaconReceived) with
    ssid := some ⟨[97, 112, 50], by decide⟩
    numRates := 2, rates := [⟨1, 6, true⟩, ⟨2, 54, false⟩]
    country := ⟨76, 0, 1, [⟨1, 11, 30⟩]⟩
    rsn := ⟨1, 0, 4, 1, [4], 2, [2, 6], 0, 1, [-1]⟩ }

lemma busyBeacon_counted : busyBeacon.Counted := by
  constructor <;> decide

lemma twoBeacons_counted :
    (beaconinfoOf (some ethanolVersion) [busyBeacon, busyBeacon]).Counted where
  count := by decide
  beacons b hb := by
    have : b = busyBeacon := by simpa [beaconinfoOf] using hb
    exact this ▸ busyBeacon_counted

theorem scan_and_beaconinfo_inBuffer_two :
    (encodeMsgScanReceived twoAps).InBuffer ∧
      (encodeMsgBeaconinfo (beaconinfoOf (some ethanolVersion) [busyBeacon, busyBeacon])).InBuffer :=
  ⟨scan_and_beaconinfo_inBuffer.1 twoAps twoAps_counted rfl (by decide),
    scan_and_beaconinfo_inBuffer.2 _ twoBeacons_counted (by decide) (by decide)⟩

/-- A beacon of an access point that announces `2 ^ 28` rates. -/
def manyRatesBeacon : BeaconReceived :=
  { (default : BeaconReceived) with
    numRates := 268435456, rates := List.replicate (2 ^ 28) ⟨0, 0, false⟩ }

lemma manyRatesBeacon_counted :
    (beaconinfoOf (some ethanolVersion) [manyRatesBeacon]).Counted where
  count := by decide
  beacons b hb := by
    obtain rfl := List.mem_singleton.mp hb
    constructor
    case rates => exact uCounts_replicate (by decide : (268435456 : UInt32).toNat = 2 ^ 28) _
    all_goals decide

/-- The size wraps around to a negative `int`. -/
lemma manyRatesBeacon_not_inBuffer :
    ¬ (encodeMsgBeaconinfo (beaconinfoOf (some ethanolVersion) [manyRatesBeacon])).InBuffer := by
  have hneg : (messageSizeBeaconinfo
    (beaconinfoOf (some ethanolVersion) [manyRatesBeacon])).toInt < 0 := by decide
  exact Encoded.not_inBuffer_of_neg hneg

/-- What goes wrong without the conditions: a size beyond `int` in either message, a missing
`p_version`, and a negative count of channel ranges. -/
theorem scan_and_beaconinfo_overflow :
    (manyRates.Counted ∧ manyRates.pVersion = some ethanolVersion ∧
      ¬ (encodeMsgScanReceived manyRates).InBuffer) ∧
    ((beaconinfoOf (some ethanolVersion) [manyRatesBeacon]).Counted ∧
      ¬ (encodeMsgBeaconinfo (beaconinfoOf (some ethanolVersion) [manyRatesBeacon])).InBuffer) ∧
    ¬ (encodeMsgBeaconinfo (beaconinfoOf none [])).InBuffer ∧
    ¬ (encodeMsgBeaconinfo (beaconinfoOf (some ethanolVersion)
        [{ (default : BeaconReceived) with country := ⟨76, 0, -1, []⟩ }])).InBuffer :=
  ⟨⟨manyRates_counted, rfl, manyRates_not_inBuffer⟩,
    ⟨manyRatesBeacon_counted, manyRatesBeacon_not_inBuffer⟩, by decide, by decide +kernel⟩

/-! ## Round trip -/

/-- `decode_msg_beaconinfo` undoes `encode_msg_beaconinfo`, for every message of this version whose
size is representable. -/
theorem beaconinfo_roundTrip (h : MsgBeaconinfo) (hh : h.Counted)
    (hv : h.pVersion = some ethanolVersion) (hsize : beaconinfoSize strSize h < 2 ^ 31)
    (junk beyond : ℕ → UInt8) (heap : ℕ → List UInt8) :
    (encodeMsgBeaconinfo h).received decodeMsgBeaconinfo junk beyond heap = some h.arrived := by
  have hwf := MsgBeaconinfo.wellFormed_of_size_lt hh hsize
  have hin := MsgBeaconinfo.encode_inBuffer hh (by rw [hv]; rfl) hsize
  have hdec := MsgBeaconinfo.decodes hwf
  have harr : { h.arrived with pVersion := some ethanolVersion } = h.arrived := by
    simp only [MsgBeaconinfo.arrived, hv]
  rw [harr] at hdec
  rw [MsgBeaconinfo.encode_eq hwf] at hin ⊢
  exact Encoded.received_eq hdec hin junk beyond heap

theorem beaconinfo_roundTrip_two :
    beaconinfoSize strSize (beaconinfoOf (some ethanolVersion) [busyBeacon, busyBeacon]) < 2 ^ 31 ∧
    ∀ junk beyond heap,
      (encodeMsgBeaconinfo (beaconinfoOf (some ethanolVersion) [busyBeacon, busyBeacon])).received
        decodeMsgBeaconinfo junk beyond heap =
      some (beaconinfoOf (some ethanolVersion) [busyBeacon, busyBeacon]).arrived := by
  have hsize : beaconinfoSize strSize
      (beaconinfoOf (some ethanolVersion) [busyBeacon, busyBeacon]) < 2 ^ 31 := by decide
  exact ⟨hsize, beaconinfo_roundTrip _ twoBeacons_counted rfl hsize⟩

/-- The version `"1.0.2"`. -/
def previousVersion : CString := ⟨[49, 46, 48, 46, 50], by decide⟩

/-- A message of another version arrives with `ETHANOL_VERSION`, and one whose size is beyond `int`
does not arrive. -/
theorem beaconinfo_roundTrip_fails :
    (∀ junk beyond heap,
      (encodeMsgBeaconinfo (beaconinfoOf (some previousVersion) [])).received
        decodeMsgBeaconinfo junk beyond heap ≠
      some (beaconinfoOf (some previousVersion) []).arrived) ∧
    (beaconinfoOf (some ethanolVersion) [manyRatesBeacon]).Counted ∧
    ∀ junk beyond heap,
      (encodeMsgBeaconinfo (beaconinfoOf (some ethanolVersion) [manyRatesBeacon])).received
        decodeMsgBeaconinfo junk beyond heap ≠
      some (beaconinfoOf (some ethanolVersion) [manyRatesBeacon]).arrived := by
  refine ⟨fun junk beyond heap => ?_, manyRatesBeacon_counted, fun junk beyond heap => ?_⟩
  · have hh : (beaconinfoOf (some previousVersion) []).Counted :=
      ⟨by decide, by simp [beaconinfoOf]⟩
    have hsize : beaconinfoSize strSize (beaconinfoOf (some previousVersion) []) < 2 ^ 31 := by decide
    have hwf := MsgBeaconinfo.wellFormed_of_size_lt hh hsize
    have hin := MsgBeaconinfo.encode_inBuffer hh (by decide) hsize
    rw [MsgBeaconinfo.encode_eq hwf] at hin ⊢
    rw [Encoded.received_eq (MsgBeaconinfo.decodes hwf) hin]
    decide
  · rw [Encoded.received_eq_none manyRatesBeacon_not_inBuffer]
    simp

end Ethanol
