import EthanolHostapd.Messaging.Fields

/-!
# Scan results

`msg_scan.c`.  A `MSG_SCAN` reply carries a list of scan entries, each with some fifty fields and four
arrays.  The size of the message and its bytes come from two separate traversals of the entry; they
do not agree field by field: the size leaves out `rsn_version` and counts four bytes for each of the
twelve `bool` fields and 24 for each country triplet, of which one and 12 are written.

`MsgScanReceived.encode_eq` says which bytes the encoder writes, `MsgScanReceived.decodes` that the
decoder reads them back, and `MsgScanReceived.length_bytes_le` that the size function counts enough of
them, all for messages whose counts match their arrays (`Counted`) and whose strings have lengths that
are representable as an `int` (`WellFormed`).
-/

namespace Ethanol

open Wire

/-- `char[3]`: a country code or an OUI. -/
structure Char3 where
  c0 : UInt8
  c1 : UInt8
  c2 : UInt8
  deriving DecidableEq, Inhabited

/-- `cipher_field`, a `char[4]`: an OUI and a suite type. -/
structure CipherField where
  c0 : UInt8
  c1 : UInt8
  c2 : UInt8
  c3 : UInt8
  deriving DecidableEq

/-- `country_type`; of its two halves only `chans` is transmitted. -/
structure CountryType where
  startingChannel : Int32
  numberOfChannels : Int32
  maxTxPower : Int32
  deriving DecidableEq

/-- `scan_info_t`, as far as it is transmitted: without `noise`, `last_seen` and `next`. -/
structure ScanInfo where
  apNum : Int32
  wiphy : Int32
  intfName : Option CString
  macAddr : Option CString
  ssid : Option CString
  status : Int32
  beaconInterval : Int64
  tsf : UInt64
  capability : UInt32
  frequency : Int64
  channel : Int32
  isDBm : Bool
  signal : CFloat
  powerconstraint : Int32
  txPower : Int32
  linkMargin : Int32
  age : Int64
  numRates : Int32
  rates : List CFloat
  isHt : Bool
  isVht : Bool
  hasDtim : Bool
  dtimCount : Int32
  dtimPeriod : Int32
  hasCountry : Bool
  countryCode : Char3
  countryEnvironment : UInt8
  numCountryTriplets : Int32
  countryTriplets : List CountryType
  hasRsn : Bool
  rsnVersion : Int32
  rsnGroupCipherOui : Char3
  rsnGroupCipherType : Int32
  pairwiseCipherCount : Int32
  pairwiseCipher : List CipherField
  authkeyMngmtCount : Int32
  authkeyMngmt : List CipherField
  rsnCapabilities : Int32
  hasErp : Bool
  nonErpPresent : Bool
  useProtection : Bool
  barkerPreambleMode : Bool
  hasBssLoad : Bool
  stationCount : Int32
  channelUtilization : Int32
  availAdmissionCapacity : Int32
  ibssPs : Bool
  atimWindow : Int32
  deriving DecidableEq, Inhabited

/-- `struct msg_scan_received`, with the fields of `scan` in line. -/
structure MsgScanReceived where
  mType : Int32
  mId : Int32
  pVersion : Option CString
  mSize : Int32
  intfName : Option CString
  staIp : Option CString
  staPort : Int32
  numScan : Int32
  s : List ScanInfo
  deriving DecidableEq

/-! ## Size -/

/-- What the loop of `message_size_scan_received` adds for one entry, if `str` is what it adds for a
string. -/
def scanInfoSize (str : Option CString → ℤ) (p : ScanInfo) : ℤ :=
  4 + 4 + -- ap_num, wiphy
  str p.intfName + str p.macAddr + str p.ssid +
  4 + 8 + 8 + 4 + 8 + 4 + -- status, beacon_interval, tsf, capability, frequency, channel
  boolLenEthanol.toInt + -- is_dBm
  4 + 4 + 4 + 4 + 8 + -- signal, powerconstraint, tx_power, link_margin, age
  4 + p.numRates.toInt * 4 + -- num_rates, rates
  boolLenEthanol.toInt + boolLenEthanol.toInt + boolLenEthanol.toInt + -- is_ht, is_vht, has_dtim
  4 + 4 + -- dtim_count, dtim_period
  boolLenEthanol.toInt + 3 + 1 + -- has_country, country_code, country_environment
  4 + p.numCountryTriplets.toInt * 24 + -- num_country_triplets, country_type
  boolLenEthanol.toInt + 3 + 4 + -- has_rsn, rsn_group_cipher_oui, rsn_group_cipher_type
  4 + p.pairwiseCipherCount.toInt * 4 + -- pairwise_cipher_count, pairwise_cipher
  4 + p.authkeyMngmtCount.toInt * 4 + -- authkey_mngmt_count, authkey_mngmt
  4 + -- rsn_capabilities
  boolLenEthanol.toInt + boolLenEthanol.toInt + -- has_erp, nonERP_Present
  boolLenEthanol.toInt + boolLenEthanol.toInt + -- use_Protection, barker_Preamble_Mode
  boolLenEthanol.toInt + 4 + 4 + 4 + -- has_bss_load, station_count, channel_utilization, avail_…
  boolLenEthanol.toInt + 4 -- ibss_ps, ATIM_Window

/-- The sum that `message_size_scan_received` forms, in unbounded integers. -/
def scanReceivedSize (str : Option CString → ℤ) (h : MsgScanReceived) : ℤ :=
  4 + 4 + str h.pVersion + 4 + str h.intfName + str h.staIp + 4 + 4 +
  ((h.s.take (loopCount h.numScan)).map (scanInfoSize str)).sum

/-- `message_size_scan_received`.  Each `size += …` is computed modulo `2 ^ 64` and stored in an `int`,
so the result is the sum reduced to an `int` once. -/
def messageSizeScanReceived (h : MsgScanReceived) : Int32 :=
  Int32.ofInt (scanReceivedSize (fun s => (strlenEthanol s).toInt) h)

/-! ## Encoder -/

/-- The body of the `country_triplets` loop of `encode_msg_scan_received`. -/
def encodeCountryType (aux : Out) (c : CountryType) : Out :=
  let aux := encodeInt aux c.startingChannel
  let aux := encodeInt aux c.numberOfChannels
  encodeInt aux c.maxTxPower

/-- The body of the two cipher loops of `encode_msg_scan_received`. -/
def encodeCipherField (aux : Out) (c : CipherField) : Out :=
  let aux := encodeByte aux c.c0
  let aux := encodeByte aux c.c1
  let aux := encodeByte aux c.c2
  encodeByte aux c.c3

/-- The body of the entry loop of `encode_msg_scan_received`. -/
def encodeScanInfo (aux : Out) (p : ScanInfo) : Out :=
  let aux := encodeInt aux p.apNum
  let aux := encodeInt aux p.wiphy
  let aux := encodeChar aux p.intfName
  let aux := encodeChar aux p.macAddr
  let aux := encodeChar aux p.ssid
  let aux := encodeInt aux p.status
  let aux := encodeLong aux p.beaconInterval
  let aux := encodeU2long aux p.tsf
  let aux := encodeUint aux p.capability
  let aux := encodeLong aux p.frequency
  let aux := encodeInt aux p.channel
  let aux := encodeBool aux p.isDBm
  let aux := encodeFloat aux p.signal
  let aux := encodeInt aux p.powerconstraint
  let aux := encodeInt aux p.txPower
  let aux := encodeInt aux p.linkMargin
  let aux := encodeLong aux p.age
  let aux := encodeInt aux p.numRates
  let aux := Out.each encodeFloat (loopCount p.numRates) p.rates aux
  let aux := encodeBool aux p.isHt
  let aux := encodeBool aux p.isVht
  let aux := encodeBool aux p.hasDtim
  let aux := encodeInt aux p.dtimCount
  let aux := encodeInt aux p.dtimPeriod
  let aux := encodeBool aux p.hasCountry
  let aux := encodeByte aux p.countryCode.c0
  let aux := encodeByte aux p.countryCode.c1
  let aux := encodeByte aux p.countryCode.c2
  let aux := encodeByte aux p.countryEnvironment
  let aux := encodeInt aux p.numCountryTriplets
  let aux := Out.each encodeCountryType (loopCount p.numCountryTriplets) p.countryTriplets aux
  let aux := encodeBool aux p.hasRsn
  let aux := encodeInt aux p.rsnVersion
  let aux := encodeByte aux p.rsnGroupCipherOui.c0
  let aux := encodeByte aux p.rsnGroupCipherOui.c1
  let aux := encodeByte aux p.rsnGroupCipherOui.c2
  let aux := encodeInt aux p.rsnGroupCipherType
  let aux := encodeInt aux p.pairwiseCipherCount
  let aux := Out.each encodeCipherField (loopCount p.pairwiseCipherCount) p.pairwiseCipher aux
  let aux := encodeInt aux p.authkeyMngmtCount
  let aux := Out.each encodeCipherField (loopCount p.authkeyMngmtCount) p.authkeyMngmt aux
  let aux := encodeInt aux p.rsnCapabilities
  let aux := encodeBool aux p.hasErp
  let aux := encodeBool aux p.nonErpPresent
  let aux := encodeBool aux p.useProtection
  let aux := encodeBool aux p.barkerPreambleMode
  let aux := encodeBool aux p.hasBssLoad
  let aux := encodeInt aux p.stationCount
  let aux := encodeInt aux p.channelUtilization
  let aux := encodeInt aux p.availAdmissionCapacity
  let aux := encodeBool aux p.ibssPs
  encodeInt aux p.atimWindow

/-- `encode_msg_scan_received`. -/
def encodeMsgScanReceived (h : MsgScanReceived) : Encoded :=
  let bufLen := messageSizeScanReceived h
  let aux := Out.ofBytes []
  let aux := encodeHeader aux h.mType h.mId bufLen -- h->m_size = *buf_len
  let aux := encodeChar aux h.intfName
  let aux := encodeChar aux h.staIp
  let aux := encodeInt aux h.staPort
  let aux := encodeInt aux h.numScan
  ⟨bufLen, Out.each encodeScanInfo (loopCount h.numScan) h.s aux⟩

/-! ## Decoder -/

/-- Three consecutive `decode_byte` into a `char[3]`. -/
def decodeChar3 : Decoder Char3 := do
  let c0 ← decodeByte
  let c1 ← decodeByte
  let c2 ← decodeByte
  pure { c0, c1, c2 }

/-- The body of the `country_triplets` loop of `decode_msg_scan_received`. -/
def decodeCountryType : Decoder CountryType := do
  let startingChannel ← decodeInt
  let numberOfChannels ← decodeInt
  let maxTxPower ← decodeInt
  pure { startingChannel, numberOfChannels, maxTxPower }

/-- The body of the two cipher loops of `decode_msg_scan_received`. -/
def decodeCipherField : Decoder CipherField := do
  let c0 ← decodeByte
  let c1 ← decodeByte
  let c2 ← decodeByte
  let c3 ← decodeByte
  pure { c0, c1, c2, c3 }

/-- The body of the entry loop of `decode_msg_scan_received`.  An array with a count that is not
positive stays `NULL`, here the empty list. -/
def decodeScanInfo : Decoder ScanInfo := do
  let apNum ← decodeInt
  let wiphy ← decodeInt
  let intfName ← decodeChar
  let macAddr ← decodeChar
  let ssid ← decodeChar
  let status ← decodeInt
  let beaconInterval ← decodeLong
  let tsf ← decodeU2long
  let capability ← decodeUint
  let frequency ← decodeLong
  let channel ← decodeInt
  let isDBm ← decodeBool
  let signal ← decodeFloat
  let powerconstraint ← decodeInt
  let txPower ← decodeInt
  let linkMargin ← decodeInt
  let age ← decodeLong
  let numRates ← decodeInt
  let rates ← Decoder.array (loopCount numRates) decodeFloat
  let isHt ← decodeBool
  let isVht ← decodeBool
  let hasDtim ← decodeBool
  let dtimCount ← decodeInt
  let dtimPeriod ← decodeInt
  let hasCountry ← decodeBool
  let countryCode ← decodeChar3
  let countryEnvironment ← decodeByte
  let numCountryTriplets ← decodeInt
  let countryTriplets ← Decoder.array (loopCount numCountryTriplets) decodeCountryType
  let hasRsn ← decodeBool
  let rsnVersion ← decodeInt
  let rsnGroupCipherOui ← decodeChar3
  let rsnGroupCipherType ← decodeInt
  let pairwiseCipherCount ← decodeInt
  let pairwiseCipher ← Decoder.array (loopCount pairwiseCipherCount) decodeCipherField
  let authkeyMngmtCount ← decodeInt
  let authkeyMngmt ← Decoder.array (loopCount authkeyMngmtCount) decodeCipherField
  let rsnCapabilities ← decodeInt
  let hasErp ← decodeBool
  let nonErpPresent ← decodeBool
  let useProtection ← decodeBool
  let barkerPreambleMode ← decodeBool
  let hasBssLoad ← decodeBool
  let stationCount ← decodeInt
  let channelUtilization ← decodeInt
  let availAdmissionCapacity ← decodeInt
  let ibssPs ← decodeBool
  let atimWindow ← decodeInt
  pure {
    apNum, wiphy, intfName, macAddr, ssid, status, beaconInterval, tsf, capability, frequency,
    channel, isDBm, signal, powerconstraint, txPower, linkMargin, age, numRates, rates, isHt,
    isVht, hasDtim, dtimCount, dtimPeriod, hasCountry, countryCode, countryEnvironment,
    numCountryTriplets, countryTriplets, hasRsn, rsnVersion, rsnGroupCipherOui,
    rsnGroupCipherType, pairwiseCipherCount, pairwiseCipher, authkeyMngmtCount, authkeyMngmt,
    rsnCapabilities, hasErp, nonErpPresent, useProtection, barkerPreambleMode, hasBssLoad,
    stationCount, channelUtilization, availAdmissionCapacity, ibssPs, atimWindow }

/-- `decode_msg_scan_received`; the count is read and looped over as an `unsigned int`. -/
def decodeMsgScanReceived : Decoder MsgScanReceived := do
  let header ← decodeHeader
  let intfName ← decodeChar
  let staIp ← decodeChar
  let staPort ← decodeInt
  let numScan ← decodeUint
  let s ← Decoder.array numScan.toNat decodeScanInfo
  pure {
    mType := header.mType, mId := header.mId, pVersion := header.mVersion, mSize := header.mSize,
    intfName, staIp, staPort, numScan := numScan.toInt32, s }

/-! ## Layout on the wire -/

namespace CountryType

/-- The wire image of a country triplet. -/
def bytes (c : CountryType) : List UInt8 :=
  [Scalar.toBytes c.startingChannel, Scalar.toBytes c.numberOfChannels,
    Scalar.toBytes c.maxTxPower].flatten

@[simp] lemma length_bytes (c : CountryType) : c.bytes.length = 12 := by
  simp [bytes]

lemma encode_ofBytes (c : CountryType) (bs : List UInt8) :
    encodeCountryType (Out.ofBytes bs) c = Out.ofBytes (bs ++ c.bytes) := by
  simp [encodeCountryType, bytes]

lemma decodes (c : CountryType) : Decodes decodeCountryType c.bytes c := by
  unfold decodeCountryType bytes
  repeat refine (Decodes.scalar _).cons ?_
  exact Decodes.pure _

end CountryType

namespace CipherField

/-- The wire image of a cipher field. -/
def bytes (c : CipherField) : List UInt8 :=
  [Scalar.toBytes c.c0, Scalar.toBytes c.c1, Scalar.toBytes c.c2, Scalar.toBytes c.c3].flatten

@[simp] lemma length_bytes (c : CipherField) : c.bytes.length = 4 := by
  simp [bytes]

lemma encode_ofBytes (c : CipherField) (bs : List UInt8) :
    encodeCipherField (Out.ofBytes bs) c = Out.ofBytes (bs ++ c.bytes) := by
  simp [encodeCipherField, bytes]

lemma decodes (c : CipherField) : Decodes decodeCipherField c.bytes c := by
  unfold decodeCipherField bytes
  repeat refine (Decodes.scalar _).cons ?_
  exact Decodes.pure _

end CipherField

namespace Char3

/-- The wire image of a `char[3]`. -/
def bytes (c : Char3) : List UInt8 :=
  [Scalar.toBytes c.c0, Scalar.toBytes c.c1, Scalar.toBytes c.c2].flatten

@[simp] lemma length_bytes (c : Char3) : c.bytes.length = 3 := by
  simp [bytes]

lemma decodes (c : Char3) : Decodes decodeChar3 c.bytes c := by
  unfold decodeChar3 bytes
  repeat refine (Decodes.scalar _).cons ?_
  exact Decodes.pure _

end Char3

namespace ScanInfo

/-- The counts match the arrays. -/
structure Counted (p : ScanInfo) : Prop where
  rates : Counts p.numRates p.rates
  countryTriplets : Counts p.numCountryTriplets p.countryTriplets
  pairwiseCipher : Counts p.pairwiseCipherCount p.pairwiseCipher
  authkeyMngmt : Counts p.authkeyMngmtCount p.authkeyMngmt

/-- Moreover the strings have representable lengths. -/
structure WellFormed (p : ScanInfo) : Prop extends Counted p where
  intfName : StrFits p.intfName
  macAddr : StrFits p.macAddr
  ssid : StrFits p.ssid

/-- The entry as it arrives: an empty string is `NULL`. -/
def arrived (p : ScanInfo) : ScanInfo :=
  { p with
    intfName := nullIfEmpty p.intfName
    macAddr := nullIfEmpty p.macAddr
    ssid := nullIfEmpty p.ssid }

/-- The wire image of an entry. -/
def bytes (p : ScanInfo) : List UInt8 :=
  [Scalar.toBytes p.apNum, Scalar.toBytes p.wiphy, charBytes p.intfName, charBytes p.macAddr,
    charBytes p.ssid, Scalar.toBytes p.status, Scalar.toBytes p.beaconInterval,
    Scalar.toBytes p.tsf, Scalar.toBytes p.capability, Scalar.toBytes p.frequency,
    Scalar.toBytes p.channel, Scalar.toBytes p.isDBm, Scalar.toBytes p.signal,
    Scalar.toBytes p.powerconstraint, Scalar.toBytes p.txPower, Scalar.toBytes p.linkMargin,
    Scalar.toBytes p.age, Scalar.toBytes p.numRates, p.rates.flatMap Scalar.toBytes,
    Scalar.toBytes p.isHt, Scalar.toBytes p.isVht, Scalar.toBytes p.hasDtim,
    Scalar.toBytes p.dtimCount, Scalar.toBytes p.dtimPeriod, Scalar.toBytes p.hasCountry,
    p.countryCode.bytes, Scalar.toBytes p.countryEnvironment,
    Scalar.toBytes p.numCountryTriplets, p.countryTriplets.flatMap CountryType.bytes,
    Scalar.toBytes p.hasRsn, Scalar.toBytes p.rsnVersion, p.rsnGroupCipherOui.bytes,
    Scalar.toBytes p.rsnGroupCipherType, Scalar.toBytes p.pairwiseCipherCount,
    p.pairwiseCipher.flatMap CipherField.bytes, Scalar.toBytes p.authkeyMngmtCount,
    p.authkeyMngmt.flatMap CipherField.bytes, Scalar.toBytes p.rsnCapabilities,
    Scalar.toBytes p.hasErp, Scalar.toBytes p.nonErpPresent, Scalar.toBytes p.useProtection,
    Scalar.toBytes p.barkerPreambleMode, Scalar.toBytes p.hasBssLoad,
    Scalar.toBytes p.stationCount, Scalar.toBytes p.channelUtilization,
    Scalar.toBytes p.availAdmissionCapacity, Scalar.toBytes p.ibssPs,
    Scalar.toBytes p.atimWindow].flatten

/-- The encoder appends the wire image of an entry. -/
lemma encode_ofBytes {p : ScanInfo} (hp : p.WellFormed) (bs : List UInt8) :
    encodeScanInfo (Out.ofBytes bs) p = Out.ofBytes (bs ++ p.bytes) := by
  have htriplets := Out.each_ofBytes (loopCount p.numCountryTriplets) p.countryTriplets
    fun c _ => c.encode_ofBytes
  have hciphers (n : ℕ) (a : List CipherField) := Out.each_ofBytes n a fun c _ => c.encode_ofBytes
  simp only [encodeScanInfo, Out.ofBytes_scalar, encodeChar_ofBytes hp.intfName,
    encodeChar_ofBytes hp.macAddr, encodeChar_ofBytes hp.ssid, Out.each_scalar_ofBytes, htriplets,
    hciphers, hp.rates.take_eq, hp.countryTriplets.take_eq, hp.pairwiseCipher.take_eq,
    hp.authkeyMngmt.take_eq]
  simp [bytes, Char3.bytes]

/-- The decoder turns the wire image of an entry back into the entry. -/
lemma decodes {p : ScanInfo} (hp : p.WellFormed) : Decodes decodeScanInfo p.bytes p.arrived := by
  unfold decodeScanInfo bytes
  iterate 2 refine (Decodes.scalar _).cons ?_
  refine (decodes_char hp.intfName).cons ?_
  refine (decodes_char hp.macAddr).cons ?_
  refine (decodes_char hp.ssid).cons ?_
  iterate 13 refine (Decodes.scalar _).cons ?_
  refine (Decodes.scalars p.rates hp.rates.loopCount_eq.symm).cons ?_
  iterate 6 refine (Decodes.scalar _).cons ?_
  refine p.countryCode.decodes.cons ?_
  iterate 2 refine (Decodes.scalar _).cons ?_
  refine (Decodes.array p.countryTriplets hp.countryTriplets.loopCount_eq.symm
    fun c _ => c.decodes).cons ?_
  iterate 2 refine (Decodes.scalar _).cons ?_
  refine p.rsnGroupCipherOui.decodes.cons ?_
  iterate 2 refine (Decodes.scalar _).cons ?_
  refine (Decodes.array p.pairwiseCipher hp.pairwiseCipher.loopCount_eq.symm
    fun c _ => c.decodes).cons ?_
  refine (Decodes.scalar _).cons ?_
  refine (Decodes.array p.authkeyMngmt hp.authkeyMngmt.loopCount_eq.symm
    fun c _ => c.decodes).cons ?_
  iterate 11 refine (Decodes.scalar _).cons ?_
  simp only [List.map_id']
  exact Decodes.pure _

/-- The number of bytes an entry is written in. -/
lemma length_bytes (p : ScanInfo) :
    p.bytes.length = 139 + (charBytes p.intfName).length + (charBytes p.macAddr).length +
      (charBytes p.ssid).length + 4 * p.rates.length + 12 * p.countryTriplets.length +
      4 * p.pairwiseCipher.length + 4 * p.authkeyMngmt.length := by
  simp only [bytes, List.flatten_cons, List.flatten_nil, List.length_append, List.length_nil,
    Scalar.length_toBytes, Scalar.width_uint8, Scalar.width_uint32, Scalar.width_int32,
    Scalar.width_uint64, Scalar.width_int64, Scalar.width_bool, Char3.length_bytes,
    List.length_flatMap, CountryType.length_bytes, CipherField.length_bytes, List.map_const',
    List.sum_replicate, smul_eq_mul]
  omega

/-- An entry is written in at least 32 bytes less than the size function counts for it: 36 bytes of
the `bool` fields make up for the 4 bytes of `rsn_version` that are not counted. -/
lemma length_bytes_le {p : ScanInfo} (hp : p.Counted) :
    (p.bytes.length : ℤ) + 32 ≤ scanInfoSize strSize p := by
  have hlen := p.length_bytes
  have hname := length_charBytes p.intfName
  have hmac := length_charBytes p.macAddr
  have hssid := length_charBytes p.ssid
  obtain ⟨hrates, htriplets, hpairwise, hauthkey⟩ := hp
  unfold Counts at hrates htriplets hpairwise hauthkey
  simp only [scanInfoSize, strSize, toInt_boolLenEthanol, hrates, htriplets, hpairwise, hauthkey]
  omega

lemma size_nonneg {p : ScanInfo} (hp : p.Counted) : 0 ≤ scanInfoSize strSize p := by
  have := length_bytes_le hp
  omega

/-- The strings of an entry with a representable size have representable lengths. -/
lemma wellFormed_of_size_lt {p : ScanInfo} (hp : p.Counted)
    (hsize : scanInfoSize strSize p < 2 ^ 31) : p.WellFormed := by
  have hname := strSize_nonneg p.intfName
  have hmac := strSize_nonneg p.macAddr
  have hssid := strSize_nonneg p.ssid
  refine { hp with intfName := ?_, macAddr := ?_, ssid := ?_ }
  all_goals
    refine strFits_of_strSize_le ?_ hsize
    obtain ⟨hrates, htriplets, hpairwise, hauthkey⟩ := hp
    unfold Counts at hrates htriplets hpairwise hauthkey
    simp only [scanInfoSize, toInt_boolLenEthanol, hrates, htriplets, hpairwise, hauthkey]
    omega

/-- Long strings change what is counted for an entry by a multiple of `2 ^ 32`. -/
lemma size_modEq (p : ScanInfo) :
    scanInfoSize (fun s => (strlenEthanol s).toInt) p ≡ scanInfoSize strSize p [ZMOD 2 ^ 32] := by
  unfold scanInfoSize
  gcongr <;> apply strlenEthanol_modEq

end ScanInfo

namespace MsgScanReceived

/-- The count matches the list of entries, and so do the counts in the entries. -/
structure Counted (h : MsgScanReceived) : Prop where
  count : Counts h.numScan h.s
  entries : ∀ p ∈ h.s, p.Counted

/-- The counts match, and the strings have representable lengths. -/
structure WellFormed (h : MsgScanReceived) : Prop where
  intfName : StrFits h.intfName
  staIp : StrFits h.staIp
  count : Counts h.numScan h.s
  entries : ∀ p ∈ h.s, p.WellFormed

/-- The message as it arrives: `m_size` is set by the encoder, and empty strings are `NULL`. -/
def arrived (h : MsgScanReceived) : MsgScanReceived :=
  { h with
    mSize := messageSizeScanReceived h
    intfName := nullIfEmpty h.intfName
    staIp := nullIfEmpty h.staIp
    s := h.s.map ScanInfo.arrived }

/-- The wire image of a message. -/
def bytes (h : MsgScanReceived) : List UInt8 :=
  [headerBytes h.mType h.mId (messageSizeScanReceived h), charBytes h.intfName, charBytes h.staIp,
    Scalar.toBytes h.staPort, Scalar.toBytes h.numScan, h.s.flatMap ScanInfo.bytes].flatten

/-- The encoder writes the wire image of the message. -/
lemma encode_eq {h : MsgScanReceived} (hh : h.WellFormed) :
    encodeMsgScanReceived h = ⟨messageSizeScanReceived h, Out.ofBytes h.bytes⟩ := by
  have hentries := Out.each_ofBytes (f := encodeScanInfo) (loopCount h.numScan) h.s
    fun p hp => ScanInfo.encode_ofBytes (hh.entries p (List.mem_of_mem_take hp))
  simp only [encodeMsgScanReceived, encodeHeader_ofBytes, encodeChar_ofBytes hh.intfName,
    encodeChar_ofBytes hh.staIp, Out.ofBytes_scalar, hentries, hh.count.take_eq]
  simp [bytes]

/-- The decoder turns the wire image back into the message. -/
lemma decodes {h : MsgScanReceived} (hh : h.WellFormed) (hv : h.pVersion = some ethanolVersion) :
    Decodes decodeMsgScanReceived h.bytes h.arrived := by
  unfold decodeMsgScanReceived bytes
  refine (decodes_header _ _ _).cons ?_
  refine (decodes_char hh.intfName).cons ?_
  refine (decodes_char hh.staIp).cons ?_
  refine (Decodes.scalar h.staPort).cons ?_
  -- the count was stored as an `int` and is loaded as an `unsigned int`
  refine (Decodes.scalar h.numScan.toUInt32).cons ?_
  refine (Decodes.array h.s hh.count.toNat_toUInt32.symm
    fun p hp => ScanInfo.decodes (hh.entries p hp)).cons ?_
  simp only [arrived, hv]
  exact Decodes.pure _

/-- The message is written in no more bytes than the size function counts. -/
lemma length_bytes_le {h : MsgScanReceived} (hh : h.Counted)
    (hv : h.pVersion = some ethanolVersion) :
    (h.bytes.length : ℤ) ≤ scanReceivedSize strSize h := by
  have hname := length_charBytes h.intfName
  have hsta := length_charBytes h.staIp
  have hentries := Out.length_flatMap_add_le_sum ScanInfo.bytes (scanInfoSize strSize) 32 h.s
    fun p hp => ScanInfo.length_bytes_le (hh.entries p hp)
  simp only [scanReceivedSize, hv, strSize, strLen_ethanolVersion, hh.count.take_eq]
  simp only [bytes, List.flatten_cons, List.flatten_nil, List.length_append, List.length_nil,
    length_headerBytes, Scalar.length_toBytes, Scalar.width_int32]
  omega

/-- The strings of a message with a representable size have representable lengths. -/
lemma wellFormed_of_size_lt {h : MsgScanReceived} (hh : h.Counted)
    (hsize : scanReceivedSize strSize h < 2 ^ 31) : h.WellFormed := by
  have hnonneg : ∀ p ∈ h.s, 0 ≤ scanInfoSize strSize p :=
    fun p hp => ScanInfo.size_nonneg (hh.entries p hp)
  have hsum : 0 ≤ (h.s.map (scanInfoSize strSize)).sum := List.sum_nonneg (by simpa using hnonneg)
  have hversion := strSize_nonneg h.pVersion
  have hname := strSize_nonneg h.intfName
  have hsta := strSize_nonneg h.staIp
  rw [scanReceivedSize, hh.count.take_eq] at hsize
  refine ⟨strFits_of_strSize_le ?_ hsize, strFits_of_strSize_le ?_ hsize, hh.count, fun p hp => ?_⟩
  · omega
  · omega
  · have := le_sum_map hnonneg hp
    exact ScanInfo.wellFormed_of_size_lt (hh.entries p hp) (by omega)

/-- The size is the sum, with strings counted in full, reduced to an `int`. -/
lemma size_eq (h : MsgScanReceived) :
    messageSizeScanReceived h = Int32.ofInt (scanReceivedSize strSize h) := by
  apply ofInt_eq_of_modEq
  unfold scanReceivedSize
  gcongr
  iterate 3 apply strlenEthanol_modEq
  exact sum_map_modEq ScanInfo.size_modEq _

/-- A message whose size is representable is written inside the buffer allocated for it. -/
lemma encode_inBuffer {h : MsgScanReceived} (hh : h.Counted)
    (hv : h.pVersion = some ethanolVersion) (hsize : scanReceivedSize strSize h < 2 ^ 31) :
    (encodeMsgScanReceived h).InBuffer := by
  have hwf := wellFormed_of_size_lt hh hsize
  rw [encode_eq hwf, size_eq]
  exact Encoded.inBuffer_of_le (length_bytes_le hh hv) hsize

end MsgScanReceived

/-- `decode_msg_scan_received` undoes `encode_msg_scan_received`, for every message whose size is
representable and whatever the bytes of the buffer that were not written. -/
theorem scanReceived_roundTrip (h : MsgScanReceived) (hh : h.Counted)
    (hv : h.pVersion = some ethanolVersion) (hsize : scanReceivedSize strSize h < 2 ^ 31)
    (junk beyond : ℕ → UInt8) (heap : ℕ → List UInt8) :
    (encodeMsgScanReceived h).received decodeMsgScanReceived junk beyond heap =
      some h.arrived := by
  have hwf := MsgScanReceived.wellFormed_of_size_lt hh hsize
  have hin := MsgScanReceived.encode_inBuffer hh hv hsize
  rw [MsgScanReceived.encode_eq hwf] at hin ⊢
  exact Encoded.received_eq (MsgScanReceived.decodes hwf hv) hin junk beyond heap

/-- A scan reply for `wlan0` with two entries. -/
def twoAps : MsgScanReceived where
  mType := EnumMsgType.msgScan.code
  mId := 7
  pVersion := some ethanolVersion
  mSize := 0
  intfName := some ⟨[119, 108, 97, 110, 48], by decide⟩
  staIp := some ⟨[], by decide⟩
  staPort := 0
  numScan := 2
  s := [
    { (default : ScanInfo) with
      ssid := some ⟨[97, 112, 49], by decide⟩, numRates := 2, rates := [1065353216, 1073741824],
      numCountryTriplets := 1, countryTriplets := [⟨1, 11, 30⟩] },
    { (default : ScanInfo) with
      ssid := some ⟨[], by decide⟩, hasRsn := true, rsnVersion := 1, pairwiseCipherCount := 2,
      pairwiseCipher := [⟨0, 15, 172, 4⟩, ⟨0, 15, 172, 2⟩], authkeyMngmtCount := 1,
      authkeyMngmt := [⟨0, 15, 172, 2⟩] }]

lemma twoAps_counted : twoAps.Counted where
  count := by decide
  entries p hp := by
    simp only [twoAps, List.mem_cons, List.not_mem_nil, or_false] at hp
    rcases hp with rfl | rfl <;> constructor <;> decide

theorem scanReceived_roundTrip_twoAps :
    scanReceivedSize strSize twoAps < 2 ^ 31 ∧ ∀ junk beyond heap,
      (encodeMsgScanReceived twoAps).received decodeMsgScanReceived junk beyond heap =
        some twoAps.arrived := by
  have hsize : scanReceivedSize strSize twoAps < 2 ^ 31 := by decide
  exact ⟨hsize, scanReceived_roundTrip twoAps twoAps_counted rfl hsize⟩

/-- A scan reply with one entry, for an access point that announces `2 ^ 29` rates. -/
def manyRates : MsgScanReceived where
  mType := EnumMsgType.msgScan.code
  mId := 7
  pVersion := some ethanolVersion
  mSize := 0
  intfName := none
  staIp := none
  staPort := 0
  numScan := 1
  s := [{ (default : ScanInfo) with numRates := 536870912, rates := List.replicate (2 ^ 29) 0 }]

lemma manyRates_counted : manyRates.Counted where
  count := by decide
  entries p hp := by
    obtain rfl := List.mem_singleton.mp hp
    constructor
    case rates => exact counts_replicate (by decide : (536870912 : Int32).toInt = 2 ^ 29) 0
    all_goals decide

/-- The size of `manyRates` wraps around to a negative `int`, so no buffer can hold the message. -/
lemma manyRates_not_inBuffer : ¬ (encodeMsgScanReceived manyRates).InBuffer := by
  have hneg : (messageSizeScanReceived manyRates).toInt < 0 := by decide
  exact Encoded.not_inBuffer_of_neg hneg

/-- Without the bound on the size the round trip fails: nothing is sent for `manyRates`. -/
theorem scanReceived_roundTrip_manyRates :
    manyRates.Counted ∧ manyRates.pVersion = some ethanolVersion ∧ ∀ junk beyond heap,
      (encodeMsgScanReceived manyRates).received decodeMsgScanReceived junk beyond heap ≠
        some manyRates.arrived := by
  refine ⟨manyRates_counted, rfl, fun junk beyond heap => ?_⟩
  rw [Encoded.received_eq_none manyRates_not_inBuffer]
  simp

end Ethanol
