import EthanolHostapd.EthanolFunctions.GetInterfaces
import EthanolHostapd.Messaging.Client
import EthanolHostapd.Messaging.Scan

/-!
# Access points in range

`msg_ap_in_range.c`.  The handler scans one interface, or all wireless interfaces of this machine, and
reports the access points found; or it relays the request to a station.
-/

namespace Ethanol

open Wire

/-- `struct ap_in_range`. -/
structure ApInRange where
  intfName : Option CString
  macAp : Option CString
  ssid : Option CString
  status : Int32
  frequency : Int64
  channel : Int32
  isDBm : Bool
  signal : CFloat
  powerconstraint : Int32
  txPower : Int32
  linkMargin : Int32
  age : Int32
  deriving DecidableEq

/-- `struct msg_ap_in_range`. -/
structure MsgApInRange where
  mType : Int32
  mId : Int32
  pVersion : Option CString
  mSize : Int32
  intfName : Option CString
  staIp : Option CString
  staPort : Int32
  numAps : UInt32
  aps : List ApInRange
  deriving DecidableEq

/-- What the loop of `message_size_ap_in_range` adds for one access point. -/
def apInRangeSize (a : ApInRange) : ℤ :=
  (strlenEthanol a.macAp).toInt + (strlenEthanol a.ssid).toInt + (strlenEthanol a.intfName).toInt +
  4 + 8 + 4 + -- status, frequency, channel
  boolLenEthanol.toInt + -- is_dBm
  4 + -- signal, counted as an "int"
  4 + 4 + 4 + 4 -- powerconstraint, tx_power, link_margin, age

/-- `message_size_ap_in_range`. -/
def messageSizeApInRange (h : MsgApInRange) : Int32 :=
  Int32.ofInt (
    4 + 4 + (strlenEthanol h.pVersion).toInt + 4 +
    (strlenEthanol h.intfName).toInt + (strlenEthanol h.staIp).toInt + 4 + 4 +
    ((h.aps.take h.numAps.toNat).map apInRangeSize).sum)

/-- The body of the loop of `encode_msg_ap_in_range`. -/
def encodeApInRange (aux : Out) (a : ApInRange) : Out :=
  let aux := encodeChar aux a.intfName
  let aux := encodeChar aux a.macAp
  let aux := encodeChar aux a.ssid
  let aux := encodeInt aux a.status
  let aux := encodeLong aux a.frequency
  let aux := encodeInt aux a.channel
  let aux := encodeFloat aux a.signal
  let aux := encodeInt aux a.powerconstraint
  let aux := encodeInt aux a.txPower
  let aux := encodeInt aux a.linkMargin
  let aux := encodeInt aux a.age
  encodeBool aux a.isDBm

/-- `encode_msg_ap_in_range`. -/
def encodeMsgApInRange (h : MsgApInRange) : Encoded :=
  let bufLen := messageSizeApInRange h
  let aux := Out.ofBytes []
  let aux := encodeHeader aux h.mType h.mId bufLen -- h->m_size = *buf_len
  let aux := encodeChar aux h.intfName
  let aux := encodeChar aux h.staIp
  let aux := encodeInt aux h.staPort
  let aux := encodeUint aux h.numAps
  ⟨bufLen, Out.each encodeApInRange h.numAps.toNat h.aps aux⟩

/-- The body of the loop of `decode_msg_ap_in_range`. -/
def decodeApInRange : Decoder ApInRange := do
  let intfName ← decodeChar
  let macAp ← decodeChar
  let ssid ← decodeChar
  let status ← decodeInt
  let frequency ← decodeLong
  let channel ← decodeInt
  let signal ← decodeFloat
  let powerconstraint ← decodeInt
  let txPower ← decodeInt
  let linkMargin ← decodeInt
  let age ← decodeInt
  let isDBm ← decodeBool
  pure {
    intfName, macAp, ssid, status, frequency, channel, isDBm, signal, powerconstraint, txPower,
    linkMargin, age }

/-- `decode_msg_ap_in_range`. -/
def decodeMsgApInRange : Decoder MsgApInRange := do
  let header ← decodeHeader
  let intfName ← decodeChar
  let staIp ← decodeChar
  let staPort ← decodeInt
  let numAps ← decodeUint
  let aps ← Decoder.array numAps.toNat decodeApInRange
  pure {
    mType := header.mType, mId := header.mId, pVersion := header.mVersion, mSize := header.mSize,
    intfName, staIp, staPort, numAps, aps }

/-! ## Client and server -/

/-- The surroundings of `process_msg_ap_in_range`. -/
structure ApInRangeEnv where
  /-- The stations. -/
  net : Network
  /-- The interfaces of this machine. -/
  interfaces : List InterfaceFields
  /-- The result of a scan of an interface (`return_ap_in_range` or `get_scanning_info`). -/
  scan : CString → List ScanInfo

/-- `send_msg_get_ap_in_range`. -/
def sendMsgGetApInRange (env : ApInRangeEnv) (hostname : CString) (portnum id : Int32)
    (intfName staIp : Option CString) (staPort : Int32) : Option MsgApInRange × Int32 :=
  exchange env.net hostname portnum id
    (fun mId => encodeMsgApInRange {
      mType := EnumMsgType.msgGetApInRangeType.code, mId, pVersion := some ethanolVersion,
      mSize := 0, intfName, staIp, staPort, numAps := 0, aps := [] })
    (fun answer =>
      if 0 < answer.bytes ∧
          returnMessageType answer.buf = EnumMsgType.msgGetApInRangeType.code then
        some (decodeMsgApInRange answer.buf Cursor.start).1
      else none)

/-- The report on an access point that was found by a scan; `age` is cut down from a `long`. -/
def ScanInfo.toApInRange (p : ScanInfo) : ApInRange where
  intfName := p.intfName
  macAp := p.macAddr
  ssid := p.ssid
  status := p.status
  frequency := p.frequency
  channel := p.channel
  isDBm := p.isDBm
  signal := p.signal
  powerconstraint := p.powerconstraint
  txPower := p.txPower
  linkMargin := p.linkMargin
  age := p.age.toInt32

/-- The access points that a local request reports.  Without an interface name, the scans of all
wireless interfaces are collected in front of one another. -/
def scannedAps (env : ApInRangeEnv) (intfName : Option CString) : List ApInRange :=
  match intfName with
  | some intfName => (env.scan intfName).map ScanInfo.toApInRange
  | none =>
    match getAllInterfaces env.interfaces with
    | some intfs =>
      let all := ((intfs.filter InterfaceFields.isWifi).map fun f => env.scan f.intfName).reverse
      all.flatten.map ScanInfo.toApInRange
    | none => []

/-- What `process_msg_ap_in_range` makes of the decoded request before it encodes it as the reply. -/
def answerMsgApInRange (env : ApInRangeEnv) (h : MsgApInRange) : MsgApInRange :=
  match h.staIp with
  | none =>
    let aps := scannedAps env h.intfName
    { h with numAps := UInt32.ofNat aps.length, aps }
  | some staIp =>
    let sent := sendMsgGetApInRange env staIp h.staPort h.mId h.intfName none 0
    let h := { h with mId := sent.2 } -- the id was passed as &h->m_id
    match sent.1 with
    | some h1 => { h with numAps := h1.numAps, aps := h1.aps }
    | none => { h with numAps := 0, aps := [] }

/-- `process_msg_ap_in_range`: the reply to the request in `input`. -/
def processMsgApInRange (env : ApInRangeEnv) (input : Memory) : Encoded :=
  encodeMsgApInRange (answerMsgApInRange env (decodeMsgApInRange input Cursor.start).1)

end Ethanol
