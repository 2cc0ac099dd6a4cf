import EthanolHostapd.Messaging.Client

/-!
# Messages without loops

Most messages are a header and a fixed list of fields, and their functions differ only in which fields these are.  A
`FlatCodec` is what the source says about such a message: the declared types of the structure, the summands of its size
function, and the order in which the fields are encoded and decoded.  `sizeMsg`, `encodeMsg` and `decodeMsg` are what the
functions do with that.

The main result is about all of them at once: what one side encodes arrives at the other, as long as the size is an `int`.
-/

namespace Ethanol

open Wire

/-! ## Kinds of fields -/

/-- A `long double`, of which only the sixteen bytes matter. -/
abbrev CLongDouble : Type := BitVec 128

instance : Scalar CLongDouble where
  width := 16
  pattern := BitVec.toNat
  ofPattern := BitVec.ofNat 128
  pattern_lt a := a.isLt
  ofPattern_pattern a := by simp

instance : Scalar UInt16 where
  width := 2
  pattern := UInt16.toNat
  ofPattern := UInt16.ofNat
  pattern_lt a := a.toNat_lt
  ofPattern_pattern a := by simp

/-- The types of the members; an `enum` is an `int`. -/
inductive FieldKind
  | str
  | ushort
  | int
  | uint
  | long
  | ulong
  | twoLong
  | bool
  | float
  | longdouble
  deriving DecidableEq

namespace FieldKind

/-- The values of a type. -/
abbrev Value : FieldKind → Type
  | .str => Option CString
  | .ushort => UInt16
  | .int => Int32
  | .uint => UInt32
  | .long => Int64
  | .ulong => UInt64
  | .twoLong => Int64
  | .bool => Bool
  | .float => CFloat
  | .longdouble => CLongDouble

/-- `sizeof`; that of a `char *` is the size of a pointer. -/
def sizeof : FieldKind → ℕ
  | .str => 8
  | .ushort => 2
  | .int => 4
  | .uint => 4
  | .long => 8
  | .ulong => 8
  | .twoLong => 8
  | .bool => 1
  | .float => 4
  | .longdouble => 16

/-- The function of `buffer_handler_fun.c` that encodes a member of this type. -/
def encode : (k : FieldKind) → Out → k.Value → Out
  | .str, aux, s => encodeChar aux s
  | .ushort, aux, i => aux.scalar i
  | .int, aux, i => encodeInt aux i
  | .uint, aux, i => encodeUint aux i
  | .long, aux, i => encodeLong aux i
  | .ulong, aux, i => encodeU2long aux i
  | .twoLong, aux, i => encode2long aux i
  | .bool, aux, b => encodeBool aux b
  | .float, aux, f => encodeFloat aux f
  | .longdouble, aux, d => aux.scalar d

/-- The function that decodes it. -/
def decode : (k : FieldKind) → Decoder k.Value
  | .str => decodeChar
  | .ushort => Decoder.scalar UInt16
  | .int => decodeInt
  | .uint => decodeUint
  | .long => decodeLong
  | .ulong => decodeU2long
  | .twoLong => decode2long
  | .bool => decodeBool
  | .float => decodeFloat
  | .longdouble => Decoder.scalar CLongDouble

/-- A cleared member. -/
def zero : (k : FieldKind) → k.Value
  | .str => none
  | .ushort => 0
  | .int => 0
  | .uint => 0
  | .long => 0
  | .ulong => 0
  | .twoLong => 0
  | .bool => false
  | .float => 0
  | .longdouble => 0

/-- The string that a member points to. -/
def strOf : (k : FieldKind) → k.Value → Option CString
  | .str, s => s
  | _, _ => none

end FieldKind

/-! ## Messages -/

/-- The names of the members. -/
inductive MsgField
  | intfName | staIp | staPort | enabled | ssid | dtimInterval | guardInterval | rtsThreshold | macAp
  | macSta | allowed | response | beaconInterval | tcpPort | bytesReceived | bytesSent | currentAp | status
  | wiphy | channelBandwitdh | ht | channel | wirelessMode | bandwidth | broadcastSsid | protectedMode
  | wmmQos | cpuUsage | frequency | autochannel | delay | varDelay | numFailed | compatible
  | fragmentationThreshold | period | jitter | varJitter | latitudeResolution | latituteFraction
  | latituteInteger | longitudeResolution | longituteFraction | longituteInteger | altitudeType
  | altitudeResolution | altituteFraction | altituteInteger | alpha | msec | memoryUsage | mtu | packetLost
  | packetReceived | packetSent | preamble | macNewAp | retries | interval | threshold | snr | macAddress
  | freq | rxPackets | rxBytes | rxDropped | rxErrors | txPackets | txBytes | txDropped | txErrors
  | timeStamp | mode | bitrate | txpower | autoPower | txqueuelen | uptime | idle | channelBandwidth
  | nomecomproblema
  deriving DecidableEq

/-- A summand of a size function. -/
inductive SizeTerm
  /-- `strlen_ethanol(h->f)`. -/
  | strlen (f : MsgField)
  /-- `sizeof(h->f)`. -/
  | sizeof (f : MsgField)
  /-- `bool_len_ethanol()`. -/
  | boolLen
  deriving DecidableEq

/-- The functions of a message.  The header, which they all have, is left out. -/
structure FlatCodec where
  /-- The declarations of the structure. -/
  struct : List (MsgField × FieldKind)
  /-- What the size function adds up. -/
  size : List SizeTerm
  /-- What is encoded after the header. -/
  encode : List MsgField
  /-- What is decoded after the header. -/
  decode : List MsgField
  deriving DecidableEq

namespace FlatCodec

/-- The declared type of a member. -/
def kind (c : FlatCodec) (f : MsgField) : FieldKind := (c.struct.lookup f).getD .int

end FlatCodec

/-- The members of a message. -/
abbrev MsgFields (c : FlatCodec) : Type := (f : MsgField) → (c.kind f).Value

namespace MsgFields

variable {c : FlatCodec}

/-- A member, read at a type. -/
def get (v : MsgFields c) (f : MsgField) (k : FieldKind) : k.Value :=
  if hk : c.kind f = k then hk ▸ v f else k.zero

/-- An assignment to a member of that type; a structure without the member stays as it is. -/
def set (v : MsgFields c) (f : MsgField) (k : FieldKind) (x : k.Value) : MsgFields c :=
  if hk : c.kind f = k then Function.update v f (hk ▸ x) else v

end MsgFields

/-- A message. -/
structure FlatMsg (c : FlatCodec) where
  mType : Int32
  mId : Int32
  pVersion : Option CString
  mSize : Int32
  field : MsgFields c

namespace FlatCodec

variable (c : FlatCodec)

/-- The value of a summand. -/
def termSize (v : MsgFields c) : SizeTerm → ℤ
  | .strlen f => (strlenEthanol ((c.kind f).strOf (v f))).toInt
  | .sizeof f => (c.kind f).sizeof
  | .boolLen => boolLenEthanol.toInt

/-- The size function, converted to the `int` of `*buf_len`. -/
def sizeMsg (h : FlatMsg c) : Int32 :=
  Int32.ofInt (4 + 4 + (strlenEthanol h.pVersion).toInt + 4 + (c.size.map (c.termSize h.field)).sum)

/-- Several members. -/
def encodeFields (v : MsgFields c) (fields : List MsgField) (aux : Out) : Out :=
  fields.foldl (fun aux f => (c.kind f).encode aux (v f)) aux

/-- The encoder. -/
def encodeMsg (h : FlatMsg c) : Encoded :=
  let bufLen := c.sizeMsg h
  let aux := encodeHeader (Out.ofBytes []) h.mType h.mId bufLen -- h->m_size = *buf_len
  ⟨bufLen, c.encodeFields h.field c.encode aux⟩

/-- Several members are decoded into a structure. -/
def decodeFields : List MsgField → MsgFields c → Decoder (MsgFields c)
  | [], v => pure v
  | f :: fields, v => do
    let x ← (c.kind f).decode
    decodeFields fields (Function.update v f x)

/-- The decoder; `fresh` is what `malloc` leaves in the structure. -/
def decodeMsg (fresh : MsgFields c) : Decoder (FlatMsg c) := do
  let header ← decodeHeader
  let field ← c.decodeFields c.decode fresh
  pure { mType := header.mType, mId := header.mId, pVersion := header.mVersion, mSize := header.mSize, field }

end FlatCodec

/-! ## The messages of the repository -/

namespace FlatCodec

/-- `msg_802_11e_enabled.c`. -/
def msg80211eEnabled : FlatCodec where
  struct := [(.intfName, .str), (.staIp, .str), (.staPort, .int), (.enabled, .bool)]
  size := [.strlen .intfName, .strlen .staIp, .sizeof .staPort, .boolLen]
  encode := [.intfName, .staIp, .staPort, .enabled]
  decode := [.intfName, .staIp, .staPort, .enabled]

/-- `msg_ap_broadcastssid.c`. -/
def msgApBroadcastssid : FlatCodec where
  struct := [(.intfName, .str), (.ssid, .str), (.enabled, .bool)]
  size := [.boolLen, .strlen .ssid]
  encode := [.enabled, .ssid]
  decode := [.enabled, .ssid]

/-- `msg_ap_ctsprotection_enabled.c`. -/
def msgApCtsprotectionEnabled : FlatCodec where
  struct := [(.intfName, .str), (.enabled, .bool)]
  size := [.strlen .intfName, .boolLen]
  encode := [.intfName, .enabled]
  decode := [.intfName, .enabled]

/-- `msg_ap_dtiminterval.c`. -/
def msgApDtiminterval : FlatCodec where
  struct := [(.intfName, .str), (.dtimInterval, .long)]
  size := [.strlen .intfName, .sizeof .dtimInterval]
  encode := [.intfName, .dtimInterval]
  decode := [.intfName, .dtimInterval]

/-- `msg_ap_frameburstenabled.c`. -/
def msgApFrameburstenabled : FlatCodec where
  struct := [(.intfName, .str), (.enabled, .bool)]
  size := [.strlen .intfName, .boolLen]
  encode := [.intfName, .enabled]
  decode := [.intfName, .enabled]

/-- `msg_ap_guardinterval.c`. -/
def msgApGuardinterval : FlatCodec where
  struct := [(.intfName, .str), (.guardInterval, .twoLong)]
  size := [.strlen .intfName, .sizeof .guardInterval]
  encode := [.intfName, .guardInterval]
  decode := [.intfName, .guardInterval]

/-- `msg_ap_rtsthreshold.c`. -/
def msgApRtsthreshold : FlatCodec where
  struct := [(.intfName, .str), (.rtsThreshold, .uint)]
  size := [.strlen .intfName, .sizeof .rtsThreshold]
  encode := [.intfName, .rtsThreshold]
  decode := [.intfName, .rtsThreshold]

/-- `msg_association_process.c`. -/
def msgAssociationProcess : FlatCodec where
  struct := [(.macAp, .str), (.macSta, .str), (.allowed, .bool), (.response, .int)]
  size := [.strlen .macAp, .strlen .macSta, .boolLen, .sizeof .response]
  encode := [.macAp, .macSta, .allowed, .response]
  decode := [.macAp, .macSta, .allowed, .response]

/-- `msg_beacon_interval.c`. -/
def msgBeaconInterval : FlatCodec where
  struct := [(.intfName, .str), (.beaconInterval, .twoLong)]
  size := [.strlen .intfName, .sizeof .beaconInterval]
  encode := [.intfName, .beaconInterval]
  decode := [.intfName, .beaconInterval]

/-- `msg_bye.c`. -/
def msgBye : FlatCodec where
  struct := [(.tcpPort, .int)]
  size := [.sizeof .tcpPort]
  encode := [.tcpPort]
  decode := [.tcpPort]

/-- `msg_bytesreceived.c`. -/
def msgBytesreceived : FlatCodec where
  struct := [(.intfName, .str), (.staIp, .str), (.staPort, .int), (.bytesReceived, .twoLong)]
  size := [.strlen .intfName, .strlen .staIp, .sizeof .staPort, .sizeof .bytesReceived]
  encode := [.intfName, .staIp, .staPort, .bytesReceived]
  decode := [.intfName, .staIp, .staPort, .bytesReceived]

/-- `msg_bytessent.c`. -/
def msgBytessent : FlatCodec where
  struct := [(.intfName, .str), (.staIp, .str), (.staPort, .int), (.bytesSent, .twoLong)]
  size := [.strlen .intfName, .strlen .staIp, .sizeof .staPort, .sizeof .bytesSent]
  encode := [.intfName, .staIp, .staPort, .bytesSent]
  decode := [.intfName, .staIp, .staPort, .bytesSent]

/-- `msg_changed_ap.c`. -/
def msgChangedAp : FlatCodec where
  struct := [(.intfName, .str), (.currentAp, .str), (.status, .int)]
  size := [.sizeof .status, .strlen .currentAp, .strlen .intfName]
  encode := [.intfName, .currentAp, .status]
  decode := [.intfName, .currentAp, .status]

/-- `msg_channelbandwitdh.c`. -/
def msgChannelbandwitdh : FlatCodec where
  struct := [(.wiphy, .twoLong), (.channelBandwitdh, .uint), (.ht, .uint)]
  size := [.sizeof .wiphy, .sizeof .channelBandwitdh, .sizeof .ht]
  encode := [.wiphy, .channelBandwitdh, .ht]
  decode := [.wiphy, .channelBandwitdh, .ht]

/-- `msg_conf_ssid_radio.c`. -/
def msgConfSsidRadio : FlatCodec where
  struct := [(.wiphy, .twoLong), (.ssid, .str), (.channel, .uint), (.wirelessMode, .int), (.bandwidth, .uint),
    (.broadcastSsid, .bool), (.protectedMode, .bool), (.wmmQos, .bool)]
  size := [.sizeof .wiphy, .strlen .ssid, .sizeof .channel, .sizeof .wirelessMode, .sizeof .bandwidth,
    .sizeof .broadcastSsid, .sizeof .protectedMode, .sizeof .wmmQos]
  encode := [.wiphy, .ssid, .channel, .wirelessMode, .bandwidth, .broadcastSsid, .protectedMode, .wmmQos]
  decode := [.wiphy, .ssid, .channel, .wirelessMode, .bandwidth, .broadcastSsid, .protectedMode, .wmmQos]

/-- `msg_cpu.c`. -/
def msgCpu : FlatCodec where
  struct := [(.staIp, .str), (.staPort, .int), (.cpuUsage, .twoLong)]
  size := [.strlen .staIp, .sizeof .staPort, .sizeof .cpuUsage]
  encode := [.staIp, .staPort, .cpuUsage]
  decode := [.staIp, .staPort, .cpuUsage]

/-- `msg_currentchannel.c`. -/
def msgCurrentchannel : FlatCodec where
  struct := [(.intfName, .str), (.staIp, .str), (.staPort, .int), (.channel, .int), (.frequency, .int),
    (.autochannel, .bool)]
  size := [.strlen .intfName, .strlen .staIp, .sizeof .staPort, .sizeof .channel, .sizeof .frequency, .boolLen]
  encode := [.intfName, .staIp, .staPort, .channel, .frequency, .autochannel]
  decode := [.intfName, .staIp, .staPort, .channel, .frequency, .autochannel]

/-- `msg_deauthenticate_user.c`. -/
def msgDeauthenticateUser : FlatCodec where
  struct := [(.macSta, .str)]
  size := [.strlen .macSta]
  encode := [.macSta]
  decode := [.macSta]

/-- `msg_delay.c`. -/
def msgDelay : FlatCodec where
  struct := [(.intfName, .str), (.staIp, .str), (.staPort, .int), (.delay, .float), (.varDelay, .float)]
  size := [.strlen .intfName, .strlen .staIp, .sizeof .staPort, .sizeof .delay, .sizeof .varDelay]
  encode := [.intfName, .staIp, .staPort, .delay, .varDelay]
  decode := [.intfName, .staIp, .staPort, .delay, .varDelay]

/-- `msg_disconnect_user.c`. -/
def msgDisconnectUser : FlatCodec where
  struct := [(.macSta, .str)]
  size := [.strlen .macSta]
  encode := [.macSta]
  decode := [.macSta]

/-- `msg_failed.c`. -/
def msgFailed : FlatCodec where
  struct := [(.macSta, .str), (.numFailed, .twoLong)]
  size := [.strlen .macSta, .sizeof .numFailed]
  encode := [.macSta, .numFailed]
  decode := [.macSta, .numFailed]

/-- `msg_fastbsstransition_compatible.c`. -/
def msgFastbsstransitionCompatible : FlatCodec where
  struct := [(.intfName, .str), (.staIp, .str), (.staPort, .int), (.compatible, .bool)]
  size := [.strlen .intfName, .strlen .staIp, .sizeof .staPort, .boolLen]
  encode := [.intfName, .staIp, .staPort, .compatible]
  decode := [.intfName, .staIp, .staPort, .compatible]

/-- `msg_fragmentationthreshold.c`. -/
def msgFragmentationthreshold : FlatCodec where
  struct := [(.wiphy, .twoLong), (.fragmentationThreshold, .uint)]
  size := [.sizeof .wiphy, .sizeof .fragmentationThreshold]
  encode := [.wiphy, .fragmentationThreshold]
  decode := [.wiphy, .fragmentationThreshold]

/-- `msg_frequency.c`. -/
def msgFrequency : FlatCodec where
  struct := [(.ssid, .str), (.intfName, .str), (.staIp, .str), (.staPort, .int), (.frequency, .uint)]
  size := [.strlen .ssid, .strlen .intfName, .sizeof .frequency, .strlen .staIp, .sizeof .staPort]
  encode := [.ssid, .intfName, .staIp, .staPort, .frequency]
  decode := [.ssid, .intfName, .staIp, .staPort, .frequency]

/-- `msg_inform_beacon.c`. -/
def msgReqBeaconinfo : FlatCodec where
  struct := [(.period, .long)]
  size := [.sizeof .period]
  encode := [.period]
  decode := [.period]

/-- `msg_jitter.c`. -/
def msgJitter : FlatCodec where
  struct := [(.macSta, .str), (.jitter, .float), (.varJitter, .float)]
  size := [.strlen .macSta, .sizeof .jitter, .sizeof .varJitter]
  encode := [.macSta, .jitter, .varJitter]
  decode := [.macSta, .jitter, .varJitter]

/-- `msg_location.c`. -/
def msgLocation : FlatCodec where
  struct := [(.macSta, .str), (.latitudeResolution, .ushort), (.latituteFraction, .ulong), (.latituteInteger, .uint),
    (.longitudeResolution, .ushort), (.longituteFraction, .ulong), (.longituteInteger, .uint),
    (.altitudeType, .ushort), (.altitudeResolution, .ushort), (.altituteFraction, .ushort),
    (.altituteInteger, .ulong)]
  size := [.strlen .macSta, .sizeof .latitudeResolution, .sizeof .latituteFraction, .sizeof .latituteInteger,
    .sizeof .longitudeResolution, .sizeof .longituteFraction, .sizeof .longituteInteger, .sizeof .altitudeType,
    .sizeof .altitudeResolution, .sizeof .altituteFraction, .sizeof .altituteInteger]
  encode := [.macSta, .latitudeResolution, .latituteFraction, .latituteInteger, .longitudeResolution,
    .longituteFraction, .longituteInteger, .altitudeType, .altitudeResolution, .altituteFraction, .altituteInteger]
  decode := [.macSta, .latitudeResolution, .latituteFraction, .latituteInteger, .longitudeResolution,
    .longituteFraction, .longituteInteger, .altitudeType, .altitudeResolution, .altituteFraction, .altituteInteger]

/-- `msg_mean_sta_statistics_interface` of `msg_mean_sta_stats.c`. -/
def msgMeanStaStatisticsInterface : FlatCodec where
  struct := [(.staIp, .str), (.staPort, .int), (.intfName, .str)]
  size := [.strlen .staIp, .sizeof .staPort, .strlen .intfName]
  encode := [.staIp, .staPort, .intfName]
  decode := [.staIp, .staPort, .intfName]

/-- `msg_mean_sta_statistics_alpha` of `msg_mean_sta_stats.c`. -/
def msgMeanStaStatisticsAlpha : FlatCodec where
  struct := [(.staIp, .str), (.staPort, .int), (.alpha, .longdouble)]
  size := [.strlen .staIp, .sizeof .staPort, .sizeof .alpha]
  encode := [.staIp, .staPort, .alpha]
  decode := [.staIp, .staPort, .alpha]

/-- `msg_mean_sta_statistics_time` of `msg_mean_sta_stats.c`. -/
def msgMeanStaStatisticsTime : FlatCodec where
  struct := [(.staIp, .str), (.staPort, .int), (.msec, .int)]
  size := [.strlen .staIp, .sizeof .staPort, .sizeof .msec]
  encode := [.staIp, .staPort, .msec]
  decode := [.staIp, .staPort, .msec]

/-- `msg_memory.c`. -/
def msgMemory : FlatCodec where
  struct := [(.staIp, .str), (.staPort, .int), (.memoryUsage, .twoLong)]
  size := [.strlen .staIp, .sizeof .staPort, .sizeof .memoryUsage]
  encode := [.staIp, .staPort, .memoryUsage]
  decode := [.staIp, .staPort, .memoryUsage]

/-- `msg_mtu.c`. -/
def msgMtu : FlatCodec where
  struct := [(.staIp, .str), (.staPort, .int), (.intfName, .str), (.mtu, .int)]
  size := [.strlen .staIp, .sizeof .staPort, .strlen .intfName, .sizeof .mtu]
  encode := [.staIp, .staPort, .intfName, .mtu]
  decode := [.staIp, .staPort, .intfName, .mtu]

/-- `msg_packetslost.c`. -/
def msgPacketslost : FlatCodec where
  struct := [(.intfName, .str), (.staIp, .str), (.staPort, .int), (.packetLost, .twoLong)]
  size := [.strlen .intfName, .strlen .staIp, .sizeof .staPort, .sizeof .packetLost]
  encode := [.intfName, .staIp, .staPort, .packetLost]
  decode := [.intfName, .staIp, .staPort, .packetLost]

/-- `msg_packetsreceived.c`. -/
def msgPacketsreceived : FlatCodec where
  struct := [(.intfName, .str), (.staIp, .str), (.staPort, .int), (.packetReceived, .twoLong)]
  size := [.strlen .intfName, .strlen .staIp, .sizeof .staPort, .sizeof .packetReceived]
  encode := [.intfName, .staIp, .staPort, .packetReceived]
  decode := [.intfName, .staIp, .staPort, .packetReceived]

/-- `msg_packetssent.c`. -/
def msgPacketssent : FlatCodec where
  struct := [(.intfName, .str), (.staIp, .str), (.staPort, .int), (.packetSent, .twoLong)]
  size := [.strlen .intfName, .strlen .staIp, .sizeof .staPort, .sizeof .packetSent]
  encode := [.intfName, .staIp, .staPort, .packetSent]
  decode := [.intfName, .staIp, .staPort, .packetSent]

/-- `msg_powersavemode.c`. -/
def msgPowersavemode : FlatCodec where
  struct := [(.intfName, .str), (.staIp, .str), (.staPort, .int), (.enabled, .bool)]
  size := [.strlen .intfName, .strlen .staIp, .sizeof .staPort, .boolLen]
  encode := [.intfName, .staIp, .staPort, .enabled]
  decode := [.intfName, .staIp, .staPort, .enabled]

/-- `msg_preamble.c`. -/
def msgPreamble : FlatCodec where
  struct := [(.intfName, .str), (.preamble, .int)]
  size := [.strlen .intfName, .sizeof .preamble]
  encode := [.intfName, .preamble]
  decode := [.intfName, .preamble]

/-- `msg_request_begin_association.c`. -/
def msgRequestBeginAssociation : FlatCodec where
  struct := [(.macNewAp, .str), (.macSta, .str)]
  size := [.strlen .macNewAp, .strlen .macSta]
  encode := [.macNewAp, .macSta]
  decode := [.macNewAp, .macSta]

/-- `msg_retries.c`. -/
def msgRetries : FlatCodec where
  struct := [(.wiphy, .twoLong), (.retries, .twoLong)]
  size := [.sizeof .wiphy, .sizeof .retries]
  encode := [.wiphy, .retries]
  decode := [.wiphy, .retries]

/-- `msg_set_snr_interval.c`. -/
def msgSnrInterval : FlatCodec where
  struct := [(.intfName, .str), (.staIp, .str), (.staPort, .int), (.interval, .twoLong)]
  size := [.strlen .intfName, .strlen .staIp, .sizeof .staPort, .sizeof .interval]
  encode := [.intfName, .staIp, .staPort, .interval]
  decode := [.intfName, .staIp, .staPort, .interval]

/-- `msg_set_snr_threshold.c`. -/
def msgSnrThreshold : FlatCodec where
  struct := [(.intfName, .str), (.staIp, .str), (.staPort, .int), (.threshold, .twoLong)]
  size := [.strlen .intfName, .strlen .staIp, .sizeof .staPort, .sizeof .threshold]
  encode := [.intfName, .staIp, .staPort, .threshold]
  decode := [.intfName, .staIp, .staPort, .threshold]

/-- `msg_snr.c`. -/
def msgSnr : FlatCodec where
  struct := [(.intfName, .str), (.staIp, .str), (.staPort, .int), (.snr, .twoLong)]
  size := [.strlen .intfName, .strlen .staIp, .sizeof .staPort, .sizeof .snr]
  encode := [.intfName, .staIp, .staPort, .snr]
  decode := [.intfName, .staIp, .staPort, .snr]

/-- `msg_sta_link_information.c`. -/
def msgStaLinkInformation : FlatCodec where
  struct := [(.intfName, .str), (.staIp, .str), (.staPort, .int), (.macAddress, .str), (.ssid, .str), (.freq, .int)]
  size := [.strlen .intfName, .strlen .staIp, .sizeof .staPort, .strlen .macAddress, .strlen .ssid, .sizeof .freq]
  encode := [.intfName, .staIp, .staPort, .macAddress, .ssid, .freq]
  decode := [.intfName, .staIp, .staPort, .macAddress, .ssid, .freq]

/-- `msg_station_trigger_transition.c`. -/
def msgStationTriggerTransition : FlatCodec where
  struct := [(.staIp, .str), (.staPort, .int), (.macSta, .str), (.intfName, .str), (.macNewAp, .str)]
  size := [.strlen .staIp, .sizeof .staPort, .strlen .macSta, .strlen .intfName, .strlen .macNewAp]
  encode := [.staIp, .staPort, .macSta, .intfName, .macNewAp]
  decode := [.staIp, .staPort, .macSta, .intfName, .macNewAp]

/-- `msg_statistics.c`. -/
def msgRadioLinkstatitics : FlatCodec where
  struct := [(.intfName, .str), (.staIp, .str), (.staPort, .int), (.rxPackets, .twoLong), (.rxBytes, .twoLong),
    (.rxDropped, .twoLong), (.rxErrors, .twoLong), (.txPackets, .twoLong), (.txBytes, .twoLong),
    (.txDropped, .twoLong), (.txErrors, .twoLong), (.timeStamp, .str)]
  size := [.strlen .intfName, .strlen .staIp, .sizeof .staPort, .sizeof .rxPackets, .sizeof .rxBytes,
    .sizeof .rxDropped, .sizeof .rxErrors, .sizeof .txPackets, .sizeof .txBytes, .sizeof .txDropped,
    .sizeof .txErrors, .strlen .timeStamp]
  encode := [.intfName, .staIp, .staPort, .rxPackets, .rxBytes, .rxDropped, .rxErrors, .txPackets, .txBytes,
    .txDropped, .txErrors, .timeStamp]
  decode := [.intfName, .staIp, .staPort, .rxPackets, .rxBytes, .rxDropped, .rxErrors, .txPackets, .txBytes,
    .txDropped, .txErrors, .timeStamp]

/-- `msg_supportedinterface.c`. -/
def msgSupportedinterface : FlatCodec where
  struct := [(.wiphy, .twoLong), (.mode, .int)]
  size := [.sizeof .wiphy, .sizeof .mode]
  encode := [.wiphy, .mode]
  decode := [.wiphy, .mode]

/-- `msg_tx_bitrate.c`. -/
def msgTxBitrate : FlatCodec where
  struct := [(.intfName, .str), (.staIp, .str), (.staPort, .int), (.macSta, .str), (.bitrate, .float)]
  size := [.strlen .intfName, .strlen .staIp, .sizeof .staPort, .strlen .macSta, .sizeof .bitrate]
  encode := [.intfName, .staIp, .staPort, .macSta, .bitrate]
  decode := [.intfName, .staIp, .staPort, .macSta, .bitrate]

/-- `msg_txpower.c`. -/
def msgTxpower : FlatCodec where
  struct := [(.intfName, .str), (.staIp, .str), (.staPort, .int), (.txpower, .twoLong), (.autoPower, .bool)]
  size := [.strlen .intfName, .strlen .staIp, .sizeof .staPort, .sizeof .txpower, .boolLen]
  encode := [.intfName, .staIp, .staPort, .txpower, .autoPower]
  decode := [.intfName, .staIp, .staPort, .txpower, .autoPower]

/-- `msg_txqueuelen.c`. -/
def msgTxqueuelen : FlatCodec where
  struct := [(.staIp, .str), (.staPort, .int), (.intfName, .str), (.txqueuelen, .int)]
  size := [.strlen .staIp, .sizeof .staPort, .strlen .intfName, .sizeof .txqueuelen]
  encode := [.staIp, .staPort, .intfName, .txqueuelen]
  decode := [.staIp, .staPort, .intfName, .txqueuelen]

/-- `msg_uptime.c`. -/
def msgUptime : FlatCodec where
  struct := [(.uptime, .longdouble), (.idle, .longdouble)]
  size := [.sizeof .idle, .sizeof .uptime]
  encode := [.uptime, .idle]
  decode := [.uptime, .idle]

/-- `msg_vap_create.c`. -/
def msgVapCreate : FlatCodec where
  struct := [(.wiphy, .int), (.ssid, .str), (.channel, .int), (.wirelessMode, .int), (.channelBandwidth, .int),
    (.protectedMode, .bool), (.nomecomproblema, .bool)]
  size := [.sizeof .wiphy, .strlen .ssid, .sizeof .channel, .sizeof .wirelessMode, .sizeof .channelBandwidth,
    .sizeof .protectedMode, .sizeof .nomecomproblema]
  encode := [.wiphy, .ssid, .channel, .wirelessMode, .channelBandwidth, .protectedMode, .nomecomproblema]
  decode := [.wiphy, .ssid, .channel, .wirelessMode, .channelBandwidth, .protectedMode, .nomecomproblema]

/-- The messages of this kind. -/
def all : List FlatCodec :=
  [msg80211eEnabled, msgApBroadcastssid, msgApCtsprotectionEnabled, msgApDtiminterval, msgApFrameburstenabled,
    msgApGuardinterval, msgApRtsthreshold, msgAssociationProcess, msgBeaconInterval, msgBye, msgBytesreceived,
    msgBytessent, msgChangedAp, msgChannelbandwitdh, msgConfSsidRadio, msgCpu, msgCurrentchannel,
    msgDeauthenticateUser, msgDelay, msgDisconnectUser, msgFailed, msgFastbsstransitionCompatible,
    msgFragmentationthreshold, msgFrequency, msgReqBeaconinfo, msgJitter, msgLocation, msgMeanStaStatisticsInterface,
    msgMeanStaStatisticsAlpha, msgMeanStaStatisticsTime, msgMemory, msgMtu, msgPacketslost, msgPacketsreceived,
    msgPacketssent, msgPowersavemode, msgPreamble, msgRequestBeginAssociation, msgRetries, msgSnrInterval,
    msgSnrThreshold, msgSnr, msgStaLinkInformation, msgStationTriggerTransition, msgRadioLinkstatitics,
    msgSupportedinterface, msgTxBitrate, msgTxpower, msgTxqueuelen, msgUptime, msgVapCreate]

end FlatCodec

end Ethanol
