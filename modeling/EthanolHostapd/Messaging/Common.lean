import EthanolHostapd.Wire.Encoder

/-!
# Constants shared by all Ethanol messages

`msg_common.h`: the protocol version, the message types and the error types.  The numeric value of an
enumerator is its position, as in C.
-/

namespace Ethanol

open Wire

/-- `ETHANOL_VERSION`, the string `"1.0.3"`. -/
def ethanolVersion : CString := ⟨[49, 46, 48, 46, 51], by decide⟩

/-- `enum Enum_msg_type`. -/
inductive EnumMsgType
  | msgHelloType | msgByeType | msgErrType | msgPing | msgPong | msgGetMac | msgGetOneIntf
  | msgGetAllIntf | msgGetApInRangeType | msgEnableAssocMsg | msgAssociation | msgDisassociation
  | msgReassociation | msgAuthorization | msgUserDisconnecting | msgUserConnecting
  | msgQueueCreate | msgQueueClear | msgQueueDestroy | msgQueueDestroyAll | msgQueueConfig
  | msgShowPorts | msgInformBeacon | msgRequestBeacon | msgGetPreamble | msgSetPreamble
  | msgGetQueuediscipline | msgSetQueuediscipline | msgGetSupportedinterface
  | msgGetInterferencemap | msgGetApSsid | msgGetApBroadcastssid | msgSetApBroadcastssid
  | msgGetApCac | msgSetApCac | msgGetApFrameburstenabled | msgSetApFrameburstenabled
  | msgGetApGuardinterval | msgSetApGuardinterval | msgGetApDtiminterval | msgSetApDtiminterval
  | msgGetApCtsprotectionEnabled | msgSetApCtsprotectionEnabled | msgGetApRtsthreshold
  | msgSetApRtsthreshold | msgSetApSsid | msgGetApEnabled | msgSetApEnabled | msgVapCreate
  | msgSetConfSsidRadio | msgDisconnectUser | msgDeauthenticateUser | msgProgramProbeRequest
  | msgProbereceived | msgMgmtframeRegister | msgMgmtframeUnregister | msgMgmtframe
  | msgRequestBeginAssociation | msgRequestStationReassociate | msgGetRoutes
  | msgGetValidchannels | msgSetCurrentchannel | msgGetCurrentchannel | msgGetFrequency
  | msgSetFrequency | msgGetBeaconInterval | msgSetBeaconInterval | msgGetTxBitrates
  | msgSetTxBitrates | msgGetTxBitrate | msgGetPowersavemode | msgSetPowersavemode
  | msgGetFragmentationthreshold | msgSetFragmentationthreshold | msgGetChannelbandwitdh
  | msgSetChannelbandwitdh | msgGetChannelinfo | msgWlanInfo | msgGetRadioWlans
  | msgGetRadioLinkstatistics | msgGetIpv4Address | msgSetIpv4Address | msgGetIpv6Address
  | msgSetIpv6Address | msgGet80211EEnabled | msgGetFastbsstransitionCompatible
  | msgGetBytesreceived | msgGetBytessent | msgGetPacketsreceived | msgGetPacketssent
  | msgGetPacketslost | msgGetJitter | msgGetDelay | msgGetTxpower | msgSetTxpower | msgGetSnr
  | msgGetQuality | msgGetUptime | msgGetRetries | msgGetFailed | msgGetApsinrange
  | msgGetBeaconinfo | msgGetNoiseinfo | msgGetLinkmeasurement | msgGetStatistics
  | msgGetLocation | msgTriggerTransition | msgGetCpu | msgGetMemory | msgScan | msgGetLinkInfo
  | msgSetSnrThreshold | msgSetSnrInterval | msgGetAcs | msgSetSnrThresholdReached
  | msgGetStaStatistics | msgMeanStaStatisticsGet | msgMeanStaStatisticsSetInterface
  | msgMeanStaStatisticsRemoveInterface | msgMeanStaStatisticsSetAlpha
  | msgMeanStaStatisticsSetTime | msgChangedAp | msgTosCleanall | msgTosAdd | msgTosReplace
  | msgSetMtu | msgSetTxqueuelen
  deriving DecidableEq

/-- The `int` that stands for a message type on the wire. -/
def EnumMsgType.code (t : EnumMsgType) : Int32 := Int32.ofNat t.ctorIdx

/-- `enum Enum_msg_error_type`. -/
inductive EnumMsgErrorType
  | errorUnknown | errorVersionMismatch | errorProcessNotImplementedForThisMessage
  | errorMsgWithoutType | errorFieldNotFound | errorInterfaceNotFound
  deriving DecidableEq

/-- The `int` that stands for an error type on the wire. -/
def EnumMsgErrorType.code (t : EnumMsgErrorType) : Int32 := Int32.ofNat t.ctorIdx

end Ethanol
