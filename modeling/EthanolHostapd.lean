import EthanolHostapd.Messaging.BeaconInfo
import EthanolHostapd.Messaging.NoiseInfo
import EthanolHostapd.Messaging.TxBitrate
import EthanolHostapd.Messaging.Correlation
import EthanolHostapd.Messaging.Servlet
import EthanolHostapd.Messaging.ListDevices
import EthanolHostapd.Messaging.SnrThresholdReached
import EthanolHostapd.Messaging.Ping
import EthanolHostapd.Messaging.Hello
import EthanolHostapd.Messaging.Tos
import EthanolHostapd.Messaging.Routes
import EthanolHostapd.Common.VendorElements
import EthanolHostapd.Common.InsertPmkid
import EthanolHostapd.EthanolFunctions.SetSnrInformation
import EthanolHostapd.EthanolFunctions.UpdateMeans
import EthanolHostapd.EthanolFunctions.ScanRates
import EthanolHostapd.EthanolFunctions.SurveyInfo
import EthanolHostapd.EthanolFunctions.CollectorThread
import EthanolHostapd.EthanolFunctions.ConfigEntry
import EthanolHostapd.EthanolFunctions.SleepScheduler
import EthanolHostapd.Ap.StaInfo
import EthanolHostapd.Ap.WpaAuth.FreshNonce
import EthanolHostapd.Ap.WpaAuth.Authenticated
import EthanolHostapd.Ap.WpaAuth.ReplayCounters
import EthanolHostapd.Ap.WpaAuth.Forged
import EthanolHostapd.Ap.WpaAuth.RekeyCount
import EthanolHostapd.Ap.WpaAuthFt.Install
import EthanolHostapd.Ap.SaeAcceptance
import EthanolHostapd.Ap.SaeAvailability
import EthanolHostapd.Ap.SaeCommit
import EthanolHostapd.Ap.AnqpQuery
import EthanolHostapd.Ap.Rrm
import EthanolHostapd.Ap.WpaPsk
import EthanolHostapd.Ap.WnmAp
import EthanolHostapd.Ap.Olbc
import EthanolHostapd.Ap.WpaValidate
import EthanolHostapd.Ap.EapolKeyFrame
import EthanolHostapd.Ap.Message3
import EthanolHostapd.Ap.WpaAuthFt.AssocRespIes
import EthanolHostapd.Ap.VlanReferences
import EthanolHostapd.Ap.Maclist
import EthanolHostapd.Ap.GlobalVar
import EthanolHostapd.Ap.BeaconForward
import EthanolHostapd.Ap.Bssid
import EthanolHostapd.Ap.DfsOverlap
import EthanolHostapd.Ap.DfsChoice
import EthanolHostapd.Ap.DasDisconnect
import EthanolHostapd.Ap.GasServ
import EthanolHostapd.Ap.Accounting
import EthanolHostapd.Ap.IpPool
import EthanolHostapd.Eap.TlsFragments
import EthanolHostapd.Eap.TlsReassembly
import EthanolHostapd.Eap.ErpInitiate
import EthanolHostapd.Eap.MethodPresence
import EthanolHostapd.Radius.TunnelPasswords
import EthanolHostapd.Radius.TimerWalk
import EthanolHostapd.Radius.EapMessage
import EthanolHostapd.Radius.MppeKeys
import EthanolHostapd.Utils.Eloop
import EthanolHostapd.Utils.EloopSock
import EthanolHostapd.Utils.PrintfCode
import EthanolHostapd.Utils.Base64
import EthanolHostapd.Utils.Utf8Escape
import EthanolHostapd.Messaging.StatRelay
import EthanolHostapd.Crypto.Aead
import EthanolHostapd.Crypto.AesWrap
import EthanolHostapd.RsnSupp.KeyData
import EthanolHostapd.RsnSupp.KeyInstall
import EthanolHostapd.EapolAuth.PortStatus
