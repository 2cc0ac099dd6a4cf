import EthanolHostapd.Traces.Run
import Mathlib.Tactic

/-!
# Radar channels

`ap/dfs.c`, for a driver that leaves the radar handling to the program.  The state of a radar channel is two
bits of its flags in the table of channels; it is changed by frequency, in the events from the driver, and read
by index, from the first channel of the configuration on.

A run is a sequence of events; each round of the loop in `hostapd_handle_dfs` is a step of its own, with the
random number that it draws.  A read outside the table has no result.  The state records the table and the
configuration of every return of 1.
-/

namespace Ethanol

open Trace

/-- `HOSTAPD_CHAN_DISABLED`. -/
def hostapdChanDisabled : BitVec 32 := 0x1

/-- `HOSTAPD_CHAN_RADAR`. -/
def hostapdChanRadar : BitVec 32 := 0x8

/-- `HOSTAPD_CHAN_DFS_USABLE`. -/
def hostapdChanDfsUsable : BitVec 32 := 0x100

/-- `HOSTAPD_CHAN_DFS_UNAVAILABLE`. -/
def hostapdChanDfsUnavailable : BitVec 32 := 0x200

/-- `HOSTAPD_CHAN_DFS_AVAILABLE`. -/
def hostapdChanDfsAvailable : BitVec 32 := 0x300

/-- `HOSTAPD_CHAN_DFS_MASK`. -/
def hostapdChanDfsMask : BitVec 32 := 0x300

/-- `struct hostapd_channel_data`. -/
structure HostapdChannelData where
  chan : ℤ
  freq : ℤ
  flag : BitVec 32
  deriving DecidableEq

/-- `struct hostapd_hw_modes`. -/
structure HostapdHwModes where
  /-- Whether `mode` is `HOSTAPD_MODE_IEEE80211A`. -/
  ieee80211a : Bool
  channels : List HostapdChannelData
  deriving DecidableEq

/-- What is read of `struct hostapd_config`. -/
structure DfsConfig where
  channel : UInt8
  secondaryChannel : ℤ
  ieee80211n : Bool
  ieee80211ac : Bool
  ieee80211h : Bool
  /-- `VHT_CHANWIDTH_USE_HT` is 0, and 1, 2 and 3 are 80, 160 and 80+80 MHz. -/
  vhtOperChwidth : UInt8
  vhtOperCentrFreqSeg0Idx : UInt8
  vhtOperCentrFreqSeg1Idx : UInt8
  /-- The ranges, with both ends. -/
  acsChList : List (ℤ × ℤ)
  deriving DecidableEq

/-- `enum chan_width`. -/
inductive ChanWidth
  | w20NoHt
  | w20
  | w40
  | w80
  | w80p80
  | w160
  | unknown
  deriving DecidableEq

/-- `enum hostapd_iface_state`. -/
inductive HapdIfaceState
  | uninitialized
  | disabled
  | countryUpdate
  | acs
  | htScan
  | dfs
  | enabled
  deriving DecidableEq

namespace HostapdChannelData

/-- The channel carries the flag of a radar channel. -/
def radar (c : HostapdChannelData) : Bool := c.flag &&& hostapdChanRadar ≠ 0

def disabled (c : HostapdChannelData) : Bool := c.flag &&& hostapdChanDisabled ≠ 0

/-- The two bits of the state. -/
def dfsState (c : HostapdChannelData) : BitVec 32 := c.flag &&& hostapdChanDfsMask

/-- `dfs_channel_available`. -/
def dfsChannelAvailable (c : HostapdChannelData) (skipRadar : Bool) : Bool :=
  if skipRadar && c.radar && c.dfsState ≠ hostapdChanDfsAvailable then false
  else if c.disabled then false
  else if c.radar && c.dfsState = hostapdChanDfsUnavailable then false
  else true

/-- `dfs_is_chan_allowed`. -/
def dfsIsChanAllowed (c : HostapdChannelData) (nChans : ℕ) : Bool :=
  let allowed : List ℤ :=
    match nChans with
    | 2 => [36, 44, 52, 60, 100, 108, 116, 124, 132, 149, 157, 184, 192]
    | 4 => [36, 52, 100, 116, 132, 149]
    | 8 => [36, 100]
    | _ => []
  allowed.contains c.chan

end HostapdChannelData

namespace DfsConfig

/-- `dfs_get_used_n_chans`, with `seg1`. -/
def dfsGetUsedNChans (conf : DfsConfig) : ℕ × ℕ :=
  let nChans := if conf.ieee80211n && conf.secondaryChannel ≠ 0 then 2 else 1
  if conf.ieee80211ac then
    match conf.vhtOperChwidth with
    | 1 => (4, 0)
    | 2 => (8, 0)
    | 3 => (4, 4)
    | _ => (nChans, 0)
  else (nChans, 0)

/-- The numbers of the first channels that `dfs_get_start_chan_idx` looks for, in the two segments. -/
def startChans (conf : DfsConfig) : ℤ × ℤ :=
  let channelNo : ℤ :=
    if conf.ieee80211n && conf.secondaryChannel = -1 then conf.channel.toNat - 4 else conf.channel.toNat
  if conf.ieee80211ac then
    match conf.vhtOperChwidth with
    | 0 => (channelNo, -1)
    | 1 => (conf.vhtOperCentrFreqSeg0Idx.toNat - 6, -1)
    | 2 => (conf.vhtOperCentrFreqSeg0Idx.toNat - 14, -1)
    | 3 => (conf.vhtOperCentrFreqSeg0Idx.toNat - 6, conf.vhtOperCentrFreqSeg1Idx.toNat - 6)
    | _ => (-1, -1)
  else (channelNo, -1)

/-- The index of a channel number. -/
def chanIdx (mode : HostapdHwModes) (no : ℤ) : Option ℕ := mode.channels.findIdx? fun c => c.chan = no

/-- `dfs_get_start_chan_idx`, with `seg1_start`.  What is -1 there is `none`. -/
def dfsGetStartChanIdx (conf : DfsConfig) (mode : HostapdHwModes) : Option (ℕ × Option ℕ) := do
  let res ← chanIdx mode conf.startChans.1
  if -1 < conf.startChans.2 then
    let seg1Start ← chanIdx mode conf.startChans.2
    return (res, some seg1Start)
  else return (res, none)

/-- `is_in_chanlist`.  The number is converted to `unsigned int`. -/
def isInChanlist (conf : DfsConfig) (c : HostapdChannelData) : Bool :=
  conf.acsChList.isEmpty || conf.acsChList.any fun r => r.1 ≤ c.chan % 2 ^ 32 && c.chan % 2 ^ 32 ≤ r.2

/-- `dfs_adjust_vht_center_freq`: the first of the two indices, which is 0 before.  The second one is 0. -/
def dfsAdjustVhtCenterFreq (conf : DfsConfig) (c : HostapdChannelData) (secondaryChannel : ℤ) : UInt8 :=
  if conf.ieee80211ac then
    match conf.vhtOperChwidth with
    | 0 =>
      if secondaryChannel = 1 then UInt8.ofInt (c.chan + 2)
      else if secondaryChannel = -1 then UInt8.ofInt (c.chan - 2)
      else UInt8.ofInt c.chan
    | 1 => UInt8.ofInt (c.chan + 6)
    | 2 => UInt8.ofInt (c.chan + 14)
    | _ => 0
  else 0

end DfsConfig

/-- The entries from an index on, if they are all in the table. -/
def dfsChans (mode : HostapdHwModes) (startChanIdx nChans : ℕ) : Option (List HostapdChannelData) :=
  if startChanIdx + nChans ≤ mode.channels.length then some ((mode.channels.drop startChanIdx).take nChans)
  else none

/-- `dfs_check_chans_radar`, of these entries. -/
def dfsCheckChansRadar (chans : List HostapdChannelData) : ℕ := chans.countP (·.radar)

/-- `dfs_check_chans_available`. -/
def dfsCheckChansAvailable (chans : List HostapdChannelData) : Bool :=
  chans.all fun c => !c.disabled && (!c.radar || c.dfsState = hostapdChanDfsAvailable)

/-- `dfs_check_chans_unavailable`. -/
def dfsCheckChansUnavailable (chans : List HostapdChannelData) : ℕ :=
  chans.countP (·.disabled) + chans.countP fun c => c.dfsState = hostapdChanDfsUnavailable

namespace HostapdHwModes

/-- `dfs_get_chan_data`. -/
def dfsGetChanData (mode : HostapdHwModes) (freq : ℤ) (firstChanIdx : ℕ) : Option HostapdChannelData :=
  (mode.channels.drop firstChanIdx).find? fun c => c.freq = freq

/-- `dfs_chan_range_available`, from the entry with that index on. -/
def dfsChanRangeAvailable (mode : HostapdHwModes) (firstChan : HostapdChannelData) (firstChanIdx numChans : ℕ)
    (skipRadar : Bool) : Bool :=
  firstChanIdx + numChans ≤ mode.channels.length &&
    (List.range numChans).all fun i =>
      match mode.dfsGetChanData (firstChan.freq + i * 20) firstChanIdx with
      | none => false
      | some c => c.dfsChannelAvailable skipRadar

/-- `dfs_find_channel`: the channels that it counts, in the order of their indices. -/
def dfsFindChannel (mode : HostapdHwModes) (conf : DfsConfig) (skipRadar : Bool) : List HostapdChannelData :=
  let nChans := conf.dfsGetUsedNChans.1
  let found := mode.channels.zipIdx.filter fun p =>
    !(conf.ieee80211n && conf.secondaryChannel ≠ 0 && !p.1.dfsIsChanAllowed nChans) &&
      mode.dfsChanRangeAvailable p.1 p.2 nChans skipRadar && conf.isInChanlist p.1
  found.map Prod.fst

end HostapdHwModes

/-- `set_dfs_state_freq`: the first radar channel with that frequency, and whether there is one. -/
def setDfsStateFreq (freq : ℤ) (state : BitVec 32) : List HostapdChannelData → List HostapdChannelData × ℕ
  | [] => ([], 0)
  | c :: cs =>
    if c.freq = freq && c.radar then ({ c with flag := c.flag &&& ~~~hostapdChanDfsMask ||| state } :: cs, 1)
    else
      let (cs, ret) := setDfsStateFreq freq state cs
      (c :: cs, ret)

/-- `struct dfs_event`.  The other fields are only printed. -/
structure DfsEvent where
  freq : ℤ
  chanWidth : ChanWidth
  cf1 : ℤ

/-- The first frequency and the number of channels of an event, as both `set_dfs_state` and
`dfs_are_channels_overlapped` compute them. -/
def DfsEvent.range (e : DfsEvent) : ℤ × ℕ :=
  match e.chanWidth with
  | .w20NoHt => (if e.freq = 0 then e.cf1 else e.freq, 1)
  | .w20 => (if e.freq = 0 then e.cf1 else e.freq, 1)
  | .w40 => (e.cf1 - 10, 2)
  | .w80 => (e.cf1 - 30, 4)
  | .w160 => (e.cf1 - 70, 8)
  | .w80p80 => (e.freq, 1)
  | .unknown => (e.freq, 1)

/-- The loop in `set_dfs_state`, with the number of channels that it has changed. -/
def setDfsStateFrom (state : BitVec 32) : ℕ → ℤ → List HostapdChannelData → List HostapdChannelData × ℕ
  | 0, _, chans => (chans, 0)
  | n + 1, frequency, chans =>
    let (chans, ret) := setDfsStateFreq frequency state chans
    let (chans, rest) := setDfsStateFrom state n (frequency + 20) chans
    (chans, ret + rest)

/-- `set_dfs_state`. -/
def setDfsState (mode : Option HostapdHwModes) (e : DfsEvent) (state : BitVec 32) : Option HostapdHwModes × ℕ :=
  match mode with
  | none => (none, 0)
  | some mode =>
    if mode.ieee80211a then
      let (channels, ret) := setDfsStateFrom state e.range.2 e.range.1 mode.channels
      (some { mode with channels := channels }, ret)
    else (some mode, 0)

/-- `ieee80211_freq_to_chan`: the channel number, if it is known. -/
def ieee80211FreqToChan (freq : ℤ) : Option ℤ :=
  if 2412 ≤ freq ∧ freq ≤ 2472 then if (freq - 2407) % 5 = 0 then some ((freq - 2407) / 5) else none
  else if freq = 2484 then some 14
  else if 4900 ≤ freq ∧ freq < 5000 then if (freq - 4000) % 5 = 0 then some ((freq - 4000) / 5) else none
  else if 5000 ≤ freq ∧ freq < 5900 then if (freq - 5000) % 5 = 0 then some ((freq - 5000) / 5) else none
  else if 58320 ≤ freq ∧ freq ≤ 64800 then some ((freq - 56160) / 2160)
  else none

/-- `dfs_are_channels_overlapped`.  The variable `radar_chan` is not set for an unknown frequency. -/
def dfsAreChannelsOverlapped (mode : HostapdHwModes) (conf : DfsConfig) (e : DfsEvent) (unset : UInt8) : Option ℕ := do
  let (startChanIdx, _) ← conf.dfsGetStartChanIdx mode
  let chans ← dfsChans mode startChanIdx conf.dfsGetUsedNChans.1
  if dfsCheckChansRadar chans = 0 then return 0
  let radarChan := (ieee80211FreqToChan e.range.1).getD unset.toNat
  return ((chans.filter (·.radar)).map fun c =>
    (List.range e.range.2).countP fun j => c.chan = radarChan + j * 4).sum

/-- What `dfs_get_valid_channel` returns through its arguments.  The second index is always 0. -/
structure DfsChoice where
  chan : HostapdChannelData
  secondaryChannel : ℤ
  seg0Idx : UInt8

/-- `dfs_get_valid_channel`, with the random number, if there is one. -/
def dfsGetValidChannel (mode : Option HostapdHwModes) (conf : DfsConfig) (skipRadar : Bool) (rand : Option UInt32) :
    Option DfsChoice := do
  let mode ← mode
  if !mode.ieee80211a then none
  let found := mode.dfsFindChannel conf skipRadar
  let rand ← rand
  let chan ← found[rand.toNat % found.length]?
  let secondaryChannel := if conf.secondaryChannel ≠ 0 then 1 else 0
  return ⟨chan, secondaryChannel, conf.dfsAdjustVhtCenterFreq chan secondaryChannel⟩

/-- The configuration with the chosen channel. -/
def DfsConfig.choose (conf : DfsConfig) (choice : DfsChoice) : DfsConfig :=
  { conf with
    channel := UInt8.ofInt choice.chan.chan
    secondaryChannel := choice.secondaryChannel
    vhtOperCentrFreqSeg0Idx := choice.seg0Idx
    vhtOperCentrFreqSeg1Idx := 0 }

/-- What is read of `struct hostapd_iface`. -/
structure DfsIface where
  currentMode : Option HostapdHwModes
  conf : DfsConfig
  cacStarted : Bool
  state : HapdIfaceState
  /-- The program is in the loop of `hostapd_handle_dfs`. -/
  inLoop : Bool
  /-- The table and the configuration when `hostapd_handle_dfs` returned 1, the latest one first. -/
  continued : List (Option HostapdHwModes × DfsConfig)

/-- How the calls in `hostapd_dfs_radar_detected` come out. -/
structure RadarOutcome where
  /-- The variable `radar_chan` before it is set. -/
  radarChan : UInt8
  csaInProgress : Bool
  /-- The random numbers for the two choices of a channel. -/
  rand : Option UInt32
  rand' : Option UInt32
  /-- `hostapd_set_freq_params` and `hostapd_switch_channel`. -/
  freqParams : Bool
  switchChannel : Bool
  /-- `hostapd_setup_interface_complete` does not wait for other interfaces. -/
  sync : Bool

/-- What happens. -/
inductive DfsStep
  /-- `hostapd_setup_interface_complete` goes on, after the other interfaces were ready or called from elsewhere. -/
  | setup
  /-- A round of the loop in `hostapd_handle_dfs`, with the outcome of `hostapd_start_dfs_cac`. -/
  | round (rand : Option UInt32) (startCac : Bool)
  | cacFinished (e : DfsEvent) (sync : Bool)
  | cacAborted
  | radarDetected (e : DfsEvent) (out : RadarOutcome)
  | nopFinished (e : DfsEvent)
  /-- `hostapd_dfs_start_cac`. -/
  | cacStarted
  /-- Other code sets the table, the configuration or the state, as after a channel switch. -/
  | configure (mode : Option HostapdHwModes) (conf : DfsConfig) (state : HapdIfaceState)

namespace DfsIface

def init (mode : Option HostapdHwModes) (conf : DfsConfig) : DfsIface where
  currentMode := mode
  conf := conf
  cacStarted := false
  state := .uninitialized
  inLoop := false
  continued := []

/-- The return of 1 from `hostapd_handle_dfs`. -/
def continueSetup (iface : DfsIface) : DfsIface :=
  { iface with inLoop := false, continued := (iface.currentMode, iface.conf) :: iface.continued }

/-- `hostapd_handle_dfs` up to its loop. -/
def hostapdHandleDfs (iface : DfsIface) : DfsIface :=
  match iface.currentMode with
  | none => iface.continueSetup
  | some _ => { iface with cacStarted := false, inLoop := true }

/-- The body of the loop. -/
def handleDfsRound (iface : DfsIface) (rand : Option UInt32) (startCac : Bool) : Option DfsIface := do
  let mode ← iface.currentMode
  match iface.conf.dfsGetStartChanIdx mode with
  | none => return { iface with inLoop := false }
  | some (startChanIdx, _) =>
    let chans ← dfsChans mode startChanIdx iface.conf.dfsGetUsedNChans.1
    if dfsCheckChansRadar chans = 0 then return iface.continueSetup
    else if dfsCheckChansAvailable chans then return iface.continueSetup
    else if dfsCheckChansUnavailable chans ≠ 0 then
      match dfsGetValidChannel iface.currentMode iface.conf false rand with
      | none => return { iface with state := .dfs, inLoop := false }
      | some choice => return { iface with conf := iface.conf.choose choice }
    else
      -- `hostapd_start_dfs_cac` fails without `ieee80211h`
      return { iface with
        state := .dfs, inLoop := false, cacStarted := iface.cacStarted || (startCac && iface.conf.ieee80211h) }

/-- `hostapd_setup_interface_complete` without an error, up to the handling of radar. -/
def setupInterfaceComplete (iface : DfsIface) (sync : Bool) : DfsIface :=
  if sync && iface.conf.channel ≠ 0 then iface.hostapdHandleDfs else iface

/-- `hostapd_dfs_complete_cac`, of a check without an interruption. -/
def hostapdDfsCompleteCac (iface : DfsIface) (e : DfsEvent) (sync : Bool) : DfsIface :=
  { iface with
    currentMode := (setDfsState iface.currentMode e hostapdChanDfsAvailable).1
    cacStarted := false }.setupInterfaceComplete sync

/-- `hostapd_dfs_start_channel_switch_cac`. -/
def hostapdDfsStartChannelSwitchCac (iface : DfsIface) (out : RadarOutcome) : DfsIface :=
  match dfsGetValidChannel iface.currentMode iface.conf false out.rand with
  | none => { iface with cacStarted := false }
  | some choice =>
    { iface with cacStarted := false, conf := iface.conf.choose choice }.setupInterfaceComplete out.sync

/-- `hostapd_dfs_start_channel_switch`.  What disabling and enabling the interface does comes later. -/
def hostapdDfsStartChannelSwitch (iface : DfsIface) (out : RadarOutcome) : DfsIface :=
  if out.csaInProgress then iface
  else if iface.cacStarted then iface.hostapdDfsStartChannelSwitchCac out
  else
    match dfsGetValidChannel iface.currentMode iface.conf true out.rand with
    | none =>
      match dfsGetValidChannel iface.currentMode iface.conf false out.rand' with
      | none => iface
      | some choice => { iface with conf := iface.conf.choose choice }
    | some choice =>
      if out.freqParams && !out.switchChannel then { iface with conf := iface.conf.choose choice } else iface

/-- `hostapd_dfs_radar_detected`. -/
def hostapdDfsRadarDetected (iface : DfsIface) (e : DfsEvent) (out : RadarOutcome) : Option DfsIface := do
  if !iface.conf.ieee80211h then return iface
  let iface := { iface with currentMode := (setDfsState iface.currentMode e hostapdChanDfsUnavailable).1 }
  let mode ← iface.currentMode
  let res ← dfsAreChannelsOverlapped mode iface.conf e out.radarChan
  if res = 0 then return iface else return iface.hostapdDfsStartChannelSwitch out

/-- `hostapd_dfs_nop_finished`. -/
def hostapdDfsNopFinished (iface : DfsIface) (e : DfsEvent) : DfsIface :=
  let iface := { iface with currentMode := (setDfsState iface.currentMode e hostapdChanDfsUsable).1 }
  if iface.state = .dfs && !iface.cacStarted then iface.hostapdHandleDfs else iface

/-- The system.  In the loop there are only rounds of the loop. -/
def next (iface : DfsIface) (step : DfsStep) : Option DfsIface :=
  match iface.inLoop, step with
  | true, .round rand startCac => iface.handleDfsRound rand startCac
  | false, .setup => some (iface.setupInterfaceComplete true)
  | false, .cacFinished e sync => some (iface.hostapdDfsCompleteCac e sync)
  | false, .cacAborted => some iface
  | false, .radarDetected e out => iface.hostapdDfsRadarDetected e out
  | false, .nopFinished e => some (iface.hostapdDfsNopFinished e)
  | false, .cacStarted => some { iface with cacStarted := true }
  | false, .configure mode conf state => some { iface with currentMode := mode, conf := conf, state := state }
  | _, _ => none

end DfsIface

/-- `hostapd_is_dfs_required`. -/
def hostapdIsDfsRequired (mode : Option HostapdHwModes) (conf : DfsConfig) : Option ℤ :=
  match mode with
  | none => some 0
  | some mode =>
    if !conf.ieee80211h || !mode.ieee80211a then some 0
    else
      match conf.dfsGetStartChanIdx mode with
      | none => some (-1)
      | some (startChanIdx, startChanIdx1) => do
        let chans ← dfsChans mode startChanIdx conf.dfsGetUsedNChans.1
        if dfsCheckChansRadar chans ≠ 0 then return dfsCheckChansRadar chans
        match startChanIdx1 with
        | none => return 0
        | some startChanIdx1 =>
          if 0 < conf.dfsGetUsedNChans.2 then
            let chans ← dfsChans mode startChanIdx1 conf.dfsGetUsedNChans.2
            return dfsCheckChansRadar chans
          else return 0

/-! ## Clearance -/

/-- The four 20 MHz channels around a centre frequency. -/
def segment80 (seg : UInt8) : List ℤ := [seg.toNat - 6, seg.toNat - 2, seg.toNat + 2, seg.toNat + 6]

/-- The numbers of the 20 MHz channels that a configuration occupies. -/
def DfsConfig.occupied (conf : DfsConfig) : List ℤ :=
  let ht : List ℤ :=
    if conf.ieee80211n && conf.secondaryChannel ≠ 0 then
      [conf.channel.toNat, conf.channel.toNat + 4 * conf.secondaryChannel]
    else [conf.channel.toNat]
  if conf.ieee80211ac then
    match conf.vhtOperChwidth with
    | 1 => segment80 conf.vhtOperCentrFreqSeg0Idx
    | 2 => (List.range 8).map fun k : ℕ => (conf.vhtOperCentrFreqSeg0Idx.toNat : ℤ) - 14 + 4 * k
    | 3 => segment80 conf.vhtOperCentrFreqSeg0Idx ++ segment80 conf.vhtOperCentrFreqSeg1Idx
    | _ => ht
  else ht

/-- The indices of the entries that `hostapd_is_dfs_required` may look at in the second segment. -/
def DfsConfig.InSeg1 (conf : DfsConfig) (mode : HostapdHwModes) (i : ℕ) : Prop :=
  ∃ start start₁, conf.dfsGetStartChanIdx mode = some (start, some start₁) ∧
    start₁ ≤ i ∧ i < start₁ + conf.dfsGetUsedNChans.2

/-- The setup may go on without a check for radar. -/
structure Cleared (mode : Option HostapdHwModes) (conf : DfsConfig) : Prop where
  occupied : ∀ m, mode = some m → ∀ c ∈ m.channels, c.chan ∈ conf.occupied → c.radar = true →
    c.dfsState = hostapdChanDfsAvailable
  /-- What `hostapd_is_dfs_required` counts has been checked. -/
  required : ∀ m, mode = some m → ∀ r, hostapdIsDfsRequired mode conf = some r → 0 < r →
    ∃ start n chans, dfsChans m start n = some chans ∧ r = dfsCheckChansRadar chans ∧
      ∀ c ∈ chans, c.radar = true → c.dfsState = hostapdChanDfsAvailable

/-- The radar channels that have not been cleared, in either segment, are among the entries that
`hostapd_handle_dfs` looks at. -/
def DfsIface.Examined (iface : DfsIface) : Prop :=
  ∀ mode, iface.currentMode = some mode → ∀ i c, mode.channels[i]? = some c →
    c.chan ∈ iface.conf.occupied ∨ iface.conf.InSeg1 mode i →
    c.radar = true → c.dfsState ≠ hostapdChanDfsAvailable →
    ∀ start start₁, iface.conf.dfsGetStartChanIdx mode = some (start, start₁) →
      start ≤ i ∧ i < start + iface.conf.dfsGetUsedNChans.1

section Ranges

variable {mode : HostapdHwModes} {start n i : ℕ} {chans : List HostapdChannelData} {c : HostapdChannelData}

lemma mem_dfsChans (h : dfsChans mode start n = some chans) :
    c ∈ chans ↔ ∃ i, mode.channels[i]? = some c ∧ start ≤ i ∧ i < start + n := by
  unfold dfsChans at h
  split_ifs at h with hle
  obtain rfl := Option.some.inj h
  constructor
  · intro hc
    obtain ⟨k, hk⟩ := List.mem_iff_getElem?.mp hc
    rw [List.getElem?_take, List.getElem?_drop] at hk
    split_ifs at hk with hkn
    exact ⟨start + k, hk, by omega, by omega⟩
  · rintro ⟨i, hi, hstart, hlt⟩
    apply List.mem_iff_getElem?.mpr
    refine ⟨i - start, ?_⟩
    rw [List.getElem?_take, if_pos (by omega), List.getElem?_drop, Nat.add_sub_cancel' hstart]
    exact hi

/-- Both reasons to go on: no entry carries the flag, or all that do are available. -/
lemma available_of_checks (h : dfsCheckChansRadar chans = 0 ∨ dfsCheckChansAvailable chans = true)
    (hc : c ∈ chans) (hradar : c.radar = true) : c.dfsState = hostapdChanDfsAvailable := by
  rcases h with hnone | hall
  · exact absurd hradar (List.countP_eq_zero.mp hnone c hc)
  · have hboth := List.all_eq_true.mp hall c hc
    simpa [hradar] using (Bool.and_eq_true_iff.mp hboth).2

end Ranges

namespace DfsIface

variable {iface iface' : DfsIface} {mode : HostapdHwModes}

/-- If the checks let the setup go on and nothing was left out then the configuration is cleared. -/
lemma Examined.cleared (h : iface.Examined) (hmode : iface.currentMode = some mode) {start : ℕ} {start₁ : Option ℕ}
    (hstart : iface.conf.dfsGetStartChanIdx mode = some (start, start₁)) {chans : List HostapdChannelData}
    (hchans : dfsChans mode start iface.conf.dfsGetUsedNChans.1 = some chans)
    (hchecks : dfsCheckChansRadar chans = 0 ∨ dfsCheckChansAvailable chans = true) :
    Cleared iface.currentMode iface.conf := by
  have hclear : ∀ i c, mode.channels[i]? = some c → c.chan ∈ iface.conf.occupied ∨ iface.conf.InSeg1 mode i →
      c.radar = true → c.dfsState = hostapdChanDfsAvailable := by
    intro i c hi hin hradar
    by_contra hne
    have hrange := h mode hmode i c hi hin hradar hne start start₁ hstart
    exact hne (available_of_checks hchecks ((mem_dfsChans hchans).mpr ⟨i, hi, hrange⟩) hradar)
  constructor
  · intro m hm c hc hocc
    obtain rfl := Option.some.inj (hmode.symm.trans hm)
    obtain ⟨i, hi⟩ := List.mem_iff_getElem?.mp hc
    exact hclear i c hi (Or.inl hocc)
  · intro m hm r hr hpos
    obtain rfl := Option.some.inj (hmode.symm.trans hm)
    unfold hostapdIsDfsRequired at hr
    rw [hmode] at hr
    dsimp only at hr
    by_cases happlies : (!iface.conf.ieee80211h || !mode.ieee80211a) = true
    · rw [if_pos happlies] at hr
      obtain rfl := Option.some.inj hr
      exact absurd hpos (lt_irrefl 0)
    · rw [if_neg happlies, hstart] at hr
      simp only [hchans, Option.bind_eq_bind, Option.bind_some] at hr
      by_cases hradar : dfsCheckChansRadar chans ≠ 0
      · -- the first segment
        rw [if_pos hradar] at hr
        refine ⟨start, _, chans, hchans, (Option.some.inj hr).symm, ?_⟩
        exact fun c hc => available_of_checks hchecks hc
      · rw [if_neg hradar] at hr
        cases start₁ with
        | none =>
          obtain rfl := Option.some.inj hr
          exact absurd hpos (lt_irrefl 0)
        | some start₁ =>
          dsimp only at hr
          split_ifs at hr with hn
          · obtain ⟨chans₁, hchans₁, hr⟩ := Option.bind_eq_some_iff.mp hr
            refine ⟨start₁, _, chans₁, hchans₁, (Option.some.inj hr).symm, ?_⟩
            intro c hc
            obtain ⟨i, hi, hrange⟩ := (mem_dfsChans hchans₁).mp hc
            exact hclear i c hi (Or.inr ⟨start, start₁, hstart, hrange⟩)
          · obtain rfl := Option.some.inj hr
            exact absurd hpos (lt_irrefl 0)

/-- Every return of 1 so far was with a configuration that is cleared. -/
def Safe (iface : DfsIface) : Prop := ∀ r ∈ iface.continued, Cleared r.1 r.2

lemma Safe.continueSetup (h : iface.Safe) (hclear : Cleared iface.currentMode iface.conf) :
    iface.continueSetup.Safe := by
  intro r hr
  rcases List.mem_cons.mp hr with rfl | hr
  · exact hclear
  · exact h r hr

/-- Without a table there is nothing to clear. -/
lemma cleared_none (conf : DfsConfig) : Cleared none conf := by
  constructor
  · intro m hm
    cases hm
  · intro m hm
    cases hm

lemma Safe.hostapdHandleDfs (h : iface.Safe) : iface.hostapdHandleDfs.Safe := by
  unfold DfsIface.hostapdHandleDfs
  cases hmode : iface.currentMode with
  | none =>
    apply h.continueSetup
    rw [hmode]
    exact cleared_none _
  | some mode => exact h

lemma Safe.setupInterfaceComplete (h : iface.Safe) (sync : Bool) : (iface.setupInterfaceComplete sync).Safe := by
  unfold DfsIface.setupInterfaceComplete
  split_ifs
  · exact h.hostapdHandleDfs
  · exact h

lemma Safe.handleDfsRound (h : iface.Safe) (hexamined : iface.Examined) {rand : Option UInt32} {startCac : Bool}
    (hround : iface.handleDfsRound rand startCac = some iface') : iface'.Safe := by
  unfold DfsIface.handleDfsRound at hround
  obtain ⟨mode, hmode, hround⟩ := Option.bind_eq_some_iff.mp hround
  cases hstart : iface.conf.dfsGetStartChanIdx mode with
  | none =>
    rw [hstart] at hround
    obtain rfl := Option.some.inj hround
    exact h
  | some p =>
    obtain ⟨start, start₁⟩ := p
    rw [hstart] at hround
    obtain ⟨chans, hchans, hround⟩ := Option.bind_eq_some_iff.mp hround
    split_ifs at hround with hradar havailable hunavailable
    · obtain rfl := Option.some.inj hround
      exact h.continueSetup (hexamined.cleared hmode hstart hchans (Or.inl hradar))
    · obtain rfl := Option.some.inj hround
      exact h.continueSetup (hexamined.cleared hmode hstart hchans (Or.inr havailable))
    · split at hround <;> (obtain rfl := Option.some.inj hround; exact h)
    · obtain rfl := Option.some.inj hround
      exact h

/-- Only a new choice during the check goes on at once. -/
lemma Safe.startChannelSwitch (h : iface.Safe) (out : RadarOutcome) : (iface.hostapdDfsStartChannelSwitch out).Safe := by
  unfold hostapdDfsStartChannelSwitch
  by_cases hcsa : out.csaInProgress = true
  · rw [if_pos hcsa]
    exact h
  rw [if_neg hcsa]
  by_cases hcac : iface.cacStarted = true
  · rw [if_pos hcac]
    unfold hostapdDfsStartChannelSwitchCac
    cases dfsGetValidChannel iface.currentMode iface.conf false out.rand with
    | none => exact h
    | some choice =>
      have hchosen : Safe { iface with cacStarted := false, conf := iface.conf.choose choice } := h
      exact hchosen.setupInterfaceComplete _
  · rw [if_neg hcac]
    cases dfsGetValidChannel iface.currentMode iface.conf true out.rand with
    | none =>
      cases dfsGetValidChannel iface.currentMode iface.conf false out.rand' with
      | none => exact h
      | some choice => exact h
    | some choice =>
      dsimp only
      by_cases hswitch : (out.freqParams && !out.switchChannel) = true
      · rw [if_pos hswitch]
        exact h
      · rw [if_neg hswitch]
        exact h

lemma Safe.hostapdDfsCompleteCac (h : iface.Safe) (e : DfsEvent) (sync : Bool) :
    (iface.hostapdDfsCompleteCac e sync).Safe := by
  have hmarked : Safe { iface with
    currentMode := (setDfsState iface.currentMode e hostapdChanDfsAvailable).1, cacStarted := false } := h
  exact hmarked.setupInterfaceComplete sync

lemma Safe.hostapdDfsNopFinished (h : iface.Safe) (e : DfsEvent) : (iface.hostapdDfsNopFinished e).Safe := by
  have hmarked : Safe { iface with currentMode := (setDfsState iface.currentMode e hostapdChanDfsUsable).1 } := h
  unfold DfsIface.hostapdDfsNopFinished
  dsimp only
  split_ifs
  · exact hmarked.hostapdHandleDfs
  · exact hmarked

lemma Safe.hostapdDfsRadarDetected (h : iface.Safe) {e : DfsEvent} {out : RadarOutcome}
    (hradar : iface.hostapdDfsRadarDetected e out = some iface') : iface'.Safe := by
  unfold DfsIface.hostapdDfsRadarDetected at hradar
  split_ifs at hradar
  · obtain rfl := Option.some.inj hradar
    exact h
  · obtain ⟨mode, -, hradar⟩ := Option.bind_eq_some_iff.mp hradar
    obtain ⟨res, -, hradar⟩ := Option.bind_eq_some_iff.mp hradar
    split_ifs at hradar
    · obtain rfl := Option.some.inj hradar
      exact h
    · obtain rfl := Option.some.inj hradar
      have hmarked : Safe { iface with
        currentMode := (setDfsState iface.currentMode e hostapdChanDfsUnavailable).1 } := h
      exact hmarked.startChannelSwitch out

/-- The condition on a step: in a round of the loop nothing is left out. -/
def StepExamined (iface : DfsIface) : DfsStep → Prop
  | .round _ _ => iface.Examined
  | _ => True

lemma Safe.next (h : iface.Safe) {step : DfsStep} (hok : iface.StepExamined step)
    (hnext : next iface step = some iface') : iface'.Safe := by
  unfold DfsIface.next at hnext
  split at hnext
  · exact h.handleDfsRound hok hnext
  · obtain rfl := Option.some.inj hnext
    exact h.setupInterfaceComplete true
  · obtain rfl := Option.some.inj hnext
    exact h.hostapdDfsCompleteCac _ _
  · obtain rfl := Option.some.inj hnext
    exact h
  · exact h.hostapdDfsRadarDetected hnext
  · obtain rfl := Option.some.inj hnext
    exact h.hostapdDfsNopFinished _
  · obtain rfl := Option.some.inj hnext
    exact h
  · obtain rfl := Option.some.inj hnext
    exact h
  · cases hnext

variable {mode₀ : Option HostapdHwModes} {conf : DfsConfig} {steps : List DfsStep}

/-- As long as every round of the loop looks at all radar channels of the configuration that have not been
cleared, `hostapd_handle_dfs` returns 1 with a configuration that is cleared only. -/
theorem run_cleared (hrun : RunWith DfsIface.next StepExamined (init mode₀ conf) steps iface) :
    ∀ r ∈ iface.continued, Cleared r.1 r.2 := by
  have hinit : (init mode₀ conf).Safe := by
    intro r hr
    cases hr
  exact hrun.invariant (I := Safe) hinit fun _ _ _ h hok hnext => h.next hok hnext

/-! ## Tables without gaps -/

/-- Channel numbers are not negative, and a channel at most seven places of 20 MHz above another one comes as many
entries later. -/
structure Regular (mode : HostapdHwModes) : Prop where
  nonneg : ∀ c ∈ mode.channels, 0 ≤ c.chan
  consecutive : ∀ (i j k : ℕ) (c c' : HostapdChannelData), mode.channels[i]? = some c → mode.channels[j]? = some c' →
    k < 8 → c'.chan = c.chan + 4 * (k : ℤ) → j = i + k

/-- The configuration does not occupy a second segment, or all radar channels there are available. -/
def Seg1Available (mode : HostapdHwModes) (conf : DfsConfig) : Prop :=
  conf.ieee80211ac = true → conf.vhtOperChwidth = 3 →
    ∀ i c, mode.channels[i]? = some c → c.chan ∈ segment80 conf.vhtOperCentrFreqSeg1Idx ∨ conf.InSeg1 mode i →
      c.radar = true → c.dfsState = hostapdChanDfsAvailable

/-- The channels up to 40 MHz. -/
lemma ht_first {ht : Bool} {sec channel no : ℤ} (hsec : sec ∈ [-1, 0, 1])
    (hno : no ∈ if (ht && decide (sec ≠ 0)) = true then [channel, channel + 4 * sec] else [channel]) :
    ∃ k : ℕ, k < (if (ht && decide (sec ≠ 0)) = true then 2 else 1) ∧
      no = (if (ht && decide (sec = -1)) = true then channel - 4 else channel) + 4 * (k : ℤ) := by
  simp only [List.mem_cons, List.not_mem_nil, or_false] at hsec
  cases ht with
  | false => exact ⟨0, by simp, by simpa using hno⟩
  | true =>
    rcases hsec with rfl | rfl | rfl
    · have hpair : no = channel ∨ no = channel + 4 * -1 := by simpa using hno
      rcases hpair with rfl | rfl
      · exact ⟨1, by simp, by simp⟩
      · exact ⟨0, by simp, by simp; omega⟩
    · exact ⟨0, by simp, by simpa using hno⟩
    · have hpair : no = channel ∨ no = channel + 4 * 1 := by simpa using hno
      rcases hpair with rfl | rfl
      · exact ⟨0, by simp, by simp⟩
      · exact ⟨1, by simp, by simp⟩

lemma segment80_first {seg : UInt8} {no : ℤ} (hno : no ∈ segment80 seg) :
    ∃ k : ℕ, k < 4 ∧ no = (seg.toNat : ℤ) - 6 + 4 * (k : ℤ) := by
  simp only [segment80, List.mem_cons, List.not_mem_nil, or_false] at hno
  rcases hno with rfl | rfl | rfl | rfl
  · exact ⟨0, by omega, by omega⟩
  · exact ⟨1, by omega, by omega⟩
  · exact ⟨2, by omega, by omega⟩
  · exact ⟨3, by omega, by omega⟩

/-- Apart from a second segment, a configuration occupies the channels from the first one on. -/
lemma occupied_first {conf : DfsConfig} (hsec : conf.secondaryChannel ∈ [-1, 0, 1]) {no : ℤ}
    (hno : no ∈ conf.occupied) (hfirst : conf.startChans.1 ≠ -1) :
    (∃ k : ℕ, k < conf.dfsGetUsedNChans.1 ∧ no = conf.startChans.1 + 4 * (k : ℤ)) ∨
      (conf.ieee80211ac = true ∧ conf.vhtOperChwidth = 3 ∧ no ∈ segment80 conf.vhtOperCentrFreqSeg1Idx) := by
  unfold DfsConfig.occupied at hno
  unfold DfsConfig.startChans DfsConfig.dfsGetUsedNChans
  unfold DfsConfig.startChans at hfirst
  by_cases hac : conf.ieee80211ac = true
  · rw [if_pos hac] at hno hfirst ⊢
    rw [if_pos hac]
    by_cases h0 : conf.vhtOperChwidth = 0
    · simp only [h0] at hno ⊢
      exact Or.inl (ht_first hsec hno)
    by_cases h1 : conf.vhtOperChwidth = 1
    · simp only [h1] at hno ⊢
      exact Or.inl (segment80_first hno)
    by_cases h2 : conf.vhtOperChwidth = 2
    · simp only [h2] at hno ⊢
      obtain ⟨k, hk, rfl⟩ := List.mem_map.mp hno
      exact Or.inl ⟨k, List.mem_range.mp hk, rfl⟩
    by_cases h3 : conf.vhtOperChwidth = 3
    · simp only [h3] at hno ⊢
      rcases List.mem_append.mp hno with hno | hno
      · exact Or.inl (segment80_first hno)
      · exact Or.inr ⟨hac, trivial, hno⟩
    · exfalso
      apply hfirst
      split <;> first | contradiction | rfl
  · rw [if_neg hac] at hno ⊢
    rw [if_neg hac]
    exact Or.inl (ht_first hsec hno)

/-- The first index is that of the first channel. -/
lemma getElem_start {conf : DfsConfig} {start : ℕ} {start₁ : Option ℕ}
    (hstart : conf.dfsGetStartChanIdx mode = some (start, start₁)) :
    ∃ c, mode.channels[start]? = some c ∧ c.chan = conf.startChans.1 := by
  unfold DfsConfig.dfsGetStartChanIdx at hstart
  obtain ⟨res, hres, hrest⟩ := Option.bind_eq_some_iff.mp hstart
  have hfirst : res = start := by
    split_ifs at hrest
    · obtain ⟨seg1Start, -, hrest⟩ := Option.bind_eq_some_iff.mp hrest
      exact congrArg Prod.fst (Option.some.inj hrest)
    · exact congrArg Prod.fst (Option.some.inj hrest)
  subst hfirst
  obtain ⟨hlt, hchan, -⟩ := List.findIdx?_eq_some_iff_getElem.mp hres
  exact ⟨_, List.getElem?_eq_getElem hlt, by simpa using hchan⟩

/-- `hostapd_is_dfs_required` looks at a second segment of 80+80 MHz only. -/
lemma width_of_inSeg1 {conf : DfsConfig} {i : ℕ} (h : conf.InSeg1 mode i) :
    conf.ieee80211ac = true ∧ conf.vhtOperChwidth = 3 := by
  obtain ⟨start, start₁, -, hle, hlt⟩ := h
  have hpos : 0 < conf.dfsGetUsedNChans.2 := by omega
  unfold DfsConfig.dfsGetUsedNChans at hpos
  by_cases hac : conf.ieee80211ac = true
  · refine ⟨hac, ?_⟩
    rw [if_pos hac] at hpos
    by_contra h3
    split at hpos <;> contradiction
  · rw [if_neg hac] at hpos
    exact absurd hpos (lt_irrefl 0)

/-- In such a table, with the second segment cleared, nothing is left out. -/
theorem examined_of_regular (hmode : ∀ mode, iface.currentMode = some mode → Regular mode)
    (hsec : iface.conf.secondaryChannel ∈ [-1, 0, 1])
    (hseg1 : ∀ mode, iface.currentMode = some mode → Seg1Available mode iface.conf) : iface.Examined := by
  intro mode hm i c hi hin hradar hne start start₁ hstart
  have hregular := hmode mode hm
  have hwidth : ¬ (iface.conf.ieee80211ac = true ∧ iface.conf.vhtOperChwidth = 3 ∧
      (c.chan ∈ segment80 iface.conf.vhtOperCentrFreqSeg1Idx ∨ iface.conf.InSeg1 mode i)) := by
    rintro ⟨hac, h3, hin₁⟩
    exact hne (hseg1 mode hm hac h3 i c hi hin₁ hradar)
  rcases hin with hocc | hin₁
  · obtain ⟨c₀, hc₀, hchan₀⟩ := getElem_start hstart
    have hfirst : iface.conf.startChans.1 ≠ -1 := by
      have hnonneg := hregular.nonneg c₀ (List.mem_of_getElem? hc₀)
      omega
    rcases occupied_first hsec hocc hfirst with ⟨k, hk, hchan⟩ | ⟨hac, h3, hseg⟩
    · rw [← hchan₀] at hchan
      have hk8 : iface.conf.dfsGetUsedNChans.1 ≤ 8 := by
        unfold DfsConfig.dfsGetUsedNChans
        split_ifs <;> (try split) <;> simp
      have hidx := hregular.consecutive start i k c₀ c hc₀ hi (by omega) hchan
      omega
    · exact absurd ⟨hac, h3, Or.inl hseg⟩ hwidth
  · obtain ⟨hac, h3⟩ := width_of_inSeg1 hin₁
    exact absurd ⟨hac, h3, Or.inr hin₁⟩ hwidth

lemma regular_of_map {first n : ℕ}
    (h : (mode.channels.map fun c => c.chan) = (List.range n).map fun i : ℕ => (first : ℤ) + 4 * i) : Regular mode := by
  have hchan : ∀ (i : ℕ) (c : HostapdChannelData), mode.channels[i]? = some c → c.chan = (first : ℤ) + 4 * i := by
    intro i c hi
    have hmap := congrArg (fun l => l[i]?) h
    simp only [List.getElem?_map, hi, Option.map_some] at hmap
    obtain ⟨k, hk, heq⟩ := Option.map_eq_some_iff.mp hmap.symm
    have hki : k = i := by
      rw [List.getElem?_eq_some_iff] at hk
      obtain ⟨hlt, hget⟩ := hk
      rw [← hget, List.getElem_range]
    rw [← heq, hki]
  constructor
  · intro c hc
    obtain ⟨i, hi⟩ := List.mem_iff_getElem?.mp hc
    have heq := hchan i c hi
    omega
  · intro i j k c c' hi hj _ heq
    have h₁ := hchan i c hi
    have h₂ := hchan j c' hj
    omega

/-- A table of radar channels that have not been checked. -/
def radarTable (first n : ℕ) : HostapdHwModes where
  ieee80211a := true
  channels := (List.range n).map fun i : ℕ =>
    ⟨first + 4 * i, 5000 + 5 * (first + 4 * i), hostapdChanRadar ||| hostapdChanDfsUsable⟩

/-- A configuration of 80 MHz. -/
def conf80 (channel seg0Idx : UInt8) : DfsConfig :=
  ⟨channel, 1, true, true, true, 1, seg0Idx, 0, []⟩

/-- The check of four channels, and the setup after it. -/
theorem run_cleared_80 :
    ∃ iface, RunWith DfsIface.next StepExamined (init (some (radarTable 52 4)) (conf80 52 58))
      [.setup, .round none true, .cacFinished ⟨5260, .w80, 5290⟩ true, .round none true] iface ∧
        iface.continued ≠ [] ∧ ∀ r ∈ iface.continued, Cleared r.1 r.2 := by
  have hexamined : ∀ (iface : DfsIface) (m : HostapdHwModes), iface.currentMode = some m →
      (m.channels.map fun c => c.chan) = ((List.range 4).map fun i : ℕ => ((52 : ℕ) : ℤ) + 4 * i) →
      iface.conf = conf80 52 58 → iface.Examined := by
    intro iface m hmode hmap hconf
    refine examined_of_regular ?_ (by rw [hconf]; decide) ?_
    · intro mode hm
      obtain rfl := Option.some.inj (hmode.symm.trans hm)
      exact regular_of_map hmap
    · intro mode hm _ h3
      rw [hconf] at h3
      exact absurd h3 (by decide)
  obtain ⟨iface₁, h₁, m₁, hm₁, hmap₁, hconf₁, hloop₁⟩ : ∃ iface₁,
      DfsIface.next (init (some (radarTable 52 4)) (conf80 52 58)) .setup = some iface₁ ∧
        ∃ m, iface₁.currentMode = some m ∧ (m.channels.map fun c => c.chan) =
          ((List.range 4).map fun i : ℕ => ((52 : ℕ) : ℤ) + 4 * i) ∧ iface₁.conf = conf80 52 58 ∧
            (∃ iface₂, DfsIface.next iface₁ (.round none true) = some iface₂ ∧
              ∃ iface₃, DfsIface.next iface₂ (.cacFinished ⟨5260, .w80, 5290⟩ true) = some iface₃ ∧
                ∃ m, iface₃.currentMode = some m ∧ (m.channels.map fun c => c.chan) =
                  ((List.range 4).map fun i : ℕ => ((52 : ℕ) : ℤ) + 4 * i) ∧ iface₃.conf = conf80 52 58 ∧
                    ∃ iface, DfsIface.next iface₃ (.round none true) = some iface ∧ iface.continued ≠ []) :=
    ⟨_, rfl, _, rfl, by decide +kernel, rfl, _, rfl, _, rfl, _, rfl, by decide +kernel, rfl, _, rfl, by decide +kernel⟩
  obtain ⟨iface₂, h₂, iface₃, h₃, m₃, hm₃, hmap₃, hconf₃, iface, h₄, hcontinued⟩ := hloop₁
  have hrun : RunWith DfsIface.next StepExamined (init (some (radarTable 52 4)) (conf80 52 58))
      [.setup, .round none true, .cacFinished ⟨5260, .w80, 5290⟩ true, .round none true] iface := by
    refine RunWith.cons trivial h₁ ?_
    refine RunWith.cons (hexamined iface₁ m₁ hm₁ hmap₁ hconf₁) h₂ ?_
    refine RunWith.cons trivial h₃ ?_
    exact RunWith.cons (hexamined iface₃ m₃ hm₃ hmap₃ hconf₃) h₄ .nil
  exact ⟨iface, hrun, hcontinued, run_cleared hrun⟩

/-- In 80+80 MHz the radar channels of the second segment are not looked at. -/
theorem second_segment_not_cleared :
    ¬ ∀ (mode : Option HostapdHwModes) (conf : DfsConfig) (steps : List DfsStep) (iface : DfsIface),
      Run DfsIface.next (init mode conf) steps iface → ∀ r ∈ iface.continued, Cleared r.1 r.2 := by
  intro h
  -- channels 36 to 48 without the flag, 100 to 112 with it
  have hrun : Run DfsIface.next (init
      (some ⟨true, ((List.range 4).map fun i : ℕ => ⟨36 + 4 * i, 5180 + 20 * i, 0⟩) ++ (radarTable 100 4).channels⟩)
      ⟨36, 1, true, true, true, 3, 42, 106, []⟩) [.setup, .round none false] _ := run_iff_exec.mpr rfl
  have hcleared := h _ _ _ _ hrun _ (List.mem_cons_self)
  have havailable := hcleared.occupied _ rfl ⟨100, 5500, hostapdChanRadar ||| hostapdChanDfsUsable⟩
    (by decide +kernel) (by decide +kernel) (by decide +kernel)
  exact absurd havailable (by decide +kernel)

end DfsIface

end Ethanol
