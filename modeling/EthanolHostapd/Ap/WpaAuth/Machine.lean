import EthanolHostapd.Traces.Run

/-!
# The authenticator's machines for one station

`ap/wpa_auth.c`: the machines `WPA_PTK` and `WPA_PTK_GROUP` of a station and the loop that runs them
until nothing changes.  The key derivation, the check of a MIC and the source of random numbers are
parameters.  What happens around the machines during one round of the loop (the variables of the EAPOL
machine, the PSKs that are configured, memory that cannot be had, what the group key machine does to
the station) is given with the round.

A `history` that the program does not keep records the replay counters that were used and accepted, the
frames whose MIC was verified and the keys that were installed.  Fast transition is left out.
-/

namespace Ethanol

/-! ## Frames and parameters -/

/-- `WPA_VERSION_*`. -/
inductive WpaVersion
  | wpa
  | wpa2
  deriving DecidableEq

/-- `WPA_CIPHER_*`, as far as they are told apart. -/
inductive WpaCipher
  | ccmp
  | gcmp
  | tkip
  | other
  deriving DecidableEq

/-- What a station has negotiated: `wpa`, `pairwise` and the properties of `wpa_key_mgmt`. -/
structure StaSecurity where
  wpa : WpaVersion
  pairwise : WpaCipher
  psk : Bool
  ieee8021x : Bool
  sha256 : Bool
  osen : Bool
  suiteB : Bool
  deriving DecidableEq

/-- `EAPOL_KEY_TYPE_*`. -/
inductive EapolKeyType
  | wpa
  | rsn
  | other
  deriving DecidableEq

/-- `struct wpa_eapol_key` with its key data; the flags are those of `key_info`. -/
structure EapolKey (Nonce : Type) where
  type : EapolKeyType
  /-- `key_info & WPA_KEY_INFO_TYPE_MASK`. -/
  version : BitVec 3
  /-- Set for a pairwise frame. -/
  keyType : Bool
  ack : Bool
  mic : Bool
  secure : Bool
  error : Bool
  request : Bool
  smkMessage : Bool
  replayCounter : BitVec 64
  keyNonce : Nonce
  keyMic : List UInt8
  keyData : List UInt8
  deriving DecidableEq

/-- What is used of the result of `wpa_parse_kde_ies`. -/
structure EapolIeParse where
  /-- The element agrees with the one of the association request (`wpa_compare_rsn_ie`). -/
  ieMatches : Bool
  macAddr : Bool
  deriving DecidableEq

/-- The functions and settings outside the machines. -/
structure WpaParams (Nonce Pmk Ptk : Type) where
  /-- `wpa_derive_ptk`, with the PMK, the ANonce and the SNonce. -/
  derivePtk : StaSecurity → Pmk → Nonce → Nonce → Ptk
  /-- `wpa_verify_key_mic`. -/
  verifyKeyMic : StaSecurity → Ptk → EapolKey Nonce → Bool
  parseKdeIes : List UInt8 → Option EapolIeParse
  /-- The values that `random_get_bytes` writes, one draw after the other. -/
  random : ℕ → Nonce
  randomFails : ℕ → Bool
  /-- `conf.peerkey`. -/
  peerkey : Bool
  /-- `conf.wpa_ptk_rekey` is not zero. -/
  wpaPtkRekey : Bool
  /-- `conf.wpa_group` is TKIP. -/
  groupTkip : Bool

/-! ## Replay counters -/

/-- `struct wpa_key_replay_counter`. -/
structure KeyReplayCounter where
  counter : BitVec 64
  valid : Bool
  deriving DecidableEq

/-- `RSNA_MAX_EAPOL_RETRIES`. -/
def rsnaMaxEapolRetries : ℕ := 4

/-- `dot11RSNAConfigPairwiseUpdateCount`. -/
def dot11RSNAConfigPairwiseUpdateCount : ℕ := 4

/-- `dot11RSNAConfigGroupUpdateCount`. -/
def dot11RSNAConfigGroupUpdateCount : ℕ := 4

/-- An array of counters set to zero. -/
def noKeyReplay : List KeyReplayCounter := List.replicate rsnaMaxEapolRetries ⟨0, false⟩

/-- `ctr[0].counter`. -/
def firstCounter (ctr : List KeyReplayCounter) : BitVec 64 := (ctr.headD ⟨0, false⟩).counter

/-- `wpa_replay_counter_valid`. -/
def wpaReplayCounterValid (ctr : List KeyReplayCounter) (replayCounter : BitVec 64) : Bool :=
  (ctr.takeWhile KeyReplayCounter.valid).any fun c => c.counter == replayCounter

/-- `wpa_replay_counter_mark_invalid`; `none` is `NULL`. -/
def wpaReplayCounterMarkInvalid (ctr : List KeyReplayCounter) (replayCounter : Option (BitVec 64)) :
    List KeyReplayCounter :=
  ctr.map fun c =>
    if c.valid = true ∧ (replayCounter = none ∨ replayCounter = some c.counter) then
      { c with valid := false }
    else c

/-- The part of `__wpa_send_eapol` that moves the counters on. -/
def shiftKeyReplay (ctr : List KeyReplayCounter) : List KeyReplayCounter :=
  ⟨firstCounter ctr + 1, true⟩ :: ctr.take (rsnaMaxEapolRetries - 1)

/-! ## The station -/

/-- `wpa_ptk_state`. -/
inductive PtkState
  | initializing
  | disconnect
  | disconnected
  | authentication
  | authentication2
  | initPmk
  | initPsk
  | ptkStart
  | ptkCalcNegotiating
  | ptkCalcNegotiating2
  | ptkInitNegotiating
  | ptkInitDone
  deriving DecidableEq

/-- `wpa_ptk_group_state`. -/
inductive PtkGroupState
  | idle
  | rekeyNegotiating
  | rekeyEstablished
  | keyError
  deriving DecidableEq

/-- What is recorded of a run. -/
inductive WpaAct (Nonce Ptk : Type)
  /-- A frame was given this replay counter. -/
  | sent (counter : BitVec 64)
  /-- The MIC of the frame was verified in `PTKCALCNEGOTIATING` under a key that was derived from the
  ANonce. -/
  | verified (frame : EapolKey Nonce) (ptk : Ptk) (aNonce : Nonce)
  /-- `PTKINITDONE` was entered. -/
  | installed (ptk : Ptk) (aNonce : Nonce)
  /-- `INITPMK` or `INITPSK` was entered. -/
  | keyed
  /-- `key_replay` was cleared. -/
  | reset
  /-- A frame that is no request was accepted, `pending` if its counter was found in `key_replay`. -/
  | accepted (counter : BitVec 64) (pending : Bool)
  /-- A request was accepted. -/
  | requested (counter : BitVec 64)
  deriving DecidableEq

/-- `struct wpa_state_machine`. -/
structure WpaStateMachine (Nonce Pmk Ptk : Type) where
  security : StaSecurity
  mgmtFrameProt : Bool := false
  wpaPtkState : PtkState := .initializing
  wpaPtkGroupState : PtkGroupState := .idle
  init : Bool := false
  deauthenticationRequest : Bool := false
  authenticationRequest : Bool := false
  reAuthenticationRequest : Bool := false
  disconnect : Bool := false
  timeoutCtr : ℕ := 0
  gTimeoutCtr : ℕ := 0
  timeoutEvt : Bool := false
  eapolKeyReceived : Bool := false
  eapolKeyPairwise : Bool := false
  eapolKeyRequest : Bool := false
  micVerified : Bool := false
  gUpdateStationKeys : Bool := false
  aNonce : Nonce
  sNonce : Nonce
  altSNonce : Nonce
  altReplayCounter : BitVec 64 := 0
  pmk : Pmk
  ptk : Ptk
  ptkValid : Bool := false
  pairwiseSet : Bool := false
  pair : Bool := false
  keyReplay : List KeyReplayCounter := noKeyReplay
  prevKeyReplay : List KeyReplayCounter := noKeyReplay
  pInitAKeys : Bool := false
  ptkRequest : Bool := false
  hasGtk : Bool := false
  ptkGroupInit : Bool := false
  lastRxEapolKey : Option (EapolKey Nonce) := none
  changed : Bool := false
  started : Bool := false
  updateSnonce : Bool := false
  altSnonceValid : Bool := false
  isWnmsleep : Bool := false
  reqReplayCounter : BitVec 64 := 0
  reqReplayCounterUsed : Bool := false
  /-- How often the timers of `wpa_send_eapol_timeout` and `wpa_rekey_ptk` are registered. -/
  sendEapolTimeouts : ℕ := 0
  rekeyPtkTimeouts : ℕ := 0
  /-- The number of draws from the random source. -/
  drawn : ℕ := 0
  history : List (WpaAct Nonce Ptk) := []
  deriving DecidableEq

/-- Whether the memory for a frame can be had. -/
structure SendEnv where
  /-- The key data cannot be built. -/
  kdeFails : Bool := false
  /-- `os_zalloc` fails in `__wpa_send_eapol`. -/
  frameFails : Bool := false

/-- What the group key machine does to a station. -/
inductive GroupStep
  /-- `wpa_group_update_sta`. -/
  | update
  /-- `wpa_group_disconnect_cb`. -/
  | fatalFailure

/-- The surroundings in one round of `wpa_sm_step`. -/
structure Round (Pmk : Type) where
  keyRun : Bool := false
  keyAvailable : Bool := false
  /-- What `wpa_auth_get_psk` enumerates. -/
  psks : List Pmk := []
  /-- The PMK in the PMKSA cache or from the EAPOL machine. -/
  msk : Option Pmk := none
  send : SendEnv := {}
  groupSend : SendEnv := {}
  setKeyFails : Bool := false
  group : List GroupStep := []
  /-- `wpa_auth->group->changed`. -/
  groupChanged : Bool := false

namespace WpaStateMachine

variable {Nonce Pmk Ptk : Type} [Inhabited Ptk]

/-- `wpa_auth_sta_init`. -/
def staInit [Inhabited Nonce] [Inhabited Pmk] (security : StaSecurity) (mgmtFrameProt : Bool) :
    WpaStateMachine Nonce Pmk Ptk where
  security := security
  mgmtFrameProt := mgmtFrameProt
  aNonce := default
  sNonce := default
  altSNonce := default
  pmk := default
  ptk := default

section Machines

variable (p : WpaParams Nonce Pmk Ptk) (r : Round Pmk) (sm : WpaStateMachine Nonce Pmk Ptk)

/-! ## Helpers -/

/-- `SM_ENTRY_MA(WPA_PTK, ...)`. -/
def enterPtk (state : PtkState) : WpaStateMachine Nonce Pmk Ptk :=
  { sm with wpaPtkState := state, changed := true }

/-- `SM_ENTRY_MA(WPA_PTK_GROUP, ...)`. -/
def enterGroup (state : PtkGroupState) : WpaStateMachine Nonce Pmk Ptk :=
  { sm with wpaPtkGroupState := state, changed := true }

/-- `__wpa_send_eapol`, as far as the machine is concerned. -/
def sendEapolFrame (e : SendEnv) : WpaStateMachine Nonce Pmk Ptk :=
  if e.frameFails then sm
  else { sm with
    keyReplay := shiftKeyReplay sm.keyReplay
    history := .sent (firstCounter sm.keyReplay + 1) :: sm.history }

/-- `wpa_send_eapol`. -/
def sendEapol (e : SendEnv) : WpaStateMachine Nonce Pmk Ptk :=
  let sm := sm.sendEapolFrame e
  { sm with sendEapolTimeouts := sm.sendEapolTimeouts + 1 }

/-- `wpa_remove_ptk`. -/
def removePtk : WpaStateMachine Nonce Pmk Ptk :=
  { sm with ptkValid := false, ptk := default, pairwiseSet := false, rekeyPtkTimeouts := 0 }

/-- `wpa_sta_disconnect` while the loop is running: the station is deauthenticated, which comes back as
the event `WPA_DEAUTH`. -/
def staDisconnect : WpaStateMachine Nonce Pmk Ptk :=
  { sm.removePtk with deauthenticationRequest := true, changed := true }

/-- `wpa_request_new_ptk`. -/
def requestNewPtk : WpaStateMachine Nonce Pmk Ptk := { sm with ptkRequest := true, ptkValid := false }

/-! ## The states of `WPA_PTK` -/

/-- `SM_STATE(WPA_PTK, INITIALIZE)`. -/
def ptkInitialize : WpaStateMachine Nonce Pmk Ptk :=
  let sm := sm.enterPtk .initializing
  let sm := { sm with
    changed := !sm.init
    gUpdateStationKeys := false
    pInitAKeys := if sm.security.wpa = WpaVersion.wpa then false else sm.pInitAKeys
    pair := true }
  { sm.removePtk with timeoutCtr := 0 }

/-- `SM_STATE(WPA_PTK, DISCONNECT)`. -/
def ptkDisconnect : WpaStateMachine Nonce Pmk Ptk :=
  { sm.enterPtk .disconnect with disconnect := false }.staDisconnect

/-- `SM_STATE(WPA_PTK, DISCONNECTED)`. -/
def ptkDisconnected : WpaStateMachine Nonce Pmk Ptk :=
  { sm.enterPtk .disconnected with deauthenticationRequest := false }

/-- `SM_STATE(WPA_PTK, AUTHENTICATION)`. -/
def ptkAuthentication : WpaStateMachine Nonce Pmk Ptk :=
  { sm.enterPtk .authentication with ptk := default, ptkValid := false, authenticationRequest := false }

/-- `SM_STATE(WPA_PTK, AUTHENTICATION2)`. -/
def ptkAuthentication2 : WpaStateMachine Nonce Pmk Ptk :=
  let fails := p.randomFails sm.drawn
  let sm := { sm.enterPtk .authentication2 with
    reAuthenticationRequest := false
    aNonce := p.random sm.drawn
    drawn := sm.drawn + 1 }
  if fails then { sm with disconnect := true } else { sm with timeoutCtr := 0 }

/-- `SM_STATE(WPA_PTK, INITPMK)`. -/
def ptkInitPmk : WpaStateMachine Nonce Pmk Ptk :=
  let sm := { sm.enterPtk .initPmk with history := .keyed :: sm.history }
  match r.msk with
  | none => { sm with disconnect := true }
  | some pmk => { sm with pmk, reqReplayCounterUsed := false }

/-- `SM_STATE(WPA_PTK, INITPSK)`. -/
def ptkInitPsk : WpaStateMachine Nonce Pmk Ptk :=
  let sm := { sm.enterPtk .initPsk with history := .keyed :: sm.history }
  { sm with pmk := r.psks.headD sm.pmk, reqReplayCounterUsed := false }

/-- `SM_STATE(WPA_PTK, PTKSTART)`. -/
def ptkPtkStart : WpaStateMachine Nonce Pmk Ptk :=
  let sm := { sm.enterPtk .ptkStart with
    ptkRequest := false
    timeoutEvt := false
    altSnonceValid := false
    timeoutCtr := sm.timeoutCtr + 1 }
  if dot11RSNAConfigPairwiseUpdateCount < sm.timeoutCtr then sm else sm.sendEapol r.send

/-- The PMKs that are tried on a frame. -/
def candidatePmks (psks : List Pmk) : List Pmk := if sm.security.psk then psks else [sm.pmk]

/-- The end of `PTKCALCNEGOTIATING`, after the MIC of a frame was verified. -/
def acceptPtk (frame : EapolKey Nonce) (pmk : Pmk) : WpaStateMachine Nonce Pmk Ptk :=
  let ptk := p.derivePtk sm.security pmk sm.aNonce sm.sNonce
  { sm with
    sendEapolTimeouts := 0
    pmk := if sm.security.psk then pmk else sm.pmk
    micVerified := true
    ptk
    ptkValid := true
    history := .verified frame ptk sm.aNonce :: sm.history }

/-- `SM_STATE(WPA_PTK, PTKCALCNEGOTIATING)`; there is no next state if the frame is read through
`NULL`. -/
def ptkPtkCalcNegotiating : Option (WpaStateMachine Nonce Pmk Ptk) :=
  let sm := { sm.enterPtk .ptkCalcNegotiating with eapolKeyReceived := false, updateSnonce := false }
  let pmks := sm.candidatePmks r.psks
  match sm.lastRxEapolKey with
  | none => if pmks.isEmpty then some sm else none
  | some frame =>
    match pmks.find? fun pmk =>
      p.verifyKeyMic sm.security (p.derivePtk sm.security pmk sm.aNonce sm.sNonce) frame with
    | none => some sm
    | some pmk => some (sm.acceptPtk p frame pmk)

/-- `SM_STATE(WPA_PTK, PTKCALCNEGOTIATING2)`. -/
def ptkPtkCalcNegotiating2 : WpaStateMachine Nonce Pmk Ptk :=
  { sm.enterPtk .ptkCalcNegotiating2 with timeoutCtr := 0 }

/-- `SM_STATE(WPA_PTK, PTKINITNEGOTIATING)`. -/
def ptkPtkInitNegotiating : WpaStateMachine Nonce Pmk Ptk :=
  let sm := { sm.enterPtk .ptkInitNegotiating with
    timeoutEvt := false
    timeoutCtr := sm.timeoutCtr + 1 }
  if dot11RSNAConfigPairwiseUpdateCount < sm.timeoutCtr then sm
  else if r.send.kdeFails then sm
  else sm.sendEapol r.send

/-- `SM_STATE(WPA_PTK, PTKINITDONE)`. -/
def ptkPtkInitDone : WpaStateMachine Nonce Pmk Ptk :=
  let done := { sm.enterPtk .ptkInitDone with
    eapolKeyReceived := false
    history := .installed sm.ptk sm.aNonce :: sm.history }
  if sm.pair = true ∧ r.setKeyFails = true then done.staDisconnect
  else
    let done :=
      if sm.pair then
        { done with
          pairwiseSet := true
          rekeyPtkTimeouts := if p.wpaPtkRekey then 1 else sm.rekeyPtkTimeouts }
      else done
    if sm.security.wpa = WpaVersion.wpa then { done with pInitAKeys := true }
    else { done with hasGtk := true }

/-- A frame for `WPA_PTK` is waiting. -/
def pairwiseReceived : Bool := sm.eapolKeyReceived && !sm.eapolKeyRequest && sm.eapolKeyPairwise

/-- `SM_STEP(WPA_PTK)`. -/
def ptkStep : Option (WpaStateMachine Nonce Pmk Ptk) :=
  if sm.init then some sm.ptkInitialize
  else if sm.disconnect then some sm.ptkDisconnect
  else if sm.deauthenticationRequest then some sm.ptkDisconnected
  else if sm.authenticationRequest then some sm.ptkAuthentication
  else if sm.reAuthenticationRequest then some (sm.ptkAuthentication2 p)
  else if sm.ptkRequest then some (sm.ptkPtkStart r)
  else
    match sm.wpaPtkState with
    | .initializing => some sm
    | .disconnect => some sm.ptkDisconnected
    | .disconnected => some sm.ptkInitialize
    | .authentication => some (sm.ptkAuthentication2 p)
    | .authentication2 =>
      if sm.security.ieee8021x && r.keyRun then some (sm.ptkInitPmk r)
      else if sm.security.psk then some (sm.ptkInitPsk r)
      else some sm
    | .initPmk => if r.keyAvailable then some (sm.ptkPtkStart r) else some sm.ptkDisconnect
    | .initPsk => if r.psks.isEmpty then some sm.ptkDisconnect else some (sm.ptkPtkStart r)
    | .ptkStart =>
      if sm.pairwiseReceived then sm.ptkPtkCalcNegotiating p r
      else if dot11RSNAConfigPairwiseUpdateCount < sm.timeoutCtr then some sm.ptkDisconnect
      else if sm.timeoutEvt then some (sm.ptkPtkStart r)
      else some sm
    | .ptkCalcNegotiating =>
      if sm.micVerified then some sm.ptkPtkCalcNegotiating2
      else if sm.pairwiseReceived then sm.ptkPtkCalcNegotiating p r
      else if sm.timeoutEvt then some (sm.ptkPtkStart r)
      else some sm
    | .ptkCalcNegotiating2 => some (sm.ptkPtkInitNegotiating r)
    | .ptkInitNegotiating =>
      if sm.updateSnonce then sm.ptkPtkCalcNegotiating p r
      else if sm.pairwiseReceived && sm.micVerified then some (sm.ptkPtkInitDone p r)
      else if dot11RSNAConfigPairwiseUpdateCount < sm.timeoutCtr then some sm.ptkDisconnect
      else if sm.timeoutEvt then some (sm.ptkPtkInitNegotiating r)
      else some sm
    | .ptkInitDone => some sm

/-! ## The states of `WPA_PTK_GROUP` -/

/-- `SM_STATE(WPA_PTK_GROUP, IDLE)`. -/
def groupIdle : WpaStateMachine Nonce Pmk Ptk :=
  let sm := sm.enterGroup .idle
  { sm with changed := !sm.init, gTimeoutCtr := 0 }

/-- `SM_STATE(WPA_PTK_GROUP, REKEYNEGOTIATING)`. -/
def groupRekeyNegotiating : WpaStateMachine Nonce Pmk Ptk :=
  let sm := { sm.enterGroup .rekeyNegotiating with gTimeoutCtr := sm.gTimeoutCtr + 1 }
  if dot11RSNAConfigGroupUpdateCount < sm.gTimeoutCtr then sm
  else
    let sm := { sm with
      pInitAKeys := if sm.security.wpa = WpaVersion.wpa then false else sm.pInitAKeys
      timeoutEvt := false }
    if r.groupSend.kdeFails then sm else sm.sendEapol r.groupSend

/-- `SM_STATE(WPA_PTK_GROUP, REKEYESTABLISHED)`. -/
def groupRekeyEstablished : WpaStateMachine Nonce Pmk Ptk :=
  { sm.enterGroup .rekeyEstablished with
    eapolKeyReceived := false, gUpdateStationKeys := false, gTimeoutCtr := 0, hasGtk := true }

/-- `SM_STATE(WPA_PTK_GROUP, KEYERROR)`. -/
def groupKeyError : WpaStateMachine Nonce Pmk Ptk :=
  { sm.enterGroup .keyError with gUpdateStationKeys := false, disconnect := true }

/-- `SM_STEP(WPA_PTK_GROUP)`. -/
def groupStep : WpaStateMachine Nonce Pmk Ptk :=
  if sm.init || sm.ptkGroupInit then { sm.groupIdle with ptkGroupInit := false }
  else
    match sm.wpaPtkGroupState with
    | .idle =>
      if sm.gUpdateStationKeys || (sm.security.wpa = WpaVersion.wpa && sm.pInitAKeys) then
        sm.groupRekeyNegotiating r
      else sm
    | .rekeyNegotiating =>
      if sm.eapolKeyReceived && !sm.eapolKeyRequest && !sm.eapolKeyPairwise && sm.micVerified then
        sm.groupRekeyEstablished
      else if dot11RSNAConfigGroupUpdateCount < sm.gTimeoutCtr then sm.groupKeyError
      else if sm.timeoutEvt then sm.groupRekeyNegotiating r
      else sm
    | .keyError => sm.groupIdle
    | .rekeyEstablished => sm.groupIdle

/-! ## The loop -/

/-- `wpa_group_update_sta`, up to the call of `wpa_sm_step`. -/
def groupUpdateSta : WpaStateMachine Nonce Pmk Ptk :=
  if sm.wpaPtkState ≠ .ptkInitDone then { sm with gUpdateStationKeys := false }
  else if sm.isWnmsleep then sm
  else { sm with gUpdateStationKeys := true }

/-- What the group key machine does to the station during a round; a nested call of `wpa_sm_step`
returns at once. -/
def applyGroupStep (sm : WpaStateMachine Nonce Pmk Ptk) : GroupStep → WpaStateMachine Nonce Pmk Ptk
  | .update => sm.groupUpdateSta
  | .fatalFailure => { sm with disconnect := true }

/-- One round of the loop in `wpa_sm_step`. -/
def roundStep : Option (WpaStateMachine Nonce Pmk Ptk) :=
  ({ sm with changed := false }.ptkStep p r).map fun sm =>
    r.group.foldl applyGroupStep (groupStep r sm)

/-- `wpa_sm_step`, with the surroundings of each round. -/
def smStep : List (Round Pmk) → WpaStateMachine Nonce Pmk Ptk →
    Option (WpaStateMachine Nonce Pmk Ptk)
  | [], _ => none
  | r :: rs, sm => do
    let sm ← sm.roundStep p r
    if sm.changed || r.groupChanged then smStep rs sm else some sm

end Machines

end WpaStateMachine

end Ethanol
