import EthanolHostapd.Ap.WpaAuth.Machine

/-!
# The calls of a station's authenticator

`wpa_receive` and the other entry points of `ap/wpa_auth.c` that change a station's machine: events of
the association, timers, the group key machine of another station.  Each of them changes some fields
and then runs the machines.  A frame that is too short for its header or for its key data is dropped
before anything else and is left out.
-/

namespace Ethanol

/-- `msg` in `wpa_receive`. -/
inductive EapolMsg
  | pairwise2
  | pairwise4
  | group2
  | request
  | smkM1
  | smkM3
  | smkError
  deriving DecidableEq

/-- `enum wpa_event`, without fast transition. -/
inductive WpaEvent
  | auth
  | assoc
  | disassoc
  | deauth
  | reauth
  | reauthEapol
  deriving DecidableEq

/-- The kind of a frame. -/
def EapolKey.msg {Nonce : Type} (key : EapolKey Nonce) : EapolMsg :=
  if key.smkMessage && key.request then
    if key.error then .smkError else .smkM1
  else if key.smkMessage then .smkM3
  else if key.request then .request
  else if !key.keyType then .group2
  else if key.keyData.isEmpty then .pairwise4
  else .pairwise2

/-- `wpa_use_aes_cmac`. -/
def StaSecurity.useAesCmac (s : StaSecurity) : Bool := s.sha256 || s.osen

/-- The checks of the descriptor type and version at the start of `wpa_receive`. -/
def StaSecurity.accepts {Nonce : Type} (s : StaSecurity) (key : EapolKey Nonce) : Bool :=
  (match s.wpa with
    | .wpa2 => key.type != .other
    | .wpa => key.type == .wpa) &&
  (match key.msg with
    | .request | .pairwise2 | .pairwise4 | .group2 =>
      (match s.pairwise with
        | .ccmp | .gcmp =>
          !(s.useAesCmac && !s.osen && !s.suiteB && key.version != 3) &&
            !(!s.useAesCmac && key.version != 2)
        | _ => true) &&
      !(s.suiteB && key.version != 0)
    | _ => true)

/-- The surroundings of one call of `wpa_receive`. -/
structure RxEnv (Pmk : Type) where
  /-- `group->reject_4way_hs_for_entropy`. -/
  rejectForEntropy : Bool := false
  /-- What `wpa_auth_get_psk` enumerates. -/
  psks : List Pmk := []
  /-- `wpa_auth_mic_failure_report` removes the station. -/
  staRemoved : Bool := false
  /-- The frames that the handlers of SMK messages send to the station itself. -/
  smkSends : List SendEnv := []
  /-- What `wpa_rekey_gtk` does to the station. -/
  rekeyGtk : List (GroupStep × List (Round Pmk)) := []
  /-- `os_malloc` fails for the copy of the frame. -/
  noMemory : Bool := false
  rounds : List (Round Pmk) := []

/-- What the part of `wpa_receive` that depends on the kind of the message decides. -/
inductive MsgCheck
  | dropped
  | disconnect
  | passed
  deriving DecidableEq

namespace WpaStateMachine

variable {Nonce Pmk Ptk : Type} [DecidableEq Nonce] [Inhabited Ptk]

section Calls

variable (p : WpaParams Nonce Pmk Ptk) (sm : WpaStateMachine Nonce Pmk Ptk)

/-! ## Events -/

omit [DecidableEq Nonce] in
/-- The start of a machine that has not been started. -/
def startMachine (rounds : List (Round Pmk)) : Option (WpaStateMachine Nonce Pmk Ptk) := do
  let sm ← smStep p rounds { sm with started := true, init := true }
  some { sm with init := false, authenticationRequest := true }

omit [DecidableEq Nonce] [Inhabited Ptk] in
/-- The station has associated again: a new handshake begins with cleared replay counters. -/
def reassociated : WpaStateMachine Nonce Pmk Ptk :=
  { sm with
    keyReplay := noKeyReplay
    reAuthenticationRequest := true
    history := .reset :: sm.history }

/-- `wpa_auth_sta_associated`; the first rounds are those of a machine that has not been started. -/
def staAssociated (rounds₀ rounds : List (Round Pmk)) : Option (WpaStateMachine Nonce Pmk Ptk) :=
  if sm.started then
    smStep p rounds sm.reassociated
  else do
    let sm ← sm.startMachine p rounds₀
    smStep p rounds sm

/-- The flags that `wpa_auth_sm_event` sets for a machine that has been started. -/
def eventFlags (event : WpaEvent) : WpaStateMachine Nonce Pmk Ptk :=
  match event with
  | .auth | .assoc => sm
  | .deauth | .disassoc => { sm with deauthenticationRequest := true }
  | .reauth | .reauthEapol =>
    let sm :=
      if sm.gUpdateStationKeys then { sm with gUpdateStationKeys := false, ptkGroupInit := true }
      else sm
    { sm with reAuthenticationRequest := true }

/-- The PTK is removed, unless management frames are protected and the station only authenticates. -/
def eventPtk (event : WpaEvent) : WpaStateMachine Nonce Pmk Ptk :=
  if sm.mgmtFrameProt = true ∧ event = .auth then sm
  else if event = .reauthEapol then { sm with ptkValid := false, ptk := default }
  else sm.removePtk

/-- `wpa_auth_sm_event`. -/
def smEvent (event : WpaEvent) (rounds₀ rounds : List (Round Pmk)) :
    Option (WpaStateMachine Nonce Pmk Ptk) := do
  let sm ←
    if (event = .reauth ∨ event = .reauthEapol) ∧ sm.started = false then sm.startMachine p rounds₀
    else some (sm.eventFlags event)
  smStep p rounds (sm.eventPtk event)

/-- A call of the group key machine for the station from outside the loop. -/
def groupCall (step : GroupStep) (rounds : List (Round Pmk)) :
    Option (WpaStateMachine Nonce Pmk Ptk) :=
  match step with
  | .update =>
    if sm.wpaPtkState = .ptkInitDone ∧ sm.isWnmsleep = false then smStep p rounds sm.groupUpdateSta
    else some sm.groupUpdateSta
  | .fatalFailure => some { sm with disconnect := true }

/-! ## `wpa_receive` -/

/-- The checks of the replay counter; `none` if the frame is dropped. -/
def checkReplay (key : EapolKey Nonce) : Option (WpaStateMachine Nonce Pmk Ptk) :=
  if key.request then
    if sm.reqReplayCounterUsed = true ∧ key.replayCounter ≤ sm.reqReplayCounter then none else some sm
  else if wpaReplayCounterValid sm.keyReplay key.replayCounter then some sm
  else if key.msg = .pairwise2 ∧ wpaReplayCounterValid sm.prevKeyReplay key.replayCounter = true ∧
      sm.wpaPtkState = .ptkInitNegotiating ∧ sm.sNonce ≠ key.keyNonce then
    -- the SNonce is updated even if 3/4 has been sent
    some { sm with
      updateSnonce := true
      altSNonce := sm.sNonce
      altSnonceValid := true
      altReplayCounter := firstCounter sm.keyReplay }
  else if key.msg = .pairwise4 ∧ sm.altSnonceValid = true ∧ sm.wpaPtkState = .ptkInitNegotiating ∧
      key.replayCounter = sm.altReplayCounter then
    some sm
  else none

/-- The checks that depend on the kind of the message. -/
def checkMsg (env : RxEnv Pmk) (key : EapolKey Nonce) : MsgCheck :=
  match key.msg with
  | .pairwise2 =>
    if sm.wpaPtkState ≠ .ptkStart ∧ sm.wpaPtkState ≠ .ptkCalcNegotiating ∧
        (sm.updateSnonce = false ∨ sm.wpaPtkState ≠ .ptkInitNegotiating) then .dropped
    else if env.rejectForEntropy then .disconnect
    else
      match p.parseKdeIes key.keyData with
      | none => .dropped
      | some kde => if kde.ieMatches then .passed else .disconnect
  | .pairwise4 =>
    if sm.wpaPtkState ≠ .ptkInitNegotiating ∨ sm.ptkValid = false then .dropped else .passed
  | .group2 =>
    if sm.wpaPtkGroupState ≠ .rekeyNegotiating ∨ sm.ptkValid = false then .dropped else .passed
  | .smkM1 | .smkM3 | .smkError =>
    if p.peerkey = false ∨ sm.ptkValid = false then .dropped else .passed
  | .request => .passed

/-- `wpa_try_alt_snonce`; `none` if no key verifies the MIC. -/
def tryAltSnonce (psks : List Pmk) (key : EapolKey Nonce) : Option (WpaStateMachine Nonce Pmk Ptk) :=
  ((sm.candidatePmks psks).find? fun pmk =>
    p.verifyKeyMic sm.security (p.derivePtk sm.security pmk sm.aNonce sm.altSNonce) key).map fun pmk =>
  { sm with
    altSnonceValid := false
    sNonce := sm.altSNonce
    ptk := p.derivePtk sm.security pmk sm.aNonce sm.altSNonce
    ptkValid := true }

/-- The MIC is valid. -/
def setMicVerified : WpaStateMachine Nonce Pmk Ptk :=
  { sm with micVerified := true, sendEapolTimeouts := 0 }

/-- The check of the MIC: the machine after it, and whether the frame passes. -/
def checkMic (env : RxEnv Pmk) (key : EapolKey Nonce) : WpaStateMachine Nonce Pmk Ptk × Bool :=
  let unverified := { sm with micVerified := false }
  if sm.ptkValid = true ∧ sm.updateSnonce = false then
    if p.verifyKeyMic sm.security sm.ptk key then (unverified.setMicVerified, true)
    else if key.msg = .pairwise4 ∧ sm.altSnonceValid = true then
      match unverified.tryAltSnonce p env.psks key with
      | some alt => (alt.setMicVerified, true)
      | none => (unverified, false)
    else (unverified, false)
  else (unverified, true)

/-- The end of `wpa_receive`. -/
def finishReceive (env : RxEnv Pmk) (key : EapolKey Nonce) : Option (WpaStateMachine Nonce Pmk Ptk) :=
  if env.noMemory then some { sm with lastRxEapolKey := none }
  else
    smStep p env.rounds { sm with
      lastRxEapolKey := some key
      eapolKeyReceived := true
      eapolKeyPairwise := key.keyType
      eapolKeyRequest := key.request
      sNonce := key.keyNonce }

/-- The frames that an SMK handler sends to the station. -/
def sendSmk (env : RxEnv Pmk) : WpaStateMachine Nonce Pmk Ptk := env.smkSends.foldl sendEapolFrame sm

/-- `wpa_receive_error_report` ends with the removal of the station. -/
def errorReportRemoves (env : RxEnv Pmk) (key : EapolKey Nonce) : Bool :=
  (if key.keyType then sm.security.pairwise == .tkip else p.groupTkip) && env.staRemoved

/-- Only requests with a greater replay counter are accepted from now on. -/
def acceptRequest (key : EapolKey Nonce) : WpaStateMachine Nonce Pmk Ptk :=
  { sm with
    reqReplayCounterUsed := true
    reqReplayCounter := key.replayCounter
    history := .requested key.replayCounter :: sm.history }

/-- The branch of `wpa_receive` for a request. -/
def receiveRequest (env : RxEnv Pmk) (key : EapolKey Nonce) :
    Option (WpaStateMachine Nonce Pmk Ptk) :=
  if sm.micVerified = false then some sm
  else
    let sm := sm.acceptRequest key
    if key.msg = .smkError then some (sm.sendSmk env)
    else if key.error then
      if sm.errorReportRemoves p env key then some sm else sm.requestNewPtk.finishReceive p env key
    else if key.keyType then sm.requestNewPtk.finishReceive p env key
    else if key.msg = .smkM1 then (sm.sendSmk env).finishReceive p env key
    else if key.keyData ≠ [] ∧ (p.parseKdeIes key.keyData).any EapolIeParse.macAddr = true then
      sm.finishReceive p env key
    else do
      let sm ← env.rekeyGtk.foldlM (fun sm g => groupCall p sm g.1 g.2) sm
      sm.finishReceive p env key

/-- No replay counter is accepted again. -/
def consumeReplay (key : EapolKey Nonce) : WpaStateMachine Nonce Pmk Ptk :=
  let keyReplay := wpaReplayCounterMarkInvalid sm.keyReplay (some key.replayCounter)
  { sm with
    prevKeyReplay := if key.msg = .pairwise2 then keyReplay else noKeyReplay
    keyReplay := wpaReplayCounterMarkInvalid keyReplay none
    history :=
      .accepted key.replayCounter (wpaReplayCounterValid sm.keyReplay key.replayCounter) ::
        sm.history }

/-- The branch of `wpa_receive` for a frame that is not a request. -/
def receiveReply (env : RxEnv Pmk) (key : EapolKey Nonce) :
    Option (WpaStateMachine Nonce Pmk Ptk) :=
  let sm := sm.consumeReplay key
  if key.msg = .smkM3 then some (sm.sendSmk env) else sm.finishReceive p env key

/-- `wpa_receive`. -/
def receive (env : RxEnv Pmk) (key : EapolKey Nonce) : Option (WpaStateMachine Nonce Pmk Ptk) :=
  if sm.security.accepts key = false then some sm
  else
    match sm.checkReplay key with
    | none => some sm
    | some sm =>
      match sm.checkMsg p env key with
      | .dropped => some sm
      | .disconnect => sm.smEvent p .deauth [] env.rounds
      | .passed =>
        if key.ack = true ∨ key.mic = false then some sm
        else
          let checked := sm.checkMic p env key
          if checked.2 = false then some checked.1
          else if key.request then checked.1.receiveRequest p env key
          else checked.1.receiveReply p env key

end Calls

end WpaStateMachine

/-- A call that changes a station's machine. -/
inductive WpaCall (Nonce Pmk : Type)
  | receive (env : RxEnv Pmk) (key : EapolKey Nonce)
  | sendEapolTimeout (rounds : List (Round Pmk))
  | rekeyPtk (rounds : List (Round Pmk))
  | smEvent (event : WpaEvent) (rounds₀ rounds : List (Round Pmk))
  | staAssociated (rounds₀ rounds : List (Round Pmk))
  /-- `wpa_sm_call_step`. -/
  | smCallStep (rounds : List (Round Pmk))
  /-- The group key machine, run for another station or by its timer. -/
  | group (step : GroupStep) (rounds : List (Round Pmk))
  /-- A frame that is sent to the station because of an SMK message of another one. -/
  | smkSend (e : SendEnv)
  /-- `wpa_validate_wpa_ie`, as far as the machine is concerned. -/
  | validateWpaIe (security : StaSecurity) (mgmtFrameProt : Bool)
  | setWnmsleep (flag : Bool)

namespace WpaStateMachine

variable {Nonce Pmk Ptk : Type} [DecidableEq Nonce] [Inhabited Ptk]

/-- The machine after a call.  A timer can only expire if it is registered. -/
def next (p : WpaParams Nonce Pmk Ptk) (sm : WpaStateMachine Nonce Pmk Ptk) :
    WpaCall Nonce Pmk → Option (WpaStateMachine Nonce Pmk Ptk)
  | .receive env key => sm.receive p env key
  | .sendEapolTimeout rounds =>
    if sm.sendEapolTimeouts = 0 then none
    else smStep p rounds
      { sm with sendEapolTimeouts := sm.sendEapolTimeouts - 1, timeoutEvt := true }
  | .rekeyPtk rounds =>
    if sm.rekeyPtkTimeouts = 0 then none
    else smStep p rounds { sm with rekeyPtkTimeouts := sm.rekeyPtkTimeouts - 1 }.requestNewPtk
  | .smEvent event rounds₀ rounds => sm.smEvent p event rounds₀ rounds
  | .staAssociated rounds₀ rounds => sm.staAssociated p rounds₀ rounds
  | .smCallStep rounds => smStep p rounds sm
  | .group step rounds => sm.groupCall p step rounds
  | .smkSend e => some (sm.sendEapolFrame e)
  | .validateWpaIe security mgmtFrameProt => some { sm with security, mgmtFrameProt }
  | .setWnmsleep flag => some { sm with isWnmsleep := flag }

end WpaStateMachine

end Ethanol
