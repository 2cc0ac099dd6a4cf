import Mathlib.Logic.Function.Basic
import EthanolHostapd.Utils.Common

/-!
# The state machines of the EAPOL authenticator

The six machines of `eapol_auth_sm.c` share one structure.  A step of one of them may call functions of other modules, which
may assign to variables of that structure before they return; which ones is up to an `EapolEnv`, and so is what the EAP server
does when it is stepped.

The history of a machine has the states that are entered, the calls that are made and the assignments of the other modules,
the latest first.
-/

namespace Ethanol

/-! ## Variables -/

/-- `PortTypes`. -/
inductive PortTypes
  | forceUnauthorized
  | auto
  | forceAuthorized
  deriving DecidableEq

/-- `PortState`.  A structure that was just allocated has neither. -/
inductive PortState
  | authorized
  | unauthorized
  deriving DecidableEq

/-- `ControlledDirection`. -/
inductive ControlledDirection
  | both
  | inward
  deriving DecidableEq

/-- The states `AUTH_PAE_*`. -/
inductive AuthPaeState
  | initial
  | disconnected
  | connecting
  | authenticating
  | authenticated
  | aborting
  | held
  | forceAuth
  | forceUnauth
  | restart
  deriving DecidableEq

/-- The states `BE_AUTH_*`. -/
inductive BeAuthState
  | request
  | response
  | success
  | fail
  | timeout
  | idle
  | initial
  | ignore
  deriving DecidableEq

/-- The states `REAUTH_TIMER_*`. -/
inductive ReauthTimerState
  | initial
  | reauthenticate
  deriving DecidableEq

/-- The states `AUTH_KEY_TX_*`. -/
inductive AuthKeyTxState
  | noKeyTransmit
  | keyTransmit
  deriving DecidableEq

/-- The states `KEY_RX_*`. -/
inductive KeyRxState
  | noKeyReceive
  | keyReceive
  deriving DecidableEq

/-- The states `CTRL_DIR_*`. -/
inductive CtrlDirState
  | forceBoth
  | inOrBoth
  deriving DecidableEq

/-- The members of type `Counter`. -/
inductive EapolCounter
  | authEntersConnecting
  | authEapLogoffsWhileConnecting
  | authAuthSuccessesWhileAuthenticating
  | authAuthTimeoutsWhileAuthenticating
  | authAuthFailWhileAuthenticating
  | authAuthEapStartsWhileAuthenticating
  | authAuthEapLogoffWhileAuthenticating
  | authAuthReauthsWhileAuthenticated
  | authAuthEapStartsWhileAuthenticated
  | authAuthEapLogoffWhileAuthenticated
  | backendResponses
  | backendAccessChallenges
  | backendOtherRequestsToSupplicant
  | backendAuthSuccesses
  | backendAuthFails
  | dot1xAuthEapolFramesRx
  | dot1xAuthEapolFramesTx
  | dot1xAuthEapolStartFramesRx
  | dot1xAuthEapolLogoffFramesRx
  | dot1xAuthEapolRespFramesRx
  | dot1xAuthEapolReqIdFramesTx
  | dot1xAuthEapolReqFramesTx
  | dot1xAuthInvalidEapolFramesRx
  | dot1xAuthEapLengthErrorFramesRx
  deriving DecidableEq

/-- `struct eap_eapol_interface`: what the EAPOL machines read and write of it. -/
structure EapEapolInterface where
  eapResp : Bool := false
  eapRespData : Option (List UInt8) := none
  portEnabled : Bool := false
  retransWhile : Int32 := 0
  eapRestart : Bool := false
  eapReq : Bool := false
  eapNoReq : Bool := false
  eapSuccess : Bool := false
  eapFail : Bool := false
  eapTimeout : Bool := false
  eapReqData : Option (List UInt8) := none
  eapKeyAvailable : Bool := false
  aaaEapResp : Bool := false
  aaaEapRespData : Option (List UInt8) := none

/-- The flags `EAPOL_SM_*` that the machines test. -/
structure EapolSmFlags where
  preauth : Bool := false
  waitStart : Bool := false
  usesWpa : Bool := false

/-- What other modules assign to. -/
inductive EapolWrite
  | eapResp (b : Bool)
  | eapRespData (data : Option (List UInt8))
  | portEnabled (b : Bool)
  | retransWhile (n : Int32)
  | eapRestart (b : Bool)
  | eapReq (b : Bool)
  | eapNoReq (b : Bool)
  | eapSuccess (b : Bool)
  | eapFail (b : Bool)
  | eapTimeout (b : Bool)
  | eapReqData (data : Option (List UInt8))
  | eapKeyAvailable (b : Bool)
  | aaaEapResp (b : Bool)
  | aaaEapRespData (data : Option (List UInt8))
  | portValid (b : Bool)
  | portControl (p : PortTypes)
  | keyRun (b : Bool)
  | keyDone (b : Bool)
  | authFail (b : Bool)
  | reAuthenticate (b : Bool)
  | reAuthPeriod (n : UInt32)
  | reAuthEnabled (b : Bool)
  | quietPeriod (n : UInt32)
  | serverTimeout (n : UInt32)
  | keyTxEnabled (b : Bool)
  | adminControlledDirections (d : ControlledDirection)
  | preauth (b : Bool)
  | waitStart (b : Bool)
  | remediation
  | eapolFramesTx

/-- Entries of the history. -/
inductive EapolAct
  | authPae (s : AuthPaeState)
  | beAuth (s : BeAuthState)
  | reauthTimer (s : ReauthTimerState)
  | authKeyTx (s : AuthKeyTxState)
  | keyRx (s : KeyRxState)
  | ctrlDir (s : CtrlDirState)
  | setPortAuthorized (b : Bool)
  | finished (success preauth remediation : Bool)
  | eapolSend (eap : List UInt8)
  | aaaSend (eap : List UInt8)
  | abortAuth
  | txKey
  | eapolEventReauthenticate
  | eapolEventSmChange
  /-- A call of the EAP server. -/
  | eapServerSmStep
  /-- A call of another module that is not made by one of the machines. -/
  | wpaReceive (frame : List UInt8)
  | wpaReauthEapol
  /-- `eapol_auth_step`, which registers a timeout. -/
  | eapolAuthStep
  /-- An EAP packet of the station is kept for the EAP server. -/
  | eapolEap (eap : List UInt8)
  /-- The station is taken to be authenticated by a key that is known. -/
  | cached
  | wrote (w : EapolWrite)

/-- What the machines do not decide. -/
structure EapolEnv where
  /-- `sta_entry_alive`. -/
  staEntryAlive : List EapolAct → Bool
  /-- What is assigned during a call; the call is the latest entry of the history. -/
  writes : List EapolAct → List EapolWrite
  /-- What `eap_server_sm_step` returns. -/
  eapStepped : List EapolAct → Bool

/-- `struct eapol_state_machine`. -/
structure EapolStateMachine where
  aWhile : Int32 := 0
  quietWhile : Int32 := 0
  reAuthWhen : Int32 := 0
  authAbort : Bool := false
  authFail : Bool := false
  authPortStatus : Option PortState := none
  authStart : Bool := false
  authTimeout : Bool := false
  authSuccess : Bool := false
  eapolEap : Bool := false
  mustInitialize : Bool := false
  keyDone : Bool := false
  keyRun : Bool := false
  keyTxEnabled : Bool
  portControl : PortTypes := .auto
  portValid : Bool
  reAuthenticate : Bool := false
  authPaeState : AuthPaeState := .initial
  eapolLogoff : Bool := false
  eapolStart : Bool := false
  /-- `none` if the structure was just allocated. -/
  portMode : Option PortTypes := none
  reAuthCount : ℕ := 0
  quietPeriod : UInt32 := 60
  reAuthMax : ℕ := 2
  beAuthState : BeAuthState := .initial
  serverTimeout : UInt32 := 30
  reauthTimerState : ReauthTimerState := .initial
  reAuthPeriod : UInt32
  reAuthEnabled : Bool
  authKeyTxState : AuthKeyTxState := .noKeyTransmit
  keyRxState : KeyRxState := .noKeyReceive
  rxKey : Bool := false
  ctrlDirState : CtrlDirState := .inOrBoth
  adminControlledDirections : ControlledDirection := .both
  operControlledDirections : ControlledDirection := .both
  operEdge : Bool := false
  counter : EapolCounter → UInt32 := fun _ => 0
  dot1xAuthLastEapolFrameVersion : UInt8 := 0
  flags : EapolSmFlags
  eapIf : EapEapolInterface := {}
  lastEapId : UInt8 := 0
  initializing : Bool := false
  remediation : Bool := false
  history : List EapolAct := []

namespace EapolStateMachine

variable (env : EapolEnv) (sm : EapolStateMachine)

/-! ## Calls of other modules -/

def count (c : EapolCounter) : EapolStateMachine :=
  { sm with counter := Function.update sm.counter c (sm.counter c + 1) }

def record (act : EapolAct) : EapolStateMachine := { sm with history := act :: sm.history }

/-- An assignment of another module. -/
def assign (w : EapolWrite) : EapolStateMachine :=
  let sm := sm.record (.wrote w)
  match w with
  | .eapResp b => { sm with eapIf := { sm.eapIf with eapResp := b } }
  | .eapRespData data => { sm with eapIf := { sm.eapIf with eapRespData := data } }
  | .portEnabled b => { sm with eapIf := { sm.eapIf with portEnabled := b } }
  | .retransWhile n => { sm with eapIf := { sm.eapIf with retransWhile := n } }
  | .eapRestart b => { sm with eapIf := { sm.eapIf with eapRestart := b } }
  | .eapReq b => { sm with eapIf := { sm.eapIf with eapReq := b } }
  | .eapNoReq b => { sm with eapIf := { sm.eapIf with eapNoReq := b } }
  | .eapSuccess b => { sm with eapIf := { sm.eapIf with eapSuccess := b } }
  | .eapFail b => { sm with eapIf := { sm.eapIf with eapFail := b } }
  | .eapTimeout b => { sm with eapIf := { sm.eapIf with eapTimeout := b } }
  | .eapReqData data => { sm with eapIf := { sm.eapIf with eapReqData := data } }
  | .eapKeyAvailable b => { sm with eapIf := { sm.eapIf with eapKeyAvailable := b } }
  | .aaaEapResp b => { sm with eapIf := { sm.eapIf with aaaEapResp := b } }
  | .aaaEapRespData data => { sm with eapIf := { sm.eapIf with aaaEapRespData := data } }
  | .portValid b => { sm with portValid := b }
  | .portControl p => { sm with portControl := p }
  | .keyRun b => { sm with keyRun := b }
  | .keyDone b => { sm with keyDone := b }
  | .authFail b => { sm with authFail := b }
  | .reAuthenticate b => { sm with reAuthenticate := b }
  | .reAuthPeriod n => { sm with reAuthPeriod := n }
  | .reAuthEnabled b => { sm with reAuthEnabled := b }
  | .quietPeriod n => { sm with quietPeriod := n }
  | .serverTimeout n => { sm with serverTimeout := n }
  | .keyTxEnabled b => { sm with keyTxEnabled := b }
  | .adminControlledDirections d => { sm with adminControlledDirections := d }
  | .preauth b => { sm with flags := { sm.flags with preauth := b } }
  | .waitStart b => { sm with flags := { sm.flags with waitStart := b } }
  | .remediation => { sm with remediation := true }
  | .eapolFramesTx => sm.count .dot1xAuthEapolFramesTx

/-- A call of another module. -/
def call (act : EapolAct) : EapolStateMachine :=
  let sm := sm.record act
  (env.writes sm.history).foldl assign sm

/-! ## Procedures -/

/-- `eapol_auth_tx_canned_eap`. -/
def eapolAuthTxCannedEap (success : Bool) : EapolStateMachine :=
  let sm := { sm with lastEapId := sm.lastEapId + 1 }
  let sm := sm.call env (.eapolSend [if success then 3 else 4, sm.lastEapId, 0, 4])
  sm.count .dot1xAuthEapolFramesTx

/-- `eapol_auth_tx_req`. -/
def eapolAuthTxReq : EapolStateMachine :=
  match sm.eapIf.eapReqData with
  | none => sm
  | some data =>
    if data.length < 4 then sm
    else if sm.flags.waitStart then sm
    else
      let sm := { sm with lastEapId := data.getD 1 0 } -- `eap_get_id`
      let sm := sm.call env (.eapolSend data)
      let sm := sm.count .dot1xAuthEapolFramesTx
      -- the type of the packet that is there now, `EAP_TYPE_NONE` if it is too short
      if ((sm.eapIf.eapReqData.getD []).getD 4 0) = (1 : UInt8) then sm.count .dot1xAuthEapolReqIdFramesTx
      else sm.count .dot1xAuthEapolReqFramesTx

/-! ## Authenticator PAE state machine -/

/-- `SM_ENTRY_MA`.  With `global` a state that is entered again is not reported. -/
def enterAuthPae (global : Bool) (s : AuthPaeState) : EapolStateMachine :=
  let sm := if !global || sm.authPaeState ≠ s then sm.record (.authPae s) else sm
  { sm with authPaeState := s }

def authPaeInitialize : EapolStateMachine :=
  let sm := sm.enterAuthPae true .initial
  { sm with
    portMode := some .auto
    keyRun := false }

def authPaeDisconnected : EapolStateMachine :=
  let fromInitialize := sm.authPaeState = .initial
  let sm :=
    if sm.eapolLogoff then
      match sm.authPaeState with
      | .connecting => sm.count .authEapLogoffsWhileConnecting
      | .authenticated => sm.count .authAuthEapLogoffWhileAuthenticated
      | _ => sm
    else sm
  let sm := sm.enterAuthPae false .disconnected
  let sm := { sm with authPortStatus := some .unauthorized }
  let sm := sm.call env (.setPortAuthorized false)
  let sm := { sm with
    reAuthCount := 0
    eapolLogoff := false }
  if fromInitialize then sm else sm.call env (.finished false sm.flags.preauth sm.remediation)

def authPaeRestart : EapolStateMachine :=
  let sm :=
    if sm.authPaeState = .authenticated then
      let sm := if sm.reAuthenticate then sm.count .authAuthReauthsWhileAuthenticated else sm
      let sm := if sm.eapolStart then sm.count .authAuthEapStartsWhileAuthenticated else sm
      if sm.eapolLogoff then sm.count .authAuthEapLogoffWhileAuthenticated else sm
    else sm
  let sm := sm.enterAuthPae false .restart
  { sm with eapIf := { sm.eapIf with eapRestart := true } }

def authPaeConnecting : EapolStateMachine :=
  let sm := if sm.authPaeState ≠ .connecting then sm.count .authEntersConnecting else sm
  let sm := sm.enterAuthPae false .connecting
  { sm with
    reAuthenticate := false
    reAuthCount := sm.reAuthCount + 1 }

def authPaeHeld : EapolStateMachine :=
  let sm := if sm.authPaeState = .authenticating ∧ sm.authFail then sm.count .authAuthFailWhileAuthenticating else sm
  let sm := sm.enterAuthPae false .held
  let sm := { sm with authPortStatus := some .unauthorized }
  let sm := sm.call env (.setPortAuthorized false)
  let sm := { sm with
    quietWhile := sm.quietPeriod.toInt32
    eapolLogoff := false }
  sm.call env (.finished false sm.flags.preauth sm.remediation)

def authPaeAuthenticated : EapolStateMachine :=
  let sm := if sm.authPaeState = .authenticating ∧ sm.authSuccess then sm.count .authAuthSuccessesWhileAuthenticating else sm
  let sm := sm.enterAuthPae false .authenticated
  let sm := { sm with authPortStatus := some .authorized }
  let sm := sm.call env (.setPortAuthorized true)
  let sm := { sm with reAuthCount := 0 }
  sm.call env (.finished true sm.flags.preauth sm.remediation)

def authPaeAuthenticating : EapolStateMachine :=
  let sm := sm.enterAuthPae false .authenticating
  { sm with
    eapolStart := false
    authSuccess := false
    authFail := false
    authTimeout := false
    authStart := true
    keyRun := false
    keyDone := false }

def authPaeAborting : EapolStateMachine :=
  let sm :=
    if sm.authPaeState = .authenticating then
      let sm := if sm.authTimeout then sm.count .authAuthTimeoutsWhileAuthenticating else sm
      let sm := if sm.eapolStart then sm.count .authAuthEapStartsWhileAuthenticating else sm
      if sm.eapolLogoff then sm.count .authAuthEapLogoffWhileAuthenticating else sm
    else sm
  let sm := sm.enterAuthPae false .aborting
  { sm with
    authAbort := true
    keyRun := false
    keyDone := false }

def authPaeForceAuth (global : Bool) : EapolStateMachine :=
  let sm := sm.enterAuthPae global .forceAuth
  let sm := { sm with authPortStatus := some .authorized }
  let sm := sm.call env (.setPortAuthorized true)
  let sm := { sm with
    portMode := some .forceAuthorized
    eapolStart := false }
  sm.eapolAuthTxCannedEap env true

def authPaeForceUnauth (global : Bool) : EapolStateMachine :=
  let sm := sm.enterAuthPae global .forceUnauth
  let sm := { sm with authPortStatus := some .unauthorized }
  let sm := sm.call env (.setPortAuthorized false)
  let sm := { sm with
    portMode := some .forceUnauthorized
    eapolStart := false }
  sm.eapolAuthTxCannedEap env false

/-- `SM_STEP(AUTH_PAE)`. -/
def authPaeStep : EapolStateMachine :=
  if (sm.portControl = .auto ∧ sm.portMode ≠ some sm.portControl) ∨ sm.mustInitialize ∨ !sm.eapIf.portEnabled then
    sm.authPaeInitialize
  else if sm.portControl = .forceAuthorized ∧ sm.portMode ≠ some sm.portControl then sm.authPaeForceAuth env true
  else if sm.portControl = .forceUnauthorized ∧ sm.portMode ≠ some sm.portControl then sm.authPaeForceUnauth env true
  else
    match sm.authPaeState with
    | .initial => sm.authPaeDisconnected env
    | .disconnected => sm.authPaeRestart
    | .restart => if !sm.eapIf.eapRestart then sm.authPaeConnecting else sm
    | .held => if sm.quietWhile = 0 then sm.authPaeRestart else sm
    | .connecting =>
      if sm.eapolLogoff ∨ sm.reAuthMax < sm.reAuthCount then sm.authPaeDisconnected env
      else if (sm.eapIf.eapReq ∧ sm.reAuthCount ≤ sm.reAuthMax) ∨ sm.eapIf.eapSuccess ∨ sm.eapIf.eapFail then
        sm.authPaeAuthenticating
      else sm
    | .authenticated =>
      if sm.eapolStart ∨ sm.reAuthenticate then sm.authPaeRestart
      else if sm.eapolLogoff ∨ !sm.portValid then sm.authPaeDisconnected env
      else sm
    | .authenticating =>
      if sm.authSuccess ∧ sm.portValid then sm.authPaeAuthenticated env
      else if sm.authFail ∨ (sm.keyDone ∧ !sm.portValid) then sm.authPaeHeld env
      else if sm.eapolStart ∨ sm.eapolLogoff ∨ sm.authTimeout then sm.authPaeAborting
      else sm
    | .aborting =>
      if sm.eapolLogoff ∧ !sm.authAbort then sm.authPaeDisconnected env
      else if !sm.eapolLogoff ∧ !sm.authAbort then sm.authPaeRestart
      else sm
    | .forceAuth => if sm.eapolStart then sm.authPaeForceAuth env false else sm
    | .forceUnauth => if sm.eapolStart then sm.authPaeForceUnauth env false else sm

/-! ## Backend Authentication state machine -/

def enterBeAuth (global : Bool) (s : BeAuthState) : EapolStateMachine :=
  let sm := if !global || sm.beAuthState ≠ s then sm.record (.beAuth s) else sm
  { sm with beAuthState := s }

def beAuthInitialize : EapolStateMachine :=
  let sm := sm.enterBeAuth true .initial
  let sm := sm.call env .abortAuth
  { sm with
    eapIf := { sm.eapIf with eapNoReq := false }
    authAbort := false }

def beAuthRequest : EapolStateMachine :=
  let sm := sm.enterBeAuth false .request
  let sm := sm.eapolAuthTxReq env
  let sm := { sm with eapIf := { sm.eapIf with eapReq := false } }
  let sm := sm.count .backendOtherRequestsToSupplicant
  { sm with eapolEap := false }

def beAuthResponse : EapolStateMachine :=
  let sm := sm.enterBeAuth false .response
  let sm := { sm with
    authTimeout := false
    eapolEap := false
    eapIf := { sm.eapIf with
      eapNoReq := false
      eapResp := true }
    aWhile := sm.serverTimeout.toInt32 }
  sm.count .backendResponses

def beAuthSuccess : EapolStateMachine :=
  let sm := sm.enterBeAuth false .success
  let sm := sm.eapolAuthTxReq env
  { sm with
    authSuccess := true
    keyRun := true }

def beAuthFail : EapolStateMachine :=
  let sm := sm.enterBeAuth false .fail
  let sm := sm.eapolAuthTxReq env
  { sm with authFail := true }

def beAuthTimeout : EapolStateMachine :=
  let sm := sm.enterBeAuth false .timeout
  { sm with authTimeout := true }

def beAuthIdle : EapolStateMachine :=
  let sm := sm.enterBeAuth false .idle
  { sm with authStart := false }

def beAuthIgnore : EapolStateMachine :=
  let sm := sm.enterBeAuth false .ignore
  { sm with eapIf := { sm.eapIf with eapNoReq := false } }

/-- `SM_STEP(BE_AUTH)`. -/
def beAuthStep : EapolStateMachine :=
  if sm.portControl ≠ .auto ∨ sm.mustInitialize ∨ sm.authAbort then sm.beAuthInitialize env
  else
    match sm.beAuthState with
    | .initial => sm.beAuthIdle
    | .request | .ignore =>
      if sm.eapolEap then sm.beAuthResponse
      else if sm.eapIf.eapReq then sm.beAuthRequest env
      else if sm.eapIf.eapTimeout then sm.beAuthTimeout
      else sm
    | .response =>
      -- `IGNORE` is left again in the same step if one of the conditions below holds
      let sm := if sm.eapIf.eapNoReq then sm.beAuthIgnore else sm
      if sm.eapIf.eapReq then (sm.count .backendAccessChallenges).beAuthRequest env
      else if sm.aWhile = 0 then sm.beAuthTimeout
      else if sm.eapIf.eapFail then (sm.count .backendAuthFails).beAuthFail env
      else if sm.eapIf.eapSuccess then (sm.count .backendAuthSuccesses).beAuthSuccess env
      else sm
    | .success | .fail | .timeout => sm.beAuthIdle
    | .idle =>
      if sm.eapIf.eapFail ∧ sm.authStart then sm.beAuthFail env
      else if sm.eapIf.eapReq ∧ sm.authStart then sm.beAuthRequest env
      else if sm.eapIf.eapSuccess ∧ sm.authStart then sm.beAuthSuccess env
      else sm

/-! ## Reauthentication Timer state machine -/

def enterReauthTimer (global : Bool) (s : ReauthTimerState) : EapolStateMachine :=
  let sm := if !global || sm.reauthTimerState ≠ s then sm.record (.reauthTimer s) else sm
  { sm with reauthTimerState := s }

def reauthTimerInitialize (global : Bool) : EapolStateMachine :=
  let sm := sm.enterReauthTimer global .initial
  { sm with reAuthWhen := sm.reAuthPeriod.toInt32 }

def reauthTimerReauthenticate : EapolStateMachine :=
  let sm := sm.enterReauthTimer false .reauthenticate
  let sm := { sm with reAuthenticate := true }
  sm.call env .eapolEventReauthenticate

/-- `SM_STEP(REAUTH_TIMER)`. -/
def reauthTimerStep : EapolStateMachine :=
  if sm.portControl ≠ .auto ∨ sm.mustInitialize ∨ sm.authPortStatus = some .unauthorized ∨ !sm.reAuthEnabled then
    sm.reauthTimerInitialize true
  else
    match sm.reauthTimerState with
    | .initial => if sm.reAuthWhen = 0 then sm.reauthTimerReauthenticate env else sm
    | .reauthenticate => sm.reauthTimerInitialize false

/-! ## Authenticator Key Transmit state machine -/

def enterAuthKeyTx (global : Bool) (s : AuthKeyTxState) : EapolStateMachine :=
  let sm := if !global || sm.authKeyTxState ≠ s then sm.record (.authKeyTx s) else sm
  { sm with authKeyTxState := s }

def authKeyTxNoKeyTransmit (global : Bool) : EapolStateMachine := sm.enterAuthKeyTx global .noKeyTransmit

def authKeyTxKeyTransmit : EapolStateMachine :=
  let sm := sm.enterAuthKeyTx false .keyTransmit
  let sm := sm.call env .txKey
  { sm with
    eapIf := { sm.eapIf with eapKeyAvailable := false }
    keyDone := true }

/-- `SM_STEP(AUTH_KEY_TX)`. -/
def authKeyTxStep : EapolStateMachine :=
  if sm.mustInitialize ∨ sm.portControl ≠ .auto then sm.authKeyTxNoKeyTransmit true
  else
    match sm.authKeyTxState with
    | .noKeyTransmit =>
      if sm.keyTxEnabled ∧ sm.eapIf.eapKeyAvailable ∧ sm.keyRun ∧ !sm.flags.usesWpa then sm.authKeyTxKeyTransmit env else sm
    | .keyTransmit =>
      if !sm.keyTxEnabled ∨ !sm.keyRun then sm.authKeyTxNoKeyTransmit false
      else if sm.eapIf.eapKeyAvailable then sm.authKeyTxKeyTransmit env
      else sm

/-! ## Key Receive state machine -/

def enterKeyRx (global : Bool) (s : KeyRxState) : EapolStateMachine :=
  let sm := if !global || sm.keyRxState ≠ s then sm.record (.keyRx s) else sm
  { sm with keyRxState := s }

def keyRxKeyReceive : EapolStateMachine :=
  let sm := sm.enterKeyRx false .keyReceive
  { sm with rxKey := false }

/-- `SM_STEP(KEY_RX)`. -/
def keyRxStep : EapolStateMachine :=
  if sm.mustInitialize ∨ !sm.eapIf.portEnabled then sm.enterKeyRx true .noKeyReceive
  else if sm.rxKey then sm.keyRxKeyReceive
  else sm

/-! ## Controlled Directions state machine -/

def enterCtrlDir (global : Bool) (s : CtrlDirState) : EapolStateMachine :=
  let sm := if !global || sm.ctrlDirState ≠ s then sm.record (.ctrlDir s) else sm
  { sm with ctrlDirState := s }

def ctrlDirForceBoth : EapolStateMachine :=
  let sm := sm.enterCtrlDir false .forceBoth
  { sm with operControlledDirections := .both }

def ctrlDirInOrBoth (global : Bool) : EapolStateMachine :=
  let sm := sm.enterCtrlDir global .inOrBoth
  { sm with operControlledDirections := sm.adminControlledDirections }

/-- `SM_STEP(CTRL_DIR)`. -/
def ctrlDirStep : EapolStateMachine :=
  if sm.mustInitialize then sm.ctrlDirInOrBoth true
  else
    match sm.ctrlDirState with
    | .forceBoth => if sm.eapIf.portEnabled ∧ sm.operEdge then sm.ctrlDirInOrBoth false else sm
    | .inOrBoth =>
      let sm :=
        if sm.operControlledDirections ≠ sm.adminControlledDirections then sm.ctrlDirInOrBoth false else sm
      if !sm.eapIf.portEnabled ∨ !sm.operEdge then sm.ctrlDirForceBoth else sm

/-! ## All machines -/

/-- The six states. -/
def states : AuthPaeState × BeAuthState × ReauthTimerState × AuthKeyTxState × KeyRxState × CtrlDirState :=
  (sm.authPaeState, sm.beAuthState, sm.reauthTimerState, sm.authKeyTxState, sm.keyRxState, sm.ctrlDirState)

/-- A machine is stepped only if the station is still there. -/
def ifAlive (step : EapolStateMachine → EapolStateMachine) : EapolStateMachine :=
  if sm.initializing ∨ env.staEntryAlive sm.history then step sm else sm

/-- One turn of the loop: each machine is stepped once. -/
def stepAll : EapolStateMachine :=
  let sm := sm.authPaeStep env
  let sm := sm.ifAlive env (beAuthStep env)
  let sm := sm.ifAlive env (reauthTimerStep env)
  let sm := sm.ifAlive env (authKeyTxStep env)
  let sm := sm.ifAlive env keyRxStep
  sm.ifAlive env ctrlDirStep

/-- `eapol_auth_step`. -/
def eapolAuthStep : EapolStateMachine := sm.record .eapolAuthStep

/-- What is done when the EAP server has nothing to do either; `none` if the function returns without the event. -/
def aaaSend : Option EapolStateMachine :=
  if sm.eapIf.aaaEapResp then
    let sm := { sm with eapIf := { sm.eapIf with aaaEapResp := false } }
    match sm.eapIf.aaaEapRespData with
    | none => none
    | some data => some (sm.call env (.aaaSend data))
  else some sm

/-- The end of `eapol_sm_step_run`. -/
def notifyChange : EapolStateMachine :=
  if env.staEntryAlive sm.history then sm.call env .eapolEventSmChange else sm

/-- The loop of `eapol_sm_step_run`, with `max_steps` turns left. -/
def stepLoop : ℕ → EapolStateMachine → EapolStateMachine
  | 0, sm => sm
  | maxSteps + 1, sm =>
    let again (sm : EapolStateMachine) :=
      if 0 < maxSteps then stepLoop maxSteps sm else sm.eapolAuthStep
    let prev := sm.states
    let sm := sm.stepAll env
    if prev ≠ sm.states then again sm
    else if env.staEntryAlive sm.history then
      let sm := sm.call env .eapServerSmStep
      if env.eapStepped sm.history then again sm
      else
        match sm.aaaSend env with
        | some sm => sm.notifyChange env
        | none => { sm with eapIf := { sm.eapIf with aaaEapResp := false } }
    else sm.notifyChange env

/-- `eapol_sm_step_run`. -/
def eapolSmStepRun : EapolStateMachine := stepLoop env 100 sm

/-! ## Events -/

/-- A timer that is positive is decremented. -/
def tick (n : Int32) : Int32 := if 0 < n then n - 1 else n

/-- `eapol_port_timers_tick`. -/
def eapolPortTimersTick : EapolStateMachine :=
  let sm := { sm with
    aWhile := tick sm.aWhile
    quietWhile := tick sm.quietWhile
    reAuthWhen := tick sm.reAuthWhen
    eapIf := { sm.eapIf with retransWhile := tick sm.eapIf.retransWhile } }
  sm.eapolSmStepRun env

/-- `eapol_auth_initialize`. -/
def eapolAuthInitialize : EapolStateMachine :=
  let sm := { sm with
    initializing := true
    mustInitialize := true }
  let sm := sm.eapolSmStepRun env
  let sm := { sm with mustInitialize := false }
  let sm := sm.eapolSmStepRun env
  { sm with initializing := false }

/-- `handle_eap_response`. -/
def handleEapResponse (eap : List UInt8) : EapolStateMachine :=
  if eap.length < 5 then sm
  else
    let sm := sm.count .dot1xAuthEapolRespFramesRx
    let sm := sm.record (.eapolEap eap)
    { sm with
      eapIf := { sm.eapIf with eapRespData := some eap }
      eapolEap := true }

/-- `handle_eap_initiate`. -/
def handleEapInitiate (eap : List UInt8) : EapolStateMachine :=
  if eap.length < 5 then sm
  else
    let sm := sm.record (.eapolEap eap)
    { sm with
      eapIf := { sm.eapIf with eapRespData := some eap }
      eapolEap := true }

/-- `handle_eap`. -/
def handleEap (buf : List UInt8) : EapolStateMachine :=
  if buf.length < 4 then sm
  else
    let eapLen := (buf.getD 2 0).toNat * 256 + (buf.getD 3 0).toNat
    if eapLen < 4 then sm
    else if buf.length < eapLen then sm
    else if buf.getD 0 0 = 2 then sm.handleEapResponse (buf.take eapLen)
    else if buf.getD 0 0 = 5 then sm.handleEapInitiate (buf.take eapLen)
    else sm

end EapolStateMachine

/-- What `ieee802_1x_receive` reads of the interface and of the station. -/
structure EapolRxContext where
  ieee8021x : Bool
  wpa : Bool
  osen : Bool
  wpsState : Bool
  /-- The station is associated or preauthenticates, or the interface is wired. -/
  associated : Bool
  /-- `WLAN_STA_WPS | WLAN_STA_MAYBE_WPS`. -/
  staWps : Bool
  /-- The station has a key management with a PSK. -/
  wpaPsk : Bool

namespace EapolStateMachine

variable (env : EapolEnv) (sm : EapolStateMachine)

/-- The `switch` of `ieee802_1x_receive`, for a frame of this type with this body. -/
def receiveType (type : UInt8) (body : List UInt8) : EapolStateMachine :=
  if type = 0 then sm.handleEap body
  else if type = 1 then
    let sm := { sm with
      flags := { sm.flags with waitStart := false }
      eapolStart := true }
    let sm := sm.count .dot1xAuthEapolStartFramesRx
    sm.call env .wpaReauthEapol
  else if type = 2 then
    let sm := { sm with eapolLogoff := true }
    sm.count .dot1xAuthEapolLogoffFramesRx
  else if type = 3 ∨ type = 4 then sm
  else sm.count .dot1xAuthInvalidEapolFramesRx

/-- `ieee802_1x_receive`, if the station has a machine. -/
def receive (rx : EapolRxContext) (buf : List UInt8) : EapolStateMachine :=
  if !rx.ieee8021x ∧ !rx.wpa ∧ !rx.osen ∧ !rx.wpsState then sm
  else if !rx.associated then sm
  else if buf.length < 4 then sm
  else
    let datalen := (buf.getD 2 0).toNat * 256 + (buf.getD 3 0).toNat
    if buf.length - 4 < datalen then sm.count .dot1xAuthEapLengthErrorFramesRx
    else
      let sm := { sm with dot1xAuthLastEapolFrameVersion := buf.getD 0 0 }
      let sm := sm.count .dot1xAuthEapolFramesRx
      -- a key frame of type `EAPOL_KEY_TYPE_WPA` or `EAPOL_KEY_TYPE_RSN`
      if 44 ≤ datalen ∧ buf.getD 1 0 = 3 ∧ (buf.getD 4 0 = 254 ∨ buf.getD 4 0 = 2) then
        sm.call env (.wpaReceive (buf.take (4 + datalen)))
      else if !rx.ieee8021x ∧ !rx.osen ∧ !rx.staWps then sm
      else if rx.wpaPsk then sm
      else (sm.receiveType env (buf.getD 1 0) ((buf.drop 4).take datalen)).eapolAuthStep

/-- A key of the station is known: the machines are set to where its authentication ends. -/
def setCached (ft : Bool) : EapolStateMachine :=
  let sm := sm.record .cached
  { sm with
    keyRun := true
    eapIf := { sm.eapIf with eapKeyAvailable := true }
    authPaeState := .authenticating
    beAuthState := .success
    authSuccess := true
    authFail := false
    portValid := ft || sm.portValid }

/-- The rest of `ieee802_1x_new_station` once there is a machine; `known` says if a key is known, and if it is one of FT. -/
def newStation (waitStart : Bool) (known : Option Bool) (reassoc : Bool) : EapolStateMachine :=
  let sm := { sm with
    flags := { sm.flags with waitStart := waitStart }
    eapIf := { sm.eapIf with portEnabled := true } }
  match known with
  | some ft => sm.setCached ft
  | none =>
    let sm := if reassoc then { sm with reAuthenticate := true } else sm
    sm.eapolAuthStep

end EapolStateMachine

/-- The members of `struct eapol_auth_config` that a new machine is made from. -/
structure EapolAuthConfig where
  wpa : Bool
  defaultWepKey : Bool
  individualWepKeyLen : ℕ
  eapReauthPeriod : Int32

/-- What `eapol_auth_alloc` allocates. -/
def eapolAuthAlloc (conf : EapolAuthConfig) (flags : EapolSmFlags) : EapolStateMachine where
  keyTxEnabled := !conf.wpa && (conf.defaultWepKey || 0 < conf.individualWepKeyLen)
  portValid := !conf.wpa
  reAuthPeriod := conf.eapReauthPeriod.toUInt32
  reAuthEnabled := 0 < conf.eapReauthPeriod
  flags := flags

/-- What happens to a machine. -/
inductive EapolEvent
  | initialized
  /-- The timeout of `eapol_auth_step`. -/
  | stepped
  | ticked
  | received (rx : EapolRxContext) (buf : List UInt8)
  | associated (waitStart : Bool) (known : Option Bool) (reassoc : Bool)
  /-- Another module assigns to a variable. -/
  | wrote (w : EapolWrite)

/-- The next state of a machine. -/
def eapolNext (env : EapolEnv) (sm : EapolStateMachine) : EapolEvent → Option EapolStateMachine
  | .initialized => some (sm.eapolAuthInitialize env)
  | .stepped => some (sm.eapolSmStepRun env)
  | .ticked => some (sm.eapolPortTimersTick env)
  | .received rx buf => some (sm.receive env rx buf)
  | .associated waitStart known reassoc => some (sm.newStation waitStart known reassoc)
  | .wrote w => some (sm.assign w)

end Ethanol
