import EthanolHostapd.Eap.Erp
import EthanolHostapd.Traces.Run
import EthanolHostapd.Utils.Common

/-!
# The EAP server state machine

The full authenticator state machine of `eap_server/eap_server.c`, with the policy functions.  `SM_STEP`
enters at most one state, two where a method has no request; `eap_server_sm_step` runs it as long as the state
changes.

The methods are what is registered in `eap_methods`: their functions may look at and write what methods use of
`struct eap_sm`, and depend on a world outside (the user database, random numbers, the answers of external
databases) that may change whenever the machine waits.
-/

namespace Ethanol

open Wire

/-- `EAP_TYPE_NONE`. -/
def eapTypeNone : ℕ := 0

/-- `EAP_TYPE_IDENTITY`. -/
def eapTypeIdentity : ℕ := 1

/-- `EAP_TYPE_NOTIFICATION`. -/
def eapTypeNotification : ℕ := 2

/-- `EAP_TYPE_NAK`. -/
def eapTypeNak : ℕ := 3

/-- `EAP_CODE_SUCCESS`. -/
def eapCodeSuccess : UInt8 := 3

/-- `EAP_CODE_FAILURE`. -/
def eapCodeFailure : UInt8 := 4

/-- `EAP_MAX_METHODS`. -/
def eapMaxMethods : ℕ := 8

/-- `EAP_MAX_AUTH_ROUNDS`. -/
def eapMaxAuthRounds : ℕ := 50

/-- `EAP_state`. -/
inductive EapState
  | disabled | initializing | idle | received | integrityCheck | methodResponse | methodRequest | proposeMethod
  | selectAction | sendRequest | discard | nak | retransmit | success | failure | timeoutFailure | pickUpMethod
  | initializePassthrough | idle2 | retransmit2 | received2 | discard2 | sendRequest2 | aaaRequest | aaaResponse
  | aaaIdle | timeoutFailure2 | failure2 | success2 | initiateReauthStart | initiateReceived
  deriving DecidableEq

/-- `methodState`. -/
inductive EapMethodState
  | methodProposed | methodContinue | methodEnd
  deriving DecidableEq

/-- `decision`. -/
inductive EapDecision
  | decisionSuccess | decisionFailure | decisionContinue | decisionPassthrough | decisionInitiateReauthStart
  deriving DecidableEq

/-- `method_pending`. -/
inductive EapMethodPending
  | methodPendingNone | methodPendingWait | methodPendingCont
  deriving DecidableEq

/-- A vendor and a type, as in `methods` of `struct eap_user`. -/
abbrev EapMethodType : Type := ℕ × ℕ

/-- `struct eap_user`, as far as the machine uses it. -/
structure EapUser where
  methods : List EapMethodType
  length_methods : methods.length = eapMaxMethods
  phase2 : Bool

/-- What methods use of `struct eap_sm`, and the world outside. -/
structure MethodSm (World : Type) where
  identity : Option Bytes
  user : Option EapUser
  userEapMethodIndex : ℕ
  updateUser : Bool
  methodPending : EapMethodPending
  maxRetrans : ℤ
  world : World

/-- `struct eap_method`.  A function that a method need not have is an option.  A method that is initialised
writes `method_pending` at most, and nothing if that fails. -/
structure EapMethod (Priv World : Type) where
  vendor : ℕ
  method : ℕ
  init : MethodSm World → Option (Priv × EapMethodPending) × World
  initPickUp : Option (MethodSm World → Option (Priv × EapMethodPending) × World)
  buildReq : MethodSm World → Priv → UInt8 → Option Bytes × Priv × World
  getTimeout : Option (MethodSm World → Priv → ℤ × ℤ)
  check : Option (MethodSm World → Priv → Bytes → Bool)
  process : MethodSm World → Priv → Bytes → Priv × MethodSm World
  isDone : Priv → Bool
  isSuccess : Priv → Bool

/-- The Identity method. -/
def EapMethod.IsIdentity {Priv World : Type} (m : EapMethod Priv World) : Prop :=
  m.vendor = eapVendorIetf ∧ m.method = eapTypeIdentity

/-- What does not change: `struct eap_config`, the callbacks and the registered methods. -/
structure EapConf (Priv World : Type) where
  eapMethods : List (EapMethod Priv World)
  backendAuth : Bool
  eapServer : Bool
  erp : Bool
  getEapUser : World → Bytes → Bool → Option EapUser
  erpSendReauthStart : Bool
  erpDomain : Option Bytes
  erpGetKey : World → Bytes → Option EapServerErpKey
  erpSetKey : World → Bytes → EapServerErpKey → World
  hmacSha256 : Bytes → Bytes → Bytes
  rand : World → UInt8 × World
  /-- The callbacks set `phase2` to their argument. -/
  phase2_getEapUser : ∀ world identity phase2 user, getEapUser world identity phase2 = some user → user.phase2 = phase2

/-- `struct eap_eapol_interface`, without the keys. -/
structure EapIf where
  eapResp : Bool
  eapRespData : Option Bytes
  portEnabled : Bool
  retransWhile : ℤ
  eapRestart : Bool
  eapReq : Bool
  eapNoReq : Bool
  eapSuccess : Bool
  eapFail : Bool
  eapTimeout : Bool
  eapReqData : Option Bytes
  aaaEapReq : Bool
  aaaEapNoReq : Bool
  aaaSuccess : Bool
  aaaFail : Bool
  aaaEapReqData : Option Bytes
  aaaMethodTimeout : ℤ
  aaaEapResp : Bool
  aaaEapRespData : Option Bytes
  aaaTimeout : Bool

/-- What the machine did that statements about it speak of. -/
inductive EapAct (Priv World : Type)
  /-- A function of the current method is called; whether there is a method with its data. -/
  | methodCall (present : Bool)
  /-- `INITIALIZE` was entered. -/
  | initialized
  /-- The user was found, with these methods. -/
  | lookup (methods : List EapMethodType)
  /-- The entry at that index of the list was proposed; whether the method was re-entered after waiting. -/
  | propose (again : Bool) (index : ℕ) (method : EapMethodType)
  /-- A Nak was received, with its list if it is a legacy one. -/
  | nak (list : Option Bytes)
  /-- `SUCCESS` was entered, with that method and its data. -/
  | success (m : Option (EapMethod Priv World)) (priv : Option Priv)
  /-- `SUCCESS2` was entered. -/
  | success2 (aaaSuccess : Bool)
  /-- An EAP-Initiate/Re-auth was verified. -/
  | erpSuccess

/-- `struct eap_sm`. -/
structure EapSm (Priv World : Type) extends MethodSm World where
  state : EapState
  eapIf : EapIf
  currentMethod : ℕ
  currentId : ℤ
  methodState : EapMethodState
  retransCount : ℕ
  lastReqData : Option Bytes
  methodTimeout : ℤ
  rxResp : Bool
  rxInitiate : Bool
  respId : ℤ
  respMethod : ℕ
  respVendor : ℕ
  respVendorMethod : ℕ
  ignore : Bool
  decision : EapDecision
  m : Option (EapMethod Priv World)
  changed : Bool
  eapMethodPriv : Option Priv
  lastId : ℤ
  numRounds : ℕ
  startReauth : Bool
  initiateReauthStartSent : Bool
  tryInitiateReauth : Bool
  /-- What the machine did so far. -/
  history : List (EapAct Priv World)

/-- `struct eap_eapol_interface` when it is allocated. -/
def EapIf.zero : EapIf where
  eapResp := false
  eapRespData := none
  portEnabled := false
  retransWhile := 0
  eapRestart := false
  eapReq := false
  eapNoReq := false
  eapSuccess := false
  eapFail := false
  eapTimeout := false
  eapReqData := none
  aaaEapReq := false
  aaaEapNoReq := false
  aaaSuccess := false
  aaaFail := false
  aaaEapReqData := none
  aaaMethodTimeout := 0
  aaaEapResp := false
  aaaEapRespData := none
  aaaTimeout := false

namespace EapSm

variable {Priv World : Type} (conf : EapConf Priv World) (sm : EapSm Priv World)

/-- `eap_server_sm_init`. -/
def eapServerSmInit (world : World) : EapSm Priv World where
  identity := none
  user := none
  userEapMethodIndex := 0
  updateUser := false
  methodPending := .methodPendingNone
  maxRetrans := 5
  world := world
  state := .disabled
  eapIf := .zero
  currentMethod := eapTypeNone
  currentId := 0
  methodState := .methodProposed
  retransCount := 0
  lastReqData := none
  methodTimeout := 0
  rxResp := false
  rxInitiate := false
  respId := 0
  respMethod := eapTypeNone
  respVendor := eapVendorIetf
  respVendorMethod := eapTypeNone
  ignore := false
  decision := .decisionSuccess
  m := none
  changed := false
  eapMethodPriv := none
  lastId := 0
  numRounds := 0
  startReauth := false
  initiateReauthStartSent := false
  tryInitiateReauth := false
  history := []

/-! ## Parsing and building messages -/

/-- `eap_sm_parseEapResp`. -/
def parseEapResp (resp : Option Bytes) : EapSm Priv World :=
  let sm := { sm with
    rxResp := false, rxInitiate := false, respId := -1, respMethod := eapTypeNone, respVendor := eapVendorIetf,
    respVendorMethod := eapTypeNone }
  match resp with
  | none => sm
  | some resp =>
    if resp.length < 4 then sm
    else
      let plen := eapHdrLength resp
      if plen > resp.length then sm
      else
        let code := resp.getD 0 0
        let sm := { sm with
          respId := (resp.getD 1 0).toNat
          rxResp := code = eapCodeResponse
          rxInitiate := code ≠ eapCodeResponse ∧ code = eapCodeInitiate }
        if plen > 4 then
          let sm := { sm with respMethod := (resp.getD 4 0).toNat }
          if sm.respMethod = eapTypeExpanded.toNat then
            if plen < 4 + 8 then sm
            else { sm with
              respVendor := beNat ((resp.drop 5).take 3)
              respVendorMethod := beNat ((resp.drop 8).take 4) }
          else sm
        else sm

/-- `eap_sm_getId`. -/
def getId : Option Bytes → ℤ
  | none => -1
  | some data => if data.length < 4 then -1 else (data.getD 1 0).toNat

/-- `eap_sm_buildSuccess`. -/
def buildSuccess (id : ℤ) : Bytes := [eapCodeSuccess, UInt8.ofInt id, 0, 4]

/-- `eap_sm_buildFailure`. -/
def buildFailure (id : ℤ) : Bytes := [eapCodeFailure, UInt8.ofInt id, 0, 4]

/-- `eap_sm_nextId`, and the world after the random number. -/
def nextId (id : ℤ) : ℤ × World :=
  if id < 0 then
    let (r, world) := conf.rand sm.world
    if (r.toNat : ℤ) ≠ sm.lastId then (r.toNat, world) else ((r.toNat + 1) % 256, world)
  else ((id + 1) % 256, sm.world)

/-- The loop of `eap_sm_calculateTimeout`. -/
def rtoLoop : ℕ → ℤ → ℤ
  | 0, rto => rto
  | retransCount + 1, rto => if rto * 2 ≥ 20 then 20 else rtoLoop retransCount (rto * 2)

/-- `eap_sm_calculateTimeout`. -/
def calculateTimeout : ℤ :=
  if sm.tryInitiateReauth then 1
  else if sm.methodTimeout ≠ 0 then sm.methodTimeout
  else rtoLoop sm.retransCount 3

/-- `eap_server_get_eap_method`. -/
def eapServerGetEapMethod (vendor method : ℕ) : Option (EapMethod Priv World) :=
  conf.eapMethods.find? fun m => m.vendor = vendor ∧ m.method = method

/-- `eap_hdr_len_valid (sm->eap_if.eapRespData, 1)`. -/
def respLenValid : Bool := sm.eapIf.eapRespData.any fun resp => eapHdrLenValid resp 1

/-- The response is a Nak. -/
def respIsNak : Bool :=
  sm.respMethod = eapTypeNak ||
    (sm.respMethod = eapTypeExpanded.toNat && sm.respVendor = eapVendorIetf && sm.respVendorMethod = eapTypeNak)

/-- The response has the type of the current method. -/
def respIsCurrentMethod : Bool :=
  sm.respMethod = sm.currentMethod ||
    (sm.respMethod = eapTypeExpanded.toNat && sm.respVendor = eapVendorIetf &&
      sm.respVendorMethod = sm.currentMethod)

/-! ## Policy -/

/-- There is an entry of the list at the index. -/
def methodAvailable : Bool :=
  sm.user.any fun user =>
    sm.userEapMethodIndex < eapMaxMethods && user.methods.getD sm.userEapMethodIndex (0, 0) ≠ (eapVendorIetf, eapTypeNone)

/-- The loop of `eap_sm_process_nak` at the index `i`. -/
def processNakLoop (nakList : Bytes) : ℕ → ℕ → List EapMethodType → List EapMethodType
  | 0, _, methods => methods
  | fuel + 1, i, methods =>
    if i < eapMaxMethods ∧ methods.getD i (0, 0) ≠ (eapVendorIetf, eapTypeNone) then
      if (methods.getD i (0, 0)).1 = eapVendorIetf ∧ ∃ b ∈ nakList, b.toNat = (methods.getD i (0, 0)).2 then
        processNakLoop nakList fuel (i + 1) methods
      else processNakLoop nakList fuel i (methods.eraseIdx i ++ [(eapVendorIetf, eapTypeNone)])
    else methods

lemma length_processNakLoop (nakList : Bytes) (fuel i : ℕ) (methods : List EapMethodType)
    (h : methods.length = eapMaxMethods) : (processNakLoop nakList fuel i methods).length = eapMaxMethods := by
  induction fuel generalizing i methods with
  | zero => exact h
  | succ fuel ih =>
    rw [processNakLoop]
    split_ifs with hi hfound
    · exact ih _ _ h
    · apply ih
      rw [List.length_append, List.length_eraseIdx, if_pos (by omega), List.length_singleton]
      omega
    · exact h

/-- `eap_sm_process_nak`.  Each round of the loop is one entry of the list. -/
def processNak (user : EapUser) (index : ℕ) (nakList : Bytes) : EapUser where
  methods := processNakLoop nakList eapMaxMethods index user.methods
  length_methods := length_processNakLoop nakList _ _ _ user.length_methods
  phase2 := user.phase2

/-- `eap_sm_Policy_update`. -/
def policyUpdate (nakList : Option Bytes) : EapSm Priv World :=
  match nakList, sm.user with
  | some nakList, some user =>
    if user.phase2 then { sm with decision := .decisionFailure }
    else { sm with user := some (processNak user sm.userEapMethodIndex nakList) }
  | _, _ => sm

/-- `eap_sm_Policy_getNextMethod`, and the index if the method is from the list. -/
def policyGetNextMethod : EapMethodType × Option ℕ × EapSm Priv World :=
  if sm.identity.isNone || sm.currentId = -1 then
    ((eapVendorIetf, eapTypeIdentity), none, { sm with updateUser := true })
  else if sm.methodAvailable then
    ((sm.user.map fun user => user.methods.getD sm.userEapMethodIndex (0, 0)).getD (0, 0), some sm.userEapMethodIndex,
      { sm with userEapMethodIndex := sm.userEapMethodIndex + 1 })
  else ((eapVendorIetf, eapTypeNone), none, sm)

/-- The first entry of the list of the user is Identity. -/
def userStartsWithIdentity : Bool :=
  sm.user.any fun user => user.methods.getD 0 (0, 0) = (eapVendorIetf, eapTypeIdentity)

/-- `eap_user_get` for phase 1, with the identity of the peer: whether the user was found. -/
def eapUserGet (identity : Bytes) : Bool × EapSm Priv World :=
  match conf.getEapUser sm.world identity false with
  | none => (false, { sm with user := none })
  | some user =>
    (true, { sm with
      user := some user
      userEapMethodIndex := 0
      history := sm.history ++ [.lookup user.methods] })

/-- `eap_sm_Policy_getDecision` after the user is known. -/
def policyGetDecisionUser : EapDecision × EapSm Priv World :=
  let sm := { sm with startReauth := false }
  if sm.methodAvailable then (.decisionContinue, sm)
  else if sm.identity.isNone && conf.erpSendReauthStart && !sm.initiateReauthStartSent then
    (.decisionInitiateReauthStart, sm)
  else if sm.identity.isNone || sm.currentId = -1 then (.decisionContinue, sm)
  else (.decisionFailure, sm)

/-- `eap_sm_Policy_getDecision`. -/
def policyGetDecision : EapDecision × EapSm Priv World :=
  if !conf.eapServer && sm.identity.isSome && !sm.startReauth then (.decisionPassthrough, sm)
  else if sm.m.any fun m => sm.currentMethod ≠ eapTypeIdentity && sm.eapMethodPriv.any m.isSuccess then
    (.decisionSuccess, { sm with updateUser := true })
  else if sm.m.any fun m => sm.eapMethodPriv.any fun priv => m.isDone priv && !m.isSuccess priv then
    (.decisionFailure, { sm with updateUser := true })
  else
    match sm.identity with
    | some identity =>
      if (sm.user.isNone || sm.updateUser) && !sm.startReauth then
        let idReq := sm.currentMethod = eapTypeIdentity && sm.userStartsWithIdentity
        match sm.eapUserGet conf identity with
        | (false, sm) => (.decisionFailure, sm)
        | (true, sm) =>
          if idReq && sm.userStartsWithIdentity then (.decisionFailure, { sm with updateUser := true })
          else policyGetDecisionUser conf { sm with updateUser := false }
      else policyGetDecisionUser conf sm
    | none => policyGetDecisionUser conf sm

/-- `eap_sm_Policy_doPickUp`. -/
def policyDoPickUp (method : ℕ) : Bool := method = eapTypeIdentity

/-- `eap_server_clear_identity`. -/
def eapServerClearIdentity : EapSm Priv World := { sm with identity := none }

/-- `eap_sm_pending_cb`. -/
def eapSmPendingCb : EapSm Priv World :=
  if sm.methodPending = .methodPendingWait then { sm with methodPending := .methodPendingCont } else sm

/-! ## States -/

/-- `SM_ENTRY`. -/
def smEntry (state : EapState) (global : Bool) : EapSm Priv World :=
  { sm with changed := sm.changed || !global || sm.state ≠ state, state := state }

/-- `eap_copy_buf`. -/
def eapCopyBuf (dst src : Option Bytes) : Option Bytes := src <|> dst

/-- `SM_STATE (EAP, DISABLED)`. -/
def smDisabled (global : Bool) : EapSm Priv World :=
  { sm.smEntry .disabled global with numRounds := 0 }

/-- `SM_STATE (EAP, INITIALIZE)`. -/
def smInitialize (global : Bool) : EapSm Priv World :=
  let sm := sm.smEntry .initializing global
  let sm := if sm.eapIf.eapRestart && !conf.eapServer && sm.identity.isSome then sm.eapServerClearIdentity else sm
  let sm := { sm with
    tryInitiateReauth := false
    currentId := -1
    eapIf := { sm.eapIf with eapSuccess := false, eapFail := false, eapTimeout := false, eapRestart := false }
    eapMethodPriv := if sm.m.isSome then none else sm.eapMethodPriv
    m := none
    userEapMethodIndex := 0 }
  let sm :=
    if conf.backendAuth then
      let sm := { sm with currentMethod := eapTypeNone }.parseEapResp sm.eapIf.eapRespData
      if sm.rxResp then { sm with currentId := sm.respId } else sm
    else sm
  { sm with numRounds := 0, methodPending := .methodPendingNone, history := sm.history ++ [.initialized] }

/-- `SM_STATE (EAP, PICK_UP_METHOD)`. -/
def smPickUpMethod : EapSm Priv World :=
  let sm := sm.smEntry .pickUpMethod false
  if policyDoPickUp sm.respMethod then
    let sm := { sm with
      currentMethod := sm.respMethod
      eapMethodPriv := if sm.m.isSome then none else sm.eapMethodPriv
      m := eapServerGetEapMethod conf eapVendorIetf sm.respMethod }
    match sm.m.bind EapMethod.initPickUp with
    | some initPickUp =>
      match initPickUp sm.toMethodSm with
      | (some (priv, methodPending), world) =>
        { sm with eapMethodPriv := some priv, methodPending := methodPending, world := world }
      | (none, world) =>
        { sm with eapMethodPriv := none, world := world, m := none, currentMethod := eapTypeNone }
    | none => { sm with m := none, currentMethod := eapTypeNone }
  else sm

/-- `SM_STATE (EAP, IDLE)`. -/
def smIdle : EapSm Priv World :=
  let sm := sm.smEntry .idle false
  { sm with eapIf := { sm.eapIf with retransWhile := sm.calculateTimeout } }

/-- The body of `RETRANSMIT` and of `RETRANSMIT2`. -/
def retransmitBody : EapSm Priv World :=
  let sm := { sm with retransCount := sm.retransCount + 1 }
  if (sm.retransCount : ℤ) ≤ sm.maxRetrans ∧ sm.lastReqData.isSome then
    { sm with eapIf := { sm.eapIf with eapReqData := eapCopyBuf sm.eapIf.eapReqData sm.lastReqData, eapReq := true } }
  else sm

/-- `SM_STATE (EAP, RETRANSMIT)`. -/
def smRetransmit : EapSm Priv World := (sm.smEntry .retransmit false).retransmitBody

/-- `SM_STATE (EAP, RECEIVED)`. -/
def smReceived : EapSm Priv World :=
  let sm := sm.smEntry .received false
  let sm := sm.parseEapResp sm.eapIf.eapRespData
  { sm with numRounds := sm.numRounds + 1 }

/-- `SM_STATE (EAP, DISCARD)`. -/
def smDiscard : EapSm Priv World :=
  let sm := sm.smEntry .discard false
  { sm with eapIf := { sm.eapIf with eapResp := false, eapNoReq := true } }

/-- The body of `SEND_REQUEST` and of `SEND_REQUEST2`. -/
def sendRequestBody : EapSm Priv World :=
  let sm := { sm with retransCount := 0 }
  if sm.eapIf.eapReqData.isSome then
    { sm with
      lastReqData := eapCopyBuf sm.lastReqData sm.eapIf.eapReqData
      eapIf := { sm.eapIf with eapResp := false, eapReq := true } }
  else { sm with eapIf := { sm.eapIf with eapResp := false, eapReq := false, eapNoReq := true } }

/-- `SM_STATE (EAP, SEND_REQUEST)`. -/
def smSendRequest : EapSm Priv World := (sm.smEntry .sendRequest false).sendRequestBody

/-- The call of a function of the current method is recorded. -/
def callMethod : EapSm Priv World :=
  { sm with history := sm.history ++ [.methodCall (sm.m.isSome && sm.eapMethodPriv.isSome)] }

/-- `SM_STATE (EAP, INTEGRITY_CHECK)`. -/
def smIntegrityCheck : EapSm Priv World :=
  let sm := sm.smEntry .integrityCheck false
  if !sm.respLenValid then { sm with ignore := true }
  else
    let sm := sm.callMethod
    match sm.m, sm.eapMethodPriv, sm.eapIf.eapRespData with
    | some m, some priv, some respData =>
      match m.check with
      | some check => { sm with ignore := check sm.toMethodSm priv respData }
      | none => sm
    | _, _, _ => sm

/-- `SM_STATE (EAP, METHOD_REQUEST)`. -/
def smMethodRequest : EapSm Priv World :=
  let sm := sm.smEntry .methodRequest false
  match sm.m, sm.eapMethodPriv with
  | some m, some priv =>
    let (id, world) := sm.nextId conf sm.currentId
    let sm := { sm with currentId := id, lastId := id, world := world }
    let (reqData, priv, world) := m.buildReq sm.toMethodSm priv (UInt8.ofInt id)
    let sm := { sm with eapIf := { sm.eapIf with eapReqData := reqData }, eapMethodPriv := some priv, world := world }
    match m.getTimeout with
    | some getTimeout =>
      let (methodTimeout, maxRetrans) := getTimeout sm.toMethodSm priv
      { sm with methodTimeout := methodTimeout, maxRetrans := maxRetrans }
    | none => { sm with methodTimeout := 0 }
  | _, _ => sm

/-- `SM_STATE (EAP, METHOD_RESPONSE)`. -/
def smMethodResponse : EapSm Priv World :=
  let sm := sm.smEntry .methodResponse false
  if !sm.respLenValid then sm
  else
    let sm := sm.callMethod
    match sm.m, sm.eapMethodPriv, sm.eapIf.eapRespData with
    | some m, some priv, some respData =>
      let (priv, methodSm) := m.process sm.toMethodSm priv respData
      { sm with
        toMethodSm := methodSm
        eapMethodPriv := some priv
        methodState := if m.isDone priv then .methodEnd else .methodContinue }
    | _, _, _ => sm

/-- The state after a method has been initialised in `PROPOSE_METHOD`. -/
def proposed (m : EapMethod Priv World) (priv : Priv) (again : Bool) (taken : Option ℕ) (method : EapMethodType) :
    EapSm Priv World :=
  { sm with
    m := some m
    eapMethodPriv := some priv
    methodState :=
      if sm.currentMethod = eapTypeIdentity ∨ sm.currentMethod = eapTypeNotification then .methodContinue
      else .methodProposed
    history := sm.history ++ (taken.map fun index => .propose again index method).toList }

/-- The loop of `PROPOSE_METHOD` from `try_another_method` on.  A method of the list is tried at most once; if the
Identity method cannot be initialised, the loop does not end. -/
def proposeLoop (again : Bool) : ℕ → EapSm Priv World → Option (EapSm Priv World)
  | 0, _ => none
  | fuel + 1, sm =>
    let (method, taken, sm) := sm.policyGetNextMethod
    let sm := { sm with
      currentMethod := if method.1 = eapVendorIetf then method.2 else eapTypeExpanded.toNat
      eapMethodPriv := if sm.m.isSome then none else sm.eapMethodPriv
      m := eapServerGetEapMethod conf method.1 method.2 }
    match sm.m with
    | none => some { sm with decision := .decisionFailure }
    | some m =>
      match m.init sm.toMethodSm with
      | (some (priv, methodPending), world) =>
        some ({ sm with methodPending := methodPending, world := world }.proposed m priv again taken method)
      | (none, world) =>
        proposeLoop again fuel { sm with
          world := world, m := none, eapMethodPriv := none, currentMethod := eapTypeNone }

/-- `SM_STATE (EAP, PROPOSE_METHOD)`; whether it was left only to be entered again. -/
def smProposeMethod (again : Bool) : Option (EapSm Priv World) :=
  proposeLoop conf again (eapMaxMethods + 1) { sm.smEntry .proposeMethod false with tryInitiateReauth := false }

/-- The list in the Nak that was received, if it is a legacy one. -/
def nakList (resp : Bytes) : Option Bytes :=
  let len := min (eapHdrLength resp) resp.length
  if (resp.getD 4 0).toNat = eapTypeNak then some ((resp.take len).drop 5) else none

/-- `SM_STATE (EAP, NAK)`. -/
def smNak : EapSm Priv World :=
  let sm := sm.smEntry .nak false
  let sm := { sm with eapMethodPriv := none, m := none }
  match sm.respLenValid, sm.eapIf.eapRespData with
  | true, some resp =>
    let sm := { sm with history := sm.history ++ [EapAct.nak (nakList resp)] }
    sm.policyUpdate (nakList resp)
  | _, _ => { sm with history := sm.history ++ [EapAct.nak none] }

/-- `SM_STATE (EAP, SELECT_ACTION)`. -/
def smSelectAction : EapSm Priv World :=
  let (decision, sm) := (sm.smEntry .selectAction false).policyGetDecision conf
  { sm with decision := decision }

/-- `SM_STATE (EAP, TIMEOUT_FAILURE)`. -/
def smTimeoutFailure : EapSm Priv World :=
  let sm := sm.smEntry .timeoutFailure false
  { sm with eapIf := { sm.eapIf with eapTimeout := true } }

/-- `SM_STATE (EAP, FAILURE)`. -/
def smFailure (global : Bool) : EapSm Priv World :=
  let sm := sm.smEntry .failure global
  { sm with
    eapIf := { sm.eapIf with eapReqData := some (buildFailure sm.currentId), eapFail := true }
    lastReqData := none }

/-- `SM_STATE (EAP, SUCCESS)`. -/
def smSuccess : EapSm Priv World :=
  let sm := sm.smEntry .success false
  { sm with
    eapIf := { sm.eapIf with eapReqData := some (buildSuccess sm.currentId), eapSuccess := true }
    lastReqData := none
    history := sm.history ++ [.success sm.m sm.eapMethodPriv] }

/-- `SM_STATE (EAP, INITIATE_REAUTH_START)`. -/
def smInitiateReauthStart : EapSm Priv World :=
  let sm := sm.smEntry .initiateReauthStart false
  let (id, world) := sm.nextId conf sm.currentId
  { sm with
    initiateReauthStartSent := true
    tryInitiateReauth := true
    currentId := id
    world := world
    lastId := id
    eapIf := { sm.eapIf with eapReqData := some (eapSmBuildInitiateReauthStart conf.erpDomain (UInt8.ofInt id)) }
    lastReqData := none }

/-- `erp_send_finish_reauth`, up to the key: what is common to success and failure. -/
def erpSendFinishReauth (erp : Option EapServerErpKey) (id flags : UInt8) (seq : ℕ) (nai : Bytes) :
    EapSm Priv World :=
  { sm with
    lastId := sm.currentId
    currentId := id.toNat
    eapIf := { sm.eapIf with eapReqData := some (erpFinishReauth conf.hmacSha256 erp id flags seq nai) }
    lastReqData := none }

/-- `SM_STATE (EAP, INITIATE_RECEIVED)`. -/
def smInitiateReceived : EapSm Priv World :=
  let sm := { sm.smEntry .initiateReceived false with rxInitiate := false }
  let resp := sm.eapIf.eapRespData.getD []
  match erpInitiateReceived conf.hmacSha256 conf.eapServer (conf.erpGetKey sm.world) resp with
  | .fail => { sm with ignore := true }
  | .passthrough nai => { sm with identity := some nai }
  | .unknownKey seq nai =>
    let sm := sm.erpSendFinishReauth conf none (resp.getD 1 0) 0x80 seq nai
    { sm with eapIf := { sm.eapIf with eapFail := true } }
  | .verified erp seq nai =>
    let sm := { sm with world := conf.erpSetKey sm.world nai erp }
    let sm := sm.erpSendFinishReauth conf (some erp) (resp.getD 1 0) 0 seq nai
    { sm with eapIf := { sm.eapIf with eapSuccess := true }, history := sm.history ++ [.erpSuccess] }

/-- `SM_STATE (EAP, INITIALIZE_PASSTHROUGH)`. -/
def smInitializePassthrough : EapSm Priv World :=
  let sm := sm.smEntry .initializePassthrough false
  { sm with eapIf := { sm.eapIf with aaaEapRespData := none }, tryInitiateReauth := false }

/-- `SM_STATE (EAP, IDLE2)`. -/
def smIdle2 : EapSm Priv World :=
  let sm := sm.smEntry .idle2 false
  { sm with eapIf := { sm.eapIf with retransWhile := sm.calculateTimeout } }

/-- `SM_STATE (EAP, RETRANSMIT2)`. -/
def smRetransmit2 : EapSm Priv World := (sm.smEntry .retransmit2 false).retransmitBody

/-- `SM_STATE (EAP, RECEIVED2)`. -/
def smReceived2 : EapSm Priv World :=
  let sm := sm.smEntry .received2 false
  sm.parseEapResp sm.eapIf.eapRespData

/-- `SM_STATE (EAP, DISCARD2)`. -/
def smDiscard2 : EapSm Priv World :=
  let sm := sm.smEntry .discard2 false
  { sm with eapIf := { sm.eapIf with eapResp := false, eapNoReq := true } }

/-- `SM_STATE (EAP, SEND_REQUEST2)`. -/
def smSendRequest2 : EapSm Priv World := (sm.smEntry .sendRequest2 false).sendRequestBody

/-- `SM_STATE (EAP, AAA_REQUEST)`. -/
def smAaaRequest : EapSm Priv World :=
  let sm := sm.smEntry .aaaRequest false
  { sm with eapIf := { sm.eapIf with aaaEapRespData := eapCopyBuf sm.eapIf.aaaEapRespData sm.eapIf.eapRespData } }

/-- `SM_STATE (EAP, AAA_RESPONSE)`. -/
def smAaaResponse : EapSm Priv World :=
  let sm := sm.smEntry .aaaResponse false
  let reqData := eapCopyBuf sm.eapIf.eapReqData sm.eapIf.aaaEapReqData
  { sm with
    eapIf := { sm.eapIf with eapReqData := reqData }
    currentId := getId reqData
    methodTimeout := sm.eapIf.aaaMethodTimeout }

/-- `SM_STATE (EAP, AAA_IDLE)`. -/
def smAaaIdle : EapSm Priv World :=
  let sm := sm.smEntry .aaaIdle false
  { sm with
    eapIf := { sm.eapIf with
      aaaFail := false, aaaSuccess := false, aaaEapReq := false, aaaEapNoReq := false, aaaEapResp := true } }

/-- `SM_STATE (EAP, TIMEOUT_FAILURE2)`. -/
def smTimeoutFailure2 : EapSm Priv World :=
  let sm := sm.smEntry .timeoutFailure2 false
  { sm with eapIf := { sm.eapIf with eapTimeout := true } }

/-- `SM_STATE (EAP, FAILURE2)`. -/
def smFailure2 : EapSm Priv World :=
  let sm := sm.smEntry .failure2 false
  { sm with
    eapIf := { sm.eapIf with eapReqData := eapCopyBuf sm.eapIf.eapReqData sm.eapIf.aaaEapReqData, eapFail := true } }

/-- `SM_STATE (EAP, SUCCESS2)`. -/
def smSuccess2 : EapSm Priv World :=
  let sm := sm.smEntry .success2 false
  { sm with
    eapIf := { sm.eapIf with
      eapReqData := eapCopyBuf sm.eapIf.eapReqData sm.eapIf.aaaEapReqData, eapSuccess := true }
    startReauth := true
    history := sm.history ++ [.success2 sm.eapIf.aaaSuccess] }

/-! ## Steps -/

/-- `SM_STEP (EAP)` in the state `RECEIVED`. -/
def stepReceived : EapSm Priv World :=
  if sm.rxResp && sm.respId = sm.currentId && sm.respIsNak && sm.methodState = .methodProposed then sm.smNak
  else if sm.rxResp && sm.respId = sm.currentId && sm.respIsCurrentMethod then sm.smIntegrityCheck
  else if sm.rxInitiate then sm.smInitiateReceived conf
  else sm.smDiscard

/-- `SM_STEP (EAP)` in the state `METHOD_RESPONSE`. -/
def stepMethodResponse : EapSm Priv World :=
  if sm.methodState = .methodEnd then sm.smSelectAction conf
  else
    match sm.methodPending with
    | .methodPendingWait => sm
    | .methodPendingCont => { sm with methodPending := .methodPendingNone }.smMethodResponse
    | .methodPendingNone => sm.smMethodRequest conf

/-- `SM_STEP (EAP)` in the state `PROPOSE_METHOD`. -/
def stepProposeMethod : Option (EapSm Priv World) :=
  match sm.methodPending with
  | .methodPendingWait => some { sm with userEapMethodIndex := sm.userEapMethodIndex - 1 }
  | .methodPendingCont => { sm with methodPending := .methodPendingNone }.smProposeMethod conf true
  | .methodPendingNone => some (sm.smMethodRequest conf)

/-- `SM_STEP (EAP)` in the state `SELECT_ACTION`. -/
def stepSelectAction : Option (EapSm Priv World) :=
  match sm.decision with
  | .decisionFailure => some (sm.smFailure false)
  | .decisionSuccess => some sm.smSuccess
  | .decisionPassthrough => some sm.smInitializePassthrough
  | .decisionInitiateReauthStart => some (sm.smInitiateReauthStart conf)
  | .decisionContinue =>
    if conf.eapServer && conf.erp && sm.rxInitiate then some (sm.smInitiateReceived conf)
    else sm.smProposeMethod conf false

/-- `SM_STEP (EAP)` in the state `METHOD_REQUEST`. -/
def stepMethodRequest : EapSm Priv World :=
  if sm.m.isNone then sm.smFailure false
  else
    let sm := sm.smSendRequest
    if sm.eapIf.eapNoReq && !sm.eapIf.eapReq then sm.smFailure false else sm

/-- `SM_STEP (EAP)` without the global transitions. -/
def stepState : Option (EapSm Priv World) :=
  match sm.state with
  | .initializing =>
    if conf.backendAuth && sm.rxResp then
      if sm.respIsNak then some sm.smNak else some (sm.smPickUpMethod conf)
    else some (sm.smSelectAction conf)
  | .pickUpMethod =>
    if sm.currentMethod = eapTypeNone then some (sm.smSelectAction conf) else some sm.smMethodResponse
  | .disabled => some (if sm.eapIf.portEnabled then sm.smInitialize conf false else sm)
  | .idle =>
    if sm.eapIf.retransWhile = 0 then
      if sm.tryInitiateReauth then some ({ sm with tryInitiateReauth := false }.smSelectAction conf)
      else some sm.smRetransmit
    else if sm.eapIf.eapResp then some sm.smReceived
    else some sm
  | .retransmit =>
    if (sm.retransCount : ℤ) > sm.maxRetrans then some sm.smTimeoutFailure else some sm.smIdle
  | .received => some (sm.stepReceived conf)
  | .discard => some sm.smIdle
  | .sendRequest => some sm.smIdle
  | .integrityCheck => if sm.ignore then some sm.smDiscard else some sm.smMethodResponse
  | .methodRequest => some sm.stepMethodRequest
  | .methodResponse => some (sm.stepMethodResponse conf)
  | .proposeMethod => sm.stepProposeMethod conf
  | .nak => some (sm.smSelectAction conf)
  | .selectAction => sm.stepSelectAction conf
  | .initiateReauthStart => some sm.smSendRequest
  | .initiateReceived => some (if conf.eapServer then sm else sm.smSelectAction conf)
  | .timeoutFailure => some sm
  | .failure => some sm
  | .success => some sm
  | .initializePassthrough => if sm.currentId = -1 then some sm.smAaaIdle else some sm.smAaaRequest
  | .idle2 =>
    if sm.eapIf.eapResp then some sm.smReceived2
    else if sm.eapIf.retransWhile = 0 then some sm.smRetransmit2
    else some sm
  | .retransmit2 =>
    if (sm.retransCount : ℤ) > sm.maxRetrans then some sm.smTimeoutFailure2 else some sm.smIdle2
  | .received2 => if sm.rxResp && sm.respId = sm.currentId then some sm.smAaaRequest else some sm.smDiscard2
  | .discard2 => some sm.smIdle2
  | .sendRequest2 => some sm.smIdle2
  | .aaaRequest => some sm.smAaaIdle
  | .aaaResponse => some sm.smSendRequest2
  | .aaaIdle =>
    if sm.eapIf.aaaFail then some sm.smFailure2
    else if sm.eapIf.aaaSuccess then some sm.smSuccess2
    else if sm.eapIf.aaaEapReq then some sm.smAaaResponse
    else if sm.eapIf.aaaTimeout then some sm.smTimeoutFailure2
    else some sm
  | .timeoutFailure2 => some sm
  | .failure2 => some sm
  | .success2 => some sm

/-- `SM_STEP (EAP)`. -/
def smStep : Option (EapSm Priv World) :=
  if sm.eapIf.eapRestart && sm.eapIf.portEnabled then some (sm.smInitialize conf true)
  else if !sm.eapIf.portEnabled then some (sm.smDisabled true)
  else if sm.numRounds > eapMaxAuthRounds then
    if sm.numRounds = eapMaxAuthRounds + 1 then some ({ sm with numRounds := sm.numRounds + 1 }.smFailure true)
    else some sm
  else sm.stepState conf

/-- `eap_server_sm_step`, for at most `fuel` rounds of its loop. -/
def eapServerSmStep : ℕ → EapSm Priv World → Option (EapSm Priv World)
  | 0, _ => none
  | fuel + 1, sm => do
    let sm ← { sm with changed := false }.smStep conf
    if sm.changed then eapServerSmStep fuel sm else some sm

end EapSm

/-! ## Events -/

/-- What happens to the machine. -/
inductive EapEvent (World : Type)
  /-- A round of the loop in `eap_server_sm_step`. -/
  | step
  /-- The lower layer has a message for the machine. -/
  | receive (data : Bytes)
  /-- A message is stored, and the lower layer does not pass it on yet. -/
  | store (data : Bytes)
  /-- The lower layer sets `eapResp`. -/
  | respond
  /-- The lower layer takes `eapReq`, `eapNoReq`, or the result. -/
  | takeReq | takeNoReq | takeResult
  | portEnabled (enabled : Bool)
  | restart
  /-- A second has passed. -/
  | tick
  /-- The AAA client sets its variables. -/
  | aaa (eapReq noReq success fail timeout : Bool) (reqData : Option Bytes) (methodTimeout : ℤ)
  | takeAaaResp
  | pendingCb
  | clearIdentity
  /-- `eap_sm_notify_cached`. -/
  | notifyCached
  /-- The world outside changes. -/
  | world (w : World)

namespace EapSm

variable {Priv World : Type} (conf : EapConf Priv World)

/-- What an event other than a step does. -/
def handle (sm : EapSm Priv World) : EapEvent World → EapSm Priv World
  | .step => sm
  | .receive data => { sm with eapIf := { sm.eapIf with eapRespData := some data, eapResp := true } }
  | .store data => { sm with eapIf := { sm.eapIf with eapRespData := some data } }
  | .respond => { sm with eapIf := { sm.eapIf with eapResp := true } }
  | .takeReq => { sm with eapIf := { sm.eapIf with eapReq := false } }
  | .takeNoReq => { sm with eapIf := { sm.eapIf with eapNoReq := false } }
  | .takeResult => { sm with eapIf := { sm.eapIf with eapSuccess := false, eapFail := false } }
  | .portEnabled enabled => { sm with eapIf := { sm.eapIf with portEnabled := enabled } }
  | .restart => { sm with eapIf := { sm.eapIf with eapRestart := true } }
  | .tick =>
    if sm.eapIf.retransWhile > 0 then
      { sm with eapIf := { sm.eapIf with retransWhile := sm.eapIf.retransWhile - 1 } }
    else sm
  | .aaa eapReq noReq success fail timeout reqData methodTimeout =>
    { sm with eapIf := { sm.eapIf with
      aaaEapReq := eapReq, aaaEapNoReq := noReq, aaaSuccess := success, aaaFail := fail, aaaTimeout := timeout,
      aaaEapReqData := reqData, aaaMethodTimeout := methodTimeout } }
  | .takeAaaResp => { sm with eapIf := { sm.eapIf with aaaEapResp := false } }
  | .pendingCb => sm.eapSmPendingCb
  | .clearIdentity => sm.eapServerClearIdentity
  | .notifyCached => { sm with state := .success }
  | .world w => { sm with world := w }

/-- The machine after an event.  While the loop of `eap_server_sm_step` goes on, nothing else happens. -/
def next (sm : EapSm Priv World) : EapEvent World → Option (EapSm Priv World)
  | .step => { sm with changed := false }.smStep conf
  | e => if sm.changed then none else some (sm.handle e)

end EapSm

end Ethanol
