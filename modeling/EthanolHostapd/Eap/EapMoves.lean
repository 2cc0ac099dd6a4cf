import EthanolHostapd.Eap.EapServer

/-!
# What a step of the EAP server machine can do

Most states only move the machine on and leave the method, the user and the negotiation alone.  `Core` is what
they leave alone, and `Moves` lists the others one by one, with the conditions under which they are entered.
-/

namespace Ethanol

namespace EapSm

variable {Priv World : Type} {conf : EapConf Priv World} {sm sm' : EapSm Priv World}

/-- What most states leave alone. -/
structure Core (Priv World : Type) where
  identity : Option Bytes
  user : Option EapUser
  userEapMethodIndex : ℕ
  updateUser : Bool
  methodPending : EapMethodPending
  currentMethod : ℕ
  methodState : EapMethodState
  ignore : Bool
  decision : EapDecision
  m : Option (EapMethod Priv World)
  eapMethodPriv : Option Priv
  startReauth : Bool
  tryInitiateReauth : Bool
  eapSuccess : Bool
  eapRestart : Bool
  history : List (EapAct Priv World)

/-- The part of the machine that most states leave alone. -/
def core (sm : EapSm Priv World) : Core Priv World where
  identity := sm.identity
  user := sm.user
  userEapMethodIndex := sm.userEapMethodIndex
  updateUser := sm.updateUser
  methodPending := sm.methodPending
  currentMethod := sm.currentMethod
  methodState := sm.methodState
  ignore := sm.ignore
  decision := sm.decision
  m := sm.m
  eapMethodPriv := sm.eapMethodPriv
  startReauth := sm.startReauth
  tryInitiateReauth := sm.tryInitiateReauth
  eapSuccess := sm.eapIf.eapSuccess
  eapRestart := sm.eapIf.eapRestart
  history := sm.history

/-- States that leave the core alone. -/
def IsPlain : EapState → Bool
  | .disabled | .idle | .retransmit | .discard | .sendRequest | .failure | .timeoutFailure => true
  | _ => false

/-- States around the wait for a response. -/
def IsWaiting : EapState → Bool
  | .idle | .retransmit | .discard | .sendRequest => true
  | _ => false

/-- States of the exchange with an authentication server. -/
def IsPassthrough : EapState → Bool
  | .initializePassthrough | .idle2 | .retransmit2 | .received2 | .discard2 | .sendRequest2 | .aaaRequest
  | .aaaResponse | .aaaIdle | .timeoutFailure2 | .failure2 | .success2 => true
  | _ => false

/-- The response to the outstanding request is handed to the current method. -/
def takesResponse (sm : EapSm Priv World) : Prop :=
  sm.rxResp = true ∧ sm.respId = sm.currentId ∧ sm.respIsCurrentMethod = true ∧
    ¬(sm.respIsNak = true ∧ sm.methodState = .methodProposed)

/-- A state from which the machine goes on to wait for a response. -/
def ComesToWait (sm : EapSm Priv World) : Prop :=
  IsWaiting sm.state = true ∨ sm.state = .received ∨ sm.state = .integrityCheck ∧ sm.ignore = true ∨
    sm.state = .initiateReauthStart ∨ sm.state = .methodRequest ∧ sm.m.isSome = true

/-- No global transition applies: the state decides what the next step does. -/
def StateDecides (sm : EapSm Priv World) : Prop :=
  sm.eapIf.portEnabled = true ∧ sm.eapIf.eapRestart = false ∧ sm.numRounds ≤ eapMaxAuthRounds

/-- The moves of the machine. -/
inductive Moves (conf : EapConf Priv World) (sm : EapSm Priv World) : EapSm Priv World → Prop
  | stay {sm' : EapSm Priv World} : sm'.core = sm.core → sm'.state = sm.state → sm'.currentId = sm.currentId →
      sm'.changed = sm.changed → Moves conf sm sm'
  | plain {sm' : EapSm Priv World} : sm'.core = sm.core → IsPlain sm'.state = true →
      (IsWaiting sm'.state = true → sm.ComesToWait) → Moves conf sm sm'
  | received : sm.state = .idle → Moves conf sm sm.smReceived
  | initializing (global : Bool) : Moves conf sm (sm.smInitialize conf global)
  | pickUpMethod : sm.state = .initializing → conf.backendAuth = true → sm.rxResp = true →
      Moves conf sm (sm.smPickUpMethod conf)
  | integrityCheck : sm.StateDecides → sm.state = .received → sm.takesResponse → Moves conf sm sm.smIntegrityCheck
  | methodResponse : sm.state = .pickUpMethod ∧ sm.currentMethod ≠ eapTypeNone ∨
        sm.state = .integrityCheck ∧ sm.ignore = false →
      Moves conf sm sm.smMethodResponse
  | methodResponseAgain : sm.state = .methodResponse → sm.methodState ≠ .methodEnd →
      Moves conf sm { sm with methodPending := .methodPendingNone }.smMethodResponse
  | methodRequest : sm.state = .methodResponse ∧ sm.methodState ≠ .methodEnd ∨ sm.state = .proposeMethod →
      sm.methodPending = .methodPendingNone → Moves conf sm (sm.smMethodRequest conf)
  | proposeWait : sm.state = .proposeMethod → sm.methodPending = .methodPendingWait →
      Moves conf sm { sm with userEapMethodIndex := sm.userEapMethodIndex - 1 }
  | proposeAgain {sm' : EapSm Priv World} : sm.state = .proposeMethod → sm.methodPending = .methodPendingCont →
      { sm with methodPending := .methodPendingNone }.smProposeMethod conf true = some sm' → Moves conf sm sm'
  | propose {sm' : EapSm Priv World} : sm.state = .selectAction → sm.decision = .decisionContinue →
      sm.smProposeMethod conf false = some sm' → Moves conf sm sm'
  | nak : sm.state = .received ∧ sm.rxResp = true ∧ sm.respId = sm.currentId ∧ sm.methodState = .methodProposed ∨
        sm.state = .initializing →
      sm.respIsNak = true → Moves conf sm sm.smNak
  | selectAction : sm.state = .initializing ∨ sm.state = .pickUpMethod ∧ sm.currentMethod = eapTypeNone ∨
        sm.state = .methodResponse ∧ sm.methodState = .methodEnd ∨ sm.state = .nak ∨
        sm.state = .initiateReceived ∧ conf.eapServer = false →
      Moves conf sm (sm.smSelectAction conf)
  | selectActionAfterStart : sm.state = .idle → sm.tryInitiateReauth = true →
      Moves conf sm ({ sm with tryInitiateReauth := false }.smSelectAction conf)
  | success : sm.state = .selectAction → sm.decision = .decisionSuccess → Moves conf sm sm.smSuccess
  | initializePassthrough : sm.state = .selectAction → sm.decision = .decisionPassthrough →
      Moves conf sm sm.smInitializePassthrough
  | initiateReauthStart : sm.state = .selectAction → sm.decision = .decisionInitiateReauthStart →
      Moves conf sm (sm.smInitiateReauthStart conf)
  | initiateReceived : sm.state = .received ∨ sm.state = .selectAction → Moves conf sm (sm.smInitiateReceived conf)
  | passthrough {sm' : EapSm Priv World} : sm'.core = sm.core → IsPassthrough sm.state = true →
      IsPassthrough sm'.state = true → Moves conf sm sm'
  | success2 : sm.state = .aaaIdle → sm.eapIf.aaaSuccess = true → Moves conf sm sm.smSuccess2

/-! ## States that leave the core alone -/

lemma core_retransmitBody (sm : EapSm Priv World) :
    sm.retransmitBody.core = sm.core ∧ sm.retransmitBody.state = sm.state := by
  unfold retransmitBody
  dsimp only
  split <;> exact ⟨rfl, rfl⟩

lemma core_sendRequestBody (sm : EapSm Priv World) :
    sm.sendRequestBody.core = sm.core ∧ sm.sendRequestBody.state = sm.state := by
  unfold sendRequestBody
  dsimp only
  split <;> exact ⟨rfl, rfl⟩

lemma core_parseEapResp (sm : EapSm Priv World) (resp : Option Bytes) :
    (sm.parseEapResp resp).core = sm.core ∧ (sm.parseEapResp resp).state = sm.state := by
  unfold parseEapResp
  dsimp only
  split
  · exact ⟨rfl, rfl⟩
  · split_ifs <;> exact ⟨rfl, rfl⟩

@[simp] lemma parseEapResp_m (sm : EapSm Priv World) (resp : Option Bytes) : (sm.parseEapResp resp).m = sm.m :=
  congrArg Core.m (core_parseEapResp sm resp).1

@[simp] lemma parseEapResp_currentMethod (sm : EapSm Priv World) (resp : Option Bytes) :
    (sm.parseEapResp resp).currentMethod = sm.currentMethod :=
  congrArg Core.currentMethod (core_parseEapResp sm resp).1

@[simp] lemma parseEapResp_history (sm : EapSm Priv World) (resp : Option Bytes) :
    (sm.parseEapResp resp).history = sm.history :=
  congrArg Core.history (core_parseEapResp sm resp).1

@[simp] lemma parseEapResp_state (sm : EapSm Priv World) (resp : Option Bytes) :
    (sm.parseEapResp resp).state = sm.state :=
  (core_parseEapResp sm resp).2

/-! ## One step -/

lemma moves_stepReceived (hdecides : sm.StateDecides) (h : sm.state = .received) :
    Moves conf sm (sm.stepReceived conf) := by
  unfold stepReceived
  split_ifs with hnak hmethod
  · simp only [Bool.and_eq_true, decide_eq_true_eq] at hnak
    exact .nak (Or.inl ⟨h, hnak.1.1.1, hnak.1.1.2, hnak.2⟩) hnak.1.2
  · simp only [Bool.and_eq_true, decide_eq_true_eq] at hnak hmethod
    exact .integrityCheck hdecides h ⟨hmethod.1.1, hmethod.1.2, hmethod.2, fun hn => hnak ⟨⟨hmethod.1, hn.1⟩, hn.2⟩⟩
  · exact .initiateReceived (Or.inl h)
  · exact .plain rfl rfl fun _ => Or.inr (Or.inl h)

lemma moves_stepMethodResponse (h : sm.state = .methodResponse) : Moves conf sm (sm.stepMethodResponse conf) := by
  unfold stepMethodResponse
  split_ifs with hend
  · exact .selectAction (Or.inr (Or.inr (Or.inl ⟨h, hend⟩)))
  · split
    · exact .stay rfl rfl rfl rfl
    · exact .methodResponseAgain h hend
    · rename_i hpending
      exact .methodRequest (Or.inl ⟨h, hend⟩) hpending

lemma moves_stepProposeMethod (h : sm.state = .proposeMethod) (hstep : sm.stepProposeMethod conf = some sm') :
    Moves conf sm sm' := by
  unfold stepProposeMethod at hstep
  split at hstep
  · rename_i hpending
    obtain rfl := Option.some.inj hstep
    exact .proposeWait h hpending
  · rename_i hpending
    exact .proposeAgain h hpending hstep
  · rename_i hpending
    obtain rfl := Option.some.inj hstep
    exact .methodRequest (Or.inr h) hpending

lemma moves_stepSelectAction (h : sm.state = .selectAction) (hstep : sm.stepSelectAction conf = some sm') :
    Moves conf sm sm' := by
  unfold stepSelectAction at hstep
  split at hstep
  · obtain rfl := Option.some.inj hstep
    exact .plain rfl rfl fun hwaiting => absurd (show IsWaiting .failure = true from hwaiting) (by decide)
  · rename_i hdecision
    obtain rfl := Option.some.inj hstep
    exact .success h hdecision
  · rename_i hdecision
    obtain rfl := Option.some.inj hstep
    exact .initializePassthrough h hdecision
  · rename_i hdecision
    obtain rfl := Option.some.inj hstep
    exact .initiateReauthStart h hdecision
  · rename_i hdecision
    split at hstep
    · obtain rfl := Option.some.inj hstep
      exact .initiateReceived (Or.inr h)
    · exact .propose h hdecision hstep

lemma moves_stepMethodRequest (h : sm.state = .methodRequest) : Moves conf sm sm.stepMethodRequest := by
  have hsend := core_sendRequestBody (sm.smEntry .sendRequest false)
  unfold stepMethodRequest
  by_cases hm : sm.m.isNone = true
  · rw [if_pos hm]
    exact .plain rfl rfl fun hwaiting => absurd (show IsWaiting .failure = true from hwaiting) (by decide)
  · have hsome : sm.m.isSome = true := by
      rw [← Option.not_isNone, Bool.not_eq_true']
      exact Bool.not_eq_true _ ▸ hm
    rw [if_neg hm]
    dsimp only
    split_ifs
    · exact .plain hsend.1 rfl fun hwaiting => absurd (show IsWaiting .failure = true from hwaiting) (by decide)
    · refine .plain hsend.1 (by rw [smSendRequest, hsend.2]; rfl) fun _ => ?_
      exact Or.inr (Or.inr (Or.inr (Or.inr ⟨h, hsome⟩)))

lemma moves_stepState (hdecides : sm.StateDecides) (hstep : sm.stepState conf = some sm') : Moves conf sm sm' := by
  unfold stepState at hstep
  cases h : sm.state with
  | disabled =>
    rw [h] at hstep
    dsimp only at hstep
    split_ifs at hstep
    · obtain rfl := Option.some.inj hstep
      exact .initializing false
    · obtain rfl := Option.some.inj hstep
      exact .stay rfl rfl rfl rfl
  | initializing =>
    rw [h] at hstep
    dsimp only at hstep
    split_ifs at hstep with hresp hnak
    · rw [Bool.and_eq_true] at hresp
      obtain rfl := Option.some.inj hstep
      exact .nak (Or.inr h) hnak
    · rw [Bool.and_eq_true] at hresp
      obtain rfl := Option.some.inj hstep
      exact .pickUpMethod h hresp.1 hresp.2
    · obtain rfl := Option.some.inj hstep
      exact .selectAction (Or.inl h)
  | idle =>
    rw [h] at hstep
    dsimp only at hstep
    split_ifs at hstep with htimeout hstart hresp
    · have heq : sm' = { sm with tryInitiateReauth := false }.smSelectAction conf := by
        rw [← Option.some.inj hstep, ← h]
      rw [heq]
      exact .selectActionAfterStart h hstart
    · obtain rfl := Option.some.inj hstep
      refine .plain (core_retransmitBody _).1 (by rw [smRetransmit, (core_retransmitBody _).2]; rfl) fun _ => ?_
      exact Or.inl (by rw [h]; rfl)
    · obtain rfl := Option.some.inj hstep
      exact .received h
    · obtain rfl := Option.some.inj hstep
      exact .stay rfl rfl rfl rfl
  | received =>
    rw [h] at hstep
    obtain rfl := Option.some.inj hstep
    exact moves_stepReceived hdecides h
  | integrityCheck =>
    rw [h] at hstep
    dsimp only at hstep
    split_ifs at hstep with hignore
    · obtain rfl := Option.some.inj hstep
      exact .plain rfl rfl fun _ => Or.inr (Or.inr (Or.inl ⟨h, hignore⟩))
    · obtain rfl := Option.some.inj hstep
      exact .methodResponse (Or.inr ⟨h, by simpa using hignore⟩)
  | methodResponse =>
    rw [h] at hstep
    obtain rfl := Option.some.inj hstep
    exact moves_stepMethodResponse h
  | methodRequest =>
    rw [h] at hstep
    obtain rfl := Option.some.inj hstep
    exact moves_stepMethodRequest h
  | proposeMethod =>
    rw [h] at hstep
    exact moves_stepProposeMethod h hstep
  | selectAction =>
    rw [h] at hstep
    exact moves_stepSelectAction h hstep
  | sendRequest =>
    rw [h] at hstep
    obtain rfl := Option.some.inj hstep
    exact .plain rfl rfl fun _ => Or.inl (by rw [h]; rfl)
  | discard =>
    rw [h] at hstep
    obtain rfl := Option.some.inj hstep
    exact .plain rfl rfl fun _ => Or.inl (by rw [h]; rfl)
  | nak =>
    rw [h] at hstep
    obtain rfl := Option.some.inj hstep
    exact .selectAction (Or.inr (Or.inr (Or.inr (Or.inl h))))
  | retransmit =>
    rw [h] at hstep
    dsimp only at hstep
    split_ifs at hstep
    · obtain rfl := Option.some.inj hstep
      exact .plain rfl rfl fun hwaiting => absurd (show IsWaiting .timeoutFailure = true from hwaiting) (by decide)
    · obtain rfl := Option.some.inj hstep
      exact .plain rfl rfl fun _ => Or.inl (by rw [h]; rfl)
  | success =>
    rw [h] at hstep
    obtain rfl := Option.some.inj hstep
    exact .stay rfl rfl rfl rfl
  | failure =>
    rw [h] at hstep
    obtain rfl := Option.some.inj hstep
    exact .stay rfl rfl rfl rfl
  | timeoutFailure =>
    rw [h] at hstep
    obtain rfl := Option.some.inj hstep
    exact .stay rfl rfl rfl rfl
  | pickUpMethod =>
    rw [h] at hstep
    dsimp only at hstep
    split_ifs at hstep with hmethod
    · obtain rfl := Option.some.inj hstep
      exact .selectAction (Or.inr (Or.inl ⟨h, hmethod⟩))
    · obtain rfl := Option.some.inj hstep
      exact .methodResponse (Or.inl ⟨h, hmethod⟩)
  | initializePassthrough =>
    rw [h] at hstep
    dsimp only at hstep
    split_ifs at hstep
    · obtain rfl := Option.some.inj hstep
      exact .passthrough rfl (by rw [h]; rfl) rfl
    · obtain rfl := Option.some.inj hstep
      exact .passthrough rfl (by rw [h]; rfl) rfl
  | idle2 =>
    rw [h] at hstep
    dsimp only at hstep
    split_ifs at hstep
    · obtain rfl := Option.some.inj hstep
      exact .passthrough (core_parseEapResp _ _).1 (by rw [h]; rfl) (by rw [smReceived2, (core_parseEapResp _ _).2]; rfl)
    · obtain rfl := Option.some.inj hstep
      exact .passthrough (core_retransmitBody _).1 (by rw [h]; rfl)
        (by rw [smRetransmit2, (core_retransmitBody _).2]; rfl)
    · obtain rfl := Option.some.inj hstep
      exact .stay rfl rfl rfl rfl
  | retransmit2 =>
    rw [h] at hstep
    dsimp only at hstep
    split_ifs at hstep
    · obtain rfl := Option.some.inj hstep
      exact .passthrough rfl (by rw [h]; rfl) rfl
    · obtain rfl := Option.some.inj hstep
      exact .passthrough rfl (by rw [h]; rfl) rfl
  | received2 =>
    rw [h] at hstep
    dsimp only at hstep
    split_ifs at hstep
    · obtain rfl := Option.some.inj hstep
      exact .passthrough rfl (by rw [h]; rfl) rfl
    · obtain rfl := Option.some.inj hstep
      exact .passthrough rfl (by rw [h]; rfl) rfl
  | discard2 =>
    rw [h] at hstep
    obtain rfl := Option.some.inj hstep
    exact .passthrough rfl (by rw [h]; rfl) rfl
  | sendRequest2 =>
    rw [h] at hstep
    obtain rfl := Option.some.inj hstep
    exact .passthrough rfl (by rw [h]; rfl) rfl
  | aaaRequest =>
    rw [h] at hstep
    obtain rfl := Option.some.inj hstep
    exact .passthrough rfl (by rw [h]; rfl) rfl
  | aaaResponse =>
    rw [h] at hstep
    obtain rfl := Option.some.inj hstep
    exact .passthrough (core_sendRequestBody _).1 (by rw [h]; rfl) (by rw [smSendRequest2, (core_sendRequestBody _).2]; rfl)
  | aaaIdle =>
    rw [h] at hstep
    dsimp only at hstep
    split_ifs at hstep with hfail hsuccess hreq htimeout
    · obtain rfl := Option.some.inj hstep
      exact .passthrough rfl (by rw [h]; rfl) rfl
    · obtain rfl := Option.some.inj hstep
      exact .success2 h hsuccess
    · obtain rfl := Option.some.inj hstep
      exact .passthrough rfl (by rw [h]; rfl) rfl
    · obtain rfl := Option.some.inj hstep
      exact .passthrough rfl (by rw [h]; rfl) rfl
    · obtain rfl := Option.some.inj hstep
      exact .stay rfl rfl rfl rfl
  | timeoutFailure2 =>
    rw [h] at hstep
    obtain rfl := Option.some.inj hstep
    exact .stay rfl rfl rfl rfl
  | failure2 =>
    rw [h] at hstep
    obtain rfl := Option.some.inj hstep
    exact .stay rfl rfl rfl rfl
  | success2 =>
    rw [h] at hstep
    obtain rfl := Option.some.inj hstep
    exact .stay rfl rfl rfl rfl
  | initiateReauthStart =>
    rw [h] at hstep
    obtain rfl := Option.some.inj hstep
    refine .plain (core_sendRequestBody _).1 (by rw [smSendRequest, (core_sendRequestBody _).2]; rfl) fun _ => ?_
    exact Or.inr (Or.inr (Or.inr (Or.inl h)))
  | initiateReceived =>
    rw [h] at hstep
    dsimp only at hstep
    split_ifs at hstep with hserver
    · obtain rfl := Option.some.inj hstep
      exact .stay rfl rfl rfl rfl
    · obtain rfl := Option.some.inj hstep
      exact .selectAction (Or.inr (Or.inr (Or.inr (Or.inr ⟨h, by simpa using hserver⟩))))

/-- A step makes one of the moves. -/
theorem moves_smStep (hstep : sm.smStep conf = some sm') : Moves conf sm sm' := by
  unfold smStep at hstep
  split_ifs at hstep with hrestart hport hrounds hlast
  · obtain rfl := Option.some.inj hstep
    exact .initializing true
  · obtain rfl := Option.some.inj hstep
    exact .plain rfl rfl fun hwaiting => absurd (show IsWaiting .disabled = true from hwaiting) (by decide)
  · obtain rfl := Option.some.inj hstep
    exact .plain rfl rfl fun hwaiting => absurd (show IsWaiting .failure = true from hwaiting) (by decide)
  · obtain rfl := Option.some.inj hstep
    exact .stay rfl rfl rfl rfl
  · have hport' : sm.eapIf.portEnabled = true := by simpa using hport
    have hrestart' : sm.eapIf.eapRestart = false := by simpa [hport'] using hrestart
    exact moves_stepState ⟨hport', hrestart', Nat.le_of_not_gt hrounds⟩ hstep

/-! ## States with a policy or a method -/

/-- What the policy writes, besides its decision. -/
lemma policyGetDecisionUser_cases (sm : EapSm Priv World) :
    (sm.policyGetDecisionUser conf).2 = { sm with startReauth := false } := by
  unfold policyGetDecisionUser
  dsimp only
  split_ifs <;> rfl

/-- The policy leaves the machine alone except for the user, who may be looked up. -/
lemma policyGetDecision_cases (conf : EapConf Priv World) (sm : EapSm Priv World) :
    (∃ startReauth updateUser, (sm.policyGetDecision conf).2 =
      { sm with startReauth := startReauth, updateUser := updateUser }) ∨
    (sm.policyGetDecision conf).2 = { sm with user := none } ∨
    ∃ identity user startReauth updateUser, conf.getEapUser sm.world identity false = some user ∧
      (sm.policyGetDecision conf).2 =
        { sm with
          user := some user, userEapMethodIndex := 0, startReauth := startReauth, updateUser := updateUser
          history := sm.history ++ [.lookup user.methods] } := by
  unfold policyGetDecision
  split_ifs
  · exact Or.inl ⟨_, _, rfl⟩
  · exact Or.inl ⟨_, true, rfl⟩
  · exact Or.inl ⟨_, true, rfl⟩
  · split
    · unfold eapUserGet
      rename_i identity _
      cases huser : conf.getEapUser sm.world identity false with
      | none => exact Or.inr (Or.inl rfl)
      | some user =>
        refine Or.inr (Or.inr ?_)
        dsimp only
        split_ifs
        · exact ⟨identity, user, _, true, huser, rfl⟩
        · rw [policyGetDecisionUser_cases]
          exact ⟨identity, user, false, false, huser, rfl⟩
    · rw [policyGetDecisionUser_cases]
      exact Or.inl ⟨false, _, rfl⟩
  · split
    · rw [policyGetDecisionUser_cases]
      exact Or.inl ⟨false, _, rfl⟩
    · rw [policyGetDecisionUser_cases]
      exact Or.inl ⟨false, _, rfl⟩

/-- `INITIALIZE` forgets the method, and the machine waits for no reauthentication. -/
lemma smInitialize_spec (conf : EapConf Priv World) (sm : EapSm Priv World) (global : Bool) :
    (sm.smInitialize conf global).state = .initializing ∧ (sm.smInitialize conf global).m = none ∧
      (conf.backendAuth = true → (sm.smInitialize conf global).currentMethod = eapTypeNone) ∧
      (sm.smInitialize conf global).history = sm.history ++ [.initialized] := by
  unfold smInitialize
  dsimp only
  split_ifs <;> simp_all [eapServerClearIdentity, smEntry]

/-- `PICK_UP_METHOD` takes the Identity method, or none. -/
lemma smPickUpMethod_cases (conf : EapConf Priv World) (sm : EapSm Priv World) :
    sm.smPickUpMethod conf = sm.smEntry .pickUpMethod false ∨
    (∃ m priv methodPending world, policyDoPickUp sm.respMethod = true ∧
      eapServerGetEapMethod conf eapVendorIetf sm.respMethod = some m ∧
      sm.smPickUpMethod conf =
        { sm.smEntry .pickUpMethod false with
          currentMethod := sm.respMethod, m := some m, eapMethodPriv := some priv, methodPending := methodPending
          world := world }) ∨
    ∃ priv world, sm.smPickUpMethod conf =
      { sm.smEntry .pickUpMethod false with
        currentMethod := eapTypeNone, m := none, eapMethodPriv := priv, world := world } := by
  unfold smPickUpMethod
  dsimp only
  by_cases hpick : policyDoPickUp (sm.smEntry .pickUpMethod false).respMethod = true
  · rw [if_pos hpick]
    refine Or.inr ?_
    split
    · rename_i initPickUp hinit
      obtain ⟨m, hm, -⟩ := Option.bind_eq_some_iff.mp hinit
      split
      · exact Or.inl ⟨m, _, _, _, hpick, hm, by rw [hm]; rfl⟩
      · exact Or.inr ⟨none, _, rfl⟩
    · exact Or.inr ⟨_, sm.world, rfl⟩
  · rw [if_neg hpick]
    exact Or.inl rfl

/-- `INTEGRITY_CHECK` decides whether to ignore the response, with a call of the method if its length is valid. -/
lemma smIntegrityCheck_cases (sm : EapSm Priv World) :
    sm.respLenValid = false ∧ sm.smIntegrityCheck = { sm.smEntry .integrityCheck false with ignore := true } ∨
    sm.respLenValid = true ∧ ∃ ignore,
      sm.smIntegrityCheck = { (sm.smEntry .integrityCheck false).callMethod with ignore := ignore } := by
  unfold smIntegrityCheck
  dsimp only
  cases hvalid : sm.respLenValid with
  | false =>
    rw [if_pos (show (!(sm.smEntry .integrityCheck false).respLenValid) = true from congrArg not hvalid)]
    exact Or.inl ⟨rfl, rfl⟩
  | true =>
    have hne : ¬(!(sm.smEntry .integrityCheck false).respLenValid) = true := by
      rw [show (sm.smEntry .integrityCheck false).respLenValid = true from hvalid]
      exact Bool.false_ne_true
    rw [if_neg hne]
    refine Or.inr ⟨rfl, ?_⟩
    split
    · split
      · exact ⟨_, rfl⟩
      · exact ⟨sm.ignore, rfl⟩
    · exact ⟨sm.ignore, rfl⟩

/-- `METHOD_RESPONSE` calls the method if the length of the response is valid. -/
lemma smMethodResponse_cases (sm : EapSm Priv World) :
    sm.respLenValid = false ∧ sm.smMethodResponse = sm.smEntry .methodResponse false ∨
    sm.respLenValid = true ∧ sm.smMethodResponse = (sm.smEntry .methodResponse false).callMethod ∨
    sm.respLenValid = true ∧ ∃ m priv respData, sm.m = some m ∧ sm.eapMethodPriv = some priv ∧
      sm.smMethodResponse = { (sm.smEntry .methodResponse false).callMethod with
        toMethodSm := (m.process sm.toMethodSm priv respData).2
        eapMethodPriv := some (m.process sm.toMethodSm priv respData).1
        methodState := if m.isDone (m.process sm.toMethodSm priv respData).1 then .methodEnd else .methodContinue } := by
  unfold smMethodResponse
  dsimp only
  cases hvalid : sm.respLenValid with
  | false =>
    rw [if_pos (show (!(sm.smEntry .methodResponse false).respLenValid) = true from congrArg not hvalid)]
    exact Or.inl ⟨rfl, rfl⟩
  | true =>
    have hne : ¬(!(sm.smEntry .methodResponse false).respLenValid) = true := by
      rw [show (sm.smEntry .methodResponse false).respLenValid = true from hvalid]
      exact Bool.false_ne_true
    rw [if_neg hne]
    refine Or.inr ?_
    split
    · rename_i m priv respData hm hpriv _
      exact Or.inr ⟨rfl, m, priv, respData, hm, hpriv, rfl⟩
    · exact Or.inl ⟨rfl, rfl⟩

/-- The machine in `NAK` before the policy looks at the list. -/
def receivedNak (sm : EapSm Priv World) (list : Option Bytes) : EapSm Priv World :=
  { sm.smEntry .nak false with eapMethodPriv := none, m := none, history := sm.history ++ [.nak list] }

/-- `NAK` forgets the method; the policy may give up, or take entries from the list of the user. -/
lemma smNak_cases (sm : EapSm Priv World) :
    ∃ list, sm.smNak = sm.receivedNak list ∨ sm.smNak = { sm.receivedNak list with decision := .decisionFailure } ∨
      ∃ user nakList, list = some nakList ∧ sm.user = some user ∧
        sm.smNak = { sm.receivedNak list with user := some (processNak user sm.userEapMethodIndex nakList) } := by
  unfold smNak
  dsimp only
  split
  · rename_i resp _ _
    refine ⟨nakList resp, ?_⟩
    unfold policyUpdate
    split
    · rename_i list user hlist huser
      split_ifs
      · exact Or.inr (Or.inl rfl)
      · exact Or.inr (Or.inr ⟨user, list, hlist, huser, rfl⟩)
    · exact Or.inl rfl
  · exact ⟨none, Or.inl rfl⟩

/-- `INITIATE_RECEIVED` leaves the method and its negotiation alone. -/
lemma smInitiateReceived_cases (conf : EapConf Priv World) (sm : EapSm Priv World) :
    ∃ acts, acts ⊆ [EapAct.erpSuccess] ∧ (sm.smInitiateReceived conf).state = .initiateReceived ∧
      (sm.smInitiateReceived conf).m = sm.m ∧ (sm.smInitiateReceived conf).eapMethodPriv = sm.eapMethodPriv ∧
      (sm.smInitiateReceived conf).history = sm.history ++ acts := by
  unfold smInitiateReceived
  dsimp only
  split
  · exact ⟨[], List.nil_subset _, rfl, rfl, rfl, (List.append_nil _).symm⟩
  · exact ⟨[], List.nil_subset _, rfl, rfl, rfl, (List.append_nil _).symm⟩
  · exact ⟨[], List.nil_subset _, rfl, rfl, rfl, (List.append_nil _).symm⟩
  · exact ⟨[.erpSuccess], List.Subset.refl _, rfl, rfl, rfl, rfl⟩

/-! ## Proposing a method -/

/-- `currentMethod` for a method of that type. -/
def shortType (method : EapMethodType) : ℕ :=
  if method.1 = eapVendorIetf then method.2 else eapTypeExpanded.toNat

/-- How the loop of `PROPOSE_METHOD` may end. -/
inductive Proposes (conf : EapConf Priv World) (again : Bool) (sm : EapSm Priv World) : EapSm Priv World → Prop
  /-- There is no method left, or none that is registered. -/
  | nothing (index : ℕ) (updateUser : Bool) (currentMethod : ℕ) (priv : Option Priv) (world : World) :
      sm.userEapMethodIndex ≤ index →
      Proposes conf again sm { sm with
        userEapMethodIndex := index, updateUser := updateUser, currentMethod := currentMethod, m := none
        eapMethodPriv := priv, world := world, decision := .decisionFailure }
  /-- Identity, as long as there is no identity or the authentication starts. -/
  | identity (m : EapMethod Priv World) (priv : Priv) (methodPending : EapMethodPending) (world : World) :
      sm.identity = none ∨ sm.currentId = -1 →
      eapServerGetEapMethod conf eapVendorIetf eapTypeIdentity = some m →
      Proposes conf again sm { sm with
        updateUser := true, methodPending := methodPending, world := world, currentMethod := eapTypeIdentity
        m := some m, eapMethodPriv := some priv, methodState := .methodContinue }
  /-- Nothing is left, and there is a method with no type. -/
  | untyped (index : ℕ) (m : EapMethod Priv World) (priv : Priv) (methodPending : EapMethodPending) (world : World) :
      sm.identity.isSome = true → sm.currentId ≠ -1 → sm.userEapMethodIndex ≤ index →
      eapServerGetEapMethod conf eapVendorIetf eapTypeNone = some m →
      Proposes conf again sm { sm with
        userEapMethodIndex := index, methodPending := methodPending, world := world, currentMethod := eapTypeNone
        m := some m, eapMethodPriv := some priv, methodState := .methodProposed }
  /-- An entry of the list of the user. -/
  | listed (user : EapUser) (index : ℕ) (m : EapMethod Priv World) (priv : Priv) (methodPending : EapMethodPending)
      (world : World) :
      sm.identity.isSome = true → sm.currentId ≠ -1 → sm.user = some user → sm.userEapMethodIndex ≤ index →
      index < eapMaxMethods → user.methods.getD index (0, 0) ≠ (eapVendorIetf, eapTypeNone) →
      eapServerGetEapMethod conf (user.methods.getD index (0, 0)).1 (user.methods.getD index (0, 0)).2 = some m →
      Proposes conf again sm { sm with
        userEapMethodIndex := index + 1, methodPending := methodPending, world := world
        currentMethod := shortType (user.methods.getD index (0, 0)), m := some m, eapMethodPriv := some priv
        methodState :=
          if shortType (user.methods.getD index (0, 0)) = eapTypeIdentity ∨
              shortType (user.methods.getD index (0, 0)) = eapTypeNotification then .methodContinue
          else .methodProposed
        history := sm.history ++ [.propose again index (user.methods.getD index (0, 0))] }

/-- The three ways of `eap_sm_Policy_getNextMethod`. -/
lemma policyGetNextMethod_cases (sm : EapSm Priv World) :
    (sm.identity = none ∨ sm.currentId = -1) ∧
        sm.policyGetNextMethod = ((eapVendorIetf, eapTypeIdentity), none, { sm with updateUser := true }) ∨
    (sm.identity.isSome = true ∧ sm.currentId ≠ -1) ∧ (∃ user, sm.user = some user ∧
        sm.userEapMethodIndex < eapMaxMethods ∧
        user.methods.getD sm.userEapMethodIndex (0, 0) ≠ (eapVendorIetf, eapTypeNone) ∧
        sm.policyGetNextMethod = (user.methods.getD sm.userEapMethodIndex (0, 0), some sm.userEapMethodIndex,
          { sm with userEapMethodIndex := sm.userEapMethodIndex + 1 })) ∨
    (sm.identity.isSome = true ∧ sm.currentId ≠ -1) ∧
        sm.policyGetNextMethod = ((eapVendorIetf, eapTypeNone), none, sm) := by
  unfold policyGetNextMethod
  by_cases hidentity : (sm.identity.isNone || sm.currentId = -1) = true
  · rw [if_pos hidentity]
    exact Or.inl ⟨by simpa using hidentity, rfl⟩
  · have hknown : sm.identity.isSome = true ∧ sm.currentId ≠ -1 := by
      simpa [Option.isSome_iff_ne_none] using hidentity
    rw [if_neg hidentity]
    by_cases havailable : sm.methodAvailable = true
    · rw [if_pos havailable]
      cases huser : sm.user with
      | none => simp [methodAvailable, huser] at havailable
      | some user =>
        obtain ⟨hlt, hne⟩ : sm.userEapMethodIndex < eapMaxMethods ∧
            user.methods.getD sm.userEapMethodIndex (0, 0) ≠ (eapVendorIetf, eapTypeNone) := by
          simpa only [methodAvailable, huser, Option.any_some, Bool.and_eq_true, decide_eq_true_eq] using havailable
        exact Or.inr (Or.inl ⟨hknown, user, rfl, hlt, hne, by rw [Option.map_some, Option.getD_some]⟩)
    · rw [if_neg havailable]
      exact Or.inr (Or.inr ⟨hknown, rfl⟩)

/-- A method that could not be initialised leaves the rest of the list to the others. -/
lemma Proposes.of_failed {again : Bool} {index : ℕ} {world : World}
    (h : Proposes conf again { sm with
      userEapMethodIndex := index, currentMethod := eapTypeNone, m := none, eapMethodPriv := none, world := world } sm')
    (hle : sm.userEapMethodIndex ≤ index) (hknown : sm.identity.isSome = true ∧ sm.currentId ≠ -1) :
    Proposes conf again sm sm' := by
  cases h with
  | nothing index' updateUser currentMethod priv world hle' =>
    exact .nothing index' updateUser currentMethod priv world (hle.trans hle')
  | identity m priv methodPending world hunknown =>
    rcases hunknown with hnone | hid
    · rw [show sm.identity = none from hnone] at hknown
      exact absurd hknown.1 Bool.false_ne_true
    · exact absurd hid hknown.2
  | untyped index' m priv methodPending world hidentity hid hle' hm =>
    exact .untyped index' m priv methodPending world hidentity hid (hle.trans hle') hm
  | listed user index' m priv methodPending world hidentity hid huser hle' hlt hne hm =>
    exact .listed user index' m priv methodPending world hidentity hid huser (hle.trans hle') hlt hne hm

/-- If Identity could not be initialised, Identity is next again. -/
lemma Proposes.of_failedIdentity {again : Bool} {world : World}
    (h : Proposes conf again { sm with
      updateUser := true, currentMethod := eapTypeNone, m := none, eapMethodPriv := none, world := world } sm')
    (hunknown : sm.identity = none ∨ sm.currentId = -1) : Proposes conf again sm sm' := by
  have hnot : ¬(sm.identity.isSome = true ∧ sm.currentId ≠ -1) := by
    rintro ⟨hidentity, hid⟩
    rcases hunknown with hnone | hid'
    · rw [hnone] at hidentity
      exact Bool.false_ne_true hidentity
    · exact hid hid'
  cases h with
  | nothing index' updateUser currentMethod priv world hle =>
    exact .nothing index' updateUser currentMethod priv world hle
  | identity m priv methodPending world hunknown hm => exact .identity m priv methodPending world hunknown hm
  | untyped index' m priv methodPending world hidentity hid => exact absurd ⟨hidentity, hid⟩ hnot
  | listed user index' m priv methodPending world hidentity hid => exact absurd ⟨hidentity, hid⟩ hnot

/-- A proposal that is not from the list is not recorded. -/
lemma proposed_unlisted (sm : EapSm Priv World) (m : EapMethod Priv World) (priv : Priv) (again : Bool)
    (method : EapMethodType) : sm.proposed m priv again none method =
      { sm with
        m := some m
        eapMethodPriv := some priv
        methodState :=
          if sm.currentMethod = eapTypeIdentity ∨ sm.currentMethod = eapTypeNotification then .methodContinue
          else .methodProposed } := by
  rw [proposed, Option.map_none, Option.toList_none, List.append_nil]

/-- The loop of `PROPOSE_METHOD`, by induction on its rounds. -/
theorem proposes_of_proposeLoop {again : Bool} {fuel : ℕ} (h : proposeLoop conf again fuel sm = some sm') :
    Proposes conf again sm sm' := by
  induction fuel generalizing sm with
  | zero => exact absurd h (by simp [proposeLoop])
  | succ fuel ih =>
    rw [proposeLoop] at h
    rcases policyGetNextMethod_cases sm with ⟨hunknown, hnext⟩ | ⟨hknown, user, huser, hlt, hne, hnext⟩ | ⟨hknown, hnext⟩
    · rw [hnext] at h
      dsimp only at h
      split at h
      · rename_i hm
        obtain rfl := Option.some.inj h
        rw [show eapServerGetEapMethod conf eapVendorIetf eapTypeIdentity = none from hm]
        exact .nothing _ _ _ _ _ le_rfl
      · rename_i m hm
        split at h
        · obtain rfl := Option.some.inj h
          rw [proposed_unlisted]
          exact .identity m _ _ _ hunknown hm
        · exact Proposes.of_failedIdentity (ih h) hunknown
    · rw [hnext] at h
      dsimp only at h
      split at h
      · rename_i hm
        obtain rfl := Option.some.inj h
        rw [show eapServerGetEapMethod conf (user.methods.getD sm.userEapMethodIndex (0, 0)).1
          (user.methods.getD sm.userEapMethodIndex (0, 0)).2 = none from hm]
        exact .nothing _ _ _ _ _ (Nat.le_succ _)
      · rename_i m hm
        split at h
        · obtain rfl := Option.some.inj h
          exact .listed user sm.userEapMethodIndex m _ _ _ hknown.1 hknown.2 huser le_rfl hlt hne hm
        · exact Proposes.of_failed (ih h) (Nat.le_succ _) hknown
    · rw [hnext] at h
      dsimp only at h
      split at h
      · rename_i hm
        obtain rfl := Option.some.inj h
        rw [show eapServerGetEapMethod conf eapVendorIetf eapTypeNone = none from hm]
        exact .nothing _ _ _ _ _ le_rfl
      · rename_i m hm
        split at h
        · obtain rfl := Option.some.inj h
          rw [proposed_unlisted]
          exact .untyped _ m _ _ _ hknown.1 hknown.2 le_rfl hm
        · exact Proposes.of_failed (ih h) le_rfl hknown

end EapSm

end Ethanol
