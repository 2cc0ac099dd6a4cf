import EthanolHostapd.EapolAuth.Machine
import EthanolHostapd.Traces.History
import EthanolHostapd.Traces.Run

/-!
# The port and the answers of the station

Two statements about every run of the machines, whatever other modules assign in between.  The port is opened only in a state
that opens it, and the state `AUTHENTICATED` is entered only with a key that was known or after the backend has succeeded since
the authentication was begun, which takes the word of the EAP server.  And an EAP packet of the station is handed to the EAP
server at most once, and not if a request was sent after it was received.
-/

namespace Ethanol

open Trace

/-! ## What a history says -/

/-- What the state does to the port, if it does anything. -/
def AuthPaeState.port : AuthPaeState → Option Bool
  | .authenticated => some true
  | .forceAuth => some true
  | .disconnected => some false
  | .held => some false
  | .forceUnauth => some false
  | _ => none

/-- The backend has succeeded, or a key was known, since the last authentication was begun. -/
def authSucceeded : List EapolAct → Bool
  | [] => false
  | .beAuth .success :: _ => true
  | .cached :: _ => true
  | .authPae .authenticating :: _ => false
  | _ :: h => authSucceeded h

/-- The EAP server was successful when it said so last. -/
def eapSucceeded : List EapolAct → Bool
  | [] => false
  | .wrote (.eapSuccess b) :: _ => b
  | _ :: h => eapSucceeded h

/-- The last state that does something to the port opens it. -/
def portOpened : List EapolAct → Bool
  | [] => false
  | .authPae s :: h => s.port.getD (portOpened h)
  | _ :: h => portOpened h

/-- The port status for what the driver is told. -/
def portState (authorized : Bool) : PortState := bif authorized then .authorized else .unauthorized

/-- What the driver was told last. -/
def portTold : List EapolAct → Option PortState
  | [] => none
  | .setPortAuthorized b :: _ => some (portState b)
  | _ :: h => portTold h

/-- There is a packet of the station that was neither handed over nor overtaken by a request. -/
def eapWaiting : List EapolAct → Bool
  | [] => false
  | .eapolEap _ :: _ => true
  | .beAuth .request :: _ => false
  | .beAuth .response :: _ => false
  | _ :: h => eapWaiting h

/-- A packet is handed over if there is one, the backend succeeds if the EAP server does, a station is authenticated after a
success, and the other modules are told what the last state does to the port. -/
def eapolAllowed : EapolAct → List EapolAct → Prop
  | .beAuth .response, before => eapWaiting before = true
  | .beAuth .success, before => eapSucceeded before = true
  | .authPae .authenticated, before => authSucceeded before = true
  | .setPortAuthorized b, before => portOpened before = b
  | .finished success _ _, before => portOpened before = success
  | _, _ => True

/-- Entries that say nothing about the port, the EAP server and the packets. -/
def EapolAct.quiet : EapolAct → Bool
  | .authPae s => s.port.isNone && s ≠ .authenticating
  | .beAuth s => s ≠ .success && s ≠ .request && s ≠ .response
  | .setPortAuthorized _ => false
  | .finished .. => false
  | .cached => false
  | .eapolEap _ => false
  | .wrote (.eapSuccess _) => false
  | _ => true

lemma EapolAct.quiet_spec {act : EapolAct} (hquiet : act.quiet = true) (h : List EapolAct) :
    authSucceeded (act :: h) = authSucceeded h ∧ eapSucceeded (act :: h) = eapSucceeded h ∧
      portOpened (act :: h) = portOpened h ∧ portTold (act :: h) = portTold h ∧
      eapWaiting (act :: h) = eapWaiting h ∧ eapolAllowed act h := by
  cases act with
  | authPae s =>
    cases s with
    | initial => exact ⟨rfl, rfl, rfl, rfl, rfl, trivial⟩
    | connecting => exact ⟨rfl, rfl, rfl, rfl, rfl, trivial⟩
    | aborting => exact ⟨rfl, rfl, rfl, rfl, rfl, trivial⟩
    | restart => exact ⟨rfl, rfl, rfl, rfl, rfl, trivial⟩
    | _ => exact absurd hquiet (by decide)
  | beAuth s =>
    cases s with
    | success => exact absurd hquiet (by decide)
    | request => exact absurd hquiet (by decide)
    | response => exact absurd hquiet (by decide)
    | _ => exact ⟨rfl, rfl, rfl, rfl, rfl, trivial⟩
  | setPortAuthorized b => exact absurd hquiet (by simp [EapolAct.quiet])
  | finished success preauth remediation => exact absurd hquiet (by simp [EapolAct.quiet])
  | cached => exact absurd hquiet (by simp [EapolAct.quiet])
  | eapolEap eap => exact absurd hquiet (by simp [EapolAct.quiet])
  | wrote w =>
    cases w with
    | eapSuccess b => exact absurd hquiet (by simp [EapolAct.quiet])
    | _ => exact ⟨rfl, rfl, rfl, rfl, rfl, trivial⟩
  | _ => exact ⟨rfl, rfl, rfl, rfl, rfl, trivial⟩

/-- The state agrees with its history. -/
structure EapolAgree (sm : EapolStateMachine) : Prop where
  success : sm.authSuccess = true → authSucceeded sm.history = true
  eapSuccess : eapSucceeded sm.history = sm.eapIf.eapSuccess
  told : portTold sm.history = sm.authPortStatus
  opened : portOpened sm.history = decide (sm.authPortStatus = some .authorized)
  /-- A forced state that is entered again is not reported again. -/
  forced : ∀ b, sm.authPaeState = (bif b then .forceAuth else .forceUnauth) → portOpened sm.history = b
  waiting : eapWaiting sm.history = sm.eapolEap
  warranted : Warranted eapolAllowed sm.history

/-! ## Steps that say nothing -/

/-- The entries that are new say nothing, and no forced state is entered; only the EAP server may be heard. -/
structure Unmoved (sm sm' : EapolStateMachine) : Prop where
  history : ∃ acts, sm'.history = acts ++ sm.history ∧
    ∀ act ∈ acts, act.quiet = true ∨ ∃ b, act = .wrote (.eapSuccess b)
  eapSuccess : eapSucceeded sm.history = sm.eapIf.eapSuccess → eapSucceeded sm'.history = sm'.eapIf.eapSuccess
  authSuccess : sm'.authSuccess = sm.authSuccess
  authPortStatus : sm'.authPortStatus = sm.authPortStatus
  eapolEap : sm'.eapolEap = sm.eapolEap
  forced : ∀ b, sm'.authPaeState = (bif b then .forceAuth else .forceUnauth) → sm'.authPaeState = sm.authPaeState

section

variable {env : EapolEnv} {sm sm' sm'' : EapolStateMachine} {act : EapolAct}

/-- Other variables are assigned. -/
lemma Unmoved.of_eq (heq : (sm'.history, sm'.eapIf.eapSuccess, sm'.authSuccess, sm'.authPortStatus, sm'.eapolEap,
    sm'.authPaeState) = (sm.history, sm.eapIf.eapSuccess, sm.authSuccess, sm.authPortStatus, sm.eapolEap,
    sm.authPaeState)) : Unmoved sm sm' := by
  simp only [Prod.mk.injEq] at heq
  obtain ⟨hhistory, heap, hsuccess, hport, hpacket, hstate⟩ := heq
  refine ⟨⟨[], hhistory, by simp⟩, ?_, hsuccess, hport, hpacket, fun _ _ => hstate⟩
  rw [hhistory, heap]
  exact id

lemma Unmoved.refl (sm : EapolStateMachine) : Unmoved sm sm := .of_eq rfl

lemma Unmoved.trans (h : Unmoved sm sm') (h' : Unmoved sm' sm'') : Unmoved sm sm'' := by
  obtain ⟨acts, hacts, hquiet⟩ := h.history
  obtain ⟨acts', hacts', hquiet'⟩ := h'.history
  refine ⟨⟨acts' ++ acts, by rw [hacts', hacts, List.append_assoc], ?_⟩, h'.eapSuccess ∘ h.eapSuccess,
    h'.authSuccess.trans h.authSuccess, h'.authPortStatus.trans h.authPortStatus, h'.eapolEap.trans h.eapolEap, ?_⟩
  · intro act hact
    rcases List.mem_append.mp hact with hact | hact
    · exact hquiet' act hact
    · exact hquiet act hact
  · intro b hb
    have hstate := h'.forced b hb
    exact hstate.trans (h.forced b (hstate ▸ hb))

lemma unmoved_record (hquiet : act.quiet = true) : Unmoved sm (sm.record act) :=
  ⟨⟨[act], rfl, by simp [hquiet]⟩, (EapolAct.quiet_spec hquiet sm.history).2.1.trans, rfl, rfl, rfl, fun _ _ => rfl⟩

/-- A state that is entered again is not reported in some cases. -/
lemma unmoved_recordIf {c : Prop} [Decidable c] (hquiet : act.quiet = true) : Unmoved sm (if c then sm.record act else sm) := by
  split
  · exact unmoved_record hquiet
  · exact .refl sm

lemma unmoved_assign (w : EapolWrite) : Unmoved sm (sm.assign w) := by
  cases w with
  | eapSuccess b => exact ⟨⟨[.wrote (.eapSuccess b)], rfl, by simp⟩, fun _ => rfl, rfl, rfl, rfl, fun _ _ => rfl⟩
  | _ => exact (unmoved_record rfl).trans (.of_eq rfl)

/-- Behind the entry of a call are the assignments that are made during the call. -/
lemma unmoved_call : Unmoved (sm.record act) (sm.call env act) := by
  unfold EapolStateMachine.call
  dsimp only
  generalize env.writes (sm.record act).history = ws
  generalize sm.record act = sm
  induction ws generalizing sm with
  | nil => exact .refl sm
  | cons w ws ih => exact (unmoved_assign w).trans (ih (sm.assign w))

lemma unmoved_quietCall (env : EapolEnv) (act : EapolAct) (hquiet : act.quiet = true) : Unmoved sm (sm.call env act) :=
  (unmoved_record hquiet).trans unmoved_call

lemma EapolAgree.unmoved (h : EapolAgree sm) (hmove : Unmoved sm sm') : EapolAgree sm' := by
  obtain ⟨acts, hacts, hquiet⟩ := hmove.history
  obtain ⟨hwarranted, hsucceeded, hopened, htold, hwaiting⟩ := h.warranted.append acts
    (fun h' => authSucceeded h' = authSucceeded sm.history ∧ portOpened h' = portOpened sm.history ∧
      portTold h' = portTold sm.history ∧ eapWaiting h' = eapWaiting sm.history) ⟨rfl, rfl, rfl, rfl⟩
    fun act hact before hkeep => by
        rcases hquiet act hact with hquiet | ⟨b, rfl⟩
        · obtain ⟨hsucceeded, -, hopened, htold, hwaiting, hallowed⟩ := EapolAct.quiet_spec hquiet before
          exact ⟨hallowed, hsucceeded.trans hkeep.1, hopened.trans hkeep.2.1, htold.trans hkeep.2.2.1,
            hwaiting.trans hkeep.2.2.2⟩
        · exact ⟨trivial, hkeep⟩
  rw [← hacts] at hwarranted hsucceeded hopened htold hwaiting
  constructor
  · rw [hmove.authSuccess, hsucceeded]
    exact h.success
  · exact hmove.eapSuccess h.eapSuccess
  · rw [htold, hmove.authPortStatus, h.told]
  · rw [hopened, hmove.authPortStatus, h.opened]
  · intro b hb
    rw [hopened]
    exact h.forced b (hmove.forced b hb ▸ hb)
  · rw [hwaiting, hmove.eapolEap, h.waiting]
  · exact hwarranted

/-! ## States -/

lemma AuthPaeState.port_forced (b : Bool) : AuthPaeState.port (bif b then .forceAuth else .forceUnauth) = some b := by
  cases b <;> rfl

lemma unmoved_enterAuthPae (global : Bool) (s : AuthPaeState) (hquiet : (EapolAct.authPae s).quiet = true) :
    Unmoved sm (sm.enterAuthPae global s) := by
  have hnone : s.port = none := by
    simp only [EapolAct.quiet, Bool.and_eq_true, Option.isNone_iff_eq_none] at hquiet
    exact hquiet.1
  have hforced : ∀ b, s ≠ (bif b then .forceAuth else .forceUnauth) := by
    intro b heq
    rw [heq, AuthPaeState.port_forced] at hnone
    exact absurd hnone (by simp)
  unfold EapolStateMachine.enterAuthPae
  extract_lets sm₁
  have hentry : Unmoved sm sm₁ := unmoved_recordIf hquiet
  exact ⟨hentry.history, hentry.eapSuccess, hentry.authSuccess, hentry.authPortStatus, hentry.eapolEap,
    fun b hb => absurd hb (hforced b)⟩

@[simp] lemma enterAuthPae_authSuccess (global : Bool) (s : AuthPaeState) :
    (sm.enterAuthPae global s).authSuccess = sm.authSuccess := by
  unfold EapolStateMachine.enterAuthPae
  dsimp only
  split <;> rfl

@[simp] lemma enterAuthPae_eapolEap (global : Bool) (s : AuthPaeState) :
    (sm.enterAuthPae global s).eapolEap = sm.eapolEap := by
  unfold EapolStateMachine.enterAuthPae
  dsimp only
  split <;> rfl

@[simp] lemma enterAuthPae_eapIf (global : Bool) (s : AuthPaeState) : (sm.enterAuthPae global s).eapIf = sm.eapIf := by
  unfold EapolStateMachine.enterAuthPae
  dsimp only
  split <;> rfl

/-- A state that does something to the port is entered, and the driver is told. -/
lemma EapolAgree.settles (h : EapolAgree sm) (global : Bool) (s : AuthPaeState) {b : Bool} (hport : s.port = some b)
    (hsuccess : s = .authenticated → sm.authSuccess = true)
    (hglobal : global = true → s = (bif b then .forceAuth else .forceUnauth)) :
    EapolAgree (({ sm.enterAuthPae global s with authPortStatus := some (portState b) } : EapolStateMachine).call env
      (.setPortAuthorized b)) := by
  have hentered : Warranted eapolAllowed (sm.enterAuthPae global s).history ∧
      portOpened (sm.enterAuthPae global s).history = b ∧
      authSucceeded (sm.enterAuthPae global s).history = authSucceeded sm.history ∧
      eapSucceeded (sm.enterAuthPae global s).history = eapSucceeded sm.history ∧
      eapWaiting (sm.enterAuthPae global s).history = eapWaiting sm.history := by
    unfold EapolStateMachine.enterAuthPae
    dsimp only
    split
    · have hrecorded : portOpened (.authPae s :: sm.history) = b := by simp [portOpened, hport]
      refine ⟨warranted_cons.mpr ⟨?_, h.warranted⟩, hrecorded, ?_, rfl, rfl⟩
      · cases s with
        | authenticated => exact h.success (hsuccess rfl)
        | _ => trivial
      · cases s with
        | authenticating => exact absurd hport (by simp [AuthPaeState.port])
        | _ => rfl
    · rename_i hold
      simp only [Bool.or_eq_true, Bool.not_eq_true', decide_eq_true_eq, not_or, Bool.not_eq_false, not_not] at hold
      exact ⟨h.warranted, h.forced b (hold.2.trans (hglobal hold.1)), rfl, rfl, rfl⟩
  obtain ⟨hwarranted, hopened, hsucceeded, heap, hwaiting⟩ := hentered
  have htold : EapolAgree (({ sm.enterAuthPae global s with
      authPortStatus := some (portState b) } : EapolStateMachine).record (.setPortAuthorized b)) := by
    constructor
    · intro hauth
      exact hsucceeded.trans (h.success ((enterAuthPae_authSuccess global s).symm.trans hauth))
    · refine heap.trans (h.eapSuccess.trans ?_)
      exact congrArg EapEapolInterface.eapSuccess (enterAuthPae_eapIf global s).symm
    · rfl
    · refine hopened.trans ?_
      cases b <;> rfl
    · intro b' hb'
      have hs : s = (bif b' then .forceAuth else .forceUnauth) := hb'
      rw [hs, AuthPaeState.port_forced] at hport
      exact hopened.trans (Option.some.inj hport).symm
    · exact hwaiting.trans (h.waiting.trans (enterAuthPae_eapolEap global s).symm)
    · exact warranted_cons.mpr ⟨hopened, hwarranted⟩
  exact htold.unmoved unmoved_call

/-- The other modules are told how the authentication has ended. -/
lemma EapolAgree.finishes (h : EapolAgree sm) {b : Bool} (hstatus : sm.authPortStatus = some (portState b))
    (preauth remediation : Bool) : EapolAgree (sm.call env (.finished b preauth remediation)) := by
  have hopened : portOpened sm.history = b := by
    rw [h.opened, hstatus]
    cases b <;> rfl
  have htold : EapolAgree (sm.record (.finished b preauth remediation)) :=
    ⟨h.success, h.eapSuccess, h.told, h.opened, h.forced, h.waiting, warranted_cons.mpr ⟨hopened, h.warranted⟩⟩
  exact htold.unmoved unmoved_call

lemma unmoved_eapolAuthTxCannedEap (success : Bool) : Unmoved sm (sm.eapolAuthTxCannedEap env success) := by
  unfold EapolStateMachine.eapolAuthTxCannedEap
  extract_lets sm₁ sm₂
  have h₁ : Unmoved sm sm₁ := .of_eq rfl
  have h₂ : Unmoved sm₁ sm₂ := unmoved_quietCall _ _ rfl
  exact (h₁.trans h₂).trans (.of_eq rfl)

lemma unmoved_eapolAuthTxReq : Unmoved sm (sm.eapolAuthTxReq env) := by
  unfold EapolStateMachine.eapolAuthTxReq
  split
  · exact .refl sm
  · rename_i data _
    split
    · exact .refl sm
    · split
      · exact .refl sm
      · extract_lets sm₁ sm₂ sm₃
        have h₁ : Unmoved sm sm₁ := .of_eq rfl
        have h₂ : Unmoved sm₁ sm₂ := unmoved_quietCall _ _ rfl
        have h₃ : Unmoved sm sm₃ := (h₁.trans h₂).trans (.of_eq rfl)
        split <;> exact h₃.trans (.of_eq rfl)

/-! ## The machine of the port -/

lemma EapolAgree.authPaeDisconnected (h : EapolAgree sm) : EapolAgree (sm.authPaeDisconnected env) := by
  unfold EapolStateMachine.authPaeDisconnected
  extract_lets fromInitialize sm₁ sm₂ sm₃ sm₄ sm₅
  have h₁ : Unmoved sm sm₁ := by
    simp only [sm₁]
    split
    · split <;> exact .of_eq rfl
    · exact .refl sm
  have h₄ : EapolAgree sm₄ := (h.unmoved h₁).settles false .disconnected rfl (by simp) (by simp)
  have h₅ : EapolAgree sm₅ := h₄.unmoved (.of_eq rfl)
  have hstatus : sm₅.authPortStatus = some (portState false) := unmoved_call.authPortStatus
  split
  · exact h₅
  · exact h₅.finishes hstatus _ _

lemma EapolAgree.authPaeHeld (h : EapolAgree sm) : EapolAgree (sm.authPaeHeld env) := by
  unfold EapolStateMachine.authPaeHeld
  extract_lets sm₁ sm₂ sm₃ sm₄ sm₅
  have h₁ : Unmoved sm sm₁ := by
    simp only [sm₁]
    split <;> exact .of_eq rfl
  have h₄ : EapolAgree sm₄ := (h.unmoved h₁).settles false .held rfl (by simp) (by simp)
  have h₅ : EapolAgree sm₅ := h₄.unmoved (.of_eq rfl)
  have hstatus : sm₅.authPortStatus = some (portState false) := unmoved_call.authPortStatus
  exact h₅.finishes hstatus _ _

lemma EapolAgree.authPaeAuthenticated (h : EapolAgree sm) (hsuccess : sm.authSuccess = true) :
    EapolAgree (sm.authPaeAuthenticated env) := by
  unfold EapolStateMachine.authPaeAuthenticated
  extract_lets sm₁ sm₂ sm₃ sm₄ sm₅
  have h₁ : Unmoved sm sm₁ := by
    simp only [sm₁]
    split <;> exact .of_eq rfl
  have h₄ : EapolAgree sm₄ := (h.unmoved h₁).settles false .authenticated rfl
    (fun _ => h₁.authSuccess.trans hsuccess) (by simp)
  have h₅ : EapolAgree sm₅ := h₄.unmoved (.of_eq rfl)
  have hstatus : sm₅.authPortStatus = some (portState true) := unmoved_call.authPortStatus
  exact h₅.finishes hstatus _ _

/-- An authentication that begins has not succeeded yet. -/
lemma EapolAgree.authPaeAuthenticating (h : EapolAgree sm) : EapolAgree sm.authPaeAuthenticating := by
  refine ⟨fun hsuccess => absurd hsuccess Bool.false_ne_true, h.eapSuccess, h.told, h.opened, ?_, h.waiting,
    warranted_cons.mpr ⟨trivial, h.warranted⟩⟩
  intro b hb
  cases b <;> exact absurd hb (by simp [EapolStateMachine.authPaeAuthenticating, EapolStateMachine.enterAuthPae])

lemma unmoved_authPaeInitialize : Unmoved sm sm.authPaeInitialize := by
  unfold EapolStateMachine.authPaeInitialize
  extract_lets sm₁
  have h₁ : Unmoved sm sm₁ := unmoved_enterAuthPae true .initial rfl
  exact h₁.trans (.of_eq rfl)

lemma unmoved_authPaeRestart : Unmoved sm sm.authPaeRestart := by
  unfold EapolStateMachine.authPaeRestart
  extract_lets sm₁ sm₂ sm₃ sm₄
  have h₁ : Unmoved sm sm₁ := by
    simp only [sm₁]
    split <;> exact .of_eq rfl
  have h₂ : Unmoved sm₁ sm₂ := by
    simp only [sm₂]
    split <;> exact .of_eq rfl
  have h₃ : Unmoved sm sm₃ := by
    simp only [sm₃]
    split
    · split <;> exact (h₁.trans h₂).trans (.of_eq rfl)
    · exact .refl sm
  have h₄ : Unmoved sm₃ sm₄ := unmoved_enterAuthPae false .restart rfl
  exact (h₃.trans h₄).trans (.of_eq rfl)

lemma unmoved_authPaeConnecting : Unmoved sm sm.authPaeConnecting := by
  unfold EapolStateMachine.authPaeConnecting
  extract_lets sm₁ sm₂
  have h₁ : Unmoved sm sm₁ := by
    simp only [sm₁]
    split <;> exact .of_eq rfl
  have h₂ : Unmoved sm₁ sm₂ := unmoved_enterAuthPae false .connecting rfl
  exact (h₁.trans h₂).trans (.of_eq rfl)

lemma unmoved_authPaeAborting : Unmoved sm sm.authPaeAborting := by
  unfold EapolStateMachine.authPaeAborting
  extract_lets sm₁ sm₂ sm₃ sm₄
  have h₁ : Unmoved sm sm₁ := by
    simp only [sm₁]
    split <;> exact .of_eq rfl
  have h₂ : Unmoved sm₁ sm₂ := by
    simp only [sm₂]
    split <;> exact .of_eq rfl
  have h₃ : Unmoved sm sm₃ := by
    simp only [sm₃]
    split
    · split <;> exact (h₁.trans h₂).trans (.of_eq rfl)
    · exact .refl sm
  have h₄ : Unmoved sm₃ sm₄ := unmoved_enterAuthPae false .aborting rfl
  exact (h₃.trans h₄).trans (.of_eq rfl)

lemma EapolAgree.authPaeForceAuth (h : EapolAgree sm) (global : Bool) : EapolAgree (sm.authPaeForceAuth env global) := by
  unfold EapolStateMachine.authPaeForceAuth
  extract_lets sm₁ sm₂ sm₃ sm₄
  have h₃ : EapolAgree sm₃ := h.settles global .forceAuth rfl (by simp) (fun _ => rfl)
  have h₄ : EapolAgree sm₄ := h₃.unmoved (.of_eq rfl)
  exact h₄.unmoved (unmoved_eapolAuthTxCannedEap true)

lemma EapolAgree.authPaeForceUnauth (h : EapolAgree sm) (global : Bool) :
    EapolAgree (sm.authPaeForceUnauth env global) := by
  unfold EapolStateMachine.authPaeForceUnauth
  extract_lets sm₁ sm₂ sm₃ sm₄
  have h₃ : EapolAgree sm₃ := h.settles global .forceUnauth rfl (by simp) (fun _ => rfl)
  have h₄ : EapolAgree sm₄ := h₃.unmoved (.of_eq rfl)
  exact h₄.unmoved (unmoved_eapolAuthTxCannedEap false)

lemma EapolAgree.authPaeStep (h : EapolAgree sm) : EapolAgree (sm.authPaeStep env) := by
  unfold EapolStateMachine.authPaeStep
  split
  · exact h.unmoved unmoved_authPaeInitialize
  split
  · exact h.authPaeForceAuth true
  split
  · exact h.authPaeForceUnauth true
  split
  · exact h.authPaeDisconnected
  · exact h.unmoved unmoved_authPaeRestart
  · split
    · exact h.unmoved unmoved_authPaeConnecting
    · exact h
  · split
    · exact h.unmoved unmoved_authPaeRestart
    · exact h
  · split
    · exact h.authPaeDisconnected
    split
    · exact h.authPaeAuthenticating
    · exact h
  · split
    · exact h.unmoved unmoved_authPaeRestart
    split
    · exact h.authPaeDisconnected
    · exact h
  · split
    · rename_i hsuccess
      exact h.authPaeAuthenticated hsuccess.1
    split
    · exact h.authPaeHeld
    split
    · exact h.unmoved unmoved_authPaeAborting
    · exact h
  · split
    · exact h.authPaeDisconnected
    split
    · exact h.unmoved unmoved_authPaeRestart
    · exact h
  · split
    · exact h.authPaeForceAuth false
    · exact h
  · split
    · exact h.authPaeForceUnauth false
    · exact h

/-! ## The backend -/

lemma unmoved_enterBeAuth (global : Bool) (s : BeAuthState) (hquiet : (EapolAct.beAuth s).quiet = true) :
    Unmoved sm (sm.enterBeAuth global s) := by
  unfold EapolStateMachine.enterBeAuth
  extract_lets sm₁
  have hentry : Unmoved sm sm₁ := unmoved_recordIf hquiet
  exact hentry.trans (.of_eq rfl)

lemma unmoved_beAuthInitialize : Unmoved sm (sm.beAuthInitialize env) := by
  unfold EapolStateMachine.beAuthInitialize
  extract_lets sm₁ sm₂
  have h₁ : Unmoved sm sm₁ := unmoved_enterBeAuth true .initial rfl
  have h₂ : Unmoved sm₁ sm₂ := unmoved_quietCall _ _ rfl
  exact (h₁.trans h₂).trans (.of_eq rfl)

lemma unmoved_beAuthFail : Unmoved sm (sm.beAuthFail env) := by
  unfold EapolStateMachine.beAuthFail
  extract_lets sm₁ sm₂
  have h₁ : Unmoved sm sm₁ := unmoved_enterBeAuth false .fail rfl
  have h₂ : Unmoved sm₁ sm₂ := unmoved_eapolAuthTxReq
  exact (h₁.trans h₂).trans (.of_eq rfl)

lemma unmoved_beAuthTimeout : Unmoved sm sm.beAuthTimeout := by
  unfold EapolStateMachine.beAuthTimeout
  extract_lets sm₁
  have h₁ : Unmoved sm sm₁ := unmoved_enterBeAuth false .timeout rfl
  exact h₁.trans (.of_eq rfl)

lemma unmoved_beAuthIdle : Unmoved sm sm.beAuthIdle := by
  unfold EapolStateMachine.beAuthIdle
  extract_lets sm₁
  have h₁ : Unmoved sm sm₁ := unmoved_enterBeAuth false .idle rfl
  exact h₁.trans (.of_eq rfl)

lemma unmoved_beAuthIgnore : Unmoved sm sm.beAuthIgnore := by
  unfold EapolStateMachine.beAuthIgnore
  extract_lets sm₁
  have h₁ : Unmoved sm sm₁ := unmoved_enterBeAuth false .ignore rfl
  exact h₁.trans (.of_eq rfl)

lemma unmoved_count (c : EapolCounter) : Unmoved sm (sm.count c) := .of_eq rfl

/-- A packet that came before a request is forgotten. -/
lemma EapolAgree.beAuthRequest (h : EapolAgree sm) : EapolAgree (sm.beAuthRequest env) := by
  unfold EapolStateMachine.beAuthRequest
  extract_lets sm₁ sm₂
  have h₁ : EapolAgree ({ sm₁ with eapolEap := false } : EapolStateMachine) :=
    ⟨h.success, h.eapSuccess, h.told, h.opened, h.forced, rfl, warranted_cons.mpr ⟨trivial, h.warranted⟩⟩
  have h₂ : Unmoved sm₁ sm₂ := unmoved_eapolAuthTxReq
  exact h₁.unmoved ⟨h₂.history, h₂.eapSuccess, h₂.authSuccess, h₂.authPortStatus, rfl, h₂.forced⟩

/-- The packet is handed over. -/
lemma EapolAgree.beAuthResponse (h : EapolAgree sm) (hpacket : sm.eapolEap = true) : EapolAgree sm.beAuthResponse :=
  ⟨h.success, h.eapSuccess, h.told, h.opened, h.forced, rfl,
    warranted_cons.mpr ⟨h.waiting.trans hpacket, h.warranted⟩⟩

/-- The entry of `SUCCESS` is what `authSuccess` stands for. -/
lemma EapolAgree.beAuthSuccess (h : EapolAgree sm) (heap : sm.eapIf.eapSuccess = true) : EapolAgree (sm.beAuthSuccess env) := by
  unfold EapolStateMachine.beAuthSuccess
  extract_lets sm₁ sm₂
  have h₁ : EapolAgree ({ sm₁ with authSuccess := true } : EapolStateMachine) :=
    ⟨fun _ => rfl, h.eapSuccess, h.told, h.opened, h.forced, h.waiting,
      warranted_cons.mpr ⟨h.eapSuccess.trans heap, h.warranted⟩⟩
  have h₂ : Unmoved sm₁ sm₂ := unmoved_eapolAuthTxReq
  exact h₁.unmoved ⟨h₂.history, h₂.eapSuccess, rfl, h₂.authPortStatus, h₂.eapolEap, h₂.forced⟩

lemma EapolAgree.beAuthStep (h : EapolAgree sm) : EapolAgree (sm.beAuthStep env) := by
  unfold EapolStateMachine.beAuthStep
  split
  · exact h.unmoved unmoved_beAuthInitialize
  split
  · exact h.unmoved unmoved_beAuthIdle
  · split
    · rename_i hpacket
      exact h.beAuthResponse hpacket
    split
    · exact h.beAuthRequest
    split
    · exact h.unmoved unmoved_beAuthTimeout
    · exact h
  · split
    · rename_i hpacket
      exact h.beAuthResponse hpacket
    split
    · exact h.beAuthRequest
    split
    · exact h.unmoved unmoved_beAuthTimeout
    · exact h
  · extract_lets sm₁
    have h₁ : EapolAgree sm₁ := by
      simp only [sm₁]
      split
      · exact h.unmoved unmoved_beAuthIgnore
      · exact h
    split
    · exact (h₁.unmoved (unmoved_count _)).beAuthRequest
    split
    · exact h₁.unmoved unmoved_beAuthTimeout
    split
    · exact h₁.unmoved ((unmoved_count _).trans unmoved_beAuthFail)
    split
    · rename_i heap
      exact (h₁.unmoved (unmoved_count _)).beAuthSuccess heap
    · exact h₁
  · exact h.unmoved unmoved_beAuthIdle
  · exact h.unmoved unmoved_beAuthIdle
  · exact h.unmoved unmoved_beAuthIdle
  · split
    · exact h.unmoved unmoved_beAuthFail
    split
    · exact h.beAuthRequest
    split
    · rename_i heap
      exact h.beAuthSuccess heap.1
    · exact h

/-! ## The other machines -/

lemma unmoved_enterReauthTimer (global : Bool) (s : ReauthTimerState) : Unmoved sm (sm.enterReauthTimer global s) := by
  unfold EapolStateMachine.enterReauthTimer
  extract_lets sm₁
  have hentry : Unmoved sm sm₁ := unmoved_recordIf rfl
  exact hentry.trans (.of_eq rfl)

lemma unmoved_enterAuthKeyTx (global : Bool) (s : AuthKeyTxState) : Unmoved sm (sm.enterAuthKeyTx global s) := by
  unfold EapolStateMachine.enterAuthKeyTx
  extract_lets sm₁
  have hentry : Unmoved sm sm₁ := unmoved_recordIf rfl
  exact hentry.trans (.of_eq rfl)

lemma unmoved_enterKeyRx (global : Bool) (s : KeyRxState) : Unmoved sm (sm.enterKeyRx global s) := by
  unfold EapolStateMachine.enterKeyRx
  extract_lets sm₁
  have hentry : Unmoved sm sm₁ := unmoved_recordIf rfl
  exact hentry.trans (.of_eq rfl)

lemma unmoved_enterCtrlDir (global : Bool) (s : CtrlDirState) : Unmoved sm (sm.enterCtrlDir global s) := by
  unfold EapolStateMachine.enterCtrlDir
  extract_lets sm₁
  have hentry : Unmoved sm sm₁ := unmoved_recordIf rfl
  exact hentry.trans (.of_eq rfl)

lemma unmoved_reauthTimerStep : Unmoved sm (sm.reauthTimerStep env) := by
  have hinitialize (global : Bool) : Unmoved sm (sm.reauthTimerInitialize global) :=
    (unmoved_enterReauthTimer global .initial).trans (.of_eq rfl)
  unfold EapolStateMachine.reauthTimerStep
  split
  · exact hinitialize true
  split
  · split
    · unfold EapolStateMachine.reauthTimerReauthenticate
      extract_lets sm₁ sm₂
      have h₂ : Unmoved sm sm₂ := (unmoved_enterReauthTimer false .reauthenticate).trans (.of_eq rfl)
      exact h₂.trans (unmoved_quietCall _ _ rfl)
    · exact .refl sm
  · exact hinitialize false

lemma unmoved_authKeyTxStep : Unmoved sm (sm.authKeyTxStep env) := by
  have htransmit : Unmoved sm (sm.authKeyTxKeyTransmit env) := by
    unfold EapolStateMachine.authKeyTxKeyTransmit
    extract_lets sm₁ sm₂
    have h₁ : Unmoved sm sm₁ := unmoved_enterAuthKeyTx false .keyTransmit
    have h₂ : Unmoved sm₁ sm₂ := unmoved_quietCall _ _ rfl
    exact (h₁.trans h₂).trans (.of_eq rfl)
  unfold EapolStateMachine.authKeyTxStep
  split
  · exact unmoved_enterAuthKeyTx true .noKeyTransmit
  split
  · split
    · exact htransmit
    · exact .refl sm
  · split
    · exact unmoved_enterAuthKeyTx false .noKeyTransmit
    split
    · exact htransmit
    · exact .refl sm

lemma unmoved_keyRxStep : Unmoved sm sm.keyRxStep := by
  unfold EapolStateMachine.keyRxStep
  split
  · exact unmoved_enterKeyRx true .noKeyReceive
  split
  · exact (unmoved_enterKeyRx false .keyReceive).trans (.of_eq rfl)
  · exact .refl sm

lemma unmoved_ctrlDirStep : Unmoved sm sm.ctrlDirStep := by
  have hinOrBoth (global : Bool) : Unmoved sm (sm.ctrlDirInOrBoth global) :=
    (unmoved_enterCtrlDir global .inOrBoth).trans (.of_eq rfl)
  unfold EapolStateMachine.ctrlDirStep
  split
  · exact hinOrBoth true
  split
  · split
    · exact hinOrBoth false
    · exact .refl sm
  · extract_lets sm₁
    have h₁ : Unmoved sm sm₁ := by
      simp only [sm₁]
      split
      · exact hinOrBoth false
      · exact .refl sm
    split
    · exact h₁.trans ((unmoved_enterCtrlDir false .forceBoth).trans (.of_eq rfl))
    · exact h₁

/-! ## Runs -/

lemma EapolAgree.ifAlive (h : EapolAgree sm) {step : EapolStateMachine → EapolStateMachine} (hstep : EapolAgree (step sm)) :
    EapolAgree (sm.ifAlive env step) := by
  unfold EapolStateMachine.ifAlive
  split
  · exact hstep
  · exact h

lemma EapolAgree.stepAll (h : EapolAgree sm) : EapolAgree (sm.stepAll env) := by
  unfold EapolStateMachine.stepAll
  extract_lets sm₁ sm₂ sm₃ sm₄ sm₅
  have h₁ : EapolAgree sm₁ := h.authPaeStep
  have h₂ : EapolAgree sm₂ := h₁.ifAlive h₁.beAuthStep
  have h₃ : EapolAgree sm₃ := h₂.ifAlive (h₂.unmoved unmoved_reauthTimerStep)
  have h₄ : EapolAgree sm₄ := h₃.ifAlive (h₃.unmoved unmoved_authKeyTxStep)
  have h₅ : EapolAgree sm₅ := h₄.ifAlive (h₄.unmoved unmoved_keyRxStep)
  exact h₅.ifAlive (h₅.unmoved unmoved_ctrlDirStep)

lemma unmoved_notifyChange : Unmoved sm (sm.notifyChange env) := by
  unfold EapolStateMachine.notifyChange
  split
  · exact unmoved_quietCall _ _ rfl
  · exact .refl sm

lemma unmoved_aaaSend (hsend : sm.aaaSend env = some sm') : Unmoved sm sm' := by
  unfold EapolStateMachine.aaaSend at hsend
  split at hsend
  · dsimp only at hsend
    split at hsend
    · exact absurd hsend (by simp)
    · rename_i data _
      obtain rfl := Option.some.inj hsend
      have hclear : Unmoved sm ({ sm with eapIf := { sm.eapIf with aaaEapResp := false } } : EapolStateMachine) :=
        .of_eq rfl
      exact hclear.trans (unmoved_quietCall _ _ rfl)
  · obtain rfl := Option.some.inj hsend
    exact .refl sm

/-- Each turn of the loop keeps the agreement, and so does each way out of it. -/
lemma EapolAgree.stepLoop (maxSteps : ℕ) (h : EapolAgree sm) : EapolAgree (EapolStateMachine.stepLoop env maxSteps sm) := by
  induction maxSteps generalizing sm with
  | zero => exact h
  | succ maxSteps ih =>
    have hagain (sm : EapolStateMachine) (h : EapolAgree sm) :
        EapolAgree (if 0 < maxSteps then EapolStateMachine.stepLoop env maxSteps sm else sm.eapolAuthStep) := by
      split
      · exact ih h
      · exact h.unmoved (unmoved_record rfl)
    have h₁ : EapolAgree (sm.stepAll env) := h.stepAll
    have h₂ : EapolAgree ((sm.stepAll env).call env .eapServerSmStep) := h₁.unmoved (unmoved_quietCall _ _ rfl)
    rw [EapolStateMachine.stepLoop]
    split
    · exact hagain _ h₁
    split
    · dsimp only
      split
      · exact hagain _ h₂
      split
      · rename_i hsend
        exact h₂.unmoved ((unmoved_aaaSend hsend).trans unmoved_notifyChange)
      · exact h₂.unmoved (.of_eq rfl)
    · exact h₁.unmoved unmoved_notifyChange

lemma EapolAgree.eapolSmStepRun (h : EapolAgree sm) : EapolAgree (sm.eapolSmStepRun env) := h.stepLoop 100

lemma EapolAgree.eapolAuthInitialize (h : EapolAgree sm) : EapolAgree (sm.eapolAuthInitialize env) := by
  unfold EapolStateMachine.eapolAuthInitialize
  extract_lets sm₁ sm₂ sm₃ sm₄
  have h₁ : EapolAgree sm₁ := h.unmoved (.of_eq rfl)
  have h₂ : EapolAgree sm₂ := h₁.eapolSmStepRun
  have h₃ : EapolAgree sm₃ := h₂.unmoved (.of_eq rfl)
  have h₄ : EapolAgree sm₄ := h₃.eapolSmStepRun
  exact h₄.unmoved (.of_eq rfl)

/-- A packet of the station is kept. -/
lemma EapolAgree.keptEap (h : EapolAgree sm) (eap : List UInt8) :
    EapolAgree ({ sm.record (.eapolEap eap) with
      eapIf := { sm.eapIf with eapRespData := some eap }
      eapolEap := true } : EapolStateMachine) :=
  ⟨h.success, h.eapSuccess, h.told, h.opened, h.forced, rfl, warranted_cons.mpr ⟨trivial, h.warranted⟩⟩

lemma EapolAgree.handleEap (h : EapolAgree sm) (buf : List UInt8) : EapolAgree (sm.handleEap buf) := by
  unfold EapolStateMachine.handleEap
  split
  · exact h
  extract_lets eapLen
  split
  · exact h
  split
  · exact h
  split
  · unfold EapolStateMachine.handleEapResponse
    split
    · exact h
    · exact (h.unmoved (unmoved_count .dot1xAuthEapolRespFramesRx)).keptEap _
  split
  · unfold EapolStateMachine.handleEapInitiate
    split
    · exact h
    · exact h.keptEap _
  · exact h

lemma EapolAgree.receiveType (h : EapolAgree sm) (type : UInt8) (body : List UInt8) :
    EapolAgree (sm.receiveType env type body) := by
  unfold EapolStateMachine.receiveType
  split
  · exact h.handleEap body
  split
  · extract_lets flags sm₁ sm₂
    have h₂ : Unmoved sm sm₂ := .of_eq rfl
    exact h.unmoved (h₂.trans (unmoved_quietCall _ _ rfl))
  split
  · exact h.unmoved (.of_eq rfl)
  split
  · exact h
  · exact h.unmoved (unmoved_count _)

lemma EapolAgree.receive (h : EapolAgree sm) (rx : EapolRxContext) (buf : List UInt8) :
    EapolAgree (sm.receive env rx buf) := by
  unfold EapolStateMachine.receive
  split
  · exact h
  split
  · exact h
  split
  · exact h
  extract_lets datalen sm₁ sm₂
  split
  · exact h.unmoved (unmoved_count _)
  have h₂ : EapolAgree sm₂ := h.unmoved (.of_eq rfl)
  split
  · exact h₂.unmoved (unmoved_quietCall _ _ rfl)
  split
  · exact h₂
  split
  · exact h₂
  · exact (h₂.receiveType _ _).unmoved (unmoved_record rfl)

lemma EapolAgree.newStation (h : EapolAgree sm) (waitStart : Bool) (known : Option Bool) (reassoc : Bool) :
    EapolAgree (sm.newStation waitStart known reassoc) := by
  unfold EapolStateMachine.newStation
  extract_lets flags eapIf sm₁
  have h₁ : EapolAgree sm₁ := h.unmoved (.of_eq rfl)
  cases known with
  | some ft =>
    refine ⟨fun _ => rfl, h₁.eapSuccess, h₁.told, h₁.opened, ?_, h₁.waiting,
      warranted_cons.mpr ⟨trivial, h₁.warranted⟩⟩
    intro b hb
    cases b <;> exact absurd hb (by simp [EapolStateMachine.setCached])
  | none =>
    have h₂ : EapolAgree (if reassoc then { sm₁ with reAuthenticate := true } else sm₁) := by
      split
      · exact h₁.unmoved (.of_eq rfl)
      · exact h₁
    exact h₂.unmoved (unmoved_record rfl)

lemma eapolAgree_eapolAuthAlloc (conf : EapolAuthConfig) (flags : EapolSmFlags) : EapolAgree (eapolAuthAlloc conf flags) := by
  refine ⟨fun hsuccess => absurd hsuccess Bool.false_ne_true, rfl, rfl, rfl, ?_, rfl, warranted_nil⟩
  intro b hb
  cases b <;> exact absurd hb (by simp [eapolAuthAlloc])

lemma EapolAgree.next (h : EapolAgree sm) {e : EapolEvent} (hnext : eapolNext env sm e = some sm') : EapolAgree sm' := by
  cases e with
  | initialized => exact Option.some.inj hnext ▸ h.eapolAuthInitialize
  | stepped => exact Option.some.inj hnext ▸ h.eapolSmStepRun
  | ticked =>
    obtain rfl := Option.some.inj hnext
    exact EapolAgree.eapolSmStepRun (h.unmoved (.of_eq rfl))
  | received rx buf => exact Option.some.inj hnext ▸ h.receive rx buf
  | associated waitStart known reassoc => exact Option.some.inj hnext ▸ h.newStation waitStart known reassoc
  | wrote w => exact Option.some.inj hnext ▸ h.unmoved (unmoved_assign w)

end

/-! ## Authorized ports -/

/-- The entry that has opened the port. -/
lemma exists_of_portOpened {h : List EapolAct} (hopened : portOpened h = true) :
    ∃ later s before, h = later ++ .authPae s :: before ∧ s.port = some true ∧
      ∀ s', EapolAct.authPae s' ∈ later → s'.port = none := by
  induction h with
  | nil => exact absurd hopened (by simp [portOpened])
  | cons act h ih =>
    by_cases hentry : ∃ s b, act = .authPae s ∧ s.port = some b
    · obtain ⟨s, b, rfl, hport⟩ := hentry
      simp only [portOpened, hport, Option.getD_some] at hopened
      exact ⟨[], s, h, rfl, hopened ▸ hport, by simp⟩
    · have hskip : portOpened h = true := by
        cases act with
        | authPae s =>
          cases hport : s.port with
          | none => simpa [portOpened, hport] using hopened
          | some b => exact absurd ⟨s, b, rfl, hport⟩ hentry
        | _ => exact hopened
      obtain ⟨later, s, before, rfl, hport, hlater⟩ := ih hskip
      refine ⟨act :: later, s, before, rfl, hport, ?_⟩
      intro s' hs'
      rcases List.mem_cons.mp hs' with rfl | hs'
      · cases hport' : s'.port with
        | none => rfl
        | some b => exact absurd ⟨s', b, rfl, hport'⟩ hentry
      · exact hlater s' hs'

/-- The success that an authentication has come to. -/
lemma exists_of_authSucceeded {h : List EapolAct} (hsucceeded : authSucceeded h = true) :
    ∃ later e before, h = later ++ e :: before ∧ (e = .beAuth .success ∨ e = .cached) ∧
      EapolAct.authPae .authenticating ∉ later := by
  induction h with
  | nil => exact absurd hsucceeded (by simp [authSucceeded])
  | cons act h ih =>
    by_cases hentry : act = .beAuth .success ∨ act = .cached
    · exact ⟨[], act, h, rfl, hentry, by simp⟩
    · have hne : act ≠ .authPae .authenticating := by
        rintro rfl
        exact absurd hsucceeded (by simp [authSucceeded])
      have hskip : authSucceeded h = true := by
        cases act with
        | authPae s =>
          cases s with
          | authenticating => exact absurd rfl hne
          | _ => exact hsucceeded
        | beAuth s =>
          cases s with
          | success => exact absurd (.inl rfl) hentry
          | _ => exact hsucceeded
        | cached => exact absurd (.inr rfl) hentry
        | _ => exact hsucceeded
      obtain ⟨later, e, before, rfl, he, hlater⟩ := ih hskip
      refine ⟨act :: later, e, before, rfl, he, ?_⟩
      simp [hlater, hne.symm]

/-- The last state that does something to the port is a forced one, or one that was entered since the authentication was begun
with a key that was known or when the backend had succeeded, which it does if the EAP server says so. -/
def PortEarned (h : List EapolAct) : Prop :=
  ∃ later s before, h = later ++ .authPae s :: before ∧ (∀ s', EapolAct.authPae s' ∈ later → s'.port = none) ∧
    (s = .forceAuth ∨ s = .authenticated ∧
      ∃ between e earlier, before = between ++ e :: earlier ∧ EapolAct.authPae .authenticating ∉ between ∧
        (e = .beAuth .success ∧ eapSucceeded earlier = true ∨ e = .cached))

/-- In every run the driver was told what the port status says, each entry of the history was allowed by those before it, and
an authorized port was earned. -/
theorem port_of_run (env : EapolEnv) (conf : EapolAuthConfig) (flags : EapolSmFlags) (es : List EapolEvent)
    (sm : EapolStateMachine) (hrun : Run (eapolNext env) (eapolAuthAlloc conf flags) es sm) :
    portTold sm.history = sm.authPortStatus ∧ Warranted eapolAllowed sm.history ∧
      (sm.authPortStatus = some .authorized → PortEarned sm.history) := by
  have hagree : EapolAgree sm := hrun.invariant (eapolAgree_eapolAuthAlloc conf flags) fun _ _ _ h hnext => h.next hnext
  refine ⟨hagree.told, hagree.warranted, ?_⟩
  intro hport
  have hopened : portOpened sm.history = true := by
    rw [hagree.opened, hport]
    rfl
  obtain ⟨later, s, before, hhistory, hs, hlater⟩ := exists_of_portOpened hopened
  refine ⟨later, s, before, hhistory, hlater, ?_⟩
  cases s with
  | forceAuth => exact .inl rfl
  | authenticated =>
    have hbefore : EapolAct.authPae .authenticated :: before <:+ sm.history := ⟨later, hhistory.symm⟩
    have hsucceeded : authSucceeded before = true := hagree.warranted _ _ hbefore
    obtain ⟨between, e, earlier, hsplit, he, hbetween⟩ := exists_of_authSucceeded hsucceeded
    refine .inr ⟨rfl, between, e, earlier, hsplit, hbetween, ?_⟩
    rcases he with rfl | rfl
    · have hearlier : EapolAct.beAuth .success :: earlier <:+ before := ⟨between, hsplit.symm⟩
      have hsuffix : EapolAct.beAuth .success :: earlier <:+ sm.history :=
        (hearlier.trans (List.suffix_cons _ before)).trans hbefore
      exact .inl ⟨rfl, hagree.warranted _ _ hsuffix⟩
    · exact .inr rfl
  | _ => exact absurd hs (by simp [AuthPaeState.port])

/-- The other modules assign nothing while they are called. -/
def idleEapolEnv : EapolEnv where
  staEntryAlive := fun _ => true
  writes := fun _ => []
  eapStepped := fun _ => false

/-- An interface without WPA. -/
def openConfig : EapolAuthConfig where
  wpa := false
  defaultWepKey := false
  individualWepKeyLen := 0
  eapReauthPeriod := 3600

/-- What is received with 802.1X from a station that is associated. -/
def openRx : EapolRxContext where
  ieee8021x := true
  wpa := false
  osen := false
  wpsState := false
  associated := true
  staWps := false
  wpaPsk := false

/-- An EAP server asks a station for its identity, and is satisfied with the answer. -/
def identityEvents : List EapolEvent :=
  [.initialized, .associated false none false, .stepped, .wrote (.eapRestart false), .stepped,
    .wrote (.eapReqData (some [1, 1, 0, 5, 1])), .wrote (.eapReq true), .stepped,
    .received openRx [2, 0, 0, 6, 2, 1, 0, 6, 1, 97], .stepped, .wrote (.eapSuccess true), .stepped]

/-- Where the events lead to. -/
def eapolAfter (env : EapolEnv) (sm : EapolStateMachine) (es : List EapolEvent) : EapolStateMachine :=
  es.foldl (fun sm e => (eapolNext env sm e).getD sm) sm

lemma run_eapolAfter (env : EapolEnv) (sm : EapolStateMachine) (es : List EapolEvent) :
    Run (eapolNext env) sm es (eapolAfter env sm es) := by
  induction es using List.reverseRecOn with
  | nil => exact .nil
  | append_singleton es e ih =>
    have hafter : eapolAfter env sm (es ++ [e]) = (eapolNext env (eapolAfter env sm es) e).getD (eapolAfter env sm es) := by
      simp [eapolAfter]
    refine ih.snoc ?_
    rw [hafter]
    cases e <;> rfl

theorem port_of_run_identity : ∃ sm, sm = eapolAfter idleEapolEnv (eapolAuthAlloc openConfig {}) identityEvents ∧
    sm.authPortStatus = some .authorized ∧ portTold sm.history = some .authorized ∧ PortEarned sm.history := by
  have hport : (eapolAfter idleEapolEnv (eapolAuthAlloc openConfig {}) identityEvents).authPortStatus = some .authorized := by
    decide +kernel
  obtain ⟨htold, -, hearned⟩ := port_of_run idleEapolEnv openConfig {} identityEvents _
    (run_eapolAfter idleEapolEnv (eapolAuthAlloc openConfig {}) identityEvents)
  exact ⟨_, rfl, hport, htold.trans hport, hearned hport⟩

/-! ## Answers of the station -/

def EapolAct.isResponse : EapolAct → Bool
  | .beAuth .response => true
  | _ => false

def EapolAct.isPacket : EapolAct → Bool
  | .eapolEap _ => true
  | _ => false

/-- The packet that waits. -/
lemma exists_of_eapWaiting {h : List EapolAct} (hwaiting : eapWaiting h = true) :
    ∃ between eap earlier, h = between ++ .eapolEap eap :: earlier ∧ EapolAct.beAuth .response ∉ between ∧
      EapolAct.beAuth .request ∉ between := by
  induction h with
  | nil => exact absurd hwaiting (by simp [eapWaiting])
  | cons act h ih =>
    by_cases hpacket : ∃ eap, act = .eapolEap eap
    · obtain ⟨eap, rfl⟩ := hpacket
      exact ⟨[], eap, h, rfl, by simp, by simp⟩
    · have hresponse : act ≠ .beAuth .response := by
        rintro rfl
        exact absurd hwaiting (by simp [eapWaiting])
      have hrequest : act ≠ .beAuth .request := by
        rintro rfl
        exact absurd hwaiting (by simp [eapWaiting])
      have hskip : eapWaiting h = true := by
        cases act with
        | eapolEap eap => exact absurd ⟨eap, rfl⟩ hpacket
        | beAuth s =>
          cases s with
          | request => exact absurd rfl hrequest
          | response => exact absurd rfl hresponse
          | _ => exact hwaiting
        | _ => exact hwaiting
      obtain ⟨between, eap, earlier, rfl, hno, hno'⟩ := ih hskip
      exact ⟨act :: between, eap, earlier, rfl, by simp [hno, hresponse.symm], by simp [hno', hrequest.symm]⟩

/-- Each packet is handed over at most once; the last one may still wait. -/
lemma countP_isResponse_le {h : List EapolAct} (hwarranted : Warranted eapolAllowed h) :
    h.countP EapolAct.isResponse + (eapWaiting h).toNat ≤ h.countP EapolAct.isPacket := by
  induction h with
  | nil => simp [eapWaiting]
  | cons act h ih =>
    obtain ⟨hallowed, hwarranted⟩ := warranted_cons.mp hwarranted
    have hle := ih hwarranted
    rw [List.countP_cons, List.countP_cons]
    cases act with
    | eapolEap eap =>
      simp only [EapolAct.isResponse, EapolAct.isPacket, eapWaiting, Bool.toNat_true, if_true, Bool.false_eq_true, if_false]
      omega
    | beAuth s =>
      cases s with
      | request =>
        simp only [EapolAct.isResponse, EapolAct.isPacket, eapWaiting, Bool.toNat_false, Bool.false_eq_true, if_false]
        omega
      | response =>
        have hwaiting : eapWaiting h = true := hallowed
        simp only [hwaiting, Bool.toNat_true] at hle
        simp only [EapolAct.isResponse, EapolAct.isPacket, eapWaiting, Bool.toNat_false, if_true, Bool.false_eq_true, if_false]
        omega
      | _ => exact hle
    | _ => exact hle

/-- In every run each packet of the station is handed to the EAP server at most once, and none that was received before the
last request was sent. -/
theorem responses_of_run (env : EapolEnv) (conf : EapolAuthConfig) (flags : EapolSmFlags) (es : List EapolEvent)
    (sm : EapolStateMachine) (hrun : Run (eapolNext env) (eapolAuthAlloc conf flags) es sm) :
    sm.history.countP EapolAct.isResponse ≤ sm.history.countP EapolAct.isPacket ∧
      ∀ later before, sm.history = later ++ .beAuth .response :: before →
        ∃ between eap earlier, before = between ++ .eapolEap eap :: earlier ∧ EapolAct.beAuth .response ∉ between ∧
          EapolAct.beAuth .request ∉ between := by
  have hagree : EapolAgree sm := hrun.invariant (eapolAgree_eapolAuthAlloc conf flags) fun _ _ _ h hnext => h.next hnext
  constructor
  · have hle := countP_isResponse_le hagree.warranted
    omega
  · intro later before hhistory
    have hsuffix : EapolAct.beAuth .response :: before <:+ sm.history := ⟨later, hhistory.symm⟩
    have hwaiting : eapWaiting before = true := hagree.warranted _ _ hsuffix
    exact exists_of_eapWaiting hwaiting

theorem responses_of_run_identity : ∃ sm, sm = eapolAfter idleEapolEnv (eapolAuthAlloc openConfig {}) identityEvents ∧
    sm.history.countP EapolAct.isResponse = 1 ∧ 1 ≤ sm.history.countP EapolAct.isPacket := by
  have hcount : (eapolAfter idleEapolEnv (eapolAuthAlloc openConfig {}) identityEvents).history.countP
      EapolAct.isResponse = 1 := by
    decide +kernel
  obtain ⟨hle, -⟩ := responses_of_run idleEapolEnv openConfig {} identityEvents _
    (run_eapolAfter idleEapolEnv (eapolAuthAlloc openConfig {}) identityEvents)
  exact ⟨_, rfl, hcount, hcount ▸ hle⟩

end Ethanol
