import EthanolHostapd.Eap.EapMoves

/-!
# The method that answers a response

`INTEGRITY_CHECK` and `METHOD_RESPONSE` call functions of the current method without looking whether there is one.
Requests are sent by methods, so there is one when a response comes, except for the EAP-Initiate/Re-auth-Start,
which is not the request of a method.  While the machine waits after that message, `currentMethod` is still
`EAP_TYPE_NONE` in a new machine, and a response of that type is taken for one to the current method.
-/

namespace Ethanol

open Trace

namespace EapSm

variable {Priv World : Type} {conf : EapConf Priv World} {sm sm' : EapSm Priv World}

/-- There was a method with its data whenever one of its functions was called. -/
def MethodPresent (sm : EapSm Priv World) : Prop :=
  ∀ present, EapAct.methodCall present ∈ sm.history → present = true

/-- The next step gives a response to the EAP-Initiate/Re-auth-Start to a method, but there is none. -/
def AnswersReauthStart (sm : EapSm Priv World) : Prop :=
  sm.StateDecides ∧ sm.state = .received ∧ sm.tryInitiateReauth = true ∧ sm.m = none ∧ sm.takesResponse ∧
    sm.respLenValid = true

/-- What is there in a state that is about a method. -/
def StateReady (conf : EapConf Priv World) (sm : EapSm Priv World) : Prop :=
  match sm.state with
  | .idle | .retransmit | .discard | .sendRequest | .received => sm.m.isSome = true ∨ sm.tryInitiateReauth = true
  | .integrityCheck => sm.m.isSome = true ∨ sm.ignore = true ∧ sm.tryInitiateReauth = true
  | .methodResponse => sm.m.isSome = true
  | .pickUpMethod => sm.currentMethod = eapTypeNone ∨ sm.m.isSome = true
  | .initializing => conf.backendAuth = true → sm.currentMethod = eapTypeNone
  | .initiateReauthStart => sm.tryInitiateReauth = true
  | _ => True

/-- Where the machine may call the method there is one.  Only `calls` is about the past; the other fields keep it
inductive. -/
structure Ready (conf : EapConf Priv World) (sm : EapSm Priv World) : Prop where
  priv : sm.m.isSome = true → sm.eapMethodPriv.isSome = true
  state : sm.StateReady conf
  calls : sm.MethodPresent

lemma ready_init (conf : EapConf Priv World) (world : World) : Ready conf (eapServerSmInit world) where
  priv h := absurd h Bool.false_ne_true
  state := trivial
  calls _ h := absurd h List.not_mem_nil

/-! ## The records -/

/-- A record that is not a call of the method. -/
lemma MethodPresent.append {acts : List (EapAct Priv World)} (h : sm.MethodPresent)
    (hhistory : sm'.history = sm.history ++ acts) (hacts : ∀ present, .methodCall present ∉ acts) :
    sm'.MethodPresent := by
  intro present hmem
  rw [hhistory, List.mem_append] at hmem
  rcases hmem with hmem | hmem
  · exact h present hmem
  · exact absurd hmem (hacts present)

/-- A call with the method there. -/
lemma MethodPresent.call (h : sm.MethodPresent)
    (hhistory : sm'.history = sm.history ++ [.methodCall true]) : sm'.MethodPresent := by
  intro present hmem
  rw [hhistory, List.mem_append] at hmem
  rcases hmem with hmem | hmem
  · exact h present hmem
  · exact EapAct.methodCall.inj (List.mem_singleton.mp hmem)

/-! ## States that leave the core alone -/

/-- While the machine waits, the method is there or the EAP-Initiate/Re-auth-Start was sent. -/
lemma Ready.waiting (hs : sm.Ready conf) (h : IsWaiting sm.state = true ∨ sm.state = .received) :
    sm.m.isSome = true ∨ sm.tryInitiateReauth = true := by
  have hready := hs.state
  unfold StateReady at hready
  cases hstate : sm.state <;> simp_all [IsWaiting]

lemma Ready.comesToWait (hs : sm.Ready conf) (h : sm.ComesToWait) :
    sm.m.isSome = true ∨ sm.tryInitiateReauth = true := by
  have hready := hs.state
  unfold StateReady at hready
  rcases h with h | h | ⟨h, hignore⟩ | h | ⟨-, hm⟩
  · exact hs.waiting (Or.inl h)
  · exact hs.waiting (Or.inr h)
  · rw [h] at hready
    exact hready.imp_right And.right
  · rw [h] at hready
    exact Or.inr hready
  · exact Or.inl hm

/-- What leaves the core alone keeps the invariant, if the state that is reached is all right. -/
lemma Ready.of_core (hs : sm.Ready conf) (hcore : sm'.core = sm.core) (hstate : sm'.StateReady conf) :
    sm'.Ready conf where
  priv := by
    rw [show sm'.m = sm.m from congrArg Core.m hcore,
      show sm'.eapMethodPriv = sm.eapMethodPriv from congrArg Core.eapMethodPriv hcore]
    exact hs.priv
  state := hstate
  calls := by
    rw [MethodPresent, show sm'.history = sm.history from congrArg Core.history hcore]
    exact hs.calls

lemma Ready.stay (hs : sm.Ready conf) (hcore : sm'.core = sm.core) (hstate : sm'.state = sm.state) :
    sm'.Ready conf := by
  refine hs.of_core hcore ?_
  have hready := hs.state
  unfold StateReady at hready ⊢
  rw [hstate, show sm'.m = sm.m from congrArg Core.m hcore,
    show sm'.tryInitiateReauth = sm.tryInitiateReauth from congrArg Core.tryInitiateReauth hcore,
    show sm'.ignore = sm.ignore from congrArg Core.ignore hcore,
    show sm'.currentMethod = sm.currentMethod from congrArg Core.currentMethod hcore]
  exact hready

lemma Ready.plain (hs : sm.Ready conf) (hcore : sm'.core = sm.core) (hplain : IsPlain sm'.state = true)
    (hwaiting : IsWaiting sm'.state = true → sm.ComesToWait) : sm'.Ready conf := by
  refine hs.of_core hcore ?_
  have hwait : IsWaiting sm'.state = true → sm'.m.isSome = true ∨ sm'.tryInitiateReauth = true := by
    rw [show sm'.m = sm.m from congrArg Core.m hcore,
      show sm'.tryInitiateReauth = sm.tryInitiateReauth from congrArg Core.tryInitiateReauth hcore]
    exact fun h => hs.comesToWait (hwaiting h)
  unfold StateReady
  cases hstate : sm'.state <;> simp_all [IsWaiting, IsPlain]

lemma Ready.smReceived (hs : sm.Ready conf) (h : sm.state = .idle) : sm.smReceived.Ready conf := by
  have hcore := (core_parseEapResp (sm.smEntry .received false) sm.eapIf.eapRespData).1
  refine hs.of_core hcore ?_
  have hwait := hs.waiting (Or.inl (by rw [h]; rfl))
  rw [← show sm.smReceived.m = sm.m from congrArg Core.m hcore,
    ← show sm.smReceived.tryInitiateReauth = sm.tryInitiateReauth from congrArg Core.tryInitiateReauth hcore] at hwait
  unfold StateReady
  rw [show sm.smReceived.state = .received from (core_parseEapResp (sm.smEntry .received false) _).2]
  exact hwait

/-! ## States with a method -/

lemma Ready.smInitialize (hs : sm.Ready conf) (global : Bool) : (sm.smInitialize conf global).Ready conf := by
  obtain ⟨hstate, hm, hbackend, hhistory⟩ := smInitialize_spec conf sm global
  refine ⟨fun h => ?_, ?_, ?_⟩
  · rw [hm] at h
    exact absurd h Bool.false_ne_true
  · unfold StateReady
    rw [hstate]
    exact hbackend
  · exact hs.calls.append hhistory fun present hmem => by cases List.mem_singleton.mp hmem

lemma Ready.smPickUpMethod (hs : sm.Ready conf) (h : sm.state = .initializing) (hbackend : conf.backendAuth = true) :
    (sm.smPickUpMethod conf).Ready conf := by
  have hready := hs.state
  unfold StateReady at hready
  rw [h] at hready
  rcases smPickUpMethod_cases conf sm with heq | ⟨m, priv, methodPending, world, -, -, heq⟩ | ⟨priv, world, heq⟩
  · rw [heq]
    exact ⟨hs.priv, Or.inl (hready hbackend), hs.calls⟩
  · rw [heq]
    exact ⟨fun _ => rfl, Or.inr rfl, hs.calls⟩
  · rw [heq]
    exact ⟨fun h => absurd h Bool.false_ne_true, Or.inl rfl, hs.calls⟩

/-- A method that is there is called with its data. -/
lemma Ready.callMethod (hs : sm.Ready conf) (hm : sm.m.isSome = true) (state : EapState) :
    (sm.smEntry state false).callMethod.MethodPresent := by
  refine hs.calls.call ?_
  rw [EapSm.callMethod, show (sm.smEntry state false).m.isSome = true from hm,
    show (sm.smEntry state false).eapMethodPriv.isSome = true from hs.priv hm, Bool.and_self]
  rfl

lemma Ready.smIntegrityCheck (hs : sm.Ready conf) (h : sm.state = .received)
    (hok : sm.m = none → sm.respLenValid = false) : sm.smIntegrityCheck.Ready conf := by
  have hwait := hs.waiting (Or.inr h)
  rcases smIntegrityCheck_cases sm with ⟨-, heq⟩ | ⟨hvalid, ignore, heq⟩
  · rw [heq]
    exact ⟨hs.priv, hwait.imp_right fun htry => ⟨rfl, htry⟩, hs.calls⟩
  · have hm : sm.m.isSome = true := by
      cases hm : sm.m with
      | none => exact absurd ((hok hm).symm.trans hvalid) Bool.false_ne_true
      | some m => rfl
    rw [heq]
    exact ⟨hs.priv, Or.inl hm, hs.callMethod hm _⟩

lemma Ready.smMethodResponse (hs : sm.Ready conf) (hm : sm.m.isSome = true) : sm.smMethodResponse.Ready conf := by
  rcases smMethodResponse_cases sm with ⟨-, heq⟩ | ⟨-, heq⟩ | ⟨-, m, priv, respData, -, -, heq⟩
  · rw [heq]
    exact ⟨hs.priv, hm, hs.calls⟩
  · rw [heq]
    exact ⟨hs.priv, hm, hs.callMethod hm _⟩
  · rw [heq]
    exact ⟨fun _ => rfl, hm, hs.callMethod hm _⟩

lemma Ready.smMethodRequest (hs : sm.Ready conf) : (sm.smMethodRequest conf).Ready conf := by
  unfold EapSm.smMethodRequest
  dsimp only
  split
  · split
    · exact ⟨fun _ => rfl, trivial, hs.calls⟩
    · exact ⟨fun _ => rfl, trivial, hs.calls⟩
  · exact ⟨hs.priv, trivial, hs.calls⟩

lemma Ready.proposes {again : Bool} (hs : sm.Ready conf) (hstate : sm.state = .proposeMethod)
    (h : Proposes conf again sm sm') : sm'.Ready conf := by
  have hready : ∀ sm₁ : EapSm Priv World, sm₁.state = .proposeMethod → sm₁.StateReady conf := by
    intro sm₁ h₁
    unfold StateReady
    rw [h₁]
    trivial
  cases h with
  | nothing => exact ⟨fun h => absurd h Bool.false_ne_true, hready _ hstate, hs.calls⟩
  | identity => exact ⟨fun _ => rfl, hready _ hstate, hs.calls⟩
  | untyped => exact ⟨fun _ => rfl, hready _ hstate, hs.calls⟩
  | listed =>
    refine ⟨fun _ => rfl, hready _ hstate, hs.calls.append rfl fun present hmem => ?_⟩
    cases List.mem_singleton.mp hmem

lemma Ready.smProposeMethod {again : Bool} (hs : sm.Ready conf) (h : sm.smProposeMethod conf again = some sm') :
    sm'.Ready conf := by
  have hentered : Ready conf { sm.smEntry .proposeMethod false with tryInitiateReauth := false } :=
    ⟨hs.priv, trivial, hs.calls⟩
  exact hentered.proposes rfl (proposes_of_proposeLoop h)

/-- A callback has let the method go on. -/
lemma Ready.methodPending (hs : sm.Ready conf) (methodPending : EapMethodPending) :
    Ready conf { sm with methodPending := methodPending } :=
  ⟨hs.priv, hs.state, hs.calls⟩

lemma Ready.smNak (hs : sm.Ready conf) : sm.smNak.Ready conf := by
  have hcalls : ∀ list, (sm.receivedNak list).MethodPresent := fun list =>
    hs.calls.append rfl fun present hmem => by cases List.mem_singleton.mp hmem
  obtain ⟨list, heq | heq | ⟨user, nakList, -, -, heq⟩⟩ := smNak_cases sm
  · rw [heq]
    exact ⟨fun h => absurd h Bool.false_ne_true, trivial, hcalls list⟩
  · rw [heq]
    exact ⟨fun h => absurd h Bool.false_ne_true, trivial, hcalls list⟩
  · rw [heq]
    exact ⟨fun h => absurd h Bool.false_ne_true, trivial, hcalls list⟩

lemma Ready.smSelectAction (hpriv : sm.m.isSome = true → sm.eapMethodPriv.isSome = true) (hcalls : sm.MethodPresent) :
    (sm.smSelectAction conf).Ready conf := by
  unfold EapSm.smSelectAction
  dsimp only
  rcases policyGetDecision_cases conf (sm.smEntry .selectAction false) with
    ⟨startReauth, updateUser, heq⟩ | heq | ⟨identity, user, startReauth, updateUser, -, heq⟩
  · rw [heq]
    exact ⟨hpriv, trivial, hcalls⟩
  · rw [heq]
    exact ⟨hpriv, trivial, hcalls⟩
  · rw [heq]
    refine ⟨hpriv, trivial, hcalls.append rfl fun present hmem => ?_⟩
    cases List.mem_singleton.mp hmem

lemma Ready.smInitiateReceived (hs : sm.Ready conf) : (sm.smInitiateReceived conf).Ready conf := by
  obtain ⟨acts, hacts, hstate, hm, hpriv, hhistory⟩ := smInitiateReceived_cases conf sm
  refine ⟨?_, ?_, hs.calls.append hhistory fun present hmem => ?_⟩
  · rw [hm, hpriv]
    exact hs.priv
  · unfold StateReady
    rw [hstate]
    trivial
  · cases List.mem_singleton.mp (hacts hmem)

lemma Ready.passthrough (hs : sm.Ready conf) (hcore : sm'.core = sm.core) (h : IsPassthrough sm'.state = true) :
    sm'.Ready conf := by
  refine hs.of_core hcore ?_
  unfold StateReady
  cases hstate : sm'.state <;> simp_all [IsPassthrough]

/-- Every move keeps the invariant, but for a response to the EAP-Initiate/Re-auth-Start. -/
theorem Ready.moves (hs : sm.Ready conf) (hok : ¬sm.AnswersReauthStart) (h : Moves conf sm sm') :
    sm'.Ready conf := by
  cases h with
  | stay hcore hstate => exact hs.stay hcore hstate
  | plain hcore hplain hwaiting => exact hs.plain hcore hplain hwaiting
  | received h => exact hs.smReceived h
  | initializing global => exact hs.smInitialize global
  | pickUpMethod h hbackend => exact hs.smPickUpMethod h hbackend
  | integrityCheck hdecides h htakes =>
    refine hs.smIntegrityCheck h fun hm => ?_
    rcases hs.waiting (Or.inr h) with hsome | htry
    · rw [hm] at hsome
      exact absurd hsome Bool.false_ne_true
    · exact Bool.eq_false_iff.mpr fun hvalid => hok ⟨hdecides, h, htry, hm, htakes, hvalid⟩
  | methodResponse h =>
    refine hs.smMethodResponse ?_
    have hready := hs.state
    unfold StateReady at hready
    rcases h with ⟨h, hmethod⟩ | ⟨h, hignore⟩
    · rw [h] at hready
      exact hready.resolve_left hmethod
    · rw [h] at hready
      exact hready.resolve_right fun hi => Bool.false_ne_true (hignore.symm.trans hi.1)
  | methodResponseAgain h =>
    have hready := hs.state
    unfold StateReady at hready
    rw [h] at hready
    exact (hs.methodPending .methodPendingNone).smMethodResponse hready
  | methodRequest => exact hs.smMethodRequest
  | proposeWait h => exact ⟨hs.priv, hs.state, hs.calls⟩
  | proposeAgain h hpending hsome => exact (hs.methodPending .methodPendingNone).smProposeMethod hsome
  | propose h hdecision hsome => exact hs.smProposeMethod hsome
  | nak => exact hs.smNak
  | selectAction => exact Ready.smSelectAction hs.priv hs.calls
  | selectActionAfterStart => exact Ready.smSelectAction hs.priv hs.calls
  | success =>
    refine ⟨hs.priv, trivial, hs.calls.append rfl fun present hmem => ?_⟩
    cases List.mem_singleton.mp hmem
  | initializePassthrough => exact ⟨hs.priv, trivial, hs.calls⟩
  | initiateReauthStart => exact ⟨hs.priv, rfl, hs.calls⟩
  | initiateReceived => exact hs.smInitiateReceived
  | passthrough hcore _ h => exact hs.passthrough hcore h
  | success2 =>
    refine ⟨hs.priv, trivial, hs.calls.append rfl fun present hmem => ?_⟩
    cases List.mem_singleton.mp hmem

/-! ## Runs -/

/-- What happens to the machine between its steps keeps the invariant. -/
lemma Ready.handle (hs : sm.Ready conf) (e : EapEvent World) : (sm.handle e).Ready conf := by
  cases e with
  | tick =>
    unfold EapSm.handle
    split_ifs
    · exact ⟨hs.priv, hs.state, hs.calls⟩
    · exact hs
  | pendingCb =>
    rw [EapSm.handle, eapSmPendingCb]
    split_ifs
    · exact hs.methodPending _
    · exact hs
  | notifyCached => exact ⟨hs.priv, trivial, hs.calls⟩
  | _ => exact ⟨hs.priv, hs.state, hs.calls⟩

/-- A condition on the steps: no response to the EAP-Initiate/Re-auth-Start is given to a method. -/
def StepAllowed (sm : EapSm Priv World) (e : EapEvent World) : Prop :=
  e = .step → ¬sm.AnswersReauthStart

/-- Events other than steps are possible when the machine is at rest. -/
lemma next_eq_handle {e : EapEvent World} (hstep : e ≠ .step) (h : next conf sm e = some sm') : sm' = sm.handle e := by
  cases e with
  | step => exact absurd rfl hstep
  | _ =>
    unfold EapSm.next at h
    dsimp only at h
    split_ifs at h
    exact (Option.some.inj h).symm

lemma Ready.next {e : EapEvent World} (hs : sm.Ready conf) (hok : sm.StepAllowed e)
    (h : next conf sm e = some sm') : sm'.Ready conf := by
  by_cases hstep : e = .step
  · rw [hstep] at h
    have hs' : Ready conf { sm with changed := false } := ⟨hs.priv, hs.state, hs.calls⟩
    exact hs'.moves (hok hstep) (moves_smStep h)
  · rw [next_eq_handle hstep h]
    exact hs.handle e

lemma stepState_received (h : sm.state = .received) : sm.stepState conf = some (sm.stepReceived conf) := by
  unfold stepState
  rw [h]

/-- A response to the EAP-Initiate/Re-auth-Start makes the machine call a method that is not there. -/
lemma not_methodPresent_of_answers (h : sm.AnswersReauthStart) (hnext : next conf sm .step = some sm') :
    ¬sm'.MethodPresent := by
  obtain ⟨⟨hport, hrestart, hrounds⟩, hstate, -, hm, ⟨hresp, hid, hmethod, hnak⟩, hvalid⟩ := h
  have hreceived : (stepReceived conf { sm with changed := false }) = smIntegrityCheck { sm with changed := false } := by
    unfold stepReceived
    rw [if_neg, if_pos]
    · simp only [Bool.and_eq_true, decide_eq_true_eq]
      exact ⟨⟨hresp, hid⟩, hmethod⟩
    · simp only [Bool.and_eq_true, decide_eq_true_eq]
      exact fun hn => hnak ⟨hn.1.2, hn.2⟩
  have hsm' : sm' = smIntegrityCheck { sm with changed := false } := by
    rw [EapSm.next, smStep, if_neg (by simp [hrestart]), if_neg (by simp [hport]),
      if_neg (Nat.not_lt.mpr hrounds), stepState_received (by exact hstate), hreceived] at hnext
    exact (Option.some.inj hnext).symm
  rcases smIntegrityCheck_cases { sm with changed := false } with ⟨hinvalid, -⟩ | ⟨-, ignore, heq⟩
  · exact absurd (hinvalid.symm.trans hvalid) Bool.false_ne_true
  · intro hpresent
    refine Bool.false_ne_true (hpresent false ?_)
    rw [hsm', heq]
    refine List.mem_append_right _ (List.mem_singleton.mpr ?_)
    rw [show (smEntry { sm with changed := false } .integrityCheck false).m = none from hm]
    rfl

/-- Whenever the machine called a function of the method there was one, if and only if no response to an
EAP-Initiate/Re-auth-Start, sent without a method, was taken for one to the current method. -/
theorem methodPresent_iff (conf : EapConf Priv World) (world : World) {es : List (EapEvent World)}
    (h : Run (next conf) (eapServerSmInit world) es sm) :
    (∀ es₁ (sm₁ : EapSm Priv World), es₁ <+: es → Run (next conf) (eapServerSmInit world) es₁ sm₁ → sm₁.MethodPresent) ↔
      RunWith (next conf) StepAllowed (eapServerSmInit world) es sm := by
  refine h.forall_prefix_iff_runWith (ready_init conf world) (fun _ => Ready.calls) (fun _ _ _ => Ready.next) ?_
  intro sm₁ e sm₂ _ hnot hnext
  obtain ⟨hstep, hanswers⟩ := Classical.not_imp.mp hnot
  rw [hstep] at hnext
  exact not_methodPresent_of_answers (not_not.mp hanswers) hnext

/-- A server with no methods that sends an EAP-Initiate/Re-auth-Start first. -/
def reauthStartConf : EapConf Unit Unit where
  eapMethods := []
  backendAuth := false
  eapServer := true
  erp := true
  getEapUser _ _ _ := none
  erpSendReauthStart := true
  erpDomain := none
  erpGetKey _ _ := none
  erpSetKey world _ _ := world
  hmacSha256 _ _ := []
  rand world := (7, world)
  phase2_getEapUser _ _ _ _ h := by cases h

/-- The port is enabled and the machine sends its EAP-Initiate/Re-auth-Start. -/
def startEvents : List (EapEvent Unit) := .portEnabled true :: List.replicate 6 .step

theorem methodPresent_iff_start :
    ∃ sm, (∀ es₁ (sm₁ : EapSm Unit Unit), es₁ <+: startEvents →
        Run (next reauthStartConf) (eapServerSmInit ()) es₁ sm₁ → sm₁.MethodPresent) ↔
      RunWith (next reauthStartConf) StepAllowed (eapServerSmInit ()) startEvents sm := by
  have hexec : ((exec (next reauthStartConf) (eapServerSmInit ()) startEvents).map fun sm => sm.state) = some .idle := rfl
  obtain ⟨sm, hrun, -⟩ := Option.map_eq_some_iff.mp hexec
  exact ⟨sm, methodPresent_iff reauthStartConf () (run_iff_exec.mpr hrun)⟩

/-- A response of the type `EAP_TYPE_NONE` to that message calls a method that is not there. -/
theorem methodPresent_fails :
    ∃ sm : EapSm Unit Unit, Run (next reauthStartConf) (eapServerSmInit ())
      (startEvents ++ [.receive [2, 7, 0, 5, 0], .step, .step]) sm ∧ ¬sm.MethodPresent := by
  have hexec : ((exec (next reauthStartConf) (eapServerSmInit ())
      (startEvents ++ [.receive [2, 7, 0, 5, 0], .step, .step])).map fun sm => sm.history) =
        some [.initialized, .methodCall false] := rfl
  obtain ⟨sm, hrun, hhistory⟩ := Option.map_eq_some_iff.mp hexec
  refine ⟨sm, run_iff_exec.mpr hrun, fun h => ?_⟩
  refine Bool.false_ne_true (h false ?_)
  rw [hhistory]
  exact List.mem_cons_of_mem _ (List.mem_singleton_self _)

end EapSm

end Ethanol
