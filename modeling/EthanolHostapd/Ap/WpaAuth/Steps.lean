import EthanolHostapd.Ap.WpaAuth.Receive
import Mathlib.Logic.Relation

/-!
# What the machines can do

`PtkTransition` lists the transitions of `WPA_PTK` with their guards, `Beside` says what a step of the
other machines leaves to it, and `Reaches.preserves` is the rule for what the loop keeps.
`smStep_settled` says that no request is left when the loop ends, apart from one for a disconnection by
the group key machine.  For each call there is a lemma that takes it apart.
-/

namespace Ethanol

namespace WpaStateMachine

variable {Nonce Pmk Ptk : Type} [Inhabited Ptk]

/-- No request is pending, and the machine is not being initialized. -/
structure Settled (sm : WpaStateMachine Nonce Pmk Ptk) : Prop where
  init : sm.init = false
  deauthenticationRequest : sm.deauthenticationRequest = false
  authenticationRequest : sm.authenticationRequest = false
  reAuthenticationRequest : sm.reAuthenticationRequest = false

/-- Moreover no disconnection and no new PTK is asked for. -/
structure Idle (sm : WpaStateMachine Nonce Pmk Ptk) : Prop extends Settled sm where
  disconnect : sm.disconnect = false
  ptkRequest : sm.ptkRequest = false

/-- The transitions of `WPA_PTK`. -/
inductive PtkTransition (p : WpaParams Nonce Pmk Ptk) (r : Round Pmk)
    (sm : WpaStateMachine Nonce Pmk Ptk) : WpaStateMachine Nonce Pmk Ptk → Prop
  | stay (idle : sm.Idle) : PtkTransition p r sm sm
  | initializing : PtkTransition p r sm sm.ptkInitialize
  | disconnect : PtkTransition p r sm sm.ptkDisconnect
  | disconnected : PtkTransition p r sm sm.ptkDisconnected
  | authentication : PtkTransition p r sm sm.ptkAuthentication
  | authentication2
      (guard : sm.reAuthenticationRequest = true ∨ sm.wpaPtkState = .authentication) :
      PtkTransition p r sm (sm.ptkAuthentication2 p)
  | initPmk (idle : sm.Idle) (guard : sm.wpaPtkState = .authentication2) :
      PtkTransition p r sm (sm.ptkInitPmk r)
  | initPsk (idle : sm.Idle) (guard : sm.wpaPtkState = .authentication2) :
      PtkTransition p r sm (sm.ptkInitPsk r)
  | ptkStart (guard : sm.ptkRequest = true ∨ sm.wpaPtkState = .initPmk ∨ sm.wpaPtkState = .initPsk ∨
        sm.wpaPtkState = .ptkStart ∨ sm.wpaPtkState = .ptkCalcNegotiating) :
      PtkTransition p r sm (sm.ptkPtkStart r)
  | ptkCalcNegotiating (idle : sm.Idle)
      (guard : (sm.wpaPtkState = .ptkStart ∧ sm.pairwiseReceived = true) ∨
        (sm.wpaPtkState = .ptkCalcNegotiating ∧ sm.pairwiseReceived = true ∧ sm.micVerified = false) ∨
        (sm.wpaPtkState = .ptkInitNegotiating ∧ sm.updateSnonce = true))
      {sm' : WpaStateMachine Nonce Pmk Ptk} (enter : sm.ptkPtkCalcNegotiating p r = some sm') :
      PtkTransition p r sm sm'
  | ptkCalcNegotiating2 (idle : sm.Idle) (guard : sm.wpaPtkState = .ptkCalcNegotiating)
      (verified : sm.micVerified = true) : PtkTransition p r sm sm.ptkPtkCalcNegotiating2
  | ptkInitNegotiating (idle : sm.Idle)
      (guard : sm.wpaPtkState = .ptkCalcNegotiating2 ∨ sm.wpaPtkState = .ptkInitNegotiating) :
      PtkTransition p r sm (sm.ptkPtkInitNegotiating r)
  | ptkInitDone (idle : sm.Idle) (guard : sm.wpaPtkState = .ptkInitNegotiating)
      (received : sm.pairwiseReceived = true) (verified : sm.micVerified = true)
      (kept : sm.updateSnonce = false) : PtkTransition p r sm (sm.ptkPtkInitDone p r)

variable {p : WpaParams Nonce Pmk Ptk} {r : Round Pmk} {sm sm' : WpaStateMachine Nonce Pmk Ptk}

/-- `SM_STEP(WPA_PTK)` makes one of these transitions. -/
lemma ptkStep_transition (h : sm.ptkStep p r = some sm') : PtkTransition p r sm sm' := by
  unfold ptkStep at h
  by_cases hinit : sm.init = true
  · rw [if_pos hinit] at h
    obtain rfl := Option.some.inj h
    exact .initializing
  rw [if_neg hinit] at h
  by_cases hdisconnect : sm.disconnect = true
  · rw [if_pos hdisconnect] at h
    obtain rfl := Option.some.inj h
    exact .disconnect
  rw [if_neg hdisconnect] at h
  by_cases hdeauth : sm.deauthenticationRequest = true
  · rw [if_pos hdeauth] at h
    obtain rfl := Option.some.inj h
    exact .disconnected
  rw [if_neg hdeauth] at h
  by_cases hauth : sm.authenticationRequest = true
  · rw [if_pos hauth] at h
    obtain rfl := Option.some.inj h
    exact .authentication
  rw [if_neg hauth] at h
  by_cases hreauth : sm.reAuthenticationRequest = true
  · rw [if_pos hreauth] at h
    obtain rfl := Option.some.inj h
    exact .authentication2 (Or.inl hreauth)
  rw [if_neg hreauth] at h
  by_cases hptk : sm.ptkRequest = true
  · rw [if_pos hptk] at h
    obtain rfl := Option.some.inj h
    exact .ptkStart (Or.inl hptk)
  rw [if_neg hptk] at h
  have idle : sm.Idle := {
    init := by simpa using hinit
    deauthenticationRequest := by simpa using hdeauth
    authenticationRequest := by simpa using hauth
    reAuthenticationRequest := by simpa using hreauth
    disconnect := by simpa using hdisconnect
    ptkRequest := by simpa using hptk }
  cases hstate : sm.wpaPtkState with
  | initializing =>
    obtain rfl : sm = sm' := by simpa [hstate] using h
    exact .stay idle
  | disconnect =>
    obtain rfl : sm.ptkDisconnected = sm' := by simpa [hstate] using h
    exact .disconnected
  | disconnected =>
    obtain rfl : sm.ptkInitialize = sm' := by simpa [hstate] using h
    exact .initializing
  | authentication =>
    obtain rfl : sm.ptkAuthentication2 p = sm' := by simpa [hstate] using h
    exact .authentication2 (Or.inr hstate)
  | authentication2 =>
    simp only [hstate] at h
    split_ifs at h
    · obtain rfl := Option.some.inj h
      exact .initPmk idle hstate
    · obtain rfl := Option.some.inj h
      exact .initPsk idle hstate
    · obtain rfl := Option.some.inj h
      exact .stay idle
  | initPmk =>
    simp only [hstate] at h
    split_ifs at h
    · obtain rfl := Option.some.inj h
      exact .ptkStart (by simp [hstate])
    · obtain rfl := Option.some.inj h
      exact .disconnect
  | initPsk =>
    simp only [hstate] at h
    split_ifs at h
    · obtain rfl := Option.some.inj h
      exact .disconnect
    · obtain rfl := Option.some.inj h
      exact .ptkStart (by simp [hstate])
  | ptkStart =>
    simp only [hstate] at h
    split_ifs at h with hreceived
    · exact .ptkCalcNegotiating idle (Or.inl ⟨hstate, hreceived⟩) h
    · obtain rfl := Option.some.inj h
      exact .disconnect
    · obtain rfl := Option.some.inj h
      exact .ptkStart (by simp [hstate])
    · obtain rfl := Option.some.inj h
      exact .stay idle
  | ptkCalcNegotiating =>
    simp only [hstate] at h
    split_ifs at h with hmic hreceived
    · obtain rfl := Option.some.inj h
      exact .ptkCalcNegotiating2 idle hstate hmic
    · exact .ptkCalcNegotiating idle (Or.inr (Or.inl ⟨hstate, hreceived, by simpa using hmic⟩)) h
    · obtain rfl := Option.some.inj h
      exact .ptkStart (by simp [hstate])
    · obtain rfl := Option.some.inj h
      exact .stay idle
  | ptkCalcNegotiating2 =>
    obtain rfl : sm.ptkPtkInitNegotiating r = sm' := by simpa [hstate] using h
    exact .ptkInitNegotiating idle (Or.inl hstate)
  | ptkInitNegotiating =>
    simp only [hstate] at h
    split_ifs at h with hupdate hreceived
    · exact .ptkCalcNegotiating idle (Or.inr (Or.inr ⟨hstate, hupdate⟩)) h
    · obtain rfl := Option.some.inj h
      obtain ⟨hreceived, hmic⟩ := Bool.and_eq_true_iff.mp hreceived
      exact .ptkInitDone idle hstate hreceived hmic (by simpa using hupdate)
    · obtain rfl := Option.some.inj h
      exact .disconnect
    · obtain rfl := Option.some.inj h
      exact .ptkInitNegotiating idle (Or.inr hstate)
    · obtain rfl := Option.some.inj h
      exact .stay idle
  | ptkInitDone =>
    obtain rfl : sm = sm' := by simpa [hstate] using h
    exact .stay idle

/-! ## Sending -/

/-- At most one frame has been sent. -/
def Sends (sm sm' : WpaStateMachine Nonce Pmk Ptk) : Prop :=
  (sm'.keyReplay = sm.keyReplay ∧ sm'.history = sm.history) ∨
    (sm'.keyReplay = shiftKeyReplay sm.keyReplay ∧
      sm'.history = .sent (firstCounter sm.keyReplay + 1) :: sm.history)

omit [Inhabited Ptk] in
lemma sends_sendEapolFrame (e : SendEnv) : Sends sm (sm.sendEapolFrame e) := by
  unfold sendEapolFrame
  split
  · exact Or.inl ⟨rfl, rfl⟩
  · exact Or.inr ⟨rfl, rfl⟩

omit [Inhabited Ptk] in
/-- Sending changes only what is recorded of it. -/
lemma sendEapolFrame_eq (e : SendEnv) :
    sm.sendEapolFrame e = { sm with
      keyReplay := (sm.sendEapolFrame e).keyReplay
      history := (sm.sendEapolFrame e).history } := by
  unfold sendEapolFrame
  split <;> rfl

omit [Inhabited Ptk] in
lemma sendEapol_eq (e : SendEnv) :
    sm.sendEapol e = { sm with
      keyReplay := (sm.sendEapolFrame e).keyReplay
      history := (sm.sendEapolFrame e).history
      sendEapolTimeouts := sm.sendEapolTimeouts + 1 } := by
  unfold sendEapol
  rw [sendEapolFrame_eq]

/-! ## The states that have branches

Each of them sets some fields in every branch; the other fields that it may change are left as they
are in the result. -/

omit [Inhabited Ptk] in
lemma ptkAuthentication2_eq :
    sm.ptkAuthentication2 p = { sm with
      wpaPtkState := .authentication2
      changed := true
      reAuthenticationRequest := false
      aNonce := p.random sm.drawn
      drawn := sm.drawn + 1
      disconnect := (sm.ptkAuthentication2 p).disconnect
      timeoutCtr := (sm.ptkAuthentication2 p).timeoutCtr } := by
  unfold ptkAuthentication2
  dsimp only
  split <;> rfl

omit [Inhabited Ptk] in
lemma ptkInitPmk_eq :
    sm.ptkInitPmk r = { sm with
      wpaPtkState := .initPmk
      changed := true
      history := .keyed :: sm.history
      disconnect := (sm.ptkInitPmk r).disconnect
      pmk := (sm.ptkInitPmk r).pmk
      reqReplayCounterUsed := (sm.ptkInitPmk r).reqReplayCounterUsed } := by
  unfold ptkInitPmk
  dsimp only
  split <;> rfl

omit [Inhabited Ptk] in
lemma ptkPtkStart_eq :
    sm.ptkPtkStart r = { sm with
      wpaPtkState := .ptkStart
      changed := true
      ptkRequest := false
      timeoutEvt := false
      altSnonceValid := false
      timeoutCtr := sm.timeoutCtr + 1
      keyReplay := (sm.ptkPtkStart r).keyReplay
      history := (sm.ptkPtkStart r).history
      sendEapolTimeouts := (sm.ptkPtkStart r).sendEapolTimeouts } := by
  unfold ptkPtkStart
  dsimp only
  split
  · rfl
  · rw [sendEapol_eq]
    rfl

omit [Inhabited Ptk] in
lemma sends_ptkPtkStart : Sends sm (sm.ptkPtkStart r) := by
  unfold ptkPtkStart
  dsimp only
  split
  · exact Or.inl ⟨rfl, rfl⟩
  · exact sends_sendEapolFrame r.send

omit [Inhabited Ptk] in
/-- `PTKCALCNEGOTIATING` is entered without a PTK, or with one that verifies the last frame. -/
lemma ptkPtkCalcNegotiating_cases (h : sm.ptkPtkCalcNegotiating p r = some sm') :
    sm' = { sm.enterPtk .ptkCalcNegotiating with eapolKeyReceived := false, updateSnonce := false } ∨
    ∃ frame pmk, sm.lastRxEapolKey = some frame ∧ pmk ∈ sm.candidatePmks r.psks ∧
      p.verifyKeyMic sm.security (p.derivePtk sm.security pmk sm.aNonce sm.sNonce) frame = true ∧
      sm' = { sm.enterPtk .ptkCalcNegotiating with
        eapolKeyReceived := false, updateSnonce := false }.acceptPtk p frame pmk := by
  unfold ptkPtkCalcNegotiating at h
  simp only at h
  split at h
  · split_ifs at h
    exact Or.inl (Option.some.inj h).symm
  · rename_i frame hframe
    split at h
    · exact Or.inl (Option.some.inj h).symm
    · rename_i pmk hpmk
      have hmic := List.find?_some hpmk
      exact Or.inr ⟨frame, pmk, hframe, List.mem_of_find?_eq_some hpmk, hmic,
        (Option.some.inj h).symm⟩

omit [Inhabited Ptk] in
lemma ptkPtkInitNegotiating_eq :
    sm.ptkPtkInitNegotiating r = { sm with
      wpaPtkState := .ptkInitNegotiating
      changed := true
      timeoutEvt := false
      timeoutCtr := sm.timeoutCtr + 1
      keyReplay := (sm.ptkPtkInitNegotiating r).keyReplay
      history := (sm.ptkPtkInitNegotiating r).history
      sendEapolTimeouts := (sm.ptkPtkInitNegotiating r).sendEapolTimeouts } := by
  unfold ptkPtkInitNegotiating
  dsimp only
  split_ifs
  · rfl
  · rfl
  · rw [sendEapol_eq]
    rfl

omit [Inhabited Ptk] in
lemma sends_ptkPtkInitNegotiating : Sends sm (sm.ptkPtkInitNegotiating r) := by
  unfold ptkPtkInitNegotiating
  dsimp only
  split_ifs
  · exact Or.inl ⟨rfl, rfl⟩
  · exact Or.inl ⟨rfl, rfl⟩
  · exact sends_sendEapolFrame r.send

lemma ptkPtkInitDone_eq :
    sm.ptkPtkInitDone p r = { sm with
      wpaPtkState := .ptkInitDone
      changed := true
      eapolKeyReceived := false
      history := .installed sm.ptk sm.aNonce :: sm.history
      deauthenticationRequest := (sm.ptkPtkInitDone p r).deauthenticationRequest
      ptkValid := (sm.ptkPtkInitDone p r).ptkValid
      ptk := (sm.ptkPtkInitDone p r).ptk
      pairwiseSet := (sm.ptkPtkInitDone p r).pairwiseSet
      rekeyPtkTimeouts := (sm.ptkPtkInitDone p r).rekeyPtkTimeouts
      pInitAKeys := (sm.ptkPtkInitDone p r).pInitAKeys
      hasGtk := (sm.ptkPtkInitDone p r).hasGtk } := by
  unfold ptkPtkInitDone
  dsimp only
  split_ifs <;> rfl

/-! ## Beside `WPA_PTK` -/

/-- What a step of the other machines leaves to `WPA_PTK`: a frame may have been sent, the frame that
is waiting may have been taken, and a disconnection may have been asked for. -/
structure Beside (sm sm' : WpaStateMachine Nonce Pmk Ptk) : Prop where
  wpaPtkState : sm'.wpaPtkState = sm.wpaPtkState
  init : sm'.init = sm.init
  deauthenticationRequest : sm'.deauthenticationRequest = sm.deauthenticationRequest
  authenticationRequest : sm'.authenticationRequest = sm.authenticationRequest
  reAuthenticationRequest : sm'.reAuthenticationRequest = sm.reAuthenticationRequest
  ptkRequest : sm'.ptkRequest = sm.ptkRequest
  eapolKeyReceived : sm'.eapolKeyReceived = true → sm.eapolKeyReceived = true
  eapolKeyPairwise : sm'.eapolKeyPairwise = sm.eapolKeyPairwise
  eapolKeyRequest : sm'.eapolKeyRequest = sm.eapolKeyRequest
  micVerified : sm'.micVerified = sm.micVerified
  aNonce : sm'.aNonce = sm.aNonce
  ptkValid : sm'.ptkValid = sm.ptkValid
  altSnonceValid : sm'.altSnonceValid = sm.altSnonceValid
  altReplayCounter : sm'.altReplayCounter = sm.altReplayCounter
  rekeyPtkTimeouts : sm'.rekeyPtkTimeouts = sm.rekeyPtkTimeouts
  drawn : sm'.drawn = sm.drawn
  pmk : sm'.pmk = sm.pmk
  ptk : sm'.ptk = sm.ptk
  lastRxEapolKey : sm'.lastRxEapolKey = sm.lastRxEapolKey
  reqReplayCounter : sm'.reqReplayCounter = sm.reqReplayCounter
  reqReplayCounterUsed : sm'.reqReplayCounterUsed = sm.reqReplayCounterUsed
  sends : Sends sm sm'

omit [Inhabited Ptk] in
/-- The fields that are not listed do not matter. -/
lemma beside_changed (sm : WpaStateMachine Nonce Pmk Ptk) (b : Bool) :
    Beside sm { sm with changed := b } := by
  constructor <;> first | exact rfl | exact id | exact Or.inl ⟨rfl, rfl⟩

omit [Inhabited Ptk] in
lemma beside_sendEapolFrame (e : SendEnv) : Beside sm (sm.sendEapolFrame e) := by
  rw [sendEapolFrame_eq]
  constructor <;> first | exact rfl | exact id | exact sends_sendEapolFrame e

omit [Inhabited Ptk] in
lemma beside_groupIdle (b : Bool) : Beside sm { sm.groupIdle with ptkGroupInit := b } := by
  constructor <;> first | exact rfl | exact id | exact Or.inl ⟨rfl, rfl⟩

omit [Inhabited Ptk] in
lemma groupRekeyNegotiating_eq :
    groupRekeyNegotiating r sm = { sm with
      wpaPtkGroupState := .rekeyNegotiating
      changed := true
      gTimeoutCtr := sm.gTimeoutCtr + 1
      pInitAKeys := (groupRekeyNegotiating r sm).pInitAKeys
      timeoutEvt := (groupRekeyNegotiating r sm).timeoutEvt
      keyReplay := (groupRekeyNegotiating r sm).keyReplay
      history := (groupRekeyNegotiating r sm).history
      sendEapolTimeouts := (groupRekeyNegotiating r sm).sendEapolTimeouts } := by
  unfold groupRekeyNegotiating
  dsimp only
  generalize (if (sm.enterGroup PtkGroupState.rekeyNegotiating).security.wpa = WpaVersion.wpa then
    false else (sm.enterGroup PtkGroupState.rekeyNegotiating).pInitAKeys) = pInitAKeys
  split_ifs
  · rfl
  · rfl
  · rw [sendEapol_eq]
    rfl

omit [Inhabited Ptk] in
lemma sends_groupRekeyNegotiating : Sends sm (groupRekeyNegotiating r sm) := by
  unfold groupRekeyNegotiating
  dsimp only
  generalize (if (sm.enterGroup PtkGroupState.rekeyNegotiating).security.wpa = WpaVersion.wpa then
    false else (sm.enterGroup PtkGroupState.rekeyNegotiating).pInitAKeys) = pInitAKeys
  split_ifs
  · exact Or.inl ⟨rfl, rfl⟩
  · exact Or.inl ⟨rfl, rfl⟩
  · exact sends_sendEapolFrame r.groupSend

omit [Inhabited Ptk] in
lemma beside_groupRekeyNegotiating : Beside sm (groupRekeyNegotiating r sm) := by
  have hsends : Sends sm (groupRekeyNegotiating r sm) := sends_groupRekeyNegotiating
  rw [groupRekeyNegotiating_eq] at hsends ⊢
  constructor <;> first | exact rfl | exact id | exact hsends

omit [Inhabited Ptk] in
lemma beside_groupRekeyEstablished : Beside sm sm.groupRekeyEstablished := by
  constructor <;> first | exact rfl | exact id | exact Or.inl ⟨rfl, rfl⟩ | skip
  intro hreceived
  exact absurd hreceived Bool.false_ne_true

omit [Inhabited Ptk] in
lemma beside_groupKeyError : Beside sm sm.groupKeyError := by
  constructor <;> first | exact rfl | exact id | exact Or.inl ⟨rfl, rfl⟩

omit [Inhabited Ptk] in
lemma beside_groupStep (r : Round Pmk) (sm : WpaStateMachine Nonce Pmk Ptk) :
    Beside sm (groupStep r sm) := by
  unfold groupStep
  split
  · exact beside_groupIdle false
  · cases sm.wpaPtkGroupState with
    | idle =>
      dsimp only
      split
      · exact beside_groupRekeyNegotiating
      · exact beside_changed sm sm.changed
    | rekeyNegotiating =>
      dsimp only
      split_ifs
      · exact beside_groupRekeyEstablished
      · exact beside_groupKeyError
      · exact beside_groupRekeyNegotiating
      · exact beside_changed sm sm.changed
    | rekeyEstablished => exact beside_groupIdle sm.ptkGroupInit
    | keyError => exact beside_groupIdle sm.ptkGroupInit

omit [Inhabited Ptk] in
lemma beside_groupUpdateSta : Beside sm sm.groupUpdateSta := by
  unfold groupUpdateSta
  split_ifs <;> constructor <;> first | exact rfl | exact id | exact Or.inl ⟨rfl, rfl⟩

omit [Inhabited Ptk] in
lemma beside_applyGroupStep (sm : WpaStateMachine Nonce Pmk Ptk) (g : GroupStep) :
    Beside sm (applyGroupStep sm g) := by
  cases g with
  | update => exact beside_groupUpdateSta
  | fatalFailure => constructor <;> first | exact rfl | exact id | exact Or.inl ⟨rfl, rfl⟩

/-! ## The loop -/

/-- The second machine is reached from the first one by transitions of `WPA_PTK` and steps beside
it. -/
def Reaches (p : WpaParams Nonce Pmk Ptk) :
    WpaStateMachine Nonce Pmk Ptk → WpaStateMachine Nonce Pmk Ptk → Prop :=
  Relation.ReflTransGen fun sm sm' => Beside sm sm' ∨ ∃ r, PtkTransition p r sm sm'

lemma Beside.reaches (h : Beside sm sm') : Reaches p sm sm' := Relation.ReflTransGen.single (Or.inl h)

lemma PtkTransition.reaches (h : PtkTransition p r sm sm') : Reaches p sm sm' :=
  Relation.ReflTransGen.single (Or.inr ⟨r, h⟩)

/-- What is kept by every transition and beside it is kept on the way. -/
theorem Reaches.preserves {I : WpaStateMachine Nonce Pmk Ptk → Prop} (h : Reaches p sm sm')
    (hbeside : ∀ sm sm', I sm → Beside sm sm' → I sm')
    (hptk : ∀ r sm sm', I sm → PtkTransition p r sm sm' → I sm') (hI : I sm) : I sm' := by
  induction h with
  | refl => exact hI
  | tail _ hstep ih =>
    rcases hstep with hstep | ⟨r, hstep⟩
    · exact hbeside _ _ ih hstep
    · exact hptk r _ _ ih hstep

omit [Inhabited Ptk] in
/-- What is kept beside `WPA_PTK` is kept in the rest of a round. -/
lemma afterPtk_preserves {I : WpaStateMachine Nonce Pmk Ptk → Prop}
    (hbeside : ∀ sm sm', I sm → Beside sm sm' → I sm') (h : I sm) :
    I (r.group.foldl applyGroupStep (groupStep r sm)) := by
  have h₁ : I (groupStep r sm) := hbeside _ _ h (beside_groupStep r sm)
  generalize groupStep r sm = sm₁ at h₁
  induction r.group generalizing sm₁ with
  | nil => exact h₁
  | cons g gs ih => exact ih _ (hbeside _ _ h₁ (beside_applyGroupStep sm₁ g))

lemma reaches_afterPtk (r : Round Pmk) (sm : WpaStateMachine Nonce Pmk Ptk) :
    Reaches p sm (r.group.foldl applyGroupStep (groupStep r sm)) :=
  afterPtk_preserves (fun _ _ h hbeside => h.trans hbeside.reaches) Relation.ReflTransGen.refl

/-- The loop begins with a step of `WPA_PTK`. -/
theorem smStep_first {rounds : List (Round Pmk)} (h : smStep p rounds sm = some sm') :
    ∃ r sm₁, { sm with changed := false }.ptkStep p r = some sm₁ ∧ Reaches p sm₁ sm' := by
  induction rounds generalizing sm with
  | nil => exact absurd h (by simp [smStep])
  | cons r rounds ih =>
    simp only [smStep, roundStep, Option.bind_eq_bind, Option.bind_eq_some_iff,
      Option.map_eq_some_iff] at h
    obtain ⟨_, ⟨sm₁, hstep, rfl⟩, h⟩ := h
    refine ⟨r, sm₁, hstep, (reaches_afterPtk r sm₁).trans ?_⟩
    split at h
    · obtain ⟨_, sm₂, hnext, hrest⟩ := ih h
      have htrans := ptkStep_transition hnext
      exact ((beside_changed _ false).reaches.trans htrans.reaches).trans hrest
    · obtain rfl := Option.some.inj h
      exact Relation.ReflTransGen.refl

theorem smStep_reaches {rounds : List (Round Pmk)} (h : smStep p rounds sm = some sm') :
    Reaches p sm sm' := by
  obtain ⟨_, _, hfirst, hrest⟩ := smStep_first h
  have htrans := ptkStep_transition hfirst
  exact ((beside_changed sm false).reaches.trans htrans.reaches).trans hrest

/-! ## The end of the loop -/

/-- A transition that is made without a change is no transition. -/
lemma PtkTransition.changed_or_idle (h : PtkTransition p r sm sm') (hinit : sm.init = false) :
    sm'.changed = true ∨ (sm' = sm ∧ sm.Idle) := by
  cases h with
  | stay idle => exact Or.inr ⟨rfl, idle⟩
  | initializing => exact Or.inl (by simp [ptkInitialize, removePtk, enterPtk, hinit])
  | authentication2 => exact Or.inl (by rw [ptkAuthentication2_eq])
  | initPmk => exact Or.inl (by rw [ptkInitPmk_eq])
  | ptkStart => exact Or.inl (by rw [ptkPtkStart_eq])
  | ptkCalcNegotiating _ _ enter =>
    obtain rfl | ⟨_, _, _, _, _, rfl⟩ := ptkPtkCalcNegotiating_cases enter <;> exact Or.inl rfl
  | ptkInitNegotiating => exact Or.inl (by rw [ptkPtkInitNegotiating_eq])
  | ptkInitDone => exact Or.inl (by rw [ptkPtkInitDone_eq])
  | _ => exact Or.inl rfl

/-- No transition touches `Init`. -/
lemma PtkTransition.init_eq (h : PtkTransition p r sm sm') : sm'.init = sm.init := by
  cases h with
  | authentication2 => rw [ptkAuthentication2_eq]
  | initPmk => rw [ptkInitPmk_eq]
  | ptkStart => rw [ptkPtkStart_eq]
  | ptkCalcNegotiating _ _ enter =>
    obtain rfl | ⟨_, _, _, _, _, rfl⟩ := ptkPtkCalcNegotiating_cases enter <;> rfl
  | ptkInitNegotiating => rw [ptkPtkInitNegotiating_eq]
  | ptkInitDone => rw [ptkPtkInitDone_eq]
  | _ => rfl

omit [Inhabited Ptk] in
lemma groupStep_changed (hinit : sm.init = false) (h : sm.changed = true) :
    (groupStep r sm).changed = true := by
  have hidle : sm.groupIdle.changed = true := by
    change (!sm.init) = true
    rw [hinit]
    rfl
  have hrekey : (groupRekeyNegotiating r sm).changed = true := by
    unfold groupRekeyNegotiating
    dsimp only
    rw [sendEapol_eq]
    split
    · rfl
    · split <;> rfl
  unfold groupStep
  split
  · exact hidle
  · cases sm.wpaPtkGroupState with
    | idle =>
      dsimp only
      split
      · exact hrekey
      · exact h
    | rekeyNegotiating =>
      dsimp only
      split_ifs
      · rfl
      · rfl
      · exact hrekey
      · exact h
    | rekeyEstablished => exact hidle
    | keyError => exact hidle

omit [Inhabited Ptk] in
lemma foldl_applyGroupStep_changed (gs : List GroupStep) (sm : WpaStateMachine Nonce Pmk Ptk) :
    (gs.foldl applyGroupStep sm).changed = sm.changed := by
  induction gs generalizing sm with
  | nil => rfl
  | cons g gs ih =>
    rw [List.foldl_cons, ih]
    cases g with
    | update =>
      simp only [applyGroupStep, groupUpdateSta]
      split_ifs <;> rfl
    | fatalFailure => rfl

omit [Inhabited Ptk] in
lemma Settled.beside (h : sm.Settled) (hbeside : Beside sm sm') : sm'.Settled where
  init := hbeside.init.trans h.init
  deauthenticationRequest := hbeside.deauthenticationRequest.trans h.deauthenticationRequest
  authenticationRequest := hbeside.authenticationRequest.trans h.authenticationRequest
  reAuthenticationRequest := hbeside.reAuthenticationRequest.trans h.reAuthenticationRequest

/-- Nothing is waiting for the loop when it ends. -/
theorem smStep_settled {rounds : List (Round Pmk)} (h : smStep p rounds sm = some sm')
    (hinit : sm.init = false) : sm'.Settled := by
  induction rounds generalizing sm with
  | nil => exact absurd h (by simp [smStep])
  | cons r rounds ih =>
    simp only [smStep, roundStep, Option.bind_eq_bind, Option.bind_eq_some_iff,
      Option.map_eq_some_iff] at h
    obtain ⟨_, ⟨sm₁, hstep, rfl⟩, h⟩ := h
    have htrans := ptkStep_transition hstep
    have hinit₁ : sm₁.init = false := htrans.init_eq.trans hinit
    split at h
    · refine ih h ?_
      exact afterPtk_preserves (I := fun sm => sm.init = false)
        (fun _ _ h hbeside => hbeside.init.trans h) hinit₁
    · rename_i hstop
      obtain rfl := Option.some.inj h
      -- a round that ends the loop has changed nothing
      rcases htrans.changed_or_idle hinit with hchanged | ⟨rfl, idle⟩
      · rw [foldl_applyGroupStep_changed, groupStep_changed hinit₁ hchanged] at hstop
        exact absurd rfl hstop
      · exact afterPtk_preserves (fun _ _ => Settled.beside) idle.toSettled

/-- The loop has been run to its end, or something was done beside it. -/
structure Completes (p : WpaParams Nonce Pmk Ptk) (sm sm' : WpaStateMachine Nonce Pmk Ptk) :
    Prop where
  reaches : Reaches p sm sm'
  settled : sm.Settled → sm'.Settled

lemma Completes.refl (sm : WpaStateMachine Nonce Pmk Ptk) : Completes p sm sm :=
  ⟨Relation.ReflTransGen.refl, id⟩

lemma Completes.trans {sm'' : WpaStateMachine Nonce Pmk Ptk} (h : Completes p sm sm')
    (h' : Completes p sm' sm'') : Completes p sm sm'' :=
  ⟨h.reaches.trans h'.reaches, fun hsettled => h'.settled (h.settled hsettled)⟩

lemma Beside.completes (h : Beside sm sm') : Completes p sm sm' :=
  ⟨h.reaches, fun hsettled => hsettled.beside h⟩

lemma smStep_completes {rounds : List (Round Pmk)} (h : smStep p rounds sm = some sm') :
    Completes p sm sm' :=
  ⟨smStep_reaches h, fun hsettled => smStep_settled h hsettled.init⟩

/-! ## Calls of the group key machine -/

lemma completes_groupCall {g : GroupStep} {rounds : List (Round Pmk)}
    (h : sm.groupCall p g rounds = some sm') : Completes p sm sm' := by
  cases g with
  | update =>
    simp only [groupCall] at h
    split at h
    · exact beside_groupUpdateSta.completes.trans (smStep_completes h)
    · obtain rfl := Option.some.inj h
      exact beside_groupUpdateSta.completes
  | fatalFailure =>
    obtain rfl := Option.some.inj h
    exact (beside_applyGroupStep sm .fatalFailure).completes

lemma completes_groupCalls {gs : List (GroupStep × List (Round Pmk))}
    (h : gs.foldlM (fun sm g => groupCall p sm g.1 g.2) sm = some sm') : Completes p sm sm' := by
  induction gs generalizing sm with
  | nil =>
    obtain rfl := Option.some.inj h
    exact Completes.refl sm
  | cons g gs ih =>
    rw [List.foldlM_cons, Option.bind_eq_bind, Option.bind_eq_some_iff] at h
    obtain ⟨sm₁, hstep, hrest⟩ := h
    exact (completes_groupCall hstep).trans (ih hrest)

lemma completes_sendSmk (env : RxEnv Pmk) : Completes p sm (sm.sendSmk env) := by
  unfold sendSmk
  induction env.smkSends generalizing sm with
  | nil => exact Completes.refl sm
  | cons e es ih => exact (beside_sendEapolFrame e).completes.trans ih

/-! ## Events -/

section Events

variable {rounds₀ rounds : List (Round Pmk)}

lemma startMachine_cases (h : sm.startMachine p rounds = some sm') :
    ∃ sm₁, smStep p rounds { sm with started := true, init := true } = some sm₁ ∧
      sm' = { sm₁ with init := false, authenticationRequest := true } := by
  unfold startMachine at h
  rw [Option.bind_eq_bind, Option.bind_eq_some_iff] at h
  obtain ⟨sm₁, hstep, hstart⟩ := h
  exact ⟨sm₁, hstep, (Option.some.inj hstart).symm⟩

lemma smEvent_cases {event : WpaEvent} (h : sm.smEvent p event rounds₀ rounds = some sm') :
    ∃ sm₁, (sm.startMachine p rounds₀ = some sm₁ ∨ sm₁ = sm.eventFlags event) ∧
      smStep p rounds (sm₁.eventPtk event) = some sm' := by
  unfold smEvent at h
  dsimp only at h
  split at h
  · rw [Option.bind_eq_bind, Option.bind_eq_some_iff] at h
    obtain ⟨sm₁, hstart, hstep⟩ := h
    exact ⟨sm₁, Or.inl hstart, hstep⟩
  · exact ⟨sm.eventFlags event, Or.inr rfl, h⟩

lemma staAssociated_cases (h : sm.staAssociated p rounds₀ rounds = some sm') :
    (sm.started = true ∧ smStep p rounds sm.reassociated = some sm') ∨
    ∃ sm₁, sm.startMachine p rounds₀ = some sm₁ ∧ smStep p rounds sm₁ = some sm' := by
  unfold staAssociated at h
  split at h
  · rename_i hstarted
    exact Or.inl ⟨hstarted, h⟩
  · rw [Option.bind_eq_bind, Option.bind_eq_some_iff] at h
    exact Or.inr h

end Events

/-! ## Received frames -/

section Received

variable {env : RxEnv Pmk} {key : EapolKey Nonce}

omit [Inhabited Ptk] in
/-- The frames of the 4-way handshake. -/
lemma EapolKey.pairwise_of_msg (h : key.msg = .pairwise2 ∨ key.msg = .pairwise4) :
    key.request = false ∧ key.keyType = true := by
  unfold EapolKey.msg at h
  split_ifs at h <;> simp_all

/-- A frame is dropped, answered by a disconnection, or passes the check of its MIC. -/
lemma receive_cases [DecidableEq Nonce] (h : sm.receive p env key = some sm') :
    sm' = sm ∨ ∃ sm₁, sm.checkReplay key = some sm₁ ∧
      (sm' = sm₁ ∨ sm₁.smEvent p .deauth [] env.rounds = some sm' ∨
        (sm₁.checkMsg p env key = .passed ∧
          (sm' = (sm₁.checkMic p env key).1 ∨
            ((sm₁.checkMic p env key).2 = true ∧ key.request = true ∧
              (sm₁.checkMic p env key).1.receiveRequest p env key = some sm') ∨
            ((sm₁.checkMic p env key).2 = true ∧ key.request = false ∧
              (sm₁.checkMic p env key).1.receiveReply p env key = some sm')))) := by
  unfold receive at h
  split at h
  · exact Or.inl (Option.some.inj h).symm
  split at h
  · exact Or.inl (Option.some.inj h).symm
  rename_i sm₁ hreplay
  refine Or.inr ⟨sm₁, hreplay, ?_⟩
  split at h
  · exact Or.inl (Option.some.inj h).symm
  · exact Or.inr (Or.inl h)
  rename_i hmsg
  split at h
  · exact Or.inl (Option.some.inj h).symm
  dsimp only at h
  refine Or.inr (Or.inr ⟨hmsg, ?_⟩)
  split_ifs at h with hmic hrequest
  · exact Or.inl (Option.some.inj h).symm
  · exact Or.inr (Or.inl ⟨by simpa using hmic, hrequest, h⟩)
  · exact Or.inr (Or.inr ⟨by simpa using hmic, by simpa using hrequest, h⟩)

omit [Inhabited Ptk] in
/-- The check of the replay counter may record that the station has changed its SNonce. -/
lemma checkReplay_cases [DecidableEq Nonce] (h : sm.checkReplay key = some sm') :
    (sm' = sm ∧ (key.request = true ∨ wpaReplayCounterValid sm.keyReplay key.replayCounter = true ∨
      (key.msg = .pairwise4 ∧ sm.altSnonceValid = true ∧ key.replayCounter = sm.altReplayCounter))) ∨
    (key.msg = .pairwise2 ∧ sm.wpaPtkState = .ptkInitNegotiating ∧
      sm' = { sm with
        updateSnonce := true
        altSNonce := sm.sNonce
        altSnonceValid := true
        altReplayCounter := firstCounter sm.keyReplay }) := by
  unfold checkReplay at h
  split_ifs at h with hrequest _ hvalid hupdate halt
  · exact Or.inl ⟨(Option.some.inj h).symm, Or.inl hrequest⟩
  · exact Or.inl ⟨(Option.some.inj h).symm, Or.inr (Or.inl hvalid)⟩
  · exact Or.inr ⟨hupdate.1, hupdate.2.2.1, (Option.some.inj h).symm⟩
  · exact Or.inl ⟨(Option.some.inj h).symm, Or.inr (Or.inr ⟨halt.1, halt.2.1, halt.2.2.2⟩)⟩

omit [Inhabited Ptk] in
/-- The MIC of a frame that passes has been verified, or there was no key to verify it with. -/
lemma checkMic_cases :
    (sm.checkMic p env key).1 = { sm with micVerified := false } ∧
        ((sm.checkMic p env key).2 = true → sm.ptkValid = false ∨ sm.updateSnonce = true) ∨
    ((sm.ptkValid = true ∧ sm.updateSnonce = false) ∧
      (p.verifyKeyMic sm.security sm.ptk key = true ∧ (sm.checkMic p env key).1 = sm.setMicVerified ∨
        key.msg = .pairwise4 ∧ ∃ pmk sNonce, pmk ∈ sm.candidatePmks env.psks ∧
          p.verifyKeyMic sm.security (p.derivePtk sm.security pmk sm.aNonce sNonce) key = true ∧
          (sm.checkMic p env key).1 = { sm with
            altSnonceValid := false
            sNonce := sNonce
            ptk := p.derivePtk sm.security pmk sm.aNonce sNonce
            ptkValid := true
            micVerified := true
            sendEapolTimeouts := 0 })) := by
  unfold checkMic
  dsimp only
  by_cases hkey : sm.ptkValid = true ∧ sm.updateSnonce = false
  · rw [if_pos hkey]
    split
    · rename_i hmic
      exact Or.inr ⟨hkey, Or.inl ⟨hmic, rfl⟩⟩
    split
    · rename_i halt
      split
      · rename_i sm₁ htry
        obtain ⟨pmk, hfind, rfl⟩ := Option.map_eq_some_iff.mp htry
        have hmic := List.find?_some hfind
        have hmem := List.mem_of_find?_eq_some hfind
        exact Or.inr ⟨hkey, Or.inr ⟨halt.1, pmk, sm.altSNonce, hmem, hmic, rfl⟩⟩
      · exact Or.inl ⟨rfl, fun hpass => absurd hpass Bool.false_ne_true⟩
    · exact Or.inl ⟨rfl, fun hpass => absurd hpass Bool.false_ne_true⟩
  · rw [if_neg hkey]
    refine Or.inl ⟨rfl, fun _ => ?_⟩
    rw [not_and_or] at hkey
    simpa using hkey

/-- The frame is waiting for the machines. -/
def waiting (sm : WpaStateMachine Nonce Pmk Ptk) (key : EapolKey Nonce) :
    WpaStateMachine Nonce Pmk Ptk :=
  { sm with
    lastRxEapolKey := some key
    eapolKeyReceived := true
    eapolKeyPairwise := key.keyType
    eapolKeyRequest := key.request
    sNonce := key.keyNonce }

lemma finishReceive_cases (h : sm.finishReceive p env key = some sm') :
    sm' = { sm with lastRxEapolKey := none } ∨ smStep p env.rounds (sm.waiting key) = some sm' := by
  unfold finishReceive at h
  split at h
  · exact Or.inl (Option.some.inj h).symm
  · exact Or.inr h

/-- A request whose MIC was verified asks for a new PTK, or it is left to the other machines. -/
lemma receiveRequest_cases (h : sm.receiveRequest p env key = some sm') :
    sm' = sm ∨ (sm.micVerified = true ∧
      ((key.msg ≠ .smkError ∧ (key.error = true ∨ key.keyType = true) ∧
          (sm.acceptRequest key).requestNewPtk.finishReceive p env key = some sm') ∨
        ∃ sm₁, Completes p (sm.acceptRequest key) sm₁ ∧
          (sm' = sm₁ ∨ sm₁.finishReceive p env key = some sm'))) := by
  unfold receiveRequest at h
  split at h
  · exact Or.inl (Option.some.inj h).symm
  rename_i hmic
  refine Or.inr ⟨by simpa using hmic, ?_⟩
  dsimp only at h
  split_ifs at h with hsmk herror hremoves hpairwise hm1 hmac
  · exact Or.inr ⟨_, completes_sendSmk env, Or.inl (Option.some.inj h).symm⟩
  · exact Or.inr ⟨_, Completes.refl _, Or.inl (Option.some.inj h).symm⟩
  · exact Or.inl ⟨hsmk, Or.inl herror, h⟩
  · exact Or.inl ⟨hsmk, Or.inr hpairwise, h⟩
  · exact Or.inr ⟨_, completes_sendSmk env, Or.inr h⟩
  · exact Or.inr ⟨_, Completes.refl _, Or.inr h⟩
  · rw [Option.bind_eq_bind, Option.bind_eq_some_iff] at h
    obtain ⟨sm₁, hgroup, h⟩ := h
    exact Or.inr ⟨sm₁, completes_groupCalls hgroup, Or.inr h⟩

/-! ## Between the calls -/

omit [Inhabited Ptk] in
/-- The requests are left alone by what does not touch them. -/
lemma Settled.of_eq (h : sm.Settled) (hinit : sm'.init = sm.init)
    (hdeauth : sm'.deauthenticationRequest = sm.deauthenticationRequest)
    (hauth : sm'.authenticationRequest = sm.authenticationRequest)
    (hreauth : sm'.reAuthenticationRequest = sm.reAuthenticationRequest) : sm'.Settled :=
  ⟨hinit.trans h.init, hdeauth.trans h.deauthenticationRequest, hauth.trans h.authenticationRequest,
    hreauth.trans h.reAuthenticationRequest⟩

lemma Settled.smEvent (h : sm.Settled) {event : WpaEvent} {rounds₀ rounds : List (Round Pmk)}
    (hevent : sm.smEvent p event rounds₀ rounds = some sm') : sm'.Settled := by
  obtain ⟨sm₁, hflags, hstep⟩ := smEvent_cases hevent
  refine smStep_settled hstep ?_
  have hinit : sm₁.init = false := by
    rcases hflags with hstart | rfl
    · obtain ⟨_, _, rfl⟩ := startMachine_cases hstart
      rfl
    · unfold eventFlags
      cases event with
      | reauth | reauthEapol =>
        dsimp only
        split <;> exact h.init
      | _ => exact h.init
  unfold eventPtk
  split_ifs <;> exact hinit

lemma Settled.finishReceive (h : sm.Settled) (hfinish : sm.finishReceive p env key = some sm') :
    sm'.Settled := by
  rcases finishReceive_cases hfinish with rfl | hstep
  · exact h.of_eq rfl rfl rfl rfl
  · exact smStep_settled hstep h.init

lemma Settled.receive [DecidableEq Nonce] (h : sm.Settled)
    (hreceive : sm.receive p env key = some sm') : sm'.Settled := by
  rcases receive_cases hreceive with rfl | ⟨sm₁, hreplay, hreceive⟩
  · exact h
  have h₁ : sm₁.Settled := by
    rcases checkReplay_cases hreplay with ⟨rfl, -⟩ | ⟨-, -, rfl⟩
    · exact h
    · exact h.of_eq rfl rfl rfl rfl
  have h₂ : (sm₁.checkMic p env key).1.Settled := by
    rcases checkMic_cases with ⟨hsm, -⟩ | ⟨-, ⟨-, hsm⟩ | ⟨-, _, _, -, -, hsm⟩⟩ <;> rw [hsm] <;>
      exact h₁.of_eq rfl rfl rfl rfl
  rcases hreceive with rfl | hevent | ⟨-, rfl | ⟨-, -, hrequest⟩ | ⟨-, -, hreply⟩⟩
  · exact h₁
  · exact h₁.smEvent hevent
  · exact h₂
  · rcases receiveRequest_cases hrequest with rfl | ⟨-, ⟨-, -, hfinish⟩ | ⟨sm₃, hcompletes, hend⟩⟩
    · exact h₂
    · refine Settled.finishReceive ?_ hfinish
      exact h₂.of_eq rfl rfl rfl rfl
    · have h₃ := hcompletes.settled (h₂.of_eq rfl rfl rfl rfl)
      rcases hend with rfl | hfinish
      · exact h₃
      · exact h₃.finishReceive hfinish
  · have h₃ : ((sm₁.checkMic p env key).1.consumeReplay key).Settled := h₂.of_eq rfl rfl rfl rfl
    unfold receiveReply at hreply
    dsimp only at hreply
    split at hreply
    · obtain rfl := Option.some.inj hreply
      exact (completes_sendSmk (p := p) env).settled h₃
    · exact h₃.finishReceive hreply

/-- No request is pending between two calls. -/
theorem Settled.next [DecidableEq Nonce] (h : sm.Settled) {call : WpaCall Nonce Pmk}
    (hnext : next p sm call = some sm') : sm'.Settled := by
  cases call with
  | receive env key => exact h.receive hnext
  | sendEapolTimeout rounds =>
    simp only [WpaStateMachine.next] at hnext
    split at hnext
    · exact absurd hnext (by simp)
    · exact smStep_settled hnext h.init
  | rekeyPtk rounds =>
    simp only [WpaStateMachine.next] at hnext
    split at hnext
    · exact absurd hnext (by simp)
    · exact smStep_settled hnext h.init
  | smEvent event rounds₀ rounds => exact h.smEvent hnext
  | staAssociated rounds₀ rounds =>
    rcases staAssociated_cases hnext with ⟨-, hstep⟩ | ⟨sm₁, hstart, hstep⟩
    · exact smStep_settled hstep h.init
    · obtain ⟨_, _, rfl⟩ := startMachine_cases hstart
      exact smStep_settled hstep rfl
  | smCallStep rounds => exact smStep_settled hnext h.init
  | group step rounds => exact (completes_groupCall hnext).settled h
  | smkSend e =>
    obtain rfl := Option.some.inj hnext
    exact h.beside (beside_sendEapolFrame e)
  | validateWpaIe security mgmtFrameProt =>
    obtain rfl := Option.some.inj hnext
    exact h.of_eq rfl rfl rfl rfl
  | setWnmsleep flag =>
    obtain rfl := Option.some.inj hnext
    exact h.of_eq rfl rfl rfl rfl

end Received

end WpaStateMachine

/-! ## A station to run the calls on -/

/-- Keys and MICs that spell out what they are made of. -/
def plainParams : WpaParams UInt8 Unit (List UInt8) where
  derivePtk _ _ aNonce sNonce := [aNonce, sNonce]
  verifyKeyMic _ ptk key := key.keyMic == ptk
  parseKdeIes keyData := if keyData = [1] then some ⟨true, false⟩ else none
  random i := UInt8.ofNat (i + 7)
  randomFails _ := false
  peerkey := false
  wpaPtkRekey := true
  groupTkip := false

/-- WPA2-PSK with CCMP. -/
def plainSecurity : StaSecurity := ⟨.wpa2, .ccmp, true, false, false, false, false⟩

/-- Rounds in which nothing happens around the machines. -/
def plainRounds : List (Round Unit) := List.replicate 10 { psks := [()] }

/-- A pairwise frame. -/
def plainFrame (replayCounter : BitVec 64) (keyNonce : UInt8) (keyMic keyData : List UInt8) :
    EapolKey UInt8 where
  type := .rsn
  version := 2
  keyType := true
  ack := false
  mic := true
  secure := false
  error := false
  request := false
  smkMessage := false
  replayCounter := replayCounter
  keyNonce := keyNonce
  keyMic := keyMic
  keyData := keyData

/-- A frame is received. -/
def plainReceive (key : EapolKey UInt8) : WpaCall UInt8 Unit :=
  .receive { psks := [()], rounds := plainRounds } key

end Ethanol
