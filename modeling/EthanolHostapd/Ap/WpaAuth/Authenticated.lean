import EthanolHostapd.Ap.WpaAuth.Steps

/-!
# Which frame installs a key

`PTKINITDONE` is entered while a frame is processed.  `AuthenticatedBy` says what that frame has to be:
the last one of a 4-way handshake, with a MIC that the installed PTK verifies and a replay counter that
was sent, after a 2/4 frame that a PTK of the same ANonce has verified.

The machines take a waiting frame at once, and `Guarded` is the invariant between two frames: none is
waiting, the counters that are accepted were sent, and where a PTK is valid or has been negotiated a 2/4
frame was verified before.  Three things are outside it: a frame that finds another request pending, a
frame with key data that comes in `PTKCALCNEGOTIATING` and is verified by the PTK before, and a new
association that leaves the PTK valid.
-/

namespace Ethanol

/-- The states after an answer of the station. -/
def PtkState.answered : PtkState → Bool
  | .ptkCalcNegotiating | .ptkCalcNegotiating2 | .ptkInitNegotiating => true
  | _ => false

lemma valid_of_mem_markInvalid {ctr : List KeyReplayCounter} {c : KeyReplayCounter}
    (hc : c ∈ wpaReplayCounterMarkInvalid ctr none) : c.valid = false := by
  obtain ⟨c₀, -, rfl⟩ := List.mem_map.mp hc
  cases hvalid : c₀.valid <;> simp [hvalid]

lemma firstCounter_markInvalid (ctr : List KeyReplayCounter) (replayCounter : Option (BitVec 64)) :
    firstCounter (wpaReplayCounterMarkInvalid ctr replayCounter) = firstCounter ctr := by
  cases ctr with
  | nil => rfl
  | cons c ctr =>
    change KeyReplayCounter.counter (if _ then _ else _) = c.counter
    split <;> rfl

namespace WpaStateMachine

variable {Nonce Pmk Ptk : Type}

/-- The keys that were installed, each with its ANonce, the last one first. -/
def installs (sm : WpaStateMachine Nonce Pmk Ptk) : List (Ptk × Nonce) :=
  sm.history.filterMap fun
    | .installed ptk aNonce => some (ptk, aNonce)
    | _ => none

/-- A 2/4 frame was verified under a PTK that is derived from the ANonce. -/
def HasMsg2 (p : WpaParams Nonce Pmk Ptk) (sm : WpaStateMachine Nonce Pmk Ptk) : Prop :=
  ∃ frame security pmk sNonce, frame.msg = .pairwise2 ∧
    p.verifyKeyMic security (p.derivePtk security pmk sm.aNonce sNonce) frame = true ∧
    .verified frame (p.derivePtk security pmk sm.aNonce sNonce) sm.aNonce ∈ sm.history

/-- What a frame must be for a PTK to be installed. -/
structure AuthenticatedBy (p : WpaParams Nonce Pmk Ptk) (sm : WpaStateMachine Nonce Pmk Ptk)
    (key : EapolKey Nonce) (ptk : Ptk) : Prop where
  request : key.request = false
  keyType : key.keyType = true
  keyData : key.keyData = []
  mic : p.verifyKeyMic sm.security ptk key = true
  sent : .sent key.replayCounter ∈ sm.history
  msg2 : sm.HasMsg2 p

/-- The PTK has been negotiated as far as the machine goes. -/
def Negotiated (sm : WpaStateMachine Nonce Pmk Ptk) : Prop :=
  sm.ptkValid = true ∨ (sm.wpaPtkState = .ptkCalcNegotiating ∧ sm.micVerified = true) ∨
    sm.wpaPtkState = .ptkCalcNegotiating2 ∨ sm.wpaPtkState = .ptkInitNegotiating

/-- The invariant, for the keys that were installed so far. -/
structure Guarded (p : WpaParams Nonce Pmk Ptk) (keys : List (Ptk × Nonce))
    (sm : WpaStateMachine Nonce Pmk Ptk) : Prop where
  valid : ∀ c ∈ sm.keyReplay, c.valid = true → .sent c.counter ∈ sm.history
  first : sm.wpaPtkState.answered = true → sm.reAuthenticationRequest = false →
    .sent (firstCounter sm.keyReplay) ∈ sm.history
  alt : sm.altSnonceValid = true → .sent sm.altReplayCounter ∈ sm.history
  msg2 : sm.Negotiated → sm.HasMsg2 p
  fresh : sm.reAuthenticationRequest = true ∨ sm.wpaPtkState = .authentication → sm.ptkValid = false
  quiet : sm.pairwiseReceived = false
  installs : sm.installs = keys

variable {p : WpaParams Nonce Pmk Ptk} {keys : List (Ptk × Nonce)}
  {sm sm' : WpaStateMachine Nonce Pmk Ptk}

lemma HasMsg2.mono (h : sm.HasMsg2 p) (haNonce : sm'.aNonce = sm.aNonce)
    (hhistory : sm.history ⊆ sm'.history) : sm'.HasMsg2 p := by
  obtain ⟨frame, security, pmk, sNonce, hmsg, hmic, hverified⟩ := h
  rw [HasMsg2, haNonce]
  exact ⟨frame, security, pmk, sNonce, hmsg, hmic, hhistory hverified⟩

/-! ## Counters -/

/-- The record grows, and every counter that becomes acceptable is on it. -/
structure Grows (sm sm' : WpaStateMachine Nonce Pmk Ptk) : Prop where
  history : sm.history ⊆ sm'.history
  valid : ∀ c ∈ sm'.keyReplay, c.valid = true → c ∈ sm.keyReplay ∨ .sent c.counter ∈ sm'.history
  first : firstCounter sm'.keyReplay = firstCounter sm.keyReplay ∨
    .sent (firstCounter sm'.keyReplay) ∈ sm'.history

lemma Grows.same (hkeyReplay : sm'.keyReplay = sm.keyReplay) (hhistory : sm.history ⊆ sm'.history) :
    Grows sm sm' where
  history := hhistory
  valid := by
    rw [hkeyReplay]
    intro c hc _
    exact Or.inl hc
  first := Or.inl (by rw [hkeyReplay])

lemma Grows.of_eq (hkeyReplay : sm'.keyReplay = sm.keyReplay) (hhistory : sm'.history = sm.history) :
    Grows sm sm' :=
  Grows.same hkeyReplay (by rw [hhistory]; exact List.Subset.refl _)

lemma Sends.grows (h : Sends sm sm') : Grows sm sm' := by
  rcases h with ⟨hkeyReplay, hhistory⟩ | ⟨hkeyReplay, hhistory⟩
  · exact Grows.of_eq hkeyReplay hhistory
  · constructor
    case history =>
      rw [hhistory]
      exact List.subset_cons_self _ _
    case valid =>
      rw [hkeyReplay, hhistory]
      intro c hc _
      rcases List.mem_cons.mp hc with rfl | hc
      · exact Or.inr List.mem_cons_self
      · exact Or.inl (List.mem_of_mem_take hc)
    case first =>
      rw [hkeyReplay, hhistory]
      exact Or.inr List.mem_cons_self

lemma Sends.installs_eq (h : Sends sm sm') : sm'.installs = sm.installs := by
  unfold WpaStateMachine.installs
  rcases h with ⟨-, h⟩ | ⟨-, h⟩ <;> rw [h]
  rfl

/-- What matters for the invariant. -/
lemma Guarded.of_grows (h : sm.Guarded p keys) (hgrows : Grows sm sm')
    (haNonce : sm'.aNonce = sm.aNonce)
    (hanswered : sm'.wpaPtkState.answered = true → sm'.reAuthenticationRequest = false →
      sm.wpaPtkState.answered = true ∧ sm.reAuthenticationRequest = false)
    (halt : sm'.altSnonceValid = true →
      sm.altSnonceValid = true ∧ sm'.altReplayCounter = sm.altReplayCounter)
    (hnegotiated : sm'.Negotiated → sm.Negotiated)
    (hfresh : sm'.reAuthenticationRequest = true ∨ sm'.wpaPtkState = .authentication →
      sm'.ptkValid = false)
    (hquiet : sm'.pairwiseReceived = false) (hinstalls : sm'.installs = sm.installs) :
    sm'.Guarded p keys where
  valid c hc hvalid := by
    rcases hgrows.valid c hc hvalid with hold | hsent
    · exact hgrows.history (h.valid c hold hvalid)
    · exact hsent
  first hstate hreauth := by
    obtain ⟨hstate, hreauth⟩ := hanswered hstate hreauth
    rcases hgrows.first with hsame | hsent
    · rw [hsame]
      exact hgrows.history (h.first hstate hreauth)
    · exact hsent
  alt hvalid := by
    obtain ⟨hvalid, hsame⟩ := halt hvalid
    rw [hsame]
    exact hgrows.history (h.alt hvalid)
  msg2 hneg := (h.msg2 (hnegotiated hneg)).mono haNonce hgrows.history
  fresh := hfresh
  quiet := hquiet
  installs := hinstalls.trans h.installs

/-! ## The machines -/

lemma Guarded.beside (h : sm.Guarded p keys) (hbeside : Beside sm sm') : sm'.Guarded p keys := by
  refine h.of_grows hbeside.sends.grows hbeside.aNonce ?_ ?_ ?_ ?_ ?_ hbeside.sends.installs_eq
  · rw [hbeside.wpaPtkState, hbeside.reAuthenticationRequest]
    exact And.intro
  · rw [hbeside.altSnonceValid]
    intro hvalid
    exact ⟨hvalid, hbeside.altReplayCounter⟩
  · rw [Negotiated, hbeside.ptkValid, hbeside.wpaPtkState, hbeside.micVerified]
    exact id
  · rw [hbeside.reAuthenticationRequest, hbeside.wpaPtkState, hbeside.ptkValid]
    exact h.fresh
  · have hquiet := h.quiet
    have hreceived := hbeside.eapolKeyReceived
    simp only [pairwiseReceived, hbeside.eapolKeyPairwise, hbeside.eapolKeyRequest] at hquiet ⊢
    cases hsm' : sm'.eapolKeyReceived with
    | false => rfl
    | true => rw [← hquiet, hreceived hsm']

/-- A PTK does not come back while a new authentication is asked for. -/
lemma Guarded.stays_fresh (h : sm.Guarded p keys) (hstate : sm'.wpaPtkState ≠ .authentication)
    (hreauth : sm'.reAuthenticationRequest = sm.reAuthenticationRequest)
    (hvalid : sm'.ptkValid = sm.ptkValid) :
    sm'.reAuthenticationRequest = true ∨ sm'.wpaPtkState = .authentication → sm'.ptkValid = false := by
  rintro (hreauth' | hstate')
  · exact hvalid.trans (h.fresh (Or.inl (hreauth.symm.trans hreauth')))
  · exact absurd hstate' hstate

/-- A step to a state in which no answer of the station is taken into account. -/
lemma Guarded.leave (h : sm.Guarded p keys) (hgrows : Grows sm sm')
    (haNonce : sm'.aNonce = sm.aNonce) (hstate : sm'.wpaPtkState.answered = false)
    (halt : sm'.altSnonceValid = true →
      sm.altSnonceValid = true ∧ sm'.altReplayCounter = sm.altReplayCounter)
    (hvalid : sm'.ptkValid = true → sm.ptkValid = true)
    (hfresh : sm'.reAuthenticationRequest = true ∨ sm'.wpaPtkState = .authentication →
      sm'.ptkValid = false)
    (hquiet : sm'.pairwiseReceived = false) (hinstalls : sm'.installs = sm.installs) :
    sm'.Guarded p keys := by
  refine h.of_grows hgrows haNonce ?_ halt ?_ hfresh hquiet hinstalls
  · intro hanswered
    exact absurd (hstate.symm.trans hanswered) Bool.false_ne_true
  · rintro (hvalid' | ⟨hcalc, -⟩ | hcalc2 | hneg)
    · exact Or.inl (hvalid hvalid')
    all_goals simp [*, PtkState.answered] at hstate

variable [Inhabited Ptk] {r : Round Pmk}

omit [Inhabited Ptk] in
/-- A new ANonce is only drawn when there is no PTK. -/
lemma Guarded.authentication2 (h : sm.Guarded p keys)
    (guard : sm.reAuthenticationRequest = true ∨ sm.wpaPtkState = .authentication) :
    (sm.ptkAuthentication2 p).Guarded p keys := by
  have hvalid : sm.ptkValid = false := h.fresh guard
  rw [ptkAuthentication2_eq]
  exact {
    valid := h.valid
    first := fun hstate => absurd hstate Bool.false_ne_true
    alt := h.alt
    msg2 := by
      rintro (hvalid' | ⟨hstate, -⟩ | hstate | hstate)
      · exact absurd (hvalid.symm.trans hvalid') Bool.false_ne_true
      all_goals exact absurd hstate (by simp)
    fresh := fun _ => hvalid
    quiet := h.quiet
    installs := h.installs }

omit [Inhabited Ptk] in
/-- `PTKCALCNEGOTIATING` may be entered after an earlier 2/4 frame, or for one. -/
lemma Guarded.enterCalcNegotiating (h : sm.Guarded p keys)
    (hreauth : sm.reAuthenticationRequest = false)
    (hfirst : .sent (firstCounter sm.keyReplay) ∈ sm.history)
    (hmsg2 : sm.HasMsg2 p ∨ (sm.micVerified = false ∧
      ∀ frame, sm.lastRxEapolKey = some frame → frame.msg = .pairwise2))
    (enter : sm.ptkPtkCalcNegotiating p r = some sm') : sm'.Guarded p keys := by
  obtain rfl | ⟨frame, pmk, hframe, -, hmic, rfl⟩ := ptkPtkCalcNegotiating_cases enter
  · exact {
      valid := h.valid
      first := fun _ _ => hfirst
      alt := h.alt
      msg2 := by
        rintro (hvalid | ⟨-, hmic⟩ | ⟨⟨⟩⟩ | ⟨⟨⟩⟩)
        · exact h.msg2 (Or.inl hvalid)
        · rcases hmsg2 with hmsg2 | ⟨hunverified, -⟩
          · exact hmsg2
          · exact absurd (hunverified.symm.trans hmic) Bool.false_ne_true
      fresh := h.stays_fresh (by rintro ⟨⟩) rfl rfl
      quiet := rfl
      installs := h.installs }
  · exact {
      valid := fun c hc hvalid => List.mem_cons_of_mem _ (h.valid c hc hvalid)
      first := fun _ _ => List.mem_cons_of_mem _ hfirst
      alt := fun hvalid => List.mem_cons_of_mem _ (h.alt hvalid)
      msg2 := by
        intro _
        rcases hmsg2 with hmsg2 | ⟨-, hpairwise⟩
        · exact hmsg2.mono rfl (List.subset_cons_self _ _)
        · exact ⟨frame, sm.security, pmk, sm.sNonce, hpairwise frame hframe, hmic,
            List.mem_cons_self⟩
      fresh := by
        rintro (hreauth' | ⟨⟨⟩⟩)
        exact absurd (hreauth.symm.trans hreauth') Bool.false_ne_true
      quiet := rfl
      installs := h.installs }

/-- Every transition keeps the invariant, and none of them installs a key. -/
lemma Guarded.transition (h : sm.Guarded p keys) (htrans : PtkTransition p r sm sm') :
    sm'.Guarded p keys := by
  have hnone : ∀ {b : Bool}, false = true → b = true := by
    intro b hfalse
    exact absurd hfalse Bool.false_ne_true
  cases htrans with
  | stay => exact h
  | initializing =>
    exact h.leave (Grows.of_eq rfl rfl) rfl rfl (fun hvalid => ⟨hvalid, rfl⟩) hnone (fun _ => rfl)
      h.quiet rfl
  | disconnect =>
    exact h.leave (Grows.of_eq rfl rfl) rfl rfl (fun hvalid => ⟨hvalid, rfl⟩) hnone (fun _ => rfl)
      h.quiet rfl
  | disconnected =>
    refine h.leave (Grows.of_eq rfl rfl) rfl rfl (fun hvalid => ⟨hvalid, rfl⟩) id ?_ h.quiet rfl
    exact h.stays_fresh (by rintro ⟨⟩) rfl rfl
  | authentication =>
    exact h.leave (Grows.of_eq rfl rfl) rfl rfl (fun hvalid => ⟨hvalid, rfl⟩) hnone (fun _ => rfl)
      h.quiet rfl
  | authentication2 guard => exact h.authentication2 guard
  | initPmk idle =>
    rw [ptkInitPmk_eq]
    refine h.leave (Grows.same rfl (List.subset_cons_self _ _)) rfl rfl (fun hvalid => ⟨hvalid, rfl⟩) id ?_ h.quiet rfl
    exact h.stays_fresh (by rintro ⟨⟩) rfl rfl
  | initPsk idle =>
    refine h.leave (Grows.same rfl (List.subset_cons_self _ _)) rfl rfl
      (fun hvalid => ⟨hvalid, rfl⟩) id ?_ h.quiet rfl
    exact h.stays_fresh (by rintro ⟨⟩) rfl rfl
  | ptkStart guard =>
    have hsends : Sends sm (sm.ptkPtkStart r) := sends_ptkPtkStart
    rw [ptkPtkStart_eq] at hsends ⊢
    refine h.leave hsends.grows rfl rfl (fun hvalid => absurd hvalid Bool.false_ne_true) id ?_ h.quiet
      hsends.installs_eq
    exact h.stays_fresh (by rintro ⟨⟩) rfl rfl
  | ptkCalcNegotiating idle guard enter =>
    have hstate : sm.wpaPtkState = .ptkInitNegotiating := by
      rcases guard with ⟨-, received⟩ | ⟨-, received, -⟩ | ⟨hstate, -⟩
      · exact absurd (h.quiet.symm.trans received) Bool.false_ne_true
      · exact absurd (h.quiet.symm.trans received) Bool.false_ne_true
      · exact hstate
    have hfirst := h.first (by rw [hstate]; rfl) idle.reAuthenticationRequest
    have hmsg2 := h.msg2 (Or.inr (Or.inr (Or.inr hstate)))
    exact h.enterCalcNegotiating idle.reAuthenticationRequest hfirst (Or.inl hmsg2) enter
  | ptkCalcNegotiating2 idle guard verified =>
    refine h.of_grows (Grows.of_eq rfl rfl) rfl ?_ (fun hvalid => ⟨hvalid, rfl⟩) ?_ ?_ h.quiet rfl
    · intro _ hreauth
      exact ⟨by rw [guard]; rfl, hreauth⟩
    · intro _
      exact Or.inr (Or.inl ⟨guard, verified⟩)
    · exact h.stays_fresh (by rintro ⟨⟩) rfl rfl
  | ptkInitNegotiating idle guard =>
    have hsends : Sends sm (sm.ptkPtkInitNegotiating r) := sends_ptkPtkInitNegotiating
    rw [ptkPtkInitNegotiating_eq] at hsends ⊢
    refine h.of_grows hsends.grows rfl ?_ (fun hvalid => ⟨hvalid, rfl⟩) ?_ ?_ h.quiet
      hsends.installs_eq
    · intro _ hreauth
      refine ⟨?_, hreauth⟩
      rcases guard with guard | guard <;> rw [guard] <;> rfl
    · intro _
      exact Or.inr (Or.inr guard)
    · exact h.stays_fresh (by rintro ⟨⟩) rfl rfl
  | ptkInitDone idle guard received =>
    exact absurd (h.quiet.symm.trans received) Bool.false_ne_true

lemma Guarded.reaches (h : sm.Guarded p keys) (hreaches : Reaches p sm sm') : sm'.Guarded p keys :=
  hreaches.preserves (fun _ _ => Guarded.beside) (fun _ _ _ => Guarded.transition) h

/-! ## Events -/

section Events

variable {rounds₀ rounds : List (Round Pmk)}

lemma Guarded.startMachine (h : sm.Guarded p keys) (hstart : sm.startMachine p rounds = some sm') :
    sm'.Guarded p keys := by
  obtain ⟨sm₁, hstep, rfl⟩ := startMachine_cases hstart
  have h₁ : sm₁.Guarded p keys := by
    refine Guarded.reaches ?_ (smStep_reaches hstep)
    exact ⟨h.valid, h.first, h.alt, h.msg2, h.fresh, h.quiet, h.installs⟩
  exact ⟨h₁.valid, h₁.first, h₁.alt, h₁.msg2, h₁.fresh, h₁.quiet, h₁.installs⟩

omit [Inhabited Ptk] in
/-- A new authentication is asked for without a PTK. -/
lemma Guarded.reauthenticate (h : sm.Guarded p keys) (hvalid : sm.ptkValid = false) :
    { sm with reAuthenticationRequest := true }.Guarded p keys where
  valid := h.valid
  first := fun _ hreauth => absurd hreauth.symm Bool.false_ne_true
  alt := h.alt
  msg2 := h.msg2
  fresh := fun _ => hvalid
  quiet := h.quiet
  installs := h.installs

omit [Inhabited Ptk] in
/-- The same with cleared replay counters. -/
lemma Guarded.reassociated (h : sm.Guarded p keys) (hvalid : sm.ptkValid = false) :
    sm.reassociated.Guarded p keys where
  valid c hc hvalid := by
    rw [List.eq_of_mem_replicate hc] at hvalid
    exact absurd hvalid Bool.false_ne_true
  first := fun _ hreauth => absurd hreauth.symm Bool.false_ne_true
  alt halt := List.mem_cons_of_mem _ (h.alt halt)
  msg2 hnegotiated := (h.msg2 hnegotiated).mono rfl (List.subset_cons_self _ _)
  fresh := fun _ => hvalid
  quiet := h.quiet
  installs := h.installs

omit [Inhabited Ptk] in
/-- The PTK is given up, for whatever reason. -/
lemma Guarded.withoutPtk (h : sm.Guarded p keys) (ptk : Ptk) (pairwiseSet ptkRequest : Bool)
    (rekeyPtkTimeouts : ℕ) :
    { sm with
      ptkValid := false
      ptk := ptk
      pairwiseSet := pairwiseSet
      ptkRequest := ptkRequest
      rekeyPtkTimeouts := rekeyPtkTimeouts }.Guarded p keys := by
  refine h.of_grows (Grows.of_eq rfl rfl) rfl And.intro ?_ ?_ (fun _ => rfl) h.quiet rfl
  · intro hvalid
    exact ⟨hvalid, rfl⟩
  · rintro (hvalid | hnegotiated)
    · exact absurd hvalid Bool.false_ne_true
    · exact Or.inr hnegotiated

lemma Guarded.eventPtk (h : sm.Guarded p keys) (event : WpaEvent) :
    (sm.eventPtk event).Guarded p keys := by
  unfold WpaStateMachine.eventPtk
  split_ifs
  · exact h
  · exact h.withoutPtk _ _ _ _
  · exact h.withoutPtk _ _ _ _

lemma Guarded.eventFlags (h : sm.Guarded p keys) (event : WpaEvent) :
    ((sm.eventFlags event).eventPtk event).Guarded p keys := by
  have hgroup : (if sm.gUpdateStationKeys then
      { sm with gUpdateStationKeys := false, ptkGroupInit := true } else sm).Guarded p keys := by
    split
    · exact ⟨h.valid, h.first, h.alt, h.msg2, h.fresh, h.quiet, h.installs⟩
    · exact h
  cases event with
  | auth => exact h.eventPtk .auth
  | assoc => exact h.eventPtk .assoc
  | deauth =>
    refine Guarded.eventPtk ?_ .deauth
    exact ⟨h.valid, h.first, h.alt, h.msg2, h.fresh, h.quiet, h.installs⟩
  | disassoc =>
    refine Guarded.eventPtk ?_ .disassoc
    exact ⟨h.valid, h.first, h.alt, h.msg2, h.fresh, h.quiet, h.installs⟩
  | reauth =>
    rw [WpaStateMachine.eventPtk, if_neg (by simp), if_neg (by simp)]
    exact (hgroup.withoutPtk _ _ _ _).reauthenticate rfl
  | reauthEapol =>
    rw [WpaStateMachine.eventPtk, if_neg (by simp), if_pos rfl]
    exact (hgroup.withoutPtk _ _ _ _).reauthenticate rfl

lemma Guarded.smEvent (h : sm.Guarded p keys) {event : WpaEvent}
    (hevent : sm.smEvent p event rounds₀ rounds = some sm') : sm'.Guarded p keys := by
  obtain ⟨sm₁, hflags, hstep⟩ := smEvent_cases hevent
  refine Guarded.reaches ?_ (smStep_reaches hstep)
  rcases hflags with hstart | rfl
  · exact (h.startMachine hstart).eventPtk event
  · exact h.eventFlags event

lemma Guarded.staAssociated (h : sm.Guarded p keys)
    (hvalid : sm.started = true → sm.ptkValid = false)
    (hassoc : sm.staAssociated p rounds₀ rounds = some sm') : sm'.Guarded p keys := by
  rcases staAssociated_cases hassoc with ⟨hstarted, hstep⟩ | ⟨sm₁, hstart, hstep⟩
  · exact (h.reassociated (hvalid hstarted)).reaches (smStep_reaches hstep)
  · exact (h.startMachine hstart).reaches (smStep_reaches hstep)

end Events

/-! ## Replay counters of received frames -/

omit [Inhabited Ptk] in
/-- A counter that is accepted was sent, and so was the last one. -/
lemma Guarded.sent_of_valid (h : sm.Guarded p keys) {counter : BitVec 64}
    (hvalid : wpaReplayCounterValid sm.keyReplay counter = true) :
    .sent counter ∈ sm.history ∧ .sent (firstCounter sm.keyReplay) ∈ sm.history := by
  have hsent := h.valid
  unfold wpaReplayCounterValid at hvalid
  unfold firstCounter
  generalize sm.keyReplay = ctr at hvalid hsent
  obtain ⟨c, hc, hcounter⟩ := List.any_eq_true.mp hvalid
  constructor
  · rw [← beq_iff_eq.mp hcounter]
    exact hsent c ((List.takeWhile_prefix _).subset hc) (List.all_eq_true.mp List.all_takeWhile c hc)
  · cases ctr with
    | nil => exact absurd hc List.not_mem_nil
    | cons c₀ ctr =>
      refine hsent c₀ List.mem_cons_self ?_
      by_contra hfirst
      rw [List.takeWhile_cons_of_neg hfirst] at hc
      exact absurd hc List.not_mem_nil

section Received

variable {env : RxEnv Pmk} {key : EapolKey Nonce}

omit [Inhabited Ptk] in
lemma Guarded.checkReplay [DecidableEq Nonce] (h : sm.Guarded p keys)
    (hreauth : sm.reAuthenticationRequest = false) (hreplay : sm.checkReplay key = some sm') :
    sm'.Guarded p keys := by
  rcases checkReplay_cases hreplay with ⟨rfl, -⟩ | ⟨-, hstate, rfl⟩
  · exact h
  · exact {
      valid := h.valid
      first := h.first
      alt := fun _ => h.first (by rw [hstate]; rfl) hreauth
      msg2 := h.msg2
      fresh := h.fresh
      quiet := h.quiet
      installs := h.installs }

omit [Inhabited Ptk] in
lemma Guarded.checkMic (h : sm.Guarded p keys) : (sm.checkMic p env key).1.Guarded p keys := by
  rcases checkMic_cases with ⟨hsm, -⟩ | ⟨⟨hvalid, -⟩, ⟨-, hsm⟩ | ⟨-, _, _, -, -, hsm⟩⟩
  · rw [hsm]
    refine h.of_grows (Grows.of_eq rfl rfl) rfl And.intro (fun halt => ⟨halt, rfl⟩) ?_ h.fresh h.quiet
      rfl
    exact Or.imp_right (Or.imp_left fun hcalc => absurd hcalc.2 Bool.false_ne_true)
  · rw [hsm]
    exact h.of_grows (Grows.of_eq rfl rfl) rfl And.intro (fun halt => ⟨halt, rfl⟩)
      (fun _ => Or.inl hvalid) h.fresh h.quiet rfl
  · rw [hsm]
    refine h.of_grows (Grows.of_eq rfl rfl) rfl And.intro
      (fun halt => absurd halt Bool.false_ne_true) (fun _ => Or.inl hvalid) ?_ h.quiet rfl
    intro hfresh
    exact absurd (hvalid.symm.trans (h.fresh hfresh)) Bool.false_ne_true.symm

omit [Inhabited Ptk] in
lemma Guarded.consumeReplay (h : sm.Guarded p keys) : (sm.consumeReplay key).Guarded p keys := by
  have hgrows : Grows sm (sm.consumeReplay key) := by
    constructor
    case history => exact List.subset_cons_self _ _
    case valid =>
      intro c hc hvalid
      exact absurd ((valid_of_mem_markInvalid hc).symm.trans hvalid) Bool.false_ne_true
    case first => exact Or.inl ((firstCounter_markInvalid _ _).trans (firstCounter_markInvalid _ _))
  exact h.of_grows hgrows rfl And.intro (fun halt => ⟨halt, rfl⟩) id h.fresh h.quiet rfl

omit [Inhabited Ptk] in
/-- A MIC that was verified was verified with the PTK that is now there. -/
lemma checkMic_verified (hmic : (sm.checkMic p env key).1.micVerified = true) :
    sm.ptkValid = true ∧ sm.updateSnonce = false ∧
      p.verifyKeyMic sm.security (sm.checkMic p env key).1.ptk key = true ∧
      (key.msg = .pairwise4 ∨ p.verifyKeyMic sm.security sm.ptk key = true) := by
  rcases checkMic_cases with ⟨hsm, -⟩ | ⟨⟨hvalid, hupdate⟩, ⟨hverify, hsm⟩ | ⟨hmsg, _, _, -, hverify, hsm⟩⟩
  · rw [hsm] at hmic
    exact absurd hmic Bool.false_ne_true
  · rw [hsm]
    exact ⟨hvalid, hupdate, hverify, Or.inr hverify⟩
  · rw [hsm]
    exact ⟨hvalid, hupdate, hverify, Or.inl hmsg⟩

omit [Inhabited Ptk] in
lemma checkMic_passes (hpass : (sm.checkMic p env key).2 = true) (hvalid : sm.ptkValid = true)
    (hupdate : sm.updateSnonce = false) : (sm.checkMic p env key).1.micVerified = true := by
  rcases checkMic_cases with ⟨-, hno⟩ | ⟨-, ⟨-, hsm⟩ | ⟨-, _, _, -, -, hsm⟩⟩
  · rcases hno hpass with hinvalid | hupdate'
    · exact absurd (hinvalid.symm.trans hvalid) Bool.false_ne_true
    · exact absurd (hupdate.symm.trans hupdate') Bool.false_ne_true
  · rw [hsm]
    rfl
  · rw [hsm]

/-- A frame that is not for `WPA_PTK`. -/
lemma Guarded.finishReceive (h : sm.Guarded p keys)
    (hother : key.request = true ∨ key.keyType = false)
    (hfinish : sm.finishReceive p env key = some sm') : sm'.Guarded p keys := by
  rcases finishReceive_cases hfinish with rfl | hstep
  · exact ⟨h.valid, h.first, h.alt, h.msg2, h.fresh, h.quiet, h.installs⟩
  · refine Guarded.reaches ?_ (smStep_reaches hstep)
    have hquiet : (sm.waiting key).pairwiseReceived = false := by
      rcases hother with hother | hother <;> simp [pairwiseReceived, waiting, hother]
    exact ⟨h.valid, h.first, h.alt, h.msg2, h.fresh, hquiet, h.installs⟩

omit [Inhabited Ptk] in
lemma Guarded.acceptRequest (h : sm.Guarded p keys) : (sm.acceptRequest key).Guarded p keys :=
  h.of_grows (Grows.same rfl (List.subset_cons_self _ _)) rfl And.intro (fun halt => ⟨halt, rfl⟩) id
    h.fresh h.quiet rfl

lemma Guarded.receiveRequest (h : sm.Guarded p keys) (hrequest : key.request = true)
    (hreceive : sm.receiveRequest p env key = some sm') : sm'.Guarded p keys := by
  rcases receiveRequest_cases hreceive with rfl | ⟨-, ⟨-, -, hfinish⟩ | ⟨sm₁, hcompletes, hend⟩⟩
  · exact h
  · refine Guarded.finishReceive ?_ (Or.inl hrequest) hfinish
    exact h.acceptRequest.withoutPtk _ _ _ _
  · have h₁ := h.acceptRequest.reaches hcompletes.reaches
    rcases hend with rfl | hfinish
    · exact h₁
    · exact h₁.finishReceive (Or.inl hrequest) hfinish

/-! ## The frames of the 4-way handshake -/

omit [Inhabited Ptk] in
lemma EapolKey.msg_of_pairwise (hrequest : key.request = false) (hkeyType : key.keyType = true)
    (hmsg : key.msg ≠ .smkM3) :
    (key.msg = .pairwise2 ∧ key.keyData ≠ []) ∨ (key.msg = .pairwise4 ∧ key.keyData = []) := by
  unfold EapolKey.msg at hmsg ⊢
  split_ifs at hmsg ⊢ <;> simp_all

omit [Inhabited Ptk] in
/-- The states in which a 2/4 frame is processed. -/
lemma checkMsg_pairwise2 (hmsg : key.msg = .pairwise2) (h : sm.checkMsg p env key = .passed) :
    sm.wpaPtkState = .ptkStart ∨ sm.wpaPtkState = .ptkCalcNegotiating ∨
      (sm.wpaPtkState = .ptkInitNegotiating ∧ sm.updateSnonce = true) := by
  unfold checkMsg at h
  rw [hmsg] at h
  dsimp only at h
  split at h
  · exact absurd h (by decide)
  · rename_i hstate
    by_contra hother
    simp only [not_or, not_and, Bool.not_eq_true] at hother
    exact hstate ⟨hother.1, hother.2.1, by
      by_cases hneg : sm.wpaPtkState = .ptkInitNegotiating
      · exact Or.inl (hother.2.2 hneg)
      · exact Or.inr hneg⟩

omit [Inhabited Ptk] in
lemma checkMsg_pairwise4 (hmsg : key.msg = .pairwise4) (h : sm.checkMsg p env key = .passed) :
    sm.wpaPtkState = .ptkInitNegotiating ∧ sm.ptkValid = true := by
  unfold checkMsg at h
  rw [hmsg] at h
  dsimp only at h
  split at h
  · exact absurd h (by decide)
  · rename_i hstate
    simpa using hstate

/-- A waiting frame is answered by calculating the PTK. -/
lemma ptkStep_calculates (idle : sm.Idle) (hreceived : sm.pairwiseReceived = true)
    (hstate : sm.wpaPtkState = .ptkStart ∨
      (sm.wpaPtkState = .ptkCalcNegotiating ∧ sm.micVerified = false) ∨
      (sm.wpaPtkState = .ptkInitNegotiating ∧ sm.updateSnonce = true)) :
    sm.ptkStep p r = sm.ptkPtkCalcNegotiating p r := by
  unfold ptkStep
  rw [idle.init, idle.disconnect, idle.deauthenticationRequest, idle.authenticationRequest,
    idle.reAuthenticationRequest, idle.ptkRequest]
  rcases hstate with hstate | ⟨hstate, hmic⟩ | ⟨hstate, hupdate⟩ <;> simp [*]

/-- Or by installing it. -/
lemma ptkStep_installs (idle : sm.Idle) (hreceived : sm.pairwiseReceived = true)
    (hstate : sm.wpaPtkState = .ptkInitNegotiating) (hupdate : sm.updateSnonce = false)
    (hmic : sm.micVerified = true) : sm.ptkStep p r = some (sm.ptkPtkInitDone p r) := by
  unfold ptkStep
  rw [idle.init, idle.disconnect, idle.deauthenticationRequest, idle.authenticationRequest,
    idle.reAuthenticationRequest, idle.ptkRequest]
  simp [*]

omit [Inhabited Ptk] in
lemma Idle.waiting (idle : sm.Idle) (key : EapolKey Nonce) :
    { sm.waiting key with changed := false }.Idle :=
  ⟨⟨idle.init, idle.deauthenticationRequest, idle.authenticationRequest,
    idle.reAuthenticationRequest⟩, idle.disconnect, idle.ptkRequest⟩

omit [Inhabited Ptk] in
lemma waiting_received (sm : WpaStateMachine Nonce Pmk Ptk) (hrequest : key.request = false)
    (hkeyType : key.keyType = true) :
    { sm.waiting key with changed := false }.pairwiseReceived = true := by
  simp [pairwiseReceived, WpaStateMachine.waiting, hrequest, hkeyType]

lemma Guarded.calculate {rounds : List (Round Pmk)} (h : sm.Guarded p keys) (idle : sm.Idle)
    (hrequest : key.request = false) (hkeyType : key.keyType = true)
    (hstate : sm.wpaPtkState = .ptkStart ∨
      (sm.wpaPtkState = .ptkCalcNegotiating ∧ sm.micVerified = false) ∨
      (sm.wpaPtkState = .ptkInitNegotiating ∧ sm.updateSnonce = true))
    (hfirst : .sent (firstCounter sm.keyReplay) ∈ sm.history)
    (hmsg2 : sm.HasMsg2 p ∨ (sm.micVerified = false ∧ key.msg = .pairwise2))
    (hstep : smStep p rounds (sm.waiting key) = some sm') : sm'.Guarded p keys := by
  obtain ⟨r, sm₁, henter, hreaches⟩ := smStep_first hstep
  rw [ptkStep_calculates (idle.waiting key) (waiting_received sm hrequest hkeyType) hstate] at henter
  -- the frame is taken, so that the machine is as if none was waiting
  have htaken : { sm.waiting key with changed := false, eapolKeyReceived := false }.Guarded p keys :=
    ⟨h.valid, h.first, h.alt, h.msg2, h.fresh, rfl, h.installs⟩
  have hmsg2' : sm.HasMsg2 p ∨ (sm.micVerified = false ∧
      ∀ frame, some key = some frame → frame.msg = .pairwise2) := by
    refine hmsg2.imp_right (And.imp_right ?_)
    rintro hmsg frame ⟨⟩
    exact hmsg
  exact (htaken.enterCalcNegotiating idle.reAuthenticationRequest hfirst hmsg2' henter).reaches hreaches

lemma Guarded.install {rounds : List (Round Pmk)} (h : sm.Guarded p keys) (idle : sm.Idle)
    (hrequest : key.request = false) (hkeyType : key.keyType = true)
    (hstate : sm.wpaPtkState = .ptkInitNegotiating) (hupdate : sm.updateSnonce = false)
    (hmic : sm.micVerified = true) (hstep : smStep p rounds (sm.waiting key) = some sm') :
    sm'.Guarded p ((sm.ptk, sm.aNonce) :: keys) := by
  obtain ⟨r, sm₁, hinstall, hreaches⟩ := smStep_first hstep
  rw [ptkStep_installs (idle.waiting key) (waiting_received sm hrequest hkeyType) hstate hupdate
    hmic] at hinstall
  obtain rfl := Option.some.inj hinstall
  refine Guarded.reaches ?_ hreaches
  rw [ptkPtkInitDone_eq]
  exact {
    valid := fun c hc hvalid => List.mem_cons_of_mem _ (h.valid c hc hvalid)
    first := fun hdone => absurd hdone Bool.false_ne_true
    alt := fun hvalid => List.mem_cons_of_mem _ (h.alt hvalid)
    msg2 := fun _ =>
      (h.msg2 (Or.inr (Or.inr (Or.inr hstate)))).mono rfl (List.subset_cons_self _ _)
    fresh := by
      rintro (hreauth | ⟨⟨⟩⟩)
      exact absurd (idle.reAuthenticationRequest.symm.trans hreauth) Bool.false_ne_true
    quiet := rfl
    installs := congrArg _ h.installs }

/-- What the checks of a frame leave alone. -/
structure Checked (sm sm' : WpaStateMachine Nonce Pmk Ptk) : Prop where
  security : sm'.security = sm.security
  wpaPtkState : sm'.wpaPtkState = sm.wpaPtkState
  aNonce : sm'.aNonce = sm.aNonce
  ptkValid : sm'.ptkValid = sm.ptkValid
  keyReplay : sm'.keyReplay = sm.keyReplay
  history : sm'.history = sm.history
  idle : sm.Idle → sm'.Idle

omit [Inhabited Ptk] in
lemma checked_checkReplay [DecidableEq Nonce] (h : sm.checkReplay key = some sm') :
    Checked sm sm' := by
  rcases checkReplay_cases h with ⟨rfl, -⟩ | ⟨-, -, rfl⟩
  · exact ⟨rfl, rfl, rfl, rfl, rfl, rfl, id⟩
  · exact ⟨rfl, rfl, rfl, rfl, rfl, rfl, fun idle => ⟨idle.toSettled.of_eq rfl rfl rfl rfl,
      idle.disconnect, idle.ptkRequest⟩⟩

omit [Inhabited Ptk] in
lemma checked_checkMic (p : WpaParams Nonce Pmk Ptk) (sm : WpaStateMachine Nonce Pmk Ptk)
    (env : RxEnv Pmk) (key : EapolKey Nonce) : Checked sm (sm.checkMic p env key).1 ∧
    (sm.checkMic p env key).1.updateSnonce = sm.updateSnonce := by
  rcases checkMic_cases with ⟨hsm, -⟩ | ⟨⟨hvalid, -⟩, ⟨-, hsm⟩ | ⟨-, _, _, -, -, hsm⟩⟩
  · rw [hsm]
    exact ⟨⟨rfl, rfl, rfl, rfl, rfl, rfl, fun idle => ⟨idle.toSettled.of_eq rfl rfl rfl rfl,
      idle.disconnect, idle.ptkRequest⟩⟩, rfl⟩
  · rw [hsm]
    exact ⟨⟨rfl, rfl, rfl, rfl, rfl, rfl, fun idle => ⟨idle.toSettled.of_eq rfl rfl rfl rfl,
      idle.disconnect, idle.ptkRequest⟩⟩, rfl⟩
  · rw [hsm]
    exact ⟨⟨rfl, rfl, rfl, hvalid.symm, rfl, rfl, fun idle => ⟨idle.toSettled.of_eq rfl rfl rfl rfl,
      idle.disconnect, idle.ptkRequest⟩⟩, rfl⟩

section Replies

variable {rounds : List (Round Pmk)}

omit [Inhabited Ptk] in
lemma Idle.consumeReplay (idle : sm.Idle) : (sm.consumeReplay key).Idle :=
  ⟨idle.toSettled.of_eq rfl rfl rfl rfl, idle.disconnect, idle.ptkRequest⟩

omit [Inhabited Ptk] in
/-- The last counter stays the same when the counters are used up. -/
lemma Checked.first (h : Checked sm sm') (hfirst : .sent (firstCounter sm.keyReplay) ∈ sm.history) :
    .sent (firstCounter (sm'.consumeReplay key).keyReplay) ∈ (sm'.consumeReplay key).history := by
  have hsame : firstCounter (sm'.consumeReplay key).keyReplay = firstCounter sm.keyReplay := by
    rw [← h.keyReplay]
    exact (firstCounter_markInvalid _ _).trans (firstCounter_markInvalid _ _)
  rw [hsame]
  refine List.mem_cons_of_mem _ ?_
  rw [h.history]
  exact hfirst

/-- A 2/4 frame does not install a key, unless the PTK before verifies it in `PTKCALCNEGOTIATING`. -/
lemma Guarded.receive2 (h : sm.Guarded p keys) (idle : sm.Idle) (hmsg : key.msg = .pairwise2)
    (hpassed : sm.checkMsg p env key = .passed)
    (hcounter : sm.wpaPtkState ≠ .ptkInitNegotiating →
      wpaReplayCounterValid sm.keyReplay key.replayCounter = true)
    (hok : ¬ (sm.wpaPtkState = .ptkCalcNegotiating ∧ sm.ptkValid = true ∧
      p.verifyKeyMic sm.security sm.ptk key = true))
    (hstep : smStep p rounds (((sm.checkMic p env key).1.consumeReplay key).waiting key) = some sm') :
    sm'.Guarded p keys := by
  obtain ⟨hrequest, hkeyType⟩ := EapolKey.pairwise_of_msg (Or.inl hmsg)
  obtain ⟨hchecked, hupdate⟩ := checked_checkMic p sm env key
  have h₁ : ((sm.checkMic p env key).1.consumeReplay key).Guarded p keys := h.checkMic.consumeReplay
  have idle₁ : ((sm.checkMic p env key).1.consumeReplay key).Idle := (hchecked.idle idle).consumeReplay
  have hmsg2 : ((sm.checkMic p env key).1.consumeReplay key).HasMsg2 p ∨
      ((sm.checkMic p env key).1.micVerified = false ∧ key.msg = .pairwise2) := by
    cases hmic : (sm.checkMic p env key).1.micVerified with
    | false => exact Or.inr ⟨rfl, hmsg⟩
    | true => exact Or.inl (h₁.msg2 (Or.inl (hchecked.ptkValid.trans (checkMic_verified hmic).1)))
  rcases checkMsg_pairwise2 hmsg hpassed with hstate | hstate | ⟨hstate, hupdate'⟩
  · have hfirst := (h.sent_of_valid (hcounter (by rw [hstate]; decide))).2
    exact h₁.calculate idle₁ hrequest hkeyType (Or.inl (hchecked.wpaPtkState.trans hstate))
      (hchecked.first hfirst) hmsg2 hstep
  · have hfirst := (h.sent_of_valid (hcounter (by rw [hstate]; decide))).2
    have hmic : (sm.checkMic p env key).1.micVerified = false := by
      by_contra hmic
      obtain ⟨hvalid, -, -, hmsg4 | hverify⟩ := checkMic_verified (by simpa using hmic)
      · exact absurd (hmsg.symm.trans hmsg4) (by decide)
      · exact hok ⟨hstate, hvalid, hverify⟩
    exact h₁.calculate idle₁ hrequest hkeyType
      (Or.inr (Or.inl ⟨hchecked.wpaPtkState.trans hstate, hmic⟩)) (hchecked.first hfirst) hmsg2 hstep
  · have hfirst := h.first (by rw [hstate]; rfl) idle.reAuthenticationRequest
    exact h₁.calculate idle₁ hrequest hkeyType
      (Or.inr (Or.inr ⟨hchecked.wpaPtkState.trans hstate, hupdate.trans hupdate'⟩))
      (hchecked.first hfirst) hmsg2 hstep

/-- A 4/4 frame installs the PTK that verifies it, or it is taken for a 2/4 frame. -/
lemma Guarded.receive4 (h : sm.Guarded p keys) (idle : sm.Idle) (hmsg : key.msg = .pairwise4)
    (hkeyData : key.keyData = []) (hpassed : sm.checkMsg p env key = .passed)
    (hpass : (sm.checkMic p env key).2 = true) (hsent : .sent key.replayCounter ∈ sm.history)
    (hstep : smStep p rounds (((sm.checkMic p env key).1.consumeReplay key).waiting key) = some sm') :
    sm'.Guarded p keys ∨ ∃ ptk, sm'.Guarded p ((ptk, sm.aNonce) :: keys) ∧
      AuthenticatedBy p sm key ptk := by
  obtain ⟨hrequest, hkeyType⟩ := EapolKey.pairwise_of_msg (Or.inr hmsg)
  obtain ⟨hchecked, hupdate⟩ := checked_checkMic p sm env key
  have h₁ : ((sm.checkMic p env key).1.consumeReplay key).Guarded p keys := h.checkMic.consumeReplay
  have idle₁ : ((sm.checkMic p env key).1.consumeReplay key).Idle := (hchecked.idle idle).consumeReplay
  obtain ⟨hstate, hvalid⟩ := checkMsg_pairwise4 hmsg hpassed
  have hstate₁ : (sm.checkMic p env key).1.wpaPtkState = .ptkInitNegotiating :=
    hchecked.wpaPtkState.trans hstate
  cases hnonce : sm.updateSnonce with
  | true =>
    have hfirst := h.first (by rw [hstate]; rfl) idle.reAuthenticationRequest
    exact Or.inl (h₁.calculate idle₁ hrequest hkeyType
      (Or.inr (Or.inr ⟨hstate₁, hupdate.trans hnonce⟩)) (hchecked.first hfirst)
      (Or.inl (h₁.msg2 (Or.inl (hchecked.ptkValid.trans hvalid)))) hstep)
  | false =>
    have hmic : (sm.checkMic p env key).1.micVerified = true := checkMic_passes hpass hvalid hnonce
    have hverify := (checkMic_verified hmic).2.2.1
    refine Or.inr ⟨(sm.checkMic p env key).1.ptk, ?_, ?_⟩
    · have hinstall := h₁.install idle₁ hrequest hkeyType hstate₁ (hupdate.trans hnonce) hmic hstep
      rwa [show ((sm.checkMic p env key).1.consumeReplay key).aNonce = sm.aNonce from
        hchecked.aNonce] at hinstall
    · exact {
        request := hrequest
        keyType := hkeyType
        keyData := hkeyData
        mic := hverify
        sent := hsent
        msg2 := h.msg2 (Or.inl hvalid) }

end Replies

end Received

/-! ## Runs -/

section Runs

variable [DecidableEq Nonce]

/-- What is required of a call.  A pairwise frame with an acceptable replay counter comes when nothing
else is pending, and if it has key data it is not verified in `PTKCALCNEGOTIATING` by a PTK that was
there before; an association is reported after the PTK was removed. -/
def Orderly (p : WpaParams Nonce Pmk Ptk) (sm : WpaStateMachine Nonce Pmk Ptk) :
    WpaCall Nonce Pmk → Prop
  | .receive _ key =>
    key.request = false → key.keyType = true → (sm.checkReplay key).isSome = true →
      sm.disconnect = false ∧ sm.ptkRequest = false ∧
      ¬ (sm.wpaPtkState = .ptkCalcNegotiating ∧ sm.ptkValid = true ∧ key.keyData ≠ [] ∧
        p.verifyKeyMic sm.security sm.ptk key = true)
  | .staAssociated _ _ => sm.started = true → sm.ptkValid = false
  | _ => True

/-- A key was installed by a frame that is good for it, or no key was installed. -/
def InstallsOnly (p : WpaParams Nonce Pmk Ptk) (sm : WpaStateMachine Nonce Pmk Ptk)
    (call : WpaCall Nonce Pmk) (sm' : WpaStateMachine Nonce Pmk Ptk) : Prop :=
  sm'.installs = sm.installs ∨
    ∃ env key ptk, call = .receive env key ∧ sm'.installs = (ptk, sm.aNonce) :: sm.installs ∧
      AuthenticatedBy p sm key ptk

variable {env : RxEnv Pmk} {key : EapolKey Nonce}

lemma Guarded.receive (h : sm.Guarded p keys) (settled : sm.Settled)
    (hok : sm.Orderly p (.receive env key)) (hcall : sm.receive p env key = some sm') :
    sm'.Guarded p keys ∨ ∃ ptk, sm'.Guarded p ((ptk, sm.aNonce) :: keys) ∧
      AuthenticatedBy p sm key ptk := by
  rcases receive_cases hcall with rfl | ⟨sm₁, hreplay, hreceive⟩
  · exact Or.inl h
  have h₁ : sm₁.Guarded p keys := h.checkReplay settled.reAuthenticationRequest hreplay
  rcases hreceive with rfl | hevent | ⟨hpassed, rfl | ⟨-, hrequest, hreceive⟩ |
    ⟨hpass, hrequest, hreply⟩⟩
  · exact Or.inl h₁
  · exact Or.inl (h₁.smEvent hevent)
  · exact Or.inl h₁.checkMic
  · exact Or.inl (h₁.checkMic.receiveRequest hrequest hreceive)
  have h₂ : ((sm₁.checkMic p env key).1.consumeReplay key).Guarded p keys := h₁.checkMic.consumeReplay
  unfold receiveReply at hreply
  dsimp only at hreply
  split at hreply
  · obtain rfl := Option.some.inj hreply
    exact Or.inl (h₂.reaches (completes_sendSmk env).reaches)
  rename_i hsmk
  cases hkeyType : key.keyType with
  | false => exact Or.inl (h₂.finishReceive (Or.inr hkeyType) hreply)
  | true =>
    rcases finishReceive_cases hreply with rfl | hstep
    · exact Or.inl ⟨h₂.valid, h₂.first, h₂.alt, h₂.msg2, h₂.fresh, h₂.quiet, h₂.installs⟩
    obtain ⟨hdisconnect, hptkRequest, hkeyData⟩ := hok hrequest hkeyType (by rw [hreplay]; rfl)
    have idle : sm.Idle := ⟨settled, hdisconnect, hptkRequest⟩
    have idle₁ : sm₁.Idle := (checked_checkReplay hreplay).idle idle
    rcases EapolKey.msg_of_pairwise hrequest hkeyType hsmk with ⟨hmsg, hdata⟩ | ⟨hmsg, hdata⟩
    · refine Or.inl (h₁.receive2 idle₁ hmsg hpassed ?_ ?_ hstep)
      · intro hstate
        rcases checkReplay_cases hreplay with ⟨rfl, hrequest' | hvalid | ⟨hmsg', -⟩⟩ | ⟨-, hstate', rfl⟩
        · exact absurd (hrequest.symm.trans hrequest') Bool.false_ne_true
        · exact hvalid
        · exact absurd (hmsg.symm.trans hmsg') (by decide)
        · exact absurd hstate' hstate
      · rintro ⟨hstate, hvalid, hverify⟩
        rcases checkReplay_cases hreplay with ⟨rfl, -⟩ | ⟨-, hstate', rfl⟩
        · exact hkeyData ⟨hstate, hvalid, hdata, hverify⟩
        · exact absurd (hstate.symm.trans hstate') (by decide)
    · rcases checkReplay_cases hreplay with ⟨rfl, hcounter⟩ | ⟨hmsg', -⟩
      · refine h₁.receive4 idle₁ hmsg hdata hpassed hpass ?_ hstep
        rcases hcounter with hrequest' | hvalid | ⟨-, halt, hcounter⟩
        · exact absurd (hrequest.symm.trans hrequest') Bool.false_ne_true
        · exact (h.sent_of_valid hvalid).1
        · rw [hcounter]
          exact h.alt halt
      · exact absurd (hmsg.symm.trans hmsg') (by decide)

/-- Every call that is not a frame keeps the invariant, and a frame installs at most one key. -/
lemma Guarded.next (h : sm.Guarded p keys) (settled : sm.Settled) {call : WpaCall Nonce Pmk}
    (hok : sm.Orderly p call) (hnext : next p sm call = some sm') :
    sm'.Guarded p keys ∨ ∃ env key ptk, call = .receive env key ∧
      sm'.Guarded p ((ptk, sm.aNonce) :: keys) ∧ AuthenticatedBy p sm key ptk := by
  cases call with
  | receive env key =>
    rcases h.receive settled hok hnext with h' | ⟨ptk, h', hauthenticated⟩
    · exact Or.inl h'
    · exact Or.inr ⟨env, key, ptk, rfl, h', hauthenticated⟩
  | sendEapolTimeout rounds =>
    simp only [WpaStateMachine.next] at hnext
    split at hnext
    · exact absurd hnext (by simp)
    · refine Or.inl (Guarded.reaches ?_ (smStep_reaches hnext))
      exact ⟨h.valid, h.first, h.alt, h.msg2, h.fresh, h.quiet, h.installs⟩
  | rekeyPtk rounds =>
    simp only [WpaStateMachine.next] at hnext
    split at hnext
    · exact absurd hnext (by simp)
    · refine Or.inl (Guarded.reaches ?_ (smStep_reaches hnext))
      exact h.withoutPtk _ _ _ _
  | smEvent event rounds₀ rounds => exact Or.inl (h.smEvent hnext)
  | staAssociated rounds₀ rounds => exact Or.inl (h.staAssociated hok hnext)
  | smCallStep rounds => exact Or.inl (h.reaches (smStep_reaches hnext))
  | group step rounds => exact Or.inl (h.reaches (completes_groupCall hnext).reaches)
  | smkSend e =>
    obtain rfl := Option.some.inj hnext
    exact Or.inl (h.beside (beside_sendEapolFrame e))
  | validateWpaIe security mgmtFrameProt =>
    obtain rfl := Option.some.inj hnext
    exact Or.inl ⟨h.valid, h.first, h.alt, h.msg2, h.fresh, h.quiet, h.installs⟩
  | setWnmsleep flag =>
    obtain rfl := Option.some.inj hnext
    exact Or.inl ⟨h.valid, h.first, h.alt, h.msg2, h.fresh, h.quiet, h.installs⟩

omit [DecidableEq Nonce] in
lemma guarded_staInit [Inhabited Nonce] [Inhabited Pmk] (p : WpaParams Nonce Pmk Ptk)
    (security : StaSecurity) (mgmtFrameProt : Bool) :
    (staInit security mgmtFrameProt).Guarded p [] where
  valid c hc hvalid := by
    rw [List.eq_of_mem_replicate hc] at hvalid
    exact absurd hvalid Bool.false_ne_true
  first hstate := absurd hstate Bool.false_ne_true
  alt hvalid := absurd hvalid Bool.false_ne_true
  msg2 := by
    rintro (hvalid | ⟨⟨⟩, -⟩ | ⟨⟨⟩⟩ | ⟨⟨⟩⟩)
    exact absurd hvalid Bool.false_ne_true
  fresh _ := rfl
  quiet := rfl
  installs := rfl

/-- In a run of orderly calls, every call that installs a key is the receipt of a frame that is good for
it. -/
theorem runWith_installsOnly [Inhabited Nonce] [Inhabited Pmk] {security : StaSecurity}
    {mgmtFrameProt : Bool} {calls : List (WpaCall Nonce Pmk)} {call : WpaCall Nonce Pmk}
    (hrun : Trace.RunWith (next p) (Orderly p) (staInit security mgmtFrameProt) calls sm)
    (hok : sm.Orderly p call) (hnext : next p sm call = some sm') : sm.InstallsOnly p call sm' := by
  have hinvariant : sm.Settled ∧ sm.Guarded p sm.installs := by
    refine hrun.invariant (I := fun sm => sm.Settled ∧ sm.Guarded p sm.installs)
      ⟨⟨rfl, rfl, rfl, rfl⟩, guarded_staInit p security mgmtFrameProt⟩ ?_
    rintro sm₁ call sm₂ ⟨settled, h⟩ hok hnext
    refine ⟨settled.next hnext, ?_⟩
    rcases h.next settled hok hnext with h' | ⟨_, _, _, _, h', -⟩
    · exact h'.installs ▸ h'
    · exact h'.installs ▸ h'
  obtain ⟨settled, h⟩ := hinvariant
  rcases h.next settled hok hnext with h' | ⟨env, key, ptk, hcall, h', hauthenticated⟩
  · exact Or.inl h'.installs
  · exact Or.inr ⟨env, key, ptk, hcall, h'.installs, hauthenticated⟩

end Runs

/-! ## Two runs -/

/-- The 2/4 and the 4/4 frame of a station whose SNonce is 20. -/
def message2 : WpaCall UInt8 Unit := plainReceive (plainFrame 1 20 [7, 20] [1])

def message4 : WpaCall UInt8 Unit := plainReceive (plainFrame 2 0 [7, 20] [])

theorem runWith_installsOnly_message4 :
    ∃ sm sm', Trace.RunWith (next plainParams) (Orderly plainParams) (staInit plainSecurity false)
        [.staAssociated plainRounds plainRounds, message2] sm ∧
      next plainParams sm message4 = some sm' ∧ sm'.installs = [([7, 20], 7)] ∧
      sm.InstallsOnly plainParams message4 sm' := by
  have h : ((next plainParams (staInit plainSecurity false)
      (.staAssociated plainRounds plainRounds)).bind fun sm₁ =>
      (next plainParams sm₁ message2).bind fun sm₂ => (next plainParams sm₂ message4).map fun sm₃ =>
        ((sm₁.disconnect, sm₁.ptkRequest, sm₁.wpaPtkState), (sm₂.disconnect, sm₂.ptkRequest),
          sm₃.installs)) =
      some ((false, false, .ptkStart), (false, false), [([7, 20], 7)]) := by decide +kernel
  obtain ⟨sm₁, hassoc, h⟩ := Option.bind_eq_some_iff.mp h
  obtain ⟨sm₂, hmessage2, h⟩ := Option.bind_eq_some_iff.mp h
  obtain ⟨sm₃, hmessage4, h⟩ := Option.map_eq_some_iff.mp h
  simp only [Prod.mk.injEq] at h
  obtain ⟨⟨hdisconnect₁, hptkRequest₁, hstate₁⟩, ⟨hdisconnect₂, hptkRequest₂⟩, hinstalls⟩ := h
  have hok₁ : Orderly plainParams (staInit plainSecurity false)
      (.staAssociated plainRounds plainRounds) := fun hstarted => absurd hstarted Bool.false_ne_true
  have hok₂ : sm₁.Orderly plainParams message2 := by
    refine fun _ _ _ => ⟨hdisconnect₁, hptkRequest₁, fun hcalc => ?_⟩
    exact absurd (hstate₁.symm.trans hcalc.1) (by decide)
  have hok₃ : sm₂.Orderly plainParams message4 :=
    fun _ _ _ => ⟨hdisconnect₂, hptkRequest₂, fun hcalc => hcalc.2.2.1 rfl⟩
  have hrun : Trace.RunWith (next plainParams) (Orderly plainParams) (staInit plainSecurity false)
      [.staAssociated plainRounds plainRounds, message2] sm₂ :=
    (Trace.RunWith.nil.snoc hok₁ hassoc).snoc hok₂ hmessage2
  exact ⟨sm₂, sm₃, hrun, hmessage4, hinstalls, runWith_installsOnly hrun hok₃ hmessage4⟩

/-- A request for a new group key, which leaves another SNonce behind, a 4/4 frame with a wrong MIC and a
2/4 frame with a new SNonce and wrong key data: the station authenticates again, and the machine is in
`PTKCALCNEGOTIATING` with the PTK from before. -/
def confused : List (WpaCall UInt8 Unit) := [
  .staAssociated plainRounds plainRounds,
  .sendEapolTimeout plainRounds,
  message2,
  .receive { psks := [()], rekeyGtk := [(.update, [])], rounds := plainRounds }
    { plainFrame 5 0 [7, 20] [] with request := true, keyType := false },
  plainReceive (plainFrame 3 0 [] []),
  plainReceive (plainFrame 2 30 [] [2]),
  .smEvent .auth [] plainRounds]

/-- A frame with key data then installs the PTK. -/
theorem confused_installs_by_message2 :
    ∃ sm sm', Trace.Run (next plainParams) (staInit plainSecurity true) confused sm ∧
      next plainParams sm (plainReceive (plainFrame 3 20 [7, 20] [1])) = some sm' ∧
      sm.installs = [] ∧ sm'.installs = [([7, 20], 7)] ∧
      ¬ sm.InstallsOnly plainParams (plainReceive (plainFrame 3 20 [7, 20] [1])) sm' := by
  have h : ((Trace.exec (next plainParams) (staInit plainSecurity true) confused).bind fun sm =>
      (next plainParams sm (plainReceive (plainFrame 3 20 [7, 20] [1]))).map fun sm' =>
        (sm.installs, sm'.installs)) = some ([], [([7, 20], 7)]) := by decide +kernel
  obtain ⟨sm, hrun, h⟩ := Option.bind_eq_some_iff.mp h
  obtain ⟨sm', hnext, h⟩ := Option.map_eq_some_iff.mp h
  obtain ⟨hbefore, hafter⟩ := Prod.mk.inj h
  refine ⟨sm, sm', Trace.run_iff_exec.mpr hrun, hnext, hbefore, hafter, ?_⟩
  rintro (hsame | ⟨env, key, ptk, hcall, -, hauthenticated⟩)
  · rw [hbefore, hafter] at hsame
    exact absurd hsame (by decide)
  · obtain ⟨-, rfl⟩ := WpaCall.receive.inj hcall
    exact absurd hauthenticated.keyData (by decide)

end WpaStateMachine

end Ethanol
