import EthanolHostapd.Ap.WpaAuth.CallRule

/-!
# Frames with a forged MIC

A frame is forged if no PTK that can be derived from the PMKs of the station verifies its MIC.  A
frame is checked with the PTK, if there is a valid one.  The first 2/4 frame comes before there is
one: it uses up the replay counters, and `PTKCALCNEGOTIATING` checks it afterwards.  The same is done
with a 2/4 frame that changes the SNonce.  Every other forged frame is dropped.
-/

namespace Ethanol

namespace WpaStateMachine

variable {Nonce Pmk Ptk : Type}

/-- No PTK of the station verifies the MIC of the frame. -/
def Forged (p : WpaParams Nonce Pmk Ptk) (pmks : Set Pmk) (key : EapolKey Nonce) : Prop :=
  ∀ security security' : StaSecurity, ∀ pmk ∈ pmks, ∀ aNonce sNonce : Nonce,
    p.verifyKeyMic security (p.derivePtk security' pmk aNonce sNonce) key = false

/-- The PTK can be derived from one of the PMKs. -/
def Derivable (p : WpaParams Nonce Pmk Ptk) (pmks : Set Pmk) (ptk : Ptk) : Prop :=
  ∃ security : StaSecurity, ∃ pmk ∈ pmks, ∃ aNonce sNonce : Nonce,
    ptk = p.derivePtk security pmk aNonce sNonce

/-- What a handshake depends on is the same. -/
structure Undisturbed (sm sm' : WpaStateMachine Nonce Pmk Ptk) : Prop where
  keyReplay : sm'.keyReplay = sm.keyReplay
  prevKeyReplay : sm'.prevKeyReplay = sm.prevKeyReplay
  sNonce : sm'.sNonce = sm.sNonce
  ptk : sm'.ptk = sm.ptk
  ptkValid : sm'.ptkValid = sm.ptkValid
  updateSnonce : sm'.updateSnonce = sm.updateSnonce
  wpaPtkState : sm'.wpaPtkState = sm.wpaPtkState

/-- A 2/4 frame is answered by a disconnection. -/
def Refused (p : WpaParams Nonce Pmk Ptk) (env : RxEnv Pmk) (key : EapolKey Nonce) : Prop :=
  env.rejectForEntropy = true ∨ ∃ kde, p.parseKdeIes key.keyData = some kde ∧ kde.ieMatches = false

/-- A well-formed 2/4 frame is refused or taken before its MIC is checked: it answers a 1/4 frame while
there is no PTK, or it answers an earlier one with another SNonce. -/
def TakenUnchecked (p : WpaParams Nonce Pmk Ptk) (sm : WpaStateMachine Nonce Pmk Ptk) (env : RxEnv Pmk)
    (key : EapolKey Nonce) : Prop :=
  key.msg = .pairwise2 ∧ sm.security.accepts key = true ∧
    ((wpaReplayCounterValid sm.keyReplay key.replayCounter = true ∧
        (sm.wpaPtkState = .ptkStart ∨ sm.wpaPtkState = .ptkCalcNegotiating) ∧
        (Refused p env key ∨
          (sm.ptkValid = false ∧ key.ack = false ∧ key.mic = true ∧
            (p.parseKdeIes key.keyData).isSome = true))) ∨
      (wpaReplayCounterValid sm.keyReplay key.replayCounter = false ∧
        wpaReplayCounterValid sm.prevKeyReplay key.replayCounter = true ∧
        sm.wpaPtkState = .ptkInitNegotiating ∧ sm.sNonce ≠ key.keyNonce))

/-- The PMK is one of the set, and a valid PTK has the property. -/
structure KeysIn (pmks : Set Pmk) (K : Ptk → Prop) (sm : WpaStateMachine Nonce Pmk Ptk) : Prop where
  pmk : sm.pmk ∈ pmks
  ptk : sm.ptkValid = true → K sm.ptk

variable {p : WpaParams Nonce Pmk Ptk} {pmks : Set Pmk} {K : Ptk → Prop} {r : Round Pmk}
  {sm sm' : WpaStateMachine Nonce Pmk Ptk} {env : RxEnv Pmk} {key : EapolKey Nonce}

/-! ## The keys of a station -/

lemma mem_of_mem_candidatePmks {psks : List Pmk} {pmk : Pmk} (hpsks : ∀ pmk ∈ psks, pmk ∈ pmks)
    (hpmk : sm.pmk ∈ pmks) (hmem : pmk ∈ sm.candidatePmks psks) : pmk ∈ pmks := by
  unfold candidatePmks at hmem
  split at hmem
  · exact hpsks pmk hmem
  · rw [List.mem_singleton] at hmem
    exact hmem ▸ hpmk

namespace KeysIn

lemma of_eq (h : sm.KeysIn pmks K) (hpmk : sm'.pmk = sm.pmk) (hptk : sm'.ptk = sm.ptk)
    (hvalid : sm'.ptkValid = sm.ptkValid) : sm'.KeysIn pmks K := by
  refine ⟨hpmk ▸ h.pmk, fun hv => ?_⟩
  rw [hptk]
  exact h.ptk (hvalid ▸ hv)

/-- The PTK is given up. -/
lemma without (h : sm.KeysIn pmks K) (hpmk : sm'.pmk = sm.pmk) (hvalid : sm'.ptkValid = false) :
    sm'.KeysIn pmks K := by
  refine ⟨hpmk ▸ h.pmk, fun hv => ?_⟩
  rw [hvalid] at hv
  exact absurd hv Bool.false_ne_true

lemma beside (h : sm.KeysIn pmks K) (hbeside : Beside sm sm') : sm'.KeysIn pmks K :=
  h.of_eq hbeside.pmk hbeside.ptk hbeside.ptkValid

variable [Inhabited Ptk]

/-- A new PTK comes from the last frame. -/
lemma transition (h : sm.KeysIn pmks K) (hr : r.PmksIn pmks)
    (haccept : ∀ frame, sm.lastRxEapolKey = some frame → ∀ pmk ∈ pmks,
      p.verifyKeyMic sm.security (p.derivePtk sm.security pmk sm.aNonce sm.sNonce) frame = true →
      K (p.derivePtk sm.security pmk sm.aNonce sm.sNonce))
    (htransition : PtkTransition p r sm sm') : sm'.KeysIn pmks K := by
  cases htransition with
  | stay => exact h
  | initializing | disconnect | authentication => exact h.without rfl rfl
  | disconnected | ptkCalcNegotiating2 => exact h.of_eq rfl rfl rfl
  | authentication2 =>
    rw [ptkAuthentication2_eq]
    exact h.of_eq rfl rfl rfl
  | initPmk =>
    unfold ptkInitPmk
    dsimp only
    split
    · exact h.of_eq rfl rfl rfl
    · rename_i pmk hmsk
      exact ⟨hr.msk pmk hmsk, h.ptk⟩
  | initPsk =>
    refine ⟨?_, h.ptk⟩
    change r.psks.headD sm.pmk ∈ pmks
    cases hpsks : r.psks with
    | nil => exact h.pmk
    | cons pmk psks => exact hr.psks pmk (hpsks ▸ List.mem_cons_self)
  | ptkStart =>
    rw [ptkPtkStart_eq]
    exact h.of_eq rfl rfl rfl
  | ptkCalcNegotiating _ _ enter =>
    rcases ptkPtkCalcNegotiating_cases enter with rfl | ⟨frame, pmk, hframe, hmem, hmic, rfl⟩
    · exact h.of_eq rfl rfl rfl
    · have hpmk : pmk ∈ pmks := mem_of_mem_candidatePmks hr.psks h.pmk hmem
      refine ⟨?_, fun _ => haccept frame hframe pmk hpmk hmic⟩
      change (if sm.security.psk then pmk else sm.pmk) ∈ pmks
      split
      · exact hpmk
      · exact h.pmk
  | ptkInitNegotiating =>
    rw [ptkPtkInitNegotiating_eq]
    exact h.of_eq rfl rfl rfl
  | ptkInitDone =>
    unfold ptkPtkInitDone
    dsimp only
    split
    · exact h.without rfl rfl
    · split_ifs <;> exact h.of_eq rfl rfl rfl

omit [Inhabited Ptk] in
lemma checkMic (h : sm.KeysIn pmks (Derivable p pmks)) (henv : env.PmksIn pmks) :
    (sm.checkMic p env key).1.KeysIn pmks (Derivable p pmks) := by
  rcases checkMic_cases with ⟨hsm, -⟩ | ⟨-, ⟨-, hsm⟩ | ⟨-, pmk, sNonce, hmem, -, hsm⟩⟩ <;> rw [hsm]
  · exact h.of_eq rfl rfl rfl
  · exact h.of_eq rfl rfl rfl
  · have hpmk : pmk ∈ pmks := mem_of_mem_candidatePmks henv.psks h.pmk hmem
    exact ⟨h.pmk, fun _ => ⟨sm.security, pmk, hpmk, sm.aNonce, sNonce, rfl⟩⟩

/-- Valid PTKs are derived from the PMKs of the station. -/
lemma callRule (p : WpaParams Nonce Pmk Ptk) (pmks : Set Pmk) :
    CallRule p pmks (KeysIn pmks (Derivable p pmks)) where
  beside h hbeside := h.beside hbeside
  transition {r sm sm'} hr h htransition := by
    refine h.transition hr ?_ htransition
    intro frame _ pmk hpmk _
    exact ⟨sm.security, pmk, hpmk, sm.aNonce, sm.sNonce, rfl⟩
  sameKeys h hsame := h.of_eq hsame.pmk hsame.ptk hsame.ptkValid
  withoutPtk _ h := h.without rfl rfl
  reassociated h := h.of_eq rfl rfl rfl
  checkMic henv h := h.checkMic henv
  acceptRequest h _ := h.of_eq rfl rfl rfl
  consumeReplay h := h.of_eq rfl rfl rfl

end KeysIn

/-! ## The checks of a forged frame -/

section Checks

lemma Derivable.verifyKeyMic_eq_false (hforged : Forged p pmks key) {ptk : Ptk}
    (hptk : Derivable p pmks ptk) (security : StaSecurity) : p.verifyKeyMic security ptk key = false := by
  obtain ⟨security', pmk, hpmk, aNonce, sNonce, rfl⟩ := hptk
  exact hforged security security' pmk hpmk aNonce sNonce

/-- The MIC of a forged frame is not verified; the frame passes if there is no PTK. -/
lemma checkMic_forged (hforged : Forged p pmks key) (h : sm.KeysIn pmks (Derivable p pmks))
    (henv : env.PmksIn pmks) :
    (sm.checkMic p env key).1 = { sm with micVerified := false } ∧
      ((sm.checkMic p env key).2 = true → sm.ptkValid = false ∨ sm.updateSnonce = true) := by
  rcases checkMic_cases with hunverified | ⟨⟨hvalid, -⟩, ⟨hmic, -⟩ | ⟨-, pmk, sNonce, hmem, hmic, -⟩⟩
  · exact hunverified
  · rw [Derivable.verifyKeyMic_eq_false hforged (h.ptk hvalid)] at hmic
    exact absurd hmic Bool.false_ne_true
  · have hpmk : pmk ∈ pmks := mem_of_mem_candidatePmks henv.psks h.pmk hmem
    rw [hforged _ _ pmk hpmk] at hmic
    exact absurd hmic Bool.false_ne_true

/-- What a 2/4 frame has to meet to get past the checks of its kind. -/
lemma state_of_pairwise2 (hmsg : key.msg = .pairwise2) (hkept : sm.checkMsg p env key ≠ .dropped)
    (hsnonce : sm.updateSnonce = false) :
    (sm.wpaPtkState = .ptkStart ∨ sm.wpaPtkState = .ptkCalcNegotiating) := by
  by_contra hstate
  rw [not_or] at hstate
  refine hkept ?_
  simp only [checkMsg, hmsg]
  rw [if_pos ⟨hstate.1, hstate.2, Or.inl hsnonce⟩]

/-- Only 2/4 frames are refused. -/
lemma checkMsg_disconnect (hmsg : sm.checkMsg p env key = .disconnect) :
    key.msg = .pairwise2 ∧ Refused p env key := by
  unfold checkMsg at hmsg
  split at hmsg
  · rename_i hkind
    refine ⟨hkind, ?_⟩
    split_ifs at hmsg with _ hreject
    · exact Or.inl hreject
    · split at hmsg
      · exact absurd hmsg (by simp)
      · rename_i kde hparse
        refine Or.inr ⟨kde, hparse, ?_⟩
        cases hmatches : kde.ieMatches with
        | false => rfl
        | true => simp [hmatches] at hmsg
  · split_ifs at hmsg
  · split_ifs at hmsg
  · split_ifs at hmsg
  · split_ifs at hmsg
  · split_ifs at hmsg
  · exact absurd hmsg (by simp)

/-- Without a PTK only 2/4 frames and requests get past the checks of their kind. -/
lemma checkMsg_passed (hmsg : sm.checkMsg p env key = .passed) (hvalid : sm.ptkValid = false) :
    key.msg = .pairwise2 ∨ key.msg = .request := by
  unfold checkMsg at hmsg
  split at hmsg
  · rename_i hkind
    exact Or.inl hkind
  · simp [hvalid] at hmsg
  · simp [hvalid] at hmsg
  · simp [hvalid] at hmsg
  · simp [hvalid] at hmsg
  · simp [hvalid] at hmsg
  · rename_i hkind
    exact Or.inr hkind

/-- The key data of a 2/4 frame that passes can be read. -/
lemma checkMsg_parses (hmsg : key.msg = .pairwise2) (hpassed : sm.checkMsg p env key = .passed) :
    (p.parseKdeIes key.keyData).isSome = true := by
  simp only [checkMsg, hmsg] at hpassed
  split_ifs at hpassed
  cases hparse : p.parseKdeIes key.keyData with
  | none => simp [hparse] at hpassed
  | some kde => rfl

lemma request_of_msg (hmsg : key.msg = .request) : key.request = true := by
  unfold EapolKey.msg at hmsg
  split_ifs at hmsg with _ _ _ hrequest
  exact hrequest

/-- The counter of a 2/4 frame is that of an unanswered frame, or the SNonce is updated. -/
lemma checkReplay_pairwise2 [DecidableEq Nonce] (hmsg : key.msg = .pairwise2)
    (hreplay : sm.checkReplay key = some sm') :
    (sm' = sm ∧ wpaReplayCounterValid sm.keyReplay key.replayCounter = true) ∨
      (wpaReplayCounterValid sm.keyReplay key.replayCounter = false ∧
        wpaReplayCounterValid sm.prevKeyReplay key.replayCounter = true ∧
        sm.wpaPtkState = .ptkInitNegotiating ∧ sm.sNonce ≠ key.keyNonce) := by
  obtain ⟨hrequest, -⟩ := EapolKey.pairwise_of_msg (Or.inl hmsg)
  unfold checkReplay at hreplay
  rw [if_neg (by simp [hrequest])] at hreplay
  split_ifs at hreplay with hvalid hupdate halt
  · exact Or.inl ⟨(Option.some.inj hreplay).symm, hvalid⟩
  · exact Or.inr ⟨by simpa using hvalid, hupdate.2⟩
  · exact absurd (hmsg.symm.trans halt.1) (by simp)

/-- The check of the replay counter changes nothing, or it lets a 2/4 frame update the SNonce. -/
lemma checkReplay_eq [DecidableEq Nonce] (haccepts : sm.security.accepts key = true)
    (hreplay : sm.checkReplay key = some sm')
    (hunchecked : ¬ sm.TakenUnchecked p env key) : sm' = sm := by
  rcases checkReplay_cases hreplay with ⟨rfl, -⟩ | ⟨hmsg, -, -⟩
  · rfl
  · rcases checkReplay_pairwise2 hmsg hreplay with ⟨rfl, -⟩ | hupdate
    · rfl
    · exact absurd ⟨hmsg, haccepts, Or.inr hupdate⟩ hunchecked

end Checks

/-! ## What becomes of a forged frame -/

variable [DecidableEq Nonce] [Inhabited Ptk]

omit [DecidableEq Nonce] [Inhabited Ptk] in
lemma Undisturbed.refl (sm : WpaStateMachine Nonce Pmk Ptk) : Undisturbed sm sm :=
  ⟨rfl, rfl, rfl, rfl, rfl, rfl, rfl⟩

omit [DecidableEq Nonce] [Inhabited Ptk] in
lemma undisturbed_unverified (sm : WpaStateMachine Nonce Pmk Ptk) :
    Undisturbed sm { sm with micVerified := false } :=
  ⟨rfl, rfl, rfl, rfl, rfl, rfl, rfl⟩

omit [DecidableEq Nonce] in
/-- A request is dropped if its MIC was not verified. -/
lemma receiveRequest_unverified (hmic : sm.micVerified = false) :
    sm.receiveRequest p env key = some sm := by
  rw [receiveRequest, if_pos hmic]

/-- A forged frame that is not taken unchecked is dropped. -/
lemma receive_undisturbed (hforged : Forged p pmks key) (h : sm.KeysIn pmks (Derivable p pmks))
    (henv : env.PmksIn pmks) (hsnonce : sm.updateSnonce = false)
    (hunchecked : ¬ sm.TakenUnchecked p env key) :
    ∃ sm', sm.receive p env key = some sm' ∧ Undisturbed sm sm' := by
  unfold receive
  split
  · exact ⟨sm, rfl, Undisturbed.refl sm⟩
  rename_i haccepts
  rw [Bool.not_eq_false] at haccepts
  split
  · exact ⟨sm, rfl, Undisturbed.refl sm⟩
  rename_i sm₁ hreplay
  obtain rfl : sm₁ = sm := checkReplay_eq haccepts hreplay hunchecked
  -- a 2/4 frame that gets past the checks of its kind is taken unchecked if there is no PTK
  have htaken : key.msg = .pairwise2 → sm₁.checkMsg p env key ≠ .dropped →
      ¬ (Refused p env key ∨ (sm₁.ptkValid = false ∧ key.ack = false ∧ key.mic = true ∧
        (p.parseKdeIes key.keyData).isSome = true)) := by
    intro hmsg hkept hreason
    refine hunchecked ⟨hmsg, haccepts, ?_⟩
    rcases checkReplay_pairwise2 hmsg hreplay with ⟨-, hvalid⟩ | hupdate
    · exact Or.inl ⟨hvalid, state_of_pairwise2 hmsg hkept hsnonce, hreason⟩
    · exact Or.inr hupdate
  split
  · exact ⟨sm₁, rfl, Undisturbed.refl sm₁⟩
  · rename_i hdisconnect
    obtain ⟨hmsg, hrefused⟩ := checkMsg_disconnect hdisconnect
    exact absurd (Or.inl hrefused) (htaken hmsg (by simp [hdisconnect]))
  rename_i hpassed
  split
  · exact ⟨sm₁, rfl, Undisturbed.refl sm₁⟩
  rename_i hinfo
  rw [not_or] at hinfo
  obtain ⟨hsm, hpass⟩ := checkMic_forged hforged h henv
  dsimp only
  rw [hsm]
  split_ifs with hfails hrequest
  · exact ⟨_, rfl, undisturbed_unverified sm₁⟩
  · exact ⟨_, receiveRequest_unverified rfl, undisturbed_unverified sm₁⟩
  · have hinvalid : sm₁.ptkValid = false := by
      rcases hpass (by simpa using hfails) with hinvalid | hupdate
      · exact hinvalid
      · exact absurd (hsnonce.symm.trans hupdate) Bool.false_ne_true
    rcases checkMsg_passed hpassed hinvalid with hmsg | hmsg
    · have hinfo' : key.ack = false ∧ key.mic = true := by simpa using hinfo
      have hparse := checkMsg_parses hmsg hpassed
      exact absurd (Or.inr ⟨hinvalid, hinfo'.1, hinfo'.2, hparse⟩) (htaken hmsg (by simp [hpassed]))
    · exact absurd (request_of_msg hmsg) hrequest

omit [DecidableEq Nonce] in
lemma PtkTransition.lastRxEapolKey (htransition : PtkTransition p r sm sm') :
    sm'.lastRxEapolKey = sm.lastRxEapolKey := by
  cases htransition with
  | authentication2 => rw [ptkAuthentication2_eq]
  | initPmk => rw [ptkInitPmk_eq]
  | ptkStart => rw [ptkPtkStart_eq]
  | ptkCalcNegotiating _ _ enter =>
    rcases ptkPtkCalcNegotiating_cases enter with rfl | ⟨frame, pmk, -, -, -, rfl⟩ <;> rfl
  | ptkInitNegotiating => rw [ptkPtkInitNegotiating_eq]
  | ptkInitDone => rw [ptkPtkInitDone_eq]
  | _ => rfl

omit [DecidableEq Nonce] in
/-- The machines make no PTK from a forged frame. -/
lemma smStep_forged (hforged : Forged p pmks key) {rounds : List (Round Pmk)}
    (hrounds : ∀ r ∈ rounds, r.PmksIn pmks) (hlast : sm.lastRxEapolKey = some key)
    (h : sm.KeysIn pmks K) (hstep : smStep p rounds sm = some sm') : sm'.KeysIn pmks K := by
  have hinvariant : sm'.lastRxEapolKey = some key ∧ sm'.KeysIn pmks K := by
    refine smStep_preserves (I := fun sm => sm.lastRxEapolKey = some key ∧ sm.KeysIn pmks K) ?_ ?_
      hrounds ⟨hlast, h⟩ hstep
    · rintro sm₁ sm₂ ⟨hlast, h⟩ hbeside
      exact ⟨hbeside.lastRxEapolKey.trans hlast, h.beside hbeside⟩
    · rintro r sm₁ sm₂ hr ⟨hlast, h⟩ htransition
      refine ⟨htransition.lastRxEapolKey.trans hlast, h.transition hr ?_ htransition⟩
      intro frame hframe pmk hpmk hmic
      obtain rfl : key = frame := Option.some.inj (hlast.symm.trans hframe)
      rw [hforged _ _ pmk hpmk] at hmic
      exact absurd hmic Bool.false_ne_true
  exact hinvariant.2

omit [DecidableEq Nonce] in
/-- The machines are run on a forged 2/4 frame. -/
lemma receiveReply_forged (hforged : Forged p pmks key) (henv : env.PmksIn pmks)
    (h : sm.KeysIn pmks K) (hreply : sm.receiveReply p env key = some sm') : sm'.KeysIn pmks K := by
  have h₁ : (sm.consumeReplay key).KeysIn pmks K := h.of_eq rfl rfl rfl
  unfold receiveReply at hreply
  dsimp only at hreply
  split at hreply
  · obtain rfl := Option.some.inj hreply
    exact sendSmk_preserves env KeysIn.beside h₁
  · rcases finishReceive_cases hreply with rfl | hstep
    · exact h₁.of_eq rfl rfl rfl
    · have h₂ : ((sm.consumeReplay key).waiting key).KeysIn pmks K := h₁.of_eq rfl rfl rfl
      exact smStep_forged hforged henv.rounds rfl h₂ hstep

/-- Unless it is refused, a forged frame leaves no other PTK than before. -/
lemma receive_keepsPtk (hforged : Forged p pmks key) (h : sm.KeysIn pmks (Derivable p pmks))
    (henv : env.PmksIn pmks) (hrefused : ¬ (key.msg = .pairwise2 ∧ Refused p env key))
    (hreceive : sm.receive p env key = some sm') (hvalid : sm'.ptkValid = true) :
    sm.ptkValid = true ∧ sm'.ptk = sm.ptk := by
  suffices hsame : sm'.KeysIn pmks fun ptk => sm.ptkValid = true ∧ ptk = sm.ptk from hsame.ptk hvalid
  have h₀ : sm.KeysIn pmks fun ptk => sm.ptkValid = true ∧ ptk = sm.ptk := ⟨h.pmk, fun hv => ⟨hv, rfl⟩⟩
  unfold receive at hreceive
  split at hreceive
  · exact Option.some.inj hreceive ▸ h₀
  split at hreceive
  · exact Option.some.inj hreceive ▸ h₀
  rename_i sm₁ hreplay
  have hsame : sm₁.pmk = sm.pmk ∧ sm₁.ptk = sm.ptk ∧ sm₁.ptkValid = sm.ptkValid := by
    rcases checkReplay_cases hreplay with ⟨rfl, -⟩ | ⟨-, -, rfl⟩ <;> exact ⟨rfl, rfl, rfl⟩
  have h₁ := h₀.of_eq hsame.1 hsame.2.1 hsame.2.2
  split at hreceive
  · exact Option.some.inj hreceive ▸ h₁
  · rename_i hdisconnect
    exact absurd (checkMsg_disconnect hdisconnect) hrefused
  split at hreceive
  · exact Option.some.inj hreceive ▸ h₁
  obtain ⟨hsm, -⟩ :=
    checkMic_forged hforged (h.of_eq hsame.1 hsame.2.1 hsame.2.2) henv
  have h₂ : KeysIn pmks (fun ptk => sm.ptkValid = true ∧ ptk = sm.ptk)
      { sm₁ with micVerified := false } := h₁.of_eq rfl rfl rfl
  dsimp only at hreceive
  rw [hsm] at hreceive
  split_ifs at hreceive
  · exact Option.some.inj hreceive ▸ h₂
  · rw [receiveRequest_unverified rfl] at hreceive
    exact Option.some.inj hreceive ▸ h₂
  · exact receiveReply_forged hforged henv h₂ hreceive

/-- What is known of a forged frame: it is dropped, or it is a 2/4 frame that comes before there is a PTK
to check it with; and no PTK comes from it.  This leaves out a station whose SNonce is being updated. -/
structure Harmless (p : WpaParams Nonce Pmk Ptk) (sm : WpaStateMachine Nonce Pmk Ptk) (env : RxEnv Pmk)
    (key : EapolKey Nonce) : Prop where
  undisturbed : ¬ sm.TakenUnchecked p env key →
    ∃ sm', sm.receive p env key = some sm' ∧ Undisturbed sm sm'
  keepsPtk : ¬ (key.msg = .pairwise2 ∧ Refused p env key) → ∀ sm', sm.receive p env key = some sm' →
    sm'.ptkValid = true → sm.ptkValid = true ∧ sm'.ptk = sm.ptk

/-- In every state that a station's authenticator reaches with PMKs of the set, a frame that is forged
for the set is harmless. -/
theorem receive_forged_harmless [Inhabited Nonce] [Inhabited Pmk] {security : StaSecurity}
    {mgmtFrameProt : Bool} {calls : List (WpaCall Nonce Pmk)}
    (hrun : Trace.RunWith (next p) (fun _ call => call.PmksIn pmks) (staInit security mgmtFrameProt)
      calls sm)
    (hzero : default ∈ pmks) (hforged : Forged p pmks key) (henv : env.PmksIn pmks)
    (hsnonce : sm.updateSnonce = false) : sm.Harmless p env key := by
  have h : sm.KeysIn pmks (Derivable p pmks) := by
    refine hrun.invariant ⟨hzero, fun hvalid => absurd hvalid Bool.false_ne_true⟩ ?_
    intro sm₁ call sm₂ h₁ hpmks hnext
    exact (KeysIn.callRule p pmks).next hpmks h₁ hnext
  constructor
  · exact receive_undisturbed hforged h henv hsnonce
  · intro hrefused sm' hreceive hvalid
    exact receive_keepsPtk hforged h henv hrefused hreceive hvalid

/-! ## Two forged frames -/

lemma plainPmksIn (call : WpaCall UInt8 Unit) : call.PmksIn {()} := by
  have huniv : ({()} : Set Unit) = Set.univ := Set.eq_univ_of_forall fun _ => rfl
  exact huniv ▸ call.pmksIn_univ

/-- The MIC is too short for all PTKs. -/
lemma forged_plainFrame (replayCounter : BitVec 64) (keyNonce : UInt8) (keyData : List UInt8) :
    Forged plainParams {()} (plainFrame replayCounter keyNonce [0] keyData) := by
  intro _ _ _ _ aNonce sNonce
  simp [plainParams, plainFrame]

/-- A forged 4/4 frame after a genuine 2/4 frame. -/
theorem receive_forged_harmless_message4 :
    ∃ sm sm', Trace.Run (next plainParams) (staInit plainSecurity false)
        [.staAssociated plainRounds plainRounds, plainReceive (plainFrame 1 20 [7, 20] [1])] sm ∧
      sm.wpaPtkState = .ptkInitNegotiating ∧ sm.ptk = [7, 20] ∧
      next plainParams sm (plainReceive (plainFrame 2 0 [0] [])) = some sm' ∧ Undisturbed sm sm' := by
  have h : (Trace.exec (next plainParams) (staInit plainSecurity false)
      [.staAssociated plainRounds plainRounds, plainReceive (plainFrame 1 20 [7, 20] [1])]).map
      (fun sm => (sm.wpaPtkState, sm.ptk, sm.updateSnonce)) =
        some (.ptkInitNegotiating, [7, 20], false) := by decide +kernel
  obtain ⟨sm, hexec, hsm⟩ := Option.map_eq_some_iff.mp h
  simp only [Prod.mk.injEq] at hsm
  obtain ⟨hstate, hptk, hsnonce⟩ := hsm
  have hrun := Trace.run_iff_exec.mpr hexec
  have hharmless : sm.Harmless plainParams { psks := [()], rounds := plainRounds }
      (plainFrame 2 0 [0] []) :=
    receive_forged_harmless (hrun.runWith fun _ call _ => plainPmksIn call) rfl
      (forged_plainFrame 2 0 []) (plainPmksIn (plainReceive (plainFrame 2 0 [0] []))) hsnonce
  obtain ⟨sm', hreceive, hundisturbed⟩ := hharmless.undisturbed fun htaken => by
    exact absurd htaken.1 (by decide)
  exact ⟨sm, sm', hrun, hstate, hptk, hreceive, hundisturbed⟩

/-- A forged 2/4 frame that comes first uses up the replay counter of the genuine one. -/
theorem forged_message2_disturbs :
    ∃ sm sm', Trace.Run (next plainParams) (staInit plainSecurity false)
        [.staAssociated plainRounds plainRounds] sm ∧
      Forged plainParams {()} (plainFrame 1 20 [0] [1]) ∧
      next plainParams sm (plainReceive (plainFrame 1 20 [0] [1])) = some sm' ∧
      wpaReplayCounterValid sm.keyReplay 1 = true ∧ wpaReplayCounterValid sm'.keyReplay 1 = false ∧
      ¬ Undisturbed sm sm' := by
  have h : ((Trace.exec (next plainParams) (staInit plainSecurity false)
      [.staAssociated plainRounds plainRounds]).bind fun sm =>
      (next plainParams sm (plainReceive (plainFrame 1 20 [0] [1]))).map fun sm' =>
        (wpaReplayCounterValid sm.keyReplay 1, wpaReplayCounterValid sm'.keyReplay 1)) =
      some (true, false) := by decide +kernel
  obtain ⟨sm, hexec, h⟩ := Option.bind_eq_some_iff.mp h
  obtain ⟨sm', hnext, h⟩ := Option.map_eq_some_iff.mp h
  obtain ⟨hbefore, hafter⟩ := Prod.mk.inj h
  refine ⟨sm, sm', Trace.run_iff_exec.mpr hexec, forged_plainFrame 1 20 [1], hnext, hbefore, hafter, ?_⟩
  intro hundisturbed
  rw [hundisturbed.keyReplay, hbefore] at hafter
  exact absurd hafter.symm Bool.false_ne_true

end WpaStateMachine

end Ethanol
