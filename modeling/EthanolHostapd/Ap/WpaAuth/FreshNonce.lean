import EthanolHostapd.Ap.WpaAuth.Steps
import Mathlib.Data.Set.Function
import Mathlib.Order.Interval.Set.Basic

/-!
# One ANonce per handshake

The ANonce is drawn in `AUTHENTICATION2`, and `PTKINITDONE` completes a handshake.  A new PTK can also
be asked for without an authentication, by the rekeying timer or by the station itself; `PTKSTART` is
then entered with the ANonce that is there.

`FreshNonce` is the invariant: while a handshake is under way, its ANonce has completed none.  It is
kept by every call, apart from a request for a new PTK that comes after the ANonce has completed a
handshake.
-/

namespace Ethanol

/-- The states of a handshake, from the draw of the ANonce on. -/
def PtkState.handshake : PtkState → Bool
  | .authentication2 | .initPmk | .initPsk | .ptkStart | .ptkCalcNegotiating | .ptkCalcNegotiating2
  | .ptkInitNegotiating => true
  | _ => false

namespace WpaStateMachine

variable {Nonce Pmk Ptk : Type}

/-- The ANonces of the handshakes that were completed, the last one first. -/
def completed (sm : WpaStateMachine Nonce Pmk Ptk) : List Nonce :=
  sm.history.filterMap fun
    | .installed _ aNonce => some aNonce
    | _ => none

/-- A handshake is under way or asked for. -/
def UnderWay (sm : WpaStateMachine Nonce Pmk Ptk) : Prop :=
  sm.ptkRequest = true ∨ sm.wpaPtkState.handshake = true

/-- There is a PTK, or a reason to make one. -/
def Keyed (sm : WpaStateMachine Nonce Pmk Ptk) : Prop :=
  sm.UnderWay ∨ sm.ptkValid = true ∨ sm.rekeyPtkTimeouts ≠ 0

/-- The nonce is one of those that were drawn. -/
def Drawn (p : WpaParams Nonce Pmk Ptk) (sm : WpaStateMachine Nonce Pmk Ptk) (nonce : Nonce) : Prop :=
  ∃ i < sm.drawn, p.random i = nonce

/-- The invariant. -/
structure FreshNonce (p : WpaParams Nonce Pmk Ptk) (sm : WpaStateMachine Nonce Pmk Ptk) : Prop where
  fresh : sm.UnderWay → sm.aNonce ∉ sm.completed
  keyed : sm.Keyed → sm.Drawn p sm.aNonce
  drawn : ∀ aNonce ∈ sm.completed, sm.Drawn p aNonce
  nodup : sm.completed.Nodup

variable {p : WpaParams Nonce Pmk Ptk} {sm sm' : WpaStateMachine Nonce Pmk Ptk}

lemma Sends.completed_eq (h : Sends sm sm') : sm'.completed = sm.completed := by
  unfold completed
  rcases h with ⟨-, h⟩ | ⟨-, h⟩ <;> rw [h]
  rfl

/-! ## The machines -/

/-- What matters for the invariant. -/
lemma FreshNonce.of_le (h : sm.FreshNonce p) (haNonce : sm'.aNonce = sm.aNonce)
    (hdrawn : sm'.drawn = sm.drawn) (hcompleted : sm'.completed = sm.completed)
    (hunder : sm'.UnderWay → sm.UnderWay) (hkeyed : sm'.Keyed → sm.Keyed) : sm'.FreshNonce p where
  fresh hunder' := by
    rw [haNonce, hcompleted]
    exact h.fresh (hunder hunder')
  keyed hkeyed' := by
    rw [Drawn, haNonce, hdrawn]
    exact h.keyed (hkeyed hkeyed')
  drawn := by
    rw [hcompleted]
    intro aNonce haNonce'
    rw [Drawn, hdrawn]
    exact h.drawn aNonce haNonce'
  nodup := hcompleted ▸ h.nodup

/-- A step within a handshake. -/
lemma FreshNonce.within (h : sm.FreshNonce p) (haNonce : sm'.aNonce = sm.aNonce)
    (hdrawn : sm'.drawn = sm.drawn) (hcompleted : sm'.completed = sm.completed)
    (hunder : sm.UnderWay) : sm'.FreshNonce p :=
  h.of_le haNonce hdrawn hcompleted (fun _ => hunder) (fun _ => Or.inl hunder)

/-- A step that ends a handshake without a key. -/
lemma FreshNonce.leave (h : sm.FreshNonce p) (haNonce : sm'.aNonce = sm.aNonce)
    (hdrawn : sm'.drawn = sm.drawn) (hcompleted : sm'.completed = sm.completed)
    (hstate : sm'.wpaPtkState.handshake = false) (hrequest : sm'.ptkRequest = sm.ptkRequest)
    (hvalid : sm'.ptkValid = true → sm.ptkValid = true)
    (htimer : sm'.rekeyPtkTimeouts ≠ 0 → sm.rekeyPtkTimeouts ≠ 0) : sm'.FreshNonce p := by
  have hunder : sm'.UnderWay → sm.UnderWay := by
    rintro (hrequest' | hstate')
    · exact Or.inl (hrequest.symm.trans hrequest')
    · exact absurd (hstate.symm.trans hstate') Bool.false_ne_true
  exact h.of_le haNonce hdrawn hcompleted hunder (Or.imp hunder (Or.imp hvalid htimer))

lemma FreshNonce.beside (h : sm.FreshNonce p) (hbeside : Beside sm sm') : sm'.FreshNonce p := by
  have hunder : sm'.UnderWay → sm.UnderWay := by
    rw [UnderWay, hbeside.ptkRequest, hbeside.wpaPtkState]
    exact id
  refine h.of_le hbeside.aNonce hbeside.drawn hbeside.sends.completed_eq hunder ?_
  rw [Keyed, hbeside.ptkValid, hbeside.rekeyPtkTimeouts]
  exact Or.imp_left hunder

variable [Inhabited Ptk] {r : Round Pmk}

/-- The handshake that is completed is a new one. -/
lemma FreshNonce.ptkInitDone (h : sm.FreshNonce p) (idle : sm.Idle)
    (hstate : sm.wpaPtkState = .ptkInitNegotiating) : (sm.ptkPtkInitDone p r).FreshNonce p := by
  have hunder : sm.UnderWay := Or.inr (by rw [hstate]; rfl)
  have hcompleted : (sm.ptkPtkInitDone p r).completed = sm.aNonce :: sm.completed := by
    rw [ptkPtkInitDone_eq]
    rfl
  rw [ptkPtkInitDone_eq] at hcompleted ⊢
  constructor
  case fresh =>
    rintro (hrequest | hdone)
    · exact absurd (idle.ptkRequest.symm.trans hrequest) Bool.false_ne_true
    · exact absurd hdone Bool.false_ne_true
  case keyed => exact fun _ => h.keyed (Or.inl hunder)
  case drawn =>
    rw [hcompleted]
    intro aNonce haNonce
    rcases List.mem_cons.mp haNonce with rfl | haNonce
    · exact h.keyed (Or.inl hunder)
    · exact h.drawn aNonce haNonce
  case nodup =>
    rw [hcompleted]
    exact List.nodup_cons.mpr ⟨h.fresh hunder, h.nodup⟩

omit [Inhabited Ptk] in
/-- A nonce that is drawn now has completed no handshake. -/
lemma FreshNonce.authentication2 (h : sm.FreshNonce p)
    (hrandom : Set.InjOn p.random (Set.Iio (sm.drawn + 1))) :
    (sm.ptkAuthentication2 p).FreshNonce p := by
  have hnew : p.random sm.drawn ∉ sm.completed := by
    intro hold
    obtain ⟨i, hi, hrepeated⟩ := h.drawn _ hold
    have : i = sm.drawn :=
      hrandom (Set.mem_Iio.mpr (by omega)) (Set.mem_Iio.mpr (by omega)) hrepeated
    omega
  rw [ptkAuthentication2_eq]
  constructor
  case fresh => exact fun _ => hnew
  case keyed => exact fun _ => ⟨sm.drawn, Nat.lt_succ_self _, rfl⟩
  case drawn =>
    intro aNonce haNonce
    obtain ⟨i, hi, hdrawn⟩ := h.drawn aNonce haNonce
    exact ⟨i, Nat.lt_succ_of_lt hi, hdrawn⟩
  case nodup => exact h.nodup

/-- Every transition keeps the invariant. -/
lemma FreshNonce.transition (h : sm.FreshNonce p) (htrans : PtkTransition p r sm sm')
    (hrandom : Set.InjOn p.random (Set.Iio sm'.drawn)) : sm'.FreshNonce p := by
  cases htrans with
  | stay => exact h
  | initializing =>
    exact h.leave rfl rfl rfl rfl rfl (fun hvalid => absurd hvalid Bool.false_ne_true)
      (fun htimer => absurd rfl htimer)
  | disconnect =>
    exact h.leave rfl rfl rfl rfl rfl (fun hvalid => absurd hvalid Bool.false_ne_true)
      (fun htimer => absurd rfl htimer)
  | disconnected => exact h.leave rfl rfl rfl rfl rfl id id
  | authentication =>
    exact h.leave rfl rfl rfl rfl rfl (fun hvalid => absurd hvalid Bool.false_ne_true) id
  | authentication2 => exact h.authentication2 (by rwa [ptkAuthentication2_eq] at hrandom)
  | initPmk _ guard =>
    rw [ptkInitPmk_eq]
    exact h.within rfl rfl rfl (Or.inr (by rw [guard]; rfl))
  | initPsk _ guard => exact h.within rfl rfl rfl (Or.inr (by rw [guard]; rfl))
  | ptkStart guard =>
    have hunder : sm.UnderWay := by
      rcases guard with hrequest | hstate | hstate | hstate | hstate
      · exact Or.inl hrequest
      all_goals exact Or.inr (by rw [hstate]; rfl)
    have hcompleted : (sm.ptkPtkStart r).completed = sm.completed := sends_ptkPtkStart.completed_eq
    rw [ptkPtkStart_eq] at hcompleted ⊢
    exact h.within rfl rfl hcompleted hunder
  | ptkCalcNegotiating _ guard enter =>
    have hunder : sm.UnderWay := by
      rcases guard with ⟨hstate, -⟩ | ⟨hstate, -⟩ | ⟨hstate, -⟩ <;> exact Or.inr (by rw [hstate]; rfl)
    obtain rfl | ⟨_, _, _, _, _, rfl⟩ := ptkPtkCalcNegotiating_cases enter
    · exact h.within rfl rfl rfl hunder
    · exact h.within rfl rfl rfl hunder
  | ptkCalcNegotiating2 _ guard => exact h.within rfl rfl rfl (Or.inr (by rw [guard]; rfl))
  | ptkInitNegotiating _ guard =>
    have hunder : sm.UnderWay := by
      rcases guard with hstate | hstate <;> exact Or.inr (by rw [hstate]; rfl)
    have hcompleted : (sm.ptkPtkInitNegotiating r).completed = sm.completed :=
      sends_ptkPtkInitNegotiating.completed_eq
    rw [ptkPtkInitNegotiating_eq] at hcompleted ⊢
    exact h.within rfl rfl hcompleted hunder
  | ptkInitDone idle guard => exact h.ptkInitDone idle guard

lemma PtkTransition.drawn_le (h : PtkTransition p r sm sm') : sm.drawn ≤ sm'.drawn := by
  cases h with
  | authentication2 =>
    rw [ptkAuthentication2_eq]
    exact Nat.le_succ _
  | initPmk => rw [ptkInitPmk_eq]
  | ptkStart => rw [ptkPtkStart_eq]
  | ptkCalcNegotiating _ _ enter =>
    obtain rfl | ⟨_, _, _, _, _, rfl⟩ := ptkPtkCalcNegotiating_cases enter <;> exact le_rfl
  | ptkInitNegotiating => rw [ptkPtkInitNegotiating_eq]
  | ptkInitDone => rw [ptkPtkInitDone_eq]
  | _ => exact le_rfl

/-- The invariant, as long as no draw repeats another. -/
def Fresh (p : WpaParams Nonce Pmk Ptk) (sm : WpaStateMachine Nonce Pmk Ptk) : Prop :=
  Set.InjOn p.random (Set.Iio sm.drawn) → sm.FreshNonce p

omit [Inhabited Ptk] in
lemma Fresh.of_le (h : sm.Fresh p) (haNonce : sm'.aNonce = sm.aNonce)
    (hdrawn : sm'.drawn = sm.drawn) (hcompleted : sm'.completed = sm.completed)
    (hunder : sm'.UnderWay → sm.UnderWay) (hkeyed : sm'.Keyed → sm.Keyed) : sm'.Fresh p := by
  intro hrandom
  exact (h (hdrawn ▸ hrandom)).of_le haNonce hdrawn hcompleted hunder hkeyed

lemma Fresh.reaches (h : sm.Fresh p) (hreaches : Reaches p sm sm') : sm'.Fresh p := by
  refine hreaches.preserves ?_ ?_ h
  · intro sm sm' h hbeside hrandom
    exact (h (hbeside.drawn ▸ hrandom)).beside hbeside
  · intro r sm sm' h htrans hrandom
    exact (h (Set.InjOn.mono (Set.Iio_subset_Iio htrans.drawn_le) hrandom)).transition htrans hrandom

/-! ## The calls -/

section Calls

variable {rounds₀ rounds : List (Round Pmk)} {env : RxEnv Pmk} {key : EapolKey Nonce}

lemma Fresh.startMachine (h : sm.Fresh p) (hstart : sm.startMachine p rounds = some sm') :
    sm'.Fresh p := by
  obtain ⟨sm₁, hstep, rfl⟩ := startMachine_cases hstart
  have h₁ : sm₁.Fresh p := by
    refine Fresh.reaches ?_ (smStep_reaches hstep)
    exact h.of_le rfl rfl rfl id id
  exact h₁.of_le rfl rfl rfl id id

omit [Inhabited Ptk] in
lemma Fresh.eventFlags (h : sm.Fresh p) (event : WpaEvent) : (sm.eventFlags event).Fresh p := by
  cases event with
  | reauth | reauthEapol =>
    simp only [WpaStateMachine.eventFlags]
    split <;> exact h.of_le rfl rfl rfl id id
  | _ => exact h.of_le rfl rfl rfl id id

lemma Fresh.eventPtk (h : sm.Fresh p) (event : WpaEvent) : (sm.eventPtk event).Fresh p := by
  unfold WpaStateMachine.eventPtk
  split_ifs
  · exact h
  · refine h.of_le rfl rfl rfl id (Or.imp_right (Or.imp_left ?_))
    intro hvalid
    exact absurd hvalid Bool.false_ne_true
  · refine h.of_le rfl rfl rfl id (Or.imp_right (Or.imp ?_ ?_))
    · intro hvalid
      exact absurd hvalid Bool.false_ne_true
    · intro htimer
      exact absurd rfl htimer

lemma Fresh.smEvent (h : sm.Fresh p) {event : WpaEvent}
    (hevent : sm.smEvent p event rounds₀ rounds = some sm') : sm'.Fresh p := by
  obtain ⟨sm₁, hflags, hstep⟩ := smEvent_cases hevent
  have h₁ : sm₁.Fresh p := by
    rcases hflags with hstart | rfl
    · exact h.startMachine hstart
    · exact h.eventFlags event
  exact (h₁.eventPtk event).reaches (smStep_reaches hstep)

lemma Fresh.staAssociated (h : sm.Fresh p)
    (hassoc : sm.staAssociated p rounds₀ rounds = some sm') : sm'.Fresh p := by
  rcases staAssociated_cases hassoc with ⟨-, hstep⟩ | ⟨sm₁, hstart, hstep⟩
  · refine Fresh.reaches ?_ (smStep_reaches hstep)
    exact h.of_le rfl rfl rfl id id
  · exact (h.startMachine hstart).reaches (smStep_reaches hstep)

omit [Inhabited Ptk] in
/-- A new PTK may be asked for if the ANonce has completed no handshake. -/
lemma Fresh.requestNewPtk (h : sm.Fresh p) (hkeyed : sm.Keyed) (hnew : sm.aNonce ∉ sm.completed) :
    sm.requestNewPtk.Fresh p := by
  intro hrandom
  have h' := h hrandom
  exact {
    fresh := fun _ => hnew
    keyed := fun _ => h'.keyed hkeyed
    drawn := h'.drawn
    nodup := h'.nodup }

lemma Fresh.finishReceive (h : sm.Fresh p) (hfinish : sm.finishReceive p env key = some sm') :
    sm'.Fresh p := by
  rcases finishReceive_cases hfinish with rfl | hstep
  · exact h.of_le rfl rfl rfl id id
  · refine Fresh.reaches ?_ (smStep_reaches hstep)
    exact h.of_le rfl rfl rfl id id

/-- The call asks for a new PTK: the timer of `wpa_rekey_ptk` does, and a request or an error report of
the station whose MIC is valid. -/
def RequestsPtk (p : WpaParams Nonce Pmk Ptk) (sm : WpaStateMachine Nonce Pmk Ptk) :
    WpaCall Nonce Pmk → Prop
  | .rekeyPtk _ => True
  | .receive _ key =>
    key.request = true ∧ key.msg ≠ .smkError ∧ (key.error = true ∨ key.keyType = true) ∧
      sm.ptkValid = true ∧ p.verifyKeyMic sm.security sm.ptk key = true
  | _ => False

/-- A new PTK is asked for only while the ANonce has completed no handshake. -/
def NewNonceForRequest (p : WpaParams Nonce Pmk Ptk) (sm : WpaStateMachine Nonce Pmk Ptk)
    (call : WpaCall Nonce Pmk) : Prop :=
  sm.RequestsPtk p call → sm.aNonce ∉ sm.completed

variable [DecidableEq Nonce]

omit [Inhabited Ptk] in
lemma Fresh.checkReplay (h : sm.Fresh p) (hreplay : sm.checkReplay key = some sm') : sm'.Fresh p := by
  rcases checkReplay_cases hreplay with ⟨rfl, -⟩ | ⟨-, -, rfl⟩
  · exact h
  · exact h.of_le rfl rfl rfl id id

omit [Inhabited Ptk] [DecidableEq Nonce] in
lemma Fresh.checkMic (h : sm.Fresh p) : (sm.checkMic p env key).1.Fresh p := by
  rcases checkMic_cases with ⟨hsm, -⟩ | ⟨⟨hvalid, -⟩, ⟨-, hsm⟩ | ⟨-, _, _, -, -, hsm⟩⟩
  · rw [hsm]
    exact h.of_le rfl rfl rfl id id
  · rw [hsm]
    exact h.of_le rfl rfl rfl id id
  · rw [hsm]
    exact h.of_le rfl rfl rfl id (Or.imp_right (Or.imp_left fun _ => hvalid))

omit [DecidableEq Nonce] in
lemma Fresh.receiveReply (h : sm.Fresh p) (hreply : sm.receiveReply p env key = some sm') :
    sm'.Fresh p := by
  unfold WpaStateMachine.receiveReply at hreply
  have h₁ : (sm.consumeReplay key).Fresh p := h.of_le rfl rfl rfl id id
  dsimp only at hreply
  split at hreply
  · obtain rfl := Option.some.inj hreply
    exact h₁.reaches (completes_sendSmk env).reaches
  · exact h₁.finishReceive hreply

omit [DecidableEq Nonce] in
lemma Fresh.receiveRequest (h : sm.Fresh p) (hok : sm.NewNonceForRequest p (.receive env key))
    (hrequest : key.request = true)
    (hreceive : (sm.checkMic p env key).1.receiveRequest p env key = some sm') : sm'.Fresh p := by
  have h₁ : (sm.checkMic p env key).1.Fresh p := h.checkMic
  rcases receiveRequest_cases hreceive with rfl | ⟨hmic, ⟨hmsg, hkind, hfinish⟩ | ⟨sm₂, hcompletes, hend⟩⟩
  · exact h₁
  · -- the MIC of a request is only ever verified with the PTK that is installed
    rcases checkMic_cases with ⟨hsm, -⟩ | ⟨⟨hvalid, -⟩, ⟨hverified, hsm⟩ | ⟨hmsg4, -⟩⟩
    · rw [hsm] at hmic
      exact absurd hmic Bool.false_ne_true
    · rw [hsm] at hfinish
      have hnew : sm.aNonce ∉ sm.completed := hok ⟨hrequest, hmsg, hkind, hvalid, hverified⟩
      refine Fresh.finishReceive ?_ hfinish
      refine Fresh.requestNewPtk ?_ (Or.inr (Or.inl hvalid)) hnew
      exact h.of_le rfl rfl rfl id id
    · exact absurd hrequest (by simp [(EapolKey.pairwise_of_msg (Or.inr hmsg4)).1])
  · have haccept : ((sm.checkMic p env key).1.acceptRequest key).Fresh p :=
      h₁.of_le rfl rfl rfl id id
    have h₂ : sm₂.Fresh p := haccept.reaches hcompletes.reaches
    rcases hend with rfl | hfinish
    · exact h₂
    · exact h₂.finishReceive hfinish

lemma Fresh.receive (h : sm.Fresh p) (hok : sm.NewNonceForRequest p (.receive env key))
    (hcall : sm.receive p env key = some sm') : sm'.Fresh p := by
  rcases receive_cases hcall with rfl | ⟨sm₁, hreplay, hreceive⟩
  · exact h
  have h₁ : sm₁.Fresh p := h.checkReplay hreplay
  rcases hreceive with rfl | hevent | ⟨-, rfl | ⟨-, hrequest, hreceive⟩ | ⟨-, -, hreceive⟩⟩
  · exact h₁
  · exact h₁.smEvent hevent
  · exact h₁.checkMic
  · have hsame : sm₁ = sm := by
      rcases checkReplay_cases hreplay with ⟨hsame, -⟩ | ⟨hmsg, -⟩
      · exact hsame
      · exact absurd hrequest (by simp [(EapolKey.pairwise_of_msg (Or.inl hmsg)).1])
    subst hsame
    exact h₁.receiveRequest hok hrequest hreceive
  · exact h₁.checkMic.receiveReply hreceive

/-- A call keeps the invariant. -/
lemma Fresh.next (h : sm.Fresh p) {call : WpaCall Nonce Pmk} (hok : sm.NewNonceForRequest p call)
    (hnext : next p sm call = some sm') : sm'.Fresh p := by
  cases call with
  | receive env key => exact h.receive hok hnext
  | sendEapolTimeout rounds =>
    simp only [WpaStateMachine.next] at hnext
    split at hnext
    · exact absurd hnext (by simp)
    · refine Fresh.reaches ?_ (smStep_reaches hnext)
      exact h.of_le rfl rfl rfl id id
  | rekeyPtk rounds =>
    simp only [WpaStateMachine.next] at hnext
    split at hnext
    · exact absurd hnext (by simp)
    · rename_i htimer
      refine Fresh.reaches ?_ (smStep_reaches hnext)
      have hdrawn : sm.requestNewPtk.Fresh p :=
        h.requestNewPtk (Or.inr (Or.inr htimer)) (hok trivial)
      exact hdrawn.of_le rfl rfl rfl id (fun _ => Or.inl (Or.inl rfl))
  | smEvent event rounds₀ rounds => exact h.smEvent hnext
  | staAssociated rounds₀ rounds => exact h.staAssociated hnext
  | smCallStep rounds => exact h.reaches (smStep_reaches hnext)
  | group step rounds => exact h.reaches (completes_groupCall hnext).reaches
  | smkSend e =>
    obtain rfl := Option.some.inj hnext
    exact h.reaches (beside_sendEapolFrame e).reaches
  | validateWpaIe security mgmtFrameProt =>
    obtain rfl := Option.some.inj hnext
    exact h.of_le rfl rfl rfl id id
  | setWnmsleep flag =>
    obtain rfl := Option.some.inj hnext
    exact h.of_le rfl rfl rfl id id

omit [DecidableEq Nonce] in
lemma fresh_staInit [Inhabited Nonce] [Inhabited Pmk] (p : WpaParams Nonce Pmk Ptk)
    (security : StaSecurity) (mgmtFrameProt : Bool) : (staInit security mgmtFrameProt).Fresh p := by
  have hidle : ¬ Keyed (staInit security mgmtFrameProt : WpaStateMachine Nonce Pmk Ptk) := by
    rintro ((h | h) | h | h)
    · exact absurd h Bool.false_ne_true
    · exact absurd h Bool.false_ne_true
    · exact absurd h Bool.false_ne_true
    · exact absurd rfl h
  intro _
  exact {
    fresh := fun h => absurd (Or.inl h) hidle
    keyed := fun h => absurd h hidle
    drawn := fun _ h => absurd h List.not_mem_nil
    nodup := List.nodup_nil }

/-- In every run in which a new PTK is asked for only while the ANonce has completed no handshake, and
in which the random source does not repeat itself, no two handshakes are completed with one ANonce. -/
theorem completed_nodup [Inhabited Nonce] [Inhabited Pmk] {security : StaSecurity}
    {mgmtFrameProt : Bool} {calls : List (WpaCall Nonce Pmk)}
    (hrun : Trace.RunWith (next p) (NewNonceForRequest p) (staInit security mgmtFrameProt) calls sm)
    (hrandom : Set.InjOn p.random (Set.Iio sm.drawn)) : sm.completed.Nodup := by
  have h : sm.Fresh p :=
    hrun.invariant (fresh_staInit p security mgmtFrameProt) fun _ _ _ h hok hnext => h.next hok hnext
  exact (h hrandom).nodup

end Calls

/-! ## The rekeying timer -/

/-- A station completes a handshake. -/
def firstHandshake : List (WpaCall UInt8 Unit) := [
  .staAssociated plainRounds plainRounds,
  plainReceive (plainFrame 1 20 [7, 20] [1]),
  plainReceive (plainFrame 2 0 [7, 20] [])]

/-- It authenticates again and completes another one. -/
def reauthenticated : List (WpaCall UInt8 Unit) := firstHandshake ++ [
  .smEvent .reauth [] plainRounds,
  plainReceive (plainFrame 3 21 [8, 21] [1]),
  plainReceive (plainFrame 4 0 [8, 21] [])]

/-- The PTK is rekeyed instead. -/
def rekeyed : List (WpaCall UInt8 Unit) := firstHandshake ++ [
  .rekeyPtk plainRounds,
  plainReceive (plainFrame 3 21 [7, 21] [1]),
  plainReceive (plainFrame 4 0 [7, 21] [])]

/-- No draw is repeated when a station authenticates again. -/
theorem completed_nodup_reauthenticated :
    ∃ sm, Trace.RunWith (next plainParams) (NewNonceForRequest plainParams)
        (staInit plainSecurity false) reauthenticated sm ∧
      sm.completed = [8, 7] ∧ sm.completed.Nodup := by
  have h : (Trace.exec (next plainParams) (staInit plainSecurity false) reauthenticated).map
      (fun sm => (sm.drawn, sm.completed)) = some (2, [8, 7]) := by decide +kernel
  obtain ⟨sm, hexec, hsm⟩ := Option.map_eq_some_iff.mp h
  obtain ⟨hdrawn, hcompleted⟩ := Prod.mk.inj hsm
  have hrun : Trace.RunWith (next plainParams) (NewNonceForRequest plainParams)
      (staInit plainSecurity false) reauthenticated sm := by
    refine (Trace.run_iff_exec.mpr hexec).runWith ?_
    intro sm call hcall hrequests
    simp only [reauthenticated, firstHandshake, List.mem_append, List.mem_cons, List.not_mem_nil,
      or_false] at hcall
    rcases hcall with (rfl | rfl | rfl) | rfl | rfl | rfl
    · exact hrequests.elim
    · exact absurd hrequests.1 Bool.false_ne_true
    · exact absurd hrequests.1 Bool.false_ne_true
    · exact hrequests.elim
    · exact absurd hrequests.1 Bool.false_ne_true
    · exact absurd hrequests.1 Bool.false_ne_true
  have hrandom : Set.InjOn plainParams.random (Set.Iio sm.drawn) := by
    have hdistinct : ∀ i < 2, ∀ j < 2, plainParams.random i = plainParams.random j → i = j := by
      decide
    rw [hdrawn]
    intro i hi j hj
    exact hdistinct i hi j hj
  exact ⟨sm, hrun, hcompleted, completed_nodup hrun hrandom⟩

/-- The handshake after the timer has expired is completed with the ANonce of the one before, although
only one nonce has been drawn. -/
theorem rekeyed_repeats_aNonce :
    ∃ sm, Trace.Run (next plainParams) (staInit plainSecurity false) rekeyed sm ∧
      Set.InjOn plainParams.random (Set.Iio sm.drawn) ∧ sm.completed = [7, 7] ∧
      ¬ sm.completed.Nodup := by
  have h : (Trace.exec (next plainParams) (staInit plainSecurity false) rekeyed).map
      (fun sm => (sm.drawn, sm.completed)) = some (1, [7, 7]) := by decide +kernel
  obtain ⟨sm, hexec, hsm⟩ := Option.map_eq_some_iff.mp h
  obtain ⟨hdrawn, hcompleted⟩ := Prod.mk.inj hsm
  refine ⟨sm, Trace.run_iff_exec.mpr hexec, ?_, hcompleted, ?_⟩
  · rw [hdrawn]
    intro i hi j hj _
    rw [Set.mem_Iio, Nat.lt_one_iff] at hi hj
    rw [hi, hj]
  · rw [hcompleted]
    decide

end WpaStateMachine

end Ethanol
