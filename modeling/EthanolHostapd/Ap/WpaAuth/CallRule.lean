import EthanolHostapd.Ap.WpaAuth.Steps
import Mathlib.Data.Set.Basic

/-!
# What every call keeps

A call of a station's authenticator is made of a few kinds of steps: the machines are run, requests and
timers are set, the PTK is given up, replay counters are used up.  `CallRule` lists what has to be shown of
an invariant for each kind, and `CallRule.next` concludes that every call keeps it.  The PMKs that a
call takes from its surroundings belong to a given set.
-/

namespace Ethanol

variable {Nonce Pmk Ptk : Type}

/-- The PMKs of a round are in the set. -/
structure Round.PmksIn (pmks : Set Pmk) (r : Round Pmk) : Prop where
  psks : ∀ pmk ∈ r.psks, pmk ∈ pmks
  msk : ∀ pmk ∈ r.msk, pmk ∈ pmks

/-- The PMKs around the receipt of a frame are in the set. -/
structure RxEnv.PmksIn (pmks : Set Pmk) (env : RxEnv Pmk) : Prop where
  psks : ∀ pmk ∈ env.psks, pmk ∈ pmks
  rekeyGtk : ∀ g ∈ env.rekeyGtk, ∀ r ∈ g.2, Round.PmksIn pmks r
  rounds : ∀ r ∈ env.rounds, Round.PmksIn pmks r

/-- The PMKs around a call are in the set. -/
def WpaCall.PmksIn (pmks : Set Pmk) : WpaCall Nonce Pmk → Prop
  | .receive env _ => env.PmksIn pmks
  | .sendEapolTimeout rounds | .rekeyPtk rounds | .smCallStep rounds | .group _ rounds =>
    ∀ r ∈ rounds, r.PmksIn pmks
  | .smEvent _ rounds₀ rounds | .staAssociated rounds₀ rounds =>
    (∀ r ∈ rounds₀, r.PmksIn pmks) ∧ ∀ r ∈ rounds, r.PmksIn pmks
  | .smkSend _ | .validateWpaIe _ _ | .setWnmsleep _ => True

lemma Round.pmksIn_univ (r : Round Pmk) : r.PmksIn Set.univ :=
  ⟨fun _ _ => Set.mem_univ _, fun _ _ => Set.mem_univ _⟩

lemma WpaCall.pmksIn_univ (call : WpaCall Nonce Pmk) : call.PmksIn Set.univ := by
  cases call with
  | receive env key =>
    exact ⟨fun _ _ => Set.mem_univ _, fun _ _ r _ => r.pmksIn_univ, fun r _ => r.pmksIn_univ⟩
  | smEvent | staAssociated => exact ⟨fun r _ => r.pmksIn_univ, fun r _ => r.pmksIn_univ⟩
  | smkSend | validateWpaIe | setWnmsleep => trivial
  | _ => exact fun r _ => r.pmksIn_univ

namespace WpaStateMachine

/-- Keys, counters and records are the same. -/
structure SameKeys (sm sm' : WpaStateMachine Nonce Pmk Ptk) : Prop where
  pmk : sm'.pmk = sm.pmk
  ptk : sm'.ptk = sm.ptk
  ptkValid : sm'.ptkValid = sm.ptkValid
  keyReplay : sm'.keyReplay = sm.keyReplay
  reqReplayCounter : sm'.reqReplayCounter = sm.reqReplayCounter
  reqReplayCounterUsed : sm'.reqReplayCounterUsed = sm.reqReplayCounterUsed
  history : sm'.history = sm.history

variable [Inhabited Ptk]

/-- What has to be shown of an invariant that every call is to keep. -/
structure CallRule (p : WpaParams Nonce Pmk Ptk) (pmks : Set Pmk)
    (I : WpaStateMachine Nonce Pmk Ptk → Prop) : Prop where
  beside : ∀ {sm sm'}, I sm → Beside sm sm' → I sm'
  transition : ∀ {r sm sm'}, r.PmksIn pmks → I sm → PtkTransition p r sm sm' → I sm'
  sameKeys : ∀ {sm sm'}, I sm → SameKeys sm sm' → I sm'
  withoutPtk : ∀ {sm} (ptk : Ptk), I sm → I { sm with ptkValid := false, ptk := ptk }
  reassociated : ∀ {sm}, I sm → I sm.reassociated
  checkMic : ∀ {sm env key}, RxEnv.PmksIn pmks env → I sm → I (sm.checkMic p env key).1
  acceptRequest : ∀ {sm key}, I sm →
    (sm.reqReplayCounterUsed = true → sm.reqReplayCounter < key.replayCounter) →
    I (sm.acceptRequest key)
  consumeReplay : ∀ {sm key}, I sm → I (sm.consumeReplay key)

variable {p : WpaParams Nonce Pmk Ptk} {pmks : Set Pmk} {I : WpaStateMachine Nonce Pmk Ptk → Prop}
  {sm sm' : WpaStateMachine Nonce Pmk Ptk}

/-- What the steps of the machines keep, the loop keeps. -/
lemma smStep_preserves {rounds : List (Round Pmk)}
    (hbeside : ∀ {sm sm'}, I sm → Beside sm sm' → I sm')
    (htransition : ∀ {r sm sm'}, r.PmksIn pmks → I sm → PtkTransition p r sm sm' → I sm')
    (hpmks : ∀ r ∈ rounds, r.PmksIn pmks) (h : I sm) (hstep : smStep p rounds sm = some sm') :
    I sm' := by
  induction rounds generalizing sm with
  | nil => exact absurd hstep (by simp [smStep])
  | cons r rounds ih =>
    simp only [smStep, roundStep, Option.bind_eq_bind, Option.bind_eq_some_iff,
      Option.map_eq_some_iff] at hstep
    obtain ⟨_, ⟨sm₁, hptk, rfl⟩, hrest⟩ := hstep
    have hchanged : I { sm with changed := false } := hbeside h (beside_changed sm false)
    have h₁ : I sm₁ :=
      htransition (hpmks r List.mem_cons_self) hchanged (ptkStep_transition hptk)
    have h₂ : I (r.group.foldl applyGroupStep (groupStep r sm₁)) :=
      afterPtk_preserves (fun _ _ => hbeside) h₁
    split at hrest
    · exact ih (fun r hr => hpmks r (List.mem_cons_of_mem _ hr)) h₂ hrest
    · obtain rfl := Option.some.inj hrest
      exact h₂

omit [Inhabited Ptk] in
lemma sendSmk_preserves (env : RxEnv Pmk) (hbeside : ∀ {sm sm'}, I sm → Beside sm sm' → I sm')
    (h : I sm) : I (sm.sendSmk env) := by
  unfold sendSmk
  induction env.smkSends generalizing sm with
  | nil => exact h
  | cons e es ih => exact ih (hbeside h (beside_sendEapolFrame e))

namespace CallRule

variable (rule : CallRule p pmks I)

include rule

/-! ## The machines -/

lemma smStep {rounds : List (Round Pmk)} (hpmks : ∀ r ∈ rounds, r.PmksIn pmks) (h : I sm)
    (hstep : WpaStateMachine.smStep p rounds sm = some sm') : I sm' :=
  smStep_preserves rule.beside rule.transition hpmks h hstep

lemma groupCall {g : GroupStep} {rounds : List (Round Pmk)} (hpmks : ∀ r ∈ rounds, r.PmksIn pmks)
    (h : I sm) (hcall : sm.groupCall p g rounds = some sm') : I sm' := by
  cases g with
  | update =>
    simp only [WpaStateMachine.groupCall] at hcall
    split at hcall
    · exact rule.smStep hpmks (rule.beside h beside_groupUpdateSta) hcall
    · obtain rfl := Option.some.inj hcall
      exact rule.beside h beside_groupUpdateSta
  | fatalFailure =>
    obtain rfl := Option.some.inj hcall
    exact rule.beside h (beside_applyGroupStep sm .fatalFailure)

lemma groupCalls {gs : List (GroupStep × List (Round Pmk))}
    (hpmks : ∀ g ∈ gs, ∀ r ∈ g.2, Round.PmksIn pmks r) (h : I sm)
    (hcalls : gs.foldlM (fun sm g => WpaStateMachine.groupCall p sm g.1 g.2) sm = some sm') : I sm' := by
  induction gs generalizing sm with
  | nil =>
    obtain rfl := Option.some.inj hcalls
    exact h
  | cons g gs ih =>
    rw [List.foldlM_cons, Option.bind_eq_bind, Option.bind_eq_some_iff] at hcalls
    obtain ⟨sm₁, hcall, hrest⟩ := hcalls
    refine ih (fun g hg => hpmks g (List.mem_cons_of_mem _ hg)) ?_ hrest
    exact rule.groupCall (hpmks g List.mem_cons_self) h hcall

lemma sendSmk (env : RxEnv Pmk) (h : I sm) : I (sm.sendSmk env) :=
  sendSmk_preserves env rule.beside h

/-! ## Events -/

lemma removePtk (h : I sm) : I sm.removePtk := by
  have hptk : I { sm with ptkValid := false, ptk := default } := rule.withoutPtk default h
  exact rule.sameKeys hptk ⟨rfl, rfl, rfl, rfl, rfl, rfl, rfl⟩

lemma requestNewPtk (h : I sm) : I sm.requestNewPtk := by
  have hptk : I { sm with ptkValid := false, ptk := sm.ptk } := rule.withoutPtk sm.ptk h
  exact rule.sameKeys hptk ⟨rfl, rfl, rfl, rfl, rfl, rfl, rfl⟩

lemma startMachine {rounds : List (Round Pmk)} (hpmks : ∀ r ∈ rounds, r.PmksIn pmks) (h : I sm)
    (hstart : sm.startMachine p rounds = some sm') : I sm' := by
  obtain ⟨sm₁, hstep, rfl⟩ := startMachine_cases hstart
  have hflags : I { sm with started := true, init := true } :=
    rule.sameKeys h ⟨rfl, rfl, rfl, rfl, rfl, rfl, rfl⟩
  exact rule.sameKeys (rule.smStep hpmks hflags hstep) ⟨rfl, rfl, rfl, rfl, rfl, rfl, rfl⟩

lemma eventFlags (event : WpaEvent) (h : I sm) : I (sm.eventFlags event) := by
  refine rule.sameKeys h ?_
  cases event with
  | reauth | reauthEapol =>
    simp only [WpaStateMachine.eventFlags]
    split <;> exact ⟨rfl, rfl, rfl, rfl, rfl, rfl, rfl⟩
  | _ => exact ⟨rfl, rfl, rfl, rfl, rfl, rfl, rfl⟩

lemma eventPtk (event : WpaEvent) (h : I sm) : I (sm.eventPtk event) := by
  unfold WpaStateMachine.eventPtk
  split_ifs
  · exact h
  · exact rule.withoutPtk default h
  · exact rule.removePtk h

lemma smEvent {event : WpaEvent} {rounds₀ rounds : List (Round Pmk)}
    (hpmks₀ : ∀ r ∈ rounds₀, r.PmksIn pmks) (hpmks : ∀ r ∈ rounds, r.PmksIn pmks) (h : I sm)
    (hevent : sm.smEvent p event rounds₀ rounds = some sm') : I sm' := by
  obtain ⟨sm₁, hflags, hstep⟩ := smEvent_cases hevent
  refine rule.smStep hpmks (rule.eventPtk event ?_) hstep
  rcases hflags with hstart | rfl
  · exact rule.startMachine hpmks₀ h hstart
  · exact rule.eventFlags event h

lemma staAssociated {rounds₀ rounds : List (Round Pmk)} (hpmks₀ : ∀ r ∈ rounds₀, r.PmksIn pmks)
    (hpmks : ∀ r ∈ rounds, r.PmksIn pmks) (h : I sm)
    (hassoc : sm.staAssociated p rounds₀ rounds = some sm') : I sm' := by
  rcases staAssociated_cases hassoc with ⟨-, hstep⟩ | ⟨sm₁, hstart, hstep⟩
  · exact rule.smStep hpmks (rule.reassociated h) hstep
  · exact rule.smStep hpmks (rule.startMachine hpmks₀ h hstart) hstep

/-! ## Received frames -/

variable {env : RxEnv Pmk} {key : EapolKey Nonce}

lemma finishReceive (hpmks : env.PmksIn pmks) (h : I sm)
    (hfinish : sm.finishReceive p env key = some sm') : I sm' := by
  rcases finishReceive_cases hfinish with rfl | hstep
  · exact rule.sameKeys h ⟨rfl, rfl, rfl, rfl, rfl, rfl, rfl⟩
  · have hwaiting : I (sm.waiting key) := rule.sameKeys h ⟨rfl, rfl, rfl, rfl, rfl, rfl, rfl⟩
    exact rule.smStep hpmks.rounds hwaiting hstep

lemma receiveReply (hpmks : env.PmksIn pmks) (h : I sm)
    (hreply : sm.receiveReply p env key = some sm') : I sm' := by
  unfold WpaStateMachine.receiveReply at hreply
  dsimp only at hreply
  split at hreply
  · obtain rfl := Option.some.inj hreply
    exact rule.sendSmk env (rule.consumeReplay h)
  · exact rule.finishReceive hpmks (rule.consumeReplay h) hreply

lemma receiveRequest (hpmks : env.PmksIn pmks) (h : I sm)
    (hcounter : sm.reqReplayCounterUsed = true → sm.reqReplayCounter < key.replayCounter)
    (hreceive : sm.receiveRequest p env key = some sm') : I sm' := by
  unfold WpaStateMachine.receiveRequest at hreceive
  split at hreceive
  · obtain rfl := Option.some.inj hreceive
    exact h
  have h₁ : I (sm.acceptRequest key) := rule.acceptRequest h hcounter
  dsimp only at hreceive
  split_ifs at hreceive
  · obtain rfl := Option.some.inj hreceive
    exact rule.sendSmk env h₁
  · obtain rfl := Option.some.inj hreceive
    exact h₁
  · exact rule.finishReceive hpmks (rule.requestNewPtk h₁) hreceive
  · exact rule.finishReceive hpmks (rule.requestNewPtk h₁) hreceive
  · exact rule.finishReceive hpmks (rule.sendSmk env h₁) hreceive
  · exact rule.finishReceive hpmks h₁ hreceive
  · rw [Option.bind_eq_bind, Option.bind_eq_some_iff] at hreceive
    obtain ⟨sm₁, hgroup, hfinish⟩ := hreceive
    exact rule.finishReceive hpmks (rule.groupCalls hpmks.rekeyGtk h₁ hgroup) hfinish

variable [DecidableEq Nonce]

omit [Inhabited Ptk] rule in
/-- A request that passes the check of its replay counter has a greater one than those before. -/
lemma lt_of_checkReplay (hreplay : sm.checkReplay key = some sm') (hrequest : key.request = true) :
    sm' = sm ∧ (sm.reqReplayCounterUsed = true → sm.reqReplayCounter < key.replayCounter) := by
  unfold checkReplay at hreplay
  rw [if_pos hrequest] at hreplay
  split at hreplay
  · exact absurd hreplay (by simp)
  · rename_i hnew
    refine ⟨(Option.some.inj hreplay).symm, fun hused => ?_⟩
    exact BitVec.not_le.mp fun hle => hnew ⟨hused, hle⟩

omit [Inhabited Ptk] [DecidableEq Nonce] rule in
lemma checkMic_reqReplayCounter (p : WpaParams Nonce Pmk Ptk) (sm : WpaStateMachine Nonce Pmk Ptk)
    (env : RxEnv Pmk) (key : EapolKey Nonce) :
    (sm.checkMic p env key).1.reqReplayCounter = sm.reqReplayCounter ∧
      (sm.checkMic p env key).1.reqReplayCounterUsed = sm.reqReplayCounterUsed := by
  rcases checkMic_cases with ⟨hsm, -⟩ | ⟨-, ⟨-, hsm⟩ | ⟨-, _, _, -, -, hsm⟩⟩ <;> rw [hsm] <;>
    exact ⟨rfl, rfl⟩

lemma receive (hpmks : env.PmksIn pmks) (h : I sm) (hreceive : sm.receive p env key = some sm') :
    I sm' := by
  rcases receive_cases hreceive with rfl | ⟨sm₁, hreplay, hmsg⟩
  · exact h
  have h₁ : I sm₁ := by
    rcases checkReplay_cases hreplay with ⟨rfl, -⟩ | ⟨-, -, rfl⟩
    · exact h
    · exact rule.sameKeys h ⟨rfl, rfl, rfl, rfl, rfl, rfl, rfl⟩
  rcases hmsg with rfl | hevent | ⟨-, rfl | ⟨-, hrequest, hrequested⟩ | ⟨-, -, hreply⟩⟩
  · exact h₁
  · exact rule.smEvent (fun r hr => absurd hr List.not_mem_nil) hpmks.rounds h₁ hevent
  · exact rule.checkMic hpmks h₁
  · obtain ⟨rfl, hcounter⟩ := lt_of_checkReplay hreplay hrequest
    obtain ⟨hreq, hused⟩ := checkMic_reqReplayCounter p sm₁ env key
    have h₂ : I (sm₁.checkMic p env key).1 := rule.checkMic hpmks h₁
    refine rule.receiveRequest hpmks h₂ ?_ hrequested
    rw [hreq, hused]
    exact hcounter
  · exact rule.receiveReply hpmks (rule.checkMic hpmks h₁) hreply

/-- Every call keeps the invariant. -/
theorem next {call : WpaCall Nonce Pmk} (hpmks : call.PmksIn pmks) (h : I sm)
    (hnext : WpaStateMachine.next p sm call = some sm') : I sm' := by
  cases call with
  | receive env key => exact rule.receive hpmks h hnext
  | sendEapolTimeout rounds =>
    simp only [WpaStateMachine.next] at hnext
    split at hnext
    · exact absurd hnext (by simp)
    · refine rule.smStep hpmks ?_ hnext
      exact rule.sameKeys h ⟨rfl, rfl, rfl, rfl, rfl, rfl, rfl⟩
  | rekeyPtk rounds =>
    simp only [WpaStateMachine.next] at hnext
    split at hnext
    · exact absurd hnext (by simp)
    · refine rule.smStep hpmks (rule.requestNewPtk ?_) hnext
      exact rule.sameKeys h ⟨rfl, rfl, rfl, rfl, rfl, rfl, rfl⟩
  | smEvent event rounds₀ rounds => exact rule.smEvent hpmks.1 hpmks.2 h hnext
  | staAssociated rounds₀ rounds => exact rule.staAssociated hpmks.1 hpmks.2 h hnext
  | smCallStep rounds => exact rule.smStep hpmks h hnext
  | group step rounds => exact rule.groupCall hpmks h hnext
  | smkSend e =>
    obtain rfl := Option.some.inj hnext
    exact rule.beside h (beside_sendEapolFrame e)
  | validateWpaIe security mgmtFrameProt =>
    obtain rfl := Option.some.inj hnext
    exact rule.sameKeys h ⟨rfl, rfl, rfl, rfl, rfl, rfl, rfl⟩
  | setWnmsleep flag =>
    obtain rfl := Option.some.inj hnext
    exact rule.sameKeys h ⟨rfl, rfl, rfl, rfl, rfl, rfl, rfl⟩

end CallRule

end WpaStateMachine

end Ethanol
