import EthanolHostapd.Ap.WpaAuth.CallRule
import EthanolHostapd.Utils.Common

/-!
# Replay counters of EAPOL-Key frames

`__wpa_send_eapol` gives each frame the counter after that of the last one and keeps the last few of
them in `key_replay`; `wpa_receive` takes a frame that is no request only if its counter is there, and
then none of them is valid any more.  Requests have counters of their own, that have to grow.

`CountersKept` is the invariant: it ties `key_replay` and `req_replay_counter` to what was sent and
accepted since they were set to zero.
-/

namespace Ethanol

open Wire

/-! ## Counters as bytes -/

/-- The bytes of a replay counter in a frame. -/
def counterBytes (counter : BitVec 64) : List UInt8 := beBytes 8 counter.toNat

/-- `inc_byte_array` adds one to a replay counter. -/
lemma counterBytes_add_one (counter : BitVec 64) :
    counterBytes (counter + 1) = incByteArray (counterBytes counter) := by
  have hsum : (counter + 1).toNat = (counter.toNat + 1) % 256 ^ 8 := by simp
  rw [counterBytes, counterBytes, incByteArray_beBytes, hsum, beBytes_mod]

/-! ## What was sent and accepted -/

variable {Nonce Pmk Ptk : Type}

namespace WpaAct

/-- `key_replay` was cleared. -/
def isReset : WpaAct Nonce Ptk → Bool
  | .reset => true
  | _ => false

/-- No counter in `key_replay` is valid any more. -/
def invalidates : WpaAct Nonce Ptk → Bool
  | .reset | .accepted _ _ => true
  | _ => false

/-- `INITPMK` or `INITPSK` was entered. -/
def isKeyed : WpaAct Nonce Ptk → Bool
  | .keyed => true
  | _ => false

def sentCounter : WpaAct Nonce Ptk → Option (BitVec 64)
  | .sent counter => some counter
  | _ => none

/-- The counter of a frame that was accepted through `key_replay`. -/
def acceptedCounter : WpaAct Nonce Ptk → Option (BitVec 64)
  | .accepted counter true => some counter
  | _ => none

def requestedCounter : WpaAct Nonce Ptk → Option (BitVec 64)
  | .requested counter => some counter
  | _ => none

end WpaAct

namespace WpaStateMachine

/-- The counters of the frames that were sent since `key_replay` was cleared, the last one first. -/
def sentCounters (sm : WpaStateMachine Nonce Pmk Ptk) : List (BitVec 64) :=
  (sm.history.takeWhile fun act => !act.isReset).filterMap WpaAct.sentCounter

/-- Those that were sent since a frame was accepted. -/
def unansweredCounters (sm : WpaStateMachine Nonce Pmk Ptk) : List (BitVec 64) :=
  (sm.history.takeWhile fun act => !act.invalidates).filterMap WpaAct.sentCounter

/-- The counters that were accepted through `key_replay` since it was cleared. -/
def acceptedCounters (sm : WpaStateMachine Nonce Pmk Ptk) : List (BitVec 64) :=
  (sm.history.takeWhile fun act => !act.isReset).filterMap WpaAct.acceptedCounter

/-- The counters of the requests that were accepted since the PMK was set. -/
def requestedCounters (sm : WpaStateMachine Nonce Pmk Ptk) : List (BitVec 64) :=
  (sm.history.takeWhile fun act => !act.isKeyed).filterMap WpaAct.requestedCounter

/-- The counters from `n` down to one. -/
def countdown (n : ℕ) : List (BitVec 64) := (List.range n).reverse.map fun i => BitVec.ofNat 64 (i + 1)

@[simp] lemma length_countdown (n : ℕ) : (countdown n).length = n := by
  simp [countdown]

lemma countdown_succ (n : ℕ) : countdown (n + 1) = BitVec.ofNat 64 (n + 1) :: countdown n := by
  simp [countdown, List.range_succ]

/-- Counters do not come back before there are `2 ^ 64` of them. -/
lemma countdown_descending {n : ℕ} (h : n < 2 ^ 64) : (countdown n).Pairwise fun c d => d < c := by
  have hrange : (List.range n).reverse.Pairwise fun i j => j < i := by
    rw [List.pairwise_reverse]
    exact List.pairwise_lt_range
  refine List.pairwise_map.mpr (hrange.imp_of_mem ?_)
  intro i j hi hj hlt
  have hin : i < n := by simpa using hi
  rw [BitVec.lt_def, BitVec.toNat_ofNat, BitVec.toNat_ofNat, Nat.mod_eq_of_lt (by omega),
    Nat.mod_eq_of_lt (by omega)]
  omega

/-- Each counter is the one before it plus one. -/
lemma countdown_consecutive (n : ℕ) : (countdown n).IsChain fun c d => c = d + 1 := by
  induction n with
  | zero => exact List.isChain_nil
  | succ n ih =>
    rw [countdown_succ]
    cases n with
    | zero => exact List.isChain_singleton _
    | succ n =>
      rw [countdown_succ] at ih ⊢
      refine List.isChain_cons_cons.mpr ⟨?_, ih⟩
      exact BitVec.ofNat_add (n + 1) 1

/-- The invariant: `key_replay` holds the last counters that were sent and not answered, and counters
that were accepted are not among them. -/
structure CountersKept (sm : WpaStateMachine Nonce Pmk Ptk) : Prop where
  length : sm.keyReplay.length = rsnaMaxEapolRetries
  first : firstCounter sm.keyReplay = BitVec.ofNat 64 sm.sentCounters.length
  sent : sm.sentCounters = countdown sm.sentCounters.length
  window : (sm.keyReplay.takeWhile KeyReplayCounter.valid).map KeyReplayCounter.counter =
    sm.unansweredCounters.take rsnaMaxEapolRetries
  accepted : ∀ counter ∈ sm.acceptedCounters, counter ∈ sm.sentCounters
  nodup : sm.sentCounters.length < 2 ^ 64 → (sm.acceptedCounters ++ sm.unansweredCounters).Nodup
  requested : ∀ counter ∈ sm.requestedCounters,
    sm.reqReplayCounterUsed = true ∧ counter ≤ sm.reqReplayCounter
  increasing : sm.requestedCounters.Pairwise fun c d => d < c

variable {sm sm' : WpaStateMachine Nonce Pmk Ptk}

lemma takeWhile_invalidates_prefix (acts : List (WpaAct Nonce Ptk)) :
    acts.takeWhile (fun act => !act.invalidates) <+: acts.takeWhile fun act => !act.isReset := by
  induction acts with
  | nil => exact List.prefix_rfl
  | cons act acts ih =>
    cases act with
    | reset | accepted => exact List.nil_prefix
    | _ => exact (List.prefix_cons_inj _).mpr ih

/-- What was not answered was sent last. -/
lemma unansweredCounters_prefix (sm : WpaStateMachine Nonce Pmk Ptk) :
    sm.unansweredCounters <+: sm.sentCounters :=
  ( takeWhile_invalidates_prefix sm.history).filterMap _

/-! ## Steps -/

namespace CountersKept

/-- Nothing was recorded that has to do with the counters. -/
lemma of_eq (h : sm.CountersKept) (hreplay : sm'.keyReplay = sm.keyReplay)
    (hcounter : sm'.reqReplayCounter = sm.reqReplayCounter)
    (hused : sm'.reqReplayCounterUsed = sm.reqReplayCounterUsed)
    (hsent : sm'.sentCounters = sm.sentCounters)
    (hunanswered : sm'.unansweredCounters = sm.unansweredCounters)
    (haccepted : sm'.acceptedCounters = sm.acceptedCounters)
    (hrequested : sm'.requestedCounters = sm.requestedCounters) : sm'.CountersKept where
  length := by rw [hreplay, h.length]
  first := by rw [hreplay, hsent, h.first]
  sent := by rw [hsent]; exact h.sent
  window := by rw [hreplay, hunanswered, h.window]
  accepted := by rw [haccepted, hsent]; exact h.accepted
  nodup := by rw [haccepted, hsent, hunanswered]; exact h.nodup
  requested := by rw [hrequested, hcounter, hused]; exact h.requested
  increasing := by rw [hrequested]; exact h.increasing

lemma of_history (h : sm.CountersKept) (hreplay : sm'.keyReplay = sm.keyReplay)
    (hcounter : sm'.reqReplayCounter = sm.reqReplayCounter)
    (hused : sm'.reqReplayCounterUsed = sm.reqReplayCounterUsed)
    (hhistory : sm'.history = sm.history) : sm'.CountersKept := by
  refine h.of_eq hreplay hcounter hused ?_ ?_ ?_ ?_
  · rw [sentCounters, sentCounters, hhistory]
  · rw [unansweredCounters, unansweredCounters, hhistory]
  · rw [acceptedCounters, acceptedCounters, hhistory]
  · rw [requestedCounters, requestedCounters, hhistory]

/-- The window after a frame was sent. -/
lemma window_shift {ctr : List KeyReplayCounter} {counters : List (BitVec 64)}
    (h : (ctr.takeWhile KeyReplayCounter.valid).map KeyReplayCounter.counter =
      counters.take rsnaMaxEapolRetries) :
    ((shiftKeyReplay ctr).takeWhile KeyReplayCounter.valid).map KeyReplayCounter.counter =
      ((firstCounter ctr + 1) :: counters).take rsnaMaxEapolRetries := by
  have htake : (ctr.take (rsnaMaxEapolRetries - 1)).takeWhile KeyReplayCounter.valid =
      (ctr.takeWhile KeyReplayCounter.valid).take (rsnaMaxEapolRetries - 1) := by
    rw [List.take_takeWhile]
  have hcons : (shiftKeyReplay ctr).takeWhile KeyReplayCounter.valid =
      ⟨firstCounter ctr + 1, true⟩ ::
        (ctr.takeWhile KeyReplayCounter.valid).take (rsnaMaxEapolRetries - 1) := by
    rw [shiftKeyReplay, List.takeWhile_cons_of_pos rfl, htake]
  rw [hcons, List.map_cons, List.map_take, h, List.take_take]
  rfl

/-- A frame is sent. -/
lemma send (h : sm.CountersKept) (hreplay : sm'.keyReplay = shiftKeyReplay sm.keyReplay)
    (hcounter : sm'.reqReplayCounter = sm.reqReplayCounter)
    (hused : sm'.reqReplayCounterUsed = sm.reqReplayCounterUsed)
    (hhistory : sm'.history = .sent (firstCounter sm.keyReplay + 1) :: sm.history) :
    sm'.CountersKept := by
  have hsent : sm'.sentCounters = (firstCounter sm.keyReplay + 1) :: sm.sentCounters := by
    rw [sentCounters, hhistory]
    rfl
  have hunanswered : sm'.unansweredCounters = (firstCounter sm.keyReplay + 1) :: sm.unansweredCounters := by
    rw [unansweredCounters, hhistory]
    rfl
  have haccepted : sm'.acceptedCounters = sm.acceptedCounters := by
    rw [acceptedCounters, hhistory]
    rfl
  have hrequested : sm'.requestedCounters = sm.requestedCounters := by
    rw [requestedCounters, hhistory]
    rfl
  have hnext : firstCounter sm.keyReplay + 1 = BitVec.ofNat 64 (sm.sentCounters.length + 1) := by
    rw [h.first]
    exact (BitVec.ofNat_add _ 1).symm
  have hcountdown : sm'.sentCounters = countdown (sm.sentCounters.length + 1) := by
    rw [hsent, hnext, countdown_succ, ← h.sent]
  have hlength : sm'.sentCounters.length = sm.sentCounters.length + 1 := by rw [hsent]; rfl
  constructor
  · rw [hreplay, shiftKeyReplay, List.length_cons, List.length_take, h.length]
    rfl
  · rw [hreplay, hlength]
    exact hnext
  · rw [hlength, hcountdown]
  · rw [hreplay, hunanswered]
    exact window_shift h.window
  · intro counter hmem
    rw [haccepted] at hmem
    rw [hsent]
    exact List.mem_cons_of_mem _ (h.accepted counter hmem)
  · intro hbound
    rw [hlength] at hbound
    have hold := h.nodup (by omega)
    -- the new counter is greater than all before it
    have hnew : firstCounter sm.keyReplay + 1 ∉ sm.sentCounters := by
      have hdescending := countdown_descending hbound
      rw [countdown_succ, ← hnext, ← h.sent, List.pairwise_cons] at hdescending
      exact fun hmem => BitVec.lt_irrefl _ (hdescending.1 _ hmem)
    rw [haccepted, hunanswered, List.nodup_append_comm, List.cons_append, List.nodup_cons,
      List.nodup_append_comm]
    refine ⟨fun hmem => hnew ?_, hold⟩
    rcases List.mem_append.mp hmem with hmem | hmem
    · exact ( unansweredCounters_prefix sm).subset hmem
    · exact h.accepted _ hmem
  · rw [hrequested, hcounter, hused]
    exact h.requested
  · rw [hrequested]
    exact h.increasing

lemma sends (h : sm.CountersKept) (hsends : Sends sm sm')
    (hcounter : sm'.reqReplayCounter = sm.reqReplayCounter)
    (hused : sm'.reqReplayCounterUsed = sm.reqReplayCounterUsed) : sm'.CountersKept := by
  rcases hsends with ⟨hreplay, hhistory⟩ | ⟨hreplay, hhistory⟩
  · exact h.of_history hreplay hcounter hused hhistory
  · exact h.send hreplay hcounter hused hhistory

/-- The PMK is set. -/
lemma keyed (h : sm.CountersKept) (hreplay : sm'.keyReplay = sm.keyReplay)
    (hhistory : sm'.history = .keyed :: sm.history) : sm'.CountersKept := by
  have hsent : sm'.sentCounters = sm.sentCounters := by
    rw [sentCounters, hhistory]
    rfl
  have hunanswered : sm'.unansweredCounters = sm.unansweredCounters := by
    rw [unansweredCounters, hhistory]
    rfl
  have haccepted : sm'.acceptedCounters = sm.acceptedCounters := by
    rw [acceptedCounters, hhistory]
    rfl
  have hrequested : sm'.requestedCounters = [] := by
    rw [requestedCounters, hhistory]
    rfl
  constructor
  · rw [hreplay, h.length]
  · rw [hreplay, hsent, h.first]
  · rw [hsent]
    exact h.sent
  · rw [hreplay, hunanswered, h.window]
  · rw [haccepted, hsent]
    exact h.accepted
  · rw [haccepted, hsent, hunanswered]
    exact h.nodup
  · rw [hrequested]
    exact fun _ hmem => absurd hmem List.not_mem_nil
  · rw [hrequested]
    exact List.Pairwise.nil

/-- `key_replay` is cleared. -/
lemma reassociated (h : sm.CountersKept) : sm.reassociated.CountersKept where
  length := rfl
  first := rfl
  sent := rfl
  window := rfl
  accepted _ hmem := absurd hmem List.not_mem_nil
  nodup _ := List.nodup_nil
  requested := h.requested
  increasing := h.increasing

/-- A request is accepted. -/
lemma acceptRequest {key : EapolKey Nonce} (h : sm.CountersKept)
    (hcounter : sm.reqReplayCounterUsed = true → sm.reqReplayCounter < key.replayCounter) :
    (sm.acceptRequest key).CountersKept := by
  have hrequested : (sm.acceptRequest key).requestedCounters =
      key.replayCounter :: sm.requestedCounters := rfl
  have hlt : ∀ counter ∈ sm.requestedCounters, counter < key.replayCounter := by
    intro counter hmem
    obtain ⟨hused, hle⟩ := h.requested counter hmem
    have hgt := hcounter hused
    bv_omega
  constructor
  · exact h.length
  · exact h.first
  · exact h.sent
  · exact h.window
  · exact h.accepted
  · exact h.nodup
  · intro counter hmem
    refine ⟨rfl, ?_⟩
    rw [hrequested, List.mem_cons] at hmem
    rcases hmem with rfl | hmem
    · exact BitVec.le_refl _
    · exact BitVec.le_of_lt (hlt counter hmem)
  · rw [hrequested]
    exact List.pairwise_cons.mpr ⟨hlt, h.increasing⟩

lemma firstCounter_markInvalid (ctr : List KeyReplayCounter) (counter : Option (BitVec 64)) :
    firstCounter (wpaReplayCounterMarkInvalid ctr counter) = firstCounter ctr := by
  cases ctr with
  | nil => rfl
  | cons c ctr =>
    simp only [wpaReplayCounterMarkInvalid, firstCounter, List.map_cons, List.headD_cons]
    split <;> rfl

/-- No counter is valid any more. -/
lemma takeWhile_markInvalid_none (ctr : List KeyReplayCounter) :
    (wpaReplayCounterMarkInvalid ctr none).takeWhile KeyReplayCounter.valid = [] := by
  cases ctr with
  | nil => rfl
  | cons c ctr =>
    rw [wpaReplayCounterMarkInvalid, List.map_cons, List.takeWhile_cons_of_neg]
    cases hvalid : c.valid <;> simp [hvalid]

/-- A counter that is found in `key_replay` has not been answered. -/
lemma mem_unansweredCounters (h : sm.CountersKept) {counter : BitVec 64}
    (hvalid : wpaReplayCounterValid sm.keyReplay counter = true) : counter ∈ sm.unansweredCounters := by
  obtain ⟨c, hmem, hc⟩ := List.any_eq_true.mp hvalid
  have hcounter : c.counter = counter := by simpa using hc
  have hwindow := List.mem_map_of_mem (f := KeyReplayCounter.counter) hmem
  rw [h.window, hcounter] at hwindow
  exact List.mem_of_mem_take hwindow

/-- A frame that is no request is accepted. -/
lemma consumeReplay {key : EapolKey Nonce} (h : sm.CountersKept) :
    (sm.consumeReplay key).CountersKept := by
  have hsent : (sm.consumeReplay key).sentCounters = sm.sentCounters := rfl
  have hunanswered : (sm.consumeReplay key).unansweredCounters = [] := rfl
  -- the counter is new to the accepted ones if it was found in `key_replay`
  have haccepted : (sm.consumeReplay key).acceptedCounters = sm.acceptedCounters ∨
      ((sm.consumeReplay key).acceptedCounters = key.replayCounter :: sm.acceptedCounters ∧
        key.replayCounter ∈ sm.unansweredCounters) := by
    have hcons : (sm.consumeReplay key).acceptedCounters =
        (WpaAct.acceptedCounter (.accepted key.replayCounter
          (wpaReplayCounterValid sm.keyReplay key.replayCounter) : WpaAct Nonce Ptk)).toList ++
            sm.acceptedCounters := by
      rw [acceptedCounters, WpaStateMachine.consumeReplay]
      dsimp only
      rw [List.takeWhile_cons_of_pos rfl, List.filterMap_cons]
      cases wpaReplayCounterValid sm.keyReplay key.replayCounter <;> rfl
    cases hvalid : wpaReplayCounterValid sm.keyReplay key.replayCounter with
    | false => exact Or.inl (by rw [hcons, hvalid]; rfl)
    | true => exact Or.inr ⟨by rw [hcons, hvalid]; rfl, h.mem_unansweredCounters hvalid⟩
  constructor
  · simp only [WpaStateMachine.consumeReplay, wpaReplayCounterMarkInvalid, List.length_map]
    exact h.length
  · rw [hsent, ← h.first]
    simp only [WpaStateMachine.consumeReplay, firstCounter_markInvalid]
  · exact h.sent
  · rw [hunanswered]
    simp only [WpaStateMachine.consumeReplay, takeWhile_markInvalid_none]
    rfl
  · intro counter hmem
    rw [hsent]
    rcases haccepted with heq | ⟨heq, hunans⟩ <;> rw [heq] at hmem
    · exact h.accepted counter hmem
    · rcases List.mem_cons.mp hmem with rfl | hmem
      · exact ( unansweredCounters_prefix sm).subset hunans
      · exact h.accepted counter hmem
  · intro hbound
    have hold := h.nodup hbound
    rw [hunanswered, List.append_nil]
    rcases haccepted with heq | ⟨heq, hunans⟩ <;> rw [heq]
    · exact hold.of_append_left
    · refine List.nodup_cons.mpr ⟨fun hmem => ?_, hold.of_append_left⟩
      exact (List.nodup_append.mp hold).2.2 _ hmem _ hunans rfl
  · exact h.requested
  · exact h.increasing

/-! ## Calls -/

variable [Inhabited Ptk] {p : WpaParams Nonce Pmk Ptk} {r : Round Pmk}

lemma transition (h : sm.CountersKept) (htransition : PtkTransition p r sm sm') : sm'.CountersKept := by
  cases htransition with
  | stay => exact h
  | initializing | disconnect | disconnected | authentication | ptkCalcNegotiating2 =>
    exact h.of_history rfl rfl rfl rfl
  | authentication2 =>
    rw [ptkAuthentication2_eq]
    exact h.of_history rfl rfl rfl rfl
  | initPmk =>
    rw [ptkInitPmk_eq]
    exact h.keyed rfl rfl
  | initPsk => exact h.keyed rfl rfl
  | ptkStart =>
    refine h.sends sends_ptkPtkStart ?_ ?_ <;> rw [ptkPtkStart_eq]
  | ptkCalcNegotiating _ _ enter =>
    rcases ptkPtkCalcNegotiating_cases enter with rfl | ⟨frame, pmk, -, -, -, rfl⟩
    · exact h.of_history rfl rfl rfl rfl
    · exact h.of_eq rfl rfl rfl rfl rfl rfl rfl
  | ptkInitNegotiating =>
    refine h.sends sends_ptkPtkInitNegotiating ?_ ?_ <;> rw [ptkPtkInitNegotiating_eq]
  | ptkInitDone =>
    rw [ptkPtkInitDone_eq]
    exact h.of_eq rfl rfl rfl rfl rfl rfl rfl

omit [Inhabited Ptk] in
lemma checkMic {env : RxEnv Pmk} {key : EapolKey Nonce} (h : sm.CountersKept) :
    (sm.checkMic p env key).1.CountersKept := by
  rcases checkMic_cases with ⟨hsm, -⟩ | ⟨-, ⟨-, hsm⟩ | ⟨-, _, _, -, -, hsm⟩⟩ <;> rw [hsm] <;>
    exact h.of_history rfl rfl rfl rfl

/-- Every call keeps the counters. -/
lemma callRule (p : WpaParams Nonce Pmk Ptk) : CallRule p Set.univ CountersKept where
  beside h hbeside := h.sends hbeside.sends hbeside.reqReplayCounter hbeside.reqReplayCounterUsed
  transition _ h htransition := h.transition htransition
  sameKeys h hsame :=
    h.of_history hsame.keyReplay hsame.reqReplayCounter hsame.reqReplayCounterUsed hsame.history
  withoutPtk _ h := h.of_history rfl rfl rfl rfl
  reassociated h := h.reassociated
  checkMic _ h := h.checkMic
  acceptRequest h hcounter := h.acceptRequest hcounter
  consumeReplay h := h.consumeReplay

end CountersKept

lemma staInit_countersKept [Inhabited Nonce] [Inhabited Pmk] [Inhabited Ptk] (security : StaSecurity)
    (mgmtFrameProt : Bool) :
    (staInit security mgmtFrameProt : WpaStateMachine Nonce Pmk Ptk).CountersKept where
  length := rfl
  first := rfl
  sent := rfl
  window := rfl
  accepted _ hmem := absurd hmem List.not_mem_nil
  nodup _ := List.nodup_nil
  requested _ hmem := absurd hmem List.not_mem_nil
  increasing := List.Pairwise.nil

/-- What the counters are for.  The lists have the latest counter first; those of frames that were sent
or accepted through `key_replay` begin anew when it is cleared. -/
structure ReplayProtected (sm : WpaStateMachine Nonce Pmk Ptk) : Prop where
  /-- The bytes of a counter are those of the one before it after `inc_byte_array`. -/
  consecutive : sm.sentCounters.IsChain fun later earlier =>
    later = earlier + 1 ∧ counterBytes later = incByteArray (counterBytes earlier)
  first : ∀ counter ∈ sm.sentCounters.getLast?, counter = 1
  /-- `key_replay` holds the last counters that were not answered. -/
  window : (sm.keyReplay.takeWhile KeyReplayCounter.valid).map KeyReplayCounter.counter =
    sm.unansweredCounters.take rsnaMaxEapolRetries
  descending : sm.sentCounters.length < 2 ^ 64 →
    (sm.keyReplay.takeWhile KeyReplayCounter.valid).Pairwise fun c d => d.counter < c.counter
  /-- A counter is accepted through `key_replay` once. -/
  once : sm.sentCounters.length < 2 ^ 64 → sm.acceptedCounters.Nodup
  requests : sm.requestedCounters.Pairwise fun later earlier => earlier < later

lemma CountersKept.replayProtected (h : sm.CountersKept) : sm.ReplayProtected where
  consecutive := by
    rw [h.sent]
    refine (countdown_consecutive _).imp ?_
    rintro _ earlier rfl
    exact ⟨rfl, counterBytes_add_one earlier⟩
  first := by
    rw [h.sent]
    intro counter hlast
    cases hlength : sm.sentCounters.length with
    | zero =>
      rw [hlength] at hlast
      exact absurd hlast (by simp [countdown])
    | succ n =>
      rw [hlength, countdown, List.getLast?_map, List.getLast?_reverse, List.range_succ_eq_map] at hlast
      obtain rfl : 1#64 = counter := by simpa using hlast
      rfl
  window := h.window
  descending hbound := by
    have hsent := countdown_descending hbound
    rw [← h.sent] at hsent
    rw [← List.pairwise_map (f := KeyReplayCounter.counter) (R := fun c d => d < c), h.window]
    exact hsent.sublist ((List.take_sublist _ _).trans ( unansweredCounters_prefix sm).sublist)
  once hbound := (h.nodup hbound).of_append_left
  requests := h.increasing

variable [DecidableEq Nonce] [Inhabited Nonce] [Inhabited Pmk] [Inhabited Ptk]

/-- In every run of a station's authenticator frames are sent with consecutive counters, `key_replay`
holds the last of them that were not answered, none of them is accepted twice, and the counters of
requests grow until the PMK is set anew. -/
theorem run_replayProtected {p : WpaParams Nonce Pmk Ptk} {security : StaSecurity} {mgmtFrameProt : Bool}
    {calls : List (WpaCall Nonce Pmk)}
    (h : Trace.Run (next p) (staInit security mgmtFrameProt) calls sm) : sm.ReplayProtected := by
  have hkept : sm.CountersKept := by
    refine h.invariant (staInit_countersKept security mgmtFrameProt) ?_
    intro sm₁ call sm₂ h₁ hnext
    exact (CountersKept.callRule p).next call.pmksIn_univ h₁ hnext
  exact hkept.replayProtected

/-- A handshake in which 1/4 is sent twice, and the station answers the second one. -/
theorem run_replayProtected_retransmission :
    ∃ sm, Trace.Run (next plainParams) (staInit plainSecurity false)
        [.staAssociated plainRounds plainRounds, .sendEapolTimeout plainRounds,
          plainReceive (plainFrame 2 20 [7, 20] [1])] sm ∧
      sm.sentCounters = [3, 2, 1] ∧ sm.acceptedCounters = [2] ∧ sm.unansweredCounters = [3] ∧
      sm.ReplayProtected := by
  have h : (Trace.exec (next plainParams) (staInit plainSecurity false)
      [.staAssociated plainRounds plainRounds, .sendEapolTimeout plainRounds,
        plainReceive (plainFrame 2 20 [7, 20] [1])]).map
      (fun sm => (sm.sentCounters, sm.acceptedCounters, sm.unansweredCounters)) =
        some ([3, 2, 1], [2], [3]) := by decide +kernel
  obtain ⟨sm, hexec, hsm⟩ := Option.map_eq_some_iff.mp h
  simp only [Prod.mk.injEq] at hsm
  have hrun := Trace.run_iff_exec.mpr hexec
  exact ⟨sm, hrun, hsm.1, hsm.2.1, hsm.2.2, run_replayProtected hrun⟩

end WpaStateMachine

end Ethanol
