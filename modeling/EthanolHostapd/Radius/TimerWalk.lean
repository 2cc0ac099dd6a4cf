import EthanolHostapd.Radius.RetransmitQueue

/-!
# The timer of the RADIUS client

While `radius_client_timer` walks over the list, a retransmission may take entries out.  The walk goes from
an entry to one behind it, so the current entry and the one before it are in the list in this order, as
long as neither of them is taken out because its identifier is given out again.
-/

namespace Ethanol

namespace RadiusClient

section Walk

variable {crypto : RadiusCrypto} {radius radius' : RadiusClient}

/-- The walk is at an entry of the list that comes after the one before it. -/
def WalkInv (radius : RadiusClient) : Prop :=
  ∀ w ∈ radius.walk, ∀ p ∈ w.entry, (w.prev.toList ++ [p]).Sublist (radius.msgs.map (·.ptr))

lemma live_iff_mem {p : ℕ} : radius.live p ↔ p ∈ radius.msgs.map (·.ptr) := by
  rw [live_iff_exists, List.mem_map]

/-- The entry that follows one comes after it. -/
lemma sublist_successor {l : List MsgEntry} {p q : ℕ} (h : successor p l = some q) :
    [p, q].Sublist (l.map (·.ptr)) := by
  induction l with
  | nil => exact absurd h (by simp [successor])
  | cons entry l ih =>
    rw [successor] at h
    rw [List.map_cons]
    split_ifs at h with hptr
    · obtain ⟨next, hnext, rfl⟩ := Option.map_eq_some_iff.mp h
      rw [hptr]
      exact (List.singleton_sublist.mpr (List.mem_map_of_mem (List.mem_of_mem_head? hnext))).cons_cons p
    · exact (ih h).cons _

/-- If an entry is taken out, the one that follows it comes after the same entries. -/
lemma sublist_erase_successor {l : List MsgEntry} {before : List ℕ} {p q : ℕ} (hnodup : (l.map (·.ptr)).Nodup)
    (hbefore : (before ++ [p]).Sublist (l.map (·.ptr))) (h : successor p l = some q) :
    (before ++ [q]).Sublist ((l.filter fun entry => !decide (entry.ptr = p)).map (·.ptr)) := by
  induction l generalizing before with
  | nil => exact absurd h (by simp [successor])
  | cons entry l ih =>
    rw [List.map_cons, List.nodup_cons] at hnodup
    rw [successor] at h
    rw [List.map_cons] at hbefore
    split_ifs at h with hptr
    · -- the entry is the first one, so nothing comes before it
      subst hptr
      have hfilter : l.filter (fun e => !decide (e.ptr = entry.ptr)) = l :=
        List.filter_eq_self.mpr fun e he => by
          have hne : e.ptr ≠ entry.ptr := fun heq => hnodup.1 (heq ▸ List.mem_map_of_mem he)
          simpa using hne
      obtain ⟨next, hnext, rfl⟩ := Option.map_eq_some_iff.mp h
      have hnil : before = [] := by
        rcases List.sublist_cons_iff.mp hbefore with hsub | ⟨rest, heq, hrest⟩
        · exact absurd (hsub.subset (by simp)) hnodup.1
        · cases before with
          | nil => rfl
          | cons first before =>
            obtain ⟨-, rfl⟩ := List.cons_eq_cons.mp heq
            exact absurd (hrest.subset (by simp)) hnodup.1
      rw [hnil, List.nil_append, List.filter_cons_of_neg (by simp), hfilter]
      exact List.singleton_sublist.mpr (List.mem_map_of_mem (List.mem_of_mem_head? hnext))
    · have hfilter : (entry :: l).filter (fun e => !decide (e.ptr = p)) =
          entry :: l.filter (fun e => !decide (e.ptr = p)) := List.filter_cons_of_pos (by simpa using hptr)
      rw [hfilter, List.map_cons]
      rcases List.sublist_cons_iff.mp hbefore with hsub | ⟨rest, heq, hrest⟩
      · exact (ih hnodup.2 hsub h).cons _
      · cases before with
        | nil => exact absurd (List.cons_eq_cons.mp heq).1.symm hptr
        | cons first before =>
          obtain ⟨rfl, rfl⟩ := List.cons_eq_cons.mp heq
          exact (ih hnodup.2 hrest h).cons_cons _

/-- Two entries that are still in the list are in the same order. -/
lemma sublist_of_mem {l l' before : List ℕ} (hl : l'.Sublist l) (hnodup : l.Nodup) (hbefore : before.Sublist l)
    (hmem : ∀ p ∈ before, p ∈ l') : before.Sublist l' := by
  have hsub : l'.Sublist (l.filter (· ∈ l')) := by
    have hself : l'.filter (· ∈ l') = l' := List.filter_eq_self.mpr fun p hp => by simpa using hp
    rw [← hself]
    exact hl.filter _ |>.trans (by rw [hself])
  have hfilter : l.filter (· ∈ l') = l' := by
    have hle := ((hnodup.filter (· ∈ l')).subperm fun p hp => by simpa using (List.mem_filter.mp hp).2).length_le
    exact (hsub.eq_of_length_le hle).symm
  have hkept : before.filter (· ∈ l') = before := List.filter_eq_self.mpr fun p hp => by simpa using hmem p hp
  rw [← hfilter, ← hkept]
  exact hbefore.filter _

/-! ## One round -/

lemma QueueInv.setWalk (hinv : QueueInv radius) (walk : Option TimerWalk) : QueueInv { radius with walk } :=
  ⟨hinv.ptrs, hinv.ids, hinv.ptr_lt, hinv.hdr, hinv.length_le, hinv.numMsgs_le⟩

variable (crypto) in
lemma QueueInv.retransmitIfDue (hinv : QueueInv radius) {entry : MsgEntry} (hentry : entry ∈ radius.msgs)
    (env : RetransmitEnv) (now : ℤ) :
    Retransmits radius (entry.nextTry ≤ now ∧ radius.Allocates env entry)
      (radius.retransmitIfDue crypto env entry now).2 := by
  rw [RadiusClient.retransmitIfDue]
  split_ifs with hdue
  · simpa [hdue] using hinv.retransmit crypto hentry env now
  · exact (Unlinks.refl radius).retransmits hinv fun h => hdue h.1

lemma mem_of_liveOrNull {q : Option ℕ} (h : radius.liveOrNull q) : ∀ p ∈ q.toList, p ∈ radius.msgs.map (·.ptr) := by
  cases q with
  | none => simp
  | some q => simpa using live_iff_mem.mp h

/-- What one round does to the queue and to the walk. -/
lemma QueueInv.walkEntry (hinv : QueueInv radius) {w : TimerWalk} {entry : MsgEntry} (hentry : entry ∈ radius.msgs)
    (hbefore : (w.prev.toList ++ [entry.ptr]).Sublist (radius.msgs.map (·.ptr))) {env : RetransmitEnv}
    (hnext : radius.walkEntry crypto env w entry = some radius') :
    QueueInv radius' ∧ WalkInv radius' ∧
      (radius'.Counted ↔ radius.Counted ∧ (entry.nextTry ≤ w.now ∧ radius.Allocates env entry → radius.IdFree)) := by
  have hdue := hinv.retransmitIfDue crypto hentry env w.now
  rw [RadiusClient.walkEntry] at hnext
  generalize radius.retransmitIfDue crypto env entry w.now = result at hdue hnext
  obtain ⟨remove, after⟩ := result
  simp only at hdue hnext
  split_ifs at hnext with hremove hlive hnum
  · -- the entry is unlinked
    obtain rfl := Option.some.inj hnext
    obtain ⟨hentryLive, hprevLive⟩ := (Bool.and_eq_true _ _).mp hlive
    have hunlink : Unlinks after (after.unlink fun e => e.ptr = entry.ptr) := unlinks_unlink _
    refine ⟨(hunlink.queueInv hdue.queueInv).setWalk _, ?_, (hunlink.counted_iff hdue.queueInv).trans hdue.counted_iff⟩
    intro w' hw' p hp
    obtain rfl := Option.some.inj hw'
    have hbefore' : (w.prev.toList ++ [entry.ptr]).Sublist (after.msgs.map (·.ptr)) := by
      refine sublist_of_mem hdue.sublist hinv.ptrs hbefore fun q hq => ?_
      rcases List.mem_append.mp hq with hq | hq
      · exact mem_of_liveOrNull hprevLive q hq
      · rw [List.mem_singleton.mp hq]
        exact live_iff_mem.mp hentryLive
    exact sublist_erase_successor hdue.queueInv.ptrs hbefore' hp
  · -- the walk starts again
    obtain rfl := Option.some.inj hnext
    refine ⟨hdue.queueInv.setWalk _, ?_, hdue.counted_iff⟩
    intro w' hw' p hp
    obtain rfl := Option.some.inj hw'
    obtain ⟨head, hhead, rfl⟩ := Option.map_eq_some_iff.mp hp
    exact List.singleton_sublist.mpr (List.mem_map_of_mem (List.mem_of_mem_head? hhead))
  · -- the walk goes on
    obtain rfl := Option.some.inj hnext
    refine ⟨hdue.queueInv.setWalk _, ?_, hdue.counted_iff⟩
    intro w' hw' p hp
    obtain rfl := Option.some.inj hw'
    exact sublist_successor hp

/-- The condition for a step to keep the counter right: no identifier is given out that is pending. -/
def IdOk (radius : RadiusClient) : ClientEvent → Prop
  | .request _ _ => radius.IdFree
  | .walk env => ∀ w ∈ radius.walk, ∀ p ∈ w.entry, ∀ entry ∈ radius.lookup p,
      entry.nextTry ≤ w.now → radius.Allocates env entry → radius.IdFree
  | _ => True

lemma walkInv_of_none (h : radius.walk = none) : WalkInv radius := by
  intro w hw
  rw [h] at hw
  exact absurd hw (by simp)

/-- A function that unlinks entries while the timer does not run. -/
lemma Unlinks.inv (h : Unlinks radius radius') (hinv : QueueInv radius) (hwalk : radius.walk = none) :
    QueueInv radius' ∧ WalkInv radius' ∧ (radius'.Counted ↔ radius.Counted) :=
  ⟨h.queueInv hinv, walkInv_of_none (h.walk.trans hwalk), h.counted_iff hinv⟩

/-- A round of the timer. -/
lemma QueueInv.walkStep (hinv : QueueInv radius) (hwalk : WalkInv radius) {env : RetransmitEnv}
    (hnext : radius.walkStep crypto env = some radius') :
    QueueInv radius' ∧ WalkInv radius' ∧ (radius'.Counted ↔ radius.Counted ∧ radius.IdOk (.walk env)) := by
  obtain ⟨w, hw, hstep⟩ := Option.bind_eq_some_iff.mp hnext
  obtain ⟨p, hp, hround⟩ := Option.bind_eq_some_iff.mp hstep
  obtain ⟨entry, hlookup, hbody⟩ := Option.bind_eq_some_iff.mp hround
  split_ifs at hbody
  obtain ⟨hentry, rfl⟩ := hinv.lookup_eq_some_iff.mp hlookup
  obtain ⟨hinv', hwalk', hcounted⟩ := hinv.walkEntry hentry (hwalk w hw _ hp) hbody
  refine ⟨hinv', hwalk', hcounted.trans (and_congr_right fun _ => ?_)⟩
  simp only [IdOk, hw, hp, hlookup, Option.mem_some_iff, forall_eq', and_imp]

/-- The end of the timer. -/
lemma QueueInv.finishTimer (hinv : QueueInv radius) {authConnected acctConnected : Bool}
    (hnext : radius.finishTimer crypto authConnected acctConnected = some radius') :
    QueueInv radius' ∧ WalkInv radius' ∧ (radius'.Counted ↔ radius.Counted) := by
  obtain ⟨w, hw, hnext⟩ := Option.bind_eq_some_iff.mp hnext
  have hunlinks : Unlinks { radius with walk := none } radius' := by
    split_ifs at hnext
    · obtain rfl := Option.some.inj hnext
      exact (unlinks_failover true authConnected).trans (unlinks_failover false acctConnected)
    · obtain rfl := Option.some.inj hnext
      exact unlinks_failover true authConnected
    · obtain rfl := Option.some.inj hnext
      exact unlinks_failover false acctConnected
    · obtain rfl := Option.some.inj hnext
      exact .refl _
  exact hunlinks.inv (hinv.setWalk none) rfl

/-- A step of the client keeps the queue and the walk in order; it keeps the counter right exactly if the
condition is met. -/
lemma next_inv (hinv : QueueInv radius) (hwalk : WalkInv radius) {event : ClientEvent}
    (hnext : radius.next crypto event = some radius') :
    QueueInv radius' ∧ WalkInv radius' ∧ (radius'.Counted ↔ radius.Counted ∧ radius.IdOk event) := by
  cases hrunning : radius.walk with
  | some w =>
    cases event with
    | walk env => exact hinv.walkStep hwalk (by simpa only [next, hrunning] using hnext)
    | timerEnd authConnected acctConnected =>
      have hfinish : radius.finishTimer crypto authConnected acctConnected = some radius' := by
        simpa only [next, hrunning] using hnext
      simpa only [IdOk, and_true] using hinv.finishTimer hfinish
    | _ =>
      simp only [next, hrunning] at hnext
      exact absurd hnext (by simp)
  | none =>
    cases event with
    | request env req =>
      simp only [next, hrunning] at hnext
      obtain rfl := Option.some.inj hnext
      obtain ⟨hinv', hcounted⟩ := hinv.request crypto env req
      exact ⟨hinv', walkInv_of_none ((walk_request env req).trans hrunning), hcounted⟩
    | timer now =>
      simp only [next, hrunning] at hnext
      obtain rfl := Option.some.inj hnext
      refine ⟨hinv.setWalk _, ?_, by simp only [IdOk, and_true]; rfl⟩
      intro w hw p hp
      obtain ⟨head, hhead, rfl⟩ := Option.map_eq_some_iff.mp hw
      obtain rfl := Option.some.inj hp
      exact List.singleton_sublist.mpr (List.mem_map_of_mem (List.mem_of_mem_head? hhead))
    | walk env =>
      simp only [next, hrunning] at hnext
      exact absurd hnext (by simp)
    | timerEnd authConnected acctConnected =>
      simp only [next, hrunning] at hnext
      exact absurd hnext (by simp)
    | receive handlers msgType datagram =>
      simp only [next, hrunning] at hnext
      obtain rfl := Option.some.inj hnext
      simpa only [IdOk, and_true] using (unlinks_receive handlers msgType datagram).inv hinv hrunning
    | flush onlyAuth =>
      simp only [next, hrunning] at hnext
      obtain rfl := Option.some.inj hnext
      have hflush : Unlinks radius (radius.flush onlyAuth) := unlinks_unlink _
      simpa only [IdOk, and_true] using hflush.inv hinv hrunning
    | flushAuth addr =>
      simp only [next, hrunning] at hnext
      obtain rfl := Option.some.inj hnext
      have hflush : Unlinks radius (radius.flushAuth addr) := unlinks_unlink _
      simpa only [IdOk, and_true] using hflush.inv hinv hrunning
    | retryPrimary auth connected reconnected =>
      simp only [next, hrunning] at hnext
      obtain rfl := Option.some.inj hnext
      simpa only [IdOk, and_true] using (unlinks_retryPrimary auth connected reconnected).inv hinv hrunning
    | reconfig auth acct =>
      simp only [next, hrunning] at hnext
      obtain rfl := Option.some.inj hnext
      simpa only [IdOk, and_true] using (unlinks_reconfig auth acct).inv hinv hrunning

/-! ## Runs of the client -/

variable {auth acct : List (Option Bytes)} {authSock acctSock : Bool} {events : List ClientEvent}

lemma queueInv_init : QueueInv (init auth acct authSock acctSock) where
  ptrs := List.nodup_nil
  ids := List.nodup_nil
  ptr_lt := by simp [init]
  hdr := by simp [init]
  length_le := le_rfl
  numMsgs_le := Nat.zero_le _

/-- The queue and the walk after a run. -/
lemma run_inv (h : Trace.Run (next crypto) (init auth acct authSock acctSock) events radius) :
    QueueInv radius ∧ WalkInv radius := by
  refine h.invariant (I := fun radius => QueueInv radius ∧ WalkInv radius) ⟨queueInv_init, walkInv_of_none rfl⟩ ?_
  intro s₁ event s₂ hs hnext
  obtain ⟨hinv, hwalk, -⟩ := next_inv hs.1 hs.2 hnext
  exact ⟨hinv, hwalk⟩

/-- In every run of the client there are at most `RADIUS_CLIENT_MAX_ENTRIES` pending requests, and their
identifiers are different.  `num_msgs` is their number exactly if no identifier was given out that a
pending request still had. -/
theorem run_queue (h : Trace.Run (next crypto) (init auth acct authSock acctSock) events radius) :
    radius.msgs.length ≤ radiusClientMaxEntries ∧ (radius.msgs.map (·.msg.identifier)).Nodup ∧
      (radius.numMsgs = radius.msgs.length ↔
        Trace.RunWith (next crypto) IdOk (init auth acct authSock acctSock) events radius) := by
  have hinv := (run_inv h).1
  refine ⟨hinv.length_le.trans hinv.numMsgs_le, hinv.ids, ?_⟩
  refine h.iff_runWith (I := Counted) (J := fun radius => QueueInv radius ∧ WalkInv radius) rfl
    ⟨queueInv_init, walkInv_of_none rfl⟩ fun s₁ event s₂ hs hnext => ?_
  obtain ⟨hinv, hwalk, hcounted⟩ := next_inv hs.1 hs.2 hnext
  exact ⟨⟨hinv, hwalk⟩, hcounted⟩

/-! ## Identifiers that wrap around -/

/-- Two functions that are constant. -/
def constantCrypto : RadiusCrypto := .ofFunctions (fun _ => Vector.replicate 16 1) fun _ _ => Vector.replicate 16 1

/-- An Accounting-Request with an `Acct-Delay-Time`. -/
def acctRequest : Request where
  code := 4
  authenticator := RadiusMsg.zeroAuth
  attrs := [⟨radiusAttrAcctDelayTime, [0, 0, 0, 0], by decide⟩]
  msgType := .acct
  addr := Vector.replicate 6 0
  built := true

/-- An Access-Request, for which no server is configured in the examples. -/
def accessRequest : Request := { acctRequest with code := 1, attrs := [], msgType := .auth }

/-- Everything works while a request is sent. -/
def sendOk : SendEnv := ⟨true, .sent, true, 0⟩

/-- A client with an accounting server only. -/
def acctClient : RadiusClient := init [] [some [115]] false true

/-- An accounting request that is not answered while `n` other identifiers are given out. -/
def unanswered (n : ℕ) : List ClientEvent :=
  .request sendOk acctRequest :: List.replicate n (.request sendOk accessRequest)

/-- A request that is pending. -/
theorem run_queue_unanswered :
    ∃ radius, Trace.Run (next constantCrypto) acctClient (unanswered 0) radius ∧ radius.msgs.length = 1 ∧
      (radius.numMsgs = radius.msgs.length ↔
        Trace.RunWith (next constantCrypto) IdOk acctClient (unanswered 0) radius) := by
  have hexec : (Trace.exec (next constantCrypto) acctClient (unanswered 0)).any
      fun radius => radius.msgs.length = 1 := by decide +kernel
  obtain ⟨radius, hrun, hlength⟩ := (Option.any_eq_true _ _).mp hexec
  have h := Trace.run_iff_exec.mpr hrun
  exact ⟨radius, h, of_decide_eq_true hlength, (run_queue h).2.2⟩

/-- The identifier of a pending request is given out again, and `num_msgs` is not changed. -/
theorem unanswered_not_counted :
    ∃ radius, Trace.Run (next constantCrypto) acctClient (unanswered 256) radius ∧
      radius.numMsgs ≠ radius.msgs.length := by
  have hexec : (Trace.exec (next constantCrypto) acctClient (unanswered 256)).any
      fun radius => radius.numMsgs ≠ radius.msgs.length := by decide +kernel
  obtain ⟨radius, hrun, hcount⟩ := (Option.any_eq_true _ _).mp hexec
  exact ⟨radius, Trace.run_iff_exec.mpr hrun, of_decide_eq_true hcount⟩

/-! ## The entries of the walk -/

lemma liveOrNull_iff {q : Option ℕ} : radius.liveOrNull q ↔ ∀ p ∈ q, radius.live p := by
  cases q with
  | none => simp [liveOrNull]
  | some q => simp [liveOrNull]

/-- The entry at `p` is still there after a call that does not change the counter, unless its identifier is
given out. -/
lemma Retransmits.live_iff_ne {allocates : Prop} (h : Retransmits radius allocates radius') (hinv : QueueInv radius)
    (hnum : radius'.numMsgs = radius.numMsgs) {entry : MsgEntry} (hentry : entry ∈ radius.msgs) :
    radius'.live entry.ptr ↔ (allocates → entry.msg.identifier ≠ radius.nextRadiusIdentifier) := by
  rw [h.live_iff hnum]
  constructor
  · rintro ⟨found, hfound, hptr, hne⟩
    obtain rfl := List.inj_on_of_nodup_map hinv.ptrs hfound hentry hptr
    exact hne
  · exact fun hne => ⟨entry, hentry, rfl, hne⟩

/-- A call of `radius_client_retransmit` in a reachable state that returns 0 and does not change `num_msgs`:
the current entry and the one before it are still in the list exactly if the call gives out no identifier,
or one that neither of them has. -/
theorem run_retransmit_live_iff (h : Trace.Run (next crypto) (init auth acct authSock acctSock) events radius)
    {w : TimerWalk} (hw : radius.walk = some w) {entry : MsgEntry} (hp : w.entry = some entry.ptr)
    (hentry : entry ∈ radius.msgs) {env : RetransmitEnv} {after : RadiusClient}
    (hcall : radius.retransmit crypto env entry w.now = (false, after)) (hnum : after.numMsgs = radius.numMsgs) :
    (after.live entry.ptr ∧ after.liveOrNull w.prev) ↔
      (radius.Allocates env entry → entry.msg.identifier ≠ radius.nextRadiusIdentifier ∧
        ∀ prev ∈ radius.msgs, w.prev = some prev.ptr → prev.msg.identifier ≠ radius.nextRadiusIdentifier) := by
  obtain ⟨hinv, hwalk⟩ := run_inv h
  have hretransmits := hinv.retransmit crypto hentry env w.now
  rw [hcall] at hretransmits
  have hbefore := hwalk w hw entry.ptr hp
  have hprev : after.liveOrNull w.prev ↔ ∀ prev ∈ radius.msgs, w.prev = some prev.ptr →
      radius.Allocates env entry → prev.msg.identifier ≠ radius.nextRadiusIdentifier := by
    rw [liveOrNull_iff]
    constructor
    · intro hlive prev hmem hptr
      exact (hretransmits.live_iff_ne hinv hnum hmem).mp (hlive prev.ptr hptr)
    · intro hne p hp
      have hptr : p ∈ radius.msgs.map (·.ptr) := hbefore.subset (by simp [Option.mem_def.mp hp])
      obtain ⟨prev, hmem, rfl⟩ := List.mem_map.mp hptr
      exact (hretransmits.live_iff_ne hinv hnum hmem).mpr (hne prev hmem hp)
  rw [hretransmits.live_iff_ne hinv hnum hentry, hprev]
  constructor
  · exact fun ⟨hself, hprev⟩ hallocates => ⟨hself hallocates, fun prev hmem hptr => hprev prev hmem hptr hallocates⟩
  · exact fun hne => ⟨fun hallocates => (hne hallocates).1, fun prev hmem hptr hallocates => (hne hallocates).2 prev hmem hptr⟩

/-- The environment of a retransmission in which everything works. -/
def retransmitOk : RetransmitEnv := ⟨true, true, .sent⟩

/-- The first entry that the timer comes to while an accounting request is not answered. -/
def timerEntry (n : ℕ) (check : RadiusClient → TimerWalk → MsgEntry → RadiusClient → Bool) : Bool :=
  (Trace.exec (next constantCrypto) acctClient (unanswered n ++ [.timer 3])).any fun radius =>
    radius.walk.any fun w => radius.msgs.any fun entry =>
      let (remove, after) := radius.retransmit constantCrypto retransmitOk entry w.now
      !remove && w.entry = some entry.ptr && after.numMsgs = radius.numMsgs && check radius w entry after

lemma timerEntry_eq_true {n : ℕ} {check : RadiusClient → TimerWalk → MsgEntry → RadiusClient → Bool}
    (h : timerEntry n check) : ∃ radius w entry after,
      Trace.Run (next constantCrypto) acctClient (unanswered n ++ [.timer 3]) radius ∧ radius.walk = some w ∧
        w.entry = some entry.ptr ∧ entry ∈ radius.msgs ∧
        radius.retransmit constantCrypto retransmitOk entry w.now = (false, after) ∧
        after.numMsgs = radius.numMsgs ∧ check radius w entry after := by
  obtain ⟨radius, hexec, h⟩ := (Option.any_eq_true _ _).mp h
  obtain ⟨w, hw, h⟩ := (Option.any_eq_true _ _).mp h
  obtain ⟨entry, hentry, h⟩ := List.any_eq_true.mp h
  simp only [Bool.and_eq_true, Bool.not_eq_true', decide_eq_true_eq] at h
  obtain ⟨⟨⟨hremove, hp⟩, hnum⟩, hcheck⟩ := h
  exact ⟨radius, w, entry, _, Trace.run_iff_exec.mpr hexec, hw, hp, hentry, Prod.ext hremove rfl, hnum, hcheck⟩

theorem run_retransmit_live_iff_unanswered :
    ∃ radius after, Trace.Run (next constantCrypto) acctClient (unanswered 0 ++ [.timer 3]) radius ∧
      ∃ entry ∈ radius.msgs, radius.retransmit constantCrypto retransmitOk entry 3 = (false, after) ∧
        after.live entry.ptr := by
  have hfirst : timerEntry 0 fun radius w entry _ =>
      w.now = 3 && w.prev = none && entry.msg.identifier ≠ radius.nextRadiusIdentifier := by decide +kernel
  obtain ⟨radius, w, entry, after, hrun, hw, hp, hentry, hcall, hnum, hcheck⟩ := timerEntry_eq_true hfirst
  simp only [Bool.and_eq_true, decide_eq_true_eq] at hcheck
  obtain ⟨⟨hnow, hprev⟩, hne⟩ := hcheck
  have hlive := (run_retransmit_live_iff hrun hw hp hentry hcall hnum).mpr fun _ =>
    ⟨hne, fun prev _ hptr => absurd (hprev.symm.trans hptr) (by simp)⟩
  exact ⟨radius, after, hrun, entry, hentry, hnow ▸ hcall, hlive.1⟩

/-- The retransmission of a request gives out the identifier that the request has, and takes it out of the list. -/
theorem unanswered_not_live :
    ∃ radius w entry after, Trace.Run (next constantCrypto) acctClient (unanswered 255 ++ [.timer 3]) radius ∧
      radius.walk = some w ∧ w.entry = some entry.ptr ∧ entry ∈ radius.msgs ∧
      radius.retransmit constantCrypto retransmitOk entry w.now = (false, after) ∧
      after.numMsgs = radius.numMsgs ∧ !after.live entry.ptr := by
  have hfirst : timerEntry 255 fun _ _ entry after => !after.live entry.ptr := by decide +kernel
  exact timerEntry_eq_true hfirst

/-! ## Responses -/

/-- A datagram leaves the pending requests as they are exactly if it is too long, is no message, or has the
identifier of no pending request of its type.  What the handlers find does not matter, since the request
is unlinked before they check the response. -/
theorem receive_keeps_iff (radius : RadiusClient) (handlers : List RadiusRxHandler) (msgType : RadiusType)
    (datagram : Bytes) :
    (radius.receive handlers msgType datagram).1.msgs = radius.msgs ↔
      ∀ msg, datagram.length < 3000 → RadiusMsg.parse datagram = some msg →
        ∀ req ∈ radius.msgs, ¬matchesReq msgType msg.identifier req := by
  cases hmatch : radius.matchResponse msgType datagram with
  | none =>
    have hsame : (radius.receive handlers msgType datagram).1.msgs = radius.msgs := by simp [receive, hmatch]
    refine iff_of_true hsame fun msg hlen hparse req hreq hmatches => ?_
    have hfind : (radius.msgs.find? (matchesReq msgType msg.identifier)).isSome :=
      List.find?_isSome.mpr ⟨req, hreq, hmatches⟩
    obtain ⟨found, hfound⟩ := Option.isSome_iff_exists.mp hfind
    rw [matchResponse_eq_some.mpr ⟨hlen, hparse, hfound⟩] at hmatch
    exact absurd hmatch (by simp)
  | some matched =>
    obtain ⟨msg, req⟩ := matched
    obtain ⟨hlen, hparse, hfind⟩ := matchResponse_eq_some.mp hmatch
    have hmem := List.mem_of_find?_eq_some hfind
    have hmatches := List.find?_some hfind
    have hshorter : (radius.receive handlers msgType datagram).1.msgs.length < radius.msgs.length := by
      have hpos := List.length_pos_of_mem hmem
      simp only [receive, hmatch, List.length_eraseP_of_mem hmem hmatches]
      omega
    refine iff_of_false (fun hsame => ?_) fun hnone => hnone msg hlen hparse req hmem hmatches
    rw [hsame] at hshorter
    exact lt_irrefl _ hshorter

/-- An Accounting-Response with the identifier 0 and an authenticator that is not right. -/
def forgedResponse : Bytes := [5, 0, 0, 20] ++ List.replicate 16 0

/-- The state in which one accounting request is pending. -/
def onePending : RadiusClient := acctClient.request constantCrypto sendOk acctRequest

/-- The handler finds that the authenticator is not right, but the request is not pending any more. -/
theorem forgedResponse_unlinks :
    onePending.msgs.length = 1 ∧
      (onePending.receive [accountingReceive constantCrypto] .acct forgedResponse).2 = false ∧
      (onePending.receive [accountingReceive constantCrypto] .acct forgedResponse).1.msgs.length = 0 := by
  decide +kernel

end Walk

end RadiusClient

end Ethanol
