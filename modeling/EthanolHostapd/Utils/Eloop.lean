import EthanolHostapd.Containers.KeyedList
import EthanolHostapd.Containers.SortedQueue
import EthanolHostapd.Traces.Run
import EthanolHostapd.Utils.Os
import Mathlib.Data.Int.DivMod

/-!
# The timeouts of the event loop

`utils/eloop.c`.  A timeout is registered for a time and waits in a list that is sorted by time; the
loop takes the first one out when its time has come and calls its handler.  Handlers register and cancel
timeouts themselves, so a run is any sequence of these calls and of dispatches.

Each registration has a number, which the code does not have, and the numbers of the timeouts that ran
and of those that were cancelled are kept.  The clock is read once in each call.
-/

namespace Ethanol

/-- The value of an `os_time_t`, which has 64 bits. -/
def osTimeT (x : ℤ) : ℤ := x.bmod (2 ^ 64)

/-- `ELOOP_ALL_CTX`. -/
def eloopAllCtx : UInt64 := 0 - 1

/-- The handler and the data of a timeout. -/
structure TimeoutKey where
  handler : UInt64
  eloopData : UInt64
  userData : UInt64
deriving DecidableEq

/-- `struct eloop_timeout`. -/
structure EloopTimeout where
  time : OsReltime
  key : TimeoutKey
  /-- The number of the registration. -/
  seq : ℕ
deriving DecidableEq

/-- The timeouts in `struct eloop_data`. -/
structure Eloop where
  timeout : List EloopTimeout
  /-- How many timeouts have been registered. -/
  registered : ℕ
  /-- The timeouts whose handlers were called, and those that were cancelled. -/
  ran : List ℕ
  cancelled : List ℕ
  /-- The latest reading of the clock. -/
  clock : OsReltime
deriving DecidableEq

/-- Whether `os_zalloc` and `os_get_reltime` succeed. -/
structure TimeoutEnv where
  zalloc : Bool
  reltime : Bool

namespace Eloop

/-- The loop at the start. -/
def init (start : ClockTime) : Eloop := ⟨[], 0, [], [], start.toOsReltime⟩

/-- The time of a timeout, unless it is too far away. -/
def timeoutTime (now : OsReltime) (secs usecs : UInt32) : Option OsReltime :=
  let sec := osTimeT (now.sec + secs.toNat)
  let usec := now.usec + usecs.toNat
  if sec < now.sec then none else some ⟨osTimeT (sec + usec / 1000000), usec % 1000000⟩

/-- The timeout is linked before the first one that is later. -/
def insertTimeout (eloop : Eloop) (time : OsReltime) (key : TimeoutKey) : Eloop :=
  { eloop with
    timeout := eloop.timeout.orderedInsert (fun x y => x.time.before y.time) ⟨time, key, eloop.registered⟩
    registered := eloop.registered + 1 }

/-- `eloop_register_timeout`. -/
def registerTimeout (eloop : Eloop) (now : OsReltime) (secs usecs : UInt32) (key : TimeoutKey)
    (env : TimeoutEnv) : Eloop × ℤ :=
  if env.zalloc && env.reltime then
    match timeoutTime now secs usecs with
    | none => (eloop, 0)
    | some time => (eloop.insertTimeout time key, 0)
  else (eloop, -1)

/-- The timeouts that `eloop_cancel_timeout` removes. -/
def cancels (key : TimeoutKey) (timeout : EloopTimeout) : Bool :=
  timeout.key.handler = key.handler &&
    (timeout.key.eloopData = key.eloopData || key.eloopData = eloopAllCtx) &&
    (timeout.key.userData = key.userData || key.userData = eloopAllCtx)

/-- `eloop_cancel_timeout`. -/
def cancelTimeout (eloop : Eloop) (key : TimeoutKey) : Eloop × ℤ :=
  let removed := eloop.timeout.filter (cancels key)
  ({ eloop with
    timeout := eloop.timeout.filter fun timeout => !cancels key timeout
    cancelled := eloop.cancelled ++ removed.map EloopTimeout.seq }, removed.length)

/-- `eloop_cancel_timeout_one`; the remaining time is the last result. -/
def cancelTimeoutOne (eloop : Eloop) (now : OsReltime) (key : TimeoutKey) : Eloop × ℤ × OsReltime :=
  match KeyedList.find EloopTimeout.key key eloop.timeout with
  | none => (eloop, 0, ⟨0, 0⟩)
  | some timeout =>
    ({ eloop with
      timeout := KeyedList.remove EloopTimeout.key key eloop.timeout
      cancelled := eloop.cancelled ++ [timeout.seq] }, 1,
      if now.before timeout.time then timeout.time.sub now else ⟨0, 0⟩)

/-- `eloop_deplete_timeout` and `eloop_replenish_timeout`: the timeout is registered again if the
requested and the remaining time meet a test. -/
def adjustTimeout (test : OsReltime → OsReltime → Bool) (eloop : Eloop) (now : OsReltime)
    (reqSecs reqUsecs : UInt32) (key : TimeoutKey) (env : TimeoutEnv) : Eloop × ℤ :=
  match KeyedList.find EloopTimeout.key key eloop.timeout with
  | none => (eloop, -1)
  | some timeout =>
    if test ⟨reqSecs.toNat, reqUsecs.toNat⟩ (timeout.time.sub now) then
      (((eloop.cancelTimeout key).1.registerTimeout now reqSecs reqUsecs key env).1, 1)
    else (eloop, 0)

/-- `eloop_deplete_timeout`. -/
def depleteTimeout : Eloop → OsReltime → UInt32 → UInt32 → TimeoutKey → TimeoutEnv → Eloop × ℤ :=
  adjustTimeout fun requested remaining => requested.before remaining

/-- `eloop_replenish_timeout`. -/
def replenishTimeout : Eloop → OsReltime → UInt32 → UInt32 → TimeoutKey → TimeoutEnv → Eloop × ℤ :=
  adjustTimeout fun requested remaining => remaining.before requested

/-- The timeouts in a round of `eloop_run`: the first one is removed and runs if its time has come. -/
def dispatch (eloop : Eloop) (now : OsReltime) : Eloop :=
  match eloop.timeout with
  | [] => eloop
  | timeout :: rest =>
    if now.before timeout.time then eloop
    else { eloop with timeout := rest, ran := eloop.ran ++ [timeout.seq] }

end Eloop

/-- A call, or a round of the loop. -/
inductive EloopCall
  | registerTimeout (secs usecs : UInt32) (key : TimeoutKey) (env : TimeoutEnv)
  | cancelTimeout (key : TimeoutKey)
  | cancelTimeoutOne (key : TimeoutKey)
  | depleteTimeout (reqSecs reqUsecs : UInt32) (key : TimeoutKey) (env : TimeoutEnv)
  | replenishTimeout (reqSecs reqUsecs : UInt32) (key : TimeoutKey) (env : TimeoutEnv)
  | dispatch

namespace Eloop

/-- What a call does at a given time. -/
def call (eloop : Eloop) (now : OsReltime) : EloopCall → Eloop
  | .registerTimeout secs usecs key env => (eloop.registerTimeout now secs usecs key env).1
  | .cancelTimeout key => (eloop.cancelTimeout key).1
  | .cancelTimeoutOne key => (eloop.cancelTimeoutOne now key).1
  | .depleteTimeout reqSecs reqUsecs key env => (eloop.depleteTimeout now reqSecs reqUsecs key env).1
  | .replenishTimeout reqSecs reqUsecs key env => (eloop.replenishTimeout now reqSecs reqUsecs key env).1
  | .dispatch => eloop.dispatch now

/-- The loop after a call.  The clock does not go back. -/
def next (eloop : Eloop) (e : ClockTime × EloopCall) : Option Eloop :=
  if e.1.before eloop.clock then none
  else some ({ eloop with clock := e.1.toOsReltime }.call e.1.toOsReltime e.2)

/-! ## What the list should be -/

/-- Timeouts are sorted by time, and by their registration if they are for the same time. -/
def Ordered (eloop : Eloop) : Prop :=
  eloop.timeout.Pairwise fun x y => x.time.toUsec < y.time.toUsec ∨
    (x.time.toUsec = y.time.toUsec ∧ x.seq < y.seq)

/-- The timeouts that wait, ran or were cancelled are different ones, each of them registered. -/
structure Accounted (eloop : Eloop) : Prop where
  nodup : (eloop.timeout.map EloopTimeout.seq ++ eloop.ran ++ eloop.cancelled).Nodup
  registered : ∀ seq ∈ eloop.timeout.map EloopTimeout.seq ++ eloop.ran ++ eloop.cancelled,
    seq < eloop.registered

/-- The invariant of the loop. -/
structure Sound (eloop : Eloop) : Prop where
  normalized : ∀ timeout ∈ eloop.timeout, timeout.time.Normalized
  ordered : eloop.Ordered
  accounted : eloop.Accounted

section Calls

variable {eloop eloop' : Eloop} {now time : OsReltime} {key : TimeoutKey} {secs usecs : UInt32}
  {env : TimeoutEnv}

/-- All timeouts that were ever registered, in some order. -/
def seqs (eloop : Eloop) : List ℕ := eloop.timeout.map EloopTimeout.seq ++ eloop.ran ++ eloop.cancelled

/-- Timeouts change between waiting, having run and being cancelled. -/
lemma Accounted.of_perm (h : eloop.Accounted) (hperm : eloop'.seqs.Perm eloop.seqs)
    (hregistered : eloop'.registered = eloop.registered) : eloop'.Accounted where
  nodup := hperm.nodup_iff.mpr h.nodup
  registered := by
    intro seq hseq
    rw [hregistered]
    exact h.registered seq (hperm.mem_iff.mp hseq)

/-- What is left of the list is in order. -/
lemma Sound.of_sublist (h : eloop.Sound) (hsub : eloop'.timeout.Sublist eloop.timeout)
    (hperm : eloop'.seqs.Perm eloop.seqs) (hregistered : eloop'.registered = eloop.registered) :
    eloop'.Sound where
  normalized := fun timeout htimeout => h.normalized timeout (hsub.subset htimeout)
  ordered := h.ordered.sublist hsub
  accounted := h.accounted.of_perm hperm hregistered

lemma normalized_of_timeoutTime (h : timeoutTime now secs usecs = some time) : time.Normalized := by
  simp only [timeoutTime] at h
  split_ifs at h
  obtain rfl := Option.some.inj h
  exact ⟨Int.emod_nonneg _ (by decide), Int.emod_lt_of_pos _ (by decide)⟩

lemma Sound.insertTimeout (h : eloop.Sound) (htime : time.Normalized) :
    (eloop.insertTimeout time key).Sound := by
  have hperm := List.perm_orderedInsert (fun x y : EloopTimeout => x.time.before y.time = true)
    ⟨time, key, eloop.registered⟩ eloop.timeout
  have hold : ∀ timeout ∈ eloop.timeout, timeout.seq < eloop.registered := by
    intro timeout htimeout
    refine h.accounted.registered timeout.seq ?_
    simp only [List.mem_append]
    exact Or.inl (Or.inl (List.mem_map_of_mem htimeout))
  constructor
  case normalized =>
    intro timeout htimeout
    rcases List.mem_cons.mp (hperm.mem_iff.mp htimeout) with rfl | htimeout
    · exact htime
    · exact h.normalized timeout htimeout
  case ordered =>
    refine SortedQueue.pairwise_insert h.ordered ?_ ?_ ?_
    · intro y hy hbefore
      exact Or.inl ((OsReltime.before_iff htime (h.normalized y hy)).mp hbefore)
    · -- a timeout for the same time was registered before
      intro y hy hbefore
      rw [OsReltime.before_iff htime (h.normalized y hy), not_lt] at hbefore
      rcases hbefore.lt_or_eq with hlt | heq
      · exact Or.inl hlt
      · exact Or.inr ⟨heq, hold y hy⟩
    · intro y hy z hz hbefore hyz
      rw [OsReltime.before_iff htime (h.normalized y hy)] at hbefore
      rw [OsReltime.before_iff htime (h.normalized z hz)]
      rcases hyz with hlt | ⟨heq, -⟩
      · exact hbefore.trans hlt
      · exact heq ▸ hbefore
  case accounted =>
    have hseqs : (eloop.insertTimeout time key).seqs.Perm (eloop.registered :: eloop.seqs) :=
      ((hperm.map EloopTimeout.seq).append_right eloop.ran).append_right eloop.cancelled
    constructor
    case nodup =>
      refine hseqs.nodup_iff.mpr (List.nodup_cons.mpr ⟨fun hmem => ?_, h.accounted.nodup⟩)
      exact lt_irrefl _ (h.accounted.registered _ hmem)
    case registered =>
      intro seq hseq
      rcases List.mem_cons.mp (hseqs.mem_iff.mp hseq) with rfl | hseq
      · exact Nat.lt_succ_self _
      · exact Nat.lt_succ_of_lt (h.accounted.registered seq hseq)

lemma Sound.registerTimeout (h : eloop.Sound) : (eloop.registerTimeout now secs usecs key env).1.Sound := by
  unfold Eloop.registerTimeout
  split
  · split
    · exact h
    · rename_i time htime
      exact h.insertTimeout (normalized_of_timeoutTime htime)
  · exact h

/-- Some timeouts are cancelled and the others are kept. -/
lemma seqs_cancel_perm {kept gone : List EloopTimeout} (h : eloop.timeout.Perm (gone ++ kept)) :
    (kept.map EloopTimeout.seq ++ eloop.ran ++ (eloop.cancelled ++ gone.map EloopTimeout.seq)).Perm
      eloop.seqs := by
  refine List.perm_iff_count.mpr fun seq => ?_
  have hcount := (h.map EloopTimeout.seq).count_eq seq
  simp only [seqs, List.map_append, List.count_append] at hcount ⊢
  omega

lemma Sound.cancelTimeout (h : eloop.Sound) : (eloop.cancelTimeout key).1.Sound := by
  refine h.of_sublist List.filter_sublist ?_ rfl
  exact seqs_cancel_perm (List.filter_append_perm (cancels key) eloop.timeout).symm

lemma Sound.cancelTimeoutOne (h : eloop.Sound) : (eloop.cancelTimeoutOne now key).1.Sound := by
  unfold Eloop.cancelTimeoutOne
  split
  · exact h
  · rename_i timeout hfind
    refine h.of_sublist (KeyedList.remove_sublist _ _) ?_ rfl
    have hperm : eloop.timeout.Perm
        ([timeout] ++ KeyedList.remove EloopTimeout.key key eloop.timeout) := KeyedList.perm_remove hfind
    exact seqs_cancel_perm hperm

lemma Sound.adjustTimeout (h : eloop.Sound) (test : OsReltime → OsReltime → Bool) :
    (eloop.adjustTimeout test now secs usecs key env).1.Sound := by
  unfold Eloop.adjustTimeout
  split
  · exact h
  · split_ifs
    · exact h.cancelTimeout.registerTimeout
    · exact h

/-- What a round of the loop does with the first timeout. -/
lemma dispatch_cases (eloop : Eloop) (now : OsReltime) :
    eloop.dispatch now = eloop ∨ ∃ timeout rest, eloop.timeout = timeout :: rest ∧
      now.before timeout.time = false ∧
      eloop.dispatch now = { eloop with timeout := rest, ran := eloop.ran ++ [timeout.seq] } := by
  unfold dispatch
  split
  · exact Or.inl rfl
  · rename_i timeout rest hlist
    split_ifs with hbefore
    · exact Or.inl rfl
    · exact Or.inr ⟨timeout, rest, hlist, by simpa using hbefore, rfl⟩

lemma Sound.dispatch (h : eloop.Sound) : (eloop.dispatch now).Sound := by
  rcases dispatch_cases eloop now with heq | ⟨timeout, rest, hlist, -, heq⟩
  · rwa [heq]
  · rw [heq]
    refine h.of_sublist (by rw [hlist]; exact List.sublist_cons_self timeout rest) ?_ rfl
    refine List.perm_iff_count.mpr fun seq => ?_
    simp only [seqs, hlist, List.map_cons, List.count_append, List.count_cons, List.count_nil]
    omega

lemma Sound.call (h : eloop.Sound) (c : EloopCall) : (eloop.call now c).Sound := by
  cases c with
  | registerTimeout secs usecs key env => exact h.registerTimeout
  | cancelTimeout key => exact h.cancelTimeout
  | cancelTimeoutOne key => exact h.cancelTimeoutOne
  | depleteTimeout secs usecs key env => exact h.adjustTimeout _
  | replenishTimeout secs usecs key env => exact h.adjustTimeout _
  | dispatch => exact h.dispatch

/-- Registering a timeout neither runs nor cancels one. -/
lemma registerTimeout_history :
    (eloop.registerTimeout now secs usecs key env).1.ran = eloop.ran ∧
      (eloop.registerTimeout now secs usecs key env).1.cancelled = eloop.cancelled := by
  unfold Eloop.registerTimeout
  split
  · split <;> exact ⟨rfl, rfl⟩
  · exact ⟨rfl, rfl⟩

lemma adjustTimeout_history (test : OsReltime → OsReltime → Bool) :
    (eloop.adjustTimeout test now secs usecs key env).1.ran = eloop.ran ∧
      eloop.cancelled <+: (eloop.adjustTimeout test now secs usecs key env).1.cancelled := by
  unfold Eloop.adjustTimeout
  split
  · exact ⟨rfl, List.prefix_rfl⟩
  · split_ifs
    · refine ⟨registerTimeout_history.1, ?_⟩
      rw [registerTimeout_history.2]
      exact List.prefix_append _ _
    · exact ⟨rfl, List.prefix_rfl⟩

/-- Only the loop calls handlers, and what was cancelled stays so. -/
lemma call_history (eloop : Eloop) (now : OsReltime) (c : EloopCall) :
    (c ≠ .dispatch → (eloop.call now c).ran = eloop.ran) ∧
      eloop.cancelled <+: (eloop.call now c).cancelled := by
  cases c with
  | registerTimeout secs usecs key env =>
    refine ⟨fun _ => registerTimeout_history.1, ?_⟩
    have hsame : (eloop.call now (.registerTimeout secs usecs key env)).cancelled = eloop.cancelled :=
      registerTimeout_history.2
    exact hsame ▸ List.prefix_rfl
  | cancelTimeout key => exact ⟨fun _ => rfl, List.prefix_append _ _⟩
  | cancelTimeoutOne key =>
    simp only [Eloop.call, Eloop.cancelTimeoutOne]
    split
    · exact ⟨fun _ => rfl, List.prefix_rfl⟩
    · exact ⟨fun _ => rfl, List.prefix_append _ _⟩
  | depleteTimeout secs usecs key env =>
    exact ⟨fun _ => (adjustTimeout_history _).1, (adjustTimeout_history _).2⟩
  | replenishTimeout secs usecs key env =>
    exact ⟨fun _ => (adjustTimeout_history _).1, (adjustTimeout_history _).2⟩
  | dispatch =>
    refine ⟨fun hc => absurd rfl hc, ?_⟩
    rcases dispatch_cases eloop now with heq | ⟨timeout, rest, -, -, heq⟩
    · have hsame : (eloop.call now .dispatch).cancelled = eloop.cancelled := congrArg Eloop.cancelled heq
      exact hsame ▸ List.prefix_rfl
    · have hsame : (eloop.call now .dispatch).cancelled = eloop.cancelled := by rw [Eloop.call, heq]
      exact hsame ▸ List.prefix_rfl

end Calls

/-! ## Depleting and replenishing -/

/-- The timeouts with a handler and data. -/
def matching (eloop : Eloop) (key : TimeoutKey) : List EloopTimeout := eloop.timeout.filter (·.key = key)

/-- A request in microseconds. -/
def request (secs usecs : UInt32) : ℤ := secs.toNat * 1000000 + usecs.toNat

lemma request_nonneg (secs usecs : UInt32) : 0 ≤ request secs usecs := by
  rw [request]
  omega

/-- The time of the request is in the range of `os_time_t`. -/
def Representable (now : ClockTime) (secs usecs : UInt32) : Prop :=
  now.sec + secs.toNat + (now.usec + usecs.toNat) / 1000000 < 2 ^ 63

/-- The code compares the seconds of the request with those of the remaining time first: if they are
fewer then the whole request must be shorter.  If the timeout is registered again, this must succeed. -/
structure Honoured (test : OsReltime → OsReltime → Bool) (timeout : EloopTimeout) (now : ClockTime)
    (secs usecs : UInt32) (env : TimeoutEnv) : Prop where
  comparable : secs.toNat < (timeout.time.sub now.toOsReltime).sec →
    request secs usecs ≤ timeout.time.toUsec - now.toUsec
  registers : test ⟨secs.toNat, usecs.toNat⟩ (timeout.time.sub now.toOsReltime) = true →
    env.zalloc = true ∧ env.reltime = true ∧ Representable now secs usecs

/-- Requests with less than a second of microseconds are compared as they should be. -/
lemma comparable_of_lt {timeout : EloopTimeout} {now : ClockTime} {secs usecs : UInt32}
    (htime : timeout.time.Normalized) (husecs : usecs.toNat < 1000000)
    (hlt : secs.toNat < (timeout.time.sub now.toOsReltime).sec) :
    request secs usecs ≤ timeout.time.toUsec - now.toUsec := by
  have hnonneg := (htime.sub now.normalized).usec_nonneg
  rw [← OsReltime.toUsec_sub, OsReltime.toUsec, request]
  omega

section Adjust

variable {eloop : Eloop} {timeout : EloopTimeout} {now : ClockTime} {key : TimeoutKey}
  {secs usecs : UInt32} {env : TimeoutEnv} {test : OsReltime → OsReltime → Bool}

lemma osTimeT_of_lt {x : ℤ} (hx : 0 ≤ x) (hlt : x < 2 ^ 63) : osTimeT x = x := by
  rw [osTimeT, Int.bmod_eq_of_le_mul_two]
  all_goals omega

lemma osTimeT_of_ge {x : ℤ} (hge : 2 ^ 63 ≤ x) (hlt : x < 2 ^ 64) : osTimeT x = x - 2 ^ 64 := by
  rw [osTimeT, Int.bmod_def]
  omega

/-- The time at which the timeout is due. -/
lemma timeoutTime_of_representable (h : Representable now secs usecs) :
    ∃ time, timeoutTime now.toOsReltime secs usecs = some time ∧
      time.toUsec = now.toUsec + request secs usecs := by
  obtain ⟨h₀, h₁⟩ := now.normalized
  have hsec := now.sec_nonneg
  unfold Representable at h
  have hsum : osTimeT (now.sec + secs.toNat) = now.sec + secs.toNat := osTimeT_of_lt (by omega) (by omega)
  have hcarry : osTimeT (now.sec + secs.toNat + (now.usec + usecs.toNat) / 1000000) =
      now.sec + secs.toNat + (now.usec + usecs.toNat) / 1000000 := osTimeT_of_lt (by omega) h
  refine ⟨⟨now.sec + secs.toNat + (now.usec + usecs.toNat) / 1000000,
    (now.usec + usecs.toNat) % 1000000⟩, ?_, ?_⟩
  · simp only [timeoutTime, hsum, hcarry]
    rw [if_neg (by omega)]
  · simp only [OsReltime.toUsec, request]
    omega

/-- A time that is out of range is ignored, or is before the start of the system. -/
lemma timeoutTime_of_not_representable (h : ¬ Representable now secs usecs) (time : OsReltime)
    (htime : timeoutTime now.toOsReltime secs usecs = some time) : time.toUsec < 0 := by
  obtain ⟨h₀, h₁⟩ := now.normalized
  have hsec := now.sec_nonneg
  have hsec' := now.sec_lt
  have hsecs : secs.toNat < 2 ^ 32 := secs.toNat_lt
  have husecs : usecs.toNat < 2 ^ 32 := usecs.toNat_lt
  have hnormal := normalized_of_timeoutTime htime
  unfold Representable at h
  simp only [timeoutTime] at htime
  split_ifs at htime with hover
  obtain rfl := Option.some.inj htime
  have hfits : now.sec + secs.toNat < 2 ^ 63 := by
    by_contra hge
    rw [osTimeT_of_ge (by omega) (by omega)] at hover
    omega
  rw [osTimeT_of_lt (by omega) hfits] at hnormal ⊢
  rw [osTimeT_of_ge (by omega) (by omega)] at hnormal ⊢
  obtain ⟨h₂, h₃⟩ := hnormal
  simp only [OsReltime.toUsec] at h₂ h₃ ⊢
  omega

/-- After a cancellation nothing matches. -/
lemma matching_cancelTimeout (eloop : Eloop) (key : TimeoutKey) :
    (eloop.cancelTimeout key).1.matching key = [] := by
  refine List.filter_eq_nil_iff.mpr fun timeout htimeout => ?_
  simp only [cancelTimeout, List.mem_filter] at htimeout
  intro hkey
  rw [decide_eq_true_eq] at hkey
  simp [cancels, hkey] at htimeout

lemma matching_insertTimeout (eloop : Eloop) (time : OsReltime) (key : TimeoutKey)
    (hnone : eloop.matching key = []) :
    (eloop.insertTimeout time key).matching key = [⟨time, key, eloop.registered⟩] := by
  have hperm := (List.perm_orderedInsert (fun x y : EloopTimeout => x.time.before y.time = true)
    ⟨time, key, eloop.registered⟩ eloop.timeout).filter (·.key = key)
  rw [List.filter_cons_of_pos (by simp)] at hperm
  change (List.Perm _ (_ :: eloop.matching key)) at hperm
  rw [hnone] at hperm
  exact List.perm_singleton.mp hperm

/-- The timeouts that match after `adjustTimeout`, if there was one. -/
lemma matching_adjustTimeout (hmatch : eloop.matching key = [timeout]) :
    ((eloop.adjustTimeout test now.toOsReltime secs usecs key env).1.matching key).map (·.time.toUsec) =
      if test ⟨secs.toNat, usecs.toNat⟩ (timeout.time.sub now.toOsReltime) then
        if env.zalloc && env.reltime then
          ((timeoutTime now.toOsReltime secs usecs).map OsReltime.toUsec).toList
        else []
      else [timeout.time.toUsec] := by
  have hfind : KeyedList.find EloopTimeout.key key eloop.timeout = some timeout := by
    rw [KeyedList.find, ← List.head?_filter]
    exact (congrArg List.head? hmatch).trans rfl
  simp only [adjustTimeout, hfind]
  split_ifs with htest henv
  · simp only [registerTimeout, henv, if_true]
    cases timeoutTime now.toOsReltime secs usecs with
    | none => simp [matching_cancelTimeout]
    | some time => simp [matching_insertTimeout, matching_cancelTimeout]
  · simp [registerTimeout, henv, matching_cancelTimeout]
  · simp [hmatch]

/-- The value of a timeout that is registered again. -/
lemma singleton_timeoutTime_eq {x : ℤ} (hx : 0 ≤ x) :
    ((timeoutTime now.toOsReltime secs usecs).map OsReltime.toUsec).toList = [x] ↔
      Representable now secs usecs ∧ now.toUsec + request secs usecs = x := by
  by_cases hrep : Representable now secs usecs
  · obtain ⟨time, htime, husec⟩ := timeoutTime_of_representable hrep
    simp [htime, husec, hrep]
  · constructor
    · intro h
      cases htime : timeoutTime now.toOsReltime secs usecs with
      | none => simp [htime] at h
      | some time =>
        have hneg := timeoutTime_of_not_representable hrep time htime
        have heq : time.toUsec = x := by simpa [htime] using h
        omega
    · exact fun h => absurd h.1 hrep

/-- `eloop_deplete_timeout` on a timeout that is registered once. -/
lemma depleteTimeout_iff (htime : timeout.time.Normalized) (hmatch : eloop.matching key = [timeout]) :
    ((eloop.depleteTimeout now.toOsReltime secs usecs key env).1.matching key).map (·.time.toUsec) =
        [min timeout.time.toUsec (now.toUsec + request secs usecs)] ↔
      Honoured (fun requested remaining => requested.before remaining) timeout now secs usecs env := by
  obtain ⟨h₀, h₁⟩ := htime.sub now.normalized
  have hsub := OsReltime.toUsec_sub timeout.time now.toOsReltime
  have hnow := now.toUsec_nonneg
  rw [depleteTimeout, matching_adjustTimeout hmatch]
  split_ifs with htest henv
  · have hlt := htest
    simp only [OsReltime.before, Bool.or_eq_true, Bool.and_eq_true, decide_eq_true_eq] at hlt
    rw [Bool.and_eq_true] at henv
    have hold : now.toUsec ≤ timeout.time.toUsec := by
      simp only [OsReltime.toUsec] at hsub ⊢
      omega
    have hreq := request_nonneg secs usecs
    rw [singleton_timeoutTime_eq (by omega)]
    constructor
    · rintro ⟨hrep, heq⟩
      exact ⟨fun _ => by omega, fun _ => ⟨henv.1, henv.2, hrep⟩⟩
    · intro h
      refine ⟨(h.registers htest).2.2, ?_⟩
      have hle : request secs usecs ≤ timeout.time.toUsec - now.toUsec := by
        rcases hlt with hlt | ⟨heq, hlt⟩
        · exact h.comparable hlt
        · rw [← hsub, OsReltime.toUsec, request]
          omega
      omega
  · refine iff_of_false (by simp) fun h => henv ?_
    obtain ⟨hzalloc, hreltime, -⟩ := h.registers htest
    simp [hzalloc, hreltime]
  · have hle := htest
    simp only [OsReltime.before, Bool.or_eq_true, Bool.and_eq_true, decide_eq_true_eq, not_or, not_and,
      not_lt] at hle
    refine iff_of_true ?_ ⟨fun hlt => absurd hlt (not_lt.mpr hle.1), fun h => absurd h htest⟩
    have hlate : timeout.time.toUsec ≤ now.toUsec + request secs usecs := by
      have hcmp : (timeout.time.sub now.toOsReltime).toUsec ≤ request secs usecs := by
        rw [OsReltime.toUsec, request]
        omega
      omega
    rw [min_eq_left hlate]

/-- `eloop_replenish_timeout` on a timeout that is registered once. -/
lemma replenishTimeout_iff (htime : timeout.time.Normalized) (hmatch : eloop.matching key = [timeout]) :
    ((eloop.replenishTimeout now.toOsReltime secs usecs key env).1.matching key).map (·.time.toUsec) =
        [max timeout.time.toUsec (now.toUsec + request secs usecs)] ↔
      Honoured (fun requested remaining => remaining.before requested) timeout now secs usecs env := by
  obtain ⟨h₀, h₁⟩ := htime.sub now.normalized
  have hsub := OsReltime.toUsec_sub timeout.time now.toOsReltime
  have hnow := now.toUsec_nonneg
  have hreq := request_nonneg secs usecs
  rw [replenishTimeout, matching_adjustTimeout hmatch]
  split_ifs with htest henv
  · have hlt := htest
    simp only [OsReltime.before, Bool.or_eq_true, Bool.and_eq_true, decide_eq_true_eq] at hlt
    rw [Bool.and_eq_true] at henv
    have hlate : timeout.time.toUsec ≤ now.toUsec + request secs usecs := by
      have hcmp : (timeout.time.sub now.toOsReltime).toUsec ≤ request secs usecs := by
        rw [OsReltime.toUsec, request]
        omega
      omega
    rw [singleton_timeoutTime_eq (by omega), max_eq_right hlate]
    constructor
    · rintro ⟨hrep, -⟩
      exact ⟨fun hsecs => by omega, fun _ => ⟨henv.1, henv.2, hrep⟩⟩
    · exact fun h => ⟨(h.registers htest).2.2, rfl⟩
  · refine iff_of_false (by simp) fun h => henv ?_
    obtain ⟨hzalloc, hreltime, -⟩ := h.registers htest
    simp [hzalloc, hreltime]
  · have hle := htest
    simp only [OsReltime.before, Bool.or_eq_true, Bool.and_eq_true, decide_eq_true_eq, not_or, not_and,
      not_lt] at hle
    constructor
    · intro heq
      have hmax : timeout.time.toUsec = max timeout.time.toUsec (now.toUsec + request secs usecs) := by
        simpa using heq
      exact ⟨fun _ => by omega, fun h => absurd h htest⟩
    · intro h
      have hshort : now.toUsec + request secs usecs ≤ timeout.time.toUsec := by
        rcases hle.1.lt_or_eq with hsecs | hsecs
        · have hcmp := h.comparable hsecs
          omega
        · have husecs := hle.2 hsecs.symm
          simp only [OsReltime.toUsec, request] at hsub ⊢
          omega
      rw [max_eq_left hshort]

end Adjust

/-! ## Whole runs -/

section Run

variable {start : ClockTime} {es : List (ClockTime × EloopCall)} {eloop : Eloop}

lemma run_sound (h : Trace.Run next (init start) es eloop) : eloop.Sound := by
  refine h.invariant (I := Sound) ?_ ?_
  · exact ⟨by simp [init], List.Pairwise.nil, List.nodup_nil, by simp [init]⟩
  · intro eloop₁ e eloop₂ hsound hnext
    unfold next at hnext
    split_ifs at hnext
    obtain rfl := Option.some.inj hnext
    have hclock : ({ eloop₁ with clock := e.1.toOsReltime } : Eloop).Sound :=
      ⟨hsound.normalized, hsound.ordered, hsound.accounted.nodup, hsound.accounted.registered⟩
    exact hclock.call e.2

/-- The handler of the first timeout is called. -/
structure Dispatched (eloop eloop' : Eloop) (now : ClockTime) (timeout : EloopTimeout) : Prop where
  first : eloop.timeout = timeout :: eloop'.timeout
  ran : eloop'.ran = eloop.ran ++ [timeout.seq]
  due : timeout.time.toUsec ≤ now.toUsec
  earliest : ∀ timeout' ∈ eloop.timeout, timeout.time.toUsec ≤ timeout'.time.toUsec

lemma Sound.dispatched (h : eloop.Sound) {timeout : EloopTimeout} {rest : List EloopTimeout} {now : ClockTime}
    (hlist : eloop.timeout = timeout :: rest) (hbefore : now.before timeout.time = false) :
    Dispatched eloop { eloop with timeout := rest, ran := eloop.ran ++ [timeout.seq] } now timeout := by
  have htime := h.normalized timeout (by rw [hlist]; exact List.mem_cons_self)
  refine ⟨hlist, rfl, ?_, fun timeout' htimeout' => ?_⟩
  · rw [Bool.eq_false_iff, Ne, OsReltime.before_iff now.normalized htime, not_lt] at hbefore
    exact hbefore
  · have hordered := h.ordered
    rw [Ordered, hlist, List.pairwise_cons] at hordered
    rw [hlist] at htimeout'
    rcases List.mem_cons.mp htimeout' with rfl | htimeout'
    · exact le_rfl
    · rcases hordered.1 timeout' htimeout' with hlt | ⟨heq, -⟩
      · exact hlt.le
      · exact heq.le

/-- In every run the timeouts are sorted by time, with ties in the order of registration, and those that
wait, ran or were cancelled are different ones.  A call leaves what was cancelled cancelled, and runs a
handler only if it is the dispatch of a timeout that is due and that no other one precedes.  Depleting
or replenishing a timeout that is registered once sets it to the minimum or the maximum of its time and
the time of the request if and only if the request can be honoured. -/
theorem run_timeouts (h : Trace.Run next (init start) es eloop) :
    eloop.Ordered ∧ eloop.Accounted ∧
      (∀ now c eloop', eloop.next (now, c) = some eloop' → eloop.cancelled <+: eloop'.cancelled ∧
        (eloop'.ran = eloop.ran ∨ ∃ timeout, c = .dispatch ∧ Dispatched eloop eloop' now timeout)) ∧
      ∀ now secs usecs key env timeout eloop', eloop.matching key = [timeout] →
        (eloop.next (now, .depleteTimeout secs usecs key env) = some eloop' →
          ((eloop'.matching key).map (·.time.toUsec) =
              [min timeout.time.toUsec (now.toUsec + request secs usecs)] ↔
            Honoured (fun requested remaining => requested.before remaining) timeout now secs usecs env)) ∧
        (eloop.next (now, .replenishTimeout secs usecs key env) = some eloop' →
          ((eloop'.matching key).map (·.time.toUsec) =
              [max timeout.time.toUsec (now.toUsec + request secs usecs)] ↔
            Honoured (fun requested remaining => remaining.before requested) timeout now secs usecs env)) := by
  have hsound := run_sound h
  refine ⟨hsound.ordered, hsound.accounted, ?_, ?_⟩
  · intro now c eloop' hnext
    unfold next at hnext
    split_ifs at hnext
    obtain rfl := Option.some.inj hnext
    have hhistory := call_history { eloop with clock := now.toOsReltime } now.toOsReltime c
    refine ⟨hhistory.2, ?_⟩
    by_cases hc : c = .dispatch
    · subst hc
      rcases dispatch_cases { eloop with clock := now.toOsReltime } now.toOsReltime with
        heq | ⟨timeout, rest, hlist, hbefore, heq⟩
      · left
        rw [call, heq]
      · right
        obtain ⟨hfirst, hran, hdue, hearliest⟩ := hsound.dispatched hlist hbefore
        refine ⟨timeout, rfl, ?_, ?_, hdue, hearliest⟩
        · rw [call, heq]
          exact hfirst
        · rw [call, heq]
    · exact Or.inl (hhistory.1 hc)
  · intro now secs usecs key env timeout eloop' hmatch
    have htime : timeout.time.Normalized := by
      have hmem : timeout ∈ eloop.matching key := by
        rw [hmatch]
        exact List.mem_singleton_self timeout
      exact hsound.normalized timeout (List.mem_of_mem_filter hmem)
    constructor
    · intro hnext
      unfold next at hnext
      split_ifs at hnext
      obtain rfl := Option.some.inj hnext
      exact depleteTimeout_iff htime hmatch
    · intro hnext
      unfold next at hnext
      split_ifs at hnext
      obtain rfl := Option.some.inj hnext
      exact replenishTimeout_iff htime hmatch

/-- A timeout in one second. -/
def oneTimeout : List (ClockTime × EloopCall) :=
  [({ sec := 5, usec := 0 }, .registerTimeout 1 0 ⟨1, 2, 3⟩ ⟨true, true⟩)]

theorem run_timeouts_oneTimeout : ∃ eloop, Trace.Run next (init { sec := 0, usec := 0 }) oneTimeout eloop ∧
    eloop.timeout.length = 1 ∧ eloop.Ordered ∧ eloop.Accounted := by
  have hrun : Trace.Run next (init { sec := 0, usec := 0 }) oneTimeout
      ⟨[⟨⟨6, 0⟩, ⟨1, 2, 3⟩, 0⟩], 1, [], [], ⟨5, 0⟩⟩ := Trace.run_iff_exec.mpr (by decide +kernel)
  obtain ⟨hordered, haccounted, -⟩ := run_timeouts hrun
  exact ⟨_, hrun, rfl, hordered, haccounted⟩

/-- A timeout with one second left is to be replenished to 2000000 microseconds, and stays as it is. -/
theorem replenish_microseconds_ignored : ∃ (eloop eloop' : Eloop) (timeout : EloopTimeout) (now : ClockTime),
    Trace.Run next (init { sec := 0, usec := 0 }) oneTimeout eloop ∧
      eloop.matching ⟨1, 2, 3⟩ = [timeout] ∧
      eloop.next (now, .replenishTimeout 0 2000000 ⟨1, 2, 3⟩ ⟨true, true⟩) = some eloop' ∧
      ¬ (eloop'.matching ⟨1, 2, 3⟩).map (·.time.toUsec) =
        [max timeout.time.toUsec (now.toUsec + request 0 2000000)] := by
  refine ⟨⟨[⟨⟨6, 0⟩, ⟨1, 2, 3⟩, 0⟩], 1, [], [], ⟨5, 0⟩⟩, ⟨[⟨⟨6, 0⟩, ⟨1, 2, 3⟩, 0⟩], 1, [], [], ⟨5, 0⟩⟩,
    ⟨⟨6, 0⟩, ⟨1, 2, 3⟩, 0⟩, { sec := 5, usec := 0 }, Trace.run_iff_exec.mpr (by decide +kernel), by decide, by decide +kernel, by decide +kernel⟩

end Run

end Eloop

end Ethanol
