import EthanolHostapd.Traces.Run
import Mathlib.Data.List.Basic

/-!
# The collector of interface statistics

`set_timed_net_statistics` and `thread_get_net_statistics` of `net_statistics.c`.  A caller starts,
stops and re-times the collection; a start creates a collector thread, which samples all interfaces
(`update_means`), sleeps for the collection period and looks at `running_thread` again.

The shared variables are read and written in single steps of the caller and of the threads, in any
order.  The calls follow one after another.
-/

namespace Ethanol

/-- Where a collector thread is in `thread_get_net_statistics`. -/
inductive CollectorPc
  /-- Before it reads `collect_usec`. -/
  | started
  /-- Before it reads `running_thread`. -/
  | testing
  /-- Past the test, before `update_means`. -/
  | sampling
  /-- Past the test, in `nanosleep`. -/
  | sleeping
  | returned
  deriving DecidableEq

/-- Where the caller is in `set_timed_net_statistics`. -/
inductive CallerPc
  /-- Between two calls. -/
  | idle
  /-- Before `collect_usec = -1`. -/
  | stopping
  /-- Before `running_thread = true`. -/
  | starting (usec : Int32)
  /-- Before `pthread_create`. -/
  | creating (usec : Int32)
  /-- Before `collect_usec = usec`. -/
  | timing (usec : Int32)
  deriving DecidableEq

/-- The shared variables, the caller and the threads in the order in which they were created. -/
structure Collectors where
  runningThread : Bool
  collectUsec : Int32
  caller : CallerPc
  threads : List CollectorPc
  deriving DecidableEq

/-- The initial values of the variables, with no thread. -/
def Collectors.init : Collectors := ⟨true, -1, .idle, []⟩

/-- A step of the caller or of a thread. -/
inductive CollectorEvent
  /-- `set_timed_net_statistics(usec)` begins. -/
  | call (usec : Int32)
  /-- The call goes on; `created` says whether `pthread_create` succeeds, if that is the step. -/
  | proceed (created : Bool)
  /-- The thread with this index goes on. -/
  | thread (i : ℕ)
  deriving DecidableEq

/-- `thread_get_net_statistics` up to its next access to a shared variable. -/
def CollectorPc.next (runningThread : Bool) (collectUsec : Int32) : CollectorPc → Option CollectorPc
  | started => some (if collectUsec ≤ 0 then returned else testing)
  | testing => some (if runningThread then sampling else returned)
  | sampling => some sleeping
  | sleeping => some testing
  | returned => none

/-- One step. -/
def Collectors.next (s : Collectors) : CollectorEvent → Option Collectors
  | .call usec =>
    match s.caller with
    | .idle =>
      if usec ≤ 0 then some { s with runningThread := false, caller := .stopping }
      else if s.collectUsec ≤ 0 then some { s with caller := .starting usec }
      else some { s with caller := .timing usec }
    | _ => none
  | .proceed created =>
    match s.caller with
    | .idle => none
    | .stopping => some { s with collectUsec := -1, caller := .idle }
    | .starting usec => some { s with runningThread := true, caller := .creating usec }
    | .creating usec =>
      some { s with
        threads := if created then s.threads ++ [.started] else s.threads
        caller := .timing usec }
    | .timing usec => some { s with collectUsec := usec, caller := .idle }
  | .thread i => do
    let pc ← s.threads[i]?
    let pc ← pc.next s.runningThread s.collectUsec
    some { s with threads := s.threads.set i pc }

/-- The thread has passed its `running_thread` test and not come back to it. -/
def CollectorPc.PastTest (pc : CollectorPc) : Prop := pc = .sampling ∨ pc = .sleeping

instance (pc : CollectorPc) : Decidable pc.PastTest := inferInstanceAs (Decidable (_ ∨ _))

namespace Collectors

/-- Collector `i` is past its test. -/
def PastTest (s : Collectors) (i : ℕ) : Prop := ∃ pc ∈ s.threads[i]?, CollectorPc.PastTest pc

/-- Collector `i` was created and has not returned. -/
def Alive (s : Collectors) (i : ℕ) : Prop := ∃ pc ∈ s.threads[i]?, pc ≠ CollectorPc.returned

/-- At most one collector is past its test. -/
def Unique (s : Collectors) : Prop := ∀ i j, s.PastTest i → s.PastTest j → i = j

/-- If this step creates a collector, then all earlier collectors have returned. -/
def LoneStart (s : Collectors) (e : CollectorEvent) : Prop :=
  ∀ usec, s.caller = .creating usec → e = .proceed true → ∀ i, ¬ s.Alive i

lemma PastTest.alive {s : Collectors} {i : ℕ} (h : s.PastTest i) : s.Alive i := by
  obtain ⟨pc, hpc, hpast⟩ := h
  refine ⟨pc, hpc, ?_⟩
  rcases hpast with rfl | rfl
  · decide
  · decide

/-! ## What a step does to the threads -/

/-- A step creates a thread, moves one that has not returned, or leaves the threads alone. -/
lemma next_threads {s s' : Collectors} {e : CollectorEvent} (h : s.next e = some s') :
    s'.threads = s.threads ∨
    (e = .proceed true ∧ (∃ usec, s.caller = .creating usec) ∧
      s'.threads = s.threads ++ [.started]) ∨
    ∃ i pc, s.Alive i ∧ s'.threads = s.threads.set i pc := by
  cases e with
  | call usec =>
    refine Or.inl ?_
    simp only [next] at h
    split at h
    · split_ifs at h <;> cases h <;> rfl
    · cases h
  | proceed created =>
    cases hc : s.caller with
    | idle => simp [next, hc] at h
    | stopping =>
      simp only [next, hc, Option.some.injEq] at h
      exact Or.inl (h ▸ rfl)
    | starting usec =>
      simp only [next, hc, Option.some.injEq] at h
      exact Or.inl (h ▸ rfl)
    | creating usec =>
      simp only [next, hc, Option.some.injEq] at h
      cases created with
      | true => exact Or.inr (Or.inl ⟨rfl, ⟨usec, rfl⟩, h ▸ rfl⟩)
      | false => exact Or.inl (h ▸ rfl)
    | timing usec =>
      simp only [next, hc, Option.some.injEq] at h
      exact Or.inl (h ▸ rfl)
  | thread i =>
    simp only [next, Option.bind_eq_bind, Option.bind_eq_some_iff, Option.some.injEq] at h
    obtain ⟨pc, hpc, pc', hnext, rfl⟩ := h
    refine Or.inr (Or.inr ⟨i, pc', ⟨pc, hpc, ?_⟩, rfl⟩)
    rintro rfl
    simp [CollectorPc.next] at hnext

/-- Under the condition, no step makes a second collector alive. -/
lemma alive_unique_step {s s' : Collectors} {e : CollectorEvent}
    (hs : ∀ i j, s.Alive i → s.Alive j → i = j) (hok : s.LoneStart e) (h : s.next e = some s') :
    ∀ i j, s'.Alive i → s'.Alive j → i = j := by
  rcases next_threads h with hthreads | ⟨rfl, ⟨usec, hcaller⟩, hthreads⟩ | ⟨k, pc, hk, hthreads⟩
  · intro i j hi hj
    simp only [Alive, hthreads] at hi hj
    exact hs i j hi hj
  · -- the threads before the new one have returned
    have hlast : ∀ i, s'.Alive i → i = s.threads.length := by
      rintro i ⟨pc, hpc, hne⟩
      rw [hthreads, Option.mem_def, List.getElem?_append] at hpc
      split_ifs at hpc with hlt
      · exact absurd ⟨pc, hpc, hne⟩ (hok usec hcaller rfl i)
      · have hzero : i - s.threads.length < 1 := by
          simpa using (List.getElem?_eq_some_iff.mp hpc).1
        omega
    intro i j hi hj
    rw [hlast i hi, hlast j hj]
  · -- the thread that moved was alive already
    have hold : ∀ i, s'.Alive i → s.Alive i := by
      rintro i ⟨pc', hpc', hne⟩
      rw [hthreads, Option.mem_def] at hpc'
      by_cases hik : k = i
      · exact hik ▸ hk
      · rw [List.getElem?_set_ne hik] at hpc'
        exact ⟨pc', hpc', hne⟩
    intro i j hi hj
    exact hs i j (hold i hi) (hold j hj)

/-- In every run in which a collector is created only after all earlier ones have returned, at most
one collector is ever past its test, and no interface is sampled while another collector waits out
its period. -/
theorem unique_of_loneStart (es : List CollectorEvent) (s : Collectors)
    (hrun : Trace.RunWith next LoneStart init es s) :
    s.Unique ∧
      ∀ i j : ℕ, s.threads[i]? = some CollectorPc.sampling →
        s.threads[j]? ≠ some CollectorPc.sleeping := by
  have halive : ∀ i j, s.Alive i → s.Alive j → i = j := by
    refine hrun.invariant (I := fun s => ∀ i j, s.Alive i → s.Alive j → i = j) ?_ ?_
    · rintro i j ⟨pc, hpc, -⟩
      simp [init] at hpc
    · intro s₁ e s₂ hs₁ hok hnext
      exact alive_unique_step hs₁ hok hnext
  have hunique : s.Unique := fun i j hi hj => halive i j hi.alive hj.alive
  refine ⟨hunique, fun i j hi hj => ?_⟩
  have hij := hunique i j ⟨_, hi, Or.inl rfl⟩ ⟨_, hj, Or.inr rfl⟩
  rw [← hij, hi] at hj
  exact absurd hj (by decide)

/-- A collector is started once and passes its test. -/
theorem unique_of_loneStart_once :
    Trace.RunWith next LoneStart init
        [.call 1000, .proceed true, .proceed true, .proceed true, .thread 0, .thread 0]
        ⟨true, 1000, .idle, [.sampling]⟩ ∧
      (⟨true, 1000, .idle, [.sampling]⟩ : Collectors).Unique := by
  have hrun : Trace.RunWith next LoneStart init
      ([] ++ [.call 1000] ++ [.proceed true] ++ [.proceed true] ++ [.proceed true] ++ [.thread 0] ++
        [.thread 0])
      ⟨true, 1000, .idle, [.sampling]⟩ := by
    refine .snoc (.snoc (.snoc (.snoc (.snoc (.snoc .nil ?_ rfl) ?_ rfl) ?_ rfl) ?_ rfl) ?_ rfl) ?_ rfl
    all_goals intro usec hcaller he i
    all_goals simp_all [Alive, init]
  exact ⟨hrun, (unique_of_loneStart _ _ hrun).1⟩

/-- Stopping and starting again while the first collector sleeps leaves two collectors past their
test. -/
theorem unique_fails :
    ∃ es s, Trace.Run next init es s ∧ ¬ s.Unique := by
  refine ⟨[.call 1000, .proceed true, .proceed true, .proceed true, .thread 0, .thread 0, .thread 0,
    .call 0, .proceed true, .call 1000, .proceed true, .proceed true, .proceed true, .thread 1,
    .thread 1, .thread 0, .thread 0], ⟨true, 1000, .idle, [.sampling, .sampling]⟩,
    Trace.run_iff_exec.mpr (by decide), ?_⟩
  intro h
  exact absurd (h 0 1 ⟨.sampling, rfl, Or.inl rfl⟩ ⟨.sampling, rfl, Or.inl rfl⟩) (by decide)

/-! ## The condition is needed -/

/-- A call that is about to create a collector, or to write its period, has a positive period, and it
has set `running_thread` before it creates the collector. -/
def CallerInvariant (s : Collectors) : Prop :=
  match s.caller with
  | .starting usec => ¬ usec ≤ 0
  | .creating usec => ¬ usec ≤ 0 ∧ s.runningThread = true
  | .timing usec => ¬ usec ≤ 0
  | _ => True

lemma callerInvariant_step {s s' : Collectors} {e : CollectorEvent} (hs : s.CallerInvariant)
    (h : s.next e = some s') : s'.CallerInvariant := by
  cases e with
  | call usec =>
    simp only [next] at h
    split at h
    · split_ifs at h with hstop hstart
      · cases h
        trivial
      · cases h
        exact hstop
      · cases h
        exact hstop
    · cases h
  | proceed created =>
    cases hc : s.caller with
    | idle => simp [next, hc] at h
    | stopping =>
      simp only [next, hc, Option.some.injEq] at h
      subst h
      trivial
    | starting usec =>
      simp only [CallerInvariant, hc] at hs
      simp only [next, hc, Option.some.injEq] at h
      subst h
      exact ⟨hs, rfl⟩
    | creating usec =>
      simp only [CallerInvariant, hc] at hs
      simp only [next, hc, Option.some.injEq] at h
      subst h
      exact hs.1
    | timing usec =>
      simp only [next, hc, Option.some.injEq] at h
      subst h
      trivial
  | thread i =>
    simp only [next, Option.bind_eq_bind, Option.bind_eq_some_iff, Option.some.injEq] at h
    obtain ⟨pc, -, pc', -, rfl⟩ := h
    exact hs

lemma next_thread {s : Collectors} {i : ℕ} {pc pc' : CollectorPc} (hpc : s.threads[i]? = some pc)
    (hnext : pc.next s.runningThread s.collectUsec = some pc') :
    s.next (.thread i) = some { s with threads := s.threads.set i pc' } := by
  simp [next, hpc, hnext]

/-- A collector that has not returned gets past its test while the collection is on, without any
other change. -/
lemma advance {s : Collectors} {i : ℕ} (halive : s.Alive i) (hrunning : s.runningThread = true)
    (htimed : ¬ s.collectUsec ≤ 0) :
    ∃ es pc, CollectorPc.PastTest pc ∧
      Trace.Run next s es { s with threads := s.threads.set i pc } := by
  obtain ⟨pc, hpc, hne⟩ := halive
  rw [Option.mem_def] at hpc
  have hlt : i < s.threads.length := (List.getElem?_eq_some_iff.mp hpc).1
  have hself : s.threads.set i pc = s.threads :=
    List.ext_getElem? fun k => by
      by_cases hk : i = k
      · rw [← hk, List.getElem?_set_self hlt, hpc]
      · rw [List.getElem?_set_ne hk]
  cases pc with
  | started =>
    have hread : s.next (.thread i) = some { s with threads := s.threads.set i .testing } :=
      next_thread hpc (by simp [CollectorPc.next, htimed])
    have htest : next { s with threads := s.threads.set i .testing } (.thread i) =
        some { s with threads := (s.threads.set i .testing).set i .sampling } :=
      next_thread (List.getElem?_set_self hlt) (by simp [CollectorPc.next, hrunning])
    rw [List.set_set] at htest
    exact ⟨_, .sampling, Or.inl rfl, (Trace.Run.nil.snoc hread).snoc htest⟩
  | testing =>
    have htest : s.next (.thread i) = some { s with threads := s.threads.set i .sampling } :=
      next_thread hpc (by simp [CollectorPc.next, hrunning])
    exact ⟨_, .sampling, Or.inl rfl, Trace.Run.nil.snoc htest⟩
  | sampling =>
    refine ⟨[], .sampling, Or.inl rfl, ?_⟩
    rw [hself]
    exact .nil
  | sleeping =>
    refine ⟨[], .sleeping, Or.inr rfl, ?_⟩
    rw [hself]
    exact .nil
  | returned => exact absurd rfl hne

/-- Whenever a call is about to create a collector while an earlier one has not returned, the run can
go on to two collectors past their test. -/
theorem not_unique_of_early_start {es : List CollectorEvent} {s : Collectors} {usec : Int32} {i : ℕ}
    (hrun : Trace.Run next init es s) (hcaller : s.caller = .creating usec) (hi : s.Alive i) :
    ∃ es' s', Trace.Run next s es' s' ∧ ¬ s'.Unique := by
  have hinv : s.CallerInvariant := hrun.invariant trivial fun _ _ _ => callerInvariant_step
  simp only [CallerInvariant, hcaller] at hinv
  obtain ⟨htimed, hrunning⟩ := hinv
  -- the call creates its collector and returns
  have hcall : Trace.Run next s [.proceed true, .proceed true]
      { s with threads := s.threads ++ [.started], collectUsec := usec, caller := .idle } :=
    Trace.run_iff_exec.mpr (by simp [Trace.exec, next, hcaller])
  obtain ⟨pc, hpc, hne⟩ := hi
  have hlt : i < s.threads.length := (List.getElem?_eq_some_iff.mp hpc).1
  have hold : (s.threads ++ [.started])[i]? = some pc := by
    rw [List.getElem?_append_left hlt]
    exact hpc
  -- then both collectors pass their tests
  obtain ⟨es₁, pc₁, hpast₁, hrun₁⟩ := advance (i := i)
    (s := { s with threads := s.threads ++ [.started], collectUsec := usec, caller := .idle })
    ⟨pc, hold, hne⟩ hrunning htimed
  have hnew : ((s.threads ++ [CollectorPc.started]).set i pc₁)[s.threads.length]? =
      some CollectorPc.started := by
    rw [List.getElem?_set_ne (Nat.ne_of_lt hlt), List.getElem?_append_right (Nat.le_refl _)]
    simp
  obtain ⟨es₂, pc₂, hpast₂, hrun₂⟩ := advance (i := s.threads.length)
    (s := { s with
      threads := (s.threads ++ [CollectorPc.started]).set i pc₁, collectUsec := usec, caller := .idle })
    ⟨.started, hnew, by decide⟩ hrunning htimed
  refine ⟨_, _, (hcall.trans hrun₁).trans hrun₂, fun hunique => ?_⟩
  refine Nat.ne_of_lt hlt (hunique i s.threads.length ⟨pc₁, ?_, hpast₁⟩ ⟨pc₂, ?_, hpast₂⟩)
  · rw [Option.mem_def, List.getElem?_set_ne (Nat.ne_of_gt hlt)]
    exact List.getElem?_set_self (by simp only [List.length_append]; omega)
  · exact List.getElem?_set_self (by simp)

end Collectors

end Ethanol
