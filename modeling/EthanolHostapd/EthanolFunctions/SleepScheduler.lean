import EthanolHostapd.EthanolFunctions.SleepIntervals
import EthanolHostapd.Traces.Run
import Mathlib.Logic.Function.Basic

/-!
# Interfaces that are registered while the scheduler runs

`return_interface_list` puts an interface that is new in the store into a queue that may already hold
deltas, by comparing its interval with them, and makes its delta from the interval of the node before
it.  Neither is right in general: the new interface, or the ones behind it, are then sampled at the
wrong times, and the new delta may be negative.

`Scheduler` is the system of the store and the queue, with a record of the registrations and of what
was reported when.  `Scheduler.punctual_of_inOrder` says for which insertions all goes well.
-/

namespace Ethanol

open Wire

/-- The store, the queue, the time that was spent sleeping, and what has happened so far. -/
structure Scheduler where
  store : Interfaces
  intervallist : List Intervals
  elapsed : ℤ
  /-- When each interface of the store was registered. -/
  registeredAt : CString → ℤ
  /-- The names that each call returned, and the time at which it did. -/
  reports : List (ℤ × List CString)

/-- No interface is registered and nothing has happened. -/
def Scheduler.init : Scheduler := ⟨[], [], 0, fun _ => 0, []⟩

/-- A new interface is registered, or `return_interface_list` is called. -/
inductive SchedulerEvent
  /-- `set_threshold` and `set_interval` for a new interface, with a positive interval. -/
  | register (intfName : CString) (threshold : Int64) (interval : Int32)
  | call

namespace Scheduler

/-- One step.  A call with no interface at all reads through `NULL`. -/
def next (s : Scheduler) : SchedulerEvent → Option Scheduler
  | .register intfName threshold interval =>
    if searchinterfaces s.store intfName = none ∧ 0 < interval.toInt then
      some { s with
        store := setInterval (setThreshold s.store threshold intfName) interval intfName
        registeredAt := Function.update s.registeredAt intfName s.elapsed }
    else none
  | .call => (returnInterfaceList s.store s.intervallist).map fun w =>
      { s with
        intervallist := w.intervallist
        elapsed := s.elapsed + w.slept
        reports := s.reports ++ [(s.elapsed + w.slept, w.interfaceslist)] }

/-- The interface was reported when the elapsed time was `t`. -/
def Reported (s : Scheduler) (intfName : CString) (t : ℤ) : Prop :=
  ∃ names, (t, names) ∈ s.reports ∧ intfName ∈ names

/-- No delta is negative, and every interface was reported exactly one, two, ... intervals after it
was registered. -/
structure Punctual (s : Scheduler) : Prop where
  nonneg : ∀ y ∈ s.intervallist, 0 ≤ y.sleepTime
  reported : ∀ x ∈ s.store, ∀ t ≤ s.elapsed, s.Reported x.intfName t ↔
    s.registeredAt x.intfName < t ∧ x.interval.toInt ∣ t - s.registeredAt x.intfName

/-- If this step is a call, `create_list` puts each new interface at a place where the queue stays in
order: at the head only if nothing was scheduled before; otherwise behind a node that is new or has
just been reported, whose interval is not longer, and which has the same interval if nodes that were
scheduled before follow. -/
def InOrder (s : Scheduler) : SchedulerEvent → Prop
  | .register _ _ _ => True
  | .call => Admissible (fun k => k.2 ∣ s.elapsed - s.registeredAt k.1) s.store s.intervallist

/-! ## What is kept between the steps -/

/-- The state between two steps, if all insertions so far were in order. -/
structure Invariant (s : Scheduler) : Prop where
  names : (s.store.map SnrInformation.intfName).Nodup
  pos : ∀ x ∈ s.store, 0 < x.interval.toInt
  queue : QueueOf s.elapsed s.registeredAt s.store s.intervallist
  /-- An interface that is not in the queue was registered after the last call. -/
  new : ∀ x ∈ s.store, x.intfName ∉ s.intervallist.map Intervals.intfName →
    s.registeredAt x.intfName = s.elapsed
  since : ∀ x ∈ s.store, s.registeredAt x.intfName ≤ s.elapsed
  /-- Only interfaces of the store were reported, not later than now. -/
  past : ∀ n t, s.Reported n t → t ≤ s.elapsed ∧ n ∈ s.store.map SnrInformation.intfName
  reported : ∀ x ∈ s.store, ∀ t ≤ s.elapsed, s.Reported x.intfName t ↔
    s.registeredAt x.intfName < t ∧ x.interval.toInt ∣ t - s.registeredAt x.intfName

lemma Invariant.punctual {s : Scheduler} (h : s.Invariant) : s.Punctual :=
  ⟨h.queue.scheduled.encodes.nonneg, h.reported⟩

lemma invariant_init : init.Invariant := by
  refine ⟨by simp [init], by simp [init], ⟨⟨trivial, by simp [init]⟩, by simp [init], by simp [init]⟩,
    by simp [init], by simp [init], ?_, by simp [init]⟩
  rintro n t ⟨names, h, -⟩
  simp [init] at h

/-- Registering a new interface appends it to the store. -/
lemma store_register {intfs : Interfaces} {n : CString} (hn : searchinterfaces intfs n = none)
    (threshold : Int64) (interval : Int32) :
    setInterval (setThreshold intfs threshold n) interval n = intfs ++ [⟨n, threshold, interval⟩] := by
  have hthreshold : setThreshold intfs threshold n = intfs ++ [⟨n, threshold, val1⟩] := by
    simp only [setThreshold, setInformation, hn, createinterface, List.modifyLast_concat]
  have hfound : searchinterfaces (intfs ++ [⟨n, threshold, val1⟩]) n =
      some ⟨n, threshold, val1⟩ := by
    unfold searchinterfaces at hn ⊢
    rw [KeyedList.find_append, hn, KeyedList.find_cons]
    simp
  simp only [hthreshold, setInterval, setInformation, hfound]
  rw [KeyedList.assign_append hn]
  simp [KeyedList.assign]

lemma mem_names_iff {intfs : Interfaces} {n : CString} :
    n ∈ intfs.map SnrInformation.intfName ↔ searchinterfaces intfs n ≠ none := by
  rw [searchinterfaces, Ne, KeyedList.find_eq_none_iff, not_not]

lemma invariant_register {s : Scheduler} (h : s.Invariant) {n : CString} {threshold : Int64}
    {interval : Int32} (hn : searchinterfaces s.store n = none) (hpos : 0 < interval.toInt) :
    Invariant { s with
      store := setInterval (setThreshold s.store threshold n) interval n
      registeredAt := Function.update s.registeredAt n s.elapsed } := by
  have hnew : n ∉ s.store.map SnrInformation.intfName := fun hmem => mem_names_iff.mp hmem hn
  -- the interfaces that were registered before are others
  have hold : ∀ x ∈ s.store, Function.update s.registeredAt n s.elapsed x.intfName =
      s.registeredAt x.intfName := by
    intro x hx
    refine Function.update_of_ne ?_ _ _
    rintro rfl
    exact hnew (List.mem_map_of_mem hx)
  rw [store_register hn]
  refine ⟨?_, ?_, ⟨⟨?_, h.queue.scheduled.sleep⟩, h.queue.nodup, ?_⟩, ?_, ?_, ?_, ?_⟩
  · rw [List.map_append, List.nodup_append]
    refine ⟨h.names, by simp, ?_⟩
    rintro a ha b hb rfl
    obtain rfl : a = n := by simpa using hb
    exact hnew ha
  · intro x hx
    rcases List.mem_append.mp hx with hx | hx
    · exact h.pos x hx
    · obtain rfl := List.mem_singleton.mp hx
      exact hpos
  · refine h.queue.scheduled.encodes.congr fun y hy => ?_
    obtain ⟨x, hx, hkey⟩ := List.mem_map.mp (h.queue.keys _ (List.mem_map_of_mem hy))
    rw [← hkey]
    simp only [remaining, SnrInformation.key, hold x hx]
  · intro k hk
    rw [List.map_append]
    exact List.mem_append_left _ (h.queue.keys k hk)
  · intro x hx hnot
    rcases List.mem_append.mp hx with hx | hx
    · exact (hold x hx).trans (h.new x hx hnot)
    · obtain rfl := List.mem_singleton.mp hx
      exact Function.update_self _ _ _
  · intro x hx
    rcases List.mem_append.mp hx with hx | hx
    · exact (hold x hx).trans_le (h.since x hx)
    · obtain rfl := List.mem_singleton.mp hx
      exact (Function.update_self _ _ _).le
  · intro m t hm
    obtain ⟨ht, hmem⟩ := h.past m t hm
    rw [List.map_append]
    exact ⟨ht, List.mem_append_left _ hmem⟩
  · intro x hx t ht
    rcases List.mem_append.mp hx with hx | hx
    · simp only [hold x hx]
      exact h.reported x hx t ht
    · obtain rfl := List.mem_singleton.mp hx
      refine iff_of_false (fun hrep => hnew (h.past _ _ hrep).2) fun hlt => ?_
      have hself : Function.update s.registeredAt n s.elapsed n = s.elapsed :=
        Function.update_self _ _ _
      exact absurd (hself ▸ hlt.1) (not_lt.mpr ht)

/-- The reports after a call. -/
lemma reported_concat {s : Scheduler} {n : CString} {t : ℤ} {w : Wakeup} {list : List Intervals} :
    Reported { s with
      intervallist := list, elapsed := s.elapsed + w.slept
      reports := s.reports ++ [(s.elapsed + w.slept, w.interfaceslist)] } n t ↔
      s.Reported n t ∨ (t = s.elapsed + w.slept ∧ n ∈ w.interfaceslist) := by
  simp only [Reported, List.mem_append, List.mem_singleton, Prod.mk.injEq]
  constructor
  · rintro ⟨names, h | ⟨ht, rfl⟩, hn⟩
    · exact Or.inl ⟨names, h, hn⟩
    · exact Or.inr ⟨ht, hn⟩
  · rintro (⟨names, h, hn⟩ | ⟨ht, hn⟩)
    · exact ⟨names, Or.inl h, hn⟩
    · exact ⟨_, Or.inr ⟨ht, rfl⟩, hn⟩

lemma invariant_call {s : Scheduler} (h : s.Invariant) {w : Wakeup}
    (hontime : OnTime s.elapsed s.registeredAt s.store w) :
    Invariant { s with
      intervallist := w.intervallist
      elapsed := s.elapsed + w.slept
      reports := s.reports ++ [(s.elapsed + w.slept, w.interfaceslist)] } := by
  have hpos := hontime.pos
  refine ⟨h.names, h.pos, hontime.queueOf h.names, ?_, ?_, ?_, ?_⟩
  · intro x hx hnot
    exact absurd (hontime.mem_queue hx) hnot
  · intro x hx
    have := h.since x hx
    show s.registeredAt x.intfName ≤ s.elapsed + w.slept
    omega
  · intro n t hrep
    rcases reported_concat.mp hrep with hrep | ⟨rfl, hn⟩
    · obtain ⟨ht, hmem⟩ := h.past n t hrep
      exact ⟨by show t ≤ s.elapsed + w.slept; omega, hmem⟩
    · obtain ⟨x, hx, rfl, -⟩ := (hontime.names n).mp hn
      exact ⟨le_refl _, List.mem_map_of_mem hx⟩
  · intro x hx t ht
    have ht' : t ≤ s.elapsed + w.slept := ht
    rw [reported_concat]
    rcases le_or_gt t s.elapsed with hle | hgt
    · -- nothing is added to the reports of the past
      rw [h.reported x hx t hle]
      refine or_iff_left fun hnow => ?_
      omega
    · have hpast : ¬ s.Reported x.intfName t := fun hrep => by
        have := (h.past _ _ hrep).1
        omega
      have hleast := hontime.least x hx
      have hdvd : x.interval.toInt ∣ t - s.registeredAt x.intfName ↔
          t = s.elapsed + remaining s.elapsed s.registeredAt x.key :=
        dvd_iff_eq_remaining (k := x.key) (h.pos x hx) hgt (by omega)
      have hname : x.intfName ∈ w.interfaceslist ↔
          remaining s.elapsed s.registeredAt x.key = w.slept := by
        rw [hontime.names]
        constructor
        · rintro ⟨x', hx', hname, heq⟩
          rwa [← List.inj_on_of_nodup_map h.names hx' hx hname]
        · exact fun heq => ⟨x, hx, rfl, heq⟩
      have hsince : s.registeredAt x.intfName < t := lt_of_le_of_lt (h.since x hx) hgt
      rw [or_iff_right hpast, hname, hdvd]
      constructor
      · rintro ⟨rfl, heq⟩
        exact ⟨hsince, by omega⟩
      · rintro ⟨-, rfl⟩
        exact ⟨by omega, by omega⟩

lemma invariant_step {s s' : Scheduler} {e : SchedulerEvent} (h : s.Invariant) (hok : s.InOrder e)
    (hnext : s.next e = some s') : s'.Invariant := by
  cases e with
  | register n threshold interval =>
    simp only [next] at hnext
    split_ifs at hnext with hnew
    cases hnext
    exact invariant_register h hnew.1 hnew.2
  | call =>
    obtain ⟨w, hw, rfl⟩ := Option.map_eq_some_iff.mp hnext
    have hne : s.store ≠ [] := by
      intro hnil
      have hqueue : s.intervallist = [] := by
        refine List.eq_nil_iff_forall_not_mem.mpr fun y hy => ?_
        have := h.queue.keys _ (List.mem_map_of_mem hy)
        simp [hnil] at this
      rw [hnil, hqueue] at hw
      exact absurd hw (by simp [returnInterfaceList, createList, setSleepTime])
    obtain ⟨w', hw', hontime⟩ :=
      returnInterfaceList_onTime hne h.names h.pos h.queue h.new hok
    rw [hw, Option.some.injEq] at hw'
    subst hw'
    exact invariant_call h hontime

/-- In every run in which the insertions are in order, no delta is ever negative and every interface
is reported exactly one, two, ... intervals after it was registered. -/
theorem punctual_of_inOrder (es : List SchedulerEvent) (s : Scheduler)
    (hrun : Trace.RunWith next InOrder init es s) : s.Punctual :=
  (hrun.invariant invariant_init fun _ _ _ => invariant_step).punctual

/-- `"wlan3"`. -/
def wlan3 : CString := ⟨[119, 108, 97, 110, 51], by decide⟩

/-- `"wlan1"` is sampled every 2 s; when it has just been reported, `"wlan2"` is registered with an
interval of 3 s. -/
theorem punctual_of_inOrder_two :
    ∃ s, Trace.RunWith next InOrder init
        [.register wlan1 0 2000, .call, .register wlan2 0 3000, .call] s ∧ s.Punctual := by
  have hfirst : Trace.RunWith next InOrder init ([] ++ [.register wlan1 0 2000] ++ [.call])
      ⟨[⟨wlan1, 0, 2000⟩], [⟨wlan1, 2000, 2000, true⟩], 2000,
        Function.update (fun _ => 0) wlan1 0, [(2000, [wlan1])]⟩ := by
    refine .snoc (.snoc .nil trivial rfl) ?_ rfl
    exact admissible_of_new (by simp [init])
  have hregister : Trace.RunWith next InOrder init
      ([] ++ [.register wlan1 0 2000] ++ [.call] ++ [.register wlan2 0 3000])
      ⟨[⟨wlan1, 0, 2000⟩, ⟨wlan2, 0, 3000⟩], [⟨wlan1, 2000, 2000, true⟩], 2000,
        Function.update (Function.update (fun _ => 0) wlan1 0) wlan2 2000, [(2000, [wlan1])]⟩ :=
    hfirst.snoc trivial rfl
  have hsecond := hregister.snoc (e := .call) ?_ rfl
  · exact ⟨_, hsecond, punctual_of_inOrder _ _ hsecond⟩
  · refine ⟨fun hnot => absurd hnot (by decide), fun _ => ?_, trivial⟩
    have hspot : spot 3000 [⟨wlan1, 2000, 2000, true⟩] = some (⟨wlan1, 2000, 2000, true⟩, []) := rfl
    show Admits _ 3000 [⟨wlan1, 2000, 2000, true⟩]
    rw [Admits, hspot]
    exact ⟨fun _ => by decide, by decide, by simp⟩

/-- `"wlan1"` and `"wlan2"` have intervals of 3 s and 2 s.  After 2 s `"wlan3"` is registered with an
interval of 1.5 s: it goes behind `"wlan2"`, and its delta is 1.5 s - 2 s. -/
theorem punctual_fails : ∃ es s, Trace.Run next init es s ∧ ¬ s.Punctual := by
  have hlist : (Trace.exec next init [.register wlan1 0 3000, .register wlan2 0 2000, .call,
      .register wlan3 0 1500, .call]).map Scheduler.intervallist =
      some [⟨wlan2, 2000, 1000, true⟩, ⟨wlan3, 1500, -500, true⟩, ⟨wlan1, 3000, 2500, true⟩] := by
    decide +kernel
  obtain ⟨s, hrun, hs⟩ := Option.map_eq_some_iff.mp hlist
  refine ⟨_, s, Trace.run_iff_exec.mpr hrun, fun h => ?_⟩
  have hnonneg := h.nonneg ⟨wlan3, 1500, -500, true⟩ (by simp [hs])
  exact absurd hnonneg (by decide)

end Scheduler

end Ethanol
