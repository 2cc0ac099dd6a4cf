import EthanolHostapd.Containers.DeltaQueue
import EthanolHostapd.EthanolFunctions.SetSnrInformation
import Mathlib.Order.Bounds.Basic

/-!
# When to sample the SNR of the interfaces

`sleep_intervals.c`: `return_interface_list` sleeps until the SNR of some interface of the store is to
be sampled again and returns the names of those interfaces.

Between two calls the interfaces wait in a delta queue, `intervallist`.  A call first adds the
interfaces of the store that are not in the queue (`create_list`), with their interval in place of a
delta, and `set_sleep_time` turns these into deltas.  After the sleep the entries that are due move to
an auxiliary list and from there back into the queue.

The nodes are values here.  `last` always points to the last node of a list that is not empty, so it is
left out; the times are mathematical integers.
-/

namespace Ethanol

open Wire

/-- `struct intervals`, a node of `intervallist` and of `aux`. -/
structure Intervals where
  intfName : CString
  interval : ℤ
  sleepTime : ℤ
  /-- Whether `sleepTime` has been made a delta. -/
  sleep : Bool
  deriving DecidableEq

/-- `sleep_time` as the delta of a node. -/
def Intervals.delta : Delta Intervals where
  delta y := y.sleepTime
  reduce y d := { y with sleepTime := y.sleepTime - d }
  delta_reduce _ _ := rfl

/-- `verify`. -/
def verify (intfName : CString) (list : List Intervals) : Bool :=
  list.any fun y => y.intfName = intfName

/-- The loop of `insert_on_list` and `insert_on_aux`: put `x` behind the first node that sleeps
shorter, if that is the last one or the next one does not.  `none` if the loop ends without. -/
def insertBehind (x : Intervals) : List Intervals → Option (List Intervals)
  | [] => none
  | [y] => if y.sleepTime < x.sleepTime then some [y, x] else none
  | y :: z :: list =>
    if y.sleepTime < x.sleepTime ∧ z.sleepTime ≥ x.sleepTime then some (y :: x :: z :: list)
    else (insertBehind x (z :: list)).map (y :: ·)

/-- `insert_on_list` and `insert_on_aux` from their loop on: the head is the fallback. -/
def insertByTime (x : Intervals) (list : List Intervals) : List Intervals :=
  (insertBehind x list).getD (x :: list)

/-- `insert_on_list`. -/
def insertOnList (interval : ℤ) (intfName : CString) (list : List Intervals) : List Intervals :=
  if verify intfName list then list else insertByTime ⟨intfName, interval, interval, false⟩ list

/-- `insert_on_aux`. -/
def insertOnAux (interval : ℤ) (intfName : CString) (aux : List Intervals) : List Intervals :=
  insertByTime ⟨intfName, interval, interval, true⟩ aux

/-- `create_list`. -/
def createList (intfs : Interfaces) (list : List Intervals) : List Intervals :=
  intfs.foldl (fun list x => insertOnList x.interval.toInt x.intfName list) list

/-- The loop of `set_sleep_time`. -/
def setSleepTimes (previousInterval : ℤ) : List Intervals → List Intervals
  | [] => []
  | y :: list =>
    (if y.sleep then y
      else { y with sleepTime := y.interval - previousInterval, sleep := true }) ::
        setSleepTimes y.interval list

/-- `set_sleep_time`, which reads through `NULL` if the list is empty. -/
def setSleepTime : List Intervals → Option (List Intervals)
  | [] => none
  | y :: list => some ({ y with sleep := true } :: setSleepTimes y.interval list)

/-- `sleep_remove`: the auxiliary list and what is left of the list. -/
def sleepRemove (list : List Intervals) : List Intervals × List Intervals :=
  ((list.takeWhile fun y => y.sleepTime = 0).foldl
    (fun aux y => insertOnAux y.interval y.intfName aux) [],
    list.dropWhile fun y => y.sleepTime = 0)

/-- `sleep_insert`: the nodes of the auxiliary list go back, each with its whole interval. -/
def sleepInsert (aux list : List Intervals) : List Intervals :=
  aux.foldl
    (fun list c => DeltaQueue.insert Intervals.delta ⟨c.intfName, c.interval, c.interval, true⟩ list)
    list

/-- `nanosleep` in ms: a negative time is refused with `EINVAL`, at once. -/
def nanosleep (sleepTime : ℤ) : ℤ := if sleepTime < 0 then 0 else sleepTime

/-- What a call of `return_interface_list` leaves: the time it slept, `interfaceslist` and
`intervallist`. -/
structure Wakeup where
  slept : ℤ
  interfaceslist : List CString
  intervallist : List Intervals

/-- `execute_sleep`, which reads through `NULL` if the list is empty. -/
def executeSleep : List Intervals → Option Wakeup
  | [] => none
  | y :: list =>
    let (aux, rest) := sleepRemove ({ y with sleepTime := 0 } :: list)
    some ⟨nanosleep y.sleepTime, aux.map Intervals.intfName, sleepInsert aux rest⟩

/-- `return_interface_list`, from an `interfaceslist` that was freed. -/
def returnInterfaceList (intfs : Interfaces) (list : List Intervals) : Option Wakeup :=
  (setSleepTime (createList intfs list)).bind executeSleep

/-! ## What is kept when nodes move -/

/-- What a node keeps when it moves between the lists. -/
def Intervals.key (y : Intervals) : CString × ℤ := (y.intfName, y.interval)

lemma insertBehind_perm {x : Intervals} {list r : List Intervals} (h : insertBehind x list = some r) :
    r.Perm (x :: list) := by
  induction list generalizing r with
  | nil => simp [insertBehind] at h
  | cons y list ih =>
    cases list with
    | nil =>
      simp only [insertBehind] at h
      split_ifs at h
      cases h
      exact List.Perm.swap x y []
    | cons z list =>
      simp only [insertBehind] at h
      split_ifs at h
      · cases h
        exact List.Perm.swap x y _
      · obtain ⟨r', hr', rfl⟩ := Option.map_eq_some_iff.mp h
        exact ((ih hr').cons y).trans (List.Perm.swap x y _)

lemma insertByTime_perm (x : Intervals) (list : List Intervals) :
    (insertByTime x list).Perm (x :: list) := by
  unfold insertByTime
  cases h : insertBehind x list with
  | none => exact List.Perm.refl _
  | some r => exact insertBehind_perm h

/-- The auxiliary list holds the removed nodes. -/
lemma foldl_insertOnAux_perm (list aux : List Intervals) :
    ((list.foldl (fun aux y => insertOnAux y.interval y.intfName aux) aux).map Intervals.key).Perm
      (list.map Intervals.key ++ aux.map Intervals.key) := by
  induction list generalizing aux with
  | nil => exact List.Perm.refl _
  | cons y list ih =>
    refine (ih _).trans ?_
    have hy : ((insertOnAux y.interval y.intfName aux).map Intervals.key).Perm
        (y.key :: aux.map Intervals.key) := (insertByTime_perm _ _).map _
    exact (hy.append_left _).trans List.perm_middle

lemma sleepInsert_perm (aux list : List Intervals) :
    ((sleepInsert aux list).map Intervals.key).Perm
      (aux.map Intervals.key ++ list.map Intervals.key) := by
  induction aux generalizing list with
  | nil => exact List.Perm.refl _
  | cons c aux ih =>
    refine (ih _).trans ?_
    have hc : ((DeltaQueue.insert Intervals.delta ⟨c.intfName, c.interval, c.interval, true⟩ list).map
        Intervals.key).Perm (c.key :: list.map Intervals.key) :=
      DeltaQueue.map_insert_perm (fun _ _ => rfl) _ _
    exact (hc.append_left _).trans List.perm_middle

/-! ## A queue that is ready to sleep -/

/-- Every node of the queue is due at the time `due`, counted from now, and all `sleep_time`s are
deltas. -/
structure Scheduled (due : CString × ℤ → ℤ) (list : List Intervals) : Prop where
  encodes : DeltaQueue.Encodes Intervals.delta (fun y => due y.key) 0 list
  sleep : ∀ y ∈ list, y.sleep = true

lemma Scheduled.insert {due : CString × ℤ → ℤ} {list : List Intervals} (h : Scheduled due list)
    {x : Intervals} (hsleep : x.sleep = true) (hx : 0 ≤ x.sleepTime) (hdue : x.sleepTime = due x.key) :
    Scheduled due (DeltaQueue.insert Intervals.delta x list) := by
  refine ⟨h.encodes.insert (fun _ _ => rfl) hx ((Int.zero_add _).trans hdue), fun y hy => ?_⟩
  have hperm := DeltaQueue.map_insert_perm (D := Intervals.delta) (f := Intervals.sleep)
    (fun _ _ => rfl) x list
  have hmem := hperm.subset (List.mem_map_of_mem hy)
  rcases List.mem_cons.mp hmem with heq | hmem
  · exact heq.trans hsleep
  · obtain ⟨z, hz, heq⟩ := List.mem_map.mp hmem
    exact heq.symm.trans (h.sleep z hz)

/-- Nodes that come back with their whole interval are due after it. -/
lemma Scheduled.sleepInsert {due : CString × ℤ → ℤ} {aux list : List Intervals}
    (h : Scheduled due list) (haux : ∀ c ∈ aux, 0 ≤ c.interval ∧ due c.key = c.interval) :
    Scheduled due (sleepInsert aux list) := by
  induction aux generalizing list with
  | nil => exact h
  | cons c aux ih =>
    obtain ⟨hnonneg, hdue⟩ := haux c (by simp)
    exact ih (h.insert rfl hnonneg hdue.symm) fun c' hc' => haux c' (by simp [hc'])

/-- When the nodes are due after the time `slept` has passed: those that were due then wait for
another interval. -/
def dueAfter (due : CString × ℤ → ℤ) (slept : ℤ) (k : CString × ℤ) : ℤ :=
  if due k = slept then k.2 else due k - slept

/-- What `execute_sleep` does with a queue that is ready. -/
structure Wakes (due : CString × ℤ → ℤ) (list : List Intervals) (w : Wakeup) : Prop where
  /-- It sleeps until the first node is due. -/
  pos : 0 < w.slept
  first : ∃ y ∈ list, due y.key = w.slept
  least : ∀ y ∈ list, w.slept ≤ due y.key
  /-- It returns the nodes that are due then, each once. -/
  nodup : (list.map Intervals.intfName).Nodup → w.interfaceslist.Nodup
  names : ∀ n, n ∈ w.interfaceslist ↔ ∃ y ∈ list, y.intfName = n ∧ due y.key = w.slept
  /-- It keeps the nodes and schedules them anew. -/
  keys : (w.intervallist.map Intervals.key).Perm (list.map Intervals.key)
  scheduled : Scheduled (dueAfter due w.slept) w.intervallist

/-- `sleep_remove` splits a queue into the nodes that are due now and the others, which stay
scheduled. -/
lemma sleepRemove_spec {due : CString × ℤ → ℤ} {now : ℤ} {list : List Intervals}
    (h : DeltaQueue.Encodes Intervals.delta (fun y => due y.key) now list)
    (hsleep : ∀ y ∈ list, y.sleep = true) :
    (∀ k, k ∈ (sleepRemove list).1.map Intervals.key ↔ ∃ y ∈ list, y.key = k ∧ due k = now) ∧
      ((sleepRemove list).1.map Intervals.key ++ (sleepRemove list).2.map Intervals.key).Perm
        (list.map Intervals.key) ∧
      Scheduled (dueAfter due now) (sleepRemove list).2 := by
  obtain ⟨htake, hdrop, hrest⟩ := h.takeWhile
  have hsplit : list.takeWhile (fun y => y.sleepTime = 0) ++
      list.dropWhile (fun y => y.sleepTime = 0) = list := List.takeWhile_append_dropWhile
  have haux : ((sleepRemove list).1.map Intervals.key).Perm
      ((list.takeWhile fun y => y.sleepTime = 0).map Intervals.key) := by
    simpa [sleepRemove] using foldl_insertOnAux_perm (list.takeWhile fun y => y.sleepTime = 0) []
  refine ⟨fun k => ?_, ?_, ?_, fun y hy => ?_⟩
  · rw [haux.mem_iff, List.mem_map]
    constructor
    · rintro ⟨y, hy, rfl⟩
      exact ⟨y, (List.takeWhile_sublist _).subset hy, rfl, htake y hy⟩
    · rintro ⟨y, hy, rfl, hdue⟩
      rw [← hsplit] at hy
      rcases List.mem_append.mp hy with hy | hy
      · exact ⟨y, hy, rfl⟩
      · exact absurd hdue (ne_of_gt (hdrop y hy))
  · refine (haux.append_right _).trans ?_
    rw [sleepRemove, ← List.map_append, hsplit]
  · have hshift := hrest.sub now
    rw [Int.sub_self] at hshift
    refine hshift.congr fun y hy => ?_
    rw [dueAfter, if_neg (ne_of_gt (hdrop y hy))]
  · exact hsleep y ((List.dropWhile_sublist _).subset hy)

theorem executeSleep_wakes {due : CString × ℤ → ℤ} {list : List Intervals} (hne : list ≠ [])
    (h : Scheduled due list) (hdue : ∀ y ∈ list, 0 < due y.key)
    (hinterval : ∀ y ∈ list, 0 < y.interval) : ∃ w, executeSleep list = some w ∧ Wakes due list w := by
  obtain ⟨y, list, rfl⟩ := List.exists_cons_of_ne_nil hne
  obtain ⟨⟨hnonneg, hfirst, htail⟩, hsleep⟩ := h
  have hy : y.sleepTime = due y.key := (Int.zero_add _).symm.trans hfirst
  have hslept : nanosleep y.sleepTime = due y.key := by
    have := hdue y (by simp)
    rw [nanosleep, if_neg (by omega), hy]
  -- Once the first node has slept, `due` is counted from the time at which it is due.
  have hnow : DeltaQueue.Encodes Intervals.delta (fun y => due y.key) (due y.key)
      ({ y with sleepTime := 0 } :: list) := by
    rw [show 0 + Intervals.delta.delta y = due y.key + 0 by rw [Int.add_zero]; exact hfirst] at htail
    exact ⟨le_refl (0 : ℤ), Int.add_zero _, htail⟩
  have hleast : ∀ z ∈ y :: list, due y.key ≤ due z.key := by
    intro z hz
    rcases List.mem_cons.mp hz with rfl | hz
    · exact le_refl _
    · exact hnow.le_due z (List.mem_cons_of_mem _ hz)
  obtain ⟨hdueNow, hperm, hrest⟩ := sleepRemove_spec hnow (by simpa using hsleep)
  have hmem : ∀ k, k ∈ (sleepRemove ({ y with sleepTime := 0 } :: list)).1.map Intervals.key ↔
      ∃ z ∈ y :: list, z.key = k ∧ due k = due y.key := by
    intro k
    rw [hdueNow]
    simp [Intervals.key]
  have hsplit : ((sleepRemove ({ y with sleepTime := 0 } :: list)).1.map Intervals.key ++
      (sleepRemove ({ y with sleepTime := 0 } :: list)).2.map Intervals.key).Perm
        ((y :: list).map Intervals.key) := hperm
  refine ⟨⟨nanosleep y.sleepTime, _, _⟩, rfl, ?_⟩
  rw [hslept]
  refine ⟨hdue y (by simp), ⟨y, by simp, rfl⟩, hleast, fun hnodup => ?_, fun n => ?_, ?_, ?_⟩
  · have hnames := (hsplit.map Prod.fst).nodup_iff.mpr (by rw [List.map_map]; exact hnodup)
    rw [List.map_append, List.map_map] at hnames
    exact (List.nodup_append.mp hnames).1
  · constructor
    · intro hn
      obtain ⟨c, hc, rfl⟩ := List.mem_map.mp hn
      obtain ⟨z, hz, hkey, hzdue⟩ := (hmem c.key).mp (List.mem_map_of_mem hc)
      exact ⟨z, hz, congrArg Prod.fst hkey, hkey ▸ hzdue⟩
    · rintro ⟨z, hz, rfl, hzdue⟩
      obtain ⟨c, hc, hkey⟩ := List.mem_map.mp ((hmem z.key).mpr ⟨z, hz, rfl, hzdue⟩)
      exact List.mem_map.mpr ⟨c, hc, congrArg Prod.fst hkey⟩
  · exact (sleepInsert_perm _ _).trans hsplit
  · refine hrest.sleepInsert fun c hc => ?_
    obtain ⟨z, hz, hkey, hzdue⟩ := (hmem c.key).mp (List.mem_map_of_mem hc)
    have hint : z.interval = c.interval := congrArg Prod.snd hkey
    refine ⟨hint ▸ (hinterval z hz).le, ?_⟩
    rw [dueAfter, if_pos hzdue]
    rfl

/-! ## Nodes that have just been inserted -/

/-- The queue between `create_list` and `set_sleep_time`.  `acc` is the time at which the node before
is due and `prev` its interval; both are 0 at the start.  A node that was scheduled before has a delta
that leads to its time; one that was just inserted is due after its interval, and
`set_sleep_time` gets this right because the node before is due after its own interval too. -/
inductive Fit (due : CString × ℤ → ℤ) : ℤ → ℤ → List Intervals → Prop
  | nil {acc prev : ℤ} : Fit due acc prev []
  | old {acc prev : ℤ} {y : Intervals} {list : List Intervals} (hsleep : y.sleep = true)
      (hnonneg : 0 ≤ y.sleepTime) (hdue : acc + y.sleepTime = due y.key)
      (htail : Fit due (acc + y.sleepTime) y.interval list) : Fit due acc prev (y :: list)
  | new {prev : ℤ} {y : Intervals} {list : List Intervals} (hsleep : y.sleep = false)
      (htime : y.sleepTime = y.interval) (hdue : due y.key = y.interval)
      (hle : prev ≤ y.interval) (htail : Fit due y.interval y.interval list) :
      Fit due prev prev (y :: list)

lemma setSleepTimes_key (prev : ℤ) (list : List Intervals) :
    (setSleepTimes prev list).map Intervals.key = list.map Intervals.key := by
  induction list generalizing prev with
  | nil => rfl
  | cons y list ih =>
    rw [setSleepTimes, List.map_cons, List.map_cons, ih]
    cases y.sleep <;> rfl

lemma setSleepTimes_sleep (prev : ℤ) (list : List Intervals) :
    ∀ y ∈ setSleepTimes prev list, y.sleep = true := by
  induction list generalizing prev with
  | nil => simp [setSleepTimes]
  | cons y list ih =>
    intro z hz
    rcases List.mem_cons.mp hz with rfl | hz
    · cases hsleep : y.sleep <;> simp [hsleep]
    · exact ih _ z hz

/-- `set_sleep_time` makes deltas of the intervals of the new nodes. -/
lemma Fit.setSleepTimes {due : CString × ℤ → ℤ} {acc prev : ℤ} {list : List Intervals}
    (h : Fit due acc prev list) :
    DeltaQueue.Encodes Intervals.delta (fun y => due y.key) acc (setSleepTimes prev list) := by
  induction h with
  | nil => trivial
  | old hsleep hnonneg hdue _ ih =>
    simp only [Ethanol.setSleepTimes, hsleep, if_true]
    exact ⟨hnonneg, hdue, ih⟩
  | @new prev y list hsleep htime hdue hle _ ih =>
    simp only [Ethanol.setSleepTimes, hsleep, Bool.false_eq_true, if_false]
    have hsum : prev + (y.interval - prev) = y.interval := by omega
    refine ⟨Int.sub_nonneg.mpr hle, hsum.trans hdue.symm, ?_⟩
    show DeltaQueue.Encodes _ _ (prev + (y.interval - prev)) _
    rw [hsum]
    exact ih

lemma Fit.setSleepTime {due : CString × ℤ → ℤ} {list : List Intervals} (h : Fit due 0 0 list)
    (hne : list ≠ []) :
    ∃ list', setSleepTime list = some list' ∧ Scheduled due list' ∧
      list'.map Intervals.key = list.map Intervals.key := by
  obtain ⟨y, list, rfl⟩ := List.exists_cons_of_ne_nil hne
  -- the first node keeps its time, which is what the loop would make of it
  have hloop : Ethanol.setSleepTimes 0 (y :: list) =
      { y with sleep := true } :: Ethanol.setSleepTimes y.interval list := by
    cases h with
    | old hsleep _ _ _ =>
      obtain ⟨n, v, t, sleep⟩ := y
      obtain rfl : sleep = true := hsleep
      rfl
    | new hsleep htime _ _ _ =>
      rw [Ethanol.setSleepTimes, if_neg (by simp [hsleep]), Int.sub_zero, ← htime]
  refine ⟨_, rfl, ⟨?_, ?_⟩, ?_⟩
  · rw [← hloop]
    exact h.setSleepTimes
  · rw [← hloop]
    exact setSleepTimes_sleep _ _
  · rw [← hloop]
    exact setSleepTimes_key _ _

/-- The node behind which `insert_on_list` puts a node with interval `v`, and the nodes behind
that. -/
def spot (v : ℤ) : List Intervals → Option (Intervals × List Intervals)
  | [] => none
  | [y] => if y.sleepTime < v then some (y, []) else none
  | y :: z :: list =>
    if y.sleepTime < v ∧ z.sleepTime ≥ v then some (y, z :: list) else spot v (z :: list)

/-- An insertion that leaves the queue in order.  At the head, there is no node that was scheduled
before.  Behind a node `y`, that node is new or `fresh` (due after its whole interval), has no longer
interval, and has the same interval if a node that was scheduled before follows. -/
def Admits (fresh : CString × ℤ → Prop) (v : ℤ) (list : List Intervals) : Prop :=
  match spot v list with
  | none => ∀ e ∈ list, e.sleep = false
  | some (y, behind) => (y.sleep = true → fresh y.key) ∧ y.interval ≤ v ∧
      ((∃ e ∈ behind, e.sleep = true) → v = y.interval)

/-- The insertions of `create_list`, one after the other, leave the queue in order. -/
def Admissible (fresh : CString × ℤ → Prop) : Interfaces → List Intervals → Prop
  | [], _ => True
  | x :: intfs, list =>
    (verify x.intfName list = false → Admits fresh x.interval.toInt list) ∧
      Admissible fresh intfs (insertOnList x.interval.toInt x.intfName list)

lemma le_of_spot_eq_none {v : ℤ} {z : Intervals} {list : List Intervals}
    (h : spot v (z :: list) = none) : v ≤ z.sleepTime := by
  induction list generalizing z with
  | nil =>
    by_contra hlt
    simp [spot, not_le.mp hlt] at h
  | cons z' list ih =>
    simp only [spot] at h
    split_ifs at h with hcond
    have hz' := ih h
    by_contra hlt
    exact hcond ⟨not_le.mp hlt, hz'⟩

/-- Where the loop of `insert_on_list` puts a node. -/
lemma insertByTime_eq (x : Intervals) (list : List Intervals) :
    (spot x.sleepTime list = none ∧ insertByTime x list = x :: list) ∨
      ∃ front y behind, list = front ++ y :: behind ∧ spot x.sleepTime list = some (y, behind) ∧
        insertByTime x list = front ++ y :: x :: behind ∧ y.sleepTime < x.sleepTime ∧
        ∀ z ∈ behind.head?, x.sleepTime ≤ z.sleepTime := by
  unfold insertByTime
  suffices h : (spot x.sleepTime list = none ∧ insertBehind x list = none) ∨
      ∃ front y behind, list = front ++ y :: behind ∧ spot x.sleepTime list = some (y, behind) ∧
        insertBehind x list = some (front ++ y :: x :: behind) ∧ y.sleepTime < x.sleepTime ∧
        ∀ z ∈ behind.head?, x.sleepTime ≤ z.sleepTime by
    rcases h with ⟨hspot, hins⟩ | ⟨front, y, behind, hlist, hspot, hins, hlt, hle⟩
    · exact Or.inl ⟨hspot, by rw [hins]; rfl⟩
    · exact Or.inr ⟨front, y, behind, hlist, hspot, by rw [hins]; rfl, hlt, hle⟩
  induction list with
  | nil => exact Or.inl ⟨rfl, rfl⟩
  | cons y list ih =>
    cases list with
    | nil =>
      by_cases hlt : y.sleepTime < x.sleepTime
      · exact Or.inr ⟨[], y, [], rfl, by simp [spot, hlt], by simp [insertBehind, hlt], hlt, by simp⟩
      · exact Or.inl ⟨by simp [spot, hlt], by simp [insertBehind, hlt]⟩
    | cons z list =>
      by_cases hcond : y.sleepTime < x.sleepTime ∧ z.sleepTime ≥ x.sleepTime
      · exact Or.inr ⟨[], y, z :: list, rfl, by rw [spot, if_pos hcond],
          by rw [insertBehind, if_pos hcond]; rfl, hcond.1, by simpa using hcond.2⟩
      · rw [spot, if_neg hcond, insertBehind, if_neg hcond]
        rcases ih with ⟨hspot, hins⟩ | ⟨front, y', behind, hlist, hspot, hins, hlt, hle⟩
        · exact Or.inl ⟨hspot, by rw [hins]; rfl⟩
        · exact Or.inr ⟨y :: front, y', behind, by rw [hlist]; rfl, hspot, by rw [hins]; rfl, hlt, hle⟩

/-- If only new nodes follow, the next one does not depend on what stands before it. -/
lemma Fit.restart {due : CString × ℤ → ℤ} {acc prev v : ℤ} {list : List Intervals}
    (h : Fit due acc prev list) (hnew : ∀ e ∈ list, e.sleep = false)
    (hle : ∀ z ∈ list.head?, v ≤ z.sleepTime) : Fit due v v list := by
  cases h with
  | nil => exact .nil
  | old hsleep _ _ _ =>
    rw [hnew _ (by simp)] at hsleep
    exact absurd hsleep (by simp)
  | new hsleep htime hdue _ htail =>
    refine .new hsleep htime hdue ?_ htail
    rw [← htime]
    exact hle _ (by simp)

/-- A new node behind a node that is due after its own interval. -/
lemma Fit.behind {due : CString × ℤ → ℤ} {acc prev : ℤ} {x y : Intervals} {list : List Intervals}
    (h : Fit due acc prev (y :: list)) (hsleep : x.sleep = false) (htime : x.sleepTime = x.interval)
    (hdue : due x.key = x.interval)
    (hnext : ∀ z ∈ list.head?, x.sleepTime ≤ z.sleepTime)
    (hfresh : y.sleep = true → due y.key = y.interval) (hle : y.interval ≤ x.interval)
    (hold : (∃ e ∈ list, e.sleep = true) → x.interval = y.interval) :
    Fit due acc prev (y :: x :: list) := by
  rw [htime] at hnext
  have htail : ∀ acc', Fit due acc' y.interval list → acc' = y.interval →
      Fit due x.interval x.interval list := by
    rintro acc' hfit rfl
    by_cases hsome : ∃ e ∈ list, e.sleep = true
    · rw [hold hsome]
      exact hfit
    · exact hfit.restart (by simpa using hsome) hnext
  cases h with
  | old hysleep hnonneg hydue hytail =>
    have hacc : acc + y.sleepTime = y.interval := hydue.trans (hfresh hysleep)
    refine .old hysleep hnonneg hydue ?_
    have hrest := htail _ hytail hacc
    rw [hacc]
    exact .new hsleep htime hdue hle hrest
  | new hysleep hytime hydue hyle hytail =>
    exact .new hysleep hytime hydue hyle (.new hsleep htime hdue hle (htail _ hytail rfl))

lemma Fit.mono {due : CString × ℤ → ℤ} {tail tail' : List Intervals}
    (htail : ∀ acc prev, Fit due acc prev tail → Fit due acc prev tail') {acc prev : ℤ}
    {front : List Intervals} (h : Fit due acc prev (front ++ tail)) :
    Fit due acc prev (front ++ tail') := by
  induction front generalizing acc prev with
  | nil => exact htail _ _ h
  | cons y front ih =>
    cases h with
    | old hsleep hnonneg hdue hrest => exact .old hsleep hnonneg hdue (ih hrest)
    | new hsleep htime hdue hle hrest => exact .new hsleep htime hdue hle (ih hrest)

/-- An admissible insertion keeps the queue in order. -/
lemma Fit.insertByTime {due : CString × ℤ → ℤ} {fresh : CString × ℤ → Prop} {list : List Intervals}
    {n : CString} {v : ℤ} (h : Fit due 0 0 list) (hfresh : ∀ k, fresh k → due k = k.2)
    (hv : 0 < v) (hdue : due (n, v) = v) (hadmits : Admits fresh v list) :
    Fit due 0 0 (insertByTime ⟨n, v, v, false⟩ list) := by
  rcases insertByTime_eq ⟨n, v, v, false⟩ list with
    ⟨hspot, hins⟩ | ⟨front, y, behind, rfl, hspot, hins, -, hnext⟩
  · rw [hins]
    rw [Admits, show spot v list = none from hspot] at hadmits
    refine .new rfl rfl hdue hv.le (h.restart hadmits fun z hz => ?_)
    obtain ⟨rest, rfl⟩ : ∃ rest, list = z :: rest := by
      cases list with
      | nil => simp at hz
      | cons z' rest => exact ⟨rest, by simpa using hz⟩
    exact le_of_spot_eq_none hspot
  · rw [hins]
    rw [Admits, show spot v (front ++ y :: behind) = some (y, behind) from hspot] at hadmits
    obtain ⟨hyfresh, hle, hold⟩ := hadmits
    refine h.mono fun acc prev hfit => ?_
    exact hfit.behind rfl rfl hdue hnext (fun hs => hfresh _ (hyfresh hs)) hle hold

lemma verify_eq_true_iff {n : CString} {list : List Intervals} :
    verify n list = true ↔ n ∈ list.map Intervals.intfName := by
  simp [verify]

lemma verify_eq_false_iff {n : CString} {list : List Intervals} :
    verify n list = false ↔ n ∉ list.map Intervals.intfName := by
  rw [← verify_eq_true_iff, Bool.not_eq_true]

/-- `insert_on_list` adds the interface if it is not there. -/
lemma insertOnList_key_perm (v : ℤ) {n : CString} {list : List Intervals}
    (hn : n ∉ list.map Intervals.intfName) :
    ((insertOnList v n list).map Intervals.key).Perm ((n, v) :: list.map Intervals.key) := by
  rw [insertOnList, if_neg (by rw [verify_eq_true_iff]; exact hn)]
  exact (insertByTime_perm _ _).map _

lemma map_intfName_eq (list : List Intervals) :
    list.map Intervals.intfName = (list.map Intervals.key).map Prod.fst := by
  rw [List.map_map]
  rfl

lemma insertOnList_names_perm (v : ℤ) {n : CString} {list : List Intervals}
    (hn : n ∉ list.map Intervals.intfName) :
    ((insertOnList v n list).map Intervals.intfName).Perm (n :: list.map Intervals.intfName) := by
  rw [map_intfName_eq, map_intfName_eq]
  exact (insertOnList_key_perm v hn).map Prod.fst

/-- The key that a node of the store will have in the queue. -/
def SnrInformation.key (x : SnrInformation) : CString × ℤ := (x.intfName, x.interval.toInt)

lemma insertOnList_of_mem (v : ℤ) {n : CString} {list : List Intervals}
    (hn : n ∈ list.map Intervals.intfName) : insertOnList v n list = list := by
  rw [insertOnList, if_pos (verify_eq_true_iff.mpr hn)]

/-- `create_list` leaves a queue in order to which all its insertions were admissible. -/
lemma Fit.createList {due : CString × ℤ → ℤ} {fresh : CString × ℤ → Prop} {intfs : Interfaces}
    {list : List Intervals} (h : Fit due 0 0 list) (hfresh : ∀ k, fresh k → due k = k.2)
    (hnew : ∀ x ∈ intfs, x.intfName ∉ list.map Intervals.intfName →
      0 < x.interval.toInt ∧ due x.key = x.interval.toInt)
    (hadmissible : Admissible fresh intfs list) : Fit due 0 0 (createList intfs list) := by
  induction intfs generalizing list with
  | nil => exact h
  | cons x intfs ih =>
    obtain ⟨hadmits, hrest⟩ := hadmissible
    rw [Ethanol.createList, List.foldl_cons]
    by_cases hx : x.intfName ∈ list.map Intervals.intfName
    · rw [insertOnList_of_mem _ hx] at hrest ⊢
      exact ih h (fun x' hx' => hnew x' (by simp [hx'])) hrest
    · obtain ⟨hpos, hdue⟩ := hnew x (by simp) hx
      refine ih ?_ (fun x' hx' hnot => hnew x' (by simp [hx']) fun hmem => hnot ?_) hrest
      · rw [insertOnList, if_neg (by rw [verify_eq_true_iff]; exact hx)]
        exact h.insertByTime hfresh hpos hdue (hadmits (verify_eq_false_iff.mpr hx))
      · exact (insertOnList_names_perm _ hx).mem_iff.mpr (List.mem_cons_of_mem _ hmem)

/-- The interfaces of the queue after `create_list`. -/
lemma createList_nodup (intfs : Interfaces) {list : List Intervals}
    (h : (list.map Intervals.intfName).Nodup) :
    ((createList intfs list).map Intervals.intfName).Nodup := by
  induction intfs generalizing list with
  | nil => exact h
  | cons x intfs ih =>
    rw [createList, List.foldl_cons]
    by_cases hx : x.intfName ∈ list.map Intervals.intfName
    · rw [insertOnList_of_mem _ hx]
      exact ih h
    · exact ih ((insertOnList_names_perm _ hx).nodup_iff.mpr (List.nodup_cons.mpr ⟨hx, h⟩))

lemma mem_createList_key {intfs : Interfaces} {list : List Intervals}
    (hintfs : (intfs.map SnrInformation.intfName).Nodup) (k : CString × ℤ) :
    k ∈ (createList intfs list).map Intervals.key ↔
      k ∈ list.map Intervals.key ∨
        (k ∈ intfs.map SnrInformation.key ∧ k.1 ∉ list.map Intervals.intfName) := by
  induction intfs generalizing list with
  | nil => simp [createList]
  | cons x intfs ih =>
    obtain ⟨hx, hintfs⟩ := List.nodup_cons.mp hintfs
    have hne : k ∈ intfs.map SnrInformation.key → k.1 ≠ x.intfName := by
      rintro hk heq
      obtain ⟨x', hx', rfl⟩ := List.mem_map.mp hk
      exact hx (heq ▸ List.mem_map_of_mem hx')
    rw [createList, List.foldl_cons]
    by_cases hmem : x.intfName ∈ list.map Intervals.intfName
    · rw [insertOnList_of_mem _ hmem]
      refine (ih hintfs).trans ?_
      rw [List.map_cons, List.mem_cons]
      constructor
      · rintro (hk | ⟨hk, hnot⟩)
        · exact Or.inl hk
        · exact Or.inr ⟨Or.inr hk, hnot⟩
      · rintro (hk | ⟨rfl | hk, hnot⟩)
        · exact Or.inl hk
        · exact absurd hmem hnot
        · exact Or.inr ⟨hk, hnot⟩
    · refine (ih hintfs).trans ?_
      rw [(insertOnList_key_perm _ hmem).mem_iff, (insertOnList_names_perm _ hmem).mem_iff,
        List.mem_cons, List.map_cons, List.mem_cons, List.mem_cons]
      constructor
      · rintro ((rfl | hk) | ⟨hk, hnot⟩)
        · exact Or.inr ⟨Or.inl rfl, hmem⟩
        · exact Or.inl hk
        · exact Or.inr ⟨Or.inr hk, fun h => hnot (Or.inr h)⟩
      · rintro (hk | ⟨rfl | hk, hnot⟩)
        · exact Or.inl (Or.inr hk)
        · exact Or.inl (Or.inl rfl)
        · exact Or.inr ⟨hk, not_or.mpr ⟨hne hk, hnot⟩⟩

/-! ## When insertions are admissible -/

lemma Scheduled.fit {due : CString × ℤ → ℤ} {list : List Intervals} (h : Scheduled due list) :
    Fit due 0 0 list := by
  suffices hfit : ∀ acc prev, DeltaQueue.Encodes Intervals.delta (fun y => due y.key) acc list →
      Fit due acc prev list from hfit 0 0 h.encodes
  have hsleep := h.sleep
  clear h
  induction list with
  | nil => exact fun _ _ _ => .nil
  | cons y list ih =>
    rintro acc prev ⟨hnonneg, hdue, htail⟩
    exact .old (hsleep y (by simp)) hnonneg hdue
      (ih (fun z hz => hsleep z (by simp [hz])) _ _ htail)

/-- Nothing is inserted if all interfaces are in the queue. -/
lemma admissible_of_mem {fresh : CString × ℤ → Prop} {intfs : Interfaces} {list : List Intervals}
    (h : ∀ x ∈ intfs, x.intfName ∈ list.map Intervals.intfName) : Admissible fresh intfs list := by
  induction intfs with
  | nil => trivial
  | cons x intfs ih =>
    have hx := h x (by simp)
    refine ⟨fun hnot => absurd hx (verify_eq_false_iff.mp hnot), ?_⟩
    rw [insertOnList_of_mem _ hx]
    exact ih fun x' hx' => h x' (by simp [hx'])

/-- All insertions are admissible as long as nothing was scheduled. -/
lemma admissible_of_new {fresh : CString × ℤ → Prop} {intfs : Interfaces} {list : List Intervals}
    (h : ∀ y ∈ list, y.sleep = false ∧ y.sleepTime = y.interval) : Admissible fresh intfs list := by
  induction intfs generalizing list with
  | nil => trivial
  | cons x intfs ih =>
    refine ⟨fun _ => ?_, ih fun y hy => ?_⟩
    · rcases insertByTime_eq ⟨x.intfName, x.interval.toInt, x.interval.toInt, false⟩ list with
        ⟨hspot, -⟩ | ⟨front, y, behind, hlist, hspot, -, hlt, -⟩
      · rw [Admits, show spot x.interval.toInt list = none from hspot]
        exact fun e he => (h e he).1
      · rw [Admits, show spot x.interval.toInt list = some (y, behind) from hspot]
        have hy := h y (by simp [hlist])
        refine ⟨fun hs => absurd hs (by simp [hy.1]), ?_, ?_⟩
        · rw [← hy.2]
          exact le_of_lt hlt
        · rintro ⟨e, he, hs⟩
          exact absurd hs (by simp [(h e (by simp [hlist, he])).1])
    · rw [insertOnList] at hy
      split_ifs at hy
      · exact h y hy
      · rcases List.mem_cons.mp ((insertByTime_perm _ _).subset hy) with rfl | hy
        · exact ⟨rfl, rfl⟩
        · exact h y hy

/-! ## The time to the next sample -/

/-- The time from `now` to the next sample of an interface that was registered at `registeredAt` and
is sampled every `k.2` ms. -/
def remaining (now : ℤ) (registeredAt : CString → ℤ) (k : CString × ℤ) : ℤ :=
  k.2 - (now - registeredAt k.1) % k.2

section Remaining

variable {now : ℤ} {registeredAt : CString → ℤ} {k : CString × ℤ}

lemma remaining_pos (hk : 0 < k.2) : 0 < remaining now registeredAt k := by
  have := Int.emod_lt_of_pos (now - registeredAt k.1) hk
  unfold remaining
  omega

lemma remaining_of_dvd (h : k.2 ∣ now - registeredAt k.1) : remaining now registeredAt k = k.2 := by
  rw [remaining, Int.emod_eq_zero_of_dvd h, Int.sub_zero]

/-- There is a sample at `now + remaining`, and none between `now` and then. -/
lemma dvd_iff_eq_remaining (hk : 0 < k.2) {t : ℤ} (hlt : now < t)
    (hle : t ≤ now + remaining now registeredAt k) :
    k.2 ∣ t - registeredAt k.1 ↔ t = now + remaining now registeredAt k := by
  have hmod := Int.emod_add_mul_ediv (now - registeredAt k.1) k.2
  have hnonneg := Int.emod_nonneg (now - registeredAt k.1) (ne_of_gt hk)
  unfold remaining at hle ⊢
  constructor
  · intro hdvd
    -- the distance to the next sample is divisible and less than an interval
    have hrest : k.2 ∣ now + (k.2 - (now - registeredAt k.1) % k.2) - t := by
      have heq : now + (k.2 - (now - registeredAt k.1) % k.2) - t =
          k.2 * ((now - registeredAt k.1) / k.2 + 1) - (t - registeredAt k.1) := by
        rw [Int.mul_add]
        omega
      rw [heq]
      exact dvd_sub (Dvd.intro _ rfl) hdvd
    have hzero := Int.eq_zero_of_dvd_of_nonneg_of_lt (by omega) (by omega) hrest
    omega
  · rintro rfl
    refine ⟨(now - registeredAt k.1) / k.2 + 1, ?_⟩
    rw [Int.mul_add]
    omega

/-- The remaining time is the least positive time after which there is a sample. -/
lemma remaining_isLeast (hk : 0 < k.2) :
    IsLeast {d | 0 < d ∧ k.2 ∣ now + d - registeredAt k.1} (remaining now registeredAt k) := by
  have hpos : 0 < remaining now registeredAt k := remaining_pos hk
  refine ⟨⟨hpos, (dvd_iff_eq_remaining hk (by omega) (le_refl _)).mpr rfl⟩, ?_⟩
  rintro d ⟨hd, hdvd⟩
  by_contra hlt
  have heq : now + d = now + remaining now registeredAt k :=
    (dvd_iff_eq_remaining hk (by omega) (by omega)).mp hdvd
  omega

/-- The samples go on after a sleep that ends with the next sample or before it. -/
lemma dueAfter_remaining (hk : 0 < k.2) {slept : ℤ} (hpos : 0 < slept)
    (hle : slept ≤ remaining now registeredAt k) :
    dueAfter (remaining now registeredAt) slept k = remaining (now + slept) registeredAt k := by
  have hiff : k.2 ∣ now + slept - registeredAt k.1 ↔
      now + slept = now + remaining now registeredAt k :=
    dvd_iff_eq_remaining hk (by omega) (by omega)
  rw [dueAfter]
  split_ifs with heq
  · rw [remaining_of_dvd (hiff.mpr (by omega))]
  · have hlt : slept < remaining now registeredAt k := lt_of_le_of_ne hle (Ne.symm heq)
    have hnonneg := Int.emod_nonneg (now - registeredAt k.1) (ne_of_gt hk)
    unfold remaining at hlt ⊢
    have hmod : (now + slept - registeredAt k.1) % k.2 =
        slept + (now - registeredAt k.1) % k.2 := by
      rw [show now + slept - registeredAt k.1 = slept + (now - registeredAt k.1) by omega,
        Int.add_emod, Int.emod_eq_of_lt hpos.le (by omega)]
      exact Int.emod_eq_of_lt (by omega) (by omega)
    omega

end Remaining

/-! ## One call -/

/-- What a call at the time `now` does: it sleeps until the next sample of some interface, returns the
interfaces that are to be sampled then, and leaves a queue that encodes their next samples. -/
structure OnTime (now : ℤ) (registeredAt : CString → ℤ) (intfs : Interfaces) (w : Wakeup) :
    Prop where
  pos : 0 < w.slept
  first : ∃ x ∈ intfs, remaining now registeredAt x.key = w.slept
  least : ∀ x ∈ intfs, w.slept ≤ remaining now registeredAt x.key
  nodup : w.interfaceslist.Nodup
  names : ∀ n, n ∈ w.interfaceslist ↔
    ∃ x ∈ intfs, x.intfName = n ∧ remaining now registeredAt x.key = w.slept
  keys : (w.intervallist.map Intervals.key).Perm (intfs.map SnrInformation.key)
  scheduled : Scheduled (remaining (now + w.slept) registeredAt) w.intervallist

/-- The queue between two calls: it holds some interfaces of the store, each once, and encodes their
next samples. -/
structure QueueOf (now : ℤ) (registeredAt : CString → ℤ) (intfs : Interfaces)
    (list : List Intervals) : Prop where
  scheduled : Scheduled (remaining now registeredAt) list
  nodup : (list.map Intervals.intfName).Nodup
  keys : ∀ k ∈ list.map Intervals.key, k ∈ intfs.map SnrInformation.key

/-- Two nodes of the store with the same name are the same. -/
lemma key_eq_of_name_eq {intfs : Interfaces} (hnames : (intfs.map SnrInformation.intfName).Nodup)
    {k k' : CString × ℤ} (hk : k ∈ intfs.map SnrInformation.key)
    (hk' : k' ∈ intfs.map SnrInformation.key) (h : k.1 = k'.1) : k = k' := by
  obtain ⟨x, hx, rfl⟩ := List.mem_map.mp hk
  obtain ⟨x', hx', rfl⟩ := List.mem_map.mp hk'
  rw [List.inj_on_of_nodup_map hnames hx hx' h]

/-- After `create_list` the queue holds exactly the interfaces of the store. -/
lemma QueueOf.createList_perm {now : ℤ} {registeredAt : CString → ℤ} {intfs : Interfaces}
    {list : List Intervals} (h : QueueOf now registeredAt intfs list)
    (hnames : (intfs.map SnrInformation.intfName).Nodup) :
    ((createList intfs list).map Intervals.key).Perm (intfs.map SnrInformation.key) := by
  refine (List.perm_ext_iff_of_nodup ?_ ?_).mpr fun k => ?_
  · exact List.Nodup.of_map Prod.fst (map_intfName_eq _ ▸ createList_nodup intfs h.nodup)
  · refine List.Nodup.of_map Prod.fst ?_
    rw [List.map_map]
    exact hnames
  · rw [mem_createList_key hnames]
    constructor
    · rintro (hk | ⟨hk, -⟩)
      · exact h.keys k hk
      · exact hk
    · intro hk
      by_cases hmem : k.1 ∈ list.map Intervals.intfName
      · obtain ⟨y, hy, heq⟩ := List.mem_map.mp hmem
        have hykey := List.mem_map_of_mem (f := Intervals.key) hy
        rw [key_eq_of_name_eq hnames hk (h.keys _ hykey) heq.symm]
        exact Or.inl hykey
      · exact Or.inr ⟨hk, hmem⟩

/-- A call whose insertions are admissible is on time. -/
theorem returnInterfaceList_onTime {now : ℤ} {registeredAt : CString → ℤ} {intfs : Interfaces}
    {list : List Intervals} (hne : intfs ≠ [])
    (hnames : (intfs.map SnrInformation.intfName).Nodup)
    (hpos : ∀ x ∈ intfs, 0 < x.interval.toInt) (hqueue : QueueOf now registeredAt intfs list)
    (hnew : ∀ x ∈ intfs, x.intfName ∉ list.map Intervals.intfName → registeredAt x.intfName = now)
    (hadmissible : Admissible (fun k => k.2 ∣ now - registeredAt k.1) intfs list) :
    ∃ w, returnInterfaceList intfs list = some w ∧ OnTime now registeredAt intfs w := by
  have hfit : Fit (remaining now registeredAt) 0 0 (createList intfs list) := by
    refine hqueue.scheduled.fit.createList (fun k => remaining_of_dvd) ?_ hadmissible
    intro x hx hnot
    refine ⟨hpos x hx, remaining_of_dvd ?_⟩
    show x.interval.toInt ∣ now - registeredAt x.intfName
    rw [hnew x hx hnot, Int.sub_self]
    exact Int.dvd_zero _
  have hperm := hqueue.createList_perm hnames
  have hcreated : createList intfs list ≠ [] := by
    intro hnil
    rw [hnil, List.map_nil, List.nil_perm, List.map_eq_nil_iff] at hperm
    exact hne hperm
  obtain ⟨ready, hready, hscheduled, hkeys⟩ := hfit.setSleepTime hcreated
  rw [← hkeys] at hperm
  -- the nodes of the queue and of the store have the same keys
  have hstore : ∀ y ∈ ready, ∃ x ∈ intfs, x.key = y.key := fun y hy =>
    List.mem_map.mp (hperm.subset (List.mem_map_of_mem hy))
  have hqueued : ∀ x ∈ intfs, ∃ y ∈ ready, y.key = x.key := fun x hx =>
    List.mem_map.mp (hperm.symm.subset (List.mem_map_of_mem hx))
  have hinterval : ∀ y ∈ ready, 0 < y.key.2 := by
    intro y hy
    obtain ⟨x, hx, hkey⟩ := hstore y hy
    rw [← hkey]
    exact hpos x hx
  have hreadyNe : ready ≠ [] := by
    rintro rfl
    exact hcreated (List.map_eq_nil_iff.mp hkeys.symm)
  obtain ⟨w, hw, hwakes⟩ := executeSleep_wakes hreadyNe hscheduled
    (fun y hy => remaining_pos (hinterval y hy)) hinterval
  refine ⟨w, by rw [returnInterfaceList, hready]; exact hw, hwakes.pos, ?_, ?_, ?_, ?_, ?_, ?_⟩
  · obtain ⟨y, hy, heq⟩ := hwakes.first
    obtain ⟨x, hx, hkey⟩ := hstore y hy
    exact ⟨x, hx, hkey ▸ heq⟩
  · intro x hx
    obtain ⟨y, hy, hkey⟩ := hqueued x hx
    exact hkey ▸ hwakes.least y hy
  · refine hwakes.nodup ?_
    rw [map_intfName_eq, (hperm.map Prod.fst).nodup_iff, List.map_map]
    exact hnames
  · intro n
    rw [hwakes.names]
    constructor
    · rintro ⟨y, hy, rfl, heq⟩
      obtain ⟨x, hx, hkey⟩ := hstore y hy
      exact ⟨x, hx, congrArg Prod.fst hkey, hkey ▸ heq⟩
    · rintro ⟨x, hx, rfl, heq⟩
      obtain ⟨y, hy, hkey⟩ := hqueued x hx
      exact ⟨y, hy, congrArg Prod.fst hkey, hkey ▸ heq⟩
  · exact hwakes.keys.trans hperm
  · refine ⟨hwakes.scheduled.encodes.congr fun y hy => ?_, hwakes.scheduled.sleep⟩
    obtain ⟨z, hz, hkey⟩ := List.mem_map.mp (hwakes.keys.subset (List.mem_map_of_mem hy))
    rw [← hkey]
    exact dueAfter_remaining (hinterval z hz) hwakes.pos (hwakes.least z hz)

/-- The queue that a call leaves. -/
lemma OnTime.queueOf {now : ℤ} {registeredAt : CString → ℤ} {intfs : Interfaces} {w : Wakeup}
    (h : OnTime now registeredAt intfs w) (hnames : (intfs.map SnrInformation.intfName).Nodup) :
    QueueOf (now + w.slept) registeredAt intfs w.intervallist := by
  refine ⟨h.scheduled, ?_, fun k hk => h.keys.subset hk⟩
  rw [map_intfName_eq, (h.keys.map Prod.fst).nodup_iff, List.map_map]
  exact hnames

/-- All interfaces are in the queue that a call leaves. -/
lemma OnTime.mem_queue {now : ℤ} {registeredAt : CString → ℤ} {intfs : Interfaces} {w : Wakeup}
    (h : OnTime now registeredAt intfs w) {x : SnrInformation} (hx : x ∈ intfs) :
    x.intfName ∈ w.intervallist.map Intervals.intfName := by
  rw [map_intfName_eq, (h.keys.map Prod.fst).mem_iff, List.map_map]
  exact List.mem_map_of_mem hx

/-! ## A fixed set of interfaces -/

/-- The queue and the elapsed time after `n` calls, each followed by `freeinterfacelist`. -/
def afterCalls (intfs : Interfaces) : ℕ → Option (List Intervals × ℤ)
  | 0 => some ([], 0)
  | n + 1 => do
    let (list, elapsed) ← afterCalls intfs n
    let w ← returnInterfaceList intfs list
    some (w.intervallist, elapsed + w.slept)

/-- From the start, the remaining time is the least one that leads to a multiple of the interval. -/
lemma remaining_zero_isLeast (now : ℤ) {k : CString × ℤ} (hk : 0 < k.2) :
    IsLeast {d | 0 < d ∧ k.2 ∣ now + d} (remaining now (fun _ => 0) k) := by
  have h : IsLeast {d | 0 < d ∧ k.2 ∣ now + d - 0} (remaining now (fun _ => 0) k) :=
    remaining_isLeast hk
  simpa using h

/-- Every call finds a queue that encodes the next samples, and is on time. -/
lemma afterCalls_onTime {intfs : Interfaces} (hne : intfs ≠ [])
    (hnames : (intfs.map SnrInformation.intfName).Nodup)
    (hpos : ∀ x ∈ intfs, 0 < x.interval.toInt) (n : ℕ) :
    ∃ list elapsed w, afterCalls intfs n = some (list, elapsed) ∧
      returnInterfaceList intfs list = some w ∧ OnTime elapsed (fun _ => 0) intfs w := by
  induction n with
  | zero =>
    have hqueue : QueueOf 0 (fun _ => 0) intfs [] := ⟨⟨trivial, by simp⟩, by simp, by simp⟩
    obtain ⟨w, hw, hontime⟩ := returnInterfaceList_onTime hne hnames hpos hqueue (fun _ _ _ => rfl)
      (admissible_of_new (by simp))
    exact ⟨[], 0, w, rfl, hw, hontime⟩
  | succ n ih =>
    obtain ⟨list, elapsed, w, hafter, hw, hontime⟩ := ih
    have hmem : ∀ x ∈ intfs, x.intfName ∈ w.intervallist.map Intervals.intfName :=
      fun x => hontime.mem_queue
    obtain ⟨w', hw', hontime'⟩ := returnInterfaceList_onTime hne hnames hpos
      (hontime.queueOf hnames) (fun x hx hnot => absurd (hmem x hx) hnot) (admissible_of_mem hmem)
    refine ⟨w.intervallist, elapsed + w.slept, w', ?_, hw', hontime'⟩
    rw [afterCalls, hafter]
    simp [hw]

/-- For interfaces with distinct names and positive intervals, the call after `n` calls sleeps until
the least later time that is a multiple of some interval, returns exactly the interfaces whose interval
divides that time, each once, and leaves a queue whose prefix sums are the times to the next samples
of the interfaces. -/
theorem returnInterfaceList_schedule (intfs : Interfaces) (hne : intfs ≠ [])
    (hnames : (intfs.map SnrInformation.intfName).Nodup)
    (hpos : ∀ x ∈ intfs, 0 < x.interval.toInt) (n : ℕ) :
    ∃ list elapsed w, afterCalls intfs n = some (list, elapsed) ∧
      returnInterfaceList intfs list = some w ∧
      IsLeast {t | elapsed < t ∧ ∃ x ∈ intfs, x.interval.toInt ∣ t} (elapsed + w.slept) ∧
      w.interfaceslist.Nodup ∧
      (∀ name, name ∈ w.interfaceslist ↔
        ∃ x ∈ intfs, x.intfName = name ∧ x.interval.toInt ∣ elapsed + w.slept) ∧
      (w.intervallist.map Intervals.key).Perm (intfs.map SnrInformation.key) ∧
      ∀ before y after, w.intervallist = before ++ y :: after →
        IsLeast {d | 0 < d ∧ y.interval ∣ elapsed + w.slept + d}
          ((before.map Intervals.sleepTime).sum + y.sleepTime) := by
  obtain ⟨list, elapsed, w, hafter, hw, hontime⟩ := afterCalls_onTime hne hnames hpos n
  have hleast : ∀ x ∈ intfs, IsLeast {d | 0 < d ∧ x.interval.toInt ∣ elapsed + d}
      (remaining elapsed (fun _ => 0) x.key) :=
    fun x hx => remaining_zero_isLeast elapsed (hpos x hx)
  refine ⟨list, elapsed, w, hafter, hw, ⟨⟨?_, ?_⟩, ?_⟩, hontime.nodup, ?_, hontime.keys, ?_⟩
  · have := hontime.pos
    omega
  · obtain ⟨x, hx, heq⟩ := hontime.first
    exact ⟨x, hx, heq ▸ (hleast x hx).1.2⟩
  · rintro t ⟨hlt, x, hx, hdvd⟩
    have hmin : remaining elapsed (fun _ => 0) x.key ≤ t - elapsed :=
      (hleast x hx).2 ⟨by omega, by rwa [show elapsed + (t - elapsed) = t by omega]⟩
    have := hontime.least x hx
    omega
  · intro name
    rw [hontime.names]
    constructor
    · rintro ⟨x, hx, rfl, heq⟩
      exact ⟨x, hx, rfl, heq ▸ (hleast x hx).1.2⟩
    · rintro ⟨x, hx, rfl, hdvd⟩
      exact ⟨x, hx, rfl, le_antisymm ((hleast x hx).2 ⟨hontime.pos, hdvd⟩) (hontime.least x hx)⟩
  · intro before y after hsplit
    have hy : y ∈ w.intervallist := by simp [hsplit]
    obtain ⟨x, hx, hkey⟩ := List.mem_map.mp (hontime.keys.subset (List.mem_map_of_mem hy))
    have hinterval : 0 < y.key.2 := hkey ▸ hpos x hx
    have hsum : (before.map Intervals.sleepTime).sum + y.sleepTime =
        remaining (elapsed + w.slept) (fun _ => 0) y.key := by
      have := hontime.scheduled.encodes.sum_eq hsplit
      rwa [Int.zero_add] at this
    rw [hsum]
    exact remaining_zero_isLeast (elapsed + w.slept) hinterval

/-- `"wlan2"`. -/
def wlan2 : CString := ⟨[119, 108, 97, 110, 50], by decide⟩

/-- A call for `"wlan1"` every 2 s and `"wlan2"` every 3 s. -/
theorem returnInterfaceList_schedule_two :
    ∃ list elapsed w, afterCalls [⟨wlan1, 0, 2000⟩, ⟨wlan2, 0, 3000⟩] 4 = some (list, elapsed) ∧
      returnInterfaceList [⟨wlan1, 0, 2000⟩, ⟨wlan2, 0, 3000⟩] list = some w ∧
      w.interfaceslist.Nodup := by
  obtain ⟨list, elapsed, w, hafter, hw, -, hnodup, -⟩ :=
    returnInterfaceList_schedule [⟨wlan1, 0, 2000⟩, ⟨wlan2, 0, 3000⟩] (by decide) (by decide)
      (by decide) 4
  exact ⟨list, elapsed, w, hafter, hw, hnodup⟩

end Ethanol
