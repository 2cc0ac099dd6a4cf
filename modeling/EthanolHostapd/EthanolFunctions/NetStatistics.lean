import EthanolHostapd.Containers.KeyedList
import EthanolHostapd.Traces.Since
import EthanolHostapd.Wire.Encoder
import Mathlib.Data.Rat.Defs

/-!
# Interface statistics and their means

The registry of `net_statistics.c`: for each interface that was added, the counters that were read
last and an exponentially weighted mean of their rates.  The counters come from the files under
`/sys/class/net` and the times from `gettimeofday`; both are part of the calls here.

`long double` is a type `F` with the operations that the code uses.  Nothing below depends on how they
round.
-/

namespace Ethanol

open Wire

/-- The counters of `net_statistics`, each named as its file. -/
inductive Metric
  | collisions | multicast
  | rxBytes | rxCompressed | rxCrcErrors | rxDropped | rxErrors | rxFifoErrors
  | rxFrameErrors | rxLengthErrors | rxMissedErrors | rxOverErrors | rxPackets
  | txAbortedErrors | txBytes | txCarrierErrors | txCompressed | txDropped
  | txErrors | txFifoErrors | txHeartbeatErrors | txPackets | txWindowErrors
  deriving DecidableEq

/-- `net_statistics`. -/
abbrev NetStatistics : Type := Metric → Int64

/-- `mean_net_statistics`. -/
abbrev MeanNetStatistics (F : Type) : Type := Metric → F

/-- `struct timeval`. -/
structure Timeval where
  tvSec : Int64
  tvUsec : Int64

/-- `struct t_list_net_statistics`, a node of the registry. -/
structure NetStatisticsNode (F : Type) where
  intfName : CString
  currentValue : NetStatistics
  lastT : Timeval
  mean : MeanNetStatistics F

/-- `all_mean_net_statistics`. -/
structure AllMeanNetStatistics (F : Type) where
  num : ℕ
  intfs : List CString
  ns : List (MeanNetStatistics F)

section Means

variable {F : Type} [Add F] [Sub F] [Mul F] [Div F] [Zero F] [One F] [IntCast F] [LT F]
  [DecidableLT F]

/-- `diff_timeofday`, in seconds. -/
def diffTimeofday (t1 t2 : Timeval) : F :=
  let seconds (t : Timeval) : F :=
    ((t.tvSec.toInt : ℤ) : F) + ((t.tvUsec.toInt : ℤ) : F) / ((1000000 : ℤ) : F)
  seconds t1 - seconds t2

/-- `calculate_ewma`. -/
def calculateEwma (ewmaAlpha : F) (v vl : Int64) (diffT m : F) : F :=
  let mean := (((v - vl).toInt : ℤ) : F) / diffT
  m * ewmaAlpha + mean * (1 - ewmaAlpha)

/-- The counters whose mean `update_means` writes. -/
def Metric.averaged : Metric → Bool
  | rxPackets | txPackets => false
  | _ => true

/-- The body of the loop of `update_means`, for the time and the counters that it reads. -/
def updateMean (ewmaAlpha : F) (tNow : Timeval) (nowStats : NetStatistics)
    (p : NetStatisticsNode F) : NetStatisticsNode F :=
  let diffT : F := diffTimeofday tNow p.lastT
  if 0 < diffT then
    { p with
      mean := fun m =>
        if m.averaged then calculateEwma ewmaAlpha (nowStats m) (p.currentValue m) diffT (p.mean m)
        else p.mean m
      currentValue := nowStats
      lastT := tNow }
  else p

/-- `update_means`.  The readings are given by interface. -/
def updateMeans (ewmaAlpha : F) (readings : CString → Timeval × NetStatistics)
    (list : List (NetStatisticsNode F)) : List (NetStatisticsNode F) :=
  list.map fun p => updateMean ewmaAlpha (readings p.intfName).1 (readings p.intfName).2 p

end Means

section Registry

variable {F : Type}

/-- `add_intf_net_statistics`. -/
def addIntfNetStatistics [Zero F] (intfName : CString) (now : Timeval) (stats : NetStatistics)
    (list : List (NetStatisticsNode F)) : List (NetStatisticsNode F) :=
  match KeyedList.find NetStatisticsNode.intfName intfName list with
  | some _ => list
  | none => ⟨intfName, stats, now, fun _ => 0⟩ :: list

/-- `remove_intf_net_statistics`. -/
def removeIntfNetStatistics (intfName : CString) (list : List (NetStatisticsNode F)) :
    List (NetStatisticsNode F) :=
  KeyedList.remove NetStatisticsNode.intfName intfName list

/-- `get_mean_net_statistics`.  The search leaves `NULL` for a name that is not in the list, and the
comparison that follows reads through it: that is the outer `none`. -/
def getMeanNetStatistics (intfName : CString) (list : List (NetStatisticsNode F)) :
    Option (Option (MeanNetStatistics F)) :=
  match KeyedList.find NetStatisticsNode.intfName intfName list with
  | none => none
  | some p => some (if p.intfName = intfName then some p.mean else none)

/-- `get_all_mean_net_statistics`: `NULL` if the list is empty. -/
def getAllMeanNetStatistics (list : List (NetStatisticsNode F)) : Option (AllMeanNetStatistics F) :=
  if 0 < list.length then
    some ⟨list.length, list.map NetStatisticsNode.intfName, list.map NetStatisticsNode.mean⟩
  else none

/-- The names that `get_all_mean_net_statistics` returns, none if it returns `NULL`. -/
def reportedNames (all : Option (AllMeanNetStatistics F)) : List CString :=
  all.elim [] AllMeanNetStatistics.intfs

lemma reportedNames_getAll (list : List (NetStatisticsNode F)) :
    reportedNames (getAllMeanNetStatistics list) = list.map NetStatisticsNode.intfName := by
  unfold getAllMeanNetStatistics reportedNames
  cases list with
  | nil => rfl
  | cons p list => simp

end Registry

/-- What happens to the registry: an interface is added or removed, or the collector updates the
means. -/
inductive StatisticsCall
  | add (intfName : CString) (now : Timeval) (stats : NetStatistics)
  | remove (intfName : CString)
  | update (readings : CString → Timeval × NetStatistics)

namespace StatisticsCall

/-- The interface was added and not removed since. -/
def Registered (intfName : CString) : List StatisticsCall → Prop :=
  Trace.Since (fun _ c => ∃ now stats, c = add intfName now stats) (fun c => c ≠ remove intfName)

/-- Interface `a` was added when `b` was registered already, and neither was removed since. -/
def AddedAfter (a b : CString) : List StatisticsCall → Prop :=
  Trace.Since
    (fun before c => (∃ now stats, c = add a now stats) ∧ ¬ Registered a before ∧
      Registered b before)
    (fun c => c ≠ remove a ∧ c ≠ remove b)

end StatisticsCall

section Runs

variable {F : Type} [Add F] [Sub F] [Mul F] [Div F] [Zero F] [One F] [IntCast F] [LT F]
  [DecidableLT F]

/-- The effect of a call on the registry. -/
def StatisticsCall.exec (ewmaAlpha : F) (list : List (NetStatisticsNode F)) :
    StatisticsCall → List (NetStatisticsNode F)
  | add intfName now stats => addIntfNetStatistics intfName now stats list
  | remove intfName => removeIntfNetStatistics intfName list
  | update readings => updateMeans ewmaAlpha readings list

/-- The registry after a sequence of calls, from the empty one. -/
def StatisticsCall.run (ewmaAlpha : F) (calls : List StatisticsCall) :
    List (NetStatisticsNode F) :=
  calls.foldl (exec ewmaAlpha) []

/-! ## What a call does -/

/-- No two nodes of the registry have the same name. -/
abbrev DistinctNodes (list : List (NetStatisticsNode F)) : Prop :=
  KeyedList.Distinct NetStatisticsNode.intfName list

lemma updateMean_intfName (ewmaAlpha : F) (tNow : Timeval) (nowStats : NetStatistics)
    (p : NetStatisticsNode F) : (updateMean ewmaAlpha tNow nowStats p).intfName = p.intfName := by
  unfold updateMean
  dsimp only
  split
  · rfl
  · rfl

/-- The names in the registry after a call. -/
lemma map_intfName_exec (ewmaAlpha : F) (list : List (NetStatisticsNode F)) (c : StatisticsCall) :
    (c.exec ewmaAlpha list).map NetStatisticsNode.intfName =
      match c with
      | .add n _ _ =>
        if n ∈ list.map NetStatisticsNode.intfName then list.map NetStatisticsNode.intfName
        else n :: list.map NetStatisticsNode.intfName
      | .remove n => (list.map NetStatisticsNode.intfName).erase n
      | .update _ => list.map NetStatisticsNode.intfName := by
  cases c with
  | add n now stats =>
    simp only [StatisticsCall.exec, addIntfNetStatistics]
    cases hfind : KeyedList.find NetStatisticsNode.intfName n list with
    | some p =>
      have hn : n ∈ list.map NetStatisticsNode.intfName :=
        KeyedList.find_isSome_iff.mp (by simp [hfind])
      rw [if_pos hn]
    | none => rw [if_neg (KeyedList.find_eq_none_iff.mp hfind), List.map_cons]
  | remove n => exact KeyedList.map_key_remove n list
  | update readings =>
    simp [StatisticsCall.exec, updateMeans, Function.comp_def, updateMean_intfName]

/-! ## The names over a run -/

/-- What the registry says about the past: its names are those that were added and not removed since,
each once, the most recent addition first. -/
structure Names (names : List CString) (calls : List StatisticsCall) : Prop where
  nodup : names.Nodup
  registered : ∀ n, n ∈ names ↔ StatisticsCall.Registered n calls
  recentFirst : names.Pairwise fun a b => StatisticsCall.AddedAfter a b calls

/-- The order of two names survives every call that does not remove one of them. -/
lemma addedAfter_concat {a b : CString} {calls : List StatisticsCall} {c : StatisticsCall}
    (h : StatisticsCall.AddedAfter a b calls) (ha : c ≠ .remove a) (hb : c ≠ .remove b) :
    StatisticsCall.AddedAfter a b (calls ++ [c]) := by
  rw [StatisticsCall.AddedAfter, Trace.since_concat]
  exact Or.inr ⟨⟨ha, hb⟩, h⟩

lemma Names.add {names : List CString} {calls : List StatisticsCall} (h : Names names calls)
    (n : CString) (now : Timeval) (stats : NetStatistics) :
    Names (if n ∈ names then names else n :: names) (calls ++ [.add n now stats]) := by
  have hkeep : names.Pairwise fun a b => StatisticsCall.AddedAfter a b (calls ++ [.add n now stats]) :=
    h.recentFirst.imp fun hab => addedAfter_concat hab (by simp) (by simp)
  have hreg : ∀ m, StatisticsCall.Registered m (calls ++ [.add n now stats]) ↔ n = m ∨ m ∈ names := by
    intro m
    rw [StatisticsCall.Registered, Trace.since_concat, h.registered]
    simp [StatisticsCall.Registered]
  by_cases hn : n ∈ names
  · rw [if_pos hn]
    refine ⟨h.nodup, fun m => ?_, hkeep⟩
    rw [hreg]
    constructor
    · exact Or.inr
    · rintro (rfl | hm)
      · exact hn
      · exact hm
  · rw [if_neg hn]
    refine ⟨List.nodup_cons.mpr ⟨hn, h.nodup⟩, fun m => ?_, List.pairwise_cons.mpr ⟨?_, hkeep⟩⟩
    · rw [hreg, List.mem_cons, eq_comm]
    · intro b hb
      rw [StatisticsCall.AddedAfter, Trace.since_concat]
      exact Or.inl ⟨⟨now, stats, rfl⟩, fun hr => hn ((h.registered n).mpr hr),
        (h.registered b).mp hb⟩

lemma Names.remove {names : List CString} {calls : List StatisticsCall} (h : Names names calls)
    (n : CString) : Names (names.erase n) (calls ++ [.remove n]) := by
  refine ⟨h.nodup.erase n, fun m => ?_, ?_⟩
  · rw [h.nodup.mem_erase_iff, h.registered, StatisticsCall.Registered, Trace.since_concat]
    simp [eq_comm]
  · refine (h.recentFirst.sublist List.erase_sublist).imp_of_mem fun {a b} ha hb hab => ?_
    have hne : ∀ m ∈ names.erase n, StatisticsCall.remove n ≠ .remove m := by
      intro m hm heq
      obtain rfl : n = m := by simpa using heq
      exact (h.nodup.mem_erase_iff.mp hm).1 rfl
    exact addedAfter_concat hab (hne a ha) (hne b hb)

lemma Names.update {names : List CString} {calls : List StatisticsCall} (h : Names names calls)
    (readings : CString → Timeval × NetStatistics) : Names names (calls ++ [.update readings]) := by
  refine ⟨h.nodup, fun m => ?_, ?_⟩
  · rw [h.registered, StatisticsCall.Registered, Trace.since_concat]
    simp
  · exact h.recentFirst.imp fun hab => addedAfter_concat hab (by simp) (by simp)

/-- The names of the registry, after every sequence of calls. -/
lemma names_run (ewmaAlpha : F) (calls : List StatisticsCall) :
    Names ((StatisticsCall.run ewmaAlpha calls).map NetStatisticsNode.intfName) calls := by
  induction calls using List.reverseRecOn with
  | nil => exact ⟨by simp [StatisticsCall.run], by simp [StatisticsCall.run,
      StatisticsCall.Registered], by simp [StatisticsCall.run]⟩
  | append_singleton calls c ih =>
    have hstep : StatisticsCall.run ewmaAlpha (calls ++ [c]) =
        c.exec ewmaAlpha (StatisticsCall.run ewmaAlpha calls) := by
      simp [StatisticsCall.run]
    rw [hstep, map_intfName_exec]
    cases c with
    | add n now stats => exact ih.add n now stats
    | remove n => exact ih.remove n
    | update readings => exact ih.update readings

/-! ## The registry -/

/-- The registry after `calls` is what its functions say it is, and `get_mean_net_statistics` answers
for `intfName` with the stored mean, or with `NULL` if the interface is not registered. -/
structure RegistryLaw (ewmaAlpha : F) (calls : List StatisticsCall) (intfName : CString) : Prop where
  distinct : DistinctNodes (StatisticsCall.run ewmaAlpha calls)
  all : Names (reportedNames (getAllMeanNetStatistics (StatisticsCall.run ewmaAlpha calls))) calls
  stored : StatisticsCall.Registered intfName calls →
    ∃ p ∈ StatisticsCall.run ewmaAlpha calls, p.intfName = intfName ∧
      getMeanNetStatistics intfName (StatisticsCall.run ewmaAlpha calls) = some (some p.mean)
  absent : ¬ StatisticsCall.Registered intfName calls →
    getMeanNetStatistics intfName (StatisticsCall.run ewmaAlpha calls) = some none

/-- For a name outside the registry the search ends in a `NULL` dereference. -/
lemma getMean_eq_none_iff (ewmaAlpha : F) (calls : List StatisticsCall) (n : CString) :
    getMeanNetStatistics n (StatisticsCall.run ewmaAlpha calls) = none ↔
      ¬ StatisticsCall.Registered n calls := by
  rw [← (names_run ewmaAlpha calls).registered, ← KeyedList.find_eq_none_iff,
    getMeanNetStatistics]
  cases KeyedList.find NetStatisticsNode.intfName n (StatisticsCall.run ewmaAlpha calls) <;> simp

end Runs

end Ethanol
