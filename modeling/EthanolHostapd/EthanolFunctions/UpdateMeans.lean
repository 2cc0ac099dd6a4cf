import EthanolHostapd.EthanolFunctions.NetStatistics
import EthanolHostapd.Traces.Run
import Mathlib.Data.Rat.Cast.Order
import Mathlib.Tactic.FieldSimp
import Mathlib.Tactic.Ring

/-!
# What the updates of the means do

`update_means` has one line for each counter whose mean it writes.  Here its effect is compared with the
exponentially weighted mean of the rates of all the counters, over exact rationals, in every state that
`add_intf_net_statistics`, `remove_intf_net_statistics`, `set_ewma_alpha` and earlier updates can lead to.
-/

namespace Ethanol

open Wire Trace

/-- The variables of `net_statistics.c`. -/
structure StatisticsState where
  ewmaAlpha : ℚ := 1 / 10
  list : List (NetStatisticsNode ℚ) := []

/-- A call to a function of `net_statistics.c` that writes its variables. -/
inductive StatisticsEvent
  | setEwmaAlpha (alpha : ℚ)
  | call (c : StatisticsCall)

namespace StatisticsState

/-- The effect of a call. -/
def next (s : StatisticsState) : StatisticsEvent → Option StatisticsState
  | .setEwmaAlpha alpha => some { s with ewmaAlpha := alpha }
  | .call c => some { s with list := c.exec s.ewmaAlpha s.list }

/-! ## What an update is for -/

/-- The exponentially weighted mean of the rate of a counter after a further reading. -/
def ewma (alpha old : ℚ) (now previous : Int64) (dt : ℚ) : ℚ :=
  alpha * old + (1 - alpha) * (((now.toInt : ℚ) - previous.toInt) / dt)

/-- If time has passed then the mean of every counter is replaced, and the stored reading and its time with
it.  Otherwise nothing changes. -/
def Replaced (alpha : ℚ) (readings : CString → Timeval × NetStatistics) (p p' : NetStatisticsNode ℚ) :
    Prop :=
  let now := (readings p.intfName).1
  let stats := (readings p.intfName).2
  let dt : ℚ := diffTimeofday now p.lastT
  if 0 < dt then
    p'.intfName = p.intfName ∧ p'.currentValue = stats ∧ p'.lastT = now ∧
      ∀ m, p'.mean m = ewma alpha (p.mean m) (stats m) (p.currentValue m) dt
  else p' = p

/-- Every node of the registry is treated so. -/
def AllReplaced (s : StatisticsState) (readings : CString → Timeval × NetStatistics)
    (s' : StatisticsState) : Prop :=
  List.Forall₂ (Replaced s.ewmaAlpha readings) s.list s'.list

/-- The difference of two readings is a `long long`. -/
def Fits (now previous : Int64) : Prop :=
  -2 ^ 63 ≤ now.toInt - previous.toInt ∧ now.toInt - previous.toInt < 2 ^ 63

/-- The packet counters of an interface stand still and the differences of the others fit, or the weight of
a new rate is zero. -/
def PacketsAtRest (alpha : ℚ) (readings : CString → Timeval × NetStatistics) (p : NetStatisticsNode ℚ) :
    Prop :=
  0 < (diffTimeofday (readings p.intfName).1 p.lastT : ℚ) → alpha ≠ 1 →
    (∀ m, m.averaged = false → (readings p.intfName).2 m = p.currentValue m) ∧
      ∀ m, m.averaged = true → Fits ((readings p.intfName).2 m) (p.currentValue m)

/-! ## What an update does -/

/-- The mean of a counter without a line in `update_means` keeps the zero it was made with. -/
def PacketMeansZero (s : StatisticsState) : Prop :=
  ∀ p ∈ s.list, ∀ m : Metric, m.averaged = false → p.mean m = 0

lemma updateMean_mean_of_not_averaged (alpha : ℚ) (now : Timeval) (stats : NetStatistics)
    (p : NetStatisticsNode ℚ) {m : Metric} (hm : m.averaged = false) :
    (updateMean alpha now stats p).mean m = p.mean m := by
  unfold updateMean
  dsimp only
  split
  · simp [hm]
  · rfl

lemma packetMeansZero_step {s s' : StatisticsState} {e : StatisticsEvent} (h : s.PacketMeansZero)
    (hnext : s.next e = some s') : s'.PacketMeansZero := by
  cases e with
  | setEwmaAlpha alpha =>
    obtain rfl := Option.some.inj hnext
    exact h
  | call c =>
    obtain rfl := Option.some.inj hnext
    intro p hp m hm
    cases c with
    | add n now stats =>
      simp only [StatisticsCall.exec, addIntfNetStatistics] at hp
      split at hp
      · exact h p hp m hm
      · rcases List.mem_cons.mp hp with rfl | hp
        · rfl
        · exact h p hp m hm
    | remove n => exact h p ((KeyedList.remove_sublist _ _).subset hp) m hm
    | update readings =>
      obtain ⟨q, hq, rfl⟩ := List.mem_map.mp hp
      rw [updateMean_mean_of_not_averaged _ _ _ _ hm]
      exact h q hq m hm

lemma packetMeansZero_of_run {calls : List StatisticsEvent} {s : StatisticsState}
    (h : Run next {} calls s) : s.PacketMeansZero :=
  h.invariant (by simp [PacketMeansZero]) fun _ _ _ hs hnext => packetMeansZero_step hs hnext

lemma toInt_sub_eq_iff (now previous : Int64) :
    (now - previous).toInt = now.toInt - previous.toInt ↔ Fits now previous := by
  rw [Int64.toInt_sub, Fits]
  constructor
  · intro h
    rw [← h]
    exact ⟨Int.le_bmod (m := 2 ^ 64) (by decide), Int.bmod_lt (m := 2 ^ 64) (by decide)⟩
  · rintro ⟨hlo, hhi⟩
    exact Int.bmod_eq_of_le (by simpa using hlo) (by simpa using hhi)

/-- A line of `update_means` computes the weighted mean unless the difference overflows. -/
lemma calculateEwma_eq_iff {alpha dt : ℚ} (hdt : 0 < dt) (now previous : Int64) (old : ℚ) :
    calculateEwma alpha now previous dt old = ewma alpha old now previous dt ↔
      (alpha ≠ 1 → Fits now previous) := by
  have hdiff : calculateEwma alpha now previous dt old - ewma alpha old now previous dt =
      (1 - alpha) * (((now - previous).toInt : ℚ) - ((now.toInt - previous.toInt : ℤ) : ℚ)) / dt := by
    unfold calculateEwma ewma
    push_cast
    field_simp
    ring
  rw [← sub_eq_zero, hdiff, div_eq_zero_iff, mul_eq_zero, sub_eq_zero, sub_eq_zero, Int.cast_inj,
    toInt_sub_eq_iff]
  constructor
  · rintro ((h | h) | h) halpha
    · exact absurd h.symm halpha
    · exact h
    · exact absurd h hdt.ne'
  · intro h
    by_cases halpha : alpha = 1
    · exact Or.inl (Or.inl halpha.symm)
    · exact Or.inl (Or.inr (h halpha))

/-- A mean that stays zero is the weighted mean exactly if the counter stands still. -/
lemma zero_eq_ewma_iff {alpha dt : ℚ} (hdt : 0 < dt) (now previous : Int64) :
    0 = ewma alpha 0 now previous dt ↔ (alpha ≠ 1 → now = previous) := by
  rw [ewma, mul_zero, zero_add, eq_comm, mul_eq_zero, div_eq_zero_iff, sub_eq_zero, sub_eq_zero, Int.cast_inj,
    Int64.toInt_inj]
  constructor
  · rintro (h | h | h) halpha
    · exact absurd h.symm halpha
    · exact h
    · exact absurd h hdt.ne'
  · intro h
    by_cases halpha : alpha = 1
    · exact Or.inl halpha.symm
    · exact Or.inr (Or.inl (h halpha))

/-- One node of the registry. -/
lemma replaced_updateMean_iff (alpha : ℚ) (readings : CString → Timeval × NetStatistics)
    {p : NetStatisticsNode ℚ} (hzero : ∀ m : Metric, m.averaged = false → p.mean m = 0) :
    Replaced alpha readings p (updateMean alpha (readings p.intfName).1 (readings p.intfName).2 p) ↔
      PacketsAtRest alpha readings p := by
  unfold Replaced PacketsAtRest updateMean
  dsimp only
  by_cases hdt : 0 < (diffTimeofday (readings p.intfName).1 p.lastT : ℚ)
  · simp only [hdt, if_true, true_and, true_imp_iff]
    constructor
    · intro h halpha
      refine ⟨fun m hm => ?_, fun m hm => ?_⟩
      · have hmean := h m
        rw [if_neg (by simp [hm]), hzero m hm, zero_eq_ewma_iff hdt] at hmean
        exact hmean halpha
      · have hmean := h m
        rw [if_pos hm, calculateEwma_eq_iff hdt] at hmean
        exact hmean halpha
    · intro h m
      by_cases hm : m.averaged = true
      · rw [if_pos hm, calculateEwma_eq_iff hdt]
        exact fun halpha => (h halpha).2 m hm
      · rw [if_neg hm, hzero m (Bool.eq_false_iff.mpr hm), zero_eq_ewma_iff hdt]
        exact fun halpha => (h halpha).1 m (Bool.eq_false_iff.mpr hm)
  · simp [hdt]

/-- After any calls, an update replaces every mean by the weighted one exactly if no packet counter of an
interface with new readings has changed and no difference overflows. -/
theorem updateMeans_iff {calls : List StatisticsEvent} {s s' : StatisticsState} (h : Run next {} calls s)
    (readings : CString → Timeval × NetStatistics) (hnext : s.next (.call (.update readings)) = some s') :
    s.AllReplaced readings s' ↔ ∀ p ∈ s.list, PacketsAtRest s.ewmaAlpha readings p := by
  have hzero := packetMeansZero_of_run h
  obtain rfl := Option.some.inj hnext
  simp only [AllReplaced, StatisticsCall.exec, updateMeans, List.forall₂_map_right_iff, List.forall₂_same]
  exact forall₂_congr fun p hp => replaced_updateMean_iff s.ewmaAlpha readings (hzero p hp)

/-- The name `eth0`. -/
def eth0 : CString := ⟨[101, 116, 104, 48], by decide⟩

/-- A reading of an interface that has received `n` packets, all other counters zero, after `n` seconds. -/
def received (n : Int64) (_ : CString) : Timeval × NetStatistics :=
  (⟨n, 0⟩, fun m => if m = .rxPackets then n else 0)

/-- The registry that holds `eth0` with its first reading. -/
def registered : StatisticsState :=
  { list := [⟨eth0, (received 0 eth0).2, (received 0 eth0).1, fun _ => 0⟩] }

lemma run_registered :
    Run next {} [.call (.add eth0 (received 0 eth0).1 (received 0 eth0).2)] registered :=
  run_iff_exec.mpr rfl

theorem updateMeans_iff_eth0 :
    registered.AllReplaced (fun _ => (⟨1, 0⟩, fun _ => 0))
      { list := updateMeans (1 / 10) (fun _ => (⟨1, 0⟩, fun _ => 0)) registered.list } := by
  refine (updateMeans_iff run_registered _ rfl).mpr fun p hp _ _ => ?_
  obtain rfl := List.mem_singleton.mp hp
  refine ⟨fun m _ => ?_, fun m _ => ?_⟩
  · simp [received]
  · simp [received, Fits]

/-- One packet in one second leaves the mean of `rx_packets` zero. -/
theorem updateMeans_rxPackets :
    ¬∀ (calls : List StatisticsEvent) (s s' : StatisticsState) (readings : CString → Timeval × NetStatistics),
      Run next {} calls s → s.next (.call (.update readings)) = some s' → s.AllReplaced readings s' := by
  intro h
  have hall := h _ _ _ (received 1) run_registered rfl
  obtain ⟨hnode, -⟩ := List.forall₂_cons.mp hall
  have hdt : (diffTimeofday (received 1 eth0).1 (received 0 eth0).1 : ℚ) = 1 := by decide +kernel
  unfold Replaced at hnode
  dsimp only at hnode
  rw [hdt, if_pos one_pos] at hnode
  have hmean := hnode.2.2.2 .rxPackets
  rw [updateMean_mean_of_not_averaged _ _ _ _ rfl] at hmean
  exact absurd hmean (by decide +kernel)

end StatisticsState

end Ethanol
