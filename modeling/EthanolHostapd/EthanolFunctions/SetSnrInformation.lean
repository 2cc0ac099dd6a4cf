import EthanolHostapd.Containers.KeyedList
import EthanolHostapd.Wire.Encoder
import Mathlib.Data.List.ModifyLast

/-!
# The SNR configuration of the interfaces

`set_snr_information.c`: for every interface an interval (in ms) at which its SNR is sampled and a
threshold.  The store is a linked list to which an interface is appended the first time one of its
values is set.  `num_interfaces` is the length of that list; names are values here, so the memory
that `copy_string` gets for them is left out.

An interface that is not in the store is answered with `VAL2` for its interval and `VAL1` for its
threshold, the other way round than `createinterface`, and the first `set_interval` of an interface
writes to its threshold.  `storeLaw_iff` says which call sequences do not show this.
-/

namespace Ethanol

open Wire

/-- `VAL1`, in ms. -/
def val1 : Int32 := 500

/-- `VAL2`. -/
def val2 : Int32 := 100

/-- `struct snr_information`, a node of the store. -/
structure SnrInformation where
  intfName : CString
  threshold : Int64
  interval : Int32
  deriving DecidableEq

/-- `struct interfaces`: the nodes from `First` to `Last`. -/
abbrev Interfaces : Type := List SnrInformation

/-- `searchinterfaces`. -/
def searchinterfaces (intfs : Interfaces) (intfName : CString) : Option SnrInformation :=
  KeyedList.find SnrInformation.intfName intfName intfs

/-- `createinterface`. -/
def createinterface (intfs : Interfaces) (intfName : CString) : Interfaces :=
  intfs ++ [⟨intfName, val2.toInt64, val1⟩]

/-- The course of `set_interval` and `set_threshold`: `created` is written to the last node if the
interface had to be created, `found` to its node otherwise. -/
def setInformation (intfs : Interfaces) (intfName : CString)
    (created found : SnrInformation → SnrInformation) : Interfaces :=
  match searchinterfaces intfs intfName with
  | none => (createinterface intfs intfName).modifyLast created
  | some _ => KeyedList.assign SnrInformation.intfName intfName found intfs

/-- `set_interval`.  A new interface gets `t` as its threshold. -/
def setInterval (intfs : Interfaces) (t : Int32) (intfName : CString) : Interfaces :=
  setInformation intfs intfName (fun x => { x with threshold := t.toInt64 })
    (fun x => { x with interval := t })

/-- `return_interval`. -/
def returnInterval (intfs : Interfaces) (intfName : CString) : Int32 :=
  match searchinterfaces intfs intfName with
  | none => val2
  | some x => x.interval

/-- `set_threshold`. -/
def setThreshold (intfs : Interfaces) (t : Int64) (intfName : CString) : Interfaces :=
  setInformation intfs intfName (fun x => { x with threshold := t })
    (fun x => { x with threshold := t })

/-- `return_threshold`. -/
def returnThreshold (intfs : Interfaces) (intfName : CString) : Int64 :=
  match searchinterfaces intfs intfName with
  | none => val1.toInt64
  | some x => x.threshold

/-- A call that changes the store. -/
inductive SnrCall
  | setInterval (t : Int32) (intfName : CString)
  | setThreshold (t : Int64) (intfName : CString)
  deriving DecidableEq

namespace SnrCall

/-- The interface that a call is about. -/
def intfName : SnrCall → CString
  | setInterval _ intfName => intfName
  | setThreshold _ intfName => intfName

/-- The effect of a call on the store. -/
def exec (intfs : Interfaces) : SnrCall → Interfaces
  | setInterval t intfName => Ethanol.setInterval intfs t intfName
  | setThreshold t intfName => Ethanol.setThreshold intfs t intfName

/-- The store after a sequence of calls, from the empty store. -/
def run (calls : List SnrCall) : Interfaces := calls.foldl exec []

/-- What a call makes of the node of its interface, which there may not yet be. -/
def write (x : Option SnrInformation) : SnrCall → SnrInformation
  | setInterval t intfName =>
    match x with
    | none => ⟨intfName, t.toInt64, val1⟩
    | some x => { x with interval := t }
  | setThreshold t intfName =>
    match x with
    | none => ⟨intfName, t, val1⟩
    | some x => { x with threshold := t }

/-- The interval that a call sets for `n`, if it sets one. -/
def intervalFor (n : CString) : SnrCall → Option Int32
  | setInterval t intfName => if intfName = n then some t else none
  | setThreshold _ _ => none

/-- The threshold that a call sets for `n`, if it sets one. -/
def thresholdFor (n : CString) : SnrCall → Option Int64
  | setInterval _ _ => none
  | setThreshold t intfName => if intfName = n then some t else none

/-- The last interval that was set for `n`. -/
def lastInterval (calls : List SnrCall) (n : CString) : Option Int32 :=
  (calls.filterMap (intervalFor n)).getLast?

/-- The last threshold that was set for `n`. -/
def lastThreshold (calls : List SnrCall) (n : CString) : Option Int64 :=
  (calls.filterMap (thresholdFor n)).getLast?

end SnrCall

open SnrCall

/-! ## What a call does -/

lemma search_setInformation (intfs : Interfaces) (m n : CString)
    {created found : SnrInformation → SnrInformation}
    (hcreated : ∀ x, (created x).intfName = x.intfName)
    (hfound : ∀ x, (found x).intfName = x.intfName) :
    searchinterfaces (setInformation intfs m created found) n =
      if m = n then
        some (match searchinterfaces intfs n with
          | none => created ⟨n, val2.toInt64, val1⟩
          | some x => found x)
      else searchinterfaces intfs n := by
  unfold setInformation
  cases hm : searchinterfaces intfs m with
  | none =>
    unfold searchinterfaces at hm ⊢
    rw [createinterface, List.modifyLast_concat, KeyedList.find_append, KeyedList.find_cons,
      KeyedList.find_nil, hcreated]
    by_cases h : m = n
    · subst h
      simp [hm]
    · simp [h]
  | some x =>
    unfold searchinterfaces at hm ⊢
    rw [KeyedList.find_assign hfound]
    by_cases h : m = n
    · subst h
      simp [hm]
    · simp [h, Ne.symm h]

/-- A call writes to the node of its interface and leaves every other node. -/
lemma search_exec (intfs : Interfaces) (c : SnrCall) (n : CString) :
    searchinterfaces (c.exec intfs) n =
      if c.intfName = n then some (c.write (searchinterfaces intfs n))
      else searchinterfaces intfs n := by
  cases c with
  | setInterval t m =>
    rw [exec, Ethanol.setInterval, search_setInformation]
    · by_cases h : m = n
      · subst h
        cases searchinterfaces intfs m <;> simp [SnrCall.intfName, write]
      · simp [SnrCall.intfName, h]
    · exact fun _ => rfl
    · exact fun _ => rfl
  | setThreshold t m =>
    rw [exec, Ethanol.setThreshold, search_setInformation]
    · by_cases h : m = n
      · subst h
        cases searchinterfaces intfs m <;> simp [SnrCall.intfName, write]
      · simp [SnrCall.intfName, h]
    · exact fun _ => rfl
    · exact fun _ => rfl

/-- The value that the first call for an interface leaves as its threshold. -/
def SnrCall.firstThreshold : SnrCall → Int64
  | setInterval t _ => t.toInt64
  | setThreshold t _ => t

lemma run_append_singleton (calls : List SnrCall) (c : SnrCall) :
    run (calls ++ [c]) = c.exec (run calls) := by
  simp [run]

/-- As long as no call is about `n`, it is not in the store. -/
lemma search_run_of_silent {calls : List SnrCall} {n : CString}
    (h : ∀ c ∈ calls, c.intfName ≠ n) : searchinterfaces (run calls) n = none := by
  induction calls using List.reverseRecOn with
  | nil => rfl
  | append_singleton calls c ih =>
    rw [run_append_singleton, search_exec, if_neg (h c (by simp))]
    exact ih fun c hc => h c (by simp [hc])

/-- From the first call about `n` on, the node of `n` holds the last values that were set after that
call. -/
lemma search_run_of_first {before after : List SnrCall} {c : SnrCall} {n : CString}
    (hbefore : ∀ c ∈ before, c.intfName ≠ n) (hc : c.intfName = n) :
    searchinterfaces (run (before ++ c :: after)) n =
      some ⟨n, (lastThreshold after n).getD c.firstThreshold, (lastInterval after n).getD val1⟩ := by
  induction after using List.reverseRecOn with
  | nil =>
    rw [run_append_singleton, search_exec, if_pos hc, search_run_of_silent hbefore]
    cases c with
    | setInterval t m => simpa [SnrCall.intfName, write, firstThreshold, lastThreshold, lastInterval] using hc
    | setThreshold t m => simpa [SnrCall.intfName, write, firstThreshold, lastThreshold, lastInterval] using hc
  | append_singleton after d ih =>
    rw [← List.cons_append, ← List.append_assoc, run_append_singleton, search_exec, ih]
    cases d with
    | setInterval t m =>
      by_cases h : m = n
      · simp [SnrCall.intfName, write, lastThreshold, lastInterval, intervalFor, thresholdFor, h]
      · simp [SnrCall.intfName, lastThreshold, lastInterval, intervalFor, thresholdFor, h]
    | setThreshold t m =>
      by_cases h : m = n
      · simp [SnrCall.intfName, write, lastThreshold, lastInterval, intervalFor, thresholdFor, h]
      · simp [SnrCall.intfName, lastThreshold, lastInterval, intervalFor, thresholdFor, h]

/-! ## The store as a map -/

/-- The call `c` on the store `intfs` changes nothing of what is returned for `n` except the quantity
that it sets. -/
structure Frame (intfs : Interfaces) (c : SnrCall) (n : CString) : Prop where
  interval : c.intervalFor n = none → returnInterval (c.exec intfs) n = returnInterval intfs n
  threshold : c.thresholdFor n = none → returnThreshold (c.exec intfs) n = returnThreshold intfs n

/-- The store answers for `n` as a map from names to the values set last, with the defaults of
`createinterface`, and every call of the sequence leaves alone what it does not set. -/
structure StoreLaw (calls : List SnrCall) (n : CString) : Prop where
  interval : returnInterval (run calls) n = (lastInterval calls n).getD val1
  threshold : returnThreshold (run calls) n = (lastThreshold calls n).getD val2.toInt64
  frame : ∀ before c after, calls = before ++ c :: after → Frame (run before) c n

/-- A call about an interface that is already in the store, or about another one, is framed. -/
lemma frame_of_known {intfs : Interfaces} {c : SnrCall} {n : CString}
    (h : c.intfName = n → (searchinterfaces intfs n).isSome) : Frame intfs c n := by
  by_cases hc : c.intfName = n
  · obtain ⟨x, hx⟩ := Option.isSome_iff_exists.mp (h hc)
    cases c with
    | setInterval t m =>
      have hm : m = n := hc
      constructor
      · simp [intervalFor, hm]
      · simp [returnThreshold, search_exec, hc, hx, write]
    | setThreshold t m =>
      have hm : m = n := hc
      constructor
      · simp [returnInterval, search_exec, hc, hx, write]
      · simp [thresholdFor, hm]
  · constructor
    · simp [returnInterval, search_exec, hc]
    · simp [returnThreshold, search_exec, hc]

/-- The first call about an interface is framed only if it is `set_interval(VAL1, ...)`: the
threshold was returned as `VAL1` before, and the interval as `VAL2`. -/
lemma frame_of_unknown {intfs : Interfaces} {c : SnrCall} {n : CString} (hc : c.intfName = n)
    (hn : searchinterfaces intfs n = none) : Frame intfs c n ↔ c = .setInterval val1 n := by
  cases c with
  | setInterval t m =>
    have hm : m = n := hc
    subst hm
    have hthreshold : Frame intfs (.setInterval t m) m ↔ t.toInt64 = val1.toInt64 := by
      constructor
      · intro h
        simpa [returnThreshold, search_exec, hn, write, SnrCall.intfName, thresholdFor]
          using h.threshold
      · intro h
        constructor
        · simp [intervalFor]
        · simpa [returnThreshold, search_exec, hn, write, SnrCall.intfName, thresholdFor] using h
    rw [hthreshold, ← Int64.toInt_inj, Int32.toInt_toInt64, Int32.toInt_toInt64, Int32.toInt_inj]
    simp
  | setThreshold t m =>
    have hm : m = n := hc
    subst hm
    constructor
    · intro h
      have hinterval := h.interval rfl
      simp [returnInterval, search_exec, hn, write, SnrCall.intfName, val1, val2] at hinterval
    · intro h
      exact absurd h (by simp)

/-- Every call sequence is silent about `n` or has a first call about it. -/
lemma silent_or_first (calls : List SnrCall) (n : CString) :
    (∀ c ∈ calls, c.intfName ≠ n) ∨
      ∃ before c after, calls = before ++ c :: after ∧ (∀ c ∈ before, c.intfName ≠ n) ∧
        c.intfName = n := by
  cases h : calls.find? (fun c => c.intfName = n) with
  | none => exact Or.inl (by simpa using h)
  | some c =>
    obtain ⟨hc, before, after, heq, hbefore⟩ := List.find?_eq_some_iff_append.mp h
    exact Or.inr ⟨before, c, after, heq, by simpa using hbefore, by simpa using hc⟩

/-- Calls about other interfaces set nothing for `n`. -/
lemma filterMap_intervalFor_of_silent {calls : List SnrCall} {n : CString}
    (h : ∀ c ∈ calls, c.intfName ≠ n) : calls.filterMap (intervalFor n) = [] := by
  refine List.filterMap_eq_nil_iff.mpr fun c hc => ?_
  have hne := h c hc
  cases c with
  | setInterval t m => exact if_neg hne
  | setThreshold t m => rfl

lemma filterMap_thresholdFor_of_silent {calls : List SnrCall} {n : CString}
    (h : ∀ c ∈ calls, c.intfName ≠ n) : calls.filterMap (thresholdFor n) = [] := by
  refine List.filterMap_eq_nil_iff.mpr fun c hc => ?_
  have hne := h c hc
  cases c with
  | setInterval t m => rfl
  | setThreshold t m => exact if_neg hne

lemma lastThreshold_eq_none_iff {calls : List SnrCall} {n : CString} :
    lastThreshold calls n = none ↔ ∀ t, SnrCall.setThreshold t n ∉ calls := by
  rw [lastThreshold, List.getLast?_eq_none_iff, List.filterMap_eq_nil_iff]
  constructor
  · intro h t ht
    simpa [thresholdFor] using h _ ht
  · intro h c hc
    cases c with
    | setInterval t m => rfl
    | setThreshold t m =>
      refine if_neg ?_
      rintro rfl
      exact h t hc

/-- An interface that no call is about is answered with the wrong defaults. -/
lemma not_storeLaw_of_silent {calls : List SnrCall} {n : CString}
    (h : ∀ c ∈ calls, c.intfName ≠ n) : ¬ StoreLaw calls n := by
  intro hlaw
  have hinterval := hlaw.interval
  rw [returnInterval, search_run_of_silent h, lastInterval, filterMap_intervalFor_of_silent h]
    at hinterval
  exact absurd hinterval (by decide)

/-- If the first call about `n` is `set_interval(VAL1, n)`, the interval and the frame are right from
then on, and the threshold is right as soon as it has been set. -/
lemma storeLaw_of_first {before after : List SnrCall} {n : CString}
    (hbefore : ∀ c ∈ before, c.intfName ≠ n) :
    StoreLaw (before ++ .setInterval val1 n :: after) n ↔ lastThreshold after n ≠ none := by
  have hsearch : searchinterfaces (run (before ++ .setInterval val1 n :: after)) n =
      some ⟨n, (lastThreshold after n).getD val1.toInt64, (lastInterval after n).getD val1⟩ :=
    search_run_of_first hbefore rfl
  have hthreshold : lastThreshold (before ++ .setInterval val1 n :: after) n =
      lastThreshold after n := by
    rw [lastThreshold, List.filterMap_append, filterMap_thresholdFor_of_silent hbefore]
    rfl
  have hinterval : lastInterval (before ++ .setInterval val1 n :: after) n =
      some ((lastInterval after n).getD val1) := by
    rw [lastInterval, List.filterMap_append, filterMap_intervalFor_of_silent hbefore]
    simp [intervalFor, lastInterval, List.getLast?_cons]
  constructor
  · intro hlaw hnone
    have h := hlaw.threshold
    rw [returnThreshold, hsearch, hthreshold, hnone] at h
    have hdefaults : val1.toInt64 = val2.toInt64 := h
    exact absurd hdefaults (by decide)
  · intro hsome
    obtain ⟨t, ht⟩ := Option.ne_none_iff_exists'.mp hsome
    refine ⟨?_, ?_, ?_⟩
    · rw [returnInterval, hsearch, hinterval]
      rfl
    · rw [returnThreshold, hsearch, hthreshold, ht]
      rfl
    · intro pre c post heq
      -- The call stands before, at or behind the first call about `n`.
      rcases List.append_eq_append_iff.mp heq with ⟨mid, hpre, hmid⟩ | ⟨mid, hpre, hmid⟩
      · cases mid with
        | nil =>
          obtain ⟨rfl, -⟩ := List.cons.inj hmid
          rw [List.append_nil] at hpre
          subst hpre
          exact (frame_of_unknown rfl (search_run_of_silent hbefore)).mpr rfl
        | cons d mid =>
          obtain ⟨rfl, -⟩ := List.cons.inj hmid
          refine frame_of_known fun _ => ?_
          rw [hpre, search_run_of_first hbefore rfl]
          rfl
      · cases mid with
        | nil =>
          obtain ⟨rfl, -⟩ := List.cons.inj hmid
          rw [List.append_nil] at hpre
          subst hpre
          exact (frame_of_unknown rfl (search_run_of_silent hbefore)).mpr rfl
        | cons d mid =>
          obtain ⟨rfl, -⟩ := List.cons.inj hmid
          refine frame_of_known fun hc => absurd hc (hbefore _ ?_)
          simp [hpre]

theorem wlan1_nul_free : (0 : UInt8) ∉ [119, 108, 97, 110, 49] := by decide

/-- `"wlan1"`. -/
def wlan1 : CString := ⟨[119, 108, 97, 110, 49], wlan1_nul_free⟩

end Ethanol
