import EthanolHostapd.Utils.Lines
import Mathlib.Tactic.IntervalCases

/-!
# Editing the configuration file

`change_hostapd_entry` in `config_hostapd.c` reads the configuration of `hostapd` line by line, splits each
line at `=`, replaces a value, and prints the lines again.  The parts of a line go through `limpa_string`,
which is meant to remove the spaces around them; here is what it leaves alone.
-/

namespace Ethanol

namespace ConfigHostapd

/-! ## The code -/

/-- The loop of `limpa_string` that looks for the last character, down from number `k`. -/
def lastLoop (s : Bytes) : ℕ → ℕ
  | 0 => 0
  | k + 1 => if s.getD (k + 1) 0 ≠ 32 then k + 1 else lastLoop s k

/-- The loops of `limpa_string` after the first one. -/
def trim (s : Bytes) : Bytes :=
  let j := (s.takeWhile fun c => c = 32).length
  let k : ℤ := if s = [] then -1 else lastLoop s (s.length - 1)
  let s := (List.range (k - j).toNat).foldl (fun s i => s.set i (s.getD (j + i) 0)) s
  let i := k - j + 1
  -- the first zero ends the string and with it the loop; a negative `i` is not less than an unsigned length
  if 0 ≤ i ∧ i < s.length then s.take i.toNat else s

/-- `limpa_string`. -/
def limpaString (s : Bytes) : Bytes := trim (s.map fun c => if c = 10 then 32 else c)

/-- `strtok` with the delimiter `=`: the next token, and where it goes on. -/
def strtok (s : Bytes) : Option (Bytes × Bytes) :=
  match s.dropWhile fun c => c = 61 with
  | [] => none
  | c :: s => some ((c :: s).takeWhile fun c => c ≠ 61, ((c :: s).dropWhile fun c => c ≠ 61).drop 1)

/-- `type_pair`. -/
structure TypePair where
  var : Option Bytes
  val : Option Bytes

/-- `hostapd_split_conf`. -/
def hostapdSplitConf (entry : Bytes) : TypePair :=
  match strtok entry with
  | none => ⟨none, none⟩
  | some (var, rest) => ⟨some (limpaString var), (strtok rest).map fun (val, _) => limpaString val⟩

/-- `hostapd_read_conf`, with a buffer of `LINE_SIZE` bytes. -/
def hostapdReadConf (file : Bytes) : List TypePair := (pieces 2047 file).map hostapdSplitConf

/-- `change_entry`, with its return value.  A `NULL` that is compared has no result. -/
def changeEntry (var val : Bytes) : List TypePair → Option (List TypePair × ℤ)
  | [] => some ([], 1)
  | p :: rest => do
    let v ← p.var
    if v = var then some ({ p with val := some val } :: rest, 1)
    else do
      let (rest, r) ← changeEntry var val rest
      some (p :: rest, r)

/-- A line of `hostapd_write_conf`.  Printing `NULL` has no result. -/
def writePair (p : TypePair) : Option Bytes :=
  p.var.map fun var =>
    match p.val with
    | none => var ++ [10]
    | some val => var ++ [61] ++ val ++ [10]

/-- `hostapd_write_conf`. -/
def hostapdWriteConf : List TypePair → Option Bytes
  | [] => some []
  | p :: rest => do
    let line ← writePair p
    let lines ← hostapdWriteConf rest
    some (line ++ lines)

/-- `change_hostapd_entry`, for the result of `get_pid`: its return value and the file afterwards. -/
def changeHostapdEntry (pid : Option Bytes) (file var newVal : Bytes) : Option (ℤ × Bytes) :=
  match pid with
  | none => some (-1, file)
  | some _ => do
    let (conf, r) ← changeEntry var newVal (hostapdReadConf file)
    if r < 0 then some (-2, file)
    else do
      let file ← hostapdWriteConf conf
      some (0, file)

/-! ## Trimming -/

/-- The string neither starts nor ends with a space. -/
def Trimmed (s : Bytes) : Prop := s.getD 0 32 ≠ 32 ∧ s.getD (s.length - 1) 32 ≠ 32

/-- The strings that `limpa_string` leaves alone. -/
def Stays (s : Bytes) : Prop := s = [] ∨ Trimmed s ∨ 2 ≤ s.length ∧ ∀ c ∈ s, c = 32

lemma lastLoop_spec (s : Bytes) (n : ℕ) :
    lastLoop s n ≤ n ∧ (lastLoop s n ≠ 0 → s.getD (lastLoop s n) 0 ≠ 32) ∧
      ∀ i, lastLoop s n < i → i ≤ n → s.getD i 0 = 32 := by
  induction n with
  | zero => exact ⟨le_rfl, fun h => absurd rfl h, fun i hlo hhi => absurd hlo (not_lt.mpr hhi)⟩
  | succ n ih =>
    obtain ⟨hle, hne, hspaces⟩ := ih
    rw [lastLoop]
    split_ifs with h
    · exact ⟨le_rfl, fun _ => h, fun i hlo hhi => absurd hlo (not_lt.mpr hhi)⟩
    · refine ⟨hle.trans (Nat.le_succ n), hne, fun i hlo hhi => ?_⟩
      rcases Nat.lt_or_ge n i with hlt | hge
      · obtain rfl : i = n + 1 := by omega
        exact not_not.mp h
      · exact hspaces i hlo hge

/-- What holds of zero and of every character is kept by the loop that shifts. -/
lemma forall_mem_shift {Q : UInt8 → Prop} (hzero : Q 0) (j : ℕ) (is : List ℕ) {s : Bytes} (hs : ∀ c ∈ s, Q c) :
    ∀ c ∈ is.foldl (fun s i => s.set i (s.getD (j + i) 0)) s, Q c := by
  induction is generalizing s with
  | nil => exact hs
  | cons i is ih =>
    rw [List.foldl_cons]
    refine ih fun c hc => ?_
    rcases List.mem_or_eq_of_mem_set hc with hc | rfl
    · exact hs c hc
    · rw [List.getD_eq_getElem?_getD]
      cases hget : s[j + i]? with
      | none => exact hzero
      | some c => exact hs c (List.mem_of_getElem? hget)

lemma length_shift (j : ℕ) (is : List ℕ) (s : Bytes) :
    (is.foldl (fun s i => s.set i (s.getD (j + i) 0)) s).length = s.length := by
  induction is generalizing s with
  | nil => rfl
  | cons i is ih => rw [List.foldl_cons, ih, List.length_set]

/-- Without spaces in front the loop shifts nothing. -/
lemma shift_zero (is : List ℕ) (s : Bytes) : is.foldl (fun s i => s.set i (s.getD (0 + i) 0)) s = s := by
  induction is with
  | nil => rfl
  | cons i is ih =>
    have hset : s.set i (s.getD (0 + i) 0) = s := by
      rw [Nat.zero_add]
      by_cases hi : i < s.length
      · rw [List.getD_eq_getElem _ _ hi, List.set_getElem_self]
      · rw [List.set_eq_of_length_le (not_lt.mp hi)]
    rw [List.foldl_cons, hset, ih]

lemma forall_mem_trim {Q : UInt8 → Prop} (hzero : Q 0) {s : Bytes} (hs : ∀ c ∈ s, Q c) : ∀ c ∈ trim s, Q c := by
  intro c hc
  rw [trim] at hc
  rw [apply_ite (c ∈ ·), ite_prop_iff_or] at hc
  rcases hc with ⟨-, hc⟩ | ⟨-, hc⟩
  · exact forall_mem_shift hzero _ _ hs c (List.mem_of_mem_take hc)
  · exact forall_mem_shift hzero _ _ hs c hc

/-- The number of spaces in front. -/
lemma lead_spec (s : Bytes) : (s.takeWhile fun c => c = 32).length ≤ s.length ∧
    (∀ i < (s.takeWhile fun c => c = 32).length, s.getD i 0 = 32) ∧
    ((s.takeWhile fun c => c = 32).length < s.length → s.getD (s.takeWhile fun c => c = 32).length 0 ≠ 32) := by
  induction s with
  | nil => simp
  | cons c s ih =>
    obtain ⟨hle, hspaces, hne⟩ := ih
    by_cases hc : c = 32
    · rw [List.takeWhile_cons_of_pos (by simpa using hc), List.length_cons, List.length_cons]
      refine ⟨Nat.succ_le_succ hle, fun i hi => ?_, fun hlt => ?_⟩
      · rcases i with _ | i
        · exact hc
        · exact hspaces i (Nat.succ_lt_succ_iff.mp hi)
      · exact hne (Nat.succ_lt_succ_iff.mp hlt)
    · rw [List.takeWhile_cons_of_neg (by simpa using hc)]
      exact ⟨Nat.zero_le _, fun i hi => absurd hi (Nat.not_lt_zero i), fun _ => hc⟩

/-- More than one space, and nothing else: the last loop starts at a negative number. -/
lemma trim_spaces {s : Bytes} (hs : ∀ c ∈ s, c = 32) (hlength : 2 ≤ s.length) : trim s = s := by
  have hne : s ≠ [] := List.ne_nil_of_length_pos (by omega)
  have hget : ∀ i < s.length, s.getD i 0 = 32 := by
    intro i hi
    rw [List.getD_eq_getElem _ _ hi]
    exact hs _ (List.getElem_mem hi)
  obtain ⟨hle, -, hlead⟩ := lead_spec s
  obtain ⟨hlast, hnonzero, -⟩ := lastLoop_spec s (s.length - 1)
  have hj : (s.takeWhile fun c => c = 32).length = s.length := by
    by_contra hj
    exact hlead (by omega) (hget _ (by omega))
  have hk : lastLoop s (s.length - 1) = 0 := by
    by_contra hk
    exact hnonzero hk (hget _ (by omega))
  have hcount : ((0 : ℕ) - (s.length : ℤ)).toNat = 0 := by omega
  rw [trim, if_neg hne, hj, hk]
  rw [hcount, List.range_zero, List.foldl_nil, if_neg (by omega)]

/-- The string has a character other than space: what is left is as long as the part from the first to the
last one, and it is that part if there is no space in front. -/
lemma trim_of_mem {s : Bytes} (h : ∃ c ∈ s, c ≠ 32) : ∃ j k, j ≤ k ∧ k < s.length ∧
    (∀ i < j, s.getD i 0 = 32) ∧ s.getD j 0 ≠ 32 ∧ s.getD k 0 ≠ 32 ∧
    (∀ i, k < i → i < s.length → s.getD i 0 = 32) ∧ (trim s).length = k - j + 1 ∧
    (j = 0 → trim s = s.take (k + 1)) := by
  obtain ⟨c, hc, hne⟩ := h
  obtain ⟨n, hn, hget⟩ := List.mem_iff_getElem.mp hc
  have hgetD : s.getD n 0 ≠ 32 := by rwa [List.getD_eq_getElem _ _ hn, hget]
  have hnil : s ≠ [] := List.ne_nil_of_mem hc
  obtain ⟨-, hspaces, hlead⟩ := lead_spec s
  obtain ⟨hlast, hnonzero, hbehind⟩ := lastLoop_spec s (s.length - 1)
  set j := (s.takeWhile fun c => c = 32).length with hj
  set k := lastLoop s (s.length - 1) with hk
  have hjn : j ≤ n := by
    by_contra hlt
    exact hgetD (hspaces n (by omega))
  have hnk : n ≤ k := by
    by_contra hlt
    exact hgetD (hbehind n (by omega) (by omega))
  have hlength : 0 < s.length := List.length_pos_iff.mpr hnil
  have htrim : trim s = if 0 ≤ (k : ℤ) - j + 1 ∧ (k : ℤ) - j + 1 < s.length then
      ((List.range (k - j)).foldl (fun s i => s.set i (s.getD (j + i) 0)) s).take (k - j + 1)
      else (List.range (k - j)).foldl (fun s i => s.set i (s.getD (j + i) 0)) s := by
    have hcount : ((k : ℤ) - j).toNat = k - j := by omega
    have htake : ((k : ℤ) - j + 1).toNat = k - j + 1 := by omega
    rw [trim, if_neg hnil, ← hj, ← hk]
    rw [hcount, htake, length_shift]
  refine ⟨j, k, hjn.trans hnk, by omega, hspaces, hlead (by omega), ?_, fun i hlo hhi => hbehind i hlo (by omega), ?_,
    fun hzero => ?_⟩
  · rcases Nat.eq_zero_or_pos k with hzero | hpos
    · obtain rfl : n = k := by omega
      exact hgetD
    · exact hnonzero hpos.ne'
  · rw [htrim]
    split_ifs with hif
    · rw [List.length_take, length_shift]
      omega
    · rw [length_shift]
      omega
  · rw [htrim, hzero, shift_zero]
    split_ifs with hif
    · rfl
    · rw [List.take_of_length_le (by omega)]

/-- A string with spaces behind it, and a character that is none in it. -/
lemma trim_append_spaces_iff {x : Bytes} (h : ∃ c ∈ x, c ≠ 32) (m : ℕ) :
    trim (x ++ List.replicate m 32) = x ↔ Trimmed x := by
  obtain ⟨c, hc, hne⟩ := h
  have hpos : 0 < x.length := List.length_pos_of_mem hc
  have hin : ∀ i < x.length, (x ++ List.replicate m 32).getD i 0 = x.getD i 32 := by
    intro i hi
    rw [List.getD_append _ _ _ _ hi, List.getD_eq_getElem _ _ hi, List.getD_eq_getElem _ _ hi]
  have hbehind : ∀ i, x.length ≤ i → i < x.length + m → (x ++ List.replicate m 32).getD i 0 = 32 := by
    intro i hlo hhi
    rw [List.getD_append_right _ _ _ _ hlo, List.getD_eq_getElem _ _ (by rw [List.length_replicate]; omega),
      List.getElem_replicate]
  obtain ⟨j, k, hjk, hk, hspaces, hj, hlast, hafter, hlength, htake⟩ :=
    trim_of_mem (s := x ++ List.replicate m 32) ⟨c, List.mem_append_left _ hc, hne⟩
  have htotal : (x ++ List.replicate m 32).length = x.length + m := by simp
  rw [htotal] at hk hafter
  have hkx : k < x.length := by
    by_contra hge
    exact hlast (hbehind k (by omega) hk)
  constructor
  · intro htrim
    have hsame := hlength
    rw [htrim] at hsame
    obtain rfl : j = 0 := by omega
    obtain rfl : k = x.length - 1 := by omega
    exact ⟨by rwa [← hin 0 hpos], by rwa [← hin _ hkx]⟩
  · rintro ⟨hfirst, hend⟩
    have hzero : j = 0 := by
      by_contra hne
      have hspace := hspaces 0 (by omega)
      rw [hin 0 hpos] at hspace
      exact hfirst hspace
    have hkeq : k = x.length - 1 := by
      by_contra hne
      have hspace := hafter (x.length - 1) (by omega) (by omega)
      rw [hin _ (by omega)] at hspace
      exact hend hspace
    rw [htake hzero, hkeq, Nat.sub_add_cancel hpos, List.take_left]

lemma not_trimmed_of_spaces {x : Bytes} (h : ∀ c ∈ x, c = 32) : ¬Trimmed x := by
  rintro ⟨hfirst, -⟩
  cases x with
  | nil => exact hfirst rfl
  | cons c x => exact hfirst (h c List.mem_cons_self)

/-- The strings that the loops leave alone. -/
lemma trim_eq_self_iff (x : Bytes) : trim x = x ↔ Stays x := by
  by_cases h : ∃ c ∈ x, c ≠ 32
  · have hiff := trim_append_spaces_iff h 0
    rw [List.replicate_zero, List.append_nil] at hiff
    rw [hiff, Stays]
    obtain ⟨c, hc, hne⟩ := h
    refine ⟨fun htrimmed => Or.inr (Or.inl htrimmed), ?_⟩
    rintro (rfl | htrimmed | ⟨-, hspaces⟩)
    · exact absurd hc (List.not_mem_nil)
    · exact htrimmed
    · exact absurd (hspaces c hc) hne
  · push Not at h
    rcases x with _ | ⟨c, _ | ⟨c', x⟩⟩
    · exact iff_of_true rfl (Or.inl rfl)
    · obtain rfl := h c List.mem_cons_self
      exact iff_of_false (by decide) (by unfold Stays Trimmed; simp)
    · exact iff_of_true (trim_spaces h (by simp)) (Or.inr (Or.inr ⟨by simp, h⟩))

/-- The strings that are left of themselves and a space. -/
lemma trim_concat_space_iff (x : Bytes) : trim (x ++ [32]) = x ↔ x = [] ∨ Trimmed x := by
  by_cases h : ∃ c ∈ x, c ≠ 32
  · have hiff := trim_append_spaces_iff h 1
    rw [List.replicate_one] at hiff
    rw [hiff]
    obtain ⟨c, hc, -⟩ := h
    exact ⟨Or.inr, fun hor => hor.resolve_left (List.ne_nil_of_mem hc)⟩
  · push Not at h
    rcases x with _ | ⟨c, x⟩
    · exact iff_of_true (by decide) (Or.inl rfl)
    · have hspaces : ∀ c' ∈ c :: x ++ [32], c' = 32 := by
        intro c' hc'
        rcases List.mem_append.mp hc' with hc' | hc'
        · exact h c' hc'
        · exact List.mem_singleton.mp hc'
      refine iff_of_false ?_ ?_
      · rw [trim_spaces hspaces (by simp)]
        exact fun heq => absurd (congrArg List.length heq) (by simp)
      · rintro (hnil | htrimmed)
        · exact absurd hnil (List.cons_ne_nil c x)
        · exact not_trimmed_of_spaces h htrimmed

/-- The first character stays if it is not a space. -/
lemma head?_trim {c : UInt8} {s : Bytes} (hc : c ≠ 32) : (trim (c :: s)).head? = some c := by
  obtain ⟨j, k, -, -, hspaces, -, -, -, -, htake⟩ := trim_of_mem ⟨c, List.mem_cons_self (l := s), hc⟩
  have hzero : j = 0 := by
    by_contra hne
    exact hc (hspaces 0 (by omega))
  rw [htake hzero, List.take_succ_cons, List.head?_cons]

end ConfigHostapd

end Ethanol
