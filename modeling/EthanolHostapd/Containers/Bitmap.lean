import Mathlib.Data.Fin.Basic
import Mathlib.Data.List.FinRange
import Mathlib.Logic.Function.Basic

/-!
# Bitmaps over an array of words

A set of numbers is kept in an array of `n` words of `w` bits: the number `k` is bit `k % w` of word
`k / w`.  `set` and `clear` change one bit with a mask, and `firstFree` looks for the first bit that is
clear, word by word, without looking into the words that are full.
-/

namespace Bitmap

variable {w n : ℕ}

/-- Bit `k`; there is none behind the last word. -/
def get (m : Fin n → BitVec w) (k : ℕ) : Bool :=
  if h : k / w < n then (m ⟨k / w, h⟩).getLsbD (k % w) else false

/-- Bit `j` of word `i` is set. -/
def set (m : Fin n → BitVec w) (i : Fin n) (j : ℕ) : Fin n → BitVec w :=
  Function.update m i (m i ||| BitVec.twoPow w j)

/-- Bit `k` is cleared; there is no such bit behind the last word. -/
def clear (m : Fin n → BitVec w) (k : ℕ) : Option (Fin n → BitVec w) :=
  if h : k / w < n then
    some (Function.update m ⟨k / w, h⟩ (m ⟨k / w, h⟩ &&& ~~~BitVec.twoPow w (k % w)))
  else none

/-- The first clear bit of a word. -/
def freeBit (x : BitVec w) : Option ℕ := (List.range w).find? fun j => !x.getLsbD j

/-- The first clear bit, as a word and a bit in it. -/
def firstFree (m : Fin n → BitVec w) : Option (Fin n × ℕ) :=
  (List.finRange n).findSome? fun i =>
    if m i = BitVec.allOnes w then none else (freeBit (m i)).map fun j => (i, j)

/-! ## Single bits -/

/-- The word of a bit. -/
lemma word_div (i : ℕ) {j : ℕ} (hj : j < w) : (i * w + j) / w = i := by
  rw [Nat.mul_comm, Nat.mul_add_div (Nat.zero_lt_of_lt hj), Nat.div_eq_of_lt hj, Nat.add_zero]

/-- The place of a bit in its word. -/
lemma word_mod (i : ℕ) {j : ℕ} (hj : j < w) : (i * w + j) % w = j := by
  rw [Nat.mul_comm, Nat.mul_add_mod, Nat.mod_eq_of_lt hj]

lemma get_word (m : Fin n → BitVec w) (i : Fin n) {j : ℕ} (hj : j < w) :
    get m (i * w + j) = (m i).getLsbD j := by
  simp [get, word_div i hj, word_mod i hj]

/-- Every bit is some bit of some word. -/
lemma exists_word {k : ℕ} (h : k / w < n) (hw : 0 < w) :
    ∃ (i : Fin n) (j : ℕ), j < w ∧ k = i * w + j :=
  ⟨⟨k / w, h⟩, k % w, Nat.mod_lt k hw, by rw [Nat.mul_comm]; exact (Nat.div_add_mod k w).symm⟩

lemma word_injective {i i' : Fin n} {j j' : ℕ} (hj : j < w) (hj' : j' < w)
    (h : (i : ℕ) * w + j = i' * w + j') : i = i' ∧ j = j' := by
  have hi : (i : ℕ) = i' := by rw [← word_div i hj, h, word_div i' hj']
  refine ⟨Fin.ext hi, ?_⟩
  rw [hi] at h
  exact Nat.add_left_cancel h

@[simp] lemma get_zero (k : ℕ) : get (fun _ : Fin n => 0#w) k = false := by
  simp [get]

/-- Setting a bit changes no other. -/
lemma get_set (m : Fin n → BitVec w) (i : Fin n) {j : ℕ} (hj : j < w) (k : ℕ) :
    get (set m i j) k = (decide (k = i * w + j) || get m k) := by
  by_cases hk : k / w < n
  · obtain ⟨i', j', hj', rfl⟩ := exists_word hk (Nat.zero_lt_of_lt hj)
    rw [get_word _ _ hj', get_word _ _ hj', set]
    by_cases hi : i' = i
    · subst hi
      by_cases hjj : j' = j
      · subst hjj
        simp [hj]
      · simp [hj', hjj]
    · rw [Function.update_of_ne hi]
      have hne : (i' : ℕ) * w + j' ≠ i * w + j := fun h => hi (word_injective hj' hj h).1
      simp [hne]
  · have hne : k ≠ i * w + j := by
      rintro rfl
      refine hk ?_
      rw [word_div i hj]
      exact i.isLt
    simp [get, hk, hne]

/-- Clearing a bit changes no other. -/
lemma get_clear {m m' : Fin n → BitVec w} {k : ℕ} (h : clear m k = some m') (hw : 0 < w) (l : ℕ) :
    get m' l = (decide (l ≠ k) && get m l) := by
  unfold clear at h
  split_ifs at h with hk
  obtain rfl := Option.some.inj h
  obtain ⟨i, j, hj, rfl⟩ := exists_word hk hw
  by_cases hl : l / w < n
  · obtain ⟨i', j', hj', rfl⟩ := exists_word hl hw
    rw [get_word _ _ hj', get_word _ _ hj']
    simp only [word_div _ hj, word_mod _ hj, Fin.eta]
    by_cases hi : i' = i
    · subst hi
      by_cases hjj : j' = j
      · subst hjj
        simp [hj]
      · simp [hj', hjj]
    · rw [Function.update_of_ne hi]
      have hne : (i' : ℕ) * w + j' ≠ i * w + j := fun h => hi (word_injective hj' hj h).1
      simp [hne]
  · simp [get, hl]

/-! ## Looking for a clear bit -/

lemma freeBit_eq_some {x : BitVec w} {j : ℕ} (h : freeBit x = some j) :
    j < w ∧ x.getLsbD j = false ∧ ∀ j' < j, x.getLsbD j' = true := by
  obtain ⟨hclear, hj, hset⟩ := List.find?_range_eq_some.mp h
  exact ⟨List.mem_range.mp hj, by simpa using hclear, fun j' hj' => by simpa using hset j' hj'⟩

/-- A word that is not full has a clear bit. -/
lemma freeBit_isSome {x : BitVec w} (h : x ≠ BitVec.allOnes w) : (freeBit x).isSome := by
  by_contra hnone
  refine h (BitVec.eq_of_getLsbD_eq fun j hj => ?_)
  have hset := List.find?_range_eq_none.mp (Option.not_isSome_iff_eq_none.mp hnone) j hj
  simpa [hj] using hset

/-- The first word that is not full has the first clear bit. -/
lemma firstFree_eq_find (m : Fin n → BitVec w) : firstFree m =
    ((List.finRange n).find? fun i => m i ≠ BitVec.allOnes w).bind fun i => (freeBit (m i)).map fun j => (i, j) := by
  rw [firstFree]
  induction List.finRange n with
  | nil => rfl
  | cons i is ih =>
    rw [List.findSome?_cons, List.find?_cons]
    by_cases hones : m i = BitVec.allOnes w
    · simpa [hones] using ih
    · obtain ⟨j, hj⟩ := Option.isSome_iff_exists.mp (freeBit_isSome hones)
      simp [hones, hj]

/-- The words in front of the one that was found are full. -/
lemma firstFree_eq_some {m : Fin n → BitVec w} {i : Fin n} {j : ℕ}
    (h : firstFree m = some (i, j)) :
    j < w ∧ get m (i * w + j) = false ∧ ∀ k < i * w + j, get m k = true := by
  obtain ⟨l₁, i₀, l₂, hl, hfound, hfull⟩ := List.findSome?_eq_some_iff.mp h
  split_ifs at hfound with hones
  obtain ⟨j₀, hj₀, heq⟩ := Option.map_eq_some_iff.mp hfound
  obtain ⟨rfl, rfl⟩ := Prod.mk.inj heq
  obtain ⟨hj, hclear, hset⟩ := freeBit_eq_some hj₀
  refine ⟨hj, by rw [get_word _ _ hj, hclear], fun k hk => ?_⟩
  have hw : 0 < w := Nat.zero_lt_of_lt hj
  have hkn : k / w < n := by
    refine lt_of_le_of_lt ?_ i₀.isLt
    rw [← word_div i₀ hj]
    exact Nat.div_le_div_right hk.le
  obtain ⟨i', j', hj', rfl⟩ := exists_word hkn hw
  rw [get_word _ _ hj']
  by_cases hi : i' = i₀
  · subst hi
    exact hset j' (Nat.lt_of_add_lt_add_left hk)
  · -- `i'` comes before `i₀` in the list of all words
    have hlt : i' < i₀ := by
      refine lt_of_le_of_ne (Fin.le_def.mpr ?_) hi
      rw [← word_div i' hj', ← word_div i₀ hj]
      exact Nat.div_le_div_right hk.le
    have hmem : i' ∈ l₁ := by
      have hpair := List.pairwise_lt_finRange n
      rw [hl] at hpair
      have hin : i' ∈ l₁ ++ i₀ :: l₂ := hl ▸ List.mem_finRange i'
      rcases List.mem_append.mp hin with hin | hin
      · exact hin
      · rcases List.mem_cons.mp hin with rfl | hin
        · exact absurd rfl hi
        · have := (List.pairwise_cons.mp (List.pairwise_append.mp hpair).2.1).1 i' hin
          exact absurd hlt (not_lt_of_gt this)
    have hnone := hfull i' hmem
    split_ifs at hnone with hones'
    · simp [hones', hj']
    · have := freeBit_isSome hones'
      rw [Option.map_eq_none_iff.mp hnone] at this
      exact absurd this (by simp)

/-- If no word has a clear bit, all bits are set. -/
lemma firstFree_eq_none {m : Fin n → BitVec w} (h : firstFree m = none) {i : Fin n} {j : ℕ}
    (hj : j < w) : get m (i * w + j) = true := by
  have hnone := List.findSome?_eq_none_iff.mp h i (List.mem_finRange i)
  rw [get_word _ _ hj]
  split_ifs at hnone with hones
  · simp [hones, hj]
  · have := freeBit_isSome hones
    rw [Option.map_eq_none_iff.mp hnone] at this
    exact absurd this (by simp)

end Bitmap
