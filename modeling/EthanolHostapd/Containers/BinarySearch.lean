import Mathlib.Data.List.Basic
import Mathlib.Tactic

/-!
# Binary search in an array

The test `cmp` says of each element whether it comes before what is searched (negative), after it (positive)
or is what is searched (zero).  `search cmp l` is the usual loop over the indices `start` to `end`.

What it finds is an element with the test zero, whatever the order of the array is.  If the array is in the
order of the test then it finds one if there is one.
-/

namespace BinarySearch

variable {α : Type*} (cmp : α → ℤ)

/-- The loop, for at most `fuel` rounds. -/
def searchFrom (l : List α) : ℕ → ℤ → ℤ → Option α
  | 0, _, _ => none
  | fuel + 1, first, last =>
    if first ≤ last then
      let middle := (first + last) / 2
      match l[middle.toNat]? with
      | none => none
      | some a =>
        if cmp a = 0 then some a
        else if cmp a < 0 then searchFrom l fuel (middle + 1) last
        else searchFrom l fuel first (middle - 1)
    else none

/-- The search in the whole array.  No more rounds are needed than there are elements. -/
def search (l : List α) : Option α := searchFrom cmp l l.length 0 (l.length - 1)

/-- The elements before what is searched come first, those after it come last. -/
def Ascending (l : List α) : Prop :=
  l.Pairwise fun a b => (0 < cmp a → 0 < cmp b) ∧ (cmp b < 0 → cmp a < 0)

variable {cmp} {l : List α} {a : α}

lemma searchFrom_sound {fuel : ℕ} {first last : ℤ} (h : searchFrom cmp l fuel first last = some a) :
    a ∈ l ∧ cmp a = 0 := by
  induction fuel generalizing first last with
  | zero => simp [searchFrom] at h
  | succ fuel ih =>
    unfold searchFrom at h
    split_ifs at h
    dsimp only at h
    cases hget : l[((first + last) / 2).toNat]? with
    | none => simp [hget] at h
    | some b =>
      rw [hget] at h
      dsimp only at h
      split_ifs at h with hzero
      · obtain rfl := Option.some.inj h
        exact ⟨List.mem_of_getElem? hget, hzero⟩
      · exact ih h
      · exact ih h

/-- What is found is in the array. -/
lemma search_sound (h : search cmp l = some a) : a ∈ l ∧ cmp a = 0 := searchFrom_sound h

/-- If an index with the test zero is between the bounds then one is found. -/
lemma searchFrom_isSome (hl : Ascending cmp l) {fuel : ℕ} {first last : ℤ} {i : ℕ} (hi : i < l.length)
    (hzero : cmp l[i] = 0) (hfirst : 0 ≤ first) (hle : first ≤ i) (hlast : (i : ℤ) ≤ last)
    (hlength : last < l.length) (hfuel : last - first < fuel) : (searchFrom cmp l fuel first last).isSome := by
  induction fuel generalizing first last with
  | zero =>
    push_cast at hfuel
    omega
  | succ fuel ih =>
    obtain ⟨m, hm⟩ : ∃ m : ℕ, (first + last) / 2 = m := Int.eq_ofNat_of_zero_le (by omega)
    have hmlt : m < l.length := by omega
    have hget : l[((first + last) / 2).toNat]? = some l[m] := by
      rw [hm, Int.toNat_natCast]
      exact List.getElem?_eq_getElem hmlt
    unfold searchFrom
    rw [if_pos (hle.trans hlast)]
    dsimp only
    rw [hget]
    dsimp only
    rcases lt_trichotomy (cmp l[m]) 0 with hneg | hz | hpos
    · -- the index is in the upper half
      have hmi : m < i := by
        by_contra hge
        rcases (not_lt.mp hge).eq_or_lt with heq | hlt
        · subst heq
          omega
        · have hbefore := List.pairwise_iff_getElem.mp hl i m hi hmlt hlt
          have := hbefore.2 hneg
          omega
      rw [if_neg hneg.ne, if_pos hneg]
      push_cast at hfuel
      exact ih (by omega) (by omega) hlast hlength (by omega)
    · rw [if_pos hz]
      rfl
    · have him : i < m := by
        by_contra hge
        rcases (not_lt.mp hge).eq_or_lt with heq | hlt
        · subst heq
          omega
        · have hbefore := List.pairwise_iff_getElem.mp hl m i hmlt hi hlt
          have := hbefore.1 hpos
          omega
      rw [if_neg hpos.ne', if_neg hpos.not_gt]
      push_cast at hfuel
      exact ih hfirst hle (by omega) (by omega) (by omega)

/-- The search in an array that is in order. -/
theorem search_isSome_iff (hl : Ascending cmp l) : (search cmp l).isSome ↔ ∃ a ∈ l, cmp a = 0 := by
  constructor
  · intro h
    obtain ⟨a, ha⟩ := Option.isSome_iff_exists.mp h
    exact ⟨a, search_sound ha⟩
  · rintro ⟨a, ha, hzero⟩
    obtain ⟨i, hi, rfl⟩ := List.getElem_of_mem ha
    exact searchFrom_isSome hl hi hzero le_rfl (by omega) (by omega) (by omega) (by omega)

end BinarySearch
