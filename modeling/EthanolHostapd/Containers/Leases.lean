import Mathlib.Data.Nat.Notation
import Mathlib.Logic.Function.Basic

/-!
# Leases

Numbers are given to holders, each holder has one at most, and a bit is kept for each number.  `Exact` says that the bits are
those of the numbers that are held and that no number is held twice.  It is kept when a free number is given to a holder
without one and when a holder gives its number back.
-/

namespace Leases

variable {ι : Type*} {bit : ℕ → Bool} {held : ι → Option ℕ} {i : ι} {k : ℕ}

/-- The bits are exactly those of the numbers that are held, and each number is held once at most. -/
structure Exact (bit : ℕ → Bool) (held : ι → Option ℕ) : Prop where
  bit_iff : ∀ k, bit k = true ↔ ∃ i, held i = some k
  unique : ∀ i j k, held i = some k → held j = some k → i = j

lemma exact_empty (hbit : ∀ k, bit k = false) (hheld : ∀ i, held i = none) : Exact bit held where
  bit_iff k := by simp [hbit, hheld]
  unique i j k h := by simp [hheld] at h

variable [DecidableEq ι]

/-- A free number is given to a holder without one. -/
lemma Exact.give (h : Exact bit held) (hfree : bit k = false) (hnone : held i = none) :
    Exact (fun l => decide (l = k) || bit l) (Function.update held i (some k)) := by
  have hnot : ∀ j, held j ≠ some k := fun j hj => by
    rw [(h.bit_iff k).mpr ⟨j, hj⟩] at hfree
    cases hfree
  constructor
  case bit_iff =>
    intro l
    rw [Bool.or_eq_true, decide_eq_true_eq, h.bit_iff]
    constructor
    · rintro (rfl | ⟨j, hj⟩)
      · exact ⟨i, Function.update_self ..⟩
      · refine ⟨j, ?_⟩
        rw [Function.update_of_ne, hj]
        rintro rfl
        rw [hnone] at hj
        cases hj
    · rintro ⟨j, hj⟩
      by_cases hji : j = i
      · subst hji
        rw [Function.update_self] at hj
        exact Or.inl (Option.some.inj hj).symm
      · rw [Function.update_of_ne hji] at hj
        exact Or.inr ⟨j, hj⟩
  case unique =>
    intro j j' l hj hj'
    by_cases hji : j = i
    · by_cases hji' : j' = i
      · rw [hji, hji']
      · rw [hji, Function.update_self] at hj
        rw [Function.update_of_ne hji', ← hj] at hj'
        exact absurd hj' (hnot j')
    · rw [Function.update_of_ne hji] at hj
      by_cases hji' : j' = i
      · rw [hji', Function.update_self] at hj'
        rw [← hj'] at hj
        exact absurd hj (hnot j)
      · rw [Function.update_of_ne hji'] at hj'
        exact h.unique j j' l hj hj'

/-- A holder gives its number back. -/
lemma Exact.giveBack (h : Exact bit held) (hheld : held i = some k) :
    Exact (fun l => decide (l ≠ k) && bit l) (Function.update held i none) := by
  constructor
  case bit_iff =>
    intro l
    rw [Bool.and_eq_true, decide_eq_true_eq, h.bit_iff]
    constructor
    · rintro ⟨hne, j, hj⟩
      refine ⟨j, ?_⟩
      rw [Function.update_of_ne, hj]
      rintro rfl
      exact hne (Option.some.inj (hj.symm.trans hheld))
    · rintro ⟨j, hj⟩
      by_cases hji : j = i
      · rw [hji, Function.update_self] at hj
        cases hj
      · rw [Function.update_of_ne hji] at hj
        exact ⟨fun heq => hji (h.unique j i k (heq ▸ hj) hheld), j, hj⟩
  case unique =>
    intro j j' l hj hj'
    have hji : j ≠ i := by
      rintro rfl
      rw [Function.update_self] at hj
      cases hj
    have hji' : j' ≠ i := by
      rintro rfl
      rw [Function.update_self] at hj'
      cases hj'
    rw [Function.update_of_ne hji] at hj
    rw [Function.update_of_ne hji'] at hj'
    exact h.unique j j' l hj hj'

/-- A holder without a number comes or goes. -/
lemma Exact.update_none (h : Exact bit held) (hnone : held i = none) : Exact bit (Function.update held i none) := by
  rw [← hnone, Function.update_eq_self]
  exact h

end Leases
