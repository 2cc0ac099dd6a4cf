import Mathlib.Data.Nat.Nth
import Mathlib.Order.Interval.Finset.Nat

/-!
# The free numbers above a given one

An allocator that walks upwards from a number and passes over those that are in use gives the free numbers
in their order.  Counting the free ones below a bound says how many it can give before it gets there.
-/

namespace FreeNumbers

/-- A number above `start` that is not in use. -/
def Free (start : ℕ) (used : List ℕ) (x : ℕ) : Prop := start < x ∧ x ∉ used

instance (start : ℕ) (used : List ℕ) : DecidablePred (Free start used) := fun x =>
  inferInstanceAs (Decidable (start < x ∧ x ∉ used))

variable {start : ℕ} {used : List ℕ}

/-- No number up to the start is free. -/
lemma count_start : Nat.count (Free start used) (start + 1) = 0 := by
  rw [Nat.count_iff_forall_not]
  rintro m hm ⟨hlt, -⟩
  omega

/-- Each number in use takes one away. -/
lemma le_count (n : ℕ) :
    n ≤ Nat.count (Free start used) (start + 1 + n) + used.countP (start < ·) := by
  let taken := (used.filter (start < ·)).toFinset
  have hfree : (Finset.range (start + 1 + n)).filter (Free start used) =
      Finset.Ico (start + 1) (start + 1 + n) \ taken := by
    ext x
    simp only [taken, Free, Finset.mem_filter, Finset.mem_range, Finset.mem_sdiff, Finset.mem_Ico,
      List.mem_toFinset, List.mem_filter, decide_eq_true_eq]
    constructor
    · rintro ⟨hx, hlt, hused⟩
      exact ⟨⟨hlt, hx⟩, fun hmem => hused hmem.1⟩
    · rintro ⟨⟨hlt, hx⟩, hused⟩
      exact ⟨hx, hlt, fun hmem => hused ⟨hmem, hlt⟩⟩
  have htaken : taken.card ≤ used.countP (start < ·) := by
    rw [List.countP_eq_length_filter]
    exact List.toFinset_card_le _
  have hsub := Finset.le_card_sdiff taken (Finset.Ico (start + 1) (start + 1 + n))
  rw [Nat.card_Ico] at hsub
  rw [Nat.count_eq_card_filter_range, hfree]
  omega

/-- While fewer have been given than there are below the bound, the next one is below it. -/
lemma exists_next {p : ℕ → Prop} [DecidablePred p] {lo hi : ℕ} (h : Nat.count p lo < Nat.count p hi) :
    ∃ x, lo ≤ x ∧ x < hi ∧ p x ∧ (∀ y, lo ≤ y → y < x → ¬p y) ∧
      Nat.count p (x + 1) = Nat.count p lo + 1 := by
  have hex : ∃ x, lo ≤ x ∧ p x := by
    obtain ⟨x, hmem, hp⟩ := Nat.exists_of_count_lt_count h
    exact ⟨x, hmem.1, hp⟩
  obtain ⟨hle, hp⟩ := Nat.find_spec hex
  have hfirst : ∀ y, lo ≤ y → y < Nat.find hex → ¬p y := fun y hy hlt hpy => Nat.find_min hex hlt ⟨hy, hpy⟩
  have hcount : Nat.count p (Nat.find hex) = Nat.count p lo := by
    apply le_antisymm _ (Nat.count_monotone p hle)
    by_contra! hlt
    obtain ⟨y, hmem, hpy⟩ := Nat.exists_of_count_lt_count hlt
    exact hfirst y hmem.1 hmem.2 hpy
  have hhi : Nat.find hex < hi := by
    obtain ⟨x, hmem, hpx⟩ := Nat.exists_of_count_lt_count h
    exact (Nat.find_le ⟨hmem.1, hpx⟩).trans_lt hmem.2
  refine ⟨Nat.find hex, hle, hhi, hp, hfirst, ?_⟩
  rw [Nat.count_succ, hcount, if_pos hp]

end FreeNumbers
