import Mathlib.Data.List.Basic

/-!
# Sweeps over a list

A register runs over a list and is exchanged, at each place, with what stands there.  A sweep that runs back over the list
with the inverse exchange restores both the list and the register.
-/

namespace Sweep

variable {α σ : Type*} (f : ℕ → σ → α → σ × α)

/-- From the first place, which has the number given, to the last one. -/
def up : ℕ → σ → List α → σ × List α
  | _, s, [] => (s, [])
  | i, s, a :: as => ((up (i + 1) (f i s a).1 as).1, (f i s a).2 :: (up (i + 1) (f i s a).1 as).2)

/-- From the last place to the first one, which has the number given. -/
def down : ℕ → σ → List α → σ × List α
  | _, s, [] => (s, [])
  | i, s, a :: as => ((f i (down (i + 1) s as).1 a).1, (f i (down (i + 1) s as).1 a).2 :: (down (i + 1) s as).2)

variable {f}

@[simp] lemma length_up (i : ℕ) (s : σ) (as : List α) : (up f i s as).2.length = as.length := by
  induction as generalizing i s with
  | nil => rfl
  | cons a as ih => rw [up, List.length_cons, List.length_cons, ih]

@[simp] lemma length_down (i : ℕ) (s : σ) (as : List α) : (down f i s as).2.length = as.length := by
  induction as generalizing i s with
  | nil => rfl
  | cons a as ih => rw [down, List.length_cons, List.length_cons, ih]

variable {g : ℕ → σ → α → σ × α}

/-- The sweep back undoes the sweep. -/
lemma down_up (hinv : ∀ i s a, g i (f i s a).1 (f i s a).2 = (s, a)) (i : ℕ) (s : σ) (as : List α) :
    down g i (up f i s as).1 (up f i s as).2 = (s, as) := by
  induction as generalizing i s with
  | nil => rfl
  | cons a as ih =>
    have hrest := ih (i + 1) (f i s a).1
    rw [up, down, hrest, hinv]

/-- The sweep undoes the sweep back. -/
lemma up_down (hinv : ∀ i s a, f i (g i s a).1 (g i s a).2 = (s, a)) (i : ℕ) (s : σ) (as : List α) :
    up f i (down g i s as).1 (down g i s as).2 = (s, as) := by
  induction as generalizing i s with
  | nil => rfl
  | cons a as ih =>
    have hrest := ih (i + 1) s
    rw [down, up, hinv, hrest]

end Sweep
