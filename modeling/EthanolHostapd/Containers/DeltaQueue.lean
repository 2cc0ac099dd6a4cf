import Mathlib.Algebra.BigOperators.Group.List.Basic
import Mathlib.Algebra.Order.Group.Int
import Mathlib.Algebra.Ring.Int.Defs
import Mathlib.Data.List.TakeWhile

/-!
# Delta queues

A delta queue keeps what is to happen in the order in which it is due, and stores with each entry
only the time that passes after the entry before it.  An entry is due when the sum of the deltas up
to and including its own has passed.

`Encodes due acc q` is the invariant of such a queue: deltas are not negative, and the prefix sums,
counted from `acc`, are the times at which `due` wants the entries.
-/

/-- How the delta of an entry is read and reduced. -/
structure Delta (α : Type*) where
  delta : α → ℤ
  reduce : α → ℤ → α
  delta_reduce : ∀ a d, delta (reduce a d) = delta a - d

namespace DeltaQueue

variable {α : Type*} (D : Delta α)

/-- Insertion by delta: walk over the entries that are due earlier or at the same time, then reduce
the delta of the first later one. -/
def insert (x : α) : List α → List α
  | [] => [x]
  | y :: q =>
    if D.delta y > D.delta x then x :: D.reduce y (D.delta x) :: q
    else y :: insert (D.reduce x (D.delta y)) q

/-- The prefix sums of the deltas, from `acc` on, are the times `due`. -/
def Encodes (due : α → ℤ) (acc : ℤ) : List α → Prop
  | [] => True
  | y :: q => 0 ≤ D.delta y ∧ acc + D.delta y = due y ∧ Encodes due (acc + D.delta y) q

variable {D} {due : α → ℤ} {acc : ℤ} {q : List α}

lemma Encodes.nonneg (h : Encodes D due acc q) : ∀ y ∈ q, 0 ≤ D.delta y := by
  induction q generalizing acc with
  | nil => simp
  | cons y q ih =>
    intro z hz
    rcases List.mem_cons.mp hz with rfl | hz
    · exact h.1
    · exact ih h.2.2 z hz

/-- Every entry is due at the sum of the deltas up to it. -/
lemma Encodes.sum_eq (h : Encodes D due acc q) {before after : List α} {y : α}
    (hq : q = before ++ y :: after) :
    acc + (before.map D.delta).sum + D.delta y = due y := by
  induction before generalizing acc q with
  | nil =>
    subst hq
    simpa using h.2.1
  | cons z before ih =>
    subst hq
    have hsum := ih h.2.2 rfl
    rw [List.map_cons, List.sum_cons]
    omega

/-- Nothing is due before the reference time. -/
lemma Encodes.le_due (h : Encodes D due acc q) : ∀ y ∈ q, acc ≤ due y := by
  induction q generalizing acc with
  | nil => simp
  | cons y q ih =>
    obtain ⟨hnonneg, hy, htail⟩ := h
    intro z hz
    rcases List.mem_cons.mp hz with rfl | hz
    · omega
    · have := ih htail z hz
      omega

/-- Moving the reference time. -/
lemma Encodes.sub (h : Encodes D due acc q) (c : ℤ) :
    Encodes D (fun y => due y - c) (acc - c) q := by
  induction q generalizing acc with
  | nil => trivial
  | cons y q ih =>
    obtain ⟨hnonneg, hy, htail⟩ := h
    refine ⟨hnonneg, ?_, ?_⟩
    · show acc - c + D.delta y = due y - c
      omega
    · rw [show acc - c + D.delta y = acc + D.delta y - c by omega]
      exact ih htail

lemma Encodes.congr {due' : α → ℤ} (h : Encodes D due acc q) (hdue : ∀ y ∈ q, due y = due' y) :
    Encodes D due' acc q := by
  induction q generalizing acc with
  | nil => trivial
  | cons y q ih =>
    obtain ⟨hnonneg, hy, htail⟩ := h
    refine ⟨hnonneg, hy.trans (hdue y (by simp)), ih htail fun z hz => hdue z (by simp [hz])⟩

/-- The leading entries without a delta are the ones that are due at the reference time. -/
lemma Encodes.takeWhile (h : Encodes D due acc q) :
    (∀ y ∈ q.takeWhile (fun y => D.delta y = 0), due y = acc) ∧
      (∀ y ∈ q.dropWhile (fun y => D.delta y = 0), acc < due y) ∧
      Encodes D due acc (q.dropWhile fun y => D.delta y = 0) := by
  induction q with
  | nil => exact ⟨by simp, by simp, trivial⟩
  | cons y q ih =>
    obtain ⟨hnonneg, hy, htail⟩ := h
    by_cases hzero : D.delta y = 0
    · rw [hzero, Int.add_zero] at hy htail
      obtain ⟨htake, hdrop, henc⟩ := ih htail
      rw [List.takeWhile_cons_of_pos (by simpa using hzero),
        List.dropWhile_cons_of_pos (by simpa using hzero)]
      refine ⟨fun z hz => ?_, hdrop, henc⟩
      rcases List.mem_cons.mp hz with rfl | hz
      · exact hy.symm
      · exact htake z hz
    · rw [List.takeWhile_cons_of_neg (by simpa using hzero),
        List.dropWhile_cons_of_neg (by simpa using hzero)]
      refine ⟨by simp, fun z hz => ?_, hnonneg, hy, htail⟩
      rcases List.mem_cons.mp hz with rfl | hz
      · omega
      · have := htail.le_due z hz
        omega

/-- Insertion keeps the invariant.  Reducing a delta does not change when an entry is to be due. -/
lemma Encodes.insert (h : Encodes D due acc q) (hdue : ∀ a d, due (D.reduce a d) = due a) {x : α}
    (hx : 0 ≤ D.delta x) (hxdue : acc + D.delta x = due x) : Encodes D due acc (insert D x q) := by
  induction q generalizing acc x with
  | nil => exact ⟨hx, hxdue, trivial⟩
  | cons y q ih =>
    obtain ⟨hnonneg, hy, htail⟩ := h
    rw [DeltaQueue.insert]
    split_ifs with hlt
    · refine ⟨hx, hxdue, ?_, ?_, ?_⟩
      · rw [D.delta_reduce]
        omega
      · rw [D.delta_reduce, hdue]
        omega
      · rw [D.delta_reduce, show acc + D.delta x + (D.delta y - D.delta x) = acc + D.delta y by omega]
        exact htail
    · refine ⟨hnonneg, hy, ih htail ?_ ?_⟩
      · rw [D.delta_reduce]
        omega
      · rw [D.delta_reduce, hdue]
        omega

/-- Insertion adds one entry: what does not depend on the delta is permuted. -/
lemma map_insert_perm {β : Type*} {f : α → β} (hf : ∀ a d, f (D.reduce a d) = f a) (x : α)
    (q : List α) : ((DeltaQueue.insert D x q).map f).Perm (f x :: q.map f) := by
  induction q generalizing x with
  | nil => exact List.Perm.refl _
  | cons y q ih =>
    rw [DeltaQueue.insert]
    split_ifs with hlt
    · rw [List.map_cons, List.map_cons, List.map_cons, hf]
    · rw [List.map_cons, List.map_cons]
      refine ((ih (D.reduce x (D.delta y))).cons (f y)).trans ?_
      rw [hf]
      exact List.Perm.swap _ _ _

end DeltaQueue
