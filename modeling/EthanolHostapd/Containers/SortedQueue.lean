import Mathlib.Data.List.Sort

/-!
# Queues kept in order

A queue is kept in order by walking to the first element that must come after the new one and linking
the new one before it; this is `List.orderedInsert` with the relation that the walk tests.  The order
that the queue keeps may say more than the test, as in a queue where equals stay in the order in which
they came.
-/

namespace SortedQueue

variable {α : Type*} {R r : α → α → Prop} [DecidableRel r] {a : α} {l : List α}

/-- Insertion keeps the order `R`, if the test `r` decides on which side of an element the new one
belongs. -/
lemma pairwise_insert (hl : l.Pairwise R) (hbefore : ∀ b ∈ l, r a b → R a b)
    (hafter : ∀ b ∈ l, ¬ r a b → R b a) (htrans : ∀ b ∈ l, ∀ c ∈ l, r a b → R b c → r a c) :
    (l.orderedInsert r a).Pairwise R := by
  induction l with
  | nil => exact List.pairwise_singleton R a
  | cons b l ih =>
    obtain ⟨hb, hl⟩ := List.pairwise_cons.mp hl
    rw [List.orderedInsert_cons]
    split_ifs with hab
    · refine List.pairwise_cons.mpr ⟨fun c hc => ?_, List.pairwise_cons.mpr ⟨hb, hl⟩⟩
      refine hbefore c hc ?_
      rcases List.mem_cons.mp hc with rfl | hc
      · exact hab
      · exact htrans b (by simp) c (by simp [hc]) hab (hb c hc)
    · refine List.pairwise_cons.mpr ⟨fun c hc => ?_, ?_⟩
      · rcases (List.mem_orderedInsert r).mp hc with rfl | hc
        · exact hafter b (by simp) hab
        · exact hb c hc
      · refine ih hl (fun c hc => hbefore c (by simp [hc])) (fun c hc => hafter c (by simp [hc])) ?_
        exact fun c hc d hd => htrans c (by simp [hc]) d (by simp [hd])

/-- The first element after an insertion is the new one, if it belongs before all others, and the old
first one otherwise. -/
lemma head_insert (r : α → α → Prop) [DecidableRel r] (a b : α) (l : List α) :
    (List.orderedInsert r a (b :: l)).head? = some (if r a b then a else b) := by
  rw [List.orderedInsert_cons]
  split_ifs <;> rfl

end SortedQueue
