import Mathlib.Data.List.Induction

/-!
# Statements about the past of a trace

A trace is the list of the events so far, the latest one last.  `Since P Q` says that an event with
`P` has happened and that every event after it satisfies `Q`; `P` may also look at the events before.
-/

namespace Trace

variable {E : Type*}

/-- There was an event with `P`, and all later events have `Q`. -/
def Since (P : List E → E → Prop) (Q : E → Prop) (trace : List E) : Prop :=
  ∃ before e after, trace = before ++ e :: after ∧ P before e ∧ ∀ e' ∈ after, Q e'

variable {P : List E → E → Prop} {Q : E → Prop}

@[simp] lemma not_since_nil : ¬ Since P Q [] := by
  rintro ⟨before, e, after, h, -⟩
  simp at h

/-- The new event is the one with `P`, or it has `Q` and the statement held before. -/
lemma since_concat (trace : List E) (e : E) :
    Since P Q (trace ++ [e]) ↔ P trace e ∨ (Q e ∧ Since P Q trace) := by
  constructor
  · rintro ⟨before, e', after, h, hP, hQ⟩
    induction after using List.reverseRecOn with
    | nil =>
      obtain ⟨rfl, he⟩ := List.append_inj' h rfl
      obtain rfl : e = e' := by simpa using he
      exact Or.inl hP
    | append_singleton after e'' _ =>
      rw [← List.cons_append, ← List.append_assoc] at h
      obtain ⟨rfl, he⟩ := List.append_inj' h rfl
      obtain rfl : e = e'' := by simpa using he
      exact Or.inr ⟨hQ e (by simp), before, e', after, rfl, hP, fun x hx => hQ x (by simp [hx])⟩
  · rintro (hP | ⟨he, before, e', after, rfl, hP, hQ⟩)
    · exact ⟨trace, e, [], rfl, hP, by simp⟩
    · refine ⟨before, e', after ++ [e], by simp, hP, fun x hx => ?_⟩
      rcases List.mem_append.mp hx with hx | hx
      · exact hQ x hx
      · rw [List.mem_singleton] at hx
        exact hx ▸ he

end Trace
