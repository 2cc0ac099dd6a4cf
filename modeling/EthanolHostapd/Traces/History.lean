import Mathlib.Data.List.Infix

/-!
# Histories

A history is the list of what a machine has done, the latest first.  `Warranted allowed h` says that each entry of it was
allowed by the entries before it.
-/

namespace Trace

variable {A : Type*} {allowed : A → List A → Prop} {act : A} {h : List A}

/-- Each entry is allowed by those before it. -/
def Warranted (allowed : A → List A → Prop) (h : List A) : Prop :=
  ∀ act before, act :: before <:+ h → allowed act before

@[simp] lemma warranted_nil : Warranted allowed [] := by
  intro act before hsuffix
  simp at hsuffix

/-- A new entry. -/
@[simp] lemma warranted_cons : Warranted allowed (act :: h) ↔ allowed act h ∧ Warranted allowed h := by
  constructor
  · intro hall
    refine ⟨hall _ _ List.suffix_rfl, ?_⟩
    intro act' before hsuffix
    exact hall _ _ (hsuffix.trans (List.suffix_cons _ _))
  · rintro ⟨hact, hall⟩ act' before hsuffix
    rcases List.suffix_cons_iff.mp hsuffix with heq | hsuffix
    · obtain ⟨rfl, rfl⟩ := List.cons.inj heq
      exact hact
    · exact hall _ _ hsuffix

/-- Several new entries that keep a property of the history, under which each of them is allowed. -/
lemma Warranted.append (hall : Warranted allowed h) (acts : List A) (keep : List A → Prop) (hkeep : keep h)
    (hacts : ∀ act ∈ acts, ∀ before, keep before → allowed act before ∧ keep (act :: before)) :
    Warranted allowed (acts ++ h) ∧ keep (acts ++ h) := by
  induction acts with
  | nil => exact ⟨hall, hkeep⟩
  | cons act acts ih =>
    obtain ⟨hall', hkeep'⟩ := ih fun act hact => hacts act (List.mem_cons_of_mem _ hact)
    obtain ⟨hact, hnext⟩ := hacts act List.mem_cons_self _ hkeep'
    exact ⟨warranted_cons.mpr ⟨hact, hall'⟩, hnext⟩

end Trace
