import Mathlib.Data.List.Induction

/-!
# Runs of a machine

A machine is a partial function `next` that takes a state and an event to the next state; an event
that is not possible in a state has no next state.  `Run next s es s'` says that the events `es`, one
after the other, lead from `s` to `s'`.

`Run.invariant` turns facts about single steps into facts about runs, and `RunWith` is a run all of whose
steps also meet a condition.
-/

namespace Trace

variable {S E : Type*}

/-- The events lead from the first state to the last one. -/
inductive Run (next : S → E → Option S) (s : S) : List E → S → Prop
  | nil : Run next s [] s
  | snoc {es : List E} {s₁ s₂ : S} {e : E} :
      Run next s es s₁ → next s₁ e = some s₂ → Run next s (es ++ [e]) s₂

/-- A run in which every step meets the condition `ok` on the state before it and its event. -/
inductive RunWith (next : S → E → Option S) (ok : S → E → Prop) (s : S) : List E → S → Prop
  | nil : RunWith next ok s [] s
  | snoc {es : List E} {s₁ s₂ : S} {e : E} :
      RunWith next ok s es s₁ → ok s₁ e → next s₁ e = some s₂ → RunWith next ok s (es ++ [e]) s₂

variable {next : S → E → Option S} {ok : S → E → Prop} {s s' : S} {es : List E}

/-- A run is one with a condition that its events meet in every state. -/
lemma Run.runWith (h : Run next s es s') (hok : ∀ s₁, ∀ e ∈ es, ok s₁ e) : RunWith next ok s es s' := by
  induction h with
  | nil => exact RunWith.nil
  | snoc _ hstep ih =>
    refine (ih fun s₁ e he => hok s₁ e (List.mem_append_left _ he)).snoc (hok _ _ ?_) hstep
    exact List.mem_append_right _ (List.mem_singleton_self _)

/-- One run after another. -/
lemma Run.trans {s'' : S} {es' : List E} (h : Run next s es s') (h' : Run next s' es' s'') :
    Run next s (es ++ es') s'' := by
  induction h' with
  | nil => simpa using h
  | snoc _ hnext ih =>
    rw [← List.append_assoc]
    exact ih.snoc hnext

/-- What holds at the start and is kept by every step holds along every run. -/
lemma Run.invariant {I : S → Prop} (h : Run next s es s') (hs : I s)
    (hstep : ∀ s₁ e s₂, I s₁ → next s₁ e = some s₂ → I s₂) : I s' := by
  induction h with
  | nil => exact hs
  | snoc _ hnext ih => exact hstep _ _ _ ih hnext

/-- What is kept by every step that meets the condition holds along the runs of such steps. -/
lemma RunWith.invariant {I : S → Prop} (h : RunWith next ok s es s') (hs : I s)
    (hstep : ∀ s₁ e s₂, I s₁ → ok s₁ e → next s₁ e = some s₂ → I s₂) : I s' := by
  induction h with
  | nil => exact hs
  | snoc _ hok hnext ih => exact hstep _ _ _ ih hok hnext

/-- Running the events one by one. -/
def exec (next : S → E → Option S) (s : S) : List E → Option S
  | [] => some s
  | e :: es => (next s e).bind fun s₁ => exec next s₁ es

lemma exec_concat (es : List E) (e : E) (s : S) :
    exec next s (es ++ [e]) = (exec next s es).bind fun s₁ => next s₁ e := by
  induction es generalizing s with
  | nil => cases h : next s e <;> simp [exec, h]
  | cons e' es ih =>
    simp only [List.cons_append, exec]
    cases next s e' with
    | none => rfl
    | some s₁ => exact ih s₁

lemma run_iff_exec : Run next s es s' ↔ exec next s es = some s' := by
  constructor
  · intro h
    induction h with
    | nil => rfl
    | snoc _ hnext ih => rw [exec_concat, ih, Option.bind_some, hnext]
  · intro h
    induction es using List.reverseRecOn generalizing s' with
    | nil =>
      obtain rfl : s = s' := by simpa [exec] using h
      exact Run.nil
    | append_singleton es e ih =>
      rw [exec_concat, Option.bind_eq_some_iff] at h
      obtain ⟨s₁, hrun, hnext⟩ := h
      exact (ih hrun).snoc hnext

/-- The events determine where a run ends. -/
lemma Run.unique {s'' : S} (h : Run next s es s') (h' : Run next s es s'') : s' = s'' := by
  rw [run_iff_exec] at h h'
  exact Option.some.inj (h.symm.trans h')

lemma RunWith.run (h : RunWith next ok s es s') : Run next s es s' := by
  induction h with
  | nil => exact Run.nil
  | snoc _ _ hnext ih => exact ih.snoc hnext

/-- The last step of a run with a condition. -/
lemma RunWith.of_concat {e : E} (h : RunWith next ok s (es ++ [e]) s') :
    ∃ s₁, RunWith next ok s es s₁ ∧ ok s₁ e ∧ next s₁ e = some s' := by
  generalize hes : es ++ [e] = es' at h
  cases h with
  | nil => exact absurd hes (by simp)
  | snoc hrun hok hnext =>
    obtain ⟨rfl, rfl⟩ := List.append_inj' hes rfl |>.imp_right List.singleton_inj.mp
    exact ⟨_, hrun, hok, hnext⟩

/-- If a property that holds at the start is kept by exactly those steps that meet the condition, then it
holds after a run if and only if all its steps meet the condition.  An invariant may help. -/
lemma Run.iff_runWith {I J : S → Prop} (h : Run next s es s') (hs : I s) (hJ : J s)
    (hstep : ∀ s₁ e s₂, J s₁ → next s₁ e = some s₂ → J s₂ ∧ (I s₂ ↔ I s₁ ∧ ok s₁ e)) :
    I s' ↔ RunWith next ok s es s' := by
  have hboth : J s' ∧ (I s' ↔ RunWith next ok s es s') := by
    induction h with
    | nil => exact ⟨hJ, iff_of_true hs .nil⟩
    | snoc hrun hnext ih =>
      obtain ⟨hJ₁, hI₁⟩ := ih
      obtain ⟨hJ₂, hI₂⟩ := hstep _ _ _ hJ₁ hnext
      refine ⟨hJ₂, ?_⟩
      rw [hI₂, hI₁]
      constructor
      · exact fun ⟨hwith, hok⟩ => hwith.snoc hok hnext
      · intro hwith
        obtain ⟨s₁, hwith, hok, -⟩ := hwith.of_concat
        obtain rfl := hrun.unique hwith.run
        exact ⟨hwith, hok⟩
  exact hboth.2

/-- If an invariant is kept by the steps that meet the condition, and every other step breaks a property that
the invariant implies, then the property holds all along a run if and only if all steps meet the condition. -/
lemma Run.forall_prefix_iff_runWith {I J : S → Prop} (h : Run next s es s') (hs : J s) (hJI : ∀ s₁, J s₁ → I s₁)
    (hkeep : ∀ s₁ e s₂, J s₁ → ok s₁ e → next s₁ e = some s₂ → J s₂)
    (hbreak : ∀ s₁ e s₂, J s₁ → ¬ ok s₁ e → next s₁ e = some s₂ → ¬ I s₂) :
    (∀ es₁ s₁, es₁ <+: es → Run next s es₁ s₁ → I s₁) ↔ RunWith next ok s es s' := by
  induction h with
  | nil =>
    refine iff_of_true (fun es₁ s₁ hpre hrun => ?_) .nil
    obtain rfl := List.prefix_nil.mp hpre
    obtain rfl := hrun.unique .nil
    exact hJI _ hs
  | @snoc es s₁ s₂ e hrun hnext ih =>
    constructor
    · intro hall
      have hwith := ih.mp fun es₁ s₁ hpre => hall es₁ s₁ (hpre.trans (List.prefix_append _ _))
      refine hwith.snoc ?_ hnext
      by_contra hok
      exact hbreak s₁ e s₂ (hwith.invariant hs hkeep) hok hnext (hall _ _ List.prefix_rfl (hrun.snoc hnext))
    · intro hwith es₁ s₃ hpre hrun'
      obtain ⟨s₁', hwith', hok, hnext'⟩ := hwith.of_concat
      obtain rfl := hrun.unique hwith'.run
      rcases List.prefix_concat_iff.mp hpre with rfl | hpre
      · obtain rfl := hrun'.unique hwith.run
        exact hJI _ (hwith.invariant hs hkeep)
      · exact ih.mpr hwith' es₁ s₃ hpre hrun'

/-- If under an invariant a step has a property exactly if it meets the condition, then all steps of a run have the
property if and only if all meet the condition. -/
lemma Run.forall_steps_iff_runWith {J : S → Prop} {P : S → E → S → Prop} (h : Run next s es s') (hs : J s)
    (hstep : ∀ s₁ e s₂, J s₁ → next s₁ e = some s₂ → J s₂ ∧ (P s₁ e s₂ ↔ ok s₁ e)) :
    (∀ es₁ e s₁ s₂, es₁ ++ [e] <+: es → Run next s es₁ s₁ → next s₁ e = some s₂ → P s₁ e s₂) ↔
      RunWith next ok s es s' := by
  induction h with
  | nil =>
    refine iff_of_true (fun es₁ e s₁ s₂ hpre => ?_) .nil
    exact absurd (List.prefix_nil.mp hpre) (by simp)
  | @snoc es s₁ s₂ e hrun hnext ih =>
    have hJ : J s₁ := hrun.invariant hs fun _ _ _ hJ hnext => (hstep _ _ _ hJ hnext).1
    constructor
    · intro hall
      have hwith := ih.mp fun es₁ e s₁ s₂ hpre => hall es₁ e s₁ s₂ (hpre.trans (List.prefix_append _ _))
      exact hwith.snoc ((hstep _ _ _ hJ hnext).2.mp (hall es e s₁ s₂ List.prefix_rfl hrun hnext)) hnext
    · intro hwith es₁ e₁ s₃ s₄ hpre hrun' hnext'
      obtain ⟨s₁', hwith', hok, -⟩ := hwith.of_concat
      obtain rfl := hrun.unique hwith'.run
      rcases List.prefix_concat_iff.mp hpre with heq | hpre
      · obtain ⟨rfl, he⟩ := List.append_inj' heq rfl
        obtain rfl : e₁ = e := by simpa using he
        obtain rfl := hrun.unique hrun'
        exact (hstep _ _ _ hJ hnext').2.mpr hok
      · exact ih.mpr hwith' es₁ e₁ s₃ s₄ hpre hrun' hnext'

/-- Two conditions that agree as long as an invariant holds, which they keep. -/
lemma runWith_congr {I : S → Prop} {ok' : S → E → Prop} (hs : I s)
    (hstep : ∀ s₁ e s₂, I s₁ → next s₁ e = some s₂ → (ok s₁ e ↔ ok' s₁ e) ∧ (ok s₁ e → I s₂)) :
    RunWith next ok s es s' ↔ RunWith next ok' s es s' := by
  constructor
  · intro h
    have hboth : I s' ∧ RunWith next ok' s es s' := by
      induction h with
      | nil => exact ⟨hs, RunWith.nil⟩
      | snoc _ hok hnext ih =>
        obtain ⟨hiff, hkeep⟩ := hstep _ _ _ ih.1 hnext
        exact ⟨hkeep hok, ih.2.snoc (hiff.mp hok) hnext⟩
    exact hboth.2
  · intro h
    have hboth : I s' ∧ RunWith next ok s es s' := by
      induction h with
      | nil => exact ⟨hs, RunWith.nil⟩
      | snoc _ hok hnext ih =>
        obtain ⟨hiff, hkeep⟩ := hstep _ _ _ ih.1 hnext
        exact ⟨hkeep (hiff.mpr hok), ih.2.snoc (hiff.mpr hok) hnext⟩
    exact hboth.2

/-- Running the events one by one, as long as the condition holds. -/
def execWith (next : S → E → Option S) (ok : S → E → Prop) [∀ s e, Decidable (ok s e)] (s : S) :
    List E → Option S
  | [] => some s
  | e :: es => if ok s e then (next s e).bind fun s₁ => execWith next ok s₁ es else none

/-- One step before a run with a condition. -/
lemma RunWith.cons {e : E} {s₁ : S} (hok : ok s e) (hnext : next s e = some s₁)
    (h : RunWith next ok s₁ es s') : RunWith next ok s (e :: es) s' := by
  induction h with
  | nil => exact RunWith.snoc RunWith.nil hok hnext
  | snoc _ hok' hnext' ih => exact RunWith.snoc ih hok' hnext'

lemma runWith_of_execWith [∀ s e, Decidable (ok s e)] (h : execWith next ok s es = some s') :
    RunWith next ok s es s' := by
  induction es generalizing s with
  | nil =>
    obtain rfl : s = s' := by simpa [execWith] using h
    exact RunWith.nil
  | cons e es ih =>
    unfold execWith at h
    split at h
    · rename_i hok
      obtain ⟨s₁, hnext, hrest⟩ := Option.bind_eq_some_iff.mp h
      exact RunWith.cons hok hnext (ih hrest)
    · exact absurd h (by simp)

end Trace
