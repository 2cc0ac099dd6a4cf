import EthanolHostapd.Traces.Run

/-!
# Runs of a known number of steps

Some machines work through an amount of work whatever the events are: there is a position, every step moves
it on, and the step that comes to the end is the last one.  How many steps that are depends on the position
only.
-/

namespace Trace

variable {S E : Type*} {next : S → E → Option S}

/-- A run that begins with a step. -/
lemma run_cons_iff {s s' : S} {e : E} {es : List E} :
    Run next s (e :: es) s' ↔ ∃ s₁, next s e = some s₁ ∧ Run next s₁ es s' := by
  rw [run_iff_exec, exec, Option.bind_eq_some_iff]
  simp only [run_iff_exec]

lemma run_nil_iff {s s' : S} : Run next s [] s' ↔ s = s' := by
  rw [run_iff_exec, exec, Option.some_inj]

/-- What is said of a machine that is done after exactly `n` steps, for all events. -/
structure Completes (next : S → E → Option S) (pending done : S → Prop) (s : S) (n : ℕ) : Prop where
  runs : ∀ es : List E, es.length ≤ n → ∃ s', Run next s es s'
  pending : ∀ es s', Run next s es s' → es.length < n → pending s'
  done : ∀ es s', Run next s es s' → es.length = n → done s'
  stops : ∀ es s', Run next s es s' → es.length ≤ n

/-- Less may be said of the states before the end. -/
lemma Completes.imp {pending pending' done : S → Prop} {s : S} {n : ℕ} (h : Completes next pending done s n)
    (himp : ∀ s, pending s → pending' s) : Completes next pending' done s n :=
  ⟨h.runs, fun es s' hrun hlt => himp s' (h.pending es s' hrun hlt), h.done, h.stops⟩

/-- From each position on the machine is done after some number of steps.  By induction on what is left. -/
theorem exists_completes (next : S → E → Option S) (At : ℕ → S → Prop) (done : S → Prop) (total : ℕ) (size : ℕ → ℕ)
    (hsize : ∀ pos, pos < total → 0 < size pos)
    (hstep : ∀ pos s, pos < total → At pos s → ∀ e, ∃ s', next s e = some s' ∧
      (pos + size pos < total → At (pos + size pos) s') ∧ (total ≤ pos + size pos → done s'))
    (hdone : ∀ s e, done s → next s e = none) :
    ∀ left pos, left = total - pos → pos < total →
      ∃ n, 0 < n ∧ ∀ s, At pos s → Completes next (fun s => ∃ pos, pos < total ∧ At pos s) done s n := by
  intro left
  induction left using Nat.strongRecOn with
  | ind left ih =>
    intro pos hleft hpos
    have hgrow := hsize pos hpos
    by_cases hlast : total ≤ pos + size pos
    · -- the step from here is the last one
      refine ⟨1, by omega, fun s hs => ⟨?_, ?_, ?_, ?_⟩⟩
      · intro es hes
        cases es with
        | nil => exact ⟨s, Run.nil⟩
        | cons e es =>
          obtain rfl : es = [] := List.eq_nil_of_length_eq_zero (by simpa using hes)
          obtain ⟨s', hnext, -⟩ := hstep pos s hpos hs e
          exact ⟨s', run_cons_iff.mpr ⟨s', hnext, Run.nil⟩⟩
      · intro es s' hrun hlt
        obtain rfl : es = [] := List.eq_nil_of_length_eq_zero (by omega)
        obtain rfl := run_nil_iff.mp hrun
        exact ⟨pos, hpos, hs⟩
      · intro es s' hrun hlength
        obtain ⟨e, rfl⟩ := List.length_eq_one_iff.mp hlength
        obtain ⟨s₁, hnext, hrest⟩ := run_cons_iff.mp hrun
        obtain ⟨s₂, hnext₂, -, hend⟩ := hstep pos s hpos hs e
        obtain rfl := Option.some.inj (hnext.symm.trans hnext₂)
        obtain rfl := run_nil_iff.mp hrest
        exact hend hlast
      · intro es s' hrun
        by_contra hlong
        cases es with
        | nil => simp at hlong
        | cons e es =>
          obtain ⟨s₁, hnext, hrest⟩ := run_cons_iff.mp hrun
          obtain ⟨s₂, hnext₂, -, hend⟩ := hstep pos s hpos hs e
          obtain rfl := Option.some.inj (hnext.symm.trans hnext₂)
          cases es with
          | nil => simp at hlong
          | cons e' es =>
            obtain ⟨s₃, hnext₃, -⟩ := run_cons_iff.mp hrest
            rw [hdone _ _ (hend hlast)] at hnext₃
            cases hnext₃
    · obtain ⟨n, -, hn⟩ := ih (total - (pos + size pos)) (by omega) (pos + size pos) rfl (by omega)
      refine ⟨n + 1, by omega, fun s hs => ⟨?_, ?_, ?_, ?_⟩⟩
      · intro es hes
        cases es with
        | nil => exact ⟨s, Run.nil⟩
        | cons e es =>
          obtain ⟨s₁, hnext, hmore, -⟩ := hstep pos s hpos hs e
          obtain ⟨s', hrest⟩ := (hn s₁ (hmore (by omega))).runs es (by simpa using hes)
          exact ⟨s', run_cons_iff.mpr ⟨s₁, hnext, hrest⟩⟩
      · intro es s' hrun hlt
        cases es with
        | nil =>
          obtain rfl := run_nil_iff.mp hrun
          exact ⟨pos, hpos, hs⟩
        | cons e es =>
          obtain ⟨s₁, hnext, hrest⟩ := run_cons_iff.mp hrun
          obtain ⟨s₂, hnext₂, hmore, -⟩ := hstep pos s hpos hs e
          obtain rfl := Option.some.inj (hnext.symm.trans hnext₂)
          exact (hn s₁ (hmore (by omega))).pending es s' hrest (by simpa using hlt)
      · intro es s' hrun hlength
        cases es with
        | nil => simp at hlength
        | cons e es =>
          obtain ⟨s₁, hnext, hrest⟩ := run_cons_iff.mp hrun
          obtain ⟨s₂, hnext₂, hmore, -⟩ := hstep pos s hpos hs e
          obtain rfl := Option.some.inj (hnext.symm.trans hnext₂)
          exact (hn s₁ (hmore (by omega))).done es s' hrest (by simpa using hlength)
      · intro es s' hrun
        cases es with
        | nil => simp
        | cons e es =>
          obtain ⟨s₁, hnext, hrest⟩ := run_cons_iff.mp hrun
          obtain ⟨s₂, hnext₂, hmore, -⟩ := hstep pos s hpos hs e
          obtain rfl := Option.some.inj (hnext.symm.trans hnext₂)
          have hle := (hn s₁ (hmore (by omega))).stops es s' hrest
          simpa using hle

end Trace
