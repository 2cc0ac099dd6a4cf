import Mathlib.Data.List.Basic

/-!
# Reading from fragments

A text lies in several buffers, one behind the other.  A cursor stands in one of them and moves on to the next one when it
has read the last item of its own.  It does not look whether the next one is empty.
-/

namespace Fragments

variable {α σ : Type*}

/-- What is left of the buffer the cursor stands in, and the buffers behind it. -/
structure Cursor (α : Type*) where
  current : List α
  later : List (List α)

namespace Cursor

/-- All that is left. -/
def items (c : Cursor α) : List α := c.current ++ c.later.flatten

end Cursor

/-- An empty buffer has nothing but empty buffers behind it. -/
def Gapless : List (List α) → Prop
  | [] => True
  | [] :: later => later.flatten = []
  | (_ :: _) :: later => Gapless later

/-- Reads `todo` items and hands each of them to `f`, with its number.  After the last item of a buffer the cursor moves
on, unless `last` is set and no item is to be read any more.  `none`: an item is read behind the end of a buffer. -/
def readFold (f : ℕ → σ → α → σ) (last : Bool) : ℕ → ℕ → σ → Cursor α → Option (σ × Cursor α)
  | 0, _, s, c => some (s, c)
  | todo + 1, i, s, c =>
    match c.current with
    | [] => none
    | b :: rest =>
      if rest.isEmpty ∧ ¬(last = true ∧ todo = 0) then
        match c.later with
        | [] => none
        | x :: xs => readFold f last todo (i + 1) (f i s b) ⟨x, xs⟩
      else readFold f last todo (i + 1) (f i s b) ⟨rest, c.later⟩

/-- `f` for the items of a list, which have the numbers from `i` on. -/
def foldFrom (f : ℕ → σ → α → σ) : ℕ → σ → List α → σ
  | _, s, [] => s
  | i, s, b :: bs => foldFrom f (i + 1) (f i s b) bs

variable {f : ℕ → σ → α → σ}

lemma foldFrom_append (i : ℕ) (s : σ) (bs cs : List α) :
    foldFrom f i s (bs ++ cs) = foldFrom f (i + bs.length) (foldFrom f i s bs) cs := by
  induction bs generalizing i s with
  | nil => rfl
  | cons b bs ih =>
    have hnumber : i + (b :: bs).length = i + 1 + bs.length := by
      rw [List.length_cons]
      omega
    rw [List.cons_append, foldFrom, ih, foldFrom, hnumber]

lemma gapless_of_flatten_eq_nil {bufs : List (List α)} (hempty : bufs.flatten = []) : Gapless bufs := by
  induction bufs with
  | nil => trivial
  | cons x xs ih =>
    rw [List.flatten_cons, List.append_eq_nil_iff] at hempty
    obtain ⟨rfl, hxs⟩ := hempty
    exact hxs

lemma gapless_cons_of_ne_nil {x : List α} (hx : x ≠ []) (xs : List (List α)) : Gapless (x :: xs) ↔ Gapless xs := by
  cases x with
  | nil => exact absurd rfl hx
  | cons b x => rfl

/-- The cursor that reads an item: it was not at an end, and it has moved on or not. -/
lemma readFold_succ_eq_some_iff {last : Bool} {todo i : ℕ} {s : σ} {c : Cursor α} {r : σ × Cursor α} :
    readFold f last (todo + 1) i s c = some r ↔
      ∃ b rest, c.current = b :: rest ∧
        ((rest = [] ∧ ¬(last = true ∧ todo = 0) ∧ ∃ x xs, c.later = x :: xs ∧
            readFold f last todo (i + 1) (f i s b) ⟨x, xs⟩ = some r) ∨
          (¬(rest = [] ∧ ¬(last = true ∧ todo = 0)) ∧
            readFold f last todo (i + 1) (f i s b) ⟨rest, c.later⟩ = some r)) := by
  obtain ⟨current, later⟩ := c
  rcases current with _ | ⟨b, rest⟩
  · simp [readFold]
  · by_cases hmove : rest = [] ∧ ¬(last = true ∧ todo = 0)
    · have hempty : rest.isEmpty ∧ ¬(last = true ∧ todo = 0) := ⟨by rw [hmove.1]; rfl, hmove.2⟩
      rcases later with _ | ⟨x, xs⟩
      · simp [readFold, hempty, hmove]
      · simp [readFold, hempty, hmove]
    · have hempty : ¬(rest.isEmpty ∧ ¬(last = true ∧ todo = 0)) := by
        rintro ⟨hrest, hnot⟩
        exact hmove ⟨List.isEmpty_iff.1 hrest, hnot⟩
      rw [readFold]
      simp only [if_neg hempty]
      constructor
      · intro hread
        exact ⟨b, rest, rfl, Or.inr ⟨hmove, hread⟩⟩
      · rintro ⟨b', rest', heq, hcases⟩
        obtain ⟨rfl, rfl⟩ := List.cons.inj heq
        rcases hcases with ⟨hrest, hnot, _⟩ | ⟨_, hread⟩
        · exact absurd ⟨hrest, hnot⟩ hmove
        · exact hread

/-- Without a gap everything can be read. -/
lemma exists_readFold_of_gapless {last : Bool} :
    ∀ {todo i : ℕ} {s : σ} {c : Cursor α}, Gapless (c.current :: c.later) → todo ≤ c.items.length →
      (last = true ↔ todo = c.items.length) → ∃ r, readFold f last todo i s c = some r := by
  intro todo
  induction todo with
  | zero =>
    intro i s c _ _ _
    exact ⟨(s, c), rfl⟩
  | succ todo ih =>
    rintro i s ⟨current, later⟩ hgapless hle hlast
    rcases current with _ | ⟨b, rest⟩
    · have hempty : later.flatten = [] := hgapless
      simp [Cursor.items, hempty] at hle
    · have hlater : Gapless later := hgapless
      simp only [Cursor.items, List.cons_append, List.length_cons] at hle hlast
      by_cases hmove : rest = [] ∧ ¬(last = true ∧ todo = 0)
      · obtain ⟨rfl, hnot⟩ := hmove
        rcases later with _ | ⟨x, xs⟩
        · have htodo : todo = 0 := by simpa using hle
          exact absurd ⟨hlast.2 (by simp [htodo]), htodo⟩ hnot
        · have hitems : (⟨x, xs⟩ : Cursor α).items.length = ([] ++ (x :: xs).flatten).length := rfl
          obtain ⟨r, hread⟩ := ih (i := i + 1) (s := f i s b) (c := ⟨x, xs⟩) hlater (by omega) (by rw [hlast]; omega)
          refine ⟨r, readFold_succ_eq_some_iff.2 ⟨b, [], rfl, Or.inl ⟨rfl, hnot, x, xs, rfl, hread⟩⟩⟩
      · have hgap : Gapless (rest :: later) := by
          rcases rest with _ | ⟨b', rest⟩
          · by_cases hend : last = true ∧ todo = 0
            · have hlength := hlast.1 hend.1
              have hzero : later.flatten.length = 0 := by
                simp only [List.nil_append] at hlength
                omega
              exact List.length_eq_zero_iff.1 hzero
            · exact absurd ⟨rfl, hend⟩ hmove
          · exact hlater
        have hitems : (⟨rest, later⟩ : Cursor α).items.length = (rest ++ later.flatten).length := rfl
        obtain ⟨r, hread⟩ := ih (i := i + 1) (s := f i s b) (c := ⟨rest, later⟩) hgap (by omega) (by rw [hlast]; omega)
        exact ⟨r, readFold_succ_eq_some_iff.2 ⟨b, rest, rfl, Or.inr ⟨hmove, hread⟩⟩⟩

/-- What is read is the text, the rest of it is left, and a gap is neither passed nor made. -/
lemma readFold_eq_some {last : Bool} :
    ∀ {todo i : ℕ} {s s' : σ} {c c' : Cursor α}, (last = true → todo = c.items.length) →
      readFold f last todo i s c = some (s', c') →
      s' = foldFrom f i s (c.items.take todo) ∧ c'.items = c.items.drop todo ∧
        (Gapless (c'.current :: c'.later) ↔ Gapless (c.current :: c.later)) := by
  intro todo
  induction todo with
  | zero =>
    intro i s s' c c' _ hread
    simp only [readFold, Option.some.injEq, Prod.mk.injEq] at hread
    obtain ⟨rfl, rfl⟩ := hread
    exact ⟨rfl, rfl, Iff.rfl⟩
  | succ todo ih =>
    rintro i s s' ⟨current, later⟩ c' hlast hread
    obtain ⟨b, rest, rfl, ⟨rfl, _, x, xs, rfl, hrest⟩ | ⟨hmove, hrest⟩⟩ := readFold_succ_eq_some_iff.1 hread
    · have hlast' : last = true → todo = (⟨x, xs⟩ : Cursor α).items.length := by
        intro htrue
        have hlength := hlast htrue
        simp only [Cursor.items, List.cons_append, List.nil_append, List.length_cons, List.flatten_cons] at hlength ⊢
        omega
      exact ih hlast' hrest
    · have hlast' : last = true → todo = (⟨rest, later⟩ : Cursor α).items.length := by
        intro htrue
        have hlength := hlast htrue
        simp only [Cursor.items, List.cons_append, List.length_cons] at hlength ⊢
        omega
      obtain ⟨hfold, hitems, hgap⟩ := ih hlast' hrest
      refine ⟨hfold, hitems, hgap.trans ?_⟩
      rcases rest with _ | ⟨b', rest⟩
      · -- the cursor stays at the end of a buffer only if nothing is left
        have hend : last = true ∧ todo = 0 := by
          by_contra hnot
          exact hmove ⟨rfl, hnot⟩
        have hempty : later.flatten = [] := by
          have hlength := hlast' hend.1
          rw [hend.2] at hlength
          exact List.length_eq_zero_iff.1 hlength.symm
        constructor
        · intro _
          have hlater : Gapless later := gapless_of_flatten_eq_nil hempty
          exact hlater
        · intro _
          exact hempty
      · exact Iff.rfl

end Fragments
