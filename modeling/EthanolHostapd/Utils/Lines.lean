import EthanolHostapd.Utils.Common

/-!
# Files as lines

The lines of a text, and what a loop around `fgets` sees of them: each line as a whole if it fits into the
buffer, and more than one piece of a line that does not.
-/

namespace Ethanol

/-- The lines of a text, each with its newline; the last one may have none. -/
def lines : List UInt8 → List (List UInt8)
  | [] => []
  | c :: f =>
    if c = 10 then [c] :: lines f
    else
      match lines f with
      | [] => [[c]]
      | l :: ls => (c :: l) :: ls

/-- All that a loop around `fgets (buf, n + 1, f)` reads. -/
def pieces (n : ℕ) (f : List UInt8) : List (List UInt8) := fgetsLoop n f.length f

lemma lines_eq_nil_iff {f : List UInt8} : lines f = [] ↔ f = [] := by
  cases f with
  | nil => simp [lines]
  | cons c f =>
    rw [lines]
    split_ifs
    · simp
    · cases lines f with
      | nil => simp
      | cons l ls => simp

/-- A line is some text without a newline and then a newline, or the text alone at the end. -/
lemma mem_lines {f l : List UInt8} (h : l ∈ lines f) : ∃ c, 10 ∉ c ∧ (l = c ++ [10] ∨ l = c ∧ c ≠ []) := by
  induction f generalizing l with
  | nil => exact absurd h (List.not_mem_nil)
  | cons b f ih =>
    rw [lines] at h
    split_ifs at h with hb
    · rcases List.mem_cons.mp h with rfl | h
      · exact ⟨[], List.not_mem_nil, Or.inl (by rw [hb, List.nil_append])⟩
      · exact ih h
    · cases hlines : lines f with
      | nil =>
        rw [hlines] at h
        obtain rfl := List.mem_singleton.mp h
        exact ⟨[b], by simpa using Ne.symm hb, Or.inr ⟨rfl, List.cons_ne_nil _ _⟩⟩
      | cons l' ls =>
        rw [hlines] at h ih
        rcases List.mem_cons.mp h with rfl | h
        · obtain ⟨c, hc, hl'⟩ := ih List.mem_cons_self
          refine ⟨b :: c, fun hmem => ?_, ?_⟩
          · rcases List.mem_cons.mp hmem with hmem | hmem
            · exact hb hmem.symm
            · exact hc hmem
          · rcases hl' with rfl | ⟨rfl, -⟩
            · exact Or.inl rfl
            · exact Or.inr ⟨rfl, List.cons_ne_nil _ _⟩
        · exact ih (List.mem_cons_of_mem _ h)

lemma lines_append_newline {c : List UInt8} (hc : 10 ∉ c) (f : List UInt8) :
    lines (c ++ 10 :: f) = (c ++ [10]) :: lines f := by
  induction c with
  | nil => rfl
  | cons b c ih =>
    have hb : b ≠ 10 := fun h => hc (h ▸ List.mem_cons_self)
    rw [List.cons_append, lines, if_neg hb, ih fun hmem => hc (List.mem_cons_of_mem b hmem)]
    rfl

/-- The lines of a text that was written line by line. -/
lemma lines_flatMap {ls : List (List UInt8)} (h : ∀ l ∈ ls, 10 ∉ l) :
    lines (ls.flatMap fun l => l ++ [10]) = ls.map fun l => l ++ [10] := by
  induction ls with
  | nil => rfl
  | cons l ls ih =>
    rw [List.forall_mem_cons] at h
    rw [List.flatMap_cons, List.append_assoc, List.singleton_append, lines_append_newline h.1, ih h.2, List.map_cons]

/-- One call returns the first line or, if that is longer than the buffer, a part of it. -/
lemma fgets_cases {n : ℕ} {f : List UInt8} (hn : n ≠ 0) (hf : f ≠ []) :
    (lines f = (fgets n f).1 :: lines (fgets n f).2 ∧ (fgets n f).1.length ≤ n) ∨
      ∃ l ls, lines (fgets n f).2 = l :: ls ∧ l ≠ [] ∧ lines f = ((fgets n f).1 ++ l) :: ls ∧
        (fgets n f).1.length = n := by
  induction n generalizing f with
  | zero => exact absurd rfl hn
  | succ n ih =>
    obtain ⟨c, f, rfl⟩ := List.exists_cons_of_ne_nil hf
    rw [fgets, lines]
    by_cases hc : c = 10
    · rw [if_pos hc, if_pos hc]
      exact Or.inl ⟨rfl, by simp⟩
    · rw [if_neg hc, if_neg hc]
      dsimp only
      rcases f with _ | ⟨c', f⟩
      · have hnil : fgets n [] = ([], []) := by cases n <;> rfl
        rw [hnil]
        exact Or.inl ⟨rfl, by simp⟩
      · rcases Nat.eq_zero_or_pos n with rfl | hpos
        · right
          cases hlines : lines (c' :: f) with
          | nil => exact absurd (lines_eq_nil_iff.mp hlines) (by simp)
          | cons l ls =>
            refine ⟨l, ls, hlines, ?_, rfl, rfl⟩
            rintro rfl
            rw [lines] at hlines
            split_ifs at hlines
            · simp at hlines
            · cases h : lines f with
              | nil => simp [h] at hlines
              | cons l ls => simp [h] at hlines
        · rcases ih hpos.ne' (List.cons_ne_nil c' f) with ⟨hlines, hlen⟩ | ⟨l, ls, hrest, hl, hlines, hlen⟩
          · rw [hlines]
            exact Or.inl ⟨rfl, by simpa using hlen⟩
          · rw [hlines]
            exact Or.inr ⟨l, ls, hrest, hl, rfl, by simp [hlen]⟩

/-- A call takes something off the file. -/
lemma length_fgets_lt {n : ℕ} {f : List UInt8} (hn : n ≠ 0) (hf : f ≠ []) : (fgets n f).2.length < f.length := by
  have hle : ∀ (n : ℕ) (f : List UInt8), (fgets n f).2.length ≤ f.length := by
    intro n f
    fun_induction fgets n f with
    | case1 => exact le_rfl
    | case2 => exact le_rfl
    | case3 => simp
    | case4 n c f hc buf rest hrest ih =>
      rw [hrest] at ih
      dsimp only at ih ⊢
      rw [List.length_cons]
      omega
  obtain ⟨n, rfl⟩ := Nat.exists_eq_succ_of_ne_zero hn
  obtain ⟨c, f, rfl⟩ := List.exists_cons_of_ne_nil hf
  rw [fgets]
  split_ifs
  · simp
  · have := hle n f
    simp only [List.length_cons]
    omega

lemma fgetsLoop_succ {f : List UInt8} (n fuel : ℕ) (hf : f ≠ []) :
    fgetsLoop n (fuel + 1) f = (fgets n f).1 :: fgetsLoop n fuel (fgets n f).2 := by
  obtain ⟨c, f, rfl⟩ := List.exists_cons_of_ne_nil hf
  rfl

/-- The loop does not need more rounds than there are bytes. -/
lemma fgetsLoop_congr {n fuel fuel' : ℕ} {f : List UInt8} (hn : n ≠ 0) (h : f.length ≤ fuel)
    (h' : f.length ≤ fuel') : fgetsLoop n fuel f = fgetsLoop n fuel' f := by
  induction fuel generalizing f fuel' with
  | zero =>
    obtain rfl := List.eq_nil_of_length_eq_zero (Nat.le_zero.mp h)
    cases fuel' <;> rfl
  | succ fuel ih =>
    by_cases hf : f = []
    · subst hf
      cases fuel' <;> rfl
    · have hlt := length_fgets_lt hn hf
      obtain ⟨fuel', rfl⟩ := Nat.exists_eq_succ_of_ne_zero (n := fuel') (by omega)
      have hrest : fgetsLoop n fuel (fgets n f).2 = fgetsLoop n fuel' (fgets n f).2 := ih (by omega) (by omega)
      rw [fgetsLoop_succ _ _ hf, fgetsLoop_succ _ _ hf, hrest]

lemma pieces_nil (n : ℕ) : pieces n [] = [] := rfl

lemma pieces_cons {n : ℕ} {f : List UInt8} (hn : n ≠ 0) (hf : f ≠ []) :
    pieces n f = (fgets n f).1 :: pieces n (fgets n f).2 := by
  have hlt := length_fgets_lt hn hf
  rw [pieces, fgetsLoop_congr hn le_rfl (Nat.le_succ _), fgetsLoop_succ _ _ hf,
    fgetsLoop_congr hn (by omega) le_rfl, pieces]

/-- There are at least as many pieces as lines, and as many only if every line fits into the buffer; then
the pieces are the lines. -/
lemma pieces_lines {n : ℕ} (hn : n ≠ 0) (f : List UInt8) :
    ((∀ l ∈ lines f, l.length ≤ n) ∧ pieces n f = lines f) ∨
      ((∃ l ∈ lines f, n < l.length) ∧ (lines f).length < (pieces n f).length) := by
  induction hlength : f.length using Nat.strong_induction_on generalizing f with
  | _ k ih =>
    by_cases hf : f = []
    · subst hf
      exact Or.inl ⟨by simp [lines], rfl⟩
    · have hlt := length_fgets_lt hn hf
      have hrest := ih _ (by omega) (fgets n f).2 rfl
      rw [pieces_cons hn hf]
      rcases fgets_cases hn hf with ⟨hlines, hlen⟩ | ⟨l, ls, hnext, hl, hlines, hlen⟩
      · rw [hlines, List.forall_mem_cons]
        rcases hrest with ⟨hshort, heq⟩ | ⟨⟨l, hmem, hlong⟩, hmore⟩
        · exact Or.inl ⟨⟨hlen, hshort⟩, by rw [heq]⟩
        · exact Or.inr ⟨⟨l, List.mem_cons_of_mem _ hmem, hlong⟩, by simpa using hmore⟩
      · right
        rw [hnext] at hrest
        refine ⟨⟨(fgets n f).1 ++ l, by rw [hlines]; exact List.mem_cons_self, ?_⟩, ?_⟩
        · rw [List.length_append, hlen]
          exact Nat.lt_add_of_pos_right (List.length_pos_iff.mpr hl)
        · rw [hlines, List.length_cons, List.length_cons]
          rcases hrest with ⟨-, heq⟩ | ⟨-, hmore⟩
          · rw [heq, List.length_cons]
            exact Nat.lt_succ_self _
          · rw [List.length_cons] at hmore
            omega

end Ethanol
