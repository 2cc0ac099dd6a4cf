import Mathlib.Data.List.Basic

/-!
# Iterators that are continued with their last result

A function that is given its last result, or nothing at first, and that has a further result or none.  It may change a
state.
-/

namespace Iterator

variable {σ P : Type*} (next : σ → Option P → σ × Option P)

/-- The state and the last result after `n` calls. -/
def calls (s : σ) : ℕ → σ × Option P
  | 0 => (s, none)
  | n + 1 => next (calls s n).1 (calls s n).2

/-- The results are the members of `l`, then there is none. -/
def Enumerates (s : σ) (l : List P) : Prop := ∀ n ≤ l.length, (calls next s (n + 1)).2 = l[n]?

/-- A loop over the results, up to one that passes a check, for at most `fuel` calls. -/
def search (check : σ → P → Bool) : ℕ → σ → Option P → Option (σ × Option P)
  | 0, _, _ => none
  | fuel + 1, s, prev =>
    match next s prev with
    | (s, none) => some (s, none)
    | (s, some p) => if check s p then some (s, some p) else search check fuel s (some p)

variable {next} {s : σ} {l : List P} {check : σ → P → Bool} {good : P → Bool}

/-- The loop from where `n` calls have led. -/
lemma search_calls (henum : Enumerates next s l)
    (hcheck : ∀ n p, l[n]? = some p → check (calls next s (n + 1)).1 p = good p) {n fuel : ℕ} (hn : n ≤ l.length)
    (hfuel : l.length < n + fuel) :
    ∃ s', search next check fuel (calls next s n).1 (calls next s n).2 = some (s', (l.drop n).find? good) := by
  induction fuel generalizing n with
  | zero => omega
  | succ fuel ih =>
    have hnext := henum n hn
    rw [calls] at hnext
    obtain ⟨s', r, hs'⟩ : ∃ s' r, next (calls next s n).1 (calls next s n).2 = (s', r) := ⟨_, _, rfl⟩
    rw [hs'] at hnext
    obtain rfl : r = l[n]? := hnext
    rw [search, hs']
    cases hp : l[n]? with
    | none =>
      rw [List.drop_eq_nil_of_le (List.getElem?_eq_none_iff.mp hp)]
      exact ⟨s', rfl⟩
    | some p =>
      obtain ⟨hlt, hget⟩ := List.getElem?_eq_some_iff.mp hp
      have hstate : calls next s (n + 1) = (s', some p) := by rw [calls, hs', hp]
      have hgood := hcheck n p hp
      rw [hstate] at hgood
      rw [List.drop_eq_getElem_cons hlt, hget, List.find?_cons]
      dsimp only at hgood ⊢
      rw [hgood]
      cases good p with
      | true => exact ⟨s', rfl⟩
      | false =>
        obtain ⟨s'', hs''⟩ := ih (n := n + 1) hlt (by omega)
        rw [hstate] at hs''
        exact ⟨s'', hs''⟩

/-- With enough fuel the loop ends at the first result that is good. -/
lemma search_eq_find (henum : Enumerates next s l)
    (hcheck : ∀ n p, l[n]? = some p → check (calls next s (n + 1)).1 p = good p) {fuel : ℕ} (hfuel : l.length < fuel) :
    ∃ s', search next check fuel s none = some (s', l.find? good) :=
  search_calls henum hcheck (Nat.zero_le _) (by omega)

end Iterator
