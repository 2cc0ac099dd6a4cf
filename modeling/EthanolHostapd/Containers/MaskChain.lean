import Mathlib.Data.List.Basic

/-!
# Chained masks

A list of blocks is enciphered by masking each block with a pad.  The first pad is given, and every other one is computed
from the enciphered block before it, so that who deciphers has the same pads.
-/

namespace MaskChain

variable {α β : Type*} (mask : α → β → α) (pad : α → β)

/-- The blocks, masked one after the other. -/
def encipher : β → List α → List α
  | _, [] => []
  | k, a :: as => mask a k :: encipher (pad (mask a k)) as

/-- The pads are taken from the blocks as they are received. -/
def decipher : β → List α → List α
  | _, [] => []
  | k, c :: cs => mask c k :: decipher (pad c) cs

variable {mask pad}

@[simp] lemma length_encipher (k : β) (as : List α) : (encipher mask pad k as).length = as.length := by
  induction as generalizing k with
  | nil => rfl
  | cons a as ih => rw [encipher, List.length_cons, List.length_cons, ih]

/-- Deciphering undoes enciphering if masking a block twice with the same pad does. -/
lemma decipher_encipher {as : List α} (h : ∀ a ∈ as, ∀ k, mask (mask a k) k = a) (k : β) :
    decipher mask pad k (encipher mask pad k as) = as := by
  induction as generalizing k with
  | nil => rfl
  | cons a as ih =>
    rw [encipher, decipher, h a List.mem_cons_self, ih fun b hb => h b (List.mem_cons_of_mem _ hb)]

/-- What masking a block preserves holds of the enciphered blocks. -/
lemma forall_mem_encipher {P : α → Prop} (hmask : ∀ a k, P a → P (mask a k)) {as : List α} (h : ∀ a ∈ as, P a) (k : β) :
    ∀ c ∈ encipher mask pad k as, P c := by
  induction as generalizing k with
  | nil => simp [encipher]
  | cons a as ih =>
    rw [encipher, List.forall_mem_cons]
    exact ⟨hmask a k (h a List.mem_cons_self), ih (fun b hb => h b (List.mem_cons_of_mem _ hb)) _⟩

/-- A list whose length is a multiple of `w` is made of blocks of this length. -/
lemma exists_blocks {γ : Type*} (w n : ℕ) {l : List γ} (h : l.length = w * n) :
    ∃ bs : List (List γ), bs.length = n ∧ (∀ b ∈ bs, b.length = w) ∧ bs.flatten = l := by
  induction n generalizing l with
  | zero => exact ⟨[], rfl, by simp, (List.length_eq_zero_iff.mp h).symm⟩
  | succ n ih =>
    rw [Nat.mul_succ] at h
    obtain ⟨bs, hlength, hbs, hflatten⟩ := ih (l := l.drop w) (by rw [List.length_drop]; omega)
    refine ⟨l.take w :: bs, by rw [List.length_cons, hlength], ?_, ?_⟩
    · rw [List.forall_mem_cons, List.length_take]
      exact ⟨by omega, hbs⟩
    · rw [List.flatten_cons, hflatten, List.take_append_drop]

end MaskChain
