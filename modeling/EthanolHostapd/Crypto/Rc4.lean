import Mathlib.Data.List.Basic
import Mathlib.Logic.Function.Iterate

/-!
# The stream cipher

`rc4_skip` of `crypto/rc4.c`.  The stream does not depend on the data, so that the function undoes itself.
-/

namespace Ethanol

/-- `S`, `i` and `j`. -/
structure Rc4State where
  S : List UInt8
  i : ℕ
  j : ℕ

/-- `S_SWAP`. -/
def rc4Swap (S : List UInt8) (a b : ℕ) : List UInt8 :=
  (S.set a (S.getD b 0)).set b (S.getD a 0)

/-- The loop that sets up the state, with as many turns as are left. -/
def rc4Setup (key : List UInt8) : ℕ → ℕ → ℕ → List UInt8 → List UInt8
  | 0, _, _, S => S
  | turns + 1, i, j, S =>
    let j := (j + (S.getD i 0).toNat + (key.getD (i % key.length) 0).toNat) % 256
    rc4Setup key turns (i + 1) j (rc4Swap S i j)

/-- `i` and `j` move on. -/
def rc4Next (s : Rc4State) : Rc4State :=
  let i := (s.i + 1) % 256
  let j := (s.j + (s.S.getD i 0).toNat) % 256
  ⟨rc4Swap s.S i j, i, j⟩

/-- `S[(S[i] + S[j]) & 0xff]`. -/
def rc4Output (s : Rc4State) : UInt8 :=
  s.S.getD (((s.S.getD s.i 0).toNat + (s.S.getD s.j 0).toNat) % 256) 0

/-- The stream is applied to the data. -/
def rc4Apply : Rc4State → List UInt8 → List UInt8
  | _, [] => []
  | s, b :: bs => (b ^^^ rc4Output (rc4Next s)) :: rc4Apply (rc4Next s) bs

/-- `rc4_skip`. -/
def rc4Skip (key : List UInt8) (skip : ℕ) (data : List UInt8) : List UInt8 :=
  rc4Apply (rc4Next^[skip] ⟨rc4Setup key 256 0 0 ((List.range 256).map UInt8.ofNat), 0, 0⟩) data

lemma rc4Apply_rc4Apply (data : List UInt8) : ∀ s, rc4Apply s (rc4Apply s data) = data := by
  induction data with
  | nil =>
    intro s
    rfl
  | cons b bs ih =>
    intro s
    rw [rc4Apply, rc4Apply, ih, UInt8.xor_assoc, UInt8.xor_self, UInt8.xor_zero]

/-- The stream that is applied twice is gone. -/
lemma rc4Skip_rc4Skip (key : List UInt8) (skip : ℕ) (data : List UInt8) :
    rc4Skip key skip (rc4Skip key skip data) = data :=
  rc4Apply_rc4Apply data _

end Ethanol
