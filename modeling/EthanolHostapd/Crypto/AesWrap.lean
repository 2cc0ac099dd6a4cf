import Mathlib.Tactic.FinCases
import EthanolHostapd.Containers.Sweep
import EthanolHostapd.Crypto.AesInternal

/-!
# The key wrap

`crypto/aes-wrap.c` and `aes-unwrap.c`: six sweeps over the 64-bit units of the key, with a register that ends up in front
of them.  Unwrapping goes back over the same places, and accepts if the register is what wrapping begins with.
-/

namespace Ethanol

/-- 64 bits: the register `a`, or a unit of the key. -/
abbrev KeyUnit : Type := Vector UInt8 8

/-- `a | r` as the block `b`. -/
def joinUnits (a r : KeyUnit) : AesBlock :=
  #v[a[0], a[1], a[2], a[3], a[4], a[5], a[6], a[7], r[0], r[1], r[2], r[3], r[4], r[5], r[6], r[7]]

/-- The first half of `b`. -/
def msbUnit (b : AesBlock) : KeyUnit :=
  Vector.ofFn fun k : Fin 8 => b[k.val]

/-- The second half of `b`. -/
def lsbUnit (b : AesBlock) : KeyUnit :=
  Vector.ofFn fun k : Fin 8 => b[k.val + 8]

/-- `a[7] ^= t` to `a[4] ^= t >> 24`. -/
def xorStep (a : KeyUnit) (t : UInt32) : KeyUnit :=
  #v[a[0], a[1], a[2], a[3], a[4] ^^^ byte3 t, a[5] ^^^ byte2 t, a[6] ^^^ byte1 t, a[7] ^^^ byte0 t]

/-- The body of the loops of `aes_wrap`, at `R[i]` in the sweep `j`. -/
def wrapStep (enc : AesBlock → AesBlock) (n j i : ℕ) (a r : KeyUnit) : KeyUnit × KeyUnit :=
  let b := enc (joinUnits a r)
  (xorStep (msbUnit b) (UInt32.ofNat (n * j + i)), lsbUnit b)

/-- The body of the loops of `aes_unwrap`. -/
def unwrapStep (dec : AesBlock → AesBlock) (n j i : ℕ) (a r : KeyUnit) : KeyUnit × KeyUnit :=
  let b := dec (joinUnits (xorStep a (UInt32.ofNat (n * j + i))) r)
  (msbUnit b, lsbUnit b)

/-- What `a` is set to. -/
def wrapIv : KeyUnit := Vector.replicate 8 0xa6

/-- The sweeps of `aes_wrap` for the values of `j` given. -/
def wrapSweeps (enc : AesBlock → AesBlock) (n : ℕ) (js : List ℕ) (c : KeyUnit × List KeyUnit) :
    KeyUnit × List KeyUnit :=
  js.foldl (fun c j => Sweep.up (wrapStep enc n j) 1 c.1 c.2) c

/-- The sweeps of `aes_unwrap` for the values of `j` given. -/
def unwrapSweeps (dec : AesBlock → AesBlock) (n : ℕ) (js : List ℕ) (c : KeyUnit × List KeyUnit) :
    KeyUnit × List KeyUnit :=
  js.foldl (fun c j => Sweep.down (unwrapStep dec n j) 1 c.1 c.2) c

/-- `aes_wrap` of the units `plain`: the register and the units behind it; `none` is -1. -/
def aesWrap (mem : RoundKeys) (kek : List UInt8) (plain : List KeyUnit) : Option (KeyUnit × List KeyUnit) := do
  let ctx ← aesEncryptInit mem kek
  some (wrapSweeps (aesEncrypt ctx) plain.length [0, 1, 2, 3, 4, 5] (wrapIv, plain))

/-- `aes_unwrap` of a register and the units behind it. -/
def aesUnwrap (mem : RoundKeys) (kek : List UInt8) (cipher : KeyUnit × List KeyUnit) : Option (List KeyUnit) := do
  let ctx ← aesDecryptInit mem kek
  let (a, r) := unwrapSweeps (aesDecrypt ctx) cipher.2.length [5, 4, 3, 2, 1, 0] cipher
  if a = wrapIv then some r else none

/-! ## Units -/

/-- A unit is known by its bytes. -/
lemma unit_ext {a a' : KeyUnit} (h : ∀ i : Fin 8, a[i] = a'[i]) : a = a' := by
  apply Vector.ext
  intro i hi
  exact h ⟨i, hi⟩

@[simp] lemma msbUnit_joinUnits (a r : KeyUnit) : msbUnit (joinUnits a r) = a := by
  apply unit_ext
  intro i
  fin_cases i <;> simp [msbUnit, joinUnits]

@[simp] lemma lsbUnit_joinUnits (a r : KeyUnit) : lsbUnit (joinUnits a r) = r := by
  apply unit_ext
  intro i
  fin_cases i <;> simp [lsbUnit, joinUnits]

@[simp] lemma joinUnits_units (b : AesBlock) : joinUnits (msbUnit b) (lsbUnit b) = b := by
  apply Vector.ext
  intro i hi
  have hfin : ∀ i : Fin 16, (joinUnits (msbUnit b) (lsbUnit b))[i] = b[i] := by
    intro i
    fin_cases i <;> simp [joinUnits, msbUnit, lsbUnit]
  exact hfin ⟨i, hi⟩

/-- The step counter that is added twice is gone. -/
@[simp] lemma xorStep_xorStep (a : KeyUnit) (t : UInt32) : xorStep (xorStep a t) t = a := by
  apply unit_ext
  intro i
  fin_cases i <;> simp [xorStep, UInt8.xor_assoc]

/-! ## Sweeps -/

section

variable {enc dec : AesBlock → AesBlock} (n : ℕ)

lemma unwrapStep_wrapStep (hinv : ∀ b, dec (enc b) = b) (j i : ℕ) (a r : KeyUnit) :
    unwrapStep dec n j i (wrapStep enc n j i a r).1 (wrapStep enc n j i a r).2 = (a, r) := by
  simp [wrapStep, unwrapStep, hinv]

lemma wrapStep_unwrapStep (hinv : ∀ b, enc (dec b) = b) (j i : ℕ) (a r : KeyUnit) :
    wrapStep enc n j i (unwrapStep dec n j i a r).1 (unwrapStep dec n j i a r).2 = (a, r) := by
  simp [wrapStep, unwrapStep, hinv]

@[simp] lemma length_wrapSweeps (js : List ℕ) (c : KeyUnit × List KeyUnit) :
    (wrapSweeps enc n js c).2.length = c.2.length := by
  induction js generalizing c with
  | nil => rfl
  | cons j js ih =>
    rw [wrapSweeps, List.foldl_cons, ← wrapSweeps, ih, Sweep.length_up]

@[simp] lemma length_unwrapSweeps (js : List ℕ) (c : KeyUnit × List KeyUnit) :
    (unwrapSweeps dec n js c).2.length = c.2.length := by
  induction js generalizing c with
  | nil => rfl
  | cons j js ih =>
    rw [unwrapSweeps, List.foldl_cons, ← unwrapSweeps, ih, Sweep.length_down]

lemma wrapSweeps_append (js js' : List ℕ) (c : KeyUnit × List KeyUnit) :
    wrapSweeps enc n (js ++ js') c = wrapSweeps enc n js' (wrapSweeps enc n js c) := by
  rw [wrapSweeps, List.foldl_append]
  rfl

lemma unwrapSweeps_append (js js' : List ℕ) (c : KeyUnit × List KeyUnit) :
    unwrapSweeps dec n (js ++ js') c = unwrapSweeps dec n js' (unwrapSweeps dec n js c) := by
  rw [unwrapSweeps, List.foldl_append]
  rfl

/-- The sweeps in reverse order undo the sweeps. -/
lemma unwrapSweeps_wrapSweeps (hinv : ∀ b, dec (enc b) = b) (js : List ℕ) (c : KeyUnit × List KeyUnit) :
    unwrapSweeps dec n js.reverse (wrapSweeps enc n js c) = c := by
  induction js generalizing c with
  | nil => rfl
  | cons j js ih =>
    have hrest := ih (Sweep.up (wrapStep enc n j) 1 c.1 c.2)
    rw [wrapSweeps, List.foldl_cons, ← wrapSweeps, List.reverse_cons, unwrapSweeps_append, hrest]
    exact Sweep.down_up (unwrapStep_wrapStep n hinv j) 1 c.1 c.2

lemma wrapSweeps_unwrapSweeps (hinv : ∀ b, enc (dec b) = b) (js : List ℕ) (c : KeyUnit × List KeyUnit) :
    wrapSweeps enc n js.reverse (unwrapSweeps dec n js c) = c := by
  induction js generalizing c with
  | nil => rfl
  | cons j js ih =>
    have hrest := ih (Sweep.down (unwrapStep dec n j) 1 c.1 c.2)
    rw [unwrapSweeps, List.foldl_cons, ← unwrapSweeps, List.reverse_cons, wrapSweeps_append, hrest]
    exact Sweep.up_down (wrapStep_unwrapStep n hinv j) 1 c.1 c.2

end

/-- Unwrapping accepts exactly what wrapping writes, and returns the key that was wrapped. -/
lemma aesUnwrap_eq_some_iff (mem mem' : RoundKeys) (kek : List UInt8) (cipher : KeyUnit × List KeyUnit)
    (plain : List KeyUnit) :
    aesUnwrap mem' kek cipher = some plain ↔ aesWrap mem kek plain = some cipher := by
  rcases henc : aesEncryptInit mem kek with _ | enc
  · have hdec := (aesDecryptInit_eq_none_iff mem mem' kek).2 henc
    simp [aesUnwrap, aesWrap, henc, hdec]
  · rcases hdec : aesDecryptInit mem' kek with _ | dec
    · rw [(aesDecryptInit_eq_none_iff mem mem' kek).1 hdec] at henc
      cases henc
    · obtain ⟨hleft, hright⟩ := aes_inverse henc hdec
      have hwrap : aesWrap mem kek plain =
          some (wrapSweeps (aesEncrypt enc) plain.length [0, 1, 2, 3, 4, 5] (wrapIv, plain)) := by
        rw [aesWrap, henc]
        rfl
      have hunwrap : aesUnwrap mem' kek cipher = some plain ↔
          unwrapSweeps (aesDecrypt dec) cipher.2.length [5, 4, 3, 2, 1, 0] cipher = (wrapIv, plain) := by
        rw [aesUnwrap, hdec]
        simp only [Option.bind_eq_bind, Option.bind_some]
        rcases unwrapSweeps (aesDecrypt dec) cipher.2.length [5, 4, 3, 2, 1, 0] cipher with ⟨a, r⟩
        by_cases ha : a = wrapIv <;> simp [ha]
      rw [hwrap, hunwrap]
      constructor
      · intro hback
        have hlength := @length_unwrapSweeps (aesDecrypt dec) cipher.2.length [5, 4, 3, 2, 1, 0] cipher
        rw [hback] at hlength
        have hforth := wrapSweeps_unwrapSweeps cipher.2.length hright [5, 4, 3, 2, 1, 0] cipher
        rw [hback] at hforth
        rw [hlength]
        exact congrArg some hforth
      · intro hforth
        have hcipher := Option.some.inj hforth
        have hlength := @length_wrapSweeps (aesEncrypt enc) plain.length [0, 1, 2, 3, 4, 5] (wrapIv, plain)
        rw [hcipher] at hlength
        have hback := unwrapSweeps_wrapSweeps plain.length hleft [0, 1, 2, 3, 4, 5] (wrapIv, plain)
        rw [hcipher] at hback
        rw [hlength]
        exact hback

/-- Keys of 16, 24 and 32 bytes are taken. -/
lemma aesWrap_eq_none_iff (mem : RoundKeys) (kek : List UInt8) (plain : List KeyUnit) :
    aesWrap mem kek plain = none ↔ ¬(kek.length = 16 ∨ kek.length = 24 ∨ kek.length = 32) := by
  rw [← aesEncryptInit_eq_none_iff mem kek, aesWrap]
  cases aesEncryptInit mem kek <;> simp

/-- Unwrapping returns as many units as there are behind the register. -/
lemma length_unwrapped {mem : RoundKeys} {kek : List UInt8} {cipher : KeyUnit × List KeyUnit} {plain : List KeyUnit}
    (hunwrap : aesUnwrap mem kek cipher = some plain) : plain.length = cipher.2.length := by
  rw [aesUnwrap] at hunwrap
  obtain ⟨ctx, _, hrest⟩ := Option.bind_eq_some_iff.1 hunwrap
  have hlength := @length_unwrapSweeps (aesDecrypt ctx) cipher.2.length [5, 4, 3, 2, 1, 0] cipher
  rcases hback : unwrapSweeps (aesDecrypt ctx) cipher.2.length [5, 4, 3, 2, 1, 0] cipher with ⟨a, r⟩
  rw [hback] at hlength hrest
  simp only at hrest
  split_ifs at hrest
  rw [← Option.some.inj hrest]
  exact hlength

/-- With a key of 16, 24 or 32 bytes every list of units is wrapped, into as many units and the register, and nothing else
unwraps to it.  With any other key nothing is wrapped or unwrapped. -/
theorem aesWrap_spec (mem mem' : RoundKeys) (kek : List UInt8) (plain : List KeyUnit) :
    if kek.length = 16 ∨ kek.length = 24 ∨ kek.length = 32 then
      ∃ cipher, aesWrap mem kek plain = some cipher ∧ cipher.2.length = plain.length ∧
        ∀ cipher', aesUnwrap mem' kek cipher' = some plain ↔ cipher' = cipher
    else aesWrap mem kek plain = none ∧ ∀ cipher, aesUnwrap mem' kek cipher ≠ some plain := by
  split_ifs with hlength
  · rcases henc : aesEncryptInit mem kek with _ | enc
    · exact absurd hlength ((aesEncryptInit_eq_none_iff mem kek).1 henc)
    · have hwrap : aesWrap mem kek plain =
          some (wrapSweeps (aesEncrypt enc) plain.length [0, 1, 2, 3, 4, 5] (wrapIv, plain)) := by
        rw [aesWrap, henc]
        rfl
      refine ⟨_, hwrap, length_wrapSweeps plain.length _ _, ?_⟩
      intro cipher'
      rw [aesUnwrap_eq_some_iff mem, hwrap, Option.some.injEq, eq_comm]
  · have hnone : aesWrap mem kek plain = none := by
      rw [aesWrap, (aesEncryptInit_eq_none_iff mem kek).2 hlength]
      rfl
    refine ⟨hnone, ?_⟩
    intro cipher hunwrap
    rw [aesUnwrap_eq_some_iff mem, hnone] at hunwrap
    cases hunwrap

end Ethanol
