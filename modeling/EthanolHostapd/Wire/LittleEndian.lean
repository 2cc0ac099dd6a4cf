import Mathlib

/-!
# Little-endian images of machine scalars

A machine scalar is moved between a variable and a byte buffer by copying its `sizeof` bytes.  This
module fixes what those bytes are on a little-endian machine: `leBytes w n` lists the `w` low bytes of
`n` from the least significant one, `leNat` reads such a list back, and the class `Scalar` ties a
fixed-width type to its byte image.  The two laws needed later are `Scalar.ofBytes_toBytes` (what was
stored is read back) and `Scalar.length_toBytes` (a scalar occupies exactly `width` bytes).
-/

namespace Wire

/-- The `w` low bytes of `n`, least significant byte first. -/
def leBytes : ℕ → ℕ → List UInt8
  | 0, _ => []
  | w + 1, n => UInt8.ofNat n :: leBytes w (n / 256)

/-- The number whose little-endian bytes are given. -/
def leNat : List UInt8 → ℕ
  | [] => 0
  | b :: bs => b.toNat + 256 * leNat bs

@[simp] lemma length_leBytes (w n : ℕ) : (leBytes w n).length = w := by
  induction w generalizing n with
  | zero => rfl
  | succ w ih => simp [leBytes, ih]

/-- Reading `w` stored bytes back yields the value modulo `256 ^ w`. -/
lemma leNat_leBytes (w n : ℕ) : leNat (leBytes w n) = n % 256 ^ w := by
  induction w generalizing n with
  | zero => simp [leBytes, leNat, Nat.mod_one]
  | succ w ih =>
    have hbyte : (UInt8.ofNat n).toNat = n % 256 := by simp
    rw [leBytes, leNat, ih, hbyte, pow_succ, mul_comm (256 ^ w) 256, Nat.mod_mul]

/-- A list of bytes is the image of the number it denotes. -/
lemma leBytes_leNat (bs : List UInt8) : leBytes bs.length (leNat bs) = bs := by
  induction bs with
  | nil => rfl
  | cons b bs ih =>
    have hb : b.toNat < 256 := b.toNat_lt
    have hdiv : (b.toNat + 256 * leNat bs) / 256 = leNat bs := by omega
    have hhead : UInt8.ofNat (b.toNat + 256 * leNat bs) = b := by
      apply UInt8.toNat_inj.mp
      simp
    rw [List.length_cons, leNat, leBytes, hdiv, ih, hhead]

/-- A `w`-byte list denotes a number below `256 ^ w`. -/
lemma leNat_lt (bs : List UInt8) : leNat bs < 256 ^ bs.length := by
  induction bs with
  | nil => simp [leNat]
  | cons b bs ih =>
    have hb : b.toNat < 256 := b.toNat_lt
    rw [leNat, List.length_cons, pow_succ]
    omega

/-- A fixed-width scalar type of the machine, together with its bit pattern. -/
class Scalar (α : Type) where
  /-- `sizeof(α)`. -/
  width : ℕ
  /-- The bit pattern of a value, as a number. -/
  pattern : α → ℕ
  /-- The value denoted by a bit pattern. -/
  ofPattern : ℕ → α
  /-- A bit pattern fits in `width` bytes. -/
  pattern_lt : ∀ a, pattern a < 256 ^ width
  /-- A value is recovered from its bit pattern. -/
  ofPattern_pattern : ∀ a, ofPattern (pattern a) = a

namespace Scalar

variable {α : Type} [Scalar α]

/-- The bytes that `memcpy` stores for a value. -/
def toBytes (a : α) : List UInt8 := leBytes (width α) (pattern a)

/-- The value that `memcpy` loads from bytes. -/
def ofBytes (α : Type) [Scalar α] (bs : List UInt8) : α := ofPattern (leNat bs)

@[simp] lemma length_toBytes (a : α) : (toBytes a).length = width α := length_leBytes _ _

@[simp] lemma ofBytes_toBytes (a : α) : ofBytes α (toBytes a) = a := by
  rw [ofBytes, toBytes, leNat_leBytes, Nat.mod_eq_of_lt (pattern_lt a), ofPattern_pattern]

/-- An array of scalars occupies the width of an element times the number of elements. -/
lemma length_flatMap_toBytes (l : List α) :
    (l.flatMap toBytes).length = l.length * width α := by
  simp [List.length_flatMap]

end Scalar

instance : Scalar UInt8 where
  width := 1
  pattern := UInt8.toNat
  ofPattern := UInt8.ofNat
  pattern_lt a := a.toNat_lt
  ofPattern_pattern a := by simp

instance : Scalar Int16 where
  width := 2
  pattern a := a.toUInt16.toNat
  ofPattern n := (UInt16.ofNat n).toInt16
  pattern_lt a := a.toUInt16.toNat_lt
  ofPattern_pattern a := by simp

instance : Scalar UInt32 where
  width := 4
  pattern := UInt32.toNat
  ofPattern := UInt32.ofNat
  pattern_lt a := a.toNat_lt
  ofPattern_pattern a := by simp

instance : Scalar Int32 where
  width := 4
  pattern a := a.toUInt32.toNat
  ofPattern n := (UInt32.ofNat n).toInt32
  pattern_lt a := a.toUInt32.toNat_lt
  ofPattern_pattern a := by simp

instance : Scalar UInt64 where
  width := 8
  pattern := UInt64.toNat
  ofPattern := UInt64.ofNat
  pattern_lt a := a.toNat_lt
  ofPattern_pattern a := by simp

instance : Scalar Int64 where
  width := 8
  pattern a := a.toUInt64.toNat
  ofPattern n := (UInt64.ofNat n).toInt64
  pattern_lt a := a.toUInt64.toNat_lt
  ofPattern_pattern a := by simp

/-- A `bool` object holds the byte `0` or `1`; any other byte is read as true. -/
instance : Scalar Bool where
  width := 1
  pattern := Bool.toNat
  ofPattern n := n != 0
  pattern_lt a := by cases a <;> decide
  ofPattern_pattern a := by cases a <;> rfl

namespace Scalar

@[simp] lemma width_uint8 : width UInt8 = 1 := rfl

@[simp] lemma width_int16 : width Int16 = 2 := rfl

@[simp] lemma width_uint32 : width UInt32 = 4 := rfl

@[simp] lemma width_int32 : width Int32 = 4 := rfl

@[simp] lemma width_uint64 : width UInt64 = 8 := rfl

@[simp] lemma width_int64 : width Int64 = 8 := rfl

@[simp] lemma width_bool : width Bool = 1 := rfl

end Scalar

/-- An `unsigned int` is determined by its four bytes, and every four bytes denote one. -/
lemma Scalar.toBytes_ofBytes_uint32 {bs : List UInt8} (h : bs.length = 4) :
    Scalar.toBytes (Scalar.ofBytes UInt32 bs) = bs := by
  have hlt : leNat bs < 2 ^ 32 := by
    have := leNat_lt bs
    rw [h] at this
    omega
  have hpat : (UInt32.ofNat (leNat bs)).toNat = leNat bs := by
    simpa using Nat.mod_eq_of_lt hlt
  change leBytes 4 (UInt32.ofNat (leNat bs)).toNat = bs
  rw [hpat, ← h, leBytes_leNat]

/-! ## Reduction of a size to an `int` -/

/-- A non-negative number below `2 ^ 31` survives the conversion to `int`. -/
lemma toInt_ofInt_of_lt {n : ℤ} (h₀ : 0 ≤ n) (h : n < 2 ^ 31) : (Int32.ofInt n).toInt = n :=
  Int32.toInt_ofInt_of_le (by omega) h

/-- A number of `2 ^ 31` or more loses at least `2 ^ 32` in the conversion to `int`. -/
lemma toInt_ofInt_le_sub {n : ℤ} (h : 2 ^ 31 ≤ n) : (Int32.ofInt n).toInt ≤ n - 2 ^ 32 := by
  have hsize : ((Int32.size : ℕ) : ℤ) = 4294967296 := rfl
  rw [Int32.toInt_ofInt, Int.bmod_def, hsize]
  split <;> omega

/-- The conversion to `int` keeps the remainder modulo `2 ^ 32`. -/
lemma toInt_ofInt_modEq (n : ℤ) : (Int32.ofInt n).toInt ≡ n [ZMOD 2 ^ 32] := by
  rw [Int32.toInt_ofInt]
  exact Int.bmod_emod

/-- Only the remainder modulo `2 ^ 32` matters for the conversion to `int`. -/
lemma ofInt_eq_of_modEq {m n : ℤ} (h : m ≡ n [ZMOD 2 ^ 32]) : Int32.ofInt m = Int32.ofInt n := by
  apply Int32.toInt_inj.mp
  rw [Int32.toInt_ofInt, Int32.toInt_ofInt, ← Int.emod_bmod m, ← Int.emod_bmod n]
  exact congrArg (Int.bmod · _) h

lemma sum_map_modEq {α : Type} {f g : α → ℤ} {n : ℤ} (h : ∀ x, f x ≡ g x [ZMOD n]) (l : List α) :
    (l.map f).sum ≡ (l.map g).sum [ZMOD n] := by
  induction l with
  | nil => rfl
  | cons x l ih => exact (h x).add ih

end Wire
