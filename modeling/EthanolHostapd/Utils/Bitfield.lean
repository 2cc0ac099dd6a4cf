import EthanolHostapd.Containers.Bitmap

/-!
# Bit fields

`bitfield.c`: bits in an array of bytes, with a number of bits that need not be a multiple of eight.
-/

namespace Ethanol

/-- `struct bitfield`. -/
structure Bitfield where
  maxBits : ℕ
  bits : Fin ((maxBits + 7) / 8) → BitVec 8

namespace Bitfield

/-- `bitfield_alloc`. -/
def alloc (maxBits : ℕ) : Bitfield := ⟨maxBits, fun _ => 0⟩

variable (bf : Bitfield)

/-- `bitfield_set`. -/
def set (bit : ℕ) : Bitfield :=
  if h : bit < bf.maxBits then { bf with bits := Bitmap.set bf.bits ⟨bit / 8, by omega⟩ (bit % 8) } else bf

/-- `bitfield_clear`. -/
def clear (bit : ℕ) : Bitfield :=
  if bf.maxBits ≤ bit then bf else (Bitmap.clear bf.bits bit).elim bf fun bits => { bf with bits }

/-- `bitfield_is_set`. -/
def isSet (bit : ℕ) : Bool := if bf.maxBits ≤ bit then false else Bitmap.get bf.bits bit

end Bitfield

/-- The loop of `first_zero`; `-1` is `none`. -/
def firstZeroFrom : ℕ → ℕ → BitVec 8 → Option ℕ
  | 0, _, _ => none
  | fuel + 1, i, val => if val &&& 1 = 0 then some i else firstZeroFrom fuel (i + 1) (val >>> 1)

/-- `first_zero`. -/
def firstZero (val : BitVec 8) : Option ℕ := firstZeroFrom 8 0 val

namespace Bitfield

/-- `bitfield_get_first_zero`; `-1` is `none`. -/
def getFirstZero (bf : Bitfield) : Option ℕ :=
  ((List.finRange ((bf.maxBits + 7) / 8)).find? fun i => bf.bits i ≠ 0xff).bind fun i =>
    (firstZero (bf.bits i)).bind fun j => if bf.maxBits ≤ i * 8 + j then none else some (i * 8 + j)

/-! ## What the functions do -/

variable {bf : Bitfield} {bit k : ℕ}

@[simp] lemma maxBits_set : (bf.set bit).maxBits = bf.maxBits := by
  unfold set
  split_ifs <;> rfl

@[simp] lemma maxBits_clear : (bf.clear bit).maxBits = bf.maxBits := by
  unfold clear
  split_ifs
  · rfl
  · cases Bitmap.clear bf.bits bit <;> rfl

@[simp] lemma isSet_alloc (maxBits k : ℕ) : (alloc maxBits).isSet k = false := by
  rw [isSet]
  split_ifs
  · rfl
  · exact Bitmap.get_zero k

lemma lt_of_isSet (h : bf.isSet k = true) : k < bf.maxBits := by
  by_contra hle
  rw [isSet, if_pos (not_lt.mp hle)] at h
  cases h

/-- The array has the byte of each bit. -/
lemma word_lt (h : bit < bf.maxBits) : bit / 8 < (bf.maxBits + 7) / 8 := by omega

lemma isSet_set (h : bit < bf.maxBits) (k : ℕ) : (bf.set bit).isSet k = (decide (k = bit) || bf.isSet k) := by
  have hget := Bitmap.get_set bf.bits ⟨bit / 8, word_lt h⟩ (Nat.mod_lt bit (show 8 > 0 by omega)) k
  rw [Nat.div_add_mod' bit 8] at hget
  rw [set, dif_pos h]
  change (if bf.maxBits ≤ k then false else Bitmap.get (Bitmap.set bf.bits ⟨bit / 8, word_lt h⟩ (bit % 8)) k) =
    (decide (k = bit) || if bf.maxBits ≤ k then false else Bitmap.get bf.bits k)
  rw [hget]
  by_cases hk : bf.maxBits ≤ k
  · rw [if_pos hk, if_pos hk, decide_eq_false (by omega), Bool.or_false]
  · rw [if_neg hk, if_neg hk]

lemma isSet_clear (h : bit < bf.maxBits) (k : ℕ) : (bf.clear bit).isSet k = (decide (k ≠ bit) && bf.isSet k) := by
  obtain ⟨bits, hbits⟩ : ∃ bits, Bitmap.clear bf.bits bit = some bits := ⟨_, dif_pos (word_lt h)⟩
  have hget := Bitmap.get_clear hbits (by omega) k
  rw [clear, if_neg (by omega), hbits]
  change (if bf.maxBits ≤ k then false else Bitmap.get bits k) =
    (decide (k ≠ bit) && if bf.maxBits ≤ k then false else Bitmap.get bf.bits k)
  rw [hget]
  by_cases hk : bf.maxBits ≤ k
  · rw [if_pos hk, if_pos hk, Bool.and_false]
  · rw [if_neg hk, if_neg hk]

/-! ## The first clear bit -/

lemma firstZero_eq (val : BitVec 8) : firstZero val = Bitmap.freeBit val := by
  revert val
  decide +kernel

/-- The two searches are the one of the bitmap. -/
lemma getFirstZero_eq (bf : Bitfield) : bf.getFirstZero = (Bitmap.firstFree bf.bits).bind fun p =>
    if bf.maxBits ≤ p.1 * 8 + p.2 then none else some (p.1 * 8 + p.2) := by
  have hones : (0xff : BitVec 8) = BitVec.allOnes 8 := rfl
  simp only [getFirstZero, Bitmap.firstFree_eq_find, Option.bind_assoc, Option.bind_map, firstZero_eq, hones]
  rfl

lemma isSet_eq_get (h : k < bf.maxBits) : bf.isSet k = Bitmap.get bf.bits k := if_neg (not_le.mpr h)

/-- The first bit that is not set. -/
lemma getFirstZero_eq_some (h : bf.getFirstZero = some k) :
    k < bf.maxBits ∧ bf.isSet k = false ∧ ∀ l < k, bf.isSet l = true := by
  rw [getFirstZero_eq] at h
  obtain ⟨⟨i, j⟩, hfree, h⟩ := Option.bind_eq_some_iff.mp h
  split_ifs at h with hmax
  obtain rfl := Option.some.inj h
  obtain ⟨-, hclear, hset⟩ := Bitmap.firstFree_eq_some hfree
  have hlt := not_le.mp hmax
  exact ⟨hlt, (isSet_eq_get hlt).trans hclear, fun l hl => (isSet_eq_get (hl.trans hlt)).trans (hset l hl)⟩

/-- Without a result all bits are set. -/
lemma getFirstZero_eq_none (h : bf.getFirstZero = none) : ∀ l < bf.maxBits, bf.isSet l = true := by
  intro l hl
  rw [getFirstZero_eq] at h
  rw [isSet_eq_get hl]
  cases hfree : Bitmap.firstFree bf.bits with
  | none =>
    obtain ⟨i, j, hj, rfl⟩ := Bitmap.exists_word (word_lt hl) (show 0 < 8 by omega)
    exact Bitmap.firstFree_eq_none hfree hj
  | some p =>
    rw [hfree, Option.bind_some] at h
    split_ifs at h with hmax
    exact (Bitmap.firstFree_eq_some hfree).2.2 l (hl.trans_le hmax)

end Bitfield

end Ethanol
