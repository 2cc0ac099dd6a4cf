import EthanolHostapd.Wire.LittleEndian

/-!
# Big-endian images of numbers

In network byte order the most significant byte comes first.
-/

namespace Wire

/-- The `w` low bytes of `n`, most significant byte first. -/
def beBytes (w n : ℕ) : List UInt8 := (leBytes w n).reverse

/-- The number whose big-endian image is `bs`. -/
def beNat (bs : List UInt8) : ℕ := leNat bs.reverse

@[simp] lemma length_beBytes (w n : ℕ) : (beBytes w n).length = w := by
  simp [beBytes]

@[simp] lemma beBytes_zero (n : ℕ) : beBytes 0 n = [] := rfl

/-- The last byte is the least significant one. -/
lemma beBytes_succ (w n : ℕ) : beBytes (w + 1) n = beBytes w (n / 256) ++ [UInt8.ofNat n] := by
  simp [beBytes, leBytes]

/-- Bytes above the image do not matter. -/
lemma beBytes_mod (w n : ℕ) : beBytes w (n % 256 ^ w) = beBytes w n := by
  have h := leBytes_leNat (leBytes w n)
  rw [length_leBytes, leNat_leBytes] at h
  rw [beBytes, beBytes, h]

lemma leNat_append (as bs : List UInt8) : leNat (as ++ bs) = leNat as + 256 ^ as.length * leNat bs := by
  induction as with
  | nil => simp [leNat]
  | cons a as ih =>
    rw [List.cons_append, leNat, leNat, ih, List.length_cons, pow_succ]
    ring

/-- The first byte is the most significant one. -/
lemma beNat_cons (b : UInt8) (bs : List UInt8) : beNat (b :: bs) = b.toNat * 256 ^ bs.length + beNat bs := by
  rw [beNat, List.reverse_cons, leNat_append, List.length_reverse, beNat, leNat, leNat]
  ring

lemma beNat_lt (bs : List UInt8) : beNat bs < 256 ^ bs.length := by
  have hlt := leNat_lt bs.reverse
  rwa [List.length_reverse] at hlt

lemma beBytes_beNat (bs : List UInt8) : beBytes bs.length (beNat bs) = bs := by
  have h := leBytes_leNat bs.reverse
  rw [List.length_reverse] at h
  rw [beBytes, beNat, h, List.reverse_reverse]

lemma beNat_beBytes (w n : ℕ) : beNat (beBytes w n) = n % 256 ^ w := by
  rw [beNat, beBytes, List.reverse_reverse, leNat_leBytes]

/-- The last byte is the least significant one. -/
lemma beNat_concat (bs : List UInt8) (b : UInt8) : beNat (bs ++ [b]) = beNat bs * 256 + b.toNat := by
  rw [beNat, List.reverse_append, List.reverse_singleton, List.singleton_append, leNat, beNat]
  ring

lemma beNat_append_zeros (bs : List UInt8) (w : ℕ) : beNat (bs ++ List.replicate w 0) = beNat bs * 256 ^ w := by
  induction w with
  | zero => simp
  | succ w ih =>
    rw [List.replicate_succ', ← List.append_assoc, beNat_concat, ih, UInt8.toNat_zero, pow_succ]
    ring

/-- Lists of one length are told apart by their numbers. -/
lemma beNat_inj {as bs : List UInt8} (h : as.length = bs.length) : beNat as = beNat bs ↔ as = bs := by
  constructor
  · intro heq
    apply List.reverse_injective
    rw [← leBytes_leNat as.reverse, ← leBytes_leNat bs.reverse, List.length_reverse, List.length_reverse, h]
    exact congrArg _ heq
  · rintro rfl
    rfl

end Wire
