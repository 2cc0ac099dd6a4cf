import EthanolHostapd.Messaging.BufferHandler

/-!
# The wire image of a field

For each kind of field this module says which bytes the encoder puts on the wire (`charBytes`,
`headerBytes`; for scalars this is `Scalar.toBytes`), that the decoder turns them back into the value,
and how many of them there are compared with what the size functions count.  A string survives the
trip up to the difference between a missing and an empty one (`nullIfEmpty`).

Lengths are kept in an `int`, so what is written of a string, and what is read back, is said of strings
whose length is representable as an `int` (`StrFits`).  What the size functions count is right for all
strings, up to a multiple of `2 ^ 32` (`strlenEthanol_modEq`).
-/

namespace Ethanol

open Wire

/-- The number of characters of a string, zero for `NULL`. -/
def strLen (s : Option CString) : ℕ := (s.map fun t => t.chars.length).getD 0

/-- What the size functions are meant to count for a string: the length field, the characters and the
terminator. -/
def strSize (s : Option CString) : ℤ := strLen s + 5

/-- The length of the string is representable as an `int`, the type of the variable that holds it. -/
def StrFits (s : Option CString) : Prop := strLen s < 2 ^ 31

instance (s : Option CString) : Decidable (StrFits s) := inferInstanceAs (Decidable (_ < _))

/-- The number of bytes by which the size functions overestimate a string field: the terminator of a
missing or empty string is counted and not written. -/
def strSlack (s : Option CString) : ℕ := if strLen s = 0 then 1 else 0

/-- An empty string arrives as `NULL`. -/
def nullIfEmpty : Option CString → Option CString
  | none => none
  | some t => if t.chars = [] then none else some t

/-- The characters of a string with the terminator; nothing for a missing or empty string. -/
def charBody : Option CString → List UInt8
  | none => []
  | some t => if t.chars = [] then [] else t.chars ++ [0]

/-- The wire image of a string field. -/
def charBytes (s : Option CString) : List UInt8 :=
  Scalar.toBytes (Int32.ofNat (strLen s)) ++ charBody s

/-- The wire image of a header. -/
def headerBytes (mType mId mSize : Int32) : List UInt8 :=
  Scalar.toBytes mType ++ Scalar.toBytes mId ++ charBytes (some ethanolVersion) ++
    Scalar.toBytes mSize

@[simp] lemma strLen_none : strLen none = 0 := rfl

@[simp] lemma strLen_some (t : CString) : strLen (some t) = t.chars.length := rfl

@[simp] lemma strLen_ethanolVersion : strLen (some ethanolVersion) = 5 := rfl

@[simp] lemma strFits_ethanolVersion : StrFits (some ethanolVersion) := by decide

@[simp] lemma strFits_none : StrFits none := by decide

lemma strLen_nullIfEmpty (s : Option CString) : strLen (nullIfEmpty s) = strLen s := by
  rcases s with _ | t
  · rfl
  · by_cases hempty : t.chars = [] <;> simp [nullIfEmpty, hempty]

/-- A string fits if it fits as it arrives. -/
lemma strFits_of_nullIfEmpty {s : Option CString} (h : StrFits (nullIfEmpty s)) : StrFits s := by
  rwa [StrFits, strLen_nullIfEmpty] at h

lemma strSlack_le_one (s : Option CString) : strSlack s ≤ 1 := by
  unfold strSlack
  split <;> omega

/-- A string is written in the bytes the size functions count, less the slack. -/
lemma length_charBytes (s : Option CString) : (charBytes s).length + strSlack s = strLen s + 5 := by
  rcases s with _ | ⟨chars, hnul⟩
  · rfl
  · rcases chars with _ | ⟨b, chars⟩
    · rfl
    · simp [charBytes, charBody, strSlack]
      omega

@[simp] lemma length_headerBytes (mType mId mSize : Int32) :
    (headerBytes mType mId mSize).length = 22 := by
  simp [headerBytes, charBytes, charBody, ethanolVersion]

/-! ## Counts -/

/-- The `int` count of an array is the number of its elements. -/
def Counts {α : Type} (n : Int32) (a : List α) : Prop := n.toInt = a.length

instance {α : Type} (n : Int32) (a : List α) : Decidable (Counts n a) :=
  inferInstanceAs (Decidable (_ = _))

lemma Counts.loopCount_eq {α : Type} {n : Int32} {a : List α} (h : Counts n a) :
    loopCount n = a.length := by
  unfold Counts at h
  rw [loopCount, h, Int.toNat_natCast]

/-- A loop over a counted array visits all of it. -/
lemma Counts.take_eq {α : Type} {n : Int32} {a : List α} (h : Counts n a) :
    a.take (loopCount n) = a := by
  rw [h.loopCount_eq, List.take_length]

lemma counts_replicate {α : Type} {n : Int32} {k : ℕ} (h : n.toInt = k) (a : α) :
    Counts n (List.replicate k a) := by
  rw [Counts, List.length_replicate, h]

/-- A count that is read back as an `unsigned int` drives the same number of iterations. -/
lemma Counts.toNat_toUInt32 {α : Type} {n : Int32} {a : List α} (h : Counts n a) :
    n.toUInt32.toNat = a.length := by
  unfold Counts at h
  have hpos : 0 ≤ n.toInt := by omega
  have hcast : n.toInt = n.toUInt32.toNat := by
    rw [← Int32.toInt_toBitVec, BitVec.toInt_eq_toNat_of_msb]
    · rfl
    · rw [BitVec.msb_eq_toInt, decide_eq_false_iff_not, not_lt]
      exact hpos
  omega

/-- The `unsigned int` count of an array is the number of its elements. -/
def UCounts {α : Type} (n : UInt32) (a : List α) : Prop := n.toNat = a.length

instance {α : Type} (n : UInt32) (a : List α) : Decidable (UCounts n a) :=
  inferInstanceAs (Decidable (_ = _))

lemma UCounts.take_eq {α : Type} {n : UInt32} {a : List α} (h : UCounts n a) :
    a.take n.toNat = a := by
  unfold UCounts at h
  rw [h, List.take_length]

lemma uCounts_replicate {α : Type} {n : UInt32} {k : ℕ} (h : n.toNat = k) (a : α) :
    UCounts n (List.replicate k a) := by
  rw [UCounts, List.length_replicate, h]

/-! ## Sizes -/

lemma toInt_strlenInt {s : Option CString} (h : StrFits s) : (strlenInt s).toInt = strLen s := by
  rcases s with _ | s
  · rfl
  · exact Int32.toInt_ofNat_of_lt h

/-- `strlen_ethanol` counts what it is meant to, up to a multiple of `2 ^ 32` for long strings. -/
lemma strlenEthanol_modEq (s : Option CString) :
    (strlenEthanol s).toInt ≡ strSize s [ZMOD 2 ^ 32] := by
  have hlen : (strlenInt s).toInt ≡ strLen s [ZMOD 2 ^ 32] := by
    rcases s with _ | s
    · rfl
    · exact toInt_ofInt_modEq s.chars.length
  calc (strlenEthanol s).toInt ≡ 4 + ((strlenInt s).toInt + 1) [ZMOD 2 ^ 32] := toInt_ofInt_modEq _
    _ ≡ 4 + ((strLen s : ℤ) + 1) [ZMOD 2 ^ 32] := by gcongr
    _ = strSize s := by
      unfold strSize
      ring

lemma strSize_nonneg (s : Option CString) : 0 ≤ strSize s := by
  unfold strSize
  omega

/-- A string whose size is at most a representable one fits. -/
lemma strFits_of_strSize_le {s : Option CString} {n : ℤ} (hle : strSize s ≤ n) (hn : n < 2 ^ 31) :
    StrFits s := by
  unfold strSize at hle
  unfold StrFits
  omega

@[simp] lemma toInt_boolLenEthanol : boolLenEthanol.toInt = 4 := rfl

/-- One element of a list is counted with at most what the whole list is counted with. -/
lemma le_sum_map {α : Type} {size : α → ℤ} {l : List α} (h : ∀ x ∈ l, 0 ≤ size x) {x : α}
    (hx : x ∈ l) : size x ≤ (l.map size).sum := by
  refine List.single_le_sum ?_ _ (List.mem_map_of_mem hx)
  intro n hn
  obtain ⟨y, hy, rfl⟩ := List.mem_map.mp hn
  exact h y hy

/-! ## Encoding -/

/-- `encode_char` appends the wire image of the string. -/
@[simp] lemma encodeChar_ofBytes {s : Option CString} (h : StrFits s) (bs : List UInt8) :
    encodeChar (Out.ofBytes bs) s = Out.ofBytes (bs ++ charBytes s) := by
  have hlen := toInt_strlenInt h
  rcases s with _ | s
  · simp [encodeChar, charBytes, charBody, strlenInt]
  · have hcast : ((strLen (some s) : ℤ) + 1).toNat = s.chars.length + 1 := by
      rw [strLen_some]
      omega
    have hint : strlenInt (some s) = Int32.ofNat (strLen (some s)) := rfl
    simp only [encodeChar, hlen, hcast, Out.ofBytes_scalar]
    by_cases hs : s.chars = []
    · simp [hs, charBytes, charBody, hint]
    · have hpos : (0 : ℤ) < strLen (some s) := by
        have := List.length_pos_iff.mpr hs
        simpa using this
      rw [if_pos hpos, Out.ofBytes_strcpy, charBytes, hint, List.append_assoc]
      simp [charBody, hs]

/-- `encode_header` appends the wire image of the header. -/
@[simp] lemma encodeHeader_ofBytes (bs : List UInt8) (mType mId mSize : Int32) :
    encodeHeader (Out.ofBytes bs) mType mId mSize =
      Out.ofBytes (bs ++ headerBytes mType mId mSize) := by
  simp [encodeHeader, headerBytes]

/-- `encode_char` leaves what has been written below the pointer. -/
lemma encodeChar_mono {o : Out} {bs : List UInt8} (h : bs <+: o.bytes) (s : Option CString) :
    bs <+: (encodeChar o s).bytes := by
  have hint := Out.scalar_mono h (strlenInt s)
  rcases s with _ | s
  · exact hint
  · simp only [encodeChar]
    split
    · exact Out.strcpy_mono hint _ _
    · exact hint

/-! ## Decoding -/

/-- `decode_char` reads back what `encode_char` wrote. -/
lemma decodes_char {s : Option CString} (h : StrFits s) :
    Decodes decodeChar (charBytes s) (nullIfEmpty s) := by
  have hlt : strLen s < 2 ^ 31 := h
  have hlen : Decodes decodeUint (Scalar.toBytes (Int32.ofNat (strLen s)))
      (UInt32.ofNat (strLen s)) := Decodes.scalar (UInt32.ofNat (strLen s))
  unfold decodeChar charBytes
  refine hlen.bind ?_
  rcases s with _ | t
  · exact Decodes.pure none
  by_cases hne : t.chars = []
  · have hz : UInt32.ofNat (strLen (some t)) = 0 := by simp [hne]
    rw [if_pos hz, charBody, nullIfEmpty, if_pos hne, if_pos hne]
    exact Decodes.pure none
  · rw [charBody, nullIfEmpty, if_neg hne, if_neg hne]
    have hpos : 0 < t.chars.length := List.length_pos_iff.mpr hne
    rw [strLen_some] at hlt ⊢
    have hnat : (UInt32.ofNat t.chars.length).toNat = t.chars.length :=
      UInt32.toNat_ofNat_of_lt (lt_trans (by omega) (by decide : 2 ^ 31 < UInt32.size))
    have hnz : UInt32.ofNat t.chars.length ≠ 0 := by
      intro hz
      rw [hz] at hnat
      simp at hnat
      omega
    have hblock : charBlock (UInt32.ofNat t.chars.length) = t.chars.length + 1 := by
      rw [charBlock, if_neg hnz, UInt32.toNat_add, hnat]
      simp
      omega
    rw [if_neg hnz, hblock]
    refine Decodes.map (a := t) ?_ some
    intro m c hm
    have hslice : m.slice c.pos (t.chars.length + 1) = t.chars ++ [0] := by
      simpa [Memory.Holds] using hm
    simp [strncpy, hslice, CString.ofBytes_terminated]

/-- `decode_header` reads back what `encode_header` wrote. -/
lemma decodes_header (mType mId mSize : Int32) :
    Decodes decodeHeader (headerBytes mType mId mSize)
      ⟨mType, mId, some ethanolVersion, mSize⟩ := by
  unfold decodeHeader headerBytes
  rw [List.append_assoc, List.append_assoc]
  refine (Decodes.scalar mType).bind ?_
  refine (Decodes.scalar mId).bind ?_
  refine (decodes_char strFits_ethanolVersion).bind ?_
  exact (Decodes.scalar mSize).map _

lemma decodeChar_fst (m : Memory) (c : Cursor) :
    (decodeChar m c).1 =
      if Scalar.ofBytes UInt32 (m.slice c.pos 4) = 0 then none
      else some (CString.ofBytes (m.slice (c.pos + 4)
        (charBlock (Scalar.ofBytes UInt32 (m.slice c.pos 4))) ++ m.heap (c.pos + 4))) := by
  have hlen : (decodeUint m c).1 = Scalar.ofBytes UInt32 (m.slice c.pos 4) := rfl
  simp only [decodeChar, Decoder.bind_apply, hlen]
  split <;> rfl

lemma decodeChar_pos (m : Memory) (c : Cursor) :
    (decodeChar m c).2.pos =
      c.pos + 4 + charBlock (Scalar.ofBytes UInt32 (m.slice c.pos 4)) := by
  have hlen : (decodeUint m c).1 = Scalar.ofBytes UInt32 (m.slice c.pos 4) := rfl
  simp only [decodeChar, Decoder.bind_apply, hlen]
  split
  · next hzero => simp [charBlock, hzero]; rfl
  · rfl

/-- A string that is read from a message with zeros behind it ends where the message ends. -/
lemma length_ofBytes_slice_le (wire : List UInt8) (heap : ℕ → List UInt8) (off n : ℕ) :
    (CString.ofBytes ((Memory.ofBytes wire (fun _ => 0) heap).slice off n)).chars.length ≤
      wire.length - off := by
  set src := (Memory.ofBytes wire (fun _ => 0) heap).slice off n with hsrc
  change (src.takeWhile (fun b => decide (b ≠ 0))).length ≤ wire.length - off
  by_contra hlt
  rw [not_le] at hlt
  have hne := List.mem_takeWhile_imp (List.getElem_mem hlt)
  rw [(List.takeWhile_prefix _).getElem hlt] at hne
  have hend : wire[off + (wire.length - off)]? = none := List.getElem?_eq_none (by omega)
  simp [hsrc, Memory.slice, Memory.ofBytes, hend] at hne

/-- Every string that is read from a message of representable length with zeros behind it fits. -/
lemma ensures_decodeChar {wire : List UInt8} (hwire : wire.length < 2 ^ 31) :
    Ensures (Memory.ofBytes wire (fun _ => 0) (fun _ => [])) decodeChar StrFits := by
  intro c
  rw [decodeChar_fst]
  split
  · exact strFits_none
  · have hheap : (Memory.ofBytes wire (fun _ => 0) (fun _ => [])).heap (c.pos + 4) = [] := rfl
    have hlen := length_ofBytes_slice_le wire (fun _ => []) (c.pos + 4)
      (charBlock (Scalar.ofBytes UInt32
        ((Memory.ofBytes wire (fun _ => 0) (fun _ => [])).slice c.pos 4)))
    rw [hheap, List.append_nil, StrFits, strLen_some]
    omega

/-! ## Messages -/

/-- The size `fixed + stride * c`, with `c` a signed count, is representable as an `int`.  For a
negative count this is about the remainder modulo `2 ^ 32`, which is what is left of the product. -/
def CountFits (fixed stride : ℤ) (c : Int32) : Prop :=
  (0 ≤ c.toInt ∧ fixed + stride * c.toInt < 2 ^ 31) ∨
    (c.toInt < 0 ∧ fixed + stride * c.toInt % 2 ^ 32 < 2 ^ 31)

instance (fixed stride : ℤ) (c : Int32) : Decidable (CountFits fixed stride c) :=
  inferInstanceAs (Decidable (_ ∨ _))

namespace Encoded

/-- What a receiver makes of an encoded message: the transmitted bytes arrive in some buffer and are
decoded from its start. -/
def received {α : Type} (e : Encoded) (d : Decoder α) (junk beyond : ℕ → UInt8)
    (heap : ℕ → List UInt8) : Option α :=
  (e.transmitted junk).map fun wire => (d (Memory.ofBytes wire beyond heap) Cursor.start).1

/-- An encoder that writes no more than the size it computed, when that size is an `int`, stays in
its buffer. -/
lemma inBuffer_of_le {bs : List UInt8} {size : ℤ} (hle : (bs.length : ℤ) ≤ size)
    (hlt : size < 2 ^ 31) : (⟨Int32.ofInt size, Out.ofBytes bs⟩ : Encoded).InBuffer := by
  unfold InBuffer
  rwa [toInt_ofInt_of_lt (by omega) hlt]

/-- Unless the size is far beyond what is written, these are the only encoders that do. -/
lemma inBuffer_iff {bs : List UInt8} {size : ℤ} (h₀ : 0 ≤ size)
    (hfar : size < bs.length + 2 ^ 32) :
    (⟨Int32.ofInt size, Out.ofBytes bs⟩ : Encoded).InBuffer ↔
      (bs.length : ℤ) ≤ size ∧ size < 2 ^ 31 := by
  constructor
  · intro h
    have hle : (bs.length : ℤ) ≤ (Int32.ofInt size).toInt := h
    by_cases hlt : size < 2 ^ 31
    · rw [toInt_ofInt_of_lt h₀ hlt] at hle
      exact ⟨hle, hlt⟩
    · have := toInt_ofInt_le_sub (not_lt.mp hlt)
      omega
  · rintro ⟨hle, hlt⟩
    exact inBuffer_of_le hle hlt

/-- An encoder that writes a fixed part and then, in a loop, `stride` bytes for each of `c` elements,
and that computes its size as `fixed + stride * c`, whatever the sign of `c`. -/
lemma inBuffer_iff_countFits {bs : List UInt8} {fixed stride slack : ℤ} {c : Int32}
    (hbs : (bs.length : ℤ) + slack = fixed + stride * loopCount c) (hfixed : 0 ≤ fixed)
    (hslack₀ : 0 ≤ slack) (hslack : slack < 4) (hstride₀ : 0 ≤ stride) (hstride : 4 ∣ stride) :
    (⟨Int32.ofInt (fixed + stride * c.toInt), Out.ofBytes bs⟩ : Encoded).InBuffer ↔
      CountFits fixed stride c := by
  have hdvd : 4 ∣ stride * c.toInt := hstride.mul_right _
  unfold CountFits
  by_cases hc : 0 ≤ c.toInt
  · have hloop : (loopCount c : ℤ) = c.toInt := Int.toNat_of_nonneg hc
    have hprod : 0 ≤ stride * c.toInt := mul_nonneg hstride₀ hc
    rw [hloop] at hbs
    rw [inBuffer_iff (by omega) (by omega)]
    omega
  · have hloop : loopCount c = 0 := Int.toNat_of_nonpos (by omega)
    rw [hloop, Nat.cast_zero, mul_zero] at hbs
    have hwrap : Int32.ofInt (fixed + stride * c.toInt) =
        Int32.ofInt (fixed + stride * c.toInt % 2 ^ 32) :=
      ofInt_eq_of_modEq ((Int.mod_modEq _ _).symm.add_left fixed)
    -- the product is a multiple of four, so its remainder is at most `2 ^ 32 - 4`
    rw [hwrap, inBuffer_iff (by omega) (by omega)]
    omega

/-- A negative length cannot be allocated. -/
lemma not_inBuffer_of_neg {e : Encoded} (h : e.bufLen.toInt < 0) : ¬ e.InBuffer := by
  unfold InBuffer
  omega

/-- What is sent has the length of the buffer, which is an `int`. -/
lemma length_transmitted_lt {e : Encoded} {junk : ℕ → UInt8} {wire : List UInt8}
    (h : e.transmitted junk = some wire) : wire.length < 2 ^ 31 := by
  have hmax : e.bufLen.toInt < 2 ^ 31 := e.bufLen.toInt_lt
  unfold transmitted at h
  split at h
  · obtain rfl := Option.some.inj h
    rw [List.length_map, List.length_range]
    omega
  · cases h

/-- Nothing arrives of a message that was not written inside its buffer. -/
lemma received_eq_none {α : Type} {e : Encoded} (h : ¬ e.InBuffer) (d : Decoder α)
    (junk beyond : ℕ → UInt8) (heap : ℕ → List UInt8) : e.received d junk beyond heap = none := by
  rw [received, transmitted, if_neg h, Option.map_none]

/-- A buffer in which `bs` has been written starts with `bs`. -/
lemma map_getD_range {bs : List UInt8} {n : ℕ} (h : bs.length ≤ n) (junk : ℕ → UInt8) :
    (List.range n).map (fun i => bs.getD i (junk i)) =
      bs ++ (List.range' bs.length (n - bs.length)).map junk := by
  apply List.ext_getElem
  · simp
    omega
  · intro i h₁ h₂
    by_cases hi : i < bs.length
    · simp [hi]
    · simp [List.getElem_append_right (not_lt.mp hi), hi]
      congr 1
      omega

/-- A message that was written inside its buffer arrives as what its bytes decode to. -/
lemma received_eq {α : Type} {d : Decoder α} {bs : List UInt8} {a : α} {bufLen : Int32}
    (hd : Decodes d bs a) (hin : (⟨bufLen, Out.ofBytes bs⟩ : Encoded).InBuffer)
    (junk beyond : ℕ → UInt8) (heap : ℕ → List UInt8) :
    (⟨bufLen, Out.ofBytes bs⟩ : Encoded).received d junk beyond heap = some a := by
  have hle : (bs.length : ℤ) ≤ bufLen.toInt := hin
  have hwire := map_getD_range (by omega : bs.length ≤ bufLen.toInt.toNat) junk
  rw [received, transmitted, if_pos hin]
  simp only [Out.ofBytes_bytes, hwire, Option.map_some]
  exact congrArg some (hd _ Cursor.start (Memory.ofBytes_holds _ _ _ _)).1

end Encoded

end Ethanol
