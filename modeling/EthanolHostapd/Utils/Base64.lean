import EthanolHostapd.Utils.Common
import EthanolHostapd.Wire.Buffer

/-!
# Base64

`base64_encode` and `base64_decode` of `utils/base64.c`.  Both work in memory that they allocate: the size that the encoder
asks for is computed before it knows the text, in a `size_t` that can overflow.

`w` is the number of bits of a `size_t`, and `malloc` gives memory with any contents.  The outer `none` is an access outside
the memory, the inner one is `NULL`.
-/

namespace Ethanol

/-! ## The code -/

/-- `base64_table`. -/
def base64Table : Bytes := (List.range' 65 26 ++ List.range' 97 26 ++ List.range' 48 10 ++ [43, 47]).map UInt8.ofNat

/-- `base64_table[i]`. -/
def base64Digit (i : UInt8) : UInt8 := base64Table.getD i.toNat 0

/-- `dtable`, which `base64_decode` fills from the table. -/
def base64Dtable : Bytes :=
  ((List.range 64).foldl (fun dtable i => dtable.set (base64Table.getD i 0).toNat (UInt8.ofNat i))
    (List.replicate 256 0x80)).set 61 0

/-- `dtable[c]`. -/
def base64Value (c : UInt8) : UInt8 := base64Dtable.getD c.toNat 0

/-- The four characters of three bytes. -/
def base64Group (a b c : UInt8) : Bytes :=
  [base64Digit ((a >>> 2) &&& 0x3f), base64Digit ((((a &&& 0x03) <<< 4) ||| (b >>> 4)) &&& 0x3f),
    base64Digit ((((b &&& 0x0f) <<< 2) ||| (c >>> 6)) &&& 0x3f), base64Digit (c &&& 0x3f)]

/-- The characters of the bytes behind the last group. -/
def base64Tail : Bytes → Bytes
  | [] => []
  | [a] => [base64Digit ((a >>> 2) &&& 0x3f), base64Digit (((a &&& 0x03) <<< 4) &&& 0x3f), 61, 61]
  | a :: b :: _ => [base64Digit ((a >>> 2) &&& 0x3f), base64Digit ((((a &&& 0x03) <<< 4) ||| (b >>> 4)) &&& 0x3f),
      base64Digit (((b &&& 0x0f) <<< 2) &&& 0x3f), 61]

/-- The end of `base64_encode`: the last bytes, the last line feed and the zero. -/
def base64EncodeEnd (src : Bytes) (line_len pos : ℕ) (out : Bytes) : Option (ℕ × Bytes) := do
  let out ← Buffer.write out pos (base64Tail src)
  let pos := pos + (base64Tail src).length
  let line_len := if src = [] then line_len else line_len + 4
  if line_len ≠ 0 then
    let out ← Buffer.write out pos [10]
    let out ← Buffer.write out (pos + 1) [0]
    return (pos + 1, out)
  else
    let out ← Buffer.write out pos [0]
    return (pos, out)

/-- The loop of `base64_encode` and what comes behind it. -/
def base64EncodeLoop : Bytes → ℕ → ℕ → Bytes → Option (ℕ × Bytes)
  | a :: b :: c :: src, line_len, pos, out => do
    let out ← Buffer.write out pos (base64Group a b c)
    if 72 ≤ line_len + 4 then
      let out ← Buffer.write out (pos + 4) [10]
      base64EncodeLoop src 0 (pos + 5) out
    else base64EncodeLoop src (line_len + 4) (pos + 4) out
  | src, line_len, pos, out => base64EncodeEnd src line_len pos out

/-- The size that `base64_encode` allocates, as it is computed. -/
def base64Olen (w len : ℕ) : ℕ :=
  let olen := (len * 4 % 2 ^ w / 3 + 4) % 2 ^ w
  let olen := (olen + olen / 72) % 2 ^ w
  (olen + 1) % 2 ^ w

/-- `base64_encode`: the number of characters that is stored in `out_len`, and the memory. -/
def base64Encode (w : ℕ) (malloc : ∀ n, Vector UInt8 n) (src : Bytes) : Option (Option (ℕ × Bytes)) :=
  if base64Olen w src.length < src.length then some none
  else (base64EncodeLoop src 0 0 (malloc (base64Olen w src.length)).toList).map some

/-- The three bytes of a block. -/
def base64Bytes (b₀ b₁ b₂ b₃ : UInt8) : Bytes :=
  [(b₀ <<< 2) ||| (b₁ >>> 4), (b₁ <<< 4) ||| (b₂ >>> 2), (b₂ <<< 6) ||| b₃]

/-- The second loop of `base64_decode`, with the values in `block`. -/
def base64DecodeLoop : Bytes → Bytes → ℕ → ℕ → Bytes → Option (Option (ℕ × Bytes))
  | [], _, _, pos, out => some (some (pos, out))
  | c :: src, block, pad, pos, out =>
    if base64Value c = 0x80 then base64DecodeLoop src block pad pos out
    else
      let pad := if c = 61 then pad + 1 else pad
      match block with
      | [b₀, b₁, b₂] => do
        let out ← Buffer.write out pos (base64Bytes b₀ b₁ b₂ (base64Value c))
        if pad = 0 then base64DecodeLoop src [] pad (pos + 3) out
        else if pad = 1 then some (some (pos + 3 - 1, out))
        else if pad = 2 then some (some (pos + 3 - 2, out))
        else some none
      | block => base64DecodeLoop src (block ++ [base64Value c]) pad pos out

/-- `base64_decode`: the number of bytes that is stored in `out_len`, and the memory. -/
def base64Decode (malloc : ∀ n, Vector UInt8 n) (src : Bytes) : Option (Option (ℕ × Bytes)) :=
  let count := src.countP fun c => base64Value c ≠ 0x80
  if count = 0 ∨ count % 4 ≠ 0 then some none
  else base64DecodeLoop src [] 0 0 (malloc (count / 4 * 3)).toList

/-! ## The characters -/

/-- A digit is read back, and it is neither the padding nor a character that is skipped. -/
lemma base64Digit_spec (v : UInt8) :
    base64Value (base64Digit (v &&& 0x3f)) = v &&& 0x3f ∧ base64Digit (v &&& 0x3f) ≠ 61 ∧ v &&& 0x3f ≠ 0x80 := by
  have hall : ∀ n : Fin 64, base64Value (base64Digit (UInt8.ofNat n)) = UInt8.ofNat n ∧
      base64Digit (UInt8.ofNat n) ≠ 61 ∧ UInt8.ofNat n ≠ 0x80 := by decide +kernel
  have hlt : (v &&& 0x3f).toNat < 64 := by
    rw [UInt8.toNat_and]
    exact Nat.lt_succ_of_le Nat.and_le_right
  have hv := hall ⟨_, hlt⟩
  rwa [UInt8.ofNat_toNat] at hv

/-- The padding counts as a zero, and a line feed is skipped. -/
lemma base64Value_spec : base64Value 61 = 0 ∧ base64Value 10 = 0x80 := by decide +kernel

/-- The four values of three bytes give the bytes. -/
lemma base64Bytes_group (a b c : UInt8) :
    base64Bytes ((a >>> 2) &&& 0x3f) ((((a &&& 0x03) <<< 4) ||| (b >>> 4)) &&& 0x3f)
      ((((b &&& 0x0f) <<< 2) ||| (c >>> 6)) &&& 0x3f) (c &&& 0x3f) = [a, b, c] := by
  have hfirst : (((a >>> 2) &&& 0x3f) <<< 2) ||| (((((a &&& 0x03) <<< 4) ||| (b >>> 4)) &&& 0x3f) >>> 4) = a := by
    refine UInt8.eq_of_toBitVec_eq (BitVec.eq_of_getLsbD_eq fun i hi => ?_)
    interval_cases i <;> simp
  have hsecond : (((((a &&& 0x03) <<< 4) ||| (b >>> 4)) &&& 0x3f) <<< 4) |||
      (((((b &&& 0x0f) <<< 2) ||| (c >>> 6)) &&& 0x3f) >>> 2) = b := by
    refine UInt8.eq_of_toBitVec_eq (BitVec.eq_of_getLsbD_eq fun i hi => ?_)
    interval_cases i <;> simp
  have hthird : (((((b &&& 0x0f) <<< 2) ||| (c >>> 6)) &&& 0x3f) <<< 6) ||| (c &&& 0x3f) = c := by
    refine UInt8.eq_of_toBitVec_eq (BitVec.eq_of_getLsbD_eq fun i hi => ?_)
    interval_cases i <;> simp
  rw [base64Bytes, hfirst, hsecond, hthird]

/-- The characters for some bytes, in a line that has `line_len` characters. -/
def base64Text : ℕ → Bytes → Bytes
  | line_len, a :: b :: c :: src =>
    base64Group a b c ++ if 72 ≤ line_len + 4 then 10 :: base64Text 0 src else base64Text (line_len + 4) src
  | line_len, src => base64Tail src ++ if (if src = [] then line_len else line_len + 4) ≠ 0 then [10] else []

lemma length_lt_of_no_group {src : Bytes} (hsrc : ∀ (a b c : UInt8) (src' : Bytes), src = a :: b :: c :: src' → False) :
    src.length < 3 := by
  match src, hsrc with
  | [], _ => exact Nat.zero_lt_succ 2
  | [a], _ => exact Nat.one_lt_succ_succ 1
  | [a, b], _ => exact Nat.lt_succ_self 2
  | a :: b :: c :: src, hsrc => exact absurd rfl (hsrc a b c src)

lemma length_base64Tail {src : Bytes} (hsrc : src.length < 3) :
    (base64Tail src).length = if src.length % 3 = 0 then 0 else 4 := by
  match src, hsrc with
  | [], _ => rfl
  | [a], _ => rfl
  | [a, b], _ => rfl

/-- The characters of the groups, a line feed for every 72 of them and one at the end. -/
lemma length_base64Text_le (line_len : ℕ) (src : Bytes) :
    (base64Text line_len src).length ≤
      4 * (src.length / 3) + (if src.length % 3 = 0 then 0 else 4) + (line_len + 4 * (src.length / 3)) / 72 + 1 := by
  induction line_len, src using base64Text.induct with
  | case1 line_len a b c src ihnew ih =>
    have hgroup : (base64Group a b c).length = 4 := rfl
    have hlength : (a :: b :: c :: src).length = src.length + 3 := rfl
    rw [base64Text, List.length_append, hgroup, hlength, Nat.add_div_right _ (by omega), Nat.add_mod_right]
    by_cases hline : 72 ≤ line_len + 4
    · rw [if_pos hline, List.length_cons]
      have hnew := ihnew
      omega
    · rw [if_neg hline]
      omega
  | case2 line_len src hsrc =>
    have htail := length_base64Tail (length_lt_of_no_group hsrc)
    rw [base64Text.eq_2 _ _ hsrc, List.length_append, htail]
    refine Nat.add_le_add ?_ ?_
    · omega
    · split_ifs
      · exact le_rfl
      · exact Nat.zero_le _
      · exact le_rfl
      · exact Nat.zero_le _

/-! ## The size -/

/-- The size before it is reduced. -/
def base64Size (len : ℕ) : ℕ := 4 * len / 3 + 4 + (4 * len / 3 + 4) / 72 + 1

/-- The text and its zero fit. -/
lemma length_base64Text_lt (src : Bytes) : (base64Text 0 src).length < base64Size src.length := by
  have htext := length_base64Text_le 0 src
  have hfeeds : (0 + 4 * (src.length / 3)) / 72 ≤ (4 * src.length / 3 + 4) / 72 := Nat.div_le_div_right (by omega)
  unfold base64Size
  split_ifs at htext <;> omega

section Size

variable {w len : ℕ}

lemma size_pow (hw : 16 ≤ w) : 65536 ≤ 2 ^ w := by
  have hpow : 2 ^ 16 ≤ 2 ^ w := Nat.pow_le_pow_right (Nat.succ_pos 1) hw
  omega

/-- If the product does not overflow, the size is what it should be. -/
lemma base64Olen_eq (hw : 16 ≤ w) (hlen : 4 * len < 2 ^ w) : base64Olen w len = base64Size len := by
  have hpow := size_pow hw
  unfold base64Olen base64Size
  rw [Nat.mul_comm len, Nat.mod_eq_of_lt hlen]
  have hsize : 4 * len / 3 + 4 + (4 * len / 3 + 4) / 72 + 1 < 2 ^ w := by omega
  dsimp only
  rw [@Nat.mod_eq_of_lt (4 * len / 3 + 4) _ (by omega),
    @Nat.mod_eq_of_lt (4 * len / 3 + 4 + (4 * len / 3 + 4) / 72) _ (by omega),
    Nat.mod_eq_of_lt hsize]

/-- The length is refused exactly if the product overflows. -/
lemma base64Olen_lt_iff (hw : 16 ≤ w) (hlen : len < 2 ^ w) : base64Olen w len < len ↔ 2 ^ w ≤ 4 * len := by
  have hpow := size_pow hw
  by_cases hover : 2 ^ w ≤ 4 * len
  · refine iff_of_true ?_ hover
    have hle : base64Olen w len ≤ len * 4 % 2 ^ w / 3 + 4 + (len * 4 % 2 ^ w / 3 + 4) / 72 + 1 := by
      have hfirst := Nat.mod_le (len * 4 % 2 ^ w / 3 + 4) (2 ^ w)
      have hdiv := Nat.div_le_div_right (c := 72) hfirst
      exact (Nat.mod_le _ _).trans (Nat.succ_le_succ ((Nat.mod_le _ _).trans (Nat.add_le_add hfirst hdiv)))
    refine hle.trans_lt ?_
    -- The product overflows once, twice or three times, and each time the sum is too small by more than an eighth.
    have hmod := Nat.div_add_mod (len * 4) (2 ^ w)
    have hquot : len * 4 / 2 ^ w < 4 := Nat.div_lt_of_lt_mul (by omega)
    have hquot' : 0 < len * 4 / 2 ^ w := Nat.div_pos (by omega) (by omega)
    have hrem := Nat.mod_lt (len * 4) (Nat.lt_of_lt_of_le (by decide) hpow)
    generalize len * 4 / 2 ^ w = q at hmod hquot hquot'
    interval_cases q <;> omega
  · rw [base64Olen_eq hw (by omega), base64Size]
    omega

end Size

/-! ## Encoding -/

section Encode

variable {front rest : Bytes} {line_len : ℕ}

/-- The zero behind the text. -/
lemma write_front_zero {pos : ℕ} (hpos : pos = front.length) (hroom : 0 < rest.length) :
    Buffer.write (front ++ rest) pos [0] = some (front ++ 0 :: rest.drop 1) := by
  have hone : ([0] : Bytes).length ≤ rest.length := hroom
  rw [Buffer.write_front hpos hone, List.append_assoc]
  rfl

/-- The end of the encoder writes the last characters and a zero, and nothing behind them. -/
lemma base64EncodeEnd_eq {src : Bytes}
    (hsrc : ∀ (a b c : UInt8) (src' : Bytes), src = a :: b :: c :: src' → False)
    (hroom : (base64Text line_len src).length < rest.length) :
    base64EncodeEnd src line_len front.length (front ++ rest) =
      some ((front ++ base64Text line_len src).length,
        (front ++ base64Text line_len src) ++ 0 :: rest.drop ((base64Text line_len src).length + 1)) := by
  rw [base64Text.eq_2 _ _ hsrc] at hroom ⊢
  rw [List.length_append] at hroom
  unfold base64EncodeEnd
  rw [Buffer.write_front rfl (by omega), Option.bind_eq_bind, Option.bind_some]
  dsimp only
  rw [← List.length_append]
  have hdrop : (rest.drop (base64Tail src).length).length = rest.length - (base64Tail src).length := List.length_drop
  by_cases hline : (if src = [] then line_len else line_len + 4) ≠ 0
  · rw [if_pos hline] at hroom
    rw [List.length_singleton] at hroom
    rw [if_pos hline, if_pos hline, ← List.append_assoc]
    have hfeed : ([10] : Bytes).length ≤ (rest.drop (base64Tail src).length).length := by
      rw [hdrop, List.length_singleton]
      omega
    have hdrops : (base64Tail src).length + (([10] : Bytes).length + 1) = (base64Tail src ++ [10]).length + 1 := by
      rw [List.length_append, Nat.add_assoc]
    have hplace : (front ++ base64Tail src).length + 1 = (front ++ base64Tail src ++ [10]).length := by
      simp only [List.length_append, List.length_singleton]
    rw [Buffer.write_front rfl hfeed, Option.bind_some, hplace,
      write_front_zero rfl (by rw [List.length_drop, hdrop, List.length_singleton]; omega), List.drop_drop,
      List.drop_drop,
      hdrops]
    rfl
  · rw [if_neg hline] at hroom
    rw [if_neg hline, if_neg hline, List.append_nil, write_front_zero rfl (by rw [hdrop]; exact Nat.sub_pos_of_lt hroom),
      List.drop_drop]
    rfl

/-- The loop of the encoder writes the text and a zero. -/
lemma base64EncodeLoop_eq (src : Bytes) (hroom : (base64Text line_len src).length < rest.length) :
    base64EncodeLoop src line_len front.length (front ++ rest) =
      some ((front ++ base64Text line_len src).length,
        (front ++ base64Text line_len src) ++ 0 :: rest.drop ((base64Text line_len src).length + 1)) := by
  induction line_len, src using base64Text.induct generalizing front rest with
  | case1 line_len a b c src ihnew ih =>
    have hgroup : (base64Group a b c).length = 4 := rfl
    rw [base64Text, List.length_append, hgroup] at hroom
    have hplace : front.length + 4 = (front ++ base64Group a b c).length := by rw [List.length_append, hgroup]
    have hlengths (text : Bytes) : (base64Group a b c ++ text).length = 4 + text.length := by
      rw [List.length_append, hgroup]
    rw [base64EncodeLoop, Buffer.write_front rfl (by omega), Option.bind_eq_bind, Option.bind_some, base64Text, hgroup]
    by_cases hline : 72 ≤ line_len + 4
    · rw [if_pos hline, List.length_cons] at hroom
      have hfeed : ([10] : Bytes).length ≤ (rest.drop 4).length := by
        rw [List.length_drop, List.length_singleton]
        omega
      have hplace' : front.length + 5 = (front ++ base64Group a b c ++ [10]).length := by
        simp only [List.length_append, hgroup, List.length_singleton]
      have hdrops : 4 + (([10] : Bytes).length + ((base64Text 0 src).length + 1)) =
          4 + (10 :: base64Text 0 src).length + 1 := by
        simp only [List.length_cons, List.length_nil]
        omega
      have htext : front ++ (base64Group a b c ++ 10 :: base64Text 0 src) =
          (front ++ base64Group a b c ++ [10]) ++ base64Text 0 src := by
        simp only [List.append_assoc, List.singleton_append]
      rw [if_pos hline, if_pos hline, Buffer.write_front hplace hfeed, Option.bind_some, hplace', htext,
        ihnew (by rw [List.length_drop, List.length_drop, List.length_singleton]; omega), List.drop_drop, List.drop_drop,
        hlengths, hdrops]
    · rw [if_neg hline] at hroom
      rw [if_neg hline, if_neg hline, hplace, ← List.append_assoc, ih (by rw [List.length_drop]; omega), List.drop_drop,
        hlengths, ← Nat.add_assoc]
  | case2 line_len src hsrc =>
    rw [base64EncodeLoop.eq_2 _ _ _ _ hsrc]
    exact base64EncodeEnd_eq hsrc hroom

end Encode

lemma base64Encode_eq_none {w : ℕ} (hw : 16 ≤ w) (malloc : ∀ n, Vector UInt8 n) {src : Bytes} (hlength : src.length < 2 ^ w)
    (hover : 2 ^ w ≤ 4 * src.length) : base64Encode w malloc src = some none :=
  if_pos ((base64Olen_lt_iff hw hlength).mpr hover)

/-- What `base64_encode` does with a length that it takes: it writes the text and a zero. -/
lemma base64Encode_eq {w : ℕ} (hw : 16 ≤ w) (malloc : ∀ n, Vector UInt8 n) {src : Bytes} (hsrc : 4 * src.length < 2 ^ w) :
    base64Encode w malloc src = some (some ((base64Text 0 src).length, base64Text 0 src ++
      0 :: (malloc (base64Olen w src.length)).toList.drop ((base64Text 0 src).length + 1))) := by
  have htaken : ¬base64Olen w src.length < src.length := by
    rw [base64Olen_lt_iff hw (by omega)]
    exact Nat.not_le.mpr hsrc
  have hroom : (base64Text 0 src).length < (malloc (base64Olen w src.length)).toList.length := by
    rw [Vector.length_toList, base64Olen_eq hw hsrc]
    exact length_base64Text_lt src
  have hloop := @base64EncodeLoop_eq [] _ 0 src hroom
  rw [List.nil_append, List.nil_append, List.length_nil] at hloop
  rw [base64Encode, if_neg htaken, hloop]
  rfl

/-! ## Decoding -/

section Decode

variable {src block out : Bytes} {pad pos : ℕ}

lemma base64DecodeLoop_digit (v : UInt8) (hblock : block.length < 3) :
    base64DecodeLoop (base64Digit (v &&& 0x3f) :: src) block pad pos out =
      base64DecodeLoop src (block ++ [v &&& 0x3f]) pad pos out := by
  obtain ⟨hvalue, hpad, hskip⟩ := base64Digit_spec v
  rw [base64DecodeLoop, hvalue, if_neg hskip, if_neg hpad]
  match block, hblock with
  | [], _ => rfl
  | [a], _ => rfl
  | [a, b], _ => rfl

/-- A line feed is skipped. -/
lemma base64DecodeLoop_feed :
    base64DecodeLoop (10 :: src) block pad pos out = base64DecodeLoop src block pad pos out := by
  rw [base64DecodeLoop, if_pos base64Value_spec.2]

variable {front rest : Bytes}

/-- Four characters without padding are decoded to three bytes. -/
lemma base64DecodeLoop_group (a b c : UInt8) (hroom : 3 ≤ rest.length) :
    base64DecodeLoop (base64Group a b c ++ src) [] 0 front.length (front ++ rest) =
      base64DecodeLoop src [] 0 (front ++ [a, b, c]).length ((front ++ [a, b, c]) ++ rest.drop 3) := by
  obtain ⟨hvalue, hpad, hskip⟩ := base64Digit_spec c
  have hwrite : Buffer.write (front ++ rest) front.length [a, b, c] = some ((front ++ [a, b, c]) ++ rest.drop 3) :=
    Buffer.write_front rfl hroom
  have hplace : front.length + 3 = (front ++ [a, b, c]).length := by
    simp only [List.length_append, List.length_cons, List.length_nil]
  simp only [base64Group, List.cons_append, List.nil_append]
  rw [base64DecodeLoop_digit _ (by decide), List.nil_append, base64DecodeLoop_digit _ (by simp), List.singleton_append,
    base64DecodeLoop_digit _ (by simp), base64DecodeLoop, hvalue, if_neg hskip, if_neg hpad]
  simp only [List.cons_append, List.nil_append, base64Bytes_group, hwrite, Option.bind_eq_bind, Option.bind_some,
    if_true, hplace]

/-- The last characters of a text that ends with padding: what is behind them is not read. -/
lemma base64DecodeLoop_tail {last : Bytes} (hlast : last.length < 3) (hne : last ≠ []) (hroom : 3 ≤ rest.length) :
    ∃ rest', base64DecodeLoop (base64Tail last ++ src) [] 0 front.length (front ++ rest) =
      some (some ((front ++ last).length, (front ++ last) ++ rest')) := by
  have hzero := base64Value_spec.1
  have hwrite (b c : UInt8) (a : UInt8) :
      Buffer.write (front ++ rest) front.length [a, b, c] = some ((front ++ [a, b, c]) ++ rest.drop 3) :=
    Buffer.write_front rfl hroom
  match last, hlast with
  | [], _ => exact absurd rfl hne
  | [a], _ =>
    have hbytes : base64Bytes ((a >>> 2) &&& 0x3f) (((a &&& 0x03) <<< 4) &&& 0x3f) 0 0 = [a, 0, 0] := by
      simpa using base64Bytes_group a 0 0
    refine ⟨[0, 0] ++ rest.drop 3, ?_⟩
    simp only [base64Tail, List.cons_append, List.nil_append]
    rw [base64DecodeLoop_digit _ (by decide), List.nil_append, base64DecodeLoop_digit _ (by simp), List.singleton_append,
      base64DecodeLoop, hzero, if_neg (by decide), if_pos rfl]
    dsimp only
    rw [List.cons_append, List.singleton_append, base64DecodeLoop, hzero, if_neg (by decide), if_pos rfl]
    simp only [hbytes, hwrite, Option.bind_eq_bind, Option.bind_some]
    simp
  | [a, b], _ =>
    have hbytes : base64Bytes ((a >>> 2) &&& 0x3f) ((((a &&& 0x03) <<< 4) ||| (b >>> 4)) &&& 0x3f)
        (((b &&& 0x0f) <<< 2) &&& 0x3f) 0 = [a, b, 0] := by
      simpa using base64Bytes_group a b 0
    refine ⟨[0] ++ rest.drop 3, ?_⟩
    simp only [base64Tail, List.cons_append, List.nil_append]
    rw [base64DecodeLoop_digit _ (by decide), List.nil_append, base64DecodeLoop_digit _ (by simp), List.singleton_append,
      base64DecodeLoop_digit _ (by simp), List.cons_append, List.singleton_append, base64DecodeLoop, hzero,
      if_neg (by decide), if_pos rfl]
    simp only [hbytes, hwrite, Option.bind_eq_bind, Option.bind_some]
    simp

/-- The loop of the decoder reads a text back; what it stores of padding is behind the bytes. -/
lemma base64DecodeLoop_text (line_len : ℕ) (src : Bytes) (hroom : 3 * ((src.length + 2) / 3) ≤ rest.length) :
    ∃ rest', base64DecodeLoop (base64Text line_len src) [] 0 front.length (front ++ rest) =
      some (some ((front ++ src).length, (front ++ src) ++ rest')) := by
  induction line_len, src using base64Text.induct generalizing front rest with
  | case1 line_len a b c src ihnew ih =>
    have hlength : (a :: b :: c :: src).length = src.length + 3 := rfl
    have hbytes : front ++ a :: b :: c :: src = (front ++ [a, b, c]) ++ src := by
      rw [List.append_assoc]
      rfl
    rw [hlength] at hroom
    have hrest : 3 * ((src.length + 2) / 3) ≤ (rest.drop 3).length := by
      rw [List.length_drop]
      omega
    rw [base64Text, base64DecodeLoop_group a b c (by omega), hbytes]
    by_cases hline : 72 ≤ line_len + 4
    · rw [if_pos hline, base64DecodeLoop_feed]
      exact ihnew hrest
    · rw [if_neg hline]
      exact ih hrest
  | case2 line_len src hsrc =>
    rw [base64Text.eq_2 _ _ hsrc]
    by_cases hne : src = []
    · subst hne
      rw [List.append_nil, if_pos rfl]
      split_ifs
      · exact ⟨rest, by rw [base64Tail, List.nil_append, base64DecodeLoop_feed, base64DecodeLoop]⟩
      · exact ⟨rest, by rw [base64Tail, List.nil_append, base64DecodeLoop]⟩
    · have hpos : 0 < src.length := List.length_pos_iff.mpr hne
      exact base64DecodeLoop_tail (length_lt_of_no_group hsrc) hne (by omega)

end Decode

lemma countP_base64Digit (v : UInt8) (p : Bytes) :
    (base64Digit (v &&& 0x3f) :: p).countP (fun c => base64Value c ≠ 0x80) =
      p.countP (fun c => base64Value c ≠ 0x80) + 1 := by
  obtain ⟨hvalue, -, hskip⟩ := base64Digit_spec v
  exact List.countP_cons_of_pos (by rw [hvalue]; exact decide_eq_true hskip)

/-- The decoder counts four characters for three bytes. -/
lemma countP_base64Text (line_len : ℕ) (src : Bytes) :
    (base64Text line_len src).countP (fun c => base64Value c ≠ 0x80) = 4 * ((src.length + 2) / 3) := by
  have hpad (p : Bytes) :
      (61 :: p).countP (fun c => base64Value c ≠ 0x80) = p.countP (fun c => base64Value c ≠ 0x80) + 1 :=
    List.countP_cons_of_pos (by rw [base64Value_spec.1]; decide)
  have hfeed (p : Bytes) : (10 :: p).countP (fun c => base64Value c ≠ 0x80) = p.countP (fun c => base64Value c ≠ 0x80) :=
    List.countP_cons_of_neg (by rw [base64Value_spec.2]; decide)
  induction line_len, src using base64Text.induct with
  | case1 line_len a b c src ihnew ih =>
    have hlength : (a :: b :: c :: src).length = src.length + 3 := rfl
    rw [base64Text, base64Group, hlength]
    simp only [List.cons_append, List.nil_append, countP_base64Digit]
    by_cases hline : 72 ≤ line_len + 4
    · rw [if_pos hline, hfeed, ihnew]
      omega
    · rw [if_neg hline, ih]
      omega
  | case2 line_len src hsrc =>
    have hend (p : Prop) [Decidable p] : (if p then [10] else [] : Bytes).countP (fun c => base64Value c ≠ 0x80) = 0 := by
      split_ifs
      · exact hfeed []
      · rfl
    rw [base64Text.eq_2 _ _ hsrc, List.countP_append, hend]
    match src, length_lt_of_no_group hsrc with
    | [], _ => rfl
    | [a], _ =>
      rw [base64Tail]
      simp only [countP_base64Digit, hpad, List.countP_nil, List.length_singleton]
    | [a, b], _ =>
      rw [base64Tail]
      simp only [countP_base64Digit, hpad, List.countP_nil, List.length_cons, List.length_nil]

/-- `base64_decode` of a text. -/
lemma base64Decode_text (malloc : ∀ n, Vector UInt8 n) (line_len : ℕ) {src : Bytes} (hsrc : src ≠ []) :
    ∃ rest, base64Decode malloc (base64Text line_len src) = some (some (src.length, src ++ rest)) := by
  have hpos : 0 < src.length := List.length_pos_iff.mpr hsrc
  have hcount := countP_base64Text line_len src
  have htaken : ¬(4 * ((src.length + 2) / 3) = 0 ∨ 4 * ((src.length + 2) / 3) % 4 ≠ 0) := by omega
  have hsize : 4 * ((src.length + 2) / 3) / 4 * 3 = 3 * ((src.length + 2) / 3) := by omega
  have hroom : 3 * ((src.length + 2) / 3) ≤ (malloc (3 * ((src.length + 2) / 3))).toList.length := by
    rw [Vector.length_toList]
  obtain ⟨rest, hloop⟩ := @base64DecodeLoop_text [] _ line_len src hroom
  rw [List.nil_append, List.nil_append, List.length_nil] at hloop
  refine ⟨rest, ?_⟩
  rw [base64Decode, hcount, if_neg htaken, hsize]
  exact hloop

/-! ## The round trip -/

/-- `base64_encode` refuses a length exactly if four times the length does not fit into a `size_t`, so every length whose
output does not fit is among them.  Otherwise it writes the characters that it counts and a zero into what it allocated, and
leaves the rest as it was; from these characters `base64_decode` gets the bytes. -/
theorem base64Decode_base64Encode {w : ℕ} (hw : 16 ≤ w) (malloc malloc' : ∀ n, Vector UInt8 n) {d : Bytes}
    (hlength : d.length < 2 ^ w) (hd : d ≠ []) :
    (base64Encode w malloc d = some none ↔ 2 ^ w ≤ 4 * d.length) ∧
    (2 ^ w ≤ (base64Text 0 d).length + 1 → base64Encode w malloc d = some none) ∧
    (4 * d.length < 2 ^ w → ∃ text rest rest', base64Encode w malloc d = some (some (text.length, text ++ 0 :: rest)) ∧
      text.length + 1 ≤ base64Olen w d.length ∧
      rest = (malloc (base64Olen w d.length)).toList.drop (text.length + 1) ∧
      base64Decode malloc' text = some (some (d.length, d ++ rest'))) := by
  have hrefused (hover : 2 ^ w ≤ 4 * d.length) : base64Encode w malloc d = some none :=
    base64Encode_eq_none hw malloc hlength hover
  have htaken (hfit : 4 * d.length < 2 ^ w) : (base64Text 0 d).length + 1 ≤ base64Olen w d.length := by
    rw [base64Olen_eq hw hfit]
    exact length_base64Text_lt d
  refine ⟨⟨fun hnone => ?_, hrefused⟩, fun hover => hrefused ?_, fun hfit => ?_⟩
  · by_contra hfit
    rw [base64Encode_eq hw malloc (Nat.not_le.mp hfit)] at hnone
    cases hnone
  · by_contra hfit
    have hmod : base64Olen w d.length < 2 ^ w := Nat.mod_lt _ (Nat.two_pow_pos w)
    exact absurd (hover.trans (htaken (Nat.not_le.mp hfit))) (Nat.not_le.mpr hmod)
  · obtain ⟨rest', hdecode⟩ := base64Decode_text malloc' 0 hd
    exact ⟨base64Text 0 d, _, rest', base64Encode_eq hw malloc hfit, htaken hfit, rfl, hdecode⟩

/-- One byte, with a `size_t` of 32 bits. -/
theorem base64Decode_base64Encode_equals :
    (base64Encode 32 (fun n => Vector.replicate n 7) [61] = some none ↔ 2 ^ 32 ≤ 4 * 1) ∧
    (2 ^ 32 ≤ (base64Text 0 [61]).length + 1 → base64Encode 32 (fun n => Vector.replicate n 7) [61] = some none) ∧
    (4 * 1 < 2 ^ 32 → ∃ text rest rest',
      base64Encode 32 (fun n => Vector.replicate n 7) [61] = some (some (text.length, text ++ 0 :: rest)) ∧
      text.length + 1 ≤ base64Olen 32 1 ∧ rest = (Vector.replicate (base64Olen 32 1) 7).toList.drop (text.length + 1) ∧
      base64Decode (fun n => Vector.replicate n 9) text = some (some (1, 61 :: rest'))) :=
  base64Decode_base64Encode (by decide) (fun n => Vector.replicate n 7) (fun n => Vector.replicate n 9) (by decide)
    (by decide)

/-- With a `size_t` of 32 bits, `2 ^ 30` bytes are refused, though their text and its zero are less than `2 ^ 31` bytes. -/
theorem base64Encode_refuses_fitting :
    List.replicate (2 ^ 30) (0 : UInt8) ≠ [] ∧ (base64Text 0 (List.replicate (2 ^ 30) 0)).length + 1 < 2 ^ 31 ∧
      base64Encode 32 (fun n => Vector.replicate n 0) (List.replicate (2 ^ 30) 0) = some none := by
  have hlength : (List.replicate (2 ^ 30) (0 : UInt8)).length = 2 ^ 30 := List.length_replicate
  refine ⟨fun hnil => ?_, ?_, ?_⟩
  · rw [hnil] at hlength
    exact (Nat.two_pow_pos 30).ne hlength
  · have htext := length_base64Text_lt (List.replicate (2 ^ 30) 0)
    rw [hlength] at htext
    have hsize : base64Size (2 ^ 30) < 2 ^ 31 := by norm_num [base64Size]
    generalize (base64Text 0 (List.replicate (2 ^ 30) 0)).length = n at htext ⊢
    omega
  · refine base64Encode_eq_none (by decide) _ ?_ ?_
    · rw [hlength]
      norm_num
    · rw [hlength]
      norm_num

end Ethanol
