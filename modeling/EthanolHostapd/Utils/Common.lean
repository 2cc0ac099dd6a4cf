import EthanolHostapd.Wire.BigEndian

/-!
# Memory, strings and addresses

The comparison of memory areas, the counters that are kept as bytes, the reading of a file line by line,
the buffers of `wpabuf.c`, and the parser of an address in `utils/common.c`.  A string is the list of the bytes before the terminating zero.
-/

namespace Ethanol

open Wire

/-- A string of bytes. -/
abbrev Bytes : Type := List UInt8

/-- `os_memcmp`, of areas of one size.  Only the sign of the result is documented. -/
def osMemcmp : List UInt8 → List UInt8 → ℤ
  | a :: as, b :: bs => if a = b then osMemcmp as bs else a.toNat - b.toNat
  | _, _ => 0

/-- The loop of `inc_byte_array`, with `pos + 1` bytes to go. -/
def incByteArrayLoop (counter : List UInt8) : ℕ → List UInt8
  | 0 => counter
  | pos + 1 =>
    let counter := counter.set pos (counter.getD pos 0 + 1)
    if counter.getD pos 0 ≠ 0 then counter else incByteArrayLoop counter pos

/-- `inc_byte_array`. -/
def incByteArray (counter : List UInt8) : List UInt8 := incByteArrayLoop counter counter.length

/-- `fgets` with room for that many bytes before the zero: what is stored and what remains of the file. -/
def fgets : ℕ → List UInt8 → List UInt8 × List UInt8
  | 0, f => ([], f)
  | _ + 1, [] => ([], [])
  | n + 1, c :: f =>
    if c = 10 then ([c], f)
    else
      let (buf, rest) := fgets n f
      (c :: buf, rest)

/-- The contents of the buffer after each `fgets (buf, n + 1, f)`, for at most `fuel` of them. -/
def fgetsLoop (n : ℕ) : ℕ → List UInt8 → List (List UInt8)
  | _, [] => []
  | 0, _ => []
  | fuel + 1, f =>
    let (buf, rest) := fgets n f
    buf :: fgetsLoop n fuel rest

/-- `hex2num`.  The error is `none`. -/
def hex2num (c : UInt8) : Option UInt8 :=
  if 48 ≤ c ∧ c ≤ 57 then some (c - 48)
  else if 97 ≤ c ∧ c ≤ 102 then some (c - 97 + 10)
  else if 65 ≤ c ∧ c ≤ 70 then some (c - 65 + 10)
  else none

/-- `hex2byte`, with what comes after the two digits. -/
def hex2byte : List UInt8 → Option (UInt8 × List UInt8)
  | a :: b :: txt => do
    let a ← hex2num a
    let b ← hex2num b
    return (a <<< 4 ||| b, txt)
  | _ => none

/-- A round of the loop in `hwaddr_parse` that also checks the colon. -/
def hex2byteColon (txt : List UInt8) : Option (UInt8 × List UInt8) := do
  match ← hex2byte txt with
  | (a, 58 :: txt) => return (a, txt)
  | _ => none

/-- `hwaddr_parse`, with what comes after the address. -/
def hwaddrParse (txt : List UInt8) : Option (Vector UInt8 6 × List UInt8) := do
  let (a₀, txt) ← hex2byteColon txt
  let (a₁, txt) ← hex2byteColon txt
  let (a₂, txt) ← hex2byteColon txt
  let (a₃, txt) ← hex2byteColon txt
  let (a₄, txt) ← hex2byteColon txt
  let (a₅, txt) ← hex2byte txt
  return (#v[a₀, a₁, a₂, a₃, a₄, a₅], txt)

/-- `hwaddr_aton`.  What comes after the address is not looked at. -/
def hwaddrAton (txt : List UInt8) : Option (Vector UInt8 6) := (hwaddrParse txt).map Prod.fst

/-- `isspace`. -/
def isspace (c : UInt8) : Bool := c = 32 || (9 ≤ c && c ≤ 13)

/-- `strtol` to the base 10: a number that `long` cannot hold is replaced by the nearest one. -/
def strtol (txt : List UInt8) : ℤ :=
  let digits (txt : List UInt8) : ℤ :=
    (txt.takeWhile fun c => 48 ≤ c && c ≤ 57).foldl (fun n c => 10 * n + (c.toNat - 48)) 0
  let n :=
    match txt.dropWhile isspace with
    | 45 :: txt => -digits txt
    | 43 :: txt => digits txt
    | txt => digits txt
  max (-2 ^ 63) (min (2 ^ 63 - 1) n)

/-- `atoi`: the result of `strtol` as an `int`. -/
def atoi (txt : List UInt8) : ℤ := (Int32.ofInt (strtol txt)).toInt

/-- A number as `%d` prints it. -/
def decimal (i : ℤ) : List UInt8 :=
  (if i < 0 then [45] else []) ++ (Nat.toDigits 10 i.natAbs).map fun c => UInt8.ofNat c.toNat

/-- `struct wpabuf`. -/
structure Wpabuf where
  size : ℕ
  buf : List UInt8

/-- `wpabuf_tailroom`. -/
def Wpabuf.tailroom (b : Wpabuf) : ℕ := b.size - b.buf.length

/-- `wpabuf_put_data`; the program is aborted if there is no room. -/
def Wpabuf.putData (b : Wpabuf) (data : List UInt8) : Option Wpabuf :=
  if b.size < b.buf.length + data.length then none else some { b with buf := b.buf ++ data }

/-- One write after the other. -/
lemma Wpabuf.putData_putData (b : Wpabuf) (data data' : List UInt8) :
    ((b.putData data).bind fun b => b.putData data') = b.putData (data ++ data') := by
  unfold Wpabuf.putData
  rw [List.length_append, ← Nat.add_assoc]
  by_cases hdata : b.size < b.buf.length + data.length
  · rw [if_pos hdata, if_pos (by omega), Option.bind_none]
  · rw [if_neg hdata, Option.bind_some, List.length_append, List.append_assoc]

lemma Wpabuf.putData_eq_some_iff {b b' : Wpabuf} {data : List UInt8} :
    b.putData data = some b' ↔ b.buf.length + data.length ≤ b.size ∧ b' = { b with buf := b.buf ++ data } := by
  unfold Wpabuf.putData
  split_ifs with h
  · simp [Nat.not_le.mpr h]
  · simp [Nat.not_lt.mp h, eq_comm]

/-- A number is written with digits and a sign. -/
lemma toNat_of_mem_decimal {i : ℤ} {c : UInt8} (h : c ∈ decimal i) : c.toNat = 45 ∨ (48 ≤ c.toNat ∧ c.toNat ≤ 57) := by
  rcases List.mem_append.mp h with h | h
  · split at h
    · obtain rfl := List.mem_singleton.mp h
      left
      decide
    · exact absurd h List.not_mem_nil
  · obtain ⟨d, hd, rfl⟩ := List.mem_map.mp h
    have hdigit : d.isDigit = true := Nat.isDigit_of_mem_toDigits (by omega) (by omega) hd
    have hrange : 48 ≤ d.toNat ∧ d.toNat ≤ 57 := Char.isDigit_iff_toNat.mp hdigit
    right
    rw [UInt8.toNat_ofNat', Nat.mod_eq_of_lt (by omega)]
    exact hrange

/-- Areas of one size are compared as numbers in network byte order. -/
lemma osMemcmp_sign {as bs : List UInt8} (h : as.length = bs.length) :
    (osMemcmp as bs < 0 ↔ beNat as < beNat bs) ∧ (osMemcmp as bs = 0 ↔ beNat as = beNat bs) := by
  induction as generalizing bs with
  | nil =>
    obtain rfl := List.eq_nil_of_length_eq_zero h.symm
    simp [osMemcmp]
  | cons a as ih =>
    obtain ⟨b, bs, rfl⟩ := List.exists_cons_of_length_eq_add_one h.symm
    have hlength : as.length = bs.length := by simpa using h
    have ha := beNat_lt as
    have hb := beNat_lt bs
    rw [osMemcmp, beNat_cons, beNat_cons, hlength]
    rw [hlength] at ha
    rcases lt_trichotomy a.toNat b.toNat with hlt | heq | hgt
    · have hne : a ≠ b := fun h => hlt.ne (congrArg _ h)
      have hmul := Nat.mul_le_mul_right (256 ^ bs.length) (Nat.succ_le_of_lt hlt)
      rw [Nat.succ_mul] at hmul
      rw [if_neg hne]
      omega
    · obtain rfl := UInt8.toNat_inj.mp heq
      rw [if_pos rfl]
      obtain ⟨hneg, hzero⟩ := ih hlength
      omega
    · have hne : a ≠ b := fun h => hgt.ne (congrArg _ h.symm)
      have hmul := Nat.mul_le_mul_right (256 ^ bs.length) (Nat.succ_le_of_lt hgt)
      rw [Nat.succ_mul] at hmul
      rw [if_neg hne]
      omega

lemma osMemcmp_neg_iff {as bs : List UInt8} (h : as.length = bs.length) :
    osMemcmp as bs < 0 ↔ beNat as < beNat bs := (osMemcmp_sign h).1

lemma osMemcmp_eq_zero_iff {as bs : List UInt8} (h : as.length = bs.length) : osMemcmp as bs = 0 ↔ as = bs := by
  rw [(osMemcmp_sign h).2, beNat_inj h]

lemma incByteArrayLoop_concat (bs cs : List UInt8) (b : UInt8) :
    incByteArrayLoop (bs ++ b :: cs) (bs.length + 1) =
      if b + 1 ≠ 0 then bs ++ (b + 1) :: cs else incByteArrayLoop (bs ++ 0 :: cs) bs.length := by
  have hset : (bs ++ b :: cs).set bs.length ((bs ++ b :: cs).getD bs.length 0 + 1) =
      bs ++ (b + 1) :: cs := by simp
  have hget : (bs ++ (b + 1) :: cs).getD bs.length 0 = b + 1 := by simp
  rw [incByteArrayLoop, hset, hget]
  by_cases hzero : b + 1 = 0
  · simp [hzero]
  · simp [hzero]

/-- The bytes after the position are left alone. -/
lemma incByteArrayLoop_append (bs cs : List UInt8) :
    incByteArrayLoop (bs ++ cs) bs.length = incByteArray bs ++ cs := by
  induction bs using List.reverseRecOn generalizing cs with
  | nil => simp [incByteArray, incByteArrayLoop]
  | append_singleton bs b ih =>
    have hwhole := incByteArrayLoop_concat bs [] b
    rw [incByteArray, List.append_assoc, List.singleton_append, List.length_append,
      List.length_singleton, incByteArrayLoop_concat, hwhole]
    split
    · simp
    · rw [ih, ih, List.append_assoc, List.singleton_append]

/-- The bytes are those of the next number. -/
lemma incByteArray_beBytes (w n : ℕ) : incByteArray (beBytes w n) = beBytes w (n + 1) := by
  induction w generalizing n with
  | zero => rfl
  | succ w ih =>
    have hbyte : UInt8.ofNat n + 1 = UInt8.ofNat (n + 1) := by simp
    have hcarry : UInt8.ofNat (n + 1) = 0 ↔ (n + 1) % 256 = 0 := by
      rw [← UInt8.toNat_inj]
      simp
    have hlen : (beBytes w (n / 256) ++ [UInt8.ofNat n]).length = (beBytes w (n / 256)).length + 1 := by
      simp
    rw [beBytes_succ, incByteArray, hlen, incByteArrayLoop_concat, hbyte, beBytes_succ]
    split
    · rename_i hne
      have hdiv : (n + 1) / 256 = n / 256 := by
        have : (n + 1) % 256 ≠ 0 := fun h => hne (hcarry.mpr h)
        omega
      rw [hdiv]
    · rename_i hzero
      rw [not_not] at hzero
      have hdiv : (n + 1) / 256 = n / 256 + 1 := by
        have := hcarry.mp hzero
        omega
      rw [incByteArrayLoop_append, ih, hdiv, hzero]

/-- `inc_byte_array` adds one to the number that the bytes stand for. -/
lemma beNat_incByteArray (counter : List UInt8) :
    beNat (incByteArray counter) = (beNat counter + 1) % 256 ^ counter.length := by
  have h := incByteArray_beBytes counter.length (beNat counter)
  rw [beBytes_beNat] at h
  rw [h, beNat_beBytes]

@[simp] lemma length_incByteArray (counter : List UInt8) : (incByteArray counter).length = counter.length := by
  have h := incByteArray_beBytes counter.length (beNat counter)
  rw [beBytes_beNat] at h
  rw [h, length_beBytes]

/-- What `fgets` stores and what it leaves make up the file. -/
lemma fgets_append (n : ℕ) (f : List UInt8) : (fgets n f).1 ++ (fgets n f).2 = f := by
  induction n generalizing f with
  | zero => rfl
  | succ n ih =>
    cases f with
    | nil => rfl
    | cons c f =>
      unfold fgets
      split_ifs
      · rfl
      · simp [ih]

/-- Something is stored unless the file is at its end. -/
lemma fgets_ne_nil {n : ℕ} {f : List UInt8} (hf : f ≠ []) : (fgets (n + 1) f).1 ≠ [] := by
  cases f with
  | nil => exact absurd rfl hf
  | cons c f =>
    unfold fgets
    split_ifs <;> simp

/-- The loop reads the whole file if it may go on for as many rounds as the file has bytes. -/
lemma fgetsLoop_flatten {n fuel : ℕ} {f : List UInt8} (hfuel : f.length ≤ fuel) :
    (fgetsLoop (n + 1) fuel f).flatten = f := by
  induction fuel generalizing f with
  | zero =>
    obtain rfl := List.eq_nil_of_length_eq_zero (Nat.le_zero.mp hfuel)
    rfl
  | succ fuel ih =>
    cases f with
    | nil => rfl
    | cons c f =>
      have hne : (fgets (n + 1) (c :: f)).1 ≠ [] := fgets_ne_nil (List.cons_ne_nil c f)
      have happend := fgets_append (n + 1) (c :: f)
      have hlength := congrArg List.length happend
      rw [List.length_append] at hlength
      have hpos := List.length_pos_iff.mpr hne
      unfold fgetsLoop
      rw [List.flatten_cons, ih (by omega), happend]

end Ethanol
