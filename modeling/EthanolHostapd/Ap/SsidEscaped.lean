import EthanolHostapd.Utils.Common
import EthanolHostapd.Wire.Buffer

/-!
# SSIDs as text

`ssid_escaped` in `ap/global_var.c` writes an SSID, up to 32 arbitrary bytes, as a text.  Bytes that do not
print, backslashes, and spaces at the ends become `\x` and two digits.  What was written can be read off
the text (`unescape_escaped`).
-/

namespace Ethanol

/-- `SSID_MAX_LEN`. -/
def ssidMaxLen : ℕ := 32

/-- `SSID_SIZE`. -/
def ssidSize : ℕ := ssidMaxLen * 4 + 1

/-- The part of `struct hostapd_ssid` that holds the SSID, the first `ssid_len` bytes of an array. -/
structure HostapdSsid where
  ssid : List UInt8
  ssid_len_le : ssid.length ≤ ssidMaxLen

/-- `isprint`. -/
def isprint (c : UInt8) : Bool := 32 ≤ c && c ≤ 126

/-- A digit of `%.2x`. -/
def hexDigit (n : UInt8) : UInt8 := if n < 10 then 48 + n else 87 + n

/-- `sprintf(escaped, "\\x%.2x", b)`. -/
def escapedByte (b : UInt8) : List UInt8 := [92, 120, hexDigit (b / 16), hexDigit (b % 16)]

/-- What the loop of `ssid_escaped` writes for byte `i` of `len`. -/
def escapedAt (len i : ℕ) (b : UInt8) : List UInt8 :=
  if isprint b && b ≠ 32 && b ≠ 92 then [b]
  else if b = 32 ∧ i ≠ 0 ∧ i + 1 ≠ len then [32]
  else escapedByte b

/-- The loop of `ssid_escaped` from byte `i` on, with the next place `j` of the array. -/
def escapeLoop (len : ℕ) : ℕ → List UInt8 → ℕ → List UInt8 → Option (List UInt8)
  | _, [], _, ssid => some ssid
  | i, b :: data, j, ssid => do
    let ssid ← Buffer.write ssid j (escapedAt len i b)
    escapeLoop len (i + 1) data (j + (escapedAt len i b).length) ssid

/-- `ssid_escaped`.  A write behind the array and a text without its zero have no result. -/
def ssidEscaped (len : UInt8) (data : List UInt8) : Option Bytes := do
  let ssid ← escapeLoop len.toNat 0 (data.take len.toNat) 0 (List.replicate ssidSize 0)
  if 0 ∈ ssid then some (ssid.takeWhile (· ≠ 0)) else none

/-- `ssid_escaped` as it is called for an SSID: its length is given as an `uint8_t`. -/
def HostapdSsid.escaped (s : HostapdSsid) : Option Bytes := ssidEscaped (UInt8.ofNat s.ssid.length) s.ssid

/-! ## The text -/

/-- The text of the bytes from number `i` on. -/
def escapedFrom (len : ℕ) : ℕ → List UInt8 → List UInt8
  | _, [] => []
  | i, b :: data => escapedAt len i b ++ escapedFrom len (i + 1) data

/-- Reading a text back. -/
def unescape : List UInt8 → List UInt8
  | 92 :: 120 :: a :: b :: txt => ((hex2num a).getD 0 * 16 + (hex2num b).getD 0) :: unescape txt
  | c :: txt => c :: unescape txt
  | [] => []

lemma length_escapedAt_le (len i : ℕ) (b : UInt8) : (escapedAt len i b).length ≤ 4 := by
  unfold escapedAt escapedByte
  split_ifs
  · simp
  · simp
  · simp

lemma length_escapedFrom_le (len i : ℕ) (data : List UInt8) :
    (escapedFrom len i data).length ≤ 4 * data.length := by
  induction data generalizing i with
  | nil => simp [escapedFrom]
  | cons b data ih =>
    have hb := length_escapedAt_le len i b
    have hdata := ih (i + 1)
    rw [escapedFrom, List.length_append, List.length_cons]
    omega

/-- The two digits of a byte are no zero and read back as the byte. -/
lemma hexDigits_spec (b : UInt8) :
    (hexDigit (b / 16) ≠ 0 ∧ hexDigit (b % 16) ≠ 0) ∧
      (hex2num (hexDigit (b / 16))).getD 0 * 16 + (hex2num (hexDigit (b % 16))).getD 0 = b := by
  have hall : ∀ n : Fin 256, (hexDigit (UInt8.ofFin n / 16) ≠ 0 ∧ hexDigit (UInt8.ofFin n % 16) ≠ 0) ∧
      (hex2num (hexDigit (UInt8.ofFin n / 16))).getD 0 * 16 +
        (hex2num (hexDigit (UInt8.ofFin n % 16))).getD 0 = UInt8.ofFin n := by decide +kernel
  exact hall b.toFin

lemma zero_notMem_escapedAt (len i : ℕ) (b : UInt8) : 0 ∉ escapedAt len i b := by
  obtain ⟨⟨hhigh, hlow⟩, -⟩ := hexDigits_spec b
  unfold escapedAt escapedByte
  split_ifs with hprint
  · intro hmem
    obtain rfl := List.mem_singleton.mp hmem
    exact absurd hprint (by decide)
  · decide
  · simp [hhigh.symm, hlow.symm]

lemma zero_notMem_escapedFrom (len i : ℕ) (data : List UInt8) : 0 ∉ escapedFrom len i data := by
  induction data generalizing i with
  | nil => simp [escapedFrom]
  | cons b data ih =>
    rw [escapedFrom, List.mem_append]
    exact not_or.mpr ⟨zero_notMem_escapedAt len i b, ih (i + 1)⟩

/-- A byte that is not a backslash stands for itself. -/
lemma unescape_cons {c : UInt8} (hc : c ≠ 92) (txt : List UInt8) : unescape (c :: txt) = c :: unescape txt := by
  rw [unescape]
  rintro a b txt' rfl
  exact absurd rfl hc

lemma unescape_escapedAt (len i : ℕ) (b : UInt8) (txt : List UInt8) :
    unescape (escapedAt len i b ++ txt) = b :: unescape txt := by
  unfold escapedAt
  split_ifs with hprint hspace
  · have hne : b ≠ 92 := by
      rintro rfl
      exact absurd hprint (by decide)
    exact unescape_cons hne txt
  · rw [hspace.1]
    exact unescape_cons (by decide) txt
  · rw [escapedByte]
    change ((hex2num (hexDigit (b / 16))).getD 0 * 16 + (hex2num (hexDigit (b % 16))).getD 0) :: unescape txt = _
    rw [(hexDigits_spec b).2]

/-- The SSID can be read off its text. -/
lemma unescape_escapedFrom (len i : ℕ) (data : List UInt8) : unescape (escapedFrom len i data) = data := by
  induction data generalizing i with
  | nil => rfl
  | cons b data ih => rw [escapedFrom, unescape_escapedAt, ih]

/-! ## The array -/

/-- The loop appends the text to what the array holds before the zeros. -/
lemma escapeLoop_eq (len i : ℕ) (data done : List UInt8) {k : ℕ} (hk : (escapedFrom len i data).length ≤ k) :
    escapeLoop len i data done.length (done ++ List.replicate k 0) =
      some (done ++ escapedFrom len i data ++ List.replicate (k - (escapedFrom len i data).length) 0) := by
  induction data generalizing i done k with
  | nil => simp [escapeLoop, escapedFrom]
  | cons b data ih =>
    rw [escapedFrom, List.length_append] at hk
    have hwrite : Buffer.write (done ++ List.replicate k 0) done.length (escapedAt len i b) =
        some (done ++ escapedAt len i b ++ List.replicate (k - (escapedAt len i b).length) 0) := by
      rw [Buffer.write_eq_some (by simp; omega), Buffer.splice, List.take_left, List.drop_append,
        List.drop_eq_nil_of_le (by omega)]
      simp
    rw [escapeLoop, hwrite, Option.bind_eq_bind, Option.bind_some, ← List.length_append, ih _ _ (by omega),
      escapedFrom, List.length_append, Nat.sub_sub, List.append_assoc done]

/-- The array has room for the text of an SSID. -/
lemma escaped_eq (s : HostapdSsid) : s.escaped = some (escapedFrom s.ssid.length 0 s.ssid) := by
  have hle := s.ssid_len_le
  have hlength := length_escapedFrom_le s.ssid.length 0 s.ssid
  have hlen : (UInt8.ofNat s.ssid.length).toNat = s.ssid.length :=
    UInt8.toNat_ofNat_of_lt' (hle.trans_lt (by decide))
  have hroom : (escapedFrom s.ssid.length 0 s.ssid).length < ssidSize := by
    unfold ssidSize
    omega
  have hloop := escapeLoop_eq s.ssid.length 0 s.ssid [] hroom.le
  rw [List.length_nil, List.nil_append, List.nil_append] at hloop
  obtain ⟨k, hk⟩ : ∃ k, ssidSize - (escapedFrom s.ssid.length 0 s.ssid).length = k + 1 :=
    ⟨ssidSize - (escapedFrom s.ssid.length 0 s.ssid).length - 1, by omega⟩
  rw [hk, List.replicate_succ] at hloop
  have htext : ∀ c ∈ escapedFrom s.ssid.length 0 s.ssid, decide (c ≠ 0) = true := by
    intro c hc
    exact decide_eq_true fun hzero => zero_notMem_escapedFrom _ _ _ (hzero ▸ hc)
  rw [HostapdSsid.escaped, ssidEscaped, hlen, List.take_length, hloop, Option.bind_eq_bind, Option.bind_some,
    if_pos (by simp), List.takeWhile_append_of_pos htext]
  simp

/-- Two SSIDs with one text are equal. -/
lemma escaped_injective {s s' : HostapdSsid} (h : s.escaped = s'.escaped) : s = s' := by
  rw [escaped_eq, escaped_eq, Option.some_inj] at h
  have hssid := congrArg unescape h
  rw [unescape_escapedFrom, unescape_escapedFrom] at hssid
  cases s
  cases s'
  cases hssid
  rfl

end Ethanol
