import EthanolHostapd.Ap.SsidEscaped

/-!
# Bytes as text and back

`printf_encode` and `printf_decode` of `utils/common.c`.  The encoder writes a byte that does not print as `\x` and two
digits.  The decoder also knows `\x` with one digit and octal numbers of one to three digits, so it matters what follows an
escape.

A string is a list of bytes that ends at its first zero or at the end of the list.  There is no result if a byte outside a
buffer is written.
-/

namespace Ethanol

/-! ## The code -/

/-- What `printf_encode` makes of a byte. -/
def printfEncoded (b : UInt8) : Bytes :=
  if b = 34 then [92, 34]
  else if b = 92 then [92, 92]
  else if b = 27 then [92, 101]
  else if b = 10 then [92, 110]
  else if b = 13 then [92, 114]
  else if b = 9 then [92, 116]
  else if 32 ≤ b && b ≤ 126 then [b]
  else escapedByte b

/-- What is written for a byte; `os_snprintf` also writes a zero. -/
def printfWritten (b : UInt8) : Bytes :=
  if printfEncoded b = escapedByte b then escapedByte b ++ [0] else printfEncoded b

/-- The loop of `printf_encode`, with the place of `txt` in the buffer. -/
def printfEncodeLoop (maxlen : ℕ) : Bytes → ℕ → Bytes → Option (ℕ × Bytes)
  | [], txt, buf => some (txt, buf)
  | b :: data, txt, buf =>
    if maxlen ≤ txt + 4 then some (txt, buf)
    else do
      let buf ← Buffer.write buf txt (printfWritten b)
      printfEncodeLoop maxlen data (txt + (printfEncoded b).length) buf

/-- `printf_encode`. -/
def printfEncode (buf : Bytes) (maxlen : ℕ) (data : Bytes) : Option Bytes := do
  let (txt, buf) ← printfEncodeLoop maxlen data 0 buf
  Buffer.write buf txt [0]

/-- A second or third octal digit. -/
def printfDecodeOctal (val : UInt8) : Bytes → UInt8 × Bytes
  | d :: pos => if 48 ≤ d && d ≤ 55 then (val * 8 + (d - 48), pos) else (val, d :: pos)
  | [] => (val, [])

/-- The case `x` of `printf_decode`: two digits, or one, or none. -/
def printfDecodeHex (pos : Bytes) : Option UInt8 × Bytes :=
  match hex2byte pos with
  | some (val, pos) => (some val, pos)
  | none =>
    match pos with
    | [] => (none, [])
    | d :: rest => match hex2num d with
      | none => (none, d :: rest)
      | some val => (some val, rest)

/-- What `printf_decode` does after a backslash: the byte that is stored, if there is one, and the rest of the string. -/
def printfDecodeEscape : Bytes → Option UInt8 × Bytes
  | [] => (none, [])
  | c :: pos =>
    if c = 92 then (some 92, pos)
    else if c = 34 then (some 34, pos)
    else if c = 110 then (some 10, pos)
    else if c = 114 then (some 13, pos)
    else if c = 116 then (some 9, pos)
    else if c = 101 then (some 27, pos)
    else if c = 120 then printfDecodeHex pos
    else if 48 ≤ c && c ≤ 55 then
      let (val, pos) := printfDecodeOctal (c - 48) pos
      let (val, pos) := printfDecodeOctal val pos
      (some val, pos)
    else (none, c :: pos)

lemma length_hex2byte {pos rest : Bytes} {val : UInt8} (h : hex2byte pos = some (val, rest)) :
    rest.length ≤ pos.length := by
  match pos, h with
  | a :: b :: txt, h =>
    rw [hex2byte] at h
    obtain ⟨x, -, h⟩ := Option.bind_eq_some_iff.mp h
    obtain ⟨y, -, h⟩ := Option.bind_eq_some_iff.mp h
    obtain ⟨-, rfl⟩ := Prod.mk.inj (Option.some.inj h)
    simp only [List.length_cons]
    omega

lemma length_printfDecodeOctal (val : UInt8) (pos : Bytes) : (printfDecodeOctal val pos).2.length ≤ pos.length := by
  cases pos with
  | nil => exact le_rfl
  | cons d pos =>
    rw [printfDecodeOctal]
    split_ifs
    · exact Nat.le_succ _
    · exact le_rfl

lemma length_printfDecodeHex (pos : Bytes) : (printfDecodeHex pos).2.length ≤ pos.length := by
  unfold printfDecodeHex
  cases hpos : hex2byte pos with
  | some res => exact length_hex2byte hpos
  | none =>
    cases pos with
    | nil => exact le_rfl
    | cons d pos =>
      dsimp only
      cases hex2num d with
      | none => exact le_rfl
      | some val => exact Nat.le_succ _

/-- An escape does not lead back. -/
lemma length_printfDecodeEscape (pos : Bytes) : (printfDecodeEscape pos).2.length ≤ pos.length := by
  cases pos with
  | nil => exact le_rfl
  | cons c pos =>
    have hlt : pos.length ≤ (c :: pos).length := Nat.le_succ _
    rw [printfDecodeEscape]
    split_ifs
    all_goals first
      | exact hlt
      | exact (length_printfDecodeHex pos).trans hlt
      | exact ((length_printfDecodeOctal _ _).trans (length_printfDecodeOctal _ _)).trans hlt
      | exact le_rfl

/-- The loop of `printf_decode`. -/
def printfDecodeLoop (maxlen : ℕ) (pos : Bytes) (len : ℕ) (buf : Bytes) : Option (ℕ × Bytes) :=
  match pos with
  | [] => some (len, buf)
  | c :: pos =>
    if c = 0 then some (len, buf)
    else if maxlen ≤ len + 1 then some (len, buf)
    else if c = 92 then
      match (printfDecodeEscape pos).1 with
      | none => printfDecodeLoop maxlen (printfDecodeEscape pos).2 len buf
      | some val => (Buffer.write buf len [val]).bind fun buf =>
          printfDecodeLoop maxlen (printfDecodeEscape pos).2 (len + 1) buf
    else (Buffer.write buf len [c]).bind fun buf => printfDecodeLoop maxlen pos (len + 1) buf
termination_by pos.length
decreasing_by
  all_goals first
    | exact Nat.lt_succ_of_le (length_printfDecodeEscape _)
    | exact Nat.lt_succ_self _

/-- `printf_decode`, with the buffer that it leaves. -/
def printfDecode (buf : Bytes) (maxlen : ℕ) (str : Bytes) : Option (ℕ × Bytes) := do
  let (len, buf) ← printfDecodeLoop maxlen str 0 buf
  if len < maxlen then
    let buf ← Buffer.write buf len [0]
    return (len, buf)
  else return (len, buf)

/-! ## Encoding -/

/-- The text for some bytes. -/
def printfText (data : Bytes) : Bytes := data.flatMap printfEncoded

lemma printfText_cons (b : UInt8) (data : Bytes) : printfText (b :: data) = printfEncoded b ++ printfText data :=
  List.flatMap_cons

/-- A byte becomes at most four characters, all of which print. -/
lemma printfEncoded_spec (b : UInt8) :
    (printfEncoded b).length ≤ 4 ∧ ∀ c ∈ printfEncoded b, isprint c = true := by
  have hall : ∀ n : Fin 256, (printfEncoded (UInt8.ofFin n)).length ≤ 4 ∧
      (printfEncoded (UInt8.ofFin n)).all isprint = true := by decide +kernel
  obtain ⟨hlength, hprint⟩ := hall b.toFin
  exact ⟨hlength, List.all_eq_true.mp hprint⟩

lemma length_printfEncoded_le (b : UInt8) : (printfEncoded b).length ≤ 4 := (printfEncoded_spec b).1

lemma isprint_of_mem_printfText {data : Bytes} {c : UInt8} (h : c ∈ printfText data) : isprint c = true := by
  obtain ⟨b, -, hc⟩ := List.mem_flatMap.mp h
  exact (printfEncoded_spec b).2 c hc

lemma exists_printfWritten (b : UInt8) : ∃ t : Bytes, printfWritten b = printfEncoded b ++ t ∧ t.length ≤ 1 := by
  unfold printfWritten
  split_ifs with heq
  · exact ⟨[0], by rw [heq], le_rfl⟩
  · exact ⟨[], by rw [List.append_nil], Nat.zero_le _⟩

/-- The loop appends the text of the first bytes to what is there, and leaves room for the zero; if there is room for all
of them, it does not stop early. -/
lemma printfEncodeLoop_eq {maxlen : ℕ} (data : Bytes) {front rest : Bytes} (hlength : (front ++ rest).length = maxlen)
    (hfront : front.length < maxlen) :
    ∃ k rest', printfEncodeLoop maxlen data front.length (front ++ rest) =
        some ((front ++ printfText (data.take k)).length, (front ++ printfText (data.take k)) ++ rest') ∧
      ((front ++ printfText (data.take k)) ++ rest').length = maxlen ∧
      (front ++ printfText (data.take k)).length < maxlen ∧
      (front.length + 4 * data.length + 1 ≤ maxlen → k = data.length) := by
  induction data generalizing front rest with
  | nil => exact ⟨0, rest, by simp [printfEncodeLoop, printfText], by simpa [printfText] using hlength,
      by simpa [printfText] using hfront, fun _ => rfl⟩
  | cons b data ih =>
    by_cases hfull : maxlen ≤ front.length + 4
    · refine ⟨0, rest, ?_, by simpa [printfText] using hlength, by simpa [printfText] using hfront, fun hroom => ?_⟩
      · rw [printfEncodeLoop, if_pos hfull]
        simp [printfText]
      · rw [List.length_cons] at hroom
        omega
    · obtain ⟨t, hwritten, ht⟩ := exists_printfWritten b
      have hb := length_printfEncoded_le b
      rw [List.length_append] at hlength
      have hwrittenLength : (printfWritten b).length ≤ rest.length := by
        rw [hwritten, List.length_append]
        omega
      have hwrite : Buffer.write (front ++ rest) front.length (printfWritten b) =
          some ((front ++ printfEncoded b) ++ (t ++ rest.drop (printfWritten b).length)) := by
        rw [Buffer.write_front rfl hwrittenLength, hwritten]
        simp only [List.append_assoc]
      have hnext : ((front ++ printfEncoded b) ++ (t ++ rest.drop (printfWritten b).length)).length = maxlen := by
        rw [hwritten] at hwrittenLength ⊢
        simp only [List.length_append, List.length_drop] at hwrittenLength ⊢
        omega
      obtain ⟨k, rest', hloop, hlen, hlt, hall⟩ := ih hnext (by rw [List.length_append]; omega)
      refine ⟨k + 1, rest', ?_, ?_, ?_, fun hroom => ?_⟩
      · have hplace : front.length + (printfEncoded b).length = (front ++ printfEncoded b).length := List.length_append.symm
        rw [printfEncodeLoop, if_neg hfull, hwrite, Option.bind_eq_bind, Option.bind_some, hplace, hloop,
          List.take_succ_cons, printfText_cons, ← List.append_assoc front]
      · rw [List.take_succ_cons, printfText_cons, ← List.append_assoc front]
        exact hlen
      · rw [List.take_succ_cons, printfText_cons, ← List.append_assoc front]
        exact hlt
      · rw [List.length_cons] at hroom ⊢
        rw [hall (by rw [List.length_append]; omega)]

/-- `printf_encode` leaves the text of the first bytes, of all bytes if there is room. -/
lemma printfEncode_eq {buf : Bytes} (data : Bytes) (hbuf : 0 < buf.length) :
    ∃ k rest, printfEncode buf buf.length data = some (printfText (data.take k) ++ 0 :: rest) ∧
      (printfText (data.take k) ++ 0 :: rest).length = buf.length ∧
      (4 * data.length + 1 ≤ buf.length → k = data.length) := by
  obtain ⟨k, rest, hloop, hlength, hlt, hall⟩ := @printfEncodeLoop_eq buf.length data [] buf rfl hbuf
  simp only [List.nil_append] at hloop hlength hlt hall
  cases rest with
  | nil =>
    rw [List.append_nil] at hlength
    omega
  | cons c rest =>
    refine ⟨k, rest, ?_, ?_, fun hroom => hall (by rw [List.length_nil]; omega)⟩
    · rw [printfEncode, List.length_nil.symm, hloop, Option.bind_eq_bind, Option.bind_some]
      dsimp only
      rw [Buffer.write_one, ← List.append_cons]
    · rw [← hlength, List.length_append, List.length_append, List.length_cons, List.length_cons]

/-! ## Decoding -/

/-- The two digits of a byte are read as the byte. -/
lemma hex2byte_hexDigits (b : UInt8) (pos : Bytes) :
    hex2byte (hexDigit (b / 16) :: hexDigit (b % 16) :: pos) = some (b, pos) := by
  have hall : ∀ n : Fin 256, (hex2num (hexDigit (UInt8.ofFin n / 16)) = some (UInt8.ofFin n / 16) ∧
      hex2num (hexDigit (UInt8.ofFin n % 16)) = some (UInt8.ofFin n % 16)) ∧
      (UInt8.ofFin n / 16) <<< 4 ||| UInt8.ofFin n % 16 = UInt8.ofFin n := by decide +kernel
  have hb : (hex2num (hexDigit (b / 16)) = some (b / 16) ∧ hex2num (hexDigit (b % 16)) = some (b % 16)) ∧
      (b / 16) <<< 4 ||| b % 16 = b := hall b.toFin
  obtain ⟨⟨hhigh, hlow⟩, hsum⟩ := hb
  simp only [hex2byte, hhigh, hlow, hsum, Option.bind_eq_bind, Option.bind_some, Option.pure_def]

/-- An escape that stores a byte. -/
lemma printfDecodeLoop_escape {maxlen len : ℕ} {pos rest : Bytes} {val : UInt8} (hroom : len + 1 < maxlen)
    (hpos : printfDecodeEscape pos = (some val, rest)) (buf : Bytes) :
    printfDecodeLoop maxlen (92 :: pos) len buf =
      (Buffer.write buf len [val]).bind fun buf => printfDecodeLoop maxlen rest (len + 1) buf := by
  rw [printfDecodeLoop, if_neg (by decide), if_neg (by omega), if_pos rfl, hpos]

/-- What the encoder makes of a byte is decoded to the byte, whatever comes behind it. -/
lemma printfDecodeLoop_printfEncoded {maxlen len : ℕ} (hroom : len + 1 < maxlen) (b : UInt8) (pos buf : Bytes) :
    printfDecodeLoop maxlen (printfEncoded b ++ pos) len buf =
      (Buffer.write buf len [b]).bind fun buf => printfDecodeLoop maxlen pos (len + 1) buf := by
  unfold printfEncoded
  split_ifs with hquote hbackslash hesc hnl hcr htab hprint
  · subst hquote
    exact printfDecodeLoop_escape hroom rfl buf
  · subst hbackslash
    exact printfDecodeLoop_escape hroom rfl buf
  · subst hesc
    exact printfDecodeLoop_escape hroom rfl buf
  · subst hnl
    exact printfDecodeLoop_escape hroom rfl buf
  · subst hcr
    exact printfDecodeLoop_escape hroom rfl buf
  · subst htab
    exact printfDecodeLoop_escape hroom rfl buf
  · -- A byte that prints is no zero, and it is not the backslash.
    have hzero : b ≠ 0 := by
      rintro rfl
      exact absurd hprint (by decide)
    rw [List.singleton_append, printfDecodeLoop, if_neg hzero, if_neg (by omega), if_neg hbackslash]
  · refine printfDecodeLoop_escape hroom ?_ buf
    have hpos : ([120, hexDigit (b / 16), hexDigit (b % 16)].append pos : Bytes) =
        120 :: hexDigit (b / 16) :: hexDigit (b % 16) :: pos := rfl
    rw [hpos, printfDecodeEscape, if_neg (by decide), if_neg (by decide), if_neg (by decide), if_neg (by decide),
      if_neg (by decide), if_neg (by decide), if_pos rfl, printfDecodeHex, hex2byte_hexDigits]

/-- The loop reads a text back. -/
lemma printfDecodeLoop_printfText {maxlen : ℕ} (data : Bytes) {front rest : Bytes} (pos : Bytes)
    (hroom : front.length + data.length < maxlen) (hrest : data.length ≤ rest.length) :
    printfDecodeLoop maxlen (printfText data ++ pos) front.length (front ++ rest) =
      printfDecodeLoop maxlen pos (front ++ data).length ((front ++ data) ++ rest.drop data.length) := by
  induction data generalizing front rest with
  | nil => simp only [printfText, List.flatMap_nil, List.nil_append, List.append_nil, List.length_nil, List.drop_zero]
  | cons b data ih =>
    rw [List.length_cons] at hroom hrest
    cases rest with
    | nil => exact absurd hrest (by simp)
    | cons c rest =>
      have hplace : front.length + 1 = (front ++ [b]).length := by rw [List.length_append, List.length_singleton]
      rw [printfText_cons, List.append_assoc, printfDecodeLoop_printfEncoded (by omega), Buffer.write_one,
        Option.bind_some, hplace,
        ih (by rw [← hplace]; omega) (Nat.le_of_succ_le_succ hrest), List.append_assoc front, List.singleton_append,
        List.length_cons, List.drop_succ_cons]

/-- A string ends at a zero. -/
lemma printfDecodeLoop_zero (maxlen len : ℕ) (pos buf : Bytes) :
    printfDecodeLoop maxlen (0 :: pos) len buf = some (len, buf) := by
  rw [printfDecodeLoop, if_pos rfl]

/-- The loop stays inside the buffer and leaves room for the zero, whatever it reads. -/
lemma printfDecodeLoop_total {maxlen : ℕ} (pos : Bytes) {len : ℕ} {buf : Bytes} (hlen : len < maxlen)
    (hbuf : buf.length = maxlen) :
    ∃ len' buf', printfDecodeLoop maxlen pos len buf = some (len', buf') ∧ len' < maxlen ∧ buf'.length = maxlen := by
  induction hn : pos.length using Nat.strong_induction_on generalizing pos len buf with
  | _ n ih =>
    subst hn
    cases pos with
    | nil => exact ⟨len, buf, by rw [printfDecodeLoop], hlen, hbuf⟩
    | cons c pos =>
      have hescape : (printfDecodeEscape pos).2.length < (c :: pos).length :=
        Nat.lt_succ_of_le (length_printfDecodeEscape pos)
      have hstore (val : UInt8) : ∃ buf', Buffer.write buf len [val] = some buf' ∧ buf'.length = buf.length :=
        Buffer.exists_write (by rw [List.length_singleton, hbuf]; exact hlen)
      rw [printfDecodeLoop]
      split_ifs with hzero hfull hbackslash
      · exact ⟨len, buf, rfl, hlen, hbuf⟩
      · exact ⟨len, buf, rfl, hlen, hbuf⟩
      · cases hval : (printfDecodeEscape pos).1 with
        | none => exact ih _ hescape _ hlen hbuf rfl
        | some val =>
          obtain ⟨buf', hwrite, hlength⟩ := hstore val
          dsimp only
          rw [hwrite]
          exact ih _ hescape _ (by omega) (hlength.trans hbuf) rfl
      · obtain ⟨buf', hwrite, hlength⟩ := hstore c
        rw [hwrite]
        exact ih _ (Nat.lt_succ_self _) _ (by omega) (hlength.trans hbuf) rfl

/-- `printf_decode` leaves a string inside the buffer, whatever it reads. -/
lemma printfDecode_total (str : Bytes) {buf : Bytes} (hbuf : 0 < buf.length) :
    ∃ len res, printfDecode buf buf.length str = some (len, res) ∧ res.length = buf.length ∧ len < buf.length ∧
      res[len]? = some 0 := by
  obtain ⟨len, res, hloop, hlen, hlength⟩ := printfDecodeLoop_total str hbuf rfl
  have hfit : len + ([0] : Bytes).length ≤ res.length := by
    rw [List.length_singleton, hlength]
    exact hlen
  refine ⟨len, Buffer.splice res len [0], ?_, (Buffer.length_splice hfit).trans hlength, hlen, ?_⟩
  · rw [printfDecode, hloop, Option.bind_eq_bind, Option.bind_some]
    simp only [if_pos hlen, Buffer.write_eq_some hfit, Option.bind_eq_bind, Option.bind_some, Option.pure_def]
  · rw [Buffer.getElem?_splice hfit, if_pos (by rw [List.length_singleton]; omega), Nat.sub_self]
    rfl

/-- `printf_decode` of a text with a zero behind it. -/
lemma printfDecode_printfText (data rest : Bytes) {buf : Bytes} (hroom : data.length + 1 ≤ buf.length) :
    ∃ tail, printfDecode buf buf.length (printfText data ++ 0 :: rest) = some (data.length, data ++ tail) := by
  have hloop := @printfDecodeLoop_printfText buf.length data [] buf (0 :: rest)
    (by rw [List.length_nil, Nat.zero_add]; exact hroom) (Nat.le_of_succ_le hroom)
  rw [printfDecodeLoop_zero, List.nil_append, List.nil_append, List.length_nil] at hloop
  have hdrop : (buf.drop data.length).length = buf.length - data.length := List.length_drop
  cases hbehind : buf.drop data.length with
  | nil =>
    rw [hbehind, List.length_nil] at hdrop
    omega
  | cons c tail =>
    rw [hbehind] at hloop
    refine ⟨0 :: tail, ?_⟩
    rw [printfDecode, hloop, Option.bind_eq_bind, Option.bind_some]
    simp only [if_pos (Nat.lt_of_succ_le hroom)]
    rw [Buffer.write_one, ← List.append_cons]
    rfl

/-- What was encoded is decoded: with room for four characters a byte and a zero, the text of `data` is complete, and from
it the decoder gets `data`.  With any room for at least one byte, the encoder leaves a text whose characters print and the
decoder leaves some bytes, each with a zero behind it, and neither writes outside its buffer. -/
theorem printfDecode_printfEncode (data txt buf : Bytes) :
    (4 * data.length + 1 ≤ txt.length → data.length + 1 ≤ buf.length → ∃ str res,
      printfEncode txt txt.length data = some str ∧
      printfDecode buf buf.length str = some (data.length, res) ∧ res.take data.length = data) ∧
    (0 < txt.length → ∃ str rest, printfEncode txt txt.length data = some (str ++ 0 :: rest) ∧
      (str ++ 0 :: rest).length = txt.length ∧ ∀ c ∈ str, isprint c = true) ∧
    (0 < buf.length → ∀ str, ∃ len res, printfDecode buf buf.length str = some (len, res) ∧
      res.length = buf.length ∧ len < buf.length ∧ res[len]? = some 0) := by
  refine ⟨fun htxt hbuf => ?_, fun htxt => ?_, fun hbuf str => printfDecode_total str hbuf⟩
  · obtain ⟨k, rest, hencode, -, hall⟩ := printfEncode_eq data (Nat.lt_of_lt_of_le (Nat.succ_pos _) htxt)
    rw [hall htxt, List.take_length] at hencode
    obtain ⟨tail, hdecode⟩ := printfDecode_printfText data rest hbuf
    exact ⟨_, _, hencode, hdecode, List.take_left⟩
  · obtain ⟨k, rest, hencode, hlength, -⟩ := printfEncode_eq data htxt
    exact ⟨_, rest, hencode, hlength, fun c hc => isprint_of_mem_printfText hc⟩

/-- A byte that does not print before the characters of a digit. -/
theorem printfDecode_printfEncode_digits : ∃ str res,
    printfEncode (List.replicate 13 7) 13 [1, 48, 97] = some str ∧ printfDecode [7, 7, 7, 7] 4 str = some (3, res) ∧
      res.take 3 = [1, 48, 97] :=
  (printfDecode_printfEncode [1, 48, 97] (List.replicate 13 7) [7, 7, 7, 7]).1 (by decide) (by decide)

end Ethanol
