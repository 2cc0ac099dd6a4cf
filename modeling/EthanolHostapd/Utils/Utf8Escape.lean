import EthanolHostapd.Utils.Common
import EthanolHostapd.Wire.Buffer

/-!
# Escaped quotes

`utf8_escape` and `utf8_unescape` of `utils/common.c`.  A backslash goes before each backslash and each single quote.
Reading a text, a single quote in front is skipped and a later one without a backslash is the end.

Memory is a list of bytes, a null pointer is `none`.  There is no result if a byte outside the input is read or one outside
the output is written.
-/

namespace Ethanol

/-! ## The code -/

/-- `os_strlen`. -/
def osStrlen (inp : Bytes) : Option ℕ := if 0 ∈ inp then some (inp.takeWhile (· ≠ 0)).length else none

/-- The size of the input; a caller that gives zero means a string. -/
def utf8Size (inp : Bytes) (in_size : ℕ) : Option ℕ := if in_size = 0 then osStrlen inp else some in_size

/-- The zero behind the output, if there is space for it. -/
def utf8Terminate (out_size res_size : ℕ) (out : Bytes) : Option (ℕ × Bytes) :=
  if res_size < out_size then (Buffer.write out res_size [0]).map fun out => (res_size, out) else some (res_size, out)

/-- The loop of `utf8_unescape` and what comes behind it.  The output goes on at `res_size`. -/
def utf8UnescapeLoop (out_size : ℕ) : ℕ → Bytes → ℕ → Bytes → Option (ℕ × Bytes)
  | 0, _, res_size, out => utf8Terminate out_size res_size out
  | in_size + 1, inp, res_size, out =>
    if out_size ≤ res_size then some (0, out)
    else match inp with
      | [] => none
      | c :: inp =>
        if c = 39 then (Buffer.write out res_size [0]).map fun out => (res_size, out)
        else if c = 92 then
          match in_size, inp with
          | 0, _ => some (0, out)
          | _ + 1, [] => none
          | in_size + 1, c :: inp =>
            (Buffer.write out res_size [c]).bind (utf8UnescapeLoop out_size in_size inp (res_size + 1))
        else (Buffer.write out res_size [c]).bind (utf8UnescapeLoop out_size in_size inp (res_size + 1))

/-- `utf8_unescape`: the value that it returns and the output. -/
def utf8Unescape (inp : Option Bytes) (in_size : ℕ) (outp : Option Bytes) (out_size : ℕ) : Option (ℕ × Option Bytes) :=
  match inp, outp with
  | some inp, some out => do
    let in_size ← utf8Size inp in_size
    let c ← inp.head?
    let skip := if c = 39 ∧ in_size ≠ 0 then 1 else 0
    let (res_size, out) ← utf8UnescapeLoop out_size (in_size - skip) (inp.drop skip) 0 out
    return (res_size, some out)
  | _, outp => some (0, outp)

/-- The loop of `utf8_escape` and what comes behind it. -/
def utf8EscapeLoop (out_size : ℕ) : ℕ → Bytes → ℕ → Bytes → Option (ℕ × Bytes)
  | 0, _, res_size, out => utf8Terminate out_size res_size out
  | in_size + 1, inp, res_size, out =>
    if out_size ≤ res_size then some (0, out)
    else match inp with
      | [] => none
      | c :: inp =>
        if c = 92 ∨ c = 39 then
          if out_size ≤ res_size + 1 then some (0, out)
          else do
            let out ← Buffer.write out res_size [92]
            let out ← Buffer.write out (res_size + 1) [c]
            utf8EscapeLoop out_size in_size inp (res_size + 2) out
        else (Buffer.write out res_size [c]).bind (utf8EscapeLoop out_size in_size inp (res_size + 1))

/-- `utf8_escape`: the value that it returns and the output. -/
def utf8Escape (inp : Option Bytes) (in_size : ℕ) (outp : Option Bytes) (out_size : ℕ) : Option (ℕ × Option Bytes) :=
  match inp, outp with
  | some inp, some out => do
    let in_size ← utf8Size inp in_size
    let (res_size, out) ← utf8EscapeLoop out_size in_size inp 0 out
    return (res_size, some out)
  | _, outp => some (0, outp)

/-! ## Texts -/

/-- The text for some bytes. -/
def utf8Escaped : Bytes → Bytes
  | [] => []
  | c :: data => (if c = 92 ∨ c = 39 then [92, c] else [c]) ++ utf8Escaped data

/-- The bytes of a text, which may not end with a backslash. -/
def utf8Unescaped : Bytes → Option Bytes
  | [] => some []
  | c :: txt =>
    if c = 39 then some []
    else if c = 92 then
      match txt with
      | [] => none
      | c :: txt => (utf8Unescaped txt).map (c :: ·)
    else (utf8Unescaped txt).map (c :: ·)

/-- What `utf8_unescape` reads of a text. -/
def utf8Unquoted : Bytes → Bytes
  | [] => []
  | c :: txt => if c = 39 then txt else c :: txt

/-- What a call reads: as many bytes as the caller says, or, if the caller does not say, a string. -/
def Utf8Reads (inp : Bytes) (in_size : ℕ) (data : Bytes) : Prop :=
  (in_size ≠ 0 ∧ in_size = data.length ∧ ∃ more, inp = data ++ more) ∨
    (in_size = 0 ∧ 0 ∉ data ∧ ∃ more, inp = data ++ 0 :: more)

/-- What is behind the output in its buffer, with a zero at the front if there is space. -/
def utf8Behind : Bytes → Bytes
  | [] => []
  | _ :: rest => 0 :: rest

section Loops

variable {front rest : Bytes} {out_size : ℕ}

lemma length_utf8Behind (rest : Bytes) : (utf8Behind rest).length = rest.length := by
  cases rest with
  | nil => rfl
  | cons c rest => rfl

lemma utf8Terminate_eq (hsize : (front ++ rest).length = out_size) :
    utf8Terminate out_size front.length (front ++ rest) = some (front.length, front ++ utf8Behind rest) := by
  rw [List.length_append] at hsize
  unfold utf8Terminate
  cases rest with
  | nil => rw [if_neg (by rw [List.length_nil] at hsize; omega), utf8Behind]
  | cons c rest =>
    rw [List.length_cons] at hsize
    rw [if_pos (by omega), Buffer.write_one, Option.map_some, ← List.append_cons, utf8Behind]

lemma length_snoc (c : UInt8) : front.length + 1 = (front ++ [c]).length := by
  rw [List.length_append, List.length_singleton]

lemma length_snoc_append (c x : UInt8) : ((front ++ [c]) ++ rest).length = (front ++ x :: rest).length := by
  simp only [List.length_append, List.length_cons, List.length_nil]
  omega

lemma lt_of_length {x : UInt8} (hsize : (front ++ x :: rest).length = out_size) : front.length < out_size := by
  rw [List.length_append, List.length_cons] at hsize
  omega

/-! ## Escaping -/

lemma utf8Escaped_special {c : UInt8} (hc : c = 92 ∨ c = 39) (data : Bytes) :
    utf8Escaped (c :: data) = 92 :: c :: utf8Escaped data := by
  rw [utf8Escaped, if_pos hc, List.cons_append, List.singleton_append]

lemma utf8Escaped_plain {c : UInt8} (hc : ¬(c = 92 ∨ c = 39)) (data : Bytes) :
    utf8Escaped (c :: data) = c :: utf8Escaped data := by
  rw [utf8Escaped, if_neg hc, List.singleton_append]

/-- The loop writes the whole text, if there is space. -/
lemma utf8EscapeLoop_eq (data more : Bytes) (hsize : (front ++ rest).length = out_size)
    (hroom : (utf8Escaped data).length ≤ rest.length) :
    utf8EscapeLoop out_size data.length (data ++ more) front.length (front ++ rest) =
      some ((front ++ utf8Escaped data).length,
        (front ++ utf8Escaped data) ++ utf8Behind (rest.drop (utf8Escaped data).length)) := by
  induction data generalizing front rest with
  | nil =>
    rw [List.length_nil, utf8EscapeLoop, utf8Terminate_eq hsize, utf8Escaped, List.append_nil, List.length_nil,
      List.drop_zero]
  | cons c data ih =>
    rw [List.length_append] at hsize
    rw [List.length_cons, List.cons_append, utf8EscapeLoop]
    by_cases hc : c = 92 ∨ c = 39
    · rw [utf8Escaped_special hc] at hroom ⊢
      match rest, hroom with
      | x :: y :: rest, hroom =>
        simp only [List.length_cons] at hsize hroom
        have htext : front ++ 92 :: c :: utf8Escaped data = (front ++ [92] ++ [c]) ++ utf8Escaped data := by
          simp only [List.append_assoc, List.cons_append, List.nil_append]
        have hplace : front.length + 2 = (front ++ [92] ++ [c]).length := by rw [← length_snoc, ← length_snoc]
        rw [if_neg (by omega), if_pos hc, if_neg (by omega), Buffer.write_one, Option.bind_eq_bind, Option.bind_some,
          length_snoc 92,
          Buffer.write_one, Option.bind_some, hplace,
          ih (by rw [List.length_append, ← hplace]; omega) (by omega), htext, List.length_cons, List.length_cons,
          List.drop_succ_cons, List.drop_succ_cons]
    · rw [utf8Escaped_plain hc] at hroom ⊢
      match rest, hroom with
      | x :: rest, hroom =>
        simp only [List.length_cons] at hsize hroom
        rw [if_neg (by omega), if_neg hc, Buffer.write_one, Option.bind_some, length_snoc c,
          ih (by rw [List.length_append, ← length_snoc]; omega) (by omega), List.append_assoc front,
          List.singleton_append,
          List.length_cons, List.drop_succ_cons]

/-- The loop returns zero if there is no space for the text, and it writes nothing outside the buffer. -/
lemma utf8EscapeLoop_full (data more : Bytes) (hsize : (front ++ rest).length = out_size)
    (hroom : rest.length < (utf8Escaped data).length) :
    ∃ out, utf8EscapeLoop out_size data.length (data ++ more) front.length (front ++ rest) = some (0, out) ∧
      out.length = out_size := by
  induction data generalizing front rest with
  | nil => exact absurd hroom (Nat.not_lt_zero _)
  | cons c data ih =>
    have hlength := hsize
    rw [List.length_append] at hsize
    rw [List.length_cons, List.cons_append, utf8EscapeLoop]
    by_cases hc : c = 92 ∨ c = 39
    · rw [utf8Escaped_special hc] at hroom
      match rest, hroom with
      | [], _ =>
        rw [List.length_nil] at hsize
        exact ⟨front ++ [], if_pos (by omega), hlength⟩
      | [x], _ =>
        rw [List.length_singleton] at hsize
        exact ⟨front ++ [x], by rw [if_neg (by omega), if_pos hc, if_pos (by omega)], hlength⟩
      | x :: y :: rest, hroom =>
        simp only [List.length_cons] at hsize hroom
        have hplace : front.length + 2 = (front ++ [92] ++ [c]).length := by rw [← length_snoc, ← length_snoc]
        rw [if_neg (by omega), if_pos hc, if_neg (by omega), Buffer.write_one, Option.bind_eq_bind, Option.bind_some,
          length_snoc 92,
          Buffer.write_one, Option.bind_some, hplace]
        exact ih (by rw [List.length_append, ← hplace]; omega) (by omega)
    · rw [utf8Escaped_plain hc] at hroom
      match rest, hroom with
      | [], _ =>
        rw [List.length_nil] at hsize
        exact ⟨front ++ [], if_pos (by omega), hlength⟩
      | x :: rest, hroom =>
        simp only [List.length_cons] at hsize hroom
        rw [if_neg (by omega), if_neg hc, Buffer.write_one, Option.bind_some, length_snoc c]
        exact ih (by rw [List.length_append, ← length_snoc]; omega) (by omega)

/-! ## Reading a text -/

section Characters

variable {c : UInt8} {in_size res_size : ℕ} {inp out : Bytes}

/-- A character that stands for itself. -/
lemma utf8UnescapeLoop_plain (hc : ¬(c = 92 ∨ c = 39)) (hres : res_size < out_size) :
    utf8UnescapeLoop out_size (in_size + 1) (c :: inp) res_size out =
      (Buffer.write out res_size [c]).bind (utf8UnescapeLoop out_size in_size inp (res_size + 1)) := by
  rw [utf8UnescapeLoop.eq_def]
  dsimp only
  rw [if_neg (Nat.not_le.mpr hres), if_neg (fun h => hc (Or.inr h)), if_neg (fun h => hc (Or.inl h))]

/-- A character behind a backslash. -/
lemma utf8UnescapeLoop_escape (hres : res_size < out_size) :
    utf8UnescapeLoop out_size (in_size + 2) (92 :: c :: inp) res_size out =
      (Buffer.write out res_size [c]).bind (utf8UnescapeLoop out_size in_size inp (res_size + 1)) := by
  rw [utf8UnescapeLoop, if_neg (Nat.not_le.mpr hres), if_neg (by decide), if_pos rfl]

end Characters

/-- The loop reads back what was escaped, if there is space for it. -/
lemma utf8UnescapeLoop_escaped (data more : Bytes) (hsize : (front ++ rest).length = out_size)
    (hroom : data.length ≤ rest.length) :
    utf8UnescapeLoop out_size (utf8Escaped data).length (utf8Escaped data ++ more) front.length (front ++ rest) =
      some ((front ++ data).length, (front ++ data) ++ utf8Behind (rest.drop data.length)) := by
  induction data generalizing front rest with
  | nil =>
    rw [utf8Escaped, List.length_nil, utf8UnescapeLoop, utf8Terminate_eq hsize, List.append_nil, List.drop_zero]
  | cons c data ih =>
    rw [List.length_append] at hsize
    match rest, hroom with
    | x :: rest, hroom =>
      simp only [List.length_cons] at hsize hroom
      have hbytes : front ++ c :: data = (front ++ [c]) ++ data := by rw [List.append_assoc, List.singleton_append]
      have hnext := ih (show ((front ++ [c]) ++ rest).length = out_size by rw [List.length_append, ← length_snoc]; omega)
        (Nat.le_of_succ_le_succ hroom)
      rw [hbytes, List.length_cons, List.drop_succ_cons, ← hnext, ← length_snoc]
      by_cases hc : c = 92 ∨ c = 39
      · rw [utf8Escaped_special hc, List.length_cons, List.length_cons, List.cons_append, List.cons_append,
          utf8UnescapeLoop_escape (by omega), Buffer.write_one, Option.bind_some]
      · rw [utf8Escaped_plain hc, List.length_cons, List.cons_append, utf8UnescapeLoop_plain hc (by omega),
          Buffer.write_one,
          Option.bind_some]

/-- What the loop may do: it returns the number of bytes of the text, or zero if there is no space for the bytes and a zero
behind them or if the text ends with a backslash. -/
def Utf8Reading (out_size : ℕ) (txt front rest : Bytes) (result : Option (ℕ × Bytes)) : Prop :=
  ∃ res_size out, result = some (res_size, out) ∧ out.length = out_size ∧
    ((∃ t, utf8Unescaped txt = some t ∧ res_size = (front ++ t).length ∧ out.take res_size = front ++ t) ∨
      (res_size = 0 ∧ ∀ t, utf8Unescaped txt = some t → rest.length ≤ t.length))

/-- A byte that is written is the first one of what the rest of the text gives. -/
lemma Utf8Reading.cons {txt txt' : Bytes} {c x : UInt8} {result : Option (ℕ × Bytes)}
    (h : Utf8Reading out_size txt (front ++ [c]) rest result)
    (htxt : utf8Unescaped txt' = (utf8Unescaped txt).map (c :: ·)) :
    Utf8Reading out_size txt' front (x :: rest) result := by
  obtain ⟨res_size, out, hresult, hlength, ⟨t, ht, hres, htake⟩ | ⟨hzero, hfull⟩⟩ := h
  · have hbytes : (front ++ [c]) ++ t = front ++ c :: t := by rw [List.append_assoc, List.singleton_append]
    exact ⟨res_size, out, hresult, hlength, Or.inl ⟨c :: t, by rw [htxt, ht, Option.map_some], hbytes ▸ hres,
      hbytes ▸ htake⟩⟩
  · refine ⟨res_size, out, hresult, hlength, Or.inr ⟨hzero, fun t ht => ?_⟩⟩
    obtain ⟨t', ht', rfl⟩ := Option.map_eq_some_iff.mp (htxt ▸ ht)
    exact Nat.succ_le_succ (hfull t' ht')

/-- The loop returns zero where it finds no space. -/
lemma Utf8Reading.full {in_size : ℕ} {inp txt : Bytes} (hsize : (front ++ []).length = out_size) :
    Utf8Reading out_size txt front [] (utf8UnescapeLoop out_size (in_size + 1) inp front.length (front ++ [])) := by
  refine ⟨0, front ++ [], ?_, hsize, Or.inr ⟨rfl, fun t _ => Nat.zero_le _⟩⟩
  rw [List.append_nil] at hsize
  rw [utf8UnescapeLoop.eq_def]
  dsimp only
  rw [if_pos (Nat.le_of_eq hsize.symm)]

/-- The loop never writes outside the buffer, and it returns zero or the number of bytes of the text. -/
lemma utf8UnescapeLoop_total (txt more : Bytes) (hsize : (front ++ rest).length = out_size) :
    Utf8Reading out_size txt front rest
      (utf8UnescapeLoop out_size txt.length (txt ++ more) front.length (front ++ rest)) := by
  induction txt using utf8Unescaped.induct generalizing front rest with
  | case1 =>
    refine ⟨_, _, utf8Terminate_eq hsize, ?_, Or.inl ⟨[], rfl, ?_, ?_⟩⟩
    · rw [List.length_append, length_utf8Behind, ← hsize, List.length_append]
    · rw [List.append_nil]
    · rw [List.append_nil, List.take_left]
  | case2 txt =>
    cases rest with
    | nil => exact Utf8Reading.full hsize
    | cons x rest =>
      have hroom := lt_of_length hsize
      refine ⟨front.length, (front ++ [0]) ++ rest, ?_, ?_, Or.inl ⟨[], ?_, ?_, ?_⟩⟩
      · rw [List.length_cons, List.cons_append, utf8UnescapeLoop.eq_def]
        dsimp only
        rw [if_neg (Nat.not_le.mpr hroom), if_pos rfl, Buffer.write_one, Option.map_some]
      · exact (length_snoc_append 0 x).trans hsize
      · rw [utf8Unescaped.eq_def]
        exact if_pos rfl
      · rw [List.append_nil]
      · rw [List.append_nil, List.append_assoc, List.take_left]
  | case3 hne =>
    cases rest with
    | nil => exact Utf8Reading.full hsize
    | cons x rest =>
      have hroom := lt_of_length hsize
      refine ⟨0, front ++ x :: rest, ?_, hsize, Or.inr ⟨rfl, fun t ht => ?_⟩⟩
      · rw [List.length_singleton, List.singleton_append, utf8UnescapeLoop, if_neg (Nat.not_le.mpr hroom), if_neg hne,
          if_pos rfl]
      · rw [utf8Unescaped, if_neg hne, if_pos rfl] at ht
        cases ht
  | case4 c txt hne ih =>
    cases rest with
    | nil => exact Utf8Reading.full hsize
    | cons x rest =>
      have hroom := lt_of_length hsize
      have hnext := ih ((length_snoc_append c x).trans hsize)
      rw [List.length_cons, List.length_cons, List.cons_append, List.cons_append, utf8UnescapeLoop_escape hroom,
        Buffer.write_one,
        Option.bind_some, length_snoc c]
      exact hnext.cons (by rw [utf8Unescaped, if_neg hne, if_pos rfl])
  | case5 c txt hquote hbackslash ih =>
    cases rest with
    | nil => exact Utf8Reading.full hsize
    | cons x rest =>
      have hroom := lt_of_length hsize
      have hnext := ih ((length_snoc_append c x).trans hsize)
      rw [List.length_cons, List.cons_append, utf8UnescapeLoop_plain (not_or.mpr ⟨hbackslash, hquote⟩) hroom,
        Buffer.write_one,
        Option.bind_some, length_snoc c]
      refine hnext.cons ?_
      rw [utf8Unescaped.eq_def]
      dsimp only
      rw [if_neg hquote, if_neg hbackslash]

end Loops

/-! ## Calls -/

section Calls

variable {inp data out : Bytes} {in_size out_size : ℕ}

/-- The size that the loops start with is the number of the bytes that are read. -/
lemma Utf8Reads.size (h : Utf8Reads inp in_size data) : utf8Size inp in_size = some data.length := by
  unfold utf8Size
  obtain ⟨hne, hsize, -⟩ | ⟨hzero, hdata, more, rfl⟩ := h
  · rw [if_neg hne, hsize]
  · have hmem : (0 : UInt8) ∈ data ++ 0 :: more := List.mem_append_right _ List.mem_cons_self
    have hall : ∀ c ∈ data, decide (c ≠ 0) = true := fun c hc => decide_eq_true fun hc0 => hdata (hc0 ▸ hc)
    rw [if_pos hzero, osStrlen, if_pos hmem, List.takeWhile_append_of_pos hall, List.takeWhile_cons_of_neg (by decide),
      List.append_nil]

lemma Utf8Reads.exists_more (h : Utf8Reads inp in_size data) : ∃ more, inp = data ++ more := by
  obtain ⟨-, -, more, hinp⟩ | ⟨-, -, more, hinp⟩ := h
  · exact ⟨more, hinp⟩
  · exact ⟨_, hinp⟩

/-- There is a byte to look at, and if nothing is read it is the zero. -/
lemma Utf8Reads.head (h : Utf8Reads inp in_size data) : inp.head? = some (data.headD 0) := by
  obtain ⟨hne, hsize, more, rfl⟩ | ⟨-, -, more, rfl⟩ := h
  · cases data with
    | nil => exact absurd hsize hne
    | cons c data => rfl
  · cases data with
    | nil => rfl
    | cons c data => rfl

lemma utf8Escape_eq (h : Utf8Reads inp in_size data) (out : Bytes) (out_size : ℕ) :
    utf8Escape (some inp) in_size (some out) out_size =
      (utf8EscapeLoop out_size data.length inp 0 out).map fun result => (result.1, some result.2) := by
  unfold utf8Escape
  dsimp only
  rw [h.size, Option.bind_eq_bind, Option.bind_some]
  cases utf8EscapeLoop out_size data.length inp 0 out with
  | none => rfl
  | some result => rfl

/-- A quote in front is skipped. -/
lemma utf8Unescape_eq (h : Utf8Reads inp in_size data) (out : Bytes) (out_size : ℕ) :
    ∃ more, utf8Unescape (some inp) in_size (some out) out_size =
      (utf8UnescapeLoop out_size (utf8Unquoted data).length (utf8Unquoted data ++ more) 0 out).map
        fun result => (result.1, some result.2) := by
  obtain ⟨more, hinp⟩ := h.exists_more
  refine ⟨more, ?_⟩
  have hskip : utf8UnescapeLoop out_size (data.length - if data.headD 0 = 39 ∧ data.length ≠ 0 then 1 else 0)
      (inp.drop (if data.headD 0 = 39 ∧ data.length ≠ 0 then 1 else 0)) 0 out =
      utf8UnescapeLoop out_size (utf8Unquoted data).length (utf8Unquoted data ++ more) 0 out := by
    subst hinp
    cases data with
    | nil =>
      rw [if_neg (fun hquote => hquote.2 rfl), utf8Unquoted]
      rfl
    | cons c data =>
      rw [utf8Unquoted, List.headD_cons]
      by_cases hquote : c = 39
      · rw [if_pos ⟨hquote, Nat.succ_ne_zero _⟩, if_pos hquote]
        rfl
      · rw [if_neg (fun h => hquote h.1), if_neg hquote]
        rfl
  unfold utf8Unescape
  dsimp only
  rw [h.size, h.head, Option.bind_eq_bind, Option.bind_some, Option.bind_eq_bind, Option.bind_some, hskip]
  cases utf8UnescapeLoop out_size (utf8Unquoted data).length (utf8Unquoted data ++ more) 0 out with
  | none => rfl
  | some result => rfl

/-- `utf8_escape` returns the length of the text if there is space for it, and zero otherwise. -/
lemma utf8Escape_total (h : Utf8Reads inp in_size data) (out : Bytes) :
    ∃ res_size out', utf8Escape (some inp) in_size (some out) out.length = some (res_size, some out') ∧
      out'.length = out.length ∧
      ((res_size = (utf8Escaped data).length ∧ out'.take res_size = utf8Escaped data) ∨
        (res_size = 0 ∧ out.length < (utf8Escaped data).length)) := by
  rw [utf8Escape_eq h]
  obtain ⟨more, rfl⟩ := h.exists_more
  by_cases hroom : (utf8Escaped data).length ≤ out.length
  · have hloop := @utf8EscapeLoop_eq [] out out.length data more rfl hroom
    rw [List.length_nil, List.nil_append, List.nil_append] at hloop
    refine ⟨_, _, by rw [hloop, Option.map_some], ?_, Or.inl ⟨rfl, List.take_left⟩⟩
    rw [List.length_append, length_utf8Behind, List.length_drop]
    omega
  · obtain ⟨out', hloop, hlength⟩ := @utf8EscapeLoop_full [] out out.length data more rfl (Nat.not_le.mp hroom)
    rw [List.length_nil, List.nil_append] at hloop
    exact ⟨0, out', by rw [hloop, Option.map_some], hlength, Or.inr ⟨rfl, Nat.not_le.mp hroom⟩⟩

/-- `utf8_unescape` returns the number of bytes of the text or zero. -/
lemma utf8Unescape_total (h : Utf8Reads inp in_size data) (out : Bytes) :
    ∃ res_size out', utf8Unescape (some inp) in_size (some out) out.length = some (res_size, some out') ∧
      out'.length = out.length ∧
      ((∃ t, utf8Unescaped (utf8Unquoted data) = some t ∧ res_size = t.length ∧ out'.take res_size = t) ∨
        (res_size = 0 ∧ ∀ t, utf8Unescaped (utf8Unquoted data) = some t → out.length ≤ t.length)) := by
  obtain ⟨more, hcall⟩ := utf8Unescape_eq h out out.length
  obtain ⟨res_size, out', hloop, hlength, hres⟩ := @utf8UnescapeLoop_total [] out out.length (utf8Unquoted data) more rfl
  rw [List.length_nil, List.nil_append] at hloop
  simp only [List.nil_append] at hres
  exact ⟨res_size, out', by rw [hcall, hloop, Option.map_some], hlength, hres⟩

end Calls

lemma length_le_utf8Escaped (data : Bytes) : data.length ≤ (utf8Escaped data).length := by
  induction data with
  | nil => exact le_rfl
  | cons c data ih =>
    by_cases hc : c = 92 ∨ c = 39
    · rw [utf8Escaped_special hc, List.length_cons, List.length_cons, List.length_cons]
      omega
    · rw [utf8Escaped_plain hc]
      exact Nat.succ_le_succ ih

/-- A text does not start with a quote. -/
lemma utf8Unquoted_escaped (data : Bytes) : utf8Unquoted (utf8Escaped data) = utf8Escaped data := by
  cases data with
  | nil => rfl
  | cons c data =>
    by_cases hc : c = 92 ∨ c = 39
    · rw [utf8Escaped_special hc]
      rfl
    · rw [utf8Escaped_plain hc, utf8Unquoted, if_neg fun h => hc (Or.inr h)]

/-- What was escaped is read back. -/
lemma utf8Unescape_escaped {data : Bytes} (hdata : data ≠ []) (more : Bytes) {back : Bytes}
    (hroom : data.length ≤ back.length) :
    ∃ rest, utf8Unescape (some (utf8Escaped data ++ more)) (utf8Escaped data).length (some back) back.length =
      some (data.length, some (data ++ rest)) := by
  have hpos := (List.length_pos_iff.mpr hdata).trans_le (length_le_utf8Escaped data)
  have hreads : Utf8Reads (utf8Escaped data ++ more) (utf8Escaped data).length (utf8Escaped data) :=
    Or.inl ⟨Nat.ne_of_gt hpos, rfl, more, rfl⟩
  obtain ⟨more', hcall⟩ := utf8Unescape_eq hreads back back.length
  have hloop := @utf8UnescapeLoop_escaped [] back back.length data more' rfl hroom
  rw [List.length_nil, List.nil_append, List.nil_append] at hloop
  exact ⟨_, by rw [hcall, utf8Unquoted_escaped, hloop, Option.map_some]⟩

/-- Some bytes that are escaped and read back are the same bytes,
if the size is given and the results fit.  Whatever is read,
neither function writes outside its buffer: the result is the number of bytes that were to be written, which are there, or it is
zero, as it is without input or output. -/
theorem utf8Unescape_utf8Escape (s more out back : Bytes) :
    (s ≠ [] → (utf8Escaped s).length ≤ out.length → s.length ≤ back.length → ∃ n out' back',
      utf8Escape (some (s ++ more)) s.length (some out) out.length = some (n, some out') ∧
      utf8Unescape (some out') n (some back) back.length = some (s.length, some back') ∧ back'.take s.length = s) ∧
    (∀ inp in_size data, Utf8Reads inp in_size data →
      (∃ n out', utf8Escape (some inp) in_size (some out) out.length = some (n, some out') ∧ out'.length = out.length ∧
        ((n = (utf8Escaped data).length ∧ out'.take n = utf8Escaped data) ∨
          (n = 0 ∧ out.length < (utf8Escaped data).length))) ∧
      (∃ n out', utf8Unescape (some inp) in_size (some out) out.length = some (n, some out') ∧ out'.length = out.length ∧
        ((∃ t, utf8Unescaped (utf8Unquoted data) = some t ∧ n = t.length ∧ out'.take n = t) ∨
          (n = 0 ∧ ∀ t, utf8Unescaped (utf8Unquoted data) = some t → out.length ≤ t.length)))) ∧
    (∀ inp in_size outp out_size, inp = none ∨ outp = none →
      utf8Escape inp in_size outp out_size = some (0, outp) ∧ utf8Unescape inp in_size outp out_size = some (0, outp)) := by
  refine ⟨fun hs hout hback => ?_, fun inp in_size data hreads => ⟨utf8Escape_total hreads out,
    utf8Unescape_total hreads out⟩,
    fun inp in_size outp out_size hnull => ?_⟩
  · have hreads : Utf8Reads (s ++ more) s.length s :=
      Or.inl ⟨Nat.ne_of_gt (List.length_pos_iff.mpr hs), rfl, more, rfl⟩
    have hloop := @utf8EscapeLoop_eq [] out out.length s more rfl hout
    rw [List.length_nil, List.nil_append, List.nil_append] at hloop
    obtain ⟨rest, hback⟩ := utf8Unescape_escaped hs (utf8Behind (out.drop (utf8Escaped s).length)) hback
    exact ⟨_, _, _, by rw [utf8Escape_eq hreads, hloop, Option.map_some], hback, List.take_left⟩
  · cases inp with
    | none => exact ⟨rfl, rfl⟩
    | some inp =>
      obtain rfl : outp = none := hnull.resolve_left (Option.some_ne_none inp)
      exact ⟨rfl, rfl⟩

/-- A quote and a backslash at the ends. -/
theorem utf8Unescape_utf8Escape_ends : ∃ n out' back',
    utf8Escape (some [39, 97, 92, 200]) 3 (some [7, 7, 7, 7, 7]) 5 = some (n, some out') ∧
      utf8Unescape (some out') n (some [7, 7, 7]) 3 = some (3, some back') ∧ back'.take 3 = [39, 97, 92] :=
  (utf8Unescape_utf8Escape [39, 97, 92] [200] [7, 7, 7, 7, 7] [7, 7, 7]).1 (by decide) (by decide) (by decide)

end Ethanol
