import EthanolHostapd.Wire.LittleEndian

/-!
# Encoding into a raw buffer

An encoder of the C kind writes at a pointer and moves it, without knowing how large the buffer is.
`Out` is the state of such an encoder: the bytes it has put below the pointer, and the `extent` of
what it has written so far.  For ordinary fields the two agree, which is the form `Out.ofBytes`; they
differ only after a string copy that writes further than the pointer is moved afterwards.
-/

namespace Wire

/-- The contents of a C string: bytes without a terminating NUL. -/
structure CString where
  /-- The characters before the terminator. -/
  chars : List UInt8
  /-- No character is NUL. -/
  nul_free : (0 : UInt8) ∉ chars
  deriving DecidableEq

/-- The C string that starts at the given bytes. -/
def CString.ofBytes (bs : List UInt8) : CString where
  chars := bs.takeWhile (· ≠ 0)
  nul_free h := by simpa using List.mem_takeWhile_imp h

/-- A terminated copy reads back as the string, whatever follows it. -/
lemma CString.ofBytes_terminated (s : CString) (rest : List UInt8) :
    CString.ofBytes (s.chars ++ 0 :: rest) = s := by
  obtain ⟨chars, hnul⟩ := s
  have hne : ∀ b ∈ chars, decide (b ≠ 0) = true := by
    intro b hb
    simpa using fun h : b = 0 => hnul (h ▸ hb)
  rw [ofBytes, CString.mk.injEq]
  change (chars ++ 0 :: rest).takeWhile (fun b => decide (b ≠ 0)) = chars
  rw [List.takeWhile_append_of_pos hne]
  simp

/-- The state of an encoder that started at the beginning of a buffer. -/
structure Out where
  /-- The bytes of the buffer below the write pointer. -/
  bytes : List UInt8
  /-- How many bytes, counted from the start of the buffer, reach up to the last byte written. -/
  extent : ℕ
  deriving DecidableEq

namespace Out

variable {α : Type}

/-- The encoder that has written exactly `bs`. -/
def ofBytes (bs : List UInt8) : Out := ⟨bs, bs.length⟩

/-- `memcpy` of `bs` to the write pointer, which moves behind them. -/
def put (o : Out) (bs : List UInt8) : Out :=
  ⟨o.bytes ++ bs, max o.extent (o.bytes.length + bs.length)⟩

/-- `memcpy` of a scalar to the write pointer. -/
def scalar [Scalar α] (o : Out) (a : α) : Out := o.put (Scalar.toBytes a)

/-- `strcpy` of `s` to the write pointer, which then moves by `n` bytes. -/
def strcpy (o : Out) (s : CString) (n : ℕ) : Out :=
  ⟨o.bytes ++ (s.chars ++ [0]).take n, max o.extent (o.bytes.length + (s.chars.length + 1))⟩

/-- A counted loop: apply `f` to the first `n` elements of an array, in order. -/
def each (f : Out → α → Out) (n : ℕ) (a : List α) (o : Out) : Out := (a.take n).foldl f o

@[simp] lemma ofBytes_bytes (bs : List UInt8) : (ofBytes bs).bytes = bs := rfl

@[simp] lemma ofBytes_extent (bs : List UInt8) : (ofBytes bs).extent = bs.length := rfl

@[simp] lemma ofBytes_put (bs cs : List UInt8) : (ofBytes bs).put cs = ofBytes (bs ++ cs) := by
  simp [ofBytes, put]

@[simp] lemma ofBytes_scalar [Scalar α] (bs : List UInt8) (a : α) :
    (ofBytes bs).scalar a = ofBytes (bs ++ Scalar.toBytes a) := ofBytes_put _ _

/-- A string copy after which the pointer stands behind the terminator. -/
lemma ofBytes_strcpy (bs : List UInt8) (s : CString) :
    (ofBytes bs).strcpy s (s.chars.length + 1) = ofBytes (bs ++ (s.chars ++ [0])) := by
  have htake : (s.chars ++ [0]).take (s.chars.length + 1) = s.chars ++ [0] :=
    List.take_of_length_le (by simp)
  simp [ofBytes, strcpy, htake]

/-- A loop whose body appends the image of each element appends the images in order. -/
lemma each_ofBytes {f : Out → α → Out} {img : α → List UInt8} (n : ℕ) (a : List α)
    (h : ∀ x ∈ a.take n, ∀ bs, f (ofBytes bs) x = ofBytes (bs ++ img x)) (bs : List UInt8) :
    each f n a (ofBytes bs) = ofBytes (bs ++ (a.take n).flatMap img) := by
  unfold each
  generalize a.take n = l at h ⊢
  induction l generalizing bs with
  | nil => simp
  | cons x l ih =>
    have hx := h x List.mem_cons_self bs
    have hl := ih (bs ++ img x) fun y hy => h y (List.mem_cons_of_mem x hy)
    rw [List.foldl_cons, hx, hl, List.flatMap_cons, List.append_assoc]

/-- A loop that stores scalars appends their images. -/
lemma each_scalar_ofBytes [Scalar α] (n : ℕ) (a : List α) (bs : List UInt8) :
    each scalar n a (ofBytes bs) = ofBytes (bs ++ (a.take n).flatMap Scalar.toBytes) :=
  each_ofBytes n a (fun x _ bs => ofBytes_scalar bs x) bs

/-- A loop over a fixed-size array visits all of it. -/
lemma take_toList {n : ℕ} (v : List.Vector α n) : v.toList.take n = v.toList :=
  List.take_of_length_le (by simp)

/-- What a loop writes, with `k` more bytes for each iteration, as a sum over the iterations. -/
lemma length_flatMap_add (img : α → List UInt8) (k : ℤ) (l : List α) :
    ((l.flatMap img).length : ℤ) + l.length * k = (l.map fun x => ((img x).length : ℤ) + k).sum := by
  induction l with
  | nil => simp
  | cons x l ih =>
    rw [List.flatMap_cons, List.map_cons, List.sum_cons, ← ih, List.length_append, List.length_cons]
    push_cast
    ring

/-- A loop whose every iteration writes `k` bytes less than is counted for it. -/
lemma length_flatMap_add_le_sum (img : α → List UInt8) (size : α → ℤ) (k : ℤ) (l : List α)
    (h : ∀ x ∈ l, ((img x).length : ℤ) + k ≤ size x) :
    ((l.flatMap img).length : ℤ) + l.length * k ≤ (l.map size).sum := by
  rw [length_flatMap_add]
  exact List.sum_le_sum h

/-- A loop whose every iteration is counted with at most `k` bytes more than it writes. -/
lemma sum_le_length_flatMap_add (img : α → List UInt8) (size : α → ℤ) (k : ℤ) (l : List α)
    (h : ∀ x ∈ l, size x ≤ (img x).length + k) :
    (l.map size).sum ≤ ((l.flatMap img).length : ℤ) + l.length * k := by
  rw [length_flatMap_add]
  exact List.sum_le_sum h

/-! ## What has been written below the pointer stays -/

section Written

variable {o : Out} {bs : List UInt8}

lemma scalar_mono [Scalar α] (h : bs <+: o.bytes) (a : α) : bs <+: (o.scalar a).bytes :=
  h.trans ⟨Scalar.toBytes a, rfl⟩

lemma strcpy_mono (h : bs <+: o.bytes) (s : CString) (n : ℕ) : bs <+: (o.strcpy s n).bytes :=
  h.trans ⟨(s.chars ++ [0]).take n, rfl⟩

lemma each_mono {f : Out → α → Out} (hf : ∀ o x, bs <+: o.bytes → bs <+: (f o x).bytes) (n : ℕ)
    (a : List α) (h : bs <+: o.bytes) : bs <+: (each f n a o).bytes := by
  unfold each
  generalize a.take n = l
  induction l generalizing o with
  | nil => exact h
  | cons x l ih => exact ih (hf o x h)

end Written

end Out

end Wire
