import EthanolHostapd.Wire.LittleEndian

/-!
# Decoding from raw memory

A decoder of the C kind walks a pointer through memory without knowing where the received message
ends.  `Memory` is what such a pointer can see: the bytes from the start of the buffer on, without an
end.  A `Decoder` maps the memory and the current `Cursor` to a value and the advanced cursor, and the
cursor records the offset of every byte that was read, so that "reads only inside the message" is a
statement about the run and not an assumption.

Three relations describe decoders.  `Decodes d bs a` says that `d` turns the bytes `bs` into `a`
wherever memory holds them; it composes along `bind` and along counted loops and is the tool for
round trips.  `Ensures m d P` says that `P` holds of whatever `d` yields, also on bytes that nobody
encoded.  `Consumes d G` says that `d` advances over exactly the byte strings of the grammar `G`
and reads nothing outside what it advances over; together with `ReadsLast` it turns "every read is
inside the message" into "the message starts with a word of the grammar" (`Consumes.reads_lt_iff`).
-/

namespace Wire

/-- Memory as seen from the start of a buffer. -/
structure Memory where
  /-- The byte at an offset from the start of the buffer, whether or not it was received. -/
  byte : ℕ → UInt8
  /-- The heap bytes that follow the block allocated for the string found at an offset. -/
  heap : ℕ → List UInt8

/-- The position of a decoder and the offsets it has read so far. -/
structure Cursor where
  /-- Offset of the next byte to decode. -/
  pos : ℕ
  /-- Offsets of the bytes read so far. -/
  reads : List ℕ

/-- The cursor at the start of a buffer. -/
def Cursor.start : Cursor := ⟨0, []⟩

namespace Memory

/-- The `n` bytes from offset `off` on. -/
def slice (m : Memory) (off n : ℕ) : List UInt8 := (List.range' off n).map m.byte

/-- Memory holds the bytes `bs` at offset `off`. -/
def Holds (m : Memory) (off : ℕ) (bs : List UInt8) : Prop := m.slice off bs.length = bs

/-- The memory of a receiver after `bs` has arrived; `beyond` is what lies behind it. -/
def ofBytes (bs : List UInt8) (beyond : ℕ → UInt8) (heap : ℕ → List UInt8) : Memory where
  byte i := bs.getD i (beyond i)
  heap := heap

@[simp] lemma length_slice (m : Memory) (off n : ℕ) : (m.slice off n).length = n := by
  simp [slice]

lemma slice_add (m : Memory) (off a b : ℕ) :
    m.slice off (a + b) = m.slice off a ++ m.slice (off + a) b := by
  simp [slice, ← List.range'_append_1]

lemma holds_append {m : Memory} {off : ℕ} {bs cs : List UInt8} :
    m.Holds off (bs ++ cs) ↔ m.Holds off bs ∧ m.Holds (off + bs.length) cs := by
  unfold Holds
  rw [List.length_append, slice_add]
  constructor
  · intro h
    exact List.append_inj h (by simp)
  · rintro ⟨h₁, h₂⟩
    rw [h₁, h₂]

/-- Inside the received bytes, memory does not depend on what lies behind them. -/
lemma ofBytes_slice_drop (bs : List UInt8) (beyond : ℕ → UInt8) (heap : ℕ → List UInt8)
    {off k : ℕ} (hk : off + k ≤ bs.length) :
    (ofBytes bs beyond heap).slice off k = (bs.drop off).take k := by
  apply List.ext_getElem
  · simp
    omega
  · intro i h₁ h₂
    have hi : off + i < bs.length := by simp at h₂; omega
    simp [slice, ofBytes, hi]

lemma ofBytes_slice (bs : List UInt8) (beyond : ℕ → UInt8) (heap : ℕ → List UInt8) {k : ℕ}
    (hk : k ≤ bs.length) : (ofBytes bs beyond heap).slice 0 k = bs.take k :=
  ofBytes_slice_drop bs beyond heap (by omega)

/-- A receiver's memory holds the received bytes at its start. -/
lemma ofBytes_holds (bs cs : List UInt8) (beyond : ℕ → UInt8) (heap : ℕ → List UInt8) :
    (ofBytes (bs ++ cs) beyond heap).Holds 0 bs := by
  rw [Holds, ofBytes_slice _ _ _ (by simp), List.take_left]

end Memory

/-- A decoder: from memory and a cursor to a value and the advanced cursor. -/
def Decoder (α : Type) : Type := Memory → Cursor → α × Cursor

namespace Decoder

instance : Monad Decoder where
  pure a := fun _ c => (a, c)
  bind d f := fun m c => f (d m c).1 m (d m c).2

variable {α β : Type}

@[simp] lemma pure_apply (a : α) (m : Memory) (c : Cursor) : (pure a : Decoder α) m c = (a, c) := rfl

@[simp] lemma bind_apply (d : Decoder α) (f : α → Decoder β) (m : Memory) (c : Cursor) :
    (d >>= f) m c = f (d m c).1 m (d m c).2 := rfl

/-- Copy out the next `n` bytes. -/
def bytes (n : ℕ) : Decoder (List UInt8) :=
  fun m c => (m.slice c.pos n, ⟨c.pos + n, c.reads ++ List.range' c.pos n⟩)

/-- Copy out the next `sizeof(α)` bytes into a variable of type `α`. -/
def scalar (α : Type) [Scalar α] : Decoder α := do
  let bs ← bytes (Scalar.width α)
  pure (Scalar.ofBytes α bs)

/-- A counted loop: run `d` for `i = 0, …, n - 1`, collecting the results in order. -/
def times (d : Decoder α) : (n : ℕ) → Decoder (List.Vector α n)
  | 0 => pure List.Vector.nil
  | n + 1 => do
    let x ← d
    let xs ← times d n
    pure (x ::ᵥ xs)

/-- A counted loop that fills an array. -/
def array (n : ℕ) (d : Decoder α) : Decoder (List α) := do
  let xs ← times d n
  pure xs.toList

end Decoder

/-! ## What a decoder makes of given bytes -/

/-- Wherever memory holds `bs`, the decoder yields `a` and advances over exactly `bs`. -/
def Decodes {α : Type} (d : Decoder α) (bs : List UInt8) (a : α) : Prop :=
  ∀ (m : Memory) (c : Cursor), m.Holds c.pos bs →
    (d m c).1 = a ∧ (d m c).2.pos = c.pos + bs.length

namespace Decodes

variable {α β : Type} {d : Decoder α} {f : α → Decoder β} {bs cs : List UInt8} {a : α} {b : β}

lemma pure (a : α) : Decodes (Pure.pure a : Decoder α) [] a := fun _ _ _ => ⟨rfl, rfl⟩

lemma bind (hd : Decodes d bs a) (hf : Decodes (f a) cs b) : Decodes (d >>= f) (bs ++ cs) b := by
  intro m c hm
  obtain ⟨hbs, hcs⟩ := Memory.holds_append.mp hm
  obtain ⟨hval, hpos⟩ := hd m c hbs
  rw [← hpos] at hcs
  obtain ⟨hval', hpos'⟩ := hf m (d m c).2 hcs
  simp only [Decoder.bind_apply, hval]
  refine ⟨hval', ?_⟩
  rw [hpos', hpos, List.length_append, add_assoc]

/-- One field after the other: the layout of a block is the list of the images of its fields. -/
lemma cons {L : List (List UInt8)} (hd : Decodes d bs a) (hf : Decodes (f a) L.flatten b) :
    Decodes (d >>= f) (bs :: L).flatten b := by
  rw [List.flatten_cons]
  exact hd.bind hf

/-- The last step of a block: the remaining decoder consumes what is left. -/
lemma map (hd : Decodes d bs a) (g : α → β) :
    Decodes (d >>= fun x => Pure.pure (g x)) bs (g a) := by
  have h : Decodes (d >>= fun x => Pure.pure (g x)) (bs ++ []) (g a) :=
    hd.bind (f := fun x => Pure.pure (g x)) (Decodes.pure (g a))
  rwa [List.append_nil] at h

lemma scalar [Scalar α] (a : α) : Decodes (Decoder.scalar α) (Scalar.toBytes a) a := by
  intro m c hm
  rw [Memory.Holds, Scalar.length_toBytes] at hm
  simp [Decoder.scalar, Decoder.bytes, hm]

/-- The bytes of the elements of an array, one after the other, decode to the array. -/
lemma times {γ : Type} {img : γ → List UInt8} {val : γ → α} (l : List γ)
    (h : ∀ x ∈ l, Decodes d (img x) (val x)) :
    Decodes (Decoder.times d l.length) (l.flatMap img) ⟨l.map val, l.length_map val⟩ := by
  induction l with
  | nil => exact Decodes.pure _
  | cons x l ih =>
    have hx := h x List.mem_cons_self
    have hl := ih fun y hy => h y (List.mem_cons_of_mem x hy)
    exact hx.bind (hl.map fun xs => val x ::ᵥ xs)

lemma array {γ : Type} {img : γ → List UInt8} {val : γ → α} {n : ℕ} (l : List γ)
    (hn : l.length = n) (h : ∀ x ∈ l, Decodes d (img x) (val x)) :
    Decodes (Decoder.array n d) (l.flatMap img) (l.map val) := by
  subst hn
  exact (times l h).map List.Vector.toList

/-- An array of scalars decodes to itself. -/
lemma scalars {γ : Type} [Scalar γ] {n : ℕ} (l : List γ) (hn : l.length = n) :
    Decodes (Decoder.array n (Decoder.scalar γ)) (l.flatMap Scalar.toBytes) l := by
  have h : Decodes (Decoder.array n (Decoder.scalar γ)) (l.flatMap Scalar.toBytes) (l.map id) :=
    array l hn fun x _ => scalar x
  rwa [List.map_id] at h

/-- A fixed-size array of scalars decodes to itself. -/
lemma vector {γ : Type} [Scalar γ] {n : ℕ} (v : List.Vector γ n) :
    Decodes (Decoder.times (Decoder.scalar γ) n) (v.toList.flatMap Scalar.toBytes) v := by
  obtain ⟨l, rfl⟩ := v
  have h : Decodes (Decoder.times (Decoder.scalar γ) l.length) (l.flatMap Scalar.toBytes)
      ⟨l.map id, l.length_map id⟩ := times l fun x _ => scalar x
  simp only [List.map_id] at h
  exact h

end Decodes

/-! ## What holds of everything a decoder yields -/

/-- Wherever it starts in the memory `m`, the decoder yields a value with the property `P`. -/
def Ensures {α : Type} (m : Memory) (d : Decoder α) (P : α → Prop) : Prop :=
  ∀ c : Cursor, P (d m c).1

namespace Ensures

variable {α β : Type} {m : Memory} {d : Decoder α} {f : α → Decoder β} {P : α → Prop} {Q : β → Prop}

lemma pure {a : α} (h : P a) : Ensures m (Pure.pure a) P := fun _ => h

lemma bind (hd : Ensures m d P) (hf : ∀ a, P a → Ensures m (f a) Q) : Ensures m (d >>= f) Q :=
  fun c => hf _ (hd c) _

/-- A step about whose result nothing needs to be known. -/
lemma bind_any (hf : ∀ a, Ensures m (f a) Q) : Ensures m (d >>= f) Q := fun _ => hf _ _

end Ensures

end Wire
