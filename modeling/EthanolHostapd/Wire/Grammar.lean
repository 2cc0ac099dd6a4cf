import EthanolHostapd.Wire.Decoder

/-!
# The bytes a decoder advances over

A `Grammar` is a set of byte strings.  `Walks d` says that a decoder reads only what it advances over,
and `Consumes d G` relates it to the grammar of the strings it advances over; both are proved
compositionally (`Consumes.bind`, `Consumes.tagged`, …) from the text of the decoder.  The result is `Consumes.reads_lt_iff`: a decoder whose last read is the last byte it
advances over reads only received bytes exactly when the received message starts with a complete word
of the grammar.
-/

namespace Wire

/-- A set of byte strings. -/
abbrev Grammar : Type := List UInt8 → Prop

namespace Grammar

/-- Exactly `n` arbitrary bytes. -/
def fixed (n : ℕ) : Grammar := fun bs => bs.length = n

/-- A word of `G` followed by a word of `H`. -/
def seq (G H : Grammar) : Grammar := fun bs => ∃ x y, bs = x ++ y ∧ G x ∧ H y

/-- `n` words of `G`, one after the other. -/
def rep (G : Grammar) : ℕ → Grammar
  | 0 => fixed 0
  | n + 1 => seq G (rep G n)

/-- An `unsigned int` followed by a word of the grammar it selects. -/
def tagged (G : UInt32 → Grammar) : Grammar :=
  fun bs => ∃ (v : UInt32) (rest : List UInt8), bs = Scalar.toBytes v ++ rest ∧ G v rest

/-- A 32-bit count followed by that many words of `G`. -/
def counted (G : Grammar) : Grammar := tagged fun n => rep G n.toNat

/-- The message starts with a complete word of `G`. -/
def Starts (G : Grammar) (msg : List UInt8) : Prop := ∃ p s, msg = p ++ s ∧ G p

end Grammar

open Grammar

/-- The decoder moves forward, keeps the record of earlier reads, and reads no byte beyond the one it
advances to. -/
structure Walks {α : Type} (d : Decoder α) : Prop where
  /-- The cursor never moves back. -/
  pos_le : ∀ m c, c.pos ≤ (d m c).2.pos
  /-- Earlier reads stay on record. -/
  reads_mono : ∀ m c o, o ∈ c.reads → o ∈ (d m c).2.reads
  /-- New reads lie before the new cursor. -/
  reads_lt : ∀ m c o, o ∈ (d m c).2.reads → o ∈ c.reads ∨ o < (d m c).2.pos

/-- The decoder advances over exactly the words of `G`, and reads nothing else. -/
structure Consumes {α : Type} (d : Decoder α) (G : Grammar) : Prop extends Walks d where
  /-- The cursor moves by `k` exactly when the next `k` bytes form a word of `G`. -/
  pos_eq_iff : ∀ m c k, (d m c).2.pos = c.pos + k ↔ G (m.slice c.pos k)

/-- One decoder after another, the second one chosen by the result of the first. -/
lemma Walks.bind {α β : Type} {d : Decoder α} {f : α → Decoder β} (hd : Walks d)
    (hf : ∀ a, Walks (f a)) : Walks (d >>= f) where
  pos_le m c := (hd.pos_le m c).trans ((hf _).pos_le m _)
  reads_mono m c o h := (hf _).reads_mono m _ o (hd.reads_mono m c o h)
  reads_lt m c o h := by
    rcases (hf _).reads_lt m _ o h with h' | h'
    · rcases hd.reads_lt m c o h' with h'' | h''
      · exact Or.inl h''
      · exact Or.inr (h''.trans_le ((hf _).pos_le m _))
    · exact Or.inr h'

namespace Consumes

variable {α β : Type} {d : Decoder α} {f : α → Decoder β} {G H : Grammar}

lemma pure (a : α) : Consumes (Pure.pure a : Decoder α) (fixed 0) where
  pos_le _ _ := le_rfl
  pos_eq_iff m c k := by simp [fixed]
  reads_mono _ _ _ h := h
  reads_lt _ _ _ h := Or.inl h

lemma bytes (n : ℕ) : Consumes (Decoder.bytes n) (fixed n) where
  pos_le m c := by simp [Decoder.bytes]
  pos_eq_iff m c k := by simp [Decoder.bytes, fixed, eq_comm]
  reads_mono m c o h := by simp [Decoder.bytes, h]
  reads_lt m c o h := by
    rcases List.mem_append.mp h with h | h
    · exact Or.inl h
    · exact Or.inr (List.mem_range'_1.mp h).2

/-- The consumption of a sequence splits at the point where the first decoder stops. -/
lemma bind (hd : Consumes d G) (hf : ∀ a, Consumes (f a) H) : Consumes (d >>= f) (seq G H) where
  toWalks := hd.toWalks.bind fun a => (hf a).toWalks
  pos_eq_iff m c k := by
    simp only [Decoder.bind_apply]
    constructor
    · intro h
      obtain ⟨k₁, hk₁⟩ := Nat.exists_eq_add_of_le (hd.pos_le m c)
      obtain ⟨k₂, hk₂⟩ := Nat.exists_eq_add_of_le ((hf (d m c).1).pos_le m (d m c).2)
      have hk : k = k₁ + k₂ := by omega
      refine ⟨m.slice c.pos k₁, m.slice (c.pos + k₁) k₂, ?_, ?_, ?_⟩
      · rw [hk, Memory.slice_add]
      · exact (hd.pos_eq_iff m c k₁).mp hk₁
      · rw [← hk₁]
        exact ((hf _).pos_eq_iff m _ k₂).mp hk₂
    · rintro ⟨x, y, hxy, hx, hy⟩
      have hk : k = x.length + y.length := by
        simpa using congrArg List.length hxy
      rw [hk, Memory.slice_add] at hxy
      obtain ⟨hx', hy'⟩ := List.append_inj hxy (by simp)
      have h₁ := (hd.pos_eq_iff m c x.length).mpr (by rw [hx']; exact hx)
      have h₂ := ((hf (d m c).1).pos_eq_iff m (d m c).2 y.length).mpr (by rw [h₁, hy']; exact hy)
      omega

/-- Building the result from the last decoded value reads nothing. -/
lemma map (hd : Consumes d G) (g : α → β) : Consumes (d >>= fun x => Pure.pure (g x)) G where
  toWalks := ⟨hd.pos_le, hd.reads_mono, hd.reads_lt⟩
  pos_eq_iff := hd.pos_eq_iff

lemma scalar (α : Type) [Scalar α] : Consumes (Decoder.scalar α) (fixed (Scalar.width α)) :=
  (bytes _).map _

/-- What follows an `unsigned int` may depend on its value. -/
lemma tagged {f : UInt32 → Decoder β} {G : UInt32 → Grammar} (hf : ∀ v, Consumes (f v) (G v)) :
    Consumes (Decoder.scalar UInt32 >>= f) (Grammar.tagged G) where
  toWalks := (scalar UInt32).toWalks.bind fun v => (hf v).toWalks
  pos_eq_iff m c k := by
    have hpos : (Decoder.scalar UInt32 m c).2.pos = c.pos + 4 := rfl
    have hval : (Decoder.scalar UInt32 m c).1 = Scalar.ofBytes UInt32 (m.slice c.pos 4) := rfl
    simp only [Decoder.bind_apply]
    constructor
    · intro h
      obtain ⟨k₂, hk₂⟩ := Nat.exists_eq_add_of_le ((hf (Decoder.scalar UInt32 m c).1).pos_le m
        (Decoder.scalar UInt32 m c).2)
      have hk : k = 4 + k₂ := by omega
      refine ⟨_, m.slice (c.pos + 4) k₂, ?_, ((hf _).pos_eq_iff m _ k₂).mp hk₂⟩
      rw [hk, Memory.slice_add, hval, Scalar.toBytes_ofBytes_uint32 (by simp)]
    · rintro ⟨v, rest, hbs, hrest⟩
      have hk : k = 4 + rest.length := by
        simpa using congrArg List.length hbs
      rw [hk, Memory.slice_add] at hbs
      obtain ⟨hv, hr⟩ := List.append_inj hbs (by simp)
      rw [hv, Scalar.ofBytes_toBytes] at hval
      have h₂ := ((hf v).pos_eq_iff m (Decoder.scalar UInt32 m c).2 rest.length).mpr
        (by rw [hpos, hr]; exact hrest)
      rw [hval, h₂, hpos]
      omega

lemma times (hd : Consumes d G) (n : ℕ) : Consumes (Decoder.times d n) (rep G n) := by
  induction n with
  | zero => exact Consumes.pure _
  | succ n ih => exact hd.bind fun x => ih.map fun xs => x ::ᵥ xs

lemma array (hd : Consumes d G) (n : ℕ) : Consumes (Decoder.array n d) (rep G n) :=
  (hd.times n).map _

end Consumes

/-! ## Decoders whose last read is the last byte they pass -/

/-- The byte just before the cursor has been read. -/
def Cursor.AtRead (c : Cursor) : Prop := ∃ o ∈ c.reads, o + 1 = c.pos

/-- Wherever the decoder stops, it has read the byte just before. -/
def ReadsLast {α : Type} (d : Decoder α) : Prop := ∀ m c, (d m c).2.AtRead

namespace ReadsLast

variable {α β : Type} {d : Decoder α} {f : α → Decoder β}

lemma bind (hf : ∀ a, ReadsLast (f a)) : ReadsLast (d >>= f) := fun m _ => hf _ m _

lemma map (hd : ReadsLast d) (g : α → β) : ReadsLast (d >>= fun x => Pure.pure (g x)) :=
  fun m c => hd m c

lemma scalar [Scalar α] (h : 0 < Scalar.width α) : ReadsLast (Decoder.scalar α) := by
  intro m c
  refine ⟨c.pos + (Scalar.width α - 1), ?_, ?_⟩
  · change _ ∈ c.reads ++ List.range' c.pos (Scalar.width α)
    refine List.mem_append_right _ (List.mem_range'_1.mpr ?_)
    omega
  · change c.pos + (Scalar.width α - 1) + 1 = c.pos + Scalar.width α
    omega

/-- A counted loop over such a decoder leaves the property of the cursor intact. -/
lemma times_atRead (hd : ReadsLast d) (n : ℕ) (m : Memory) {c : Cursor} (hc : c.AtRead) :
    (Decoder.times d n m c).2.AtRead := by
  induction n generalizing c with
  | zero => exact hc
  | succ n ih => exact ih (hd m c)

/-- A count and the loop it drives end with a read, also when the count is zero. -/
lemma counted (hd : ReadsLast d) (g : UInt32 → List α → β) :
    ReadsLast (Decoder.scalar UInt32 >>= fun n =>
      Decoder.array n.toNat d >>= fun xs => Pure.pure (g n xs)) := by
  intro m c
  exact hd.times_atRead _ m (scalar (by decide) m c)

end ReadsLast

namespace Consumes

variable {α : Type} {d : Decoder α} {G : Grammar}

/-- A decoder that starts at the beginning of a received message stops inside it exactly when the
message starts with a complete word of its grammar. -/
lemma pos_le_length_iff (hd : Consumes d G) (msg : List UInt8) (beyond : ℕ → UInt8)
    (heap : ℕ → List UInt8) (rs : List ℕ) :
    (d (Memory.ofBytes msg beyond heap) ⟨0, rs⟩).2.pos ≤ msg.length ↔ G.Starts msg := by
  set m := Memory.ofBytes msg beyond heap
  have hiff := hd.pos_eq_iff m ⟨0, rs⟩
  constructor
  · intro hle
    have hG := (hiff (d m ⟨0, rs⟩).2.pos).mp (by simp)
    rw [Memory.ofBytes_slice _ _ _ hle] at hG
    exact ⟨_, _, (List.take_append_drop _ msg).symm, hG⟩
  · rintro ⟨p, s, hmsg, hp⟩
    have hlen : p.length ≤ msg.length := by simp [hmsg]
    have hslice : m.slice 0 p.length = p := by
      rw [Memory.ofBytes_slice _ _ _ hlen, hmsg, List.take_left]
    have hpos := (hiff p.length).mpr (by rw [hslice]; exact hp)
    rw [hpos]
    simpa using hlen

/-- If moreover it ends with a read, it reads only received bytes exactly in that case. -/
lemma reads_lt_iff (hd : Consumes d G) (hl : ReadsLast d) (msg : List UInt8) (beyond : ℕ → UInt8)
    (heap : ℕ → List UInt8) {rs : List ℕ} (hrs : ∀ o ∈ rs, o < msg.length) :
    (∀ o ∈ (d (Memory.ofBytes msg beyond heap) ⟨0, rs⟩).2.reads, o < msg.length) ↔
      G.Starts msg := by
  rw [← hd.pos_le_length_iff msg beyond heap rs]
  constructor
  · intro h
    obtain ⟨o, ho, hpos⟩ := hl (Memory.ofBytes msg beyond heap) ⟨0, rs⟩
    have := h o ho
    omega
  · intro hle o ho
    rcases hd.reads_lt _ ⟨0, rs⟩ o ho with h | h
    · exact hrs o h
    · exact h.trans_le hle

end Consumes

end Wire
