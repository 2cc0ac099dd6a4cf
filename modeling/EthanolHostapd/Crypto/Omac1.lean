import EthanolHostapd.Containers.Fragments
import EthanolHostapd.Crypto.AesInternal

/-!
# The message authentication code

`crypto/aes-omac1.c`: the code over a message that lies in several elements.  The code of a message is stated apart from
the reading of the elements, which goes wrong where an empty element has bytes behind it: the loops read a byte before they
look whether there is one.
-/

namespace Ethanol

open Fragments

/-! ## Blocks -/

/-- `xor`. -/
def xorBlock (a b : AesBlock) : AesBlock := Vector.zipWith (· ^^^ ·) a b

/-- `cbc[i] ^= b`. -/
def xorByte (i : ℕ) (cbc : AesBlock) (b : UInt8) : AesBlock :=
  Vector.ofFn fun k : Fin 16 => if k.val = i then cbc.get k ^^^ b else cbc.get k

/-- A block of zeros. -/
def zeroBlock : AesBlock := Vector.replicate 16 0

/-- `gf_mulx`. -/
def gfMulx (pad : AesBlock) : AesBlock :=
  Vector.ofFn fun i : Fin 16 =>
    if h : i.val + 1 < 16 then (pad[i] <<< 1) ||| (pad[i.val + 1] >>> 7)
    else (pad[i] <<< 1) ^^^ (if pad[0] &&& (0x80 : UInt8) ≠ 0 then 0x87 else 0)

/-- The first bytes of a message, and zeros where there are none. -/
def blockOf (m : List UInt8) : AesBlock := Vector.ofFn fun i : Fin 16 => m.getD i 0

/-! ## The code of a message -/

section

variable (enc : AesBlock → AesBlock)

/-- The first blocks of a message are chained. -/
def cbcBlocks : ℕ → AesBlock → List UInt8 → AesBlock
  | 0, c, _ => c
  | n + 1, c, m => cbcBlocks n (enc (xorBlock c (blockOf m))) (m.drop 16)

/-- The code of a message: all blocks but the last one are chained.  The last one is masked with one key if it is full, and
is padded and masked with the other key if it is not. -/
def cmac (m : List UInt8) : AesBlock :=
  let n := (m.length - 1) / 16
  let last := m.drop (16 * n)
  let c := cbcBlocks enc n zeroBlock m
  let k1 := gfMulx (enc zeroBlock)
  if last.length = 16 then enc (xorBlock k1 (xorBlock c (blockOf last)))
  else enc (xorBlock (gfMulx k1) (xorByte last.length (xorBlock c (blockOf last)) 0x80))

/-! ## The code of the elements -/

/-- The loop over the full blocks: `turns` of them, with `left` bytes to read. -/
def omacBlocks : ℕ → ℕ → AesBlock → Cursor UInt8 → Option (AesBlock × Cursor UInt8)
  | 0, _, cbc, c => some (cbc, c)
  | turns + 1, left, cbc, c => do
    let (cbc, c) ← readFold xorByte (left == 16) 16 0 cbc c
    omacBlocks turns (left - 16) (if 16 < left then enc cbc else cbc) c

/-- What `omac1_aes_vector` computes with its context; `none`: it reads outside of the elements. -/
def omacElements : List (List UInt8) → Option AesBlock
  | [] => none
  | first :: later => do
    let totalLen := (first :: later).flatten.length
    let (cbc, c) ← omacBlocks enc (totalLen / 16) totalLen zeroBlock ⟨first, later⟩
    let left := totalLen % 16
    let pad := gfMulx (enc zeroBlock)
    if left ≠ 0 ∨ totalLen = 0 then
      let (cbc, _) ← readFold xorByte true left 0 cbc c
      some (enc (xorBlock (gfMulx pad) (xorByte left cbc 0x80)))
    else some (enc (xorBlock pad cbc))

end

/-- `omac1_aes_vector`, with what is in the memory of the context before; the outer `none` is -1. -/
def omac1AesVector (mem : RoundKeys) (key : List UInt8) (elems : List (List UInt8)) : Option (Option AesBlock) :=
  ((aesEncryptInit mem key).map aesEncrypt).map fun enc => omacElements enc elems

/-- `omac1_aes_128`, whose key has 16 bytes. -/
def omac1Aes128 (mem : RoundKeys) (key data : List UInt8) : Option AesBlock :=
  (omac1AesVector mem key [data]).join

/-! ## Reading a block -/

lemma getElem_xorByte (i : ℕ) (cbc : AesBlock) (b : UInt8) (k : ℕ) (hk : k < 16) :
    (xorByte i cbc b)[k] = if k = i then cbc[k] ^^^ b else cbc[k] := by
  simp [xorByte, Vector.get]

lemma getElem_foldFrom_xorByte (bs : List UInt8) :
    ∀ (i : ℕ) (cbc : AesBlock) (k : ℕ) (hk : k < 16),
      (foldFrom xorByte i cbc bs)[k] = if i ≤ k then cbc[k] ^^^ bs.getD (k - i) 0 else cbc[k] := by
  induction bs with
  | nil =>
    intro i cbc k hk
    simp [foldFrom]
  | cons b bs ih =>
    intro i cbc k hk
    rw [foldFrom, ih]
    by_cases hlater : i + 1 ≤ k
    · have hle : i ≤ k := by omega
      have hne : k ≠ i := by omega
      have hsub : k - i = k - (i + 1) + 1 := by omega
      simp [hlater, hle, hsub, getElem_xorByte, hne]
    · rw [if_neg hlater]
      by_cases heq : k = i
      · subst heq
        simp [getElem_xorByte]
      · have hlt : ¬i ≤ k := by omega
        simp [getElem_xorByte, heq, hlt]

/-- Reading the first bytes of a message adds its first block, up to the bytes that are read. -/
lemma foldFrom_xorByte_take (m : List UInt8) (n : ℕ) (cbc : AesBlock) :
    foldFrom xorByte 0 cbc (m.take n) = xorBlock cbc (blockOf (m.take n)) := by
  apply Vector.ext
  intro k hk
  rw [getElem_foldFrom_xorByte]
  simp [xorBlock, blockOf]

/-- A block does not see the bytes behind it. -/
lemma blockOf_take (m : List UInt8) : blockOf (m.take 16) = blockOf m := by
  apply Vector.ext
  intro k hk
  simp [blockOf]

/-! ## The loop over the blocks -/

section

variable {enc : AesBlock → AesBlock}

/-- What the loop leaves: the last block is not encrypted if it is full. -/
def absorbed (enc : AesBlock → AesBlock) (cbc : AesBlock) (m : List UInt8) : AesBlock :=
  let n := (m.length - 1) / 16
  if m.length = 16 * (n + 1) then xorBlock (cbcBlocks enc n cbc m) (blockOf (m.drop (16 * n))) else cbcBlocks enc n cbc m

/-- One turn of the loop, for a message that has more than one block. -/
lemma absorbed_of_lt {cbc : AesBlock} {m : List UInt8} (hlt : 16 < m.length) :
    absorbed enc cbc m = absorbed enc (enc (xorBlock cbc (blockOf m))) (m.drop 16) := by
  have hn : (m.length - 1) / 16 = (m.length - 16 - 1) / 16 + 1 := by omega
  have hdrop : 16 + 16 * ((m.length - 16 - 1) / 16) = 16 * ((m.length - 16 - 1) / 16 + 1) := by omega
  have hiff : m.length = 16 * ((m.length - 16 - 1) / 16 + 1 + 1) ↔
      m.length - 16 = 16 * ((m.length - 16 - 1) / 16 + 1) := by omega
  simp only [absorbed, hn, List.length_drop, List.drop_drop, hdrop, cbcBlocks, hiff]

lemma absorbed_of_eq {cbc : AesBlock} {m : List UInt8} (heq : m.length = 16) :
    absorbed enc cbc m = xorBlock cbc (blockOf m) := by
  simp [absorbed, heq, cbcBlocks]

lemma absorbed_of_gt {cbc : AesBlock} {m : List UInt8} (hgt : m.length < 16) : absorbed enc cbc m = cbc := by
  have hn : (m.length - 1) / 16 = 0 := by omega
  have hne : m.length ≠ 16 := by omega
  simp [absorbed, hn, hne, cbcBlocks]

/-- What the loop reads and computes, if it reads inside of the elements. -/
lemma omacBlocks_eq_some :
    ∀ {turns : ℕ} {cbc cbc' : AesBlock} {c c' : Cursor UInt8}, turns = c.items.length / 16 →
      omacBlocks enc turns c.items.length cbc c = some (cbc', c') →
      cbc' = absorbed enc cbc c.items ∧ c'.items = c.items.drop (16 * turns) ∧
        (Gapless (c'.current :: c'.later) ↔ Gapless (c.current :: c.later)) := by
  intro turns
  induction turns with
  | zero =>
    intro cbc cbc' c c' hturns hloop
    simp only [omacBlocks, Option.some.injEq, Prod.mk.injEq] at hloop
    obtain ⟨rfl, rfl⟩ := hloop
    exact ⟨(absorbed_of_gt (by omega)).symm, rfl, Iff.rfl⟩
  | succ turns ih =>
    intro cbc cbc' c c' hturns hloop
    rw [omacBlocks] at hloop
    obtain ⟨⟨cbc₁, c₁⟩, hread, hrest⟩ := Option.bind_eq_some_iff.1 hloop
    have hlast : (c.items.length == 16) = true → 16 = c.items.length := by
      intro heq
      exact (beq_iff_eq.1 heq).symm
    obtain ⟨rfl, hitems, hgap⟩ := readFold_eq_some hlast hread
    rw [foldFrom_xorByte_take, blockOf_take] at hrest
    have hlength : c.items.length - 16 = c₁.items.length := by rw [hitems, List.length_drop]
    rw [hlength] at hrest
    obtain ⟨rfl, hitems', hgap'⟩ := ih (by omega) hrest
    refine ⟨?_, ?_, hgap'.trans hgap⟩
    · rw [hitems]
      by_cases hlt : 16 < c.items.length
      · rw [if_pos hlt, absorbed_of_lt hlt]
      · have hshort : (c.items.drop 16).length < 16 := by
          rw [List.length_drop]
          omega
        rw [if_neg hlt, absorbed_of_gt hshort, absorbed_of_eq (m := c.items) (by omega)]
    · rw [hitems', hitems, List.drop_drop, Nat.mul_succ, Nat.add_comm]

/-- Without a gap the loop reads inside of the elements. -/
lemma exists_omacBlocks :
    ∀ {turns : ℕ} {cbc : AesBlock} {c : Cursor UInt8}, turns = c.items.length / 16 →
      Gapless (c.current :: c.later) → ∃ r, omacBlocks enc turns c.items.length cbc c = some r := by
  intro turns
  induction turns with
  | zero =>
    intro cbc c _ _
    exact ⟨(cbc, c), rfl⟩
  | succ turns ih =>
    intro cbc c hturns hgapless
    have hlast : (c.items.length == 16) = true ↔ 16 = c.items.length := by
      rw [beq_iff_eq, eq_comm]
    obtain ⟨⟨cbc₁, c₁⟩, hread⟩ := exists_readFold_of_gapless (f := xorByte) (i := 0) (s := cbc) hgapless
      (by omega : 16 ≤ c.items.length) hlast
    obtain ⟨_, hitems, hgap⟩ := readFold_eq_some hlast.1 hread
    have hlength : c.items.length - 16 = c₁.items.length := by rw [hitems, List.length_drop]
    obtain ⟨r, hrest⟩ := @ih (if 16 < c.items.length then enc cbc₁ else cbc₁) c₁ (by omega) (hgap.2 hgapless)
    refine ⟨r, ?_⟩
    rw [omacBlocks, hread]
    simp only [Option.bind_eq_bind, Option.bind_some, hlength]
    exact hrest

/-- What is left when the loop is done. -/
lemma cmac_eq (m : List UInt8) :
    cmac enc m = if m.length % 16 ≠ 0 ∨ m.length = 0 then
        enc (xorBlock (gfMulx (gfMulx (enc zeroBlock)))
          (xorByte (m.length % 16)
            (xorBlock (absorbed enc zeroBlock m) (blockOf (m.drop (16 * (m.length / 16))))) 0x80))
      else enc (xorBlock (gfMulx (enc zeroBlock)) (absorbed enc zeroBlock m)) := by
  by_cases hpart : m.length % 16 ≠ 0 ∨ m.length = 0
  · have hn : (m.length - 1) / 16 = m.length / 16 := by omega
    have hshort : m.length % 16 ≠ 16 := by omega
    have hfull : m.length ≠ 16 * (m.length / 16 + 1) := by omega
    have hlen : m.length - 16 * (m.length / 16) = m.length % 16 := by omega
    rw [if_pos hpart]
    simp only [cmac, absorbed, hn, List.length_drop, if_neg hshort, if_neg hfull, hlen]
  · have hlast : m.length - 16 * ((m.length - 1) / 16) = 16 := by omega
    have hfull : m.length = 16 * ((m.length - 1) / 16 + 1) := by omega
    rw [if_neg hpart]
    simp only [cmac, absorbed, List.length_drop, if_pos hlast, if_pos hfull]

/-- The bytes behind the full blocks are added as the first bytes of a block. -/
lemma readFold_rest {cbc s' : AesBlock} {left : ℕ} {c c' : Cursor UInt8} (hleft : left = c.items.length)
    (hread : readFold xorByte true left 0 cbc c = some (s', c')) :
    s' = xorBlock cbc (blockOf c.items) ∧ c'.items = [] ∧
      (Gapless (c'.current :: c'.later) ↔ Gapless (c.current :: c.later)) := by
  obtain ⟨rfl, hitems, hgap⟩ := readFold_eq_some (fun _ => hleft) hread
  refine ⟨?_, ?_, hgap⟩
  · rw [foldFrom_xorByte_take, hleft, List.take_length]
  · rw [hitems, hleft, List.drop_length]

/-- The elements are read to the end exactly if there is no gap, and the code is that of the bytes in them. -/
lemma omacElements_eq_some_iff (elems : List (List UInt8)) (mac : AesBlock) :
    omacElements enc elems = some mac ↔ elems ≠ [] ∧ Gapless elems ∧ mac = cmac enc elems.flatten := by
  rcases elems with _ | ⟨first, later⟩
  · simp [omacElements]
  have hitems : (⟨first, later⟩ : Cursor UInt8).items = (first :: later).flatten := rfl
  have hrest : ∀ c : Cursor UInt8, c.items = (first :: later).flatten.drop (16 * ((first :: later).flatten.length / 16)) →
      (first :: later).flatten.length % 16 = c.items.length := by
    intro c hc
    rw [hc, List.length_drop]
    omega
  rw [cmac_eq]
  constructor
  · intro hmac
    refine ⟨by simp, ?_⟩
    rw [omacElements] at hmac
    obtain ⟨⟨cbc, c⟩, hloop, htail⟩ := Option.bind_eq_some_iff.1 hmac
    rw [← hitems] at hloop
    obtain ⟨rfl, hleft, hgap⟩ := omacBlocks_eq_some rfl hloop
    rw [hitems] at hleft
    by_cases hpart : (first :: later).flatten.length % 16 ≠ 0 ∨ (first :: later).flatten.length = 0
    · simp only [if_pos hpart] at htail ⊢
      obtain ⟨⟨s', c'⟩, hread, hend⟩ := Option.bind_eq_some_iff.1 htail
      obtain ⟨rfl, hempty, hgap'⟩ := readFold_rest (hrest c hleft) hread
      refine ⟨hgap.1 (hgap'.1 ?_), ?_⟩
      · exact gapless_of_flatten_eq_nil hempty
      · rw [← hleft]
        exact (Option.some.inj hend).symm
    · simp only [if_neg hpart] at htail ⊢
      refine ⟨hgap.1 ?_, (Option.some.inj htail).symm⟩
      apply gapless_of_flatten_eq_nil
      have hnone : c.items = [] := by
        apply List.length_eq_zero_iff.1
        rw [← hrest c hleft]
        omega
      exact hnone
  · rintro ⟨_, hgapless, rfl⟩
    obtain ⟨⟨cbc, c⟩, hloop⟩ := @exists_omacBlocks enc _ zeroBlock ⟨first, later⟩ rfl hgapless
    obtain ⟨rfl, hleft, hgap⟩ := omacBlocks_eq_some rfl hloop
    rw [hitems] at hleft hloop
    rw [omacElements, hloop]
    simp only [Option.bind_eq_bind, Option.bind_some]
    by_cases hpart : (first :: later).flatten.length % 16 ≠ 0 ∨ (first :: later).flatten.length = 0
    · have hlast : true = true ↔ (first :: later).flatten.length % 16 = c.items.length := by
        rw [hrest c hleft]
        exact iff_of_true rfl rfl
      rw [if_pos hpart, if_pos hpart]
      obtain ⟨⟨s', c'⟩, hread⟩ := @exists_readFold_of_gapless _ _ xorByte true _ 0
        (absorbed enc zeroBlock (first :: later).flatten) c (hgap.2 hgapless) (hrest c hleft).le hlast
      obtain ⟨rfl, _, _⟩ := readFold_rest (hrest c hleft) hread
      rw [hread, ← hleft]
      rfl
    · rw [if_neg hpart, if_neg hpart]

end

/-- `omac1_aes_vector` returns the code of the bytes of all elements, unless an empty element has bytes behind it: then it
reads outside of the elements. -/
theorem omac1AesVector_eq_some_some_iff (mem : RoundKeys) (key : List UInt8) (elems : List (List UInt8)) (mac : AesBlock) :
    omac1AesVector mem key elems = some (some mac) ↔
      elems ≠ [] ∧ Gapless elems ∧ ∃ enc, aesEncryptWith key = some enc ∧ mac = cmac enc elems.flatten := by
  rw [omac1AesVector, aesEncryptWith_eq, Option.map_eq_some_iff]
  constructor
  · rintro ⟨enc, henc, hmac⟩
    obtain ⟨hne, hgapless, heq⟩ := (omacElements_eq_some_iff elems mac).1 hmac
    exact ⟨hne, hgapless, enc, henc, heq⟩
  · rintro ⟨hne, hgapless, enc, henc, heq⟩
    exact ⟨enc, henc, (omacElements_eq_some_iff elems mac).2 ⟨hne, hgapless, heq⟩⟩

/-- A message in one piece has no gap. -/
lemma omac1Aes128_eq (mem : RoundKeys) (key data : List UInt8) :
    omac1Aes128 mem key data = (aesEncryptWith key).map fun enc => cmac enc data := by
  have hgapless : Gapless [data] := by
    cases data with
    | nil => rfl
    | cons b bs => trivial
  rw [omac1Aes128, omac1AesVector, aesEncryptWith_eq]
  rcases aesEncryptWith key with _ | enc
  · rfl
  · have hmac := (@omacElements_eq_some_iff enc [data] (cmac enc data)).2 ⟨by simp, hgapless, by simp⟩
    simp [hmac]

end Ethanol
