import EthanolHostapd.Crypto.Omac1

/-!
# Authenticated encryption

`crypto/aes-ctr.c`, `aes-siv.c`, `aes-ccm.c` and `aes-eax.c`: encryption with a key stream together with a code.  Deciphering
adds the key stream again, and accepts if the code that it computes is the one it was given.  In all of them what is
accepted is exactly what encryption writes.
-/

namespace Ethanol

/-! ## Key streams -/

/-- The bytes of a text, each added to the byte of the block at its place. -/
def addStream (data : List UInt8) (buf : AesBlock) : List UInt8 :=
  List.zipWith (· ^^^ ·) data buf.toList

lemma length_addStream {data : List UInt8} (hlen : data.length ≤ 16) (buf : AesBlock) :
    (addStream data buf).length = data.length := by
  rw [addStream, List.length_zipWith, Vector.length_toList]
  omega

/-- A stream that is added twice is gone. -/
lemma addStream_addStream {data : List UInt8} (hlen : data.length ≤ 16) (buf : AesBlock) :
    addStream (addStream data buf) buf = data := by
  apply List.ext_getElem
  · rw [length_addStream (by rwa [length_addStream hlen]), length_addStream hlen]
  · intro i hi hi'
    simp [addStream, UInt8.xor_assoc]

/-- Adding a stream of blocks, of which the one at `i` is `stream i`, to the blocks of a text from the one at `i` on. -/
def addBlocks (stream : ℕ → AesBlock) : ℕ → ℕ → List UInt8 → List UInt8
  | 0, _, _ => []
  | turns + 1, i, data => addStream (data.take 16) (stream i) ++ addBlocks stream turns (i + 1) (data.drop 16)

lemma length_addBlocks (stream : ℕ → AesBlock) :
    ∀ (turns i : ℕ) (data : List UInt8), data.length ≤ 16 * turns →
      (addBlocks stream turns i data).length = data.length := by
  intro turns
  induction turns with
  | zero =>
    intro i data hlen
    have hnone : data.length = 0 := by omega
    rw [addBlocks, hnone]
    rfl
  | succ turns ih =>
    intro i data hlen
    have htake : (data.take 16).length ≤ 16 := by
      rw [List.length_take]
      omega
    have hdrop : (data.drop 16).length ≤ 16 * turns := by
      rw [List.length_drop]
      omega
    rw [addBlocks, List.length_append, length_addStream htake, ih _ _ hdrop, ← List.length_append,
      List.take_append_drop]

/-- A stream of blocks that is added twice is gone. -/
lemma addBlocks_addBlocks (stream : ℕ → AesBlock) :
    ∀ (turns i : ℕ) (data : List UInt8), data.length ≤ 16 * turns →
      addBlocks stream turns i (addBlocks stream turns i data) = data := by
  intro turns
  induction turns with
  | zero =>
    intro i data hlen
    have hnone : data.length = 0 := by omega
    rw [addBlocks, List.length_eq_zero_iff.1 hnone]
  | succ turns ih =>
    intro i data hlen
    have htake : (data.take 16).length ≤ 16 := by
      rw [List.length_take]
      omega
    have hdrop : (data.drop 16).length ≤ 16 * turns := by
      rw [List.length_drop]
      omega
    have hlength := length_addStream htake (stream i)
    have hsplit : (addBlocks stream (turns + 1) i data).take 16 = addStream (data.take 16) (stream i) ∧
        (addBlocks stream (turns + 1) i data).drop 16 = addBlocks stream turns (i + 1) (data.drop 16) := by
      rw [addBlocks]
      by_cases hfull : 16 ≤ data.length
      · have hsixteen : (addStream (data.take 16) (stream i)).length = 16 := by
          rw [hlength, List.length_take]
          omega
        exact ⟨List.take_left' hsixteen, List.drop_left' hsixteen⟩
      · have hnil : data.drop 16 = [] := List.drop_eq_nil_of_le (by omega)
        have hempty : addBlocks stream turns (i + 1) [] = [] := by
          apply List.length_eq_zero_iff.1
          rw [length_addBlocks _ _ _ _ (by simp)]
          rfl
        rw [hnil, hempty, List.append_nil]
        constructor
        · apply List.take_of_length_le
          rw [hlength]
          exact htake
        · apply List.drop_eq_nil_of_le
          rw [hlength]
          exact htake
    rw [addBlocks, hsplit.1, hsplit.2, addStream_addStream htake, ih _ _ hdrop, List.take_append_drop]

/-! ## Counter mode -/

/-- `counter[i]++` from the last byte on, until a byte does not wrap. -/
def incCounter : ℕ → AesBlock → AesBlock
  | 0, counter => counter
  | i + 1, counter =>
    let next := Vector.ofFn fun k : Fin 16 => if k.val = i then counter[k] + 1 else counter[k]
    if next.toList.getD i 0 ≠ 0 then next else incCounter i next

/-- The counter after `i` turns of the loop. -/
def counterAt (nonce : AesBlock) : ℕ → AesBlock
  | 0 => nonce
  | i + 1 => incCounter 16 (counterAt nonce i)

/-- `aes_128_ctr_encrypt`, whose key has 16 bytes; `none` is -1. -/
def aes128CtrEncrypt (key : List UInt8) (nonce : AesBlock) (data : List UInt8) : Option (List UInt8) :=
  (aesEncryptWith key).map fun enc =>
    addBlocks (fun i => enc (counterAt nonce i)) ((data.length + 15) / 16) 0 data

/-- Counter mode undoes itself. -/
lemma aes128CtrEncrypt_eq_some_comm {key : List UInt8} {nonce : AesBlock} {data crypt : List UInt8} :
    aes128CtrEncrypt key nonce data = some crypt ↔ aes128CtrEncrypt key nonce crypt = some data := by
  have hforth : ∀ data crypt : List UInt8, aes128CtrEncrypt key nonce data = some crypt →
      aes128CtrEncrypt key nonce crypt = some data := by
    intro data crypt hcrypt
    obtain ⟨enc, henc, rfl⟩ := Option.map_eq_some_iff.1 hcrypt
    have hlen : data.length ≤ 16 * ((data.length + 15) / 16) := by omega
    rw [aes128CtrEncrypt, henc, Option.map_some, length_addBlocks _ _ _ _ hlen, addBlocks_addBlocks _ _ _ _ hlen]
  exact ⟨hforth data crypt, hforth crypt data⟩

/-! ## SIV -/

/-- `dbl`, which is `gf_mulx` again. -/
def dbl (pad : AesBlock) : AesBlock := gfMulx pad

/-- `xorend`. -/
def xorend (a b : List UInt8) : List UInt8 :=
  if a.length < b.length then a
  else a.take (a.length - b.length) ++ List.zipWith (· ^^^ ·) (a.drop (a.length - b.length)) b

/-- `pad_block`. -/
def padBlock (data : List UInt8) : AesBlock :=
  if data.length < 16 then xorByte data.length (blockOf data) 0x80 else blockOf data

/-- The loop of `aes_s2v` over all elements but the last one. -/
def s2vLoop (mem : RoundKeys) (key : List UInt8) : AesBlock → List (List UInt8) → Option AesBlock
  | tmp, [] => some tmp
  | tmp, elem :: elems => do
    let tmp2 ← omac1Aes128 mem key elem
    s2vLoop mem key (xorBlock (dbl tmp) tmp2) elems

/-- `aes_s2v`. -/
def aesS2v (mem : RoundKeys) (key : List UInt8) (elems : List (List UInt8)) : Option AesBlock :=
  match elems.getLast? with
  | none => omac1Aes128 mem key (xorByte 15 zeroBlock 1).toList
  | some last => do
    let tmp ← omac1Aes128 mem key zeroBlock.toList
    let tmp ← s2vLoop mem key tmp elems.dropLast
    if 16 ≤ last.length then omac1Aes128 mem key (xorend last tmp.toList)
    else omac1Aes128 mem key (xorBlock (dbl tmp) (padBlock last)).toList

/-- The 63rd and the 31st bit of the counter are cleared. -/
def sivCounter (v : AesBlock) : AesBlock :=
  Vector.ofFn fun k : Fin 16 => if k.val = 8 ∨ k.val = 12 then v.get k &&& 0x7f else v.get k

/-- `aes_siv_encrypt`, whose key has 32 bytes: the code and the text behind it. -/
def aesSivEncrypt (mem : RoundKeys) (key pw : List UInt8) (elems : List (List UInt8)) : Option (List UInt8) :=
  if 5 < elems.length then none
  else do
    let v ← aesS2v mem (key.take 16) (elems ++ [pw])
    let crypt ← aes128CtrEncrypt ((key.drop 16).take 16) (sivCounter v) pw
    some (v.toList ++ crypt)

/-- `aes_siv_decrypt`. -/
def aesSivDecrypt (mem : RoundKeys) (key ivCrypt : List UInt8) (elems : List (List UInt8)) : Option (List UInt8) :=
  if ivCrypt.length < 16 ∨ 5 < elems.length then none
  else do
    let out ← aes128CtrEncrypt ((key.drop 16).take 16) (sivCounter (blockOf (ivCrypt.take 16))) (ivCrypt.drop 16)
    let check ← aesS2v mem (key.take 16) (elems ++ [out])
    if check.toList = ivCrypt.take 16 then some out else none

/-- What was in the memory makes no difference. -/
lemma omac1Aes128_mem (mem mem' : RoundKeys) : omac1Aes128 mem = omac1Aes128 mem' := by
  funext key data
  rw [omac1Aes128_eq, omac1Aes128_eq]

lemma s2vLoop_mem (mem mem' : RoundKeys) (key : List UInt8) (elems : List (List UInt8)) :
    ∀ tmp, s2vLoop mem key tmp elems = s2vLoop mem' key tmp elems := by
  induction elems with
  | nil =>
    intro tmp
    rfl
  | cons elem elems ih =>
    intro tmp
    simp only [s2vLoop, omac1Aes128_mem mem mem', ih]

lemma aesS2v_mem (mem mem' : RoundKeys) : aesS2v mem = aesS2v mem' := by
  funext key elems
  simp only [aesS2v, omac1Aes128_mem mem mem', s2vLoop_mem mem mem']

lemma blockOf_toList (b : AesBlock) : blockOf b.toList = b := by
  apply Vector.ext
  intro i hi
  simp [blockOf]

lemma toList_blockOf {m : List UInt8} (hlen : m.length = 16) : (blockOf m).toList = m := by
  apply List.ext_getElem
  · rw [Vector.length_toList, hlen]
  · intro i hi hi'
    simp [blockOf, hi']

/-- SIV accepts exactly what it writes. -/
theorem aesSivDecrypt_eq_some_iff (mem mem' : RoundKeys) (key ivCrypt pw : List UInt8) (elems : List (List UInt8)) :
    aesSivDecrypt mem' key ivCrypt elems = some pw ↔ aesSivEncrypt mem key pw elems = some ivCrypt := by
  rw [aesSivDecrypt, aesSivEncrypt, aesS2v_mem mem' mem]
  by_cases hmany : 5 < elems.length
  · simp [hmany]
  by_cases hshort : ivCrypt.length < 16
  · rw [if_pos (Or.inl hshort), if_neg hmany]
    constructor
    · intro hnone
      cases hnone
    · intro henc
      obtain ⟨v, _, hrest⟩ := Option.bind_eq_some_iff.1 henc
      obtain ⟨crypt, _, heq⟩ := Option.bind_eq_some_iff.1 hrest
      have hlength := congrArg List.length (Option.some.inj heq)
      rw [List.length_append, Vector.length_toList] at hlength
      omega
  · have hneither : ¬(ivCrypt.length < 16 ∨ 5 < elems.length) := not_or.2 ⟨hshort, hmany⟩
    have hiv : (ivCrypt.take 16).length = 16 := by
      rw [List.length_take]
      omega
    rw [if_neg hneither, if_neg hmany]
    constructor
    · intro hdec
      obtain ⟨out, hctr, hrest⟩ := Option.bind_eq_some_iff.1 hdec
      obtain ⟨check, hs2v, hcheck⟩ := Option.bind_eq_some_iff.1 hrest
      by_cases heq : check.toList = ivCrypt.take 16
      · rw [if_pos heq] at hcheck
        cases hcheck
        have hblock : blockOf (ivCrypt.take 16) = check := by rw [← heq, blockOf_toList]
        rw [hblock] at hctr
        rw [hs2v]
        simp only [Option.bind_eq_bind, Option.bind_some]
        rw [aes128CtrEncrypt_eq_some_comm.1 hctr, Option.bind_some, heq, List.take_append_drop]
      · rw [if_neg heq] at hcheck
        cases hcheck
    · intro henc
      obtain ⟨v, hs2v, hrest⟩ := Option.bind_eq_some_iff.1 henc
      obtain ⟨crypt, hctr, heq⟩ := Option.bind_eq_some_iff.1 hrest
      have hsplit := Option.some.inj heq
      have htake : ivCrypt.take 16 = v.toList := by
        rw [← hsplit]
        exact List.take_left' (Vector.length_toList ..)
      have hdrop : ivCrypt.drop 16 = crypt := by
        rw [← hsplit]
        exact List.drop_left' (Vector.length_toList ..)
      rw [htake, hdrop, blockOf_toList, aes128CtrEncrypt_eq_some_comm.1 hctr]
      simp only [Option.bind_eq_bind, Option.bind_some]
      rw [hs2v, Option.bind_some, if_pos rfl]

/-! ## CCM -/

section

variable (enc : AesBlock → AesBlock)

/-- The first byte of `B_0`, for `L = 2`; `M` is a `size_t`. -/
def ccmFlags (M aadLen : ℕ) : UInt8 :=
  (if aadLen = 0 then (0 : UInt8) else 0x40) ||| (((UInt64.ofNat M - 2) / 2) <<< 3).toUInt8 ||| 1

/-- `WPA_PUT_BE16`. -/
def be16Bytes (n : ℕ) : List UInt8 := [UInt8.ofNat (n / 256), UInt8.ofNat n]

/-- `aes_ccm_auth_start`: `X_1`, and what it becomes with the data that is only authenticated. -/
def aesCcmAuthStart (M : ℕ) (nonce aad : List UInt8) (plainLen : ℕ) : AesBlock :=
  let x := enc (blockOf ([ccmFlags M aad.length] ++ nonce.take 13 ++ be16Bytes plainLen))
  if aad.length = 0 then x
  else
    let aadBuf := be16Bytes aad.length ++ aad
    let x := enc (xorBlock (blockOf aadBuf) x)
    if 14 < aad.length then enc (xorBlock (blockOf (aadBuf.drop 16)) x) else x

/-- `aes_ccm_auth`. -/
def aesCcmAuth (data : List UInt8) (x : AesBlock) : AesBlock :=
  let x := cbcBlocks enc (data.length / 16) x data
  if data.length % 16 ≠ 0 then enc (xorBlock x (blockOf (data.drop (16 * (data.length / 16))))) else x

/-- `A_i`, of which only the last two bytes count. -/
def ccmCounter (nonce : List UInt8) (i : ℕ) : AesBlock :=
  blockOf ([1] ++ nonce.take 13 ++ be16Bytes i)

/-- `aes_ccm_encr`. -/
def aesCcmEncr (nonce data : List UInt8) : List UInt8 :=
  addBlocks (fun i => enc (ccmCounter nonce i)) ((data.length + 15) / 16) 1 data

/-- `aes_ccm_encr_auth` and `aes_ccm_decr_auth`: the first bytes of `S_0` are added. -/
def aesCcmEncrAuth (nonce t : List UInt8) : List UInt8 :=
  addStream t (enc (ccmCounter nonce 0))

end

/-- `aes_ccm_ae`: the text and the code; `none` is -1.  The nonce has 13 bytes. -/
def aesCcmAe (key nonce : List UInt8) (M : ℕ) (plain aad : List UInt8) : Option (List UInt8 × List UInt8) :=
  if 30 < aad.length ∨ 16 < M then none
  else
    (aesEncryptWith key).map fun enc =>
      let x := aesCcmAuth enc plain (aesCcmAuthStart enc M nonce aad plain.length)
      (aesCcmEncr enc nonce plain, aesCcmEncrAuth enc nonce (x.toList.take M))

/-- `aes_ccm_ad` of a text and a code of `M` bytes. -/
def aesCcmAd (key nonce : List UInt8) (M : ℕ) (crypt aad auth : List UInt8) : Option (List UInt8) :=
  if 30 < aad.length ∨ 16 < M then none
  else do
    let enc ← aesEncryptWith key
    let t := aesCcmEncrAuth enc nonce (auth.take M)
    let plain := aesCcmEncr enc nonce crypt
    let x := aesCcmAuth enc plain (aesCcmAuthStart enc M nonce aad crypt.length)
    if x.toList.take M = t then some plain else none

lemma length_aesCcmEncr (enc : AesBlock → AesBlock) (nonce data : List UInt8) :
    (aesCcmEncr enc nonce data).length = data.length :=
  length_addBlocks _ _ _ _ (by omega)

lemma aesCcmEncr_aesCcmEncr (enc : AesBlock → AesBlock) (nonce data : List UInt8) :
    aesCcmEncr enc nonce (aesCcmEncr enc nonce data) = data := by
  rw [aesCcmEncr, length_aesCcmEncr, aesCcmEncr]
  exact addBlocks_addBlocks _ _ _ _ (by omega)

/-- CCM accepts exactly what it writes. -/
theorem aesCcmAd_eq_some_iff (key nonce plain aad crypt auth : List UInt8) :
    aesCcmAd key nonce auth.length crypt aad auth = some plain ↔
      aesCcmAe key nonce auth.length plain aad = some (crypt, auth) := by
  rw [aesCcmAd, aesCcmAe]
  by_cases hparams : 30 < aad.length ∨ 16 < auth.length
  · simp [hparams]
  have hauth : auth.length ≤ 16 := by omega
  rw [if_neg hparams, if_neg hparams]
  rcases aesEncryptWith key with _ | enc
  · simp
  simp only [Option.bind_eq_bind, Option.bind_some, Option.map_some, List.take_length, Option.some.injEq, Prod.mk.injEq]
  have htag : ∀ x : AesBlock, x.toList.take auth.length = aesCcmEncrAuth enc nonce auth ↔
      aesCcmEncrAuth enc nonce (x.toList.take auth.length) = auth := by
    intro x
    have hx : (x.toList.take auth.length).length ≤ 16 := by
      rw [List.length_take]
      omega
    constructor
    · intro heq
      rw [heq]
      exact addStream_addStream hauth _
    · intro heq
      have hback : aesCcmEncrAuth enc nonce (aesCcmEncrAuth enc nonce (x.toList.take auth.length)) =
          x.toList.take auth.length := addStream_addStream hx _
      rw [heq] at hback
      exact hback.symm
  constructor
  · intro hdec
    split_ifs at hdec with hcheck
    have hplain := Option.some.inj hdec
    subst hplain
    rw [length_aesCcmEncr]
    exact ⟨aesCcmEncr_aesCcmEncr enc nonce crypt, (htag _).1 hcheck⟩
  · rintro ⟨rfl, heq⟩
    rw [length_aesCcmEncr, aesCcmEncr_aesCcmEncr, if_pos ((htag _).2 heq)]

/-! ## EAX -/

/-- The code of one of the three parts, told apart by a byte in front. -/
def eaxMac (mem : RoundKeys) (key : List UInt8) (part : UInt8) (data : List UInt8) : Option AesBlock :=
  omac1Aes128 mem key (List.replicate 15 0 ++ [part] ++ data)

/-- `aes_128_eax_encrypt`: the text and the tag; `none` is -1. -/
def aes128EaxEncrypt (mem : RoundKeys) (key nonce hdr data : List UInt8) : Option (List UInt8 × AesBlock) := do
  let nonceMac ← eaxMac mem key 0 nonce
  let hdrMac ← eaxMac mem key 1 hdr
  let data ← aes128CtrEncrypt key nonceMac data
  let dataMac ← eaxMac mem key 2 data
  some (data, xorBlock (xorBlock nonceMac dataMac) hdrMac)

/-- `aes_128_eax_decrypt`; `none` is -1, and -2 where the tag does not match. -/
def aes128EaxDecrypt (mem : RoundKeys) (key nonce hdr data : List UInt8) (tag : AesBlock) : Option (List UInt8) := do
  let nonceMac ← eaxMac mem key 0 nonce
  let hdrMac ← eaxMac mem key 1 hdr
  let dataMac ← eaxMac mem key 2 data
  if tag = xorBlock (xorBlock nonceMac dataMac) hdrMac then aes128CtrEncrypt key nonceMac data else none

/-- EAX accepts exactly what it writes. -/
theorem aes128EaxDecrypt_eq_some_iff (mem mem' : RoundKeys) (key nonce hdr plain crypt : List UInt8) (tag : AesBlock) :
    aes128EaxDecrypt mem' key nonce hdr crypt tag = some plain ↔
      aes128EaxEncrypt mem key nonce hdr plain = some (crypt, tag) := by
  simp only [aes128EaxDecrypt, aes128EaxEncrypt, eaxMac, omac1Aes128_mem mem' mem]
  constructor
  · intro hdec
    obtain ⟨nonceMac, hnonce, hrest⟩ := Option.bind_eq_some_iff.1 hdec
    obtain ⟨hdrMac, hhdr, hrest⟩ := Option.bind_eq_some_iff.1 hrest
    obtain ⟨dataMac, hdata, hcheck⟩ := Option.bind_eq_some_iff.1 hrest
    split_ifs at hcheck with htag
    rw [hnonce, hhdr]
    simp only [Option.bind_eq_bind, Option.bind_some]
    rw [aes128CtrEncrypt_eq_some_comm.1 hcheck, Option.bind_some, hdata, Option.bind_some, ← htag]
  · intro henc
    obtain ⟨nonceMac, hnonce, hrest⟩ := Option.bind_eq_some_iff.1 henc
    obtain ⟨hdrMac, hhdr, hrest⟩ := Option.bind_eq_some_iff.1 hrest
    obtain ⟨data, hctr, hrest⟩ := Option.bind_eq_some_iff.1 hrest
    obtain ⟨dataMac, hdata, heq⟩ := Option.bind_eq_some_iff.1 hrest
    obtain ⟨rfl, rfl⟩ := Prod.mk.inj (Option.some.inj heq)
    rw [hnonce, hhdr]
    simp only [Option.bind_eq_bind, Option.bind_some]
    rw [hdata, Option.bind_some, if_pos rfl]
    exact aes128CtrEncrypt_eq_some_comm.1 hctr

end Ethanol
