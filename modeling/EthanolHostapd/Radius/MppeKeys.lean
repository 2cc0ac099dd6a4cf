import EthanolHostapd.Containers.MaskChain
import EthanolHostapd.Radius.Access

/-!
# MPPE keys

`radius_msg_add_mppe_keys` of `radius/radius.c` puts two encrypted keys into vendor attributes of a message, and
`radius_msg_get_ms_keys` takes them out and decrypts them.  A key has its length in front and is padded with zeros to whole
blocks; the blocks are masked in place with digests of the secret and of the block before, the first one with the digest of
the request authenticator and a salt.

As elsewhere there is no result if a byte outside a buffer is read or written.
-/

namespace Ethanol

namespace RadiusMsg

/-! ## The code -/

section Code

variable (crypto : RadiusCrypto) (secret : Bytes) (reqAuth : Md5Digest)

/-- The length of an encrypted key. -/
def encryptedLen (keyLen : ℕ) : ℕ :=
  let len := 1 + keyLen
  if len &&& 0x0f ≠ 0 then (len &&& 0xf0) + 16 else len

/-- What follows the secret in the digest for the block at `pos`. -/
def encryptBlockInput (saltbuf ebuf : Bytes) (pos : ℕ) : Bool → Option Bytes
  | true => some (reqAuth.toList ++ saltbuf)
  | false => Buffer.read ebuf (pos - 16) 16

/-- The loop of `encrypt_ms_key`, from `pos` on.  A digest that cannot be computed is the one before. -/
def encryptMsBlocks (saltbuf : Bytes) : ℕ → ℕ → Bool → Bytes → Md5Digest → Option Bytes
  | 0, _, _, ebuf, _ => some ebuf
  | blocks + 1, pos, first, ebuf, hash => do
    let input ← encryptBlockInput reqAuth saltbuf ebuf pos first
    let hash := (crypto.md5 (secret ++ input)).getD hash
    let block ← Buffer.read ebuf pos 16
    let ebuf ← Buffer.write ebuf pos (xorDigest block hash)
    encryptMsBlocks saltbuf blocks (pos + 16) false ebuf hash

/-- `encrypt_ms_key`, with what it leaves in `ebuf` and the length. -/
def encryptMsKey (key : Bytes) (salt : UInt16) (ebuf : Bytes) (stack : Md5Digest) : Option (Bytes × ℕ) := do
  let len := encryptedLen key.length
  let ebuf ← Buffer.write ebuf 0 (List.replicate len 0)
  let ebuf ← Buffer.write ebuf 0 [UInt8.ofNat key.length]
  let ebuf ← Buffer.write ebuf 1 key
  let ebuf ← encryptMsBlocks crypto secret reqAuth (Wire.beBytes 2 salt.toNat) ((len + 15) / 16) 0 true ebuf stack
  return (ebuf, len)

variable (malloc : (n : ℕ) → Vector UInt8 n) (stack : Md5Digest)

/-- One half of `radius_msg_add_mppe_keys`, with what is in the memory at the start. -/
def addMppeKey (msg : RadiusMsg) (vendorType : UInt8) (salt : UInt16) (key : Bytes) : Option (Option RadiusMsg) := do
  let hlen := 4 + 2 + 2
  let buf ← Buffer.write (malloc (hlen + key.length + 16)).toList 0 (Wire.beBytes 4 radiusVendorIdMicrosoft)
  let buf ← Buffer.write buf 4 [vendorType]
  let buf ← Buffer.write buf 6 (Wire.beBytes 2 salt.toNat)
  let (ebuf, elen) ← encryptMsKey crypto secret reqAuth key salt (buf.drop hlen) stack
  let buf ← Buffer.write (buf.take hlen ++ ebuf) 5 [UInt8.ofNat (hlen + elen - 4)]
  let data ← Buffer.read buf 0 (hlen + elen)
  return msg.addAttr radiusAttrVendorSpecific data

end Code

/-- `radius_msg_add_mppe_keys`; the inner `none` is the return of 0.  `os_get_random` may fail. -/
def addMppeKeys (crypto : RadiusCrypto) (secret : Bytes) (reqAuth : Md5Digest) (malloc : ℕ → (n : ℕ) → Vector UInt8 n)
    (stack : ℕ → Md5Digest) (msg : RadiusMsg) (sendKey recvKey : Bytes) : Option UInt16 → Option (Option RadiusMsg)
  | none => some none
  | some random => do
    let salt := random ||| 0x8000
    match ← addMppeKey crypto secret reqAuth (malloc 0) (stack 0) msg radiusVendorAttrMsMppeSendKey salt sendKey with
    | none => return none
    | some msg =>
      addMppeKey crypto secret reqAuth (malloc 1) (stack 1) msg radiusVendorAttrMsMppeRecvKey (salt ^^^ 1) recvKey

/-! ## One key -/

section Key

variable {secret saltbuf : Bytes} {reqAuth : Md5Digest} (md5 : Bytes → Md5Digest) (hmacMd5 : Bytes → Bytes → Md5Digest)

lemma xorDigest_xorDigest {block : Bytes} (h : block.length = 16) (hash : Md5Digest) :
    xorDigest (xorDigest block hash) hash = block := by
  refine List.ext_getElem (by simp [xorDigest, h]) fun i hi hi' => ?_
  simp only [xorDigest, List.getElem_zipWith]
  rw [UInt8.xor_assoc, UInt8.xor_self, UInt8.xor_zero]

/-- The key as it is encrypted: its length, its bytes and zeros. -/
def paddedKey (key : Bytes) : Bytes :=
  UInt8.ofNat key.length :: key ++ List.replicate (encryptedLen key.length - 1 - key.length) 0

lemma encryptedLen_eq {n : ℕ} (hn : n ≤ 239) : encryptedLen n = 16 * ((n + 16) / 16) := by
  have hall : ∀ n < 240, encryptedLen n = 16 * ((n + 16) / 16) := by decide +kernel
  exact hall n (by omega)

lemma lt_encryptedLen {n : ℕ} (hn : n ≤ 239) : n < encryptedLen n ∧ encryptedLen n ≤ n + 16 := by
  rw [encryptedLen_eq hn]
  omega

lemma length_paddedKey {key : Bytes} (hkey : key.length ≤ 239) : (paddedKey key).length = encryptedLen key.length := by
  have hlt := (lt_encryptedLen hkey).1
  rw [paddedKey, List.length_append, List.length_cons, List.length_replicate]
  omega

/-- The three writes before the loop leave the padded key. -/
lemma write_paddedKey {key ebuf : Bytes} (hkey : key.length ≤ 239) (hebuf : key.length + 16 ≤ ebuf.length) :
    ((Buffer.write ebuf 0 (List.replicate (encryptedLen key.length) 0)).bind fun ebuf =>
      (Buffer.write ebuf 0 [UInt8.ofNat key.length]).bind fun ebuf => Buffer.write ebuf 1 key) =
        some (paddedKey key ++ ebuf.drop (encryptedLen key.length)) := by
  obtain ⟨hlt, hle⟩ := lt_encryptedLen hkey
  obtain ⟨pad, hpad⟩ := Nat.exists_eq_add_of_lt hlt
  rw [hpad] at hle
  rw [paddedKey, hpad]
  have hzeros : Buffer.write ([] ++ (ebuf.take (key.length + pad + 1) ++ ebuf.drop (key.length + pad + 1))) 0
      (List.replicate (key.length + pad + 1) 0) =
        some ([] ++ (List.replicate (key.length + pad + 1) 0 ++ ebuf.drop (key.length + pad + 1))) :=
    Buffer.write_block rfl (by rw [List.length_replicate, List.length_take]; omega)
  have hlength : Buffer.write ([] ++ ([0] ++ (List.replicate (key.length + pad) 0 ++ ebuf.drop (key.length + pad + 1)))) 0
      [UInt8.ofNat key.length] = some ([] ++ ([UInt8.ofNat key.length] ++
        (List.replicate (key.length + pad) 0 ++ ebuf.drop (key.length + pad + 1)))) := Buffer.write_block rfl rfl
  have hbytes : Buffer.write ([UInt8.ofNat key.length] ++ (List.replicate key.length 0 ++
      (List.replicate pad 0 ++ ebuf.drop (key.length + pad + 1)))) 1 key =
        some ([UInt8.ofNat key.length] ++ (key ++ (List.replicate pad 0 ++ ebuf.drop (key.length + pad + 1)))) :=
    Buffer.write_block rfl (by rw [List.length_replicate])
  rw [List.nil_append, List.take_append_drop] at hzeros
  rw [hzeros, Option.bind_some, List.nil_append, List.replicate_succ, List.cons_append, ← List.singleton_append]
  rw [List.nil_append] at hlength
  rw [hlength, Option.bind_some, List.nil_append, List.replicate_add, List.append_assoc, hbytes]
  simp [Nat.add_assoc]

/-- The blocks are masked with a chain of digests. -/
lemma encryptMsBlocks_eq {bs : List Bytes} (hbs : ∀ b ∈ bs, b.length = 16) {pre post input : Bytes} {first : Bool}
    (hash : Md5Digest)
    (hinput : encryptBlockInput reqAuth saltbuf (pre ++ (bs.flatten ++ post)) pre.length first = some input) :
    encryptMsBlocks (.ofFunctions md5 hmacMd5) secret reqAuth saltbuf bs.length pre.length first
        (pre ++ (bs.flatten ++ post)) hash =
      some (pre ++ ((MaskChain.encipher xorDigest (fun c => md5 (secret ++ c)) (md5 (secret ++ input)) bs).flatten ++ post)) := by
  induction bs generalizing pre input first hash with
  | nil => rfl
  | cons b bs ih =>
    have hb : b.length = 16 := hbs b List.mem_cons_self
    have hmask := length_xorDigest hb (md5 (secret ++ input))
    have hbuf : pre ++ ((b :: bs).flatten ++ post) = pre ++ (b ++ (bs.flatten ++ post)) := by
      rw [List.flatten_cons, List.append_assoc]
    have hpos : pre.length + 16 = (pre ++ xorDigest b (md5 (secret ++ input))).length := by
      rw [List.length_append, hmask]
    -- the block that was just written is what the next pad is computed from
    have hnext : encryptBlockInput reqAuth saltbuf ((pre ++ xorDigest b (md5 (secret ++ input))) ++ (bs.flatten ++ post))
        (pre ++ xorDigest b (md5 (secret ++ input))).length false = some (xorDigest b (md5 (secret ++ input))) := by
      rw [List.append_assoc]
      exact Buffer.read_block (by rw [← hpos, Nat.add_sub_cancel]) hmask.symm
    have hrest := ih (fun b' hb' => hbs b' (List.mem_cons_of_mem _ hb')) (md5 (secret ++ input)) hnext
    rw [← hpos, List.append_assoc] at hrest
    rw [List.length_cons, encryptMsBlocks, hinput, hbuf]
    simp only [Option.bind_eq_bind, Option.bind_some]
    rw [Buffer.read_block rfl hb.symm, Option.bind_some]
    change (Buffer.write (pre ++ (b ++ (bs.flatten ++ post))) pre.length (xorDigest b (md5 (secret ++ input)))).bind _ = _
    rw [Buffer.write_block rfl (hmask.trans hb.symm), Option.bind_some, MaskChain.encipher, List.flatten_cons]
    refine hrest.trans ?_
    rw [List.append_assoc, List.append_assoc]

/-- The blocks of a received key are unmasked with the same chain. -/
lemma decryptMsBlocks_eq {cs : List Bytes} (hcs : ∀ c ∈ cs, c.length = 16) {pre input : Bytes} {first : Bool}
    (hinput : msBlockInput (pre ++ cs.flatten) reqAuth pre.length first = some input) :
    decryptMsBlocks (.ofFunctions md5 hmacMd5) secret (pre ++ cs.flatten) reqAuth cs.length pre.length first =
      some (some (MaskChain.decipher xorDigest (fun c => md5 (secret ++ c)) (md5 (secret ++ input)) cs).flatten) := by
  induction cs generalizing pre input first with
  | nil => rfl
  | cons c cs ih =>
    have hc : c.length = 16 := hcs c List.mem_cons_self
    have hpos : pre.length + 16 = (pre ++ c).length := by rw [List.length_append, hc]
    have hnext : msBlockInput ((pre ++ c) ++ cs.flatten) reqAuth (pre ++ c).length false = some c := by
      rw [List.append_assoc]
      exact Buffer.read_block (by rw [← hpos, Nat.add_sub_cancel]) hc.symm
    have hrest := ih (fun c' hc' => hcs c' (List.mem_cons_of_mem _ hc')) hnext
    rw [← hpos, List.append_assoc, ← List.flatten_cons] at hrest
    have hblock : Buffer.read (pre ++ (c :: cs).flatten) pre.length 16 = some c := Buffer.read_block rfl hc.symm
    rw [List.length_cons, decryptMsBlocks, hinput]
    simp only [Option.bind_eq_bind, Option.bind_some, RadiusCrypto.ofFunctions] at hrest ⊢
    rw [hblock, Option.bind_some, hrest, Option.bind_some]
    rfl

/-- An encrypted key. -/
lemma exists_encryptMsKey {key ebuf : Bytes} (hkey : key.length ≤ 239) (hebuf : key.length + 16 ≤ ebuf.length)
    (salt : UInt16) (stack : Md5Digest) :
    ∃ bs : List Bytes, (∀ b ∈ bs, b.length = 16) ∧ bs.flatten = paddedKey key ∧
      16 * bs.length = encryptedLen key.length ∧
        encryptMsKey (.ofFunctions md5 hmacMd5) secret reqAuth key salt ebuf stack =
          some ((MaskChain.encipher xorDigest (fun c => md5 (secret ++ c))
            (md5 (secret ++ (reqAuth.toList ++ Wire.beBytes 2 salt.toNat))) bs).flatten ++
              ebuf.drop (encryptedLen key.length), encryptedLen key.length) := by
  have hlen := encryptedLen_eq hkey
  obtain ⟨bs, hcount, hbs, hflatten⟩ := MaskChain.exists_blocks 16 _ ((length_paddedKey hkey).trans hlen)
  have hrounds : (encryptedLen key.length + 15) / 16 = bs.length := by omega
  have hloop := @encryptMsBlocks_eq secret (Wire.beBytes 2 salt.toNat) reqAuth md5 hmacMd5 bs hbs []
    (ebuf.drop (encryptedLen key.length)) _ true stack rfl
  refine ⟨bs, hbs, hflatten, by omega, ?_⟩
  obtain ⟨zeros, hzeros, hwrite⟩ := Option.bind_eq_some_iff.mp (write_paddedKey hkey hebuf)
  obtain ⟨front, hfront, hbytes⟩ := Option.bind_eq_some_iff.mp hwrite
  rw [← hflatten] at hbytes
  simp only [encryptMsKey, hzeros, hfront, hbytes, hrounds, Option.bind_eq_bind, Option.bind_some]
  rw [List.nil_append, List.nil_append, List.length_nil] at hloop
  rw [hloop]
  rfl

lemma length_flatten_blocks {bs : List Bytes} (hbs : ∀ b ∈ bs, b.length = 16) : bs.flatten.length = 16 * bs.length := by
  induction bs with
  | nil => rfl
  | cons b bs ih =>
    rw [List.flatten_cons, List.length_append, hbs b List.mem_cons_self, ih fun b' hb' => hbs b' (List.mem_cons_of_mem _ hb'),
      List.length_cons]
    omega

/-- A padded key begins with its length and goes on with the key. -/
lemma read_paddedKey (key : Bytes) :
    Buffer.read (paddedKey key) 0 1 = some [UInt8.ofNat key.length] ∧ Buffer.read (paddedKey key) 1 key.length = some key := by
  constructor
  · exact @Buffer.read_block _ 0 1 [] [UInt8.ofNat key.length] _ rfl rfl
  · exact @Buffer.read_block _ 1 key.length [UInt8.ofNat key.length] key _ rfl rfl

/-- A received key that is unmasked to a padded one. -/
lemma decryptMsKey_eq {cs : List Bytes} (hcs : ∀ c ∈ cs, c.length = 16) (hsalt : saltbuf.length = 2) {key : Bytes}
    (hpos : 1 ≤ key.length) (hkey : key.length ≤ 239)
    (hplain : (MaskChain.decipher xorDigest (fun c => md5 (secret ++ c)) (md5 (secret ++ (reqAuth.toList ++ saltbuf))) cs).flatten =
      paddedKey key) (hlength : 16 * cs.length = encryptedLen key.length) :
    decryptMsKey (.ofFunctions md5 hmacMd5) secret (saltbuf ++ cs.flatten) reqAuth = some (some key) := by
  have hlt := (lt_encryptedLen hkey).1
  have hcontent : (saltbuf ++ cs.flatten).length = 2 + 16 * cs.length := by
    rw [List.length_append, hsalt, length_flatten_blocks hcs]
  have hblocks : ((saltbuf ++ cs.flatten).length - 2) / 16 = cs.length := by omega
  have hinput : msBlockInput (saltbuf ++ cs.flatten) reqAuth saltbuf.length true = some (reqAuth.toList ++ saltbuf) := by
    have hread : Buffer.read ([] ++ (saltbuf ++ cs.flatten)) 0 2 = some saltbuf := Buffer.read_block rfl hsalt.symm
    rw [List.nil_append] at hread
    rw [msBlockInput, hread, Option.map_some]
  have hloop := @decryptMsBlocks_eq secret reqAuth md5 hmacMd5 cs hcs saltbuf _ true hinput
  obtain ⟨hfirst, hrest⟩ := read_paddedKey key
  have hlen : (UInt8.ofNat key.length).toNat = key.length := by
    rw [UInt8.toNat_ofNat']
    omega
  have hfits : (decide (key.length = 0) || decide (encryptedLen key.length - 1 < key.length)) = false := by
    rw [decide_eq_false (by omega), decide_eq_false (by omega), Bool.or_false]
  rw [hplain, hsalt] at hloop
  rw [decryptMsKey, if_neg (by omega), if_neg (by omega), hblocks, hloop]
  simp only [Option.bind_eq_bind, Option.bind_some, hfirst, List.getD_cons_zero, hlen, hrest, length_paddedKey hkey, hfits]
  rfl

/-- What is in front of an encrypted key: the vendor, the header of the vendor attribute and the salt. -/
def mppeHdr (vendorType : UInt8) (elen : ℕ) (salt : UInt16) : Bytes :=
  Wire.beBytes 4 radiusVendorIdMicrosoft ++ ([vendorType] ++ ([UInt8.ofNat (4 + elen)] ++ Wire.beBytes 2 salt.toNat))

lemma length_mppeHdr (vendorType : UInt8) (elen : ℕ) (salt : UInt16) : (mppeHdr vendorType elen salt).length = 8 := by
  simp [mppeHdr, Wire.length_beBytes]

/-- The attribute that carries a key. -/
lemma addMppeKey_eq (malloc : (n : ℕ) → Vector UInt8 n) (stack : Md5Digest) (msg : RadiusMsg) (vendorType : UInt8)
    (salt : UInt16) {key : Bytes} (hkey : key.length ≤ 239) :
    ∃ bs : List Bytes, (∀ b ∈ bs, b.length = 16) ∧ bs.flatten = paddedKey key ∧
      16 * bs.length = encryptedLen key.length ∧
        addMppeKey (.ofFunctions md5 hmacMd5) secret reqAuth malloc stack msg vendorType salt key =
          some (msg.addAttr radiusAttrVendorSpecific (mppeHdr vendorType (16 * bs.length) salt ++
            (MaskChain.encipher xorDigest (fun c => md5 (secret ++ c))
              (md5 (secret ++ (reqAuth.toList ++ Wire.beBytes 2 salt.toNat))) bs).flatten)) := by
  obtain ⟨buf, hbuf⟩ : ∃ buf, (malloc (4 + 2 + 2 + key.length + 16)).toList = buf := ⟨_, rfl⟩
  have hlength : buf.length = 4 + 2 + 2 + key.length + 16 := by rw [← hbuf, Vector.length_toList]
  obtain ⟨vid, ty, len, sb, e, rfl, hvid, hty, hlen, hsb⟩ : ∃ vid ty len sb e : Bytes,
      buf = vid ++ (ty ++ (len ++ (sb ++ e))) ∧ vid.length = 4 ∧ ty.length = 1 ∧ len.length = 1 ∧ sb.length = 2 := by
    refine ⟨buf.take 4, (buf.drop 4).take 1, ((buf.drop 4).drop 1).take 1, (((buf.drop 4).drop 1).drop 1).take 2,
      (((buf.drop 4).drop 1).drop 1).drop 2, ?_, ?_, ?_, ?_, ?_⟩
    · simp only [List.take_append_drop]
    all_goals simp only [List.length_take, List.length_drop]; omega
  have he : key.length + 16 ≤ e.length := by
    simp only [List.length_append] at hlength
    omega
  obtain ⟨bs, hbs, hflatten, hcount, hencrypt⟩ := @exists_encryptMsKey secret reqAuth md5 hmacMd5 key e hkey he salt stack
  refine ⟨bs, hbs, hflatten, hcount, ?_⟩
  obtain ⟨cipher, hcipher⟩ : ∃ cipher, (MaskChain.encipher xorDigest (fun c => md5 (secret ++ c))
    (md5 (secret ++ (reqAuth.toList ++ Wire.beBytes 2 salt.toNat))) bs).flatten = cipher := ⟨_, rfl⟩
  have hcipherLength : cipher.length = 16 * bs.length := by
    rw [← hcipher, length_flatten_blocks (MaskChain.forall_mem_encipher (fun _ k h => length_xorDigest h k) hbs _),
      MaskChain.length_encipher]
  rw [hcipher, ← hcount] at hencrypt
  rw [hcipher]
  obtain ⟨vendor, hvendor⟩ : ∃ vendor, Wire.beBytes 4 radiusVendorIdMicrosoft = vendor := ⟨_, rfl⟩
  obtain ⟨saltbuf, hsaltbuf⟩ : ∃ saltbuf, Wire.beBytes 2 salt.toNat = saltbuf := ⟨_, rfl⟩
  have hvendorLength : vendor.length = 4 := by rw [← hvendor, Wire.length_beBytes]
  have hsaltLength : saltbuf.length = 2 := by rw [← hsaltbuf, Wire.length_beBytes]
  have hfirst : Buffer.write (vid ++ (ty ++ (len ++ (sb ++ e)))) 0 vendor = some (vendor ++ (ty ++ (len ++ (sb ++ e)))) :=
    @Buffer.write_block _ vendor 0 [] vid _ rfl (by omega)
  have htype : Buffer.write (vendor ++ (ty ++ (len ++ (sb ++ e)))) 4 [vendorType] =
      some (vendor ++ ([vendorType] ++ (len ++ (sb ++ e)))) := Buffer.write_block (by omega) hty.symm
  have hsalt : Buffer.write (vendor ++ ([vendorType] ++ (len ++ (sb ++ e)))) 6 saltbuf =
      some ((vendor ++ ([vendorType] ++ (len ++ saltbuf))) ++ e) := by
    have hwrite : Buffer.write ((vendor ++ ([vendorType] ++ len)) ++ (sb ++ e)) 6 saltbuf =
        some ((vendor ++ ([vendorType] ++ len)) ++ (saltbuf ++ e)) :=
      Buffer.write_block (by simp only [List.length_append, List.length_singleton]; omega) (by omega)
    simpa only [List.append_assoc] using hwrite
  have hfront : (vendor ++ ([vendorType] ++ (len ++ saltbuf))).length = 8 := by
    simp only [List.length_append, List.length_singleton]
    omega
  have hvendorLen : Buffer.write ((vendor ++ ([vendorType] ++ (len ++ saltbuf))) ++ (cipher ++ e.drop (16 * bs.length))) 5
      [UInt8.ofNat (4 + 2 + 2 + 16 * bs.length - 4)] =
        some ((mppeHdr vendorType (16 * bs.length) salt ++ cipher) ++ e.drop (16 * bs.length)) := by
    have hwrite : Buffer.write ((vendor ++ [vendorType]) ++ (len ++ (saltbuf ++ (cipher ++ e.drop (16 * bs.length))))) 5
        [UInt8.ofNat (4 + 2 + 2 + 16 * bs.length - 4)] = some ((vendor ++ [vendorType]) ++
          ([UInt8.ofNat (4 + 2 + 2 + 16 * bs.length - 4)] ++ (saltbuf ++ (cipher ++ e.drop (16 * bs.length))))) :=
      Buffer.write_block (by simp only [List.length_append, List.length_singleton]; omega) hlen.symm
    have hlen' : 4 + 2 + 2 + 16 * bs.length - 4 = 4 + 16 * bs.length := by omega
    rw [hlen'] at hwrite ⊢
    rw [mppeHdr, hvendor, hsaltbuf]
    simpa only [List.append_assoc] using hwrite
  have hread : Buffer.read ((mppeHdr vendorType (16 * bs.length) salt ++ cipher) ++ e.drop (16 * bs.length)) 0
      (4 + 2 + 2 + 16 * bs.length) = some (mppeHdr vendorType (16 * bs.length) salt ++ cipher) :=
    @Buffer.read_block _ 0 _ [] (mppeHdr vendorType (16 * bs.length) salt ++ cipher) _ rfl
      (by rw [List.length_append, length_mppeHdr, hcipherLength])
  simp only [addMppeKey, hbuf, hvendor, hsaltbuf, hfirst, htype, hsalt, Option.bind_eq_bind, Option.bind_some,
    List.drop_left' hfront, List.take_left' hfront, hencrypt, hvendorLen, hread]
  rfl

end Key

/-! ## Vendor attributes -/

section Vendor

/-- What `radius_msg_get_vendor_attr` finds in an attribute. -/
def vendorData (vendor : ℕ) (subtype : UInt8) (attr : RadiusAttr) : Option Bytes :=
  if attr.type = radiusAttrVendorSpecific ∧ 4 ≤ attr.data.length ∧ Wire.beNat (attr.data.take 4) = vendor then
    (findSubtype attr.data subtype (2 + attr.data.length + 1) 4 (attr.data.length - 4)).join
  else none

variable {pre data post : Bytes} {vendor : ℕ} {subtype : UInt8}

lemma read_inside {off n : ℕ} (h : off + n ≤ data.length) :
    Buffer.read (pre ++ (data ++ post)) (pre.length + off) n = Buffer.read data off n := by
  have hin : pre.length + off + n ≤ (pre ++ (data ++ post)).length := by
    rw [List.length_append, List.length_append]
    omega
  rw [Buffer.read_eq_some hin, Buffer.read_eq_some h, Buffer.window, Buffer.window, List.drop_length_add_append,
    List.drop_append_of_le_length (by omega), List.take_append_of_le_length (by rw [List.length_drop]; omega)]

/-- The inner loop only looks at the attribute. -/
lemma findSubtype_inside {fuel pos left : ℕ} (h : pos + left ≤ data.length) :
    findSubtype (pre ++ (data ++ post)) subtype fuel (pre.length + pos) left = findSubtype data subtype fuel pos left := by
  induction fuel generalizing pos left with
  | zero => rfl
  | succ fuel ih =>
    rw [findSubtype, findSubtype]
    by_cases hleft : left < 2
    · rw [if_pos hleft, if_pos hleft]
    · rw [if_neg hleft, if_neg hleft, read_inside (by omega)]
      refine Option.bind_congr fun vhdr _ => ?_
      obtain ⟨len, hlen⟩ : ∃ len, len = (vhdr.getD 1 0).toNat := ⟨_, rfl⟩
      simp only [← hlen]
      by_cases hbad : (decide (left < len) || decide (len < 2)) = true
      · rw [if_pos hbad, if_pos hbad]
      · have hgood := hbad
        simp only [Bool.or_eq_true, decide_eq_true_eq, not_or, not_lt] at hgood
        rw [if_neg hbad, if_neg hbad, Nat.add_assoc, Nat.add_assoc, ih (by omega), read_inside (by omega)]

/-- The outer loop takes the first attribute in which something is found. -/
lemma findVendorAttr_encode (pre post : Bytes) (vendor : ℕ) (subtype : UInt8) (attrs : List RadiusAttr) :
    let buf := pre ++ (encode attrs ++ post)
    findVendorAttr buf vendor subtype ((positions pre.length attrs).map fun pos => ⟨pos, buf.getD pos 0, lengthAt buf pos⟩) =
      some (attrs.findSome? (vendorData vendor subtype)) := by
  induction attrs generalizing pre with
  | nil => rfl
  | cons attr attrs ih =>
    intro buf
    obtain ⟨htype, hlength, -⟩ := read_attrBytes pre (encode attrs ++ post) attr
    have hbuf : buf = pre ++ (attrBytes attr.type attr.data ++ (encode attrs ++ post)) := by
      rw [← List.append_assoc (attrBytes _ _), ← encode_cons]
    have hrest := ih (pre ++ attrBytes attr.type attr.data)
    simp only [List.append_assoc, List.length_append, length_attrBytes] at hrest
    rw [← hbuf] at hrest htype hlength
    rw [positions, List.map_cons, htype, hlength, List.findSome?_cons, findVendorAttr, hrest]
    by_cases hspecific : attr.type = radiusAttrVendorSpecific
    · by_cases hlong : 4 ≤ attr.data.length
      · -- the attribute is read as its data alone would be
        obtain ⟨front, hfront⟩ : ∃ front, front = pre ++ [attr.type, UInt8.ofNat (2 + attr.data.length)] := ⟨_, rfl⟩
        have hfrontLength : front.length = pre.length + 2 := by
          rw [hfront, List.length_append]
          rfl
        have hdata : buf = front ++ (attr.data ++ (encode attrs ++ post)) := by
          rw [hbuf, hfront, List.append_assoc]
          rfl
        have hid : Buffer.read buf (pre.length + 2) 4 = some (attr.data.take 4) := by
          rw [hdata, ← hfrontLength]
          refine (@read_inside front attr.data (encode attrs ++ post) 0 4 (by omega)).trans ?_
          rw [Buffer.read_eq_some (by omega)]
          rfl
        have hloop : findSubtype buf subtype (2 + attr.data.length + 1) (pre.length + 2 + 4) (2 + attr.data.length - 2 - 4) =
            findSubtype attr.data subtype (2 + attr.data.length + 1) 4 (attr.data.length - 4) := by
          rw [hdata, ← hfrontLength, Nat.add_sub_cancel_left]
          exact findSubtype_inside (by omega)
        rw [if_neg (by simp [hspecific]; omega), if_neg (by simp; omega), hid]
        simp only [Option.bind_eq_bind, Option.bind_some, hloop]
        by_cases hvendor : Wire.beNat (attr.data.take 4) = vendor
        · rw [if_neg (not_not.mpr hvendor), vendorData, if_pos ⟨hspecific, hlong, hvendor⟩]
          obtain ⟨found, hfound⟩ := Option.isSome_iff_exists.mp (isSome_findSubtype subtype
            (show attr.data.length - 4 < 2 + attr.data.length + 1 by omega)
            (show 4 + (attr.data.length - 4) ≤ attr.data.length by omega))
          rw [hfound]
          cases found with
          | none => rfl
          | some found => rfl
        · rw [if_pos hvendor, vendorData, if_neg fun hall => hvendor hall.2.2]
      · rw [if_neg (by simp [hspecific]; omega), if_pos (by simp; omega), vendorData, if_neg fun hall => hlong hall.2.1]
    · rw [if_pos (by simp [hspecific]), vendorData, if_neg fun hall => hspecific hall.1]

/-- The vendor attribute of a key is found under its type and under no other one. -/
lemma vendorData_mppe {attr : RadiusAttr} {vendorType : UInt8} {elen : ℕ} {salt : UInt16} {cipher : Bytes}
    (htype : attr.type = radiusAttrVendorSpecific) (hdata : attr.data = mppeHdr vendorType elen salt ++ cipher)
    (hcipher : cipher.length = elen) (helen : elen ≤ 240) (subtype : UInt8) :
    vendorData radiusVendorIdMicrosoft subtype attr =
      if vendorType = subtype then some (Wire.beBytes 2 salt.toNat ++ cipher) else none := by
  have hlength : attr.data.length = 8 + elen := by rw [hdata, List.length_append, length_mppeHdr, hcipher]
  have hvendor : attr.data.take 4 = Wire.beBytes 4 radiusVendorIdMicrosoft := by
    rw [hdata, mppeHdr, List.append_assoc]
    exact List.take_left' (Wire.length_beBytes ..)
  have hid : Wire.beNat (Wire.beBytes 4 radiusVendorIdMicrosoft) = radiusVendorIdMicrosoft := by decide
  have hhdr : Buffer.read attr.data 4 2 = some [vendorType, UInt8.ofNat (4 + elen)] := by
    rw [hdata, mppeHdr, List.append_assoc]
    exact @Buffer.read_block _ 4 2 _ [vendorType, UInt8.ofNat (4 + elen)] (Wire.beBytes 2 salt.toNat ++ cipher)
      (Wire.length_beBytes ..).symm rfl
  have hvalue : Buffer.read attr.data 6 (2 + elen) = some (Wire.beBytes 2 salt.toNat ++ cipher) := by
    have hsplit : attr.data = (Wire.beBytes 4 radiusVendorIdMicrosoft ++ [vendorType, UInt8.ofNat (4 + elen)]) ++
        ((Wire.beBytes 2 salt.toNat ++ cipher) ++ []) := by
      rw [hdata, mppeHdr, List.append_nil, List.append_assoc, List.append_assoc]
      rfl
    rw [hsplit]
    exact Buffer.read_block (by simp [Wire.length_beBytes]) (by rw [List.length_append, Wire.length_beBytes, hcipher])
  have hlen : (UInt8.ofNat (4 + elen)).toNat = 4 + elen := by
    rw [UInt8.toNat_ofNat']
    omega
  have hleft : attr.data.length - 4 = 4 + elen := by omega
  have hfits : (decide (4 + elen < 4 + elen) || decide (4 + elen < 2)) = false := by
    rw [decide_eq_false (by omega), decide_eq_false (by omega), Bool.or_false]
  have hvalueLength : 4 + elen - 2 = 2 + elen := by omega
  rw [vendorData, if_pos ⟨htype, by omega, by rw [hvendor, hid]⟩, hleft, findSubtype, if_neg (by omega), hhdr]
  simp only [Option.bind_eq_bind, Option.bind_some, List.getD_cons_zero, List.getD_cons_succ, hlen, hfits]
  by_cases hsame : vendorType = subtype
  · rw [if_neg Bool.false_ne_true, if_neg (not_not.mpr hsame), if_pos hsame, hvalueLength, hvalue]
    rfl
  · have hrest : findSubtype attr.data subtype (2 + attr.data.length) (4 + (4 + elen)) (4 + elen - (4 + elen)) = some none := by
      rw [hlength, Nat.add_comm 2, findSubtype, if_pos (by omega)]
    rw [if_neg Bool.false_ne_true, if_pos hsame, if_neg hsame, hrest]
    rfl

end Vendor

/-! ## The round trip -/

section Layout

variable {msg : RadiusMsg} {hdr : Bytes} {attrs : List RadiusAttr}

/-- The attributes of a message are inside it. -/
lemma attrAt_positions {pre : Bytes} (hpre : radiusHdrLen ≤ pre.length) (attrs : List RadiusAttr) :
    ∀ pos ∈ positions pre.length attrs, AttrAt (pre ++ encode attrs) pos := by
  induction attrs generalizing pre with
  | nil => simp [positions]
  | cons attr attrs ih =>
    obtain ⟨-, hlength, -⟩ := read_attrBytes pre (encode attrs) attr
    have hrest := @ih (pre ++ attrBytes attr.type attr.data) (by rw [List.length_append]; omega)
    rw [List.append_assoc, List.length_append, length_attrBytes] at hrest
    rw [positions, encode_cons, List.forall_mem_cons]
    refine ⟨⟨hpre, ?_, ?_⟩, hrest⟩
    · rw [hlength]
      omega
    · rw [hlength, List.length_append, List.length_append, length_attrBytes]
      omega

lemma Layout.wellFormed (h : Layout msg hdr attrs) : msg.WellFormed := by
  refine ⟨h.hdr_le, fun pos hpos => ?_⟩
  rw [h.attrPos_eq, ← h.hdr_length] at hpos
  rw [h.buf_eq]
  exact attrAt_positions h.hdr_length.ge attrs pos hpos

lemma Layout.getVendorAttr_eq (h : Layout msg hdr attrs) (vendor : ℕ) (subtype : UInt8) :
    msg.getVendorAttr vendor subtype = some (attrs.findSome? (vendorData vendor subtype)) := by
  have hfind := findVendorAttr_encode hdr [] vendor subtype attrs
  rw [List.append_nil, ← h.buf_eq, h.hdr_length, ← h.attrPos_eq] at hfind
  rw [getVendorAttr, h.wellFormed.attrHdrs]
  exact hfind

end Layout

/-- The attribute carries this key for this type and nothing for any other type. -/
structure CarriesKey (crypto : RadiusCrypto) (secret : Bytes) (reqAuth : Md5Digest) (vendorType : UInt8) (key : Bytes)
    (attr : RadiusAttr) : Prop where
  found : ∃ content, vendorData radiusVendorIdMicrosoft vendorType attr = some content ∧
    decryptMsKey crypto secret content reqAuth = some (some key)
  other : ∀ subtype ≠ vendorType, vendorData radiusVendorIdMicrosoft subtype attr = none

section Keys

variable (md5 : Bytes → Md5Digest) (hmacMd5 : Bytes → Bytes → Md5Digest) (secret : Bytes) (reqAuth : Md5Digest)

/-- An attribute that carries the key is added. -/
lemma exists_addMppeKey (malloc : (n : ℕ) → Vector UInt8 n) (stack : Md5Digest) (msg : RadiusMsg) (vendorType : UInt8)
    (salt : UInt16) {key : Bytes} (hpos : 1 ≤ key.length) (hkey : key.length ≤ 239) :
    ∃ attr, CarriesKey (.ofFunctions md5 hmacMd5) secret reqAuth vendorType key attr ∧
      addMppeKey (.ofFunctions md5 hmacMd5) secret reqAuth malloc stack msg vendorType salt key =
        some (msg.addAttr attr.type attr.data) := by
  obtain ⟨bs, hbs, hflatten, hcount, hadd⟩ := @addMppeKey_eq secret reqAuth md5 hmacMd5 malloc stack msg vendorType salt key hkey
  have helen : 16 * bs.length ≤ 240 := by
    have hlen := encryptedLen_eq hkey
    omega
  obtain ⟨cs, hcs⟩ : ∃ cs, MaskChain.encipher xorDigest (fun c => md5 (secret ++ c))
    (md5 (secret ++ (reqAuth.toList ++ Wire.beBytes 2 salt.toNat))) bs = cs := ⟨_, rfl⟩
  have hblocks : ∀ c ∈ cs, c.length = 16 := by
    rw [← hcs]
    exact MaskChain.forall_mem_encipher (fun _ k h => length_xorDigest h k) hbs _
  have hcslen : cs.length = bs.length := by rw [← hcs, MaskChain.length_encipher]
  have hcipher : cs.flatten.length = 16 * bs.length := by rw [length_flatten_blocks hblocks, hcslen]
  -- the same pads are computed from the received blocks
  have hplain : (MaskChain.decipher xorDigest (fun c => md5 (secret ++ c))
      (md5 (secret ++ (reqAuth.toList ++ Wire.beBytes 2 salt.toNat))) cs).flatten = paddedKey key := by
    rw [← hcs, MaskChain.decipher_encipher (fun b hb k => xorDigest_xorDigest (hbs b hb) k), hflatten]
  rw [hcs] at hadd
  have hfits : (mppeHdr vendorType (16 * bs.length) salt ++ cs.flatten).length ≤ radiusMaxAttrLen := by
    rw [List.length_append, length_mppeHdr, hcipher, radiusMaxAttrLen]
    omega
  have hdata : RadiusAttr.data ⟨radiusAttrVendorSpecific, _, hfits⟩ = mppeHdr vendorType (16 * bs.length) salt ++ cs.flatten := rfl
  refine ⟨⟨radiusAttrVendorSpecific, _, hfits⟩, ⟨⟨Wire.beBytes 2 salt.toNat ++ cs.flatten, ?_, ?_⟩, fun subtype hne => ?_⟩,
    hadd⟩
  · rw [vendorData_mppe rfl hdata hcipher helen, if_pos rfl]
  · exact decryptMsKey_eq md5 hmacMd5 hblocks (Wire.length_beBytes ..) hpos hkey hplain (by rw [hcslen, hcount])
  · rw [vendorData_mppe rfl hdata hcipher helen, if_neg hne.symm]

/-- The keys of a message in which the attributes of the two keys come first. -/
lemma Layout.getMsKeys_eq {msg sentMsg : RadiusMsg} {hdr : Bytes} {before rest : List RadiusAttr} {send recv : RadiusAttr}
    {crypto : RadiusCrypto} {sendKey recvKey : Bytes} (h : Layout msg hdr (before ++ (send :: recv :: rest)))
    (hbefore : ∀ attr ∈ before, vendorData radiusVendorIdMicrosoft radiusVendorAttrMsMppeSendKey attr = none ∧
      vendorData radiusVendorIdMicrosoft radiusVendorAttrMsMppeRecvKey attr = none)
    (hsend : CarriesKey crypto secret sentMsg.authenticator radiusVendorAttrMsMppeSendKey sendKey send)
    (hrecv : CarriesKey crypto secret sentMsg.authenticator radiusVendorAttrMsMppeRecvKey recvKey recv) :
    msg.getMsKeys crypto secret (some sentMsg) = some (some (some sendKey, some recvKey)) := by
  obtain ⟨⟨sendData, hsendData, hsendKey⟩, hsendOther⟩ := hsend
  obtain ⟨⟨recvData, hrecvData, hrecvKey⟩, -⟩ := hrecv
  have hfront : before.findSome? (vendorData radiusVendorIdMicrosoft radiusVendorAttrMsMppeSendKey) = none ∧
      before.findSome? (vendorData radiusVendorIdMicrosoft radiusVendorAttrMsMppeRecvKey) = none :=
    ⟨List.findSome?_eq_none_iff.mpr fun attr hattr => (hbefore attr hattr).1,
      List.findSome?_eq_none_iff.mpr fun attr hattr => (hbefore attr hattr).2⟩
  have hfirst : msg.getMsKey crypto secret sentMsg radiusVendorAttrMsMppeSendKey = some (some sendKey) := by
    rw [getMsKey, h.getVendorAttr_eq, List.findSome?_append, hfront.1, List.findSome?_cons, hsendData]
    exact hsendKey
  have hsecond : msg.getMsKey crypto secret sentMsg radiusVendorAttrMsMppeRecvKey = some (some recvKey) := by
    rw [getMsKey, h.getVendorAttr_eq, List.findSome?_append, hfront.2, List.findSome?_cons,
      hsendOther radiusVendorAttrMsMppeRecvKey (by decide), List.findSome?_cons, hrecvData]
    exact hrecvKey
  rw [getMsKeys, hfirst, hsecond]
  rfl

end Keys

/-- What is read of a decrypted key and returned lies in the decrypted buffer. -/
lemma exists_decryptMsKey (crypto : RadiusCrypto) (secret content : Bytes) (reqAuth : Md5Digest) :
    ∃ r, decryptMsKey crypto secret content reqAuth = some r ∧ ∀ res ∈ r, ∃ plain,
      decryptMsBlocks crypto secret content reqAuth ((content.length - 2) / 16) 2 true = some (some plain) ∧
        plain.length = content.length - 2 ∧ 1 + res.length ≤ plain.length ∧ res = Buffer.window plain 1 res.length := by
  rw [decryptMsKey]
  split_ifs with hshort hblocks
  · exact ⟨none, rfl, by simp⟩
  · exact ⟨none, rfl, by simp⟩
  · obtain ⟨res, hres, hlength⟩ :
        ∃ res, decryptMsBlocks crypto secret content reqAuth ((content.length - 2) / 16) 2 true = some res ∧
          ∀ plain ∈ res, plain.length = 16 * ((content.length - 2) / 16) :=
      decryptMsBlocks_eq_some (by omega) (by omega) (fun h => absurd h (by decide))
    rw [hres]
    cases res with
    | none => exact ⟨none, rfl, by simp⟩
    | some plain =>
      have hplain := hlength plain rfl
      obtain ⟨len, hlen⟩ : ∃ len, len = ((Buffer.window plain 0 1).getD 0 0).toNat := ⟨_, rfl⟩
      simp only [Option.bind_eq_bind, Option.bind_some, Buffer.read_eq_some (show 0 + 1 ≤ plain.length by omega), ← hlen]
      split_ifs with hbad
      · exact ⟨none, rfl, by simp⟩
      · simp only [Bool.or_eq_true, decide_eq_true_eq, not_or, not_lt] at hbad
        have hwindow : (Buffer.window plain 1 len).length = len := Buffer.length_window (by omega)
        rw [Buffer.read_eq_some (by omega), Option.bind_some]
        refine ⟨some (Buffer.window plain 1 len), rfl, fun res hmem => ?_⟩
        obtain rfl := Option.mem_some_iff.mp hmem
        exact ⟨plain, rfl, by omega, by omega, by rw [hwindow]⟩

/-- The keys that are added to a message are the ones that are taken out of it, before it is finished and after it has been
finished and parsed, if no attribute in front of them has keys as well.  Whatever is received instead, only bytes of the
decrypted buffer are read and returned. -/
theorem getMsKeys_addMppeKeys (md5 : Bytes → Md5Digest) (hmacMd5 : Bytes → Bytes → Md5Digest) (secret : Bytes)
    (sentMsg : RadiusMsg) (malloc : ℕ → (n : ℕ) → Vector UInt8 n) (stack : ℕ → Md5Digest) (code identifier : UInt8)
    (auth : Md5Digest) (before after : List RadiusAttr) (random : UInt16) {sendKey recvKey : Bytes}
    (hsend : 1 ≤ sendKey.length ∧ sendKey.length ≤ 239) (hrecv : 1 ≤ recvKey.length ∧ recvKey.length ≤ 239)
    (hbefore : ∀ attr ∈ before, vendorData radiusVendorIdMicrosoft radiusVendorAttrMsMppeSendKey attr = none ∧
      vendorData radiusVendorIdMicrosoft radiusVendorAttrMsMppeRecvKey attr = none) :
    (∃ msg, ((((new code identifier).setAuthenticator auth).addAttrs before).bind fun msg =>
        (addMppeKeys (.ofFunctions md5 hmacMd5) secret sentMsg.authenticator malloc stack msg sendKey recvKey
          (some random)).bind fun msg => msg.bind fun msg => msg.addAttrs after) = some msg ∧
      msg.getMsKeys (.ofFunctions md5 hmacMd5) secret (some sentMsg) = some (some (some sendKey, some recvKey)) ∧
      ∀ crypto out, FinishedAs crypto msg out → out.buf.length ≤ 0xffff →
        ((parse out.buf).bind fun msg => msg.getMsKeys (.ofFunctions md5 hmacMd5) secret (some sentMsg)) =
          some (some (some sendKey, some recvKey))) ∧
    ∀ (crypto : RadiusCrypto) (content : Bytes) (reqAuth : Md5Digest),
      ∃ r, decryptMsKey crypto secret content reqAuth = some r ∧ ∀ res ∈ r, ∃ plain,
        decryptMsBlocks crypto secret content reqAuth ((content.length - 2) / 16) 2 true = some (some plain) ∧
          plain.length = content.length - 2 ∧ 1 + res.length ≤ plain.length ∧ res = Buffer.window plain 1 res.length := by
  refine ⟨?_, fun crypto content reqAuth => exists_decryptMsKey crypto secret content reqAuth⟩
  obtain ⟨msg₀, hmsg₀, h₀⟩ := ((layout_new code identifier).setAuthenticator auth).addAttrs before
  obtain ⟨send, hsendAttr, haddSend⟩ := exists_addMppeKey md5 hmacMd5 secret sentMsg.authenticator (malloc 0) (stack 0) msg₀
    radiusVendorAttrMsMppeSendKey (random ||| 0x8000) hsend.1 hsend.2
  obtain ⟨msg₁, hmsg₁, h₁⟩ := h₀.addAttr send
  obtain ⟨recv, hrecvAttr, haddRecv⟩ := exists_addMppeKey md5 hmacMd5 secret sentMsg.authenticator (malloc 1) (stack 1) msg₁
    radiusVendorAttrMsMppeRecvKey ((random ||| 0x8000) ^^^ 1) hrecv.1 hrecv.2
  obtain ⟨msg₂, hmsg₂, h₂⟩ := h₁.addAttr recv
  obtain ⟨msg, hmsg, h⟩ := h₂.addAttrs after
  have hattrs : [] ++ before ++ [send] ++ [recv] ++ after = before ++ (send :: recv :: after) := by simp
  rw [hattrs] at h
  refine ⟨msg, ?_, h.getMsKeys_eq secret hbefore hsendAttr hrecvAttr, fun crypto out hout hfits => ?_⟩
  · rw [hmsg₀, Option.bind_some, addMppeKeys]
    simp only [haddSend, hmsg₁, haddRecv, hmsg₂, Option.bind_eq_bind, Option.bind_some, hmsg]
  · obtain ⟨hdr', attrs', hready, -⟩ := h.finishedAs hout
    have hlayout := hready.layout
    rw [List.append_assoc, List.cons_append, List.cons_append] at hlayout
    rw [hready.parse hfits, Option.bind_some]
    exact hlayout.getMsKeys_eq secret hbefore hsendAttr hrecvAttr

/-- Keys of one byte and of a whole number of blocks less one. -/
theorem getMsKeys_addMppeKeys_boundary :
    ∃ msg, ((((new 2 7).setAuthenticator zeroAuth).addAttrs []).bind fun msg =>
        (addMppeKeys (.ofFunctions (fun data => Vector.replicate 16 (UInt8.ofNat data.length)) fun _ _ => zeroAuth) [115]
          (new 1 7).authenticator (fun _ n => Vector.replicate n 0) (fun _ => zeroAuth) msg [1] (List.replicate 31 2)
            (some 5)).bind fun msg => msg.bind fun msg => msg.addAttrs []) = some msg ∧
      msg.getMsKeys (.ofFunctions (fun data => Vector.replicate 16 (UInt8.ofNat data.length)) fun _ _ => zeroAuth) [115]
        (some (new 1 7)) = some (some (some [1], some (List.replicate 31 2))) := by
  obtain ⟨⟨msg, hmsg, hkeys, -⟩, -⟩ := getMsKeys_addMppeKeys (fun data => Vector.replicate 16 (UInt8.ofNat data.length))
    (fun _ _ => zeroAuth) [115] (new 1 7) (fun _ n => Vector.replicate n 0) (fun _ => zeroAuth) 2 7 zeroAuth [] [] 5
    (show 1 ≤ [(1 : UInt8)].length ∧ [(1 : UInt8)].length ≤ 239 by decide)
    (show 1 ≤ (List.replicate 31 (2 : UInt8)).length ∧ (List.replicate 31 (2 : UInt8)).length ≤ 239 by decide)
    fun attr hattr => absurd hattr List.not_mem_nil
  exact ⟨msg, hmsg, hkeys⟩

end RadiusMsg

end Ethanol
