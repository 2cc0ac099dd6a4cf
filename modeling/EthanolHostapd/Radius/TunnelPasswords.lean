import EthanolHostapd.Radius.Access
import EthanolHostapd.Utils.Common

/-!
# Tunnel passwords

`decode_tunnel_passwords` of `ieee802_11_auth.c`, which stores the passwords of an Access-Accept as keys for the station.
It asks for one password after the other until there is none, but `radius_msg_get_tunnel_password` gives none for an
attribute that is no use either.
-/

namespace Ethanol

namespace RadiusMsg

/-! ## The code -/

/-- `hexstr2bin`, for `len` bytes. -/
def hexstr2bin : ℕ → Bytes → Option Bytes
  | 0, _ => some []
  | len + 1, hex => do
    let (a, ipos) ← hex2byte hex
    let buf ← hexstr2bin len ipos
    return a :: buf

/-- `struct hostapd_sta_wpa_psk_short`. -/
structure HostapdStaWpaPskShort where
  isPassphrase : Bool
  psk : Bytes
  passphrase : Bytes
  deriving DecidableEq

/-- `MIN_PASSPHRASE_LEN`. -/
def minPassphraseLen : ℕ := 8

/-- `MAX_PASSPHRASE_LEN`. -/
def maxPassphraseLen : ℕ := 63

/-- `PMK_LEN`. -/
def pmkLen : ℕ := 32

/-- The body of the loop of `decode_tunnel_passwords`, for a passphrase. -/
def storePassphrase (passphrase : Bytes) (psk : List HostapdStaWpaPskShort) : List HostapdStaWpaPskShort :=
  if passphrase.length < minPassphraseLen ∨ maxPassphraseLen + 1 < passphrase.length then psk
  else if passphrase.length = maxPassphraseLen + 1 then
    match hexstr2bin pmkLen passphrase with
    | none => psk
    | some key => ⟨false, key, List.replicate (maxPassphraseLen + 1) 0⟩ :: psk
  else
    ⟨true, List.replicate pmkLen 0, passphrase ++ List.replicate (maxPassphraseLen + 1 - passphrase.length) 0⟩ :: psk

section Decode

variable (crypto : RadiusCrypto) (secret : Bytes) (msg req : RadiusMsg) (stack : ℕ → Md5Digest)

/-- The loop of `decode_tunnel_passwords`, from the `i`-th password on. -/
def decodeTunnelPasswordsLoop : ℕ → ℕ → List HostapdStaWpaPskShort → Option (List HostapdStaWpaPskShort)
  | 0, _, _ => none
  | fuel + 1, i, psk => do
    match ← msg.getTunnelPassword crypto secret req i (stack i) with
    | none => return psk
    | some passphrase => decodeTunnelPasswordsLoop fuel (i + 1) (storePassphrase passphrase psk)

/-- `decode_tunnel_passwords`, with the keys that are stored.  There is no result if a byte outside the message is
read. -/
def decodeTunnelPasswords (psk : List HostapdStaWpaPskShort) : Option (List HostapdStaWpaPskShort) :=
  decodeTunnelPasswordsLoop crypto secret msg req stack (msg.attrPos.length + 1) 0 psk

end Decode

/-! ## The passwords of a message -/

/-- A Tunnel-Password attribute of valid length: a tag, a salt and at least one block. -/
def ValidTunnelPassword (attr : AttrHdr) : Bool :=
  attr.type = radiusAttrTunnelPassword && !(attr.length ≤ 5 : Bool) &&
    !(attr.length - 2 ≤ 3 || (attr.length - 2) % 16 ≠ 3 : Bool)

/-- The values of the Tunnel-Password attributes of valid length. -/
def tunnelValues (msg : RadiusMsg) : List Bytes :=
  ((msg.attrPos.map msg.hdrAt).filter ValidTunnelPassword).map fun attr =>
    Buffer.window msg.buf (attr.pos + 2) (attr.length - 2)

section Plaintext

variable (md5 : Bytes → Md5Digest) (secret : Bytes) (reqAuth : Md5Digest) (value : Bytes)

/-- What is hashed behind the secret: the authenticator of the request and the salt for the first block, the encrypted
block before it for any other. -/
def chainInput : ℕ → Bytes
  | 0 => reqAuth.toList ++ Buffer.window value 1 2
  | i + 1 => Buffer.window value (3 + 16 * i) 16

/-- A decrypted block. -/
def plainBlock (i : ℕ) : Bytes :=
  xorDigest (Buffer.window value (3 + 16 * i) 16) (md5 (secret ++ chainInput reqAuth value i))

/-- The decrypted string. -/
def plaintext : Bytes := (List.range ((value.length - 3) / 16)).flatMap (plainBlock md5 secret reqAuth value)

/-- The password, which has its length in front. -/
def tunnelPassword : Option Bytes :=
  let plain := plaintext md5 secret reqAuth value
  let keylen := (plain.getD 0 0).toNat
  if plain.length ≤ keylen ∨ keylen = 0 then none else some (Buffer.window plain 1 keylen)

end Plaintext

/-- A password that is to be stored: 8 to 63 characters, or 64 hexadecimal digits. -/
def Usable (password : Bytes) : Prop :=
  (8 ≤ password.length ∧ password.length ≤ 63) ∨ (password.length = 64 ∧ ∀ c ∈ password, (hex2num c).isSome)

instance (password : Bytes) : Decidable (Usable password) := inferInstanceAs (Decidable (_ ∨ _))

/-- The key for a password. -/
def pskOf (password : Bytes) : HostapdStaWpaPskShort :=
  if password.length = 64 then ⟨false, (hexstr2bin 32 password).getD [], List.replicate 64 0⟩
  else ⟨true, List.replicate 32 0, password ++ List.replicate (64 - password.length) 0⟩

/-! ## One password -/

section One

variable (md5 : Bytes → Md5Digest) (hmacMd5 : Bytes → Bytes → Md5Digest) (secret : Bytes) (reqAuth : Md5Digest)
  {value : Bytes}

lemma getD_md5 (data : Bytes) (hash : Md5Digest) :
    ((RadiusCrypto.ofFunctions md5 hmacMd5).md5 data).getD hash = md5 data := rfl

lemma length_plainBlock {i : ℕ} (h : 3 + 16 * (i + 1) ≤ value.length) :
    (plainBlock md5 secret reqAuth value i).length = 16 :=
  length_xorDigest (Buffer.length_window (by omega)) _

/-- The blocks are decrypted from the last one on, so the block before is still as it was received. -/
lemma decryptPasswordBlocks_eq {k fuel : ℕ} {buf : Bytes} (hash : Md5Digest) (hfuel : k < fuel)
    (hvalue : 3 + 16 * (k + 1) ≤ value.length)
    (hbuf : buf.take (3 + 16 * (k + 1)) = value.take (3 + 16 * (k + 1))) :
    ∃ hash', decryptPasswordBlocks (.ofFunctions md5 hmacMd5) secret fuel (3 + 16 * k) buf hash =
      some (3, value.take 19 ++ ((List.range' 1 k).flatMap (plainBlock md5 secret reqAuth value) ++
        buf.drop (3 + 16 * (k + 1))), hash') := by
  induction k generalizing fuel buf hash with
  | zero =>
    obtain ⟨fuel, rfl⟩ := Nat.exists_eq_succ_of_ne_zero (Nat.ne_of_gt hfuel)
    refine ⟨hash, ?_⟩
    rw [decryptPasswordBlocks, if_pos (by omega), ← show buf.take 19 = value.take 19 from hbuf]
    simp
  | succ k ih =>
    obtain ⟨fuel, rfl⟩ := Nat.exists_eq_succ_of_ne_zero (Nat.ne_of_gt (Nat.zero_lt_of_lt hfuel))
    have hwindow {off n : ℕ} (h : off + n ≤ 3 + 16 * (k + 1 + 1)) : Buffer.window buf off n = Buffer.window value off n := by
      have htake (l : Bytes) : Buffer.window l off n = Buffer.window (l.take (3 + 16 * (k + 1 + 1))) off n := by
        rw [Buffer.window, Buffer.window, List.drop_take, List.take_take, Nat.min_eq_left (by omega)]
      rw [htake buf, htake value, hbuf]
    have hlength : 3 + 16 * (k + 1 + 1) ≤ buf.length := by
      have heq := congrArg List.length hbuf
      rw [List.length_take, List.length_take] at heq
      omega
    have hbefore : 3 + 16 * (k + 1) - 16 = 3 + 16 * k := by omega
    have hblock : xorDigest (Buffer.window buf (3 + 16 * (k + 1)) 16)
        (md5 (secret ++ Buffer.window buf (3 + 16 * k) 16)) = plainBlock md5 secret reqAuth value (k + 1) := by
      rw [hwindow (by omega), hwindow (by omega)]
      rfl
    have hblockLength := length_plainBlock md5 secret reqAuth hvalue
    have hwrite : 3 + 16 * (k + 1) + (plainBlock md5 secret reqAuth value (k + 1)).length ≤ buf.length := by omega
    have hspliced : Buffer.splice buf (3 + 16 * (k + 1)) (plainBlock md5 secret reqAuth value (k + 1)) =
        value.take (3 + 16 * (k + 1)) ++ (plainBlock md5 secret reqAuth value (k + 1) ++
          buf.drop (3 + 16 * (k + 1 + 1))) := by
      have htake := congrArg (List.take (3 + 16 * (k + 1))) hbuf
      rw [List.take_take, List.take_take, Nat.min_eq_left (by omega)] at htake
      rw [Buffer.splice, hblockLength, htake, List.append_assoc]
      rfl
    have hfront : (value.take (3 + 16 * (k + 1))).length = 3 + 16 * (k + 1) := by
      rw [List.length_take]
      omega
    have hnext : (Buffer.splice buf (3 + 16 * (k + 1)) (plainBlock md5 secret reqAuth value (k + 1))).take
        (3 + 16 * (k + 1)) = value.take (3 + 16 * (k + 1)) := by rw [hspliced, List.take_left' hfront]
    have hless : k < fuel := by omega
    obtain ⟨hash', hrest⟩ := ih (md5 (secret ++ Buffer.window buf (3 + 16 * k) 16)) hless (by omega) hnext
    refine ⟨hash', ?_⟩
    rw [decryptPasswordBlocks, if_neg (by omega), hbefore, Buffer.read_eq_some (by omega), Buffer.read_eq_some (by omega)]
    simp only [Option.bind_eq_bind, Option.bind_some, getD_md5]
    rw [hblock, Buffer.write_eq_some hwrite, Option.bind_some, hrest, hspliced, List.drop_left' hfront,
      List.range'_concat, List.flatMap_append, List.flatMap_singleton, List.append_assoc, Nat.one_mul, Nat.add_comm 1 k]

/-- Decrypting in place gives the password. -/
lemma decryptPassword_eq (req : RadiusMsg) (stack : Md5Digest) (hlen : 3 < value.length) (hmod : value.length % 16 = 3) :
    decryptPassword (.ofFunctions md5 hmacMd5) secret value req stack =
      some (tunnelPassword md5 secret req.authenticator value) := by
  obtain ⟨k, hk⟩ : ∃ k, value.length = 3 + 16 * (k + 1) := ⟨(value.length - 3) / 16 - 1, by omega⟩
  have hblocks : (value.length - 3) / 16 = k + 1 := by omega
  have hlast : value.length - 16 = 3 + 16 * k := by omega
  have hfuel : k < value.length + 1 := by omega
  obtain ⟨hash', hloop⟩ :=
    decryptPasswordBlocks_eq md5 hmacMd5 secret req.authenticator stack hfuel hk.ge (Eq.refl (value.take _))
  have hrest : value.drop (3 + 16 * (k + 1)) = [] := by rw [← hk, List.drop_length]
  rw [hrest, List.append_nil] at hloop
  obtain ⟨tail, htail⟩ : ∃ tail, tail =
      (List.range' 1 k).flatMap (plainBlock md5 secret req.authenticator value) := ⟨_, rfl⟩
  have hplain : plaintext md5 secret req.authenticator value = plainBlock md5 secret req.authenticator value 0 ++ tail := by
    rw [plaintext, hblocks, List.range_eq_range', List.range'_succ, List.flatMap_cons, ← htail]
  have hfirst : (value.take 19).length = 19 := by
    rw [List.length_take]
    omega
  have hwindow {off n : ℕ} (h : off + n ≤ 19) : Buffer.window (value.take 19 ++ tail) off n = Buffer.window value off n := by
    rw [Buffer.window, Buffer.window, List.drop_append_of_le_length (by omega), List.take_append_of_le_length
      (by rw [List.length_drop]; omega), List.drop_take, List.take_take, Nat.min_eq_left (by omega)]
  have hlength : 19 ≤ (value.take 19 ++ tail).length := by
    rw [List.length_append]
    omega
  have hblock : xorDigest (Buffer.window (value.take 19 ++ tail) 3 16)
      (md5 (secret ++ req.authenticator.toList ++ Buffer.window (value.take 19 ++ tail) 1 2)) =
        plainBlock md5 secret req.authenticator value 0 := by
    rw [hwindow (by omega), hwindow (by omega), List.append_assoc]
    rfl
  have hblockLength : (plainBlock md5 secret req.authenticator value 0).length = 16 :=
    length_plainBlock md5 secret req.authenticator (by omega)
  have hwrite : 3 + (plainBlock md5 secret req.authenticator value 0).length ≤ (value.take 19 ++ tail).length := by omega
  have hspliced : Buffer.splice (value.take 19 ++ tail) 3 (plainBlock md5 secret req.authenticator value 0) =
      value.take 3 ++ plaintext md5 secret req.authenticator value := by
    rw [Buffer.splice, hblockLength, List.take_append_of_le_length (by omega), List.take_take, List.drop_left' hfirst,
      hplain, List.append_assoc]
    rfl
  have hthree : (value.take 3).length = 3 := by
    rw [List.length_take]
    omega
  have hplainLength : 16 ≤ (plaintext md5 secret req.authenticator value).length := by
    rw [hplain, List.length_append]
    omega
  obtain ⟨plain, hplain'⟩ : ∃ plain, plain = plaintext md5 secret req.authenticator value := ⟨_, rfl⟩
  have hkeylen : Buffer.window (value.take 3 ++ plain) 3 1 = [plain.getD 0 0] := by
    rw [Buffer.window, List.drop_left' hthree]
    rw [← hplain'] at hplainLength
    cases plain with
    | nil => cases hplainLength
    | cons c plain => rfl
  have hpassword {n : ℕ} : Buffer.window (value.take 3 ++ plain) (3 + 1) n = Buffer.window plain 1 n := by
    rw [Buffer.window, ← List.drop_drop, List.drop_left' hthree, Buffer.window]
  rw [← hplain'] at hspliced hplainLength
  rw [decryptPassword, hlast, hloop, ← htail]
  simp only [Option.bind_eq_bind, Option.bind_some, ne_eq, not_true_eq_false, if_false]
  rw [Buffer.read_eq_some (by omega), Option.bind_some, Buffer.read_eq_some (by omega), Option.bind_some]
  simp only [getD_md5]
  rw [hblock, Buffer.write_eq_some hwrite, Option.bind_some, hspliced, Buffer.read_eq_some
    (by rw [List.length_append]; omega), Option.bind_some, hkeylen, List.getD_cons_zero, tunnelPassword, ← hplain',
    List.length_append, hthree]
  by_cases hlong : plain.length ≤ (plain.getD 0 0).toNat
  · rw [if_pos (by omega), if_pos (Or.inl hlong)]
    rfl
  · by_cases hzero : (plain.getD 0 0).toNat = 0
    · rw [if_neg (by omega), if_pos hzero, if_pos (Or.inr hzero)]
      rfl
    · have hread : 3 + 1 + (plain.getD 0 0).toNat ≤ (value.take 3 ++ plain).length := by
        rw [List.length_append]
        omega
      rw [if_neg (by omega), if_neg hzero, if_neg (not_or.mpr ⟨hlong, hzero⟩), Buffer.read_eq_some hread, hpassword]
      rfl

end One

/-! ## One password after the other -/

/-- What is in front of the first `none`. -/
def untilNone {α : Type} : List (Option α) → List α
  | some a :: l => a :: untilNone l
  | _ => []

lemma front_untilNone {α : Type} (l : List (Option α)) : untilNone l <+: l.reduceOption := by
  induction l with
  | nil => exact List.nil_prefix
  | cons o l ih =>
    cases o with
    | none => exact List.nil_prefix
    | some a =>
      rw [untilNone, List.reduceOption_cons_of_some]
      exact (List.prefix_cons_inj a).mpr ih

/-- Nothing of interest is missed if and only if nothing of interest is behind a `none`. -/
lemma filter_untilNone_iff {α : Type} {P : α → Bool} {l : List (Option α)} :
    (untilNone l).filter P = l.reduceOption.filter P ↔
      ∀ before after, l = before ++ none :: after → ∀ a, some a ∈ after → P a = false := by
  induction l with
  | nil =>
    refine iff_of_true rfl fun before after heq => ?_
    cases before <;> cases heq
  | cons o l ih =>
    cases o with
    | none =>
      rw [untilNone, List.reduceOption_cons_of_none, List.filter_nil]
      · constructor
        · intro hnone before after heq a ha
          have hall := List.filter_eq_nil_iff.mp hnone.symm
          have hmem : some a ∈ l := by
            cases before with
            | nil =>
              rw [(List.cons.inj heq).2]
              exact ha
            | cons o before =>
              rw [(List.cons.inj heq).2]
              exact List.mem_append_right _ (List.mem_cons_of_mem _ ha)
          exact Bool.eq_false_iff.mpr (hall a (List.reduceOption_mem_iff.mpr hmem))
        · intro hbehind
          refine (List.filter_eq_nil_iff.mpr fun a ha => ?_).symm
          rw [hbehind [] l rfl a (List.reduceOption_mem_iff.mp ha)]
          exact Bool.false_ne_true
      · intro a l' heq
        cases heq
    | some a =>
      have hiff : (∀ before after, some a :: l = before ++ none :: after → ∀ b, some b ∈ after → P b = false) ↔
          ∀ before after, l = before ++ none :: after → ∀ b, some b ∈ after → P b = false := by
        constructor
        · intro h before after heq
          exact h (some a :: before) after (by rw [heq]; rfl)
        · intro h before after heq
          cases before with
          | nil => cases heq
          | cons o before => exact h before after (List.cons.inj heq).2
      rw [untilNone, List.reduceOption_cons_of_some, hiff, ← ih, List.filter_cons, List.filter_cons]
      split
      · exact List.cons_inj_right a
      · exact Iff.rfl

lemma hexstr2bin_isSome_iff {n : ℕ} {hex : Bytes} (h : hex.length = 2 * n) :
    (hexstr2bin n hex).isSome ↔ ∀ c ∈ hex, (hex2num c).isSome := by
  induction n generalizing hex with
  | zero =>
    obtain rfl := List.length_eq_zero_iff.mp h
    simp [hexstr2bin]
  | succ n ih =>
    match hex, h with
    | a :: b :: hex, h =>
      rw [List.length_cons, List.length_cons] at h
      have hrest : (hexstr2bin n hex).isSome ↔ ∀ c ∈ hex, (hex2num c).isSome := ih (by omega)
      rw [List.forall_mem_cons, List.forall_mem_cons, ← hrest, hexstr2bin, hex2byte]
      cases ha : hex2num a with
      | none => simp
      | some x =>
        cases hb : hex2num b with
        | none => simp
        | some y => cases hkey : hexstr2bin n hex <;> simp [hkey]

/-- A password is stored if it can be used. -/
lemma storePassphrase_eq (password : Bytes) (psk : List HostapdStaWpaPskShort) :
    storePassphrase password psk = if Usable password then pskOf password :: psk else psk := by
  have hhex (hlen : password.length = 64) : Usable password ↔ (hexstr2bin 32 password).isSome := by
    rw [Usable, hexstr2bin_isSome_iff hlen]
    constructor
    · rintro (hshort | ⟨-, hdigits⟩)
      · omega
      · exact hdigits
    · exact fun hdigits => Or.inr ⟨hlen, hdigits⟩
  rw [storePassphrase, pskOf, minPassphraseLen, maxPassphraseLen, pmkLen]
  by_cases hout : password.length < 8 ∨ 63 + 1 < password.length
  · have hnot : ¬Usable password := by
      rw [Usable]
      omega
    rw [if_pos hout, if_neg hnot]
  · rw [if_neg hout]
    by_cases hlen : password.length = 64
    · have husable := hhex hlen
      rw [if_pos hlen, if_pos hlen]
      cases hkey : hexstr2bin 32 password with
      | none =>
        rw [hkey] at husable
        rw [if_neg fun h => Bool.false_ne_true (husable.mp h)]
      | some key =>
        rw [hkey] at husable
        rw [if_pos (husable.mpr rfl)]
        rfl
    · have husable : Usable password := Or.inl (by omega)
      rw [if_neg hlen, if_pos husable, if_neg hlen]

/-- The keys for some passwords, the last one in front. -/
lemma foldl_storePassphrase (passwords : List Bytes) (psk : List HostapdStaWpaPskShort) :
    passwords.foldl (fun psk password => storePassphrase password psk) psk =
      ((passwords.filter fun password => Usable password).map pskOf).reverse ++ psk := by
  induction passwords generalizing psk with
  | nil => rfl
  | cons password passwords ih =>
    rw [List.foldl_cons, ih, storePassphrase_eq, List.filter_cons]
    by_cases husable : Usable password
    · simp [husable]
    · simp [husable]

section Message

variable {msg : RadiusMsg} (md5 : Bytes → Md5Digest)
  (hmacMd5 : Bytes → Bytes → Md5Digest) (secret : Bytes) (req : RadiusMsg) (stack : ℕ → Md5Digest)

/-- The `n`-th password is that of the `n`-th attribute of valid length. -/
lemma WellFormed.getTunnelPassword_eq (h : msg.WellFormed) (n : ℕ) (stack : Md5Digest) :
    msg.getTunnelPassword (.ofFunctions md5 hmacMd5) secret req n stack =
      some ((msg.tunnelValues[n]?).bind (tunnelPassword md5 secret req.authenticator)) := by
  have hhdrs : msg.attrHdrs = some (msg.attrPos.map msg.hdrAt) := h.attrHdrs
  have hfilter : (msg.attrPos.map msg.hdrAt).filter (fun attr => decide (attr.type = radiusAttrTunnelPassword) &&
      !decide (attr.length ≤ 5) && !(decide (attr.length - 2 ≤ 3) || decide ((attr.length - 2) % 16 ≠ 3))) =
      (msg.attrPos.map msg.hdrAt).filter ValidTunnelPassword := rfl
  simp only [getTunnelPassword, hhdrs, Option.bind_eq_bind, Option.bind_some, tunnelValues, List.getElem?_map, hfilter]
  cases hattr : ((msg.attrPos.map msg.hdrAt).filter ValidTunnelPassword)[n]? with
  | none => rfl
  | some attr =>
    obtain ⟨hmem, hvalid⟩ := List.mem_filter.mp (List.mem_of_getElem? hattr)
    obtain ⟨pos, hpos, rfl⟩ := List.mem_map.mp hmem
    have hinside := (h.attr pos hpos).inside
    have hlength : (msg.hdrAt pos).length = lengthAt msg.buf pos := rfl
    have hstart : (msg.hdrAt pos).pos = pos := rfl
    simp only [ValidTunnelPassword, Bool.and_eq_true, Bool.not_eq_true', Bool.or_eq_false_iff,
      decide_eq_false_iff_not, not_not] at hvalid
    have hread : (msg.hdrAt pos).pos + 2 + ((msg.hdrAt pos).length - 2) ≤ msg.buf.length := by omega
    have hwindow := Buffer.length_window hread
    dsimp only
    rw [Buffer.read_eq_some hread, Option.bind_some, decryptPassword_eq _ _ _ _ _ (by omega) (by omega)]
    rfl

/-- The loop stores the passwords in front of the first attribute that has none. -/
lemma WellFormed.decodeTunnelPasswordsLoop_eq (h : msg.WellFormed) (psk : List HostapdStaWpaPskShort) {fuel i : ℕ}
    (hi : i ≤ msg.tunnelValues.length) (hfuel : msg.tunnelValues.length < fuel + i) :
    decodeTunnelPasswordsLoop (.ofFunctions md5 hmacMd5) secret msg req stack fuel i psk =
      some ((untilNone ((msg.tunnelValues.drop i).map (tunnelPassword md5 secret req.authenticator))).foldl
        (fun psk password => storePassphrase password psk) psk) := by
  induction fuel generalizing i psk with
  | zero => omega
  | succ fuel ih =>
    rw [decodeTunnelPasswordsLoop, h.getTunnelPassword_eq]
    simp only [Option.bind_eq_bind, Option.bind_some]
    by_cases hlt : i < msg.tunnelValues.length
    · rw [List.getElem?_eq_getElem hlt, Option.bind_some, List.drop_eq_getElem_cons hlt, List.map_cons]
      cases tunnelPassword md5 secret req.authenticator msg.tunnelValues[i] with
      | none => rfl
      | some password => exact ih _ hlt (by omega)
    · rw [List.getElem?_eq_none (not_lt.mp hlt), List.drop_eq_nil_of_le (not_lt.mp hlt)]
      rfl

end Message

/-- For each attribute of valid length whose password can be used there is one key, in the order of the message, if and
only if none of them stands behind an attribute of valid length that has no password. -/
theorem decodeTunnelPasswords_iff (md5 : Bytes → Md5Digest) (hmacMd5 : Bytes → Bytes → Md5Digest) (secret : Bytes)
    {data : Bytes} {msg : RadiusMsg} (hparse : parse data = some msg) (req : RadiusMsg) (stack : ℕ → Md5Digest)
    (psk : List HostapdStaWpaPskShort) :
    ∃ stored, decodeTunnelPasswords (.ofFunctions md5 hmacMd5) secret msg req stack psk = some (stored ++ psk) ∧
      (stored.reverse = ((msg.tunnelValues.filterMap (tunnelPassword md5 secret req.authenticator)).filter
          fun password => Usable password).map pskOf ↔
        ∀ before value after, msg.tunnelValues = before ++ value :: after →
          tunnelPassword md5 secret req.authenticator value = none →
            ∀ behind ∈ after, ∀ password ∈ tunnelPassword md5 secret req.authenticator behind, ¬Usable password) := by
  have h := parse_wellFormed hparse
  obtain ⟨passwords, hpasswords⟩ : ∃ passwords, passwords =
      msg.tunnelValues.map (tunnelPassword md5 secret req.authenticator) := ⟨_, rfl⟩
  have hreduce : msg.tunnelValues.filterMap (tunnelPassword md5 secret req.authenticator) = passwords.reduceOption := by
    rw [hpasswords, List.reduceOption, List.filterMap_map]
    rfl
  have hfuel : msg.tunnelValues.length < msg.attrPos.length + 1 + 0 := by
    have hle := List.length_filter_le ValidTunnelPassword (msg.attrPos.map msg.hdrAt)
    rw [tunnelValues, List.length_map]
    rw [List.length_map] at hle
    omega
  have hloop := h.decodeTunnelPasswordsLoop_eq md5 hmacMd5 secret req stack psk (Nat.zero_le _) hfuel
  rw [List.drop_zero, ← hpasswords, foldl_storePassphrase] at hloop
  refine ⟨_, hloop, ?_⟩
  have hinj : ((((untilNone passwords).filter fun password => Usable password).map pskOf).reverse).reverse =
      (passwords.reduceOption.filter fun password => Usable password).map pskOf ↔
        (untilNone passwords).filter (fun password => Usable password) =
          passwords.reduceOption.filter fun password => Usable password := by
    refine ⟨fun heq => ?_, fun heq => by rw [List.reverse_reverse, heq]⟩
    rw [List.reverse_reverse] at heq
    have hlength := congrArg List.length heq
    rw [List.length_map, List.length_map] at hlength
    exact ((front_untilNone passwords).filter _).eq_of_length hlength
  rw [hreduce, hinj, filter_untilNone_iff]
  constructor
  · intro hbehind before value after heq hnone behind hmem password hpassword
    have hsplit : passwords = before.map (tunnelPassword md5 secret req.authenticator) ++
        none :: after.map (tunnelPassword md5 secret req.authenticator) := by
      rw [hpasswords, heq, List.map_append, List.map_cons, hnone]
    exact of_decide_eq_false (hbehind _ _ hsplit password (List.mem_map.mpr ⟨behind, hmem, hpassword⟩))
  · intro hbehind before after heq password hmem
    rw [hpasswords] at heq
    obtain ⟨before', rest, hvalues, hbefore, hrest⟩ := List.map_eq_append_iff.mp heq
    obtain ⟨value, after', rfl, hnone, hafter⟩ := List.map_eq_cons_iff.mp hrest
    rw [← hafter] at hmem
    obtain ⟨behind, hbehindMem, hpassword⟩ := List.mem_map.mp hmem
    exact decide_eq_false (hbehind before' value after' hvalues hnone behind hbehindMem password hpassword)

/-- An Access-Accept with some attributes. -/
def accessAccept (attrs : Bytes) : Bytes := [2, 1, 0, UInt8.ofNat (20 + attrs.length)] ++ List.replicate 16 0 ++ attrs

/-- A Tunnel-Password attribute with a string that is left as it is by a digest of zeros. -/
def tunnelAttr (password : Bytes) : Bytes :=
  [69, 21, 0, 0x80, 1, UInt8.ofNat password.length] ++ password ++ List.replicate (15 - password.length) 0

theorem decodeTunnelPasswords_iff_one :
    ∃ stored, decodeTunnelPasswords (.ofFunctions (fun _ => zeroAuth) fun _ _ => zeroAuth) [115]
        ⟨accessAccept (tunnelAttr (List.replicate 8 97)), [20]⟩ ⟨List.replicate 20 0, []⟩ (fun _ => zeroAuth) [] =
          some (stored ++ []) ∧ stored.reverse = [pskOf (List.replicate 8 97)] := by
  obtain ⟨stored, hstored, hiff⟩ := decodeTunnelPasswords_iff (fun _ => zeroAuth) (fun _ _ => zeroAuth) [115]
    (show parse (accessAccept (tunnelAttr (List.replicate 8 97))) =
      some ⟨accessAccept (tunnelAttr (List.replicate 8 97)), [20]⟩ by decide +kernel)
    ⟨List.replicate 20 0, []⟩ (fun _ => zeroAuth) []
  have hvalues : tunnelValues ⟨accessAccept (tunnelAttr (List.replicate 8 97)), [20]⟩ =
      [[0, 0x80, 1, 8] ++ List.replicate 8 97 ++ List.replicate 7 0] := by decide +kernel
  rw [hvalues] at hiff
  refine ⟨stored, hstored, (hiff.mpr fun before value after heq _ behind hmem => ?_).trans (by decide +kernel)⟩
  have hlength := congrArg List.length heq
  rw [List.length_singleton, List.length_append, List.length_cons] at hlength
  rw [List.length_eq_zero_iff.mp (show after.length = 0 by omega)] at hmem
  exact absurd hmem List.not_mem_nil

/-- A password behind an empty one is not stored. -/
theorem decodeTunnelPasswords_missed :
    parse (accessAccept (tunnelAttr [] ++ tunnelAttr (List.replicate 8 97))) =
        some ⟨accessAccept (tunnelAttr [] ++ tunnelAttr (List.replicate 8 97)), [20, 41]⟩ ∧
      (tunnelValues ⟨accessAccept (tunnelAttr [] ++ tunnelAttr (List.replicate 8 97)), [20, 41]⟩).map
          (tunnelPassword (fun _ => zeroAuth) [115] zeroAuth) = [none, some (List.replicate 8 97)] ∧
      Usable (List.replicate 8 97) ∧
      decodeTunnelPasswords (.ofFunctions (fun _ => zeroAuth) fun _ _ => zeroAuth) [115]
        ⟨accessAccept (tunnelAttr [] ++ tunnelAttr (List.replicate 8 97)), [20, 41]⟩ ⟨List.replicate 20 0, []⟩
          (fun _ => zeroAuth) [] = some [] := by
  decide +kernel

end RadiusMsg

end Ethanol
