import EthanolHostapd.Radius.Authenticators

/-!
# Access to a parsed RADIUS message

The functions of `radius/radius.c` that take values out of a message.  `radius_msg_parse` does not compare
the length of an attribute with its type, so each of them makes its own check.  As for the checks of the
authenticators, there is no result if a byte outside the message is read; this is also so for the copies
that are decrypted in place.
-/

namespace Ethanol

namespace RadiusMsg

/-- `RADIUS_ATTR_VENDOR_SPECIFIC`. -/
def radiusAttrVendorSpecific : UInt8 := 26

/-- `RADIUS_ATTR_EGRESS_VLANID`. -/
def radiusAttrEgressVlanid : UInt8 := 56

/-- `RADIUS_ATTR_TUNNEL_TYPE`. -/
def radiusAttrTunnelType : UInt8 := 64

/-- `RADIUS_ATTR_TUNNEL_MEDIUM_TYPE`. -/
def radiusAttrTunnelMediumType : UInt8 := 65

/-- `RADIUS_ATTR_TUNNEL_PASSWORD`. -/
def radiusAttrTunnelPassword : UInt8 := 69

/-- `RADIUS_ATTR_EAP_MESSAGE`. -/
def radiusAttrEapMessage : UInt8 := 79

/-- `RADIUS_ATTR_TUNNEL_PRIVATE_GROUP_ID`. -/
def radiusAttrTunnelPrivateGroupId : UInt8 := 81

/-- `RADIUS_TUNNEL_TAGS`. -/
def radiusTunnelTags : ℕ := 32

/-- `RADIUS_TUNNEL_TYPE_VLAN`. -/
def radiusTunnelTypeVlan : ℕ := 13

/-- `RADIUS_TUNNEL_MEDIUM_TYPE_802`. -/
def radiusTunnelMediumType802 : ℕ := 6

/-- `RADIUS_VENDOR_ID_MICROSOFT`. -/
def radiusVendorIdMicrosoft : ℕ := 311

/-- `RADIUS_VENDOR_ATTR_MS_MPPE_SEND_KEY`. -/
def radiusVendorAttrMsMppeSendKey : UInt8 := 16

/-- `RADIUS_VENDOR_ATTR_MS_MPPE_RECV_KEY`. -/
def radiusVendorAttrMsMppeRecvKey : UInt8 := 17

variable (crypto : RadiusCrypto) (msg : RadiusMsg) (secret : Bytes)

/-- `radius_msg_get_eap`.  The buffer that is filled has the length that was counted before. -/
def getEap : Option (Option Bytes) := do
  let hdrs ← msg.attrHdrs
  let eap := hdrs.filter fun attr => attr.type = radiusAttrEapMessage && 2 < attr.length
  if (eap.map fun attr => attr.length - 2).sum = 0 then return none
  else
    let parts ← eap.mapM fun attr => Buffer.read msg.buf (attr.pos + 2) (attr.length - 2)
    return some parts.flatten

/-- `radius_msg_get_attr`, with the length of the attribute and what was copied to a buffer of `len` bytes. -/
def getAttr (type : UInt8) (len : Option ℕ) : Option (Option (ℕ × Bytes)) := do
  let hdrs ← msg.attrHdrs
  match hdrs.find? fun attr => attr.type = type with
  | none => return none
  | some attr =>
    if attr.length < 2 then return none
    else
      let data ← match len with
        | none => some []
        | some len => Buffer.read msg.buf (attr.pos + 2) (min (attr.length - 2) len)
      return some (attr.length - 2, data)

/-! ## Keys -/

/-- The inner loop of `radius_msg_get_vendor_attr`. -/
def findSubtype (buf : Bytes) (subtype : UInt8) : ℕ → ℕ → ℕ → Option (Option Bytes)
  | 0, _, _ => none
  | fuel + 1, pos, left =>
    if left < 2 then some none
    else do
      let vhdr ← Buffer.read buf pos 2
      let vendorLength := (vhdr.getD 1 0).toNat
      if left < vendorLength || vendorLength < 2 then return none
      else if vhdr.getD 0 0 ≠ subtype then findSubtype buf subtype fuel (pos + vendorLength) (left - vendorLength)
      else
        let data ← Buffer.read buf (pos + 2) (vendorLength - 2)
        return some data

/-- The outer loop of `radius_msg_get_vendor_attr`. -/
def findVendorAttr (buf : Bytes) (vendor : ℕ) (subtype : UInt8) : List AttrHdr → Option (Option Bytes)
  | [] => some none
  | attr :: hdrs =>
    if attr.type ≠ radiusAttrVendorSpecific || attr.length < 2 then findVendorAttr buf vendor subtype hdrs
    else if attr.length - 2 < 4 then findVendorAttr buf vendor subtype hdrs
    else do
      let vendorId ← Buffer.read buf (attr.pos + 2) 4
      if Wire.beNat vendorId ≠ vendor then findVendorAttr buf vendor subtype hdrs
      else
        match ← findSubtype buf subtype (attr.length + 1) (attr.pos + 2 + 4) (attr.length - 2 - 4) with
        | some data => return some data
        | none => findVendorAttr buf vendor subtype hdrs

/-- `radius_msg_get_vendor_attr`. -/
def getVendorAttr (vendor : ℕ) (subtype : UInt8) : Option (Option Bytes) := do
  let hdrs ← msg.attrHdrs
  findVendorAttr msg.buf vendor subtype hdrs

/-- Bytes xored with a digest. -/
def xorDigest (block : Bytes) (hash : Md5Digest) : Bytes := List.zipWith (· ^^^ ·) block hash.toList

/-- What follows the secret in the digest for the block at `pos`: the request authenticator and the salt for
the first one, the encrypted block before it for the others. -/
def msBlockInput (key : Bytes) (reqAuth : Md5Digest) (pos : ℕ) : Bool → Option Bytes
  | true => (Buffer.read key 0 2).map (reqAuth.toList ++ ·)
  | false => Buffer.read key (pos - 16) 16

/-- The loop of `decrypt_ms_key`, from `pos` on. -/
def decryptMsBlocks (key : Bytes) (reqAuth : Md5Digest) : ℕ → ℕ → Bool → Option (Option Bytes)
  | 0, _, _ => some (some [])
  | blocks + 1, pos, first => do
    let input ← msBlockInput key reqAuth pos first
    match crypto.md5 (secret ++ input) with
    | none => return none
    | some hash =>
      let block ← Buffer.read key pos 16
      match ← decryptMsBlocks key reqAuth blocks (pos + 16) false with
      | none => return none
      | some plain => return some (xorDigest block hash ++ plain)

/-- `decrypt_ms_key`. -/
def decryptMsKey (key : Bytes) (reqAuth : Md5Digest) : Option (Option Bytes) :=
  if key.length < 2 + 16 then some none
  else if (key.length - 2) % 16 ≠ 0 then some none
  else do
    match ← decryptMsBlocks crypto secret key reqAuth ((key.length - 2) / 16) 2 true with
    | none => return none
    | some plain =>
      let len := ((← Buffer.read plain 0 1).getD 0 0).toNat
      if len = 0 || plain.length - 1 < len then return none
      else
        let res ← Buffer.read plain 1 len
        return some res

/-- One of the two keys of `radius_msg_get_ms_keys`. -/
def getMsKey (sentMsg : RadiusMsg) (subtype : UInt8) : Option (Option Bytes) := do
  match ← msg.getVendorAttr radiusVendorIdMicrosoft subtype with
  | none => return none
  | some key => decryptMsKey crypto secret key sentMsg.authenticator

/-- `radius_msg_get_ms_keys`: the key to send with and the one to receive with. -/
def getMsKeys : Option RadiusMsg → Option (Option (Option Bytes × Option Bytes))
  | none => some none
  | some sentMsg => do
    let send ← msg.getMsKey crypto secret sentMsg radiusVendorAttrMsMppeSendKey
    let recv ← msg.getMsKey crypto secret sentMsg radiusVendorAttrMsMppeRecvKey
    return some (send, recv)

/-! ## Tunnels -/

/-- The loop of `radius_msg_get_tunnel_password`, which decrypts all blocks but the first, the last one
first.  A digest that cannot be computed is the one before. -/
def decryptPasswordBlocks : ℕ → ℕ → Bytes → Md5Digest → Option (ℕ × Bytes × Md5Digest)
  | 0, _, _, _ => none
  | fuel + 1, pos, buf, hash =>
    if pos < 3 + 16 then some (pos, buf, hash)
    else do
      let before ← Buffer.read buf (pos - 16) 16
      let hash := (crypto.md5 (secret ++ before)).getD hash
      let block ← Buffer.read buf pos 16
      let buf ← Buffer.write buf pos (xorDigest block hash)
      decryptPasswordBlocks fuel (pos - 16) buf hash

/-- `radius_msg_get_tunnel_password`, from the copy of the attribute on. -/
def decryptPassword (buf : Bytes) (sentMsg : RadiusMsg) (stack : Md5Digest) : Option (Option Bytes) := do
  let (pos, buf, hash) ← decryptPasswordBlocks crypto secret (buf.length + 1) (buf.length - 16) buf stack
  if pos ≠ 3 then return none
  else
    let salt ← Buffer.read buf 1 2
    let hash := (crypto.md5 (secret ++ sentMsg.authenticator.toList ++ salt)).getD hash
    let block ← Buffer.read buf pos 16
    let buf ← Buffer.write buf pos (xorDigest block hash)
    let keylen := ((← Buffer.read buf 3 1).getD 0 0).toNat
    if buf.length ≤ 3 + keylen then return none
    else if keylen = 0 then return none
    else
      let password ← Buffer.read buf (3 + 1) keylen
      return some password

/-- `radius_msg_get_tunnel_password`: the `n`-th password. -/
def getTunnelPassword (sentMsg : RadiusMsg) (n : ℕ) (stack : Md5Digest) : Option (Option Bytes) := do
  let hdrs ← msg.attrHdrs
  let valid := hdrs.filter fun attr => attr.type = radiusAttrTunnelPassword && !(attr.length ≤ 5 : Bool) &&
    !(attr.length - 2 ≤ 3 || (attr.length - 2) % 16 ≠ 3 : Bool)
  match valid[n]? with
  | none => return none
  | some attr =>
    let buf ← Buffer.read msg.buf (attr.pos + 2) (attr.length - 2)
    decryptPassword crypto secret buf sentMsg stack

/-- `struct radius_tunnel_attrs`. -/
structure RadiusTunnelAttrs where
  tagUsed : ℕ := 0
  type : ℕ := 0
  mediumType : ℕ := 0
  vlanid : ℕ := 0

/-- The variables of `radius_msg_get_vlanid`. -/
structure VlanidState where
  tunnel : Vector RadiusTunnelAttrs radiusTunnelTags
  untagged : ℕ
  tagged : List ℕ

/-- A tunnel with one more attribute. -/
def VlanidState.modify (st : VlanidState) (tag : Fin radiusTunnelTags)
    (f : RadiusTunnelAttrs → RadiusTunnelAttrs) : VlanidState :=
  let tun := st.tunnel.get tag
  { st with tunnel := st.tunnel.set tag (f { tun with tagUsed := tun.tagUsed + 1 }) }

/-- `isspace`. -/
def isspace (c : UInt8) : Bool := c = 32 || (9 ≤ c && c ≤ 13)

/-- `atoi`, of a string that is too short for a number that is not an `int`. -/
def atoi (s : Bytes) : ℤ :=
  let digits (s : Bytes) : ℤ := (s.takeWhile fun c => 48 ≤ c && c ≤ 57).foldl (fun n c => 10 * n + (c.toNat - 48)) 0
  match s.dropWhile isspace with
  | 45 :: s => -digits s
  | 43 :: s => digits s
  | s => digits s

/-- The tunnel that an attribute with this first byte belongs to. -/
def tunnelIndex (tag : UInt8) : Fin radiusTunnelTags :=
  if h : tag.toNat < radiusTunnelTags then ⟨tag.toNat, h⟩ else ⟨0, by decide⟩

/-- A round of the first loop of `radius_msg_get_vlanid`.  The inner `none` is the return of -1. -/
def vlanidAttr (buf : Bytes) (numtagged : ℕ) (st : VlanidState) (attr : AttrHdr) : Option (Option VlanidState) :=
  if attr.length < 2 then some none
  else if attr.length < 3 then some (some st)
  else do
    let tag := (← Buffer.read buf (attr.pos + 2) 1).getD 0 0
    if attr.type = radiusAttrTunnelType then
      if attr.length ≠ 6 then return some st
      else
        let value ← Buffer.read buf (attr.pos + 2 + 1) 3
        return some (st.modify (tunnelIndex tag) fun tun => { tun with type := Wire.beNat value })
    else if attr.type = radiusAttrTunnelMediumType then
      if attr.length ≠ 6 then return some st
      else
        let value ← Buffer.read buf (attr.pos + 2 + 1) 3
        return some (st.modify (tunnelIndex tag) fun tun => { tun with mediumType := Wire.beNat value })
    else if attr.type = radiusAttrTunnelPrivateGroupId then
      let skip := if tag.toNat < radiusTunnelTags then 1 else 0
      if 10 ≤ attr.length - 2 - skip then return some st
      else
        let data ← Buffer.read buf (attr.pos + 2 + skip) (attr.length - 2 - skip)
        if atoi data ≤ 0 then return some st
        else return some (st.modify (tunnelIndex tag) fun tun => { tun with vlanid := (atoi data).toNat })
    else if attr.type = radiusAttrEgressVlanid then
      if attr.length ≠ 6 then return some st
      else
        let vlanId := Wire.beNat (← Buffer.read buf (attr.pos + 2 + 1) 3)
        if vlanId = 0 then return some st
        else if tag = 0x32 then return some { st with untagged := vlanId }
        else if tag = 0x31 && st.tagged.length < numtagged then
          return some { st with tagged := st.tagged ++ [vlanId] }
        else return some st
    else return some st

/-- The first loop of `radius_msg_get_vlanid`. -/
def vlanidAttrs (buf : Bytes) (numtagged : ℕ) : VlanidState → List AttrHdr → Option (Option VlanidState)
  | st, [] => some (some st)
  | st, attr :: hdrs => do
    match ← vlanidAttr buf numtagged st attr with
    | none => return none
    | some st => vlanidAttrs buf numtagged st hdrs

/-- `radius_msg_get_vlanid`: whether there is a VLAN, the untagged one, and the tagged ones.  It returns -1
in the case `none`. -/
def getVlanid (numtagged : ℕ) : Option (Option (Bool × ℕ × List ℕ)) := do
  let hdrs ← msg.attrHdrs
  match ← vlanidAttrs msg.buf numtagged ⟨Vector.replicate radiusTunnelTags {}, 0, []⟩ hdrs with
  | none => return none
  | some st =>
    let lowest := st.tunnel.toList.find? fun tun => tun.tagUsed ≠ 0 && tun.type = radiusTunnelTypeVlan &&
      tun.mediumType = radiusTunnelMediumType802 && 0 < tun.vlanid
    let untagged := (lowest.map (·.vlanid)).getD st.untagged
    return some (0 < untagged || st.tagged ≠ [], untagged, st.tagged.mergeSort)

/-! ## No byte outside the message -/

/-- The attribute is inside the message. -/
structure HdrInside (buf : Bytes) (attr : AttrHdr) : Prop where
  two_le : 2 ≤ attr.length
  inside : attr.pos + attr.length ≤ buf.length

section Access

variable {crypto msg secret} {buf : Bytes} {hdrs : List AttrHdr}

/-- The loops over the attributes only see attributes that are inside the message. -/
lemma WellFormed.attrHdrs_inside (h : msg.WellFormed) :
    ∃ hdrs, msg.attrHdrs = some hdrs ∧ ∀ attr ∈ hdrs, HdrInside msg.buf attr := by
  refine ⟨_, h.attrHdrs, fun attr hattr => ?_⟩
  obtain ⟨pos, hpos, rfl⟩ := List.mem_map.mp hattr
  obtain ⟨-, htwo, hinside⟩ := h.attr pos hpos
  exact ⟨htwo, hinside⟩

lemma isSome_mapM_read (hin : ∀ attr ∈ hdrs, HdrInside buf attr) :
    (hdrs.mapM fun attr => Buffer.read buf (attr.pos + 2) (attr.length - 2)).isSome := by
  induction hdrs with
  | nil => rfl
  | cons attr hdrs ih =>
    obtain ⟨htwo, hattr⟩ := hin attr (by simp)
    obtain ⟨parts, hparts⟩ := Option.isSome_iff_exists.mp (ih fun attr' h => hin attr' (by simp [h]))
    rw [List.mapM_cons, hparts]
    exact Buffer.isSome_bind_read (by omega) rfl

lemma WellFormed.isSome_getEap (h : msg.WellFormed) : msg.getEap.isSome := by
  obtain ⟨hdrs, hhdrs, hin⟩ := h.attrHdrs_inside
  simp only [getEap, hhdrs, Option.bind_eq_bind, Option.bind_some]
  split_ifs with hlen
  · rfl
  · obtain ⟨parts, hparts⟩ := Option.isSome_iff_exists.mp
      (isSome_mapM_read fun attr hattr => hin attr (List.mem_of_mem_filter hattr))
    rw [hparts]
    rfl

lemma WellFormed.isSome_getAttr (h : msg.WellFormed) (type : UInt8) (len : Option ℕ) :
    (msg.getAttr type len).isSome := by
  obtain ⟨hdrs, hhdrs, hin⟩ := h.attrHdrs_inside
  simp only [getAttr, hhdrs, Option.bind_eq_bind, Option.bind_some]
  cases hfind : hdrs.find? fun attr => attr.type = type with
  | none => rfl
  | some attr =>
    obtain ⟨htwo, hattr⟩ := hin attr (List.mem_of_find?_eq_some hfind)
    simp only [if_neg (Nat.not_lt.mpr htwo)]
    cases len with
    | none => rfl
    | some len => exact Buffer.isSome_bind_read (by omega) rfl

/-- The inner loop stays inside what is left of the attribute. -/
lemma isSome_findSubtype (subtype : UInt8) {fuel pos left : ℕ} (hfuel : left < fuel) (hin : pos + left ≤ buf.length) :
    (findSubtype buf subtype fuel pos left).isSome := by
  induction fuel generalizing pos left with
  | zero => omega
  | succ fuel ih =>
    rw [findSubtype]
    split_ifs with hleft
    · rfl
    · refine Buffer.isSome_bind_read (by omega) ?_
      generalize ((Buffer.window buf pos 2).getD 1 0).toNat = vendorLength
      simp only
      split_ifs with hlength hsubtype
      · rfl
      · simp only [Bool.or_eq_true, decide_eq_true_eq, not_or, not_lt] at hlength
        exact ih (by omega) (by omega)
      · simp only [Bool.or_eq_true, decide_eq_true_eq, not_or, not_lt] at hlength
        exact Buffer.isSome_bind_read (by omega) rfl

lemma isSome_findVendorAttr (vendor : ℕ) (subtype : UInt8) (hin : ∀ attr ∈ hdrs, HdrInside buf attr) :
    (findVendorAttr buf vendor subtype hdrs).isSome := by
  induction hdrs with
  | nil => rfl
  | cons attr hdrs ih =>
    obtain ⟨htwo, hattr⟩ := hin attr (by simp)
    have hrest := ih fun attr' h => hin attr' (by simp [h])
    rw [findVendorAttr]
    split_ifs with htype hshort
    · exact hrest
    · exact hrest
    · refine Buffer.isSome_bind_read (by omega) ?_
      split_ifs with hvendor
      · exact hrest
      · have hfind : (findSubtype buf subtype (attr.length + 1) (attr.pos + 2 + 4) (attr.length - 2 - 4)).isSome :=
          isSome_findSubtype subtype (by omega) (by omega)
        obtain ⟨data, hdata⟩ := Option.isSome_iff_exists.mp hfind
        rw [hdata]
        cases data with
        | none => exact hrest
        | some data => rfl

lemma WellFormed.isSome_getVendorAttr (h : msg.WellFormed) (vendor : ℕ) (subtype : UInt8) :
    (msg.getVendorAttr vendor subtype).isSome := by
  obtain ⟨hdrs, hhdrs, hin⟩ := h.attrHdrs_inside
  rw [getVendorAttr, hhdrs]
  exact isSome_findVendorAttr vendor subtype hin

lemma length_xorDigest {block : Bytes} (h : block.length = 16) (hash : Md5Digest) :
    (xorDigest block hash).length = 16 := by
  simp [xorDigest, h]

lemma msBlockInput_eq_some {key : Bytes} (reqAuth : Md5Digest) {pos : ℕ} {first : Bool} (hin : pos ≤ key.length)
    (htwo : 2 ≤ key.length) (hfirst : first = false → 16 ≤ pos) : ∃ input, msBlockInput key reqAuth pos first = some input := by
  cases first with
  | true => exact ⟨_, by rw [msBlockInput, Buffer.read_eq_some (by omega)]; rfl⟩
  | false =>
    have hpos := hfirst rfl
    exact ⟨_, Buffer.read_eq_some (by omega)⟩

/-- The blocks of a key are decrypted to as many bytes. -/
lemma decryptMsBlocks_eq_some {key : Bytes} {reqAuth : Md5Digest} {blocks pos : ℕ} {first : Bool}
    (hin : pos + 16 * blocks ≤ key.length) (htwo : 2 ≤ key.length) (hfirst : first = false → 16 ≤ pos) :
    ∃ res, decryptMsBlocks crypto secret key reqAuth blocks pos first = some res ∧
      ∀ plain ∈ res, plain.length = 16 * blocks := by
  induction blocks generalizing pos first with
  | zero => exact ⟨some [], rfl, by simp⟩
  | succ blocks ih =>
    obtain ⟨res, hres, hlength⟩ :
        ∃ res, decryptMsBlocks crypto secret key reqAuth blocks (pos + 16) false = some res ∧
          ∀ plain ∈ res, plain.length = 16 * blocks := ih (by omega) (by omega)
    obtain ⟨input, hinput⟩ : ∃ input, msBlockInput key reqAuth pos first = some input :=
      msBlockInput_eq_some reqAuth (by omega) htwo hfirst
    simp only [decryptMsBlocks, hinput, Option.bind_eq_bind, Option.bind_some]
    cases crypto.md5 (secret ++ input) with
    | none => exact ⟨none, rfl, by simp⟩
    | some hash =>
      have hblock : (Buffer.window key pos 16).length = 16 := Buffer.length_window (by omega)
      simp only [Buffer.read_eq_some (show pos + 16 ≤ key.length by omega), hres, Option.bind_some]
      cases res with
      | none => exact ⟨none, rfl, by simp⟩
      | some plain =>
        refine ⟨_, rfl, fun plain' hplain => ?_⟩
        obtain rfl := Option.mem_some_iff.mp hplain
        have hplain := hlength plain rfl
        rw [List.length_append, length_xorDigest hblock, hplain]
        omega

lemma isSome_decryptMsKey (key : Bytes) (reqAuth : Md5Digest) : (decryptMsKey crypto secret key reqAuth).isSome := by
  rw [decryptMsKey]
  split_ifs with hshort hblocks
  · rfl
  · rfl
  · obtain ⟨res, hres, hlength⟩ :
        ∃ res, decryptMsBlocks crypto secret key reqAuth ((key.length - 2) / 16) 2 true = some res ∧
          ∀ plain ∈ res, plain.length = 16 * ((key.length - 2) / 16) :=
      decryptMsBlocks_eq_some (by omega) (by omega) (fun h => absurd h (by decide))
    rw [hres]
    cases res with
    | none => rfl
    | some plain =>
      have hplain := hlength plain rfl
      refine Buffer.isSome_bind_read (by omega) ?_
      generalize ((Buffer.window plain 0 1).getD 0 0).toNat = len
      simp only
      split_ifs with hlen
      · rfl
      · simp only [Bool.or_eq_true, decide_eq_true_eq, not_or, not_lt] at hlen
        exact Buffer.isSome_bind_read (by omega) rfl

lemma WellFormed.isSome_getMsKeys (h : msg.WellFormed) (sentMsg : Option RadiusMsg) :
    (msg.getMsKeys crypto secret sentMsg).isSome := by
  have hkey : ∀ sentMsg subtype, (msg.getMsKey crypto secret sentMsg subtype).isSome := by
    intro sentMsg subtype
    obtain ⟨key, hkey⟩ := Option.isSome_iff_exists.mp (h.isSome_getVendorAttr radiusVendorIdMicrosoft subtype)
    rw [getMsKey, hkey]
    cases key with
    | none => rfl
    | some key => exact isSome_decryptMsKey key sentMsg.authenticator
  cases sentMsg with
  | none => rfl
  | some sentMsg =>
    obtain ⟨send, hsend⟩ := Option.isSome_iff_exists.mp (hkey sentMsg radiusVendorAttrMsMppeSendKey)
    obtain ⟨recv, hrecv⟩ := Option.isSome_iff_exists.mp (hkey sentMsg radiusVendorAttrMsMppeRecvKey)
    simp only [getMsKeys, hsend, hrecv]
    rfl

/-- The blocks of a password are decrypted in place. -/
lemma decryptPasswordBlocks_eq_some {fuel pos : ℕ} {buf : Bytes} (hash : Md5Digest) (hfuel : pos < fuel)
    (hin : pos + 16 ≤ buf.length) :
    ∃ pos' buf' hash', decryptPasswordBlocks crypto secret fuel pos buf hash = some (pos', buf', hash') ∧
      buf'.length = buf.length ∧ pos' ≤ pos := by
  induction fuel generalizing pos buf hash with
  | zero => omega
  | succ fuel ih =>
    rw [decryptPasswordBlocks]
    split_ifs with hpos
    · exact ⟨pos, buf, hash, rfl, rfl, le_rfl⟩
    · have hblock : (Buffer.window buf pos 16).length = 16 := Buffer.length_window hin
      simp only [Buffer.read_eq_some (show pos - 16 + 16 ≤ buf.length by omega), Buffer.read_eq_some hin,
        Option.bind_eq_bind, Option.bind_some]
      generalize (crypto.md5 (secret ++ Buffer.window buf (pos - 16) 16)).getD hash = hash
      have hxor := length_xorDigest hblock hash
      have hwrite : pos + (xorDigest (Buffer.window buf pos 16) hash).length ≤ buf.length := by omega
      have hlength := Buffer.length_splice hwrite
      have hnext : pos - 16 + 16 ≤ (Buffer.splice buf pos (xorDigest (Buffer.window buf pos 16) hash)).length := by
        rw [hlength]
        omega
      obtain ⟨pos', buf', hash', heq, hbuf', hle⟩ := ih hash (by omega) hnext
      rw [Buffer.write_eq_some hwrite]
      exact ⟨pos', buf', hash', heq, hbuf'.trans hlength, by omega⟩

lemma isSome_decryptPassword {buf : Bytes} (sentMsg : RadiusMsg) (stack : Md5Digest) (hlen : 19 ≤ buf.length) :
    (decryptPassword crypto secret buf sentMsg stack).isSome := by
  obtain ⟨pos, buf', hash, heq, hbuf, hle⟩ :
      ∃ pos' buf' hash', decryptPasswordBlocks crypto secret (buf.length + 1) (buf.length - 16) buf stack =
        some (pos', buf', hash') ∧ buf'.length = buf.length ∧ pos' ≤ buf.length - 16 :=
    decryptPasswordBlocks_eq_some stack (by omega) (by omega)
  simp only [decryptPassword, heq, Option.bind_eq_bind, Option.bind_some]
  split_ifs with hpos
  · rfl
  · obtain rfl : pos = 3 := not_not.mp hpos
    refine Buffer.isSome_bind_read (by omega) (Buffer.isSome_bind_read (by omega) ?_)
    generalize (crypto.md5 _).getD hash = hash
    have hblock : (Buffer.window buf' 3 16).length = 16 := Buffer.length_window (by omega)
    have hxor := length_xorDigest hblock hash
    have hwrite : 3 + (xorDigest (Buffer.window buf' 3 16) hash).length ≤ buf'.length := by omega
    have hlength := Buffer.length_splice hwrite
    rw [Buffer.write_eq_some hwrite, Option.bind_some]
    refine Buffer.isSome_bind_read (by omega) ?_
    generalize Buffer.splice buf' 3 (xorDigest (Buffer.window buf' 3 16) hash) = plain
    split_ifs with hkeylen hzero
    · rfl
    · rfl
    · exact Buffer.isSome_bind_read (by omega) rfl

lemma WellFormed.isSome_getTunnelPassword (h : msg.WellFormed) (sentMsg : RadiusMsg) (n : ℕ) (stack : Md5Digest) :
    (msg.getTunnelPassword crypto secret sentMsg n stack).isSome := by
  obtain ⟨hdrs, hhdrs, hin⟩ := h.attrHdrs_inside
  simp only [getTunnelPassword, hhdrs, Option.bind_eq_bind, Option.bind_some]
  split
  · rfl
  · rename_i attr hattr
    obtain ⟨hmem, hvalid⟩ := List.mem_filter.mp (List.mem_of_getElem? hattr)
    obtain ⟨htwo, hattr⟩ := hin attr hmem
    simp only [Bool.and_eq_true, Bool.not_eq_true', Bool.or_eq_false_iff, decide_eq_false_iff_not, not_not] at hvalid
    refine Buffer.isSome_bind_read (by omega) (isSome_decryptPassword sentMsg stack ?_)
    rw [Buffer.length_window (by omega)]
    omega

lemma isSome_vlanidAttr (numtagged : ℕ) (st : VlanidState) {attr : AttrHdr} (hin : HdrInside buf attr) :
    (vlanidAttr buf numtagged st attr).isSome := by
  obtain ⟨htwo, hattr⟩ := hin
  rw [vlanidAttr, if_neg (by omega)]
  by_cases hthree : attr.length < 3
  · rw [if_pos hthree]
    rfl
  · rw [if_neg hthree]
    refine Buffer.isSome_bind_read (by omega) ?_
    generalize (Buffer.window buf (attr.pos + 2) 1).getD 0 0 = tag
    have hskip : (if tag.toNat < radiusTunnelTags then 1 else 0) ≤ 1 := by
      split_ifs
      · exact le_rfl
      · exact Nat.zero_le 1
    dsimp only
    generalize (if tag.toNat < radiusTunnelTags then 1 else 0) = skip at hskip ⊢
    -- one case for each type of attribute that is looked at
    split
    · split
      · rfl
      · exact Buffer.isSome_bind_read (by omega) rfl
    · split
      · split
        · rfl
        · exact Buffer.isSome_bind_read (by omega) rfl
      · split
        · split
          · rfl
          · refine Buffer.isSome_bind_read (by omega) ?_
            split_ifs
            · rfl
            · rfl
        · split
          · split
            · rfl
            · refine Buffer.isSome_bind_read (by omega) ?_
              split_ifs
              · rfl
              · rfl
              · rfl
              · rfl
          · rfl

lemma isSome_vlanidAttrs (numtagged : ℕ) (st : VlanidState) (hin : ∀ attr ∈ hdrs, HdrInside buf attr) :
    (vlanidAttrs buf numtagged st hdrs).isSome := by
  induction hdrs generalizing st with
  | nil => rfl
  | cons attr hdrs ih =>
    obtain ⟨res, hres⟩ := Option.isSome_iff_exists.mp (isSome_vlanidAttr numtagged st (hin attr (by simp)))
    rw [vlanidAttrs, hres]
    cases res with
    | none => rfl
    | some st => exact ih st fun attr' h => hin attr' (by simp [h])

lemma WellFormed.isSome_getVlanid (h : msg.WellFormed) (numtagged : ℕ) : (msg.getVlanid numtagged).isSome := by
  obtain ⟨hdrs, hhdrs, hin⟩ := h.attrHdrs_inside
  obtain ⟨res, hres⟩ := Option.isSome_iff_exists.mp
    (isSome_vlanidAttrs numtagged ⟨Vector.replicate radiusTunnelTags {}, 0, []⟩ hin)
  rw [getVlanid, hhdrs, Option.bind_eq_bind, Option.bind_some, hres]
  cases res with
  | none => rfl
  | some st => rfl

end Access

/-! ## The checks -/

/-- What `radius_msg_verify_msg_auth` needs of a message with one `Message-Authenticator` at `pos`: room for
the value, and, if `hmac_md5` fails, that nothing is to be restored. -/
structure ValueSafe (crypto : RadiusCrypto) (msg : RadiusMsg) (secret : Bytes) (reqAuth : Option Md5Digest)
    (pos : ℕ) : Prop where
  room : pos + 18 ≤ msg.buf.length
  restored : crypto.hmacMd5 secret (msg.msgAuthInput pos reqAuth) = none →
    Buffer.window msg.buf (pos + 2) 16 = zeroAuth.toList ∧ ∀ auth ∈ reqAuth, Buffer.window msg.buf 4 16 = auth.toList

section Checks

variable {crypto msg secret} {pos : ℕ}

/-- The message that is hashed is the message itself if its bytes are the ones that are put there. -/
lemma msgAuthInput_eq_self_iff (hin : pos + 18 ≤ msg.buf.length) (hpos : 20 ≤ pos) (reqAuth : Option Md5Digest) :
    msg.msgAuthInput pos reqAuth = msg.buf ↔ Buffer.window msg.buf (pos + 2) 16 = zeroAuth.toList ∧
      ∀ auth ∈ reqAuth, Buffer.window msg.buf 4 16 = auth.toList := by
  have hzero : pos + 2 + zeroAuth.toList.length ≤ msg.buf.length := by
    rw [length_toList_digest]
    omega
  have hvalue := Buffer.splice_eq_self_iff hzero
  have hwrite := Buffer.length_splice hzero
  rw [length_toList_digest] at hvalue
  cases reqAuth with
  | none => simpa [msgAuthInput] using hvalue
  | some reqAuth =>
    have hauth : 4 + reqAuth.toList.length ≤ msg.buf.length := by
      rw [length_toList_digest]
      omega
    simp only [msgAuthInput, Option.mem_some_iff, forall_eq']
    constructor
    · intro heq
      have hfirst := Buffer.window_splice (hwrite.symm ▸ hauth)
      rw [heq, length_toList_digest] at hfirst
      have hzeros := Buffer.window_splice hzero
      rw [length_toList_digest] at hzeros
      have hsecond : Buffer.window msg.buf (pos + 2) 16 = zeroAuth.toList := by
        rw [← heq, Buffer.window_splice_of_disjoint (hwrite.symm ▸ hauth) (by rw [length_toList_digest]; omega), hzeros]
      exact ⟨hsecond, hfirst⟩
    · rintro ⟨hsecond, hfirst⟩
      rw [hvalue.mpr hsecond, Buffer.splice_eq_self_iff hauth, length_toList_digest, hfirst]

lemma WellFormed.verifyMsgAuth_keeps_iff (h : msg.WellFormed) (reqAuth : Option Md5Digest) :
    (msg.verifyMsgAuth crypto secret reqAuth).map Prod.snd = some msg ↔
      ∀ pos, msg.msgAuthPos = [pos] → ValueSafe crypto msg secret reqAuth pos := by
  by_cases hone : ∃ pos, msg.msgAuthPos = [pos]
  · obtain ⟨pos, hpos⟩ := hone
    have hafter := h.after_hdr hpos
    rw [hpos]
    simp only [List.cons.injEq, and_true, forall_eq']
    by_cases hin : pos + 18 ≤ msg.buf.length
    · rw [h.verifyMsgAuth_of_inside crypto secret reqAuth hpos hin]
      have hsafe : ValueSafe crypto msg secret reqAuth pos ↔
          (crypto.hmacMd5 secret (msg.msgAuthInput pos reqAuth) = none → msg.msgAuthInput pos reqAuth = msg.buf) := by
        rw [msgAuthInput_eq_self_iff hin hafter]
        exact ⟨fun hsafe => hsafe.restored, fun hrestored => ⟨hin, hrestored⟩⟩
      rw [hsafe]
      cases crypto.hmacMd5 secret (msg.msgAuthInput pos reqAuth) with
      | none =>
        obtain ⟨buf, attrPos⟩ := msg
        simp
      | some auth => simp
    · rw [h.verifyMsgAuth_of_outside crypto secret reqAuth hpos hin]
      simp only [Option.map_none, reduceCtorEq, false_iff]
      exact fun hsafe => hin hsafe.room
  · push Not at hone
    rw [h.verifyMsgAuth_of_not_one crypto secret reqAuth hone]
    simp only [Option.map_some, true_iff]
    exact fun pos hpos => absurd hpos (hone pos)

lemma WellFormed.verifyDasReq_keeps_iff (h : msg.WellFormed) (stack stack' : Md5Digest) (require : Bool) :
    (msg.verifyDasReq crypto secret stack stack' require).map Prod.snd = some msg ↔
      (AuthenticatedRequest crypto msg secret stack → ∀ pos, msg.msgAuthPos = [pos] → pos + 18 ≤ msg.buf.length) := by
  by_cases hauth : AuthenticatedRequest crypto msg secret stack
  · rw [h.verifyDasReq_of_authenticated crypto secret hauth]
    simp only [hauth, true_imp_iff]
    match msg.msgAuthPos with
    | [] => simp
    | [pos] => simp
    | _ :: _ :: _ => simp
  · rw [h.verifyDasReq_of_not_authenticated crypto secret hauth]
    simp only [Option.map_some, true_iff]
    exact fun hauth' => absurd hauth' hauth

/-- The functions that take values out of a parsed message stay inside it.  The two checks do so and leave
it as it was exactly if a single `Message-Authenticator` has room for its value and the first check is not
left early by a digest that fails. -/
theorem access_inside_iff {data : Bytes} (hparse : parse data = some msg) :
    (∀ reqAuth, (msg.verifyMsgAuth crypto secret reqAuth).map Prod.snd = some msg ↔
        ∀ pos, msg.msgAuthPos = [pos] → ValueSafe crypto msg secret reqAuth pos) ∧
      (∀ stack stack' require, (msg.verifyDasReq crypto secret stack stack' require).map Prod.snd = some msg ↔
        (AuthenticatedRequest crypto msg secret stack →
          ∀ pos, msg.msgAuthPos = [pos] → pos + 18 ≤ msg.buf.length)) ∧
      msg.getEap.isSome ∧ (∀ sentMsg, (msg.getMsKeys crypto secret sentMsg).isSome) ∧
      (∀ sentMsg n stack, (msg.getTunnelPassword crypto secret sentMsg n stack).isSome) ∧
      (∀ numtagged, (msg.getVlanid numtagged).isSome) ∧ ∀ type len, (msg.getAttr type len).isSome := by
  have h := parse_wellFormed hparse
  exact ⟨h.verifyMsgAuth_keeps_iff, h.verifyDasReq_keeps_iff, h.isSome_getEap, h.isSome_getMsKeys,
    h.isSome_getTunnelPassword, h.isSome_getVlanid, h.isSome_getAttr⟩

/-- An Access-Request that ends with a `Message-Authenticator` without a value. -/
def emptyMsgAuth : Bytes := [1, 0, 0, 22] ++ List.replicate 16 0 ++ [80, 2]

theorem access_inside_iff_emptyMsgAuth :
    ∃ msg, parse emptyMsgAuth = some msg ∧ msg.msgAuthPos = [20] ∧ msg.getEap.isSome ∧
      ¬(msg.verifyMsgAuth (.ofFunctions (fun _ => zeroAuth) fun _ _ => zeroAuth) [115] none).map Prod.snd =
        some msg := by
  have hparse : parse emptyMsgAuth = some ⟨emptyMsgAuth, [20]⟩ := by decide +kernel
  have hpos : msgAuthPos ⟨emptyMsgAuth, [20]⟩ = [20] := by decide +kernel
  obtain ⟨hverify, -, heap, -⟩ := access_inside_iff hparse
  refine ⟨_, hparse, hpos, heap, fun hkeeps => ?_⟩
  have hsafe := (hverify none).mp hkeeps 20 hpos
  exact absurd hsafe.room (by decide)

/-- The value is read and written behind the end of the message. -/
theorem emptyMsgAuth_outside :
    ∃ msg, parse emptyMsgAuth = some msg ∧
      msg.verifyMsgAuth (.ofFunctions (fun _ => zeroAuth) fun _ _ => zeroAuth) [115] none = none ∧
      msg.verifyDasReq (.ofFunctions (fun _ => zeroAuth) fun _ _ => zeroAuth) [115] zeroAuth zeroAuth false = none :=
  ⟨⟨emptyMsgAuth, [20]⟩, by decide +kernel, by decide +kernel, by decide +kernel⟩

end Checks

end RadiusMsg

end Ethanol
