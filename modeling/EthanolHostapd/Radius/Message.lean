import EthanolHostapd.Utils.Common
import EthanolHostapd.Wire.Buffer

/-!
# RADIUS messages

`radius/radius.c`: building a message, parsing one, and the attributes of a parsed message.  A message
is its bytes, a header of 20 bytes and the attributes after it, together with the positions of the
attributes; an attribute is a type, a length that counts both of these bytes, and data.

Memory is always available here.  Access to the bytes of a message goes through `Buffer.read` and
`Buffer.write`, which have no result outside the message.
-/

namespace Ethanol

/-- `u8 [MD5_MAC_LEN]`. -/
abbrev Md5Digest : Type := Vector UInt8 16

/-- `md5_vector`, of the concatenation of what it is given, and `hmac_md5`; both can fail. -/
structure RadiusCrypto where
  md5 : Bytes → Option Md5Digest
  hmacMd5 : Bytes → Bytes → Option Md5Digest

/-- Two functions that do not fail. -/
def RadiusCrypto.ofFunctions (md5 : Bytes → Md5Digest) (hmacMd5 : Bytes → Bytes → Md5Digest) : RadiusCrypto where
  md5 data := some (md5 data)
  hmacMd5 key data := some (hmacMd5 key data)

/-- `sizeof(struct radius_hdr)`. -/
def radiusHdrLen : ℕ := 20

/-- `RADIUS_MAX_ATTR_LEN`. -/
def radiusMaxAttrLen : ℕ := 253

/-- `RADIUS_ATTR_MESSAGE_AUTHENTICATOR`. -/
def radiusAttrMessageAuthenticator : UInt8 := 80

/-- `struct radius_msg`. -/
structure RadiusMsg where
  buf : Bytes
  attrPos : List ℕ
deriving DecidableEq

/-- An attribute that `radius_msg_add_attr` accepts. -/
structure RadiusAttr where
  type : UInt8
  data : Bytes
  length_le : data.length ≤ radiusMaxAttrLen

/-- `struct radius_attr_hdr`, with its position. -/
structure AttrHdr where
  pos : ℕ
  type : UInt8
  length : ℕ

namespace RadiusMsg

/-- `radius_msg_new`. -/
def new (code identifier : UInt8) : RadiusMsg := ⟨code :: identifier :: List.replicate 18 0, []⟩

/-- `hdr->code`. -/
def code (msg : RadiusMsg) : UInt8 := msg.buf.getD 0 0

/-- `hdr->identifier`. -/
def identifier (msg : RadiusMsg) : UInt8 := msg.buf.getD 1 0

/-- `hdr->authenticator`. -/
def authenticator (msg : RadiusMsg) : Md5Digest := Vector.ofFn fun i => msg.buf.getD (4 + i) 0

/-- Some bytes of the message are written. -/
def put (msg : RadiusMsg) (off : ℕ) (data : Bytes) : RadiusMsg :=
  { msg with buf := Buffer.splice msg.buf off data }

/-- `hdr->authenticator` is written. -/
def setAuthenticator (msg : RadiusMsg) (auth : Md5Digest) : RadiusMsg := msg.put 4 auth.toList

/-- `msg->hdr->length = host_to_be16(wpabuf_len(msg->buf))`. -/
def setLength (msg : RadiusMsg) : RadiusMsg := msg.put 2 (Wire.beBytes 2 msg.buf.length)

/-- The bytes of an attribute. -/
def attrBytes (type : UInt8) (data : Bytes) : Bytes := type :: UInt8.ofNat (2 + data.length) :: data

/-- `radius_msg_add_attr`. -/
def addAttr (msg : RadiusMsg) (type : UInt8) (data : Bytes) : Option RadiusMsg :=
  if radiusMaxAttrLen < data.length then none
  else some ⟨msg.buf ++ attrBytes type data, msg.attrPos ++ [msg.buf.length]⟩

/-- Some attributes are added. -/
def addAttrs (msg : RadiusMsg) : List RadiusAttr → Option RadiusMsg
  | [] => some msg
  | attr :: attrs => (msg.addAttr attr.type attr.data).bind fun msg => msg.addAttrs attrs

/-- `attr->length`, where it is read without a check. -/
def lengthAt (buf : Bytes) (pos : ℕ) : ℕ := (buf.getD (pos + 1) 0).toNat

/-- The loop of `radius_msg_parse`.  A round moves forward by two bytes at least. -/
def parseAttrs (buf : Bytes) : ℕ → ℕ → Option (List ℕ)
  | 0, _ => none
  | fuel + 1, pos =>
    if buf.length ≤ pos then some []
    else if buf.length - pos < 2 then none
    else if buf.length - pos < lengthAt buf pos || lengthAt buf pos < 2 then none
    else (parseAttrs buf fuel (pos + lengthAt buf pos)).map (pos :: ·)

/-- `radius_msg_parse`. -/
def parse (data : Bytes) : Option RadiusMsg :=
  if data.length < radiusHdrLen then none
  else
    let msgLen := (data.getD 2 0).toNat * 256 + (data.getD 3 0).toNat
    if msgLen < radiusHdrLen || data.length < msgLen then none
    else
      let buf := data.take msgLen
      (parseAttrs buf (buf.length + 1) radiusHdrLen).map fun attrPos => ⟨buf, attrPos⟩

/-- `radius_get_attr_hdr`, with the type and the length that are read there. -/
def getAttrHdr (msg : RadiusMsg) (pos : ℕ) : Option AttrHdr :=
  match Buffer.read msg.buf pos 2 with
  | some [type, length] => some ⟨pos, type, length.toNat⟩
  | _ => none

/-- The headers of all attributes. -/
def attrHdrs (msg : RadiusMsg) : Option (List AttrHdr) := msg.attrPos.mapM msg.getAttrHdr

/-- The type and the data of all attributes. -/
def attrs (msg : RadiusMsg) : List (UInt8 × Bytes) :=
  msg.attrPos.map fun pos =>
    (msg.buf.getD pos 0, Buffer.window msg.buf (pos + 2) (lengthAt msg.buf pos - 2))

/-! ## Parsed messages -/

/-- The attribute at a position is inside the message. -/
structure AttrAt (buf : Bytes) (pos : ℕ) : Prop where
  after_hdr : radiusHdrLen ≤ pos
  two_le : 2 ≤ lengthAt buf pos
  inside : pos + lengthAt buf pos ≤ buf.length

/-- The message has a header, and its attributes are inside it. -/
structure WellFormed (msg : RadiusMsg) : Prop where
  hdr : radiusHdrLen ≤ msg.buf.length
  attr : ∀ pos ∈ msg.attrPos, AttrAt msg.buf pos

lemma parseAttrs_attrAt {buf : Bytes} {fuel pos : ℕ} {attrPos : List ℕ} (hpos : radiusHdrLen ≤ pos)
    (h : parseAttrs buf fuel pos = some attrPos) : ∀ pos' ∈ attrPos, AttrAt buf pos' := by
  induction fuel generalizing pos attrPos with
  | zero => exact absurd h (by simp [parseAttrs])
  | succ fuel ih =>
    rw [parseAttrs] at h
    split_ifs at h with hend hshort hlength
    · obtain rfl := Option.some.inj h
      simp
    · obtain ⟨rest, hrest, rfl⟩ := Option.map_eq_some_iff.mp h
      simp only [Bool.or_eq_true, decide_eq_true_eq, not_or, not_lt] at hlength
      intro pos' hpos'
      rcases List.mem_cons.mp hpos' with rfl | hpos'
      · exact ⟨hpos, hlength.2, by omega⟩
      · exact ih (hpos.trans (Nat.le_add_right _ _)) hrest pos' hpos'

/-- What `radius_msg_parse` accepts is well formed. -/
lemma parse_wellFormed {data : Bytes} {msg : RadiusMsg} (h : parse data = some msg) : msg.WellFormed := by
  simp only [parse] at h
  split_ifs at h with hshort hlength
  obtain ⟨attrPos, hattrs, rfl⟩ := Option.map_eq_some_iff.mp h
  simp only [Bool.or_eq_true, decide_eq_true_eq, not_or, not_lt] at hlength
  refine ⟨?_, parseAttrs_attrAt le_rfl hattrs⟩
  rw [List.length_take]
  omega

section WellFormed

variable {msg : RadiusMsg} {pos : ℕ}

/-- The header of an attribute can be read. -/
lemma WellFormed.getAttrHdr (h : msg.WellFormed) (hpos : pos ∈ msg.attrPos) :
    msg.getAttrHdr pos = some ⟨pos, msg.buf.getD pos 0, lengthAt msg.buf pos⟩ := by
  obtain ⟨-, htwo, hinside⟩ := h.attr pos hpos
  have hread : Buffer.read msg.buf pos 2 = some [msg.buf.getD pos 0, msg.buf.getD (pos + 1) 0] := by
    rw [Buffer.read_eq_some (by omega)]
    congr 1
    refine List.ext_getElem? fun i => ?_
    rw [Buffer.getElem?_window]
    match i with
    | 0 => simp [List.getD_eq_getElem?_getD, List.getElem?_eq_getElem (show pos < msg.buf.length by omega)]
    | 1 => simp [List.getD_eq_getElem?_getD, List.getElem?_eq_getElem (show pos + 1 < msg.buf.length by omega)]
    | i + 2 => simp
  simp only [RadiusMsg.getAttrHdr, hread]
  rfl

lemma WellFormed.attrHdrs (h : msg.WellFormed) :
    msg.attrHdrs = some (msg.attrPos.map fun pos => ⟨pos, msg.buf.getD pos 0, lengthAt msg.buf pos⟩) := by
  have hall : ∀ l : List ℕ, (∀ pos ∈ l, pos ∈ msg.attrPos) → l.mapM msg.getAttrHdr =
      some (l.map fun pos => ⟨pos, msg.buf.getD pos 0, lengthAt msg.buf pos⟩) := by
    intro l hl
    induction l with
    | nil => rfl
    | cons pos l ih =>
      rw [List.mapM_cons, h.getAttrHdr (hl pos (by simp)), ih fun pos' hpos' => hl pos' (by simp [hpos'])]
      rfl
  exact hall msg.attrPos fun _ hpos => hpos

end WellFormed

/-! ## Messages made of attributes -/

/-- The bytes of some attributes. -/
def encode (attrs : List RadiusAttr) : Bytes := attrs.flatMap fun attr => attrBytes attr.type attr.data

/-- The positions of some attributes, the first of which is at `pos`. -/
def positions : ℕ → List RadiusAttr → List ℕ
  | _, [] => []
  | pos, attr :: attrs => pos :: positions (pos + (2 + attr.data.length)) attrs

/-- The message is a header followed by these attributes. -/
structure Layout (msg : RadiusMsg) (hdr : Bytes) (attrs : List RadiusAttr) : Prop where
  hdr_length : hdr.length = radiusHdrLen
  buf_eq : msg.buf = hdr ++ encode attrs
  attrPos_eq : msg.attrPos = positions radiusHdrLen attrs

@[simp] lemma length_attrBytes (type : UInt8) (data : Bytes) : (attrBytes type data).length = 2 + data.length := by
  simp [attrBytes]
  omega

lemma encode_cons (attr : RadiusAttr) (attrs : List RadiusAttr) :
    encode (attr :: attrs) = attrBytes attr.type attr.data ++ encode attrs := by
  simp [encode]

lemma encode_append (attrs attrs' : List RadiusAttr) : encode (attrs ++ attrs') = encode attrs ++ encode attrs' := by
  simp [encode]

lemma encode_singleton (attr : RadiusAttr) : encode [attr] = attrBytes attr.type attr.data := by
  simp [encode]

lemma length_encode (attrs : List RadiusAttr) :
    (encode attrs).length = (attrs.map fun attr => 2 + attr.data.length).sum := by
  simp [encode, List.length_flatMap]

lemma positions_append (pos : ℕ) (attrs attrs' : List RadiusAttr) :
    positions pos (attrs ++ attrs') = positions pos attrs ++ positions (pos + (encode attrs).length) attrs' := by
  induction attrs generalizing pos with
  | nil => simp [positions, encode]
  | cons attr attrs ih =>
    rw [List.cons_append, positions, positions, ih, encode_cons, List.length_append, length_attrBytes,
      Nat.add_assoc pos]
    rfl

section Layout

variable {msg : RadiusMsg} {hdr : Bytes} {attrs : List RadiusAttr}

lemma layout_new (code identifier : UInt8) :
    Layout (new code identifier) (code :: identifier :: List.replicate 18 0) [] :=
  ⟨rfl, by simp [new, encode], rfl⟩

/-- The attribute that `radius_msg_add_attr` adds is the last one. -/
lemma Layout.addAttr (h : Layout msg hdr attrs) (attr : RadiusAttr) :
    ∃ msg', msg.addAttr attr.type attr.data = some msg' ∧ Layout msg' hdr (attrs ++ [attr]) := by
  refine ⟨_, if_neg (Nat.not_lt.mpr attr.length_le), h.hdr_length, ?_, ?_⟩
  · rw [h.buf_eq, encode_append, encode_singleton, List.append_assoc]
  · rw [h.attrPos_eq, positions_append, h.buf_eq, List.length_append, h.hdr_length]
    rfl

lemma Layout.addAttrs (h : Layout msg hdr attrs) (attrs' : List RadiusAttr) :
    ∃ msg', msg.addAttrs attrs' = some msg' ∧ Layout msg' hdr (attrs ++ attrs') := by
  induction attrs' generalizing msg attrs with
  | nil => exact ⟨msg, rfl, by rwa [List.append_nil]⟩
  | cons attr attrs' ih =>
    obtain ⟨msg₁, hadd, h₁⟩ := h.addAttr attr
    obtain ⟨msg₂, hrest, h₂⟩ := ih h₁
    refine ⟨msg₂, ?_, by rwa [List.append_assoc] at h₂⟩
    rw [RadiusMsg.addAttrs, hadd]
    exact hrest

/-- A write to the header leaves the attributes as they are. -/
lemma Layout.put (h : Layout msg hdr attrs) {off : ℕ} {data : Bytes} (hdata : off + data.length ≤ radiusHdrLen) :
    Layout (msg.put off data) (Buffer.splice hdr off data) attrs := by
  rw [← h.hdr_length] at hdata
  refine ⟨?_, ?_, h.attrPos_eq⟩
  · rw [Buffer.length_splice hdata, h.hdr_length]
  · rw [RadiusMsg.put, h.buf_eq, Buffer.splice_append_left hdata]

/-- The value of the last attribute is replaced by another one of the same length. -/
lemma Layout.putLast {attr : RadiusAttr} (h : Layout msg hdr (attrs ++ [attr])) (attr' : RadiusAttr)
    (htype : attr'.type = attr.type) (hlength : attr'.data.length = attr.data.length) :
    Layout (msg.put (radiusHdrLen + (encode attrs).length + 2) attr'.data) hdr (attrs ++ [attr']) := by
  refine ⟨h.hdr_length, ?_, ?_⟩
  · have hbuf : msg.buf = (hdr ++ encode attrs) ++ attrBytes attr.type attr.data := by
      rw [h.buf_eq, encode_append, encode_singleton, List.append_assoc]
    have hlast : Buffer.splice (attrBytes attr.type attr.data) 2 attr'.data = attrBytes attr'.type attr'.data := by
      simp [Buffer.splice, attrBytes, htype, hlength]
      omega
    rw [RadiusMsg.put, hbuf, ← h.hdr_length, ← List.length_append, Buffer.splice_append_right, hlast,
      encode_append, encode_singleton, List.append_assoc]
  · rw [RadiusMsg.put, h.attrPos_eq, positions_append, positions_append]
    rfl

/-- The type, the length and the data of an attribute, wherever it is. -/
lemma read_attrBytes (pre rest : Bytes) (attr : RadiusAttr) :
    let buf := pre ++ (attrBytes attr.type attr.data ++ rest)
    buf.getD pre.length 0 = attr.type ∧ lengthAt buf pre.length = 2 + attr.data.length ∧
      Buffer.window buf (pre.length + 2) attr.data.length = attr.data := by
  have hlength : attr.data.length ≤ 253 := attr.length_le
  refine ⟨by simp [attrBytes], ?_, ?_⟩
  · rw [lengthAt, List.getD_append_right _ _ _ _ (by omega), Nat.add_sub_cancel_left]
    simp only [attrBytes, List.cons_append, List.getD_cons_succ, List.getD_cons_zero, UInt8.toNat_ofNat']
    omega
  · rw [Buffer.window, List.drop_append, List.drop_of_length_le (by omega)]
    simp [attrBytes]

/-- The loop of `radius_msg_parse` finds the attributes that were written. -/
lemma parseAttrs_encode (pre : Bytes) (attrs : List RadiusAttr) (fuel : ℕ) (hfuel : (encode attrs).length < fuel) :
    parseAttrs (pre ++ encode attrs) fuel pre.length = some (positions pre.length attrs) := by
  induction attrs generalizing pre fuel with
  | nil =>
    obtain ⟨fuel, rfl⟩ := Nat.exists_eq_succ_of_ne_zero (Nat.ne_of_gt hfuel)
    simp [parseAttrs, encode, positions]
  | cons attr attrs ih =>
    obtain ⟨fuel, rfl⟩ := Nat.exists_eq_succ_of_ne_zero (Nat.ne_of_gt (Nat.zero_lt_of_lt hfuel))
    obtain ⟨-, hlength, -⟩ := read_attrBytes pre (encode attrs) attr
    rw [encode_cons, List.length_append, length_attrBytes] at hfuel
    rw [encode_cons, parseAttrs, hlength, List.length_append, List.length_append, length_attrBytes,
      if_neg (by omega), if_neg (by omega), if_neg (by simp; omega)]
    have hrest := ih (pre ++ attrBytes attr.type attr.data) fuel (by omega)
    rw [List.append_assoc, List.length_append, length_attrBytes] at hrest
    rw [hrest]
    rfl

lemma map_positions (pre rest : Bytes) (attrs : List RadiusAttr) :
    let buf := pre ++ (encode attrs ++ rest)
    (positions pre.length attrs).map (fun pos =>
      (buf.getD pos 0, Buffer.window buf (pos + 2) (lengthAt buf pos - 2))) =
      attrs.map fun attr => (attr.type, attr.data) := by
  induction attrs generalizing pre with
  | nil => rfl
  | cons attr attrs ih =>
    obtain ⟨htype, hlength, hdata⟩ := read_attrBytes pre (encode attrs ++ rest) attr
    have hrest := ih (pre ++ attrBytes attr.type attr.data)
    simp only [List.append_assoc, List.length_append, length_attrBytes] at hrest
    simp only [positions, List.map_cons, encode_cons, List.append_assoc, htype, hlength, hrest,
      Nat.add_sub_cancel_left, hdata]

/-- The attributes of a message are the ones it was made of. -/
lemma Layout.attrs_eq (h : Layout msg hdr attrs) : msg.attrs = attrs.map fun attr => (attr.type, attr.data) := by
  rw [RadiusMsg.attrs, h.attrPos_eq, h.buf_eq, ← h.hdr_length]
  simpa using map_positions hdr [] attrs

lemma Layout.length (h : Layout msg hdr attrs) : msg.buf.length = radiusHdrLen + (encode attrs).length := by
  rw [h.buf_eq, List.length_append, h.hdr_length]

/-- A message whose length field is right parses to itself. -/
lemma Layout.parse (h : Layout msg hdr attrs) (hfits : msg.buf.length ≤ 0xffff)
    (hfield : Buffer.window hdr 2 2 = Wire.beBytes 2 msg.buf.length) : parse msg.buf = some msg := by
  have hlen := h.length
  have hhdr : hdr.length = 20 := h.hdr_length
  have hget : ∀ i < 2, msg.buf.getD (2 + i) 0 = (Wire.beBytes 2 msg.buf.length).getD i 0 := by
    intro i hi
    rw [← hfield, List.getD_eq_getElem?_getD, List.getD_eq_getElem?_getD, Buffer.getElem?_window, if_pos hi,
      h.buf_eq, List.getElem?_append_left (by omega)]
  have hmsgLen : (msg.buf.getD 2 0).toNat * 256 + (msg.buf.getD 3 0).toNat = msg.buf.length := by
    rw [hget 0 (by omega), hget 1 (by omega)]
    simp only [Wire.beBytes_succ, Wire.beBytes_zero, List.nil_append, List.cons_append, List.getD_cons_zero,
      List.getD_cons_succ, UInt8.toNat_ofNat']
    omega
  simp only [RadiusMsg.parse, hmsgLen, List.take_length]
  rw [if_neg (by omega), if_neg (by simp; omega)]
  have hattrs := parseAttrs_encode hdr attrs (msg.buf.length + 1) (by omega)
  rw [← h.buf_eq, h.hdr_length, ← h.attrPos_eq] at hattrs
  rw [hattrs]
  rfl

end Layout

end RadiusMsg

end Ethanol
