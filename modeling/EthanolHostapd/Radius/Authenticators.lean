import EthanolHostapd.Radius.Message

/-!
# The authenticators of RADIUS messages

The functions of `radius/radius.c` that finish a message before it is sent, and those that check a
message that was received.  A check puts zeros and the authenticator of the request into the message for
the time in which the hash is computed.

A check has no result if it reads or writes a byte that is not one of the message.  What it returns is
`true` for 1, that is if the message is not accepted.  A digest that could not be computed is what the
stack held before.
-/

namespace Ethanol

namespace RadiusMsg

variable (crypto : RadiusCrypto) (msg : RadiusMsg) (secret : Bytes)

/-! ## Finishing a message -/

/-- The value of a `Message-Authenticator` while the digest is computed. -/
def zeroAuth : Md5Digest := Vector.replicate 16 0

/-- `wpabuf_len(msg->buf) > 0xffff`, with the message. -/
def checkLength (msg : RadiusMsg) : Bool × RadiusMsg := (msg.buf.length ≤ 0xffff, msg)

/-- A digest is written, unless it could not be computed. -/
def putDigest (msg : RadiusMsg) (off : ℕ) : Option Md5Digest → RadiusMsg
  | none => msg
  | some digest => msg.put off digest.toList

/-- `radius_msg_finish`. -/
def finish : Option Bytes → Bool × RadiusMsg
  | none => msg.setLength.checkLength
  | some secret =>
    match msg.addAttr radiusAttrMessageAuthenticator zeroAuth.toList with
    | none => (false, msg)
    | some msg' =>
      let msg' := msg'.setLength
      (msg'.putDigest (msg.buf.length + 2) (crypto.hmacMd5 secret msg'.buf)).checkLength

/-- What the response authenticator is the digest of. -/
def responseAuthInput (reqAuth : Md5Digest) : Bytes :=
  Buffer.window msg.buf 0 4 ++ reqAuth.toList ++ msg.buf.drop radiusHdrLen ++ secret

/-- `radius_msg_finish_srv`. -/
def finishSrv (reqAuth : Md5Digest) : Bool × RadiusMsg :=
  match msg.addAttr radiusAttrMessageAuthenticator zeroAuth.toList with
  | none => (false, msg)
  | some msg' =>
    let msg' := msg'.setLength.setAuthenticator reqAuth
    let msg' := msg'.putDigest (msg.buf.length + 2) (crypto.hmacMd5 secret msg'.buf)
    (msg'.putDigest 4 (crypto.md5 (msg'.responseAuthInput secret reqAuth))).checkLength

/-- `radius_msg_finish_acct_resp`. -/
def finishAcctResp (reqAuth : Md5Digest) : RadiusMsg :=
  let msg := msg.setLength.setAuthenticator reqAuth
  msg.putDigest 4 (crypto.md5 (msg.buf ++ secret))

/-- `radius_msg_finish_acct`. -/
def finishAcct : RadiusMsg :=
  let msg := msg.setLength.setAuthenticator zeroAuth
  msg.putDigest 4 (crypto.md5 (msg.buf ++ secret))

/-! ## Checking a message -/

/-- The search for the `Message-Authenticator`, which has no result if there is a second one. -/
def findMsgAuth : Option AttrHdr → List AttrHdr → Option (Option AttrHdr)
  | attr, [] => some attr
  | none, tmp :: hdrs =>
    if tmp.type = radiusAttrMessageAuthenticator then findMsgAuth (some tmp) hdrs else findMsgAuth none hdrs
  | some attr, tmp :: hdrs =>
    if tmp.type = radiusAttrMessageAuthenticator then none else findMsgAuth (some attr) hdrs

/-- `radius_msg_verify_msg_auth`.  If `hmac_md5` fails, the message is not restored. -/
def verifyMsgAuth (reqAuth : Option Md5Digest) : Option (Bool × RadiusMsg) := do
  let hdrs ← msg.attrHdrs
  match findMsgAuth none hdrs with
  | none => return (true, msg)
  | some none => return (true, msg)
  | some (some attr) =>
    let orig ← Buffer.read msg.buf (attr.pos + 2) 16
    let buf ← Buffer.write msg.buf (attr.pos + 2) zeroAuth.toList
    let origAuthenticator ← Buffer.read buf 4 16
    let buf ← match reqAuth with
      | none => some buf
      | some reqAuth => Buffer.write buf 4 reqAuth.toList
    match crypto.hmacMd5 secret buf with
    | none => return (true, { msg with buf })
    | some auth =>
      let buf ← Buffer.write buf (attr.pos + 2) orig
      let buf ← match reqAuth with
        | none => some buf
        | some _ => Buffer.write buf 4 origAuthenticator
      return (orig != auth.toList, { msg with buf })

/-- `radius_msg_verify`. -/
def verify (sentMsg : Option RadiusMsg) (auth : Bool) : Option (Bool × RadiusMsg) :=
  match sentMsg with
  | none => some (true, msg)
  | some sentMsg => do
    let (failed, msg) ←
      if auth then msg.verifyMsgAuth crypto secret (some sentMsg.authenticator) else some (false, msg)
    if failed then return (true, msg)
    else
      let hdr ← Buffer.read msg.buf 0 4
      let attrs ← Buffer.read msg.buf radiusHdrLen (msg.buf.length - radiusHdrLen)
      let authenticator ← Buffer.read msg.buf 4 16
      match crypto.md5 (hdr ++ sentMsg.authenticator.toList ++ attrs ++ secret) with
      | none => return (true, msg)
      | some hash => return (hash.toList != authenticator, msg)

/-- `radius_msg_verify_acct_req`. -/
def verifyAcctReq (stack : Md5Digest) : Option Bool := do
  let hdr ← Buffer.read msg.buf 0 4
  let attrs ← Buffer.read msg.buf radiusHdrLen (msg.buf.length - radiusHdrLen)
  let authenticator ← Buffer.read msg.buf 4 16
  let hash := (crypto.md5 (hdr ++ zeroAuth.toList ++ attrs ++ secret)).getD stack
  return authenticator != hash.toList

/-- `radius_msg_verify_das_req`, which begins as `radius_msg_verify_acct_req` does. -/
def verifyDasReq (stack stack' : Md5Digest) (requireMessageAuthenticator : Bool) : Option (Bool × RadiusMsg) := do
  if ← msg.verifyAcctReq crypto secret stack then return (true, msg)
  else
    let hdrs ← msg.attrHdrs
    match findMsgAuth none hdrs with
    | none => return (true, msg)
    | some none => return (requireMessageAuthenticator, msg)
    | some (some attr) =>
      let orig ← Buffer.read msg.buf (attr.pos + 2) 16
      let buf ← Buffer.write msg.buf (attr.pos + 2) zeroAuth.toList
      let origAuthenticator ← Buffer.read buf 4 16
      let buf ← Buffer.write buf 4 zeroAuth.toList
      let auth := (crypto.hmacMd5 secret buf).getD stack'
      let buf ← Buffer.write buf (attr.pos + 2) orig
      let buf ← Buffer.write buf 4 origAuthenticator
      return (orig != auth.toList, { msg with buf })

/-! ## The `Message-Authenticator` of a message -/

/-- The positions of the attributes that are a `Message-Authenticator`. -/
def msgAuthPos : List ℕ := msg.attrPos.filter fun pos => msg.buf.getD pos 0 = radiusAttrMessageAuthenticator

/-- What the value at `pos` is the digest of. -/
def msgAuthInput (pos : ℕ) : Option Md5Digest → Bytes
  | none => Buffer.splice msg.buf (pos + 2) zeroAuth.toList
  | some reqAuth => Buffer.splice (Buffer.splice msg.buf (pos + 2) zeroAuth.toList) 4 reqAuth.toList

lemma findMsgAuth_some (attr : AttrHdr) (hdrs : List AttrHdr) :
    findMsgAuth (some attr) hdrs =
      if hdrs.filter (fun hdr => hdr.type = radiusAttrMessageAuthenticator) = [] then some (some attr) else none := by
  induction hdrs with
  | nil => rfl
  | cons hdr hdrs ih =>
    rw [findMsgAuth]
    by_cases htype : hdr.type = radiusAttrMessageAuthenticator
    · simp [htype]
    · simp [htype, ih]

/-- The search finds the attribute if there is exactly one. -/
lemma findMsgAuth_none (hdrs : List AttrHdr) :
    findMsgAuth none hdrs =
      match hdrs.filter (fun hdr => hdr.type = radiusAttrMessageAuthenticator) with
      | [] => some none
      | [attr] => some (some attr)
      | _ => none := by
  induction hdrs with
  | nil => rfl
  | cons hdr hdrs ih =>
    rw [findMsgAuth]
    by_cases htype : hdr.type = radiusAttrMessageAuthenticator
    · rw [if_pos htype, findMsgAuth_some, List.filter_cons_of_pos (by simpa using htype)]
      cases hdrs.filter (fun hdr => hdr.type = radiusAttrMessageAuthenticator) with
      | nil => rfl
      | cons attr rest => rfl
    · rw [if_neg htype, ih, List.filter_cons_of_neg (by simpa using htype)]

variable {msg}

section WellFormed

variable {pos : ℕ} (reqAuth : Option Md5Digest)

/-- The header of an attribute of a well-formed message. -/
def hdrAt (msg : RadiusMsg) (pos : ℕ) : AttrHdr := ⟨pos, msg.buf.getD pos 0, lengthAt msg.buf pos⟩

lemma filter_hdrAt : (msg.attrPos.map msg.hdrAt).filter (fun hdr => hdr.type = radiusAttrMessageAuthenticator) =
    msg.msgAuthPos.map msg.hdrAt := by
  rw [msgAuthPos, List.filter_map]
  rfl

/-- The first lines of both checks, as the positions of the attribute decide them. -/
lemma WellFormed.findMsgAuth (h : msg.WellFormed) :
    ∃ hdrs, msg.attrHdrs = some hdrs ∧ RadiusMsg.findMsgAuth none hdrs =
      match msg.msgAuthPos with
      | [] => some none
      | [pos] => some (some (msg.hdrAt pos))
      | _ => none := by
  refine ⟨msg.attrPos.map msg.hdrAt, h.attrHdrs, ?_⟩
  rw [findMsgAuth_none, filter_hdrAt]
  match msg.msgAuthPos with
  | [] => rfl
  | [pos] => rfl
  | _ :: _ :: _ => rfl

lemma WellFormed.after_hdr (h : msg.WellFormed) (hpos : msg.msgAuthPos = [pos]) : 20 ≤ pos := by
  have hmem : pos ∈ msg.attrPos := List.mem_of_mem_filter (hpos ▸ List.mem_singleton_self pos)
  exact (h.attr pos hmem).after_hdr

@[simp] lemma length_toList_digest (digest : Md5Digest) : digest.toList.length = 16 := by simp

/-- A message in which nothing was put in place of the authenticator is restored. -/
lemma restore_value (hin : pos + 18 ≤ msg.buf.length) :
    Buffer.splice (msg.msgAuthInput pos none) (pos + 2) (Buffer.window msg.buf (pos + 2) 16) = msg.buf := by
  have hwindow : (Buffer.window msg.buf (pos + 2) 16).length = 16 := Buffer.length_window (by omega)
  rw [msgAuthInput, Buffer.splice_splice (by simp [hwindow]) (by simp; omega), Buffer.splice_window (by omega)]

/-- The value and the authenticator are restored. -/
lemma restore_value_authenticator (hin : pos + 18 ≤ msg.buf.length) (hpos : 20 ≤ pos) (reqAuth : Md5Digest) :
    Buffer.splice (Buffer.splice (msg.msgAuthInput pos (some reqAuth)) (pos + 2) (Buffer.window msg.buf (pos + 2) 16))
      4 (Buffer.window msg.buf 4 16) = msg.buf := by
  have hvalue : (Buffer.window msg.buf (pos + 2) 16).length = 16 := Buffer.length_window (by omega)
  have hauth : (Buffer.window msg.buf 4 16).length = 16 := Buffer.length_window (by omega)
  have hzero : pos + 2 + zeroAuth.toList.length ≤ msg.buf.length := by
    rw [length_toList_digest]
    omega
  have hswap : Buffer.splice (msg.msgAuthInput pos (some reqAuth)) (pos + 2) (Buffer.window msg.buf (pos + 2) 16) =
      Buffer.splice msg.buf 4 reqAuth.toList := by
    rw [msgAuthInput, Buffer.splice_comm
        (by rw [Buffer.length_splice hzero, length_toList_digest]; omega)
        (by rw [Buffer.length_splice hzero, hvalue]; omega)
        (by rw [length_toList_digest]; omega)]
    congr 1
    exact restore_value hin
  rw [hswap, Buffer.splice_splice (by rw [length_toList_digest, hauth]) (by rw [length_toList_digest]; omega),
    Buffer.splice_window (by omega)]

/-- The accesses that both checks make to a value that is inside the message. -/
structure ValueAccess (msg : RadiusMsg) (pos : ℕ) : Prop where
  read_value : Buffer.read msg.buf (pos + 2) 16 = some (Buffer.window msg.buf (pos + 2) 16)
  write_zero : Buffer.write msg.buf (pos + 2) zeroAuth.toList = some (msg.msgAuthInput pos none)
  read_auth : Buffer.read (msg.msgAuthInput pos none) 4 16 = some (Buffer.window msg.buf 4 16)
  write_auth : ∀ reqAuth : Md5Digest, Buffer.write (msg.msgAuthInput pos none) 4 reqAuth.toList =
    some (msg.msgAuthInput pos (some reqAuth))
  restore : Buffer.write (msg.msgAuthInput pos none) (pos + 2) (Buffer.window msg.buf (pos + 2) 16) = some msg.buf
  restore_auth : ∀ reqAuth : Md5Digest, ((Buffer.write (msg.msgAuthInput pos (some reqAuth)) (pos + 2)
    (Buffer.window msg.buf (pos + 2) 16)).bind fun buf => Buffer.write buf 4 (Buffer.window msg.buf 4 16)) = some msg.buf

lemma valueAccess (hin : pos + 18 ≤ msg.buf.length) (hpos : 20 ≤ pos) : ValueAccess msg pos := by
  have hvalue : (Buffer.window msg.buf (pos + 2) 16).length = 16 := Buffer.length_window (by omega)
  have hauth : (Buffer.window msg.buf 4 16).length = 16 := Buffer.length_window (by omega)
  have hzero : pos + 2 + zeroAuth.toList.length ≤ msg.buf.length := by
    rw [length_toList_digest]
    omega
  have hlen : (msg.msgAuthInput pos none).length = msg.buf.length := Buffer.length_splice hzero
  have hlen' : ∀ reqAuth : Md5Digest, (msg.msgAuthInput pos (some reqAuth)).length = msg.buf.length := by
    intro reqAuth
    refine (Buffer.length_splice ?_).trans hlen
    rw [Buffer.length_splice hzero, length_toList_digest]
    omega
  refine ⟨Buffer.read_eq_some (by omega), Buffer.write_eq_some hzero, ?_, ?_, ?_, ?_⟩
  · rw [Buffer.read_eq_some (by omega), msgAuthInput, Buffer.window_splice_of_disjoint hzero (by omega)]
  · intro reqAuth
    exact Buffer.write_eq_some (by rw [hlen, length_toList_digest]; omega)
  · rw [Buffer.write_eq_some (by omega), restore_value hin]
  · intro reqAuth
    have hwrite : pos + 2 + (Buffer.window msg.buf (pos + 2) 16).length ≤ (msg.msgAuthInput pos (some reqAuth)).length := by
      rw [hlen', hvalue]
      omega
    rw [Buffer.write_eq_some hwrite, Option.bind_some,
      Buffer.write_eq_some (by rw [Buffer.length_splice hwrite, hlen', hauth]; omega),
      restore_value_authenticator hin hpos]

/-- The check of a message whose one `Message-Authenticator` has room for its value. -/
lemma WellFormed.verifyMsgAuth_of_inside (h : msg.WellFormed) (hpos : msg.msgAuthPos = [pos])
    (hin : pos + 18 ≤ msg.buf.length) :
    msg.verifyMsgAuth crypto secret reqAuth =
      match crypto.hmacMd5 secret (msg.msgAuthInput pos reqAuth) with
      | none => some (true, { msg with buf := msg.msgAuthInput pos reqAuth })
      | some auth => some (Buffer.window msg.buf (pos + 2) 16 != auth.toList, msg) := by
  obtain ⟨hdrs, hhdrs, hfind⟩ := h.findMsgAuth
  obtain ⟨hread, hzero, hauth, hput, hrestore, hrestore'⟩ := valueAccess hin (h.after_hdr hpos)
  rw [hpos] at hfind
  simp only [verifyMsgAuth, hhdrs, hfind, Option.bind_eq_bind, Option.bind_some, hdrAt, hread, hzero, hauth]
  cases reqAuth with
  | none =>
    dsimp only
    cases crypto.hmacMd5 secret (msg.msgAuthInput pos none) with
    | none => rfl
    | some auth =>
      simp only [hrestore, Option.bind_some]
      rfl
  | some reqAuth =>
    simp only [hput, Option.bind_some]
    cases crypto.hmacMd5 secret (msg.msgAuthInput pos (some reqAuth)) with
    | none => rfl
    | some auth =>
      dsimp only
      rw [← Option.bind_assoc, hrestore']
      rfl

/-- A value that does not fit is read behind the end of the message. -/
lemma WellFormed.verifyMsgAuth_of_outside (h : msg.WellFormed) (hpos : msg.msgAuthPos = [pos])
    (hout : ¬pos + 18 ≤ msg.buf.length) : msg.verifyMsgAuth crypto secret reqAuth = none := by
  obtain ⟨hdrs, hhdrs, hfind⟩ := h.findMsgAuth
  have hread : Buffer.read msg.buf (pos + 2) 16 = none := if_neg (by omega)
  rw [hpos] at hfind
  simp only [verifyMsgAuth, hhdrs, hfind, Option.bind_eq_bind, Option.bind_some, hdrAt, hread, Option.bind_none]

/-- Without a `Message-Authenticator`, and with several of them, the message is refused. -/
lemma WellFormed.verifyMsgAuth_of_not_one (h : msg.WellFormed) (hpos : ∀ pos, msg.msgAuthPos ≠ [pos]) :
    msg.verifyMsgAuth crypto secret reqAuth = some (true, msg) := by
  obtain ⟨hdrs, hhdrs, hfind⟩ := h.findMsgAuth
  simp only [verifyMsgAuth, hhdrs, hfind, Option.bind_eq_bind, Option.bind_some]
  match hlist : msg.msgAuthPos with
  | [] => rfl
  | [pos] => exact absurd hlist (hpos pos)
  | _ :: _ :: _ => rfl

/-- The three parts of the message that go into the response authenticator can be read. -/
lemma WellFormed.read_parts (h : msg.WellFormed) :
    Buffer.read msg.buf 0 4 = some (Buffer.window msg.buf 0 4) ∧
      Buffer.read msg.buf radiusHdrLen (msg.buf.length - radiusHdrLen) = some (msg.buf.drop radiusHdrLen) ∧
      Buffer.read msg.buf 4 16 = some (Buffer.window msg.buf 4 16) := by
  have hhdr : 20 ≤ msg.buf.length := h.hdr
  refine ⟨Buffer.read_eq_some (by omega), ?_, Buffer.read_eq_some (by omega)⟩
  rw [Buffer.read_eq_some (by rw [radiusHdrLen]; omega), Buffer.window, ← List.length_drop, List.take_length]

/-- The authenticator of the message is the digest of an accounting request or of one for the DAS. -/
def AuthenticatedRequest (crypto : RadiusCrypto) (msg : RadiusMsg) (secret : Bytes) (stack : Md5Digest) : Prop :=
  Buffer.window msg.buf 4 16 = ((crypto.md5 (msg.responseAuthInput secret zeroAuth)).getD stack).toList

lemma WellFormed.verifyAcctReq_eq (h : msg.WellFormed) (stack : Md5Digest) :
    msg.verifyAcctReq crypto secret stack = some
      (Buffer.window msg.buf 4 16 != ((crypto.md5 (msg.responseAuthInput secret zeroAuth)).getD stack).toList) := by
  obtain ⟨hread, hattrs, hauthenticator⟩ := h.read_parts
  simp only [verifyAcctReq, Option.bind_eq_bind, Option.bind_some, hread, hattrs, hauthenticator, responseAuthInput,
    Option.pure_def]

/-- A request that is not authenticated is refused before the attributes are looked at. -/
lemma WellFormed.verifyDasReq_of_not_authenticated (h : msg.WellFormed) {stack stack' : Md5Digest} {require : Bool}
    (hauth : ¬AuthenticatedRequest crypto msg secret stack) :
    msg.verifyDasReq crypto secret stack stack' require = some (true, msg) := by
  simp only [verifyDasReq, h.verifyAcctReq_eq, bne_iff_ne.mpr hauth, Option.bind_eq_bind, Option.bind_some, if_true,
    Option.pure_def]

lemma WellFormed.verifyDasReq_of_authenticated (h : msg.WellFormed) {stack stack' : Md5Digest} {require : Bool}
    (hauth : AuthenticatedRequest crypto msg secret stack) :
    (msg.verifyDasReq crypto secret stack stack' require).map Prod.snd =
      match msg.msgAuthPos with
      | [pos] => if pos + 18 ≤ msg.buf.length then some msg else none
      | _ => some msg := by
  obtain ⟨hdrs, hhdrs, hfind⟩ := h.findMsgAuth
  have hfalse : (Buffer.window msg.buf 4 16 !=
      ((crypto.md5 (msg.responseAuthInput secret zeroAuth)).getD stack).toList) = false := by
    rw [bne_eq_false_iff_eq]
    exact hauth
  simp only [verifyDasReq, h.verifyAcctReq_eq, hfalse, hhdrs, hfind, Option.bind_eq_bind, Option.bind_some,
    Bool.false_eq_true, if_false]
  match hlist : msg.msgAuthPos with
  | [] => rfl
  | [pos] =>
    dsimp only [hdrAt]
    split_ifs with hin
    · obtain ⟨hread, hzero, hauth, hput, -, hrestore⟩ := valueAccess hin (h.after_hdr hlist)
      simp only [hread, hzero, hauth, hput, Option.bind_some]
      rw [← Option.bind_assoc, hrestore]
      rfl
    · have hread : Buffer.read msg.buf (pos + 2) 16 = none := if_neg (by omega)
      rw [hread]
      rfl
  | _ :: _ :: _ => rfl

end WellFormed

/-! ## What was finished is accepted -/

section Layout

variable {hdr : Bytes} {attrs : List RadiusAttr}

/-- A `Message-Authenticator`. -/
def msgAuthAttr (value : Md5Digest) : RadiusAttr where
  type := radiusAttrMessageAuthenticator
  data := value.toList
  length_le := by
    rw [length_toList_digest]
    decide

/-- Only the attribute that was added last is a `Message-Authenticator`. -/
lemma Layout.msgAuthPos_eq {value : Md5Digest} (h : Layout msg hdr (attrs ++ [msgAuthAttr value]))
    (hattrs : ∀ attr ∈ attrs, attr.type ≠ radiusAttrMessageAuthenticator) :
    msg.msgAuthPos = [radiusHdrLen + (encode attrs).length] := by
  have hbuf : msg.buf = hdr ++ (encode attrs ++ attrBytes radiusAttrMessageAuthenticator value.toList) := by
    rw [h.buf_eq, encode_append, encode_singleton]
    rfl
  have hbefore : (positions radiusHdrLen attrs).filter
      (fun pos => msg.buf.getD pos 0 = radiusAttrMessageAuthenticator) = [] := by
    refine List.filter_eq_nil_iff.mpr fun pos hpos => ?_
    have hmap := map_positions hdr (attrBytes radiusAttrMessageAuthenticator value.toList) attrs
    rw [← hbuf, h.hdr_length] at hmap
    have hmem := List.mem_map_of_mem (f := fun pos =>
      (msg.buf.getD pos 0, Buffer.window msg.buf (pos + 2) (lengthAt msg.buf pos - 2))) hpos
    rw [hmap] at hmem
    obtain ⟨attr, hattr, heq⟩ := List.mem_map.mp hmem
    have htype : attr.type = msg.buf.getD pos 0 := (Prod.ext_iff.mp heq).1
    rw [decide_eq_true_eq, ← htype]
    exact hattrs attr hattr
  have hlast : msg.buf.getD (radiusHdrLen + (encode attrs).length) 0 = radiusAttrMessageAuthenticator := by
    have hread := (read_attrBytes (hdr ++ encode attrs) [] (msgAuthAttr value)).1
    rw [List.append_nil, List.append_assoc, List.length_append, h.hdr_length] at hread
    rw [hbuf]
    exact hread
  rw [msgAuthPos, h.attrPos_eq, positions_append, List.filter_append, hbefore, List.nil_append]
  exact List.filter_cons_of_pos (decide_eq_true hlast)

/-- The value that the check finds. -/
lemma Layout.window_value {value : Md5Digest} (h : Layout msg hdr (attrs ++ [msgAuthAttr value])) :
    Buffer.window msg.buf (radiusHdrLen + (encode attrs).length + 2) 16 = value.toList := by
  have hread := (read_attrBytes (hdr ++ encode attrs) [] (msgAuthAttr value)).2.2
  rw [List.append_nil, List.append_assoc, List.length_append, h.hdr_length] at hread
  have hvalue : (msgAuthAttr value).data.length = 16 := length_toList_digest value
  rw [hvalue] at hread
  rw [h.buf_eq, encode_append, encode_singleton]
  exact hread

lemma Layout.length_msgAuth {value : Md5Digest} (h : Layout msg hdr (attrs ++ [msgAuthAttr value])) :
    msg.buf.length = radiusHdrLen + (encode attrs).length + 18 := by
  have hvalue : (msgAuthAttr value).data.length = 16 := length_toList_digest value
  rw [h.length, encode_append, List.length_append, encode_singleton, length_attrBytes, hvalue]
  omega

/-- What the check computes the digest of is the message before the value was written. -/
lemma Layout.msgAuthInput_eq {value : Md5Digest} (h : Layout msg hdr (attrs ++ [msgAuthAttr value]))
    (reqAuth : Md5Digest) :
    msg.msgAuthInput (radiusHdrLen + (encode attrs).length) none = hdr ++ encode (attrs ++ [msgAuthAttr zeroAuth]) ∧
      msg.msgAuthInput (radiusHdrLen + (encode attrs).length) (some reqAuth) =
        Buffer.splice hdr 4 reqAuth.toList ++ encode (attrs ++ [msgAuthAttr zeroAuth]) := by
  have hzero : Layout (msg.put (radiusHdrLen + (encode attrs).length + 2) zeroAuth.toList) hdr
      (attrs ++ [msgAuthAttr zeroAuth]) := h.putLast (msgAuthAttr zeroAuth) rfl (by simp [msgAuthAttr])
  refine ⟨hzero.buf_eq, ?_⟩
  have hauth : Layout _ (Buffer.splice hdr 4 reqAuth.toList) (attrs ++ [msgAuthAttr zeroAuth]) :=
    hzero.put (by rw [length_toList_digest]; decide)
  exact hauth.buf_eq

/-- A value that is the digest of the right bytes is accepted. -/
lemma Layout.verifyMsgAuth_accepts {value : Md5Digest} (h : Layout msg hdr (attrs ++ [msgAuthAttr value]))
    (hattrs : ∀ attr ∈ attrs, attr.type ≠ radiusAttrMessageAuthenticator) (hwf : msg.WellFormed)
    {reqAuth : Option Md5Digest}
    (hmac : crypto.hmacMd5 secret (msg.msgAuthInput (radiusHdrLen + (encode attrs).length) reqAuth) = some value) :
    msg.verifyMsgAuth crypto secret reqAuth = some (false, msg) := by
  rw [hwf.verifyMsgAuth_of_inside crypto secret reqAuth (h.msgAuthPos_eq hattrs) h.length_msgAuth.ge, hmac]
  simp only [h.window_value, bne_self_eq_false]

lemma responseAuthInput_eq (reqAuth : Md5Digest) :
    msg.responseAuthInput secret reqAuth = Buffer.splice msg.buf 4 reqAuth.toList ++ secret := by
  rw [responseAuthInput, Buffer.splice, length_toList_digest]
  rfl

/-- A response whose `Message-Authenticator` is right is accepted if its authenticator is right. -/
lemma WellFormed.verify_accepts (h : msg.WellFormed) {sentMsg : RadiusMsg} {auth : Bool} {hash : Md5Digest}
    (hauth : auth → msg.verifyMsgAuth crypto secret (some sentMsg.authenticator) = some (false, msg))
    (hmd5 : crypto.md5 (msg.responseAuthInput secret sentMsg.authenticator) = some hash)
    (hhash : Buffer.window msg.buf 4 16 = hash.toList) :
    msg.verify crypto secret (some sentMsg) auth = some (false, msg) := by
  obtain ⟨hread, hattrs, hauthenticator⟩ := h.read_parts
  rw [responseAuthInput] at hmd5
  cases auth with
  | false =>
    simp only [verify, Option.bind_eq_bind, Option.bind_some, hread, hattrs, hauthenticator, hmd5, hhash,
      bne_self_eq_false, Bool.false_eq_true, if_false, Option.pure_def]
  | true =>
    simp only [verify, hauth rfl, Option.bind_eq_bind, Option.bind_some, hread, hattrs, hauthenticator, hmd5, hhash,
      bne_self_eq_false, Bool.false_eq_true, if_false, if_true, Option.pure_def]

/-- A request whose authenticator is right is accepted. -/
lemma WellFormed.verifyAcctReq_accepts (h : msg.WellFormed) {hash stack : Md5Digest}
    (hmd5 : crypto.md5 (msg.responseAuthInput secret zeroAuth) = some hash)
    (hhash : Buffer.window msg.buf 4 16 = hash.toList) : msg.verifyAcctReq crypto secret stack = some false := by
  rw [h.verifyAcctReq_eq, hmd5, hhash, Option.getD_some, bne_self_eq_false]

/-- The length field after the length and the authenticator have been written. -/
lemma window_length_field (hhdr : hdr.length = radiusHdrLen) (n : ℕ) (auth : Md5Digest) :
    Buffer.window (Buffer.splice hdr 2 (Wire.beBytes 2 n)) 2 2 = Wire.beBytes 2 n ∧
      Buffer.window (Buffer.splice (Buffer.splice hdr 2 (Wire.beBytes 2 n)) 4 auth.toList) 2 2 = Wire.beBytes 2 n := by
  have hfield : 2 + (Wire.beBytes 2 n).length ≤ hdr.length := by
    rw [hhdr, Wire.length_beBytes]
    decide
  have hfirst := Buffer.window_splice hfield
  rw [Wire.length_beBytes] at hfirst
  refine ⟨hfirst, ?_⟩
  have hauth : 4 + auth.toList.length ≤ (Buffer.splice hdr 2 (Wire.beBytes 2 n)).length := by
    rw [Buffer.length_splice hfield, hhdr, length_toList_digest]
    decide
  rw [Buffer.window_splice_of_disjoint hauth (by omega), hfirst]

/-- The authenticator that was written is found in the message. -/
lemma Layout.window_authenticator {auth : Md5Digest} (h : Layout msg (Buffer.splice hdr 4 auth.toList) attrs)
    (hhdr : hdr.length = radiusHdrLen) : Buffer.window msg.buf 4 16 = auth.toList := by
  have hauth : 4 + auth.toList.length ≤ hdr.length := by
    rw [hhdr, length_toList_digest]
    decide
  have hbuf : msg.buf = Buffer.splice (hdr ++ encode attrs) 4 auth.toList := by
    rw [h.buf_eq, Buffer.splice_append_left hauth]
  have hread : Buffer.window (Buffer.splice (hdr ++ encode attrs) 4 auth.toList) 4 auth.toList.length = auth.toList :=
    Buffer.window_splice (by rw [List.length_append]; omega)
  rw [length_toList_digest] at hread
  rw [hbuf, hread]

lemma Layout.setLength (h : Layout msg hdr attrs) :
    Layout msg.setLength (Buffer.splice hdr 2 (Wire.beBytes 2 msg.buf.length)) attrs :=
  h.put (by rw [Wire.length_beBytes]; decide)

lemma Layout.setAuthenticator (h : Layout msg hdr attrs) (auth : Md5Digest) :
    Layout (msg.setAuthenticator auth) (Buffer.splice hdr 4 auth.toList) attrs :=
  h.put (by rw [length_toList_digest]; decide)

/-- Two messages with the same attributes are of the same length. -/
lemma Layout.length_eq {msg' : RadiusMsg} {hdr' : Bytes} (h : Layout msg hdr attrs) (h' : Layout msg' hdr' attrs) :
    msg.buf.length = msg'.buf.length := by
  rw [h.length, h'.length]

/-- An authenticator that is written a second time. -/
lemma splice_authenticator (hhdr : radiusHdrLen ≤ hdr.length) (auth auth' : Md5Digest) :
    Buffer.splice (Buffer.splice hdr 4 auth.toList) 4 auth'.toList = Buffer.splice hdr 4 auth'.toList :=
  Buffer.splice_splice (by rw [length_toList_digest, length_toList_digest])
    (by rw [length_toList_digest]; exact hhdr)

lemma setAuthenticator_setAuthenticator (h : radiusHdrLen ≤ msg.buf.length) (auth auth' : Md5Digest) :
    (msg.setAuthenticator auth).setAuthenticator auth' = msg.setAuthenticator auth' := by
  simp only [RadiusMsg.setAuthenticator, put, splice_authenticator h]

lemma Layout.hdr_le (h : Layout msg hdr attrs) : radiusHdrLen ≤ msg.buf.length := by
  rw [h.length]
  exact Nat.le_add_right _ _

/-- The authenticator of the message does not go into the response authenticator. -/
lemma responseAuthInput_setAuthenticator (h : radiusHdrLen ≤ msg.buf.length) (auth reqAuth : Md5Digest) :
    (msg.setAuthenticator auth).responseAuthInput secret reqAuth = msg.responseAuthInput secret reqAuth := by
  rw [responseAuthInput_eq, responseAuthInput_eq]
  exact congrArg (fun msg => buf msg ++ secret) (setAuthenticator_setAuthenticator h auth reqAuth)

section Functions

variable (md5 : Bytes → Md5Digest) (hmacMd5 : Bytes → Bytes → Md5Digest)

/-- An accounting message with the authenticator that is the digest of it with `auth` in that place. -/
lemma Layout.finish_md5 (h : Layout msg hdr attrs) (hfits : msg.buf.length ≤ 0xffff) {auth : Md5Digest}
    (out : RadiusMsg) (hout : out = (msg.setLength.setAuthenticator auth).putDigest 4
      (some (md5 ((msg.setLength.setAuthenticator auth).buf ++ secret)))) :
    RadiusMsg.parse out.buf = some out ∧ out.attrs = attrs.map (fun attr => (attr.type, attr.data)) ∧
      Buffer.window out.buf 4 16 = (md5 (out.responseAuthInput secret auth)).toList := by
  have hset := h.setLength
  have hlayout := hset.setAuthenticator (md5 ((msg.setLength.setAuthenticator auth).buf ++ secret))
  have heq : out = msg.setLength.setAuthenticator (md5 ((msg.setLength.setAuthenticator auth).buf ++ secret)) :=
    hout.trans (setAuthenticator_setAuthenticator hset.hdr_le _ _)
  rw [← heq] at hlayout
  refine ⟨?_, hlayout.attrs_eq, ?_⟩
  · refine hlayout.parse (by rwa [hlayout.length_eq h]) ?_
    rw [(window_length_field h.hdr_length _ _).2, hlayout.length_eq h]
  · rw [hlayout.window_authenticator hset.hdr_length, heq, responseAuthInput_setAuthenticator secret hset.hdr_le,
      responseAuthInput_eq]
    rfl

/-- The message with its `Message-Authenticator` not computed yet. -/
lemma Layout.addMsgAuth (h : Layout msg hdr attrs) :
    ∃ msg', msg.addAttr radiusAttrMessageAuthenticator zeroAuth.toList = some msg' ∧
      Layout msg' hdr (attrs ++ [msgAuthAttr zeroAuth]) := h.addAttr (msgAuthAttr zeroAuth)

lemma Layout.putMsgAuth (h : Layout msg hdr (attrs ++ [msgAuthAttr zeroAuth])) (mac : Md5Digest) :
    Layout (msg.put (radiusHdrLen + (encode attrs).length + 2) mac.toList) hdr (attrs ++ [msgAuthAttr mac]) :=
  h.putLast (msgAuthAttr mac) rfl (by simp [msgAuthAttr])

/-- The attributes with the one that was added. -/
lemma Layout.attrs_msgAuth {mac : Md5Digest} (h : Layout msg hdr (attrs ++ [msgAuthAttr mac])) :
    msg.attrs = attrs.map (fun attr => (attr.type, attr.data)) ++ [(radiusAttrMessageAuthenticator, mac.toList)] := by
  rw [h.attrs_eq, List.map_append]
  rfl

/-- `radius_msg_finish` and `radius_msg_verify_msg_auth` of a request. -/
lemma Layout.finish (h : Layout msg hdr attrs) (hfits : msg.buf.length + 18 ≤ 0xffff)
    (hattrs : ∀ attr ∈ attrs, attr.type ≠ radiusAttrMessageAuthenticator) :
    ∃ out, ∃ mac : Md5Digest, msg.finish (.ofFunctions md5 hmacMd5) (some secret) = (true, out) ∧
      RadiusMsg.parse out.buf = some out ∧
      out.attrs = attrs.map (fun attr => (attr.type, attr.data)) ++ [(radiusAttrMessageAuthenticator, mac.toList)] ∧
      out.verifyMsgAuth (.ofFunctions md5 hmacMd5) secret none = some (false, out) := by
  obtain ⟨msg', hadd, h'⟩ := h.addMsgAuth
  have hset := h'.setLength
  have hlen := h.length
  have hlen' := h'.length_msgAuth
  have hout := hset.putMsgAuth (hmacMd5 secret msg'.setLength.buf)
  set out := msg'.setLength.put (radiusHdrLen + (encode attrs).length + 2) (hmacMd5 secret msg'.setLength.buf).toList
  have hlength := hout.length_msgAuth
  have hfits' : out.buf.length ≤ 0xffff := by omega
  have hparse : RadiusMsg.parse out.buf = some out := by
    refine hout.parse hfits' ?_
    rw [(window_length_field h.hdr_length _ zeroAuth).1, hlength, hlen']
  refine ⟨out, hmacMd5 secret msg'.setLength.buf, ?_, hparse, hout.attrs_msgAuth, ?_⟩
  · simp only [RadiusMsg.finish, hadd, RadiusCrypto.ofFunctions, hlen]
    change (decide (out.buf.length ≤ 0xffff), out) = (true, out)
    rw [decide_eq_true hfits']
  · refine hout.verifyMsgAuth_accepts _ _ hattrs (parse_wellFormed hparse) ?_
    rw [(hout.msgAuthInput_eq zeroAuth).1, ← hset.buf_eq]
    rfl

/-- `radius_msg_finish_srv` and `radius_msg_verify` of a response with a `Message-Authenticator`. -/
lemma Layout.finishSrv (h : Layout msg hdr attrs) (hfits : msg.buf.length + 18 ≤ 0xffff)
    (hattrs : ∀ attr ∈ attrs, attr.type ≠ radiusAttrMessageAuthenticator) (sentMsg : RadiusMsg) :
    ∃ out, ∃ mac : Md5Digest, msg.finishSrv (.ofFunctions md5 hmacMd5) secret sentMsg.authenticator = (true, out) ∧
      RadiusMsg.parse out.buf = some out ∧
      out.attrs = attrs.map (fun attr => (attr.type, attr.data)) ++ [(radiusAttrMessageAuthenticator, mac.toList)] ∧
      out.verify (.ofFunctions md5 hmacMd5) secret (some sentMsg) true = some (false, out) := by
  obtain ⟨msg', hadd, h'⟩ := h.addMsgAuth
  have hset := h'.setLength
  have hreq := hset.setAuthenticator sentMsg.authenticator
  have hlen := h.length
  have hlen' := h'.length_msgAuth
  set hashed := msg'.setLength.setAuthenticator sentMsg.authenticator with hhashed
  have hmac := hreq.putMsgAuth (hmacMd5 secret hashed.buf)
  set signed := hashed.put (radiusHdrLen + (encode attrs).length + 2) (hmacMd5 secret hashed.buf).toList with hsigned
  have hout := hmac.setAuthenticator (md5 (signed.responseAuthInput secret sentMsg.authenticator))
  set out := signed.setAuthenticator (md5 (signed.responseAuthInput secret sentMsg.authenticator)) with houtEq
  have hwindow := hout.window_authenticator hmac.hdr_length
  have hlength := hout.length_msgAuth
  rw [splice_authenticator hset.hdr_length.ge] at hout
  have hparse : RadiusMsg.parse out.buf = some out := by
    refine hout.parse (by omega) ?_
    rw [(window_length_field h.hdr_length _ _).2, hlength, hlen']
  have hwf := parse_wellFormed hparse
  refine ⟨out, hmacMd5 secret hashed.buf, ?_, hparse, hout.attrs_msgAuth, ?_⟩
  · have hfits' : out.buf.length ≤ 0xffff := by omega
    simp only [RadiusMsg.finishSrv, hadd, RadiusCrypto.ofFunctions, hlen, ← hhashed]
    change (decide (out.buf.length ≤ 0xffff), out) = (true, out)
    rw [decide_eq_true hfits']
  · refine hwf.verify_accepts _ _ (fun _ => ?_) rfl ?_
    · refine hout.verifyMsgAuth_accepts _ _ hattrs hwf ?_
      rw [(hout.msgAuthInput_eq sentMsg.authenticator).2, splice_authenticator hset.hdr_length.ge, ← hreq.buf_eq]
      rfl
    · rw [hwindow, houtEq, responseAuthInput_setAuthenticator secret hmac.hdr_le]

/-- A message is built from its attributes, finished and sent.  Whatever the digests are, it is parsed to
the same attributes, followed by the `Message-Authenticator` if there is one, and the check that belongs
to how it was finished accepts it. -/
theorem finished_accepted (code identifier : UInt8) (auth : Md5Digest) (attrs : List RadiusAttr) (sentMsg : RadiusMsg)
    (hattrs : ∀ attr ∈ attrs, attr.type ≠ radiusAttrMessageAuthenticator) :
    let crypto := RadiusCrypto.ofFunctions md5 hmacMd5
    let sent := attrs.map fun attr => (attr.type, attr.data)
    ∃ msg, ((new code identifier).setAuthenticator auth).addAttrs attrs = some msg ∧
      msg.buf.length = radiusHdrLen + (attrs.map fun attr => 2 + attr.data.length).sum ∧
      (msg.buf.length + 18 ≤ 0xffff →
        (∃ out, ∃ mac : Md5Digest, msg.finish crypto (some secret) = (true, out) ∧ parse out.buf = some out ∧
          out.attrs = sent ++ [(radiusAttrMessageAuthenticator, mac.toList)] ∧
          out.verifyMsgAuth crypto secret none = some (false, out)) ∧
        (∃ out, ∃ mac : Md5Digest, msg.finishSrv crypto secret sentMsg.authenticator = (true, out) ∧
          parse out.buf = some out ∧ out.attrs = sent ++ [(radiusAttrMessageAuthenticator, mac.toList)] ∧
          out.verify crypto secret (some sentMsg) true = some (false, out))) ∧
      (msg.buf.length ≤ 0xffff →
        (∃ out, msg.finishAcct crypto secret = out ∧ parse out.buf = some out ∧ out.attrs = sent ∧
          ∀ stack, out.verifyAcctReq crypto secret stack = some false) ∧
        (∃ out, msg.finishAcctResp crypto secret sentMsg.authenticator = out ∧ parse out.buf = some out ∧
          out.attrs = sent ∧ out.verify crypto secret (some sentMsg) false = some (false, out))) := by
  intro crypto sent
  obtain ⟨msg, hadd, h⟩ := ((layout_new code identifier).setAuthenticator auth).addAttrs attrs
  rw [List.nil_append] at h
  refine ⟨msg, hadd, by rw [h.length, length_encode], fun hfits => ?_, fun hfits => ?_⟩
  · exact ⟨h.finish secret md5 hmacMd5 hfits hattrs, h.finishSrv secret md5 hmacMd5 hfits hattrs sentMsg⟩
  · constructor
    · obtain ⟨hparse, hsent, hhash⟩ := h.finish_md5 secret md5 hfits (msg.finishAcct crypto secret) rfl
      refine ⟨_, rfl, hparse, hsent, fun stack => ?_⟩
      exact (parse_wellFormed hparse).verifyAcctReq_accepts _ _ rfl hhash
    · obtain ⟨hparse, hsent, hhash⟩ := h.finish_md5 secret md5 hfits
        (msg.finishAcctResp crypto secret sentMsg.authenticator) rfl
      refine ⟨_, rfl, hparse, hsent, ?_⟩
      exact (parse_wellFormed hparse).verify_accepts _ _ (fun hauth => absurd hauth (by decide)) rfl hhash

/-- A response with the `User-Name` "a", with a digest that is the length of what it is of. -/
theorem finished_accepted_userName :
    let crypto := RadiusCrypto.ofFunctions (fun data => Vector.replicate 16 (UInt8.ofNat data.length))
      fun _ data => Vector.replicate 16 (UInt8.ofNat data.length)
    ∃ msg out, ((new 2 7).setAuthenticator zeroAuth).addAttrs [⟨1, [97], by decide⟩] = some msg ∧
      msg.finishSrv crypto [115] (new 1 7).authenticator = (true, out) ∧ parse out.buf = some out ∧
      out.verify crypto [115] (some (new 1 7)) true = some (false, out) := by
  intro crypto
  obtain ⟨msg, hadd, hlen, hmac, -⟩ := finished_accepted [115]
    (fun data => Vector.replicate 16 (UInt8.ofNat data.length))
    (fun _ data => Vector.replicate 16 (UInt8.ofNat data.length)) 2 7 zeroAuth [⟨1, [97], by decide⟩] (new 1 7)
    (by decide)
  obtain ⟨-, out, -, hout, hparse, -, hverify⟩ := hmac (by rw [hlen]; decide)
  exact ⟨msg, out, hadd, hout, hparse, hverify⟩

end Functions

end Layout

/-! ## Finished messages -/

/-- What one of the functions above makes of a message. -/
inductive FinishedAs (crypto : RadiusCrypto) (msg : RadiusMsg) : RadiusMsg → Prop
  | finish (secret : Option Bytes) : FinishedAs crypto msg (msg.finish crypto secret).2
  | finishSrv (secret : Bytes) (reqAuth : Md5Digest) : FinishedAs crypto msg (msg.finishSrv crypto secret reqAuth).2
  | finishAcctResp (secret : Bytes) (reqAuth : Md5Digest) :
      FinishedAs crypto msg (msg.finishAcctResp crypto secret reqAuth)
  | finishAcct (secret : Bytes) : FinishedAs crypto msg (msg.finishAcct crypto secret)

/-- A message made of these attributes whose length field is right. -/
structure Ready (msg : RadiusMsg) (hdr : Bytes) (attrs : List RadiusAttr) : Prop where
  layout : Layout msg hdr attrs
  field_eq : Buffer.window hdr 2 2 = Wire.beBytes 2 msg.buf.length

section Ready

variable {hdr : Bytes} {attrs : List RadiusAttr} {crypto}

lemma Layout.ready (h : Layout msg hdr attrs) :
    Ready msg.setLength (Buffer.splice hdr 2 (Wire.beBytes 2 msg.buf.length)) attrs where
  layout := h.setLength
  field_eq := by rw [(window_length_field h.hdr_length _ zeroAuth).1, h.setLength.length_eq h]

lemma Ready.setAuthenticator (h : Ready msg hdr attrs) (auth : Md5Digest) :
    Ready (msg.setAuthenticator auth) (Buffer.splice hdr 4 auth.toList) attrs where
  layout := h.layout.setAuthenticator auth
  field_eq := by
    have hauth : 4 + auth.toList.length ≤ hdr.length := by
      rw [h.layout.hdr_length, length_toList_digest]
      decide
    rw [Buffer.window_splice_of_disjoint hauth (by omega), h.field_eq,
      (h.layout.setAuthenticator auth).length_eq h.layout]

/-- The authenticator is written, unless the digest could not be computed. -/
lemma Ready.putDigest (h : Ready msg hdr attrs) (digest : Option Md5Digest) :
    ∃ hdr', Ready (msg.putDigest 4 digest) hdr' attrs := by
  cases digest with
  | none => exact ⟨hdr, h⟩
  | some auth => exact ⟨_, h.setAuthenticator auth⟩

/-- The value of the `Message-Authenticator` is written, unless the digest could not be computed. -/
lemma Ready.putMsgAuth (h : Ready msg hdr (attrs ++ [msgAuthAttr zeroAuth])) (digest : Option Md5Digest) :
    ∃ mac, Ready (msg.putDigest (radiusHdrLen + (encode attrs).length + 2) digest) hdr (attrs ++ [msgAuthAttr mac]) := by
  cases digest with
  | none => exact ⟨zeroAuth, h⟩
  | some mac =>
    have hput := h.layout.putMsgAuth mac
    refine ⟨mac, hput, ?_⟩
    rw [h.field_eq, h.layout.length_msgAuth]
    exact congrArg _ hput.length_msgAuth.symm

/-- A message that was finished has one more attribute at most, and its length field is right. -/
lemma Layout.finishedAs {out : RadiusMsg} (h : Layout msg hdr attrs) (hout : FinishedAs crypto msg out) :
    ∃ hdr' attrs', Ready out hdr' (attrs ++ attrs') ∧ ∀ attr ∈ attrs', attr.type = radiusAttrMessageAuthenticator := by
  obtain ⟨msg', hadd, h'⟩ := h.addMsgAuth
  have hlast : ∀ mac, ∀ attr ∈ [msgAuthAttr mac], attr.type = radiusAttrMessageAuthenticator := by
    intro mac attr hattr
    rw [List.mem_singleton.mp hattr]
    rfl
  have hnone : ∀ attr ∈ ([] : List RadiusAttr), attr.type = radiusAttrMessageAuthenticator := by simp
  cases hout with
  | finish secret =>
    cases secret with
    | none => exact ⟨_, [], by rw [List.append_nil]; exact h.ready, hnone⟩
    | some secret =>
      obtain ⟨mac, hmac⟩ := h'.ready.putMsgAuth (crypto.hmacMd5 secret msg'.setLength.buf)
      rw [← h.length] at hmac
      rw [RadiusMsg.finish, hadd]
      exact ⟨_, [msgAuthAttr mac], hmac, hlast mac⟩
  | finishSrv secret reqAuth =>
    obtain ⟨mac, hmac⟩ := (h'.ready.setAuthenticator reqAuth).putMsgAuth
      (crypto.hmacMd5 secret (msg'.setLength.setAuthenticator reqAuth).buf)
    rw [← h.length] at hmac
    obtain ⟨hdr', hdigest⟩ := hmac.putDigest (crypto.md5 (responseAuthInput _ secret reqAuth))
    rw [RadiusMsg.finishSrv, hadd]
    exact ⟨hdr', [msgAuthAttr mac], hdigest, hlast mac⟩
  | finishAcctResp secret reqAuth =>
    obtain ⟨hdr', hdigest⟩ := (h.ready.setAuthenticator reqAuth).putDigest
      (crypto.md5 ((msg.setLength.setAuthenticator reqAuth).buf ++ secret))
    exact ⟨hdr', [], by rw [List.append_nil]; exact hdigest, hnone⟩
  | finishAcct secret =>
    obtain ⟨hdr', hdigest⟩ := (h.ready.setAuthenticator zeroAuth).putDigest
      (crypto.md5 ((msg.setLength.setAuthenticator zeroAuth).buf ++ secret))
    exact ⟨hdr', [], by rw [List.append_nil]; exact hdigest, hnone⟩

/-- A message that was finished and whose length can be written to its length field parses to itself. -/
lemma Ready.parse (h : Ready msg hdr attrs) (hfits : msg.buf.length ≤ 0xffff) : RadiusMsg.parse msg.buf = some msg :=
  h.layout.parse hfits h.field_eq

end Ready

end RadiusMsg

end Ethanol
