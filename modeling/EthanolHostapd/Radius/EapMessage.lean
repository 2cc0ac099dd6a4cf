import EthanolHostapd.Radius.Access

/-!
# EAP packets in RADIUS messages

`radius_msg_add_eap` of `radius/radius.c` cuts a packet into EAP-Message attributes, and `radius_msg_get_eap` joins the
attributes of this type.  It goes over the attributes twice: first for the length of the buffer, then to fill it.
-/

namespace Ethanol

namespace RadiusMsg

/-! ## The code -/

/-- `radius_msg_add_eap`; the return of 0 is `none`. -/
def addEap (msg : RadiusMsg) (data : Bytes) : Option RadiusMsg :=
  if _h : data.length = 0 then some msg
  else
    let len := if radiusMaxAttrLen < data.length then radiusMaxAttrLen else data.length
    match msg.addAttr radiusAttrEapMessage (data.take len) with
    | none => none
    | some msg => msg.addEap (data.drop len)
termination_by data.length
decreasing_by
  rw [List.length_drop]
  unfold radiusMaxAttrLen
  split_ifs <;> omega

/-- What both loops of `radius_msg_get_eap` ask of an attribute. -/
def isEapMessage (attr : AttrHdr) : Bool := attr.type = radiusAttrEapMessage && 2 < attr.length

/-- The first loop of `radius_msg_get_eap`. -/
def eapLen : List AttrHdr → ℕ
  | [] => 0
  | attr :: hdrs => if isEapMessage attr then attr.length - 2 + eapLen hdrs else eapLen hdrs

/-- The second loop of `radius_msg_get_eap`. -/
def putEap (buf : Bytes) : Wpabuf → List AttrHdr → Option Wpabuf
  | eap, [] => some eap
  | eap, attr :: hdrs =>
    if isEapMessage attr then do
      let data ← Buffer.read buf (attr.pos + 2) (attr.length - 2)
      let eap ← eap.putData data
      putEap buf eap hdrs
    else putEap buf eap hdrs

/-- `radius_msg_get_eap`, with the buffer that it fills. -/
def getEapBuf (msg : RadiusMsg) : Option (Option Wpabuf) := do
  let hdrs ← msg.attrHdrs
  if eapLen hdrs = 0 then return none
  else
    let eap ← putEap msg.buf ⟨eapLen hdrs, []⟩ hdrs
    return some eap

/-! ## Cutting -/

/-- The data of the attributes of a list that are EAP-Message attributes. -/
def eapData (attrs : List (UInt8 × Bytes)) : Bytes :=
  (attrs.filter fun attr => attr.1 = radiusAttrEapMessage).flatMap Prod.snd

lemma eapData_cons (attr : UInt8 × Bytes) (attrs : List (UInt8 × Bytes)) :
    eapData (attr :: attrs) = (if attr.1 = radiusAttrEapMessage then attr.2 else []) ++ eapData attrs := by
  by_cases htype : attr.1 = radiusAttrEapMessage <;> simp [eapData, htype]

lemma eapData_append (attrs attrs' : List (UInt8 × Bytes)) : eapData (attrs ++ attrs') = eapData attrs ++ eapData attrs' := by
  rw [eapData, List.filter_append, List.flatMap_append]
  rfl

lemma eapData_of_ne {attrs : List (UInt8 × Bytes)} (h : ∀ attr ∈ attrs, attr.1 ≠ radiusAttrEapMessage) :
    eapData attrs = [] := by
  rw [eapData, List.filter_eq_nil_iff.mpr fun attr hattr => by simpa using h attr hattr, List.flatMap_nil]

lemma addAttrs_append (msg : RadiusMsg) (attrs attrs' : List RadiusAttr) :
    msg.addAttrs (attrs ++ attrs') = (msg.addAttrs attrs).bind fun msg => msg.addAttrs attrs' := by
  induction attrs generalizing msg with
  | nil => rfl
  | cons attr attrs ih => simp only [List.cons_append, addAttrs, ih, Option.bind_assoc]

/-- The packet is cut into pieces that are as long as the data of an attribute may be. -/
lemma exists_addEap_eq (data : Bytes) : ∃ attrs : List RadiusAttr, (∀ msg : RadiusMsg, msg.addEap data = msg.addAttrs attrs) ∧
    eapData (attrs.map fun attr => (attr.type, attr.data)) = data := by
  induction hlen : data.length using Nat.strong_induction_on generalizing data with
  | _ n ih =>
    by_cases hnil : data.length = 0
    · refine ⟨[], fun msg => ?_, (List.length_eq_zero_iff.mp hnil).symm⟩
      rw [addEap, dif_pos hnil]
      rfl
    · obtain ⟨len, hlenEq⟩ : ∃ len, len = if radiusMaxAttrLen < data.length then radiusMaxAttrLen else data.length := ⟨_, rfl⟩
      have hpos : 0 < len ∧ len ≤ radiusMaxAttrLen := by
        rw [hlenEq, radiusMaxAttrLen]
        split_ifs <;> omega
      have hpiece : (data.take len).length ≤ radiusMaxAttrLen := by
        rw [List.length_take]
        omega
      obtain ⟨attrs, hadd, hdata⟩ := ih (data.drop len).length (by rw [List.length_drop]; omega) (data.drop len) rfl
      refine ⟨⟨radiusAttrEapMessage, data.take len, hpiece⟩ :: attrs, fun msg => ?_, ?_⟩
      · rw [addEap, dif_neg hnil]
        simp only [← hlenEq]
        rw [addAttrs]
        cases msg.addAttr radiusAttrEapMessage (data.take len) with
        | none => rfl
        | some msg' => exact hadd msg'
      · rw [List.map_cons, eapData_cons, if_pos rfl, hdata]
        exact List.take_append_drop len data

/-! ## Joining -/

section WellFormed

variable {msg : RadiusMsg}

/-- The type and the data of the attribute at a position. -/
def attrOf (msg : RadiusMsg) (pos : ℕ) : UInt8 × Bytes :=
  (msg.buf.getD pos 0, Buffer.window msg.buf (pos + 2) (lengthAt msg.buf pos - 2))

lemma AttrAt.length_window {pos : ℕ} (h : AttrAt msg.buf pos) :
    (Buffer.window msg.buf (pos + 2) (lengthAt msg.buf pos - 2)).length = lengthAt msg.buf pos - 2 :=
  Buffer.length_window (by have htwo := h.two_le; have hinside := h.inside; omega)

lemma AttrAt.read {pos : ℕ} (h : AttrAt msg.buf pos) :
    Buffer.read msg.buf (pos + 2) (lengthAt msg.buf pos - 2) = some (msg.attrOf pos).2 :=
  Buffer.read_eq_some (by have htwo := h.two_le; have hinside := h.inside; omega)

/-- An attribute has data for the packet if both loops look at it. -/
lemma AttrAt.isEapMessage_hdrAt {pos : ℕ} (h : AttrAt msg.buf pos) :
    (if (msg.attrOf pos).1 = radiusAttrEapMessage then (msg.attrOf pos).2 else []) =
      if isEapMessage (msg.hdrAt pos) then (msg.attrOf pos).2 else [] := by
  have hboth : isEapMessage (msg.hdrAt pos) =
      (decide ((msg.attrOf pos).1 = radiusAttrEapMessage) && decide (2 < lengthAt msg.buf pos)) := rfl
  by_cases htype : (msg.attrOf pos).1 = radiusAttrEapMessage
  · by_cases hlong : 2 < lengthAt msg.buf pos
    · simp [hboth, htype, hlong]
    · have hempty : (msg.attrOf pos).2 = [] := List.eq_nil_of_length_eq_zero (h.length_window.trans (by omega))
      simp [hempty]
  · simp [hboth, htype]

/-- The first loop counts the bytes of the packet. -/
lemma eapLen_eq {l : List ℕ} (hl : ∀ pos ∈ l, AttrAt msg.buf pos) :
    eapLen (l.map msg.hdrAt) = (eapData (l.map msg.attrOf)).length := by
  induction l with
  | nil => rfl
  | cons pos l ih =>
    have hpos := hl pos List.mem_cons_self
    have hrest := ih fun pos' hpos' => hl pos' (List.mem_cons_of_mem _ hpos')
    rw [List.map_cons, List.map_cons, eapLen, eapData_cons, hpos.isEapMessage_hdrAt, List.length_append, hrest]
    split_ifs
    · exact congrArg (· + _) hpos.length_window.symm
    · rw [List.length_nil, Nat.zero_add]

/-- The second loop copies the packet, if there is room for it. -/
lemma putEap_eq {l : List ℕ} (hl : ∀ pos ∈ l, AttrAt msg.buf pos) {eap : Wpabuf} (heap : eap.buf.length ≤ eap.size) :
    putEap msg.buf eap (l.map msg.hdrAt) = eap.putData (eapData (l.map msg.attrOf)) := by
  induction l generalizing eap with
  | nil =>
    have hput : eap.putData [] = some eap := Wpabuf.putData_eq_some_iff.mpr ⟨heap, by rw [List.append_nil]⟩
    exact hput.symm
  | cons pos l ih =>
    have hpos := hl pos List.mem_cons_self
    have hrest {eap : Wpabuf} (heap : eap.buf.length ≤ eap.size) := ih (fun pos' h => hl pos' (List.mem_cons_of_mem _ h)) heap
    rw [List.map_cons, List.map_cons, putEap, eapData_cons, hpos.isEapMessage_hdrAt]
    split_ifs
    · rw [← Wpabuf.putData_putData]
      change (Buffer.read msg.buf (pos + 2) (lengthAt msg.buf pos - 2)).bind _ = _
      rw [hpos.read, Option.bind_some]
      cases hput : eap.putData (msg.attrOf pos).2 with
      | none => rfl
      | some eap' =>
        obtain ⟨hroom, rfl⟩ := Wpabuf.putData_eq_some_iff.mp hput
        exact hrest (by rwa [List.length_append])
    · exact hrest heap

/-- The packet of a message that was parsed. -/
lemma WellFormed.getEapBuf_eq (h : msg.WellFormed) :
    msg.getEapBuf = some (if eapData msg.attrs = [] then none else
      some ⟨(eapData msg.attrs).length, eapData msg.attrs⟩) := by
  have hhdrs : msg.attrHdrs = some (msg.attrPos.map msg.hdrAt) := h.attrHdrs
  have hattrs : msg.attrPos.map msg.attrOf = msg.attrs := rfl
  simp only [getEapBuf, hhdrs, Option.bind_eq_bind, Option.bind_some, eapLen_eq h.attr, hattrs]
  by_cases hnil : eapData msg.attrs = []
  · rw [hnil]
    rfl
  · have hput : Wpabuf.putData ⟨(eapData msg.attrs).length, []⟩ (eapData msg.attrs) =
        some ⟨(eapData msg.attrs).length, eapData msg.attrs⟩ :=
      Wpabuf.putData_eq_some_iff.mpr ⟨(Nat.zero_add _).le, rfl⟩
    rw [if_neg hnil, if_neg fun hzero => hnil (List.eq_nil_of_length_eq_zero hzero), putEap_eq h.attr (Nat.zero_le _),
      hattrs, hput]
    rfl

lemma eapLen_eq_sum (hdrs : List AttrHdr) :
    eapLen hdrs = ((hdrs.filter isEapMessage).map fun attr => attr.length - 2).sum := by
  induction hdrs with
  | nil => rfl
  | cons attr hdrs ih =>
    rw [eapLen, ih, List.filter_cons]
    split_ifs
    · rw [List.map_cons, List.sum_cons]
    · rfl

/-- The parts of the packet, which are read one by one. -/
lemma exists_mapM_read_eq {l : List ℕ} (hl : ∀ pos ∈ l, AttrAt msg.buf pos) :
    ∃ parts, (((l.map msg.hdrAt).filter isEapMessage).mapM fun attr =>
      Buffer.read msg.buf (attr.pos + 2) (attr.length - 2)) = some parts ∧
        parts.flatten = eapData (l.map msg.attrOf) := by
  induction l with
  | nil => exact ⟨[], rfl, rfl⟩
  | cons pos l ih =>
    have hpos := hl pos List.mem_cons_self
    obtain ⟨parts, hparts, hflatten⟩ := ih fun pos' hpos' => hl pos' (List.mem_cons_of_mem _ hpos')
    rw [List.map_cons, List.map_cons, List.filter_cons, eapData_cons, hpos.isEapMessage_hdrAt, ← hflatten]
    split_ifs
    · refine ⟨(msg.attrOf pos).2 :: parts, ?_, rfl⟩
      rw [List.mapM_cons, hparts]
      change (Buffer.read msg.buf (pos + 2) (lengthAt msg.buf pos - 2)).bind _ = _
      rw [hpos.read]
      rfl
    · exact ⟨parts, hparts, rfl⟩

/-- The buffer holds the parts of the packet, one after the other. -/
lemma WellFormed.getEap_eq (h : msg.WellFormed) : msg.getEap = msg.getEapBuf.map (Option.map Wpabuf.buf) := by
  have hhdrs : msg.attrHdrs = some (msg.attrPos.map msg.hdrAt) := h.attrHdrs
  have hattrs : msg.attrPos.map msg.attrOf = msg.attrs := rfl
  have hfilter : (fun attr : AttrHdr => attr.type = radiusAttrEapMessage && decide (2 < attr.length)) = isEapMessage := rfl
  obtain ⟨parts, hparts, hflatten⟩ := exists_mapM_read_eq h.attr
  simp only [getEap, hhdrs, h.getEapBuf_eq, Option.bind_eq_bind, Option.bind_some, Option.map_some, hfilter,
    ← eapLen_eq_sum, eapLen_eq h.attr, hattrs, hparts, hflatten]
  by_cases hnil : eapData msg.attrs = []
  · rw [hnil]
    rfl
  · rw [if_neg hnil, if_neg fun hzero => hnil (List.eq_nil_of_length_eq_zero hzero)]
    rfl

end WellFormed

/-! ## The round trip -/

/-- A packet that is added to a message, before and after attributes of other types, is the one that is taken out of the
message when this has been finished in one of the four ways and parsed, as long as its length can be written to the length
field. -/
theorem getEapBuf_addEap (crypto : RadiusCrypto) (code identifier : UInt8) (auth : Md5Digest)
    (before after : List RadiusAttr) {eap : Bytes}
    (hbefore : ∀ attr ∈ before, attr.type ≠ radiusAttrEapMessage)
    (hafter : ∀ attr ∈ after, attr.type ≠ radiusAttrEapMessage) (hne : eap ≠ []) :
    ∃ msg, ((((new code identifier).setAuthenticator auth).addAttrs before).bind fun msg =>
        (msg.addEap eap).bind fun msg => msg.addAttrs after) = some msg ∧
      ∀ out, FinishedAs crypto msg out → out.buf.length ≤ 0xffff →
        (parse out.buf).bind getEapBuf = some (some ⟨eap.length, eap⟩) ∧
          (parse out.buf).bind getEap = some (some eap) := by
  obtain ⟨pieces, hadd, hpieces⟩ := exists_addEap_eq eap
  obtain ⟨msg, hmsg, h⟩ := ((layout_new code identifier).setAuthenticator auth).addAttrs (before ++ (pieces ++ after))
  rw [List.nil_append] at h
  refine ⟨msg, ?_, fun out hout hfits => ?_⟩
  · simp only [hadd, ← addAttrs_append]
    exact hmsg
  · obtain ⟨hdr', attrs', hready, hattrs'⟩ := h.finishedAs hout
    have hparse := hready.parse hfits
    have hwf := parse_wellFormed hparse
    have hother {attrs : List RadiusAttr} (hattrs : ∀ attr ∈ attrs, attr.type ≠ radiusAttrEapMessage) :
        eapData (attrs.map fun attr => (attr.type, attr.data)) = [] := by
      refine eapData_of_ne fun attr hattr => ?_
      obtain ⟨attr', hattr', rfl⟩ := List.mem_map.mp hattr
      exact hattrs attr' hattr'
    have hdata : eapData out.attrs = eap := by
      have hlast : eapData (attrs'.map fun attr => (attr.type, attr.data)) = [] :=
        hother fun attr hattr => by rw [hattrs' attr hattr]; decide
      simp only [hready.layout.attrs_eq, List.map_append, eapData_append, hother hbefore, hother hafter, hlast, hpieces,
        List.nil_append, List.append_nil]
    have hbuf : out.getEapBuf = some (some ⟨eap.length, eap⟩) := by rw [hwf.getEapBuf_eq, hdata, if_neg hne]
    rw [hparse, Option.bind_some, Option.bind_some, hwf.getEap_eq, hbuf]
    exact ⟨rfl, rfl⟩

/-- A packet of one byte behind a `User-Name`. -/
theorem getEapBuf_addEap_userName :
    ((((((new 1 7).setAuthenticator zeroAuth).addAttrs [⟨1, [97], by decide⟩]).bind fun msg =>
        (msg.addEap [2]).bind fun msg => msg.addAttrs []).bind fun msg =>
          parse (msg.finish (.ofFunctions (fun _ => zeroAuth) fun _ _ => zeroAuth) none).2.buf).bind getEapBuf) =
        some (some ⟨1, [2]⟩) := by
  have hbefore : ∀ attr ∈ ([⟨1, [97], by decide⟩] : List RadiusAttr), attr.type ≠ radiusAttrEapMessage := by
    intro attr hattr
    rw [List.mem_singleton.mp hattr]
    decide
  have hafter : ∀ attr ∈ ([] : List RadiusAttr), attr.type ≠ radiusAttrEapMessage := by simp
  obtain ⟨msg, hmsg, h⟩ := getEapBuf_addEap (.ofFunctions (fun _ => zeroAuth) fun _ _ => zeroAuth) 1 7 zeroAuth
    [⟨1, [97], by decide⟩] [] hbefore hafter (List.cons_ne_nil 2 [])
  have hbuild : ((((new 1 7).setAuthenticator zeroAuth).addAttrs [⟨1, [97], by decide⟩]).bind fun msg =>
      (msg.addEap [2]).bind fun msg => msg.addAttrs []) = some ⟨(new 1 7).buf ++ [1, 3, 97, 79, 3, 2], [20, 23]⟩ := by
    decide +kernel
  obtain rfl := Option.some.inj (hmsg.symm.trans hbuild)
  rw [hbuild, Option.bind_some]
  exact (h _ (.finish none) (by decide +kernel)).1

end RadiusMsg

end Ethanol
