import EthanolHostapd.Wire.BigEndian

/-!
# EAP messages

The header of an EAP message, from `eap_common/eap_common.c`.  It has a code, an identifier, the length of the
whole message in two bytes, and the type of the method, which is either one byte or, for a type of a vendor,
eight bytes.
-/

namespace Ethanol

open Wire

/-- `EAP_TYPE_EXPANDED`. -/
def eapTypeExpanded : UInt8 := 254

/-- `EAP_VENDOR_IETF`. -/
def eapVendorIetf : ℕ := 0

/-- `EAP_CODE_REQUEST`. -/
def eapCodeRequest : UInt8 := 1

/-- `EAP_CODE_RESPONSE`. -/
def eapCodeResponse : UInt8 := 2

/-- The type field. -/
def eapTypeField (vendor type : ℕ) : List UInt8 :=
  if vendor = eapVendorIetf then [UInt8.ofNat type] else eapTypeExpanded :: beBytes 3 vendor ++ beBytes 4 type

/-- `eap_msg_alloc`: what is in the buffer.  The length field holds the low 16 bits of the length. -/
def eapMsgAlloc (vendor type payloadLen : ℕ) (code id : UInt8) : List UInt8 :=
  let len := 4 + (if vendor = eapVendorIetf then 1 else 8) + payloadLen
  code :: id :: beBytes 2 len ++ eapTypeField vendor type

/-- `hdr->length`. -/
def eapHdrLength (msg : List UInt8) : ℕ := beNat ((msg.drop 2).take 2)

/-- `eap_hdr_len_valid`. -/
def eapHdrLenValid (msg : List UInt8) (minPayload : ℕ) : Bool :=
  4 ≤ msg.length && 4 + minPayload ≤ eapHdrLength msg && eapHdrLength msg ≤ msg.length

/-- `eap_hdr_validate`: the bytes that `plen` covers. -/
def eapHdrValidate (vendor type : ℕ) (msg : List UInt8) : Option (List UInt8) :=
  if eapHdrLenValid msg 1 then
    let len := eapHdrLength msg
    match msg.drop 4 with
    | [] => none
    | typeByte :: pos =>
      if typeByte = eapTypeExpanded then
        if len < 4 + 8 then none
        else if beNat (pos.take 3) ≠ vendor ∨ beNat ((pos.drop 3).take 4) ≠ type then none
        else some ((pos.drop 7).take (len - 4 - 8))
      else
        if vendor ≠ eapVendorIetf ∨ typeByte.toNat ≠ type then none
        else some (pos.take (len - 4 - 1))
  else none

/-- The bytes before the payload. -/
def eapHdrSize (vendor : ℕ) : ℕ := 4 + if vendor = eapVendorIetf then 1 else 8

/-- A vendor and a type that have their place in the header. -/
structure EapTypeValid (vendor type : ℕ) : Prop where
  vendor_lt : vendor < 256 ^ 3
  type_lt : type < 256 ^ 4
  ietf : vendor = eapVendorIetf → type < 254

section Header

variable {vendor type payloadLen : ℕ} {code id : UInt8} {payload : List UInt8}

lemma length_eapTypeField (vendor type : ℕ) :
    (eapTypeField vendor type).length = if vendor = eapVendorIetf then 1 else 8 := by
  unfold eapTypeField
  split_ifs <;> simp

lemma length_eapMsgAlloc (vendor type payloadLen : ℕ) (code id : UInt8) :
    (eapMsgAlloc vendor type payloadLen code id).length = eapHdrSize vendor := by
  simp only [eapMsgAlloc, List.length_cons, List.length_append, length_beBytes, length_eapTypeField, eapHdrSize]

lemma eapHdrLength_eapMsgAlloc (vendor type payloadLen : ℕ) (code id : UInt8) (payload : List UInt8) :
    eapHdrLength (eapMsgAlloc vendor type payloadLen code id ++ payload) =
      (eapHdrSize vendor + payloadLen) % 65536 := by
  have hfield : ((eapMsgAlloc vendor type payloadLen code id ++ payload).drop 2).take 2 =
      beBytes 2 (eapHdrSize vendor + payloadLen) := by
    simp only [eapMsgAlloc, List.cons_append, List.drop_succ_cons, List.drop_zero, List.append_assoc, eapHdrSize]
    exact List.take_left' (length_beBytes _ _)
  rw [eapHdrLength, hfield, beNat_beBytes]
  norm_num

/-- A message that is not too long for its length field is read back. -/
lemma eapHdrValidate_eapMsgAlloc (htype : EapTypeValid vendor type) (hlen : eapHdrSize vendor + payload.length < 65536) :
    eapHdrValidate vendor type (eapMsgAlloc vendor type payload.length code id ++ payload) = some payload := by
  have hlength := eapHdrLength_eapMsgAlloc vendor type payload.length code id payload
  rw [Nat.mod_eq_of_lt hlen] at hlength
  have hvalid : eapHdrLenValid (eapMsgAlloc vendor type payload.length code id ++ payload) 1 = true := by
    have hsize : 5 ≤ eapHdrSize vendor := by
      unfold eapHdrSize
      split_ifs <;> omega
    rw [eapHdrLenValid, hlength, List.length_append, length_eapMsgAlloc]
    simp only [Bool.and_eq_true, decide_eq_true_eq]
    omega
  have hdrop : (eapMsgAlloc vendor type payload.length code id ++ payload).drop 4 =
      eapTypeField vendor type ++ payload := by
    simp only [eapMsgAlloc, List.cons_append, List.drop_succ_cons, List.append_assoc]
    exact List.drop_left' (length_beBytes _ _)
  unfold eapHdrValidate
  rw [if_pos hvalid, hlength]
  dsimp only
  rw [hdrop]
  by_cases hietf : vendor = eapVendorIetf
  · have hlt := htype.ietf hietf
    have htoNat : (UInt8.ofNat type).toNat = type := by
      rw [UInt8.toNat_ofNat']
      exact Nat.mod_eq_of_lt (by omega)
    have hne : UInt8.ofNat type ≠ eapTypeExpanded := by
      intro h
      have hval := congrArg UInt8.toNat h
      rw [htoNat] at hval
      exact hlt.ne hval
    rw [eapTypeField, if_pos hietf, List.singleton_append]
    dsimp only
    rw [if_neg hne, if_neg (by simp [hietf, htoNat])]
    rw [eapHdrSize, if_pos hietf]
    exact congrArg some (List.take_of_length_le (by omega))
  · have hvendor : beNat ((beBytes 3 vendor ++ (beBytes 4 type ++ payload)).take 3) = vendor := by
      rw [List.take_left' (length_beBytes _ _), beNat_beBytes, Nat.mod_eq_of_lt htype.vendor_lt]
    have hdrop3 : (beBytes 3 vendor ++ (beBytes 4 type ++ payload)).drop 3 = beBytes 4 type ++ payload :=
      List.drop_left' (length_beBytes _ _)
    have htype' : beNat ((beBytes 4 type ++ payload).take 4) = type := by
      rw [List.take_left' (length_beBytes _ _), beNat_beBytes, Nat.mod_eq_of_lt htype.type_lt]
    have hdrop7 : (beBytes 3 vendor ++ (beBytes 4 type ++ payload)).drop 7 = payload := by
      rw [show 7 = 3 + 4 from rfl, ← List.drop_drop, hdrop3]
      exact List.drop_left' (length_beBytes _ _)
    have hsize : eapHdrSize vendor = 12 := by rw [eapHdrSize, if_neg hietf]
    rw [eapTypeField, if_neg hietf, List.cons_append, List.cons_append, List.append_assoc]
    dsimp only
    rw [if_pos rfl, hsize, if_neg (by omega), hdrop3, hvendor, htype', if_neg (by simp), hdrop7]
    exact congrArg some (List.take_of_length_le (by omega))

/-- A message is refused whose length leaves less than a header in the length field. -/
lemma eapHdrValidate_eq_none (hlen : (eapHdrSize vendor + payloadLen) % 65536 < 5) :
    eapHdrValidate vendor type (eapMsgAlloc vendor type payloadLen code id ++ payload) = none := by
  have hlength := eapHdrLength_eapMsgAlloc vendor type payloadLen code id payload
  unfold eapHdrValidate
  rw [if_neg]
  rw [eapHdrLenValid, hlength]
  simp only [Bool.and_eq_true, decide_eq_true_eq]
  omega

end Header

end Ethanol
