import EthanolHostapd.Eap.EapCommon

/-!
# EAP-Initiate/Re-auth

A peer that has a key from an earlier authentication may ask to be authenticated again with it.  The request
names the key and is protected by an authentication tag; `eap_server.c` checks it in the state
`INITIATE_RECEIVED`, with the parser of the TVs and TLVs in `eap_common.c`.
-/

namespace Ethanol

open Wire

/-- `EAP_CODE_INITIATE`. -/
def eapCodeInitiate : UInt8 := 5

/-- `EAP_CODE_FINISH`. -/
def eapCodeFinish : UInt8 := 6

/-- `EAP_ERP_TYPE_REAUTH_START`. -/
def eapErpTypeReauthStart : ℕ := 1

/-- `EAP_ERP_TYPE_REAUTH`. -/
def eapErpTypeReauth : ℕ := 2

/-- `EAP_ERP_TLV_KEYNAME_NAI`. -/
def eapErpTlvKeynameNai : UInt8 := 1

/-- `EAP_ERP_TLV_DOMAIN_NAME`. -/
def eapErpTlvDomainName : UInt8 := 4

/-- `EAP_ERP_CS_HMAC_SHA256_128`. -/
def eapErpCsHmacSha256128 : UInt8 := 2

/-- `EAP_ERP_CS_HMAC_SHA256_256`. -/
def eapErpCsHmacSha256256 : UInt8 := 3

/-- `struct eap_server_erp_key`. -/
structure EapServerErpKey where
  rIK : List UInt8
  /-- `recv_seq`, which is `(u32) -1` before the first request. -/
  recvSeq : Option ℕ
  cryptosuite : UInt8

/-- `struct erp_tlvs`: the name of the key, and what comes after it. -/
structure ErpTlvs where
  keyname : Option (List UInt8 × List UInt8)

/-- The length and the value of a TLV, and the rest. -/
def erpTlv : List UInt8 → Option (List UInt8 × List UInt8)
  | [] => none
  | tlvLen :: pos => if tlvLen.toNat > pos.length then none else some (pos.take tlvLen.toNat, pos.drop tlvLen.toNat)

/-- The loop of `erp_parse_tlvs`, for at most `fuel` TVs and TLVs. -/
def erpParseLoop (stopAtKeyname : Bool) : ℕ → List UInt8 → ErpTlvs → Option ErpTlvs
  | 0, _, tlvs => some tlvs
  | _, [], tlvs => some tlvs
  | fuel + 1, tlvType :: pos, tlvs =>
    if tlvType = 2 ∨ tlvType = 3 then
      if pos.length < 4 then none else erpParseLoop stopAtKeyname fuel (pos.drop 4) tlvs
    else if tlvType ∈ ([1, 4, 5, 6] : List UInt8) ∨ 128 ≤ tlvType ∧ tlvType ≤ 191 then
      match erpTlv pos with
      | none => none
      | some (value, rest) =>
        if tlvType = eapErpTlvKeynameNai then
          if tlvs.keyname.isSome then none
          else if stopAtKeyname then some { tlvs with keyname := some (value, rest) }
          else erpParseLoop stopAtKeyname fuel rest { tlvs with keyname := some (value, rest) }
        else erpParseLoop stopAtKeyname fuel rest tlvs
    else some tlvs

/-- `erp_parse_tlvs`. -/
def erpParseTlvs (stopAtKeyname : Bool) (pos : List UInt8) : Option ErpTlvs :=
  erpParseLoop stopAtKeyname pos.length pos { keyname := none }

/-- How the state `INITIATE_RECEIVED` ends. -/
inductive ErpResult
  | fail
  /-- Without an EAP server the name of the key is the identity, for the authentication server. -/
  | passthrough (nai : List UInt8)
  /-- `goto report_error` without a key. -/
  | unknownKey (seq : ℕ) (nai : List UInt8)
  | verified (erp : EapServerErpKey) (seq : ℕ) (nai : List UInt8)

/-- The code of `EAP_ERP_CS_HMAC_SHA256_256` or `EAP_ERP_CS_HMAC_SHA256_128` at the place where a tag of that
many bytes puts it, and the tag that the key gives. -/
def erpTagMatches (hmacSha256 : List UInt8 → List UInt8 → List UInt8) (rIK msg : List UInt8) (len hashLen : ℕ) : Bool :=
  (msg.take len).drop (len - hashLen) = (hmacSha256 rIK (msg.take (len - hashLen))).take hashLen

/-- The check of the cryptosuite and of the authentication tag: the length of the tag and the cryptosuite of the
key after that, or `none` for `goto fail`.  `maxLen` bytes follow the name of the key. -/
def erpCheckTag (hmacSha256 : List UInt8 → List UInt8 → List UInt8) (erp : EapServerErpKey) (msg : List UInt8)
    (len maxLen : ℕ) : Option (ℕ × UInt8) :=
  if maxLen < 1 + (if erp.cryptosuite = eapErpCsHmacSha256256 then 32 else 16) then none
  else if erp.cryptosuite = eapErpCsHmacSha256256 then
    if msg.getD (len - 33) 0 ≠ erp.cryptosuite then none
    else if erpTagMatches hmacSha256 erp.rIK msg len 32 then some (32, erp.cryptosuite) else none
  else if erp.cryptosuite = eapErpCsHmacSha256128 then
    if msg.getD (len - 17) 0 ≠ erp.cryptosuite then none
    else if erpTagMatches hmacSha256 erp.rIK msg len 16 then some (16, erp.cryptosuite) else none
  else if maxLen ≥ 1 + 32 ∧ msg.getD (len - 33) 0 = eapErpCsHmacSha256256 ∧
      erpTagMatches hmacSha256 erp.rIK msg len 32 = true then
    some (32, eapErpCsHmacSha256256)
  else if msg.getD (len - 17) 0 = eapErpCsHmacSha256128 ∧
      erpTagMatches hmacSha256 erp.rIK msg len 16 = true then
    some (16, eapErpCsHmacSha256128)
  else none

/-- The body of the state `INITIATE_RECEIVED`, up to the labels at its end. -/
def erpInitiateReceived (hmacSha256 : List UInt8 → List UInt8 → List UInt8) (eapServer : Bool)
    (erpGetKey : List UInt8 → Option EapServerErpKey) (respData : List UInt8) : ErpResult :=
  match eapHdrValidate eapVendorIetf eapErpTypeReauth respData with
  | none => .fail
  | some pos =>
    if pos.length < 4 then .fail
    else
      let seq := beNat ((pos.drop 1).take 2)
      let tlvs := pos.drop 3
      match erpParseTlvs true tlvs with
      | none => .fail
      | some parse =>
        match parse.keyname with
        | none => .fail
        | some (keyname, rest) =>
          if keyname.length > 253 then .fail
          else if !eapServer then .passthrough keyname
          else
            -- a string ends at its first zero byte
            let nai := keyname.takeWhile (· ≠ 0)
            match erpGetKey nai with
            | none => .unknownKey seq nai
            | some erp =>
              if erp.recvSeq.any (seq ≤ ·) then .fail
              else
                match erpCheckTag hmacSha256 erp respData (eapHdrLength respData) rest.length with
                | none => .fail
                | some (hashLen, cryptosuite) =>
                  if (erpParseTlvs false (tlvs.take (tlvs.length - (1 + hashLen)))).isNone then .fail
                  else .verified { erp with recvSeq := some seq, cryptosuite := cryptosuite } seq nai

/-- The message of `erp_send_finish_reauth`, with the tag if there is a key. -/
def erpFinishReauth (hmacSha256 : List UInt8 → List UInt8 → List UInt8) (erp : Option EapServerErpKey)
    (id flags : UInt8) (seq : ℕ) (nai : List UInt8) : List UInt8 :=
  let body := flags :: beBytes 2 seq ++ eapErpTlvKeynameNai :: UInt8.ofNat nai.length :: nai
  match erp with
  | none => eapMsgAlloc eapVendorIetf eapErpTypeReauth body.length eapCodeFinish id ++ body
  | some erp =>
    let hashLen := if erp.cryptosuite = eapErpCsHmacSha256256 then 32 else 16
    let msg := eapMsgAlloc eapVendorIetf eapErpTypeReauth (body.length + 1 + hashLen) eapCodeFinish id ++ body ++
      [erp.cryptosuite]
    msg ++ (hmacSha256 erp.rIK msg).take hashLen

/-- The message of `eap_sm_buildInitiateReauthStart`. -/
def eapSmBuildInitiateReauthStart (domain : Option (List UInt8)) (id : UInt8) : List UInt8 :=
  let tlv := match domain with
    | none => []
    | some domain => eapErpTlvDomainName :: UInt8.ofNat domain.length :: domain
  eapMsgAlloc eapVendorIetf eapErpTypeReauthStart (1 + tlv.length) eapCodeInitiate id ++ 0 :: tlv

end Ethanol
