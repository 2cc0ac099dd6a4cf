import EthanolHostapd.Eap.EapCommon
import EthanolHostapd.Utils.Common

/-!
# TLS messages in EAP

The fragments of a TLS message in both directions: `eap_server/eap_server_tls_common.c` and
`eap_peer/eap_tls_common.c`.  A fragment has a byte of flags, the length of the whole message where the flags
say so, and data.  Each fragment but the last one is acknowledged by a message without data.

The server starts and ends a message by the flags, the peer by the number of bytes that are left.  Allocations
succeed, and no errors of the TLS library are pending.
-/

namespace Ethanol

open Wire

/-- `EAP_TLS_FLAGS_LENGTH_INCLUDED`. -/
def eapTlsFlagsLengthIncluded : UInt8 := 0x80

/-- `EAP_TLS_FLAGS_MORE_FRAGMENTS`. -/
def eapTlsFlagsMoreFragments : UInt8 := 0x40

/-- `EAP_TYPE_PEAP`. -/
def eapTypePeap : UInt8 := 25

/-- `EAP_UNAUTH_TLS_TYPE`. -/
def eapUnauthTlsType : UInt8 := 255

/-- `EAP_WFA_UNAUTH_TLS_TYPE`. -/
def eapWfaUnauthTlsType : UInt8 := 254

/-- The vendor and the type in the header, as they are chosen for every message. -/
def eapTlsVendor (type : UInt8) : ℕ × ℕ :=
  if type = eapUnauthTlsType then (39068, 1)
  else if type = eapWfaUnauthTlsType then (40808, 13)
  else (eapVendorIetf, type.toNat)

/-- `eap_tls_msg_alloc`. -/
def eapTlsMsgAlloc (type : UInt8) (payloadLen : ℕ) (code id : UInt8) : List UInt8 :=
  eapMsgAlloc (eapTlsVendor type).1 (eapTlsVendor type).2 payloadLen code id

/-- The call of `eap_hdr_validate` for a message of that type. -/
def eapTlsHdrValidate (type : UInt8) (msg : List UInt8) : Option (List UInt8) :=
  eapHdrValidate (eapTlsVendor type).1 (eapTlsVendor type).2 msg

/-- What both sides know of the method: its type, and the version, which is in `EAP_TLS_VERSION_MASK`. -/
structure EapTlsMethod where
  type : UInt8
  version : Fin 8

/-- The flags byte. -/
def eapTlsFlags (version : Fin 8) (more lengthIncluded : Bool) : UInt8 :=
  UInt8.ofNat version.val ||| (if more then eapTlsFlagsMoreFragments else 0) |||
    (if lengthIncluded then eapTlsFlagsLengthIncluded else 0)

/-- A message with these flags, the length if it is included, and data. -/
def eapTlsMsg (method : EapTlsMethod) (code id : UInt8) (more lengthIncluded : Bool) (total : ℕ) (data : List UInt8) :
    List UInt8 :=
  eapTlsMsgAlloc method.type (1 + (if lengthIncluded then 4 else 0) + data.length) code id ++
    (eapTlsFlags method.version more lengthIncluded :: (if lengthIncluded then beBytes 4 total else []) ++ data)

/-! ## The server -/

/-- The state in `struct eap_ssl_data` of the server. -/
inductive EapSslState
  | msg
  | fragAck
  | waitFragAck
  deriving DecidableEq

/-- `struct eap_ssl_data` of the server. -/
structure EapServerSsl where
  tlsOut : Option (List UInt8)
  tlsOutPos : ℕ
  tlsOutLimit : ℕ
  tlsIn : Option Wpabuf
  state : EapSslState

/-- What a receiver makes of a message. -/
inductive EapTlsInput
  /-- The message is not looked at further. -/
  | ignored
  | error
  /-- More fragments are needed, or a fragment was acknowledged. -/
  | more
  /-- The message is complete. -/
  | complete (msg : List UInt8)
  deriving DecidableEq

namespace EapServerSsl

/-- `eap_server_tls_build_msg`.  For a limit of at least 6 no subtraction is below zero. -/
def buildMsg (data : EapServerSsl) (method : EapTlsMethod) (id : UInt8) : Option (List UInt8 × EapServerSsl) :=
  match data.tlsOut with
  | none => none
  | some tlsOut =>
    let sendLen := tlsOut.length - data.tlsOutPos
    let more : Bool := data.tlsOutLimit < 1 + sendLen
    let lengthIncluded := more && data.tlsOutPos = 0
    let sendLen :=
      if more then if lengthIncluded then data.tlsOutLimit - 1 - 4 else data.tlsOutLimit - 1 else sendLen
    let req := eapTlsMsg method eapCodeRequest id more lengthIncluded tlsOut.length
      ((tlsOut.drop data.tlsOutPos).take sendLen)
    if data.tlsOutPos + sendLen = tlsOut.length then
      some (req, { data with tlsOut := none, tlsOutPos := 0, state := .msg })
    else some (req, { data with tlsOutPos := data.tlsOutPos + sendLen, state := .waitFragAck })

/-- `eap_server_tls_build_ack`. -/
def buildAck (method : EapTlsMethod) (id : UInt8) : List UInt8 :=
  eapTlsMsg method eapCodeRequest id false false 0 []

/-- `eap_server_tls_process_cont`.  The result is `none` for -1. -/
def processCont (tlsIn : Wpabuf) (buf : List UInt8) : Option Wpabuf :=
  if tlsIn.tailroom < buf.length then none else some { tlsIn with buf := tlsIn.buf ++ buf }

/-- `eap_server_tls_process_fragment`. -/
def processFragment (tlsIn : Option Wpabuf) (lengthIncluded : Bool) (messageLength : ℕ) (buf : List UInt8) :
    Option Wpabuf :=
  match tlsIn with
  | some tlsIn => some tlsIn
  | none =>
    if !lengthIncluded then none
    else if 65536 < messageLength then none
    else if messageLength < buf.length then none
    else some ⟨messageLength, buf⟩

/-- `eap_server_tls_reassemble`, after the length has been taken off. -/
def reassembleData (data : EapServerSsl) (flags : UInt8) (tlsMsgLen : ℕ) (buf : List UInt8) :
    EapServerSsl × EapTlsInput :=
  if data.state = .waitFragAck then
    if buf ≠ [] then (data, .error) else (data, .more)
  else
    match data.tlsIn.mapM fun tlsIn => processCont tlsIn buf with
    | none => (data, .error)
    | some tlsIn =>
      let data := { data with tlsIn := tlsIn }
      if flags &&& eapTlsFlagsMoreFragments ≠ 0 then
        match processFragment data.tlsIn (flags &&& eapTlsFlagsLengthIncluded ≠ 0) tlsMsgLen buf with
        | none => (data, .error)
        | some tlsIn => ({ data with tlsIn := some tlsIn, state := .fragAck }, .more)
      else
        let data := if data.state = .fragAck then { data with state := .msg } else data
        (data, .complete ((data.tlsIn.map (·.buf)).getD buf))

/-- `eap_server_tls_reassemble`. -/
def reassemble (data : EapServerSsl) (flags : UInt8) (pos : List UInt8) : EapServerSsl × EapTlsInput :=
  if flags &&& eapTlsFlagsLengthIncluded ≠ 0 then
    if pos.length < 4 then (data, .error)
    else if beNat (pos.take 4) < (pos.drop 4).length then (data, .error)
    else data.reassembleData flags (beNat (pos.take 4)) (pos.drop 4)
  else data.reassembleData flags 0 pos

/-- `eap_server_tls_process`, up to the processing of a complete message.  Unless more is needed the input is freed. -/
def process (data : EapServerSsl) (method : EapTlsMethod) (respData : List UInt8) : EapServerSsl × EapTlsInput :=
  match eapTlsHdrValidate method.type respData with
  | none => (data, .ignored)
  | some [] => (data, .ignored)
  | some (flags :: pos) =>
    match data.reassemble flags pos with
    | (data, .more) => (data, .more)
    | (data, input) => ({ data with tlsIn := none }, input)

end EapServerSsl

/-! ## The peer -/

/-- `struct eap_ssl_data` of the peer. -/
structure EapPeerSsl where
  tlsOut : Option (List UInt8)
  tlsOutPos : ℕ
  tlsOutLimit : ℕ
  tlsIn : Option (List UInt8)
  tlsInLeft : ℕ
  tlsInTotal : ℕ
  includeTlsLength : Bool
  /-- `sm->workaround`. -/
  workaround : Bool

namespace EapPeerSsl

/-- `eap_peer_tls_reset_input`. -/
def resetInput (data : EapPeerSsl) : EapPeerSsl := { data with tlsInLeft := 0, tlsInTotal := 0, tlsIn := none }

/-- `eap_peer_tls_reset_output`. -/
def resetOutput (data : EapPeerSsl) : EapPeerSsl := { data with tlsOutPos := 0, tlsOut := none }

/-- `eap_peer_tls_process_init`: the flags and the payload.  The result is `none` if the message is ignored. -/
def processInit (data : EapPeerSsl) (method : EapTlsMethod) (reqData : List UInt8) :
    EapPeerSsl × Option (UInt8 × List UInt8) :=
  match eapTlsHdrValidate method.type reqData with
  | none => (data, none)
  | some [] => if data.workaround then (data, some (0, [])) else (data, none)
  | some (flags :: pos) =>
    if flags &&& eapTlsFlagsLengthIncluded ≠ 0 then
      if pos.length < 4 then (data, none)
      else
        let tlsMsgLen := beNat (pos.take 4)
        let data :=
          if data.tlsInLeft = 0 then { data with tlsInTotal := tlsMsgLen, tlsInLeft := tlsMsgLen, tlsIn := none }
          else data
        if tlsMsgLen < (pos.drop 4).length then (data, none) else (data, some (flags, pos.drop 4))
    else (data, some (flags, pos))

/-- `eap_peer_tls_reassemble_fragment`. -/
def reassembleFragment (data : EapPeerSsl) (inData : List UInt8) : EapPeerSsl × EapTlsInput :=
  let tlsIn := data.tlsIn.getD []
  if tlsIn.length + inData.length = 0 then (data.resetInput, .error)
  else if 65536 < tlsIn.length + inData.length then (data.resetInput, .error)
  else if data.tlsInLeft < inData.length then (data.resetInput, .error)
  else
    let data := { data with tlsIn := some (tlsIn ++ inData), tlsInLeft := data.tlsInLeft - inData.length }
    if 0 < data.tlsInLeft then (data, .more) else (data, .complete (tlsIn ++ inData))

/-- `eap_peer_tls_data_reassemble`. -/
def dataReassemble (data : EapPeerSsl) (inData : List UInt8) : EapPeerSsl × EapTlsInput :=
  if inData.length < data.tlsInLeft || data.tlsIn.isSome then data.reassembleFragment inData
  else ({ data with tlsInLeft := 0, tlsIn := some inData }, .complete inData)

/-- A message for a method that expects input.  When it is complete then `eap_tls_process_input` resets the input. -/
def receive (data : EapPeerSsl) (method : EapTlsMethod) (reqData : List UInt8) : EapPeerSsl × EapTlsInput :=
  match data.processInit method reqData with
  | (data, none) => (data, .ignored)
  | (data, some (_, payload)) =>
    match data.dataReassemble payload with
    | (data, .complete msg) => (data.resetInput, .complete msg)
    | (data, input) => (data, input)

/-- `eap_peer_tls_build_ack`. -/
def buildAck (method : EapTlsMethod) (id : UInt8) : List UInt8 :=
  eapTlsMsg method eapCodeResponse id false false 0 []

/-- Whether `eap_tls_process_output` includes the length. -/
def lengthIncluded (data : EapPeerSsl) (method : EapTlsMethod) (total : ℕ) (established : Bool) : Bool :=
  (data.tlsOutPos = 0 && (data.tlsOutLimit < total || data.includeTlsLength)) ||
    (method.type = eapTypePeap && method.version = 0 && !established)

/-- `eap_tls_process_output`, with the result of `tls_connection_established`. -/
def processOutput (data : EapPeerSsl) (method : EapTlsMethod) (established : Bool) (id : UInt8) :
    Option (List UInt8 × EapPeerSsl) :=
  match data.tlsOut with
  | none => none
  | some tlsOut =>
    let len := tlsOut.length - data.tlsOutPos
    let moreFragments : Bool := data.tlsOutLimit < len
    let len := if moreFragments then data.tlsOutLimit else len
    let outData := eapTlsMsg method eapCodeResponse id moreFragments
      (data.lengthIncluded method tlsOut.length established) tlsOut.length ((tlsOut.drop data.tlsOutPos).take len)
    let data := { data with tlsOutPos := data.tlsOutPos + len }
    some (outData, if moreFragments then data else data.resetOutput)

/-- An acknowledgement while output is pending, in `eap_peer_tls_process_helper`: only then more is sent. -/
def receiveAck (data : EapPeerSsl) (method : EapTlsMethod) (reqData : List UInt8) : Option EapPeerSsl :=
  match data.processInit method reqData with
  | (data, some (_, [])) => some data
  | _ => none

end EapPeerSsl

/-! ## Messages -/

lemma eapTlsFlags_lengthIncluded (version : Fin 8) (more lengthIncluded : Bool) :
    eapTlsFlags version more lengthIncluded &&& eapTlsFlagsLengthIncluded ≠ 0 ↔ lengthIncluded = true := by
  revert version more lengthIncluded
  decide

lemma eapTlsFlags_more (version : Fin 8) (more lengthIncluded : Bool) :
    eapTlsFlags version more lengthIncluded &&& eapTlsFlagsMoreFragments ≠ 0 ↔ more = true := by
  revert version more lengthIncluded
  decide

/-- The header before the flags. -/
def eapTlsHdrSize (type : UInt8) : ℕ := eapHdrSize (eapTlsVendor type).1

lemma eapTlsVendor_valid (type : UInt8) : EapTypeValid (eapTlsVendor type).1 (eapTlsVendor type).2 := by
  unfold eapTlsVendor
  split_ifs with hunauth hwfa
  · exact ⟨by norm_num, by norm_num, by norm_num [eapVendorIetf]⟩
  · exact ⟨by norm_num, by norm_num, by norm_num [eapVendorIetf]⟩
  · have hlt := type.toNat_lt
    refine ⟨by norm_num [eapVendorIetf], ?_, fun _ => ?_⟩
    · exact lt_trans hlt (by norm_num)
    · have h₁ : type.toNat ≠ 255 := fun h => hunauth (UInt8.toNat_inj.mp h)
      have h₂ : type.toNat ≠ 254 := fun h => hwfa (UInt8.toNat_inj.mp h)
      show type.toNat < 254
      omega

section Messages

variable {method : EapTlsMethod} {code id : UInt8} {more li : Bool} {total : ℕ} {data : List UInt8}

/-- The size of flags, length and data. -/
def eapTlsPayloadSize (li : Bool) (data : List UInt8) : ℕ := 1 + (if li then 4 else 0) + data.length

lemma length_eapTlsMsg (method : EapTlsMethod) (code id : UInt8) (more li : Bool) (total : ℕ) (data : List UInt8) :
    (eapTlsMsg method code id more li total data).length = eapTlsHdrSize method.type + eapTlsPayloadSize li data := by
  rw [eapTlsMsg, List.length_append, eapTlsMsgAlloc, length_eapMsgAlloc, eapTlsHdrSize, eapTlsPayloadSize]
  cases li <;> simp <;> omega

/-- A receiver gets the flags, the length and the data back. -/
lemma eapTlsHdrValidate_eapTlsMsg
    (hlen : eapTlsHdrSize method.type + eapTlsPayloadSize li data < 65536) :
    eapTlsHdrValidate method.type (eapTlsMsg method code id more li total data) =
      some (eapTlsFlags method.version more li :: (if li then beBytes 4 total else []) ++ data) := by
  have hsize : 1 + (if li then 4 else 0) + data.length =
      (eapTlsFlags method.version more li :: (if li then beBytes 4 total else []) ++ data).length := by
    cases li <;> simp <;> omega
  rw [eapTlsHdrValidate, eapTlsMsg, eapTlsMsgAlloc, hsize]
  refine eapHdrValidate_eapMsgAlloc (eapTlsVendor_valid method.type) ?_
  rw [← hsize]
  exact hlen

lemma beNat_take_beBytes (total : ℕ) (data : List UInt8) (htotal : total < 256 ^ 4) :
    beNat ((beBytes 4 total ++ data).take 4) = total := by
  rw [List.take_left' (length_beBytes _ _), beNat_beBytes, Nat.mod_eq_of_lt htotal]

lemma drop_beBytes (total : ℕ) (data : List UInt8) : (beBytes 4 total ++ data).drop 4 = data :=
  List.drop_left' (length_beBytes _ _)

end Messages

/-! ## Reception -/

namespace EapPeerSsl

variable {peer : EapPeerSsl} {method : EapTlsMethod} {code id : UInt8} {more : Bool} {total : ℕ} {data buf : List UInt8}

/-- Nothing of a message has come. -/
def Idle (peer : EapPeerSsl) : Prop := peer.tlsIn = none ∧ peer.tlsInLeft = 0

/-- Without the length nothing but the flags is taken off. -/
lemma processInit_eapTlsMsg (hlen : eapTlsHdrSize method.type + eapTlsPayloadSize false data < 65536) :
    peer.processInit method (eapTlsMsg method code id more false total data) =
      (peer, some (eapTlsFlags method.version more false, data)) := by
  have hflags : ¬ eapTlsFlags method.version more false &&& eapTlsFlagsLengthIncluded ≠ 0 := by
    rw [eapTlsFlags_lengthIncluded]
    exact Bool.false_ne_true
  unfold processInit
  rw [eapTlsHdrValidate_eapTlsMsg hlen]
  simp only [List.cons_append, Bool.false_eq_true, if_false, List.nil_append]
  rw [if_neg hflags]

/-- The length of a message is taken over before its first fragment. -/
lemma processInit_first (hidle : peer.Idle) (hlen : eapTlsHdrSize method.type + eapTlsPayloadSize true data < 65536)
    (htotal : total ≤ 65536) (hdata : data.length ≤ total) :
    peer.processInit method (eapTlsMsg method code id more true total data) =
      ({ peer with tlsInTotal := total, tlsInLeft := total }, some (eapTlsFlags method.version more true, data)) := by
  have hflags := (eapTlsFlags_lengthIncluded method.version more true).mpr rfl
  have hnone : peer.tlsIn = none := hidle.1
  have hlt : total < 256 ^ 4 := lt_of_le_of_lt htotal (by norm_num)
  unfold processInit
  rw [eapTlsHdrValidate_eapTlsMsg hlen]
  simp only [List.cons_append, if_true]
  rw [if_pos hflags, if_neg (by simp), beNat_take_beBytes total data hlt, drop_beBytes, if_pos hidle.2,
    if_neg (by omega), ← hnone]

lemma receive_single (hidle : peer.Idle) (hlen : eapTlsHdrSize method.type + eapTlsPayloadSize false data < 65536) :
    peer.receive method (eapTlsMsg method code id more false total data) = (peer.resetInput, .complete data) := by
  obtain ⟨hnone, hleft⟩ := hidle
  unfold receive
  rw [processInit_eapTlsMsg hlen]
  dsimp only
  rw [dataReassemble, if_neg (by simp [hnone, hleft])]
  rfl

lemma receive_first (hidle : peer.Idle) (hlen : eapTlsHdrSize method.type + eapTlsPayloadSize true data < 65536)
    (htotal : total ≤ 65536) (hne : data ≠ []) (hdata : data.length < total) :
    peer.receive method (eapTlsMsg method code id more true total data) =
      ({ peer with tlsInTotal := total, tlsIn := some data, tlsInLeft := total - data.length }, .more) := by
  have hpos := List.length_pos_iff.mpr hne
  have hnone : peer.tlsIn = none := hidle.1
  unfold receive
  rw [processInit_first hidle hlen htotal hdata.le]
  dsimp only
  rw [dataReassemble, if_pos (by simp [hdata]), reassembleFragment]
  simp only [hnone, Option.getD_none, List.length_nil, List.nil_append]
  rw [if_neg (by omega), if_neg (by omega), if_neg (by omega), if_pos (by omega)]

/-- A later fragment is appended, and completes the message if nothing is left after it. -/
lemma receive_cont (hbuf : peer.tlsIn = some buf) (hlen : eapTlsHdrSize method.type + eapTlsPayloadSize false data < 65536)
    (hne : data ≠ []) (hleft : data.length ≤ peer.tlsInLeft) (htotal : buf.length + peer.tlsInLeft ≤ 65536) :
    peer.receive method (eapTlsMsg method code id more false total data) =
      if data.length < peer.tlsInLeft then
        ({ peer with tlsIn := some (buf ++ data), tlsInLeft := peer.tlsInLeft - data.length }, .more)
      else (peer.resetInput, .complete (buf ++ data)) := by
  have hpos := List.length_pos_iff.mpr hne
  unfold receive
  rw [processInit_eapTlsMsg hlen]
  dsimp only
  rw [dataReassemble, if_pos (by simp [hbuf]), reassembleFragment]
  simp only [hbuf, Option.getD_some]
  rw [if_neg (by omega), if_neg (by omega), if_neg (by omega)]
  by_cases hlast : data.length < peer.tlsInLeft
  · rw [if_pos hlast, if_pos (by omega)]
  · rw [if_neg hlast, if_neg (by omega)]
    rfl

/-- The acknowledgement of the server lets the peer go on. -/
lemma receiveAck_buildAck (peer : EapPeerSsl) (method : EapTlsMethod) (id : UInt8) :
    peer.receiveAck method (EapServerSsl.buildAck method id) = some peer := by
  have hsize : eapTlsHdrSize method.type ≤ 12 := by
    unfold eapTlsHdrSize eapHdrSize
    split_ifs <;> omega
  have hlen : eapTlsHdrSize method.type + eapTlsPayloadSize false [] < 65536 := by
    simp only [eapTlsPayloadSize, Bool.false_eq_true, if_false, List.length_nil]
    omega
  unfold receiveAck EapServerSsl.buildAck
  rw [processInit_eapTlsMsg hlen]

end EapPeerSsl

namespace EapServerSsl

variable {server : EapServerSsl} {method : EapTlsMethod} {code id : UInt8} {more li : Bool} {total : ℕ}
  {data buf : List UInt8}

/-- The reassembly gets the flags and the data. -/
lemma reassemble_eapTlsMsg (hli : li = true → total ≤ 65536 ∧ data.length ≤ total) :
    server.reassemble (eapTlsFlags method.version more li) ((if li then beBytes 4 total else []) ++ data) =
      server.reassembleData (eapTlsFlags method.version more li) (if li then total else 0) data := by
  unfold reassemble
  cases li with
  | false =>
    have hflags : ¬ eapTlsFlags method.version more false &&& eapTlsFlagsLengthIncluded ≠ 0 := by
      rw [eapTlsFlags_lengthIncluded]
      exact Bool.false_ne_true
    rw [if_neg hflags]
    rfl
  | true =>
    obtain ⟨htotal, hdata⟩ := hli rfl
    have hflags := (eapTlsFlags_lengthIncluded method.version more true).mpr rfl
    have hlt : total < 256 ^ 4 := lt_of_le_of_lt htotal (by norm_num)
    simp only [if_true]
    rw [if_pos hflags, if_neg (by simp), beNat_take_beBytes total data hlt, drop_beBytes, if_neg (by omega)]

/-- What a server does with a fragment or a whole message, given what the reassembly does. -/
lemma process_eapTlsMsg (hlen : eapTlsHdrSize method.type + eapTlsPayloadSize li data < 65536)
    (hli : li = true → total ≤ 65536 ∧ data.length ≤ total) {result : EapServerSsl × EapTlsInput}
    (hresult : server.reassembleData (eapTlsFlags method.version more li) (if li then total else 0) data = result) :
    server.process method (eapTlsMsg method code id more li total data) =
      if result.2 = .more then result else ({ result.1 with tlsIn := none }, result.2) := by
  unfold process
  rw [eapTlsHdrValidate_eapTlsMsg hlen, List.cons_append]
  dsimp only
  rw [reassemble_eapTlsMsg hli, hresult]
  obtain ⟨server', input⟩ := result
  cases input <;> simp

/-- The acknowledgement of the peer lets the server go on. -/
lemma process_buildAck (hstate : server.state = .waitFragAck) (method : EapTlsMethod) (id : UInt8) :
    server.process method (EapPeerSsl.buildAck method id) = (server, .more) := by
  have hsize : eapTlsHdrSize method.type ≤ 12 := by
    unfold eapTlsHdrSize eapHdrSize
    split_ifs <;> omega
  have hlen : eapTlsHdrSize method.type + eapTlsPayloadSize false [] < 65536 := by
    simp only [eapTlsPayloadSize, Bool.false_eq_true, if_false, List.length_nil]
    omega
  have hdata : server.reassembleData (eapTlsFlags method.version false false) 0 [] = (server, .more) := by
    rw [reassembleData, if_pos hstate, if_neg (by simp)]
  rw [EapPeerSsl.buildAck, process_eapTlsMsg hlen (by simp) hdata, if_pos rfl]

lemma reassembleData_single (hstate : server.state = .msg) (hnone : server.tlsIn = none) (tlsMsgLen : ℕ) :
    server.reassembleData (eapTlsFlags method.version false li) tlsMsgLen data = (server, .complete data) := by
  have hflags : ¬ eapTlsFlags method.version false li &&& eapTlsFlagsMoreFragments ≠ 0 := by
    rw [eapTlsFlags_more]
    exact Bool.false_ne_true
  unfold reassembleData
  rw [if_neg (by rw [hstate]; decide)]
  simp only [hnone, Option.mapM_none, Option.pure_def]
  rw [if_neg hflags, if_neg (by rw [hstate]; decide), ← hnone]
  refine Prod.ext rfl ?_
  simp [hnone]

lemma reassembleData_first (hstate : server.state = .msg) (hnone : server.tlsIn = none) (htotal : total ≤ 65536)
    (hdata : data.length ≤ total) :
    server.reassembleData (eapTlsFlags method.version true true) total data =
      ({ server with tlsIn := some ⟨total, data⟩, state := .fragAck }, .more) := by
  have hmore := (eapTlsFlags_more method.version true true).mpr rfl
  have hli := (eapTlsFlags_lengthIncluded method.version true true).mpr rfl
  unfold reassembleData
  rw [if_neg (by rw [hstate]; decide)]
  simp only [hnone, Option.mapM_none, Option.pure_def]
  rw [if_pos hmore]
  simp only [processFragment]
  rw [if_neg (by simpa using hli), if_neg (by omega), if_neg (by omega)]

/-- A later fragment is appended, and completes the message unless more are announced. -/
lemma reassembleData_cont (hstate : server.state = .fragAck) (hbuf : server.tlsIn = some ⟨total, buf⟩)
    (hroom : buf.length + data.length ≤ total) (tlsMsgLen : ℕ) :
    server.reassembleData (eapTlsFlags method.version more li) tlsMsgLen data =
      if more then ({ server with tlsIn := some ⟨total, buf ++ data⟩ }, .more)
      else ({ server with tlsIn := some ⟨total, buf ++ data⟩, state := .msg }, .complete (buf ++ data)) := by
  have hcont : processCont ⟨total, buf⟩ data = some ⟨total, buf ++ data⟩ := by
    rw [processCont, Wpabuf.tailroom, if_neg (by dsimp only; omega)]
  have hmap : server.tlsIn.mapM (fun tlsIn => processCont tlsIn data) = some (some ⟨total, buf ++ data⟩) := by
    rw [hbuf, Option.mapM_some, hcont]
    rfl
  unfold reassembleData
  rw [if_neg (by rw [hstate]; decide), hmap]
  dsimp only
  cases more with
  | true =>
    rw [if_pos ((eapTlsFlags_more method.version true li).mpr rfl), if_pos rfl, ← hstate]
    rfl
  | false =>
    have hflags : ¬ eapTlsFlags method.version false li &&& eapTlsFlagsMoreFragments ≠ 0 := by
      rw [eapTlsFlags_more]
      exact Bool.false_ne_true
    rw [if_neg hflags, if_pos hstate]
    rfl

lemma process_single (hstate : server.state = .msg) (hnone : server.tlsIn = none)
    (hlen : eapTlsHdrSize method.type + eapTlsPayloadSize li data < 65536) (htotal : total ≤ 65536)
    (hdata : data.length ≤ total) :
    server.process method (eapTlsMsg method code id false li total data) = (server, .complete data) := by
  rw [process_eapTlsMsg hlen (fun _ => ⟨htotal, hdata⟩) (reassembleData_single hstate hnone _), if_neg (by simp),
    ← hnone]

lemma process_first (hstate : server.state = .msg) (hnone : server.tlsIn = none)
    (hlen : eapTlsHdrSize method.type + eapTlsPayloadSize true data < 65536) (htotal : total ≤ 65536)
    (hdata : data.length ≤ total) :
    server.process method (eapTlsMsg method code id true true total data) =
      ({ server with tlsIn := some ⟨total, data⟩, state := .fragAck }, .more) := by
  have hresult : server.reassembleData (eapTlsFlags method.version true true) (if true then total else 0) data = _ :=
    reassembleData_first hstate hnone htotal hdata
  rw [process_eapTlsMsg hlen (fun _ => ⟨htotal, hdata⟩) hresult, if_pos rfl]
  rfl

lemma process_cont (hstate : server.state = .fragAck) (hbuf : server.tlsIn = some ⟨total, buf⟩)
    (hroom : buf.length + data.length ≤ total)
    (hlen : eapTlsHdrSize method.type + eapTlsPayloadSize li data < 65536) (htotal : total ≤ 65536) :
    server.process method (eapTlsMsg method code id more li total data) =
      if more then ({ server with tlsIn := some ⟨total, buf ++ data⟩ }, .more)
      else ({ server with tlsIn := none, state := .msg }, .complete (buf ++ data)) := by
  rw [process_eapTlsMsg hlen (fun _ => ⟨htotal, by omega⟩) (reassembleData_cont hstate hbuf hroom _)]
  cases more <;> rfl

end EapServerSsl

end Ethanol
