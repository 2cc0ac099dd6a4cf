import EthanolHostapd.EthanolFunctions.GetInterfaces
import EthanolHostapd.Messaging.Client
import EthanolHostapd.Messaging.Error

/-!
# Interface lists

`msg_intf.c`, the messages `MSG_GET_ALL_INTF` and `MSG_GET_ONE_INTF`.  The handler fills in the interfaces
of this machine, or relays the request to a station and answers with what the station reports.

`size_msg_intf` counts the size of the pointer `sta_ip` where it means `sta_port`, and counts each
`is_wifi` with four bytes; both make the message longer than what is written.
-/

namespace Ethanol

open Wire

/-- `struct interface`. -/
structure Interface where
  ifindex : Int64
  intfName : Option CString
  intfType : UInt32
  macAddress : Option CString
  isWifi : Bool
  deriving DecidableEq, Inhabited

/-- `struct msg_intf`. -/
structure MsgIntf where
  mType : Int32
  mId : Int32
  pVersion : Option CString
  mSize : Int32
  staIp : Option CString
  staPort : Int32
  numIntf : UInt32
  intf : List Interface
  deriving DecidableEq

/-! ## Size, encoder and decoder -/

/-- What the loop of `size_msg_intf` adds for one interface, if `str` is what it adds for a string. -/
def interfaceSize (str : Option CString → ℤ) (i : Interface) : ℤ :=
  8 + str i.intfName + 4 + str i.macAddress + boolLenEthanol.toInt

/-- The sum that `size_msg_intf` forms, in unbounded integers. -/
def intfSize (str : Option CString → ℤ) (h : MsgIntf) : ℤ :=
  4 + 4 + str h.pVersion + 4 + str h.staIp +
  8 + -- sizeof(h->sta_ip), a pointer
  4 + ((h.intf.take h.numIntf.toNat).map (interfaceSize str)).sum

/-- `size_msg_intf`. -/
def sizeMsgIntf (h : MsgIntf) : Int32 :=
  Int32.ofInt (intfSize (fun s => (strlenEthanol s).toInt) h)

/-- The body of the loop of `encode_msg_intf`. -/
def encodeInterface (aux : Out) (i : Interface) : Out :=
  let aux := encode2long aux i.ifindex
  let aux := encodeChar aux i.intfName
  let aux := encodeUint aux i.intfType
  let aux := encodeChar aux i.macAddress
  encodeBool aux i.isWifi

/-- `encode_msg_intf`. -/
def encodeMsgIntf (h : MsgIntf) : Encoded :=
  let bufLen := sizeMsgIntf h
  let aux := Out.ofBytes []
  let aux := encodeHeader aux h.mType h.mId bufLen -- h->m_size = *buf_len
  let aux := encodeChar aux h.staIp
  let aux := encodeInt aux h.staPort
  let aux := encodeUint aux h.numIntf
  ⟨bufLen, Out.each encodeInterface h.numIntf.toNat h.intf aux⟩

/-- The body of the loop of `decode_msg_intf`. -/
def decodeInterface : Decoder Interface := do
  let ifindex ← decode2long
  let intfName ← decodeChar
  let intfType ← decodeUint
  let macAddress ← decodeChar
  let isWifi ← decodeBool
  pure { ifindex, intfName, intfType, macAddress, isWifi }

/-- `decode_msg_intf`. -/
def decodeMsgIntf : Decoder MsgIntf := do
  let header ← decodeHeader
  let staIp ← decodeChar
  let staPort ← decodeInt
  let numIntf ← decodeUint
  let intf ← Decoder.array numIntf.toNat decodeInterface
  pure {
    mType := header.mType, mId := header.mId, pVersion := header.mVersion, mSize := header.mSize,
    staIp, staPort, numIntf, intf }

/-! ## Layout on the wire -/

namespace Interface

/-- The strings have representable lengths. -/
structure WellFormed (i : Interface) : Prop where
  intfName : StrFits i.intfName
  macAddress : StrFits i.macAddress

/-- The wire image of an interface. -/
def bytes (i : Interface) : List UInt8 :=
  [Scalar.toBytes i.ifindex, charBytes i.intfName, Scalar.toBytes i.intfType,
    charBytes i.macAddress, Scalar.toBytes i.isWifi].flatten

lemma encode_ofBytes {i : Interface} (hi : i.WellFormed) (bs : List UInt8) :
    encodeInterface (Out.ofBytes bs) i = Out.ofBytes (bs ++ i.bytes) := by
  simp only [encodeInterface, Out.ofBytes_scalar, encodeChar_ofBytes hi.intfName,
    encodeChar_ofBytes hi.macAddress]
  simp [bytes]

/-- An interface is written in three bytes less than is counted, and one less for each missing or
empty string. -/
lemma length_bytes (i : Interface) :
    (i.bytes.length : ℤ) + 3 + (strSlack i.intfName + strSlack i.macAddress : ℕ) =
      interfaceSize strSize i := by
  have hname := length_charBytes i.intfName
  have hmac := length_charBytes i.macAddress
  simp only [interfaceSize, strSize, toInt_boolLenEthanol]
  simp only [bytes, List.flatten_cons, List.flatten_nil, List.length_append, List.length_nil,
    Scalar.length_toBytes, Scalar.width_int64, Scalar.width_uint32, Scalar.width_bool]
  omega

end Interface

namespace MsgIntf

/-- The count matches the array, and the strings have representable lengths. -/
structure WellFormed (h : MsgIntf) : Prop where
  pVersion : StrFits h.pVersion
  staIp : StrFits h.staIp
  count : UCounts h.numIntf h.intf
  interfaces : ∀ i ∈ h.intf, i.WellFormed

/-- The wire image of a message. -/
def bytes (h : MsgIntf) : List UInt8 :=
  [headerBytes h.mType h.mId (sizeMsgIntf h), charBytes h.staIp, Scalar.toBytes h.staPort,
    Scalar.toBytes h.numIntf, h.intf.flatMap Interface.bytes].flatten

lemma encode_eq {h : MsgIntf} (hh : h.WellFormed) :
    encodeMsgIntf h = ⟨sizeMsgIntf h, Out.ofBytes h.bytes⟩ := by
  have hintf := Out.each_ofBytes (f := encodeInterface) h.numIntf.toNat h.intf
    fun i hi => Interface.encode_ofBytes (hh.interfaces i (List.mem_of_mem_take hi))
  simp only [encodeMsgIntf, encodeHeader_ofBytes, encodeChar_ofBytes hh.staIp, Out.ofBytes_scalar,
    hintf, hh.count.take_eq]
  simp [bytes]

/-- The size is the sum, with strings counted in full, reduced to an `int`. -/
lemma size_eq (h : MsgIntf) : sizeMsgIntf h = Int32.ofInt (intfSize strSize h) := by
  have hentry (i : Interface) :
      interfaceSize (fun s => (strlenEthanol s).toInt) i ≡ interfaceSize strSize i [ZMOD 2 ^ 32] := by
    unfold interfaceSize
    gcongr <;> apply strlenEthanol_modEq
  apply ofInt_eq_of_modEq
  unfold intfSize
  gcongr
  · apply strlenEthanol_modEq
  · apply strlenEthanol_modEq
  · exact sum_map_modEq hentry _

/-- How far the size is off: by the length of the version against one, by the slack of `sta_ip`, and by
three to five bytes for each interface. -/
lemma length_bytes {h : MsgIntf} (hcount : UCounts h.numIntf h.intf) :
    (h.bytes.length : ℤ) + (strLen h.pVersion + strSlack h.staIp + 3 * h.intf.length : ℕ) ≤
        intfSize strSize h + 1 ∧
      intfSize strSize h + 1 ≤ h.bytes.length +
        (strLen h.pVersion + strSlack h.staIp + 5 * h.intf.length : ℕ) := by
  have hsta := length_charBytes h.staIp
  have hle := Out.length_flatMap_add_le_sum Interface.bytes (interfaceSize strSize) 3 h.intf
    fun i _ => by
      have := i.length_bytes
      omega
  have hge := Out.sum_le_length_flatMap_add Interface.bytes (interfaceSize strSize) 5 h.intf
    fun i _ => by
      have := i.length_bytes
      have := strSlack_le_one i.intfName
      have := strSlack_le_one i.macAddress
      omega
  simp only [intfSize, strSize, hcount.take_eq]
  simp only [bytes, List.flatten_cons, List.flatten_nil, List.length_append, List.length_nil,
    length_headerBytes, Scalar.length_toBytes, Scalar.width_int32, Scalar.width_uint32]
  omega

/-- The header takes 22 bytes and each interface at least 21. -/
lemma le_length_bytes (h : MsgIntf) : 22 + 21 * h.intf.length ≤ h.bytes.length := by
  have hentry (i : Interface) : 21 ≤ i.bytes.length := by
    have hname := length_charBytes i.intfName
    have hmac := length_charBytes i.macAddress
    have := strSlack_le_one i.intfName
    have := strSlack_le_one i.macAddress
    simp only [Interface.bytes, List.flatten_cons, List.flatten_nil, List.length_append,
      List.length_nil, Scalar.length_toBytes, Scalar.width_int64, Scalar.width_uint32,
      Scalar.width_bool]
    omega
  have hsum := Out.sum_le_length_flatMap_add Interface.bytes (fun _ => 21) 0 h.intf fun i _ => by
    have := hentry i
    omega
  rw [List.map_const', List.sum_replicate, nsmul_eq_mul] at hsum
  simp only [bytes, List.flatten_cons, List.length_append, length_headerBytes]
  omega

end MsgIntf

/-- The length of the buffer, which is also the `m_size` of the header and the length sent, is the
number of bytes written exactly when there are no interfaces and the version and `sta_ip` happen to
make up for the four bytes of the pointer.  This never happens for `p_version = ETHANOL_VERSION`. -/
theorem intf_size_exact_iff (h : MsgIntf) (hh : h.WellFormed) :
    (encodeMsgIntf h).bufLen.toInt = (encodeMsgIntf h).out.extent ↔
      h.intf.length = 0 ∧ strLen h.pVersion + strSlack h.staIp = 1 ∧
        intfSize strSize h < 2 ^ 31 := by
  have hversion : strLen h.pVersion < 2 ^ 31 := hh.pVersion
  have hslack := strSlack_le_one h.staIp
  obtain ⟨hle, hge⟩ := MsgIntf.length_bytes hh.count
  have hmin := h.le_length_bytes
  rw [MsgIntf.encode_eq hh, Out.ofBytes_extent, MsgIntf.size_eq]
  dsimp only
  by_cases hlt : intfSize strSize h < 2 ^ 31
  · rw [toInt_ofInt_of_lt (by omega) hlt]
    omega
  · -- a size that wraps around would have to be off by `2 ^ 32` bytes at least
    have hwrap := toInt_ofInt_le_sub (not_lt.mp hlt)
    have hmax : (Int32.ofInt (intfSize strSize h)).toInt < 2 ^ 31 := Int32.toInt_lt _
    omega

/-- A message without strings for the given interfaces. -/
def intfOf (pVersion : CString) (intf : List Interface) : MsgIntf where
  mType := EnumMsgType.msgGetAllIntf.code
  mId := 7
  pVersion := some pVersion
  mSize := 0
  staIp := none
  staPort := 0
  numIntf := UInt32.ofNat intf.length
  intf := intf

theorem intf_size_exact_empty :
    (encodeMsgIntf (intfOf ⟨[], by decide⟩ [])).bufLen.toInt =
      (encodeMsgIntf (intfOf ⟨[], by decide⟩ [])).out.extent := by
  have hh : (intfOf ⟨[], by decide⟩ []).WellFormed :=
    ⟨by decide, by decide, by decide, by simp [intfOf]⟩
  exact (intf_size_exact_iff _ hh).mpr (by decide)

/-- With one interface without name and address, 55 bytes are written and 65 are sent. -/
theorem intf_size_not_exact :
    (encodeMsgIntf (intfOf ethanolVersion [default])).out.extent = 55 ∧
      (encodeMsgIntf (intfOf ethanolVersion [default])).bufLen = 65 := by
  decide

/-! ## Client -/

/-- The surroundings of `process_msg_intf`. -/
structure IntfEnv where
  /-- The stations. -/
  net : Network
  /-- The interfaces of this machine. -/
  interfaces : List InterfaceFields
  /-- The `intf_type` and `is_wifi` of a request for one interface, which are sent uninitialised. -/
  uninit : UInt32 × Bool

/-- The request that `generic_get_intf_msg` sends. -/
def intfRequest (env : IntfEnv) (mType : Int32) (intfName staIp : Option CString)
    (staPort mId : Int32) : Encoded :=
  encodeMsgIntf {
    mType, mId, pVersion := some ethanolVersion, mSize := 0, staIp, staPort
    numIntf := if intfName.isNone then 0 else 1
    intf :=
      if intfName.isNone then []
      else [{
        ifindex := 0, intfName, intfType := env.uninit.1, macAddress := none,
        isWifi := env.uninit.2 }] }

/-- What `generic_get_intf_msg` makes of an answer.  The second operand of the test is an assignment,
`returned_type = MSG_GET_ONE_INTF`, whose value is that constant. -/
def intfAnswered (answer : Answer) : Option MsgIntf :=
  let returnedType := returnMessageType answer.buf
  if returnedType = EnumMsgType.msgGetAllIntf.code ∨ EnumMsgType.msgGetOneIntf.code ≠ 0 then
    some (decodeMsgIntf answer.buf Cursor.start).1
  else none

/-- `generic_get_intf_msg`. -/
def genericGetIntfMsg (env : IntfEnv) (mType : Int32) (hostname : CString) (portnum id : Int32)
    (intfName staIp : Option CString) (staPort : Int32) : Option MsgIntf × Int32 :=
  if ¬ (mType = EnumMsgType.msgGetAllIntf.code ∨ mType = EnumMsgType.msgGetOneIntf.code) then
    (none, id)
  else
    exchange env.net hostname portnum id (intfRequest env mType intfName staIp staPort)
      intfAnswered

/-- `send_msg_get_interfaces`. -/
def sendMsgGetInterfaces (env : IntfEnv) (hostname : CString) (portnum id : Int32)
    (staIp : Option CString) (staPort : Int32) : Option MsgIntf × Int32 :=
  genericGetIntfMsg env EnumMsgType.msgGetAllIntf.code hostname portnum id none staIp staPort

/-- `send_msg_get_one_intf`. -/
def sendMsgGetOneIntf (env : IntfEnv) (hostname : CString) (portnum id : Int32)
    (intfName staIp : Option CString) (staPort : Int32) : Option MsgIntf × Int32 :=
  genericGetIntfMsg env EnumMsgType.msgGetOneIntf.code hostname portnum id intfName staIp staPort

/-- The answer is of one of the two types that carry interfaces. -/
def IntfReply (answer : Answer) : Prop :=
  returnMessageType answer.buf = EnumMsgType.msgGetAllIntf.code ∨
    returnMessageType answer.buf = EnumMsgType.msgGetOneIntf.code

instance (answer : Answer) : Decidable (IntfReply answer) := inferInstanceAs (Decidable (_ ∨ _))

/-- Every answer is decoded. -/
lemma intfAnswered_eq (answer : Answer) :
    intfAnswered answer = some (decodeMsgIntf answer.buf Cursor.start).1 := by
  have hne : EnumMsgType.msgGetOneIntf.code ≠ 0 := by decide
  simp [intfAnswered, hne]

/-- `generic_get_intf_msg` returns interfaces only for answers that carry them exactly when no other
answer arrives: the test of the type rejects nothing. -/
theorem genericGetIntfMsg_sound_iff (env : IntfEnv) (mType : Int32) (hostname : CString)
    (portnum id : Int32) (intfName staIp : Option CString) (staPort : Int32) :
    (∀ answer, env.net hostname portnum = some answer →
      (genericGetIntfMsg env mType hostname portnum id intfName staIp staPort).1.isSome →
      IntfReply (answer (intfRequest env mType intfName staIp staPort id))) ↔
    (mType = EnumMsgType.msgGetAllIntf.code ∨ mType = EnumMsgType.msgGetOneIntf.code →
      ∀ answer, env.net hostname portnum = some answer →
        IntfReply (answer (intfRequest env mType intfName staIp staPort id))) := by
  constructor
  · intro hsound htype answer hanswer
    refine hsound answer hanswer ?_
    rw [genericGetIntfMsg, if_neg (not_not.mpr htype), exchange, hanswer]
    simp [intfAnswered_eq]
  · intro hreply answer hanswer hsome
    by_cases htype : mType = EnumMsgType.msgGetAllIntf.code ∨ mType = EnumMsgType.msgGetOneIntf.code
    · exact hreply htype answer hanswer
    · rw [genericGetIntfMsg, if_pos htype] at hsome
      cases hsome

/-- A host that answers every request with an error message. -/
def refusingHost : IntfEnv where
  net _ _ := some fun _ =>
    ⟨26, Memory.ofBytes (returnErrorMsgStruct .errorUnknown 7).out.bytes (fun _ => 0) (fun _ => [])⟩
  interfaces := []
  uninit := (0, false)

/-- An error message is decoded as a list of interfaces. -/
theorem genericGetIntfMsg_error_decoded :
    (genericGetIntfMsg refusingHost EnumMsgType.msgGetAllIntf.code ethanolVersion 0 7 none none
        0).1.isSome ∧
      ∀ answer, refusingHost.net ethanolVersion 0 = some answer → ∀ request,
        returnMessageType (answer request).buf = EnumMsgType.msgErrType.code ∧
          ¬ IntfReply (answer request) := by
  refine ⟨by simp [genericGetIntfMsg, exchange, refusingHost, intfAnswered_eq], ?_⟩
  intro answer hanswer request
  obtain rfl := Option.some.inj hanswer
  have htype := returnMessageType_error .errorUnknown 7 (fun _ => 0) (fun _ => [])
  refine ⟨htype, ?_⟩
  simp only [IntfReply, htype]
  decide

/-! ## Server -/

/-- Fill in a requested interface from the interfaces of this machine. -/
def fillInterface (interfaces : List InterfaceFields) (i : Interface) : Option Interface := do
  let f ← getInterface interfaces i.intfName
  match f with
  | some f =>
    pure { i with
      ifindex := f.ifindex.toInt64, intfType := f.intfType.toUInt32, macAddress := f.macAddr,
      isWifi := f.isWifi }
  | none => pure i

/-- The call to the station by which `process_msg_intf` relays a request. -/
def relayMsgIntf (env : IntfEnv) (h : MsgIntf) (staIp : CString) : Option MsgIntf × Int32 :=
  if h.mType = EnumMsgType.msgGetAllIntf.code then
    sendMsgGetInterfaces env staIp h.staPort h.mId none 0
  else
    let intfName := h.intf.head?.bind Interface.intfName
    sendMsgGetOneIntf env staIp h.staPort h.mId intfName none 0

/-- What `process_msg_intf` makes of the decoded request before it encodes it as the reply; `none` is
the crash of `get_interface`. -/
def answerMsgIntf (env : IntfEnv) (h : MsgIntf) : Option MsgIntf :=
  match h.staIp with
  | none =>
    if h.mType = EnumMsgType.msgGetAllIntf.code then
      match getAllInterfaces env.interfaces with
      | some p =>
        some { h with
          numIntf := UInt32.ofNat p.length
          intf := p.map fun f => {
            ifindex := f.ifindex.toInt64, intfName := some f.intfName,
            intfType := f.intfType.toUInt32, macAddress := f.macAddr, isWifi := f.isWifi } }
      | none => some { h with numIntf := 0, intf := [] }
    else do
      let intf ← h.intf.mapM (fillInterface env.interfaces)
      pure { h with intf }
  | some staIp =>
    let sent := relayMsgIntf env h staIp
    let h := { h with mId := sent.2 } -- the id was passed as &h->m_id
    match sent.1 with
    | some h1 => some { h with numIntf := h1.numIntf, intf := h1.intf }
    | none => some h

/-- `process_msg_intf`: the reply to the request in `input`. -/
def processMsgIntf (env : IntfEnv) (input : Memory) : Option Encoded :=
  (answerMsgIntf env (decodeMsgIntf input Cursor.start).1).map encodeMsgIntf

end Ethanol
