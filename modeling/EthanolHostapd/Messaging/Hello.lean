import EthanolHostapd.Messaging.Fields

/-!
# Devices that come and go

`msg_hello.c` and `msg_bye.c`.  A device says hello with its type and the port at which it listens and gets the
same message back; when it leaves it says bye and gets nothing back.  In both cases the server calls an event.

`process_msg_hello` decodes the message through `*output`, after `*output` has been set to `*input`.
`process_msg_bye` decodes through `*output` as well, but there `*output` has been set to `NULL`.
-/

namespace Ethanol

open Wire

/-! ## The code -/

/-- `struct msg_hello`. -/
structure MsgHello where
  mType : Int32
  mId : Int32
  pVersion : Option CString
  mSize : Int32
  deviceType : Int32
  tcpPort : Int32
  rtt : CFloat
  deriving DecidableEq

/-- `struct msg_bye`. -/
structure MsgBye where
  mType : Int32
  mId : Int32
  pVersion : Option CString
  mSize : Int32
  tcpPort : Int32
  deriving DecidableEq

/-- `message_size_hello`. -/
def messageSizeHello (h : MsgHello) : Int32 :=
  Int32.ofInt (4 + 4 + (strlenEthanol h.pVersion).toInt + 4 + 4 + 4 + 4)

/-- `message_size_bye`. -/
def messageSizeBye (h : MsgBye) : Int32 := Int32.ofInt (4 + 4 + (strlenEthanol h.pVersion).toInt + 4 + 4)

/-- `encode_msg_hello`. -/
def encodeMsgHello (h : MsgHello) : Encoded :=
  let bufLen := messageSizeHello h
  let aux := Out.ofBytes []
  let aux := encodeHeader aux h.mType h.mId bufLen -- h->m_size = *buf_len
  let aux := encodeInt aux h.deviceType
  let aux := encodeInt aux h.tcpPort
  ⟨bufLen, encodeFloat aux h.rtt⟩

/-- `decode_msg_hello`. -/
def decodeMsgHello : Decoder MsgHello := do
  let header ← decodeHeader
  let deviceType ← decodeInt
  let tcpPort ← decodeInt
  let rtt ← decodeFloat
  pure {
    mType := header.mType, mId := header.mId, pVersion := header.mVersion, mSize := header.mSize, deviceType,
    tcpPort, rtt }

/-- `encode_msg_bye`. -/
def encodeMsgBye (h : MsgBye) : Encoded :=
  let bufLen := messageSizeBye h
  let aux := Out.ofBytes []
  let aux := encodeHeader aux h.mType h.mId bufLen -- h->m_size = *buf_len
  ⟨bufLen, encodeInt aux h.tcpPort⟩

/-- `decode_msg_bye`. -/
def decodeMsgBye : Decoder MsgBye := do
  let header ← decodeHeader
  let tcpPort ← decodeInt
  pure { mType := header.mType, mId := header.mId, pVersion := header.mVersion, mSize := header.mSize, tcpPort }

/-- A decoder at the start of a buffer; `NULL` cannot be decoded. -/
def decodeFrom {α : Type} (d : Decoder α) (buf : Option Memory) : Option α :=
  buf.map fun m => (d m Cursor.start).1

/-- A call of `p_hello_event` or of `p_bye_event`. -/
inductive DeviceEvent
  | hello (deviceType : Int32) (hostname : CString) (portNum : Int32)
  | bye (hostname : CString) (portNum : Int32)
  deriving DecidableEq

/-- Which events `set_hello_event` and `set_bye_event` have registered. -/
structure RegisteredEvents where
  pHelloEvent : Bool
  pByeEvent : Bool

/-- What a handler leaves: the events it called, `*output` and `*output_len`. -/
structure Handled where
  events : List DeviceEvent
  output : Option Memory
  outputLen : Int32

/-- `process_msg_hello`. -/
def processMsgHello (registered : RegisteredEvents) (hostname : CString) (input : Memory) (inputLen : Int32) :
    Option Handled := do
  let output := some input
  let h ← decodeFrom decodeMsgHello output
  pure {
    events := if registered.pHelloEvent then [.hello h.deviceType hostname h.tcpPort] else []
    output := output
    outputLen := inputLen }

/-- `process_msg_bye`; it does not look at `*input`. -/
def processMsgBye (registered : RegisteredEvents) (hostname : CString) : Option Handled := do
  let output := none
  let h ← decodeFrom decodeMsgBye output
  pure {
    events := if registered.pByeEvent then [.bye hostname h.tcpPort] else []
    output := output
    outputLen := 0 }

/-! ## Messages that arrive -/

/-- A message of a device. -/
inductive DeviceMessage
  | hello (h : MsgHello)
  | bye (h : MsgBye)

namespace DeviceMessage

/-- The message as it is encoded. -/
def encode : DeviceMessage → Encoded
  | hello h => encodeMsgHello h
  | bye h => encodeMsgBye h

/-- The event that the message is for. -/
def event (hostname : CString) : DeviceMessage → DeviceEvent
  | hello h => .hello h.deviceType hostname h.tcpPort
  | bye h => .bye hostname h.tcpPort

/-- Whether that event is registered. -/
def eventRegistered (registered : RegisteredEvents) : DeviceMessage → Bool
  | hello _ => registered.pHelloEvent
  | bye _ => registered.pByeEvent

end DeviceMessage

/-- A message that has arrived from a host.  It was written inside its buffer and is now at the start of `input`. -/
structure Arrival where
  hostname : CString
  message : DeviceMessage
  junk : ℕ → UInt8
  wire : List UInt8
  transmitted : message.encode.transmitted junk = some wire
  beyond : ℕ → UInt8
  heap : ℕ → List UInt8

namespace Arrival

/-- The buffer with the message. -/
def input (a : Arrival) : Memory := Memory.ofBytes a.wire a.beyond a.heap

/-- What the server does with the message. -/
def process (registered : RegisteredEvents) (a : Arrival) : Option Handled :=
  match a.message with
  | .hello _ => processMsgHello registered a.hostname a.input (Int32.ofNat a.wire.length)
  | .bye _ => processMsgBye registered a.hostname

/-- The reply is the one that is meant: a hello comes back with its identifier and its fields, and a bye has no
reply. -/
def Answered (a : Arrival) (output : Option Memory) : Prop :=
  match a.message with
  | .hello h => decodeFrom decodeMsgHello output =
      some { h with pVersion := some ethanolVersion, mSize := messageSizeHello h }
  | .bye _ => output = none

/-- The event of the message was called once, if it is registered, and the reply is the one that is meant. -/
def Delivered (registered : RegisteredEvents) (a : Arrival) (handled : Handled) : Prop :=
  handled.events = (if a.message.eventRegistered registered then [a.message.event a.hostname] else []) ∧
    a.Answered handled.output

end Arrival

/-- The messages one after the other.  Nothing follows a `NULL` that is read. -/
def serve (registered : RegisteredEvents) (arrivals : List Arrival) : Option (List Handled) :=
  arrivals.mapM (Arrival.process registered)

/-! ## Hello -/

lemma encodeMsgHello_eq (h : MsgHello) : encodeMsgHello h = ⟨messageSizeHello h, Out.ofBytes
    (headerBytes h.mType h.mId (messageSizeHello h) ++ (Scalar.toBytes h.deviceType ++ (Scalar.toBytes h.tcpPort ++
      Scalar.toBytes h.rtt)))⟩ := by
  simp [encodeMsgHello]

lemma decodes_msgHello (h : MsgHello) (mSize : Int32) :
    Decodes decodeMsgHello (headerBytes h.mType h.mId mSize ++ (Scalar.toBytes h.deviceType ++
      (Scalar.toBytes h.tcpPort ++ Scalar.toBytes h.rtt)))
      { h with pVersion := some ethanolVersion, mSize := mSize } := by
  unfold decodeMsgHello
  refine (decodes_header h.mType h.mId mSize).bind ?_
  refine (Decodes.scalar h.deviceType).bind ?_
  refine (Decodes.scalar h.tcpPort).bind ?_
  exact (Decodes.scalar h.rtt).map _

/-- A hello arrives in memory as it was encoded. -/
lemma decodeFrom_hello {a : Arrival} {h : MsgHello} (hmessage : a.message = .hello h) :
    decodeFrom decodeMsgHello (some a.input) =
      some { h with pVersion := some ethanolVersion, mSize := messageSizeHello h } := by
  have htransmitted := a.transmitted
  rw [hmessage, DeviceMessage.encode] at htransmitted
  have hin : (encodeMsgHello h).InBuffer := by
    by_contra hnot
    rw [Encoded.transmitted, if_neg hnot] at htransmitted
    cases htransmitted
  have hreceived : (encodeMsgHello h).received decodeMsgHello a.junk a.beyond a.heap =
      some { h with pVersion := some ethanolVersion, mSize := messageSizeHello h } := by
    rw [encodeMsgHello_eq] at hin ⊢
    exact Encoded.received_eq (decodes_msgHello h _) hin a.junk a.beyond a.heap
  rw [Encoded.received, htransmitted, Option.map_some] at hreceived
  exact hreceived

/-- A hello is delivered. -/
lemma process_hello (registered : RegisteredEvents) {a : Arrival} {h : MsgHello} (hmessage : a.message = .hello h) :
    ∃ handled, a.process registered = some handled ∧ a.Delivered registered handled := by
  have hdecode := decodeFrom_hello hmessage
  refine ⟨⟨if registered.pHelloEvent then [.hello h.deviceType a.hostname h.tcpPort] else [], some a.input,
    Int32.ofNat a.wire.length⟩, ?_, ?_⟩
  · rw [Arrival.process, hmessage]
    dsimp only
    rw [processMsgHello, hdecode, Option.bind_eq_bind, Option.bind_some]
    rfl
  · rw [Arrival.Delivered, Arrival.Answered, hmessage]
    exact ⟨rfl, hdecode⟩

/-- A bye is decoded through `NULL`. -/
lemma process_bye (registered : RegisteredEvents) {a : Arrival} {h : MsgBye} (hmessage : a.message = .bye h) :
    a.process registered = none := by
  rw [Arrival.process, hmessage]
  rfl

/-- A sequence of messages that were encoded and have arrived is delivered, message by message, if and only if there
is no bye in it. -/
theorem delivered_iff (registered : RegisteredEvents) (arrivals : List Arrival) :
    (∃ handled, serve registered arrivals = some handled ∧
        List.Forall₂ (Arrival.Delivered registered) arrivals handled) ↔
      ∀ a ∈ arrivals, ∃ h, a.message = .hello h := by
  unfold serve
  induction arrivals with
  | nil => exact iff_of_true ⟨[], rfl, List.Forall₂.nil⟩ (fun a h => absurd h List.not_mem_nil)
  | cons a arrivals ih =>
    rw [List.forall_mem_cons, ← ih, List.mapM_cons]
    cases hmessage : a.message with
    | hello h =>
      obtain ⟨first, hfirst, hdelivered⟩ := process_hello registered hmessage
      rw [hfirst, Option.bind_eq_bind, Option.bind_some]
      constructor
      · rintro ⟨handled, hserve, hall⟩
        obtain ⟨rest, hrest, hcons⟩ := Option.bind_eq_some_iff.mp hserve
        obtain rfl := Option.some.inj hcons
        exact ⟨⟨h, rfl⟩, rest, hrest, (List.forall₂_cons.mp hall).2⟩
      · rintro ⟨-, rest, hrest, hall⟩
        exact ⟨first :: rest, by rw [hrest]; rfl, List.Forall₂.cons hdelivered hall⟩
    | bye h =>
      rw [process_bye registered hmessage]
      constructor
      · rintro ⟨handled, hserve, -⟩
        cases hserve
      · rintro ⟨⟨h, hhello⟩, -⟩
        cases hhello

/-- The bye of a device that listens at port 1 of a host, as it arrives. -/
def byeArrival : Arrival where
  hostname := ⟨[104], by decide⟩
  message := .bye ⟨EnumMsgType.msgByeType.code, 1, some ethanolVersion, 0, 1⟩
  junk _ := 0
  wire := headerBytes EnumMsgType.msgByeType.code 1 26 ++ Scalar.toBytes (1 : Int32)
  transmitted := by rfl
  beyond _ := 0
  heap _ := []

/-- That message is not delivered. -/
theorem bye_not_delivered :
    ¬∃ handled, serve ⟨true, true⟩ [byeArrival] = some handled ∧
      List.Forall₂ (Arrival.Delivered ⟨true, true⟩) [byeArrival] handled := by
  rintro ⟨handled, hserve, -⟩
  rw [serve, List.mapM_cons, process_bye ⟨true, true⟩ (show byeArrival.message = .bye _ from rfl)] at hserve
  cases hserve

end Ethanol
