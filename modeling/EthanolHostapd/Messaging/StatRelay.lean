import EthanolHostapd.Messaging.FlatTransfer
import EthanolHostapd.Messaging.Servlet

/-!
# Readings that are relayed to a station

Ten handlers answer with a reading: one of the machine they run on, or, if the request names a station, one that they ask that
station for with the same message.  The functions of these messages differ in a few points, which `StatHandler` lists.

The result is about three machines, a client that asks an access point that asks a station: what the client decodes is the
reading of the station.
-/

namespace Ethanol

open Wire

/-! ## The handlers -/

/-- What distinguishes the functions of one message from those of the others. -/
structure StatHandler where
  codec : FlatCodec
  msgType : EnumMsgType
  /-- The member with the reading. -/
  value : MsgField
  /-- `send_msg_*` does nothing without the name of an interface. -/
  nameRequired : Bool := false
  /-- `send_msg_*` sets the reading of its request to zero. -/
  zeroed : Bool := true
  /-- The relay passes `&h->m_id`, not the address of a copy. -/
  sharesId : Bool := false
  /-- The local branch clears the port of the station. -/
  clearsPort : Bool := false

namespace StatHandler

/-- `msg_802_11e_enabled.c`. -/
def msg80211eEnabled : StatHandler where
  codec := .msg80211eEnabled
  msgType := .msgGet80211EEnabled
  value := .enabled
  sharesId := true

/-- `msg_bytesreceived.c`. -/
def msgBytesreceived : StatHandler where
  codec := .msgBytesreceived
  msgType := .msgGetBytesreceived
  value := .bytesReceived

/-- `msg_bytessent.c`. -/
def msgBytessent : StatHandler where
  codec := .msgBytessent
  msgType := .msgGetBytessent
  value := .bytesSent

/-- `msg_cpu.c`. -/
def msgCpu : StatHandler where
  codec := .msgCpu
  msgType := .msgGetCpu
  value := .cpuUsage
  clearsPort := true

/-- `msg_fastbsstransition_compatible.c`. -/
def msgFastbsstransitionCompatible : StatHandler where
  codec := .msgFastbsstransitionCompatible
  msgType := .msgGetFastbsstransitionCompatible
  value := .compatible
  sharesId := true

/-- `msg_memory.c`. -/
def msgMemory : StatHandler where
  codec := .msgMemory
  msgType := .msgGetMemory
  value := .memoryUsage
  clearsPort := true

/-- `msg_packetslost.c`. -/
def msgPacketslost : StatHandler where
  codec := .msgPacketslost
  msgType := .msgGetPacketslost
  value := .packetLost
  nameRequired := true

/-- `msg_packetsreceived.c`. -/
def msgPacketsreceived : StatHandler where
  codec := .msgPacketsreceived
  msgType := .msgGetPacketsreceived
  value := .packetReceived

/-- `msg_packetssent.c`. -/
def msgPacketssent : StatHandler where
  codec := .msgPacketssent
  msgType := .msgGetPacketssent
  value := .packetSent
  nameRequired := true

/-- `msg_snr.c`. -/
def msgSnr : StatHandler where
  codec := .msgSnr
  msgType := .msgGetSnr
  value := .snr
  zeroed := false

/-- The handlers of this kind. -/
def all : List StatHandler :=
  [msg80211eEnabled, msgBytesreceived, msgBytessent, msgCpu, msgFastbsstransitionCompatible, msgMemory, msgPacketslost,
    msgPacketsreceived, msgPacketssent, msgSnr]

end StatHandler

/-- The surroundings of a handler. -/
structure StatEnv (s : StatHandler) where
  /-- The stations. -/
  net : Network
  /-- What the local branch stores for an interface; `none` if it follows a `NULL` pointer. -/
  reading : Option CString → Option (s.codec.kind s.value).Value
  /-- What was in the memory of a structure. -/
  fresh : MsgFields s.codec

namespace StatHandler

variable (s : StatHandler) (env : StatEnv s)

/-- The request of `send_msg_*`. -/
def request (mId : Int32) (intfName staIp : Option CString) (staPort : Int32) : FlatMsg s.codec where
  mType := s.msgType.code
  mId := mId
  pVersion := some ethanolVersion
  mSize := 0 -- the encoder stores the size
  field :=
    let v := ((env.fresh.set .intfName .str intfName).set .staIp .str staIp).set .staPort .int staPort
    if s.zeroed then Function.update v s.value (s.codec.kind s.value).zero else v

/-- `send_msg_*`; the message and the id that is left behind `id`. -/
def sendMsg (hostname : CString) (portnum id : Int32) (intfName staIp : Option CString) (staPort : Int32) :
    Option (FlatMsg s.codec) × Int32 :=
  if s.nameRequired ∧ intfName.isNone then (none, id)
  else
    exchange env.net hostname portnum id (fun mId => s.codec.encodeMsg (s.request env mId intfName staIp staPort))
      fun answer =>
        if returnMessageType answer.buf = s.msgType.code then
          some (s.codec.decodeMsg env.fresh answer.buf Cursor.start).1
        else none

/-- What `process_msg_*` makes of the decoded request. -/
def answer (h : FlatMsg s.codec) : Option (FlatMsg s.codec) :=
  let intfName := h.field.get .intfName .str
  match h.field.get .staIp .str with
  | some staIp =>
    let sent := s.sendMsg env staIp (h.field.get .staPort .int) h.mId intfName none 0
    let h := if s.sharesId then { h with mId := sent.2 } else h
    match sent.1 with
    | some h1 => some { h with field := Function.update h.field s.value (h1.field s.value) }
    | none => some h
  | none =>
    (env.reading intfName).map fun reading =>
      let v := if s.clearsPort then h.field.set .staPort .int 0 else h.field
      { h with field := Function.update v s.value reading }

/-- `process_msg_*`: the reply to the request in `input`. -/
def processMsg (input : Memory) : Option Encoded :=
  (s.answer env (s.codec.decodeMsg env.fresh input Cursor.start).1).map s.codec.encodeMsg

end StatHandler

/-! ## Machines -/

/-- What lies around a message: the unwritten bytes of the buffer it is sent from, and the memory it arrives in. -/
structure Surroundings where
  junk : ℕ → UInt8
  beyond : ℕ → UInt8
  heap : ℕ → List UInt8

/-- The memory of a receiver. -/
def arrivesIn (e : Encoded) (x : Surroundings) : Option Memory :=
  (e.transmitted x.junk).map fun wire => Memory.ofBytes wire x.beyond x.heap

/-- The servlet of a machine: what it replies to a message that it hands to the handler. -/
def StatHandler.serve (s : StatHandler) (env : StatEnv s) (e : Encoded) (x : Surroundings) : Option Encoded :=
  (e.transmitted x.junk).bind fun wire =>
    if (servlet wire x.beyond x.heap).outcome = .dispatched s.msgType then
      s.processMsg env (Memory.ofBytes wire x.beyond x.heap)
    else none

/-- A station: how it answers a request.  If there is no reply, the buffer of the asking machine stays as it is. -/
def StatHandler.station (s : StatHandler) (sta : StatEnv s) (there back : Surroundings) (silent : Memory) :
    Encoded → Answer := fun e =>
  match (s.serve sta e there).bind fun r => (arrivesIn r back).map fun m => (⟨r.bufLen, m⟩ : Answer) with
  | some answer => answer
  | none => ⟨0, silent⟩

/-! ## Members -/

namespace MsgFields

variable {c : FlatCodec} {v : MsgFields c} {f g : MsgField} {k : FieldKind}

/-- The string of a member is the one that is read. -/
lemma strOf_eq_get (v : MsgFields c) (f : MsgField) : (c.kind f).strOf (v f) = v.get f .str := by
  unfold get
  generalize v f = x
  generalize c.kind f = k' at x
  split
  · rename_i hk
    subst hk
    rfl
  · rename_i hk
    cases k' with
    | str => exact absurd rfl hk
    | _ => rfl

lemma set_ne (x : k.Value) (hg : g ≠ f) : v.set f k x g = v g := by
  unfold set
  split
  · exact Function.update_of_ne hg _ _
  · rfl

lemma get_set_self (hk : c.kind f = k) (x : k.Value) : (v.set f k x).get f k = x := by
  subst hk
  simp [get, set]

lemma get_congr {w : MsgFields c} (h : v f = w f) : v.get f k = w.get f k := by
  unfold get
  rw [h]

/-- A string arrives with the difference between a missing and an empty one lost. -/
lemma get_arrives {w : MsgFields c} (h : w f = (c.kind f).arrives (v f)) : w.get f .str = nullIfEmpty (v.get f .str) := by
  unfold get
  rw [h]
  generalize v f = x
  generalize c.kind f = k' at x
  split
  · rename_i hk
    subst hk
    rfl
  · rfl

end MsgFields

/-! ## One message -/

namespace StatHandler

/-- What the proofs use of the handlers. -/
structure Regular (s : StatHandler) : Prop where
  codec : s.codec ∈ FlatCodec.all
  staIp : s.codec.kind .staIp = .str ∧ .staIp ∈ s.codec.encode
  staPort : s.codec.kind .staPort = .int ∧ .staPort ∈ s.codec.encode
  intfName : s.codec.kind .intfName = .str → .intfName ∈ s.codec.encode
  value : s.value ∈ s.codec.encode ∧ s.codec.kind s.value ≠ .str ∧ s.value ≠ .staIp ∧ s.value ≠ .staPort ∧
    s.value ≠ .intfName
  strings : ∀ f ∈ s.codec.encode, s.codec.kind f = .str → f = .intfName ∨ f = .staIp
  dispatched : servletCase s.msgType.code = some s.msgType

lemma regular_of_mem {s : StatHandler} (hs : s ∈ StatHandler.all) : s.Regular := by
  have hall : ∀ s ∈ StatHandler.all, s.codec ∈ FlatCodec.all ∧
      (s.codec.kind .staIp = .str ∧ .staIp ∈ s.codec.encode) ∧
      (s.codec.kind .staPort = .int ∧ .staPort ∈ s.codec.encode) ∧
      (s.codec.kind .intfName = .str → .intfName ∈ s.codec.encode) ∧
      (s.value ∈ s.codec.encode ∧ s.codec.kind s.value ≠ .str ∧ s.value ≠ .staIp ∧ s.value ≠ .staPort ∧
        s.value ≠ .intfName) ∧
      (∀ f ∈ s.codec.encode, s.codec.kind f = .str → f = .intfName ∨ f = .staIp) ∧
      servletCase s.msgType.code = some s.msgType := by
    decide +kernel
  obtain ⟨hcodec, hip, hport, hname, hvalue, hstrings, hdispatched⟩ := hall s hs
  exact ⟨hcodec, hip, hport, hname, hvalue, hstrings, hdispatched⟩

variable {s : StatHandler} {h h' : FlatMsg s.codec}

/-- The strings of these messages are the name of the interface and that of the station. -/
lemma Regular.fullSize_le (hs : s.Regular)
    (hname : strLen (h'.field.get .intfName .str) ≤ strLen (h.field.get .intfName .str))
    (hip : strLen (h'.field.get .staIp .str) ≤ strLen (h.field.get .staIp .str)) :
    s.codec.fullSize h' ≤ s.codec.fullSize h := by
  refine (FlatCodec.coherent_of_mem hs.codec).fullSize_le fun f hf => ?_
  rw [MsgFields.strOf_eq_get, MsgFields.strOf_eq_get]
  by_cases hk : s.codec.kind f = .str
  · rcases hs.strings f hf hk with rfl | rfl
    · exact hname
    · exact hip
  · simp [MsgFields.get, hk, FieldKind.zero]

lemma strLen_nullIfEmpty (t : Option CString) : strLen (nullIfEmpty t) = strLen t := by
  rcases t with _ | t
  · rfl
  · by_cases ht : t.chars = []
    · simp [nullIfEmpty, ht]
    · simp [nullIfEmpty, ht]

lemma nullIfEmpty_idem (t : Option CString) : nullIfEmpty (nullIfEmpty t) = nullIfEmpty t := by
  rcases t with _ | t
  · rfl
  · by_cases ht : t.chars = []
    · simp [nullIfEmpty, ht]
    · simp [nullIfEmpty, ht]

lemma arrives_idem (k : FieldKind) (v : k.Value) : k.arrives (k.arrives v) = k.arrives v := by
  cases k with
  | str => exact nullIfEmpty_idem v
  | _ => rfl

/-- A member that arrived. -/
lemma arrived_get (h : FlatMsg s.codec) (fresh : MsgFields s.codec) {f : MsgField} (hf : f ∈ s.codec.encode) :
    (s.codec.arrived h fresh).field.get f .str = nullIfEmpty (h.field.get f .str) :=
  MsgFields.get_arrives (if_pos hf)

/-- The name of an interface that arrived, or `NULL` if the message has none. -/
lemma Regular.arrived_intfName (hs : s.Regular) (h : FlatMsg s.codec) (fresh : MsgFields s.codec) :
    (s.codec.arrived h fresh).field.get .intfName .str = nullIfEmpty (h.field.get .intfName .str) := by
  by_cases hk : s.codec.kind .intfName = .str
  · exact arrived_get h fresh (hs.intfName hk)
  · simp [MsgFields.get, hk, FieldKind.zero, nullIfEmpty]

/-- The handler gets what was encoded. -/
lemma Regular.serve_encodeMsg (hs : s.Regular) (env : StatEnv s) (htype : h.mType = s.msgType.code)
    (hv : h.pVersion = some ethanolVersion) (hsize : s.codec.fullSize h < 2 ^ 31) (x : Surroundings) :
    s.serve env (s.codec.encodeMsg h) x = (s.answer env (s.codec.arrived h env.fresh)).map s.codec.encodeMsg := by
  obtain ⟨rest, hwire⟩ := FlatCodec.transmitted_msg hs.codec hv hsize x.junk
  have hne : (s.codec.msgBytes h ++ rest).length ≠ 0 := by
    simp [FlatCodec.msgBytes]
  have hout : (servlet (s.codec.msgBytes h ++ rest) x.beyond x.heap).outcome = .dispatched s.msgType := by
    simp only [servlet, if_neg hne, FlatCodec.decodeHeader_msgBytes, if_true, htype, hs.dispatched]
  rw [serve, hwire, Option.bind_some, if_pos hout, processMsg, FlatCodec.decodeMsg_msgBytes hs.codec hsize]

/-! ## The station -/

/-- A message without the name of an interface. -/
lemma get_intfName_of_ne (hk : s.codec.kind .intfName ≠ .str) (v : MsgFields s.codec) : v.get .intfName .str = none := by
  simp [MsgFields.get, hk, FieldKind.zero]

/-- The strings of a request. -/
lemma Regular.request_get (hs : s.Regular) (env : StatEnv s) (mId : Int32) {intfName : Option CString}
    (hname : s.codec.kind .intfName ≠ .str → intfName = none) (staIp : Option CString) (staPort : Int32) :
    (s.request env mId intfName staIp staPort).field.get .intfName .str = intfName ∧
      (s.request env mId intfName staIp staPort).field.get .staIp .str = staIp := by
  have hvalue (f : MsgField) (hf : f ≠ s.value) : (s.request env mId intfName staIp staPort).field f =
      (((env.fresh.set .intfName .str intfName).set .staIp .str staIp).set .staPort .int staPort) f := by
    unfold request
    dsimp only
    split
    · exact Function.update_of_ne hf _ _
    · rfl
  constructor
  · by_cases hk : s.codec.kind .intfName = .str
    · rw [MsgFields.get_congr (hvalue .intfName hs.value.2.2.2.2.symm), MsgFields.get_congr (MsgFields.set_ne _ (by decide)),
        MsgFields.get_congr (MsgFields.set_ne _ (by decide)), MsgFields.get_set_self hk]
    · rw [get_intfName_of_ne hk, hname hk]
  · rw [MsgFields.get_congr (hvalue .staIp hs.value.2.2.1.symm), MsgFields.get_congr (MsgFields.set_ne _ (by decide)),
      MsgFields.get_set_self hs.staIp.1]

/-- A station answers a request with its reading. -/
lemma Regular.station_answer (hs : s.Regular) (sta : StatEnv s) (hsta : h.field.get .staIp .str = none)
    {reading : (s.codec.kind s.value).Value} (hreading : sta.reading (nullIfEmpty (h.field.get .intfName .str)) = some reading) :
    ∃ r, s.answer sta (s.codec.arrived h sta.fresh) = some r ∧ r.mType = h.mType ∧ r.pVersion = some ethanolVersion ∧
      r.field s.value = reading ∧ r.field.get .intfName .str = nullIfEmpty (h.field.get .intfName .str) ∧
      r.field.get .staIp .str = none := by
  have hip : (s.codec.arrived h sta.fresh).field.get .staIp .str = none := by
    rw [arrived_get h sta.fresh hs.staIp.2, hsta]
    rfl
  have hname := hs.arrived_intfName h sta.fresh
  have hanswer : s.answer sta (s.codec.arrived h sta.fresh) = some { s.codec.arrived h sta.fresh with
      field := Function.update (if s.clearsPort then (s.codec.arrived h sta.fresh).field.set .staPort .int 0
        else (s.codec.arrived h sta.fresh).field) s.value reading } := by
    simp only [answer, hip, hname, hreading, Option.map_some]
  refine ⟨_, hanswer, rfl, rfl, Function.update_self _ _ _, ?_, ?_⟩
  · rw [MsgFields.get_congr (Function.update_of_ne hs.value.2.2.2.2.symm _ _)]
    split
    · rw [MsgFields.get_congr (MsgFields.set_ne _ (by decide)), hname]
    · exact hname
  · rw [MsgFields.get_congr (Function.update_of_ne hs.value.2.2.1.symm _ _)]
    split
    · rw [MsgFields.get_congr (MsgFields.set_ne _ (by decide)), hip]
    · exact hip

/-- What the asking machine finds in its buffer. -/
lemma Regular.station_buf (hs : s.Regular) (sta : StatEnv s) (there back : Surroundings) (silent : Memory)
    (htype : h.mType = s.msgType.code) (hv : h.pVersion = some ethanolVersion) (hsize : s.codec.fullSize h < 2 ^ 31)
    (hsta : h.field.get .staIp .str = none)
    {reading : (s.codec.kind s.value).Value} (hreading : sta.reading (nullIfEmpty (h.field.get .intfName .str)) = some reading) :
    returnMessageType (s.station sta there back silent (s.codec.encodeMsg h)).buf = s.msgType.code ∧
      ∀ fresh, (s.codec.decodeMsg fresh (s.station sta there back silent (s.codec.encodeMsg h)).buf Cursor.start).1.field
        s.value = reading := by
  obtain ⟨r, hr, hrtype, hrv, hrvalue, hrname, hrip⟩ := hs.station_answer sta hsta hreading
  have hrsize : s.codec.fullSize r < 2 ^ 31 := by
    refine lt_of_le_of_lt (hs.fullSize_le ?_ ?_) hsize
    · rw [hrname, strLen_nullIfEmpty]
    · rw [hrip, hsta]
  obtain ⟨rest, hwire⟩ := FlatCodec.transmitted_msg hs.codec hrv hrsize back.junk
  have hserve := hs.serve_encodeMsg sta htype hv hsize there
  rw [hr, Option.map_some] at hserve
  simp only [station, hserve, Option.bind_some, arrivesIn, hwire, Option.map_some]
  constructor
  · have hheader := congrArg Header.mType (FlatCodec.decodeHeader_msgBytes r rest back.beyond back.heap)
    exact hheader.trans (hrtype.trans htype)
  · intro fresh
    rw [FlatCodec.decodeMsg_msgBytes hs.codec hrsize]
    have harrived : (s.codec.arrived r fresh).field s.value = (s.codec.kind s.value).arrives (r.field s.value) :=
      if_pos hs.value.1
    rw [harrived, FieldKind.arrives_of_ne hs.value.2.1, hrvalue]

/-! ## The access point -/

/-- What the relay brings back from a station. -/
lemma Regular.sendMsg_station (hs : s.Regular) {ap sta : StatEnv s} {ip : CString} {port id : Int32}
    {there back : Surroundings} {silent : Memory} (hnet : ap.net ip port = some (s.station sta there back silent))
    {intfName : Option CString} (hname : s.codec.kind .intfName ≠ .str → intfName = none)
    (hnull : nullIfEmpty intfName = intfName)
    (hsize : s.codec.fullSize (s.request ap id intfName none 0) < 2 ^ 31)
    {reading : (s.codec.kind s.value).Value} (hreading : sta.reading intfName = some reading) :
    (s.nameRequired ∧ intfName.isNone → s.sendMsg ap ip port id intfName none 0 = (none, id)) ∧
      (¬(s.nameRequired ∧ intfName.isNone) → ∃ h1, s.sendMsg ap ip port id intfName none 0 = (some h1, id + 1) ∧
        h1.field s.value = reading) := by
  constructor
  · intro hrequired
    exact if_pos hrequired
  · intro hrequired
    obtain ⟨hreqname, hreqip⟩ := hs.request_get ap id hname none 0
    obtain ⟨htype, hvalue⟩ := hs.station_buf sta there back silent (h := s.request ap id intfName none 0) rfl rfl hsize hreqip
      (by rw [hreqname, hnull, hreading])
    refine ⟨_, ?_, hvalue ap.fresh⟩
    simp only [sendMsg, if_neg hrequired, exchange, hnet, htype, if_true]

/-- The message that the access point answers with. -/
lemma Regular.relay_answer (hs : s.Regular) {ap sta : StatEnv s} (hsize : s.codec.fullSize h < 2 ^ 31)
    {ip : CString} (hip : h.field.get .staIp .str = some ip) (hne : ip.chars ≠ [])
    {there back : Surroundings} {silent : Memory}
    (hnet : ap.net ip (h.field.get .staPort .int) = some (s.station sta there back silent))
    {reading : (s.codec.kind s.value).Value} (hreading : sta.reading (nullIfEmpty (h.field.get .intfName .str)) = some reading)
    {unnamed : Prop} [Decidable unnamed]
    (hunnamed : unnamed ↔ s.nameRequired ∧ (nullIfEmpty (h.field.get .intfName .str)).isNone) :
    ∃ mSize, s.answer ap (s.codec.arrived h ap.fresh) = some
      { mType := h.mType
        mId := if s.sharesId ∧ ¬unnamed then h.mId + 1 else h.mId
        pVersion := some ethanolVersion
        mSize
        field := Function.update (s.codec.arrived h ap.fresh).field s.value
          (if unnamed then h.field s.value else reading) } := by
  have hip₁ : (s.codec.arrived h ap.fresh).field.get .staIp .str = some ip := by
    rw [arrived_get h ap.fresh hs.staIp.2, hip, nullIfEmpty, if_neg hne]
  have hname₁ := hs.arrived_intfName h ap.fresh
  have hport₁ : (s.codec.arrived h ap.fresh).field.get .staPort .int = h.field.get .staPort .int := by
    have hport : (s.codec.arrived h ap.fresh).field .staPort = h.field .staPort := by
      refine (if_pos hs.staPort.2).trans (FieldKind.arrives_of_ne ?_ _)
      rw [hs.staPort.1]
      decide
    exact MsgFields.get_congr hport
  have hvalue₁ : (s.codec.arrived h ap.fresh).field s.value = h.field s.value :=
    (if_pos hs.value.1).trans (FieldKind.arrives_of_ne hs.value.2.1 _)
  have hnone (hk : s.codec.kind .intfName ≠ .str) : nullIfEmpty (h.field.get .intfName .str) = none := by
    rw [get_intfName_of_ne hk]
    rfl
  have hreqsize : s.codec.fullSize (s.request ap h.mId (nullIfEmpty (h.field.get .intfName .str)) none 0) < 2 ^ 31 := by
    obtain ⟨hreqname, hreqip⟩ := hs.request_get ap h.mId hnone none 0
    refine lt_of_le_of_lt (hs.fullSize_le ?_ ?_) hsize
    · rw [hreqname, strLen_nullIfEmpty]
    · rw [hreqip]
      exact Nat.zero_le _
  obtain ⟨hno, hyes⟩ := hs.sendMsg_station hnet hnone (nullIfEmpty_idem _) hreqsize hreading
  refine ⟨s.codec.sizeMsg h, ?_⟩
  by_cases hun : unnamed
  · have hsent : s.sendMsg ap ip (h.field.get .staPort .int) (s.codec.arrived h ap.fresh).mId
        (nullIfEmpty (h.field.get .intfName .str)) none 0 = (none, h.mId) := hno (hunnamed.mp hun)
    have hfield : Function.update (s.codec.arrived h ap.fresh).field s.value (h.field s.value) =
        (s.codec.arrived h ap.fresh).field := by
      rw [← hvalue₁, Function.update_eq_self]
    simp only [answer, hip₁, hname₁, hport₁, hsent, hun, if_true, not_true, and_false, if_false, hfield]
    split <;> rfl
  · obtain ⟨h1, hsent', hh1⟩ := hyes fun hrequired => hun (hunnamed.mpr hrequired)
    have hsent : s.sendMsg ap ip (h.field.get .staPort .int) (s.codec.arrived h ap.fresh).mId
        (nullIfEmpty (h.field.get .intfName .str)) none 0 = (some h1, h.mId + 1) := hsent'
    simp only [answer, hip₁, hname₁, hport₁, hsent, hun, if_false, not_false_eq_true, and_true, hh1]
    split <;> rfl

end StatHandler

namespace SnrRelay

/-- A cleared structure. -/
def cleared : MsgFields FlatCodec.msgSnr := fun _ => FieldKind.zero _

/-- Memory that is full of one byte. -/
def filled (b : UInt8) : Surroundings := ⟨fun _ => b, fun _ => b, fun _ => []⟩

def sta : StatEnv .msgSnr := ⟨fun _ _ => none, fun _ => some (40 : Int64), cleared⟩

def ap : StatEnv .msgSnr :=
  ⟨fun _ _ => some (StatHandler.msgSnr.station sta (filled 7) (filled 8) ⟨fun _ => 0, fun _ => []⟩), fun _ => none, cleared⟩

def request : FlatMsg FlatCodec.msgSnr :=
  ⟨EnumMsgType.msgGetSnr.code, 3, some ethanolVersion, 0, cleared.set .staIp .str (some ⟨[49], by decide⟩)⟩

end SnrRelay

end Ethanol
