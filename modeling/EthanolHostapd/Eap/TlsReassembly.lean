import EthanolHostapd.Eap.TlsCommon
import EthanolHostapd.Traces.Run

/-!
# Reassembly of TLS messages in the server

What `eap_server_tls_common.c` hands to the TLS library, for whatever packets a peer sends.  The server ends a message at
the first packet without the flag for more fragments; the length that the first packet announced only bounds it.  The peer
waits for that number of bytes.
-/

namespace Ethanol

open Wire Trace

/-- A packet behind its EAP header. -/
structure EapTlsPacket where
  flags : UInt8
  pos : List UInt8

namespace EapTlsPacket

/-- The length that is announced. -/
def announced (packet : EapTlsPacket) : Option ℕ :=
  if packet.flags &&& eapTlsFlagsLengthIncluded ≠ 0 then some (beNat (packet.pos.take 4)) else none

/-- What follows the flags and the length. -/
def payload (packet : EapTlsPacket) : List UInt8 :=
  if packet.flags &&& eapTlsFlagsLengthIncluded ≠ 0 then packet.pos.drop 4 else packet.pos

/-- More fragments are to follow. -/
def More (packet : EapTlsPacket) : Prop := packet.flags &&& eapTlsFlagsMoreFragments ≠ 0

/-- A length that is announced is there, and is not smaller than the payload. -/
def LengthOk (packet : EapTlsPacket) : Prop :=
  ∀ total, packet.announced = some total → 4 ≤ packet.pos.length ∧ packet.payload.length ≤ total

/-- The packet in a message with a valid header. -/
def ofMsg (method : EapTlsMethod) (respData : List UInt8) : Option EapTlsPacket :=
  match eapTlsHdrValidate method.type respData with
  | some (flags :: pos) => some ⟨flags, pos⟩
  | _ => none

end EapTlsPacket

/-! ## A run of the server -/

/-- What happens to the TLS data of a method. -/
inductive EapServerTlsEvent
  /-- `eap_server_tls_process`.  A method with a version may refuse the one of the peer. -/
  | respData (respData : List UInt8) (versionRefused : Bool)
  /-- The TLS library has something to send. -/
  | output (tlsOut : List UInt8)
  /-- The method builds its next request: an acknowledgement if it waits for fragments. -/
  | buildReq (id : UInt8)

/-- The server, the packets since its buffer was last empty, and the messages that were passed to the TLS library with
the packets they came from. -/
structure EapServerTls where
  data : EapServerSsl
  since : List EapTlsPacket
  passed : List (List EapTlsPacket × List UInt8)

namespace EapServerTls

/-- One event. -/
def next (method : EapTlsMethod) (tls : EapServerTls) : EapServerTlsEvent → Option EapServerTls
  | .respData respData versionRefused =>
    match EapTlsPacket.ofMsg method respData with
    | none => some tls
    | some packet =>
      if versionRefused then some tls
      else
        let since := if tls.data.tlsIn.isSome then tls.since ++ [packet] else [packet]
        match tls.data.process method respData with
        | (data, .complete msg) => some ⟨data, since, tls.passed ++ [(since, msg)]⟩
        | (data, _) => some ⟨data, since, tls.passed⟩
  | .output tlsOut => some { tls with data := { tls.data with tlsOut := some tlsOut, tlsOutPos := 0 } }
  | .buildReq id =>
    if tls.data.state = .fragAck then some tls
    else some { tls with data := ((tls.data.buildMsg method id).map Prod.snd).getD tls.data }

/-- The server after `eap_server_tls_ssl_init`. -/
def init (tlsOutLimit : ℕ) : EapServerTls := ⟨⟨none, 0, tlsOutLimit, none, .msg⟩, [], []⟩

/-- The length that the first packet announced. -/
def announced (since : List EapTlsPacket) : Option ℕ := since.head?.bind EapTlsPacket.announced

/-- A message is made of the payloads, and it is as long as announced. -/
structure Whole (since : List EapTlsPacket) (msg : List UInt8) : Prop where
  payloads : msg = since.flatMap EapTlsPacket.payload
  length_eq : ∀ total, announced since = some total → msg.length = total

/-- The bytes of a message keep to the length announced, and to 65536 if it comes in fragments. -/
structure Bounded (since : List EapTlsPacket) (fragmented : Prop) (buf : List UInt8) : Prop where
  announced_le : ∀ total, announced since = some total → buf.length ≤ total
  le : fragmented → buf.length ≤ 65536

/-- Only whole messages have been passed on, and no buffer was too long. -/
structure Reassembled (tls : EapServerTls) : Prop where
  whole : ∀ since msg, (since, msg) ∈ tls.passed → Whole since msg
  bounded : ∀ since msg, (since, msg) ∈ tls.passed → Bounded since (1 < since.length) msg
  pending : ∀ tlsIn, tls.data.tlsIn = some tlsIn → Bounded tls.since True tlsIn.buf

/-- How many bytes of the announced length are missing before a packet. -/
def missing (tls : EapServerTls) (packet : EapTlsPacket) : ℕ :=
  match tls.data.tlsIn with
  | some tlsIn => tlsIn.tailroom
  | none => packet.announced.getD 0

/-- A packet that ends a message before its announced length is reached. -/
def EndsEarly (method : EapTlsMethod) (tls : EapServerTls) : EapServerTlsEvent → Prop
  | .respData respData versionRefused =>
    ∃ packet, EapTlsPacket.ofMsg method respData = some packet ∧ versionRefused = false ∧
      tls.data.state ≠ .waitFragAck ∧ packet.LengthOk ∧ ¬packet.More ∧ packet.payload.length < tls.missing packet
  | _ => False

end EapServerTls

/-! ## The reassembly -/

namespace EapServerSsl

variable {data data' : EapServerSsl} {packet : EapTlsPacket} {msg : List UInt8} {input : EapTlsInput}

/-- The length is taken off if it is there. -/
lemma reassemble_eq (data : EapServerSsl) (packet : EapTlsPacket) :
    (packet.LengthOk → data.reassemble packet.flags packet.pos =
      data.reassembleData packet.flags (packet.announced.getD 0) packet.payload) ∧
    (¬packet.LengthOk → data.reassemble packet.flags packet.pos = (data, .error)) := by
  unfold reassemble EapTlsPacket.LengthOk EapTlsPacket.announced EapTlsPacket.payload
  by_cases hli : packet.flags &&& eapTlsFlagsLengthIncluded ≠ 0
  · simp only [if_pos hli, Option.some.injEq, forall_eq', Option.getD_some]
    constructor
    · rintro ⟨hlen, hle⟩
      rw [if_neg (by omega), if_neg (by omega)]
    · intro hnot
      by_cases hlen : packet.pos.length < 4
      · rw [if_pos hlen]
      · rw [if_neg hlen, if_pos (by omega)]
  · simp only [if_neg hli, reduceCtorEq, IsEmpty.forall_iff, implies_true, not_true, Option.getD_none, true_and]

/-- The first fragment of a message needs a length, which is the size of the buffer. -/
lemma processFragment_none (hlen : packet.LengthOk) :
    processFragment none (packet.flags &&& eapTlsFlagsLengthIncluded ≠ 0) (packet.announced.getD 0) packet.payload =
      none ∨
    ∃ total, packet.announced = some total ∧ packet.payload.length ≤ total ∧ total ≤ 65536 ∧
      processFragment none (packet.flags &&& eapTlsFlagsLengthIncluded ≠ 0) (packet.announced.getD 0) packet.payload =
        some ⟨total, packet.payload⟩ := by
  by_cases hli : packet.flags &&& eapTlsFlagsLengthIncluded ≠ 0
  · have hannounced : packet.announced = some (beNat (packet.pos.take 4)) := if_pos hli
    have hle := (hlen _ hannounced).2
    rw [hannounced, Option.getD_some, decide_eq_true hli]
    unfold processFragment
    by_cases hbig : 65536 < beNat (packet.pos.take 4)
    · exact Or.inl (by simp [hbig])
    · refine Or.inr ⟨_, rfl, hle, by omega, ?_⟩
      simp [hbig, Nat.not_lt.mpr hle]
  · rw [decide_eq_false hli]
    exact Or.inl rfl

/-- How the buffer goes on if the message is not complete: it is freed, an acknowledgement without data leaves it as it
is, the payload is appended, or it starts a message. -/
def Continues (tlsIn tlsIn' : Option Wpabuf) (packet : EapTlsPacket) : Prop :=
  tlsIn' = none ∨ (tlsIn' = tlsIn ∧ packet.payload = []) ∨
    (∃ buf, tlsIn = some buf ∧ packet.payload.length ≤ buf.tailroom ∧
      tlsIn' = some { buf with buf := buf.buf ++ packet.payload }) ∨
    (tlsIn = none ∧ ∃ total, packet.announced = some total ∧ packet.payload.length ≤ total ∧ total ≤ 65536 ∧
      tlsIn' = some ⟨total, packet.payload⟩)

/-- What a packet completes. -/
def Completes (data : EapServerSsl) (packet : EapTlsPacket) (msg : List UInt8) : Prop :=
  packet.LengthOk ∧ data.state ≠ .waitFragAck ∧ ¬packet.More ∧
    ((data.tlsIn = none ∧ msg = packet.payload) ∨
      ∃ buf, data.tlsIn = some buf ∧ packet.payload.length ≤ buf.tailroom ∧ msg = buf.buf ++ packet.payload)

/-- Why a packet completes nothing. -/
def NotLast (data : EapServerSsl) (packet : EapTlsPacket) : Prop :=
  ¬packet.LengthOk ∨ data.state = .waitFragAck ∨ packet.More ∨
    ∃ buf, data.tlsIn = some buf ∧ buf.tailroom < packet.payload.length

/-- What a packet does to the buffer, and what is passed on. -/
lemma process_cases {method : EapTlsMethod} {respData : List UInt8} (data : EapServerSsl)
    (hpacket : EapTlsPacket.ofMsg method respData = some packet) :
    (∃ msg, (data.process method respData).2 = .complete msg ∧ (data.process method respData).1.tlsIn = none ∧
      data.Completes packet msg) ∨
    ((∀ msg, (data.process method respData).2 ≠ .complete msg) ∧ data.NotLast packet ∧
      Continues data.tlsIn (data.process method respData).1.tlsIn packet) := by
  -- only a fragment that is not the last one stays in the buffer
  obtain ⟨finish, hfinish⟩ : ∃ finish : EapServerSsl × EapTlsInput → EapServerSsl × EapTlsInput,
      finish = fun out => if out.2 = .more then out else ({ out.1 with tlsIn := none }, out.2) := ⟨_, rfl⟩
  have hprocess : data.process method respData = finish (data.reassemble packet.flags packet.pos) := by
    unfold EapTlsPacket.ofMsg at hpacket
    unfold process
    cases hhdr : eapTlsHdrValidate method.type respData with
    | none =>
      rw [hhdr] at hpacket
      cases hpacket
    | some msg =>
      rw [hhdr] at hpacket
      cases msg with
      | nil => cases hpacket
      | cons flags pos =>
        cases hpacket
        dsimp only
        rw [hfinish]
        cases data.reassemble flags pos with
        | mk data input => cases input <;> rfl
  rw [hprocess, hfinish]
  by_cases hlen : packet.LengthOk
  · rw [(reassemble_eq data packet).1 hlen]
    unfold reassembleData
    by_cases hwait : data.state = .waitFragAck
    · rw [if_pos hwait]
      by_cases hempty : packet.payload = []
      · rw [if_neg (not_not_intro hempty)]
        exact Or.inr ⟨(fun _ h => by cases h), Or.inr (Or.inl hwait), Or.inr (Or.inl ⟨rfl, hempty⟩)⟩
      · rw [if_pos hempty]
        exact Or.inr ⟨(fun _ h => by cases h), Or.inr (Or.inl hwait), Or.inl rfl⟩
    · rw [if_neg hwait]
      cases hin : data.tlsIn with
      | none =>
        simp only [Option.mapM_none, Option.pure_def]
        by_cases hmore : packet.flags &&& eapTlsFlagsMoreFragments ≠ 0
        · rw [if_pos hmore]
          rcases processFragment_none hlen with hfirst | ⟨total, hannounced, hle, hmax, hfirst⟩
          · rw [hfirst]
            exact Or.inr ⟨(fun _ h => by cases h), Or.inr (Or.inr (Or.inl hmore)), Or.inl rfl⟩
          · rw [hfirst]
            exact Or.inr ⟨(fun _ h => by cases h), Or.inr (Or.inr (Or.inl hmore)),
              Or.inr (Or.inr (Or.inr ⟨rfl, total, hannounced, hle, hmax, rfl⟩))⟩
        · rw [if_neg hmore]
          refine Or.inl ⟨packet.payload, ?_, rfl, hlen, hwait, hmore, Or.inl ⟨hin, rfl⟩⟩
          by_cases hstate : data.state = .fragAck <;> simp [hstate]
      | some buf =>
        simp only [Option.mapM_some, processCont]
        by_cases hroom : buf.tailroom < packet.payload.length
        · rw [if_pos hroom]
          exact Or.inr ⟨(fun _ h => by cases h), Or.inr (Or.inr (Or.inr ⟨buf, hin, hroom⟩)), Or.inl rfl⟩
        · rw [if_neg hroom]
          simp only [Option.map_eq_map, Option.map_some]
          by_cases hmore : packet.flags &&& eapTlsFlagsMoreFragments ≠ 0
          · rw [if_pos hmore]
            exact Or.inr ⟨(fun _ h => by cases h), Or.inr (Or.inr (Or.inl hmore)),
              Or.inr (Or.inr (Or.inl ⟨buf, rfl, by omega, rfl⟩))⟩
          · rw [if_neg hmore]
            refine Or.inl ⟨buf.buf ++ packet.payload, ?_, rfl, hlen, hwait, hmore, Or.inr ⟨buf, hin, by omega, rfl⟩⟩
            by_cases hstate : data.state = .fragAck <;> simp [hstate]
  · rw [(reassemble_eq data packet).2 hlen]
    exact Or.inr ⟨(fun _ h => by cases h), Or.inl hlen, Or.inl rfl⟩

/-- The output leaves the input alone. -/
lemma buildMsg_tlsIn {method : EapTlsMethod} {id : UInt8} {req : List UInt8}
    (h : data.buildMsg method id = some (req, data')) : data'.tlsIn = data.tlsIn := by
  unfold buildMsg at h
  split at h
  · cases h
  · dsimp only at h
    split_ifs at h <;> rw [← (Prod.mk.inj (Option.some.inj h)).2]

end EapServerSsl

/-! ## Runs -/

namespace EapServerTls

variable {method : EapTlsMethod} {tls tls' : EapServerTls} {e : EapServerTlsEvent}

/-- The buffer holds the payloads since it was last empty, within the length that the first packet announced. -/
structure Sound (tls : EapServerTls) : Prop where
  tlsIn : ∀ buf, tls.data.tlsIn = some buf → buf.buf = tls.since.flatMap EapTlsPacket.payload ∧
    announced tls.since = some buf.size ∧ buf.buf.length ≤ buf.size ∧ buf.size ≤ 65536
  payloads : ∀ since msg, (since, msg) ∈ tls.passed → msg = since.flatMap EapTlsPacket.payload
  bounded : ∀ since msg, (since, msg) ∈ tls.passed → Bounded since (1 < since.length) msg

lemma sound_init (tlsOutLimit : ℕ) : (init tlsOutLimit).Sound := ⟨nofun, nofun, nofun⟩

/-- The lengths are as announced. -/
def Exact (tls : EapServerTls) : Prop :=
  ∀ since msg, (since, msg) ∈ tls.passed → ∀ total, announced since = some total → msg.length = total

lemma Sound.reassembled_iff_exact (h : tls.Sound) : tls.Reassembled ↔ tls.Exact := by
  constructor
  · exact fun hall since msg hmem => (hall.whole since msg hmem).length_eq
  · intro hexact
    refine ⟨fun since msg hmem => ⟨h.payloads since msg hmem, hexact since msg hmem⟩, h.bounded, fun buf hbuf => ?_⟩
    obtain ⟨-, hannounced, hle, hmax⟩ := h.tlsIn buf hbuf
    refine ⟨fun total htotal => ?_, fun _ => hle.trans hmax⟩
    rw [← Option.some.inj (hannounced.symm.trans htotal)]
    exact hle

section Packet

variable {packet : EapTlsPacket} {msg : List UInt8}

/-- The packets since the buffer was last empty, with one more. -/
def sinceWith (tls : EapServerTls) (packet : EapTlsPacket) : List EapTlsPacket :=
  if tls.data.tlsIn.isSome then tls.since ++ [packet] else [packet]

lemma sinceWith_none (hin : tls.data.tlsIn = none) (packet : EapTlsPacket) : tls.sinceWith packet = [packet] := by
  simp [sinceWith, hin]

/-- The payloads and the announced length with one more packet. -/
lemma Sound.sinceWith_some {buf : Wpabuf} (h : tls.Sound) (hin : tls.data.tlsIn = some buf) (packet : EapTlsPacket) :
    (tls.sinceWith packet).flatMap EapTlsPacket.payload = buf.buf ++ packet.payload ∧
      announced (tls.sinceWith packet) = some buf.size := by
  obtain ⟨hpayloads, hannounced, -⟩ := h.tlsIn buf hin
  have hsince : tls.sinceWith packet = tls.since ++ [packet] := by simp [sinceWith, hin]
  rw [hsince]
  refine ⟨by simp [hpayloads], ?_⟩
  -- the first packet is still the first
  cases hlist : tls.since with
  | nil =>
    rw [hlist] at hannounced
    cases hannounced
  | cons first rest =>
    rw [hlist] at hannounced
    exact hannounced

/-- A message that is passed on has the payloads, and is too short only if its last packet came early. -/
lemma Sound.completes (h : tls.Sound) (hcompletes : tls.data.Completes packet msg) :
    msg = (tls.sinceWith packet).flatMap EapTlsPacket.payload ∧
      Bounded (tls.sinceWith packet) (1 < (tls.sinceWith packet).length) msg ∧
      ((∀ total, announced (tls.sinceWith packet) = some total → msg.length = total) ↔
        ¬packet.payload.length < tls.missing packet) := by
  obtain ⟨hlen, -, -, ⟨hin, rfl⟩ | ⟨buf, hin, hroom, rfl⟩⟩ := hcompletes
  · rw [sinceWith_none hin]
    have hannounced : announced [packet] = packet.announced := Option.bind_some _ _
    refine ⟨by simp, ⟨fun total htotal => (hlen total (hannounced ▸ htotal)).2, fun hlt => ?_⟩, ?_⟩
    · exact absurd hlt (lt_irrefl 1)
    · rw [hannounced, missing, hin]
      cases hfirst : packet.announced with
      | none => simp
      | some total =>
        have hle := (hlen total hfirst).2
        simp only [Option.some.injEq, forall_eq', Option.getD_some]
        omega
  · obtain ⟨hpayloads, hannounced⟩ := h.sinceWith_some hin packet
    obtain ⟨-, -, hle, hmax⟩ := h.tlsIn buf hin
    have hlength : (buf.buf ++ packet.payload).length = buf.buf.length + packet.payload.length := List.length_append
    rw [Wpabuf.tailroom] at hroom
    refine ⟨hpayloads.symm, ⟨fun total htotal => ?_, fun _ => by omega⟩, ?_⟩
    · obtain rfl := Option.some.inj (hannounced.symm.trans htotal)
      omega
    · rw [hannounced, missing, hin]
      simp only [Option.some.injEq, forall_eq', Wpabuf.tailroom]
      omega

/-- The buffer after a packet that did not complete a message. -/
lemma Sound.continues {tlsIn : Option Wpabuf} (h : tls.Sound) (hcontinues : EapServerSsl.Continues tls.data.tlsIn tlsIn packet)
    (buf : Wpabuf) (hbuf : tlsIn = some buf) :
    buf.buf = (tls.sinceWith packet).flatMap EapTlsPacket.payload ∧ announced (tls.sinceWith packet) = some buf.size ∧
      buf.buf.length ≤ buf.size ∧ buf.size ≤ 65536 := by
  subst hbuf
  obtain hfree | ⟨hsame, hempty⟩ | ⟨buf', hin, hroom, hafter⟩ | ⟨hin, total, hannounced, hle, hmax, hafter⟩ := hcontinues
  · cases hfree
  · obtain ⟨hpayloads, hannounced⟩ := h.sinceWith_some hsame.symm packet
    obtain ⟨-, -, hle, hmax⟩ := h.tlsIn buf hsame.symm
    refine ⟨?_, hannounced, hle, hmax⟩
    rw [hpayloads, hempty, List.append_nil]
  · obtain rfl := Option.some.inj hafter
    obtain ⟨hpayloads, hannounced⟩ := h.sinceWith_some hin packet
    obtain ⟨-, -, hle, hmax⟩ := h.tlsIn buf' hin
    rw [Wpabuf.tailroom] at hroom
    have hlength : (buf'.buf ++ packet.payload).length ≤ buf'.size := by
      rw [List.length_append]
      omega
    exact ⟨hpayloads.symm, hannounced, hlength, hmax⟩
  · obtain rfl := Option.some.inj hafter
    rw [sinceWith_none hin]
    exact ⟨by simp, hannounced, hle, hmax⟩

end Packet

/-- One event: the lengths stay as announced unless a message is ended early. -/
lemma Sound.next (h : tls.Sound) (hnext : next method tls e = some tls') :
    tls'.Sound ∧ (tls'.Exact ↔ tls.Exact ∧ ¬tls.EndsEarly method e) := by
  have hsame (data : EapServerSsl) (hin : data.tlsIn = tls.data.tlsIn) :
      ({ tls with data := data } : EapServerTls).Sound := by
    refine ⟨fun buf hbuf => h.tlsIn buf (hin ▸ hbuf), h.payloads, h.bounded⟩
  cases e with
  | output tlsOut =>
    obtain rfl := Option.some.inj hnext
    exact ⟨hsame _ rfl, (and_iff_left not_false).symm⟩
  | buildReq id =>
    rw [EapServerTls.next] at hnext
    split at hnext
    · obtain rfl := Option.some.inj hnext
      exact ⟨h, (and_iff_left not_false).symm⟩
    · obtain rfl := Option.some.inj hnext
      refine ⟨hsame _ ?_, (and_iff_left not_false).symm⟩
      cases hreq : tls.data.buildMsg method id with
      | none => rfl
      | some req => exact EapServerSsl.buildMsg_tlsIn hreq
  | respData respData versionRefused =>
    rw [EapServerTls.next] at hnext
    cases hpacket : EapTlsPacket.ofMsg method respData with
    | none =>
      have hnot : ¬tls.EndsEarly method (.respData respData versionRefused) := by
        rintro ⟨packet, hsome, -⟩
        cases hpacket.symm.trans hsome
      rw [hpacket] at hnext
      obtain rfl := Option.some.inj hnext
      exact ⟨h, (and_iff_left hnot).symm⟩
    | some packet =>
      rw [hpacket] at hnext
      dsimp only at hnext
      cases versionRefused with
      | true =>
        have hnot : ¬tls.EndsEarly method (.respData respData true) := by
          rintro ⟨-, -, hfalse, -⟩
          cases hfalse
        obtain rfl := Option.some.inj hnext
        exact ⟨h, (and_iff_left hnot).symm⟩
      | false =>
        have hearly : tls.EndsEarly method (.respData respData false) ↔ tls.data.state ≠ .waitFragAck ∧ packet.LengthOk ∧
            ¬packet.More ∧ packet.payload.length < tls.missing packet := by
          simp [EndsEarly, hpacket]
        rw [hearly]
        obtain ⟨msg, hmsg, hfree, hcompletes⟩ | ⟨hmsg, hnotLast, hcontinues⟩ :=
          EapServerSsl.process_cases tls.data hpacket
        · -- a message is passed on
          obtain ⟨hpayloads, hbounded, hexact⟩ := h.completes hcompletes
          have hafter : tls' = ⟨(tls.data.process method respData).1, tls.sinceWith packet,
              tls.passed ++ [(tls.sinceWith packet, msg)]⟩ := by
            rw [if_neg Bool.false_ne_true] at hnext
            generalize tls.data.process method respData = result at hmsg hnext
            obtain ⟨data, input⟩ := result
            obtain rfl : input = .complete msg := hmsg
            exact (Option.some.inj hnext).symm
          subst hafter
          refine ⟨⟨fun buf hbuf => ?_, fun since msg' hmem => ?_, fun since msg' hmem => ?_⟩, ?_⟩
          · exact absurd (hfree.symm.trans hbuf) nofun
          · rcases List.mem_append.mp hmem with hold | hlast
            · exact h.payloads since msg' hold
            · obtain ⟨rfl, rfl⟩ := Prod.mk.inj (List.mem_singleton.mp hlast)
              exact hpayloads
          · rcases List.mem_append.mp hmem with hold | hlast
            · exact h.bounded since msg' hold
            · obtain ⟨rfl, rfl⟩ := Prod.mk.inj (List.mem_singleton.mp hlast)
              exact hbounded
          · have hnot : ¬(tls.data.state ≠ .waitFragAck ∧ packet.LengthOk ∧ ¬packet.More ∧
                packet.payload.length < tls.missing packet) ↔ ¬packet.payload.length < tls.missing packet := by
              obtain ⟨hlen, hwait, hmore, -⟩ := hcompletes
              tauto
            rw [hnot, ← hexact]
            unfold Exact
            constructor
            · exact fun hall => ⟨fun since msg' hold => hall since msg' (List.mem_append_left _ hold),
                hall _ _ (List.mem_append_right _ (List.mem_singleton_self _))⟩
            · rintro ⟨hold, hlast⟩ since msg' hmem
              rcases List.mem_append.mp hmem with hmem | hmem
              · exact hold since msg' hmem
              · obtain ⟨rfl, rfl⟩ := Prod.mk.inj (List.mem_singleton.mp hmem)
                exact hlast
        · -- nothing is passed on
          have hafter : tls' = ⟨(tls.data.process method respData).1, tls.sinceWith packet, tls.passed⟩ := by
            rw [if_neg Bool.false_ne_true] at hnext
            generalize tls.data.process method respData = result at hmsg hnext
            obtain ⟨data, input⟩ := result
            cases input with
            | complete msg => exact absurd rfl (hmsg msg)
            | ignored => exact (Option.some.inj hnext).symm
            | error => exact (Option.some.inj hnext).symm
            | more => exact (Option.some.inj hnext).symm
          subst hafter
          refine ⟨⟨fun buf hbuf => h.continues hcontinues buf hbuf, h.payloads, h.bounded⟩, (and_iff_left ?_).symm⟩
          rintro ⟨hwait, hlen, hmore, hlt⟩
          rcases hnotLast with hnot | hstate | hmore' | ⟨buf, hin, hroom⟩
          · exact hnot hlen
          · exact hwait hstate
          · exact hmore hmore'
          · rw [missing, hin] at hlt
            exact absurd hlt (Nat.lt_asymm hroom)

end EapServerTls

/-- In a run of the server all messages that are passed to the TLS library are whole, with the length announced in their
first packet, if and only if no packet without the flag for more fragments comes while bytes of that length are missing
behind it.  Lengths over the announced one or over 65536 bytes of fragments never occur. -/
theorem EapServerTls.reassembled_iff {method : EapTlsMethod} {tlsOutLimit : ℕ} {es : List EapServerTlsEvent}
    {tls : EapServerTls} (hrun : Run (next method) (init tlsOutLimit) es tls) :
    tls.Reassembled ↔ RunWith (next method) (fun tls e => ¬tls.EndsEarly method e) (init tlsOutLimit) es tls := by
  have hsound : tls.Sound := hrun.invariant (sound_init tlsOutLimit) fun _ _ _ h hnext => (h.next hnext).1
  rw [hsound.reassembled_iff_exact]
  exact hrun.iff_runWith (J := Sound) nofun (sound_init tlsOutLimit) fun _ _ _ h hnext => h.next hnext

/-- Five bytes in two fragments. -/
theorem EapServerTls.reassembled_iff_twoFragments :
    let method : EapTlsMethod := ⟨13, 0⟩
    let es := [EapServerTlsEvent.respData (eapTlsMsg method eapCodeResponse 1 true true 5 [1, 2, 3]) false,
      .buildReq 2, .respData (eapTlsMsg method eapCodeResponse 2 false false 0 [4, 5]) false]
    ∃ tls, Run (next method) (init 1398) es tls ∧
      tls.passed.map (fun passed => (announced passed.1, passed.2)) = [(some 5, [1, 2, 3, 4, 5])] ∧
      (tls.Reassembled ↔ RunWith (next method) (fun tls e => ¬tls.EndsEarly method e) (init 1398) es tls) := by
  intro method es
  have hexec : (exec (next method) (init 1398) es).map (fun tls => tls.passed.map fun passed =>
      (announced passed.1, passed.2)) = some [(some 5, [1, 2, 3, 4, 5])] := by decide +kernel
  obtain ⟨tls, htls, hpassed⟩ := Option.map_eq_some_iff.mp hexec
  have hrun : Run (next method) (init 1398) es tls := run_iff_exec.mpr htls
  exact ⟨tls, hrun, hpassed, reassembled_iff hrun⟩

/-- The first fragment announces ten bytes, and the packet behind it is the last one: the TLS library gets five bytes. -/
theorem EapServerTls.short_passed :
    let method : EapTlsMethod := ⟨13, 0⟩
    let es := [EapServerTlsEvent.respData (eapTlsMsg method eapCodeResponse 1 true true 10 [1, 2, 3]) false,
      .buildReq 2, .respData (eapTlsMsg method eapCodeResponse 2 false false 0 [4, 5]) false]
    ∃ tls, Run (next method) (init 1398) es tls ∧
      tls.passed.map (fun passed => (announced passed.1, passed.2)) = [(some 10, [1, 2, 3, 4, 5])] ∧
      ¬tls.Reassembled := by
  intro method es
  have hexec : (exec (next method) (init 1398) es).map (fun tls => tls.passed.map fun passed =>
      (announced passed.1, passed.2)) = some [(some 10, [1, 2, 3, 4, 5])] := by decide +kernel
  obtain ⟨tls, htls, hpassed⟩ := Option.map_eq_some_iff.mp hexec
  refine ⟨tls, run_iff_exec.mpr htls, hpassed, fun h => ?_⟩
  have hmem : (some 10, [1, 2, 3, 4, 5]) ∈ tls.passed.map fun passed => (announced passed.1, passed.2) := by
    rw [hpassed]
    exact List.mem_singleton_self _
  obtain ⟨⟨since, msg⟩, hmem, heq⟩ := List.mem_map.mp hmem
  obtain ⟨hannounced, rfl⟩ := Prod.mk.inj heq
  have hlength := (h.whole since _ hmem).length_eq 10 hannounced
  cases hlength

end Ethanol
