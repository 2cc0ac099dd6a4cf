import EthanolHostapd.Eap.TlsCommon
import EthanolHostapd.Traces.Rounds

/-!
# The exchange of a TLS message

A sender goes through a message fragment by fragment, and the receiver appends them.  In both directions the
position of the sender is the number of bytes that the receiver has, which is what `At` says; a step moves it on,
and the step to the end of the message delivers it.
-/

namespace Ethanol

open Wire Trace

/-! ## From the server to the peer -/

/-- The server sends a message, and the peer acknowledges each fragment that is not the last one. -/
structure EapServerLink where
  server : EapServerSsl
  peer : EapPeerSsl
  /-- What the server has sent. -/
  sent : List (List UInt8)
  /-- The messages that the peer has got to the end of. -/
  delivered : List (List UInt8)

namespace EapServerLink

/-- A request of the server, and what comes of it.  There is no next state if the peer does not go on. -/
def next (method : EapTlsMethod) (link : EapServerLink) (id : UInt8) : Option EapServerLink := do
  let (req, server) ← link.server.buildMsg method id
  match link.peer.receive method req with
  | (peer, .complete msg) => return ⟨server, peer, link.sent ++ [req], link.delivered ++ [msg]⟩
  | (peer, .more) =>
    match server.process method (EapPeerSsl.buildAck method id) with
    | (server, .more) => return ⟨server, peer, link.sent ++ [req], link.delivered⟩
    | _ => none
  | _ => none

/-- A message is to be sent. -/
def init (server : EapServerSsl) (peer : EapPeerSsl) (msg : List UInt8) : EapServerLink where
  server := { server with tlsOut := some msg, tlsOutPos := 0 }
  peer := peer
  sent := []
  delivered := []

variable {method : EapTlsMethod} {msg : List UInt8} {limit : ℕ}

/-- The data in the fragment from that position on. -/
def fragment (msg : List UInt8) (limit pos : ℕ) : ℕ :=
  if limit < 1 + (msg.length - pos) then if pos = 0 then limit - 5 else limit - 1 else msg.length - pos

section Fragment

variable {pos : ℕ}

lemma fragment_pos (hlimit : 6 ≤ limit) (hpos : pos < msg.length) : 0 < fragment msg limit pos := by
  unfold fragment
  split_ifs <;> omega

/-- More fragments follow if and only if the rest does not fit. -/
lemma fragment_more (hlimit : 6 ≤ limit) (hpos : pos < msg.length) :
    pos + fragment msg limit pos < msg.length ↔ limit < 1 + (msg.length - pos) := by
  unfold fragment
  split_ifs <;> omega

lemma fragment_le (hlimit : 6 ≤ limit) (hpos : pos < msg.length) : pos + fragment msg limit pos ≤ msg.length := by
  unfold fragment
  split_ifs <;> omega

/-- Flags, length and data keep to the limit. -/
lemma payloadSize_le (hlimit : 6 ≤ limit) (hpos : pos < msg.length) :
    eapTlsPayloadSize (decide (pos + fragment msg limit pos < msg.length) && decide (pos = 0))
      ((msg.drop pos).take (fragment msg limit pos)) ≤ min limit (1 + msg.length) := by
  have hmore := fragment_more hlimit hpos
  have hle := fragment_le hlimit hpos
  have hdata : ((msg.drop pos).take (fragment msg limit pos)).length = fragment msg limit pos := by
    rw [List.length_take, List.length_drop]
    omega
  rw [eapTlsPayloadSize, hdata]
  by_cases hrest : limit < 1 + (msg.length - pos)
  · rw [decide_eq_true (hmore.mpr hrest), Bool.true_and]
    unfold fragment
    rw [if_pos hrest]
    by_cases hzero : pos = 0
    · rw [if_pos (decide_eq_true hzero), if_pos hzero]
      omega
    · rw [if_neg (by simp [hzero]), if_neg hzero]
      omega
  · rw [decide_eq_false (fun h => hrest (hmore.mp h)), Bool.false_and, if_neg Bool.false_ne_true]
    unfold fragment
    rw [if_neg hrest]
    omega

/-- The request with the fragment. -/
def request (method : EapTlsMethod) (id : UInt8) (msg : List UInt8) (limit pos : ℕ) : List UInt8 :=
  eapTlsMsg method eapCodeRequest id (pos + fragment msg limit pos < msg.length)
    (decide (pos + fragment msg limit pos < msg.length) && decide (pos = 0)) msg.length
    ((msg.drop pos).take (fragment msg limit pos))

/-- What the server sends at a position. -/
lemma buildMsg_eq {server : EapServerSsl} (hlimit : 6 ≤ limit) (hpos : pos < msg.length)
    (htlsOut : server.tlsOut = some msg) (hout : server.tlsOutPos = pos) (hl : server.tlsOutLimit = limit) (id : UInt8) :
    server.buildMsg method id = some (request method id msg limit pos,
      if pos + fragment msg limit pos < msg.length then
        { server with tlsOutPos := pos + fragment msg limit pos, state := .waitFragAck }
      else { server with tlsOut := none, tlsOutPos := 0, state := .msg }) := by
  have hmore := fragment_more hlimit hpos
  have hle := fragment_le hlimit hpos
  unfold EapServerSsl.buildMsg
  rw [htlsOut, hout, hl]
  dsimp only
  have hsend : (if decide (limit < 1 + (msg.length - pos)) = true then
      if (decide (limit < 1 + (msg.length - pos)) && decide (pos = 0)) = true then limit - 1 - 4 else limit - 1
      else msg.length - pos) = fragment msg limit pos := by
    unfold fragment
    by_cases hrest : limit < 1 + (msg.length - pos)
    · rw [if_pos (decide_eq_true hrest), if_pos hrest, decide_eq_true hrest, Bool.true_and]
      by_cases hzero : pos = 0
      · rw [if_pos (decide_eq_true hzero), if_pos hzero, Nat.sub_sub]
      · rw [if_neg (by simp [hzero]), if_neg hzero]
    · rw [if_neg (by simp [hrest]), if_neg hrest]
  rw [hsend, request, decide_eq_decide.mpr hmore]
  by_cases hlast : pos + fragment msg limit pos = msg.length
  · rw [if_pos hlast, if_neg (by omega)]
  · rw [if_neg hlast, if_pos (by omega)]

lemma length_data (hlimit : 6 ≤ limit) (hpos : pos < msg.length) :
    ((msg.drop pos).take (fragment msg limit pos)).length = fragment msg limit pos := by
  have hle := fragment_le hlimit hpos
  rw [List.length_take, List.length_drop]
  omega

/-- What has been received at a position. -/
def Received (peer : EapPeerSsl) (msg : List UInt8) (pos : ℕ) : Prop :=
  (pos = 0 → peer.Idle) ∧ (0 < pos → peer.tlsIn = some (msg.take pos) ∧ peer.tlsInLeft = msg.length - pos)

/-- What the peer does with the request. -/
lemma receive_request {peer : EapPeerSsl} (hlimit : 6 ≤ limit) (hlength : msg.length ≤ 65536)
    (hfit : eapTlsHdrSize method.type + min limit (1 + msg.length) < 65536) (hpos : pos < msg.length)
    (hpeer : Received peer msg pos) (id : UInt8) :
    ∃ peer', peer.receive method (request method id msg limit pos) =
        (peer', if pos + fragment msg limit pos < msg.length then .more else .complete msg) ∧
      (pos + fragment msg limit pos < msg.length → Received peer' msg (pos + fragment msg limit pos)) ∧
        (¬ pos + fragment msg limit pos < msg.length → peer'.Idle) := by
  obtain ⟨hidle, hreceived⟩ := hpeer
  have hgrow := fragment_pos hlimit hpos
  have hle := fragment_le hlimit hpos
  have hpayload := payloadSize_le hlimit hpos
  have hdata := length_data hlimit hpos
  have hne : (msg.drop pos).take (fragment msg limit pos) ≠ [] := List.length_pos_iff.mp (by omega)
  have hfits := lt_of_le_of_lt (Nat.add_le_add_left hpayload (eapTlsHdrSize method.type)) hfit
  unfold request
  by_cases hzero : pos = 0
  · subst hzero
    have hidle := hidle rfl
    by_cases hmore : 0 + fragment msg limit 0 < msg.length
    · rw [decide_eq_true hmore, Bool.true_and, decide_eq_true (Eq.refl 0)] at hfits ⊢
      rw [if_pos hmore]
      refine ⟨_, EapPeerSsl.receive_first hidle hfits hlength hne (by omega), ?_, ?_⟩
      · intro _
        refine ⟨fun h => absurd h (by omega), fun _ => ⟨?_, ?_⟩⟩
        · simp
        · rw [hdata, Nat.zero_add]
      · exact fun h => absurd hmore h
    · rw [decide_eq_false hmore, Bool.false_and] at hfits ⊢
      have hall : (msg.drop 0).take (fragment msg limit 0) = msg := by
        rw [List.drop_zero]
        exact List.take_of_length_le (by omega)
      have hsingle : peer.receive method (eapTlsMsg method eapCodeRequest id false false msg.length
          ((msg.drop 0).take (fragment msg limit 0))) = (peer.resetInput, .complete msg) := by
        rw [EapPeerSsl.receive_single hidle hfits, hall]
      rw [if_neg hmore]
      refine ⟨peer.resetInput, hsingle, ?_, ?_⟩
      · exact fun h => absurd h hmore
      · exact fun _ => ⟨rfl, rfl⟩
  · obtain ⟨hbuf, hleft⟩ := hreceived (by omega)
    rw [decide_eq_false hzero, Bool.and_false] at hfits ⊢
    have hroom : ((msg.drop pos).take (fragment msg limit pos)).length ≤ peer.tlsInLeft := by
      rw [hdata, hleft]
      omega
    have htotal : (msg.take pos).length + peer.tlsInLeft ≤ 65536 := by
      rw [hleft, List.length_take]
      omega
    have hconcat : msg.take pos ++ (msg.drop pos).take (fragment msg limit pos) =
        msg.take (pos + fragment msg limit pos) := List.take_add.symm
    rw [EapPeerSsl.receive_cont hbuf hfits hne hroom htotal]
    by_cases hmore : pos + fragment msg limit pos < msg.length
    · rw [if_pos hmore, if_pos (by rw [hdata, hleft]; omega)]
      refine ⟨_, rfl, ?_, ?_⟩
      · intro _
        refine ⟨fun h => absurd h (by omega), fun _ => ⟨?_, ?_⟩⟩
        · rw [hconcat]
        · show peer.tlsInLeft - _ = _
          rw [hleft, hdata]
          omega
      · exact fun h => absurd hmore h
    · have hwhole : msg.take (pos + fragment msg limit pos) = msg := List.take_of_length_le (by omega)
      rw [if_neg hmore, if_neg (by rw [hdata, hleft]; omega), hconcat, hwhole]
      refine ⟨peer.resetInput, rfl, ?_, ?_⟩
      · exact fun h => absurd h hmore
      · exact fun _ => ⟨rfl, rfl⟩

end Fragment

/-- The data up to the position have been sent and received. -/
structure At (method : EapTlsMethod) (msg : List UInt8) (limit pos : ℕ) (link : EapServerLink) : Prop where
  tlsOut : link.server.tlsOut = some msg
  tlsOutPos : link.server.tlsOutPos = pos
  tlsOutLimit : link.server.tlsOutLimit = limit
  received : Received link.peer msg pos
  sent : ∀ req ∈ link.sent, req.length ≤ eapTlsHdrSize method.type + limit
  delivered : link.delivered = []

/-- The message has been delivered, and both sides are ready for the next one. -/
structure Done (method : EapTlsMethod) (msg : List UInt8) (limit : ℕ) (link : EapServerLink) : Prop where
  tlsOut : link.server.tlsOut = none
  idle : link.peer.Idle
  sent : ∀ req ∈ link.sent, req.length ≤ eapTlsHdrSize method.type + limit
  delivered : link.delivered = [msg]

/-- One fragment. -/
lemma At.step (hlimit : 6 ≤ limit) (hlength : msg.length ≤ 65536)
    (hfit : eapTlsHdrSize method.type + min limit (1 + msg.length) < 65536) {pos : ℕ} (hpos : pos < msg.length)
    {link : EapServerLink} (h : link.At method msg limit pos) (id : UInt8) :
    ∃ link', next method link id = some link' ∧
      (pos + fragment msg limit pos < msg.length → link'.At method msg limit (pos + fragment msg limit pos)) ∧
      (msg.length ≤ pos + fragment msg limit pos → link'.Done method msg limit) := by
  obtain ⟨htlsOut, hout, hl, hpeer, hsent, hdelivered⟩ := h
  have hsent' : ∀ req ∈ link.sent ++ [request method id msg limit pos],
      req.length ≤ eapTlsHdrSize method.type + limit := by
    intro req hreq
    rcases List.mem_append.mp hreq with hold | hnew
    · exact hsent req hold
    · obtain rfl := List.mem_singleton.mp hnew
      have hpayload := payloadSize_le hlimit hpos
      rw [request, length_eapTlsMsg]
      omega
  obtain ⟨peer, hreceive, hmore, hlast⟩ := receive_request hlimit hlength hfit hpos hpeer id
  unfold next
  rw [buildMsg_eq hlimit hpos htlsOut hout hl id, Option.bind_eq_bind, Option.bind_some]
  dsimp only
  rw [hreceive]
  by_cases hrest : pos + fragment msg limit pos < msg.length
  · -- the peer waits for more, and acknowledges
    rw [if_pos hrest, if_pos hrest]
    dsimp only
    rw [EapServerSsl.process_buildAck rfl method id]
    refine ⟨_, rfl, fun _ => ?_, fun hge => absurd hrest (by omega)⟩
    exact ⟨htlsOut, rfl, hl, hmore hrest, hsent', hdelivered⟩
  · rw [if_neg hrest, if_neg hrest]
    refine ⟨_, rfl, fun h => absurd h hrest, fun _ => ?_⟩
    refine ⟨rfl, hlast hrest, hsent', ?_⟩
    show link.delivered ++ [msg] = [msg]
    rw [hdelivered, List.nil_append]

/-- Fragments of the message are still to be sent, and nothing has been delivered. -/
structure Pending (method : EapTlsMethod) (limit : ℕ) (link : EapServerLink) : Prop where
  tlsOut : link.server.tlsOut ≠ none
  sent : ∀ req ∈ link.sent, req.length ≤ eapTlsHdrSize method.type + limit
  delivered : link.delivered = []

lemma At.pending {pos : ℕ} {link : EapServerLink} (h : link.At method msg limit pos) : link.Pending method limit :=
  ⟨by simp [h.tlsOut], h.sent, h.delivered⟩

lemma Done.next_eq_none {link : EapServerLink} (h : link.Done method msg limit) (id : UInt8) :
    next method link id = none := by
  unfold next EapServerSsl.buildMsg
  rw [h.tlsOut]
  rfl

/-- The exchange of a whole message. -/
lemma completes (server : EapServerSsl) {peer : EapPeerSsl} (hpeer : peer.Idle) (hlimit : 6 ≤ server.tlsOutLimit)
    (hne : msg ≠ []) (hlength : msg.length ≤ 65536)
    (hfit : eapTlsHdrSize method.type + min server.tlsOutLimit (1 + msg.length) < 65536) :
    ∃ n, 0 < n ∧ Completes (next method) (Pending method server.tlsOutLimit) (Done method msg server.tlsOutLimit)
      (init server peer msg) n := by
  have hpos := List.length_pos_iff.mpr hne
  obtain ⟨n, hn, hcompletes⟩ := exists_completes (next method)
    (fun pos link => At method msg server.tlsOutLimit pos link) (Done method msg server.tlsOutLimit) msg.length
    (fragment msg server.tlsOutLimit)
    (fun pos hlt => fragment_pos hlimit hlt)
    (fun pos link hlt h id => h.step hlimit hlength hfit hlt id)
    (fun link id h => h.next_eq_none id) _ 0 rfl hpos
  have hstart : (init server peer msg).At method msg server.tlsOutLimit 0 :=
    ⟨rfl, rfl, rfl, ⟨fun _ => hpeer, fun h => absurd h (lt_irrefl 0)⟩, fun req hreq => absurd hreq (by simp [init]), rfl⟩
  refine ⟨n, hn, (hcompletes _ hstart).imp ?_⟩
  rintro link ⟨pos, -, h⟩
  exact h.pending

end EapServerLink

/-! ## From the peer to the server -/

/-- The peer sends a message, and the server acknowledges each fragment that is not the last one. -/
structure EapPeerLink where
  server : EapServerSsl
  peer : EapPeerSsl
  /-- The messages that the server has got to the end of. -/
  delivered : List (List UInt8)

namespace EapPeerLink

/-- A response of the peer, with the identifier and the result of `tls_connection_established`, and what comes of
it.  There is no next state if one of them does not go on. -/
def next (method : EapTlsMethod) (link : EapPeerLink) (e : UInt8 × Bool) : Option EapPeerLink := do
  let (resp, peer) ← link.peer.processOutput method e.2 e.1
  match link.server.process method resp with
  | (server, .complete msg) => return ⟨server, peer, link.delivered ++ [msg]⟩
  | (server, .more) =>
    let peer ← peer.receiveAck method (EapServerSsl.buildAck method e.1)
    return ⟨server, peer, link.delivered⟩
  | _ => none

/-- A message is to be sent. -/
def init (server : EapServerSsl) (peer : EapPeerSsl) (msg : List UInt8) : EapPeerLink where
  server := server
  peer := { peer with tlsOut := some msg, tlsOutPos := 0 }
  delivered := []

variable {method : EapTlsMethod} {msg : List UInt8} {limit : ℕ} {includeTlsLength : Bool}

/-- The data in the fragment from that position on. -/
def fragment (msg : List UInt8) (limit pos : ℕ) : ℕ :=
  if limit < msg.length - pos then limit else msg.length - pos

/-- What has been received at a position. -/
def Received (server : EapServerSsl) (msg : List UInt8) (pos : ℕ) : Prop :=
  (pos = 0 → server.state = .msg ∧ server.tlsIn = none) ∧
    (0 < pos → server.state = .fragAck ∧ server.tlsIn = some ⟨msg.length, msg.take pos⟩)

/-- The data up to the position have been sent and received. -/
structure At (msg : List UInt8) (limit : ℕ) (includeTlsLength : Bool) (pos : ℕ) (link : EapPeerLink) : Prop where
  tlsOut : link.peer.tlsOut = some msg
  tlsOutPos : link.peer.tlsOutPos = pos
  tlsOutLimit : link.peer.tlsOutLimit = limit
  includeTlsLength : link.peer.includeTlsLength = includeTlsLength
  received : Received link.server msg pos
  delivered : link.delivered = []

/-- The message has been delivered, and both sides are ready for the next one. -/
structure Done (msg : List UInt8) (link : EapPeerLink) : Prop where
  tlsOut : link.peer.tlsOut = none
  state : link.server.state = .msg
  tlsIn : link.server.tlsIn = none
  delivered : link.delivered = [msg]

/-- Whether a response can have the length. -/
def mayIncludeLength (method : EapTlsMethod) (limit total : ℕ) (includeTlsLength : Bool) : Bool :=
  limit < total || includeTlsLength || (method.type = eapTypePeap && method.version.val = 0)

/-- No response is too long for the length field of its header. -/
def Fits (method : EapTlsMethod) (limit total : ℕ) (includeTlsLength : Bool) : Prop :=
  eapTlsHdrSize method.type + (1 + (if mayIncludeLength method limit total includeTlsLength then 4 else 0) +
    min limit total) < 65536

section Fragment

variable {pos : ℕ}

lemma fragment_pos (hlimit : 1 ≤ limit) (hpos : pos < msg.length) : 0 < fragment msg limit pos := by
  unfold fragment
  split_ifs <;> omega

lemma fragment_le (hpos : pos < msg.length) : pos + fragment msg limit pos ≤ msg.length := by
  unfold fragment
  split_ifs <;> omega

lemma fragment_more (hpos : pos < msg.length) :
    pos + fragment msg limit pos < msg.length ↔ limit < msg.length - pos := by
  unfold fragment
  split_ifs <;> omega

lemma length_data (hpos : pos < msg.length) :
    ((msg.drop pos).take (fragment msg limit pos)).length = fragment msg limit pos := by
  have hle : pos + fragment msg limit pos ≤ msg.length := fragment_le hpos
  rw [List.length_take, List.length_drop]
  omega

/-- The response with the fragment. -/
def response (method : EapTlsMethod) (id : UInt8) (li : Bool) (msg : List UInt8) (limit pos : ℕ) : List UInt8 :=
  eapTlsMsg method eapCodeResponse id (pos + fragment msg limit pos < msg.length) li msg.length
    ((msg.drop pos).take (fragment msg limit pos))

lemma processOutput_eq {peer : EapPeerSsl} (hpos : pos < msg.length) (htlsOut : peer.tlsOut = some msg)
    (hout : peer.tlsOutPos = pos) (hl : peer.tlsOutLimit = limit) (established : Bool) (id : UInt8) :
    peer.processOutput method established id = some (response method id
      (peer.lengthIncluded method msg.length established) msg limit pos,
      if pos + fragment msg limit pos < msg.length then { peer with tlsOutPos := pos + fragment msg limit pos }
      else { peer with tlsOutPos := pos + fragment msg limit pos }.resetOutput) := by
  have hmore : pos + fragment msg limit pos < msg.length ↔ limit < msg.length - pos := fragment_more hpos
  unfold EapPeerSsl.processOutput
  rw [htlsOut, hout, hl]
  dsimp only
  have hsend : (if decide (limit < msg.length - pos) = true then limit else msg.length - pos) =
      fragment msg limit pos := by
    unfold fragment
    by_cases hrest : limit < msg.length - pos
    · rw [if_pos (decide_eq_true hrest), if_pos hrest]
    · rw [if_neg (by simp [hrest]), if_neg hrest]
  rw [hsend, response, decide_eq_decide.mpr hmore]
  by_cases hrest : limit < msg.length - pos
  · rw [if_pos (decide_eq_true hrest), if_pos (hmore.mpr hrest)]
  · rw [if_neg (by simp [hrest]), if_neg (fun h => hrest (hmore.mp h))]

/-- What the server does with the response. -/
lemma process_response {server : EapServerSsl} {li : Bool} (hlimit : 1 ≤ limit) (hlength : msg.length ≤ 65536)
    (hpos : pos < msg.length) (hfits : eapTlsHdrSize method.type +
      eapTlsPayloadSize li ((msg.drop pos).take (fragment msg limit pos)) < 65536)
    (hli : pos = 0 → pos + fragment msg limit pos < msg.length → li = true)
    (hserver : Received server msg pos) (id : UInt8) :
    ∃ server', server.process method (response method id li msg limit pos) =
        (server', if pos + fragment msg limit pos < msg.length then .more else .complete msg) ∧
      (pos + fragment msg limit pos < msg.length → Received server' msg (pos + fragment msg limit pos)) ∧
        (¬ pos + fragment msg limit pos < msg.length → server'.state = .msg ∧ server'.tlsIn = none) := by
  obtain ⟨hfirst, hcont⟩ := hserver
  have hgrow : 0 < fragment msg limit pos := fragment_pos hlimit hpos
  have hle : pos + fragment msg limit pos ≤ msg.length := fragment_le hpos
  have hdata : ((msg.drop pos).take (fragment msg limit pos)).length = fragment msg limit pos := length_data hpos
  have htotal : li = true → msg.length ≤ 65536 ∧ ((msg.drop pos).take (fragment msg limit pos)).length ≤ msg.length :=
    fun _ => ⟨hlength, by omega⟩
  unfold response
  by_cases hzero : pos = 0
  · subst hzero
    obtain ⟨hstate, hnone⟩ := hfirst rfl
    by_cases hmore : 0 + fragment msg limit 0 < msg.length
    · obtain rfl := hli rfl hmore
      rw [decide_eq_true hmore, if_pos hmore]
      refine ⟨_, EapServerSsl.process_first hstate hnone hfits hlength (by omega), ?_, ?_⟩
      · intro _
        refine ⟨fun h => absurd h (by omega), fun _ => ⟨rfl, ?_⟩⟩
        simp
      · exact fun h => absurd hmore h
    · have hall : (msg.drop 0).take (fragment msg limit 0) = msg := by
        rw [List.drop_zero]
        exact List.take_of_length_le (by omega)
      rw [decide_eq_false hmore, if_neg hmore]
      rw [hall] at hfits ⊢
      refine ⟨server, EapServerSsl.process_single hstate hnone hfits hlength le_rfl, ?_, ?_⟩
      · exact fun h => absurd h hmore
      · exact fun _ => ⟨hstate, hnone⟩
  · obtain ⟨hstate, hbuf⟩ := hcont (by omega)
    have hroom : (msg.take pos).length + ((msg.drop pos).take (fragment msg limit pos)).length ≤ msg.length := by
      rw [hdata, List.length_take]
      omega
    have hconcat : msg.take pos ++ (msg.drop pos).take (fragment msg limit pos) =
        msg.take (pos + fragment msg limit pos) := List.take_add.symm
    rw [EapServerSsl.process_cont hstate hbuf hroom hfits hlength, hconcat]
    by_cases hmore : pos + fragment msg limit pos < msg.length
    · rw [if_pos (decide_eq_true hmore), if_pos hmore]
      refine ⟨_, rfl, ?_, ?_⟩
      · exact fun _ => ⟨fun h => absurd h (by omega), fun _ => ⟨hstate, rfl⟩⟩
      · exact fun h => absurd hmore h
    · have hwhole : msg.take (pos + fragment msg limit pos) = msg := List.take_of_length_le (by omega)
      rw [if_neg (by simp [hmore]), if_neg hmore, hwhole]
      refine ⟨_, rfl, ?_, ?_⟩
      · exact fun h => absurd h hmore
      · exact fun _ => ⟨rfl, rfl⟩

end Fragment

/-- One fragment. -/
lemma At.step (hlimit : 1 ≤ limit) (hlength : msg.length ≤ 65536)
    (hfits : Fits method limit msg.length includeTlsLength) {pos : ℕ} (hpos : pos < msg.length)
    {link : EapPeerLink} (h : link.At msg limit includeTlsLength pos) (e : UInt8 × Bool) :
    ∃ link', next method link e = some link' ∧
      (pos + fragment msg limit pos < msg.length →
        link'.At msg limit includeTlsLength (pos + fragment msg limit pos)) ∧
      (msg.length ≤ pos + fragment msg limit pos → link'.Done msg) := by
  obtain ⟨htlsOut, hout, hl, hinclude, hserver, hdelivered⟩ := h
  obtain ⟨id, established⟩ := e
  have hle : pos + fragment msg limit pos ≤ msg.length := fragment_le hpos
  have hmore : pos + fragment msg limit pos < msg.length ↔ limit < msg.length - pos := fragment_more hpos
  have hdata : ((msg.drop pos).take (fragment msg limit pos)).length = fragment msg limit pos := length_data hpos
  have hsmall : fragment msg limit pos ≤ min limit msg.length := by
    unfold fragment
    split_ifs <;> omega
  have hmay : link.peer.lengthIncluded method msg.length established = true →
      mayIncludeLength method limit msg.length includeTlsLength = true := by
    intro hli
    simp only [EapPeerSsl.lengthIncluded, mayIncludeLength, Bool.or_eq_true, Bool.and_eq_true, hl, hinclude] at hli ⊢
    rcases hli with ⟨-, hli⟩ | ⟨hpeap, -⟩
    · exact Or.inl hli
    · have hversion : method.version.val = 0 := congrArg Fin.val (of_decide_eq_true hpeap.2)
      exact Or.inr ⟨hpeap.1, decide_eq_true hversion⟩
  have hpayload : eapTlsHdrSize method.type + eapTlsPayloadSize (link.peer.lengthIncluded method msg.length established)
      ((msg.drop pos).take (fragment msg limit pos)) < 65536 := by
    unfold Fits at hfits
    rw [eapTlsPayloadSize, hdata]
    by_cases hli : link.peer.lengthIncluded method msg.length established = true
    · rw [if_pos (hmay hli)] at hfits
      rw [if_pos hli]
      omega
    · rw [if_neg hli]
      omega
  have hfirst : pos = 0 → pos + fragment msg limit pos < msg.length →
      link.peer.lengthIncluded method msg.length established = true := by
    intro hzero hrest
    have hlt := hmore.mp hrest
    have hlong : limit < msg.length := by omega
    simp [EapPeerSsl.lengthIncluded, hout, hzero, hl, hlong]
  obtain ⟨server, hprocess, hnext, hlast⟩ :=
    process_response hlimit hlength hpos hpayload hfirst hserver id
  unfold next
  rw [processOutput_eq hpos htlsOut hout hl established id, Option.bind_eq_bind, Option.bind_some]
  dsimp only
  rw [hprocess]
  by_cases hrest : pos + fragment msg limit pos < msg.length
  · -- the server acknowledges
    rw [if_pos hrest, if_pos hrest]
    dsimp only
    rw [EapPeerSsl.receiveAck_buildAck, Option.bind_eq_bind, Option.bind_some]
    refine ⟨_, rfl, fun _ => ?_, fun hge => absurd hrest (by omega)⟩
    exact ⟨htlsOut, rfl, hl, hinclude, hnext hrest, hdelivered⟩
  · rw [if_neg hrest, if_neg hrest]
    refine ⟨_, rfl, fun h => absurd h hrest, fun _ => ?_⟩
    obtain ⟨hstate, hnone⟩ := hlast hrest
    refine ⟨rfl, hstate, hnone, ?_⟩
    show link.delivered ++ [msg] = [msg]
    rw [hdelivered, List.nil_append]

/-- Fragments of the message are still to be sent, and nothing has been delivered. -/
structure Pending (link : EapPeerLink) : Prop where
  tlsOut : link.peer.tlsOut ≠ none
  delivered : link.delivered = []

lemma At.pending {pos : ℕ} {link : EapPeerLink} (h : link.At msg limit includeTlsLength pos) : link.Pending :=
  ⟨by simp [h.tlsOut], h.delivered⟩

lemma Done.next_eq_none {link : EapPeerLink} (h : link.Done msg) (e : UInt8 × Bool) : next method link e = none := by
  unfold next EapPeerSsl.processOutput
  rw [h.tlsOut]
  rfl

/-- The exchange of a whole message. -/
lemma completes {server : EapServerSsl} (peer : EapPeerSsl) (hstate : server.state = .msg) (hnone : server.tlsIn = none)
    (hlimit : 1 ≤ peer.tlsOutLimit) (hne : msg ≠ []) (hlength : msg.length ≤ 65536)
    (hfits : Fits method peer.tlsOutLimit msg.length peer.includeTlsLength) :
    ∃ n, 0 < n ∧ Completes (next method) Pending (Done msg) (init server peer msg) n := by
  have hpos := List.length_pos_iff.mpr hne
  obtain ⟨n, hn, hcompletes⟩ := exists_completes (next method)
    (fun pos link => At msg peer.tlsOutLimit peer.includeTlsLength pos link) (Done msg) msg.length
    (fragment msg peer.tlsOutLimit)
    (fun pos hlt => fragment_pos hlimit hlt)
    (fun pos link hlt h e => h.step hlimit hlength hfits hlt e)
    (fun link e h => h.next_eq_none e) _ 0 rfl hpos
  have hstart : (init server peer msg).At msg peer.tlsOutLimit peer.includeTlsLength 0 :=
    ⟨rfl, rfl, rfl, rfl, ⟨fun _ => ⟨hstate, hnone⟩, fun h => absurd h (lt_irrefl 0)⟩, rfl⟩
  refine ⟨n, hn, (hcompletes _ hstart).imp ?_⟩
  rintro link ⟨pos, -, h⟩
  exact h.pending

end EapPeerLink

/-! ## Both directions -/

/-- A message of 1 to 65536 bytes gets to the other side, in a number of fragments that the limit determines, unless
a fragment is too long for an EAP message. -/
theorem eapTls_fragments_delivered (method : EapTlsMethod) (msg : List UInt8) (hne : msg ≠ [])
    (hlength : msg.length ≤ 65536) :
    (∀ (server : EapServerSsl) (peer : EapPeerSsl), peer.Idle → 6 ≤ server.tlsOutLimit →
      eapTlsHdrSize method.type + min server.tlsOutLimit (1 + msg.length) < 65536 →
        ∃ n, 0 < n ∧ Completes (EapServerLink.next method) (EapServerLink.Pending method server.tlsOutLimit)
          (EapServerLink.Done method msg server.tlsOutLimit) (EapServerLink.init server peer msg) n) ∧
      (∀ (server : EapServerSsl) (peer : EapPeerSsl), server.state = .msg → server.tlsIn = none →
        1 ≤ peer.tlsOutLimit → EapPeerLink.Fits method peer.tlsOutLimit msg.length peer.includeTlsLength →
          ∃ n, 0 < n ∧ Completes (EapPeerLink.next method) EapPeerLink.Pending (EapPeerLink.Done msg)
            (EapPeerLink.init server peer msg) n) := by
  constructor
  · intro server peer hpeer hlimit hfit
    exact EapServerLink.completes server hpeer hlimit hne hlength hfit
  · intro server peer hstate hnone hlimit hfits
    exact EapPeerLink.completes peer hstate hnone hlimit hne hlength hfits

/-- `struct eap_ssl_data` of a server that has not sent or received anything. -/
def EapServerSsl.fresh (tlsOutLimit : ℕ) : EapServerSsl := ⟨none, 0, tlsOutLimit, none, .msg⟩

/-- The same of a peer. -/
def EapPeerSsl.fresh (tlsOutLimit : ℕ) : EapPeerSsl := ⟨none, 0, tlsOutLimit, none, 0, 0, false, true⟩

theorem eapTls_fragments_delivered_ten :
    (∃ n, 0 < n ∧ Completes (EapServerLink.next ⟨13, 0⟩) (EapServerLink.Pending ⟨13, 0⟩ 6)
      (EapServerLink.Done ⟨13, 0⟩ [1, 2, 3, 4, 5, 6, 7, 8, 9, 10] 6)
      (EapServerLink.init (.fresh 6) (.fresh 1) [1, 2, 3, 4, 5, 6, 7, 8, 9, 10]) n) ∧
      (∃ n, 0 < n ∧ Completes (EapPeerLink.next ⟨13, 0⟩) EapPeerLink.Pending
        (EapPeerLink.Done [1, 2, 3, 4, 5, 6, 7, 8, 9, 10])
        (EapPeerLink.init (.fresh 6) (.fresh 1) [1, 2, 3, 4, 5, 6, 7, 8, 9, 10]) n) := by
  obtain ⟨hserver, hpeer⟩ := eapTls_fragments_delivered ⟨13, 0⟩ [1, 2, 3, 4, 5, 6, 7, 8, 9, 10] (by decide) (by decide)
  refine ⟨hserver (.fresh 6) (.fresh 1) ⟨rfl, rfl⟩ (by decide) (by decide), ?_⟩
  refine hpeer (.fresh 6) (.fresh 1) rfl rfl (by decide) ?_
  unfold EapPeerLink.Fits
  decide

example : ((exec (EapServerLink.next ⟨13, 0⟩) (.init (.fresh 6) (.fresh 1) [1, 2, 3, 4, 5, 6, 7, 8, 9, 10])
    [7, 8, 9]).map fun link => (link.sent.map (·.drop 5), link.delivered)) =
      some ([[0xc0, 0, 0, 0, 10, 1], [0x40, 2, 3, 4, 5, 6], [0, 7, 8, 9, 10]], [[1, 2, 3, 4, 5, 6, 7, 8, 9, 10]]) := by
  decide +kernel

/-- With a limit of 65532 a message of 65531 bytes is sent at once, and the length field of the request says 1. -/
theorem eapTls_limit_too_large :
    ¬ ∀ (method : EapTlsMethod) (msg : List UInt8) (server : EapServerSsl) (peer : EapPeerSsl), msg ≠ [] →
      msg.length ≤ 65536 → peer.Idle → 6 ≤ server.tlsOutLimit →
        ∃ n, 0 < n ∧ Completes (EapServerLink.next method) (EapServerLink.Pending method server.tlsOutLimit)
          (EapServerLink.Done method msg server.tlsOutLimit) (EapServerLink.init server peer msg) n := by
  intro h
  obtain ⟨msg, hlength⟩ : ∃ msg : List UInt8, msg.length = 65531 := ⟨List.replicate 65531 0, List.length_replicate⟩
  have hne : msg ≠ [] := List.length_pos_iff.mp (by omega)
  obtain ⟨n, hn, hcompletes⟩ := h ⟨13, 0⟩ msg (.fresh 65532) (.fresh 1) hne (by omega) ⟨rfl, rfl⟩ (by decide)
  obtain ⟨link, hrun⟩ := hcompletes.runs [0] hn
  obtain ⟨link', hnext, -⟩ := run_cons_iff.mp hrun
  have hfragment : EapServerLink.fragment msg 65532 0 = 65531 := by
    unfold EapServerLink.fragment
    rw [if_neg (by omega)]
    omega
  have hrequest : (EapPeerSsl.fresh 1).receive ⟨13, 0⟩ (EapServerLink.request ⟨13, 0⟩ 0 msg 65532 0) =
      (.fresh 1, .ignored) := by
    unfold EapPeerSsl.receive EapPeerSsl.processInit eapTlsHdrValidate EapServerLink.request eapTlsMsg eapTlsMsgAlloc
    rw [eapHdrValidate_eq_none]
    rw [hfragment, List.drop_zero, List.length_take, hlength]
    decide
  unfold EapServerLink.next at hnext
  have hbuild : (EapServerLink.init (.fresh 65532) (.fresh 1) msg).server.buildMsg ⟨13, 0⟩ 0 =
      some (EapServerLink.request ⟨13, 0⟩ 0 msg 65532 0, _) :=
    EapServerLink.buildMsg_eq (show 6 ≤ 65532 by decide) (show 0 < msg.length by omega) rfl rfl rfl 0
  rw [hbuild, Option.bind_eq_bind, Option.bind_some] at hnext
  dsimp only at hnext
  rw [show (EapServerLink.init (.fresh 65532) (.fresh 1) msg).peer = .fresh 1 from rfl, hrequest] at hnext
  cases hnext

end Ethanol
