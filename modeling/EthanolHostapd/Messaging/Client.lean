import EthanolHostapd.Messaging.Fields

/-!
# Requests to a remote host

The `send_msg_*` functions share one course of events: open a connection, take the next message id
through the pointer `id` of the caller, write the encoded request, read the answer into a buffer of
`SSL_BUFFER_SIZE` bytes and decode it.  `exchange` is that course; each function supplies its request
and what it does with the answer.

The handlers that relay a request to a station pass the address of the `m_id` of the message they are
about to answer as `id`.
-/

namespace Ethanol

open Wire

/-- What `SSL_read` leaves: its result, and the contents of the buffer. -/
structure Answer where
  bytes : Int32
  buf : Memory

/-- The remote hosts, by name and port.  There is no answer if `get_ssl_connection` fails; otherwise
the answer depends on the request that was written. -/
abbrev Network : Type := CString → Int32 → Option (Encoded → Answer)

/-- The course of a `send_msg_*` function: the value it returns and the message id it leaves behind
`id`.  Without a connection it returns `NULL` and the id stays. -/
def exchange {α : Type} (net : Network) (hostname : CString) (portnum id : Int32)
    (request : Int32 → Encoded) (answered : Answer → Option α) : Option α × Int32 :=
  match net hostname portnum with
  | none => (none, id)
  | some answer => (answered (answer (request id)), id + 1) -- h.m_id = (*id)++

/-- The message id that is left behind an exchange with the given host. -/
def nextId (net : Network) (hostname : CString) (portnum id : Int32) : Int32 :=
  if (net hostname portnum).isSome then id + 1 else id

lemma exchange_id {α : Type} (net : Network) (hostname : CString) (portnum id : Int32)
    (request : Int32 → Encoded) (answered : Answer → Option α) :
    (exchange net hostname portnum id request answered).2 = nextId net hostname portnum id := by
  unfold exchange nextId
  cases net hostname portnum with
  | none => rfl
  | some answer => rfl

/-- The id changes exactly when there is a connection. -/
lemma nextId_eq_iff (net : Network) (hostname : CString) (portnum id : Int32) :
    nextId net hostname portnum id = id ↔ net hostname portnum = none := by
  unfold nextId
  cases net hostname portnum with
  | none => simp
  | some answer => simp

/-! ## The header of a reply -/

namespace Encoded

/-- The header that a receiver finds at the start of an encoded message. -/
def header (e : Encoded) : Header :=
  (decodeHeader (Memory.ofBytes e.out.bytes (fun _ => 0) (fun _ => [])) Cursor.start).1

/-- A message that was started with `encode_header` keeps that header, whatever is written after it. -/
lemma header_eq {e : Encoded} {mType mId mSize : Int32}
    (h : (encodeHeader (Out.ofBytes []) mType mId mSize).bytes <+: e.out.bytes) :
    e.header = ⟨mType, mId, some ethanolVersion, mSize⟩ := by
  obtain ⟨rest, hrest⟩ := h
  rw [encodeHeader_ofBytes, Out.ofBytes_bytes, List.nil_append] at hrest
  rw [header, ← hrest]
  exact (decodes_header mType mId mSize _ Cursor.start (Memory.ofBytes_holds _ _ _ _)).1

end Encoded

end Ethanol
