import EthanolHostapd.Radius.Client

/-!
# The queue of pending requests

`num_msgs` counts the entries of the list, except that `radius_client_get_id` takes entries out without
counting them.  So the counter is right as long as no identifier is given out that a pending request still
has; the identifiers of the pending requests are different and there are not too many of them in any case.

Most functions of the client unlink some entries, count them, and change the others without touching
their identifiers.  This is the relation `Unlinks`, from which everything else follows.
-/

namespace Ethanol

/-! ## Identifiers -/

namespace RadiusMsg

variable {msg : RadiusMsg} {off : ℕ} {data : Bytes}

/-- The message has a header, and its attributes are behind it. -/
structure HasHdr (msg : RadiusMsg) : Prop where
  hdr : radiusHdrLen ≤ msg.buf.length
  attr : ∀ pos ∈ msg.attrPos, radiusHdrLen ≤ pos

lemma HasHdr.put (h : msg.HasHdr) (off : ℕ) (data : Bytes) : (msg.put off data).HasHdr :=
  ⟨le_trans h.hdr Buffer.le_length_splice, h.attr⟩

/-- A write behind the first two bytes. -/
lemma HasHdr.identifier_put (h : msg.HasHdr) (hoff : 2 ≤ off) : (msg.put off data).identifier = msg.identifier := by
  have hhdr : 20 ≤ msg.buf.length := h.hdr
  exact Buffer.getD_splice_of_lt (by omega) (by omega) 0

lemma HasHdr.identifier_put_one (h : msg.HasHdr) (id : UInt8) : (msg.put 1 [id]).identifier = id := by
  have hhdr : 20 ≤ msg.buf.length := h.hdr
  have hget := Buffer.getElem?_splice (show 1 + [id].length ≤ msg.buf.length by rw [List.length_singleton]; omega) 1
  rw [if_pos (by simp)] at hget
  rw [identifier, RadiusMsg.put, List.getD_eq_getElem?_getD, hget]
  rfl

lemma HasHdr.putDigest (h : msg.HasHdr) (digest : Option Md5Digest) : (msg.putDigest off digest).HasHdr := by
  cases digest with
  | none => exact h
  | some digest => exact h.put _ _

lemma HasHdr.identifier_putDigest (h : msg.HasHdr) (hoff : 2 ≤ off) (digest : Option Md5Digest) :
    (msg.putDigest off digest).identifier = msg.identifier := by
  cases digest with
  | none => rfl
  | some digest => exact h.identifier_put hoff

lemma HasHdr.finishAcct (h : msg.HasHdr) (crypto : RadiusCrypto) (secret : Bytes) :
    (msg.finishAcct crypto secret).HasHdr ∧ (msg.finishAcct crypto secret).identifier = msg.identifier := by
  have hset : msg.setLength.HasHdr := h.put _ _
  have hauth : (msg.setLength.setAuthenticator zeroAuth).HasHdr := hset.put _ _
  refine ⟨hauth.putDigest _, ?_⟩
  rw [RadiusMsg.finishAcct, hauth.identifier_putDigest (by omega), setAuthenticator, hset.identifier_put (by omega),
    setLength, h.identifier_put le_rfl]

lemma HasHdr.addAttr (h : msg.HasHdr) {type : UInt8} {msg' : RadiusMsg} (hadd : msg.addAttr type data = some msg') :
    msg'.HasHdr ∧ msg'.identifier = msg.identifier := by
  have hhdr : 20 ≤ msg.buf.length := h.hdr
  rw [RadiusMsg.addAttr] at hadd
  split_ifs at hadd
  obtain rfl := Option.some.inj hadd
  refine ⟨⟨?_, ?_⟩, List.getD_append _ _ _ _ (by omega)⟩
  · rw [List.length_append]
    exact le_trans h.hdr (Nat.le_add_right _ _)
  · intro pos hpos
    rcases List.mem_append.mp hpos with hpos | hpos
    · exact h.attr pos hpos
    · rw [List.mem_singleton.mp hpos]
      exact h.hdr

lemma HasHdr.addAttrs (h : msg.HasHdr) {attrs : List RadiusAttr} {msg' : RadiusMsg}
    (hadd : msg.addAttrs attrs = some msg') : msg'.HasHdr ∧ msg'.identifier = msg.identifier := by
  induction attrs generalizing msg with
  | nil =>
    obtain rfl := Option.some.inj hadd
    exact ⟨h, rfl⟩
  | cons attr attrs ih =>
    obtain ⟨msg₁, hfirst, hrest⟩ := Option.bind_eq_some_iff.mp hadd
    obtain ⟨h₁, hid₁⟩ := h.addAttr hfirst
    obtain ⟨h₂, hid₂⟩ := ih h₁ hrest
    exact ⟨h₂, hid₂.trans hid₁⟩

lemma HasHdr.finish (h : msg.HasHdr) (crypto : RadiusCrypto) (secret : Option Bytes) :
    (msg.finish crypto secret).2.HasHdr ∧ (msg.finish crypto secret).2.identifier = msg.identifier := by
  cases secret with
  | none => exact ⟨h.put _ _, h.identifier_put le_rfl⟩
  | some secret =>
    rw [RadiusMsg.finish]
    split
    · exact ⟨h, rfl⟩
    · rename_i msg' hadd
      obtain ⟨h', hid⟩ := h.addAttr hadd
      have hset : msg'.setLength.HasHdr := h'.put _ _
      refine ⟨hset.putDigest _, ?_⟩
      rw [checkLength, hset.identifier_putDigest (by omega), setLength, h'.identifier_put le_rfl, hid]

/-- A write to the header does not touch the attributes. -/
lemma HasHdr.acctDelayTime_put (h : msg.HasHdr) (hdata : off + data.length ≤ radiusHdrLen) :
    (msg.put off data).acctDelayTime = msg.acctDelayTime := by
  have hget : ∀ i, radiusHdrLen ≤ i → (msg.put off data).buf.getD i 0 = msg.buf.getD i 0 := by
    intro i hi
    have hhdr := h.hdr
    rw [RadiusMsg.put, List.getD_eq_getElem?_getD, List.getD_eq_getElem?_getD, Buffer.getElem?_splice (by omega),
      if_neg (by omega)]
  have hfind : (msg.attrPos.find? fun pos => (msg.put off data).buf.getD pos 0 = radiusAttrAcctDelayTime) =
      msg.attrPos.find? fun pos => msg.buf.getD pos 0 = radiusAttrAcctDelayTime :=
    List.find?_congr fun pos hpos => by rw [hget pos (h.attr pos hpos)]
  change Option.filter _ (msg.attrPos.find? _) = _
  rw [hfind, acctDelayTime]
  cases hpos : msg.attrPos.find? fun pos => msg.buf.getD pos 0 = radiusAttrAcctDelayTime with
  | none => rfl
  | some pos =>
    have hlength : lengthAt (msg.put off data).buf pos = lengthAt msg.buf pos :=
      congrArg UInt8.toNat (hget _ ((h.attr pos (List.mem_of_find?_eq_some hpos)).trans (Nat.le_succ _)))
    simp only [Option.filter_some, hlength]

lemma HasHdr.acctDelayTime_finishAcct (h : msg.HasHdr) (crypto : RadiusCrypto) (secret : Bytes) :
    (msg.finishAcct crypto secret).acctDelayTime = msg.acctDelayTime := by
  have hset : msg.setLength.HasHdr := h.put _ _
  have hauth : (msg.setLength.setAuthenticator zeroAuth).HasHdr := hset.put _ _
  have hput : (msg.setLength.setAuthenticator zeroAuth).acctDelayTime = msg.acctDelayTime := by
    rw [setAuthenticator, hset.acctDelayTime_put (by rw [length_toList_digest]; decide), setLength,
      h.acctDelayTime_put (by rw [Wire.length_beBytes]; decide)]
  rw [← hput, RadiusMsg.finishAcct]
  cases crypto.md5 ((msg.setLength.setAuthenticator zeroAuth).buf ++ secret) with
  | none => rfl
  | some digest => exact hauth.acctDelayTime_put (by rw [length_toList_digest]; decide)

lemma HasHdr.finishMsg (h : msg.HasHdr) (crypto : RadiusCrypto) (auth : Bool) (secret : Bytes) :
    (RadiusClient.finishMsg crypto auth msg secret).HasHdr ∧
      (RadiusClient.finishMsg crypto auth msg secret).identifier = msg.identifier := by
  cases auth with
  | true => exact h.finish crypto (some secret)
  | false => exact h.finishAcct crypto secret

/-- A message that was made for a request. -/
lemma hasHdr_new (code id : UInt8) (auth : Md5Digest) :
    ((new code id).setAuthenticator auth).HasHdr ∧ ((new code id).setAuthenticator auth).identifier = id := by
  have hnew : (new code id).HasHdr := ⟨le_of_eq (by simp [new, radiusHdrLen]), by simp [new]⟩
  exact ⟨hnew.put _ _, hnew.identifier_put (by omega)⟩

end RadiusMsg

/-! ## What the functions do to the queue -/

/-- An entry that was changed, but not its address, its type, its identifier nor its attributes. -/
structure MsgEntry.Keeps (entry entry' : MsgEntry) : Prop where
  ptr : entry'.ptr = entry.ptr
  msgType : entry'.msgType = entry.msgType
  hdr : entry.msg.HasHdr → entry'.msg.HasHdr
  identifier : entry.msg.HasHdr → entry'.msg.identifier = entry.msg.identifier
  acctDelayTime : entry.msg.HasHdr → entry'.msg.acctDelayTime = entry.msg.acctDelayTime

lemma MsgEntry.Keeps.refl (entry : MsgEntry) : entry.Keeps entry := ⟨rfl, rfl, id, fun _ => rfl, fun _ => rfl⟩

lemma MsgEntry.Keeps.trans {e₁ e₂ e₃ : MsgEntry} (h : e₁.Keeps e₂) (h' : e₂.Keeps e₃) : e₁.Keeps e₃ where
  ptr := h'.ptr.trans h.ptr
  msgType := h'.msgType.trans h.msgType
  hdr hhdr := h'.hdr (h.hdr hhdr)
  identifier hhdr := (h'.identifier (h.hdr hhdr)).trans (h.identifier hhdr)
  acctDelayTime hhdr := (h'.acctDelayTime (h.hdr hhdr)).trans (h.acctDelayTime hhdr)

namespace RadiusClient

/-- Some entries are unlinked and counted; the others are kept. -/
structure Unlinks (radius radius' : RadiusClient) : Prop where
  msgs : ∃ (l : List MsgEntry) (f : MsgEntry → MsgEntry),
    l.Sublist radius.msgs ∧ radius'.msgs = l.map f ∧ ∀ entry : MsgEntry, entry.Keeps (f entry)
  numMsgs : radius'.numMsgs = radius.numMsgs - (radius.msgs.length - radius'.msgs.length)
  nextId : radius'.nextRadiusIdentifier = radius.nextRadiusIdentifier
  nextPtr : radius'.nextPtr = radius.nextPtr
  walk : radius'.walk = radius.walk

/-- The queue of pending requests at any time. -/
structure QueueInv (radius : RadiusClient) : Prop where
  ptrs : (radius.msgs.map (·.ptr)).Nodup
  ids : (radius.msgs.map (·.msg.identifier)).Nodup
  ptr_lt : ∀ entry ∈ radius.msgs, entry.ptr < radius.nextPtr
  hdr : ∀ entry ∈ radius.msgs, entry.msg.HasHdr
  length_le : radius.msgs.length ≤ radius.numMsgs
  numMsgs_le : radius.numMsgs ≤ radiusClientMaxEntries

/-- `num_msgs` is the number of entries. -/
def Counted (radius : RadiusClient) : Prop := radius.numMsgs = radius.msgs.length

section Unlinks

variable {crypto : RadiusCrypto} {radius radius₁ radius₂ : RadiusClient}

lemma Unlinks.length_le (h : Unlinks radius radius₁) : radius₁.msgs.length ≤ radius.msgs.length := by
  obtain ⟨l, f, hl, heq, -⟩ := h.msgs
  rw [heq, List.length_map]
  exact hl.length_le

lemma Unlinks.refl (radius : RadiusClient) : Unlinks radius radius where
  msgs := ⟨radius.msgs, id, List.Sublist.refl _, by simp, MsgEntry.Keeps.refl⟩
  numMsgs := by simp
  nextId := rfl
  nextPtr := rfl
  walk := rfl

lemma Unlinks.trans (h : Unlinks radius radius₁) (h' : Unlinks radius₁ radius₂) : Unlinks radius radius₂ where
  msgs := by
    obtain ⟨l, f, hl, heq, hf⟩ := h.msgs
    obtain ⟨l', f', hl', heq', hf'⟩ := h'.msgs
    rw [heq] at hl'
    obtain ⟨l₂, hl₂, rfl⟩ := List.sublist_map_iff.mp hl'
    refine ⟨l₂, f' ∘ f, hl₂.trans hl, by rw [heq', List.map_map], fun entry => (hf entry).trans (hf' (f entry))⟩
  numMsgs := by
    have hle := h.length_le
    have hle' := h'.length_le
    rw [h'.numMsgs, h.numMsgs]
    omega
  nextId := h'.nextId.trans h.nextId
  nextPtr := h'.nextPtr.trans h.nextPtr
  walk := h'.walk.trans h.walk

/-- The entries that are left are some of those from before. -/
lemma Unlinks.queueInv (h : Unlinks radius radius₁) (hinv : QueueInv radius) : QueueInv radius₁ := by
  obtain ⟨l, f, hl, heq, hf⟩ := h.msgs
  have hhdr : ∀ entry ∈ l, entry.msg.HasHdr := fun entry hentry => hinv.hdr entry (hl.subset hentry)
  have hle := h.length_le
  have hnum := h.numMsgs
  have hcount := hinv.length_le
  have hmax := hinv.numMsgs_le
  refine ⟨?_, ?_, ?_, ?_, by omega, by omega⟩
  · have hptrs : l.map ((·.ptr) ∘ f) = l.map (·.ptr) := List.map_congr_left fun entry _ => (hf entry).ptr
    rw [heq, List.map_map, hptrs]
    exact hinv.ptrs.sublist (hl.map _)
  · have hids : l.map ((·.msg.identifier) ∘ f) = l.map (·.msg.identifier) :=
      List.map_congr_left fun entry hentry => (hf entry).identifier (hhdr entry hentry)
    rw [heq, List.map_map, hids]
    exact hinv.ids.sublist (hl.map _)
  · intro entry hentry
    rw [heq] at hentry
    obtain ⟨old, hold, rfl⟩ := List.mem_map.mp hentry
    rw [(hf old).ptr, h.nextPtr]
    exact hinv.ptr_lt old (hl.subset hold)
  · intro entry hentry
    rw [heq] at hentry
    obtain ⟨old, hold, rfl⟩ := List.mem_map.mp hentry
    exact (hf old).hdr (hhdr old hold)

/-- What is unlinked is counted. -/
lemma Unlinks.counted_iff (h : Unlinks radius radius₁) (hinv : QueueInv radius) :
    radius₁.Counted ↔ radius.Counted := by
  have hle := h.length_le
  have hnum := h.numMsgs
  have hcount := hinv.length_le
  rw [Counted, Counted]
  omega

/-- If the counter has not changed, no entry is gone. -/
lemma Unlinks.ptrs_eq (h : Unlinks radius radius₁) (hinv : QueueInv radius) (hnum : radius₁.numMsgs = radius.numMsgs) :
    ∃ f : MsgEntry → MsgEntry, radius₁.msgs = radius.msgs.map f ∧ ∀ entry : MsgEntry, entry.Keeps (f entry) := by
  obtain ⟨l, f, hl, heq, hf⟩ := h.msgs
  have hle := h.length_le
  have hcount := hinv.length_le
  have hnum' := h.numMsgs
  have hlength : radius₁.msgs.length = l.length := by rw [heq, List.length_map]
  have hsame : l = radius.msgs := hl.eq_of_length (by omega)
  exact ⟨f, by rw [heq, hsame], hf⟩

/-- Every entry is kept. -/
lemma unlinks_map {f : MsgEntry → MsgEntry} (hf : ∀ entry : MsgEntry, entry.Keeps (f entry)) :
    Unlinks radius { radius with msgs := radius.msgs.map f } where
  msgs := ⟨radius.msgs, f, List.Sublist.refl _, rfl, hf⟩
  numMsgs := by simp
  nextId := rfl
  nextPtr := rfl
  walk := rfl

lemma unlinks_modifyEntry (p : ℕ) {f : MsgEntry → MsgEntry} (hf : ∀ entry : MsgEntry, entry.Keeps (f entry)) :
    Unlinks radius (radius.modifyEntry p f) := by
  refine unlinks_map fun entry => ?_
  split_ifs
  · exact hf entry
  · exact .refl entry

lemma unlinks_unlink (remove : MsgEntry → Bool) : Unlinks radius (radius.unlink remove) where
  msgs := ⟨radius.msgs.filter fun entry => !remove entry, id, List.filter_sublist, by simp [unlink], .refl⟩
  numMsgs := by
    have hlength := List.length_eq_length_filter_add (l := radius.msgs) remove
    simp only [unlink]
    rw [hlength]
    congr 1
    omega
  nextId := rfl
  nextPtr := rfl
  walk := rfl

lemma unlinks_setSide (auth : Bool) (s : RadiusServers) : Unlinks radius (radius.setSide auth s) := by
  cases auth with
  | true => exact ⟨⟨radius.msgs, id, List.Sublist.refl _, by simp [setSide], .refl⟩, by simp [setSide], rfl, rfl, rfl⟩
  | false => exact ⟨⟨radius.msgs, id, List.Sublist.refl _, by simp [setSide], .refl⟩, by simp [setSide], rfl, rfl, rfl⟩

lemma unlinks_updateAcctMsgs (secret : Bytes) : Unlinks radius (radius.updateAcctMsgs crypto secret) := by
  refine unlinks_map fun entry => ?_
  split_ifs
  · exact ⟨rfl, rfl, fun h => (h.finishAcct crypto secret).1, fun h => (h.finishAcct crypto secret).2,
      fun h => h.acctDelayTime_finishAcct crypto secret⟩
  · exact .refl entry

lemma unlinks_resetRetries (auth : Bool) : Unlinks radius (radius.resetRetries auth) := by
  refine unlinks_map fun entry => ?_
  generalize (if auth then RadiusType.auth else .acct) = msgType
  split_ifs
  · exact ⟨rfl, rfl, id, fun _ => rfl, fun _ => rfl⟩
  · exact .refl entry

lemma unlinks_leaveServer (auth : Bool) (nserv oserv : ℕ) :
    Unlinks radius (radius.leaveServer crypto auth nserv oserv) := by
  simp only [leaveServer]
  split_ifs
  · exact unlinks_resetRetries auth
  · exact (unlinks_unlink _).trans (unlinks_resetRetries auth)
  · exact (unlinks_updateAcctMsgs _).trans (unlinks_resetRetries auth)

lemma unlinks_changePending (auth : Bool) (nserv : ℕ) (oserv : Option ℕ) :
    Unlinks radius (radius.changePending crypto auth nserv oserv) := by
  cases oserv with
  | none => exact .refl radius
  | some oserv =>
    rw [changePending]
    split_ifs
    · exact unlinks_leaveServer auth nserv oserv
    · exact unlinks_unlink _
    · exact .refl radius

lemma unlinks_changeServer (auth : Bool) (nserv : ℕ) (oserv : Option ℕ) (connected : Bool) :
    Unlinks radius (radius.changeServer crypto auth nserv oserv connected) := by
  have hpending : Unlinks radius (radius.changePending crypto auth nserv oserv) := unlinks_changePending auth nserv oserv
  cases connected with
  | true => exact hpending.trans (unlinks_setSide auth _)
  | false => exact hpending

lemma unlinks_failover (auth connected : Bool) : Unlinks radius (radius.failover crypto auth connected) := by
  simp only [failover]
  exact (unlinks_setSide auth _).trans (unlinks_changeServer auth _ _ connected)

lemma unlinks_initSock (auth opened : Bool) : Unlinks radius (radius.initSock crypto auth opened) := by
  simp only [initSock]
  exact (unlinks_setSide auth _).trans (unlinks_changeServer auth _ _ opened)

variable (crypto) in
lemma unlinks_handleSendError (auth : Bool) (result : SendResult) :
    Unlinks radius (radius.handleSendError crypto auth result) := by
  cases result with
  | sent => exact .refl radius
  | failed => exact .refl radius
  | reconnect opened => exact unlinks_initSock auth opened

variable (crypto) in
lemma unlinks_openForSend (auth opened : Bool) : Unlinks radius (radius.openForSend crypto auth opened) := by
  rw [openForSend]
  split_ifs
  · exact unlinks_initSock auth opened
  · exact .refl radius

lemma unlinks_reopen (auth opened : Bool) : Unlinks radius (radius.reopen crypto auth opened) := by
  rw [reopen]
  split_ifs
  · exact .refl radius
  · exact unlinks_initSock auth opened

lemma unlinks_tryFailover (auth connected : Bool) : Unlinks radius (radius.tryFailover crypto auth connected) := by
  rw [tryFailover]
  split_ifs
  · exact unlinks_failover auth connected
  · exact .refl radius

lemma unlinks_reschedule (p : ℕ) (now : ℤ) : Unlinks radius (radius.reschedule p now) :=
  unlinks_modifyEntry p fun _ => ⟨rfl, rfl, id, fun _ => rfl, fun _ => rfl⟩

lemma unlinks_retryPrimary (auth connected reconnected : Bool) :
    Unlinks radius (radius.retryPrimary crypto auth connected reconnected) := by
  simp only [retryPrimary]
  split_ifs
  · exact (unlinks_setSide auth _).trans (unlinks_changeServer auth _ _ connected)
  · exact ((unlinks_setSide auth _).trans (unlinks_changeServer auth _ _ connected)).trans
      ((unlinks_setSide auth _).trans (unlinks_changeServer auth _ _ reconnected))
  · exact .refl radius

lemma unlinks_reconfig (auth acct : List (Option Bytes)) : Unlinks radius (radius.reconfig auth acct) where
  msgs := ⟨radius.msgs, id, List.Sublist.refl _, (List.map_id _).symm, .refl⟩
  numMsgs := by simp [reconfig]
  nextId := rfl
  nextPtr := rfl
  walk := rfl

lemma matchResponse_eq_some {msgType : RadiusType} {datagram : Bytes} {msg : RadiusMsg} {req : MsgEntry} :
    radius.matchResponse msgType datagram = some (msg, req) ↔ datagram.length < 3000 ∧
      RadiusMsg.parse datagram = some msg ∧ radius.msgs.find? (matchesReq msgType msg.identifier) = some req := by
  rw [matchResponse]
  split_ifs with hlen
  · simp [Nat.not_lt.mpr hlen]
  · simp only [Nat.not_le.mp hlen, true_and, Option.bind_eq_bind, Option.bind_eq_some_iff, Option.pure_def,
      Option.some.injEq, Prod.mk.injEq]
    constructor
    · rintro ⟨msg', hparse, req', hfind, rfl, rfl⟩
      exact ⟨hparse, hfind⟩
    · rintro ⟨hparse, hfind⟩
      exact ⟨msg, hparse, req, hfind, rfl, rfl⟩

/-- The request of a response is unlinked and counted. -/
lemma unlinks_receive (handlers : List RadiusRxHandler) (msgType : RadiusType) (datagram : Bytes) :
    Unlinks radius (radius.receive handlers msgType datagram).1 := by
  rw [receive]
  split
  · exact .refl radius
  · rename_i msg req hmatch
    obtain ⟨-, -, hfind⟩ := matchResponse_eq_some.mp hmatch
    have hmem := List.mem_of_find?_eq_some hfind
    have hlength := List.length_eraseP_of_mem hmem (List.find?_some hfind)
    have hpos := List.length_pos_of_mem hmem
    refine ⟨⟨_, id, List.eraseP_sublist, (List.map_id _).symm, .refl⟩, ?_, rfl, rfl, rfl⟩
    dsimp only
    rw [hlength]
    omega

/-! ## Identifiers that are given out -/

/-- No pending request has the identifier that is given out next. -/
def IdFree (radius : RadiusClient) : Prop :=
  ∀ entry ∈ radius.msgs, entry.msg.identifier ≠ radius.nextRadiusIdentifier

/-- `radius_client_get_id` takes out the entries that have the identifier, without counting them. -/
structure GivesId (radius radius' : RadiusClient) : Prop where
  queueInv : QueueInv radius'
  free : ∀ entry ∈ radius'.msgs, entry.msg.identifier ≠ radius.nextRadiusIdentifier
  counted_iff : radius'.Counted ↔ radius.Counted ∧ radius.IdFree

lemma QueueInv.getId (hinv : QueueInv radius) : GivesId radius radius.getId.2 := by
  have hsub : radius.getId.2.msgs.Sublist radius.msgs := List.filter_sublist
  have hle := hsub.length_le
  have hcount := hinv.length_le
  refine ⟨⟨hinv.ptrs.sublist (hsub.map _), hinv.ids.sublist (hsub.map _), fun entry hentry => hinv.ptr_lt entry (hsub.subset hentry),
    fun entry hentry => hinv.hdr entry (hsub.subset hentry), hle.trans hcount, hinv.numMsgs_le⟩, ?_, ?_⟩
  · intro entry hentry
    simpa using (List.mem_filter.mp hentry).2
  · have hfree : radius.IdFree ↔ radius.getId.2.msgs.length = radius.msgs.length := by
      rw [IdFree]
      constructor
      · intro hfree
        have hall : radius.getId.2.msgs = radius.msgs :=
          List.filter_eq_self.mpr fun entry hentry => by simpa using hfree entry hentry
        rw [hall]
      · intro hlength entry hentry
        have hall : radius.getId.2.msgs = radius.msgs := hsub.eq_of_length hlength
        rw [← hall] at hentry
        simpa using (List.mem_filter.mp hentry).2
    rw [hfree]
    have hnum : radius.getId.2.numMsgs = radius.numMsgs := rfl
    rw [Counted, Counted, hnum]
    omega

/-- The entry at `p` gets the identifier that no other one has. -/
lemma QueueInv.setIdentifier (hinv : QueueInv radius) {id : UInt8} (hfree : ∀ entry ∈ radius.msgs, entry.msg.identifier ≠ id)
    (p : ℕ) {f : MsgEntry → MsgEntry} (hptr : ∀ entry, (f entry).ptr = entry.ptr)
    (hf : ∀ entry : MsgEntry, entry.msg.HasHdr → (f entry).msg.HasHdr ∧ (f entry).msg.identifier = id) :
    QueueInv (radius.modifyEntry p f) := by
  have hlength : (radius.modifyEntry p f).msgs.length = radius.msgs.length := by simp [modifyEntry]
  have hptr' : ∀ entry : MsgEntry, (if entry.ptr = p then f entry else entry).ptr = entry.ptr := by
    intro entry
    split_ifs
    · exact hptr entry
    · rfl
  refine ⟨?_, ?_, ?_, ?_, hlength ▸ hinv.length_le, hinv.numMsgs_le⟩
  · have hptrs : (radius.modifyEntry p f).msgs.map (·.ptr) = radius.msgs.map (·.ptr) := by
      rw [modifyEntry, List.map_map]
      exact List.map_congr_left fun entry _ => hptr' entry
    rw [hptrs]
    exact hinv.ptrs
  · have hnodup : radius.msgs.Nodup := List.Nodup.of_map _ hinv.ptrs
    rw [modifyEntry, List.map_map]
    refine (List.nodup_map_iff_inj_on hnodup).mpr fun x hx y hy heq => ?_
    simp only [Function.comp_apply] at heq
    -- at most one of the two has the new identifier, unless they are the same
    split_ifs at heq with hxp hyp hyp
    · exact List.inj_on_of_nodup_map hinv.ptrs hx hy (hxp.trans hyp.symm)
    · exact absurd (heq.symm.trans (hf x (hinv.hdr x hx)).2) (hfree y hy)
    · exact absurd (heq.trans (hf y (hinv.hdr y hy)).2) (hfree x hx)
    · exact List.inj_on_of_nodup_map hinv.ids hx hy heq
  · intro entry hentry
    obtain ⟨old, hold, rfl⟩ := List.mem_map.mp hentry
    rw [hptr']
    exact hinv.ptr_lt old hold
  · intro entry hentry
    obtain ⟨old, hold, rfl⟩ := List.mem_map.mp hentry
    split_ifs
    · exact (hf old (hinv.hdr old hold)).1
    · exact hinv.hdr old hold

lemma modifyEntry_counted_iff (p : ℕ) (f : MsgEntry → MsgEntry) :
    (radius.modifyEntry p f).Counted ↔ radius.Counted := by
  simp [Counted, modifyEntry]

variable (crypto) in
/-- A retransmission that takes a new identifier. -/
lemma QueueInv.renumber (hinv : QueueInv radius) (p : ℕ) (now : ℤ) (pos : ℕ) :
    QueueInv (radius.renumber crypto p now pos) ∧
      ((radius.renumber crypto p now pos).Counted ↔ radius.Counted ∧ radius.IdFree) := by
  have hid := hinv.getId
  simp only [RadiusClient.renumber]
  refine ⟨hid.queueInv.setIdentifier hid.free p (fun _ => rfl) fun entry hhdr => ?_, ?_⟩
  · have hput := hhdr.put 1 [radius.nextRadiusIdentifier]
    have hput' := hput.put (pos + 2) (Wire.beBytes 4 ((now - entry.firstTry) % 2 ^ 32).toNat)
    obtain ⟨hfinished, hidentifier⟩ := hput'.finishAcct crypto entry.sharedSecret
    refine ⟨hfinished, ?_⟩
    exact hidentifier.trans ((hput.identifier_put (by omega)).trans (hhdr.identifier_put_one _))
  · rw [modifyEntry_counted_iff]
    exact hid.counted_iff

/-- `radius_client_list_add` of a message with an identifier that is not pending. -/
lemma QueueInv.listAdd (hinv : QueueInv radius) {msg : RadiusMsg} (hhdr : msg.HasHdr)
    (hfree : ∀ entry ∈ radius.msgs, entry.msg.identifier ≠ msg.identifier) (added : Bool) (msgType : RadiusType)
    (secret : Bytes) (addr : MacAddr) (now : ℤ) :
    QueueInv (radius.listAdd added msg msgType secret addr now) ∧
      ((radius.listAdd added msg msgType secret addr now).Counted ↔ radius.Counted) := by
  have hmax : (30 : ℕ) = radiusClientMaxEntries := rfl
  have hcount := hinv.length_le
  have hnum := hinv.numMsgs_le
  set entry := newEntry radius.nextPtr msg msgType secret addr now
  have hadd : ∀ l : List MsgEntry, l.Sublist radius.msgs →
      ((entry :: l).map (·.ptr)).Nodup ∧ ((entry :: l).map (·.msg.identifier)).Nodup ∧
        (∀ e ∈ entry :: l, e.ptr < radius.nextPtr + 1) ∧ ∀ e ∈ entry :: l, e.msg.HasHdr := by
    intro l hl
    simp only [List.map_cons, List.nodup_cons, List.mem_map, not_exists, not_and, List.forall_mem_cons]
    refine ⟨⟨fun e he => ?_, hinv.ptrs.sublist (hl.map _)⟩, ⟨fun e he => hfree e (hl.subset he), hinv.ids.sublist (hl.map _)⟩,
      ⟨Nat.lt_succ_self _, fun e he => Nat.lt_succ_of_lt (hinv.ptr_lt e (hl.subset he))⟩,
      ⟨hhdr, fun e he => hinv.hdr e (hl.subset he)⟩⟩
    exact Nat.ne_of_lt (hinv.ptr_lt e (hl.subset he))
  cases added with
  | false => exact ⟨hinv, Iff.rfl⟩
  | true =>
    simp only [RadiusClient.listAdd, Bool.not_true, Bool.false_eq_true, if_false]
    split_ifs with hfull
    · obtain ⟨hptrs, hids, hlt, hhdrs⟩ := hadd _ (List.dropLast_sublist radius.msgs)
      have hlength := radius.msgs.length_dropLast
      have hle : radius.msgs.dropLast.length + 1 ≤ radius.numMsgs := by omega
      refine ⟨⟨hptrs, hids, hlt, hhdrs, hle, hnum⟩, ?_⟩
      -- a list that was empty has the new entry only, but then the counter was wrong by 30
      simp only [Counted, List.length_cons]
      omega
    · obtain ⟨hptrs, hids, hlt, hhdrs⟩ := hadd _ (List.Sublist.refl radius.msgs)
      have hlt' : radius.numMsgs + 1 ≤ radiusClientMaxEntries := by omega
      refine ⟨⟨hptrs, hids, hlt, hhdrs, Nat.succ_le_succ hcount, hlt'⟩, ?_⟩
      simp [Counted]

/-- An identifier that no entry had is not taken by unlinking some. -/
lemma Unlinks.free (h : Unlinks radius radius₁) (hinv : QueueInv radius) {id : UInt8}
    (hfree : ∀ entry ∈ radius.msgs, entry.msg.identifier ≠ id) : ∀ entry ∈ radius₁.msgs, entry.msg.identifier ≠ id := by
  obtain ⟨l, f, hl, heq, hf⟩ := h.msgs
  intro entry hentry
  rw [heq] at hentry
  obtain ⟨old, hold, rfl⟩ := List.mem_map.mp hentry
  rw [(hf old).identifier (hinv.hdr old (hl.subset hold))]
  exact hfree old (hl.subset hold)

variable (crypto) in
lemma QueueInv.send (hinv : QueueInv radius) {msg : RadiusMsg} (hhdr : msg.HasHdr)
    (hfree : ∀ entry ∈ radius.msgs, entry.msg.identifier ≠ msg.identifier) (env : SendEnv) (msgType : RadiusType)
    (addr : MacAddr) :
    QueueInv (radius.send crypto env msg msgType addr) ∧
      ((radius.send crypto env msg msgType addr).Counted ↔ radius.Counted) := by
  have hopen : Unlinks radius _ := unlinks_openForSend crypto msgType.isAuth env.opened
  simp only [RadiusClient.send]
  split_ifs with hsock
  · exact ⟨hopen.queueInv hinv, hopen.counted_iff hinv⟩
  · split
    · exact ⟨hopen.queueInv hinv, hopen.counted_iff hinv⟩
    · rename_i secret hsecret
      have hsent := hopen.trans (unlinks_handleSendError crypto msgType.isAuth env.result)
      obtain ⟨hhdr', hid⟩ := hhdr.finishMsg crypto msgType.isAuth secret
      obtain ⟨hinv', hcounted⟩ := (hsent.queueInv hinv).listAdd hhdr' (hid ▸ hsent.free hinv hfree) env.added msgType
        secret addr env.now
      exact ⟨hinv', hcounted.trans (hsent.counted_iff hinv)⟩

lemma walk_request (env : SendEnv) (req : Request) : (radius.request crypto env req).walk = radius.walk := by
  have hadd : ∀ (radius : RadiusClient) (added : Bool) msg msgType secret addr now,
      (radius.listAdd added msg msgType secret addr now).walk = radius.walk := by
    intro radius added msg msgType secret addr now
    simp only [RadiusClient.listAdd]
    split_ifs
    · rfl
    · rfl
    · rfl
  have hsend : ∀ (radius : RadiusClient) msg msgType addr, (radius.send crypto env msg msgType addr).walk = radius.walk := by
    intro radius msg msgType addr
    have hopen : (radius.openForSend crypto msgType.isAuth env.opened).walk = radius.walk :=
      (unlinks_openForSend crypto _ _).walk
    simp only [RadiusClient.send]
    split_ifs
    · exact hopen
    · split
      · exact hopen
      · exact (hadd _ _ _ _ _ _ _).trans ((unlinks_handleSendError crypto _ _).walk.trans hopen)
  simp only [RadiusClient.request]
  split
  · rfl
  · split_ifs
    · exact hsend _ _ _ _
    · rfl

variable (crypto) in
/-- A request: the counter stays right exactly if the identifier is not pending. -/
lemma QueueInv.request (hinv : QueueInv radius) (env : SendEnv) (req : Request) :
    QueueInv (radius.request crypto env req) ∧
      ((radius.request crypto env req).Counted ↔ radius.Counted ∧ radius.IdFree) := by
  have hid := hinv.getId
  simp only [RadiusClient.request]
  split
  · exact ⟨hid.queueInv, hid.counted_iff⟩
  · rename_i msg hmsg
    obtain ⟨hnew, hnewId⟩ := RadiusMsg.hasHdr_new req.code radius.getId.1 req.authenticator
    obtain ⟨hhdr, hmsgId⟩ := hnew.addAttrs hmsg
    split_ifs
    · obtain ⟨hinv', hcounted⟩ := hid.queueInv.send crypto hhdr ((hmsgId.trans hnewId) ▸ hid.free) env req.msgType req.addr
      exact ⟨hinv', hcounted.trans hid.counted_iff⟩
    · exact ⟨hid.queueInv, hid.counted_iff⟩

/-! ## Sockets and servers -/

@[simp] lemma side_setSide (auth : Bool) (s : RadiusServers) : (radius.setSide auth s).side auth = s := by
  cases auth with
  | true => rfl
  | false => rfl

/-- The pending messages have nothing to do with the servers. -/
lemma side_changePending (auth : Bool) (nserv : ℕ) (oserv : Option ℕ) :
    (radius.changePending crypto auth nserv oserv).side auth = radius.side auth := by
  cases oserv with
  | none => rfl
  | some oserv =>
    cases auth with
    | true =>
      simp only [changePending, leaveServer]
      split_ifs
      · rfl
      · rfl
      · rfl
    | false =>
      simp only [changePending, leaveServer, Bool.false_eq_true, if_false]
      split_ifs
      · rfl
      · rfl
      · rfl

/-- The socket of a server that is changed. -/
lemma side_changeServer (auth : Bool) (nserv : ℕ) (oserv : Option ℕ) (connected : Bool) :
    (radius.changeServer crypto auth nserv oserv connected).side auth =
      { radius.side auth with sock := (radius.side auth).sock || connected } := by
  cases connected with
  | true => rw [changeServer, setSock, side_setSide, side_changePending, Bool.or_true]
  | false => rw [changeServer, side_changePending, Bool.or_false]

lemma side_initSock (auth opened : Bool) :
    (radius.initSock crypto auth opened).side auth = { radius.side auth with sock := opened } := by
  rw [initSock, side_changeServer, setSock, side_setSide, Bool.false_or]

lemma side_reopen (auth opened : Bool) :
    (radius.reopen crypto auth opened).side auth =
      { radius.side auth with sock := (radius.side auth).sock || opened } := by
  rw [reopen]
  split_ifs with hsock
  · generalize radius.side auth = s at hsock ⊢
    obtain ⟨servers, server, sock⟩ := s
    obtain rfl : sock = true := hsock
    rfl
  · rw [side_initSock, Bool.eq_false_of_not_eq_true hsock, Bool.false_or]

/-- The socket is open when the message is sent again. -/
lemma sock_tryFailover (auth opened connected : Bool) :
    (((radius.reopen crypto auth opened).tryFailover crypto auth connected).side auth).sock = true ↔
      (radius.side auth).sock ∨ opened ∨ 1 < (radius.side auth).servers.length ∧ connected := by
  have hreopen : (radius.reopen crypto auth opened).side auth = _ := side_reopen auth opened
  rw [tryFailover]
  split_ifs with hdown
  · simp only [failover, side_changeServer, side_setSide, hreopen]
    simp only [hreopen, Bool.and_eq_true, Bool.not_eq_true', Bool.or_eq_false_iff, decide_eq_true_eq] at hdown
    simp [hdown]
  · simp only [hreopen, Bool.and_eq_true, Bool.not_eq_true', Bool.or_eq_false_iff, decide_eq_true_eq, not_and] at hdown
    simp only [hreopen, Bool.or_eq_true]
    constructor
    · exact fun hsock => hsock.imp_right .inl
    · rintro (hsock | hopened | ⟨hservers, -⟩)
      · exact .inl hsock
      · exact .inr hopened
      · by_contra hclosed
        simp only [not_or, Bool.not_eq_true] at hclosed
        exact hdown hclosed hservers

/-- Opening the socket again does not change the queue. -/
lemma msgs_initSock (auth opened : Bool) :
    (radius.initSock crypto auth opened).msgs = radius.msgs ∧
      (radius.initSock crypto auth opened).numMsgs = radius.numMsgs := by
  cases auth with
  | true =>
    cases opened with
    | true => exact ⟨rfl, rfl⟩
    | false => exact ⟨rfl, rfl⟩
  | false =>
    cases opened with
    | true => exact ⟨rfl, rfl⟩
    | false => exact ⟨rfl, rfl⟩

/-- Accounting messages are not removed when the accounting server is changed. -/
lemma numMsgs_tryFailover_acct (connected : Bool) :
    (radius.tryFailover crypto false connected).numMsgs = radius.numMsgs := by
  have hpending : ∀ (radius : RadiusClient) (nserv : ℕ) (oserv : Option ℕ),
      (radius.changePending crypto false nserv oserv).numMsgs = radius.numMsgs := by
    intro radius nserv oserv
    cases oserv with
    | none => rfl
    | some oserv =>
      simp only [changePending, leaveServer, Bool.false_eq_true, if_false]
      split_ifs
      · rfl
      · rfl
      · rfl
  rw [tryFailover]
  split_ifs
  · cases connected with
    | true => exact hpending _ _ _
    | false => exact hpending _ _ _
  · rfl

/-! ## Retransmission -/

/-- The retransmission takes a new identifier: it is of an accounting message with an `Acct-Delay-Time`, and a
socket is open or can be opened. -/
def Allocates (radius : RadiusClient) (env : RetransmitEnv) (entry : MsgEntry) : Prop :=
  entry.msgType = .acct ∧ entry.msg.acctDelayTime.isSome ∧
    (radius.acct.sock ∨ env.opened ∨ 1 < radius.acct.servers.length ∧ env.connected)

/-- What a retransmission does to the queue, which depends on whether it takes a new identifier. -/
structure Retransmits (radius : RadiusClient) (allocates : Prop) (radius' : RadiusClient) : Prop where
  queueInv : QueueInv radius'
  counted_iff : radius'.Counted ↔ radius.Counted ∧ (allocates → radius.IdFree)
  walk : radius'.walk = radius.walk
  sublist : (radius'.msgs.map (·.ptr)).Sublist (radius.msgs.map (·.ptr))
  live_iff : radius'.numMsgs = radius.numMsgs → ∀ p, radius'.live p ↔
    ∃ entry ∈ radius.msgs, entry.ptr = p ∧ (allocates → entry.msg.identifier ≠ radius.nextRadiusIdentifier)

lemma live_iff_exists {p : ℕ} : radius.live p ↔ ∃ entry ∈ radius.msgs, entry.ptr = p := by
  simp [live]

/-- Entries that are kept stay at their addresses. -/
lemma Unlinks.live_iff (h : Unlinks radius radius₁) (hinv : QueueInv radius) (hnum : radius₁.numMsgs = radius.numMsgs)
    (p : ℕ) : radius₁.live p ↔ radius.live p := by
  obtain ⟨f, heq, hf⟩ := h.ptrs_eq hinv hnum
  simp only [live_iff_exists, heq, List.mem_map, exists_exists_and_eq_and, (hf _).ptr]

lemma Unlinks.sublist (h : Unlinks radius radius₁) :
    (radius₁.msgs.map (·.ptr)).Sublist (radius.msgs.map (·.ptr)) := by
  obtain ⟨l, f, hl, heq, hf⟩ := h.msgs
  have hptrs : l.map ((·.ptr) ∘ f) = l.map (·.ptr) := List.map_congr_left fun entry _ => (hf entry).ptr
  rw [heq, List.map_map, hptrs]
  exact hl.map _

/-- A retransmission that only unlinks entries. -/
lemma Unlinks.retransmits (h : Unlinks radius radius₁) (hinv : QueueInv radius) {allocates : Prop} (hnot : ¬allocates) :
    Retransmits radius allocates radius₁ where
  queueInv := h.queueInv hinv
  counted_iff := by simp [h.counted_iff hinv, hnot]
  walk := h.walk
  sublist := h.sublist
  live_iff hnum p := by simp [h.live_iff hinv hnum p, live_iff_exists, hnot]

/-- A change of the server before the retransmission. -/
lemma Retransmits.after (hinv : QueueInv radius) (h : Unlinks radius radius₁) (hnum : radius₁.numMsgs = radius.numMsgs)
    {allocates : Prop} (h' : Retransmits radius₁ allocates radius₂) : Retransmits radius allocates radius₂ := by
  obtain ⟨f, heq, hf⟩ := h.ptrs_eq hinv hnum
  have hid : ∀ entry ∈ radius.msgs, (f entry).msg.identifier = entry.msg.identifier :=
    fun entry hentry => (hf entry).identifier (hinv.hdr entry hentry)
  refine ⟨h'.queueInv, ?_, h'.walk.trans h.walk, h'.sublist.trans h.sublist, fun hnum' p => ?_⟩
  · have hfree : radius₁.IdFree ↔ radius.IdFree := by
      rw [IdFree, IdFree, heq, h.nextId, List.forall_mem_map]
      exact forall₂_congr fun entry hentry => by rw [hid entry hentry]
    rw [h'.counted_iff, h.counted_iff hinv, hfree]
  · rw [h'.live_iff (hnum'.trans hnum.symm) p, heq, h.nextId]
    simp only [List.mem_map, exists_exists_and_eq_and]
    refine exists_congr fun entry => and_congr_right fun hentry => ?_
    rw [(hf entry).ptr, hid entry hentry]

/-- Changes of the entries after the retransmission. -/
lemma Retransmits.trans {allocates : Prop} (h : Retransmits radius allocates radius₁) (h' : Unlinks radius₁ radius₂)
    (hnum : radius₂.numMsgs = radius₁.numMsgs) : Retransmits radius allocates radius₂ where
  queueInv := h'.queueInv h.queueInv
  counted_iff := (h'.counted_iff h.queueInv).trans h.counted_iff
  walk := h'.walk.trans h.walk
  sublist := h'.sublist.trans h.sublist
  live_iff hnum' p := (h'.live_iff h.queueInv hnum p).trans (h.live_iff (hnum.symm.trans hnum') p)

lemma QueueInv.retransmits_renumber (hinv : QueueInv radius) (p : ℕ) (now : ℤ) (pos : ℕ) {allocates : Prop}
    (hallocates : allocates) : Retransmits radius allocates (radius.renumber crypto p now pos) := by
  obtain ⟨hinv', hcounted⟩ := hinv.renumber crypto p now pos
  have hptr : ((radius.renumber crypto p now pos).msgs.map (·.ptr)) = radius.getId.2.msgs.map (·.ptr) := by
    simp only [RadiusClient.renumber, modifyEntry, List.map_map]
    refine List.map_congr_left fun entry _ => ?_
    simp only [Function.comp_apply]
    split_ifs
    · rfl
    · rfl
  refine ⟨hinv', by simp [hcounted, hallocates], rfl, hptr ▸ List.filter_sublist.map _, fun _ q => ?_⟩
  have hkept : (radius.renumber crypto p now pos).live q ↔ radius.getId.2.live q := by
    rw [live_iff_exists, live_iff_exists, ← List.mem_map, ← List.mem_map, hptr]
  rw [hkept]
  simp only [live_iff_exists, RadiusClient.getId, List.mem_filter, decide_eq_true_eq, hallocates, true_imp_iff]
  exact exists_congr fun entry => by tauto

variable (crypto) in
lemma QueueInv.updateDelayTime (hinv : QueueInv radius) (entry : MsgEntry) (now : ℤ) :
    Retransmits radius (entry.msgType = .acct ∧ entry.msg.acctDelayTime.isSome)
      (radius.updateDelayTime crypto entry now) := by
  rw [RadiusClient.updateDelayTime]
  by_cases hacct : entry.msgType = .acct
  · rw [if_pos hacct]
    cases hdelay : entry.msg.acctDelayTime with
    | none => exact (Unlinks.refl radius).retransmits hinv (by simp)
    | some pos => exact hinv.retransmits_renumber entry.ptr now pos ⟨hacct, rfl⟩
  · rw [if_neg hacct]
    exact (Unlinks.refl radius).retransmits hinv (by simp [hacct])

lemma numMsgs_handleSendError (auth : Bool) (result : SendResult) :
    (radius.handleSendError crypto auth result).numMsgs = radius.numMsgs := by
  cases result with
  | sent => rfl
  | failed => rfl
  | reconnect opened => exact (msgs_initSock auth opened).2

lemma QueueInv.resend (hinv : QueueInv radius) (env : RetransmitEnv) (entry : MsgEntry) (now : ℤ) :
    Retransmits radius (entry.msgType = .acct ∧ entry.msg.acctDelayTime.isSome)
      (radius.resend crypto env entry now).2 := by
  have hstamped := hinv.updateDelayTime crypto entry now
  have hattempt := hstamped.trans (unlinks_modifyEntry entry.ptr
    (f := fun entry => { entry with attempts := entry.attempts + 1 }) fun _ => ⟨rfl, rfl, id, fun _ => rfl, fun _ => rfl⟩) rfl
  have hsent := hattempt.trans (unlinks_handleSendError crypto entry.msgType.isAuth env.result)
    (numMsgs_handleSendError _ _)
  simp only [RadiusClient.resend]
  split
  · exact hsent
  · exact hsent.trans (unlinks_reschedule entry.ptr now) rfl

/-- There is one entry at an address. -/
lemma QueueInv.lookup_eq_some_iff (hinv : QueueInv radius) {p : ℕ} {entry : MsgEntry} :
    radius.lookup p = some entry ↔ entry ∈ radius.msgs ∧ entry.ptr = p := by
  constructor
  · intro h
    exact ⟨List.mem_of_find?_eq_some h, by simpa using List.find?_some h⟩
  · rintro ⟨hentry, rfl⟩
    cases hfind : radius.lookup entry.ptr with
    | none => exact absurd (List.find?_eq_none.mp hfind entry hentry) (by simp)
    | some found =>
      have hptr : found.ptr = entry.ptr := by simpa using List.find?_some hfind
      exact congrArg some (List.inj_on_of_nodup_map hinv.ptrs (List.mem_of_find?_eq_some hfind) hentry hptr)

lemma numMsgs_reopen (auth opened : Bool) : (radius.reopen crypto auth opened).numMsgs = radius.numMsgs := by
  rw [reopen]
  split_ifs
  · rfl
  · exact (msgs_initSock auth opened).2

variable (crypto) in
lemma QueueInv.retransmit (hinv : QueueInv radius) {entry : MsgEntry} (hentry : entry ∈ radius.msgs)
    (env : RetransmitEnv) (now : ℤ) :
    Retransmits radius (radius.Allocates env entry) (radius.retransmit crypto env entry now).2 := by
  have hopen : Unlinks radius (radius.reopen crypto entry.msgType.isAuth env.opened) := unlinks_reopen _ _
  have hchange : Unlinks radius
      ((radius.reopen crypto entry.msgType.isAuth env.opened).tryFailover crypto entry.msgType.isAuth env.connected) :=
    hopen.trans (unlinks_tryFailover _ _)
  have hsock : (((radius.reopen crypto entry.msgType.isAuth env.opened).tryFailover crypto entry.msgType.isAuth
      env.connected).side entry.msgType.isAuth).sock = true ↔ _ := sock_tryFailover _ _ _
  simp only [RadiusClient.retransmit]
  split_ifs with hnum hinterim hclosed
  · -- only authentication messages are removed from the queue here
    refine hchange.retransmits hinv fun hallocates => hnum ?_
    rw [hallocates.1]
    exact numMsgs_tryFailover_acct env.connected
  · refine hchange.retransmits hinv fun hallocates => ?_
    rw [hallocates.1] at hinterim
    exact absurd hinterim (by decide)
  · refine hchange.retransmits hinv fun hallocates => ?_
    rw [Bool.not_eq_true', ← Bool.not_eq_true, hsock] at hclosed
    rw [hallocates.1] at hclosed
    exact hclosed hallocates.2.2
  · have hnum' := (not_not.mp hnum).trans (numMsgs_reopen entry.msgType.isAuth env.opened)
    obtain ⟨f, heq, hf⟩ := hchange.ptrs_eq hinv hnum'
    have hinv' := hchange.queueInv hinv
    have hlookup := hinv'.lookup_eq_some_iff.mpr ⟨heq ▸ List.mem_map_of_mem hentry, (hf entry).ptr⟩
    rw [hlookup, Option.getD_some]
    have hiff : radius.Allocates env entry ↔ (f entry).msgType = .acct ∧ (f entry).msg.acctDelayTime.isSome := by
      rw [(hf entry).msgType, (hf entry).acctDelayTime (hinv.hdr entry hentry), Allocates]
      refine and_congr_right fun hacct => and_iff_left ?_
      have hopened := hsock.mp (by simpa using hclosed)
      rwa [hacct] at hopened
    rw [hiff]
    exact Retransmits.after hinv hchange hnum' (hinv'.resend env (f entry) now)

end Unlinks

end RadiusClient

end Ethanol
