import EthanolHostapd.Ap.StaInfo
import EthanolHostapd.Radius.Authenticators
import EthanolHostapd.Traces.Run

/-!
# The RADIUS client

`radius/radius_client.c`: requests that have been sent are kept in a list until there is a response, and
are sent again from a timer.  A message has an identifier of eight bits; `radius_client_get_id` gives out
the next one and takes a pending request that still has it out of the list.

The timer walks over the list while `radius_client_retransmit` may change it.  One round of this walk is a
step of its own here, and the walk keeps the addresses of the current entry and of the one before it.  If
one of them has been freed when it is used, there is no next step.

What the sockets do is given with each event.  Counters for the statistics and the registration of the
timer are left out, so the timer may run at any time.
-/

namespace Ethanol

/-- `RADIUS_CLIENT_FIRST_WAIT`. -/
def radiusClientFirstWait : ℤ := 3

/-- `RADIUS_CLIENT_MAX_WAIT`. -/
def radiusClientMaxWait : ℤ := 120

/-- `RADIUS_CLIENT_MAX_RETRIES`. -/
def radiusClientMaxRetries : ℕ := 10

/-- `RADIUS_CLIENT_MAX_ENTRIES`. -/
def radiusClientMaxEntries : ℕ := 30

/-- `RADIUS_CLIENT_NUM_FAILOVER`. -/
def radiusClientNumFailover : ℕ := 4

/-- `RADIUS_ATTR_ACCT_DELAY_TIME`. -/
def radiusAttrAcctDelayTime : UInt8 := 41

/-- `RADIUS_CODE_ACCOUNTING_RESPONSE`. -/
def radiusCodeAccountingResponse : UInt8 := 5

/-- `RadiusType`. -/
inductive RadiusType
  | auth
  | acct
  | acctInterim
deriving DecidableEq

/-- Whether messages of this type go to the authentication server. -/
def RadiusType.isAuth : RadiusType → Bool
  | auth => true
  | acct => false
  | acctInterim => false

/-- `RadiusRxResult`. -/
inductive RadiusRxResult
  | processed
  | queued
  | unknown
  | invalidAuthenticator

/-- `struct radius_rx_handler`: the result, and the response, which a check may change. -/
abbrev RadiusRxHandler : Type := RadiusMsg → RadiusMsg → Bytes → RadiusRxResult × RadiusMsg

/-- `struct radius_msg_list`. -/
structure MsgEntry where
  /-- The address of the entry. -/
  ptr : ℕ
  addr : MacAddr
  msg : RadiusMsg
  msgType : RadiusType
  firstTry : ℤ
  nextTry : ℤ
  attempts : ℕ
  nextWait : ℤ
  sharedSecret : Bytes

/-- The configured servers of one kind, by their secrets, the one in use, and whether its socket is open. -/
structure RadiusServers where
  servers : List (Option Bytes)
  server : ℕ
  sock : Bool

/-- The variables of `radius_client_timer`. -/
structure TimerWalk where
  prev : Option ℕ
  entry : Option ℕ
  now : ℤ
  authFailover : Bool
  acctFailover : Bool

/-- `struct radius_client_data`. -/
structure RadiusClient where
  msgs : List MsgEntry
  numMsgs : ℕ
  nextRadiusIdentifier : UInt8
  auth : RadiusServers
  acct : RadiusServers
  /-- The address of the entry that is allocated next. -/
  nextPtr : ℕ
  /-- The timer, while it runs. -/
  walk : Option TimerWalk

/-- How `send` ends: `reconnect` is an error for which the socket is opened again, with the result. -/
inductive SendResult
  | sent
  | failed
  | reconnect (opened : Bool)

namespace RadiusMsg

/-- `radius_msg_get_attr_ptr` for `Acct-Delay-Time`, if its value has four bytes. -/
def acctDelayTime (msg : RadiusMsg) : Option ℕ :=
  (msg.attrPos.find? fun pos => msg.buf.getD pos 0 = radiusAttrAcctDelayTime).filter fun pos =>
    lengthAt msg.buf pos = 2 + 4

end RadiusMsg

namespace RadiusServers

/-- `server->shared_secret`. -/
def secret (s : RadiusServers) (serv : ℕ) : Option Bytes := (s.servers[serv]?).join

/-- The server after the current one. -/
def next (s : RadiusServers) : ℕ := if s.servers.length - 1 < s.server + 1 then 0 else s.server + 1

end RadiusServers

namespace RadiusClient

variable (crypto : RadiusCrypto) (radius : RadiusClient)

/-- The servers for authentication or for accounting. -/
def side : Bool → RadiusServers
  | true => radius.auth
  | false => radius.acct

/-- They are replaced. -/
def setSide (auth : Bool) (s : RadiusServers) : RadiusClient :=
  match auth with
  | true => { radius with auth := s }
  | false => { radius with acct := s }

/-- `radius->auth_sock` and `radius->acct_sock`. -/
def setSock (auth sock : Bool) : RadiusClient := radius.setSide auth { radius.side auth with sock }

/-- The entry at an address. -/
def lookup (p : ℕ) : Option MsgEntry := radius.msgs.find? fun entry => entry.ptr = p

/-- The entry at an address is written. -/
def modifyEntry (p : ℕ) (f : MsgEntry → MsgEntry) : RadiusClient :=
  { radius with msgs := radius.msgs.map fun entry => if entry.ptr = p then f entry else entry }

/-- `radius_client_get_id`. -/
def getId : UInt8 × RadiusClient :=
  let id := radius.nextRadiusIdentifier
  (id, { radius with
    nextRadiusIdentifier := id + 1
    msgs := radius.msgs.filter fun entry => entry.msg.identifier ≠ id })

/-- Entries are unlinked and counted. -/
def unlink (remove : MsgEntry → Bool) : RadiusClient :=
  { radius with
    msgs := radius.msgs.filter fun entry => !remove entry
    numMsgs := radius.numMsgs - (radius.msgs.filter remove).length }

/-- `radius_client_flush`. -/
def flush (onlyAuth : Bool) : RadiusClient := radius.unlink fun entry => !onlyAuth || entry.msgType = .auth

/-- `radius_client_flush_auth`. -/
def flushAuth (addr : MacAddr) : RadiusClient :=
  radius.unlink fun entry => entry.msgType = .auth && entry.addr = addr

/-- `radius_client_update_acct_msgs`. -/
def updateAcctMsgs (secret : Bytes) : RadiusClient :=
  { radius with msgs := radius.msgs.map fun entry =>
      if entry.msgType = .acct then
        { entry with sharedSecret := secret, msg := entry.msg.finishAcct crypto secret }
      else entry }

/-- The retry counters are reset for a new server. -/
def resetRetries (auth : Bool) : RadiusClient :=
  { radius with msgs := radius.msgs.map fun entry =>
      if entry.msgType = (if auth then .auth else .acct) then
        { entry with nextTry := entry.firstTry + radiusClientFirstWait, attempts := 0,
                     nextWait := radiusClientFirstWait * 2 }
      else entry }

/-- The pending messages when another server is taken: with another secret, authentication messages are removed
and accounting messages are finished again. -/
def leaveServer (auth : Bool) (nserv oserv : ℕ) : RadiusClient :=
  let secret := ((radius.side auth).secret nserv).getD []
  if secret = ((radius.side auth).secret oserv).getD [] then radius.resetRetries auth
  else if auth then (radius.flush true).resetRetries auth
  else (radius.updateAcctMsgs crypto secret).resetRetries auth

/-- The part of `radius_change_server` for the pending messages.  Authentication messages are also removed
when the same server is connected again. -/
def changePending (auth : Bool) (nserv : ℕ) : Option ℕ → RadiusClient
  | none => radius
  | some oserv =>
    if oserv ≠ nserv then radius.leaveServer crypto auth nserv oserv
    else if auth then radius.flush true
    else radius

/-- `radius_change_server`, which returns 0 if the socket is connected. -/
def changeServer (auth : Bool) (nserv : ℕ) (oserv : Option ℕ) : Bool → RadiusClient
  | true => (radius.changePending crypto auth nserv oserv).setSock auth true
  | false => radius.changePending crypto auth nserv oserv

/-- `radius_client_auth_failover` and `radius_client_acct_failover`. -/
def failover (auth connected : Bool) : RadiusClient :=
  let old := (radius.side auth).server
  let next := (radius.side auth).next
  (radius.setSide auth { radius.side auth with server := next }).changeServer crypto auth next (some old) connected

/-- `radius_client_init_auth` and `radius_client_init_acct`: there is no old server, so the queue stays as
it is. -/
def initSock (auth opened : Bool) : RadiusClient :=
  ((radius.setSock auth false).changeServer crypto auth (radius.side auth).server none opened)

/-! ## Sending -/

/-- The entry that `radius_client_list_add` makes. -/
def newEntry (ptr : ℕ) (msg : RadiusMsg) (msgType : RadiusType) (secret : Bytes) (addr : MacAddr) (now : ℤ) :
    MsgEntry where
  ptr := ptr
  addr := addr
  msg := msg
  msgType := msgType
  firstTry := now
  nextTry := now + radiusClientFirstWait
  attempts := 1
  nextWait := radiusClientFirstWait * 2
  sharedSecret := secret

/-- `radius_client_list_add`.  If there are too many entries the oldest one goes, unless the new one is the
only one. -/
def listAdd (added : Bool) (msg : RadiusMsg) (msgType : RadiusType) (secret : Bytes) (addr : MacAddr) (now : ℤ) :
    RadiusClient :=
  if !added then radius
  else
    let entry := newEntry radius.nextPtr msg msgType secret addr now
    if radiusClientMaxEntries ≤ radius.numMsgs then
      { radius with nextPtr := radius.nextPtr + 1, msgs := entry :: radius.msgs.dropLast }
    else
      { radius with nextPtr := radius.nextPtr + 1, msgs := entry :: radius.msgs, numMsgs := radius.numMsgs + 1 }

/-- What happens while a request is sent: the socket is opened if it is not, the message is sent, and it is
added to the list unless memory or the event loop have come to an end. -/
structure SendEnv where
  opened : Bool
  result : SendResult
  added : Bool
  now : ℤ

/-- The end of `radius_client_handle_send_error`. -/
def handleSendError (auth : Bool) : SendResult → RadiusClient
  | .sent => radius
  | .failed => radius
  | .reconnect opened => radius.initSock crypto auth opened

/-- The socket for a configured server is opened if it is not. -/
def openForSend (auth opened : Bool) : RadiusClient :=
  if (radius.side auth).server < (radius.side auth).servers.length && !(radius.side auth).sock then
    radius.initSock crypto auth opened
  else radius

/-- `radius_msg_finish` or `radius_msg_finish_acct`. -/
def finishMsg (auth : Bool) (msg : RadiusMsg) (secret : Bytes) : RadiusMsg :=
  match auth with
  | true => (msg.finish crypto (some secret)).2
  | false => msg.finishAcct crypto secret

/-- `radius_client_send`. -/
def send (env : SendEnv) (msg : RadiusMsg) (msgType : RadiusType) (addr : MacAddr) : RadiusClient :=
  let auth := msgType.isAuth
  let radius := radius.openForSend crypto auth env.opened
  if !(radius.side auth).sock then radius
  else
    match (radius.side auth).secret (radius.side auth).server with
    | none => radius
    | some secret =>
      (radius.handleSendError crypto auth env.result).listAdd env.added (finishMsg crypto auth msg secret) msgType secret
        addr env.now

/-- A request of another module: what it puts into the message, and whether it gets as far as sending it. -/
structure Request where
  code : UInt8
  authenticator : Md5Digest
  attrs : List RadiusAttr
  msgType : RadiusType
  addr : MacAddr
  built : Bool

/-- `radius_client_get_id`, `radius_msg_new`, and `radius_client_send`. -/
def request (env : SendEnv) (req : Request) : RadiusClient :=
  let (id, radius) := radius.getId
  match ((RadiusMsg.new req.code id).setAuthenticator req.authenticator).addAttrs req.attrs with
  | none => radius
  | some msg => if req.built then radius.send crypto env msg req.msgType req.addr else radius

/-! ## The timer -/

/-- What happens during `radius_client_retransmit`. -/
structure RetransmitEnv where
  opened : Bool
  connected : Bool
  result : SendResult

/-- An accounting message gets a new identifier and a new `Acct-Delay-Time`, which is at `pos`. -/
def renumber (p : ℕ) (now : ℤ) (pos : ℕ) : RadiusClient :=
  let (id, radius) := radius.getId
  radius.modifyEntry p fun entry =>
    let delayTime := ((now - entry.firstTry) % 2 ^ 32).toNat
    { entry with
      msg := ((entry.msg.put 1 [id]).put (pos + 2) (Wire.beBytes 4 delayTime)).finishAcct crypto entry.sharedSecret }

/-- The next attempt of an entry is scheduled. -/
def reschedule (p : ℕ) (now : ℤ) : RadiusClient :=
  radius.modifyEntry p fun entry =>
    { entry with nextTry := now + entry.nextWait, nextWait := min (entry.nextWait * 2) radiusClientMaxWait }

/-- An accounting message with an `Acct-Delay-Time` is changed before it is sent again. -/
def updateDelayTime (entry : MsgEntry) (now : ℤ) : RadiusClient :=
  match if entry.msgType = .acct then entry.msg.acctDelayTime else none with
  | none => radius
  | some pos => radius.renumber crypto entry.ptr now pos

/-- The lines of `radius_client_retransmit` that send the message.  An authentication message after which
the socket has been opened again is not scheduled. -/
def resend (env : RetransmitEnv) (entry : MsgEntry) (now : ℤ) : Bool × RadiusClient :=
  let auth := entry.msgType.isAuth
  let radius := radius.updateDelayTime crypto entry now
  let radius := radius.modifyEntry entry.ptr fun entry => { entry with attempts := entry.attempts + 1 }
  let radius := radius.handleSendError crypto auth env.result
  match auth, env.result with
  | true, .reconnect _ => (false, radius)
  | _, _ => (radiusClientMaxRetries ≤ entry.attempts + 1, radius.reschedule entry.ptr now)

/-- The first lines of `radius_client_retransmit`: a socket that is not open is opened again. -/
def reopen (auth opened : Bool) : RadiusClient :=
  if (radius.side auth).sock then radius else radius.initSock crypto auth opened

/-- If it is still not open, another server is tried. -/
def tryFailover (auth connected : Bool) : RadiusClient :=
  if !(radius.side auth).sock && 1 < (radius.side auth).servers.length then radius.failover crypto auth connected
  else radius

/-- `radius_client_retransmit`. -/
def retransmit (env : RetransmitEnv) (entry : MsgEntry) (now : ℤ) : Bool × RadiusClient :=
  let auth := entry.msgType.isAuth
  let opened := radius.reopen crypto auth env.opened
  let radius := opened.tryFailover crypto auth env.connected
  if radius.numMsgs ≠ opened.numMsgs then (false, radius)
  else if entry.msgType = .acctInterim then (true, radius)
  else if !(radius.side auth).sock then (true, radius)
  else
    -- the entry as it is after a change of the server
    radius.resend crypto env ((radius.lookup entry.ptr).getD entry) now

/-- The address of the entry that follows. -/
def successor (p : ℕ) : List MsgEntry → Option ℕ
  | [] => none
  | entry :: rest => if entry.ptr = p then rest.head?.map (·.ptr) else successor p rest

/-- Whether there is an entry at the address. -/
def live (p : ℕ) : Bool := radius.msgs.any fun entry => entry.ptr = p

/-- Whether there is an entry at the address, if it is not a null pointer. -/
def liveOrNull : Option ℕ → Bool
  | none => true
  | some p => radius.live p

/-- The first lines of `radius_client_timer`, which returns if there are no entries. -/
def startTimer (now : ℤ) : RadiusClient :=
  { radius with walk := radius.msgs.head?.map fun entry =>
      { prev := none, entry := some entry.ptr, now, authFailover := false, acctFailover := false } }

/-- Whether an entry asks for another server. -/
def wantsFailover (entry : MsgEntry) : Bool :=
  radiusClientNumFailover < entry.attempts || (!(radius.side entry.msgType.isAuth).sock && 0 < entry.attempts)

/-- The call of `radius_client_retransmit`, if it is time for it. -/
def retransmitIfDue (env : RetransmitEnv) (entry : MsgEntry) (now : ℤ) : Bool × RadiusClient :=
  if entry.nextTry ≤ now then radius.retransmit crypto env entry now else (false, radius)

/-- The body of the loop of `radius_client_timer`, with the current entry. -/
def walkEntry (env : RetransmitEnv) (w : TimerWalk) (entry : MsgEntry) : Option RadiusClient :=
  let (remove, after) := radius.retransmitIfDue crypto env entry w.now
  if remove then
    if after.live entry.ptr && after.liveOrNull w.prev then
      some { after.unlink (fun e => e.ptr = entry.ptr) with
        walk := some { w with entry := successor entry.ptr after.msgs } }
    else none
  else if after.numMsgs ≠ radius.numMsgs then
    some { after with walk := some { w with prev := none, entry := after.msgs.head?.map (·.ptr) } }
  else
    let entry := (after.lookup entry.ptr).getD entry
    let failover := after.wantsFailover entry
    some { after with
      walk := some { w with
        prev := some entry.ptr
        entry := successor entry.ptr after.msgs
        authFailover := w.authFailover || (entry.msgType.isAuth && failover)
        acctFailover := w.acctFailover || (!entry.msgType.isAuth && failover) } }

/-- A round of the loop. -/
def walkStep (env : RetransmitEnv) : Option RadiusClient := do
  let w ← radius.walk
  let p ← w.entry
  let entry ← radius.lookup p
  if radius.liveOrNull w.prev then radius.walkEntry crypto env w entry else none

/-- The end of `radius_client_timer`. -/
def finishTimer (authConnected acctConnected : Bool) : Option RadiusClient := do
  let w ← radius.walk
  if w.entry.isNone && radius.liveOrNull w.prev then
    let radius := { radius with walk := none }
    let radius := if w.authFailover then radius.failover crypto true authConnected else radius
    return if w.acctFailover then radius.failover crypto false acctConnected else radius
  else none

/-! ## Receiving -/

/-- Whether a response of this type and with this identifier belongs to the request. -/
def matchesReq (msgType : RadiusType) (id : UInt8) (req : MsgEntry) : Bool :=
  (req.msgType = msgType || (req.msgType = .acctInterim && msgType = .acct)) && req.msg.identifier = id

/-- The handlers are called in turn until one accepts the message. -/
def runHandlers (req : MsgEntry) : List RadiusRxHandler → RadiusMsg → Bool
  | [], _ => false
  | handler :: handlers, msg =>
    match handler msg req.msg req.sharedSecret with
    | (.processed, _) => true
    | (.queued, _) => true
    | (.unknown, msg) => runHandlers req handlers msg
    | (.invalidAuthenticator, msg) => runHandlers req handlers msg

/-- The message and the request that are handed to the handlers.  A datagram that fills the buffer is
dropped. -/
def matchResponse (msgType : RadiusType) (datagram : Bytes) : Option (RadiusMsg × MsgEntry) := do
  if 3000 ≤ datagram.length then none
  else
    let msg ← RadiusMsg.parse datagram
    let req ← radius.msgs.find? (matchesReq msgType msg.identifier)
    return (msg, req)

/-- `radius_client_receive`, and whether a handler has accepted the message. -/
def receive (handlers : List RadiusRxHandler) (msgType : RadiusType) (datagram : Bytes) : RadiusClient × Bool :=
  match radius.matchResponse msgType datagram with
  | none => (radius, false)
  | some (msg, req) =>
    -- the request is unlinked before the handlers see the response
    ({ radius with
        msgs := radius.msgs.eraseP (matchesReq msgType msg.identifier)
        numMsgs := radius.numMsgs - 1 },
      runHandlers req handlers msg)

/-- `accounting_receive`, which is the handler of accounting responses.  The check of a parsed message
without a `Message-Authenticator` always has a result. -/
def accountingReceive : RadiusRxHandler := fun msg req secret =>
  if msg.code ≠ radiusCodeAccountingResponse then (.unknown, msg)
  else
    match (msg.verify crypto secret (some req) false).getD (true, msg) with
    | (true, msg) => (.invalidAuthenticator, msg)
    | (false, msg) => (.processed, msg)

/-! ## The client as a whole -/

/-- One kind of server in `radius_retry_primary_timer`: the primary server is tried again, and if it cannot be
reached, the one from before is connected a second time. -/
def retryPrimary (auth connected reconnected : Bool) : RadiusClient :=
  let s := radius.side auth
  if s.sock && s.servers ≠ [] && s.server ≠ 0 then
    let primary := (radius.setSide auth { s with server := 0 }).changeServer crypto auth 0 (some s.server) connected
    if connected then primary
    else
      (primary.setSide auth { primary.side auth with server := s.server }).changeServer crypto auth s.server
        (some s.server) reconnected
  else radius

/-- `radius_client_reconfig`. -/
def reconfig (auth acct : List (Option Bytes)) : RadiusClient :=
  { radius with auth := { radius.auth with servers := auth, server := 0 },
                acct := { radius.acct with servers := acct, server := 0 } }

/-- What calls the client. -/
inductive ClientEvent
  /-- Another module makes a request. -/
  | request (env : SendEnv) (req : Request)
  /-- The timer is called. -/
  | timer (now : ℤ)
  /-- One round of its loop. -/
  | walk (env : RetransmitEnv)
  /-- It returns. -/
  | timerEnd (authConnected acctConnected : Bool)
  /-- A datagram arrives. -/
  | receive (handlers : List RadiusRxHandler) (msgType : RadiusType) (datagram : Bytes)
  | flush (onlyAuth : Bool)
  | flushAuth (addr : MacAddr)
  | retryPrimary (auth connected reconnected : Bool)
  | reconfig (auth acct : List (Option Bytes))

/-- The state after an event.  Nothing else happens while the timer runs. -/
def next (event : ClientEvent) : Option RadiusClient :=
  match event, radius.walk with
  | .walk env, some _ => radius.walkStep crypto env
  | .timerEnd authConnected acctConnected, some _ => radius.finishTimer crypto authConnected acctConnected
  | .request env req, none => some (radius.request crypto env req)
  | .timer now, none => some (radius.startTimer now)
  | .receive handlers msgType datagram, none => some (radius.receive handlers msgType datagram).1
  | .flush onlyAuth, none => some (radius.flush onlyAuth)
  | .flushAuth addr, none => some (radius.flushAuth addr)
  | .retryPrimary auth connected reconnected, none => some (radius.retryPrimary crypto auth connected reconnected)
  | .reconfig auth acct, none => some (radius.reconfig auth acct)
  | _, _ => none

/-- `radius_client_init`. -/
def init (auth acct : List (Option Bytes)) (authSock acctSock : Bool) : RadiusClient where
  msgs := []
  numMsgs := 0
  nextRadiusIdentifier := 0
  auth := ⟨auth, 0, authSock⟩
  acct := ⟨acct, 0, acctSock⟩
  nextPtr := 0
  walk := none

end RadiusClient

end Ethanol
