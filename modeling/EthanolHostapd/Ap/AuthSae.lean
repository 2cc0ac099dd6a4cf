import EthanolHostapd.Common.Sae
import EthanolHostapd.Traces.Run

/-!
# Authentication frames of SAE

`handle_auth_sae` and `sae_sm_step` of `ap/ieee802_11.c`, for one station.  `misused` says that a value was
used that is missing, or that the entry of the station was used after `ap_free_sta`; nothing is said of what
comes after that.
-/

namespace Ethanol

/-- The configuration. -/
structure SaeParams where
  /-- `conf->mesh & MESH_ENABLED`. -/
  mesh : Bool := false
  /-- `conf->sae_groups`, up to its end. -/
  saeGroups : Option (List ℕ) := none
  /-- `conf->ssid.wpa_passphrase` is set. -/
  passphrase : Bool := true

/-- An authentication frame. -/
structure SaeFrame where
  authTransaction : ℕ
  statusCode : StatusCode
  /-- `mgmt->u.auth.variable`. -/
  body : List UInt8
  deriving DecidableEq

/-- The outcome of `sae_sm_step`. -/
inductive SaeStep (Element : Type)
  | done (sae : SaeData Element) (status : StatusCode)
  /-- The station was freed. -/
  | freed
  /-- A value was missing. -/
  | missing

variable {Element : Type}

namespace SaeData

variable (p : SaeParams) (env : SaeEnv Element) (sae : SaeData Element)

/-- What follows a computation, if nothing was missing for it. -/
def andThen {α : Type} (result : Option α) (f : α → SaeStep Element) : SaeStep Element :=
  match result with
  | none => .missing
  | some a => f a

/-- `auth_sae_send_commit`; nothing if a value is missing. -/
def sendCommit (update : Bool) : Option (SaeData Element × StatusCode) :=
  if p.passphrase = false then some (sae, .unspecifiedFailure)
  else
    let prepared := if update then sae.prepareCommit env else (sae, true)
    if prepared.2 = false then some (prepared.1, .unspecifiedFailure)
    else if env.commitBufFails then some (prepared.1, .unspecifiedFailure)
    else
      -- `sae_write_commit`
      match prepared.1.tmp with
      | none => some (prepared.1, env.commitReply)
      | some tmp =>
        if tmp.ownCommitScalar.isSome ∧ tmp.ownCommitElement.isSome then
          some (prepared.1, env.commitReply)
        else none

/-- `auth_sae_send_confirm`; nothing if a value is missing. -/
def sendConfirmFrame : Option (SaeData Element × StatusCode) :=
  if env.confirmBufFails then some (sae, .unspecifiedFailure)
  else (sae.writeConfirm env).map fun written => (written.1, env.confirmReply)

/-- `sae_check_big_sync`. -/
def checkBigSync : SaeData Element × Bool :=
  if 5 < sae.sync then ({ sae with state := .nothing, sync := 0 }, true) else (sae, false)

/-- `sae_sm_step` in `SAE_NOTHING`. -/
def smNothing (authTransaction : ℕ) : SaeStep Element :=
  if authTransaction = 1 then
    andThen (sae.sendCommit p env true) fun sent =>
      if sent.2 ≠ .success then .done sent.1 sent.2
      else
        andThen ({ sent.1 with state := .committed }.processCommit env) fun processed =>
          if processed.2 = false then .done processed.1 .unspecifiedFailure
          else if p.mesh then
            andThen (processed.1.sendConfirmFrame env) fun confirm =>
              if confirm.2 ≠ .success then .done confirm.1 confirm.2
              else .done { confirm.1 with state := .confirmed, sync := 0 } .success
          else .done { processed.1 with sync := 0 } .success
  else .done sae .success

/-- `sae_sm_step` in `SAE_CONFIRMED`. -/
def smConfirmed (authTransaction : ℕ) : SaeStep Element :=
  if authTransaction = 1 then
    if sae.checkBigSync.2 then .done sae.checkBigSync.1 .success
    else
      andThen ({ sae with sync := sae.sync + 1 }.sendCommit p env true) fun sent =>
        if sent.2 ≠ .success then .done sent.1 sent.2
        else
          andThen (sent.1.processCommit env) fun processed =>
            if processed.2 = false then .done processed.1 .unspecifiedFailure
            else
              andThen (processed.1.sendConfirmFrame env) fun confirm => .done confirm.1 confirm.2
  -- `sae_accept_sta`
  else .done { sae with state := .accepted } .success

/-- `sae_sm_step` in `SAE_COMMITTED`. -/
def smCommitted (authTransaction : ℕ) : SaeStep Element :=
  if authTransaction = 1 then
    andThen (sae.processCommit env) fun processed =>
      if processed.2 = false then .done processed.1 .unspecifiedFailure
      else
        andThen (processed.1.sendConfirmFrame env) fun confirm =>
          if confirm.2 ≠ .success then .done confirm.1 confirm.2
          else .done { confirm.1 with state := .confirmed, sync := 0 } .success
  else if p.mesh then
    if sae.checkBigSync.2 then .done sae.checkBigSync.1 .success
    else andThen ({ sae with sync := sae.sync + 1 }.sendCommit p env false) fun sent => .done sent.1 sent.2
  else
    andThen (sae.sendConfirmFrame env) fun confirm =>
      if confirm.2 ≠ .success then .done confirm.1 confirm.2
      else { confirm.1 with state := .confirmed }.smConfirmed p env authTransaction

/-- `sae_sm_step` in `SAE_ACCEPTED`. -/
def smAccepted (authTransaction : ℕ) : SaeStep Element :=
  if authTransaction = 1 then .freed
  else if sae.checkBigSync.2 then .done sae.checkBigSync.1 .success
  else
    andThen ({ sae with sync := sae.sync + 1 }.sendConfirmFrame env) fun confirm =>
      .done confirm.1.clearTempData confirm.2

/-- `sae_sm_step`. -/
def smStep (authTransaction : ℕ) : SaeStep Element :=
  if authTransaction ≠ 1 ∧ authTransaction ≠ 2 then .done sae .unspecifiedFailure
  else
    match sae.state with
    | .nothing => sae.smNothing p env authTransaction
    | .committed => sae.smCommitted p env authTransaction
    | .confirmed => sae.smConfirmed p env authTransaction
    | .accepted => sae.smAccepted env authTransaction

/-- The first group after the old one that can be set. -/
def setNextGroup : List ℕ → SaeData Element → SaeData Element
  | [], sae => sae
  | group :: groups, _ =>
    if (setGroup env group).2 then (setGroup env group).1 else setNextGroup groups (setGroup env group).1

/-- `sae_pick_next_group`. -/
def pickNextGroup : SaeData Element :=
  if sae.state ≠ .committed then sae
  else
    match p.saeGroups with
    | none => sae
    | some groups => setNextGroup env (groups.dropWhile (· ≠ sae.group)).tail sae

end SaeData

namespace SaeData

variable {p : SaeParams} {env : SaeEnv Element} {sae sae' : SaeData Element} {status : StatusCode}

/-! ## What one step keeps -/

lemma andThen_done {α : Type} {result : Option α} {f : α → SaeStep Element}
    (h : andThen result f = .done sae status) : ∃ a, result = some a ∧ f a = .done sae status := by
  cases result with
  | none => exact absurd h (by simp [andThen])
  | some a => exact ⟨a, rfl, h⟩

lemma done_inj {status' : StatusCode} (h : SaeStep.done sae status = .done sae' status') :
    sae = sae' ∧ status = status' := by
  injection h with hsae hstatus
  exact ⟨hsae, hstatus⟩

lemma prepareCommit_fst (env : SaeEnv Element) (sae : SaeData Element) :
    ∃ tmp, (sae.prepareCommit env).1 = { sae with tmp := tmp } := by
  unfold prepareCommit
  split
  · exact ⟨sae.tmp, rfl⟩
  split
  · exact ⟨_, rfl⟩
  · exact ⟨_, rfl⟩

/-- A commit is sent. -/
lemma sendCommit_fst {update : Bool} (h : sae.sendCommit p env update = some (sae', status)) :
    sae' = (if update then (sae.prepareCommit env).1 else sae) ∨ sae' = sae := by
  unfold sendCommit at h
  dsimp only at h
  split at h
  · obtain ⟨rfl, -⟩ := Prod.mk.inj (Option.some.inj h)
    exact Or.inr rfl
  have hfst : (if update then sae.prepareCommit env else (sae, true)).1 =
      (if update then (sae.prepareCommit env).1 else sae) := by
    cases update <;> rfl
  rw [← hfst]
  generalize (if update then sae.prepareCommit env else (sae, true)) = prepared at h
  split at h
  · obtain ⟨rfl, -⟩ := Prod.mk.inj (Option.some.inj h)
    exact Or.inl rfl
  split at h
  · obtain ⟨rfl, -⟩ := Prod.mk.inj (Option.some.inj h)
    exact Or.inl rfl
  split at h
  · obtain ⟨rfl, -⟩ := Prod.mk.inj (Option.some.inj h)
    exact Or.inl rfl
  split at h
  · obtain ⟨rfl, -⟩ := Prod.mk.inj (Option.some.inj h)
    exact Or.inl rfl
  · exact absurd h (by simp)

lemma sendCommit_state {update : Bool} (h : sae.sendCommit p env update = some (sae', status)) :
    sae'.state = sae.state := by
  rcases sendCommit_fst h with rfl | rfl
  · obtain ⟨tmp, htmp⟩ := prepareCommit_fst env sae
    split
    · rw [htmp]
    · rfl
  · rfl

/-- A commit is sent again. -/
lemma sendCommit_again (h : sae.sendCommit p env false = some (sae', status)) : sae' = sae := by
  rcases sendCommit_fst h with h | h
  · exact h
  · exact h

lemma sendConfirmFrame_fst (h : sae.sendConfirmFrame env = some (sae', status)) :
    ∃ sendConfirm, sae' = { sae with sendConfirm } := by
  unfold sendConfirmFrame at h
  split at h
  · obtain ⟨rfl, -⟩ := Prod.mk.inj (Option.some.inj h)
    exact ⟨sae.sendConfirm, rfl⟩
  obtain ⟨written, hwritten, heq⟩ := Option.map_eq_some_iff.mp h
  obtain ⟨rfl, -⟩ := Prod.mk.inj heq
  unfold writeConfirm at hwritten
  split at hwritten
  · obtain rfl := Option.some.inj hwritten
    exact ⟨sae.sendConfirm, rfl⟩
  obtain ⟨c, -, hwritten⟩ := Option.bind_eq_some_iff.mp hwritten
  obtain rfl := Option.some.inj hwritten
  exact ⟨_, rfl⟩

lemma checkConfirm_true {data : List UInt8}
    (h : sae.checkConfirm env data = some true) :
    ∃ tmp c, sae.tmp = some tmp ∧ tmp.commits sae.peerCommitScalar = some c ∧
      Verifies env tmp.kck c data := by
  unfold checkConfirm at h
  split at h
  · exact absurd h (by simp)
  cases htmp : sae.tmp with
  | none =>
    rw [htmp] at h
    exact absurd h (by simp)
  | some tmp =>
    rw [htmp] at h
    obtain ⟨c, hc, h⟩ := Option.bind_eq_some_iff.mp h
    exact ⟨tmp, c, rfl, hc, by simpa using h⟩

lemma checkBigSync_fst (h : sae.checkBigSync.2 = true) : sae.checkBigSync.1.state = .nothing := by
  unfold checkBigSync at h ⊢
  split_ifs at h ⊢
  rfl

end SaeData

/-- `struct sta_info`, as far as SAE is concerned. -/
structure SaeSta (Element : Type) where
  sae : Option (SaeData Element) := none
  addedUnassoc : Bool := false
  misused : Bool := false
  deriving DecidableEq

/-- What happens to a station. -/
inductive SaeEvent (Element : Type)
  | frame (f : SaeFrame) (env : SaeEnv Element)
  /-- `auth_sae_retransmit_timer`, in a mesh. -/
  | retransmit (env : SaeEnv Element)
  /-- The entry is added to the driver before a frame is handled. -/
  | addUnassoc
  /-- The station is freed for another reason, and may come back. -/
  | freeSta

namespace SaeSta

variable (p : SaeParams) (env : SaeEnv Element) (sta : SaeSta Element)

/-- The end of `handle_auth_sae`: the driver forgets a station that was refused. -/
def removeSta (sae : Option (SaeData Element)) (resp statusCode : StatusCode) : SaeSta Element :=
  { sta with
    sae := sae
    addedUnassoc := sta.addedUnassoc ∧ resp = .success ∧ statusCode = .success }

/-- The end of `handle_auth_sae` after `sae_sm_step`.  If the station was freed, its entry is still used:
for its address, and for `added_unassoc`. -/
def afterStep (statusCode : StatusCode) : SaeStep Element → SaeSta Element
  | .done sae resp => sta.removeSta (some sae) resp statusCode
  | .freed => { sta with misused := true }
  | .missing => { sta with misused := true }

/-- An anti-clogging token request in a mesh. -/
def tokenRequest (sae : SaeData Element) (f : SaeFrame) : SaeSta Element :=
  if f.body.length < 2 then sta.removeSta (some sae) .unspecifiedFailure f.statusCode
  else
    let allowed := sae.groupAllowed env p.saeGroups (Wire.leNat (f.body.take 2))
    match allowed.1.tmp with
    | none => sta.removeSta (some allowed.1) allowed.2 f.statusCode
    | some tmp =>
      if allowed.2 ≠ .success then sta.removeSta (some allowed.1) allowed.2 f.statusCode
      else if env.tokenFails then
        sta.removeSta (some { allowed.1 with tmp := some { tmp with antiCloggingToken := none } })
          .unspecifiedFailure f.statusCode
      else
        let tmp := { tmp with antiCloggingToken := some (f.body.drop 2) }
        match { allowed.1 with tmp := some tmp }.sendCommit p env false with
        | none => { sta with misused := true }
        | some (sae, resp) =>
          if resp ≠ .success then sta.removeSta (some sae) resp f.statusCode
          else { sta with sae := some { sae with state := .committed, sync := 0 } }

/-- A commit message. -/
def receiveCommit [DecidableEq Element] (sae : SaeData Element) (f : SaeFrame) : SaeSta Element :=
  let parsed := sae.parseCommit env p.saeGroups f.body
  if parsed.2.1 = .silentlyDiscard then sta.removeSta (some parsed.1) parsed.2.1 f.statusCode
  else if parsed.2.2.any (!env.tokenValid ·) then
    sta.removeSta (some parsed.1) .unspecifiedFailure f.statusCode
  else if parsed.2.1 ≠ .success then sta.removeSta (some parsed.1) parsed.2.1 f.statusCode
  else if parsed.2.2 = none ∧ env.useAntiClogging = true then
    sta.removeSta (some (if p.mesh then { parsed.1 with state := .nothing } else parsed.1))
      .antiCloggingTokenReq f.statusCode
  else sta.afterStep f.statusCode (parsed.1.smStep p env 1)

/-- A confirm message. -/
def receiveConfirm (sae : SaeData Element) (f : SaeFrame) : SaeSta Element :=
  if sae.state = .confirmed ∨ sae.state = .accepted ∨ p.mesh = false then
    match sae.checkConfirm env f.body with
    | none => { sta with misused := true }
    | some false => sta.removeSta (some sae) .unspecifiedFailure f.statusCode
    | some true => sta.afterStep f.statusCode (sae.smStep p env 2)
  else sta.afterStep f.statusCode (sae.smStep p env 2)

/-- `handle_auth_sae`, for a station with SAE data. -/
def receive [DecidableEq Element] (sae : SaeData Element) (f : SaeFrame) : SaeSta Element :=
  if f.authTransaction = 1 then
    if p.mesh = true ∧ f.statusCode = .antiCloggingTokenReq ∧ sae.tmp.isSome = true then
      sta.tokenRequest p env sae f
    else if p.mesh = true ∧ f.statusCode = .finiteCyclicGroupNotSupported ∧ sae.tmp.isSome = true then
      sta.removeSta (some (sae.pickNextGroup p env)) .success f.statusCode
    else if f.statusCode ≠ .success then sta.removeSta (some sae) .success f.statusCode
    else sta.receiveCommit p env sae f
  else if f.authTransaction = 2 then
    if f.statusCode ≠ .success then sta.removeSta (some sae) .success f.statusCode
    else sta.receiveConfirm p env sae f
  else if f.statusCode ≠ .success then sta.removeSta (some sae) .success f.statusCode
  else sta.removeSta (some sae) .unknownAuthTransaction f.statusCode

/-- `handle_auth_sae`. -/
def handleAuthSae [DecidableEq Element] (f : SaeFrame) : SaeSta Element :=
  match sta.sae with
  | some sae => sta.receive p env sae f
  | none =>
    if f.authTransaction ≠ 1 ∨ f.statusCode ≠ .success ∨ env.saeFails = true then
      sta.removeSta none (-1) f.statusCode
    else sta.receive p env {} f

/-- `auth_sae_retransmit_timer`. -/
def retransmit (sae : SaeData Element) : SaeSta Element :=
  if sae.checkBigSync.2 then { sta with sae := some sae.checkBigSync.1 }
  else
    let sae := { sae with sync := sae.sync + 1 }
    let sent := match sae.state with
      | .committed => sae.sendCommit p env false
      | .confirmed => sae.sendConfirmFrame env
      | _ => some (sae, -1)
    match sent with
    | none => { sta with misused := true }
    | some (sae, _) => { sta with sae := some sae }

/-- The station after an event. -/
def next [DecidableEq Element] (sta : SaeSta Element) (event : SaeEvent Element) :
    Option (SaeSta Element) :=
  if sta.misused then none
  else
    match event with
    | .frame f env => some (sta.handleAuthSae p env f)
    | .retransmit env =>
      match sta.sae with
      | none => none
      | some sae => if p.mesh then some (sta.retransmit p env sae) else none
    | .addUnassoc => some { sta with addedUnassoc := true }
    | .freeSta => some {}

end SaeSta

/-- Group 19 with small numbers, where nothing fails. -/
def plainSaeEnv : SaeEnv ℕ where
  groupInit n := if n = 19 then .group ⟨.ecc, 1, 100⟩ else .unsupported
  coordinatesValid _ := true
  elementFromBin bytes := some (Wire.leNat bytes)
  elementValid _ := true
  derivePwe := some (7, true)
  rand _ := some 5
  mask _ := some 6
  commitElement _ mask := (mask, true)
  deriveK _ _ _ _ := some [8]
  deriveKeys k n := some ⟨List.replicate 31 1 ++ k, List.replicate 32 2, [UInt8.ofNat n]⟩
  cnConfirm kck _ _ _ _ _ := kck

/-- A commit message with the scalar 2. -/
def plainSaeCommit : SaeFrame := ⟨1, .success, [19, 0, 2, 3, 4]⟩

/-- A confirm message for a KCK. -/
def plainSaeConfirm (kck : List UInt8) : SaeFrame := ⟨2, .success, [0, 0] ++ kck⟩

end Ethanol
