import EthanolHostapd.Ap.WpaAuthFt.AuthReq
import EthanolHostapd.Containers.KeyedList

/-!
# Fast transition: pulls and their answers

A request whose PMK-R1 has to be pulled is answered later: the response of the key holder registers a
timer without delay, and `ft_pull_resp_cb_finish`, which then runs, evaluates the request again and
calls back.  The timer holds the address of the station's machine.

A request comes from the station itself, or from the access point that the station is associated with
(over the DS).  `answers` records what the evaluations gave and what was sent; `faulted` says that
`ft_pull_resp_cb_finish` was run without a machine, a request or a callback.
-/

namespace Ethanol

/-- An answer to a request; `serial` is that of a request that had to wait. -/
structure FtAnswer where
  serial : Option ℕ
  cb : FtCb
  /-- The result of `wpa_ft_process_auth_req`. -/
  produced : WlanStatus
  /-- The status in the response, if one is sent. -/
  sent : Option WlanStatus
  deriving DecidableEq

/-- `struct ft_r0kh_r1kh_resp_frame`, after it was decrypted and its R1KH-ID was checked. -/
structure PullResp where
  nonce : Bytes
  s1khId : Bytes
  pmkR1 : Bytes
  pmkR1Name : Bytes
  pairwise : ℕ
  deriving DecidableEq

/-- `struct wpa_authenticator`, as far as pulls are concerned. -/
structure FtAuthenticator where
  cache : List PmkR1Sa := []
  /-- The machines of stations, with their addresses. -/
  machines : List (ℕ × FtSm) := []
  /-- The addresses that timers of `ft_pull_resp_cb_finish` hold. -/
  timers : List ℕ := []
  /-- The address of the next machine. -/
  created : ℕ := 0
  /-- The number of the next evaluation. -/
  requests : ℕ := 0
  answers : List FtAnswer := []
  faulted : Bool := false
  deriving DecidableEq

/-- What happens to an authenticator. -/
inductive FtEvent
  /-- `wpa_auth_sta_init`. -/
  | staInit (addr : Bytes) (wpaKeyMgmt : ℕ)
  /-- `wpa_free_sta_sm`. -/
  | freeStaSm (id : ℕ)
  /-- `wpa_ft_process_auth`. -/
  | processAuth (id : ℕ) (authTransaction : ℕ) (ies : Bytes) (env : AuthReqEnv)
  /-- `wpa_ft_rrb_rx_request`, with the machine that `wpa_ft_add_sta` gives. -/
  | rrbRxRequest (id : ℕ) (currentAp ies : Bytes) (env : AuthReqEnv) (rrbFails : Bool)
  /-- `wpa_ft_rrb_rx_resp`. -/
  | rrbRxResp (resp : PullResp) (storeFails : Bool)
  /-- A timer expires. -/
  | pullRespCbFinish (id : ℕ) (env : AuthReqEnv) (rrbFails : Bool)

namespace FtAuthenticator

variable (p : FtParams) (s : FtAuthenticator)

/-- The machine at an address. -/
def machine (id : ℕ) : Option FtSm := (KeyedList.find Prod.fst id s.machines).map Prod.snd

/-- The machine at an address is overwritten. -/
def setMachine (id : ℕ) (sm : FtSm) : FtAuthenticator :=
  { s with machines := KeyedList.assign Prod.fst id (fun m => (m.1, sm)) s.machines }

/-- `wpa_ft_send_rrb_auth_resp`: the status in the frame, if there is memory for it. -/
def sendRrbAuthResp (status : WlanStatus) (rrbFails : Bool) : Option WlanStatus :=
  if rrbFails then none else some status

/-- The callbacks: the status that is sent. -/
def callback (cb : FtCb) (status : WlanStatus) (rrbFails : Bool) : Option WlanStatus :=
  match cb with
  | .authFtFinish => some status
  | .rrbRxRequest => sendRrbAuthResp .success rrbFails

/-- An evaluation for the machine at an address. -/
def evaluate (id : ℕ) (sm : FtSm) (ies : Bytes) (env : AuthReqEnv) :
    FtAuthenticator × Option WlanStatus :=
  let res := sm.processAuthReq p s.cache env ies s.requests
  ({ s.setMachine id res.1 with requests := s.requests + 1 }, res.2)

/-- A request is answered, unless it has to wait. -/
def answerAtOnce (cb : FtCb) (sent : WlanStatus → Option WlanStatus) :
    FtAuthenticator × Option WlanStatus → FtAuthenticator
  | (s, none) => s
  | (s, some status) => { s with answers := ⟨none, cb, status, sent status⟩ :: s.answers }

/-- `wpa_ft_process_auth`. -/
def processAuth (id authTransaction : ℕ) (ies : Bytes) (env : AuthReqEnv) : Option FtAuthenticator := do
  let sm ← s.machine id
  let sm := { sm with ftPendingCb := some .authFtFinish, ftPendingAuthTransaction := authTransaction }
  some (answerAtOnce .authFtFinish some (s.evaluate p id sm ies env))

/-- `wpa_ft_rrb_rx_request`. -/
def rrbRxRequest (id : ℕ) (currentAp ies : Bytes) (env : AuthReqEnv) (rrbFails : Bool) :
    Option FtAuthenticator := do
  let sm ← s.machine id
  let sm := { sm with ftPendingCb := some .rrbRxRequest, ftPendingCurrentAp := currentAp }
  some (answerAtOnce .rrbRxRequest (sendRrbAuthResp · rrbFails) (s.evaluate p id sm ies env))

/-- The test in `ft_pull_resp_cb`. -/
def awaits (resp : PullResp) (sm : FtSm) : Bool :=
  resp.s1khId = sm.addr ∧ resp.nonce = sm.ftPendingPullNonce ∧ sm.ftPendingCb.isSome = true ∧
    sm.ftPendingReqIes.isSome = true

/-- The machine that `wpa_auth_for_each_sta` finds for a response. -/
def awaiting (resp : PullResp) : Option ℕ :=
  (s.machines.find? fun m => awaits resp m.2).map Prod.fst

/-- `wpa_ft_rrb_rx_resp`. -/
def rrbRxResp (resp : PullResp) (storeFails : Bool) : FtAuthenticator :=
  let s := if storeFails then s
    else { s with cache := ⟨resp.pmkR1, resp.pmkR1Name, resp.s1khId, resp.pairwise⟩ :: s.cache }
  { s with timers := s.timers ++ (s.awaiting resp).toList }

/-- `ft_pull_resp_cb_finish`; a timer can only expire if it is registered. -/
def pullRespCbFinish (id : ℕ) (env : AuthReqEnv) (rrbFails : Bool) : Option FtAuthenticator :=
  if id ∉ s.timers then none
  else
    let s := { s with timers := s.timers.erase id }
    match s.machine id with
    | none => some { s with faulted := true }
    | some sm =>
      match sm.ftPendingReqIes, sm.ftPendingCb with
      | some req, some cb =>
        let res := sm.processAuthReq p s.cache env req.ies s.requests
        let status := res.2.getD .unspecifiedFailure
        some { s.setMachine id { res.1 with ftPendingReqIes := none } with
          requests := s.requests + 1
          answers := ⟨some req.serial, cb, status, callback cb status rrbFails⟩ :: s.answers }
      | _, _ => some { s with faulted := true }

/-- The authenticator after an event; nothing is said of what comes after a fault. -/
def next (s : FtAuthenticator) (event : FtEvent) : Option FtAuthenticator :=
  if s.faulted then none
  else
    match event with
    | .staInit addr wpaKeyMgmt =>
      some { s with machines := (s.created, { addr, wpaKeyMgmt }) :: s.machines, created := s.created + 1 }
    | .freeStaSm id =>
      if (s.machine id).isNone then none
      else some { s with machines := KeyedList.remove Prod.fst id s.machines }
    | .processAuth id authTransaction ies env => s.processAuth p id authTransaction ies env
    | .rrbRxRequest id currentAp ies env rrbFails => s.rrbRxRequest p id currentAp ies env rrbFails
    | .rrbRxResp resp storeFails => some (s.rrbRxResp resp storeFails)
    | .pullRespCbFinish id env rrbFails => s.pullRespCbFinish p id env rrbFails

/-! ## The status over the DS -/

variable {p : FtParams} {s s' : FtAuthenticator}

/-- The status that is sent over the DS is the one that the evaluation gave. -/
def Agrees (answer : FtAnswer) : Prop :=
  answer.cb = .rrbRxRequest → ∀ status ∈ answer.sent, status = answer.produced

/-- If an event answers a request that had to wait, over the DS and with a frame, nothing is missing for
the evaluation to succeed. -/
def RepeatSucceeds (p : FtParams) (s : FtAuthenticator) : FtEvent → Prop
  | .pullRespCbFinish id env rrbFails => rrbFails = false → ∀ sm req, s.machine id = some sm →
      sm.ftPendingReqIes = some req → sm.ftPendingCb = some .rrbRxRequest →
      FtSm.Succeeds p s.cache env sm req.ies
  | _ => True

lemma answers_answerAtOnce {cb : FtCb} {sent : WlanStatus → Option WlanStatus} {id : ℕ} {sm : FtSm}
    {ies : Bytes} {env : AuthReqEnv} {a : FtAnswer}
    (h : (answerAtOnce cb sent (s.evaluate p id sm ies env)).answers = a :: s.answers) :
    ∃ status, a = ⟨none, cb, status, sent status⟩ := by
  have hanswers : (s.evaluate p id sm ies env).1.answers = s.answers := rfl
  generalize s.evaluate p id sm ies env = res at h hanswers
  obtain ⟨s₁, _ | status⟩ := res
  · rw [answerAtOnce, hanswers] at h
    exact absurd h (by simp)
  · exact ⟨status, (List.cons.inj h).1.symm⟩

lemma agrees_processAuth {id authTransaction : ℕ} {ies : Bytes} {env : AuthReqEnv}
    (h : s.processAuth p id authTransaction ies env = some s') {a : FtAnswer}
    (ha : s'.answers = a :: s.answers) : Agrees a := by
  obtain ⟨sm, -, h⟩ := Option.bind_eq_some_iff.mp h
  obtain rfl := Option.some.inj h
  obtain ⟨status, rfl⟩ := answers_answerAtOnce ha
  intro hcb
  exact absurd hcb (by simp)

lemma agrees_rrbRxRequest {id : ℕ} {currentAp ies : Bytes} {env : AuthReqEnv} {rrbFails : Bool}
    (h : s.rrbRxRequest p id currentAp ies env rrbFails = some s') {a : FtAnswer}
    (ha : s'.answers = a :: s.answers) : Agrees a := by
  obtain ⟨sm, -, h⟩ := Option.bind_eq_some_iff.mp h
  obtain rfl := Option.some.inj h
  obtain ⟨status, rfl⟩ := answers_answerAtOnce ha
  intro _ sent hsent
  simp only [sendRrbAuthResp] at hsent
  split at hsent
  · exact absurd hsent (by simp)
  · exact (Option.some.inj hsent).symm

lemma eq_some_success_of_getD {status : Option WlanStatus}
    (h : status.getD .unspecifiedFailure = .success) : status = some .success := by
  cases status with
  | none => exact absurd h (by simp)
  | some status => exact congrArg some h

/-- The callback over the DS always says that the request succeeded. -/
lemma agrees_pullRespCbFinish {id : ℕ} {env : AuthReqEnv} {rrbFails : Bool}
    (h : s.pullRespCbFinish p id env rrbFails = some s') :
    (∀ a, s'.answers = a :: s.answers → Agrees a) ↔
      RepeatSucceeds p s (.pullRespCbFinish id env rrbFails) := by
  unfold pullRespCbFinish at h
  split at h
  · exact absurd h (by simp)
  have hmachine : FtAuthenticator.machine { s with timers := s.timers.erase id } id = s.machine id := rfl
  dsimp only at h
  rw [hmachine] at h
  cases hid : s.machine id with
  | none =>
    rw [hid] at h
    obtain rfl := Option.some.inj h
    refine iff_of_true (fun a ha => absurd ha (by simp)) ?_
    intro _ sm _ hsm
    exact absurd (hid.symm.trans hsm) (by simp)
  | some sm =>
    rw [hid] at h
    dsimp only at h
    split at h
    · rename_i req cb hreq hcb
      obtain rfl := Option.some.inj h
      have hevaluated : (sm.processAuthReq p s.cache env req.ies s.requests).2 = some .success ↔
          FtSm.Succeeds p s.cache env sm req.ies := FtSm.processAuthReq_success
      constructor
      · intro hagrees hframe sm' req' hsm hreq' hcb'
        obtain rfl := Option.some.inj (hid.symm.trans hsm)
        obtain rfl := Option.some.inj (hreq.symm.trans hreq')
        obtain rfl := Option.some.inj (hcb.symm.trans hcb')
        have hstatus := hagrees _ rfl rfl .success (by simp [callback, sendRrbAuthResp, hframe])
        refine hevaluated.mp ?_
        exact eq_some_success_of_getD hstatus.symm
      · intro hrepeat a ha
        obtain ⟨rfl, -⟩ := List.cons.inj ha
        intro hrrb status hsent
        obtain rfl : cb = .rrbRxRequest := hrrb
        simp only [callback, sendRrbAuthResp] at hsent
        split at hsent
        · exact absurd hsent (by simp)
        · rename_i hframe
          have hsuccess := hevaluated.mpr (hrepeat (by simpa using hframe) sm req hid hreq hcb)
          have hstatus : (sm.processAuthReq p s.cache env req.ies s.requests).2.getD
              WlanStatus.unspecifiedFailure = .success := by
            rw [hsuccess]
            rfl
          exact (Option.some.inj hsent).symm.trans hstatus.symm
    · rename_i hmissing
      obtain rfl := Option.some.inj h
      refine iff_of_true (fun a ha => absurd ha (by simp)) ?_
      intro _ sm' req hsm hreq hcb
      obtain rfl := Option.some.inj (hid.symm.trans hsm)
      exact absurd hcb (hmissing req .rrbRxRequest hreq)

/-- The answer that an event gives over the DS has the status of the evaluation, if and only if the
evaluation of a request that had to wait succeeds. -/
theorem agrees_iff_repeatSucceeds {event : FtEvent} (h : s.next p event = some s') :
    (∀ a, s'.answers = a :: s.answers → Agrees a) ↔ RepeatSucceeds p s event := by
  unfold next at h
  split at h
  · exact absurd h (by simp)
  cases event with
  | staInit addr wpaKeyMgmt =>
    obtain rfl := Option.some.inj h
    exact iff_of_true (fun a ha => absurd ha (by simp)) trivial
  | freeStaSm id =>
    dsimp only at h
    split at h
    · exact absurd h (by simp)
    · obtain rfl := Option.some.inj h
      exact iff_of_true (fun a ha => absurd ha (by simp)) trivial
  | processAuth id authTransaction ies env =>
    exact iff_of_true (fun a ha => agrees_processAuth h ha) trivial
  | rrbRxRequest id currentAp ies env rrbFails =>
    exact iff_of_true (fun a ha => agrees_rrbRxRequest h ha) trivial
  | rrbRxResp resp storeFails =>
    obtain rfl := Option.some.inj h
    have hanswers : (s.rrbRxResp resp storeFails).answers = s.answers := by
      unfold rrbRxResp
      cases storeFails <;> rfl
    refine iff_of_true (fun a ha => ?_) trivial
    rw [hanswers] at ha
    exact absurd ha (by simp)
  | pullRespCbFinish id env rrbFails => exact agrees_pullRespCbFinish h

end FtAuthenticator

/-- Elements and keys that spell out what they are made of. -/
def plainFtParams : FtParams where
  parseIes
    | [snonce, r0kh, pmkid] => some ⟨some [1], some [snonce], some [r0kh], some [pmkid]⟩
    | _ => none
  mobilityDomain := [1]
  derivePmkR1Name pmkR0Name spa := pmkR0Name ++ spa
  pmkR1ToPtk pmkR1 sNonce aNonce _ _ _ _ := some ⟨pmkR1 ++ sNonce ++ aNonce⟩
  r0khList := [[7]]
  validPairwise _ := true
  cipherKeyLen _ := 16
  writeRsnIe pmkid := some pmkid
  writeMdie := some [1]
  writeFtie r0khId aNonce sNonce := some (r0khId ++ aNonce ++ sNonce)

/-- Nothing fails. -/
def plainFtEnv : AuthReqEnv := { pullNonce := some [5], aNonce := some [6] }

/-- A request comes over the DS, and the response to the pull has a PMK-R1 under some name. -/
def pulledOverTheDs (pmkR1Name : Bytes) : List FtEvent := [
  .staInit [9] 0,
  .rrbRxRequest 0 [] [2, 7, 3] plainFtEnv false,
  .rrbRxResp ⟨[5], [9], [8], pmkR1Name, 1⟩ false]

namespace FtAuthenticator

/-- The name is the one that was asked for. -/
theorem agrees_iff_repeatSucceeds_pulled :
    ∃ s s', Trace.Run (next plainFtParams) {} (pulledOverTheDs [3, 9]) s ∧
      s.next plainFtParams (.pullRespCbFinish 0 plainFtEnv false) = some s' ∧
      s'.answers = [⟨some 0, .rrbRxRequest, .success, some .success⟩] ∧
      RepeatSucceeds plainFtParams s (.pullRespCbFinish 0 plainFtEnv false) := by
  have h : ((Trace.exec (next plainFtParams) {} (pulledOverTheDs [3, 9])).bind fun s =>
      (s.next plainFtParams (.pullRespCbFinish 0 plainFtEnv false)).map fun s' =>
        (s.answers, s'.answers)) =
      some ([], [⟨some 0, .rrbRxRequest, .success, some .success⟩]) := by decide +kernel
  obtain ⟨s, hexec, h⟩ := Option.bind_eq_some_iff.mp h
  obtain ⟨s', hnext, h⟩ := Option.map_eq_some_iff.mp h
  obtain ⟨hbefore, hafter⟩ := Prod.mk.inj h
  refine ⟨s, s', Trace.run_iff_exec.mpr hexec, hnext, hafter, (agrees_iff_repeatSucceeds hnext).mp ?_⟩
  intro a ha
  rw [hafter, hbefore] at ha
  obtain ⟨rfl, -⟩ := List.cons.inj ha
  intro _ status hstatus
  exact (Option.some.inj hstatus).symm

/-- The name is another one: the evaluation fails, and success is reported. -/
theorem pulled_reports_success :
    ∃ s s' a, Trace.Run (next plainFtParams) {} (pulledOverTheDs [4, 9]) s ∧
      s.next plainFtParams (.pullRespCbFinish 0 plainFtEnv false) = some s' ∧
      s'.answers = a :: s.answers ∧ a.cb = .rrbRxRequest ∧ a.produced = .unspecifiedFailure ∧
      a.sent = some .success ∧ ¬ Agrees a := by
  have h : ((Trace.exec (next plainFtParams) {} (pulledOverTheDs [4, 9])).bind fun s =>
      (s.next plainFtParams (.pullRespCbFinish 0 plainFtEnv false)).map fun s' =>
        (s.answers, s'.answers)) =
      some ([], [⟨some 0, .rrbRxRequest, .unspecifiedFailure, some .success⟩]) := by decide +kernel
  obtain ⟨s, hexec, h⟩ := Option.bind_eq_some_iff.mp h
  obtain ⟨s', hnext, h⟩ := Option.map_eq_some_iff.mp h
  obtain ⟨hbefore, hafter⟩ := Prod.mk.inj h
  refine ⟨s, s', ⟨some 0, .rrbRxRequest, .unspecifiedFailure, some .success⟩,
    Trace.run_iff_exec.mpr hexec, hnext, by rw [hbefore, hafter], rfl, rfl, rfl, ?_⟩
  intro hagrees
  exact absurd (hagrees rfl .success rfl) (by simp)

/-! ## The requests that wait -/

variable {p : FtParams} {s s' : FtAuthenticator} {id : ℕ} {sm : FtSm}

/-- The number of the request that waits at a machine. -/
def pendingSerial (m : ℕ × FtSm) : Option ℕ := m.2.ftPendingReqIes.map PendingReq.serial

/-- The numbers of the requests that wait. -/
def pendingSerials (s : FtAuthenticator) : List ℕ := s.machines.filterMap pendingSerial

/-- The numbers of the requests that were answered after they had to wait, with repetitions. -/
def answeredSerials (s : FtAuthenticator) : List ℕ := s.answers.filterMap FtAnswer.serial

/-- The invariant: a timer that is registered finds a machine with a request, and no request is both
answered and waiting. -/
structure PullsKept (s : FtAuthenticator) : Prop where
  running : s.faulted = false
  distinct : KeyedList.Distinct Prod.fst s.machines
  created : ∀ m ∈ s.machines, m.1 < s.created
  cb : ∀ m ∈ s.machines, m.2.ftPendingReqIes.isSome = true → m.2.ftPendingCb.isSome = true
  timers : s.timers.Nodup
  waiting : ∀ id ∈ s.timers, ∃ sm, s.machine id = some sm ∧ sm.ftPendingReqIes.isSome = true
  nodup : (s.answeredSerials ++ s.pendingSerials).Nodup
  bounded : ∀ n ∈ s.answeredSerials ++ s.pendingSerials, n < s.requests

lemma mem_machines (h : s.machine id = some sm) : (id, sm) ∈ s.machines := by
  obtain ⟨m, hfind, rfl⟩ := Option.map_eq_some_iff.mp h
  have hkey := KeyedList.key_of_find hfind
  have hmem := KeyedList.mem_of_find hfind
  rwa [← hkey]

lemma find_machine (h : s.machine id = some sm) :
    KeyedList.find Prod.fst id s.machines = some (id, sm) := by
  obtain ⟨m, hfind, rfl⟩ := Option.map_eq_some_iff.mp h
  rw [hfind, ← KeyedList.key_of_find hfind]

/-- The numbers of the other machines. -/
def otherSerials (s : FtAuthenticator) (id : ℕ) : List ℕ :=
  (KeyedList.remove Prod.fst id s.machines).filterMap pendingSerial

lemma pendingSerials_perm (h : s.machine id = some sm) :
    s.pendingSerials.Perm ((pendingSerial (id, sm)).toList ++ s.otherSerials id) := by
  have hperm := (KeyedList.perm_remove (find_machine h)).filterMap pendingSerial
  rw [List.filterMap_cons] at hperm
  cases hserial : pendingSerial (id, sm) with
  | none =>
    rw [hserial] at hperm
    exact hperm
  | some n =>
    rw [hserial] at hperm
    exact hperm

lemma pendingSerials_setMachine_perm (h : s.machine id = some sm) (sm' : FtSm) :
    (s.setMachine id sm').pendingSerials.Perm
      ((pendingSerial (id, sm')).toList ++ s.otherSerials id) := by
  have hperm := (KeyedList.perm_assign (find_machine h) fun m => (m.1, sm')).filterMap pendingSerial
  rw [List.filterMap_cons] at hperm
  cases hserial : pendingSerial (id, sm') with
  | none =>
    dsimp only at hperm
    rw [hserial] at hperm
    exact hperm
  | some n =>
    dsimp only at hperm
    rw [hserial] at hperm
    exact hperm

lemma machine_setMachine (s : FtAuthenticator) (id id' : ℕ) (sm' : FtSm) :
    (s.setMachine id sm').machine id' =
      if id' = id then (s.machine id).map fun _ => sm' else s.machine id' := by
  have hkey : ∀ m : ℕ × FtSm, Prod.fst (m.1, sm') = m.1 := fun _ => rfl
  unfold machine setMachine
  dsimp only
  rw [KeyedList.find_assign (f := fun m => (m.1, sm')) hkey]
  split
  · rw [Option.map_map, Option.map_map]
    rfl
  · rfl

lemma mem_setMachine (s : FtAuthenticator) (h : s.machine id = some sm) (sm' : FtSm) {m : ℕ × FtSm}
    (hm : m ∈ (s.setMachine id sm').machines) : m = (id, sm') ∨ m ∈ s.machines := by
  have hperm := KeyedList.perm_assign (find_machine h) fun m => (m.1, sm')
  rcases List.mem_cons.mp (hperm.mem_iff.mp hm) with heq | hrest
  · exact Or.inl heq
  · exact Or.inr ((KeyedList.remove_sublist id s.machines).subset hrest)

lemma keys_setMachine (s : FtAuthenticator) (id : ℕ) (sm' : FtSm) :
    (s.setMachine id sm').machines.map Prod.fst = s.machines.map Prod.fst := by
  refine KeyedList.map_key_assign ?_ id s.machines
  exact fun _ => rfl

namespace PullsKept

/-- A machine is overwritten after an evaluation, and the request that waited there is kept, given up or
replaced by the new one. -/
lemma setMachine (h : s.PullsKept) (hm : s.machine id = some sm) (sm' : FtSm)
    (hcb : sm'.ftPendingReqIes.isSome = true → sm'.ftPendingCb.isSome = true)
    (hserial : pendingSerial (id, sm') = pendingSerial (id, sm) ∨ pendingSerial (id, sm') = none ∨
      pendingSerial (id, sm') = some s.requests)
    (htimer : id ∈ s.timers → sm'.ftPendingReqIes.isSome = true) :
    PullsKept { s.setMachine id sm' with requests := s.requests + 1 } := by
  have hbefore := pendingSerials_perm hm
  have hafter := pendingSerials_setMachine_perm hm sm'
  have hold : (s.answeredSerials ++ ((pendingSerial (id, sm)).toList ++ s.otherSerials id)).Nodup :=
    (hbefore.append_left _).nodup_iff.mp h.nodup
  have hbound : ∀ n ∈ s.answeredSerials ++ ((pendingSerial (id, sm)).toList ++ s.otherSerials id),
      n < s.requests := fun n hn => h.bounded n ((hbefore.append_left _).mem_iff.mpr hn)
  have hmem : ∀ m ∈ (s.setMachine id sm').machines, m = (id, sm') ∨ m ∈ s.machines :=
    fun m hm' => mem_setMachine s hm sm' hm'
  constructor
  · exact h.running
  · have hkeys := keys_setMachine s id sm'
    unfold KeyedList.Distinct
    exact hkeys ▸ h.distinct
  · intro m hm'
    rcases hmem m hm' with rfl | hm'
    · exact h.created (id, sm) (mem_machines hm)
    · exact h.created m hm'
  · intro m hm'
    rcases hmem m hm' with rfl | hm'
    · exact hcb
    · exact h.cb m hm'
  · exact h.timers
  · intro id' hid'
    have hfind := machine_setMachine s id id' sm'
    by_cases heq : id' = id
    · subst heq
      rw [if_pos rfl, hm] at hfind
      exact ⟨sm', hfind, htimer hid'⟩
    · rw [if_neg heq] at hfind
      obtain ⟨sm₁, hsm₁, hpending⟩ := h.waiting id' hid'
      exact ⟨sm₁, hfind.trans hsm₁, hpending⟩
  · refine (hafter.append_left _).nodup_iff.mpr ?_
    rcases hserial with heq | heq | heq
    · rw [heq]
      exact hold
    · rw [heq]
      exact hold.sublist ((List.sublist_append_right _ _).append_left _)
    · rw [heq]
      have hothers : (s.answeredSerials ++ s.otherSerials id).Nodup :=
        hold.sublist ((List.sublist_append_right _ _).append_left _)
      have hnew : s.requests ∉ s.answeredSerials ++ s.otherSerials id := by
        intro hn
        have hsub := ((List.sublist_append_right (pendingSerial (id, sm)).toList
          (s.otherSerials id)).append_left s.answeredSerials).subset hn
        exact absurd (hbound _ hsub) (Nat.lt_irrefl _)
      exact List.perm_middle.nodup_iff.mpr (List.nodup_cons.mpr ⟨hnew, hothers⟩)
  · intro n hn
    have hn' : n ∈ s.answeredSerials ++ ((pendingSerial (id, sm')).toList ++ s.otherSerials id) :=
      (hafter.append_left _).mem_iff.mp hn
    have hlt : n = s.requests ∨ n < s.requests := by
      rcases List.mem_append.mp hn' with ha | ha
      · exact Or.inr (h.bounded n (List.mem_append_left _ ha))
      · rcases List.mem_append.mp ha with hs | ho
        · rcases hserial with heq | heq | heq
          · rw [heq] at hs
            exact Or.inr (hbound n (List.mem_append_right _ (List.mem_append_left _ hs)))
          · rw [heq] at hs
            exact absurd hs List.not_mem_nil
          · rw [heq] at hs
            exact Or.inl (List.mem_singleton.mp hs)
        · exact Or.inr (hbound n (List.mem_append_right _ (List.mem_append_right _ ho)))
    change n < s.requests + 1
    omega

/-- A request that does not have to wait is answered. -/
lemma answerAtOnce {cb : FtCb} {sent : WlanStatus → Option WlanStatus}
    {res : FtAuthenticator × Option WlanStatus} (h : res.1.PullsKept) :
    (FtAuthenticator.answerAtOnce cb sent res).PullsKept := by
  obtain ⟨s, _ | status⟩ := res
  · exact h
  · exact ⟨h.running, h.distinct, h.created, h.cb, h.timers, h.waiting, h.nodup, h.bounded⟩

/-- An evaluation for a machine that has a callback. -/
lemma evaluate (p : FtParams) (env : AuthReqEnv) (ies : Bytes) (sm₁ : FtSm) (h : s.PullsKept)
    (hm : s.machine id = some sm) (haddr : sm₁.addr = sm.addr)
    (hpending : sm₁.ftPendingReqIes = sm.ftPendingReqIes) (hcb : sm₁.ftPendingCb.isSome = true)
    (hlost : id ∈ s.timers → ¬ FtSm.CopyLost p s.cache env sm ies) :
    (s.evaluate p id sm₁ ies env).1.PullsKept := by
  obtain ⟨hsame, hreq⟩ := FtSm.processAuthReq_pending p s.cache env sm₁ ies s.requests
  refine h.setMachine hm _ (fun _ => hsame.ftPendingCb ▸ hcb) ?_ ?_
  · unfold pendingSerial
    dsimp only
    rcases hreq with ⟨-, hnew⟩ | ⟨-, hkept | ⟨-, hnone⟩⟩
    · rw [hnew]
      exact Or.inr (Or.inr rfl)
    · rw [hkept, hpending]
      exact Or.inl rfl
    · rw [hnone]
      exact Or.inr (Or.inl rfl)
  · intro htimer
    obtain ⟨sm', hsm', hwaits⟩ := h.waiting id htimer
    obtain rfl := Option.some.inj (hsm'.symm.trans hm)
    rcases hreq with ⟨-, hnew⟩ | ⟨-, hkept | ⟨hcopy, -⟩⟩
    · rw [hnew]
      rfl
    · rw [hkept, hpending]
      exact hwaits
    · refine absurd ?_ (hlost htimer)
      unfold FtSm.CopyLost at hcopy ⊢
      rw [← haddr]
      exact hcopy

lemma processAuth (h : s.PullsKept) {authTransaction : ℕ} {ies : Bytes} {env : AuthReqEnv}
    (hlost : id ∈ s.timers → ∀ sm, s.machine id = some sm → ¬ FtSm.CopyLost p s.cache env sm ies)
    (hnext : s.processAuth p id authTransaction ies env = some s') : s'.PullsKept := by
  obtain ⟨sm, hm, hnext⟩ := Option.bind_eq_some_iff.mp hnext
  obtain rfl := Option.some.inj hnext
  refine answerAtOnce (h.evaluate p env ies _ hm rfl rfl rfl ?_)
  exact fun htimer => hlost htimer sm hm

lemma rrbRxRequest (h : s.PullsKept) {currentAp ies : Bytes} {env : AuthReqEnv} {rrbFails : Bool}
    (hlost : id ∈ s.timers → ∀ sm, s.machine id = some sm → ¬ FtSm.CopyLost p s.cache env sm ies)
    (hnext : s.rrbRxRequest p id currentAp ies env rrbFails = some s') : s'.PullsKept := by
  obtain ⟨sm, hm, hnext⟩ := Option.bind_eq_some_iff.mp hnext
  obtain rfl := Option.some.inj hnext
  refine answerAtOnce (h.evaluate p env ies _ hm rfl rfl rfl ?_)
  exact fun htimer => hlost htimer sm hm

lemma rrbRxResp (h : s.PullsKept) {resp : PullResp} {storeFails : Bool}
    (hfirst : ∀ id ∈ s.awaiting resp, id ∉ s.timers) : (s.rrbRxResp resp storeFails).PullsKept := by
  have hkept : ∀ cache, PullsKept { s with
      cache := cache
      timers := s.timers ++ (s.awaiting resp).toList } := by
    intro cache
    refine ⟨h.running, h.distinct, h.created, h.cb, ?_, ?_, h.nodup, h.bounded⟩
    · refine List.nodup_append.mpr ⟨h.timers, ?_, ?_⟩
      · cases s.awaiting resp <;> simp
      · intro id hid id' hid' heq
        exact hfirst id' (Option.mem_toList.mp hid') (heq ▸ hid)
    · intro id hid
      rcases List.mem_append.mp hid with hid | hid
      · exact h.waiting id hid
      · obtain ⟨m, hfind, rfl⟩ := Option.map_eq_some_iff.mp (Option.mem_toList.mp hid)
        have hawaits : awaits resp m.2 = true := by
          have h := List.find?_some hfind
          exact h
        have hmachine : s.machine m.1 = some m.2 := by
          unfold machine
          rw [KeyedList.find_of_mem h.distinct (List.mem_of_find?_eq_some hfind)]
          rfl
        refine ⟨m.2, hmachine, ?_⟩
        simp only [awaits, decide_eq_true_eq] at hawaits
        exact hawaits.2.2.2
  unfold FtAuthenticator.rrbRxResp
  cases storeFails
  · exact hkept _
  · exact hkept _

lemma eraseTimer (h : s.PullsKept) (id : ℕ) :
    PullsKept { s with timers := s.timers.erase id } :=
  ⟨h.running, h.distinct, h.created, h.cb, h.timers.erase id,
    fun id' hid' => h.waiting id' (List.mem_of_mem_erase hid'), h.nodup, h.bounded⟩

/-- The request that waits is answered, and a pull that the evaluation starts is given up. -/
lemma pullRespCbFinish (h : s.PullsKept) {env : AuthReqEnv} {rrbFails : Bool}
    (hnext : s.pullRespCbFinish p id env rrbFails = some s') : s'.PullsKept := by
  unfold FtAuthenticator.pullRespCbFinish at hnext
  split at hnext
  · exact absurd hnext (by simp)
  rename_i htimer
  rw [not_not] at htimer
  obtain ⟨sm, hm, hwaits⟩ := h.waiting id htimer
  obtain ⟨req, hreq⟩ := Option.isSome_iff_exists.mp hwaits
  obtain ⟨cb, hcb⟩ := Option.isSome_iff_exists.mp (h.cb _ (mem_machines hm) hwaits)
  have hmachine : FtAuthenticator.machine { s with timers := s.timers.erase id } id = s.machine id := rfl
  have hcb' : sm.ftPendingCb = some cb := hcb
  dsimp only at hnext
  rw [hmachine, hm] at hnext
  dsimp only at hnext
  rw [hreq, hcb'] at hnext
  obtain rfl := Option.some.inj hnext
  have herased : id ∉ s.timers.erase id := h.timers.not_mem_erase
  have hkept := (h.eraseTimer id).setMachine hm
    { (sm.processAuthReq p s.cache env req.ies s.requests).1 with ftPendingReqIes := none }
    (fun hnone => absurd hnone (by simp)) (Or.inr (Or.inl rfl)) (fun hmem => absurd hmem herased)
  have hserial : pendingSerial (id, sm) = some req.serial := by
    unfold pendingSerial
    rw [hreq]
    rfl
  have hbefore := (pendingSerials_perm hm).append_left s.answeredSerials
  rw [hserial] at hbefore
  have hafter := (pendingSerials_setMachine_perm hm
    { (sm.processAuthReq p s.cache env req.ies s.requests).1 with
      ftPendingReqIes := none }).append_left s.answeredSerials
  have hmoved := (hbefore.trans List.perm_middle).trans (hafter.symm.cons req.serial)
  refine ⟨hkept.running, hkept.distinct, hkept.created, hkept.cb, hkept.timers, hkept.waiting, ?_, ?_⟩
  · exact hmoved.nodup_iff.mp h.nodup
  · intro n hn
    have hlt := h.bounded n (hmoved.mem_iff.mpr hn)
    exact Nat.lt_succ_of_lt hlt

lemma staInit (h : s.PullsKept) (sm : FtSm) (hsm : sm.ftPendingReqIes = none) :
    PullsKept { s with machines := (s.created, sm) :: s.machines, created := s.created + 1 } := by
  have hnew : s.created ∉ s.machines.map Prod.fst := by
    intro hmem
    obtain ⟨m, hm, heq⟩ := List.mem_map.mp hmem
    exact absurd (h.created m hm) (by omega)
  have hserials : pendingSerials { s with
      machines := (s.created, sm) :: s.machines, created := s.created + 1 } = s.pendingSerials := by
    unfold pendingSerials
    rw [List.filterMap_cons_none]
    unfold pendingSerial
    dsimp only
    rw [hsm]
    rfl
  constructor
  · exact h.running
  · exact List.nodup_cons.mpr ⟨hnew, h.distinct⟩
  · intro m hm
    change m.1 < s.created + 1
    rcases List.mem_cons.mp hm with rfl | hm
    · exact Nat.lt_succ_self _
    · exact Nat.lt_succ_of_lt (h.created m hm)
  · intro m hm hwaits
    rcases List.mem_cons.mp hm with rfl | hm
    · rw [hsm] at hwaits
      exact absurd hwaits (by simp)
    · exact h.cb m hm hwaits
  · exact h.timers
  · intro id hid
    obtain ⟨sm', hsm', hwaits⟩ := h.waiting id hid
    have hne : s.created ≠ id := by
      rintro rfl
      exact absurd (h.created _ (mem_machines hsm')) (Nat.lt_irrefl _)
    refine ⟨sm', ?_, hwaits⟩
    unfold machine at hsm' ⊢
    dsimp only
    rwa [KeyedList.find_cons, if_neg hne]
  · rw [hserials]
    exact h.nodup
  · rw [hserials]
    exact h.bounded

/-- A station leaves, and no timer holds its machine. -/
lemma freeStaSm (h : s.PullsKept) (hid : id ∉ s.timers) :
    PullsKept { s with machines := KeyedList.remove Prod.fst id s.machines } := by
  have hsub : (KeyedList.remove Prod.fst id s.machines).Sublist s.machines :=
    KeyedList.remove_sublist id s.machines
  have hserials : (s.otherSerials id).Sublist s.pendingSerials := hsub.filterMap pendingSerial
  constructor
  · exact h.running
  · exact h.distinct.sublist (hsub.map Prod.fst)
  · exact fun m hm => h.created m (hsub.subset hm)
  · exact fun m hm => h.cb m (hsub.subset hm)
  · exact h.timers
  · intro id' hid'
    obtain ⟨sm', hsm', hwaits⟩ := h.waiting id' hid'
    have hne : id' ≠ id := by
      rintro rfl
      exact hid hid'
    refine ⟨sm', ?_, hwaits⟩
    unfold machine at hsm' ⊢
    dsimp only
    rwa [KeyedList.find_remove h.distinct, if_neg hne]
  · exact h.nodup.sublist (hserials.append_left _)
  · exact fun n hn => h.bounded n ((hserials.append_left _).subset hn)

end PullsKept

/-- While a timer holds a machine, the station is not freed, no second response for its request comes,
and no new request of it is lost. -/
def InOrder (p : FtParams) (s : FtAuthenticator) : FtEvent → Prop
  | .freeStaSm id => id ∉ s.timers
  | .rrbRxResp resp _ => ∀ id, s.awaiting resp = some id → id ∉ s.timers
  | .processAuth id _ ies env | .rrbRxRequest id _ ies env _ =>
    id ∈ s.timers → ∀ sm, s.machine id = some sm → ¬ FtSm.CopyLost p s.cache env sm ies
  | _ => True

lemma pullsKept_init : PullsKept {} := by
  refine ⟨rfl, List.nodup_nil, ?_, ?_, List.nodup_nil, ?_, List.nodup_nil, ?_⟩
  · exact fun m hm => absurd hm List.not_mem_nil
  · exact fun m hm => absurd hm List.not_mem_nil
  · exact fun id hid => absurd hid List.not_mem_nil
  · exact fun n hn => absurd hn List.not_mem_nil

lemma PullsKept.next {event : FtEvent} (h : s.PullsKept) (hok : InOrder p s event)
    (hnext : s.next p event = some s') : s'.PullsKept := by
  unfold FtAuthenticator.next at hnext
  have hrunning : ¬ s.faulted = true := by simp [h.running]
  rw [if_neg hrunning] at hnext
  cases event with
  | staInit addr wpaKeyMgmt =>
    obtain rfl := Option.some.inj hnext
    exact h.staInit { addr, wpaKeyMgmt } rfl
  | freeStaSm id =>
    dsimp only at hnext
    split at hnext
    · exact absurd hnext (by simp)
    · obtain rfl := Option.some.inj hnext
      exact h.freeStaSm hok
  | processAuth id authTransaction ies env => exact h.processAuth hok hnext
  | rrbRxRequest id currentAp ies env rrbFails => exact h.rrbRxRequest hok hnext
  | rrbRxResp resp storeFails =>
    obtain rfl := Option.some.inj hnext
    exact h.rrbRxResp hok
  | pullRespCbFinish id env rrbFails => exact h.pullRespCbFinish hnext

/-- In every run in which the events are in order, `ft_pull_resp_cb_finish` always finds a machine with a
request and a callback, and no request is answered twice after it had to wait. -/
theorem run_answeredOnce {events : List FtEvent}
    (hrun : Trace.RunWith (next p) (InOrder p) {} events s) :
    s.faulted = false ∧ s.answeredSerials.Nodup ∧
      ∀ id ∈ s.timers, ∃ sm req cb, s.machine id = some sm ∧ sm.ftPendingReqIes = some req ∧
        sm.ftPendingCb = some cb := by
  have h : s.PullsKept := hrun.invariant pullsKept_init fun _ _ _ h hok hnext => h.next hok hnext
  refine ⟨h.running, (List.nodup_append.mp h.nodup).1, ?_⟩
  intro id hid
  obtain ⟨sm, hm, hwaits⟩ := h.waiting id hid
  obtain ⟨req, hreq⟩ := Option.isSome_iff_exists.mp hwaits
  obtain ⟨cb, hcb⟩ := Option.isSome_iff_exists.mp (h.cb _ (mem_machines hm) hwaits)
  exact ⟨sm, req, cb, hm, hreq, hcb⟩

/-- The response comes once, and its timer expires. -/
theorem run_answeredOnce_pulled :
    ∃ s, Trace.RunWith (next plainFtParams) (InOrder plainFtParams) {}
        (pulledOverTheDs [3, 9] ++ [.pullRespCbFinish 0 plainFtEnv false]) s ∧
      s.faulted = false ∧ s.answeredSerials.Nodup ∧ s.answeredSerials = [0] := by
  have hinit : Trace.RunWith (next plainFtParams) (InOrder plainFtParams) {} [] {} := .nil
  have hsta := hinit.snoc (e := FtEvent.staInit [9] 0) trivial rfl
  have hrequest := hsta.snoc (e := FtEvent.rrbRxRequest 0 [] [2, 7, 3] plainFtEnv false)
    (fun hmem => absurd hmem (by decide)) rfl
  have hresp := hrequest.snoc (e := FtEvent.rrbRxResp ⟨[5], [9], [8], [3, 9], 1⟩ false)
    (fun _ _ => List.not_mem_nil) rfl
  have hfinish := hresp.snoc (e := FtEvent.pullRespCbFinish 0 plainFtEnv false) trivial rfl
  obtain ⟨hrunning, hnodup, -⟩ := run_answeredOnce hfinish
  exact ⟨_, hfinish, hrunning, hnodup, by decide⟩

/-- The response comes twice before the timer expires, or the station leaves before. -/
theorem run_answeredOnce_fails :
    (∃ s, Trace.Run (next plainFtParams) {} (pulledOverTheDs [3, 9] ++
        [.rrbRxResp ⟨[5], [9], [8], [3, 9], 1⟩ false, .pullRespCbFinish 0 plainFtEnv false,
          .pullRespCbFinish 0 plainFtEnv false]) s ∧ s.faulted = true) ∧
      ∃ s, Trace.Run (next plainFtParams) {} (pulledOverTheDs [3, 9] ++
        [.freeStaSm 0, .pullRespCbFinish 0 plainFtEnv false]) s ∧ s.faulted = true := by
  have htwice : (Trace.exec (next plainFtParams) {} (pulledOverTheDs [3, 9] ++
      [.rrbRxResp ⟨[5], [9], [8], [3, 9], 1⟩ false, .pullRespCbFinish 0 plainFtEnv false,
        .pullRespCbFinish 0 plainFtEnv false])).map faulted = some true := by decide +kernel
  have hfreed : (Trace.exec (next plainFtParams) {} (pulledOverTheDs [3, 9] ++
      [.freeStaSm 0, .pullRespCbFinish 0 plainFtEnv false])).map faulted = some true := by decide +kernel
  obtain ⟨s, hrun, hs⟩ := Option.map_eq_some_iff.mp htwice
  obtain ⟨s', hrun', hs'⟩ := Option.map_eq_some_iff.mp hfreed
  exact ⟨⟨s, Trace.run_iff_exec.mpr hrun, hs⟩, ⟨s', Trace.run_iff_exec.mpr hrun', hs'⟩⟩

end FtAuthenticator

end Ethanol
