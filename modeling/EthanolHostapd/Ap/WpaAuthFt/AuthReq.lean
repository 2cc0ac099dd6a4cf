import EthanolHostapd.Traces.Run
import EthanolHostapd.Utils.Common

/-!
# Fast transition: authentication requests

`ap/wpa_auth_ft.c`: what a station's machine does with an FT authentication request.  The PMK-R1 for the
request is taken from a cache, or it is pulled from the key holder that the station names; the
request is then kept until the response comes.  With a PMK-R1 there is a PTK, which is given to the
driver at once and again after the association.

The elements of a frame, the key derivations and the driver are parameters.  `driver` records what the
driver was told about the key of the station; the program does not keep it.
-/

namespace Ethanol

/-- The status codes of an FT authentication. -/
inductive WlanStatus
  | success
  | unspecifiedFailure
  | invalidPmkid
  | invalidMdie
  | invalidFtie
  deriving DecidableEq

/-- What is used of the result of `wpa_ft_parse_ies`; an element that is too short is left out. -/
structure FtIes where
  /-- `mobility_domain` of the MDIE. -/
  mdie : Option Bytes
  /-- `snonce` of the FTIE. -/
  ftie : Option Bytes
  r0khId : Option Bytes
  rsnPmkid : Option Bytes
  deriving DecidableEq

/-- `struct wpa_ptk`, as far as the driver is concerned. -/
structure FtPtk where
  tk : Bytes
  deriving DecidableEq

/-- A PTK after `os_memset`. -/
def FtPtk.zero : FtPtk := ⟨List.replicate 32 0⟩

/-- An entry of the PMK-R1 cache. -/
structure PmkR1Sa where
  pmkR1 : Bytes
  pmkR1Name : Bytes
  spa : Bytes
  pairwise : ℕ
  deriving DecidableEq

/-- The functions and settings outside. -/
structure FtParams where
  parseIes : Bytes → Option FtIes
  /-- `conf.mobility_domain`. -/
  mobilityDomain : Bytes
  /-- `wpa_derive_pmk_r1_name`, with the PMKR0Name and the address of the station. -/
  derivePmkR1Name : Bytes → Bytes → Bytes
  /-- `wpa_pmk_r1_to_ptk`, with the PMK-R1, the SNonce, the ANonce, the address of the station, the
  PMKR1Name, the AKM and the cipher. -/
  pmkR1ToPtk : Bytes → Bytes → Bytes → Bytes → Bytes → ℕ → ℕ → Option FtPtk
  /-- The identifiers in `conf.r0kh_list`. -/
  r0khList : List Bytes
  /-- `wpa_cipher_valid_pairwise`. -/
  validPairwise : ℕ → Bool
  /-- `wpa_cipher_key_len`. -/
  cipherKeyLen : ℕ → ℕ
  /-- `wpa_write_rsn_ie`, `wpa_write_mdie` and `wpa_write_ftie`. -/
  writeRsnIe : Bytes → Option Bytes
  writeMdie : Option Bytes
  writeFtie : Bytes → Bytes → Bytes → Option Bytes

/-- The surroundings of one evaluation of a request. -/
structure AuthReqEnv where
  /-- The nonce of a pull, if there are random numbers for it. -/
  pullNonce : Option Bytes
  /-- `aes_wrap` fails. -/
  wrapFails : Bool := false
  /-- There is no memory for a copy of the request. -/
  copyFails : Bool := false
  /-- The ANonce, if there are random numbers for it. -/
  aNonce : Option Bytes
  /-- The driver does not take the key. -/
  setKeyFails : Bool := false
  /-- There is no memory for the elements of the response. -/
  respFails : Bool := false

/-- What the driver is told about the pairwise key of a station. -/
inductive DriverAct
  /-- `wpa_ft_install_ptk` hands a temporal key to the driver, which takes it or not. -/
  | setKey (tk : Bytes) (taken : Bool)
  /-- The key is removed, by itself or with the station. -/
  | removed
  deriving DecidableEq

/-- Who is called when a pull is over. -/
inductive FtCb
  /-- `handle_auth_ft_finish`. -/
  | authFtFinish
  /-- `wpa_ft_rrb_rx_request_cb`. -/
  | rrbRxRequest
  deriving DecidableEq

/-- A request that waits for a pull, with a number of its own. -/
structure PendingReq where
  ies : Bytes
  serial : ℕ
  deriving DecidableEq

/-- The part of `struct wpa_state_machine` that has to do with fast transition. -/
structure FtSm where
  addr : Bytes
  wpaKeyMgmt : ℕ := 0
  sNonce : Bytes := []
  aNonce : Bytes := []
  r0khId : Bytes := []
  pmkR1Name : Bytes := []
  pmkR1NameValid : Bool := false
  ptk : FtPtk := .zero
  ptkValid : Bool := false
  pairwise : ℕ := 0
  pairwiseSet : Bool := false
  ftCompleted : Bool := false
  ftPendingReqIes : Option PendingReq := none
  ftPendingPullNonce : Bytes := []
  ftPendingCb : Option FtCb := none
  ftPendingAuthTransaction : ℕ := 0
  ftPendingCurrentAp : Bytes := []
  driver : List DriverAct := []
  deriving DecidableEq

namespace FtSm

section AuthReq

variable (p : FtParams) (cache : List PmkR1Sa) (env : AuthReqEnv) (sm : FtSm)

/-- `wpa_ft_fetch_pmk_r1`. -/
def fetchPmkR1 (cache : List PmkR1Sa) (spa pmkR1Name : Bytes) : Option PmkR1Sa :=
  cache.find? fun r1 => r1.spa = spa ∧ r1.pmkR1Name = pmkR1Name

/-- `wpa_ft_pull_pmk_r1`, and whether it succeeds. -/
def pullPmkR1 (ies : Bytes) (serial : ℕ) : FtSm × Bool :=
  if sm.r0khId ∉ p.r0khList then (sm, false)
  else
    match env.pullNonce with
    | none => (sm, false)
    | some nonce =>
      let sm := { sm with ftPendingPullNonce := nonce }
      if env.wrapFails then (sm, false)
      else if env.copyFails then ({ sm with ftPendingReqIes := none }, false)
      else ({ sm with ftPendingReqIes := some ⟨ies, serial⟩ }, true)

/-- The temporal key, in the length that the cipher needs. -/
def temporalKey (ptk : FtPtk) (pairwise : ℕ) : Bytes := ptk.tk.take (p.cipherKeyLen pairwise)

/-- `wpa_ft_install_ptk`. -/
def installPtk (setKeyFails : Bool) : FtSm :=
  if p.validPairwise sm.pairwise = false then sm
  else
    let sm := { sm with driver := .setKey (temporalKey p sm.ptk sm.pairwise) (!setKeyFails) :: sm.driver }
    if setKeyFails then sm else { sm with pairwiseSet := true }

/-- The elements of a response. -/
def writeRespIes (pmkid r0khId : Bytes) : Option Bytes := do
  if env.respFails then none
  else
    let rsnIe ← p.writeRsnIe pmkid
    let mdie ← p.writeMdie
    let ftie ← p.writeFtie r0khId sm.aNonce sm.sNonce
    some (rsnIe ++ mdie ++ ftie)

/-- The machine with the keys of an authentication. -/
def withPtk (pmkR1Name aNonce : Bytes) (ptk : FtPtk) (pairwise : ℕ) : FtSm :=
  { sm with pmkR1NameValid := true, pmkR1Name, aNonce, ptk, pairwise, ptkValid := true }

/-- The end of `wpa_ft_process_auth_req`, with the PMK-R1 for the request. -/
def finishAuthReq (pmkid r0khId : Bytes) (r1 : PmkR1Sa) : FtSm × WlanStatus :=
  let pmkR1Name := p.derivePmkR1Name pmkid sm.addr
  let sm := { sm with pmkR1NameValid := true, pmkR1Name }
  match env.aNonce with
  | none => (sm, .unspecifiedFailure)
  | some aNonce =>
    let sm := { sm with aNonce }
    match p.pmkR1ToPtk r1.pmkR1 sm.sNonce aNonce sm.addr pmkR1Name sm.wpaKeyMgmt r1.pairwise with
    | none => (sm, .unspecifiedFailure)
    | some ptk =>
      let sm := (sm.withPtk pmkR1Name aNonce ptk r1.pairwise).installPtk p env.setKeyFails
      match sm.writeRespIes p env pmkid r0khId with
      | none => (sm, .unspecifiedFailure)
      | some _ => (sm, .success)

/-- `wpa_ft_process_auth_req`; there is no status yet if the PMK-R1 is being pulled. -/
def processAuthReq (ies : Bytes) (serial : ℕ) : FtSm × Option WlanStatus :=
  let sm := { sm with pmkR1NameValid := false }
  match p.parseIes ies with
  | none => (sm, some .unspecifiedFailure)
  | some parse =>
    if parse.mdie ≠ some p.mobilityDomain then (sm, some .invalidMdie)
    else
      match parse.ftie with
      | none => (sm, some .invalidFtie)
      | some snonce =>
        let sm := { sm with sNonce := snonce }
        match parse.r0khId with
        | none => (sm, some .invalidFtie)
        | some r0khId =>
          let sm := { sm with r0khId }
          match parse.rsnPmkid with
          | none => (sm, some .invalidPmkid)
          | some pmkid =>
            match fetchPmkR1 cache sm.addr (p.derivePmkR1Name pmkid sm.addr) with
            | none =>
              let pulled := sm.pullPmkR1 p env ies serial
              (pulled.1, if pulled.2 then none else some .invalidPmkid)
            | some r1 =>
              let finished := sm.finishAuthReq p env pmkid r0khId r1
              (finished.1, some finished.2)

end AuthReq

/-! ## What an evaluation does -/

section Specification

/-- The elements of a request are as they should be. -/
structure ReadsAs (p : FtParams) (ies snonce r0khId pmkid : Bytes) (parse : FtIes) : Prop where
  parseIes : p.parseIes ies = some parse
  mdie : parse.mdie = some p.mobilityDomain
  ftie : parse.ftie = some snonce
  r0khId : parse.r0khId = some r0khId
  rsnPmkid : parse.rsnPmkid = some pmkid

variable {p : FtParams} {cache : List PmkR1Sa} {env : AuthReqEnv} {sm sm' : FtSm} {ies : Bytes}
  {serial : ℕ} {snonce r0khId pmkid : Bytes} {parse : FtIes}

/-- The elements are read in one way. -/
lemma ReadsAs.unique {snonce' r0khId' pmkid' : Bytes} {parse' : FtIes}
    (h : ReadsAs p ies snonce r0khId pmkid parse) (h' : ReadsAs p ies snonce' r0khId' pmkid' parse') :
    snonce' = snonce ∧ r0khId' = r0khId ∧ pmkid' = pmkid := by
  obtain rfl := Option.some.inj (h.parseIes.symm.trans h'.parseIes)
  exact ⟨Option.some.inj (h'.ftie.symm.trans h.ftie), Option.some.inj (h'.r0khId.symm.trans h.r0khId),
    Option.some.inj (h'.rsnPmkid.symm.trans h.rsnPmkid)⟩

/-- The machine when the elements of a request have been read. -/
def afterIes (sm : FtSm) (snonce r0khId : Bytes) : FtSm :=
  { sm with pmkR1NameValid := false, sNonce := snonce, r0khId }

/-- The PMK-R1 for a request is taken from the cache or pulled. -/
lemma processAuthReq_of_readsAs (h : ReadsAs p ies snonce r0khId pmkid parse) :
    sm.processAuthReq p cache env ies serial =
      match fetchPmkR1 cache sm.addr (p.derivePmkR1Name pmkid sm.addr) with
      | none =>
        (((sm.afterIes snonce r0khId).pullPmkR1 p env ies serial).1,
          if ((sm.afterIes snonce r0khId).pullPmkR1 p env ies serial).2 then none
          else some .invalidPmkid)
      | some r1 =>
        (((sm.afterIes snonce r0khId).finishAuthReq p env pmkid r0khId r1).1,
          some ((sm.afterIes snonce r0khId).finishAuthReq p env pmkid r0khId r1).2) := by
  unfold processAuthReq
  simp only [h.parseIes, h.mdie, h.ftie, h.r0khId, h.rsnPmkid, ne_eq, not_true_eq_false, if_false]
  rfl

/-- A request that cannot be read is refused. -/
lemma processAuthReq_unread (cache : List PmkR1Sa) (env : AuthReqEnv) (sm : FtSm) (serial : ℕ)
    (h : ∀ snonce r0khId pmkid parse, ¬ ReadsAs p ies snonce r0khId pmkid parse) :
    ∃ status ≠ WlanStatus.success, ∃ sNonce r0khId,
      sm.processAuthReq p cache env ies serial =
        ({ sm with pmkR1NameValid := false, sNonce, r0khId }, some status) := by
  unfold processAuthReq
  cases hparse : p.parseIes ies with
  | none => exact ⟨.unspecifiedFailure, by simp, sm.sNonce, sm.r0khId, rfl⟩
  | some parse =>
    by_cases hmdie : parse.mdie = some p.mobilityDomain
    · cases hftie : parse.ftie with
      | none => exact ⟨.invalidFtie, by simp, sm.sNonce, sm.r0khId, by simp [hmdie, hftie]⟩
      | some snonce =>
        cases hr0kh : parse.r0khId with
        | none => exact ⟨.invalidFtie, by simp, snonce, sm.r0khId, by simp [hmdie, hftie, hr0kh]⟩
        | some r0khId =>
          cases hpmkid : parse.rsnPmkid with
          | none =>
            exact ⟨.invalidPmkid, by simp, snonce, r0khId, by simp [hmdie, hftie, hr0kh, hpmkid]⟩
          | some pmkid =>
            exact absurd ⟨hparse, hmdie, hftie, hr0kh, hpmkid⟩ (h snonce r0khId pmkid parse)
    · exact ⟨.invalidMdie, by simp, sm.sNonce, sm.r0khId, by simp [hmdie]⟩

/-- What an evaluation leaves alone. -/
structure SameStation (sm sm' : FtSm) : Prop where
  addr : sm'.addr = sm.addr
  ftPendingCb : sm'.ftPendingCb = sm.ftPendingCb
  ftPendingCurrentAp : sm'.ftPendingCurrentAp = sm.ftPendingCurrentAp

lemma sameStation_installPtk (p : FtParams) (sm : FtSm) (setKeyFails : Bool) :
    SameStation sm (sm.installPtk p setKeyFails) ∧
      (sm.installPtk p setKeyFails).ftPendingReqIes = sm.ftPendingReqIes := by
  unfold installPtk
  dsimp only
  split_ifs <;> exact ⟨⟨rfl, rfl, rfl⟩, rfl⟩

lemma sameStation_finishAuthReq (p : FtParams) (env : AuthReqEnv) (sm : FtSm) (pmkid r0khId : Bytes)
    (r1 : PmkR1Sa) :
    SameStation sm (sm.finishAuthReq p env pmkid r0khId r1).1 ∧
      (sm.finishAuthReq p env pmkid r0khId r1).1.ftPendingReqIes = sm.ftPendingReqIes := by
  unfold finishAuthReq
  dsimp only
  split
  · exact ⟨⟨rfl, rfl, rfl⟩, rfl⟩
  split
  · exact ⟨⟨rfl, rfl, rfl⟩, rfl⟩
  rename_i aNonce _ _ ptk _
  obtain ⟨hsame, hpending⟩ := sameStation_installPtk p
    (sm.withPtk (p.derivePmkR1Name pmkid sm.addr) aNonce ptk r1.pairwise) env.setKeyFails
  split
  · exact ⟨⟨hsame.addr, hsame.ftPendingCb, hsame.ftPendingCurrentAp⟩, hpending⟩
  · exact ⟨⟨hsame.addr, hsame.ftPendingCb, hsame.ftPendingCurrentAp⟩, hpending⟩

/-- A request that has to be pulled for cannot be copied, and an earlier one is lost with it. -/
def CopyLost (p : FtParams) (cache : List PmkR1Sa) (env : AuthReqEnv) (sm : FtSm) (ies : Bytes) : Prop :=
  ∃ snonce r0khId pmkid parse, ReadsAs p ies snonce r0khId pmkid parse ∧
    fetchPmkR1 cache sm.addr (p.derivePmkR1Name pmkid sm.addr) = none ∧ r0khId ∈ p.r0khList ∧
    env.pullNonce.isSome = true ∧ env.wrapFails = false ∧ env.copyFails = true

/-- What becomes of the request that waits. -/
lemma pullPmkR1_pending (p : FtParams) (env : AuthReqEnv) (sm : FtSm) (ies : Bytes) (serial : ℕ) :
    SameStation sm (sm.pullPmkR1 p env ies serial).1 ∧
    (((sm.pullPmkR1 p env ies serial).2 = true ∧
        (sm.pullPmkR1 p env ies serial).1.ftPendingReqIes = some ⟨ies, serial⟩) ∨
      ((sm.pullPmkR1 p env ies serial).2 = false ∧
        ((sm.pullPmkR1 p env ies serial).1.ftPendingReqIes = sm.ftPendingReqIes ∨
          (sm.r0khId ∈ p.r0khList ∧ env.pullNonce.isSome = true ∧ env.wrapFails = false ∧
            env.copyFails = true ∧ (sm.pullPmkR1 p env ies serial).1.ftPendingReqIes = none)))) := by
  unfold pullPmkR1
  split
  · exact ⟨⟨rfl, rfl, rfl⟩, Or.inr ⟨rfl, Or.inl rfl⟩⟩
  rename_i hr0kh
  rw [not_not] at hr0kh
  cases hnonce : env.pullNonce with
  | none => exact ⟨⟨rfl, rfl, rfl⟩, Or.inr ⟨rfl, Or.inl rfl⟩⟩
  | some nonce =>
    dsimp only
    split_ifs with hwrap hcopy
    · exact ⟨⟨rfl, rfl, rfl⟩, Or.inr ⟨rfl, Or.inl rfl⟩⟩
    · exact ⟨⟨rfl, rfl, rfl⟩, Or.inr ⟨rfl, Or.inr ⟨hr0kh, rfl, by simpa using hwrap, hcopy, rfl⟩⟩⟩
    · exact ⟨⟨rfl, rfl, rfl⟩, Or.inl ⟨rfl, rfl⟩⟩

/-- A request waits for a pull, or it has a status; an earlier one that waits goes on waiting unless there
is no memory for the copy of the new one. -/
lemma processAuthReq_pending (p : FtParams) (cache : List PmkR1Sa) (env : AuthReqEnv) (sm : FtSm)
    (ies : Bytes) (serial : ℕ) :
    SameStation sm (sm.processAuthReq p cache env ies serial).1 ∧
    (((sm.processAuthReq p cache env ies serial).2 = none ∧
        (sm.processAuthReq p cache env ies serial).1.ftPendingReqIes = some ⟨ies, serial⟩) ∨
      ((sm.processAuthReq p cache env ies serial).2 ≠ none ∧
        ((sm.processAuthReq p cache env ies serial).1.ftPendingReqIes = sm.ftPendingReqIes ∨
          (CopyLost p cache env sm ies ∧
            (sm.processAuthReq p cache env ies serial).1.ftPendingReqIes = none)))) := by
  by_cases hread : ∃ snonce r0khId pmkid parse, ReadsAs p ies snonce r0khId pmkid parse
  · obtain ⟨snonce, r0khId, pmkid, parse, hread⟩ := hread
    rw [processAuthReq_of_readsAs hread]
    cases hfetch : fetchPmkR1 cache sm.addr (p.derivePmkR1Name pmkid sm.addr) with
    | some r1 =>
      obtain ⟨hsame, hpending⟩ :=
        sameStation_finishAuthReq p env (sm.afterIes snonce r0khId) pmkid r0khId r1
      exact ⟨⟨hsame.addr, hsame.ftPendingCb, hsame.ftPendingCurrentAp⟩,
        Or.inr ⟨by simp, Or.inl hpending⟩⟩
    | none =>
      obtain ⟨hsame, hpull⟩ :=
        pullPmkR1_pending p env (sm.afterIes snonce r0khId) ies serial
      refine ⟨⟨hsame.addr, hsame.ftPendingCb, hsame.ftPendingCurrentAp⟩, ?_⟩
      rcases hpull with ⟨hok, hpending⟩ | ⟨hfails, hpending⟩
      · exact Or.inl ⟨by rw [hok]; rfl, hpending⟩
      · refine Or.inr ⟨by rw [hfails]; simp, ?_⟩
        rcases hpending with hkept | ⟨hr0kh, hnonce, hwrap, hcopy, hlost⟩
        · exact Or.inl hkept
        · exact Or.inr ⟨⟨snonce, r0khId, pmkid, parse, hread, hfetch, hr0kh, hnonce, hwrap, hcopy⟩, hlost⟩
  · have hunread : ∀ snonce r0khId pmkid parse, ¬ ReadsAs p ies snonce r0khId pmkid parse :=
      fun snonce r0khId pmkid parse h => hread ⟨snonce, r0khId, pmkid, parse, h⟩
    obtain ⟨status, -, sNonce, r0khId, heq⟩ :=
      processAuthReq_unread cache env sm serial hunread
    rw [heq]
    exact ⟨⟨rfl, rfl, rfl⟩, Or.inr ⟨by simp, Or.inl rfl⟩⟩

/-- There is a PMK-R1 for the request, and nothing is missing for the response. -/
def Succeeds (p : FtParams) (cache : List PmkR1Sa) (env : AuthReqEnv) (sm : FtSm) (ies : Bytes) : Prop :=
  ∃ snonce r0khId pmkid parse r1 aNonce, ReadsAs p ies snonce r0khId pmkid parse ∧
    fetchPmkR1 cache sm.addr (p.derivePmkR1Name pmkid sm.addr) = some r1 ∧ env.aNonce = some aNonce ∧
    (p.pmkR1ToPtk r1.pmkR1 snonce aNonce sm.addr (p.derivePmkR1Name pmkid sm.addr) sm.wpaKeyMgmt
      r1.pairwise).isSome = true ∧
    env.respFails = false ∧ (p.writeRsnIe pmkid).isSome = true ∧ p.writeMdie.isSome = true ∧
    (p.writeFtie r0khId aNonce snonce).isSome = true

lemma writeRespIes_isSome (p : FtParams) (env : AuthReqEnv) (sm : FtSm) (pmkid r0khId : Bytes) :
    (sm.writeRespIes p env pmkid r0khId).isSome = true ↔
      env.respFails = false ∧ (p.writeRsnIe pmkid).isSome = true ∧ p.writeMdie.isSome = true ∧
        (p.writeFtie r0khId sm.aNonce sm.sNonce).isSome = true := by
  unfold writeRespIes
  cases env.respFails <;> cases p.writeRsnIe pmkid <;> cases p.writeMdie <;>
    cases p.writeFtie r0khId sm.aNonce sm.sNonce <;> simp

lemma nonces_installPtk (p : FtParams) (sm : FtSm) (setKeyFails : Bool) :
    (sm.installPtk p setKeyFails).aNonce = sm.aNonce ∧ (sm.installPtk p setKeyFails).sNonce = sm.sNonce := by
  unfold installPtk
  dsimp only
  split_ifs <;> exact ⟨rfl, rfl⟩

lemma finishAuthReq_success (r1 : PmkR1Sa) :
    (sm.finishAuthReq p env pmkid r0khId r1).2 = .success ↔
      ∃ aNonce, env.aNonce = some aNonce ∧
        (p.pmkR1ToPtk r1.pmkR1 sm.sNonce aNonce sm.addr (p.derivePmkR1Name pmkid sm.addr) sm.wpaKeyMgmt
          r1.pairwise).isSome = true ∧
        env.respFails = false ∧ (p.writeRsnIe pmkid).isSome = true ∧ p.writeMdie.isSome = true ∧
        (p.writeFtie r0khId aNonce sm.sNonce).isSome = true := by
  unfold finishAuthReq
  dsimp only
  cases haNonce : env.aNonce with
  | none => simp
  | some aNonce =>
    dsimp only
    cases hptk : p.pmkR1ToPtk r1.pmkR1 sm.sNonce aNonce sm.addr (p.derivePmkR1Name pmkid sm.addr)
        sm.wpaKeyMgmt r1.pairwise with
    | none => simp [hptk]
    | some ptk =>
      dsimp only
      obtain ⟨ha, hs⟩ := nonces_installPtk p
        (sm.withPtk (p.derivePmkR1Name pmkid sm.addr) aNonce ptk r1.pairwise) env.setKeyFails
      have hwrite := writeRespIes_isSome p env
        ((sm.withPtk (p.derivePmkR1Name pmkid sm.addr) aNonce ptk r1.pairwise).installPtk p
          env.setKeyFails) pmkid r0khId
      rw [ha, hs] at hwrite
      have hstatus : ∀ resp : Option Bytes, (match resp with
          | none => (((sm.withPtk (p.derivePmkR1Name pmkid sm.addr) aNonce ptk r1.pairwise).installPtk p
              env.setKeyFails), WlanStatus.unspecifiedFailure)
          | some _ => (((sm.withPtk (p.derivePmkR1Name pmkid sm.addr) aNonce ptk r1.pairwise).installPtk p
              env.setKeyFails), WlanStatus.success)).2 = .success ↔ resp.isSome = true := by
        intro resp
        cases resp <;> simp
      refine (hstatus _).trans (hwrite.trans ?_)
      constructor
      · intro h
        exact ⟨aNonce, rfl, by rw [hptk]; rfl, h⟩
      · rintro ⟨aNonce', haNonce', -, h⟩
        obtain rfl := Option.some.inj haNonce'
        exact h

/-- An evaluation gives success if and only if nothing is missing. -/
lemma processAuthReq_success :
    (sm.processAuthReq p cache env ies serial).2 = some .success ↔ Succeeds p cache env sm ies := by
  by_cases hread : ∃ snonce r0khId pmkid parse, ReadsAs p ies snonce r0khId pmkid parse
  · obtain ⟨snonce, r0khId, pmkid, parse, hread⟩ := hread
    rw [processAuthReq_of_readsAs hread]
    cases hfetch : fetchPmkR1 cache sm.addr (p.derivePmkR1Name pmkid sm.addr) with
    | none =>
      have hstatus : ∀ pulled : Bool, (if pulled then none else some WlanStatus.invalidPmkid) ≠
          some .success := by
        intro pulled
        cases pulled <;> simp
      refine iff_of_false (hstatus _) ?_
      rintro ⟨_, _, pmkid', _, r1, _, hread', hfetch', -⟩
      obtain ⟨-, -, rfl⟩ := hread.unique hread'
      exact absurd (hfetch.symm.trans hfetch') (by simp)
    | some r1 =>
      rw [Option.some.injEq, finishAuthReq_success]
      constructor
      · rintro ⟨aNonce, haNonce, h⟩
        exact ⟨snonce, r0khId, pmkid, parse, r1, aNonce, hread, hfetch, haNonce, h⟩
      · rintro ⟨_, _, _, _, r1', aNonce, hread', hfetch', haNonce, h⟩
        obtain ⟨rfl, rfl, rfl⟩ := hread.unique hread'
        obtain rfl := Option.some.inj (hfetch.symm.trans hfetch')
        exact ⟨aNonce, haNonce, h⟩
  · have hunread : ∀ snonce r0khId pmkid parse, ¬ ReadsAs p ies snonce r0khId pmkid parse :=
      fun snonce r0khId pmkid parse h => hread ⟨snonce, r0khId, pmkid, parse, h⟩
    obtain ⟨status, hstatus, sNonce, r0khId, heq⟩ := processAuthReq_unread cache env sm serial hunread
    rw [heq]
    refine iff_of_false (fun h => hstatus (Option.some.inj h)) ?_
    rintro ⟨snonce, r0khId, pmkid, parse, _, _, h, -⟩
    exact hunread snonce r0khId pmkid parse h

end Specification

end FtSm

end Ethanol
