import EthanolHostapd.Ap.WpaAuthFt.Pull
import EthanolHostapd.Ap.WpaAuth.Receive

/-!
# Fast transition: the key in the driver

`wpa_ft_install_ptk` is called when an authentication derived a PTK, and again when the station has
acknowledged the response to its association request.  Nothing remembers what was handed over before.

The machine of one station is followed through authentications, associations and everything that removes
its key: `wpa_remove_ptk`, and `hostapd_drv_sta_remove`, which removes the key with the entry of the
station.  A 4-way handshake may replace the PTK in between; it has its own way to the driver.
-/

namespace Ethanol

/-- What happens to a station. -/
inductive FtStaEvent
  /-- `wpa_auth_sta_init`, for a station that was known before or not. -/
  | staInit (wpaKeyMgmt : ℕ)
  /-- `wpa_ft_process_auth_req`, with the cache at that time. -/
  | processAuthReq (cache : List PmkR1Sa) (env : AuthReqEnv) (ies : Bytes) (serial : ℕ)
  /-- `wpa_auth_sm_event` with `WPA_ASSOC_FT`. -/
  | assocFt (setKeyFails : Bool)
  /-- `wpa_auth_sm_event` with another event, up to the step of the machine. -/
  | smEvent (event : WpaEvent) (mgmtFrameProt : Bool)
  /-- The suites of an association request or the keys of a 4-way handshake. -/
  | handshake (ptk : FtPtk) (ptkValid : Bool) (wpaKeyMgmt pairwise : ℕ) (pairwiseSet : Bool)
  /-- `wpa_remove_ptk`, from elsewhere. -/
  | removePtk
  /-- `hostapd_drv_sta_remove`. -/
  | drvStaRemove

namespace FtSm

variable (p : FtParams) (sm : FtSm)

/-- `wpa_remove_ptk`. -/
def removePtk : FtSm :=
  { sm with ptkValid := false, ptk := .zero, driver := .removed :: sm.driver, pairwiseSet := false }

/-- `wpa_auth_sm_event`, with `WPA_ASSOC_FT`. -/
def assocFt (setKeyFails : Bool) : FtSm := { sm.installPtk p setKeyFails with ftCompleted := true }

/-- `wpa_auth_sm_event`, with the other events. -/
def smEvent (event : WpaEvent) (mgmtFrameProt : Bool) : FtSm :=
  let sm := { sm with ftCompleted := false }
  if mgmtFrameProt = true ∧ event = .auth then sm
  else
    let sm := { sm with ptkValid := false, ptk := .zero }
    if event = .reauthEapol then sm else sm.removePtk

/-- The machine after an event. -/
def next (sm : FtSm) : FtStaEvent → Option FtSm
  | .staInit wpaKeyMgmt => some { addr := sm.addr, wpaKeyMgmt, driver := sm.driver }
  | .processAuthReq cache env ies serial => some (sm.processAuthReq p cache env ies serial).1
  | .assocFt setKeyFails => some (sm.assocFt p setKeyFails)
  | .smEvent event mgmtFrameProt => some (sm.smEvent event mgmtFrameProt)
  | .handshake ptk ptkValid wpaKeyMgmt pairwise pairwiseSet =>
    some { sm with ptk, ptkValid, wpaKeyMgmt, pairwise, pairwiseSet }
  | .removePtk => some sm.removePtk
  | .drvStaRemove => some { sm with driver := .removed :: sm.driver }

end FtSm

/-- The temporal keys that were handed over since the last removal, the latest one first. -/
def handed : List DriverAct → List Bytes
  | .setKey tk _ :: acts => tk :: handed acts
  | _ => []

/-- No temporal key was handed over twice between two removals. -/
def HandedOnce : List DriverAct → Prop
  | .setKey tk _ :: acts => tk ∉ handed acts ∧ HandedOnce acts
  | .removed :: acts => HandedOnce acts
  | [] => True

namespace FtSm

variable {p : FtParams} {cache : List PmkR1Sa} {env : AuthReqEnv} {sm sm' : FtSm} {ies : Bytes}

/-- A request leads to a PTK, for a cipher that is known. -/
def Derives (p : FtParams) (cache : List PmkR1Sa) (env : AuthReqEnv) (sm : FtSm) (ies : Bytes)
    (tk : Bytes) : Prop :=
  ∃ snonce r0khId pmkid parse r1 aNonce ptk, ReadsAs p ies snonce r0khId pmkid parse ∧
    fetchPmkR1 cache sm.addr (p.derivePmkR1Name pmkid sm.addr) = some r1 ∧ env.aNonce = some aNonce ∧
    p.pmkR1ToPtk r1.pmkR1 snonce aNonce sm.addr (p.derivePmkR1Name pmkid sm.addr) sm.wpaKeyMgmt
      r1.pairwise = some ptk ∧
    p.validPairwise r1.pairwise = true ∧ tk = temporalKey p ptk r1.pairwise

/-- The key that an event is about to hand over has not been handed over since the last removal: the one
that is derived from a request, or the one that is there when the station has associated. -/
def HandsNewKey (p : FtParams) (sm : FtSm) : FtStaEvent → Prop
  | .processAuthReq cache env ies _ => ∀ tk, Derives p cache env sm ies tk → tk ∉ handed sm.driver
  | .assocFt _ => p.validPairwise sm.pairwise = true →
      temporalKey p sm.ptk sm.pairwise ∉ handed sm.driver
  | _ => True

lemma Derives.unique {tk tk' : Bytes} (h : Derives p cache env sm ies tk)
    (h' : Derives p cache env sm ies tk') : tk' = tk := by
  obtain ⟨_, _, _, _, r1, aNonce, ptk, hread, hfetch, haNonce, hptk, -, rfl⟩ := h
  obtain ⟨_, _, _, _, r1', aNonce', ptk', hread', hfetch', haNonce', hptk', -, rfl⟩ := h'
  obtain ⟨rfl, rfl, rfl⟩ := hread.unique hread'
  obtain rfl := Option.some.inj (hfetch.symm.trans hfetch')
  obtain rfl := Option.some.inj (haNonce.symm.trans haNonce')
  obtain rfl := Option.some.inj (hptk.symm.trans hptk')
  rfl

lemma driver_installPtk (p : FtParams) (sm : FtSm) (setKeyFails : Bool) :
    (sm.installPtk p setKeyFails).driver =
      if p.validPairwise sm.pairwise = true then
        .setKey (temporalKey p sm.ptk sm.pairwise) (!setKeyFails) :: sm.driver
      else sm.driver := by
  unfold installPtk
  cases p.validPairwise sm.pairwise
  · rfl
  · cases setKeyFails
    · rfl
    · rfl

/-- What the end of an evaluation tells the driver. -/
lemma driver_finishAuthReq (p : FtParams) (env : AuthReqEnv) (sm : FtSm) (pmkid r0khId : Bytes)
    (r1 : PmkR1Sa) :
    (∃ aNonce ptk, env.aNonce = some aNonce ∧
        p.pmkR1ToPtk r1.pmkR1 sm.sNonce aNonce sm.addr (p.derivePmkR1Name pmkid sm.addr) sm.wpaKeyMgmt
          r1.pairwise = some ptk ∧
        p.validPairwise r1.pairwise = true ∧
        (sm.finishAuthReq p env pmkid r0khId r1).1.driver =
          .setKey (temporalKey p ptk r1.pairwise) (!env.setKeyFails) :: sm.driver) ∨
      ((∀ aNonce ptk, env.aNonce = some aNonce →
          p.pmkR1ToPtk r1.pmkR1 sm.sNonce aNonce sm.addr (p.derivePmkR1Name pmkid sm.addr)
            sm.wpaKeyMgmt r1.pairwise = some ptk → p.validPairwise r1.pairwise = false) ∧
        (sm.finishAuthReq p env pmkid r0khId r1).1.driver = sm.driver) := by
  cases haNonce : env.aNonce with
  | none =>
    refine Or.inr ⟨fun _ _ h => absurd h (by simp), ?_⟩
    unfold finishAuthReq
    rw [haNonce]
  | some aNonce =>
    cases hptk : p.pmkR1ToPtk r1.pmkR1 sm.sNonce aNonce sm.addr (p.derivePmkR1Name pmkid sm.addr)
        sm.wpaKeyMgmt r1.pairwise with
    | none =>
      refine Or.inr ⟨?_, ?_⟩
      · intro aNonce' ptk h hptk'
        obtain rfl := Option.some.inj h
        exact absurd (hptk.symm.trans hptk') (by simp)
      · unfold finishAuthReq
        rw [haNonce]
        dsimp only
        rw [hptk]
    | some ptk =>
      have hinstalled : (sm.finishAuthReq p env pmkid r0khId r1).1.driver =
          ((sm.withPtk (p.derivePmkR1Name pmkid sm.addr) aNonce ptk r1.pairwise).installPtk p
            env.setKeyFails).driver := by
        unfold finishAuthReq
        rw [haNonce]
        dsimp only
        rw [hptk]
        dsimp only
        split
        · rfl
        · rfl
      have hdriver := hinstalled.trans (driver_installPtk p _ env.setKeyFails)
      by_cases hvalid : p.validPairwise r1.pairwise = true
      · exact Or.inl ⟨aNonce, ptk, rfl, hptk, hvalid, hdriver.trans (if_pos hvalid)⟩
      · exact Or.inr ⟨fun _ _ _ _ => by simpa using hvalid, hdriver.trans (if_neg hvalid)⟩

lemma driver_pullPmkR1 (p : FtParams) (env : AuthReqEnv) (sm : FtSm) (ies : Bytes) (serial : ℕ) :
    (sm.pullPmkR1 p env ies serial).1.driver = sm.driver := by
  unfold pullPmkR1
  split
  · rfl
  cases env.pullNonce with
  | none => rfl
  | some nonce =>
    dsimp only
    split_ifs <;> rfl

/-- An evaluation hands over the key that it derives, and nothing else. -/
lemma driver_processAuthReq (p : FtParams) (cache : List PmkR1Sa) (env : AuthReqEnv) (sm : FtSm)
    (ies : Bytes) (serial : ℕ) :
    (∃ tk, Derives p cache env sm ies tk ∧ (sm.processAuthReq p cache env ies serial).1.driver =
        .setKey tk (!env.setKeyFails) :: sm.driver) ∨
      ((∀ tk, ¬ Derives p cache env sm ies tk) ∧
        (sm.processAuthReq p cache env ies serial).1.driver = sm.driver) := by
  by_cases hread : ∃ snonce r0khId pmkid parse, ReadsAs p ies snonce r0khId pmkid parse
  · obtain ⟨snonce, r0khId, pmkid, parse, hread⟩ := hread
    rw [processAuthReq_of_readsAs hread]
    cases hfetch : fetchPmkR1 cache sm.addr (p.derivePmkR1Name pmkid sm.addr) with
    | none =>
      refine Or.inr ⟨?_, driver_pullPmkR1 p env (sm.afterIes snonce r0khId) ies serial⟩
      rintro tk ⟨_, _, _, _, r1, _, _, hread', hfetch', -⟩
      obtain ⟨rfl, rfl, rfl⟩ := hread.unique hread'
      exact absurd (hfetch.symm.trans hfetch') (by simp)
    | some r1 =>
      rcases driver_finishAuthReq p env (sm.afterIes snonce r0khId) pmkid r0khId r1 with
        ⟨aNonce, ptk, haNonce, hptk, hvalid, hdriver⟩ | ⟨hnone, hdriver⟩
      · refine Or.inl ⟨_, ?_, hdriver⟩
        exact ⟨snonce, r0khId, pmkid, parse, r1, aNonce, ptk, hread, hfetch, haNonce, hptk, hvalid, rfl⟩
      · refine Or.inr ⟨?_, hdriver⟩
        rintro tk ⟨_, _, _, _, r1', aNonce, ptk, hread', hfetch', haNonce, hptk, hvalid, -⟩
        obtain ⟨rfl, rfl, rfl⟩ := hread.unique hread'
        obtain rfl := Option.some.inj (hfetch.symm.trans hfetch')
        have hunknown := hnone aNonce ptk haNonce hptk
        exact absurd (hunknown.symm.trans hvalid) (by simp)
  · have hunread : ∀ snonce r0khId pmkid parse, ¬ ReadsAs p ies snonce r0khId pmkid parse :=
      fun snonce r0khId pmkid parse h => hread ⟨snonce, r0khId, pmkid, parse, h⟩
    obtain ⟨status, -, sNonce, r0khId, heq⟩ := processAuthReq_unread cache env sm serial hunread
    rw [heq]
    refine Or.inr ⟨?_, rfl⟩
    rintro tk ⟨snonce, r0khId, pmkid, parse, _, _, _, h, -⟩
    exact hunread snonce r0khId pmkid parse h

/-- One event keeps to the rule if and only if it does not hand over an old key. -/
lemma handedOnce_next {event : FtStaEvent} (hnext : sm.next p event = some sm') :
    HandedOnce sm'.driver ↔ HandedOnce sm.driver ∧ HandsNewKey p sm event := by
  -- a removal starts a new list of keys
  have hsame : ∀ {acts : List DriverAct}, (HandedOnce acts ↔ HandedOnce sm.driver) →
      (HandedOnce acts ↔ HandedOnce sm.driver ∧ True) := by
    intro acts hiff
    rw [hiff, and_true]
  cases event with
  | staInit wpaKeyMgmt =>
    obtain rfl := Option.some.inj hnext
    exact hsame Iff.rfl
  | processAuthReq cache env ies serial =>
    obtain rfl := Option.some.inj hnext
    rcases driver_processAuthReq p cache env sm ies serial with ⟨tk, htk, hdriver⟩ | ⟨hnone, hdriver⟩
    · rw [hdriver]
      constructor
      · rintro ⟨hnew, hold⟩
        refine ⟨hold, ?_⟩
        intro tk' htk'
        rwa [htk.unique htk']
      · rintro ⟨hold, hnew⟩
        exact ⟨hnew tk htk, hold⟩
    · rw [hdriver]
      constructor
      · exact fun hold => ⟨hold, fun tk htk => absurd htk (hnone tk)⟩
      · exact And.left
  | assocFt setKeyFails =>
    obtain rfl := Option.some.inj hnext
    have hdriver : (sm.assocFt p setKeyFails).driver = _ := driver_installPtk p sm setKeyFails
    rw [hdriver]
    split
    · rename_i hvalid
      constructor
      · exact fun ⟨hnew, hold⟩ => ⟨hold, fun _ => hnew⟩
      · exact fun ⟨hold, hnew⟩ => ⟨hnew hvalid, hold⟩
    · rename_i hvalid
      constructor
      · exact fun hold => ⟨hold, fun h => absurd h hvalid⟩
      · exact And.left
  | smEvent event mgmtFrameProt =>
    obtain rfl := Option.some.inj hnext
    unfold smEvent
    dsimp only
    split_ifs
    · exact hsame Iff.rfl
    · exact hsame Iff.rfl
    · exact hsame Iff.rfl
  | handshake ptk ptkValid wpaKeyMgmt pairwise pairwiseSet =>
    obtain rfl := Option.some.inj hnext
    exact hsame Iff.rfl
  | removePtk =>
    obtain rfl := Option.some.inj hnext
    exact hsame Iff.rfl
  | drvStaRemove =>
    obtain rfl := Option.some.inj hnext
    exact hsame Iff.rfl

/-- In a run no temporal key is handed over twice between two removals if and only if no event hands over
an old key: no authentication derives one, and none is left when the station has associated. -/
theorem run_handedOnce {sm₀ : FtSm} {events : List FtStaEvent} (hnew : sm₀.driver = [])
    (hrun : Trace.Run (next p) sm₀ events sm) :
    HandedOnce sm.driver ↔ Trace.RunWith (next p) (HandsNewKey p) sm₀ events sm := by
  have hs : HandedOnce sm₀.driver := by
    rw [hnew]
    trivial
  exact hrun.iff_runWith (I := fun sm => HandedOnce sm.driver) (J := fun _ => True) hs trivial
    fun _ _ _ _ hnext => ⟨trivial, handedOnce_next hnext⟩

end FtSm

/-- The PMK-R1 for `plainFtParams` is in the cache. -/
def plainPmkR1 : PmkR1Sa := ⟨[8], [3, 9], [9], 1⟩

namespace FtSm

/-- The driver does not know the station when it authenticates; its entry is made anew when the
association request comes. -/
theorem run_handedOnce_retry :
    ∃ sm, Trace.RunWith (next plainFtParams) (HandsNewKey plainFtParams) { addr := [9] }
        [.processAuthReq [plainPmkR1] { plainFtEnv with setKeyFails := true } [2, 7, 3] 0, .drvStaRemove,
          .assocFt false] sm ∧
      sm.driver = [.setKey [8, 2, 6] true, .removed, .setKey [8, 2, 6] false] ∧ HandedOnce sm.driver := by
  have h : (Trace.exec (next plainFtParams) { addr := [9] }
      [.processAuthReq [plainPmkR1] { plainFtEnv with setKeyFails := true } [2, 7, 3] 0, .drvStaRemove,
        .assocFt false]).map driver =
      some [.setKey [8, 2, 6] true, .removed, .setKey [8, 2, 6] false] := by decide +kernel
  obtain ⟨sm, hexec, hdriver⟩ := Option.map_eq_some_iff.mp h
  have hrun := Trace.run_iff_exec.mpr hexec
  have honce : HandedOnce sm.driver := by
    rw [hdriver]
    simp [HandedOnce, handed]
  exact ⟨sm, (run_handedOnce rfl hrun).mp honce, hdriver, honce⟩

/-- The driver has taken the key when the station authenticated, or two responses to association requests
were acknowledged. -/
theorem run_handedOnce_fails :
    (∃ sm, Trace.Run (next plainFtParams) { addr := [9] }
        [.processAuthReq [plainPmkR1] plainFtEnv [2, 7, 3] 0, .assocFt false] sm ∧
      sm.driver = [.setKey [8, 2, 6] true, .setKey [8, 2, 6] true] ∧ ¬ HandedOnce sm.driver) ∧
    ∃ sm, Trace.Run (next plainFtParams) { addr := [9] }
        [.processAuthReq [plainPmkR1] { plainFtEnv with setKeyFails := true } [2, 7, 3] 0, .drvStaRemove,
          .assocFt false, .assocFt false] sm ∧ ¬ HandedOnce sm.driver := by
  have htaken : (Trace.exec (next plainFtParams) { addr := [9] }
      [.processAuthReq [plainPmkR1] plainFtEnv [2, 7, 3] 0, .assocFt false]).map driver =
      some [.setKey [8, 2, 6] true, .setKey [8, 2, 6] true] := by decide +kernel
  have htwice : (Trace.exec (next plainFtParams) { addr := [9] }
      [.processAuthReq [plainPmkR1] { plainFtEnv with setKeyFails := true } [2, 7, 3] 0, .drvStaRemove,
        .assocFt false, .assocFt false]).map driver =
      some [.setKey [8, 2, 6] true, .setKey [8, 2, 6] true, .removed, .setKey [8, 2, 6] false] := by
    decide +kernel
  obtain ⟨sm, hexec, hdriver⟩ := Option.map_eq_some_iff.mp htaken
  obtain ⟨sm', hexec', hdriver'⟩ := Option.map_eq_some_iff.mp htwice
  refine ⟨⟨sm, Trace.run_iff_exec.mpr hexec, hdriver, ?_⟩, sm', Trace.run_iff_exec.mpr hexec', ?_⟩
  · rw [hdriver]
    simp [HandedOnce, handed]
  · rw [hdriver']
    simp [HandedOnce, handed]

end FtSm

end Ethanol
