import EthanolHostapd.Ap.PmksaCache
import EthanolHostapd.Ap.WpaAuth.Machine
import EthanolHostapd.Ap.WpaAuthIe

/-!
# The check of the element of a station

`wpa_validate_wpa_ie` of `wpa_auth_ie.c`.  The checks and the writes to the station's state machine take turns, so a
rejection may come when something has been written already.
-/

namespace Ethanol

open Wire

/-! ## The code -/

/-- The results of `wpa_validate_wpa_ie`. -/
inductive WpaIeResult
  | ieOk | invalidIe | invalidGroup | invalidPairwise | invalidAkmp | notEnabled | allocFail
  | mgmtFrameProtectionViolation | invalidMgmtGroupCipher | invalidMdie | invalidProto
  deriving DecidableEq

/-- What `wpa_validate_wpa_ie` reads and writes of `struct wpa_state_machine`.  `wpaIe` holds the `wpa_ie_len` bytes that
are stored, or `none` for `NULL`. -/
structure WpaSmIe where
  addr : MacAddr
  wpaKeyMgmt : ℕ
  pairwise : ℤ
  mgmtFrameProt : Bool
  wpa : Option WpaVersion
  pmksa : Option PmksaEntry
  wpaIe : Option (List UInt8)
  wpaIeLen : ℕ

/-- What is read of `struct wpa_authenticator`. -/
structure WpaAuthenticatorIe where
  addr : MacAddr
  conf : WpaAuthConfig
  pmksa : PmksaCache

/-- The caches of all authenticators, the memory, the time, and whether there is memory for the element. -/
structure ValidateEnv where
  fns : PmkidFunctions
  auths : List PmksaCache
  mem : PmksaMemory
  now : OsReltime
  malloc : Bool

/-- The order in which `wpa_validate_wpa_ie` looks for key management methods, before it falls back to
`WPA_KEY_MGMT_PSK`. -/
def keyMgmtOrder (build : RsnBuild) : List ℕ :=
  [wpaKeyMgmtIeee8021xSuiteB192, wpaKeyMgmtIeee8021xSuiteB] ++
    (if build.ieee80211r then [wpaKeyMgmtFtIeee8021x, wpaKeyMgmtFtPsk] else []) ++
    [wpaKeyMgmtIeee8021xSha256, wpaKeyMgmtPskSha256] ++
    (if build.sae then [wpaKeyMgmtSae, wpaKeyMgmtFtSae] else []) ++ [wpaKeyMgmtIeee8021x]

/-- The first bit in an order that a set has. -/
def pickBit (order : List ℕ) (flags : ℕ) : Option ℕ := order.find? fun bit => flags &&& bit ≠ 0

/-- The key management that is chosen. -/
def pickKeyMgmt (build : RsnBuild) (keyMgmt : ℕ) : ℕ := (pickBit (keyMgmtOrder build) keyMgmt).getD wpaKeyMgmtPsk

/-- The order in which `wpa_pick_pairwise_cipher` looks for ciphers. -/
def pairwiseOrder (noneAllowed : Bool) : List ℕ :=
  [wpaCipherCcmp256, wpaCipherGcmp256, wpaCipherCcmp, wpaCipherGcmp, wpaCipherTkip] ++
    (if noneAllowed then [wpaCipherNone] else [])

/-- `wpa_pick_pairwise_cipher`. -/
def wpaPickPairwiseCipher (ciphers : ℕ) (noneAllowed : Bool) : ℤ :=
  ((pickBit (pairwiseOrder noneAllowed) ciphers).map Int.ofNat).getD (-1)

/-- `wpa_key_mgmt_ft`. -/
def wpaKeyMgmtFt (akm : ℕ) : Prop := akm &&& (wpaKeyMgmtFtIeee8021x ||| wpaKeyMgmtFtPsk ||| wpaKeyMgmtFtSae) ≠ 0

instance (akm : ℕ) : Decidable (wpaKeyMgmtFt akm) := inferInstanceAs (Decidable (_ ≠ _))

/-- The version of an element. -/
def ieVersion (wpaIe : List UInt8) : ℕ := if wpaIe.getD 0 0 = wlanEidRsn then wpaProtoRsn else wpaProtoWpa

/-- The element is read by the parser of its version. -/
def parseIe (build : RsnBuild) (wpaIe : List UInt8) : Except ℤ WpaIeData :=
  if ieVersion wpaIe = wpaProtoRsn then wpaParseWpaIeRsn build wpaIe else wpaParseWpaIeWpa wpaIe

/-- The pairwise ciphers that are enabled for a version. -/
def enabledPairwise (conf : WpaAuthConfig) (version : ℕ) : ℕ :=
  if version = wpaProtoRsn then conf.rsnPairwise else conf.wpaPairwise

/-- The checks before the key management is chosen. -/
def checkSuites (build : RsnBuild) (conf : WpaAuthConfig) (wpaIe : List UInt8) : Except WpaIeResult WpaIeData :=
  if conf.wpa &&& ieVersion wpaIe = 0 then .error .invalidProto
  else
    match parseIe build wpaIe with
    | .error _ => .error .invalidIe
    | .ok data =>
      if data.groupCipher ≠ conf.wpaGroup then .error .invalidGroup
      else if data.keyMgmt &&& conf.wpaKeyMgmt = 0 then .error .invalidAkmp
      else .ok data

/-- The checks of the pairwise ciphers and of the protection of management frames. -/
def checkCiphers (conf : WpaAuthConfig) (ciphers : ℕ) (data : WpaIeData) : Except WpaIeResult Unit :=
  if ciphers = 0 then .error .invalidPairwise
  else if conf.ieee80211w = .mgmtFrameProtectionRequired then
    if data.capabilities &&& wpaCapabilityMfpc = 0 then .error .mgmtFrameProtectionViolation
    else if ciphers &&& wpaCipherTkip ≠ 0 then .error .mgmtFrameProtectionViolation
    else if data.mgmtGroupCipher ≠ conf.groupMgmtCipher then .error .invalidMgmtGroupCipher
    else .ok ()
  else .ok ()

/-- The mobility domain is missing or another one although fast transition is used. -/
def mdieRejected (build : RsnBuild) (conf : WpaAuthConfig) (wpaKeyMgmt : ℕ) (mdie : Option (List UInt8)) : Prop :=
  build.ieee80211r = true ∧ wpaKeyMgmtFt wpaKeyMgmt ∧
    ∀ bytes, mdie = some bytes → bytes.length < 2 + 1 ∨ bytes.take 2 ≠ conf.mobilityDomain.toList

instance (build : RsnBuild) (conf : WpaAuthConfig) (wpaKeyMgmt : ℕ) (mdie : Option (List UInt8)) :
    Decidable (mdieRejected build conf wpaKeyMgmt mdie) :=
  match mdie with
  | none => decidable_of_iff (build.ieee80211r = true ∧ wpaKeyMgmtFt wpaKeyMgmt) (by simp [mdieRejected])
  | some bytes =>
    decidable_of_iff (build.ieee80211r = true ∧ wpaKeyMgmtFt wpaKeyMgmt ∧
      (bytes.length < 2 + 1 ∨ bytes.take 2 ≠ conf.mobilityDomain.toList)) (by simp [mdieRejected])

/-- The PMKIDs of an element. -/
def WpaIeData.pmkids (data : WpaIeData) : List Pmkid :=
  (List.range data.numPmkid).map fun i => Vector.ofFn fun k : Fin 16 => data.pmkid.getD (i * pmkidLen + k) 0

/-- The search for a PMKSA, in the cache and then by opportunistic key caching, and the cache after it. -/
def findPmksa (env : ValidateEnv) (wpaAuth : WpaAuthenticatorIe) (spa : MacAddr) (pmkids : List Pmkid) :
    Option PmksaEntry × PmksaCache :=
  match pmkids.findSome? fun pmkid => wpaAuth.pmksa.authGet (some spa) (some pmkid) with
  | some entry => (some entry, wpaAuth.pmksa)
  | none =>
    match if wpaAuth.conf.okc then wpaAuth.pmksa.findOkc env.fns env.auths wpaAuth.addr spa pmkids else none with
    | some (oldEntry, pmkid) =>
      (env.mem.zalloc.map (PmksaCache.okcEntry oldEntry pmkid env.mem),
        (wpaAuth.pmksa.addOkc oldEntry pmkid env.mem env.now).getD wpaAuth.pmksa)
    | none => (none, wpaAuth.pmksa)

/-- The element is stored; there is a new allocation if the old one is too short. -/
def storeIe (env : ValidateEnv) (sm : WpaSmIe) (wpaIe : List UInt8) : WpaIeResult × WpaSmIe :=
  if (sm.wpaIe = none ∨ sm.wpaIeLen < wpaIe.length) ∧ env.malloc = false then (.allocFail, { sm with wpaIe := none })
  else (.ieOk, { sm with wpaIe := some wpaIe, wpaIeLen := wpaIe.length })

/-- Management frames are going to be protected. -/
def useMfp (conf : WpaAuthConfig) (data : WpaIeData) : Bool :=
  ¬(conf.ieee80211w = .noMgmtFrameProtection ∨ data.capabilities &&& wpaCapabilityMfpc = 0)

/-- What follows the checks of the pairwise ciphers. -/
def acceptIe (build : RsnBuild) (env : ValidateEnv) (wpaAuth : WpaAuthenticatorIe) (sm : WpaSmIe)
    (wpaIe : List UInt8) (mdie : Option (List UInt8)) (ciphers : ℕ) (data : WpaIeData) :
    WpaIeResult × WpaSmIe × PmksaCache :=
  let sm := { sm with mgmtFrameProt := useMfp wpaAuth.conf data }
  if mdieRejected build wpaAuth.conf sm.wpaKeyMgmt mdie then (.invalidMdie, sm, wpaAuth.pmksa)
  else
    let sm := { sm with pairwise := wpaPickPairwiseCipher ciphers false }
    if sm.pairwise < 0 then (.invalidPairwise, sm, wpaAuth.pmksa)
    else
      let found := findPmksa env wpaAuth sm.addr data.pmkids
      let sm := { sm with
        wpa := some (if ieVersion wpaIe = wpaProtoRsn then .wpa2 else .wpa)
        pmksa := found.1 }
      let stored := storeIe env sm wpaIe
      (stored.1, stored.2, found.2)

/-- `wpa_validate_wpa_ie` for an authenticator and a station.  The variables for the MIB are left out. -/
def validateIe (build : RsnBuild) (env : ValidateEnv) (wpaAuth : WpaAuthenticatorIe) (sm : WpaSmIe)
    (wpaIe : Option (List UInt8)) (mdie : Option (List UInt8)) : WpaIeResult × WpaSmIe × PmksaCache :=
  match wpaIe with
  | none => (.invalidIe, sm, wpaAuth.pmksa)
  | some wpaIe =>
    if wpaIe.length < 1 then (.invalidIe, sm, wpaAuth.pmksa)
    else
      match checkSuites build wpaAuth.conf wpaIe with
      | .error res => (res, sm, wpaAuth.pmksa)
      | .ok data =>
        let sm := { sm with wpaKeyMgmt := pickKeyMgmt build (data.keyMgmt &&& wpaAuth.conf.wpaKeyMgmt) }
        let ciphers := data.pairwiseCipher &&& enabledPairwise wpaAuth.conf (ieVersion wpaIe)
        match checkCiphers wpaAuth.conf ciphers data with
        | .error res => (res, sm, wpaAuth.pmksa)
        | .ok () => acceptIe build env wpaAuth sm wpaIe mdie ciphers data

/-- `wpa_validate_wpa_ie`: the result, and the station's state machine and the cache of the authenticator afterwards, as
far as there are an authenticator and a state machine. -/
def wpaValidateWpaIe (build : RsnBuild) (env : ValidateEnv) (wpaAuth : Option WpaAuthenticatorIe)
    (sm : Option WpaSmIe) (wpaIe : Option (List UInt8)) (mdie : Option (List UInt8)) :
    WpaIeResult × Option WpaSmIe × Option PmksaCache :=
  match wpaAuth, sm with
  | some wpaAuth, some sm =>
    let done := validateIe build env wpaAuth sm wpaIe mdie
    (done.1, some done.2.1, some done.2.2)
  | wpaAuth, sm => (.notEnabled, sm, wpaAuth.map WpaAuthenticatorIe.pmksa)

/-! ## What is agreed on -/

/-- The key management methods that a configuration can enable (`hostapd_config_parse_key_mgmt`). -/
def configurableKeyMgmt (build : RsnBuild) : List ℕ := wpaKeyMgmtPsk :: keyMgmtOrder build

/-- Where WPA or WPA2 is enabled, only methods that can be configured are. -/
def WpaAuthConfig.Configured (build : RsnBuild) (conf : WpaAuthConfig) : Prop :=
  conf.wpa &&& (wpaProtoWpa ||| wpaProtoRsn) ≠ 0 →
    conf.wpaKeyMgmt &&& (configurableKeyMgmt build).foldr (· ||| ·) 0 = conf.wpaKeyMgmt

/-- A single value that is offered and enabled. -/
def Agreed (value offered enabled : ℕ) : Prop :=
  ∃ k, value = 2 ^ k ∧ offered.testBit k = true ∧ enabled.testBit k = true

/-- The key management is agreed on. -/
def KeyMgmtAgreed (build : RsnBuild) (conf : WpaAuthConfig) (wpaIe : List UInt8) (keyMgmt : ℕ) : Prop :=
  ∃ data, parseIe build wpaIe = .ok data ∧ Agreed keyMgmt data.keyMgmt conf.wpaKeyMgmt

/-- The pairwise cipher is agreed on. -/
def PairwiseAgreed (build : RsnBuild) (conf : WpaAuthConfig) (wpaIe : List UInt8) (pairwise : ℤ) : Prop :=
  ∃ data cipher, parseIe build wpaIe = .ok data ∧ pairwise = Int.ofNat cipher ∧
    Agreed cipher data.pairwiseCipher (enabledPairwise conf (ieVersion wpaIe))

section Pick

variable {build : RsnBuild} {order : List ℕ} {flags bit offered enabled : ℕ}

lemma and_ne_zero_iff_testBit (flags k : ℕ) : flags &&& 2 ^ k ≠ 0 ↔ flags.testBit k = true := by
  rw [Nat.and_two_pow]
  cases flags.testBit k <;> simp

/-- A bit that is picked is in both sets. -/
lemma agreed_of_mem (h : ∃ k, bit = 2 ^ k) (hbit : (offered &&& enabled) &&& bit ≠ 0) : Agreed bit offered enabled := by
  obtain ⟨k, rfl⟩ := h
  rw [and_ne_zero_iff_testBit, Nat.testBit_and, Bool.and_eq_true] at hbit
  exact ⟨k, rfl, hbit⟩

lemma agreed_of_pickBit (h : ∀ b ∈ order, ∃ k, b = 2 ^ k) (hpick : pickBit order (offered &&& enabled) = some bit) :
    Agreed bit offered enabled := by
  have hbit := List.find?_some hpick
  rw [decide_eq_true_eq] at hbit
  exact agreed_of_mem (h bit (List.mem_of_find?_eq_some hpick)) hbit

/-- A set without the bits of an order has nothing in common with them. -/
lemma and_foldr_of_pickBit (h : pickBit order flags = none) : flags &&& order.foldr (· ||| ·) 0 = 0 := by
  have hnone := List.find?_eq_none.mp h
  clear h
  induction order with
  | nil => exact Nat.and_zero flags
  | cons b order ih =>
    obtain ⟨hb, horder⟩ := List.forall_mem_cons.mp hnone
    rw [decide_eq_true_eq, not_not] at hb
    rw [List.foldr_cons, Nat.and_or_distrib_left, hb, ih horder, Nat.zero_or]

lemma single_keyMgmtOrder (build : RsnBuild) : ∀ b ∈ keyMgmtOrder build, ∃ k, b = 2 ^ k := by
  have hbits : ∀ b ∈ keyMgmtOrder build, ∃ k < 20, b = 2 ^ k := by
    obtain ⟨r, s⟩ := build
    cases r <;> cases s <;> decide
  intro b hb
  obtain ⟨k, -, hk⟩ := hbits b hb
  exact ⟨k, hk⟩

lemma single_pairwiseOrder : ∀ b ∈ pairwiseOrder false, ∃ k, b = 2 ^ k := by
  have hbits : ∀ b ∈ pairwiseOrder false, ∃ k < 20, b = 2 ^ k := by decide
  intro b hb
  obtain ⟨k, -, hk⟩ := hbits b hb
  exact ⟨k, hk⟩

/-- The key management that is chosen is agreed on, also if it is the last resort. -/
lemma agreed_pickKeyMgmt (hconf : enabled &&& (configurableKeyMgmt build).foldr (· ||| ·) 0 = enabled)
    (hsome : offered &&& enabled ≠ 0) : Agreed (pickKeyMgmt build (offered &&& enabled)) offered enabled := by
  cases hpick : pickBit (keyMgmtOrder build) (offered &&& enabled) with
  | some bit =>
    rw [pickKeyMgmt, hpick, Option.getD_some]
    exact agreed_of_pickBit (single_keyMgmtOrder build) hpick
  | none =>
    rw [pickKeyMgmt, hpick, Option.getD_none]
    have hpsk : ∃ k, wpaKeyMgmtPsk = 2 ^ k := ⟨1, rfl⟩
    apply agreed_of_mem hpsk
    have hrest := and_foldr_of_pickBit hpick
    have hall : (offered &&& enabled) &&& (configurableKeyMgmt build).foldr (· ||| ·) 0 = offered &&& enabled := by
      rw [Nat.and_assoc, hconf]
    rw [configurableKeyMgmt, List.foldr_cons, Nat.and_or_distrib_left, hrest, Nat.or_zero] at hall
    rw [hall]
    exact hsome

/-- The pairwise cipher that is picked is agreed on, or there is none. -/
lemma wpaPickPairwiseCipher_cases (offered enabled : ℕ) :
    wpaPickPairwiseCipher (offered &&& enabled) false = -1 ∨
      ∃ cipher, wpaPickPairwiseCipher (offered &&& enabled) false = Int.ofNat cipher ∧ Agreed cipher offered enabled := by
  cases hpick : pickBit (pairwiseOrder false) (offered &&& enabled) with
  | none =>
    left
    rw [wpaPickPairwiseCipher, hpick]
    rfl
  | some cipher =>
    right
    refine ⟨cipher, ?_, agreed_of_pickBit single_pairwiseOrder hpick⟩
    rw [wpaPickPairwiseCipher, hpick]
    rfl

end Pick

/-! ## What a result means for the state machine -/

/-- What has changed in the state machine when the element gets a result.  Rejections before the key management is chosen
change nothing. -/
def ValidateOutcome (build : RsnBuild) (conf : WpaAuthConfig) (wpaIe : Option (List UInt8)) (sm sm' : WpaSmIe) :
    WpaIeResult → Prop
  | .notEnabled | .invalidIe | .invalidProto | .invalidGroup | .invalidAkmp => sm' = sm
  | .mgmtFrameProtectionViolation | .invalidMgmtGroupCipher =>
    ∃ ie keyMgmt, wpaIe = some ie ∧ KeyMgmtAgreed build conf ie keyMgmt ∧ sm' = { sm with wpaKeyMgmt := keyMgmt }
  | .invalidMdie =>
    ∃ ie keyMgmt prot, wpaIe = some ie ∧ KeyMgmtAgreed build conf ie keyMgmt ∧
      sm' = { sm with wpaKeyMgmt := keyMgmt, mgmtFrameProt := prot }
  | .invalidPairwise =>
    ∃ ie keyMgmt, wpaIe = some ie ∧ KeyMgmtAgreed build conf ie keyMgmt ∧
      (sm' = { sm with wpaKeyMgmt := keyMgmt } ∨
        ∃ prot, sm' = { sm with wpaKeyMgmt := keyMgmt, mgmtFrameProt := prot, pairwise := -1 })
  | .allocFail =>
    ∃ ie, wpaIe = some ie ∧ KeyMgmtAgreed build conf ie sm'.wpaKeyMgmt ∧ PairwiseAgreed build conf ie sm'.pairwise ∧
      sm'.addr = sm.addr ∧ sm'.wpaIe = none ∧ sm'.wpaIeLen = sm.wpaIeLen
  | .ieOk =>
    ∃ ie, wpaIe = some ie ∧ KeyMgmtAgreed build conf ie sm'.wpaKeyMgmt ∧ PairwiseAgreed build conf ie sm'.pairwise ∧
      sm'.addr = sm.addr ∧ sm'.wpaIe = some ie ∧ sm'.wpaIeLen = ie.length

section Outcome

variable {build : RsnBuild} {conf : WpaAuthConfig} {env : ValidateEnv} {wpaAuth : WpaAuthenticatorIe}
  {sm sm' : WpaSmIe} {wpaIe : List UInt8} {mdie : Option (List UInt8)} {data : WpaIeData} {res : WpaIeResult}
  {ciphers : ℕ}

/-- The first checks reject with one of four results. -/
lemma checkSuites_error (h : checkSuites build conf wpaIe = .error res) :
    res = .invalidProto ∨ res = .invalidIe ∨ res = .invalidGroup ∨ res = .invalidAkmp := by
  unfold checkSuites at h
  split at h
  · exact Or.inl (Except.error.inj h).symm
  · split at h
    · exact Or.inr (Or.inl (Except.error.inj h).symm)
    · split at h
      · exact Or.inr (Or.inr (Or.inl (Except.error.inj h).symm))
      · split at h
        · exact Or.inr (Or.inr (Or.inr (Except.error.inj h).symm))
        · cases h

/-- When the first checks are passed there is a method in common, and a version is enabled. -/
lemma checkSuites_ok (h : checkSuites build conf wpaIe = .ok data) :
    parseIe build wpaIe = .ok data ∧ data.keyMgmt &&& conf.wpaKeyMgmt ≠ 0 ∧ conf.wpa &&& ieVersion wpaIe ≠ 0 := by
  unfold checkSuites at h
  split at h
  · cases h
  · next hversion =>
    split at h
    · cases h
    · next data' hparse =>
      split at h
      · cases h
      · split at h
        · cases h
        · next hakm =>
          obtain rfl := Except.ok.inj h
          exact ⟨hparse, hakm, hversion⟩

lemma checkCiphers_error (h : checkCiphers conf ciphers data = .error res) :
    res = .invalidPairwise ∨ res = .mgmtFrameProtectionViolation ∨ res = .invalidMgmtGroupCipher := by
  unfold checkCiphers at h
  split at h
  · exact Or.inl (Except.error.inj h).symm
  · split at h
    · split at h
      · exact Or.inr (Or.inl (Except.error.inj h).symm)
      · split at h
        · exact Or.inr (Or.inl (Except.error.inj h).symm)
        · split at h
          · exact Or.inr (Or.inr (Except.error.inj h).symm)
          · cases h
    · cases h

/-- The version of an element is one of the two. -/
lemma and_version_ne_zero (h : conf.wpa &&& ieVersion wpaIe ≠ 0) : conf.wpa &&& (wpaProtoWpa ||| wpaProtoRsn) ≠ 0 := by
  rw [Nat.and_or_distrib_left]
  intro hzero
  obtain ⟨hwpa, hrsn⟩ := Nat.or_eq_zero_iff.mp hzero
  apply h
  unfold ieVersion
  split
  · exact hrsn
  · exact hwpa

lemma storeIe_cases (env : ValidateEnv) (sm : WpaSmIe) (wpaIe : List UInt8) :
    storeIe env sm wpaIe = (.allocFail, { sm with wpaIe := none }) ∨
      storeIe env sm wpaIe = (.ieOk, { sm with wpaIe := some wpaIe, wpaIeLen := wpaIe.length }) := by
  unfold storeIe
  split
  · exact Or.inl rfl
  · exact Or.inr rfl

/-- What happens once the ciphers are found in order. -/
lemma acceptIe_outcome (hkeyMgmt : KeyMgmtAgreed build wpaAuth.conf wpaIe sm'.wpaKeyMgmt)
    (hsm : sm' = { sm with wpaKeyMgmt := sm'.wpaKeyMgmt }) (hparse : parseIe build wpaIe = .ok data)
    (hciphers : ciphers = data.pairwiseCipher &&& enabledPairwise wpaAuth.conf (ieVersion wpaIe)) :
    ValidateOutcome build wpaAuth.conf (some wpaIe) sm (acceptIe build env wpaAuth sm' wpaIe mdie ciphers data).2.1
      (acceptIe build env wpaAuth sm' wpaIe mdie ciphers data).1 := by
  have haddr : sm'.addr = sm.addr := by rw [hsm]
  have hlen : sm'.wpaIeLen = sm.wpaIeLen := by rw [hsm]
  unfold acceptIe
  dsimp only
  split
  · refine ⟨wpaIe, sm'.wpaKeyMgmt, useMfp wpaAuth.conf data, rfl, hkeyMgmt, ?_⟩
    rw [hsm]
  · rcases wpaPickPairwiseCipher_cases data.pairwiseCipher (enabledPairwise wpaAuth.conf (ieVersion wpaIe)) with
      hnone | ⟨cipher, hcipher, hagreed⟩
    · rw [← hciphers] at hnone
      rw [hnone, if_pos (by decide)]
      refine ⟨wpaIe, sm'.wpaKeyMgmt, rfl, hkeyMgmt, Or.inr ⟨useMfp wpaAuth.conf data, ?_⟩⟩
      rw [hsm]
    · rw [← hciphers] at hcipher
      have hpairwise : PairwiseAgreed build wpaAuth.conf wpaIe (wpaPickPairwiseCipher ciphers false) :=
        ⟨data, cipher, hparse, hcipher, hagreed⟩
      have hnonneg : ¬wpaPickPairwiseCipher ciphers false < 0 := by
        rw [hcipher]
        exact not_lt.mpr (Int.natCast_nonneg cipher)
      rw [if_neg hnonneg]
      rcases storeIe_cases env { sm' with
          mgmtFrameProt := useMfp wpaAuth.conf data
          pairwise := wpaPickPairwiseCipher ciphers false
          wpa := some (if ieVersion wpaIe = wpaProtoRsn then .wpa2 else .wpa)
          pmksa := (findPmksa env wpaAuth sm'.addr data.pmkids).1 } wpaIe with hstored | hstored
      · rw [hstored]
        exact ⟨wpaIe, rfl, hkeyMgmt, hpairwise, haddr, rfl, hlen⟩
      · rw [hstored]
        exact ⟨wpaIe, rfl, hkeyMgmt, hpairwise, haddr, rfl, rfl⟩

/-- What the check of an element does to a state machine. -/
lemma validateIe_outcome (hconf : wpaAuth.conf.Configured build) (sm : WpaSmIe) (wpaIe mdie : Option (List UInt8)) :
    ValidateOutcome build wpaAuth.conf wpaIe sm (validateIe build env wpaAuth sm wpaIe mdie).2.1
      (validateIe build env wpaAuth sm wpaIe mdie).1 := by
  cases wpaIe with
  | none => rfl
  | some wpaIe =>
    rw [validateIe]
    split
    · rfl
    · split
      · next res hchecks =>
        rcases checkSuites_error hchecks with rfl | rfl | rfl | rfl <;> rfl
      · next data hchecks =>
        obtain ⟨hparse, hakm, hversion⟩ := checkSuites_ok hchecks
        have hagreed := agreed_pickKeyMgmt (hconf (and_version_ne_zero hversion)) hakm
        have hkeyMgmt : KeyMgmtAgreed build wpaAuth.conf wpaIe
          (pickKeyMgmt build (data.keyMgmt &&& wpaAuth.conf.wpaKeyMgmt)) := ⟨data, hparse, hagreed⟩
        dsimp only
        split
        · next res hciphers =>
          rcases checkCiphers_error hciphers with rfl | rfl | rfl
          · exact ⟨wpaIe, _, rfl, hkeyMgmt, Or.inl rfl⟩
          · exact ⟨wpaIe, _, rfl, hkeyMgmt, rfl⟩
          · exact ⟨wpaIe, _, rfl, hkeyMgmt, rfl⟩
        · exact acceptIe_outcome hkeyMgmt rfl hparse rfl

end Outcome

/-- The check of an element changes no more in the state machine of a station than its result says. -/
theorem wpaValidateWpaIe_outcome (build : RsnBuild) (env : ValidateEnv) (wpaAuth : Option WpaAuthenticatorIe)
    (sm : Option WpaSmIe) (wpaIe mdie : Option (List UInt8))
    (hconf : ∀ a, wpaAuth = some a → a.conf.Configured build) :
    ((wpaAuth = none ∨ sm = none) → (wpaValidateWpaIe build env wpaAuth sm wpaIe mdie).1 = .notEnabled ∧
      (wpaValidateWpaIe build env wpaAuth sm wpaIe mdie).2.1 = sm) ∧
    ∀ a s, wpaAuth = some a → sm = some s →
      ∃ s', (wpaValidateWpaIe build env wpaAuth sm wpaIe mdie).2.1 = some s' ∧
        ValidateOutcome build a.conf wpaIe s s' (wpaValidateWpaIe build env wpaAuth sm wpaIe mdie).1 := by
  constructor
  · rintro (rfl | rfl)
    · exact ⟨rfl, rfl⟩
    · cases wpaAuth <;> exact ⟨rfl, rfl⟩
  · rintro a s rfl rfl
    exact ⟨_, rfl, validateIe_outcome (hconf a rfl) s wpaIe mdie⟩

/-- A network with a key from 802.1X or a PSK that requires protected management frames. -/
def mfpAuthenticator : WpaAuthenticatorIe where
  addr := Vector.replicate 6 2
  conf := ⟨wpaProtoRsn, wpaKeyMgmtIeee8021x ||| wpaKeyMgmtPsk, 0, wpaCipherCcmp, wpaCipherCcmp, false, false, true, false,
    .mgmtFrameProtectionRequired, wpaCipherAes128Cmac, #v[1, 2], false⟩
  pmksa := PmksaCache.init ⟨⟨0, 0⟩, by decide, by decide, by decide⟩

/-- A station that is connected with a PSK. -/
def pskStation : WpaSmIe := ⟨Vector.replicate 6 4, wpaKeyMgmtPsk, 16, true, some .wpa2, none, none, 0⟩

/-- Empty caches and enough memory. -/
def quietEnv : ValidateEnv where
  fns := ⟨fun _ _ _ _ => Vector.replicate 16 0, fun _ _ _ => Vector.replicate 16 0, fun _ _ _ => Vector.replicate 16 0⟩
  auths := []
  mem := ⟨none, false, false, false⟩
  now := ⟨0, 0⟩
  malloc := true

/-- An element with CCMP and 802.1X, without protection of management frames. -/
def unprotectedIe : List UInt8 :=
  [48, 20, 1, 0, 0, 15, 172, 4, 1, 0, 0, 15, 172, 4, 1, 0, 0, 15, 172, 1, 0, 0]

/-- The outcome for the network and the station. -/
theorem wpaValidateWpaIe_outcome_unprotected :
    (((some mfpAuthenticator : Option WpaAuthenticatorIe) = none ∨ (some pskStation : Option WpaSmIe) = none) →
      (wpaValidateWpaIe ⟨true, false⟩ quietEnv (some mfpAuthenticator) (some pskStation) (some unprotectedIe) none).1 =
        .notEnabled ∧
      (wpaValidateWpaIe ⟨true, false⟩ quietEnv (some mfpAuthenticator) (some pskStation) (some unprotectedIe)
        none).2.1 = some pskStation) ∧
    ∀ a s, some mfpAuthenticator = some a → some pskStation = some s →
      ∃ s', (wpaValidateWpaIe ⟨true, false⟩ quietEnv (some mfpAuthenticator) (some pskStation) (some unprotectedIe)
          none).2.1 = some s' ∧
        ValidateOutcome ⟨true, false⟩ a.conf (some unprotectedIe) s s'
          (wpaValidateWpaIe ⟨true, false⟩ quietEnv (some mfpAuthenticator) (some pskStation) (some unprotectedIe)
            none).1 :=
  wpaValidateWpaIe_outcome ⟨true, false⟩ quietEnv (some mfpAuthenticator) (some pskStation) (some unprotectedIe) none
    (by
      rintro a ha
      obtain rfl := Option.some.inj ha
      intro
      decide)

/-- The element is rejected, but the station's key management is another one afterwards. -/
theorem keyMgmt_after_violation :
    (wpaValidateWpaIe ⟨true, false⟩ quietEnv (some mfpAuthenticator) (some pskStation) (some unprotectedIe) none).1 =
        .mgmtFrameProtectionViolation ∧
      (wpaValidateWpaIe ⟨true, false⟩ quietEnv (some mfpAuthenticator) (some pskStation) (some unprotectedIe)
          none).2.1.map WpaSmIe.wpaKeyMgmt = some wpaKeyMgmtIeee8021x ∧
      pskStation.wpaKeyMgmt = wpaKeyMgmtPsk ∧ wpaKeyMgmtPsk ≠ wpaKeyMgmtIeee8021x := by
  decide

end Ethanol
