import EthanolHostapd.Common.WpaCommon

/-!
# The RSN element of an authenticator

`wpa_write_rsn_ie` of `wpa_auth_ie.c`, and that the parser reads from the element what is configured.

A later field forces the earlier ones to be there: the management group cipher can only be written behind a number of
PMKIDs, even if that is zero.
-/

namespace Ethanol

open Wire

/-! ## The code -/

/-- `enum mfp_options`. -/
inductive MfpOptions
  | noMgmtFrameProtection | mgmtFrameProtectionOptional | mgmtFrameProtectionRequired
  deriving DecidableEq

/-- `struct wpa_auth_config`, as far as elements are concerned. -/
structure WpaAuthConfig where
  wpa : ℕ
  wpaKeyMgmt : ℕ
  wpaPairwise : ℕ
  wpaGroup : ℕ
  rsnPairwise : ℕ
  rsnPreauth : Bool
  peerkey : Bool
  wmmEnabled : Bool
  okc : Bool
  ieee80211w : MfpOptions
  groupMgmtCipher : ℕ
  mobilityDomain : Vector UInt8 2
  ftOverDs : Bool

/-- What a writer leaves: the bytes from the start of its area to its position, and whether it succeeds. -/
structure Written where
  bytes : List UInt8
  ok : Bool

/-- The ciphers of `wpa_cipher_to_suite` with their suites, in the order of the comparisons; with `WPA_PROTO_RSN` or
not. -/
def cipherToSuiteTable (rsn : Bool) : List (ℕ × ℕ) :=
  [(wpaCipherCcmp256, rsnSuite 10), (wpaCipherGcmp256, rsnSuite 9),
    (wpaCipherCcmp, if rsn then rsnSuite 4 else wpaSuite 4), (wpaCipherGcmp, rsnSuite 8),
    (wpaCipherTkip, if rsn then rsnSuite 2 else wpaSuite 2), (wpaCipherNone, if rsn then rsnSuite 0 else wpaSuite 0),
    (wpaCipherGtkNotUsed, rsnSuite 7), (wpaCipherAes128Cmac, rsnSuite 6), (wpaCipherBipGmac128, rsnSuite 11),
    (wpaCipherBipGmac256, rsnSuite 12), (wpaCipherBipCmac256, rsnSuite 13)]

/-- `wpa_cipher_to_suite`. -/
def wpaCipherToSuite (rsn : Bool) (cipher : ℕ) : ℕ :=
  (((cipherToSuiteTable rsn).find? fun t => cipher &&& t.1 ≠ 0).map Prod.snd).getD 0

/-- The ciphers that `rsn_cipher_put_suites` puts. -/
def rsnPairwiseTable : List (ℕ × ℕ) :=
  [(wpaCipherCcmp256, rsnSuite 10), (wpaCipherGcmp256, rsnSuite 9), (wpaCipherCcmp, rsnSuite 4),
    (wpaCipherGcmp, rsnSuite 8), (wpaCipherTkip, rsnSuite 2), (wpaCipherNone, rsnSuite 0)]

/-- `rsn_cipher_put_suites`. -/
def rsnCipherPutSuites (ciphers : ℕ) : List ℕ := putSuites rsnPairwiseTable ciphers

/-- The key management suites that `wpa_write_rsn_ie` puts. -/
def rsnAkmTable (build : RsnBuild) : List (ℕ × ℕ) :=
  [(wpaKeyMgmtIeee8021x, rsnSuite 1), (wpaKeyMgmtPsk, rsnSuite 2)] ++
    (if build.ieee80211r then [(wpaKeyMgmtFtIeee8021x, rsnSuite 3), (wpaKeyMgmtFtPsk, rsnSuite 4)] else []) ++
    [(wpaKeyMgmtIeee8021xSha256, rsnSuite 5), (wpaKeyMgmtPskSha256, rsnSuite 6)] ++
    (if build.sae then [(wpaKeyMgmtSae, rsnSuite 8), (wpaKeyMgmtFtSae, rsnSuite 9)] else []) ++
    [(wpaKeyMgmtIeee8021xSuiteB, rsnSuite 11), (wpaKeyMgmtIeee8021xSuiteB192, rsnSuite 12)]

/-- The RSN capabilities. -/
def rsnCapabilities (conf : WpaAuthConfig) : ℕ :=
  (if conf.rsnPreauth then 0x0001 else 0) ||| -- WPA_CAPABILITY_PREAUTH
  (if conf.peerkey then 0x0200 else 0) ||| -- WPA_CAPABILITY_PEERKEY_ENABLED
  (if conf.wmmEnabled then 3 * 4 else 0) ||| -- RSN_NUM_REPLAY_COUNTERS_16 << 2
  (match conf.ieee80211w with
    | .noMgmtFrameProtection => 0
    | .mgmtFrameProtectionOptional => wpaCapabilityMfpc
    | .mgmtFrameProtectionRequired => wpaCapabilityMfpc ||| wpaCapabilityMfpr)

/-- The `switch` over the management group cipher. -/
def mgmtGroupSuite (cipher : ℕ) : Option ℕ :=
  if cipher = wpaCipherAes128Cmac then some (rsnSuite 6)
  else if cipher = wpaCipherBipGmac128 then some (rsnSuite 11)
  else if cipher = wpaCipherBipGmac256 then some (rsnSuite 12)
  else if cipher = wpaCipherBipCmac256 then some (rsnSuite 13)
  else none

/-- Version, group cipher and the two lists of suites: what is written in any case if there are suites. -/
def rsnFixed (build : RsnBuild) (conf : WpaAuthConfig) : List UInt8 :=
  leBytes 2 1 ++ (beBytes 4 (wpaCipherToSuite true conf.wpaGroup) ++
    (leBytes 2 (rsnCipherPutSuites conf.rsnPairwise).length ++ (suiteBytes (rsnCipherPutSuites conf.rsnPairwise) ++
      (leBytes 2 (putSuites (rsnAkmTable build) conf.wpaKeyMgmt).length ++
        suiteBytes (putSuites (rsnAkmTable build) conf.wpaKeyMgmt)))))

/-- The number of PMKIDs and the PMKID, if there is one. -/
def pmkidField (pmkid : Option Pmkid) : List UInt8 := (pmkid.map fun p => leBytes 2 1 ++ p.bytes).getD []

/-- A management group cipher other than the default is used. -/
def WpaAuthConfig.otherMgmtGroup (conf : WpaAuthConfig) : Prop :=
  conf.ieee80211w ≠ .noMgmtFrameProtection ∧ conf.groupMgmtCipher ≠ wpaCipherAes128Cmac

instance (conf : WpaAuthConfig) : Decidable conf.otherMgmtGroup := inferInstanceAs (Decidable (_ ∧ _))

/-- `wpa_write_rsn_ie`.  The length byte is filled in at the end. -/
def wpaWriteRsnIe (build : RsnBuild) (conf : WpaAuthConfig) (len : ℕ) (pmkid : Option Pmkid) : Written :=
  let failed (body : List UInt8) : Written := ⟨wlanEidRsn :: 0 :: body, false⟩
  if wpaCipherToSuite true conf.wpaGroup = 0 then failed (leBytes 2 1)
  else if rsnCipherPutSuites conf.rsnPairwise = [] then
    failed (leBytes 2 1 ++ beBytes 4 (wpaCipherToSuite true conf.wpaGroup) ++ leBytes 2 0)
  else if putSuites (rsnAkmTable build) conf.wpaKeyMgmt = [] then failed (rsnFixed build conf)
  else
    let body := rsnFixed build conf ++ leBytes 2 (rsnCapabilities conf)
    if pmkid.isSome ∧ len < 2 + body.length + (2 + pmkidLen) then failed body
    else
      let body := body ++ pmkidField pmkid
      if conf.otherMgmtGroup then
        if len < 2 + body.length + (2 + 4) then failed body
        else
          let body := body ++ if pmkid.isNone then leBytes 2 0 else []
          match mgmtGroupSuite conf.groupMgmtCipher with
          | none => failed body
          | some suite =>
            let body := body ++ beBytes 4 suite
            ⟨wlanEidRsn :: UInt8.ofNat body.length :: body, true⟩
      else ⟨wlanEidRsn :: UInt8.ofNat body.length :: body, true⟩

/-! ## The tables -/

lemma names_rsnPairwiseTable : NamesSuites rsnPairwiseTable rsnSelectorToBitfield := by
  have hbits : ∀ t ∈ rsnPairwiseTable, (∃ k < 16, t.1 = 2 ^ k) ∧ t.2 < 2 ^ 32 ∧ rsnSelectorToBitfield t.2 = t.1 := by
    decide
  intro t ht
  obtain ⟨⟨k, -, hk⟩, hrest⟩ := hbits t ht
  exact ⟨⟨k, hk⟩, hrest⟩

lemma names_rsnAkmTable (build : RsnBuild) : NamesSuites (rsnAkmTable build) (rsnKeyMgmtToBitfield build) := by
  have hbits : ∀ t ∈ rsnAkmTable build,
      (∃ k < 20, t.1 = 2 ^ k) ∧ t.2 < 2 ^ 32 ∧ rsnKeyMgmtToBitfield build t.2 = t.1 := by
    obtain ⟨r, s⟩ := build
    cases r <;> cases s <;> decide
  intro t ht
  obtain ⟨⟨k, -, hk⟩, hrest⟩ := hbits t ht
  exact ⟨⟨k, hk⟩, hrest⟩

lemma length_rsnAkmTable_le (build : RsnBuild) : (rsnAkmTable build).length ≤ 10 := by
  obtain ⟨r, s⟩ := build
  cases r <;> cases s <;> decide

/-- A valid group cipher is read back from its suite. -/
lemma rsnSelectorToBitfield_group {cipher : ℕ} (h : wpaCipherValidGroup cipher) :
    rsnSelectorToBitfield (wpaCipherToSuite true cipher) = cipher ∧ wpaCipherToSuite true cipher < 2 ^ 32 := by
  rcases h with (rfl | rfl | rfl | rfl | rfl) | rfl <;> decide

/-- A management group cipher is read back from its suite. -/
lemma rsnSelectorToBitfield_mgmtGroup {cipher suite : ℕ} (h : mgmtGroupSuite cipher = some suite) :
    rsnSelectorToBitfield suite = cipher ∧ wpaCipherValidMgmtGroup cipher ∧ suite < 2 ^ 32 := by
  unfold mgmtGroupSuite at h
  split at h
  · next heq =>
    obtain rfl := Option.some.inj h
    subst heq
    decide
  · split at h
    · next heq =>
      obtain rfl := Option.some.inj h
      subst heq
      decide
    · split at h
      · next heq =>
        obtain rfl := Option.some.inj h
        subst heq
        decide
      · split at h
        · next heq =>
          obtain rfl := Option.some.inj h
          subst heq
          decide
        · cases h

/-! ## What is written -/

/-- What follows the PMKID: another management group cipher, with the number of PMKIDs in front if that is not there
yet. -/
def mgmtGroupField (conf : WpaAuthConfig) (pmkid : Option Pmkid) (suite : ℕ) : List UInt8 :=
  if conf.otherMgmtGroup then (if pmkid.isNone then leBytes 2 0 else []) ++ beBytes 4 suite else []

/-- The fields behind the key management suites. -/
def rsnOptional (conf : WpaAuthConfig) (pmkid : Option Pmkid) (suite : ℕ) : List UInt8 :=
  leBytes 2 (rsnCapabilities conf) ++ (pmkidField pmkid ++ mgmtGroupField conf pmkid suite)

section Write

variable {build : RsnBuild} {conf : WpaAuthConfig} {len : ℕ} {pmkid : Option Pmkid}

/-- What has been written when the writer succeeds. -/
lemma wpaWriteRsnIe_ok (h : (wpaWriteRsnIe build conf len pmkid).ok = true) :
    rsnCipherPutSuites conf.rsnPairwise ≠ [] ∧ putSuites (rsnAkmTable build) conf.wpaKeyMgmt ≠ [] ∧
      ∃ suite, (conf.otherMgmtGroup → mgmtGroupSuite conf.groupMgmtCipher = some suite) ∧
        (wpaWriteRsnIe build conf len pmkid).bytes =
          wlanEidRsn :: UInt8.ofNat (rsnFixed build conf ++ rsnOptional conf pmkid suite).length ::
            (rsnFixed build conf ++ rsnOptional conf pmkid suite) := by
  unfold wpaWriteRsnIe at h ⊢
  dsimp only at h ⊢
  split at h
  · cases h
  · next hgroup =>
    split at h
    · cases h
    · next hpairwise =>
      split at h
      · cases h
      · next hakm =>
        split at h
        · cases h
        · next hroom =>
          rw [if_neg hgroup, if_neg hpairwise, if_neg hakm, if_neg hroom]
          refine ⟨hpairwise, hakm, ?_⟩
          by_cases hother : conf.otherMgmtGroup
          · rw [if_pos hother] at h ⊢
            split at h
            · cases h
            · next hroom' =>
              rw [if_neg hroom']
              cases hsuite : mgmtGroupSuite conf.groupMgmtCipher with
              | none =>
                rw [hsuite] at h
                cases h
              | some suite =>
                refine ⟨suite, fun _ => rfl, ?_⟩
                simp only [rsnOptional, mgmtGroupField, if_pos hother, List.append_assoc]
          · rw [if_neg hother]
            refine ⟨0, fun hother' => absurd hother' hother, ?_⟩
            simp only [rsnOptional, mgmtGroupField, if_neg hother, List.append_assoc, List.append_nil]

/-! ## What is read -/

lemma rsnCapabilities_lt (conf : WpaAuthConfig) : rsnCapabilities conf < 2 ^ 16 := by
  unfold rsnCapabilities
  cases conf.rsnPreauth <;> cases conf.peerkey <;> cases conf.wmmEnabled <;> cases conf.ieee80211w <;> decide

/-- The PMKIDs of an element. -/
def pmkidList (pmkid : Option Pmkid) : List UInt8 := (pmkid.map Pmkid.bytes).getD []

/-- The number of PMKIDs in front of what follows. -/
lemma parsePmkids_field (p : Pmkid) (rest : List UInt8) :
    parsePmkids (leBytes 2 1 ++ (p.bytes ++ rest)) = .ok (1, p.bytes, rest) := by
  have hlength := p.length_bytes
  rw [pmkidLen] at hlength
  rw [parsePmkids, if_pos (by simp)]
  dsimp only
  rw [List.take_left' (length_leBytes 2 1), List.drop_left' (length_leBytes 2 1), leNat_leBytes, if_neg]
  · simp only [show 1 % 256 ^ 2 * pmkidLen = 16 by decide, List.take_left' hlength, List.drop_left' hlength]
    rfl
  · rw [List.length_append, pmkidLen, show 1 % 256 ^ 2 = 1 by decide]
    omega

lemma parsePmkids_zero (rest : List UInt8) : parsePmkids (leBytes 2 0 ++ rest) = .ok (0, [], rest) := by
  rw [parsePmkids, if_pos (by simp)]
  dsimp only
  rw [List.take_left' (length_leBytes 2 0), List.drop_left' (length_leBytes 2 0), leNat_leBytes, if_neg (by simp)]
  simp

lemma parseMgmtGroupCipher_suite {cipher suite : ℕ} (h : mgmtGroupSuite cipher = some suite) :
    parseMgmtGroupCipher (beBytes 4 suite) = .ok cipher := by
  obtain ⟨hcipher, hvalid, hlt⟩ := rsnSelectorToBitfield_mgmtGroup h
  rw [parseMgmtGroupCipher, if_pos (by simp)]
  dsimp only
  rw [List.take_of_length_le (by simp), beNat_selector hlt, hcipher, if_pos hvalid]

/-- The optional fields are read back. -/
lemma parseRsnTail_optional {suite : ℕ} (hsuite : conf.otherMgmtGroup → mgmtGroupSuite conf.groupMgmtCipher = some suite) :
    parseRsnTail (rsnOptional conf pmkid suite) =
      .ok ⟨rsnCapabilities conf, pmkid.toList.length, pmkidList pmkid,
        if conf.ieee80211w = .noMgmtFrameProtection then wpaCipherAes128Cmac else conf.groupMgmtCipher⟩ := by
  have hcapab : parseCapabilities (rsnOptional conf pmkid suite) =
      (rsnCapabilities conf, pmkidField pmkid ++ mgmtGroupField conf pmkid suite) := by
    rw [parseCapabilities, rsnOptional, if_pos (by simp), List.take_left' (length_leBytes 2 _),
      List.drop_left' (length_leBytes 2 _), leNat_count (rsnCapabilities_lt conf)]
  have hcipher : conf.otherMgmtGroup ∨
      (if conf.ieee80211w = .noMgmtFrameProtection then wpaCipherAes128Cmac else conf.groupMgmtCipher) =
        wpaCipherAes128Cmac := by
    by_cases hprot : conf.ieee80211w = .noMgmtFrameProtection
    · exact Or.inr (if_pos hprot)
    · by_cases haes : conf.groupMgmtCipher = wpaCipherAes128Cmac
      · exact Or.inr (by rw [if_neg hprot, haes])
      · exact Or.inl ⟨hprot, haes⟩
  have hnil : parseMgmtGroupCipher [] = .ok wpaCipherAes128Cmac := rfl
  rw [parseRsnTail, hcapab]
  by_cases hother : conf.otherMgmtGroup
  · have hmgmt := parseMgmtGroupCipher_suite (hsuite hother)
    rw [mgmtGroupField, if_pos hother, if_neg hother.1]
    cases pmkid with
    | none =>
      have hpmkids := parsePmkids_zero (beBytes 4 suite)
      simp only [pmkidField, Option.map_none, Option.getD_none, List.nil_append, Option.isNone_none, if_true, hpmkids,
        bind, Except.bind, hmgmt, pure, Except.pure]
      rfl
    | some p =>
      have hpmkids := parsePmkids_field p (beBytes 4 suite)
      simp only [pmkidField, Option.map_some, Option.getD_some, List.append_assoc, Option.isNone_some,
        Bool.false_eq_true, if_false, List.nil_append, hpmkids, bind, Except.bind, hmgmt, pure, Except.pure]
      rfl
  · rw [mgmtGroupField, if_neg hother, List.append_nil, hcipher.resolve_left hother]
    cases pmkid with
    | none => rfl
    | some p =>
      have hpmkids := parsePmkids_field p []
      rw [List.append_nil] at hpmkids
      simp only [pmkidField, Option.map_some, Option.getD_some, hpmkids, bind, Except.bind, hnil, pure, Except.pure]
      rfl

/-- The pairwise ciphers that can be configured. -/
def rsnPairwiseCiphers : ℕ :=
  wpaCipherCcmp256 ||| wpaCipherGcmp256 ||| wpaCipherCcmp ||| wpaCipherGcmp ||| wpaCipherTkip

/-- The fixed fields are read back. -/
lemma parseRsnSuites_fixed (hgroup : wpaCipherValidGroup conf.wpaGroup)
    (hpairwise : conf.rsnPairwise &&& rsnPairwiseCiphers = conf.rsnPairwise)
    (hsuites : rsnCipherPutSuites conf.rsnPairwise ≠ []) (hakms : putSuites (rsnAkmTable build) conf.wpaKeyMgmt ≠ [])
    (rest : List UInt8) :
    parseRsnSuites build ((rsnFixed build conf).drop 2 ++ rest) =
      .ok (conf.wpaGroup, conf.rsnPairwise, conf.wpaKeyMgmt &&& tableMask (rsnAkmTable build), rest) := by
  obtain ⟨hread, hlt⟩ := rsnSelectorToBitfield_group hgroup
  have hfixed : (rsnFixed build conf).drop 2 ++ rest =
      beBytes 4 (wpaCipherToSuite true conf.wpaGroup) ++
        (leBytes 2 (rsnCipherPutSuites conf.rsnPairwise).length ++ (suiteBytes (rsnCipherPutSuites conf.rsnPairwise) ++
          (leBytes 2 (putSuites (rsnAkmTable build) conf.wpaKeyMgmt).length ++
            (suiteBytes (putSuites (rsnAkmTable build) conf.wpaKeyMgmt) ++ rest)))) := by
    rw [rsnFixed, List.drop_left' (length_leBytes 2 1)]
    simp only [List.append_assoc]
  have hmask : conf.rsnPairwise &&& tableMask rsnPairwiseTable = conf.rsnPairwise := by
    have hsub : rsnPairwiseCiphers &&& tableMask rsnPairwiseTable = rsnPairwiseCiphers := by decide
    rw [← hpairwise, Nat.and_assoc, hsub]
  have haes : conf.rsnPairwise &&& wpaCipherAes128Cmac = 0 := by
    have hdisjoint : rsnPairwiseCiphers &&& wpaCipherAes128Cmac = 0 := by decide
    rw [← hpairwise, Nat.and_assoc, hdisjoint, Nat.and_zero]
  have hakmLength := length_rsnAkmTable_le build
  have hparsePairwise := parseSuiteList_putSuites names_rsnPairwiseTable (by decide) hsuites wpaCipherCcmp (-4) (-5)
    (leBytes 2 (putSuites (rsnAkmTable build) conf.wpaKeyMgmt).length ++
      (suiteBytes (putSuites (rsnAkmTable build) conf.wpaKeyMgmt) ++ rest))
  have hparseAkm := parseSuiteList_putSuites (names_rsnAkmTable build) (by omega) hakms wpaKeyMgmtIeee8021x (-6) (-7)
    rest
  have hparseGroup (rest : List UInt8) :
      parseRsnGroup (beBytes 4 (wpaCipherToSuite true conf.wpaGroup) ++ rest) = .ok (conf.wpaGroup, rest) := by
    rw [parseRsnGroup, if_pos (by simp), List.take_left' (length_beBytes 4 _), List.drop_left' (length_beBytes 4 _),
      beNat_selector hlt, hread]
    exact if_pos hgroup
  rw [hfixed, parseRsnSuites, hparseGroup]
  simp only [bind, Except.bind, rsnCipherPutSuites] at hparsePairwise ⊢
  simp only [hparsePairwise, hmask, haes, ne_eq, not_true_eq_false, if_false, hparseAkm, pure, Except.pure]

lemma length_rsnFixed_le (build : RsnBuild) (conf : WpaAuthConfig) : (rsnFixed build conf).length ≤ 74 := by
  have hpairwise := length_putSuites_le rsnPairwiseTable conf.rsnPairwise
  have hakm := length_putSuites_le (rsnAkmTable build) conf.wpaKeyMgmt
  have htable := length_rsnAkmTable_le build
  have hsix : rsnPairwiseTable.length = 6 := rfl
  simp only [rsnFixed, List.length_append, length_leBytes, length_beBytes, length_suiteBytes, rsnCipherPutSuites]
  omega

lemma length_rsnOptional_le (conf : WpaAuthConfig) (pmkid : Option Pmkid) (suite : ℕ) :
    (rsnOptional conf pmkid suite).length ≤ 24 := by
  have hmgmt : (mgmtGroupField conf pmkid suite).length ≤ 4 + if pmkid.isNone then 2 else 0 := by
    rw [mgmtGroupField]
    split
    · split <;> simp
    · exact Nat.zero_le _
  rw [rsnOptional, List.length_append, List.length_append, length_leBytes]
  cases pmkid with
  | none =>
    simp only [Option.isNone_none, if_true] at hmgmt
    simp only [pmkidField, Option.map_none, Option.getD_none, List.length_nil]
    omega
  | some p =>
    have hlength := p.length_bytes
    rw [pmkidLen] at hlength
    simp only [Option.isNone_some, Bool.false_eq_true, if_false] at hmgmt
    simp only [pmkidField, Option.map_some, Option.getD_some, List.length_append, length_leBytes]
    omega

end Write

/-- The parser reads from an element that was written what is configured. -/
theorem rsnIe_roundTrip (build : RsnBuild) (conf : WpaAuthConfig) (len : ℕ) (pmkid : Option Pmkid)
    (hgroup : wpaCipherValidGroup conf.wpaGroup)
    (hpairwise : conf.rsnPairwise &&& rsnPairwiseCiphers = conf.rsnPairwise)
    (hok : (wpaWriteRsnIe build conf len pmkid).ok = true) :
    wpaParseWpaIeRsn build (wpaWriteRsnIe build conf len pmkid).bytes = .ok {
      proto := wpaProtoRsn
      groupCipher := conf.wpaGroup
      pairwiseCipher := conf.rsnPairwise
      keyMgmt := conf.wpaKeyMgmt &&& tableMask (rsnAkmTable build)
      capabilities := rsnCapabilities conf
      numPmkid := pmkid.toList.length
      pmkid := pmkidList pmkid
      mgmtGroupCipher :=
        if conf.ieee80211w = .noMgmtFrameProtection then wpaCipherAes128Cmac else conf.groupMgmtCipher } := by
  obtain ⟨hsuites, hakms, suite, hsuite, hbytes⟩ := wpaWriteRsnIe_ok hok
  have hsplit : rsnFixed build conf ++ rsnOptional conf pmkid suite =
      leBytes 2 1 ++ ((rsnFixed build conf).drop 2 ++ rsnOptional conf pmkid suite) := by
    rw [rsnFixed, List.drop_left' (length_leBytes 2 1), List.append_assoc]
  have hfixed := length_rsnFixed_le build conf
  have hoptional := length_rsnOptional_le conf pmkid suite
  have hlength : (rsnFixed build conf ++ rsnOptional conf pmkid suite).length < 256 := by
    rw [List.length_append]
    omega
  have hheader := parseRsnHeader_version (hsplit ▸ hlength)
  rw [← hsplit] at hheader
  rw [hbytes, wpaParseWpaIeRsn, if_neg, hheader]
  · simp only [bind, Except.bind, parseRsnSuites_fixed hgroup hpairwise hsuites hakms, parseRsnTail_optional hsuite,
      pure, Except.pure]
  · rw [hsplit, List.length_cons, List.length_cons, List.length_append, length_leBytes]
    omega

/-- A network with CCMP, a key from 802.1X, protected management frames with `BIP-CMAC-256`, and a PMKID. -/
theorem rsnIe_roundTrip_cmac256 :
    wpaParseWpaIeRsn ⟨true, false⟩
        (wpaWriteRsnIe ⟨true, false⟩
          ⟨wpaProtoRsn, wpaKeyMgmtIeee8021x, 0, wpaCipherCcmp, wpaCipherCcmp, false, false, true, false,
            .mgmtFrameProtectionRequired, wpaCipherBipCmac256, #v[1, 2], false⟩ 128
          (some (Vector.replicate 16 7))).bytes =
      .ok ⟨wpaProtoRsn, wpaCipherCcmp, wpaCipherCcmp, wpaKeyMgmtIeee8021x, 0x00cc, 1, List.replicate 16 7,
        wpaCipherBipCmac256⟩ :=
  rsnIe_roundTrip ⟨true, false⟩ _ 128 _ (by decide) (by decide) (by decide)

end Ethanol
