import EthanolHostapd.Ap.WpaValidate
import EthanolHostapd.Common.InsertPmkid

/-!
# The element string of an authenticator

`wpa_auth_gen_wpa_ie` of `wpa_auth_ie.c` with the writers that it calls: the OSEN element, the RSN element, the mobility
domain element and the WPA element are put one behind the other into a buffer of 128 bytes.  Only two of the four writers
look at the room that is left.
-/

namespace Ethanol

open Wire

/-! ## The code -/

/-- The ciphers that `wpa_cipher_put_suites` puts. -/
def wpaPairwiseTable : List (ℕ × ℕ) :=
  [(wpaCipherCcmp, wpaSuite 4), (wpaCipherTkip, wpaSuite 2), (wpaCipherNone, wpaSuite 0)]

/-- `wpa_cipher_put_suites`. -/
def wpaCipherPutSuites (ciphers : ℕ) : List ℕ := putSuites wpaPairwiseTable ciphers

/-- The key management suites that `wpa_write_wpa_ie` puts. -/
def wpaAkmTable : List (ℕ × ℕ) := [(wpaKeyMgmtIeee8021x, wpaSuite 1), (wpaKeyMgmtPsk, wpaSuite 2)]

/-- Type, version and group cipher, and the two lists of suites. -/
def wpaFixed (conf : WpaAuthConfig) : List UInt8 :=
  beBytes 4 wpaOuiType ++ (leBytes 2 1 ++ (beBytes 4 (wpaCipherToSuite false conf.wpaGroup) ++
    (leBytes 2 (wpaCipherPutSuites conf.wpaPairwise).length ++ (suiteBytes (wpaCipherPutSuites conf.wpaPairwise) ++
      (leBytes 2 (putSuites wpaAkmTable conf.wpaKeyMgmt).length ++
        suiteBytes (putSuites wpaAkmTable conf.wpaKeyMgmt))))))

/-- `wpa_write_wpa_ie`. -/
def wpaWriteWpaIe (conf : WpaAuthConfig) : Written :=
  let failed (body : List UInt8) : Written := ⟨221 :: 0 :: body, false⟩ -- WLAN_EID_VENDOR_SPECIFIC
  let hdr := beBytes 4 wpaOuiType ++ leBytes 2 1
  if wpaCipherToSuite false conf.wpaGroup = 0 then failed hdr
  else if wpaCipherPutSuites conf.wpaPairwise = [] then
    failed (hdr ++ (beBytes 4 (wpaCipherToSuite false conf.wpaGroup) ++ leBytes 2 0))
  else if putSuites wpaAkmTable conf.wpaKeyMgmt = [] then failed (wpaFixed conf)
  else ⟨221 :: UInt8.ofNat (wpaFixed conf).length :: wpaFixed conf, true⟩

/-- The capabilities of the OSEN element. -/
def osenCapabilities (conf : WpaAuthConfig) : ℕ :=
  (if conf.wmmEnabled then 3 * 4 else 0) ||| -- RSN_NUM_REPLAY_COUNTERS_16 << 2
  (match conf.ieee80211w with
    | .noMgmtFrameProtection => 0
    | .mgmtFrameProtectionOptional => wpaCapabilityMfpc
    | .mgmtFrameProtectionRequired => wpaCapabilityMfpc ||| wpaCapabilityMfpr)

/-- What follows the length byte of the OSEN element. -/
def osenBody (conf : WpaAuthConfig) : List UInt8 :=
  beBytes 4 osenIeVendorType ++ (beBytes 4 (rsnSuite 7) ++ (leBytes 2 1 ++ (beBytes 4 (rsnSuite 4) ++
    (leBytes 2 1 ++ (beBytes 4 rsnAuthKeyMgmtOsen ++ leBytes 2 (osenCapabilities conf))))))

/-- `wpa_write_osen`. -/
def wpaWriteOsen (conf : WpaAuthConfig) : List UInt8 := 221 :: UInt8.ofNat (osenBody conf).length :: osenBody conf

/-- `wpa_write_mdie`. -/
def wpaWriteMdie (conf : WpaAuthConfig) (len : ℕ) : Written :=
  if len < 2 + 3 then ⟨[], false⟩
  else ⟨54 :: (2 + 1) :: (conf.mobilityDomain.toList ++ [if conf.ftOverDs then 1 else 0]), true⟩

/-- Nothing is written. -/
def Written.nothing : Written := ⟨[], true⟩

/-- The next writer goes on at the position that has been reached, unless there has been a failure. -/
def Written.andThen (w : Written) (next : ℕ → Written) : Written :=
  if w.ok then ⟨w.bytes ++ (next w.bytes.length).bytes, (next w.bytes.length).ok⟩ else w

/-- The OSEN element, if no other protocol is used. -/
def osenPart (conf : WpaAuthConfig) : Written :=
  if conf.wpa = wpaProtoOsen then ⟨wpaWriteOsen conf, true⟩ else Written.nothing

/-- The RSN element at a position in a buffer of 128 bytes. -/
def rsnPart (build : RsnBuild) (conf : WpaAuthConfig) (pos : ℕ) : Written :=
  if conf.wpa &&& wpaProtoRsn ≠ 0 then wpaWriteRsnIe build conf (128 - pos) none else Written.nothing

/-- The mobility domain element at a position in a buffer of 128 bytes. -/
def mdiePart (build : RsnBuild) (conf : WpaAuthConfig) (pos : ℕ) : Written :=
  if build.ieee80211r = true ∧ wpaKeyMgmtFt conf.wpaKeyMgmt then wpaWriteMdie conf (128 - pos) else Written.nothing

/-- The WPA element. -/
def wpaPart (conf : WpaAuthConfig) : Written :=
  if conf.wpa &&& wpaProtoWpa ≠ 0 then wpaWriteWpaIe conf else Written.nothing

/-- `wpa_auth_gen_wpa_ie`: what it writes into its buffer of 128 bytes, and whether it comes to the copy that is
`wpa_auth->wpa_ie`. -/
def wpaAuthGenWpaIe (build : RsnBuild) (conf : WpaAuthConfig) : Written :=
  (((osenPart conf).andThen (rsnPart build conf)).andThen (mdiePart build conf)).andThen fun _ => wpaPart conf

/-! ## The buffer -/

section Bounds

variable {w : Written} {next : ℕ → Written} {m n : ℕ}

lemma length_andThen_le (hw : w.bytes.length ≤ m) (hnext : ∀ pos, (next pos).bytes.length ≤ n) :
    (w.andThen next).bytes.length ≤ m + n := by
  have hmore := hnext w.bytes.length
  rw [Written.andThen]
  split
  · rw [List.length_append]
    omega
  · omega

lemma ok_andThen (h : (w.andThen next).ok = true) :
    w.ok = true ∧ (next w.bytes.length).ok = true ∧
      (w.andThen next).bytes = w.bytes ++ (next w.bytes.length).bytes := by
  unfold Written.andThen at h ⊢
  split at h
  · next hw =>
    rw [if_pos hw]
    exact ⟨hw, h, rfl⟩
  · next hw => exact absurd h hw

/-- A part that is written under a condition. -/
lemma length_ite_nothing_le {c : Prop} [Decidable c] (h : w.bytes.length ≤ n) :
    (if c then w else Written.nothing).bytes.length ≤ if c then n else 0 := by
  split
  · exact h
  · exact Nat.zero_le 0

variable (build : RsnBuild) (conf : WpaAuthConfig)

lemma length_wpaFixed_le : (wpaFixed conf).length ≤ 34 := by
  have hpairwise := length_putSuites_le wpaPairwiseTable conf.wpaPairwise
  have hakm := length_putSuites_le wpaAkmTable conf.wpaKeyMgmt
  have hthree : wpaPairwiseTable.length = 3 := rfl
  have htwo : wpaAkmTable.length = 2 := rfl
  simp only [wpaFixed, wpaCipherPutSuites, List.length_append, length_leBytes, length_beBytes, length_suiteBytes]
  omega

lemma length_wpaWriteWpaIe_le : (wpaWriteWpaIe conf).bytes.length ≤ 36 := by
  have hfixed := length_wpaFixed_le conf
  unfold wpaWriteWpaIe
  split
  · simp
  · split
    · simp
    · split <;> exact Nat.add_le_add_right hfixed 2

lemma length_osenBody : (osenBody conf).length = 22 := by
  simp [osenBody]

lemma length_wpaWriteMdie_le (len : ℕ) : (wpaWriteMdie conf len).bytes.length ≤ 5 := by
  unfold wpaWriteMdie
  split <;> simp

/-- The RSN element without a PMKID, also if there is a failure. -/
lemma length_wpaWriteRsnIe_le (len : ℕ) : (wpaWriteRsnIe build conf len none).bytes.length ≤ 84 := by
  have hfixed := length_rsnFixed_le build conf
  have hcons (id len : UInt8) (body : List UInt8) : (id :: len :: body).length = body.length + 2 := rfl
  have happend {fixed rest : List UInt8} {n : ℕ} (hfixed : fixed.length ≤ 74) (hrest : rest.length ≤ n) :
      (fixed ++ rest).length ≤ 74 + n := by
    rw [List.length_append]
    omega
  unfold wpaWriteRsnIe
  simp only [Option.isSome_none, Bool.false_eq_true, false_and, if_false, Option.isNone_none, if_true, pmkidField,
    Option.map_none, Option.getD_none, List.append_nil, List.append_assoc]
  split_ifs with hgroup hpairwise hakm hother hroom
  · simp
  · simp
  · rw [hcons]
    omega
  · rw [hcons]
    have hlength := happend hfixed (length_leBytes 2 (rsnCapabilities conf)).le
    omega
  · cases mgmtGroupSuite conf.groupMgmtCipher with
    | none =>
      have hrest : (leBytes 2 (rsnCapabilities conf) ++ leBytes 2 0).length ≤ 4 := by simp
      have hlength := happend hfixed hrest
      rw [hcons]
      omega
    | some suite =>
      have hrest : (leBytes 2 (rsnCapabilities conf) ++ (leBytes 2 0 ++ beBytes 4 suite)).length ≤ 8 := by simp
      have hlength := happend hfixed hrest
      rw [hcons]
      omega
  · rw [hcons]
    have hlength := happend hfixed (length_leBytes 2 (rsnCapabilities conf)).le
    omega

/-- The buffer is large enough: with the OSEN element there is neither an RSN element nor a WPA element. -/
lemma length_wpaAuthGenWpaIe_le : (wpaAuthGenWpaIe build conf).bytes.length ≤ 128 := by
  have hosen : (osenPart conf).bytes.length ≤ if conf.wpa = wpaProtoOsen then 24 else 0 :=
    length_ite_nothing_le (by simp [wpaWriteOsen, length_osenBody])
  have hrsn (pos : ℕ) : (rsnPart build conf pos).bytes.length ≤ if conf.wpa &&& wpaProtoRsn ≠ 0 then 84 else 0 :=
    length_ite_nothing_le (length_wpaWriteRsnIe_le build conf (128 - pos))
  have hmdie (pos : ℕ) : (mdiePart build conf pos).bytes.length ≤ 5 :=
    (length_ite_nothing_le (length_wpaWriteMdie_le conf (128 - pos))).trans (by split <;> simp)
  have hwpa : (wpaPart conf).bytes.length ≤ if conf.wpa &&& wpaProtoWpa ≠ 0 then 36 else 0 :=
    length_ite_nothing_le (length_wpaWriteWpaIe_le conf)
  have hsum := length_andThen_le (length_andThen_le (length_andThen_le hosen hrsn) hmdie) fun _ => hwpa
  refine hsum.trans ?_
  by_cases h : conf.wpa = wpaProtoOsen
  · rw [h]
    decide
  · rw [if_neg h]
    split <;> split <;> simp

end Bounds

/-! ## The elements -/

/-- An RSN element with suites and something behind them. -/
def OwnRsn (e : Element) : Prop :=
  e.id = wlanEidRsn ∧ ∃ (suites : RsnSuites) (tail : List UInt8), e.body = suites.bytes ++ tail ∧ tail ≠ []

/-- The elements of a network, where each may be missing. -/
structure OwnElements where
  osen : Option Element
  rsn : Option Element
  mdie : Option Element
  wpa : Option Element

/-- The elements in the order in which they are written. -/
def OwnElements.toList (own : OwnElements) : List Element :=
  own.osen.toList ++ (own.rsn.toList ++ (own.mdie.toList ++ own.wpa.toList))

/-- What is known of the elements that are written for a configuration. -/
structure OwnElements.WrittenFor (conf : WpaAuthConfig) (own : OwnElements) : Prop where
  osen_id : ∀ e ∈ own.osen, e.id = 221
  rsn_own : ∀ e ∈ own.rsn, OwnRsn e
  mdie_id : ∀ e ∈ own.mdie, e.id = 54
  wpa_id : ∀ e ∈ own.wpa, e.id = 221
  osen_or : own.osen = none ∨ own.rsn = none
  rsn_isSome : conf.wpa &&& wpaProtoRsn ≠ 0 → own.rsn.isSome
  wpa_isSome : conf.wpa &&& wpaProtoWpa ≠ 0 → own.wpa.isSome

section Elements

variable {build : RsnBuild} {conf : WpaAuthConfig}

lemma wpaCipherToSuite_lt (rsn : Bool) (cipher : ℕ) : wpaCipherToSuite rsn cipher < 2 ^ 32 := by
  have htable : ∀ t ∈ cipherToSuiteTable rsn, t.2 < 2 ^ 32 := by
    cases rsn <;> decide
  rw [wpaCipherToSuite]
  cases hfind : (cipherToSuiteTable rsn).find? fun t => cipher &&& t.1 ≠ 0 with
  | none => exact Nat.two_pow_pos 32
  | some t => exact htable t (List.mem_of_find?_eq_some hfind)

/-- Suites that fit are those of their 32-bit numbers. -/
lemma map_toNat_ofNat {suites : List ℕ} (h : ∀ s ∈ suites, s < 2 ^ 32) :
    (suites.map UInt32.ofNat).map UInt32.toNat = suites := by
  rw [List.map_map]
  exact (List.map_congr_left fun s hs => UInt32.toNat_ofNat_of_lt' (h s hs)).trans (List.map_id suites)

/-- The suites of an authenticator. -/
def ownSuites (build : RsnBuild) (conf : WpaAuthConfig) : RsnSuites where
  group := UInt32.ofNat (wpaCipherToSuite true conf.wpaGroup)
  pairwise := (rsnCipherPutSuites conf.rsnPairwise).map UInt32.ofNat
  akm := (putSuites (rsnAkmTable build) conf.wpaKeyMgmt).map UInt32.ofNat

lemma ownSuites_bytes (build : RsnBuild) (conf : WpaAuthConfig) : (ownSuites build conf).bytes = rsnFixed build conf := by
  have hgroup : (UInt32.ofNat (wpaCipherToSuite true conf.wpaGroup)).toNat = wpaCipherToSuite true conf.wpaGroup :=
    UInt32.toNat_ofNat_of_lt' (wpaCipherToSuite_lt true conf.wpaGroup)
  have hpairwise := map_toNat_ofNat (putSuites_lt names_rsnPairwiseTable conf.rsnPairwise)
  have hakm := map_toNat_ofNat (putSuites_lt (names_rsnAkmTable build) conf.wpaKeyMgmt)
  rw [RsnSuites.bytes, ownSuites, rsnFixed]
  simp only [hgroup, rsnCipherPutSuites, hpairwise, hakm, List.length_map]

/-- The RSN element that is written. -/
lemma wpaWriteRsnIe_element {len : ℕ} (h : (wpaWriteRsnIe build conf len none).ok = true) :
    ∃ e : Element, (wpaWriteRsnIe build conf len none).bytes = e.bytes ∧ OwnRsn e := by
  obtain ⟨-, -, suite, -, hbytes⟩ := wpaWriteRsnIe_ok h
  have hlength : (rsnFixed build conf ++ rsnOptional conf none suite).length < 256 := by
    have hfixed := length_rsnFixed_le build conf
    have hoptional := length_rsnOptional_le conf none suite
    rw [List.length_append]
    omega
  have htail : rsnOptional conf none suite ≠ [] := by
    apply List.ne_nil_of_length_pos
    rw [rsnOptional, List.length_append, length_leBytes]
    omega
  exact ⟨⟨wlanEidRsn, _, hlength⟩, hbytes, rfl, ownSuites build conf, _, by rw [ownSuites_bytes], htail⟩

lemma wpaWriteMdie_element {len : ℕ} (h : (wpaWriteMdie conf len).ok = true) :
    ∃ e : Element, (wpaWriteMdie conf len).bytes = e.bytes ∧ e.id = 54 := by
  unfold wpaWriteMdie at h ⊢
  split at h
  · cases h
  · next hroom =>
    have hbody : (conf.mobilityDomain.toList ++ [if conf.ftOverDs then 1 else 0]).length = 3 := by simp
    refine ⟨⟨54, conf.mobilityDomain.toList ++ [if conf.ftOverDs then 1 else 0], by omega⟩, ?_, rfl⟩
    have hlen : (2 + 1 : UInt8) = UInt8.ofNat (conf.mobilityDomain.toList ++ [if conf.ftOverDs then 1 else 0]).length := by
      rw [hbody]
      rfl
    rw [if_neg hroom, hlen]
    rfl

lemma wpaWriteWpaIe_element (h : (wpaWriteWpaIe conf).ok = true) :
    ∃ e : Element, (wpaWriteWpaIe conf).bytes = e.bytes ∧ e.id = 221 := by
  have hfixed := length_wpaFixed_le conf
  unfold wpaWriteWpaIe at h ⊢
  dsimp only at h ⊢
  split_ifs at h ⊢ with hgroup hpairwise hakm
  exact ⟨⟨221, wpaFixed conf, by omega⟩, rfl, rfl⟩

/-- The element of a part that is written under a condition. -/
lemma element_of_ite {c : Prop} [Decidable c] {w : Written} {P : Element → Prop}
    (hok : (if c then w else Written.nothing).ok = true) (h : w.ok = true → ∃ e, w.bytes = e.bytes ∧ P e) :
    ∃ o : Option Element, (if c then w else Written.nothing).bytes = elementBytes o.toList ∧ (∀ e ∈ o, P e) ∧
      (c ↔ o.isSome) := by
  split at hok
  · next hc =>
    obtain ⟨e, hbytes, he⟩ := h hok
    refine ⟨some e, ?_, fun f hf => ?_, iff_of_true hc rfl⟩
    · rw [if_pos hc, hbytes]
      simp
    · obtain rfl := Option.some.inj hf
      exact he
  · next hc =>
    refine ⟨none, ?_, fun e he => ?_, iff_of_false hc Bool.false_ne_true⟩
    · rw [if_neg hc]
      rfl
    · cases he

/-- What has been written is the string of these elements. -/
lemma wpaAuthGenWpaIe_ok (h : (wpaAuthGenWpaIe build conf).ok = true) :
    ∃ own : OwnElements, own.WrittenFor conf ∧ (wpaAuthGenWpaIe build conf).bytes = elementBytes own.toList := by
  obtain ⟨h, hwpaOk, hbytes⟩ := ok_andThen h
  obtain ⟨h, hmdieOk, hbytes'⟩ := ok_andThen h
  obtain ⟨hosenOk, hrsnOk, hbytes''⟩ := ok_andThen h
  have hosenBytes : wpaWriteOsen conf = Element.bytes ⟨221, osenBody conf, by rw [length_osenBody]; decide⟩ := rfl
  obtain ⟨osen, hosen, hosenId, hosenIff⟩ := element_of_ite (P := fun e => e.id = 221) hosenOk
    fun _ => ⟨_, hosenBytes, rfl⟩
  obtain ⟨rsn, hrsn, hrsnOwn, hrsnIff⟩ := element_of_ite hrsnOk wpaWriteRsnIe_element
  obtain ⟨mdie, hmdie, hmdieId, -⟩ := element_of_ite hmdieOk wpaWriteMdie_element
  obtain ⟨wpa, hwpa, hwpaId, hwpaIff⟩ := element_of_ite hwpaOk wpaWriteWpaIe_element
  refine ⟨⟨osen, rsn, mdie, wpa⟩, ⟨hosenId, hrsnOwn, hmdieId, hwpaId, ?_, hrsnIff.mp, hwpaIff.mp⟩, ?_⟩
  · cases rsn with
    | none => exact Or.inr rfl
    | some e =>
      refine Or.inl (Option.not_isSome_iff_eq_none.mp fun hsome => ?_)
      have heq := hosenIff.mpr hsome
      have hmask := hrsnIff.mpr rfl
      rw [heq] at hmask
      exact absurd hmask (by decide)
  · have hosen' : (osenPart conf).bytes = elementBytes osen.toList := hosen
    have hrsn' : (rsnPart build conf (osenPart conf).bytes.length).bytes = elementBytes rsn.toList := hrsn
    have hmdie' : (mdiePart build conf ((osenPart conf).andThen (rsnPart build conf)).bytes.length).bytes =
        elementBytes mdie.toList := hmdie
    have hwpa' : (wpaPart conf).bytes = elementBytes wpa.toList := hwpa
    rw [wpaAuthGenWpaIe, hbytes, hwpa', hbytes', hmdie', hbytes'', hrsn', hosen', OwnElements.toList]
    simp only [elementBytes_append, List.append_assoc]

end Elements

end Ethanol
