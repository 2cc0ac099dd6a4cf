import Mathlib.Data.Nat.Bitwise
import EthanolHostapd.Wire.BigEndian
import EthanolHostapd.Wire.Elements

/-!
# RSN and WPA elements

The parsers of `wpa_common.c` and what they have in common with the writers: the numbers of ciphers and of key
management methods, and the selectors that stand for them in an element.

A set of ciphers is a number with one bit for each of them.  The build has `CONFIG_IEEE80211W`; whether it has
`CONFIG_IEEE80211R` and `CONFIG_SAE` is a parameter.
-/

namespace Ethanol

open Wire

/-! ## Numbers -/

/-- `WPA_CIPHER_NONE`. -/
def wpaCipherNone : ℕ := 0x0001

/-- `WPA_CIPHER_TKIP`. -/
def wpaCipherTkip : ℕ := 0x0008

/-- `WPA_CIPHER_CCMP`. -/
def wpaCipherCcmp : ℕ := 0x0010

/-- `WPA_CIPHER_AES_128_CMAC`. -/
def wpaCipherAes128Cmac : ℕ := 0x0020

/-- `WPA_CIPHER_GCMP`. -/
def wpaCipherGcmp : ℕ := 0x0040

/-- `WPA_CIPHER_GCMP_256`. -/
def wpaCipherGcmp256 : ℕ := 0x0100

/-- `WPA_CIPHER_CCMP_256`. -/
def wpaCipherCcmp256 : ℕ := 0x0200

/-- `WPA_CIPHER_BIP_GMAC_128`. -/
def wpaCipherBipGmac128 : ℕ := 0x0800

/-- `WPA_CIPHER_BIP_GMAC_256`. -/
def wpaCipherBipGmac256 : ℕ := 0x1000

/-- `WPA_CIPHER_BIP_CMAC_256`. -/
def wpaCipherBipCmac256 : ℕ := 0x2000

/-- `WPA_CIPHER_GTK_NOT_USED`. -/
def wpaCipherGtkNotUsed : ℕ := 0x4000

/-- `WPA_KEY_MGMT_IEEE8021X`. -/
def wpaKeyMgmtIeee8021x : ℕ := 0x00001

/-- `WPA_KEY_MGMT_PSK`. -/
def wpaKeyMgmtPsk : ℕ := 0x00002

/-- `WPA_KEY_MGMT_WPA_NONE`. -/
def wpaKeyMgmtWpaNone : ℕ := 0x00010

/-- `WPA_KEY_MGMT_FT_IEEE8021X`. -/
def wpaKeyMgmtFtIeee8021x : ℕ := 0x00020

/-- `WPA_KEY_MGMT_FT_PSK`. -/
def wpaKeyMgmtFtPsk : ℕ := 0x00040

/-- `WPA_KEY_MGMT_IEEE8021X_SHA256`. -/
def wpaKeyMgmtIeee8021xSha256 : ℕ := 0x00080

/-- `WPA_KEY_MGMT_PSK_SHA256`. -/
def wpaKeyMgmtPskSha256 : ℕ := 0x00100

/-- `WPA_KEY_MGMT_SAE`. -/
def wpaKeyMgmtSae : ℕ := 0x00400

/-- `WPA_KEY_MGMT_FT_SAE`. -/
def wpaKeyMgmtFtSae : ℕ := 0x00800

/-- `WPA_KEY_MGMT_OSEN`. -/
def wpaKeyMgmtOsen : ℕ := 0x08000

/-- `WPA_KEY_MGMT_IEEE8021X_SUITE_B`. -/
def wpaKeyMgmtIeee8021xSuiteB : ℕ := 0x10000

/-- `WPA_KEY_MGMT_IEEE8021X_SUITE_B_192`. -/
def wpaKeyMgmtIeee8021xSuiteB192 : ℕ := 0x20000

/-- `WPA_PROTO_WPA`. -/
def wpaProtoWpa : ℕ := 1

/-- `WPA_PROTO_RSN`. -/
def wpaProtoRsn : ℕ := 2

/-- `WPA_PROTO_OSEN`. -/
def wpaProtoOsen : ℕ := 8

/-- `WPA_CAPABILITY_MFPR`. -/
def wpaCapabilityMfpr : ℕ := 0x0040

/-- `WPA_CAPABILITY_MFPC`. -/
def wpaCapabilityMfpc : ℕ := 0x0080

/-- `RSN_SELECTOR`. -/
def rsnSelector (a b c d : ℕ) : ℕ := ((a * 256 + b) * 256 + c) * 256 + d

/-- The selectors `00-0F-AC:n`, from `RSN_CIPHER_SUITE_NONE` and `RSN_AUTH_KEY_MGMT_UNSPEC_802_1X` on. -/
def rsnSuite (n : ℕ) : ℕ := rsnSelector 0x00 0x0f 0xac n

/-- The selectors `00-50-F2:n`, from `WPA_CIPHER_SUITE_NONE` and `WPA_AUTH_KEY_MGMT_UNSPEC_802_1X` on. -/
def wpaSuite (n : ℕ) : ℕ := rsnSelector 0x00 0x50 0xf2 n

/-- `RSN_AUTH_KEY_MGMT_OSEN`. -/
def rsnAuthKeyMgmtOsen : ℕ := rsnSelector 0x50 0x6f 0x9a 0x01

/-- `OSEN_IE_VENDOR_TYPE`. -/
def osenIeVendorType : ℕ := 0x506f9a12

/-- `WPA_OUI_TYPE`. -/
def wpaOuiType : ℕ := wpaSuite 1

/-- `WLAN_EID_RSN`. -/
def wlanEidRsn : UInt8 := 48

/-- `PMKID_LEN`. -/
def pmkidLen : ℕ := 16

/-- `u8 pmkid[PMKID_LEN]`. -/
abbrev Pmkid : Type := Vector UInt8 16

/-- The bytes of a PMKID. -/
def Pmkid.bytes (pmkid : Pmkid) : List UInt8 := pmkid.toList

lemma Pmkid.length_bytes (pmkid : Pmkid) : pmkid.bytes.length = pmkidLen := Vector.length_toList

/-- The compile options. -/
structure RsnBuild where
  ieee80211r : Bool
  sae : Bool

/-! ## Selectors -/

/-- The ciphers that an RSN selector can name, with their selectors, in the order of `rsn_selector_to_bitfield`. -/
def rsnCipherTable : List (ℕ × ℕ) :=
  [(wpaCipherNone, rsnSuite 0), (wpaCipherTkip, rsnSuite 2), (wpaCipherCcmp, rsnSuite 4),
    (wpaCipherAes128Cmac, rsnSuite 6), (wpaCipherGcmp, rsnSuite 8), (wpaCipherCcmp256, rsnSuite 10),
    (wpaCipherGcmp256, rsnSuite 9), (wpaCipherBipGmac128, rsnSuite 11), (wpaCipherBipGmac256, rsnSuite 12),
    (wpaCipherBipCmac256, rsnSuite 13), (wpaCipherGtkNotUsed, rsnSuite 7)]

/-- The key management methods that an RSN selector can name, in the order of `rsn_key_mgmt_to_bitfield`. -/
def rsnKeyMgmtTable (build : RsnBuild) : List (ℕ × ℕ) :=
  [(wpaKeyMgmtIeee8021x, rsnSuite 1), (wpaKeyMgmtPsk, rsnSuite 2)] ++
    (if build.ieee80211r then [(wpaKeyMgmtFtIeee8021x, rsnSuite 3), (wpaKeyMgmtFtPsk, rsnSuite 4)] else []) ++
    [(wpaKeyMgmtIeee8021xSha256, rsnSuite 5), (wpaKeyMgmtPskSha256, rsnSuite 6)] ++
    (if build.sae then [(wpaKeyMgmtSae, rsnSuite 8), (wpaKeyMgmtFtSae, rsnSuite 9)] else []) ++
    [(wpaKeyMgmtIeee8021xSuiteB, rsnSuite 11), (wpaKeyMgmtIeee8021xSuiteB192, rsnSuite 12),
      (wpaKeyMgmtOsen, rsnAuthKeyMgmtOsen)]

/-- The ciphers of a WPA selector, in the order of `wpa_selector_to_bitfield`. -/
def wpaCipherTable : List (ℕ × ℕ) :=
  [(wpaCipherNone, wpaSuite 0), (wpaCipherTkip, wpaSuite 2), (wpaCipherCcmp, wpaSuite 4)]

/-- The key management methods of a WPA selector, in the order of `wpa_key_mgmt_to_bitfield`. -/
def wpaKeyMgmtTable : List (ℕ × ℕ) :=
  [(wpaKeyMgmtIeee8021x, wpaSuite 1), (wpaKeyMgmtPsk, wpaSuite 2), (wpaKeyMgmtWpaNone, wpaSuite 0)]

/-- A chain of comparisons with selectors: the bit of the first one that is equal, or no bit. -/
def selectorToBitfield (table : List (ℕ × ℕ)) (selector : ℕ) : ℕ :=
  ((table.find? fun t => t.2 = selector).map Prod.fst).getD 0

/-- `rsn_selector_to_bitfield`. -/
def rsnSelectorToBitfield (selector : ℕ) : ℕ := selectorToBitfield rsnCipherTable selector

/-- `rsn_key_mgmt_to_bitfield`. -/
def rsnKeyMgmtToBitfield (build : RsnBuild) (selector : ℕ) : ℕ := selectorToBitfield (rsnKeyMgmtTable build) selector

/-- `wpa_selector_to_bitfield`. -/
def wpaSelectorToBitfield (selector : ℕ) : ℕ := selectorToBitfield wpaCipherTable selector

/-- `wpa_key_mgmt_to_bitfield`. -/
def wpaKeyMgmtToBitfield (selector : ℕ) : ℕ := selectorToBitfield wpaKeyMgmtTable selector

/-- `wpa_cipher_valid_pairwise`. -/
def wpaCipherValidPairwise (cipher : ℕ) : Prop :=
  cipher = wpaCipherCcmp256 ∨ cipher = wpaCipherGcmp256 ∨ cipher = wpaCipherCcmp ∨ cipher = wpaCipherGcmp ∨
    cipher = wpaCipherTkip

instance (cipher : ℕ) : Decidable (wpaCipherValidPairwise cipher) :=
  inferInstanceAs (Decidable (_ ∨ _))

/-- `wpa_cipher_valid_group`. -/
def wpaCipherValidGroup (cipher : ℕ) : Prop := wpaCipherValidPairwise cipher ∨ cipher = wpaCipherGtkNotUsed

instance (cipher : ℕ) : Decidable (wpaCipherValidGroup cipher) := inferInstanceAs (Decidable (_ ∨ _))

/-- `wpa_cipher_valid_mgmt_group`. -/
def wpaCipherValidMgmtGroup (cipher : ℕ) : Prop :=
  cipher = wpaCipherAes128Cmac ∨ cipher = wpaCipherBipGmac128 ∨ cipher = wpaCipherBipGmac256 ∨
    cipher = wpaCipherBipCmac256

instance (cipher : ℕ) : Decidable (wpaCipherValidMgmtGroup cipher) := inferInstanceAs (Decidable (_ ∨ _))

/-! ## The parsers -/

/-- `struct wpa_ie_data`; `pmkid` holds the `num_pmkid` identifiers at the pointer. -/
structure WpaIeData where
  proto : ℕ
  pairwiseCipher : ℕ
  groupCipher : ℕ
  keyMgmt : ℕ
  capabilities : ℕ
  numPmkid : ℕ
  pmkid : List UInt8
  mgmtGroupCipher : ℕ
  deriving DecidableEq

/-- The loop over a list of suites: the bits so far and the position behind the list. -/
def readSuites (toBitfield : ℕ → ℕ) : ℕ → ℕ → List UInt8 → ℕ × List UInt8
  | 0, bits, pos => (bits, pos)
  | count + 1, bits, pos => readSuites toBitfield count (bits ||| toBitfield (beNat (pos.take 4))) (pos.drop 4)

/-- A count with a list of suites.  Without it the default stands, `short` is the error for one byte and `botch` the one
for a count of zero or beyond the end. -/
def parseSuiteList (toBitfield : ℕ → ℕ) (default : ℕ) (botch short : ℤ) (pos : List UInt8) :
    Except ℤ (ℕ × List UInt8) :=
  if 2 ≤ pos.length then
    let count := leNat (pos.take 2)
    let pos := pos.drop 2
    if count = 0 ∨ pos.length / 4 < count then .error botch else .ok (readSuites toBitfield count 0 pos)
  else if pos.length = 1 then .error short
  else .ok (default, pos)

/-- The capabilities, if there are any. -/
def parseCapabilities (pos : List UInt8) : ℕ × List UInt8 :=
  if 2 ≤ pos.length then (leNat (pos.take 2), pos.drop 2) else (0, pos)

/-- The number of PMKIDs and the PMKIDs, if there are any. -/
def parsePmkids (pos : List UInt8) : Except ℤ (ℕ × List UInt8 × List UInt8) :=
  if 2 ≤ pos.length then
    let numPmkid := leNat (pos.take 2)
    let pos := pos.drop 2
    if pos.length / pmkidLen < numPmkid then .error (-9)
    else .ok (numPmkid, pos.take (numPmkid * pmkidLen), pos.drop (numPmkid * pmkidLen))
  else .ok (0, [], pos)

/-- The management group cipher, if there is one. -/
def parseMgmtGroupCipher (pos : List UInt8) : Except ℤ ℕ :=
  if 4 ≤ pos.length then
    let cipher := rsnSelectorToBitfield (beNat (pos.take 4))
    if wpaCipherValidMgmtGroup cipher then .ok cipher else .error (-10)
  else .ok wpaCipherAes128Cmac

/-- What follows the key management suites of an RSN element. -/
structure RsnTail where
  capabilities : ℕ
  numPmkid : ℕ
  pmkid : List UInt8
  mgmtGroupCipher : ℕ

/-- The last three blocks of `wpa_parse_wpa_ie_rsn`. -/
def parseRsnTail (pos : List UInt8) : Except ℤ RsnTail := do
  let (capabilities, pos) := parseCapabilities pos
  let (numPmkid, pmkid, pos) ← parsePmkids pos
  let mgmtGroupCipher ← parseMgmtGroupCipher pos
  pure { capabilities, numPmkid, pmkid, mgmtGroupCipher }

/-- The group cipher of an RSN element, if there is one. -/
def parseRsnGroup (pos : List UInt8) : Except ℤ (ℕ × List UInt8) :=
  if 4 ≤ pos.length then
    let cipher := rsnSelectorToBitfield (beNat (pos.take 4))
    if wpaCipherValidGroup cipher then .ok (cipher, pos.drop 4) else .error (-1)
  else if 0 < pos.length then .error (-3)
  else .ok (wpaCipherCcmp, pos)

/-- The header of an RSN or OSEN element: the protocol and the position behind it. -/
def parseRsnHeader (rsnIe : List UInt8) : Except ℤ (ℕ × List UInt8) :=
  let len := (rsnIe.getD 1 0).toNat
  if 6 ≤ rsnIe.length ∧ 4 ≤ len ∧ len = rsnIe.length - 2 ∧ beNat ((rsnIe.drop 2).take 4) = osenIeVendorType then
    .ok (wpaProtoOsen, rsnIe.drop 6)
  else if rsnIe.getD 0 0 ≠ wlanEidRsn ∨ len ≠ rsnIe.length - 2 ∨ leNat ((rsnIe.drop 2).take 2) ≠ 1 then .error (-2)
  else .ok (wpaProtoRsn, rsnIe.drop 4)

/-- What stands between the header of an RSN element and the capabilities. -/
def parseRsnSuites (build : RsnBuild) (pos : List UInt8) : Except ℤ (ℕ × ℕ × ℕ × List UInt8) := do
  let (groupCipher, pos) ← parseRsnGroup pos
  let (pairwiseCipher, pos) ← parseSuiteList rsnSelectorToBitfield wpaCipherCcmp (-4) (-5) pos
  if pairwiseCipher &&& wpaCipherAes128Cmac ≠ 0 then .error (-1)
  else do
    let (keyMgmt, pos) ← parseSuiteList (rsnKeyMgmtToBitfield build) wpaKeyMgmtIeee8021x (-6) (-7) pos
    pure (groupCipher, pairwiseCipher, keyMgmt, pos)

/-- `wpa_parse_wpa_ie_rsn`. -/
def wpaParseWpaIeRsn (build : RsnBuild) (rsnIe : List UInt8) : Except ℤ WpaIeData :=
  if rsnIe.length < 4 then .error (-1)
  else do
    let (proto, pos) ← parseRsnHeader rsnIe
    let (groupCipher, pairwiseCipher, keyMgmt, pos) ← parseRsnSuites build pos
    let tail ← parseRsnTail pos
    pure {
      proto, groupCipher, pairwiseCipher, keyMgmt, capabilities := tail.capabilities, numPmkid := tail.numPmkid,
      pmkid := tail.pmkid, mgmtGroupCipher := tail.mgmtGroupCipher }

/-- The group cipher of a WPA element, if there is one. -/
def parseWpaGroup (pos : List UInt8) : Except ℤ (ℕ × List UInt8) :=
  if 4 ≤ pos.length then .ok (wpaSelectorToBitfield (beNat (pos.take 4)), pos.drop 4)
  else if 0 < pos.length then .error (-3)
  else .ok (wpaCipherTkip, pos)

/-- `wpa_parse_wpa_ie_wpa`. -/
def wpaParseWpaIeWpa (wpaIe : List UInt8) : Except ℤ WpaIeData :=
  if wpaIe.length < 8 then .error (-1)
  else if wpaIe.getD 0 0 ≠ 221 ∨ (wpaIe.getD 1 0).toNat ≠ wpaIe.length - 2 ∨
      beNat ((wpaIe.drop 2).take 4) ≠ wpaOuiType ∨ leNat ((wpaIe.drop 6).take 2) ≠ 1 then .error (-2)
  else do
    let (groupCipher, pos) ← parseWpaGroup (wpaIe.drop 8)
    let (pairwiseCipher, pos) ← parseSuiteList wpaSelectorToBitfield wpaCipherTkip (-4) (-5) pos
    let (keyMgmt, pos) ← parseSuiteList wpaKeyMgmtToBitfield wpaKeyMgmtIeee8021x (-6) (-7) pos
    let (capabilities, _) := parseCapabilities pos
    pure {
      proto := wpaProtoWpa, groupCipher, pairwiseCipher, keyMgmt, capabilities, numPmkid := 0, pmkid := [],
      mgmtGroupCipher := 0 }

/-! ## Lists of suites -/

/-- The selectors of a list of suites as they are written. -/
def suiteBytes (suites : List ℕ) : List UInt8 := suites.flatMap (beBytes 4)

/-- The selectors of the table whose bits are set. -/
def putSuites (table : List (ℕ × ℕ)) (flags : ℕ) : List ℕ := (table.filter fun t => flags &&& t.1 ≠ 0).map Prod.snd

/-- All bits of a table. -/
def tableMask (table : List (ℕ × ℕ)) : ℕ := table.foldr (fun t mask => t.1 ||| mask) 0

/-- The entries of a table are single bits, their selectors have four bytes and stand for them. -/
def NamesSuites (table : List (ℕ × ℕ)) (toBitfield : ℕ → ℕ) : Prop :=
  ∀ t ∈ table, (∃ k, t.1 = 2 ^ k) ∧ t.2 < 2 ^ 32 ∧ toBitfield t.2 = t.1

@[simp] lemma length_suiteBytes (suites : List ℕ) : (suiteBytes suites).length = 4 * suites.length := by
  rw [suiteBytes, List.length_flatMap]
  simp [Nat.mul_comm]

lemma beNat_selector {s : ℕ} (h : s < 2 ^ 32) : beNat (beBytes 4 s) = s := by
  rw [beNat_beBytes]
  exact Nat.mod_eq_of_lt h

lemma leNat_count {n : ℕ} (h : n < 2 ^ 16) : leNat (leBytes 2 n) = n := by
  rw [leNat_leBytes]
  exact Nat.mod_eq_of_lt h

/-- One bit of a number is there or not. -/
lemma and_bit (flags k : ℕ) : flags &&& 2 ^ k = if flags &&& 2 ^ k ≠ 0 then 2 ^ k else 0 := by
  rw [Nat.and_two_pow]
  cases flags.testBit k <;> simp

section Suites

variable {table : List (ℕ × ℕ)} {toBitfield : ℕ → ℕ} {suites : List ℕ} {rest : List UInt8}

/-- The loop reads the selectors that were written. -/
lemma readSuites_suiteBytes (h : ∀ s ∈ suites, s < 2 ^ 32) (bits : ℕ) (rest : List UInt8) :
    readSuites toBitfield suites.length bits (suiteBytes suites ++ rest) =
      (suites.foldl (fun bits s => bits ||| toBitfield s) bits, rest) := by
  induction suites generalizing bits with
  | nil => rfl
  | cons s suites ih =>
    obtain ⟨hs, hsuites⟩ := List.forall_mem_cons.mp h
    have hbytes : suiteBytes (s :: suites) ++ rest = beBytes 4 s ++ (suiteBytes suites ++ rest) := by
      rw [suiteBytes, List.flatMap_cons, List.append_assoc]
      rfl
    rw [hbytes, List.length_cons, readSuites, List.take_left' (length_beBytes 4 s), List.drop_left' (length_beBytes 4 s),
      beNat_selector hs, ih hsuites, List.foldl_cons]

/-- The bits of the selectors that are put for some flags are the flags that are in the table. -/
lemma foldl_putSuites (h : NamesSuites table toBitfield) (flags bits : ℕ) :
    (putSuites table flags).foldl (fun bits s => bits ||| toBitfield s) bits = bits ||| (flags &&& tableMask table) := by
  induction table generalizing bits with
  | nil => simp [putSuites, tableMask]
  | cons t table ih =>
    obtain ⟨⟨⟨k, hk⟩, -, hname⟩, htable⟩ := List.forall_mem_cons.mp h
    have hmask : tableMask (t :: table) = t.1 ||| tableMask table := rfl
    have hbit := and_bit flags k
    rw [hmask, Nat.and_or_distrib_left, hk]
    have hput : putSuites (t :: table) flags =
        if flags &&& 2 ^ k ≠ 0 then t.2 :: putSuites table flags else putSuites table flags := by
      rw [putSuites, List.filter_cons, hk]
      by_cases hset : flags &&& 2 ^ k = 0
      · simp [hset, putSuites]
      · simp [hset, putSuites]
    rw [hput]
    by_cases hset : flags &&& 2 ^ k = 0
    · rw [if_neg (not_not.mpr hset), hset, Nat.zero_or]
      exact ih htable bits
    · rw [if_pos hset] at hbit ⊢
      rw [List.foldl_cons, hname, hk, ih htable, hbit, Nat.or_assoc]

lemma putSuites_lt (h : NamesSuites table toBitfield) (flags : ℕ) : ∀ s ∈ putSuites table flags, s < 2 ^ 32 := by
  intro s hs
  obtain ⟨t, ht, rfl⟩ := List.mem_map.mp hs
  exact (h t (List.mem_of_mem_filter ht)).2.1

lemma length_putSuites_le (table : List (ℕ × ℕ)) (flags : ℕ) : (putSuites table flags).length ≤ table.length := by
  rw [putSuites, List.length_map]
  exact List.length_filter_le _ _

/-- A list of suites with its count is read back. -/
lemma parseSuiteList_putSuites (h : NamesSuites table toBitfield) (hlength : table.length < 2 ^ 16) {flags : ℕ}
    (hsome : putSuites table flags ≠ []) (default : ℕ) (botch short : ℤ) (rest : List UInt8) :
    parseSuiteList toBitfield default botch short
        (leBytes 2 (putSuites table flags).length ++ (suiteBytes (putSuites table flags) ++ rest)) =
      .ok (flags &&& tableMask table, rest) := by
  have hle := length_putSuites_le table flags
  have hpos := List.length_pos_iff.mpr hsome
  have hcount : leNat (leBytes 2 (putSuites table flags).length) = (putSuites table flags).length :=
    leNat_count (by omega)
  rw [parseSuiteList, if_pos (by simp)]
  dsimp only
  rw [List.take_left' (length_leBytes 2 _), List.drop_left' (length_leBytes 2 _), hcount, if_neg,
    readSuites_suiteBytes (putSuites_lt h flags), foldl_putSuites h, Nat.zero_or]
  rw [List.length_append, length_suiteBytes]
  omega

end Suites

/-! ## Elements of version 1 -/

/-- An element of version 1 is not taken for an OSEN element. -/
lemma parseRsnHeader_version {rest : List UInt8} (h : (leBytes 2 1 ++ rest).length < 256) :
    parseRsnHeader (wlanEidRsn :: UInt8.ofNat (leBytes 2 1 ++ rest).length :: (leBytes 2 1 ++ rest)) =
      .ok (wpaProtoRsn, rest) := by
  have hlen : (UInt8.ofNat (leBytes 2 1 ++ rest).length).toNat = (leBytes 2 1 ++ rest).length :=
    UInt8.toNat_ofNat_of_lt' h
  have hosen : beNat ((leBytes 2 1 ++ rest).take 4) ≠ osenIeVendorType := by
    have htake : (leBytes 2 1 ++ rest).take 4 = 1 :: (0 :: rest).take 3 := rfl
    have hlt := beNat_lt ((0 :: rest).take 3)
    have hpow : 256 ^ ((0 :: rest).take 3).length ≤ 256 ^ 3 :=
      Nat.pow_le_pow_right (by decide) (List.length_take_le _ _)
    rw [htake, beNat_cons, osenIeVendorType]
    simp only [UInt8.toNat_one, one_mul]
    omega
  have hversion : leNat ((leBytes 2 1 ++ rest).take 2) = 1 := by
    rw [List.take_left' (length_leBytes 2 1), leNat_count (by decide)]
  have hid (id : UInt8) (bs : List UInt8) : (id :: bs).getD 0 0 = id := rfl
  have hsecond (id len : UInt8) (bs : List UInt8) : (id :: len :: bs).getD 1 0 = len := rfl
  have hbody (id len : UInt8) (bs : List UInt8) : (id :: len :: bs).drop 2 = bs := rfl
  have hlength (id len : UInt8) (bs : List UInt8) : (id :: len :: bs).length - 2 = bs.length := rfl
  have hrest : (wlanEidRsn :: UInt8.ofNat (leBytes 2 1 ++ rest).length :: (leBytes 2 1 ++ rest)).drop 4 = rest := rfl
  simp only [parseRsnHeader, hid, hsecond, hbody, hlength, hlen, hrest, hversion]
  rw [if_neg (fun hand => hosen hand.2.2.2), if_neg (by simp)]

end Ethanol
