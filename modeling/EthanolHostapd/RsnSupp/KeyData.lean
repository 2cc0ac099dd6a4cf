import EthanolHostapd.Ap.PmksaCache
import EthanolHostapd.Ap.WpaValidate
import EthanolHostapd.Crypto.AesWrap
import EthanolHostapd.Crypto.Rc4
import EthanolHostapd.RsnSupp.WpaIe

/-!
# Key data between the access point and the station

How `__wpa_send_eapol` of `ap/wpa_auth.c` encrypts the key data of a frame and how `wpa_supplicant_decrypt_key_data` of
`rsn_supp/wpa.c` decrypts it.  The key wrap needs whole units, so that the key data is padded, and the padding comes out at
the other end; the parser of the station has to stop there.

The length field of the frame is not modelled: the key data is as long as it is.
-/

namespace Ethanol

open Wire

/-! ## Units -/

/-- The unit at the front of some bytes. -/
def unitAt (bytes : List UInt8) : KeyUnit := Vector.ofFn fun i : Fin 8 => bytes.getD i 0

/-- The first `n` units of some bytes. -/
def unitsOf : ℕ → List UInt8 → List KeyUnit
  | 0, _ => []
  | n + 1, bytes => unitAt bytes :: unitsOf n (bytes.drop 8)

/-- The bytes of units. -/
def unitBytes (units : List KeyUnit) : List UInt8 := units.flatMap Vector.toList

lemma toList_unitAt {bytes : List UInt8} (hlen : 8 ≤ bytes.length) : (unitAt bytes).toList = bytes.take 8 := by
  apply List.ext_getElem
  · rw [Vector.length_toList, List.length_take]
    omega
  · intro i hi hi'
    have hlt : i < bytes.length := by
      rw [List.length_take] at hi'
      omega
    simp [unitAt, hlt]

lemma unitAt_append (unit : KeyUnit) (bytes : List UInt8) : unitAt (unit.toList ++ bytes) = unit := by
  apply Vector.ext
  intro i hi
  have hlt : i < (unit.toList ++ bytes).length := by
    rw [List.length_append, Vector.length_toList]
    omega
  simp [unitAt, List.getElem?_eq_getElem hlt, List.getElem_append_left, hi]

lemma unitBytes_unitsOf : ∀ (n : ℕ) (bytes : List UInt8), bytes.length = 8 * n → unitBytes (unitsOf n bytes) = bytes := by
  intro n
  induction n with
  | zero =>
    intro bytes hlen
    exact (List.length_eq_zero_iff.1 (by omega)).symm
  | succ n ih =>
    intro bytes hlen
    have hrest : (bytes.drop 8).length = 8 * n := by
      rw [List.length_drop]
      omega
    have hfirst : (unitAt bytes).toList = bytes.take 8 := toList_unitAt (by omega)
    rw [unitsOf, unitBytes, List.flatMap_cons, ← unitBytes, ih _ hrest, hfirst, List.take_append_drop]

@[simp] lemma length_unitsOf (n : ℕ) (bytes : List UInt8) : (unitsOf n bytes).length = n := by
  induction n generalizing bytes with
  | zero => rfl
  | succ n ih => rw [unitsOf, List.length_cons, ih]

@[simp] lemma length_unitBytes (units : List KeyUnit) : (unitBytes units).length = 8 * units.length := by
  induction units with
  | nil => rfl
  | cons unit units ih =>
    rw [unitBytes, List.flatMap_cons, ← unitBytes, List.length_append, ih, Vector.length_toList, List.length_cons]
    omega

lemma unitsOf_unitBytes (units : List KeyUnit) : unitsOf units.length (unitBytes units) = units := by
  induction units with
  | nil => rfl
  | cons unit units ih =>
    rw [List.length_cons, unitsOf, unitBytes, List.flatMap_cons, ← unitBytes, unitAt_append,
      List.drop_left' (Vector.length_toList ..), ih]

/-- The first units do not see what is behind them. -/
lemma unitsOf_append : ∀ (n : ℕ) (bytes rest : List UInt8), bytes.length = 8 * n →
    unitsOf n (bytes ++ rest) = unitsOf n bytes := by
  intro n
  induction n with
  | zero =>
    intro bytes rest _
    rfl
  | succ n ih =>
    intro bytes rest hlen
    have hdrop : (bytes ++ rest).drop 8 = bytes.drop 8 ++ rest := List.drop_append_of_le_length (by omega)
    have hrest : (bytes.drop 8).length = 8 * n := by
      rw [List.length_drop]
      omega
    have hunit : unitAt (bytes ++ rest) = unitAt bytes := by
      apply Vector.ext
      intro i hi
      have hlt : i < bytes.length := by omega
      simp [unitAt, List.getElem?_append_left, hlt]
    rw [unitsOf, unitsOf, hunit, hdrop, ih _ _ hrest]

/-! ## The code -/

/-- `wpa_use_aes_cmac`; `CONFIG_IEEE80211R` and `CONFIG_IEEE80211W` are there. -/
def wpaUseAesCmac (akmp : ℕ) : Bool :=
  decide (wpaKeyMgmtFt akmp) || wpaKeyMgmtSha256 akmp || decide (akmp = wpaKeyMgmtOsen)

/-- The version that `__wpa_send_eapol` chooses if none is forced. -/
def sendVersion (akmp : ℕ) (tkip : Bool) : ℕ :=
  if akmp = wpaKeyMgmtOsen ∨ wpaKeyMgmtSuiteB akmp = true then 0 -- WPA_KEY_INFO_TYPE_AKM_DEFINED
  else if wpaUseAesCmac akmp then 3 -- WPA_KEY_INFO_TYPE_AES_128_CMAC
  else if tkip = false then 2 -- WPA_KEY_INFO_TYPE_HMAC_SHA1_AES
  else 1 -- WPA_KEY_INFO_TYPE_HMAC_MD5_RC4

/-- The key data is wrapped. -/
def wrapsKeyData (akmp ver : ℕ) : Bool :=
  decide (ver = 2) || decide (akmp = wpaKeyMgmtOsen) || wpaKeyMgmtSuiteB akmp || decide (ver = 3)

/-- The key data of the frame with `encr`, from the KDEs, the KEK and the IV that is taken from the group's counter; `none`:
no frame is sent. -/
def encryptKeyData (mem : RoundKeys) (akmp ver : ℕ) (kek keyIv kde : List UInt8) : Option (List UInt8) :=
  if wrapsKeyData akmp ver then
    let padLen := if kde.length % 8 = 0 then 0 else 8 - kde.length % 8
    let keyDataLen := kde.length + padLen + 8
    let buf := kde ++ (if padLen = 0 then [] else 0xdd :: List.replicate (padLen - 1) 0) ++ List.replicate 8 0
    (aesWrap mem kek (unitsOf ((keyDataLen - 8) / 8) buf)).map fun c => unitBytes (c.1 :: c.2)
  else if kek.length = 16 then some (rc4Skip (keyIv ++ kek) 256 kde)
  else none

/-- `wpa_supplicant_decrypt_key_data`, once there is a PTK; `none` is -1. -/
def wpaSupplicantDecryptKeyData (mem : RoundKeys) (akmp ver : ℕ) (kek keyIv keyData : List UInt8) :
    Option (List UInt8) :=
  if ver = 1 ∧ kek.length = 16 then some (rc4Skip (keyIv ++ kek) 256 keyData)
  else if ver = 2 ∨ ver = 3 ∨ akmp = wpaKeyMgmtOsen ∨ wpaKeyMgmtSuiteB akmp = true then
    if keyData.length < 8 ∨ keyData.length % 8 ≠ 0 then none
    else
      let n := (keyData.length - 8) / 8
      (aesUnwrap mem kek (unitAt keyData, unitsOf n (keyData.drop 8))).map unitBytes
  else none

/-! ## What arrives -/

/-- The padding ends the key data for the parser. -/
lemma padding_ends (padLen : ℕ) :
    let padding : List UInt8 := if padLen = 0 then [] else 0xdd :: List.replicate (padLen - 1) 0
    padding.length = padLen ∧ (padding.length ≤ 1 ∨ ∃ zeros, padding = 221 :: 0 :: zeros) := by
  by_cases hzero : padLen = 0
  · subst hzero
    exact ⟨rfl, Or.inl (Nat.zero_le 1)⟩
  · rw [if_neg hzero]
    refine ⟨?_, ?_⟩
    · rw [List.length_cons, List.length_replicate]
      omega
    · by_cases hone : padLen = 1
      · subst hone
        exact Or.inl (le_refl 1)
      · obtain ⟨k, rfl⟩ : ∃ k, padLen = k + 2 := ⟨padLen - 2, by omega⟩
        exact Or.inr ⟨List.replicate k 0, rfl⟩

/-- Units that were wrapped are unwrapped from their bytes. -/
lemma unwrap_unitBytes {mem mem' : RoundKeys} {kek plain : List UInt8} {a : KeyUnit} {r : List KeyUnit}
    (hwhole : plain.length % 8 = 0) (hwrap : aesWrap mem kek (unitsOf (plain.length / 8) plain) = some (a, r)) :
    (unitBytes (a :: r)).length = plain.length + 8 ∧
      aesUnwrap mem' kek (unitAt (unitBytes (a :: r)), unitsOf (plain.length / 8) ((unitBytes (a :: r)).drop 8)) =
        some (unitsOf (plain.length / 8) plain) := by
  have hunwrap := (aesUnwrap_eq_some_iff mem mem' kek (a, r) _).2 hwrap
  have hlength : r.length = plain.length / 8 := by
    have hspec := length_unwrapped hunwrap
    rw [length_unitsOf] at hspec
    exact hspec.symm
  have hbytes : unitBytes (a :: r) = a.toList ++ unitBytes r := rfl
  constructor
  · rw [length_unitBytes, List.length_cons, hlength]
    omega
  · rw [hbytes, unitAt_append, List.drop_left' (Vector.length_toList ..), ← hlength, unitsOf_unitBytes, hlength]
    exact hunwrap

/-- With the version that is chosen the key data is wrapped, unless it is the one of RC4. -/
lemma wrapsKeyData_sendVersion (akmp : ℕ) (tkip : Bool) :
    wrapsKeyData akmp (sendVersion akmp tkip) = true ↔ sendVersion akmp tkip ≠ 1 := by
  rw [wrapsKeyData, sendVersion]
  by_cases hakm : akmp = wpaKeyMgmtOsen ∨ wpaKeyMgmtSuiteB akmp = true
  · rw [if_pos hakm]
    rcases hakm with hosen | hsuite
    · simp [hosen]
    · simp [hsuite]
  · rw [if_neg hakm]
    obtain ⟨hosen, hsuite⟩ := not_or.1 hakm
    split_ifs <;> simp [hosen, hsuite]

/-- The station unwraps where the access point wraps. -/
lemma unwraps_of_wraps {akmp ver : ℕ} (hwraps : wrapsKeyData akmp ver = true) :
    ver = 2 ∨ ver = 3 ∨ akmp = wpaKeyMgmtOsen ∨ wpaKeyMgmtSuiteB akmp = true := by
  simp only [wrapsKeyData, Bool.or_eq_true, decide_eq_true_eq] at hwraps
  tauto

/-- What is encrypted is decrypted, up to padding. -/
lemma decrypt_encrypt {mem : RoundKeys} (mem' : RoundKeys) {akmp : ℕ} {tkip : Bool} {kek keyIv kde keyData : List UInt8}
    (hsend : encryptKeyData mem akmp (sendVersion akmp tkip) kek keyIv kde = some keyData) :
    ∃ padding : List UInt8, (padding.length ≤ 1 ∨ ∃ zeros, padding = 221 :: 0 :: zeros) ∧
      wpaSupplicantDecryptKeyData mem' akmp (sendVersion akmp tkip) kek keyIv keyData = some (kde ++ padding) := by
  rw [encryptKeyData] at hsend
  by_cases hwraps : wrapsKeyData akmp (sendVersion akmp tkip) = true
  · have hver : ¬(sendVersion akmp tkip = 1 ∧ kek.length = 16) := fun hrc4 =>
      (wrapsKeyData_sendVersion akmp tkip).1 hwraps hrc4.1
    rw [if_pos hwraps] at hsend
    generalize hpad : (if kde.length % 8 = 0 then 0 else 8 - kde.length % 8) = padLen at hsend
    obtain ⟨hpadding, hends⟩ := padding_ends padLen
    refine ⟨if padLen = 0 then [] else 0xdd :: List.replicate (padLen - 1) 0, hends, ?_⟩
    obtain ⟨⟨a, r⟩, hwrap, rfl⟩ := Option.map_eq_some_iff.1 hsend
    have hplain : (kde ++ (if padLen = 0 then [] else 0xdd :: List.replicate (padLen - 1) 0)).length =
        kde.length + padLen := by
      rw [List.length_append, hpadding]
    generalize kde ++ (if padLen = 0 then [] else 0xdd :: List.replicate (padLen - 1) 0) = plain at hwrap hplain ⊢
    have hwhole : plain.length % 8 = 0 := by
      rw [hplain, ← hpad]
      split_ifs <;> omega
    have hcount : (kde.length + padLen + 8 - 8) / 8 = plain.length / 8 := by omega
    have height : plain.length = 8 * (plain.length / 8) := by omega
    rw [hcount, unitsOf_append _ _ _ height] at hwrap
    obtain ⟨hlength, hunwrap⟩ := @unwrap_unitBytes _ mem' _ _ _ _ hwhole hwrap
    have hn : (plain.length + 8 - 8) / 8 = plain.length / 8 := by omega
    have hshort : ¬(plain.length + 8 < 8 ∨ (plain.length + 8) % 8 ≠ 0) := by omega
    rw [wpaSupplicantDecryptKeyData, if_neg hver, if_pos (unwraps_of_wraps hwraps), hlength, if_neg hshort]
    simp only [hn]
    rw [hunwrap, Option.map_some, unitBytes_unitsOf _ _ height]
  · rw [if_neg hwraps] at hsend
    split_ifs at hsend with hkek
    have hver : sendVersion akmp tkip = 1 := by
      by_contra hne
      exact hwraps ((wrapsKeyData_sendVersion akmp tkip).2 hne)
    refine ⟨[], Or.inl (Nat.zero_le 1), ?_⟩
    rw [wpaSupplicantDecryptKeyData, if_pos ⟨hver, hkek⟩, ← Option.some.inj hsend, rc4Skip_rc4Skip, List.append_nil]

end Ethanol
