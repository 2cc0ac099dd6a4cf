import EthanolHostapd.Ap.KeyData
import EthanolHostapd.Ap.WpaAuth.Receive

/-!
# EAPOL-Key frames as bytes

What `wpa_receive` and `wpa_verify_key_mic` of `wpa_auth.c` do with the bytes of a frame.  There are two layouts of the
header, with a MIC of 16 or of 24 bytes; the negotiated key management says which one is expected.  What depends on the
station's state machine is given with the call.

`wpa_verify_key_mic` only checks for the shorter header, whatever the key management is.  It relies on the check at the
start of `wpa_receive`.
-/

namespace Ethanol

open Wire

/-! ## The code -/

/-- `wpa_mic_len`. -/
def wpaMicLen (akmp : ℕ) : ℕ := if akmp = wpaKeyMgmtIeee8021xSuiteB192 then 24 else 16

/-- `sizeof(struct ieee802_1x_hdr)`. -/
def ieee8021xHdrLen : ℕ := 4

/-- The offset of `key_mic` in `struct wpa_eapol_key`: type, key information, key length, replay counter, nonce, IV, RSC
and key identifier are in front of it. -/
def keyMicOffset : ℕ := 1 + 2 + 2 + 8 + 32 + 16 + 8 + 8

/-- `sizeof(struct wpa_eapol_key)` or `sizeof(struct wpa_eapol_key_192)`. -/
def keyHdrLen (micLen : ℕ) : ℕ := keyMicOffset + micLen + 2

/-- The keyed hashes; `none` if they fail. -/
structure MicFunctions where
  hmacMd5 : List UInt8 → List UInt8 → Option (Vector UInt8 16)
  hmacSha1 : List UInt8 → List UInt8 → Option (Vector UInt8 20)
  omac1Aes128 : List UInt8 → List UInt8 → Option (Vector UInt8 16)
  hmacSha256 : List UInt8 → List UInt8 → Option (Vector UInt8 32)
  hmacSha384 : List UInt8 → List UInt8 → Option (Vector UInt8 48)

/-- The compile options of `wpa_eapol_key_mic`; `CONFIG_IEEE80211W` is there, `CONFIG_FIPS` is not. -/
structure MicBuild where
  hs20 : Bool
  suiteb : Bool
  suiteb192 : Bool

/-- `wpa_eapol_key_mic`: the bytes that are written to `mic`, or `none` for a negative result. -/
def wpaEapolKeyMic (build : MicBuild) (fns : MicFunctions) (key : List UInt8) (akmp ver : ℕ) (buf : List UInt8) :
    Option (List UInt8) :=
  match ver with
  | 1 => (fns.hmacMd5 key buf).map Vector.toList -- WPA_KEY_INFO_TYPE_HMAC_MD5_RC4
  | 2 => (fns.hmacSha1 key buf).map fun hash => hash.toList.take 16 -- WPA_KEY_INFO_TYPE_HMAC_SHA1_AES
  | 3 => (fns.omac1Aes128 key buf).map Vector.toList -- WPA_KEY_INFO_TYPE_AES_128_CMAC
  | 0 => -- WPA_KEY_INFO_TYPE_AKM_DEFINED
    if build.hs20 = true ∧ akmp = wpaKeyMgmtOsen then (fns.omac1Aes128 key buf).map Vector.toList
    else if build.suiteb = true ∧ akmp = wpaKeyMgmtIeee8021xSuiteB then
      (fns.hmacSha256 key buf).map fun hash => hash.toList.take 16
    else if build.suiteb192 = true ∧ akmp = wpaKeyMgmtIeee8021xSuiteB192 then
      (fns.hmacSha384 key buf).map fun hash => hash.toList.take 24
    else none
  | _ => none

/-- `WPA_GET_BE16`. -/
def getBe16 (buf : List UInt8) (off : ℕ) : Option ℕ := (Buffer.read buf off 2).map beNat

/-- `wpa_verify_key_mic`: whether the MIC is right, and the frame afterwards. -/
def wpaVerifyKeyMic (build : MicBuild) (fns : MicFunctions) (akmp : ℕ) (kck data : List UInt8) :
    Option (Bool × List UInt8) :=
  if data.length < ieee8021xHdrLen + keyHdrLen 16 then some (false, data)
  else do
    let keyMic := ieee8021xHdrLen + keyMicOffset
    let keyInfo ← getBe16 data (ieee8021xHdrLen + 1)
    let mic ← Buffer.read data keyMic (wpaMicLen akmp)
    let data ← Buffer.write data keyMic (List.replicate (wpaMicLen akmp) 0)
    match wpaEapolKeyMic build fns kck akmp (keyInfo % 8) data with
    | none =>
      let data ← Buffer.write data keyMic mic
      pure (false, data)
    | some hash =>
      let data ← Buffer.write data keyMic hash
      let computed ← Buffer.read data keyMic (wpaMicLen akmp)
      let data ← Buffer.write data keyMic mic
      pure (mic = computed, data)

/-- What the state machine of the station contributes to `wpa_receive`: the answers of its checks, and the keys that
`wpa_verify_key_mic` is called with one after the other, if it is called. -/
structure RxChecks where
  /-- `sm->wpa == WPA_VERSION_WPA2`. -/
  wpa2 : Bool
  /-- `wpa_key_mgmt_ft`. -/
  ft : Bool
  descriptorVersion : EapolMsg → ℕ → Bool
  replayCounter : EapolMsg → List UInt8 → List UInt8 → Bool
  state : EapolMsg → Bool
  /-- `wpa_compare_rsn_ie` for the element of the station. -/
  element : Option (List UInt8) → Bool
  /-- `ft_check_msg_2_of_4` for the RSN, mobility domain and fast transition elements. -/
  ftElements : Option (List UInt8) → Option (List UInt8) → Option (List UInt8) → Bool
  keys : Option (List (List UInt8))

/-- `msg`. -/
def eapolMsg (keyInfo keyDataLength : ℕ) : EapolMsg :=
  let smk := keyInfo.testBit 13 -- WPA_KEY_INFO_SMK_MESSAGE
  let request := keyInfo.testBit 11 -- WPA_KEY_INFO_REQUEST
  if smk && request then if keyInfo.testBit 10 then .smkError else .smkM1 -- WPA_KEY_INFO_ERROR
  else if smk then .smkM3
  else if request then .request
  else if !keyInfo.testBit 3 then .group2 -- WPA_KEY_INFO_KEY_TYPE
  else if keyDataLength = 0 then .pairwise4
  else .pairwise2

/-- The bytes of a recorded item. -/
def readItem (buf : List UInt8) : Option (ℕ × ℕ) → Option (Option (List UInt8))
  | none => some none
  | some (pos, len) => (Buffer.read buf pos len).map some

/-- The check of the key data of message 2/4. -/
def checkKeyData (build : KdeBuild) (checks : RxChecks) (data : List UInt8) (keyData keyDataLength : ℕ) :
    Option Bool := do
  let (ok, kde) ← wpaParseKdeIes build data keyData keyDataLength
  if ok then
    let element ← readItem data ((kde .rsnIe).or ((kde .osen).or (kde .wpaIe)))
    if checks.element element then
      if build.ieee80211r && checks.wpa2 && checks.ft then
        let rsnIe ← readItem data (kde .rsnIe)
        let mdie ← readItem data (kde .mdie)
        let ftie ← readItem data (kde .ftie)
        pure (checks.ftElements rsnIe mdie ftie)
      else pure true
    else pure false
  else pure false

/-- The MIC is verified with one key after the other until it is right. -/
def tryKeys (build : MicBuild) (fns : MicFunctions) (akmp : ℕ) :
    List (List UInt8) → List UInt8 → Option (Bool × List UInt8)
  | [], data => some (false, data)
  | kck :: keys, data => do
    let (ok, data) ← wpaVerifyKeyMic build fns akmp kck data
    if ok then pure (true, data) else tryKeys build fns akmp keys data

/-- The part of `wpa_receive` for a request that looks at the key data. -/
def receiveRequestData (build : KdeBuild) (msg : EapolMsg) (keyInfo : ℕ) (data : List UInt8)
    (keyData keyDataLength : ℕ) : Option (List UInt8) :=
  if msg = .smkError ∨ keyInfo.testBit 10 = true ∨ keyInfo.testBit 3 = true ∨ (build.peerkey = true ∧ msg = .smkM1) then
    some data
  else if 0 < keyDataLength then (wpaParseKdeIes build data keyData keyDataLength).map fun _ => data
  else some data

/-- The part of `wpa_receive` behind the checks of the kind of the message. -/
def receiveChecked (build : KdeBuild) (mic : MicBuild) (fns : MicFunctions) (akmp : ℕ) (checks : RxChecks)
    (msg : EapolMsg) (keyInfo : ℕ) (data : List UInt8) (keyData keyDataLength : ℕ) : Option (List UInt8) :=
  if keyInfo.testBit 7 = true ∨ keyInfo.testBit 8 = false then some data -- WPA_KEY_INFO_ACK, WPA_KEY_INFO_MIC
  else
    match checks.keys with
    | none => some data
    | some keys => do
      let (verified, data) ← tryKeys mic fns akmp keys data
      if verified && keyInfo.testBit 11 then receiveRequestData build msg keyInfo data keyData keyDataLength
      else pure data

/-- `wpa_receive`: the frame afterwards. -/
def wpaReceive (build : KdeBuild) (mic : MicBuild) (fns : MicFunctions) (akmp : ℕ) (checks : RxChecks)
    (data : List UInt8) : Option (List UInt8) :=
  let keyHdr := keyHdrLen (wpaMicLen akmp)
  if data.length < ieee8021xHdrLen + keyHdr then some data
  else do
    let keyInfo ← getBe16 data (ieee8021xHdrLen + 1)
    let keyData := ieee8021xHdrLen + keyHdr
    let keyDataLength ← getBe16 data (ieee8021xHdrLen + keyMicOffset + wpaMicLen akmp)
    let type ← data[ieee8021xHdrLen]?
    if data.length - ieee8021xHdrLen - keyHdr < keyDataLength then pure data
    else if type ≠ 254 ∧ (checks.wpa2 = false ∨ type ≠ 2) then pure data -- EAPOL_KEY_TYPE_WPA, EAPOL_KEY_TYPE_RSN
    else
      let replayCounter ← Buffer.read data (ieee8021xHdrLen + 1 + 2 + 2) 8
      let keyNonce ← Buffer.read data (ieee8021xHdrLen + 1 + 2 + 2 + 8) 32
      let msg := eapolMsg keyInfo keyDataLength
      if checks.descriptorVersion msg (keyInfo % 8) && checks.replayCounter msg replayCounter keyNonce &&
          checks.state msg then
        if msg = .pairwise2 then
          if ← checkKeyData build checks data keyData keyDataLength then
            receiveChecked build mic fns akmp checks msg keyInfo data keyData keyDataLength
          else pure data
        else receiveChecked build mic fns akmp checks msg keyInfo data keyData keyDataLength
      else pure data

/-! ## The accesses are inside the frame -/

section Frame

variable {build : KdeBuild} {mic : MicBuild} {fns : MicFunctions} {akmp : ℕ} {checks : RxChecks} {data : List UInt8}

lemma wpaMicLen_cases (akmp : ℕ) : wpaMicLen akmp = 24 ∨ wpaMicLen akmp = 16 := by
  unfold wpaMicLen
  split
  · exact Or.inl rfl
  · exact Or.inr rfl

lemma getBe16_eq {off : ℕ} (h : off + 2 ≤ data.length) : ∃ n, getBe16 data off = some n :=
  ⟨_, by rw [getBe16, Buffer.read_eq_some h, Option.map_some]⟩

/-- A MIC that is computed is no longer than the field for it. -/
lemma length_wpaEapolKeyMic {key buf hash : List UInt8} {ver : ℕ}
    (h : wpaEapolKeyMic mic fns key akmp ver buf = some hash) : hash.length ≤ wpaMicLen akmp := by
  have hleast : 16 ≤ wpaMicLen akmp := by
    rcases wpaMicLen_cases akmp with h | h <;> omega
  unfold wpaEapolKeyMic at h
  split at h
  · obtain ⟨hash, -, rfl⟩ := Option.map_eq_some_iff.mp h
    rw [Vector.length_toList]
    exact hleast
  · obtain ⟨hash, -, rfl⟩ := Option.map_eq_some_iff.mp h
    exact (List.length_take_le _ _).trans hleast
  · obtain ⟨hash, -, rfl⟩ := Option.map_eq_some_iff.mp h
    rw [Vector.length_toList]
    exact hleast
  · split at h
    · obtain ⟨hash, -, rfl⟩ := Option.map_eq_some_iff.mp h
      rw [Vector.length_toList]
      exact hleast
    · split at h
      · obtain ⟨hash, -, rfl⟩ := Option.map_eq_some_iff.mp h
        exact (List.length_take_le _ _).trans hleast
      · split at h
        · next hsuite =>
          obtain ⟨hash, -, rfl⟩ := Option.map_eq_some_iff.mp h
          rw [wpaMicLen, if_pos hsuite.2]
          exact List.length_take_le _ _
        · cases h
  · cases h

/-- If the field for the MIC is in the frame, the MIC is verified inside the frame, and the frame is as before. -/
lemma wpaVerifyKeyMic_eq (mic : MicBuild) (fns : MicFunctions) (kck : List UInt8)
    (hfield : ieee8021xHdrLen + keyMicOffset + wpaMicLen akmp ≤ data.length) :
    ∃ ok, wpaVerifyKeyMic mic fns akmp kck data = some (ok, data) := by
  by_cases hshort : data.length < ieee8021xHdrLen + keyHdrLen 16
  · exact ⟨false, by rw [wpaVerifyKeyMic, if_pos hshort]⟩
  have hinfoField : ieee8021xHdrLen + 1 + 2 ≤ data.length := by
    rw [show keyMicOffset = 77 from rfl] at hfield
    omega
  obtain ⟨keyInfo, hinfo⟩ := getBe16_eq hinfoField
  have hcleared : (Buffer.splice data (ieee8021xHdrLen + keyMicOffset) (List.replicate (wpaMicLen akmp) 0)).length =
      data.length := Buffer.length_splice (by rw [List.length_replicate]; exact hfield)
  have hwindow := Buffer.length_window hfield
  have hrestore {bs : List UInt8} (hbs : bs.length ≤ wpaMicLen akmp) :
      Buffer.splice (Buffer.splice data (ieee8021xHdrLen + keyMicOffset) bs) (ieee8021xHdrLen + keyMicOffset)
        (Buffer.window data (ieee8021xHdrLen + keyMicOffset) (wpaMicLen akmp)) = data := by
    rw [Buffer.splice_splice_of_le (by rw [hwindow]; exact hbs) (by rw [hwindow]; exact hfield),
      Buffer.splice_window hfield]
  have hzeros : (List.replicate (wpaMicLen akmp) (0 : UInt8)).length ≤ wpaMicLen akmp := by rw [List.length_replicate]
  rw [wpaVerifyKeyMic, if_neg hshort, hinfo]
  simp only [bind, Option.bind_some, Buffer.read_eq_some hfield]
  rw [Buffer.write_eq_some (by rw [List.length_replicate]; exact hfield), Option.bind_some]
  split
  · refine ⟨false, ?_⟩
    rw [Buffer.write_eq_some (by rw [hcleared, hwindow]; exact hfield), Option.bind_some, hrestore hzeros]
    rfl
  · next hash hhash =>
    have hlength := length_wpaEapolKeyMic hhash
    have hhashed : (Buffer.splice (Buffer.splice data (ieee8021xHdrLen + keyMicOffset)
        (List.replicate (wpaMicLen akmp) 0)) (ieee8021xHdrLen + keyMicOffset) hash).length = data.length := by
      rw [Buffer.length_splice (by omega), hcleared]
    have hcover : Buffer.splice (Buffer.splice (Buffer.splice data (ieee8021xHdrLen + keyMicOffset)
        (List.replicate (wpaMicLen akmp) 0)) (ieee8021xHdrLen + keyMicOffset) hash) (ieee8021xHdrLen + keyMicOffset)
          (Buffer.window data (ieee8021xHdrLen + keyMicOffset) (wpaMicLen akmp)) = data := by
      rw [Buffer.splice_splice_of_le (by omega) (by omega), hrestore hzeros]
    rw [Buffer.write_eq_some (by omega), Option.bind_some, Buffer.read_eq_some (by omega), Option.bind_some,
      Buffer.write_eq_some (by omega), Option.bind_some, hcover]
    exact ⟨_, rfl⟩

/-- A frame with the shorter header may end within a MIC of 24 bytes; without the check in `wpa_receive` the access would
leave the frame. -/
lemma wpaVerifyKeyMic_isSome_iff (kck : List UInt8) :
    (wpaVerifyKeyMic mic fns akmp kck data).isSome ↔
      data.length < ieee8021xHdrLen + keyHdrLen 16 ∨
        ieee8021xHdrLen + keyMicOffset + wpaMicLen akmp ≤ data.length := by
  constructor
  · intro h
    by_contra hnot
    obtain ⟨hshort, hfield⟩ := not_or.mp hnot
    have hread : Buffer.read data (ieee8021xHdrLen + keyMicOffset) (wpaMicLen akmp) = none := by
      rw [Buffer.read, if_neg hfield]
    simp only [wpaVerifyKeyMic, if_neg hshort, hread, bind, Option.bind_none, Option.bind_fun_none] at h
    cases h
  · rintro (hshort | hfield)
    · rw [wpaVerifyKeyMic, if_pos hshort]
      rfl
    · obtain ⟨ok, hok⟩ := wpaVerifyKeyMic_eq mic fns kck hfield
      rw [hok]
      rfl

lemma tryKeys_eq (mic : MicBuild) (fns : MicFunctions)
    (h : ieee8021xHdrLen + keyMicOffset + wpaMicLen akmp ≤ data.length) (keys : List (List UInt8)) :
    ∃ ok, tryKeys mic fns akmp keys data = some (ok, data) := by
  induction keys with
  | nil => exact ⟨false, rfl⟩
  | cons kck keys ih =>
    obtain ⟨ok, hok⟩ := wpaVerifyKeyMic_eq mic fns kck h
    obtain ⟨rest, hrest⟩ := ih
    simp only [tryKeys, hok, bind, Option.bind_some]
    cases ok with
    | true => exact ⟨true, rfl⟩
    | false => exact ⟨rest, hrest⟩

lemma readItem_eq {ies : EapolIes} {stop : ℕ} {start : ℕ} (h : ies.Inside start stop) (hstop : stop ≤ data.length)
    (field : KdeField) : ∃ bytes, readItem data (ies field) = some bytes := by
  cases hitem : ies field with
  | none => exact ⟨none, rfl⟩
  | some item =>
    obtain ⟨pos, len⟩ := item
    have hinside := h field pos len hitem
    exact ⟨_, by rw [readItem, Buffer.read_eq_some (by omega), Option.map_some]⟩

lemma checkKeyData_eq (build : KdeBuild) (checks : RxChecks) {keyData keyDataLength : ℕ} (h : keyData + keyDataLength ≤ data.length) :
    ∃ ok, checkKeyData build checks data keyData keyDataLength = some ok := by
  obtain ⟨ok, ies, hparse, hinside⟩ := wpaParseKdeIes_inside build h
  obtain ⟨rsnIe, hrsnIe⟩ := readItem_eq hinside h .rsnIe
  obtain ⟨osen, hosen⟩ := readItem_eq hinside h .osen
  obtain ⟨wpaIe, hwpaIe⟩ := readItem_eq hinside h .wpaIe
  obtain ⟨mdie, hmdie⟩ := readItem_eq hinside h .mdie
  obtain ⟨ftie, hftie⟩ := readItem_eq hinside h .ftie
  have helement : ∃ bytes, readItem data ((ies .rsnIe).or ((ies .osen).or (ies .wpaIe))) = some bytes := by
    cases hrsn : ies .rsnIe with
    | some item => exact ⟨rsnIe, by rw [Option.some_or, ← hrsn, hrsnIe]⟩
    | none =>
      cases hos : ies .osen with
      | some item => exact ⟨osen, by rw [Option.none_or, Option.some_or, ← hos, hosen]⟩
      | none => exact ⟨wpaIe, hwpaIe⟩
  obtain ⟨element, helement⟩ := helement
  simp only [checkKeyData, hparse, bind, Option.bind_some, helement, hrsnIe, hmdie, hftie]
  split
  · split
    · split
      · exact ⟨_, rfl⟩
      · exact ⟨_, rfl⟩
    · exact ⟨_, rfl⟩
  · exact ⟨_, rfl⟩

lemma receiveRequestData_eq {msg : EapolMsg} {keyInfo keyData keyDataLength : ℕ}
    (h : keyData + keyDataLength ≤ data.length) :
    receiveRequestData build msg keyInfo data keyData keyDataLength = some data := by
  unfold receiveRequestData
  split
  · rfl
  · split
    · obtain ⟨ok, ies, hparse, -⟩ := wpaParseKdeIes_inside build h
      rw [hparse, Option.map_some]
    · rfl

lemma receiveChecked_eq {msg : EapolMsg} {keyInfo keyData keyDataLength : ℕ}
    (hfield : ieee8021xHdrLen + keyMicOffset + wpaMicLen akmp ≤ data.length)
    (h : keyData + keyDataLength ≤ data.length) :
    receiveChecked build mic fns akmp checks msg keyInfo data keyData keyDataLength = some data := by
  unfold receiveChecked
  split
  · rfl
  · cases checks.keys with
    | none => rfl
    | some keys =>
      obtain ⟨ok, hok⟩ := tryKeys_eq mic fns hfield keys
      simp only [hok, bind, Option.bind_some]
      split
      · exact receiveRequestData_eq h
      · rfl

/-- `wpa_receive` only looks at bytes of the frame, and leaves the frame as it was. -/
lemma wpaReceive_eq (build : KdeBuild) (mic : MicBuild) (fns : MicFunctions) (akmp : ℕ) (checks : RxChecks)
    (data : List UInt8) : wpaReceive build mic fns akmp checks data = some data := by
  unfold wpaReceive
  dsimp only
  split
  · rfl
  · next hlong =>
    rw [not_lt, keyHdrLen] at hlong
    have hfield : ieee8021xHdrLen + keyMicOffset + wpaMicLen akmp ≤ data.length := by omega
    have hhdr : ieee8021xHdrLen = 4 := rfl
    have hoffset : keyMicOffset = 77 := rfl
    obtain ⟨keyInfo, hinfo⟩ := getBe16_eq (show ieee8021xHdrLen + 1 + 2 ≤ data.length by omega)
    obtain ⟨keyDataLength, hlength⟩ :=
      getBe16_eq (show ieee8021xHdrLen + keyMicOffset + wpaMicLen akmp + 2 ≤ data.length by omega)
    have htype := List.getElem?_eq_getElem (show ieee8021xHdrLen < data.length by omega)
    simp only [hinfo, hlength, htype, bind, Option.bind_some]
    split
    · rfl
    · next hdata =>
      rw [keyHdrLen] at hdata
      have hinside : ieee8021xHdrLen + keyHdrLen (wpaMicLen akmp) + keyDataLength ≤ data.length := by
        rw [keyHdrLen]
        omega
      split
      · rfl
      · rw [Buffer.read_eq_some (by omega), Option.bind_some, Buffer.read_eq_some (by omega), Option.bind_some]
        split
        · split
          · obtain ⟨ok, hok⟩ := checkKeyData_eq build checks hinside
            rw [hok, Option.bind_some]
            cases ok with
            | true => exact receiveChecked_eq hfield hinside
            | false => rfl
          · exact receiveChecked_eq hfield hinside
        · rfl

end Frame

/-- EAPOL-Key frames are read inside the frame, with either header; the items that are recorded are inside the key data,
and in KDEs that were written the payload of each recorded kind is found. -/
theorem eapolKey_inBounds (build : KdeBuild) (mic : MicBuild) (fns : MicFunctions) :
    (∀ akmp checks data, wpaReceive build mic fns akmp checks data = some data) ∧
    (∀ front keyData back : List UInt8, ∃ ok ies,
      wpaParseKdeIes build (front ++ (keyData ++ back)) front.length keyData.length = some (ok, ies) ∧
        ies.Inside front.length (front.length + keyData.length)) ∧
    ∀ (front back : List UInt8) (kdes : List Kde), ∃ ies,
      wpaParseKdeIes build (front ++ (kdes.flatMap Kde.bytes ++ back)) front.length (kdes.flatMap Kde.bytes).length =
          some (true, ies) ∧
        ∀ kind ∈ kdeKinds build, itemBytes (front ++ (kdes.flatMap Kde.bytes ++ back)) ies kind.field =
          (kdes.filterMap (kdePayload kind)).getLast? := by
  refine ⟨fun akmp checks data => wpaReceive_eq build mic fns akmp checks data, ?_, wpaParseKdeIes_kdes build⟩
  intro front keyData back
  apply wpaParseKdeIes_inside
  rw [List.length_append, List.length_append]
  omega

end Ethanol
