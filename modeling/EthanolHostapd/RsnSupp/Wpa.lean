import EthanolHostapd.Ap.Message3
import EthanolHostapd.Ap.WpaAuth.Machine
import EthanolHostapd.RsnSupp.KeyData
import EthanolHostapd.Traces.Run

/-!
# The station's side of the handshakes

`rsn_supp/wpa.c`: what `wpa_sm_rx_eapol` does with a frame, in the 4-way handshake and in the group key handshake, and the
events that make the station forget its keys.  The derivation of the PTK and the MIC are parameters.  What comes from
outside during a call (the PMK, random numbers, whether a frame can be sent and a key can be set, whether the elements agree
with those of the beacon) is given with the call.

A `history` that the program does not keep records what is derived, accepted, sent and handed to the driver, the latest
first.  Fast transition, PeerKey and the checks of lengths in the header are left out.
-/

namespace Ethanol

/-! ## Frames and parameters -/

/-- `WPA_PROTO_*`. -/
inductive SuppProto
  | wpa
  | rsn
  | osen
  deriving DecidableEq

/-- `struct wpa_ptk`. -/
structure SuppPtk where
  kck : List UInt8
  kek : List UInt8
  tk : List UInt8
  deriving DecidableEq

/-- `WPA_TK_MAX_LEN` bytes that are zero. -/
def zeroTk : List UInt8 := List.replicate 32 0

/-- `os_memset` of a `struct wpa_ptk`. -/
def clearedPtk : SuppPtk := ⟨[], [], zeroTk⟩

/-- `struct wpa_eapol_key` with its key data; the flags are those of `key_info`.  `WPA_KEY_INFO_INSTALL` and
`WPA_KEY_INFO_TXRX` are one bit. -/
structure SuppKey (Nonce : Type) where
  /-- `key_info & WPA_KEY_INFO_TYPE_MASK`. -/
  ver : ℕ
  /-- Set for a pairwise frame. -/
  keyType : Bool
  keyIndex : ℕ
  install : Bool
  ack : Bool
  mic : Bool
  secure : Bool
  request : Bool
  encrKeyData : Bool
  smkMessage : Bool
  keyLength : ℕ
  replayCounter : BitVec 64
  keyNonce : Nonce
  keyIv : List UInt8
  keyRsc : List UInt8
  keyMic : List UInt8
  keyData : List UInt8

/-- What is configured or negotiated. -/
structure SuppConfig where
  proto : SuppProto
  keyMgmt : ℕ
  pairwiseCipher : ℕ
  groupCipher : ℕ
  mgmtGroupCipher : ℕ
  wpaRscRelaxation : Bool
  build : KdeBuild

/-- The functions outside, and what is in the memory of an AES context. -/
structure SuppParams (Nonce Pmk : Type) where
  /-- `wpa_pmk_to_ptk`, with the SNonce and the ANonce. -/
  derivePtk : Pmk → Nonce → Nonce → SuppPtk
  /-- `wpa_eapol_key_mic` under a KCK, over the frame with a MIC of zeros. -/
  eapolKeyMic : List UInt8 → SuppKey Nonce → List UInt8
  mem : RoundKeys

/-- The result of `wpa_supplicant_get_pmk`. -/
inductive GetPmkResult
  | ok
  /-- -2: full EAP authentication is requested. -/
  | requestEap
  | failed
  deriving DecidableEq

/-- The surroundings during a call. -/
structure SuppEnv (Nonce Pmk : Type) where
  networkCtx : Bool
  getPmk : GetPmkResult
  /-- What `wpa_supplicant_get_pmk` sets the PMK to. -/
  newPmk : Option Pmk
  /-- `none`: `random_get_bytes` fails. -/
  random : Option Nonce
  /-- The reply cannot be sent. -/
  sendFails : Bool
  /-- `wpa_supplicant_validate_ie`. -/
  validIe : SuppIes → Bool
  setPtkFails : Bool
  setGtkFails : Bool
  setIgtkFails : Bool

/-- `struct wpa_gtk_data`. -/
structure SuppGtkData where
  tx : Bool
  keyidx : ℕ
  gtk : List UInt8

/-- `enum wpa_states`, as far as the states are told apart. -/
inductive SuppState
  | other
  | fourWayHandshake
  | groupHandshake
  | completed
  deriving DecidableEq

/-- The replies. -/
inductive SuppMsg
  | msg2of4
  | msg4of4
  | msg2of2
  deriving DecidableEq

/-- What is recorded of a run. -/
inductive SuppAct (Nonce : Type)
  /-- A TPTK was derived from the ANonce of a message 1 and the SNonce. -/
  | derived (ptk : SuppPtk) (anonce snonce : Nonce)
  /-- The TPTK became the PTK. -/
  | promoted (ptk : SuppPtk)
  /-- A frame with this replay counter had a good MIC. -/
  | accepted (counter : BitVec 64)
  | sent (msg : SuppMsg) (counter : BitVec 64)
  /-- The TK was handed to the driver. -/
  | installedPtk (tk : List UInt8)
  | installedGtk (keyidx : ℕ) (tx : Bool) (rsc gtk : List UInt8)
  | installedIgtk (keyid : ℕ) (pn igtk : List UInt8)
  /-- `eapol_sm_notify_portValid`. -/
  | portValid
  /-- `wpa_sm_deauthenticate`. -/
  | deauthenticated
  /-- The PTK and the TPTK were forgotten. -/
  | cleared
  /-- The replay counter was forgotten. -/
  | replayReset
  deriving DecidableEq

/-- `struct wpa_sm`. -/
structure WpaSm (Nonce Pmk : Type) where
  pmk : Pmk
  ptk : SuppPtk := clearedPtk
  tptk : SuppPtk := clearedPtk
  ptkSet : Bool := false
  tptkSet : Bool := false
  tkToSet : Bool := false
  anonce : Nonce
  snonce : Nonce
  renewSnonce : Bool := false
  rxReplayCounter : BitVec 64 := 0
  rxReplayCounterSet : Bool := false
  msg3of4Ok : Bool := false
  wpaState : SuppState := .other
  history : List (SuppAct Nonce) := []

/-! ## Ciphers -/

/-- `wpa_cipher_rsc_len`. -/
def wpaCipherRscLen (cipher : ℕ) : ℕ := if wpaCipherValidPairwise cipher then 6 else 0

/-- The Michael keys of a TKIP key are exchanged. -/
def swapMichael (key : List UInt8) : List UInt8 :=
  key.take 16 ++ (key.drop 24).take 8 ++ (key.drop 16).take 8 ++ key.drop 32

namespace WpaSm

variable {Nonce Pmk : Type} [DecidableEq Nonce]

section

variable (p : SuppParams Nonce Pmk) (conf : SuppConfig) (env : SuppEnv Nonce Pmk) (sm : WpaSm Nonce Pmk)
  (key : SuppKey Nonce)

/-- Something is recorded. -/
def record (act : SuppAct Nonce) : WpaSm Nonce Pmk := { sm with history := act :: sm.history }

/-- `wpa_sm_deauthenticate`, after which the function returns. -/
def failed : WpaSm Nonce Pmk := sm.record .deauthenticated

/-- The protocols of RSN. -/
def rsnProto : Bool := conf.proto = .rsn || conf.proto = .osen

/-! ## Message 1 of 4 -/

/-- The PTK with the keys of the station's direction. -/
def stationPtk (ptk : SuppPtk) : SuppPtk :=
  if conf.pairwiseCipher = wpaCipherTkip then { ptk with tk := swapMichael ptk.tk } else ptk

/-- `wpa_supplicant_process_1_of_4` once the SNonce is there. -/
def deriveTptk : WpaSm Nonce Pmk :=
  let ptk := stationPtk conf (p.derivePtk sm.pmk sm.snonce key.keyNonce)
  let sm := { sm with
    tptk := ptk
    tptkSet := true
    tkToSet := true
    history := .derived ptk key.keyNonce sm.snonce :: sm.history }
  if env.sendFails then sm.failed
  else { sm.record (.sent .msg2of4 key.replayCounter) with anonce := key.keyNonce }

/-- The SNonce is renewed if it was used. -/
def renewedSnonce : Option (WpaSm Nonce Pmk) :=
  if sm.renewSnonce then env.random.map fun snonce => { sm with snonce := snonce, renewSnonce := false }
  else some sm

/-- `wpa_supplicant_process_1_of_4`. -/
def process1of4 (keyData : List UInt8) : WpaSm Nonce Pmk :=
  if env.networkCtx = false then sm
  else
    let sm := { sm with wpaState := .fourWayHandshake }
    if rsnProto conf ∧ (wpaSupplicantParseIes conf.build keyData).isNone then sm.failed
    else
      let sm := { sm with pmk := env.newPmk.getD sm.pmk }
      match env.getPmk with
      | .requestEap => sm
      | .failed => sm.failed
      | .ok =>
        match sm.renewedSnonce env with
        | none => sm.failed
        | some sm => sm.deriveTptk p conf env key

/-! ## Keys for the driver -/

/-- A function that returns 0 or -1, and the next one only if it was 0.  What the first one has done stays done. -/
def andThen (r : WpaSm Nonce Pmk × Bool) (next : WpaSm Nonce Pmk → WpaSm Nonce Pmk × Bool) : WpaSm Nonce Pmk × Bool :=
  if r.2 then next r.1 else r

/-- `wpa_supplicant_install_ptk`; the flag is set for 0. -/
def installPtk : WpaSm Nonce Pmk × Bool :=
  if sm.tkToSet = false then (sm, true)
  else if conf.pairwiseCipher = wpaCipherNone then (sm, true)
  else if ¬wpaCipherValidPairwise conf.pairwiseCipher then (sm, false)
  else if env.setPtkFails then (sm, false)
  else
    ({ sm with
      ptk := { sm.ptk with tk := zeroTk }
      tkToSet := false
      history := .installedPtk (sm.ptk.tk.take (wpaCipherKeyLen conf.pairwiseCipher)) :: sm.history }, true)

/-- `wpa_supplicant_check_group_cipher`. -/
def checkGroupCipher (keylen maxkeylen : ℕ) : Bool :=
  decide (wpaCipherValidPairwise conf.groupCipher ∨ wpaCipherValidMgmtGroup conf.groupCipher) &&
    decide (keylen = wpaCipherKeyLen conf.groupCipher) && decide (wpaCipherKeyLen conf.groupCipher ≤ maxkeylen)

/-- `wpa_supplicant_gtk_tx_bit_workaround`. -/
def gtkTxBitWorkaround (tx : Bool) : Bool := tx && decide (conf.pairwiseCipher = wpaCipherNone)

/-- The RSC that is used, after `wpa_supplicant_rsc_relaxation`. -/
def usedRsc : List UInt8 :=
  let rsc := key.keyRsc
  if conf.wpaRscRelaxation ∧ wpaCipherRscLen conf.groupCipher = 6 ∧
      ((rsc.getD 5 0 ≠ 0 ∧ rsc.getD 0 0 = 0) ∨ rsc.getD 6 0 ≠ 0 ∨ rsc.getD 7 0 ≠ 0) then
    List.replicate 8 0
  else rsc

/-- `wpa_supplicant_install_gtk`. -/
def installGtk (gd : SuppGtkData) : WpaSm Nonce Pmk × Bool :=
  let gtk := if conf.groupCipher = wpaCipherTkip then swapMichael gd.gtk else gd.gtk
  let tx := gd.tx || decide (conf.pairwiseCipher = wpaCipherNone)
  let rsc := (usedRsc conf key).take (wpaCipherRscLen conf.groupCipher)
  if env.setGtkFails then (sm, false) else (sm.record (.installedGtk gd.keyidx tx rsc gtk), true)

/-- `wpa_supplicant_key_neg_complete`. -/
def keyNegComplete (secure : Bool) : WpaSm Nonce Pmk :=
  let sm := { sm with wpaState := .completed }
  if secure then sm.record .portValid else sm

/-- The GTK KDE: the key identifier, the bit for transmission and the key. -/
def gtkOfKde (gtk : List UInt8) : SuppGtkData where
  tx := gtkTxBitWorkaround conf (decide (gtk.headD 0 &&& 4 ≠ 0))
  keyidx := (gtk.headD 0 &&& 3).toNat
  gtk := gtk.drop 2

/-- `wpa_supplicant_pairwise_gtk`. -/
def pairwiseGtk (gtk : List UInt8) : WpaSm Nonce Pmk × Bool :=
  if gtk.length < 2 ∨ 32 < gtk.length - 2 then (sm, false)
  else
    let r :=
      if conf.groupCipher = wpaCipherGtkNotUsed then (sm, true)
      else if checkGroupCipher conf (gtk.length - 2) (gtk.length - 2) = false then (sm, false)
      else sm.installGtk conf env key (gtkOfKde conf gtk)
    andThen r fun sm => (sm.keyNegComplete key.secure, true)

/-- `ieee80211w_set_keys`. -/
def ieee80211wSetKeys (ies : SuppIes) : WpaSm Nonce Pmk × Bool :=
  if ¬wpaCipherValidMgmtGroup conf.mgmtGroupCipher then (sm, true)
  else
    match ies .igtk with
    | none => (sm, true)
    | some igtk =>
      let keyid := (igtk.getD 0 0).toNat + 256 * (igtk.getD 1 0).toNat
      if igtk.length ≠ 8 + wpaCipherKeyLen conf.mgmtGroupCipher then (sm, false) -- WPA_IGTK_KDE_PREFIX_LEN
      else if 4095 < keyid then (sm, false)
      else if env.setIgtkFails then (sm, false)
      else (sm.record (.installedIgtk keyid ((igtk.drop 2).take 6) (igtk.drop 8)), true)

/-! ## Message 3 of 4 -/

/-- What `wpa_supplicant_process_3_of_4` checks before it replies. -/
def message3Ok (ies : SuppIes) : Bool :=
  decide (¬((ies .gtk).isSome ∧ key.encrKeyData = false) ∧ ¬((ies .igtk).isSome ∧ key.encrKeyData = false)) &&
    decide (¬((ies .igtk).isSome ∧ wpaCipherValidMgmtGroup conf.mgmtGroupCipher ∧
      ((ies .igtk).getD []).length ≠ 8 + wpaCipherKeyLen conf.mgmtGroupCipher)) &&
    env.validIe ies && decide (sm.anonce = key.keyNonce) &&
    decide (key.keyLength = wpaCipherKeyLen conf.pairwiseCipher)

/-- The GTK of message 3, if there is one to use. -/
def message3Gtk (ies : SuppIes) : WpaSm Nonce Pmk × Bool :=
  if conf.groupCipher = wpaCipherGtkNotUsed then (sm.keyNegComplete key.secure, true)
  else
    match ies .gtk with
    | none => (sm, true)
    | some gtk => sm.pairwiseGtk conf env key gtk

/-- The keys that message 3 brings are handed over. -/
def installKeys (ies : SuppIes) : WpaSm Nonce Pmk × Bool :=
  andThen (if key.install then sm.installPtk conf env else (sm, true)) fun sm =>
    let sm := if key.secure then sm.record .portValid else sm
    let sm := { sm with wpaState := .groupHandshake }
    andThen (sm.message3Gtk conf env key ies) fun sm => sm.ieee80211wSetKeys conf env ies

/-- `wpa_supplicant_process_3_of_4`. -/
def process3of4 (keyData : List UInt8) : WpaSm Nonce Pmk :=
  let sm := { sm with wpaState := .fourWayHandshake }
  match wpaSupplicantParseIes conf.build keyData with
  | none => sm.failed
  | some ies =>
    if sm.message3Ok conf env key ies = false then sm.failed
    else if env.sendFails then sm.failed
    else
      let r := { sm.record (.sent .msg4of4 key.replayCounter) with renewSnonce := true }.installKeys conf env key ies
      if r.2 then { r.1 with msg3of4Ok := true } else r.1.failed

/-! ## The group key handshake -/

/-- `wpa_supplicant_process_1_of_2_rsn`: the GTK; `none` is -1.  What becomes of the IGTK makes no difference. -/
def process1of2Rsn (keyData : List UInt8) : WpaSm Nonce Pmk × Option SuppGtkData :=
  match wpaSupplicantParseIes conf.build keyData with
  | none => (sm, none)
  | some ies =>
    match ies .gtk with
    | none => (sm, none)
    | some gtk =>
      if key.encrKeyData = false then (sm, none)
      else if checkGroupCipher conf (gtk.length - 2) (gtk.length - 2) = false then (sm, none)
      else if 32 < gtk.length - 2 then (sm, none)
      else ((sm.ieee80211wSetKeys conf env ies).1, some (gtkOfKde conf gtk))

/-- `wpa_supplicant_process_1_of_2_wpa`. -/
def process1of2Wpa (keyData : List UInt8) : Option SuppGtkData :=
  let keylen := key.keyLength
  let wraps := key.ver = 2 -- WPA_KEY_INFO_TYPE_HMAC_SHA1_AES
  let maxkeylen := if wraps then keyData.length - 8 else keyData.length
  let gd (gtk : List UInt8) : SuppGtkData :=
    ⟨gtkTxBitWorkaround conf key.install, key.keyIndex, gtk.take keylen⟩
  if wraps ∧ keyData.length < 8 then none
  else if maxkeylen < keylen ∨ checkGroupCipher conf keylen maxkeylen = false then none
  else if key.ver = 1 ∧ sm.ptk.kek.length = 16 then
    if 32 < keyData.length then none else some (gd (rc4Skip (key.keyIv ++ sm.ptk.kek) 256 keyData))
  else if wraps then
    if maxkeylen % 8 ≠ 0 ∨ 32 < maxkeylen then none
    else
      (aesUnwrap p.mem sm.ptk.kek (unitAt keyData, unitsOf (maxkeylen / 8) (keyData.drop 8))).map fun units =>
        gd (unitBytes units)
  else none

/-- `wpa_supplicant_process_1_of_2`. -/
def process1of2 (keyData : List UInt8) : WpaSm Nonce Pmk :=
  if sm.msg3of4Ok = false then sm.failed
  else
    let rekey := sm.wpaState = .completed
    let (sm, gd) :=
      if rsnProto conf then sm.process1of2Rsn conf env key keyData else (sm, sm.process1of2Wpa p conf key keyData)
    let sm := { sm with wpaState := .groupHandshake }
    match gd with
    | none => sm.failed
    | some gd =>
      let r := andThen (sm.installGtk conf env key gd) fun sm =>
        if env.sendFails then (sm, false) else (sm.record (.sent .msg2of2 key.replayCounter), true)
      if r.2 = false then r.1.failed
      else if rekey then { r.1 with wpaState := .completed }
      else r.1.keyNegComplete key.secure

/-! ## Frames -/

/-- The checks of the version in `wpa_sm_rx_eapol`. -/
def versionOk : Bool :=
  let suiteB := wpaKeyMgmtSuiteB conf.keyMgmt
  let osen := decide (conf.keyMgmt = wpaKeyMgmtOsen)
  if key.ver ≠ 1 ∧ key.ver ≠ 3 ∧ key.ver ≠ 2 ∧ suiteB = false ∧ osen = false then false
  else if osen ∧ key.ver ≠ 0 then false
  else if suiteB ∧ key.ver ≠ 0 then false
  else if wpaKeyMgmtFt conf.keyMgmt then decide (key.ver = 3)
  else if wpaKeyMgmtSha256 conf.keyMgmt then decide (key.ver = 3) || osen || suiteB
  else if conf.pairwiseCipher = wpaCipherCcmp ∧ suiteB = false ∧ key.ver ≠ 2 then
    -- a version 1 frame may bring a group key that is not for CCMP
    decide (conf.groupCipher ≠ wpaCipherCcmp ∧ key.keyType = false) || decide (key.ver = 3)
  else decide (¬(conf.pairwiseCipher = wpaCipherGcmp ∧ suiteB = false ∧ key.ver ≠ 2))

/-- `wpa_supplicant_verify_eapol_key_mic`; `none` is -1. -/
def verifyEapolKeyMic : Option (WpaSm Nonce Pmk) :=
  let accept (sm : WpaSm Nonce Pmk) : WpaSm Nonce Pmk :=
    { sm with
      rxReplayCounter := key.replayCounter
      rxReplayCounterSet := true
      history := .accepted key.replayCounter :: sm.history }
  if sm.tptkSet ∧ p.eapolKeyMic sm.tptk.kck key = key.keyMic then
    some (accept { sm with
      ptk := sm.tptk
      ptkSet := true
      tptk := clearedPtk
      tptkSet := false
      history := .promoted sm.tptk :: sm.history })
  else if sm.ptkSet ∧ p.eapolKeyMic sm.ptk.kck key = key.keyMic then some (accept sm)
  else none

/-- The key data, after `wpa_supplicant_decrypt_key_data`; `none` is -1. -/
def plainKeyData : Option (List UInt8) :=
  if rsnProto conf ∧ key.encrKeyData then
    if sm.ptkSet = false then none
    else wpaSupplicantDecryptKeyData p.mem conf.keyMgmt key.ver sm.ptk.kek key.keyIv key.keyData
  else some key.keyData

/-- What `wpa_sm_rx_eapol` does with the key data of a frame that is not dropped. -/
def processKey (keyData : List UInt8) : WpaSm Nonce Pmk :=
  if key.keyType then
    if key.keyIndex ≠ 0 then sm
    else if key.mic then sm.process3of4 conf env key keyData
    else sm.process1of4 p conf env key keyData
  else if key.smkMessage then sm
  else if key.mic then sm.process1of2 p conf env key keyData
  else sm

/-- `wpa_sm_rx_eapol`, once the lengths are checked. -/
def rxEapol : WpaSm Nonce Pmk :=
  if versionOk conf key = false then sm
  else if sm.rxReplayCounterSet ∧ key.replayCounter ≤ sm.rxReplayCounter then sm
  else if key.ack = false ∧ key.smkMessage = false then sm
  else if key.request then sm
  else
    match if key.mic then sm.verifyEapolKeyMic p key else some sm with
    | none => sm
    | some sm =>
      match sm.plainKeyData p conf key with
      | none => sm
      | some keyData => sm.processKey p conf env key keyData

/-! ## Other events -/

/-- The PTK and the TPTK are forgotten. -/
def clearPtk : WpaSm Nonce Pmk :=
  { sm with
    ptk := clearedPtk
    ptkSet := false
    tptk := clearedPtk
    tptkSet := false
    history := .cleared :: sm.history }

/-- `wpa_sm_notify_assoc`. -/
def notifyAssoc : WpaSm Nonce Pmk :=
  { sm with
    rxReplayCounter := 0
    rxReplayCounterSet := false
    renewSnonce := true
    history := .replayReset :: sm.history }.clearPtk

/-- `wpa_sm_drop_sa`; `zeroPmk` is a PMK of zeros. -/
def dropSa (zeroPmk : Pmk) : WpaSm Nonce Pmk := { sm.clearPtk with pmk := zeroPmk }

/-- `wpa_sm_notify_disassoc`. -/
def notifyDisassoc (zeroPmk : Pmk) : WpaSm Nonce Pmk := { sm.dropSa zeroPmk with msg3of4Ok := false }

end

end WpaSm

/-- What can happen to the machine. -/
inductive SuppCall (Nonce Pmk : Type)
  | rxEapol (env : SuppEnv Nonce Pmk) (key : SuppKey Nonce)
  | notifyAssoc
  | dropSa (zeroPmk : Pmk)
  | notifyDisassoc (zeroPmk : Pmk)
  /-- `wpa_sm_set_pmk`. -/
  | setPmk (pmk : Pmk)
  /-- `wpa_sm_set_state` from outside. -/
  | setState (state : SuppState)

variable {Nonce Pmk : Type} [DecidableEq Nonce]

/-- One call. -/
def suppNext (p : SuppParams Nonce Pmk) (conf : SuppConfig) (sm : WpaSm Nonce Pmk) :
    SuppCall Nonce Pmk → Option (WpaSm Nonce Pmk)
  | .rxEapol env key => some (sm.rxEapol p conf env key)
  | .notifyAssoc => some sm.notifyAssoc
  | .dropSa zeroPmk => some (sm.dropSa zeroPmk)
  | .notifyDisassoc zeroPmk => some (sm.notifyDisassoc zeroPmk)
  | .setPmk pmk => some { sm with pmk := pmk }
  | .setState state => some { sm with wpaState := state }

end Ethanol
