import EthanolHostapd.Wire.Buffer
import EthanolHostapd.Wire.ElementLoop
import EthanolHostapd.Wire.LittleEndian
import EthanolHostapd.Ap.MgmtFrame

/-!
# WNM action frames

The handlers of `wnm_ap.c`, with the subelements of a notification in `mbo_ap.c`.  There is no result if a byte outside the
frame is read or a byte outside the buffer of a sleep mode response is written.
-/

namespace Ethanol

open Wire

/-! ## The code -/

/-- `struct mbo_non_pref_chan_info`. -/
structure MboNonPrefChanInfo where
  opClass : UInt8
  pref : UInt8
  reasonCode : UInt8
  channels : List UInt8

/-- What a notification changes of a `struct sta_info`. -/
structure MboSta where
  cellCapa : UInt8
  nonPrefChan : List MboNonPrefChanInfo

/-- `WPA_GTK_MAX_LEN` and `WPA_IGTK_MAX_LEN`. -/
def wpaGtkMaxLen : ℕ := 32

/-- A group key. -/
abbrev GroupKey : Type := { key : List UInt8 // key.length ≤ wpaGtkMaxLen }

/-- What is read of a station and of its group; a sequence number is there if `wpa_auth_get_seqnum` succeeds. -/
structure WnmSta where
  usesMfp : Bool
  gn : ℕ
  gtk : GroupKey
  gtkSeq : Option (Vector UInt8 8)
  gnIgtk : ℕ
  igtk : GroupKey
  igtkSeq : Option (Vector UInt8 6)
  mbo : MboSta

/-- `MAX_TFS_IE_LEN`. -/
def maxTfsIeLen : ℕ := 1024

/-- What is read of a `struct hostapd_data`: `sta` is `ap_get_sta`, `getTfs` are the elements that the driver returns for a
station that enters the sleep mode or does not. -/
structure WnmAp where
  mboEnabled : Bool
  ownAddr : MacAddr
  sta : MacAddr → Option WnmSta
  getTfs : MacAddr → Bool → Option { ie : List UInt8 // ie.length ≤ maxTfsIeLen }

/-- What is done with a frame. -/
inductive WnmResult
  | ignored
  | bssTransMgmtQuery (dialogToken reason : UInt8) (candidates : List UInt8)
  | bssTransMgmtResp (dialogToken statusCode bssTerminationDelay : UInt8) (target : Option MacAddr)
      (candidates : List UInt8)
  | sleepMode (tfsReq : Option (List UInt8)) (resp : Option (List UInt8)) (tfsDel : Bool)
  | notification (dialogToken type : UInt8) (sta : Option MboSta)

/-! ### The sleep mode response -/

/-- `WLAN_EID_WNMSLEEP`. -/
def wlanEidWnmsleep : UInt8 := 93

/-- `WLAN_EID_TFS_REQ`. -/
def wlanEidTfsReq : UInt8 := 91

/-- `WNM_SLEEP_MODE_ENTER`. -/
def wnmSleepModeEnter : UInt8 := 0

/-- `WNM_SLEEP_MODE_EXIT`. -/
def wnmSleepModeExit : UInt8 := 1

/-- `sizeof(struct wnm_sleep_element)`. -/
def wnmsleepIeLen : ℕ := 6

/-- `MAX_GTK_SUBELEM_LEN`. -/
def maxGtkSubelemLen : ℕ := 45

/-- `MAX_IGTK_SUBELEM_LEN`. -/
def maxIgtkSubelemLen : ℕ := 26

/-- The size of the buffer of a response. -/
def wnmSleepRespSize : ℕ := ieee80211MgmtLen + wnmsleepIeLen + maxGtkSubelemLen + maxIgtkSubelemLen

/-- Where `u.action.u.wnm_sleep_resp.variable` is. -/
def wnmSleepRespVariable : ℕ := ieee80211Hdrlen + 1 + 4

/-- `wpa_wnmsleep_gtk_subelem`: what is written, and the length that is returned. -/
def WnmSta.wpaWnmsleepGtkSubelem (sta : WnmSta) : List UInt8 × ℕ :=
  let start := [0, UInt8.ofNat (11 + sta.gtk.1.length)] ++ (leBytes 2 (sta.gn % 4) ++ [UInt8.ofNat sta.gtk.1.length])
  match sta.gtkSeq with
  | none => (start, 0)
  | some seq => (start ++ (seq.toList ++ sta.gtk.1), 5 + (8 + sta.gtk.1.length))

/-- `wpa_wnmsleep_igtk_subelem`: what is written, and the length that is returned. -/
def WnmSta.wpaWnmsleepIgtkSubelem (sta : WnmSta) : List UInt8 × ℕ :=
  let start := [1, UInt8.ofNat (2 + 6 + sta.igtk.1.length)] ++ leBytes 2 sta.gnIgtk
  match sta.igtkSeq with
  | none => (start, 0)
  | some seq => (start ++ (seq.toList ++ sta.igtk.1), 4 + (6 + sta.igtk.1.length))

/-- The key data of the response. -/
def WnmSta.writeKeyData (sta : WnmSta) (actionType : UInt8) (mgmt : List UInt8) : Option (List UInt8 × ℕ) :=
  if sta.usesMfp = false ∨ actionType ≠ wnmSleepModeExit then some (mgmt, 0)
  else do
    let gtk := sta.wpaWnmsleepGtkSubelem
    let mgmt ← Buffer.write mgmt wnmSleepRespVariable gtk.1
    let igtk := sta.wpaWnmsleepIgtkSubelem
    let mgmt ← Buffer.write mgmt (wnmSleepRespVariable + gtk.2) igtk.1
    let mgmt ← Buffer.write mgmt (wnmSleepRespVariable - 2) (leBytes 2 (gtk.2 + igtk.2))
    pure (mgmt, gtk.2 + igtk.2)

namespace WnmAp

variable (hapd : WnmAp)

/-- The header of the response and the fields in front of the key data. -/
def wnmSleepRespHeader (addr : MacAddr) (dialogToken : UInt8) : List UInt8 :=
  [0xd0, 0, 0, 0] ++ (addr.toList ++ (hapd.ownAddr.toList ++ (hapd.ownAddr.toList ++
    [0, 0, 10, 17, dialogToken, 0, 0]))) -- WLAN_ACTION_WNM, WNM_SLEEP_MODE_RESP

/-- `ieee802_11_send_wnmsleep_resp`: the frame that is handed to the driver, if the station is found. -/
def ieee80211SendWnmsleepResp (addr : MacAddr) (dialogToken actionType : UInt8) (intval : ℕ) :
    Option (Option (List UInt8)) :=
  match hapd.sta addr with
  | none => some none
  | some sta => do
    let tfs := (hapd.getTfs addr (actionType = wnmSleepModeEnter)).elim [] Subtype.val
    let mgmt ← Buffer.write (List.replicate wnmSleepRespSize 0) 0 (hapd.wnmSleepRespHeader addr dialogToken)
    let (mgmt, keydataLen) ← sta.writeKeyData actionType mgmt
    let mgmt ← Buffer.write mgmt (wnmSleepRespVariable + keydataLen)
      ([wlanEidWnmsleep, UInt8.ofNat (wnmsleepIeLen - 2), actionType, 0] ++ leBytes 2 intval)
    let mgmt ← Buffer.write mgmt (wnmSleepRespVariable + keydataLen + wnmsleepIeLen) tfs
    let sent ← Buffer.read mgmt ieee80211Hdrlen (1 + 4 + keydataLen + wnmsleepIeLen + tfs.length)
    pure (some sent)

end WnmAp

/-! ### The sleep mode request -/

/-- The pointers of `ieee802_11_rx_wnmsleep_req`; that of the sleep mode element is to its body. -/
structure WnmsleepIes where
  wnmsleepIe : Option ℕ := none
  tfsreqIeStart : Option ℕ := none
  tfsreqIeEnd : Option ℕ := none

/-- The loop over the elements of a request. -/
def wnmsleepElement : ElementBody WnmsleepIes := fun id off _ ies =>
  if id = wlanEidWnmsleep then some (some { ies with wnmsleepIe := some off })
  else if id = wlanEidTfsReq then
    some (some { ies with
      tfsreqIeStart := some (ies.tfsreqIeStart.getD (off - 2))
      tfsreqIeEnd := some (off - 2) })
  else some (some ies)

/-- The consecutive TFS requests that are passed to the driver when the sleep mode is entered. -/
def WnmsleepIes.tfsReq (ies : WnmsleepIes) (actionType : UInt8) (frame : List UInt8) : Option (Option (List UInt8)) :=
  match ies.tfsreqIeStart, ies.tfsreqIeEnd with
  | some start, some stop =>
    if actionType = wnmSleepModeEnter ∧ start ≤ stop then
      (frame[stop + 1]?).bind fun len => (Buffer.read frame start (stop + len.toNat + 2 - start)).map some
    else some none
  | _, _ => some none

/-- `ieee802_11_rx_wnmsleep_req`, for the bytes of the frame from `frm` on. -/
def WnmAp.ieee80211RxWnmsleepReq (hapd : WnmAp) (addr : MacAddr) (frame : List UInt8) (frm : ℕ) : Option WnmResult := do
  let dialogToken ← frame[frm]?
  let ies ← elementLoop wnmsleepElement frame frame.length (frm + 1) {}
  match (ies.getD {}).wnmsleepIe with
  | none => pure .ignored
  | some ie =>
    let actionType ← frame[ie]?
    let tfsReq ← (ies.getD {}).tfsReq actionType frame
    let intval ← Buffer.read frame (ie + 2) 2
    let resp ← hapd.ieee80211SendWnmsleepResp addr dialogToken actionType (leNat intval)
    pure (.sleepMode tfsReq resp (actionType = wnmSleepModeExit))

/-! ### BSS transition -/

/-- `ieee802_11_rx_bss_trans_mgmt_query`. -/
def ieee80211RxBssTransMgmtQuery (frame : List UInt8) (frm : ℕ) : Option WnmResult :=
  if frame.length - frm < 2 then some .ignored
  else do
    let dialogToken ← frame[frm]?
    let reason ← frame[frm + 1]?
    let candidates ← Buffer.read frame (frm + 2) (frame.length - (frm + 2))
    pure (.bssTransMgmtQuery dialogToken reason candidates)

/-- `ieee802_11_rx_bss_trans_mgmt_resp`. -/
def ieee80211RxBssTransMgmtResp (frame : List UInt8) (frm : ℕ) : Option WnmResult :=
  if frame.length - frm < 3 then some .ignored
  else do
    let dialogToken ← frame[frm]?
    let statusCode ← frame[frm + 1]?
    let bssTerminationDelay ← frame[frm + 2]?
    if statusCode = 0 then -- WNM_BSS_TM_ACCEPT
      if frame.length - (frm + 3) < 6 then pure .ignored
      else
        let target ← macAddrAt frame (frm + 3)
        let candidates ← Buffer.read frame (frm + 9) (frame.length - (frm + 9))
        pure (.bssTransMgmtResp dialogToken statusCode bssTerminationDelay (some target) candidates)
    else
      let candidates ← Buffer.read frame (frm + 3) (frame.length - (frm + 3))
      pure (.bssTransMgmtResp dialogToken statusCode bssTerminationDelay none candidates)

/-! ### Notifications -/

/-- `mbo_ap_parse_non_pref_chan`, for the `len` bytes from `buf` on. -/
def mboApParseNonPrefChan (frame : List UInt8) (buf len : ℕ) (sta : MboSta) : Option MboSta :=
  if len ≤ 3 then some sta
  else do
    let opClass ← frame[buf]?
    let pref ← frame[buf + (len - 2)]?
    let reasonCode ← frame[buf + (len - 1)]?
    let channels ← Buffer.read frame (buf + 1) (len - 3)
    pure { sta with nonPrefChan := sta.nonPrefChan ++ [⟨opClass, pref, reasonCode, channels⟩] }

/-- `mbo_ap_wnm_notif_req_cell_capa`. -/
def mboApWnmNotifReqCellCapa (frame : List UInt8) (buf len : ℕ) (sta : MboSta) : Option MboSta :=
  if len < 1 then some sta else (frame[buf]?).map fun cellCapa => { sta with cellCapa }

/-- `mbo_ap_wnm_notif_req_elem`; the second part of the state is `first_non_pref_chan`. -/
def mboApWnmNotifReqElem (frame : List UInt8) (type : UInt8) (buf len : ℕ) (st : MboSta × Bool) :
    Option (MboSta × Bool) :=
  if type = 2 then -- WFA_WNM_NOTIF_SUBELEM_NON_PREF_CHAN_REPORT
    (mboApParseNonPrefChan frame buf len (if st.2 then { st.1 with nonPrefChan := [] } else st.1)).map fun sta =>
      (sta, false)
  else if type = 3 then -- WFA_WNM_NOTIF_SUBELEM_CELL_DATA_CAPA
    (mboApWnmNotifReqCellCapa frame buf len st.1).map fun sta => (sta, st.2)
  else some st

/-- The loop over the subelements of a notification. -/
def mboNotifElement (frame : List UInt8) : ElementBody (MboSta × Bool) := fun id off len st =>
  if id = 221 ∧ 4 ≤ len.toNat then -- WLAN_EID_VENDOR_SPECIFIC
    (Buffer.read frame off 3).bind fun oui =>
      if oui = [0x50, 0x6f, 0x9a] then -- OUI_WFA
        (frame[off + 3]?).bind fun type =>
          (mboApWnmNotifReqElem frame type (off + 4) (len.toNat - 4) st).map some
      else some (some st)
  else some (some st)

/-- `mbo_ap_wnm_notification_req`, for the bytes of the frame from `buf` on. -/
def WnmAp.mboApWnmNotificationReq (hapd : WnmAp) (addr : MacAddr) (frame : List UInt8) (buf : ℕ) :
    Option (Option MboSta) :=
  if hapd.mboEnabled = false then some none
  else
    match hapd.sta addr with
    | none => some none
    | some sta =>
      (elementLoop (mboNotifElement frame) frame frame.length buf (sta.mbo, true)).map fun r => r.map Prod.fst

/-- `ieee802_11_rx_wnm_notification_req`. -/
def WnmAp.ieee80211RxWnmNotificationReq (hapd : WnmAp) (addr : MacAddr) (frame : List UInt8) (buf : ℕ) :
    Option WnmResult :=
  if frame.length - buf < 2 then some .ignored
  else do
    let dialogToken ← frame[buf]?
    let type ← frame[buf + 1]?
    if type = 221 then
      let sta ← hapd.mboApWnmNotificationReq addr frame (buf + 2)
      pure (.notification dialogToken type sta)
    else pure (.notification dialogToken type none)

/-- `ieee802_11_rx_wnm_action_ap`. -/
def WnmAp.ieee80211RxWnmActionAp (hapd : WnmAp) (frame : List UInt8) : Option WnmResult :=
  if frame.length < ieee80211Hdrlen + 2 then some .ignored
  else do
    let action ← frame[ieee80211Hdrlen + 1]?
    let addr ← macAddrAt frame 10
    if action = 6 then -- WNM_BSS_TRANS_MGMT_QUERY
      ieee80211RxBssTransMgmtQuery frame (ieee80211Hdrlen + 2)
    else if action = 8 then -- WNM_BSS_TRANS_MGMT_RESP
      ieee80211RxBssTransMgmtResp frame (ieee80211Hdrlen + 2)
    else if action = 16 then -- WNM_SLEEP_MODE_REQ
      hapd.ieee80211RxWnmsleepReq addr frame (ieee80211Hdrlen + 2)
    else if action = 26 then -- WNM_NOTIFICATION_REQ
      hapd.ieee80211RxWnmNotificationReq addr frame (ieee80211Hdrlen + 2)
    else pure .ignored

/-! ## When the response fits -/

/-- The length of the key data of a response. -/
def WnmSta.keydataLen (sta : WnmSta) (actionType : UInt8) : ℕ :=
  if sta.usesMfp = false ∨ actionType ≠ wnmSleepModeExit then 0
  else (if sta.gtkSeq.isSome then 13 + sta.gtk.1.length else 0) + (if sta.igtkSeq.isSome then 10 + sta.igtk.1.length else 0)

/-- The key data, the sleep mode element and the elements of the driver have room in the buffer. -/
def WnmAp.RespFits (hapd : WnmAp) (addr : MacAddr) (actionType : UInt8) : Prop :=
  ∀ sta, hapd.sta addr = some sta →
    wnmSleepRespVariable + sta.keydataLen actionType + wnmsleepIeLen +
      ((hapd.getTfs addr (actionType = wnmSleepModeEnter)).elim [] Subtype.val).length ≤ wnmSleepRespSize

section Resp

variable (sta : WnmSta)

lemma length_wpaWnmsleepGtkSubelem :
    sta.wpaWnmsleepGtkSubelem.2 = (if sta.gtkSeq.isSome then 13 + sta.gtk.1.length else 0) ∧
      sta.wpaWnmsleepGtkSubelem.1.length ≤ 45 ∧ sta.wpaWnmsleepGtkSubelem.2 ≤ 45 := by
  have hkey : sta.gtk.1.length ≤ 32 := sta.gtk.2
  rw [WnmSta.wpaWnmsleepGtkSubelem]
  cases sta.gtkSeq with
  | none => exact ⟨rfl, by simp, Nat.zero_le 45⟩
  | some seq =>
    simp only [List.length_append, List.length_cons, List.length_nil, length_leBytes, Vector.length_toList,
      Option.isSome_some, if_true]
    omega

lemma length_wpaWnmsleepIgtkSubelem :
    sta.wpaWnmsleepIgtkSubelem.2 = (if sta.igtkSeq.isSome then 10 + sta.igtk.1.length else 0) ∧
      sta.wpaWnmsleepIgtkSubelem.1.length ≤ 42 := by
  have hkey : sta.igtk.1.length ≤ 32 := sta.igtk.2
  rw [WnmSta.wpaWnmsleepIgtkSubelem]
  cases sta.igtkSeq with
  | none => exact ⟨rfl, by simp⟩
  | some seq =>
    simp only [List.length_append, List.length_cons, List.length_nil, length_leBytes, Vector.length_toList,
      Option.isSome_some, if_true]
    omega

/-- The key data alone has room in the buffer. -/
lemma writeKeyData_eq {mgmt : List UInt8} (actionType : UInt8) (hlength : mgmt.length = wnmSleepRespSize) :
    ∃ mgmt', sta.writeKeyData actionType mgmt = some (mgmt', sta.keydataLen actionType) ∧
      mgmt'.length = wnmSleepRespSize := by
  rw [WnmSta.writeKeyData, WnmSta.keydataLen]
  by_cases h : sta.usesMfp = false ∨ actionType ≠ wnmSleepModeExit
  · rw [if_pos h, if_pos h]
    exact ⟨mgmt, rfl, hlength⟩
  · rw [if_neg h, if_neg h]
    obtain ⟨hgtk, hgtkLength, hgtkLen⟩ := length_wpaWnmsleepGtkSubelem sta
    obtain ⟨higtk, higtkLength⟩ := length_wpaWnmsleepIgtkSubelem sta
    have hsize : wnmSleepRespSize = 117 := rfl
    have hstart : wnmSleepRespVariable = 29 := rfl
    obtain ⟨withGtk, hwriteGtk, hwithGtk⟩ := Buffer.exists_write
      (show wnmSleepRespVariable + sta.wpaWnmsleepGtkSubelem.1.length ≤ mgmt.length by omega)
    obtain ⟨withKeys, hwriteIgtk, hwithKeys⟩ := Buffer.exists_write
      (show wnmSleepRespVariable + sta.wpaWnmsleepGtkSubelem.2 + sta.wpaWnmsleepIgtkSubelem.1.length ≤ withGtk.length by
        omega)
    obtain ⟨mgmt', hwriteLen, hmgmt'⟩ := Buffer.exists_write
      (show wnmSleepRespVariable - 2 +
        (leBytes 2 (sta.wpaWnmsleepGtkSubelem.2 + sta.wpaWnmsleepIgtkSubelem.2)).length ≤ withKeys.length by
          rw [length_leBytes]
          omega)
    rw [← hgtk, ← higtk]
    simp only [Option.bind_eq_bind, hwriteGtk, hwriteIgtk, hwriteLen, Option.bind_some]
    exact ⟨mgmt', rfl, by omega⟩

variable (hapd : WnmAp) {addr : MacAddr}

/-- Exactly a response that fits is written inside its buffer. -/
lemma ieee80211SendWnmsleepResp_isSome_iff (dialogToken actionType : UInt8) (intval : ℕ) :
    (hapd.ieee80211SendWnmsleepResp addr dialogToken actionType intval).isSome = true ↔
      hapd.RespFits addr actionType := by
  rw [WnmAp.ieee80211SendWnmsleepResp, WnmAp.RespFits]
  cases hsta : hapd.sta addr with
  | none => simp
  | some sta =>
    simp only [Option.some.injEq, forall_eq']
    generalize (hapd.getTfs addr (decide (actionType = wnmSleepModeEnter))).elim [] Subtype.val = tfs
    have hsize : wnmSleepRespSize = 117 := rfl
    have hstart : wnmSleepRespVariable = 29 := rfl
    have hlen : wnmsleepIeLen = 6 := rfl
    have hhdr : ieee80211Hdrlen = 24 := rfl
    have hheader : (hapd.wnmSleepRespHeader addr dialogToken).length = wnmSleepRespVariable := by
      simp only [WnmAp.wnmSleepRespHeader, List.length_append, Vector.length_toList]
      rfl
    have hroom : 0 + (hapd.wnmSleepRespHeader addr dialogToken).length ≤
        (List.replicate wnmSleepRespSize (0 : UInt8)).length := by
      rw [List.length_replicate]
      omega
    obtain ⟨mgmt, hwriteHeader, hmgmt⟩ := Buffer.exists_write hroom
    obtain ⟨withKeys, hwriteKeys, hwithKeys⟩ := writeKeyData_eq sta actionType (hmgmt.trans List.length_replicate)
    have hie : ([wlanEidWnmsleep, UInt8.ofNat (wnmsleepIeLen - 2), actionType, 0] ++ leBytes 2 intval).length =
        wnmsleepIeLen := by
      rw [List.length_append, length_leBytes]
      rfl
    simp only [Option.bind_eq_bind, hwriteHeader, Option.bind_some, hwriteKeys, Buffer.isSome_bind_write_iff, hie]
    constructor
    · rintro ⟨hroomIe, hroomTfs, -⟩
      rw [Buffer.length_splice (by rw [hie]; exact hroomIe)] at hroomTfs
      omega
    · intro hfits
      have hroomIe : wnmSleepRespVariable + sta.keydataLen actionType + wnmsleepIeLen ≤ withKeys.length := by omega
      have hroomTfs : wnmSleepRespVariable + sta.keydataLen actionType + wnmsleepIeLen + tfs.length ≤
          (Buffer.splice withKeys (wnmSleepRespVariable + sta.keydataLen actionType)
            ([wlanEidWnmsleep, UInt8.ofNat (wnmsleepIeLen - 2), actionType, 0] ++ leBytes 2 intval)).length := by
        rw [Buffer.length_splice (by rw [hie]; exact hroomIe)]
        omega
      refine ⟨hroomIe, hroomTfs, Buffer.isSome_bind_read ?_ rfl⟩
      rw [Buffer.length_splice hroomTfs]
      omega

end Resp

/-! ## What is read of a request -/

/-- Where the body of the last sleep mode element from `pos` on is. -/
def lastWnmsleep (frame : List UInt8) (pos : ℕ) : Option ℕ :=
  (((located pos (walk (fun _ => false) (frame.drop pos)).1).filter fun p => p.2.id = wlanEidWnmsleep).getLast?).map
    Prod.fst

/-- The pointers after some of the elements. -/
structure WnmsleepIes.Of (ies : WnmsleepIes) (frame : List UInt8) (seen : List (ℕ × Element)) : Prop where
  wnmsleepIe : ies.wnmsleepIe = ((seen.filter fun p => p.2.id = wlanEidWnmsleep).getLast?).map Prod.fst
  tfsreqIeEnd : ∀ stop, ies.tfsreqIeEnd = some stop →
    ∃ len, frame[stop + 1]? = some len ∧ stop + 2 + len.toNat ≤ frame.length

section Req

variable {frame : List UInt8} {frm : ℕ}

lemma wnmsleepElement_spec {ies : WnmsleepIes} {seen : List (ℕ × Element)} {off : ℕ} {e : Element} (hoff : 2 ≤ off)
    (hlen : frame[off - 1]? = some e.len) (hend : off + e.body.length ≤ frame.length) (hies : ies.Of frame seen) :
    ∃ ies', wnmsleepElement e.id off e.len ies = some (some ies') ∧ ies'.Of frame (seen ++ [(off, e)]) := by
  obtain ⟨hie, hstop⟩ := hies
  rw [wnmsleepElement]
  by_cases hsleep : e.id = wlanEidWnmsleep
  · rw [if_pos hsleep]
    refine ⟨_, rfl, ?_, hstop⟩
    simp [List.filter_append, hsleep]
  · have hfilter : (seen ++ [(off, e)]).filter (fun p => p.2.id = wlanEidWnmsleep) =
        seen.filter fun p => p.2.id = wlanEidWnmsleep := by simp [List.filter_append, hsleep]
    rw [if_neg hsleep]
    by_cases htfs : e.id = wlanEidTfsReq
    · rw [if_pos htfs]
      refine ⟨_, rfl, by rw [hfilter]; exact hie, fun stop heq => ?_⟩
      obtain rfl := Option.some.inj heq
      refine ⟨e.len, by rw [show off - 2 + 1 = off - 1 by omega]; exact hlen, ?_⟩
      rw [Element.toNat_len]
      omega
    · rw [if_neg htfs]
      exact ⟨ies, rfl, by rw [hfilter]; exact hie, hstop⟩

/-- The loop over the elements of a request. -/
lemma wnmsleepLoop_spec (hfrm : frm ≤ frame.length) :
    ∃ ies, elementLoop wnmsleepElement frame frame.length frm {} = some (some ies) ∧
      ies.wnmsleepIe = lastWnmsleep frame frm ∧ ∀ actionType, (ies.tfsReq actionType frame).isSome = true := by
  have hinit : WnmsleepIes.Of {} frame [] := ⟨rfl, fun stop heq => by cases heq⟩
  obtain ⟨ies, hloop, hie, hstop⟩ := elementLoop_total (I := fun seen (ies : WnmsleepIes) => ies.Of frame seen) hfrm
    (fun seen off e ies hoff hlen hend => wnmsleepElement_spec (by omega) hlen hend) hinit
  refine ⟨ies, hloop, hie, fun actionType => ?_⟩
  rw [WnmsleepIes.tfsReq]
  split
  · next start stop _ heq =>
    obtain ⟨len, hlen, hend⟩ := hstop stop heq
    split_ifs with hle
    · rw [hlen, Option.bind_some, Option.isSome_map, Buffer.read_eq_some (by omega)]
      rfl
    · rfl
  · rfl

lemma ieee80211RxWnmsleepReq_isSome_iff (hapd : WnmAp) (addr : MacAddr) :
    (hapd.ieee80211RxWnmsleepReq addr frame frm).isSome = true ↔
      frm < frame.length ∧ ∀ ie, lastWnmsleep frame (frm + 1) = some ie →
        ie + 4 ≤ frame.length ∧ ∀ actionType, frame[ie]? = some actionType → hapd.RespFits addr actionType := by
  rw [WnmAp.ieee80211RxWnmsleepReq]
  by_cases hfrm : frm < frame.length
  · obtain ⟨ies, hloop, hie, htfs⟩ := wnmsleepLoop_spec (show frm + 1 ≤ frame.length from hfrm)
    rw [List.getElem?_eq_getElem hfrm, hloop, ← hie, and_iff_right hfrm]
    simp only [Option.bind_eq_bind, Option.bind_some, Option.getD_some]
    cases ies.wnmsleepIe with
    | none => simp
    | some ie =>
      simp only [Option.some.injEq, forall_eq']
      by_cases hend : ie + 4 ≤ frame.length
      · obtain ⟨tfsReq, heq⟩ := Option.isSome_iff_exists.mp (htfs frame[ie])
        rw [List.getElem?_eq_getElem (by omega), Option.bind_some, heq, Option.bind_some,
          Buffer.read_eq_some (by omega), Option.bind_some, and_iff_right hend]
        simp only [Option.some.injEq, forall_eq']
        rw [← ieee80211SendWnmsleepResp_isSome_iff hapd frame[frm] frame[ie] (leNat (Buffer.window frame (ie + 2) 2))]
        cases hapd.ieee80211SendWnmsleepResp addr frame[frm] frame[ie] (leNat (Buffer.window frame (ie + 2) 2)) with
        | none => rfl
        | some resp => rfl
      · -- the action type or the interval is behind the end of the frame
        rw [iff_false_right (fun hin => hend hin.1), Bool.not_eq_true, Option.isSome_eq_false_iff, Option.isNone_iff_eq_none]
        cases frame[ie]? with
        | none => rfl
        | some actionType =>
          obtain ⟨tfsReq, heq⟩ := Option.isSome_iff_exists.mp (htfs actionType)
          rw [Option.bind_some, heq, Option.bind_some, Buffer.read, if_neg (by omega)]
          rfl
  · rw [List.getElem?_eq_none (by omega)]
    simp [hfrm]

/-! ### The other handlers -/

lemma ieee80211RxBssTransMgmtQuery_isSome : (ieee80211RxBssTransMgmtQuery frame frm).isSome = true := by
  rw [ieee80211RxBssTransMgmtQuery]
  split_ifs with hshort
  · rfl
  · rw [List.getElem?_eq_getElem (by omega), List.getElem?_eq_getElem (by omega), Buffer.read_eq_some (by omega)]
    rfl

lemma ieee80211RxBssTransMgmtResp_isSome : (ieee80211RxBssTransMgmtResp frame frm).isSome = true := by
  rw [ieee80211RxBssTransMgmtResp]
  by_cases hshort : frame.length - frm < 3
  · rw [if_pos hshort]
    rfl
  · rw [if_neg hshort, List.getElem?_eq_getElem (by omega), List.getElem?_eq_getElem (by omega),
      List.getElem?_eq_getElem (by omega)]
    simp only [Option.bind_eq_bind, Option.bind_some]
    split_ifs
    · rfl
    · obtain ⟨target, htarget⟩ := macAddrAt_eq_some (show frm + 3 + 6 ≤ frame.length by omega)
      rw [htarget, Buffer.read_eq_some (by omega)]
      rfl
    · rw [Buffer.read_eq_some (by omega)]
      rfl

section Subelements

variable {buf len : ℕ}

lemma mboApParseNonPrefChan_isSome (sta : MboSta) (h : buf + len ≤ frame.length) :
    (mboApParseNonPrefChan frame buf len sta).isSome = true := by
  rw [mboApParseNonPrefChan]
  split_ifs with hshort
  · rfl
  · rw [List.getElem?_eq_getElem (by omega), List.getElem?_eq_getElem (by omega),
      List.getElem?_eq_getElem (by omega), Buffer.read_eq_some (by omega)]
    rfl

lemma mboApWnmNotifReqCellCapa_isSome (sta : MboSta) (h : buf + len ≤ frame.length) :
    (mboApWnmNotifReqCellCapa frame buf len sta).isSome = true := by
  rw [mboApWnmNotifReqCellCapa]
  split_ifs with hshort
  · rfl
  · rw [List.getElem?_eq_getElem (by omega)]
    rfl

lemma mboApWnmNotifReqElem_isSome (type : UInt8) (st : MboSta × Bool) (h : buf + len ≤ frame.length) :
    (mboApWnmNotifReqElem frame type buf len st).isSome = true := by
  rw [mboApWnmNotifReqElem]
  by_cases hchan : type = 2
  · rw [if_pos hchan, Option.isSome_map]
    exact mboApParseNonPrefChan_isSome _ h
  rw [if_neg hchan]
  by_cases hcell : type = 3
  · rw [if_pos hcell, Option.isSome_map]
    exact mboApWnmNotifReqCellCapa_isSome _ h
  · rw [if_neg hcell]
    rfl

end Subelements

lemma mboNotifElement_total {off : ℕ} {e : Element} (st : MboSta × Bool) (hend : off + e.body.length ≤ frame.length) :
    ∃ st', mboNotifElement frame e.id off e.len st = some (some st') := by
  rw [mboNotifElement]
  split_ifs with hvendor
  · have hfour := hvendor.2
    rw [Element.toNat_len] at hfour ⊢
    rw [Buffer.read_eq_some (by omega), Option.bind_some]
    split_ifs
    · obtain ⟨st', hst'⟩ := Option.isSome_iff_exists.mp
        (mboApWnmNotifReqElem_isSome frame[off + 3] st (show off + 4 + (e.body.length - 4) ≤ frame.length by omega))
      rw [List.getElem?_eq_getElem (by omega), Option.bind_some, hst']
      exact ⟨st', rfl⟩
    · exact ⟨st, rfl⟩
  · exact ⟨st, rfl⟩

lemma ieee80211RxWnmNotificationReq_isSome (hapd : WnmAp) (addr : MacAddr) :
    (hapd.ieee80211RxWnmNotificationReq addr frame frm).isSome = true := by
  rw [WnmAp.ieee80211RxWnmNotificationReq]
  split_ifs with hshort
  · rfl
  · have hmbo : (hapd.mboApWnmNotificationReq addr frame (frm + 2)).isSome = true := by
      rw [WnmAp.mboApWnmNotificationReq]
      split_ifs
      · rfl
      · cases hapd.sta addr with
        | none => rfl
        | some sta =>
          obtain ⟨st, hloop, -⟩ : ∃ st, elementLoop (mboNotifElement frame) frame frame.length (frm + 2) (sta.mbo, true) =
              some (some st) ∧ True :=
            elementLoop_total (I := fun _ _ => True) (by omega) (fun _ off e st _ _ hend _ =>
              (mboNotifElement_total st hend).imp fun st' hst' => ⟨hst', trivial⟩) trivial
          simp only [hloop]
          rfl
    obtain ⟨sta, hsta⟩ := Option.isSome_iff_exists.mp hmbo
    rw [List.getElem?_eq_getElem (by omega), List.getElem?_eq_getElem (by omega)]
    simp only [Option.bind_eq_bind, Option.bind_some, hsta]
    split_ifs <;> rfl

end Req

/-! ## The action frames -/

/-- Only a request for the sleep mode is not always handled inside the frame and the buffer of the response.  It has to have a
dialog token, its last sleep mode element must not end less than four bytes behind where its body starts, and the
response has to fit. -/
theorem WnmAp.ieee80211RxWnmActionAp_isSome_iff (hapd : WnmAp) (frame : List UInt8) :
    (hapd.ieee80211RxWnmActionAp frame).isSome = true ↔
      (frame[ieee80211Hdrlen + 1]? = some 16 → ieee80211Hdrlen + 2 < frame.length ∧
        ∀ ie, lastWnmsleep frame (ieee80211Hdrlen + 3) = some ie → ie + 4 ≤ frame.length ∧
          ∀ actionType addr, frame[ie]? = some actionType → macAddrAt frame 10 = some addr →
            hapd.RespFits addr actionType) := by
  rw [WnmAp.ieee80211RxWnmActionAp]
  have hhdr : ieee80211Hdrlen = 24 := rfl
  split_ifs with hshort
  · rw [List.getElem?_eq_none (by omega)]
    simp
  · obtain ⟨addr, haddr⟩ := macAddrAt_eq_some (show 10 + 6 ≤ frame.length by omega)
    rw [List.getElem?_eq_getElem (by omega), haddr]
    simp only [Option.bind_eq_bind, Option.bind_some, Option.some.injEq]
    generalize frame[ieee80211Hdrlen + 1] = action
    by_cases hsleep : action = 16
    · obtain rfl := hsleep
      rw [if_neg (by decide), if_neg (by decide), if_pos rfl, ieee80211RxWnmsleepReq_isSome_iff]
      simp
    · simp only [hsleep, if_false, false_implies, iff_true]
      split_ifs
      · exact ieee80211RxBssTransMgmtQuery_isSome
      · exact ieee80211RxBssTransMgmtResp_isSome
      · exact ieee80211RxWnmNotificationReq_isSome hapd addr
      · rfl

/-- A short request without a dialog token, one whose sleep mode element is empty, and one that is answered with 83 bytes of
the driver. -/
lemma WnmAp.ieee80211RxWnmActionAp_outside :
    (⟨false, Vector.replicate 6 0, fun _ => none, fun _ _ => none⟩ : WnmAp).ieee80211RxWnmActionAp
        ([0xd0, 0] ++ List.replicate 22 0 ++ [10, 16]) = none ∧
      (⟨false, Vector.replicate 6 0, fun _ => none, fun _ _ => none⟩ : WnmAp).ieee80211RxWnmActionAp
        ([0xd0, 0] ++ List.replicate 22 0 ++ [10, 16, 1, 93, 0]) = none ∧
      (⟨false, Vector.replicate 6 0,
          fun _ => some ⟨false, 1, ⟨[], by decide⟩, none, 4, ⟨[], by decide⟩, none, ⟨0, []⟩⟩,
          fun _ _ => some ⟨List.replicate 83 0, by decide⟩⟩ : WnmAp).ieee80211RxWnmActionAp
        ([0xd0, 0] ++ List.replicate 22 0 ++ [10, 16, 1, 93, 4, 0, 0, 0, 0]) = none := by
  refine ⟨?_, ?_, ?_⟩ <;> decide +kernel

end Ethanol
