import EthanolHostapd.Ap.StaInfo
import EthanolHostapd.Wire.LittleEndian

/-!
# Fragments of a GAS response

`gas_serv.c` as far as a response goes that is too long for one frame: it is stored in a dialog of the station, and each
comeback request for the token of the dialog is answered with the next fragment.  The frames are those of `common/gas.c`.

On the wire the number of a fragment and the bit that says that there are more fragments share a byte.
-/

namespace Ethanol

open Wire

/-! ## The code -/

/-- `GAS_DIALOG_MAX`. -/
abbrev gasDialogMax : ℕ := 8

local instance neZero_gasDialogMax : NeZero gasDialogMax := ⟨by decide⟩

/-- `struct gas_dialog_info`. -/
structure GasDialogInfo where
  valid : Bool := false
  sdResp : List UInt8 := []
  dialogToken : UInt8 := 0
  sdRespPos : ℕ := 0
  sdFragId : UInt8 := 0
  prot : Bool := false

/-- What is read and written of `struct sta_info`. -/
structure GasSta where
  gasDialog : Option (Vector GasDialogInfo gasDialogMax)
  gasDialogNext : Fin gasDialogMax

/-- What is read and written of `struct hostapd_data`; `sta` are the stations that `ap_get_sta` finds. -/
structure GasServ where
  gasFragLimit : ℕ
  gasComebackDelay : ℕ
  sta : MacAddr → Option GasSta

/-- A frame that is handed to the driver, by `hostapd_drv_send_action` or `hostapd_drv_send_action_addr3_ap`. -/
structure GasSent where
  dest : MacAddr
  frame : List UInt8
  stdAddr3 : Bool

/-- `WLAN_PA_GAS_INITIAL_RESP`. -/
def wlanPaGasInitialResp : UInt8 := 11

/-- `WLAN_PA_GAS_COMEBACK_RESP`. -/
def wlanPaGasComebackResp : UInt8 := 13

/-- `gas_build_resp`. -/
def gasBuildResp (action dialogToken : UInt8) (statusCode : ℕ) (fragId : UInt8) (more : Bool) (comebackDelay : ℕ) :
    List UInt8 :=
  [4, action, dialogToken] ++ (leBytes 2 statusCode ++ -- WLAN_ACTION_PUBLIC
    ((if action = wlanPaGasComebackResp then [fragId ||| if more then 0x80 else 0] else []) ++ leBytes 2 comebackDelay))

/-- `gas_add_adv_proto_anqp`. -/
def gasAddAdvProtoAnqp (queryRespLenLimit : UInt8) (pameBi : Bool) : List UInt8 :=
  [108, 2, (queryRespLenLimit &&& 0x7f) ||| (if pameBi then 0x80 else 0), 0] -- WLAN_EID_ADV_PROTO

/-- `gas_anqp_build_initial_resp_buf`. -/
def gasAnqpBuildInitialRespBuf (dialogToken : UInt8) (statusCode comebackDelay : ℕ) (payload : List UInt8) :
    List UInt8 :=
  gasBuildResp wlanPaGasInitialResp dialogToken statusCode 0 false comebackDelay ++
    (gasAddAdvProtoAnqp 0x7f false ++ (leBytes 2 payload.length ++ payload))

/-- `gas_anqp_build_comeback_resp_buf`. -/
def gasAnqpBuildComebackRespBuf (dialogToken : UInt8) (statusCode : ℕ) (fragId : UInt8) (more : Bool)
    (comebackDelay : ℕ) (payload : List UInt8) : List UInt8 :=
  gasBuildResp wlanPaGasComebackResp dialogToken statusCode fragId more comebackDelay ++
    (gasAddAdvProtoAnqp 0x7f false ++ (leBytes 2 payload.length ++ payload))

/-- `is_multicast_ether_addr`. -/
def isMulticastEtherAddr (a : MacAddr) : Bool := a.toList.headD 0 &&& 1 ≠ 0

/-- `convert_to_protected_dual`, if the frame is to be protected. -/
def convertToProtectedDual (prot : Bool) (msg : List UInt8) : List UInt8 :=
  if prot then 9 :: msg.drop 1 else msg -- WLAN_ACTION_PROTECTED_DUAL

namespace GasServ

variable (hapd : GasServ)

/-- The station with other dialogs. -/
def setSta (addr : MacAddr) (sta : GasSta) : GasServ := { hapd with sta := Function.update hapd.sta addr (some sta) }

/-- The loop of `gas_dialog_create`: the first dialog that is not in use, from `i` on. -/
def findUnused (dialogs : Vector GasDialogInfo gasDialogMax) : ℕ → Fin gasDialogMax → Option (Fin gasDialogMax)
  | 0, _ => none
  | j + 1, i => if dialogs[i].valid then findUnused dialogs j (i + 1) else some i

/-- `gas_dialog_create` with the three assignments of `gas_serv_req_local_processing` behind it.  `staAdd` and `calloc`
say whether `ap_sta_add` and `os_calloc` succeed. -/
def gasDialogCreate (addr : MacAddr) (dialogToken : UInt8) (prot : Bool) (sdResp : List UInt8) (staAdd calloc : Bool) :
    GasServ × Bool :=
  match (hapd.sta addr).orElse fun _ => if staAdd then some ⟨none, 0⟩ else none with
  | none => (hapd, false)
  | some sta =>
    match sta.gasDialog.orElse fun _ => if calloc then some (Vector.replicate gasDialogMax {}) else none with
    | none => (hapd.setSta addr sta, false)
    | some dialogs =>
      match findUnused dialogs gasDialogMax sta.gasDialogNext with
      | none => (hapd.setSta addr { sta with gasDialog := some dialogs }, false)
      | some i =>
        let dia := { dialogs[i] with valid := true, dialogToken, prot, sdResp, sdRespPos := 0 }
        (hapd.setSta addr ⟨some (dialogs.set i dia), i + 1⟩, true)

/-- `gas_serv_dialog_find`: the index of the dialog. -/
def gasServDialogFind (addr : MacAddr) (dialogToken : UInt8) : Option (Fin gasDialogMax) :=
  (hapd.sta addr).bind fun sta => sta.gasDialog.bind fun dialogs =>
    (List.finRange gasDialogMax).find? fun i => dialogs[i].dialogToken = dialogToken && dialogs[i].valid

/-- A dialog of a station; it is cleared if there is none. -/
def dialog (addr : MacAddr) (i : Fin gasDialogMax) : GasDialogInfo :=
  (((hapd.sta addr).bind fun sta => sta.gasDialog).map fun dialogs => dialogs[i]).getD {}

/-- A dialog is overwritten. -/
def setDialog (addr : MacAddr) (i : Fin gasDialogMax) (dia : GasDialogInfo) : GasServ :=
  match hapd.sta addr with
  | none => hapd
  | some sta => hapd.setSta addr { sta with gasDialog := sta.gasDialog.map fun dialogs => dialogs.set i dia }

/-- `gas_serv_free_dialogs`. -/
def gasServFreeDialogs (staAddr : MacAddr) : GasServ :=
  match hapd.sta staAddr with
  | none => hapd
  | some sta =>
    match sta.gasDialog with
    | none => hapd
    | some dialogs =>
      if (List.finRange gasDialogMax).any fun i => dialogs[i].valid then hapd
      else hapd.setSta staAddr { sta with gasDialog := none }

/-- `gas_serv_req_local_processing` for the payload that has been built; `p2pSd` is `qi->p2p_sd`, with `CONFIG_P2P`. -/
def gasServReqLocalProcessing (sa : MacAddr) (dialogToken : UInt8) (buf : Option (List UInt8)) (p2pSd prot stdAddr3 : Bool)
    (staAdd calloc : Bool) : GasServ × Option GasSent :=
  match buf with
  | none => (hapd, none)
  | some buf =>
    if buf.length = 0 ∧ p2pSd then (hapd, none)
    else
      let send (txBuf : List UInt8) : Option GasSent := some ⟨sa, convertToProtectedDual prot txBuf, stdAddr3⟩
      if hapd.gasFragLimit < buf.length ∨ hapd.gasComebackDelay ≠ 0 then
        let comebackDelay := if hapd.gasComebackDelay ≠ 0 then hapd.gasComebackDelay else 1
        let (hapd, created) := hapd.gasDialogCreate sa dialogToken prot buf staAdd calloc
        if created then (hapd, send (gasAnqpBuildInitialRespBuf dialogToken 0 comebackDelay []))
        else (hapd, send (gasAnqpBuildInitialRespBuf dialogToken 1 0 [])) -- WLAN_STATUS_UNSPECIFIED_FAILURE
      else (hapd, send (gasAnqpBuildInitialRespBuf dialogToken 0 0 buf))

/-- `gas_serv_rx_gas_comeback_req`. -/
def gasServRxGasComebackReq (sa : MacAddr) (data : List UInt8) (prot stdAddr3 : Bool) : GasServ × Option GasSent :=
  match data with
  | [] => (hapd, none)
  | dialogToken :: _ =>
    let send (txBuf : List UInt8) : Option GasSent := some ⟨sa, convertToProtectedDual prot txBuf, stdAddr3⟩
    match hapd.gasServDialogFind sa dialogToken with
    | none =>
      if isMulticastEtherAddr sa then (hapd, none)
      else (hapd, send (gasAnqpBuildComebackRespBuf dialogToken 60 0 false 0 [])) -- WLAN_STATUS_NO_OUTSTANDING_GAS_REQ
    | some i =>
      let dia := hapd.dialog sa i
      let more := hapd.gasFragLimit < dia.sdResp.length - dia.sdRespPos
      let fragLen := if more then hapd.gasFragLimit else dia.sdResp.length - dia.sdRespPos
      let buf := (dia.sdResp.drop dia.sdRespPos).take fragLen
      let txBuf := gasAnqpBuildComebackRespBuf dialogToken 0 dia.sdFragId more 0 buf
      if more then
        (hapd.setDialog sa i { dia with sdFragId := dia.sdFragId + 1, sdRespPos := dia.sdRespPos + fragLen }, send txBuf)
      else ((hapd.setDialog sa i {}).gasServFreeDialogs sa, send txBuf) -- gas_serv_dialog_clear

end GasServ

/-- A request of a station: one that is processed locally, with the payload of its response, or one for the next
fragment. -/
inductive GasEvent
  | initialReq (sa : MacAddr) (dialogToken : UInt8) (buf : Option (List UInt8)) (p2pSd prot stdAddr3 : Bool)
      (staAdd calloc : Bool)
  | comebackReq (sa : MacAddr) (data : List UInt8) (prot stdAddr3 : Bool)

namespace GasServ

/-- A request is handled. -/
def handle (hapd : GasServ) : GasEvent → GasServ × Option GasSent
  | .initialReq sa dialogToken buf p2pSd prot stdAddr3 staAdd calloc =>
    hapd.gasServReqLocalProcessing sa dialogToken buf p2pSd prot stdAddr3 staAdd calloc
  | .comebackReq sa data prot stdAddr3 => hapd.gasServRxGasComebackReq sa data prot stdAddr3

/-- The state after some requests. -/
def run (hapd : GasServ) : List GasEvent → GasServ
  | [] => hapd
  | e :: es => (hapd.handle e).1.run es

/-- The server before any request. -/
def init (gasFragLimit gasComebackDelay : ℕ) : GasServ := ⟨gasFragLimit, gasComebackDelay, fun _ => none⟩

end GasServ

/-! ## What a station sees -/

/-- A comeback response as a station takes it from the frame. -/
structure ComebackResp where
  statusCode : ℕ
  fragId : ℕ
  more : Bool
  payload : List UInt8

/-- The fields of a frame. -/
def GasSent.comebackResp (sent : GasSent) : ComebackResp where
  statusCode := leNat ((sent.frame.drop 3).take 2)
  fragId := (sent.frame.getD 5 0).toNat % 128
  more := 128 ≤ (sent.frame.getD 5 0).toNat
  payload := sent.frame.drop 14

/-- A comeback request for a dialog. -/
def GasEvent.IsComeback (sa : MacAddr) (token : UInt8) : GasEvent → Bool
  | .comebackReq sa' (token' :: _) _ _ => sa' = sa && token' = token
  | _ => false

/-- A request that can open the dialog. -/
def GasEvent.IsInitial (sa : MacAddr) (token : UInt8) : GasEvent → Bool
  | .initialReq sa' token' _ _ _ _ _ _ => sa' = sa && token' = token
  | _ => false

namespace GasServ

/-- The fragments that are sent for a dialog. -/
def fragments (sa : MacAddr) (token : UInt8) : GasServ → List GasEvent → List ComebackResp
  | _, [] => []
  | hapd, e :: es =>
    (if e.IsComeback sa token then
      ((hapd.handle e).2.map GasSent.comebackResp).toList.filter fun resp => resp.statusCode = 0
    else []) ++ fragments sa token (hapd.handle e).1 es

end GasServ

/-- The fragments of a payload: the first ones while the dialog is still there, and else all of them. -/
structure Fragmented (limit : ℕ) (payload : List UInt8) (resps : List ComebackResp) (pending : Bool) : Prop where
  size : ∀ resp ∈ resps, resp.payload.length ≤ limit
  payload_eq : ∃ rest, resps.flatMap ComebackResp.payload ++ rest = payload ∧ (pending = false → rest = [])
  fragId : ∀ (j : ℕ) (resp : ComebackResp), resps[j]? = some resp → resp.fragId = j
  more : ∀ (j : ℕ) (resp : ComebackResp), resps[j]? = some resp →
    (resp.more = true ↔ j + 1 < resps.length ∨ pending = true)
  closed : pending = false → resps ≠ []

/-- What a station takes from a comeback response. -/
lemma comebackResp_frame (sa : MacAddr) (prot stdAddr3 : Bool) (token fragId : UInt8) (more : Bool)
    (payload : List UInt8) {statusCode : ℕ} (hstatus : statusCode < 256 ^ 2) :
    GasSent.comebackResp ⟨sa, convertToProtectedDual prot
        (gasAnqpBuildComebackRespBuf token statusCode fragId more 0 payload), stdAddr3⟩ =
      ⟨statusCode, (fragId ||| if more then 0x80 else 0).toNat % 128,
        128 ≤ (fragId ||| if more then 0x80 else 0).toNat, payload⟩ := by
  have hbytes : leNat [UInt8.ofNat statusCode, UInt8.ofNat (statusCode / 256)] = statusCode :=
    (leNat_leBytes 2 statusCode).trans (Nat.mod_eq_of_lt hstatus)
  cases prot with
  | false => exact congrArg (fun n => ComebackResp.mk n _ _ _) hbytes
  | true => exact congrArg (fun n => ComebackResp.mk n _ _ _) hbytes

/-! ## What a request does to the dialogs -/

/-- A dialog for a token. -/
def GasDialogInfo.For (dia : GasDialogInfo) (token : UInt8) : Prop := dia.dialogToken = token ∧ dia.valid = true

namespace GasServ

/-- A dialog that is not in use is cleared. -/
def Clean (hapd : GasServ) : Prop := ∀ sa i, (hapd.dialog sa i).valid = false → hapd.dialog sa i = {}

/-- The only change is that of one dialog. -/
def Changes (hapd hapd' : GasServ) (sa : MacAddr) (i : Fin gasDialogMax) (dia : GasDialogInfo) : Prop :=
  ∀ sa' j, hapd'.dialog sa' j = if sa' = sa ∧ j = i then dia else hapd.dialog sa' j

section Dialogs

variable {hapd hapd' : GasServ} {sa sa' : MacAddr} {token : UInt8} {i j : Fin gasDialogMax} {dia : GasDialogInfo}

/-- The search only looks at the dialogs. -/
lemma gasServDialogFind_eq (hapd : GasServ) (sa : MacAddr) (token : UInt8) :
    hapd.gasServDialogFind sa token = (List.finRange gasDialogMax).find? fun i =>
      (hapd.dialog sa i).dialogToken = token && (hapd.dialog sa i).valid := by
  have hnone : ((List.finRange gasDialogMax).find? fun _ => decide ((0 : UInt8) = token) && false) = none := by
    simp
  unfold gasServDialogFind dialog
  cases hapd.sta sa with
  | none => exact hnone.symm
  | some sta =>
    cases hdialogs : sta.gasDialog with
    | none =>
      simp only [Option.bind_some, hdialogs, Option.map_none, Option.getD_none, Option.bind_none]
      exact hnone.symm
    | some dialogs => simp only [Option.bind_some, hdialogs, Option.map_some, Option.getD_some]

lemma gasServDialogFind_some (h : hapd.gasServDialogFind sa token = some i) : (hapd.dialog sa i).For token := by
  rw [gasServDialogFind_eq] at h
  simpa [GasDialogInfo.For] using List.find?_some h

lemma gasServDialogFind_none (h : hapd.gasServDialogFind sa token = none) (i : Fin gasDialogMax) :
    ¬(hapd.dialog sa i).For token := by
  rw [gasServDialogFind_eq] at h
  simpa [GasDialogInfo.For] using List.find?_eq_none.mp h i (List.mem_finRange i)

lemma dialog_setSta (sta : GasSta) :
    (hapd.setSta sa sta).dialog sa' j =
      if sa' = sa then ((sta.gasDialog.map fun dialogs => dialogs[j]).getD {}) else hapd.dialog sa' j := by
  unfold dialog setSta
  by_cases h : sa' = sa
  · subst h
    simp
  · simp [h]

/-- Overwriting a dialog of a station that has dialogs. -/
lemma changes_setDialog (dia : GasDialogInfo) (hvalid : (hapd.dialog sa i).valid = true) :
    Changes hapd (hapd.setDialog sa i dia) sa i dia := by
  intro sa' j
  unfold setDialog
  cases hsta : hapd.sta sa with
  | none =>
    rw [dialog, hsta] at hvalid
    cases hvalid
  | some sta =>
    cases hdialogs : sta.gasDialog with
    | none =>
      rw [dialog, hsta, Option.bind_some, hdialogs] at hvalid
      cases hvalid
    | some dialogs =>
      have hold : hapd.dialog sa j = dialogs[j] := by simp [dialog, hsta, hdialogs]
      dsimp only
      rw [dialog_setSta]
      by_cases hsa : sa' = sa
      · subst hsa
        rw [if_pos rfl]
        by_cases hj : j = i
        · subst hj
          simp [hdialogs]
        · have hval : (i : ℕ) ≠ j := fun h => hj (Fin.ext h.symm)
          simp [hj, hold, hdialogs, Vector.getElem_set_ne _ _ hval]
      · simp [hsa]

/-- The dialogs are only freed if none of them is in use. -/
lemma dialog_gasServFreeDialogs (h : hapd.Clean) (sa : MacAddr) :
    (hapd.gasServFreeDialogs sa).dialog sa' j = hapd.dialog sa' j := by
  unfold gasServFreeDialogs
  cases hsta : hapd.sta sa with
  | none => rfl
  | some sta =>
    dsimp only
    cases hdialogs : sta.gasDialog with
    | none => rfl
    | some dialogs =>
      dsimp only
      split
      · rfl
      · next hunused =>
        rw [dialog_setSta]
        split
        · next hsa =>
          subst hsa
          have hold : hapd.dialog sa' j = dialogs[j] := by simp [dialog, hsta, hdialogs]
          have hvalid : (hapd.dialog sa' j).valid = false := by
            rw [hold]
            simpa using fun h => hunused (List.any_eq_true.mpr ⟨j, List.mem_finRange j, h⟩)
          rw [h sa' j hvalid]
          rfl
        · rfl

lemma Changes.clean (h : hapd.Clean) (hchange : Changes hapd hapd' sa i dia) (hdia : dia.valid = false → dia = {}) :
    hapd'.Clean := by
  intro sa' j hvalid
  rw [hchange] at hvalid ⊢
  split at hvalid
  · next hat =>
    rw [if_pos hat]
    exact hdia hvalid
  · next hat =>
    rw [if_neg hat]
    exact h sa' j hvalid

lemma findUnused_some {dialogs : Vector GasDialogInfo gasDialogMax} {n : ℕ} {k : Fin gasDialogMax}
    (h : findUnused dialogs n k = some i) : dialogs[i].valid = false := by
  induction n generalizing k with
  | zero => cases h
  | succ n ih =>
    rw [findUnused] at h
    split at h
    · exact ih h
    · next hunused =>
      obtain rfl := Option.some.inj h
      simpa using hunused

/-- Creating a dialog leaves the others as they are. -/
lemma gasDialogCreate_cases (h : hapd.Clean) (sa : MacAddr) (token : UInt8) (prot : Bool) (sdResp : List UInt8)
    (staAdd calloc : Bool) :
    (hapd.gasDialogCreate sa token prot sdResp staAdd calloc).1.gasFragLimit = hapd.gasFragLimit ∧
    (((hapd.gasDialogCreate sa token prot sdResp staAdd calloc).2 = false ∧
      ∀ sa' j, (hapd.gasDialogCreate sa token prot sdResp staAdd calloc).1.dialog sa' j = hapd.dialog sa' j) ∨
    ((hapd.gasDialogCreate sa token prot sdResp staAdd calloc).2 = true ∧ ∃ i, (hapd.dialog sa i).valid = false ∧
      Changes hapd (hapd.gasDialogCreate sa token prot sdResp staAdd calloc).1 sa i
        ⟨true, sdResp, token, 0, 0, prot⟩)) := by
  obtain ⟨sta, hsta⟩ : ∃ sta, sta = (hapd.sta sa).orElse fun _ => if staAdd then some ⟨none, 0⟩ else none := ⟨_, rfl⟩
  unfold gasDialogCreate
  rw [← hsta]
  cases sta with
  | none => exact ⟨rfl, Or.inl ⟨rfl, fun _ _ => rfl⟩⟩
  | some sta =>
    -- a new station has no dialogs, so both are read as cleared ones
    have hold (j : Fin gasDialogMax) : hapd.dialog sa j = (sta.gasDialog.map fun dialogs => dialogs[j]).getD {} := by
      unfold dialog
      cases hfound : hapd.sta sa with
      | none =>
        rw [hfound, Option.orElse_none] at hsta
        split at hsta
        · obtain rfl := Option.some.inj hsta
          rfl
        · cases hsta
      | some sta' =>
        rw [hfound, Option.orElse_some] at hsta
        obtain rfl := Option.some.inj hsta
        rfl
    dsimp only
    obtain ⟨dialogs, hdialogs⟩ : ∃ dialogs, dialogs =
        sta.gasDialog.orElse fun _ => if calloc then some (Vector.replicate gasDialogMax {}) else none := ⟨_, rfl⟩
    rw [← hdialogs]
    cases dialogs with
    | none =>
      refine ⟨rfl, Or.inl ⟨rfl, fun sa' j => ?_⟩⟩
      dsimp only
      rw [dialog_setSta]
      split
      · next hsa => rw [hsa, hold]
      · rfl
    | some dialogs =>
      have hread (j : Fin gasDialogMax) : hapd.dialog sa j = dialogs[j] := by
        rw [hold]
        cases hfound : sta.gasDialog with
        | none =>
          rw [hfound, Option.orElse_none] at hdialogs
          split at hdialogs
          · obtain rfl := Option.some.inj hdialogs
            simp
          · cases hdialogs
        | some dialogs' =>
          rw [hfound, Option.orElse_some] at hdialogs
          obtain rfl := Option.some.inj hdialogs
          rfl
      dsimp only
      cases hunused : findUnused dialogs gasDialogMax sta.gasDialogNext with
      | none =>
        refine ⟨rfl, Or.inl ⟨rfl, fun sa' j => ?_⟩⟩
        dsimp only
        rw [dialog_setSta]
        split
        · next hsa =>
          rw [hsa, hread]
          rfl
        · rfl
      | some i =>
        have hvalid : (hapd.dialog sa i).valid = false := by
          rw [hread]
          exact findUnused_some hunused
        have hcleared : dialogs[i] = {} := by rw [← hread, h sa i hvalid]
        refine ⟨rfl, Or.inr ⟨rfl, i, hvalid, fun sa' j => ?_⟩⟩
        dsimp only
        rw [dialog_setSta, hcleared]
        by_cases hsa : sa' = sa
        · subst hsa
          rw [if_pos rfl]
          by_cases hj : j = i
          · subst hj
            simp
          · have hval : (i : ℕ) ≠ j := fun h => hj (Fin.ext h.symm)
            simp [hj, hread, Vector.getElem_set_ne _ _ hval]
        · simp [hsa]

/-- What happens to a dialog that is found. -/
lemma comebackReq_some (h : hapd.Clean) (rest : List UInt8) (prot stdAddr3 : Bool)
    (hfind : hapd.gasServDialogFind sa token = some i) :
    let dia := hapd.dialog sa i
    let left := dia.sdResp.length - dia.sdRespPos
    let more : Bool := hapd.gasFragLimit < left
    let after := hapd.gasServRxGasComebackReq sa (token :: rest) prot stdAddr3
    after.1.gasFragLimit = hapd.gasFragLimit ∧
      Changes hapd after.1 sa i (if more then
        { dia with sdFragId := dia.sdFragId + 1, sdRespPos := dia.sdRespPos + hapd.gasFragLimit } else {}) ∧
      after.2 = some ⟨sa, convertToProtectedDual prot (gasAnqpBuildComebackRespBuf token 0 dia.sdFragId more 0
        ((dia.sdResp.drop dia.sdRespPos).take hapd.gasFragLimit)), stdAddr3⟩ := by
  have hvalid := (gasServDialogFind_some hfind).2
  have hlimit (dia : GasDialogInfo) : (hapd.setDialog sa i dia).gasFragLimit = hapd.gasFragLimit := by
    unfold setDialog
    split <;> rfl
  have hfree (hapd : GasServ) : (hapd.gasServFreeDialogs sa).gasFragLimit = hapd.gasFragLimit := by
    unfold gasServFreeDialogs
    split
    · rfl
    · split
      · rfl
      · split <;> rfl
  have hchange (dia : GasDialogInfo) := changes_setDialog dia hvalid
  dsimp only
  unfold gasServRxGasComebackReq
  simp only [hfind]
  by_cases hmore : hapd.gasFragLimit < (hapd.dialog sa i).sdResp.length - (hapd.dialog sa i).sdRespPos
  · simp only [hmore, if_true, decide_true]
    exact ⟨hlimit _, hchange _, trivial⟩
  · have hall : ((hapd.dialog sa i).sdResp.drop (hapd.dialog sa i).sdRespPos).take
        ((hapd.dialog sa i).sdResp.length - (hapd.dialog sa i).sdRespPos) =
          ((hapd.dialog sa i).sdResp.drop (hapd.dialog sa i).sdRespPos).take hapd.gasFragLimit := by
      rw [List.take_of_length_le (by rw [List.length_drop]), List.take_of_length_le (by rw [List.length_drop]; omega)]
    simp only [hmore, if_false, decide_false, hall]
    refine ⟨(hfree _).trans (hlimit _), fun sa' j => ?_, trivial⟩
    have hclean : (hapd.setDialog sa i {}).Clean := (hchange {}).clean h fun _ => rfl
    rw [dialog_gasServFreeDialogs hclean]
    exact hchange {} sa' j

/-- What a request does: it leaves the dialogs alone, it opens one that was not in use, or it asks for a fragment. -/
lemma handle_cases (h : hapd.Clean) (e : GasEvent) :
    (hapd.handle e).1.gasFragLimit = hapd.gasFragLimit ∧
      ((∀ sa' j, (hapd.handle e).1.dialog sa' j = hapd.dialog sa' j) ∧
          (∀ sa token, e.IsComeback sa token = true → hapd.gasServDialogFind sa token = none ∧
            ∀ sent ∈ (hapd.handle e).2, sent.comebackResp.statusCode ≠ 0) ∨
        (∃ sa token buf p2pSd prot stdAddr3 staAdd calloc i,
          e = .initialReq sa token (some buf) p2pSd prot stdAddr3 staAdd calloc ∧
          (hapd.dialog sa i).valid = false ∧ Changes hapd (hapd.handle e).1 sa i ⟨true, buf, token, 0, 0, prot⟩) ∨
        ∃ sa token rest prot stdAddr3 i, e = .comebackReq sa (token :: rest) prot stdAddr3 ∧
          hapd.gasServDialogFind sa token = some i) := by
  cases e with
  | initialReq sa token buf p2pSd prot stdAddr3 staAdd calloc =>
    have hnot (hapd' : GasServ × Option GasSent) : ∀ sa' token',
        (GasEvent.initialReq sa token buf p2pSd prot stdAddr3 staAdd calloc).IsComeback sa' token' = true →
          hapd.gasServDialogFind sa' token' = none ∧ ∀ sent ∈ hapd'.2, sent.comebackResp.statusCode ≠ 0 :=
      fun _ _ hfalse => nomatch hfalse
    unfold handle gasServReqLocalProcessing
    cases buf with
    | none => exact ⟨rfl, Or.inl ⟨fun _ _ => rfl, hnot (hapd, none)⟩⟩
    | some buf =>
      dsimp only
      split
      · exact ⟨rfl, Or.inl ⟨fun _ _ => rfl, hnot (hapd, none)⟩⟩
      · split
        · obtain ⟨hlimit, ⟨hcreated, hsame⟩ | ⟨hcreated, i, hunused, hchange⟩⟩ :=
            gasDialogCreate_cases h sa token prot buf staAdd calloc
          · rw [hcreated]
            exact ⟨hlimit, Or.inl ⟨hsame, hnot (_, _)⟩⟩
          · rw [hcreated]
            exact ⟨hlimit, Or.inr (Or.inl ⟨sa, token, buf, p2pSd, prot, stdAddr3, staAdd, calloc, i, rfl, hunused,
              hchange⟩)⟩
        · exact ⟨rfl, Or.inl ⟨fun _ _ => rfl, hnot (hapd, _)⟩⟩
  | comebackReq sa data prot stdAddr3 =>
    cases data with
    | nil =>
      refine ⟨rfl, Or.inl ⟨fun _ _ => rfl, fun _ _ hfalse => nomatch hfalse⟩⟩
    | cons token rest =>
      cases hfind : hapd.gasServDialogFind sa token with
      | some i =>
        exact ⟨(comebackReq_some h rest prot stdAddr3 hfind).1, Or.inr (Or.inr ⟨sa, token, rest, prot, stdAddr3, i, rfl, hfind⟩)⟩
      | none =>
        have hafter : hapd.handle (.comebackReq sa (token :: rest) prot stdAddr3) =
            if isMulticastEtherAddr sa then (hapd, none) else (hapd, some ⟨sa, convertToProtectedDual prot
              (gasAnqpBuildComebackRespBuf token 60 0 false 0 []), stdAddr3⟩) := by
          simp only [handle, gasServRxGasComebackReq, hfind]
        have hstatus : (GasSent.comebackResp ⟨sa, convertToProtectedDual prot
            (gasAnqpBuildComebackRespBuf token 60 0 false 0 []), stdAddr3⟩).statusCode ≠ 0 := by
          rw [comebackResp_frame sa prot stdAddr3 token 0 false [] (by decide)]
          exact Nat.succ_ne_zero 59
        rw [hafter]
        refine ⟨by split <;> rfl, Or.inl ⟨fun _ _ => by split <;> rfl, fun sa' token' hcomeback => ⟨?_, ?_⟩⟩⟩
        · have hboth : sa = sa' ∧ token = token' := by simpa [GasEvent.IsComeback] using hcomeback
          rw [← hboth.1, ← hboth.2, hfind]
        · intro sent hsent
          split at hsent
          · cases hsent
          · obtain rfl := Option.some.inj hsent
            exact hstatus

end Dialogs

end GasServ

/-! ## The fragments of a dialog -/

/-- The number of fragments of a payload: one if it is empty. -/
def fragmentCount (limit : ℕ) (payload : List UInt8) : ℕ := max 1 ((payload.length + limit - 1) / limit)

/-- The comeback response with fragment `n` of a payload. -/
def fragmentResp (limit : ℕ) (payload : List UInt8) (n : ℕ) : ComebackResp where
  statusCode := 0
  fragId := (UInt8.ofNat n ||| if limit < payload.length - n * limit then 0x80 else 0).toNat % 128
  more := 128 ≤ (UInt8.ofNat n ||| if limit < payload.length - n * limit then 0x80 else 0).toNat
  payload := (payload.drop (n * limit)).take limit

/-- `n` fragments of the dialog have been sent: it is there if these are not all. -/
structure GasServ.Progress (limit : ℕ) (payload : List UInt8) (sa : MacAddr) (token : UInt8) (hapd : GasServ) (n : ℕ) :
    Prop where
  clean : hapd.Clean
  limit_eq : hapd.gasFragLimit = limit
  le : n ≤ fragmentCount limit payload
  pending : n < fragmentCount limit payload → ∃ i, (∀ j, (hapd.dialog sa j).For token ↔ j = i) ∧
    (hapd.dialog sa i).sdResp = payload ∧ (hapd.dialog sa i).sdRespPos = n * limit ∧
    (hapd.dialog sa i).sdFragId = UInt8.ofNat n
  closed : n = fragmentCount limit payload → ∀ j, ¬(hapd.dialog sa j).For token

section Fragments

variable {limit n j : ℕ} {payload : List UInt8} {sa : MacAddr} {token : UInt8} {hapd : GasServ}

/-- There are more fragments while more than the limit is left. -/
lemma lt_fragmentCount (n : ℕ) (payload : List UInt8) (hlimit : 0 < limit) :
    n + 1 < fragmentCount limit payload ↔ limit < payload.length - n * limit := by
  have hceil : n + 1 < (payload.length + limit - 1) / limit ↔ (n + 1) * limit < payload.length := by
    rw [← Nat.succ_le_iff, Nat.le_div_iff_mul_le hlimit, Nat.succ_mul]
    omega
  rw [fragmentCount, lt_max_iff, hceil, Nat.succ_mul]
  omega

/-- The fragments hold the whole payload. -/
lemma length_le_fragmentCount (hlimit : 0 < limit) : payload.length ≤ fragmentCount limit payload * limit := by
  have hceil : payload.length ≤ (payload.length + limit - 1) / limit * limit := by
    have hmod := Nat.mod_lt (payload.length + limit - 1) hlimit
    have hdiv := Nat.div_add_mod' (payload.length + limit - 1) limit
    omega
  exact hceil.trans (Nat.mul_le_mul_right limit (le_max_right _ _))

lemma fragmentCount_le_iff (hlimit : 0 < limit) :
    fragmentCount limit payload ≤ 128 ↔ payload.length ≤ 128 * limit := by
  have hmore := lt_fragmentCount 127 payload hlimit
  omega

/-- The first `n` fragments together. -/
lemma flatMap_fragmentResp (limit : ℕ) (payload : List UInt8) (n : ℕ) :
    ((List.range n).map (fragmentResp limit payload)).flatMap ComebackResp.payload = payload.take (n * limit) := by
  induction n with
  | zero => simp
  | succ n ih =>
    rw [List.range_succ, List.map_append, List.flatMap_append, ih, Nat.succ_mul, List.take_add]
    simp [fragmentResp]

/-- Up to the 128th fragment, the number does not reach the bit that is set if there are more. -/
lemma fragmentResp_ids (hlimit : 0 < limit) (hn : n < 128) :
    (fragmentResp limit payload n).fragId = n ∧
      ((fragmentResp limit payload n).more = true ↔ n + 1 < fragmentCount limit payload) := by
  have hset : ∀ k < 128, (UInt8.ofNat k ||| 0x80).toNat = k + 128 ∧ (UInt8.ofNat k ||| 0).toNat = k := by decide
  obtain ⟨hone, hzero⟩ := hset n hn
  rw [lt_fragmentCount n payload hlimit]
  unfold fragmentResp
  split
  · next hmore =>
    simp only [hone, decide_eq_true_eq]
    omega
  · next hlast =>
    simp only [hzero, decide_eq_true_eq]
    omega

/-- The fragments of a payload of at most 128 fragments. -/
lemma fragmented_range (hlimit : 0 < limit) (hcount : fragmentCount limit payload ≤ 128)
    (hn : n ≤ fragmentCount limit payload) :
    Fragmented limit payload ((List.range n).map (fragmentResp limit payload)) (n < fragmentCount limit payload) := by
  have hget (j : ℕ) (resp : ComebackResp)
      (h : ((List.range n).map (fragmentResp limit payload))[j]? = some resp) :
      j < n ∧ resp = fragmentResp limit payload j := by
    rw [List.getElem?_map, Option.map_eq_some_iff] at h
    obtain ⟨k, hk, rfl⟩ := h
    obtain ⟨hlt, rfl⟩ := List.getElem?_eq_some_iff.mp hk
    rw [List.getElem_range, List.length_range] at *
    exact ⟨hlt, rfl⟩
  refine ⟨fun resp hresp => ?_, ⟨payload.drop (n * limit), ?_, fun hclosed => ?_⟩, fun j resp h => ?_, fun j resp h => ?_,
    fun hclosed => ?_⟩
  · obtain ⟨k, -, rfl⟩ := List.mem_map.mp hresp
    exact List.length_take_le _ _
  · rw [flatMap_fragmentResp, List.take_append_drop]
  · have hall : n = fragmentCount limit payload := by
      have := of_decide_eq_false hclosed
      omega
    rw [hall]
    exact List.drop_of_length_le (length_le_fragmentCount hlimit)
  · obtain ⟨hj, rfl⟩ := hget j resp h
    exact (fragmentResp_ids hlimit (by omega)).1
  · obtain ⟨hj, rfl⟩ := hget j resp h
    rw [(fragmentResp_ids hlimit (by omega)).2, List.length_map, List.length_range, decide_eq_true_eq]
    omega
  · have hclosed := of_decide_eq_false hclosed
    have hpos : 0 < fragmentCount limit payload := Nat.lt_of_lt_of_le Nat.one_pos (le_max_left _ _)
    rw [Ne, List.map_eq_nil_iff, List.range_eq_nil]
    omega

namespace GasServ

/-- A change of a dialog that is not the one of the token leaves the progress as it is. -/
lemma Progress.of_changes {hapd' : GasServ} {sa' : MacAddr} {i : Fin gasDialogMax} {dia : GasDialogInfo}
    (h : Progress limit payload sa token hapd n) (hclean : hapd'.Clean) (hlimit : hapd'.gasFragLimit = hapd.gasFragLimit)
    (hchange : Changes hapd hapd' sa' i dia)
    (hother : sa' = sa → ¬(hapd.dialog sa i).For token ∧ ¬dia.For token) :
    Progress limit payload sa token hapd' n := by
  have hfor (j : Fin gasDialogMax) : (hapd'.dialog sa j).For token ↔ (hapd.dialog sa j).For token := by
    rw [hchange]
    split
    · next hat =>
      rw [hat.2]
      exact iff_of_false (hother hat.1.symm).2 (hother hat.1.symm).1
    · rfl
  refine ⟨hclean, hlimit.trans h.limit_eq, h.le, fun hlt => ?_, fun hall j => (hfor j).not.mpr (h.closed hall j)⟩
  obtain ⟨k, hunique, hdialog⟩ := h.pending hlt
  have hsame : hapd'.dialog sa k = hapd.dialog sa k := by
    rw [hchange, if_neg]
    rintro ⟨hsa, rfl⟩
    exact (hother hsa.symm).1 ((hunique k).mpr rfl)
  rw [← hsame] at hdialog
  exact ⟨k, fun j => (hfor j).trans (hunique j), hdialog⟩

/-- The search finds the dialog while there is one. -/
lemma Progress.isSome_find (h : Progress limit payload sa token hapd n) :
    (hapd.gasServDialogFind sa token).isSome = decide (n < fragmentCount limit payload) := by
  by_cases hlt : n < fragmentCount limit payload
  · obtain ⟨i, hunique, -⟩ := h.pending hlt
    rw [decide_eq_true hlt, Option.isSome_iff_ne_none]
    exact fun hnone => gasServDialogFind_none hnone i ((hunique i).mpr rfl)
  · have hall : n = fragmentCount limit payload := Nat.le_antisymm h.le (Nat.le_of_not_lt hlt)
    rw [decide_eq_false hlt, Option.isSome_eq_false_iff, Option.isNone_iff_eq_none]
    cases hfind : hapd.gasServDialogFind sa token with
    | none => rfl
    | some i => exact absurd (gasServDialogFind_some hfind) (h.closed hall i)

/-- A request for the next fragment. -/
lemma Progress.next (h : Progress limit payload sa token hapd n) (hlimit : 0 < limit)
    (hlt : n < fragmentCount limit payload) (rest : List UInt8) (prot stdAddr3 : Bool) :
    Progress limit payload sa token (hapd.gasServRxGasComebackReq sa (token :: rest) prot stdAddr3).1 (n + 1) ∧
      (hapd.gasServRxGasComebackReq sa (token :: rest) prot stdAddr3).2.map GasSent.comebackResp =
        some (fragmentResp limit payload n) := by
  obtain ⟨i, hunique, hresp, hpos, hid⟩ := h.pending hlt
  have hfind : hapd.gasServDialogFind sa token = some i := by
    obtain ⟨k, hk⟩ := Option.isSome_iff_exists.mp (h.isSome_find.trans (decide_eq_true hlt))
    rw [hk, (hunique k).mp (gasServDialogFind_some hk)]
  obtain ⟨hsame, hchange, hsent⟩ := comebackReq_some h.clean rest prot stdAddr3 hfind
  rw [hresp, hpos, hid, h.limit_eq] at hsent
  rw [hresp, hpos, hid, h.limit_eq] at hchange
  have hmore := lt_fragmentCount n payload hlimit
  refine ⟨⟨hchange.clean h.clean fun hvalid => ?_, hsame.trans h.limit_eq, hlt, fun hlt' => ⟨i, fun j => ?_, ?_⟩,
    fun hall j => ?_⟩, ?_⟩
  · split at hvalid
    · exact absurd hvalid (by simp [((hunique i).mpr rfl).2])
    · next hlast => rw [if_neg hlast]
  · rw [hchange, decide_eq_true (hmore.mp hlt'), if_pos rfl]
    split
    · next hat => exact iff_of_true ((hunique i).mpr rfl) hat.2
    · exact hunique j
  · rw [hchange, decide_eq_true (hmore.mp hlt'), if_pos rfl, if_pos ⟨rfl, rfl⟩]
    exact ⟨rfl, (Nat.succ_mul n limit).symm, (UInt8.ofNat_add n 1).symm⟩
  · have hlast : ¬limit < payload.length - n * limit := fun hlt' => absurd (hmore.mpr hlt') (by omega)
    rw [hchange, decide_eq_false hlast]
    split
    · exact fun hfor => absurd hfor.2 Bool.false_ne_true
    · next hat => exact fun hfor => hat ⟨rfl, (hunique j).mp hfor⟩
  · rw [hsent, Option.map_some, comebackResp_frame sa prot stdAddr3 token _ _ _ (by decide)]
    simp [fragmentResp]

/-- One request: it is answered with the next fragment if it is for the dialog. -/
lemma Progress.handle (h : Progress limit payload sa token hapd n) (hlimit : 0 < limit) (e : GasEvent)
    (hother : e.IsInitial sa token = false) :
    let asked := if e.IsComeback sa token then 1 else 0
    let n' := min (n + asked) (fragmentCount limit payload)
    Progress limit payload sa token (hapd.handle e).1 n' ∧
      (if e.IsComeback sa token then
        ((hapd.handle e).2.map GasSent.comebackResp).toList.filter fun resp => resp.statusCode = 0
      else []) = (List.range' n (n' - n)).map (fragmentResp limit payload) := by
  have hle := h.le
  obtain ⟨hlimits, ⟨hsame, hnone⟩ | ⟨sa', token', buf, p2pSd, prot, stdAddr3, staAdd, calloc, i, rfl, hunused, hchange⟩ |
    ⟨sa', token', rest, prot, stdAddr3, i, rfl, hfind⟩⟩ := handle_cases h.clean e
  · -- no dialog is changed
    have hfor (j : Fin gasDialogMax) := hsame sa j
    have hafter : Progress limit payload sa token (hapd.handle e).1 n := by
      refine ⟨fun sa' j => ?_, hlimits.trans h.limit_eq, h.le, fun hlt => ?_, fun hall j => ?_⟩
      · rw [hsame]
        exact h.clean sa' j
      · simpa only [hsame] using h.pending hlt
      · rw [hsame]
        exact h.closed hall j
    by_cases hcomeback : e.IsComeback sa token = true
    · obtain ⟨hnotfound, hstatus⟩ := hnone sa token hcomeback
      have hall : n = fragmentCount limit payload := by
        have hfound := h.isSome_find
        rw [hnotfound] at hfound
        have := of_decide_eq_false hfound.symm
        omega
      have hn : min (n + 1) (fragmentCount limit payload) = n := by omega
      simp only [hcomeback, if_true, hn, Nat.sub_self]
      refine ⟨hafter, ?_⟩
      cases hsent : (hapd.handle e).2 with
      | none => rfl
      | some sent => simpa using hstatus sent hsent
    · have hn : min (n + 0) (fragmentCount limit payload) = n := by omega
      simp only [hcomeback, Bool.false_eq_true, if_false, hn, Nat.sub_self]
      exact ⟨hafter, rfl⟩
  · -- a dialog is opened, for another station or token
    have hn : min (n + 0) (fragmentCount limit payload) = n := by omega
    simp only [GasEvent.IsComeback, Bool.false_eq_true, if_false, hn, Nat.sub_self]
    refine ⟨h.of_changes (hchange.clean h.clean fun hvalid => nomatch hvalid) hlimits hchange fun hsa => ⟨?_, ?_⟩, rfl⟩
    · subst hsa
      rintro ⟨-, hvalid⟩
      exact absurd (hvalid.symm.trans hunused) (by decide)
    · rintro ⟨rfl, -⟩
      simp [GasEvent.IsInitial, hsa] at hother
  · by_cases hboth : sa' = sa ∧ token' = token
    · -- the next fragment
      obtain ⟨rfl, rfl⟩ := hboth
      have hlt : n < fragmentCount limit payload := by
        have hfound := h.isSome_find
        rw [hfind] at hfound
        exact of_decide_eq_true hfound.symm
      obtain ⟨hnext, hsent⟩ := h.next hlimit hlt rest prot stdAddr3
      have hn : min (n + 1) (fragmentCount limit payload) = n + 1 := by omega
      have hasked : (GasEvent.comebackReq sa' (token' :: rest) prot stdAddr3).IsComeback sa' token' = true := by
        simp [GasEvent.IsComeback]
      simp only [hasked, if_true, hn, Nat.add_sub_cancel_left]
      refine ⟨hnext, ?_⟩
      rw [GasServ.handle, hsent]
      simp [fragmentResp]
    · -- a fragment of another dialog
      have hasked : (GasEvent.comebackReq sa' (token' :: rest) prot stdAddr3).IsComeback sa token = false := by
        simpa [GasEvent.IsComeback] using hboth
      have hn : min (n + 0) (fragmentCount limit payload) = n := by omega
      obtain ⟨-, hchange, -⟩ := comebackReq_some h.clean rest prot stdAddr3 hfind
      have hfor := gasServDialogFind_some hfind
      simp only [hasked, Bool.false_eq_true, if_false, hn, Nat.sub_self]
      refine ⟨h.of_changes (hchange.clean h.clean ?_) hlimits hchange ?_, rfl⟩
      · intro hvalid
        split at hvalid
        · exact absurd (hfor.2.symm.trans hvalid) (by decide)
        · next hlast => rw [if_neg hlast]
      · rintro rfl
        have hne : token' ≠ token := fun h => hboth ⟨rfl, h⟩
        refine ⟨fun h => hne (hfor.1.symm.trans h.1), fun h => ?_⟩
        split at h
        · exact hne (hfor.1.symm.trans h.1)
        · exact Bool.false_ne_true h.2

/-- A run after the dialog has been opened: each request for it is answered with a fragment, until there are no more. -/
lemma Progress.run (hlimit : 0 < limit) (es : List GasEvent) (hother : ∀ e ∈ es, e.IsInitial sa token = false)
    (h : Progress limit payload sa token hapd n) :
    let n' := min (n + es.countP (GasEvent.IsComeback sa token)) (fragmentCount limit payload)
    Progress limit payload sa token (hapd.run es) n' ∧
      hapd.fragments sa token es = (List.range' n (n' - n)).map (fragmentResp limit payload) := by
  induction es generalizing hapd n with
  | nil =>
    have hn : min (n + 0) (fragmentCount limit payload) = n := Nat.min_eq_left h.le
    simp only [List.countP_nil, hn, Nat.sub_self]
    exact ⟨h, rfl⟩
  | cons e es ih =>
    obtain ⟨hfirst, hsent⟩ := h.handle hlimit e (hother e List.mem_cons_self)
    obtain ⟨hlast, hsents⟩ := ih (fun e' he' => hother e' (List.mem_cons_of_mem e he')) hfirst
    have hle := h.le
    have hcount := List.countP_cons (p := GasEvent.IsComeback sa token) (a := e) (l := es)
    generalize es.countP (GasEvent.IsComeback sa token) = k at *
    generalize (if e.IsComeback sa token then 1 else 0) = asked at *
    generalize fragmentCount limit payload = m at *
    have hn : min (min (n + asked) m + k) m = min (n + (k + asked)) m := by omega
    rw [hn] at hlast hsents
    rw [hcount]
    refine ⟨hlast, ?_⟩
    rw [fragments, hsent, hsents, ← List.map_append]
    congr 1
    have hsplit : min (n + (k + asked)) m - n =
        (min (n + asked) m - n) + (min (n + (k + asked)) m - min (n + asked) m) := by omega
    have hstart : n + (min (n + asked) m - n) = min (n + asked) m := by omega
    rw [hsplit, ← List.range'_append_1, hstart]

lemma clean_init (limit delay : ℕ) : (init limit delay).Clean := fun _ _ _ => rfl

/-- One request leaves the dialogs that are not in use cleared. -/
lemma Clean.handle (h : hapd.Clean) (e : GasEvent) : (hapd.handle e).1.Clean := by
  obtain ⟨-, ⟨hsame, -⟩ | ⟨sa, token, buf, p2pSd, prot, stdAddr3, staAdd, calloc, i, rfl, hunused, hchange⟩ |
    ⟨sa, token, rest, prot, stdAddr3, i, rfl, hfind⟩⟩ := handle_cases h e
  · intro sa i
    rw [hsame]
    exact h sa i
  · exact hchange.clean h fun hvalid => nomatch hvalid
  · refine (comebackReq_some h rest prot stdAddr3 hfind).2.1.clean h fun hvalid => ?_
    split at hvalid
    · exact absurd ((gasServDialogFind_some hfind).2.symm.trans hvalid) (by decide)
    · next hlast => rw [if_neg hlast]

lemma Clean.run (h : hapd.Clean) (es : List GasEvent) :
    (hapd.run es).Clean ∧ (hapd.run es).gasFragLimit = hapd.gasFragLimit := by
  induction es generalizing hapd with
  | nil => exact ⟨h, rfl⟩
  | cons e es ih =>
    obtain ⟨hclean, hlimit⟩ := ih (h.handle e)
    exact ⟨hclean, hlimit.trans (handle_cases h e).1⟩

/-- The request that opens the dialog. -/
lemma Progress.opened {p2pSd prot stdAddr3 staAdd calloc : Bool} (h : hapd.Clean)
    (hnew : hapd.gasServDialogFind sa token = none)
    (hopen : ((hapd.handle (.initialReq sa token (some payload) p2pSd prot stdAddr3 staAdd calloc)).1.gasServDialogFind
      sa token).isSome = true) :
    Progress hapd.gasFragLimit payload sa token
      (hapd.handle (.initialReq sa token (some payload) p2pSd prot stdAddr3 staAdd calloc)).1 0 := by
  have hpos : 0 < fragmentCount hapd.gasFragLimit payload := Nat.lt_of_lt_of_le Nat.one_pos (le_max_left _ _)
  obtain ⟨hlimit, ⟨hsame, -⟩ | ⟨_, _, _, _, _, _, _, _, i, hevent, -, hchange⟩ | ⟨_, _, _, _, _, _, hevent, -⟩⟩ :=
    handle_cases h (.initialReq sa token (some payload) p2pSd prot stdAddr3 staAdd calloc)
  · -- a dialog that is there now would have been there before
    rw [gasServDialogFind_eq] at hnew
    rw [gasServDialogFind_eq] at hopen
    simp only [hsame, hnew] at hopen
    cases hopen
  · cases hevent
    refine ⟨h.handle _, hlimit, Nat.zero_le _, fun _ => ⟨i, fun j => ?_, ?_⟩, fun hall => absurd hall hpos.ne⟩
    · rw [hchange]
      split
      · next hat => exact iff_of_true ⟨rfl, rfl⟩ hat.2
      · next hat => exact iff_of_false (gasServDialogFind_none hnew j) fun hj => hat ⟨rfl, hj⟩
    · rw [hchange, if_pos ⟨rfl, rfl⟩, Nat.zero_mul]
      exact ⟨rfl, rfl, rfl⟩
  · cases hevent

end GasServ

end Fragments

/-- After any requests, a dialog is opened for a station and a token it has none for.  Whatever other requests come, the
comeback responses for it are the fragments of the payload, numbered and marked, if and only if the payload fits into 128
fragments: with more, the number of a fragment gets into the bit that says that there are more. -/
theorem GasServ.fragments_iff {limit : ℕ} (hlimit : 0 < limit) (comebackDelay : ℕ) (before : List GasEvent)
    (sa : MacAddr) (token : UInt8) (payload : List UInt8) (p2pSd prot stdAddr3 staAdd calloc : Bool)
    (hnew : ((init limit comebackDelay).run before).gasServDialogFind sa token = none)
    (hopen : ((((init limit comebackDelay).run before).handle
      (.initialReq sa token (some payload) p2pSd prot stdAddr3 staAdd calloc)).1.gasServDialogFind sa token).isSome =
        true) :
    let hapd := (((init limit comebackDelay).run before).handle
      (.initialReq sa token (some payload) p2pSd prot stdAddr3 staAdd calloc)).1
    (∀ es, (∀ e ∈ es, GasEvent.IsInitial sa token e = false) →
      Fragmented limit payload (hapd.fragments sa token es) ((hapd.run es).gasServDialogFind sa token).isSome) ↔
        payload.length ≤ 128 * limit := by
  intro hapd
  obtain ⟨hclean, hlimits⟩ := (clean_init limit comebackDelay).run before
  have hopened : Progress limit payload sa token hapd 0 := by
    have hopened := Progress.opened hclean hnew hopen
    rwa [hlimits] at hopened
  have hrun (es : List GasEvent) (hother : ∀ e ∈ es, GasEvent.IsInitial sa token e = false) :
      hapd.fragments sa token es = (List.range (min (es.countP (GasEvent.IsComeback sa token))
        (fragmentCount limit payload))).map (fragmentResp limit payload) ∧
      ((hapd.run es).gasServDialogFind sa token).isSome =
        decide (min (es.countP (GasEvent.IsComeback sa token)) (fragmentCount limit payload) <
          fragmentCount limit payload) := by
    obtain ⟨hafter, hsent⟩ := hopened.run hlimit es hother
    rw [Nat.zero_add] at hafter hsent
    rw [hsent, Nat.sub_zero, ← List.range_eq_range']
    exact ⟨rfl, hafter.isSome_find⟩
  rw [← fragmentCount_le_iff hlimit]
  constructor
  · intro hfragmented
    -- the 129th fragment cannot carry its number
    by_contra hcount
    have hasked : GasEvent.IsComeback sa token (.comebackReq sa [token] prot stdAddr3) = true := by
      simp [GasEvent.IsComeback]
    have hall := List.countP_replicate (p := GasEvent.IsComeback sa token)
      (a := .comebackReq sa [token] prot stdAddr3) (n := 129)
    rw [if_pos hasked] at hall
    have hother : ∀ e ∈ List.replicate 129 (GasEvent.comebackReq sa [token] prot stdAddr3),
        GasEvent.IsInitial sa token e = false := by
      intro e he
      rw [List.eq_of_mem_replicate he]
      rfl
    obtain ⟨hsent, -⟩ := hrun _ hother
    rw [hall] at hsent
    have hid := (hfragmented _ hother).fragId 128 (fragmentResp limit payload 128) (by
      rw [hsent, List.getElem?_map, List.getElem?_range (by omega)]
      rfl)
    have hsmall : (fragmentResp limit payload 128).fragId < 128 := Nat.mod_lt _ (by decide)
    omega
  · intro hcount es hother
    rw [(hrun es hother).1, (hrun es hother).2]
    exact fragmented_range hlimit hcount (Nat.min_le_right _ _)

/-- Three bytes, at most two of them in a frame. -/
theorem GasServ.fragments_iff_twoFragments :
    let hapd := ((init 2 0).handle (.initialReq #v[2, 0, 0, 0, 0, 1] 7 (some [1, 2, 3]) false false true true true)).1
    ((init 2 0).gasServDialogFind #v[2, 0, 0, 0, 0, 1] 7 = none ∧
      (hapd.gasServDialogFind #v[2, 0, 0, 0, 0, 1] 7).isSome = true) ∧
    ∀ es, (∀ e ∈ es, GasEvent.IsInitial #v[2, 0, 0, 0, 0, 1] 7 e = false) →
      Fragmented 2 [1, 2, 3] (hapd.fragments #v[2, 0, 0, 0, 0, 1] 7 es)
        ((hapd.run es).gasServDialogFind #v[2, 0, 0, 0, 0, 1] 7).isSome :=
  ⟨by decide, (fragments_iff (show 0 < 2 by decide) 0 [] #v[2, 0, 0, 0, 0, 1] 7 [1, 2, 3] false false true true true
    (by decide) (by decide)).mpr (by decide)⟩

/-- With a limit of one byte, 129 bytes need 129 fragments.  The last of them has number 128, which is sent as the number
0 with the bit for more fragments. -/
theorem GasServ.fragments_wrapped :
    let payload := List.replicate 129 0
    let hapd := ((init 1 0).handle (.initialReq #v[2, 0, 0, 0, 0, 1] 7 (some payload) false false true true true)).1
    let es := List.replicate 129 (GasEvent.comebackReq #v[2, 0, 0, 0, 0, 1] [7] false true)
    (init 1 0).gasServDialogFind #v[2, 0, 0, 0, 0, 1] 7 = none ∧
      (hapd.gasServDialogFind #v[2, 0, 0, 0, 0, 1] 7).isSome = true ∧
      ((hapd.run es).gasServDialogFind #v[2, 0, 0, 0, 0, 1] 7).isSome = false ∧
      ((hapd.fragments #v[2, 0, 0, 0, 0, 1] 7 es)[128]?.map fun resp => (resp.fragId, resp.more)) = some (0, true) ∧
      ¬Fragmented 1 payload (hapd.fragments #v[2, 0, 0, 0, 0, 1] 7 es)
        ((hapd.run es).gasServDialogFind #v[2, 0, 0, 0, 0, 1] 7).isSome := by
  intro payload hapd es
  have hlast : (hapd.fragments #v[2, 0, 0, 0, 0, 1] 7 es)[128]?.map (fun resp => (resp.fragId, resp.more)) =
      some (0, true) := by decide +kernel
  refine ⟨by decide, by decide +kernel, by decide +kernel, hlast, fun h => ?_⟩
  obtain ⟨resp, hresp, heq⟩ := Option.map_eq_some_iff.mp hlast
  have hid := h.fragId 128 resp hresp
  rw [(Prod.mk.inj heq).1] at hid
  cases hid

end Ethanol
