import EthanolHostapd.Common.Ieee80211Common
import EthanolHostapd.Utils.Wpabuf
import EthanolHostapd.Ap.MgmtFrame
import EthanolHostapd.Ap.NeighborDb
import EthanolHostapd.Ap.SsidEscaped

/-!
# Neighbor reports

The radio measurement frames of `rrm.c`: a request for neighbor reports is read, and the response is made of the database of
neighboring access points.  There is no result if a byte outside the frame is read or a byte outside the buffer is
written.
-/

namespace Ethanol

open Wire Wpabuf.Put

/-! ## The request -/

/-- `WLAN_EID_MEASURE_REQUEST`. -/
def wlanEidMeasureRequest : UInt8 := 38

/-- `WLAN_EID_MEASURE_REPORT`. -/
def wlanEidMeasureReport : UInt8 := 39

/-- `WLAN_EID_NEIGHBOR_REPORT`. -/
def wlanEidNeighborReport : UInt8 := 52

/-- What the measurement requests ask for: `lci` and `civic` are measurement tokens. -/
structure LocationReq where
  lci : UInt8 := 0
  civic : UInt8 := 0
  lciMaxAge : ℕ := 0

/-- A request for neighbor reports. -/
structure NeiReportReq where
  sa : MacAddr
  dialogToken : UInt8
  ssid : List UInt8
  location : LocationReq

/-- The configuration and the database. -/
structure Rrm where
  radioMeasurements : UInt8
  ssid : List UInt8
  nrDb : NeighborDb

/-- `hostapd_parse_location_lci_req_age`, for the `len` bytes from `pos` on. -/
def hostapdParseLocationLciReqAge (frame : List UInt8) (pos len : ℕ) : Option ℕ :=
  if len < 3 + 1 + 4 then some 0
  else do
    match ← getIe frame (pos + len) 4 (pos + 4) with -- LCI_REQ_SUBELEM_MAX_AGE
    | none => pure 0
    | some q =>
      if (← frame[q + 1]?) = 2 then pure (leNat (← Buffer.read frame (q + 2) 2)) else pure 0

/-- A measurement request at `q`, of `len` bytes. -/
def measureRequest (frame : List UInt8) (q len : ℕ) (location : LocationReq) : Option LocationReq := do
  let type ← frame[q + 4]?
  if type = 8 then -- MEASURE_TYPE_LCI
    let lci ← frame[q + 2]?
    let lciMaxAge ← hostapdParseLocationLciReqAge frame (q + 2) len
    pure { location with lci, lciMaxAge }
  else if type = 11 then -- MEASURE_TYPE_LOCATION_CIVIC
    let civic ← frame[q + 2]?
    pure { location with civic }
  else pure location

/-- The loop of `hostapd_handle_nei_report_req` over the measurement requests from `pos` on. -/
def measureRequests (frame : List UInt8) (pos : ℕ) (location : LocationReq) : Option LocationReq :=
  match h : getIe frame frame.length wlanEidMeasureRequest pos with
  | none => none
  | some none => some location
  | some (some q) =>
    have := getIe_inside h
    (frame[q + 1]?).bind fun len =>
      if len.toNat < 3 then some location
      else
        (measureRequest frame q len.toNat location).bind fun location =>
          measureRequests frame (q + 2 + len.toNat) location
termination_by frame.length - pos

/-- The SSID of `hostapd_handle_nei_report_req`. -/
def neiReportReqSsid (ownSsid frame : List UInt8) (pos : ℕ) : Option (List UInt8) := do
  match ← getIe frame frame.length 0 pos with -- WLAN_EID_SSID
  | none => pure ownSsid
  | some q =>
    let len := (← frame[q + 1]?).toNat
    if len ≠ 0 ∧ len ≤ ssidMaxLen then Buffer.read frame (q + 2) len else pure ownSsid

namespace Rrm

variable (hapd : Rrm)

/-- `hostapd_handle_nei_report_req`, as far as it reads the frame. -/
def hostapdHandleNeiReportReq (frame : List UInt8) : Option (Option NeiReportReq) :=
  if hapd.radioMeasurements &&& 2 = 0 then some none -- WLAN_RRM_CAPS_NEIGHBOR_REPORT
  else do
    let dialogToken ← frame[ieee80211Hdrlen + 2]?
    let ssid ← neiReportReqSsid hapd.ssid frame (ieee80211Hdrlen + 3)
    let location ← measureRequests frame (ieee80211Hdrlen + 3) {}
    let sa ← macAddrAt frame 10
    pure (some ⟨sa, dialogToken, ssid, location⟩)

end Rrm

/-! ## The response -/

/-- `hostapd_check_lci_age`; `now` is what `os_get_time` says. -/
def HostapdNeighborEntry.hostapdCheckLciAge (nr : HostapdNeighborEntry) (maxAge : ℕ) (now : Option OsReltime) : Bool :=
  if maxAge = 0 then false
  else if maxAge = 0xffff then true
  else
    match now with
    | none => false
    | some curr =>
      let diff := curr.sub nr.lciDate
      if 0xffff < diff.sec then false
      else decide ((diff.sec * 10 + diff.usec.tdiv 100000) % 2 ^ 64 < maxAge) -- `unsigned long`

/-- `send_lci` of `hostapd_send_nei_report_resp`. -/
def HostapdNeighborEntry.sendLci (nr : HostapdNeighborEntry) (location : LocationReq) (now : Option OsReltime) : Bool :=
  location.lci ≠ 0 ∧ nr.hostapdCheckLciAge location.lciMaxAge now = true

/-- `hostapd_neighbor_report_len`. -/
def HostapdNeighborEntry.hostapdNeighborReportLen (nr : HostapdNeighborEntry) (sendLci sendCivic : Bool) : ℕ :=
  2 + nr.nr.length + (if sendLci then nr.lci.elim 0 fun lci => 2 + lci.1.length else 0) +
    (if sendCivic then nr.civic.elim 0 fun civic => 2 + civic.1.length else 0)

/-- A report is appended, and its first byte is set to the measurement token. -/
def putReport (token : UInt8) (report : StoredReport) : Wpabuf.Put :=
  (put [wlanEidMeasureReport, UInt8.ofNat report.1.length]).andThen fun buf =>
    (buf.putData report.1).bind fun buf' =>
      (Buffer.write buf'.buf buf.buf.length [token]).map fun bytes => { buf' with buf := bytes }

/-- The element of an entry. -/
def putNeighborReport (nr : HostapdNeighborEntry) (sendLci : Bool) (location : LocationReq) (len : ℕ) : Wpabuf.Put :=
  (put [wlanEidNeighborReport, UInt8.ofNat (len - 2)]).andThen ((put nr.nr).andThen
    ((if sendLci then nr.lci.elim skip (putReport location.lci) else skip).andThen
      (if location.civic ≠ 0 then nr.civic.elim skip (putReport location.civic) else skip)))

/-- The loop of `hostapd_send_nei_report_resp` over the database; `now i` is what `os_get_time` says for the `i`-th entry. -/
def neighborReports (ssid : List UInt8) (location : LocationReq) (now : ℕ → Option OsReltime) :
    NeighborDb → ℕ → Wpabuf.Put
  | [], _ => skip
  | nr :: rest, i => fun buf =>
    if ssid ≠ nr.ssid then neighborReports ssid location now rest (i + 1) buf
    else
      let sendLci := nr.sendLci location (now i)
      let len := nr.hostapdNeighborReportLen sendLci (location.civic ≠ 0)
      if 0xff < len - 2 then neighborReports ssid location now rest (i + 1) buf
      else if buf.tailroom < len then some buf
      else
        ((putNeighborReport nr sendLci location len).andThen (neighborReports ssid location now rest (i + 1))) buf

/-- `IEEE80211_MAX_MMPDU_SIZE`. -/
def ieee80211MaxMmpduSize : ℕ := 2304

namespace Rrm

variable (hapd : Rrm)

/-- `hostapd_send_nei_report_resp`: the frame that is sent. -/
def hostapdSendNeiReportResp (req : NeiReportReq) (now : ℕ → Option OsReltime) : Option (List UInt8) :=
  -- WLAN_ACTION_RADIO_MEASUREMENT, WLAN_RRM_NEIGHBOR_REPORT_RESPONSE
  (((put [5, 5, req.dialogToken]).andThen (neighborReports req.ssid req.location now hapd.nrDb 0))
    ⟨3 + ieee80211MaxMmpduSize, []⟩).map Wpabuf.buf

/-- What is done with a frame: nothing, a response is sent, or the measurement reports in it are handled, of which these are
the types. -/
inductive Action
  | nothing
  | send (addr : MacAddr) (frame : List UInt8)
  | reports (dialogToken : UInt8) (types : List UInt8)

end Rrm

/-- The loop of `hostapd_handle_radio_msmt_report` over the measurement reports from `pos` on: their types. -/
def measureReports (frame : List UInt8) (pos : ℕ) : Option (List UInt8) :=
  match h : getIe frame frame.length wlanEidMeasureReport pos with
  | none => none
  | some none => some []
  | some (some q) =>
    have := getIe_inside h
    (frame[q + 1]?).bind fun len =>
      if len.toNat < 5 then some []
      else
        (frame[q + 4]?).bind fun type =>
          (measureReports frame (q + len.toNat + 2)).map fun types => type :: types
termination_by frame.length - pos

/-- `hostapd_handle_radio_measurement`. -/
def Rrm.hostapdHandleRadioMeasurement (hapd : Rrm) (frame : List UInt8) (now : ℕ → Option OsReltime) :
    Option Rrm.Action :=
  if frame.length < ieee80211Hdrlen + 3 then some .nothing
  else do
    let action ← frame[ieee80211Hdrlen + 1]?
    if action = 1 then -- WLAN_RRM_RADIO_MEASUREMENT_REPORT
      let dialogToken ← frame[ieee80211Hdrlen + 2]?
      let types ← measureReports frame (ieee80211Hdrlen + 3)
      pure (.reports dialogToken types)
    else if action = 4 then -- WLAN_RRM_NEIGHBOR_REPORT_REQUEST
      match ← hapd.hostapdHandleNeiReportReq frame with
      | none => pure .nothing
      | some req =>
        let resp ← hapd.hostapdSendNeiReportResp req now
        pure (.send req.sa resp)
    else pure .nothing

/-! ## Reading a request -/

section Reading

variable {frame : List UInt8} {pos : ℕ}

lemma hostapdParseLocationLciReqAge_isSome {len : ℕ} (h : pos + len ≤ frame.length) :
    (hostapdParseLocationLciReqAge frame pos len).isSome = true := by
  rw [hostapdParseLocationLciReqAge]
  split_ifs with hshort
  · rfl
  have hsome : (getIe frame (pos + len) 4 (pos + 4)).isSome = true := getIe_isSome h
  obtain ⟨r, hr⟩ := Option.isSome_iff_exists.mp hsome
  rw [hr]
  cases r with
  | none => rfl
  | some q =>
    obtain ⟨-, hq, hinside⟩ := getIe_inside hr
    have hlen : frame[q + 1]? = some frame[q + 1] := List.getElem?_eq_getElem (by omega)
    simp only [Option.bind_eq_bind, Option.bind_some, hlen]
    split_ifs with htwo
    · have hend := hinside _ hlen
      rw [htwo] at hend
      have htwo' : (2 : UInt8).toNat = 2 := rfl
      exact Buffer.isSome_bind_read (by omega) rfl
    · rfl

lemma measureRequest_isSome {q len : ℕ} (location : LocationReq) (hlen : 3 ≤ len) (h : q + 2 + len ≤ frame.length) :
    (measureRequest frame q len location).isSome = true := by
  have htype : frame[q + 4]? = some frame[q + 4] := List.getElem?_eq_getElem (by omega)
  have htoken : frame[q + 2]? = some frame[q + 2] := List.getElem?_eq_getElem (by omega)
  obtain ⟨age, hage⟩ := Option.isSome_iff_exists.mp (hostapdParseLocationLciReqAge_isSome h)
  rw [measureRequest]
  simp only [Option.bind_eq_bind, htype, htoken, hage, Option.bind_some]
  split_ifs <;> rfl

lemma measureRequests_isSome (location : LocationReq) : (measureRequests frame pos location).isSome = true := by
  fun_induction measureRequests frame pos location with
  | case1 pos location h =>
    have hsome : (getIe frame frame.length wlanEidMeasureRequest pos).isSome = true := getIe_isSome le_rfl
    rw [h] at hsome
    cases hsome
  | case2 pos location h => rfl
  | case3 pos location q h hinside ih =>
    obtain ⟨-, hq, hend⟩ := hinside
    have hlen : frame[q + 1]? = some frame[q + 1] := List.getElem?_eq_getElem (by omega)
    rw [hlen, Option.bind_some]
    split_ifs with hshort
    · rfl
    · obtain ⟨location', hlocation'⟩ := Option.isSome_iff_exists.mp
        (measureRequest_isSome location (show 3 ≤ frame[q + 1].toNat by omega) (hend _ hlen))
      rw [hlocation', Option.bind_some]
      exact ih _ hshort location'

lemma measureReports_isSome : (measureReports frame pos).isSome = true := by
  fun_induction measureReports frame pos with
  | case1 pos h =>
    have hsome : (getIe frame frame.length wlanEidMeasureReport pos).isSome = true := getIe_isSome le_rfl
    rw [h] at hsome
    cases hsome
  | case2 pos h => rfl
  | case3 pos q h hinside ih =>
    obtain ⟨-, hq, hend⟩ := hinside
    have hlen : frame[q + 1]? = some frame[q + 1] := List.getElem?_eq_getElem (by omega)
    have hlong := hend _ hlen
    rw [hlen, Option.bind_some]
    split_ifs with hshort
    · rfl
    · have htype : frame[q + 4]? = some frame[q + 4] := List.getElem?_eq_getElem (by omega)
      rw [htype, Option.bind_some, Option.isSome_map]
      exact ih _ hshort

lemma neiReportReqSsid_isSome (ownSsid : List UInt8) : (neiReportReqSsid ownSsid frame pos).isSome = true := by
  rw [neiReportReqSsid]
  have hsome : (getIe frame frame.length 0 pos).isSome = true := getIe_isSome le_rfl
  obtain ⟨r, hr⟩ := Option.isSome_iff_exists.mp hsome
  rw [hr]
  cases r with
  | none => rfl
  | some q =>
    obtain ⟨-, hq, hinside⟩ := getIe_inside hr
    have hlen : frame[q + 1]? = some frame[q + 1] := List.getElem?_eq_getElem (by omega)
    simp only [Option.bind_eq_bind, Option.bind_some, hlen]
    split_ifs with hssid
    · rw [Buffer.read_eq_some (hinside _ hlen)]
      rfl
    · rfl

lemma hostapdHandleNeiReportReq_isSome (hapd : Rrm) (h : ieee80211Hdrlen + 3 ≤ frame.length) :
    (hapd.hostapdHandleNeiReportReq frame).isSome = true := by
  have htoken : frame[ieee80211Hdrlen + 2]? = some frame[ieee80211Hdrlen + 2] := List.getElem?_eq_getElem (by omega)
  rw [ieee80211Hdrlen] at h
  obtain ⟨sa, hsa⟩ := @macAddrAt_eq_some frame 10 (by omega)
  obtain ⟨ssid, hssid⟩ := Option.isSome_iff_exists.mp
    (@neiReportReqSsid_isSome frame (ieee80211Hdrlen + 3) hapd.ssid)
  obtain ⟨location, hlocation⟩ := Option.isSome_iff_exists.mp
    (@measureRequests_isSome frame (ieee80211Hdrlen + 3) {})
  rw [Rrm.hostapdHandleNeiReportReq]
  split_ifs
  · rfl
  · rw [htoken, hssid, hlocation, hsa]
    rfl

end Reading

/-! ## What the response is made of -/

/-- The subelement for a report, with the measurement token. -/
def reportBytes (token : UInt8) (report : StoredReport) : List UInt8 :=
  wlanEidMeasureReport :: UInt8.ofNat report.1.length :: token :: report.1.tail

namespace HostapdNeighborEntry

variable (nr : HostapdNeighborEntry)

/-- The report of an entry and the subelements behind it. -/
def reportBody (sendLci : Bool) (location : LocationReq) : List UInt8 :=
  nr.nr ++ ((if sendLci then nr.lci.elim [] (reportBytes location.lci) else []) ++
    (if location.civic ≠ 0 then nr.civic.elim [] (reportBytes location.civic) else []))

/-- The element of an entry, unless it is too long for an element. -/
def element (sendLci : Bool) (location : LocationReq) : Option Element :=
  if h : (nr.reportBody sendLci location).length < 256 then some ⟨wlanEidNeighborReport, _, h⟩ else none

end HostapdNeighborEntry

/-- The elements of the entries with the SSID, in the order of the database, that are not too long. -/
def neighborElements (ssid : List UInt8) (location : LocationReq) (now : ℕ → Option OsReltime) :
    NeighborDb → ℕ → List Element
  | [], _ => []
  | nr :: rest, i =>
    (if ssid = nr.ssid then (nr.element (nr.sendLci location (now i)) location).toList else []) ++
      neighborElements ssid location now rest (i + 1)

section Response

lemma length_reportBytes (token : UInt8) (report : StoredReport) :
    (reportBytes token report).length = 2 + report.1.length := by
  have hpos := List.length_pos_iff.mpr report.2
  simp only [reportBytes, List.length_cons, List.length_tail]
  omega

lemma appends_putReport (token : UInt8) (report : StoredReport) :
    (putReport token report).Appends (reportBytes token report) := by
  obtain ⟨data, hne⟩ := report
  obtain ⟨b, rest, rfl⟩ := List.exists_cons_of_ne_nil hne
  refine Appends.andThen (appends_put [wlanEidMeasureReport, UInt8.ofNat (b :: rest).length]) ?_
  intro buf hbuf
  have hput : buf.putData (b :: rest) = some ⟨buf.size, buf.buf ++ b :: rest⟩ := appends_put (b :: rest) buf hbuf
  have hwrite : Buffer.write (buf.buf ++ ([b] ++ rest)) buf.buf.length [token] =
      some (buf.buf ++ ([token] ++ rest)) := Buffer.write_block rfl rfl
  dsimp only
  rw [hput, Option.bind_some]
  exact congrArg (Option.map _) hwrite

/-- A subelement that is only there if there is a report and it is asked for. -/
lemma appends_reports (c : Prop) [Decidable c] (token : UInt8) (report : Option StoredReport) :
    (if c then report.elim skip (putReport token) else skip).Appends
      (if c then report.elim [] (reportBytes token) else []) := by
  split_ifs
  · cases report with
    | none => exact appends_skip
    | some report => exact appends_putReport token report
  · exact appends_skip

lemma length_reports (c : Prop) [Decidable c] (token : UInt8) (report : Option StoredReport) :
    (if c then report.elim [] (reportBytes token) else []).length =
      if c then report.elim 0 fun report => 2 + report.1.length else 0 := by
  split_ifs
  · cases report with
    | none => rfl
    | some report => exact length_reportBytes token report
  · rfl

variable (nr : HostapdNeighborEntry) (sendLci : Bool) (location : LocationReq)

/-- The length that is computed is that of what is appended. -/
lemma hostapdNeighborReportLen_eq : nr.hostapdNeighborReportLen sendLci (location.civic ≠ 0) =
    2 + (nr.reportBody sendLci location).length := by
  rw [HostapdNeighborEntry.hostapdNeighborReportLen, HostapdNeighborEntry.reportBody, List.length_append,
    List.length_append, length_reports, length_reports]
  simp only [decide_eq_true_eq]
  omega

lemma length_of_element {e : Element} (h : nr.element sendLci location = some e) :
    e.bytes.length = nr.hostapdNeighborReportLen sendLci (location.civic ≠ 0) := by
  rw [HostapdNeighborEntry.element] at h
  split_ifs at h with hlength
  obtain rfl := Option.some.inj h
  rw [hostapdNeighborReportLen_eq, Element.length_bytes, Nat.add_comm]

lemma appends_putNeighborReport {e : Element} (h : nr.element sendLci location = some e) :
    (putNeighborReport nr sendLci location (nr.hostapdNeighborReportLen sendLci (location.civic ≠ 0))).Appends
      e.bytes := by
  rw [HostapdNeighborEntry.element] at h
  split_ifs at h with hlength
  obtain rfl := Option.some.inj h
  rw [hostapdNeighborReportLen_eq, putNeighborReport, Nat.add_sub_cancel_left]
  exact (appends_put _).andThen ((appends_put nr.nr).andThen
    ((appends_reports (sendLci = true) location.lci nr.lci).andThen (appends_reports _ location.civic nr.civic)))

/-- From any entry on, with any buffer. -/
lemma neighborReports_spec (ssid : List UInt8) (location : LocationReq) (now : ℕ → Option OsReltime) (db : NeighborDb)
    (i : ℕ) (buf : Wpabuf) (hbuf : buf.Valid) :
    ∃ es rest, neighborElements ssid location now db i = es ++ rest ∧
      neighborReports ssid location now db i buf = some ⟨buf.size, buf.buf ++ elementBytes es⟩ ∧
      buf.buf.length + (elementBytes es).length ≤ buf.size ∧
      ∀ e ∈ rest.head?, buf.size < buf.buf.length + (elementBytes es).length + e.bytes.length := by
  induction db generalizing i buf with
  | nil => exact ⟨[], [], rfl, appends_skip buf hbuf, hbuf, by simp⟩
  | cons nr db ih =>
    rw [neighborElements]
    by_cases hssid : ssid = nr.ssid
    · have hlen := hostapdNeighborReportLen_eq nr (nr.sendLci location (now i)) location
      have hreports : neighborReports ssid location now (nr :: db) i buf =
          if 0xff < nr.hostapdNeighborReportLen (nr.sendLci location (now i)) (location.civic ≠ 0) - 2 then
            neighborReports ssid location now db (i + 1) buf
          else if buf.tailroom < nr.hostapdNeighborReportLen (nr.sendLci location (now i)) (location.civic ≠ 0) then
            some buf
          else ((putNeighborReport nr (nr.sendLci location (now i)) location
            (nr.hostapdNeighborReportLen (nr.sendLci location (now i)) (location.civic ≠ 0))).andThen
              (neighborReports ssid location now db (i + 1))) buf := if_neg (not_not.mpr hssid)
      rw [hreports, if_pos hssid]
      by_cases hfit : (nr.reportBody (nr.sendLci location (now i)) location).length < 256
      · obtain ⟨e, he⟩ : ∃ e, nr.element (nr.sendLci location (now i)) location = some e := ⟨_, dif_pos hfit⟩
        have hbytes := length_of_element nr _ location he
        rw [if_neg (by omega), he, ← hbytes]
        by_cases hroom : buf.tailroom < e.bytes.length
        · rw [if_pos hroom]
          rw [Wpabuf.tailroom] at hroom
          refine ⟨[], _, rfl, appends_skip buf hbuf, hbuf, fun e' he' => ?_⟩
          obtain rfl := Option.some.inj he'
          rw [elementBytes_nil, List.length_nil, Nat.add_zero]
          omega
        · rw [if_neg hroom]
          rw [Wpabuf.tailroom] at hroom
          unfold Wpabuf.Valid at hbuf
          have hput := appends_putNeighborReport nr (nr.sendLci location (now i)) location he buf (by omega)
          have hvalid : Wpabuf.Valid ⟨buf.size, buf.buf ++ e.bytes⟩ := by
            simp only [Wpabuf.Valid, List.length_append]
            omega
          obtain ⟨es, rest, helements, hreports, hle, hrest⟩ := ih (i + 1) _ hvalid
          simp only [List.length_append] at hle hrest
          refine ⟨e :: es, rest, ?_, ?_, ?_, fun e' he' => ?_⟩
          · rw [helements]
            rfl
          · rw [hbytes, Wpabuf.Put.andThen, hput, Option.bind_some, hreports, elementBytes_cons, List.append_assoc]
          · rw [elementBytes_cons, List.length_append]
            omega
          · have hlt := hrest e' he'
            rw [elementBytes_cons, List.length_append]
            omega
      · have hnone : nr.element (nr.sendLci location (now i)) location = none := dif_neg hfit
        rw [if_pos (by omega), hnone]
        exact ih (i + 1) buf hbuf
    · have hreports : neighborReports ssid location now (nr :: db) i buf =
          neighborReports ssid location now db (i + 1) buf := if_pos hssid
      rw [hreports, if_neg hssid, List.nil_append]
      exact ih (i + 1) buf hbuf

end Response

/-- The response to a request: its header, and the elements of the entries with the requested SSID, in the order of the
database, up to the first that does not fit into a frame. -/
lemma hostapdSendNeiReportResp_spec (hapd : Rrm) (req : NeiReportReq) (now : ℕ → Option OsReltime) :
    ∃ es rest, neighborElements req.ssid req.location now hapd.nrDb 0 = es ++ rest ∧
      hapd.hostapdSendNeiReportResp req now = some ([5, 5, req.dialogToken] ++ elementBytes es) ∧
      (elementBytes es).length ≤ ieee80211MaxMmpduSize ∧
      ∀ e ∈ rest.head?, ieee80211MaxMmpduSize < (elementBytes es).length + e.bytes.length := by
  have hput : put [5, 5, req.dialogToken] ⟨3 + ieee80211MaxMmpduSize, []⟩ =
      some ⟨3 + ieee80211MaxMmpduSize, [5, 5, req.dialogToken]⟩ := appends_put _ _ (by simp)
  obtain ⟨es, rest, helements, hreports, hle, hrest⟩ := neighborReports_spec req.ssid req.location now hapd.nrDb 0
    ⟨3 + ieee80211MaxMmpduSize, [5, 5, req.dialogToken]⟩ (by simp [Wpabuf.Valid])
  simp only [List.length_cons, List.length_nil] at hle hrest
  refine ⟨es, rest, helements, ?_, by omega, fun e he => ?_⟩
  · rw [Rrm.hostapdSendNeiReportResp, Wpabuf.Put.andThen, hput, Option.bind_some, hreports]
    rfl
  · have hlt := hrest e he
    omega

/-- Each frame is read inside, and nothing is written outside the buffer of a response.  A request for neighbor reports is
answered with whole elements, unless such requests are ignored. -/
theorem hostapdHandleRadioMeasurement_spec (hapd : Rrm) (frame : List UInt8) (now : ℕ → Option OsReltime) :
    (∃ action, hapd.hostapdHandleRadioMeasurement frame now = some action) ∧
    (ieee80211Hdrlen + 3 ≤ frame.length → frame[ieee80211Hdrlen + 1]? = some 4 →
      ∃ r, hapd.hostapdHandleNeiReportReq frame = some r ∧
        (r = none → hapd.hostapdHandleRadioMeasurement frame now = some .nothing) ∧
        ∀ req, r = some req → ∃ es rest,
          hapd.hostapdHandleRadioMeasurement frame now =
            some (.send req.sa ([5, 5, req.dialogToken] ++ elementBytes es)) ∧
          neighborElements req.ssid req.location now hapd.nrDb 0 = es ++ rest ∧
          (elementBytes es).length ≤ ieee80211MaxMmpduSize ∧
          ∀ e ∈ rest.head?, ieee80211MaxMmpduSize < (elementBytes es).length + e.bytes.length) := by
  have hrequest : ieee80211Hdrlen + 3 ≤ frame.length → frame[ieee80211Hdrlen + 1]? = some 4 →
      hapd.hostapdHandleRadioMeasurement frame now = (hapd.hostapdHandleNeiReportReq frame).bind fun r =>
        r.elim (some .nothing) fun req => (hapd.hostapdSendNeiReportResp req now).map fun resp => .send req.sa resp := by
    intro hlong haction
    rw [Rrm.hostapdHandleRadioMeasurement, if_neg (by omega), haction]
    simp only [Option.bind_eq_bind, Option.bind_some]
    rw [if_neg (by decide), if_pos trivial]
    congr 1
    funext r
    cases r with
    | none => rfl
    | some req => rw [Option.elim_some, Option.map_eq_bind]; rfl
  have hresp : ∀ r : Option NeiReportReq, ∃ action, (r.elim (some Rrm.Action.nothing) fun req =>
      (hapd.hostapdSendNeiReportResp req now).map fun resp => .send req.sa resp) = some action := by
    intro r
    cases r with
    | none => exact ⟨_, rfl⟩
    | some req =>
      obtain ⟨es, rest, -, hsend, -⟩ := hostapdSendNeiReportResp_spec hapd req now
      rw [Option.elim_some, hsend]
      exact ⟨_, rfl⟩
  refine ⟨?_, fun hlong haction => ?_⟩
  · by_cases hshort : frame.length < ieee80211Hdrlen + 3
    · exact ⟨_, if_pos hshort⟩
    have hget : frame[ieee80211Hdrlen + 1]? = some frame[ieee80211Hdrlen + 1] := List.getElem?_eq_getElem (by omega)
    by_cases haction : frame[ieee80211Hdrlen + 1] = 4
    · obtain ⟨r, hr⟩ := Option.isSome_iff_exists.mp (hostapdHandleNeiReportReq_isSome hapd (Nat.not_lt.mp hshort))
      rw [haction] at hget
      rw [hrequest (Nat.not_lt.mp hshort) hget, hr]
      exact hresp r
    · have htoken : frame[ieee80211Hdrlen + 2]? = some frame[ieee80211Hdrlen + 2] := List.getElem?_eq_getElem (by omega)
      obtain ⟨types, htypes⟩ := Option.isSome_iff_exists.mp
        (@measureReports_isSome frame (ieee80211Hdrlen + 3))
      rw [Rrm.hostapdHandleRadioMeasurement, if_neg hshort]
      simp only [Option.bind_eq_bind, hget, Option.bind_some, htoken, htypes]
      rw [if_neg haction]
      split_ifs <;> exact ⟨_, rfl⟩
  · obtain ⟨r, hr⟩ := Option.isSome_iff_exists.mp (hostapdHandleNeiReportReq_isSome hapd hlong)
    refine ⟨r, hr, ?_, ?_⟩
    · rintro rfl
      rw [hrequest hlong haction, hr]
      rfl
    · rintro req rfl
      obtain ⟨es, rest, helements, hsend, hspec⟩ := hostapdSendNeiReportResp_spec hapd req now
      refine ⟨es, rest, ?_, helements, hspec⟩
      rw [hrequest hlong haction, hr, Option.bind_some, Option.elim_some, hsend]
      rfl

end Ethanol
