import EthanolHostapd.Ap.Anqp
import EthanolHostapd.Ap.GasServ
import EthanolHostapd.Ap.MgmtFrame

/-!
# ANQP queries

What `gas_serv_rx_public_action` of `gas_serv.c` reads of a received frame: the GAS request, the elements of an ANQP query
and, for the response, the realms of a home realm query.  Only the places of the queries are recorded at first.  An access
that would leave the frame has no result.
-/

namespace Ethanol

open Wire

/-- `struct anqp_query_info`; the home realm query and the name of an icon are where they are in the frame and how long. -/
structure AnqpQuery where
  request : ℕ := 0
  homeRealmQuery : Option (ℕ × ℕ) := none
  iconName : Option (ℕ × ℕ) := none
  p2pSd : Bool := false
  extraReq : List ℕ := []

/-- `set_anqp_req`. -/
def AnqpQuery.setAnqpReq (qi : AnqpQuery) (k : ℕ) : AnqpQuery := { qi with request := qi.request ||| 1 <<< k }

/-! ## The elements of a query -/

/-- The Info IDs that have a place in `request`. -/
def requestInfoIds : List ℕ :=
  [anqpCapabilityList, anqpVenueName, anqpEmergencyCallNumber, anqpNetworkAuthType, anqpRoamingConsortium,
    anqpIpAddrTypeAvailability, anqpNaiRealm, anqp3gppCellularNetwork, anqpApGeospatialLocation, anqpApCivicLocation,
    anqpApLocationPublicUri, anqpDomainName, anqpEmergencyAlertUri, anqpTdlsCapability, anqpEmergencyNai]

/-- `rx_anqp_query_list_id`. -/
def rxAnqpQueryListId (conf : AnqpConf) (infoId : ℕ) (qi : AnqpQuery) : AnqpQuery :=
  if infoId ∈ requestInfoIds then qi.setAnqpReq (anqpReq infoId)
  else if (conf.getAnqpElem infoId).isNone then qi
  else if qi.extraReq.length = anqpMaxExtraReq then qi
  else { qi with extraReq := qi.extraReq ++ [infoId] }

/-- `rx_anqp_query_list`. -/
def rxAnqpQueryList (conf : AnqpConf) (frame : List UInt8) (stop pos : ℕ) (qi : AnqpQuery) : Option AnqpQuery :=
  if 2 ≤ stop - pos then
    (Buffer.read frame pos 2).bind fun infoId =>
      rxAnqpQueryList conf frame stop (pos + 2) (rxAnqpQueryListId conf (leNat infoId) qi)
  else some qi
termination_by stop - pos

/-- The subtypes that have a place in `request` when they are in a query list. -/
def requestSubtypes : List UInt8 :=
  [hs20StypeCapabilityList, hs20StypeOperatorFriendlyName, hs20StypeWanMetrics, hs20StypeConnectionCapability,
    hs20StypeOperatingClass, hs20StypeOsuProvidersList]

/-- `rx_anqp_hs_query_list`. -/
def rxAnqpHsQueryList (subtype : UInt8) (qi : AnqpQuery) : AnqpQuery :=
  if subtype ∈ requestSubtypes then qi.setAnqpReq (anqpReqHs20 subtype) else qi

/-- The loop over a query list of HS 2.0. -/
def rxAnqpHsQueryLists (frame : List UInt8) (stop pos : ℕ) (qi : AnqpQuery) : Option AnqpQuery :=
  if pos < stop then
    (frame[pos]?).bind fun subtype => rxAnqpHsQueryLists frame stop (pos + 1) (rxAnqpHsQueryList subtype qi)
  else some qi
termination_by stop - pos

/-- `rx_anqp_hs_nai_home_realm`. -/
def rxAnqpHsNaiHomeRealm (pos stop : ℕ) (qi : AnqpQuery) : AnqpQuery :=
  { qi.setAnqpReq (anqpReqHs20 hs20StypeNaiHomeRealmQuery) with homeRealmQuery := some (pos, stop - pos) }

/-- `rx_anqp_hs_icon_request`. -/
def rxAnqpHsIconRequest (pos stop : ℕ) (qi : AnqpQuery) : AnqpQuery :=
  { qi.setAnqpReq (anqpReqHs20 hs20StypeIconRequest) with iconName := some (pos, stop - pos) }

/-- `rx_anqp_vendor_specific`. -/
def rxAnqpVendorSpecific (frame : List UInt8) (pos stop : ℕ) (qi : AnqpQuery) : Option AnqpQuery :=
  if stop - pos < 4 then some qi
  else do
    let oui ← Buffer.read frame pos 3
    if oui ≠ [0x50, 0x6f, 0x9a] then pure qi -- OUI_WFA
    else
      let type ← frame[pos + 3]?
      if type = 9 then pure { qi with p2pSd := true } -- P2P_OUI_TYPE
      else if type ≠ 17 then pure qi -- HS20_ANQP_OUI_TYPE
      else if stop - (pos + 4) ≤ 1 then pure qi
      else
        let subtype ← frame[pos + 4]?
        if subtype = hs20StypeQueryList then rxAnqpHsQueryLists frame stop (pos + 6) qi
        else if subtype = hs20StypeNaiHomeRealmQuery then pure (rxAnqpHsNaiHomeRealm (pos + 6) stop qi)
        else if subtype = hs20StypeIconRequest then pure (rxAnqpHsIconRequest (pos + 6) stop qi)
        else pure qi

/-- An element of a query. -/
def rxAnqpElement (conf : AnqpConf) (frame : List UInt8) (infoId pos stop : ℕ) (qi : AnqpQuery) : Option AnqpQuery :=
  if infoId = anqpQueryList then rxAnqpQueryList conf frame stop pos qi
  else if infoId = anqpVendorSpecific then rxAnqpVendorSpecific frame pos stop qi
  else some qi

/-- The loop over the elements of a query; there is no query if the last one is not complete. -/
def rxAnqpElements (conf : AnqpConf) (frame : List UInt8) (stop pos : ℕ) (qi : AnqpQuery) :
    Option (Option AnqpQuery) :=
  if pos < stop then
    if stop - pos < 4 then some none
    else do
      let infoId := leNat (← Buffer.read frame pos 2)
      let elen := leNat (← Buffer.read frame (pos + 2) 2)
      if stop - (pos + 4) < elen then pure none
      else
        let qi ← rxAnqpElement conf frame infoId (pos + 4) (pos + 4 + elen) qi
        rxAnqpElements conf frame stop (pos + 4 + elen) qi
  else some (some qi)
termination_by stop - pos

/-! ## The frame -/

/-- What a frame asks for: nothing that is answered, something that is answered at once, a query, or the next fragment of
a response. -/
inductive GasRequest
  | dropped
  | unsupported (sent : GasSent)
  | initialReq (sa : MacAddr) (dialogToken : UInt8) (qi : AnqpQuery) (prot stdAddr3 : Bool)
  | comebackReq (sa : MacAddr) (data : List UInt8) (prot stdAddr3 : Bool)

/-- `gas_serv_rx_gas_initial_req`, for the bytes of the frame from `data` on. -/
def gasServRxGasInitialReq (conf : AnqpConf) (sa : MacAddr) (frame : List UInt8) (data : ℕ) (prot stdAddr3 : Bool) :
    Option GasRequest :=
  let stop := frame.length
  if stop - data < 1 + 2 then some .dropped
  else do
    let dialogToken ← frame[data]?
    if (← frame[data + 1]?) ≠ 108 then pure .dropped -- WLAN_EID_ADV_PROTO
    else
      let slen := (← frame[data + 2]?).toNat
      let pos := data + 3
      if stop - pos < slen ∨ slen < 2 then pure .dropped
      else if (← frame[pos + 1]?) ≠ 0 then -- ACCESS_NETWORK_QUERY_PROTOCOL
        if isMulticastEtherAddr sa then pure .dropped
        else
          let advProto ← Buffer.read frame (data + 1) (2 + slen)
          -- WLAN_STATUS_GAS_ADV_PROTO_NOT_SUPPORTED
          let buf := gasBuildResp wlanPaGasInitialResp dialogToken 59 0 false 0 ++ (advProto ++ leBytes 2 0)
          pure (.unsupported ⟨sa, convertToProtectedDual prot buf, stdAddr3⟩)
      else
        let pos := pos + slen
        if stop - pos < 2 then pure .dropped
        else
          let slen := leNat (← Buffer.read frame pos 2)
          if stop - (pos + 2) < slen then pure .dropped
          else
            let qi ← rxAnqpElements conf frame (pos + 2 + slen) (pos + 2) {}
            pure (qi.elim .dropped fun qi => .initialReq sa dialogToken qi prot stdAddr3)

/-- `std_addr3` of `gas_serv_rx_public_action`. -/
def gasStdAddr3 (gasAddress3 : ℕ) (frame : List UInt8) : Option Bool :=
  if gasAddress3 = 1 then some true
  else if gasAddress3 = 2 then some false
  else (macAddrAt frame 16).map fun bssid => bssid = Vector.replicate 6 0xff -- is_broadcast_ether_addr

/-- `gas_serv_rx_public_action`. -/
def gasServRxPublicAction (conf : AnqpConf) (gasAddress3 : ℕ) (frame : List UInt8) : Option GasRequest :=
  if frame.length < ieee80211Hdrlen + 2 then some .dropped
  else do
    let category ← frame[ieee80211Hdrlen]?
    if category ≠ 4 ∧ category ≠ 9 then pure .dropped -- WLAN_ACTION_PUBLIC, WLAN_ACTION_PROTECTED_DUAL
    else
      let prot : Bool := category = 9
      let sa ← macAddrAt frame 10
      let stdAddr3 ← gasStdAddr3 gasAddress3 frame
      let action ← frame[ieee80211Hdrlen + 1]?
      if action = 10 then -- WLAN_PA_GAS_INITIAL_REQ
        gasServRxGasInitialReq conf sa frame (ieee80211Hdrlen + 2) prot stdAddr3
      else if action = 12 then -- WLAN_PA_GAS_COMEBACK_REQ
        let data ← Buffer.read frame (ieee80211Hdrlen + 2) (frame.length - (ieee80211Hdrlen + 2))
        pure (.comebackReq sa data prot stdAddr3)
      else pure .dropped

/-! ## The realms of a home realm query -/

/-- The end of a name: the first `;` from `rend` on, or `stop`. -/
def realmNameEnd (frame : List UInt8) (stop rend : ℕ) : Option ℕ :=
  if rend < stop then (frame[rend]?).bind fun b => if b = 59 then some rend else realmNameEnd frame stop (rend + 1)
  else some rend
termination_by stop - rend

/-- The loop over `realm->realm[k]`, from `k` on, for the name from `rpos` to `rend`. -/
def matchRealmStringsAt (frame : List UInt8) (rpos rend j : ℕ) :
    List (List UInt8) → ℕ → List (ℕ × ℕ) → Option (List (ℕ × ℕ))
  | [], _, found => some found
  | s :: ss, k, found =>
    if maxHomeRealmMatches ≤ found.length then some found
    else if s.length ≠ rend - rpos then matchRealmStringsAt frame rpos rend j ss (k + 1) found
    else
      (Buffer.read frame rpos (rend - rpos)).bind fun name =>
        matchRealmStringsAt frame rpos rend j ss (k + 1) (if s = name then found ++ [(j, k)] else found)

lemma le_of_realmNameEnd {frame : List UInt8} {stop rend r : ℕ} (h : realmNameEnd frame stop rend = some r) :
    rend ≤ r := by
  fun_induction realmNameEnd frame stop rend with
  | case1 rend hlt ih =>
    obtain ⟨b, -, h⟩ := Option.bind_eq_some_iff.mp h
    split_ifs at h
    · exact (Option.some.inj h).le
    · exact (Nat.le_succ _).trans (ih h)
  | case2 rend hlt => exact (Option.some.inj h).le

/-- The loop over the names of a realm of the query, from `rpos` to `stop`. -/
def matchRealmNamesAt (frame : List UInt8) (j : ℕ) (realm : HostapdNaiRealmData) (stop rpos : ℕ)
    (found : List (ℕ × ℕ)) : Option (List (ℕ × ℕ)) :=
  if rpos < stop ∧ found.length < maxHomeRealmMatches then
    match h : realmNameEnd frame stop rpos with
    | none => none
    | some rend =>
      have := le_of_realmNameEnd h
      (matchRealmStringsAt frame rpos rend j realm.realm 0 found).bind fun found =>
        matchRealmNamesAt frame j realm stop (rend + 1) found
  else some found
termination_by stop - rpos

/-- The loop over the realms of the configuration, from `j` on. -/
def matchRealmsAt (frame : List UInt8) (encoding : UInt8) (realmName stop : ℕ) :
    List HostapdNaiRealmData → ℕ → List (ℕ × ℕ) → Option (List (ℕ × ℕ))
  | [], _, found => some found
  | realm :: realms, j, found =>
    if maxHomeRealmMatches ≤ found.length then some found
    else if encoding ≠ realm.encoding then matchRealmsAt frame encoding realmName stop realms (j + 1) found
    else
      (matchRealmNamesAt frame j realm stop realmName found).bind fun found =>
        matchRealmsAt frame encoding realmName stop realms (j + 1) found

/-- The loop over the realms of the query; nothing is found if the query is truncated. -/
def homeRealmMatchesLoopAt (frame : List UInt8) (realms : List HostapdNaiRealmData) (stop : ℕ) :
    ℕ → ℕ → List (ℕ × ℕ) → Option (Option (List (ℕ × ℕ)))
  | 0, _, found => some (some found)
  | n + 1, pos, found =>
    if maxHomeRealmMatches ≤ found.length then some (some found)
    else if stop - pos < 2 then some none
    else do
      let encoding ← frame[pos]?
      let realmLen := (← frame[pos + 1]?).toNat
      if stop - (pos + 2) < realmLen then pure none
      else
        let found ← matchRealmsAt frame encoding (pos + 2) (pos + 2 + realmLen) realms 0 found
        homeRealmMatchesLoopAt frame realms stop n (pos + 2 + realmLen) found

/-- The matches of `hs20_add_nai_home_realm_matches`, for the query of `len` bytes from `off` on. -/
def homeRealmMatchesAt (realms : List HostapdNaiRealmData) (frame : List UInt8) (off len : ℕ) :
    Option (Option (List (ℕ × ℕ))) :=
  if len < 1 then some none
  else (frame[off]?).bind fun numRealms => homeRealmMatchesLoopAt frame realms (off + len) numRealms.toNat (off + 1) []

/-- A part of the frame that has been recorded. -/
def readRecorded (frame : List UInt8) : Option (ℕ × ℕ) → Option (Option (List UInt8))
  | none => some none
  | some r => (Buffer.read frame r.1 r.2).map some

/-- The query with the bytes of the frame. -/
def AnqpQuery.info (qi : AnqpQuery) (frame : List UInt8) : Option AnqpQueryInfo := do
  let homeRealmQuery ← readRecorded frame qi.homeRealmQuery
  let iconName ← readRecorded frame qi.iconName
  pure { request := qi.request, homeRealmQuery, iconName := iconName.getD [], p2pSd := qi.p2pSd, extraReq := qi.extraReq }

/-! ## Reading a query -/

/-- What is recorded lies inside the `n` bytes of the frame, and there are not too many extra requests. -/
structure AnqpQuery.Inside (n : ℕ) (qi : AnqpQuery) : Prop where
  homeRealm : ∀ r ∈ qi.homeRealmQuery, r.1 + r.2 ≤ n
  iconName : ∀ r ∈ qi.iconName, r.1 + r.2 ≤ n
  extraReq : qi.extraReq.length ≤ anqpMaxExtraReq

namespace AnqpQuery

variable {n : ℕ} {qi : AnqpQuery}

lemma inside_empty (n : ℕ) : AnqpQuery.Inside n {} := ⟨by simp, by simp, Nat.zero_le _⟩

lemma Inside.setAnqpReq (hqi : qi.Inside n) (k : ℕ) : (qi.setAnqpReq k).Inside n :=
  ⟨hqi.homeRealm, hqi.iconName, hqi.extraReq⟩

lemma Inside.rxAnqpQueryListId (hqi : qi.Inside n) (conf : AnqpConf) (infoId : ℕ) :
    (rxAnqpQueryListId conf infoId qi).Inside n := by
  rw [Ethanol.rxAnqpQueryListId]
  split_ifs with hrequest helem hfull
  · exact hqi.setAnqpReq _
  · exact hqi
  · exact hqi
  · refine ⟨hqi.homeRealm, hqi.iconName, ?_⟩
    have hle := hqi.extraReq
    rw [List.length_append, List.length_singleton]
    omega

lemma Inside.rxAnqpHsQueryList (hqi : qi.Inside n) (subtype : UInt8) : (rxAnqpHsQueryList subtype qi).Inside n := by
  rw [Ethanol.rxAnqpHsQueryList]
  split_ifs
  · exact hqi.setAnqpReq _
  · exact hqi

lemma Inside.withHomeRealm (hqi : qi.Inside n) {pos stop : ℕ} (hpos : pos ≤ stop) (hstop : stop ≤ n) :
    (rxAnqpHsNaiHomeRealm pos stop qi).Inside n := by
  refine ⟨fun r hr => ?_, hqi.iconName, hqi.extraReq⟩
  obtain rfl := Option.some.inj hr
  show pos + (stop - pos) ≤ n
  omega

lemma Inside.withIconName (hqi : qi.Inside n) {pos stop : ℕ} (hpos : pos ≤ stop) (hstop : stop ≤ n) :
    (rxAnqpHsIconRequest pos stop qi).Inside n := by
  refine ⟨hqi.homeRealm, fun r hr => ?_, hqi.extraReq⟩
  obtain rfl := Option.some.inj hr
  show pos + (stop - pos) ≤ n
  omega

end AnqpQuery

section Reading

variable {conf : AnqpConf} {frame : List UInt8} {stop pos : ℕ} {qi : AnqpQuery}

lemma exists_rxAnqpQueryList (hstop : stop ≤ frame.length) (hqi : qi.Inside frame.length) :
    ∃ qi', rxAnqpQueryList conf frame stop pos qi = some qi' ∧ qi'.Inside frame.length := by
  fun_induction rxAnqpQueryList conf frame stop pos qi with
  | case1 pos qi hroom ih =>
    exact Buffer.exists_bind_read (by omega) fun infoId _ => ih infoId (hqi.rxAnqpQueryListId conf _)
  | case2 pos qi hroom => exact ⟨qi, rfl, hqi⟩

lemma exists_rxAnqpHsQueryLists (hstop : stop ≤ frame.length) (hqi : qi.Inside frame.length) :
    ∃ qi', rxAnqpHsQueryLists frame stop pos qi = some qi' ∧ qi'.Inside frame.length := by
  fun_induction rxAnqpHsQueryLists frame stop pos qi with
  | case1 pos qi hroom ih =>
    exact Buffer.exists_bind_get (by omega) fun subtype => ih subtype (hqi.rxAnqpHsQueryList subtype)
  | case2 pos qi hroom => exact ⟨qi, rfl, hqi⟩

lemma exists_rxAnqpVendorSpecific (hstop : stop ≤ frame.length) (hqi : qi.Inside frame.length) :
    ∃ qi', rxAnqpVendorSpecific frame pos stop qi = some qi' ∧ qi'.Inside frame.length := by
  have hsame : ∃ qi', some qi = some qi' ∧ qi'.Inside frame.length := ⟨qi, rfl, hqi⟩
  rw [rxAnqpVendorSpecific]
  by_cases hshort : stop - pos < 4
  · rw [if_pos hshort]
    exact hsame
  rw [if_neg hshort]
  refine Buffer.exists_bind_read (by omega) fun oui _ => ?_
  by_cases houi : oui ≠ [0x50, 0x6f, 0x9a]
  · rw [if_pos houi]
    exact hsame
  rw [if_neg houi]
  refine Buffer.exists_bind_get (by omega) fun type => ?_
  split_ifs with hp2p hhs20 hend
  · exact ⟨_, rfl, ⟨hqi.homeRealm, hqi.iconName, hqi.extraReq⟩⟩
  · exact hsame
  · exact hsame
  refine Buffer.exists_bind_get (by omega) fun subtype => ?_
  split_ifs
  · exact exists_rxAnqpHsQueryLists hstop hqi
  · exact ⟨_, rfl, hqi.withHomeRealm (show pos + 6 ≤ stop by omega) hstop⟩
  · exact ⟨_, rfl, hqi.withIconName (show pos + 6 ≤ stop by omega) hstop⟩
  · exact hsame

lemma exists_rxAnqpElement (infoId : ℕ) (hstop : stop ≤ frame.length) (hqi : qi.Inside frame.length) :
    ∃ qi', rxAnqpElement conf frame infoId pos stop qi = some qi' ∧ qi'.Inside frame.length := by
  rw [rxAnqpElement]
  split_ifs
  · exact exists_rxAnqpQueryList hstop hqi
  · exact exists_rxAnqpVendorSpecific hstop hqi
  · exact ⟨qi, rfl, hqi⟩

lemma exists_rxAnqpElements (hstop : stop ≤ frame.length) (hqi : qi.Inside frame.length) :
    ∃ r, rxAnqpElements conf frame stop pos qi = some r ∧ ∀ qi' ∈ r, qi'.Inside frame.length := by
  fun_induction rxAnqpElements conf frame stop pos qi with
  | case1 pos qi hlt hshort => exact ⟨none, rfl, by simp⟩
  | case2 pos qi hlt hshort ih =>
    refine Buffer.exists_bind_read (by omega) fun infoId _ => Buffer.exists_bind_read (by omega) fun elen _ => ?_
    dsimp only
    split_ifs with hlong
    · exact ⟨none, rfl, by simp⟩
    · have hstop : pos + 4 + leNat elen ≤ frame.length := by omega
      obtain ⟨qi', hqi', hinside⟩ := @exists_rxAnqpElement conf frame _ (pos + 4) qi (leNat infoId) hstop hqi
      obtain ⟨r, hr, hall⟩ := ih elen hlong qi' hinside
      exact ⟨r, Option.bind_eq_some_iff.mpr ⟨qi', hqi', hr⟩, hall⟩
  | case3 pos qi hlt =>
    refine ⟨some qi, rfl, fun qi' hqi' => ?_⟩
    obtain rfl := Option.some.inj hqi'
    exact hqi

lemma exists_gasServRxGasInitialReq (sa : MacAddr) (data : ℕ) (prot stdAddr3 : Bool) :
    ∃ req, gasServRxGasInitialReq conf sa frame data prot stdAddr3 = some req ∧
      ∀ sa' dialogToken qi prot' stdAddr3', req = .initialReq sa' dialogToken qi prot' stdAddr3' →
        qi.Inside frame.length := by
  have hdropped : ∃ req, some GasRequest.dropped = some req ∧ ∀ sa' dialogToken qi prot' stdAddr3',
      req = .initialReq sa' dialogToken qi prot' stdAddr3' → AnqpQuery.Inside frame.length qi :=
    ⟨_, rfl, fun _ _ _ _ _ h => by cases h⟩
  rw [gasServRxGasInitialReq]
  by_cases hshort : frame.length - data < 1 + 2
  · rw [if_pos hshort]
    exact hdropped
  rw [if_neg hshort]
  refine Buffer.exists_bind_get (by omega) fun dialogToken => Buffer.exists_bind_get (by omega) fun id => ?_
  by_cases hid : id ≠ 108
  · rw [if_pos hid]
    exact hdropped
  rw [if_neg hid]
  refine Buffer.exists_bind_get (by omega) fun slen => ?_
  by_cases hslen : frame.length - (data + 3) < slen.toNat ∨ slen.toNat < 2
  · exact (if_pos hslen).symm ▸ hdropped
  refine (if_neg hslen).symm ▸ Buffer.exists_bind_get (by omega) fun protocol => ?_
  by_cases hprotocol : protocol ≠ 0
  · rw [if_pos hprotocol]
    by_cases hmulticast : isMulticastEtherAddr sa = true
    · rw [if_pos hmulticast]
      exact hdropped
    · rw [if_neg hmulticast]
      exact Buffer.exists_bind_read (by omega) fun advProto _ => ⟨_, rfl, fun _ _ _ _ _ h => by cases h⟩
  rw [if_neg hprotocol]
  by_cases hquery : frame.length - (data + 3 + slen.toNat) < 2
  · exact (if_pos hquery).symm ▸ hdropped
  refine (if_neg hquery).symm ▸ Buffer.exists_bind_read (by omega) fun qlen _ => ?_
  by_cases hqlen : frame.length - (data + 3 + slen.toNat + 2) < leNat qlen
  · exact (if_pos hqlen).symm ▸ hdropped
  obtain ⟨r, hr, hinside⟩ := @exists_rxAnqpElements conf frame (data + 3 + slen.toNat + 2 + leNat qlen)
    (data + 3 + slen.toNat + 2) {} (by omega) (AnqpQuery.inside_empty frame.length)
  refine ⟨_, (if_neg hqlen).trans (Option.bind_eq_some_iff.mpr ⟨r, hr, rfl⟩), fun sa' token qi prot' std h => ?_⟩
  cases r with
  | none => cases h
  | some qi' =>
    cases h
    exact hinside qi rfl

lemma exists_gasServRxPublicAction (gasAddress3 : ℕ) :
    ∃ req, gasServRxPublicAction conf gasAddress3 frame = some req ∧
      ∀ sa dialogToken qi prot stdAddr3, req = .initialReq sa dialogToken qi prot stdAddr3 → qi.Inside frame.length := by
  have hdropped : ∃ req, some GasRequest.dropped = some req ∧ ∀ sa dialogToken qi prot stdAddr3,
      req = .initialReq sa dialogToken qi prot stdAddr3 → AnqpQuery.Inside frame.length qi :=
    ⟨_, rfl, fun _ _ _ _ _ h => by cases h⟩
  rw [gasServRxPublicAction, ieee80211Hdrlen]
  by_cases hshort : frame.length < 24 + 2
  · rw [if_pos hshort]
    exact hdropped
  rw [if_neg hshort]
  refine Buffer.exists_bind_get (by omega) fun category => ?_
  by_cases hcategory : category ≠ 4 ∧ category ≠ 9
  · rw [if_pos hcategory]
    exact hdropped
  rw [if_neg hcategory]
  obtain ⟨sa, hsa⟩ := @macAddrAt_eq_some frame 10 (by omega)
  obtain ⟨bssid, hbssid⟩ := @macAddrAt_eq_some frame 16 (by omega)
  obtain ⟨stdAddr3, hstd⟩ : ∃ stdAddr3, gasStdAddr3 gasAddress3 frame = some stdAddr3 := by
    rw [gasStdAddr3, hbssid]
    split_ifs <;> exact ⟨_, rfl⟩
  simp only [hsa, hstd, Option.bind_eq_bind, Option.bind_some]
  refine Buffer.exists_bind_get (by omega) fun action => ?_
  split_ifs
  · exact exists_gasServRxGasInitialReq sa _ _ _
  · exact Buffer.exists_bind_read (by omega) fun data _ => ⟨_, rfl, fun _ _ _ _ _ h => by cases h⟩
  · exact hdropped

lemma AnqpQuery.Inside.info_isSome {qi : AnqpQuery} (hqi : qi.Inside frame.length) : (qi.info frame).isSome = true := by
  have hread : ∀ r : Option (ℕ × ℕ), (∀ p ∈ r, p.1 + p.2 ≤ frame.length) → ∃ data, readRecorded frame r = some data := by
    intro r hr
    cases r with
    | none => exact ⟨none, rfl⟩
    | some p => exact ⟨some (Buffer.window frame p.1 p.2), by rw [readRecorded, Buffer.read_eq_some (hr p rfl)]; rfl⟩
  obtain ⟨homeRealm, hhomeRealm⟩ := hread qi.homeRealmQuery hqi.homeRealm
  obtain ⟨iconName, hiconName⟩ := hread qi.iconName hqi.iconName
  rw [AnqpQuery.info, hhomeRealm, hiconName]
  rfl

end Reading

/-! ## The realms of a query, read in place -/

section InPlace

variable {frame : List UInt8} {stop pos : ℕ} {found : List (ℕ × ℕ)}

lemma realmNameEnd_eq (hstop : stop ≤ frame.length) (hpos : pos ≤ stop) :
    realmNameEnd frame stop pos =
      some (pos + ((Buffer.window frame pos (stop - pos)).takeWhile (· ≠ 59)).length) := by
  fun_induction realmNameEnd frame stop pos with
  | case1 pos hlt ih =>
    obtain ⟨b, hb⟩ : ∃ b, frame[pos]? = some b := ⟨_, List.getElem?_eq_getElem (by omega)⟩
    rw [hb, Option.bind_some, Buffer.window_cons hb (by omega), List.takeWhile_cons]
    by_cases hsep : b = 59
    · simp [hsep]
    · rw [if_neg hsep, ih (by omega), if_pos (by simpa using hsep), List.length_cons,
        show stop - pos - 1 = stop - (pos + 1) by omega]
      congr 1
      omega
  | case2 pos hlt =>
    rw [show stop - pos = 0 by omega]
    rfl

lemma matchRealmStringsAt_eq {rend : ℕ} (hrend : rend ≤ frame.length) (hpos : pos ≤ rend) (j : ℕ) (ss : List (List UInt8))
    (k : ℕ) : matchRealmStringsAt frame pos rend j ss k found =
      some (matchRealmStrings (Buffer.window frame pos (rend - pos)) j ss k found) := by
  induction ss generalizing k found with
  | nil => rfl
  | cons s ss ih =>
    have hinside : pos + (rend - pos) ≤ frame.length := by omega
    rw [matchRealmStringsAt, matchRealmStrings]
    by_cases hfull : maxHomeRealmMatches ≤ found.length
    · rw [if_pos hfull, if_pos hfull]
    rw [if_neg hfull, if_neg hfull]
    by_cases hlength : s.length ≠ rend - pos
    · have hne : s ≠ Buffer.window frame pos (rend - pos) := fun heq =>
        hlength (by rw [heq, Buffer.length_window hinside])
      rw [if_pos hlength, if_neg hne, ih]
    · rw [if_neg hlength, Buffer.read_eq_some hinside, Option.bind_some, ih]

lemma matchRealmNamesAt_eq (j : ℕ) (realm : HostapdNaiRealmData) (hstop : stop ≤ frame.length) :
    matchRealmNamesAt frame j realm stop pos found =
      some (matchRealmNames j realm (Buffer.window frame pos (stop - pos)) found) := by
  fun_induction matchRealmNamesAt frame j realm stop pos found with
  | case1 pos found hgo hend =>
    rw [realmNameEnd_eq hstop hgo.1.le] at hend
    cases hend
  | case2 pos found hgo rend hend hle ih =>
    rw [realmNameEnd_eq hstop hgo.1.le] at hend
    obtain rfl := Option.some.inj hend
    have hlength : (Buffer.window frame pos (stop - pos)).length = stop - pos := Buffer.length_window (by omega)
    have hprefix := List.takeWhile_prefix (· ≠ (59 : UInt8)) (l := Buffer.window frame pos (stop - pos))
    have hname_le := hprefix.length_le
    have hname := List.prefix_iff_eq_take.mp hprefix
    rw [hlength] at hname_le
    rw [Buffer.take_window hname_le] at hname
    have hgo' : ¬(Buffer.window frame pos (stop - pos) = [] ∨ maxHomeRealmMatches ≤ found.length) := by
      rintro (hnil | hfull)
      · rw [hnil, List.length_nil] at hlength
        omega
      · omega
    have hrend : pos + ((Buffer.window frame pos (stop - pos)).takeWhile (· ≠ 59)).length ≤ frame.length := by omega
    have hstrings := @matchRealmStringsAt_eq frame pos found _ hrend (Nat.le_add_right _ _) j realm.realm 0
    rw [Nat.add_sub_cancel_left, ← hname] at hstrings
    rw [hstrings, Option.bind_some, ih, matchRealmNames.eq_def j realm (Buffer.window frame pos (stop - pos)) found,
      if_neg hgo']
    dsimp only
    rw [Buffer.drop_window, Nat.add_assoc, Nat.sub_add_eq]
  | case3 pos found hgo =>
    rw [matchRealmNames, if_pos]
    by_cases hlt : pos < stop
    · exact Or.inr (by omega)
    · left
      rw [show stop - pos = 0 by omega]
      rfl

lemma matchRealmsAt_eq (encoding : UInt8) (realms : List HostapdNaiRealmData) (j : ℕ) (hstop : stop ≤ frame.length) :
    matchRealmsAt frame encoding pos stop realms j found =
      some (matchRealms encoding (Buffer.window frame pos (stop - pos)) realms j found) := by
  induction realms generalizing j found with
  | nil => rfl
  | cons realm realms ih =>
    rw [matchRealmsAt, matchRealms]
    by_cases hfull : maxHomeRealmMatches ≤ found.length
    · rw [if_pos hfull, if_pos hfull]
    rw [if_neg hfull, if_neg hfull]
    by_cases hencoding : encoding = realm.encoding
    · rw [if_neg (not_not.mpr hencoding), if_pos hencoding, matchRealmNamesAt_eq j realm hstop, Option.bind_some, ih]
    · rw [if_pos hencoding, if_neg hencoding, ih]

lemma homeRealmMatchesLoop_of_full (realms : List HostapdNaiRealmData) (n : ℕ) (bytes : List UInt8)
    (hfull : maxHomeRealmMatches ≤ found.length) : homeRealmMatchesLoop realms n bytes found = some found := by
  cases n with
  | zero => rfl
  | succ n => exact if_pos hfull

lemma homeRealmMatchesLoop_of_short (realms : List HostapdNaiRealmData) (n : ℕ) {bytes : List UInt8}
    (hfull : ¬maxHomeRealmMatches ≤ found.length) (hshort : bytes.length < 2) :
    homeRealmMatchesLoop realms (n + 1) bytes found = none := by
  cases bytes with
  | nil => exact if_neg hfull
  | cons b bytes =>
    cases bytes with
    | nil => exact if_neg hfull
    | cons b' bytes =>
      simp only [List.length_cons] at hshort
      omega

lemma homeRealmMatchesLoopAt_eq (realms : List HostapdNaiRealmData) (n : ℕ) (hstop : stop ≤ frame.length)
    (hpos : pos ≤ stop) : homeRealmMatchesLoopAt frame realms stop n pos found =
      some (homeRealmMatchesLoop realms n (Buffer.window frame pos (stop - pos)) found) := by
  induction n generalizing pos found with
  | zero => rfl
  | succ n ih =>
    rw [homeRealmMatchesLoopAt]
    by_cases hfull : maxHomeRealmMatches ≤ found.length
    · rw [if_pos hfull, homeRealmMatchesLoop_of_full realms _ _ hfull]
    rw [if_neg hfull]
    by_cases hshort : stop - pos < 2
    · have hlength : (Buffer.window frame pos (stop - pos)).length < 2 := by
        rw [Buffer.length_window (by omega)]
        exact hshort
      rw [if_pos hshort, homeRealmMatchesLoop_of_short realms n hfull hlength]
    obtain ⟨encoding, hencoding⟩ : ∃ b, frame[pos]? = some b := ⟨_, List.getElem?_eq_getElem (by omega)⟩
    obtain ⟨len, hlen⟩ : ∃ b, frame[pos + 1]? = some b := ⟨_, List.getElem?_eq_getElem (by omega)⟩
    have hwindow : Buffer.window frame pos (stop - pos) =
        encoding :: len :: Buffer.window frame (pos + 2) (stop - (pos + 2)) := by
      rw [Buffer.window_cons hencoding (by omega), Buffer.window_cons hlen (by omega),
        show stop - pos - 1 - 1 = stop - (pos + 2) by omega]
    have hlength : (Buffer.window frame (pos + 2) (stop - (pos + 2))).length = stop - (pos + 2) :=
      Buffer.length_window (by omega)
    rw [if_neg hshort, hwindow, homeRealmMatchesLoop, if_neg hfull, hlength]
    simp only [hencoding, hlen, Option.bind_eq_bind, Option.bind_some]
    by_cases hlong : stop - (pos + 2) < len.toNat
    · rw [if_pos hlong, if_pos hlong]
      rfl
    rw [if_neg hlong, if_neg hlong, matchRealmsAt_eq encoding realms 0 (by omega), Option.bind_some, ih (by omega),
      Nat.add_sub_cancel_left, Buffer.take_window (by omega), Buffer.drop_window, Nat.sub_add_eq]

/-- In the frame the matches are those of the bytes of the query. -/
lemma homeRealmMatchesAt_eq (realms : List HostapdNaiRealmData) {off len : ℕ} (h : off + len ≤ frame.length) :
    homeRealmMatchesAt realms frame off len = some (homeRealmMatches realms (Buffer.window frame off len)) := by
  rw [homeRealmMatchesAt]
  by_cases hlen : len < 1
  · rw [if_pos hlen, Nat.lt_one_iff.mp hlen]
    rfl
  obtain ⟨num, hnum⟩ : ∃ b, frame[off]? = some b := ⟨_, List.getElem?_eq_getElem (by omega)⟩
  rw [if_neg hlen, hnum, Option.bind_some, homeRealmMatchesLoopAt_eq realms _ h (by omega),
    Buffer.window_cons hnum (by omega), homeRealmMatches, show off + len - (off + 1) = len - 1 by omega]

end InPlace

/-! ## Matches -/

/-- The first `n` realms of a query, each with its encoding, as far as they are complete. -/
def queriedRealms : ℕ → List UInt8 → List (UInt8 × List UInt8)
  | n + 1, encoding :: realmLen :: pos =>
    if pos.length < realmLen.toNat then []
    else (encoding, pos.take realmLen.toNat) :: queriedRealms n (pos.drop realmLen.toNat)
  | _, _ => []

/-- The names of the realms of a home realm query, each with the encoding of its realm. -/
def queriedNames : List UInt8 → List (UInt8 × List UInt8)
  | [] => []
  | numRealms :: pos => (queriedRealms numRealms.toNat pos).flatMap fun r => (r.2.splitOn 59).map fun name => (r.1, name)

/-- `m` is a realm entry and one of its strings, and this is a queried name with the same encoding. -/
def IsHomeRealmMatch (realms : List HostapdNaiRealmData) (query : List UInt8) (m : ℕ × ℕ) : Prop :=
  ∃ realm name, realms[m.1]? = some realm ∧ realm.realm[m.2]? = some name ∧ (realm.encoding, name) ∈ queriedNames query

/-- What a loop of the matching does: it goes on to at most ten matches, and the new ones have a property. -/
structure Matched (P : ℕ × ℕ → Prop) (found found' : List (ℕ × ℕ)) : Prop where
  length_le : found.length ≤ maxHomeRealmMatches → found'.length ≤ maxHomeRealmMatches
  mem : ∀ m ∈ found', m ∈ found ∨ P m

namespace Matched

variable {P Q : ℕ × ℕ → Prop} {found found' found'' : List (ℕ × ℕ)}

lemma refl (found : List (ℕ × ℕ)) : Matched P found found := ⟨id, fun _ => Or.inl⟩

lemma trans (h : Matched P found found') (h' : Matched P found' found'') : Matched P found found'' :=
  ⟨h'.length_le ∘ h.length_le, fun m hm => (h'.mem m hm).elim (h.mem m) Or.inr⟩

lemma mono (h : Matched P found found') (hPQ : ∀ m, P m → Q m) : Matched Q found found' :=
  ⟨h.length_le, fun m hm => (h.mem m hm).imp_right (hPQ m)⟩

lemma append {m : ℕ × ℕ} (hroom : ¬maxHomeRealmMatches ≤ found.length) (hm : P m) : Matched P found (found ++ [m]) := by
  refine ⟨fun _ => ?_, fun m' hm' => ?_⟩
  · rw [List.length_append, List.length_singleton]
    omega
  · obtain hm' | hm' := List.mem_append.mp hm'
    · exact Or.inl hm'
    · rw [List.mem_singleton.mp hm']
      exact Or.inr hm

end Matched

section Matches

variable {found : List (ℕ × ℕ)}

/-- The first name ends in front of the first `;`, and the others are behind it. -/
lemma splitOn_eq (realmName : List UInt8) : realmName.splitOn 59 = realmName.takeWhile (· ≠ 59) ::
    if 59 ∈ realmName then (realmName.drop ((realmName.takeWhile (· ≠ 59)).length + 1)).splitOn 59 else [] := by
  by_cases hmem : 59 ∈ realmName
  · obtain ⟨name, rest, rfl, hname⟩ := List.eq_append_cons_of_mem hmem
    have htake : (name ++ 59 :: rest).takeWhile (· ≠ 59) = name := by
      rw [List.takeWhile_append_of_pos (by simpa using fun b hb => ne_of_mem_of_not_mem hb hname)]
      simp
    have hdrop : (name ++ 59 :: rest).drop (name.length + 1) = rest := by simp
    rw [List.splitOn_append_cons_self_of_not_mem hname, htake, hdrop, if_pos hmem]
  · have htake : realmName.takeWhile (· ≠ 59) = realmName :=
      List.takeWhile_eq_self_iff.mpr fun b hb => by simpa using ne_of_mem_of_not_mem hb hmem
    rw [List.splitOn_eq_singleton hmem, htake, if_neg hmem]

lemma takeWhile_mem_splitOn (realmName : List UInt8) : realmName.takeWhile (· ≠ 59) ∈ realmName.splitOn 59 := by
  rw [splitOn_eq]
  exact List.mem_cons_self

lemma mem_splitOn_of_drop {realmName name : List UInt8}
    (h : name ∈ (realmName.drop ((realmName.takeWhile (· ≠ 59)).length + 1)).splitOn 59)
    (hne : realmName.drop ((realmName.takeWhile (· ≠ 59)).length + 1) ≠ []) : name ∈ realmName.splitOn 59 := by
  rw [splitOn_eq]
  by_cases hmem : 59 ∈ realmName
  · rw [if_pos hmem]
    exact List.mem_cons_of_mem _ h
  · have htake : realmName.takeWhile (· ≠ 59) = realmName :=
      List.takeWhile_eq_self_iff.mpr fun b hb => by simpa using ne_of_mem_of_not_mem hb hmem
    rw [htake, List.drop_eq_nil_of_le (Nat.le_succ _)] at hne
    exact absurd rfl hne

lemma matched_strings (name : List UInt8) (j : ℕ) (ss : List (List UInt8)) (k : ℕ) (found : List (ℕ × ℕ)) :
    Matched (fun m => m.1 = j ∧ k ≤ m.2 ∧ ss[m.2 - k]? = some name) found (matchRealmStrings name j ss k found) := by
  induction ss generalizing k found with
  | nil => exact Matched.refl found
  | cons s ss ih =>
    have hrest : ∀ m : ℕ × ℕ, m.1 = j ∧ k + 1 ≤ m.2 ∧ ss[m.2 - (k + 1)]? = some name →
        m.1 = j ∧ k ≤ m.2 ∧ (s :: ss)[m.2 - k]? = some name := by
      rintro m ⟨hj, hk, hs⟩
      refine ⟨hj, by omega, ?_⟩
      rw [show m.2 - k = m.2 - (k + 1) + 1 by omega, List.getElem?_cons_succ]
      exact hs
    rw [matchRealmStrings]
    split_ifs with hfull hs
    · exact Matched.refl found
    · have hfirst : (s :: ss)[(j, k).2 - k]? = some name := by
        rw [Nat.sub_self, List.getElem?_cons_zero, hs]
      exact (Matched.append hfull ⟨rfl, le_rfl, hfirst⟩).trans ((ih (k + 1) _).mono hrest)
    · exact (ih (k + 1) found).mono hrest

lemma matched_names (j : ℕ) (realm : HostapdNaiRealmData) (realmName : List UInt8) (found : List (ℕ × ℕ)) :
    Matched (fun m => m.1 = j ∧ ∃ name, realm.realm[m.2]? = some name ∧ name ∈ realmName.splitOn 59) found
      (matchRealmNames j realm realmName found) := by
  fun_induction matchRealmNames j realm realmName found with
  | case1 realmName found hstop => exact Matched.refl found
  | case2 realmName found hgo name ih =>
    refine Matched.trans ((matched_strings name j realm.realm 0 found).mono ?_) ?_
    · rintro m ⟨hj, -, hs⟩
      exact ⟨hj, name, hs, takeWhile_mem_splitOn realmName⟩
    · by_cases hne : realmName.drop (name.length + 1) = []
      · rw [hne, matchRealmNames, if_pos (Or.inl rfl)]
        exact Matched.refl _
      · refine ih.mono ?_
        rintro m ⟨hj, s, hs, hmem⟩
        exact ⟨hj, s, hs, mem_splitOn_of_drop hmem hne⟩

lemma matched_realms (encoding : UInt8) (realmName : List UInt8) (realms : List HostapdNaiRealmData) (j : ℕ)
    (found : List (ℕ × ℕ)) : Matched (fun m => j ≤ m.1 ∧ ∃ realm name, realms[m.1 - j]? = some realm ∧
      realm.realm[m.2]? = some name ∧ realm.encoding = encoding ∧ name ∈ realmName.splitOn 59) found
      (matchRealms encoding realmName realms j found) := by
  induction realms generalizing j found with
  | nil => exact Matched.refl found
  | cons realm realms ih =>
    have hrest : ∀ m : ℕ × ℕ, (j + 1 ≤ m.1 ∧ ∃ realm name, realms[m.1 - (j + 1)]? = some realm ∧
        realm.realm[m.2]? = some name ∧ realm.encoding = encoding ∧ name ∈ realmName.splitOn 59) →
        j ≤ m.1 ∧ ∃ realm' name, (realm :: realms)[m.1 - j]? = some realm' ∧
          realm'.realm[m.2]? = some name ∧ realm'.encoding = encoding ∧ name ∈ realmName.splitOn 59 := by
      rintro m ⟨hj, realm', name, hrealm, hname⟩
      refine ⟨by omega, realm', name, ?_, hname⟩
      rw [show m.1 - j = m.1 - (j + 1) + 1 by omega, List.getElem?_cons_succ]
      exact hrealm
    rw [matchRealms]
    split_ifs with hfull hencoding
    · exact Matched.refl found
    · refine Matched.trans ((matched_names j realm realmName found).mono ?_) ((ih (j + 1) _).mono hrest)
      rintro m ⟨hj, name, hname, hsplit⟩
      refine ⟨hj.ge, realm, name, ?_, hname, hencoding.symm, hsplit⟩
      rw [hj, Nat.sub_self, List.getElem?_cons_zero]
    · exact (ih (j + 1) found).mono hrest

lemma matched_loop (realms : List HostapdNaiRealmData) (n : ℕ) (pos : List UInt8) {found found' : List (ℕ × ℕ)}
    (h : homeRealmMatchesLoop realms n pos found = some found') :
    Matched (fun m => ∃ realm name r, realms[m.1]? = some realm ∧ realm.realm[m.2]? = some name ∧
      r ∈ queriedRealms n pos ∧ realm.encoding = r.1 ∧ name ∈ r.2.splitOn 59) found found' := by
  fun_induction homeRealmMatchesLoop realms n pos found with
  | case1 pos found =>
    obtain rfl := Option.some.inj h
    exact Matched.refl found
  | case2 n pos found hfull =>
    obtain rfl := Option.some.inj h
    exact Matched.refl found
  | case3 n found hgo encoding realmLen pos hshort => cases h
  | case4 n found hgo encoding realmLen pos hlong ih =>
    have hqueried : queriedRealms (n + 1) (encoding :: realmLen :: pos) =
        (encoding, pos.take realmLen.toNat) :: queriedRealms n (pos.drop realmLen.toNat) := if_neg hlong
    rw [hqueried]
    refine Matched.trans ((matched_realms encoding (pos.take realmLen.toNat) realms 0 found).mono ?_) ((ih h).mono ?_)
    · rintro m ⟨-, realm, name, hrealm, hname, hencoding, hsplit⟩
      exact ⟨realm, name, _, hrealm, hname, List.mem_cons_self, hencoding, hsplit⟩
    · rintro m ⟨realm, name, r, hrealm, hname, hr, hmatch⟩
      exact ⟨realm, name, r, hrealm, hname, List.mem_cons_of_mem _ hr, hmatch⟩
  | case5 n found pos hgo hshort => cases h

/-- There are at most ten matches, and they are matches. -/
lemma homeRealmMatches_spec {realms : List HostapdNaiRealmData} {query : List UInt8} {found : List (ℕ × ℕ)}
    (h : homeRealmMatches realms query = some found) :
    found.length ≤ maxHomeRealmMatches ∧ ∀ m ∈ found, IsHomeRealmMatch realms query m := by
  cases query with
  | nil => cases h
  | cons numRealms pos =>
    obtain ⟨hlength, hmem⟩ := matched_loop realms numRealms.toNat pos h
    refine ⟨hlength (Nat.zero_le _), fun m hm => ?_⟩
    obtain hnil | ⟨realm, name, r, hrealm, hname, hr, hencoding, hsplit⟩ := hmem m hm
    · cases hnil
    · have hqueried : (realm.encoding, name) ∈ (r.2.splitOn 59).map fun name => (r.1, name) :=
        List.mem_map.mpr ⟨name, hsplit, by rw [hencoding]⟩
      exact ⟨realm, name, hrealm, hname, List.mem_flatMap.mpr ⟨r, hr, hqueried⟩⟩

end Matches

/-- A name that is listed twice is matched twice. -/
example : homeRealmMatches [⟨0, [[97, 98]], [], by decide⟩] [1, 0, 5, 97, 98, 59, 97, 98] = some [(0, 0), (0, 0)] := by
  decide +kernel

/-- Whatever frame is received, only the frame is read, what is recorded of it lies inside it, and so does what the
matching of a home realm query reads; the matches are those of names of the query. -/
theorem gasServRxPublicAction_reads (conf : AnqpConf) (gasAddress3 : ℕ) (frame : List UInt8) :
    ∃ req, gasServRxPublicAction conf gasAddress3 frame = some req ∧
      ∀ sa dialogToken qi prot stdAddr3, req = .initialReq sa dialogToken qi prot stdAddr3 →
        qi.Inside frame.length ∧ (qi.info frame).isSome = true ∧
        ∀ realms off len, qi.homeRealmQuery = some (off, len) →
          ∃ r, homeRealmMatchesAt realms frame off len = some r ∧
            ∀ found, r = some found → found.length ≤ maxHomeRealmMatches ∧
              ∀ m ∈ found, IsHomeRealmMatch realms (Buffer.window frame off len) m := by
  obtain ⟨req, hreq, hinside⟩ := @exists_gasServRxPublicAction conf frame gasAddress3
  refine ⟨req, hreq, fun sa dialogToken qi prot stdAddr3 h => ?_⟩
  have hqi := hinside sa dialogToken qi prot stdAddr3 h
  refine ⟨hqi, hqi.info_isSome, fun realms off len hquery => ?_⟩
  exact ⟨_, homeRealmMatchesAt_eq realms (hqi.homeRealm _ hquery), fun found hfound => homeRealmMatches_spec hfound⟩

end Ethanol
