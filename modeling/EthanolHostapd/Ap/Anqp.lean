import EthanolHostapd.Utils.Wpabuf

/-!
# ANQP responses

The payload of a GAS response, `gas_serv_build_gas_resp_payload` of `gas_serv.c`: the elements that a station has asked for,
from the configuration.  The buffer is allocated first, with a fixed allowance and the lengths of some of the elements that
the operator has given as they are.
-/

namespace Ethanol

open Wire Wpabuf.Put

/-! ## The configuration -/

/-- `struct hostapd_lang_string`. -/
structure HostapdLangString where
  lang : Vector UInt8 3
  name : List UInt8

/-- `struct hostapd_nai_realm_eap`; `auths` are `auth_id` and `auth_val`. -/
structure HostapdNaiRealmEap where
  eapMethod : UInt8
  auths : List (UInt8 × UInt8)

/-- `MAX_NAI_REALMS`. -/
def maxNaiRealms : ℕ := 10

/-- `struct hostapd_nai_realm_data`; `realm` are the strings that are set. -/
structure HostapdNaiRealmData where
  encoding : UInt8
  realm : List (List UInt8)
  eapMethod : List HostapdNaiRealmEap
  length_realm : realm.length ≤ maxNaiRealms

/-- `struct hs20_icon`. -/
structure Hs20Icon where
  width : UInt16
  height : UInt16
  language : Vector UInt8 3
  type : List UInt8
  name : List UInt8
  file : List UInt8

/-- `struct hs20_osu_provider`; `methodList` ends in front of the first negative number. -/
structure Hs20OsuProvider where
  friendlyName : List HostapdLangString
  serverUri : Option (List UInt8)
  methodList : Option (List UInt8)
  icons : List (List UInt8)
  osuNai : Option (List UInt8)
  serviceDesc : List HostapdLangString

/-- What `gas_serv.c` reads of `struct hostapd_bss_config`. -/
structure AnqpConf where
  /-- `anqp_elem`: Info IDs and payloads. -/
  anqpElem : List (ℕ × List UInt8) := []
  venueGroup : UInt8 := 0
  venueType : UInt8 := 0
  venueName : Option (List HostapdLangString) := none
  networkAuthType : Option (List UInt8) := none
  roamingConsortium : Option (List (List UInt8)) := none
  ipaddrTypeAvailability : Option UInt8 := none
  naiRealmData : Option (List HostapdNaiRealmData) := none
  anqp3gppCellNet : Option (List UInt8) := none
  domainName : Option (List UInt8) := none
  hs20OperFriendlyName : Option (List HostapdLangString) := none
  hs20WanMetrics : Option (Vector UInt8 13) := none
  hs20ConnectionCapability : Option (List UInt8) := none
  hs20OperatingClass : Option (List UInt8) := none
  osuSsid : List UInt8 := []
  hs20OsuProviders : List Hs20OsuProvider := []
  hs20Icons : List Hs20Icon := []

/-- `ANQP_MAX_EXTRA_REQ`. -/
def anqpMaxExtraReq : ℕ := 20

/-- `struct anqp_query_info`. -/
structure AnqpQueryInfo where
  request : ℕ := 0
  homeRealmQuery : Option (List UInt8) := none
  iconName : List UInt8 := []
  p2pSd : Bool := false
  extraReq : List ℕ := []

/-! Info IDs and subtypes of HS 2.0. -/

def anqpQueryList : ℕ := 256
def anqpCapabilityList : ℕ := 257
def anqpVenueName : ℕ := 258
def anqpEmergencyCallNumber : ℕ := 259
def anqpNetworkAuthType : ℕ := 260
def anqpRoamingConsortium : ℕ := 261
def anqpIpAddrTypeAvailability : ℕ := 262
def anqpNaiRealm : ℕ := 263
def anqp3gppCellularNetwork : ℕ := 264
def anqpApGeospatialLocation : ℕ := 265
def anqpApCivicLocation : ℕ := 266
def anqpApLocationPublicUri : ℕ := 267
def anqpDomainName : ℕ := 268
def anqpEmergencyAlertUri : ℕ := 269
def anqpTdlsCapability : ℕ := 270
def anqpEmergencyNai : ℕ := 271
def anqpNeighborReport : ℕ := 272
def anqpVenueUrl : ℕ := 277
def anqpAdviceOfCharge : ℕ := 278
def anqpLocalContent : ℕ := 279
def anqpVendorSpecific : ℕ := 56797

def hs20StypeQueryList : UInt8 := 1
def hs20StypeCapabilityList : UInt8 := 2
def hs20StypeOperatorFriendlyName : UInt8 := 3
def hs20StypeWanMetrics : UInt8 := 4
def hs20StypeConnectionCapability : UInt8 := 5
def hs20StypeNaiHomeRealmQuery : UInt8 := 6
def hs20StypeOperatingClass : UInt8 := 7
def hs20StypeOsuProvidersList : UInt8 := 8
def hs20StypeIconRequest : UInt8 := 10
def hs20StypeIconBinaryFile : UInt8 := 11

/-- The place of an Info ID in `request`. -/
def anqpReq (infoid : ℕ) : ℕ := infoid - anqpQueryList

/-- The place of a subtype in `request`. -/
def anqpReqHs20 (subtype : UInt8) : ℕ := 16 + subtype.toNat

/-! ## Elements -/

/-- `gas_anqp_add_element`, what is appended, and `gas_anqp_set_element_len`. -/
def gasAnqpElement (infoid : ℕ) (body : Wpabuf.Put) : Wpabuf.Put := (put (leBytes 2 infoid)).andThen (body.counted 2)

/-- An element of HS 2.0. -/
def hs20Element (subtype : UInt8) (body : Wpabuf.Put) : Wpabuf.Put :=
  gasAnqpElement anqpVendorSpecific ((put [0x50, 0x6f, 0x9a, 17, subtype, 0]).andThen body)

/-- An element whose length is known. -/
def plainElement (infoid : ℕ) (data : List UInt8) : Wpabuf.Put :=
  put (leBytes 2 infoid ++ (leBytes 2 data.length ++ data))

/-- A name with its language. -/
def langString (s : HostapdLangString) : Wpabuf.Put :=
  put (UInt8.ofNat (3 + s.name.length) :: (s.lang.toList ++ s.name))

namespace AnqpConf

variable (conf : AnqpConf)

/-- `get_anqp_elem`. -/
def getAnqpElem (infoid : ℕ) : Option (List UInt8) := (conf.anqpElem.find? fun elem => elem.1 = infoid).map Prod.snd

/-- `anqp_add_elem`. -/
def anqpAddElem (infoid : ℕ) : Wpabuf.Put :=
  (conf.getAnqpElem infoid).elim skip fun payload => (plainElement infoid payload).ifRoom (2 + 2 + payload.length)

/-- `anqp_add_override`, and what is appended if there is no such element. -/
def anqpAddOverride (infoid : ℕ) (p : Wpabuf.Put) : Wpabuf.Put :=
  if (conf.getAnqpElem infoid).isSome then conf.anqpAddElem infoid else p

/-- `anqp_add_hs_capab_list`. -/
def hsCapabList : List UInt8 :=
  hs20StypeCapabilityList :: ((if conf.hs20OperFriendlyName.isSome then [hs20StypeOperatorFriendlyName] else []) ++
    ((if conf.hs20WanMetrics.isSome then [hs20StypeWanMetrics] else []) ++
    ((if conf.hs20ConnectionCapability.isSome then [hs20StypeConnectionCapability] else []) ++
    ((if conf.naiRealmData.isSome then [hs20StypeNaiHomeRealmQuery] else []) ++
    ((if conf.hs20OperatingClass.isSome then [hs20StypeOperatingClass] else []) ++
    ((if conf.hs20OsuProviders ≠ [] then [hs20StypeOsuProvidersList] else []) ++
    (if conf.hs20Icons ≠ [] then [hs20StypeIconRequest] else [])))))))

def anqpAddHsCapabList : Wpabuf.Put := hs20Element hs20StypeCapabilityList (put conf.hsCapabList)

/-- The Info IDs that `anqp_add_capab_list` lists. -/
def capabList : List ℕ :=
  let given (infoid : ℕ) : Bool := (conf.getAnqpElem infoid).isSome
  anqpCapabilityList :: ([(conf.venueName.isSome || given anqpVenueName, anqpVenueName),
    (given anqpEmergencyCallNumber, anqpEmergencyCallNumber),
    (conf.networkAuthType.isSome || given anqpNetworkAuthType, anqpNetworkAuthType),
    (conf.roamingConsortium.isSome || given anqpRoamingConsortium, anqpRoamingConsortium),
    (conf.ipaddrTypeAvailability.isSome || given anqpIpAddrTypeAvailability, anqpIpAddrTypeAvailability),
    (conf.naiRealmData.isSome || given anqpNaiRealm, anqpNaiRealm),
    (conf.anqp3gppCellNet.isSome || given anqp3gppCellularNetwork, anqp3gppCellularNetwork),
    (given anqpApGeospatialLocation, anqpApGeospatialLocation),
    (given anqpApCivicLocation, anqpApCivicLocation),
    (given anqpApLocationPublicUri, anqpApLocationPublicUri),
    (conf.domainName.isSome || given anqpDomainName, anqpDomainName),
    (given anqpEmergencyAlertUri, anqpEmergencyAlertUri),
    (given anqpEmergencyNai, anqpEmergencyNai),
    (given anqpNeighborReport, anqpNeighborReport),
    (given 273, 273), (given 274, 274), (given 275, 275), (given 276, 276),
    (given anqpVenueUrl, anqpVenueUrl),
    (given anqpAdviceOfCharge, anqpAdviceOfCharge),
    (given anqpLocalContent, anqpLocalContent)].filter Prod.fst).map Prod.snd

/-- `anqp_add_capab_list`. -/
def anqpAddCapabList : Wpabuf.Put :=
  conf.anqpAddOverride anqpCapabilityList
    (gasAnqpElement anqpCapabilityList ((put (conf.capabList.flatMap (leBytes 2))).andThen conf.anqpAddHsCapabList))

/-- `anqp_add_venue_name`. -/
def anqpAddVenueName : Wpabuf.Put :=
  conf.anqpAddOverride anqpVenueName (conf.venueName.elim skip fun names =>
    gasAnqpElement anqpVenueName ((put [conf.venueGroup, conf.venueType]).andThen (all (names.map langString))))

/-- `anqp_add_network_auth_type`. -/
def anqpAddNetworkAuthType : Wpabuf.Put :=
  conf.anqpAddOverride anqpNetworkAuthType (conf.networkAuthType.elim skip (plainElement anqpNetworkAuthType))

/-- `anqp_add_roaming_consortium`. -/
def anqpAddRoamingConsortium : Wpabuf.Put :=
  conf.anqpAddOverride anqpRoamingConsortium (gasAnqpElement anqpRoamingConsortium
    (all ((conf.roamingConsortium.getD []).map fun oi => put (UInt8.ofNat oi.length :: oi))))

/-- `anqp_add_ip_addr_type_availability`. -/
def anqpAddIpAddrTypeAvailability : Wpabuf.Put :=
  conf.anqpAddOverride anqpIpAddrTypeAvailability
    (conf.ipaddrTypeAvailability.elim skip fun value => plainElement anqpIpAddrTypeAvailability [value])

/-- `anqp_add_3gpp_cellular_network`. -/
def anqpAdd3gppCellularNetwork : Wpabuf.Put :=
  conf.anqpAddOverride anqp3gppCellularNetwork (conf.anqp3gppCellNet.elim skip (plainElement anqp3gppCellularNetwork))

/-- `anqp_add_domain_name`. -/
def anqpAddDomainName : Wpabuf.Put :=
  conf.anqpAddOverride anqpDomainName (conf.domainName.elim skip (plainElement anqpDomainName))

end AnqpConf

/-! ## NAI realms -/

namespace HostapdNaiRealmData

variable (realm : HostapdNaiRealmData)

/-- `anqp_add_nai_realm_eap`. -/
def eapBytes : List UInt8 :=
  UInt8.ofNat realm.eapMethod.length :: realm.eapMethod.flatMap fun eap =>
    UInt8.ofNat (2 + 3 * eap.auths.length) :: eap.eapMethod :: UInt8.ofNat eap.auths.length ::
      eap.auths.flatMap fun auth => [auth.1, 1, auth.2]

/-- `anqp_add_nai_realm_data`. -/
def anqpAddNaiRealmData (name : List UInt8) : Wpabuf.Put :=
  (put (realm.encoding :: UInt8.ofNat name.length :: (name ++ realm.eapBytes))).counted 2

/-- All the strings are set, and there are EAP methods behind the array. -/
def NoTerminator : Prop := realm.realm.length = maxNaiRealms ∧ realm.eapMethod ≠ []

instance : Decidable realm.NoTerminator := inferInstanceAs (Decidable (_ ∧ _))

/-- The strings of a realm with `;` between them.  The loop ends at the first string that is not set; if all of them are set
then it goes on with what is behind the array, the EAP methods, as if it was a string. -/
def realmStrings : Wpabuf.Put :=
  if realm.NoTerminator then fun _ => none
  else put (List.intercalate [59] realm.realm)

/-- One realm of the list of all of them. -/
def naiRealm : Wpabuf.Put :=
  ((put [realm.encoding]).andThen ((realm.realmStrings.counted 1).andThen (put realm.eapBytes))).counted 2

end HostapdNaiRealmData

/-- The number of matches that `hs20_add_nai_home_realm_matches` has room for. -/
def maxHomeRealmMatches : ℕ := 10

/-- The loop over `realm->realm[k]`, from `k` on: a name of the query is compared with each string.  A match is the index
of the realm and the index of the string. -/
def matchRealmStrings (name : List UInt8) (j : ℕ) : List (List UInt8) → ℕ → List (ℕ × ℕ) → List (ℕ × ℕ)
  | [], _, found => found
  | s :: ss, k, found =>
    if maxHomeRealmMatches ≤ found.length then found
    else matchRealmStrings name j ss (k + 1) (if s = name then found ++ [(j, k)] else found)

/-- The loop over the names of a realm of the query, up to `;`. -/
def matchRealmNames (j : ℕ) (realm : HostapdNaiRealmData) (realmName : List UInt8) (found : List (ℕ × ℕ)) :
    List (ℕ × ℕ) :=
  if realmName = [] ∨ maxHomeRealmMatches ≤ found.length then found
  else
    let name := realmName.takeWhile (· ≠ 59)
    matchRealmNames j realm (realmName.drop (name.length + 1)) (matchRealmStrings name j realm.realm 0 found)
termination_by realmName.length
decreasing_by
  have hpos : 0 < realmName.length := List.length_pos_iff.mpr fun h => by simp_all
  rw [List.length_drop]
  omega

/-- The loop over the realms of the configuration, from `j` on. -/
def matchRealms (encoding : UInt8) (realmName : List UInt8) :
    List HostapdNaiRealmData → ℕ → List (ℕ × ℕ) → List (ℕ × ℕ)
  | [], _, found => found
  | realm :: realms, j, found =>
    if maxHomeRealmMatches ≤ found.length then found
    else
      matchRealms encoding realmName realms (j + 1)
        (if encoding = realm.encoding then matchRealmNames j realm realmName found else found)

/-- The loop over the realms of the query; nothing if the query is truncated. -/
def homeRealmMatchesLoop (realms : List HostapdNaiRealmData) :
    ℕ → List UInt8 → List (ℕ × ℕ) → Option (List (ℕ × ℕ))
  | 0, _, found => some found
  | n + 1, pos, found =>
    if maxHomeRealmMatches ≤ found.length then some found
    else
      match pos with
      | encoding :: realmLen :: pos =>
        if pos.length < realmLen.toNat then none
        else
          homeRealmMatchesLoop realms n (pos.drop realmLen.toNat)
            (matchRealms encoding (pos.take realmLen.toNat) realms 0 found)
      | _ => none

/-- The matches that `hs20_add_nai_home_realm_matches` finds. -/
def homeRealmMatches (realms : List HostapdNaiRealmData) : List UInt8 → Option (List (ℕ × ℕ))
  | [] => none
  | numRealms :: pos => homeRealmMatchesLoop realms numRealms.toNat pos []

/-- A match is written. -/
def matchedRealm (realms : List HostapdNaiRealmData) (found : ℕ × ℕ) : Wpabuf.Put :=
  (realms[found.1]?).elim skip fun realm => (realm.realm[found.2]?).elim skip realm.anqpAddNaiRealmData

/-- `hs20_add_nai_home_realm_matches`. -/
def hs20AddNaiHomeRealmMatches (realms : List HostapdNaiRealmData) (homeRealm : List UInt8) : Wpabuf.Put :=
  (homeRealmMatches realms homeRealm).elim skip fun found =>
    gasAnqpElement anqpNaiRealm ((put (leBytes 2 found.length)).andThen (all (found.map (matchedRealm realms))))

/-! ## Online sign up and icons -/

/-- `wpabuf_put_u8` of the length, and the string; 0 if there is none. -/
def countedString (s : Option (List UInt8)) : List UInt8 :=
  s.elim [0] fun s => UInt8.ofNat s.length :: s

namespace Hs20Icon

/-- An icon in the list of a provider. -/
def available (icon : Hs20Icon) : List UInt8 :=
  leBytes 2 icon.width.toNat ++ (leBytes 2 icon.height.toNat ++ (icon.language.toList ++
    (countedString (some icon.type) ++ countedString (some icon.name))))

end Hs20Icon

/-- `anqp_add_osu_provider`.  Without a list of methods a null pointer is used. -/
def anqpAddOsuProvider (icons : List Hs20Icon) (p : Hs20OsuProvider) : Wpabuf.Put :=
  let methods : Wpabuf.Put := p.methodList.elim (fun _ => none) fun methods =>
    put (UInt8.ofNat methods.length :: methods)
  let found := p.icons.filterMap fun name => icons.find? fun icon => icon.name = name
  (((all (p.friendlyName.map langString)).counted 2).andThen ((put (countedString p.serverUri)).andThen
    (methods.andThen (((all (found.map fun icon => put icon.available)).counted 2).andThen
      ((put (countedString p.osuNai)).andThen ((all (p.serviceDesc.map langString)).counted 2)))))).counted 2

namespace AnqpConf

variable (conf : AnqpConf)

/-- `anqp_add_nai_realm`. -/
def anqpAddNaiRealm (homeRealm : Option (List UInt8)) (naiRealm naiHomeRealm : Bool) : Wpabuf.Put :=
  if naiRealm = true ∧ naiHomeRealm = false ∧ (conf.getAnqpElem anqpNaiRealm).isSome = true then
    conf.anqpAddElem anqpNaiRealm
  else
    conf.naiRealmData.elim skip fun realms =>
      if naiRealm then
        gasAnqpElement anqpNaiRealm
          ((put (leBytes 2 realms.length)).andThen (all (realms.map HostapdNaiRealmData.naiRealm)))
      else if naiHomeRealm then homeRealm.elim skip (hs20AddNaiHomeRealmMatches realms)
      else skip

/-- `anqp_add_operator_friendly_name`. -/
def anqpAddOperatorFriendlyName : Wpabuf.Put :=
  conf.hs20OperFriendlyName.elim skip fun names =>
    hs20Element hs20StypeOperatorFriendlyName (all (names.map langString))

/-- `anqp_add_wan_metrics`. -/
def anqpAddWanMetrics : Wpabuf.Put :=
  conf.hs20WanMetrics.elim skip fun metrics => hs20Element hs20StypeWanMetrics (put metrics.toList)

/-- `anqp_add_connection_capability`. -/
def anqpAddConnectionCapability : Wpabuf.Put :=
  conf.hs20ConnectionCapability.elim skip fun data => hs20Element hs20StypeConnectionCapability (put data)

/-- `anqp_add_operating_class`. -/
def anqpAddOperatingClass : Wpabuf.Put :=
  conf.hs20OperatingClass.elim skip fun data => hs20Element hs20StypeOperatingClass (put data)

/-- `anqp_add_osu_providers_list`. -/
def anqpAddOsuProvidersList : Wpabuf.Put :=
  if conf.hs20OsuProviders = [] then skip
  else
    hs20Element hs20StypeOsuProvidersList
      ((put (UInt8.ofNat conf.osuSsid.length :: (conf.osuSsid ++ [UInt8.ofNat conf.hs20OsuProviders.length]))).andThen
        (all (conf.hs20OsuProviders.map (anqpAddOsuProvider conf.hs20Icons))))

/-- What `anqp_add_icon_binary_file` appends for an icon, with `os_readfile`. -/
def iconBinaryFile (readFile : List UInt8 → Option (List UInt8)) (name : List UInt8) : List UInt8 :=
  match conf.hs20Icons.find? fun icon => icon.name = name with
  | none => [1, 0, 0, 0]
  | some icon =>
    match (readFile icon.file).filter fun data => data.length ≤ 65535 with
    | none => [2, 0, 0, 0]
    | some data => 0 :: (countedString (some icon.type) ++ (leBytes 2 data.length ++ data))

/-- `anqp_add_icon_binary_file`. -/
def anqpAddIconBinaryFile (readFile : List UInt8 → Option (List UInt8)) (name : List UInt8) : Wpabuf.Put :=
  hs20Element hs20StypeIconBinaryFile (put (conf.iconBinaryFile readFile name))

/-! ## The payload -/

/-- `anqp_get_required_len`. -/
def anqpGetRequiredLen (infoid : List ℕ) : ℕ :=
  (infoid.map fun id => (conf.getAnqpElem id).elim 0 fun payload => 2 + 2 + payload.length).sum

/-- The length that is allocated. -/
def allocated (qi : AnqpQueryInfo) : ℕ :=
  1400 + (if qi.request.testBit (anqpReq anqpNaiRealm) || qi.request.testBit (anqpReqHs20 hs20StypeNaiHomeRealmQuery)
    then 1000 else 0) + (if qi.request.testBit (anqpReqHs20 hs20StypeIconRequest) then 65536 else 0) +
      conf.anqpGetRequiredLen qi.extraReq

/-- `gas_serv_build_gas_resp_payload`, if there is memory. -/
def gasServBuildGasRespPayload (readFile : List UInt8 → Option (List UInt8)) (qi : AnqpQueryInfo) : Option Wpabuf :=
  let on (k : ℕ) (p : Wpabuf.Put) : Wpabuf.Put := if qi.request.testBit k then p else skip
  let nai := qi.request.testBit (anqpReq anqpNaiRealm)
  let home := qi.request.testBit (anqpReqHs20 hs20StypeNaiHomeRealmQuery)
  all ([on (anqpReq anqpCapabilityList) conf.anqpAddCapabList,
    on (anqpReq anqpVenueName) conf.anqpAddVenueName,
    on (anqpReq anqpEmergencyCallNumber) (conf.anqpAddElem anqpEmergencyCallNumber),
    on (anqpReq anqpNetworkAuthType) conf.anqpAddNetworkAuthType,
    on (anqpReq anqpRoamingConsortium) conf.anqpAddRoamingConsortium,
    on (anqpReq anqpIpAddrTypeAvailability) conf.anqpAddIpAddrTypeAvailability,
    if nai || home then conf.anqpAddNaiRealm qi.homeRealmQuery nai home else skip,
    on (anqpReq anqp3gppCellularNetwork) conf.anqpAdd3gppCellularNetwork,
    on (anqpReq anqpApGeospatialLocation) (conf.anqpAddElem anqpApGeospatialLocation),
    on (anqpReq anqpApCivicLocation) (conf.anqpAddElem anqpApCivicLocation),
    on (anqpReq anqpApLocationPublicUri) (conf.anqpAddElem anqpApLocationPublicUri),
    on (anqpReq anqpDomainName) conf.anqpAddDomainName,
    on (anqpReq anqpEmergencyAlertUri) (conf.anqpAddElem anqpEmergencyAlertUri),
    on (anqpReq anqpTdlsCapability) (conf.anqpAddElem anqpTdlsCapability),
    on (anqpReq anqpEmergencyNai) (conf.anqpAddElem anqpEmergencyNai),
    all (qi.extraReq.map conf.anqpAddElem),
    on (anqpReqHs20 hs20StypeCapabilityList) conf.anqpAddHsCapabList,
    on (anqpReqHs20 hs20StypeOperatorFriendlyName) conf.anqpAddOperatorFriendlyName,
    on (anqpReqHs20 hs20StypeWanMetrics) conf.anqpAddWanMetrics,
    on (anqpReqHs20 hs20StypeConnectionCapability) conf.anqpAddConnectionCapability,
    on (anqpReqHs20 hs20StypeOperatingClass) conf.anqpAddOperatingClass,
    on (anqpReqHs20 hs20StypeOsuProvidersList) conf.anqpAddOsuProvidersList,
    on (anqpReqHs20 hs20StypeIconRequest) (conf.anqpAddIconBinaryFile readFile qi.iconName)])
    ⟨conf.allocated qi, []⟩

end AnqpConf

/-! ## How long the elements are -/

/-- Names with their languages. -/
def langStringsLen (names : List HostapdLangString) : ℕ := (names.map fun s => 4 + s.name.length).sum

lemma length_intercalate_singleton {α : Type*} (a : α) (l : List (List α)) :
    (List.intercalate [a] l).length = (l.map List.length).sum + (l.length - 1) := by
  induction l with
  | nil => rfl
  | cons x l ih =>
    cases l with
    | nil => simp
    | cons y l =>
      rw [List.intercalate_cons_cons, List.length_append, List.length_append, ih]
      simp only [List.map_cons, List.sum_cons, List.length_cons, List.length_nil]
      omega

lemma takes_langStrings (names : List HostapdLangString) :
    (all (names.map langString)).Takes (langStringsLen names) := by
  refine takes_all fun s _ => (takes_put _).of_eq ?_
  rw [List.length_cons, List.length_append, Vector.length_toList]
  omega

section Elements

variable {p : Wpabuf.Put} {n : ℕ}

lemma takes_gasAnqpElement (infoid : ℕ) (hp : p.Takes n) : (gasAnqpElement infoid p).Takes (4 + n) := by
  refine ((takes_put _).andThen (hp.counted 2)).of_eq ?_
  rw [length_leBytes]
  omega

lemma takes_hs20Element (subtype : UInt8) (hp : p.Takes n) : (hs20Element subtype p).Takes (10 + n) := by
  refine (takes_gasAnqpElement _ ((takes_put _).andThen hp)).of_eq ?_
  simp only [List.length_cons, List.length_nil]
  omega

lemma takes_plainElement (infoid : ℕ) (data : List UInt8) : (plainElement infoid data).Takes (4 + data.length) := by
  refine (takes_put _).of_eq ?_
  rw [List.length_append, List.length_append, length_leBytes, length_leBytes]
  omega

end Elements

namespace HostapdNaiRealmData

variable (realm : HostapdNaiRealmData)

/-- The EAP methods. -/
def eapLen : ℕ := 1 + (realm.eapMethod.map fun eap => 3 + 3 * eap.auths.length).sum

/-- A realm of the list of all of them, with `;` between its strings. -/
def naiRealmLen : ℕ := 4 + ((realm.realm.map List.length).sum + (realm.realm.length - 1)) + realm.eapLen

lemma length_eapBytes : realm.eapBytes.length = realm.eapLen := by
  simp only [eapBytes, eapLen, List.length_cons, List.length_flatMap, List.length_nil]
  rw [add_comm]
  congr 3
  funext eap
  simp only [List.map_const', List.sum_replicate, smul_eq_mul]
  omega

lemma takes_naiRealm (h : ¬realm.NoTerminator) : realm.naiRealm.Takes realm.naiRealmLen := by
  have hstrings : realm.realmStrings.Takes ((realm.realm.map List.length).sum + (realm.realm.length - 1)) := by
    rw [realmStrings, if_neg h]
    exact (takes_put _).of_eq (length_intercalate_singleton 59 _)
  refine (((takes_put _).andThen ((hstrings.counted 1).andThen (takes_put _))).counted 2).of_eq ?_
  rw [length_eapBytes, naiRealmLen, List.length_singleton]
  omega

lemma fails_naiRealm (h : realm.NoTerminator) : realm.naiRealm.Fails := by
  have hstrings : realm.realmStrings.Fails := fun buf => by rw [realmStrings, if_pos h]
  exact (((hstrings.counted 1).andThen_left _).andThen_right _).counted 2

lemma takes_anqpAddNaiRealmData (name : List UInt8) :
    (realm.anqpAddNaiRealmData name).Takes (4 + name.length + realm.eapLen) := by
  refine ((takes_put _).counted 2).of_eq ?_
  rw [List.length_cons, List.length_cons, List.length_append, length_eapBytes]
  omega

end HostapdNaiRealmData

/-- A match of a home realm query. -/
def matchedRealmLen (realms : List HostapdNaiRealmData) (found : ℕ × ℕ) : ℕ :=
  (realms[found.1]?).elim 0 fun realm => (realm.realm[found.2]?).elim 0 fun name => 4 + name.length + realm.eapLen

lemma takes_matchedRealm (realms : List HostapdNaiRealmData) (found : ℕ × ℕ) :
    (matchedRealm realms found).Takes (matchedRealmLen realms found) := by
  rw [matchedRealm, matchedRealmLen]
  cases realms[found.1]? with
  | none => exact takes_skip
  | some realm =>
    simp only [Option.elim_some]
    cases realm.realm[found.2]? with
    | none => exact takes_skip
    | some name => exact realm.takes_anqpAddNaiRealmData name

/-- The answer to a home realm query, unless it is truncated. -/
def homeRealmSections (realms : List HostapdNaiRealmData) (homeRealm : List UInt8) : List Wpabuf.Section :=
  (homeRealmMatches realms homeRealm).elim [] fun found => [.fixed (6 + (found.map (matchedRealmLen realms)).sum)]

lemma realizes_hs20AddNaiHomeRealmMatches (realms : List HostapdNaiRealmData) (homeRealm : List UInt8) :
    (hs20AddNaiHomeRealmMatches realms homeRealm).Realizes (homeRealmSections realms homeRealm) := by
  rw [hs20AddNaiHomeRealmMatches, homeRealmSections]
  cases homeRealmMatches realms homeRealm with
  | none => exact realizes_skip
  | some found =>
    refine (takes_gasAnqpElement _ ((takes_put _).andThen (takes_all fun m _ => takes_matchedRealm realms m))).of_eq ?_
    rw [length_leBytes]
    omega

/-- A string with its length. -/
def countedStringLen (s : Option (List UInt8)) : ℕ := s.elim 1 fun s => 1 + s.length

lemma length_countedString (s : Option (List UInt8)) : (countedString s).length = countedStringLen s := by
  cases s with
  | none => rfl
  | some s => exact Nat.add_comm _ _

/-- An icon in the list of a provider. -/
def Hs20Icon.availableLen (icon : Hs20Icon) : ℕ := 9 + icon.type.length + icon.name.length

lemma Hs20Icon.length_available (icon : Hs20Icon) : icon.available.length = icon.availableLen := by
  simp only [available, availableLen, List.length_append, length_leBytes, Vector.length_toList, length_countedString,
    countedStringLen, Option.elim_some]
  omega

namespace Hs20OsuProvider

variable (p : Hs20OsuProvider)

/-- The icons of a provider that are configured. -/
def foundIcons (icons : List Hs20Icon) : List Hs20Icon :=
  p.icons.filterMap fun name => icons.find? fun icon => icon.name = name

/-- A provider with the methods `methods`. -/
def len (icons : List Hs20Icon) (methods : List UInt8) : ℕ :=
  9 + langStringsLen p.friendlyName + countedStringLen p.serverUri + methods.length +
    ((p.foundIcons icons).map Hs20Icon.availableLen).sum + countedStringLen p.osuNai + langStringsLen p.serviceDesc

lemma takes_anqpAddOsuProvider {icons : List Hs20Icon} {methods : List UInt8} (h : p.methodList = some methods) :
    (anqpAddOsuProvider icons p).Takes (p.len icons methods) := by
  have hicons : (all ((p.foundIcons icons).map fun icon => put icon.available)).Takes
      ((p.foundIcons icons).map Hs20Icon.availableLen).sum :=
    takes_all fun icon _ => (takes_put _).of_eq icon.length_available
  have hmethods : Wpabuf.Put.Takes (p.methodList.elim (fun _ => none) fun methods =>
      put (UInt8.ofNat methods.length :: methods)) (1 + methods.length) := by
    rw [h]
    exact (takes_put _).of_eq (Nat.add_comm _ _)
  refine ((((takes_langStrings _).counted 2).andThen ((takes_put _).andThen (hmethods.andThen
    ((hicons.counted 2).andThen ((takes_put _).andThen ((takes_langStrings _).counted 2)))))).counted 2).of_eq ?_
  rw [length_countedString, length_countedString, len]
  omega

lemma fails_anqpAddOsuProvider {icons : List Hs20Icon} (h : p.methodList = none) :
    (anqpAddOsuProvider icons p).Fails := by
  have hmethods : Wpabuf.Put.Fails (p.methodList.elim (fun _ => none) fun methods =>
      put (UInt8.ofNat methods.length :: methods)) := fun buf => by rw [h, Option.elim_none]
  exact ((((hmethods.andThen_left _).andThen_right _).andThen_right _).counted 2)

end Hs20OsuProvider

namespace AnqpConf

variable (conf : AnqpConf)

/-- The operator's own element is left out if there is no room for it; `ss` if there is no such element. -/
def own (infoid : ℕ) (ss : List Wpabuf.Section) : List Wpabuf.Section :=
  (conf.getAnqpElem infoid).elim ss fun payload => [.optional (4 + payload.length)]

lemma realizes_anqpAddElem (infoid : ℕ) : (conf.anqpAddElem infoid).Realizes (conf.own infoid []) := by
  rw [anqpAddElem, own]
  cases conf.getAnqpElem infoid with
  | none => exact realizes_skip
  | some payload => exact (takes_plainElement infoid payload).ifRoom

lemma realizes_anqpAddOverride {infoid : ℕ} {p : Wpabuf.Put} {ss : List Wpabuf.Section} (hp : p.Realizes ss) :
    (conf.anqpAddOverride infoid p).Realizes (conf.own infoid ss) := by
  have helem := conf.realizes_anqpAddElem infoid
  rw [own] at helem ⊢
  rw [anqpAddOverride]
  cases h : conf.getAnqpElem infoid with
  | none => exact hp
  | some payload =>
    rw [h] at helem
    exact helem

/-- An element that is only there if `value` is. -/
lemma realizes_elim {α : Type*} {p : α → Wpabuf.Put} {len : α → ℕ} (hp : ∀ a, (p a).Takes (len a)) (value : Option α) :
    (value.elim skip p).Realizes (value.elim [] fun a => [.fixed (len a)]) := by
  cases value with
  | none => exact realizes_skip
  | some a => exact hp a

/-- `anqp_add_hs_capab_list`. -/
def hsCapabListLen : ℕ := 10 + conf.hsCapabList.length

lemma takes_anqpAddHsCapabList : conf.anqpAddHsCapabList.Takes conf.hsCapabListLen :=
  takes_hs20Element _ (takes_put _)

lemma takes_capabList : (gasAnqpElement anqpCapabilityList ((put (conf.capabList.flatMap (leBytes 2))).andThen
    conf.anqpAddHsCapabList)).Takes (4 + (2 * conf.capabList.length + conf.hsCapabListLen)) := by
  refine (takes_gasAnqpElement _ ((takes_put _).andThen conf.takes_anqpAddHsCapabList)).of_eq ?_
  simp only [List.length_flatMap, length_leBytes, List.map_const', List.sum_replicate, smul_eq_mul]
  omega

/-- `anqp_add_nai_realm`, all realms. -/
def naiRealmSections (realms : List HostapdNaiRealmData) : List Wpabuf.Section :=
  if ∃ realm ∈ realms, realm.NoTerminator then [.broken]
  else [.fixed (6 + (realms.map HostapdNaiRealmData.naiRealmLen).sum)]

/-- `anqp_add_osu_providers_list`. -/
def osuProvidersSections : List Wpabuf.Section :=
  if conf.hs20OsuProviders = [] then []
  else if ∃ p ∈ conf.hs20OsuProviders, p.methodList = none then [.broken]
  else [.fixed (12 + conf.osuSsid.length +
    (conf.hs20OsuProviders.map fun p => p.len conf.hs20Icons (p.methodList.getD [])).sum)]

lemma realizes_anqpAddOsuProvidersList : conf.anqpAddOsuProvidersList.Realizes conf.osuProvidersSections := by
  rw [anqpAddOsuProvidersList, osuProvidersSections]
  split_ifs with hnil hbroken
  · exact realizes_skip
  · obtain ⟨p, hp, hmethods⟩ := hbroken
    have hfails : (all (conf.hs20OsuProviders.map (anqpAddOsuProvider conf.hs20Icons))).Fails :=
      fails_all ⟨_, List.mem_map_of_mem hp, p.fails_anqpAddOsuProvider hmethods⟩
    exact ((hfails.andThen_right _).andThen_right _ |>.counted 2 |>.andThen_right _).realizes
  · have hall : (all (conf.hs20OsuProviders.map (anqpAddOsuProvider conf.hs20Icons))).Takes
        (conf.hs20OsuProviders.map fun p => p.len conf.hs20Icons (p.methodList.getD [])).sum := by
      refine takes_all fun p hp => ?_
      cases hmethods : p.methodList with
      | none => exact absurd ⟨p, hp, hmethods⟩ hbroken
      | some methods => exact p.takes_anqpAddOsuProvider hmethods
    refine (takes_hs20Element _ ((takes_put _).andThen hall)).of_eq ?_
    simp only [List.length_cons, List.length_append, List.length_nil]
    omega

lemma realizes_naiRealmSections (realms : List HostapdNaiRealmData) :
    (gasAnqpElement anqpNaiRealm ((put (leBytes 2 realms.length)).andThen
      (all (realms.map HostapdNaiRealmData.naiRealm)))).Realizes (naiRealmSections realms) := by
  rw [naiRealmSections]
  split_ifs with hbroken
  · obtain ⟨realm, hrealm, hterm⟩ := hbroken
    have hfails := fails_all ⟨_, List.mem_map_of_mem hrealm, realm.fails_naiRealm hterm⟩
    exact ((hfails.andThen_right _).counted 2 |>.andThen_right _).realizes
  · have hall := takes_all fun (realm : HostapdNaiRealmData) (hrealm : realm ∈ realms) =>
      realm.takes_naiRealm fun hterm => hbroken ⟨realm, hrealm, hterm⟩
    refine (takes_gasAnqpElement _ ((takes_put _).andThen hall)).of_eq ?_
    rw [length_leBytes]
    omega

/-- `anqp_add_nai_realm`. -/
def anqpAddNaiRealmSections (homeRealm : Option (List UInt8)) (naiRealm naiHomeRealm : Bool) : List Wpabuf.Section :=
  if naiRealm = true ∧ naiHomeRealm = false ∧ (conf.getAnqpElem anqpNaiRealm).isSome = true then
    conf.own anqpNaiRealm []
  else
    conf.naiRealmData.elim [] fun realms =>
      if naiRealm then naiRealmSections realms
      else if naiHomeRealm then homeRealm.elim [] (homeRealmSections realms)
      else []

lemma realizes_anqpAddNaiRealm (homeRealm : Option (List UInt8)) (naiRealm naiHomeRealm : Bool) :
    (conf.anqpAddNaiRealm homeRealm naiRealm naiHomeRealm).Realizes
      (conf.anqpAddNaiRealmSections homeRealm naiRealm naiHomeRealm) := by
  rw [anqpAddNaiRealm, anqpAddNaiRealmSections]
  by_cases hown : naiRealm = true ∧ naiHomeRealm = false ∧ (conf.getAnqpElem anqpNaiRealm).isSome = true
  · rw [if_pos hown, if_pos hown]
    exact conf.realizes_anqpAddElem _
  rw [if_neg hown, if_neg hown]
  cases conf.naiRealmData with
  | none => exact realizes_skip
  | some realms =>
    simp only [Option.elim_some]
    split_ifs
    · exact realizes_naiRealmSections realms
    · cases homeRealm with
      | none => exact realizes_skip
      | some homeRealm => exact realizes_hs20AddNaiHomeRealmMatches realms homeRealm
    · exact realizes_skip

/-- How long the elements are that `gas_serv_build_gas_resp_payload` appends, in this order. -/
def sections (readFile : List UInt8 → Option (List UInt8)) (qi : AnqpQueryInfo) : List Wpabuf.Section :=
  let on (k : ℕ) (ss : List Wpabuf.Section) : List Wpabuf.Section := if qi.request.testBit k then ss else []
  let nai := qi.request.testBit (anqpReq anqpNaiRealm)
  let home := qi.request.testBit (anqpReqHs20 hs20StypeNaiHomeRealmQuery)
  [on (anqpReq anqpCapabilityList)
      (conf.own anqpCapabilityList [.fixed (4 + (2 * conf.capabList.length + conf.hsCapabListLen))]),
    on (anqpReq anqpVenueName)
      (conf.own anqpVenueName (conf.venueName.elim [] fun names => [.fixed (6 + langStringsLen names)])),
    on (anqpReq anqpEmergencyCallNumber) (conf.own anqpEmergencyCallNumber []),
    on (anqpReq anqpNetworkAuthType)
      (conf.own anqpNetworkAuthType (conf.networkAuthType.elim [] fun data => [.fixed (4 + data.length)])),
    on (anqpReq anqpRoamingConsortium) (conf.own anqpRoamingConsortium
      [.fixed (4 + ((conf.roamingConsortium.getD []).map fun oi => 1 + oi.length).sum)]),
    on (anqpReq anqpIpAddrTypeAvailability)
      (conf.own anqpIpAddrTypeAvailability (conf.ipaddrTypeAvailability.elim [] fun _ => [.fixed 5])),
    if nai || home then conf.anqpAddNaiRealmSections qi.homeRealmQuery nai home else [],
    on (anqpReq anqp3gppCellularNetwork)
      (conf.own anqp3gppCellularNetwork (conf.anqp3gppCellNet.elim [] fun data => [.fixed (4 + data.length)])),
    on (anqpReq anqpApGeospatialLocation) (conf.own anqpApGeospatialLocation []),
    on (anqpReq anqpApCivicLocation) (conf.own anqpApCivicLocation []),
    on (anqpReq anqpApLocationPublicUri) (conf.own anqpApLocationPublicUri []),
    on (anqpReq anqpDomainName)
      (conf.own anqpDomainName (conf.domainName.elim [] fun data => [.fixed (4 + data.length)])),
    on (anqpReq anqpEmergencyAlertUri) (conf.own anqpEmergencyAlertUri []),
    on (anqpReq anqpTdlsCapability) (conf.own anqpTdlsCapability []),
    on (anqpReq anqpEmergencyNai) (conf.own anqpEmergencyNai []),
    (qi.extraReq.map fun infoid => conf.own infoid []).flatten,
    on (anqpReqHs20 hs20StypeCapabilityList) [.fixed conf.hsCapabListLen],
    on (anqpReqHs20 hs20StypeOperatorFriendlyName)
      (conf.hs20OperFriendlyName.elim [] fun names => [.fixed (10 + langStringsLen names)]),
    on (anqpReqHs20 hs20StypeWanMetrics) (conf.hs20WanMetrics.elim [] fun _ => [.fixed 23]),
    on (anqpReqHs20 hs20StypeConnectionCapability)
      (conf.hs20ConnectionCapability.elim [] fun data => [.fixed (10 + data.length)]),
    on (anqpReqHs20 hs20StypeOperatingClass)
      (conf.hs20OperatingClass.elim [] fun data => [.fixed (10 + data.length)]),
    on (anqpReqHs20 hs20StypeOsuProvidersList) conf.osuProvidersSections,
    on (anqpReqHs20 hs20StypeIconRequest) [.fixed (10 + (conf.iconBinaryFile readFile qi.iconName).length)]].flatten

lemma realizes_on {b : Bool} {p : Wpabuf.Put} {ss : List Wpabuf.Section} (hp : p.Realizes ss) :
    (if b then p else skip).Realizes (if b then ss else []) := by
  cases b with
  | true => exact hp
  | false => exact realizes_skip

lemma takes_venueName (names : List HostapdLangString) : (gasAnqpElement anqpVenueName
    ((put [conf.venueGroup, conf.venueType]).andThen (all (names.map langString)))).Takes (6 + langStringsLen names) := by
  refine (takes_gasAnqpElement _ ((takes_put _).andThen (takes_langStrings names))).of_eq ?_
  rw [List.length_cons, List.length_singleton]
  omega

lemma takes_roamingConsortium (ois : List (List UInt8)) :
    (all (ois.map fun oi => put (UInt8.ofNat oi.length :: oi))).Takes (ois.map fun oi => 1 + oi.length).sum :=
  takes_all fun _ _ => (takes_put _).of_eq (Nat.add_comm _ _)

/-- The response is built exactly when each element is not longer than what those in front of it have left. -/
theorem gasServBuildGasRespPayload_isSome_iff (readFile : List UInt8 → Option (List UInt8)) (qi : AnqpQueryInfo) :
    (conf.gasServBuildGasRespPayload readFile qi).isSome = true ↔
      (Wpabuf.left (conf.sections readFile qi) (conf.allocated qi)).isSome = true := by
  refine Realizes.isSome_iff (realizes_all ?_) (conf.allocated qi)
  have helem (infoid : ℕ) := conf.realizes_anqpAddElem infoid
  have hplain (infoid : ℕ) (value : Option (List UInt8)) :=
    realizes_elim (fun data => takes_plainElement infoid data) value
  refine .cons (realizes_on (conf.realizes_anqpAddOverride conf.takes_capabList)) ?_
  refine .cons (realizes_on (conf.realizes_anqpAddOverride (realizes_elim conf.takes_venueName _))) ?_
  refine .cons (realizes_on (helem _)) ?_
  refine .cons (realizes_on (conf.realizes_anqpAddOverride (hplain _ _))) ?_
  refine .cons (realizes_on (conf.realizes_anqpAddOverride (takes_gasAnqpElement _ (takes_roamingConsortium _)))) ?_
  refine .cons (realizes_on (conf.realizes_anqpAddOverride
    (realizes_elim (fun value => takes_plainElement _ [value]) _))) ?_
  refine .cons (realizes_on (conf.realizes_anqpAddNaiRealm _ _ _)) ?_
  refine .cons (realizes_on (conf.realizes_anqpAddOverride (hplain _ _))) ?_
  refine .cons (realizes_on (helem _)) (.cons (realizes_on (helem _)) (.cons (realizes_on (helem _)) ?_))
  refine .cons (realizes_on (conf.realizes_anqpAddOverride (hplain _ _))) ?_
  refine .cons (realizes_on (helem _)) (.cons (realizes_on (helem _)) (.cons (realizes_on (helem _)) ?_))
  refine .cons (realizes_all (List.forall₂_map_left_iff.mpr (List.forall₂_map_right_iff.mpr
    (List.forall₂_same.mpr fun infoid _ => helem infoid)))) ?_
  refine .cons (realizes_on conf.takes_anqpAddHsCapabList) ?_
  refine .cons (realizes_on (realizes_elim (fun names => takes_hs20Element _ (takes_langStrings names)) _)) ?_
  refine .cons (realizes_on (realizes_elim (fun metrics => (takes_hs20Element _ (takes_put _)).of_eq
    (by rw [Vector.length_toList])) _)) ?_
  refine .cons (realizes_on (realizes_elim (fun data => takes_hs20Element _ (takes_put data)) _)) ?_
  refine .cons (realizes_on (realizes_elim (fun data => takes_hs20Element _ (takes_put data)) _)) ?_
  refine .cons (realizes_on conf.realizes_anqpAddOsuProvidersList) ?_
  exact .cons (realizes_on (takes_hs20Element _ (takes_put _))) .nil

/-- Six venue names of 252 bytes do not fit into the allowance of 1400 bytes. -/
theorem venueNames_overflow : gasServBuildGasRespPayload
    { venueName := some (List.replicate 6 ⟨#v[101, 110, 103], List.replicate 252 97⟩) } (fun _ => none)
    { request := 1 <<< anqpReq anqpVenueName } = none := by
  decide +kernel

/-- Five of them do. -/
example : ((gasServBuildGasRespPayload
    { venueName := some (List.replicate 5 ⟨#v[101, 110, 103], List.replicate 252 97⟩) } (fun _ => none)
    { request := 1 <<< anqpReq anqpVenueName }).map fun buf => buf.buf.length) = some 1286 := by
  decide +kernel

end AnqpConf

end Ethanol
