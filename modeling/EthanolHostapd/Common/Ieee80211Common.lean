import EthanolHostapd.Wire.BigEndian
import EthanolHostapd.Wire.Elements

/-!
# Information elements

`ieee802_11_parse_elems` of `ieee802_11_common.c`.

The parser records, for each kind of element that it knows, a pointer to the body of the last such element and, for
most kinds, the length.  A pointer is here the offset from the start of the string.
-/

namespace Ethanol

open Wire

/-! ## The code -/

/-- The pointers of `struct ieee802_11_elems`. -/
inductive ElemsField
  | ssid | suppRates | dsParams | challenge | erpInfo | extSuppRates | wpaIe | rsnIe | wmm | wmmTspec | wpsIe
  | suppChannels | mdie | ftie | timeoutInt | htCapabilities | htOperation | meshConfig | meshId | peerMgmt
  | vhtCapabilities | vhtOperation | vhtOpmodeNotif | vendorHtCap | vendorVht | p2p | wfd | linkId | interworking
  | qosMapSet | hs20 | extCapab | bssMaxIdlePeriod | ssidList | osen | mbo | ampe | mic | prefFreqList
  | suppOpClasses | rrmEnabled
  deriving DecidableEq

/-- The pointers without a length of their own. -/
def ElemsField.pointerOnly : ElemsField → Bool
  | dsParams | erpInfo | timeoutInt | htCapabilities | htOperation | vhtCapabilities | vhtOperation | vhtOpmodeNotif
  | linkId | bssMaxIdlePeriod => true
  | _ => false

/-- `struct ieee802_11_elems`; the length at a pointer without a length stays zero. -/
structure Ieee80211Elems where
  ptr : ElemsField → Option ℕ
  len : ElemsField → UInt8
  mbIes : List (ℕ × UInt8)

namespace Ieee80211Elems

/-- `os_memset(elems, 0, sizeof(*elems))`. -/
def cleared : Ieee80211Elems := ⟨fun _ => none, fun _ => 0, []⟩

/-- A pointer and its length are stored. -/
def set (elems : Ieee80211Elems) (f : ElemsField) (pos : ℕ) (elen : UInt8) : Ieee80211Elems :=
  { elems with ptr := Function.update elems.ptr f (some pos), len := Function.update elems.len f elen }

/-- A pointer without a length is stored. -/
def setPtr (elems : Ieee80211Elems) (f : ElemsField) (pos : ℕ) : Ieee80211Elems :=
  { elems with ptr := Function.update elems.ptr f (some pos) }

end Ieee80211Elems

/-- `OUI_MICROSOFT`. -/
def ouiMicrosoft : ℕ := 0x0050f2

/-- `OUI_WFA`. -/
def ouiWfa : ℕ := 0x506f9a

/-- `OUI_BROADCOM`. -/
def ouiBroadcom : ℕ := 0x00904c

/-- `OUI_QCA`. -/
def ouiQca : ℕ := 0x001374

/-- What `ieee802_11_parse_vendor_specific` leaves: the elements, its result and the offsets that it read. -/
structure VendorParse where
  elems : Ieee80211Elems
  ret : ℤ
  reads : List ℕ

/-- `ieee802_11_parse_vendor_specific`. -/
def parseVendorSpecific (s : List UInt8) (pos : ℕ) (elen : UInt8) (elems : Ieee80211Elems) : VendorParse :=
  if elen < 4 then ⟨elems, -1, []⟩
  else
    let oui := beNat ((s.drop pos).take 3)
    let typed : List ℕ := [pos, pos + 1, pos + 2, pos + 3]
    let store (f : ElemsField) : VendorParse := ⟨elems.set f pos elen, 0, typed⟩
    if oui = ouiMicrosoft then
      match s.getD (pos + 3) 0 with
      | 1 => store .wpaIe
      | 2 => -- WMM_OUI_TYPE
        if elen < 5 then ⟨elems, -1, typed⟩
        else
          match s.getD (pos + 4) 0 with
          | 0 | 1 => ⟨elems.set .wmm pos elen, 0, typed ++ [pos + 4]⟩ -- WMM_OUI_SUBTYPE_{INFORMATION,PARAMETER}_ELEMENT
          | 2 => ⟨elems.set .wmmTspec pos elen, 0, typed ++ [pos + 4]⟩ -- WMM_OUI_SUBTYPE_TSPEC_ELEMENT
          | _ => ⟨elems, -1, typed ++ [pos + 4]⟩
      | 4 => store .wpsIe
      | _ => ⟨elems, -1, typed⟩
    else if oui = ouiWfa then
      match s.getD (pos + 3) 0 with
      | 9 => store .p2p -- P2P_OUI_TYPE
      | 10 => store .wfd -- WFD_OUI_TYPE
      | 16 => store .hs20 -- HS20_INDICATION_OUI_TYPE
      | 18 => store .osen -- HS20_OSEN_OUI_TYPE
      | 22 => store .mbo -- MBO_OUI_TYPE
      | _ => ⟨elems, -1, typed⟩
    else if oui = ouiBroadcom then
      match s.getD (pos + 3) 0 with
      | 0x33 => store .vendorHtCap -- VENDOR_HT_CAPAB_OUI_TYPE
      | 4 => -- VENDOR_VHT_TYPE
        if 4 < elen then
          if s.getD (pos + 4) 0 = 8 ∨ s.getD (pos + 4) 0 = 0 then -- VENDOR_VHT_SUBTYPE, VENDOR_VHT_SUBTYPE2
            ⟨elems.set .vendorVht pos elen, 0, typed ++ [pos + 4]⟩
          else ⟨elems, -1, typed ++ [pos + 4]⟩
        else ⟨elems, -1, typed⟩
      | _ => ⟨elems, -1, typed⟩
    else if oui = ouiQca then
      match s.getD (pos + 3) 0 with
      | 0 => store .prefFreqList -- QCA_VENDOR_ELEM_P2P_PREF_CHAN_LIST
      | _ => ⟨elems, -1, typed⟩
    else ⟨elems, -1, [pos, pos + 1, pos + 2]⟩

/-- The variables of `ieee802_11_parse_elems`, the offsets that it has read and the elements that it has handled:
offset, identifier and length. -/
structure ElemsState where
  elems : Ieee80211Elems
  unknown : ℕ
  reads : List ℕ
  seen : List (ℕ × UInt8 × UInt8)

/-- `WLAN_EID_MIC`. -/
def wlanEidMic : UInt8 := 140

/-- `WLAN_EID_MULTI_BAND`. -/
def wlanEidMultiBand : UInt8 := 158

/-- `WLAN_EID_VENDOR_SPECIFIC`. -/
def wlanEidVendorSpecific : UInt8 := 221

/-- `MAX_NOF_MB_IES_SUPPORTED`. -/
def maxNofMbIesSupported : ℕ := 5

/-- The cases of the `switch` that store a pointer, each with the length check that it makes; `none` is the
`default`. -/
def storeElement (id elen : UInt8) (pos : ℕ) (elems : Ieee80211Elems) : Option Ieee80211Elems :=
  match id with
  | 0 => some (if 32 < elen then elems else elems.set .ssid pos elen) -- WLAN_EID_SSID, SSID_MAX_LEN
  | 1 => some (elems.set .suppRates pos elen) -- WLAN_EID_SUPP_RATES
  | 3 => some (if elen < 1 then elems else elems.setPtr .dsParams pos) -- WLAN_EID_DS_PARAMS
  | 4 | 5 => some elems -- WLAN_EID_CF_PARAMS, WLAN_EID_TIM
  | 16 => some (elems.set .challenge pos elen) -- WLAN_EID_CHALLENGE
  | 42 => some (if elen < 1 then elems else elems.setPtr .erpInfo pos) -- WLAN_EID_ERP_INFO
  | 50 => some (elems.set .extSuppRates pos elen) -- WLAN_EID_EXT_SUPP_RATES
  | 48 => some (elems.set .rsnIe pos elen) -- WLAN_EID_RSN
  | 33 => some elems -- WLAN_EID_PWR_CAPABILITY
  | 36 => some (elems.set .suppChannels pos elen) -- WLAN_EID_SUPPORTED_CHANNELS
  | 54 => some (if elen < 3 then elems else elems.set .mdie pos elen) -- WLAN_EID_MOBILITY_DOMAIN, struct rsn_mdie
  | 55 => some (if elen < 82 then elems else elems.set .ftie pos elen) -- WLAN_EID_FAST_BSS_TRANSITION, struct rsn_ftie
  | 56 => some (if elen ≠ 5 then elems else elems.setPtr .timeoutInt pos) -- WLAN_EID_TIMEOUT_INTERVAL
  | 45 => some (if elen < 26 then elems else elems.setPtr .htCapabilities pos) -- WLAN_EID_HT_CAP
  | 61 => some (if elen < 22 then elems else elems.setPtr .htOperation pos) -- WLAN_EID_HT_OPERATION
  | 113 => some (elems.set .meshConfig pos elen) -- WLAN_EID_MESH_CONFIG
  | 114 => some (elems.set .meshId pos elen) -- WLAN_EID_MESH_ID
  | 117 => some (elems.set .peerMgmt pos elen) -- WLAN_EID_PEER_MGMT
  | 191 => some (if elen < 12 then elems else elems.setPtr .vhtCapabilities pos) -- WLAN_EID_VHT_CAP
  | 192 => some (if elen < 5 then elems else elems.setPtr .vhtOperation pos) -- WLAN_EID_VHT_OPERATION
  | 199 => some (if elen ≠ 1 then elems else elems.setPtr .vhtOpmodeNotif pos) -- WLAN_EID_VHT_OPERATING_MODE_…
  | 101 => some (if elen < 18 then elems else elems.setPtr .linkId pos) -- WLAN_EID_LINK_ID
  | 107 => some (elems.set .interworking pos elen) -- WLAN_EID_INTERWORKING
  | 110 => some (if elen < 16 then elems else elems.set .qosMapSet pos elen) -- WLAN_EID_QOS_MAP_SET
  | 127 => some (elems.set .extCapab pos elen) -- WLAN_EID_EXT_CAPAB
  | 90 => some (if elen < 3 then elems else elems.setPtr .bssMaxIdlePeriod pos) -- WLAN_EID_BSS_MAX_IDLE_PERIOD
  | 84 => some (elems.set .ssidList pos elen) -- WLAN_EID_SSID_LIST
  | 139 => some (elems.set .ampe pos elen) -- WLAN_EID_AMPE
  | 140 => some (elems.set .mic pos elen) -- WLAN_EID_MIC
  | 158 => -- WLAN_EID_MULTI_BAND
    some (if maxNofMbIesSupported ≤ elems.mbIes.length then elems
      else { elems with mbIes := elems.mbIes ++ [(pos, elen)] })
  | 59 => some (elems.set .suppOpClasses pos elen) -- WLAN_EID_SUPPORTED_OPERATING_CLASSES
  | 70 => some (elems.set .rrmEnabled pos elen) -- WLAN_EID_RRM_ENABLED_CAPABILITIES
  | _ => none

/-- The `switch` of `ieee802_11_parse_elems`. -/
def ElemsState.element (s : List UInt8) (pos : ℕ) (id elen : UInt8) (st : ElemsState) : ElemsState :=
  let st := { st with seen := st.seen ++ [(pos, id, elen)] }
  if id = wlanEidVendorSpecific then
    let v := parseVendorSpecific s pos elen st.elems
    { st with elems := v.elems, reads := st.reads ++ v.reads, unknown := if v.ret ≠ 0 then st.unknown + 1 else st.unknown }
  else
    match storeElement id elen pos st.elems with
    | some elems => { st with elems := elems }
    | none => { st with unknown := st.unknown + 1 }

/-- `ParseRes`. -/
inductive ParseRes
  | parseOk | parseUnknown | parseFailed
  deriving DecidableEq

/-- The loop of `ieee802_11_parse_elems` and what follows it. -/
def parseElemsLoop (s : List UInt8) (showErrors : Bool) (pos left : ℕ) (st : ElemsState) : ParseRes × ElemsState :=
  if 2 ≤ left then
    let id := s.getD pos 0
    let elen := s.getD (pos + 1) 0
    let st := { st with reads := st.reads ++ [pos, pos + 1] }
    if left - 2 < elen.toNat then
      (.parseFailed, { st with reads := st.reads ++ if showErrors then List.range s.length else [] })
    else
      let st := st.element s (pos + 2) id elen
      -- after mic everything is encrypted, so stop
      let left := if id = wlanEidMic then elen.toNat else left - 2
      parseElemsLoop s showErrors (pos + 2 + elen.toNat) (left - elen.toNat) st
  else if left ≠ 0 then (.parseFailed, st)
  else if st.unknown ≠ 0 then (.parseUnknown, st)
  else (.parseOk, st)
termination_by left
decreasing_by
  split <;> omega

/-- `ieee802_11_parse_elems`. -/
def ieee80211ParseElems (s : List UInt8) (showErrors : Bool) : ParseRes × ElemsState :=
  parseElemsLoop s showErrors 0 s.length ⟨.cleared, 0, [], []⟩

/-! ## What an element stores -/

/-- The least length that is checked before a pointer is stored. -/
def ElemsField.minimum : ElemsField → ℕ
  | dsParams | erpInfo | vhtOpmodeNotif => 1
  | mdie | bssMaxIdlePeriod => 3
  | wpaIe | wpsIe | p2p | wfd | hs20 | osen | mbo | vendorHtCap | prefFreqList => 4
  | wmm | wmmTspec | vendorVht | timeoutInt | vhtOperation => 5
  | vhtCapabilities => 12
  | qosMapSet => 16
  | linkId => 18
  | htOperation => 22
  | htCapabilities => 26
  | ftie => 82
  | _ => 0

/-- What the handling of one element can store. -/
inductive Stores (elems : Ieee80211Elems) (pos : ℕ) (elen : UInt8) : Ieee80211Elems → Prop
  | unchanged : Stores elems pos elen elems
  | field (f : ElemsField) (h : f.minimum ≤ elen.toNat) : Stores elems pos elen (elems.set f pos elen)
  | pointer (f : ElemsField) (h : f.minimum ≤ elen.toNat) (hptr : f.pointerOnly = true) :
      Stores elems pos elen (elems.setPtr f pos)
  | multiBand (h : elems.mbIes.length < maxNofMbIesSupported) :
      Stores elems pos elen { elems with mbIes := elems.mbIes ++ [(pos, elen)] }

namespace Stores

variable {elems : Ieee80211Elems} {pos : ℕ} {elen : UInt8} {c : Prop} [Decidable c]

lemma field_unless {f : ElemsField} (h : ¬c → f.minimum ≤ elen.toNat) :
    Stores elems pos elen (if c then elems else elems.set f pos elen) := by
  split
  · exact unchanged
  · next hc => exact field f (h hc)

lemma pointer_unless {f : ElemsField} (hptr : f.pointerOnly = true) (h : ¬c → f.minimum ≤ elen.toNat) :
    Stores elems pos elen (if c then elems else elems.setPtr f pos) := by
  split
  · exact unchanged
  · next hc => exact pointer f (h hc) hptr

end Stores

lemma le_toNat_of_not_lt {n elen : UInt8} (h : ¬elen < n) : n.toNat ≤ elen.toNat :=
  UInt8.le_iff_toNat_le.mp (UInt8.not_lt.mp h)

lemma stores_storeElement {id elen : UInt8} {pos : ℕ} {elems elems' : Ieee80211Elems}
    (h : storeElement id elen pos elems = some elems') : Stores elems pos elen elems' := by
  have hmin {f : ElemsField} (n : UInt8) (hf : f.minimum = n.toNat) : ¬elen < n → f.minimum ≤ elen.toNat :=
    fun hlt => hf ▸ le_toNat_of_not_lt hlt
  have hexact {f : ElemsField} (n : UInt8) (hf : f.minimum = n.toNat) : ¬elen ≠ n → f.minimum ≤ elen.toNat := by
    intro heq
    rw [hf, ← not_not.mp heq]
  unfold storeElement at h
  split at h <;> try obtain rfl := Option.some.inj h
  -- the checks in the order of the definition
  · exact Stores.field_unless fun _ => Nat.zero_le _
  all_goals first
    | exact Stores.unchanged
    | exact Stores.field _ (Nat.zero_le _)
    | exact Stores.pointer_unless rfl (hmin _ rfl)
    | exact Stores.pointer_unless rfl (hexact _ rfl)
    | exact Stores.field_unless (hmin _ rfl)
    | skip
  · split
    · exact Stores.unchanged
    · next hlt => exact Stores.multiBand (not_le.mp hlt)
  · cases h

lemma stores_parseVendorSpecific (s : List UInt8) (pos : ℕ) (elen : UInt8) (elems : Ieee80211Elems) :
    Stores elems pos elen (parseVendorSpecific s pos elen elems).elems ∧
      ∀ o ∈ (parseVendorSpecific s pos elen elems).reads, pos ≤ o ∧ o < pos + elen.toNat := by
  unfold parseVendorSpecific
  split
  · exact ⟨Stores.unchanged, by simp⟩
  · next hshort =>
    have hfour : 4 ≤ elen.toNat := le_toNat_of_not_lt hshort
    have htyped : ∀ o ∈ [pos, pos + 1, pos + 2, pos + 3], pos ≤ o ∧ o < pos + elen.toNat := by
      simp
      omega
    have hfifth (h : 5 ≤ elen.toNat) :
        ∀ o ∈ [pos, pos + 1, pos + 2, pos + 3] ++ [pos + 4], pos ≤ o ∧ o < pos + elen.toNat := by
      simp
      omega
    have hstore (f : ElemsField) (hf : f.minimum = 4) : Stores elems pos elen (elems.set f pos elen) :=
      Stores.field f (hf ▸ hfour)
    have hstore' (f : ElemsField) (hf : f.minimum = 5) (h : 5 ≤ elen.toNat) :
        Stores elems pos elen (elems.set f pos elen) := Stores.field f (hf ▸ h)
    dsimp only
    split
    · split
      · exact ⟨hstore _ rfl, htyped⟩
      · split
        · exact ⟨Stores.unchanged, htyped⟩
        · next hwmm =>
          have hfive : 5 ≤ elen.toNat := le_toNat_of_not_lt hwmm
          split
          · exact ⟨hstore' _ rfl hfive, hfifth hfive⟩
          · exact ⟨hstore' _ rfl hfive, hfifth hfive⟩
          · exact ⟨hstore' _ rfl hfive, hfifth hfive⟩
          · exact ⟨Stores.unchanged, hfifth hfive⟩
      · exact ⟨hstore _ rfl, htyped⟩
      · exact ⟨Stores.unchanged, htyped⟩
    · split
      · split
        · exact ⟨hstore _ rfl, htyped⟩
        · exact ⟨hstore _ rfl, htyped⟩
        · exact ⟨hstore _ rfl, htyped⟩
        · exact ⟨hstore _ rfl, htyped⟩
        · exact ⟨hstore _ rfl, htyped⟩
        · exact ⟨Stores.unchanged, htyped⟩
      · split
        · split
          · exact ⟨hstore _ rfl, htyped⟩
          · split
            · next hlong =>
              have hfive : 5 ≤ elen.toNat := UInt8.lt_iff_toNat_lt.mp hlong
              split
              · exact ⟨hstore' _ rfl hfive, hfifth hfive⟩
              · exact ⟨Stores.unchanged, hfifth hfive⟩
            · exact ⟨Stores.unchanged, htyped⟩
          · exact ⟨Stores.unchanged, htyped⟩
        · split
          · split
            · exact ⟨hstore _ rfl, htyped⟩
            · exact ⟨Stores.unchanged, htyped⟩
          · exact ⟨Stores.unchanged, fun o ho => htyped o (by simp at ho ⊢; omega)⟩

/-! ## What the walk records -/

/-- The elements refer to bodies of the given elements: each pointer to one that is long enough, with its length where
there is one. -/
structure Ieee80211Elems.Records (elems : Ieee80211Elems) (es : List (ℕ × Element)) : Prop where
  ptr : ∀ f o, elems.ptr f = some o →
    ∃ e, (o, e) ∈ es ∧ f.minimum ≤ e.body.length ∧ (f.pointerOnly = false → elems.len f = e.len)
  mbIes : ∀ p ∈ elems.mbIes, ∃ e, (p.1, e) ∈ es ∧ p.2 = e.len
  nofIes : elems.mbIes.length ≤ maxNofMbIesSupported

namespace Ieee80211Elems.Records

variable {elems elems' : Ieee80211Elems} {es : List (ℕ × Element)}

lemma cleared : Ieee80211Elems.cleared.Records [] where
  ptr _ _ h := by cases h
  mbIes _ h := absurd h List.not_mem_nil
  nofIes := Nat.zero_le _

/-- Elements that come later do not take back what was recorded. -/
lemma append (h : elems.Records es) (fs : List (ℕ × Element)) : elems.Records (es ++ fs) where
  ptr f o hf := by
    obtain ⟨e, he, hmin, hlen⟩ := h.ptr f o hf
    exact ⟨e, List.mem_append_left fs he, hmin, hlen⟩
  mbIes p hp := by
    obtain ⟨e, he, hlen⟩ := h.mbIes p hp
    exact ⟨e, List.mem_append_left fs he, hlen⟩
  nofIes := h.nofIes

/-- What the handling of an element stores is that element. -/
lemma stores {pos : ℕ} {e : Element} (h : elems.Records es) (hs : Stores elems pos e.len elems') :
    elems'.Records (es ++ [(pos, e)]) := by
  have hold := h.append [(pos, e)]
  have hmem : (pos, e) ∈ es ++ [(pos, e)] := List.mem_append_right es (List.mem_singleton_self _)
  cases hs with
  | unchanged => exact hold
  | field f hmin =>
    refine ⟨?_, hold.mbIes, hold.nofIes⟩
    intro g o hg
    by_cases hfg : g = f
    · subst hfg
      obtain rfl : pos = o := by simpa [Ieee80211Elems.set] using hg
      exact ⟨e, hmem, by simpa using hmin, fun _ => by simp [Ieee80211Elems.set]⟩
    · have hg' : elems.ptr g = some o := by simpa [Ieee80211Elems.set, hfg] using hg
      obtain ⟨e', he', hmin', hlen⟩ := hold.ptr g o hg'
      exact ⟨e', he', hmin', fun hptr => by simpa [Ieee80211Elems.set, hfg] using hlen hptr⟩
  | pointer f hmin hptr =>
    refine ⟨?_, hold.mbIes, hold.nofIes⟩
    intro g o hg
    by_cases hfg : g = f
    · subst hfg
      obtain rfl : pos = o := by simpa [Ieee80211Elems.setPtr] using hg
      refine ⟨e, hmem, by simpa using hmin, ?_⟩
      intro hnot
      rw [hptr] at hnot
      cases hnot
    · have hg' : elems.ptr g = some o := by simpa [Ieee80211Elems.setPtr, hfg] using hg
      exact hold.ptr g o hg'
  | multiBand hlt =>
    refine ⟨hold.ptr, ?_, ?_⟩
    · intro p hp
      rcases List.mem_append.mp hp with hp | hp
      · exact hold.mbIes p hp
      · obtain rfl := List.mem_singleton.mp hp
        exact ⟨e, hmem, rfl⟩
    · rw [List.length_append, List.length_singleton]
      omega

end Ieee80211Elems.Records

/-- The walk stops behind a MIC. -/
def isMic (e : Element) : Bool := e.id = wlanEidMic

/-- How an element is listed among those that were handled. -/
def seenAs (p : ℕ × Element) : ℕ × UInt8 × UInt8 := (p.1, p.2.id, p.2.len)

/-- The parser has handled the given elements of the string. -/
structure ElemsState.Handled (s : List UInt8) (es : List (ℕ × Element)) (st : ElemsState) : Prop where
  reads : ∀ o ∈ st.reads, o < s.length
  records : st.elems.Records es
  seen : st.seen = es.map seenAs

section Loop

variable {s rest : List UInt8} {showErrors : Bool} {pos : ℕ} {st : ElemsState} {es : List (ℕ × Element)} {e : Element}

lemma length_of_drop (hdrop : s.drop pos = e.bytes ++ rest) :
    s.length = pos + 2 + e.body.length + rest.length := by
  have hlength := congrArg List.length hdrop
  rw [List.length_drop, List.length_append, Element.length_bytes] at hlength
  omega

/-- The two bytes at the front of an element. -/
lemma getD_of_drop (hdrop : s.drop pos = e.bytes ++ rest) : s.getD pos 0 = e.id ∧ s.getD (pos + 1) 0 = e.len := by
  obtain ⟨hid, hlen⟩ := header_of_drop hdrop
  exact ⟨by rw [List.getD_eq_getElem?_getD, hid, Option.getD_some],
    by rw [List.getD_eq_getElem?_getD, hlen, Option.getD_some]⟩

lemma drop_of_drop (hdrop : s.drop pos = e.bytes ++ rest) : s.drop (pos + e.bytes.length) = rest := by
  rw [← List.drop_drop, hdrop, List.drop_left]

/-- One more element is handled. -/
lemma handled_element (h : st.Handled s es) (hdrop : s.drop pos = e.bytes ++ rest) :
    (ElemsState.element s (pos + 2) e.id e.len { st with reads := st.reads ++ [pos, pos + 1] }).Handled s
      (es ++ [(pos + 2, e)]) := by
  have hlength := length_of_drop hdrop
  have hreads : ∀ o ∈ st.reads ++ [pos, pos + 1], o < s.length := by
    intro o ho
    rcases List.mem_append.mp ho with ho | ho
    · exact h.reads o ho
    · rcases List.mem_pair.mp ho with rfl | rfl <;> omega
  have hseen : st.seen ++ [(pos + 2, e.id, e.len)] = (es ++ [(pos + 2, e)]).map seenAs := by
    rw [h.seen, List.map_append]
    rfl
  unfold ElemsState.element
  dsimp only
  split
  · obtain ⟨hstores, hbody⟩ := stores_parseVendorSpecific s (pos + 2) e.len st.elems
    refine ⟨?_, h.records.stores hstores, hseen⟩
    intro o ho
    rcases List.mem_append.mp ho with ho | ho
    · exact hreads o ho
    · have hrange := hbody o ho
      rw [Element.toNat_len] at hrange
      omega
  · split
    · next hstore => exact ⟨hreads, h.records.stores (stores_storeElement hstore), hseen⟩
    · exact ⟨hreads, h.records.append _, hseen⟩

/-- The loop goes on behind an element, unless that is a MIC. -/
lemma parseElemsLoop_next (hdrop : s.drop pos = e.bytes ++ rest) :
    parseElemsLoop s showErrors pos (e.bytes ++ rest).length st =
      parseElemsLoop s showErrors (pos + e.bytes.length) (if isMic e then 0 else rest.length)
        (ElemsState.element s (pos + 2) e.id e.len { st with reads := st.reads ++ [pos, pos + 1] }) := by
  obtain ⟨hid, hlen⟩ := getD_of_drop hdrop
  have hlength : (e.bytes ++ rest).length = e.body.length + 2 + rest.length := by simp
  rw [parseElemsLoop, if_pos (by omega)]
  dsimp only
  rw [hid, hlen, Element.toNat_len, if_neg (by omega)]
  have hpos : pos + 2 + e.body.length = pos + e.bytes.length := by
    rw [Element.length_bytes]
    omega
  rw [hpos]
  by_cases hmic : e.id = wlanEidMic
  · simp [isMic, hmic]
  · have hleft : (e.bytes ++ rest).length - 2 - e.body.length = rest.length := by omega
    simp only [isMic, hmic, if_false, decide_false, Bool.false_eq_true, hleft]

/-- With nothing left the parser succeeds. -/
lemma parseElemsLoop_zero (s : List UInt8) (showErrors : Bool) (pos : ℕ) (st : ElemsState) :
    (parseElemsLoop s showErrors pos 0 st).1 ≠ .parseFailed ∧ (parseElemsLoop s showErrors pos 0 st).2 = st := by
  rw [parseElemsLoop]
  simp only [show ¬2 ≤ 0 by omega, if_false, ne_eq, not_true_eq_false]
  split <;> simp

/-- With something left that is no whole element the parser fails. -/
lemma parseElemsLoop_none (h : st.Handled s es) (hdrop : s.drop pos = rest) (hnone : nextElement rest = none)
    (hrest : rest ≠ []) :
    (parseElemsLoop s showErrors pos rest.length st).1 = .parseFailed ∧
      (parseElemsLoop s showErrors pos rest.length st).2.Handled s es := by
  have hlength := congrArg List.length hdrop
  rw [List.length_drop] at hlength
  rw [parseElemsLoop]
  match rest, hrest with
  | [b], _ =>
    simp only [List.length_singleton, show ¬2 ≤ 1 by omega, if_false]
    exact ⟨rfl, h⟩
  | id :: len :: tail, _ =>
    have hlen : s.getD (pos + 1) 0 = len := by
      have hget : (s.drop pos)[1]? = some len := by rw [hdrop]; rfl
      rw [List.getElem?_drop] at hget
      rw [List.getD_eq_getElem?_getD, hget]
      rfl
    have hshort : tail.length < len.toNat := by
      by_contra hle
      rw [nextElement, if_pos (not_lt.mp hle)] at hnone
      cases hnone
    simp only [List.length_cons] at hlength ⊢
    rw [if_pos (by omega), hlen, if_pos (by omega)]
    refine ⟨rfl, ?_, h.records, h.seen⟩
    intro o ho
    rcases List.mem_append.mp ho with ho | ho
    · rcases List.mem_append.mp ho with ho | ho
      · exact h.reads o ho
      · rcases List.mem_pair.mp ho with rfl | rfl <;> omega
    · split at ho
      · exact List.mem_range.mp ho
      · exact absurd ho List.not_mem_nil

/-- The loop handles the elements of the walk and fails if and only if the walk is not finished. -/
lemma parseElemsLoop_spec (h : st.Handled s es) (hdrop : s.drop pos = rest) :
    (parseElemsLoop s showErrors pos rest.length st).2.Handled s (es ++ located pos (walk isMic rest).1) ∧
      ((parseElemsLoop s showErrors pos rest.length st).1 = .parseFailed ↔ ¬Finished isMic rest) := by
  induction rest using elements_induction generalizing pos st es with
  | none rest hnone =>
    rw [walk_of_none hnone, located, List.append_nil, Finished, walk_of_none hnone]
    by_cases hrest : rest = []
    · subst hrest
      obtain ⟨hres, hst⟩ := parseElemsLoop_zero s showErrors pos st
      rw [List.length_nil, hst]
      exact ⟨h, iff_of_false hres (by simp)⟩
    · obtain ⟨hres, hst⟩ := parseElemsLoop_none h hdrop hnone hrest
      exact ⟨hst, iff_of_true hres (by simp [hrest])⟩
  | next e rest ih =>
    have hstep := handled_element h hdrop
    rw [parseElemsLoop_next hdrop]
    cases hmic : isMic e with
    | true =>
      obtain ⟨hres, hst⟩ := parseElemsLoop_zero s showErrors (pos + e.bytes.length)
        (ElemsState.element s (pos + 2) e.id e.len { st with reads := st.reads ++ [pos, pos + 1] })
      rw [if_pos rfl, hst, Finished, walk_stop hmic]
      exact ⟨hstep, iff_of_false hres (not_not.mpr (Or.inl ⟨e, List.mem_singleton_self e, hmic⟩))⟩
    | false =>
      obtain ⟨hst, hres⟩ := ih hstep (drop_of_drop hdrop)
      rw [if_neg Bool.false_ne_true, walk_cons hmic, located, List.append_cons]
      refine ⟨hst, hres.trans (not_congr ?_)⟩
      rw [Finished, Finished, walk_cons hmic]
      simp [hmic]

end Loop

/-- The pointers lie inside the string, with at least the lengths that were checked. -/
structure Ieee80211Elems.Inside (elems : Ieee80211Elems) (s : List UInt8) : Prop where
  ptr : ∀ f o, elems.ptr f = some o → ∃ elen, f.minimum ≤ elen ∧ o + elen ≤ s.length ∧
    (f.pointerOnly = false → (elems.len f).toNat = elen)
  mbIes : ∀ p ∈ elems.mbIes, p.1 + p.2.toNat ≤ s.length
  nofIes : elems.mbIes.length ≤ maxNofMbIesSupported

/-- The elements are the whole ones from the front of the string on, up to the first MIC or as far as they go. -/
def WholeElements (s : List UInt8) (es : List Element) : Prop :=
  ∃ rest, s = elementBytes es ++ rest ∧
    ((∃ fs e, es = fs ++ [e] ∧ (∀ f ∈ fs, isMic f = false) ∧ isMic e = true) ∨
      (∀ f ∈ es, isMic f = false) ∧ nextElement rest = none)

lemma Ieee80211Elems.Records.inside {elems : Ieee80211Elems} {s rest : List UInt8} {es : List Element}
    (h : elems.Records (located 0 es)) (hs : s = elementBytes es ++ rest) : elems.Inside s := by
  have hinside : ∀ o e, (o, e) ∈ located 0 es → o + e.body.length ≤ s.length := by
    intro o e he
    obtain ⟨before, after, hes, ho⟩ := mem_located he
    rw [hs, hes]
    simp only [List.length_append, Element.length_bytes]
    omega
  refine ⟨?_, ?_, h.nofIes⟩
  · intro f o hf
    obtain ⟨e, he, hmin, hlen⟩ := h.ptr f o hf
    refine ⟨e.body.length, hmin, hinside o e he, ?_⟩
    intro hptr
    rw [hlen hptr, Element.toNat_len]
  · intro p hp
    obtain ⟨e, he, hlen⟩ := h.mbIes p hp
    rw [hlen, Element.toNat_len]
    exact hinside p.1 e he

/-- The parser reads only bytes of the string, what it records lies inside the string, it handles the whole elements up
to a MIC, and it fails exactly if the string is not made of whole elements, apart from what follows a MIC. -/
theorem ieee80211ParseElems_exact (s : List UInt8) (showErrors : Bool) :
    (∀ o ∈ (ieee80211ParseElems s showErrors).2.reads, o < s.length) ∧
      (ieee80211ParseElems s showErrors).2.elems.Inside s ∧
      (∃ es, WholeElements s es ∧ (ieee80211ParseElems s showErrors).2.seen = (located 0 es).map seenAs) ∧
      ((ieee80211ParseElems s showErrors).1 = .parseFailed ↔
        ¬((∃ es, s = elementBytes es) ∨ ∃ es e, isMic e = true ∧ elementBytes (es ++ [e]) <+: s)) := by
  have hstart : (⟨.cleared, 0, [], []⟩ : ElemsState).Handled s [] :=
    ⟨fun o ho => absurd ho List.not_mem_nil, Ieee80211Elems.Records.cleared, rfl⟩
  obtain ⟨hhandled, hfailed⟩ := parseElemsLoop_spec hstart rfl
  rw [List.nil_append] at hhandled
  have happend := (walk_append isMic s).symm
  rw [← finished_iff]
  exact ⟨hhandled.reads, hhandled.records.inside happend,
    ⟨(walk isMic s).1, ⟨(walk isMic s).2, happend, walk_ends isMic s⟩, hhandled.seen⟩, hfailed⟩

/-! ## A single element -/

/-- `get_ie`, for the part of a buffer from `pos` to `stop`: where the first element with an identifier is, if there is one.
There is no result if a byte outside the buffer is read. -/
def getIe (buf : List UInt8) (stop : ℕ) (eid : UInt8) (pos : ℕ) : Option (Option ℕ) :=
  if 1 < stop - pos then do
    let len ← buf[pos + 1]?
    if stop - pos < 2 + len.toNat then pure none
    else
      let id ← buf[pos]?
      if id = eid then pure (some pos) else getIe buf stop eid (pos + 2 + len.toNat)
  else some none
termination_by stop - pos

section GetIe

variable {buf : List UInt8} {stop pos : ℕ} {eid : UInt8}

/-- An element that is found is inside the part of the buffer. -/
lemma getIe_inside {q : ℕ} (h : getIe buf stop eid pos = some (some q)) :
    pos ≤ q ∧ q + 1 < stop ∧ ∀ len, buf[q + 1]? = some len → q + 2 + len.toNat ≤ stop := by
  fun_induction getIe buf stop eid pos with
  | case1 pos hroom ih =>
    obtain ⟨len, hlen, h⟩ := Option.bind_eq_some_iff.mp h
    split_ifs at h with hlong
    · cases h
    obtain ⟨id, hid, h⟩ := Option.bind_eq_some_iff.mp h
    split_ifs at h
    · cases h
      refine ⟨le_rfl, by omega, fun len' hlen' => ?_⟩
      rw [hlen] at hlen'
      obtain rfl := Option.some.inj hlen'
      omega
    · obtain ⟨hpos, hq⟩ := ih len hlong h
      exact ⟨by omega, hq⟩
  | case2 pos hroom => cases h

/-- Only the part of the buffer is read. -/
lemma getIe_isSome (hstop : stop ≤ buf.length) : (getIe buf stop eid pos).isSome = true := by
  fun_induction getIe buf stop eid pos with
  | case1 pos hroom ih =>
    have hid : buf[pos]? = some buf[pos] := List.getElem?_eq_getElem (by omega)
    have hlen : buf[pos + 1]? = some buf[pos + 1] := List.getElem?_eq_getElem (by omega)
    simp only [hid, hlen, Option.bind_eq_bind, Option.bind_some]
    split_ifs with hlong
    · rfl
    · rfl
    · exact ih _ hlong
  | case2 pos hroom => rfl

end GetIe

end Ethanol
