import EthanolHostapd.Ap.ApList
import EthanolHostapd.Common.Ieee80211Common
import EthanolHostapd.Messaging.BeaconInfo
import EthanolHostapd.Wire.Buffer
import EthanolHostapd.Wire.LittleEndian

/-!
# Forwarding a beacon

The block of `ap_list_process_beacon` that fills the report for the controller.  It copies from the elements that the parser
found in the beacon, and it makes no length checks of its own.  There is no result if a byte outside the given bytes is
read or an element outside an array of the report is written.
-/

namespace Ethanol

open Wire

/-! ## The code -/

/-- `WLAN_EID_DS_PARAMS`. -/
def wlanEidDsParams : UInt8 := 3

/-- The first `count` elements of an array are overwritten with the bytes from `pos` on. -/
def copyToField {n : ℕ} (field : List.Vector UInt8 n) (buf : List UInt8) (pos count : ℕ) : Option (List.Vector UInt8 n) :=
  (Buffer.read buf pos count).bind fun bytes =>
    if count ≤ n then some (List.Vector.ofFn fun i => bytes.getD i (field.get i)) else none

/-- The SSID is copied to `len + 1` bytes of new memory and terminated. -/
def copySsid (buf : List UInt8) (pos len : ℕ) : Option CString :=
  (Buffer.read buf pos len).bind fun ssid =>
    (Buffer.write (List.replicate (len + 1) 0) 0 ssid).bind fun mem =>
      (Buffer.write mem len [0]).map CString.ofBytes

/-- The fields of `struct ieee80211_ht_capabilities` at `h`. -/
def copyHtCapabilities (htSupport : Bool) (buf : List UInt8) (h : ℕ) : Option HtCapability := do
  let htCapabilitiesInfo ← Buffer.read buf h 2
  let aMpduParams ← buf[h + 2]?
  let supportedMcsSet ← copyToField default buf (h + 3) 16
  let htExtendedCapabilities ← Buffer.read buf (h + 19) 2
  let txBfCapabilityInfo ← Buffer.read buf (h + 21) 4
  let aselCapabilities ← buf[h + 25]?
  pure {
    htSupport
    htCapabilityInfo := Int64.ofNat (leNat htCapabilitiesInfo)
    aMpduParameters := aMpduParams.toUInt32
    supportedMcsSetSpatialStream := supportedMcsSet
    htExtendedCapability := Int64.ofNat (leNat htExtendedCapabilities)
    txBeamFormingCapability := Int64.ofNat (leNat txBfCapabilityInfo)
    asel := aselCapabilities.toUInt32 }

/-- The report that the block fills for an access point, with pointers into the given bytes. -/
def beaconReport (ap : ApInfo) (buf : List UInt8) (elems : Ieee80211Elems) : Option BeaconReceived := do
  let ssid ← (elems.ptr .ssid).elim (some none) fun pos => (copySsid buf pos (elems.len .ssid).toNat).map some
  let addr ← copyToField default ap.addr.toList 0 6
  let rates ← Buffer.read ap.supportedRates 0 wlanSuppRatesMax
  -- the identifier of the element is the number of bytes that are copied
  let dsParameter ← (elems.ptr .dsParams).elim (some default) fun pos =>
    copyToField default buf pos wlanEidDsParams.toNat
  let ht ← (elems.ptr .htCapabilities).elim (some { (default : HtCapability) with htSupport := ap.htSupport })
    (copyHtCapabilities ap.htSupport buf)
  pure { (default : BeaconReceived) with
    ssid
    channel := Int32.ofInt ap.channel
    addr
    numRates := 32
    rates := rates.mapIdx fun i rate => ⟨UInt32.ofNat i, (rate &&& 0x7f).toUInt32 * 5, false⟩
    dsParameter
    erpInformation := Int64.ofInt ap.erp
    ht }

/-! ## Copying -/

section Copying

variable {n : ℕ} {buf : List UInt8} {pos count : ℕ}

lemma copyToField_isSome_iff (field : List.Vector UInt8 n) :
    (copyToField field buf pos count).isSome = true ↔ pos + count ≤ buf.length ∧ count ≤ n := by
  rw [copyToField, Buffer.read]
  split_ifs <;> simp [*]

lemma copySsid_isSome (h : pos + count ≤ buf.length) : (copySsid buf pos count).isSome = true := by
  have hread := Buffer.length_window h
  obtain ⟨mem, hwrite, hmem⟩ := Buffer.exists_write
    (show 0 + (Buffer.window buf pos count).length ≤ (List.replicate (count + 1) (0 : UInt8)).length by
      rw [List.length_replicate]
      omega)
  rw [List.length_replicate] at hmem
  rw [copySsid, Buffer.read_eq_some h, Option.bind_some, hwrite, Option.bind_some,
    Buffer.write_eq_some (by rw [hmem, List.length_singleton])]
  rfl

lemma copyHtCapabilities_isSome (htSupport : Bool) (h : pos + 26 ≤ buf.length) :
    (copyHtCapabilities htSupport buf pos).isSome = true := by
  obtain ⟨mcs, hmcs⟩ := Option.isSome_iff_exists.mp
    ((copyToField_isSome_iff (n := 16) default).mpr ⟨show pos + 3 + 16 ≤ buf.length by omega, le_rfl⟩)
  rw [copyHtCapabilities, Buffer.read_eq_some (by omega), List.getElem?_eq_getElem (by omega), hmcs,
    Buffer.read_eq_some (by omega), Buffer.read_eq_some (by omega), List.getElem?_eq_getElem (by omega)]
  rfl

end Copying

/-! ## The last DS parameter element -/

/-- A DS parameter element that the parser does not ignore. -/
def isDsParams (p : ℕ × Element) : Bool := p.2.id = wlanEidDsParams ∧ p.2.body ≠ []

/-- The elements that the parser finds in a beacon. -/
def beaconElements (body : List UInt8) : List Element := (walk isMic body).1

/-- Where the body of the last DS parameter element of a beacon is. -/
def lastDsParams (body : List UInt8) : Option ℕ :=
  (((located 0 (beaconElements body)).filter isDsParams).getLast?).map Prod.fst

section DsParams

variable {s rest : List UInt8} {pos : ℕ} {st : ElemsState} {elems elems' : Ieee80211Elems}

lemma parseVendorSpecific_dsParams (s : List UInt8) (pos : ℕ) (elen : UInt8) (elems : Ieee80211Elems) :
    (parseVendorSpecific s pos elen elems).elems.ptr .dsParams = elems.ptr .dsParams := by
  unfold parseVendorSpecific
  dsimp only
  repeat' split
  all_goals rfl

lemma storeElement_dsParams {id elen : UInt8} (h : storeElement id elen pos elems = some elems') :
    elems'.ptr .dsParams = if id = wlanEidDsParams ∧ ¬elen < 1 then some pos else elems.ptr .dsParams := by
  unfold storeElement at h
  split at h <;> try obtain rfl := Option.some.inj h
  -- the identifier is the one of the element or another literal
  all_goals first
    | rw [if_neg (fun hid => absurd hid.1 (by decide))]
      rfl
    | simp only [wlanEidDsParams, true_and]
      split_ifs <;> rfl
    | cases h

lemma element_dsParams {id elen : UInt8} :
    (st.element s pos id elen).elems.ptr .dsParams =
      if id = wlanEidDsParams ∧ ¬elen < 1 then some pos else st.elems.ptr .dsParams := by
  unfold ElemsState.element
  dsimp only
  by_cases hvendor : id = wlanEidVendorSpecific
  · have hother : ¬(id = wlanEidDsParams ∧ ¬elen < 1) := fun hid => absurd (hvendor.symm.trans hid.1) (by decide)
    rw [if_neg hother, if_pos hvendor]
    exact parseVendorSpecific_dsParams s pos elen st.elems
  · rw [if_neg hvendor]
    split
    · next elems hstore => exact storeElement_dsParams hstore
    · next hnone =>
      rw [if_neg]
      rintro ⟨rfl, -⟩
      cases hnone

lemma isDsParams_iff {e : Element} : isDsParams (pos, e) = true ↔ e.id = wlanEidDsParams ∧ ¬e.len < 1 := by
  have hlen : ¬e.len < 1 ↔ e.body ≠ [] := by
    rw [UInt8.lt_iff_toNat_lt, Element.toNat_len, ← List.length_pos_iff]
    exact not_lt
  rw [isDsParams, decide_eq_true_eq, hlen]

/-- Nothing is recorded where there is no whole element. -/
lemma parseElemsLoop_elems {showErrors : Bool} (hdrop : s.drop pos = rest) (hnone : nextElement rest = none) :
    (parseElemsLoop s showErrors pos rest.length st).2.elems = st.elems := by
  rw [parseElemsLoop]
  by_cases htwo : 2 ≤ rest.length
  · obtain ⟨id, len, tail, rfl⟩ : ∃ id len tail, rest = id :: len :: tail := by
      rcases rest with _ | ⟨id, _ | ⟨len, tail⟩⟩
      · exact absurd htwo (by decide)
      · exact absurd htwo (by rw [List.length_singleton]; decide)
      · exact ⟨id, len, tail, rfl⟩
    have hlen : s.getD (pos + 1) 0 = len := by
      rw [List.getD_eq_getElem?_getD, ← List.getElem?_drop, hdrop]
      rfl
    have hshort : tail.length < len.toNat := by
      by_contra hle
      rw [nextElement, if_pos (not_lt.mp hle)] at hnone
      cases hnone
    rw [if_pos htwo, hlen]
    dsimp only [List.length_cons]
    rw [if_pos (by omega)]
  · rw [if_neg htwo]
    split_ifs <;> rfl

/-- One more element in front of others. -/
lemma getLast_dsParams (old : Option ℕ) (e : Element) (es : List (ℕ × Element)) :
    ((((es.filter isDsParams).getLast?).map Prod.fst).or
        (if e.id = wlanEidDsParams ∧ ¬e.len < 1 then some pos else old)) =
      (((((pos, e) :: es).filter isDsParams).getLast?).map Prod.fst).or old := by
  by_cases hds : isDsParams (pos, e) = true
  · rw [List.filter_cons_of_pos hds, if_pos (isDsParams_iff.mp hds), List.getLast?_cons]
    cases (es.filter isDsParams).getLast? <;> rfl
  · rw [List.filter_cons_of_neg hds, if_neg fun h => hds (isDsParams_iff.mpr h)]

/-- What the loop records is the last of the elements, or what was there. -/
lemma parseElemsLoop_dsParams {showErrors : Bool} (hdrop : s.drop pos = rest) :
    (parseElemsLoop s showErrors pos rest.length st).2.elems.ptr .dsParams =
      ((((located pos (walk isMic rest).1).filter isDsParams).getLast?).map Prod.fst).or (st.elems.ptr .dsParams) := by
  induction rest using elements_induction generalizing pos st with
  | none rest hnone =>
    rw [parseElemsLoop_elems hdrop hnone, walk_of_none hnone]
    rfl
  | next e rest ih =>
    have hnext := drop_of_drop hdrop
    rw [parseElemsLoop_next hdrop]
    cases hmic : isMic e with
    | true =>
      rw [if_pos rfl, (parseElemsLoop_zero s showErrors _ _).2, walk_stop hmic, element_dsParams, located, located,
        ← getLast_dsParams]
      rfl
    | false =>
      rw [if_neg Bool.false_ne_true, ih hnext, walk_cons hmic, located, element_dsParams, ← getLast_dsParams]

/-- The parser records the last DS parameter element. -/
lemma ieee80211ParseElems_dsParams (body : List UInt8) (showErrors : Bool) :
    (ieee80211ParseElems body showErrors).2.elems.ptr .dsParams = lastDsParams body :=
  (parseElemsLoop_dsParams rfl).trans (Option.or_none ..)

end DsParams

/-! ## The report -/

/-- What the parser records of a beacon is inside the elements that it finds. -/
lemma ieee80211ParseElems_inside (body : List UInt8) (showErrors : Bool) :
    (ieee80211ParseElems body showErrors).2.elems.Inside (elementBytes (beaconElements body)) := by
  have hstart : (⟨.cleared, 0, [], []⟩ : ElemsState).Handled body [] :=
    ⟨fun o ho => absurd ho List.not_mem_nil, Ieee80211Elems.Records.cleared, rfl⟩
  obtain ⟨hhandled, -⟩ := parseElemsLoop_spec hstart rfl
  rw [List.nil_append] at hhandled
  exact hhandled.records.inside (List.append_nil _).symm

lemma length_mergeByteArrays (resLen : ℕ) (src1 src2 : Option (List UInt8)) :
    (mergeByteArrays resLen src1 src2).length = resLen := by
  have hle := List.length_take_le resLen (src1.getD [] ++ src2.getD [])
  rw [mergeByteArrays, List.length_append, List.length_replicate]
  omega

section Report

variable {elems : Ieee80211Elems} {buf : List UInt8}

lemma Ieee80211Elems.Inside.copySsid (h : elems.Inside buf) :
    ((elems.ptr .ssid).elim (some none) fun pos =>
      (copySsid buf pos (elems.len .ssid).toNat).map some).isSome = true := by
  cases hptr : elems.ptr .ssid with
  | none => rfl
  | some pos =>
    obtain ⟨elen, -, hend, hlen⟩ := h.ptr _ _ hptr
    rw [Option.elim_some, Option.isSome_map]
    exact copySsid_isSome (by rw [hlen rfl]; exact hend)

lemma Ieee80211Elems.Inside.copyHtCapabilities (h : elems.Inside buf) (htSupport : Bool) :
    ((elems.ptr .htCapabilities).elim (some { (default : HtCapability) with htSupport := htSupport })
      (copyHtCapabilities htSupport buf)).isSome = true := by
  cases hptr : elems.ptr .htCapabilities with
  | none => rfl
  | some pos =>
    obtain ⟨elen, hmin, hend, -⟩ := h.ptr _ _ hptr
    rw [ElemsField.minimum] at hmin
    exact copyHtCapabilities_isSome htSupport (by omega)

end Report

/-- The report for a beacon is filled from the elements in it, inside its arrays, if and only if the last DS parameter element
does not start less than three bytes before the end of the elements. -/
theorem beaconReport_isSome_iff (body : List UInt8) (showErrors : Bool) (info : ApInfo) (beacon : BeaconElems)
    (fi : Option ℤ) (now : OsReltime) :
    (beaconReport (HostapdIface.beaconInfo info beacon fi now) (elementBytes (beaconElements body))
        (ieee80211ParseElems body showErrors).2.elems).isSome = true ↔
      ∀ pos, lastDsParams body = some pos → pos + 3 ≤ (elementBytes (beaconElements body)).length := by
  have hinside := ieee80211ParseElems_inside body showErrors
  rw [← ieee80211ParseElems_dsParams body showErrors]
  generalize (ieee80211ParseElems body showErrors).2.elems = elems at hinside ⊢
  generalize elementBytes (beaconElements body) = buf at hinside ⊢
  obtain ⟨ssid, hssid⟩ := Option.isSome_iff_exists.mp hinside.copySsid
  obtain ⟨ht, hht⟩ := Option.isSome_iff_exists.mp
    (hinside.copyHtCapabilities (HostapdIface.beaconInfo info beacon fi now).htSupport)
  obtain ⟨addr, haddr⟩ := Option.isSome_iff_exists.mp
    ((copyToField_isSome_iff (n := 6) default).mpr ⟨show 0 + 6 ≤ info.addr.toList.length by simp, le_rfl⟩)
  have hrates := length_mergeByteArrays wlanSuppRatesMax beacon.suppRates beacon.extSuppRates
  rw [beaconReport, hssid, hht]
  simp only [HostapdIface.beaconInfo, Option.bind_eq_bind, Option.bind_some, haddr]
  rw [Buffer.read_eq_some (by rw [hrates]; omega), Option.bind_some]
  cases elems.ptr .dsParams with
  | none => simp
  | some pos =>
    have hds : (copyToField (default : List.Vector UInt8 3) buf pos wlanEidDsParams.toNat).isSome = true ↔
        pos + 3 ≤ buf.length := (copyToField_isSome_iff default).trans (and_iff_left le_rfl)
    rw [Option.elim_some]
    simp only [Option.some.injEq, forall_eq', ← hds]
    cases copyToField (default : List.Vector UInt8 3) buf pos wlanEidDsParams.toNat with
    | none => rfl
    | some dsParameter => rfl

/-- A beacon that ends with a DS parameter element of the usual length. -/
theorem beaconReport_dsParams :
    (ieee80211ParseElems [3, 1, 6] false).1 = .parseOk ∧
      beaconReport (HostapdIface.zeroAp (Vector.replicate 6 0)) (elementBytes (beaconElements [3, 1, 6]))
        (ieee80211ParseElems [3, 1, 6] false).2.elems = none ∧
      beaconReport (HostapdIface.zeroAp (Vector.replicate 6 0)) [3, 1, 6]
        (ieee80211ParseElems [3, 1, 6] false).2.elems = none := by
  refine ⟨?_, ?_, ?_⟩ <;> decide +kernel

end Ethanol
