import EthanolHostapd.Common.WpaCommon
import EthanolHostapd.Wire.Buffer
import EthanolHostapd.Wire.Elements

/-!
# Key data of EAPOL-Key frames

The writer `wpa_add_kde` and the parser `wpa_parse_kde_ies` with `wpa_parse_generic`, of `wpa_auth_ie.c`.  The parser
looks at a part of a buffer and records where in the buffer it has found something; an access that would leave the buffer
has no result.
-/

namespace Ethanol

open Wire

/-! ## The code -/

/-- The pointers of `struct wpa_eapol_ie_parse`. -/
inductive KdeField
  | wpaIe | rsnIe | pmkid | gtk | macAddr | smk | nonce | lifetime | error | igtk | mdie | ftie | ipAddrReq
  | ipAddrAlloc | osen
  deriving DecidableEq

/-- The compile options of the parser; `CONFIG_IEEE80211W` is there. -/
structure KdeBuild where
  ieee80211r : Bool
  peerkey : Bool
  p2p : Bool

/-- `struct wpa_eapol_ie_parse`: where an item is and how long it is. -/
abbrev EapolIes : Type := KdeField → Option (ℕ × ℕ)

/-- `os_memset` of a `struct wpa_eapol_ie_parse`. -/
def EapolIes.cleared : EapolIes := fun _ => none

/-- A kind of KDE in `wpa_parse_generic`: the field, the least length byte, the selector, and how many bytes are used of an
item whose length is not recorded. -/
structure KdeKind where
  field : KdeField
  least : ℕ
  selector : ℕ
  used : Option ℕ
  deriving DecidableEq

/-- `RSN_KEY_DATA_PMKID`. -/
def pmkidKde : KdeKind := ⟨.pmkid, 4 + pmkidLen, rsnSuite 4, some pmkidLen⟩

/-- The kinds of KDEs behind `RSN_KEY_DATA_PMKID`, in the order of `wpa_parse_generic`. -/
def otherKdes (build : KdeBuild) : List KdeKind :=
  [⟨.gtk, 4 + 3, rsnSuite 1, none⟩, ⟨.macAddr, 4 + 3, rsnSuite 3, none⟩] ++
    (if build.peerkey then
      [⟨.smk, 4 + 3, rsnSuite 5, none⟩, ⟨.nonce, 4 + 3, rsnSuite 6, none⟩, ⟨.lifetime, 4 + 3, rsnSuite 7, none⟩,
        ⟨.error, 4 + 3, rsnSuite 8, none⟩] else []) ++
    [⟨.igtk, 4 + 3, rsnSuite 9, none⟩] ++
    (if build.p2p then
      [⟨.ipAddrReq, 4 + 1, rsnSelector 0x50 0x6f 0x9a 4, some 1⟩,
        ⟨.ipAddrAlloc, 4 + 3 * 4, rsnSelector 0x50 0x6f 0x9a 5, some (3 * 4)⟩] else [])

/-- `RSN_SELECTOR_GET`. -/
def selectorAt (buf : List UInt8) (off : ℕ) : Option ℕ := (Buffer.read buf off 4).map beNat

/-- A condition after which there is another access. -/
def andThen (c : Prop) [Decidable c] (next : Option Bool) : Option Bool := if c then next else some false

/-- The element at `pos` is a WPA element of version 1. -/
def wpaIeAt (buf : List UInt8) (pos len : ℕ) : Option Bool :=
  andThen (6 ≤ len) do
    let selector ← selectorAt buf (pos + 2)
    andThen (selector = wpaOuiType) do
      let low ← buf[pos + 6]?
      andThen (low = 1) do
        let high ← buf[pos + 7]?
        pure (high = 0)

/-- The element at `pos` has at least some length and a given selector. -/
def selectorIs (buf : List UInt8) (pos len least selector : ℕ) : Option Bool :=
  andThen (least ≤ len) do
    let s ← selectorAt buf (pos + 2)
    pure (s = selector)

/-- The first kind of KDE that the element at `pos` is of. -/
def kdeAt (buf : List UInt8) (pos len : ℕ) : List KdeKind → Option (Option KdeKind)
  | [] => some none
  | kind :: kinds => do
    if ← selectorIs buf pos len kind.least kind.selector then pure (some kind) else kdeAt buf pos len kinds

/-- An item is recorded. -/
def EapolIes.set (ies : EapolIes) (field : KdeField) (pos len : ℕ) : EapolIes :=
  Function.update ies field (some (pos, len))

/-- A KDE is recorded. -/
def EapolIes.setKde (ies : EapolIes) (kind : KdeKind) (pos len : ℕ) : EapolIes :=
  ies.set kind.field (pos + 2 + 4) (kind.used.getD (len - 4))

/-- `wpa_parse_generic`; the result says whether the end mark is found. -/
def wpaParseGeneric (build : KdeBuild) (buf : List UInt8) (pos stop : ℕ) (ies : EapolIes) : Option (Bool × EapolIes) := do
  let len := (← buf[pos + 1]?).toNat
  if len = 0 then pure (true, ies)
  else if ← wpaIeAt buf pos len then pure (false, ies.set .wpaIe pos (len + 2))
  else if ← selectorIs buf pos len 4 osenIeVendorType then pure (false, ies.set .osen pos (len + 2))
  else if ← andThen (1 + 4 < stop - pos) (selectorIs buf pos len pmkidKde.least pmkidKde.selector) then
    pure (false, ies.setKde pmkidKde pos len)
  else
    match ← kdeAt buf pos len (otherKdes build) with
    | some kind => pure (false, ies.setKde kind pos len)
    | none => pure (false, ies)

/-- The element at `pos` is recorded if it is known; the result says whether the end mark is found. -/
def parseKeyElement (build : KdeBuild) (buf : List UInt8) (pos stop : ℕ) (id : UInt8) (len : ℕ) (ies : EapolIes) :
    Option (Bool × EapolIes) :=
  if id = wlanEidRsn then some (false, ies.set .rsnIe pos (len + 2))
  else if build.ieee80211r = true ∧ id = 54 then some (false, ies.set .mdie pos (len + 2)) -- WLAN_EID_MOBILITY_DOMAIN
  else if build.ieee80211r = true ∧ id = 55 then -- WLAN_EID_FAST_BSS_TRANSITION
    some (false, ies.set .ftie pos (len + 2))
  else if id = 221 then wpaParseGeneric build buf pos stop ies -- WLAN_EID_VENDOR_SPECIFIC
  else some (false, ies)

/-- The loop of `wpa_parse_kde_ies` over the key data from `pos` up to `stop`; the result says whether the return value
is 0. -/
def parseKdes (build : KdeBuild) (buf : List UInt8) (stop pos : ℕ) (ies : EapolIes) : Option (Bool × EapolIes) :=
  if 1 < stop - pos then do
    let id ← buf[pos]?
    let len := (← buf[pos + 1]?).toNat
    if id = 0xdd ∧ (pos = stop - 1 ∨ len = 0) then pure (true, ies)
    else if stop - pos < 2 + len then pure (false, ies)
    else
      let (endMark, ies) ← parseKeyElement build buf pos stop id len ies
      if endMark then pure (true, ies) else parseKdes build buf stop (pos + 2 + len) ies
  else some (true, ies)
termination_by stop - pos

/-- `wpa_parse_kde_ies` for the `len` bytes of a buffer from `off` on. -/
def wpaParseKdeIes (build : KdeBuild) (buf : List UInt8) (off len : ℕ) : Option (Bool × EapolIes) :=
  parseKdes build buf (off + len) off EapolIes.cleared

/-- `wpa_add_kde`: the bytes that are written. -/
def wpaAddKde (kde : ℕ) (data : List UInt8) (data2 : Option (List UInt8)) : List UInt8 :=
  221 :: UInt8.ofNat (4 + data.length + (data2.getD []).length) :: (beBytes 4 kde ++ (data ++ data2.getD []))

/-! ## What is recorded of an element -/

/-- The kinds of KDEs that are recorded. -/
def kdeKinds (build : KdeBuild) : List KdeKind := pmkidKde :: otherKdes build

/-- An empty vendor element is padding. -/
def isKeyPadding (e : Element) : Bool := e.id = 221 ∧ e.body = []

/-- The selector of a vendor element. -/
def vendorSelector (e : Element) : ℕ := beNat (e.body.take 4)

/-- What is recorded of a vendor element: the field, and the place in the element. -/
def vendorItem (build : KdeBuild) (e : Element) : Option (KdeField × ℕ × ℕ) :=
  if 6 ≤ e.body.length ∧ vendorSelector e = wpaOuiType ∧ e.body[4]? = some 1 ∧ e.body[5]? = some 0 then
    some (.wpaIe, 0, e.body.length + 2)
  else if 4 ≤ e.body.length ∧ vendorSelector e = osenIeVendorType then some (.osen, 0, e.body.length + 2)
  else
    ((kdeKinds build).find? fun kind => kind.least ≤ e.body.length ∧ vendorSelector e = kind.selector).map fun kind =>
      (kind.field, 2 + 4, kind.used.getD (e.body.length - 4))

/-- What is recorded of an element. -/
def keyItem (build : KdeBuild) (e : Element) : Option (KdeField × ℕ × ℕ) :=
  if e.id = wlanEidRsn then some (.rsnIe, 0, e.body.length + 2)
  else if build.ieee80211r = true ∧ e.id = 54 then some (.mdie, 0, e.body.length + 2)
  else if build.ieee80211r = true ∧ e.id = 55 then some (.ftie, 0, e.body.length + 2)
  else if e.id = 221 then vendorItem build e
  else none

/-- An item of an element at `pos` is recorded. -/
def EapolIes.store (ies : EapolIes) (pos : ℕ) : Option (KdeField × ℕ × ℕ) → EapolIes
  | none => ies
  | some (field, off, len) => ies.set field (pos + off) len

section Element

variable {build : KdeBuild} {buf back : List UInt8} {pos stop len : ℕ} {e : Element} {ies : EapolIes}

lemma selectorAt_element (hdrop : buf.drop pos = e.bytes ++ back) (hfour : 4 ≤ e.body.length) :
    selectorAt buf (pos + 2) = some (vendorSelector e) := by
  have hbody : buf.drop (pos + 2) = e.body ++ back := by
    rw [← List.drop_drop, hdrop]
    rfl
  have hlength := congrArg List.length hbody
  rw [List.length_drop, List.length_append] at hlength
  rw [selectorAt, Buffer.read_eq_some (by omega), Option.map_some, Buffer.window, hbody,
    List.take_append_of_le_length hfour]
  rfl

/-- A byte of the body. -/
lemma getElem?_body (hdrop : buf.drop pos = e.bytes ++ back) {i : ℕ} (hi : i < e.body.length) :
    buf[pos + 2 + i]? = e.body[i]? := by
  have hbody : buf.drop (pos + 2) = e.body ++ back := by
    rw [← List.drop_drop, hdrop]
    rfl
  rw [← List.getElem?_drop, hbody, List.getElem?_append_left hi]

lemma wpaIeAt_element (hdrop : buf.drop pos = e.bytes ++ back) :
    wpaIeAt buf pos e.body.length =
      some (6 ≤ e.body.length ∧ vendorSelector e = wpaOuiType ∧ e.body[4]? = some 1 ∧ e.body[5]? = some 0 : Bool) := by
  by_cases hsix : 6 ≤ e.body.length
  · have hlow := getElem?_body hdrop (show 4 < e.body.length by omega)
    have hhigh := getElem?_body hdrop (show 5 < e.body.length by omega)
    rw [List.getElem?_eq_getElem (show 4 < e.body.length by omega)] at hlow ⊢
    rw [List.getElem?_eq_getElem (show 5 < e.body.length by omega)] at hhigh ⊢
    have hselector := selectorAt_element hdrop (show 4 ≤ e.body.length by omega)
    simp only [wpaIeAt, andThen, hselector, hlow, hhigh, bind, Option.bind_some, if_pos hsix]
    split
    · next hwpa =>
      split
      · next hone => simp [hsix, hwpa, hone]
      · next hone => simp [hone]
    · next hwpa => simp [hwpa]
  · rw [wpaIeAt, andThen, if_neg hsix]
    simp [hsix]

lemma selectorIs_element (hdrop : buf.drop pos = e.bytes ++ back) {least selector : ℕ} (hleast : 4 ≤ least) :
    selectorIs buf pos e.body.length least selector =
      some (least ≤ e.body.length ∧ vendorSelector e = selector : Bool) := by
  by_cases hle : least ≤ e.body.length
  · simp [selectorIs, andThen, selectorAt_element hdrop (hleast.trans hle), hle]
  · simp [selectorIs, andThen, hle]

/-- The chain of comparisons finds the first kind that fits. -/
lemma kdeAt_element (hdrop : buf.drop pos = e.bytes ++ back) {kinds : List KdeKind} (hkinds : ∀ k ∈ kinds, 4 ≤ k.least) :
    kdeAt buf pos e.body.length kinds =
      some (kinds.find? fun kind => kind.least ≤ e.body.length ∧ vendorSelector e = kind.selector) := by
  induction kinds with
  | nil => rfl
  | cons kind kinds ih =>
    obtain ⟨hkind, hkinds⟩ := List.forall_mem_cons.mp hkinds
    rw [kdeAt, selectorIs_element hdrop hkind, List.find?_cons]
    simp only [bind, Option.bind_some, ih hkinds]
    by_cases hfits : kind.least ≤ e.body.length ∧ vendorSelector e = kind.selector
    · simp [hfits]
    · simp [hfits]

/-- Each kind has room for its selector and for what is used of it. -/
lemma kdeKinds_room (build : KdeBuild) : ∀ kind ∈ kdeKinds build, 4 ≤ kind.least ∧ kind.used.getD 0 + 4 ≤ kind.least := by
  obtain ⟨r, k, p⟩ := build
  cases r <;> cases k <;> cases p <;> decide

lemma wpaParseGeneric_element (hdrop : buf.drop pos = e.bytes ++ back) (hsome : e.body ≠ [])
    (hstop : e.body.length + 2 ≤ stop - pos) :
    wpaParseGeneric build buf pos stop ies = some (false, ies.store pos (vendorItem build e)) := by
  have hbyte := (header_of_drop hdrop).2
  have hlength : e.body.length ≠ 0 := fun h => hsome (List.eq_nil_of_length_eq_zero h)
  have hkinds : ∀ k ∈ otherKdes build, 4 ≤ k.least := fun k hk =>
    (kdeKinds_room build k (List.mem_cons_of_mem _ hk)).1
  have hpmkid : andThen (1 + 4 < stop - pos) (selectorIs buf pos e.body.length pmkidKde.least pmkidKde.selector) =
      some (pmkidKde.least ≤ e.body.length ∧ vendorSelector e = pmkidKde.selector : Bool) := by
    have hleast : 4 ≤ pmkidKde.least := by decide
    rw [selectorIs_element hdrop hleast, andThen]
    split
    · rfl
    · have hshort : ¬pmkidKde.least ≤ e.body.length := by
        have hpmkidLeast : pmkidKde.least = 20 := rfl
        omega
      simp [hshort]
  simp only [wpaParseGeneric, hbyte, bind, Option.bind_some, Element.toNat_len, if_neg hlength, wpaIeAt_element hdrop,
    selectorIs_element hdrop (show 4 ≤ 4 from le_rfl), hpmkid, kdeAt_element hdrop hkinds, decide_eq_true_eq]
  rw [vendorItem, kdeKinds, List.find?_cons]
  split
  · next hwpa => rfl
  · split
    · rfl
    · split
      · next hfits =>
        simp only [hfits]
        rfl
      · next hfits =>
        simp only [hfits, decide_false]
        split
        · next kind hkind => rw [hkind]; rfl
        · next hkind => rw [hkind]; rfl

lemma parseKeyElement_element (hdrop : buf.drop pos = e.bytes ++ back) (hsome : isKeyPadding e = false)
    (hstop : e.body.length + 2 ≤ stop - pos) :
    parseKeyElement build buf pos stop e.id e.body.length ies = some (false, ies.store pos (keyItem build e)) := by
  unfold parseKeyElement keyItem
  split
  · rfl
  · split
    · rfl
    · split
      · rfl
      · split
        · next hvendor =>
          have hbody : e.body ≠ [] := by
            rw [isKeyPadding, decide_eq_false_iff_not, not_and] at hsome
            exact hsome hvendor
          exact wpaParseGeneric_element hdrop hbody hstop
        · rfl

end Element

/-! ## The loop -/

/-- Elements one after the other are recorded, from `pos` on. -/
def EapolIes.storeAll (build : KdeBuild) (pos : ℕ) : List Element → EapolIes → EapolIes
  | [], ies => ies
  | e :: es, ies => storeAll build (pos + e.bytes.length) es (ies.store pos (keyItem build e))

/-- The elements of the key data up to padding or to what is no whole element. -/
def keyElements (s : List UInt8) : List Element := (walk isKeyPadding s).1.filter fun e => !isKeyPadding e

/-- The key data ends in padding or with at most one byte behind the elements. -/
def KeyDataOk (s : List UInt8) : Prop :=
  (∃ e ∈ (walk isKeyPadding s).1, isKeyPadding e = true) ∨ (walk isKeyPadding s).2.length ≤ 1

instance (s : List UInt8) : Decidable (KeyDataOk s) := inferInstanceAs (Decidable (_ ∨ _))

section Loop

variable {build : KdeBuild} {s front back rest : List UInt8} {e : Element} {ies : EapolIes}

lemma keyElements_none (h : nextElement s = none) : keyElements s = [] := by
  rw [keyElements, walk_of_none h]
  rfl

lemma keyElements_padding (h : isKeyPadding e = true) : keyElements (e.bytes ++ rest) = [] := by
  rw [keyElements, walk_stop h]
  simp [h]

lemma keyElements_cons (h : isKeyPadding e = false) :
    keyElements (e.bytes ++ rest) = e :: keyElements rest := by
  rw [keyElements, walk_cons h, List.filter_cons]
  simp [h, keyElements]

lemma keyDataOk_cons (h : isKeyPadding e = false) : KeyDataOk (e.bytes ++ rest) ↔ KeyDataOk rest := by
  rw [KeyDataOk, KeyDataOk, walk_cons h]
  simp [h]

/-- Without a whole element there is at most one byte, or the length byte is too great. -/
lemma parseKdes_none (h : nextElement s = none) :
    parseKdes build (front ++ (s ++ back)) (front.length + s.length) front.length ies =
      some (decide (KeyDataOk s), ies) := by
  have hok : KeyDataOk s ↔ s.length ≤ 1 := by
    rw [KeyDataOk, walk_of_none h]
    simp
  match s, h with
  | [], _ =>
    rw [parseKdes, if_neg (by simp), decide_eq_true (hok.mpr (by simp))]
  | [_], _ =>
    rw [parseKdes, if_neg (by simp), decide_eq_true (hok.mpr (by simp))]
  | id :: len :: tail, h =>
    have hid : (front ++ (id :: len :: tail ++ back))[front.length]? = some id := by simp
    have hlen : (front ++ (id :: len :: tail ++ back))[front.length + 1]? = some len := by simp
    have hgreat : tail.length < len.toNat := by
      by_contra hle
      rw [nextElement, if_pos (by omega)] at h
      cases h
    have hbad : ¬KeyDataOk (id :: len :: tail) := by
      rw [hok]
      simp
    rw [parseKdes, if_pos (by simp)]
    simp only [hid, hlen, bind, Option.bind_some]
    rw [if_neg, if_pos, decide_eq_false hbad]
    · rfl
    · simp only [List.length_cons]
      omega
    · simp only [List.length_cons]
      omega

/-- The loop records what is recorded of the elements. -/
lemma parseKdes_eq (build : KdeBuild) (s front back : List UInt8) (ies : EapolIes) :
    parseKdes build (front ++ (s ++ back)) (front.length + s.length) front.length ies =
      some (decide (KeyDataOk s), ies.storeAll build front.length (keyElements s)) := by
  induction s using elements_induction generalizing front ies with
  | none s h =>
    rw [parseKdes_none h, keyElements_none h]
    rfl
  | next e rest ih =>
    have hdrop : (front ++ (e.bytes ++ rest ++ back)).drop front.length = e.bytes ++ (rest ++ back) := by
      rw [List.drop_left, List.append_assoc]
    obtain ⟨hid, hlen⟩ := header_of_drop hdrop
    have hlength : (e.bytes ++ rest).length = e.body.length + 2 + rest.length := by
      rw [List.length_append, Element.length_bytes]
    rw [parseKdes, if_pos (by omega)]
    simp only [hid, hlen, bind, Option.bind_some, Element.toNat_len]
    cases hpadding : isKeyPadding e with
    | true =>
      have hempty : e.id = 0xdd ∧ e.body.length = 0 := by
        rw [isKeyPadding, decide_eq_true_eq] at hpadding
        exact ⟨hpadding.1, by rw [hpadding.2]; rfl⟩
      have hok : KeyDataOk (e.bytes ++ rest) := by
        rw [KeyDataOk, walk_stop hpadding]
        exact Or.inl ⟨e, List.mem_singleton_self e, hpadding⟩
      rw [if_pos ⟨hempty.1, Or.inr hempty.2⟩, keyElements_padding hpadding, decide_eq_true hok]
      rfl
    | false =>
      have hnext := ih (front ++ e.bytes) (ies.store front.length (keyItem build e))
      have hbuf : front ++ (e.bytes ++ rest ++ back) = front ++ e.bytes ++ (rest ++ back) := by
        simp only [List.append_assoc]
      have hpos : front.length + 2 + e.body.length = (front ++ e.bytes).length := by
        rw [List.length_append, Element.length_bytes]
        omega
      have hstop : front.length + (e.bytes ++ rest).length = (front ++ e.bytes).length + rest.length := by
        rw [List.length_append, List.length_append, Nat.add_assoc]
      have hgoes : ¬(e.id = 0xdd ∧ (front.length = front.length + (e.bytes ++ rest).length - 1 ∨ e.body.length = 0)) := by
        rintro ⟨hvendor, hlast | hzero⟩
        · omega
        · rw [isKeyPadding, decide_eq_false_iff_not] at hpadding
          exact hpadding ⟨hvendor, List.eq_nil_of_length_eq_zero hzero⟩
      rw [if_neg hgoes, if_neg (by omega), parseKeyElement_element hdrop hpadding (by omega)]
      simp only [Option.bind_some, Bool.false_eq_true, if_false]
      rw [hbuf, hstop, hpos, hnext, keyElements_cons hpadding, EapolIes.storeAll,
        decide_eq_decide.mpr (keyDataOk_cons hpadding), List.length_append]

end Loop

/-! ## Items are inside the key data -/

/-- All recorded items are between two places. -/
def EapolIes.Inside (ies : EapolIes) (start stop : ℕ) : Prop :=
  ∀ field pos len, ies field = some (pos, len) → start ≤ pos ∧ pos + len ≤ stop

section Inside

variable {build : KdeBuild} {e : Element} {es : List Element} {ies : EapolIes} {start stop pos : ℕ}

lemma vendorItem_inside {item : KdeField × ℕ × ℕ} (h : vendorItem build e = some item) :
    item.2.1 + item.2.2 ≤ e.bytes.length := by
  rw [Element.length_bytes]
  unfold vendorItem at h
  split at h
  · obtain rfl := Option.some.inj h
    dsimp only
    omega
  · split at h
    · obtain rfl := Option.some.inj h
      dsimp only
      omega
    · obtain ⟨kind, hfind, rfl⟩ := Option.map_eq_some_iff.mp h
      have hfits := List.find?_some hfind
      rw [decide_eq_true_eq] at hfits
      have hroom := kdeKinds_room build kind (List.mem_of_find?_eq_some hfind)
      dsimp only
      cases hused : kind.used with
      | none =>
        rw [Option.getD_none]
        omega
      | some n =>
        rw [hused, Option.getD_some] at hroom
        rw [Option.getD_some]
        omega

lemma keyItem_inside {item : KdeField × ℕ × ℕ} (h : keyItem build e = some item) :
    item.2.1 + item.2.2 ≤ e.bytes.length := by
  unfold keyItem at h
  split at h
  · obtain rfl := Option.some.inj h
    rw [Nat.zero_add, Element.length_bytes]
  · split at h
    · obtain rfl := Option.some.inj h
      rw [Nat.zero_add, Element.length_bytes]
    · split at h
      · obtain rfl := Option.some.inj h
        rw [Nat.zero_add, Element.length_bytes]
      · split at h
        · exact vendorItem_inside h
        · cases h

lemma EapolIes.Inside.store (h : ies.Inside start stop) (hpos : start ≤ pos) (hstop : pos + e.bytes.length ≤ stop) :
    (ies.store pos (keyItem build e)).Inside start stop := by
  cases hitem : keyItem build e with
  | none => exact h
  | some item =>
    obtain ⟨field, off, len⟩ := item
    have hinside := keyItem_inside hitem
    intro field' pos' len' hrecorded
    rw [EapolIes.store, EapolIes.set, Function.update_apply] at hrecorded
    split at hrecorded
    · obtain ⟨rfl, rfl⟩ := Prod.mk.inj (Option.some.inj hrecorded)
      dsimp only at hinside
      omega
    · exact h field' pos' len' hrecorded

lemma EapolIes.Inside.storeAll (h : ies.Inside start stop) (hpos : start ≤ pos)
    (hstop : pos + (elementBytes es).length ≤ stop) : (ies.storeAll build pos es).Inside start stop := by
  induction es generalizing pos ies with
  | nil => exact h
  | cons e es ih =>
    rw [elementBytes_cons, List.length_append] at hstop
    exact ih (h.store hpos (by omega)) (by omega) (by omega)

/-- The elements of the key data are part of it. -/
lemma length_keyElements_le (s : List UInt8) : (elementBytes (keyElements s)).length ≤ s.length := by
  induction s using elements_induction with
  | none s h =>
    rw [keyElements_none h]
    exact Nat.zero_le _
  | next e rest ih =>
    cases hpadding : isKeyPadding e with
    | true =>
      rw [keyElements_padding hpadding]
      exact Nat.zero_le _
    | false =>
      rw [keyElements_cons hpadding, elementBytes_cons, List.length_append, List.length_append]
      omega

/-- The parser only looks at the buffer, and the items are inside the key data. -/
lemma wpaParseKdeIes_inside (build : KdeBuild) {buf : List UInt8} {off len : ℕ} (h : off + len ≤ buf.length) :
    ∃ ok ies, wpaParseKdeIes build buf off len = some (ok, ies) ∧ ies.Inside off (off + len) := by
  obtain ⟨front, s, back, rfl, rfl, rfl⟩ : ∃ front s back : List UInt8,
      buf = front ++ (s ++ back) ∧ off = front.length ∧ len = s.length := by
    refine ⟨buf.take off, (buf.drop off).take len, (buf.drop off).drop len, ?_, ?_, ?_⟩
    · rw [List.take_append_drop, List.take_append_drop]
    · rw [List.length_take]
      omega
    · rw [List.length_take, List.length_drop]
      omega
  refine ⟨_, _, parseKdes_eq build s front back EapolIes.cleared, ?_⟩
  have hcleared : EapolIes.cleared.Inside front.length (front.length + s.length) := by
    intro field pos len hrecorded
    cases hrecorded
  apply hcleared.storeAll le_rfl
  have hlength := length_keyElements_le s
  omega

end Inside

/-! ## KDEs that were written -/

/-- A KDE as it is given to `wpa_add_kde`; its length fits the length byte. -/
structure Kde where
  selector : UInt32
  data : List UInt8
  data2 : Option (List UInt8)
  fits : 4 + data.length + (data2.getD []).length < 256

namespace Kde

/-- The payload of a KDE. -/
def payload (kde : Kde) : List UInt8 := kde.data ++ kde.data2.getD []

/-- A KDE as it is written. -/
def bytes (kde : Kde) : List UInt8 := wpaAddKde kde.selector.toNat kde.data kde.data2

/-- A KDE as an element. -/
def element (kde : Kde) : Element where
  id := 221
  body := beBytes 4 kde.selector.toNat ++ kde.payload
  length_body := by
    have hfits := kde.fits
    rw [List.length_append, length_beBytes, payload, List.length_append]
    omega

lemma bytes_element (kde : Kde) : kde.element.bytes = kde.bytes := by
  have hlength : kde.element.body.length = 4 + kde.data.length + (kde.data2.getD []).length := by
    rw [element, List.length_append, length_beBytes, payload, List.length_append, Nat.add_assoc]
  rw [Element.bytes, Element.len, hlength]
  rfl

lemma vendorSelector_element (kde : Kde) : vendorSelector kde.element = kde.selector.toNat := by
  rw [vendorSelector, element, List.take_left' (length_beBytes 4 _), beNat_selector kde.selector.toNat_lt]

lemma length_element (kde : Kde) : kde.element.body.length = 4 + kde.payload.length := by
  rw [element, List.length_append, length_beBytes]

end Kde

/-- What is to be found of a KDE if it is of some kind and long enough for it. -/
def kdePayload (kind : KdeKind) (kde : Kde) : Option (List UInt8) :=
  if kde.selector.toNat = kind.selector ∧ kind.least ≤ 4 + kde.payload.length then
    some (kde.payload.take (kind.used.getD kde.payload.length))
  else none

/-- The bytes at a recorded item. -/
def itemBytes (buf : List UInt8) (ies : EapolIes) (field : KdeField) : Option (List UInt8) :=
  (ies field).map fun item => Buffer.window buf item.1 item.2

/-- The bytes that are to be recorded of an element in a field. -/
def elementContent (build : KdeBuild) (field : KdeField) (e : Element) : Option (List UInt8) :=
  (keyItem build e).bind fun item => if item.1 = field then some (Buffer.window e.bytes item.2.1 item.2.2) else none

section Written

variable {build : KdeBuild} {front back : List UInt8} {e : Element} {es : List Element} {ies : EapolIes}
  {field : KdeField} {kind : KdeKind}

/-- An element's bytes in a buffer. -/
lemma window_middle {off n : ℕ} (h : off + n ≤ e.bytes.length) (rest : List UInt8) :
    Buffer.window (front ++ (e.bytes ++ rest)) (front.length + off) n = Buffer.window e.bytes off n := by
  rw [Buffer.window, Buffer.window, List.drop_length_add_append, List.drop_append_of_le_length (by omega),
    List.take_append_of_le_length]
  rw [List.length_drop]
  omega

lemma itemBytes_store (rest : List UInt8) :
    itemBytes (front ++ (e.bytes ++ rest)) (ies.store front.length (keyItem build e)) field =
      (elementContent build field e).or (itemBytes (front ++ (e.bytes ++ rest)) ies field) := by
  rw [elementContent]
  cases hitem : keyItem build e with
  | none => rfl
  | some item =>
    obtain ⟨f, off, len⟩ := item
    have hinside := keyItem_inside hitem
    rw [EapolIes.store, EapolIes.set, itemBytes, Function.update_apply, Option.bind_some]
    by_cases hfield : f = field
    · rw [if_pos hfield.symm, if_pos hfield, Option.map_some, window_middle hinside]
      rfl
    · rw [if_neg (fun h => hfield h.symm), if_neg hfield]
      rfl

/-- A field holds what the last element that is recorded in it says. -/
lemma itemBytes_storeAll (front : List UInt8) (es : List Element) (ies : EapolIes) :
    itemBytes (front ++ (elementBytes es ++ back)) (ies.storeAll build front.length es) field =
      (es.filterMap (elementContent build field)).getLast?.or
        (itemBytes (front ++ (elementBytes es ++ back)) ies field) := by
  induction es generalizing front ies with
  | nil => rfl
  | cons e es ih =>
    have hbuf : front ++ (elementBytes (e :: es) ++ back) = front ++ e.bytes ++ (elementBytes es ++ back) := by
      simp only [elementBytes_cons, List.append_assoc]
    have hnext := ih (front ++ e.bytes) (ies.store front.length (keyItem build e))
    rw [List.length_append] at hnext
    rw [EapolIes.storeAll, hbuf, hnext, List.append_assoc, itemBytes_store]
    cases hcontent : elementContent build field e with
    | none => rw [List.filterMap_cons_none hcontent, Option.none_or]
    | some content =>
      rw [List.filterMap_cons_some hcontent, List.getLast?_cons, Option.some_or]
      cases (es.filterMap (elementContent build field)).getLast? <;> rfl

/-- No two kinds have the same selector or the same field, and none is taken for a WPA or an OSEN element. -/
lemma kdeKinds_distinct (build : KdeBuild) : ∀ k ∈ kdeKinds build,
    k.selector ≠ wpaOuiType ∧ k.selector ≠ osenIeVendorType ∧ k.field ≠ .wpaIe ∧ k.field ≠ .osen ∧
      ∀ k' ∈ kdeKinds build, (k.selector = k'.selector ∨ k.field = k'.field) → k = k' := by
  obtain ⟨r, k, p⟩ := build
  cases r <;> cases k <;> cases p <;> decide

lemma window_payload (kde : Kde) (n : ℕ) : Buffer.window kde.element.bytes (2 + 4) n = kde.payload.take n := by
  have hdrop : kde.element.bytes.drop (2 + 4) = kde.payload := by
    rw [← List.drop_drop, show kde.element.bytes.drop 2 = beBytes 4 kde.selector.toNat ++ kde.payload from rfl,
      List.drop_left' (length_beBytes 4 _)]
  rw [Buffer.window, hdrop]

/-- What is recorded of a KDE that was written. -/
lemma elementContent_kde (hkind : kind ∈ kdeKinds build) (kde : Kde) :
    elementContent build kind.field kde.element = kdePayload kind kde := by
  obtain ⟨hwpa, hosen, hfieldWpa, hfieldOsen, hdistinct⟩ := kdeKinds_distinct build kind hkind
  have hitem : keyItem build kde.element = vendorItem build kde.element := by
    have hid : kde.element.id = 221 := rfl
    rw [keyItem, if_neg (by rw [hid]; decide), if_neg (by rw [hid]; exact fun h => absurd h.2 (by decide)),
      if_neg (by rw [hid]; exact fun h => absurd h.2 (by decide)), if_pos hid]
  rw [elementContent, hitem, vendorItem, Kde.vendorSelector_element, Kde.length_element]
  split
  · next h =>
    have hother : ¬(kde.selector.toNat = kind.selector ∧ kind.least ≤ 4 + kde.payload.length) := by
      rw [h.2.1]
      exact fun heq => hwpa heq.1.symm
    rw [kdePayload, if_neg hother, Option.bind_some, if_neg (fun heq => hfieldWpa heq.symm)]
  · split
    · next h =>
      have hother : ¬(kde.selector.toNat = kind.selector ∧ kind.least ≤ 4 + kde.payload.length) := by
        rw [h.2]
        exact fun heq => hosen heq.1.symm
      rw [kdePayload, if_neg hother, Option.bind_some, if_neg (fun heq => hfieldOsen heq.symm)]
    · cases hfind : (kdeKinds build).find? fun k =>
          (k.least ≤ 4 + kde.payload.length ∧ kde.selector.toNat = k.selector : Bool) with
      | none =>
        have hnone := List.find?_eq_none.mp hfind kind hkind
        rw [decide_eq_true_eq] at hnone
        rw [kdePayload, if_neg (fun h => hnone ⟨h.2, h.1⟩)]
        rfl
      | some found =>
        have hfits := List.find?_some hfind
        rw [decide_eq_true_eq] at hfits
        have hmem := List.mem_of_find?_eq_some hfind
        rw [Option.map_some, Option.bind_some, kdePayload]
        by_cases hsame : found = kind
        · subst hsame
          rw [if_pos rfl, if_pos ⟨hfits.2, hfits.1⟩, window_payload, Nat.add_sub_cancel_left]
        · have hfield : found.field ≠ kind.field := fun heq => hsame (hdistinct found hmem (Or.inr heq.symm)).symm
          have hselector : ¬(kde.selector.toNat = kind.selector ∧ kind.least ≤ 4 + kde.payload.length) := fun heq =>
            hsame (hdistinct found hmem (Or.inl (heq.1.symm.trans hfits.2))).symm
          rw [if_neg hfield, if_neg hselector]

lemma isKeyPadding_kde (kde : Kde) : isKeyPadding kde.element = false := by
  have hlength := kde.length_element
  rw [isKeyPadding, decide_eq_false_iff_not]
  rintro ⟨-, hnil⟩
  rw [hnil, List.length_nil] at hlength
  omega

lemma keyElements_kdes (kdes : List Kde) :
    keyElements (elementBytes (kdes.map Kde.element)) = kdes.map Kde.element ∧
      KeyDataOk (elementBytes (kdes.map Kde.element)) := by
  induction kdes with
  | nil => exact ⟨keyElements_none rfl, Or.inr (by rw [List.map_nil, elementBytes_nil, walk_of_none rfl]; simp)⟩
  | cons kde kdes ih =>
    have hpadding := isKeyPadding_kde kde
    rw [List.map_cons, elementBytes_cons, keyElements_cons hpadding, ih.1, keyDataOk_cons hpadding]
    exact ⟨rfl, ih.2⟩

/-- The parser finds in KDEs that were written, for each kind, the payload of the last one that is long enough. -/
lemma wpaParseKdeIes_kdes (build : KdeBuild) (front back : List UInt8) (kdes : List Kde) :
    ∃ ies, wpaParseKdeIes build (front ++ (kdes.flatMap Kde.bytes ++ back)) front.length
        (kdes.flatMap Kde.bytes).length = some (true, ies) ∧
      ∀ kind ∈ kdeKinds build, itemBytes (front ++ (kdes.flatMap Kde.bytes ++ back)) ies kind.field =
        (kdes.filterMap (kdePayload kind)).getLast? := by
  have hbytes : kdes.flatMap Kde.bytes = elementBytes (kdes.map Kde.element) := by
    rw [elementBytes, List.flatMap_map]
    simp only [Kde.bytes_element]
  obtain ⟨helements, hok⟩ := keyElements_kdes kdes
  have hparse := parseKdes_eq build (elementBytes (kdes.map Kde.element)) front back EapolIes.cleared
  rw [helements, decide_eq_true hok] at hparse
  rw [hbytes]
  refine ⟨_, hparse, ?_⟩
  intro kind hkind
  have hcontent : (kdes.map Kde.element).filterMap (elementContent build kind.field) =
      kdes.filterMap (kdePayload kind) := by
    rw [List.filterMap_map]
    exact List.filterMap_congr fun kde _ => elementContent_kde hkind kde
  rw [itemBytes_storeAll, hcontent]
  cases (kdes.filterMap (kdePayload kind)).getLast? <;> rfl

end Written

end Ethanol
