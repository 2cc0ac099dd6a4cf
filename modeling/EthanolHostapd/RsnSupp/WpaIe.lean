import EthanolHostapd.Ap.KeyData

/-!
# Key data at the station

`wpa_supplicant_parse_ies` of `rsn_supp/wpa_ie.c`, as far as `rsn_supp/wpa.c` uses what it finds.  An item is recorded with
its bytes.  Elements that only TDLS looks at are passed over.
-/

namespace Ethanol

open Wire

/-- What `struct wpa_eapol_ie_parse` points to. -/
abbrev SuppIes : Type := KdeField → Option (List UInt8)

/-- `wpa_parse_generic`, of an element that is not empty. -/
def suppVendorItem (build : KdeBuild) (e : Element) : Option (KdeField × List UInt8) :=
  if 6 ≤ e.body.length ∧ vendorSelector e = wpaOuiType ∧ e.body[4]? = some 1 ∧ e.body[5]? = some 0 then
    some (.wpaIe, e.bytes)
  else
    ((kdeKinds build).find? fun kind => kind.least ≤ e.body.length ∧ vendorSelector e = kind.selector).map fun kind =>
      (kind.field, (e.body.drop 4).take (kind.used.getD (e.body.length - 4)))

/-- What is recorded of an element. -/
def suppItem (build : KdeBuild) (e : Element) : Option (KdeField × List UInt8) :=
  if e.id = wlanEidRsn then some (.rsnIe, e.bytes)
  else if e.id = 54 ∧ 3 ≤ e.body.length then some (.mdie, e.bytes) -- sizeof(struct rsn_mdie)
  else if e.id = 55 ∧ 82 ≤ e.body.length then some (.ftie, e.bytes) -- sizeof(struct rsn_ftie)
  else if e.id = 221 then suppVendorItem build e
  else none

/-- An item is recorded. -/
def SuppIes.record (ies : SuppIes) (item : Option (KdeField × List UInt8)) : SuppIes :=
  match item with
  | none => ies
  | some (field, content) => Function.update ies field (some content)

/-- The loop ends at padding, and at a vendor element that is too short for a selector, of which nothing is recorded. -/
def endsKeyData (e : Element) : Bool := e.id = 221 ∧ e.body.length < 4

/-- The loop of `wpa_supplicant_parse_ies`; `none` is -1. -/
def parseSuppIes (build : KdeBuild) (s : List UInt8) (ies : SuppIes) : Option SuppIes :=
  match _h : nextElement s with
  | none => if s.length ≤ 1 then some ies else none
  | some (e, rest) =>
    if endsKeyData e then some ies else parseSuppIes build rest (ies.record (suppItem build e))
termination_by s.length
decreasing_by exact length_of_nextElement _h

/-- `wpa_supplicant_parse_ies`. -/
def wpaSupplicantParseIes (build : KdeBuild) (buf : List UInt8) : Option SuppIes :=
  parseSuppIes build buf fun _ => none

/-! ## Elements that were written -/

section

variable {build : KdeBuild} {s rest : List UInt8} {e : Element} {es : List Element} {ies : SuppIes}

lemma parseSuppIes_none (hnone : nextElement s = none) :
    parseSuppIes build s ies = if s.length ≤ 1 then some ies else none := by
  rw [parseSuppIes]
  split
  · rfl
  · next h =>
    rw [hnone] at h
    cases h

lemma parseSuppIes_bytes (e : Element) (rest : List UInt8) :
    parseSuppIes build (e.bytes ++ rest) ies =
      if endsKeyData e then some ies else parseSuppIes build rest (ies.record (suppItem build e)) := by
  rw [parseSuppIes]
  split
  · next h =>
    rw [nextElement_bytes] at h
    cases h
  · next h =>
    rw [nextElement_bytes] at h
    obtain ⟨rfl, rfl⟩ := Prod.mk.inj (Option.some.inj h)
    rfl

/-- What is found in elements one after the other. -/
def SuppIes.recordAll (build : KdeBuild) (es : List Element) (ies : SuppIes) : SuppIes :=
  es.foldl (fun ies e => ies.record (suppItem build e)) ies

/-- The elements up to the first one at which the loop ends are recorded; without such an element the loop goes on with
what follows. -/
lemma parseSuppIes_elementBytes (es : List Element) (rest : List UInt8) (ies : SuppIes) :
    parseSuppIes build (elementBytes es ++ rest) ies =
      if es.any endsKeyData then
        some (ies.recordAll build (es.takeWhile fun e => !endsKeyData e))
      else parseSuppIes build rest (ies.recordAll build es) := by
  induction es generalizing ies with
  | nil => rfl
  | cons e es ih =>
    rw [elementBytes_cons, List.append_assoc, parseSuppIes_bytes]
    cases hend : endsKeyData e with
    | true => simp [hend, SuppIes.recordAll]
    | false =>
      rw [if_neg (by decide), ih, List.any_cons, hend, Bool.false_or, List.takeWhile_cons_of_pos (by rw [hend]; rfl)]
      rfl

/-- What is to be recorded of an element in a field. -/
def suppContent (build : KdeBuild) (field : KdeField) (e : Element) : Option (List UInt8) :=
  (suppItem build e).bind fun item => if item.1 = field then some item.2 else none

lemma record_apply (field : KdeField) :
    ies.record (suppItem build e) field = (suppContent build field e).or (ies field) := by
  rw [suppContent]
  rcases suppItem build e with _ | ⟨found, content⟩
  · rfl
  · simp only [SuppIes.record, Option.bind_some, Function.update_apply]
    by_cases hfield : found = field
    · rw [if_pos hfield, if_pos hfield.symm]
      rfl
    · rw [if_neg hfield, if_neg (Ne.symm hfield)]
      rfl

/-- A field holds what the last element that has something for it says. -/
lemma recordAll_apply (es : List Element) (ies : SuppIes) (field : KdeField) :
    ies.recordAll build es field = (es.filterMap (suppContent build field)).getLast?.or (ies field) := by
  induction es generalizing ies with
  | nil => rfl
  | cons e es ih =>
    rw [SuppIes.recordAll, List.foldl_cons, ← SuppIes.recordAll, ih, record_apply]
    cases hcontent : suppContent build field e with
    | none => rw [List.filterMap_cons_none hcontent, Option.none_or]
    | some content =>
      rw [List.filterMap_cons_some hcontent, List.getLast?_cons, Option.some_or]
      cases (es.filterMap (suppContent build field)).getLast? <;> rfl

/-- Of a KDE that was written, its payload is recorded. -/
lemma suppContent_kde {kind : KdeKind} (hkind : kind ∈ kdeKinds build) (kde : Kde) :
    suppContent build kind.field kde.element = kdePayload kind kde := by
  obtain ⟨hwpa, _, hfieldWpa, _, hdistinct⟩ := kdeKinds_distinct build kind hkind
  have hid : kde.element.id = 221 := rfl
  have hitem : suppItem build kde.element = suppVendorItem build kde.element := by
    rw [suppItem, if_neg (by rw [hid]; decide), if_neg (by rw [hid]; exact fun h => absurd h.1 (by decide)),
      if_neg (by rw [hid]; exact fun h => absurd h.1 (by decide)), if_pos hid]
  have hbody : kde.element.body.drop 4 = kde.payload := List.drop_left' (length_beBytes 4 _)
  rw [suppContent, hitem, suppVendorItem, Kde.vendorSelector_element, Kde.length_element, hbody]
  split_ifs with hie
  · have hother : ¬(kde.selector.toNat = kind.selector ∧ kind.least ≤ 4 + kde.payload.length) := by
      rintro ⟨hselector, _⟩
      exact hwpa (hselector.symm.trans hie.2.1)
    rw [kdePayload, if_neg hother, Option.bind_some, if_neg (Ne.symm hfieldWpa)]
  · cases hfind : (kdeKinds build).find? fun k =>
        (k.least ≤ 4 + kde.payload.length ∧ kde.selector.toNat = k.selector : Bool) with
    | none =>
      have hnone := List.find?_eq_none.1 hfind kind hkind
      rw [decide_eq_true_eq] at hnone
      rw [kdePayload, if_neg (fun h => hnone ⟨h.2, h.1⟩)]
      rfl
    | some found =>
      have hfits := List.find?_some hfind
      rw [decide_eq_true_eq] at hfits
      have hmem := List.mem_of_find?_eq_some hfind
      rw [Option.map_some, Option.bind_some, kdePayload]
      by_cases hsame : found = kind
      · subst hsame
        rw [if_pos rfl, if_pos ⟨hfits.2, hfits.1⟩, Nat.add_sub_cancel_left]
      · have hfield : found.field ≠ kind.field := fun heq => hsame (hdistinct found hmem (Or.inr heq.symm)).symm
        have hselector : ¬(kde.selector.toNat = kind.selector ∧ kind.least ≤ 4 + kde.payload.length) := fun heq =>
          hsame (hdistinct found hmem (Or.inl (heq.1.symm.trans hfits.2))).symm
        rw [if_neg hfield, if_neg hselector]

/-- No KDE is recorded as an element of another kind. -/
lemma kdeKinds_field (build : KdeBuild) :
    ∀ k ∈ kdeKinds build, k.field ≠ .rsnIe ∧ k.field ≠ .mdie ∧ k.field ≠ .ftie := by
  obtain ⟨r, k, p⟩ := build
  cases r <;> cases k <;> cases p <;> decide

/-- Of an element that is no vendor element, nothing is recorded in the field of a KDE. -/
lemma suppContent_of_ne {kind : KdeKind} (hkind : kind ∈ kdeKinds build) (hid : e.id ≠ 221) :
    suppContent build kind.field e = none := by
  obtain ⟨hrsn, hmdie, hftie⟩ := kdeKinds_field build kind hkind
  rw [suppContent, suppItem]
  split_ifs <;> simp [hrsn.symm, hmdie.symm, hftie.symm]

/-- RSN elements and no others are recorded as such. -/
lemma suppContent_rsnIe (build : KdeBuild) (e : Element) :
    suppContent build .rsnIe e = if e.id = wlanEidRsn then some e.bytes else none := by
  rw [suppContent, suppItem]
  by_cases hrsn : e.id = wlanEidRsn
  · rw [if_pos hrsn, if_pos hrsn, Option.bind_some, if_pos rfl]
  · rw [if_neg hrsn, if_neg hrsn]
    split_ifs
    · rfl
    · rfl
    · rw [suppVendorItem]
      split_ifs
      · rfl
      · rcases hfind : (kdeKinds build).find? fun kind =>
            (kind.least ≤ e.body.length ∧ vendorSelector e = kind.selector : Bool) with _ | found
        · rw [hfind]
          rfl
        · have hfield := (kdeKinds_field build found (List.mem_of_find?_eq_some hfind)).1
          rw [hfind, Option.map_some, Option.bind_some, if_neg hfield]
    · rfl

/-- What was written is found; the bytes behind it may be padding. -/
lemma wpaSupplicantParseIes_padded (es : List Element) {padding : List UInt8}
    (hpadding : padding.length ≤ 1 ∨ ∃ zeros, padding = 221 :: 0 :: zeros) :
    wpaSupplicantParseIes build (elementBytes es ++ padding) =
      some (SuppIes.recordAll build (es.takeWhile fun e => !endsKeyData e) fun _ => none) := by
  rw [wpaSupplicantParseIes, parseSuppIes_elementBytes]
  split_ifs with hany
  · rfl
  · have htake : es.takeWhile (fun e => !endsKeyData e) = es := by
      apply List.takeWhile_eq_self_iff.2
      intro e he
      cases hend : endsKeyData e with
      | false => rfl
      | true => exact absurd (List.any_eq_true.2 ⟨e, he, hend⟩) hany
    rw [htake]
    rcases hpadding with hshort | ⟨zeros, rfl⟩
    · have hnone : nextElement padding = none := by
        rcases padding with _ | ⟨b, _ | ⟨b', bs⟩⟩
        · rfl
        · rfl
        · simp at hshort
      rw [parseSuppIes_none hnone, if_pos hshort]
    · have hbytes : (221 :: 0 :: zeros : List UInt8) = (⟨221, [], by decide⟩ : Element).bytes ++ zeros := rfl
      rw [hbytes, parseSuppIes_bytes, if_pos (by decide)]

end

end Ethanol
