import EthanolHostapd.Common.RsnAccess
import EthanolHostapd.Wire.ElementLoop

/-!
# Elements of fast transition

`wpa_ft_parse_ies` of `wpa_common.c` with `wpa_ft_parse_ftie`, and `ieee802_11_ie_count`.  The FTIE says how many elements
its MIC protects; the parser takes the RSN, mobility domain and FT elements off this number and lets the rest be the
length of the resource information container.
-/

namespace Ethanol

open Wire

/-! ## The code -/

/-- `struct wpa_ft_ies`: where a field is in the string and how long it is; `rsnPmkid` holds the identifier that is at
the pointer. -/
structure WpaFtIes where
  mdie : Option (ℕ × ℕ) := none
  ftie : Option (ℕ × ℕ) := none
  r1khId : Option ℕ := none
  gtk : Option (ℕ × ℕ) := none
  r0khId : Option (ℕ × ℕ) := none
  rsn : Option (ℕ × ℕ) := none
  rsnPmkid : Option (List UInt8) := none
  tie : Option (ℕ × ℕ) := none
  igtk : Option (ℕ × ℕ) := none
  ric : Option ℕ := none
  ricLen : ℕ := 0

/-- `WLAN_EID_MOBILITY_DOMAIN`. -/
def wlanEidMobilityDomain : UInt8 := 54

/-- `WLAN_EID_FAST_BSS_TRANSITION`. -/
def wlanEidFastBssTransition : UInt8 := 55

/-- `WLAN_EID_TIMEOUT_INTERVAL`. -/
def wlanEidTimeoutInterval : UInt8 := 56

/-- `WLAN_EID_RIC_DATA`. -/
def wlanEidRicData : UInt8 := 57

/-- The `switch` over the subelements of an FTIE. -/
def ftieSubelem : ElementBody WpaFtIes := fun id pos len parse =>
  if id = 1 then -- FTIE_SUBELEM_R1KH_ID
    if len ≠ 6 then some none else some (some { parse with r1khId := some pos })
  else if id = 2 then some (some { parse with gtk := some (pos, len.toNat) }) -- FTIE_SUBELEM_GTK
  else if id = 3 then -- FTIE_SUBELEM_R0KH_ID
    if len < 1 ∨ 48 < len then some none else some (some { parse with r0khId := some (pos, len.toNat) })
  else if id = 4 then some (some { parse with igtk := some (pos, len.toNat) }) -- FTIE_SUBELEM_IGTK
  else some (some parse)

/-- `wpa_ft_parse_ftie`. -/
def wpaFtParseFtie (ies : List UInt8) (ie ieLen : ℕ) (parse : WpaFtIes) : Option (Option WpaFtIes) :=
  elementLoop ftieSubelem ies (ie + ieLen) (ie + 82) { parse with ftie := some (ie, ieLen) }

/-- The case of the RSN element. -/
def ftRsn (build : RsnBuild) (ies : List UInt8) (pos : ℕ) (len : UInt8) (parse : WpaFtIes) :
    Option (Option WpaFtIes) := do
  let rsnIe ← Buffer.read ies (pos - 2) (len.toNat + 2)
  match ← (wpaParseWpaIeRsnChecked build rsnIe).run with
  | .error _ => pure none
  | .ok data =>
    pure (some { parse with
      rsn := some (pos, len.toNat)
      rsnPmkid := if data.numPmkid = 1 then some data.pmkid else parse.rsnPmkid })

/-- The `switch` over the elements; the state has `prot_ie_count` as its second part. -/
def ftIesElement (build : RsnBuild) (ies : List UInt8) : ElementBody (WpaFtIes × ℕ) := fun id pos len st =>
  if id = wlanEidRsn then (ftRsn build ies pos len st.1).map fun parse => parse.map fun parse => (parse, st.2)
  else if id = wlanEidMobilityDomain then
    if len < 3 then some none else some (some ({ st.1 with mdie := some (pos, len.toNat) }, st.2))
  else if id = wlanEidFastBssTransition then
    if len < 82 then some none
    else do
      let count ← ies[pos + 1]?
      let parse ← wpaFtParseFtie ies pos len.toNat st.1
      pure (parse.map fun parse => (parse, count.toNat))
  else if id = wlanEidTimeoutInterval then
    if len ≠ 5 then some (some st) else some (some ({ st.1 with tie := some (pos, len.toNat) }, st.2))
  else if id = wlanEidRicData then
    if st.1.ric.isNone then some (some ({ st.1 with ric := some (pos - 2) }, st.2)) else some (some st)
  else some (some st)

/-- The loop over the elements of the container: the position at its end and what is left of the count. -/
def ricEnd (ies : List UInt8) (pos count : ℕ) : Option (ℕ × ℕ) :=
  match count with
  | 0 => if 2 ≤ ies.length - pos then (ies[pos + 1]?).map fun _ => (pos, 0) else some (pos, 0)
  | count + 1 =>
    if 2 ≤ ies.length - pos then do
      let len ← ies[pos + 1]?
      if 2 + len.toNat ≤ ies.length - pos then ricEnd ies (pos + (2 + len.toNat)) count else pure (pos, count + 1)
    else some (pos, count + 1)

/-- One for a field that is set. -/
def present {α : Type} (field : Option α) : ℕ := if field.isSome then 1 else 0

/-- What `wpa_ft_parse_ies` does behind the loop. -/
def ftRic (ies : List UInt8) (parse : WpaFtIes) (protIeCount : ℕ) : Option (Option WpaFtIes) :=
  if protIeCount = 0 then some (some parse)
  else if protIeCount < present parse.rsn + present parse.mdie + present parse.ftie then some none
  else
    let count := protIeCount - (present parse.rsn + present parse.mdie + present parse.ftie)
    if count = 0 ∧ parse.ric.isSome then some none
    else
      match parse.ric with
      | some ric => do
        let (pos, count) ← ricEnd ies ric count
        if count ≠ 0 then pure none else pure (some { parse with ricLen := pos - ric })
      | none => if count ≠ 0 then some none else some (some parse)

/-- `wpa_ft_parse_ies`, for a string that is there: the fields, or `none` for a negative result.  The outer option is an
access outside the string. -/
def wpaFtParseIes (build : RsnBuild) (ies : List UInt8) : Option (Option WpaFtIes) := do
  match ← elementLoop (ftIesElement build ies) ies ies.length 0 (({} : WpaFtIes), 0) with
  | none => pure none
  | some (parse, protIeCount) => ftRic ies parse protIeCount

/-- `ieee802_11_ie_count` for the `iesLen` bytes from an offset on. -/
def ieee80211IeCount (buf : List UInt8) (ies iesLen : ℕ) : Option ℕ :=
  (elementLoop (fun _ _ _ count => some (some (count + 1))) buf (ies + iesLen) ies 0).map fun count => count.getD 0

/-! ## What the loop records -/

/-- The last element of a kind: the offset of its body and its length. -/
def lastOf (id : UInt8) (seen : List (ℕ × Element)) : Option (ℕ × ℕ) :=
  (seen.reverse.find? fun p => p.2.id = id).map fun p => (p.1, p.2.body.length)

/-- The state when some elements have been gone through. -/
structure FtRecorded (ies : List UInt8) (seen : List (ℕ × Element)) (st : WpaFtIes × ℕ) : Prop where
  rsn : st.1.rsn = lastOf wlanEidRsn seen
  mdie : st.1.mdie = lastOf wlanEidMobilityDomain seen
  ftie : st.1.ftie = lastOf wlanEidFastBssTransition seen
  ric : st.1.ric = (seen.find? fun p => p.2.id = wlanEidRicData).map fun p => p.1 - 2
  ricLen : st.1.ricLen = 0
  count : st.2 = (st.1.ftie.map fun f => (ies.getD (f.1 + 1) 0).toNat).getD 0

section Loop

variable {build : RsnBuild} {ies : List UInt8} {seen : List (ℕ × Element)} {off : ℕ} {e : Element}

lemma lastOf_append (id : UInt8) (seen : List (ℕ × Element)) (off : ℕ) (e : Element) :
    lastOf id (seen ++ [(off, e)]) = if e.id = id then some (off, e.body.length) else lastOf id seen := by
  rw [lastOf, List.reverse_append, List.reverse_singleton, List.singleton_append, List.find?_cons]
  split
  · next hid =>
    rw [if_pos (of_decide_eq_true hid)]
    rfl
  · next hid =>
    rw [if_neg (of_decide_eq_false hid)]
    rfl

lemma find_ric_append (seen : List (ℕ × Element)) (off : ℕ) (e : Element) :
    (seen ++ [(off, e)]).find? (fun p => p.2.id = wlanEidRicData) =
      ((seen.find? fun p => p.2.id = wlanEidRicData).or
        (if e.id = wlanEidRicData then some (off, e) else none)) := by
  rw [List.find?_append, List.find?_singleton]
  simp

/-- The parser of the FTIE only sets the keys and identifiers besides. -/
lemma wpaFtParseFtie_spec {ie ieLen : ℕ} (h : ie + ieLen ≤ ies.length) (hlen : 82 ≤ ieLen) (parse : WpaFtIes) :
    ∃ result, wpaFtParseFtie ies ie ieLen parse = some result ∧
      ∀ parse', result = some parse' →
        ∃ r1khId gtk r0khId igtk, parse' = { parse with ftie := some (ie, ieLen), r1khId, gtk, r0khId, igtk } := by
  obtain ⟨es, rest, hregion, hnone⟩ := exists_elements ((ies.drop (ie + 82)).take (ieLen - 82))
  have hlength := congrArg List.length hregion
  rw [List.length_take, List.length_drop, Nat.min_eq_left (by omega)] at hlength
  have hdrop : ies.drop (ie + 82) = elementBytes es ++ rest ++ (ies.drop (ie + 82)).drop (ieLen - 82) := by
    rw [← hregion, List.take_append_drop]
  rw [wpaFtParseFtie, elementLoop_eq hdrop (by omega) hnone]
  refine elementFold_run (I := fun _ st => ∃ r1khId gtk r0khId igtk,
    st = { parse with ftie := some (ie, ieLen), r1khId, gtk, r0khId, igtk }) ?_
    ⟨parse.r1khId, parse.gtk, parse.r0khId, parse.igtk, rfl⟩
  rintro seen off e st - ⟨r1khId, gtk, r0khId, igtk, rfl⟩
  rw [ftieSubelem]
  split_ifs
  · exact ⟨none, rfl, fun _ heq => nomatch heq⟩
  · exact ⟨_, rfl, fun st' heq => ⟨some off, gtk, r0khId, igtk, (Option.some.inj heq).symm⟩⟩
  · exact ⟨_, rfl, fun st' heq => ⟨r1khId, some (off, e.len.toNat), r0khId, igtk, (Option.some.inj heq).symm⟩⟩
  · exact ⟨none, rfl, fun _ heq => nomatch heq⟩
  · exact ⟨_, rfl, fun st' heq => ⟨r1khId, gtk, some (off, e.len.toNat), igtk, (Option.some.inj heq).symm⟩⟩
  · exact ⟨_, rfl, fun st' heq => ⟨r1khId, gtk, r0khId, some (off, e.len.toNat), (Option.some.inj heq).symm⟩⟩
  · exact ⟨_, rfl, fun st' heq => ⟨r1khId, gtk, r0khId, igtk, (Option.some.inj heq).symm⟩⟩

/-- An element that is there can be read with its header. -/
lemma ftRsn_spec (build : RsnBuild) {before after : List UInt8} (hies : ies = before ++ (e.bytes ++ after)) (parse : WpaFtIes) :
    ∃ result, ftRsn build ies (before.length + 2) e.len parse = some result ∧
      ∀ parse', result = some parse' →
        ∃ rsnPmkid, parse' = { parse with rsn := some (before.length + 2, e.body.length), rsnPmkid } := by
  have hread : Buffer.read ies (before.length + 2 - 2) (e.len.toNat + 2) = some e.bytes := by
    rw [hies, Nat.add_sub_cancel]
    exact Buffer.read_block rfl (by rw [Element.toNat_len, Element.length_bytes])
  have hparse : (wpaParseWpaIeRsnChecked build e.bytes).run = some (wpaParseWpaIeRsn build e.bytes) := by
    rw [wpaParseWpaIeRsnChecked_eq]
    rfl
  simp only [ftRsn, hread, bind, Option.bind_some, hparse]
  cases wpaParseWpaIeRsn build e.bytes with
  | error err => exact ⟨none, rfl, fun _ heq => nomatch heq⟩
  | ok data =>
    refine ⟨_, rfl, fun parse' heq => ?_⟩
    obtain rfl := Option.some.inj heq
    exact ⟨_, by rw [Element.toNat_len]⟩

/-- One more element is recorded. -/
lemma ftIesElement_spec {before after : List UInt8} {st : WpaFtIes × ℕ} (hies : ies = before ++ (e.bytes ++ after))
    (h : FtRecorded ies seen st) :
    ∃ result, ftIesElement build ies e.id (before.length + 2) e.len st = some result ∧
      ∀ st', result = some st' → FtRecorded ies (seen ++ [(before.length + 2, e)]) st' := by
  obtain ⟨hrsn, hmdie, hftie, hric, hricLen, hcount⟩ := h
  have hfound := find_ric_append seen (before.length + 2) e
  have hother (id : UInt8) (hid : e.id ≠ id) : lastOf id (seen ++ [(before.length + 2, e)]) = lastOf id seen := by
    rw [lastOf_append, if_neg hid]
  have hlast : lastOf e.id (seen ++ [(before.length + 2, e)]) = some (before.length + 2, e.body.length) := by
    rw [lastOf_append, if_pos rfl]
  have hnoRic (hid : e.id ≠ wlanEidRicData) :
      (seen ++ [(before.length + 2, e)]).find? (fun p => p.2.id = wlanEidRicData) =
        seen.find? fun p => p.2.id = wlanEidRicData := by
    rw [hfound, if_neg hid, Option.or_none]
  rw [ftIesElement]
  split
  · next hid =>
    obtain ⟨result, hresult, hparse⟩ := ftRsn_spec build hies st.1
    rw [hresult]
    refine ⟨_, rfl, fun st' heq => ?_⟩
    obtain ⟨parse', hparse', rfl⟩ := Option.map_eq_some_iff.mp heq
    obtain ⟨rsnPmkid, rfl⟩ := hparse parse' hparse'
    refine ⟨?_, ?_, ?_, ?_, hricLen, hcount⟩
    · rw [← hid, hlast]
    · rw [hother _ (by rw [hid]; decide)]
      exact hmdie
    · rw [hother _ (by rw [hid]; decide)]
      exact hftie
    · rw [hnoRic (by rw [hid]; decide)]
      exact hric
  · next hnoRsn =>
    split
    · next hid =>
      split
      · exact ⟨none, rfl, fun _ heq => nomatch heq⟩
      · refine ⟨_, rfl, fun st' heq => ?_⟩
        obtain rfl := Option.some.inj heq
        refine ⟨?_, ?_, ?_, ?_, hricLen, hcount⟩
        · rw [hother _ hnoRsn]
          exact hrsn
        · rw [← hid, hlast, Element.toNat_len]
        · rw [hother _ (by rw [hid]; decide)]
          exact hftie
        · rw [hnoRic (by rw [hid]; decide)]
          exact hric
    · next hnoMdie =>
      split
      · next hid =>
        split
        · exact ⟨none, rfl, fun _ heq => nomatch heq⟩
        · next hshort =>
          have hlong : 82 ≤ e.body.length := by
            have hle : (82 : UInt8).toNat ≤ e.len.toNat := UInt8.le_iff_toNat_le.mp (UInt8.not_lt.mp hshort)
            rw [Element.toNat_len] at hle
            exact hle
          have hlength : ies.length = before.length + 2 + e.body.length + after.length := by
            rw [hies, List.length_append, List.length_append, Element.length_bytes]
            omega
          have hbyte : ies[before.length + 2 + 1]? = some (ies.getD (before.length + 2 + 1) 0) := by
            have hlt : before.length + 2 + 1 < ies.length := by omega
            rw [List.getD_eq_getElem?_getD, List.getElem?_eq_getElem hlt]
            rfl
          have hinside : before.length + 2 + e.body.length ≤ ies.length := by omega
          obtain ⟨result, hresult, hparse⟩ := wpaFtParseFtie_spec hinside hlong st.1
          rw [Element.toNat_len, hbyte, hresult]
          refine ⟨_, rfl, fun st' heq => ?_⟩
          obtain ⟨parse', hparse', rfl⟩ := Option.map_eq_some_iff.mp heq
          obtain ⟨r1khId, gtk, r0khId, igtk, rfl⟩ := hparse parse' hparse'
          refine ⟨?_, ?_, ?_, ?_, hricLen, rfl⟩
          · rw [hother _ hnoRsn]
            exact hrsn
          · rw [hother _ hnoMdie]
            exact hmdie
          · rw [← hid, hlast]
          · rw [hnoRic (by rw [hid]; decide)]
            exact hric
      · next hnoFtie =>
        have hsame (hid : e.id ≠ wlanEidRicData) : FtRecorded ies (seen ++ [(before.length + 2, e)]) st :=
          ⟨by rw [hother _ hnoRsn, hrsn], by rw [hother _ hnoMdie, hmdie], by rw [hother _ hnoFtie, hftie],
            by rw [hnoRic hid, hric], hricLen, hcount⟩
        split
        · next hid =>
          have hkeeps := hsame (by rw [hid]; decide)
          split
          · refine ⟨_, rfl, fun st' heq => ?_⟩
            obtain rfl := Option.some.inj heq
            exact hkeeps
          · refine ⟨_, rfl, fun st' heq => ?_⟩
            obtain rfl := Option.some.inj heq
            exact ⟨hkeeps.rsn, hkeeps.mdie, hkeeps.ftie, hkeeps.ric, hkeeps.ricLen, hkeeps.count⟩
        · split
          · next hid =>
            have hkeeps (parse : WpaFtIes) (hparse : parse = { st.1 with ric := parse.ric })
                (hric' : parse.ric = ((seen ++ [(before.length + 2, e)]).find?
                  fun p => p.2.id = wlanEidRicData).map fun p => p.1 - 2) :
                FtRecorded ies (seen ++ [(before.length + 2, e)]) (parse, st.2) := by
              refine ⟨?_, ?_, ?_, hric', ?_, ?_⟩
              · rw [hother _ hnoRsn, ← hrsn, hparse]
              · rw [hother _ hnoMdie, ← hmdie, hparse]
              · rw [hother _ hnoFtie, ← hftie, hparse]
              · rw [hparse]
                exact hricLen
              · rw [hparse]
                exact hcount
            rw [hfound, if_pos hid] at hkeeps
            cases hfind : seen.find? fun p => p.2.id = wlanEidRicData with
            | none =>
              rw [hfind] at hric hkeeps
              have hnone : st.1.ric.isNone = true := by
                rw [hric]
                rfl
              rw [if_pos hnone]
              refine ⟨_, rfl, fun st' heq => ?_⟩
              obtain rfl := Option.some.inj heq
              exact hkeeps _ rfl rfl
            | some p =>
              rw [hfind] at hric hkeeps
              have hsome : ¬st.1.ric.isNone = true := by
                rw [hric]
                exact Bool.false_ne_true
              rw [if_neg hsome]
              refine ⟨_, rfl, fun st' heq => ?_⟩
              obtain rfl := Option.some.inj heq
              exact hkeeps st.1 rfl hric
          · next hnoRic' =>
            refine ⟨_, rfl, fun st' heq => ?_⟩
            obtain rfl := Option.some.inj heq
            exact hsame hnoRic'

end Loop

/-! ## The container -/

/-- What `ricLen` says about the elements `es` of the string: it is the length of a number of them, from the first RIC
data element on. -/
def RicRange (es : List Element) (parse : WpaFtIes) (n : ℕ) : Prop :=
  match parse.ric with
  | none => (∀ e ∈ es, e.id ≠ wlanEidRicData) ∧ parse.ricLen = 0 ∧ n = 0
  | some ric => ∃ before first more after, es = before ++ (first :: more ++ after) ∧
      (∀ e ∈ before, e.id ≠ wlanEidRicData) ∧ first.id = wlanEidRicData ∧ ric = (elementBytes before).length ∧
      parse.ricLen = (elementBytes (first :: more)).length ∧ n = (first :: more).length

section Container

variable {build : RsnBuild} {ies rest : List UInt8} {es : List Element} {parse : WpaFtIes} {pos count n : ℕ}

/-- The loop takes as many whole elements as the count allows. -/
lemma ricEnd_eq (hdrop : ies.drop pos = elementBytes es ++ rest) (hnone : nextElement rest = none) :
    ricEnd ies pos count = some (pos + (elementBytes (es.take count)).length, count - es.length) := by
  induction es generalizing pos count with
  | nil =>
    have hlength := congrArg List.length hdrop
    rw [elementBytes_nil, List.nil_append, List.length_drop] at hlength
    rw [elementBytes_nil, List.nil_append] at hdrop
    match rest with
    | [] => cases count <;> simp [ricEnd, hlength]
    | [_] => cases count <;> simp [ricEnd, hlength]
    | id :: len :: tail =>
      have hlen : (ies.drop pos)[1]? = some len := by rw [hdrop]; rfl
      rw [List.getElem?_drop] at hlen
      have hshort : tail.length < len.toNat := by
        rw [nextElement] at hnone
        split at hnone
        · cases hnone
        · next hlt => exact Nat.lt_of_not_le hlt
      rw [List.length_cons, List.length_cons] at hlength
      cases count with
      | zero => rw [ricEnd, if_pos (by omega), hlen]; simp
      | succ count =>
        rw [ricEnd, if_pos (by omega), hlen]
        simp only [bind, Option.bind_some]
        rw [if_neg (by omega)]
        simp
  | cons e es ih =>
    rw [elementBytes_cons, List.append_assoc] at hdrop
    have hlen := (header_of_drop hdrop).2
    have hlength := congrArg List.length hdrop
    rw [List.length_append, Element.length_bytes, List.length_drop] at hlength
    cases count with
    | zero => rw [ricEnd, if_pos (by omega), hlen]; simp
    | succ count =>
      have hnext : ies.drop (pos + (2 + e.body.length)) = elementBytes es ++ rest := by
        have hbytes : 2 + e.body.length = e.bytes.length := by
          rw [Element.length_bytes]
          omega
        rw [← List.drop_drop, hdrop, hbytes, List.drop_left]
      rw [ricEnd, if_pos (by omega), hlen]
      simp only [bind, Option.bind_some]
      rw [Element.toNat_len, if_pos (by omega), ih hnext, List.take_succ_cons, elementBytes_cons, List.length_append,
        Element.length_bytes, List.length_cons]
      congr 2 <;> omega

/-- Counting only reads the part of the string that it gets. -/
lemma ieee80211IeCount_inside {len : ℕ} (h : pos + len ≤ ies.length) : ∃ n, ieee80211IeCount ies pos len = some n := by
  obtain ⟨es, rest, hregion, hnone⟩ := exists_elements ((ies.drop pos).take len)
  have hdrop : ies.drop pos = elementBytes es ++ rest ++ (ies.drop pos).drop len := by
    rw [← hregion, List.take_append_drop]
  have hstop : pos + len = pos + (elementBytes es ++ rest).length := by
    rw [← hregion, List.length_take, List.length_drop]
    omega
  have hfold : ∃ result, elementFold (fun _ _ _ count => some (some (count + 1))) (located pos es) 0 = some result ∧
      ∀ count, result = some count → True :=
    elementFold_run (I := fun _ _ => True) (fun _ _ _ _ _ _ => ⟨_, rfl, fun _ _ => trivial⟩) trivial
  obtain ⟨result, hresult, -⟩ := hfold
  rw [ieee80211IeCount, elementLoop_eq hdrop hstop hnone, hresult]
  exact ⟨_, rfl⟩

/-- The number of elements in a part of the string that consists of whole elements. -/
lemma ieee80211IeCount_eq {ric ricLen : ℕ} {after : List UInt8} (hdrop : ies.drop ric = elementBytes es ++ after)
    (hlen : ricLen = (elementBytes es).length) : ieee80211IeCount ies ric ricLen = some es.length := by
  have hfold (seen : List (ℕ × Element)) (n : ℕ) :
      elementFold (fun _ _ _ count => some (some (count + 1))) seen n = some (some (n + seen.length)) := by
    induction seen generalizing n with
    | nil => rfl
    | cons p seen ih =>
      rw [elementFold, Option.bind_some]
      dsimp only
      rw [ih, List.length_cons]
      congr 2
      omega
  have hdrop' : ies.drop ric = elementBytes es ++ [] ++ after := by rw [List.append_nil, hdrop]
  have hlength : (located ric es).length = es.length := by rw [← List.length_map (f := Prod.snd), map_snd_located]
  rw [ieee80211IeCount, elementLoop_eq hdrop' (by rw [List.append_nil, hlen]) rfl, hfold, hlength, Nat.zero_add]
  rfl

end Container

/-! ## The whole function -/

/-- The loop has a result, and it records what is there. -/
lemma ftLoop_spec (build : RsnBuild) {ies rest : List UInt8} {es : List Element} (hies : ies = elementBytes es ++ rest)
    (hnone : nextElement rest = none) :
    ∃ result, elementLoop (ftIesElement build ies) ies ies.length 0 (({} : WpaFtIes), 0) = some result ∧
      ∀ st, result = some st → FtRecorded ies (located 0 es) st := by
  have hdrop : ies.drop 0 = elementBytes es ++ rest ++ [] := by rw [List.drop_zero, List.append_nil, hies]
  have hstop : ies.length = 0 + (elementBytes es ++ rest).length := by rw [Nat.zero_add, hies]
  rw [elementLoop_eq hdrop hstop hnone]
  refine elementFold_run (I := FtRecorded ies) (fun seen off e st hmem hrec => ?_)
    ⟨rfl, rfl, rfl, rfl, rfl, rfl⟩
  obtain ⟨before, after, hes, rfl⟩ := mem_located hmem
  have hies' : ies = before ++ (e.bytes ++ (after ++ rest)) := by
    rw [hies, hes]
    simp only [List.append_assoc]
  rw [Nat.zero_add]
  exact ftIesElement_spec hies' hrec

/-- What is left when the elements have been taken off the number of protected ones is the length of the container. -/
lemma ftRic_spec {ies rest : List UInt8} {es : List Element} {parse : WpaFtIes} {count : ℕ}
    (hies : ies = elementBytes es ++ rest) (hnone : nextElement rest = none)
    (hrec : FtRecorded ies (located 0 es) (parse, count)) :
    ∃ result, ftRic ies parse count = some result ∧ ∀ parse', result = some parse' →
      (parse'.rsn = parse.rsn ∧ parse'.mdie = parse.mdie ∧ parse'.ftie = parse.ftie) ∧ (count ≠ 0 →
        ∃ n, count = present parse.rsn + present parse.mdie + present parse.ftie + n ∧ RicRange es parse' n ∧
          ieee80211IeCount ies (parse'.ric.getD 0) parse'.ricLen = some n) := by
  rw [ftRic]
  split
  · next hzero =>
    refine ⟨_, rfl, fun parse' heq => ?_⟩
    obtain rfl := Option.some.inj heq
    exact ⟨⟨rfl, rfl, rfl⟩, fun hne => absurd hzero hne⟩
  · split
    · exact ⟨none, rfl, fun _ heq => nomatch heq⟩
    · next hzero hle =>
      dsimp only
      split
      · exact ⟨none, rfl, fun _ heq => nomatch heq⟩
      · next hric =>
        have hfind := hrec.ric
        cases hcase : (located 0 es).find? fun p => p.2.id = wlanEidRicData with
        | none =>
          rw [hcase, Option.map_none] at hfind
          have hparse : parse.ric = none := hfind
          rw [hparse]
          dsimp only
          split
          · exact ⟨none, rfl, fun _ heq => nomatch heq⟩
          · next hcount =>
            refine ⟨_, rfl, fun parse' heq => ?_⟩
            obtain rfl := Option.some.inj heq
            refine ⟨⟨rfl, rfl, rfl⟩, fun _ => ⟨0, by omega, ?_, ?_⟩⟩
            · have hnoRic := find?_located_eq_none (P := fun e => e.id = wlanEidRicData) hcase
              rw [RicRange, hparse]
              exact ⟨fun e he => of_decide_eq_false (hnoRic e he), hrec.ricLen, rfl⟩
            · have hlen : parse.ricLen = (elementBytes []).length := hrec.ricLen
              rw [hparse]
              have hnone : ieee80211IeCount ies 0 parse.ricLen = some ([] : List Element).length :=
                ieee80211IeCount_eq rfl hlen
              exact hnone
        | some p =>
          rw [hcase, Option.map_some] at hfind
          obtain ⟨before, after, hes, hbefore, hp, hoff⟩ :=
            find?_located (P := fun e => e.id = wlanEidRicData) hcase
          have hparse : parse.ric = some (elementBytes before).length := by
            rw [show parse.ric = some (p.1 - 2) from hfind, hoff, Nat.zero_add, Nat.add_sub_cancel]
          have hdrop : ies.drop (elementBytes before).length = elementBytes (p.2 :: after) ++ rest := by
            rw [hies, hes, elementBytes_append, List.append_assoc, List.drop_left]
          rw [hparse]
          dsimp only
          rw [ricEnd_eq hdrop hnone]
          simp only [bind, Option.bind_some]
          split
          · exact ⟨none, rfl, fun _ heq => nomatch heq⟩
          · next hleft =>
            refine ⟨_, rfl, fun parse' heq => ?_⟩
            obtain rfl := Option.some.inj heq
            refine ⟨⟨rfl, rfl, rfl⟩, fun _ => ?_⟩
            obtain ⟨n, hn⟩ : ∃ n, count - (present parse.rsn + present parse.mdie + present parse.ftie) = n + 1 := by
              refine Nat.exists_eq_succ_of_ne_zero fun heq => hric ⟨heq, ?_⟩
              rw [hparse]
              rfl
            have hmore : n ≤ after.length := by
              rw [hn, List.length_cons] at hleft
              omega
            have htake : (p.2 :: after).take (n + 1) = p.2 :: after.take n := List.take_succ_cons
            have hlength : (p.2 :: after.take n).length = n + 1 := by
              rw [List.length_cons, List.length_take, Nat.min_eq_left hmore]
            have hsplit : p.2 :: after = p.2 :: after.take n ++ after.drop n := by
              rw [List.cons_append, List.take_append_drop]
            have hrange : (elementBytes before).length + (elementBytes (p.2 :: after.take n)).length -
                (elementBytes before).length = (elementBytes (p.2 :: after.take n)).length := Nat.add_sub_cancel_left _ _
            refine ⟨n + 1, by omega, ?_, ?_⟩
            · rw [RicRange]
              refine ⟨before, p.2, after.take n, after.drop n, ?_, fun e he => of_decide_eq_false (hbefore e he),
                of_decide_eq_true hp, rfl, ?_, hlength.symm⟩
              · rw [← hsplit, hes]
              · rw [hn, htake]
                exact hrange
            · rw [hsplit, elementBytes_append, List.append_assoc] at hdrop
              rw [hn, htake, ← hlength]
              exact ieee80211IeCount_eq hdrop hrange

/-- The container that is recorded is a sequence of elements of the string with a RIC data element in front, or it is
empty. -/
lemma wpaFtParseIes_ric (build : RsnBuild) (ies : List UInt8) :
    ∃ result, wpaFtParseIes build ies = some result ∧ ∀ parse, result = some parse → ∀ ric ∈ parse.ric,
      ∃ es after, ies.drop ric = elementBytes es ++ after ∧ ric ≤ ies.length ∧
        parse.ricLen = (elementBytes es).length ∧ ∀ e ∈ es.head?, e.id = wlanEidRicData := by
  obtain ⟨es, rest, hies, hnone⟩ := exists_elements ies
  obtain ⟨loop, hloop, hrec⟩ := ftLoop_spec build hies hnone
  simp only [wpaFtParseIes, hloop, bind, Option.bind_some]
  cases loop with
  | none => exact ⟨none, rfl, fun _ heq => nomatch heq⟩
  | some st =>
    obtain ⟨parse, count⟩ := st
    have hrec := hrec _ rfl
    have hbefore (ric : ℕ) (hric : parse.ric = some ric) : ric ≤ ies.length := by
      have hfind := hrec.ric
      rw [show (parse, count).1.ric = some ric from hric] at hfind
      obtain ⟨p, hp, hric⟩ := Option.map_eq_some_iff.mp hfind.symm
      obtain ⟨before, after, hes, -, -, hoff⟩ := find?_located (P := fun e => e.id = wlanEidRicData) hp
      rw [hies, hes, elementBytes_append, List.length_append, List.length_append]
      omega
    by_cases hcount : count = 0
    · have hrest : ftRic ies parse count = some (some parse) := by rw [ftRic, if_pos hcount]
      refine ⟨some parse, hrest, fun parse' heq ric hric => ?_⟩
      obtain rfl := Option.some.inj heq
      exact ⟨[], ies.drop ric, rfl, hbefore ric hric, hrec.ricLen, by simp⟩
    · obtain ⟨result, hresult, hparse⟩ := ftRic_spec hies hnone hrec
      refine ⟨result, hresult, fun parse' heq ric hric => ?_⟩
      obtain ⟨-, hcounted⟩ := hparse parse' heq
      obtain ⟨n, -, hrange, -⟩ := hcounted hcount
      rw [RicRange, Option.mem_def.mp hric] at hrange
      obtain ⟨before, first, more, after, hes, -, hfirst, hoff, hlen, -⟩ := hrange
      refine ⟨first :: more, elementBytes after ++ rest, ?_, ?_, hlen, ?_⟩
      · rw [hies, hes, hoff, elementBytes_append, elementBytes_append, List.append_assoc, List.drop_left,
          List.append_assoc]
      · rw [hies, hes, hoff, elementBytes_append, List.length_append, List.length_append]
        omega
      · intro e he
        obtain rfl := Option.some.inj he
        exact hfirst

/-- The parser only reads inside the string.  Where it succeeds and the FTIE protects elements, it protects exactly the
RSN, the mobility domain and the FT element that are recorded and the elements of the container. -/
theorem wpaFtParseIes_exact (build : RsnBuild) (ies : List UInt8) :
    ∃ es rest result, ies = elementBytes es ++ rest ∧ nextElement rest = none ∧
      wpaFtParseIes build ies = some result ∧ ∀ parse, result = some parse →
        parse.rsn = lastOf wlanEidRsn (located 0 es) ∧ parse.mdie = lastOf wlanEidMobilityDomain (located 0 es) ∧
        parse.ftie = lastOf wlanEidFastBssTransition (located 0 es) ∧
        ∀ ftie len, parse.ftie = some (ftie, len) → ies.getD (ftie + 1) 0 ≠ 0 →
          ∃ n, (ies.getD (ftie + 1) 0).toNat = present parse.rsn + present parse.mdie + present parse.ftie + n ∧
            RicRange es parse n ∧ ieee80211IeCount ies (parse.ric.getD 0) parse.ricLen = some n := by
  obtain ⟨es, rest, hies, hnone⟩ := exists_elements ies
  obtain ⟨loop, hloop, hrec⟩ := ftLoop_spec build hies hnone
  refine ⟨es, rest, ?_⟩
  simp only [wpaFtParseIes, hloop, bind, Option.bind_some]
  cases loop with
  | none => exact ⟨none, hies, hnone, rfl, fun _ heq => nomatch heq⟩
  | some st =>
    obtain ⟨parse, count⟩ := st
    have hrec := hrec _ rfl
    obtain ⟨result, hresult, hparse⟩ := ftRic_spec hies hnone hrec
    refine ⟨result, hies, hnone, hresult, fun parse' heq => ?_⟩
    obtain ⟨⟨hrsn, hmdie, hftie⟩, hcount⟩ := hparse parse' heq
    rw [hrsn, hmdie, hftie]
    refine ⟨hrec.rsn, hrec.mdie, hrec.ftie, fun ftie len hftie hprotected => ?_⟩
    have heqCount : count = (ies.getD (ftie + 1) 0).toNat := by
      have hcase := hrec.count
      rw [show (parse, count).1.ftie = some (ftie, len) from hftie] at hcase
      exact hcase
    rw [← heqCount]
    exact hcount (by rw [heqCount]; exact fun hzero => hprotected (UInt8.toNat_inj.mp hzero))

end Ethanol
