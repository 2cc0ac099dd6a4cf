import EthanolHostapd.Common.Ieee80211Common
import EthanolHostapd.Utils.Common

/-!
# Vendor elements

`ieee802_11_vendor_ie_concat` of `ieee802_11_common.c`: the data of a message that was spread over several vendor
elements.  A first loop looks for one element of the type, a second one collects the data from there on.
-/

namespace Ethanol

open Wire

/-! ## The code -/

/-- The element at `pos` is a vendor element of the given type. -/
def vendorAt (ies : List UInt8) (ouiType : UInt32) (pos : ℕ) : Bool :=
  ies.getD pos 0 = wlanEidVendorSpecific ∧ 4 ≤ (ies.getD (pos + 1) 0).toNat ∧
    beNat ((ies.drop (pos + 2)).take 4) = ouiType.toNat

/-- The first loop of `ieee802_11_vendor_ie_concat`. -/
def findVendorIe (ies : List UInt8) (ouiType : UInt32) (pos : ℕ) : Option ℕ :=
  if 1 < ies.length - pos then
    if ies.length - pos < 2 + (ies.getD (pos + 1) 0).toNat then none
    else if vendorAt ies ouiType pos then some pos
    else findVendorIe ies ouiType (pos + 2 + (ies.getD (pos + 1) 0).toNat)
  else none
termination_by ies.length - pos

/-- The second loop of `ieee802_11_vendor_ie_concat`. -/
def collectVendorIes (ies : List UInt8) (ouiType : UInt32) (pos : ℕ) (buf : Wpabuf) : Option Wpabuf :=
  if 1 < ies.length - pos then
    if ies.length - pos < 2 + (ies.getD (pos + 1) 0).toNat then some buf
    else do
      let len := (ies.getD (pos + 1) 0).toNat
      let buf ← if vendorAt ies ouiType pos then buf.putData ((ies.drop (pos + 6)).take (len - 4)) else some buf
      collectVendorIes ies ouiType (pos + 2 + len) buf
  else some buf
termination_by ies.length - pos

/-- `ieee802_11_vendor_ie_concat`; `alloc` says whether there is memory.  The outer option is the abort of
`wpabuf_put_data`, the inner one is `NULL`. -/
def vendorIeConcat (ies : List UInt8) (ouiType : UInt32) (alloc : Bool) : Option (Option Wpabuf) :=
  match findVendorIe ies ouiType 0 with
  | none => some none
  | some pos => if alloc then (collectVendorIes ies ouiType pos ⟨ies.length, []⟩).map some else some none

/-! ## The elements -/

/-- A vendor element of the given type. -/
def isVendor (ouiType : UInt32) (e : Element) : Bool :=
  e.id = wlanEidVendorSpecific ∧ 4 ≤ e.body.length ∧ beNat (e.body.take 4) = ouiType.toNat

/-- The data behind the type. -/
def vendorData (e : Element) : List UInt8 := e.body.drop 4

/-- The vendor elements of the given type among the whole elements from the front on. -/
def vendorElements (ouiType : UInt32) (s : List UInt8) : List Element :=
  (walk (fun _ => false) s).1.filter (isVendor ouiType)

section Vendor

variable {ies rest : List UInt8} {ouiType : UInt32} {pos : ℕ} {e : Element}

lemma vendorAt_of_drop (hdrop : ies.drop pos = e.bytes ++ rest) : vendorAt ies ouiType pos = isVendor ouiType e := by
  obtain ⟨hid, hlen⟩ := getD_of_drop hdrop
  have hbody : ies.drop (pos + 2) = e.body ++ rest := by
    rw [← List.drop_drop, hdrop]
    rfl
  rw [vendorAt, isVendor, hid, hlen, Element.toNat_len, hbody]
  by_cases hfour : 4 ≤ e.body.length
  · rw [List.take_append_of_le_length hfour]
  · simp [hfour]

lemma vendorElements_cons (ouiType : UInt32) (e : Element) (rest : List UInt8) :
    vendorElements ouiType (e.bytes ++ rest) =
      if isVendor ouiType e then e :: vendorElements ouiType rest else vendorElements ouiType rest := by
  rw [vendorElements, walk_cons rfl, List.filter_cons]
  rfl

lemma vendorElements_none (h : nextElement rest = none) : vendorElements ouiType rest = [] := by
  rw [vendorElements, walk_of_none h, List.filter_nil]

/-- Without a whole element both loops end. -/
lemma short_of_none (hdrop : ies.drop pos = rest) (hnone : nextElement rest = none) :
    ¬1 < ies.length - pos ∨ ies.length - pos < 2 + (ies.getD (pos + 1) 0).toNat := by
  have hlength := congrArg List.length hdrop
  rw [List.length_drop] at hlength
  match rest with
  | [] => exact Or.inl (by simp at hlength; omega)
  | [_] => exact Or.inl (by simp at hlength; omega)
  | id :: len :: tail =>
    right
    have hget : (ies.drop pos)[1]? = some len := by rw [hdrop]; rfl
    rw [List.getElem?_drop] at hget
    rw [List.getD_eq_getElem?_getD, hget, Option.getD_some]
    by_contra hle
    rw [List.length_cons, List.length_cons] at hlength
    rw [nextElement, if_pos (by omega)] at hnone
    cases hnone

/-- The search skips elements of other types, and finds nothing only if there is nothing. -/
lemma findVendorIe_spec (hdrop : ies.drop pos = rest) :
    (findVendorIe ies ouiType pos = none → vendorElements ouiType rest = []) ∧
      ∀ p, findVendorIe ies ouiType pos = some p →
        vendorElements ouiType (ies.drop p) = vendorElements ouiType rest ∧ vendorElements ouiType rest ≠ [] := by
  induction rest using elements_induction generalizing pos with
  | none rest hnone =>
    have hfind : findVendorIe ies ouiType pos = none := by
      rw [findVendorIe]
      rcases short_of_none hdrop hnone with h | h
      · rw [if_neg h]
      · rw [if_pos h, ite_self]
    rw [hfind]
    refine ⟨fun _ => vendorElements_none hnone, ?_⟩
    intro p hp
    cases hp
  | next e rest ih =>
    have hlength := length_of_drop hdrop
    obtain ⟨-, hlen⟩ := getD_of_drop hdrop
    have hfind : findVendorIe ies ouiType pos =
        if isVendor ouiType e then some pos else findVendorIe ies ouiType (pos + e.bytes.length) := by
      rw [findVendorIe, if_pos (by omega), hlen, Element.toNat_len, if_neg (by omega), vendorAt_of_drop hdrop,
        Element.length_bytes, Nat.add_comm e.body.length, Nat.add_assoc]
    rw [hfind, vendorElements_cons]
    cases hvendor : isVendor ouiType e with
    | true =>
      simp only [if_true, reduceCtorEq, false_implies, Option.some.injEq, true_and]
      rintro p rfl
      rw [hdrop, vendorElements_cons, hvendor]
      exact ⟨rfl, List.cons_ne_nil _ _⟩
    | false =>
      simp only [Bool.false_eq_true, if_false]
      exact ih (drop_of_drop hdrop)

/-- The data of the elements fits into a buffer as long as the string. -/
lemma length_vendorData_le (ouiType : UInt32) (s : List UInt8) :
    ((vendorElements ouiType s).flatMap vendorData).length ≤ s.length := by
  induction s using elements_induction with
  | none s hnone =>
    rw [vendorElements_none hnone]
    exact Nat.zero_le _
  | next e rest ih =>
    rw [vendorElements_cons]
    split
    · rw [List.flatMap_cons, List.length_append, List.length_append, Element.length_bytes, vendorData, List.length_drop]
      omega
    · rw [List.length_append]
      omega

/-- With room for all that is left, the second loop appends the data of the elements in order. -/
lemma collectVendorIes_spec {buf : Wpabuf} (hdrop : ies.drop pos = rest)
    (hroom : buf.buf.length + ((vendorElements ouiType rest).flatMap vendorData).length ≤ buf.size) :
    collectVendorIes ies ouiType pos buf =
      some { buf with buf := buf.buf ++ (vendorElements ouiType rest).flatMap vendorData } := by
  induction rest using elements_induction generalizing pos buf with
  | none rest hnone =>
    rw [vendorElements_none hnone, List.flatMap_nil, List.append_nil, collectVendorIes]
    rcases short_of_none hdrop hnone with h | h
    · rw [if_neg h]
    · rw [if_pos h, ite_self]
  | next e rest ih =>
    have hlength := length_of_drop hdrop
    obtain ⟨-, hlen⟩ := getD_of_drop hdrop
    have hpos : pos + 2 + e.body.length = pos + e.bytes.length := by
      rw [Element.length_bytes]
      omega
    have hdata : isVendor ouiType e = true → (ies.drop (pos + 6)).take (e.body.length - 4) = vendorData e := by
      intro hvendor
      have hfour : 4 ≤ e.body.length := by
        rw [isVendor, decide_eq_true_eq] at hvendor
        exact hvendor.2.1
      have hbody : ies.drop (pos + 2) = e.body ++ rest := by
        rw [← List.drop_drop, hdrop]
        rfl
      rw [show pos + 6 = pos + 2 + 4 by omega, ← List.drop_drop, hbody, List.drop_append_of_le_length hfour,
        List.take_left' (by rw [List.length_drop]), vendorData]
    rw [collectVendorIes, if_pos (by omega), hlen, Element.toNat_len, if_neg (by omega)]
    dsimp only
    rw [vendorAt_of_drop hdrop, hpos]
    rw [vendorElements_cons] at hroom ⊢
    cases hvendor : isVendor ouiType e with
    | true =>
      rw [hvendor, if_pos rfl, List.flatMap_cons, List.length_append] at hroom
      rw [if_pos rfl, if_pos rfl, hdata hvendor, Wpabuf.putData, if_neg (by omega), Option.bind_eq_bind,
        Option.bind_some, ih (drop_of_drop hdrop) (by rw [List.length_append]; dsimp only; omega), List.flatMap_cons,
        List.append_assoc]
    | false =>
      rw [hvendor] at hroom
      simp only [Bool.false_eq_true, if_false, Option.bind_eq_bind, Option.bind_some] at hroom ⊢
      exact ih (drop_of_drop hdrop) hroom

end Vendor

/-- The buffer holds the data of the vendor elements of the type among the whole elements from the front on, in order
and within the size that was allocated; there is none if there is no such element. -/
theorem vendorIeConcat_exact (ies : List UInt8) (ouiType : UInt32) (alloc : Bool) :
    ∃ es rest, ies = elementBytes es ++ rest ∧ nextElement rest = none ∧
      (es.filter (isVendor ouiType) = [] → vendorIeConcat ies ouiType alloc = some none) ∧
      (es.filter (isVendor ouiType) ≠ [] → vendorIeConcat ies ouiType alloc =
        some (if alloc then some ⟨ies.length, (es.filter (isVendor ouiType)).flatMap vendorData⟩ else none)) ∧
      ((es.filter (isVendor ouiType)).flatMap vendorData).length ≤ ies.length := by
  have happend := walk_append (fun _ => false) ies
  have hnone : nextElement (walk (fun _ => false) ies).2 = none := by
    rcases walk_ends (fun _ => false) ies with ⟨es, e, -, -, hstop⟩ | ⟨-, hnone⟩
    · cases hstop
    · exact hnone
  have hdrop : ies.drop 0 = ies := rfl
  obtain ⟨hmiss, hhit⟩ : (findVendorIe ies ouiType 0 = none → vendorElements ouiType ies = []) ∧ _ :=
    findVendorIe_spec hdrop
  have hfit := length_vendorData_le ouiType ies
  refine ⟨(walk (fun _ => false) ies).1, (walk (fun _ => false) ies).2, happend.symm, hnone, ?_, ?_, hfit⟩
  · intro hnil
    cases hfind : findVendorIe ies ouiType 0 with
    | none => rw [vendorIeConcat, hfind]
    | some p => exact absurd hnil (hhit p hfind).2
  · intro hne
    cases hfind : findVendorIe ies ouiType 0 with
    | none => exact absurd (hmiss hfind) hne
    | some p =>
      obtain ⟨hsame, -⟩ := hhit p hfind
      rw [vendorIeConcat, hfind]
      dsimp only
      cases alloc with
      | false => rfl
      | true =>
        rw [if_pos rfl, collectVendorIes_spec rfl (by rw [hsame]; simpa using hfit), hsame, List.nil_append]
        rfl

end Ethanol
