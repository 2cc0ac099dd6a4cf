import EthanolHostapd.EthanolFunctions.ScanElements
import Mathlib.Tactic.Linarith

/-!
# Rates and countries of a scan result

What the loop of `scan_handler` reports of a Supported Rates and of a Country element, compared with what
these elements say.  A rate byte is a multiple of one half Mb/s in seven bits, or with its top bit set it may
be a membership selector.
-/

namespace Ethanol

open Wire

namespace ScanHandler

/-! ## What the elements say -/

/-- The byte that selects membership of a PHY. -/
def selector (r : UInt8) : UInt8 := 0x80 ||| r

/-- The bytes of a Supported Rates element that are no membership selectors. -/
def legacyRates (bs : List UInt8) : List UInt8 :=
  bs.filter fun b => b ≠ selector vhtPhy ∧ b ≠ selector htPhy

/-- The seven bits of a rate. -/
def sevenBits (b : UInt8) : ℕ := (b &&& 0x7f).toNat

/-- The triplets of a Country element, three bytes each. -/
def tripletsOf : List UInt8 → List CountryType
  | a :: b :: c :: bs => ⟨.ofNat a.toNat, .ofNat b.toNat, .ofNat c.toNat⟩ :: tripletsOf bs
  | _ => []

/-- The entry has the rates of a Supported Rates element, and the flags of the selectors in it are set. -/
structure RatesReported (before after : ElementFields) (bs : List UInt8) : Prop where
  numRates : after.numRates = (legacyRates bs).length
  rates : after.rates = (legacyRates bs).map fun b => (sevenBits b : ℚ) / 2
  isHt : after.isHt = true ↔ before.isHt = true ∨ selector htPhy ∈ bs
  isVht : after.isVht = true ↔ before.isVht = true ∨ selector vhtPhy ∈ bs

/-- The entry has the triplets of a Country element whose length is right for whole triplets. -/
def CountryReported (after : ElementFields) (bs : List UInt8) : Prop :=
  ∀ n, bs.length = 3 + 3 * n →
    after.numCountryTriplets = n ∧ after.countryTriplets = tripletsOf (bs.drop 3)

/-- The entry reports the element. -/
def Reported (e : Element) (before after : ElementFields) : Prop :=
  (e.id = 1 → RatesReported before after e.payload) ∧ (e.id = 7 → CountryReported after e.payload)

/-- A Supported Rates element has only whole rates.  A Country element has two triplets or more, or the entry
has those of the element already. -/
def Exact (e : Element) (before : ElementFields) : Prop :=
  (e.id = 1 → ∀ b ∈ legacyRates e.payload, Even (sevenBits b)) ∧
    (e.id = 7 → ∀ n < 2, e.payload.length = 3 + 3 * n →
      before.numCountryTriplets = n ∧ before.countryTriplets = tripletsOf (e.payload.drop 3))

/-! ## Rates -/

lemma selects_iff {r : UInt8} (hr : r = vhtPhy ∨ r = htPhy) (b : UInt8) :
    selects r b = true ↔ b = selector r := by
  have hall : ∀ n : Fin 256, (selects vhtPhy (UInt8.ofFin n) = true ↔ UInt8.ofFin n = selector vhtPhy) ∧
      (selects htPhy (UInt8.ofFin n) = true ↔ UInt8.ofFin n = selector htPhy) := by decide +kernel
  rcases hr with rfl | rfl
  · exact (hall b.toFin).1
  · exact (hall b.toFin).2

lemma selects_vhtPhy (b : UInt8) : selects vhtPhy b = true ↔ b = selector vhtPhy := selects_iff (Or.inl rfl) b

lemma selects_htPhy (b : UInt8) : selects htPhy b = true ↔ b = selector htPhy := selects_iff (Or.inr rfl) b

lemma countRates_eq (bs : List UInt8) : countRates bs = (legacyRates bs).length := by
  induction bs with
  | nil => rfl
  | cons b bs ih =>
    rw [countRates, ih, legacyRates, legacyRates, List.filter_cons]
    by_cases hv : b = selector vhtPhy
    · subst hv
      simp [(selects_vhtPhy _).mpr rfl]
    · by_cases hh : b = selector htPhy
      · subst hh
        simp [(selects_htPhy _).mpr rfl]
      · simp [Bool.eq_false_iff.mpr (mt (selects_vhtPhy b).mp hv), Bool.eq_false_iff.mpr (mt (selects_htPhy b).mp hh),
          hv, hh]

/-- What the second pass writes. -/
lemma fillRates_eq (p : ElementFields) (bs : List UInt8) :
    fillRates p bs = { p with
      rates := p.rates ++ (legacyRates bs).map rateOf
      isHt := p.isHt || decide (selector htPhy ∈ bs)
      isVht := p.isVht || decide (selector vhtPhy ∈ bs) } := by
  have hne : selector vhtPhy ≠ selector htPhy := by decide
  induction bs generalizing p with
  | nil => simp [fillRates, legacyRates]
  | cons b bs ih =>
    rw [fillRates]
    by_cases hv : b = selector vhtPhy
    · rw [if_pos ((selects_vhtPhy b).mpr hv), ih]
      simp [legacyRates, hv, hne.symm]
    · rw [if_neg (mt (selects_vhtPhy b).mp hv)]
      by_cases hh : b = selector htPhy
      · rw [if_pos ((selects_htPhy b).mpr hh), ih]
        simp [legacyRates, hh, hne]
      · rw [if_neg (mt (selects_htPhy b).mp hh), ih]
        simp [legacyRates, hv, hh, Ne.symm hv, Ne.symm hh]

/-- The rate is half of the seven bits exactly if it is whole. -/
lemma rateOf_eq_iff (b : UInt8) : rateOf b = (sevenBits b : ℚ) / 2 ↔ Even (sevenBits b) := by
  have hsplit : (sevenBits b : ℚ) = 2 * ((sevenBits b / 2 : ℕ) : ℚ) + ((sevenBits b % 2 : ℕ) : ℚ) := by
    exact_mod_cast (Nat.div_add_mod (sevenBits b) 2).symm
  rw [Nat.even_iff, rateOf, hsplit]
  constructor
  · intro h
    have hzero : ((sevenBits b % 2 : ℕ) : ℚ) = 0 := by
      change ((sevenBits b / 2 : ℕ) : ℚ) + 5 * ((sevenBits b % 2 : ℕ) : ℚ) = _ at h
      linarith
    exact_mod_cast hzero
  · intro h
    change ((sevenBits b / 2 : ℕ) : ℚ) + 5 * ((sevenBits b % 2 : ℕ) : ℚ) = _
    rw [h]
    ring

/-! ## Countries -/

lemma triplets_val (m : Memory) (off len : ℕ) (c : Cursor) :
    (triplets off len m c).1 = tripletsOf (m.slice (c.pos + 2 + off) len) := by
  fun_induction triplets off len generalizing c with
  | case1 off len ih =>
    have hslice : m.slice (c.pos + 2 + off) (len + 3) = m.byte (c.pos + 2 + off) :: m.byte (c.pos + 2 + (off + 1)) ::
        m.byte (c.pos + 2 + (off + 2)) :: m.slice (c.pos + 2 + (off + 3)) len := by
      simp only [Memory.slice, List.range'_succ, List.map_cons, Nat.add_assoc]
    rw [hslice, tripletsOf]
    simp only [Decoder.bind_apply, Decoder.pure_apply, data_val, data_pos, ih]
  | case2 len off hlen =>
    have hlt : len < 3 := by
      by_contra hge
      exact hlen (len - 3) (by omega)
    rw [Decoder.pure_apply]
    interval_cases len
    · rfl
    · rfl
    · rfl

/-! ## The case of an element -/

/-- What the body of the loop makes of the entry. -/
lemma body_fields (m : Memory) (s : State) : ∃ c : Cursor, c.pos = s.ie ∧
    (body m s).fields = (elementCase s.fields (s.id m) (s.len m) m c).1.1 := by
  refine ⟨⟨s.ie, s.reads ++ [s.ie, s.ie + 1]⟩, rfl, ?_⟩
  have hcase : (body m s).fields = (if s.id m < maxIE then
      elementCase s.fields (s.id m) (s.len m) m ⟨s.ie, s.reads ++ [s.ie, s.ie + 1]⟩
      else ((s.fields, false), ⟨s.ie, s.reads ++ [s.ie, s.ie + 1]⟩)).1.1 := by
    unfold body
    dsimp only
    rw [apply_ite State.fields]
    exact ite_self _
  rw [hcase]
  split_ifs with hid
  · rfl
  · rw [elementCase_of_le (not_lt.mp hid)]

variable {m : Memory} {s : State} {e : Element}

/-- The element at the pointer, and what follows its header. -/
lemma of_holds (hm : m.Holds s.ie e.bytes) :
    s.id m = e.id.toNat ∧ s.len m = e.payload.length ∧ m.slice (s.ie + 2) e.payload.length = e.payload := by
  have hsplit : e.bytes = [e.id] ++ ([UInt8.ofNat e.payload.length] ++ e.payload) := rfl
  rw [hsplit, Memory.holds_append, Memory.holds_append] at hm
  obtain ⟨hid, hlen, hpayload⟩ := hm
  have hlen' : m.byte (s.ie + 1) = UInt8.ofNat e.payload.length := by simpa [Memory.Holds, Memory.slice] using hlen
  refine ⟨?_, ?_, hpayload⟩
  · have hid' : m.byte s.ie = e.id := by simpa [Memory.Holds, Memory.slice] using hid
    rw [State.id, hid']
  · rw [State.len, hlen', UInt8.toNat_ofNat_of_lt' e.short]

lemma ratesReported_iff (hm : m.Holds s.ie e.bytes) (hid : e.id = 1) :
    RatesReported s.fields (body m s).fields e.payload ↔ ∀ b ∈ legacyRates e.payload, Even (sevenBits b) := by
  obtain ⟨c, hpos, hfields⟩ := body_fields m s
  obtain ⟨hid', hlen, hslice⟩ := of_holds hm
  have hcase : (body m s).fields =
      fillRates { s.fields with numRates := countRates e.payload, rates := [] } e.payload := by
    rw [hfields, hid', hid, hlen]
    change fillRates { s.fields with numRates := countRates (m.slice (c.pos + 2) e.payload.length), rates := [] }
      (m.slice (c.pos + 2) e.payload.length) = _
    rw [hpos, hslice]
  rw [hcase, fillRates_eq, countRates_eq]
  constructor
  · intro h
    have hmap := h.rates
    rw [List.nil_append, List.map_inj_left] at hmap
    exact fun b hb => (rateOf_eq_iff b).mp (hmap b hb)
  · intro heven
    refine ⟨rfl, ?_, ?_, ?_⟩
    · rw [List.nil_append, List.map_inj_left]
      exact fun b hb => (rateOf_eq_iff b).mpr (heven b hb)
    · simp
    · simp

lemma countryReported_iff (hm : m.Holds s.ie e.bytes) (hid : e.id = 7) :
    CountryReported (body m s).fields e.payload ↔ ∀ n < 2, e.payload.length = 3 + 3 * n →
      s.fields.numCountryTriplets = n ∧ s.fields.countryTriplets = tripletsOf (e.payload.drop 3) := by
  obtain ⟨c, hpos, hfields⟩ := body_fields m s
  obtain ⟨hid', hlen, hslice⟩ := of_holds hm
  rw [hid', hid, hlen] at hfields
  by_cases hlong : 6 < e.payload.length
  · have hmany : 3 < (e.payload.length : ℤ) - 3 := by omega
    have hdrop : m.slice (s.ie + 2 + 3) (e.payload.length - 3) = e.payload.drop 3 := by
      have hadd : e.payload.length = 3 + (e.payload.length - 3) := by omega
      rw [hadd, Memory.slice_add] at hslice
      have hlength : (m.slice (s.ie + 2) 3).length = 3 := Memory.length_slice _ _ _
      rw [← hslice, List.drop_left' hlength, hslice]
    have hnum : (body m s).fields.numCountryTriplets = (e.payload.length - 3) / 3 := by
      rw [hfields]
      simp [elementCase, hmany]
    have htriplets : (body m s).fields.countryTriplets = tripletsOf (e.payload.drop 3) := by
      rw [hfields]
      simp [elementCase, hmany, triplets_val, hpos, hdrop]
    refine iff_of_true (fun n hn => ⟨?_, htriplets⟩) fun n hlt hn => ?_
    · rw [hnum]
      omega
    · omega
  · have hfew : ¬3 < (e.payload.length : ℤ) - 3 := by omega
    have hnum : (body m s).fields.numCountryTriplets = s.fields.numCountryTriplets := by
      rw [hfields]
      simp [elementCase, hfew]
    have htriplets : (body m s).fields.countryTriplets = s.fields.countryTriplets := by
      rw [hfields]
      simp [elementCase, hfew]
    rw [CountryReported, hnum, htriplets]
    exact forall_congr' fun n => ⟨fun h _ hn => h hn, fun h hn => h (by omega) hn⟩

/-- Whatever the entry holds, the body of the loop reports a Supported Rates or Country element in it exactly
if all rates are whole, and unless the element has a single triplet or none that was not there before. -/
theorem reported_iff (m : Memory) (s : State) (e : Element) (hm : m.Holds s.ie e.bytes) :
    Reported e s.fields (body m s).fields ↔ Exact e s.fields :=
  and_congr (forall_congr' fun hid => ratesReported_iff hm hid) (forall_congr' fun hid => countryReported_iff hm hid)

/-- A Supported Rates element with 1 and 2 Mb/s. -/
def wholeRates : Element := ⟨1, [0x82, 0x84], by decide⟩

/-- A Supported Rates element with 5.5 Mb/s. -/
def oddRate : Element := ⟨1, [0x0b], by decide⟩

lemma holds_start (e : Element) :
    (Memory.ofBytes e.bytes (fun _ => 0) fun _ => []).Holds (start {} e.bytes).ie e.bytes :=
  ofBytes_holds _ _ _

theorem reported_iff_wholeRates :
    Reported wholeRates {} (body (.ofBytes wholeRates.bytes (fun _ => 0) fun _ => []) (start {} wholeRates.bytes)).fields := by
  have heven : (legacyRates wholeRates.payload).all fun b => sevenBits b % 2 == 0 := by decide +kernel
  refine (reported_iff _ _ _ (holds_start wholeRates)).mpr ⟨fun _ b hb => ?_, fun h => absurd h (by decide)⟩
  exact Nat.even_iff.mpr (by simpa using List.all_eq_true.mp heven b hb)

/-- 5.5 Mb/s are reported as 10. -/
theorem reported_oddRate :
    ¬∀ (m : Memory) (s : State) (e : Element), m.Holds s.ie e.bytes → Reported e s.fields (body m s).fields := by
  intro h
  have hrates := (h _ _ oddRate (holds_start oddRate)).1 rfl
  have heven := (ratesReported_iff (holds_start oddRate) rfl).mp hrates 0x0b (by decide)
  exact absurd heven (by decide)

end ScanHandler

end Ethanol
