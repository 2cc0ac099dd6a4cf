import EthanolHostapd.Messaging.Scan
import Mathlib.Algebra.Order.Field.Rat

/-!
# The information elements of a scan result

The loop of `scan_handler` in `wapi_scan2.c` over the information elements of a BSS.  A pointer `ie` and the
number `ielen` of bytes from there to the end move on together; the cases of the `switch` read fixed
offsets from the pointer, whatever the length of the element, and record what they find in the entry of
the BSS.

The offsets that are read and the elements that are visited are kept on record.
-/

namespace Ethanol

open Wire

/-- The fields of a scan entry that the cases of the loop write.  The rates are multiples of one half below
`2 ^ 10`, which a `float` holds exactly. -/
structure ElementFields where
  ssid : Option (List UInt8) := none
  numRates : ℕ := 0
  rates : List ℚ := []
  isHt : Bool := false
  isVht : Bool := false
  channel : ℤ := -1
  hasDtim : Bool := false
  dtimCount : ℕ := 0
  dtimPeriod : ℕ := 0
  ibssPs : Bool := false
  atimWindow : ℕ := 0
  hasCountry : Bool := false
  countryCode : UInt8 × UInt8 := (0, 0)
  countryEnvironment : UInt8 := 0
  numCountryTriplets : ℕ := 0
  countryTriplets : List CountryType := []
  hasBssLoad : Bool := false
  stationCount : ℕ := 0
  channelUtilization : ℕ := 0
  availAdmissionCapacity : ℕ := 0
  powerconstraint : ℕ := 0
  linkMargin : ℕ := 0
  txPower : ℕ := 0
  hasErp : Bool := false
  nonERPPresent : Bool := false
  useProtection : Bool := false
  barkerPreambleMode : Bool := false
  hasRsn : Bool := false
  rsnVersion : ℕ := 0
  rsnGroupCipherOui : Char3 := ⟨0, 0, 0⟩
  rsnGroupCipherType : ℕ := 0

namespace ScanHandler

/-! ## The cases -/

/-- `data[i]`, where `data` points behind the header of the element at the cursor. -/
def data (i : ℕ) : Decoder UInt8 := fun m c => (m.byte (c.pos + 2 + i), ⟨c.pos, c.reads ++ [c.pos + 2 + i]⟩)

/-- `data[0]` to `data[n - 1]`. -/
def dataUpTo (n : ℕ) : Decoder (List UInt8) :=
  fun m c => (m.slice (c.pos + 2) n, ⟨c.pos, c.reads ++ List.range' (c.pos + 2) n⟩)

/-- `BSS_MEMBERSHIP_SELECTOR_VHT_PHY`. -/
def vhtPhy : UInt8 := 126

/-- `BSS_MEMBERSHIP_SELECTOR_HT_PHY`. -/
def htPhy : UInt8 := 127

/-- A byte with the top bit set is the selector `r`. -/
def selects (r b : UInt8) : Bool := b &&& 0x7f == r && b &&& 0x80 != 0

/-- The first pass over the rates counts those that are no membership selectors. -/
def countRates : List UInt8 → ℕ
  | [] => 0
  | b :: bs => countRates bs + if !(selects vhtPhy b || selects htPhy b) then 1 else 0

/-- `r/2 + 5.0 * (r%2)`. -/
def rateOf (b : UInt8) : ℚ :=
  let r := (b &&& 0x7f).toNat
  ((r / 2 : ℕ) : ℚ) + 5 * ((r % 2 : ℕ) : ℚ)

/-- The second pass over the rates. -/
def fillRates (p : ElementFields) : List UInt8 → ElementFields
  | [] => p
  | b :: bs =>
    if selects vhtPhy b then fillRates { p with isVht := true } bs
    else if selects htPhy b then fillRates { p with isHt := true } bs
    else fillRates { p with rates := p.rates ++ [rateOf b] } bs

/-- The loop over the triplets, of which the next one starts at `data[off]` and `len` bytes are left. -/
def triplets (off : ℕ) : ℕ → Decoder (List CountryType)
  | len + 3 => do
    let startingChannel ← data off
    let numberOfChannels ← data (off + 1)
    let maxTxPower ← data (off + 2)
    let rest ← triplets (off + 3) len
    pure (⟨.ofNat startingChannel.toNat, .ofNat numberOfChannels.toNat, .ofNat maxTxPower.toNat⟩ :: rest)
  | _ => pure []

/-- `(data[i + 1] << 8) + data[i]`. -/
def word (i : ℕ) : Decoder ℕ := do
  let high ← data (i + 1)
  let low ← data i
  pure (high.toNat <<< 8 + low.toNat)

/-- The body of the `switch` for an element with a given id and length.  Its second result says whether the
case ends in `continue`. -/
def elementCase (p : ElementFields) (id len : ℕ) : Decoder (ElementFields × Bool) :=
  match id with
  | 0 => do
    let ssid ← dataUpTo len
    pure ({ p with ssid := some (ssid ++ [0]) }, false)
  | 1 => do
    -- both passes read the same bytes
    let bytes ← dataUpTo len
    pure (fillRates { p with numRates := countRates bytes, rates := [] } bytes, false)
  | 3 => do
    let channel ← data 0
    pure ({ p with channel := channel.toNat }, false)
  | 5 => do
    let dtimCount ← data 0
    let dtimPeriod ← data 1
    pure ({ p with hasDtim := false, dtimCount := dtimCount.toNat, dtimPeriod := dtimPeriod.toNat }, false)
  | 6 => do
    let atimWindow ← word 0
    pure ({ p with ibssPs := true, atimWindow := atimWindow }, false)
  | 7 => do
    let c0 ← data 0
    let c1 ← data 1
    let environment ← data 2
    let p := { p with hasCountry := true, countryCode := (c0, c1), countryEnvironment := environment }
    if 3 < (len : ℤ) - 3 then
      let countryTriplets ← triplets 3 (len - 3)
      pure ({ p with numCountryTriplets := (len - 3) / 3, countryTriplets := countryTriplets }, false)
    else pure (p, false)
  | 11 => do
    let stationCount ← word 0
    let channelUtilization ← data 2
    let capacity ← word 3
    pure ({ p with
      hasBssLoad := true, stationCount := stationCount
      channelUtilization := channelUtilization.toNat, availAdmissionCapacity := capacity }, false)
  | 32 => do
    let powerconstraint ← data 0
    let linkMargin ← data 1
    pure ({ p with powerconstraint := powerconstraint.toNat, linkMargin := linkMargin.toNat }, false)
  | 35 => do
    let txPower ← data 0
    pure ({ p with txPower := txPower.toNat }, false)
  | 42 => do
    let flags ← data 0
    pure ({ p with
      hasErp := true, nonERPPresent := flags &&& 0x1 != 0
      useProtection := flags &&& 0x2 != 0, barkerPreambleMode := flags &&& 0x4 != 0 }, false)
  | 48 => do
    let version ← word 0
    let p := { p with hasRsn := true, rsnVersion := version }
    if (len : ℤ) - 2 < 4 then pure (p, true)
    else
      let o0 ← data 2
      let o1 ← data 3
      let o2 ← data 4
      let type ← data 5
      pure ({ p with rsnGroupCipherOui := ⟨o0, o1, o2⟩, rsnGroupCipherType := type.toNat }, false)
  -- the other cases only break
  | _ => pure (p, false)

/-- `max_IE`. -/
def maxIE : ℕ := 196

/-! ## The loop -/

/-- The variables of the loop, the offsets that were read and those at which an element was visited. -/
structure State where
  ie : ℕ
  ielen : ℤ
  fields : ElementFields
  reads : List ℕ
  visited : List ℕ

/-- The body of the loop. -/
def body (m : Memory) (s : State) : State :=
  let id := (m.byte s.ie).toNat
  let len := (m.byte (s.ie + 1)).toNat
  let cursor : Cursor := ⟨s.ie, s.reads ++ [s.ie, s.ie + 1]⟩
  let taken := if id < maxIE then elementCase s.fields id len m cursor else ((s.fields, false), cursor)
  let after : State :=
    { s with fields := taken.1.1, reads := taken.2.reads, visited := s.visited ++ [s.ie] }
  if taken.1.2 then after
  else { after with ielen := s.ielen - (len + 2), ie := s.ie + (len + 2) }

/-- The loop for at most `fuel` rounds, and whether it has ended by then.  Its guard reads `ie[1]`. -/
def loop (m : Memory) : ℕ → State → State × Bool
  | 0, s => (s, false)
  | fuel + 1, s =>
    if 2 ≤ s.ielen then
      let s := { s with reads := s.reads ++ [s.ie + 1] }
      if ((m.byte (s.ie + 1)).toNat : ℤ) ≤ s.ielen then loop m fuel (body m s) else (s, true)
    else (s, true)

/-- The state before the loop. -/
def start (fields : ElementFields) (ies : List UInt8) : State := ⟨0, ies.length, fields, [], []⟩

/-! ## What a case reads -/

/-- The number of bytes behind the header that the case of an element reads. -/
def extent (id len : ℕ) : ℕ :=
  match id with
  | 0 | 1 => len
  | 3 | 35 | 42 => 1
  | 5 | 6 | 32 => 2
  | 7 => if len ≤ 6 then 3 else 3 + 3 * ((len - 3) / 3)
  | 11 => 5
  | 48 => if len < 6 then 2 else 6
  | _ => 0

/-- An RSN element too short for a group cipher: its case ends in `continue`. -/
def ShortRsn (id len : ℕ) : Prop := id = 48 ∧ len < 6

instance (id len : ℕ) : Decidable (ShortRsn id len) := inferInstanceAs (Decidable (_ ∧ _))

variable {m : Memory} {c : Cursor} {p : ElementFields}

@[simp] lemma data_pos (i : ℕ) : (data i m c).2.pos = c.pos := rfl

@[simp] lemma data_reads (i : ℕ) : (data i m c).2.reads = c.reads ++ [c.pos + 2 + i] := rfl

@[simp] lemma data_val (i : ℕ) : (data i m c).1 = m.byte (c.pos + 2 + i) := rfl

@[simp] lemma dataUpTo_pos (n : ℕ) : (dataUpTo n m c).2.pos = c.pos := rfl

@[simp] lemma dataUpTo_reads (n : ℕ) : (dataUpTo n m c).2.reads = c.reads ++ List.range' (c.pos + 2) n := rfl

@[simp] lemma dataUpTo_val (n : ℕ) : (dataUpTo n m c).1 = m.slice (c.pos + 2) n := rfl

@[simp] lemma word_pos (i : ℕ) : (word i m c).2.pos = c.pos := rfl

@[simp] lemma word_reads (i : ℕ) :
    (word i m c).2.reads = c.reads ++ [c.pos + 2 + (i + 1)] ++ [c.pos + 2 + i] := rfl

lemma mem_reads_triplets (off len : ℕ) (c : Cursor) (o : ℕ) :
    o ∈ (triplets off len m c).2.reads ↔
      o ∈ c.reads ∨ c.pos + 2 + off ≤ o ∧ o < c.pos + 2 + off + 3 * (len / 3) := by
  fun_induction triplets off len generalizing c with
  | case1 off len ih =>
    simp only [Decoder.bind_apply, Decoder.pure_apply, ih, data_reads, data_pos, List.mem_append,
      List.mem_singleton, or_assoc]
    refine or_congr Iff.rfl ?_
    omega
  | case2 len off hlen =>
    have hlt : len < 3 := by
      by_contra hge
      exact hlen (len - 3) (by omega)
    simp only [Decoder.pure_apply]
    refine (or_iff_left ?_).symm
    omega

/-- A case reads the first bytes behind the header. -/
lemma mem_reads_elementCase (id len : ℕ) (o : ℕ) :
    o ∈ (elementCase p id len m c).2.reads ↔
      o ∈ c.reads ∨ c.pos + 2 ≤ o ∧ o < c.pos + 2 + extent id len := by
  unfold elementCase extent
  split
  case h_6 =>
    by_cases hlen : len ≤ 6
    · have hfew : ¬3 < (len : ℤ) - 3 := by omega
      simp only [if_neg hfew, if_pos hlen, Decoder.bind_apply, Decoder.pure_apply, data_reads, data_pos,
        List.mem_append, List.mem_singleton, or_assoc]
      refine or_congr Iff.rfl ?_
      omega
    · have hmany : 3 < (len : ℤ) - 3 := by omega
      simp only [if_pos hmany, if_neg hlen, Decoder.bind_apply, Decoder.pure_apply, mem_reads_triplets, data_reads,
        data_pos, List.mem_append, List.mem_singleton, or_assoc]
      refine or_congr Iff.rfl ?_
      omega
  case h_11 =>
    by_cases hlen : len < 6
    · have hshort : (len : ℤ) - 2 < 4 := by omega
      simp only [if_pos hshort, if_pos hlen, Decoder.bind_apply, Decoder.pure_apply, word_reads, List.mem_append,
        List.mem_singleton, or_assoc]
      refine or_congr Iff.rfl ?_
      omega
    · have hlong : ¬(len : ℤ) - 2 < 4 := by omega
      simp only [if_neg hlong, if_neg hlen, Decoder.bind_apply, Decoder.pure_apply, word_reads, word_pos, data_reads,
        data_pos, List.mem_append, List.mem_singleton, or_assoc]
      refine or_congr Iff.rfl ?_
      omega
  case h_12 =>
    simp only [Decoder.pure_apply]
    refine (or_iff_left ?_).symm
    omega
  all_goals
    simp only [Decoder.bind_apply, Decoder.pure_apply, dataUpTo_reads, word_reads, word_pos, data_reads, data_pos,
      List.mem_append, List.mem_singleton, List.mem_range'_1, or_assoc]
  all_goals
    refine or_congr Iff.rfl ?_
    omega

/-- Only the case of a short RSN element ends in `continue`. -/
lemma elementCase_continue (id len : ℕ) : (elementCase p id len m c).1.2 = true ↔ ShortRsn id len := by
  unfold elementCase ShortRsn
  split
  case h_6 =>
    simp only [Decoder.bind_apply]
    split
    · simp
    · simp
  case h_11 =>
    simp only [Decoder.bind_apply]
    by_cases hlen : len < 6
    · have hshort : (len : ℤ) - 2 < 4 := by omega
      simp [hshort, hlen]
    · have hlong : ¬(len : ℤ) - 2 < 4 := by omega
      simp [hlong, hlen]
  case h_12 =>
    rename_i hne
    exact iff_of_false (by simp) fun h => hne h.1
  all_goals simp

lemma elementCase_of_le {id len : ℕ} (h : maxIE ≤ id) : elementCase p id len m c = ((p, false), c) := by
  unfold maxIE at h
  unfold elementCase
  split
  case h_12 => rfl
  all_goals omega

/-! ## One round -/

/-- The id of the element at the pointer. -/
def State.id (m : Memory) (s : State) : ℕ := (m.byte s.ie).toNat

/-- The length of the element at the pointer. -/
def State.len (m : Memory) (s : State) : ℕ := (m.byte (s.ie + 1)).toNat

/-- The guard of the loop. -/
def State.Guard (m : Memory) (s : State) : Prop := 2 ≤ s.ielen ∧ (s.len m : ℤ) ≤ s.ielen

/-- The state behind the guard. -/
def State.guarded (s : State) : State :=
  if 2 ≤ s.ielen then { s with reads := s.reads ++ [s.ie + 1] } else s

variable {s : State}

lemma loop_succ_of_guard (h : s.Guard m) (fuel : ℕ) :
    loop m (fuel + 1) s = loop m fuel (body m s.guarded) := by
  rw [loop, State.guarded, if_pos h.1, if_pos h.1]
  exact if_pos h.2

lemma loop_succ_of_not_guard (h : ¬s.Guard m) (fuel : ℕ) : loop m (fuel + 1) s = (s.guarded, true) := by
  unfold loop State.guarded
  by_cases h2 : 2 ≤ s.ielen
  · rw [if_pos h2, if_pos h2]
    exact if_neg fun hlen => h ⟨h2, hlen⟩
  · rw [if_neg h2, if_neg h2]

/-- What a round does. -/
structure Round (m : Memory) (s s' : State) : Prop where
  visited : s'.visited = s.visited ++ [s.ie]
  ie : s'.ie = if ShortRsn (s.id m) (s.len m) then s.ie else s.ie + (2 + s.len m)
  rest : s'.ielen + s'.ie = s.ielen + s.ie
  mem_reads : ∀ o, o ∈ s'.reads ↔
    o ∈ s.reads ∨ s.ie ≤ o ∧ o < s.ie + 2 + extent (s.id m) (s.len m)

lemma round_body (h : s.Guard m) : Round m s (body m s.guarded) := by
  have hcase : ∀ c : Cursor, (if s.id m < maxIE then elementCase s.fields (s.id m) (s.len m) m c
      else ((s.fields, false), c)) = elementCase s.fields (s.id m) (s.len m) m c := by
    intro c
    split_ifs with hid
    · rfl
    · rw [elementCase_of_le (not_lt.mp hid)]
  have hguarded : s.guarded = { s with reads := s.reads ++ [s.ie + 1] } := if_pos h.1
  have hbody : body m s.guarded =
      let c : Cursor := ⟨s.ie, s.reads ++ [s.ie + 1] ++ [s.ie, s.ie + 1]⟩
      let taken := elementCase s.fields (s.id m) (s.len m) m c
      let after : State := ⟨s.ie, s.ielen, taken.1.1, taken.2.reads, s.visited ++ [s.ie]⟩
      if taken.1.2 then after
      else { after with ielen := s.ielen - (s.len m + 2), ie := s.ie + (s.len m + 2) } := by
    rw [hguarded]
    dsimp only
    rw [← hcase]
    rfl
  have hreads : ∀ o, o ∈ (elementCase s.fields (s.id m) (s.len m) m
      ⟨s.ie, s.reads ++ [s.ie + 1] ++ [s.ie, s.ie + 1]⟩).2.reads ↔
      o ∈ s.reads ∨ s.ie ≤ o ∧ o < s.ie + 2 + extent (s.id m) (s.len m) := by
    intro o
    rw [mem_reads_elementCase]
    simp only [List.mem_append, List.mem_cons, List.not_mem_nil, or_false, or_assoc]
    refine or_congr Iff.rfl ?_
    omega
  rw [hbody]
  dsimp only
  by_cases hshort : ShortRsn (s.id m) (s.len m)
  · rw [if_pos (elementCase_continue _ _ |>.mpr hshort)]
    exact ⟨rfl, (if_pos hshort).symm, rfl, hreads⟩
  · rw [if_neg (mt (elementCase_continue _ _).mp hshort)]
    refine ⟨rfl, ?_, ?_, hreads⟩
    · rw [if_neg hshort, Nat.add_comm 2]
    · push_cast
      ring

/-! ## The elements that are reached -/

/-- What there is at an element: its id, its length and the number of bytes behind its header. -/
structure Header where
  id : ℕ
  len : ℕ
  left : ℕ

/-- The elements that the loop reaches.  It ends where the guard says so, and it does not get past a short
RSN element. -/
def reached : List UInt8 → List Header
  | id :: len :: payload =>
    if len.toNat ≤ payload.length + 2 then
      ⟨id.toNat, len.toNat, payload.length⟩ ::
        if ShortRsn id.toNat len.toNat then [] else reached (payload.drop len.toNat)
    else []
  | _ => []
termination_by ies => ies.length
decreasing_by
  simp only [List.length_drop, List.length_cons]
  omega

/-- The pointer and the number of bytes left belong to the same place. -/
def State.At (ies : List UInt8) (s : State) : Prop := s.ielen = (ies.length : ℤ) - s.ie

/-- The state after a round is at the same place of the sequence or at the next element. -/
lemma Round.at {ies : List UInt8} {s' : State} (h : Round m s s') (hat : s.At ies) : s'.At ies := by
  have hrest := h.rest
  unfold State.At at hat ⊢
  omega

/-- An information element. -/
structure Element where
  id : UInt8
  payload : List UInt8
  short : payload.length < 256

/-- The bytes of an element. -/
def Element.bytes (e : Element) : List UInt8 := e.id :: UInt8.ofNat e.payload.length :: e.payload

/-- The bytes of a well-formed sequence of elements. -/
def elementBytes (es : List Element) : List UInt8 := es.flatMap Element.bytes

/-- The places of the elements of a sequence, of which the first one is at `off`. -/
def places : ℕ → List Element → List ℕ
  | _, [] => []
  | off, e :: es => off :: places (off + (2 + e.payload.length)) es

section Elements

variable {ies : List UInt8} (hm : m.Holds 0 ies)

include hm

lemma byte_eq {i : ℕ} (h : i < ies.length) : m.byte i = ies[i] := by
  have hget := congrArg (fun bs => bs[i]?) hm
  simp only [Memory.slice, List.getElem?_map, List.getElem?_range' h, Option.map_some, List.getElem?_eq_getElem h,
    Option.some.injEq] at hget
  simpa using hget

lemma drop_eq_cons {ie : ℕ} (h : ie + 2 ≤ ies.length) :
    ies.drop ie = m.byte ie :: m.byte (ie + 1) :: ies.drop (ie + 2) := by
  rw [List.drop_eq_getElem_cons (by omega), List.drop_eq_getElem_cons (i := ie + 1) (by omega),
    byte_eq hm (by omega), byte_eq hm (by omega)]

/-- Nothing is reached where the guard does not hold. -/
lemma reached_of_not_guard (hat : s.At ies) (h : ¬s.Guard m) :
    reached (ies.drop s.ie) = [] := by
  by_cases h2 : s.ie + 2 ≤ ies.length
  · rw [drop_eq_cons hm h2, reached, if_neg]
    intro hlen
    rw [List.length_drop] at hlen
    unfold State.Guard State.len at h
    unfold State.At at hat
    omega
  · have hlt : (ies.drop s.ie).length < 2 := by
      rw [List.length_drop]
      omega
    match hrest : ies.drop s.ie with
    | [] => rw [reached]; simp
    | [b] => rw [reached]; simp
    | b :: b' :: bs => simp [hrest] at hlt

/-- What is reached where the guard holds. -/
lemma reached_of_guard (hat : s.At ies) (h : s.Guard m) :
    reached (ies.drop s.ie) =
      ⟨s.id m, s.len m,
        ies.length - (s.ie + 2)⟩ ::
        if ShortRsn (s.id m) (s.len m) then []
        else reached (ies.drop (s.ie + (2 + s.len m))) := by
  obtain ⟨h2, hlen⟩ := h
  unfold State.At at hat
  have hin : s.ie + 2 ≤ ies.length := by omega
  rw [drop_eq_cons hm hin, reached, List.length_drop, List.drop_drop, Nat.add_assoc,
    if_pos]
  · rfl
  · unfold State.len at hlen
    omega

/-! ## Reads -/

/-- All that a case reads of an element is there. -/
def Header.Inside (h : Header) : Prop := extent h.id h.len ≤ h.left

/-- If every element that is reached is long enough then all reads are inside. -/
lemma reads_lt (fuel : ℕ) (hat : s.At ies) (hreads : ∀ o ∈ s.reads, o < ies.length)
    (hinside : ∀ h ∈ reached (ies.drop s.ie), h.Inside) :
    ∀ o ∈ (loop m fuel s).1.reads, o < ies.length := by
  induction fuel generalizing s with
  | zero => exact hreads
  | succ fuel ih =>
    by_cases hguard : s.Guard m
    · have hround := round_body hguard
      rw [reached_of_guard hm hat hguard, List.forall_mem_cons] at hinside
      obtain ⟨hthis, hothers⟩ := hinside
      rw [loop_succ_of_guard hguard]
      refine ih (hround.at hat) ?_ ?_
      · intro o ho
        rcases (hround.mem_reads o).mp ho with ho | ⟨-, ho⟩
        · exact hreads o ho
        · have h2 := hguard.1
          unfold State.At at hat
          unfold Header.Inside at hthis
          dsimp only at hthis
          omega
      · rw [hround.ie]
        split_ifs with hshort
        · rw [reached_of_guard hm hat hguard, List.forall_mem_cons]
          exact ⟨hthis, hothers⟩
        · rwa [if_neg hshort] at hothers
    · rw [loop_succ_of_not_guard hguard, State.guarded]
      split_ifs with h2
      · intro o ho
        rcases List.mem_append.mp ho with ho | ho
        · exact hreads o ho
        · obtain rfl := List.mem_singleton.mp ho
          unfold State.At at hat
          omega
      · exact hreads

/-- An element that is too short for its case is read beyond the end. -/
lemma exists_read_ge (hat : s.At ies) (hbad : ∃ h ∈ reached (ies.drop s.ie), ¬h.Inside) :
    ∃ fuel, ∃ o ∈ (loop m fuel s).1.reads, ies.length ≤ o := by
  induction hn : ies.length - s.ie using Nat.strong_induction_on generalizing s with
  | _ n ih =>
    obtain ⟨h, hmem, hout⟩ := hbad
    by_cases hguard : s.Guard m
    · have hround := round_body hguard
      have hleft := hguard.1
      rw [reached_of_guard hm hat hguard] at hmem
      rcases List.mem_cons.mp hmem with rfl | hmem
      · refine ⟨1, s.ie + 1 + extent (s.id m) (s.len m), ?_, ?_⟩
        · rw [loop_succ_of_guard hguard]
          exact (hround.mem_reads _).mpr (Or.inr (by omega))
        · unfold Header.Inside at hout
          dsimp only at hout
          omega
      · split_ifs at hmem with hshort
        · exact absurd hmem (List.not_mem_nil)
        · have hie := hround.ie
          rw [if_neg hshort] at hie
          unfold State.At at hat
          obtain ⟨fuel, o, ho, hge⟩ := ih _ (by omega) (hround.at hat) ⟨h, by rwa [hie], hout⟩ rfl
          refine ⟨fuel + 1, o, ?_, hge⟩
          rwa [loop_succ_of_guard hguard]
    · rw [reached_of_not_guard hm hat hguard] at hmem
      exact absurd hmem (List.not_mem_nil)

/-! ## The end of the loop -/

/-- The loop does not get past a short RSN element. -/
lemma not_finished (fuel : ℕ) (hat : s.At ies) (hbad : ∃ h ∈ reached (ies.drop s.ie), ShortRsn h.id h.len) :
    (loop m fuel s).2 = false := by
  induction fuel generalizing s with
  | zero => rfl
  | succ fuel ih =>
    by_cases hguard : s.Guard m
    · have hround := round_body hguard
      rw [loop_succ_of_guard hguard]
      refine ih (hround.at hat) ?_
      rw [hround.ie]
      split_ifs with hshort
      · exact hbad
      · obtain ⟨h, hmem, hrsn⟩ := hbad
        rw [reached_of_guard hm hat hguard, if_neg hshort] at hmem
        rcases List.mem_cons.mp hmem with rfl | hmem
        · exact absurd hrsn hshort
        · exact ⟨h, hmem, hrsn⟩
    · obtain ⟨h, hmem, -⟩ := hbad
      rw [reached_of_not_guard hm hat hguard] at hmem
      exact absurd hmem (List.not_mem_nil)

/-- The guard holds at an element of a sequence. -/
lemma guard_of_element {e : Element} {rest : List UInt8} (hat : s.At ies)
    (h : ies.drop s.ie = e.bytes ++ rest) :
    s.Guard m ∧ s.id m = e.id.toNat ∧ s.len m = e.payload.length := by
  have hlength := congrArg List.length h
  simp only [Element.bytes, List.length_drop, List.length_append, List.length_cons] at hlength
  rw [drop_eq_cons hm (by omega), Element.bytes, List.cons_append, List.cons_append] at h
  obtain ⟨hid, htail⟩ := List.cons.inj h
  have hlen : s.len m = e.payload.length := by
    rw [State.len, (List.cons.inj htail).1, UInt8.toNat_ofNat_of_lt' e.short]
  refine ⟨⟨?_, ?_⟩, ?_, hlen⟩
  · unfold State.At at hat
    omega
  · unfold State.At at hat
    omega
  · rw [State.id, hid]

/-- Without short RSN elements the loop ends, and it has visited the elements of a well-formed sequence one
after the other. -/
lemma exists_finished (hat : s.At ies) (hgood : ∀ h ∈ reached (ies.drop s.ie), ¬ShortRsn h.id h.len) :
    ∃ fuel, (loop m fuel s).2 = true ∧ ∀ es, ies.drop s.ie = elementBytes es →
      (loop m fuel s).1.visited = s.visited ++ places s.ie es := by
  induction hn : ies.length - s.ie using Nat.strong_induction_on generalizing s with
  | _ n ih =>
    by_cases hguard : s.Guard m
    · have hround := round_body hguard
      have hleft := hguard.1
      rw [reached_of_guard hm hat hguard, List.forall_mem_cons] at hgood
      obtain ⟨hshort, hgood⟩ := hgood
      have hie := hround.ie
      rw [if_neg hshort] at hie hgood
      have hlt : s.ie + 2 ≤ ies.length := by
        unfold State.At at hat
        omega
      obtain ⟨fuel, hend, hvisited⟩ := ih _ (by omega) (hround.at hat) (by rwa [hie]) rfl
      refine ⟨fuel + 1, ?_, fun es hes => ?_⟩
      · rwa [loop_succ_of_guard hguard]
      · rw [loop_succ_of_guard hguard]
        cases es with
        | nil =>
          have hlength := congrArg List.length hes
          simp only [elementBytes, List.flatMap_nil, List.length_drop, List.length_nil] at hlength
          omega
        | cons e es =>
          rw [elementBytes, List.flatMap_cons] at hes
          obtain ⟨-, -, hlen⟩ := guard_of_element hm hat hes
          have hrest : ies.drop (s.ie + (2 + s.len m)) = elementBytes es := by
            have hbytes : e.bytes.length = 2 + s.len m := by
              rw [Element.bytes, List.length_cons, List.length_cons, hlen]
              omega
            rw [← List.drop_drop, hes, ← hbytes, List.drop_left]
            rfl
          rw [hvisited es (by rw [hie, hrest]), hround.visited, hie, hlen, places, List.append_assoc,
            List.singleton_append]
    · refine ⟨1, by rw [loop_succ_of_not_guard hguard], fun es hes => ?_⟩
      cases es with
      | nil =>
        rw [loop_succ_of_not_guard hguard, places, List.append_nil, State.guarded]
        split_ifs with h2
        · rfl
        · rfl
      | cons e es =>
        rw [elementBytes, List.flatMap_cons] at hes
        exact absurd (guard_of_element hm hat hes).1 hguard

end Elements

/-! ## The loop on the elements of a BSS -/

section Handler

variable (fields : ElementFields) (ies : List UInt8) (beyond : ℕ → UInt8) (heap : ℕ → List UInt8)

lemma ofBytes_holds : (Memory.ofBytes ies beyond heap).Holds 0 ies := by
  simpa using Memory.ofBytes_holds ies [] beyond heap

lemma start_at : (start fields ies).At ies := by
  simp [start, State.At]

/-- The loop ends, and it visits the elements of a well-formed sequence each once and in order. -/
def VisitsEach : Prop :=
  ∃ fuel, (loop (.ofBytes ies beyond heap) fuel (start fields ies)).2 = true ∧
    ∀ es, ies = elementBytes es →
      (loop (.ofBytes ies beyond heap) fuel (start fields ies)).1.visited = places 0 es

/-- The loop ends, after visiting each element, exactly if no RSN element that it reaches is shorter than six
bytes. -/
theorem visitsEach_iff :
    VisitsEach fields ies beyond heap ↔ ∀ h ∈ reached ies, ¬ShortRsn h.id h.len := by
  have hm := ofBytes_holds ies beyond heap
  have hat := start_at fields ies
  constructor
  · rintro ⟨fuel, hend, -⟩
    by_contra hbad
    push Not at hbad
    rw [not_finished hm fuel hat hbad] at hend
    exact Bool.false_ne_true hend
  · exact exists_finished hm hat

/-- Every read is at an offset below the number of bytes. -/
def ReadsInside : Prop :=
  ∀ fuel, ∀ o ∈ (loop (.ofBytes ies beyond heap) fuel (start fields ies)).1.reads, o < ies.length

/-- The loop reads only bytes of the elements exactly if of each element that it reaches as many bytes are
there as its case reads. -/
theorem readsInside_iff : ReadsInside fields ies beyond heap ↔ ∀ h ∈ reached ies, h.Inside := by
  have hm := ofBytes_holds ies beyond heap
  have hat := start_at fields ies
  constructor
  · intro h
    by_contra hbad
    push Not at hbad
    obtain ⟨fuel, o, ho, hge⟩ := exists_read_ge hm hat hbad
    exact absurd (h fuel o ho) (not_lt.mpr hge)
  · intro hinside fuel
    exact reads_lt hm fuel hat (by simp [start]) hinside

end Handler

/-- An RSN element that ends after its version keeps the loop where it is. -/
theorem visitsEach_shortRsn :
    ¬∀ (fields : ElementFields) (ies : List UInt8) (beyond : ℕ → UInt8) (heap : ℕ → List UInt8),
      VisitsEach fields ies beyond heap := by
  intro h
  obtain ⟨fuel, hend, -⟩ := h {} [48, 2, 1, 0] (fun _ => 0) fun _ => []
  have hbad : ∃ h ∈ reached [48, 2, 1, 0], ShortRsn h.id h.len := ⟨⟨48, 2, 2⟩, by simp [reached], rfl, by decide⟩
  rw [not_finished (ofBytes_holds _ _ _) fuel (start_at _ _) hbad] at hend
  exact Bool.false_ne_true hend

/-- The case of a DS Parameter set without contents reads the byte behind it. -/
theorem readsInside_emptyDs :
    ¬∀ (fields : ElementFields) (ies : List UInt8) (beyond : ℕ → UInt8) (heap : ℕ → List UInt8),
      ReadsInside fields ies beyond heap := by
  intro h
  have hlt := h {} [3, 0] (fun _ => 0) (fun _ => []) 1 2 (by decide)
  exact absurd hlt (by decide)

end ScanHandler

end Ethanol
