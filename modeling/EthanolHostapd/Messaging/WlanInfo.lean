import EthanolHostapd.Messaging.Client

/-!
# Wireless interface information

`msg_wlan_info.c`.  The message carries an array of `struct wlan_entry`.  The decoder allocates the
array and fills entry `i` through the pointer `entry = &(*h)->entry[i]`, except for `channel_type` and
`width`, which it stores through `(*h)->entry`, the start of the array.  So these two fields of the
first entry are overwritten in every iteration, and those of all other entries keep what the
allocated block held before (`storeWlanEntries_channelType`).  The message survives the trip exactly
when it has at most one entry (`wlanInfo_roundTrip_iff`).
-/

namespace Ethanol

open Wire

/-- `struct wlan_entry`; the two enumerations are kept as the `int` they are transmitted as. -/
structure WlanEntry where
  ifindex : Int32
  intfName : Option CString
  wlanIndx : UInt32
  phyIndx : UInt32
  dev : UInt64
  macAddr : Option CString
  ssid : Option CString
  channelType : Int32
  width : Int32
  freq : UInt32
  freq1 : UInt32
  freq2 : UInt32
  iftype : Int32
  deriving DecidableEq, Inhabited

/-- `struct msg_wlan_info`. -/
structure MsgWlanInfo where
  mType : Int32
  mId : Int32
  pVersion : Option CString
  mSize : Int32
  staIp : Option CString
  staPort : Int32
  numEntries : UInt32
  entry : List WlanEntry
  deriving DecidableEq

/-! ## Size and encoder -/

/-- What the loop of `message_size_wlan_info` adds for one entry, if `str` is what it adds for a
string. -/
def wlanEntrySize (str : Option CString → ℤ) (e : WlanEntry) : ℤ :=
  4 + str e.intfName + -- ifindex
  4 + 4 + 8 + -- wlan_indx, phy_indx, dev
  str e.macAddr + str e.ssid +
  4 + 4 + 4 + 4 + 4 + 4 -- channel_type, width, freq, freq1, freq2, iftype

/-- The sum that `message_size_wlan_info` forms, in unbounded integers. -/
def wlanInfoSize (str : Option CString → ℤ) (h : MsgWlanInfo) : ℤ :=
  4 + 4 + str h.pVersion + 4 + str h.staIp + 4 + 4 +
  ((h.entry.take h.numEntries.toNat).map (wlanEntrySize str)).sum

/-- `message_size_wlan_info`. -/
def messageSizeWlanInfo (h : MsgWlanInfo) : Int32 :=
  Int32.ofInt (wlanInfoSize (fun s => (strlenEthanol s).toInt) h)

/-- The body of the loop of `encode_msg_wlan_info`. -/
def encodeWlanEntry (aux : Out) (e : WlanEntry) : Out :=
  let aux := encodeInt aux e.ifindex
  let aux := encodeChar aux e.intfName
  let aux := encodeUint aux e.wlanIndx
  let aux := encodeUint aux e.phyIndx
  let aux := encodeU2long aux e.dev
  let aux := encodeChar aux e.macAddr
  let aux := encodeChar aux e.ssid
  let aux := encodeInt aux e.channelType
  let aux := encodeInt aux e.width
  let aux := encodeUint aux e.freq
  let aux := encodeUint aux e.freq1
  let aux := encodeUint aux e.freq2
  encodeInt aux e.iftype

/-- `encode_msg_wlan_info`. -/
def encodeMsgWlanInfo (h : MsgWlanInfo) : Encoded :=
  let bufLen := messageSizeWlanInfo h
  let aux := Out.ofBytes []
  let aux := encodeHeader aux h.mType h.mId bufLen -- h->m_size = *buf_len
  let aux := encodeChar aux h.staIp
  let aux := encodeInt aux h.staPort
  let aux := encodeUint aux h.numEntries
  ⟨bufLen, Out.each encodeWlanEntry h.numEntries.toNat h.entry aux⟩

/-! ## Decoder -/

/-- The stores of iteration `i` of the loop of `decode_msg_wlan_info`, for the values `e` read from
the buffer: `channel_type` and `width` go to entry `0`, everything else to entry `i`. -/
def storeWlanEntry (i : ℕ) (e : WlanEntry) (entry : List WlanEntry) : List WlanEntry :=
  let entry := entry.modify i fun x =>
    { x with
      ifindex := e.ifindex, intfName := e.intfName, wlanIndx := e.wlanIndx, phyIndx := e.phyIndx,
      dev := e.dev, macAddr := e.macAddr, ssid := e.ssid }
  let entry := entry.modify 0 fun x => { x with channelType := e.channelType, width := e.width }
  entry.modify i fun x =>
    { x with freq := e.freq, freq1 := e.freq1, freq2 := e.freq2, iftype := e.iftype }

/-- Iteration `i` of the loop of `decode_msg_wlan_info`. -/
def decodeWlanEntry (i : ℕ) (entry : List WlanEntry) : Decoder (List WlanEntry) := do
  let ifindex ← decodeInt
  let intfName ← decodeChar
  let wlanIndx ← decodeUint
  let phyIndx ← decodeUint
  let dev ← decodeU2long
  let macAddr ← decodeChar
  let ssid ← decodeChar
  let channelType ← decodeInt
  let width ← decodeInt
  let freq ← decodeUint
  let freq1 ← decodeUint
  let freq2 ← decodeUint
  let iftype ← decodeInt
  pure (storeWlanEntry i {
    ifindex, intfName, wlanIndx, phyIndx, dev, macAddr, ssid, channelType, width, freq, freq1,
    freq2, iftype } entry)

/-- The loop of `decode_msg_wlan_info`, with the number of iterations left. -/
def decodeWlanEntries : ℕ → ℕ → List WlanEntry → Decoder (List WlanEntry)
  | 0, _, entry => pure entry
  | k + 1, i, entry => do
    let entry ← decodeWlanEntry i entry
    decodeWlanEntries k (i + 1) entry

/-- `decode_msg_wlan_info`; `fresh` is what the block allocated for the array holds at first. -/
def decodeMsgWlanInfo (fresh : ℕ → WlanEntry) : Decoder MsgWlanInfo := do
  let header ← decodeHeader
  let staIp ← decodeChar
  let staPort ← decodeInt
  let numEntries ← decodeUint
  let entry ← decodeWlanEntries numEntries.toNat 0 ((List.range numEntries.toNat).map fresh)
  pure {
    mType := header.mType, mId := header.mId, pVersion := header.mVersion, mSize := header.mSize,
    staIp, staPort, numEntries, entry }

/-! ## Layout on the wire -/

namespace WlanEntry

/-- The strings have representable lengths. -/
structure WellFormed (e : WlanEntry) : Prop where
  intfName : StrFits e.intfName
  macAddr : StrFits e.macAddr
  ssid : StrFits e.ssid

/-- The entry with empty strings replaced by `NULL`. -/
def arrived (e : WlanEntry) : WlanEntry :=
  { e with
    intfName := nullIfEmpty e.intfName
    macAddr := nullIfEmpty e.macAddr
    ssid := nullIfEmpty e.ssid }

/-- The wire image of an entry. -/
def bytes (e : WlanEntry) : List UInt8 :=
  [Scalar.toBytes e.ifindex, charBytes e.intfName, Scalar.toBytes e.wlanIndx,
    Scalar.toBytes e.phyIndx, Scalar.toBytes e.dev, charBytes e.macAddr, charBytes e.ssid,
    Scalar.toBytes e.channelType, Scalar.toBytes e.width, Scalar.toBytes e.freq,
    Scalar.toBytes e.freq1, Scalar.toBytes e.freq2, Scalar.toBytes e.iftype].flatten

lemma encode_ofBytes {e : WlanEntry} (he : e.WellFormed) (bs : List UInt8) :
    encodeWlanEntry (Out.ofBytes bs) e = Out.ofBytes (bs ++ e.bytes) := by
  simp only [encodeWlanEntry, Out.ofBytes_scalar, encodeChar_ofBytes he.intfName,
    encodeChar_ofBytes he.macAddr, encodeChar_ofBytes he.ssid]
  simp [bytes]

lemma decodes {e : WlanEntry} (he : e.WellFormed) (i : ℕ) (entry : List WlanEntry) :
    Decodes (decodeWlanEntry i entry) e.bytes (storeWlanEntry i e.arrived entry) := by
  unfold decodeWlanEntry bytes
  refine (Decodes.scalar _).cons ?_
  refine (decodes_char he.intfName).cons ?_
  iterate 3 refine (Decodes.scalar _).cons ?_
  refine (decodes_char he.macAddr).cons ?_
  refine (decodes_char he.ssid).cons ?_
  iterate 6 refine (Decodes.scalar _).cons ?_
  exact Decodes.pure _

/-- An entry is written in the bytes counted for it, less one for each missing or empty string. -/
lemma length_bytes (e : WlanEntry) :
    (e.bytes.length : ℤ) + (strSlack e.intfName + strSlack e.macAddr + strSlack e.ssid : ℕ) =
      wlanEntrySize strSize e := by
  have hname := length_charBytes e.intfName
  have hmac := length_charBytes e.macAddr
  have hssid := length_charBytes e.ssid
  simp only [wlanEntrySize, strSize]
  simp only [bytes, List.flatten_cons, List.flatten_nil, List.length_append, List.length_nil,
    Scalar.length_toBytes, Scalar.width_int32, Scalar.width_uint32, Scalar.width_uint64]
  omega

/-- The strings of an entry with a representable size have representable lengths. -/
lemma wellFormed_of_size_lt {e : WlanEntry} (hsize : wlanEntrySize strSize e < 2 ^ 31) :
    e.WellFormed := by
  have hname := strSize_nonneg e.intfName
  have hmac := strSize_nonneg e.macAddr
  have hssid := strSize_nonneg e.ssid
  unfold wlanEntrySize at hsize
  constructor
  all_goals
    refine strFits_of_strSize_le ?_ hsize
    omega

/-- Long strings change what is counted for an entry by a multiple of `2 ^ 32`. -/
lemma size_modEq (e : WlanEntry) :
    wlanEntrySize (fun s => (strlenEthanol s).toInt) e ≡ wlanEntrySize strSize e [ZMOD 2 ^ 32] := by
  unfold wlanEntrySize
  gcongr <;> apply strlenEthanol_modEq

/-- The strings of an entry that fits as it arrives have representable lengths. -/
lemma wellFormed_of_arrived {e : WlanEntry} (he : e.arrived.WellFormed) : e.WellFormed :=
  ⟨strFits_of_nullIfEmpty he.intfName, strFits_of_nullIfEmpty he.macAddr,
    strFits_of_nullIfEmpty he.ssid⟩

end WlanEntry

/-- The effect of the loop on the array, for the entries `es` read from the buffer. -/
def storeWlanEntries : ℕ → List WlanEntry → List WlanEntry → List WlanEntry
  | _, [], entry => entry
  | i, e :: es, entry => storeWlanEntries (i + 1) es (storeWlanEntry i e entry)

lemma decodes_wlanEntries {es : List WlanEntry} (hes : ∀ e ∈ es, e.WellFormed) (i : ℕ)
    (entry : List WlanEntry) :
    Decodes (decodeWlanEntries es.length i entry) (es.flatMap WlanEntry.bytes)
      (storeWlanEntries i (es.map WlanEntry.arrived) entry) := by
  induction es generalizing i entry with
  | nil => exact Decodes.pure _
  | cons e es ih =>
    have he := hes e List.mem_cons_self
    have hes' : ∀ x ∈ es, x.WellFormed := fun x hx => hes x (List.mem_cons_of_mem e hx)
    exact (WlanEntry.decodes he i entry).bind (ih hes' (i + 1) _)

/-- One iteration leaves the `channel_type` of every entry but the first as it was. -/
lemma storeWlanEntry_channelType (i : ℕ) (e : WlanEntry) (entry : List WlanEntry) {j : ℕ}
    (hj : j ≠ 0) :
    (storeWlanEntry i e entry)[j]?.map WlanEntry.channelType =
      entry[j]?.map WlanEntry.channelType := by
  simp only [storeWlanEntry, List.getElem?_modify]
  rcases entry[j]? with _ | x
  · simp
  · by_cases hij : i = j <;> simp [hij, hj.symm]

/-- The loop leaves the `channel_type` of every entry but the first as it was. -/
lemma storeWlanEntries_channelType (i : ℕ) (es entry : List WlanEntry) {j : ℕ} (hj : j ≠ 0) :
    (storeWlanEntries i es entry)[j]?.map WlanEntry.channelType =
      entry[j]?.map WlanEntry.channelType := by
  induction es generalizing i entry with
  | nil => rfl
  | cons e es ih => rw [storeWlanEntries, ih, storeWlanEntry_channelType i e entry hj]

namespace MsgWlanInfo

/-- The count matches the array, and the strings have representable lengths. -/
structure WellFormed (h : MsgWlanInfo) : Prop where
  staIp : StrFits h.staIp
  count : UCounts h.numEntries h.entry
  entries : ∀ e ∈ h.entry, e.WellFormed

/-- The message as it should arrive: `m_size` is set by the encoder, and empty strings are `NULL`. -/
def arrived (h : MsgWlanInfo) : MsgWlanInfo :=
  { h with
    mSize := messageSizeWlanInfo h
    staIp := nullIfEmpty h.staIp
    entry := h.entry.map WlanEntry.arrived }

/-- The message that `decode_msg_wlan_info` makes of the encoded one. -/
def decoded (h : MsgWlanInfo) (fresh : ℕ → WlanEntry) : MsgWlanInfo :=
  { h.arrived with
    pVersion := some ethanolVersion
    entry := storeWlanEntries 0 h.arrived.entry ((List.range h.entry.length).map fresh) }

/-- The wire image of a message. -/
def bytes (h : MsgWlanInfo) : List UInt8 :=
  [headerBytes h.mType h.mId (messageSizeWlanInfo h), charBytes h.staIp, Scalar.toBytes h.staPort,
    Scalar.toBytes h.numEntries, h.entry.flatMap WlanEntry.bytes].flatten

lemma encode_eq {h : MsgWlanInfo} (hh : h.WellFormed) :
    encodeMsgWlanInfo h = ⟨messageSizeWlanInfo h, Out.ofBytes h.bytes⟩ := by
  have hentries := Out.each_ofBytes (f := encodeWlanEntry) h.numEntries.toNat h.entry
    fun e he => WlanEntry.encode_ofBytes (hh.entries e (List.mem_of_mem_take he))
  simp only [encodeMsgWlanInfo, encodeHeader_ofBytes, encodeChar_ofBytes hh.staIp,
    Out.ofBytes_scalar, hentries, hh.count.take_eq]
  simp [bytes]

lemma decodes {h : MsgWlanInfo} (hh : h.WellFormed) (fresh : ℕ → WlanEntry) :
    Decodes (decodeMsgWlanInfo fresh) h.bytes (h.decoded fresh) := by
  have hentries := decodes_wlanEntries hh.entries 0 ((List.range h.entry.length).map fresh)
  rw [← hh.count] at hentries
  unfold decodeMsgWlanInfo bytes
  refine (decodes_header _ _ _).cons ?_
  refine (decodes_char hh.staIp).cons ?_
  refine (Decodes.scalar h.staPort).cons ?_
  refine (Decodes.scalar h.numEntries).cons ?_
  refine hentries.cons ?_
  rw [hh.count]
  exact Decodes.pure _

/-- A message of this version is written in the bytes counted for it, less at most one for each
string. -/
lemma length_bytes {h : MsgWlanInfo} (hcount : UCounts h.numEntries h.entry)
    (hv : h.pVersion = some ethanolVersion) :
    (h.bytes.length : ℤ) ≤ wlanInfoSize strSize h ∧
      wlanInfoSize strSize h ≤ h.bytes.length + (1 + h.entry.length * 3) := by
  have hsta := length_charBytes h.staIp
  have hslack := strSlack_le_one h.staIp
  have hle := Out.length_flatMap_add_le_sum WlanEntry.bytes (wlanEntrySize strSize) 0 h.entry
    fun e _ => by
      have := e.length_bytes
      omega
  have hge := Out.sum_le_length_flatMap_add WlanEntry.bytes (wlanEntrySize strSize) 3 h.entry
    fun e _ => by
      have := e.length_bytes
      have := strSlack_le_one e.intfName
      have := strSlack_le_one e.macAddr
      have := strSlack_le_one e.ssid
      omega
  simp only [wlanInfoSize, hv, strSize, strLen_ethanolVersion, hcount.take_eq]
  simp only [bytes, List.flatten_cons, List.flatten_nil, List.length_append, List.length_nil,
    length_headerBytes, Scalar.length_toBytes, Scalar.width_int32, Scalar.width_uint32]
  omega

/-- The strings of a message with a representable size have representable lengths. -/
lemma wellFormed_of_size_lt {h : MsgWlanInfo} (hcount : UCounts h.numEntries h.entry)
    (hsize : wlanInfoSize strSize h < 2 ^ 31) : h.WellFormed := by
  have hnonneg : ∀ e ∈ h.entry, 0 ≤ wlanEntrySize strSize e := fun e _ => by
    have := e.length_bytes
    omega
  have hsum : 0 ≤ (h.entry.map (wlanEntrySize strSize)).sum :=
    List.sum_nonneg (by simpa using hnonneg)
  have hversion := strSize_nonneg h.pVersion
  have hsta := strSize_nonneg h.staIp
  rw [wlanInfoSize, hcount.take_eq] at hsize
  refine ⟨strFits_of_strSize_le ?_ hsize, hcount, fun e he => ?_⟩
  · omega
  · have := le_sum_map hnonneg he
    exact WlanEntry.wellFormed_of_size_lt (by omega)

/-- The size is the sum, with strings counted in full, reduced to an `int`. -/
lemma size_eq (h : MsgWlanInfo) : messageSizeWlanInfo h = Int32.ofInt (wlanInfoSize strSize h) := by
  apply ofInt_eq_of_modEq
  unfold wlanInfoSize
  gcongr
  · apply strlenEthanol_modEq
  · apply strlenEthanol_modEq
  · exact sum_map_modEq WlanEntry.size_modEq _

/-- With at most one entry, the loop writes every field of it. -/
lemma decoded_of_length_le_one {h : MsgWlanInfo} (hv : h.pVersion = some ethanolVersion)
    (hn : h.entry.length ≤ 1) (fresh : ℕ → WlanEntry) : h.decoded fresh = h.arrived := by
  obtain ⟨mType, mId, pVersion, mSize, staIp, staPort, numEntries, entry⟩ := h
  obtain rfl : pVersion = some ethanolVersion := hv
  rcases entry with _ | ⟨e, _ | ⟨e', es⟩⟩
  · rfl
  · rfl
  · simp at hn

/-- With two or more entries, the second one keeps an uninitialised `channel_type`. -/
lemma exists_decoded_ne {h : MsgWlanInfo} (hn : ¬ h.entry.length ≤ 1) :
    ∃ fresh, h.decoded fresh ≠ h.arrived := by
  have hlt : 1 < h.entry.length := not_le.mp hn
  refine ⟨fun _ => { (default : WlanEntry) with channelType := h.entry[1].channelType + 1 }, ?_⟩
  intro heq
  have hentry := congrArg (fun g => g.entry[1]?.map WlanEntry.channelType) heq
  simp only [decoded, storeWlanEntries_channelType 0 _ _ one_ne_zero] at hentry
  simp [arrived, hlt, WlanEntry.arrived] at hentry

end MsgWlanInfo

/-! ## Strings of a decoded message -/

lemma forall_mem_modify {α : Type} {P : α → Prop} {l : List α} (hl : ∀ x ∈ l, P x) {f : α → α}
    (hf : ∀ x, P x → P (f x)) (i : ℕ) : ∀ x ∈ l.modify i f, P x := by
  intro x hx
  obtain ⟨j, hj⟩ := List.mem_iff_getElem?.mp hx
  rw [List.getElem?_modify] at hj
  obtain ⟨y, hy, rfl⟩ := Option.map_eq_some_iff.mp hj
  have hP := hl y (List.mem_of_getElem? hy)
  split
  · exact hf y hP
  · exact hP

lemma storeWlanEntry_wellFormed {e : WlanEntry} (he : e.WellFormed) {entry : List WlanEntry}
    (hentry : ∀ x ∈ entry, x.WellFormed) (i : ℕ) :
    ∀ x ∈ storeWlanEntry i e entry, x.WellFormed := by
  unfold storeWlanEntry
  refine forall_mem_modify (forall_mem_modify (forall_mem_modify hentry ?_ i) ?_ 0) ?_ i
  · exact fun _ _ => ⟨he.intfName, he.macAddr, he.ssid⟩
  · exact fun _ hx => ⟨hx.intfName, hx.macAddr, hx.ssid⟩
  · exact fun _ hx => ⟨hx.intfName, hx.macAddr, hx.ssid⟩

section Received

variable {wire : List UInt8} (hwire : wire.length < 2 ^ 31)

include hwire

/-- One iteration stores strings that fit. -/
lemma ensures_decodeWlanEntry {entry : List WlanEntry} (hentry : ∀ x ∈ entry, x.WellFormed)
    (i : ℕ) :
    Ensures (Memory.ofBytes wire (fun _ => 0) (fun _ => [])) (decodeWlanEntry i entry)
      fun entry => ∀ x ∈ entry, x.WellFormed := by
  unfold decodeWlanEntry
  refine Ensures.bind_any fun _ => (ensures_decodeChar hwire).bind fun _ hname => ?_
  iterate 3 refine Ensures.bind_any fun _ => ?_
  refine (ensures_decodeChar hwire).bind fun _ hmac => ?_
  refine (ensures_decodeChar hwire).bind fun _ hssid => ?_
  iterate 6 refine Ensures.bind_any fun _ => ?_
  exact Ensures.pure (storeWlanEntry_wellFormed ⟨hname, hmac, hssid⟩ hentry i)

/-- So does the loop. -/
lemma ensures_decodeWlanEntries (k i : ℕ) {entry : List WlanEntry}
    (hentry : ∀ x ∈ entry, x.WellFormed) :
    Ensures (Memory.ofBytes wire (fun _ => 0) (fun _ => [])) (decodeWlanEntries k i entry)
      fun entry => ∀ x ∈ entry, x.WellFormed := by
  induction k generalizing i entry with
  | zero => exact Ensures.pure hentry
  | succ k ih =>
    exact (ensures_decodeWlanEntry hwire hentry i).bind fun entry hentry => ih (i + 1) hentry

/-- All strings of a message that is decoded from a message of representable length fit. -/
lemma ensures_decodeMsgWlanInfo :
    Ensures (Memory.ofBytes wire (fun _ => 0) (fun _ => [])) (decodeMsgWlanInfo default)
      fun h => StrFits h.staIp ∧ ∀ e ∈ h.entry, e.WellFormed := by
  have hfresh (n : ℕ) : ∀ x ∈ (List.range n).map (default : ℕ → WlanEntry), x.WellFormed := by
    intro x hx
    obtain ⟨i, -, rfl⟩ := List.mem_map.mp hx
    exact ⟨strFits_none, strFits_none, strFits_none⟩
  unfold decodeMsgWlanInfo
  refine Ensures.bind_any fun _ => (ensures_decodeChar hwire).bind fun staIp hsta => ?_
  refine Ensures.bind_any fun _ => Ensures.bind_any fun numEntries => ?_
  refine (ensures_decodeWlanEntries hwire _ 0 (hfresh numEntries.toNat)).bind fun entry hentry => ?_
  exact Ensures.pure ⟨hsta, hentry⟩

end Received

namespace MsgWlanInfo

/-- The strings of a message that survives the trip have representable lengths: what arrives is no
longer than the buffer. -/
lemma wellFormed_of_received {h : MsgWlanInfo} (hcount : UCounts h.numEntries h.entry)
    {junk : ℕ → UInt8}
    (hrt : (encodeMsgWlanInfo h).received (decodeMsgWlanInfo default) junk (fun _ => 0)
      (fun _ => []) = some h.arrived) : h.WellFormed := by
  obtain ⟨wire, hwire, hdec⟩ := Option.map_eq_some_iff.mp hrt
  have hstrings := ensures_decodeMsgWlanInfo (Encoded.length_transmitted_lt hwire) Cursor.start
  rw [hdec] at hstrings
  obtain ⟨hsta, hentries⟩ := hstrings
  refine ⟨strFits_of_nullIfEmpty hsta, hcount, fun e he => ?_⟩
  exact WlanEntry.wellFormed_of_arrived (hentries _ (List.mem_map_of_mem he))

end MsgWlanInfo

/-- The message that is decoded is the message that was encoded, whatever the allocated array held,
exactly when there is at most one entry (and the version and the size can be transmitted). -/
theorem wlanInfo_roundTrip_iff (h : MsgWlanInfo) (hcount : UCounts h.numEntries h.entry) :
    (∀ fresh junk beyond heap,
      (encodeMsgWlanInfo h).received (decodeMsgWlanInfo fresh) junk beyond heap =
        some h.arrived) ↔
      h.entry.length ≤ 1 ∧ h.pVersion = some ethanolVersion ∧ wlanInfoSize strSize h < 2 ^ 31 := by
  constructor
  · intro hrt
    have hh := MsgWlanInfo.wellFormed_of_received hcount (hrt default default _ _)
    rw [MsgWlanInfo.encode_eq hh] at hrt
    have hin : (⟨messageSizeWlanInfo h, Out.ofBytes h.bytes⟩ : Encoded).InBuffer := by
      by_contra hout
      have := hrt default default default default
      rw [Encoded.received_eq_none hout] at this
      cases this
    have hdec (fresh) : h.decoded fresh = h.arrived := by
      have := hrt fresh default default default
      rw [Encoded.received_eq (MsgWlanInfo.decodes hh fresh) hin] at this
      exact Option.some.inj this
    have hn : h.entry.length ≤ 1 := by
      by_contra hn
      obtain ⟨fresh, hne⟩ := MsgWlanInfo.exists_decoded_ne hn
      exact hne (hdec fresh)
    have hv : h.pVersion = some ethanolVersion := (congrArg MsgWlanInfo.pVersion (hdec default)).symm
    obtain ⟨hle, hge⟩ := MsgWlanInfo.length_bytes hcount hv
    rw [MsgWlanInfo.size_eq] at hin
    exact ⟨hn, hv, ((Encoded.inBuffer_iff (by omega) (by omega)).mp hin).2⟩
  · rintro ⟨hn, hv, hsize⟩ fresh junk beyond heap
    have hh := MsgWlanInfo.wellFormed_of_size_lt hcount hsize
    have hin := Encoded.inBuffer_of_le (MsgWlanInfo.length_bytes hcount hv).1 hsize
    have hdec := MsgWlanInfo.decodes hh fresh
    rw [MsgWlanInfo.decoded_of_length_le_one hv hn] at hdec
    rw [MsgWlanInfo.encode_eq hh, MsgWlanInfo.size_eq]
    exact Encoded.received_eq hdec hin junk beyond heap

/-- A message with one entry for each of the given channel types. -/
def wlansOfTypes (types : List Int32) : MsgWlanInfo where
  mType := EnumMsgType.msgWlanInfo.code
  mId := 7
  pVersion := some ethanolVersion
  mSize := 0
  staIp := none
  staPort := 0
  numEntries := UInt32.ofNat types.length
  entry := types.map fun t => { (default : WlanEntry) with channelType := t }

lemma wlansOfTypes_counted {types : List Int32} (h : types.length < 2 ^ 32) :
    UCounts (wlansOfTypes types).numEntries (wlansOfTypes types).entry := by
  rw [UCounts, wlansOfTypes, List.length_map]
  exact UInt32.toNat_ofNat_of_lt h

theorem wlanInfo_roundTrip_one :
    wlanInfoSize strSize (wlansOfTypes [3]) < 2 ^ 31 ∧ ∀ fresh junk beyond heap,
      (encodeMsgWlanInfo (wlansOfTypes [3])).received (decodeMsgWlanInfo fresh) junk beyond heap =
        some (wlansOfTypes [3]).arrived := by
  have hsize : wlanInfoSize strSize (wlansOfTypes [3]) < 2 ^ 31 := by decide
  have hcount := wlansOfTypes_counted (by decide : ([3] : List Int32).length < 2 ^ 32)
  exact ⟨hsize, (wlanInfo_roundTrip_iff (wlansOfTypes [3]) hcount).mpr ⟨by decide, rfl, hsize⟩⟩

/-- Of two interfaces with different channel types, the first arrives with the type of the second,
whatever the array held. -/
theorem wlanInfo_roundTrip_two :
    wlanInfoSize strSize (wlansOfTypes [0, 1]) < 2 ^ 31 ∧ ∀ fresh junk beyond heap,
      (encodeMsgWlanInfo (wlansOfTypes [0, 1])).received (decodeMsgWlanInfo fresh) junk beyond heap ≠
        some (wlansOfTypes [0, 1]).arrived := by
  have hsize : wlanInfoSize strSize (wlansOfTypes [0, 1]) < 2 ^ 31 := by decide
  refine ⟨hsize, fun fresh junk beyond heap => ?_⟩
  have hcount := wlansOfTypes_counted (by decide : ([0, 1] : List Int32).length < 2 ^ 32)
  have hh := MsgWlanInfo.wellFormed_of_size_lt hcount hsize
  have hin := Encoded.inBuffer_of_le (MsgWlanInfo.length_bytes hcount rfl).1 hsize
  rw [← MsgWlanInfo.size_eq] at hin
  rw [MsgWlanInfo.encode_eq hh, Encoded.received_eq (MsgWlanInfo.decodes hh fresh) hin]
  intro heq
  have hfirst : (1 : Int32) = 0 :=
    Option.some.inj (congrArg (fun g => g.bind fun m => m.entry[0]?.map WlanEntry.channelType) heq)
  exact absurd hfirst (by decide)

/-! ## Client and server -/

/-- The functions that hostapd registers for `get_entry`; a function that is not registered is a
`NULL` pointer. -/
structure WlanHooks where
  getWiphy : Option (CString → Int32)
  getPhy : Option (UInt32 → Int32)
  getSsid : Option (UInt32 → Int32 → Option CString)
  getCurrentFrequency : Option (UInt32 → Int32)
  getSecondaryCh : Option (UInt32 → Int32)
  getMac : Option (UInt32 → Option CString)
  getVhtChannelWidth : Option (UInt32 → Int32)

/-- Where `get_entry` takes an entry from, in the two builds of the program. -/
inductive WlanSource
  /-- The hooks of hostapd, and the `ifindex` of the entry, which nothing sets. -/
  | accessPoint (hooks : WlanHooks) (uninit : Int32)
  /-- `get_wlan_info`, compiled with `PROCESS_STATION`. -/
  | station (getWlanInfo : Option CString → Option WlanEntry)

/-- The entry that `get_entry` collects for a name; `none` is a `NULL` pointer that is followed: a missing
name or `get_wiphy` on an access point, the result of `get_wlan_info` on a station. -/
def WlanSource.entry : WlanSource → Option CString → Option WlanEntry
  | accessPoint hooks uninit, intfName => do
    let intfName ← intfName
    let w ← hooks.getWiphy
    let wlanIndx := (w intfName).toUInt32
    let freq := ((hooks.getCurrentFrequency.map (· wlanIndx)).getD (-1)).toUInt32
    pure {
      ifindex := uninit
      intfName := some intfName
      wlanIndx
      phyIndx := ((hooks.getPhy.map (· wlanIndx)).getD (-1)).toUInt32
      dev := -1
      macAddr := hooks.getMac.bind (· wlanIndx)
      ssid := hooks.getSsid.bind (· wlanIndx 0)
      channelType := -1
      width := (hooks.getVhtChannelWidth.map (· wlanIndx)).getD (-1)
      freq
      freq1 := freq
      freq2 := ((hooks.getSecondaryCh.map (· wlanIndx)).getD (-1)).toUInt32
      iftype := 3 } -- NL80211_IFTYPE_AP
  | station getWlanInfo, intfName => getWlanInfo intfName

/-- The surroundings of `process_msg_wlan_info`. -/
structure WlanInfoEnv where
  /-- The stations. -/
  net : Network
  /-- Where the entries come from. -/
  source : WlanSource
  /-- The names in the list that `get_list_wlans` returns. -/
  listOfWlans : List CString
  /-- What the arrays of entries hold when they are allocated: that of the request, that of the
  reply, that of a relayed request and that of the station's answer. -/
  fresh : Fin 4 → ℕ → WlanEntry

/-- `get_entry`: fill an entry, whose name is already there. -/
def getEntry (env : WlanInfoEnv) (hEntry : WlanEntry) : Option WlanEntry :=
  (env.source.entry hEntry.intfName).map fun entry => { entry with intfName := hEntry.intfName }

/-- `send_msg_get_wlan_info`.  After the request has been written, `h.entry[0].intf_name` is released;
without an interface name `h.entry` is `NULL` there, which is the outer `none`. -/
def sendMsgGetWlanInfo (env : WlanInfoEnv) (hostname : CString) (portnum id : Int32)
    (intfName staIp : Option CString) (staPort : Int32) : Option (Option MsgWlanInfo × Int32) :=
  if intfName.isNone ∧ (env.net hostname portnum).isSome then none
  else
    some (exchange env.net hostname portnum id
      (fun mId => encodeMsgWlanInfo {
        mType := EnumMsgType.msgWlanInfo.code, mId, pVersion := some ethanolVersion, mSize := 0,
        staIp, staPort, numEntries := 1
        entry := [{ env.fresh 2 0 with intfName, macAddr := none, ssid := none }] })
      (fun answer =>
        if returnMessageType answer.buf = EnumMsgType.msgWlanInfo.code then
          some (decodeMsgWlanInfo (env.fresh 3) answer.buf Cursor.start).1
        else none))

/-- What `process_msg_wlan_info` makes of the decoded request before it encodes it as the reply; `none`
is a crash. -/
def answerMsgWlanInfo (env : WlanInfoEnv) (h : MsgWlanInfo) : Option MsgWlanInfo :=
  match h.staIp with
  | none =>
    if 0 < h.numEntries then do
      let entry ← h.entry.mapM (getEntry env)
      pure { h with entry }
    else
      -- the loop that counts the list leaves its pointer at the end, so the loop that should fill
      -- the entries does not run
      let n := env.listOfWlans.length
      some { h with numEntries := UInt32.ofNat n, entry := (List.range n).map (env.fresh 1) }
  | some staIp => do
    let intfName := h.entry.head?.bind WlanEntry.intfName
    let sent ← sendMsgGetWlanInfo env staIp h.staPort h.mId intfName none 0
    let h := { h with mId := sent.2 } -- the id was passed as &h->m_id
    match sent.1 with
    | some h1 => pure { h with numEntries := h1.numEntries, entry := h1.entry }
    | none => pure { h with numEntries := 0, entry := [] }

/-- `process_msg_wlan_info`: the reply to the request in `input`. -/
def processMsgWlanInfo (env : WlanInfoEnv) (input : Memory) : Option Encoded :=
  (answerMsgWlanInfo env (decodeMsgWlanInfo (env.fresh 0) input Cursor.start).1).map
    encodeMsgWlanInfo

/-! ## The list of all interfaces -/

/-- The answer has a filled entry for each interface of the list, in its order and with its name, whatever the
allocated array holds. -/
def AnswersList (env : WlanInfoEnv) (h : MsgWlanInfo) : Prop :=
  ∀ fresh, ∃ answer, answerMsgWlanInfo { env with fresh := fresh } h = some answer ∧
    UCounts answer.numEntries answer.entry ∧
    List.Forall₂ (fun name e => getEntry env { (default : WlanEntry) with intfName := some name } = some e)
      env.listOfWlans answer.entry

lemma getEntry_intfName {env : WlanInfoEnv} {hEntry e : WlanEntry} (h : getEntry env hEntry = some e) :
    e.intfName = hEntry.intfName := by
  obtain ⟨entry, -, rfl⟩ := Option.map_eq_some_iff.mp h
  rfl

/-- What is sent for a list of interfaces is what the array held. -/
lemma answerMsgWlanInfo_list {env : WlanInfoEnv} {h : MsgWlanInfo} (hlocal : h.staIp = none)
    (hempty : h.numEntries = 0) : answerMsgWlanInfo env h = some { h with
      numEntries := UInt32.ofNat env.listOfWlans.length
      entry := (List.range env.listOfWlans.length).map (env.fresh 1) } := by
  have hzero : ¬(0 : UInt32) < h.numEntries := by
    rw [hempty]
    decide
  rw [answerMsgWlanInfo, hlocal]
  dsimp only
  rw [if_neg hzero]

/-- No interface gets its entry: an array can hold entries without a name. -/
lemma not_answersList {env : WlanInfoEnv} {h : MsgWlanInfo} (hlocal : h.staIp = none) (hempty : h.numEntries = 0)
    (hlist : env.listOfWlans ≠ []) : ¬AnswersList env h := by
  intro hanswers
  obtain ⟨answer, hanswer, -, hfilled⟩ := hanswers fun _ _ => default
  rw [answerMsgWlanInfo_list hlocal hempty] at hanswer
  obtain rfl := Option.some.inj hanswer
  obtain ⟨name, names, hnames⟩ := List.exists_cons_of_ne_nil hlist
  simp only [hnames, List.length_cons, List.range_succ_eq_map, List.map_cons] at hfilled
  have hname := getEntry_intfName (List.forall₂_cons.mp hfilled).1
  exact absurd hname (by simp [show (default : WlanEntry).intfName = none from rfl])

/-- A local request without entries is answered as it should be exactly if there is no interface. -/
theorem answersList_iff {env : WlanInfoEnv} {h : MsgWlanInfo} (hlocal : h.staIp = none) (hempty : h.numEntries = 0) :
    AnswersList env h ↔ env.listOfWlans = [] := by
  constructor
  · intro hanswers
    by_contra hlist
    exact not_answersList hlocal hempty hlist hanswers
  · intro hlist fresh
    have hlist' : ({ env with fresh := fresh } : WlanInfoEnv).listOfWlans = [] := hlist
    refine ⟨_, answerMsgWlanInfo_list hlocal hempty, ?_⟩
    rw [hlist']
    exact ⟨rfl, List.Forall₂.nil⟩

/-- An access point on which all hooks but the one for the radio are missing. -/
def plainAccessPoint (names : List CString) : WlanInfoEnv where
  net := fun _ _ => none
  source := .accessPoint ⟨some fun _ => 0, none, none, none, none, none, none⟩ 0
  listOfWlans := names
  fresh := default

theorem answersList_iff_none : AnswersList (plainAccessPoint []) (wlansOfTypes []) :=
  (answersList_iff rfl rfl).mpr rfl

/-- One interface, and its entry is not filled. -/
theorem answersList_wlan0 : (wlansOfTypes []).staIp = none ∧ (wlansOfTypes []).numEntries = 0 ∧
    ¬AnswersList (plainAccessPoint [⟨[119, 108, 97, 110, 48], by decide⟩]) (wlansOfTypes []) :=
  ⟨rfl, rfl, not_answersList rfl rfl (List.cons_ne_nil _ _)⟩

end Ethanol
