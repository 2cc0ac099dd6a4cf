import EthanolHostapd.Messaging.Fields
import EthanolHostapd.Utils.Common

/-!
# The routing table of an access point

`get_route.c` and `msg_routes.c`.  `get_routes` makes a table of the lines of `/proc/net/route`, the last line first;
the handler of the request copies the table into the reply.

The four strings of a route are copied into one field of the reply, one after the other, and the other three are left
as they were allocated.
-/

namespace Ethanol

open Wire

/-! ## The code -/

/-- `struct entrada_rotas`. -/
structure EntradaRotas where
  ifname : Option CString
  dest : Option CString
  gw : Option CString
  mask : Option CString
  flags : Int64
  refcnt : Int32
  use : Int32
  metric : Int32
  mtu : Int32
  window : Int32
  irtt : Int32
  deriving DecidableEq

/-- The variables of `get_routes` after `sscanf` of a line. -/
structure RouteLine where
  ifname : CString
  dest : UInt32
  gw : UInt32
  flags : UInt32
  refcnt : Int32
  use : Int32
  metric : Int32
  netmask : UInt32
  mtu : Int32
  window : Int32
  irtt : Int32

/-- `struct lista_rotas`. -/
structure ListaRotas where
  numRoutes : Int32
  r : List EntradaRotas

/-- The text that `inet_ntoa` makes of an address, whose first byte is the lowest one of the number. -/
def inetNtoa (v : UInt32) : List UInt8 :=
  decimal (v.toNat % 256 : ℕ) ++ 46 :: (decimal (v.toNat / 256 % 256 : ℕ) ++
    46 :: (decimal (v.toNat / 65536 % 256 : ℕ) ++ 46 :: decimal (v.toNat / 16777216 : ℕ)))

lemma nul_notMem_inetNtoa (v : UInt32) : (0 : UInt8) ∉ inetNtoa v := by
  have hdecimal (i : ℤ) : (0 : UInt8) ∉ decimal i := by
    intro h
    have hzero : (0 : UInt8).toNat = 0 := by decide
    have hrange := toNat_of_mem_decimal h
    omega
  simp [inetNtoa, hdecimal]

/-- `convert_s_addr`. -/
def convertSAddr (v : UInt32) : CString := ⟨inetNtoa v, nul_notMem_inetNtoa v⟩

/-- The entry that `get_routes` makes of a line. -/
def RouteLine.entrada (l : RouteLine) : EntradaRotas where
  ifname := some l.ifname
  dest := some (convertSAddr l.dest)
  gw := some (convertSAddr l.gw)
  mask := some (convertSAddr l.netmask)
  flags := Int64.ofNat l.flags.toNat
  refcnt := l.refcnt
  use := l.use
  metric := l.metric
  mtu := l.mtu
  window := l.window
  irtt := l.irtt

/-- `get_routes`: each line is put in front of the list, and there is no table without a route. -/
def getRoutes (lines : List RouteLine) : Option ListaRotas :=
  let lista := lines.foldl (fun lista l => l.entrada :: lista) []
  if lista = [] then none else some ⟨Int32.ofNat lista.length, lista⟩

/-- `struct msg_ap_routes`. -/
structure MsgApRoutes where
  mType : Int32
  mId : Int32
  pVersion : Option CString
  mSize : Int32
  staIp : Option CString
  staPort : Int32
  numRoutes : Int32
  r : List EntradaRotas
  deriving DecidableEq

/-- What the loop of `message_size_routes` adds for a route, if `str` is what it adds for a string. -/
def routeSize (str : Option CString → ℤ) (r : EntradaRotas) : ℤ :=
  str r.ifname + str r.dest + str r.gw + str r.mask + 8 + 4 + 4 + 4 + 4 + 4 + 4

/-- The sum that `message_size_routes` forms. -/
def apRoutesSize (str : Option CString → ℤ) (h : MsgApRoutes) : ℤ :=
  4 + 4 + str h.pVersion + 4 + str h.staIp + 4 + 4 +
    ((h.r.take (loopCount h.numRoutes)).map (routeSize str)).sum

/-- `message_size_routes`, as `encode_msg_ap_routes` stores it in an `int`. -/
def messageSizeRoutes (h : MsgApRoutes) : Int32 :=
  Int32.ofInt (apRoutesSize (fun s => (strlenEthanol s).toInt) h)

/-- The body of the loop of `encode_msg_ap_routes`. -/
def encodeRoute (aux : Out) (r : EntradaRotas) : Out :=
  let aux := encodeChar aux r.ifname
  let aux := encodeChar aux r.dest
  let aux := encodeChar aux r.gw
  let aux := encodeChar aux r.mask
  let aux := encodeLong aux r.flags
  let aux := encodeInt aux r.refcnt
  let aux := encodeInt aux r.use
  let aux := encodeInt aux r.metric
  let aux := encodeInt aux r.mtu
  let aux := encodeInt aux r.window
  encodeInt aux r.irtt

/-- `encode_msg_ap_routes`. -/
def encodeMsgApRoutes (h : MsgApRoutes) : Encoded :=
  let bufLen := messageSizeRoutes h
  let aux := Out.ofBytes []
  let aux := encodeHeader aux h.mType h.mId bufLen -- h->m_size = *buf_len
  let aux := encodeChar aux h.staIp
  let aux := encodeInt aux h.staPort
  let aux := encodeInt aux h.numRoutes
  ⟨bufLen, Out.each encodeRoute (loopCount h.numRoutes) h.r aux⟩

/-- The body of the loop of `decode_msg_ap_routes`. -/
def decodeRoute : Decoder EntradaRotas := do
  let ifname ← decodeChar
  let dest ← decodeChar
  let gw ← decodeChar
  let mask ← decodeChar
  let flags ← decodeLong
  let refcnt ← decodeInt
  let use ← decodeInt
  let metric ← decodeInt
  let mtu ← decodeInt
  let window ← decodeInt
  let irtt ← decodeInt
  pure { ifname, dest, gw, mask, flags, refcnt, use, metric, mtu, window, irtt }

/-- `decode_msg_ap_routes`. -/
def decodeMsgApRoutes : Decoder MsgApRoutes := do
  let header ← decodeHeader
  let staIp ← decodeChar
  let staPort ← decodeInt
  let numRoutes ← decodeInt
  let r ← Decoder.array (loopCount numRoutes) decodeRoute
  pure {
    mType := header.mType, mId := header.mId, pVersion := header.mVersion, mSize := header.mSize, staIp, staPort,
    numRoutes, r }

/-- The strings at which an entry of an allocated array points before anything is stored in it. -/
structure FreshRoute where
  dest : Option CString
  gw : Option CString
  mask : Option CString
  dest_fits : StrFits dest
  gw_fits : StrFits gw
  mask_fits : StrFits mask

/-- The body of the loop of `process_msg_ap_routes`: all four strings are copied to `ifname`. -/
def copyRoute (fresh : FreshRoute) (ri : EntradaRotas) : EntradaRotas :=
  let r : EntradaRotas := { ri with ifname := ri.ifname, dest := fresh.dest, gw := fresh.gw, mask := fresh.mask }
  let r := { r with ifname := ri.dest }
  let r := { r with ifname := ri.gw }
  { r with ifname := ri.mask }

/-- `process_msg_ap_routes`, when the lines of the routing table and the contents of the memory that is allocated for
the routes are as given, and a station answers a relayed request with `station`.  `NULL` cannot be read. -/
def processMsgApRoutes (station : CString → Int32 → Option MsgApRoutes) (lines : List RouteLine)
    (block : ℕ → FreshRoute) (input : Memory) : Option Encoded :=
  let h := (decodeMsgApRoutes input Cursor.start).1
  match h.staIp with
  | some staIp => do
    let h1 ← station staIp h.staPort
    pure (encodeMsgApRoutes { h with mId := h.mId + 1, numRoutes := h1.numRoutes, r := h1.r })
  | none =>
    match getRoutes lines with
    | none => some (encodeMsgApRoutes h)
    | some lista =>
      some (encodeMsgApRoutes
        { h with numRoutes := lista.numRoutes, r := lista.r.mapIdx fun i ri => copyRoute (block i) ri })

/-! ## The layout of a reply -/

namespace EntradaRotas

/-- The strings have representable lengths. -/
structure Fits (r : EntradaRotas) : Prop where
  ifname : StrFits r.ifname
  dest : StrFits r.dest
  gw : StrFits r.gw
  mask : StrFits r.mask

/-- A route as it arrives: an empty string is `NULL`. -/
def arrived (r : EntradaRotas) : EntradaRotas :=
  { r with
    ifname := nullIfEmpty r.ifname
    dest := nullIfEmpty r.dest
    gw := nullIfEmpty r.gw
    mask := nullIfEmpty r.mask }

/-- The wire image of a route. -/
def bytes (r : EntradaRotas) : List UInt8 :=
  [charBytes r.ifname, charBytes r.dest, charBytes r.gw, charBytes r.mask, Scalar.toBytes r.flags,
    Scalar.toBytes r.refcnt, Scalar.toBytes r.use, Scalar.toBytes r.metric, Scalar.toBytes r.mtu,
    Scalar.toBytes r.window, Scalar.toBytes r.irtt].flatten

lemma encode_ofBytes {r : EntradaRotas} (hr : r.Fits) (bs : List UInt8) :
    encodeRoute (Out.ofBytes bs) r = Out.ofBytes (bs ++ r.bytes) := by
  simp only [encodeRoute, encodeChar_ofBytes hr.ifname, encodeChar_ofBytes hr.dest, encodeChar_ofBytes hr.gw,
    encodeChar_ofBytes hr.mask, Out.ofBytes_scalar]
  simp [bytes]

lemma decodes {r : EntradaRotas} (hr : r.Fits) : Decodes decodeRoute r.bytes r.arrived := by
  unfold decodeRoute bytes
  refine (decodes_char hr.ifname).cons ?_
  refine (decodes_char hr.dest).cons ?_
  refine (decodes_char hr.gw).cons ?_
  refine (decodes_char hr.mask).cons ?_
  iterate 7 refine (Decodes.scalar _).cons ?_
  exact Decodes.pure _

/-- A route whose strings are not empty is written in the bytes that are counted for it. -/
lemma length_bytes (r : EntradaRotas) :
    (r.bytes.length : ℤ) + (strSlack r.ifname + strSlack r.dest + strSlack r.gw + strSlack r.mask) =
      routeSize strSize r := by
  have hifname := length_charBytes r.ifname
  have hdest := length_charBytes r.dest
  have hgw := length_charBytes r.gw
  have hmask := length_charBytes r.mask
  simp only [bytes, List.flatten_cons, List.flatten_nil, List.length_append, List.length_nil, Scalar.length_toBytes,
    Scalar.width_int32, Scalar.width_int64, routeSize, strSize]
  omega

end EntradaRotas

namespace MsgApRoutes

/-- The routes that the loops of the encoder visit. -/
def sent (h : MsgApRoutes) : List EntradaRotas := h.r.take (loopCount h.numRoutes)

/-- There are as many routes as the count says or more, and the strings have representable lengths. -/
structure WellFormed (h : MsgApRoutes) : Prop where
  version : h.pVersion = some ethanolVersion
  staIp : StrFits h.staIp
  count : loopCount h.numRoutes ≤ h.r.length
  routes : ∀ r ∈ h.r, r.Fits

/-- The wire image of a reply. -/
def bytes (h : MsgApRoutes) : List UInt8 :=
  [headerBytes h.mType h.mId (messageSizeRoutes h), charBytes h.staIp, Scalar.toBytes h.staPort,
    Scalar.toBytes h.numRoutes, h.sent.flatMap EntradaRotas.bytes].flatten

/-- A reply as it arrives. -/
def arrived (h : MsgApRoutes) : MsgApRoutes :=
  { h with
    mSize := messageSizeRoutes h
    staIp := nullIfEmpty h.staIp
    r := h.sent.map EntradaRotas.arrived }

lemma encode_eq {h : MsgApRoutes} (hh : h.WellFormed) :
    encodeMsgApRoutes h = ⟨messageSizeRoutes h, Out.ofBytes h.bytes⟩ := by
  have hroutes := Out.each_ofBytes (f := encodeRoute) (loopCount h.numRoutes) h.r
    fun r hr => EntradaRotas.encode_ofBytes (hh.routes r (List.mem_of_mem_take hr))
  simp only [encodeMsgApRoutes, encodeHeader_ofBytes, encodeChar_ofBytes hh.staIp, Out.ofBytes_scalar, hroutes]
  simp [bytes, sent]

lemma decodes {h : MsgApRoutes} (hh : h.WellFormed) : Decodes decodeMsgApRoutes h.bytes h.arrived := by
  unfold decodeMsgApRoutes bytes
  refine (decodes_header _ _ _).cons ?_
  refine (decodes_char hh.staIp).cons ?_
  refine (Decodes.scalar h.staPort).cons ?_
  refine (Decodes.scalar h.numRoutes).cons ?_
  have hlength : h.sent.length = loopCount h.numRoutes := List.length_take_of_le hh.count
  refine (Decodes.array h.sent hlength
    fun r hr => EntradaRotas.decodes (hh.routes r (List.mem_of_mem_take hr))).cons ?_
  simp only [arrived, hh.version]
  exact Decodes.pure _

/-- What arrives of a reply: all of it or, when the buffer is too short, nothing. -/
lemma received_eq {h : MsgApRoutes} (hh : h.WellFormed) (junk beyond : ℕ → UInt8) (heap : ℕ → List UInt8) :
    (encodeMsgApRoutes h).received decodeMsgApRoutes junk beyond heap =
      if (encodeMsgApRoutes h).InBuffer then some h.arrived else none := by
  split
  · next hin =>
    rw [encode_eq hh] at hin ⊢
    exact Encoded.received_eq (decodes hh) hin junk beyond heap
  · next hnot => exact Encoded.received_eq_none hnot decodeMsgApRoutes junk beyond heap

/-- The size is the sum, with strings counted in full, reduced to an `int`. -/
lemma size_eq (h : MsgApRoutes) : messageSizeRoutes h = Int32.ofInt (apRoutesSize strSize h) := by
  apply ofInt_eq_of_modEq
  unfold apRoutesSize
  gcongr
  · apply strlenEthanol_modEq
  · apply strlenEthanol_modEq
  · apply sum_map_modEq
    intro r
    unfold routeSize
    gcongr <;> apply strlenEthanol_modEq

/-- A reply without empty strings in its routes is written in its buffer if its size is representable. -/
lemma inBuffer_iff {h : MsgApRoutes} (hh : h.WellFormed) (hsta : h.staIp = none)
    (hstrings : ∀ r ∈ h.sent, strSlack r.ifname = 0 ∧ strSlack r.dest = 0 ∧ strSlack r.gw = 0 ∧ strSlack r.mask = 0) :
    (encodeMsgApRoutes h).InBuffer ↔ apRoutesSize strSize h < 2 ^ 31 := by
  have hroutes : ((h.sent.flatMap EntradaRotas.bytes).length : ℤ) = (h.sent.map (routeSize strSize)).sum := by
    have hsum := Out.length_flatMap_add EntradaRotas.bytes 0 h.sent
    simp only [mul_zero, add_zero] at hsum
    rw [hsum]
    apply congrArg List.sum
    apply List.map_congr_left
    intro r hr
    obtain ⟨hifname, hdest, hgw, hmask⟩ := hstrings r hr
    have hlength := r.length_bytes
    omega
  have hlength : (h.bytes.length : ℤ) + 1 = apRoutesSize strSize h := by
    simp only [bytes, List.flatten_cons, List.flatten_nil, List.length_append, List.length_nil, length_headerBytes,
      Scalar.length_toBytes, Scalar.width_int32, hsta, apRoutesSize, hh.version, strSize, strLen_ethanolVersion,
      strLen_none]
    have hnone : (charBytes none).length = 4 := by decide
    change _ = _ + (h.sent.map (routeSize strSize)).sum
    omega
  rw [encode_eq hh, size_eq, Encoded.inBuffer_iff (by omega) (by omega)]
  omega

end MsgApRoutes

/-! ## What a reply says -/

/-- A route of the reply is the route of the table. -/
def SameRoute (ri r : EntradaRotas) : Prop :=
  r.ifname = ri.ifname ∧ r.dest = ri.dest ∧ r.gw = ri.gw ∧ r.mask = ri.mask ∧ r.flags = ri.flags ∧ r.metric = ri.metric

/-- The reply has the routes of the table, in the same order. -/
def ReportsTable (lista : ListaRotas) (reply : MsgApRoutes) : Prop :=
  reply.numRoutes = lista.numRoutes ∧ List.Forall₂ SameRoute lista.r reply.r

/-- The message that the handler decodes. -/
def receivedRoutes (input : Memory) : MsgApRoutes := (decodeMsgApRoutes input Cursor.start).1

/-- The size of a reply with the routes of the table. -/
def tableSize (lista : ListaRotas) : ℤ := 35 + (lista.r.map (routeSize strSize)).sum

/-- The memory for a route happens to hold what is not copied, and what is copied last is also the first. -/
def Coincides (fresh : FreshRoute) (ri : EntradaRotas) : Prop :=
  ri.ifname = ri.mask ∧ fresh.dest = ri.dest ∧ fresh.gw = ri.gw ∧ fresh.mask = ri.mask

/-- An address has at least the three dots. -/
lemma nullIfEmpty_eq_convertSAddr {s : Option CString} {v : UInt32} :
    nullIfEmpty s = some (convertSAddr v) ↔ s = some (convertSAddr v) := by
  have hne : (convertSAddr v).chars ≠ [] := by simp [convertSAddr, inetNtoa]
  cases s with
  | none => simp [nullIfEmpty]
  | some t =>
    by_cases ht : t.chars = []
    · have hneq : t ≠ convertSAddr v := by
        rintro rfl
        exact hne ht
      simp [nullIfEmpty, ht, hneq]
    · simp [nullIfEmpty, ht]

lemma strSlack_convertSAddr (v : UInt32) : strSlack (some (convertSAddr v)) = 0 := by
  have hne : (convertSAddr v).chars ≠ [] := by simp [convertSAddr, inetNtoa]
  rw [strSlack, if_neg]
  simpa using hne

lemma length_inetNtoa_le (v : UInt32) : (inetNtoa v).length ≤ 15 := by
  have hdecimal {n : ℕ} (hn : n < 256) : (decimal n).length ≤ 3 := by
    have hdigits : (Nat.toDigits 10 n).length ≤ 3 := Nat.length_toDigits_le_iff (by decide) (by decide) |>.mpr (by omega)
    have hsign : ¬((n : ℤ) < 0) := by omega
    simpa [decimal, hsign] using hdigits
  have hv := v.toNat_lt
  have h₀ := hdecimal (n := v.toNat % 256) (by omega)
  have h₁ := hdecimal (n := v.toNat / 256 % 256) (by omega)
  have h₂ := hdecimal (n := v.toNat / 65536 % 256) (by omega)
  have h₃ := hdecimal (n := v.toNat / 16777216) (by omega)
  simp only [inetNtoa, List.length_append, List.length_cons]
  omega

lemma strFits_convertSAddr (v : UInt32) : StrFits (some (convertSAddr v)) := by
  have hlength := length_inetNtoa_le v
  rw [StrFits, strLen_some]
  simp only [convertSAddr]
  omega

/-- The table of some lines, in their order. -/
def tableOf (ls : List RouteLine) : ListaRotas := ⟨Int32.ofNat ls.length, ls.map RouteLine.entrada⟩

/-- The table is made of the lines, in the opposite order. -/
lemma getRoutes_eq_some_iff {lines : List RouteLine} {lista : ListaRotas} :
    getRoutes lines = some lista ↔ lines ≠ [] ∧ lista = tableOf lines.reverse := by
  have hfold : lines.foldl (fun lista l => l.entrada :: lista) [] = lines.reverse.map RouteLine.entrada := by
    rw [← List.foldr_reverse, List.foldr_cons_eq_append, List.append_nil]
  rw [getRoutes, hfold]
  by_cases hlines : lines = []
  · simp [hlines]
  · have hlista : lines.reverse.map RouteLine.entrada ≠ [] := by simpa using hlines
    rw [if_neg hlista, List.length_map, Option.some.injEq]
    constructor
    · rintro rfl
      exact ⟨hlines, rfl⟩
    · rintro ⟨-, rfl⟩
      rfl

/-- A count that was stored in an `int` is never above what was counted. -/
lemma loopCount_ofNat_le (n : ℕ) : loopCount (Int32.ofNat n) ≤ n := by
  have hcount : (Int32.ofNat n).toInt = (n : ℤ).bmod (2 ^ 32) := Int32.toInt_ofNat'
  have hle : (n : ℤ).bmod (2 ^ 32) ≤ n := by
    rw [Int.bmod_def]
    push_cast
    split <;> omega
  rw [loopCount, hcount]
  omega

/-- The reply to a local request, before it is encoded. -/
def localReply (lista : ListaRotas) (block : ℕ → FreshRoute) (h : MsgApRoutes) : MsgApRoutes :=
  { h with numRoutes := lista.numRoutes, r := lista.r.mapIdx fun i ri => copyRoute (block i) ri }

section LocalReply

variable {ls : List RouteLine} {block : ℕ → FreshRoute} {h : MsgApRoutes}

lemma wellFormed_localReply (hlocal : h.staIp = none) (hversion : h.pVersion = some ethanolVersion) :
    (localReply (tableOf ls) block h).WellFormed where
  version := hversion
  staIp := by
    rw [localReply, hlocal]
    exact strFits_none
  count := by
    have hle := loopCount_ofNat_le ls.length
    simpa [localReply, tableOf] using hle
  routes := by
    intro r hr
    obtain ⟨i, hi, rfl⟩ := List.mem_mapIdx.mp hr
    obtain ⟨l, -, hl⟩ := List.mem_map.mp (List.getElem_mem hi)
    rw [← hl]
    exact ⟨strFits_convertSAddr l.netmask, (block i).dest_fits, (block i).gw_fits, (block i).mask_fits⟩

/-- A copied route arrives as the route of the table only by coincidence. -/
lemma sameRoute_copyRoute_iff (fresh : FreshRoute) (l : RouteLine) :
    SameRoute l.entrada (copyRoute fresh l.entrada).arrived ↔ Coincides fresh l.entrada := by
  have hname : nullIfEmpty (some (convertSAddr l.netmask)) = some (convertSAddr l.netmask) :=
    nullIfEmpty_eq_convertSAddr.mpr rfl
  simp only [SameRoute, Coincides, copyRoute, EntradaRotas.arrived, RouteLine.entrada, hname,
    nullIfEmpty_eq_convertSAddr]
  constructor
  · rintro ⟨hifname, hdest, hgw, hmask, -⟩
    exact ⟨hifname.symm, hdest, hgw, hmask⟩
  · rintro ⟨hifname, hdest, hgw, hmask⟩
    exact ⟨hifname.symm, hdest, hgw, hmask, trivial, trivial⟩

/-- Route by route, with the memory that each one is copied to. -/
lemma forall₂_copied_iff (ls : List RouteLine) (block : ℕ → FreshRoute) :
    List.Forall₂ SameRoute (ls.map RouteLine.entrada)
        (((ls.map RouteLine.entrada).mapIdx fun i ri => copyRoute (block i) ri).map EntradaRotas.arrived) ↔
      ∀ i ri, (ls.map RouteLine.entrada)[i]? = some ri → Coincides (block i) ri := by
  induction ls generalizing block with
  | nil => simp
  | cons l ls ih =>
    rw [List.map_cons, List.mapIdx_cons, List.map_cons, List.forall₂_cons, sameRoute_copyRoute_iff,
      ih fun i => block (i + 1)]
    constructor
    · rintro ⟨hfirst, hrest⟩ i ri hri
      cases i with
      | zero => exact Option.some.inj hri ▸ hfirst
      | succ i => exact hrest i ri hri
    · intro hall
      exact ⟨hall 0 _ rfl, fun i ri hri => hall (i + 1) ri hri⟩

/-- A reply that arrives has the routes of the table if and only if all of them are sent and each one coincides. -/
lemma reportsTable_localReply_iff :
    ReportsTable (tableOf ls) (localReply (tableOf ls) block h).arrived ↔
      loopCount (tableOf ls).numRoutes = ls.length ∧
        ∀ i ri, (tableOf ls).r[i]? = some ri → Coincides (block i) ri := by
  have hle := loopCount_ofNat_le ls.length
  have hsent : (localReply (tableOf ls) block h).arrived.r =
      (((tableOf ls).r.mapIdx fun i ri => copyRoute (block i) ri).take (loopCount (tableOf ls).numRoutes)).map
        EntradaRotas.arrived := rfl
  have hlength : ((tableOf ls).r.mapIdx fun i ri => copyRoute (block i) ri).length = ls.length := by
    simp [tableOf]
  have hcopied := forall₂_copied_iff ls block
  rw [ReportsTable, hsent]
  constructor
  · rintro ⟨-, hsame⟩
    have heq := hsame.length_eq
    rw [List.length_map, List.length_take, hlength] at heq
    have htable : (tableOf ls).r.length = ls.length := by simp [tableOf]
    have hall : loopCount (tableOf ls).numRoutes = ls.length := by
      change loopCount (Int32.ofNat ls.length) = ls.length
      change _ = min (loopCount (Int32.ofNat ls.length)) _ at heq
      omega
    rw [List.take_of_length_le (by omega)] at hsame
    exact ⟨hall, hcopied.mp hsame⟩
  · rintro ⟨hall, hcoincide⟩
    rw [List.take_of_length_le (by omega)]
    exact ⟨rfl, hcopied.mpr hcoincide⟩

/-- If each route coincides, the routes that are sent are those of the table. -/
lemma sent_localReply (hall : loopCount (tableOf ls).numRoutes = ls.length)
    (hcoincide : ∀ i ri, (tableOf ls).r[i]? = some ri → Coincides (block i) ri) :
    (localReply (tableOf ls) block h).sent = (tableOf ls).r := by
  have hlength : (localReply (tableOf ls) block h).r.length = ls.length := by simp [localReply, tableOf]
  have hcount : (localReply (tableOf ls) block h).numRoutes = (tableOf ls).numRoutes := rfl
  rw [MsgApRoutes.sent, hcount, List.take_of_length_le (by omega)]
  apply List.ext_getElem
  · simp [localReply]
  · intro i hi hi'
    obtain ⟨hifname, hdest, hgw, hmask⟩ := hcoincide i _ (List.getElem?_eq_getElem hi')
    have hcopy : (localReply (tableOf ls) block h).r[i] = copyRoute (block i) (tableOf ls).r[i] :=
      List.getElem_mapIdx ..
    rw [hcopy]
    generalize (tableOf ls).r[i] = ri at hifname hdest hgw hmask ⊢
    cases ri
    simp_all only [copyRoute]

/-- If each route coincides, the reply is written in its buffer if and only if the size of the table is
representable. -/
lemma inBuffer_localReply_iff (hlocal : h.staIp = none) (hversion : h.pVersion = some ethanolVersion)
    (hall : loopCount (tableOf ls).numRoutes = ls.length)
    (hcoincide : ∀ i ri, (tableOf ls).r[i]? = some ri → Coincides (block i) ri) :
    (encodeMsgApRoutes (localReply (tableOf ls) block h)).InBuffer ↔ tableSize (tableOf ls) < 2 ^ 31 := by
  have hsent := sent_localReply (h := h) hall hcoincide
  have hsize : apRoutesSize strSize (localReply (tableOf ls) block h) = tableSize (tableOf ls) := by
    have hfixed : strSize (some ethanolVersion) = 10 ∧ strSize none = 5 := by decide
    have hversion' : (localReply (tableOf ls) block h).pVersion = some ethanolVersion := hversion
    have hlocal' : (localReply (tableOf ls) block h).staIp = none := hlocal
    rw [apRoutesSize, ← MsgApRoutes.sent, hsent, hversion', hlocal', hfixed.1, hfixed.2, tableSize]
    ring
  rw [← hsize]
  apply MsgApRoutes.inBuffer_iff (wellFormed_localReply hlocal hversion) hlocal
  rw [hsent]
  intro r hr
  obtain ⟨i, hi⟩ := List.mem_iff_getElem?.mp hr
  obtain ⟨l, -, rfl⟩ := List.mem_map.mp hr
  have hifname : l.entrada.ifname = some (convertSAddr l.netmask) := (hcoincide i _ hi).1
  rw [hifname]
  exact ⟨strSlack_convertSAddr _, strSlack_convertSAddr _, strSlack_convertSAddr _, strSlack_convertSAddr _⟩

/-- A table whose size is representable has a representable number of routes. -/
lemma loopCount_of_tableSize (hsize : tableSize (tableOf ls) < 2 ^ 31) :
    loopCount (tableOf ls).numRoutes = ls.length := by
  have hroutes : (ls.length : ℤ) ≤ ((tableOf ls).r.map (routeSize strSize)).sum := by
    have hone : ∀ x ∈ (tableOf ls).r.map (routeSize strSize), (1 : ℤ) ≤ x := by
      intro x hx
      obtain ⟨r, -, rfl⟩ := List.mem_map.mp hx
      have := strSize_nonneg r.ifname
      have := strSize_nonneg r.dest
      have := strSize_nonneg r.gw
      have := strSize_nonneg r.mask
      unfold routeSize
      omega
    have hsum := List.card_nsmul_le_sum _ _ hone
    simpa [tableOf] using hsum
  rw [tableSize] at hsize
  have hcount : (Int32.ofNat ls.length).toInt = ls.length := Int32.toInt_ofNat_of_lt (by omega)
  change (Int32.ofNat ls.length).toInt.toNat = ls.length
  omega

/-- The handler answers a local request with the table. -/
lemma processMsgApRoutes_local (station : CString → Int32 → Option MsgApRoutes) {lines : List RouteLine}
    {lista : ListaRotas} {input : Memory} (hlista : getRoutes lines = some lista)
    (hlocal : (receivedRoutes input).staIp = none) :
    processMsgApRoutes station lines block input =
      some (encodeMsgApRoutes (localReply lista block (receivedRoutes input))) := by
  rw [receivedRoutes] at hlocal
  simp only [processMsgApRoutes, hlocal, hlista, localReply, receivedRoutes]

end LocalReply

/-- A local request, as it arrives. -/
def routesInput : Memory :=
  Memory.ofBytes (headerBytes EnumMsgType.msgGetRoutes.code 1 36 ++ charBytes none ++ Scalar.toBytes (0 : Int32) ++
    Scalar.toBytes (0 : Int32)) (fun _ => 0) fun _ => []

/-- A default route; the interface has the given name. -/
def defaultRoute (ifname : CString) : RouteLine := ⟨ifname, 0, 0x0100000A, 3, 0, 0, 100, 0, 0, 0, 0⟩

/-- `"eth1"`. -/
def eth1 : CString := ⟨[101, 116, 104, 49], by decide⟩

end Ethanol
