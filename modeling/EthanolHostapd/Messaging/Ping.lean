import EthanolHostapd.Messaging.Fields

/-!
# Ping and pong

`msg_ping.c`.  A ping carries a block of characters in a fixed sequence, and the pong says whether the
server found the sequence in what it received.  The sequence has its first NUL at number 80, where the
string ends for everyone who reads it, and the server compares all characters but the last one.
-/

namespace Ethanol

open Wire

/-! ## The code -/

/-- The character number `i`, as an `int`: `(char) (BYTE_INICIAL + i) % 128`, where the cast comes first. -/
def correctValue (i : ℕ) : ℤ := (Int8.ofNat (48 + i)).toInt.tmod 128

/-- The character number `i` as it is stored. -/
def pingChar (i : ℕ) : UInt8 := (Int8.ofInt (correctValue i)).toUInt8

/-- `generate_ping_data`; the counter is an `int`, which has no value after its largest one. -/
def generatePingData (pSize : UInt32) : Option (List UInt8) :=
  if (pSize - 1).toNat < 2 ^ 31 then some ((List.range (pSize - 1).toNat).map pingChar ++ [0]) else none

/-- The loop of `verify_data`, from character `i` on. -/
def verifyLoop (data : List UInt8) (i : ℕ) : ℕ → Bool
  | 0 => true
  | k + 1 => if (data.getD i 0).toInt8.toInt ≠ correctValue i then false else verifyLoop data (i + 1) k

/-- `verify_data`, for a string; what is read behind its characters is the terminator. -/
def verifyData (data : CString) (pSize : UInt32) : Bool := verifyLoop data.chars 0 (pSize - 1).toNat

/-- `struct msg_ping`. -/
structure MsgPing where
  mType : Int32
  mId : Int32
  pVersion : Option CString
  mSize : Int32
  data : Option CString
  deriving DecidableEq

/-- `struct msg_pong`. -/
structure MsgPong where
  mType : Int32
  mId : Int32
  pVersion : Option CString
  mSize : Int32
  rtt : CFloat
  verifyData : Bool
  deriving DecidableEq

/-- `message_size_ping`. -/
def messageSizePing (h : MsgPing) : Int32 :=
  Int32.ofInt (4 + 4 + (strlenEthanol h.pVersion).toInt + 4 + (strlenEthanol h.data).toInt)

/-- `message_size_pong`. -/
def messageSizePong (pVersion : Option CString) : Int32 :=
  Int32.ofInt (4 + 4 + (strlenEthanol pVersion).toInt + 4 + 4 + boolLenEthanol.toInt)

/-- `encode_msg_ping`. -/
def encodeMsgPing (h : MsgPing) : Encoded :=
  let bufLen := messageSizePing h
  let aux := Out.ofBytes []
  let aux := encodeHeader aux h.mType h.mId bufLen -- h->m_size = *buf_len
  ⟨bufLen, encodeChar aux h.data⟩

/-- `decode_msg_ping`. -/
def decodeMsgPing : Decoder MsgPing := do
  let header ← decodeHeader
  let data ← decodeChar
  pure { mType := header.mType, mId := header.mId, pVersion := header.mVersion, mSize := header.mSize, data }

/-- `encode_msg_pong`. -/
def encodeMsgPong (h : MsgPong) : Encoded :=
  let bufLen := messageSizePong h.pVersion
  let aux := Out.ofBytes []
  let aux := encodeHeader aux h.mType h.mId bufLen -- h->m_size = *buf_len
  let aux := encodeFloat aux h.rtt
  ⟨bufLen, encodeBool aux h.verifyData⟩

/-- `decode_msg_pong`. -/
def decodeMsgPong : Decoder MsgPong := do
  let header ← decodeHeader
  let rtt ← decodeFloat
  let verifyData ← decodeBool
  pure {
    mType := header.mType, mId := header.mId, pVersion := header.mVersion, mSize := header.mSize, rtt,
    verifyData }

/-- The answer of `process_msg_ping` to a decoded ping; `strlen` of `NULL` has no result. -/
def answerMsgPing (ping : MsgPing) : Option MsgPong :=
  ping.data.map fun data => {
    mType := EnumMsgType.msgPong.code
    mId := ping.mId
    pVersion := some ethanolVersion
    mSize := messageSizePong (some ethanolVersion)
    rtt := 0
    verifyData := verifyData data (UInt32.ofNat data.chars.length) }

/-- `process_msg_ping`: the reply to the request in `input`. -/
def processMsgPing (input : Memory) : Option Encoded :=
  (answerMsgPing (decodeMsgPing input Cursor.start).1).map encodeMsgPong

/-- The ping that `send_msg_ping` makes of a block. -/
def pingOf (mId : Int32) (data : List UInt8) : MsgPing where
  mType := EnumMsgType.msgPing.code
  mId := mId
  pVersion := some ethanolVersion
  mSize := 0
  data := some (CString.ofBytes data)

/-! ## The messages on the wire -/

lemma encodeMsgPing_eq {h : MsgPing} (hdata : StrFits h.data) : encodeMsgPing h =
    ⟨messageSizePing h, Out.ofBytes (headerBytes h.mType h.mId (messageSizePing h) ++ charBytes h.data)⟩ := by
  simp only [encodeMsgPing, encodeHeader_ofBytes, encodeChar_ofBytes hdata, List.nil_append]

lemma decodes_msgPing (h : MsgPing) (hdata : StrFits h.data) (mSize : Int32) :
    Decodes decodeMsgPing (headerBytes h.mType h.mId mSize ++ charBytes h.data)
      ⟨h.mType, h.mId, some ethanolVersion, mSize, nullIfEmpty h.data⟩ := by
  unfold decodeMsgPing
  exact (decodes_header h.mType h.mId mSize).bind ((decodes_char hdata).map _)

/-- A ping arrives as its string does. -/
lemma received_ping {data : List UInt8} (hdata : (CString.ofBytes data).chars.length < 2 ^ 30) (mId : Int32)
    (junk beyond : ℕ → UInt8) (heap : ℕ → List UInt8) :
    (encodeMsgPing (pingOf mId data)).received decodeMsgPing junk beyond heap =
      some { pingOf mId data with
        mSize := messageSizePing (pingOf mId data), data := nullIfEmpty (some (CString.ofBytes data)) } := by
  have hfits : StrFits (pingOf mId data).data := lt_trans hdata (by decide)
  rw [encodeMsgPing_eq hfits]
  refine Encoded.received_eq (decodes_msgPing _ hfits _) ?_ junk beyond heap
  have hlength := length_charBytes (pingOf mId data).data
  have hstr : strLen (pingOf mId data).data = (CString.ofBytes data).chars.length := rfl
  have hsize : messageSizePing (pingOf mId data) = Int32.ofInt (4 + 4 + 10 + 4 + strSize (pingOf mId data).data) := by
    apply ofInt_eq_of_modEq
    have hversion : (strlenEthanol (pingOf mId data).pVersion).toInt = 10 := rfl
    rw [hversion]
    gcongr
    apply strlenEthanol_modEq
  have hle : ((headerBytes (pingOf mId data).mType (pingOf mId data).mId
      (Int32.ofInt (4 + 4 + 10 + 4 + strSize (pingOf mId data).data)) ++ charBytes (pingOf mId data).data).length : ℤ) ≤
        4 + 4 + 10 + 4 + strSize (pingOf mId data).data := by
    rw [List.length_append, length_headerBytes, strSize]
    omega
  rw [hsize]
  refine Encoded.inBuffer_of_le hle ?_
  rw [strSize, hstr]
  omega

/-- A pong arrives. -/
lemma received_pong (h : MsgPong) (hversion : h.pVersion = some ethanolVersion) (junk beyond : ℕ → UInt8)
    (heap : ℕ → List UInt8) :
    (encodeMsgPong h).received decodeMsgPong junk beyond heap = some { h with mSize := 30 } := by
  have hsize : messageSizePong h.pVersion = 30 := by
    rw [hversion]
    decide
  have hbytes : encodeMsgPong h = ⟨30, Out.ofBytes (headerBytes h.mType h.mId 30 ++
      (Scalar.toBytes h.rtt ++ Scalar.toBytes h.verifyData))⟩ := by
    simp only [encodeMsgPong, hsize, encodeHeader_ofBytes, Out.ofBytes_scalar, List.nil_append, List.append_assoc]
  have hdecodes : Decodes decodeMsgPong (headerBytes h.mType h.mId 30 ++
      (Scalar.toBytes h.rtt ++ Scalar.toBytes h.verifyData)) { h with mSize := 30 } := by
    unfold decodeMsgPong
    rw [show ({ h with mSize := 30 } : MsgPong) =
      ⟨h.mType, h.mId, some ethanolVersion, 30, h.rtt, h.verifyData⟩ by rw [← hversion]]
    exact (decodes_header h.mType h.mId 30).bind ((Decodes.scalar h.rtt).bind ((Decodes.scalar h.verifyData).map _))
  rw [hbytes]
  refine Encoded.received_eq hdecodes ?_ junk beyond heap
  unfold Encoded.InBuffer
  simp only [Out.ofBytes, List.length_append, length_headerBytes, Scalar.length_toBytes]
  decide

/-! ## The sequence -/

lemma toInt_toInt8_pingChar (i : ℕ) : (pingChar i).toInt8.toInt = correctValue i := by
  have hlt : correctValue i < 128 := Int.tmod_lt_of_pos _ (by decide)
  have hge : -128 < correctValue i := Int.lt_tmod_of_pos _ (by decide)
  exact Int8.toInt_ofInt_of_le hge.le hlt

/-- A character is accepted exactly if it is the one that is stored. -/
lemma toInt_eq_correctValue_iff (c : UInt8) (i : ℕ) : c.toInt8.toInt = correctValue i ↔ c = pingChar i := by
  rw [← toInt_toInt8_pingChar, Int8.toInt_inj]
  exact ⟨congrArg Int8.toUInt8, congrArg UInt8.toInt8⟩

lemma pingChar_of_lt {i : ℕ} (hi : i < 80) : pingChar i ≠ 0 ∧ pingChar i < 128 := by
  revert i
  decide

lemma verifyLoop_eq_true_iff {data : List UInt8} {i k : ℕ} :
    verifyLoop data i k = true ↔ ∀ j < k, data.getD (i + j) 0 = pingChar (i + j) := by
  induction k generalizing i with
  | zero => exact iff_of_true rfl fun j hj => absurd hj (Nat.not_lt_zero j)
  | succ k ih =>
    rw [verifyLoop, Nat.forall_lt_succ_left]
    split_ifs with h
    · rw [ne_eq, toInt_eq_correctValue_iff] at h
      exact iff_of_false (by decide) fun hand => h hand.1
    · rw [ne_eq, not_not, toInt_eq_correctValue_iff] at h
      rw [ih, and_iff_right (show data.getD (i + 0) 0 = pingChar (i + 0) from h)]
      refine forall₂_congr fun j _ => ?_
      rw [show i + 1 + j = i + (j + 1) by omega]

/-- The server compares all characters of a string but the last one. -/
lemma verifyData_eq_true_iff {data : CString} (hne : data.chars ≠ []) (hlength : data.chars.length < 2 ^ 32) :
    verifyData data (UInt32.ofNat data.chars.length) = true ↔
      ∀ i, i + 1 < data.chars.length → data.chars.getD i 0 = pingChar i := by
  have hpos := List.length_pos_iff.mpr hne
  have hnat : (UInt32.ofNat data.chars.length).toNat = data.chars.length := UInt32.toNat_ofNat_of_lt hlength
  have hone : (1 : UInt32) ≤ UInt32.ofNat data.chars.length := by
    rw [UInt32.le_iff_toNat_le, hnat]
    exact hpos
  have hcount : (UInt32.ofNat data.chars.length - 1).toNat = data.chars.length - 1 := by
    rw [UInt32.toNat_sub_of_le _ _ hone, hnat]
    rfl
  rw [verifyData, hcount, verifyLoop_eq_true_iff]
  simp only [Nat.zero_add, Nat.lt_sub_iff_add_lt]

/-- Up to 81 bytes the block is a string. -/
lemma ofBytes_generate {n : ℕ} (hn : n ≤ 80) :
    (CString.ofBytes ((List.range n).map pingChar ++ [0])).chars = (List.range n).map pingChar := by
  have hnul : (0 : UInt8) ∉ (List.range n).map pingChar := by
    intro hmem
    obtain ⟨i, hi, hzero⟩ := List.mem_map.mp hmem
    exact (pingChar_of_lt (lt_of_lt_of_le (List.mem_range.mp hi) hn)).1 hzero
  exact congrArg CString.chars (CString.ofBytes_terminated ⟨_, hnul⟩ [])

/-- From 82 bytes on the string ends before the block does. -/
lemma length_ofBytes_generate {n : ℕ} (hn : 80 < n) :
    (CString.ofBytes ((List.range n).map pingChar ++ [0])).chars.length = 80 := by
  obtain ⟨k, rfl⟩ : ∃ k, n = 80 + (k + 1) := ⟨n - 81, by omega⟩
  have hsplit : (List.range (80 + (k + 1))).map pingChar ++ [0] =
      (List.range 80).map pingChar ++ 0 :: ((List.range k).map fun j => pingChar (80 + (j + 1))) ++ [0] := by
    have hzero : pingChar (80 + 0) = 0 := by decide
    rw [List.range_add, List.map_append, List.range_succ_eq_map (n := k), List.map_cons, List.map_cons, hzero]
    simp [Function.comp_def]
  have hnul : (0 : UInt8) ∉ (List.range 80).map pingChar := by decide
  rw [hsplit, List.append_assoc, List.cons_append]
  rw [congrArg CString.chars (CString.ofBytes_terminated ⟨_, hnul⟩ _)]
  simp

lemma generatePingData_of_le {pSize : UInt32} (hpos : 1 ≤ pSize.toNat) (hle : pSize.toNat ≤ 81) :
    generatePingData pSize = some ((List.range (pSize.toNat - 1)).map pingChar ++ [0]) := by
  have hone : (1 : UInt32) ≤ pSize := UInt32.le_iff_toNat_le.mpr hpos
  have hcount : (pSize - 1).toNat = pSize.toNat - 1 := UInt32.toNat_sub_of_le _ _ hone
  rw [generatePingData, hcount, if_pos (by omega)]

/-! ## What the client learns -/

/-- The client reads this in the pong for a block. -/
def Pongs (data : List UInt8) (b : Bool) : Prop :=
  ∀ mId junk beyond heap junk' beyond' heap',
    (((encodeMsgPing (pingOf mId data)).transmitted junk).bind fun wire =>
      (processMsgPing (Memory.ofBytes wire beyond heap)).bind fun reply =>
        reply.received decodeMsgPong junk' beyond' heap').map MsgPong.verifyData = some b

/-- The generated block arrives with all its characters, which have seven bits, and is accepted. -/
def Arrives (pSize : UInt32) : Prop :=
  ∃ data, generatePingData pSize = some data ∧ Pongs data true ∧
    ∀ mId junk beyond heap, ∃ ping,
      (encodeMsgPing (pingOf mId data)).received decodeMsgPing junk beyond heap = some ping ∧
        (ping.data.map CString.chars).getD [] = data.dropLast ∧ data.dropLast.length + 1 = pSize.toNat ∧
          ∀ c ∈ data.dropLast, c < 128

/-- A block of the same size that is not the generated one is reported. -/
def Detects (pSize : UInt32) (block : List UInt8) : Prop :=
  block.length + 1 = pSize.toNat → generatePingData pSize ≠ some (block ++ [0]) → Pongs (block ++ [0]) false

/-- The server does not come back from an empty block. -/
lemma pongs_iff {data : List UInt8} (hdata : (CString.ofBytes data).chars.length < 2 ^ 30) (b : Bool) :
    Pongs data b ↔ (CString.ofBytes data).chars ≠ [] ∧
      verifyData (CString.ofBytes data) (UInt32.ofNat (CString.ofBytes data).chars.length) = b := by
  have hpong (mId junk beyond heap junk' beyond' heap') :
      (((encodeMsgPing (pingOf mId data)).transmitted junk).bind fun wire =>
        (processMsgPing (Memory.ofBytes wire beyond heap)).bind fun reply =>
          reply.received decodeMsgPong junk' beyond' heap').map MsgPong.verifyData =
        (nullIfEmpty (some (CString.ofBytes data))).map fun data =>
          verifyData data (UInt32.ofNat data.chars.length) := by
    obtain ⟨wire, hwire, hping⟩ := Option.map_eq_some_iff.mp (received_ping hdata mId junk beyond heap)
    rw [hwire, Option.bind_some, processMsgPing, hping, answerMsgPing]
    cases nullIfEmpty (some (CString.ofBytes data)) with
    | none => rfl
    | some data => rw [Option.map_some, Option.map_some, Option.bind_some, received_pong _ rfl]; rfl
  rw [nullIfEmpty] at hpong
  by_cases hnil : (CString.ofBytes data).chars = []
  · simp only [if_pos hnil] at hpong
    refine iff_of_false (fun hpongs => ?_) fun hand => hand.1 hnil
    have hnone := (hpong 0 default default default default default default).symm.trans
      (hpongs 0 default default default default default default)
    exact absurd hnone (by simp)
  · simp only [if_neg hnil, Option.map_some] at hpong
    rw [and_iff_right hnil]
    constructor
    · intro hpongs
      exact Option.some.inj ((hpong 0 default default default default default default).symm.trans
        (hpongs 0 default default default default default default))
    · intro hverify mId junk beyond heap junk' beyond' heap'
      rw [hpong, hverify]

lemma arrives_iff (pSize : UInt32) : Arrives pSize ↔ 2 ≤ pSize.toNat ∧ pSize.toNat ≤ 81 := by
  constructor
  · rintro ⟨data, hdata, hpongs, hping⟩
    rw [generatePingData] at hdata
    split_ifs at hdata with hlt
    obtain rfl := Option.some.inj hdata
    have hlen : (CString.ofBytes ((List.range (pSize - 1).toNat).map pingChar ++ [0])).chars.length < 2 ^ 30 := by
      rcases Nat.lt_or_ge 80 (pSize - 1).toNat with hgt | hle
      · rw [length_ofBytes_generate hgt]
        decide
      · rw [ofBytes_generate hle, List.length_map, List.length_range]
        omega
    obtain ⟨ping, hreceived, hchars, hsize, -⟩ := hping 0 default default default
    rw [received_ping hlen] at hreceived
    obtain rfl := Option.some.inj hreceived
    rw [List.dropLast_concat] at hchars hsize
    rw [List.length_map, List.length_range] at hsize
    obtain ⟨hne, -⟩ := (pongs_iff hlen true).mp hpongs
    have hnull : (nullIfEmpty (some (CString.ofBytes ((List.range (pSize - 1).toNat).map pingChar ++ [0])))) =
        some (CString.ofBytes ((List.range (pSize - 1).toNat).map pingChar ++ [0])) := if_neg hne
    rw [hnull] at hchars
    have hlength := congrArg List.length hchars
    rw [Option.map_some, Option.getD_some, List.length_map, List.length_range] at hlength
    have hpos := List.length_pos_iff.mpr hne
    rcases Nat.lt_or_ge 80 (pSize - 1).toNat with hgt | hle
    · rw [length_ofBytes_generate hgt] at hlength
      omega
    · omega
  · rintro ⟨hge, hle⟩
    have hchars := ofBytes_generate (n := pSize.toNat - 1) (by omega)
    have hlength : ((List.range (pSize.toNat - 1)).map pingChar).length = pSize.toNat - 1 := by simp
    have hlen : (CString.ofBytes ((List.range (pSize.toNat - 1)).map pingChar ++ [0])).chars.length < 2 ^ 30 := by
      rw [hchars, hlength]
      omega
    have hne : (CString.ofBytes ((List.range (pSize.toNat - 1)).map pingChar ++ [0])).chars ≠ [] := by
      rw [hchars, ← List.length_pos_iff, hlength]
      omega
    refine ⟨_, generatePingData_of_le (by omega) hle, (pongs_iff hlen true).mpr ⟨hne, ?_⟩,
      fun mId junk beyond heap => ⟨_, received_ping hlen mId junk beyond heap, ?_, ?_, ?_⟩⟩
    · rw [verifyData_eq_true_iff hne (lt_trans hlen (by decide)), hchars, hlength]
      intro i hi
      rw [List.getD_eq_getElem _ _ (by rw [hlength]; omega), List.getElem_map, List.getElem_range]
    · have hnull : (nullIfEmpty (some (CString.ofBytes ((List.range (pSize.toNat - 1)).map pingChar ++ [0])))) =
          some (CString.ofBytes ((List.range (pSize.toNat - 1)).map pingChar ++ [0])) := if_neg hne
      rw [hnull, Option.map_some, Option.getD_some, hchars, List.dropLast_concat]
    · rw [List.dropLast_concat, hlength]
      omega
    · intro c hc
      rw [List.dropLast_concat] at hc
      obtain ⟨i, hi, rfl⟩ := List.mem_map.mp hc
      exact (pingChar_of_lt (by have := List.mem_range.mp hi; omega)).2

/-- The characters from `0` on, in their order. -/
def sequence (n : ℕ) : List UInt8 := (List.range n).map fun i => UInt8.ofNat (48 + i)

lemma pingChar_eq {i : ℕ} (hi : i < 80) : pingChar i = UInt8.ofNat (48 + i) := by
  revert i
  decide

lemma sequence_eq {n : ℕ} (hn : n ≤ 80) : (List.range n).map pingChar = sequence n :=
  List.map_congr_left fun _ hi => pingChar_eq (lt_of_lt_of_le (List.mem_range.mp hi) hn)

lemma chars_ofBytes_concat (block : List UInt8) :
    (CString.ofBytes (block ++ [0])).chars = block.takeWhile fun c => c ≠ 0 := by
  change ((block ++ [0]).takeWhile fun c => c ≠ 0) = _
  induction block with
  | nil => rfl
  | cons c block ih =>
    rw [List.cons_append, List.takeWhile_cons, List.takeWhile_cons, ih]

/-- A ping does what it is for exactly if its size is from 2 to 81, and the block is the generated one or has
a wrong character in front of the last one of its text. -/
theorem integrity_iff (pSize : UInt32) (block : List UInt8) : Arrives pSize ∧ Detects pSize block ↔
    2 ≤ pSize.toNat ∧ pSize.toNat ≤ 81 ∧ (block.length + 1 = pSize.toNat →
      block = sequence block.length ∨ ∃ i, i + 1 < (block.takeWhile fun c => c ≠ 0).length ∧
        block.getD i 0 ≠ UInt8.ofNat (48 + i)) := by
  rw [arrives_iff, and_assoc]
  refine and_congr_right fun hge => and_congr_right fun hle => forall_congr' fun hsize => ?_
  have htext : (block.takeWhile fun c => decide (c ≠ 0)).length ≤ block.length := (List.takeWhile_prefix _).length_le
  have hlen : (CString.ofBytes (block ++ [0])).chars.length < 2 ^ 30 := by
    rw [chars_ofBytes_concat]
    omega
  have hgenerated : generatePingData pSize ≠ some (block ++ [0]) ↔ ¬block = sequence block.length := by
    rw [generatePingData_of_le (by omega) hle, sequence_eq (by omega), show pSize.toNat - 1 = block.length by omega,
      ne_eq, Option.some_inj, List.append_left_inj, eq_comm]
  have hreported : Pongs (block ++ [0]) false ↔ ∃ i, i + 1 < (block.takeWhile fun c => decide (c ≠ 0)).length ∧
      block.getD i 0 ≠ UInt8.ofNat (48 + i) := by
    rw [pongs_iff hlen]
    by_cases hne : (CString.ofBytes (block ++ [0])).chars = []
    · refine iff_of_false (fun hand => hand.1 hne) ?_
      rw [chars_ofBytes_concat] at hne
      rintro ⟨i, hi, -⟩
      rw [hne] at hi
      exact absurd hi (Nat.not_lt_zero _)
    · rw [and_iff_right hne, ← Bool.not_eq_true, verifyData_eq_true_iff hne (lt_trans hlen (by decide)),
        chars_ofBytes_concat]
      simp only [not_forall, exists_prop]
      refine exists_congr fun i => and_congr_right fun hi => ?_
      have hpre := List.takeWhile_prefix (fun c => decide (c ≠ 0)) (l := block)
      have hget : (block.takeWhile fun c => decide (c ≠ 0)).getD i 0 = block.getD i 0 := by
        rw [List.getD_eq_getElem _ _ (by omega), List.getD_eq_getElem _ _ (by omega), hpre.getElem]
      rw [hget, pingChar_eq (by omega)]
  rw [hgenerated, hreported, or_iff_not_imp_left]

/-- A block of 82 bytes loses its last character, and the server accepts a wrong last character. -/
theorem integrity_last : ¬Arrives 82 ∧ ¬Detects 3 [48, 50] := by
  constructor
  · rw [arrives_iff]
    decide
  · intro hdetects
    have hpongs := hdetects rfl (by decide)
    rw [pongs_iff (by decide)] at hpongs
    exact absurd hpongs.2 (by decide)

end Ethanol
