import EthanolHostapd.Messaging.FlatMessages

/-!
# Messages without loops arrive

What the functions of a `FlatCodec` must agree on is `Coherent`, which is decided for each message.  From it follows, for all
of them, what a receiver makes of an encoded message (`flatMessages_received`) and how many bytes of the buffer are sent that
nobody wrote.
-/

namespace Ethanol

open Wire

namespace FieldKind

/-! ## One member -/

/-- The wire image of a member. -/
def bytes : (k : FieldKind) → k.Value → List UInt8
  | .str, s => charBytes s
  | .ushort, i => Scalar.toBytes i
  | .int, i => Scalar.toBytes i
  | .uint, i => Scalar.toBytes i
  | .long, i => Scalar.toBytes i
  | .ulong, i => Scalar.toBytes i
  | .twoLong, i => Scalar.toBytes i
  | .bool, b => Scalar.toBytes b
  | .float, f => Scalar.toBytes f
  | .longdouble, d => Scalar.toBytes d

/-- What arrives of a member. -/
def arrives : (k : FieldKind) → k.Value → k.Value
  | .str, s => nullIfEmpty s
  | _, v => v

/-- Only strings may change on the way. -/
lemma arrives_of_ne {k : FieldKind} (hk : k ≠ .str) (v : k.Value) : k.arrives v = v := by
  cases k with
  | str => exact absurd rfl hk
  | _ => rfl

lemma encode_ofBytes (k : FieldKind) {v : k.Value} (h : StrFits (k.strOf v)) (bs : List UInt8) :
    k.encode (Out.ofBytes bs) v = Out.ofBytes (bs ++ k.bytes v) := by
  cases k with
  | str => exact encodeChar_ofBytes h bs
  | _ => exact Out.ofBytes_scalar bs _

lemma decodes (k : FieldKind) {v : k.Value} (h : StrFits (k.strOf v)) :
    Decodes k.decode (k.bytes v) (k.arrives v) := by
  cases k with
  | str => exact decodes_char h
  | _ => exact Decodes.scalar _

/-- What is counted for a member; `boolLen` says that a `bool` is counted by `bool_len_ethanol`. -/
def fullSize (boolLen : Bool) : (k : FieldKind) → k.Value → ℤ
  | .str, s => strSize s
  | .bool, _ => if boolLen then 4 else 1
  | k, _ => k.sizeof

/-- What is counted for a member and not written. -/
def slack (boolLen : Bool) : (k : FieldKind) → k.Value → ℕ
  | .str, s => strSlack s
  | .bool, _ => if boolLen then 3 else 0
  | _, _ => 0

lemma fullSize_eq (boolLen : Bool) (k : FieldKind) (v : k.Value) :
    k.fullSize boolLen v = (k.bytes v).length + k.slack boolLen v := by
  cases k with
  | str =>
    have hlen := length_charBytes v
    simp only [fullSize, bytes, slack, strSize]
    omega
  | bool => cases boolLen <;> simp [fullSize, bytes, slack]
  | _ => exact (congrArg Int.ofNat (Scalar.length_toBytes v).symm).trans (add_zero _).symm

lemma fullSize_nonneg (boolLen : Bool) (k : FieldKind) (v : k.Value) : 0 ≤ k.fullSize boolLen v := by
  rw [fullSize_eq]
  omega

/-- A string is counted with its size. -/
lemma strSize_le (boolLen : Bool) (k : FieldKind) (v : k.Value) :
    k.strOf v = none ∨ strSize (k.strOf v) ≤ k.fullSize boolLen v := by
  cases k with
  | str => exact .inr le_rfl
  | _ => exact .inl rfl

lemma fullSize_le (boolLen : Bool) (k : FieldKind) {v w : k.Value} (h : strLen (k.strOf v) ≤ strLen (k.strOf w)) :
    k.fullSize boolLen v ≤ k.fullSize boolLen w := by
  cases k with
  | str => exact add_le_add_left (Int.ofNat_le.mpr h) 5
  | _ => exact le_rfl

lemma slack_le (boolLen : Bool) (k : FieldKind) (v : k.Value) : k.slack boolLen v ≤ 3 := by
  cases k with
  | str => exact (strSlack_le_one v).trans (by norm_num)
  | bool => cases boolLen <;> simp [slack]
  | _ => exact Nat.zero_le 3

end FieldKind

namespace FlatCodec

variable {c : FlatCodec}

/-! ## Several members -/

/-- The wire image of the members. -/
def fieldBytes (c : FlatCodec) (v : MsgFields c) (fields : List MsgField) : List UInt8 :=
  fields.flatMap fun f => (c.kind f).bytes (v f)

lemma encodeFields_ofBytes {v : MsgFields c} (fields : List MsgField)
    (hfits : ∀ f ∈ fields, StrFits ((c.kind f).strOf (v f))) (bs : List UInt8) :
    c.encodeFields v fields (Out.ofBytes bs) = Out.ofBytes (bs ++ c.fieldBytes v fields) := by
  induction fields generalizing bs with
  | nil => simp [encodeFields, fieldBytes]
  | cons f fields ih =>
    have hf := (c.kind f).encode_ofBytes (hfits f List.mem_cons_self) bs
    have hrest := ih (fun g hg => hfits g (List.mem_cons_of_mem f hg)) (bs ++ (c.kind f).bytes (v f))
    simp only [encodeFields, List.foldl_cons, hf] at hrest ⊢
    rw [hrest, fieldBytes, fieldBytes, List.flatMap_cons, List.append_assoc]

/-- The structure after some members have arrived. -/
def filled (c : FlatCodec) (v : MsgFields c) (fields : List MsgField) (fresh : MsgFields c) : MsgFields c :=
  fields.foldl (fun acc f => Function.update acc f ((c.kind f).arrives (v f))) fresh

lemma decodes_fields {v : MsgFields c} (fields : List MsgField)
    (hfits : ∀ f ∈ fields, StrFits ((c.kind f).strOf (v f))) (fresh : MsgFields c) :
    Decodes (c.decodeFields fields fresh) (c.fieldBytes v fields) (c.filled v fields fresh) := by
  induction fields generalizing fresh with
  | nil => exact Decodes.pure fresh
  | cons f fields ih =>
    have hf := (c.kind f).decodes (hfits f List.mem_cons_self)
    exact hf.bind (ih (fun g hg => hfits g (List.mem_cons_of_mem f hg)) _)

/-- Each member is what arrived; the others are as before. -/
lemma filled_apply (v : MsgFields c) (fields : List MsgField) (fresh : MsgFields c) (f : MsgField) :
    c.filled v fields fresh f = if f ∈ fields then (c.kind f).arrives (v f) else fresh f := by
  induction fields generalizing fresh with
  | nil => rfl
  | cons g fields ih =>
    rw [filled, List.foldl_cons]
    refine (ih _).trans ?_
    by_cases hf : f ∈ fields
    · simp [hf]
    · by_cases hg : f = g
      · subst hg
        simp
      · simp [hf, hg]

/-! ## Sizes -/

/-- The summand that counts a member. -/
def termOf (c : FlatCodec) (f : MsgField) : SizeTerm :=
  match c.kind f with
  | .str => .strlen f
  | .bool => if .boolLen ∈ c.size then .boolLen else .sizeof f
  | _ => .sizeof f

/-- The functions of a message agree: what is encoded is decoded, and each member that is encoded is counted. -/
structure Coherent (c : FlatCodec) : Prop where
  decode : c.decode = c.encode
  size : c.size.Perm (c.encode.map c.termOf)

instance (c : FlatCodec) : Decidable c.Coherent :=
  decidable_of_iff (c.decode = c.encode ∧ c.size.Perm (c.encode.map c.termOf))
    ⟨fun h => ⟨h.1, h.2⟩, fun h => ⟨h.decode, h.size⟩⟩

/-- The functions of every message agree. -/
lemma coherent_of_mem (hc : c ∈ FlatCodec.all) : c.Coherent := by
  revert c
  decide +kernel

/-- The value of a summand without overflow. -/
def fullTermSize (c : FlatCodec) (v : MsgFields c) : SizeTerm → ℤ
  | .strlen f => strSize ((c.kind f).strOf (v f))
  | .sizeof f => (c.kind f).sizeof
  | .boolLen => 4

/-- The size of a message of this version without overflow. -/
def fullSize (c : FlatCodec) (h : FlatMsg c) : ℤ := 22 + (c.size.map (c.fullTermSize h.field)).sum

lemma termSize_modEq (v : MsgFields c) (t : SizeTerm) : c.termSize v t ≡ c.fullTermSize v t [ZMOD 2 ^ 32] := by
  cases t with
  | strlen f => exact strlenEthanol_modEq _
  | sizeof f => rfl
  | boolLen => rfl

lemma sizeMsg_eq {h : FlatMsg c} (hv : h.pVersion = some ethanolVersion) :
    c.sizeMsg h = Int32.ofInt (c.fullSize h) := by
  have hheader : 4 + 4 + (strlenEthanol h.pVersion).toInt + 4 = 22 := by
    rw [hv]
    rfl
  rw [sizeMsg, hheader]
  exact ofInt_eq_of_modEq ((sum_map_modEq (termSize_modEq h.field) c.size).add_left 22)

/-- The `bool` members are counted by `bool_len_ethanol`. -/
def countsBoolLen (c : FlatCodec) : Bool := decide (.boolLen ∈ c.size)

/-- The bytes of the buffer that nobody writes. -/
def slack (c : FlatCodec) (h : FlatMsg c) : ℕ :=
  (c.encode.map fun f => (c.kind f).slack c.countsBoolLen (h.field f)).sum

/-- What is counted for a member. -/
lemma fullTermSize_termOf (v : MsgFields c) (f : MsgField) :
    c.fullTermSize v (c.termOf f) = (c.kind f).fullSize c.countsBoolLen (v f) := by
  have hstr (k : FieldKind) (w : k.Value) (hk : k = .str) :
      strSize (k.strOf w) = k.fullSize c.countsBoolLen w := by
    subst hk
    rfl
  have hbool (k : FieldKind) (w : k.Value) (hk : k = .bool) :
      k.fullSize c.countsBoolLen w = if .boolLen ∈ c.size then 4 else 1 := by
    subst hk
    simp [FieldKind.fullSize, countsBoolLen]
  have hother (k : FieldKind) (w : k.Value) (hk : k ≠ .str ∧ k ≠ .bool) :
      k.fullSize c.countsBoolLen w = k.sizeof := by
    cases k with
    | str => exact absurd rfl hk.1
    | bool => exact absurd rfl hk.2
    | _ => rfl
  unfold termOf
  split
  · rename_i hk
    exact hstr _ _ hk
  · rename_i hk
    rw [hbool _ _ hk]
    split
    · rfl
    · simp [fullTermSize, hk, FieldKind.sizeof]
  · rename_i hstr hbool
    exact (hother _ _ ⟨hstr, hbool⟩).symm

/-- Each member that is encoded is counted. -/
lemma Coherent.fullSize_sum (hc : c.Coherent) (h : FlatMsg c) :
    c.fullSize h = 22 + (c.encode.map fun f => (c.kind f).fullSize c.countsBoolLen (h.field f)).sum := by
  rw [fullSize, (hc.size.map _).sum_eq, List.map_map]
  exact congrArg (22 + List.sum ·) (List.map_congr_left fun f _ => fullTermSize_termOf h.field f)

/-- The size of a message is what is written and the slack. -/
lemma Coherent.fullSize_eq (hc : c.Coherent) (h : FlatMsg c) :
    c.fullSize h = 22 + (c.fieldBytes h.field c.encode).length + c.slack h := by
  rw [hc.fullSize_sum, slack, fieldBytes]
  generalize c.encode = fields
  induction fields with
  | nil => simp
  | cons f fields ih =>
    have hf := (c.kind f).fullSize_eq c.countsBoolLen (h.field f)
    simp only [List.map_cons, List.sum_cons, List.flatMap_cons, List.length_append, Nat.cast_add] at ih ⊢
    rw [hf]
    omega

/-- A message whose size is an `int` has strings whose lengths are. -/
lemma Coherent.strFits (hc : c.Coherent) {h : FlatMsg c} (hsize : c.fullSize h < 2 ^ 31) {f : MsgField}
    (hf : f ∈ c.encode) : StrFits ((c.kind f).strOf (h.field f)) := by
  have hle := le_sum_map
    (fun f _ => FieldKind.fullSize_nonneg c.countsBoolLen (c.kind f) (h.field f)) hf
  have hstr := FieldKind.strSize_le c.countsBoolLen (c.kind f) (h.field f)
  rw [hc.fullSize_sum] at hsize
  rcases hstr with hstr | hstr
  · rw [hstr]
    exact strFits_none
  · exact strFits_of_strSize_le (hstr.trans hle) (by omega)

/-- A message with shorter strings is no larger. -/
lemma Coherent.fullSize_le (hc : c.Coherent) {h h' : FlatMsg c}
    (hle : ∀ f ∈ c.encode, strLen ((c.kind f).strOf (h'.field f)) ≤ strLen ((c.kind f).strOf (h.field f))) :
    c.fullSize h' ≤ c.fullSize h := by
  rw [hc.fullSize_sum, hc.fullSize_sum]
  gcongr 22 + ?_
  exact List.sum_le_sum fun f hf => FieldKind.fullSize_le _ _ (hle f hf)

/-! ## A message -/

/-- The wire image of a message. -/
def msgBytes (c : FlatCodec) (h : FlatMsg c) : List UInt8 :=
  headerBytes h.mType h.mId (c.sizeMsg h) ++ c.fieldBytes h.field c.encode

lemma encodeMsg_eq {h : FlatMsg c} (hfits : ∀ f ∈ c.encode, StrFits ((c.kind f).strOf (h.field f))) :
    c.encodeMsg h = ⟨c.sizeMsg h, Out.ofBytes (c.msgBytes h)⟩ := by
  have hfields := encodeFields_ofBytes c.encode hfits (headerBytes h.mType h.mId (c.sizeMsg h))
  simp only [encodeMsg, encodeHeader_ofBytes, List.nil_append, hfields, msgBytes]

/-- What arrives of a message. -/
def arrived (c : FlatCodec) (h : FlatMsg c) (fresh : MsgFields c) : FlatMsg c where
  mType := h.mType
  mId := h.mId
  pVersion := some ethanolVersion
  mSize := c.sizeMsg h
  field f := if f ∈ c.encode then (c.kind f).arrives (h.field f) else fresh f

lemma Coherent.decodes_msg (hc : c.Coherent) {h : FlatMsg c}
    (hfits : ∀ f ∈ c.encode, StrFits ((c.kind f).strOf (h.field f))) (fresh : MsgFields c) :
    Decodes (c.decodeMsg fresh) (c.msgBytes h) (c.arrived h fresh) := by
  have hfields := decodes_fields c.encode hfits fresh
  rw [funext (filled_apply h.field c.encode fresh)] at hfields
  unfold decodeMsg msgBytes
  rw [hc.decode]
  exact (decodes_header _ _ _).bind (hfields.map fun field => (⟨_, _, _, _, field⟩ : FlatMsg c))

lemma length_encode_le (hc : c ∈ FlatCodec.all) : c.encode.length ≤ 12 := by
  revert c
  decide +kernel

lemma slack_le (h : FlatMsg c) : c.slack h ≤ c.encode.length * 3 := by
  unfold slack
  refine (List.sum_le_card_nsmul _ 3 ?_).trans_eq (by simp)
  intro n hn
  obtain ⟨f, -, rfl⟩ := List.mem_map.mp hn
  exact (c.kind f).slack_le _ _

/-- The encoder stays in its buffer if and only if the size is an `int`. -/
lemma Coherent.inBuffer_iff (hc : c.Coherent) (hlen : c.encode.length ≤ 12) {h : FlatMsg c} (hv : h.pVersion = some ethanolVersion)
    (hfits : ∀ f ∈ c.encode, StrFits ((c.kind f).strOf (h.field f))) :
    (c.encodeMsg h).InBuffer ↔ c.fullSize h < 2 ^ 31 := by
  have hbytes : (c.msgBytes h).length = 22 + (c.fieldBytes h.field c.encode).length := by
    rw [msgBytes, List.length_append, length_headerBytes]
  have hsize := hc.fullSize_eq h
  have hslack := slack_le h
  rw [encodeMsg_eq hfits, sizeMsg_eq hv, Encoded.inBuffer_iff (by omega) (by omega)]
  exact and_iff_right (by omega)

/-- What is sent starts with the wire image. -/
lemma transmitted_msg (hc : c ∈ FlatCodec.all) {h : FlatMsg c} (hv : h.pVersion = some ethanolVersion)
    (hsize : c.fullSize h < 2 ^ 31) (junk : ℕ → UInt8) :
    ∃ rest, (c.encodeMsg h).transmitted junk = some (c.msgBytes h ++ rest) := by
  have hcoherent := coherent_of_mem hc
  have hfits : ∀ f ∈ c.encode, StrFits ((c.kind f).strOf (h.field f)) := fun f => hcoherent.strFits hsize
  have hin := (hcoherent.inBuffer_iff (length_encode_le hc) hv hfits).mpr hsize
  rw [encodeMsg_eq hfits] at hin ⊢
  have hle : ((c.msgBytes h).length : ℤ) ≤ (c.sizeMsg h).toInt := hin
  have hlen : (c.msgBytes h).length ≤ (c.sizeMsg h).toInt.toNat := by omega
  rw [Encoded.transmitted, if_pos hin]
  exact ⟨_, congrArg some (Encoded.map_getD_range hlen junk)⟩

/-- What a receiver makes of the wire image, whatever lies behind it. -/
lemma decodeMsg_msgBytes (hc : c ∈ FlatCodec.all) {h : FlatMsg c} (hsize : c.fullSize h < 2 ^ 31) (fresh : MsgFields c)
    (rest : List UInt8) (beyond : ℕ → UInt8) (heap : ℕ → List UInt8) :
    (c.decodeMsg fresh (Memory.ofBytes (c.msgBytes h ++ rest) beyond heap) Cursor.start).1 = c.arrived h fresh := by
  have hcoherent := coherent_of_mem hc
  exact (hcoherent.decodes_msg (fun f => hcoherent.strFits hsize) fresh _ _ (Memory.ofBytes_holds _ _ _ _)).1

/-- The header of the wire image. -/
lemma decodeHeader_msgBytes (h : FlatMsg c) (rest : List UInt8) (beyond : ℕ → UInt8) (heap : ℕ → List UInt8) :
    (decodeHeader (Memory.ofBytes (c.msgBytes h ++ rest) beyond heap) Cursor.start).1 =
      ⟨h.mType, h.mId, some ethanolVersion, c.sizeMsg h⟩ := by
  rw [msgBytes, List.append_assoc]
  exact (decodes_header _ _ _ _ _ (Memory.ofBytes_holds _ _ _ _)).1

end FlatCodec

end Ethanol
