import EthanolHostapd.Messaging.Common
import EthanolHostapd.Wire.Grammar

/-!
# The field encoders and decoders

`buffer_handler_fun.c`.  Every message is written and read with the functions of this module: a
pointer `aux` walks through the buffer, each `encode_*` copies one field to it and each `decode_*`
copies one field from it.  Scalars are copied as they lie in memory (a little-endian machine with
`sizeof(int) = 4`, `sizeof(long) = sizeof(long long) = sizeof(void *) = 8`, `sizeof(bool) = 1`); a string
is its `strlen` as an `int`, followed by the characters and the terminator if there are any.

The size functions of the messages add `strlen_ethanol` and `bool_len_ethanol` for these fields.  They
are not the sizes that are written: a missing or empty string is written in four bytes and counted
with five, a `bool` is written in one byte and counted with four.
-/

namespace Ethanol

open Wire

/-- A `float`; only its four bytes matter, since it is copied and never computed with. -/
abbrev CFloat : Type := UInt32

/-- The number of iterations of `for (i = 0; i < n; i++)` with an `int` bound. -/
def loopCount (n : Int32) : ℕ := n.toInt.toNat

/-! ## Sizes -/

/-- `int s_len = (s == NULL) ? 0 : strlen(s)`: the length of a string, reduced to an `int`. -/
def strlenInt (s : Option CString) : Int32 :=
  match s with
  | none => 0
  | some s => Int32.ofNat s.chars.length

/-- `strlen_ethanol`: what the size functions count for a string field. -/
def strlenEthanol (s : Option CString) : Int32 := Int32.ofInt (4 + ((strlenInt s).toInt + 1))

/-- `bool_len_ethanol`: what the size functions count for a `bool` field. -/
def boolLenEthanol : Int32 := 4

/-! ## Encoders -/

/-- `encode_byte`. -/
abbrev encodeByte (aux : Out) (i : UInt8) : Out := aux.scalar i

/-- `encode_int`. -/
abbrev encodeInt (aux : Out) (i : Int32) : Out := aux.scalar i

/-- `encode_uint`. -/
abbrev encodeUint (aux : Out) (i : UInt32) : Out := aux.scalar i

/-- `encode_short`. -/
abbrev encodeShort (aux : Out) (i : Int16) : Out := aux.scalar i

/-- `encode_long`. -/
abbrev encodeLong (aux : Out) (i : Int64) : Out := aux.scalar i

/-- `encode_2long`. -/
abbrev encode2long (aux : Out) (i : Int64) : Out := aux.scalar i

/-- `encode_u2long`. -/
abbrev encodeU2long (aux : Out) (i : UInt64) : Out := aux.scalar i

/-- `encode_bool`. -/
abbrev encodeBool (aux : Out) (b : Bool) : Out := aux.scalar b

/-- `encode_float`. -/
abbrev encodeFloat (aux : Out) (f : CFloat) : Out := aux.scalar f

/-- `encode_char`: the length, then the characters with the terminator unless the length is zero.
`strcpy` copies the whole string, whereas the pointer moves by the length that fits an `int`. -/
def encodeChar (aux : Out) (s : Option CString) : Out :=
  let sLen := strlenInt s
  let aux := encodeInt aux sLen
  match s with
  | none => aux
  | some s => if 0 < sLen.toInt then aux.strcpy s (sLen.toInt + 1).toNat else aux

/-- `encode_header`: the version on the wire is always `ETHANOL_VERSION`. -/
def encodeHeader (aux : Out) (mType mId mSize : Int32) : Out :=
  let aux := encodeInt aux mType
  let aux := encodeInt aux mId
  let aux := encodeChar aux (some ethanolVersion)
  encodeInt aux mSize

/-- What an `encode_msg_*` function hands back: the buffer and the length it was allocated with. -/
structure Encoded where
  /-- `*buf_len`: the argument of `malloc`, the `m_size` of the header and the length sent. -/
  bufLen : Int32
  /-- The encoder at the end of the message. -/
  out : Out
  deriving DecidableEq

namespace Encoded

/-- Everything that was written lies inside the allocated block.  A negative `*buf_len` asks
`malloc` for more than the address space, so there is no block to write to. -/
def InBuffer (e : Encoded) : Prop := (e.out.extent : ℤ) ≤ e.bufLen.toInt

instance (e : Encoded) : Decidable e.InBuffer := inferInstanceAs (Decidable (_ ≤ _))

/-- The bytes `SSL_write` sends from the buffer, `junk` being what the block held before.  There is
no defined message when the encoder wrote outside its block. -/
def transmitted (e : Encoded) (junk : ℕ → UInt8) : Option (List UInt8) :=
  if e.InBuffer then
    some ((List.range e.bufLen.toInt.toNat).map fun i => e.out.bytes.getD i (junk i))
  else none

end Encoded

/-! ## Decoders -/

/-- `decode_byte`. -/
abbrev decodeByte : Decoder UInt8 := Decoder.scalar UInt8

/-- `decode_int`. -/
abbrev decodeInt : Decoder Int32 := Decoder.scalar Int32

/-- `decode_uint`. -/
abbrev decodeUint : Decoder UInt32 := Decoder.scalar UInt32

/-- `decode_short`. -/
abbrev decodeShort : Decoder Int16 := Decoder.scalar Int16

/-- `decode_long`. -/
abbrev decodeLong : Decoder Int64 := Decoder.scalar Int64

/-- `decode_2long`. -/
abbrev decode2long : Decoder Int64 := Decoder.scalar Int64

/-- `decode_u2long`. -/
abbrev decodeU2long : Decoder UInt64 := Decoder.scalar UInt64

/-- `decode_bool`. -/
abbrev decodeBool : Decoder Bool := Decoder.scalar Bool

/-- `decode_float`. -/
abbrev decodeFloat : Decoder CFloat := Decoder.scalar CFloat

/-- `*s = malloc(n); strncpy(*s, *buf, n); *buf += n`.  `strncpy` stops reading behind the first NUL.
If there is none among the `n` bytes the copy is not terminated and the string goes on with whatever
follows the block on the heap. -/
def strncpy (n : ℕ) : Decoder CString := fun m c =>
  let src := m.slice c.pos n
  let copied := (src.takeWhile (· ≠ 0)).length
  (CString.ofBytes (src ++ m.heap c.pos),
    ⟨c.pos + n, c.reads ++ List.range' c.pos (min n (copied + 1))⟩)

/-- The number of bytes `decode_char` takes for a string of the given length field: none for an empty
string, otherwise `s_len + 1`, computed as an `unsigned int`. -/
def charBlock (sLen : UInt32) : ℕ := if sLen = 0 then 0 else (sLen + 1).toNat

/-- `decode_char`. -/
def decodeChar : Decoder (Option CString) := do
  let sLen ← decodeUint
  if sLen = 0 then
    pure none
  else
    let s ← strncpy (charBlock sLen)
    pure (some s)

/-- The four values `decode_header` stores through its pointers. -/
structure Header where
  mType : Int32
  mId : Int32
  mVersion : Option CString
  mSize : Int32
  deriving DecidableEq

/-- `decode_header`. -/
def decodeHeader : Decoder Header := do
  let mType ← decodeInt
  let mId ← decodeInt
  let mVersion ← decodeChar
  let mSize ← decodeInt
  pure { mType, mId, mVersion, mSize }

/-- `return_message_type`: the first word of the buffer; the length of the buffer is not used. -/
def returnMessageType (m : Memory) : Int32 := (decodeInt m Cursor.start).1

end Ethanol
