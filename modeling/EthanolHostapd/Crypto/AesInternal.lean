import Mathlib.Data.List.Basic
import Mathlib.Data.Fintype.Pi

/-!
# The block cipher

`crypto/aes-internal.c`, `aes-internal-enc.c` and `aes-internal-dec.c` with `AES_SMALL_TABLES`: the expansion of a key, the
encryption of a block and its decryption, by tables of words.

Decryption works with tables and round keys of its own: the round keys are put into reverse order, and all but the first
and the last one are transformed by the inverse of the column mixing.  A round of decryption then undoes a round of
encryption up to the substitution of the bytes: the state of the decryption is that of the encryption with its bytes
substituted and its rows shifted (`AesState.subShift`).  What is needed of the tables is that one of them undoes
the other, byte by byte, and that the table of the decryption is linear in the byte before the substitution.
-/

namespace Ethanol

/-! ## Tables -/

/-- `Te0`. -/
def te0Table : List UInt32 := [
  0xc66363a5, 0xf87c7c84, 0xee777799, 0xf67b7b8d, 0xfff2f20d, 0xd66b6bbd, 0xde6f6fb1, 0x91c5c554,
  0x60303050, 0x02010103, 0xce6767a9, 0x562b2b7d, 0xe7fefe19, 0xb5d7d762, 0x4dababe6, 0xec76769a,
  0x8fcaca45, 0x1f82829d, 0x89c9c940, 0xfa7d7d87, 0xeffafa15, 0xb25959eb, 0x8e4747c9, 0xfbf0f00b,
  0x41adadec, 0xb3d4d467, 0x5fa2a2fd, 0x45afafea, 0x239c9cbf, 0x53a4a4f7, 0xe4727296, 0x9bc0c05b,
  0x75b7b7c2, 0xe1fdfd1c, 0x3d9393ae, 0x4c26266a, 0x6c36365a, 0x7e3f3f41, 0xf5f7f702, 0x83cccc4f,
  0x6834345c, 0x51a5a5f4, 0xd1e5e534, 0xf9f1f108, 0xe2717193, 0xabd8d873, 0x62313153, 0x2a15153f,
  0x0804040c, 0x95c7c752, 0x46232365, 0x9dc3c35e, 0x30181828, 0x379696a1, 0x0a05050f, 0x2f9a9ab5,
  0x0e070709, 0x24121236, 0x1b80809b, 0xdfe2e23d, 0xcdebeb26, 0x4e272769, 0x7fb2b2cd, 0xea75759f,
  0x1209091b, 0x1d83839e, 0x582c2c74, 0x341a1a2e, 0x361b1b2d, 0xdc6e6eb2, 0xb45a5aee, 0x5ba0a0fb,
  0xa45252f6, 0x763b3b4d, 0xb7d6d661, 0x7db3b3ce, 0x5229297b, 0xdde3e33e, 0x5e2f2f71, 0x13848497,
  0xa65353f5, 0xb9d1d168, 0x00000000, 0xc1eded2c, 0x40202060, 0xe3fcfc1f, 0x79b1b1c8, 0xb65b5bed,
  0xd46a6abe, 0x8dcbcb46, 0x67bebed9, 0x7239394b, 0x944a4ade, 0x984c4cd4, 0xb05858e8, 0x85cfcf4a,
  0xbbd0d06b, 0xc5efef2a, 0x4faaaae5, 0xedfbfb16, 0x864343c5, 0x9a4d4dd7, 0x66333355, 0x11858594,
  0x8a4545cf, 0xe9f9f910, 0x04020206, 0xfe7f7f81, 0xa05050f0, 0x783c3c44, 0x259f9fba, 0x4ba8a8e3,
  0xa25151f3, 0x5da3a3fe, 0x804040c0, 0x058f8f8a, 0x3f9292ad, 0x219d9dbc, 0x70383848, 0xf1f5f504,
  0x63bcbcdf, 0x77b6b6c1, 0xafdada75, 0x42212163, 0x20101030, 0xe5ffff1a, 0xfdf3f30e, 0xbfd2d26d,
  0x81cdcd4c, 0x180c0c14, 0x26131335, 0xc3ecec2f, 0xbe5f5fe1, 0x359797a2, 0x884444cc, 0x2e171739,
  0x93c4c457, 0x55a7a7f2, 0xfc7e7e82, 0x7a3d3d47, 0xc86464ac, 0xba5d5de7, 0x3219192b, 0xe6737395,
  0xc06060a0, 0x19818198, 0x9e4f4fd1, 0xa3dcdc7f, 0x44222266, 0x542a2a7e, 0x3b9090ab, 0x0b888883,
  0x8c4646ca, 0xc7eeee29, 0x6bb8b8d3, 0x2814143c, 0xa7dede79, 0xbc5e5ee2, 0x160b0b1d, 0xaddbdb76,
  0xdbe0e03b, 0x64323256, 0x743a3a4e, 0x140a0a1e, 0x924949db, 0x0c06060a, 0x4824246c, 0xb85c5ce4,
  0x9fc2c25d, 0xbdd3d36e, 0x43acacef, 0xc46262a6, 0x399191a8, 0x319595a4, 0xd3e4e437, 0xf279798b,
  0xd5e7e732, 0x8bc8c843, 0x6e373759, 0xda6d6db7, 0x018d8d8c, 0xb1d5d564, 0x9c4e4ed2, 0x49a9a9e0,
  0xd86c6cb4, 0xac5656fa, 0xf3f4f407, 0xcfeaea25, 0xca6565af, 0xf47a7a8e, 0x47aeaee9, 0x10080818,
  0x6fbabad5, 0xf0787888, 0x4a25256f, 0x5c2e2e72, 0x381c1c24, 0x57a6a6f1, 0x73b4b4c7, 0x97c6c651,
  0xcbe8e823, 0xa1dddd7c, 0xe874749c, 0x3e1f1f21, 0x964b4bdd, 0x61bdbddc, 0x0d8b8b86, 0x0f8a8a85,
  0xe0707090, 0x7c3e3e42, 0x71b5b5c4, 0xcc6666aa, 0x904848d8, 0x06030305, 0xf7f6f601, 0x1c0e0e12,
  0xc26161a3, 0x6a35355f, 0xae5757f9, 0x69b9b9d0, 0x17868691, 0x99c1c158, 0x3a1d1d27, 0x279e9eb9,
  0xd9e1e138, 0xebf8f813, 0x2b9898b3, 0x22111133, 0xd26969bb, 0xa9d9d970, 0x078e8e89, 0x339494a7,
  0x2d9b9bb6, 0x3c1e1e22, 0x15878792, 0xc9e9e920, 0x87cece49, 0xaa5555ff, 0x50282878, 0xa5dfdf7a,
  0x038c8c8f, 0x59a1a1f8, 0x09898980, 0x1a0d0d17, 0x65bfbfda, 0xd7e6e631, 0x844242c6, 0xd06868b8,
  0x824141c3, 0x299999b0, 0x5a2d2d77, 0x1e0f0f11, 0x7bb0b0cb, 0xa85454fc, 0x6dbbbbd6, 0x2c16163a]

/-- `Td0`. -/
def td0Table : List UInt32 := [
  0x51f4a750, 0x7e416553, 0x1a17a4c3, 0x3a275e96, 0x3bab6bcb, 0x1f9d45f1, 0xacfa58ab, 0x4be30393,
  0x2030fa55, 0xad766df6, 0x88cc7691, 0xf5024c25, 0x4fe5d7fc, 0xc52acbd7, 0x26354480, 0xb562a38f,
  0xdeb15a49, 0x25ba1b67, 0x45ea0e98, 0x5dfec0e1, 0xc32f7502, 0x814cf012, 0x8d4697a3, 0x6bd3f9c6,
  0x038f5fe7, 0x15929c95, 0xbf6d7aeb, 0x955259da, 0xd4be832d, 0x587421d3, 0x49e06929, 0x8ec9c844,
  0x75c2896a, 0xf48e7978, 0x99583e6b, 0x27b971dd, 0xbee14fb6, 0xf088ad17, 0xc920ac66, 0x7dce3ab4,
  0x63df4a18, 0xe51a3182, 0x97513360, 0x62537f45, 0xb16477e0, 0xbb6bae84, 0xfe81a01c, 0xf9082b94,
  0x70486858, 0x8f45fd19, 0x94de6c87, 0x527bf8b7, 0xab73d323, 0x724b02e2, 0xe31f8f57, 0x6655ab2a,
  0xb2eb2807, 0x2fb5c203, 0x86c57b9a, 0xd33708a5, 0x302887f2, 0x23bfa5b2, 0x02036aba, 0xed16825c,
  0x8acf1c2b, 0xa779b492, 0xf307f2f0, 0x4e69e2a1, 0x65daf4cd, 0x0605bed5, 0xd134621f, 0xc4a6fe8a,
  0x342e539d, 0xa2f355a0, 0x058ae132, 0xa4f6eb75, 0x0b83ec39, 0x4060efaa, 0x5e719f06, 0xbd6e1051,
  0x3e218af9, 0x96dd063d, 0xdd3e05ae, 0x4de6bd46, 0x91548db5, 0x71c45d05, 0x0406d46f, 0x605015ff,
  0x1998fb24, 0xd6bde997, 0x894043cc, 0x67d99e77, 0xb0e842bd, 0x07898b88, 0xe7195b38, 0x79c8eedb,
  0xa17c0a47, 0x7c420fe9, 0xf8841ec9, 0x00000000, 0x09808683, 0x322bed48, 0x1e1170ac, 0x6c5a724e,
  0xfd0efffb, 0x0f853856, 0x3daed51e, 0x362d3927, 0x0a0fd964, 0x685ca621, 0x9b5b54d1, 0x24362e3a,
  0x0c0a67b1, 0x9357e70f, 0xb4ee96d2, 0x1b9b919e, 0x80c0c54f, 0x61dc20a2, 0x5a774b69, 0x1c121a16,
  0xe293ba0a, 0xc0a02ae5, 0x3c22e043, 0x121b171d, 0x0e090d0b, 0xf28bc7ad, 0x2db6a8b9, 0x141ea9c8,
  0x57f11985, 0xaf75074c, 0xee99ddbb, 0xa37f60fd, 0xf701269f, 0x5c72f5bc, 0x44663bc5, 0x5bfb7e34,
  0x8b432976, 0xcb23c6dc, 0xb6edfc68, 0xb8e4f163, 0xd731dcca, 0x42638510, 0x13972240, 0x84c61120,
  0x854a247d, 0xd2bb3df8, 0xaef93211, 0xc729a16d, 0x1d9e2f4b, 0xdcb230f3, 0x0d8652ec, 0x77c1e3d0,
  0x2bb3166c, 0xa970b999, 0x119448fa, 0x47e96422, 0xa8fc8cc4, 0xa0f03f1a, 0x567d2cd8, 0x223390ef,
  0x87494ec7, 0xd938d1c1, 0x8ccaa2fe, 0x98d40b36, 0xa6f581cf, 0xa57ade28, 0xdab78e26, 0x3fadbfa4,
  0x2c3a9de4, 0x5078920d, 0x6a5fcc9b, 0x547e4662, 0xf68d13c2, 0x90d8b8e8, 0x2e39f75e, 0x82c3aff5,
  0x9f5d80be, 0x69d0937c, 0x6fd52da9, 0xcf2512b3, 0xc8ac993b, 0x10187da7, 0xe89c636e, 0xdb3bbb7b,
  0xcd267809, 0x6e5918f4, 0xec9ab701, 0x834f9aa8, 0xe6956e65, 0xaaffe67e, 0x21bccf08, 0xef15e8e6,
  0xbae79bd9, 0x4a6f36ce, 0xea9f09d4, 0x29b07cd6, 0x31a4b2af, 0x2a3f2331, 0xc6a59430, 0x35a266c0,
  0x744ebc37, 0xfc82caa6, 0xe090d0b0, 0x33a7d815, 0xf104984a, 0x41ecdaf7, 0x7fcd500e, 0x1791f62f,
  0x764dd68d, 0x43efb04d, 0xccaa4d54, 0xe49604df, 0x9ed1b5e3, 0x4c6a881b, 0xc12c1fb8, 0x4665517f,
  0x9d5eea04, 0x018c355d, 0xfa877473, 0xfb0b412e, 0xb3671d5a, 0x92dbd252, 0xe9105633, 0x6dd64713,
  0x9ad7618c, 0x37a10c7a, 0x59f8148e, 0xeb133c89, 0xcea927ee, 0xb761c935, 0xe11ce5ed, 0x7a47b13c,
  0x9cd2df59, 0x55f2733f, 0x1814ce79, 0x73c737bf, 0x53f7cdea, 0x5ffdaa5b, 0xdf3d6f14, 0x7844db86,
  0xcaaff381, 0xb968c43e, 0x3824342c, 0xc2a3405f, 0x161dc372, 0xbce2250c, 0x283c498b, 0xff0d9541,
  0x39a80171, 0x080cb3de, 0xd8b4e49c, 0x6456c190, 0x7bcb8461, 0xd532b670, 0x486c5c74, 0xd0b85742]

/-- `Td4s`. -/
def td4sTable : List UInt8 := [
  0x52, 0x09, 0x6a, 0xd5, 0x30, 0x36, 0xa5, 0x38, 0xbf, 0x40, 0xa3, 0x9e, 0x81, 0xf3, 0xd7, 0xfb,
  0x7c, 0xe3, 0x39, 0x82, 0x9b, 0x2f, 0xff, 0x87, 0x34, 0x8e, 0x43, 0x44, 0xc4, 0xde, 0xe9, 0xcb,
  0x54, 0x7b, 0x94, 0x32, 0xa6, 0xc2, 0x23, 0x3d, 0xee, 0x4c, 0x95, 0x0b, 0x42, 0xfa, 0xc3, 0x4e,
  0x08, 0x2e, 0xa1, 0x66, 0x28, 0xd9, 0x24, 0xb2, 0x76, 0x5b, 0xa2, 0x49, 0x6d, 0x8b, 0xd1, 0x25,
  0x72, 0xf8, 0xf6, 0x64, 0x86, 0x68, 0x98, 0x16, 0xd4, 0xa4, 0x5c, 0xcc, 0x5d, 0x65, 0xb6, 0x92,
  0x6c, 0x70, 0x48, 0x50, 0xfd, 0xed, 0xb9, 0xda, 0x5e, 0x15, 0x46, 0x57, 0xa7, 0x8d, 0x9d, 0x84,
  0x90, 0xd8, 0xab, 0x00, 0x8c, 0xbc, 0xd3, 0x0a, 0xf7, 0xe4, 0x58, 0x05, 0xb8, 0xb3, 0x45, 0x06,
  0xd0, 0x2c, 0x1e, 0x8f, 0xca, 0x3f, 0x0f, 0x02, 0xc1, 0xaf, 0xbd, 0x03, 0x01, 0x13, 0x8a, 0x6b,
  0x3a, 0x91, 0x11, 0x41, 0x4f, 0x67, 0xdc, 0xea, 0x97, 0xf2, 0xcf, 0xce, 0xf0, 0xb4, 0xe6, 0x73,
  0x96, 0xac, 0x74, 0x22, 0xe7, 0xad, 0x35, 0x85, 0xe2, 0xf9, 0x37, 0xe8, 0x1c, 0x75, 0xdf, 0x6e,
  0x47, 0xf1, 0x1a, 0x71, 0x1d, 0x29, 0xc5, 0x89, 0x6f, 0xb7, 0x62, 0x0e, 0xaa, 0x18, 0xbe, 0x1b,
  0xfc, 0x56, 0x3e, 0x4b, 0xc6, 0xd2, 0x79, 0x20, 0x9a, 0xdb, 0xc0, 0xfe, 0x78, 0xcd, 0x5a, 0xf4,
  0x1f, 0xdd, 0xa8, 0x33, 0x88, 0x07, 0xc7, 0x31, 0xb1, 0x12, 0x10, 0x59, 0x27, 0x80, 0xec, 0x5f,
  0x60, 0x51, 0x7f, 0xa9, 0x19, 0xb5, 0x4a, 0x0d, 0x2d, 0xe5, 0x7a, 0x9f, 0x93, 0xc9, 0x9c, 0xef,
  0xa0, 0xe0, 0x3b, 0x4d, 0xae, 0x2a, 0xf5, 0xb0, 0xc8, 0xeb, 0xbb, 0x3c, 0x83, 0x53, 0x99, 0x61,
  0x17, 0x2b, 0x04, 0x7e, 0xba, 0x77, 0xd6, 0x26, 0xe1, 0x69, 0x14, 0x63, 0x55, 0x21, 0x0c, 0x7d]

/-- `rcons`. -/
def rcons : List UInt8 := [0x01, 0x02, 0x04, 0x08, 0x10, 0x20, 0x40, 0x80, 0x1b, 0x36]

/-- An entry of `Te0`. -/
def te0 (b : UInt8) : UInt32 := te0Table.getD b.toNat 0

/-- An entry of `Td0`. -/
def td0 (b : UInt8) : UInt32 := td0Table.getD b.toNat 0

/-- An entry of `Td4s`. -/
def td4s (b : UInt8) : UInt8 := td4sTable.getD b.toNat 0

/-! ## Words -/

/-- `GETU32`, of four bytes. -/
def getu32 (a b c d : UInt8) : UInt32 :=
  (a.toUInt32 <<< 24) ^^^ (b.toUInt32 <<< 16) ^^^ (c.toUInt32 <<< 8) ^^^ d.toUInt32

/-- The bytes that `PUTU32` stores, from the first to the last one. -/
def byte3 (w : UInt32) : UInt8 := (w >>> 24).toUInt8

@[inherit_doc byte3] def byte2 (w : UInt32) : UInt8 := (w >>> 16).toUInt8

@[inherit_doc byte3] def byte1 (w : UInt32) : UInt8 := (w >>> 8).toUInt8

@[inherit_doc byte3] def byte0 (w : UInt32) : UInt8 := w.toUInt8

/-- `rotr`. -/
def rotr (val bits : UInt32) : UInt32 := (val >>> bits) ||| (val <<< (32 - bits))

/-- `TE4`. -/
def te4 (b : UInt8) : UInt8 := (te0 b >>> 8).toUInt8

/-- `RCON`. -/
def rcon (i : ℕ) : UInt32 := (rcons.getD i 0).toUInt32 <<< 24

/-- A block of `AES_BLOCK_SIZE` bytes. -/
abbrev AesBlock : Type := Vector UInt8 16

/-- The variables `s0` to `s3`, or `t0` to `t3`. -/
structure AesState where
  s0 : UInt32
  s1 : UInt32
  s2 : UInt32
  s3 : UInt32
  deriving DecidableEq

/-- The array `rk`. -/
structure RoundKeys where
  word : ℕ → UInt32

namespace RoundKeys

/-- `rk[i] = w`. -/
def set (rk : RoundKeys) (i : ℕ) (w : UInt32) : RoundKeys := ⟨Function.update rk.word i w⟩

end RoundKeys

namespace AesState

/-- A block is read word by word. -/
def ofBlock (pt : AesBlock) : AesState where
  s0 := getu32 (pt.get 0) (pt.get 1) (pt.get 2) (pt.get 3)
  s1 := getu32 (pt.get 4) (pt.get 5) (pt.get 6) (pt.get 7)
  s2 := getu32 (pt.get 8) (pt.get 9) (pt.get 10) (pt.get 11)
  s3 := getu32 (pt.get 12) (pt.get 13) (pt.get 14) (pt.get 15)

/-- A block is written word by word. -/
def toBlock (s : AesState) : AesBlock :=
  #v[byte3 s.s0, byte2 s.s0, byte1 s.s0, byte0 s.s0, byte3 s.s1, byte2 s.s1, byte1 s.s1, byte0 s.s1,
    byte3 s.s2, byte2 s.s2, byte1 s.s2, byte0 s.s2, byte3 s.s3, byte2 s.s3, byte1 s.s3, byte0 s.s3]

/-- The four words of a round key are added, from the one at `i` on. -/
def addKey (s : AesState) (rk : RoundKeys) (i : ℕ) : AesState :=
  ⟨s.s0 ^^^ rk.word i, s.s1 ^^^ rk.word (i + 1), s.s2 ^^^ rk.word (i + 2), s.s3 ^^^ rk.word (i + 3)⟩

end AesState

/-! ## Key expansion -/

/-- `TE421(temp) ^ TE432(temp) ^ TE443(temp) ^ TE414(temp)`. -/
def subRotWord (temp : UInt32) : UInt32 :=
  ((te0 (byte2 temp) <<< 8) &&& (0xff000000 : UInt32)) ^^^ (te0 (byte1 temp) &&& (0x00ff0000 : UInt32)) ^^^
    (te0 (byte0 temp) &&& (0x0000ff00 : UInt32)) ^^^ ((te0 (byte3 temp) >>> 8) &&& (0x000000ff : UInt32))

/-- `TE411(temp) ^ TE422(temp) ^ TE433(temp) ^ TE444(temp)`. -/
def subWord (temp : UInt32) : UInt32 :=
  ((te0 (byte3 temp) <<< 8) &&& (0xff000000 : UInt32)) ^^^ (te0 (byte2 temp) &&& (0x00ff0000 : UInt32)) ^^^
    (te0 (byte1 temp) &&& (0x0000ff00 : UInt32)) ^^^ ((te0 (byte0 temp) >>> 8) &&& (0x000000ff : UInt32))

/-- `rk[dst] = rk[src] ^ rk[dst - 1]` for `count` words that follow each other. -/
def chainKeys (rk : RoundKeys) (src dst : ℕ) : ℕ → RoundKeys
  | 0 => rk
  | count + 1 => chainKeys (rk.set dst (rk.word src ^^^ rk.word (dst - 1))) (src + 1) (dst + 1) count

/-- The words of the key, from the one at `i` on. -/
def cipherKeyWord (cipherKey : List UInt8) (i : ℕ) : UInt32 :=
  getu32 (cipherKey.getD (4 * i) 0) (cipherKey.getD (4 * i + 1) 0) (cipherKey.getD (4 * i + 2) 0)
    (cipherKey.getD (4 * i + 3) 0)

/-- The key is put in front of the round keys. -/
def loadKey (rk : RoundKeys) (cipherKey : List UInt8) (words : ℕ) : RoundKeys :=
  ⟨fun i => if i < words then cipherKeyWord cipherKey i else rk.word i⟩

/-- The four words that the word behind the last one begins, for a key of `words` words; all three loops have them. -/
def expandRot (rk : RoundKeys) (words pos i : ℕ) : RoundKeys :=
  chainKeys (rk.set (pos + words) (rk.word pos ^^^ subRotWord (rk.word (pos + words - 1)) ^^^ rcon i)) (pos + 1)
    (pos + words + 1) 3

/-- One turn of the loop for 128 bits. -/
def expandStep128 (rk : RoundKeys) (i : ℕ) : RoundKeys :=
  expandRot rk 4 (4 * i) i

/-- One turn of the loop for 192 bits; the last one stops early. -/
def expandStep192 (rk : RoundKeys) (i : ℕ) : RoundKeys :=
  let rk := expandRot rk 6 (6 * i) i
  if i = 7 then rk else chainKeys rk (6 * i + 4) (6 * i + 10) 2

/-- One turn of the loop for 256 bits; the last one stops early. -/
def expandStep256 (rk : RoundKeys) (i : ℕ) : RoundKeys :=
  let rk := expandRot rk 8 (8 * i) i
  if i = 6 then rk
  else chainKeys (rk.set (8 * i + 12) (rk.word (8 * i + 4) ^^^ subWord (rk.word (8 * i + 11)))) (8 * i + 5) (8 * i + 13) 3

/-- `rijndaelKeySetupEnc`: the round keys and the number of rounds; `none` is -1. -/
def rijndaelKeySetupEnc (rk : RoundKeys) (cipherKey : List UInt8) (keyBits : ℕ) : Option (RoundKeys × ℕ) :=
  if keyBits = 128 then some ((List.range 10).foldl expandStep128 (loadKey rk cipherKey 4), 10)
  else if keyBits = 192 then some ((List.range 8).foldl expandStep192 (loadKey rk cipherKey 6), 12)
  else if keyBits = 256 then some ((List.range 7).foldl expandStep256 (loadKey rk cipherKey 8), 14)
  else none

/-- Two words are exchanged. -/
def swapWords (rk : RoundKeys) (i j : ℕ) : RoundKeys :=
  (rk.set i (rk.word j)).set j (rk.word i)

/-- The loop that puts the round keys into reverse order, with as many turns as there can be. -/
def invertOrder : ℕ → ℕ → ℕ → RoundKeys → RoundKeys
  | 0, _, _, rk => rk
  | turns + 1, i, j, rk =>
    if i < j then
      invertOrder turns (i + 4) (j - 4)
        (swapWords (swapWords (swapWords (swapWords rk i j) (i + 1) (j + 1)) (i + 2) (j + 2)) (i + 3) (j + 3))
    else rk

/-- `TD0_(TE4(w >> 24)) ^ TD1_(TE4((w >> 16) & 0xff)) ^ TD2_(TE4((w >> 8) & 0xff)) ^ TD3_(TE4(w & 0xff))`. -/
def invMixWord (w : UInt32) : UInt32 :=
  td0 (te4 (byte3 w)) ^^^ rotr (td0 (te4 (byte2 w))) 8 ^^^ rotr (td0 (te4 (byte1 w))) 16 ^^^
    rotr (td0 (te4 (byte0 w))) 24

/-- The inverse of the column mixing, for `rounds` round keys from the one at `pos` on. -/
def invMixKeys : ℕ → ℕ → RoundKeys → RoundKeys
  | 0, _, rk => rk
  | rounds + 1, pos, rk =>
    let rk := rk.set pos (invMixWord (rk.word pos))
    let rk := rk.set (pos + 1) (invMixWord (rk.word (pos + 1)))
    let rk := rk.set (pos + 2) (invMixWord (rk.word (pos + 2)))
    let rk := rk.set (pos + 3) (invMixWord (rk.word (pos + 3)))
    invMixKeys rounds (pos + 4) rk

/-- `rijndaelKeySetupDec`. -/
def rijndaelKeySetupDec (rk : RoundKeys) (cipherKey : List UInt8) (keyBits : ℕ) : Option (RoundKeys × ℕ) := do
  let (rk, nr) ← rijndaelKeySetupEnc rk cipherKey keyBits
  some (invMixKeys (nr - 1) 4 (invertOrder nr 0 (4 * nr) rk), nr)

/-! ## Rounds -/

/-- `TE0(a) ^ TE1(b) ^ TE2(c) ^ TE3(d)`. -/
def teWord (a b c d : UInt32) : UInt32 :=
  te0 (byte3 a) ^^^ rotr (te0 (byte2 b)) 8 ^^^ rotr (te0 (byte1 c)) 16 ^^^ rotr (te0 (byte0 d)) 24

/-- `ROUND` of `rijndaelEncrypt`, with the round key at `i`. -/
def encRound (rk : RoundKeys) (i : ℕ) (s : AesState) : AesState :=
  AesState.addKey ⟨teWord s.s0 s.s1 s.s2 s.s3, teWord s.s1 s.s2 s.s3 s.s0, teWord s.s2 s.s3 s.s0 s.s1,
    teWord s.s3 s.s0 s.s1 s.s2⟩ rk i

/-- `TE41(a) ^ TE42(b) ^ TE43(c) ^ TE44(d)`. -/
def teLastWord (a b c d : UInt32) : UInt32 :=
  ((te0 (byte3 a) <<< 8) &&& (0xff000000 : UInt32)) ^^^ (te0 (byte2 b) &&& (0x00ff0000 : UInt32)) ^^^
    (te0 (byte1 c) &&& (0x0000ff00 : UInt32)) ^^^ ((te0 (byte0 d) >>> 8) &&& (0x000000ff : UInt32))

/-- The last round of `rijndaelEncrypt`, with the round key at `i`. -/
def encLastRound (rk : RoundKeys) (i : ℕ) (t : AesState) : AesState :=
  AesState.addKey ⟨teLastWord t.s0 t.s1 t.s2 t.s3, teLastWord t.s1 t.s2 t.s3 t.s0, teLastWord t.s2 t.s3 t.s0 t.s1,
    teLastWord t.s3 t.s0 t.s1 t.s2⟩ rk i

/-- `TD0(a) ^ TD1(b) ^ TD2(c) ^ TD3(d)`. -/
def tdWord (a b c d : UInt32) : UInt32 :=
  td0 (byte3 a) ^^^ rotr (td0 (byte2 b)) 8 ^^^ rotr (td0 (byte1 c)) 16 ^^^ rotr (td0 (byte0 d)) 24

/-- `ROUND` of `rijndaelDecrypt`, with the round key at `i`. -/
def decRound (rk : RoundKeys) (i : ℕ) (s : AesState) : AesState :=
  AesState.addKey ⟨tdWord s.s0 s.s3 s.s2 s.s1, tdWord s.s1 s.s0 s.s3 s.s2, tdWord s.s2 s.s1 s.s0 s.s3,
    tdWord s.s3 s.s2 s.s1 s.s0⟩ rk i

/-- `TD41(a) ^ TD42(b) ^ TD43(c) ^ TD44(d)`. -/
def tdLastWord (a b c d : UInt32) : UInt32 :=
  ((td4s (byte3 a)).toUInt32 <<< 24) ^^^ ((td4s (byte2 b)).toUInt32 <<< 16) ^^^ ((td4s (byte1 c)).toUInt32 <<< 8) ^^^
    (td4s (byte0 d)).toUInt32

/-- The last round of `rijndaelDecrypt`, with the round key at `i`. -/
def decLastRound (rk : RoundKeys) (i : ℕ) (t : AesState) : AesState :=
  AesState.addKey ⟨tdLastWord t.s0 t.s3 t.s2 t.s1, tdLastWord t.s1 t.s0 t.s3 t.s2, tdLastWord t.s2 t.s1 t.s0 t.s3,
    tdLastWord t.s3 t.s2 t.s1 t.s0⟩ rk i

/-- The loop that both directions share, `r` times from the round key at `pos` on: the state, and where the next round
key is. -/
def rijndaelLoop (round : ℕ → AesState → AesState) : ℕ → ℕ → AesState → AesState × ℕ
  | 0, pos, s => (s, pos)
  | r + 1, pos, s =>
    let t := round (pos + 4) s
    if r = 0 then (t, pos + 8) else rijndaelLoop round r (pos + 8) (round (pos + 8) t)

/-- `rijndaelEncrypt`. -/
def rijndaelEncrypt (rk : RoundKeys) (nr : ℕ) (pt : AesBlock) : AesBlock :=
  let (t, pos) := rijndaelLoop (encRound rk) (nr / 2) 0 ((AesState.ofBlock pt).addKey rk 0)
  (encLastRound rk pos t).toBlock

/-- `rijndaelDecrypt`. -/
def rijndaelDecrypt (rk : RoundKeys) (nr : ℕ) (ct : AesBlock) : AesBlock :=
  let (t, pos) := rijndaelLoop (decRound rk) (nr / 2) 0 ((AesState.ofBlock ct).addKey rk 0)
  (decLastRound rk pos t).toBlock

/-! ## Contexts -/

/-- The context that `aes_encrypt_init` and `aes_decrypt_init` return: the round keys, and how many rounds there are. -/
structure AesCtx where
  rk : RoundKeys
  nr : ℕ

/-- `aes_encrypt_init`, with what is in the memory before; `none` is the null pointer. -/
def aesEncryptInit (mem : RoundKeys) (key : List UInt8) : Option AesCtx :=
  (rijndaelKeySetupEnc mem key (key.length * 8)).map fun res => ⟨res.1, res.2⟩

/-- `aes_encrypt`. -/
def aesEncrypt (ctx : AesCtx) (plain : AesBlock) : AesBlock :=
  rijndaelEncrypt ctx.rk ctx.nr plain

/-- `aes_decrypt_init`. -/
def aesDecryptInit (mem : RoundKeys) (key : List UInt8) : Option AesCtx :=
  (rijndaelKeySetupDec mem key (key.length * 8)).map fun res => ⟨res.1, res.2⟩

/-- `aes_decrypt`. -/
def aesDecrypt (ctx : AesCtx) (crypt : AesBlock) : AesBlock :=
  rijndaelDecrypt ctx.rk ctx.nr crypt

/-! ## Words and bytes -/

private lemma byte_cases {i : ℕ} (hi : i < 8) :
    i = 0 ∨ i = 1 ∨ i = 2 ∨ i = 3 ∨ i = 4 ∨ i = 5 ∨ i = 6 ∨ i = 7 := by
  omega

lemma bytes_getu32 (a b c d : UInt8) :
    byte3 (getu32 a b c d) = a ∧ byte2 (getu32 a b c d) = b ∧ byte1 (getu32 a b c d) = c ∧
      byte0 (getu32 a b c d) = d := by
  refine ⟨?_, ?_, ?_, ?_⟩ <;> apply UInt8.toBitVec_inj.1 <;> ext i hi <;>
    simp only [byte3, byte2, byte1, byte0, getu32] <;>
    rcases byte_cases hi with rfl | rfl | rfl | rfl | rfl | rfl | rfl | rfl <;> simp

@[simp] lemma byte3_getu32 (a b c d : UInt8) : byte3 (getu32 a b c d) = a := (bytes_getu32 a b c d).1

@[simp] lemma byte2_getu32 (a b c d : UInt8) : byte2 (getu32 a b c d) = b := (bytes_getu32 a b c d).2.1

@[simp] lemma byte1_getu32 (a b c d : UInt8) : byte1 (getu32 a b c d) = c := (bytes_getu32 a b c d).2.2.1

@[simp] lemma byte0_getu32 (a b c d : UInt8) : byte0 (getu32 a b c d) = d := (bytes_getu32 a b c d).2.2.2

/-- A word is known by its four bytes. -/
lemma word_ext {u v : UInt32} (h3 : byte3 u = byte3 v) (h2 : byte2 u = byte2 v) (h1 : byte1 u = byte1 v)
    (h0 : byte0 u = byte0 v) : u = v := by
  rw [← UInt8.toNat_inj] at h3 h2 h1 h0
  apply UInt32.toNat_inj.1
  simp only [byte3, byte2, byte1, byte0, UInt32.toNat_toUInt8, UInt32.toNat_shiftRight, UInt32.reduceToNat,
    Nat.reduceMod, Nat.shiftRight_eq_div_pow] at h3 h2 h1 h0
  have hu := u.toNat_lt
  have hv := v.toNat_lt
  omega

@[simp] lemma getu32_bytes (w : UInt32) : getu32 (byte3 w) (byte2 w) (byte1 w) (byte0 w) = w := by
  apply word_ext <;> simp

lemma byte3_xor (u v : UInt32) : byte3 (u ^^^ v) = byte3 u ^^^ byte3 v := by
  simp [byte3, UInt32.shiftRight_xor]

lemma byte2_xor (u v : UInt32) : byte2 (u ^^^ v) = byte2 u ^^^ byte2 v := by
  simp [byte2, UInt32.shiftRight_xor]

lemma byte1_xor (u v : UInt32) : byte1 (u ^^^ v) = byte1 u ^^^ byte1 v := by
  simp [byte1, UInt32.shiftRight_xor]

lemma byte0_xor (u v : UInt32) : byte0 (u ^^^ v) = byte0 u ^^^ byte0 v := by
  simp [byte0]

lemma getu32_xor (a b c d a' b' c' d' : UInt8) :
    getu32 a b c d ^^^ getu32 a' b' c' d' = getu32 (a ^^^ a') (b ^^^ b') (c ^^^ c') (d ^^^ d') := by
  apply word_ext <;> simp [byte3_xor, byte2_xor, byte1_xor, byte0_xor]

namespace AesState

/-- The states are read back as they are written. -/
@[simp] lemma ofBlock_toBlock (s : AesState) : ofBlock s.toBlock = s := by
  simp [ofBlock, toBlock, Vector.get]

@[simp] lemma toBlock_ofBlock (pt : AesBlock) : (ofBlock pt).toBlock = pt := by
  apply Vector.ext
  intro i hi
  have hcases : i = 0 ∨ i = 1 ∨ i = 2 ∨ i = 3 ∨ i = 4 ∨ i = 5 ∨ i = 6 ∨ i = 7 ∨ i = 8 ∨ i = 9 ∨ i = 10 ∨ i = 11 ∨
      i = 12 ∨ i = 13 ∨ i = 14 ∨ i = 15 := by omega
  rcases hcases with rfl | rfl | rfl | rfl | rfl | rfl | rfl | rfl | rfl | rfl | rfl | rfl | rfl | rfl | rfl | rfl <;>
    simp [ofBlock, toBlock, Vector.get]

/-- A round key that is added twice is gone. -/
lemma addKey_addKey (s : AesState) {rk rk' : RoundKeys} {i i' : ℕ}
    (hkeys : ∀ w < 4, rk'.word (i' + w) = rk.word (i + w)) : (s.addKey rk i).addKey rk' i' = s := by
  have h0 := hkeys 0 (by omega)
  have h1 := hkeys 1 (by omega)
  have h2 := hkeys 2 (by omega)
  have h3 := hkeys 3 (by omega)
  simp only [Nat.add_zero] at h0
  cases s
  simp [addKey, h0, h1, h2, h3, UInt32.xor_assoc]

end AesState

/-! ## Rotations -/

/-- A rotation by whole bytes moves the bytes. -/
private lemma rotr_bytes (w : UInt32) :
    rotr w 8 = getu32 (byte0 w) (byte3 w) (byte2 w) (byte1 w) ∧
      rotr w 16 = getu32 (byte1 w) (byte0 w) (byte3 w) (byte2 w) ∧
      rotr w 24 = getu32 (byte2 w) (byte1 w) (byte0 w) (byte3 w) := by
  refine ⟨?_, ?_, ?_⟩ <;> apply word_ext <;>
    simp only [byte3_getu32, byte2_getu32, byte1_getu32, byte0_getu32] <;>
    apply UInt8.toBitVec_inj.1 <;> ext i hi <;> simp only [byte3, byte2, byte1, byte0, rotr] <;>
    rcases byte_cases hi with rfl | rfl | rfl | rfl | rfl | rfl | rfl | rfl <;> simp

lemma rotr_eight (w : UInt32) : rotr w 8 = getu32 (byte0 w) (byte3 w) (byte2 w) (byte1 w) := (rotr_bytes w).1

lemma rotr_sixteen (w : UInt32) : rotr w 16 = getu32 (byte1 w) (byte0 w) (byte3 w) (byte2 w) := (rotr_bytes w).2.1

lemma rotr_twentyfour (w : UInt32) : rotr w 24 = getu32 (byte2 w) (byte1 w) (byte0 w) (byte3 w) :=
  (rotr_bytes w).2.2

/-! ## The tables -/

lemma length_te0Table : te0Table.length = 256 := by
  decide +kernel

lemma te0_eq_getElem (b : UInt8) : ∃ hb : b.toNat < te0Table.length, te0 b = te0Table[b.toNat] := by
  have hb : b.toNat < te0Table.length := by
    rw [length_te0Table]
    exact b.toNat_lt
  refine ⟨hb, ?_⟩
  simp [te0, List.getD_eq_getElem?_getD, List.getElem?_eq_getElem hb]

lemma te0_mem (b : UInt8) : te0 b ∈ te0Table := by
  obtain ⟨hb, heq⟩ := te0_eq_getElem b
  rw [heq]
  exact List.getElem_mem hb

/-- A fact about every byte and its entry of the table is checked along the table. -/
lemma of_map_te0Table {α : Type} {f : UInt32 → α} {g : UInt8 → α}
    (hmap : te0Table.map f = (List.range 256).map fun i => g (UInt8.ofNat i)) (b : UInt8) : f (te0 b) = g b := by
  obtain ⟨hb, heq⟩ := te0_eq_getElem b
  have hget := congrArg (fun l => l[b.toNat]?) hmap
  simp only [List.getElem?_map, List.getElem?_eq_getElem hb, Option.map_some,
    List.getElem?_range (length_te0Table ▸ hb), UInt8.ofNat_toNat, Option.some.injEq] at hget
  rwa [heq]

/-- The table of the last round of the decryption undoes the substitution. -/
lemma td4s_te4 (b : UInt8) : td4s (te4 b) = b := by
  apply of_map_te0Table (f := fun w => td4s (w >>> 8).toUInt8) (g := id)
  decide +kernel

/-- An entry has the substituted byte at its two middle places. -/
lemma byte2_te0 (b : UInt8) : byte2 (te0 b) = te4 b := by
  have hall : (te0Table.all fun w => byte2 w == (w >>> 8).toUInt8) = true := by decide +kernel
  exact eq_of_beq (List.all_eq_true.1 hall _ (te0_mem b))

lemma byte1_te0 (b : UInt8) : byte1 (te0 b) = te4 b := rfl

/-- The masks of the last round of the encryption each pick a byte. -/
private lemma mask_bytes (w : UInt32) :
    (w <<< 8) &&& (0xff000000 : UInt32) = getu32 (byte2 w) 0 0 0 ∧
      w &&& (0x00ff0000 : UInt32) = getu32 0 (byte2 w) 0 0 ∧
      w &&& (0x0000ff00 : UInt32) = getu32 0 0 (byte1 w) 0 ∧
      (w >>> 8) &&& (0x000000ff : UInt32) = getu32 0 0 0 (byte1 w) := by
  refine ⟨?_, ?_, ?_, ?_⟩ <;> apply word_ext <;>
    simp only [byte3_getu32, byte2_getu32, byte1_getu32, byte0_getu32] <;>
    apply UInt8.toBitVec_inj.1 <;> ext i hi <;> simp only [byte3, byte2, byte1, byte0] <;>
    rcases byte_cases hi with rfl | rfl | rfl | rfl | rfl | rfl | rfl | rfl <;> simp

/-- The four bytes of the last round are the substituted ones. -/
lemma teLastWord_eq (a b c d : UInt32) :
    teLastWord a b c d = getu32 (te4 (byte3 a)) (te4 (byte2 b)) (te4 (byte1 c)) (te4 (byte0 d)) := by
  simp only [teLastWord, (mask_bytes _).1, (mask_bytes _).2.1, (mask_bytes _).2.2.1, (mask_bytes _).2.2.2, byte2_te0,
    byte1_te0, getu32_xor]
  simp

lemma tdLastWord_eq (a b c d : UInt32) :
    tdLastWord a b c d = getu32 (td4s (byte3 a)) (td4s (byte2 b)) (td4s (byte1 c)) (td4s (byte0 d)) := by
  rfl

/-! ## The inverse of the column mixing -/

/-- What the bits of a byte contribute to `TD0_(TE4(b))`. -/
def invMixBits : List UInt32 :=
  [0x0e090d0b, 0x1c121a16, 0x3824342c, 0x70486858, 0xe090d0b0, 0xdb3bbb7b, 0xad766df6, 0x41ecdaf7]

/-- The sum of the words at the places where the byte has a bit, from the place `i` on. -/
def sumBits (b : UInt8) : ℕ → List UInt32 → UInt32
  | _, [] => 0
  | i, w :: ws => (if b.toBitVec.getLsbD i then w else 0) ^^^ sumBits b (i + 1) ws

lemma sumBits_xor (a b : UInt8) (ws : List UInt32) :
    ∀ i, sumBits (a ^^^ b) i ws = sumBits a i ws ^^^ sumBits b i ws := by
  induction ws with
  | nil =>
    intro i
    simp [sumBits]
  | cons w ws ih =>
    intro i
    have hbit : (if (a ^^^ b).toBitVec.getLsbD i then w else 0) =
        (if a.toBitVec.getLsbD i then w else 0) ^^^ (if b.toBitVec.getLsbD i then w else 0) := by
      cases ha : a.toBitVec.getLsbD i <;> cases hb : b.toBitVec.getLsbD i <;> simp [ha, hb]
    simp only [sumBits, hbit, ih]
    ac_rfl

/-- A table entry of the decryption, in the byte before the substitution. -/
lemma td0_te4 (b : UInt8) : td0 (te4 b) = sumBits b 0 invMixBits := by
  apply of_map_te0Table (f := fun w => td0 (w >>> 8).toUInt8) (g := fun b => sumBits b 0 invMixBits)
  decide +kernel
lemma td0_te4_xor (a b : UInt8) : td0 (te4 (a ^^^ b)) = td0 (te4 a) ^^^ td0 (te4 b) := by
  simp only [td0_te4, sumBits_xor]

/-- The inverse of the column mixing is linear. -/
lemma invMixWord_xor (u v : UInt32) : invMixWord (u ^^^ v) = invMixWord u ^^^ invMixWord v := by
  simp only [invMixWord, byte3_xor, byte2_xor, byte1_xor, byte0_xor, td0_te4_xor, rotr_eight, rotr_sixteen,
    rotr_twentyfour, ← getu32_xor]
  ac_rfl

/-- The inverse of the column mixing commutes with a rotation by a byte. -/
lemma invMixWord_rotr_eight (w : UInt32) : invMixWord (rotr w 8) = rotr (invMixWord w) 8 := by
  have hbyte : ∀ u : UInt32, getu32 (byte3 u) (byte2 u) (byte1 u) (byte0 u) = u := getu32_bytes
  simp only [invMixWord, rotr_eight, rotr_sixteen, rotr_twentyfour, byte3_xor, byte2_xor, byte1_xor, byte0_xor,
    byte3_getu32, byte2_getu32, byte1_getu32, byte0_getu32, ← getu32_xor, hbyte]
  ac_rfl

lemma rotr_rotr_eight (w : UInt32) : rotr (rotr w 8) 8 = rotr w 16 ∧ rotr (rotr w 16) 8 = rotr w 24 := by
  simp [rotr_eight, rotr_sixteen, rotr_twentyfour]

/-- The inverse of the column mixing undoes an entry of the table of the encryption. -/
lemma invMixWord_te0 (b : UInt8) : invMixWord (te0 b) = getu32 (te4 b) 0 0 0 := by
  have hall : (te0Table.all fun w =>
      sumBits (byte3 w) 0 invMixBits ^^^ rotr (sumBits (byte2 w) 0 invMixBits) 8 ^^^
        rotr (sumBits (byte1 w) 0 invMixBits) 16 ^^^ rotr (sumBits (byte0 w) 0 invMixBits) 24 ==
        getu32 (byte1 w) 0 0 0) = true := by
    decide +kernel
  simp only [invMixWord, td0_te4]
  exact eq_of_beq (List.all_eq_true.1 hall _ (te0_mem b))

lemma invMixWord_te1 (b : UInt8) : invMixWord (rotr (te0 b) 8) = getu32 0 (te4 b) 0 0 := by
  rw [invMixWord_rotr_eight, invMixWord_te0, rotr_eight]
  simp

lemma invMixWord_te2 (b : UInt8) : invMixWord (rotr (te0 b) 16) = getu32 0 0 (te4 b) 0 := by
  rw [← (rotr_rotr_eight _).1, invMixWord_rotr_eight, invMixWord_te1, rotr_eight]
  simp

lemma invMixWord_te3 (b : UInt8) : invMixWord (rotr (te0 b) 24) = getu32 0 0 0 (te4 b) := by
  rw [← (rotr_rotr_eight _).2, invMixWord_rotr_eight, invMixWord_te2, rotr_eight]
  simp

/-- The inverse of the column mixing leaves the substituted bytes of a round. -/
lemma invMixWord_teWord (a b c d : UInt32) :
    invMixWord (teWord a b c d) = getu32 (te4 (byte3 a)) (te4 (byte2 b)) (te4 (byte1 c)) (te4 (byte0 d)) := by
  simp only [teWord, invMixWord_xor, invMixWord_te0, invMixWord_te1, invMixWord_te2, invMixWord_te3, getu32_xor]
  simp

/-! ## Decryption undoes encryption, round by round -/

namespace AesState

/-- The bytes are substituted and the rows are shifted. -/
def subShift (s : AesState) : AesState where
  s0 := getu32 (te4 (byte3 s.s0)) (te4 (byte2 s.s1)) (te4 (byte1 s.s2)) (te4 (byte0 s.s3))
  s1 := getu32 (te4 (byte3 s.s1)) (te4 (byte2 s.s2)) (te4 (byte1 s.s3)) (te4 (byte0 s.s0))
  s2 := getu32 (te4 (byte3 s.s2)) (te4 (byte2 s.s3)) (te4 (byte1 s.s0)) (te4 (byte0 s.s1))
  s3 := getu32 (te4 (byte3 s.s3)) (te4 (byte2 s.s0)) (te4 (byte1 s.s1)) (te4 (byte0 s.s2))

end AesState

/-- The round key at `i'` of the decryption is the one at `i` of the encryption. -/
def KeyCopied (rk rk' : RoundKeys) (i i' : ℕ) : Prop :=
  ∀ w < 4, rk'.word (i' + w) = rk.word (i + w)

/-- The round key at `i'` of the decryption is the one at `i` of the encryption without its column mixing. -/
def KeyUnmixed (rk rk' : RoundKeys) (i i' : ℕ) : Prop :=
  ∀ w < 4, rk'.word (i' + w) = invMixWord (rk.word (i + w))

/-- The last round of the encryption is a substitution, a shift and a round key. -/
lemma encLastRound_eq (rk : RoundKeys) (i : ℕ) (t : AesState) : encLastRound rk i t = t.subShift.addKey rk i := by
  simp only [encLastRound, teLastWord_eq, AesState.subShift]

/-- The last round of the decryption leaves the state before the substitution. -/
lemma decLastRound_subShift (rk : RoundKeys) (i : ℕ) (t : AesState) :
    decLastRound rk i t.subShift = t.addKey rk i := by
  simp only [decLastRound, tdLastWord_eq, AesState.subShift, byte3_getu32, byte2_getu32, byte1_getu32, byte0_getu32,
    td4s_te4, getu32_bytes]

/-- A word of a round of the decryption, at the substituted bytes of a word. -/
lemma tdWord_eq (w : UInt32) {a b c d : UInt32} (ha : byte3 a = te4 (byte3 w)) (hb : byte2 b = te4 (byte2 w))
    (hc : byte1 c = te4 (byte1 w)) (hd : byte0 d = te4 (byte0 w)) : tdWord a b c d = invMixWord w := by
  simp only [tdWord, invMixWord, ha, hb, hc, hd]

/-- A round of the decryption undoes one of the encryption, up to the substitution and the shift. -/
lemma decRound_encRound {rk rk' : RoundKeys} {i i' : ℕ} (hkey : KeyUnmixed rk rk' i i') (u : AesState) :
    decRound rk' i' (encRound rk i u).subShift = u.subShift := by
  have hword : ∀ w < 4, ∀ v : UInt32, invMixWord (v ^^^ rk.word (i + w)) ^^^ rk'.word (i' + w) = invMixWord v := by
    intro w hw v
    rw [hkey w hw, invMixWord_xor, UInt32.xor_assoc, UInt32.xor_self, UInt32.xor_zero]
  have h0 := hword 0 (by omega)
  have h1 := hword 1 (by omega)
  have h2 := hword 2 (by omega)
  have h3 := hword 3 (by omega)
  simp only [Nat.add_zero] at h0
  have hbytes : ∀ t : AesState, decRound rk' i' t.subShift =
      ⟨invMixWord t.s0 ^^^ rk'.word i', invMixWord t.s1 ^^^ rk'.word (i' + 1), invMixWord t.s2 ^^^ rk'.word (i' + 2),
        invMixWord t.s3 ^^^ rk'.word (i' + 3)⟩ := by
    intro t
    simp only [decRound, AesState.addKey, AesState.subShift]
    rw [tdWord_eq t.s0, tdWord_eq t.s1, tdWord_eq t.s2, tdWord_eq t.s3] <;> simp
  rw [hbytes]
  simp only [encRound, AesState.addKey, h0, h1, h2, h3, invMixWord_teWord, AesState.subShift]

/-! ## The loop -/

/-- `count` rounds, from the round key behind the one at `pos` on. -/
def roundsFrom (round : ℕ → AesState → AesState) (pos : ℕ) : ℕ → AesState → AesState
  | 0, s => s
  | count + 1, s => round (pos + 4 * (count + 1)) (roundsFrom round pos count s)

lemma roundsFrom_add (round : ℕ → AesState → AesState) (pos k : ℕ) :
    ∀ (count : ℕ) (s : AesState),
      roundsFrom round pos (k + count) s = roundsFrom round (pos + 4 * k) count (roundsFrom round pos k s) := by
  intro count
  induction count with
  | zero =>
    intro s
    rfl
  | succ count ih =>
    intro s
    have hpos : pos + 4 * (k + count + 1) = pos + 4 * k + 4 * (count + 1) := by omega
    rw [← Nat.add_assoc, roundsFrom, ih, roundsFrom, hpos]

/-- The loop of both directions runs all the rounds but the last one. -/
lemma rijndaelLoop_eq (round : ℕ → AesState → AesState) :
    ∀ (r : ℕ), 0 < r → ∀ (pos : ℕ) (s : AesState),
      rijndaelLoop round r pos s = (roundsFrom round pos (2 * r - 1) s, pos + 8 * r) := by
  intro r
  induction r with
  | zero =>
    intro hr
    omega
  | succ r ih =>
    intro _ pos s
    by_cases hr : r = 0
    · subst hr
      simp [rijndaelLoop, roundsFrom]
    · have htwo : roundsFrom round pos 2 s = round (pos + 8) (round (pos + 4) s) := by
        simp [roundsFrom]
      have hsplit : 2 * (r + 1) - 1 = 2 + (2 * r - 1) := by omega
      rw [rijndaelLoop]
      simp only [hr, if_false]
      rw [ih (by omega), hsplit, roundsFrom_add, htwo]
      exact Prod.ext rfl (by simp only []; omega)

/-- The round keys of the decryption undo those of the encryption. -/
structure KeysInverted (rk rk' : RoundKeys) (nr : ℕ) : Prop where
  first : KeyCopied rk rk' (4 * nr) 0
  inner : ∀ j, 0 < j → j < nr → KeyUnmixed rk rk' (4 * (nr - j)) (4 * j)
  last : KeyCopied rk rk' 0 (4 * nr)

/-- After each round of the decryption its state is the substituted one of the encryption, the same number of rounds
before the end. -/
lemma roundsFrom_decRound {rk rk' : RoundKeys} {nr : ℕ} (hkeys : KeysInverted rk rk' nr) (s : AesState) :
    ∀ j < nr, roundsFrom (decRound rk') 0 j (roundsFrom (encRound rk) 0 (nr - 1) s).subShift =
      (roundsFrom (encRound rk) 0 (nr - 1 - j) s).subShift := by
  intro j
  induction j with
  | zero =>
    intro _
    rfl
  | succ j ih =>
    intro hj
    have hback : nr - 1 - j = (nr - 1 - (j + 1)) + 1 := by omega
    have hunmixed := hkeys.inner (j + 1) (by omega) hj
    have hpos : 4 * (nr - (j + 1)) = 0 + 4 * (nr - 1 - (j + 1) + 1) := by omega
    rw [roundsFrom, ih (by omega), hback, roundsFrom]
    rw [hpos] at hunmixed
    apply decRound_encRound
    rwa [Nat.zero_add (4 * (j + 1))]

/-- With such keys the decryption undoes the encryption. -/
lemma rijndaelDecrypt_rijndaelEncrypt_of_keysInverted {rk rk' : RoundKeys} {nr : ℕ} (hkeys : KeysInverted rk rk' nr)
    (hpos : 0 < nr) (heven : nr % 2 = 0) (pt : AesBlock) :
    rijndaelDecrypt rk' nr (rijndaelEncrypt rk nr pt) = pt := by
  have hhalf : 0 < nr / 2 := by omega
  have hrounds : 2 * (nr / 2) - 1 = nr - 1 := by omega
  have hend : 0 + 8 * (nr / 2) = 4 * nr := by omega
  have hfirst : ∀ t : AesState, (t.addKey rk (4 * nr)).addKey rk' 0 = t := fun t =>
    AesState.addKey_addKey t hkeys.first
  have hlast : ∀ t : AesState, (t.addKey rk 0).addKey rk' (4 * nr) = t := fun t =>
    AesState.addKey_addKey t hkeys.last
  simp only [rijndaelDecrypt, rijndaelEncrypt, rijndaelLoop_eq _ _ hhalf, hrounds, hend, encLastRound_eq,
    AesState.ofBlock_toBlock, hfirst]
  rw [roundsFrom_decRound hkeys _ (nr - 1) (by omega), Nat.sub_self, roundsFrom, decLastRound_subShift, hlast,
    AesState.toBlock_ofBlock]

/-! ## The round keys of the decryption -/

lemma word_swapWords (rk : RoundKeys) (i j k : ℕ) :
    (swapWords rk i j).word k = if k = j then rk.word i else if k = i then rk.word j else rk.word k := by
  simp only [swapWords, RoundKeys.set, Function.update_apply]

/-- Four exchanges exchange two round keys. -/
lemma word_swapWords_four (rk : RoundKeys) {a b : ℕ} (hab : a < b) (q w : ℕ) (hw : w < 4) :
    (swapWords (swapWords (swapWords (swapWords rk (4 * a) (4 * b)) (4 * a + 1) (4 * b + 1)) (4 * a + 2) (4 * b + 2))
      (4 * a + 3) (4 * b + 3)).word (4 * q + w) =
      if q = b then rk.word (4 * a + w) else if q = a then rk.word (4 * b + w) else rk.word (4 * q + w) := by
  have hcases : w = 0 ∨ w = 1 ∨ w = 2 ∨ w = 3 := by omega
  by_cases hb : q = b
  · subst hb
    rcases hcases with rfl | rfl | rfl | rfl <;> simp [word_swapWords] <;> split_ifs <;> first | rfl | omega
  · by_cases ha : q = a
    · subst ha
      rcases hcases with rfl | rfl | rfl | rfl <;> simp [word_swapWords] <;> split_ifs <;> first | rfl | omega
    · have hnb : ∀ c < 4, 4 * q + w ≠ 4 * b + c := by
        intro c hc
        omega
      have hna : ∀ c < 4, 4 * q + w ≠ 4 * a + c := by
        intro c hc
        omega
      have hnb0 := hnb 0 (by omega)
      have hna0 := hna 0 (by omega)
      rw [Nat.add_zero] at hnb0 hna0
      rw [if_neg hb, if_neg ha, word_swapWords, if_neg (hnb 3 (by omega)), if_neg (hna 3 (by omega)), word_swapWords,
        if_neg (hnb 2 (by omega)), if_neg (hna 2 (by omega)), word_swapWords, if_neg (hnb 1 (by omega)),
        if_neg (hna 1 (by omega)), word_swapWords, if_neg hnb0, if_neg hna0]

/-- The loop reverses the round keys from `a` to `b`. -/
lemma word_invertOrder :
    ∀ (turns a b : ℕ) (rk : RoundKeys), b - a < 2 * turns + 1 → ∀ q w, w < 4 →
      (invertOrder turns (4 * a) (4 * b) rk).word (4 * q + w) =
        if a ≤ q ∧ q ≤ b then rk.word (4 * (a + b - q) + w) else rk.word (4 * q + w) := by
  intro turns
  induction turns with
  | zero =>
    intro a b rk hturns q w _
    have hle : b ≤ a := by omega
    rw [invertOrder]
    by_cases hq : a ≤ q ∧ q ≤ b
    · have heq : a + b - q = q := by omega
      rw [if_pos hq, heq]
    · rw [if_neg hq]
  | succ turns ih =>
    intro a b rk hturns q w hw
    rw [invertOrder]
    by_cases hab : a < b
    · have hlt : 4 * a < 4 * b := by omega
      have hup : 4 * a + 4 = 4 * (a + 1) := by omega
      have hdown : 4 * b - 4 = 4 * (b - 1) := by omega
      have hsum : a + 1 + (b - 1) = a + b := by omega
      rw [if_pos hlt, hup, hdown, ih (a + 1) (b - 1) _ (by omega) q w hw, hsum, word_swapWords_four rk hab _ w hw,
        word_swapWords_four rk hab _ w hw]
      by_cases hq : a ≤ q ∧ q ≤ b
      · rw [if_pos hq]
        by_cases hqa : q = a
        · subst hqa
          have hne : q ≠ b := by omega
          have hfar : q + b - q = b := by omega
          simp [hne, hfar]
        · by_cases hqb : q = b
          · subst hqb
            have hnot : ¬(a + 1 ≤ q ∧ q ≤ q - 1) := by omega
            rw [if_neg hnot, if_pos rfl, Nat.add_sub_cancel]
          · have hinner : a + 1 ≤ q ∧ q ≤ b - 1 := by omega
            have hb' : a + b - q ≠ b := by omega
            have ha' : a + b - q ≠ a := by omega
            rw [if_pos hinner, if_neg hb', if_neg ha']
      · have hqb : q ≠ b := by omega
        have hqa : q ≠ a := by omega
        have hinner : ¬(a + 1 ≤ q ∧ q ≤ b - 1) := by omega
        rw [if_neg hq, if_neg hinner, if_neg hqb, if_neg hqa]
    · have hlt : ¬4 * a < 4 * b := by omega
      rw [if_neg hlt]
      by_cases hq : a ≤ q ∧ q ≤ b
      · have heq : a + b - q = q := by omega
        rw [if_pos hq, heq]
      · rw [if_neg hq]

/-- The inverse of the column mixing reaches the round keys it is run on, and no other. -/
lemma word_invMixKeys :
    ∀ (rounds pos : ℕ) (rk : RoundKeys) (k : ℕ),
      (invMixKeys rounds pos rk).word k =
        if pos ≤ k ∧ k < pos + 4 * rounds then invMixWord (rk.word k) else rk.word k := by
  intro rounds
  induction rounds with
  | zero =>
    intro pos rk k
    have hnot : ¬(pos ≤ k ∧ k < pos + 4 * 0) := by omega
    rw [invMixKeys, if_neg hnot]
  | succ rounds ih =>
    intro pos rk k
    rw [invMixKeys, ih]
    simp only [RoundKeys.set, Function.update_apply]
    by_cases hlater : pos + 4 ≤ k
    · have hne : k ≠ pos + 3 ∧ k ≠ pos + 2 ∧ k ≠ pos + 1 ∧ k ≠ pos := by omega
      have hiff : (pos + 4 ≤ k ∧ k < pos + 4 + 4 * rounds) ↔ (pos ≤ k ∧ k < pos + 4 * (rounds + 1)) := by omega
      simp only [hne.1, hne.2.1, hne.2.2.1, hne.2.2.2, if_false, hiff]
    · have hnot : ¬(pos + 4 ≤ k ∧ k < pos + 4 + 4 * rounds) := by omega
      rw [if_neg hnot]
      by_cases hbefore : k < pos
      · have hne : k ≠ pos + 3 ∧ k ≠ pos + 2 ∧ k ≠ pos + 1 ∧ k ≠ pos := by omega
        have houtside : ¬(pos ≤ k ∧ k < pos + 4 * (rounds + 1)) := by omega
        simp only [hne.1, hne.2.1, hne.2.2.1, hne.2.2.2, if_false, houtside]
      · have hinside : pos ≤ k ∧ k < pos + 4 * (rounds + 1) := by omega
        have hcases : k = pos ∨ k = pos + 1 ∨ k = pos + 2 ∨ k = pos + 3 := by omega
        rw [if_pos hinside]
        rcases hcases with rfl | rfl | rfl | rfl <;> simp

/-- The two arrays have the same words below `n`. -/
def AgreeBelow (n : ℕ) (rk rk' : RoundKeys) : Prop :=
  ∀ k < n, rk.word k = rk'.word k

/-- A word that is computed from the words before it is the same in both arrays. -/
lemma AgreeBelow.set {n : ℕ} {rk rk' : RoundKeys} (hagree : AgreeBelow n rk rk') {w w' : UInt32} (heq : w = w') :
    AgreeBelow (n + 1) (rk.set n w) (rk'.set n w') := by
  intro k hk
  subst heq
  simp only [RoundKeys.set, Function.update_apply]
  by_cases hkn : k = n
  · rw [if_pos hkn, if_pos hkn]
  · rw [if_neg hkn, if_neg hkn]
    exact hagree k (by omega)

lemma AgreeBelow.chainKeys {rk rk' : RoundKeys} :
    ∀ (count : ℕ) {src dst : ℕ}, AgreeBelow dst rk rk' → src < dst →
      AgreeBelow (dst + count) (chainKeys rk src dst count) (chainKeys rk' src dst count) := by
  intro count
  induction count generalizing rk rk' with
  | zero =>
    intro src dst hagree _
    exact hagree
  | succ count ih =>
    intro src dst hagree hsrc
    have hstep : AgreeBelow (dst + 1) (rk.set dst (rk.word src ^^^ rk.word (dst - 1)))
        (rk'.set dst (rk'.word src ^^^ rk'.word (dst - 1))) := by
      apply hagree.set
      rw [hagree src hsrc, hagree (dst - 1) (by omega)]
    have hrest := ih hstep (by omega : src + 1 < dst + 1)
    rwa [Nat.add_assoc, Nat.add_comm 1 count] at hrest

lemma agreeBelow_expandRot {rk rk' : RoundKeys} {words pos : ℕ} (i : ℕ) (hwords : 0 < words)
    (hagree : AgreeBelow (pos + words) rk rk') :
    AgreeBelow (pos + words + 4) (expandRot rk words pos i) (expandRot rk' words pos i) := by
  have hfirst : AgreeBelow (pos + words + 1)
      (rk.set (pos + words) (rk.word pos ^^^ subRotWord (rk.word (pos + words - 1)) ^^^ rcon i))
      (rk'.set (pos + words) (rk'.word pos ^^^ subRotWord (rk'.word (pos + words - 1)) ^^^ rcon i)) := by
    apply hagree.set
    rw [hagree pos (by omega), hagree (pos + words - 1) (by omega)]
  exact hfirst.chainKeys 3 (by omega : pos + 1 < pos + words + 1)

lemma agreeBelow_expandStep192 {rk rk' : RoundKeys} {i : ℕ} (hagree : AgreeBelow (6 * i + 6) rk rk') :
    AgreeBelow (if i = 7 then 52 else 6 * (i + 1) + 6) (expandStep192 rk i) (expandStep192 rk' i) := by
  have hfour := agreeBelow_expandRot i (by omega) hagree
  by_cases hi : i = 7
  · subst hi
    exact hfour
  · simp only [expandStep192, if_neg hi]
    have hrest := hfour.chainKeys 2 (by omega : 6 * i + 4 < 6 * i + 6 + 4)
    have hend : 6 * i + 6 + 4 + 2 = 6 * (i + 1) + 6 := by omega
    rwa [hend] at hrest

lemma agreeBelow_expandStep256 {rk rk' : RoundKeys} {i : ℕ} (hagree : AgreeBelow (8 * i + 8) rk rk') :
    AgreeBelow (if i = 6 then 60 else 8 * (i + 1) + 8) (expandStep256 rk i) (expandStep256 rk' i) := by
  have hfour := agreeBelow_expandRot i (by omega) hagree
  by_cases hi : i = 6
  · subst hi
    exact hfour
  · simp only [expandStep256, if_neg hi]
    have hword : (expandRot rk 8 (8 * i) i).word (8 * i + 4) ^^^ subWord ((expandRot rk 8 (8 * i) i).word (8 * i + 11)) =
        (expandRot rk' 8 (8 * i) i).word (8 * i + 4) ^^^ subWord ((expandRot rk' 8 (8 * i) i).word (8 * i + 11)) := by
      rw [hfour (8 * i + 4) (by omega), hfour (8 * i + 11) (by omega)]
    have hrest := (hfour.set hword).chainKeys 3 (by omega : 8 * i + 5 < 8 * i + 8 + 4 + 1)
    have hend : 8 * i + 8 + 4 + 1 + 3 = 8 * (i + 1) + 8 := by omega
    rwa [hend] at hrest

/-- A loop over the turns keeps what every turn keeps. -/
lemma agreeBelow_foldl (step : RoundKeys → ℕ → RoundKeys) (bound : ℕ → ℕ) {rk rk' : RoundKeys}
    (hinit : AgreeBelow (bound 0) rk rk') :
    ∀ (turns : ℕ), (∀ i < turns, ∀ rk rk', AgreeBelow (bound i) rk rk' →
      AgreeBelow (bound (i + 1)) (step rk i) (step rk' i)) →
      AgreeBelow (bound turns) ((List.range turns).foldl step rk) ((List.range turns).foldl step rk') := by
  intro turns
  induction turns with
  | zero =>
    intro _
    exact hinit
  | succ turns ih =>
    intro hstep
    rw [List.range_succ, List.foldl_append, List.foldl_append]
    exact hstep turns (by omega) _ _ (ih fun i hi => hstep i (by omega))

lemma agreeBelow_loadKey (rk rk' : RoundKeys) (cipherKey : List UInt8) (words : ℕ) :
    AgreeBelow words (loadKey rk cipherKey words) (loadKey rk' cipherKey words) := by
  intro k hk
  simp only [loadKey, if_pos hk]

/-- The round keys do not depend on what was in the array. -/
lemma agreeBelow_of_setup {rk₀ rk₀' rk rk' : RoundKeys} {cipherKey : List UInt8} {keyBits nr nr' : ℕ}
    (hsetup : rijndaelKeySetupEnc rk₀ cipherKey keyBits = some (rk, nr))
    (hsetup' : rijndaelKeySetupEnc rk₀' cipherKey keyBits = some (rk', nr')) :
    nr' = nr ∧ AgreeBelow (4 * (nr + 1)) rk rk' := by
  rw [rijndaelKeySetupEnc] at hsetup hsetup'
  split_ifs at hsetup hsetup' <;> simp only [Option.some.injEq, Prod.mk.injEq] at hsetup hsetup' <;>
    obtain ⟨rfl, rfl⟩ := hsetup <;> obtain ⟨rfl, rfl⟩ := hsetup' <;> refine ⟨rfl, ?_⟩
  · have hinit := agreeBelow_loadKey rk₀ rk₀' cipherKey 4
    apply agreeBelow_foldl expandStep128 (fun i => 4 * i + 4) hinit 10
    intro i _ rk rk' hagree
    exact agreeBelow_expandRot i (by omega) hagree
  · have hinit := agreeBelow_loadKey rk₀ rk₀' cipherKey 6
    apply agreeBelow_foldl expandStep192 (fun i => if i = 8 then 52 else 6 * i + 6) hinit 8
    intro i hi rk rk' hagree
    have hne : i ≠ 8 := by omega
    rw [if_neg hne] at hagree
    simpa using agreeBelow_expandStep192 hagree
  · have hinit := agreeBelow_loadKey rk₀ rk₀' cipherKey 8
    apply agreeBelow_foldl expandStep256 (fun i => if i = 7 then 60 else 8 * i + 8) hinit 7
    intro i hi rk rk' hagree
    have hne : i ≠ 7 := by omega
    rw [if_neg hne] at hagree
    simpa using agreeBelow_expandStep256 hagree

/-- `rijndaelKeySetupDec` turns the round keys of the encryption around. -/
lemma keysInverted_invertOrder {rk : RoundKeys} {nr : ℕ} (hpos : 0 < nr) :
    KeysInverted rk (invMixKeys (nr - 1) 4 (invertOrder nr 0 (4 * nr) rk)) nr := by
  have hinv : ∀ q w, w < 4 → q ≤ nr →
      (invertOrder nr 0 (4 * nr) rk).word (4 * q + w) = rk.word (4 * (nr - q) + w) := by
    intro q w hw hq
    have hword := word_invertOrder nr 0 nr rk (by omega) q w hw
    rw [Nat.mul_zero] at hword
    rw [hword, if_pos ⟨Nat.zero_le q, hq⟩, Nat.zero_add]
  constructor
  · intro w hw
    have hnot : ¬(4 ≤ 0 + w ∧ 0 + w < 4 + 4 * (nr - 1)) := by omega
    rw [word_invMixKeys, if_neg hnot]
    simpa using hinv 0 w hw (Nat.zero_le nr)
  · intro j hj hlt w hw
    have hin : 4 ≤ 4 * j + w ∧ 4 * j + w < 4 + 4 * (nr - 1) := by omega
    rw [word_invMixKeys, if_pos hin, hinv j w hw (by omega)]
  · intro w hw
    have hnot : ¬(4 ≤ 4 * nr + w ∧ 4 * nr + w < 4 + 4 * (nr - 1)) := by omega
    rw [word_invMixKeys, if_neg hnot]
    simpa using hinv nr w hw (le_refl nr)

lemma KeysInverted.of_agreeBelow {rk rk' rk'' : RoundKeys} {nr : ℕ} (hkeys : KeysInverted rk' rk'' nr)
    (hagree : AgreeBelow (4 * (nr + 1)) rk rk') : KeysInverted rk rk'' nr := by
  constructor
  · intro w hw
    rw [hkeys.first w hw, hagree _ (by omega)]
  · intro j hj hlt w hw
    rw [hkeys.inner j hj hlt w hw, hagree _ (by omega)]
  · intro w hw
    rw [hkeys.last w hw, hagree _ (by omega)]

lemma rounds_of_setup {rk₀ rk : RoundKeys} {cipherKey : List UInt8} {keyBits nr : ℕ}
    (hsetup : rijndaelKeySetupEnc rk₀ cipherKey keyBits = some (rk, nr)) : 0 < nr ∧ nr % 2 = 0 := by
  rw [rijndaelKeySetupEnc] at hsetup
  split_ifs at hsetup <;> simp only [Option.some.injEq, Prod.mk.injEq] at hsetup <;> omega

/-- The blocks that can be told apart are finitely many. -/
instance : Finite AesBlock := by
  apply Finite.of_injective fun (v : AesBlock) (i : Fin 16) => v[i].toFin
  intro u v huv
  apply Vector.ext
  intro i hi
  exact UInt8.toFin_inj.1 (congrFun huv ⟨i, hi⟩)

/-- Whatever was in the arrays, with the round keys of one key the decryption undoes the encryption and the encryption
the decryption. -/
lemma rijndaelDecrypt_rijndaelEncrypt {rk₀ rk₀' rk rk' : RoundKeys} {cipherKey : List UInt8} {keyBits nr nr' : ℕ}
    (henc : rijndaelKeySetupEnc rk₀ cipherKey keyBits = some (rk, nr))
    (hdec : rijndaelKeySetupDec rk₀' cipherKey keyBits = some (rk', nr')) :
    Function.LeftInverse (rijndaelDecrypt rk' nr') (rijndaelEncrypt rk nr) ∧
      Function.RightInverse (rijndaelDecrypt rk' nr') (rijndaelEncrypt rk nr) := by
  obtain ⟨hpos, heven⟩ := rounds_of_setup henc
  rw [rijndaelKeySetupDec] at hdec
  obtain ⟨⟨rk'', nr''⟩, henc', hdec⟩ := Option.bind_eq_some_iff.1 hdec
  obtain ⟨rfl, hagree⟩ := agreeBelow_of_setup henc henc'
  simp only [Option.some.injEq, Prod.mk.injEq] at hdec
  obtain ⟨rfl, rfl⟩ := hdec
  have hkeys := (keysInverted_invertOrder hpos).of_agreeBelow hagree
  have hleft : Function.LeftInverse _ (rijndaelEncrypt rk nr'') :=
    rijndaelDecrypt_rijndaelEncrypt_of_keysInverted hkeys hpos heven
  refine ⟨hleft, ?_⟩
  apply Function.LeftInverse.rightInverse_of_surjective hleft
  exact Finite.surjective_of_injective hleft.injective

/-- Keys of 16, 24 and 32 bytes are taken. -/
lemma aesEncryptInit_eq_none_iff (mem : RoundKeys) (key : List UInt8) :
    aesEncryptInit mem key = none ↔ ¬(key.length = 16 ∨ key.length = 24 ∨ key.length = 32) := by
  rw [aesEncryptInit, Option.map_eq_none_iff, rijndaelKeySetupEnc]
  split_ifs <;> simp only [false_iff, true_iff, not_not] <;> omega

/-- `aes_decrypt_init` succeeds where `aes_encrypt_init` does. -/
lemma aesDecryptInit_eq_none_iff (mem mem' : RoundKeys) (key : List UInt8) :
    aesDecryptInit mem' key = none ↔ aesEncryptInit mem key = none := by
  have hdec : rijndaelKeySetupDec mem' key (key.length * 8) = none ↔
      rijndaelKeySetupEnc mem' key (key.length * 8) = none := by
    rw [rijndaelKeySetupDec]
    cases rijndaelKeySetupEnc mem' key (key.length * 8) <;> simp
  rw [aesDecryptInit, aesEncryptInit, Option.map_eq_none_iff, Option.map_eq_none_iff, hdec]
  simp only [rijndaelKeySetupEnc]
  split_ifs <;> simp

/-- Encryption and decryption with one key are inverse to each other, whatever was in the memory of their contexts. -/
lemma aes_inverse {mem mem' : RoundKeys} {key : List UInt8} {enc dec : AesCtx}
    (henc : aesEncryptInit mem key = some enc) (hdec : aesDecryptInit mem' key = some dec) :
    (∀ pt, aesDecrypt dec (aesEncrypt enc pt) = pt) ∧ ∀ ct, aesEncrypt enc (aesDecrypt dec ct) = ct := by
  obtain ⟨⟨rk, nr⟩, hsetup, rfl⟩ := Option.map_eq_some_iff.1 henc
  obtain ⟨⟨rk', nr'⟩, hsetup', rfl⟩ := Option.map_eq_some_iff.1 hdec
  exact rijndaelDecrypt_rijndaelEncrypt hsetup hsetup'

lemma roundsFrom_congr {round round' : ℕ → AesState → AesState} {pos : ℕ} :
    ∀ (count : ℕ), (∀ j, 0 < j → j ≤ count → round (pos + 4 * j) = round' (pos + 4 * j)) →
      ∀ s, roundsFrom round pos count s = roundsFrom round' pos count s := by
  intro count
  induction count with
  | zero =>
    intro _ s
    rfl
  | succ count ih =>
    intro hround s
    have hrest := ih (fun j hj hle => hround j hj (by omega)) s
    rw [roundsFrom, roundsFrom, hround (count + 1) (by omega) (le_refl _), hrest]

/-- Encryption reads the round keys only. -/
lemma rijndaelEncrypt_congr {rk rk' : RoundKeys} {nr : ℕ} (hagree : AgreeBelow (4 * (nr + 1)) rk rk') (hpos : 0 < nr)
    (heven : nr % 2 = 0) : rijndaelEncrypt rk nr = rijndaelEncrypt rk' nr := by
  have haddKey : ∀ q ≤ nr, ∀ t : AesState, t.addKey rk (4 * q) = t.addKey rk' (4 * q) := by
    intro q hq t
    rw [AesState.addKey, AesState.addKey, hagree (4 * q) (by omega), hagree (4 * q + 1) (by omega),
      hagree (4 * q + 2) (by omega), hagree (4 * q + 3) (by omega)]
  have hround : ∀ j, 0 < j → j ≤ nr - 1 → encRound rk (0 + 4 * j) = encRound rk' (0 + 4 * j) := by
    intro j _ hj
    rw [Nat.zero_add]
    funext t
    rw [encRound, encRound, haddKey j (by omega)]
  have hhalf : 0 < nr / 2 := by omega
  have hrounds : 2 * (nr / 2) - 1 = nr - 1 := by omega
  have hend : 0 + 8 * (nr / 2) = 4 * nr := by omega
  have hzero : ∀ t : AesState, t.addKey rk 0 = t.addKey rk' 0 := haddKey 0 (Nat.zero_le nr)
  funext pt
  simp only [rijndaelEncrypt, rijndaelLoop_eq _ _ hhalf, hrounds, hend, encLastRound_eq, hzero,
    roundsFrom_congr (nr - 1) hround, haddKey nr (le_refl nr)]

/-- What was in the memory of a context makes no difference to the encryption. -/
lemma aesEncrypt_congr {mem mem' : RoundKeys} {key : List UInt8} {enc enc' : AesCtx}
    (henc : aesEncryptInit mem key = some enc) (henc' : aesEncryptInit mem' key = some enc') :
    aesEncrypt enc = aesEncrypt enc' := by
  obtain ⟨⟨rk, nr⟩, hsetup, rfl⟩ := Option.map_eq_some_iff.1 henc
  obtain ⟨⟨rk', nr'⟩, hsetup', rfl⟩ := Option.map_eq_some_iff.1 henc'
  obtain ⟨hpos, heven⟩ := rounds_of_setup hsetup
  obtain ⟨rfl, hagree⟩ := agreeBelow_of_setup hsetup hsetup'
  exact rijndaelEncrypt_congr hagree hpos heven

/-- The encryption with a key, where only one direction is used: `aes_encrypt_init` in memory that is zero, which is as
good as any other (`aesEncryptWith_eq`). -/
def aesEncryptWith (key : List UInt8) : Option (AesBlock → AesBlock) :=
  (aesEncryptInit ⟨fun _ => 0⟩ key).map aesEncrypt

lemma aesEncryptWith_eq (mem : RoundKeys) (key : List UInt8) :
    (aesEncryptInit mem key).map aesEncrypt = aesEncryptWith key := by
  have hnone : aesEncryptInit mem key = none ↔ aesEncryptInit ⟨fun _ => 0⟩ key = none := by
    rw [← aesDecryptInit_eq_none_iff mem mem, ← aesDecryptInit_eq_none_iff ⟨fun _ => 0⟩ mem]
  rw [aesEncryptWith]
  rcases henc : aesEncryptInit mem key with _ | enc
  · rw [hnone.1 henc]
  · rcases henc' : aesEncryptInit ⟨fun _ => 0⟩ key with _ | enc'
    · rw [hnone.2 henc'] at henc
      cases henc
    · rw [Option.map_some, Option.map_some, aesEncrypt_congr henc henc']

/-- With a key of 16, 24 or 32 bytes both contexts are made, and decryption and encryption are inverse to each other,
whatever was in the memory of either context.  With any other key neither is made. -/
theorem aes_contexts (mem mem' : RoundKeys) (key : List UInt8) :
    if key.length = 16 ∨ key.length = 24 ∨ key.length = 32 then
      ∃ enc dec, aesEncryptInit mem key = some enc ∧ aesDecryptInit mem' key = some dec ∧
        (∀ pt, aesDecrypt dec (aesEncrypt enc pt) = pt) ∧ ∀ ct, aesEncrypt enc (aesDecrypt dec ct) = ct
    else aesEncryptInit mem key = none ∧ aesDecryptInit mem' key = none := by
  have hinit := aesEncryptInit_eq_none_iff mem key
  split_ifs with hlength
  · rcases henc : aesEncryptInit mem key with _ | enc
    · exact absurd hlength (hinit.1 henc)
    · rcases hdec : aesDecryptInit mem' key with _ | dec
      · rw [(aesDecryptInit_eq_none_iff mem mem' key).1 hdec] at henc
        cases henc
      · obtain ⟨hleft, hright⟩ := aes_inverse henc hdec
        exact ⟨enc, dec, rfl, rfl, hleft, hright⟩
  · have hnone := hinit.2 hlength
    exact ⟨hnone, (aesDecryptInit_eq_none_iff mem mem' key).2 hnone⟩

end Ethanol
