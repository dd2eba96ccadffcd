import BrokerVault.Bytes

/-! SHA-256 and HMAC over it. A message is padded to whole blocks of sixteen words, and each block
is mixed into a state of eight words. -/
namespace BrokerVault.Sha256

structure State where
  a : UInt32
  b : UInt32
  c : UInt32
  d : UInt32
  e : UInt32
  f : UInt32
  g : UInt32
  h : UInt32
  deriving DecidableEq, Repr

structure Block where
  w0 : UInt32
  w1 : UInt32
  w2 : UInt32
  w3 : UInt32
  w4 : UInt32
  w5 : UInt32
  w6 : UInt32
  w7 : UInt32
  w8 : UInt32
  w9 : UInt32
  w10 : UInt32
  w11 : UInt32
  w12 : UInt32
  w13 : UInt32
  w14 : UInt32
  w15 : UInt32
  deriving DecidableEq, Repr

@[inline] def rotateRight (word amount : UInt32) : UInt32 :=
  (word >>> amount) ||| (word <<< (32 - amount))

@[inline] def round (s : State) (constant word : UInt32) : State :=
  let mixed := rotateRight s.e 6 ^^^ rotateRight s.e 11 ^^^ rotateRight s.e 25
  let choice := (s.e &&& s.f) ^^^ (~~~s.e &&& s.g)
  let first := s.h + mixed + choice + constant + word
  let majority := (s.a &&& s.b) ^^^ (s.a &&& s.c) ^^^ (s.b &&& s.c)
  let second := (rotateRight s.a 2 ^^^ rotateRight s.a 13 ^^^ rotateRight s.a 22) + majority
  ⟨first + second, s.a, s.b, s.c, s.d + first, s.e, s.f, s.g⟩

@[inline] def nextWord (second seventh fifteenth sixteenth : UInt32) : UInt32 :=
  (rotateRight second 17 ^^^ rotateRight second 19 ^^^ (second >>> 10)) + seventh
    + (rotateRight fifteenth 7 ^^^ rotateRight fifteenth 18 ^^^ (fifteenth >>> 3)) + sixteenth

@[noinline] def Block.next (b : Block) : Block :=
  let w0 := nextWord b.w14 b.w9 b.w1 b.w0
  let w1 := nextWord b.w15 b.w10 b.w2 b.w1
  let w2 := nextWord w0 b.w11 b.w3 b.w2
  let w3 := nextWord w1 b.w12 b.w4 b.w3
  let w4 := nextWord w2 b.w13 b.w5 b.w4
  let w5 := nextWord w3 b.w14 b.w6 b.w5
  let w6 := nextWord w4 b.w15 b.w7 b.w6
  let w7 := nextWord w5 w0 b.w8 b.w7
  let w8 := nextWord w6 w1 b.w9 b.w8
  let w9 := nextWord w7 w2 b.w10 b.w9
  let w10 := nextWord w8 w3 b.w11 b.w10
  let w11 := nextWord w9 w4 b.w12 b.w11
  let w12 := nextWord w10 w5 b.w13 b.w12
  let w13 := nextWord w11 w6 b.w14 b.w13
  let w14 := nextWord w12 w7 b.w15 b.w14
  let w15 := nextWord w13 w8 w0 b.w15
  ⟨w0, w1, w2, w3, w4, w5, w6, w7, w8, w9, w10, w11, w12, w13, w14, w15⟩

@[noinline] def sixteenRounds (s : State) (b constants : Block) : State :=
  let s := round s constants.w0 b.w0
  let s := round s constants.w1 b.w1
  let s := round s constants.w2 b.w2
  let s := round s constants.w3 b.w3
  let s := round s constants.w4 b.w4
  let s := round s constants.w5 b.w5
  let s := round s constants.w6 b.w6
  let s := round s constants.w7 b.w7
  let s := round s constants.w8 b.w8
  let s := round s constants.w9 b.w9
  let s := round s constants.w10 b.w10
  let s := round s constants.w11 b.w11
  let s := round s constants.w12 b.w12
  let s := round s constants.w13 b.w13
  let s := round s constants.w14 b.w14
  round s constants.w15 b.w15

def firstConstants : Block :=
  ⟨0x428A2F98, 0x71374491, 0xB5C0FBCF, 0xE9B5DBA5, 0x3956C25B, 0x59F111F1, 0x923F82A4, 0xAB1C5ED5,
    0xD807AA98, 0x12835B01, 0x243185BE, 0x550C7DC3, 0x72BE5D74, 0x80DEB1FE, 0x9BDC06A7, 0xC19BF174⟩

def secondConstants : Block :=
  ⟨0xE49B69C1, 0xEFBE4786, 0x0FC19DC6, 0x240CA1CC, 0x2DE92C6F, 0x4A7484AA, 0x5CB0A9DC, 0x76F988DA,
    0x983E5152, 0xA831C66D, 0xB00327C8, 0xBF597FC7, 0xC6E00BF3, 0xD5A79147, 0x06CA6351, 0x14292967⟩

def thirdConstants : Block :=
  ⟨0x27B70A85, 0x2E1B2138, 0x4D2C6DFC, 0x53380D13, 0x650A7354, 0x766A0ABB, 0x81C2C92E, 0x92722C85,
    0xA2BFE8A1, 0xA81A664B, 0xC24B8B70, 0xC76C51A3, 0xD192E819, 0xD6990624, 0xF40E3585, 0x106AA070⟩

def fourthConstants : Block :=
  ⟨0x19A4C116, 0x1E376C08, 0x2748774C, 0x34B0BCB5, 0x391C0CB3, 0x4ED8AA4A, 0x5B9CCA4F, 0x682E6FF3,
    0x748F82EE, 0x78A5636F, 0x84C87814, 0x8CC70208, 0x90BEFFFA, 0xA4506CEB, 0xBEF9A3F7, 0xC67178F2⟩

def compress (s : State) (first : Block) : State :=
  let second := first.next
  let third := second.next
  let fourth := third.next
  let r := sixteenRounds s first firstConstants
  let r := sixteenRounds r second secondConstants
  let r := sixteenRounds r third thirdConstants
  let r := sixteenRounds r fourth fourthConstants
  ⟨s.a + r.a, s.b + r.b, s.c + r.c, s.d + r.d, s.e + r.e, s.f + r.f, s.g + r.g, s.h + r.h⟩

def initial : State :=
  ⟨0x6A09E667, 0xBB67AE85, 0x3C6EF372, 0xA54FF53A, 0x510E527F, 0x9B05688C, 0x1F83D9AB, 0x5BE0CD19⟩

def wordAt (bytes : Array UInt8) (place : Nat) : UInt32 :=
  let byte (offset : Nat) : UInt32 := (bytes.getD (4 * place + offset) 0).toUInt32
  (byte 0 <<< 24) ||| (byte 1 <<< 16) ||| (byte 2 <<< 8) ||| byte 3

def Block.ofBytes (bytes : Bytes) : Block :=
  let word := wordAt bytes.toArray
  ⟨word 0, word 1, word 2, word 3, word 4, word 5, word 6, word 7, word 8, word 9, word 10, word 11,
    word 12, word 13, word 14, word 15⟩

def padded (absorbed : Nat) (message : Bytes) : Bytes :=
  let total := absorbed + message.length
  let zeros := (119 - total % 64) % 64
  message ++ 0x80 :: List.replicate zeros 0 ++ Bytes.ofNat 8 (8 * total)

def absorb : Nat → State → Bytes → State
  | 0, state, _ => state
  | blocks + 1, state, bytes =>
    absorb blocks (compress state (.ofBytes (bytes.take 64))) (bytes.drop 64)

def finish (state : State) (absorbed : Nat) (message : Bytes) : State :=
  let bytes := padded absorbed message
  absorb (bytes.length / 64) state bytes

def wordBytes (word : UInt32) : Bytes :=
  [(word >>> 24).toUInt8, (word >>> 16).toUInt8, (word >>> 8).toUInt8, word.toUInt8]

def State.toBytes (s : State) : Bytes :=
  wordBytes s.a ++ wordBytes s.b ++ wordBytes s.c ++ wordBytes s.d ++ wordBytes s.e ++ wordBytes s.f
    ++ wordBytes s.g ++ wordBytes s.h

theorem stateBytesLength (s : State) : s.toBytes.length = 32 := rfl

def digest (message : Bytes) : Bytes := (finish initial 0 message).toBytes

structure MacKey where
  inner : State
  outer : State
  deriving DecidableEq, Repr

def MacKey.ofBytes (key : Bytes) : MacKey :=
  let short := if key.length ≤ 64 then key else digest key
  let under (pad : UInt8) : State :=
    let filled := short ++ List.replicate (64 - short.length) 0
    compress initial (.ofBytes (filled.map (· ^^^ pad)))
  ⟨under 0x36, under 0x5C⟩

def mac (key : MacKey) (message : Bytes) : State :=
  finish key.outer 64 (finish key.inner 64 message).toBytes

def State.lastBlock (s : State) : Block :=
  ⟨s.a, s.b, s.c, s.d, s.e, s.f, s.g, s.h, 0x80000000, 0, 0, 0, 0, 0, 0, 768⟩

def macOfState (key : MacKey) (message : State) : State :=
  compress key.outer (compress key.inner message.lastBlock).lastBlock

end BrokerVault.Sha256
