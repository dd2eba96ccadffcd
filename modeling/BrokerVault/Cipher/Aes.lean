import BrokerVault.Cipher.Key

/-! AES with a key of 256 bits: one block of four columns, each a word of four bytes, through
fourteen rounds. -/
namespace BrokerVault.Aes

structure Columns where
  first : UInt32
  second : UInt32
  third : UInt32
  fourth : UInt32
  deriving DecidableEq, Repr, Inhabited

def substitutes : Array UInt8 := #[
  0x63, 0x7C, 0x77, 0x7B, 0xF2, 0x6B, 0x6F, 0xC5, 0x30, 0x01, 0x67, 0x2B, 0xFE, 0xD7, 0xAB,
  0x76, 0xCA, 0x82, 0xC9, 0x7D, 0xFA, 0x59, 0x47, 0xF0, 0xAD, 0xD4, 0xA2, 0xAF, 0x9C, 0xA4,
  0x72, 0xC0, 0xB7, 0xFD, 0x93, 0x26, 0x36, 0x3F, 0xF7, 0xCC, 0x34, 0xA5, 0xE5, 0xF1, 0x71,
  0xD8, 0x31, 0x15, 0x04, 0xC7, 0x23, 0xC3, 0x18, 0x96, 0x05, 0x9A, 0x07, 0x12, 0x80, 0xE2,
  0xEB, 0x27, 0xB2, 0x75, 0x09, 0x83, 0x2C, 0x1A, 0x1B, 0x6E, 0x5A, 0xA0, 0x52, 0x3B, 0xD6,
  0xB3, 0x29, 0xE3, 0x2F, 0x84, 0x53, 0xD1, 0x00, 0xED, 0x20, 0xFC, 0xB1, 0x5B, 0x6A, 0xCB,
  0xBE, 0x39, 0x4A, 0x4C, 0x58, 0xCF, 0xD0, 0xEF, 0xAA, 0xFB, 0x43, 0x4D, 0x33, 0x85, 0x45,
  0xF9, 0x02, 0x7F, 0x50, 0x3C, 0x9F, 0xA8, 0x51, 0xA3, 0x40, 0x8F, 0x92, 0x9D, 0x38, 0xF5,
  0xBC, 0xB6, 0xDA, 0x21, 0x10, 0xFF, 0xF3, 0xD2, 0xCD, 0x0C, 0x13, 0xEC, 0x5F, 0x97, 0x44,
  0x17, 0xC4, 0xA7, 0x7E, 0x3D, 0x64, 0x5D, 0x19, 0x73, 0x60, 0x81, 0x4F, 0xDC, 0x22, 0x2A,
  0x90, 0x88, 0x46, 0xEE, 0xB8, 0x14, 0xDE, 0x5E, 0x0B, 0xDB, 0xE0, 0x32, 0x3A, 0x0A, 0x49,
  0x06, 0x24, 0x5C, 0xC2, 0xD3, 0xAC, 0x62, 0x91, 0x95, 0xE4, 0x79, 0xE7, 0xC8, 0x37, 0x6D,
  0x8D, 0xD5, 0x4E, 0xA9, 0x6C, 0x56, 0xF4, 0xEA, 0x65, 0x7A, 0xAE, 0x08, 0xBA, 0x78, 0x25,
  0x2E, 0x1C, 0xA6, 0xB4, 0xC6, 0xE8, 0xDD, 0x74, 0x1F, 0x4B, 0xBD, 0x8B, 0x8A, 0x70, 0x3E,
  0xB5, 0x66, 0x48, 0x03, 0xF6, 0x0E, 0x61, 0x35, 0x57, 0xB9, 0x86, 0xC1, 0x1D, 0x9E, 0xE1,
  0xF8, 0x98, 0x11, 0x69, 0xD9, 0x8E, 0x94, 0x9B, 0x1E, 0x87, 0xE9, 0xCE, 0x55, 0x28, 0xDF,
  0x8C, 0xA1, 0x89, 0x0D, 0xBF, 0xE6, 0x42, 0x68, 0x41, 0x99, 0x2D, 0x0F, 0xB0, 0x54, 0xBB,
  0x16]

def substitute (byte : UInt8) : UInt8 := substitutes.getD byte.toNat 0

@[inline] def wordOf (top upper lower bottom : UInt8) : UInt32 :=
  (top.toUInt32 <<< 24) ||| (upper.toUInt32 <<< 16) ||| (lower.toUInt32 <<< 8) ||| bottom.toUInt32

@[inline] def topByte (word : UInt32) : UInt8 := (word >>> 24).toUInt8
@[inline] def upperByte (word : UInt32) : UInt8 := (word >>> 16).toUInt8
@[inline] def lowerByte (word : UInt32) : UInt8 := (word >>> 8).toUInt8
@[inline] def bottomByte (word : UInt32) : UInt8 := word.toUInt8

def substituteWord (word : UInt32) : UInt32 :=
  wordOf (substitute (topByte word)) (substitute (upperByte word)) (substitute (lowerByte word))
    (substitute (bottomByte word))

def rotateLeft (word : UInt32) : UInt32 := (word <<< 8) ||| (word >>> 24)

namespace Columns

def add (left right : Columns) : Columns :=
  ⟨left.first ^^^ right.first, left.second ^^^ right.second, left.third ^^^ right.third,
    left.fourth ^^^ right.fourth⟩

def substituteAndShift (s : Columns) : Columns :=
  let column (a b c d : UInt32) : UInt32 :=
    wordOf (substitute (topByte a)) (substitute (upperByte b)) (substitute (lowerByte c))
      (substitute (bottomByte d))
  ⟨column s.first s.second s.third s.fourth, column s.second s.third s.fourth s.first,
    column s.third s.fourth s.first s.second, column s.fourth s.first s.second s.third⟩

end Columns

def double (byte : UInt8) : UInt8 := (byte <<< 1) ^^^ (if byte &&& 0x80 = 0 then 0 else 0x1B)

def mixColumn (word : UInt32) : UInt32 :=
  let a := topByte word
  let b := upperByte word
  let c := lowerByte word
  let d := bottomByte word
  let all := a ^^^ b ^^^ c ^^^ d
  wordOf (a ^^^ all ^^^ double (a ^^^ b)) (b ^^^ all ^^^ double (b ^^^ c))
    (c ^^^ all ^^^ double (c ^^^ d)) (d ^^^ all ^^^ double (d ^^^ a))

def Columns.mix (s : Columns) : Columns :=
  ⟨mixColumn s.first, mixColumn s.second, mixColumn s.third, mixColumn s.fourth⟩

def following (group : Columns) (carried : UInt32) : Columns :=
  let first := group.first ^^^ carried
  let second := group.second ^^^ first
  let third := group.third ^^^ second
  ⟨first, second, third, group.fourth ^^^ third⟩

def roundKeysFrom : Nat → (constant : UInt8) → (older newer : Columns) → List Columns
  | 0, _, _, _ => []
  | steps + 1, constant, older, newer =>
    let carried := substituteWord (rotateLeft newer.fourth) ^^^ (constant.toUInt32 <<< 24)
    let even := following older carried
    let odd := following newer (substituteWord even.fourth)
    even :: odd :: roundKeysFrom steps (double constant) even odd

-- Fifteen keys; the schedule runs past them by one.
def roundKeys (older newer : Columns) : List Columns :=
  (older :: newer :: roundKeysFrom 7 1 older newer).take 15

def Columns.ofBytes : Bytes → Columns
  | a :: b :: c :: d :: e :: f :: g :: h :: i :: j :: k :: l :: m :: n :: o :: p :: _ =>
    ⟨wordOf a b c d, wordOf e f g h, wordOf i j k l, wordOf m n o p⟩
  | short => ofPadded (short ++ List.replicate (16 - short.length) 0)
where
  ofPadded : Bytes → Columns
    | a :: b :: c :: d :: e :: f :: g :: h :: i :: j :: k :: l :: m :: n :: o :: p :: _ =>
      ⟨wordOf a b c d, wordOf e f g h, wordOf i j k l, wordOf m n o p⟩
    | _ => ⟨0, 0, 0, 0⟩

def wordBytes (word : UInt32) : Bytes :=
  [topByte word, upperByte word, lowerByte word, bottomByte word]

def Columns.toBytes (s : Columns) : Bytes :=
  wordBytes s.first ++ wordBytes s.second ++ wordBytes s.third ++ wordBytes s.fourth

theorem columnBytesLength (s : Columns) : s.toBytes.length = 16 := rfl

def keySchedule (key : Key) : List Columns :=
  roundKeys (.ofBytes key.bytes) (.ofBytes (key.bytes.drop 16))

def encryptRounds (s : Columns) : List Columns → Columns
  | [] => s
  | [last] => s.substituteAndShift.add last
  | key :: keys => encryptRounds (s.substituteAndShift.mix.add key) keys

def encrypt (schedule : List Columns) (block : Columns) : Columns :=
  match schedule with
  | [] => block
  | first :: keys => encryptRounds (block.add first) keys

end BrokerVault.Aes
