import BrokerVault.Cipher.Aes
import BrokerVault.Cipher.Error

/-! AES-256-GCM without associated data. A counter makes a stream of bytes that is added to the
plaintext; a tag of sixteen bytes over what results is put behind it. Opening undoes sealing,
because adding the stream twice does nothing. -/
namespace BrokerVault.Gcm

structure Element where
  high : UInt64
  low : UInt64
  deriving DecidableEq, Repr

namespace Element

def add (left right : Element) : Element := ⟨left.high ^^^ right.high, left.low ^^^ right.low⟩

def shift (x : Element) : Element :=
  let low := (x.low >>> 1) ||| (x.high <<< 63)
  let high := x.high >>> 1
  if x.low &&& 1 = 0 then ⟨high, low⟩ else ⟨high ^^^ 0xE100000000000000, low⟩

def addMultiples : Nat → (word : UInt64) → (multiple sum : Element) → Element × Element
  | 0, _, multiple, sum => (multiple, sum)
  | bits + 1, word, multiple, sum =>
    let sum := if word >>> 63 = 0 then sum else sum.add multiple
    addMultiples bits (word <<< 1) multiple.shift sum

def mul (left right : Element) : Element :=
  let (multiple, sum) := addMultiples 64 left.high right ⟨0, 0⟩
  (addMultiples 64 left.low multiple sum).2

def ofColumns (s : Aes.Columns) : Element :=
  ⟨(s.first.toUInt64 <<< 32) ||| s.second.toUInt64, (s.third.toUInt64 <<< 32) ||| s.fourth.toUInt64⟩

def toColumns (x : Element) : Aes.Columns :=
  ⟨(x.high >>> 32).toUInt32, x.high.toUInt32, (x.low >>> 32).toUInt32, x.low.toUInt32⟩

end Element

def hashBlocks (factor : Element) : Nat → Element → Bytes → Element
  | 0, sum, _ => sum
  | blocks + 1, sum, bytes =>
    let block := Element.ofColumns (.ofBytes (bytes.take 16))
    hashBlocks factor blocks ((sum.add block).mul factor) (bytes.drop 16)

def blockCount (bytes : Bytes) : Nat := (bytes.length + 15) / 16

def hash (factor : Element) (bytes : Bytes) : Element :=
  let sum := hashBlocks factor (blockCount bytes) ⟨0, 0⟩ bytes
  (sum.add ⟨0, UInt64.ofNat (8 * bytes.length)⟩).mul factor

def counterBlock (nonce : Bytes) (counter : Nat) : Aes.Columns :=
  .ofBytes (nonce ++ Bytes.ofNat 4 counter)

-- Counting from 2 on; the first counter is the tag's.
def stream (schedule : List Aes.Columns) (nonce : Bytes) (blocks : Nat) : Bytes :=
  (List.range blocks).flatMap fun index =>
    (Aes.encrypt schedule (counterBlock nonce (index + 2))).toBytes

def addBytes (left right : Bytes) : Bytes := List.zipWith (· ^^^ ·) left right

def withStream (schedule : List Aes.Columns) (nonce bytes : Bytes) : Bytes :=
  addBytes bytes (stream schedule nonce (blockCount bytes))

def tag (schedule : List Aes.Columns) (nonce body : Bytes) : Bytes :=
  let factor := Element.ofColumns (Aes.encrypt schedule ⟨0, 0, 0, 0⟩)
  let mask := Element.ofColumns (Aes.encrypt schedule (counterBlock nonce 1))
  ((hash factor body).add mask).toColumns.toBytes

def tagLength : Nat := 16

def greatestLength : Nat := Nat.pow 2 36

def encrypt (key : Key) (nonce plaintext : Bytes) : Except CipherError Bytes :=
  if greatestLength < plaintext.length then .error .notSealed
  else
    let schedule := Aes.keySchedule key
    let body := withStream schedule nonce plaintext
    .ok (body ++ tag schedule nonce body)

def decrypt (key : Key) (nonce sealedBytes : Bytes) : Option Bytes :=
  let body := sealedBytes.take (sealedBytes.length - tagLength)
  let schedule := Aes.keySchedule key
  if sealedBytes.length < tagLength ∨ greatestLength < body.length then none
  else if tag schedule nonce body = sealedBytes.drop body.length then
    some (withStream schedule nonce body)
  else none

end BrokerVault.Gcm
