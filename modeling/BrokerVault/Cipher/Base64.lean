import BrokerVault.Bytes

/-! Base64 in the standard alphabet, with the padding that fills the last group of four. Decoding
accepts exactly what encoding writes, and otherwise names the first fault. -/
namespace BrokerVault.Base64

inductive Fault where
  | symbol (byte : UInt8) (offset : Nat)
  | lastSymbol (byte : UInt8) (offset : Nat)
  | cutShort (length : Nat)
  | padding
  deriving DecidableEq, Repr

def Fault.message : Fault → String
  | .symbol byte offset => s!"Invalid symbol {byte}, offset {offset}."
  | .lastSymbol byte offset => s!"Invalid last symbol {byte}, offset {offset}."
  | .cutShort length => s!"Invalid input length: {length}"
  | .padding => "Invalid padding"

def pad : UInt8 := 0x3D

def symbol (value : Nat) : UInt8 :=
  if value < 26 then UInt8.ofNat (0x41 + value)
  else if value < 52 then UInt8.ofNat (0x61 + (value - 26))
  else if value < 62 then UInt8.ofNat (0x30 + (value - 52))
  else if value = 62 then 0x2B
  else 0x2F

def value? (byte : UInt8) : Option Nat :=
  if 0x41 ≤ byte ∧ byte ≤ 0x5A then some (byte.toNat - 0x41)
  else if 0x61 ≤ byte ∧ byte ≤ 0x7A then some (byte.toNat - 0x61 + 26)
  else if 0x30 ≤ byte ∧ byte ≤ 0x39 then some (byte.toNat - 0x30 + 52)
  else if byte = 0x2B then some 62
  else if byte = 0x2F then some 63
  else none

def encodeBytes : Bytes → Bytes
  | first :: second :: third :: rest =>
    symbol (first.toNat / 4) :: symbol (first.toNat % 4 * 16 + second.toNat / 16)
      :: symbol (second.toNat % 16 * 4 + third.toNat / 64) :: symbol (third.toNat % 64)
      :: encodeBytes rest
  | [first, second] =>
    [symbol (first.toNat / 4), symbol (first.toNat % 4 * 16 + second.toNat / 16),
      symbol (second.toNat % 16 * 4), pad]
  | [first] => [symbol (first.toNat / 4), symbol (first.toNat % 4 * 16), pad, pad]
  | [] => []

def encode (bytes : Bytes) : String :=
  String.ofList ((encodeBytes bytes).map fun byte => Char.ofNat byte.toNat)

def symbolAt (offset : Nat) (byte : UInt8) : Except Fault Nat :=
  match value? byte with
  | some value => .ok value
  | none => .error (.symbol byte offset)

def lastSymbols (start : Nat) : (index : Nat) → Bytes → Except Fault (List Nat)
  | _, [] => .ok []
  | index, byte :: rest =>
    if byte = pad then
      if 2 ≤ index ∧ rest.all (· == pad) then .ok [] else .error (.symbol pad (start + index))
    else do
      let value ← symbolAt (start + index) byte
      let values ← lastSymbols start (index + 1) rest
      .ok (value :: values)

def decodeLast (start : Nat) (group : Bytes) : Except Fault Bytes := do
  let values ← lastSymbols start 0 group
  let unused (count : Nat) (bits : Nat) (bytes : Bytes) : Except Fault Bytes :=
    if group.length ≠ 4 then .error .padding
    else if bits = 0 then .ok bytes
    else .error (.lastSymbol (group.getD (count - 1) 0) (start + count - 1))
  match values with
  | [first, second, third, fourth] =>
    .ok [UInt8.ofNat (first * 4 + second / 16), UInt8.ofNat (second % 16 * 16 + third / 4),
      UInt8.ofNat (third % 4 * 64 + fourth)]
  | [first, second, third] =>
    unused 3 (third % 4)
      [UInt8.ofNat (first * 4 + second / 16), UInt8.ofNat (second % 16 * 16 + third / 4)]
  | [first, second] => unused 2 (second % 16) [UInt8.ofNat (first * 4 + second / 16)]
  | values => .error (.cutShort (start + values.length))

def decodeFrom (start : Nat) : Bytes → Except Fault Bytes
  | first :: second :: third :: fourth :: next :: rest => do
    let a ← symbolAt start first
    let b ← symbolAt (start + 1) second
    let c ← symbolAt (start + 2) third
    let d ← symbolAt (start + 3) fourth
    let following ← decodeFrom (start + 4) (next :: rest)
    .ok (UInt8.ofNat (a * 4 + b / 16) :: UInt8.ofNat (b % 16 * 16 + c / 4)
      :: UInt8.ofNat (c % 4 * 64 + d) :: following)
  | [] => .ok []
  | group => decodeLast start group

-- A single byte behind the last whole group is looked at first.
def decodeBytes (bytes : Bytes) : Except Fault Bytes :=
  match bytes.getLast? with
  | some last =>
    if bytes.length % 4 = 1 ∧ last ≠ pad ∧ value? last = none then
      .error (.symbol last (bytes.length - 1))
    else decodeFrom 0 bytes
  | none => .ok []

def decode (text : String) : Except Fault Bytes := decodeBytes (.ofText text)

end BrokerVault.Base64
