import BrokerVault.Bytes
import BrokerVault.Text.Split

/-! Hosts that are addresses. An address of version 4 is a number of 32 bits, and one of version 6
is eight pieces of 16 bits, of which the longest run of zeros is left out in writing. -/
namespace BrokerVault.Url

def digitsValue? (base : Nat) (digits : List Char) : Option Nat :=
  digits.foldl
    (fun value digit => do
      let value ← value
      let next ← Bytes.hexValue? digit
      if next < base then some (base * value + next) else none)
    (some 0)

namespace Address4

-- A number as parts of an address are written: in base 16 behind `0x`, in base 8 behind another
-- zero.
def number? (part : List Char) : Option Nat :=
  match part with
  | [] => none
  | '0' :: 'x' :: digits | '0' :: 'X' :: digits => digitsValue? 16 digits
  | '0' :: digit :: digits => digitsValue? 8 (digit :: digits)
  | digits => digitsValue? 10 digits

def isDigit (c : Char) : Bool := '0' ≤ c && c ≤ '9'

def parts (name : List Char) : List (List Char) :=
  let all := Text.splitOn (· == '.') name
  if 1 < all.length ∧ all.getLast? = some [] then all.dropLast else all

def endsInNumber (name : List Char) : Bool :=
  match (parts name).getLast? with
  | some last => (!last.isEmpty && last.all isDigit) || (number? last).isSome
  | none => false

-- The last number fills all the bytes that the others leave.
def ofName? (name : List Char) : Option Nat := do
  let numbers ← (parts name).mapM number?
  let last ← numbers.getLast?
  let front := numbers.dropLast
  if front.length ≤ 3 ∧ front.all (· < 256) ∧ last < Nat.pow 256 (4 - front.length) then
    let leading := front.foldl (fun value number => 256 * value + number) 0
    some (leading * Nat.pow 256 (4 - front.length) + last)
  else none

def text (address : Nat) : String :=
  String.intercalate "." (([3, 2, 1, 0] : List Nat).map fun place =>
    toString (address / Nat.pow 256 place % 256))

end Address4

namespace Address6

def piece? (group : List Char) : Option Nat :=
  if group.isEmpty ∨ 4 < group.length then none else digitsValue? 16 group

def quarter? (part : List Char) : Option Nat :=
  match part with
  | [] => none
  | '0' :: _ :: _ => none
  | _ => (digitsValue? 10 part).filter (· < 256)

def dotted? (group : List Char) : Option (List Nat) :=
  match (Text.splitOn (· == '.') group).map quarter? with
  | [some a, some b, some c, some d] => some [256 * a + b, 256 * c + d]
  | _ => none

def lastPieces? (group : List Char) : Option (List Nat) :=
  if group.contains '.' then dotted? group else (piece? group).map ([·])

def pieces? : (isLast : Bool) → List (List Char) → Option (List Nat)
  | _, [] => some []
  | true, [group] => lastPieces? group
  | isLast, group :: rest => do
    let first ← piece? group
    let others ← pieces? isLast rest
    some (first :: others)

def splitAtGap : List Char → Option (List Char × List Char)
  | ':' :: ':' :: rest => some ([], rest)
  | c :: rest => (splitAtGap rest).map fun (before, behind) => (c :: before, behind)
  | [] => none

def groups (text : List Char) : List (List Char) :=
  if text.isEmpty then [] else Text.splitOn (· == ':') text

-- A gap stands for at least one zero.
def ofText? (text : List Char) : Option (List Nat) :=
  match splitAtGap text with
  | some (before, behind) => do
    let front ← pieces? false (groups before)
    let back ← pieces? true (groups behind)
    let written := front.length + back.length
    if written ≤ 7 then some (front ++ List.replicate (8 - written) 0 ++ back) else none
  | none => (pieces? true (groups text)).filter fun pieces => pieces.length == 8

def zerosAhead : List Nat → Nat
  | 0 :: rest => zerosAhead rest + 1
  | _ => 0

def longestZeros (pieces : List Nat) : Nat × Nat :=
  (List.range pieces.length).foldl
    (fun (best : Nat × Nat) start =>
      let length := zerosAhead (pieces.drop start)
      if best.2 < length then (start, length) else best)
    (0, 0)

def piecesText (pieces : List Nat) : String :=
  String.intercalate ":" (pieces.map fun piece => String.ofList (Nat.toDigits 16 piece))

-- A single zero is written.
def text (pieces : List Nat) : String :=
  let (start, length) := longestZeros pieces
  if length < 2 then piecesText pieces
  else piecesText (pieces.take start) ++ "::" ++ piecesText (pieces.drop (start + length))

end Address6
end BrokerVault.Url
