import BrokerVault.Json.Cursor

/-! Reading numbers. The digits of integer part and decimals make one significand of 64 bits. A
digit that would overflow it is dropped, and with it the digits after it in the same part: a
dropped digit of the integer part still counts as a power of ten. A number with decimals, an
exponent, a dropped digit or the value -0 is a double: the significand times or divided by one
power of ten. -/
namespace BrokerVault.Json

def accumulate (significand : Nat) : List Nat → Nat × Nat
  | [] => (significand, 0)
  | digit :: rest =>
    if 10 * significand + digit < Nat.pow 2 64 then accumulate (10 * significand + digit) rest
    else (significand, rest.length + 1)

def greatestPower : Nat := 308

/-- Powers of ten below the least exponent of a double are divided out in steps; at most three are
needed before nothing is left of a 64-bit significand. -/
def divideByPower : Nat → Double → Nat → Double
  | 0, value, _ => value
  | steps + 1, value, power =>
    if power ≤ greatestPower then value.div (.ofPowerOfTen power)
    else if value.isZero then value
    else divideByPower steps (value.div (.ofPowerOfTen greatestPower)) (power - greatestPower)

def double? (positive : Bool) (significand : Nat) (power : Int) : Option Double :=
  let start := Double.ofUInt64 (UInt64.ofNat significand)
  let signed (value : Double) := if positive then value else value.neg
  if 0 ≤ power then
    if power.toNat ≤ greatestPower then
      let value := start.mul (.ofPowerOfTen power.toNat)
      if value.isFinite then some (signed value) else none
    else if start.isZero then some (signed start)
    else none
  else some (signed (divideByPower 4 start (-power).toNat))

-- Exponents are kept in 32 bits: the index of the first digit that would overflow them.
def exponentOverflow? (exponent index : Nat) : List Nat → Option Nat
  | [] => none
  | digit :: rest =>
    if 10 * exponent + digit < Nat.pow 2 31 then
      exponentOverflow? (10 * exponent + digit) (index + 1) rest
    else some index

def numberOf (c : Cursor) (positive : Bool) (significand : Nat) (power : Int) :
    Except Error (JsonNumber × Cursor) :=
  match double? positive significand power with
  | some value => .ok (.double value, c)
  | none => c.faultAt .numberOutOfRange

def readExponent (c : Cursor) (positive : Bool) (significand : Nat) (power : Int) :
    Except Error (JsonNumber × Cursor) :=
  let c := c.advance
  let (upward, c) :=
    if c.next? = some 0x2B then (true, c.advance)
    else if c.next? = some 0x2D then (false, c.advance)
    else (true, c)
  match c.next? with
  | none => c.faultAt .endInValue
  | some byte =>
    if Cursor.isDigit byte then
      let (digits, after) := c.digits
      match exponentOverflow? 0 0 digits with
      | some index =>
        if significand ≠ 0 ∧ upward then (Cursor.advanceBy (index + 1) c).faultAt .numberOutOfRange
        else numberOf after positive 0 0
      | none =>
        let exponent : Nat := digits.foldl (fun value digit => 10 * value + digit) 0
        numberOf after positive significand (if upward then power + exponent else power - exponent)
    else c.advance.faultAt .number

def isExponentLetter (byte : UInt8) : Bool := byte == 0x65 || byte == 0x45

def readDecimals (c : Cursor) (positive : Bool) (significand dropped : Nat) :
    Except Error (JsonNumber × Cursor) :=
  let (decimals, after) := c.advance.digits
  match decimals with
  | [] => if after.next?.isSome then after.faultPeeking .number else after.faultAt .endInValue
  | decimals =>
    let (significand, lost) := accumulate significand decimals
    let power : Int := dropped - (decimals.length - lost : Nat)
    match after.next? with
    | some byte =>
      if isExponentLetter byte then readExponent after positive significand power
      else numberOf after positive significand power
    | none => numberOf after positive significand power

def readAfterDigits (c : Cursor) (positive : Bool) (digits : List Nat) :
    Except Error (JsonNumber × Cursor) :=
  let (significand, dropped) := accumulate 0 digits
  let plain : Except Error (JsonNumber × Cursor) :=
    if dropped ≠ 0 then numberOf c positive significand dropped
    else if positive then .ok (.integer significand, c)
    else if significand = 0 ∨ Nat.pow 2 63 < significand then numberOf c false significand 0
    else .ok (.integer (-significand), c)
  match c.next? with
  | some byte =>
    if byte = 0x2E then readDecimals c positive significand dropped
    else if isExponentLetter byte then readExponent c positive significand dropped
    else plain
  | none => plain

def readNumber (c : Cursor) : Except Error (JsonNumber × Cursor) :=
  let (positive, c) := if c.next? = some 0x2D then (false, c.advance) else (true, c)
  match c.next? with
  | none => c.faultAt .endInValue
  | some byte =>
    if byte = 0x30 then
      let c := c.advance
      if (c.next?.map Cursor.isDigit).getD false then c.faultPeeking .number
      else readAfterDigits c positive [0]
    else if Cursor.isDigit byte then
      let (digits, after) := c.digits
      readAfterDigits after positive digits
    else c.advance.faultAt .number

end BrokerVault.Json
