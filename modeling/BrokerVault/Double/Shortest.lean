import BrokerVault.Double.Basic

/-! The shortest decimal that reads back as a given positive double. The reals that round to
`m * 2 ^ q` form an interval around it, ends included when `m` is even; for 1, 2, … 17 digits the
two neighbours of the double on that decimal grid are tried in exact arithmetic. The first grid
with a hit wins; of two hits the nearer one, and of two equally near the even one. -/
namespace BrokerVault.Double

structure Decimal where
  digits : Nat
  power : Int
  deriving DecidableEq, Repr

def scaled (units : Nat) (binary decimal : Int) : Nat × Nat :=
  (units * Nat.pow 2 binary.toNat * Nat.pow 10 (-decimal).toNat,
    Nat.pow 10 decimal.toNat * Nat.pow 2 (-binary).toNat)

def decimalExponent (value : Double) : Int :=
  let (top, bottom) := scaled value.significand value.exponent (-400)
  (Nat.toDigits 10 (top / bottom)).length - 401

/-- The bounds of the interval in units of `2 ^ (exponent - 2)`. Below a power of two the
neighbouring doubles lie twice as close. -/
def lowerUnits (value : Double) : Nat :=
  if value.fraction = 0 ∧ 1 < value.exponentField then 4 * value.significand - 1
  else 4 * value.significand - 2

def upperUnits (value : Double) : Nat := 4 * value.significand + 2

def readsBack (value : Double) (digits : Nat) (power : Int) : Bool :=
  let binary := value.exponent - 2
  let (low, bottom) := scaled value.lowerUnits binary power
  let (high, _) := scaled value.upperUnits binary power
  if value.significand % 2 = 0 then low ≤ digits * bottom && digits * bottom ≤ high
  else low < digits * bottom && digits * bottom < high

def onGrid? (value : Double) (power : Int) : Option Decimal :=
  let (top, bottom) := scaled value.significand value.exponent power
  let below := top / bottom
  let above := below + 1
  match value.readsBack below power, value.readsBack above power with
  | true, true =>
    let twice := 2 * (top % bottom)
    if twice < bottom ∨ (twice = bottom ∧ below % 2 = 0) then some ⟨below, power⟩
    else some ⟨above, power⟩
  | true, false => some ⟨below, power⟩
  | false, true => some ⟨above, power⟩
  | false, false => none

def Decimal.reduce : Nat → Decimal → Decimal
  | 0, number => number
  | steps + 1, number =>
    if number.digits % 10 = 0 ∧ number.digits ≠ 0 then
      reduce steps ⟨number.digits / 10, number.power + 1⟩
    else number

def shortest (value : Double) : Decimal :=
  let top := value.decimalExponent
  let found := (List.range 17).findSome? fun (digits : Nat) => value.onGrid? (top - digits)
  Decimal.reduce 17 (found.getD ⟨0, 0⟩)

end BrokerVault.Double
