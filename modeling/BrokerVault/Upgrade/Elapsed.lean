/-! Lengths of time as reports show them: in the largest unit that fits, with two decimals. A value
half way between two of them goes to the one whose last digit is even. -/
namespace BrokerVault

def roundedQuotient (number divisor : Nat) : Nat :=
  let quotient := number / divisor
  let twice := 2 * (number % divisor)
  if divisor < twice ∨ (divisor = twice ∧ quotient % 2 = 1) then quotient + 1 else quotient

structure Elapsed where
  nanoseconds : Nat
  deriving DecidableEq, Repr

namespace Elapsed

def second : Nat := 1000000000

def ofParts (seconds nanoseconds : Nat) : Elapsed := ⟨seconds * second + nanoseconds⟩

def unit (elapsed : Elapsed) : Nat × String :=
  if second ≤ elapsed.nanoseconds then (second, "s")
  else if 1000000 ≤ elapsed.nanoseconds then (1000000, "ms")
  else if 1000 ≤ elapsed.nanoseconds then (1000, "µs")
  else (1, "ns")

def text (elapsed : Elapsed) : String :=
  let (unit, name) := elapsed.unit
  let hundredths := roundedQuotient (100 * elapsed.nanoseconds) unit
  let decimals := hundredths % 100
  toString (hundredths / 100) ++ "." ++ toString (decimals / 10) ++ toString (decimals % 10) ++ name

end Elapsed
end BrokerVault
