/-! Binary64 numbers, held by their bits so that equality is equality of bits. A finite one has the
absolute value `significand * 2 ^ exponent`. -/
namespace BrokerVault

structure Double where
  bits : UInt64
  deriving DecidableEq, Repr

namespace Double

def ofFloat (value : Float) : Double := ⟨value.toBits⟩
def toFloat (value : Double) : Float := Float.ofBits value.bits

def ofUInt64 (value : UInt64) : Double := ofFloat value.toFloat
def ofPowerOfTen (power : Nat) : Double := ofFloat (Float.ofScientific 1 false power)

def neg (value : Double) : Double := ⟨value.bits ^^^ 0x8000000000000000⟩
def mul (left right : Double) : Double := ofFloat (left.toFloat * right.toFloat)
def div (left right : Double) : Double := ofFloat (left.toFloat / right.toFloat)

def isNegative (value : Double) : Bool := value.bits >>> 63 == 1
def exponentField (value : Double) : Nat := ((value.bits >>> 52) &&& 0x7FF).toNat
def fraction (value : Double) : Nat := (value.bits &&& 0xFFFFFFFFFFFFF).toNat

def isZero (value : Double) : Bool := value.exponentField == 0 && value.fraction == 0
def isFinite (value : Double) : Bool := value.exponentField != 0x7FF

def significand (value : Double) : Nat :=
  if value.exponentField = 0 then value.fraction else value.fraction + Nat.pow 2 52

def exponent (value : Double) : Int := (max value.exponentField 1 : Nat) - 1075

end Double
end BrokerVault
