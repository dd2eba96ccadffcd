import BrokerVault.Cipher.Sha256

/-! Keys, and how one is derived from a secret and a salt: PBKDF2 with HMAC-SHA-256. One block of
its output is the key. -/
namespace BrokerVault

structure Key where
  bytes : Bytes
  length_eq : bytes.length = 32
  deriving DecidableEq, Repr

namespace Key

def rounds : Nat := 100000

@[inline] def exclusiveOr (s t : Sha256.State) : Sha256.State :=
  ⟨s.a ^^^ t.a, s.b ^^^ t.b, s.c ^^^ t.c, s.d ^^^ t.d, s.e ^^^ t.e, s.f ^^^ t.f, s.g ^^^ t.g,
    s.h ^^^ t.h⟩

def iterate (mac : Sha256.MacKey) : Nat → (last sum : Sha256.State) → Sha256.State
  | 0, _, sum => sum
  | count + 1, last, sum =>
    let next := Sha256.macOfState mac last
    iterate mac count next (exclusiveOr sum next)

def derive (secret : String) (salt : Bytes) : Key :=
  let mac := Sha256.MacKey.ofBytes (.ofText secret)
  let first := Sha256.mac mac (salt ++ Bytes.ofNat 4 1)
  ⟨(iterate mac (rounds - 1) first first).toBytes, Sha256.stateBytesLength _⟩

def ofBytes? (bytes : Bytes) : Option Key :=
  if h : bytes.length = 32 then some ⟨bytes, h⟩ else none

end Key
end BrokerVault
