import BrokerVault.Cipher.Sha256
import BrokerVault.Cipher.Suite

/-! Byte strings drawn from a seed. The block with a number is the hash of the seed, the moment
and the number, so that strings of two moments share nothing. -/
namespace BrokerVault.Seed

def block (seed : Bytes) (moment number : Nat) : Bytes :=
  Sha256.digest (seed ++ Bytes.ofNat 8 moment ++ Bytes.ofNat 8 number)

theorem blockLength (seed : Bytes) (moment number : Nat) : (block seed moment number).length = 32 :=
  Sha256.stateBytesLength _

def blocks (seed : Bytes) (moment : Nat) : (count : Nat) → Bytes
  | 0 => []
  | count + 1 => block seed moment count ++ blocks seed moment count

theorem blocksLength (seed : Bytes) (moment count : Nat) :
    (blocks seed moment count).length = 32 * count := by
  induction count with
  | zero => rfl
  | succ count ih => rw [blocks, List.length_append, blockLength, ih]; omega

def draw (seed : Bytes) (moment length : Nat) : BytesOf length :=
  ⟨(blocks seed moment (length / 32 + 1)).take length, by
    rw [List.length_take, blocksLength]; omega⟩

end BrokerVault.Seed
