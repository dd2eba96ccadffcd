import BrokerVault.Cipher.Gcm

/-! The operations that sealing is built from, as a value: what is said about sealed data holds for
every suite that keeps the laws it is said under. A sealed value begins with its nonce. -/
namespace BrokerVault

abbrev BytesOf (length : Nat) := { bytes : Bytes // bytes.length = length }

def nonceLength : Nat := 12
def saltLength : Nat := 32

structure CipherSuite where
  deriveKey : (secret : String) → (salt : Bytes) → Key
  encrypt : Key → (nonce plaintext : Bytes) → Except CipherError Bytes
  decrypt : Key → (nonce body : Bytes) → Option Bytes

namespace CipherSuite

/-- AES-256-GCM, with keys derived by PBKDF2. -/
def standard : CipherSuite := ⟨Key.derive, Gcm.encrypt, Gcm.decrypt⟩

inductive KeyFault where
  | weakSecret
  | saltLength
  deriving DecidableEq, Repr

def KeyFault.message : KeyFault → String
  | .weakSecret => "invalid secret complexity for key generation"
  | .saltLength => "invalid salt complexity for key generation"

def leastSecretBytes : Nat := 20

def derive? (suite : CipherSuite) (secret : String) (salt : Bytes) : Except KeyFault Key :=
  if secret.utf8ByteSize < leastSecretBytes then .error .weakSecret
  else if salt.length ≠ BrokerVault.saltLength then .error .saltLength
  else .ok (suite.deriveKey secret salt)

def sealWith (suite : CipherSuite) (key : Key) (nonce : Option (BytesOf nonceLength))
    (plaintext : Bytes) : Except CipherError Bytes :=
  match nonce with
  | none => .error .noRandomness
  | some nonce => (suite.encrypt key nonce.1 plaintext).map (nonce.1 ++ ·)

def openWith (suite : CipherSuite) (key : Key) (value : Bytes) : Except CipherError Bytes :=
  if value.length < nonceLength then .error .malformed
  else
    match suite.decrypt key (value.take nonceLength) (value.drop nonceLength) with
    | some plaintext => .ok plaintext
    | none => .error .rejected

end CipherSuite
end BrokerVault
