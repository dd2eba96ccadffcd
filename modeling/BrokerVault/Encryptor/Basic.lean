import BrokerVault.Cipher.Base64
import BrokerVault.Cipher.Suite
import BrokerVault.Text.Utf8

/-! Encryptors. One seals under a key, one leaves values as they are, and a compound seals with one
encryptor and opens with the first of several that succeeds. A text column holds sealed bytes in
base64; a value that is left as it is must be text itself to go there. -/
namespace BrokerVault

inductive Encryptor where
  | aead (label : String) (key : Key)
  | noop
  | compound (encryptor : Encryptor) (decryptors : List Encryptor)
  deriving Repr, Inhabited

namespace Encryptor

structure LeafAction (α : Type) where
  withKey : Key → Except CipherError α
  plain : Except CipherError α

def sealing {α : Type} (action : LeafAction α) : Encryptor → Except CipherError α
  | .aead _ key => action.withKey key
  | .noop => action.plain
  | .compound encryptor _ => encryptor.sealing action

mutual

/-- The first success from left to right, or else the last error. -/
def opening {α : Type} (action : LeafAction α) : Encryptor → Except CipherError α
  | .aead _ key => action.withKey key
  | .noop => action.plain
  | .compound _ decryptors => openingFirst action .rejected decryptors

def openingFirst {α : Type} (action : LeafAction α) (last : CipherError) :
    List Encryptor → Except CipherError α
  | [] => .error last
  | decryptor :: rest =>
    match decryptor.opening action with
    | .ok plaintext => .ok plaintext
    | .error error => openingFirst action error rest

end

variable (suite : CipherSuite)

def encrypt (encryptor : Encryptor) (nonce : Option (BytesOf nonceLength)) (plaintext : Bytes) :
    Except CipherError Bytes :=
  encryptor.sealing ⟨fun key => suite.sealWith key nonce plaintext, .ok plaintext⟩

def decrypt (encryptor : Encryptor) (value : Bytes) : Except CipherError Bytes :=
  encryptor.opening ⟨fun key => suite.openWith key value, .ok value⟩

def plainText (plaintext : Bytes) : Except CipherError String :=
  match plaintext.toText? with
  | some text => .ok text
  | none =>
    .error (.encoding (((Text.Utf8.fault? plaintext).map Text.Utf8.Fault.message).getD ""))

def encryptText (encryptor : Encryptor) (nonce : Option (BytesOf nonceLength))
    (plaintext : Bytes) : Except CipherError String :=
  encryptor.sealing
    ⟨fun key => (suite.sealWith key nonce plaintext).map Base64.encode, plainText plaintext⟩

def openTextWith (key : Key) (value : String) : Except CipherError Bytes :=
  match Base64.decode value with
  | .ok bytes => suite.openWith key bytes
  | .error fault => .error (.encoding fault.message)

def decryptText (encryptor : Encryptor) (value : String) : Except CipherError Bytes :=
  encryptor.opening ⟨fun key => openTextWith suite key value, .ok (.ofText value)⟩

def label? : Encryptor → Option String
  | .aead label _ => some label
  | _ => none

def isNoop : Encryptor → Bool
  | .noop => true
  | _ => false

mutual

def describe : Encryptor → String
  | .aead label _ => "aead:" ++ label
  | .noop => "noop"
  | .compound encryptor decryptors =>
    "compound(" ++ encryptor.describe ++ "; "
      ++ String.intercalate ", " (descriptions decryptors) ++ ")"

def descriptions : List Encryptor → List String
  | [] => []
  | encryptor :: rest => encryptor.describe :: descriptions rest

end

def shown (encryptor : Encryptor) : String := "Encryptor(" ++ encryptor.describe ++ ")"

end Encryptor
end BrokerVault
