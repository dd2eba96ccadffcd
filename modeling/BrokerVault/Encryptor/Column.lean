import BrokerVault.Encryptor.Basic

/-! Values of protected columns. A blob column holds sealed bytes as they are, a text column holds
text. -/
namespace BrokerVault

inductive ColumnFormat where
  | blob
  | text
  deriving DecidableEq, Repr

inductive ColumnValue where
  | blob (bytes : Bytes)
  | text (text : String)
  deriving DecidableEq, Repr

namespace Encryptor

variable (suite : CipherSuite)

def sealColumn (encryptor : Encryptor) (format : ColumnFormat)
    (nonce : Option (BytesOf nonceLength)) (plaintext : Bytes) : Except CipherError ColumnValue :=
  match format with
  | .blob => (encryptor.encrypt suite nonce plaintext).map .blob
  | .text => (encryptor.encryptText suite nonce plaintext).map .text

def openColumn (encryptor : Encryptor) : ColumnValue → Except CipherError Bytes
  | .blob bytes => encryptor.decrypt suite bytes
  | .text text => encryptor.decryptText suite text

end Encryptor
end BrokerVault
