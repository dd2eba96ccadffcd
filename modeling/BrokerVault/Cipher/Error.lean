/-! What can fail in one sealing or opening of a value. -/
namespace BrokerVault

inductive CipherError where
  | malformed
  | rejected
  | encoding (detail : String)
  | notSealed
  | noRandomness
  deriving DecidableEq, Repr

def CipherError.message : CipherError → String
  | .malformed => "malformed ciphertext"
  | .rejected => "message authentication failed"
  | .encoding detail => "invalid ciphertext encoding: " ++ detail
  | .notSealed => "encryption failed"
  | .noRandomness => "OS random generator unavailable"

end BrokerVault
