/-! Why an upgrade, or the whole of them, failed. -/
namespace BrokerVault

inductive UpgradeError where
  | request (detail : String)
  | failed (description : String)
  | timeout
  | discovery (detail : String)
  | invalidInput (detail : String)
  deriving DecidableEq, Repr

def UpgradeError.message : UpgradeError → String
  | .request detail => "upgrade request error: " ++ detail
  | .failed description => description
  | .timeout => "upgrade request timeout"
  | .discovery detail => detail
  | .invalidInput detail => detail

end BrokerVault
