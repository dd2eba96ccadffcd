import BrokerVault.Text.Blank
import BrokerVault.Upgrade.Error
import BrokerVault.Upgrade.Version
import BrokerVault.Url.Reader

/-! What is checked before a bulk upgrade begins. -/
namespace BrokerVault.Upgrade

def refuse (detail : String) : Except UpgradeError Unit := .error (.invalidInput detail)

def isNameChar (c : Char) : Bool :=
  ('0' ≤ c && c ≤ '9') || ('A' ≤ c && c ≤ 'Z') || ('a' ≤ c && c ≤ 'z') || c == '_' || c == '-'

def checkBroker (name : String) : Except UpgradeError Unit :=
  if !name.isEmpty ∧ name.toList.all isNameChar then .ok ()
  else refuse "invalid broker name format"

def checkBatchSize (size : Nat) : Except UpgradeError Unit :=
  if size = 0 then refuse "batch size must be at least 1" else .ok ()

def checkToken (token : String) : Except UpgradeError Unit :=
  if (Text.trim token).isEmpty then
    refuse "you must authenticate before running this command; supply an access token"
  else .ok ()

-- Older platforms do not tell whether an upgrade is available.
def checkApiVersion (text : String) : Except UpgradeError Unit :=
  match Version.ofText? (Text.trim text) with
  | .error fault =>
    refuse ("error parsing api version " ++ Text.quoted text ++ ": " ++ fault.message)
  | .ok version =>
    if version.precedesRelease 3 99 0 then refuse "plugin requires CF API version >= 3.99.0"
    else .ok ()

def checkApiUrl (text : String) : Except UpgradeError Unit :=
  let refused (detail : String) : Except UpgradeError Unit :=
    refuse ("invalid API URL " ++ Text.quoted text ++ ": " ++ detail)
  match Url.ofText? text with
  | .error fault => refused fault.message
  | .ok url =>
    if url.scheme = "http" ∨ url.scheme = "https" then .ok ()
    else refused ("unsupported scheme " ++ Text.quoted url.scheme)

end BrokerVault.Upgrade
