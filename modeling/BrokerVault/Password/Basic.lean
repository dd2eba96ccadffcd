import BrokerVault.Text.Quoted

/-! Configured passwords: a label to tell them apart, the secret, and whether new values are to be
sealed under it. A password is shown without its secret. -/
namespace BrokerVault

structure Password where
  label : String
  secret : String
  primary : Bool
  deriving DecidableEq, Repr

namespace Password

def shown (password : Password) : String :=
  "PasswordEntry \x7b label: " ++ Text.quoted password.label ++ ", secret: \"[REDACTED]\", primary: "
    ++ toString password.primary ++ " \x7d"

-- No label means that there is no password at all.
def nameOfLabel (label : String) : String := if label.isEmpty then "none" else label

end Password
end BrokerVault
