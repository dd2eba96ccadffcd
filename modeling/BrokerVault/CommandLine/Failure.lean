import BrokerVault.Setup

/-! Why a command failed: the error, and the errors that caused it one after the other. -/
namespace BrokerVault

abbrev Causes := List String

def PasswordError.causes (error : PasswordError) : Causes :=
  match error with
  | .syntaxError cause => [error.message, cause.message]
  | .wrongKind _ | .invalid _ => [error.message]

def ConfigError.causes (error : ConfigError) : Causes :=
  match error with
  | .unreadable _ cause => [error.message, cause.message]
  | .syntaxError _ cause => [error.message, cause.message]
  | .password error => error.causes

def StoreError.causes (error : StoreError) : Causes :=
  match error with
  | .database fault => [error.message, fault.message]
  | .unknownLabel _ => [error.message]

def ReconcileError.causes (error : ReconcileError) : Causes :=
  match error with
  | .password error => error.causes
  | .store error => error.causes
  | .canary _ cause | .sealing _ cause => [error.message, cause.message]
  | _ => [error.message]

def ReencryptError.causes (error : ReencryptError) : Causes :=
  match error with
  | .decrypt _ _ cause | .encrypt _ _ cause => [error.message, cause.message]
  | .database _ fault => [error.message, fault.message]
  | .interrupted _ | .unreadable _ => [error.message]

def SetupError.causes (error : SetupError) : Causes :=
  error.context ::
    match error with
    | .reconciling cause => cause.causes
    | .checking cause | .rotating cause => cause.causes
    | .refused records => (ReencryptError.unreadable records).causes
    | .promoting cause | .deleting cause => cause.causes

def Check.Error.causes (error : Check.Error) : Causes :=
  error.context ::
    match error with
    | .reconciling cause => cause.causes
    | .checking cause => cause.causes

namespace Causes

def indented (first others message : String) : String :=
  first ++ message.replace "\n" ("\n" ++ others)

def numbered (number : Nat) : Causes → List String
  | [] => []
  | cause :: rest =>
    indented ("    " ++ toString number ++ ": ") "       " cause :: numbered (number + 1) rest

def report : Causes → List String
  | [] => []
  | [error] => ["Error: " ++ error]
  | [error, cause] => ["Error: " ++ error, "", "Caused by:", indented "    " "    " cause]
  | error :: causes => ["Error: " ++ error, "", "Caused by:"] ++ numbered 0 causes

end Causes
end BrokerVault
