import BrokerVault.Url.Host

/-! URLs by their parts, each in its written form. -/
namespace BrokerVault

namespace Url

inductive Path where
  | plain (text : String)
  | segments (names : List String)
  deriving DecidableEq, Repr

end Url

structure Url where
  scheme : String
  username : String
  password : String
  host : Option Url.Host
  port : Option Nat
  path : Url.Path
  query : Option String
  fragment : Option String
  deriving DecidableEq, Repr

namespace Url

def hasHost (url : Url) : Bool :=
  match url.host with
  | some host => !host.isEmpty
  | none => false

def withoutCredentials (url : Url) : Url := { url with username := "", password := "" }

def credentialsText (url : Url) : String :=
  if url.username.isEmpty ∧ url.password.isEmpty then ""
  else url.username ++ (if url.password.isEmpty then "" else ":" ++ url.password) ++ "@"

def authorityText (url : Url) : String :=
  match url.host with
  | some host =>
    "//" ++ url.credentialsText ++ host.text
      ++ (match url.port with
        | some port => ":" ++ toString port
        | none => "")
  | none => ""

/-- Without a host a path with an empty name in front would read as a host. -/
def pathText (url : Url) : String :=
  match url.path with
  | .plain text => text
  | .segments names =>
    let guard := if url.host.isNone ∧ 1 < names.length ∧ names.head? = some "" then "/." else ""
    guard ++ String.join (names.map ("/" ++ ·))

def text (url : Url) : String :=
  url.scheme ++ ":" ++ url.authorityText ++ url.pathText
    ++ (match url.query with
      | some query => "?" ++ query
      | none => "")
    ++ (match url.fragment with
      | some fragment => "#" ++ fragment
      | none => "")

end Url
end BrokerVault
