import BrokerVault.Url.Address
import BrokerVault.Url.Domain
import BrokerVault.Url.Percent

/-! Hosts of a URL. Where the scheme has rules for hosts, a name is a domain, or an address if it
ends in a number; under any other scheme a name is kept as it is. -/
namespace BrokerVault.Url

inductive Host where
  | domain (name : String)
  | address4 (value : Nat)
  | address6 (pieces : List Nat)
  deriving DecidableEq, Repr

inductive Fault where
  | relative
  | emptyHost
  | invalidPort
  | invalidAddress4
  | invalidAddress6
  | invalidDomain
  | invalidCharacter
  deriving DecidableEq, Repr

def Fault.message : Fault → String
  | .relative => "relative URL without a base"
  | .emptyHost => "empty host"
  | .invalidPort => "invalid port number"
  | .invalidAddress4 => "invalid IPv4 address"
  | .invalidAddress6 => "invalid IPv6 address"
  | .invalidDomain => "invalid international domain name"
  | .invalidCharacter => "invalid domain character"

namespace Host

def text : Host → String
  | .domain name => name
  | .address4 value => Address4.text value
  | .address6 pieces => "[" ++ Address6.text pieces ++ "]"

def isEmpty (host : Host) : Bool := host == .domain ""

def bracketed? : List Char → Except Fault Host
  | inside =>
    if inside.getLast? = some ']' then
      match Address6.ofText? inside.dropLast with
      | some pieces => .ok (.address6 pieces)
      | none => .error .invalidAddress6
    else .error .invalidAddress6

def domain? (text : List Char) : Except Fault Host :=
  match text with
  | '[' :: inside => bracketed? inside
  | _ =>
    match Domain.ofBytes? (percentDecode (Bytes.ofText (String.ofList text))) with
    | none => .error .invalidDomain
    | some name =>
      if name.isEmpty then .error .emptyHost
      else if Address4.endsInNumber name then
        match Address4.ofName? name with
        | some value => .ok (.address4 value)
        | none => .error .invalidAddress4
      else .ok (.domain (String.ofList name))

def isInvalid (c : Char) : Bool := "\x00\t\n\r #/:<>?@[\\]^|".contains c

def kept? (text : List Char) : Except Fault Host :=
  match text with
  | '[' :: inside => bracketed? inside
  | _ =>
    if text.any isInvalid then .error .invalidCharacter
    else .ok (.domain (String.ofList (percentEncode controlSet text)))

end Host
end BrokerVault.Url
