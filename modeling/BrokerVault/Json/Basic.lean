import BrokerVault.Double.Basic
import BrokerVault.NameMap

/-! JSON values. An integer lies between -2^63 and 2^64 - 1; every other number is a double. The
members of an object are in ascending order of their names, one for each name. -/
namespace BrokerVault

inductive JsonNumber where
  | integer (value : Int)
  | double (value : Double)
  deriving DecidableEq, Repr

inductive Json where
  | null
  | bool (value : Bool)
  | number (value : JsonNumber)
  | string (value : String)
  | array (items : List Json)
  | object (members : List (String × Json))
  deriving Repr, Inhabited

namespace Json

def ofMembers (members : List (String × Json)) : Json := .object (NameMap.ofList members)

def field? (value : Json) (name : String) : Option Json :=
  match value with
  | .object members => members.lookup name
  | _ => none

end Json
end BrokerVault
