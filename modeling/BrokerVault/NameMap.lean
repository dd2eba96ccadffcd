/-! Values by name, in ascending order of the names and one for each. -/
namespace BrokerVault

abbrev NameMap (α : Type) := List (String × α)

namespace NameMap

variable {α : Type}

def insert (name : String) (value : α) : NameMap α → NameMap α
  | [] => [(name, value)]
  | (other, old) :: rest =>
    if name < other then (name, value) :: (other, old) :: rest
    else if name = other then (name, value) :: rest
    else (other, old) :: insert name value rest

def ofList (entries : List (String × α)) : NameMap α :=
  entries.foldl (fun map (name, value) => map.insert name value) []

def get? (map : NameMap α) (name : String) : Option α := map.lookup name

end NameMap
end BrokerVault
