import BrokerVault.Password.Basic

/-! Validation of a password list. Every fault of every entry is reported, in entry order, and at
the end whether more than one entry is primary. Lengths count characters. -/
namespace BrokerVault

structure FieldFault where
  path : String
  reason : String
  deriving DecidableEq, Repr

def FieldFault.message (fault : FieldFault) : String := fault.reason ++ ": " ++ fault.path

def FieldFault.messages (faults : List FieldFault) : String :=
  String.intercalate "; " (faults.map message)

namespace Password

structure LengthRange where
  least : Nat
  greatest : Nat
  deriving DecidableEq, Repr

def LengthRange.Holds (range : LengthRange) (text : String) : Prop :=
  range.least ≤ text.length ∧ text.length ≤ range.greatest
instance (range : LengthRange) (text : String) : Decidable (range.Holds text) := by
  unfold LengthRange.Holds; infer_instance

def labelLength : LengthRange := ⟨5, 20⟩
def secretLength : LengthRange := ⟨20, 1024⟩

def lengthReason (range : LengthRange) (text : String) : String :=
  s!"expected length {range.least}-{range.greatest}, got {text.length}"

def lengthFaults (path : String) (range : LengthRange) (text : String) : List FieldFault :=
  if range.Holds text then [] else [⟨path, lengthReason range text⟩]

def secretPath (index : Nat) : String := s!"[{index}].password.secret"
def labelPath (index : Nat) : String := s!"[{index}].label"

def duplicateReason (label : String) : String := "duplicated value, must be unique: " ++ label

def entryFaults (index : Nat) (earlier : List String) (entry : Password) : List FieldFault :=
  lengthFaults (secretPath index) secretLength entry.secret
    ++ lengthFaults (labelPath index) labelLength entry.label
    ++ if entry.label ∈ earlier then [⟨labelPath index, duplicateReason entry.label⟩] else []

def faultsFrom (index : Nat) (earlier : List String) : List Password → List FieldFault
  | [] => []
  | entry :: rest =>
    entryFaults index earlier entry ++ faultsFrom (index + 1) (entry.label :: earlier) rest

def severalPrimaries : FieldFault :=
  ⟨"[].primary", "expected exactly one primary, got multiple; "
    ++ "mark one password as primary and others as non-primary but do not remove them"⟩

def faults (entries : List Password) : List FieldFault :=
  faultsFrom 0 [] entries
    ++ if 1 < (entries.filter (·.primary)).length then [severalPrimaries] else []

end Password
end BrokerVault
