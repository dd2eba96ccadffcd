import BrokerVault.Json.Shape
import BrokerVault.Password.Validation

/-! Reading a password list, from a JSON text or from a value that was read before. The list is
validated either way; no text and a null stand for no passwords. -/
namespace BrokerVault

inductive NotAList where
  | boolean
  | number
  | object
  deriving DecidableEq, Repr

def NotAList.name : NotAList → String
  | .boolean => "bool"
  | .number => "number"
  | .object => "object"

inductive PasswordError where
  | syntaxError (error : Json.Error)
  | wrongKind (found : NotAList)
  | invalid (faults : List FieldFault)
  deriving DecidableEq, Repr

def PasswordError.message : PasswordError → String
  | .syntaxError error =>
    "password configuration string could not be parsed as JSON: " ++ error.message
  | .wrongKind found =>
    "password configuration type error, expected string or object array, got " ++ found.name
  | .invalid faults => "password configuration error: " ++ FieldFault.messages faults

namespace Password

def secretShape : Json.Shape String :=
  .record "RawPassword" (.field "secret" .string (.default "") .none) fun (secret, _) => secret

def shape : Json.Shape Password :=
  .record "RawEntry"
    (.field "label" .string (.default "") <|
      .field "primary" .bool (.default false) <|
      .field "password" secretShape (.default "") .none)
    fun (label, primary, secret, _) => ⟨label, secret, primary⟩

def listShape : Json.Shape (List Password) := shape.list

def validated (entries : List Password) : Except PasswordError (List Password) :=
  match faults entries with
  | [] => .ok entries
  | found => .error (.invalid found)

def ofText? (text : String) : Except PasswordError (List Password) :=
  if text.isEmpty then .ok []
  else match listShape.ofText? text with
    | .ok entries => validated entries
    | .error error => .error (.syntaxError error)

-- A string holds the text of a list.
def ofJson? (value : Json) : Except PasswordError (List Password) :=
  match value with
  | .null => .ok []
  | .string text => ofText? text
  | .array items =>
    match listShape.decode (.array items) with
    | .ok entries => validated entries
    | .error error => .error (.syntaxError error)
  | .bool _ => .error (.wrongKind .boolean)
  | .number _ => .error (.wrongKind .number)
  | .object _ => .error (.wrongKind .object)

end Password
end BrokerVault
