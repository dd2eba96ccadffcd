import BrokerVault.Json.Basic
import BrokerVault.Double.Shortest
import BrokerVault.Bytes

/-! The compact text of a JSON value: no blanks, and in strings only what must be escaped is. -/
namespace BrokerVault

structure ExponentRange where
  least : Int
  greatest : Int

-- From 0.00001 up to below 10^16 a double is written positionally.
def Json.positional : ExponentRange := ⟨-5, 15⟩

namespace Double

def positionalText (digits : List Char) (power : Int) : List Char :=
  if 0 ≤ power then digits ++ List.replicate power.toNat '0' ++ ['.', '0']
  else
    let places := (-power).toNat
    let padded := List.replicate (places + 1 - digits.length) '0' ++ digits
    padded.take (padded.length - places) ++ '.' :: padded.drop (padded.length - places)

def scientificText (digits : List Char) (leading : Int) : List Char :=
  let decimals := match digits.drop 1 with
    | [] => []
    | rest => '.' :: rest
  let sign := if 0 ≤ leading then '+' else '-'
  digits.take 1 ++ decimals ++ ['e', sign] ++ Nat.toDigits 10 leading.natAbs

def text (value : Double) : String :=
  let sign := if value.isNegative then ['-'] else []
  if value.isZero then String.ofList (sign ++ ['0', '.', '0'])
  else
    let number := value.shortest
    let digits := Nat.toDigits 10 number.digits
    let leading := number.power + digits.length - 1
    let range := Json.positional
    String.ofList (sign ++
      if range.least ≤ leading ∧ leading ≤ range.greatest then positionalText digits number.power
      else scientificText digits leading)

end Double

def JsonNumber.text : JsonNumber → String
  | .integer value => toString value
  | .double value => value.text

namespace Json

def escapedChar (c : Char) : List Char :=
  if c = '"' ∨ c = '\\' then ['\\', c]
  else if c = '\x08' then ['\\', 'b']
  else if c = '\x0c' then ['\\', 'f']
  else if c = '\n' then ['\\', 'n']
  else if c = '\r' then ['\\', 'r']
  else if c = '\t' then ['\\', 't']
  else if c < ' ' then
    ['\\', 'u', '0', '0', Bytes.hexDigit (c.toNat / 16), Bytes.hexDigit (c.toNat % 16)]
  else [c]

def escaped (text : String) : String :=
  String.ofList ('"' :: text.toList.flatMap escapedChar ++ ['"'])

mutual

def text : Json → String
  | .null => "null"
  | .bool value => if value then "true" else "false"
  | .number value => value.text
  | .string value => escaped value
  | .array items => "[" ++ String.intercalate "," (itemTexts items) ++ "]"
  | .object members => "\x7b" ++ String.intercalate "," (memberTexts members) ++ "\x7d"

def itemTexts : List Json → List String
  | [] => []
  | item :: rest => item.text :: itemTexts rest

def memberTexts : List (String × Json) → List String
  | [] => []
  | (name, value) :: rest => (escaped name ++ ":" ++ value.text) :: memberTexts rest

end

end Json
end BrokerVault
