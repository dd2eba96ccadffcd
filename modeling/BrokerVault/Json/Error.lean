import BrokerVault.Json.Printer
import BrokerVault.Text.Quoted

/-! What can be wrong with a JSON text, or with a value of another shape than the one asked for, and
where. A position counts lines from 1 and the bytes consumed on the line; a fault found in a value
that was already read has none. -/
namespace BrokerVault.Json

structure Position where
  line : Nat
  column : Nat
  deriving DecidableEq, Repr

inductive Unexpected where
  | null
  | boolean (value : Bool)
  | number (value : JsonNumber)
  | string (value : String)
  | sequence
  | map
  deriving DecidableEq, Repr

def Unexpected.text : Unexpected → String
  | .null => "null"
  | .boolean value => "boolean `" ++ toString value ++ "`"
  | .number (.integer value) => "integer `" ++ toString value ++ "`"
  | .number (.double value) => "floating point `" ++ value.text ++ "`"
  | .string value => "string " ++ Text.quoted value
  | .sequence => "sequence"
  | .map => "map"

inductive Fault where
  | endInValue
  | endInString
  | endInList
  | endInObject
  | noValue
  | noLiteral
  | noCommaInList
  | noCommaInObject
  | noColon
  | nameNotString
  | trailingComma
  | trailingCharacters
  | number
  | numberOutOfRange
  | escape
  | hexEscapeCut
  | loneSurrogate
  | controlCharacter
  | encoding
  | nesting
  | wrongKind (found : Unexpected) (expected : String)
  | wrongLength (length : Nat) (expected : String)
  | missingField (name : String)
  | duplicateField (name : String)
  deriving DecidableEq, Repr

def Fault.text : Fault → String
  | .endInValue => "EOF while parsing a value"
  | .endInString => "EOF while parsing a string"
  | .endInList => "EOF while parsing a list"
  | .endInObject => "EOF while parsing an object"
  | .noValue => "expected value"
  | .noLiteral => "expected ident"
  | .noCommaInList => "expected `,` or `]`"
  | .noCommaInObject => "expected `,` or `\x7d`"
  | .noColon => "expected `:`"
  | .nameNotString => "key must be a string"
  | .trailingComma => "trailing comma"
  | .trailingCharacters => "trailing characters"
  | .number => "invalid number"
  | .numberOutOfRange => "number out of range"
  | .escape => "invalid escape"
  | .hexEscapeCut => "unexpected end of hex escape"
  | .loneSurrogate => "lone leading surrogate in hex escape"
  | .controlCharacter => "control character (\\u0000-\\u001F) found while parsing a string"
  | .encoding => "invalid unicode code point"
  | .nesting => "recursion limit exceeded"
  | .wrongKind found expected => "invalid type: " ++ found.text ++ ", expected " ++ expected
  | .wrongLength length expected =>
    "invalid length " ++ toString length ++ ", expected " ++ expected
  | .missingField name => "missing field `" ++ name ++ "`"
  | .duplicateField name => "duplicate field `" ++ name ++ "`"

structure Error where
  fault : Fault
  position : Option Position
  deriving DecidableEq, Repr

def Error.message (error : Error) : String :=
  match error.position with
  | some position => s!"{error.fault.text} at line {position.line} column {position.column}"
  | none => error.fault.text

end BrokerVault.Json
