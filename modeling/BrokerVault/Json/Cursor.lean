import BrokerVault.Json.Error
import BrokerVault.Bytes

/-! A place in a text that is being read: the bytes still to come and the position reached. A fault
is reported either at the place itself or at the byte that is looked at there. -/
namespace BrokerVault.Json

structure Cursor where
  rest : Bytes
  position : Position
  deriving DecidableEq, Repr

namespace Cursor

def start (bytes : Bytes) : Cursor := ⟨bytes, ⟨1, 0⟩⟩

def next? (c : Cursor) : Option UInt8 := c.rest.head?

def past (position : Position) (byte : UInt8) : Position :=
  if byte = 0x0A then ⟨position.line + 1, 0⟩ else ⟨position.line, position.column + 1⟩

def advance (c : Cursor) : Cursor :=
  match c.rest with
  | [] => c
  | byte :: rest => ⟨rest, past c.position byte⟩

def advanceBy : Nat → Cursor → Cursor
  | 0, c => c
  | count + 1, c => advanceBy count c.advance

def faultAt {α : Type} (c : Cursor) (fault : Fault) : Except Error α :=
  .error ⟨fault, some c.position⟩

def faultPeeking {α : Type} (c : Cursor) (fault : Fault) : Except Error α :=
  c.advance.faultAt fault

def isBlank (byte : UInt8) : Bool := byte == 0x20 || byte == 0x0A || byte == 0x09 || byte == 0x0D

def skipBlanksFrom : Bytes → Position → Cursor
  | [], position => ⟨[], position⟩
  | byte :: rest, position =>
    if isBlank byte then skipBlanksFrom rest (past position byte) else ⟨byte :: rest, position⟩

def skipBlanks (c : Cursor) : Cursor := skipBlanksFrom c.rest c.position

def isDigit (byte : UInt8) : Bool := 0x30 ≤ byte && byte ≤ 0x39

def digitValue (byte : UInt8) : Nat := byte.toNat - 0x30

def digitsFrom : Bytes → Position → List Nat × Cursor
  | [], position => ([], ⟨[], position⟩)
  | byte :: rest, position =>
    if isDigit byte then
      let (digits, after) := digitsFrom rest (past position byte)
      (digitValue byte :: digits, after)
    else ([], ⟨byte :: rest, position⟩)

def digits (c : Cursor) : List Nat × Cursor := digitsFrom c.rest c.position

end Cursor
end BrokerVault.Json
