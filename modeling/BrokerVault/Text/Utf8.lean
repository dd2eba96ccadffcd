import BrokerVault.Bytes

/-! Where a byte string stops being UTF-8. A fault stands at the first byte of the sequence that
fails, and counts the bytes that could still have begun a character; it is open when the bytes end
inside a sequence. -/
namespace BrokerVault.Text.Utf8

structure Fault where
  index : Nat
  length : Option Nat
  deriving DecidableEq, Repr

def Fault.message (fault : Fault) : String :=
  match fault.length with
  | some length => s!"invalid utf-8 sequence of {length} bytes from index {fault.index}"
  | none => s!"incomplete utf-8 byte sequence from index {fault.index}"

def isTail (byte : UInt8) : Bool := 0x80 ≤ byte && byte ≤ 0xBF

def mayFollow (lead byte : UInt8) : Bool :=
  if lead == 0xE0 then 0xA0 ≤ byte && byte ≤ 0xBF
  else if lead == 0xED then 0x80 ≤ byte && byte ≤ 0x9F
  else if lead == 0xF0 then 0x90 ≤ byte && byte ≤ 0xBF
  else if lead == 0xF4 then 0x80 ≤ byte && byte ≤ 0x8F
  else isTail byte

def faultFrom (index : Nat) : Bytes → Option Fault
  | [] => none
  | lead :: rest =>
    if lead < 0x80 then faultFrom (index + 1) rest
    else if 0xC2 ≤ lead && lead ≤ 0xDF then
      match rest with
      | [] => some ⟨index, none⟩
      | second :: rest =>
        if isTail second then faultFrom (index + 2) rest else some ⟨index, some 1⟩
    else if 0xE0 ≤ lead && lead ≤ 0xEF then
      match rest with
      | [] => some ⟨index, none⟩
      | second :: rest =>
        if mayFollow lead second then
          match rest with
          | [] => some ⟨index, none⟩
          | third :: rest =>
            if isTail third then faultFrom (index + 3) rest else some ⟨index, some 2⟩
        else some ⟨index, some 1⟩
    else if 0xF0 ≤ lead && lead ≤ 0xF4 then
      match rest with
      | [] => some ⟨index, none⟩
      | second :: rest =>
        if mayFollow lead second then
          match rest with
          | [] => some ⟨index, none⟩
          | third :: rest =>
            if isTail third then
              match rest with
              | [] => some ⟨index, none⟩
              | fourth :: rest =>
                if isTail fourth then faultFrom (index + 4) rest else some ⟨index, some 3⟩
            else some ⟨index, some 2⟩
        else some ⟨index, some 1⟩
    else some ⟨index, some 1⟩

def fault? (bytes : Bytes) : Option Fault := faultFrom 0 bytes

def validLength (bytes : Bytes) : Nat :=
  match fault? bytes with
  | some fault => fault.index
  | none => bytes.length

end BrokerVault.Text.Utf8
