import BrokerVault.Text.Hidden

/-! Quoted texts, as messages show names: on one line and with nothing that a terminal would hide. A
hidden character is written by its code, `\u` and braces. A text stands in double quotes, a single
character in single ones; of the two quotes only the one in use is escaped. -/
namespace BrokerVault.Text

def hexDigits (number : Nat) : List Char := Nat.toDigits 16 number

def quotedChar (quote c : Char) : List Char :=
  if c = '\x00' then ['\\', '0']
  else if c = '\t' then ['\\', 't']
  else if c = '\r' then ['\\', 'r']
  else if c = '\n' then ['\\', 'n']
  else if c = quote ∨ c = '\\' then ['\\', c]
  else if isHidden c then ['\\', 'u', '\x7b'] ++ hexDigits c.toNat ++ ['\x7d']
  else [c]

def quoted (text : String) : String :=
  String.ofList ('"' :: text.toList.flatMap (quotedChar '"') ++ ['"'])

def quotedAlone (c : Char) : String := String.ofList ('\'' :: quotedChar '\'' c ++ ['\''])

end BrokerVault.Text
