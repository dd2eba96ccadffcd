import BrokerVault.Bytes

/-! Percent encoding: a byte that may not stand in some part of a URL is written as `%` and two hex
digits. Every part has its own set of such bytes; bytes beyond ASCII are in all of them. -/
namespace BrokerVault.Url

abbrev EncodeSet := Char → Bool

def isControl (c : Char) : Bool := c.toNat < 0x20 || c.toNat == 0x7F

def controlSet : EncodeSet := isControl

def fragmentSet : EncodeSet := fun c => isControl c || " \"<>`".contains c
def querySet : EncodeSet := fun c => isControl c || " \"#<>".contains c
def specialQuerySet : EncodeSet := fun c => querySet c || c == '\''
def pathSet : EncodeSet := fun c => fragmentSet c || "#?\x7b\x7d".contains c
def userinfoSet : EncodeSet := fun c => pathSet c || "/:;=@[\\]^|".contains c

def upperHexDigit (value : Nat) : Char :=
  if value < 10 then Char.ofNat (48 + value) else Char.ofNat (55 + value)

def encodedByte (byte : UInt8) : List Char :=
  ['%', upperHexDigit (byte.toNat / 16), upperHexDigit (byte.toNat % 16)]

def percentEncode (refused : EncodeSet) (text : List Char) : List Char :=
  text.flatMap fun c =>
    if c.toNat < 0x80 ∧ !refused c then [c]
    else (Bytes.ofText (String.singleton c)).flatMap encodedByte

def percentDecode : Bytes → Bytes
  | 0x25 :: high :: low :: rest =>
    match Bytes.hexValue? (Char.ofNat high.toNat), Bytes.hexValue? (Char.ofNat low.toNat) with
    | some upper, some lower => UInt8.ofNat (16 * upper + lower) :: percentDecode rest
    | _, _ => 0x25 :: percentDecode (high :: low :: rest)
  | byte :: rest => byte :: percentDecode rest
  | [] => []
termination_by bytes => bytes.length

end BrokerVault.Url
