import BrokerVault.Bytes
import BrokerVault.Text.Composed
import BrokerVault.Text.Hidden
import BrokerVault.Url.Domain.Direction
import BrokerVault.Url.Domain.Joining
import BrokerVault.Url.Domain.Meaning
import BrokerVault.Url.Punycode

/-! Domain names, as they are looked up: in small ASCII letters, with every other label in its
encoded form (UTS #46). A label that comes encoded must be what its characters would be encoded
to. -/
namespace BrokerVault.Url.Domain

def isForbidden (c : Char) : Bool :=
  c.toNat ≤ 0x20 || c.toNat == 0x7F || "%#/:<>?@[\\]^|".contains c

def ignoredRanges : Array (Nat × Nat) := #[
  (0xAD, 0xAD), (0x34F, 0x34F), (0x115F, 0x1160), (0x17B4, 0x17B5), (0x180B, 0x180F),
  (0x200B, 0x200B), (0x2060, 0x2064), (0x206A, 0x206F), (0x3164, 0x3164), (0xFE00, 0xFE0F),
  (0xFEFF, 0xFEFF), (0xFFA0, 0xFFA0), (0x1BCA0, 0x1BCA3), (0x1D173, 0x1D17A), (0xE0100, 0xE01EF)]

def refusedRanges : Array (Nat × Nat) := #[
  (0xA8, 0xA8), (0xAF, 0xAF), (0xB4, 0xB4), (0xB8, 0xB8), (0x2D8, 0x2DD), (0x37A, 0x37A),
  (0x384, 0x385), (0x1FBD, 0x1FBD), (0x1FBF, 0x1FC1), (0x1FCD, 0x1FCF), (0x1FDD, 0x1FDF),
  (0x1FED, 0x1FEE), (0x1FFD, 0x1FFE), (0x2017, 0x2017), (0x2024, 0x2026), (0x203E, 0x203E),
  (0x2047, 0x2049), (0x2100, 0x2101), (0x2105, 0x2106), (0x2488, 0x249B), (0x2A74, 0x2A74),
  (0x2FF0, 0x2FFF), (0x309B, 0x309C), (0x31EF, 0x31EF), (0x33C2, 0x33C2), (0x33C7, 0x33C7),
  (0x33D8, 0x33D8), (0xFC5E, 0xFC63), (0xFDFA, 0xFDFB), (0xFE12, 0xFE13), (0xFE16, 0xFE16),
  (0xFE19, 0xFE19), (0xFE30, 0xFE30), (0xFE47, 0xFE4C), (0xFE52, 0xFE52), (0xFE55, 0xFE56),
  (0xFE5F, 0xFE5F), (0xFE64, 0xFE65), (0xFE68, 0xFE68), (0xFE6A, 0xFE6B), (0xFE70, 0xFE70),
  (0xFE72, 0xFE72), (0xFE74, 0xFE74), (0xFE76, 0xFE76), (0xFE78, 0xFE78), (0xFE7A, 0xFE7A),
  (0xFE7C, 0xFE7C), (0xFE7E, 0xFE7E), (0xFF03, 0xFF03), (0xFF05, 0xFF05), (0xFF0F, 0xFF0F),
  (0xFF1A, 0xFF1A), (0xFF1C, 0xFF1C), (0xFF1E, 0xFF20), (0xFF3B, 0xFF3E), (0xFF5C, 0xFF5C),
  (0xFFE3, 0xFFE3), (0xFFFC, 0xFFFD), (0x1F100, 0x1F100)]

def isIgnored (c : Char) : Bool := Text.withinAny c [ignoredRanges]

-- Beside the refused ones, a domain has no character without a form, but for the two that part and
-- join letters.
def isRefused (c : Char) : Bool :=
  !Punycode.isAscii c
    && (Text.withinAny c [refusedRanges]
      || (Text.isHidden c && !Text.isMark c && c != joiner && c != nonJoiner))

def isPlain (c : Char) : Bool :=
  !isForbidden c && c != '.' && !isIgnored c && (meaning? c).isNone && !isRefused c

def plainText (name : List Char) : List Char :=
  Text.composed (name.flatMap fun c => if isIgnored c then [] else (meaning? c).getD [c])

def encodedMark : List Char := ['x', 'n', '-', '-']

def isLabel (label : List Char) : Bool :=
  label.all isPlain && !label.head?.any Text.isMark && joinersStand label

def labelOf? (label : List Char) : Option (List Char) :=
  if encodedMark.isPrefixOf label then do
    let shown ← Punycode.decode? (label.drop encodedMark.length)
    if !shown.all Punycode.isAscii && Text.composed shown == shown && isLabel shown
        && !encodedMark.isPrefixOf shown then some shown
    else none
  else if isLabel label then some label
  else none

def encodedLabel (label : List Char) : List Char :=
  if label.all Punycode.isAscii then label else encodedMark ++ Punycode.encode label

def ofText? (text : List Char) : Option (List Char) := do
  let labels ← (Text.splitOn (· == '.') (plainText text)).mapM labelOf?
  if areDirected labels then some (['.'].intercalate (labels.map encodedLabel)) else none

def ofBytes? (bytes : Bytes) : Option (List Char) := do
  let text ← bytes.toText?
  ofText? text.toList

end BrokerVault.Url.Domain
