import BrokerVault.Text.Quoted
import BrokerVault.Text.Split

/-! Version numbers: three numbers, and behind them a name for what comes before the release and one
for the build. A version before its release is older than the release. -/
namespace BrokerVault

structure Version where
  major : Nat
  minor : Nat
  patch : Nat
  prerelease : String
  build : String
  deriving DecidableEq, Repr

namespace Version

inductive Part where
  | major
  | minor
  | patch
  | prerelease
  | build
  deriving DecidableEq, Repr

def Part.name : Part → String
  | .major => "major version number"
  | .minor => "minor version number"
  | .patch => "patch version number"
  | .prerelease => "pre-release identifier"
  | .build => "build metadata"

inductive Fault where
  | empty
  | endIn (part : Part)
  | unexpectedIn (part : Part) (found : Char)
  | unexpectedAfter (part : Part) (found : Char)
  | leadingZero (part : Part)
  | overflow (part : Part)
  | emptySegment (part : Part)
  deriving DecidableEq, Repr

def Fault.message : Fault → String
  | .empty => "empty string, expected a semver version"
  | .endIn part => "unexpected end of input while parsing " ++ part.name
  | .unexpectedIn part found =>
    "unexpected character " ++ Text.quotedAlone found ++ " while parsing " ++ part.name
  | .unexpectedAfter part found =>
    "unexpected character " ++ Text.quotedAlone found ++ " after " ++ part.name
  | .leadingZero part => "invalid leading zero in " ++ part.name
  | .overflow part => "value of " ++ part.name ++ " exceeds u64::MAX"
  | .emptySegment part => "empty identifier segment in " ++ part.name

def isDigit (c : Char) : Bool := '0' ≤ c && c ≤ '9'

def readDigits (part : Part) (value : Nat) (first : Bool) :
    List Char → Except Fault (Nat × List Char)
  | [] => .ok (value, [])
  | c :: rest =>
    if isDigit c then
      if value = 0 ∧ !first then .error (.leadingZero part)
      else
        let value := 10 * value + (c.toNat - 48)
        if Nat.pow 2 64 ≤ value then .error (.overflow part) else readDigits part value false rest
    else .ok (value, c :: rest)

def readNumber (part : Part) (text : List Char) : Except Fault (Nat × List Char) :=
  match text with
  | [] => .error (.endIn part)
  | c :: _ => if isDigit c then readDigits part 0 true text else .error (.unexpectedIn part c)

def readDot (part : Part) : List Char → Except Fault (List Char)
  | [] => .error (.endIn part)
  | c :: rest => if c = '.' then .ok rest else .error (.unexpectedAfter part c)

def isSegmentChar (c : Char) : Bool :=
  isDigit c || ('A' ≤ c && c ≤ 'Z') || ('a' ≤ c && c ≤ 'z') || c == '-'

def checkSegments (part : Part) : List (List Char) → Except Fault Unit
  | [] => .ok ()
  | segment :: rest =>
    if segment.isEmpty then .error (.emptySegment part)
    else if part = .prerelease ∧ segment.all isDigit ∧ 1 < segment.length ∧ segment.head? = some '0'
    then .error (.leadingZero part)
    else checkSegments part rest

def readSegments (part : Part) (text : List Char) : Except Fault (String × List Char) := do
  let isPart (c : Char) : Bool := isSegmentChar c || c == '.'
  let name := text.takeWhile isPart
  checkSegments part (Text.splitOn (· == '.') name)
  return (String.ofList name, text.dropWhile isPart)

def readOptional (part : Part) (mark : Char) (text : List Char) :
    Except Fault (Option String × List Char) :=
  match text with
  | c :: rest =>
    if c = mark then (readSegments part rest).map fun (name, rest) => (some name, rest)
    else .ok (none, text)
  | [] => .ok (none, [])

def ofChars? (text : List Char) : Except Fault Version := do
  if text.isEmpty then .error .empty
  else
    let (major, text) ← readNumber .major text
    let text ← readDot .major text
    let (minor, text) ← readNumber .minor text
    let text ← readDot .minor text
    let (patch, text) ← readNumber .patch text
    let (prerelease, text) ← readOptional .prerelease '-' text
    let (build, text) ← readOptional .build '+' text
    let last : Part :=
      if build.isSome then .build else if prerelease.isSome then .prerelease else .patch
    match text with
    | c :: _ => .error (.unexpectedAfter last c)
    | [] => .ok ⟨major, minor, patch, prerelease.getD "", build.getD ""⟩

def ofText? (text : String) : Except Fault Version := ofChars? text.toList

def precedesRelease (version : Version) (major minor patch : Nat) : Bool :=
  if version.major ≠ major then version.major < major
  else if version.minor ≠ minor then version.minor < minor
  else if version.patch ≠ patch then version.patch < patch
  else !version.prerelease.isEmpty

end Version
end BrokerVault
