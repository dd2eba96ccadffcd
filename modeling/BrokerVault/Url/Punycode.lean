/-! Labels of a domain in ASCII (Punycode, RFC 3492). A label is its ASCII characters and then the
others one by one, in order of value and then of place, each with the place that it is inserted
at. A value and a place are one number, and what is written is the distance from one number to the
next. -/
namespace BrokerVault.Url.Punycode

structure Insertion where
  value : Nat
  place : Nat
  deriving DecidableEq, Repr

def isAscii (c : Char) : Bool := c.toNat < 0x80

def insertionsFrom (before : List Char) : List Char → List Insertion
  | [] => []
  | c :: rest =>
    let others := insertionsFrom (before ++ [c]) rest
    if isAscii c then others
    else ⟨c.toNat, before.countP fun earlier => earlier.toNat ≤ c.toNat⟩ :: others

def insertions (label : List Char) : List Insertion :=
  (insertionsFrom [] label).mergeSort fun one other => one.value ≤ other.value

def base : Nat := 36

def threshold (position bias : Nat) : Nat :=
  if position ≤ bias then 1 else min 26 (position - bias)

def scaled : (fuel : Nat) → (number position : Nat) → Nat
  | 0, _, position => position
  | fuel + 1, number, position =>
    if 455 < number then scaled fuel (number / 35) (position + base)
    else position + base * number / (number + 38)

def adapted (distance count : Nat) (isFirst : Bool) : Nat :=
  let damped := if isFirst then distance / 700 else distance / 2
  let number := damped + damped / count
  scaled number number 0

def firstValue : Nat := 0x80
def firstBias : Nat := 72

def digit (value : Nat) : Char := .ofNat (if value < 26 then 97 + value else 22 + value)

def digitValue? (c : Char) : Option Nat :=
  if 'a' ≤ c ∧ c ≤ 'z' then some (c.toNat - 97)
  else if '0' ≤ c ∧ c ≤ '9' then some (c.toNat - 22)
  else none

def digits : (fuel : Nat) → (bias position number : Nat) → List Char
  | 0, _, _, _ => []
  | fuel + 1, bias, position, number =>
    let least := threshold position bias
    if number < least then [digit number]
    else
      digit (least + (number - least) % (base - least))
        :: digits fuel bias (position + base) ((number - least) / (base - least))

structure State where
  value : Nat
  place : Nat
  length : Nat
  bias : Nat
  isFirst : Bool

namespace State

def start (length : Nat) : State := ⟨firstValue, 0, length, firstBias, true⟩

def distance (state : State) (next : Insertion) : Nat :=
  (next.value - state.value) * (state.length + 1) + next.place - state.place

def insertion (state : State) (distance : Nat) : Insertion :=
  let number := state.place + distance
  ⟨state.value + number / (state.length + 1), number % (state.length + 1)⟩

def after (state : State) (distance : Nat) (next : Insertion) : State :=
  ⟨next.value, next.place + 1, state.length + 1,
    adapted distance (state.length + 1) state.isFirst, false⟩

end State

def writeFrom (state : State) : List Insertion → List Char
  | [] => []
  | next :: rest =>
    let distance := state.distance next
    digits (distance + 1) state.bias base distance ++ writeFrom (state.after distance next) rest

def encode (label : List Char) : List Char :=
  let plain := label.filter isAscii
  (if plain.isEmpty then [] else plain ++ ['-'])
    ++ writeFrom (.start plain.length) (insertions label)

def readNumber (bias position weight number : Nat) : List Char → Option (Nat × List Char)
  | [] => none
  | c :: rest => do
    let value ← digitValue? c
    let least := threshold position bias
    let number := number + value * weight
    if value < least then some (number, rest)
    else readNumber bias (position + base) (weight * (base - least)) number rest

theorem readNumberShorter {bias position weight number read : Nat} {text rest : List Char}
    (found : readNumber bias position weight number text = some (read, rest)) :
    rest.length < text.length := by
  induction text generalizing position weight number with
  | nil => cases found
  | cons c tail ih =>
    simp only [readNumber, bind, Option.bind_eq_some_iff] at found
    obtain ⟨value, _, last⟩ := found
    split at last
    · cases last
      exact Nat.lt_succ_self _
    · exact Nat.lt_succ_of_lt (ih last)

def charOf? (value : Nat) : Option Char :=
  if value < 0xD800 ∨ (0xDFFF < value ∧ value < 0x110000) then some (.ofNat value) else none

def readFrom (state : State) (label : List Char) (text : List Char) : Option (List Char) :=
  if text.isEmpty then some label
  else
    match _found : readNumber state.bias base 1 0 text with
    | none => none
    | some (distance, rest) => do
      let next := state.insertion distance
      let c ← charOf? next.value
      let label := label.take next.place ++ c :: label.drop next.place
      readFrom (state.after distance next) label rest
termination_by text.length
decreasing_by exact readNumberShorter _found

def decode? (text : List Char) : Option (List Char) :=
  let reversed := text.reverse
  let numbers := (reversed.takeWhile (· != '-')).reverse
  let plain := (reversed.dropWhile (· != '-')).drop 1 |>.reverse
  if plain.all isAscii then readFrom (.start plain.length) plain numbers else none

end BrokerVault.Url.Punycode
