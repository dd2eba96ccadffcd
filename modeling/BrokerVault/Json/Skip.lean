import BrokerVault.Json.String

/-! Passing over a value without building it, as for a member that nobody asked for. Only the form
is checked: there is no limit to the nesting, no range for numbers, and strings may hold lone
surrogates and bytes that are no text. -/
namespace BrokerVault.Json

def skipExponent (c : Cursor) : Except Error Cursor :=
  let c := c.advance
  let c := if c.next? = some 0x2B ∨ c.next? = some 0x2D then c.advance else c
  match c.digits with
  | ([], _) => c.advance.faultAt .number
  | (_, after) => .ok after

def skipOptionalExponent (c : Cursor) : Except Error Cursor :=
  if c.next? = some 0x65 ∨ c.next? = some 0x45 then skipExponent c else .ok c

def skipFraction (c : Cursor) : Except Error Cursor :=
  if c.next? = some 0x2E then
    match c.advance.digits with
    | ([], after) => after.faultPeeking .number
    | (_, after) => skipOptionalExponent after
  else skipOptionalExponent c

def skipNumber (c : Cursor) : Except Error Cursor :=
  let c := if c.next? = some 0x2D then c.advance else c
  if c.next? = some 0x30 then
    let c := c.advance
    if (c.next?.map Cursor.isDigit).getD false then c.faultPeeking .number else skipFraction c
  else
    match c.digits with
    | ([], _) => c.advance.faultAt .number
    | (_, after) => skipFraction after

def skipEscape (c : Cursor) : Except Error Cursor :=
  match c.next? with
  | none => c.faultAt .endInString
  | some letter =>
    if (shortEscape? letter).isSome then .ok c.advance
    else if letter = 0x75 then (readHexUnit c.advance).map Prod.snd
    else c.advance.faultAt .escape

def skipPieces : Nat → Cursor → Except Error Cursor
  | 0, c => c.faultAt .endInString
  | fuel + 1, c =>
    match c.next? with
    | none => c.faultAt .endInString
    | some byte =>
      if byte = 0x22 then .ok c.advance
      else if byte = 0x5C then do
        let c ← skipEscape c.advance
        skipPieces fuel c
      else if byte < 0x20 then c.faultAt .controlCharacter
      else skipPieces fuel c.advance

def skipString (c : Cursor) : Except Error Cursor := skipPieces (c.rest.length + 1) c

inductive Frame where
  | list
  | object
  deriving DecidableEq, Repr

def Frame.closing : Frame → UInt8
  | .list => 0x5D
  | .object => 0x7D

def Frame.cut : Frame → Fault
  | .list => .endInList
  | .object => .endInObject

def Frame.noComma : Frame → Fault
  | .list => .noCommaInList
  | .object => .noCommaInObject

def skipName (frame : Frame) (c : Cursor) : Except Error Cursor :=
  match frame with
  | .list => .ok c
  | .object =>
    let c := c.skipBlanks
    match c.next? with
    | none => c.faultPeeking .endInObject
    | some byte =>
      if byte = 0x22 then do
        let c ← skipString c.advance
        let c := c.skipBlanks
        match c.next? with
        | none => c.faultPeeking .endInObject
        | some byte => if byte = 0x3A then .ok c.advance else c.faultPeeking .noColon
      else c.faultPeeking .nameNotString

/-- Closes frames from the innermost on until a comma asks for another value, which is to be read
in the frames that are left, or until none is left. -/
def closeFrames : List Frame → Cursor → Except Error (List Frame × Cursor)
  | [], c => .ok ([], c)
  | frame :: frames, c =>
    let c := c.skipBlanks
    match c.next? with
    | none => c.faultPeeking frame.cut
    | some byte =>
      if byte = 0x2C then do
        let c ← skipName frame c.advance
        .ok (frame :: frames, c)
      else if byte = frame.closing then closeFrames frames c.advance
      else c.faultPeeking frame.noComma

def openFrame (frame : Frame) (frames : List Frame) (c : Cursor) :
    Except Error (List Frame × Cursor) := do
  let c := c.skipBlanks
  match c.next? with
  | none => c.faultPeeking frame.cut
  | some byte =>
    if byte = frame.closing then closeFrames frames c.advance
    else do
      let c ← skipName frame c
      .ok (frame :: frames, c)

def skipStep (frames : List Frame) (c : Cursor) : Except Error (List Frame × Cursor) :=
  let c := c.skipBlanks
  match c.next? with
  | none => c.faultPeeking .endInValue
  | some byte =>
    match Char.ofNat byte.toNat with
    | 'n' => readNull c >>= closeFrames frames
    | 't' => readTrue c >>= closeFrames frames
    | 'f' => readFalse c >>= closeFrames frames
    | '"' => skipString c.advance >>= closeFrames frames
    | '[' => openFrame .list frames c.advance
    | '{' => openFrame .object frames c.advance
    | other =>
      if other = '-' ∨ Cursor.isDigit byte then skipNumber c >>= closeFrames frames
      else c.faultPeeking .noValue

def skipSteps : Nat → List Frame → Cursor → Except Error Cursor
  | 0, _, c => c.faultPeeking .endInValue
  | fuel + 1, frames, c => do
    let (frames, c) ← skipStep frames c
    match frames with
    | [] => .ok c
    | frames => skipSteps fuel frames c

def skipValue (c : Cursor) : Except Error Cursor := skipSteps (c.rest.length + 1) [] c

def finish (c : Cursor) : Except Error Unit :=
  let c := c.skipBlanks
  if c.next?.isSome then c.faultPeeking .trailingCharacters else .ok ()

/-- Whether the bytes have the form of one JSON text. -/
def checkDocument (bytes : Bytes) : Except Error Unit :=
  skipValue (.start bytes) >>= finish

end BrokerVault.Json
