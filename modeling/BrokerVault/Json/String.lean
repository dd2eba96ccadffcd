import BrokerVault.Json.Cursor
import BrokerVault.Text.Utf8

/-! Reading strings and the three literals. An escape gives one character: a pair of surrogates is
one, and a surrogate alone is refused. -/
namespace BrokerVault.Json

def readHexUnit (c : Cursor) : Except Error (Nat × Cursor) :=
  match c.rest with
  | first :: second :: third :: fourth :: _ =>
    let after := Cursor.advanceBy 4 c
    let digits := [first, second, third, fourth].mapM fun byte =>
      Bytes.hexValue? (Char.ofNat byte.toNat)
    match digits with
    | some values => .ok (values.foldl (fun value digit => 16 * value + digit) 0, after)
    | none => after.faultAt .escape
  | rest => (Cursor.advanceBy rest.length c).faultAt .endInString

def isLeadingSurrogate (unit : Nat) : Bool := 0xD800 ≤ unit && unit ≤ 0xDBFF
def isTrailingSurrogate (unit : Nat) : Bool := 0xDC00 ≤ unit && unit ≤ 0xDFFF

def readPairByte (byte : UInt8) (c : Cursor) : Except Error Cursor :=
  match c.next? with
  | none => c.faultAt .endInString
  | some found => if found = byte then .ok c.advance else c.advance.faultAt .hexEscapeCut

def readHexEscape (c : Cursor) : Except Error (Char × Cursor) := do
  let (unit, c) ← readHexUnit c
  if isTrailingSurrogate unit then c.faultAt .loneSurrogate
  else if isLeadingSurrogate unit then
    let c ← readPairByte 0x5C c
    let c ← readPairByte 0x75 c
    let (second, c) ← readHexUnit c
    if isTrailingSurrogate second then
      .ok (Char.ofNat (0x10000 + (unit - 0xD800) * 0x400 + (second - 0xDC00)), c)
    else c.faultAt .loneSurrogate
  else .ok (Char.ofNat unit, c)

def shortEscape? (letter : UInt8) : Option UInt8 :=
  match Char.ofNat letter.toNat with
  | '"' => some 0x22
  | '\\' => some 0x5C
  | '/' => some 0x2F
  | 'b' => some 0x08
  | 'f' => some 0x0C
  | 'n' => some 0x0A
  | 'r' => some 0x0D
  | 't' => some 0x09
  | _ => none

def readEscape (c : Cursor) : Except Error (Bytes × Cursor) :=
  match c.next? with
  | none => c.faultAt .endInString
  | some letter =>
    match shortEscape? letter with
    | some byte => .ok ([byte], c.advance)
    | none =>
      if letter = 0x75 then do
        let (char, c) ← readHexEscape c.advance
        .ok (String.utf8EncodeChar char, c)
      else c.advance.faultAt .escape

def readPiece (c : Cursor) : Except Error (Option Bytes × Cursor) :=
  match c.next? with
  | none => c.faultAt .endInString
  | some byte =>
    if byte = 0x22 then .ok (none, c.advance)
    else if byte = 0x5C then do
      let (bytes, c) ← readEscape c.advance
      .ok (some bytes, c)
    else if byte < 0x20 then c.advance.faultAt .controlCharacter
    else .ok (some [byte], c.advance)

def readPieces (done : Bytes) : Nat → Cursor → Except Error (Bytes × Cursor)
  | 0, c => c.faultAt .endInString
  | fuel + 1, c => do
    let (piece, c) ← readPiece c
    match piece with
    | none => .ok (done.reverse, c)
    | some bytes => readPieces (bytes.reverse ++ done) fuel c

/-- A string from behind its opening quote on. Every piece takes a byte at least. Bytes that are no
UTF-8 are reported where they stop being so. -/
def readString (c : Cursor) : Except Error (String × Cursor) := do
  let (bytes, c) ← readPieces [] (c.rest.length + 1) c
  match bytes.toText? with
  | some text => .ok (text, c)
  | none =>
    let wrong := bytes.length - Text.Utf8.validLength bytes
    .error ⟨.encoding, some ⟨c.position.line, c.position.column - wrong⟩⟩

def readLetters : List UInt8 → Cursor → Except Error Cursor
  | [], c => .ok c
  | letter :: letters, c =>
    match c.next? with
    | none => c.faultAt .endInValue
    | some found =>
      if found = letter then readLetters letters c.advance else c.advance.faultAt .noLiteral

def readNull (c : Cursor) : Except Error Cursor := readLetters [0x75, 0x6C, 0x6C] c.advance
def readTrue (c : Cursor) : Except Error Cursor := readLetters [0x72, 0x75, 0x65] c.advance
def readFalse (c : Cursor) : Except Error Cursor := readLetters [0x61, 0x6C, 0x73, 0x65] c.advance

end BrokerVault.Json
