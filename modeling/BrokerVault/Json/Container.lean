import BrokerVault.Json.String

/-! The punctuation of arrays and objects that are built: what stands between items and around
names. A comma promises another item. -/
namespace BrokerVault.Json

def nextItem? (first : Bool) (c : Cursor) : Except Error (Option Cursor) :=
  let c := c.skipBlanks
  match c.next? with
  | none => c.faultPeeking .endInList
  | some byte =>
    if byte = 0x5D then .ok none
    else if first then .ok (some c)
    else if byte = 0x2C then
      let c := c.advance.skipBlanks
      match c.next? with
      | none => c.faultPeeking .endInValue
      | some byte => if byte = 0x5D then c.faultPeeking .trailingComma else .ok (some c)
    else c.faultPeeking .noCommaInList

def closeArray (c : Cursor) : Except Error Cursor :=
  let c := c.skipBlanks
  match c.next? with
  | none => c.faultPeeking .endInList
  | some byte =>
    if byte = 0x5D then .ok c.advance
    else if byte = 0x2C then
      let c := c.advance.skipBlanks
      if c.next? = some 0x5D then c.faultPeeking .trailingComma
      else c.faultPeeking .trailingCharacters
    else c.faultPeeking .trailingCharacters

def readItems {α : Type} (item : Cursor → Except Error (α × Cursor)) :
    Nat → List α → Cursor → Except Error (List α × Cursor)
  | 0, _, c => c.faultPeeking .endInList
  | fuel + 1, done, c => do
    match ← nextItem? done.isEmpty c with
    | none =>
      let c ← closeArray c
      .ok (done.reverse, c)
    | some c =>
      let (value, c) ← item c
      readItems item fuel (value :: done) c

def readArray {α : Type} (item : Cursor → Except Error (α × Cursor)) (c : Cursor) :
    Except Error (List α × Cursor) :=
  readItems item (c.rest.length + 1) [] c

def nextName? (first : Bool) (c : Cursor) : Except Error (Option (String × Cursor)) :=
  let c := c.skipBlanks
  match c.next? with
  | none => c.faultPeeking .endInObject
  | some byte =>
    if byte = 0x7D then .ok none
    else if first then
      if byte = 0x22 then (readString c.advance).map some else c.faultPeeking .nameNotString
    else if byte = 0x2C then
      let c := c.advance.skipBlanks
      match c.next? with
      | none => c.faultPeeking .endInValue
      | some byte =>
        if byte = 0x22 then (readString c.advance).map some
        else if byte = 0x7D then c.faultPeeking .trailingComma
        else c.faultPeeking .nameNotString
    else c.faultPeeking .noCommaInObject

def readColon (c : Cursor) : Except Error Cursor :=
  let c := c.skipBlanks
  match c.next? with
  | none => c.faultPeeking .endInObject
  | some byte => if byte = 0x3A then .ok c.advance else c.faultPeeking .noColon

def closeObject (c : Cursor) : Cursor :=
  let c := c.skipBlanks
  if c.next? = some 0x7D then c.advance else c

def readMembers {σ : Type} (member : String → σ → Cursor → Except Error (σ × Cursor)) :
    Nat → Bool → σ → Cursor → Except Error (σ × Cursor)
  | 0, _, _, c => c.faultPeeking .endInObject
  | fuel + 1, first, state, c => do
    match ← nextName? first c with
    | none => .ok (state, c)
    | some (name, c) =>
      let (state, c) ← member name state c
      readMembers member fuel false state c

def readObject {σ : Type} (member : String → σ → Cursor → Except Error (σ × Cursor)) (start : σ)
    (c : Cursor) : Except Error (σ × Cursor) :=
  readMembers member (c.rest.length + 1) true start c

def greatestDepth : Nat := 127

end BrokerVault.Json
