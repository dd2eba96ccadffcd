import BrokerVault.Json.Reader

/-! Shapes: what a value must look like to stand for something of a Lean type. One shape serves
two sources. Reading it from a text checks kinds as the text goes by, so that the first fault in
the text wins; decoding takes a value that was read before, and its faults have no position. A
record is written as an object or as the array of its fields in order. -/
namespace BrokerVault.Json

structure Shape (α : Type) where
  read : (depth : Nat) → Cursor → Except Error (α × Cursor)
  decode : Json → Except Error α

def unexpected : Json → Unexpected
  | .null => .null
  | .bool value => .boolean value
  | .number value => .number value
  | .string value => .string value
  | .array _ => .sequence
  | .object _ => .map

def refuse {α : Type} (fault : Fault) : Except Error α := .error ⟨fault, none⟩

def refuseKind {α : Type} (value : Json) (expected : String) : Except Error α :=
  refuse (.wrongKind (unexpected value) expected)

def readUnexpected {α : Type} (expected : String) (c : Cursor) : Except Error α :=
  let wrong (found : Unexpected) (c : Cursor) : Except Error α :=
    c.faultAt (.wrongKind found expected)
  match c.next? with
  | none => c.faultPeeking .endInValue
  | some byte =>
    match Char.ofNat byte.toNat with
    | '[' => wrong .sequence c
    | '{' => wrong .map c
    | _ => do
      let (value, c) ← readValue 0 c
      wrong (unexpected value) c

namespace Shape

def string : Shape String where
  read _ c :=
    let c := c.skipBlanks
    if c.next? = some 0x22 then readString c.advance else readUnexpected "a string" c
  decode
    | .string value => .ok value
    | value => refuseKind value "a string"

def bool : Shape Bool where
  read _ c :=
    let c := c.skipBlanks
    if c.next? = some 0x74 then (readTrue c).map fun c => (true, c)
    else if c.next? = some 0x66 then (readFalse c).map fun c => (false, c)
    else readUnexpected "a boolean" c
  decode
    | .bool value => .ok value
    | value => refuseKind value "a boolean"

def any : Shape Json where
  read := readValue
  decode := .ok

def optional {α : Type} (shape : Shape α) : Shape (Option α) where
  read depth c :=
    let c := c.skipBlanks
    if c.next? = some 0x6E then (readNull c).map fun c => (none, c)
    else (shape.read depth c).map fun (value, c) => (some value, c)
  decode
    | .null => .ok none
    | value => (shape.decode value).map some

def decodeItems {α : Type} (shape : Shape α) : List Json → Except Error (List α)
  | [] => .ok []
  | item :: rest => do
    let value ← shape.decode item
    let values ← decodeItems shape rest
    .ok (value :: values)

def list {α : Type} (shape : Shape α) : Shape (List α) where
  read depth c :=
    let c := c.skipBlanks
    if c.next? = some 0x5B then
      match depth with
      | 0 => c.faultPeeking .nesting
      | depth + 1 => readArray (shape.read depth) c.advance
    else readUnexpected "a sequence" c
  decode
    | .array items => decodeItems shape items
    | value => refuseKind value "a sequence"

end Shape

/-- What a record has where a field is missing. A field that may be missing from an object only must
still be there in an array. -/
inductive Missing (α : Type) where
  | refused
  | fromObject (value : α)
  | default (value : α)

/-- The fields of a record: `σ` holds those met so far in an object, in any order, and `α` all of
them. -/
structure Fields (σ α : Type) where
  count : Nat
  blank : σ
  readField? : String → Option (σ → (depth : Nat) → Cursor → Except Error (σ × Cursor))
  decodeField? : String → Option (σ → Json → Except Error σ)
  readItems : (expected : String) → (index depth : Nat) → Cursor → Except Error (α × Cursor)
  decodeItems : (expected : String) → (index : Nat) → List Json → Except Error (α × List Json)
  complete : σ → Except Fault α

namespace Fields

def none : Fields Unit Unit where
  count := 0
  blank := ()
  readField? _ := .none
  decodeField? _ := .none
  readItems _ _ _ c := .ok ((), c)
  decodeItems _ _ items := .ok ((), items)
  complete _ := .ok ()

def readDuplicate {α : Type} (name : String) (c : Cursor) : Except Error α :=
  (closeObject c).faultAt (.duplicateField name)

def field {α σ β : Type} (name : String) (shape : Shape α) (missing : Missing α)
    (rest : Fields σ β) : Fields (Option α × σ) (α × β) where
  count := rest.count + 1
  blank := (.none, rest.blank)
  readField? other :=
    if other = name then some fun (slot, slots) depth c =>
      match slot with
      | some _ => readDuplicate name c
      | .none => do
        let c ← readColon c
        let (value, c) ← shape.read depth c
        .ok ((some value, slots), c)
    else (rest.readField? other).map fun read (slot, slots) depth c =>
      (read slots depth c).map fun (slots, c) => ((slot, slots), c)
  decodeField? other :=
    if other = name then some fun (slot, slots) value =>
      match slot with
      | some _ => refuse (.duplicateField name)
      | .none => (shape.decode value).map fun value => (some value, slots)
    else (rest.decodeField? other).map fun decode (slot, slots) value =>
      (decode slots value).map fun slots => (slot, slots)
  readItems expected index depth c := do
    match ← nextItem? (index == 0) c with
    | some c =>
      let (value, c) ← shape.read depth c
      let (values, c) ← rest.readItems expected (index + 1) depth c
      .ok ((value, values), c)
    | .none =>
      match missing with
      | .default value =>
        let (values, c) ← rest.readItems expected (index + 1) depth c
        .ok ((value, values), c)
      | _ => c.skipBlanks.advance.faultAt (.wrongLength index expected)
  decodeItems expected index items :=
    match items with
    | item :: items => do
      let value ← shape.decode item
      let (values, items) ← rest.decodeItems expected (index + 1) items
      .ok ((value, values), items)
    | [] =>
      match missing with
      | .default value => do
        let (values, items) ← rest.decodeItems expected (index + 1) []
        .ok ((value, values), items)
      | _ => refuse (.wrongLength index expected)
  complete
    | (slot, slots) => do
      let value ←
        match slot, missing with
        | some value, _ => .ok value
        | .none, .fromObject value => .ok value
        | .none, .default value => .ok value
        | .none, .refused => .error (.missingField name)
      let values ← rest.complete slots
      .ok (value, values)

def expectedItems {σ α : Type} (fields : Fields σ α) (record : String) : String :=
  record ++ " with " ++ toString fields.count
    ++ (if fields.count = 1 then " element" else " elements")

def readMember {σ α : Type} (fields : Fields σ α) (depth : Nat) (name : String) (slots : σ)
    (c : Cursor) : Except Error (σ × Cursor) :=
  match fields.readField? name with
  | some read => read slots depth c
  | .none => do
    let c ← readColon c
    let c ← skipValue c
    .ok (slots, c)

def decodeMembers {σ α : Type} (fields : Fields σ α) :
    σ → List (String × Json) → Except Error σ
  | slots, [] => .ok slots
  | slots, (name, value) :: rest =>
    match fields.decodeField? name with
    | some decode => do
      let slots ← decode slots value
      decodeMembers fields slots rest
    | .none => decodeMembers fields slots rest

end Fields

def Shape.record {σ α β : Type} (name : String) (fields : Fields σ α) (build : α → β) :
    Shape β where
  read depth c :=
    let expected := "struct " ++ name
    let c := c.skipBlanks
    if c.next? = some 0x5B then
      match depth with
      | 0 => c.faultPeeking .nesting
      | depth + 1 => do
        let (values, c) ← fields.readItems (fields.expectedItems expected) 0 depth c.advance
        let c ← closeArray c
        .ok (build values, c)
    else if c.next? = some 0x7B then
      match depth with
      | 0 => c.faultPeeking .nesting
      | depth + 1 => do
        let (slots, c) ← readObject (fields.readMember depth) fields.blank c.advance
        let c := closeObject c
        match fields.complete slots with
        | .ok values => .ok (build values, c)
        | .error fault => c.faultAt fault
    else readUnexpected expected c
  decode
    | .array items => do
      let (values, rest) ← fields.decodeItems (fields.expectedItems ("struct " ++ name)) 0 items
      match rest with
      | [] => .ok (build values)
      | _ => refuse (.wrongLength items.length "fewer elements in array")
    | .object members => do
      let slots ← fields.decodeMembers fields.blank members
      match fields.complete slots with
      | .ok values => .ok (build values)
      | .error fault => refuse fault
    | value => refuseKind value ("struct " ++ name)

def Shape.ofBytes? {α : Type} (shape : Shape α) (bytes : Bytes) : Except Error α := do
  let (value, c) ← shape.read greatestDepth (.start bytes)
  finish c
  .ok value

def Shape.ofText? {α : Type} (shape : Shape α) (text : String) : Except Error α :=
  shape.ofBytes? (.ofText text)

end BrokerVault.Json
