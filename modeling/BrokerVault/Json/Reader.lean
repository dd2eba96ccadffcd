import BrokerVault.Json.Container
import BrokerVault.Json.Number
import BrokerVault.Json.Skip

/-! Reading a JSON text into a value. Main definition: `Json.ofText?`, which gives the value or the
first fault and its position. -/
namespace BrokerVault.Json

def readValue : Nat → Cursor → Except Error (Json × Cursor)
  | depth, c =>
    let c := c.skipBlanks
    match c.next? with
    | none => c.faultPeeking .endInValue
    | some byte =>
      match Char.ofNat byte.toNat with
      | 'n' => (readNull c).map fun c => (.null, c)
      | 't' => (readTrue c).map fun c => (.bool true, c)
      | 'f' => (readFalse c).map fun c => (.bool false, c)
      | '"' => (readString c.advance).map fun (text, c) => (.string text, c)
      | '[' =>
        match depth with
        | 0 => c.faultPeeking .nesting
        | depth + 1 =>
          (readArray (readValue depth) c.advance).map fun (items, c) => (.array items, c)
      | '{' =>
        match depth with
        | 0 => c.faultPeeking .nesting
        | depth + 1 => do
          let member name members c := do
            let c ← readColon c
            let (value, c) ← readValue depth c
            .ok (NameMap.insert name value members, c)
          let (members, c) ← readObject member [] c.advance
          .ok (.object members, closeObject c)
      | other =>
        if other = '-' ∨ Cursor.isDigit byte then
          (readNumber c).map fun (value, c) => (.number value, c)
        else c.faultPeeking .noValue

def ofBytes? (bytes : Bytes) : Except Error Json := do
  let (value, c) ← readValue greatestDepth (.start bytes)
  finish c
  .ok value

def ofText? (text : String) : Except Error Json := ofBytes? (.ofText text)

end BrokerVault.Json
