import BrokerVault.Database.Basic
import BrokerVault.Json.Shape

/-! A database as a document, which is how it is kept in a file. A file that holds nothing yet
stands for an empty database. -/
namespace BrokerVault

namespace Database

def bytesJson (bytes : Bytes) : Json := .string bytes.toHex

def numberJson (number : Int) : Json := .number (.integer number)

def cellJson : Cell → Json
  | .null => .null
  | @Cell.blob .plain bytes => .object [("blob", bytesJson bytes)]
  | @Cell.blob .foreign bytes => .object [("foreign", bytesJson bytes)]
  | .text content => .object [("text", .string content)]

def rowJson (row : Row Cell) : Json :=
  .object [("id", .string row.id), ("rowid", numberJson row.rowid), ("value", cellJson row.value)]

def timeJson (time : Timestamp) : Json :=
  .array [numberJson time.seconds, numberJson time.nanoseconds]

def credentialJson (row : Row Credential) : Json :=
  .object
    [("canary", bytesJson row.value.canary), ("created", timeJson row.value.created),
      ("label", .string row.id), ("primary", .bool row.value.primary),
      ("rowid", numberJson row.rowid), ("salt", bytesJson row.value.salt),
      ("updated", timeJson row.value.updated)]

def tableJson {α : Type} (rowJson : Row α → Json) (table : Option (Table α)) : Json :=
  match table with
  | some table => .array (table.rows.map rowJson)
  | none => .null

def toJson (database : Database) : Json :=
  .ofMembers <|
    (credentialTable, tableJson credentialJson database.credentials)
      :: ProtectedTable.all.map fun name => (name.name, tableJson rowJson (database.table? name))

def toBytes (database : Database) : Bytes := .ofText database.toJson.text

def bytes? : Json → Option Bytes
  | .string text => Bytes.ofHex? text
  | _ => none

def text? : Json → Option String
  | .string text => some text
  | _ => none

def number? : Json → Option Int
  | .number (.integer number) => some number
  | _ => none

def cell? (value : Json) : Option Cell :=
  match value with
  | .null => some .null
  | _ =>
    (((value.field? "blob").bind bytes?).map (@Cell.blob .plain))
      <|> (((value.field? "foreign").bind bytes?).map (@Cell.blob .foreign))
      <|> (((value.field? "text").bind text?).map .text)

def row? (value : Json) : Option (Row Cell) := do
  let id ← (value.field? "id").bind text?
  let rowid ← (value.field? "rowid").bind number?
  let cell ← (value.field? "value").bind cell?
  some ⟨rowid, id, cell⟩

def time? : Json → Option Timestamp
  | .array [seconds, nanoseconds] => do
    let seconds ← number? seconds
    let nanoseconds ← number? nanoseconds
    some ⟨seconds.toNat, nanoseconds.toNat⟩
  | _ => none

def credential? (value : Json) : Option (Row Credential) := do
  let label ← (value.field? "label").bind text?
  let rowid ← (value.field? "rowid").bind number?
  let salt ← (value.field? "salt").bind bytes?
  let canary ← (value.field? "canary").bind bytes?
  let primary := value.field? "primary" matches some (.bool true)
  let created ← (value.field? "created").bind time?
  let updated ← (value.field? "updated").bind time?
  some ⟨rowid, label, ⟨salt, canary, primary, created, updated⟩⟩

def insertAll {α : Type} (table : Table α) : List (Row α) → Option (Table α)
  | [] => some table
  | row :: rest => (table.insert? row.rowid row.id row.value).bind fun table => insertAll table rest

def table?OfJson {α : Type} (row? : Json → Option (Row α)) (value : Json) :
    Option (Option (Table α)) :=
  match value with
  | .null => some none
  | .array rows => ((rows.mapM row?).bind (insertAll .empty)).map some
  | _ => none

def ofJson? (value : Json) : Option Database := do
  let field (name : String) : Option (Option (Table Cell)) :=
    (value.field? name).bind (table?OfJson row?)
  let credentials ← (value.field? credentialTable).bind (table?OfJson credential?)
  let instanceDetails ← field ProtectedTable.instanceDetails.name
  let bindingCredentials ← field ProtectedTable.bindingCredentials.name
  let requestDetails ← field ProtectedTable.requestDetails.name
  let workspaces ← field ProtectedTable.workspaces.name
  some ⟨credentials, instanceDetails, bindingCredentials, requestDetails, workspaces⟩

def ofBytes? (bytes : Bytes) : Option Database :=
  if bytes.isEmpty then some .empty
  else
    match Json.ofBytes? bytes with
    | .ok value => ofJson? value
    | .error _ => none

end Database
end BrokerVault
