import BrokerVault.Database.Table
import BrokerVault.Database.Timestamp
import BrokerVault.Encryptor.Column

/-! The database: what is stored for every password, and four tables with one protected column each.
A column gives back what its format allows: a blob column reads a text as its bytes, a text column
reads no blob, and neither reads what it was never meant to hold. A table may be missing.

The credentials are taken as they are written here: every column of theirs holds a value of its own
type, and the flag is set or not. -/
namespace BrokerVault

structure Credential where
  salt : Bytes
  canary : Bytes
  primary : Bool
  created : Timestamp
  updated : Timestamp
  deriving DecidableEq, Repr

/-- What bytes were stored as. Foreign ones are of a type that their column is not read as: a number
in a blob column, a text in the text column that is not UTF-8. Bytes under an identifier that is not a
text are foreign too. -/
inductive Storage where
  | plain
  | foreign
  deriving DecidableEq, Repr

/-- A value as it is stored: a column takes any. A text that is not UTF-8 is its bytes here. -/
inductive Cell where
  | null
  | blob {storage : Storage} (bytes : Bytes)
  | text (text : String)
  deriving DecidableEq, Repr

def Cell.ofColumn : ColumnValue → Cell
  | .blob bytes => @Cell.blob .plain bytes
  | .text content => .text content

inductive ProtectedTable where
  | instanceDetails
  | bindingCredentials
  | requestDetails
  | workspaces
  deriving DecidableEq, Repr

namespace ProtectedTable

def name : ProtectedTable → String
  | .instanceDetails => "service_instance_details"
  | .bindingCredentials => "service_binding_credentials"
  | .requestDetails => "provision_request_details"
  | .workspaces => "terraform_workspace"

def format : ProtectedTable → ColumnFormat
  | .requestDetails => .text
  | _ => .blob

def all : List ProtectedTable :=
  [.instanceDetails, .bindingCredentials, .requestDetails, .workspaces]

def ofName? (name : String) : Option ProtectedTable := all.find? fun table => table.name == name

end ProtectedTable

def credentialTable : String := "password_metadata"

inductive DatabaseFault where
  | missingTable (table : String)
  | duplicate (table : String)
  | wrongType (table : String)
  deriving DecidableEq, Repr

def DatabaseFault.message : DatabaseFault → String
  | .missingTable table => "no such table: " ++ table
  | .duplicate table => "unique constraint failed: " ++ table
  | .wrongType table => "a value of another type is stored in: " ++ table

def Cell.read (table : ProtectedTable) (cell : Cell) : Except DatabaseFault (Option ColumnValue) :=
  match cell, table.format with
  | .null, _ => .ok none
  | @Cell.blob .plain bytes, .blob => .ok (some (.blob bytes))
  | .text content, .blob => .ok (some (.blob (.ofText content)))
  | .text content, .text => .ok (some (.text content))
  | .blob _, _ => .error (.wrongType table.name)

structure Database where
  credentials : Option (Table Credential)
  instanceDetails : Option (Table Cell)
  bindingCredentials : Option (Table Cell)
  requestDetails : Option (Table Cell)
  workspaces : Option (Table Cell)

namespace Database

def empty : Database := ⟨some .empty, some .empty, some .empty, some .empty, some .empty⟩

instance : Inhabited Database := ⟨empty⟩

def opened (database : Database) : Database where
  credentials := some (database.credentials.getD .empty)
  instanceDetails := some (database.instanceDetails.getD .empty)
  bindingCredentials := some (database.bindingCredentials.getD .empty)
  requestDetails := some (database.requestDetails.getD .empty)
  workspaces := some (database.workspaces.getD .empty)

def table? (database : Database) : ProtectedTable → Option (Table Cell)
  | .instanceDetails => database.instanceDetails
  | .bindingCredentials => database.bindingCredentials
  | .requestDetails => database.requestDetails
  | .workspaces => database.workspaces

def setTable (database : Database) (name : ProtectedTable) (table : Option (Table Cell)) :
    Database :=
  match name with
  | .instanceDetails => { database with instanceDetails := table }
  | .bindingCredentials => { database with bindingCredentials := table }
  | .requestDetails => { database with requestDetails := table }
  | .workspaces => { database with workspaces := table }

@[simp] theorem tableSet (database : Database) (name other : ProtectedTable)
    (table : Option (Table Cell)) :
    (database.setTable name table).table? other =
      if other = name then table else database.table? other := by
  cases name <;> cases other <;> rfl

@[simp] theorem credentialsSet (database : Database) (name : ProtectedTable)
    (table : Option (Table Cell)) :
    (database.setTable name table).credentials = database.credentials := by
  cases name <;> rfl

def protectedTable (database : Database) (name : ProtectedTable) :
    Except DatabaseFault (Table Cell) :=
  match database.table? name with
  | some table => .ok table
  | none => .error (.missingTable name.name)

def credentialsTable (database : Database) : Except DatabaseFault (Table Credential) :=
  match database.credentials with
  | some table => .ok table
  | none => .error (.missingTable credentialTable)

end Database

def Row.read (table : ProtectedTable) (row : Row Cell) :
    Except DatabaseFault (Row (Option ColumnValue)) :=
  (row.value.read table).map fun value => ⟨row.rowid, row.id, value⟩

def readRows (table : ProtectedTable) :
    List (Row Cell) → Except DatabaseFault (List (Row (Option ColumnValue)))
  | [] => .ok []
  | row :: rest => do
    let read ← row.read table
    let following ← readRows table rest
    .ok (read :: following)

/-- Up to `limit` rows numbered above the cursor; one that cannot be read spoils the batch. -/
def Database.fetchBatch (database : Database) (table : ProtectedTable) (cursor : Int)
    (limit : Nat) : Except DatabaseFault (List (Row (Option ColumnValue))) := do
  let rows ← database.protectedTable table
  readRows table (rows.batch cursor limit)

end BrokerVault
