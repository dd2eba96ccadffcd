import BrokerVault.Database.Vault
import BrokerVault.Json.Reader

/-! Records: JSON documents that are stored sealed in the protected tables, each under an
identifier. Putting replaces the document and keeps the row's number. -/
namespace BrokerVault

structure RecordError where
  table : ProtectedTable
  id : String
  cause : CipherError
  deriving DecidableEq, Repr

def RecordError.message (error : RecordError) : String :=
  "decode error for " ++ error.table.name ++ " " ++ Text.quoted error.id ++ ": "
    ++ error.cause.message

def RecordError.messages (errors : List RecordError) : String :=
  String.intercalate "; " (errors.map message)

inductive RecordStoreError where
  | database (fault : DatabaseFault)
  | sealing (error : RecordError)
  | json (table : ProtectedTable) (id : String) (error : Json.Error)
  deriving DecidableEq, Repr

def RecordStoreError.message : RecordStoreError → String
  | .database fault => "database error: " ++ fault.message
  | .sealing error => error.message
  | .json table id error =>
    "invalid JSON in " ++ table.name ++ " row " ++ Text.quoted id ++ ": " ++ error.message

namespace Records

variable (suite : CipherSuite) (encryptor : Encryptor)

def table (name : ProtectedTable) : Action RecordStoreError (Table Cell) := do
  let database ← Action.database
  Action.ofExcept ((database.protectedTable name).mapError .database)

def put (name : ProtectedTable) (id : String) (document : Json) : Action RecordStoreError Unit := do
  let nonce ← Action.random nonceLength
  let value ← Action.ofExcept <|
    (encryptor.sealColumn suite name.format nonce (.ofText document.text)).mapError fun cause =>
      .sealing ⟨name, id, cause⟩
  let stored ← table name
  let database ← Action.database
  Action.commit (database.setTable name (some (stored.upsert id (.ofColumn value))))

def raw (name : ProtectedTable) (id : String) : Action RecordStoreError (Option ColumnValue) := do
  let stored ← table name
  match stored.find? id with
  | none => return none
  | some row => Action.ofExcept ((row.value.read name).mapError .database)

def get (name : ProtectedTable) (id : String) : Action RecordStoreError (Option Json) := do
  match ← raw name id with
  | none => return none
  | some value =>
    let plaintext ← Action.ofExcept <|
      (encryptor.openColumn suite value).mapError fun cause => .sealing ⟨name, id, cause⟩
    let document ← Action.ofExcept ((Json.ofBytes? plaintext).mapError (.json name id))
    return some document

end Records
end BrokerVault
