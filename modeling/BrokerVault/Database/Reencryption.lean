import BrokerVault.Database.Records

/-! Re-encryption and verification. Every protected value is read with an encryptor, and rewritten
with it in batches of one hundred rows; each batch is one commit, so that a run that stops leaves
whole batches, and a later run may start over. Rows numbered zero or less are left alone. -/
namespace BrokerVault

inductive ReencryptError where
  | decrypt (table : ProtectedTable) (id : String) (cause : CipherError)
  | encrypt (table : ProtectedTable) (id : String) (cause : CipherError)
  | database (table : ProtectedTable) (fault : DatabaseFault)
  | interrupted (table : ProtectedTable)
  | unreadable (records : List RecordError)
  deriving DecidableEq, Repr

def ReencryptError.message : ReencryptError → String
  | .decrypt table id cause =>
    "cannot decrypt " ++ table.name ++ " row " ++ Text.quoted id ++ ": " ++ cause.message
      ++ "; supply the password that encrypted it"
  | .encrypt table id cause =>
    "cannot encrypt " ++ table.name ++ " row " ++ Text.quoted id ++ ": " ++ cause.message
  | .database table fault => "error reencrypting " ++ table.name ++ ": " ++ fault.message
  | .interrupted table =>
    "reencryption interrupted before " ++ table.name ++ "; completed batches are committed"
  | .unreadable records =>
    s!"{records.length} protected fields cannot be read: " ++ RecordError.messages records

namespace Encryptor

variable (suite : CipherSuite)

/-- The plaintext, which must be a JSON document: an encryptor that leaves values as they are would
take any sealed value for one. -/
def readDocument (encryptor : Encryptor) (value : ColumnValue) : Except CipherError Bytes :=
  match encryptor.openColumn suite value with
  | .error error => .error error
  | .ok plaintext =>
    match Json.checkDocument plaintext with
    | .ok () => .ok plaintext
    | .error error => .error (.encoding ("decrypted value is not JSON: " ++ error.message))

end Encryptor

namespace Reencryption

def batchSize : Nat := 100

variable (suite : CipherSuite) (encryptor : Encryptor)

def reseal (name : ProtectedTable) (id : String) (value : ColumnValue) :
    Action ReencryptError ColumnValue := do
  let plaintext ← Action.ofExcept <|
    (encryptor.readDocument suite value).mapError (.decrypt name id)
  let nonce ← Action.random nonceLength
  Action.ofExcept <|
    (encryptor.sealColumn suite name.format nonce plaintext).mapError (.encrypt name id)

def rewriteRows (name : ProtectedTable) (stored : Table Cell) (count : Nat) :
    List (Row (Option ColumnValue)) → Action ReencryptError (Table Cell × Nat)
  | [] => return (stored, count)
  | row :: rest =>
    match row.value with
    | none => rewriteRows name stored count rest
    | some value => do
      let resealed ← reseal suite encryptor name row.id value
      rewriteRows name (stored.update row.id (.ofColumn resealed)) (count + 1) rest

/-- The batches above the cursor, at most as many as `passes`. The stop is asked for before each of
them; a batch that is not full is the last. -/
def rewriteBatches (name : ProtectedTable) :
    (passes : Nat) → (cursor : Int) → (count : Nat) → Action ReencryptError Nat
  | 0, _, count => return count
  | passes + 1, cursor, count => do
    if ← Action.cancelled then Action.fail (.interrupted name)
    else
      let database ← Action.database
      let rows ← Action.ofExcept <|
        (database.fetchBatch name cursor batchSize).mapError (.database name)
      match rows.getLast? with
      | none => return count
      | some last =>
        let stored ← Action.ofExcept ((database.protectedTable name).mapError (.database name))
        let (stored, count) ← rewriteRows suite encryptor name stored count rows
        Action.commit (database.setTable name (some stored))
        if rows.length < batchSize then return count
        else rewriteBatches name passes last.rowid count

def passesFor (table : Option (Table Cell)) : Nat :=
  match table with
  | some table => table.rows.length / batchSize + 1
  | none => 1

def rewriteTable (name : ProtectedTable) : Action ReencryptError Nat := do
  let database ← Action.database
  rewriteBatches suite encryptor name (passesFor (database.table? name)) 0 0

def rewriteTables (count : Nat) : List ProtectedTable → Action ReencryptError Nat
  | [] => return count
  | name :: rest => do
    let rewritten ← rewriteTable suite encryptor name
    rewriteTables (count + rewritten) rest

def rewriteAll : Action ReencryptError Nat := rewriteTables suite encryptor 0 ProtectedTable.all

end Reencryption

namespace Verification

open Reencryption (batchSize passesFor)

variable (suite : CipherSuite) (encryptor : Encryptor)

def failure? (name : ProtectedTable) (row : Row (Option ColumnValue)) : Option RecordError :=
  match row.value with
  | none => none
  | some value =>
    match encryptor.readDocument suite value with
    | .ok _ => none
    | .error cause => some ⟨name, row.id, cause⟩

def failuresInBatches (database : Database) (name : ProtectedTable) :
    (passes : Nat) → (cursor : Int) → Except ReencryptError (List RecordError)
  | 0, _ => .ok []
  | passes + 1, cursor => do
    let rows ← (database.fetchBatch name cursor batchSize).mapError (.database name)
    let found := rows.filterMap (failure? suite encryptor name)
    match rows.getLast? with
    | none => .ok found
    | some last =>
      if rows.length < batchSize then .ok found
      else
        let following ← failuresInBatches database name passes last.rowid
        .ok (found ++ following)

def failuresIn (database : Database) (name : ProtectedTable) :
    Except ReencryptError (List RecordError) :=
  failuresInBatches suite encryptor database name (passesFor (database.table? name)) 0

def failuresInTables (database : Database) :
    List ProtectedTable → Except ReencryptError (List RecordError)
  | [] => .ok []
  | name :: rest => do
    let found ← failuresIn suite encryptor database name
    let following ← failuresInTables database rest
    .ok (found ++ following)

def failures (database : Database) : Except ReencryptError (List RecordError) :=
  failuresInTables suite encryptor database ProtectedTable.all

end Verification

def verifyAll (suite : CipherSuite) (encryptor : Encryptor) :
    Action ReencryptError (List RecordError) := do
  let database ← Action.database
  Action.ofExcept (Verification.failures suite encryptor database)

end BrokerVault
