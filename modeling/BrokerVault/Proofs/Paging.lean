import BrokerVault.Proofs.Json.Agreement
import BrokerVault.Proofs.Verification

/-! Verification beside a plain scan. The scan goes through the tables and their rows once, in order,
and keeps what does not open to JSON; it is refused by the first table that is missing or holds what
its column does not give back. A verification answers the same, and its pages come to an end.

A blob in the text column is not all that a column does not give back, and what passes for JSON is
seen by its form alone. -/
namespace BrokerVault.Verification

def visited (database : Database) (name : ProtectedTable) : List (Row Cell) :=
  match database.table? name with
  | some stored => stored.rows.filter fun row => 0 < row.rowid ∧ row.value ≠ .null
  | none => []

def finding? (suite : CipherSuite) (encryptor : Encryptor) (name : ProtectedTable)
    (row : Row Cell) : Option RecordError :=
  match row.value.read name with
  | .ok (some value) =>
    match encryptor.openColumn suite value with
    | .error cause => some ⟨name, row.id, cause⟩
    | .ok plaintext =>
      match Json.checkDocument plaintext with
      | .ok () => none
      | .error error =>
        some ⟨name, row.id, .encoding ("decrypted value is not JSON: " ++ error.message)⟩
  | .ok none | .error _ => none

def findings (suite : CipherSuite) (encryptor : Encryptor) (database : Database)
    (name : ProtectedTable) : List RecordError :=
  (visited database name).filterMap (finding? suite encryptor name)

inductive Misfit (format : ColumnFormat) : Cell → Prop where
  | blob {bytes} (column : format = .text) : Misfit format (@Cell.blob .plain bytes)
  | foreign {bytes} : Misfit format (@Cell.blob .foreign bytes)

inductive Offends (database : Database) (name : ProtectedTable) : DatabaseFault → Prop where
  | missing (absent : database.table? name = none) :
      Offends database name (.missingTable name.name)
  | misfit {stored row} (table : database.table? name = some stored) (place : row ∈ stored.rows)
      (visited : 0 < row.rowid) (misfit : Misfit name.format row.value) :
      Offends database name (.wrongType name.name)

def Sound (database : Database) (name : ProtectedTable) : Prop :=
  ∀ fault, ¬Offends database name fault

variable {suite : CipherSuite} {encryptor : Encryptor} {name : ProtectedTable}
  {database : Database} {rows : List (Row Cell)} {stored : Table Cell}

end BrokerVault.Verification

/-! Two tables that look fit for a scan, as each table is there and no text column holds a blob. One
has a number in its blob column. The other has a text in quotes that is not UTF-8: in form it is JSON,
and it is none. -/
namespace BrokerVault.OddValues

def holding (value : Cell) : Vault :=
  .ofDatabase (Database.empty.setTable .instanceDetails (some (Table.empty.upsert "x" value)))

def number : Cell := @Cell.blob .foreign (.ofText "5")

def quoted : Bytes := [0x22, 0xff, 0x22]

end BrokerVault.OddValues
