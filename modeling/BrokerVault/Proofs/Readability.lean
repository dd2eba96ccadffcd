import BrokerVault.Proofs.Completion
import BrokerVault.Proofs.Json.Agreement

/-! Verification beside reading records. A verification checks the form of every document, reading
builds it: what is listed is not read, and what is read is not listed, but a document whose fault
its form does not show is neither. -/
namespace BrokerVault

namespace Verification

def Listed (found : List RecordError) (name : ProtectedTable) (id : String) : Prop :=
  ∃ record ∈ found, record.table = name ∧ record.id = id

variable {suite : CipherSuite} {encryptor : Encryptor} {name : ProtectedTable}
  {database : Database} {found findings : List RecordError} {stored : Table Cell} {row : Row Cell}

theorem failuresInTablesHold {names : List ProtectedTable}
    (ran : failuresInTables suite encryptor database names = .ok found) (among : name ∈ names)
    (one : failuresIn suite encryptor database name = .ok findings) : findings ⊆ found := by
  induction names generalizing found with
  | nil => cases among
  | cons first rest ih =>
    obtain ⟨own, following, head, tail, rfl⟩ := failuresInTablesCons.1 ran
    rcases List.mem_cons.1 among with rfl | later
    · cases head.symm.trans one
      exact List.subset_append_left _ _
    · exact List.subset_append_of_subset_right _ (ih tail later)

theorem readsFull {value : ColumnValue} (held : row.value.read name = .ok (some value)) :
    Reads suite encryptor name row ↔ ∃ plaintext,
      encryptor.openColumn suite value = .ok plaintext ∧ Json.checkDocument plaintext = .ok () := by
  simp only [Reads, Reencryption.readSome held, held, false_or, Except.ok.injEq, Option.some.injEq,
    exists_and_left, exists_eq_left', Encryptor.readDocumentOk]

theorem listedUnread (ran : failures suite encryptor database = .ok found)
    (table : database.table? name = some stored) (place : row ∈ stored.rows)
    (visited : 0 < row.rowid) :
    Listed found name row.id ↔ ¬Reads suite encryptor name row := by
  constructor
  · rintro ⟨record, among, rfl, id⟩
    obtain ⟨also, known, other, held, same, unread⟩ := failuresUnread ran among
    cases table.symm.trans known
    cases Table.sameRow held place (same.trans id)
    exact unread
  · intro unread
    obtain ⟨findings, one⟩ := (failuresInTablesOk ran).1 name name.listed
    obtain ⟨also, read, known, rows, rfl⟩ := failuresInOk one
    cases table.symm.trans known
    obtain ⟨seen, among, as⟩ :=
      pairedLeft (readRowsPaired rows) (Table.memAfter.2 ⟨place, visited⟩)
    cases failed : failure? suite encryptor name seen with
    | none => exact (unread ((failureNone as).1 failed)).elim
    | some record =>
      obtain ⟨table, id⟩ := failureNames failed
      have here := List.mem_filterMap.2 ⟨seen, among, failed⟩
      exact ⟨record, failuresInTablesHold ran name.listed one here, table, id.trans as.2.1⟩

end Verification

namespace Records

variable {suite : CipherSuite} {encryptor : Encryptor} {name : ProtectedTable} {id : String}
  {world : Surroundings} {vault : Vault} {stored : Table Cell} {row : Row Cell}

def documentOf (suite : CipherSuite) (encryptor : Encryptor) (name : ProtectedTable) (id : String)
    (value : ColumnValue) : Except RecordStoreError Json :=
  match encryptor.openColumn suite value with
  | .error cause => .error (.sealing ⟨name, id, cause⟩)
  | .ok plaintext => (Json.ofBytes? plaintext).mapError (.json name id)

theorem getFound (table : vault.database.table? name = some stored) (place : row ∈ stored.rows) :
    (get suite encryptor name row.id world vault).1 =
      match row.value.read name with
      | .error fault => .error (.database fault)
      | .ok none => .ok none
      | .ok (some value) => (documentOf suite encryptor name row.id value).map some := by
  have reached : Records.table name world vault = (.ok stored, vault) := by
    simp [Records.table, Database.protectedTable, table, Except.mapError]
  have held : raw name row.id world vault =
      ((row.value.read name).mapError .database, vault) := by
    rw [raw, Action.bindOfOk reached, Table.findOfMem place]
    rfl
  rw [get]
  cases read : row.value.read name with
  | error fault =>
    rw [read] at held
    rw [Action.bindOfError held]
  | ok value =>
    rw [read] at held
    rw [Action.bindOfOk held]
    cases value with
    | none => rfl
    | some value =>
      simp only [documentOf]
      cases encryptor.openColumn suite value with
      | error cause => rfl
      | ok plaintext =>
        simp only [Except.mapError, Action.bindOfExceptOk]
        cases Json.ofBytes? plaintext <;> rfl

/-- A verification and a read tell the same of a row, unless the fault of its document is one that
its form does not show. -/
theorem verifiedReads {found : List RecordError} {after : Vault}
    (verified : verifyAll suite encryptor world vault = (.ok found, after))
    (table : after.database.table? name = some stored) (place : row ∈ stored.rows)
    (visited : 0 < row.rowid) (later : Surroundings) :
    match (get suite encryptor name row.id later after).1 with
    | .ok _ => ¬Verification.Listed found name row.id
    | .error error => Verification.Listed found name row.id ∨
        ∃ fault, error = .json name row.id fault ∧ fault.fault.ofBuilding := by
  obtain ⟨ran, rfl⟩ := Prod.mk.inj verified
  rw [getFound table place, Verification.listedUnread ran table place visited]
  obtain ⟨also, known, each⟩ := Verification.failuresReadable ran name
  cases table.symm.trans known
  obtain ⟨value, read⟩ := each row (Table.memAfter.2 ⟨place, visited⟩)
  rw [read]
  cases value with
  | none => exact not_not_intro (.inl (Reencryption.readNull.1 read))
  | some value =>
    rw [Verification.readsFull read]
    simp only
    cases opened : encryptor.openColumn suite value with
    | error cause =>
      rw [documentOf, opened]
      exact Or.inl nofun
    | ok plaintext =>
      have told : documentOf suite encryptor name row.id value =
          (Json.ofBytes? plaintext).mapError (.json name row.id) := by
        rw [documentOf, opened]
      rw [told]
      cases built : Json.ofBytes? plaintext with
      | ok document => exact not_not_intro ⟨plaintext, rfl, Json.checkBuilt built⟩
      | error fault =>
        cases checked : Json.checkDocument plaintext with
        | ok => exact Or.inr ⟨fault, rfl, Json.faultUnseen built checked⟩
        | error unformed =>
          refine Or.inl ?_
          rintro ⟨_, ⟨⟩, fine⟩
          cases checked.symm.trans fine

end Records

namespace OverflowingNumber

def text : Bytes := .ofText "1e999"

def row : Row Cell := ⟨1, "x", .ofColumn (.blob text)⟩

def instances : Table Cell := ⟨[row], by simp, by simp⟩

def vault : Vault :=
  .ofDatabase (Database.empty.setTable .instanceDetails (some instances))

def fault : Json.Error := ⟨.numberOutOfRange, some ⟨1, 5⟩⟩

theorem rowPlace : row ∈ instances.rows := List.mem_singleton_self row

theorem textUnbuilt : Json.ofBytes? text = .error fault := by
  rw [Json.ofBytes?, Json.readValue.eq_def]
  rfl

theorem overflowVerified : verifyAll .standard .noop FirstSetup.world vault = (.ok [], vault) := rfl

theorem overflowUnread (world : Surroundings) :
    (Records.get .standard .noop .instanceDetails "x" world vault).1 =
      .error (.json .instanceDetails "x" fault) := by
  have opened : Records.documentOf .standard .noop .instanceDetails "x" (.blob text) =
      .error (.json .instanceDetails "x" fault) := by
    show (Json.ofBytes? text).mapError (RecordStoreError.json .instanceDetails "x") = _
    rw [textUnbuilt]
    rfl
  refine (Records.getFound rfl rowPlace).trans ?_
  show (Records.documentOf .standard .noop .instanceDetails "x" (.blob text)).map some = _
  rw [opened]
  rfl

theorem overflowUnlisted :
    verifyAll .standard .noop FirstSetup.world vault = (.ok [], vault) ∧
    vault.database.table? .instanceDetails = some instances ∧ row ∈ instances.rows ∧
    0 < row.rowid ∧ row.value ≠ .null ∧ ¬Verification.Listed [] .instanceDetails row.id ∧
    (Records.get .standard .noop .instanceDetails row.id FirstSetup.world vault).1 =
      .error (.json .instanceDetails row.id fault) :=
  ⟨overflowVerified, rfl, rowPlace, by decide, nofun, nofun, overflowUnread _⟩

theorem overflowOfBuilding : ∃ error,
    (Records.get .standard .noop .instanceDetails row.id FirstSetup.world vault).1 = .error error ∧
    ∃ fault, error = .json .instanceDetails row.id fault ∧ fault.fault.ofBuilding := by
  have table : vault.database.table? .instanceDetails = some instances := rfl
  have told := Records.verifiedReads overflowVerified table rowPlace (by decide) FirstSetup.world
  have unread := overflowUnread FirstSetup.world
  refine ⟨_, unread, ?_⟩
  rw [show row.id = "x" from rfl, unread] at told
  exact told.resolve_left nofun

end OverflowingNumber
end BrokerVault
