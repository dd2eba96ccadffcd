import BrokerVault.Database.Records
import BrokerVault.Proofs.History.Trust

/-! The documents that were put, and the rows that hold them. Every document has its row and every
row its document; putting one, through an encryptor whose key is stored, keeps them all. -/
namespace BrokerVault.History

open Reencryption

def Documents := ProtectedTable → String → Option Bytes

namespace Documents

def none : Documents := fun _ _ => Option.none

def put (documents : Documents) (name : ProtectedTable) (id : String) (document : Bytes) : Documents :=
  fun other label => if other = name ∧ label = id then some document else documents other label

end Documents

def Kept (documents : Documents) (relation : ProtectedTable → Row Cell → Bytes → Prop)
    (database : Database) : Prop :=
  ∀ name, ∃ table, database.table? name = some table ∧
    (∀ id document, documents name id = some document → id ∈ table.rows.map (·.id)) ∧
    ∀ row ∈ table.rows, ∃ document, documents name row.id = some document ∧ relation name row document

structure Holding (suite : CipherSuite) (scope : Scope) (secrets : String → Option String)
    (credentials : List (Row Credential)) (name : ProtectedTable) (row : Row Cell)
    (document : Bytes) : Prop where
  visited : 0 < row.rowid
  held : ∃ value, row.value.read name = .ok (some value) ∧
    Held suite scope secrets credentials name.format document value

structure Whole (suite : CipherSuite) (scope : Scope) (secrets : String → Option String)
    (documents : Documents) (credentials : Table Credential) (database : Database) : Prop where
  found : database.credentials = some credentials
  introduced : ∀ row ∈ credentials.rows, Introduced suite scope secrets row
  texts : ∀ name id document, documents name id = some document → scope.texts document
  kept : Kept documents (Holding suite scope secrets credentials.rows) database

variable {suite : CipherSuite} {scope : Scope} {secrets : String → Option String}
  {documents : Documents} {database other : Database} {name : ProtectedTable}
  {relation weaker : ProtectedTable → Row Cell → Bytes → Prop} {credentials : Table Credential}

theorem Kept.imp (kept : Kept documents relation database)
    (implies : ∀ name table row document, database.table? name = some table → row ∈ table.rows →
      documents name row.id = some document → relation name row document → weaker name row document) :
    Kept documents weaker database := by
  intro name
  obtain ⟨table, found, rows, each⟩ := kept name
  refine ⟨table, found, rows, fun row place => ?_⟩
  obtain ⟨document, put, holds⟩ := each row place
  exact ⟨document, put, implies name table row document found place put holds⟩

theorem Kept.sameTables (kept : Kept documents relation database)
    (same : ∀ name, other.table? name = database.table? name) : Kept documents relation other := by
  intro name
  rw [same name]
  exact kept name

theorem Kept.changed {step : Row Cell → Row Cell → Prop} {stored changed : Table Cell}
    (kept : Kept documents relation database) (table : database.table? name = some stored)
    (rows : List.Forall₂ step stored.rows changed.rows)
    (ids : ∀ row new, step row new → new.id = row.id)
    (holds : ∀ row new document, documents name row.id = some document → step row new →
      relation name row document → relation name new document) :
    Kept documents relation (database.setTable name (some changed)) := by
  intro other
  rw [Database.tableSet]
  by_cases same : other = name
  · subst same
    obtain ⟨found, here, all, each⟩ := kept other
    rw [table] at here
    cases here
    refine ⟨changed, if_pos rfl, fun id document put => ?_, fun new place => ?_⟩
    · obtain ⟨row, place, rfl⟩ := List.mem_map.1 (all id document put)
      obtain ⟨new, newPlace, stepped⟩ := pairedLeft rows place
      exact List.mem_map.2 ⟨new, newPlace, ids row new stepped⟩
    · obtain ⟨row, place, stepped⟩ := pairedRight rows place
      obtain ⟨document, put, held⟩ := each row place
      exact ⟨document, ids row new stepped ▸ put, holds row new document put stepped held⟩
  · rw [if_neg same]
    exact kept other

theorem Kept.put {stored : Table Cell} {id : String} {document : Bytes} {cell : Cell}
    (kept : Kept documents relation database) (table : database.table? name = some stored)
    (numbered : ∀ row ∈ stored.rows, 0 < row.rowid)
    (holds : ∀ rowid, 0 < rowid → relation name ⟨rowid, id, cell⟩ document) :
    Kept (documents.put name id document) relation
      (database.setTable name (some (stored.upsert id cell))) := by
  intro other
  rw [Database.tableSet]
  by_cases same : other = name
  · subst same
    obtain ⟨found, here, all, each⟩ := kept other
    rw [table] at here
    cases here
    refine ⟨_, if_pos rfl, ?_⟩
    have putHere : documents.put other id document other id = some document :=
      if_pos ⟨rfl, rfl⟩
    have putElsewhere : ∀ label, label ≠ id →
        documents.put other id document other label = documents other label :=
      fun label differ => if_neg fun both => differ both.2
    have others : ∀ row ∈ stored.rows, row.id ≠ id → ∃ held,
        documents.put other id document other row.id = some held ∧ relation other row held := by
      intro row place differ
      rw [putElsewhere _ differ]
      exact each row place
    rcases stored.upsertRows id cell with ⟨absent, rows⟩ | ⟨front, row, back, rfl, layout, rows⟩
    · rw [rows]
      refine ⟨fun label held found => ?_, fun row place => ?_⟩
      · by_cases here : label = id
        · simp [here]
        · rw [putElsewhere label here] at found
          rw [List.map_append]
          exact List.mem_append_left _ (all label held found)
      · rcases List.mem_append.1 place with old | new
        · exact others row old (Table.findNone absent row old)
        · rw [List.mem_singleton.1 new]
          exact ⟨document, putHere, holds _ (stored.nextPositive numbered)⟩
    · obtain ⟨ahead, behind⟩ := Table.othersDiffer layout
      rw [rows]
      refine ⟨fun label held found => ?_, fun changed place => ?_⟩
      · by_cases here : label = row.id
        · simp [here]
        · rw [putElsewhere label here] at found
          simpa [layout] using all label held found
      · rcases List.mem_append.1 place with before | after
        · exact others changed (layout ▸ List.mem_append_left _ before) (ahead changed before)
        · rcases List.mem_cons.1 after with rfl | after
          · exact ⟨document, putHere, holds _ (numbered row (by simp [layout]))⟩
          · have old : changed ∈ stored.rows := by simp [layout, after]
            exact others changed old (behind changed after)
  · rw [if_neg same]
    obtain ⟨found, here, all, each⟩ := kept other
    have elsewhere : ∀ label, documents.put name id document other label = documents other label :=
      fun label => if_neg fun both => same both.1
    simp only [elsewhere]
    exact ⟨found, here, all, each⟩

theorem putRan {writer : Encryptor} {id : String} {document : Json} {world : Surroundings}
    {vault after : Vault} {result : Except RecordStoreError Unit}
    (ran : Records.put suite writer name id document world vault = (result, after)) :
    (∃ error, result = .error error ∧ after.database = vault.database) ∨
    ∃ value stored, result = .ok () ∧
      writer.sealColumn suite name.format (world.random vault.moment nonceLength)
        (.ofText document.text) = .ok value ∧
      vault.database.table? name = some stored ∧
      after.database = vault.database.setTable name (some (stored.upsert id (.ofColumn value))) := by
  rw [Records.put, Action.bindRandom] at ran
  cases written : writer.sealColumn suite name.format (world.random vault.moment nonceLength)
      (.ofText document.text) with
  | error cause =>
    rw [written, Except.mapError, Action.bindOfError rfl] at ran
    cases ran
    exact .inl ⟨_, rfl, rfl⟩
  | ok value =>
    rw [written, Except.mapError, Action.bindOfOk rfl] at ran
    cases found : vault.database.table? name with
    | none =>
      have missing : Records.table name world { vault with moment := vault.moment + 1 } =
          (.error (.database (.missingTable name.name)), { vault with moment := vault.moment + 1 }) := by
        rw [Records.table, Action.bindDatabase, Database.protectedTable, found]
        rfl
      rw [Action.bindOfError missing] at ran
      cases ran
      exact .inl ⟨_, rfl, rfl⟩
    | some stored =>
      have looked : Records.table name world { vault with moment := vault.moment + 1 } =
          (.ok stored, { vault with moment := vault.moment + 1 }) := by
        rw [Records.table, Action.bindDatabase, Database.protectedTable, found]
        rfl
      rw [Action.bindOfOk looked] at ran
      cases ran
      exact .inr ⟨value, stored, rfl, rfl, rfl, rfl⟩

namespace Whole

theorem visited {stored : Table Cell}
    (whole : Whole suite scope secrets documents credentials database)
    (table : database.table? name = some stored) : ∀ row ∈ stored.rows, 0 < row.rowid := by
  intro row place
  obtain ⟨found, here, _, each⟩ := whole.kept name
  rw [table] at here
  cases here
  obtain ⟨_, _, holding⟩ := each row place
  exact holding.visited

theorem put {writer : Encryptor} {id : String} {document : Json} {world : Surroundings}
    {vault after : Vault}
    (whole : Whole suite scope secrets documents credentials vault.database)
    (holder : Holder suite secrets credentials.rows writer) (allowed : scope.worlds world)
    (text : scope.texts (.ofText document.text))
    (ran : Records.put suite writer name id document world vault = (.ok (), after)) :
    Whole suite scope secrets (documents.put name id (.ofText document.text)) credentials
      after.database := by
  rcases putRan ran with ⟨_, wrong, _⟩ | ⟨value, stored, _, written, table, database⟩
  · cases wrong
  rw [database]
  refine ⟨by rw [Database.credentialsSet, whole.found], whole.introduced, fun other label held put => ?_,
    whole.kept.put table (whole.visited table) fun rowid positive => ⟨positive, value,
      sealedRead written, holder.held allowed written⟩⟩
  rw [Documents.put] at put
  split at put
  · cases put
    exact text
  · exact whole.texts other label held put

end Whole
end BrokerVault.History
