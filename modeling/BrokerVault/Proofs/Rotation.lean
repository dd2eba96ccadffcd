import BrokerVault.Proofs.Phases

/-! A rotation that goes through. Every visited value is sealed anew and opens to what was read before,
all other rows are as they were, and the configured labels alone are stored, the configured primary
among them. -/
namespace BrokerVault

open Reencryption Reconciliation

variable {suite : CipherSuite} {world : Surroundings} {name : ProtectedTable}

theorem filledInWith (database : Database) (stored : Table Credential) :
    filledIn (database.withCredentials stored) = filledIn database :=
  funext fun name => by rw [filledIn, Database.tableOfWith, filledIn]

theorem Encryptor.readDocumentOk {encryptor : Encryptor} {value : ColumnValue} {plaintext : Bytes} :
    encryptor.readDocument suite value = .ok plaintext ↔
      encryptor.openColumn suite value = .ok plaintext ∧ Json.checkDocument plaintext = .ok () := by
  unfold readDocument
  cases opened : encryptor.openColumn suite value with
  | error cause => simp
  | ok found =>
    cases checked : Json.checkDocument found with
    | error error =>
      simp only [checked, reduceCtorEq, Except.ok.injEq, false_iff, not_and]
      rintro rfl
      simp [checked]
    | ok =>
      simp only [checked, Except.ok.injEq]
      exact ⟨fun same => ⟨same, same ▸ checked⟩, fun both => both.1⟩

theorem sealedRead {encryptor : Encryptor} {nonce : Option (BytesOf nonceLength)} {plaintext : Bytes}
    {value : ColumnValue}
    (ran : encryptor.sealColumn suite name.format nonce plaintext = .ok value) :
    (Cell.ofColumn value).read name = .ok (some value) := by
  cases format : name.format with
  | blob =>
    cases written : encryptor.encrypt suite nonce plaintext with
    | error cause => simp [Encryptor.sealColumn, format, written, Except.map] at ran
    | ok bytes =>
      simp only [Encryptor.sealColumn, format, written, Except.map] at ran
      cases ran
      simp only [Cell.ofColumn, Cell.read, format]
  | text =>
    cases written : encryptor.encryptText suite nonce plaintext with
    | error cause => simp [Encryptor.sealColumn, format, written, Except.map] at ran
    | ok bytes =>
      simp only [Encryptor.sealColumn, format, written, Except.map] at ran
      cases ran
      simp only [Cell.ofColumn, Cell.read, format]

/-- A row across a rotation: what one encryptor read before, the other opens now. -/
inductive Carried (suite : CipherSuite) (reader writer : Encryptor) (name : ProtectedTable) :
    Row Cell → Row Cell → Prop where
  | kept {row} (left : row.rowid ≤ 0 ∨ row.value = .null) : Carried suite reader writer name row row
  | moved {row changed value sealedValue plaintext} (visited : 0 < row.rowid)
      (rowid : changed.rowid = row.rowid) (id : changed.id = row.id)
      (held : row.value.read name = .ok (some value))
      (read : reader.readDocument suite value = .ok plaintext)
      (holds : changed.value.read name = .ok (some sealedValue))
      (opens : writer.openColumn suite sealedValue = .ok plaintext) :
      Carried suite reader writer name row changed

theorem carriedOfRewritten (law : suite.OpensSealed) {writer : Encryptor}
    {readers : List Encryptor} (leaf : writer.IsLeaf) {row changed : Row Cell}
    (step : Rewritten suite (.compound writer readers) world name row changed) :
    Carried suite (.compound writer readers) writer name row changed := by
  rcases step with ⟨left, rfl⟩ | ⟨visited, resealed⟩
  · exact .kept (.inl left)
  · cases resealed with
    | null empty => exact .kept (.inr empty)
    | value held opened written =>
      rw [Encryptor.sealCompound] at written
      exact .moved visited rfl rfl held opened (sealedRead written)
        (Encryptor.openSealedColumn law leaf written)

theorem Carried.reads {reader writer : Encryptor} {row changed : Row Cell}
    (carried : Carried suite reader writer name row changed) (visited : 0 < changed.rowid) :
    Verification.Reads suite writer name changed := by
  cases carried with
  | kept left =>
    rcases left with low | null
    · omega
    · exact .inl null
  | moved _ _ _ _ read holds opens =>
    have document := (Encryptor.readDocumentOk.1 read).2
    exact .inr ⟨_, _, holds, Encryptor.readDocumentOk.2 ⟨opens, document⟩⟩

namespace Setup

variable {settings : Settings} {vault after : Vault} {before longer : Table Credential}
  {sole : Option String} {new : List (Row Credential)} {encryptors : List Encryptor}
  {plan : Reconciliation} {rotation : Encryptor}

theorem promotedRan (law : suite.OpensSealed) (accepted : Password.Accepted settings.passwords)
    (founded : Founded suite world settings before longer sole new encryptors plan)
    (due : plan.rotation = some rotation) (table : vault.database.credentials = some longer)
    {count : Nat} (ran : Rotating suite world plan rotation vault (.ok count) after) :
    count = (ProtectedTable.all.map (filledIn vault.database)).sum ∧
    (∃ changed, after.database.credentials = some changed ∧
      List.Forall₂ Credentials.SameKey longer.rows changed.rows ∧
      Credentials.primaryLabels changed = Credentials.wanted (primaryLabel settings.passwords)) ∧
    ∀ name, ∃ stored changed, vault.database.table? name = some stored ∧
      after.database.table? name = some changed ∧
      List.Forall₂ (Carried suite rotation plan.encryptor name) stored.rows changed.rows := by
  cases ran with
  | promoted checked ran promotion =>
    obtain ⟨total, credentials, tables⟩ := rewriteAllWhole ran
    obtain ⟨changed, keys, database, _, primaries, _⟩ :=
      founded.promotion accepted (credentials.trans table) promotion
    refine ⟨total, ⟨changed, ?_, keys, primaries rfl⟩, fun name => ?_⟩
    · rw [database, Database.credentialsOfWith]
    · obtain ⟨stored, rewritten, was, is, rows⟩ := tables name
      have form := founded.rotation
      rw [due] at form
      split at form
      · cases form
      · cases form
        refine ⟨stored, rewritten, was, ?_, rows.imp fun row changed step =>
          carriedOfRewritten law founded.chosen.leaf step⟩
        rw [database, Database.tableOfWith, is]

theorem allReadAfter {reader writer : Encryptor} {database left : Database}
    (tables : ∀ name, ∃ stored changed, database.table? name = some stored ∧
      left.table? name = some changed ∧
      List.Forall₂ (Carried suite reader writer name) stored.rows changed.rows) :
    Verification.AllRead suite writer left := by
  intro name
  obtain ⟨stored, changed, _, is, rows⟩ := tables name
  refine ⟨changed, is, fun row place => ?_⟩
  obtain ⟨found, visited⟩ := Table.memAfter.1 place
  obtain ⟨old, _, carried⟩ := pairedRight rows found
  exact carried.reads visited

theorem labelsLeft
    (founded : Founded suite world settings before longer sole new encryptors plan)
    {stored : Table Credential} (keys : List.Forall₂ Credentials.SameKey longer.rows stored.rows)
    (label : String) :
    label ∈ (stored.keep fun row => !plan.stale.contains row.id).rows.map (·.id) ↔
      label ∈ settings.passwords.map (·.label) := by
  rw [← founded.labels, ← Credentials.sameLabels keys]
  simp only [Table.keep, List.mem_map, List.mem_filter]
  constructor
  · rintro ⟨row, ⟨place, fresh⟩, rfl⟩
    exact ⟨⟨row, place, rfl⟩, by simpa using fresh⟩
  · rintro ⟨⟨row, place, rfl⟩, fresh⟩
    exact ⟨row, ⟨place, by simpa using fresh⟩, rfl⟩

end Setup
end BrokerVault
