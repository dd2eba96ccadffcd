import BrokerVault.Proofs.Restart.Midway

/-! A rotation among runs that are stopped and started again. It may meet values that an earlier run
has resealed; it reads them back as the documents they were, and what it leaves is the same wherever
the earlier runs were stopped. -/
namespace BrokerVault.Restart

open Reconciliation Reencryption

variable {suite : CipherSuite} {settings : Settings} {Worlds : Surroundings → Prop}
  {base : Database} {basis : Basis suite settings Worlds base} {world : Surroundings}
  {name : ProtectedTable} {encryptors : List Encryptor} {writer : Encryptor}

namespace Basis

def rotation (basis : Basis suite settings Worlds base) (writer : Encryptor)
    (encryptors : List Encryptor) : Encryptor :=
  .compound writer (encryptors ++ plainReader basis.sole settings.passwords)

theorem readsStored (readers : Readers suite settings Worlds base encryptors) {value : ColumnValue}
    (stored : Stores base name value) {document : Bytes} :
    (basis.rotation writer encryptors).readDocument suite value = .ok document ↔
      basis.reader.readDocument suite value = .ok document := by
  rw [Encryptor.readDocumentOk, Encryptor.readDocumentOk, rotation, reader,
    readAlike basis.separated readers basis.keyed stored]

theorem Moved.reads {row changed : Row Cell} {stored : Table Cell}
    (moved : basis.Moved writer name row changed) (table : base.table? name = some stored)
    (place : row ∈ stored.rows) (leaf : writer.IsLeaf)
    (readers : Readers suite settings Worlds base encryptors)
    (own : writer ∈ encryptors ++ plainReader basis.sole settings.passwords) :
    ∃ value document sealedValue, row.value.read name = .ok (some value) ∧
      basis.reader.readDocument suite value = .ok document ∧
      changed.value.read name = .ok (some sealedValue) ∧
      (basis.rotation writer encryptors).readDocument suite sealedValue = .ok document ∧
      writer.openColumn suite sealedValue = .ok document := by
  cases moved with
  | @intro value document _ moment sealedValue visited held read allowed written =>
    have documented := Basis.document ⟨stored, row, table, place, held⟩ read
    have back := readsBack basis.law basis.separated readers (fun _ => plainReaderNoop) own
      documented allowed written writer
    exact ⟨value, document, sealedValue, held, read, sealedRead written,
      Encryptor.readDocumentOk.2 ⟨back, (Encryptor.readDocumentOk.1 read).2⟩,
      Encryptor.openSealedColumn basis.law leaf written⟩

theorem Progress.reread {row changed : Row Cell} {stored : Table Cell} {value : ColumnValue}
    {document : Bytes} (progress : basis.Progress writer name row changed)
    (table : base.table? name = some stored) (place : row ∈ stored.rows) (leaf : writer.IsLeaf)
    (readers : Readers suite settings Worlds base encryptors)
    (own : writer ∈ encryptors ++ plainReader basis.sole settings.passwords)
    (held : changed.value.read name = .ok (some value))
    (read : (basis.rotation writer encryptors).readDocument suite value = .ok document) :
    ∃ old, row.value.read name = .ok (some old) ∧
      basis.reader.readDocument suite old = .ok document := by
  rcases progress with rfl | moved
  · exact ⟨value, held, (readsStored readers ⟨stored, changed, table, place, held⟩).1 read⟩
  · obtain ⟨old, found, sealedValue, oldHeld, oldRead, sealedHeld, back, _⟩ :=
      moved.reads table place leaf readers own
    rw [sealedHeld] at held
    cases held
    rw [back] at read
    cases read
    exact ⟨old, oldHeld, oldRead⟩

theorem Progress.place {row changed : Row Cell} (progress : basis.Progress writer name row changed) :
    changed.rowid = row.rowid ∧ changed.id = row.id := by
  rcases progress with rfl | moved
  · exact ⟨rfl, rfl⟩
  · cases moved
    exact ⟨rfl, rfl⟩

theorem Progress.resealed {row changed again : Row Cell} {stored : Table Cell}
    (progress : basis.Progress writer name row changed)
    (table : base.table? name = some stored) (place : row ∈ stored.rows) (leaf : writer.IsLeaf)
    (readers : Readers suite settings Worlds base encryptors)
    (own : writer ∈ encryptors ++ plainReader basis.sole settings.passwords)
    (allowed : Worlds world) (visited : 0 < changed.rowid)
    (step : Resealed suite (basis.rotation writer encryptors) world name changed again) :
    again = row ∧ row.value = .null ∨ basis.Moved writer name row again := by
  have samePlace := progress.place
  cases step with
  | null empty =>
    rcases progress with rfl | moved
    · exact .inl ⟨rfl, empty⟩
    · cases moved with
      | @intro _ _ _ _ sealedValue => cases sealedValue <;> cases empty
  | value held read written =>
    -- What an earlier run resealed is read back, so the document is the one that was read first.
    obtain ⟨old, oldHeld, oldRead⟩ := progress.reread table place leaf readers own held read
    rw [rotation, Encryptor.sealCompound] at written
    have moved : basis.Moved writer name row _ :=
      .intro (samePlace.1 ▸ visited) oldHeld oldRead allowed written
    rw [← samePlace.1, ← samePlace.2] at moved
    exact .inr moved

def Rewriting (basis : Basis suite settings Worlds base) (writer : Encryptor)
    (table : Table Credential) (database : Database) : Prop :=
  database.credentials = some table ∧ Across (basis.Progress writer) base database

theorem rewritingSurvives {longer : Table Credential} (leaf : writer.IsLeaf)
    (readers : Readers suite settings Worlds base encryptors)
    (own : writer ∈ encryptors ++ plainReader basis.sole settings.passwords)
    (allowed : Worlds world) :
    Survives suite (basis.rotation writer encryptors) world (basis.Rewriting writer longer) := by
  intro database name stored changed rewriting table each
  obtain ⟨found, tables⟩ := rewriting
  refine ⟨(Database.credentialsSet _ _ _).trans found, fun other => ?_⟩
  obtain ⟨first, now, was, is, rows⟩ := tables other
  by_cases same : other = name
  · subst same
    rw [table] at is
    cases is
    refine ⟨first, changed, was, by simp, (pairedThrough rows each).imp ?_⟩
    rintro row again ⟨place, middle, progress, rfl | ⟨visited, step⟩⟩
    · exact progress
    · rcases progress.resealed was place leaf readers own allowed visited step with ⟨rfl, _⟩ | moved
      · exact .inl rfl
      · exact .inr moved
  · exact ⟨first, now, was, by rw [Database.tableSet, if_neg same, is], rows⟩

theorem Moved.carried {row changed : Row Cell} (moved : basis.Moved writer name row changed)
    (leaf : writer.IsLeaf) : Carried suite basis.reader writer name row changed := by
  cases moved with
  | intro visited held read _ written =>
    exact .moved visited rfl rfl held read (sealedRead written)
      (Encryptor.openSealedColumn basis.law leaf written)

theorem carriedAcross {database left : Database} (leaf : writer.IsLeaf)
    (readers : Readers suite settings Worlds base encryptors)
    (own : writer ∈ encryptors ++ plainReader basis.sole settings.passwords)
    (allowed : Worlds world) (tables : Across (basis.Progress writer) base database)
    (rewritten : Across (Rewritten suite (basis.rotation writer encryptors) world) database left) :
    Across (Carried suite basis.reader writer) base left := by
  intro name
  obtain ⟨stored, middle, was, between, rows⟩ := tables name
  obtain ⟨found, changed, also, is, steps⟩ := rewritten name
  rw [between] at also
  cases also
  refine ⟨stored, changed, was, is, (pairedThrough rows steps).imp ?_⟩
  rintro row again ⟨place, one, progress, ⟨low, rfl⟩ | ⟨visited, step⟩⟩
  · rcases progress with rfl | moved
    · exact .kept (.inl low)
    · cases moved with
      | intro visited =>
        exact absurd visited (Int.not_lt.2 low)
  · rcases progress.resealed was place leaf readers own allowed visited step with ⟨rfl, null⟩ | moved
    · exact .kept (.inr null)
    · exact moved.carried leaf

theorem progressResealable {database : Database} {rows : List (Row Credential)} (due : basis.Due)
    (chosen : Chosen suite rows settings.passwords writer)
    (readers : Readers suite settings Worlds base encryptors)
    (own : writer ∈ encryptors ++ plainReader basis.sole settings.passwords)
    (tables : Across (basis.Progress writer) base database) :
    ∀ name, ∃ stored, database.table? name = some stored ∧
      ∀ row ∈ stored.after 0, Resealable suite (basis.rotation writer encryptors) name row := by
  intro name
  obtain ⟨stored, changed, was, is, each⟩ := tables name
  refine ⟨changed, is, fun again found => ?_⟩
  obtain ⟨place, visited⟩ := Table.memAfter.1 found
  obtain ⟨row, origin, progress⟩ := pairedRight each place
  obtain ⟨first, also, readable⟩ := (basis.turning due).2 name
  rw [was] at also
  cases also
  have visitedRow : row ∈ stored.after 0 :=
    Table.memAfter.2 ⟨origin, progress.place.1 ▸ visited⟩
  have seals : ∀ document, (∀ nonce : BytesOf nonceLength, ∃ sealedValue,
      writer.sealColumn suite name.format (some nonce) document = .ok sealedValue) →
      ∀ nonce : BytesOf nonceLength, ∃ sealedValue, (basis.rotation writer encryptors).sealColumn
        suite name.format (some nonce) document = .ok sealedValue := by
    intro document each nonce
    obtain ⟨sealedValue, written⟩ := each nonce
    exact ⟨sealedValue, (Encryptor.sealCompound _ _ _ _ _).trans written⟩
  rcases progress with rfl | moved
  · rcases readable again visitedRow with null | ⟨value, document, held, read, sealable⟩
    · exact .inl null
    · have now : (basis.rotation writer encryptors).readDocument suite value = .ok document :=
        (readsStored readers ⟨stored, again, was, origin, held⟩).2 read
      exact .inr ⟨value, document, held, now,
        seals document fun nonce => sealable rows writer nonce chosen⟩
  · obtain ⟨value, document, sealedValue, held, read, sealedHeld, now, _⟩ :=
      moved.reads was origin chosen.leaf readers own
    rcases readable row visitedRow with null | ⟨other, otherDocument, otherHeld, otherRead, sealable⟩
    · exact absurd null (readSome held)
    · rw [otherHeld] at held
      cases held
      cases otherRead.symm.trans read
      exact .inr ⟨sealedValue, document, sealedHeld, now,
        seals document fun nonce => sealable rows writer nonce chosen⟩

section Planned

variable {vault after : Vault} {before longer : Table Credential} {sole : Option String}
  {new : List (Row Credential)} {plan : Reconciliation}

theorem dueRotation
    (founded : Founded suite world settings before longer sole new encryptors plan)
    (due : basis.Due) (primaries : Credentials.primaryLabels longer = basis.sole.toList) :
    plan.rotation = some (basis.rotation plan.encryptor encryptors) := by
  rw [founded.rotation, founded.soleIs primaries, if_neg due, rotation]

theorem Settled.noRotation
    (founded : Founded suite world settings before longer sole new encryptors plan)
    {database : Database} (settled : basis.Settled plan.encryptor longer database) :
    plan.rotation = none := by
  rw [founded.rotation]
  refine if_pos ?_
  cases settled with
  | promoted due labels primaries =>
    rw [founded.soleIs (primaries.trans (wantedList basis.accepted)), primaryLabel]
  | resting rested labels primaries =>
    rw [founded.soleIs primaries]
    exact not_not.1 rested

theorem rotatingMidway {result : Except SetupError Nat}
    (founded : Founded suite world settings before longer sole new encryptors plan)
    (found : vault.database.credentials = some longer) (known : ∀ row ∈ longer.rows, basis.Known row)
    (due : basis.Due) (labels : longer.rows.map (·.id) = basis.labels)
    (primaries : Credentials.primaryLabels longer = basis.sole.toList)
    (tables : Across (basis.Progress plan.encryptor) base vault.database) (allowed : Worlds world)
    (ran : Setup.Rotating suite world plan (basis.rotation plan.encryptor encryptors) vault result
      after) :
    vault.Leads basis.Midway after ∧ ∀ count, result = .ok count → ∃ changed,
      after.database.credentials = some changed ∧ (∀ row ∈ changed.rows, basis.Known row) ∧
      List.Forall₂ Credentials.SameKey longer.rows changed.rows ∧
      basis.Settled plan.encryptor changed after.database := by
  have leaf := founded.chosen.leaf
  have readers := readersOfFounded founded known
  have own := founded.ownReader
  rw [founded.soleIs primaries] at own
  have survives : Survives suite (basis.rotation plan.encryptor encryptors) world
      (basis.Rewriting plan.encryptor longer) := rewritingSurvives leaf readers own allowed
  have midway : ∀ database, basis.Rewriting plan.encryptor longer database →
      basis.Midway database := fun database rewriting =>
    ⟨longer, rewriting.1, known, .rewriting due labels primaries founded.chosen rewriting.2⟩
  have start : basis.Rewriting plan.encryptor longer vault.database := ⟨found, tables⟩
  cases ran with
  | refused =>
    exact ⟨Vault.leadsSame (midway _ start) rfl rfl, fun _ wrong => nomatch wrong⟩
  | broken _ ran =>
    exact ⟨((rewriteAllRan ran).2 _ survives start).mono midway, fun _ wrong => nomatch wrong⟩
  | unpromoted _ ran promotion =>
    have leads := (rewriteAllRan ran).2 _ survives start
    obtain ⟨changed, _, database, onward, _, same⟩ :=
      founded.promotion basis.accepted leads.present.1 promotion
    rw [same _ rfl, Database.withCredentialsSame leads.present.1] at database
    have here := midway _ leads.present
    refine ⟨(leads.mono midway).trans (onward _ here (database ▸ here)), ?_⟩
    exact fun _ wrong => nomatch wrong
  | promoted _ ran promotion =>
    have leads := (rewriteAllRan ran).2 _ survives start
    obtain ⟨changed, keys, database, onward, promoted, _⟩ :=
      founded.promotion basis.accepted leads.present.1 promotion
    have knownNow : ∀ row ∈ changed.rows, basis.Known row := by
      intro row place
      obtain ⟨old, before, same⟩ := pairedRight keys place
      exact (known old before).sameKey same
    have carried := carriedAcross leaf readers own allowed tables (rewriteAllWhole ran).2.2
    have settled : basis.Settled plan.encryptor changed after.database := by
      refine .promoted due (.inl ?_) (promoted rfl) fun name => ?_
      · exact (Credentials.sameLabels keys).trans labels
      · rw [database]
        simpa only [Database.tableOfWith] using carried name
    have credentials : after.database.credentials = some changed := by
      rw [database, Database.credentialsOfWith]
    have here : basis.Midway after.database :=
      ⟨changed, credentials, knownNow, settled.stage (founded.chosen.sameKey keys)⟩
    refine ⟨(leads.mono midway).trans (onward _ (midway _ leads.present) here), fun _ _ => ?_⟩
    exact ⟨changed, credentials, knownNow, keys, settled⟩

end Planned

end Basis
end BrokerVault.Restart
