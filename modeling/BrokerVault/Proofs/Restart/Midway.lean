import BrokerVault.Proofs.Restart.Separation

/-! What stands between two runs. The labels that are not stored are added one after another, then
values are resealed, then the primary moves, and at last stale labels go; wherever this stops, the
salts that matter are kept and every value is what it was, or holds the document that was read from
it. -/
namespace BrokerVault.Restart

open Reconciliation Reencryption

structure Basis (suite : CipherSuite) (settings : Settings) (Worlds : Surroundings → Prop)
    (base : Database) where
  law : suite.OpensSealed
  accepted : Password.Accepted settings.passwords
  separated : Separated suite settings Worlds base
  credentials : Table Credential
  found : base.credentials = some credentials
  sole : Option String
  alone : Credentials.primaryLabels credentials = sole.toList
  supplied : ∀ label, sole = some label → label ∈ settings.passwords.map (·.label)
  policy : settings.enabled = (settings.passwords.find? (·.primary)).isSome
  ready : ∀ entry ∈ settings.passwords, Enrollable suite credentials.rows entry
  readers : List Encryptor
  keyed : Readers suite settings Worlds base readers
  unreadable : List RecordError
  turning : primaryLabel settings.passwords ≠ sole.getD "" → unreadable = [] ∧
    ∀ name, ∃ stored, base.table? name = some stored ∧
      ∀ row ∈ stored.after 0, row.value = .null ∨
        ∃ value document, row.value.read name = .ok (some value) ∧
          (Encryptor.compound .noop (readers ++ plainReader sole settings.passwords)).readDocument
            suite value = .ok document ∧
          ∀ rows writer (nonce : BytesOf nonceLength),
            Chosen suite rows settings.passwords writer →
              ∃ sealedValue, writer.sealColumn suite name.format (some nonce) document =
                .ok sealedValue
  resting : primaryLabel settings.passwords = sole.getD "" →
    ∃ encryptor, Chosen suite credentials.rows settings.passwords encryptor ∧
      Verification.failures suite encryptor base = .ok unreadable

variable {suite : CipherSuite} {settings : Settings} {Worlds : Surroundings → Prop}
  {base : Database}

namespace Basis

variable (basis : Basis suite settings Worlds base)

def Due : Prop := primaryLabel settings.passwords ≠ basis.sole.getD ""

def reader : Encryptor :=
  .compound .noop (basis.readers ++ plainReader basis.sole settings.passwords)

def unseen : List Password :=
  settings.passwords.filter fun entry => (basis.credentials.find? entry.label).isNone

def labels : List String :=
  basis.credentials.rows.map (·.id) ++ basis.unseen.map (·.label)

def kept : List String :=
  basis.labels.filter fun label => (settings.passwords.map (·.label)).contains label

inductive Known : Row Credential → Prop where
  | old {stored row} (place : stored ∈ basis.credentials.rows)
      (same : Credentials.SameKey stored row) : Known row
  | made {entry key world row} (configured : entry ∈ settings.passwords)
      (absent : basis.credentials.find? entry.label = none) (allowed : Worlds world)
      (made : Made suite world entry key row) : Known row

inductive Moved (writer : Encryptor) (name : ProtectedTable) : Row Cell → Row Cell → Prop where
  | intro {row value document world moment sealedValue} (visited : 0 < row.rowid)
      (held : row.value.read name = .ok (some value))
      (read : basis.reader.readDocument suite value = .ok document) (allowed : Worlds world)
      (written : writer.sealColumn suite name.format (world.random moment nonceLength) document =
        .ok sealedValue) :
      Moved writer name row { row with value := .ofColumn sealedValue }

def Progress (writer : Encryptor) (name : ProtectedTable) (row changed : Row Cell) : Prop :=
  changed = row ∨ basis.Moved writer name row changed

def Across (relation : ProtectedTable → Row Cell → Row Cell → Prop) (before now : Database) : Prop :=
  ∀ name, ∃ stored changed, before.table? name = some stored ∧ now.table? name = some changed ∧
    List.Forall₂ (relation name) stored.rows changed.rows

inductive Stage (table : Table Credential) (database : Database) : Prop where
  | enrolling {done rest} (split : basis.unseen = done ++ rest)
      (labels : table.rows.map (·.id) =
        basis.credentials.rows.map (·.id) ++ done.map (·.label))
      (primaries : Credentials.primaryLabels table = basis.sole.toList)
      (tables : ∀ name, database.table? name = base.table? name)
  | rewriting {writer} (due : basis.Due) (labels : table.rows.map (·.id) = basis.labels)
      (primaries : Credentials.primaryLabels table = basis.sole.toList)
      (chosen : Chosen suite table.rows settings.passwords writer)
      (tables : Across (basis.Progress writer) base database)
  | promoted {writer} (due : basis.Due)
      (labels : table.rows.map (·.id) = basis.labels ∨ table.rows.map (·.id) = basis.kept)
      (primaries : Credentials.primaryLabels table =
        Credentials.wanted (primaryLabel settings.passwords))
      (chosen : Chosen suite table.rows settings.passwords writer)
      (tables : Across (Carried suite basis.reader writer) base database)
  | cleaned (rested : ¬basis.Due) (readable : basis.unreadable = [])
      (labels : table.rows.map (·.id) = basis.kept)
      (primaries : Credentials.primaryLabels table = basis.sole.toList)
      (tables : ∀ name, database.table? name = base.table? name)

def Midway (database : Database) : Prop :=
  ∃ table, database.credentials = some table ∧ (∀ row ∈ table.rows, basis.Known row) ∧
    basis.Stage table database

variable {basis} {table longer : Table Credential} {database : Database} {name : ProtectedTable}

theorem document {value : ColumnValue} {text : Bytes} (stored : Stores base name value)
    (read : basis.reader.readDocument suite value = .ok text) :
    Document suite settings Worlds base name text := by
  obtain ⟨opened, checked⟩ := Encryptor.readDocumentOk.1 read
  refine ⟨checked, value, stored, ?_⟩
  obtain ⟨reader, place, opens⟩ := Encryptor.openCompoundSource opened
  rcases List.mem_append.1 place with keyedReader | plain
  · obtain ⟨entry, configured, key, keyOf, rfl⟩ := pairedRight basis.keyed keyedReader
    exact .inr ⟨entry, configured, key, keyOf, opens⟩
  · rw [plainReaderNoop plain] at opens
    exact .inl opens

theorem begun : basis.Midway base :=
  ⟨basis.credentials, basis.found, fun _ place => .old place ⟨rfl, rfl, rfl⟩,
    .enrolling (List.nil_append _).symm (List.append_nil _).symm basis.alone fun _ => rfl⟩

theorem keyOfKnown {row : Row Credential} (known : basis.Known row) {entry : Password} {key : Key}
    (configured : entry ∈ settings.passwords) (label : row.id = entry.label)
    (derived : suite.derive? entry.secret row.value.salt = .ok key) :
    KeyOf suite Worlds base entry key := by
  cases known with
  | old place same => exact .ofStored basis.found place same label derived
  | made other absent allowed made =>
    cases basis.accepted.sameEntry other configured (made.id.symm.trans label)
    cases made.derived.symm.trans derived
    exact .ofMade basis.found absent allowed made

theorem Known.sameKey {row changed : Row Credential} (known : basis.Known row)
    (same : Credentials.SameKey row changed) : basis.Known changed := by
  cases known with
  | old place earlier =>
    exact .old place ⟨same.id.trans earlier.id, same.salt.trans earlier.salt,
      same.canary.trans earlier.canary⟩
  | made configured absent allowed made =>
    exact .made configured absent allowed ⟨same.id.trans made.id, same.salt.symm ▸ made.salt,
      same.salt.symm ▸ made.derived, same.canary.symm ▸ made.canary⟩

theorem readersOfFounded {world : Surroundings} {before : Table Credential} {sole : Option String}
    {new : List (Row Credential)} {encryptors : List Encryptor} {plan : Reconciliation}
    (founded : Founded suite world settings before longer sole new encryptors plan)
    (known : ∀ row ∈ longer.rows, basis.Known row) :
    Readers suite settings Worlds base encryptors := by
  refine (pairedWithin founded.held).imp ?_
  rintro entry encryptor ⟨configured, row, place, key, label, derived, rfl⟩
  exact ⟨key, keyOfKnown (known row place) configured label derived, rfl⟩

theorem unseenDistinct : (basis.unseen.map (·.label)).Nodup :=
  basis.accepted.distinct.sublist (List.filter_sublist.map _)

theorem listed {entry : Password} (configured : entry ∈ settings.passwords) :
    entry.label ∈ basis.labels := by
  by_cases stored : entry.label ∈ basis.credentials.rows.map (·.id)
  · exact List.mem_append_left _ stored
  · have unseen : entry ∈ basis.unseen :=
      List.mem_filter.2 ⟨configured, by simp [Table.absentIff.2 stored]⟩
    exact List.mem_append_right _ (List.mem_map.2 ⟨entry, unseen, rfl⟩)

theorem keptListed {entry : Password} (configured : entry ∈ settings.passwords) :
    entry.label ∈ basis.kept := by
  refine List.mem_filter.2 ⟨listed configured, ?_⟩
  simpa using ⟨entry, configured, rfl⟩

theorem missingRest {done rest : List Password} (split : basis.unseen = done ++ rest)
    (labels : table.rows.map (·.id) = basis.credentials.rows.map (·.id) ++ done.map (·.label)) :
    settings.passwords.filter (fun entry => (table.find? entry.label).isNone) = rest := by
  have distinct := basis.unseenDistinct
  rw [split, List.map_append] at distinct
  obtain ⟨_, _, apart⟩ := List.nodup_append.1 distinct
  have missing : ∀ entry : Password, (table.find? entry.label).isNone =
      (decide (entry.label ∉ done.map (·.label)) && (basis.credentials.find? entry.label).isNone) := by
    intro entry
    rw [Bool.eq_iff_iff]
    simp only [Option.isNone_iff_eq_none, Table.absentIff, labels, List.mem_append, not_or,
      Bool.and_eq_true, decide_eq_true_eq, and_comm]
  have unfiltered : settings.passwords.filter (fun entry => (table.find? entry.label).isNone) =
      basis.unseen.filter fun entry => decide (entry.label ∉ done.map (·.label)) := by
    rw [unseen, List.filter_filter]
    exact List.filter_congr fun entry _ => missing entry
  have gone : done.filter (fun entry => decide (entry.label ∉ done.map (·.label))) = [] := by
    refine List.filter_eq_nil_iff.2 fun entry place => ?_
    simpa using ⟨entry, place, rfl⟩
  have left : rest.filter (fun entry => decide (entry.label ∉ done.map (·.label))) = rest := by
    refine List.filter_eq_self.2 fun entry place => decide_eq_true fun old => ?_
    exact apart _ old _ (List.mem_map.2 ⟨entry, place, rfl⟩) rfl
  rw [unfiltered, split, List.filter_append, gone, left, List.nil_append]

theorem missingNone
    (complete : ∀ entry ∈ settings.passwords, entry.label ∈ table.rows.map (·.id)) :
    settings.passwords.filter (fun entry => (table.find? entry.label).isNone) = [] := by
  refine List.filter_eq_nil_iff.2 fun entry configured => ?_
  rw [Option.isNone_iff_eq_none, Table.absentIff]
  exact not_not_intro (complete entry configured)

theorem Stage.complete (stage : basis.Stage table database) :
    (∃ done rest, basis.unseen = done ++ rest ∧
      table.rows.map (·.id) = basis.credentials.rows.map (·.id) ++ done.map (·.label) ∧
      Credentials.primaryLabels table = basis.sole.toList ∧
      ∀ name, database.table? name = base.table? name) ∨
    ∀ entry ∈ settings.passwords, entry.label ∈ table.rows.map (·.id) := by
  cases stage with
  | enrolling split labels primaries tables =>
    exact .inl ⟨_, _, split, labels, primaries, tables⟩
  | rewriting _ labels => exact .inr fun _ configured => labels ▸ listed configured
  | promoted _ labels =>
    rcases labels with labels | labels
    · exact .inr fun _ configured => labels ▸ listed configured
    · exact .inr fun _ configured => labels ▸ keptListed configured
  | cleaned _ _ labels => exact .inr fun _ configured => labels ▸ keptListed configured

theorem Stage.keepsOld (stage : basis.Stage table database) {entry : Password}
    (configured : entry ∈ settings.passwords) (absent : table.find? entry.label = none) :
    basis.credentials.find? entry.label = none := by
  rw [Table.absentIff] at absent ⊢
  intro old
  rcases stage.complete with ⟨_, _, _, labels, _⟩ | complete
  · exact absent (labels ▸ List.mem_append_left _ old)
  · exact absent (complete entry configured)

theorem enrolledStage {world : Surroundings} {done rest : List Password}
    {new : List (Row Credential)} {encryptors : List Encryptor}
    (found : database.credentials = some table) (known : ∀ row ∈ table.rows, basis.Known row)
    (stage : basis.Stage table database) (allowed : Worlds world)
    (split : settings.passwords = done ++ rest)
    (enrolled : Enrolled suite world table.rows done new encryptors)
    (rows : longer.rows = table.rows ++ new) :
    (∀ row ∈ longer.rows, basis.Known row) ∧
      basis.Stage longer (database.withCredentials longer) := by
  have ids := enrolled.newLabels
  refine ⟨fun row place => ?_, ?_⟩
  · rw [rows] at place
    rcases List.mem_append.1 place with old | new
    · exact known row old
    · obtain ⟨entry, among, key, absent, made⟩ := enrolled.madeNew new
      have configured : entry ∈ settings.passwords := split ▸ List.mem_append_left _ among
      exact .made configured (stage.keepsOld configured absent) allowed made.toMade
  · rcases stage.complete with ⟨earlier, left, missing, labels, primaries, tables⟩ | complete
    · have remaining := missingRest missing labels
      rw [split, List.filter_append] at remaining
      have split : basis.unseen =
          (earlier ++ done.filter fun entry => (table.find? entry.label).isNone) ++
            rest.filter fun entry => (table.find? entry.label).isNone := by
        rw [missing, ← remaining, List.append_assoc]
      refine .enrolling split ?_ ((enrolled.primaries rows).trans primaries) ?_
      · rw [rows, List.map_append, labels, ids, List.map_append, List.append_assoc]
        rfl
      · exact fun name => (Database.tableOfWith _ _ _).trans (tables name)
    · have nothing := missingNone complete
      rw [split, List.filter_append, List.append_eq_nil_iff] at nothing
      have none : new = [] := by
        have empty := ids.trans (congrArg (List.map (·.label)) nothing.1)
        exact List.map_eq_nil_iff.1 empty
      rw [none, List.append_nil] at rows
      rw [Table.sameRows rows, Database.withCredentialsSame found]
      exact stage

theorem Stage.sole (stage : basis.Stage table database) :
    ∃ sole, Credentials.primaryLabels table = Option.toList sole ∧
      ∀ label, sole = some label → label ∈ settings.passwords.map (·.label) := by
  have configured : ∀ label, (settings.passwords.find? (·.primary)).map (·.label) = some label →
      label ∈ settings.passwords.map (·.label) := by
    intro label same
    obtain ⟨entry, found, rfl⟩ := Option.map_eq_some_iff.1 same
    exact List.mem_map.2 ⟨entry, List.mem_of_find?_eq_some found, rfl⟩
  cases stage with
  | enrolling _ _ primaries => exact ⟨_, primaries, basis.supplied⟩
  | rewriting _ _ primaries => exact ⟨_, primaries, basis.supplied⟩
  | promoted _ _ primaries =>
    exact ⟨_, primaries.trans (wantedList basis.accepted), configured⟩
  | cleaned _ _ _ primaries => exact ⟨_, primaries, basis.supplied⟩

theorem enrollable (known : ∀ row ∈ table.rows, basis.Known row)
    (stage : basis.Stage table database) {entry : Password}
    (configured : entry ∈ settings.passwords) : Enrollable suite table.rows entry := by
  have ready := basis.ready entry configured
  refine ⟨fun row found => ?_, fun absent => ready.fresh (stage.keepsOld configured absent)⟩
  obtain ⟨place, label⟩ := Table.findSome found
  cases known row place with
  | @old stored _ storedPlace same =>
    have storedFound : basis.credentials.find? entry.label = some stored := by
      rw [← label, same.id]
      exact Table.findOfMem storedPlace
    obtain ⟨key, text, derived, opened⟩ := ready.known stored storedFound
    exact ⟨key, text, same.salt.symm ▸ derived, same.canary.symm ▸ opened⟩
  | @made other key _ _ otherConfigured _ _ made =>
    cases basis.accepted.sameEntry otherConfigured configured (made.id.symm.trans label)
    obtain ⟨nonce, _, canary⟩ := made.canary
    exact ⟨key, _, made.derived, CipherSuite.openSealed basis.law canary⟩

inductive Settled (basis : Basis suite settings Worlds base) (writer : Encryptor)
    (table : Table Credential) (database : Database) : Prop where
  | promoted (due : basis.Due)
      (labels : table.rows.map (·.id) = basis.labels ∨ table.rows.map (·.id) = basis.kept)
      (primaries : Credentials.primaryLabels table =
        Credentials.wanted (primaryLabel settings.passwords))
      (tables : Across (Carried suite basis.reader writer) base database)
  | resting (rested : ¬basis.Due)
      (labels : table.rows.map (·.id) = basis.labels ∨
        basis.unreadable = [] ∧ table.rows.map (·.id) = basis.kept)
      (primaries : Credentials.primaryLabels table = basis.sole.toList)
      (tables : ∀ name, database.table? name = base.table? name)

theorem Stage.standing {writer : Encryptor} (stage : basis.Stage table database)
    (complete : ∀ entry ∈ settings.passwords, entry.label ∈ table.rows.map (·.id))
    (chosen : Chosen suite table.rows settings.passwords writer) :
    basis.Due ∧ table.rows.map (·.id) = basis.labels ∧
        Credentials.primaryLabels table = basis.sole.toList ∧
        Across (basis.Progress writer) base database ∨
      basis.Settled writer table database := by
  -- A run that enrolled everything may have stopped before its rotation, or had none to do.
  cases stage with
  | enrolling split labels primaries tables =>
    have none := (missingRest split labels).symm.trans (missingNone complete)
    rw [none, List.append_nil] at split
    rw [← split] at labels
    by_cases due : basis.Due
    · refine .inl ⟨due, labels, primaries, fun name => ?_⟩
      obtain ⟨stored, table, _⟩ := (basis.turning due).2 name
      exact ⟨stored, stored, table, (tables name).trans table, List.forall₂_same.2 fun _ _ => .inl rfl⟩
    · exact .inr (.resting due (.inl labels) primaries tables)
  | rewriting due labels primaries other tables =>
    cases chosen.same other
    exact .inl ⟨due, labels, primaries, tables⟩
  | promoted due labels primaries other tables =>
    cases chosen.same other
    exact .inr (.promoted due labels primaries tables)
  | cleaned rested readable labels primaries tables =>
    exact .inr (.resting rested (.inr ⟨readable, labels⟩) primaries tables)

theorem Settled.stage {writer : Encryptor} (settled : basis.Settled writer table database)
    (chosen : Chosen suite table.rows settings.passwords writer) : basis.Stage table database := by
  cases settled with
  | promoted due labels primaries tables => exact .promoted due labels primaries chosen tables
  | resting rested labels primaries tables =>
    rcases labels with labels | ⟨readable, labels⟩
    · exact .enrolling (List.append_nil _).symm labels primaries tables
    · exact .cleaned rested readable labels primaries tables

variable {world : Surroundings} {vault after : Vault}

theorem reconcileMidway {result : Except ReconcileError Reconciliation}
    (midway : basis.Midway vault.database) (allowed : Worlds world)
    (ran : reconcile suite settings.enabled settings.passwords world vault = (result, after)) :
    vault.Leads basis.Midway after ∧
    ∀ plan, result = .ok plan → ∃ before longer sole new encryptors,
      Founded suite world settings before longer sole new encryptors plan ∧
      after.database.credentials = some longer ∧ (∀ row ∈ longer.rows, basis.Known row) ∧
      basis.Stage longer after.database := by
  rcases reconcileRan ran with ⟨error, rfl, rfl⟩ | ⟨before, found, planned, leads⟩
  · exact ⟨Vault.leadsSame midway rfl rfl, fun _ wrong => nomatch wrong⟩
  · obtain ⟨table, tableFound, known, stage⟩ := midway
    rw [tableFound] at found
    cases found
    refine ⟨leads _ ?_, fun plan same => ?_⟩
    · rintro state ⟨done, rest, new, encryptors, longer, split, enrolled, rows, rfl, _⟩
      exact ⟨longer, rfl, enrolledStage tableFound known stage allowed split enrolled rows⟩
    · obtain ⟨longer, sole, new, encryptors, founded, database⟩ := planned plan same
      have whole : settings.passwords = settings.passwords ++ [] := (List.append_nil _).symm
      obtain ⟨knownNow, stageNow⟩ :=
        enrolledStage tableFound known stage allowed whole founded.enrolled founded.rows
      rw [database]
      exact ⟨before, longer, sole, new, encryptors, founded, rfl, knownNow, stageNow⟩

end Basis
end BrokerVault.Restart
