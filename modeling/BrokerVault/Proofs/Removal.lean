import BrokerVault.Proofs.Failure

/-! Credentials that a setup takes away. They go behind a check that reads every row numbered above
zero. A row numbered zero or less is neither rewritten nor checked, and it may be sealed under a key
that is taken away. -/
namespace BrokerVault

open Reencryption Reconciliation

namespace Setup

variable {suite : CipherSuite} {world : Surroundings} {settings : Settings} {vault after : Vault}
  {before longer : Table Credential} {sole : Option String} {new : List (Row Credential)}
  {encryptors : List Encryptor} {plan : Reconciliation} {rotation : Encryptor}
  {name : ProtectedTable}

theorem rewrittenLow {stored changed : List (Row Cell)}
    (rows : List.Forall₂ (Rewritten suite rotation world name) stored changed) :
    changed.filter (·.rowid < 1) = stored.filter (·.rowid < 1) := by
  induction rows with
  | nil => rfl
  | cons step _ ih =>
    rcases step with ⟨_, rfl⟩ | ⟨visited, resealed⟩
    · simp only [List.filter_cons, ih]
    · have same := resealed.place.1
      rw [List.filter_cons_of_neg (by simp only [decide_eq_true_eq]; omega),
        List.filter_cons_of_neg (by simp only [decide_eq_true_eq]; omega), ih]

theorem turnedLow (accepted : Password.Accepted settings.passwords)
    (founded : Founded suite world settings before longer sole new encryptors plan)
    (table : vault.database.credentials = some longer) {rotated : Option Nat}
    (turned : Turned suite world plan vault rotated after) {changed : Table Cell}
    (left : after.database.table? name = some changed) :
    ∃ stored, vault.database.table? name = some stored ∧ changed.below 1 = stored.below 1 := by
  cases turned with
  | none => exact ⟨changed, left, rfl⟩
  | some due rotating =>
    cases rotating with
    | promoted _ ran promotion =>
      obtain ⟨_, credentials, tables⟩ := rewriteAllWhole ran
      obtain ⟨stored, rewritten, was, is, rows⟩ := tables name
      obtain ⟨_, _, database, _⟩ := founded.promotion accepted (credentials.trans table) promotion
      rw [database, Database.tableOfWith, is] at left
      cases left
      exact ⟨stored, was, rewrittenLow rows⟩

/-- Credentials go only where every row that is numbered above zero reads. -/
theorem removalChecked (accepted : Password.Accepted settings.passwords)
    (found : vault.database.credentials = some before) {row : Row Credential}
    (place : row ∈ before.rows) {result : Except SetupError Setup}
    (ran : run suite settings world vault = (result, after))
    (gone : ∀ left, after.database.credentials = some left → row.id ∉ left.rows.map (·.id)) :
    ∃ setup, result = .ok setup ∧ setup.unreadable = [] ∧
      row.id ∉ settings.passwords.map (·.label) ∧
      ∀ name, ∃ stored changed, vault.database.table? name = some stored ∧
        after.database.table? name = some changed ∧ changed.below 1 = stored.below 1 ∧
        ∀ row ∈ changed.rows, 0 < row.rowid →
          Verification.Reads suite setup.encryptor name row := by
  cases result with
  | error error =>
    have grown := failedGrows accepted ran
    rw [CredentialsGrown, found] at grown
    obtain ⟨longer, left, new, rows, _⟩ := grown
    exact absurd (List.mem_map.2 ⟨row, rows ▸ List.mem_append_left _ place, rfl⟩) (gone longer left)
  | ok setup =>
    cases runRan ran with
    | @checked plan middle _ unreadable turnedVault _ _ _ reconciling turned checking removing answer =>
      obtain ⟨stored, longer, _, new, _, also, founded, _, table⟩ := reconcileFounded reconciling
      cases found.symm.trans also
      obtain ⟨changed, left, keys⟩ := turnedStored accepted founded table turned
      obtain ⟨⟨deleted, rfl⟩, kept, removed, _⟩ := removeStaleRan left removing
      cases answer
      have held : row.id ∈ changed.rows.map (·.id) := by
        rw [Credentials.sameLabels keys]
        exact List.mem_map.2 ⟨row, founded.rows ▸ List.mem_append_left _ place, rfl⟩
      have readable : unreadable = [] := by
        by_contra some
        exact gone changed (kept some ▸ left) held
      have database := removed readable
      refine ⟨_, rfl, readable, fun configured => ?_, fun name => ?_⟩
      · exact gone _ (by rw [database, Database.credentialsOfWith])
          ((labelsLeft founded keys _).2 configured)
      · obtain ⟨rewritten, is, each⟩ := Verification.failuresNil.1 (readable ▸ checking) name
        obtain ⟨stored, was, low⟩ := turnedLow accepted founded table turned is
        refine ⟨stored, rewritten, ?_, ?_, low, fun row place visited => ?_⟩
        · rw [← (reconciledGrows reconciling).2 name, was]
        · rw [database, Database.tableOfWith, is]
        · exact each row (Table.memAfter.2 ⟨place, visited⟩)

end Setup

/-! A workspace numbered zero, sealed under the one label that is stored, and another one that is not
sealed. A setup without the label takes it away and leaves the first workspace sealed. -/
namespace StrandedWorkspace

open FirstSetup StoppedSetup

def workspaces (bytes : Bytes) : Table Cell :=
  ⟨[⟨0, "workspace", .ofColumn (.blob bytes)⟩, ⟨1, "another", .ofColumn (.blob document)⟩],
    by simp, by simp⟩

def database (canary bytes : Bytes) : Database :=
  (Database.empty.setTable .workspaces (some (workspaces bytes))).withCredentials (credentials canary)

def settings : Settings := ⟨false, []⟩

def left (bytes : Bytes) : Database :=
  (Database.empty.setTable .workspaces (some (workspaces bytes))).withCredentials .empty

theorem removes (suite : CipherSuite) (canary bytes : Bytes) : ∃ setup after,
    Setup.run suite settings FirstSetup.world (.ofDatabase (database canary bytes)) =
      (.ok setup, after) ∧
    setup.encryptor = .noop ∧ after.database = left bytes :=
  ⟨_, _, rfl, rfl, rfl⟩

theorem removalFollowsCheck : ∃ canary bytes setup after,
    Setup.run .standard settings FirstSetup.world (.ofDatabase (database canary bytes)) =
      (.ok setup, after) ∧ setup.unreadable = [] ∧
    ∀ name, ∃ stored changed, (database canary bytes).table? name = some stored ∧
      after.database.table? name = some changed ∧ changed.below 1 = stored.below 1 ∧
      ∀ row ∈ changed.rows, 0 < row.rowid →
        Verification.Reads .standard setup.encryptor name row := by
  obtain ⟨setup, after, ran, _, database⟩ := removes .standard [] []
  have place : ⟨1, "first", salt.1, [], false, default, default⟩ ∈ (credentials []).rows :=
    List.mem_singleton_self _
  obtain ⟨_, same, readable, _, tables⟩ :=
    Setup.removalChecked Password.acceptedNil rfl place ran fun stored found label => by
      rw [database] at found
      cases found
      cases label
  cases same
  exact ⟨_, _, setup, after, ran, readable, tables⟩

theorem removalStrandsWorkspace : ∃ canary bytes setup after,
    Setup.run .standard settings FirstSetup.world (.ofDatabase (database canary bytes)) =
      (.ok setup, after) ∧
    (∃ row ∈ (credentials canary).rows, ∀ stored, after.database.credentials = some stored →
      row.id ∉ stored.rows.map (·.id)) ∧
    (Encryptor.aead "first" (onlyKey)).readDocument .standard
      (.blob bytes) = .ok document ∧
    ∃ stored, after.database.table? .workspaces = some stored ∧ ∃ row ∈ stored.rows,
      row.value.read .workspaces = .ok (some (.blob bytes)) ∧
      ¬Verification.Reads .standard setup.encryptor .workspaces row := by
  obtain ⟨bytes, written⟩ := CipherSuite.standardSeals document (by decide)
    (onlyKey) nonce
  obtain ⟨setup, after, ran, plain, database⟩ := removes .standard [] bytes
  refine ⟨[], bytes, setup, after, ran, ⟨_, List.mem_singleton_self _, fun stored found label => ?_⟩,
    Encryptor.readDocumentOk.2 ⟨CipherSuite.openSealed CipherSuite.standardOpensSealed written,
      documentChecked⟩, workspaces bytes, ?_, _, List.mem_cons_self, rfl, ?_⟩
  · rw [database] at found
    cases found
    cases label
  · rw [database]
    rfl
  · rw [plain]
    exact sealedUnread written rfl

end StrandedWorkspace
end BrokerVault
