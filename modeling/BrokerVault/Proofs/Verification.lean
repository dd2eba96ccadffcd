import BrokerVault.Proofs.Rewriting.Batches

/-! Verification in pages finds what one scan of the visited rows finds, and nothing is found exactly
where every visited value reads. -/
namespace BrokerVault

open Reencryption (batchSize passesFor readNull readSome)

namespace Verification

def scan (suite : CipherSuite) (encryptor : Encryptor) (name : ProtectedTable)
    (rows : List (Row Cell)) : Except ReencryptError (List RecordError) :=
  match readRows name rows with
  | .ok read => .ok (read.filterMap (failure? suite encryptor name))
  | .error fault => .error (.database name fault)

/-- The loop over the pages behind a cursor, with no bound on how many there are. -/
inductive Paged (suite : CipherSuite) (encryptor : Encryptor) (database : Database)
    (name : ProtectedTable) : Int → Except ReencryptError (List RecordError) → Prop where
  | refused {cursor fault} (page : database.fetchBatch name cursor batchSize = .error fault) :
      Paged suite encryptor database name cursor (.error (.database name fault))
  | last {cursor rows} (page : database.fetchBatch name cursor batchSize = .ok rows)
      (short : rows.length < batchSize) :
      Paged suite encryptor database name cursor
        (.ok (rows.filterMap (failure? suite encryptor name)))
  | further {cursor rows final result}
      (page : database.fetchBatch name cursor batchSize = .ok rows)
      (full : batchSize ≤ rows.length) (found : rows.getLast? = some final)
      (rest : Paged suite encryptor database name final.rowid result) :
      Paged suite encryptor database name cursor
        (result.map (rows.filterMap (failure? suite encryptor name) ++ ·))

def Reads (suite : CipherSuite) (encryptor : Encryptor) (name : ProtectedTable)
    (row : Row Cell) : Prop :=
  row.value = .null ∨ ∃ value plaintext, row.value.read name = .ok (some value) ∧
    encryptor.readDocument suite value = .ok plaintext

def AllRead (suite : CipherSuite) (encryptor : Encryptor) (database : Database) : Prop :=
  ∀ name, ∃ stored, database.table? name = some stored ∧
    ∀ row ∈ stored.after 0, Reads suite encryptor name row

variable {suite : CipherSuite} {encryptor : Encryptor} {name : ProtectedTable}
  {database : Database} {world : Surroundings} {vault : Vault}

theorem scanAppend (suite : CipherSuite) (encryptor : Encryptor) (name : ProtectedTable)
    (rows more : List (Row Cell)) :
    scan suite encryptor name (rows ++ more) = (do
      let found ← scan suite encryptor name rows
      let following ← scan suite encryptor name more
      .ok (found ++ following)) := by
  simp only [scan, readRowsAppend, bind, Except.bind]
  cases readRows name rows with
  | error fault => rfl
  | ok read =>
    cases readRows name more with
    | error fault => rfl
    | ok following => simp only [List.filterMap_append]

theorem scanTaken (rows : List (Row Cell)) :
    scan suite encryptor name rows = (do
      let found ← scan suite encryptor name (rows.take batchSize)
      let following ← scan suite encryptor name (rows.drop batchSize)
      .ok (found ++ following)) := by
  rw [← scanAppend, List.take_append_drop]

theorem pagesEnd {passes : Nat} {cursor : Int} {low todo : List (Row Cell)} {stored : Table Cell}
    (table : database.table? name = some stored) (split : stored.SplitAt cursor low todo)
    (enough : todo.length < passes * batchSize) :
    Paged suite encryptor database name cursor
      (failuresInBatches suite encryptor database name passes cursor) := by
  -- On the passes, as the pages are taken off the rows behind the cursor.
  induction passes generalizing cursor low todo with
  | zero => omega
  | succ passes ih =>
    have page := fetchBatchFound table cursor batchSize
    rw [split.after] at page
    rw [failuresInBatches]
    cases read : readRows name (todo.take batchSize) with
    | error fault =>
      rw [read] at page
      rw [page]
      exact .refused page
    | ok rows =>
      obtain ⟨length, lastRowid⟩ := readRowsLast read
      rw [List.length_take] at length
      rw [read] at page
      simp only [page, Except.mapError, bind, Except.bind]
      cases found : rows.getLast? with
      | none =>
        have short : rows.length < batchSize := by
          rw [List.getLast?_eq_none_iff.1 found]
          decide
        exact .last page short
      | some final =>
        by_cases short : rows.length < batchSize
        · simp only [short, ↓reduceIte]
          exact .last page short
        · rw [found, Option.map_some] at lastRowid
          obtain ⟨row, rowFound, sameRowid⟩ := Option.map_eq_some_iff.1 lastRowid.symm
          have moved := (List.take_append_drop batchSize todo ▸ split).advance rowFound
          have fewer : (todo.drop batchSize).length < passes * batchSize := by
            rw [List.length_drop]
            rw [Nat.succ_mul] at enough
            omega
          simp only [short, ↓reduceIte]
          exact .further page (Nat.not_lt.1 short) found (ih (sameRowid ▸ moved) fewer)

theorem Paged.scanned {cursor : Int} {result : Except ReencryptError (List RecordError)}
    {low todo : List (Row Cell)} {stored : Table Cell}
    (paged : Paged suite encryptor database name cursor result)
    (table : database.table? name = some stored) (split : stored.SplitAt cursor low todo) :
    result = scan suite encryptor name todo := by
  -- On the pages read; where the table is split moves with the cursor.
  induction paged generalizing low todo with
  | refused page =>
    rw [fetchBatchFound table, split.after] at page
    rw [scanTaken todo, scan, page]
    rfl
  | last page short =>
    rw [fetchBatchFound table, split.after] at page
    have length := (readRowsLast page).1
    rw [List.length_take] at length
    have all : todo.take batchSize = todo := List.take_of_length_le (by omega)
    rw [all] at page
    rw [scan, page]
  | further page full found _ ih =>
    rw [fetchBatchFound table, split.after] at page
    obtain ⟨row, rowFound, sameRowid⟩ :=
      Option.map_eq_some_iff.1 ((readRowsLast page).2.symm.trans (congrArg _ found))
    have moved := (List.take_append_drop batchSize todo ▸ split).advance rowFound
    rw [scanTaken todo, scan, page, ← ih (sameRowid ▸ moved)]
    rfl

theorem pagesScan {passes : Nat} {cursor : Int} {low todo : List (Row Cell)} {stored : Table Cell}
    (table : database.table? name = some stored) (split : stored.SplitAt cursor low todo)
    (enough : todo.length < passes * batchSize) :
    failuresInBatches suite encryptor database name passes cursor =
      scan suite encryptor name todo :=
  (pagesEnd table split enough).scanned table split

theorem failuresInScan {stored : Table Cell} (table : database.table? name = some stored) :
    failuresIn suite encryptor database name = scan suite encryptor name (stored.after 0) := by
  rw [failuresIn, table]
  exact pagesScan table (stored.splitAt 0) (Reencryption.passesEnough stored)

theorem failuresInMissing (absent : database.table? name = none) :
    failuresIn suite encryptor database name =
      .error (.database name (.missingTable name.name)) := by
  rw [failuresIn, absent]
  simp only [passesFor, failuresInBatches, Database.fetchBatch, Database.protectedTable, absent,
    Except.mapError, bind, Except.bind]

theorem failureNone {row : Row Cell} {read : Row (Option ColumnValue)} (as : row.ReadsAs name read) :
    failure? suite encryptor name read = none ↔ Reads suite encryptor name row := by
  obtain ⟨_, _, held⟩ := as
  cases content : read.value with
  | none =>
    rw [content] at held
    simp [failure?, content, Reads, readNull.1 held]
  | some value =>
    rw [content] at held
    have full := readSome held
    simp only [failure?, content, Reads, full, false_or, held]
    cases opened : encryptor.readDocument suite value with
    | ok plaintext => simp [opened]
    | error cause => simp [opened]

theorem scanNil (rows : List (Row Cell)) :
    scan suite encryptor name rows = .ok [] ↔ ∀ row ∈ rows, Reads suite encryptor name row := by
  induction rows with
  | nil => simp [scan, readRows]
  | cons row rest ih =>
    rw [List.forall_mem_cons, ← ih]
    cases held : row.value.read name with
    | error fault =>
      have unread : ¬Reads suite encryptor name row := by
        rintro (null | ⟨value, plaintext, found, _⟩)
        · rw [readNull.2 null] at held
          cases held
        · rw [held] at found
          cases found
      simp [scan, readRows, Row.read, held, Except.map, bind, Except.bind, unread]
    | ok value =>
      have as : row.ReadsAs name ⟨row.rowid, row.id, value⟩ := ⟨rfl, rfl, held⟩
      rw [← failureNone as]
      cases following : readRows name rest with
      | error fault => simp [scan, readRows, rowRead.2 as, following, bind, Except.bind]
      | ok others =>
        simp only [scan, readRowsConsOk as following, following, List.filterMap_cons]
        cases failed : failure? suite encryptor name ⟨row.rowid, row.id, value⟩ with
        | none => simp
        | some error => simp

theorem failuresInNil : failuresIn suite encryptor database name = .ok [] ↔
    ∃ stored, database.table? name = some stored ∧
      ∀ row ∈ stored.after 0, Reads suite encryptor name row := by
  cases table : database.table? name with
  | none => simp [failuresInMissing table]
  | some stored => simp [failuresInScan table, scanNil]

theorem failuresInTablesNil (names : List ProtectedTable) :
    failuresInTables suite encryptor database names = .ok [] ↔
      ∀ name ∈ names, failuresIn suite encryptor database name = .ok [] := by
  induction names with
  | nil => simp [failuresInTables]
  | cons name rest ih =>
    rw [List.forall_mem_cons, ← ih, failuresInTables]
    cases failuresIn suite encryptor database name with
    | error error => simp [bind, Except.bind]
    | ok found =>
      cases failuresInTables suite encryptor database rest with
      | error error => simp [bind, Except.bind]
      | ok following => simp [bind, Except.bind]

theorem failuresNil :
    failures suite encryptor database = .ok [] ↔ AllRead suite encryptor database := by
  rw [failures, failuresInTablesNil]
  constructor
  · intro each name
    exact failuresInNil.1 (each name name.listed)
  · intro each name _
    exact failuresInNil.2 (each name)

theorem failuresInTablesCons {names : List ProtectedTable} {found : List RecordError} :
    failuresInTables suite encryptor database (name :: names) = .ok found ↔
      ∃ own following, failuresIn suite encryptor database name = .ok own ∧
        failuresInTables suite encryptor database names = .ok following ∧
        found = own ++ following := by
  rw [failuresInTables]
  cases failuresIn suite encryptor database name with
  | error error => simp [bind, Except.bind]
  | ok own =>
    cases failuresInTables suite encryptor database names with
    | error error => simp [bind, Except.bind]
    | ok following => simp [bind, Except.bind, eq_comm]

theorem failuresInTablesOk {names : List ProtectedTable} {found : List RecordError}
    (ran : failuresInTables suite encryptor database names = .ok found) :
    (∀ name ∈ names, ∃ findings, failuresIn suite encryptor database name = .ok findings) ∧
    ∀ record ∈ found, ∃ name ∈ names, ∃ findings,
      failuresIn suite encryptor database name = .ok findings ∧ record ∈ findings := by
  induction names generalizing found with
  | nil =>
    cases ran
    simp
  | cons first rest ih =>
    obtain ⟨own, following, head, tail, rfl⟩ := failuresInTablesCons.1 ran
    obtain ⟨answered, sources⟩ := ih tail
    refine ⟨List.forall_mem_cons.2 ⟨⟨own, head⟩, answered⟩, fun record place => ?_⟩
    rcases List.mem_append.1 place with here | later
    · exact ⟨first, List.mem_cons_self, own, head, here⟩
    · obtain ⟨name, among, found⟩ := sources record later
      exact ⟨name, List.mem_cons_of_mem _ among, found⟩

theorem failuresInOk {findings : List RecordError}
    (ran : failuresIn suite encryptor database name = .ok findings) : ∃ stored read,
      database.table? name = some stored ∧ readRows name (stored.after 0) = .ok read ∧
      findings = read.filterMap (failure? suite encryptor name) := by
  cases table : database.table? name with
  | none =>
    rw [failuresInMissing table] at ran
    cases ran
  | some stored =>
    rw [failuresInScan table, scan] at ran
    cases read : readRows name (stored.after 0) with
    | error fault => simp [read] at ran
    | ok rows =>
      simp only [read, Except.ok.injEq] at ran
      exact ⟨stored, rows, rfl, read, ran.symm⟩

theorem failuresReadable {found : List RecordError} (ran : failures suite encryptor database = .ok found) :
    ∀ name, ∃ stored, database.table? name = some stored ∧
      ∀ row ∈ stored.after 0, ∃ value, row.value.read name = .ok value := by
  intro name
  obtain ⟨findings, one⟩ := (failuresInTablesOk ran).1 name name.listed
  obtain ⟨stored, _, table, read, _⟩ := failuresInOk one
  exact ⟨stored, table, readRowsEach read⟩

theorem failureNames {read : Row (Option ColumnValue)} {record : RecordError}
    (failed : failure? suite encryptor name read = some record) :
    record.table = name ∧ record.id = read.id := by
  unfold failure? at failed
  split at failed
  · cases failed
  · split at failed <;> cases failed
    exact ⟨rfl, rfl⟩

theorem failuresUnread {found : List RecordError}
    (ran : failures suite encryptor database = .ok found) {record : RecordError}
    (place : record ∈ found) : ∃ stored, database.table? record.table = some stored ∧
      ∃ row ∈ stored.rows, row.id = record.id ∧ ¬Reads suite encryptor record.table row := by
  obtain ⟨name, _, findings, one, place⟩ := (failuresInTablesOk ran).2 record place
  obtain ⟨stored, read, table, rows, rfl⟩ := failuresInOk one
  obtain ⟨first, among, failed⟩ := List.mem_filterMap.1 place
  obtain ⟨rfl, id⟩ := failureNames failed
  obtain ⟨row, held, as⟩ := pairedRight (readRowsPaired rows) among
  refine ⟨stored, table, row, (Table.memAfter.1 held).1, as.2.1.symm.trans id.symm, fun reads => ?_⟩
  rw [(failureNone as).2 reads] at failed
  cases failed

theorem failuresOfReadable
    (each : ∀ name, ∃ stored, database.table? name = some stored ∧
      ∀ row ∈ stored.after 0, ∃ value, row.value.read name = .ok value) :
    ∃ found, failures suite encryptor database = .ok found := by
  have answers : ∀ names, ∃ found, failuresInTables suite encryptor database names = .ok found := by
    intro names
    induction names with
    | nil => exact ⟨[], rfl⟩
    | cons name rest ih =>
      obtain ⟨following, tail⟩ := ih
      obtain ⟨stored, table, readable⟩ := each name
      obtain ⟨read, ran⟩ := readRowsAll readable
      refine ⟨read.filterMap (failure? suite encryptor name) ++ following, ?_⟩
      simp only [failuresInTables, failuresInScan table, scan, ran, tail, bind, Except.bind]
  exact answers ProtectedTable.all

theorem failuresEach {one other : Encryptor} {first second : Database}
    (each : ∀ name, failuresIn suite one first name = failuresIn suite other second name) :
    failures suite one first = failures suite other second := by
  have tables : ∀ names, failuresInTables suite one first names =
      failuresInTables suite other second names := by
    intro names
    induction names with
    | nil => rfl
    | cons name rest ih => rw [failuresInTables, failuresInTables, each, ih]
  exact tables ProtectedTable.all

theorem failuresSameTables {other : Database} (same : ∀ name, other.table? name = database.table? name) :
    failures suite encryptor other = failures suite encryptor database := by
  refine failuresEach fun name => ?_
  cases table : database.table? name with
  | none => rw [failuresInMissing table, failuresInMissing ((same name).trans table)]
  | some stored => rw [failuresInScan table, failuresInScan ((same name).trans table)]

theorem failuresAlike {one other : Encryptor}
    (alike : ∀ name stored, database.table? name = some stored → ∀ row ∈ stored.rows, ∀ value,
      row.value.read name = .ok (some value) →
        one.openColumn suite value = other.openColumn suite value) :
    failures suite one database = failures suite other database := by
  refine failuresEach fun name => ?_
  cases table : database.table? name with
  | none => rw [failuresInMissing table, failuresInMissing table]
  | some stored =>
    rw [failuresInScan table, failuresInScan table, scan, scan]
    cases ran : readRows name (stored.after 0) with
    | error fault => rfl
    | ok read =>
      refine congrArg Except.ok (List.filterMap_congr fun found place => ?_)
      obtain ⟨row, among, _, _, held⟩ := pairedRight (readRowsPaired ran) place
      rw [failure?, failure?]
      cases content : found.value with
      | none => rfl
      | some value =>
        have same := alike name stored table row (Table.memAfter.1 among).1 value (content ▸ held)
        simp only [Encryptor.readDocument, same]

end Verification

end BrokerVault
