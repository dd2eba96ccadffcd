import BrokerVault.Database.Reencryption
import BrokerVault.Proofs.Runs
import BrokerVault.Proofs.Tables
import Mathlib.Data.List.Forall2

/-! Resealing a row, and a list of rows one after another. What a run of the list does is told by the
rows it replaces, or by the first row that cannot be resealed and the rows before it. -/
namespace BrokerVault.Reencryption

inductive Resealed (suite : CipherSuite) (encryptor : Encryptor) (world : Surroundings)
    (name : ProtectedTable) : Row Cell → Row Cell → Prop where
  | null {row} (empty : row.value = .null) : Resealed suite encryptor world name row row
  | value {row : Row Cell} {value plaintext moment sealedValue}
      (held : row.value.read name = .ok (some value))
      (opened : encryptor.readDocument suite value = .ok plaintext)
      (written : encryptor.sealColumn suite name.format (world.random moment nonceLength) plaintext =
        .ok sealedValue) :
      Resealed suite encryptor world name row { row with value := .ofColumn sealedValue }

inductive Unresealed (suite : CipherSuite) (encryptor : Encryptor) (world : Surroundings)
    (name : ProtectedTable) : Row Cell → ReencryptError → Prop where
  | unread {row : Row Cell} {value cause} (held : row.value.read name = .ok (some value))
      (refused : encryptor.readDocument suite value = .error cause) :
      Unresealed suite encryptor world name row (.decrypt name row.id cause)
  | unwritten {row : Row Cell} {value plaintext moment cause}
      (held : row.value.read name = .ok (some value))
      (opened : encryptor.readDocument suite value = .ok plaintext)
      (refused : encryptor.sealColumn suite name.format (world.random moment nonceLength) plaintext =
        .error cause) :
      Unresealed suite encryptor world name row (.encrypt name row.id cause)

def filled (rows : List (Row Cell)) : Nat := (rows.filter fun row => row.value ≠ .null).length

variable {suite : CipherSuite} {encryptor : Encryptor} {world : Surroundings}
  {name : ProtectedTable} {vault after : Vault}

theorem readNull {cell : Cell} : cell.read name = .ok none ↔ cell = .null := by
  cases cell with
  | null => simp [Cell.read]
  | @blob storage bytes => cases storage <;> cases name <;> simp [Cell.read, ProtectedTable.format]
  | text content => cases name <;> simp [Cell.read, ProtectedTable.format]

theorem readSome {cell : Cell} {value : ColumnValue} (held : cell.read name = .ok (some value)) :
    cell ≠ .null := by
  rintro null
  rw [readNull.2 null] at held
  cases held

theorem filledCons (row : Row Cell) (rest : List (Row Cell)) :
    filled (row :: rest) = (if row.value = .null then 0 else 1) + filled rest := by
  by_cases null : row.value = .null <;> simp [filled, null, Nat.add_comm]

theorem filledAppend (rows more : List (Row Cell)) :
    filled (rows ++ more) = filled rows + filled more := by
  simp [filled]

theorem Resealed.place {before resealed : Row Cell}
    (step : Resealed suite encryptor world name before resealed) :
    resealed.rowid = before.rowid ∧ resealed.id = before.id := by
  cases step <;> exact ⟨rfl, rfl⟩

theorem resealRan {row : Row Cell} {value : ColumnValue} {result : Except ReencryptError ColumnValue}
    (held : row.value.read name = .ok (some value))
    (ran : reseal suite encryptor name row.id value world vault = (result, after)) :
    after.database = vault.database ∧ after.commits = vault.commits ∧
      match result with
      | .ok sealedValue =>
        Resealed suite encryptor world name row { row with value := .ofColumn sealedValue }
      | .error error => Unresealed suite encryptor world name row error := by
  rw [reseal] at ran
  cases opened : encryptor.readDocument suite value with
  | error cause =>
    rw [opened, Action.bindOfError rfl] at ran
    cases ran
    exact ⟨rfl, rfl, .unread held opened⟩
  | ok plaintext =>
    rw [opened, Action.bindOfOk rfl, Action.bindRandom] at ran
    simp only [Action.ofExceptRun] at ran
    cases written : encryptor.sealColumn suite name.format
        (world.random vault.moment nonceLength) plaintext with
    | error cause =>
      rw [written] at ran
      cases ran
      exact ⟨rfl, rfl, .unwritten held opened written⟩
    | ok sealedValue =>
      rw [written] at ran
      cases ran
      exact ⟨rfl, rfl, .value held opened written⟩

theorem rewriteRowsRan {stored : Table Cell} {front group back : List (Row Cell)}
    {batch : List (Row (Option ColumnValue))} {count : Nat}
    {result : Except ReencryptError (Table Cell × Nat)}
    (layout : stored.rows = front ++ (group ++ back)) (read : readRows name group = .ok batch)
    (ran : rewriteRows suite encryptor name stored count batch world vault = (result, after)) :
    after.database = vault.database ∧ after.commits = vault.commits ∧
      match result with
      | .ok (changed, total) => ∃ rewritten,
        List.Forall₂ (Resealed suite encryptor world name) group rewritten ∧
        changed.rows = front ++ (rewritten ++ back) ∧ total = count + filled group
      | .error error => ∃ earlier row later rewritten, group = earlier ++ row :: later ∧
        List.Forall₂ (Resealed suite encryptor world name) earlier rewritten ∧
        Unresealed suite encryptor world name row error := by
  induction group generalizing stored front batch count vault with
  | nil =>
    cases read
    cases ran
    exact ⟨rfl, rfl, [], .nil, layout, rfl⟩
  | cons row rest ih =>
    obtain ⟨first, following, rfl, ⟨_, id, held⟩, tail⟩ := readRowsCons read
    rw [rewriteRows] at ran
    cases content : first.value with
    | none =>
      have null := readNull.1 (content ▸ held)
      have same : Resealed suite encryptor world name row row := .null null
      simp only [content] at ran
      have moved : stored.rows = (front ++ [row]) ++ (rest ++ back) := by simp [layout]
      obtain ⟨database, commits, told⟩ := ih moved tail ran
      refine ⟨database, commits, ?_⟩
      cases result with
      | ok outcome =>
        obtain ⟨rewritten, each, rows, total⟩ := told
        exact ⟨row :: rewritten, .cons same each, by simp [rows], by simp [total, filledCons, null]⟩
      | error error =>
        obtain ⟨earlier, bad, later, rewritten, rfl, each, failed⟩ := told
        exact ⟨row :: earlier, bad, later, row :: rewritten, rfl, .cons same each, failed⟩
    | some value =>
      simp only [content] at ran
      rw [content] at held
      rcases Action.bindRan ran with ⟨sealedValue, middle, resealing, others⟩ | ⟨error, failed, rfl⟩
      · obtain ⟨database, commits, step⟩ := resealRan held (id ▸ resealing)
        have moved : (stored.update first.id (.ofColumn sealedValue)).rows =
            (front ++ [{ row with value := Cell.ofColumn sealedValue }]) ++ (rest ++ back) := by
          rw [id, Table.updateRows (by simpa using layout)]
          simp
        obtain ⟨databaseAfter, commitsAfter, told⟩ := ih moved tail others
        refine ⟨databaseAfter.trans database, commitsAfter.trans commits, ?_⟩
        have full := readSome held
        cases result with
        | ok outcome =>
          obtain ⟨rewritten, each, rows, total⟩ := told
          exact ⟨_ :: rewritten, .cons step each, by simp [rows],
            by rw [total, filledCons, if_neg full, Nat.add_assoc]⟩
        | error error =>
          obtain ⟨earlier, bad, later, rewritten, rfl, each, failed⟩ := told
          exact ⟨row :: earlier, bad, later, _ :: rewritten, rfl, .cons step each, failed⟩
      · obtain ⟨database, commits, unresealed⟩ := resealRan held (id ▸ failed)
        exact ⟨database, commits, [], row, rest, [], rfl, .nil, unresealed⟩

end BrokerVault.Reencryption
