import BrokerVault.Proofs.Rewriting.Rows

/-! Rewriting a table in groups of one hundred rows, each group one commit. A run ends behind some
number of groups: all of them are resealed up to there, and nothing is changed from there on. Why it
ended there is told by the rows of the next group, or by the request to stop. -/
namespace BrokerVault

theorem setTableTwice (database : Database) (name : ProtectedTable)
    (first second : Option (Table Cell)) :
    (database.setTable name first).setTable name second = database.setTable name second := by
  cases name <;> rfl

theorem setTableSame {database : Database} {name : ProtectedTable} {table : Option (Table Cell)}
    (found : database.table? name = table) : database.setTable name table = database := by
  subst found
  cases name <;> rfl

theorem fetchBatchFound {database : Database} {name : ProtectedTable} {stored : Table Cell}
    (found : database.table? name = some stored) (cursor : Int) (limit : Nat) :
    database.fetchBatch name cursor limit = readRows name ((stored.after cursor).take limit) := by
  simp only [Database.fetchBatch, Database.protectedTable, found, bind, Except.bind, Table.batch]

namespace Reencryption

def groupCount (rows : List (Row Cell)) : Nat := (rows.length + (batchSize - 1)) / batchSize

def groupAt (rows : List (Row Cell)) (number : Nat) : List (Row Cell) :=
  (rows.drop (number * batchSize)).take batchSize

inductive Halt (suite : CipherSuite) (encryptor : Encryptor) (world : Surroundings)
    (name : ProtectedTable) (rows : List (Row Cell)) : Nat → Except ReencryptError Nat → Prop where
  | finished : Halt suite encryptor world name rows (groupCount rows) (.ok (filled rows))
  | stopped {groups moment} (boundary : groups ≤ groupCount rows)
      (asked : world.cancelled moment = true) :
      Halt suite encryptor world name rows groups (.error (.interrupted name))
  | undecodable {groups earlier row later fault read}
      (group : groupAt rows groups = earlier ++ row :: later)
      (before : readRows name earlier = .ok read)
      (faulty : row.value.read name = .error fault) :
      Halt suite encryptor world name rows groups (.error (.database name fault))
  | failed {groups earlier row later read rewritten error}
      (group : groupAt rows groups = earlier ++ row :: later)
      (decodable : readRows name (groupAt rows groups) = .ok read)
      (before : List.Forall₂ (Resealed suite encryptor world name) earlier rewritten)
      (fails : Unresealed suite encryptor world name row error) :
      Halt suite encryptor world name rows groups (.error error)

def CutTable (suite : CipherSuite) (encryptor : Encryptor) (world : Surroundings)
    (name : ProtectedTable) (groups : Nat) (stored changed : Table Cell) : Prop :=
  ∃ rewritten, List.Forall₂ (Resealed suite encryptor world name)
      ((stored.after 0).take (groups * batchSize)) rewritten ∧
    changed.rows = stored.below 1 ++ (rewritten ++ (stored.after 0).drop (groups * batchSize))

def Touched (suite : CipherSuite) (encryptor : Encryptor) (world : Surroundings)
    (name : ProtectedTable) (row changed : Row Cell) : Prop :=
  changed = row ∨ 0 < row.rowid ∧ Resealed suite encryptor world name row changed

def Survives (suite : CipherSuite) (encryptor : Encryptor) (world : Surroundings)
    (Good : Database → Prop) : Prop :=
  ∀ database name stored changed, Good database → database.table? name = some stored →
    List.Forall₂ (Touched suite encryptor world name) stored.rows changed.rows →
    Good (database.setTable name (some changed))

variable {suite : CipherSuite} {encryptor : Encryptor} {world : Surroundings}
  {name : ProtectedTable} {vault after : Vault} {rows : List (Row Cell)}

theorem groupAtSucc (rows : List (Row Cell)) (number : Nat) :
    groupAt (rows.drop batchSize) number = groupAt rows (number + 1) := by
  rw [groupAt, groupAt, List.drop_drop, Nat.succ_mul, Nat.add_comm]

theorem groupCountFull (full : batchSize ≤ rows.length) :
    groupCount rows = groupCount (rows.drop batchSize) + 1 := by
  simp only [groupCount, batchSize, List.length_drop] at full ⊢
  omega

theorem groupCountLast (some : rows ≠ []) (short : rows.length ≤ batchSize) :
    groupCount rows = 1 := by
  have := List.length_pos_of_ne_nil some
  simp only [groupCount, batchSize] at short ⊢
  omega

theorem coversAll (rows : List (Row Cell)) : rows.length ≤ groupCount rows * batchSize := by
  simp only [groupCount, batchSize]
  omega

theorem passesEnough (stored : Table Cell) :
    (stored.after 0).length < passesFor (some stored) * batchSize := by
  have fewer : (stored.after 0).length ≤ stored.rows.length := List.length_filter_le _ _
  simp only [passesFor, batchSize]
  omega

theorem Halt.behind {groups : Nat} {result : Except ReencryptError Nat}
    (full : batchSize ≤ rows.length)
    (halt : Halt suite encryptor world name (rows.drop batchSize) groups result) :
    Halt suite encryptor world name rows (groups + 1)
      (result.map (filled (rows.take batchSize) + ·)) := by
  cases halt with
  | finished =>
    have whole : filled (rows.take batchSize) + filled (rows.drop batchSize) = filled rows := by
      rw [← filledAppend, List.take_append_drop]
    rw [← groupCountFull full, Except.map, whole]
    exact .finished
  | stopped boundary asked =>
    have := groupCountFull full
    exact .stopped (by omega) asked
  | undecodable group before faulty => exact .undecodable (groupAtSucc rows _ ▸ group) before faulty
  | failed group decodable before fails =>
    exact .failed (groupAtSucc rows _ ▸ group) (groupAtSucc rows _ ▸ decodable) before fails

theorem resealedTouched {before resealed : List (Row Cell)} (visited : ∀ row ∈ before, 0 < row.rowid)
    (each : List.Forall₂ (Resealed suite encryptor world name) before resealed) :
    List.Forall₂ (Touched suite encryptor world name) before resealed := by
  refine (pairedWithin each).imp ?_
  exact fun row _ both => .inr ⟨visited row both.1, both.2⟩

theorem untouched (rows : List (Row Cell)) :
    List.Forall₂ (Touched suite encryptor world name) rows rows :=
  List.forall₂_same.2 fun _ _ => .inl rfl

theorem resealedRowids {before resealed : List (Row Cell)}
    (each : List.Forall₂ (Resealed suite encryptor world name) before resealed) :
    List.Forall₂ (fun row changed => changed.rowid = row.rowid) before resealed :=
  each.imp fun _ _ step => step.place.1

def BatchesEnd (suite : CipherSuite) (encryptor : Encryptor) (world : Surroundings)
    (name : ProtectedTable) (database : Database) (low todo : List (Row Cell)) (count : Nat)
    (result : Except ReencryptError Nat) (left : Database) : Prop :=
  ∃ groups rewritten changed told,
    List.Forall₂ (Resealed suite encryptor world name) (todo.take (groups * batchSize)) rewritten ∧
    changed.rows = low ++ (rewritten ++ todo.drop (groups * batchSize)) ∧
    left = database.setTable name (some changed) ∧
    Halt suite encryptor world name todo groups told ∧ result = told.map (count + ·)

theorem batchesEndHere {stored : Table Cell} {low todo : List (Row Cell)} {count : Nat}
    {told : Except ReencryptError Nat} (table : vault.database.table? name = some stored)
    (layout : stored.rows = low ++ todo) (halt : Halt suite encryptor world name todo 0 told) :
    BatchesEnd suite encryptor world name vault.database low todo count (told.map (count + ·))
      vault.database :=
  ⟨0, [], stored, told, by simp, by simpa using layout, (setTableSame table).symm, halt, rfl⟩

theorem batchesEndBehind {database left : Database} {low todo rewritten : List (Row Cell)}
    {changed : Table Cell} {count : Nat} {result : Except ReencryptError Nat}
    (full : batchSize ≤ todo.length)
    (each : List.Forall₂ (Resealed suite encryptor world name) (todo.take batchSize) rewritten)
    (rest : BatchesEnd suite encryptor world name (database.setTable name (some changed))
      (low ++ rewritten) (todo.drop batchSize) (count + filled (todo.take batchSize)) result left) :
    BatchesEnd suite encryptor world name database low todo count result left := by
  obtain ⟨groups, others, final, told, following, rows, rfl, halt, rfl⟩ := rest
  have groupsSucc : (groups + 1) * batchSize = batchSize + groups * batchSize := by
    rw [Nat.succ_mul, Nat.add_comm]
  refine ⟨groups + 1, rewritten ++ others, final, _, ?_, ?_, setTableTwice _ _ _ _,
    halt.behind full, ?_⟩
  · rw [groupsSucc, List.take_add]
    exact List.rel_append each following
  · rw [rows, List.drop_drop, groupsSucc]
    simp
  · cases told with
    | ok total => simp only [Except.map, Nat.add_assoc]
    | error error => rfl

theorem batchesEndLast {database : Database} {low todo rewritten : List (Row Cell)}
    {changed : Table Cell} {count : Nat} (some : todo ≠ []) (short : todo.length ≤ batchSize)
    (each : List.Forall₂ (Resealed suite encryptor world name) todo rewritten)
    (rows : changed.rows = low ++ rewritten) :
    BatchesEnd suite encryptor world name database low todo count (.ok (count + filled todo))
      (database.setTable name (.some changed)) := by
  have halt : Halt suite encryptor world name todo 1 (.ok (filled todo)) :=
    groupCountLast some short ▸ .finished
  refine ⟨1, rewritten, changed, _, ?_, ?_, rfl, halt, rfl⟩
  · rwa [Nat.one_mul, List.take_of_length_le short]
  · rw [Nat.one_mul, List.drop_eq_nil_of_le short, List.append_nil, rows]

theorem survivesGroup {Good : Database → Prop} {database : Database} {stored changed : Table Cell}
    {front group rewritten back : List (Row Cell)} (survives : Survives suite encryptor world Good)
    (good : Good database) (table : database.table? name = some stored)
    (layout : stored.rows = front ++ (group ++ back)) (visited : ∀ row ∈ group, 0 < row.rowid)
    (each : List.Forall₂ (Resealed suite encryptor world name) group rewritten)
    (rows : changed.rows = front ++ (rewritten ++ back)) :
    Good (database.setTable name (some changed)) := by
  refine survives database name stored changed good table ?_
  rw [layout, rows]
  exact List.rel_append (untouched front)
    (List.rel_append (resealedTouched visited each) (untouched back))

theorem splitBehind {cursor : Int} {low todo rewritten : List (Row Cell)} {final : Row Cell}
    {stored changed : Table Cell} (split : stored.SplitAt cursor low todo) (visited : 0 ≤ cursor)
    (finalFound : (todo.take batchSize).getLast? = some final)
    (each : List.Forall₂ (Resealed suite encryptor world name) (todo.take batchSize) rewritten)
    (rows : changed.rows = low ++ (rewritten ++ todo.drop batchSize)) :
    changed.SplitAt final.rowid (low ++ rewritten) (todo.drop batchSize) ∧ 0 ≤ final.rowid := by
  have moved := (List.take_append_drop batchSize todo ▸ split).advance finalFound
  have passed : List.Forall₂ (fun row changed : Row Cell => changed.rowid = row.rowid) low low :=
    List.forall₂_same.2 fun _ _ => rfl
  have behind := split.waiting final (List.mem_of_mem_take (List.mem_of_getLast? finalFound))
  refine ⟨moved.same (by rw [rows, List.append_assoc]) ?_ ?_, by omega⟩
  · exact List.rel_append passed (resealedRowids each)
  · exact List.forall₂_same.2 fun _ _ => rfl

theorem passRan {passes count : Nat} {cursor : Int} {low todo : List (Row Cell)}
    {stored : Table Cell} {result : Except ReencryptError Nat}
    (table : vault.database.table? name = some stored) (split : stored.SplitAt cursor low todo)
    (visited : 0 ≤ cursor)
    (ran : rewriteBatches suite encryptor name (passes + 1) cursor count world vault =
      (result, after)) :
    (∃ told, Halt suite encryptor world name todo 0 told ∧ result = told.map (count + ·) ∧
      after.database = vault.database ∧ after.commits = vault.commits) ∨
    ∃ rewritten changed middle next,
      todo ≠ [] ∧
      List.Forall₂ (Resealed suite encryptor world name) (todo.take batchSize) rewritten ∧
      changed.rows = low ++ (rewritten ++ todo.drop batchSize) ∧
      changed.SplitAt next (low ++ rewritten) (todo.drop batchSize) ∧ 0 ≤ next ∧
      middle.database = vault.database.setTable name (some changed) ∧
      middle.commits = vault.database :: vault.commits ∧
      if todo.length < batchSize then
        result = .ok (count + filled (todo.take batchSize)) ∧ after = middle
      else
        rewriteBatches suite encryptor name passes next (count + filled (todo.take batchSize)) world
          middle = (result, after) := by
  rw [rewriteBatches, Action.bindCancelled] at ran
  cases asked : world.cancelled vault.moment with
  | true =>
    simp only [asked, ↓reduceIte] at ran
    cases ran
    exact .inl ⟨_, .stopped (Nat.zero_le _) asked, rfl, rfl, rfl⟩
  | false =>
    simp only [asked, Bool.false_eq_true, ↓reduceIte, Action.bindDatabase,
      fetchBatchFound table, split.after] at ran
    have here : groupAt todo 0 = todo.take batchSize := by simp [groupAt]
    cases read : readRows name (todo.take batchSize) with
    | error fault =>
      rw [read, Action.bindOfError rfl] at ran
      cases ran
      obtain ⟨earlier, row, later, group, ⟨_, before⟩, faulty⟩ := readRowsFault read
      exact .inl ⟨_, .undecodable (here ▸ group) before faulty, rfl, rfl, rfl⟩
    | ok batch =>
      obtain ⟨length, lastRowid⟩ := readRowsLast read
      rw [read, Action.bindOfOk rfl] at ran
      cases found : batch.getLast? with
      | none =>
        simp only [found] at ran
        cases ran
        rw [List.getLast?_eq_none_iff.1 found, List.length_nil, List.length_take] at length
        have none : todo = [] :=
          List.length_eq_zero_iff.1 (by simp only [batchSize] at length; omega)
        subst none
        exact .inl ⟨_, .finished, rfl, rfl, rfl⟩
      | some last =>
        rw [found, Option.map_some] at lastRowid
        obtain ⟨final, finalFound, sameRowid⟩ := Option.map_eq_some_iff.1 lastRowid.symm
        have some : todo ≠ [] := fun none => by simp [none] at finalFound
        have layout : stored.rows = low ++ (todo.take batchSize ++ todo.drop batchSize) := by
          rw [List.take_append_drop, split.rows]
        have protectedTable : vault.database.protectedTable name = .ok stored := by
          simp only [Database.protectedTable, table]
        simp only [found, protectedTable, Except.mapError] at ran
        rw [Action.bindOfOk rfl] at ran
        rcases Action.bindRan ran with ⟨⟨changed, total⟩, middle, rewriting, others⟩ |
          ⟨error, failing, rfl⟩
        · obtain ⟨database, commits, rewritten, each, rows, rfl⟩ :=
            rewriteRowsRan layout read rewriting
          obtain ⟨splitAfter, onward⟩ := splitBehind split visited finalFound each rows
          have asLong : batch.length < batchSize ↔ todo.length < batchSize := by
            rw [length, List.length_take]
            omega
          refine .inr ⟨rewritten, changed, { middle with
              database := vault.database.setTable name (.some changed)
              commits := vault.database :: vault.commits }, final.rowid, some, each, rows, splitAfter,
            onward, rfl, rfl, ?_⟩
          simp only [Action.bindCommit, database, commits] at others
          by_cases short : todo.length < batchSize
          · rw [if_pos (asLong.2 short)] at others
            rw [if_pos short]
            cases others
            exact ⟨rfl, rfl⟩
          · rw [if_neg fun short' => short (asLong.1 short')] at others
            rw [if_neg short, sameRowid]
            exact others
        · obtain ⟨database, commits, earlier, row, later, rewritten, group, each, fails⟩ :=
            rewriteRowsRan layout read failing
          exact .inl ⟨_, .failed (here ▸ group) (here ▸ read) each fails, rfl, database, commits⟩

theorem rewriteBatchesRan {passes count : Nat} {cursor : Int} {low todo : List (Row Cell)}
    {stored : Table Cell} {result : Except ReencryptError Nat}
    (table : vault.database.table? name = some stored) (split : stored.SplitAt cursor low todo)
    (visited : 0 ≤ cursor) (enough : todo.length < passes * batchSize)
    (ran : rewriteBatches suite encryptor name passes cursor count world vault = (result, after)) :
    BatchesEnd suite encryptor world name vault.database low todo count result after.database ∧
      ∀ Good, Survives suite encryptor world Good → Good vault.database → vault.Leads Good after := by
  -- A pass takes a full group off the rows behind the cursor; there are more passes than full groups.
  induction passes generalizing cursor low todo stored count vault with
  | zero => omega
  | succ passes ih =>
    rcases passRan table split visited ran with ⟨told, halt, rfl, database, commits⟩ |
      ⟨rewritten, changed, middle, next, some, each, rows, moved, onward, database, commits, rest⟩
    · rw [database]
      exact ⟨batchesEndHere table split.rows halt,
        fun Good _ good => Vault.leadsSame good database commits⟩
    · have layout : stored.rows = low ++ (todo.take batchSize ++ todo.drop batchSize) := by
        rw [List.take_append_drop, split.rows]
      have positive : ∀ row ∈ todo.take batchSize, 0 < row.rowid := fun row place =>
        Int.lt_of_le_of_lt visited (split.waiting row (List.mem_of_mem_take place))
      have committed : ∀ Good, Survives suite encryptor world Good → Good vault.database →
          vault.Leads Good middle := fun Good survives good =>
        Vault.leadsCommit good (survivesGroup survives good table layout positive each rows)
          database commits
      split at rest
      · rename_i short
        obtain ⟨rfl, rfl⟩ := rest
        rw [List.take_of_length_le (Nat.le_of_lt short)] at each ⊢
        rw [List.drop_eq_nil_of_le (Nat.le_of_lt short), List.append_nil] at rows
        exact ⟨database ▸ batchesEndLast some (Nat.le_of_lt short) each rows, committed⟩
      · rename_i full
        have full : batchSize ≤ todo.length := by omega
        have fewer : (todo.drop batchSize).length < passes * batchSize := by
          rw [List.length_drop]
          rw [Nat.succ_mul] at enough
          omega
        have tableAfter : middle.database.table? name = .some changed := by
          rw [database, Database.tableSet, if_pos rfl]
        obtain ⟨finish, leads⟩ := ih tableAfter moved onward fewer rest
        refine ⟨batchesEndBehind full each (database ▸ finish), fun Good survives good => ?_⟩
        have first := committed Good survives good
        exact first.trans (leads Good survives first.present)

end Reencryption
end BrokerVault
