import BrokerVault.Proofs.Rewriting.Batches
import Mathlib.Algebra.GroupWithZero.Nat

/-! Rewriting all tables. Whatever the tables hold and whenever a stop is asked for, a run leaves one
cut: each value before it is resealed, and all behind it is as it was. The answer tells where the
cut is and why it is there. -/
namespace BrokerVault.Reencryption

structure CutPoint where
  finished : List ProtectedTable
  begun : Option (ProtectedTable × Nat)
  deriving DecidableEq, Repr

def CutPoint.groups (point : CutPoint) (name : ProtectedTable) (rows : List (Row Cell)) : Nat :=
  if name ∈ point.finished then groupCount rows
  else
    match point.begun with
    | some (begun, groups) => if name = begun then groups else 0
    | none => 0

def CutState (suite : CipherSuite) (encryptor : Encryptor) (world : Surroundings) (point : CutPoint)
    (before after : Database) : Prop :=
  after.credentials = before.credentials ∧
  ∀ name, match before.table? name with
    | none => after.table? name = none
    | some stored => ∃ changed, after.table? name = some changed ∧
      CutTable suite encryptor world name (point.groups name (stored.after 0)) stored changed

def filledIn (database : Database) (name : ProtectedTable) : Nat :=
  match database.table? name with
  | some stored => filled (stored.after 0)
  | none => 0

inductive Ending (suite : CipherSuite) (encryptor : Encryptor) (world : Surroundings)
    (before : Database) (names : List ProtectedTable) :
    CutPoint → Except ReencryptError Nat → Prop where
  | finished (present : ∀ name ∈ names, (before.table? name).isSome) :
      Ending suite encryptor world before names ⟨names, none⟩
        (.ok (names.map (filledIn before)).sum)
  | halted {finished name rest stored groups error} (order : finished ++ name :: rest = names)
      (present : ∀ other ∈ finished, (before.table? other).isSome)
      (table : before.table? name = some stored)
      (halt : Halt suite encryptor world name (stored.after 0) groups (.error error)) :
      Ending suite encryptor world before names ⟨finished, some (name, groups)⟩ (.error error)
  | missing {finished name rest} (order : finished ++ name :: rest = names)
      (present : ∀ other ∈ finished, (before.table? other).isSome)
      (absent : before.table? name = none) :
      Ending suite encryptor world before names ⟨finished, some (name, 0)⟩
        (.error (.database name (.missingTable name.name)))
  | stopped {finished name rest moment} (order : finished ++ name :: rest = names)
      (present : ∀ other ∈ finished, (before.table? other).isSome)
      (absent : before.table? name = none) (asked : world.cancelled moment = true) :
      Ending suite encryptor world before names ⟨finished, some (name, 0)⟩
        (.error (.interrupted name))

variable {suite : CipherSuite} {encryptor : Encryptor} {world : Surroundings}
  {name : ProtectedTable} {vault after : Vault} {before : Database}

theorem cutNothing (stored : Table Cell) :
    CutTable suite encryptor world name 0 stored stored :=
  ⟨[], by simp, by simpa using (stored.splitAt 0).rows⟩

theorem cutNothingSame {stored changed : Table Cell}
    (cut : CutTable suite encryptor world name 0 stored changed) : changed = stored := by
  obtain ⟨rewritten, each, rows⟩ := cut
  rw [Nat.zero_mul, List.take_zero, List.forall₂_nil_left_iff] at each
  subst each
  exact Table.sameRows (by rw [(stored.splitAt 0).rows, rows]; simp)

theorem cutStateStart (before : Database) :
    CutState suite encryptor world ⟨[], none⟩ before before := by
  refine ⟨rfl, fun name => ?_⟩
  split
  · assumption
  · rename_i stored found
    exact ⟨stored, found, cutNothing stored⟩

theorem cutStateAhead {finished : List ProtectedTable} {database : Database}
    (cut : CutState suite encryptor world ⟨finished, none⟩ before database)
    (ahead : name ∉ finished) : database.table? name = before.table? name := by
  have table := cut.2 name
  split at table
  · rename_i absent
    rw [table, absent]
  · rename_i stored found
    obtain ⟨changed, place, rows⟩ := table
    rw [CutPoint.groups, if_neg ahead] at rows
    rw [place, found, cutNothingSame rows]

theorem cutStateWaiting {finished : List ProtectedTable} {database : Database}
    (cut : CutState suite encryptor world ⟨finished, none⟩ before database)
    (name : ProtectedTable) :
    CutState suite encryptor world ⟨finished, some (name, 0)⟩ before database := by
  refine ⟨cut.1, fun other => ?_⟩
  have count : ∀ rows, (CutPoint.mk finished (some (name, 0))).groups other rows =
      (CutPoint.mk finished none).groups other rows := by
    intro rows
    simp [CutPoint.groups]
  simpa only [count] using cut.2 other

theorem cutStateBegun {finished : List ProtectedTable} {database : Database} {groups : Nat}
    {stored changed : Table Cell}
    (cut : CutState suite encryptor world ⟨finished, none⟩ before database)
    (ahead : name ∉ finished) (table : before.table? name = some stored)
    (groupsCut : CutTable suite encryptor world name groups stored changed) :
    CutState suite encryptor world ⟨finished, some (name, groups)⟩ before
      (database.setTable name (some changed)) := by
  refine ⟨by rw [Database.credentialsSet, cut.1], fun other => ?_⟩
  have earlier := cut.2 other
  by_cases same : other = name
  · subst same
    rw [table]
    refine ⟨changed, by simp, ?_⟩
    simpa only [CutPoint.groups, if_neg ahead, ↓reduceIte] using groupsCut
  · have untouched : (database.setTable name (some changed)).table? other = database.table? other := by
      rw [Database.tableSet, if_neg same]
    rw [untouched]
    simpa only [CutPoint.groups, if_neg same] using earlier

theorem cutStateFinished {finished : List ProtectedTable} {database : Database} {groups : Nat}
    {stored : Table Cell} (table : before.table? name = some stored)
    (all : groups = groupCount (stored.after 0))
    (cut : CutState suite encryptor world ⟨finished, some (name, groups)⟩ before database) :
    CutState suite encryptor world ⟨finished ++ [name], none⟩ before database := by
  refine ⟨cut.1, fun other => ?_⟩
  have earlier := cut.2 other
  by_cases same : other = name
  · subst same
    rw [table] at earlier ⊢
    obtain ⟨changed, place, rows⟩ := earlier
    refine ⟨changed, place, ?_⟩
    have count : (CutPoint.mk finished (some (other, groups))).groups other (stored.after 0) =
        (CutPoint.mk (finished ++ [other]) none).groups other (stored.after 0) := by
      by_cases old : other ∈ finished <;> simp [CutPoint.groups, old, all]
    exact count ▸ rows
  · have count : ∀ rows, (CutPoint.mk finished (some (name, groups))).groups other rows =
        (CutPoint.mk (finished ++ [name]) none).groups other rows := by
      intro rows
      by_cases old : other ∈ finished <;> simp [CutPoint.groups, old, same]
    simpa only [count] using earlier

theorem rewriteTableFound {stored : Table Cell} {result : Except ReencryptError Nat}
    (table : vault.database.table? name = some stored)
    (ran : rewriteTable suite encryptor name world vault = (result, after)) :
    (∃ groups changed, CutTable suite encryptor world name groups stored changed ∧
      after.database = vault.database.setTable name (some changed) ∧
      Halt suite encryptor world name (stored.after 0) groups result) ∧
    ∀ Good, Survives suite encryptor world Good → Good vault.database → vault.Leads Good after := by
  rw [rewriteTable, Action.bindDatabase, table] at ran
  obtain ⟨⟨groups, rewritten, changed, told, each, rows, left, halt, answer⟩, leads⟩ :=
    rewriteBatchesRan table (stored.splitAt 0) (Int.le_refl 0) (passesEnough stored) ran
  have same : result = told := by
    rw [answer]
    cases told with
    | ok total => exact congrArg Except.ok (Nat.zero_add total)
    | error error => rfl
  exact ⟨⟨groups, changed, ⟨rewritten, each, rows⟩, left, same ▸ halt⟩, leads⟩

theorem rewriteTableMissing {result : Except ReencryptError Nat}
    (absent : vault.database.table? name = none)
    (ran : rewriteTable suite encryptor name world vault = (result, after)) :
    after.database = vault.database ∧ after.commits = vault.commits ∧
      (result = .error (.database name (.missingTable name.name)) ∨
        ∃ moment, world.cancelled moment = true ∧ result = .error (.interrupted name)) := by
  rw [rewriteTable, Action.bindDatabase, absent, passesFor, rewriteBatches,
    Action.bindCancelled] at ran
  cases asked : world.cancelled vault.moment with
  | true =>
    simp only [asked, ↓reduceIte] at ran
    cases ran
    exact ⟨rfl, rfl, .inr ⟨_, asked, rfl⟩⟩
  | false =>
    have refused : vault.database.fetchBatch name 0 batchSize =
        .error (.missingTable name.name) := by
      simp only [Database.fetchBatch, Database.protectedTable, absent, bind, Except.bind]
    simp only [asked, Bool.false_eq_true, ↓reduceIte, Action.bindDatabase, refused,
      Except.mapError] at ran
    rw [Action.bindOfError rfl] at ran
    cases ran
    exact ⟨rfl, rfl, .inl rfl⟩

theorem rewriteTablesRan {finished rest : List ProtectedTable} {result : Except ReencryptError Nat}
    (distinct : (finished ++ rest).Nodup)
    (start : CutState suite encryptor world ⟨finished, none⟩ before vault.database)
    (present : ∀ other ∈ finished, (before.table? other).isSome)
    (ran : rewriteTables suite encryptor (finished.map (filledIn before)).sum rest world vault =
      (result, after)) :
    (∃ point, CutState suite encryptor world point before after.database ∧
      Ending suite encryptor world before (finished ++ rest) point result) ∧
    ∀ Good, Survives suite encryptor world Good → Good vault.database → vault.Leads Good after := by
  -- On the tables that are left: those before them are finished.
  induction rest generalizing finished vault with
  | nil =>
    cases ran
    rw [List.append_nil]
    exact ⟨⟨_, start, .finished present⟩, fun Good _ good => Vault.leadsSame good rfl rfl⟩
  | cons name rest ih =>
    have ahead : name ∉ finished := fun old =>
      (List.nodup_append.1 distinct).2.2 name old name List.mem_cons_self rfl
    have whole : finished ++ name :: rest = (finished ++ [name]) ++ rest := by simp
    have tableNow := cutStateAhead start ahead
    rw [rewriteTables] at ran
    cases table : before.table? name with
    | none =>
      rw [table] at tableNow
      rcases Action.bindRan ran with ⟨count, middle, one, _⟩ | ⟨error, one, rfl⟩
      · obtain ⟨_, _, wrong | ⟨_, _, wrong⟩⟩ := rewriteTableMissing tableNow one <;> cases wrong
      · obtain ⟨database, commits, told⟩ := rewriteTableMissing tableNow one
        refine ⟨⟨_, database ▸ cutStateWaiting start name, ?_⟩, fun Good _ good => Vault.leadsSame good database commits⟩
        rcases told with same | ⟨moment, asked, same⟩
        · cases same
          exact .missing rfl present table
        · cases same
          exact .stopped rfl present table asked
    | some stored =>
      rw [table] at tableNow
      rcases Action.bindRan ran with ⟨count, middle, one, others⟩ | ⟨error, one, rfl⟩
      · obtain ⟨⟨groups, changed, groupsCut, left, halt⟩, leads⟩ := rewriteTableFound tableNow one
        cases halt
        have cut := cutStateFinished table rfl (cutStateBegun start ahead table groupsCut)
        have presentNow : ∀ other ∈ finished ++ [name], (before.table? other).isSome := by
          intro other place
          rcases List.mem_append.1 place with old | new
          · exact present other old
          · rw [List.mem_singleton.1 new, table]
            rfl
        have total : (finished.map (filledIn before)).sum + filled (stored.after 0) =
            ((finished ++ [name]).map (filledIn before)).sum := by
          simp [filledIn, table]
        rw [total] at others
        rw [whole] at distinct ⊢
        obtain ⟨ending, later⟩ := ih distinct (left ▸ cut) presentNow others
        refine ⟨ending, fun Good survives good => ?_⟩
        have first := leads Good survives good
        exact first.trans (later Good survives first.present)
      · obtain ⟨⟨groups, changed, groupsCut, left, halt⟩, leads⟩ := rewriteTableFound tableNow one
        exact ⟨⟨_, left ▸ cutStateBegun start ahead table groupsCut,
          .halted rfl present table halt⟩, leads⟩

theorem rewriteAllRan {result : Except ReencryptError Nat}
    (ran : rewriteAll suite encryptor world vault = (result, after)) :
    (∃ point, CutState suite encryptor world point vault.database after.database ∧
      Ending suite encryptor world vault.database ProtectedTable.all point result) ∧
    ∀ Good, Survives suite encryptor world Good → Good vault.database → vault.Leads Good after := by
  have distinct : ([] ++ ProtectedTable.all).Nodup := by decide
  have none : ∀ other ∈ [], (vault.database.table? other).isSome := by simp
  exact rewriteTablesRan distinct (cutStateStart vault.database) none ran

/-- Every run leaves one cut, and its answer says where and why. -/
theorem rewriteAllLeavesOneCut (suite : CipherSuite) (encryptor : Encryptor) (world : Surroundings)
    (vault : Vault) :
    ∃ point,
      CutState suite encryptor world point vault.database
        (rewriteAll suite encryptor world vault).2.database ∧
      Ending suite encryptor world vault.database ProtectedTable.all point
        (rewriteAll suite encryptor world vault).1 :=
  (rewriteAllRan rfl).1

theorem cutTableTouched {groups : Nat} {stored changed : Table Cell}
    (cut : CutTable suite encryptor world name groups stored changed) :
    List.Forall₂ (Touched suite encryptor world name) stored.rows changed.rows := by
  obtain ⟨rewritten, each, rows⟩ := cut
  have split := stored.splitAt 0
  have visited : ∀ row ∈ (stored.after 0).take (groups * batchSize), 0 < row.rowid :=
    fun row place => split.waiting row (List.mem_of_mem_take place)
  have layout : stored.rows = stored.below 1 ++ ((stored.after 0).take (groups * batchSize) ++
      (stored.after 0).drop (groups * batchSize)) := by
    rw [List.take_append_drop]
    exact split.rows
  rw [layout, rows]
  exact List.rel_append (untouched _) (List.rel_append (resealedTouched visited each) (untouched _))

theorem rewriteAllTouched {result : Except ReencryptError Nat}
    (ran : rewriteAll suite encryptor world vault = (result, after)) :
    after.database.credentials = vault.database.credentials ∧
    ∀ name stored, vault.database.table? name = some stored → ∃ changed,
      after.database.table? name = some changed ∧
      List.Forall₂ (Touched suite encryptor world name) stored.rows changed.rows := by
  obtain ⟨⟨point, cut, _⟩, _⟩ := rewriteAllRan ran
  refine ⟨cut.1, fun name stored found => ?_⟩
  have table := cut.2 name
  rw [found] at table
  obtain ⟨changed, left, rows⟩ := table
  exact ⟨changed, left, cutTableTouched rows⟩

def Rewritten (suite : CipherSuite) (encryptor : Encryptor) (world : Surroundings)
    (name : ProtectedTable) (row changed : Row Cell) : Prop :=
  row.rowid ≤ 0 ∧ changed = row ∨ 0 < row.rowid ∧ Resealed suite encryptor world name row changed

theorem cutTableWhole {stored changed : Table Cell}
    (cut : CutTable suite encryptor world name (groupCount (stored.after 0)) stored changed) :
    List.Forall₂ (Rewritten suite encryptor world name) stored.rows changed.rows := by
  obtain ⟨rewritten, each, rows⟩ := cut
  have split := stored.splitAt 0
  have covered := coversAll (stored.after 0)
  rw [List.take_of_length_le covered] at each
  rw [List.drop_eq_nil_of_le covered, List.append_nil] at rows
  have first : List.Forall₂ (Rewritten suite encryptor world name) (stored.below 1)
      (stored.below 1) :=
    List.forall₂_same.2 fun row place => .inl ⟨split.passed row place, rfl⟩
  have behind : List.Forall₂ (Rewritten suite encryptor world name) (stored.after 0) rewritten := by
    refine (pairedWithin each).imp ?_
    exact fun row _ both => .inr ⟨split.waiting row both.1, both.2⟩
  rw [rows, split.rows]
  exact List.rel_append first behind

theorem rewriteAllWhole {count : Nat}
    (ran : rewriteAll suite encryptor world vault = (.ok count, after)) :
    count = (ProtectedTable.all.map (filledIn vault.database)).sum ∧
    after.database.credentials = vault.database.credentials ∧
    ∀ name, ∃ stored changed, vault.database.table? name = some stored ∧
      after.database.table? name = some changed ∧
      List.Forall₂ (Rewritten suite encryptor world name) stored.rows changed.rows := by
  obtain ⟨⟨point, cut, ending⟩, _⟩ := rewriteAllRan ran
  cases ending with
  | finished present =>
    refine ⟨rfl, cut.1, fun name => ?_⟩
    obtain ⟨stored, table⟩ := Option.isSome_iff_exists.1 (present name name.listed)
    have tables := cut.2 name
    rw [table] at tables
    obtain ⟨changed, tableAfter, rows⟩ := tables
    rw [CutPoint.groups, if_pos name.listed] at rows
    exact ⟨stored, changed, table, tableAfter, cutTableWhole rows⟩

def Resealable (suite : CipherSuite) (encryptor : Encryptor) (name : ProtectedTable)
    (row : Row Cell) : Prop :=
  row.value = .null ∨ ∃ value plaintext, row.value.read name = .ok (some value) ∧
    encryptor.readDocument suite value = .ok plaintext ∧
    ∀ nonce : BytesOf nonceLength, ∃ sealedValue,
      encryptor.sealColumn suite name.format (some nonce) plaintext = .ok sealedValue

inductive Unwritten (suite : CipherSuite) (encryptor : Encryptor) (database : Database) :
    ReencryptError → Prop where
  | intro {name stored row value plaintext cause} {nonce : BytesOf nonceLength}
      (table : database.table? name = some stored) (place : row ∈ stored.after 0)
      (held : row.value.read name = .ok (some value))
      (read : encryptor.readDocument suite value = .ok plaintext)
      (refused : encryptor.sealColumn suite name.format (some nonce) plaintext = .error cause) :
      Unwritten suite encryptor database (.encrypt name row.id cause)

theorem Unwritten.sameTables {database other : Database} {error : ReencryptError}
    (same : ∀ name, other.table? name = database.table? name)
    (unwritten : Unwritten suite encryptor other error) :
    Unwritten suite encryptor database error := by
  cases unwritten with
  | intro table place held read refused =>
    exact .intro ((same _).symm.trans table) place held read refused

inductive Blocked (suite : CipherSuite) (encryptor : Encryptor) (world : Surroundings)
    (database : Database) : ReencryptError → Prop where
  | intro {name stored earlier row later value plaintext cause} {nonce : BytesOf nonceLength}
      (table : database.table? name = some stored)
      (layout : stored.after 0 = earlier ++ row :: later)
      (before : ∀ other ∈ earlier, ∃ changed, Resealed suite encryptor world name other changed)
      (held : row.value.read name = .ok (some value))
      (read : encryptor.readDocument suite value = .ok plaintext)
      (refused : encryptor.sealColumn suite name.format (some nonce) plaintext = .error cause) :
      Blocked suite encryptor world database (.encrypt name row.id cause)

theorem resealedBefore {groups : Nat} {stored changed : Table Cell} {earlier later : List (Row Cell)}
    {row : Row Cell} {rewritten : List (Row Cell)}
    (cut : CutTable suite encryptor world name groups stored changed)
    (group : groupAt (stored.after 0) groups = earlier ++ row :: later)
    (each : List.Forall₂ (Resealed suite encryptor world name) earlier rewritten) :
    ∃ before behind, stored.after 0 = before ++ row :: behind ∧
      ∀ other ∈ before, ∃ changed, Resealed suite encryptor world name other changed := by
  obtain ⟨resealed, whole, _⟩ := cut
  generalize stored.after 0 = rows at group whole ⊢
  refine ⟨rows.take (groups * batchSize) ++ earlier,
    later ++ (rows.drop (groups * batchSize)).drop batchSize, ?_, fun other place => ?_⟩
  · calc rows
        _ = rows.take (groups * batchSize) ++ rows.drop (groups * batchSize) :=
          (List.take_append_drop _ _).symm
        _ = rows.take (groups * batchSize) ++
            (groupAt rows groups ++ (rows.drop (groups * batchSize)).drop batchSize) :=
          congrArg _ (List.take_append_drop _ _).symm
        _ = _ := by rw [group]; simp only [List.append_assoc, List.cons_append]
  · rcases List.mem_append.1 place with old | new
    · obtain ⟨changed, _, step⟩ := pairedLeft whole old
      exact ⟨changed, step⟩
    · obtain ⟨changed, _, step⟩ := pairedLeft each new
      exact ⟨changed, step⟩

theorem rewriteAllBlocked {error : ReencryptError} (calm : world.Calm)
    (readable : ∀ name, ∃ stored, vault.database.table? name = some stored ∧
      ∀ row ∈ stored.after 0, row.value = .null ∨ ∃ value plaintext,
        row.value.read name = .ok (some value) ∧ encryptor.readDocument suite value = .ok plaintext)
    (ran : rewriteAll suite encryptor world vault = (.error error, after)) :
    Blocked suite encryptor world vault.database error := by
  obtain ⟨⟨point, cut, ending⟩, _⟩ := rewriteAllRan ran
  cases ending with
  | @halted finished name rest stored groups _ order _ table halt =>
    obtain ⟨found, also, each⟩ := readable name
    cases table.symm.trans also
    have visited : ∀ row ∈ groupAt (stored.after 0) groups, row ∈ stored.after 0 :=
      fun row place => List.mem_of_mem_drop (List.mem_of_mem_take place)
    cases halt with
    | stopped _ asked => simp [calm.unstopped] at asked
    | @undecodable _ _ row _ _ _ group _ faulty =>
      rcases each row (visited row (by simp [group])) with null | ⟨value, _, held, _⟩
      · cases faulty.symm.trans (readNull.2 null)
      · cases faulty.symm.trans held
    | @failed _ _ row _ _ _ _ group _ before fails =>
      have place := visited row (by simp [group])
      cases fails with
      | unread held refused =>
        rcases each row place with null | ⟨value, plaintext, also, read⟩
        · exact (readSome held null).elim
        · cases held.symm.trans also
          cases refused.symm.trans read
      | @unwritten _ _ moment _ held opened refused =>
        have distinct : (finished ++ name :: rest).Nodup := order ▸ by decide
        have ahead : name ∉ finished := fun old =>
          (List.nodup_append.1 distinct).2.2 name old name List.mem_cons_self rfl
        have rows := cut.2 name
        rw [table] at rows
        obtain ⟨changed, _, rows⟩ := rows
        have cutHere : (CutPoint.mk finished (some (name, groups))).groups name (stored.after 0) =
            groups := by simp [CutPoint.groups, ahead]
        rw [cutHere] at rows
        obtain ⟨_, _, layout, resealed⟩ := resealedBefore rows group before
        obtain ⟨nonce, drawn⟩ := calm.random moment nonceLength
        exact .intro table layout resealed held opened (drawn ▸ refused)
  | @missing _ name _ _ _ absent =>
    obtain ⟨found, table, _⟩ := readable name
    simp [absent] at table
  | stopped _ _ _ asked => simp [calm.unstopped] at asked

theorem rewriteAllFails {error : ReencryptError} (calm : world.Calm)
    (readable : ∀ name, ∃ stored, vault.database.table? name = some stored ∧
      ∀ row ∈ stored.after 0, row.value = .null ∨ ∃ value plaintext,
        row.value.read name = .ok (some value) ∧ encryptor.readDocument suite value = .ok plaintext)
    (ran : rewriteAll suite encryptor world vault = (.error error, after)) :
    Unwritten suite encryptor vault.database error := by
  cases rewriteAllBlocked calm readable ran with
  | intro table layout _ held read refused => exact .intro table (by simp [layout]) held read refused

theorem rewriteAllCalm (calm : world.Calm)
    (tables : ∀ name, ∃ stored, vault.database.table? name = some stored ∧
      ∀ row ∈ stored.after 0, Resealable suite encryptor name row) :
    ∃ count after, rewriteAll suite encryptor world vault = (.ok count, after) := by
  cases ran : rewriteAll suite encryptor world vault with
  | mk result after =>
    cases result with
    | ok count => exact ⟨count, after, rfl⟩
    | error error =>
      have unwritten : Unwritten suite encryptor vault.database error := by
        refine rewriteAllFails calm (fun name => ?_) ran
        obtain ⟨stored, table, each⟩ := tables name
        refine ⟨stored, table, fun row place => (each row place).imp_right ?_⟩
        rintro ⟨value, plaintext, held, read, _⟩
        exact ⟨value, plaintext, held, read⟩
      cases unwritten with
      | @intro name stored row value plaintext _ nonce table place held read refused =>
        obtain ⟨found, also, each⟩ := tables name
        cases table.symm.trans also
        rcases each row place with null | ⟨_, _, alike, same, seals⟩
        · exact (readSome held null).elim
        · cases held.symm.trans alike
          cases read.symm.trans same
          obtain ⟨sealedValue, written⟩ := seals nonce
          cases refused.symm.trans written

end BrokerVault.Reencryption
