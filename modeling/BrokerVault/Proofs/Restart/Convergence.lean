import BrokerVault.Proofs.Completion
import BrokerVault.Proofs.Restart.Turning
import BrokerVault.Proofs.Restart.Uninterrupted

/-! Runs that are stopped anywhere, any number of times, and then run to the end, come where one
uninterrupted run comes: to the same labels, the same primary, and values that open alike. -/
namespace BrokerVault.Restart

open Reconciliation Reencryption

variable {suite : CipherSuite} {settings : Settings} {Worlds : Surroundings → Prop}
  {base : Database} {basis : Basis suite settings Worlds base} {world : Surroundings}
  {writer : Encryptor} {table longer before : Table Credential} {database : Database}
  {vault after : Vault} {sole : Option String} {new : List (Row Credential)}
  {encryptors : List Encryptor} {plan : Reconciliation}

namespace Basis

structure Finished (basis : Basis suite settings Worlds base) (writer : Encryptor)
    (table : Table Credential) (database : Database) : Prop where
  found : database.credentials = some table
  known : ∀ row ∈ table.rows, basis.Known row
  chosen : Chosen suite table.rows settings.passwords writer
  settled : basis.Settled writer table database
  labels : table.rows.map (·.id) = if basis.unreadable = [] then basis.kept else basis.labels

theorem restedWriter {other : Encryptor} (known : ∀ row ∈ table.rows, basis.Known row)
    (chosen : Chosen suite table.rows settings.passwords writer)
    (first : Chosen suite basis.credentials.rows settings.passwords other) : writer = other := by
  cases chosen with
  | none absent =>
    cases first with
    | none => rfl
    | key primary => simp [absent] at primary
  | @key entry _ primary held =>
    cases first with
    | none absent => simp [primary] at absent
    | key otherPrimary otherHeld =>
      rw [primary] at otherPrimary
      cases otherPrimary
      obtain ⟨row, place, key, label, derived, rfl⟩ := held
      obtain ⟨stored, storedPlace, otherKey, otherLabel, otherDerived, rfl⟩ := otherHeld
      cases known row place with
      | old otherPlace same =>
        have storedLabel := same.id.symm.trans (label.trans otherLabel.symm)
        cases Table.sameRow otherPlace storedPlace storedLabel
        rw [same.salt, otherDerived] at derived
        cases derived
        rfl
      | @made owner _ _ _ configured absent _ made =>
        cases basis.accepted.sameEntry configured (List.mem_of_find?_eq_some primary)
          (made.id.symm.trans label)
        rw [← otherLabel, Table.findOfMem storedPlace] at absent
        cases absent

theorem Settled.failures (settled : basis.Settled writer table database)
    (known : ∀ row ∈ table.rows, basis.Known row)
    (chosen : Chosen suite table.rows settings.passwords writer) :
    Verification.failures suite writer database = .ok basis.unreadable := by
  cases settled with
  | promoted due _ _ tables =>
    rw [(basis.turning due).1]
    exact Verification.failuresNil.2 (Setup.allReadAfter tables)
  | resting rested _ _ tables =>
    obtain ⟨encryptor, first, failures⟩ := basis.resting (not_not.1 rested)
    rw [restedWriter known chosen first, ← failures]
    exact Verification.failuresSameTables tables

theorem Settled.primaryConfigured (settled : basis.Settled writer table database)
    (chosen : Chosen suite table.rows settings.passwords writer) {label : String}
    (primary : label ∈ Credentials.primaryLabels table) :
    label ∈ settings.passwords.map (·.label) := by
  obtain ⟨sole, primaries, supplied⟩ := (settled.stage chosen).sole
  rw [primaries] at primary
  exact supplied label (by simpa using primary)

theorem keptRows (founded : Founded suite world settings before longer sole new encryptors plan)
    (labels : table.rows.map (·.id) = longer.rows.map (·.id)) :
    (table.keep fun row => !plan.stale.contains row.id).rows =
      table.rows.filter fun row => (settings.passwords.map (·.label)).contains row.id := by
  refine List.filter_congr fun row place => ?_
  have listed : row.id ∈ longer.rows.map (·.id) := labels ▸ List.mem_map.2 ⟨row, place, rfl⟩
  have both := founded.labels row.id
  rw [Bool.eq_iff_iff]
  simpa [listed] using both

theorem Settled.keptLabels (settled : basis.Settled writer table database) :
    (table.rows.map (·.id)).filter
      (fun label => (settings.passwords.map (·.label)).contains label) = basis.kept := by
  have twice : basis.kept.filter (fun label =>
      (settings.passwords.map (·.label)).contains label) = basis.kept := by
    rw [kept, List.filter_filter]
    simp only [Bool.and_self]
  cases settled with
  | promoted _ labels =>
    rcases labels with labels | labels <;> rw [labels]
    · rfl
    · exact twice
  | resting _ labels =>
    rcases labels with labels | ⟨_, labels⟩ <;> rw [labels]
    · rfl
    · exact twice

theorem Settled.cleaned
    (founded : Founded suite world settings before longer sole new encryptors plan)
    (settled : basis.Settled writer table database)
    (labels : table.rows.map (·.id) = longer.rows.map (·.id))
    (known : ∀ row ∈ table.rows, basis.Known row)
    (chosen : Chosen suite table.rows settings.passwords writer) (readable : basis.unreadable = []) :
    basis.Finished writer (table.keep fun row => !plan.stale.contains row.id)
      (database.withCredentials (table.keep fun row => !plan.stale.contains row.id)) := by
  have rows := keptRows founded labels
  have ids : (table.keep fun row => !plan.stale.contains row.id).rows.map (·.id) = basis.kept := by
    rw [rows, ← settled.keptLabels, List.filter_map]
    rfl
  have primaries : Credentials.primaryLabels (table.keep fun row => !plan.stale.contains row.id) =
      Credentials.primaryLabels table := by
    rw [Credentials.primaryLabels, rows, List.filter_filter, Credentials.primaryLabels]
    refine congrArg _ (List.filter_congr fun row place => ?_)
    cases primary : row.value.primary with
    | false => rfl
    | true =>
      have wanted := settled.primaryConfigured chosen
        ((Credentials.primaryLabelsAre table place).1 primary)
      simpa using wanted
  refine ⟨rfl, fun row place => known row (List.mem_filter.1 place).1, ?_, ?_, ?_⟩
  · cases chosen with
    | none absent => exact .none absent
    | key primary held =>
      obtain ⟨row, place, key, label, rest⟩ := held
      have wanted : row.id ∈ settings.passwords.map (·.label) :=
        label ▸ List.mem_map.2 ⟨_, List.mem_of_find?_eq_some primary, rfl⟩
      refine .key primary ⟨row, ?_, key, label, rest⟩
      rw [rows]
      exact List.mem_filter.2 ⟨place, by simpa using wanted⟩
  · cases settled with
    | promoted due _ promoted tables =>
      refine .promoted due (.inr ids) (primaries.trans promoted) fun name => ?_
      simpa only [Database.tableOfWith] using tables name
    | resting rested _ same tables =>
      refine .resting rested (.inr ⟨readable, ids⟩) (primaries.trans same) fun name => ?_
      rw [Database.tableOfWith, tables name]
  · rw [if_pos readable, ids]

theorem removeMidway
    (founded : Founded suite world settings before longer sole new encryptors plan)
    {removal : Except SetupError (List String)}
    (found : vault.database.credentials = some table)
    (labels : table.rows.map (·.id) = longer.rows.map (·.id))
    (known : ∀ row ∈ table.rows, basis.Known row)
    (chosen : Chosen suite table.rows settings.passwords plan.encryptor)
    (settled : basis.Settled plan.encryptor table vault.database)
    (complete : longer.rows.map (·.id) = basis.labels ∨ basis.unreadable = [])
    (ran : Setup.removeStale plan basis.unreadable world vault = (removal, after)) :
    (∃ deleted, removal = .ok deleted) ∧ vault.Leads basis.Midway after ∧
      ∃ left, basis.Finished plan.encryptor left after.database := by
  obtain ⟨went, stays, goes, leads⟩ := Setup.removeStaleRan found ran
  have here : basis.Midway vault.database := ⟨table, found, known, settled.stage chosen⟩
  by_cases readable : basis.unreadable = []
  · have finished := settled.cleaned founded labels known chosen readable
    rw [← goes readable] at finished
    refine ⟨went, leads _ here ⟨_, finished.found, finished.known, ?_⟩, _, finished⟩
    exact finished.settled.stage finished.chosen
  · have same := stays readable
    refine ⟨went, leads _ here (same ▸ here), table, same ▸ found, known, chosen, same ▸ settled, ?_⟩
    rw [if_neg readable, labels]
    exact complete.resolve_right readable

theorem turnedMidway
    (founded : Founded suite world settings before longer sole new encryptors plan)
    (found : vault.database.credentials = some longer) (known : ∀ row ∈ longer.rows, basis.Known row)
    (stage : basis.Stage longer vault.database) (allowed : Worlds world) {rotated : Option Nat}
    (turned : Setup.Turned suite world plan vault rotated after) :
    vault.Leads basis.Midway after ∧ (longer.rows.map (·.id) = basis.labels ∨ basis.unreadable = []) ∧
      ∃ table, after.database.credentials = some table ∧
        table.rows.map (·.id) = longer.rows.map (·.id) ∧ (∀ row ∈ table.rows, basis.Known row) ∧
        Chosen suite table.rows settings.passwords plan.encryptor ∧
        basis.Settled plan.encryptor table after.database := by
  have complete : ∀ entry ∈ settings.passwords, entry.label ∈ longer.rows.map (·.id) :=
    fun _ configured => founded.complete configured
  rcases stage.standing complete founded.chosen with ⟨due, labels, primaries, tables⟩ | settled
  · have form := dueRotation founded due primaries
    cases turned with
    | none absent => simp [absent] at form
    | some present rotating =>
      rw [present] at form
      cases form
      obtain ⟨leads, promoted⟩ :=
        rotatingMidway founded found known due labels primaries tables allowed rotating
      obtain ⟨changed, credentials, knownNow, keys, settled⟩ := promoted _ rfl
      exact ⟨leads, .inl labels, changed, credentials, Credentials.sameLabels keys, knownNow,
        founded.chosen.sameKey keys, settled⟩
  · have form := settled.noRotation founded
    cases turned with
    | some present => simp [present] at form
    | none =>
      refine ⟨Vault.leadsSame ⟨longer, found, known, stage⟩ rfl rfl, ?_, longer, found, rfl, known,
        founded.chosen, settled⟩
      cases settled with
      | promoted due => exact .inr (basis.turning due).1
      | resting _ labels => exact labels.imp_right fun both => both.1

theorem runMidway {result : Except SetupError Setup} (midway : basis.Midway vault.database)
    (allowed : Worlds world) (ran : Setup.run suite settings world vault = (result, after)) :
    vault.Leads basis.Midway after ∧ ∀ setup, result = .ok setup →
      setup.unreadable = basis.unreadable ∧
        ∃ table, basis.Finished setup.encryptor table after.database := by
  cases Setup.runRan ran with
  | unreconciled reconciled =>
    exact ⟨(reconcileMidway midway allowed reconciled).1, fun _ wrong => nomatch wrong⟩
  | unturned reconciled present rotating =>
    obtain ⟨first, planned⟩ := reconcileMidway midway allowed reconciled
    obtain ⟨_, longer, _, _, _, founded, found, known, stage⟩ := planned _ rfl
    have complete : ∀ entry ∈ settings.passwords, entry.label ∈ longer.rows.map (·.id) :=
      fun _ configured => founded.complete configured
    refine ⟨first.trans ?_, fun _ wrong => nomatch wrong⟩
    rcases stage.standing complete founded.chosen with ⟨due, labels, primaries, tables⟩ | settled
    · have form := dueRotation founded due primaries
      rw [present] at form
      cases form
      exact (rotatingMidway founded found known due labels primaries tables allowed rotating).1
    · have form := settled.noRotation founded
      simp [present] at form
  | unchecked reconciled turned checking =>
    obtain ⟨first, planned⟩ := reconcileMidway midway allowed reconciled
    obtain ⟨_, longer, _, _, _, founded, found, known, stage⟩ := planned _ rfl
    obtain ⟨second, _⟩ := turnedMidway founded found known stage allowed turned
    exact ⟨first.trans second, fun _ wrong => nomatch wrong⟩
  | checked reconciled turned checking removing answer =>
    obtain ⟨first, planned⟩ := reconcileMidway midway allowed reconciled
    obtain ⟨_, longer, _, _, _, founded, found, known, stage⟩ := planned _ rfl
    obtain ⟨second, complete, table, foundNow, labels, knownNow, chosen, settled⟩ :=
      turnedMidway founded found known stage allowed turned
    have same := checking.symm.trans (settled.failures knownNow chosen)
    cases same
    obtain ⟨⟨deleted, rfl⟩, third, left, finished⟩ :=
      removeMidway founded foundNow labels knownNow chosen settled complete removing
    refine ⟨(first.trans second).trans third, fun setup same => ?_⟩
    cases answer.symm.trans same
    exact ⟨rfl, left, finished⟩

theorem runCalm (midway : basis.Midway vault.database) (allowed : Worlds world)
    (calm : world.Calm) :
    ∃ setup after, Setup.run suite settings world vault = (.ok setup, after) := by
  obtain ⟨table, found, known, stage⟩ := midway
  obtain ⟨sole, primaries, supplied⟩ := stage.sole
  have feasible : ∀ longer new encryptors plan,
      Founded suite world settings table longer sole new encryptors plan →
      Setup.Feasible suite plan (vault.database.withCredentials longer) := by
    intro longer new encryptors plan founded
    have whole : settings.passwords = settings.passwords ++ [] := (List.append_nil _).symm
    obtain ⟨knownNow, stageNow⟩ :=
      enrolledStage found known stage allowed whole founded.enrolled founded.rows
    rcases stageNow.standing (fun _ configured => founded.complete configured) founded.chosen with
      ⟨due, _, primariesNow, tables⟩ | settled
    · have form := dueRotation founded due primariesNow
      have own := founded.ownReader
      rw [founded.soleIs primariesNow] at own
      refine ⟨fun rotation present => ?_, fun absent => ?_⟩
      · cases form.symm.trans present
        exact progressResealable due founded.chosen (readersOfFounded founded knownNow) own tables
      · simp [form] at absent
    · have form := settled.noRotation founded
      refine ⟨fun rotation present => ?_, fun _ => ⟨_, settled.failures knownNow founded.chosen⟩⟩
      simp [form] at present
  obtain ⟨setup, after, ran, _⟩ := Setup.runCalm basis.law calm basis.accepted found
    (solePrimaryOk.2 primaries) supplied basis.policy
    (fun _ configured => enrollable known stage configured) feasible
  exact ⟨setup, after, ran⟩

theorem stoppedMidway (basis : Basis suite settings Worlds base)
    (stopped : Stopped suite settings Worlds base database) : basis.Midway database := by
  induction stopped with
  | unbegun => exact begun
  | @again database world state _ allowed left midway =>
    have start : basis.Midway (Vault.ofDatabase database).database := midway
    exact (runMidway start allowed rfl).1.states rfl state left

end Basis

/-- A row behind two runs: it was never touched, or it opens alike under what each of them returned.
Where the runs had values to turn, both open it; else both may fail to, with one error. -/
structure SameRow (suite : CipherSuite) (turned : Prop) (first second : Encryptor)
    (name : ProtectedTable) (row other : Row Cell) : Prop where
  rowid : other.rowid = row.rowid
  id : other.id = row.id
  left : row.rowid ≤ 0 ∨ row.value = .null → other = row
  opens : 0 < row.rowid → row.value ≠ .null → ∃ value otherValue,
    row.value.read name = .ok (some value) ∧ other.value.read name = .ok (some otherValue) ∧
      second.openColumn suite otherValue = first.openColumn suite value ∧
      (turned → ∃ plaintext, first.openColumn suite value = .ok plaintext)

structure SameOutcome (suite : CipherSuite) (turned : Prop) (first second : Encryptor)
    (database other : Database) : Prop where
  credentials : ∃ stored otherStored, database.credentials = some stored ∧
    other.credentials = some otherStored ∧
    otherStored.rows.map (fun row => (row.id, row.value.primary)) =
      stored.rows.map fun row => (row.id, row.value.primary)
  tables : ∀ name, ∃ stored otherStored, database.table? name = some stored ∧
    other.table? name = some otherStored ∧
    List.Forall₂ (SameRow suite turned first second name) stored.rows otherStored.rows

theorem sameCarried {reader first second : Encryptor} {name : ProtectedTable}
    {row one other : Row Cell} (left : Carried suite reader first name row one)
    (right : Carried suite reader second name row other) (turned : Prop) :
    SameRow suite turned first second name one other := by
  cases left with
  | kept untouched =>
    have same : other = row := by
      cases right with
      | kept => rfl
      | moved visited _ _ held =>
        rcases untouched with low | null
        · exact absurd visited (Int.not_lt.2 low)
        · exact absurd null (readSome held)
    subst same
    refine ⟨rfl, rfl, fun _ => rfl, fun visited some => ?_⟩
    rcases untouched with low | null
    · exact absurd visited (Int.not_lt.2 low)
    · exact absurd null some
  | moved visited rowid id held read holds opens =>
    cases right with
    | kept untouched =>
      rcases untouched with low | null
      · exact absurd visited (Int.not_lt.2 low)
      · exact absurd null (readSome held)
    | moved _ otherRowid otherId otherHeld otherRead otherHolds otherOpens =>
      rw [held] at otherHeld
      cases otherHeld
      cases read.symm.trans otherRead
      refine ⟨otherRowid.trans rowid.symm, otherId.trans id.symm, fun untouched => ?_,
        fun _ _ => ⟨_, _, holds, otherHolds, otherOpens.trans opens.symm, fun _ => ⟨_, opens⟩⟩⟩
      rcases untouched with low | null
      · exact absurd (rowid ▸ visited) (Int.not_lt.2 low)
      · exact absurd null (readSome holds)

theorem turnsDue {setup : Setup}
    (ran : Setup.run suite settings world (.ofDatabase base) = (.ok setup, after))
    (turns : setup.reconciliation.rotation ≠ none) : basis.Due := by
  cases Setup.runRan ran with
  | @checked plan _ _ _ _ removal _ _ reconciled _ _ _ answer =>
    rcases reconcileRan reconciled with ⟨_, refused, _⟩ | ⟨before, found, planned, _⟩
    · cases refused
    cases basis.found.symm.trans found
    obtain ⟨_, _, _, _, founded, _⟩ := planned plan rfl
    have same : plan = setup.reconciliation := by
      cases removal with
      | error error => cases answer
      | ok deleted =>
        cases answer
        rfl
    have alone := (solePrimaryOk.1 founded.alone).symm.trans basis.alone
    have sole := founded.soleIs (founded.primaries.trans alone)
    intro rests
    exact turns (same ▸ founded.rotation.trans (if_pos (sole ▸ rests)))

theorem sameFinished {one other : Encryptor} {first second : Table Credential}
    {left right : Database} {turned : Prop} (due : turned → basis.Due)
    (finished : basis.Finished one first left) (again : basis.Finished other second right) :
    SameOutcome suite turned one other left right := by
  have ids : second.rows.map (·.id) = first.rows.map (·.id) :=
    again.labels.trans finished.labels.symm
  have primaries : Credentials.primaryLabels second = Credentials.primaryLabels first ∧
      ∀ name, ∃ stored otherStored, left.table? name = some stored ∧
        right.table? name = some otherStored ∧
        List.Forall₂ (SameRow suite turned one other name) stored.rows otherStored.rows := by
    cases finished.settled with
    | promoted due _ primaries tables =>
      cases again.settled with
      | resting rested => exact absurd due rested
      | promoted _ _ alsoPrimaries alsoTables =>
        refine ⟨alsoPrimaries.trans primaries.symm, fun name => ?_⟩
        obtain ⟨stored, changed, was, is, rows⟩ := tables name
        obtain ⟨alsoStored, alsoChanged, alsoWas, alsoIs, alsoRows⟩ := alsoTables name
        rw [was] at alsoWas
        cases alsoWas
        refine ⟨changed, alsoChanged, is, alsoIs, (pairedBoth rows alsoRows).imp ?_⟩
        rintro line otherLine ⟨_, _, before, now⟩
        exact sameCarried before now turned
    | resting rested _ primaries tables =>
      cases again.settled with
      | promoted due => exact absurd due rested
      | resting _ _ alsoPrimaries alsoTables =>
        refine ⟨alsoPrimaries.trans primaries.symm, fun name => ?_⟩
        obtain ⟨encryptor, stored, failures⟩ := basis.resting (not_not.1 rested)
        cases Basis.restedWriter finished.known finished.chosen stored
        cases Basis.restedWriter again.known again.chosen stored
        obtain ⟨rows, table, each⟩ := Verification.failuresReadable failures name
        refine ⟨rows, rows, (tables name).trans table, (alsoTables name).trans table,
          List.forall₂_same.2 fun row place => ⟨rfl, rfl, fun _ => rfl, fun visited some => ?_⟩⟩
        obtain ⟨value, held⟩ := each row (Table.memAfter.2 ⟨place, visited⟩)
        cases value with
        | none => exact absurd (readNull.1 held) some
        | some value =>
          exact ⟨value, value, held, held, rfl, fun turns => absurd (due turns) rested⟩
  refine ⟨⟨first, second, finished.found, again.found, ?_⟩, primaries.2⟩
  rw [Credentials.flagsOf, Credentials.flagsOf, ids, primaries.1]

/-- Wherever the process is stopped, and however often, a run that is let run to its end comes where
the uninterrupted one came. -/
theorem restartConverges (law : suite.OpensSealed) (alike : suite.SealsAlike)
    (accepted : Password.Accepted settings.passwords)
    (separated : Separated suite settings Worlds base) {first : Surroundings}
    (firstAllowed : Worlds first) {setup : Setup} {left : Vault}
    (uninterrupted : Setup.run suite settings first (.ofDatabase base) = (.ok setup, left))
    (stopped : Stopped suite settings Worlds base database) (allowed : Worlds world)
    (calm : world.Calm) :
    ∃ again after, Setup.run suite settings world (.ofDatabase database) = (.ok again, after) ∧
      again.unreadable = setup.unreadable ∧
      SameOutcome suite (setup.reconciliation.rotation ≠ none) setup.encryptor again.encryptor
        left.database after.database := by
  obtain ⟨basis⟩ := basisOf law alike accepted separated firstAllowed uninterrupted
  have start : basis.Midway (Vault.ofDatabase base).database := Basis.begun
  obtain ⟨_, whole⟩ := Basis.runMidway start firstAllowed uninterrupted
  obtain ⟨unreadable, table, finished⟩ := whole setup rfl
  have midway : basis.Midway (Vault.ofDatabase database).database := Basis.stoppedMidway basis stopped
  obtain ⟨again, after, ran⟩ := Basis.runCalm midway allowed calm
  obtain ⟨_, through⟩ := Basis.runMidway midway allowed ran
  obtain ⟨alsoUnreadable, alsoTable, alsoFinished⟩ := through again rfl
  refine ⟨again, after, ran, alsoUnreadable.trans unreadable.symm, ?_⟩
  exact sameFinished (turnsDue uninterrupted) finished alsoFinished

/-- The settings change what is stored, and wherever they are stopped they come to the same end. -/
def RestartsAlike (suite : CipherSuite) (settings : Settings) (world : Surroundings)
    (base : Database) : Prop :=
  ∃ setup left, Setup.run suite settings world (.ofDatabase base) = (.ok setup, left) ∧
    setup.reconciliation.rotation ≠ none ∧
    ∀ state, Stopped suite settings (· = world) base state → ∃ again after,
      Setup.run suite settings world (.ofDatabase state) = (.ok again, after) ∧
        again.unreadable = [] ∧
        SameOutcome suite (setup.reconciliation.rotation ≠ none) setup.encryptor again.encryptor
          left.database after.database

end BrokerVault.Restart

/-! The first password: what is stored before is not sealed, and one key is made. -/
namespace BrokerVault.FirstSetup

open Restart

theorem onlyKey {entry : Password} {key : Key}
    (keyOf : KeyOf .standard (· = world) database entry key) :
    key = Key.derive entry.secret (List.replicate saltLength 0) := by
  cases keyOf with
  | stored found => cases found
  | fresh _ allowed drawn =>
    cases allowed
    obtain ⟨_, same⟩ := drawn
    cases same
    rfl

theorem storesPlain {name : ProtectedTable} {value : ColumnValue} (stores : Stores database name value) :
    ∃ text ∈ [document, request], ColumnValue.plain? name.format text = some value := by
  obtain ⟨stored, row, table, place, read⟩ := stores
  cases name with
  | workspaces =>
    cases table
    cases List.mem_singleton.1 place
    cases read
    exact ⟨document, by simp, rfl⟩
  | requestDetails =>
    cases table
    cases List.mem_singleton.1 place
    cases read
    exact ⟨request, by simp, rfl⟩
  | instanceDetails | bindingCredentials =>
    cases table
    cases place

theorem documentKnown {name : ProtectedTable} {found : Bytes}
    (documented : Document .standard settings (· = world) database name found) :
    found ∈ [document, request] := by
  obtain ⟨_, value, stores, opens⟩ := documented
  obtain ⟨text, place, standing⟩ := storesPlain stores
  rcases opens with plain | ⟨_, _, _, _, opened⟩
  · cases (Encryptor.openPlain standing).symm.trans plain
    exact place
  · exact (documentUnopened place standing _ _ _ opened).elim

theorem separated : Separated .standard settings (· = world) database where
  exclusive entry place other otherPlace key otherKey keyOf otherKeyOf := by
    intros
    rw [onlyKey otherKeyOf, onlyKey keyOf, List.mem_singleton.1 place,
      List.mem_singleton.1 otherPlace]
  fresh _ _ _ key _ _ _ stores text := by
    obtain ⟨_, place, standing⟩ := storesPlain stores
    exact documentUnopened place standing _ key text
  plain _ _ key _ _ _ documented _ standing text :=
    documentUnopened (documentKnown documented) standing _ key text

end BrokerVault.FirstSetup

/-! The second password: what is stored before is sealed under the first one. -/
namespace BrokerVault.SecondKey

open Restart
open FirstSetup (document request nonce documentUnopened)

variable {canary bytes others : Bytes}

theorem markingServes : ∃ canary bytes others, Serves .marking canary bytes others :=
  ⟨_, _, _, CipherSuite.markingOpensSealed, fun text _ => CipherSuite.markingSeals text, rfl, rfl, rfl⟩

theorem labelledFormer {entry : Password} {key : Key} (place : entry ∈ settings.passwords)
    (keyOf : KeyOf .marking (· = world) (database canary bytes others) entry key)
    (same : key = formerKey .marking) : entry.label = "former" := by
  have long : ∀ entry ∈ settings.passwords, 20 ≤ (Bytes.ofText entry.secret).length := by decide
  have apart : ∀ entry ∈ settings.passwords,
      (Bytes.ofText "the former secret word").take 20 = (Bytes.ofText entry.secret).take 20 →
      entry.label = "former" := by decide
  have begins : key.bytes.take 20 = (Bytes.ofText entry.secret).take 20 := by
    cases keyOf <;> exact CipherSuite.markingBegins (long entry place)
  rw [same, formerKey, CipherSuite.markingBegins (by decide)] at begins
  exact apart entry place begins

theorem storesSealed {suite : CipherSuite} (serves : Serves suite canary bytes others)
    {name : ProtectedTable} {value : ColumnValue}
    (stores : Stores (database canary bytes others) name value) :
    ∃ text ∈ [document, request], ∃ written,
      suite.sealWith (formerKey suite) (some nonce) text = .ok written ∧
      value = .ofSealed name.format written := by
  obtain ⟨stored, row, table, place, read⟩ := stores
  cases name with
  | workspaces =>
    cases table
    cases List.mem_singleton.1 place
    cases read
    exact ⟨_, by simp, bytes, serves.workspace, rfl⟩
  | requestDetails =>
    cases table
    cases List.mem_singleton.1 place
    cases read
    exact ⟨_, by simp, others, serves.request, rfl⟩
  | instanceDetails | bindingCredentials =>
    cases table
    cases place

theorem onlyFormerOpens (serves : Serves .marking canary bytes others) {name : ProtectedTable}
    {value : ColumnValue} (stores : Stores (database canary bytes others) name value) {label : String}
    {key : Key} {found : Bytes}
    (opened : (Encryptor.aead label key).openColumn .marking value = .ok found) :
    key = formerKey .marking ∧ found ∈ [document, request] := by
  obtain ⟨text, place, written, sealedHere, rfl⟩ := storesSealed serves stores
  rw [Encryptor.openAead] at opened
  have same := CipherSuite.markingExclusive sealedHere opened
  rw [same, CipherSuite.openSealed serves.law sealedHere] at opened
  cases opened
  exact ⟨same, place⟩

theorem documentKnown (serves : Serves .marking canary bytes others) {name : ProtectedTable}
    {found : Bytes}
    (documented : Document .marking settings (· = world) (database canary bytes others) name found) :
    found ∈ [document, request] := by
  obtain ⟨checked, value, stores, plain | ⟨_, _, _, _, opened⟩⟩ := documented
  · obtain ⟨_, _, _, written, rfl⟩ := storesSealed serves stores
    exact absurd checked (CipherSuite.zeroUnlike rfl written plain)
  · exact (onlyFormerOpens serves stores opened).2

theorem separated (serves : Serves .marking canary bytes others) :
    Separated .marking settings (· = world) (database canary bytes others) where
  exclusive := by
    intros
    exact CipherSuite.markingExclusive ‹_› ‹_›
  fresh entry place absent key keyOf name value stores text opened := by
    have label := labelledFormer place keyOf (onlyFormerOpens serves stores opened).1
    rw [label] at absent
    cases absent
  plain _ _ key _ _ _ documented _ standing text opened :=
    documentUnopened (documentKnown serves documented) standing _ key text opened

theorem secondKeyRestarts :
    RestartsAlike .standard FirstSetup.settings FirstSetup.world FirstSetup.database ∧
    ∃ canary bytes others, RestartsAlike .marking settings world (database canary bytes others) := by
  constructor
  · obtain ⟨setup, left, ran, readable, _, rotated⟩ := FirstSetup.goesThrough
    refine ⟨setup, left, ran, Setup.rotatedTurns ran rotated, ?_⟩
    intro state stopped
    obtain ⟨again, after, ranAgain, alike, outcome⟩ :=
      restartConverges CipherSuite.standardOpensSealed CipherSuite.standardSealsAlike
        FirstSetup.accepted FirstSetup.separated rfl ran stopped rfl FirstSetup.calm
    exact ⟨again, after, ranAgain, alike.trans readable, outcome⟩
  · obtain ⟨canary, bytes, others, serves⟩ := markingServes
    obtain ⟨setup, left, ran, readable, _, rotated⟩ := goesThrough serves
    refine ⟨canary, bytes, others, setup, left, ran, Setup.rotatedTurns ran rotated, ?_⟩
    intro state stopped
    obtain ⟨again, after, ranAgain, alike, outcome⟩ :=
      restartConverges serves.law CipherSuite.markingSealsAlike accepted (separated serves) rfl ran
        stopped rfl calm
    exact ⟨again, after, ranAgain, alike.trans readable, outcome⟩

end BrokerVault.SecondKey
