import BrokerVault.Proofs.Failure
import BrokerVault.Proofs.History.Lossless
import BrokerVault.Proofs.Json.Values
import BrokerVault.Proofs.Primaries

/-! Turning back from a rotation that was not finished. What it had rewritten by then is sealed under
the primary that was never recorded, and settings that keep the recorded one rewrite nothing. So such
values stay unread until they are put again or another rotation is finished; everything else reads,
and every document still opens under one of the keys. -/
namespace BrokerVault

def Database.valueAt? (database : Database) (name : ProtectedTable) (id : String) : Option Cell :=
  (database.table? name).bind fun stored => (stored.find? id).map (·.value)

namespace History

open Reencryption Reconciliation

def Places := ProtectedTable → String → Prop

/-- Histories without crashes, and the places that unfinished rotations have left rewritten. -/
inductive Traced (suite : CipherSuite) (scope : Scope) : Point → Places → Prop where
  | begun : Traced suite scope .start fun _ _ => False
  | put {point : Point} {astray world name id document after}
      (earlier : Traced suite scope point astray) (allowed : scope.worlds world)
      (text : scope.texts (.ofText document.text))
      (ran : Records.put suite point.writer name id document world (.ofDatabase point.database) =
        (.ok (), after)) :
      Traced suite scope
        { point with
          database := after.database
          documents := point.documents.put name id (.ofText document.text) }
        fun other label => astray other label ∧ ¬(other = name ∧ label = id)
  | unput {point : Point} {astray world name id document error after}
      (earlier : Traced suite scope point astray)
      (ran : Records.put suite point.writer name id document world (.ofDatabase point.database) =
        (.error error, after)) :
      Traced suite scope { point with database := after.database } astray
  | setup {point : Point} {astray settings world setup after}
      (earlier : Traced suite scope point astray) (allowed : scope.Allows settings world)
      (ran : Setup.run suite settings world (.ofDatabase point.database) = (.ok setup, after)) :
      Traced suite scope
        { point with
          database := after.database
          writer := setup.encryptor
          secrets := point.secretsUnder settings }
        fun name id => setup.rotated = none ∧ astray name id
  | failed {point : Point} {astray settings world error after}
      (earlier : Traced suite scope point astray) (allowed : scope.Allows settings world)
      (ran : Setup.run suite settings world (.ofDatabase point.database) = (.error error, after)) :
      Traced suite scope
        { point with
          database := after.database
          secrets := point.secretsUnder settings }
        fun name id =>
          astray name id ∨ after.database.valueAt? name id ≠ point.database.valueAt? name id

def primaryRows (stored : Table Credential) : List (Row Credential) :=
  stored.rows.filter (·.value.primary)

inductive Recorded (suite : CipherSuite) (secrets : String → Option String)
    (primaries : List (Row Credential)) : Encryptor → Prop where
  | plain (none : primaries = []) : Recorded suite secrets primaries .noop
  | keyed {row secret} (only : primaries = [row]) (known : secrets row.id = some secret) :
      Recorded suite secrets primaries (.aead row.id (suite.deriveKey secret row.value.salt))

structure Current (suite : CipherSuite) (point : Point) (astray : Places) : Prop where
  recorded : ∃ credentials, point.database.credentials = some credentials ∧
    Recorded suite point.secrets (primaryRows credentials) point.writer
  reads : ∀ name stored, point.database.table? name = some stored → ∀ row ∈ stored.rows,
    ¬astray name row.id → Verification.Reads suite point.writer name row

variable {suite : CipherSuite} {scope : Scope} {settings : Settings} {world : Surroundings}
  {secrets others : String → Option String} {documents : Documents} {database : Database}
  {before longer credentials changed : Table Credential} {point : Point} {astray : Places}
  {sole : Option String} {new : List (Row Credential)} {encryptors : List Encryptor}
  {plan : Reconciliation} {primaries : List (Row Credential)} {writer other : Encryptor}

theorem Traced.reached (traced : Traced suite scope point astray) : Reached suite scope point := by
  induction traced with
  | begun => exact .begun
  | put _ allowed text ran ih => exact .put ih allowed text ran
  | unput _ ran ih => exact .unput ih ran
  | setup _ allowed ran ih => exact .setup ih allowed ran
  | failed _ allowed ran ih => exact .failed ih allowed ran

theorem Recorded.same (first : Recorded suite secrets primaries writer)
    (second : Recorded suite secrets primaries other) : writer = other := by
  cases first with
  | plain none =>
    cases second with
    | plain => rfl
    | keyed only => simp [none] at only
  | keyed only known =>
    cases second with
    | plain none => simp [none] at only
    | keyed also knownToo =>
      cases only.symm.trans also
      cases known.symm.trans knownToo
      rfl

theorem Recorded.agreed (recorded : Recorded suite secrets primaries writer)
    (same : ∀ row ∈ primaries, others row.id = secrets row.id) :
    Recorded suite others primaries writer := by
  cases recorded with
  | plain none => exact .plain none
  | keyed only known =>
    refine .keyed only ((same _ ?_).trans known)
    rw [only]
    exact List.mem_singleton_self _

theorem Recorded.leaf (recorded : Recorded suite secrets primaries writer) : writer.IsLeaf := by
  cases recorded <;> exact trivial

theorem primaryRowsLabels (stored : Table Credential) :
    (primaryRows stored).map (·.id) = Credentials.primaryLabels stored := rfl

theorem primaryRowsGrown {rows : List (Row Credential)}
    (longer : credentials.rows = before.rows ++ rows)
    (plain : ∀ row ∈ rows, row.value.primary = false) :
    primaryRows credentials = primaryRows before := by
  have none : rows.filter (·.value.primary) = [] :=
    List.filter_eq_nil_iff.2 fun row place => by simp [plain row place]
  rw [primaryRows, longer, List.filter_append, none, List.append_nil, primaryRows]

theorem primaryRowsFounded
    (founded : Founded suite world settings before longer sole new encryptors plan) :
    primaryRows longer = primaryRows before := by
  refine primaryRowsGrown founded.rows fun row place => ?_
  obtain ⟨_, _, _, _, fresh⟩ := founded.enrolled.madeNew place
  exact fresh.primary

namespace Underway

variable (underway : Underway suite scope settings world secrets documents before database)
include underway

theorem recorded (law : suite.OpensSealed) (trusted : Trusted suite scope)
    (founded : Founded suite world settings before longer sole new encryptors plan)
    (introduced : ∀ row ∈ longer.rows, Introduced suite scope secrets row)
    (keys : List.Forall₂ Credentials.SameKey longer.rows credentials.rows)
    (primaries : Credentials.primaryLabels credentials =
      Credentials.wanted (primaryLabel settings.passwords)) :
    Recorded suite secrets (primaryRows credentials) plan.encryptor := by
  rw [wantedList underway.allowed.accepted, ← primaryRowsLabels] at primaries
  have chosen := founded.chosen
  generalize plan.encryptor = writer at chosen
  cases chosen with
  | none absent =>
    rw [absent] at primaries
    exact .plain (List.map_eq_nil_iff.1 primaries)
  | @key entry _ primary held =>
    rw [primary] at primaries
    obtain ⟨only, alone, label⟩ := List.map_eq_singleton_iff.1 primaries
    change only.id = entry.label at label
    obtain ⟨row, place, named, holder⟩ := underway.holder law trusted founded introduced
      (List.mem_of_find?_eq_some primary) held
    obtain ⟨stored, found, same⟩ := pairedLeft keys place
    have among : only ∈ credentials.rows :=
      (List.mem_filter.1 (show only ∈ primaryRows credentials by simp [alone])).1
    cases Table.sameRow among found (label.trans (named.symm.trans same.id.symm))
    obtain ⟨_, _, key, _, _, rfl⟩ := held
    cases holder with
    | keyed _ single known =>
      cases List.mem_singleton.1 single
      rw [← same.salt, ← label]
      exact .keyed alone (same.id.symm ▸ known)

end Underway

theorem recordedLeft (accepted : Password.Accepted settings.passwords)
    (founded : Founded suite world settings before longer sole new encryptors plan)
    {vault after : Vault} (found : vault.database.credentials = some credentials)
    (primaries : Credentials.primaryLabels credentials =
      Credentials.wanted (primaryLabel settings.passwords)) {unreadable : List RecordError}
    {removal : Except SetupError (List String)}
    (removing : Setup.removeStale plan unreadable world vault = (removal, after)) :
    (∀ name, after.database.table? name = vault.database.table? name) ∧
    ∃ left, after.database.credentials = some left ∧ primaryRows left = primaryRows credentials := by
  obtain ⟨_, kept, removed, _⟩ := Setup.removeStaleRan found removing
  by_cases readable : unreadable = []
  · rw [removed readable]
    exact ⟨fun _ => Database.tableOfWith _ _ _, _, Database.credentialsOfWith _ _,
      Setup.primariesFresh accepted founded primaries⟩
  · rw [kept readable]
    exact ⟨fun _ => rfl, credentials, found, rfl⟩

theorem Current.setup (law : suite.OpensSealed) (trusted : Trusted suite scope)
    (sound : Sound suite scope point) (current : Current suite point astray)
    (allowed : scope.Allows settings world) {setup : Setup} {after : Vault}
    (ran : Setup.run suite settings world (.ofDatabase point.database) = (.ok setup, after)) :
    Current suite
      { point with
        database := after.database
        writer := setup.encryptor
        secrets := point.secretsUnder settings }
      fun name id => setup.rotated = none ∧ astray name id := by
  obtain ⟨before, whole, _⟩ := sound
  have underway := whole.begins allowed
  obtain ⟨left, remains, _⟩ := (setupRan law trusted underway ran).done setup rfl
  cases Setup.runRan ran with
  | @checked plan middle _ _ _ removal _ _ reconciling turned checking removing answer =>
    obtain ⟨_, planned⟩ := reconcilingLeads underway reconciling
    obtain ⟨longer, sole, new, encryptors, founded, enrolled, _⟩ := planned plan rfl
    obtain ⟨changed, table, keys, primaries⟩ :=
      Setup.turnedPrimaries law allowed.accepted founded enrolled.found turned
    have writes := underway.recorded law trusted founded enrolled.introduced keys primaries
    obtain ⟨tables, last, kept, same⟩ :=
      recordedLeft allowed.accepted founded table primaries removing
    cases removal with
    | error error => cases answer
    | ok deleted =>
      cases answer
      refine ⟨⟨last, kept, same ▸ writes⟩, fun name stored held row place untouched => ?_⟩
      have visited := remains.visited held row place
      rw [tables] at held
      cases turned with
      | none absent =>
        -- The recorded primary has not moved, so the encryptor is the one before.
        cases table.symm.trans enrolled.found
        obtain ⟨credentials, found, recorded⟩ := current.recorded
        cases whole.found.symm.trans found
        have old :
            Recorded suite (point.secretsUnder settings) (primaryRows longer) point.writer := by
          rw [primaryRowsFounded founded]
          exact recorded.agreed fun row place =>
            whole.introducingOld settings.passwords row (List.mem_filter.1 place).1
        have writer : plan.encryptor = point.writer := writes.same old
        rw [(Setup.reconciledGrows reconciling).2] at held
        show Verification.Reads suite plan.encryptor name row
        rw [writer]
        exact current.reads name stored held row place fun was => untouched ⟨rfl, was⟩
      | some due rotating =>
        obtain ⟨_, _, carried⟩ :=
          Setup.promotedRan law allowed.accepted founded due enrolled.found rotating
        obtain ⟨rewritten, is, each⟩ := Setup.allReadAfter carried name
        cases held.symm.trans is
        exact each row (Table.memAfter.2 ⟨place, visited⟩)

theorem Current.failed (accepted : Password.Accepted settings.passwords)
    (whole : Whole suite scope point.secrets point.documents before point.database)
    (current : Current suite point astray) {error : SetupError} {after : Vault}
    (ran : Setup.run suite settings world (.ofDatabase point.database) = (.error error, after)) :
    Current suite
      { point with
        database := after.database
        secrets := point.secretsUnder settings }
      fun name id =>
        astray name id ∨ after.database.valueAt? name id ≠ point.database.valueAt? name id := by
  obtain ⟨stored, found, recorded⟩ := current.recorded
  cases whole.found.symm.trans found
  have grown := Setup.failedGrows accepted ran
  rw [CredentialsGrown, show (Vault.ofDatabase point.database).database.credentials = some before
    from found] at grown
  obtain ⟨longer, left, new, rows, plain, _⟩ := grown
  constructor
  · refine ⟨longer, left, ?_⟩
    rw [primaryRowsGrown rows plain]
    exact recorded.agreed fun row place =>
      whole.introducingOld settings.passwords row (List.mem_filter.1 place).1
  · intro name changed table row place untouched
    rw [not_or, not_ne_iff] at untouched
    have here : after.database.valueAt? name row.id = some row.value := by
      rw [Database.valueAt?, table, Option.bind_some, Table.findOfMem place, Option.map_some]
    rw [untouched.2, Database.valueAt?] at here
    obtain ⟨stored, was, held⟩ := Option.bind_eq_some_iff.1 here
    obtain ⟨old, oldFound, value⟩ := Option.map_eq_some_iff.1 held
    obtain ⟨oldPlace, id⟩ := Table.findSome oldFound
    have reads := current.reads name stored was old oldPlace (id ▸ untouched.1)
    rwa [Verification.Reads, value] at reads

theorem Current.put (law : suite.OpensSealed) (current : Current suite point astray)
    {name : ProtectedTable} {id : String} {document : Json} {after : Vault}
    (ran : Records.put suite point.writer name id document world (.ofDatabase point.database) =
      (.ok (), after)) :
    Current suite
      { point with
        database := after.database
        documents := point.documents.put name id (.ofText document.text) }
      fun other label => astray other label ∧ ¬(other = name ∧ label = id) := by
  obtain ⟨credentials, found, recorded⟩ := current.recorded
  rcases putRan ran with ⟨_, wrong, _⟩ | ⟨value, stored, _, written, table, database⟩
  · cases wrong
  refine ⟨⟨credentials, ?_, recorded⟩, fun other changed held row place untouched => ?_⟩
  · rw [database, Database.credentialsSet]
    exact found
  · rw [database, Database.tableSet] at held
    split at held
    · rename_i same
      cases held
      subst same
      rcases Table.memUpsert place with ⟨_, new⟩ | ⟨elsewhere, old⟩
      · refine .inr ⟨value, _, new ▸ sealedRead written, Encryptor.readDocumentOk.2
          ⟨Encryptor.openSealedColumn law recorded.leaf written, Json.checkPrinted document⟩⟩
      · exact current.reads other stored table row old fun was =>
          untouched ⟨was, fun both => elsewhere both.2⟩
    · rename_i differ
      exact current.reads other changed held row place fun was =>
        untouched ⟨was, fun both => differ both.1⟩

theorem Current.start : Current suite .start fun _ _ => False := by
  refine ⟨⟨.empty, rfl, .plain rfl⟩, fun name stored found row place => ?_⟩
  cases name <;> cases found <;> cases place

theorem Traced.current (law : suite.OpensSealed) (trusted : Trusted suite scope)
    (traced : Traced suite scope point astray) : Current suite point astray := by
  induction traced with
  | begun => exact .start
  | put _ _ _ ran ih => exact ih.put law ran
  | unput _ ran ih =>
    rcases putRan ran with ⟨_, _, same⟩ | ⟨_, _, wrong, _⟩
    · exact ⟨same ▸ ih.recorded, same ▸ ih.reads⟩
    · cases wrong
  | setup earlier allowed ran ih =>
    exact ih.setup law trusted (earlier.reached.sound law trusted) allowed ran
  | failed earlier allowed ran ih =>
    obtain ⟨_, whole, _⟩ := earlier.reached.sound law trusted
    exact ih.failed allowed.accepted whole ran

def Recoverable (suite : CipherSuite) (entries : List Password) (rows : List (Row Credential))
    (value : ColumnValue) (document : Bytes) : Prop :=
  ∃ reader, (reader = .noop ∨ ∃ entry ∈ entries, Holds suite rows entry reader) ∧
    reader.openColumn suite value = .ok document

theorem introducedSupplied (supplied : ∀ label ∈ labels point.database,
      ∃ entry ∈ settings.passwords, entry.label = label ∧ point.secrets label = some entry.secret)
    {label secret : String} (known : point.secretsUnder settings label = some secret) :
    ∃ entry ∈ settings.passwords, entry.label = label ∧ entry.secret = secret := by
  rw [Point.secretsUnder, introducing] at known
  split at known
  · rename_i stored
    obtain ⟨entry, configured, same, original⟩ := supplied label stored
    exact ⟨entry, configured, same, Option.some.inj (original.symm.trans known)⟩
  · obtain ⟨entry, found, secret⟩ := Option.map_eq_some_iff.1 known
    exact ⟨entry, List.mem_of_find?_eq_some found, by simpa using List.find?_some found, secret⟩

/-- Turning back is not rewriting: only what a setup that failed has rewritten may go unread. -/
theorem onlyAstrayUnread (law : suite.OpensSealed) (trusted : Trusted suite scope)
    (traced : Traced suite scope point astray) (allowed : scope.Allows settings world)
    (supplied : ∀ label ∈ labels point.database, ∃ entry ∈ settings.passwords,
      entry.label = label ∧ point.secrets label = some entry.secret) {setup : Setup} {after : Vault}
    (ran : Setup.run suite settings world (.ofDatabase point.database) = (.ok setup, after)) :
    (∀ record ∈ setup.unreadable, setup.rotated = none ∧ astray record.table record.id) ∧
    ∃ credentials, after.database.credentials = some credentials ∧
      Kept point.documents (fun name row document => ∃ value,
        row.value.read name = .ok (some value) ∧
        Recoverable suite settings.passwords credentials.rows value document) after.database := by
  have later : Traced suite scope _ _ := .setup traced allowed ran
  constructor
  · intro record place
    obtain ⟨stored, table, row, found, id, unread⟩ :=
      Verification.failuresUnread (Setup.unreadableFound allowed.accepted ran) place
    by_contra settled
    exact unread ((later.current law trusted).reads record.table stored table row found
      (id ▸ settled))
  · obtain ⟨credentials, whole, _⟩ := later.reached.sound law trusted
    refine ⟨credentials, whole.found, whole.kept.imp fun name _ row document _ _ _ holding => ?_⟩
    obtain ⟨value, read, held⟩ := holding.held
    refine ⟨value, read, ?_⟩
    cases held.opens law whole.introduced with
    | plain standing => exact ⟨.noop, .inl rfl, standing⟩
    | @keyed stored secret key place known derived opened =>
      obtain ⟨entry, configured, label, same⟩ :=
        introducedSupplied supplied known
      subst same
      exact ⟨.aead entry.label key, .inr ⟨entry, configured, stored, place, key, label.symm, derived,
        rfl⟩, label ▸ opened⟩

end History
/-! A setup without passwords, a document, a first rotation that is stopped behind the first table, and
settings without a primary again. The document that was sealed stays sealed. -/
namespace RevertedSetup

open FirstSetup StoppedSetup History

def settings : Settings := ⟨false, [⟨"first", "a secret of twenty bytes", false⟩]⟩

def scope : Scope where
  worlds world := world = FirstSetup.world ∨ world = StoppedSetup.world
  entries entry := entry ∈ FirstSetup.settings.passwords ∨ entry ∈ settings.passwords
  texts text := text = document

theorem alone : Alone scope := by
  refine ⟨?_, fun entry place => ?_, fun text same => ?_⟩
  · rintro _ (rfl | rfl) _ _ <;> rfl
  · rcases place with place | place <;> rw [List.mem_singleton.1 place]
  · exact List.mem_cons.2 (.inl same)

def bare : Settings := ⟨false, []⟩

def started : Point where
  database := StoppedSetup.database
  writer := .noop
  secrets := Point.start.secretsUnder bare
  documents := Documents.none.put .instanceDetails "instance" document

def halted (canary bytes : Bytes) : Point :=
  { started with
    database := StoppedSetup.begun canary bytes
    secrets := started.secretsUnder FirstSetup.settings }

theorem allowed : scope.Allows settings FirstSetup.world :=
  ⟨Or.inl rfl, (Password.acceptedIff _).1 (by decide), fun _ place => Or.inr place⟩

theorem supplied (canary bytes : Bytes) : ∀ label ∈ labels (halted canary bytes).database,
    ∃ entry ∈ settings.passwords, entry.label = label ∧
      (halted canary bytes).secrets label = some entry.secret := by
  intro label stored
  cases List.mem_singleton.1 stored
  exact ⟨_, List.mem_singleton_self _, rfl, rfl⟩

variable {canary bytes : Bytes}
  (marked : CipherSuite.standard.sealWith onlyKey (some nonce) Canary.plaintext = .ok canary)
  (written : CipherSuite.standard.sealWith onlyKey (some nonce) document = .ok bytes)

include marked written in
theorem traced : ∃ astray, Traced .standard scope (halted canary bytes) astray := by
  obtain ⟨setup, ran, plain⟩ : ∃ setup, Setup.run .standard bare FirstSetup.world
      (.ofDatabase .empty) = (.ok setup, .ofDatabase .empty) ∧ setup.encryptor = .noop :=
    ⟨_, rfl, rfl⟩
  have permitted : scope.Allows bare FirstSetup.world :=
    ⟨Or.inl rfl, Password.acceptedNil, fun _ place => absurd place List.not_mem_nil⟩
  have opened : Traced .standard scope _ _ := .setup .begun permitted ran
  rw [plain] at opened
  have put : Records.put .standard .noop .instanceDetails "instance" (.object []) FirstSetup.world
      (.ofDatabase .empty) = (.ok (), ⟨StoppedSetup.database, [.empty], 1⟩) := rfl
  have text : scope.texts (.ofText (Json.object []).text) := rfl
  have early : Traced .standard scope started _ := .put opened (Or.inl rfl) text put
  exact ⟨_, .failed early ⟨Or.inr rfl, accepted, fun _ place => Or.inl place⟩
    (stops onlyDerived marked written)⟩

include marked in
theorem reconciles (bytes : Bytes) : ∃ plan, Reconciliation.reconcile .standard settings.enabled
    settings.passwords FirstSetup.world (.ofDatabase (StoppedSetup.begun canary bytes)) =
      (.ok plan, .ofDatabase (StoppedSetup.begun canary bytes)) ∧
    plan.encryptor = .noop ∧ plan.rotation = none ∧ plan.stale = [] := by
  have known : Reconciliation.knownEncryptor .standard ⟨"first", "a secret of twenty bytes", false⟩
      ⟨salt.1, canary, false, default, default⟩ = .ok (.aead "first" onlyKey) :=
    Reconciliation.knownEncryptorOpens onlyDerived
      (CipherSuite.openSealed CipherSuite.standardOpensSealed marked)
  have enrols : Reconciliation.encryptorsFor .standard .save (credentials canary).rows
      settings.passwords FirstSetup.world (.ofDatabase (StoppedSetup.begun canary bytes)) =
        (.ok [.aead "first" onlyKey], .ofDatabase (StoppedSetup.begun canary bytes)) := by
    have found : (credentials canary).rows.find? (·.id == "first") =
        some ⟨1, "first", salt.1, canary, false, default, default⟩ := rfl
    rw [settings, Reconciliation.encryptorsFor]
    simp only [found]
    rw [known, Action.bindOfOk rfl]
    rfl
  have loaded : Action.mapError ReconcileError.store Credentials.load FirstSetup.world
      (.ofDatabase (StoppedSetup.begun canary bytes)) =
        (.ok (credentials canary).rows, .ofDatabase (StoppedSetup.begun canary bytes)) := rfl
  rw [Reconciliation.reconcile, Reconciliation.reconcileWith, Action.bindOfOk loaded,
    Action.bindOfOk rfl, Action.bindOfOk enrols]
  exact ⟨_, rfl, rfl, rfl, rfl⟩

include written in
theorem unread (canary : Bytes) :
    ¬Verification.AllRead .standard .noop (StoppedSetup.begun canary bytes) := by
  intro all
  obtain ⟨stored, table, each⟩ := all .instanceDetails
  cases table
  exact sealedUnread written rfl (each _ (List.mem_singleton_self _))

include marked written in
theorem reverts : ∃ setup, Setup.run .standard settings FirstSetup.world
    (.ofDatabase (StoppedSetup.begun canary bytes)) =
      (.ok setup, .ofDatabase (StoppedSetup.begun canary bytes)) ∧ setup.unreadable ≠ [] := by
  obtain ⟨plan, reconciled, plain, resting, stale⟩ := reconciles marked bytes
  obtain ⟨unreadable, found⟩ : ∃ unreadable, Verification.failures .standard .noop
      (StoppedSetup.begun canary bytes) = .ok unreadable := by
    refine Verification.failuresOfReadable fun name => ?_
    cases name with
    | instanceDetails =>
      refine ⟨_, rfl, fun row place => ?_⟩
      cases List.mem_singleton.1 place
      exact ⟨_, rfl⟩
    | bindingCredentials => exact ⟨.empty, rfl, fun row place => nomatch place⟩
    | requestDetails => exact ⟨.empty, rfl, fun row place => nomatch place⟩
    | workspaces => exact ⟨.empty, rfl, fun row place => nomatch place⟩
  have present : unreadable ≠ [] := fun none =>
    unread written canary (Verification.failuresNil.1 (none ▸ found))
  have checked : verifyAll .standard plan.encryptor FirstSetup.world
      (.ofDatabase (StoppedSetup.begun canary bytes)) =
        (.ok unreadable, .ofDatabase (StoppedSetup.begun canary bytes)) := by
    rw [verifyAll, Action.bindDatabase, plain]
    exact congrArg (·, _) found
  refine ⟨⟨plan.encryptor, plan, none, unreadable, []⟩, ?_, present⟩
  rw [Setup.run, Action.bindOfOk (Action.mapErrorOfOk reconciled)]
  simp only [resting]
  rw [Action.bindPure, Action.bindOfOk (Action.mapErrorOfOk checked), Setup.removeStale, stale]
  simp only [List.isEmpty_nil, Bool.not_true, Bool.and_false, Bool.false_eq_true, ↓reduceIte]
  rfl

theorem reverted : ∃ canary bytes astray setup after,
    Traced .standard scope (halted canary bytes) astray ∧
    Setup.run .standard settings FirstSetup.world (.ofDatabase (halted canary bytes).database) =
      (.ok setup, after) ∧ setup.unreadable ≠ [] := by
  obtain ⟨canary, bytes, marked, written, _⟩ := stopped
  obtain ⟨astray, traced⟩ := traced marked written
  obtain ⟨setup, ran, unread⟩ := reverts marked written
  exact ⟨canary, bytes, astray, setup, _, traced, ran, unread⟩

theorem revertedSetupRecovers : ∃ canary bytes, ∃ astray : Places, ∃ setup after,
    Setup.run .standard settings FirstSetup.world (.ofDatabase (halted canary bytes).database) =
      (.ok setup, after) ∧
    (∀ record ∈ setup.unreadable, setup.rotated = none ∧ astray record.table record.id) ∧
    ∃ credentials, after.database.credentials = some credentials ∧
      Kept (halted canary bytes).documents (fun name row document => ∃ value,
        row.value.read name = .ok (some value) ∧
        Recoverable .standard settings.passwords credentials.rows value document)
        after.database := by
  obtain ⟨canary, bytes, astray, setup, after, traced, ran, _⟩ := reverted
  exact ⟨canary, bytes, astray, setup, after, ran,
    onlyAstrayUnread CipherSuite.standardOpensSealed alone.trusted traced allowed (supplied canary bytes)
      ran⟩

theorem revertedSetupUnread : ∃ point, ∃ astray : Places, ∃ setup after,
    Traced .standard scope point astray ∧ Password.Accepted settings.passwords ∧
    (∀ label ∈ labels point.database, ∃ entry ∈ settings.passwords, entry.label = label ∧
      point.secrets label = some entry.secret) ∧
    Setup.run .standard settings FirstSetup.world (.ofDatabase point.database) = (.ok setup, after) ∧
    setup.unreadable ≠ [] := by
  obtain ⟨canary, bytes, astray, setup, after, traced, ran, unread⟩ := reverted
  exact ⟨_, astray, setup, after, traced, allowed.accepted, supplied canary bytes, ran, unread⟩

end RevertedSetup
end BrokerVault
