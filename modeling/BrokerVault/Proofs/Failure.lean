import BrokerVault.Proofs.Completion

/-! Setups that fail. The stored credentials stay as they are, with new ones behind them that are not
primary; and the protected values stay too, unless it was their rewriting that failed. Nothing fails
once the primary has moved: what was rewritten can be read from its columns again, and the credentials
to remove are there. -/
namespace BrokerVault

open Reencryption Reconciliation

def Grown (entries : List Password) (before after : Table Credential) : Prop :=
  ∃ new, after.rows = before.rows ++ new ∧ (∀ row ∈ new, row.value.primary = false) ∧
    new.map (·.id) <+:
      (entries.filter fun entry => (before.find? entry.label).isNone).map (·.label)

def CredentialsGrown (entries : List Password) (before after : Database) : Prop :=
  match before.credentials with
  | none => after.credentials = none
  | some stored => ∃ longer, after.credentials = some longer ∧ Grown entries stored longer

namespace Setup

variable {suite : CipherSuite} {world : Surroundings} {settings : Settings} {vault after : Vault}
  {before longer : Table Credential} {sole : Option String} {new : List (Row Credential)}
  {encryptors : List Encryptor} {plan : Reconciliation} {rotation : Encryptor}
  {entries : List Password} {database other : Database}

theorem grownNone : CredentialsGrown entries database database := by
  rw [CredentialsGrown]
  split
  · assumption
  · rename_i stored found
    exact ⟨stored, found, [], (List.append_nil _).symm, by simp, List.nil_prefix⟩

theorem grownEnrolled {answer : Option (List Encryptor)} (found : database.credentials = some before)
    (state : EnrolledState suite world before.rows before entries database answer other) :
    CredentialsGrown entries database other := by
  obtain ⟨done, rest, new, encryptors, longer, rfl, enrolled, rows, rfl, _⟩ := state
  rw [CredentialsGrown, found]
  refine ⟨longer, rfl, new, rows, fun row place => ?_, ?_⟩
  · obtain ⟨_, _, _, _, fresh⟩ := enrolled.madeNew place
    exact fresh.primary
  · rw [enrolled.newLabels, List.filter_append, List.map_append]
    exact List.prefix_append _ _

theorem reconciledGrows {result : Except ReconcileError Reconciliation}
    (ran : reconcile suite settings.enabled settings.passwords world vault = (result, after)) :
    CredentialsGrown settings.passwords vault.database after.database ∧
      ∀ name, after.database.table? name = vault.database.table? name := by
  rcases reconcileRan ran with ⟨_, _, rfl⟩ | ⟨before, found, _, leads⟩
  · exact ⟨grownNone, fun _ => rfl⟩
  · refine (leads (fun state => CredentialsGrown settings.passwords vault.database state ∧
      ∀ name, state.table? name = vault.database.table? name) fun state enrolled =>
        ⟨grownEnrolled found enrolled, fun name => ?_⟩).present
    obtain ⟨_, _, _, _, _, _, _, _, rfl, _⟩ := enrolled
    exact Database.tableOfWith _ _ _

theorem rewrittenAnswers {count : Nat}
    (ran : rewriteAll suite rotation world vault = (.ok count, after)) (encryptor : Encryptor) :
    ∃ found, Verification.failures suite encryptor after.database = .ok found := by
  obtain ⟨_, _, tables⟩ := rewriteAllWhole ran
  refine Verification.failuresOfReadable fun name => ?_
  obtain ⟨stored, changed, _, left, rows⟩ := tables name
  refine ⟨changed, left, fun row place => ?_⟩
  obtain ⟨found, visited⟩ := Table.memAfter.1 place
  obtain ⟨old, _, step⟩ := pairedRight rows found
  rcases step with ⟨low, rfl⟩ | ⟨_, resealed⟩
  · omega
  · cases resealed with
    | null empty => exact ⟨none, readNull.2 empty⟩
    | value _ _ written => exact ⟨_, sealedRead written⟩

theorem promotedAnswers (accepted : Password.Accepted settings.passwords)
    (founded : Founded suite world settings before longer sole new encryptors plan)
    (table : vault.database.credentials = some longer) {count : Nat}
    (ran : Rotating suite world plan rotation vault (.ok count) after) :
    (∃ changed, after.database.credentials = some changed ∧
      List.Forall₂ Credentials.SameKey longer.rows changed.rows) ∧
    ∃ found, Verification.failures suite plan.encryptor after.database = .ok found := by
  cases ran with
  | promoted _ ran promotion =>
    have credentials := (rewriteAllWhole ran).2.1.trans table
    obtain ⟨changed, keys, database, _⟩ := founded.promotion accepted credentials promotion
    rw [database, Verification.failuresTables]
    exact ⟨⟨changed, rfl, keys⟩, rewrittenAnswers ran _⟩

theorem turnedStored (accepted : Password.Accepted settings.passwords)
    (founded : Founded suite world settings before longer sole new encryptors plan)
    (table : vault.database.credentials = some longer) {rotated : Option Nat}
    (turned : Turned suite world plan vault rotated after) :
    ∃ changed, after.database.credentials = some changed ∧
      List.Forall₂ Credentials.SameKey longer.rows changed.rows := by
  cases turned with
  | none => exact ⟨longer, table, List.forall₂_same.2 fun _ _ => ⟨rfl, rfl, rfl⟩⟩
  | some _ rotating => exact (promotedAnswers accepted founded table rotating).1

theorem unreadableFound (accepted : Password.Accepted settings.passwords) {setup : Setup}
    (ran : run suite settings world vault = (.ok setup, after)) :
    Verification.failures suite setup.encryptor after.database = .ok setup.unreadable := by
  cases runRan ran with
  | @checked plan middle rotated unreadable turnedVault removal _ _ reconciling turned checking removing
      answer =>
    obtain ⟨_, _, _, _, _, _, founded, _, table⟩ := reconcileFounded reconciling
    obtain ⟨changed, found, _⟩ := turnedStored accepted founded table turned
    obtain ⟨⟨deleted, rfl⟩, kept, removed, _⟩ := removeStaleRan found removing
    cases answer
    by_cases readable : unreadable = []
    · rw [removed readable, Verification.failuresTables]
      exact checking
    · rw [kept readable]
      exact checking

theorem rotatingFails (accepted : Password.Accepted settings.passwords)
    (founded : Founded suite world settings before longer sole new encryptors plan)
    (table : vault.database.credentials = some longer) {error : SetupError}
    (ran : Rotating suite world plan rotation vault (.error error) after) :
    after = vault ∨ ∃ fault, error = .rotating fault ∧
      Verification.AllRead suite rotation vault.database ∧
      rewriteAll suite rotation world vault = (.error fault, after) := by
  cases ran with
  | refused => exact .inl rfl
  | broken checked ran => exact .inr ⟨_, rfl, checked, ran⟩
  | unpromoted _ ran promotion =>
    have credentials := (rewriteAllWhole ran).2.1.trans table
    obtain ⟨_, promoted⟩ := founded.promotable accepted world credentials
    cases promotion.symm.trans promoted

theorem failedRan (accepted : Password.Accepted settings.passwords) {error : SetupError}
    (ran : run suite settings world vault = (.error error, after)) :
    ∃ told middle,
      reconcile suite settings.enabled settings.passwords world vault = (told, middle) ∧
      (after = middle ∨ ∃ plan readers fault, told = .ok plan ∧ error = .rotating fault ∧
        plan.rotation = some (.compound plan.encryptor readers) ∧
        Verification.AllRead suite (.compound plan.encryptor readers) middle.database ∧
        rewriteAll suite (.compound plan.encryptor readers) world middle =
          (.error fault, after)) := by
  cases runRan ran with
  | unreconciled reconciling => exact ⟨_, _, reconciling, .inl rfl⟩
  | unturned reconciling due rotating =>
    refine ⟨_, _, reconciling, ?_⟩
    obtain ⟨_, _, _, _, _, _, founded, _, table⟩ := reconcileFounded reconciling
    rcases rotatingFails accepted founded table rotating with rfl | ⟨fault, rfl, checked, rewriting⟩
    · exact .inl rfl
    · have form := founded.rotation
      rw [due] at form
      split at form
      · cases form
      cases form
      exact .inr ⟨_, _, fault, rfl, rfl, due, checked, rewriting⟩
  | unchecked reconciling turned checking =>
    cases turned with
    | none => exact ⟨_, _, reconciling, .inl rfl⟩
    | some due rotating =>
      obtain ⟨_, _, _, _, _, _, founded, _, table⟩ := reconcileFounded reconciling
      obtain ⟨_, _, answered⟩ := promotedAnswers accepted founded table rotating
      cases checking.symm.trans answered
  | checked reconciling turned checking removing answer =>
    -- The check has answered, and removing finds the table it looks for.
    obtain ⟨_, _, _, _, _, _, founded, _, table⟩ := reconcileFounded reconciling
    obtain ⟨changed, found, _⟩ := turnedStored accepted founded table turned
    obtain ⟨⟨deleted, rfl⟩, _⟩ := removeStaleRan found removing
    cases answer

theorem failedGrows (accepted : Password.Accepted settings.passwords) {error : SetupError}
    (ran : run suite settings world vault = (.error error, after)) :
    CredentialsGrown settings.passwords vault.database after.database := by
  obtain ⟨told, middle, reconciling, stopped⟩ := failedRan accepted ran
  have grown := (reconciledGrows reconciling).1
  rcases stopped with rfl | ⟨_, _, _, _, _, _, _, rewriting⟩
  · exact grown
  · rw [CredentialsGrown, (rewriteAllTouched rewriting).1]
    exact grown

/-- A setup that fails moves no primary and takes no credentials away. -/
theorem failureKeepsKeys (accepted : Password.Accepted settings.passwords) {error : SetupError}
    (ran : run suite settings world vault = (.error error, after)) :
    CredentialsGrown settings.passwords vault.database after.database ∧
    ((∀ name, after.database.table? name = vault.database.table? name) ∨
      ∃ plan middle readers fault, error = .rotating fault ∧
        reconcile suite settings.enabled settings.passwords world vault = (.ok plan, middle) ∧
        plan.rotation = some (.compound plan.encryptor readers) ∧
        rewriteAll suite (.compound plan.encryptor readers) world middle = (.error fault, after) ∧
        ∀ name, ∃ stored changed, vault.database.table? name = some stored ∧
          after.database.table? name = some changed ∧
          List.Forall₂ (Touched suite (.compound plan.encryptor readers) world name) stored.rows
            changed.rows) := by
  refine ⟨failedGrows accepted ran, ?_⟩
  obtain ⟨told, middle, reconciling, stopped⟩ := failedRan accepted ran
  have tables := (reconciledGrows reconciling).2
  rcases stopped with rfl | ⟨plan, readers, fault, rfl, rfl, due, checked, rewriting⟩
  · exact .inl tables
  · refine .inr ⟨plan, middle, readers, fault, rfl, reconciling, due, rewriting, fun name => ?_⟩
    obtain ⟨stored, found, _⟩ := checked name
    obtain ⟨changed, left, rows⟩ := (rewriteAllTouched rewriting).2 name stored found
    exact ⟨stored, changed, (tables name).symm.trans found, left, rows⟩

end Setup
end BrokerVault

/-! A setup that is asked to stop behind the first table: its one value is rewritten, the new key is
stored, and no primary has moved. -/
namespace BrokerVault.StoppedSetup

open Reencryption Reconciliation FirstSetup

def world : Surroundings :=
  { FirstSetup.world with cancelled := fun moment => decide (4 < moment) }

def database : Database :=
  Database.empty.setTable .instanceDetails
    (some (Table.empty.upsert "instance" (.ofColumn (.blob document))))

def salt : BytesOf saltLength := ⟨List.replicate saltLength 0, List.length_replicate⟩

def credentials (canary : Bytes) : Table Credential :=
  Table.empty.upsert "first" ⟨salt.1, canary, false, default, default⟩

def enrolled (canary : Bytes) : Database := database.withCredentials (credentials canary)

def begun (canary bytes : Bytes) : Database :=
  (enrolled canary).setTable .instanceDetails
    (some (Table.empty.upsert "instance" (.ofColumn (.blob bytes))))

def plan (key : Key) : Reconciliation :=
  planOf [] none (settings.passwords.zip [.aead "first" key])

def rotation (key : Key) : Encryptor := .compound (.aead "first" key) [.aead "first" key, .noop]

variable {suite : CipherSuite} {key : Key} {canary bytes : Bytes}
  (derived : suite.derive? "a secret of twenty bytes" salt.1 = .ok key)
  (marked : suite.sealWith key (some nonce) Canary.plaintext = .ok canary)
  (written : suite.sealWith key (some nonce) document = .ok bytes)

include derived marked in
theorem reconciles :
    reconcile suite settings.enabled settings.passwords world (.ofDatabase database) =
      (.ok (plan key), ⟨enrolled canary, [database], 3⟩) := by
  have sealing : Canary.sealFor suite (.aead "first" key) world ⟨database, [], 1⟩ =
      (.ok canary, ⟨database, [], 2⟩) := by
    rw [sealForRun]
    exact congrArg (·, _) marked
  have made : newEncryptor suite .save ⟨"first", "a secret of twenty bytes", true⟩ world
      (.ofDatabase database) = (.ok (.aead "first" key), ⟨enrolled canary, [database], 3⟩) := by
    rw [newEncryptor, Action.bindRandom]
    change (Action.ofExcept (deriveFor suite _ salt.1) >>= _) world ⟨database, [], 1⟩ = _
    rw [deriveFor, derived, Action.bindOfOk rfl]
    exact (Action.bindOfOk (Action.mapErrorOfOk sealing)).trans rfl
  have enrols : encryptorsFor suite .save [] settings.passwords world (.ofDatabase database) =
      (.ok [.aead "first" key], ⟨enrolled canary, [database], 3⟩) := Action.bindOfOk made
  have loaded : Action.mapError ReconcileError.store Credentials.load world
      (.ofDatabase database) = (.ok [], .ofDatabase database) := rfl
  rw [reconcile, reconcileWith, Action.bindOfOk loaded, Action.bindOfOk rfl, Action.bindOfOk enrols]
  rfl

theorem reads : (rotation key).readDocument suite (.blob document) = .ok document :=
  Encryptor.readDocumentOk.2 ⟨rfl, documentChecked⟩

theorem allRead : Verification.AllRead suite (rotation key) (enrolled canary) := by
  intro name
  cases name with
  | instanceDetails =>
    refine ⟨_, rfl, fun row place => .inr ⟨.blob document, document, ?_, reads⟩⟩
    cases List.mem_singleton.1 place
    rfl
  | bindingCredentials => exact ⟨.empty, rfl, fun row place => nomatch place⟩
  | requestDetails => exact ⟨.empty, rfl, fun row place => nomatch place⟩
  | workspaces => exact ⟨.empty, rfl, fun row place => nomatch place⟩

include written in
theorem rewrites :
    rewriteAll suite (rotation key) world ⟨enrolled canary, [database], 3⟩ =
      (.error (.interrupted .bindingCredentials),
        ⟨begun canary bytes, [enrolled canary, database], 6⟩) := by
  have resealing : reseal suite (rotation key) .instanceDetails "instance" (.blob document) world
      ⟨enrolled canary, [database], 4⟩ = (.ok (.blob bytes), ⟨enrolled canary, [database], 5⟩) := by
    rw [reseal, reads, Action.bindOfOk rfl, Action.bindRandom]
    change (((suite.sealWith key (some nonce) document).map ColumnValue.blob).mapError _, _) = _
    rw [written]
    rfl
  have rewriting : rewriteRows suite (rotation key) .instanceDetails
      (Table.empty.upsert "instance" (.ofColumn (.blob document))) 0
      [⟨1, "instance", some (.blob document)⟩] world ⟨enrolled canary, [database], 4⟩ =
        (.ok (Table.empty.upsert "instance" (.ofColumn (.blob bytes)), 1),
          ⟨enrolled canary, [database], 5⟩) := Action.bindOfOk resealing
  have fetched : ((enrolled canary).fetchBatch .instanceDetails 0 batchSize).mapError
      (ReencryptError.database .instanceDetails) =
        .ok [⟨1, "instance", some (.blob document)⟩] := rfl
  have stored : ((enrolled canary).protectedTable .instanceDetails).mapError
      (ReencryptError.database .instanceDetails) =
        .ok (Table.empty.upsert "instance" (.ofColumn (.blob document))) := rfl
  have passes : passesFor ((enrolled canary).table? .instanceDetails) = 1 := rfl
  have going : world.cancelled 3 = false := rfl
  have first : rewriteTable suite (rotation key) .instanceDetails world
      ⟨enrolled canary, [database], 3⟩ =
        (.ok 1, ⟨begun canary bytes, [enrolled canary, database], 5⟩) := by
    rw [rewriteTable, Action.bindDatabase, passes, rewriteBatches, Action.bindCancelled]
    simp only [going, Bool.false_eq_true, ↓reduceIte]
    rw [Action.bindDatabase, fetched, Action.bindOfOk rfl]
    simp only [List.getLast?_singleton, stored]
    rw [Action.bindOfOk rfl, Action.bindOfOk rewriting]
    rfl
  have second : rewriteTable suite (rotation key) .bindingCredentials world
      ⟨begun canary bytes, [enrolled canary, database], 5⟩ =
        (.error (.interrupted .bindingCredentials),
          ⟨begun canary bytes, [enrolled canary, database], 6⟩) := rfl
  rw [rewriteAll, ProtectedTable.all, rewriteTables, Action.bindOfOk first, rewriteTables,
    Action.bindOfError second]

include derived marked written in
theorem stops :
    Setup.run suite settings world (.ofDatabase database) =
      (.error (.rotating (.interrupted .bindingCredentials)),
        ⟨begun canary bytes, [enrolled canary, database], 6⟩) := by
  have checked : verifyAll suite (rotation key) world ⟨enrolled canary, [database], 3⟩ =
      (.ok [], ⟨enrolled canary, [database], 3⟩) := by
    rw [verifyAll, Action.bindDatabase, Verification.failuresNil.2 allRead, Action.ofExceptRun]
  have stopped : Setup.rotate suite (plan key) (rotation key) world
      ⟨enrolled canary, [database], 3⟩ =
        (.error (.rotating (.interrupted .bindingCredentials)),
          ⟨begun canary bytes, [enrolled canary, database], 6⟩) := by
    rw [Setup.rotate, Action.bindOfOk (Action.mapErrorOfOk checked)]
    exact Action.bindOfError (Action.mapErrorOfError (rewrites written))
  have due : (plan key).rotation = some (rotation key) := rfl
  rw [Setup.run, Action.bindOfOk (Action.mapErrorOfOk (reconciles derived marked))]
  simp only [due]
  exact Action.bindOfError stopped

def onlyKey : Key := .derive "a secret of twenty bytes" salt.1

theorem onlyDerived :
    CipherSuite.standard.derive? "a secret of twenty bytes" salt.1 = .ok onlyKey :=
  CipherSuite.deriveLong (by decide) salt.2

theorem sealedUnread
    (written : CipherSuite.standard.sealWith onlyKey (some nonce) document = .ok bytes)
    {name : ProtectedTable} {row : Row Cell}
    (held : row.value.read name = .ok (some (.ofSealed .blob bytes))) :
    ¬Verification.Reads .standard .noop name row := by
  rintro (null | ⟨_, _, other, read⟩)
  · exact readSome held null
  · cases held.symm.trans other
    obtain ⟨opened, checked⟩ := Encryptor.readDocumentOk.1 read
    exact CipherSuite.zeroUnlike rfl written opened checked

theorem stopped : ∃ canary bytes,
    CipherSuite.standard.sealWith onlyKey (some nonce) Canary.plaintext = .ok canary ∧
    CipherSuite.standard.sealWith onlyKey (some nonce) document = .ok bytes ∧
    Setup.run .standard settings world (.ofDatabase database) =
      (.error (.rotating (.interrupted .bindingCredentials)),
        ⟨begun canary bytes, [enrolled canary, database], 6⟩) := by
  obtain ⟨canary, marked⟩ :=
    CipherSuite.standardSeals Canary.plaintext (by decide) onlyKey nonce
  obtain ⟨bytes, written⟩ := CipherSuite.standardSeals document (by decide) onlyKey nonce
  exact ⟨canary, bytes, marked, written, stops onlyDerived marked written⟩

theorem stoppedSetupKeepsKeys : ∃ after middle, ∃ plan : Reconciliation, ∃ readers,
    Setup.run .standard settings world (.ofDatabase database) =
      (.error (.rotating (.interrupted .bindingCredentials)), after) ∧
    CredentialsGrown settings.passwords database after.database ∧
    after.database.table? .instanceDetails ≠ database.table? .instanceDetails ∧
    rewriteAll .standard (.compound plan.encryptor readers) world middle =
      (.error (.interrupted .bindingCredentials), after) := by
  obtain ⟨canary, bytes, _, written, ran⟩ := stopped
  obtain ⟨grown, tables⟩ := Setup.failureKeepsKeys accepted ran
  have moved : (begun canary bytes).table? .instanceDetails ≠
      database.table? .instanceDetails := by
    obtain ⟨_, body, drawn, _, rfl⟩ := CipherSuite.sealWithSource written
    cases drawn
    intro same
    cases same
  rcases tables with same | ⟨plan, middle, readers, fault, told, _, _, rewriting, _⟩
  · exact absurd (same .instanceDetails) moved
  · cases told
    exact ⟨_, middle, plan, readers, ran, grown, moved, rewriting⟩

end BrokerVault.StoppedSetup
