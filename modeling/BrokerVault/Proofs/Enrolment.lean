import BrokerVault.Proofs.Credentials
import BrokerVault.Proofs.Sealing.Columns
import BrokerVault.Reconciliation

/-! Enrolling the configured entries, in their order: a label that is stored gives the key that opens
its canary, and a new one is stored with a drawn salt and a canary that its key opens. A run that
fails has enrolled the first entries and no more. -/
namespace BrokerVault

namespace CipherSuite

variable {suite : CipherSuite} {secret : String} {salt : Bytes} {key : Key}

theorem derivedKey (derived : suite.derive? secret salt = .ok key) :
    key = suite.deriveKey secret salt := by
  unfold derive? at derived
  split at derived
  · cases derived
  · split at derived
    · cases derived
    · exact (Except.ok.inj derived).symm

theorem derivedLong (derived : suite.derive? secret salt = .ok key) :
    leastSecretBytes ≤ secret.utf8ByteSize := by
  by_contra short
  rw [derive?, if_pos (Nat.not_le.1 short)] at derived
  cases derived

theorem deriveLong (long : leastSecretBytes ≤ secret.utf8ByteSize)
    (length : salt.length = saltLength) :
    suite.derive? secret salt = .ok (suite.deriveKey secret salt) := by
  rw [derive?, if_neg (Nat.not_lt.2 long), if_neg (by simpa using length)]

end CipherSuite

namespace Reconciliation

structure Made (suite : CipherSuite) (world : Surroundings) (entry : Password) (key : Key)
    (row : Row Credential) : Prop where
  id : row.id = entry.label
  salt : ∃ salt : BytesOf saltLength, world.Draws salt ∧ row.value.salt = salt.1
  derived : suite.derive? entry.secret row.value.salt = .ok key
  canary : ∃ nonce : BytesOf nonceLength, world.Draws nonce ∧
    suite.sealWith key (some nonce) Canary.plaintext = .ok row.value.canary

structure Fresh (suite : CipherSuite) (world : Surroundings) (entry : Password) (key : Key)
    (row : Row Credential) : Prop extends Made suite world entry key row where
  primary : row.value.primary = false

inductive Enrolled (suite : CipherSuite) (world : Surroundings) (stored : List (Row Credential)) :
    List Password → List (Row Credential) → List Encryptor → Prop where
  | nil : Enrolled suite world stored [] [] []
  | known {entry row key text entries new encryptors}
      (found : stored.find? (·.id == entry.label) = some row)
      (derived : suite.derive? entry.secret row.value.salt = .ok key)
      (opened : suite.openWith key row.value.canary = .ok text)
      (rest : Enrolled suite world stored entries new encryptors) :
      Enrolled suite world stored (entry :: entries) new (.aead entry.label key :: encryptors)
  | fresh {entry row key entries new encryptors}
      (absent : stored.find? (·.id == entry.label) = none)
      (made : Fresh suite world entry key row)
      (rest : Enrolled suite world stored entries new encryptors) :
      Enrolled suite world stored (entry :: entries) (row :: new)
        (.aead entry.label key :: encryptors)

inductive Unstored (suite : CipherSuite) (world : Surroundings) (table : Table Credential)
    (entry : Password) : ReconcileError → Prop where
  | saltless {moment} (undrawn : world.random moment saltLength = none) :
      Unstored suite world table entry (.sealing entry.label .noRandomness)
  | underived {fault} (salt : BytesOf saltLength)
      (refused : suite.derive? entry.secret salt.1 = .error fault) :
      Unstored suite world table entry (.derivation fault)
  | unsealed {key moment cause}
      (refused : suite.sealWith key (world.random moment nonceLength) Canary.plaintext =
        .error cause) :
      Unstored suite world table entry (.sealing entry.label cause)
  | taken {row} (found : table.find? entry.label = some row) :
      Unstored suite world table entry (.store (.database (.duplicate credentialTable)))

def EnrolledState (suite : CipherSuite) (world : Surroundings) (stored : List (Row Credential))
    (table : Table Credential) (entries : List Password) (before : Database)
    (answer : Option (List Encryptor)) (after : Database) : Prop :=
  ∃ done rest new encryptors longer, entries = done ++ rest ∧
    Enrolled suite world stored done new encryptors ∧ longer.rows = table.rows ++ new ∧
    after = before.withCredentials longer ∧
    ∀ given, answer = some given → rest = [] ∧ given = encryptors

variable {suite : CipherSuite} {world : Surroundings} {vault after : Vault}
  {stored : List (Row Credential)} {table : Table Credential}

theorem knownEncryptorOk {entry : Password} {credential : Credential} {encryptor : Encryptor}
    (ran : knownEncryptor suite entry credential = .ok encryptor) :
    ∃ key text, suite.derive? entry.secret credential.salt = .ok key ∧
      suite.openWith key credential.canary = .ok text ∧ encryptor = .aead entry.label key := by
  unfold knownEncryptor deriveFor at ran
  cases derived : suite.derive? entry.secret credential.salt with
  | error fault => simp [derived, bind, Except.bind] at ran
  | ok key =>
    cases opened : suite.openWith key credential.canary with
    | error cause =>
      have decrypted : (Encryptor.aead entry.label key).decrypt suite credential.canary =
          .error cause := opened
      cases cause <;>
        simp [derived, Canary.check, decrypted, bind, Except.bind] at ran
    | ok text =>
      have decrypted : (Encryptor.aead entry.label key).decrypt suite credential.canary =
          .ok text := opened
      simp only [derived, Canary.check, decrypted, bind, Except.bind, pure, Except.pure,
        Except.ok.injEq] at ran
      exact ⟨key, text, rfl, opened, ran.symm⟩

theorem knownEncryptorOpens {entry : Password} {credential : Credential} {key : Key} {text : Bytes}
    (derived : suite.derive? entry.secret credential.salt = .ok key)
    (opened : suite.openWith key credential.canary = .ok text) :
    knownEncryptor suite entry credential = .ok (.aead entry.label key) := by
  have decrypted : (Encryptor.aead entry.label key).decrypt suite credential.canary = .ok text :=
    opened
  simp only [knownEncryptor, deriveFor, derived, Canary.check, decrypted, bind, Except.bind, pure,
    Except.pure]

theorem sealForRun (label : String) (key : Key) :
    Canary.sealFor suite (.aead label key) world vault =
      (suite.sealWith key (world.random vault.moment nonceLength) Canary.plaintext,
        { vault with moment := vault.moment + 1 }) := rfl

theorem newEncryptorRan {entry : Password} {result : Except ReconcileError Encryptor}
    (found : vault.database.credentials = some table)
    (ran : newEncryptor suite .save entry world vault = (result, after)) :
    (∃ error, result = .error error ∧ Unstored suite world table entry error ∧
      after.database = vault.database ∧ after.commits = vault.commits) ∨
    ∃ key row longer, result = .ok (.aead entry.label key) ∧ Fresh suite world entry key row ∧
      longer.rows = table.rows ++ [row] ∧
      after.database = vault.database.withCredentials longer ∧
      after.commits = vault.database :: vault.commits := by
  rw [newEncryptor, Action.bindRandom] at ran
  cases salted : world.random vault.moment saltLength with
  | none =>
    rw [salted] at ran
    cases ran
    exact .inl ⟨_, rfl, .saltless salted, rfl, rfl⟩
  | some salt =>
    simp only [salted] at ran
    cases derived : suite.derive? entry.secret salt.1 with
    | error fault =>
      rw [deriveFor, derived, Action.bindOfError rfl] at ran
      cases ran
      exact .inl ⟨_, rfl, .underived salt derived, rfl, rfl⟩
    | ok key =>
      rw [deriveFor, derived, Action.bindOfOk rfl] at ran
      rcases Action.bindRan ran with ⟨canary, middle, sealedCanary, storing⟩ |
        ⟨error, unsealed, rfl⟩
      · have sealedCanary := Action.mapErrorRanOk sealedCanary
        rw [sealForRun] at sealedCanary
        obtain ⟨written, rfl⟩ := Prod.mk.inj sealedCanary
        obtain ⟨nonce, _, drawn, _⟩ := CipherSuite.sealWithSource written
        rw [drawn] at written
        cases taken : table.find? entry.label with
        | some row =>
          have refused := Credentials.saveNewTaken world
            { vault with moment := vault.moment + 1 + 1 } salt.1 canary found taken
          rw [Action.bindOfError (Action.mapErrorOfError refused)] at storing
          cases storing
          exact .inl ⟨_, rfl, .taken taken, rfl, rfl⟩
        | none =>
          obtain ⟨longer, saved, rows⟩ := Credentials.saveNewFound world
            { vault with moment := vault.moment + 1 + 1 } salt.1 canary found taken
          rw [Action.bindOfOk (Action.mapErrorOfOk saved)] at storing
          cases storing
          exact .inr ⟨key, _, longer, rfl,
            ⟨⟨rfl, ⟨salt, ⟨_, salted⟩, rfl⟩, derived, ⟨nonce, ⟨_, drawn⟩, written⟩⟩, rfl⟩,
            rows, rfl, rfl⟩
      · obtain ⟨told, unsealed, same⟩ := Action.mapErrorRan unsealed
        rw [sealForRun] at unsealed
        obtain ⟨refused, rfl⟩ := Prod.mk.inj unsealed
        cases told with
        | ok => cases same
        | error cause =>
          cases same
          exact .inl ⟨_, rfl, .unsealed refused, rfl, rfl⟩

theorem newEncryptorStores {entry : Password} {encryptor : Encryptor}
    (found : vault.database.credentials = some table)
    (ran : newEncryptor suite .save entry world vault = (.ok encryptor, after)) :
    ∃ key row longer, encryptor = .aead entry.label key ∧ Fresh suite world entry key row ∧
      longer.rows = table.rows ++ [row] ∧
      after.database = vault.database.withCredentials longer ∧
      after.commits = vault.database :: vault.commits ∧
      after.database.credentials = some longer := by
  rcases newEncryptorRan found ran with ⟨_, wrong, _⟩ |
    ⟨key, row, longer, same, made, rows, database, commits⟩
  · cases wrong
  · exact ⟨key, row, longer, Except.ok.inj same, made, rows, database, commits,
      by rw [database, Database.credentialsOfWith]⟩

theorem newEncryptorFails {entry : Password} {error : ReconcileError}
    (found : vault.database.credentials = some table)
    (ran : newEncryptor suite .save entry world vault = (.error error, after)) :
    Unstored suite world table entry error ∧ after.database = vault.database ∧
      after.commits = vault.commits := by
  rcases newEncryptorRan found ran with ⟨_, same, unstored, database, commits⟩ | ⟨_, _, _, wrong, _⟩
  · cases same
    exact ⟨unstored, database, commits⟩
  · cases wrong

theorem enrolledNone (suite : CipherSuite) (world : Surroundings) (stored : List (Row Credential))
    (entries : List Password) {database : Database} (found : database.credentials = some table) :
    EnrolledState suite world stored table entries database none database :=
  ⟨[], entries, [], [], table, rfl, .nil, (List.append_nil _).symm,
    (Database.withCredentialsSame found).symm, fun _ wrong => nomatch wrong⟩

theorem EnrolledState.known {entry : Password} {row : Row Credential} {key : Key} {text : Bytes}
    {entries : List Password} {before left : Database} {answer : Option (List Encryptor)}
    (found : stored.find? (·.id == entry.label) = some row)
    (derived : suite.derive? entry.secret row.value.salt = .ok key)
    (opened : suite.openWith key row.value.canary = .ok text)
    (rest : EnrolledState suite world stored table entries before answer left) :
    EnrolledState suite world stored table (entry :: entries) before
      (answer.map (.aead entry.label key :: ·)) left := by
  obtain ⟨done, rest, new, encryptors, longer, rfl, enrolled, rows, rfl, whole⟩ := rest
  refine ⟨entry :: done, rest, new, _, longer, rfl, .known found derived opened enrolled, rows, rfl,
    ?_⟩
  intro given same
  obtain ⟨following, answered, rfl⟩ := Option.map_eq_some_iff.1 same
  obtain ⟨none, rfl⟩ := whole following answered
  exact ⟨none, rfl⟩

theorem EnrolledState.fresh {entry : Password} {row : Row Credential} {key : Key}
    {entries : List Password} {before left : Database} {answer : Option (List Encryptor)}
    {longer : Table Credential}
    (absent : stored.find? (·.id == entry.label) = none) (made : Fresh suite world entry key row)
    (rows : longer.rows = table.rows ++ [row])
    (rest : EnrolledState suite world stored longer entries (before.withCredentials longer) answer
      left) :
    EnrolledState suite world stored table (entry :: entries) before
      (answer.map (.aead entry.label key :: ·)) left := by
  obtain ⟨done, rest, new, encryptors, longest, rfl, enrolled, more, rfl, whole⟩ := rest
  refine ⟨entry :: done, rest, row :: new, _, longest, rfl, .fresh absent made enrolled,
    by simp [more, rows], rfl, ?_⟩
  intro given same
  obtain ⟨following, answered, rfl⟩ := Option.map_eq_some_iff.1 same
  obtain ⟨none, rfl⟩ := whole following answered
  exact ⟨none, rfl⟩

theorem followingRan {encryptor : Encryptor} {action : Action ReconcileError (List Encryptor)}
    {result : Except ReconcileError (List Encryptor)}
    (ran : (action >>= fun following => pure (encryptor :: following)) world vault =
      (result, after)) :
    ∃ told, action world vault = (told, after) ∧
      result.toOption = told.toOption.map (encryptor :: ·) := by
  rcases Action.bindRan ran with ⟨following, middle, first, last⟩ | ⟨error, failed, rfl⟩
  · cases last
    exact ⟨_, first, rfl⟩
  · exact ⟨_, failed, rfl⟩

theorem encryptorsForRan {entries : List Password} {result : Except ReconcileError (List Encryptor)}
    (found : vault.database.credentials = some table)
    (ran : encryptorsFor suite .save stored entries world vault = (result, after)) :
    EnrolledState suite world stored table entries vault.database result.toOption after.database ∧
    ∀ Good, (∀ state, EnrolledState suite world stored table entries vault.database none state →
      Good state) → vault.Leads Good after := by
  -- On the entries: each is known, or stored behind those before it.
  induction entries generalizing table vault result with
  | nil =>
    cases ran
    refine ⟨⟨[], [], [], [], table, rfl, .nil, (List.append_nil _).symm,
      (Database.withCredentialsSame found).symm, ?_⟩, ?_⟩
    · exact fun given same => ⟨rfl, (Option.some.inj same).symm⟩
    · exact fun Good good => Vault.leadsSame (good _ (enrolledNone _ _ _ _ found)) rfl rfl
  | cons entry entries ih =>
    have here := enrolledNone suite world stored (entry :: entries) found
    rw [encryptorsFor] at ran
    cases known : stored.find? (·.id == entry.label) with
    | some row =>
      simp only [known] at ran
      cases tested : knownEncryptor suite entry row.value with
      | error error =>
        rw [tested, Action.bindOfError rfl] at ran
        cases ran
        exact ⟨here, fun Good good => Vault.leadsSame (good _ here) rfl rfl⟩
      | ok encryptor =>
        rw [tested, Action.bindOfOk rfl] at ran
        obtain ⟨key, text, derived, opened, rfl⟩ := knownEncryptorOk tested
        obtain ⟨told, others, same⟩ := followingRan ran
        obtain ⟨state, leads⟩ := ih found others
        refine ⟨same ▸ state.known known derived opened, fun Good good => leads Good ?_⟩
        exact fun left reached => good left (reached.known known derived opened)
    | none =>
      simp only [known] at ran
      rcases Action.bindRan ran with ⟨encryptor, middle, first, others⟩ | ⟨error, failed, rfl⟩
      · obtain ⟨key, row, longer, rfl, made, rows, database, commits, foundNow⟩ :=
          newEncryptorStores found first
        obtain ⟨told, others, same⟩ := followingRan others
        obtain ⟨state, leads⟩ := ih foundNow others
        rw [database] at state leads
        refine ⟨same ▸ state.fresh known made rows, fun Good good => ?_⟩
        have stored := (enrolledNone suite world stored entries (database ▸ foundNow)).fresh known
          made rows
        have onward : middle.Leads Good after :=
          leads Good fun left reached => good left (reached.fresh known made rows)
        exact (Vault.leadsCommit (good _ here) (good _ stored) database commits).trans onward
      · obtain ⟨_, database, commits⟩ := newEncryptorFails found failed
        exact ⟨database ▸ here, fun Good good => Vault.leadsSame (good _ here) database commits⟩

theorem encryptorsForEnrolled {entries : List Password} {encryptors : List Encryptor}
    (found : vault.database.credentials = some table)
    (ran : encryptorsFor suite .save stored entries world vault = (.ok encryptors, after)) :
    ∃ new longer, Enrolled suite world stored entries new encryptors ∧
      longer.rows = table.rows ++ new ∧ after.database = vault.database.withCredentials longer := by
  obtain ⟨⟨done, rest, new, given, longer, split, enrolled, rows, database, whole⟩, _⟩ :=
    encryptorsForRan found ran
  obtain ⟨rfl, rfl⟩ := whole encryptors rfl
  rw [List.append_nil] at split
  subst split
  exact ⟨new, longer, enrolled, rows, database⟩

def Holds (suite : CipherSuite) (rows : List (Row Credential)) (entry : Password)
    (encryptor : Encryptor) : Prop :=
  ∃ row ∈ rows, ∃ key, row.id = entry.label ∧
    suite.derive? entry.secret row.value.salt = .ok key ∧ encryptor = .aead entry.label key

namespace Enrolled

variable {entries : List Password} {new : List (Row Credential)} {encryptors : List Encryptor}

theorem length (enrolled : Enrolled suite world stored entries new encryptors) :
    encryptors.length = entries.length := by
  induction enrolled with
  | nil => rfl
  | known _ _ _ _ ih => simp only [List.length_cons, ih]
  | fresh _ _ _ ih => simp only [List.length_cons, ih]

theorem held (enrolled : Enrolled suite world stored entries new encryptors) :
    List.Forall₂ (Holds suite (stored ++ new)) entries encryptors := by
  induction enrolled with
  | nil => exact .nil
  | known found derived _ _ ih =>
    have place := List.mem_of_find?_eq_some found
    exact .cons ⟨_, List.mem_append_left _ place, _, by simpa using List.find?_some found, derived,
      rfl⟩ ih
  | fresh _ made _ ih =>
    refine .cons ⟨_, by simp, _, made.id, made.derived, rfl⟩ (ih.imp fun entry encryptor held => ?_)
    obtain ⟨row, place, rest⟩ := held
    refine ⟨row, ?_, rest⟩
    rcases List.mem_append.1 place with old | later
    · exact List.mem_append_left _ old
    · exact List.mem_append_right _ (List.mem_cons_of_mem _ later)

theorem madeNew (enrolled : Enrolled suite world stored entries new encryptors)
    {row : Row Credential} (place : row ∈ new) :
    ∃ entry ∈ entries, ∃ key, stored.find? (·.id == entry.label) = none ∧
      Fresh suite world entry key row := by
  induction enrolled with
  | nil => simp at place
  | known _ _ _ _ ih =>
    obtain ⟨entry, found, rest⟩ := ih place
    exact ⟨entry, List.mem_cons_of_mem _ found, rest⟩
  | fresh absent made _ ih =>
    rcases List.mem_cons.1 place with rfl | place
    · exact ⟨_, List.mem_cons_self, _, absent, made⟩
    · obtain ⟨entry, found, rest⟩ := ih place
      exact ⟨entry, List.mem_cons_of_mem _ found, rest⟩

theorem madeFor (enrolled : Enrolled suite world stored entries new encryptors)
    {entry : Password} (place : entry ∈ entries)
    (absent : stored.find? (·.id == entry.label) = none) :
    ∃ row key, Made suite world entry key row := by
  induction enrolled with
  | nil => simp at place
  | known found _ _ _ ih =>
    rcases List.mem_cons.1 place with rfl | place
    · rw [found] at absent
      cases absent
    · exact ih place
  | fresh _ made _ ih =>
    rcases List.mem_cons.1 place with rfl | place
    · exact ⟨_, _, made.toMade⟩
    · exact ih place

theorem newLabels (enrolled : Enrolled suite world stored entries new encryptors) :
    new.map (·.id) =
      (entries.filter fun entry => (stored.find? (·.id == entry.label)).isNone).map (·.label) := by
  induction enrolled with
  | nil => rfl
  | known found _ _ _ ih => simp [found, ih]
  | fresh absent made _ ih => simp [absent, made.id, ih]

theorem primaries {before longer : Table Credential}
    (enrolled : Enrolled suite world stored entries new encryptors)
    (rows : longer.rows = before.rows ++ new) :
    Credentials.primaryLabels longer = Credentials.primaryLabels before := by
  have none : new.filter (·.value.primary) = [] := by
    refine List.filter_eq_nil_iff.2 fun row place => ?_
    obtain ⟨_, _, _, _, made⟩ := enrolled.madeNew place
    simp [made.primary]
  rw [Credentials.primaryLabels, rows, List.filter_append, none, List.append_nil,
    Credentials.primaryLabels]

theorem knownOpens (enrolled : Enrolled suite world stored entries new encryptors)
    {entry : Password} (place : entry ∈ entries) {row : Row Credential}
    (found : stored.find? (·.id == entry.label) = some row) :
    ∃ key text, suite.derive? entry.secret row.value.salt = .ok key ∧
      suite.openWith key row.value.canary = .ok text := by
  induction enrolled with
  | nil => simp at place
  | known other derived opened _ ih =>
    rcases List.mem_cons.1 place with rfl | place
    · rw [other] at found
      cases found
      exact ⟨_, _, derived, opened⟩
    · exact ih place
  | fresh absent _ _ ih =>
    rcases List.mem_cons.1 place with rfl | place
    · rw [absent] at found
      cases found
    · exact ih place

end Enrolled

structure Enrollable (suite : CipherSuite) (stored : List (Row Credential)) (entry : Password) :
    Prop where
  known : ∀ row, stored.find? (·.id == entry.label) = some row → ∃ key text,
    suite.derive? entry.secret row.value.salt = .ok key ∧
      suite.openWith key row.value.canary = .ok text
  fresh : stored.find? (·.id == entry.label) = none →
    ∀ (salt : BytesOf saltLength) (nonce : BytesOf nonceLength), ∃ key canary,
      suite.derive? entry.secret salt.1 = .ok key ∧
        suite.sealWith key (some nonce) Canary.plaintext = .ok canary

theorem enrollableNew (seals : suite.Seals Canary.plaintext) {entry : Password}
    (long : CipherSuite.leastSecretBytes ≤ entry.secret.utf8ByteSize)
    (new : stored.find? (·.id == entry.label) = none) : Enrollable suite stored entry := by
  refine ⟨fun row found => ?_, fun _ salt nonce => ?_⟩
  · rw [new] at found
    cases found
  · obtain ⟨canary, written⟩ := seals.bytes (suite.deriveKey entry.secret salt.1) nonce
    exact ⟨_, canary, CipherSuite.deriveLong long salt.2, written⟩

theorem newEncryptorOk {entry : Password} (calm : world.Calm)
    (found : vault.database.credentials = some table) (new : table.find? entry.label = none)
    (ready : Enrollable suite stored entry)
    (absent : stored.find? (·.id == entry.label) = none) :
    ∃ encryptor after, newEncryptor suite .save entry world vault = (.ok encryptor, after) := by
  obtain ⟨salt, salted⟩ := calm.random vault.moment saltLength
  obtain ⟨nonce, drawn⟩ := calm.random (vault.moment + 1) nonceLength
  obtain ⟨key, canary, derived, written⟩ := ready.fresh absent salt nonce
  obtain ⟨longer, saved, _⟩ := Credentials.saveNewFound world
    { vault with moment := vault.moment + 1 + 1 } salt.1 canary found new
  have sealing : Canary.sealFor suite (.aead entry.label key) world
      { vault with moment := vault.moment + 1 } =
        (.ok canary, { vault with moment := vault.moment + 1 + 1 }) := by
    rw [sealForRun, drawn, written]
  rw [newEncryptor, Action.bindRandom]
  simp only [salted, deriveFor, derived]
  rw [Action.bindOfOk rfl, Action.bindOfOk (Action.mapErrorOfOk sealing),
    Action.bindOfOk (Action.mapErrorOfOk saved)]
  exact ⟨_, _, rfl⟩

theorem stillNew {entry : Password} {entries : List Password} {row : Row Credential}
    {longer : Table Credential} (alone : entry.label ∉ entries.map (·.label))
    (id : row.id = entry.label) (rows : longer.rows = table.rows ++ [row])
    (new : ∀ other ∈ entries, stored.find? (·.id == other.label) = none →
      table.find? other.label = none) :
    ∀ other ∈ entries, stored.find? (·.id == other.label) = none →
      longer.find? other.label = none := by
  intro other place absent
  have differ : row.id ≠ other.label := fun same =>
    alone (List.mem_map.2 ⟨other, place, (id.symm.trans same).symm⟩)
  have before := new other place absent
  rw [Table.find?] at before
  rw [Table.find?, rows, List.find?_append, before]
  simpa using differ

theorem encryptorsForOk {entries : List Password} (calm : world.Calm)
    (found : vault.database.credentials = some table)
    (distinct : (entries.map (·.label)).Nodup)
    (new : ∀ entry ∈ entries, stored.find? (·.id == entry.label) = none →
      table.find? entry.label = none)
    (ready : ∀ entry ∈ entries, Enrollable suite stored entry) :
    ∃ encryptors after, encryptorsFor suite .save stored entries world vault =
      (.ok encryptors, after) := by
  induction entries generalizing table vault with
  | nil => exact ⟨_, _, rfl⟩
  | cons entry entries ih =>
    obtain ⟨alone, distinct⟩ := List.nodup_cons.1 distinct
    obtain ⟨headNew, new⟩ := List.forall_mem_cons.1 new
    obtain ⟨headReady, ready⟩ := List.forall_mem_cons.1 ready
    rw [encryptorsFor]
    cases known : stored.find? (·.id == entry.label) with
    | some row =>
      obtain ⟨key, text, derived, opened⟩ := headReady.known row known
      obtain ⟨encryptors, after, ran⟩ := ih found distinct new ready
      simp only [knownEncryptorOpens derived opened]
      rw [Action.bindOfOk rfl, Action.bindOfOk ran]
      exact ⟨_, _, rfl⟩
    | none =>
      obtain ⟨encryptor, middle, made⟩ := newEncryptorOk calm found (headNew known) headReady known
      obtain ⟨_, row, longer, _, fresh, rows, _, _, foundNow⟩ := newEncryptorStores found made
      obtain ⟨encryptors, after, ran⟩ := ih foundNow distinct (stillNew alone fresh.id rows new) ready
      simp only []
      rw [Action.bindOfOk made, Action.bindOfOk ran]
      exact ⟨_, _, rfl⟩

def HaltedState (suite : CipherSuite) (world : Surroundings) (stored : List (Row Credential))
    (table : Table Credential) (entries : List Password) (before : Database)
    (error : ReconcileError) (after : Database) : Prop :=
  ∃ earlier entry rest new encryptors longer, entries = earlier ++ entry :: rest ∧
    Enrolled suite world stored earlier new encryptors ∧ longer.rows = table.rows ++ new ∧
    after = before.withCredentials longer ∧
    ((∃ row, stored.find? (·.id == entry.label) = some row ∧
      knownEncryptor suite entry row.value = .error error) ∨
    stored.find? (·.id == entry.label) = none ∧ Unstored suite world longer entry error)

theorem HaltedState.known {entry : Password} {row : Row Credential} {key : Key} {text : Bytes}
    {entries : List Password} {before left : Database} {error : ReconcileError}
    (found : stored.find? (·.id == entry.label) = some row)
    (derived : suite.derive? entry.secret row.value.salt = .ok key)
    (opened : suite.openWith key row.value.canary = .ok text)
    (rest : HaltedState suite world stored table entries before error left) :
    HaltedState suite world stored table (entry :: entries) before error left := by
  obtain ⟨earlier, other, rest, new, encryptors, longer, rfl, enrolled, rows, same, halts⟩ := rest
  exact ⟨entry :: earlier, other, rest, new, _, longer, rfl,
    .known found derived opened enrolled, rows, same, halts⟩

theorem HaltedState.fresh {entry : Password} {row : Row Credential} {key : Key}
    {entries : List Password} {before left : Database} {error : ReconcileError}
    {longer : Table Credential}
    (absent : stored.find? (·.id == entry.label) = none) (made : Fresh suite world entry key row)
    (rows : longer.rows = table.rows ++ [row])
    (rest : HaltedState suite world stored longer entries (before.withCredentials longer) error
      left) :
    HaltedState suite world stored table (entry :: entries) before error left := by
  obtain ⟨earlier, other, rest, new, encryptors, longest, rfl, enrolled, more, rfl, halts⟩ := rest
  exact ⟨entry :: earlier, other, rest, row :: new, _, longest, rfl, .fresh absent made enrolled,
    by simp [more, rows], rfl, halts⟩

theorem followingFails {encryptor : Encryptor} {action : Action ReconcileError (List Encryptor)}
    {error : ReconcileError}
    (ran : (action >>= fun following => pure (encryptor :: following)) world vault =
      (.error error, after)) : action world vault = (.error error, after) := by
  rcases Action.bindRan ran with ⟨_, _, _, wrong⟩ | ⟨_, failed, same⟩
  · cases wrong
  · cases same
    exact failed

theorem encryptorsForFails {entries : List Password} {error : ReconcileError}
    (found : vault.database.credentials = some table)
    (ran : encryptorsFor suite .save stored entries world vault = (.error error, after)) :
    HaltedState suite world stored table entries vault.database error after.database := by
  induction entries generalizing table vault with
  | nil => cases ran
  | cons entry entries ih =>
    have unchanged := (Database.withCredentialsSame found).symm
    have noneNew := (List.append_nil table.rows).symm
    rw [encryptorsFor] at ran
    cases known : stored.find? (·.id == entry.label) with
    | some row =>
      simp only [known] at ran
      cases tested : knownEncryptor suite entry row.value with
      | error refused =>
        rw [tested, Action.bindOfError rfl] at ran
        cases ran
        exact ⟨[], entry, entries, [], [], table, rfl, .nil, noneNew, unchanged,
          .inl ⟨row, known, tested⟩⟩
      | ok encryptor =>
        rw [tested, Action.bindOfOk rfl] at ran
        obtain ⟨key, text, derived, opened, rfl⟩ := knownEncryptorOk tested
        exact (ih found (followingFails ran)).known known derived opened
    | none =>
      simp only [known] at ran
      rcases Action.bindRan ran with ⟨encryptor, middle, first, others⟩ | ⟨_, failed, same⟩
      · obtain ⟨key, row, longer, _, made, rows, database, _, foundNow⟩ :=
          newEncryptorStores found first
        have halted := ih foundNow (followingFails others)
        rw [database] at halted
        exact halted.fresh known made rows
      · cases same
        obtain ⟨unstored, left, _⟩ := newEncryptorFails found failed
        exact ⟨[], entry, entries, [], [], table, rfl, .nil, noneNew, left.trans unchanged,
          .inr ⟨known, unstored⟩⟩

theorem Enrolled.stillAbsent {earlier : List Password} {new : List (Row Credential)}
    {encryptors : List Encryptor} {longer : Table Credential} {label : String}
    (enrolled : Enrolled suite world stored earlier new encryptors)
    (rows : longer.rows = table.rows ++ new) (absent : table.find? label = none)
    (other : label ∉ earlier.map (·.label)) : longer.find? label = none := by
  rw [Table.absentIff, rows, List.map_append, enrolled.newLabels, List.mem_append, not_or]
  refine ⟨Table.absentIff.1 absent, fun place => other ?_⟩
  obtain ⟨entry, found, same⟩ := List.mem_map.1 place
  exact List.mem_map.2 ⟨entry, (List.mem_filter.1 found).1, same⟩

theorem encryptorsForStops {entries : List Password} {error : ReconcileError}
    (found : vault.database.credentials = some table) (distinct : (entries.map (·.label)).Nodup)
    (new : ∀ entry ∈ entries, stored.find? (·.id == entry.label) = none →
      table.find? entry.label = none)
    (ran : encryptorsFor suite .save stored entries world vault = (.error error, after)) :
    ∃ earlier entry rest, entries = earlier ++ entry :: rest ∧
      (∀ other ∈ earlier, ∀ row, stored.find? (·.id == other.label) = some row →
        ∃ encryptor, knownEncryptor suite other row.value = .ok encryptor) ∧
      ((∃ row, stored.find? (·.id == entry.label) = some row ∧
        knownEncryptor suite entry row.value = .error error) ∨
      stored.find? (·.id == entry.label) = none ∧ ∃ longer : Table Credential,
        longer.find? entry.label = none ∧ Unstored suite world longer entry error) := by
  obtain ⟨earlier, entry, rest, made, encryptors, longer, rfl, enrolled, rows, _, stops⟩ :=
    encryptorsForFails found ran
  refine ⟨earlier, entry, rest, rfl, fun other place row known => ?_, stops.imp_right ?_⟩
  · obtain ⟨key, text, derived, opened⟩ := enrolled.knownOpens place known
    exact ⟨_, knownEncryptorOpens derived opened⟩
  · rintro ⟨absent, unstored⟩
    have apart : entry.label ∉ earlier.map (·.label) := by
      rw [List.map_append, List.map_cons] at distinct
      exact fun also => (List.nodup_append.1 distinct).2.2 _ also _ List.mem_cons_self rfl
    have free := new entry (List.mem_append_right _ List.mem_cons_self) absent
    exact ⟨absent, longer, enrolled.stillAbsent rows free apart, unstored⟩

structure Equipped (suite : CipherSuite) (world : Surroundings) : Prop where
  draws : ∀ moment length, ∃ bytes, world.random moment length = some bytes
  seals : ∀ key (nonce : BytesOf nonceLength), ∃ canary,
    suite.sealWith key (some nonce) Canary.plaintext = .ok canary

theorem Equipped.stores {entry : Password} {error : ReconcileError}
    (equipped : Equipped suite world)
    (long : CipherSuite.leastSecretBytes ≤ entry.secret.utf8ByteSize)
    (free : table.find? entry.label = none) : ¬Unstored suite world table entry error := by
  intro unstored
  cases unstored with
  | saltless undrawn =>
    obtain ⟨_, drawn⟩ := equipped.draws _ _
    cases undrawn.symm.trans drawn
  | underived salt refused => cases refused.symm.trans (CipherSuite.deriveLong long salt.2)
  | @unsealed key moment _ refused =>
    obtain ⟨nonce, drawn⟩ := equipped.draws moment nonceLength
    obtain ⟨canary, written⟩ := equipped.seals key nonce
    cases refused.symm.trans (drawn ▸ written)
  | taken found => cases free.symm.trans found

end Reconciliation
end BrokerVault
