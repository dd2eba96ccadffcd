import BrokerVault.Proofs.Rotation

/-! Setups that go through. Where the policy is kept, every entry can be enrolled and every value that
is due can be resealed, nothing but a request to stop or a lack of random bytes makes one fail; and a
setup that rotated has brought every value under the new primary. -/
namespace BrokerVault

open Reencryption Reconciliation

namespace Setup

variable {suite : CipherSuite} {world : Surroundings} {settings : Settings} {vault after : Vault}
  {before longer : Table Credential} {sole : Option String} {new : List (Row Credential)}
  {encryptors : List Encryptor} {plan : Reconciliation} {rotation : Encryptor}

structure Feasible (suite : CipherSuite) (plan : Reconciliation) (database : Database) : Prop where
  turning : ∀ rotation, plan.rotation = some rotation → ∀ name, ∃ stored,
    database.table? name = some stored ∧
      ∀ row ∈ stored.after 0, Resealable suite rotation name row
  resting : plan.rotation = none → ∃ unreadable,
    Verification.failures suite plan.encryptor database = .ok unreadable

theorem rotatingCalm (calm : world.Calm) (accepted : Password.Accepted settings.passwords)
    (founded : Founded suite world settings before longer sole new encryptors plan)
    (table : vault.database.credentials = some longer)
    (tables : ∀ name, ∃ stored, vault.database.table? name = some stored ∧
      ∀ row ∈ stored.after 0, Resealable suite rotation name row) {error : SetupError} :
    ¬Rotating suite world plan rotation vault (.error error) after := by
  intro ran
  cases ran with
  | refused unchecked =>
    refine unchecked fun name => ?_
    obtain ⟨stored, found, each⟩ := tables name
    exact ⟨stored, found, fun row place => (each row place).reads⟩
  | broken _ ran =>
    obtain ⟨_, _, through⟩ := rewriteAllCalm calm tables
    cases ran.symm.trans through
  | unpromoted _ ran promotion =>
    have credentials := (rewriteAllWhole ran).2.1.trans table
    obtain ⟨_, promoted⟩ := founded.promotable accepted world credentials
    cases promotion.symm.trans promoted

theorem runCalm (law : suite.OpensSealed) (calm : world.Calm)
    (accepted : Password.Accepted settings.passwords)
    (found : vault.database.credentials = some before) (alone : solePrimary? before.rows = .ok sole)
    (supplied : ∀ label, sole = some label → label ∈ settings.passwords.map (·.label))
    (policy : settings.enabled = (settings.passwords.find? (·.primary)).isSome)
    (ready : ∀ entry ∈ settings.passwords, Enrollable suite before.rows entry)
    (feasible : ∀ longer new encryptors plan,
      Founded suite world settings before longer sole new encryptors plan →
      Feasible suite plan (vault.database.withCredentials longer)) :
    ∃ setup after, run suite settings world vault = (.ok setup, after) ∧
      (primaryLabel settings.passwords ≠ sole.getD "" →
        setup.unreadable = [] ∧ ∃ count, setup.rotated = some count) := by
  obtain ⟨plan, middle, reconciled⟩ :=
    reconcileOk calm found alone accepted.distinct supplied policy ready
  rcases reconcileRan reconciled with ⟨_, wrong, _⟩ | ⟨stored, also, planned, _⟩
  · cases wrong
  rw [found] at also
  cases also
  obtain ⟨longer, other, new, encryptors, founded, database⟩ := planned plan rfl
  cases alone.symm.trans founded.alone
  have table : middle.database.credentials = some longer := by
    rw [database, Database.credentialsOfWith]
  have possible := feasible longer new encryptors plan founded
  rw [← database] at possible
  have form := founded.rotation
  cases ran : run suite settings world vault with
  | mk result after =>
    cases runRan ran with
    | unreconciled refused => cases reconciled.symm.trans refused
    | unturned again due rotating =>
      cases reconciled.symm.trans again
      exact (rotatingCalm calm accepted founded table (possible.turning _ due) rotating).elim
    | unchecked again turned checking =>
      cases reconciled.symm.trans again
      cases turned with
      | none absent =>
        obtain ⟨_, answered⟩ := possible.resting absent
        cases checking.symm.trans answered
      | some due rotating =>
        obtain ⟨_, _, tables⟩ := promotedRan law accepted founded due table rotating
        cases checking.symm.trans (Verification.failuresNil.2 (allReadAfter tables))
    | checked again turned checking removing answer =>
      cases reconciled.symm.trans again
      cases turned with
      | none absent =>
        obtain ⟨⟨deleted, rfl⟩, _⟩ := removeStaleRan table removing
        refine ⟨_, after, by rw [answer]; rfl, fun turns => ?_⟩
        rw [absent, if_neg turns] at form
        cases form
      | some due rotating =>
        obtain ⟨_, ⟨changed, left, _⟩, tables⟩ :=
          promotedRan law accepted founded due table rotating
        cases checking.symm.trans (Verification.failuresNil.2 (allReadAfter tables))
        obtain ⟨⟨deleted, rfl⟩, _⟩ := removeStaleRan left removing
        exact ⟨_, after, by rw [answer]; rfl, fun _ => ⟨rfl, _, rfl⟩⟩

theorem rotatedTurns {setup : Setup} {count : Nat}
    (ran : run suite settings world vault = (.ok setup, after)) (rotated : setup.rotated = some count) :
    setup.reconciliation.rotation ≠ none := by
  cases runRan ran with
  | @checked _ _ _ _ _ removal _ _ _ turning _ _ answer =>
    cases removal with
    | error error => cases answer
    | ok deleted =>
      cases answer
      cases turning with
      | none => cases rotated
      | some due => simp [due]

theorem rotationCompletes (law : suite.OpensSealed)
    (accepted : Password.Accepted settings.passwords) {setup : Setup} {count : Nat}
    (ran : run suite settings world vault = (.ok setup, after)) (rotated : setup.rotated = some count) :
    setup.unreadable = [] ∧
    count = (ProtectedTable.all.map (filledIn vault.database)).sum ∧
    (∃ rotation, setup.reconciliation.rotation = some rotation ∧
      ∀ name, ∃ stored changed, vault.database.table? name = some stored ∧
        after.database.table? name = some changed ∧
        List.Forall₂ (Carried suite rotation setup.encryptor name) stored.rows changed.rows) ∧
    ∃ credentials, after.database.credentials = some credentials ∧
      (∀ label, label ∈ credentials.rows.map (·.id) ↔
        label ∈ settings.passwords.map (·.label)) ∧
      ∀ row ∈ credentials.rows, row.value.primary = true ↔
        ∃ entry ∈ settings.passwords, entry.primary = true ∧ entry.label = row.id := by
  cases runRan ran with
  | @checked plan middle turned unreadable turnedVault removal _ _ reconciled turning checking removing
      answer =>
    rcases reconcileRan reconciled with ⟨_, wrong, _⟩ | ⟨before, _, planned, _⟩
    · cases wrong
    obtain ⟨longer, sole, new, encryptors, founded, database⟩ := planned plan rfl
    have table : middle.database.credentials = some longer := by
      rw [database, Database.credentialsOfWith]
    cases removal with
    | error error => cases answer
    | ok deleted =>
      cases answer
      cases turning with
      | none => cases rotated
      | some due rotating =>
        cases rotated
        obtain ⟨total, ⟨changed, stored, keys, primaries⟩, tables⟩ :=
          promotedRan law accepted founded due table rotating
        have none := checking.symm.trans (Verification.failuresNil.2 (allReadAfter tables))
        cases none
        obtain ⟨_, _, removed, _⟩ := removeStaleRan stored removing
        have left := removed rfl
        simp only [database, filledInWith, Database.tableOfWith] at total tables
        refine ⟨rfl, total, ⟨_, due, fun name => ?_⟩, _, by rw [left, Database.credentialsOfWith],
          labelsLeft founded keys, fun row place => ?_⟩
        · obtain ⟨was, is, found, changed, rows⟩ := tables name
          exact ⟨was, is, found, by rw [left, Database.tableOfWith, changed], rows⟩
        · rw [← wantedPrimary accepted, ← primaries]
          exact Credentials.primaryLabelsAre changed (List.mem_filter.1 place).1

end Setup

namespace CipherSuite

/-- A suite whose keys can be told apart by hand, as those of the standard one cannot: what is sealed
begins with its key. -/
def marking : CipherSuite where
  deriveKey secret salt := ⟨(Bytes.ofText secret ++ salt ++ List.replicate 32 0).take 32, by
    simp only [List.length_take, List.length_append, List.length_replicate]
    omega⟩
  encrypt key _ plaintext := .ok (key.bytes ++ plaintext)
  decrypt key _ body := if body.take 32 = key.bytes then some (body.drop 32) else none

variable {suite : CipherSuite} {key other : Key} {nonce : BytesOf nonceLength} {text bytes found : Bytes}

theorem encodedZero (rest : Bytes) : ∃ symbols, Base64.encodeBytes (0 :: rest) = 65 :: symbols := by
  rcases rest with _ | ⟨_, _ | ⟨_, _⟩⟩ <;> exact ⟨_, rfl⟩

theorem zeroUnlike (zero : nonce.1.head? = some 0)
    (written : suite.sealWith key (some nonce) text = .ok bytes) {format : ColumnFormat}
    (opened : Encryptor.noop.openColumn suite (ColumnValue.ofSealed format bytes) = .ok found) :
    Json.checkDocument found ≠ .ok () := by
  obtain ⟨_, body, drawn, _, rfl⟩ := sealWithSource written
  cases drawn
  obtain ⟨rest, begins⟩ := List.head?_eq_some_iff.1 zero
  rw [begins] at opened
  cases format with
  | blob =>
    cases opened
    intro wrong
    cases wrong
  | text =>
    rw [Encryptor.openNoop] at opened
    cases opened
    -- Their Base64 begins with an A, and no JSON does.
    obtain ⟨_, symbols⟩ := encodedZero (rest ++ body)
    rw [List.cons_append]
    simp only [ColumnValue.ofSealed, Base64.encode, Base64.ofTextOfAscii _ (Base64.encodedAscii _)]
    rw [symbols]
    intro wrong
    cases wrong

theorem markingOpensSealed : marking.OpensSealed := by
  rintro key _ plaintext _ ⟨⟩
  simp [marking, List.take_left' key.length_eq, List.drop_left' key.length_eq]

theorem markingSealsAlike : marking.SealsAlike := fun _ _ _ _ _ _ _ => ⟨_, rfl⟩

theorem markingSeals (text : Bytes) : marking.Seals text := fun _ _ => ⟨_, rfl⟩

theorem markingExclusive (written : marking.sealWith key (some nonce) text = .ok bytes)
    (opened : marking.openWith other bytes = .ok found) : other = key := by
  obtain ⟨_, body, drawn, encrypted, rfl⟩ := sealWithSource written
  cases drawn
  cases encrypted
  simp only [openWith, List.take_left' nonce.2, List.drop_left' nonce.2, marking,
    List.take_left' key.length_eq] at opened
  by_cases same : key.bytes = other.bytes
  · cases key
    cases other
    cases same
    rfl
  · simp only [same, ↓reduceIte] at opened
    split at opened <;> cases opened

theorem markingBegins {secret : String} {salt : Bytes} (long : 20 ≤ (Bytes.ofText secret).length) :
    (marking.deriveKey secret salt).bytes.take 20 = (Bytes.ofText secret).take 20 := by
  simp [marking, List.take_append_of_le_length, long, List.take_take]

end CipherSuite

/-! A store without passwords, with a workspace and a request in it as they are, and settings that
bring the first password. -/
namespace FirstSetup

def world : Surroundings where
  random _ length := some ⟨List.replicate length 0, List.length_replicate⟩
  clock _ := default
  cancelled _ := false

def settings : Settings := ⟨true, [⟨"first", "a secret of twenty bytes", true⟩]⟩

def document : Bytes := .ofText "\x7b\x7d"

def request : Bytes := .ofText "[null]"

def nonce : BytesOf nonceLength := ⟨List.replicate nonceLength 0, List.length_replicate⟩

def halfFilled : Database :=
  Database.empty.setTable .workspaces
    (some (Table.empty.upsert "workspace" (.ofColumn (.blob document))))

def database : Database :=
  halfFilled.setTable .requestDetails
    (some (Table.empty.upsert "request" (.ofColumn (.text "[null]"))))

theorem calm : world.Calm := ⟨fun _ _ => ⟨_, rfl⟩, fun _ => rfl⟩

theorem accepted : Password.Accepted settings.passwords := (Password.acceptedIff _).1 (by decide)

theorem eitherChecked : ∀ text ∈ [document, request], Json.checkDocument text = .ok () := by decide

theorem documentChecked : Json.checkDocument document = .ok () :=
  eitherChecked document List.mem_cons_self

theorem eitherSeals : ∀ text ∈ [document, request], CipherSuite.standard.Seals text := by
  intro text place
  refine CipherSuite.standardSealsShort ?_
  revert text
  decide

theorem documentUnopened {suite : CipherSuite} {text : Bytes} (place : text ∈ [document, request])
    {format : ColumnFormat} {value : ColumnValue}
    (standing : ColumnValue.plain? format text = some value) (label : String) (key : Key)
    (found : Bytes) : (Encryptor.aead label key).openColumn suite value ≠ .ok found := by
  -- Neither document is long enough for sealed bytes, and neither is Base64.
  intro opened
  cases format with
  | blob =>
    cases standing
    rcases List.mem_pair.1 place with rfl | rfl <;> cases opened
  | text =>
    have read : ∀ content, (Bytes.ofText content).toText? = some content := Bytes.toTextOfText
    rcases List.mem_pair.1 place with rfl | rfl <;>
      · simp only [ColumnValue.plain?, document, request, read, Option.map_some] at standing
        cases standing
        cases opened

theorem resealable {longer : Table Credential} {new : List (Row Credential)}
    {encryptors : List Encryptor} {plan : Reconciliation}
    (founded : Founded .standard world settings .empty longer none new encryptors plan)
    {name : ProtectedTable} {id : String} {text : Bytes} {value : ColumnValue}
    (place : text ∈ [document, request])
    (standing : ColumnValue.plain? name.format text = some value) :
    Resealable .standard (.compound plan.encryptor (encryptors ++ plainReader none settings.passwords))
      name ⟨1, id, .ofColumn value⟩ := by
  have plain : Encryptor.noop ∈ encryptors ++ plainReader none settings.passwords := by
    simp [plainReader]
  have opens : Encryptor.noop.openColumn .standard value = .ok text := Encryptor.openPlain standing
  have sealedHere : Encryptor.noop.sealColumn .standard name.format none text = .ok value :=
    Encryptor.sealNoopOfPlain standing none
  refine .inr ⟨value, text, sealedRead sealedHere, Encryptor.readDocumentOk.2
    ⟨?_, eitherChecked text place⟩, founded.chosen.seals rfl (eitherSeals text place) name.format⟩
  rw [← List.append_nil (encryptors ++ plainReader none settings.passwords)]
  refine Encryptor.openCompoundOfAgreed ⟨.noop, plain, opens⟩ (fun reader among found opened => ?_) []
  rcases founded.reader among with rfl | ⟨entry, _, row, _, key, _, _, rfl⟩
  · exact Except.ok.inj (opened.symm.trans opens)
  · exact (documentUnopened place standing _ key found opened).elim

theorem goesThrough : ∃ setup after,
    Setup.run .standard settings world (.ofDatabase database) = (.ok setup, after) ∧
      setup.unreadable = [] ∧ ∃ count, setup.rotated = some count := by
  have found : (Vault.ofDatabase database).database.credentials = some .empty := rfl
  have alone : solePrimary? Table.empty.rows = .ok none := rfl
  have ready : ∀ entry ∈ settings.passwords, Enrollable .standard Table.empty.rows entry := by
    intro entry place
    refine enrollableNew (CipherSuite.standardSealsShort (by decide)) ?_ rfl
    revert entry
    decide
  refine (Setup.runCalm CipherSuite.standardOpensSealed calm accepted found alone
    (fun _ wrong => nomatch wrong) rfl ready ?_).imp
      fun setup => Exists.imp fun after => And.imp_right fun turns => turns (by decide)
  intro longer new encryptors plan founded
  have form := founded.rotation
  rw [if_neg (by decide)] at form
  refine ⟨fun rotation due name => ?_, fun absent => ?_⟩
  · cases form.symm.trans due
    cases name with
    | workspaces =>
      refine ⟨_, rfl, fun row place => ?_⟩
      cases List.mem_singleton.1 place
      exact resealable founded (by simp) rfl
    | requestDetails =>
      refine ⟨_, rfl, fun row place => ?_⟩
      cases List.mem_singleton.1 place
      have standing : ColumnValue.plain? .text request = some (.text "[null]") := rfl
      exact resealable founded (by simp) standing
    | instanceDetails => exact ⟨.empty, rfl, fun row place => nomatch place⟩
    | bindingCredentials => exact ⟨.empty, rfl, fun row place => nomatch place⟩
  · simp [form] at absent

end FirstSetup

/-! A store with a primary and with a label that is no longer configured, a workspace and a request
sealed under the primary, and settings that put a new label in its place. -/
namespace SecondKey

open FirstSetup (document nonce request)

def world : Surroundings where
  random moment length := some ⟨(List.replicate length (UInt8.ofNat moment)).set 0 0, by simp⟩
  clock moment := ⟨moment, 0⟩
  cancelled _ := false

def settings : Settings :=
  ⟨true, [⟨"former", "the former secret word", false⟩, ⟨"latest", "the latest secret word", true⟩]⟩

def salt : BytesOf saltLength := ⟨List.replicate saltLength 1, List.length_replicate⟩

def formerKey (suite : CipherSuite) : Key := suite.deriveKey "the former secret word" salt.1

def formerRow (canary : Bytes) : Row Credential :=
  ⟨2, "former", salt.1, canary, true, default, default⟩

def credentials (canary : Bytes) : Table Credential :=
  ⟨[⟨1, "retired", List.replicate saltLength 2, [], false, default, default⟩, formerRow canary],
    by simp [formerRow], by simp [formerRow]⟩

def sealedRow (name : ProtectedTable) (bytes : Bytes) : Row Cell :=
  ⟨1, "sealed", .ofColumn (.ofSealed name.format bytes)⟩

def holding (row : Row Cell) : Table Cell := ⟨[row], by simp, by simp⟩

def database (canary bytes others : Bytes) : Database :=
  { Database.empty with
    credentials := some (credentials canary)
    workspaces := some (holding (sealedRow .workspaces bytes))
    requestDetails := some (holding (sealedRow .requestDetails others)) }

theorem calm : world.Calm := ⟨fun _ _ => ⟨_, rfl⟩, fun _ => rfl⟩

theorem accepted : Password.Accepted settings.passwords := (Password.acceptedIff _).1 (by decide)

theorem formerSupplied (label : String) (same : some "former" = some label) :
    label ∈ settings.passwords.map (·.label) := by
  cases same
  decide

theorem drawsZero {drawn : BytesOf nonceLength} (draws : world.Draws drawn) :
    drawn.1.head? = some 0 := by
  obtain ⟨_, same⟩ := draws
  cases same
  rfl

structure Serves (suite : CipherSuite) (canary bytes others : Bytes) : Prop where
  law : suite.OpensSealed
  seals : ∀ text ∈ [Canary.plaintext, document, request], suite.Seals text
  canary : suite.sealWith (formerKey suite) (some nonce) Canary.plaintext = .ok canary
  workspace : suite.sealWith (formerKey suite) (some nonce) document = .ok bytes
  request : suite.sealWith (formerKey suite) (some nonce) request = .ok others

variable {suite : CipherSuite} {canary bytes others : Bytes}

section Planned

variable {longer : Table Credential} {new : List (Row Credential)} {encryptors : List Encryptor}
  {plan : Reconciliation}
  (founded : Founded suite world settings (credentials canary) longer (some "former") new encryptors
    plan)
include founded

theorem formerFirst : ∃ rest, encryptors = .aead "former" (formerKey suite) :: rest := by
  cases founded.held with
  | cons former _ =>
    obtain ⟨row, place, key, label, derived, rfl⟩ := former
    have stored : formerRow canary ∈ longer.rows :=
      founded.rows ▸ List.mem_append_left _ (by simp [credentials])
    cases Table.sameRow place stored label
    cases derived.symm.trans (CipherSuite.deriveLong (by decide) salt.2)
    exact ⟨_, rfl⟩

theorem resealable (serves : Serves suite canary bytes others) {name : ProtectedTable}
    {text written : Bytes} (place : text ∈ [Canary.plaintext, document, request])
    (checked : Json.checkDocument text = .ok ())
    (ran : suite.sealWith (formerKey suite) (some nonce) text = .ok written) :
    Resealable suite (.compound plan.encryptor (encryptors ++ plainReader (some "former")
      settings.passwords)) name (sealedRow name written) := by
  obtain ⟨rest, rfl⟩ := formerFirst founded
  have opens : (Encryptor.aead "former" (formerKey suite)).openColumn suite
      (.ofSealed name.format written) = .ok text :=
    (Encryptor.openAead _ _ _ _).trans (CipherSuite.openSealed serves.law ran)
  have sealedHere : (Encryptor.aead "former" (formerKey suite)).sealColumn suite name.format
      (some nonce) text = .ok (.ofSealed name.format written) := Encryptor.sealAeadOfBytes ran _
  refine .inr ⟨_, text, sealedRead sealedHere,
    Encryptor.readDocumentOk.2 ⟨Encryptor.openCompoundOk opens, checked⟩, fun nonce => ?_⟩
  exact founded.chosen.seals rfl (serves.seals text place) name.format nonce

end Planned

variable (serves : Serves suite canary bytes others)
include serves

theorem enrollable {entry : Password} (place : entry ∈ settings.passwords) :
    Enrollable suite (credentials canary).rows entry := by
  have long : CipherSuite.leastSecretBytes ≤ entry.secret.utf8ByteSize := by
    revert entry
    decide
  have known : settings.passwords = [⟨"former", "the former secret word", false⟩,
    ⟨"latest", "the latest secret word", true⟩] := rfl
  rw [known] at place
  rcases List.mem_pair.1 place with rfl | rfl
  · refine ⟨fun row found => ?_, fun new => nomatch new⟩
    cases found
    exact ⟨_, _, CipherSuite.deriveLong long salt.2, CipherSuite.openSealed serves.law serves.canary⟩
  · exact enrollableNew (serves.seals _ (by simp)) long rfl

theorem goesThrough : ∃ setup after,
    Setup.run suite settings world (.ofDatabase (database canary bytes others)) =
      (.ok setup, after) ∧
      setup.unreadable = [] ∧ ∃ count, setup.rotated = some count := by
  have found : (Vault.ofDatabase (database canary bytes others)).database.credentials =
      some (credentials canary) := rfl
  have alone : solePrimary? (credentials canary).rows = .ok (some "former") := rfl
  have ready : ∀ entry ∈ settings.passwords, Enrollable suite (credentials canary).rows entry :=
    fun entry place => enrollable serves place
  refine (Setup.runCalm serves.law calm accepted found alone formerSupplied rfl ready ?_).imp
    fun setup => Exists.imp fun after => And.imp_right fun turns => turns (by decide)
  intro longer new encryptors plan founded
  have form := founded.rotation
  rw [if_neg (by decide)] at form
  refine ⟨fun rotation due name => ?_, fun absent => ?_⟩
  · cases form.symm.trans due
    cases name with
    | workspaces =>
      refine ⟨_, rfl, fun row place => ?_⟩
      cases List.mem_singleton.1 place
      exact resealable founded serves (by simp) (by decide) serves.workspace
    | requestDetails =>
      refine ⟨_, rfl, fun row place => ?_⟩
      cases List.mem_singleton.1 place
      exact resealable founded serves (by simp) (by decide) serves.request
    | instanceDetails => exact ⟨.empty, rfl, fun row place => nomatch place⟩
    | bindingCredentials => exact ⟨.empty, rfl, fun row place => nomatch place⟩
  · simp [form] at absent

omit serves

theorem standardServes : ∃ canary bytes others, Serves .standard canary bytes others := by
  have short : ∀ text ∈ [Canary.plaintext, document, request], CipherSuite.standard.Seals text := by
    intro text place
    refine CipherSuite.standardSealsShort ?_
    revert text
    decide
  obtain ⟨canary, marked⟩ := (short Canary.plaintext (by simp)).bytes (formerKey .standard) nonce
  obtain ⟨bytes, first⟩ := (short document (by simp)).bytes (formerKey .standard) nonce
  obtain ⟨others, second⟩ := (short request (by simp)).bytes (formerKey .standard) nonce
  exact ⟨canary, bytes, others, CipherSuite.standardOpensSealed, short, marked, first, second⟩

theorem secondKeyRotates : ∃ canary bytes others setup after credentials,
    Setup.run .standard settings world (.ofDatabase (database canary bytes others)) =
      (.ok setup, after) ∧
      setup.rotated = some 2 ∧ setup.unreadable = [] ∧
      after.database.credentials = some credentials ∧
      ("latest" ∈ credentials.rows.map (·.id)) ∧ ("retired" ∉ credentials.rows.map (·.id)) := by
  obtain ⟨canary, bytes, others, serves⟩ := standardServes
  obtain ⟨setup, after, ran, _, count, rotated⟩ := goesThrough serves
  obtain ⟨readable, total, _, stored, left, labels, _⟩ :=
    Setup.rotationCompletes CipherSuite.standardOpensSealed accepted ran rotated
  have two : count = 2 := total.trans rfl
  refine ⟨canary, bytes, others, setup, after, stored, ran, two ▸ rotated, readable, left, ?_, ?_⟩
  · exact (labels _).2 (by decide)
  · exact fun kept => absurd ((labels _).1 kept) (by decide)

end SecondKey
end BrokerVault
