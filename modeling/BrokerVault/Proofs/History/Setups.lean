import BrokerVault.Proofs.History.Documents

/-! A setup among documents that are held. Enrolling adds credentials, rewriting seals what was read
with a key that is stored, and the primary moves without touching a salt; and stale credentials go
only where everything reads under a key that stays. So every state on the way holds all documents. -/
namespace BrokerVault.History

open Reconciliation Reencryption

structure Scope.Allows (scope : Scope) (settings : Settings) (world : Surroundings) : Prop where
  world : scope.worlds world
  accepted : Password.Accepted settings.passwords
  entries : ∀ entry ∈ settings.passwords, scope.entries entry

def labels (database : Database) : List String :=
  (database.credentials.map fun stored => stored.rows.map (·.id)).getD []

/-- The secrets behind a setup: a label that is stored keeps its own, and a new one gets that of its
entry. -/
def introducing (database : Database) (entries : List Password) (secrets : String → Option String)
    (label : String) : Option String :=
  if label ∈ labels database then secrets label
  else (entries.find? (·.label == label)).map (·.secret)

structure Underway (suite : CipherSuite) (scope : Scope) (settings : Settings) (world : Surroundings)
    (secrets : String → Option String) (documents : Documents) (before : Table Credential)
    (database : Database) : Prop where
  allowed : scope.Allows settings world
  whole : Whole suite scope secrets documents before database
  new : ∀ entry ∈ settings.passwords, before.find? entry.label = none →
    secrets entry.label = some entry.secret

def Onto (suite : CipherSuite) (scope : Scope) (secrets : String → Option String)
    (documents : Documents) (before : Table Credential) (state : Database) : Prop :=
  ∃ credentials, Whole suite scope secrets documents credentials state ∧
    Covered before.rows credentials.rows

def Onward (suite : CipherSuite) (scope : Scope) (secrets : String → Option String)
    (documents : Documents) (before : Table Credential) (state : Database) : Prop :=
  ∃ credentials, Whole suite scope secrets documents credentials state ∧
    ∀ row ∈ before.rows, row.id ∈ credentials.rows.map (·.id) →
      ∃ other ∈ credentials.rows, Credentials.SameKey row other

def OpensWith (suite : CipherSuite) (encryptor : Encryptor) (name : ProtectedTable) (row : Row Cell)
    (document : Bytes) : Prop :=
  ∃ value, row.value.read name = .ok (some value) ∧
    encryptor.openColumn suite value = .ok document

variable {suite : CipherSuite} {scope : Scope} {settings : Settings} {world : Surroundings}
  {secrets : String → Option String} {documents : Documents} {database : Database}
  {before longer credentials changed : Table Credential} {sole : Option String}
  {new : List (Row Credential)} {encryptors : List Encryptor} {plan : Reconciliation}
  {vault after : Vault}

theorem Whole.labels (whole : Whole suite scope secrets documents credentials database) :
    History.labels database = credentials.rows.map (·.id) := by
  rw [History.labels, whole.found]
  rfl

theorem Whole.introducingOld (whole : Whole suite scope secrets documents before database)
    (entries : List Password) :
    ∀ row ∈ before.rows, introducing database entries secrets row.id = secrets row.id := by
  intro row place
  exact if_pos (whole.labels ▸ List.mem_map.2 ⟨row, place, rfl⟩)

theorem Whole.begins (whole : Whole suite scope secrets documents before database)
    (allowed : scope.Allows settings world) :
    Underway suite scope settings world (introducing database settings.passwords secrets) documents
      before database := by
  have old := whole.introducingOld settings.passwords
  refine ⟨allowed, ⟨whole.found, fun row place => ?_, whole.texts, ?_⟩, fun entry place absent => ?_⟩
  · obtain ⟨entry, source, key, occurs, within, made, known⟩ := whole.introduced row place
    exact ⟨entry, source, key, occurs, within, made, (old row place).trans known⟩
  · refine whole.kept.imp fun name _ row document _ _ _ holding => ⟨holding.visited, ?_⟩
    obtain ⟨value, read, held⟩ := holding.held
    exact ⟨value, read, held.agreed old⟩
  · have first : settings.passwords.find? (·.label == entry.label) = some entry := by
      cases found : settings.passwords.find? (·.label == entry.label) with
      | none => simpa using List.find?_eq_none.1 found entry place
      | some other =>
        have label : other.label = entry.label := by simpa using List.find?_some found
        rw [allowed.accepted.sameEntry (List.mem_of_find?_eq_some found) place label]
    rw [introducing, if_neg (whole.labels ▸ Table.absentIff.1 absent), first]
    rfl

namespace Whole

theorem covered (whole : Whole suite scope secrets documents credentials database)
    (introduced : ∀ row ∈ changed.rows, Introduced suite scope secrets row)
    (keys : Covered credentials.rows changed.rows) :
    Whole suite scope secrets documents changed (database.withCredentials changed) := by
  refine ⟨rfl, introduced, whole.texts, Kept.sameTables ?_ fun name => Database.tableOfWith _ _ _⟩
  refine whole.kept.imp fun name _ row document _ _ _ holding => ⟨holding.visited, ?_⟩
  obtain ⟨value, read, held⟩ := holding.held
  exact ⟨value, read, held.covered keys⟩

theorem promoted (whole : Whole suite scope secrets documents credentials database)
    (keys : List.Forall₂ Credentials.SameKey credentials.rows changed.rows) :
    Whole suite scope secrets documents changed (database.withCredentials changed) := by
  refine whole.covered (fun row place => ?_) (coveredOfPaired keys)
  obtain ⟨old, found, same⟩ := pairedRight keys place
  exact (whole.introduced old found).sameKey same

theorem survives (law : suite.OpensSealed) (trusted : Trusted suite scope)
    (allowed : scope.worlds world) {writer : Encryptor} {readers : List Encryptor}
    (holders : ∀ reader ∈ readers, Holder suite secrets credentials.rows reader)
    (own : Holder suite secrets credentials.rows writer) :
    Survives suite (.compound writer readers) world
      (Whole suite scope secrets documents credentials) := by
  intro database name stored changed whole table rows
  refine ⟨by rw [Database.credentialsSet, whole.found], whole.introduced, whole.texts,
    whole.kept.changed table rows (fun row new touched => ?_) fun row new document put touched
      holding => ?_⟩
  · rcases touched with rfl | ⟨_, resealed⟩
    · rfl
    · exact resealed.place.2
  · rcases touched with rfl | ⟨visited, resealed⟩
    · exact holding
    · cases resealed with
      | null => exact holding
      | value read opened written =>
        obtain ⟨value, stands, held⟩ := holding.held
        cases read.symm.trans stands
        obtain ⟨opens, checked⟩ := Encryptor.readDocumentOk.1 opened
        obtain ⟨reader, place, reads⟩ := Encryptor.openCompoundSource opens
        have same := held.readBack law trusted whole.introduced (whole.texts _ _ _ put)
          ((holders reader place).reader whole.introduced) reads checked
        rw [Encryptor.sealCompound] at written
        exact ⟨visited, _, sealedRead written, same ▸ own.held allowed written⟩

theorem reads (whole : Whole suite scope secrets documents credentials database)
    {encryptor : Encryptor} (all : Verification.AllRead suite encryptor database) :
    Kept documents (fun name row document => 0 < row.rowid ∧ ∃ value found,
      row.value.read name = .ok (some value) ∧
      Held suite scope secrets credentials.rows name.format document value ∧
      encryptor.openColumn suite value = .ok found ∧ Json.checkDocument found = .ok ()) database := by
  refine whole.kept.imp fun name table row document found place _ holding => ⟨holding.visited, ?_⟩
  obtain ⟨stored, here, each⟩ := all name
  rw [found] at here
  cases here
  obtain ⟨value, read, held⟩ := holding.held
  rcases each row (Table.memAfter.2 ⟨place, holding.visited⟩) with
    null | ⟨other, text, readOther, opened⟩
  · exact absurd null (readSome read)
  · cases readOther.symm.trans read
    obtain ⟨opens, checked⟩ := Encryptor.readDocumentOk.1 opened
    exact ⟨value, text, read, held, opens, checked⟩

theorem opensWith (law : suite.OpensSealed) (trusted : Trusted suite scope)
    (whole : Whole suite scope secrets documents credentials database) {encryptor : Encryptor}
    (holder : Holder suite secrets credentials.rows encryptor)
    (all : Verification.AllRead suite encryptor database) :
    Kept documents (OpensWith suite encryptor) database := by
  refine (whole.reads all).imp fun name _ row document _ _ put reads => ?_
  obtain ⟨_, value, text, read, held, opens, checked⟩ := reads
  have same := held.readBack law trusted whole.introduced (whole.texts _ _ _ put)
    (holder.reader whole.introduced) opens checked
  exact ⟨value, read, same ▸ opens⟩

theorem removed (trusted : Trusted suite scope)
    (whole : Whole suite scope secrets documents credentials database) {encryptor : Encryptor}
    (subset : ∀ row ∈ changed.rows, row ∈ credentials.rows)
    (holder : Holder suite secrets changed.rows encryptor)
    (all : Verification.AllRead suite encryptor database) :
    Whole suite scope secrets documents changed (database.withCredentials changed) := by
  refine ⟨rfl, fun row place => whole.introduced row (subset row place), whole.texts,
    Kept.sameTables ?_ fun name => Database.tableOfWith _ _ _⟩
  refine (whole.reads all).imp fun name _ row document _ _ put reads => ?_
  obtain ⟨visited, value, text, read, held, opens, checked⟩ := reads
  exact ⟨visited, value, read, held.under trusted whole.introduced subset (whole.texts _ _ _ put)
    holder opens checked⟩

end Whole

namespace Underway

variable (underway : Underway suite scope settings world secrets documents before database)
include underway

theorem enrolled {done rest : List Password} (split : settings.passwords = done ++ rest)
    (enrolled : Enrolled suite world before.rows done new encryptors)
    (rows : longer.rows = before.rows ++ new) :
    Whole suite scope secrets documents longer (database.withCredentials longer) ∧
      Covered before.rows longer.rows := by
  have keys : Covered before.rows longer.rows :=
    coveredOfMem fun row place => rows ▸ List.mem_append_left _ place
  refine ⟨underway.whole.covered (fun row place => ?_) keys, keys⟩
  rw [rows] at place
  rcases List.mem_append.1 place with old | made
  · exact underway.whole.introduced row old
  · obtain ⟨entry, among, key, absent, fresh⟩ := enrolled.madeNew made
    have configured : entry ∈ settings.passwords := split ▸ List.mem_append_left _ among
    exact ⟨entry, world, key, underway.allowed.entries entry configured, underway.allowed.world,
      fresh.toMade, fresh.id ▸ underway.new entry configured absent⟩

theorem holder (law : suite.OpensSealed) (trusted : Trusted suite scope)
    (founded : Founded suite world settings before longer sole new encryptors plan)
    (introduced : ∀ row ∈ longer.rows, Introduced suite scope secrets row) {entry : Password}
    {encryptor : Encryptor} (configured : entry ∈ settings.passwords)
    (held : Holds suite longer.rows entry encryptor) :
    ∃ row ∈ longer.rows, row.id = entry.label ∧ Holder suite secrets [row] encryptor := by
  obtain ⟨row, place, key, label, derived, rfl⟩ := held
  obtain ⟨text, opened⟩ := founded.canaryOpens law underway.allowed.accepted configured place label
    derived
  obtain ⟨other, source, otherKey, occurs, within, made, known⟩ := introduced row place
  obtain ⟨salt, drawnSalt, salted⟩ := made.salt
  obtain ⟨nonce, drawn, written⟩ := made.canary
  have otherOccurs : scope.Key suite otherKey :=
    ⟨other, source, salt, occurs, within, drawnSalt, salted ▸ CipherSuite.derivedKey made.derived⟩
  have keyOccurs : scope.Key suite key :=
    ⟨entry, source, salt, underway.allowed.entries entry configured, within, drawnSalt,
      salted ▸ CipherSuite.derivedKey derived⟩
  -- The secret may be another than the one the label came with, but the key opens its canary.
  have same : key = otherKey := trusted.exclusive otherKey key otherOccurs keyOccurs _ (.inr rfl)
    nonce ⟨source, within, drawn⟩ _ text written opened
  rw [same, CipherSuite.derivedKey made.derived]
  exact ⟨row, place, label, .keyed entry.label List.mem_cons_self known⟩

theorem holders (law : suite.OpensSealed) (trusted : Trusted suite scope)
    (founded : Founded suite world settings before longer sole new encryptors plan)
    (introduced : ∀ row ∈ longer.rows, Introduced suite scope secrets row) {reader : Encryptor}
    (place : reader ∈ encryptors ++ plainReader sole settings.passwords) :
    Holder suite secrets longer.rows reader := by
  rcases founded.reader place with rfl | ⟨entry, configured, held⟩
  · exact .plain
  · obtain ⟨row, found, _, holder⟩ := underway.holder law trusted founded introduced configured held
    exact holder.covered (coveredOfMem fun other same => List.mem_singleton.1 same ▸ found)

theorem holderLeft (law : suite.OpensSealed) (trusted : Trusted suite scope)
    (founded : Founded suite world settings before longer sole new encryptors plan)
    (introduced : ∀ row ∈ longer.rows, Introduced suite scope secrets row)
    (keys : Covered longer.rows credentials.rows) :
    Holder suite secrets (credentials.keep fun row => !plan.stale.contains row.id).rows
      plan.encryptor := by
  have chosen := founded.chosen
  generalize plan.encryptor = writer at chosen
  cases chosen with
  | none => exact .plain
  | @key entry _ primary held =>
    have configured := List.mem_of_find?_eq_some primary
    obtain ⟨row, place, label, holder⟩ :=
      underway.holder law trusted founded introduced configured held
    obtain ⟨other, found, same⟩ := keys row place
    have fresh := ((founded.labels entry.label).2 (List.mem_map.2 ⟨entry, configured, rfl⟩)).2
    refine holder.covered fun only single => ⟨other, List.mem_filter.2 ⟨found, ?_⟩, ?_⟩
    · simpa [same.id, label] using fresh
    · exact List.mem_singleton.1 single ▸ same

end Underway

theorem reconcilingLeads
    (underway : Underway suite scope settings world secrets documents before vault.database)
    {result : Except ReconcileError Reconciliation}
    (ran : reconcile suite settings.enabled settings.passwords world vault = (result, after)) :
    vault.Leads (Onto suite scope secrets documents before) after ∧
    ∀ plan, result = .ok plan → ∃ longer sole new encryptors,
      Founded suite world settings before longer sole new encryptors plan ∧
      Whole suite scope secrets documents longer after.database ∧
      Covered before.rows longer.rows := by
  rcases reconcileRan ran with ⟨error, rfl, rfl⟩ | ⟨stored, found, planned, leads⟩
  · have here : Onto suite scope secrets documents before after.database :=
      ⟨before, underway.whole, coveredOfMem fun _ place => place⟩
    exact ⟨Vault.leadsSame here rfl rfl, fun _ wrong => nomatch wrong⟩
  · rw [underway.whole.found] at found
    cases found
    refine ⟨leads _ ?_, fun plan same => ?_⟩
    · rintro state ⟨done, rest, new, encryptors, longer, split, enrolled, rows, rfl, _⟩
      exact ⟨longer, underway.enrolled split enrolled rows⟩
    · obtain ⟨longer, sole, new, encryptors, founded, database⟩ := planned plan same
      rw [database]
      exact ⟨longer, sole, new, encryptors, founded,
        underway.enrolled (List.append_nil _).symm founded.enrolled founded.rows⟩

theorem rotatingLeads (law : suite.OpensSealed) (trusted : Trusted suite scope)
    (underway : Underway suite scope settings world secrets documents before database)
    (founded : Founded suite world settings before longer sole new encryptors plan)
    (whole : Whole suite scope secrets documents longer vault.database) {rotation : Encryptor}
    (due : plan.rotation = some rotation) {result : Except SetupError Nat}
    (rotating : Setup.Rotating suite world plan rotation vault result after) :
    vault.Leads (Onto suite scope secrets documents longer) after := by
  have form := founded.rotation
  rw [due] at form
  split at form
  · cases form
  cases form
  have stays : ∀ state, Whole suite scope secrets documents longer state →
      Onto suite scope secrets documents longer state :=
    fun state whole => ⟨longer, whole, coveredOfMem fun _ place => place⟩
  have holders : ∀ reader ∈ encryptors ++ plainReader sole settings.passwords,
      Holder suite secrets longer.rows reader :=
    fun reader place => underway.holders law trusted founded whole.introduced place
  have survives : Survives suite (.compound plan.encryptor
      (encryptors ++ plainReader sole settings.passwords)) world
      (Whole suite scope secrets documents longer) :=
    Whole.survives law trusted underway.allowed.world holders (holders _ founded.ownReader)
  have promoting : ∀ {rewritten result},
      vault.Leads (Whole suite scope secrets documents longer) rewritten →
      Credentials.updatePrimary plan.configuredPrimary world rewritten = (result, after) →
      vault.Leads (Onto suite scope secrets documents longer) after := by
    intro rewritten result leads promotion
    obtain ⟨changed, keys, database, onward, _⟩ :=
      founded.promotion underway.allowed.accepted leads.present.found promotion
    refine (leads.mono stays).trans (onward _ (stays _ leads.present) ?_)
    rw [database]
    exact ⟨changed, leads.present.promoted keys, coveredOfPaired keys⟩
  -- Every batch is a commit of its own, and the primary moves behind the last one.
  cases rotating with
  | refused => exact Vault.leadsSame (stays _ whole) rfl rfl
  | broken _ ran => exact ((rewriteAllRan ran).2 _ survives whole).mono stays
  | unpromoted _ ran promotion => exact promoting ((rewriteAllRan ran).2 _ survives whole) promotion
  | promoted _ ran promotion => exact promoting ((rewriteAllRan ran).2 _ survives whole) promotion

theorem turnedLeads (law : suite.OpensSealed) (trusted : Trusted suite scope)
    (underway : Underway suite scope settings world secrets documents before database)
    (founded : Founded suite world settings before longer sole new encryptors plan)
    (whole : Whole suite scope secrets documents longer vault.database) {rotated : Option Nat}
    (turned : Setup.Turned suite world plan vault rotated after) :
    vault.Leads (Onto suite scope secrets documents longer) after := by
  cases turned with
  | none => exact Vault.leadsSame ⟨longer, whole, coveredOfMem fun _ place => place⟩ rfl rfl
  | some due rotating => exact rotatingLeads law trusted underway founded whole due rotating

theorem Onto.onward (onto : Onto suite scope secrets documents before database) :
    Onward suite scope secrets documents before database := by
  obtain ⟨credentials, whole, keys⟩ := onto
  exact ⟨credentials, whole, fun row place _ => keys row place⟩

theorem removingLeads (law : suite.OpensSealed) (trusted : Trusted suite scope)
    (underway : Underway suite scope settings world secrets documents before database)
    (founded : Founded suite world settings before longer sole new encryptors plan)
    (introduced : ∀ row ∈ longer.rows, Introduced suite scope secrets row)
    (keys : Covered before.rows longer.rows)
    (onto : Onto suite scope secrets documents longer vault.database)
    {unreadable : List RecordError}
    (checking : Verification.failures suite plan.encryptor vault.database = .ok unreadable)
    {removal : Except SetupError (List String)}
    (removing : Setup.removeStale plan unreadable world vault = (removal, after)) :
    (∃ deleted, removal = .ok deleted) ∧
    vault.Leads (Onward suite scope secrets documents before) after ∧
    ∃ credentials, Whole suite scope secrets documents credentials after.database ∧
      Holder suite secrets credentials.rows plan.encryptor ∧
      (unreadable = [] → Kept documents (OpensWith suite plan.encryptor) after.database) := by
  obtain ⟨stored, whole, kept⟩ := onto
  obtain ⟨deleted, some, none, leads⟩ := Setup.removeStaleRan whole.found removing
  have present : Onward suite scope secrets documents before vault.database :=
    Onto.onward ⟨stored, whole, keys.trans kept⟩
  have stays := underway.holderLeft law trusted founded introduced kept
  have subset : ∀ row ∈ (stored.keep fun row => !plan.stale.contains row.id).rows,
      row ∈ stored.rows := fun row place => (List.mem_filter.1 place).1
  have holder := stays.covered (coveredOfMem subset)
  refine ⟨deleted, ?_⟩
  -- Credentials go only where nothing is unreadable.
  by_cases empty : unreadable = []
  · have all := Verification.failuresNil.1 (empty ▸ checking)
    have fewer := whole.removed trusted subset stays all
    have opens := whole.opensWith law trusted holder all
    have database := none empty
    rw [← database] at fewer
    refine ⟨leads _ present ⟨_, fewer, fun row place label => ?_⟩, _, fewer, stays, fun _ => ?_⟩
    · obtain ⟨other, found, same⟩ := (keys.trans kept) row place
      obtain ⟨left, leftPlace, leftLabel⟩ := List.mem_map.1 label
      cases Table.sameRow found (subset left leftPlace) (same.id.trans leftLabel.symm)
      exact ⟨other, leftPlace, same⟩
    · exact opens.sameTables fun name => by rw [database, Database.tableOfWith]
  · have database := some empty
    rw [← database] at whole present
    exact ⟨leads _ (database ▸ present) present, _, whole, holder, fun wrong => absurd wrong empty⟩

structure Outcome (suite : CipherSuite) (scope : Scope) (secrets : String → Option String)
    (documents : Documents) (before : Table Credential) (vault after : Vault)
    (result : Except SetupError Setup) : Prop where
  leads : vault.Leads (Onward suite scope secrets documents before) after
  failed : ∀ error, result = .error error → Onto suite scope secrets documents before after.database
  done : ∀ setup, result = .ok setup → ∃ credentials,
    Whole suite scope secrets documents credentials after.database ∧
    Holder suite secrets credentials.rows setup.encryptor ∧
    (setup.unreadable = [] → Kept documents (OpensWith suite setup.encryptor) after.database)

theorem Outcome.ofError {error : SetupError}
    (leads : vault.Leads (Onto suite scope secrets documents before) after) :
    Outcome suite scope secrets documents before vault after (.error error) :=
  ⟨leads.mono fun _ => Onto.onward, fun _ _ => leads.present, fun _ wrong => nomatch wrong⟩

theorem setupRan (law : suite.OpensSealed) (trusted : Trusted suite scope)
    (underway : Underway suite scope settings world secrets documents before vault.database)
    {result : Except SetupError Setup}
    (ran : Setup.run suite settings world vault = (result, after)) :
    Outcome suite scope secrets documents before vault after result := by
  have onward : ∀ {longer}, Covered before.rows longer.rows → ∀ state,
      Onto suite scope secrets documents longer state →
      Onto suite scope secrets documents before state := by
    rintro longer keys state ⟨credentials, whole, kept⟩
    exact ⟨credentials, whole, keys.trans kept⟩
  cases Setup.runRan ran with
  | unreconciled reconciling => exact .ofError (reconcilingLeads underway reconciling).1
  | unturned reconciling due rotating =>
    obtain ⟨leads, planned⟩ := reconcilingLeads underway reconciling
    obtain ⟨longer, sole, new, encryptors, founded, whole, keys⟩ := planned _ rfl
    have turned := rotatingLeads law trusted underway founded whole due rotating
    exact .ofError (leads.trans (turned.mono (onward keys)))
  | unchecked reconciling turning =>
    obtain ⟨leads, planned⟩ := reconcilingLeads underway reconciling
    obtain ⟨longer, sole, new, encryptors, founded, whole, keys⟩ := planned _ rfl
    have turned := turnedLeads law trusted underway founded whole turning
    exact .ofError (leads.trans (turned.mono (onward keys)))
  | checked reconciling turning checking removing answer =>
    obtain ⟨leads, planned⟩ := reconcilingLeads underway reconciling
    obtain ⟨longer, sole, new, encryptors, founded, whole, keys⟩ := planned _ rfl
    have turned := turnedLeads law trusted underway founded whole turning
    obtain ⟨⟨deleted, rfl⟩, last, left⟩ := removingLeads law trusted underway founded
      whole.introduced keys turned.present checking removing
    have through := (leads.trans (turned.mono (onward keys))).mono fun _ => Onto.onward
    rw [answer]
    refine ⟨through.trans last, fun _ wrong => (nomatch wrong), ?_⟩
    rintro setup same
    cases same
    exact left

end BrokerVault.History
