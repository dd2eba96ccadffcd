import BrokerVault.Proofs.Completion
import BrokerVault.Proofs.History.Documents
import BrokerVault.Proofs.Json.RoundTrip
import BrokerVault.Proofs.Readability
import BrokerVault.Proofs.Sealing.RoundTrip

/-! The records as a map. Whatever was put and read before, a document can be put, and reading gives
the document that was put last. Putting one changes the value of its row, or appends its row, and
does nothing else. -/
namespace BrokerVault

def Encryptor.ReadsBack (encryptor : Encryptor) (suite : CipherSuite) (plaintext : Bytes) : Prop :=
  ∀ (format : ColumnFormat) (nonce : BytesOf nonceLength) (value : ColumnValue),
    encryptor.sealColumn suite format (some nonce) plaintext = .ok value →
      encryptor.openColumn suite value = .ok plaintext

theorem Encryptor.leafReadsBack {suite : CipherSuite} (law : suite.OpensSealed)
    {encryptor : Encryptor} (leaf : encryptor.IsLeaf) (plaintext : Bytes) :
    encryptor.ReadsBack suite plaintext :=
  fun _ _ _ written => openSealedColumn law leaf written

theorem Encryptor.textSealed {suite : CipherSuite} {encryptor : Encryptor} {text : String}
    (seals : ∀ label key, encryptor.sealer = .aead label key → suite.Seals (.ofText text))
    (format : ColumnFormat) (nonce : BytesOf nonceLength) :
    ∃ value, encryptor.sealColumn suite format (some nonce) (.ofText text) = .ok value := by
  rw [sealSealer]
  rcases encryptor.sealerCases with plain | ⟨label, key, keyed⟩
  · have standing : ColumnValue.plain? format (Bytes.ofText text) ≠ none := fun unplain =>
      (unplainIff.1 unplain).2 text rfl
    obtain ⟨value, standing⟩ := Option.ne_none_iff_exists'.1 standing
    rw [plain]
    exact ⟨value, sealNoopOfPlain standing _⟩
  · obtain ⟨bytes, written⟩ := (seals label key keyed).bytes key nonce
    rw [keyed]
    exact ⟨_, sealAeadOfBytes written format⟩

namespace Records

open History Reencryption

inductive Call where
  | put (name : ProtectedTable) (id : String) (document : Json)
  | get (name : ProtectedTable) (id : String)

def Call.run (suite : CipherSuite) (encryptor : Encryptor) (call : Call) (world : Surroundings)
    (vault : Vault) : Vault :=
  match call with
  | put name id document => (Records.put suite encryptor name id document world vault).2
  | get name id => (Records.get suite encryptor name id world vault).2

def replay (suite : CipherSuite) (encryptor : Encryptor) :
    List (Surroundings × Call) → Vault → Vault
  | [], vault => vault
  | (world, call) :: later, vault =>
    replay suite encryptor later (call.run suite encryptor world vault)

def Call.document? (name : ProtectedTable) (id : String) : Call → Option Json
  | put other label document => if other = name ∧ label = id then some document else none
  | get _ _ => none

def latest? (calls : List Call) (name : ProtectedTable) (id : String) : Option Json :=
  calls.reverse.findSome? (Call.document? name id)

/-- A document that came from a text, with nothing but integers for numbers, in surroundings that
give random bytes. A compound must read back what it seals; the others do. -/
structure Storable (suite : CipherSuite) (encryptor : Encryptor) (world : Surroundings)
    (document : Json) : Prop where
  random : ∀ moment, (world.random moment nonceLength).isSome
  built : ∃ bytes, Json.ofBytes? bytes = .ok document
  integral : document.Integral
  seals : ∀ label key, encryptor.sealer = .aead label key → suite.Seals (.ofText document.text)
  readsBack : encryptor.IsLeaf ∨ encryptor.ReadsBack suite (.ofText document.text)

inductive Placed (id : String) (before after : Table Cell) : Prop where
  | added {rowid cell} (new : ∀ row ∈ before.rows, row.id ≠ id)
      (above : ∀ row ∈ before.rows, row.rowid < rowid)
      (rows : after.rows = before.rows ++ [⟨rowid, id, cell⟩]) : Placed id before after
  | replaced {front row back cell} (own : row.id = id) (stood : before.rows = front ++ row :: back)
      (rows : after.rows = front ++ { row with value := cell } :: back) : Placed id before after

structure Stores (name : ProtectedTable) (id : String) (before after : Database) : Prop where
  own : ∃ stored changed, before.table? name = some stored ∧ after.table? name = some changed ∧
    Placed id stored changed
  others : ∀ other, other ≠ name → after.table? other = before.table? other
  credentials : after.credentials = before.credentials

structure Serves (suite : CipherSuite) (encryptor : Encryptor) (calls : List Call)
    (vault : Vault) : Prop where
  puts : ∀ world name id document, Storable suite encryptor world document →
    ∃ after, put suite encryptor name id document world vault = (.ok (), after) ∧
      Stores name id vault.database after.database
  gets : ∀ world name id,
    get suite encryptor name id world vault = (.ok (latest? calls name id), vault)
  rows : ∀ name, ∃ stored, vault.database.table? name = some stored ∧
    (stored.rows.map (·.id)).Nodup ∧
    ∀ id, id ∈ stored.rows.map (·.id) ↔ ∃ document, Call.put name id document ∈ calls

variable {suite : CipherSuite} {encryptor : Encryptor} {world : Surroundings} {vault : Vault}
  {name : ProtectedTable} {id : String} {document : Json} {stored : Table Cell} {calls : List Call}

/-! What was put last. -/

theorem latestAppend (calls : List Call) (call : Call) (name : ProtectedTable) (id : String) :
    latest? (calls ++ [call]) name id = (call.document? name id).or (latest? calls name id) := by
  rw [latest?, List.reverse_append, List.reverse_singleton, List.singleton_append,
    List.findSome?_cons]
  cases call.document? name id <;> rfl

theorem documentPut {call : Call} : call.document? name id = some document ↔
    call = .put name id document := by
  cases call with
  | get other label => simp [Call.document?]
  | put other label held =>
    by_cases here : other = name ∧ label = id
    · obtain ⟨rfl, rfl⟩ := here
      simp [Call.document?]
    · simp only [Call.document?, if_neg here, Call.put.injEq]
      exact ⟨nofun, fun same => (here ⟨same.1, same.2.1⟩).elim⟩

theorem latestPut (found : latest? calls name id = some document) :
    .put name id document ∈ calls := by
  obtain ⟨call, place, put⟩ := List.exists_of_findSome?_eq_some found
  exact documentPut.1 put ▸ List.mem_reverse.1 place

theorem latestFound :
    (latest? calls name id).isSome ↔ ∃ document, .put name id document ∈ calls := by
  constructor
  · intro found
    obtain ⟨document, found⟩ := Option.isSome_iff_exists.1 found
    exact ⟨document, latestPut found⟩
  · rintro ⟨document, place⟩
    refine List.findSome?_isSome_iff.2 ⟨_, List.mem_reverse.2 place, ?_⟩
    rw [documentPut.2 rfl]
    rfl

def texts (calls : List Call) : Documents := fun name id =>
  (latest? calls name id).map fun document => .ofText document.text

theorem textsPut (calls : List Call) (name : ProtectedTable) (id : String) (document : Json) :
    texts (calls ++ [.put name id document]) =
      (texts calls).put name id (.ofText document.text) := by
  funext other label
  rw [texts, latestAppend, Documents.put]
  by_cases here : other = name ∧ label = id
  · obtain ⟨rfl, rfl⟩ := here
    simp [Call.document?]
  · have elsewhere : ¬(name = other ∧ id = label) := fun same => here ⟨same.1.symm, same.2.symm⟩
    simp only [Call.document?, if_neg elsewhere, if_neg here, Option.none_or]
    rfl

theorem textsGet (calls : List Call) (name : ProtectedTable) (id : String) :
    texts (calls ++ [.get name id]) = texts calls := by
  funext other label
  rw [texts, latestAppend]
  rfl

/-! The calls. -/

theorem tableFound (table : vault.database.table? name = some stored) :
    Records.table name world vault = (.ok stored, vault) := by
  simp [Records.table, Database.protectedTable, table, Except.mapError]

theorem putSealed (id : String) {value : ColumnValue}
    (written : encryptor.sealColumn suite name.format (world.random vault.moment nonceLength)
      (.ofText document.text) = .ok value)
    (table : vault.database.table? name = some stored) :
    ∃ after, put suite encryptor name id document world vault = (.ok (), after) ∧
      after.database =
        vault.database.setTable name (some (stored.upsert id (.ofColumn value))) := by
  have looked : Records.table name world { vault with moment := vault.moment + 1 } =
      (.ok stored, { vault with moment := vault.moment + 1 }) := tableFound table
  let database := vault.database.setTable name (some (stored.upsert id (.ofColumn value)))
  refine ⟨⟨database, vault.database :: vault.commits, vault.moment + 1⟩, ?_, rfl⟩
  rw [put, Action.bindRandom, written, Except.mapError, Action.bindOfExceptOk,
    Action.bindOfOk looked, Action.bindDatabase]
  rfl

theorem getAbsent (table : vault.database.table? name = some stored)
    (absent : stored.find? id = none) :
    get suite encryptor name id world vault = (.ok none, vault) := by
  have looked : raw name id world vault = (.ok none, vault) := by
    rw [raw, Action.bindOfOk (tableFound table), absent]
    rfl
  rw [get, Action.bindOfOk looked]
  rfl

theorem getOpened {row : Row Cell} {value : ColumnValue} {plaintext : Bytes}
    (table : vault.database.table? name = some stored) (place : row ∈ stored.rows)
    (read : row.value.read name = .ok (some value))
    (opened : encryptor.openColumn suite value = .ok plaintext)
    (built : Json.ofBytes? plaintext = .ok document) :
    get suite encryptor name row.id world vault = (.ok (some document), vault) := by
  have looked : raw name row.id world vault = (.ok (some value), vault) := by
    rw [raw, Action.bindOfOk (tableFound table), Table.findOfMem place]
    simp [read, Except.mapError, Action.ofExcept]
  rw [get, Action.bindOfOk looked]
  simp only [opened, built, Except.mapError, Action.bindOfExceptOk]
  rfl

theorem upsertPlaced (stored : Table Cell) (id : String) (cell : Cell) :
    Placed id stored (stored.upsert id cell) := by
  rcases stored.upsertRows id cell with ⟨absent, rows⟩ | ⟨front, row, back, own, stood, rows⟩
  · exact .added (Table.findNone absent) stored.belowNext rows
  · exact .replaced own stood rows

theorem tableStores (table : vault.database.table? name = some stored) {changed : Table Cell}
    (placed : Placed id stored changed) :
    Stores name id vault.database (vault.database.setTable name (some changed)) := by
  refine ⟨⟨stored, changed, table, ?_, placed⟩, fun other differs => ?_, ?_⟩
  · rw [Database.tableSet, if_pos rfl]
  · rw [Database.tableSet, if_neg differs]
  · rw [Database.credentialsSet]

/-! What a history keeps. -/

structure Holds (suite : CipherSuite) (encryptor : Encryptor) (name : ProtectedTable)
    (row : Row Cell) (text : Bytes) : Prop where
  numbered : 0 < row.rowid
  held : ∃ value, row.value.read name = .ok (some value) ∧
    encryptor.openColumn suite value = .ok text

structure Recorded (suite : CipherSuite) (encryptor : Encryptor) (calls : List Call)
    (vault : Vault) : Prop where
  kept : Kept (texts calls) (Holds suite encryptor) vault.database
  readable : ∀ name id document, .put name id document ∈ calls →
    Json.ofBytes? (.ofText document.text) = .ok document

namespace Recorded

variable (recorded : Recorded suite encryptor calls vault)
include recorded

theorem numbered (table : vault.database.table? name = some stored) :
    ∀ row ∈ stored.rows, 0 < row.rowid := by
  intro row place
  obtain ⟨also, known, _, each⟩ := recorded.kept name
  cases table.symm.trans known
  obtain ⟨_, _, holds⟩ := each row place
  exact holds.numbered

theorem put (law : suite.OpensSealed) (storable : Storable suite encryptor world document)
    (name : ProtectedTable) (id : String) :
    ∃ after, Records.put suite encryptor name id document world vault = (.ok (), after) ∧
      Stores name id vault.database after.database ∧
      Recorded suite encryptor (calls ++ [.put name id document]) after := by
  obtain ⟨stored, table, _⟩ := recorded.kept name
  obtain ⟨nonce, drawn⟩ := Option.isSome_iff_exists.1 (storable.random vault.moment)
  obtain ⟨value, written⟩ := Encryptor.textSealed storable.seals name.format nonce
  have readsBack : encryptor.ReadsBack suite (.ofText document.text) :=
    storable.readsBack.elim (Encryptor.leafReadsBack law · _) fun readsBack => readsBack
  have opened := readsBack name.format nonce value written
  obtain ⟨after, ran, database⟩ := putSealed id (drawn.symm ▸ written) table
  refine ⟨after, ran, database ▸ tableStores table (upsertPlaced stored id _), ?_, ?_⟩
  · rw [database, textsPut]
    exact recorded.kept.put table (recorded.numbered table) fun rowid positive =>
      ⟨positive, value, sealedRead written, opened⟩
  · intro other label held place
    rcases List.mem_append.1 place with earlier | last
    · exact recorded.readable other label held earlier
    · cases List.mem_singleton.1 last
      obtain ⟨bytes, built⟩ := storable.built
      exact Json.builtReadsBack built storable.integral

theorem get (world : Surroundings) (name : ProtectedTable) (id : String) :
    Records.get suite encryptor name id world vault = (.ok (latest? calls name id), vault) := by
  obtain ⟨stored, table, all, each⟩ := recorded.kept name
  cases found : stored.find? id with
  | none =>
    have nothing : latest? calls name id = none := by
      refine Option.eq_none_iff_forall_ne_some.2 fun document latest => ?_
      have place := all id (.ofText document.text) (by rw [texts, latest]; rfl)
      exact Table.absentIff.1 found place
    rw [nothing]
    exact getAbsent table found
  | some row =>
    obtain ⟨place, rfl⟩ := Table.findSome found
    obtain ⟨text, put, holds⟩ := each row place
    obtain ⟨document, latest, rfl⟩ := Option.map_eq_some_iff.1 put
    obtain ⟨value, read, opened⟩ := holds.held
    rw [latest]
    exact getOpened table place read opened (recorded.readable _ _ _ (latestPut latest))

theorem read (name : ProtectedTable) (id : String) :
    Recorded suite encryptor (calls ++ [.get name id]) vault := by
  refine ⟨textsGet calls name id ▸ recorded.kept, fun other label held place => ?_⟩
  rcases List.mem_append.1 place with earlier | last
  · exact recorded.readable other label held earlier
  · cases List.mem_singleton.1 last

theorem rows (name : ProtectedTable) : ∃ stored, vault.database.table? name = some stored ∧
    (stored.rows.map (·.id)).Nodup ∧
    ∀ id, id ∈ stored.rows.map (·.id) ↔ ∃ document, .put name id document ∈ calls := by
  obtain ⟨stored, table, all, each⟩ := recorded.kept name
  refine ⟨stored, table, List.pairwise_map.2 stored.distinct, fun id => ?_⟩
  rw [← latestFound]
  constructor
  · intro place
    obtain ⟨row, found, rfl⟩ := List.mem_map.1 place
    obtain ⟨text, put, _⟩ := each row found
    obtain ⟨document, latest, _⟩ := Option.map_eq_some_iff.1 put
    rw [latest]
    rfl
  · intro found
    obtain ⟨document, latest⟩ := Option.isSome_iff_exists.1 found
    exact all id (.ofText document.text) (by rw [texts, latest]; rfl)

theorem serves (law : suite.OpensSealed) : Serves suite encryptor calls vault where
  puts world name id document storable := by
    obtain ⟨after, ran, stores, _⟩ := recorded.put law storable name id
    exact ⟨after, ran, stores⟩
  gets := recorded.get
  rows := recorded.rows

end Recorded

theorem recordedNothing (empty : ∀ name, vault.database.table? name = some .empty) :
    Recorded suite encryptor [] vault :=
  ⟨fun name => ⟨.empty, empty name, nofun, nofun⟩, nofun⟩

def AllStorable (suite : CipherSuite) (encryptor : Encryptor)
    (history : List (Surroundings × Call)) : Prop :=
  ∀ world name id document, (world, .put name id document) ∈ history →
    Storable suite encryptor world document

theorem Recorded.replay (law : suite.OpensSealed) {history : List (Surroundings × Call)}
    (recorded : Recorded suite encryptor calls vault)
    (storable : AllStorable suite encryptor history) :
    Recorded suite encryptor (calls ++ history.map Prod.snd)
      (Records.replay suite encryptor history vault) := by
  -- On the calls, each of which adds itself to those before.
  induction history generalizing calls vault with
  | nil => simpa [Records.replay] using recorded
  | cons first later ih =>
    obtain ⟨world, call⟩ := first
    have others : AllStorable suite encryptor later := fun _ _ _ _ place =>
      storable _ _ _ _ (List.mem_cons_of_mem _ place)
    rw [List.map_cons, List.append_cons, Records.replay]
    refine ih ?_ others
    cases call with
    | put name id document =>
      have here := storable world name id document List.mem_cons_self
      obtain ⟨after, ran, _, recorded⟩ := recorded.put law here name id
      rw [Call.run, ran]
      exact recorded
    | get name id =>
      rw [Call.run, recorded.get]
      exact recorded.read name id

/-- From empty tables on, the records are a map from table and identifier to the document. -/
theorem recordsAreMap (law : suite.OpensSealed) {history : List (Surroundings × Call)}
    (empty : ∀ name, vault.database.table? name = some .empty)
    (storable : AllStorable suite encryptor history) :
    Serves suite encryptor (history.map Prod.snd) (replay suite encryptor history vault) := by
  have recorded := (recordedNothing empty).replay law storable
  rw [List.nil_append] at recorded
  exact recorded.serves law

end Records
end BrokerVault

/-! Two documents that are put under one identifier, through a compound that reads back what its key
seals. -/
namespace BrokerVault.ReplacedRecord

open Records

def first : Json := .object [("port", .number (.integer 5432)), ("user", .string "admin")]

def second : Json := .array [.null, .number (.integer (-7))]

def history : List (Surroundings × Call) :=
  [.put .requestDetails "guid" first, .put .workspaces "guid" first, .get .requestDetails "guid",
    .put .requestDetails "guid" second].map fun call => (FirstSetup.world, call)

def after : Vault := replay .standard NestedKeys.encryptor history (.ofDatabase .empty)

theorem keysReadBack (plaintext : Bytes) : NestedKeys.encryptor.ReadsBack .standard plaintext := by
  intro format nonce value written
  have trips :=
    Encryptor.roundTrips CipherSuite.standardOpensSealed CipherSuite.standardTags written
  refine trips.opens [NestedKeys.nothing] [.noop] rfl ?_
  exact List.forall_mem_singleton.2 ⟨_, Encryptor.openCompoundNil .noop _⟩

theorem fitsStorable {document : Json} (fits : document.Fits Json.greatestDepth)
    (short : (Bytes.ofText document.text).length ≤ Gcm.greatestLength) :
    Storable .standard NestedKeys.encryptor FirstSetup.world document where
  random _ := rfl
  built := ⟨_, fits.readsBack⟩
  integral := fits.integral
  seals _ _ _ := CipherSuite.standardSealsShort short
  readsBack := .inr (keysReadBack _)

theorem firstStorable : Storable .standard NestedKeys.encryptor FirstSetup.world first := by
  refine fitsStorable (.object (by decide) ?_) (by decide)
  exact List.forall_mem_cons.2 ⟨.number (by decide), List.forall_mem_singleton.2 (.string "admin")⟩

theorem secondStorable : Storable .standard NestedKeys.encryptor FirstSetup.world second := by
  refine fitsStorable (.array ?_) (by decide)
  exact List.forall_mem_cons.2 ⟨.null, List.forall_mem_singleton.2 (.number (by decide))⟩

theorem storable : AllStorable .standard NestedKeys.encryptor history := by
  intro world name id document place
  simp only [history, List.map_cons, List.map_nil, List.mem_cons, List.not_mem_nil, or_false,
    Prod.mk.injEq, Call.put.injEq, reduceCtorEq, and_false, false_or] at place
  rcases place with ⟨rfl, _, _, rfl⟩ | ⟨rfl, _, _, rfl⟩ | ⟨rfl, _, _, rfl⟩
  · exact firstStorable
  · exact firstStorable
  · exact secondStorable

theorem replacedRead :
    (∀ name, (Vault.ofDatabase .empty).database.table? name = some .empty) ∧
    AllStorable .standard NestedKeys.encryptor history ∧
    (get .standard NestedKeys.encryptor .requestDetails "guid" FirstSetup.world after).1 =
      .ok (some second) ∧
    (get .standard NestedKeys.encryptor .workspaces "guid" FirstSetup.world after).1 =
      .ok (some first) ∧
    (get .standard NestedKeys.encryptor .instanceDetails "guid" FirstSetup.world after).1 =
      .ok none := by
  have empty : ∀ name, (Vault.ofDatabase .empty).database.table? name = some .empty := by
    rintro (_ | _ | _ | _) <;> rfl
  have serves : Serves .standard NestedKeys.encryptor (history.map Prod.snd) after :=
    recordsAreMap CipherSuite.standardOpensSealed empty storable
  have read (name : ProtectedTable) := congrArg Prod.fst (serves.gets FirstSetup.world name "guid")
  exact ⟨empty, storable, read _, read _, read _⟩

end BrokerVault.ReplacedRecord
