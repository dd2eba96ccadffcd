import BrokerVault.Proofs.Completion
import BrokerVault.Proofs.History.Setups

/-! Histories: from an empty database, setups under any settings, whatever they end in, and documents
that are put in between. At no point is a document lost, and a setup that reports nothing unreadable
gives an encryptor that opens them all. -/
namespace BrokerVault.History

structure Point where
  database : Database
  /-- What documents are sealed with: the encryptor of the latest setup that gave one. -/
  writer : Encryptor
  /-- The secrets that the labels were introduced with. -/
  secrets : String → Option String
  documents : Documents

namespace Point

def start : Point := ⟨.empty, .noop, fun _ => none, .none⟩

def secretsUnder (point : Point) (settings : Settings) : String → Option String :=
  introducing point.database settings.passwords point.secrets

end Point

inductive Reached (suite : CipherSuite) (scope : Scope) : Point → Prop where
  | begun : Reached suite scope .start
  | put {point : Point} {world name id document after} (earlier : Reached suite scope point)
      (allowed : scope.worlds world) (text : scope.texts (.ofText document.text))
      (ran : Records.put suite point.writer name id document world (.ofDatabase point.database) =
        (.ok (), after)) :
      Reached suite scope { point with
        database := after.database
        documents := point.documents.put name id (.ofText document.text) }
  | unput {point : Point} {world name id document error after} (earlier : Reached suite scope point)
      (ran : Records.put suite point.writer name id document world (.ofDatabase point.database) =
        (.error error, after)) :
      Reached suite scope { point with database := after.database }
  | setup {point : Point} {settings world setup after} (earlier : Reached suite scope point)
      (allowed : scope.Allows settings world)
      (ran : Setup.run suite settings world (.ofDatabase point.database) = (.ok setup, after)) :
      Reached suite scope { point with
        database := after.database
        writer := setup.encryptor
        secrets := point.secretsUnder settings }
  | failed {point : Point} {settings world error after} (earlier : Reached suite scope point)
      (allowed : scope.Allows settings world)
      (ran : Setup.run suite settings world (.ofDatabase point.database) = (.error error, after)) :
      Reached suite scope { point with
        database := after.database
        secrets := point.secretsUnder settings }
  /-- A setup that ends behind one of its commits, before it takes labels away. -/
  | broken {point : Point} {settings world state} (earlier : Reached suite scope point)
      (allowed : scope.Allows settings world)
      (left : state ∈ (Setup.run suite settings world (.ofDatabase point.database)).2.states)
      (kept : labels point.database ⊆ labels state) :
      Reached suite scope { point with
        database := state
        secrets := point.secretsUnder settings }

def Intact (suite : CipherSuite) (secrets : String → Option String) (documents : Documents)
    (database : Database) : Prop :=
  ∃ credentials, database.credentials = some credentials ∧
    Kept documents (fun name row document => ∃ value, row.value.read name = .ok (some value) ∧
      Opens suite secrets credentials.rows value document) database

def Sound (suite : CipherSuite) (scope : Scope) (point : Point) : Prop :=
  ∃ credentials, Whole suite scope point.secrets point.documents credentials point.database ∧
    Holder suite point.secrets credentials.rows point.writer

variable {suite : CipherSuite} {scope : Scope} {settings : Settings} {world : Surroundings}
  {secrets : String → Option String} {documents : Documents} {database : Database}
  {before credentials : Table Credential} {point : Point}

theorem Whole.intact (law : suite.OpensSealed)
    (whole : Whole suite scope secrets documents credentials database) :
    Intact suite secrets documents database := by
  refine ⟨credentials, whole.found, whole.kept.imp fun name _ row document _ _ _ holding => ?_⟩
  obtain ⟨value, read, held⟩ := holding.held
  exact ⟨value, read, held.opens law whole.introduced⟩

theorem soundStart : Sound suite scope .start := by
  refine ⟨.empty, ⟨rfl, fun row place => ?_, fun name id document put => ?_, fun name => ?_⟩, .plain⟩
  · simp [Table.empty] at place
  · cases put
  · refine ⟨.empty, by cases name <;> rfl, fun id document put => ?_, fun row place => ?_⟩
    · cases put
    · simp [Table.empty] at place

theorem Sound.holderBehind {state : Database}
    (whole : Whole suite scope point.secrets point.documents before point.database)
    (holder : Holder suite point.secrets before.rows point.writer)
    (onward : Onward suite scope (point.secretsUnder settings) point.documents before state)
    (kept : labels point.database ⊆ labels state) :
    Sound suite scope { point with database := state, secrets := point.secretsUnder settings } := by
  obtain ⟨credentials, left, keys⟩ := onward
  refine ⟨credentials, left, (holder.agreed (whole.introducingOld _)).covered fun row place => ?_⟩
  refine keys row place ?_
  rw [← left.labels]
  exact kept (whole.labels ▸ List.mem_map.2 ⟨row, place, rfl⟩)

theorem Reached.sound (law : suite.OpensSealed) (trusted : Trusted suite scope)
    (reached : Reached suite scope point) : Sound suite scope point := by
  induction reached with
  | begun => exact soundStart
  | put _ allowed text ran ih =>
    obtain ⟨credentials, whole, holder⟩ := ih
    have put := Whole.put whole holder allowed text ran
    exact ⟨credentials, put, holder⟩
  | unput _ ran ih =>
    rcases putRan ran with ⟨_, _, same⟩ | ⟨_, _, wrong, _⟩
    · rw [same]
      exact ih
    · cases wrong
  | setup _ allowed ran ih =>
    obtain ⟨before, whole, holder⟩ := ih
    obtain ⟨credentials, left, holds, _⟩ :=
      (setupRan law trusted (whole.begins allowed) ran).done _ rfl
    exact ⟨credentials, left, holds⟩
  | failed _ allowed ran ih =>
    obtain ⟨before, whole, holder⟩ := ih
    obtain ⟨credentials, left, keys⟩ :=
      (setupRan law trusted (whole.begins allowed) ran).failed _ rfl
    exact ⟨credentials, left, (holder.agreed (whole.introducingOld _)).covered keys⟩
  | @broken point settings world state _ allowed left kept ih =>
    obtain ⟨before, whole, holder⟩ := ih
    cases ran : Setup.run suite settings world (.ofDatabase point.database) with
    | mk result after =>
      rw [ran] at left
      have outcome := setupRan law trusted (whole.begins allowed) ran
      exact .holderBehind whole holder (outcome.leads.states rfl _ left) kept

/-- No history loses a document, not even for a while. -/
theorem historyLosesNothing (law : suite.OpensSealed) (trusted : Trusted suite scope)
    (reached : Reached suite scope point) :
    Intact suite point.secrets point.documents point.database ∧
    ∀ settings world result after, scope.Allows settings world →
      Setup.run suite settings world (.ofDatabase point.database) = (result, after) →
      (∀ state ∈ after.states, Intact suite (point.secretsUnder settings) point.documents state) ∧
      ∀ setup, result = .ok setup → setup.unreadable = [] →
        Kept point.documents (OpensWith suite setup.encryptor) after.database := by
  obtain ⟨before, whole, holder⟩ := reached.sound law trusted
  refine ⟨whole.intact law, fun settings world result after allowed ran => ?_⟩
  have outcome := setupRan law trusted (whole.begins allowed) ran
  constructor
  · intro state left
    obtain ⟨credentials, held, _⟩ := outcome.leads.states rfl state left
    exact held.intact law
  · intro setup answer readable
    obtain ⟨_, _, _, opens⟩ := outcome.done setup answer
    exact opens readable


/-- The last setup of a history has lost nothing, and its encryptor opens every document. -/
def Survives (suite : CipherSuite) (settings : Settings) (world : Surroundings) (point : Point)
    (setup : Setup) (after : Vault) : Prop :=
  Setup.run suite settings world (.ofDatabase point.database) = (.ok setup, after) ∧
    Intact suite point.secrets point.documents point.database ∧
    (∀ state ∈ after.states, Intact suite (point.secretsUnder settings) point.documents state) ∧
    Kept point.documents (OpensWith suite setup.encryptor) after.database

end BrokerVault.History

/-! Two documents that are put before there is a password, and the settings that bring the first one.
Where only zeros are drawn and only one secret is configured there is one key, and the standard suite
can be trusted with it. -/
namespace BrokerVault.FirstSetup

open History

structure Alone (scope : Scope) : Prop where
  worlds : ∀ world, scope.worlds world → ∀ moment length,
    world.random moment length = some ⟨List.replicate length 0, List.length_replicate⟩
  entries : ∀ entry, scope.entries entry → entry.secret = "a secret of twenty bytes"
  texts : ∀ text, scope.texts text → text ∈ [document, request]

namespace Alone

variable {scope : Scope} (alone : Alone scope)
include alone

theorem key {key : Key} (occurs : scope.Key .standard key) :
    key = Key.derive "a secret of twenty bytes" (List.replicate saltLength 0) := by
  obtain ⟨entry, world, salt, place, allowed, ⟨moment, drawn⟩, rfl⟩ := occurs
  rw [alone.worlds world allowed] at drawn
  cases drawn
  rw [alone.entries entry place]
  rfl

theorem drawsZero {drawn : BytesOf nonceLength} (draws : scope.Draws drawn) :
    drawn.1.head? = some 0 := by
  obtain ⟨world, allowed, moment, same⟩ := draws
  rw [alone.worlds world allowed] at same
  cases same
  rfl

theorem trusted : Trusted .standard scope where
  exclusive _ _ occurs otherOccurs := by
    intros
    rw [alone.key occurs, alone.key otherOccurs]
  plain key _ text occurs _ _ standing label found :=
    documentUnopened (alone.texts text occurs) standing label key found
  unlike _ _ _ _ _ draws _ written _ _ opened :=
    CipherSuite.zeroUnlike (alone.drawsZero draws) written opened

end Alone

def scope : Scope := ⟨(· = world), (· ∈ settings.passwords), (· ∈ [document, request])⟩

def documents : Documents :=
  (Documents.none.put .workspaces "workspace" document).put .requestDetails "request" request

def point : Point := { Point.start with database := database, documents := documents }

theorem textsListed : scope.texts (.ofText (Json.object []).text) ∧
    scope.texts (.ofText (Json.array [.null]).text) := by
  constructor
  · exact List.mem_cons_self
  · show _ ∈ [document, request]
    decide

theorem reached : Reached .standard scope point := by
  have workspace : Records.put .standard .noop .workspaces "workspace" (.object []) world
      (.ofDatabase .empty) = (.ok (), ⟨halfFilled, [.empty], 1⟩) := rfl
  have request : Records.put .standard .noop .requestDetails "request" (.array [.null]) world
      (.ofDatabase halfFilled) = (.ok (), ⟨database, [halfFilled], 1⟩) := rfl
  exact .put (.put .begun rfl textsListed.1 workspace) rfl textsListed.2 request

theorem alone : Alone scope := by
  refine ⟨?_, fun entry place => ?_, fun _ listed => listed⟩
  · rintro _ rfl _ _
    rfl
  · rw [List.mem_singleton.1 place]

end BrokerVault.FirstSetup

/-! A first setup with two labels, a workspace and a request that are put, and the settings that bring
a new primary and drop the label that was none. -/
namespace BrokerVault.SecondKey

open History
open FirstSetup (document request documents documentUnopened)

def earlier : Settings :=
  ⟨true, [⟨"retired", "the retired secret word", false⟩, ⟨"former", "the former secret word", true⟩]⟩

def scope : Scope :=
  ⟨(· = world), (· ∈ earlier.passwords ++ settings.passwords), (· ∈ [document, request])⟩

-- The runs are irreducible, so that nothing but the kernel evaluates them.
@[irreducible] def founding : Except SetupError Setup × Vault :=
  Setup.run .marking earlier world (.ofDatabase .empty)

def writer : Encryptor :=
  match founding.1 with
  | .ok setup => setup.encryptor
  | .error _ => .noop

@[irreducible] def workspacePut : Except RecordStoreError Unit × Vault :=
  Records.put .marking writer .workspaces "workspace" (.object []) world
    (.ofDatabase founding.2.database)

@[irreducible] def requestPut : Except RecordStoreError Unit × Vault :=
  Records.put .marking writer .requestDetails "request" (.array [.null]) world
    (.ofDatabase workspacePut.2.database)

@[irreducible] def turning : Except SetupError Setup × Vault :=
  Setup.run .marking settings world (.ofDatabase requestPut.2.database)

def point : Point where
  database := requestPut.2.database
  writer := writer
  secrets := Point.start.secretsUnder earlier
  documents := documents

theorem founded : Reached .marking scope { Point.start with
    database := founding.2.database
    writer := writer
    secrets := Point.start.secretsUnder earlier } := by
  have ran : Setup.run .marking earlier world (.ofDatabase .empty) = founding := by rw [founding]
  have allowed : scope.Allows earlier world :=
    ⟨rfl, (Password.acceptedIff _).1 (by decide), fun _ place => List.mem_append_left _ place⟩
  have fine : founding.1.isOk := by decide +kernel
  rw [writer]
  generalize founding = outcome at ran fine
  obtain ⟨error | setup, after⟩ := outcome
  · cases fine
  · exact .setup .begun allowed ran

theorem reached : Reached .marking scope point := by
  have first : Records.put .marking writer .workspaces "workspace" (.object []) world
      (.ofDatabase founding.2.database) = (.ok (), workspacePut.2) := by
    have fine : workspacePut.1 = .ok () := by decide +kernel
    rw [← fine]
    exact workspacePut.eq_def.symm
  have second : Records.put .marking writer .requestDetails "request" (.array [.null]) world
      (.ofDatabase workspacePut.2.database) = (.ok (), requestPut.2) := by
    have fine : requestPut.1 = .ok () := by decide +kernel
    rw [← fine]
    exact requestPut.eq_def.symm
  have texts := FirstSetup.textsListed
  exact .put (.put founded rfl texts.1 first) rfl texts.2 second

theorem trusted : Trusted .marking scope where
  exclusive _ _ _ _ _ _ _ _ _ _ written opened := CipherSuite.markingExclusive written opened
  plain key _ _ place _ _ standing label found := documentUnopened place standing label key found
  unlike _ _ _ _ _ draws _ written _ _ opened := by
    obtain ⟨_, rfl, draws⟩ := draws
    exact CipherSuite.zeroUnlike (drawsZero draws) written opened

/-- What the history comes to with one key of the standard suite, and with two keys. -/
theorem secondKeySurvives :
    (∃ setup after, Survives .standard FirstSetup.settings FirstSetup.world FirstSetup.point setup
      after) ∧
    ∃ setup after, Survives .marking settings world point setup after ∧
      setup.rotated = some 2 ∧ setup.deleted = ["retired"] := by
  constructor
  · obtain ⟨setup, after, ran, readable, _⟩ := FirstSetup.goesThrough
    obtain ⟨intact, later⟩ := historyLosesNothing CipherSuite.standardOpensSealed
      FirstSetup.alone.trusted FirstSetup.reached
    obtain ⟨states, opens⟩ := later FirstSetup.settings FirstSetup.world _ after
      ⟨rfl, FirstSetup.accepted, fun _ place => place⟩ ran
    exact ⟨setup, after, ⟨ran, intact, states, opens setup rfl readable⟩⟩
  · obtain ⟨intact, later⟩ :=
      historyLosesNothing CipherSuite.markingOpensSealed trusted reached
    have ran : Setup.run .marking settings world (.ofDatabase point.database) = turning := by
      rw [turning]
      rfl
    have ends : turning.1.toOption.map (fun setup =>
        (setup.rotated, setup.deleted, setup.unreadable.isEmpty)) =
          some (some 2, ["retired"], true) := by decide +kernel
    generalize turning = outcome at ran ends
    obtain ⟨error | setup, after⟩ := outcome
    · cases ends
    · obtain ⟨rotated, deleted, readable⟩ : setup.rotated = some 2 ∧
          setup.deleted = ["retired"] ∧ setup.unreadable = [] := by
        simpa [Except.toOption] using ends
      obtain ⟨states, opens⟩ := later settings world _ after
        ⟨rfl, accepted, fun _ place => List.mem_append_right _ place⟩ ran
      exact ⟨setup, after, ⟨ran, intact, states, opens setup rfl readable⟩, rotated, deleted⟩

end BrokerVault.SecondKey
